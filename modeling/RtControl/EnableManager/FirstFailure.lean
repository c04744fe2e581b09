import RtControl.EnableManager.Session

/-!
# The failure an enable reports

The first failure of a session is kept beside the run.  The controller stores it in the phase
that detects it and publishes it after the unwinding; the two agree as long as no fault hides
a failed JTC activation, whose flag is then left for the next session.
-/

namespace RtControl.EnableManager

open RtControl.Transition

/-! ## The property and its condition -/

/-- The enable callback returns from `switchJtc` without a success. -/
def failsActivation (s : System) (late : Bool) : Bool :=
  match s.enablePc with
  | .switch .acquire => s.switchInProgress || late
  | .switch .await => s.jtc.answer = some false || s.jtc.answer = none && late
  | _ => false

/-- The first failure detected since the session started: in a cycle by `sessionFailure`, in the
callback by an activation that fails while the session waits for it. -/
def logFirst (s : System) (event : Event) (_ : System) (first : Option Failure) : Option Failure :=
  match event with
  | .update now readings =>
      if s.active then
        if s.phase = .idle && s.enableRequest then none
        else first.or (sessionFailure now s.toController (refreshedWords readings))
      else first
  | .enable late =>
      if failsActivation s late && s.phase = .jtcActivating then
        first.or (some { stage := .jtcActivateFailed })
      else first
  | _ => first

/-- A refusal that is not a preemption reports the first failure of the session. -/
def ReportsFirst (config : Config) (s : System) (event : Event) (first : Option Failure) : Prop :=
  ∀ now readings, event = .update now readings →
    (s.toController.reports config now readings).enableResult.ready = true →
    (s.toController.reports config now readings).enableResult.ok = false →
    (s.toController.reports config now readings).enableResult.stage ≠ .preemptedByDisable →
    first = some (s.toController.reports config now readings).enableResult.failure

/-- Every step of every guarded run reports the first failure of its session. -/
def FirstFailureLaw (config : Config) (guard : Guard System Event) : Prop :=
  ∀ s t event first, Reachable (observed (blockStep config) logFirst) (onState guard)
      (configured, none) (s, first) →
    guard s event = true → blockStep config s event = some t →
    ReportsFirst config s event (logFirst s event t first)

/-- No cycle sees a fault in `kJtcActivating` while a failed activation is pending. -/
def activationUnmasked : Guard System Event := fun s event =>
  match event with
  | .update _ readings =>
      !(s.active && s.phase = .jtcActivating && s.jtcActivateFailedRequest &&
        anyFault (refreshedWords readings))
  | _ => true

/-! ## The law of the first failure -/

/-- The enable callback is done with the JTC. -/
def EnablePc.isReturned (pc : EnablePc) : Bool :=
  pc = .idle || pc = .wait .loadActive

/-- What the first failure is at each point of the session, and when the flag of a failed
activation is up. -/
structure FirstLaw (s : System) (first : Option Failure) : Prop where
  batches : s.session = .batches → first = none ∧ s.jtcActivateFailedRequest = false
  activating : s.session = .activating →
    first = none ∧ s.jtcActivateFailedRequest = false ∨
      first = some { stage := .jtcActivateFailed } ∧ s.jtcActivateFailedRequest = true ∧
        s.enablePc.isReturned = true
  unwinding : s.session = .unwinding →
    first = some s.primaryFailure ∧ s.jtcActivateFailedRequest = false
  ended : s.session = .ended → s.active = true → s.jtcActivateFailedRequest = false

namespace FirstLaw

variable {s t : System} {first : Option Failure}

/-- A step that keeps the members the law reads keeps the law. -/
theorem congr (law : FirstLaw s first) (session : t.session = s.session)
    (flag : t.jtcActivateFailedRequest = s.jtcActivateFailedRequest)
    (primary : t.primaryFailure = s.primaryFailure) (active : t.active = s.active)
    (returned : s.enablePc.isReturned = true → t.enablePc.isReturned = true) :
    FirstLaw t first := by
  rcases law with ⟨batches, activating, unwinding, ended⟩
  refine ⟨?_, ?_, ?_, ?_⟩
  · rw [session, flag]
    exact batches
  · rw [session, flag]
    exact fun waits => (activating waits).imp_right fun ⟨reported, raised, done⟩ =>
      ⟨reported, raised, returned done⟩
  · rw [session, flag, primary]
    exact unwinding
  · rw [session, flag, active]
    exact ended

/-- Without a session only the flag counts. -/
theorem of_ended (ended : t.session = .ended)
    (flag : t.active = true → t.jtcActivateFailedRequest = false) : FirstLaw t first := by
  refine ⟨?_, ?_, ?_, fun _ => flag⟩ <;> rw [ended] <;> exact nofun

theorem of_batches (batches : t.session = .batches) (down : t.jtcActivateFailedRequest = false) :
    FirstLaw t none := by
  refine ⟨fun _ => ⟨rfl, down⟩, ?_, ?_, ?_⟩ <;> rw [batches] <;> exact nofun

theorem of_activating (activating : t.session = .activating)
    (pending : first = none ∧ t.jtcActivateFailedRequest = false ∨
      first = some { stage := .jtcActivateFailed } ∧ t.jtcActivateFailedRequest = true ∧
        t.enablePc.isReturned = true) : FirstLaw t first := by
  refine ⟨?_, fun _ => pending, ?_, ?_⟩ <;> rw [activating] <;> exact nofun

theorem of_unwinding (unwinding : t.session = .unwinding)
    (down : t.jtcActivateFailedRequest = false) : FirstLaw t (some t.primaryFailure) := by
  refine ⟨?_, ?_, fun _ => ⟨rfl, down⟩, ?_⟩ <;> rw [unwinding] <;> exact nofun

end FirstLaw

/-! ## Cycles -/

section Cycles

variable {config : Config} {now : Int} {readings : Readings} {s : System} {first : Option Failure}

/-- No cycle raises the flag of a failed activation. -/
theorem jtcActivateFailedRequest_of_cycle {c d : Controller} (cycle : Cycle config now c d)
    (raised : d.jtcActivateFailedRequest = true) : c.jtcActivateFailedRequest = true := by
  cases cycle with
  | activateFailed => contradiction
  | _ => exact raised

/-- The first failure after a cycle of a running session. -/
theorem logFirst_update {session : Session} {detected : Option Failure} (active : s.active = true)
    (current : s.session = session) (running : session ≠ .ended)
    (found : sessionFailure now s.toController (refreshedWords readings) = detected) (t : System) :
    logFirst s (.update now readings) t first = first.or detected := by
  have busy : s.phase ≠ .idle := by
    intro idle
    exact running (current.symm.trans (Controller.session_of_phase idle))
  simp only [logFirst, if_pos active, decide_eq_false busy, Bool.false_and, Bool.false_eq_true,
    if_false, found]

/-- A failure that a cycle detects is the first one, unless it masks a failed activation. -/
theorem first_of_detected {failure : Failure} (law : FirstLaw s first)
    (running : s.session = .batches ∨ s.session = .activating)
    (unmasked : activationUnmasked s (.update now readings) = true) (active : s.active = true)
    (detected : sessionFailure now s.toController (refreshedWords readings) = some failure) :
    first = none ∧ s.jtcActivateFailedRequest = false := by
  rcases running with batches | activating
  · exact law.batches batches
  · rcases law.activating activating with clear | ⟨-, raised, -⟩
    · exact clear
    · have waits : s.phase = .jtcActivating := Controller.phase_of_activating activating
      have healthy : anyFault (refreshedWords readings) = false := by
        simpa [activationUnmasked, active, waits, raised] using unmasked
      rw [Controller.sessionFailure_of_healthy healthy (by rw [waits]; decide)] at detected
      contradiction

/-- Every unmasked cycle keeps the law. -/
theorem firstLaw_update (law : FirstLaw s first) (active : s.active = true)
    (unmasked : activationUnmasked s (.update now readings) = true)
    (lowered : (s.toController.update config now readings).jtcActivateFailedRequest = true →
      s.jtcActivateFailedRequest = true)
    (cycle : SessionCycle now (s.toController.refreshStatusWords readings)
      (s.toController.update config now readings)) (t : System)
    (next : t.toController = s.toController.update config now readings) :
    FirstLaw t (logFirst s (.update now readings) t first) := by
  have lowers (down : s.jtcActivateFailedRequest = false) : t.jtcActivateFailedRequest = false := by
    rw [next]
    exact Bool.eq_false_of_not_eq_true fun raised =>
      Bool.false_ne_true (down.symm.trans (lowered raised))
  rw [← next] at cycle
  cases cycle with
  | ended before after => exact .of_ended after fun _ => lowers (law.ended before active)
  | accept idle requested after =>
      have before : s.session = .ended := Controller.session_of_phase idle
      have started : logFirst s (.update now readings) t first = none := by
        simp only [logFirst, if_pos active, show s.phase = .idle from idle,
          show s.enableRequest = true from requested, decide_true, Bool.and_self, if_true]
      rw [started]
      exact .of_batches (Controller.session_of_phase after) (lowers (law.ended before active))
  | advance before after clean =>
      obtain ⟨unset, down⟩ := law.batches before
      rw [logFirst_update active before nofun clean, unset]
      exact .of_batches after (lowers down)
  | ready before after clean =>
      obtain ⟨unset, down⟩ := law.batches before
      rw [logFirst_update active before nofun clean, unset]
      exact .of_activating (Controller.session_of_phase after) (.inl ⟨rfl, lowers down⟩)
  | preempt before after | failPreempted failure before after =>
      obtain ⟨-, down⟩ := law.batches before
      exact .of_ended (Controller.session_of_phase after) fun _ => lowers down
  | fail failure before after _ detected primary =>
      obtain ⟨unset, down⟩ := first_of_detected law before unmasked active detected
      have running : s.session ≠ .ended := by
        rcases before with before | before <;> rw [show s.session = _ from before] <;> nofun
      rw [logFirst_update active rfl running detected, unset, Option.none_or, ← primary]
      exact .of_unwinding after (lowers down)
  | wait before after clean unrequested =>
      have activating : s.session = .activating := Controller.session_of_phase before
      rcases law.activating activating with ⟨unset, down⟩ | ⟨-, raised, -⟩
      · rw [logFirst_update active activating nofun clean, unset]
        exact .of_activating (Controller.session_of_phase after) (.inl ⟨rfl, lowers down⟩)
      · exact absurd (raised.symm.trans unrequested) Bool.true_eq_false.mp
  | activateFailed before after clean requested consumed primary =>
      have activating : s.session = .activating := Controller.session_of_phase before
      rcases law.activating activating with ⟨-, down⟩ | ⟨reported, -, -⟩
      · exact absurd (down.symm.trans requested) Bool.false_ne_true
      · rw [logFirst_update active activating nofun clean, reported, Option.or_none, ← primary]
        exact .of_unwinding after consumed
  | unwind before after primary =>
      obtain ⟨reported, down⟩ := law.unwinding before
      rw [logFirst_update active before nofun rfl, reported, Option.some_or,
        show s.primaryFailure = t.primaryFailure from primary.symm]
      exact .of_unwinding after (lowers down)
  | finish before after =>
      obtain ⟨-, down⟩ := law.unwinding before
      exact .of_ended after fun _ => lowers down

/-- A cycle reports the first failure. -/
theorem reportsFirst_update (law : FirstLaw s first) (active : s.active = true)
    (cycle : SessionCycle now (s.toController.unreported.refreshStatusWords readings)
      (s.toController.reports config now readings)) (t : System) :
    ReportsFirst config s (.update now readings)
      (logFirst s (.update now readings) t first) := by
  rintro _ _ ⟨rfl, rfl⟩ ready refused other
  have unpublished (answer : (s.toController.reports config now readings).enableResult =
      ({} : ResultSlot)) : False := by
    rw [answer] at ready
    exact Bool.false_ne_true ready
  cases cycle with
  | ended before after answer => exact (unpublished answer).elim
  | accept idle requested after answer => exact (unpublished answer).elim
  | advance before after clean sampled batch answer => exact (unpublished answer).elim
  | ready before after clean unpreempted answer => exact (unpublished answer).elim
  | preempt before after clean complete preempted answer =>
      rw [answer] at other
      exact absurd rfl other
  | failPreempted failure before after detected preempted answer =>
      obtain ⟨unset, -⟩ := law.batches before
      rw [logFirst_update active before nofun detected, unset, answer]
      rfl
  | fail failure before after _ detected primary answer => exact (unpublished answer).elim
  | wait before after clean unrequested answer => exact (unpublished answer).elim
  | activateFailed before after clean requested consumed primary answer =>
      exact (unpublished answer).elim
  | unwind before after primary answer => exact (unpublished answer).elim
  | finish before after answer =>
      obtain ⟨reported, -⟩ := law.unwinding before
      rw [logFirst_update active before nofun rfl, reported, answer]
      rfl

end Cycles

/-! ## Block-wise runs -/

section Moves

variable {config : Config} {s t : System} {event : Event} {late : Bool} {first : Option Failure}

attribute [local simp] runOn blockLength settle EnablePc.yields System.enableStep
  System.switchStep in
/-- A callback whose activation fails goes on to wait for the result. -/
theorem enablePc_of_failsActivation (failing : failsActivation s late = true) :
    (runOn (.enable late) (s.enableStep late)).enablePc = .wait .loadActive := by
  unfold failsActivation at failing
  split at failing
  next calling =>
    by_cases activating : s.phase = .jtcActivating <;>
      cases busy : s.switchInProgress <;> cases late <;> simp_all
  next awaiting =>
    by_cases activating : s.phase = .jtcActivating <;>
      cases answer : s.jtc.answer <;> cases late <;> simp_all
  next => contradiction

/-- A failed activation is the first failure of the session that waits for it. -/
theorem firstLaw_failedActivation (law : FirstLaw s first)
    (calling : s.enablePc.isReturned = false)
    (failing : failsActivation s late = true)
    (session : t.session = s.session) (primary : t.primaryFailure = s.primaryFailure)
    (active : t.active = s.active) (returned : t.enablePc.isReturned = true)
    (flag : t.jtcActivateFailedRequest =
      (s.jtcActivateFailedRequest || s.phase = .jtcActivating)) :
    FirstLaw t (logFirst s (.enable late) t first) := by
  simp only [logFirst, failing, Bool.true_and, decide_eq_true_eq]
  by_cases waits : s.phase = .jtcActivating
  · have activating : s.session = .activating := Controller.session_of_phase waits
    rw [if_pos waits]
    rw [decide_eq_true waits, Bool.or_true] at flag
    rcases law.activating activating with ⟨unset, -⟩ | ⟨-, -, done⟩
    · rw [unset]
      exact .of_activating (session.trans activating) (.inr ⟨rfl, flag, returned⟩)
    · exact absurd (calling.symm.trans done) Bool.false_ne_true
  · rw [if_neg waits]
    rw [decide_eq_false waits, Bool.or_false] at flag
    exact law.congr session flag primary active fun _ => returned

theorem firstLaw_enable (law : FirstLaw s first)
    (fails : failsActivation s late = true → t.enablePc = .wait .loadActive)
    (block : EnableBlock s late t) : FirstLaw t (logFirst s (.enable late) t first) := by
  have logged (quiet : failsActivation s late = false) (kept : FirstLaw t first) :
      FirstLaw t (logFirst s (.enable late) t first) := by
    simp only [logFirst, quiet, Bool.false_and, Bool.false_eq_true, if_false]
    exact kept
  have foreign {pc : EnablePc} (current : s.enablePc = pc) (calling : pc.isReturned = false) :
      s.enablePc.isReturned = true → t.enablePc.isReturned = true := by
    rw [current, calling]
    exact nofun
  cases block with
  | stay =>
      refine logged (Bool.eq_false_of_not_eq_true fun failing => ?_) law
      simp [failsActivation, fails failing] at failing
  | refuse response fresh =>
      exact logged (by simp [failsActivation, fresh]) (law.congr rfl rfl rfl rfl fun _ => rfl)
  | accept fresh active running resting free =>
      exact logged (by simp [failsActivation, fresh])
        (.of_ended (Controller.session_of_phase resting)
          (law.ended (Controller.session_of_phase resting)))
  | returnFirst response polling =>
      exact logged (by simp [failsActivation, polling]) (law.congr rfl rfl rfl rfl fun _ => rfl)
  | proceed polling =>
      exact logged (by simp [failsActivation, polling])
        (law.congr rfl rfl rfl rfl (foreign polling rfl))
  | send calling free prompt =>
      exact logged (by simp [failsActivation, calling, free, prompt])
        (law.congr rfl rfl rfl rfl (foreign calling rfl))
  | unsent calling blocked =>
      exact firstLaw_failedActivation law (by rw [calling]; rfl)
        (by simpa [failsActivation, calling] using blocked) rfl rfl rfl rfl rfl
  | lapse awaiting unanswered expired =>
      exact firstLaw_failedActivation law (by rw [awaiting]; rfl)
        (by simp [failsActivation, awaiting, unanswered, expired]) rfl rfl rfl rfl rfl
  | declined awaiting answered =>
      exact firstLaw_failedActivation law (by rw [awaiting]; rfl)
        (by simp [failsActivation, awaiting, answered]) rfl rfl rfl rfl rfl
  | complete awaiting answered activating =>
      refine logged (by simp [failsActivation, awaiting, answered]) (.of_ended rfl fun _ => ?_)
      rcases law.activating (Controller.session_of_phase activating) with ⟨-, down⟩ | ⟨-, -, done⟩
      · exact down
      · rw [awaiting] at done
        cases done
  | overtaken awaiting answered left =>
      exact logged (by simp [failsActivation, awaiting, answered])
        (law.congr rfl rfl rfl rfl fun _ => rfl)
  | returnLast response waiting =>
      exact logged (by simp [failsActivation, waiting]) (law.congr rfl rfl rfl rfl fun _ => rfl)

theorem firstLaw_callEnable (law : FirstLaw s first) (block : EnableBlock s false t)
    (fresh : s.enablePc = .idle ∨ t = s) : FirstLaw t first := by
  rcases fresh with idle | same
  · have kept := firstLaw_enable law (by simp [failsActivation, idle]) block
    simpa [logFirst, failsActivation, idle] using kept
  · exact same ▸ law

theorem firstLaw_disable (law : FirstLaw s first) (block : DisableBlock s late t) :
    FirstLaw t first := by
  cases block with
  | takeEnabled fresh active enabled free =>
      exact .of_ended rfl (law.ended (Controller.session_of_phase enabled))
  | _ => exact law.congr rfl rfl rfl rfl id

theorem firstLaw_reset (law : FirstLaw s first) (block : ResetBlock s late t) :
    FirstLaw t first := by
  cases block <;> exact law.congr rfl rfl rfl rfl id

theorem firstLaw_worker (law : FirstLaw s first) (block : WorkerBlock s event t) :
    FirstLaw t first := by
  cases block <;> exact law.congr rfl rfl rfl rfl id

/-- What holds of the session and its first failure between two steps. -/
structure FirstFailureKept (s : System) (first : Option Failure) : Prop where
  results : ResultLaw s.toController
  owned : s.SessionOwned
  first : FirstLaw s first

theorem firstLaw_of_step (law : FirstFailureKept s first)
    (allowed : activationUnmasked s event = true) (step : blockStep config s event = some t)
    (move : BlockMove config s event t) : FirstLaw t (logFirst s event t first) := by
  cases move with
  | skip now readings inactive =>
      simp only [logFirst, inactive, Bool.false_eq_true, if_false]
      exact law.first
  | update now readings c active cycle =>
      have computed : s.toController.update config now readings = c :=
        congrArg System.toController (Option.some.inj step)
      rw [← computed] at cycle ⊢
      exact firstLaw_update law.first active allowed
        (fun raised => jtcActivateFailedRequest_of_cycle
          (c := s.toController.refreshStatusWords readings) cycle raised)
        (Controller.sessionCycle_of_update active law.owned law.results) _ rfl
  | callEnable t block fresh => exact firstLaw_callEnable law.first block fresh
  | enable late t running block =>
      refine firstLaw_enable law.first (fun failing => ?_) block
      rw [blockStep, atomicStep, if_neg running, Option.map_some, Option.some.injEq] at step
      rw [← step]
      exact enablePc_of_failsActivation failing
  | callDisable t block | disable late t running block => exact firstLaw_disable law.first block
  | callReset t block | reset late t running block => exact firstLaw_reset law.first block
  | fireWorker t block | callWorker late t block | resumeWorker late t block
  | latchRestart t block => exact firstLaw_worker law.first block
  | controllerManager => exact law.first.congr rfl rfl rfl rfl id
  | activate => exact .of_ended rfl fun _ => rfl
  | deactivate => exact .of_ended rfl fun active => absurd active Bool.false_ne_true

theorem firstFailureKept_of_step (law : FirstFailureKept s first)
    (allowed : activationUnmasked s event = true) (step : blockStep config s event = some t)
    (move : BlockMove config s event t) : FirstFailureKept t (logFirst s event t first) :=
  ⟨resultLaw_of_step law.results step move, sessionOwned_of_move law.owned move,
    firstLaw_of_step law allowed step move⟩

end Moves

/-- In every run in which no cycle sees a fault in `kJtcActivating` while a failed activation is
pending, every refused session reports the first failure it has detected. -/
theorem firstFailureLaw_of_activationUnmasked (config : Config) :
    FirstFailureLaw config activationUnmasked := by
  intro s t event first reachable allowed step
  have initial : FirstFailureKept configured none :=
    ⟨resultLaw_configured, ⟨trivial, nofun⟩, .of_ended rfl nofun⟩
  have law : FirstFailureKept s first := by
    refine (observed_step_invariant FirstFailureKept parked_configured initial ?_ reachable).2
    intro source target history event _ law allowed step move
    exact firstFailureKept_of_step law allowed step move
  rintro now readings rfl
  by_cases active : s.active = true
  · exact reportsFirst_update law.first active
      (Controller.sessionCycle_reports active law.owned law.results) t now readings rfl
  · have stopped : s.toController.unreported.active = false := Bool.eq_false_of_not_eq_true active
    intro ready
    rw [Controller.reports, Controller.update_inactive _ _ _ readings stopped] at ready
    contradiction

/-- A batch that expires on its first axis is reported after the rollback. -/
theorem firstFailureLaw_of_batchTimeout :
    ∃ s first, Reachable (observed (blockStep defaultConfig) logFirst) (onState activationUnmasked)
        (configured, none) (s, first) ∧
      (s.toController.reports defaultConfig 18000000000 (everyAxis 0x0040)).enableResult.stage =
        .enableBatchTimeout ∧
      logFirst s (.update 18000000000 (everyAxis 0x0040)) s first =
        some (s.toController.reports defaultConfig 18000000000
          (everyAxis 0x0040)).enableResult.failure := by
  have found : (run (observed (blockStep defaultConfig) logFirst) (onState activationUnmasked)
      (configured, none) ([Event.activate] ++ startupCycles ++ [Event.callEnable] ++
        cycles 0x0040 [10, 15, 16, 17])).any
      (fun current =>
        let slot := (current.1.toController.reports defaultConfig 18000000000
          (everyAxis 0x0040)).enableResult
        activationUnmasked current.1 (.update 18000000000 (everyAxis 0x0040)) && slot.ready &&
          !slot.ok && slot.stage = .enableBatchTimeout) = true := by
    decide +kernel
  rcases exists_reachable_of_run found with ⟨⟨s, first⟩, reachable, tested⟩
  simp only [Bool.and_eq_true, Bool.not_eq_true', decide_eq_true_eq] at tested
  rcases tested with ⟨⟨⟨allowed, ready⟩, refused⟩, expired⟩
  have law := firstFailureLaw_of_activationUnmasked defaultConfig s _ _ first reachable allowed rfl
  exact ⟨s, first, reachable, expired,
    law _ _ rfl ready refused (by rw [expired]; exact Stage.noConfusion)⟩

/-- A session whose JTC activation is declined just before a fault: the emergency ends in idle and
leaves the flag of the failed activation.  A second session on conforming drives takes it up. -/
def maskedActivation : List Event :=
  [Event.activate] ++ startupCycles ++ [Event.callEnable] ++ batchCycles ++
    [Event.enable false, .enable false, .controllerManager false false, .enable false,
      .update 20000000000 (firstFaulted 0x0027)] ++
    cycles 0x0040 [21, 22, 23, 24] ++ [Event.enable false, .callEnable] ++
    cycles 0x0040 [30] ++ cycles 0x0027 [31, 32, 33, 34, 35, 36, 37, 38, 39, 40] ++
    cycles 0x0040 [41, 42]

/-- The second session reports a failure although it has detected none. -/
theorem not_firstFailureLaw_of_maskedActivation : ¬FirstFailureLaw defaultConfig unguarded := by
  intro always
  have found : (run (observed (blockStep defaultConfig) logFirst) (onState unguarded)
      (configured, none) maskedActivation).any
      (fun current =>
        let slot := (current.1.toController.reports defaultConfig 43000000000
          (everyAxis 0x0040)).enableResult
        slot.ready && !slot.ok && slot.stage = .jtcActivateFailed &&
          logFirst current.1 (.update 43000000000 (everyAxis 0x0040)) current.1 current.2 = none) =
      true := by
    decide +kernel
  rcases exists_reachable_of_run found with ⟨⟨s, first⟩, reachable, tested⟩
  simp only [Bool.and_eq_true, Bool.not_eq_true', decide_eq_true_eq] at tested
  rcases tested with ⟨⟨⟨ready, refused⟩, reported⟩, unset⟩
  have named := always s _ _ first reachable rfl rfl _ _ rfl ready refused
    (by rw [reported]; exact Stage.noConfusion)
  have detected : logFirst s (.update 43000000000 (everyAxis 0x0040)) s first =
      some (s.toController.reports defaultConfig 43000000000
        (everyAxis 0x0040)).enableResult.failure := named
  rw [unset] at detected
  exact Option.some_ne_none _ detected.symm

end RtControl.EnableManager
