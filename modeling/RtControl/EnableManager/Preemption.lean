import RtControl.EnableManager.EnableCommands
import RtControl.EnableManager.Session

/-!
# Disable preempts enable

A disable that is admitted while the batches run is remembered in a flag.  The current batch may
finish or fail, no later one starts, and the enable caller is answered once.  What happens from
the admission on is kept beside the run until the next session starts or the controller is
activated or deactivated.
-/

namespace RtControl.EnableManager

open RtControl.Transition

/-! ## The history of a preempted session -/

/-- What is recorded from the admission of a disable on: the batch at that time, the failure
detected since, whether the batch was seen complete, the refusals published to the enable, and
the cycles that found their deadline passed before the first of them. -/
structure Preemption where
  batch : Nat
  failed : Option Failure := none
  completed : Bool := false
  answers : List ResultSlot := []
  expiries : Nat := 0

/-- The refusals of the enable that a cycle publishes. -/
def refusals (config : Config) (now : Int) (readings : Readings) (s : Controller) :
    List ResultSlot :=
  let slot := (s.reports config now readings).enableResult
  if slot.ready && !slot.ok then [slot] else []

/-- The history after one more cycle. -/
def Preemption.observe (config : Config) (now : Int) (readings : Readings) (s : System)
    (log : Preemption) : Preemption where
  batch := log.batch
  failed := log.failed.or (sessionFailure now s.toController (refreshedWords readings))
  completed := log.completed ||
    s.phase.isEnabling && s.toController.completesBatch (refreshedWords readings)
  answers := log.answers ++ refusals config now readings s.toController
  expiries :=
    if log.answers.isEmpty && expires s (.update now readings) then log.expiries + 1
    else log.expiries

/-- A disable call is admitted while the batches run: it goes on to wait for its result. -/
def admitsPreemption (s t : System) : Bool :=
  s.phase.isEnabling && s.disablePc = .idle && t.disablePc ≠ .idle

/-- The history of the preempted session, if there is one. -/
def logPreemption (config : Config) (s : System) (event : Event) (t : System)
    (log : Option Preemption) : Option Preemption :=
  match event with
  | .update now readings =>
      if s.active && s.phase = .idle && s.enableRequest then none
      else log.map (Preemption.observe config now readings s)
  | .callDisable =>
      if admitsPreemption s t then log.or (some { batch := s.currentBatch }) else log
  | .activate | .deactivate => none
  | _ => log

/-- The control word steps an axis up from its reported state. -/
def stepsUp (state : DriveState) (word : UInt16) : Bool :=
  (state = .switchOnDisabled && word = 0x0006) ||
    (state = .readyToSwitchOn && (word = 0x0007 || word = 0x000F)) ||
    (state = .switchedOn && word = 0x000F)

/-- The answer to an enable that a disable has preempted, with every field cleared. -/
def preemptedAnswer : ResultSlot :=
  Controller.published false { stage := .preemptedByDisable }

/-- What holds of a state with a preempted session. -/
structure Preempted (s : System) (log : Preemption) : Prop where
  batch : s.currentBatch = log.batch
  short : s.phase ≠ .jtcActivating ∧ s.phase ≠ .enabled
  once : log.answers.length ≤ 1
  running : log.answers = [] → s.phase.isEnabling = true ∨
    s.phase.isEmergency = true ∧ s.interruptedOwner = .enable
  preempted : ∀ slot ∈ log.answers,
    (slot.stage = .preemptedByDisable ↔ log.failed = none ∧ log.completed = true) ∧
      (slot.stage = .preemptedByDisable → slot = preemptedAnswer)
  reported : ∀ slot ∈ log.answers, ∀ failure, log.failed = some failure →
    slot = Controller.published false failure

/-! ## The law of a preempted session -/

/-- The enable has been answered, once. -/
inductive Preemption.Answered (log : Preemption) : Prop
  /-- Nothing has failed before the batch was complete. -/
  | preempted
      (clean : log.failed = none)
      (completed : log.completed = true)
      (answers : log.answers = [preemptedAnswer])
  /-- The failure is reported. -/
  | failed (failure : Failure)
      (detected : log.failed = some failure)
      (other : failure.stage ≠ .preemptedByDisable)
      (answers : log.answers = [Controller.published false failure])

/-- What holds of a preempted session between two steps. -/
structure PreemptionLaw (s : System) (log : Preemption) : Prop where
  active : s.active = true
  batch : s.currentBatch = log.batch
  short : s.phase.isHeld = false ∧ s.session ≠ .activating
  batches : s.session = .batches →
    log.answers = [] ∧ log.failed = none ∧ s.toController.preempted = true
  unwinding : s.session = .unwinding →
    log.answers = [] ∧ log.failed = some s.primaryFailure ∧
      s.primaryFailure.stage ≠ .preemptedByDisable ∧ s.phase.isEmergency = true
  ended : s.session = .ended → log.Answered

namespace PreemptionLaw

variable {s t : System} {log : Preemption}

/-- A callback that keeps what the law reads keeps the law; it may raise a disable request. -/
theorem congr (law : PreemptionLaw s log) (active : t.active = s.active)
    (batch : t.currentBatch = s.currentBatch) (phase : t.phase = s.phase)
    (interrupted : t.interruptedOwner = s.interruptedOwner)
    (primary : t.primaryFailure = s.primaryFailure)
    (pending : s.toController.preempted = true → t.toController.preempted = true) :
    PreemptionLaw t log := by
  have session : t.session = s.session := by
    rw [Controller.session, Controller.session, phase, interrupted]
  rcases law with ⟨running, counted, short, batches, unwinding, ended⟩
  refine ⟨active.trans running, batch.trans counted, ?_, ?_, ?_, ?_⟩
  · rw [phase, session]
    exact short
  · rw [session]
    exact fun before => (batches before).imp_right fun both => ⟨both.1, pending both.2⟩
  · rw [session, primary, phase]
    exact unwinding
  · rw [session]
    exact ended

/-- An answered session is over. -/
theorem of_ended (active : t.active = true) (batch : t.currentBatch = log.batch)
    (held : t.phase.isHeld = false) (ended : t.session = .ended) (answered : log.Answered) :
    PreemptionLaw t log := by
  refine ⟨active, batch, ⟨held, ?_⟩, ?_, ?_, fun _ => answered⟩ <;> rw [ended] <;> exact nofun

theorem of_batches (active : t.active = true) (batch : t.currentBatch = log.batch)
    (held : t.phase.isHeld = false) (batches : t.session = .batches)
    (open_ : log.answers = [] ∧ log.failed = none) (pending : t.toController.preempted = true) :
    PreemptionLaw t log := by
  refine ⟨active, batch, ⟨held, ?_⟩, fun _ => ⟨open_.1, open_.2, pending⟩, ?_, ?_⟩ <;>
    rw [batches] <;> exact nofun

theorem of_unwinding (active : t.active = true) (batch : t.currentBatch = log.batch)
    (held : t.phase.isHeld = false) (unwinding : t.session = .unwinding)
    (failed : log.answers = [] ∧ log.failed = some t.primaryFailure ∧
      t.primaryFailure.stage ≠ .preemptedByDisable ∧ t.phase.isEmergency = true) :
    PreemptionLaw t log := by
  refine ⟨active, batch, ⟨held, ?_⟩, ?_, fun _ => failed, ?_⟩ <;> rw [unwinding] <;> exact nofun

/-- A session that is not answered runs its batches or unwinds. -/
theorem standing (law : PreemptionLaw s log) (unanswered : log.answers = []) :
    s.session = .batches ∨ s.session = .unwinding := by
  cases session : s.session with
  | ended =>
      cases law.ended session with
      | preempted _ _ answers | failed _ _ _ answers =>
          exact absurd (unanswered.symm.trans answers) (List.cons_ne_nil _ _).symm
  | batches => exact .inl rfl
  | activating => exact absurd session law.short.2
  | unwinding => exact .inr rfl

/-- What the law says of the answer to the enable. -/
theorem answered (law : PreemptionLaw s log) : log.answers = [] ∨ log.Answered := by
  cases session : s.session with
  | ended => exact .inr (law.ended session)
  | batches => exact .inl (law.batches session).1
  | activating => exact absurd session law.short.2
  | unwinding => exact .inl (law.unwinding session).1

end PreemptionLaw

/-- The law gives what holds of a preempted session. -/
theorem preempted_of_law {s : System} {log : Preemption} (law : PreemptionLaw s log) :
    Preempted s log := by
  have phases : s.phase ≠ .jtcActivating ∧ s.phase ≠ .enabled := by
    refine ⟨fun activating => law.short.2 (Controller.session_of_phase activating), ?_⟩
    intro enabled
    have held := law.short.1
    rw [enabled] at held
    contradiction
  refine ⟨law.batch, phases, ?_, ?_, ?_, ?_⟩
  · rcases law.answered with unanswered | ⟨_, _, answers⟩ | ⟨_, _, _, answers⟩
    · rw [unanswered]
      exact Nat.zero_le 1
    · rw [answers]
      exact le_refl 1
    · rw [answers]
      exact le_refl 1
  · intro unanswered
    rcases law.standing unanswered with batches | unwinding
    · exact .inl (Controller.isEnabling_of_session batches)
    · have emergency := (law.unwinding unwinding).2.2.2
      refine .inr ⟨emergency, ?_⟩
      unfold Controller.session at unwinding
      revert unwinding emergency
      cases s.phase <;> simp [Phase.session, Phase.isEmergency]
  · intro slot published
    rcases law.answered with unanswered | ⟨clean, completed, answers⟩ |
      ⟨failure, detected, other, answers⟩
    · rw [unanswered] at published
      contradiction
    · rw [answers, List.mem_singleton] at published
      subst published
      exact ⟨iff_of_true rfl ⟨clean, completed⟩, fun _ => rfl⟩
    · rw [answers, List.mem_singleton] at published
      subst published
      refine ⟨iff_of_false other ?_, fun preempted => absurd preempted other⟩
      rintro ⟨clean, -⟩
      exact Option.some_ne_none failure (detected.symm.trans clean)
  · intro slot published failure named
    rcases law.answered with unanswered | ⟨clean, _, _⟩ | ⟨first, detected, other, answers⟩
    · rw [unanswered] at published
      contradiction
    · exact absurd (named.symm.trans clean) (Option.some_ne_none failure)
    · rw [answers, List.mem_singleton] at published
      cases Option.some.inj (named.symm.trans detected)
      exact published

/-! ## Cycles -/

section Cycles

variable {config : Config} {now : Int} {readings : Readings} {s : System} {log : Preemption}

theorem Phase.not_isHeld_of_isEmergency {phase : Phase} (emergency : phase.isEmergency = true) :
    phase.isHeld = false := by
  revert emergency
  cases phase <;> decide

/-- No cycle enters the held phases. -/
theorem isHeld_of_cycle {c d : Controller} (cycle : Cycle config now c d)
    (held : d.phase.isHeld = true) : c.phase.isHeld = true := by
  cases cycle with
  | hold | holdEnable | idleAlreadyClear | idleAlreadyDisabled => exact held
  | monitor _ _ _ _ _ _ _ _ entered =>
      exact absurd held (Bool.eq_false_iff.mp (Phase.not_isHeld_of_isEmergency entered))
  | finishStartup _ _ _ _ _ _ settled | finishDisabling _ _ _ _ _ _ _ _ settled
  | finishRollback _ _ _ _ _ _ settled | finishEmergency _ _ _ _ _ _ _ _ _ _ _ settled
  | finishReset _ _ _ _ _ _ _ settled =>
      rcases settled with rfl | ⟨rfl, -⟩ <;> cases held
  | _ => cases held

theorem currentBatch_of_flow {c d : Controller} (flow : BatchFlow c d)
    (after : d.phase.isEnabling = false) : d.currentBatch = c.currentBatch := by
  cases flow with
  | outside _ batch => exact batch
  | hold _ _ batch => exact batch
  | ready _ _ batch => exact batch
  | accept _ phase | next _ phase | complete _ phase =>
      rw [phase] at after
      cases after

/-- A failure of the session is never the mark of a preemption. -/
theorem sessionFailure_stage {c : Controller} {words : Words} {failure : Failure}
    (detected : sessionFailure now c words = some failure) :
    failure.stage ≠ .preemptedByDisable := by
  unfold sessionFailure at detected
  split at detected
  · split at detected
    · cases detected
      exact Stage.noConfusion
    · split at detected
      · split at detected
        · cases detected
          exact Stage.noConfusion
        · split at detected
          · rw [Option.map_eq_some_iff] at detected
            rcases detected with ⟨axis, -, rfl⟩
            exact Stage.noConfusion
          · contradiction
      · contradiction
  · contradiction

/-- A cycle that publishes nothing to the enable refuses nothing. -/
theorem refusals_eq_nil
    (answer : (s.toController.reports config now readings).enableResult = ({} : ResultSlot)) :
    refusals config now readings s.toController = [] := by
  rw [refusals, answer]
  rfl

theorem refusals_eq_singleton {failure : Failure}
    (answer : (s.toController.reports config now readings).enableResult =
      Controller.published false failure) :
    refusals config now readings s.toController = [Controller.published false failure] := by
  rw [refusals, answer]
  rfl

/-- Without a session a cycle adds nothing to the history. -/
theorem observe_answered (ended : s.session = .ended) (answered : log.Answered)
    (answer : (s.toController.reports config now readings).enableResult = ({} : ResultSlot)) :
    (log.observe config now readings s).Answered := by
  have outside : s.phase.isEnabling = false := by
    by_contra enabling
    have batches := Controller.session_of_isEnabling (Bool.eq_true_of_not_eq_false enabling)
    exact Session.noConfusion (ended.symm.trans batches)
  have quiet : sessionFailure now s.toController (refreshedWords readings) = none :=
    Controller.sessionFailure_of_ended ended
  have kept : (log.observe config now readings s).failed = log.failed ∧
      (log.observe config now readings s).completed = log.completed ∧
      (log.observe config now readings s).answers = log.answers := by
    simp only [Preemption.observe, quiet, outside, refusals_eq_nil answer, Option.or_none,
      Bool.false_and, Bool.or_false, List.append_nil, and_self]
  obtain ⟨failed, completed, answers⟩ := kept
  cases answered with
  | preempted clean done answered =>
      exact .preempted (failed.trans clean) (completed.trans done) (answers.trans answered)
  | failed failure detected other answered =>
      exact .failed failure (failed.trans detected) other (answers.trans answered)

/-- Every cycle that starts no session keeps the law. -/
theorem preemptionLaw_update (law : PreemptionLaw s log) (owned : s.SessionOwned)
    (results : ResultLaw s.toController)
    (waits : s.phase = .idle → s.enableRequest = true → False) :
    PreemptionLaw { s with toController := s.toController.update config now readings }
      (log.observe config now readings s) := by
  have reported := s.toController.update_eq_reports_onto config now readings
  have outcome := s.toController.update_outcome config now readings law.active
  have cycle := s.toController.update_cycle config now readings law.active
  have held : (s.toController.update config now readings).phase.isHeld = false := by
    by_contra entered
    have stood := isHeld_of_cycle cycle (Bool.eq_true_of_not_eq_false entered)
    exact Bool.false_ne_true (law.short.1.symm.trans stood)
  have counted (after : (s.toController.update config now readings).phase.isEnabling = false) :
      (s.toController.update config now readings).currentBatch = log.batch :=
    (currentBatch_of_flow (Controller.batchFlow_of_outcome outcome) after).trans law.batch
  have active : (s.toController.update config now readings).active = true :=
    (Controller.untouched_of_cycle cycle).active.trans law.active
  rw [reported] at held counted active ⊢
  have flow : SessionCycle now (s.toController.unreported.refreshStatusWords readings)
      (s.toController.reports config now readings) :=
    Controller.sessionCycle_reports law.active owned results
  have apart {session : Session} (current : (s.toController.reports config now readings).session =
      session) (other : session ≠ .batches) :
      (s.toController.reports config now readings).phase.isEnabling = false :=
    Controller.not_isEnabling_of_session (current ▸ other)
  cases flow with
  | ended before after answer =>
      exact .of_ended active (counted (apart after nofun)) held after
        (observe_answered before (law.ended before) answer)
  | accept idle requested => exact (waits idle requested).elim
  | advance before after clean sampled batch answer =>
      obtain ⟨unanswered, unfailed, pending⟩ := law.batches before
      have stays : (s.toController.reports config now readings).currentBatch = s.currentBatch := by
        rcases batch with ⟨same, -⟩ | unpreempted
        · exact same
        · exact absurd (unpreempted.symm.trans pending) Bool.false_ne_true
      refine .of_batches active (stays.trans law.batch) held after ⟨?_, ?_⟩ ?_
      · simp only [Preemption.observe, unanswered, refusals_eq_nil answer, List.append_nil]
      · exact (congrArg₂ Option.or unfailed clean).trans rfl
      · exact Bool.or_eq_true_iff.mpr (.inl (sampled.trans pending))
  | ready before after clean unpreempted =>
      obtain ⟨-, -, pending⟩ := law.batches before
      exact absurd (unpreempted.symm.trans pending) Bool.false_ne_true
  | preempt before after clean complete preempted answer =>
      obtain ⟨unanswered, unfailed, -⟩ := law.batches before
      have ended := Controller.session_of_phase after
      refine .of_ended active (counted (apart ended nofun)) held ended (.preempted ?_ ?_ ?_)
      · exact (congrArg₂ Option.or unfailed clean).trans rfl
      · have enabling : s.phase.isEnabling = true := Controller.isEnabling_of_session before
        have done : s.toController.completesBatch (refreshedWords readings) = true := complete
        simp only [Preemption.observe, enabling, done, Bool.and_self, Bool.or_true]
      · simp only [Preemption.observe, unanswered, refusals_eq_singleton answer, List.nil_append]
        rfl
  | failPreempted failure before after detected preempted answer =>
      obtain ⟨unanswered, unfailed, -⟩ := law.batches before
      have ended := Controller.session_of_phase after
      refine .of_ended active (counted (apart ended nofun)) held ended
        (.failed failure ?_ (sessionFailure_stage detected) ?_)
      · exact (congrArg₂ Option.or unfailed detected).trans rfl
      · simp only [Preemption.observe, unanswered, refusals_eq_singleton answer, List.nil_append]
  | fail failure before after stops detected primary answer =>
      have batches : s.session = .batches := before.resolve_right law.short.2
      obtain ⟨unanswered, unfailed, pending⟩ := law.batches batches
      refine .of_unwinding active (counted (apart after nofun)) held after ⟨?_, ?_, ?_, ?_⟩
      · simp only [Preemption.observe, unanswered, refusals_eq_nil answer, List.append_nil]
      · exact (congrArg₂ Option.or unfailed (detected.trans (congrArg some primary.symm))).trans rfl
      · have other := sessionFailure_stage detected
        rw [← primary] at other
        exact other
      · have stopped := stops batches pending
        exact (congrArg Phase.isEmergency stopped).trans rfl
  | wait before => exact absurd (Controller.session_of_phase before) law.short.2
  | activateFailed before => exact absurd (Controller.session_of_phase before) law.short.2
  | unwind before after primary answer =>
      obtain ⟨unanswered, failed, other, stopping⟩ := law.unwinding before
      refine .of_unwinding active (counted (apart after nofun)) held after ⟨?_, ?_, ?_, ?_⟩
      · simp only [Preemption.observe, unanswered, refusals_eq_nil answer, List.append_nil]
      · exact (congrArg (Option.or · _) failed).trans (congrArg some primary.symm)
      · exact fun preempted => other ((congrArg Failure.stage primary).symm.trans preempted)
      · have stays := emergency_of_cycle cycle stopping
        rw [reported] at stays
        rcases stays with emergency | ⟨-, idle | failed⟩
        · exact emergency
        · exact Session.noConfusion (after.symm.trans (Controller.session_of_phase idle))
        · exact Session.noConfusion (after.symm.trans (Controller.session_of_phase failed))
  | finish before after answer =>
      obtain ⟨unanswered, failed, other, -⟩ := law.unwinding before
      refine .of_ended active (counted (apart after nofun)) held after
        (.failed s.primaryFailure ?_ other ?_)
      · exact congrArg (Option.or · _) failed
      · simp only [Preemption.observe, unanswered]
        exact refusals_eq_singleton answer

end Cycles

/-! ## Block-wise runs -/

section Moves

variable {config : Config} {s t : System} {event : Event} {late : Bool} {log : Preemption}

theorem preemptionLaw_enable (law : PreemptionLaw s log) (block : EnableBlock s late t) :
    PreemptionLaw t log := by
  cases block with
  | complete awaiting answered activating =>
      exact absurd (Controller.session_of_phase activating) law.short.2
  | _ => exact law.congr rfl rfl rfl rfl rfl id

theorem preemptionLaw_disable (law : PreemptionLaw s log) (block : DisableBlock s late t) :
    PreemptionLaw t log := by
  have raised (raises : t.disableRequest = true) (_ : s.toController.preempted = true) :
      t.toController.preempted = true := by
    rw [Controller.preempted, raises, Bool.or_true]
  cases block with
  | preempt | take | unsent | declined | complete =>
      exact law.congr rfl rfl rfl rfl rfl (raised rfl)
  | takeEnabled fresh active enabled =>
      have held := law.short.1
      rw [enabled] at held
      contradiction
  | _ => exact law.congr rfl rfl rfl rfl rfl id

theorem preemptionLaw_reset (law : PreemptionLaw s log) (block : ResetBlock s late t) :
    PreemptionLaw t log := by
  cases block <;> exact law.congr rfl rfl rfl rfl rfl id

theorem preemptionLaw_worker (law : PreemptionLaw s log) (block : WorkerBlock s event t) :
    PreemptionLaw t log := by
  cases block <;> exact law.congr rfl rfl rfl rfl rfl id

/-- An admitted disable opens the history of a session that is still running its batches. -/
theorem preemptionLaw_admitted (owned : s.SessionOwned) (admitted : admitsPreemption s t = true)
    (block : DisableBlock s late t) : PreemptionLaw t { batch := s.currentBatch } := by
  rw [admitsPreemption, Bool.and_eq_true, Bool.and_eq_true, decide_eq_true_eq,
    decide_eq_true_eq] at admitted
  obtain ⟨⟨enabling, fresh⟩, waits⟩ := admitted
  have apart {pc : DisablePc} (current : s.disablePc = pc) (elsewhere : pc ≠ .idle) : False :=
    elsewhere (current.symm.trans fresh)
  cases block with
  | stay => exact (waits fresh).elim
  | refuse => exact (waits rfl).elim
  | preempt _ active running =>
      refine .of_batches active rfl ?_ (Controller.session_of_isEnabling enabling) ⟨rfl, rfl⟩
        (Bool.or_true _)
      revert enabling
      cases s.phase <;> decide
  | take _ active accepted free =>
      have owner : s.owner = .enable := owned.enable_of_phase rfl (by simp [enabling])
      exact absurd (free.symm.trans owner) Owner.noConfusion
  | takeEnabled _ active enabled =>
      rw [enabled] at enabling
      contradiction
  | send calling => exact (apart calling nofun).elim
  | unsent calling => exact (apart calling nofun).elim
  | declined awaiting => exact (apart awaiting nofun).elim
  | complete awaiting => exact (apart awaiting nofun).elim
  | returnLast response waiting => exact (apart waiting nofun).elim

/-- What holds between two steps of the session and of its history. -/
structure PreemptionKept (s : System) (log : Option Preemption) : Prop where
  results : ResultLaw s.toController
  owned : s.SessionOwned
  preempted : ∀ preemption, log = some preemption → PreemptionLaw s preemption

theorem preemptionLaw_of_step {log : Option Preemption} (law : PreemptionKept s log)
    (step : blockStep config s event = some t) (move : BlockMove config s event t)
    (preemption : Preemption) (logged : logPreemption config s event t log = some preemption) :
    PreemptionLaw t preemption := by
  cases move with
  | skip now readings inactive =>
      simp only [logPreemption, inactive, Bool.false_and, Bool.false_eq_true, if_false,
        Option.map_eq_some_iff] at logged
      obtain ⟨earlier, before, -⟩ := logged
      have active := (law.preempted earlier before).active
      exact absurd (inactive.symm.trans active) Bool.false_ne_true
  | update now readings c active cycle =>
      have computed : s.toController.update config now readings = c :=
        congrArg System.toController (Option.some.inj step)
      subst computed
      by_cases starts : (s.phase = .idle && s.enableRequest) = true
      · simp only [logPreemption, active, Bool.true_and, starts, if_true, reduceCtorEq] at logged
      · simp only [logPreemption, active, Bool.true_and, starts, Bool.false_eq_true, if_false,
          Option.map_eq_some_iff] at logged
        obtain ⟨earlier, before, same⟩ := logged
        subst same
        refine preemptionLaw_update (law.preempted earlier before) law.owned law.results ?_
        intro idle requested
        exact starts (by simp [idle, requested])
  | callEnable t block | enable late t running block =>
      exact preemptionLaw_enable (law.preempted preemption logged) block
  | callDisable t block =>
      by_cases admitted : admitsPreemption s t = true
      · simp only [logPreemption, admitted, if_true] at logged
        cases log with
        | none =>
            cases logged
            exact preemptionLaw_admitted law.owned admitted block
        | some earlier =>
            cases logged
            exact preemptionLaw_disable (law.preempted _ rfl) block
      · simp only [logPreemption, admitted, Bool.false_eq_true, if_false] at logged
        exact preemptionLaw_disable (law.preempted preemption logged) block
  | disable late t running block =>
      exact preemptionLaw_disable (law.preempted preemption logged) block
  | callReset t block | reset late t running block =>
      exact preemptionLaw_reset (law.preempted preemption logged) block
  | fireWorker t block | callWorker late t block | resumeWorker late t block
  | latchRestart t block =>
      exact preemptionLaw_worker (law.preempted preemption logged) block
  | controllerManager =>
      exact (law.preempted preemption logged).congr rfl rfl rfl rfl rfl id
  | activate | deactivate => contradiction

theorem preemptionKept_of_step {log : Option Preemption} (law : PreemptionKept s log)
    (step : blockStep config s event = some t) (move : BlockMove config s event t) :
    PreemptionKept t (logPreemption config s event t log) :=
  ⟨resultLaw_of_step law.results step move, sessionOwned_of_move law.owned move,
    preemptionLaw_of_step law step move⟩

end Moves

/-! ## Later batches -/

section Words

variable {config : Config} {now : Int} {readings : Readings} {s : System} {log : Preemption}

/-- No command of a descent, of the quick stop or of a reset steps an axis up. -/
theorem not_stepsUp_downward (state : DriveState) :
    stepsUp state (downwardCommand state) = false := by
  cases state <;> decide

theorem not_stepsUp_quickStop (state : DriveState) :
    stepsUp state (quickStopCommand state) = false := by
  cases state <;> decide

theorem not_stepsUp_reset (target : Bool) (state : DriveState) :
    stepsUp state (resetCommand target state) = false := by
  cases target <;> cases state <;> decide

theorem not_stepsUp_interBatch (state : DriveState) :
    stepsUp state (interBatchCommand state) = false := by
  cases state <;> decide

theorem not_stepsUp_zero (state : DriveState) : stepsUp state 0x0000 = false := by
  cases state <;> decide

/-- Outside the batches and the held phases no cycle steps an axis up. -/
theorem not_stepsUp_of_dispatch {c : Controller} {axis : Axis} (held : c.phase.isHeld = false)
    (session : c.session = .ended ∨ c.session = .unwinding) (off : c.controlWords axis = 0x0000) :
    stepsUp (decodeState (c.statusWords axis)) ((c.dispatch config now).controlWords axis) =
      false := by
  have apart {phase : Phase} (current : c.phase = phase) (elsewhere : ∀ interrupted,
      phase.session interrupted = .batches ∨ phase.session interrupted = .activating) : False := by
    rw [Controller.session_of_phase current] at session
    rcases elsewhere c.interruptedOwner with batches | activating
    · rw [batches] at session
      rcases session with ended | unwinding <;> contradiction
    · rw [activating] at session
      rcases session with ended | unwinding <;> contradiction
  cases phase : c.phase with
  | inactive =>
      simp only [Controller.dispatch, phase, off]
      exact not_stepsUp_zero _
  | startupSanitizing | disabling | rollback | emergencyDisable =>
      simp only [Controller.dispatch, phase, Controller.updateDescent_controlWords]
      exact not_stepsUp_downward _
  | idle =>
      simp only [Controller.dispatch, phase, Controller.updateIdle_controlWords]
      exact not_stepsUp_zero _
  | failed =>
      simp only [Controller.dispatch, phase, Controller.updateFailed_controlWords]
      exact not_stepsUp_zero _
  | resetLow | resetHigh =>
      simp only [Controller.dispatch, phase]
      rcases Controller.updateReset_controlWords config now c axis with low | reset
      · rw [low]
        exact not_stepsUp_zero _
      · rw [reset]
        exact not_stepsUp_reset _ _
  | emergencyQuickStop =>
      simp only [Controller.dispatch, phase, Controller.updateEmergencyQuickStop_controlWords]
      exact not_stepsUp_quickStop _
  | enabling | interBatchDelay => exact (apart phase fun _ => .inl rfl).elim
  | jtcActivating => exact (apart phase fun _ => .inr rfl).elim
  | enabled | jtcDeactivating =>
      rw [phase] at held
      contradiction

/-- A cycle of the batches steps up no axis of a later batch. -/
theorem not_stepsUp_of_enabling {c : Controller} {axis : Axis} {word : UInt16}
    (active : c.active = true) (enabling : c.phase.isEnabling = true)
    (later : c.currentBatch < axisBatch axis) (written : Writes config now readings c axis word) :
    stepsUp (decodeState (refreshedWords readings axis)) word = false := by
  -- Start from words that step no axis up, so that a kept word is not taken for a written one.
  have sent := written fun _ => 0x0000
  rw [Controller.update_of_enabling (s := { c with controlWords := fun _ => 0x0000 }) active
    enabling] at sent
  cases faulted : anyFault (refreshedWords readings) with
  | true =>
      have kept := (Controller.updateEnable_of_anyFault config now
        ({ c with controlWords := fun _ => 0x0000 }.refreshStatusWords readings) faulted).1
      rw [kept] at sent
      rw [← sent]
      exact not_stepsUp_zero _
  | false =>
      have commanded := congrFun (Controller.updateEnable_controlWords config now
        ({ c with controlWords := fun _ => 0x0000 }.refreshStatusWords readings) faulted) axis
      rw [sent] at commanded
      by_cases delaying : c.phase = .interBatchDelay
      · have held : word = interBatchCommand (decodeState (refreshedWords readings axis)) :=
          commanded.trans (if_pos delaying)
        rw [held]
        exact not_stepsUp_interBatch _
      · have zero : word = enableCommand c.currentBatch axis
            (decodeState (refreshedWords readings axis)) := commanded.trans (if_neg delaying)
        rw [zero, enableCommand_of_later _ later]
        exact not_stepsUp_zero _

/-- A preempted session steps up no axis of a later batch. -/
theorem not_stepsUp_of_law (law : PreemptionLaw s log) {axis : Axis} {word : UInt16}
    (later : log.batch < axisBatch axis)
    (written : Writes config now readings s.toController axis word) :
    stepsUp (decodeState (refreshedWords readings axis)) word = false := by
  by_cases enabling : s.phase.isEnabling = true
  · exact not_stepsUp_of_enabling law.active enabling (law.batch ▸ later) written
  · have outside : s.session ≠ .batches := fun batches =>
      enabling (Controller.isEnabling_of_session batches)
    have resting : s.session = .ended ∨ s.session = .unwinding := by
      cases session : s.session with
      | ended => exact .inl rfl
      | batches => exact absurd session outside
      | activating => exact absurd session law.short.2
      | unwinding => exact .inr rfl
    have sent := written fun _ => 0x0000
    have calm : monitoredFailure s.phase (refreshedWords readings) = none := by
      apply monitoredFailure_of_unmonitored
      refine ⟨(preempted_of_law law).short.2, (preempted_of_law law).short.1, ?_⟩
      intro deactivating
      have held := law.short.1
      rw [deactivating] at held
      contradiction
    rw [Controller.update_of_unmonitored config now
      { s.toController with controlWords := fun _ => 0x0000 } law.active calm] at sent
    rw [← sent]
    exact not_stepsUp_of_dispatch
      (c := { s.toController with controlWords := fun _ => 0x0000 }.refreshStatusWords readings)
      law.short.1 resting rfl

end Words

/-! ## The answer comes -/

/-- The rank of an unanswered session: its batches stand above every emergency. -/
def preemptionRank (s : Controller) : Nat :=
  if s.phase.isEnabling then 5 else descentRank s

/-- What holds between two steps at nonnegative times. -/
structure PreemptionBounded (s : System) (log : Option Preemption) : Prop where
  kept : PreemptionKept s log
  descent : DescentLaw s.toController
  bounded : ∀ preemption, log = some preemption → preemption.answers = [] →
    preemptionRank s.toController + preemption.expiries ≤ 5

section Progress

variable {config : Config} {s t : System} {event : Event} {log : Option Preemption}

/-- Where the history after a step comes from. -/
theorem logPreemption_cases {preemption : Preemption}
    (logged : logPreemption config s event t log = some preemption) :
    event.isLifecycle = false ∧
      ((∃ now readings earlier, event = .update now readings ∧ log = some earlier ∧
          preemption = earlier.observe config now readings s) ∨
        log = some preemption ∧ (∀ now readings, event ≠ .update now readings) ∨
        preemption.answers = [] ∧ preemption.expiries = 0) := by
  cases event with
  | update now readings =>
      refine ⟨rfl, .inl ⟨now, readings, ?_⟩⟩
      rw [logPreemption] at logged
      split_ifs at logged
      obtain ⟨earlier, before, same⟩ := Option.map_eq_some_iff.mp logged
      exact ⟨earlier, rfl, before, same.symm⟩
  | callDisable =>
      refine ⟨rfl, .inr ?_⟩
      rw [logPreemption] at logged
      split_ifs at logged
      · cases log with
        | none =>
            cases logged
            exact .inr ⟨rfl, rfl⟩
        | some earlier => exact .inl ⟨logged, nofun⟩
      · exact .inl ⟨logged, nofun⟩
  | activate | deactivate => contradiction
  | _ => exact ⟨rfl, .inr (.inl ⟨logged, nofun⟩)⟩

/-- An unanswered session stands at most as high as its batches. -/
theorem preemptionRank_le {preemption : Preemption} (law : PreemptionLaw s preemption)
    (unanswered : preemption.answers = []) : preemptionRank s.toController ≤ 5 := by
  rw [preemptionRank]
  rcases law.standing unanswered with batches | unwinding
  · rw [if_pos (Controller.isEnabling_of_session batches)]
  · have emergency := (law.unwinding unwinding).2.2.2
    rw [if_neg (by rw [Controller.not_isEnabling_of_session (unwinding ▸ nofun)]; nofun)]
    unfold descentRank
    revert emergency
    cases s.phase <;> simp [Phase.isEmergency]
    omega

/-- An unwinding session stands below the batches, and its rank is that of the descent. -/
theorem preemptionRank_of_unwinding {preemption : Preemption} (law : PreemptionLaw s preemption)
    (unwinding : s.session = .unwinding) :
    s.phase.isDescent = true ∧ preemptionRank s.toController = descentRank s.toController ∧
      preemptionRank s.toController ≤ 4 := by
  have emergency := (law.unwinding unwinding).2.2.2
  have outside : s.phase.isEnabling = false :=
    Controller.not_isEnabling_of_session (unwinding ▸ nofun)
  have same : preemptionRank s.toController = descentRank s.toController := by
    rw [preemptionRank, outside]
    rfl
  refine ⟨by simp [Phase.isDescent, emergency], same, ?_⟩
  rw [same]
  unfold descentRank
  revert emergency
  cases s.phase <;> simp [Phase.isEmergency]
  omega

/-- A preempted session whose batches go on has not passed its deadline. -/
theorem not_expired_of_batches {now : Int} {c d : Controller} (flow : SessionCycle now c d)
    (before : c.session = .batches) (after : d.session = .batches)
    (pending : c.preempted = true) : now < c.stageDeadlineNs := by
  have entered {phase : Phase} {session : Session} (current : d.phase = phase)
      (elsewhere : phase.session d.interruptedOwner = session) (other : session ≠ .batches) :
      False := by
    rw [Controller.session_of_phase current, elsewhere] at after
    exact other after
  cases flow with
  | ended ended => exact Session.noConfusion (before.symm.trans ended)
  | accept idle =>
      exact Session.noConfusion (before.symm.trans (Controller.session_of_phase idle))
  | advance _ _ _ _ batch =>
      rcases batch with ⟨-, early⟩ | unpreempted
      · exact early
      · exact absurd (unpreempted.symm.trans pending) Bool.false_ne_true
  | ready _ activating => exact (entered activating rfl nofun).elim
  | preempt _ disabling | failPreempted _ _ disabling => exact (entered disabling rfl nofun).elim
  | fail _ _ unwinding => exact Session.noConfusion (after.symm.trans unwinding)
  | wait activating | activateFailed activating =>
      exact Session.noConfusion (before.symm.trans (Controller.session_of_phase activating))
  | unwind unwinding | finish unwinding => exact Session.noConfusion (before.symm.trans unwinding)

/-- A cycle of an unanswered session that finds its deadline passed lowers the rank. -/
theorem preemptionRank_update {now : Int} {readings : Readings} {preemption : Preemption}
    (kept : PreemptionKept s (some preemption)) (descent : DescentLaw s.toController)
    (step : blockStep config s (.update now readings) = some t)
    (move : BlockMove config s (.update now readings) t)
    (later : PreemptionLaw t (preemption.observe config now readings s))
    (unanswered : (preemption.observe config now readings s).answers = [])
    (bounded : preemption.answers = [] →
      preemptionRank s.toController + preemption.expiries ≤ 5) :
    preemptionRank t.toController + (preemption.observe config now readings s).expiries ≤ 5 := by
  have law := kept.preempted preemption rfl
  have before : preemption.answers = [] := (List.append_eq_nil_iff.mp unanswered).1
  have room := bounded before
  have bound := preemptionRank_le later unanswered
  simp only [Preemption.observe, before, List.isEmpty_nil, Bool.true_and]
  rcases law.standing before with batches | unwinding
  · have five : preemptionRank s.toController = 5 :=
      if_pos (Controller.isEnabling_of_session batches)
    rcases later.standing unanswered with goes | unwinds
    · have flow : SessionCycle now (s.toController.refreshStatusWords readings) t.toController := by
        cases step
        exact Controller.sessionCycle_of_update law.active kept.owned kept.results
      have early : now < s.stageDeadlineNs :=
        not_expired_of_batches (c := s.toController.refreshStatusWords readings) flow batches goes
          (law.batches batches).2.2
      have punctual : expires s (.update now readings) = false := by
        simp [expires, not_le.mpr early]
      rw [punctual, if_neg Bool.false_ne_true]
      omega
    · obtain ⟨-, -, low⟩ := preemptionRank_of_unwinding later unwinds
      split_ifs <;> omega
  · obtain ⟨descending, same, -⟩ := preemptionRank_of_unwinding law unwinding
    rcases rank_of_step descent descending rfl step move with rests | ⟨stays, falls, lower⟩
    · have ended : t.session = .ended := by
        rcases Bool.or_eq_true_iff.mp rests with idle | failed
        · exact Controller.session_of_phase (of_decide_eq_true idle)
        · exact Controller.session_of_phase (of_decide_eq_true failed)
      rcases later.standing unanswered with goes | unwinds
      · exact Session.noConfusion (ended.symm.trans goes)
      · exact Session.noConfusion (ended.symm.trans unwinds)
    · have outside : t.phase.isEnabling = false := by
        by_contra enabling
        have aside := Phase.not_isDescent_of_isEnabling (Bool.eq_true_of_not_eq_false enabling)
        exact Bool.false_ne_true (aside.symm.trans stays)
      have rank : preemptionRank t.toController = descentRank t.toController :=
        if_neg (by rw [outside]; exact Bool.false_ne_true)
      split_ifs with late
      · have fell := lower late
        omega
      · omega

/-- Callbacks do not raise the rank. -/
theorem preemptionRank_callback {preemption : Preemption} (law : PreemptionLaw s preemption)
    (later : PreemptionLaw t preemption) (unanswered : preemption.answers = [])
    (session : event.isLifecycle = false) (callback : ∀ now readings, event ≠ .update now readings)
    (move : BlockMove config s event t) :
    preemptionRank t.toController ≤ preemptionRank s.toController := by
  rcases law.standing unanswered with batches | unwinding
  · have five : preemptionRank s.toController = 5 :=
      if_pos (Controller.isEnabling_of_session batches)
    rw [five]
    exact preemptionRank_le later unanswered
  · obtain ⟨descending, same, -⟩ := preemptionRank_of_unwinding law unwinding
    obtain ⟨phase, rank⟩ := rank_of_other descending session callback move
    rw [preemptionRank, preemptionRank, phase, rank]

/-- Every block step at a nonnegative time keeps the bound. -/
theorem preemptionBounded_of_step (timeout : 1 ≤ config.disableStageTimeoutNs)
    (law : PreemptionBounded s log) (allowed : nonnegativeTime s event = true)
    (step : blockStep config s event = some t) (move : BlockMove config s event t) :
    PreemptionBounded t (logPreemption config s event t log) := by
  have kept := preemptionKept_of_step law.kept step move
  refine ⟨kept, descentLaw_of_step timeout law.descent allowed step move, ?_⟩
  intro preemption logged unanswered
  have later := kept.preempted preemption logged
  rcases logPreemption_cases logged with
    ⟨session, ⟨now, readings, earlier, rfl, before, rfl⟩ | ⟨before, callback⟩ | ⟨-, unexpired⟩⟩
  · exact preemptionRank_update (before ▸ law.kept) law.descent step move later unanswered
      (law.bounded earlier before)
  · have room := law.bounded preemption before unanswered
    have kept := preemptionRank_callback (law.kept.preempted preemption before) later unanswered
      session callback move
    omega
  · have bound := preemptionRank_le later unanswered
    omega

end Progress

/-! ## The result -/

/-- Only cycles refuse an enable. -/
theorem enableResult_of_callback {config : Config} {s t : System} {event : Event}
    (move : BlockMove config s event t) (callback : ∀ now readings, event ≠ .update now readings)
    (session : event.isLifecycle = false) (ready : t.enableResult.ready = true)
    (refused : t.enableResult.ok = false) : t.enableResult = s.enableResult := by
  cases move with
  | skip now readings | update now readings => exact absurd rfl (callback now readings)
  | callEnable t block | enable late t running block =>
      cases block with
      | accept | complete => contradiction
      | _ => rfl
  | callDisable t block | disable late t running block => cases block <;> rfl
  | callReset t block | reset late t running block => cases block <;> rfl
  | fireWorker t block | callWorker late t block | resumeWorker late t block
  | latchRestart t block => cases block <;> rfl
  | controllerManager => rfl
  | activate | deactivate => contradiction

/-- From the admission of a disable during the batches on, in every run, no batch is started, no
axis of a later batch is stepped up, the group is not enabled, and the enable is answered at most
once, by a cycle, with what the session has detected.  At nonnegative times at most four cycles
find their deadline passed before the answer comes. -/
theorem disable_preempts (config : Config) :
    (∀ s log, Reachable (observed (blockStep config) (logPreemption config)) (onState unguarded)
        (configured, none) (s, some log) →
      Preempted s log ∧
        (∀ now readings axis word, log.batch < axisBatch axis →
          Writes config now readings s.toController axis word →
            stepsUp (decodeState (refreshedWords readings axis)) word = false) ∧
        ∀ t event, blockStep config s event = some t → event.isLifecycle = false →
          (∀ now readings, event ≠ .update now readings) → t.enableResult.ready = true →
            t.enableResult.ok = false → t.enableResult = s.enableResult) ∧
      (1 ≤ config.disableStageTimeoutNs → ∀ s log,
        Reachable (observed (blockStep config) (logPreemption config)) (onState nonnegativeTime)
          (configured, none) (s, some log) →
        log.answers = [] → log.expiries ≤ 4) := by
  have initial : PreemptionKept configured none := ⟨resultLaw_configured, ⟨trivial, nofun⟩, nofun⟩
  constructor
  · intro s log reachable
    obtain ⟨parked, law⟩ : Parked s ∧ PreemptionKept s (some log) := by
      refine observed_step_invariant PreemptionKept parked_configured initial ?_ reachable
      intro source target history event _ law allowed step move
      exact preemptionKept_of_step law step move
    have preempted := law.preempted log rfl
    refine ⟨preempted_of_law preempted, ?_, ?_⟩
    · intro now readings axis word later written
      exact not_stepsUp_of_law preempted later written
    · intro t event step session callback ready refused
      exact enableResult_of_callback (blockMove_of_step parked step) callback session ready refused
  · intro timeout s log reachable unanswered
    have bounded : PreemptionBounded s (some log) := by
      refine (observed_step_invariant PreemptionBounded parked_configured
        ⟨initial, ⟨fun _ => rfl, nofun, nofun⟩, nofun⟩ ?_ reachable).2
      intro source target history event _ law allowed step move
      exact preemptionBounded_of_step timeout law allowed step move
    have room := bounded.bounded log rfl unanswered
    have preempted := bounded.kept.preempted log rfl
    rcases preempted.standing unanswered with batches | unwinding
    · have five : preemptionRank s.toController = 5 :=
        if_pos (Controller.isEnabling_of_session batches)
      omega
    · obtain ⟨descending, same, -⟩ := preemptionRank_of_unwinding preempted unwinding
      have positive := (bounded.descent.rank_bounds descending).1
      omega

/-- A disable while the first batch is on its way lets the batch complete. -/
def preemptedBatch : List Event :=
  [Event.activate] ++ startupCycles ++ [Event.callEnable] ++ cycles 0x0040 [10] ++
    [Event.callDisable, .update 11000000000 firstBatchEnabled]

/-- The enable is then answered as preempted, and the later batches are never stepped up. -/
theorem disable_preempts_of_firstBatch :
    ∃ s log, Reachable (observed (blockStep defaultConfig) (logPreemption defaultConfig))
        (onState unguarded) (configured, none) (s, some log) ∧
      log.answers = [preemptedAnswer] ∧ log.failed = none ∧ log.completed = true ∧
      s.currentBatch = 0 ∧ s.phase ≠ .enabled := by
  have found : (run (observed (blockStep defaultConfig) (logPreemption defaultConfig))
      (onState unguarded) (configured, none) preemptedBatch).any (fun current =>
        current.2.any fun log => log.batch = 0 && (log.answers.map (·.stage)) =
          [Stage.preemptedByDisable]) = true := by
    decide +kernel
  rcases exists_reachable_of_run found with ⟨⟨s, logged⟩, reachable, tested⟩
  rw [Option.any_eq_true] at tested
  obtain ⟨log, rfl, tested⟩ := tested
  simp only [Bool.and_eq_true, decide_eq_true_eq, List.map_eq_singleton_iff] at tested
  obtain ⟨first, slot, answers, marked⟩ := tested
  have preempted := ((disable_preempts defaultConfig).1 s log reachable).1
  obtain ⟨exactly, cleared⟩ := preempted.preempted slot (by rw [answers]; exact List.mem_cons_self)
  obtain ⟨clean, completed⟩ := exactly.mp marked
  exact ⟨s, log, reachable, by rw [answers, cleared marked], clean, completed,
    preempted.batch.trans first, preempted.short.2⟩

end RtControl.EnableManager
