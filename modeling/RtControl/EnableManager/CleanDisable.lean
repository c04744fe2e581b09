import RtControl.EnableManager.Diagnostics
import RtControl.EnableManager.Words

/-!
# The report of a clean disable

`primary_failure_stage_` outlives the operation that recorded it, and the completed
disable reports it.  The preempted enable and the preempted reset withdraw it before they
start the descent, except where an axis has left its batch; a disable in `kFailed` never
withdraws it.
-/

namespace RtControl.EnableManager

open RtControl.Transition

/-! ## The property and its condition -/

/-- The cycle starts a disable descent with a failure still recorded: in `kFailed`, or on
an axis that has left its batch while a disable was pending. -/
def keepsBlame (s : Controller) (words : Words) : Bool :=
  (s.phase = .failed && s.disableRequest && s.primaryFailure.stage ≠ .success) ||
    (s.phase = .enabling && (s.enablePreemptRequested || s.disableRequest) &&
      !anyFault words && axes.any (leavesBatch s.currentBatch words))

/-- No cycle starts a disable descent with a failure still recorded. -/
def withdrawsBlame : Guard System Event := fun s event =>
  match event with
  | .update _ readings => !(s.active && keepsBlame s.toController (refreshedWords readings))
  | _ => true

/-- What a run has shown of its disable calls: whether the JTC deactivation of the call
admitted last has failed, and whether the descent started last kept a failure. -/
structure DisableLog where
  refused : Bool := false
  blamed : Bool := false

/-- The log of a descent that starts here, or of the one before. -/
def blamedAfter (s t : Controller) (words : Words) (blamed : Bool) : Bool :=
  if s.phase ≠ .disabling ∧ t.phase = .disabling then keepsBlame s words else blamed

/-- Record one step: a call is admitted when its callback starts to wait. -/
def logDisable (s : System) (event : Event) (t : System) (log : DisableLog) : DisableLog where
  refused :=
    if s.disablePc = .idle ∧ t.disablePc ≠ .idle then false
    else log.refused || failsDeactivation s event
  blamed :=
    match event with
    | .update _ readings =>
        blamedAfter s.toController t.toController (refreshedWords readings) log.blamed
    | _ => log.blamed

/-- The step completes a disable descent with every axis at its confirmed terminal, and no
JTC deactivation of the call has failed. -/
def FinishesClean (s : System) (log : DisableLog) (event : Event) (t : System) : Prop :=
  ∃ now readings, event = .update now readings ∧ s.phase = .disabling ∧
    (t.phase = .idle ∨ t.phase = .failed) ∧ allTerminal (refreshedWords readings) = true ∧
    log.refused = false

/-- The disable call is told `kSuccess` and the group is idle. -/
def ReportsSuccess (t : Controller) : Prop :=
  t.phase = .idle ∧ t.disableResult = Controller.published true { stage := .success }

/-- Every clean disable of every run is reported as a success. -/
def CleanDisableLaw (config : Config) (guard : Guard System Event) : Prop :=
  ∀ s log t event,
    Reachable (observed (blockStep config) logDisable) (onState guard) (configured, {}) (s, log) →
      guard s event = true → blockStep config s event = some t →
        FinishesClean s log event t → ReportsSuccess t.toController

/-! ## The law of the recorded failure -/

/-- What each phase allows for the recorded failure. -/
def Blame (phase : Phase) (primary : Stage) (blamed : Bool) : Prop :=
  match phase with
  | .enabling | .interBatchDelay | .jtcActivating | .enabled | .jtcDeactivating =>
      primary = .success
  | .disabling => primary = .success ↔ blamed = false
  | _ => True

/-- The law of the disable calls. -/
structure DisableLaw (s : System) (log : DisableLog) : Prop where
  refused : s.jtcDeactivateFailed = true → log.refused = true
  blame : Blame s.phase s.primaryFailure.stage log.blamed

/-- A resting phase allows every record. -/
theorem Blame.of_rest {phase : Phase} {primary : Stage} {blamed : Bool}
    (rests : phase = .idle ∨ phase = .failed) : Blame phase primary blamed := by
  rcases rests with rfl | rfl <;> trivial

/-- An emergency allows every record. -/
theorem Blame.of_emergency {phase : Phase} {primary : Stage} {blamed : Bool}
    (emergency : phase.isEmergency = true) : Blame phase primary blamed := by
  cases phase <;> first
    | contradiction
    | trivial

namespace Controller

variable {config : Config} {now : Int} {s t : Controller} {blamed : Bool}

/-- The law after a cycle that stays in its phase and records no failure. -/
theorem blame_stay {words : Words} (law : Blame s.phase s.primaryFailure.stage blamed)
    (phase : t.phase = s.phase) (primary : t.primaryFailure = s.primaryFailure) :
    Blame t.phase t.primaryFailure.stage (blamedAfter s t words blamed) := by
  have outside : ¬(s.phase ≠ .disabling ∧ t.phase = .disabling) := by
    rintro ⟨elsewhere, descends⟩
    exact elsewhere (phase ▸ descends)
  rw [blamedAfter, if_neg outside, phase, primary]
  exact law

/-- The law after a cycle that starts a descent. -/
theorem blame_start {words : Words} (elsewhere : s.phase ≠ .disabling)
    (descends : t.phase = .disabling)
    (kept : t.primaryFailure.stage = .success ↔ keepsBlame s words = false) :
    Blame t.phase t.primaryFailure.stage (blamedAfter s t words blamed) := by
  rw [blamedAfter, if_pos ⟨elsewhere, descends⟩, descends]
  exact kept

/-- The law after a cycle that ends outside the disable descent. -/
theorem blame_elsewhere {words : Words} (outside : t.phase ≠ .disabling)
    (law : Blame t.phase t.primaryFailure.stage blamed) :
    Blame t.phase t.primaryFailure.stage (blamedAfter s t words blamed) := by
  rw [blamedAfter, if_neg fun entered => outside entered.2]
  exact law

/-- A quick stop ends in an emergency phase. -/
theorem updateEmergencyQuickStop_isEmergency (stopping : s.phase = .emergencyQuickStop) :
    (s.updateEmergencyQuickStop config now).phase.isEmergency = true := by
  rcases s.updateEmergencyQuickStop_eq config now stopping with ⟨_, _, _, _, emergency, same⟩
  rw [same]
  exact emergency

/-- A settled batch descends for the disable call with a failure exactly if an axis has
left the batch. -/
theorem settleBatch_blame (blamed : Bool) {scan : EnableScan} (enabling : s.phase = .enabling)
    (clear : s.primaryFailure.stage = .success)
    (settled : s.settleBatch config now scan = t) :
    t.phase = .disabling ∧ s.enablePreemptRequested = true ∧
        (t.primaryFailure.stage = .success ↔ scan.invalidAxis < 0) ∨
      t.phase ≠ .disabling ∧ Blame t.phase t.primaryFailure.stage blamed := by
  simp only [settleBatch] at settled
  split_ifs at settled with invalid preempted complete preempted last expired preempted
  · cases settled
    have failed : Stage.enableInvalidState ≠ .success := by decide
    exact .inl ⟨rfl, preempted, iff_of_false failed (Int.not_lt.mpr invalid)⟩
  · cases settled
    refine .inr ⟨?_, trivial⟩
    intro descends
    cases descends
  · cases settled
    exact .inl ⟨rfl, preempted, iff_of_true rfl (Int.not_le.mp invalid)⟩
  · cases settled
    refine .inr ⟨?_, clear⟩
    intro descends
    cases descends
  · cases settled
    refine .inr ⟨?_, clear⟩
    intro descends
    cases descends
  · cases settled
    exact .inl ⟨rfl, preempted, iff_of_true rfl (Int.not_le.mp invalid)⟩
  · cases settled
    refine .inr ⟨?_, trivial⟩
    intro descends
    cases descends
  · cases settled
    refine .inr ⟨?_, ?_⟩
    · rw [enabling]
      decide
    · rw [enabling]
      exact clear

/-- An enable cycle keeps the law. -/
theorem blame_updateEnable (enabling : s.phase.isEnabling = true)
    (clear : s.primaryFailure.stage = .success) :
    Blame (s.updateEnable config now).phase (s.updateEnable config now).primaryFailure.stage
      (blamedAfter s (s.updateEnable config now) s.statusWords blamed) := by
  have elsewhere : s.phase ≠ .disabling := by
    intro disabling
    rw [disabling] at enabling
    cases enabling
  cases healthy : anyFault s.statusWords with
  | true =>
      apply Blame.of_emergency
      rw [(s.updateEnable_of_anyFault config now healthy).2]
      rfl
  | false =>
      generalize computed : s.updateEnable config now = t
      simp only [updateEnable, find?_faulted healthy] at computed
      split_ifs at computed with delaying
      · simp only [updateInterBatchDelay] at computed
        split_ifs at computed with preempted elapsed
        · cases computed
          exact blame_start elsewhere rfl (iff_of_true rfl (by simp [keepsBlame, delaying]))
        · cases computed
          have outside : Phase.enabling ≠ .disabling := by decide
          exact blame_elsewhere outside clear
        · cases computed
          exact blame_stay (by rw [delaying]; exact clear) rfl rfl
      · have running : s.phase = .enabling := by
          cases phase : s.phase <;> simp_all [Phase.isEnabling]
        have settled : s.batchScanned.settleBatch config now
            (enableScan s.currentBatch s.statusWords) = t := computed
        have settles := settleBatch_blame (s := s.batchScanned) blamed running clear settled
        rcases settles with ⟨descends, sampled, kept⟩ | ⟨outside, law⟩
        · refine blame_start elsewhere descends (kept.trans ?_)
          have preempted : s.enablePreemptRequested = true ∨ s.disableRequest = true :=
            (Bool.or_eq_true _ _).mp sampled
          rw [enableScan_valid_iff]
          simp [keepsBlame, running, healthy, preempted, mem_axes]
        · exact blame_elsewhere outside law

/-- Every cycle outside the batchwise enable keeps the law. -/
theorem blame_of_outcome (law : Blame s.phase s.primaryFailure.stage blamed)
    (outcome : Outcome config now s t) (busy : s.phase.isEnabling = false) :
    Blame t.phase t.primaryFailure.stage (blamedAfter s t s.statusWords blamed) := by
  have refuted {motive : Prop} (enabling : s.phase = .enabling ∨ s.phase = .interBatchDelay) :
      motive := by
    rcases enabling with phase | phase <;> rw [phase] at busy <;> cases busy
  cases outcome with
  | monitored axis stage tripped =>
      apply Blame.of_emergency
      exact updateEmergencyQuickStop_isEmergency rfl
  | inactive => exact blame_stay law rfl rfl
  | descentDone downward => exact .of_rest (finishDownward_phase _ downward)
  | emergencyExpire descending =>
      apply Blame.of_rest
      apply finishDownward_phase
      rw [recordStageTimeout_phase]
      exact congrArg Phase.isDownward descending
  | descentAdvance | descentHold => exact blame_stay law rfl rfl
  | descentExpire => exact .of_emergency rfl
  | quickStop stopping => exact .of_emergency (updateEmergencyQuickStop_isEmergency stopping)
  | acceptEnable =>
      have outside : Phase.enabling ≠ .disabling := by decide
      exact blame_elsewhere outside rfl
  | idleAlreadyClear idle | idleAlreadyDisabled idle | idleHold idle =>
      exact .of_rest (.inl idle)
  | idleStartReset => trivial
  | enableFault => exact .of_emergency rfl
  | delayPreempted delaying | nextBatch delaying | delayHold delaying =>
      exact refuted (.inr delaying)
  | batchInvalid enabling | batchInvalidPreempted enabling | batchPreempted enabling
  | hardwareReady enabling | batchComplete enabling | batchExpire enabling
  | batchExpirePreempted enabling | batchHold enabling => exact refuted (.inl enabling)
  | activateFailed => trivial
  | activatingHold => exact blame_stay law rfl rfl
  | heldDescend held =>
      have clear : s.primaryFailure.stage = .success := by
        cases phase : s.phase <;> simp_all [Phase.isHeld, Blame]
      refine blame_start ?_ rfl (iff_of_true clear ?_)
      · intro disabling
        rw [disabling] at held
        cases held
      · cases phase : s.phase <;> simp_all [Phase.isHeld, keepsBlame]
  | heldHold => exact blame_stay law rfl rfl
  | resetPreempted resetting =>
      refine blame_start ?_ rfl (iff_of_true rfl ?_)
      · intro disabling
        rw [disabling] at resetting
        cases resetting
      · cases phase : s.phase <;> simp_all [Phase.isReset, keepsBlame]
  | raiseReset => trivial
  | resetDone => exact .of_rest (.inl rfl)
  | resetExpire => exact .of_rest (.inr rfl)
  | resetHold resetting => exact blame_stay law rfl rfl
  | failedDescend failed requested =>
      refine blame_start (by rw [failed]; decide) rfl ?_
      simp [keepsBlame, failed, requested, startDownward, setAllControlWords]
  | failedAlreadyClear => exact .of_rest (.inl rfl)
  | failedStartReset => trivial
  | failedHold failed => exact .of_rest (.inr failed)

/-- A cycle keeps the law whatever it samples. -/
theorem blame_update (law : Blame s.phase s.primaryFailure.stage blamed) (active : s.active = true)
    (readings : Readings) :
    Blame (s.update config now readings).phase (s.update config now readings).primaryFailure.stage
      (blamedAfter s (s.update config now readings) (refreshedWords readings) blamed) := by
  by_cases enabling : s.phase.isEnabling = true
  · have clear : s.primaryFailure.stage = .success := by
      cases phase : s.phase <;> simp_all [Phase.isEnabling, Blame]
    rw [update_of_enabling active enabling]
    exact blame_updateEnable (s := s.refreshStatusWords readings) enabling clear
  · rw [Bool.not_eq_true] at enabling
    exact blame_of_outcome (s := s.refreshStatusWords readings) law
      (s.update_outcome config now readings active) enabling

/-- A disable descent completed on a terminal group reports success exactly without a
recorded failure. -/
theorem reportsSuccess_iff (disabling : s.phase = .disabling)
    (rests : (s.updateDescent config now).phase = .idle ∨
      (s.updateDescent config now).phase = .failed)
    (terminal : allTerminal s.statusWords = true) (accepted : s.jtcDeactivateFailed = false) :
    ReportsSuccess (s.updateDescent config now) ↔ s.primaryFailure.stage = .success := by
  have downward : s.phase.isDownward = true := by
    rw [disabling]
    rfl
  rcases s.updateDescent_cases config now downward with
    ⟨-, -, done⟩ | ⟨-, emergency, -⟩ | ⟨-, -, stopping⟩ | ⟨-, -, stays⟩
  · have healthy : (finishScan s.statusWords).anyFault = false := by
      rw [finishScan_anyFault]
      exact anyFault_of_allTerminal terminal
    have finished : (s.descentScanned config now).finishDownward =
        (s.descentScanned config now).finishDisabling (finishScan s.statusWords) := by
      simp only [finishDownward, descentScanned, disabling]
    rw [done, finished]
    by_cases clear : s.primaryFailure.stage = .success
    · simp [finishDisabling, descentScanned, healthy, accepted, clear, ReportsSuccess,
        clearFailure, publishDisable, storePhase, storeOwner]
    · simp [finishDisabling, descentScanned, healthy, accepted, clear, ReportsSuccess,
        publishDisable, storePhase, storeOwner]
  · cases disabling.symm.trans emergency
  · rw [stopping] at rests
    rcases rests with idle | failed
    · cases idle
    · cases failed
  · rw [stays, disabling] at rests
    rcases rests with idle | failed
    · cases idle
    · cases failed

end Controller

/-! ## Runs -/

namespace DisableLaw

variable {config : Config} {s t : System} {event : Event} {log : DisableLog}

/-- Only a cycle starts a descent. -/
theorem logDisable_blamed (aside : ∀ now readings, event ≠ .update now readings) :
    (logDisable s event t log).blamed = log.blamed := by
  cases event with
  | update now readings => exact absurd rfl (aside now readings)
  | _ => rfl

/-- A running callback keeps the record of its call. -/
theorem logDisable_refused (running : s.disablePc = .idle → t.disablePc = .idle) :
    (logDisable s event t log).refused = (log.refused || failsDeactivation s event) := by
  have admits : ¬(s.disablePc = .idle ∧ t.disablePc ≠ .idle) :=
    fun admitted => admitted.2 (running admitted.1)
  simp only [logDisable, if_neg admits]

/-- A step that keeps the flag of a failed deactivation keeps its record. -/
theorem recorded (law : DisableLaw s log) (running : s.disablePc = .idle → t.disablePc = .idle)
    (refused : t.jtcDeactivateFailed = s.jtcDeactivateFailed) (failed : t.jtcDeactivateFailed = true) :
    (logDisable s event t log).refused = true := by
  rw [refused] at failed
  rw [logDisable_refused running, law.refused failed]
  rfl

/-- A step that is no cycle and writes neither the phase nor the two records keeps the
law. -/
theorem congr (law : DisableLaw s log) (aside : ∀ now readings, event ≠ .update now readings)
    (running : s.disablePc = .idle → t.disablePc = .idle)
    (refused : t.jtcDeactivateFailed = s.jtcDeactivateFailed)
    (phase : t.phase = s.phase) (primary : t.primaryFailure = s.primaryFailure) :
    DisableLaw t (logDisable s event t log) := by
  constructor
  · exact law.recorded running refused
  · rw [logDisable_blamed aside, phase, primary]
    exact law.blame

theorem enable (law : DisableLaw s log) (aside : ∀ now readings, event ≠ .update now readings)
    {late : Bool} (block : EnableBlock s late t) : DisableLaw t (logDisable s event t log) := by
  cases block with
  | complete awaiting answered activating =>
      constructor
      · exact law.recorded (fun idle => idle) rfl
      · have clear := law.blame
        rw [activating] at clear
        exact clear
  | _ => exact law.congr aside id rfl rfl rfl

theorem disable (law : DisableLaw s log) (aside : ∀ now readings, event ≠ .update now readings)
    {late : Bool} (block : DisableBlock s late t)
    (called : event = .disable late ∨ s.disablePc = .idle) :
    DisableLaw t (logDisable s event t log) := by
  have kept : Blame s.phase s.primaryFailure.stage (logDisable s event t log).blamed := by
    rw [logDisable_blamed aside]
    exact law.blame
  cases block with
  | stay => exact law.congr aside id rfl rfl rfl
  | refuse response fresh => exact law.congr aside (fun _ => rfl) rfl rfl rfl
  | preempt | take => exact ⟨nofun, kept⟩
  | takeEnabled fresh active enabled =>
      rw [enabled] at kept
      exact ⟨nofun, kept⟩
  | send calling | complete calling =>
      exact law.congr aside (fun idle => absurd (calling.symm.trans idle) nofun) rfl rfl rfl
  | returnLast => exact law.congr aside (fun _ => rfl) rfl rfl rfl
  | unsent calling blocked =>
      refine ⟨fun _ => ?_, kept⟩
      rcases called with rfl | idle
      · rw [logDisable_refused fun idle => absurd (calling.symm.trans idle) nofun]
        simpa [failsDeactivation, calling] using .inr blocked
      · cases calling.symm.trans idle
  | declined awaiting answered =>
      refine ⟨fun _ => ?_, kept⟩
      rcases called with rfl | idle
      · rw [logDisable_refused fun idle => absurd (awaiting.symm.trans idle) nofun]
        simpa [failsDeactivation, awaiting] using .inr answered
      · cases awaiting.symm.trans idle

theorem reset (law : DisableLaw s log) (aside : ∀ now readings, event ≠ .update now readings)
    {late : Bool} (block : ResetBlock s late t) : DisableLaw t (logDisable s event t log) := by
  cases block <;> exact law.congr aside id rfl rfl rfl

theorem worker (law : DisableLaw s log) (aside : ∀ now readings, event ≠ .update now readings)
    (block : WorkerBlock s event t) : DisableLaw t (logDisable s event t log) := by
  cases block <;> exact law.congr aside id rfl rfl rfl

/-- A cycle keeps the law. -/
theorem cycle (law : DisableLaw s log) (now : Int) (readings : Readings) (active : s.active = true) :
    DisableLaw { s with toController := s.toController.update config now readings }
      (logDisable s (.update now readings)
        { s with toController := s.toController.update config now readings } log) := by
  constructor
  · have untouched :=
      Controller.untouched_of_cycle (s.toController.update_cycle config now readings active)
    exact law.recorded (fun idle => idle) untouched.jtcDeactivateFailed
  · exact Controller.blame_update law.blame active readings

/-- Every step keeps the law. -/
theorem step (law : DisableLaw s log) (computed : blockStep config s event = some t)
    (move : BlockMove config s event t) : DisableLaw t (logDisable s event t log) := by
  cases move with
  | skip now readings inactive =>
      constructor
      · exact law.recorded (fun idle => idle) rfl
      · exact Controller.blame_stay law.blame rfl rfl
  | update now readings c active cycle =>
      cases computed
      exact law.cycle now readings active
  | callEnable t block | enable late t running block => exact law.enable nofun block
  | callDisable t block fresh =>
      rcases fresh with idle | rfl
      · exact law.disable nofun block (.inr idle)
      · exact law.congr nofun id rfl rfl rfl
  | disable late t running block => exact law.disable nofun block (.inl rfl)
  | callReset t block | reset late t running block => exact law.reset nofun block
  | fireWorker t block | callWorker late t block | resumeWorker late t block
  | latchRestart t block => exact law.worker nofun block
  | controllerManager => exact law.congr nofun id rfl rfl rfl
  | activate => exact ⟨nofun, trivial⟩
  | deactivate =>
      constructor
      · exact law.recorded (fun idle => idle) rfl
      · trivial

/-- A clean disable is reported as a success exactly if its descent kept no failure. -/
theorem reportsSuccess_iff (law : DisableLaw s log) (computed : blockStep config s event = some t)
    (finishes : FinishesClean s log event t) :
    ReportsSuccess t.toController ↔ log.blamed = false := by
  rcases finishes with ⟨now, readings, rfl, disabling, rests, terminal, unrefused⟩
  cases computed
  have accepted : s.jtcDeactivateFailed = false := by
    by_contra failed
    rw [Bool.not_eq_false] at failed
    cases (law.refused failed).symm.trans unrefused
  by_cases active : s.active = true
  · have downward : s.phase.isDownward = true := by
      rw [disabling]
      rfl
    have descends : s.toController.update config now readings =
        (s.toController.refreshStatusWords readings).updateDescent config now :=
      Controller.update_of_downward active downward
    have blame := law.blame
    rw [disabling] at blame
    simp only [runOn, descends] at rests ⊢
    exact (Controller.reportsSuccess_iff (s := s.toController.refreshStatusWords readings)
      disabling rests terminal accepted).trans blame
  · rw [Bool.not_eq_true] at active
    simp only [runOn, s.toController.update_inactive config now readings active, disabling] at rests
    rcases rests with idle | failed
    · cases idle
    · cases failed

end DisableLaw

section Results

variable {config : Config} {s t : System} {event : Event} {log : DisableLog}

theorem disableLaw_of_reachable {guard : Guard System Event}
    (reachable : Reachable (observed (blockStep config) logDisable) (onState guard)
      (configured, {}) (s, log)) : DisableLaw s log := by
  have holds := observed_step_invariant DisableLaw parked_configured ⟨nofun, trivial⟩
    (fun event _ law _ step move => law.step step move) reachable
  exact holds.2

/-- A guarded step starts no descent with a failure still recorded. -/
theorem unblamed_of_move (clear : log.blamed = false) (allowed : withdrawsBlame s event = true)
    (move : BlockMove config s event t) : (logDisable s event t log).blamed = false := by
  cases move with
  | skip now readings inactive =>
      have outside : ¬(s.phase ≠ .disabling ∧ s.phase = .disabling) :=
        fun entered => entered.1 entered.2
      simp only [logDisable, blamedAfter, if_neg outside, clear]
  | update now readings c active cycle =>
      simp only [withdrawsBlame, active, Bool.true_and, Bool.not_eq_true'] at allowed
      simp only [logDisable, blamedAfter, allowed, clear, ite_self]
  | _ => exact clear

theorem unblamed_of_reachable
    (reachable : Reachable (observed (blockStep config) logDisable) (onState withdrawsBlame)
      (configured, {}) (s, log)) : log.blamed = false := by
  have holds := observed_invariant (fun _ log => log.blamed = false) parked_configured rfl
    (fun event _ clear allowed move => unblamed_of_move clear allowed move) reachable
  exact holds.2

end Results

/-- Runs that start no descent with a failure still recorded report every clean disable as a
success, and any run reports one exactly if its descent kept no failure. -/
theorem cleanDisable_of_withdrawsBlame (config : Config) :
    CleanDisableLaw config withdrawsBlame ∧
      ∀ s log t event,
        Reachable (observed (blockStep config) logDisable) (onState unguarded) (configured, {})
          (s, log) →
        blockStep config s event = some t → FinishesClean s log event t →
          (ReportsSuccess t.toController ↔ log.blamed = false) := by
  constructor
  · intro s log t event reachable _ step finishes
    have law := disableLaw_of_reachable reachable
    exact (law.reportsSuccess_iff step finishes).mpr (unblamed_of_reachable reachable)
  · intro s log t event reachable step finishes
    exact (disableLaw_of_reachable reachable).reportsSuccess_iff step finishes

/-- An enable whose first batch has just started, and a disable call that preempts it. -/
def preemptedEvents : List Event :=
  [Event.activate] ++ startupCycles ++ [Event.callEnable] ++ cycles 0x0040 [10] ++
    [Event.callDisable]

/-- The disable that preempts a batch is reported as a success although the batch expires. -/
theorem cleanDisable_of_expiredBatch :
    ∃ s log t, Reachable (observed (blockStep defaultConfig) logDisable) (onState withdrawsBlame)
        (configured, {}) (s, log) ∧
      blockStep defaultConfig s (.update 103000000000 (everyAxis 0x0040)) = some t ∧
      s.lastFailure.stage = .enableBatchTimeout ∧ ReportsSuccess t.toController := by
  have found : (run (observed (blockStep defaultConfig) logDisable) (onState withdrawsBlame)
      (configured, {}) (preemptedEvents ++ cycles 0x0040 [100, 101, 102])).any
      (fun observation => observation.1.phase = .disabling && !observation.2.refused &&
        withdrawsBlame observation.1 (.update 103000000000 (everyAxis 0x0040)) &&
        observation.1.lastFailure.stage = .enableBatchTimeout &&
        ((observation.1.toController.update defaultConfig 103000000000
          (everyAxis 0x0040)).phase = .idle)) = true := by
    decide +kernel
  rcases exists_reachable_of_run found with ⟨⟨s, log⟩, reachable, tested⟩
  simp only [Bool.and_eq_true, decide_eq_true_eq, Bool.not_eq_true'] at tested
  rcases tested with ⟨⟨⟨⟨disabling, unrefused⟩, allowed⟩, expired⟩, idle⟩
  have terminal : allTerminal (refreshedWords (everyAxis 0x0040)) = true := by decide +kernel
  exact ⟨s, log, _, reachable, rfl, expired,
    (cleanDisable_of_withdrawsBlame defaultConfig).1 s log _ _ reachable allowed rfl
      ⟨_, _, rfl, disabling, .inl idle, terminal, unrefused⟩⟩

/-- The disable that preempts a batch is told the failure of the enable when an axis has left
the batch. -/
theorem not_cleanDisable_of_invalidAxis : ¬CleanDisableLaw defaultConfig unguarded := by
  intro always
  have found : (run (observed (blockStep defaultConfig) logDisable) (onState unguarded)
      (configured, {}) (preemptedEvents ++ cycles 0x0007 [11] ++ cycles 0x0040 [12, 13])).any
      (fun observation => observation.1.phase = .disabling && !observation.2.refused &&
        ((observation.1.toController.update defaultConfig 14000000000
          (everyAxis 0x0040)).phase = .failed)) = true := by
    decide +kernel
  rcases exists_reachable_of_run found with ⟨⟨s, log⟩, reachable, tested⟩
  simp only [Bool.and_eq_true, decide_eq_true_eq, Bool.not_eq_true'] at tested
  rcases tested with ⟨⟨disabling, unrefused⟩, failed⟩
  have terminal : allTerminal (refreshedWords (everyAxis 0x0040)) = true := by decide +kernel
  have reported := always s log _ (.update 14000000000 (everyAxis 0x0040)) reachable rfl rfl
    ⟨_, _, rfl, disabling, .inr failed, terminal, unrefused⟩
  cases reported.1.symm.trans failed

end RtControl.EnableManager
