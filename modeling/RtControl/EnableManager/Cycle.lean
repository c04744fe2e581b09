import RtControl.EnableManager.Update

/-!
# What one real-time cycle can do

`Cycle` lists every outcome of an active `update()` with the guard that selects
it.  Fields the callbacks never read (control words, stage, deadline, recorded
failures) are left open; the shared fields are given exactly.  Every invariant
of the concurrent system is derived from this list by one case analysis.
-/

namespace RtControl.EnableManager

/-- The two phases of a group emergency. -/
def Phase.isEmergency (phase : Phase) : Bool :=
  phase = .emergencyQuickStop || phase = .emergencyDisable

/-- The two phases of a batchwise enable. -/
def Phase.isEnabling (phase : Phase) : Bool :=
  phase = .enabling || phase = .interBatchDelay

/-- The two phases of a fault reset. -/
def Phase.isReset (phase : Phase) : Bool :=
  phase = .resetLow || phase = .resetHigh

/-- The descents whose stage expiry starts an emergency. -/
def Phase.isNormalDescent (phase : Phase) : Bool :=
  phase = .startupSanitizing || phase = .disabling || phase = .rollback

attribute [grind =] Phase.isEmergency Phase.isEnabling Phase.isReset Phase.isNormalDescent
  Controller.refreshStatusWords

namespace Controller

variable (config : Config) (now : Int) (s : Controller)

/-- The stage a descent cycle works on: a descent whose deadline was never set
is restarted. -/
def descentStage : Nat :=
  if s.stageDeadlineNs = 0 then 0 else s.downwardStage

/-- The deadline a descent cycle works on. -/
def descentDeadline : Int :=
  if s.stageDeadlineNs = 0 then now + config.disableStageTimeoutNs else s.stageDeadlineNs

/-- The descent cycle neither finishes nor advances its stage and is late. -/
def descentExpires (words : Words) : Bool :=
  let scan := downwardScan words
  !(2 ≤ s.descentStage && scan.allNonfaultTerminal) &&
    !advancesStage scan s.descentStage && s.descentDeadline config now ≤ now

/-- The cycle finds a reason to start an emergency: a monitored failure, a
fault while enabling, or an expired stage of a normal descent. -/
def raisesEmergency (words : Words) : Bool :=
  (monitoredFailure s.phase words).isSome ||
    (s.phase.isEnabling && anyFault words) ||
    (s.phase.isNormalDescent && s.descentExpires config now words)

end Controller

/-- The outcomes of one active cycle from a refreshed state. -/
inductive Cycle (config : Config) (now : Int) (s : Controller) : Controller → Prop
  /-- Nothing but the written words and the stage bookkeeping changes. -/
  | hold (controlWords : Words) (downwardStage : Nat) (stageDeadlineNs : Int)
      (steady : s.phase.isEnabling = false)
      (calm : monitoredFailure s.phase s.statusWords = none) :
      Cycle config now s { s with controlWords, downwardStage, stageDeadlineNs }
  /-- The running batch or delay continues; a pending disable is sampled. -/
  | holdEnable (controlWords : Words)
      (enabling : s.phase.isEnabling = true)
      (healthy : anyFault s.statusWords = false) :
      Cycle config now s { s with
        controlWords
        enablePreemptRequested := s.enablePreemptRequested || s.disableRequest }
  /-- The fault monitor starts an emergency and the quick stop runs at once. -/
  | monitor (axis : Axis) (stage : Stage) (failure : Failure) (controlWords : Words)
      (phase : Phase) (downwardStage : Nat) (stageDeadlineNs : Int)
      (tripped : monitoredFailure s.phase s.statusWords = some (axis, stage))
      (entered : phase.isEmergency = true) :
      Cycle config now s { s with
        interruptedOwner := s.owner
        primaryFailure := failure
        lastFailure := failure
        owner := .internal
        emergencyJtcDeactivateRequest := true
        phase, controlWords, downwardStage, stageDeadlineNs }
  /-- A fault while enabling starts an emergency and drops a pending disable. -/
  | enableFault (failure : Failure) (stageDeadlineNs : Int)
      (enabling : s.phase.isEnabling = true)
      (faulted : anyFault s.statusWords = true) :
      Cycle config now s { s with
        enablePreemptRequested := s.enablePreemptRequested || s.disableRequest
        disableRequest := false
        interruptedOwner := s.owner
        primaryFailure := failure
        lastFailure := failure
        owner := .internal
        emergencyJtcDeactivateRequest := true
        phase := .emergencyQuickStop
        stageDeadlineNs }
  /-- A stage of a normal descent expires into the emergency quick stop. -/
  | expire (primaryFailure lastFailure : Failure) (controlWords : Words)
      (downwardStage : Nat) (stageDeadlineNs : Int)
      (descending : s.phase.isNormalDescent = true)
      (expired : s.descentExpires config now s.statusWords = true) :
      Cycle config now s { s with
        interruptedOwner := s.owner
        emergencyJtcDeactivateRequest := true
        phase := .emergencyQuickStop
        primaryFailure, lastFailure, controlWords, downwardStage, stageDeadlineNs }
  /-- The quick stop hands over to the emergency descent. -/
  | quickStopped (controlWords : Words) (downwardStage : Nat) (stageDeadlineNs : Int)
      (stopping : s.phase = .emergencyQuickStop) :
      Cycle config now s { s with
        phase := .emergencyDisable
        controlWords, downwardStage, stageDeadlineNs }
  /-- The startup sanitizer completes. -/
  | finishStartup (lastFailure : Failure) (controlWords : Words) (phase : Phase)
      (downwardStage : Nat) (stageDeadlineNs : Int)
      (sanitizing : s.phase = .startupSanitizing)
      (settled : phase = .failed ∨ phase = .idle ∧ allTerminal s.statusWords = true) :
      Cycle config now s { s with
        owner := .none
        phase, lastFailure, controlWords, downwardStage, stageDeadlineNs }
  /-- A normal disable completes and publishes its result. -/
  | finishDisabling (ok : Bool) (failure lastFailure : Failure) (controlWords : Words)
      (phase : Phase) (downwardStage : Nat) (stageDeadlineNs : Int)
      (descending : s.phase = .disabling)
      (settled : phase = .failed ∨ phase = .idle ∧ allTerminal s.statusWords = true) :
      Cycle config now s { s with
        disableResult := Controller.published ok failure
        owner := .none
        phase, lastFailure, controlWords, downwardStage, stageDeadlineNs }
  /-- An enable rollback completes and publishes the enable result. -/
  | finishRollback (failure : Failure) (controlWords : Words) (phase : Phase)
      (downwardStage : Nat) (stageDeadlineNs : Int)
      (descending : s.phase = .rollback)
      (settled : phase = .failed ∨ phase = .idle ∧ allTerminal s.statusWords = true) :
      Cycle config now s { s with
        enableResult := Controller.published false failure
        owner := .none
        phase, controlWords, downwardStage, stageDeadlineNs }
  /-- The emergency descent completes and publishes to the interrupted owner. -/
  | finishEmergency (enableResult disableResult : ResultSlot)
      (primaryFailure lastFailure : Failure) (controlWords : Words) (phase : Phase)
      (downwardStage : Nat) (stageDeadlineNs : Int)
      (descending : s.phase = .emergencyDisable)
      (answersEnable : if s.interruptedOwner = .enable then enableResult.ready = true
        else enableResult = s.enableResult)
      (answersDisable : if s.interruptedOwner = .disable then disableResult.ready = true
        else disableResult = s.disableResult)
      (settled : phase = .failed ∨ phase = .idle ∧ allTerminal s.statusWords = true) :
      Cycle config now s { s with
        owner := .none
        phase, enableResult, disableResult, primaryFailure, lastFailure, controlWords,
        downwardStage, stageDeadlineNs }
  /-- An admitted enable starts its first batch. -/
  | acceptEnable (stageDeadlineNs : Int)
      (idle : s.phase = .idle)
      (requested : s.enableRequest = true) :
      Cycle config now s { s with
        controlWords := fun _ => 0x0000
        enableRequest := false
        currentBatch := 0
        enablePreemptRequested := false
        primaryFailure := {}
        enableHardwareReady := false
        phase := .enabling
        stageDeadlineNs }
  /-- A reset in the clean idle phase finds no fault. -/
  | idleAlreadyClear (slot : ResultSlot) (resetTargets : Axis → Bool)
      (idle : s.phase = .idle)
      (unrequested : s.enableRequest = false)
      (requested : s.resetRequest = true)
      (answered : slot.ready = true) :
      Cycle config now s { s with
        controlWords := fun _ => 0x0000
        resetRequest := false
        lastFailure := {}
        resetResult := slot
        owner := .none
        resetTargets }
  /-- A disable in the clean idle phase is answered at once. -/
  | idleAlreadyDisabled (slot : ResultSlot)
      (idle : s.phase = .idle)
      (unrequested : s.enableRequest = false)
      (requested : s.disableRequest = true)
      (answered : slot.ready = true) :
      Cycle config now s { s with
        controlWords := fun _ => 0x0000
        disableRequest := false
        lastFailure := {}
        disableResult := slot
        owner := .none }
  /-- A reset finds faulted axes and pulls their reset bit low. -/
  | startReset (resetTargets : Axis → Bool)
      (resting : s.phase = .idle ∧ s.enableRequest = false ∨
        s.phase = .failed ∧ s.disableRequest = false)
      (requested : s.resetRequest = true) :
      Cycle config now s { s with
        controlWords := fun _ => 0x0000
        resetRequest := false
        phase := .resetLow
        resetTargets }
  /-- A pending disable takes over from the enable operation. -/
  | preemptEnable (failure primaryFailure lastFailure : Failure) (controlWords : Words)
      (stageDeadlineNs : Int)
      (enabling : s.phase.isEnabling = true)
      (healthy : anyFault s.statusWords = false)
      (preempted : (s.enablePreemptRequested || s.disableRequest) = true) :
      Cycle config now s { s with
        enablePreemptRequested := s.enablePreemptRequested || s.disableRequest
        disableRequest := false
        enableResult := Controller.published false failure
        owner := .disable
        phase := .disabling
        downwardStage := 0
        primaryFailure, lastFailure, controlWords, stageDeadlineNs }
  /-- The delay ends and the next batch starts. -/
  | nextBatch (controlWords : Words) (stageDeadlineNs : Int)
      (delaying : s.phase = .interBatchDelay)
      (healthy : anyFault s.statusWords = false)
      (unpreempted : s.enablePreemptRequested = false ∧ s.disableRequest = false) :
      Cycle config now s { s with
        enablePreemptRequested := false
        currentBatch := s.currentBatch + 1
        phase := .enabling
        controlWords, stageDeadlineNs }
  /-- A batch other than the last is complete. -/
  | batchComplete (controlWords : Words) (stageDeadlineNs : Int)
      (enabling : s.phase = .enabling)
      (healthy : anyFault s.statusWords = false)
      (unpreempted : s.enablePreemptRequested = false ∧ s.disableRequest = false) :
      Cycle config now s { s with
        enablePreemptRequested := false
        phase := .interBatchDelay
        controlWords, stageDeadlineNs }
  /-- The last batch is complete and the callback may activate the JTC. -/
  | hardwareReady (controlWords : Words)
      (enabling : s.phase = .enabling)
      (healthy : anyFault s.statusWords = false)
      (unpreempted : s.enablePreemptRequested = false ∧ s.disableRequest = false) :
      Cycle config now s { s with
        enablePreemptRequested := false
        enableHardwareReady := true
        phase := .jtcActivating
        controlWords }
  /-- A batch fails and the enable is rolled back. -/
  | rollbackEnable (failure : Failure) (controlWords : Words) (stageDeadlineNs : Int)
      (enabling : s.phase = .enabling)
      (healthy : anyFault s.statusWords = false)
      (unpreempted : s.enablePreemptRequested = false ∧ s.disableRequest = false) :
      Cycle config now s { s with
        enablePreemptRequested := false
        primaryFailure := failure
        lastFailure := failure
        phase := .rollback
        downwardStage := 0
        controlWords, stageDeadlineNs }
  /-- The callback reported that the JTC was not activated. -/
  | activateFailed (failure : Failure) (stageDeadlineNs : Int)
      (activating : s.phase = .jtcActivating)
      (calm : monitoredFailure s.phase s.statusWords = none)
      (requested : s.jtcActivateFailedRequest = true) :
      Cycle config now s { s with
        jtcActivateFailedRequest := false
        primaryFailure := failure
        lastFailure := failure
        phase := .rollback
        downwardStage := 0
        stageDeadlineNs }
  /-- A disable request starts the normal descent. -/
  | descend (controlWords : Words) (stageDeadlineNs : Int)
      (origin : s.phase = .enabled ∨ s.phase = .jtcDeactivating ∨ s.phase = .failed)
      (calm : monitoredFailure s.phase s.statusWords = none)
      (requested : s.disableRequest = true) :
      Cycle config now s { s with
        disableRequest := false
        phase := .disabling
        downwardStage := 0
        controlWords, stageDeadlineNs }
  /-- A pending disable takes over from the reset operation. -/
  | preemptReset (slot : ResultSlot) (primaryFailure : Failure) (stageDeadlineNs : Int)
      (resetting : s.phase.isReset = true)
      (requested : s.disableRequest = true)
      (answered : slot.ready = true) :
      Cycle config now s { s with
        disableRequest := false
        controlWords := fun _ => 0x0000
        resetResult := slot
        owner := .disable
        phase := .disabling
        downwardStage := 0
        primaryFailure, stageDeadlineNs }
  /-- The low cycle of a reset is over. -/
  | raiseReset (stageDeadlineNs : Int)
      (resetting : s.phase = .resetLow)
      (unrequested : s.disableRequest = false) :
      Cycle config now s { s with
        controlWords := fun _ => 0x0000
        phase := .resetHigh
        stageDeadlineNs }
  /-- A reset ends, either with every axis terminal or by its timeout. -/
  | finishReset (slot : ResultSlot) (lastFailure : Failure) (controlWords : Words)
      (phase : Phase)
      (resetting : s.phase = .resetHigh)
      (unrequested : s.disableRequest = false)
      (answered : slot.ready = true)
      (settled : phase = .failed ∨ phase = .idle ∧ allTerminal s.statusWords = true) :
      Cycle config now s { s with
        resetResult := slot
        owner := .none
        phase, lastFailure, controlWords }
  /-- A reset in the failed phase finds no fault and returns to idle. -/
  | failedAlreadyClear (slot : ResultSlot) (resetTargets : Axis → Bool)
      (failed : s.phase = .failed)
      (unrequested : s.disableRequest = false)
      (requested : s.resetRequest = true)
      (healthy : anyFault s.statusWords = false)
      (answered : slot.ready = true) :
      Cycle config now s { s with
        controlWords := fun _ => 0x0000
        resetRequest := false
        lastFailure := {}
        resetResult := slot
        phase := .idle
        owner := .none
        resetTargets }

namespace Controller

variable (config : Config) (now : Int) (s : Controller)

/-! ## Descents -/

/-- The settled phases of a completed descent. -/
theorem settled_phase {words : Words} {failing : Bool}
    (terminal : (downwardScan words).allNonfaultTerminal = true)
    (faulty : failing = false → anyFault words = false) :
    (if failing then Phase.failed else .idle) = .failed ∨
      (if failing then Phase.failed else .idle) = .idle ∧ allTerminal words = true := by
  cases failing with
  | true => simp
  | false => exact Or.inr ⟨rfl, allTerminal_of_scan terminal (faulty rfl)⟩

/-- A completed descent other than the emergency one. -/
theorem cycle_finishDownward (controlWords : Words) (downwardStage : Nat)
    (stageDeadlineNs : Int) (descending : s.phase.isNormalDescent = true)
    (terminal : (downwardScan s.statusWords).allNonfaultTerminal = true) :
    Cycle config now s
      { s with controlWords, downwardStage, stageDeadlineNs }.finishDownward := by
  cases phase : s.phase <;> simp only [phase, Phase.isNormalDescent] at descending <;>
    try contradiction
  case startupSanitizing =>
    simp only [finishDownward, finishStartup, storePhase, storeOwner, recordFailure,
      finishScan_anyFault]
    split_ifs with failed fault
    · exact .finishStartup _ _ _ _ _ phase (Or.inl rfl)
    · exact .finishStartup _ _ _ _ _ phase (Or.inl rfl)
    · exact .finishStartup _ _ _ _ _ phase
        (Or.inr ⟨rfl, allTerminal_of_scan terminal (by simpa using fault)⟩)
  case disabling =>
    simp only [finishDownward, finishDisabling, storePhase, storeOwner, recordFailure,
      publishDisable, clearFailure, finishScan_anyFault]
    split_ifs with fault deactivate failed
    · exact .finishDisabling _ _ _ _ _ _ _ phase (Or.inl rfl)
    · exact .finishDisabling _ _ _ _ _ _ _ phase (Or.inl rfl)
    · exact .finishDisabling _ _ _ _ _ _ _ phase (Or.inl rfl)
    · exact .finishDisabling _ _ _ _ _ _ _ phase
        (Or.inr ⟨rfl, allTerminal_of_scan terminal (by simpa using fault)⟩)
  case rollback =>
    simp only [finishDownward, finishRollback, storePhase, storeOwner, publishEnable,
      finishScan_anyFault]
    refine .finishRollback _ _ _ _ _ phase (settled_phase terminal ?_)
    intro clear
    simp_all

/-- The emergency descent completes either terminal or by its last timeout; the
idle phase is entered only when it is terminal. -/
theorem cycle_finishEmergency (primaryFailure lastFailure : Failure) (controlWords : Words)
    (downwardStage : Nat) (stageDeadlineNs : Int)
    (descending : s.phase = .emergencyDisable) :
    Cycle config now s
      { s with
        primaryFailure, lastFailure, controlWords, downwardStage,
        stageDeadlineNs }.finishDownward := by
  have settled : ∀ restart : Bool,
      (if anyFault s.statusWords || !(downwardScan s.statusWords).allNonfaultTerminal ||
          restart then Phase.failed else .idle) = .failed ∨
      (if anyFault s.statusWords || !(downwardScan s.statusWords).allNonfaultTerminal ||
          restart then Phase.failed else .idle) = .idle ∧
        allTerminal s.statusWords = true := by
    intro restart
    cases terminal : (downwardScan s.statusWords).allNonfaultTerminal with
    | false => simp
    | true => exact settled_phase terminal (by intro clear; simp_all)
  simp only [finishDownward, descending, finishEmergency, storePhase, storeOwner,
    publishEnable, publishDisable, finishScan_anyFault, finishScan_allTerminal]
  by_cases enable : s.interruptedOwner = .enable
  · simp only [if_pos enable]
    exact .finishEmergency _ _ _ _ _ _ _ _ descending (by simp [enable, published])
      (by simp [enable]) (settled _)
  · by_cases disable : s.interruptedOwner = .disable
    · simp only [if_neg enable, if_pos disable]
      exact .finishEmergency _ _ _ _ _ _ _ _ descending (by simp [disable])
        (by simp [disable, published]) (settled _)
    · simp only [if_neg enable, if_neg disable]
      exact .finishEmergency _ _ _ _ _ _ _ _ descending (by simp [enable])
        (by simp [disable]) (settled _)

/-- Recording a stage timeout touches the two failure records only. -/
theorem recordStageTimeout_eq (scan : DownwardScan) :
    ∃ primaryFailure lastFailure,
      s.recordStageTimeout scan = { s with primaryFailure, lastFailure } := by
  simp only [recordStageTimeout]
  split_ifs
  all_goals exact ⟨_, _, rfl⟩

theorem updateDescent_eq :
    s.updateDescent config now =
      { s with
        downwardStage := s.descentStage
        stageDeadlineNs := s.descentDeadline config now }.updateDownward config now := by
  simp only [updateDescent, descentStage, descentDeadline]
  split_ifs <;> rfl

/-- Every cycle of a descending phase is one of the listed outcomes. -/
theorem cycle_updateDescent
    (descending : s.phase.isNormalDescent = true ∨ s.phase = .emergencyDisable)
    (calm : monitoredFailure s.phase s.statusWords = none) :
    Cycle config now s (s.updateDescent config now) := by
  have steady : s.phase.isEnabling = false := by
    rcases descending with normal | emergency
    · cases phase : s.phase <;> simp_all [Phase.isNormalDescent, Phase.isEnabling]
    · simp [emergency, Phase.isEnabling]
  rw [updateDescent_eq]
  simp only [updateDownward]
  split_ifs with terminal advance beyond expired
  · rcases descending with normal | emergency
    · exact cycle_finishDownward config now s _ _ _ normal terminal.2
    · exact cycle_finishEmergency config now s _ _ _ _ _ emergency
  · exfalso
    simp only [advancesStage] at advance
    split_ifs at advance <;> omega
  · exact .hold _ _ _ steady calm
  · simp only [expireStage]
    obtain ⟨primaryFailure, lastFailure, recorded⟩ := recordStageTimeout_eq
      { s with
        downwardStage := s.descentStage
        stageDeadlineNs := s.descentDeadline config now
        controlWords := fun axis => downwardCommand (decodeState (s.statusWords axis)) }
      (downwardScan s.statusWords)
    rw [recorded]
    rcases descending with normal | emergency
    · have notEmergency : s.phase ≠ .emergencyDisable := by
        intro emergency
        simp [emergency, Phase.isNormalDescent] at normal
      rw [if_pos notEmergency]
      refine .expire _ _ _ _ _ normal ?_
      clear recorded
      grind -linarith [descentExpires]
    · rw [if_neg (not_not.mpr emergency)]
      exact cycle_finishEmergency config now s _ _ _ _ _ emergency
  · exact .hold _ _ _ steady calm

/-! ## Enable and reset -/

/-- Settling a batch: every outcome with the sampled preemption in place. -/
theorem cycle_settleBatch (controlWords : Words) (scan : EnableScan)
    (enabling : s.phase = .enabling) (healthy : anyFault s.statusWords = false) :
    Cycle config now s
      ({ s with
        controlWords
        enablePreemptRequested :=
          s.enablePreemptRequested || s.disableRequest }.settleBatch config now scan) := by
  have inBatch : s.phase.isEnabling = true := by simp [enabling, Phase.isEnabling]
  cases preempted : (s.enablePreemptRequested || s.disableRequest) with
  | true =>
      simp only [settleBatch, recordEnableFailure, preemptFailedEnable, Controller.preemptEnable,
        publishEnable, storeOwner, startDownward, if_true]
      split_ifs
      · simpa only [preempted] using
          Cycle.preemptEnable _ _ _ _ _ inBatch healthy preempted
      · simpa only [preempted] using
          Cycle.preemptEnable _ _ _ _ _ inBatch healthy preempted
      · simpa only [preempted] using
          Cycle.preemptEnable _ _ _ _ _ inBatch healthy preempted
      · simpa only [preempted] using Cycle.holdEnable _ inBatch healthy
  | false =>
      have unpreempted : s.enablePreemptRequested = false ∧ s.disableRequest = false := by
        simpa using preempted
      simp only [settleBatch, recordEnableFailure, startDownward, Bool.false_eq_true, if_false]
      split_ifs
      · exact .rollbackEnable _ _ _ enabling healthy unpreempted
      · exact .hardwareReady _ enabling healthy unpreempted
      · exact .batchComplete _ _ enabling healthy unpreempted
      · exact .rollbackEnable _ _ _ enabling healthy unpreempted
      · simpa only [preempted] using Cycle.holdEnable _ inBatch healthy

/-- The delay between batches ends in a preemption, in the next batch or goes on. -/
theorem cycle_updateInterBatchDelay (delaying : s.phase = .interBatchDelay)
    (healthy : anyFault s.statusWords = false) :
    Cycle config now s
      ({ s with
        enablePreemptRequested :=
          s.enablePreemptRequested || s.disableRequest }.updateInterBatchDelay config now) := by
  have inBatch : s.phase.isEnabling = true := by simp [delaying, Phase.isEnabling]
  cases preempted : (s.enablePreemptRequested || s.disableRequest) with
  | true =>
      simp only [updateInterBatchDelay, Controller.preemptEnable, publishEnable, storeOwner,
        startDownward, if_true]
      simpa only [preempted] using
        Cycle.preemptEnable _ _ _ _ _ inBatch healthy preempted
  | false =>
      have unpreempted : s.enablePreemptRequested = false ∧ s.disableRequest = false := by
        simpa using preempted
      simp only [updateInterBatchDelay, Bool.false_eq_true, if_false]
      split_ifs
      · exact .nextBatch _ _ delaying healthy unpreempted
      · simpa only [preempted] using Cycle.holdEnable _ inBatch healthy

/-- Every cycle of a batchwise enable is one of the listed outcomes. -/
theorem cycle_updateEnable (enabling : s.phase.isEnabling = true) :
    Cycle config now s (s.updateEnable config now) := by
  simp only [updateEnable]
  split
  · rename_i axis found
    refine .enableFault _ _ enabling ?_
    have faulted : isFaultState (decodeState (s.statusWords axis)) = true := by
      simpa using List.find?_some found
    rw [anyFault, List.any_eq_true]
    exact ⟨axis, mem_axes axis, faulted⟩
  · rename_i unfound
    have healthy : anyFault s.statusWords = false := by
      rw [anyFault_eq_false_iff]
      intro axis
      simpa using List.find?_eq_none.mp unfound axis (mem_axes axis)
    by_cases delaying : s.phase = .interBatchDelay
    · rw [if_pos delaying]
      exact cycle_updateInterBatchDelay config now s delaying healthy
    · have running : s.phase = .enabling := by
        simpa [Phase.isEnabling, delaying] using enabling
      simp only [delaying, if_false, updateBatch]
      exact cycle_settleBatch config now s _ _ running healthy

theorem ResetScan.foldl_allReset (targets : Axis → Bool) (words : Words) (group : List Axis)
    (scan : ResetScan) :
    (group.foldl (ResetScan.visit targets words) scan).allReset =
      (scan.allReset && group.all fun axis => !resetPending targets words axis) := by
  induction group generalizing scan with
  | nil => simp
  | cons axis group ih =>
      rw [List.foldl_cons, ih, List.all_cons, ← Bool.and_assoc]
      congr 1
      simp only [ResetScan.visit]
      split_ifs <;> simp_all

/-- A completed reset leaves every axis at its confirmed terminal. -/
theorem allTerminal_of_allReset {targets : Axis → Bool} {words : Words}
    (done : (resetScan targets words).allReset = true) : allTerminal words = true := by
  rw [allTerminal_iff]
  intro axis
  rw [resetScan, ResetScan.foldl_allReset, Bool.and_eq_true, List.all_eq_true] at done
  have axisDone := done.2 axis (mem_axes axis)
  simp only [resetPending, Bool.not_or, Bool.not_not, Bool.and_eq_true] at axisDone
  exact axisDone.2

/-- Every cycle of a fault reset is one of the listed outcomes. -/
theorem cycle_updateReset (resetting : s.phase.isReset = true)
    (calm : monitoredFailure s.phase s.statusWords = none) :
    Cycle config now s (s.updateReset config now) := by
  have steady : s.phase.isEnabling = false := by
    cases phase : s.phase <;> simp_all [Phase.isReset, Phase.isEnabling]
  cases requested : s.disableRequest with
  | true =>
      simp only [updateReset, requested, if_true, setAllControlWords, publishReset, storeOwner,
        startDownward]
      exact .preemptReset _ _ _ resetting requested rfl
  | false =>
      simp only [updateReset, requested, Bool.false_eq_true, if_false, setAllControlWords,
        publishReset, storeOwner, storePhase, clearFailure, recordFailure]
      by_cases low : s.phase = .resetLow
      · rw [if_pos low]
        simpa only [requested] using Cycle.raiseReset _ low requested
      · have high : s.phase = .resetHigh := by
          simpa [Phase.isReset, low] using resetting
        rw [if_neg low]
        by_cases done : (resetScan s.resetTargets s.statusWords).allReset = true
        · rw [if_pos done]
          simpa only [requested] using Cycle.finishReset _ _ _ _ high requested rfl
            (Or.inr ⟨rfl, allTerminal_of_allReset done⟩)
        · rw [if_neg done]
          by_cases expired : s.stageDeadlineNs ≤ now
          · rw [if_pos expired]
            simpa only [requested] using
              Cycle.finishReset _ _ _ _ high requested rfl (Or.inl rfl)
          · rw [if_neg expired]
            simpa only [requested] using Cycle.hold _ _ _ steady calm

/-! ## Resting phases -/

/-- Every cycle of the idle phase is one of the listed outcomes. -/
theorem cycle_updateIdle (idle : s.phase = .idle) :
    Cycle config now s (s.updateIdle config now) := by
  have steady : s.phase.isEnabling = false := by simp [idle, Phase.isEnabling]
  have calm : monitoredFailure s.phase s.statusWords = none := by
    simp [idle, monitoredFailure]
  simp only [updateIdle, setAllControlWords, targetFaults, answerAlreadyClear, clearFailure,
    publishReset, publishDisable, storeOwner, storePhase]
  split
  next enable => exact .acceptEnable _ idle enable
  next enable =>
    have unrequested : s.enableRequest = false := by simpa using enable
    split
    next reset =>
      split
      next clear => exact .idleAlreadyClear _ _ idle unrequested reset rfl
      next => exact .startReset _ (Or.inl ⟨idle, unrequested⟩) reset
    next =>
      split
      next disable => exact .idleAlreadyDisabled _ idle unrequested disable rfl
      next => exact .hold _ _ _ steady calm

/-- Every cycle of the failed phase is one of the listed outcomes. -/
theorem cycle_updateFailed (failed : s.phase = .failed) :
    Cycle config now s (s.updateFailed config now) := by
  have steady : s.phase.isEnabling = false := by simp [failed, Phase.isEnabling]
  have calm : monitoredFailure s.phase s.statusWords = none := by
    simp [failed, monitoredFailure]
  simp only [updateFailed, setAllControlWords, targetFaults, answerAlreadyClear, clearFailure,
    publishReset, storeOwner, storePhase, startDownward]
  split
  next disable => exact .descend _ _ (Or.inr (Or.inr failed)) calm disable
  next disable =>
    have unrequested : s.disableRequest = false := by simpa using disable
    split
    next reset =>
      split
      next clear =>
        exact .failedAlreadyClear _ _ failed unrequested reset (by simpa using clear) rfl
      next => exact .startReset _ (Or.inr ⟨failed, unrequested⟩) reset
    next => exact .hold _ _ _ steady calm

/-! ## The whole cycle -/

/-- The quick stop writes its words and may hand over to the descent. -/
theorem updateEmergencyQuickStop_eq (stopping : s.phase = .emergencyQuickStop) :
    ∃ controlWords phase downwardStage stageDeadlineNs,
      phase.isEmergency = true ∧
        s.updateEmergencyQuickStop config now =
          { s with controlWords, phase, downwardStage, stageDeadlineNs } := by
  simp only [updateEmergencyQuickStop, startDownward]
  split_ifs
  · exact ⟨_, _, _, _, rfl, rfl⟩
  · exact ⟨_, s.phase, _, _, by simp [stopping, Phase.isEmergency], rfl⟩

/-- A calm refreshed state dispatches to one of the listed outcomes. -/
theorem cycle_dispatch (calm : monitoredFailure s.phase s.statusWords = none) :
    Cycle config now s (s.dispatch config now) := by
  cases phase : s.phase <;> simp only [dispatch, phase]
  case inactive => exact .hold _ _ _ (by simp [phase, Phase.isEnabling]) calm
  case startupSanitizing =>
    exact cycle_updateDescent config now s (Or.inl (by simp [phase, Phase.isNormalDescent])) calm
  case idle => exact cycle_updateIdle config now s phase
  case enabling => exact cycle_updateEnable config now s (by simp [phase, Phase.isEnabling])
  case interBatchDelay =>
    exact cycle_updateEnable config now s (by simp [phase, Phase.isEnabling])
  case jtcActivating =>
    simp only [updateJtcActivating, recordFailure, startDownward, setAllControlWords]
    split_ifs with requested
    · exact .activateFailed _ _ phase calm requested
    · exact .hold _ _ _ (by simp [phase, Phase.isEnabling]) calm
  case enabled =>
    simp only [updateEnabled, startDownward, setAllControlWords]
    split_ifs with requested
    · exact .descend _ _ (Or.inl phase) calm requested
    · exact .hold _ _ _ (by simp [phase, Phase.isEnabling]) calm
  case jtcDeactivating =>
    simp only [updateEnabled, startDownward, setAllControlWords]
    split_ifs with requested
    · exact .descend _ _ (Or.inr (Or.inl phase)) calm requested
    · exact .hold _ _ _ (by simp [phase, Phase.isEnabling]) calm
  case disabling =>
    exact cycle_updateDescent config now s (Or.inl (by simp [phase, Phase.isNormalDescent])) calm
  case rollback =>
    exact cycle_updateDescent config now s (Or.inl (by simp [phase, Phase.isNormalDescent])) calm
  case resetLow => exact cycle_updateReset config now s (by simp [phase, Phase.isReset]) calm
  case resetHigh => exact cycle_updateReset config now s (by simp [phase, Phase.isReset]) calm
  case emergencyQuickStop =>
    simp only [updateEmergencyQuickStop, startDownward]
    split_ifs
    · exact .quickStopped _ _ _ phase
    · exact .hold _ _ _ (by simp [phase, Phase.isEnabling]) calm
  case emergencyDisable => exact cycle_updateDescent config now s (Or.inr phase) calm
  case failed => exact cycle_updateFailed config now s phase

/-- Every active cycle is one of the listed outcomes. -/
theorem update_cycle (readings : Readings) (active : s.active = true) :
    Cycle config now (s.refreshStatusWords readings) (s.update config now readings) := by
  rw [update, if_pos active, monitorFaults]
  split
  · rename_i axis stage tripped
    obtain ⟨controlWords, phase, downwardStage, stageDeadlineNs, entered, stopped⟩ :=
      updateEmergencyQuickStop_eq config now
        ((s.refreshStatusWords readings).startEmergency config now stage axis.val
          ((s.refreshStatusWords readings).statusWords axis)) rfl
    rw [show ((s.refreshStatusWords readings).startEmergency config now stage axis.val
        ((s.refreshStatusWords readings).statusWords axis)).dispatch config now =
        ((s.refreshStatusWords readings).startEmergency config now stage axis.val
          ((s.refreshStatusWords readings).statusWords axis)).updateEmergencyQuickStop
            config now from rfl, stopped]
    exact .monitor _ _ _ _ _ _ _ tripped entered
  · rename_i calm
    exact cycle_dispatch config now _ calm

/-- Members that no cycle writes. -/
structure Untouched (s t : Controller) : Prop where
  active : t.active = s.active
  restartRequired : t.restartRequired = s.restartRequired
  switchInProgress : t.switchInProgress = s.switchInProgress
  enableCallbackActive : t.enableCallbackActive = s.enableCallbackActive
  disableCallbackActive : t.disableCallbackActive = s.disableCallbackActive
  resetCallbackActive : t.resetCallbackActive = s.resetCallbackActive
  jtcDeactivateFailed : t.jtcDeactivateFailed = s.jtcDeactivateFailed

theorem untouched_of_cycle {config : Config} {now : Int} {s t : Controller}
    (cycle : Cycle config now s t) : Untouched s t := by
  cases cycle <;> exact ⟨rfl, rfl, rfl, rfl, rfl, rfl, rfl⟩

/-- An inactive controller skips the cycle. -/
theorem update_inactive (readings : Readings) (inactive : s.active = false) :
    s.update config now readings = s := by
  rw [update, if_neg (by simp [inactive])]

end Controller

/-! ## Flows: a cycle as one concern sees it -/

/-- A cycle as the enable operation sees it. -/
inductive EnableFlow (s t : Controller) : Prop
  /-- The operation does not move. -/
  | same
      (phase : t.phase = s.phase)
      (request : t.enableRequest = s.enableRequest)
      (hardware : t.enableHardwareReady = s.enableHardwareReady)
      (failed : t.jtcActivateFailedRequest = s.jtcActivateFailedRequest)
  /-- The cycle ends outside the enabling phases. -/
  | outside
      (enabling : t.phase.isEnabling = false)
      (activating : t.phase ≠ .jtcActivating)
      (enabled : t.phase ≠ .enabled)
      (request : t.enableRequest = s.enableRequest)
      (hardware : t.enableHardwareReady = s.enableHardwareReady)
  /-- A requested enable starts. -/
  | accept
      (idle : s.phase = .idle)
      (requested : s.enableRequest = true)
      (phase : t.phase = .enabling)
      (request : t.enableRequest = false)
      (hardware : t.enableHardwareReady = false)
  /-- The next batch or its delay starts. -/
  | advance
      (before : s.phase.isEnabling = true)
      (after : t.phase.isEnabling = true)
      (request : t.enableRequest = s.enableRequest)
      (hardware : t.enableHardwareReady = s.enableHardwareReady)
  /-- The last batch is complete. -/
  | ready
      (before : s.phase = .enabling)
      (after : t.phase = .jtcActivating)
      (request : t.enableRequest = s.enableRequest)
      (hardware : t.enableHardwareReady = true)
      (unrequested : s.disableRequest = false)

/-- Emergency phases lie outside the enable operation. -/
theorem Phase.outside_of_isEmergency {phase : Phase} (emergency : phase.isEmergency = true) :
    phase.isEnabling = false ∧ phase ≠ .jtcActivating ∧ phase ≠ .enabled := by
  cases phase <;> simp_all [isEmergency, isEnabling]

/-- The resting phases lie outside the enable operation. -/
theorem Phase.outside_of_settled {phase : Phase} {terminal : Prop}
    (settled : phase = .failed ∨ phase = .idle ∧ terminal) :
    phase.isEnabling = false ∧ phase ≠ .jtcActivating ∧ phase ≠ .enabled := by
  rcases settled with rfl | ⟨rfl, -⟩
  · decide
  · decide

theorem enableFlow_of_cycle {config : Config} {now : Int} {s t : Controller}
    (cycle : Cycle config now s t) : EnableFlow s t := by
  cases cycle with
  | hold => exact .same rfl rfl rfl rfl
  | holdEnable => exact .same rfl rfl rfl rfl
  | monitor _ _ _ _ _ _ _ _ entered =>
      obtain ⟨enabling, activating, enabled⟩ := Phase.outside_of_isEmergency entered
      exact .outside enabling activating enabled rfl rfl
  | enableFault => exact .outside rfl nofun nofun rfl rfl
  | expire => exact .outside rfl nofun nofun rfl rfl
  | quickStopped => exact .outside rfl nofun nofun rfl rfl
  | finishStartup _ _ _ _ _ _ settled =>
      obtain ⟨enabling, activating, enabled⟩ := Phase.outside_of_settled settled
      exact .outside enabling activating enabled rfl rfl
  | finishDisabling _ _ _ _ _ _ _ _ settled =>
      obtain ⟨enabling, activating, enabled⟩ := Phase.outside_of_settled settled
      exact .outside enabling activating enabled rfl rfl
  | finishRollback _ _ _ _ _ _ settled =>
      obtain ⟨enabling, activating, enabled⟩ := Phase.outside_of_settled settled
      exact .outside enabling activating enabled rfl rfl
  | finishEmergency _ _ _ _ _ _ _ _ _ _ _ settled =>
      obtain ⟨enabling, activating, enabled⟩ := Phase.outside_of_settled settled
      exact .outside enabling activating enabled rfl rfl
  | acceptEnable _ idle requested => exact .accept idle requested rfl rfl rfl
  | idleAlreadyClear => exact .same rfl rfl rfl rfl
  | idleAlreadyDisabled => exact .same rfl rfl rfl rfl
  | startReset => exact .outside rfl nofun nofun rfl rfl
  | preemptEnable => exact .outside rfl nofun nofun rfl rfl
  | nextBatch _ _ delaying =>
      exact .advance (by simp [delaying, Phase.isEnabling]) rfl rfl rfl
  | batchComplete _ _ enabling =>
      exact .advance (by simp [enabling, Phase.isEnabling]) rfl rfl rfl
  | hardwareReady _ enabling _ unpreempted => exact .ready enabling rfl rfl rfl unpreempted.2
  | rollbackEnable => exact .outside rfl nofun nofun rfl rfl
  | activateFailed => exact .outside rfl nofun nofun rfl rfl
  | descend => exact .outside rfl nofun nofun rfl rfl
  | preemptReset => exact .outside rfl nofun nofun rfl rfl
  | raiseReset => exact .outside rfl nofun nofun rfl rfl
  | finishReset _ _ _ _ _ _ _ settled =>
      obtain ⟨enabling, activating, enabled⟩ := Phase.outside_of_settled settled
      exact .outside enabling activating enabled rfl rfl
  | failedAlreadyClear => exact .outside rfl nofun nofun rfl rfl

/-- The fault monitor trips in the phases with possible motion only. -/
theorem phase_of_monitored {phase : Phase} {words : Words} {tripped : Axis × Stage}
    (monitored : monitoredFailure phase words = some tripped) :
    phase = .enabled ∨ phase = .jtcActivating ∨ phase = .jtcDeactivating := by
  unfold monitoredFailure at monitored
  split at monitored
  · assumption
  · contradiction

/-- Outside `kEnabled` the fault monitor trips on faults only. -/
theorem anyFault_of_monitored {phase : Phase} {words : Words} {tripped : Axis × Stage}
    (monitored : monitoredFailure phase words = some tripped) (switching : phase ≠ .enabled) :
    anyFault words = true := by
  unfold monitoredFailure at monitored
  split at monitored
  · obtain ⟨axis, -, found⟩ := List.exists_of_findSome?_eq_some monitored
    simp only [switching, false_and, if_false] at found
    split at found
    · rename_i faulted
      rw [anyFault, List.any_eq_true]
      exact ⟨axis, mem_axes axis, faulted⟩
    · contradiction
  · contradiction

/-- A cycle enters an emergency only for a reason it finds in the refreshed
state. -/
theorem raisesEmergency_of_cycle {config : Config} {now : Int} {s t : Controller}
    (cycle : Cycle config now s t) (after : t.phase.isEmergency = true)
    (before : s.phase.isEmergency = false) :
    s.raisesEmergency config now s.statusWords = true := by
  cases cycle with
  | monitor axis stage _ _ _ _ _ tripped =>
      simp [Controller.raisesEmergency, tripped]
  | enableFault _ _ enabling faulted =>
      simp [Controller.raisesEmergency, enabling, faulted]
  | expire _ _ _ _ _ descending expired =>
      simp [Controller.raisesEmergency, descending, expired]
  | quickStopped _ _ _ stopping => simp [stopping, Phase.isEmergency] at before
  | finishStartup _ _ _ _ _ _ settled
  | finishDisabling _ _ _ _ _ _ _ _ settled
  | finishRollback _ _ _ _ _ _ settled
  | finishEmergency _ _ _ _ _ _ _ _ _ _ _ settled
  | finishReset _ _ _ _ _ _ _ settled =>
      rcases settled with rfl | ⟨rfl, -⟩ <;> simp [Phase.isEmergency] at after
  | hold | holdEnable | idleAlreadyClear | idleAlreadyDisabled =>
      simp [before] at after
  | _ => simp [Phase.isEmergency] at after

/-- A cycle leaves an emergency only through the end of its descent. -/
theorem emergency_of_cycle {config : Config} {now : Int} {s t : Controller}
    (cycle : Cycle config now s t) (before : s.phase.isEmergency = true) :
    t.phase.isEmergency = true ∨
      s.phase = .emergencyDisable ∧ (t.phase = .idle ∨ t.phase = .failed) := by
  have stopping : s.phase = .emergencyQuickStop ∨ s.phase = .emergencyDisable := by
    simpa [Phase.isEmergency] using before
  cases cycle with
  | hold => exact Or.inl before
  | monitor _ _ _ _ _ _ _ _ entered => exact Or.inl entered
  | quickStopped => exact Or.inl rfl
  | finishEmergency _ _ _ _ _ _ _ _ descending _ _ settled =>
      rcases settled with failed | ⟨idle, -⟩
      · exact Or.inr ⟨descending, Or.inr failed⟩
      · exact Or.inr ⟨descending, Or.inl idle⟩
  | _ => grind -linarith

end RtControl.EnableManager
