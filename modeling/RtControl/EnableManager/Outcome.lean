import RtControl.EnableManager.Blocks

/-!
# The exact outcomes of one real-time cycle

`Cycle` leaves the members open that no callback reads.  `Outcome` lists the
same cycle with every member: the written words, the stage and its deadline, the
batch counter and the two failure records.  Each outcome is given by the helper
of the source that computes it, together with the guard that selects it.
-/

namespace RtControl.EnableManager

open RtControl.Transition

/-- Every phase that ends in idle or failed by a descent. -/
def Phase.isDescent (phase : Phase) : Bool :=
  phase.isNormalDescent || phase.isEmergency

/-- The phases that run `updateDownward`. -/
def Phase.isDownward (phase : Phase) : Bool :=
  phase.isNormalDescent || phase = .emergencyDisable

/-- The two phases in which the JTC may hold the enabled group. -/
def Phase.isHeld (phase : Phase) : Bool :=
  phase = .enabled || phase = .jtcDeactivating

namespace Controller

variable (config : Config) (now : Int) (s : Controller)

/-- A descent cycle after its axis loop. -/
def descentScanned : Controller :=
  { s with
    downwardStage := s.descentStage
    stageDeadlineNs := s.descentDeadline config now
    controlWords := fun axis => downwardCommand (decodeState (s.statusWords axis)) }

/-- An enable cycle after it has sampled the preemption. -/
def preemptSampled : Controller :=
  { s with enablePreemptRequested := s.enablePreemptRequested || s.disableRequest }

/-- A delay cycle after its axis loop. -/
def delayScanned : Controller :=
  { s.preemptSampled with
    controlWords := fun axis => interBatchCommand (decodeState (s.statusWords axis)) }

/-- A batch cycle after its axis loop. -/
def batchScanned : Controller :=
  { s.preemptSampled with
    controlWords := fun axis =>
      enableCommand s.currentBatch axis (decodeState (s.statusWords axis)) }

/-- A reset cycle after its axis loop. -/
def resetScanned : Controller :=
  { s with
    controlWords := fun axis =>
      resetCommand (s.resetTargets axis) (decodeState (s.statusWords axis)) }

/-- The failure a reset timeout reports. -/
def resetTimeoutFailure : Failure :=
  let scan := resetScan s.resetTargets s.statusWords
  { stage := .faultResetTimeout
    joint := scan.firstPending
    statusWord := if 0 ≤ scan.firstPending then wordAt s.statusWords scan.firstPending else 0 }

end Controller

open Controller in
/-- The outcomes of one active cycle from a refreshed state, with every member. -/
inductive Outcome (config : Config) (now : Int) (s : Controller) : Controller → Prop
  /-- The fault monitor starts an emergency and the quick stop runs at once. -/
  | monitored (axis : Axis) (stage : Stage)
      (tripped : monitoredFailure s.phase s.statusWords = some (axis, stage)) :
      Outcome config now s
        ((s.startEmergency config now stage axis.val (s.statusWords axis)).updateEmergencyQuickStop
          config now)
  /-- The controller was activated but its phase is inactive. -/
  | inactive
      (stopped : s.phase = .inactive) :
      Outcome config now s s
  /-- A descent completes with every axis faulted or terminal. -/
  | descentDone
      (downward : s.phase.isDownward = true)
      (last : 2 ≤ s.descentStage)
      (terminal : (downwardScan s.statusWords).allNonfaultTerminal = true) :
      Outcome config now s (s.descentScanned config now).finishDownward
  /-- A descent leaves its first or second stage. -/
  | descentAdvance
      (downward : s.phase.isDownward = true)
      (advances : advancesStage (downwardScan s.statusWords) s.descentStage = true)
      (early : s.descentStage < 2) :
      Outcome config now s { s.descentScanned config now with
        downwardStage := s.descentStage + 1
        stageDeadlineNs := now + config.disableStageTimeoutNs }
  /-- A stage of a normal descent expires. -/
  | descentExpire
      (normal : s.phase.isNormalDescent = true)
      (expired : s.descentExpires config now s.statusWords = true) :
      Outcome config now s
        { (s.descentScanned config now).recordStageTimeout (downwardScan s.statusWords) with
          interruptedOwner := s.owner
          stageDeadlineNs := now + config.disableStageTimeoutNs
          emergencyJtcDeactivateRequest := true
          phase := .emergencyQuickStop }
  /-- A stage of the emergency descent expires and ends it. -/
  | emergencyExpire
      (descending : s.phase = .emergencyDisable)
      (expired : s.descentExpires config now s.statusWords = true) :
      Outcome config now s
        ((s.descentScanned config now).recordStageTimeout
          (downwardScan s.statusWords)).finishDownward
  /-- A stage of a descent goes on. -/
  | descentHold
      (downward : s.phase.isDownward = true)
      (unfinished : ¬(2 ≤ s.descentStage ∧
        (downwardScan s.statusWords).allNonfaultTerminal = true))
      (waits : advancesStage (downwardScan s.statusWords) s.descentStage = false)
      (early : now < s.descentDeadline config now) :
      Outcome config now s (s.descentScanned config now)
  /-- The quick stop goes on or hands over to the emergency descent. -/
  | quickStop
      (stopping : s.phase = .emergencyQuickStop) :
      Outcome config now s (s.updateEmergencyQuickStop config now)
  /-- An admitted enable starts its first batch. -/
  | acceptEnable
      (idle : s.phase = .idle)
      (requested : s.enableRequest = true) :
      Outcome config now s { s with
        controlWords := fun _ => 0x0000
        enableRequest := false
        currentBatch := 0
        enablePreemptRequested := false
        primaryFailure := {}
        enableHardwareReady := false
        stageDeadlineNs := now + config.batchTimeoutNs
        phase := .enabling }
  /-- A reset in the clean idle phase finds no fault. -/
  | idleAlreadyClear
      (idle : s.phase = .idle)
      (unrequested : s.enableRequest = false)
      (requested : s.resetRequest = true)
      (healthy : anyFault s.statusWords = false) :
      Outcome config now s
        ({ s.setAllControlWords 0x0000 with
          resetRequest := false }.targetFaults.answerAlreadyClear.storeOwner .none)
  /-- A reset in the clean idle phase finds faulted axes. -/
  | idleStartReset
      (idle : s.phase = .idle)
      (unrequested : s.enableRequest = false)
      (requested : s.resetRequest = true)
      (faulted : anyFault s.statusWords = true) :
      Outcome config now s
        (({ s.setAllControlWords 0x0000 with
          resetRequest := false }.targetFaults.setAllControlWords 0x0000).storePhase .resetLow)
  /-- A disable in the clean idle phase is answered at once. -/
  | idleAlreadyDisabled
      (idle : s.phase = .idle)
      (unrequested : s.enableRequest = false)
      (noReset : s.resetRequest = false)
      (requested : s.disableRequest = true) :
      Outcome config now s
        (({ s.setAllControlWords 0x0000 with
          disableRequest := false }.clearFailure.publishDisable true
            { stage := .alreadyDisabled }).storeOwner .none)
  /-- The clean idle phase goes on. -/
  | idleHold
      (idle : s.phase = .idle)
      (unrequested : s.enableRequest = false) :
      Outcome config now s (s.setAllControlWords 0x0000)
  /-- A fault while enabling starts an emergency and drops a pending disable. -/
  | enableFault (axis : Axis)
      (enabling : s.phase.isEnabling = true)
      (found : (axes.find? fun axis => isFaultState (decodeState (s.statusWords axis))) =
        some axis) :
      Outcome config now s
        ({ s.preemptSampled with disableRequest := false }.startEmergency config now
          .faultDetected axis.val (s.statusWords axis))
  /-- A pending disable takes over in the delay between two batches. -/
  | delayPreempted
      (delaying : s.phase = .interBatchDelay)
      (healthy : anyFault s.statusWords = false)
      (preempted : (s.enablePreemptRequested || s.disableRequest) = true) :
      Outcome config now s (s.delayScanned.preemptEnable config now)
  /-- The delay ends and the next batch starts. -/
  | nextBatch
      (delaying : s.phase = .interBatchDelay)
      (healthy : anyFault s.statusWords = false)
      (unpreempted : (s.enablePreemptRequested || s.disableRequest) = false)
      (elapsed : s.stageDeadlineNs ≤ now) :
      Outcome config now s { s.delayScanned with
        currentBatch := s.currentBatch + 1
        stageDeadlineNs := now + config.batchTimeoutNs
        phase := .enabling }
  /-- The delay goes on. -/
  | delayHold
      (delaying : s.phase = .interBatchDelay)
      (healthy : anyFault s.statusWords = false)
      (unpreempted : (s.enablePreemptRequested || s.disableRequest) = false)
      (early : now < s.stageDeadlineNs) :
      Outcome config now s s.delayScanned
  /-- An axis of a batch left the path to Operation Enabled. -/
  | batchInvalid
      (enabling : s.phase = .enabling)
      (healthy : anyFault s.statusWords = false)
      (invalid : 0 ≤ (enableScan s.currentBatch s.statusWords).invalidAxis)
      (unpreempted : (s.enablePreemptRequested || s.disableRequest) = false) :
      Outcome config now s
        ((s.batchScanned.recordEnableFailure .enableInvalidState
          (enableScan s.currentBatch s.statusWords).invalidAxis).startDownward config now
            .rollback)
  /-- An axis left the path while a disable was pending. -/
  | batchInvalidPreempted
      (enabling : s.phase = .enabling)
      (healthy : anyFault s.statusWords = false)
      (invalid : 0 ≤ (enableScan s.currentBatch s.statusWords).invalidAxis)
      (preempted : (s.enablePreemptRequested || s.disableRequest) = true) :
      Outcome config now s
        ((s.batchScanned.recordEnableFailure .enableInvalidState
          (enableScan s.currentBatch s.statusWords).invalidAxis).preemptFailedEnable.startDownward
            config now .disabling)
  /-- A complete batch yields to a pending disable. -/
  | batchPreempted
      (enabling : s.phase = .enabling)
      (healthy : anyFault s.statusWords = false)
      (valid : (enableScan s.currentBatch s.statusWords).invalidAxis < 0)
      (complete : (enableScan s.currentBatch s.statusWords).batchComplete = true)
      (preempted : (s.enablePreemptRequested || s.disableRequest) = true) :
      Outcome config now s (s.batchScanned.preemptEnable config now)
  /-- The last batch is complete and the callback may activate the JTC. -/
  | hardwareReady
      (enabling : s.phase = .enabling)
      (healthy : anyFault s.statusWords = false)
      (valid : (enableScan s.currentBatch s.statusWords).invalidAxis < 0)
      (complete : (enableScan s.currentBatch s.statusWords).batchComplete = true)
      (unpreempted : (s.enablePreemptRequested || s.disableRequest) = false)
      (last : s.currentBatch + 1 = batchCount) :
      Outcome config now s { s.batchScanned with
        enableHardwareReady := true
        phase := .jtcActivating }
  /-- A batch other than the last is complete. -/
  | batchComplete
      (enabling : s.phase = .enabling)
      (healthy : anyFault s.statusWords = false)
      (valid : (enableScan s.currentBatch s.statusWords).invalidAxis < 0)
      (complete : (enableScan s.currentBatch s.statusWords).batchComplete = true)
      (unpreempted : (s.enablePreemptRequested || s.disableRequest) = false)
      (more : s.currentBatch + 1 ≠ batchCount) :
      Outcome config now s { s.batchScanned with
        stageDeadlineNs := now + config.interBatchDelayNs
        phase := .interBatchDelay }
  /-- A batch expires. -/
  | batchExpire
      (enabling : s.phase = .enabling)
      (healthy : anyFault s.statusWords = false)
      (incomplete : (enableScan s.currentBatch s.statusWords).batchComplete = false)
      (expired : s.stageDeadlineNs ≤ now)
      (unpreempted : (s.enablePreemptRequested || s.disableRequest) = false) :
      Outcome config now s
        ((s.batchScanned.recordEnableFailure .enableBatchTimeout
          (timedOutAxis s.currentBatch s.statusWords)).startDownward config now .rollback)
  /-- A batch expires while a disable was pending. -/
  | batchExpirePreempted
      (enabling : s.phase = .enabling)
      (healthy : anyFault s.statusWords = false)
      (incomplete : (enableScan s.currentBatch s.statusWords).batchComplete = false)
      (expired : s.stageDeadlineNs ≤ now)
      (preempted : (s.enablePreemptRequested || s.disableRequest) = true) :
      Outcome config now s
        (let failed := (s.batchScanned.recordEnableFailure .enableBatchTimeout
          (timedOutAxis s.currentBatch s.statusWords)).preemptFailedEnable
        { failed with
          primaryFailure := { failed.primaryFailure with stage := .success } }.startDownward
            config now .disabling)
  /-- A batch goes on. -/
  | batchHold
      (enabling : s.phase = .enabling)
      (healthy : anyFault s.statusWords = false)
      (valid : (enableScan s.currentBatch s.statusWords).invalidAxis < 0)
      (incomplete : (enableScan s.currentBatch s.statusWords).batchComplete = false)
      (early : now < s.stageDeadlineNs) :
      Outcome config now s s.batchScanned
  /-- The callback reported that the JTC was not activated. -/
  | activateFailed
      (activating : s.phase = .jtcActivating)
      (calm : monitoredFailure s.phase s.statusWords = none)
      (requested : s.jtcActivateFailedRequest = true) :
      Outcome config now s
        ({ s with
          jtcActivateFailedRequest := false
          primaryFailure := { stage := .jtcActivateFailed }
          lastFailure := { stage := .jtcActivateFailed } }.startDownward config now .rollback)
  /-- The group waits for the JTC. -/
  | activatingHold
      (activating : s.phase = .jtcActivating)
      (calm : monitoredFailure s.phase s.statusWords = none)
      (unrequested : s.jtcActivateFailedRequest = false) :
      Outcome config now s (s.setAllControlWords 0x000F)
  /-- A disable request starts the descent of the held group. -/
  | heldDescend
      (held : s.phase.isHeld = true)
      (calm : monitoredFailure s.phase s.statusWords = none)
      (requested : s.disableRequest = true) :
      Outcome config now s
        ({ s.setAllControlWords 0x000F with disableRequest := false }.startDownward config now
          .disabling)
  /-- The group is held in Operation Enabled. -/
  | heldHold
      (held : s.phase.isHeld = true)
      (calm : monitoredFailure s.phase s.statusWords = none)
      (unrequested : s.disableRequest = false) :
      Outcome config now s (s.setAllControlWords 0x000F)
  /-- A pending disable takes over from the reset operation. -/
  | resetPreempted
      (resetting : s.phase.isReset = true)
      (requested : s.disableRequest = true) :
      Outcome config now s
        ({ ({ s with disableRequest := false }.setAllControlWords 0x0000).publishReset false
            { stage := .preemptedByDisable } with
          owner := .disable
          primaryFailure := { s.primaryFailure with stage := .success } }.startDownward config now
            .disabling)
  /-- The low cycle of a reset is over. -/
  | raiseReset
      (resetting : s.phase = .resetLow)
      (unrequested : s.disableRequest = false) :
      Outcome config now s { s.setAllControlWords 0x0000 with
        stageDeadlineNs := now + config.faultResetTimeoutNs
        phase := .resetHigh }
  /-- A reset ends with every axis at its terminal. -/
  | resetDone
      (resetting : s.phase = .resetHigh)
      (unrequested : s.disableRequest = false)
      (done : (resetScan s.resetTargets s.statusWords).allReset = true) :
      Outcome config now s
        (((s.resetScanned.clearFailure.publishReset true
          { stage := .success }).storePhase .idle).storeOwner .none)
  /-- A reset expires. -/
  | resetExpire
      (resetting : s.phase = .resetHigh)
      (unrequested : s.disableRequest = false)
      (expired : s.stageDeadlineNs ≤ now) :
      Outcome config now s
        (((((s.resetScanned.recordFailure s.resetTimeoutFailure).publishReset false
          s.resetTimeoutFailure).setAllControlWords 0x0000).storePhase .failed).storeOwner .none)
  /-- A reset goes on. -/
  | resetHold
      (resetting : s.phase = .resetHigh)
      (unrequested : s.disableRequest = false) :
      Outcome config now s s.resetScanned
  /-- A disable request starts the descent of the failed group. -/
  | failedDescend
      (failed : s.phase = .failed)
      (requested : s.disableRequest = true) :
      Outcome config now s
        ({ s.setAllControlWords 0x0000 with disableRequest := false }.startDownward config now
          .disabling)
  /-- A reset in the failed phase finds no fault and returns to idle. -/
  | failedAlreadyClear
      (failed : s.phase = .failed)
      (unrequested : s.disableRequest = false)
      (requested : s.resetRequest = true)
      (healthy : anyFault s.statusWords = false) :
      Outcome config now s
        (({ s.setAllControlWords 0x0000 with
          resetRequest := false }.targetFaults.answerAlreadyClear.storePhase .idle).storeOwner
            .none)
  /-- A reset in the failed phase finds faulted axes. -/
  | failedStartReset
      (failed : s.phase = .failed)
      (unrequested : s.disableRequest = false)
      (requested : s.resetRequest = true)
      (faulted : anyFault s.statusWords = true) :
      Outcome config now s
        ({ s.setAllControlWords 0x0000 with
          resetRequest := false }.targetFaults.storePhase .resetLow)
  /-- The failed phase goes on. -/
  | failedHold
      (failed : s.phase = .failed)
      (unrequested : s.disableRequest = false) :
      Outcome config now s (s.setAllControlWords 0x0000)

namespace Controller

variable (config : Config) (now : Int) (s : Controller)

/-! ## The list is complete -/

theorem outcome_updateDescent (downward : s.phase.isDownward = true) :
    Outcome config now s (s.updateDescent config now) := by
  rw [updateDescent_eq]
  simp only [updateDownward]
  split_ifs with terminal advances beyond expired
  · exact .descentDone downward terminal.1 terminal.2
  · exfalso
    simp only [advancesStage] at advances
    split_ifs at advances <;> omega
  · have early : s.descentStage < 2 := by
      simp only [advancesStage] at advances
      split_ifs at advances <;> omega
    exact .descentAdvance downward advances early
  · have late : s.descentExpires config now s.statusWords = true := by
      simp only [descentExpires, Bool.and_eq_true, Bool.not_eq_true', decide_eq_true_eq]
      refine ⟨⟨?_, by simpa using advances⟩, expired⟩
      simpa [← Bool.not_eq_true] using terminal
    simp only [expireStage]
    by_cases emergency : s.phase = .emergencyDisable
    · rw [if_neg]
      · exact .emergencyExpire emergency late
      · simp only [recordStageTimeout]
        split_ifs <;> simp [emergency]
    · have normal : s.phase.isNormalDescent = true := by
        simpa [Phase.isDownward, emergency] using downward
      rw [if_pos]
      · have kept : ((s.descentScanned config now).recordStageTimeout
            (downwardScan s.statusWords)).owner = s.owner := by
          simp only [recordStageTimeout]
          split_ifs <;> rfl
        have outcome := Outcome.descentExpire normal late
        rw [← kept] at outcome
        exact outcome
      · simp only [recordStageTimeout]
        split_ifs <;> simpa using emergency
  · exact .descentHold downward (by simpa using terminal) (by simpa using advances)
      (by simpa using expired)

theorem outcome_settleBatch (enabling : s.phase = .enabling)
    (healthy : anyFault s.statusWords = false) :
    Outcome config now s
      (s.batchScanned.settleBatch config now (enableScan s.currentBatch s.statusWords)) := by
  simp only [settleBatch]
  split
  next invalid =>
    split
    next preempted => exact .batchInvalidPreempted enabling healthy invalid preempted
    next clear =>
      exact .batchInvalid enabling healthy invalid (Bool.eq_false_of_not_eq_true clear)
  next valid =>
    have inRange : (enableScan s.currentBatch s.statusWords).invalidAxis < 0 := by omega
    split
    next complete =>
      split
      next preempted => exact .batchPreempted enabling healthy inRange complete preempted
      next clear =>
        have unpreempted := Bool.eq_false_of_not_eq_true clear
        split
        next last => exact .hardwareReady enabling healthy inRange complete unpreempted last
        next more => exact .batchComplete enabling healthy inRange complete unpreempted more
    next pending =>
      have incomplete := Bool.eq_false_of_not_eq_true pending
      split
      next expired =>
        split
        next preempted =>
          exact .batchExpirePreempted enabling healthy incomplete expired preempted
        next clear =>
          exact .batchExpire enabling healthy incomplete expired
            (Bool.eq_false_of_not_eq_true clear)
      next running =>
        exact .batchHold enabling healthy inRange incomplete (Int.not_le.mp running)

theorem outcome_updateInterBatchDelay (delaying : s.phase = .interBatchDelay)
    (healthy : anyFault s.statusWords = false) :
    Outcome config now s (s.preemptSampled.updateInterBatchDelay config now) := by
  simp only [updateInterBatchDelay]
  split
  next preempted => exact .delayPreempted delaying healthy preempted
  next clear =>
    have unpreempted := Bool.eq_false_of_not_eq_true clear
    split
    next elapsed => exact .nextBatch delaying healthy unpreempted elapsed
    next running => exact .delayHold delaying healthy unpreempted (Int.not_le.mp running)

theorem outcome_updateEnable (enabling : s.phase.isEnabling = true) :
    Outcome config now s (s.updateEnable config now) := by
  simp only [updateEnable]
  split
  · rename_i axis found
    exact .enableFault axis enabling found
  · rename_i unfound
    have healthy : anyFault s.statusWords = false := by
      rw [anyFault_eq_false_iff]
      intro axis
      simpa using List.find?_eq_none.mp unfound axis (mem_axes axis)
    by_cases delaying : s.phase = .interBatchDelay
    · rw [if_pos delaying]
      exact outcome_updateInterBatchDelay config now s delaying healthy
    · have running : s.phase = .enabling := by
        simpa [Phase.isEnabling, delaying] using enabling
      rw [if_neg delaying]
      exact outcome_settleBatch config now s running healthy

theorem outcome_updateReset (resetting : s.phase.isReset = true) :
    Outcome config now s (s.updateReset config now) := by
  rw [updateReset]
  split
  next requested => exact .resetPreempted resetting requested
  next clear =>
    have unrequested := Bool.eq_false_of_not_eq_true clear
    split
    next low => exact .raiseReset low unrequested
    next low =>
      have high : s.phase = .resetHigh := by
        simpa [Phase.isReset, low] using resetting
      dsimp only
      split
      next done => exact .resetDone high unrequested done
      next =>
        split
        next expired => exact .resetExpire high unrequested expired
        next => exact .resetHold high unrequested

theorem outcome_updateIdle (idle : s.phase = .idle) :
    Outcome config now s (s.updateIdle config now) := by
  simp only [updateIdle]
  split_ifs with enable reset clear disable
  · exact .acceptEnable idle enable
  all_goals
    have unrequested : s.enableRequest = false := by simpa using enable
  · exact .idleAlreadyClear idle unrequested reset (by simpa using clear)
  · exact .idleStartReset idle unrequested reset (by simpa using clear)
  · exact .idleAlreadyDisabled idle unrequested (by simpa using reset) disable
  · exact .idleHold idle unrequested

theorem outcome_updateFailed (failed : s.phase = .failed) :
    Outcome config now s (s.updateFailed config now) := by
  simp only [updateFailed]
  split_ifs with disable reset clear
  · exact .failedDescend failed disable
  all_goals
    have unrequested : s.disableRequest = false := by simpa using disable
  · exact .failedAlreadyClear failed unrequested reset (by simpa using clear)
  · exact .failedStartReset failed unrequested reset (by simpa using clear)
  · exact .failedHold failed unrequested

theorem outcome_updateEnabled (held : s.phase.isHeld = true)
    (calm : monitoredFailure s.phase s.statusWords = none) :
    Outcome config now s (s.updateEnabled config now) := by
  simp only [updateEnabled]
  split_ifs with requested
  · exact .heldDescend held calm requested
  · exact .heldHold held calm (by simpa using requested)

/-- A calm refreshed state dispatches to one of the listed outcomes. -/
theorem outcome_dispatch (calm : monitoredFailure s.phase s.statusWords = none) :
    Outcome config now s (s.dispatch config now) := by
  cases phase : s.phase <;> simp only [dispatch, phase]
  case inactive => exact .inactive phase
  case startupSanitizing | disabling | rollback | emergencyDisable =>
    exact outcome_updateDescent config now s (by simp [phase, Phase.isDownward, Phase.isNormalDescent])
  case idle => exact outcome_updateIdle config now s phase
  case enabling | interBatchDelay =>
    exact outcome_updateEnable config now s (by simp [phase, Phase.isEnabling])
  case jtcActivating =>
    simp only [updateJtcActivating]
    split_ifs with requested
    · exact .activateFailed phase calm requested
    · exact .activatingHold phase calm (by simpa using requested)
  case enabled | jtcDeactivating =>
    exact outcome_updateEnabled config now s (by simp [phase, Phase.isHeld]) calm
  case resetLow | resetHigh =>
    exact outcome_updateReset config now s (by simp [phase, Phase.isReset])
  case emergencyQuickStop => exact .quickStop phase
  case failed => exact outcome_updateFailed config now s phase

/-- Every active cycle is one of the listed outcomes. -/
theorem update_outcome (readings : Readings) (active : s.active = true) :
    Outcome config now (s.refreshStatusWords readings) (s.update config now readings) := by
  rw [update, if_pos active, monitorFaults]
  split
  · rename_i axis stage tripped
    exact .monitored axis stage tripped
  · rename_i calm
    exact outcome_dispatch config now _ calm

/-! ## Members that no outcome writes -/

theorem recordStageTimeout_phase (scan : DownwardScan) :
    (s.recordStageTimeout scan).phase = s.phase := by
  simp only [recordStageTimeout]
  split_ifs <;> rfl

/-- Completing a descent reports, rests and releases the state machine. -/
theorem finishDownward_eq :
    ∃ enableResult disableResult lastFailure phase owner,
      s.finishDownward =
        { s with enableResult, disableResult, lastFailure, phase, owner } := by
  simp only [finishDownward, finishStartup, finishDisabling, finishRollback, finishEmergency]
  split
  · split_ifs <;> exact ⟨_, _, _, _, _, rfl⟩
  · split_ifs <;> exact ⟨_, _, _, _, _, rfl⟩
  · exact ⟨_, _, _, _, _, rfl⟩
  · split_ifs <;> exact ⟨_, _, _, _, _, rfl⟩
  · exact ⟨_, _, _, _, _, rfl⟩

/-- A completed descent rests. -/
theorem finishDownward_phase (downward : s.phase.isDownward = true) :
    s.finishDownward.phase = .idle ∨ s.finishDownward.phase = .failed := by
  simp only [finishDownward]
  split
  · simp only [finishStartup, storeOwner, storePhase]
    split_ifs <;> simp
  · simp only [finishDisabling, storeOwner, storePhase]
    split_ifs <;> simp
  · simp only [finishRollback, storeOwner, storePhase]
    split_ifs <;> simp
  · simp only [finishEmergency, storeOwner, storePhase]
    split_ifs <;> simp
  · cases phase : s.phase <;> simp_all [Phase.isDownward, Phase.isNormalDescent]

/-- How a descent cycle ends: it completes on a terminal group, it completes on the expiry of
an emergency descent, it expires into the quick stop, or it stays in its phase. -/
theorem updateDescent_cases (downward : s.phase.isDownward = true) :
    (2 ≤ s.descentStage ∧ (downwardScan s.statusWords).allNonfaultTerminal = true ∧
        s.updateDescent config now = (s.descentScanned config now).finishDownward) ∨
      (s.descentExpires config now s.statusWords = true ∧ s.phase = .emergencyDisable ∧
        s.updateDescent config now = ((s.descentScanned config now).recordStageTimeout
          (downwardScan s.statusWords)).finishDownward) ∨
      (s.descentExpires config now s.statusWords = true ∧ s.phase.isNormalDescent = true ∧
        (s.updateDescent config now).phase = .emergencyQuickStop) ∨
      (s.descentExpires config now s.statusWords = false ∧
        ¬(2 ≤ s.descentStage ∧ (downwardScan s.statusWords).allNonfaultTerminal = true) ∧
        (s.updateDescent config now).phase = s.phase) := by
  generalize computed : s.updateDescent config now = t
  rw [updateDescent_eq] at computed
  simp only [updateDownward] at computed
  split_ifs at computed with terminal advances beyond expired
  · exact .inl ⟨terminal.1, terminal.2, computed.symm⟩
  · exfalso
    simp only [advancesStage] at advances
    split_ifs at advances <;> omega
  · subst computed
    exact .inr (.inr (.inr ⟨by simp [descentExpires, advances], terminal, rfl⟩))
  · have late : s.descentExpires config now s.statusWords = true := by
      simp only [descentExpires, Bool.and_eq_true, Bool.not_eq_true', decide_eq_true_eq]
      refine ⟨⟨?_, by simpa using advances⟩, expired⟩
      simpa [← Bool.not_eq_true] using terminal
    simp only [expireStage] at computed
    split_ifs at computed with normal
    · rw [recordStageTimeout_phase] at normal
      subst computed
      refine .inr (.inr (.inl ⟨late, ?_, rfl⟩))
      simpa [Phase.isDownward, show s.phase ≠ .emergencyDisable from normal] using downward
    · rw [recordStageTimeout_phase, not_not] at normal
      exact .inr (.inl ⟨late, normal, computed.symm⟩)
  · subst computed
    exact .inr (.inr (.inr ⟨by simp [descentExpires, expired], terminal, rfl⟩))

end Controller

/-- A block step of an active controller is an outcome of its cycle. -/
theorem outcome_of_step {config : Config} {now : Int} {readings : Readings} {s : System}
    {t : Controller} (active : s.active = true)
    (step : blockStep config s (.update now readings) = some { s with toController := t }) :
    Outcome config now (s.toController.refreshStatusWords readings) t := by
  have computed : s.toController.update config now readings = t :=
    congrArg System.toController (Option.some.inj step)
  rw [← computed]
  exact s.toController.update_outcome config now readings active

end RtControl.EnableManager
