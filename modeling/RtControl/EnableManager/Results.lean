import RtControl.EnableManager.Batches

/-!
# Well-formed results

A published result either reports a success and names nothing, or reports a failure
and names a batch and a joint that exist.  The published fields are copied from
members that earlier phases wrote, so the law of the results also speaks about the
failure records and about the phases that publish a failure.
-/

namespace RtControl.EnableManager

open RtControl.Transition

/-- The stages of a successful response. -/
def Stage.isOk : Stage → Bool
  | .success | .alreadyClear | .alreadyDisabled => true
  | _ => false

/-- A result slot that a response may be filled from. -/
structure ResultSlot.WellFormed (slot : ResultSlot) : Prop where
  accepted : slot.ok = true → slot.stage.isOk = true ∧ slot.failedBatch = -1 ∧
    slot.failedJoint = -1 ∧ slot.statusWord = 0
  refused : slot.ok = false → slot.stage.isOk = false ∧
    (-1 ≤ slot.failedBatch ∧ slot.failedBatch ≤ 4) ∧
    (-1 ≤ slot.failedJoint ∧ slot.failedJoint ≤ 13)

/-- A failure record that names an existing batch and an existing joint, or none. -/
structure Failure.Located (failure : Failure) : Prop where
  batch : -1 ≤ failure.batch ∧ failure.batch < batchCount
  joint : -1 ≤ failure.joint ∧ failure.joint < axisCount

/-- A failure record that is empty or reports a failure. -/
structure Failure.Sound (failure : Failure) : Prop extends failure.Located where
  stage : failure.stage = .success ∨ failure.stage.isOk = false

/-- The phases whose end publishes or keeps a recorded failure. -/
def Phase.isAccused (phase : Phase) : Bool :=
  phase = .rollback || phase.isEmergency

theorem noBatch : (-1 : Int) ≤ -1 ∧ (-1 : Int) < batchCount := by
  decide

theorem noJoint : (-1 : Int) ≤ -1 ∧ (-1 : Int) < axisCount := by
  decide

/-- A failed stage alone is a sound record. -/
theorem failure_sound {stage : Stage} (failed : stage.isOk = false) :
    ({ stage } : Failure).Sound :=
  ⟨⟨noBatch, noJoint⟩, Or.inr failed⟩

/-- A sound record of a failure is published well formed. -/
theorem published_refused {failure : Failure} (sound : failure.Sound)
    (failed : failure.stage ≠ .success) : (Controller.published false failure).WellFormed := by
  rcases sound with ⟨⟨batch, joint⟩, stage⟩
  refine ⟨nofun, fun _ => ⟨?_, ⟨batch.1, ?_⟩, joint.1, ?_⟩⟩
  · exact stage.resolve_left failed
  · exact Int.le_of_lt_add_one batch.2
  · exact Int.le_of_lt_add_one joint.2

/-- A success is published without a location. -/
theorem published_accepted {stage : Stage} (succeeded : stage.isOk = true) :
    (Controller.published true { stage }).WellFormed :=
  ⟨fun _ => ⟨succeeded, rfl, rfl, rfl⟩, nofun⟩

theorem Phase.not_isAccused_of_isHeld {phase : Phase} (held : phase.isHeld = true) :
    phase.isAccused = false := by
  cases phase <;> simp_all [isHeld, isAccused, isEmergency]

/-! ## The diagnosis of a stage timeout -/

/-- The axis a stage timeout names: the first one outside its terminal, else the
first faulted one. -/
def stageTimeoutAxis (words : Words) : Int :=
  let scan := downwardScan words
  if scan.firstNonterminal < 0 ∧ scan.anyFault then firstFaultedAxis words
  else scan.firstNonterminal

/-- The stage a stage timeout reports. -/
def stageTimeoutStage (words : Words) : Stage :=
  if (downwardScan words).anyFault then .faultRequiresReset else .disableTimeout

theorem stageTimeoutAxis_located (words : Words) :
    -1 ≤ stageTimeoutAxis words ∧ stageTimeoutAxis words < axisCount := by
  rw [stageTimeoutAxis, downwardScan_firstNonterminal, firstFaultedAxis_eq]
  split_ifs <;> exact axisIndex_bounds _

theorem stageTimeoutStage_isOk (words : Words) : (stageTimeoutStage words).isOk = false := by
  unfold stageTimeoutStage
  split_ifs <;> rfl

/-- A stage timeout in terms of the axis and the stage it names. -/
theorem Controller.recordStageTimeout_scan (s : Controller) :
    s.recordStageTimeout (downwardScan s.statusWords) =
      if s.primaryFailure.stage = .success then
        { s with
          primaryFailure := { s.primaryFailure with
            stage := stageTimeoutStage s.statusWords
            joint := stageTimeoutAxis s.statusWords
            statusWord :=
              if 0 ≤ stageTimeoutAxis s.statusWords then
                wordAt s.statusWords (stageTimeoutAxis s.statusWords)
              else 0 }
          lastFailure := {
            stage := stageTimeoutStage s.statusWords
            batch := -1
            joint := stageTimeoutAxis s.statusWords
            statusWord :=
              if 0 ≤ stageTimeoutAxis s.statusWords then
                wordAt s.statusWords (stageTimeoutAxis s.statusWords)
              else 0 } }
      else s := rfl

/-- A failure recorded earlier is kept. -/
theorem Controller.recordStageTimeout_of_failed {s : Controller} (scan : DownwardScan)
    (failed : s.primaryFailure.stage ≠ .success) : s.recordStageTimeout scan = s :=
  if_neg failed

/-- A stage timeout leaves a failure recorded. -/
theorem Controller.recordStageTimeout_failed (s : Controller) (scan : DownwardScan) :
    (s.recordStageTimeout scan).primaryFailure.stage ≠ .success := by
  simp only [recordStageTimeout]
  split_ifs with clear faulted <;> simp_all

/-! ## The failure records and the slots -/

/-- Every ready slot is well formed and both failure records name existing axes. -/
structure Recorded (s : Controller) : Prop where
  enable : s.enableResult.ready = true → s.enableResult.WellFormed
  disable : s.disableResult.ready = true → s.disableResult.WellFormed
  reset : s.resetResult.ready = true → s.resetResult.WellFormed
  primary : s.primaryFailure.Sound
  last : s.lastFailure.Located

namespace Recorded

variable {s t : Controller} {config : Config} {now : Int}

/-- A step that keeps the slots and the records keeps the law. -/
theorem congr (recorded : Recorded s) (enable : t.enableResult = s.enableResult)
    (disable : t.disableResult = s.disableResult) (reset : t.resetResult = s.resetResult)
    (primary : t.primaryFailure = s.primaryFailure) (last : t.lastFailure = s.lastFailure) :
    Recorded t := by
  rcases recorded with ⟨enabled, disabled, cleared, accused, latest⟩
  exact ⟨by rw [enable]; exact enabled, by rw [disable]; exact disabled,
    by rw [reset]; exact cleared, by rw [primary]; exact accused, by rw [last]; exact latest⟩

theorem storePhase (recorded : Recorded s) (phase : Phase) : Recorded (s.storePhase phase) :=
  recorded.congr rfl rfl rfl rfl rfl

theorem storeOwner (recorded : Recorded s) (owner : Owner) : Recorded (s.storeOwner owner) :=
  recorded.congr rfl rfl rfl rfl rfl

theorem setAllControlWords (recorded : Recorded s) (controlWord : UInt16) :
    Recorded (s.setAllControlWords controlWord) :=
  recorded.congr rfl rfl rfl rfl rfl

theorem startDownward (recorded : Recorded s) (phase : Phase) :
    Recorded (s.startDownward config now phase) :=
  recorded.congr rfl rfl rfl rfl rfl

theorem targetFaults (recorded : Recorded s) : Recorded s.targetFaults :=
  recorded.congr rfl rfl rfl rfl rfl

theorem recordFailure (recorded : Recorded s) {failure : Failure} (located : failure.Located) :
    Recorded (s.recordFailure failure) :=
  ⟨recorded.enable, recorded.disable, recorded.reset, recorded.primary, located⟩

theorem clearFailure (recorded : Recorded s) : Recorded s.clearFailure :=
  recorded.recordFailure ⟨noBatch, noJoint⟩

theorem publishEnable (recorded : Recorded s) {ok : Bool} {failure : Failure}
    (wellFormed : (Controller.published ok failure).WellFormed) :
    Recorded (s.publishEnable ok failure) :=
  ⟨fun _ => wellFormed, recorded.disable, recorded.reset, recorded.primary, recorded.last⟩

theorem publishDisable (recorded : Recorded s) {ok : Bool} {failure : Failure}
    (wellFormed : (Controller.published ok failure).WellFormed) :
    Recorded (s.publishDisable ok failure) :=
  ⟨recorded.enable, fun _ => wellFormed, recorded.reset, recorded.primary, recorded.last⟩

theorem publishReset (recorded : Recorded s) {ok : Bool} {failure : Failure}
    (wellFormed : (Controller.published ok failure).WellFormed) :
    Recorded (s.publishReset ok failure) :=
  ⟨recorded.enable, recorded.disable, fun _ => wellFormed, recorded.primary, recorded.last⟩

/-- A sound failure replaces both records. -/
theorem accuse (recorded : Recorded s) {failure : Failure} (sound : failure.Sound) :
    Recorded { s with primaryFailure := failure, lastFailure := failure } :=
  ⟨recorded.enable, recorded.disable, recorded.reset, sound, sound.toLocated⟩

/-- Withdrawing the failed stage keeps the location. -/
theorem withdraw (recorded : Recorded s) :
    Recorded { s with primaryFailure := { s.primaryFailure with stage := .success } } :=
  ⟨recorded.enable, recorded.disable, recorded.reset,
    ⟨⟨recorded.primary.batch, recorded.primary.joint⟩, Or.inl rfl⟩, recorded.last⟩

theorem answerAlreadyClear (recorded : Recorded s) : Recorded s.answerAlreadyClear :=
  recorded.clearFailure.publishReset (published_accepted rfl)

theorem recordEnableFailure (recorded : Recorded s) (known : s.currentBatch < batchCount)
    {stage : Stage} (failed : stage.isOk = false) {joint : Int}
    (inRange : -1 ≤ joint ∧ joint < axisCount) :
    Recorded (s.recordEnableFailure stage joint) :=
  recorded.accuse ⟨⟨⟨by simp only; omega, by simpa using known⟩, inRange⟩, Or.inr failed⟩

theorem preemptFailedEnable (recorded : Recorded s)
    (failed : s.primaryFailure.stage ≠ .success) : Recorded s.preemptFailedEnable :=
  (recorded.publishEnable (published_refused recorded.primary failed)).congr rfl rfl rfl rfl rfl

theorem preemptEnable (recorded : Recorded s) : Recorded (s.preemptEnable config now) := by
  have sound : Failure.Sound { stage := .preemptedByDisable } := failure_sound rfl
  have refused := recorded.publishEnable (published_refused sound nofun)
  exact refused.withdraw.congr rfl rfl rfl rfl rfl

theorem recordStageTimeout (recorded : Recorded s) :
    Recorded (s.recordStageTimeout (downwardScan s.statusWords)) := by
  have located := stageTimeoutAxis_located s.statusWords
  rw [Controller.recordStageTimeout_scan]
  by_cases clear : s.primaryFailure.stage = .success
  · rw [if_pos clear]
    exact ⟨recorded.enable, recorded.disable, recorded.reset,
      ⟨⟨recorded.primary.batch, located⟩, Or.inr (stageTimeoutStage_isOk _)⟩, ⟨noBatch, located⟩⟩
  · rw [if_neg clear]
    exact recorded

theorem startEmergency (recorded : Recorded s) (known : s.currentBatch < batchCount)
    {stage : Stage} (failed : stage.isOk = false) (axis : Axis) (statusWord : UInt16) :
    Recorded (s.startEmergency config now stage axis.val statusWord) := by
  have batch : -1 ≤ (if s.owner = .enable then (s.currentBatch : Int) else -1) ∧
      (if s.owner = .enable then (s.currentBatch : Int) else -1) < batchCount := by
    split_ifs
    · omega
    · exact noBatch
  have joint : -1 ≤ (axis.val : Int) ∧ (axis.val : Int) < axisCount := by
    have bound := axis.isLt
    omega
  exact ⟨recorded.enable, recorded.disable, recorded.reset, ⟨⟨batch, joint⟩, Or.inr failed⟩,
    ⟨batch, joint⟩⟩

theorem updateEmergencyQuickStop (recorded : Recorded s) :
    Recorded (s.updateEmergencyQuickStop config now) := by
  simp only [Controller.updateEmergencyQuickStop]
  split_ifs <;> exact recorded.congr rfl rfl rfl rfl rfl

/-! ## Completed descents -/

/-- A faulted axis is a sound location of a completed descent. -/
theorem firstFault_located (words : Words) :
    -1 ≤ (finishScan words).firstFault ∧ (finishScan words).firstFault < axisCount := by
  rw [finishScan_firstFault, firstFaultedAxis_eq]
  exact axisIndex_bounds _

theorem finishStartup (recorded : Recorded s) :
    Recorded (s.finishStartup (finishScan s.statusWords)) := by
  have located := firstFault_located s.statusWords
  apply Recorded.storeOwner
  split_ifs
  · exact recorded.storePhase _
  · exact (recorded.recordFailure ⟨noBatch, located⟩).storePhase _
  · exact recorded.storePhase _

theorem finishDisabling (recorded : Recorded s) :
    Recorded (s.finishDisabling (finishScan s.statusWords)) := by
  have located := firstFault_located s.statusWords
  apply Recorded.storeOwner
  split_ifs with faulted refused failed
  · have sound : Failure.Sound {
        stage := .faultRequiresReset
        joint := (finishScan s.statusWords).firstFault
        statusWord := wordAt s.statusWords (finishScan s.statusWords).firstFault } :=
      ⟨⟨noBatch, located⟩, Or.inr rfl⟩
    exact ((recorded.publishDisable (published_refused sound nofun)).recordFailure
      sound.toLocated).storePhase _
  · have sound : Failure.Sound { stage := .jtcDeactivateFailed } := failure_sound rfl
    exact (recorded.publishDisable (published_refused sound nofun)).storePhase _
  · exact (recorded.publishDisable (published_refused recorded.primary failed)).storePhase _
  · exact (recorded.clearFailure.publishDisable (published_accepted rfl)).storePhase _

theorem finishRollback (recorded : Recorded s) (failed : s.primaryFailure.stage ≠ .success) :
    Recorded (s.finishRollback (finishScan s.statusWords)) :=
  ((recorded.publishEnable (published_refused recorded.primary failed)).storePhase _).storeOwner _

theorem finishEmergency (recorded : Recorded s) (failed : s.primaryFailure.stage ≠ .success) :
    Recorded (s.finishEmergency (finishScan s.statusWords)) := by
  have refused := published_refused recorded.primary failed
  apply Recorded.storeOwner
  apply Recorded.storePhase
  split_ifs
  · exact recorded.publishEnable refused
  · exact recorded.publishDisable refused
  · exact recorded

/-- A completed descent publishes well-formed results. -/
theorem finishDownward (recorded : Recorded s)
    (accused : s.phase.isAccused = true → s.primaryFailure.stage ≠ .success) :
    Recorded s.finishDownward := by
  simp only [Controller.finishDownward]
  split
  next => exact recorded.finishStartup
  next => exact recorded.finishDisabling
  next rollback => exact recorded.finishRollback (accused (by rw [rollback]; rfl))
  next emergency => exact recorded.finishEmergency (accused (by rw [emergency]; rfl))
  next => exact recorded

end Recorded

/-! ## The law of the results -/

/-- What holds of the results, the failure records and the batch counter between two
steps. -/
structure ResultLaw (s : Controller) : Prop extends Recorded s where
  known : s.currentBatch < batchCount
  delay : s.phase = .interBatchDelay → s.currentBatch + 1 < batchCount
  accused : s.phase.isAccused = true → s.primaryFailure.stage ≠ .success

theorem monitoredFailure_stage {phase : Phase} {words : Words} {axis : Axis} {stage : Stage}
    (tripped : monitoredFailure phase words = some (axis, stage)) :
    stage = .faultDetected ∨ stage = .unexpectedDriveState := by
  unfold monitoredFailure at tripped
  split at tripped
  next =>
    obtain ⟨found, -, failure⟩ := List.exists_of_findSome?_eq_some tripped
    simp only at failure
    split_ifs at failure <;> cases failure
    · exact .inl rfl
    · exact .inr rfl
  next => contradiction

theorem monitoredFailure_isOk {phase : Phase} {words : Words} {axis : Axis} {stage : Stage}
    (tripped : monitoredFailure phase words = some (axis, stage)) : stage.isOk = false := by
  rcases monitoredFailure_stage tripped with rfl | rfl <;> rfl

namespace Controller

variable {config : Config} {now : Int} {s t : Controller}

/-- The axes a batch timeout may name. -/
theorem timedOutAxis_inRange {batch : Nat} (known : batch < batchCount) (words : Words) :
    0 ≤ timedOutAxis batch words ∧ timedOutAxis batch words < axisCount := by
  have first : 0 < batchSize batch := by
    have sizes : ∀ batch < batchCount, 0 < batchSize batch := by decide
    exact sizes batch known
  unfold timedOutAxis
  cases found : ((List.range (batchSize batch)).map (batchItem batch)).find? fun joint =>
      decodeState (wordAt words joint) ≠ .operationEnabled with
  | none => exact batchItem_inRange known first
  | some joint =>
      obtain ⟨item, listed, named⟩ := List.mem_map.mp (List.mem_of_find?_eq_some found)
      rw [Option.getD_some, ← named]
      exact batchItem_inRange known (List.mem_range.mp listed)

theorem invalidAxis_located (batch : Nat) (words : Words) :
    -1 ≤ (enableScan batch words).invalidAxis ∧
      (enableScan batch words).invalidAxis < axisCount := by
  rw [enableScan_invalidAxis]
  exact axisIndex_bounds _

theorem firstPending_located (targets : Axis → Bool) (words : Words) :
    -1 ≤ (resetScan targets words).firstPending ∧
      (resetScan targets words).firstPending < axisCount := by
  rw [resetScan_firstPending]
  exact axisIndex_bounds _

/-- Every cycle keeps the slots and the failure records. -/
theorem recorded_of_outcome (law : ResultLaw s) (outcome : Outcome config now s t) :
    Recorded t := by
  have recorded : Recorded s := law.toRecorded
  have known := law.known
  have scanned : Recorded s.batchScanned := recorded.congr rfl rfl rfl rfl rfl
  have delayed : Recorded s.delayScanned := recorded.congr rfl rfl rfl rfl rfl
  have descended : Recorded (s.descentScanned config now) := recorded.congr rfl rfl rfl rfl rfl
  have resetting : Recorded s.resetScanned := recorded.congr rfl rfl rfl rfl rfl
  have batchOf (stage : Stage) (failed : stage.isOk = false) {joint : Int}
      (inRange : -1 ≤ joint ∧ joint < axisCount) :
      Recorded (s.batchScanned.recordEnableFailure stage joint) :=
    scanned.recordEnableFailure known failed inRange
  cases outcome with
  | monitored axis stage tripped =>
      exact (recorded.startEmergency known (monitoredFailure_isOk tripped) axis
        _).updateEmergencyQuickStop
  | inactive => exact recorded
  | descentDone downward => exact descended.finishDownward law.accused
  | descentAdvance | descentHold => exact recorded.congr rfl rfl rfl rfl rfl
  | descentExpire normal expired =>
      exact descended.recordStageTimeout.congr rfl rfl rfl rfl rfl
  | emergencyExpire descending expired =>
      have failed : (s.descentScanned config now).primaryFailure.stage ≠ .success :=
        law.accused (by rw [descending]; rfl)
      rw [recordStageTimeout_of_failed _ failed]
      exact descended.finishDownward law.accused
  | quickStop => exact recorded.updateEmergencyQuickStop
  | acceptEnable =>
      exact ⟨recorded.enable, recorded.disable, recorded.reset,
        ⟨⟨noBatch, noJoint⟩, Or.inl rfl⟩, recorded.last⟩
  | idleAlreadyClear =>
      have consumed : Recorded { s.setAllControlWords 0x0000 with resetRequest := false } :=
        recorded.congr rfl rfl rfl rfl rfl
      exact consumed.targetFaults.answerAlreadyClear.storeOwner _
  | idleStartReset | failedStartReset => exact recorded.congr rfl rfl rfl rfl rfl
  | idleAlreadyDisabled =>
      have consumed : Recorded { s.setAllControlWords 0x0000 with disableRequest := false } :=
        recorded.congr rfl rfl rfl rfl rfl
      exact (consumed.clearFailure.publishDisable (published_accepted rfl)).storeOwner _
  | idleHold | activatingHold | heldHold | failedHold => exact recorded.setAllControlWords _
  | enableFault axis =>
      have dropped : Recorded { s.preemptSampled with disableRequest := false } :=
        recorded.congr rfl rfl rfl rfl rfl
      exact dropped.startEmergency known rfl axis _
  | delayPreempted => exact delayed.preemptEnable
  | nextBatch => exact delayed.congr rfl rfl rfl rfl rfl
  | delayHold => exact delayed
  | batchInvalid =>
      exact (batchOf .enableInvalidState rfl (invalidAxis_located _ _)).startDownward _
  | batchInvalidPreempted =>
      have refused : Stage.enableInvalidState ≠ .success := by decide
      exact ((batchOf .enableInvalidState rfl (invalidAxis_located _ _)).preemptFailedEnable
        refused).startDownward _
  | batchPreempted => exact scanned.preemptEnable
  | hardwareReady | batchComplete => exact scanned.congr rfl rfl rfl rfl rfl
  | batchExpire =>
      have inRange := timedOutAxis_inRange known s.statusWords
      exact (batchOf .enableBatchTimeout rfl ⟨by omega, inRange.2⟩).startDownward _
  | batchExpirePreempted =>
      have inRange := timedOutAxis_inRange known s.statusWords
      have refused : Stage.enableBatchTimeout ≠ .success := by decide
      exact ((batchOf .enableBatchTimeout rfl ⟨by omega, inRange.2⟩).preemptFailedEnable
        refused).withdraw.startDownward _
  | batchHold => exact scanned
  | activateFailed =>
      have sound : Failure.Sound { stage := .jtcActivateFailed } := failure_sound rfl
      exact (recorded.accuse sound).congr rfl rfl rfl rfl rfl
  | heldDescend | failedDescend => exact recorded.congr rfl rfl rfl rfl rfl
  | resetPreempted =>
      have sound : Failure.Sound { stage := .preemptedByDisable } := failure_sound rfl
      have refused := recorded.publishReset (published_refused sound (by decide))
      simp only [setAllControlWords, startDownward, publishReset] at refused ⊢
      exact refused.withdraw.congr rfl rfl rfl rfl rfl
  | raiseReset => exact recorded.congr rfl rfl rfl rfl rfl
  | resetDone =>
      exact ((resetting.clearFailure.publishReset (published_accepted rfl)).storePhase
        _).storeOwner _
  | resetExpire =>
      have sound : s.resetTimeoutFailure.Sound :=
        ⟨⟨noBatch, firstPending_located _ _⟩, Or.inr rfl⟩
      have refused : Stage.faultResetTimeout ≠ .success := by decide
      exact ((((resetting.recordFailure sound.toLocated).publishReset
        (published_refused sound refused)).setAllControlWords _).storePhase _).storeOwner _
  | resetHold => exact resetting
  | failedAlreadyClear =>
      have consumed : Recorded { s.setAllControlWords 0x0000 with resetRequest := false } :=
        recorded.congr rfl rfl rfl rfl rfl
      exact (consumed.targetFaults.answerAlreadyClear.storePhase _).storeOwner _

theorem updateEmergencyQuickStop_primaryFailure (s : Controller) :
    (s.updateEmergencyQuickStop config now).primaryFailure = s.primaryFailure := by
  simp only [updateEmergencyQuickStop]
  split_ifs <;> rfl

/-- A cycle that ends in a phase that publishes a failure has one recorded. -/
theorem accused_of_outcome (law : ResultLaw s) (outcome : Outcome config now s t) :
    t.phase.isAccused = true → t.primaryFailure.stage ≠ .success := by
  have unaccused {u : Controller} (rests : u.phase = .idle ∨ u.phase = .failed) :
      u.phase.isAccused = true → u.primaryFailure.stage ≠ .success := by
    intro accused
    rcases rests with rests | rests <;> rw [rests] at accused <;> contradiction
  cases outcome with
  | monitored axis stage tripped =>
      intro accused success
      rw [updateEmergencyQuickStop_primaryFailure] at success
      have failed := monitoredFailure_isOk tripped
      have named : stage = .success := success
      rw [named] at failed
      contradiction
  | inactive => exact law.accused
  | descentDone downward => exact unaccused (finishDownward_phase _ downward)
  | descentAdvance | descentHold => exact law.accused
  | descentExpire => exact fun _ => recordStageTimeout_failed _ _
  | emergencyExpire descending =>
      apply unaccused
      apply finishDownward_phase
      rw [recordStageTimeout_phase]
      exact (congrArg Phase.isDownward descending)
  | quickStop stopping =>
      intro _
      rw [updateEmergencyQuickStop_primaryFailure]
      exact law.accused (by rw [stopping]; rfl)
  | batchInvalid | batchExpire | activateFailed | enableFault =>
      intro _ success
      cases success
  | acceptEnable | nextBatch | batchComplete | hardwareReady | raiseReset =>
      intro accused
      cases accused
  | idleStartReset | failedStartReset =>
      intro accused
      cases accused
  | resetDone | resetExpire | failedAlreadyClear =>
      simp only [storeOwner, storePhase]
      intro accused
      cases accused
  | idleAlreadyClear idle | idleAlreadyDisabled idle | idleHold idle =>
      exact unaccused (Or.inl idle)
  | failedHold failed => exact unaccused (Or.inr failed)
  | delayPreempted | batchPreempted | batchInvalidPreempted | batchExpirePreempted =>
      simp only [preemptEnable, preemptFailedEnable, startDownward]
      intro accused
      cases accused
  | heldDescend | failedDescend | resetPreempted =>
      simp only [startDownward]
      intro accused
      cases accused
  | delayHold delaying =>
      intro accused
      have entered : Phase.isAccused .interBatchDelay = true := delaying ▸ accused
      cases entered
  | batchHold enabling =>
      intro accused
      have entered : Phase.isAccused .enabling = true := enabling ▸ accused
      cases entered
  | activatingHold activating =>
      intro accused
      have entered : Phase.isAccused .jtcActivating = true := activating ▸ accused
      cases entered
  | heldHold held =>
      intro accused
      exact absurd accused (Bool.eq_false_iff.mp (Phase.not_isAccused_of_isHeld held))
  | resetHold resetting =>
      intro accused
      have entered : Phase.isAccused .resetHigh = true := resetting ▸ accused
      cases entered

/-- Every cycle keeps the batch counter in range. -/
theorem known_of_flow (law : ResultLaw s) (flow : BatchFlow s t) :
    t.currentBatch < batchCount ∧
      (t.phase = .interBatchDelay → t.currentBatch + 1 < batchCount) := by
  have known := law.known
  cases flow with
  | outside after batch =>
      refine ⟨batch ▸ known, ?_⟩
      intro delaying
      rw [delaying] at after
      contradiction
  | accept idle after batch => simp [batch, after]
  | hold before after batch =>
      refine ⟨batch ▸ known, ?_⟩
      intro delaying
      rw [batch]
      exact law.delay (after.symm.trans delaying)
  | next delaying after batch =>
      have more := law.delay delaying
      simp [batch, after, more]
  | complete enabling after batch more =>
      refine ⟨batch ▸ known, fun _ => ?_⟩
      omega
  | ready enabling after batch => simp [batch, after, known]

/-- Every cycle keeps the law. -/
theorem resultLaw_of_outcome (law : ResultLaw s) (outcome : Outcome config now s t) :
    ResultLaw t := by
  obtain ⟨known, delay⟩ := known_of_flow law (batchFlow_of_outcome outcome)
  exact ⟨recorded_of_outcome law outcome, known, delay, accused_of_outcome law outcome⟩

end Controller

section Moves

variable {config : Config} {s t : System} {event : Event}

/-- A callback that keeps the failure record and leaves no accused phase keeps the
law. -/
theorem ResultLaw.callback (law : ResultLaw s.toController) (recorded : Recorded t.toController)
    (batch : t.currentBatch = s.currentBatch) (primary : t.primaryFailure = s.primaryFailure)
    (phase : t.phase = s.phase ∨ t.phase = .enabled ∨ t.phase = .jtcDeactivating) :
    ResultLaw t.toController := by
  rcases phase with same | other
  · exact ⟨recorded, batch ▸ law.known, by rw [same, batch]; exact law.delay,
      by rw [same, primary]; exact law.accused⟩
  · refine ⟨recorded, batch ▸ law.known, ?_, ?_⟩
    · rcases other with enabled | deactivating
      · rw [enabled]
        nofun
      · rw [deactivating]
        nofun
    · rcases other with enabled | deactivating
      · rw [enabled]
        nofun
      · rw [deactivating]
        nofun

theorem resultLaw_enable {late : Bool} (law : ResultLaw s.toController)
    (block : EnableBlock s late t) : ResultLaw t.toController := by
  have recorded : Recorded s.toController := law.toRecorded
  cases block with
  | accept =>
      exact law.callback
        ⟨nofun, recorded.disable, recorded.reset, recorded.primary, recorded.last⟩ rfl rfl
        (Or.inl rfl)
  | complete =>
      exact law.callback
        ⟨fun _ => published_accepted rfl, recorded.disable, recorded.reset, recorded.primary,
          ⟨noBatch, noJoint⟩⟩ rfl rfl (Or.inr (Or.inl rfl))
  | _ => exact law.callback (recorded.congr rfl rfl rfl rfl rfl) rfl rfl (Or.inl rfl)

theorem resultLaw_disable {late : Bool} (law : ResultLaw s.toController)
    (block : DisableBlock s late t) : ResultLaw t.toController := by
  have recorded : Recorded s.toController := law.toRecorded
  cases block with
  | preempt | take =>
      exact law.callback
        ⟨recorded.enable, nofun, recorded.reset, recorded.primary, recorded.last⟩ rfl rfl
        (Or.inl rfl)
  | takeEnabled =>
      exact law.callback
        ⟨recorded.enable, nofun, recorded.reset, recorded.primary, recorded.last⟩ rfl rfl
        (Or.inr (Or.inr rfl))
  | unsent | declined =>
      exact law.callback
        ⟨recorded.enable, recorded.disable, recorded.reset, recorded.primary,
          ⟨noBatch, noJoint⟩⟩ rfl rfl (Or.inl rfl)
  | _ => exact law.callback (recorded.congr rfl rfl rfl rfl rfl) rfl rfl (Or.inl rfl)

theorem resultLaw_reset {late : Bool} (law : ResultLaw s.toController)
    (block : ResetBlock s late t) : ResultLaw t.toController := by
  have recorded : Recorded s.toController := law.toRecorded
  cases block with
  | accept =>
      exact law.callback
        ⟨recorded.enable, recorded.disable, nofun, recorded.primary, recorded.last⟩ rfl rfl
        (Or.inl rfl)
  | _ => exact law.callback (recorded.congr rfl rfl rfl rfl rfl) rfl rfl (Or.inl rfl)

theorem resultLaw_worker (law : ResultLaw s.toController)
    (block : WorkerBlock s event t) : ResultLaw t.toController := by
  cases block <;>
    exact law.callback (law.toRecorded.congr rfl rfl rfl rfl rfl) rfl rfl (Or.inl rfl)

/-- Every block step keeps the law. -/
theorem resultLaw_of_step (law : ResultLaw s.toController)
    (step : blockStep config s event = some t) (move : BlockMove config s event t) :
    ResultLaw t.toController := by
  have recorded : Recorded s.toController := law.toRecorded
  cases move with
  | skip | controllerManager => exact law
  | update now readings c active cycle =>
      have refreshed : ResultLaw (s.toController.refreshStatusWords readings) :=
        ⟨recorded.congr rfl rfl rfl rfl rfl, law.known, law.delay, law.accused⟩
      exact Controller.resultLaw_of_outcome refreshed (outcome_of_step active step)
  | callEnable t block | enable late t running block => exact resultLaw_enable law block
  | callDisable t block | disable late t running block => exact resultLaw_disable law block
  | callReset t block | reset late t running block => exact resultLaw_reset law block
  | fireWorker t block | callWorker late t block | resumeWorker late t block
  | latchRestart t block => exact resultLaw_worker law block
  | activate =>
      refine ⟨⟨recorded.enable, recorded.disable, recorded.reset, ?_, ⟨noBatch, noJoint⟩⟩,
        Nat.zero_lt_succ 4, nofun, nofun⟩
      exact ⟨⟨noBatch, noJoint⟩, Or.inl rfl⟩
  | deactivate => exact ⟨recorded.congr rfl rfl rfl rfl rfl, law.known, nofun, nofun⟩

end Moves

/-- Nothing is reported when the controller is configured. -/
theorem resultLaw_configured : ResultLaw configured.toController := by
  have empty : Failure.Sound {} := ⟨⟨noBatch, noJoint⟩, Or.inl rfl⟩
  exact ⟨⟨nofun, nofun, nofun, empty, empty.toLocated⟩, Nat.zero_lt_succ 4, nofun, nofun⟩

end RtControl.EnableManager
