import RtControl.EnableManager.Results

/-!
# What one cycle reports

A cycle publishes results and records a failure by overwriting what earlier steps have left
there.  It reads neither, so a cycle that starts with nothing reported leaves exactly its own
reports.
-/

namespace RtControl.EnableManager

/-! ## Reports on top of earlier ones -/

/-- The diagnosis in a result slot. -/
def ResultSlot.failure (slot : ResultSlot) : Failure where
  stage := slot.stage
  batch := slot.failedBatch
  joint := slot.failedJoint
  statusWord := slot.statusWord

/-- A slot that a cycle has published, or else the earlier one. -/
def ResultSlot.onto (slot earlier : ResultSlot) : ResultSlot :=
  if slot.ready then slot else earlier

/-- The mark of a cycle that has recorded no failure; it is the stage of no record. -/
def Failure.unrecorded : Failure :=
  { stage := .operationInProgress }

/-- A failure that a cycle has recorded or cleared, or else the earlier one. -/
def Failure.onto (failure earlier : Failure) : Failure :=
  if failure.stage = .operationInProgress then earlier else failure

theorem Failure.onto_mk {stage : Stage} (shown : stage ≠ .operationInProgress) (batch joint : Int)
    (statusWord : UInt16) (earlier : Failure) :
    Failure.onto { stage, batch, joint, statusWord } earlier =
      { stage, batch, joint, statusWord } :=
  if_neg shown

namespace Controller

/-- A controller that nothing has reported to. -/
def unreported (s : Controller) : Controller :=
  { s with
    enableResult := {}
    disableResult := {}
    resetResult := {}
    lastFailure := .unrecorded }

/-- The reports of one controller record on top of those of another one. -/
def onto (s earlier : Controller) : Controller :=
  { s with
    enableResult := s.enableResult.onto earlier.enableResult
    disableResult := s.disableResult.onto earlier.disableResult
    resetResult := s.resetResult.onto earlier.resetResult
    lastFailure := s.lastFailure.onto earlier.lastFailure }

/-- The controller after a cycle, with only the results published and the failure recorded
in that cycle. -/
def reports (config : Config) (now : Int) (readings : Readings) (s : Controller) : Controller :=
  s.unreported.update config now readings

section Onto

variable (config : Config) (now : Int) (s earlier : Controller)

theorem startEmergency_onto {stage : Stage} (shown : stage ≠ .operationInProgress) (joint : Int)
    (statusWord : UInt16) :
    (s.onto earlier).startEmergency config now stage joint statusWord =
      (s.startEmergency config now stage joint statusWord).onto earlier := by
  simp only [startEmergency, onto, Failure.onto_mk shown]
  rfl

theorem recordEnableFailure_onto {stage : Stage} (shown : stage ≠ .operationInProgress)
    (joint : Int) :
    (s.onto earlier).recordEnableFailure stage joint =
      (s.recordEnableFailure stage joint).onto earlier := by
  simp only [recordEnableFailure, onto, Failure.onto_mk shown]

theorem updateEmergencyQuickStop_onto :
    (s.onto earlier).updateEmergencyQuickStop config now =
      (s.updateEmergencyQuickStop config now).onto earlier := by
  simp only [updateEmergencyQuickStop, apply_ite (onto · earlier)]
  rfl

theorem finishDownward_onto : (s.onto earlier).finishDownward = s.finishDownward.onto earlier := by
  simp only [finishDownward, show (s.onto earlier).phase = s.phase from rfl]
  split
  · simp only [finishStartup, apply_ite (onto · earlier), apply_ite (storeOwner · .none)]
    rfl
  · simp only [finishDisabling, apply_ite (onto · earlier), apply_ite (storeOwner · .none)]
    rfl
  · rfl
  · simp only [finishEmergency, show (s.onto earlier).interruptedOwner = s.interruptedOwner from rfl]
    by_cases enable : s.interruptedOwner = .enable
    · simp only [if_pos enable]
      rfl
    · by_cases disable : s.interruptedOwner = .disable
      · simp only [if_neg enable, if_pos disable]
        rfl
      · simp only [if_neg enable, if_neg disable]
        rfl
  · rfl

theorem recordStageTimeout_onto (scan : DownwardScan) :
    (s.onto earlier).recordStageTimeout scan = (s.recordStageTimeout scan).onto earlier := by
  have shown : (if scan.anyFault then Stage.faultRequiresReset else .disableTimeout) ≠
      .operationInProgress := by
    split_ifs <;> decide
  simp only [recordStageTimeout, apply_ite (onto · earlier)]
  simp only [onto, Failure.onto_mk shown]
  rfl

theorem expireStage_onto (scan : DownwardScan) :
    (s.onto earlier).expireStage config now scan = (s.expireStage config now scan).onto earlier := by
  simp only [expireStage, recordStageTimeout_onto, finishDownward_onto, apply_ite (onto · earlier)]
  rfl

theorem updateDownward_onto :
    (s.onto earlier).updateDownward config now = (s.updateDownward config now).onto earlier := by
  simp only [updateDownward, apply_ite (onto · earlier), ← finishDownward_onto,
    ← expireStage_onto]
  rfl

theorem updateDescent_onto :
    (s.onto earlier).updateDescent config now = (s.updateDescent config now).onto earlier := by
  simp only [updateDescent, ← updateDownward_onto, apply_ite (onto · earlier)]
  rfl

theorem settleBatch_onto (scan : EnableScan) :
    (s.onto earlier).settleBatch config now scan = (s.settleBatch config now scan).onto earlier := by
  have invalid : Stage.enableInvalidState ≠ .operationInProgress := by decide
  have timeout : Stage.enableBatchTimeout ≠ .operationInProgress := by decide
  simp only [settleBatch, recordEnableFailure_onto _ _ invalid, recordEnableFailure_onto _ _ timeout,
    apply_ite (onto · earlier)]
  rfl

theorem updateEnable_onto :
    (s.onto earlier).updateEnable config now = (s.updateEnable config now).onto earlier := by
  have detected : Stage.faultDetected ≠ .operationInProgress := by decide
  simp only [updateEnable, show (s.onto earlier).statusWords = s.statusWords from rfl]
  split
  · rw [← startEmergency_onto _ _ _ _ detected]
    rfl
  · simp only [updateInterBatchDelay, updateBatch, apply_ite (onto · earlier), ← settleBatch_onto]
    rfl

theorem updateReset_onto :
    (s.onto earlier).updateReset config now = (s.updateReset config now).onto earlier := by
  simp only [updateReset, apply_ite (onto · earlier)]
  rfl

theorem updateIdle_onto :
    (s.onto earlier).updateIdle config now = (s.updateIdle config now).onto earlier := by
  simp only [updateIdle, apply_ite (onto · earlier)]
  rfl

theorem updateFailed_onto :
    (s.onto earlier).updateFailed config now = (s.updateFailed config now).onto earlier := by
  simp only [updateFailed, apply_ite (onto · earlier)]
  rfl

theorem updateJtcActivating_onto :
    (s.onto earlier).updateJtcActivating config now =
      (s.updateJtcActivating config now).onto earlier := by
  simp only [updateJtcActivating, apply_ite (onto · earlier)]
  rfl

theorem updateEnabled_onto :
    (s.onto earlier).updateEnabled config now = (s.updateEnabled config now).onto earlier := by
  simp only [updateEnabled, apply_ite (onto · earlier)]
  rfl

theorem dispatch_onto :
    (s.onto earlier).dispatch config now = (s.dispatch config now).onto earlier := by
  simp only [dispatch, show (s.onto earlier).phase = s.phase from rfl]
  split
  · exact updateDescent_onto config now s earlier
  · exact updateIdle_onto config now s earlier
  · exact updateEnable_onto config now s earlier
  · exact updateEnable_onto config now s earlier
  · exact updateJtcActivating_onto config now s earlier
  · exact updateEnabled_onto config now s earlier
  · exact updateEnabled_onto config now s earlier
  · exact updateDescent_onto config now s earlier
  · exact updateDescent_onto config now s earlier
  · exact updateDescent_onto config now s earlier
  · exact updateReset_onto config now s earlier
  · exact updateReset_onto config now s earlier
  · exact updateEmergencyQuickStop_onto config now s earlier
  · exact updateFailed_onto config now s earlier
  · rfl

theorem monitorFaults_onto :
    (s.onto earlier).monitorFaults config now = (s.monitorFaults config now).onto earlier := by
  simp only [monitorFaults, show (s.onto earlier).phase = s.phase from rfl,
    show (s.onto earlier).statusWords = s.statusWords from rfl]
  split
  · rename_i axis stage tripped
    have shown : stage ≠ .operationInProgress := by
      rcases monitoredFailure_stage tripped with rfl | rfl <;> decide
    exact startEmergency_onto config now s earlier shown axis.val _
  · rfl

end Onto

/-- A cycle reports on top of what earlier steps have left. -/
theorem update_eq_reports_onto (config : Config) (now : Int) (readings : Readings)
    (s : Controller) :
    s.update config now readings = (s.reports config now readings).onto s := by
  have refreshed : s.refreshStatusWords readings =
      (s.unreported.refreshStatusWords readings).onto s := rfl
  simp only [reports, update, show s.unreported.active = s.active from rfl,
    apply_ite (onto · s), refreshed, monitorFaults_onto, dispatch_onto]
  rfl

end Controller

end RtControl.EnableManager
