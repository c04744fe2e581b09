import RtControl.EnableManager.Downward

/-!
# The real-time cycle

`update` refreshes the status words, runs the fault monitor and dispatches on
the phase.  The whole cycle is one function of the controller record, because
no callback can observe it half done when `update()` is taken as atomic.
-/

namespace RtControl.EnableManager

/-! ## Batch membership -/

/-- Membership of an axis relative to the current batch. -/
structure BatchRole where
  isCurrent : Bool := false
  isPrevious : Bool := false
  deriving DecidableEq, Repr

/-- The two nested membership loops of `updateEnable`. -/
def batchRole (currentBatch : Nat) (axis : Axis) : BatchRole :=
  (List.range (currentBatch + 1)).foldl
    (fun role batch =>
      (List.range (batchSize batch)).foldl
        (fun role item =>
          if batchItem batch item = axis.val then
            { isCurrent := batch = currentBatch, isPrevious := batch < currentBatch }
          else
            role)
        role)
    {}

/-- Accumulators of the axis loop in `updateEnable`. -/
structure EnableScan where
  batchComplete : Bool := true
  invalidAxis : Int := -1

/-- One iteration of the axis loop in `updateEnable`. -/
def EnableScan.visit (currentBatch : Nat) (words : Words) (scan : EnableScan) (axis : Axis) :
    EnableScan :=
  let role := batchRole currentBatch axis
  let state := decodeState (words axis)
  if role.isPrevious then
    if state ≠ .operationEnabled ∧ scan.invalidAxis < 0 then
      { scan with invalidAxis := axis.val }
    else
      scan
  else if role.isCurrent then
    match state with
    | .switchOnDisabled | .readyToSwitchOn | .switchedOn =>
        { scan with batchComplete := false }
    | .operationEnabled => scan
    | _ =>
        { batchComplete := false
          invalidAxis := if scan.invalidAxis < 0 then axis.val else scan.invalidAxis }
  else
    scan

/-- The axis loop of `updateEnable` over the whole group. -/
def enableScan (currentBatch : Nat) (words : Words) : EnableScan :=
  axes.foldl (EnableScan.visit currentBatch words) {}

/-- The control word `updateEnable` writes to an axis while a batch runs. -/
def enableCommand (currentBatch : Nat) (axis : Axis) (state : DriveState) : UInt16 :=
  let role := batchRole currentBatch axis
  if role.isPrevious then 0x000F
  else if role.isCurrent then
    match state with
    | .switchOnDisabled => 0x0006
    | .readyToSwitchOn => 0x0007
    | .switchedOn => 0x000F
    | .operationEnabled => 0x000F
    | _ => 0x0000
  else 0x0000

/-- The control word of the delay between two batches. -/
def interBatchCommand (state : DriveState) : UInt16 :=
  if state = .operationEnabled then 0x000F else 0x0000

/-- The first axis of the batch that is not enabled, or its first member. -/
def timedOutAxis (currentBatch : Nat) (words : Words) : Int :=
  (((List.range (batchSize currentBatch)).map (batchItem currentBatch)).find? fun joint =>
    decodeState (wordAt words joint) ≠ .operationEnabled).getD (batchItem currentBatch 0)

/-- Accumulators of the axis loop in `updateReset`. -/
structure ResetScan where
  allReset : Bool := true
  firstPending : Int := -1

/-- An axis keeps the reset open while it is a faulted target or has not yet
reached its terminal. -/
def resetPending (targets : Axis → Bool) (words : Words) (axis : Axis) : Bool :=
  let state := decodeState (words axis)
  (targets axis && state = .fault) || !isConfirmedDisableTerminal axis state

/-- One iteration of the axis loop in `updateReset`. -/
def ResetScan.visit (targets : Axis → Bool) (words : Words) (scan : ResetScan) (axis : Axis) :
    ResetScan :=
  if resetPending targets words axis then
    { allReset := false
      firstPending := if scan.firstPending < 0 then axis.val else scan.firstPending }
  else
    scan

/-- The axis loop of `updateReset` over the whole group. -/
def resetScan (targets : Axis → Bool) (words : Words) : ResetScan :=
  axes.foldl (ResetScan.visit targets words) {}

/-- The control word of the high reset phase. -/
def resetCommand (target : Bool) (state : DriveState) : UInt16 :=
  if target && state = .fault then 0x0080 else 0x0000

/-- The axis and stage that trip the fault monitor, lowest axis first.  The
monitor watches the three phases in which the JTC may command motion. -/
def monitoredFailure (phase : Phase) (words : Words) : Option (Axis × Stage) :=
  if phase = .enabled ∨ phase = .jtcActivating ∨ phase = .jtcDeactivating then
    axes.findSome? fun axis =>
      let state := decodeState (words axis)
      if isFaultState state then some (axis, .faultDetected)
      else if phase = .enabled ∧ state ≠ .operationEnabled then
        some (axis, .unexpectedDriveState)
      else none
  else
    none

namespace Controller

variable (config : Config) (now : Int) (s : Controller)

/-! ## Enabling -/

/-- A preempting disable takes the state machine over from a clean enable. -/
def preemptEnable : Controller :=
  let s := { s with disableRequest := false }
  let s := s.publishEnable false { stage := .preemptedByDisable }
  let s := s.storeOwner .disable
  let s := { s with primaryFailure := { s.primaryFailure with stage := .success } }
  s.startDownward config now .disabling

/-- A failed batch under preemption answers the enable call with its failure
and descends for the disable call. -/
def preemptFailedEnable : Controller :=
  let s := s.publishEnable false s.primaryFailure
  let s := s.storeOwner .disable
  { s with disableRequest := false }

/-- Record an enable failure of the current batch. -/
def recordEnableFailure (stage : Stage) (joint : Int) : Controller :=
  let failure : Failure := {
    stage := stage
    batch := s.currentBatch
    joint := joint
    statusWord := wordAt s.statusWords joint }
  { s with primaryFailure := failure, lastFailure := failure }

/-- The delay between two batches. -/
def updateInterBatchDelay : Controller :=
  let s := { s with
    controlWords := fun axis => interBatchCommand (decodeState (s.statusWords axis)) }
  if s.enablePreemptRequested then
    s.preemptEnable config now
  else if s.stageDeadlineNs ≤ now then
    { s with
      currentBatch := s.currentBatch + 1
      stageDeadlineNs := now + config.batchTimeoutNs
      phase := .enabling }
  else
    s

/-- The part of the batch cycle after its axis loop. -/
def settleBatch (scan : EnableScan) : Controller :=
  if 0 ≤ scan.invalidAxis then
    let s := s.recordEnableFailure .enableInvalidState scan.invalidAxis
    if s.enablePreemptRequested then
      s.preemptFailedEnable.startDownward config now .disabling
    else
      s.startDownward config now .rollback
  else if scan.batchComplete then
    if s.enablePreemptRequested then
      s.preemptEnable config now
    else if s.currentBatch + 1 = batchCount then
      { s with enableHardwareReady := true, phase := .jtcActivating }
    else
      { s with
        stageDeadlineNs := now + config.interBatchDelayNs
        phase := .interBatchDelay }
  else if s.stageDeadlineNs ≤ now then
    let s := s.recordEnableFailure .enableBatchTimeout
      (timedOutAxis s.currentBatch s.statusWords)
    if s.enablePreemptRequested then
      let s := s.preemptFailedEnable
      let s := { s with primaryFailure := { s.primaryFailure with stage := .success } }
      s.startDownward config now .disabling
    else
      s.startDownward config now .rollback
  else
    s

/-- One cycle of the running batch. -/
def updateBatch : Controller :=
  let s := { s with
    controlWords := fun axis =>
      enableCommand s.currentBatch axis (decodeState (s.statusWords axis)) }
  s.settleBatch config now (enableScan s.currentBatch s.statusWords)

/-- One cycle of an enable: sample the preemption, check for faults, then run
the delay or the batch. -/
def updateEnable : Controller :=
  let s := { s with
    enablePreemptRequested := s.enablePreemptRequested || s.disableRequest }
  match axes.find? fun axis => isFaultState (decodeState (s.statusWords axis)) with
  | some axis =>
      { s with disableRequest := false }.startEmergency config now .faultDetected axis.val
        (s.statusWords axis)
  | none =>
      if s.phase = .interBatchDelay then s.updateInterBatchDelay config now
      else s.updateBatch config now

/-! ## Fault reset -/

/-- One cycle of a fault reset. -/
def updateReset : Controller :=
  if s.disableRequest then
    let s := { s with disableRequest := false }
    let s := s.setAllControlWords 0x0000
    let s := s.publishReset false { stage := .preemptedByDisable }
    let s := s.storeOwner .disable
    let s := { s with primaryFailure := { s.primaryFailure with stage := .success } }
    s.startDownward config now .disabling
  else if s.phase = .resetLow then
    { s.setAllControlWords 0x0000 with
      stageDeadlineNs := now + config.faultResetTimeoutNs
      phase := .resetHigh }
  else
    let scan := resetScan s.resetTargets s.statusWords
    let s := { s with
      controlWords := fun axis =>
        resetCommand (s.resetTargets axis) (decodeState (s.statusWords axis)) }
    if scan.allReset then
      ((s.clearFailure.publishReset true { stage := .success }).storePhase .idle).storeOwner
        .none
    else if s.stageDeadlineNs ≤ now then
      let failure : Failure := {
        stage := .faultResetTimeout
        joint := scan.firstPending
        statusWord :=
          if 0 ≤ scan.firstPending then wordAt s.statusWords scan.firstPending else 0 }
      let s := (s.recordFailure failure).publishReset false failure
      ((s.setAllControlWords 0x0000).storePhase .failed).storeOwner .none
    else
      s

/-- Take the faulted axes as reset targets. -/
def targetFaults : Controller :=
  { s with
    resetTargets := fun axis => isFaultState (decodeState (s.statusWords axis)) }

/-- A reset that finds no fault is answered at once. -/
def answerAlreadyClear : Controller :=
  s.clearFailure.publishReset true { stage := .alreadyClear }

/-! ## Dispatch -/

/-- The clean disabled phase. -/
def updateIdle : Controller :=
  let cleared := s.setAllControlWords 0x0000
  if s.enableRequest then
    { cleared with
      enableRequest := false
      currentBatch := 0
      enablePreemptRequested := false
      primaryFailure := {}
      enableHardwareReady := false
      stageDeadlineNs := now + config.batchTimeoutNs
      phase := .enabling }
  else if s.resetRequest then
    let targeted := { cleared with resetRequest := false }.targetFaults
    if !anyFault s.statusWords then
      targeted.answerAlreadyClear.storeOwner .none
    else
      (targeted.setAllControlWords 0x0000).storePhase .resetLow
  else if s.disableRequest then
    let consumed := { cleared with disableRequest := false }
    (consumed.clearFailure.publishDisable true { stage := .alreadyDisabled }).storeOwner .none
  else
    cleared

/-- The wait for the enable callback to activate the JTC. -/
def updateJtcActivating : Controller :=
  if s.jtcActivateFailedRequest then
    let s := { s with jtcActivateFailedRequest := false }
    let failure : Failure := { stage := .jtcActivateFailed }
    let s := { s with primaryFailure := failure }.recordFailure failure
    s.startDownward config now .rollback
  else
    s.setAllControlWords 0x000F

/-- Normal operation, and the wait for the disable callback to switch the JTC
off. -/
def updateEnabled : Controller :=
  let held := s.setAllControlWords 0x000F
  if s.disableRequest then
    { held with disableRequest := false }.startDownward config now .disabling
  else
    held

/-- The latched failure phase. -/
def updateFailed : Controller :=
  let cleared := s.setAllControlWords 0x0000
  if s.disableRequest then
    { cleared with disableRequest := false }.startDownward config now .disabling
  else if s.resetRequest then
    let targeted := { cleared with resetRequest := false }.targetFaults
    if !anyFault s.statusWords then
      (targeted.answerAlreadyClear.storePhase .idle).storeOwner .none
    else
      targeted.storePhase .resetLow
  else
    cleared

/-- A descending phase whose deadline was never set is started first. -/
def updateDescent : Controller :=
  let s := if s.stageDeadlineNs = 0 then s.startDownward config now s.phase else s
  s.updateDownward config now

/-- The fault monitor of the phases with possible motion. -/
def monitorFaults : Controller :=
  match monitoredFailure s.phase s.statusWords with
  | some (axis, stage) =>
      s.startEmergency config now stage axis.val (s.statusWords axis)
  | none => s

/-- The switch over the phase. -/
def dispatch : Controller :=
  match s.phase with
  | .startupSanitizing => s.updateDescent config now
  | .idle => s.updateIdle config now
  | .enabling | .interBatchDelay => s.updateEnable config now
  | .jtcActivating => s.updateJtcActivating config now
  | .jtcDeactivating | .enabled => s.updateEnabled config now
  | .disabling | .rollback | .emergencyDisable => s.updateDescent config now
  | .resetLow | .resetHigh => s.updateReset config now
  | .emergencyQuickStop => s.updateEmergencyQuickStop config now
  | .failed => s.updateFailed config now
  | .inactive => s

/-- One real-time cycle at time `now`. -/
def update (readings : Readings) : Controller :=
  if s.active then
    ((s.refreshStatusWords readings).monitorFaults config now).dispatch config now
  else
    s

end Controller

end RtControl.EnableManager
