import RtControl.EnableManager.State

/-!
# State-aware descent and emergency stop

Every path that removes power runs the same descent: startup sanitizing, normal
disable, enable rollback and the emergency descent after a group quick stop.
The descent scans the refreshed status words once, writes one control word to
every axis, and then advances, finishes or times out.
-/

namespace RtControl.EnableManager

/-! ## The scan of a descent cycle -/

/-- Accumulators of the loop in `updateDownward`. -/
structure DownwardScan where
  anyOperationEnabled : Bool := false
  anySwitchedOn : Bool := false
  allNonfaultTerminal : Bool := true
  anyFault : Bool := false
  firstNonterminal : Int := -1

namespace DownwardScan

/-- The accumulator changes of the loop's switch over the drive state. -/
def visitState (scan : DownwardScan) (axis : Axis) (state : DriveState) : DownwardScan :=
  match state with
  | .operationEnabled =>
      { scan with anyOperationEnabled := true, allNonfaultTerminal := false }
  | .switchedOn =>
      { scan with anySwitchedOn := true, allNonfaultTerminal := false }
  | .readyToSwitchOn =>
      { scan with
        allNonfaultTerminal :=
          scan.allNonfaultTerminal && isConfirmedDisableTerminal axis state }
  | .quickStopActive | .notReady | .unknown =>
      { scan with allNonfaultTerminal := false }
  | .faultReactionActive | .fault =>
      { scan with anyFault := true }
  | .switchOnDisabled => scan

/-- One iteration of the loop: the switch, then the first-nonterminal test. -/
def visit (words : Words) (scan : DownwardScan) (axis : Axis) : DownwardScan :=
  let state := decodeState (words axis)
  let scan := scan.visitState axis state
  if !isConfirmedDisableTerminal axis state && !isFaultState state &&
      scan.firstNonterminal < 0 then
    { scan with firstNonterminal := axis.val }
  else
    scan

end DownwardScan

/-- The descent loop over the whole group. -/
def downwardScan (words : Words) : DownwardScan :=
  axes.foldl (DownwardScan.visit words) {}

/-- The control word the descent writes to an axis. -/
def downwardCommand : DriveState → UInt16
  | .operationEnabled => 0x0007
  | .switchedOn => 0x0006
  | _ => 0x0000

/-- The control word of the emergency quick stop. -/
def quickStopCommand (state : DriveState) : UInt16 :=
  if state = .operationEnabled ∨ state = .quickStopActive then 0x0002
  else if state = .switchedOn then 0x0006
  else 0x0000

/-- Accumulators of the loop in `finishDownward`. -/
structure FinishScan where
  anyFault : Bool := false
  allTerminal : Bool := true
  firstFault : Int := -1

/-- One iteration of the loop in `finishDownward`. -/
def FinishScan.visit (words : Words) (scan : FinishScan) (axis : Axis) : FinishScan :=
  let state := decodeState (words axis)
  if isFaultState state then
    { scan with
      anyFault := true
      firstFault := if scan.firstFault < 0 then axis.val else scan.firstFault }
  else if !isConfirmedDisableTerminal axis state then
    { scan with allTerminal := false }
  else
    scan

/-- The loop of `finishDownward` over the whole group. -/
def finishScan (words : Words) : FinishScan :=
  axes.foldl (FinishScan.visit words) {}

/-- The lowest faulted axis, or `-1`. -/
def firstFaultedAxis (words : Words) : Int :=
  match axes.find? fun axis => isFaultState (decodeState (words axis)) with
  | some axis => axis.val
  | none => -1

namespace Controller

variable (config : Config) (now : Int) (s : Controller)

/-- Enter a descending phase at its first stage. -/
def startDownward (phase : Phase) : Controller :=
  { s with
    downwardStage := 0
    stageDeadlineNs := now + config.disableStageTimeoutNs
    phase := phase }

/-- Leave normal operation: remember the interrupted owner and the failure,
request the JTC deactivation and enter the group quick stop. -/
def startEmergency (stage : Stage) (failedJoint : Int) (statusWord : UInt16) : Controller :=
  let failure : Failure := {
    stage := stage
    batch := if s.owner = .enable then s.currentBatch else -1
    joint := failedJoint
    statusWord := statusWord }
  { s with
    interruptedOwner := s.owner
    primaryFailure := failure
    lastFailure := failure
    owner := .internal
    stageDeadlineNs := now + config.disableStageTimeoutNs
    emergencyJtcDeactivateRequest := true
    phase := .emergencyQuickStop }

/-- Hold enabled axes in quick stop until none is enabled or the stage expires,
then start the emergency descent. -/
def updateEmergencyQuickStop : Controller :=
  let anyOperationEnabled :=
    axes.any fun axis => decodeState (s.statusWords axis) = .operationEnabled
  let s := { s with
    controlWords := fun axis => quickStopCommand (decodeState (s.statusWords axis)) }
  if !anyOperationEnabled || s.stageDeadlineNs ≤ now then
    s.startDownward config now .emergencyDisable
  else
    s

/-! ## Completion of a descent -/

/-- Completion of the startup sanitizer. -/
def finishStartup (scan : FinishScan) : Controller :=
  let s :=
    if s.primaryFailure.stage ≠ .success then
      s.storePhase .failed
    else if scan.anyFault then
      (s.recordFailure {
        stage := .faultRequiresReset
        joint := scan.firstFault
        statusWord := wordAt s.statusWords scan.firstFault }).storePhase .failed
    else
      s.storePhase .idle
  s.storeOwner .none

/-- Completion of a normal disable. -/
def finishDisabling (scan : FinishScan) : Controller :=
  let s :=
    if scan.anyFault then
      let failure : Failure := {
        stage := .faultRequiresReset
        joint := scan.firstFault
        statusWord := wordAt s.statusWords scan.firstFault }
      ((s.publishDisable false failure).recordFailure failure).storePhase .failed
    else if s.jtcDeactivateFailed then
      (s.publishDisable false { stage := .jtcDeactivateFailed }).storePhase .failed
    else if s.primaryFailure.stage ≠ .success then
      (s.publishDisable false s.primaryFailure).storePhase .failed
    else
      (s.clearFailure.publishDisable true { stage := .success }).storePhase .idle
  s.storeOwner .none

/-- Completion of an enable rollback. -/
def finishRollback (scan : FinishScan) : Controller :=
  let s := s.publishEnable false s.primaryFailure
  let restart := s.restartRequired
  (s.storePhase (if scan.anyFault || restart then .failed else .idle)).storeOwner .none

/-- Completion of the emergency descent.  Only the slot of the interrupted
owner is published. -/
def finishEmergency (scan : FinishScan) : Controller :=
  let s :=
    if s.interruptedOwner = .enable then s.publishEnable false s.primaryFailure
    else if s.interruptedOwner = .disable then s.publishDisable false s.primaryFailure
    else s
  let restart := s.restartRequired
  (s.storePhase
    (if scan.anyFault || !scan.allTerminal || restart then .failed else .idle)).storeOwner
    .none

/-- Complete the descent of the current phase. -/
def finishDownward : Controller :=
  let scan := finishScan s.statusWords
  match s.phase with
  | .startupSanitizing => s.finishStartup scan
  | .disabling => s.finishDisabling scan
  | .rollback => s.finishRollback scan
  | .emergencyDisable => s.finishEmergency scan
  | _ => s

/-! ## One descent cycle -/

/-- The first diagnosis of a stage timeout; a failure recorded earlier is
kept.  `primary_failed_batch_` is not written here. -/
def recordStageTimeout (scan : DownwardScan) : Controller :=
  let firstNonterminal :=
    if scan.firstNonterminal < 0 ∧ scan.anyFault then firstFaultedAxis s.statusWords
    else scan.firstNonterminal
  if s.primaryFailure.stage = .success then
    let stage := if scan.anyFault then Stage.faultRequiresReset else .disableTimeout
    let statusWord :=
      if 0 ≤ firstNonterminal then wordAt s.statusWords firstNonterminal else 0
    { s with
      primaryFailure := { s.primaryFailure with
        stage := stage
        joint := firstNonterminal
        statusWord := statusWord }
      lastFailure := {
        stage := stage
        batch := -1
        joint := firstNonterminal
        statusWord := statusWord } }
  else
    s

/-- A stage that expired: the first expiry turns a normal descent into the
emergency quick stop, an expiry of the emergency descent ends it. -/
def expireStage (scan : DownwardScan) : Controller :=
  let s := s.recordStageTimeout scan
  if s.phase ≠ .emergencyDisable then
    { s with
      interruptedOwner := s.owner
      stageDeadlineNs := now + config.disableStageTimeoutNs
      emergencyJtcDeactivateRequest := true
      phase := .emergencyQuickStop }
  else
    s.finishDownward

/-- Whether the scan lets the descent leave stage 0 or 1. -/
def advancesStage (scan : DownwardScan) (downwardStage : Nat) : Bool :=
  if downwardStage = 0 then !scan.anyOperationEnabled
  else if downwardStage = 1 then !scan.anyOperationEnabled && !scan.anySwitchedOn
  else false

/-- One cycle of a descending phase. -/
def updateDownward : Controller :=
  let scan := downwardScan s.statusWords
  let s := { s with
    controlWords := fun axis => downwardCommand (decodeState (s.statusWords axis)) }
  if 2 ≤ s.downwardStage ∧ scan.allNonfaultTerminal then
    s.finishDownward
  else if advancesStage scan s.downwardStage then
    let s := { s with
      downwardStage := s.downwardStage + 1
      stageDeadlineNs := now + config.disableStageTimeoutNs }
    if 2 < s.downwardStage ∧ scan.allNonfaultTerminal then s.finishDownward else s
  else if s.stageDeadlineNs ≤ now then
    s.expireStage config now scan
  else
    s

end Controller

/-! ## What the scans compute -/

theorem DownwardScan.visit_allNonfaultTerminal (words : Words) (scan : DownwardScan)
    (axis : Axis) :
    (scan.visit words axis).allNonfaultTerminal =
      (scan.allNonfaultTerminal &&
        (isFaultState (decodeState (words axis)) ||
          isConfirmedDisableTerminal axis (decodeState (words axis)))) := by
  simp only [visit]
  split <;> cases decodeState (words axis) <;>
    simp [visitState, isFaultState, isConfirmedDisableTerminal]

theorem DownwardScan.foldl_allNonfaultTerminal (words : Words) (group : List Axis)
    (scan : DownwardScan) :
    (group.foldl (DownwardScan.visit words) scan).allNonfaultTerminal =
      (scan.allNonfaultTerminal && group.all fun axis =>
        isFaultState (decodeState (words axis)) ||
          isConfirmedDisableTerminal axis (decodeState (words axis))) := by
  induction group generalizing scan with
  | nil => simp
  | cons axis group ih =>
      rw [List.foldl_cons, ih, visit_allNonfaultTerminal, List.all_cons, Bool.and_assoc]

/-- The accumulated terminal flag says that every axis is faulted or at its
confirmed terminal. -/
theorem downwardScan_allNonfaultTerminal (words : Words) :
    (downwardScan words).allNonfaultTerminal = axes.all fun axis =>
      isFaultState (decodeState (words axis)) ||
        isConfirmedDisableTerminal axis (decodeState (words axis)) := by
  rw [downwardScan, DownwardScan.foldl_allNonfaultTerminal]
  simp

theorem FinishScan.foldl_anyFault (words : Words) (group : List Axis) (scan : FinishScan) :
    (group.foldl (FinishScan.visit words) scan).anyFault =
      (scan.anyFault || group.any fun axis => isFaultState (decodeState (words axis))) := by
  induction group generalizing scan with
  | nil => simp
  | cons axis group ih =>
      rw [List.foldl_cons, ih, List.any_cons, ← Bool.or_assoc]
      congr 1
      simp only [visit]
      split_ifs <;> simp_all

/-- The completion scan reports a fault exactly when some axis is faulted. -/
theorem finishScan_anyFault (words : Words) :
    (finishScan words).anyFault = anyFault words := by
  rw [finishScan, FinishScan.foldl_anyFault, anyFault]
  simp

theorem FinishScan.foldl_allTerminal (words : Words) (group : List Axis) (scan : FinishScan) :
    (group.foldl (FinishScan.visit words) scan).allTerminal =
      (scan.allTerminal && group.all fun axis =>
        isFaultState (decodeState (words axis)) ||
          isConfirmedDisableTerminal axis (decodeState (words axis))) := by
  induction group generalizing scan with
  | nil => simp
  | cons axis group ih =>
      rw [List.foldl_cons, ih, List.all_cons, ← Bool.and_assoc]
      congr 1
      simp only [visit]
      split_ifs <;> simp_all

/-- The completion scan's terminal flag is the one the descent accumulated. -/
theorem finishScan_allTerminal (words : Words) :
    (finishScan words).allTerminal = (downwardScan words).allNonfaultTerminal := by
  rw [finishScan, FinishScan.foldl_allTerminal, downwardScan_allNonfaultTerminal]
  simp

/-- A fault-free group whose descent reports terminal is terminal on every
axis. -/
theorem allTerminal_of_scan {words : Words}
    (terminal : (downwardScan words).allNonfaultTerminal = true)
    (fault : anyFault words = false) : allTerminal words = true := by
  rw [allTerminal_iff]
  intro axis
  rw [downwardScan_allNonfaultTerminal, List.all_eq_true] at terminal
  have axisTerminal := terminal axis (mem_axes axis)
  have axisFault := (anyFault_eq_false_iff words).mp fault axis
  simpa [axisFault] using axisTerminal

end RtControl.EnableManager
