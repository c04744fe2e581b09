import RtControl.EnableManager.Drive
import Mathlib.Data.Rat.Floor

/-!
# State of the enable-manager controller

The controller's members are one flat record.  Atomics shared with the service
callbacks and members touched only by `update()` are kept together: the split
of the callbacks into atomic steps decides what may be observed between them,
not the record.

Time stamps are nanosecond integers.  Status words arrive as optional readings,
because a non-finite state interface is decoded as `0xFFFF`.
-/

namespace RtControl.EnableManager

/-- Phase of the group state machine. -/
inductive Phase where
  | inactive
  | startupSanitizing
  | idle
  | enabling
  | interBatchDelay
  | jtcActivating
  | enabled
  | jtcDeactivating
  | disabling
  | rollback
  | resetLow
  | resetHigh
  | emergencyQuickStop
  | emergencyDisable
  | failed
  deriving DecidableEq, Repr

/-- The operation that owns the state machine. -/
inductive Owner where
  | none
  | enable
  | disable
  | reset
  | internal
  deriving DecidableEq, Repr

/-- Outcome of one `switchJtc` call. -/
inductive SwitchResult where
  | success
  | failed
  | ambiguous
  deriving DecidableEq, Repr

/-- Structured stage of a result or failure. -/
inductive Stage where
  | success
  | alreadyEnabled
  | alreadyDisabled
  | alreadyClear
  | operationInProgress
  | controllerInactive
  | preemptedByDisable
  | enableBatchTimeout
  | enableInvalidState
  | faultDetected
  | unexpectedDriveState
  | disableTimeout
  | faultRequiresReset
  | faultResetTimeout
  | jtcActivateFailed
  | jtcDeactivateFailed
  | controllerUpdateTimeout
  | restartRequired
  deriving DecidableEq, Repr

/-- Text of a stage in a service response. -/
def stageName : Stage → String
  | .success => "success"
  | .alreadyEnabled => "already_enabled"
  | .alreadyDisabled => "already_disabled"
  | .alreadyClear => "already_clear"
  | .operationInProgress => "operation_in_progress"
  | .controllerInactive => "controller_inactive"
  | .preemptedByDisable => "preempted_by_disable"
  | .enableBatchTimeout => "enable_batch_timeout"
  | .enableInvalidState => "enable_invalid_state"
  | .faultDetected => "fault_detected"
  | .unexpectedDriveState => "unexpected_drive_state"
  | .disableTimeout => "disable_timeout"
  | .faultRequiresReset => "fault_requires_reset"
  | .faultResetTimeout => "fault_reset_timeout"
  | .jtcActivateFailed => "jtc_activate_failed"
  | .jtcDeactivateFailed => "jtc_deactivate_failed"
  | .controllerUpdateTimeout => "controller_update_timeout"
  | .restartRequired => "restart_required"

/-- The result slot a waiting service callback polls. -/
structure ResultSlot where
  ready : Bool := false
  ok : Bool := false
  failedBatch : Int := -1
  failedJoint : Int := -1
  statusWord : UInt16 := 0
  stage : Stage := .operationInProgress
  deriving DecidableEq, Repr

/-- A failure diagnosis: the four `primary_failed_*` members, and again the
four `last_failed_*` members. -/
structure Failure where
  stage : Stage := .success
  batch : Int := -1
  joint : Int := -1
  statusWord : UInt16 := 0
  deriving DecidableEq, Repr

/-- Response of the three services. -/
structure Response where
  ok : Bool
  failedBatch : Int
  failedJoint : String
  statusWord : UInt16
  stage : String
  deriving DecidableEq, Repr

/-- The joint name of an index, empty for `-1`. -/
def jointName (joint : Int) : String :=
  if 0 ≤ joint then jointNames.getD joint.toNat "" else ""

/-- Response of a finished operation, read from its slot. -/
def fillResponse (slot : ResultSlot) : Response where
  ok := slot.ok
  failedBatch := slot.failedBatch
  failedJoint := jointName slot.failedJoint
  statusWord := slot.statusWord
  stage := stageName slot.stage

/-- Response of a call that is answered without an operation. -/
def fillImmediateResponse (ok : Bool) (stage : Stage) : Response where
  ok := ok
  failedBatch := -1
  failedJoint := ""
  statusWord := 0
  stage := stageName stage

/-! ## Parameters -/

/-- The declared parameters with the defaults of `on_init`. -/
structure Parameters where
  batchTimeout : ℚ := 4
  disableStageTimeout : ℚ := 4
  interBatchDelay : ℚ := 1 / 5
  faultResetTimeout : ℚ := 4
  controllerSwitchTimeout : ℚ := 4
  serviceResultTimeoutMs : Int := 30000
  jtcName : String := "dual_arm_jtc"

/-- The durations `update()` adds to its time stamp. -/
structure Config where
  batchTimeoutNs : Int
  disableStageTimeoutNs : Int
  interBatchDelayNs : Int
  faultResetTimeoutNs : Int
  deriving DecidableEq, Repr

/-- `static_cast<std::int64_t>(seconds * 1e9)` for an accepted duration. -/
def nanoseconds (seconds : ℚ) : Int :=
  ⌊seconds * 1000000000⌋

/-- Validate the parameters.  The controller-switch and service-result timeouts
bound wall-clock waits only; they are checked here and leave no duration
behind. -/
def onConfigure (parameters : Parameters) : Option Config :=
  if parameters.batchTimeout ≤ 0 ∨ parameters.disableStageTimeout ≤ 0 ∨
      parameters.interBatchDelay < 0 ∨ parameters.faultResetTimeout ≤ 0 ∨
      parameters.controllerSwitchTimeout ≤ 0 ∨ parameters.serviceResultTimeoutMs ≤ 0 ∨
      parameters.jtcName = "" then
    none
  else
    some {
      batchTimeoutNs := nanoseconds parameters.batchTimeout
      disableStageTimeoutNs := nanoseconds parameters.disableStageTimeout
      interBatchDelayNs := nanoseconds parameters.interBatchDelay
      faultResetTimeoutNs := nanoseconds parameters.faultResetTimeout }

/-- The durations of the declared defaults. -/
def defaultConfig : Config where
  batchTimeoutNs := 4000000000
  disableStageTimeoutNs := 4000000000
  interBatchDelayNs := 200000000
  faultResetTimeoutNs := 4000000000

/-- The declared defaults are accepted. -/
theorem onConfigure_defaults : onConfigure {} = some defaultConfig := by
  have named : ("dual_arm_jtc" : String) ≠ "" := by decide
  simp only [onConfigure, nanoseconds, defaultConfig, named]
  norm_num

/-- No accepted duration is negative. -/
theorem onConfigure_nonneg {parameters : Parameters} {config : Config}
    (accepted : onConfigure parameters = some config) :
    0 ≤ config.batchTimeoutNs ∧ 0 ≤ config.disableStageTimeoutNs ∧
      0 ≤ config.interBatchDelayNs ∧ 0 ≤ config.faultResetTimeoutNs := by
  unfold onConfigure at accepted
  split at accepted
  · contradiction
  · rename_i valid
    simp only [not_or, not_le, not_lt] at valid
    obtain ⟨batch, stage, delay, reset, -⟩ := valid
    cases accepted
    refine ⟨?_, ?_, ?_, ?_⟩ <;> exact Int.floor_nonneg.mpr (by positivity)

/-! ## The controller record -/

/-- Members of `EnableManagerController`, with the words it last wrote to its
command interfaces. -/
structure Controller where
  active : Bool := false
  phase : Phase := .inactive
  owner : Owner := .internal
  enableRequest : Bool := false
  disableRequest : Bool := false
  resetRequest : Bool := false
  enableHardwareReady : Bool := false
  jtcActivateFailedRequest : Bool := false
  emergencyJtcDeactivateRequest : Bool := false
  restartRequired : Bool := false
  switchInProgress : Bool := false
  enableCallbackActive : Bool := false
  disableCallbackActive : Bool := false
  resetCallbackActive : Bool := false
  enableResult : ResultSlot := {}
  disableResult : ResultSlot := {}
  resetResult : ResultSlot := {}
  lastFailure : Failure := {}
  statusWords : Words := fun _ => 0
  resetTargets : Axis → Bool := fun _ => false
  currentBatch : Nat := 0
  downwardStage : Nat := 0
  stageDeadlineNs : Int := 0
  enablePreemptRequested : Bool := false
  interruptedOwner : Owner := .none
  jtcDeactivateFailed : Bool := false
  primaryFailure : Failure := {}
  controlWords : Words := fun _ => 0

/-- One sample of the state interfaces; `none` is a non-finite value. -/
abbrev Readings := Axis → Option UInt16

/-- The status word of one reading. -/
def refreshedWord (reading : Option UInt16) : UInt16 :=
  reading.getD 0xFFFF

/-- The status words a sample of the state interfaces refreshes to. -/
def refreshedWords (readings : Readings) : Words :=
  fun axis => refreshedWord (readings axis)

/-- `status_words_[index]` for a joint index that may be the sentinel `-1`. -/
def wordAt (words : Words) (joint : Int) : UInt16 :=
  if inRange : 0 ≤ joint ∧ joint < axisCount then
    words ⟨joint.toNat, by omega⟩
  else
    0

namespace Controller

variable (s : Controller)

/-- Sample every state interface into `status_words_`. -/
def refreshStatusWords (readings : Readings) : Controller :=
  { s with statusWords := refreshedWords readings }

/-- Write one word to every command interface. -/
def setAllControlWords (controlWord : UInt16) : Controller :=
  { s with controlWords := fun _ => controlWord }

/-- Record a failure for the diagnostics. -/
def recordFailure (failure : Failure) : Controller :=
  { s with lastFailure := failure }

/-- Clear the diagnostics. -/
def clearFailure : Controller :=
  { s with lastFailure := {} }

/-- The slot contents `publishResult` stores, `ready` last. -/
def published (ok : Bool) (failure : Failure) : ResultSlot where
  ready := true
  ok := ok
  failedBatch := failure.batch
  failedJoint := failure.joint
  statusWord := failure.statusWord
  stage := failure.stage

/-- Publish the result of the enable operation. -/
def publishEnable (ok : Bool) (failure : Failure) : Controller :=
  { s with enableResult := published ok failure }

/-- Publish the result of the disable operation. -/
def publishDisable (ok : Bool) (failure : Failure) : Controller :=
  { s with disableResult := published ok failure }

/-- Publish the result of the reset operation. -/
def publishReset (ok : Bool) (failure : Failure) : Controller :=
  { s with resetResult := published ok failure }

/-- Enter a phase. -/
def storePhase (phase : Phase) : Controller :=
  { s with phase := phase }

/-- Hand the state machine to an operation. -/
def storeOwner (owner : Owner) : Controller :=
  { s with owner := owner }

/-- Activation clears every request and starts the startup sanitizer. -/
def onActivate : Controller :=
  { s.setAllControlWords 0x0000 with
    enableRequest := false
    disableRequest := false
    resetRequest := false
    enableHardwareReady := false
    jtcActivateFailedRequest := false
    emergencyJtcDeactivateRequest := false
    restartRequired := false
    lastFailure := {}
    currentBatch := 0
    downwardStage := 0
    stageDeadlineNs := 0
    enablePreemptRequested := false
    jtcDeactivateFailed := false
    primaryFailure := {}
    owner := .internal
    phase := .startupSanitizing
    active := true }

/-- Deactivation removes every enabling word. -/
def onDeactivate : Controller :=
  { s.setAllControlWords 0x0000 with
    active := false
    phase := .inactive
    owner := .internal }

end Controller

end RtControl.EnableManager
