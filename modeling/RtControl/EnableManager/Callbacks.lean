import RtControl.EnableManager.Update

/-!
# Service callbacks

The three service callbacks run beside `update()` and share its atomics.  Each
callback is a program counter and a step function in which one step performs
one atomic load, store or compare-exchange of the source.  `waitForResult` and
`switchJtc` are subroutines with program counters of their own.

The clock, the availability of the switch service and a switch answer that does
not arrive in time are inputs of a step: the flag `late`.
-/

namespace RtControl.EnableManager

/-! ## Fields written and read one at a time -/

/-- The five payload fields of a result slot, in the order of `publishResult`
and `fillResponse`. -/
inductive SlotField where
  | ok
  | failedBatch
  | failedJoint
  | statusWord
  | stage
  deriving DecidableEq, Repr

/-- The field accessed after a field. -/
def SlotField.next : SlotField → Option SlotField
  | .ok => some .failedBatch
  | .failedBatch => some .failedJoint
  | .failedJoint => some .statusWord
  | .statusWord => some .stage
  | .stage => none

/-- Copy one field between two slots. -/
def ResultSlot.setField (slot source : ResultSlot) : SlotField → ResultSlot
  | .ok => { slot with ok := source.ok }
  | .failedBatch => { slot with failedBatch := source.failedBatch }
  | .failedJoint => { slot with failedJoint := source.failedJoint }
  | .statusWord => { slot with statusWord := source.statusWord }
  | .stage => { slot with stage := source.stage }

/-- Read one field of a slot into a response. -/
def Response.readField (response : Response) (slot : ResultSlot) : SlotField → Response
  | .ok => { response with ok := slot.ok }
  | .failedBatch => { response with failedBatch := slot.failedBatch }
  | .failedJoint => { response with failedJoint := jointName slot.failedJoint }
  | .statusWord => { response with statusWord := slot.statusWord }
  | .stage => { response with stage := stageName slot.stage }

/-- The four failure fields, in the order of `recordFailure` and
`clearFailure`. -/
inductive FailureField where
  | stage
  | batch
  | joint
  | statusWord
  deriving DecidableEq, Repr

/-- The field accessed after a field. -/
def FailureField.next : FailureField → Option FailureField
  | .stage => some .batch
  | .batch => some .joint
  | .joint => some .statusWord
  | .statusWord => none

/-- Copy one field between two failures. -/
def Failure.setField (failure source : Failure) : FailureField → Failure
  | .stage => { failure with stage := source.stage }
  | .batch => { failure with batch := source.batch }
  | .joint => { failure with joint := source.joint }
  | .statusWord => { failure with statusWord := source.statusWord }

/-! ## Program counters -/

/-- `waitForResult`, the response it fills and the release of the callback. -/
inductive WaitPc where
  | loadActive
  | loadReady
  | checkClock
  | confirmReady
  | fill (field : SlotField)
  | release
  deriving DecidableEq, Repr

/-- `switchJtc`. -/
inductive SwitchPc where
  | acquire
  | probe
  | await
  | clear (result : SwitchResult)
  | returned (result : SwitchResult)
  deriving DecidableEq, Repr

/-- `handleEnable`. -/
inductive EnablePc where
  | idle
  | loadActive
  | loadRestart
  | loadEnabled
  | loadIdle
  | casOwner
  | clearReady
  | clearHardware
  | raiseRequest
  | loopActive
  | loopHardware
  | loopReady
  | loopClock
  | afterReady
  | afterHardware
  | switch (pc : SwitchPc)
  | storeRestart
  | storeEmergency
  | failedCheck
  | raiseFailed
  | finalCheck
  | clearFailure (field : FailureField)
  | storeEnabled
  | publish (field : SlotField)
  | publishReady
  | releaseOwner
  | wait (pc : WaitPc)
  deriving DecidableEq, Repr

/-- `handleDisable`; the snapshot of the phase is a local of the source. -/
inductive DisablePc where
  | idle
  | loadActive
  | loadPhase
  | loadOwner (phase : Phase)
  | casOwner (phase : Phase)
  | clearReady (phase : Phase)
  | clearFailed (phase : Phase)
  | storeDeactivating
  | switch (pc : SwitchPc)
  | storeFailed
  | storeRestart
  | recordFailure (field : FailureField)
  | raiseRequest (phase : Phase)
  | wait (pc : WaitPc)
  deriving DecidableEq, Repr

/-- `handleResetFault`. -/
inductive ResetPc where
  | idle
  | loadActive
  | loadRestart
  | loadPhase
  | casOwner
  | clearReady
  | raiseRequest
  | wait (pc : WaitPc)
  deriving DecidableEq, Repr

/-- The invocation of the worker timer that holds the switch, if one does. -/
inductive WorkerPc where
  | idle
  | switch (pc : SwitchPc)
  deriving DecidableEq, Repr

/-! ## The concurrent system -/

/-- The trajectory controller behind the controller manager: its lifecycle
state, the switch requests not yet executed and the answer to the last of
them. -/
structure Jtc where
  active : Bool := false
  pending : List Bool := []
  answer : Option Bool := none
  deriving DecidableEq, Repr

/-- Send a switch request. -/
def Jtc.send (jtc : Jtc) (activate : Bool) : Jtc :=
  { jtc with pending := jtc.pending ++ [activate], answer := none }

/-- The controller manager executes its oldest request.  An answer nobody waits
for any more is dropped by the next request. -/
def Jtc.execute (jtc : Jtc) (ok changed : Bool) : Option Jtc :=
  match jtc.pending with
  | [] => none
  | activate :: pending => some {
      active := if changed then activate else jtc.active
      pending := pending
      answer := if pending = [] then some ok else jtc.answer }

/-- The response message before any field is filled. -/
def Response.empty : Response where
  ok := false
  failedBatch := 0
  failedJoint := ""
  statusWord := 0
  stage := ""

/-- The controller with its callbacks, its worker timer and the trajectory
controller.  The callback group of the worker is reentrant, so its invocations may
overlap: `workersCalling` of them have taken a deactivation request and go on to
call `switchJtc`, one at most holds the switch, and the `switchJtc` of
`workersFailed` of them has returned without success, with the restart not yet
stored. -/
structure System extends Controller where
  enablePc : EnablePc := .idle
  disablePc : DisablePc := .idle
  resetPc : ResetPc := .idle
  workersCalling : Nat := 0
  worker : WorkerPc := .idle
  workersFailed : Nat := 0
  enableResponse : Response := .empty
  disableResponse : Response := .empty
  resetResponse : Response := .empty
  jtc : Jtc := {}

/-- One step of `waitForResult` and of the response it leads to. -/
def waitStep (active : Bool) (slot : ResultSlot) (late : Bool) (pc : WaitPc)
    (response : Response) : WaitPc × Response :=
  match pc with
  | .loadActive => (if active then .loadReady else .confirmReady, response)
  | .loadReady => (if slot.ready then .confirmReady else .checkClock, response)
  | .checkClock => (if late then .confirmReady else .loadActive, response)
  | .confirmReady =>
      if slot.ready then (.fill .ok, response)
      else (.release, fillImmediateResponse false .controllerUpdateTimeout)
  | .fill field =>
      (match field.next with
        | some field => .fill field
        | none => .release,
        response.readField slot field)
  | .release => (.release, response)

/-- The phases in which `/rt/disable` is refused. -/
def rejectsDisable (phase : Phase) : Bool :=
  phase = .startupSanitizing || phase = .emergencyQuickStop ||
    phase = .emergencyDisable || phase = .jtcActivating ||
    phase = .disabling || phase = .rollback

/-- A disable of this phase and owner preempts without taking ownership. -/
def preempts (phase : Phase) (owner : Owner) : Bool :=
  (owner = .enable && (phase = .enabling || phase = .interBatchDelay)) ||
    (owner = .reset && (phase = .resetLow || phase = .resetHigh))

namespace System

variable (s : System)

/-- One step of `switchJtc`. -/
def switchStep (activate late : Bool) (pc : SwitchPc) : System × SwitchPc :=
  match pc with
  | .acquire =>
      if s.switchInProgress then (s, .returned .ambiguous)
      else ({ s with switchInProgress := true }, .probe)
  | .probe =>
      if late then (s, .clear .ambiguous)
      else ({ s with jtc := s.jtc.send activate }, .await)
  | .await =>
      match s.jtc.answer with
      | some ok => (s, .clear (if ok then .success else .failed))
      | none => (s, if late then .clear .ambiguous else .await)
  | .clear result => ({ s with switchInProgress := false }, .returned result)
  | .returned result => (s, .returned result)

/-! ## `handleEnable` -/

/-- Answer an enable call without an operation. -/
def answerEnable (ok : Bool) (stage : Stage) : System :=
  { s with
    enableResponse := fillImmediateResponse ok stage
    enablePc := .wait .release }

/-- The compare-exchange that admits one enable callback at a time.  A second
caller is told `operation_in_progress` and leaves no trace. -/
def callEnable : System :=
  if s.enableCallbackActive then s
  else { s with enableCallbackActive := true, enablePc := .loadActive }

/-- One atomic step of `handleEnable`. -/
def enableStep (late : Bool) : System :=
  match s.enablePc with
  | .idle => s
  | .loadActive =>
      if s.active then { s with enablePc := .loadRestart }
      else s.answerEnable false .controllerInactive
  | .loadRestart =>
      if s.restartRequired then s.answerEnable false .restartRequired
      else { s with enablePc := .loadEnabled }
  | .loadEnabled =>
      if s.phase = .enabled then s.answerEnable true .alreadyEnabled
      else { s with enablePc := .loadIdle }
  | .loadIdle =>
      if s.phase ≠ .idle then s.answerEnable false .operationInProgress
      else { s with enablePc := .casOwner }
  | .casOwner =>
      if s.owner = .none then { s with owner := .enable, enablePc := .clearReady }
      else s.answerEnable false .operationInProgress
  | .clearReady =>
      { s with
        enableResult := { s.enableResult with ready := false }
        enablePc := .clearHardware }
  | .clearHardware => { s with enableHardwareReady := false, enablePc := .raiseRequest }
  | .raiseRequest => { s with enableRequest := true, enablePc := .loopActive }
  | .loopActive => { s with enablePc := if s.active then .loopHardware else .afterReady }
  | .loopHardware =>
      { s with enablePc := if s.enableHardwareReady then .afterReady else .loopReady }
  | .loopReady =>
      { s with enablePc := if s.enableResult.ready then .afterReady else .loopClock }
  | .loopClock => { s with enablePc := if late then .afterReady else .loopActive }
  | .afterReady =>
      { s with enablePc := if s.enableResult.ready then .wait (.fill .ok) else .afterHardware }
  | .afterHardware =>
      if s.enableHardwareReady then { s with enablePc := .switch .acquire }
      else s.answerEnable false .controllerUpdateTimeout
  | .switch (.returned .success) => { s with enablePc := .finalCheck }
  | .switch (.returned .failed) => { s with enablePc := .failedCheck }
  | .switch (.returned .ambiguous) => { s with enablePc := .storeRestart }
  | .switch pc =>
      let next := s.switchStep true late pc
      { next.1 with enablePc := .switch next.2 }
  | .storeRestart => { s with restartRequired := true, enablePc := .storeEmergency }
  | .storeEmergency =>
      { s with emergencyJtcDeactivateRequest := true, enablePc := .failedCheck }
  | .failedCheck =>
      { s with
        enablePc := if s.phase = .jtcActivating then .raiseFailed else .wait .loadActive }
  | .raiseFailed =>
      { s with jtcActivateFailedRequest := true, enablePc := .wait .loadActive }
  | .finalCheck =>
      { s with
        enablePc :=
          if s.phase = .jtcActivating then .clearFailure .stage else .wait .loadActive }
  | .clearFailure field =>
      { s with
        lastFailure := s.lastFailure.setField {} field
        enablePc := match field.next with
          | some field => .clearFailure field
          | none => .storeEnabled }
  | .storeEnabled => { s with phase := .enabled, enablePc := .publish .ok }
  | .publish field =>
      { s with
        enableResult :=
          s.enableResult.setField (Controller.published true { stage := .success }) field
        enablePc := match field.next with
          | some field => .publish field
          | none => .publishReady }
  | .publishReady =>
      { s with
        enableResult := { s.enableResult with ready := true }
        enablePc := .releaseOwner }
  | .releaseOwner => { s with owner := .none, enablePc := .wait .loadActive }
  | .wait .release => { s with enableCallbackActive := false, enablePc := .idle }
  | .wait pc =>
      let next := waitStep s.active s.enableResult late pc s.enableResponse
      { s with enablePc := .wait next.1, enableResponse := next.2 }

/-! ## `handleDisable` -/

/-- Answer a disable call without an operation. -/
def answerDisable (ok : Bool) (stage : Stage) : System :=
  { s with
    disableResponse := fillImmediateResponse ok stage
    disablePc := .wait .release }

/-- The compare-exchange that admits one disable callback at a time. -/
def callDisable : System :=
  if s.disableCallbackActive then s
  else { s with disableCallbackActive := true, disablePc := .loadActive }

/-- One atomic step of `handleDisable`. -/
def disableStep (late : Bool) : System :=
  match s.disablePc with
  | .idle => s
  | .loadActive =>
      if s.active then { s with disablePc := .loadPhase }
      else s.answerDisable false .controllerInactive
  | .loadPhase =>
      if s.phase = .idle then s.answerDisable true .alreadyDisabled
      else if rejectsDisable s.phase then s.answerDisable false .operationInProgress
      else { s with disablePc := .loadOwner s.phase }
  | .loadOwner phase =>
      { s with
        disablePc := if preempts phase s.owner then .clearReady phase else .casOwner phase }
  | .casOwner phase =>
      if s.owner = .none then { s with owner := .disable, disablePc := .clearReady phase }
      else s.answerDisable false .operationInProgress
  | .clearReady phase =>
      { s with
        disableResult := { s.disableResult with ready := false }
        disablePc := .clearFailed phase }
  | .clearFailed phase =>
      { s with
        jtcDeactivateFailed := false
        disablePc := if phase = .enabled then .storeDeactivating else .raiseRequest phase }
  | .storeDeactivating => { s with phase := .jtcDeactivating, disablePc := .switch .acquire }
  | .switch (.returned .success) => { s with disablePc := .raiseRequest .enabled }
  | .switch (.returned _) => { s with disablePc := .storeFailed }
  | .switch pc =>
      let next := s.switchStep false late pc
      { next.1 with disablePc := .switch next.2 }
  | .storeFailed => { s with jtcDeactivateFailed := true, disablePc := .storeRestart }
  | .storeRestart => { s with restartRequired := true, disablePc := .recordFailure .stage }
  | .recordFailure field =>
      { s with
        lastFailure := s.lastFailure.setField { stage := .jtcDeactivateFailed } field
        disablePc := match field.next with
          | some field => .recordFailure field
          | none => .raiseRequest .enabled }
  | .raiseRequest _ => { s with disableRequest := true, disablePc := .wait .loadActive }
  | .wait .release => { s with disableCallbackActive := false, disablePc := .idle }
  | .wait pc =>
      let next := waitStep s.active s.disableResult late pc s.disableResponse
      { s with disablePc := .wait next.1, disableResponse := next.2 }

/-! ## `handleResetFault` -/

/-- Answer a reset call without an operation. -/
def answerReset (ok : Bool) (stage : Stage) : System :=
  { s with
    resetResponse := fillImmediateResponse ok stage
    resetPc := .wait .release }

/-- The compare-exchange that admits one reset callback at a time. -/
def callReset : System :=
  if s.resetCallbackActive then s
  else { s with resetCallbackActive := true, resetPc := .loadActive }

/-- One atomic step of `handleResetFault`. -/
def resetStep (late : Bool) : System :=
  match s.resetPc with
  | .idle => s
  | .loadActive =>
      if s.active then { s with resetPc := .loadRestart }
      else s.answerReset false .controllerInactive
  | .loadRestart =>
      if s.restartRequired then s.answerReset false .restartRequired
      else { s with resetPc := .loadPhase }
  | .loadPhase =>
      if s.phase ≠ .idle ∧ s.phase ≠ .failed then s.answerReset false .operationInProgress
      else { s with resetPc := .casOwner }
  | .casOwner =>
      if s.owner = .none then { s with owner := .reset, resetPc := .clearReady }
      else s.answerReset false .operationInProgress
  | .clearReady =>
      { s with
        resetResult := { s.resetResult with ready := false }
        resetPc := .raiseRequest }
  | .raiseRequest => { s with resetRequest := true, resetPc := .wait .loadActive }
  | .wait .release => { s with resetCallbackActive := false, resetPc := .idle }
  | .wait pc =>
      let next := waitStep s.active s.resetResult late pc s.resetResponse
      { s with resetPc := .wait next.1, resetResponse := next.2 }

/-! ## The worker timer -/

/-- The exchange of `handleNonRtFaultStop`: an invocation that finds no request
returns. -/
def fireWorker : System :=
  if s.emergencyJtcDeactivateRequest then
    { s with
      emergencyJtcDeactivateRequest := false
      workersCalling := s.workersCalling + 1 }
  else
    s

/-- An invocation with a request calls `switchJtc`, whose compare-exchange fails
while a switch is in progress. -/
def callWorker : System :=
  if s.switchInProgress then
    { s with
      workersCalling := s.workersCalling - 1
      workersFailed := s.workersFailed + 1 }
  else
    { s with
      workersCalling := s.workersCalling - 1
      switchInProgress := true
      worker := .switch .probe }

/-- One step of the `switchJtc` that a worker is in.  Its last step frees the switch,
and the invocation goes on beside the next holder. -/
def resumeWorker (late : Bool) : System :=
  match s.worker with
  | .idle => s
  | .switch pc =>
      match s.switchStep false late pc with
      | (next, .returned .success) => { next with worker := .idle }
      | (next, .returned _) =>
          { next with worker := .idle, workersFailed := s.workersFailed + 1 }
      | (next, pc) => { next with worker := .switch pc }

/-- An invocation whose `switchJtc` did not succeed stores the restart. -/
def latchRestart : System :=
  { s with restartRequired := true, workersFailed := s.workersFailed - 1 }

end System

end RtControl.EnableManager
