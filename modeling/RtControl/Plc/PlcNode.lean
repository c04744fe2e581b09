import RtControl.Codec.PyFloat
import RtControl.Plc.Output
import RtControl.Plc.Poll
import RtControl.Transition.Core
import Mathlib.Data.Rat.Floor

/-!
# The PLC node

The service callbacks and the poll of `plc_node.py` on top of the Modbus client.
Both run under one lock, so that a run of the node is a sequence of whole callbacks.
Connection attempts, the arrival of answers and the readings of the clock are given
from outside.
-/

namespace RtControl.Plc

open RtControl.Codec
open RtControl.Transition

/-- The readings of `time.monotonic()`: they never run backwards and pass every
instant. -/
structure Clock where
  reading : Nat → ℚ
  monotone : Monotone reading
  passes : ℚ → Nat
  passed : ∀ instant, instant ≤ reading (passes instant)

/-- A clock that shows the number of its readings. -/
def countingClock : Clock where
  reading n := n
  monotone := Nat.mono_cast
  passes instant := ⌈instant⌉₊
  passed instant := Nat.le_ceil instant

/-- The node's parameters, as its constructor accepts them. -/
structure Parameters where
  doCommandRegister : UInt16
  registers : Registers
  reconnectPeriod : ℚ
  dataTimeout : ℚ
  verifyTimeout : ℚ
  verifyPeriod : ℚ
  reconnectPeriod_pos : 0 < reconnectPeriod
  dataTimeout_pos : 0 < dataTimeout
  verifyTimeout_nonneg : 0 ≤ verifyTimeout
  verifyPeriod_pos : 0 < verifyPeriod

/-- The defaults of the parameters. -/
def defaultParameters : Parameters where
  doCommandRegister := 200
  registers := defaultRegisters
  reconnectPeriod := 2
  dataTimeout := 3 / 2
  verifyTimeout := 1
  verifyPeriod := 1 / 20
  reconnectPeriod_pos := by decide +kernel
  dataTimeout_pos := by decide +kernel
  verifyTimeout_nonneg := by decide +kernel
  verifyPeriod_pos := by decide +kernel

/-- The node's surroundings: the other end of the connection, the outcome of each
connection attempt and the clock. -/
structure Surroundings (σ : Type) extends Setting σ where
  connects : Nat → Option { error : ClientError // error.isLink }
  clock : Clock
  rounding : Rounding

/-- The node with the times it keeps and the number of clock readings and connection
attempts so far. -/
structure PlcNode (σ : Type) extends Node σ where
  lastConnectAttempt : PyFloat
  lastUpdate : Option PyFloat
  readings : Nat
  attempts : Nat

/-- Node code: it raises exceptions and works on the node. -/
abbrev NodeM (σ α : Type) :=
  EStateM ClientError (PlcNode σ) α

/-- `OutputWriteResult`. -/
structure OutputWriteResult where
  commandWord : UInt16
  statusWord : UInt16
  deriving DecidableEq, Repr

/-- `SetBool.Response`. -/
structure Response where
  success : Bool
  message : String
  deriving DecidableEq, Repr

/-- `PlcIoState` without its header. -/
structure PlcIoState where
  connected : Bool
  dataFresh : Bool
  leftVacuumEstablished : Bool
  rightVacuumEstablished : Bool
  leftSolenoidOn : Bool
  rightSolenoidOn : Bool
  vacuumPumpOn : Bool
  ioAlarm : UInt16
  error : String
  deriving DecidableEq, Repr

/-- The IO fields of a published state. -/
def PlcIoState.snapshot (state : PlcIoState) : PlcIoSnapshot where
  leftVacuumEstablished := state.leftVacuumEstablished
  rightVacuumEstablished := state.rightVacuumEstablished
  leftSolenoidOn := state.leftSolenoidOn
  rightSolenoidOn := state.rightSolenoidOn
  vacuumPumpOn := state.vacuumPumpOn
  ioAlarm := state.ioAlarm

/-- `_EMPTY_SNAPSHOT`. -/
def emptySnapshot : PlcIoSnapshot where
  leftVacuumEstablished := false
  rightVacuumEstablished := false
  leftSolenoidOn := false
  rightSolenoidOn := false
  vacuumPumpOn := false
  ioAlarm := 0

/-- `state_is_fresh`. -/
def stateIsFresh (rounding : Rounding) (lastUpdate : Option PyFloat) (now timeout : PyFloat) :
    Bool :=
  match lastUpdate with
  | none => false
  | some lastUpdate =>
      if !(lastUpdate.isFinite && now.isFinite && timeout.isFinite) ||
          timeout.le (.finite 0) then
        false
      else
        let age := now.sub rounding lastUpdate
        (PyFloat.finite 0).le age && age.le timeout

/-- `plc_state_message`. -/
def plcStateMessage (snapshot : PlcIoSnapshot) (connected dataFresh : Bool) (error : String) :
    PlcIoState where
  connected := connected
  dataFresh := dataFresh
  leftVacuumEstablished := snapshot.leftVacuumEstablished
  rightVacuumEstablished := snapshot.rightVacuumEstablished
  leftSolenoidOn := snapshot.leftSolenoidOn
  rightSolenoidOn := snapshot.rightSolenoidOn
  vacuumPumpOn := snapshot.vacuumPumpOn
  ioAlarm := snapshot.ioAlarm
  error := error

/-- The error of a readback that does not agree before its deadline. -/
def readbackTimedOut (bitIndex : UInt16) (enabled : Bool) (commandReadback statusReadback : UInt16) :
    ClientError where
  kind := .control
  text := s!"output readback timed out: bit={bitIndex} expected={enabled.toNat} command=0x" ++
    hexDigits 4 commandReadback.toNat ++ " status=0x" ++ hexDigits 4 statusReadback.toNat

/-- What a callback does to the outside: a service response and a published state. -/
structure Reaction where
  response : Option Response
  state : PlcIoState
  deriving DecidableEq, Repr

namespace PlcNode

/-- The node after its constructor. -/
def start {σ : Type} (server : σ) : PlcNode σ where
  session := {
    connected := false
    transactionId := 0
    inbound := []
    recvs := 0
    server := server
    exchanges := [] }
  snapshot := emptySnapshot
  lastError := ""
  lastConnectAttempt := .infinity true
  lastUpdate := none
  readings := 0
  attempts := 0

section Callbacks

variable {σ : Type} (surroundings : Surroundings σ) (parameters : Parameters)

/-- Run client code on the node's client. -/
def onClient {α : Type} (action : Client σ α) : NodeM σ α := fun node =>
  match action node.session with
  | .ok value session => .ok value { node with session }
  | .error error session => .error error { node with session }

/-- `time.monotonic()`. -/
def monotonic : NodeM σ PyFloat := do
  let node ← get
  set { node with readings := node.readings + 1 }
  return .finite (surroundings.clock.reading node.readings)

/-- `_close_client_locked`. -/
def closeClientLocked (node : PlcNode σ) : PlcNode σ :=
  { node with session := node.session.close }

/-- `client.connect()` of a new client, which starts its counter at zero on a new
stream. -/
def connect : NodeM σ Unit := do
  let node ← get
  match surroundings.connects node.attempts with
  | some error =>
      set { node with attempts := node.attempts + 1, lastError := error.val.text }
      throw error.val
  | none =>
      set { node with
        attempts := node.attempts + 1
        session := { node.session with connected := true, transactionId := 0, inbound := [] }
        lastError := "" }

/-- The `try` around `client.connect()`; a forced attempt raises. -/
def tryConnect (force : Bool) : NodeM σ Bool := fun node =>
  match connect surroundings node with
  | .ok () node => .ok true node
  | .error error node => if force then .error error node else .ok false node

/-- `_ensure_client_locked`; whether there is a client. -/
def ensureClientLocked (force : Bool) : NodeM σ Bool := do
  let node ← get
  if node.session.connected then
    return true
  let now ← monotonic surroundings
  if !force && (now.sub surroundings.rounding node.lastConnectAttempt).lt
      (.finite parameters.reconnectPeriod) then
    return false
  modify fun node => { node with lastConnectAttempt := now }
  tryConnect surroundings force

/-- The verify loop of `write_output_bit`.  Each round reads the clock once, so that the
number of readings until the deadline has passed bounds the rounds; sleeping between
two rounds only lets time pass. -/
def verifyOutput (bitIndex : UInt16) (enabled : Bool) (deadline : PyFloat) :
    Nat → UInt16 → UInt16 → NodeM σ OutputWriteResult
  | 0, commandReadback, statusReadback =>
      throw (readbackTimedOut bitIndex enabled commandReadback statusReadback)
  | rounds + 1, _, _ => do
      let commandReadback ←
        onClient (readRegister surroundings.toSetting parameters.doCommandRegister.toNat)
      let statusReadback ←
        onClient (readRegister surroundings.toSetting parameters.registers.output.toNat)
      if ← ofExcept (outputMatches commandReadback statusReadback bitIndex enabled) then
        return { commandWord := commandReadback, statusWord := statusReadback }
      let now ← monotonic surroundings
      if (deadline.sub surroundings.rounding now).le (.finite 0) then
        throw (readbackTimedOut bitIndex enabled commandReadback statusReadback)
      verifyOutput bitIndex enabled deadline rounds commandReadback statusReadback

/-- More rounds than the clock needs to pass the deadline. -/
def verifyRounds : PyFloat → Nat
  | .finite deadline => surroundings.clock.passes deadline + 1
  | _ => 0

/-- `write_output_bit`. -/
def writeOutputBit (bitIndex : UInt16) (enabled : Bool) (verifyTimeout verifyPeriod : PyFloat) :
    NodeM σ OutputWriteResult := do
  if !verifyTimeout.isFinite || verifyTimeout.lt (.finite 0) then
    throw { kind := .value, text := "verify_timeout_s must be finite and non-negative" }
  if !verifyPeriod.isFinite || verifyPeriod.le (.finite 0) then
    throw { kind := .value, text := "verify_period_s must be finite and greater than zero" }
  let currentWord ←
    onClient (readRegister surroundings.toSetting parameters.doCommandRegister.toNat)
  let desiredWord ← ofExcept (setOutputBit currentWord bitIndex enabled)
  onClient (writeSingleRegister surroundings.toSetting parameters.doCommandRegister.toNat
    desiredWord.toNat)
  let now ← monotonic surroundings
  let deadline := now.add surroundings.rounding verifyTimeout
  verifyOutput surroundings parameters bitIndex enabled deadline
    (verifyRounds surroundings deadline) currentWord 0

/-- `_publish_state_locked`. -/
def publishStateLocked : NodeM σ PlcIoState := do
  let now ← monotonic surroundings
  let node ← get
  let connected := node.session.connected
  let fresh := connected && stateIsFresh surroundings.rounding node.lastUpdate now
    (.finite parameters.dataTimeout)
  return plcStateMessage node.snapshot connected fresh node.lastError

/-- The part of a service callback that has a client. -/
def serveConnected (output : Output) (enabled : Bool) : NodeM σ OutputWriteResult := do
  let _ ← onClient
    (repairRemoteControl surroundings.toSetting parameters.registers.control.toNat)
  writeOutputBit surroundings parameters output.bit enabled (.finite parameters.verifyTimeout)
    (.finite parameters.verifyPeriod)

/-- The body of the `try` of a service callback. -/
def serveOutput (output : Output) (enabled : Bool) : NodeM σ OutputWriteResult := do
  if !(← ensureClientLocked surroundings parameters true) then
    throw { kind := .control, text := "PLC connection is unavailable" }
  serveConnected surroundings parameters output enabled

/-- A failed response. -/
def failedResponse (output : Output) (error : ClientError) : Response where
  success := false
  message := output.serviceName ++ " failed: " ++ error.text

/-- The response of a verified write. -/
def verifiedResponse (output : Output) (enabled : Bool) (result : OutputWriteResult) :
    Response where
  success := true
  message := output.serviceName ++ "=" ++ (if enabled then "ON" else "OFF") ++
    " verified command=0x" ++ hexDigits 4 result.commandWord.toNat ++ " status=0x" ++
    hexDigits 4 result.statusWord.toNat

/-- The handlers of a service callback: a control error keeps the client, every other one
closes it. -/
def rejectOutput (output : Output) (error : ClientError) (node : PlcNode σ) :
    Response × PlcNode σ :=
  if error.kind = .control then
    (failedResponse output error, { node with lastError := error.text })
  else
    (failedResponse output error, closeClientLocked { node with lastError := error.text })

/-- The `try` of a service callback with its handlers. -/
def answerOutput (output : Output) (enabled : Bool) (node : PlcNode σ) : Response × PlcNode σ :=
  match serveOutput surroundings parameters output enabled node with
  | .ok result node => (verifiedResponse output enabled result, { node with lastError := "" })
  | .error error node => rejectOutput output error node

/-- `_service_callback`. -/
def serviceCallback (output : Output) (enabled : Bool) : NodeM σ Reaction := do
  let response ← modifyGet (answerOutput surroundings parameters output enabled)
  let state ← publishStateLocked surroundings parameters
  return { response := some response, state }

/-- The remote-control part of `_poll_once`; the text of its caught error. -/
def repairPolled : NodeM σ String := fun node =>
  match onClient (repairRemoteControl surroundings.toSetting parameters.registers.control.toNat)
      node with
  | .ok _ node => .ok "" node
  | .error error node =>
      if error.kind = .value then .error error node
      else .ok ("remote control unavailable: " ++ error.text) node

/-- The status read of `_poll_once`. -/
def readStatus : NodeM σ PlcIoSnapshot :=
  onClient (readIoSnapshot surroundings.toSetting parameters.registers.input.toNat
    parameters.registers.output.toNat parameters.registers.alarm.toNat)

/-- The status part of `_poll_once`. -/
def pollStatus (remoteError : String) : NodeM σ Unit := fun node =>
  match readStatus surroundings parameters node with
  | .ok snapshot node =>
      let now := PyFloat.finite (surroundings.clock.reading node.readings)
      .ok () { node with
        snapshot
        readings := node.readings + 1
        lastUpdate := some now
        lastError := remoteError }
  | .error error node =>
      if error.kind = .control then .error error node
      else .ok () (closeClientLocked { node with lastError := error.text })

/-- `_poll_once`. -/
def pollOnce : NodeM σ Reaction := do
  if !(← ensureClientLocked surroundings parameters false) then
    let state ← publishStateLocked surroundings parameters
    return { response := none, state }
  let remoteError ← repairPolled surroundings parameters
  pollStatus surroundings parameters remoteError
  let state ← publishStateLocked surroundings parameters
  return { response := none, state }

end Callbacks

end PlcNode

/-- The callbacks of the node. -/
inductive NodeEvent where
  | call (output : Output) (enabled : Bool)
  | poll
  deriving DecidableEq, Repr

/-- One callback. -/
def PlcNode.handle {σ : Type} (surroundings : Surroundings σ) (parameters : Parameters) :
    NodeEvent → NodeM σ Reaction
  | .call output enabled => serviceCallback surroundings parameters output enabled
  | .poll => pollOnce surroundings parameters

/-- One callback as a step; an exception that leaves a callback ends the node. -/
def PlcNode.step {σ : Type} (surroundings : Surroundings σ) (parameters : Parameters) :
    Step (PlcNode σ) NodeEvent := fun node event =>
  match handle surroundings parameters event node with
  | .ok _ node => some node
  | .error _ _ => none

end RtControl.Plc
