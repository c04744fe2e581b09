import RtControl.Codec.Strto
import RtControl.Transition.Script
import Mathlib.Data.List.Sort

/-!
# The CANopen track motors

`Cia402System::on_activate` brings up the two track motors one after the other and rolls back when
a step fails.  `on_deactivate` takes them down and goes on after a failure.  Both are sequences of
calls on the drivers of the nodes, whose answers are arbitrary.
-/

namespace RtControl.Canopen

open RtControl.Codec
open RtControl.Transition

/-! ## Calls -/

/-- The calls of the lifecycle callbacks, and the writes to `motor_data_`. -/
inductive Action where
  /-- `CanopenSystem::on_activate` -/
  | baseActivate
  | tpdoTransmit (node : UInt8) (index : UInt16) (subindex : UInt8) (data : UInt32)
  | initMotor (node : UInt8)
  | getMode (node : UInt8)
  | setOperationMode (node : UInt8) (mode : UInt16)
  /-- `motor_data_[node].target.velocity_value` -/
  | storeVelocity (node : UInt8) (value : Int)
  | setTarget (node : UInt8) (value : Int)
  | getState (node : UInt8)
  | sleepMs (milliseconds : Nat)
  | shutdownMotor (node : UInt8)
  | requestNmtStop
  | stopCallbackExecutor
  /-- `shutdown` of a registered driver. -/
  | shutdownDriver (node : UInt16)
  /-- `CanopenSystem::on_deactivate` -/
  | baseDeactivate
  deriving DecidableEq, Repr

/-- The drivers of the nodes: they answer by what has been called before.  A call that returns no
verdict is accepted whatever the answer is. -/
structure Device where
  accepts : Environment Action
  /-- `get_mode` -/
  mode : List Action → UInt8 → UInt16
  /-- `get_state` returns `Switch_On_Disabled`. -/
  switchOnDisabled : List Action → UInt8 → Bool

/-- The stages of the messages about a failure. -/
inductive Stage where
  | driverLookup
  | primeOperationMode
  | initMotor
  | setOperationMode
  | seedSafeTarget
  | shutdownMotor
  | nmtStop
  | driverShutdown
  deriving DecidableEq, Repr

/-- The text of a stage. -/
def Stage.text : Stage → String
  | .driverLookup => "driver_lookup"
  | .primeOperationMode => "prime_operation_mode"
  | .initMotor => "init_motor"
  | .setOperationMode => "set_operation_mode"
  | .seedSafeTarget => "seed_safe_target"
  | .shutdownMotor => "shutdown_motor"
  | .nmtStop => "nmt_stop"
  | .driverShutdown => "driver_shutdown"

/-- A failure with the node of its message; zero for the stages of no node. -/
structure Failure where
  node : UInt8
  stage : Stage
  deriving DecidableEq, Repr

/-- The calls so far and the first failure. -/
abbrev Log :=
  Journal Action Failure

/-- The registered drivers by node id. -/
abbrev Drivers :=
  List UInt16

/-- `drivers.find(node) != drivers.end()` -/
def Drivers.has (drivers : Drivers) (node : UInt8) : Bool :=
  drivers.contains node.toUInt16

/-! ## Configuration -/

/-- `MotorBase::Profiled_Velocity` -/
def profiledVelocity : UInt16 := 3

/-- A joint of the hardware component. -/
structure Joint where
  name : String
  nodeId : Option String
  operationMode : Option String

structure MotorConfiguration where
  nodeId : UInt8
  operationMode : UInt16
  deriving DecidableEq, Repr

/-- The errors of the configuration, by the joint. -/
inductive ConfigurationError where
  | noOperationMode (joint : String)
  | unsupported (joint : String) (node : UInt8) (mode : UInt16)
  | invalid (joint : String)
  | notNodesTwoAndThree
  deriving DecidableEq, Repr

/-- The numbers of a joint with both parameters. -/
def readMotor (joint nodeId operationMode : String) :
    Except ConfigurationError MotorConfiguration :=
  match stoul nodeId, stoul operationMode with
  | .ok node, .ok mode =>
      if node > 0xFF ∨ mode > 0xFFFF then .error (.invalid joint)
      else if (UInt8.ofNat node ≠ 2 ∧ UInt8.ofNat node ≠ 3) ∨
          UInt16.ofNat mode ≠ profiledVelocity then
        .error (.unsupported joint (UInt8.ofNat node) (UInt16.ofNat mode))
      else
        .ok { nodeId := UInt8.ofNat node, operationMode := UInt16.ofNat mode }
  | _, _ => .error (.invalid joint)

/-- The loop over the joints; those without a node id are passed over. -/
def readMotors : List Joint → Except ConfigurationError (List MotorConfiguration)
  | [] => .ok []
  | joint :: joints =>
      match joint.nodeId, joint.operationMode with
      | none, _ => readMotors joints
      | some _, none => .error (.noOperationMode joint.name)
      | some nodeId, some operationMode =>
          (readMotor joint.name nodeId operationMode).bind fun motor =>
            (readMotors joints).map (motor :: ·)

/-- The configurations of the motors, sorted by node. -/
def configure (joints : List Joint) : Except ConfigurationError (List MotorConfiguration) :=
  (readMotors joints).bind fun motors =>
    let sorted := motors.insertionSort fun first second => first.nodeId ≤ second.nodeId
    if sorted.map (·.nodeId) = [2, 3] then .ok sorted else .error .notNodesTwoAndThree

/-! ## Activation -/

section Callbacks

variable (device : Device) (drivers : Drivers)

/-- The steps that bring up a motor, up to the reading of its mode. -/
def primeMotor (motor : MotorConfiguration) : List (ScriptStep Action Failure) :=
  [.attempt (.tpdoTransmit motor.nodeId 0x6060 0 motor.operationMode.toUInt32)
      ⟨motor.nodeId, .primeOperationMode⟩,
    .attempt (.initMotor motor.nodeId) ⟨motor.nodeId, .initMotor⟩]

/-- The velocity target is set to zero. -/
def zeroTarget (node : UInt8) : List (ScriptStep Action Failure) :=
  [.perform (.storeVelocity node 0), .attempt (.setTarget node 0) ⟨node, .seedSafeTarget⟩]

/-- The steps after the mode has been read. -/
def seedMotor (motor : MotorConfiguration) (mode : UInt16) : List (ScriptStep Action Failure) :=
  (if mode ≠ motor.operationMode then
    [.attempt (.setOperationMode motor.nodeId motor.operationMode)
      ⟨motor.nodeId, .setOperationMode⟩]
  else
    []) ++ zeroTarget motor.nodeId

/-- The body of the activation loop. -/
def activateMotor (motor : MotorConfiguration) (j : Log) : Log :=
  if !drivers.has motor.nodeId then
    j.step device.accepts (.fail ⟨motor.nodeId, .driverLookup⟩)
  else
    let j := j.runUntil device.accepts (primeMotor motor)
    if j.failure.isSome then j
    else
      let mode := device.mode j.actions motor.nodeId
      (j.step device.accepts (.perform (.getMode motor.nodeId))).runUntil device.accepts
        (seedMotor motor mode)

/-- The activation loop: the log and the completed nodes. -/
def activateMotors : List MotorConfiguration → Log → List UInt8 → Log × List UInt8
  | [], j, completed => (j, completed)
  | motor :: motors, j, completed =>
      let j := activateMotor device drivers motor j
      if j.failure.isSome then (j, completed)
      else activateMotors motors j (completed ++ [motor.nodeId])

/-- The first loop of the rollback. -/
def rollbackTarget (j : Log) (motor : MotorConfiguration) : Log :=
  if !drivers.has motor.nodeId then j
  else
    let mode := device.mode j.actions motor.nodeId
    let j := j.step device.accepts (.perform (.getMode motor.nodeId))
    if mode = motor.operationMode then j.run device.accepts (zeroTarget motor.nodeId) else j

/-- The second loop of the rollback. -/
def rollbackMotor (j : Log) (node : UInt8) : Log :=
  if !drivers.has node then j.step device.accepts (.fail ⟨node, .driverLookup⟩)
  else j.step device.accepts (.attempt (.shutdownMotor node) ⟨node, .shutdownMotor⟩)

/-- `shutdown_order` -/
def shutdownOrder (motors : List MotorConfiguration) (completed : List UInt8) : List UInt8 :=
  completed.reverse ++ (motors.map (·.nodeId)).filter fun node => !completed.contains node

/-- The rollback, with a first failure of its own. -/
def rollback (motors : List MotorConfiguration) (completed : List UInt8) (actions : List Action) :
    Log :=
  let targeted : Log := motors.foldl (rollbackTarget device drivers) { actions }
  let slept := targeted.step device.accepts (.perform (.sleepMs 20))
  let j := (shutdownOrder motors completed).foldl (rollbackMotor device drivers) slept
  if j.failure.isSome then j.step device.accepts (.perform .requestNmtStop) else j

/-- How `on_activate` ends. -/
inductive Activation where
  | success
  | baseFailed
  | refused (reason : ConfigurationError)
  /-- The first failure, and the first failure of the rollback. -/
  | failed (primary : Failure) (rollback : Option Failure)
  deriving DecidableEq, Repr

/-- `Cia402System::on_activate` -/
def onActivate (joints : List Joint) (actions : List Action) : Activation × List Action :=
  let activated := actions ++ [.baseActivate]
  if !device.accepts actions .baseActivate then (.baseFailed, activated)
  else
    match configure joints with
    | .error reason => (.refused reason, activated)
    | .ok motors =>
        let (j, completed) := activateMotors device drivers motors { actions := activated } []
        match j.failure with
        | none => (.success, j.actions)
        | some primary =>
            let undone := rollback device drivers motors completed j.actions
            (.failed primary undone.failure, undone.actions)

/-! ## Deactivation -/

/-- The nodes of the track motors. -/
def trackNodes : List UInt8 :=
  [2, 3]

/-- The first loop of `on_deactivate`. -/
def deactivateTarget (j : Log) (node : UInt8) : Log :=
  if !drivers.has node then j.step device.accepts (.fail ⟨node, .driverLookup⟩)
  else
    let disabled := device.switchOnDisabled j.actions node
    let j := j.step device.accepts (.perform (.getState node))
    if disabled then j else j.run device.accepts (zeroTarget node)

/-- The second loop of `on_deactivate`. -/
def deactivateMotor (j : Log) (node : UInt8) : Log :=
  if !drivers.has node then j
  else j.step device.accepts (.attempt (.shutdownMotor node) ⟨node, .shutdownMotor⟩)

/-- `shutdown_drivers`: every driver is shut down, and a thrown exception is a failure. -/
def shutdownDrivers (j : Log) : Log :=
  drivers.foldl
    (fun j driver =>
      j.step device.accepts (.attempt (.shutdownDriver driver) ⟨0, .driverShutdown⟩)) j

/-- `Cia402System::on_deactivate`: whether it succeeds, the first failure and the calls. -/
def onDeactivate (actions : List Action) : Bool × Log :=
  let targeted : Log := trackNodes.foldl (deactivateTarget device drivers) { actions }
  let slept := targeted.step device.accepts (.perform (.sleepMs 20))
  let down := trackNodes.foldl (deactivateMotor device drivers) slept
  let stopped := down.step device.accepts (.attempt .requestNmtStop ⟨0, .nmtStop⟩)
  let quiesced := stopped.step device.accepts (.perform .stopCallbackExecutor)
  let j := shutdownDrivers device drivers quiesced
  let base := device.accepts j.actions .baseDeactivate
  (j.failure.isNone && base, j.step device.accepts (.perform .baseDeactivate))

end Callbacks

end RtControl.Canopen
