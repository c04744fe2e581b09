import RtControl.Codec.PyFloat
import RtControl.Transition.Core
import Mathlib.Logic.Function.Basic

/-!
# The diagnostics node

The node merges the values of the dynamic joint states into one map, keeps the native
diagnostics of the CANopen nodes, and turns both into a table of diagnostic rows once
a second.
-/

namespace RtControl.RtDiagnostics

open RtControl.Codec
open RtControl.Transition

/-! ## Messages -/

/-- The levels of a diagnostic status. -/
inductive Level where
  | ok
  | warn
  | error
  | stale
  deriving DecidableEq, Repr

/-- `DiagnosticStatus`. -/
structure DiagnosticStatus where
  level : Level
  name : String
  message : String
  hardwareId : String
  values : List (String × String)
  deriving DecidableEq, Repr

/-- `InterfaceValue`. -/
structure InterfaceValue where
  interfaceNames : List String
  values : List PyFloat

/-- `DynamicJointState`. -/
structure DynamicJointState where
  jointNames : List String
  interfaceValues : List InterfaceValue

/-- The named values of a message; names without a value and values without a name are
passed over. -/
def DynamicJointState.entries (message : DynamicJointState) : List (String × PyFloat) :=
  (message.jointNames.zip message.interfaceValues).flatMap fun (joint, interfaces) =>
    (interfaces.interfaceNames.zip interfaces.values).map fun (name, value) =>
      (joint ++ "/" ++ name, value)

/-! ## The state -/

/-- `kStaleTimeout` in nanoseconds. -/
def staleTimeoutNs : Int := 3000000000

/-- `kRingPositions` and `kJointNames`. -/
def axes : List (Nat × String) :=
  [(1, "right_joint1"), (2, "right_joint2"), (3, "right_joint3"), (4, "right_joint4"),
    (5, "right_joint5"), (6, "right_joint6"), (7, "left_joint1"), (8, "left_joint2"),
    (9, "left_joint3"), (10, "left_joint4"), (11, "left_joint5"), (12, "left_joint6"),
    (14, "turn"), (15, "updown")]

/-- `CanopenSnapshot`. -/
structure CanopenSnapshot where
  status : DiagnosticStatus
  receivedNs : Int
  valid : Bool

/-- The members of the node. -/
structure Node where
  values : String → Option PyFloat
  canopen2 : CanopenSnapshot
  canopen3 : CanopenSnapshot
  dynamicStateReceivedNs : Int
  hasDynamicState : Bool
  enableManagerState : String
  previousWcErrorCount : PyFloat
  hasPreviousWcCount : Bool
  hardwareId : String

/-- A CANopen node that has not reported yet. -/
def CanopenSnapshot.empty : CanopenSnapshot where
  status := { level := .ok, name := "", message := "", hardwareId := "", values := [] }
  receivedNs := 0
  valid := false

/-- The node after its constructor. -/
def Node.start (hardwareId : String) : Node where
  values _ := none
  canopen2 := .empty
  canopen3 := .empty
  dynamicStateReceivedNs := 0
  hasDynamicState := false
  enableManagerState := ""
  previousWcErrorCount := .finite 0
  hasPreviousWcCount := false
  hardwareId := hardwareId

/-- Merge named values into a map. -/
def merge (values : String → Option PyFloat) (entries : List (String × PyFloat)) :
    String → Option PyFloat :=
  entries.foldl (fun values entry => Function.update values entry.1 (some entry.2)) values

/-- `onDynamicState`. -/
def Node.onDynamicState (node : Node) (nowNs : Int) (message : DynamicJointState) : Node :=
  { node with
    values := merge node.values message.entries
    dynamicStateReceivedNs := nowNs
    hasDynamicState := true }

/-- `onDiagnostics` for one status. -/
def Node.onDiagnosticStatus (nowNs : Int) (node : Node) (status : DiagnosticStatus) : Node :=
  if status.name = "/robot/rt_control/enable_manager" then
    { node with
      enableManagerState := status.values.foldl
        (fun state value => if value.1 = "state" then value.2 else state)
        node.enableManagerState }
  else if status.values.any (fun value =>
      value.1 = "nmt_state" || value.1 = "emcy_state" || value.1 = "cia402_state") then
    let snapshot : CanopenSnapshot := { status, receivedNs := nowNs, valid := true }
    if status.hardwareId = "2" then
      { node with canopen2 := snapshot }
    else if status.hardwareId = "3" then
      { node with canopen3 := snapshot }
    else
      node
  else
    node

/-- `onDiagnostics`. -/
def Node.onDiagnostics (node : Node) (nowNs : Int) (statuses : List DiagnosticStatus) : Node :=
  statuses.foldl (onDiagnosticStatus nowNs) node

/-! ## The rows -/

/-- `getValue`: whether there is a finite value, and the value read. -/
def getValue (values : String → Option PyFloat) (name : String) (value : PyFloat) :
    Bool × PyFloat :=
  match values name with
  | none => (false, value)
  | some value => (value.isFinite, value)

/-- Truncation of a finite value towards zero; the conversion of any other value is
undefined and reaches no level. -/
def truncate : PyFloat → Int
  | .finite value => value.num.tdiv value.den
  | _ => 0

/-- `static_cast<std::uint16_t>`. -/
def toWord (value : PyFloat) : UInt16 :=
  UInt16.ofNat (truncate value % 0x10000).toNat

/-- `cia402StateName`. -/
def cia402StateName (statusWord : UInt16) : String :=
  if statusWord &&& 0x004F = 0x0000 then "NotReadyToSwitchOn"
  else if statusWord &&& 0x004F = 0x0040 then "SwitchOnDisabled"
  else if statusWord &&& 0x006F = 0x0021 then "ReadyToSwitchOn"
  else if statusWord &&& 0x006F = 0x0023 then "SwitchedOn"
  else if statusWord &&& 0x006F = 0x0027 then "OperationEnabled"
  else if statusWord &&& 0x006F = 0x0007 then "QuickStopActive"
  else if statusWord &&& 0x004F = 0x000F then "FaultReactionActive"
  else if statusWord &&& 0x004F = 0x0008 then "Fault"
  else "Unknown"

/-- `isFault`. -/
def isFault (statusWord : UInt16) : Bool :=
  statusWord &&& 0x004F = 0x000F || statusWord &&& 0x004F = 0x0008

def processAgeKey : String := "ethercat_domain/process_data_age_ms"

def linkUpKey : String := "ethercat_master/link_up"

def slavesRespondingKey : String := "ethercat_master/slaves_responding"

def wcErrorCountKey : String := "ethercat_master/wc_error_count"

def alStateKey (position : Nat) : String := s!"ethercat_slave_{position}/al_state"

def statusWordKey (joint : String) : String := joint ++ "/status_word"

section Rows

variable (render : PyFloat → String) (node : Node) (nowNs : Int)

/-- `topic_stale`. -/
def Node.topicStale : Bool :=
  !node.hasDynamicState || decide (nowNs - node.dynamicStateReceivedNs > staleTimeoutNs)

/-- The age of the process data, and whether there is one. -/
def Node.processAge : Bool × PyFloat :=
  getValue node.values processAgeKey (.finite 0)

/-- `process_stale`. -/
def Node.processStale : Bool :=
  !node.processAge.1 || (PyFloat.finite 3000).lt node.processAge.2

/-- The values of the master row: whether all of them were read, and what was read. -/
def Node.masterValues : Bool × PyFloat × PyFloat × PyFloat :=
  let (hasLink, linkUp) := getValue node.values linkUpKey (.finite 0)
  if !hasLink then
    (false, linkUp, .finite 0, .finite 0)
  else
    let (hasSlaves, slavesResponding) := getValue node.values slavesRespondingKey (.finite 0)
    if !hasSlaves then
      (false, linkUp, slavesResponding, .finite 0)
    else
      let (hasCount, wcErrorCount) := getValue node.values wcErrorCountKey (.finite 0)
      (hasCount, linkUp, slavesResponding, wcErrorCount)

/-- The master row. -/
def Node.masterRow : DiagnosticStatus :=
  let (complete, linkUp, slavesResponding, wcErrorCount) := node.masterValues
  let (level, message) :=
    if node.topicStale nowNs || node.processStale || !complete then
      (Level.stale, "EtherCAT process-data snapshot is stale")
    else if linkUp.lt (.finite (1 / 2)) then
      (Level.error, "EtherCAT link is down")
    else if truncate slavesResponding ≠ 16 ||
        (node.hasPreviousWcCount && node.previousWcErrorCount.lt wcErrorCount) then
      (Level.warn, "EtherCAT responder count or working counter changed")
    else
      (Level.ok, "EtherCAT master healthy")
  { level
    name := "/robot/rt_control/ethercat/master"
    message
    hardwareId := node.hardwareId
    values := [("link", render linkUp), ("slaves_responding", render slavesResponding),
      ("wc_error_count", render wcErrorCount),
      ("process_data_age_ms", render node.processAge.2)] }

/-- The values of a slave row. -/
def Node.slaveValues (axis : Nat × String) : Bool × PyFloat × PyFloat :=
  let (hasState, alState) := getValue node.values (alStateKey axis.1) (.finite 0)
  if !hasState then
    (false, alState, .finite 0)
  else
    let (hasWord, statusWord) := getValue node.values (statusWordKey axis.2) (.finite 0)
    (hasWord, alState, statusWord)

/-- A slave row. -/
def Node.slaveRow (axis : Nat × String) : DiagnosticStatus :=
  let (complete, alState, statusWordValue) := node.slaveValues axis
  let statusWord := toWord statusWordValue
  let (level, message) :=
    if node.topicStale nowNs || node.processStale || !complete then
      (Level.stale, "EtherCAT slave snapshot is stale")
    else if isFault statusWord then
      (Level.error, "CiA402 fault")
    else if truncate alState ≠ 0x08 ||
        (node.enableManagerState = "ENABLED" && statusWord &&& 0x006F ≠ 0x0027) then
      (Level.warn, "EtherCAT slave is not in the expected state")
    else
      (Level.ok, "EtherCAT slave state expected")
  { level
    name := s!"/robot/rt_control/ethercat/slave_{axis.1}"
    message
    hardwareId := node.hardwareId
    values := [("al_state", render alState), ("cia402_state", cia402StateName statusWord),
      ("position", toString axis.1)] }

/-- A CANopen row. -/
def Node.canopenRow (number : Nat) (snapshot : CanopenSnapshot) : DiagnosticStatus :=
  let source := [("source_hardware_id", toString number)]
  let name := s!"/robot/rt_control/canopen/node_{number}"
  if !snapshot.valid || decide (nowNs - snapshot.receivedNs > staleTimeoutNs) then
    { level := .stale
      name
      message := "ros2_canopen native diagnostics are stale"
      hardwareId := node.hardwareId
      values := source }
  else
    { level := snapshot.status.level
      name
      message := snapshot.status.message
      hardwareId := node.hardwareId
      values := snapshot.status.values ++ source }

/-- The array that `publishSnapshot` publishes. -/
def Node.snapshotRows : List DiagnosticStatus :=
  node.masterRow render nowNs :: axes.map (node.slaveRow render nowNs) ++
    [node.canopenRow nowNs 2 node.canopen2, node.canopenRow nowNs 3 node.canopen3]

/-- The node after `publishSnapshot`. -/
def Node.publishSnapshot : Node :=
  let (complete, _, _, wcErrorCount) := node.masterValues
  if complete then
    { node with previousWcErrorCount := wcErrorCount, hasPreviousWcCount := true }
  else
    node

end Rows

/-- The callbacks of the node, with the time they run at. -/
inductive Event where
  | dynamicState (nowNs : Int) (message : DynamicJointState)
  | diagnostics (nowNs : Int) (statuses : List DiagnosticStatus)
  | tick (nowNs : Int)

/-- One callback. -/
def step : Step Node Event := fun node event =>
  match event with
  | .dynamicState nowNs message => some (node.onDynamicState nowNs message)
  | .diagnostics nowNs statuses => some (node.onDiagnostics nowNs statuses)
  | .tick _ => some node.publishSnapshot

end RtControl.RtDiagnostics
