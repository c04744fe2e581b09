import RtControl.Transition.Core
import Mathlib.Data.Rat.Floor
import Mathlib.Algebra.Order.Group.Unbundled.Abs

/-!
# The patched CiA402 drive

`EcCiA402Drive` handles one PDO channel per call of `processData`.  A pass of the master
calls it once for every channel in order, and `onPdoCycleSent` follows when the process
image has been sent.  The drive preloads the target position with the raw actual position,
lets Operation Enable through only after a sent preload, and hands the target position over
to the position command once in every session of Operation Enabled.

The model has `auto_state_transitions: false` and an operational slave.  The decoding of
the status word belongs to the upstream driver and is a parameter; `ec_update` writes the
command when it is finite and not overridden and the finite default otherwise.
-/

namespace RtControl.Ethercat

open RtControl.Transition

/-- A double of the driver.  `none` stands for the values that are not finite. -/
abbrev Double :=
  Option ℚ

/-- The objects of a PDO channel that the drive treats in a special way. -/
inductive Object where
  /-- `CiA402D_RPDO_CONTROLWORD` -/
  | controlWord
  /-- `CiA402D_RPDO_POSITION` -/
  | targetPosition
  /-- `CiA402D_RPDO_MODE_OF_OPERATION` -/
  | modeOfOperation
  /-- `CiA402D_TPDO_POSITION` -/
  | actualPosition
  /-- `CiA402D_TPDO_STATUSWORD` -/
  | statusWord
  | other (index : UInt16)
  deriving DecidableEq

/-- `EcPdoChannelManager`, as far as the drive uses it.  `rpdo` is set for the channels of
the receive PDOs, which the master writes. -/
structure Channel where
  object : Object
  rpdo : Bool
  interfaceIndex : Option ℕ := none
  factor : ℚ := 1
  offset : ℚ := 0
  defaultValue : Double := none
  overrideCommand : Bool := false
  lastValue : Double := none
  lastRawValue : Double := none

/-- `static_cast<uint16_t>` of a finite double. -/
def castUInt16 (value : ℚ) : UInt16 :=
  UInt16.ofInt (if 0 ≤ value then ⌊value⌋ else ⌈value⌉)

/-- The low nibble of a control word asks for Operation Enable. -/
def asksOperationEnable (value : ℚ) : Bool :=
  castUInt16 value &&& 0xF = 0xF

/-- The status words of the upstream driver. -/
structure Upstream (σ : Type) where
  deviceState : UInt16 → σ
  operationEnabled : σ

/-- The process image as the drive has written it. -/
structure Image where
  controlWord : Double := none
  targetPosition : Double := none

/-- The members of the drive, with the interface and image data that it works on. -/
structure Drive (σ : Type) where
  channels : List Channel
  commands : List Double
  inputs : ℕ → Double
  image : Image := {}
  /-- The channel of the next call of a pass. -/
  cursor : ℕ := 0
  state : σ
  statusWord : UInt16
  lastStatusWord : UInt16
  modeOfOperation : ℚ
  lastPosition : Double := none
  lastPositionRaw : Double := none
  actualPositionSeen : Bool := false
  targetPositionPreloaded : Bool := false
  targetPositionPreloadPending : Bool := false
  targetPositionPreloadRaw : Double := none
  positionCommandSynchronized : Bool := false
  positionCommandTakeoverAllowed : Bool := false
  positionCommandInterfaceIndex : Option ℕ := none

/-- One degree in radians: the double next to 0.017453292519943295. -/
def positionCommandSyncTolerance : ℚ :=
  5030569068109113 / 2 ^ 58

/-! ## One channel -/

/-- The mapped command of a channel. -/
def Channel.command (channel : Channel) (commands : List Double) : Double :=
  channel.interfaceIndex.bind fun index => (commands[index]?).join

/-- The value that `ec_update` writes for a receive PDO. -/
def Channel.outgoing (channel : Channel) (commands : List Double) : Double :=
  if channel.rpdo then
    match channel.command commands with
    | some command =>
        if channel.overrideCommand then channel.defaultValue
        else some (channel.factor * command + channel.offset)
    | none => channel.defaultValue
  else
    none

/-- `ec_update`: `ec_write` stores the written value and `ec_read` the scaled and the raw
reading. -/
def Channel.ecUpdate (channel : Channel) (commands : List Double) (input : Double) : Channel :=
  if channel.rpdo then
    { channel with lastValue := (channel.outgoing commands).or channel.lastValue }
  else
    { channel with
      lastRawValue := input
      lastValue := input.map fun raw => channel.factor * raw + channel.offset }

section Drive

variable {σ : Type} [DecidableEq σ]

/-- A valid actual position has been read. -/
def Drive.positionValid (d : Drive σ) : Bool :=
  d.actualPositionSeen && d.lastPositionRaw.isSome

/-- The command is finite and close to the last actual position. -/
def Drive.commandNear (d : Drive σ) (channel : Channel) : Bool :=
  match channel.command d.commands, d.lastPosition with
  | some command, some position => |command - position| ≤ positionCommandSyncTolerance
  | _, _ => false

/-- The control word: Operation Enable is replaced by Switch On before the preload. -/
def Drive.prepareControlWord (d : Drive σ) (channel : Channel) : Channel :=
  match channel.command d.commands with
  | some requested =>
      if !d.targetPositionPreloaded && asksOperationEnable requested then
        { channel with defaultValue := some 7, overrideCommand := true }
      else
        { channel with overrideCommand := false }
  | none => { channel with overrideCommand := false }

/-- The takeover of the target position by the command, inside Operation Enabled. -/
def Drive.takeoverAfter (upstream : Upstream σ) (d : Drive σ) (channel : Channel) : Bool :=
  d.positionCommandTakeoverAllowed ||
    (d.positionValid && decide (d.state = upstream.operationEnabled) && d.commandNear channel)

/-- The target position: the raw actual position outside Operation Enabled, the held
preload or the command inside it, and nothing without a valid position. -/
def Drive.prepareTargetPosition (upstream : Upstream σ) (d : Drive σ) (channel : Channel) :
    Channel :=
  if d.positionValid then
    if d.state ≠ upstream.operationEnabled then
      { channel with defaultValue := d.lastPositionRaw, overrideCommand := true }
    else
      { channel with
        defaultValue := d.targetPositionPreloadRaw
        overrideCommand :=
          !d.targetPositionPreloaded || !d.takeoverAfter upstream channel }
  else
    { channel with defaultValue := none, overrideCommand := true }

/-- The special cases before `ec_update`. -/
def Drive.prepare (upstream : Upstream σ) (d : Drive σ) (channel : Channel) : Channel :=
  match channel.object with
  | .controlWord => d.prepareControlWord channel
  | .targetPosition => d.prepareTargetPosition upstream channel
  | .modeOfOperation =>
      if 0 ≤ d.modeOfOperation ∧ d.modeOfOperation ≤ 10 then
        { channel with defaultValue := some d.modeOfOperation }
      else
        channel
  | _ => channel

/-- `preload_write_requested`. -/
def Drive.preloadWriteRequested (upstream : Upstream σ) (d : Drive σ) : Bool :=
  d.positionValid && decide (d.state ≠ upstream.operationEnabled)

/-- A written value reaches the process image. -/
def Image.store (image : Image) : Object → Double → Image
  | .controlWord, some value => { image with controlWord := some value }
  | .targetPosition, some value => { image with targetPosition := some value }
  | _, _ => image

/-- The members that the target position channel sets. -/
def Drive.afterTargetPosition (upstream : Upstream σ) (d : Drive σ) (channel : Channel) :
    Drive σ :=
  let requested := d.preloadWriteRequested upstream && channel.lastValue.isSome
  let enabled := d.positionValid && decide (d.state = upstream.operationEnabled)
  let takeover := d.takeoverAfter upstream channel
  { d with
    positionCommandTakeoverAllowed := takeover
    positionCommandSynchronized := if enabled then takeover else d.positionCommandSynchronized
    targetPositionPreloadPending := requested || d.targetPositionPreloadPending
    targetPositionPreloadRaw :=
      if requested then channel.lastValue else d.targetPositionPreloadRaw }

/-- The members that a read channel sets. -/
def Drive.afterRead (d : Drive σ) (channel : Channel) : Drive σ :=
  match channel.object with
  | .actualPosition =>
      { d with
        lastPosition := channel.lastValue
        lastPositionRaw := channel.lastRawValue
        actualPositionSeen := channel.lastValue.isSome && channel.lastRawValue.isSome }
  | .statusWord => { d with statusWord := castUInt16 (channel.lastValue.getD 0) }
  | _ => d

/-- The command interface with the position command set to NaN. -/
def clearCommand (commands : List Double) : Option ℕ → List Double
  | some index => commands.set index none
  | none => commands

/-- `reset_enable_session`. -/
def Drive.resetEnableSession (d : Drive σ) : Drive σ :=
  { d with
    targetPositionPreloaded := false
    targetPositionPreloadPending := false
    targetPositionPreloadRaw := none
    positionCommandSynchronized := false
    positionCommandTakeoverAllowed := false
    commands := clearCommand d.commands d.positionCommandInterfaceIndex }

/-- The check for a state change at the last channel. -/
def Drive.checkStateChange (upstream : Upstream σ) (d : Drive σ) : Drive σ :=
  let state :=
    if d.statusWord ≠ d.lastStatusWord then upstream.deviceState d.statusWord else d.state
  let left := d.state = upstream.operationEnabled ∧ state ≠ upstream.operationEnabled
  let d := { d with state := state, lastStatusWord := d.statusWord }
  if left then d.resetEnableSession else d

/-- `processData` up to the check for a state change. -/
def Drive.processChannel (upstream : Upstream σ) (d : Drive σ) (channel : Channel) : Drive σ :=
  let prepared := d.prepare upstream channel
  let updated := prepared.ecUpdate d.commands (d.inputs d.cursor)
  let written :=
    { d with
      channels := d.channels.set d.cursor updated
      image := d.image.store channel.object (prepared.outgoing d.commands) }
  if channel.object = .targetPosition then written.afterTargetPosition upstream updated
  else written.afterRead updated

/-- `processData` for the channel at the cursor. -/
def Drive.processData (upstream : Upstream σ) (d : Drive σ) (channel : Channel) : Drive σ :=
  if d.cursor + 1 = d.channels.length then
    { (d.processChannel upstream channel).checkStateChange upstream with cursor := 0 }
  else
    { d.processChannel upstream channel with cursor := d.cursor + 1 }

/-- `onPdoCycleSent`. -/
def Drive.onPdoCycleSent (d : Drive σ) : Drive σ :=
  if d.targetPositionPreloadPending then
    { d with targetPositionPreloaded := true, targetPositionPreloadPending := false }
  else
    d

/-! ## Configuration and runs -/

/-- The settings that the slave files give the special channels: the control word is not
scaled and its default does not ask for Operation Enable, and the target position is in a
receive PDO. -/
structure Channel.Sound (channel : Channel) : Prop where
  unscaled : channel.object = .controlWord → channel.factor = 1 ∧ channel.offset = 0
  default : channel.object = .controlWord → ∀ value ∈ channel.defaultValue,
    asksOperationEnable value = false
  rpdo : channel.object = .targetPosition → channel.rpdo = true

/-- The channels of a slave file. -/
structure Layout where
  channels : List Channel
  sound : ∀ channel ∈ channels, channel.Sound

/-- The constructed drive after `setupSlave`.  The initial state and the status words are
the upstream driver's. -/
def Drive.construct (layout : Layout) (commands : List Double) (inputs : ℕ → Double)
    (state : σ) (statusWord lastStatusWord : UInt16) (modeOfOperation : ℚ) : Drive σ where
  channels := layout.channels
  commands := commands
  inputs := inputs
  state := state
  statusWord := statusWord
  lastStatusWord := lastStatusWord
  modeOfOperation := modeOfOperation
  positionCommandInterfaceIndex :=
    (layout.channels.find? (·.object = .targetPosition)).bind (·.interfaceIndex)

/-- What happens to a drive: received process data, commands of the controllers, the next
channel of a pass, and the sent image. -/
inductive Event where
  | receive (inputs : ℕ → Double)
  | setCommands (commands : List Double)
  | process
  | sent

/-- One event.  A pass over the channels is not interrupted. -/
def step (upstream : Upstream σ) : Step (Drive σ) Event
  | d, .receive inputs => if d.cursor = 0 then some { d with inputs } else none
  | d, .setCommands commands =>
      if d.cursor = 0 ∧ commands.length = d.commands.length then some { d with commands }
      else none
  | d, .process => (d.channels[d.cursor]?).map (d.processData upstream)
  | d, .sent => if d.cursor = 0 then some d.onPdoCycleSent else none

end Drive

end RtControl.Ethercat
