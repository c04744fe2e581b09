import RtControl.Codec.BigEndian
import RtControl.Codec.PyFloat
import Mathlib.Algebra.Order.Field.Rat
import Mathlib.Data.List.Basic
import Mathlib.Tactic.Positivity

/-!
# The BMS node

The node reads raw CAN frames from a socket, takes over the values of the frames it
accepts, and publishes them as a battery state while they are fresh.  Over whole
sequences of reads the published values are those of the last accepted frame.
-/

namespace RtControl.Bms

open RtControl.Codec

/-! ## The protocol -/

/-- `BASIC_STATUS_FRAME_ID`. -/
def basicStatusFrameId : UInt32 := 0x3FC

/-- `BmsSample`. -/
structure BmsSample where
  voltage : Option PyFloat := none
  socFraction : Option PyFloat := none
  lastFrame : Option PyFloat := none
  deriving DecidableEq

/-- The byte at an offset. -/
def byteAt (bytes : List UInt8) (offset : Nat) : UInt8 :=
  bytes.getD offset 0

section Protocol

variable (rounding : Rounding)

/-- `BmsSample.is_fresh`. -/
def BmsSample.isFresh (sample : BmsSample) (now timeout : PyFloat) : Bool :=
  match sample.lastFrame with
  | none => false
  | some lastFrame =>
      if !(lastFrame.isFinite && now.isFinite && timeout.isFinite) then
        false
      else
        let age := now.sub rounding lastFrame
        (PyFloat.finite 0).lt timeout && ((PyFloat.finite 0).le age && age.le timeout)

/-- The voltage of the first two bytes, `struct.unpack(">H", data[0:2])[0] * 0.1`. -/
def voltageOf (data : List UInt8) : ℚ :=
  rounding.round ((unpack16 (byteAt data 0) (byteAt data 1)).toNat * rounding.round (1 / 10))

/-- The fraction of a percentage, `soc_percent / 100.0`. -/
def socFractionOf (socPercent : UInt8) : ℚ :=
  rounding.round (socPercent.toNat / 100)

/-- `ingest_basic_frame`; the sample, and whether the frame was taken over. -/
def ingestBasicFrame (sample : BmsSample) (canId : UInt32) (data : List UInt8) (now : PyFloat) :
    BmsSample × Bool :=
  if canId ≠ basicStatusFrameId ∨ data.length < 5 ∨ now.isFinite = false then
    (sample, false)
  else
    let socPercent := byteAt data 4
    if socPercent > 100 then
      (sample, false)
    else
      ({ sample with
          voltage := some (.finite (voltageOf rounding data))
          socFraction := some (.finite (socFractionOf rounding socPercent))
          lastFrame := some now }, true)

/-- `project_battery_values`. -/
def projectBatteryValues (sample : BmsSample) (now timeout : PyFloat) : PyFloat × PyFloat :=
  if !sample.isFresh rounding now timeout then
    (.nan, .nan)
  else
    match sample.voltage, sample.socFraction with
    | some voltage, some socFraction =>
        if !voltage.isFinite || !socFraction.isFinite then
          (.nan, .nan)
        else if !((PyFloat.finite 0).le socFraction && socFraction.le (.finite 1)) then
          (.nan, .nan)
        else
          (voltage, socFraction)
    | _, _ => (.nan, .nan)

end Protocol

/-! ## The node -/

/-- The byte order of the machine. -/
inductive ByteOrder where
  | little
  | big
  deriving DecidableEq, Repr

/-- A 32-bit word in the byte order of the machine. -/
def ByteOrder.word (order : ByteOrder) (b0 b1 b2 b3 : UInt8) : UInt32 :=
  match order with
  | little =>
      UInt32.ofNat (((b3.toNat * 256 + b2.toNat) * 256 + b1.toNat) * 256 + b0.toNat)
  | big => UInt32.ofNat (((b0.toNat * 256 + b1.toNat) * 256 + b2.toNat) * 256 + b3.toNat)

def canFrameSize : Nat := 16

def canEffFlag : UInt32 := 0x80000000

def canRtrFlag : UInt32 := 0x40000000

def canErrFlag : UInt32 := 0x20000000

def canSffMask : UInt32 := 0x000007FF

def canFrameFlagMask : UInt32 := canEffFlag ||| canRtrFlag ||| canErrFlag

/-- The identifier word of a raw frame. -/
def rawCanId (order : ByteOrder) (rawFrame : List UInt8) : UInt32 :=
  order.word (byteAt rawFrame 0) (byteAt rawFrame 1) (byteAt rawFrame 2) (byteAt rawFrame 3)

/-- `decode_can_frame`; the frame is an identifier word, a length byte, three bytes of
padding and eight data bytes. -/
def decodeCanFrame (order : ByteOrder) (rawFrame : List UInt8) : Option (UInt32 × List UInt8) :=
  if rawFrame.length ≠ canFrameSize then
    none
  else
    let canDlc := byteAt rawFrame 4
    let data := rawFrame.drop 8
    if rawCanId order rawFrame &&& canFrameFlagMask ≠ 0 ∨ canDlc > 8 then
      none
    else
      let canId := rawCanId order rawFrame &&& canSffMask
      if canId ≠ basicStatusFrameId then none else some (canId, data.take canDlc.toNat)

/-- `BatteryState` without its header. -/
structure BatteryState where
  voltage : PyFloat
  temperature : PyFloat
  current : PyFloat
  charge : PyFloat
  capacity : PyFloat
  designCapacity : PyFloat
  percentage : PyFloat
  powerSupplyStatus : UInt8
  powerSupplyHealth : UInt8
  powerSupplyTechnology : UInt8
  present : Bool
  deriving DecidableEq

/-- `battery_state_message`; the supply constants are the unknown ones. -/
def batteryStateMessage (rounding : Rounding) (sample : BmsSample) (now timeout : PyFloat) :
    BatteryState :=
  let (voltage, socFraction) := projectBatteryValues rounding sample now timeout
  let fresh := !voltage.isNan && !socFraction.isNan
  { voltage
    temperature := .nan
    current := .nan
    charge := .nan
    capacity := .nan
    designCapacity := .nan
    percentage := socFraction
    powerSupplyStatus := 0
    powerSupplyHealth := 0
    powerSupplyTechnology := 0
    present := fresh }

/-- A raw read and the time it was received at. -/
structure RawRead where
  bytes : List UInt8
  time : ℚ
  deriving DecidableEq

/-- One round of `_reader_loop` that received something. -/
def readFrame (order : ByteOrder) (rounding : Rounding) (sample : BmsSample) (read : RawRead) :
    BmsSample :=
  match decodeCanFrame order read.bytes with
  | none => sample
  | some (canId, payload) => (ingestBasicFrame rounding sample canId payload (.finite read.time)).1

/-- The sample after some reads. -/
def readFrames (order : ByteOrder) (rounding : Rounding) (reads : List RawRead) : BmsSample :=
  reads.foldl (readFrame order rounding) {}

end RtControl.Bms
