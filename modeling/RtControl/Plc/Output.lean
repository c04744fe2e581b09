import RtControl.Plc.Runtime
import Mathlib.Data.Nat.Bitwise

/-!
# Output bits

The words that `plc_logic.py` computes for a service call: the control word with its
enable bit set and the command word with one output bit changed.  Each of them
differs from the word it was computed from in at most that bit.
-/

namespace RtControl.Plc

/-- `SUPPORTED_OUTPUT_BITS`. -/
def supportedOutputBits : List UInt16 :=
  [leftSolenoidBit, rightSolenoidBit, vacuumPumpBit]

/-- The error of an output bit that no service is bound to. -/
def unsupportedOutputBit (bitIndex : UInt16) : ClientError where
  kind := .value
  text := s!"unsupported PLC output bit: {bitIndex}"

/-- `set_output_bit`. -/
def setOutputBit (currentWord bitIndex : UInt16) (enabled : Bool) : Except ClientError UInt16 :=
  if bitIndex ∉ supportedOutputBits then
    .error (unsupportedOutputBit bitIndex)
  else
    let bitMask := 1 <<< bitIndex
    if enabled then
      .ok ((currentWord ||| bitMask) &&& 0xFFFF)
    else
      .ok (currentWord &&& ~~~bitMask &&& 0xFFFF)

/-- `output_matches`. -/
def outputMatches (commandWord statusWord bitIndex : UInt16) (expected : Bool) :
    Except ClientError Bool :=
  if bitIndex ∉ supportedOutputBits then
    .error (unsupportedOutputBit bitIndex)
  else
    let bitMask := 1 <<< bitIndex
    let expectedBit := if expected then bitMask else 0
    .ok (commandWord &&& bitMask = expectedBit ∧ statusWord &&& bitMask = expectedBit)

/-- The outputs of the `/plc/*` services, `OUTPUT_SERVICE_BINDINGS`. -/
inductive Output where
  | leftSolenoid
  | rightSolenoid
  | vacuumPump
  deriving DecidableEq, Repr

namespace Output

def serviceName : Output → String
  | leftSolenoid => "/plc/left_solenoid"
  | rightSolenoid => "/plc/right_solenoid"
  | vacuumPump => "/plc/vacuum_pump"

def bit : Output → UInt16
  | leftSolenoid => leftSolenoidBit
  | rightSolenoid => rightSolenoidBit
  | vacuumPump => vacuumPumpBit

theorem bit_mem (output : Output) : output.bit ∈ supportedOutputBits := by
  cases output <;> decide

theorem bit_lt (output : Output) : output.bit.toNat < 3 := by
  cases output <;> decide

theorem bit_injective {first second : Output} (same : first.bit.toNat = second.bit.toNat) :
    first = second := by
  cases first <;> cases second <;> first | rfl | exact absurd same (by decide)

/-- The mask of an output is a power of two. -/
theorem toNat_mask (output : Output) : (1 <<< output.bit : UInt16).toNat = 2 ^ output.bit.toNat := by
  cases output <;> rfl

end Output

/-! ## Words with one bit changed -/

theorem toNat_and_full (word : UInt16) : (word &&& 0xFFFF).toNat = word.toNat := by
  have bound := word.toNat_lt
  rw [UInt16.toNat_and, show (0xFFFF : UInt16).toNat = 2 ^ 16 - 1 from rfl,
    Nat.and_two_pow_sub_one_eq_mod, Nat.mod_eq_of_lt bound]

/-- The word with one bit set or cleared. -/
def withBit (word : UInt16) (bit : UInt16) (enabled : Bool) : UInt16 :=
  if enabled then word ||| 1 <<< bit else word &&& ~~~(1 <<< bit)

theorem setOutputBit_of_output (word : UInt16) (output : Output) (enabled : Bool) :
    setOutputBit word output.bit enabled = .ok (withBit word output.bit enabled) := by
  rw [setOutputBit, if_neg (not_not_intro output.bit_mem)]
  cases enabled with
  | false => exact congrArg _ (UInt16.toNat_inj.mp (toNat_and_full _))
  | true => exact congrArg _ (UInt16.toNat_inj.mp (toNat_and_full _))

theorem testBit_complement (word : UInt16) {bit : Nat} (small : bit < 16) :
    (~~~word).toNat.testBit bit = !word.toNat.testBit bit := by
  have complement : (~~~word).toBitVec.getLsbD bit = !word.toBitVec.getLsbD bit := by
    rw [UInt16.toBitVec_not, BitVec.getLsbD_not, decide_eq_true small, Bool.true_and]
  exact complement

/-- Setting or clearing an output's bit changes no other bit. -/
theorem testBit_withBit (word : UInt16) (output : Output) (enabled : Bool) (bit : Nat)
    (small : bit < 16) :
    (withBit word output.bit enabled).toNat.testBit bit =
      if bit = output.bit.toNat then enabled else word.toNat.testBit bit := by
  have mask : (1 <<< output.bit : UInt16).toNat.testBit bit = decide (bit = output.bit.toNat) := by
    rw [output.toNat_mask, Nat.testBit_two_pow]
    exact decide_eq_decide.mpr eq_comm
  cases enabled with
  | true =>
      rw [withBit, if_pos rfl, UInt16.toNat_or, Nat.testBit_or, mask]
      by_cases same : bit = output.bit.toNat <;> simp [same]
  | false =>
      rw [withBit, if_neg Bool.false_ne_true, UInt16.toNat_and, Nat.testBit_and,
        testBit_complement _ small, mask]
      by_cases same : bit = output.bit.toNat <;> simp [same]

theorem testBit_enableRemoteControlWord (word : UInt16) (bit : Nat) :
    (enableRemoteControlWord word).toNat.testBit bit =
      (word.toNat.testBit bit || decide (bit = 0)) := by
  rw [enableRemoteControlWord, toNat_and_full, UInt16.toNat_or, Nat.testBit_or]
  congr 1
  have lowest : (1 : UInt16).toNat.testBit bit = decide (0 = bit) := Nat.testBit_two_pow (n := 0)
  rw [remoteControlEnableMask, lowest]
  exact decide_eq_decide.mpr eq_comm

/-- A masked comparison reads one bit. -/
theorem masked_eq_iff (word : UInt16) (output : Output) (enabled : Bool) :
    word &&& 1 <<< output.bit = (if enabled then 1 <<< output.bit else 0) ↔
      word.toNat.testBit output.bit.toNat = enabled := by
  have mask := output.toNat_mask
  have positive : 0 ≠ 2 ^ output.bit.toNat := (Nat.two_pow_pos _).ne
  cases enabled with
  | true =>
      rw [if_pos rfl, ← UInt16.toNat_inj, UInt16.toNat_and, mask, Nat.and_two_pow]
      cases word.toNat.testBit output.bit.toNat <;> simp [positive]
  | false =>
      rw [if_neg Bool.false_ne_true, ← UInt16.toNat_inj, UInt16.toNat_and, mask, Nat.and_two_pow]
      cases word.toNat.testBit output.bit.toNat <;> simp

end RtControl.Plc
