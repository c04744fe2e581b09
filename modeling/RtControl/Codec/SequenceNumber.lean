import Mathlib.Algebra.Ring.Parity

/-!
# Wrapping sequence numbers

A 64-bit counter that is incremented twice around every write.  Its parity tells
whether a write is open, and two equal readings are readings of one count when the
counter cannot have gone all the way around in between.
-/

namespace RtControl.Codec

/-- The counter after some increments. -/
def sequenceNumber (increments : ℕ) : UInt64 :=
  UInt64.ofNat increments

theorem sequenceNumber_succ (increments : ℕ) :
    sequenceNumber (increments + 1) = sequenceNumber increments + 1 := by
  apply UInt64.toNat_inj.mp
  simp [sequenceNumber, UInt64.toNat_add]

/-- A full turn of the counter is not seen. -/
theorem sequenceNumber_add_turn (increments : ℕ) :
    sequenceNumber (increments + 2 ^ 64) = sequenceNumber increments := by
  apply UInt64.toNat_inj.mp
  simp [sequenceNumber]

/-- The lowest bit is the parity of the count. -/
theorem sequenceNumber_and_one_eq_zero_iff (increments : ℕ) :
    sequenceNumber increments &&& 1 = 0 ↔ Even increments := by
  have one : (1 : UInt64).toNat = 1 := rfl
  rw [sequenceNumber, ← UInt64.toNat_inj, UInt64.toNat_and, UInt64.toNat_ofNat', one,
    Nat.and_one_is_mod, Nat.even_iff]
  simp

/-- Equal readings less than a turn apart are readings of one count. -/
theorem eq_of_sequenceNumber_eq {before after : ℕ} (later : before ≤ after)
    (within : after - before < 2 ^ 64)
    (equal : sequenceNumber before = sequenceNumber after) : before = after := by
  rw [sequenceNumber, sequenceNumber, ← UInt64.toNat_inj, UInt64.toNat_ofNat',
    UInt64.toNat_ofNat'] at equal
  omega

end RtControl.Codec
