import Mathlib.Data.Nat.Digits.Lemmas

/-!
# Positional numerals

The number that a list of digits spells in a base.  The same digits spell the same number
in two bases only when nothing stands before the units.
-/

namespace RtControl.Codec

/-- The number spelled by digits, the most significant one first. -/
def numeral (base : Nat) (digits : List Nat) : Nat :=
  Nat.ofDigits base digits.reverse

@[simp]
theorem numeral_nil (base : Nat) : numeral base [] = 0 :=
  rfl

@[simp]
theorem numeral_concat (base : Nat) (digits : List Nat) (digit : Nat) :
    numeral base (digits ++ [digit]) = numeral base digits * base + digit := by
  rw [numeral, List.reverse_concat, Nat.ofDigits_cons, Nat.add_comm, Nat.mul_comm]
  rfl

/-- A leading zero changes nothing. -/
@[simp]
theorem numeral_zero_cons (base : Nat) (digits : List Nat) :
    numeral base (0 :: digits) = numeral base digits := by
  rw [numeral, List.reverse_cons, Nat.ofDigits_append_zero]
  rfl

theorem numeral_mono {base larger : Nat} (bases : base ≤ larger) (digits : List Nat) :
    numeral base digits ≤ numeral larger digits :=
  Nat.ofDigits_monotone digits.reverse bases

/-- A numeral is zero in every base or in none. -/
theorem numeral_eq_zero_of {base other : Nat} (positive : 0 < base) {digits : List Nat}
    (zero : numeral base digits = 0) : numeral other digits = 0 := by
  induction digits using List.reverseRecOn with
  | nil => rfl
  | append_singleton digits digit ih =>
      rw [numeral_concat] at zero ⊢
      have front := Nat.eq_zero_of_add_eq_zero zero
      have init : numeral base digits = 0 :=
        (Nat.mul_eq_zero.mp front.1).resolve_right (by omega)
      rw [ih init, front.2, Nat.zero_mul]

/-- The same digits spell the same number in two bases exactly when that number is less
than the smaller base. -/
theorem numeral_eq_numeral_iff {base larger : Nat} (positive : 0 < base) (bases : base < larger)
    {digits : List Nat} (small : ∀ digit ∈ digits, digit < base) :
    numeral larger digits = numeral base digits ↔ numeral base digits < base := by
  cases digits using List.reverseRecOn with
  | nil => simp [positive]
  | append_singleton digits digit =>
      have units : digit < base := small digit (by simp)
      rw [numeral_concat, numeral_concat, Nat.add_right_cancel_iff]
      constructor
      · intro same
        -- The larger base can only make the same front as large when there is none.
        have front : numeral base digits = 0 := by
          by_contra nonzero
          have init := numeral_mono bases.le digits
          have strict : numeral base digits * base < numeral larger digits * larger :=
            calc
              numeral base digits * base < numeral base digits * larger :=
                Nat.mul_lt_mul_of_pos_left bases (Nat.pos_of_ne_zero nonzero)
              _ ≤ numeral larger digits * larger := Nat.mul_le_mul_right larger init
          omega
        rwa [front, Nat.zero_mul, Nat.zero_add]
      · intro bounded
        have front : numeral base digits = 0 := by
          by_contra nonzero
          have atLeast : base ≤ numeral base digits * base :=
            Nat.le_mul_of_pos_left base (Nat.pos_of_ne_zero nonzero)
          omega
        rw [front, numeral_eq_zero_of positive front, Nat.zero_mul, Nat.zero_mul]

end RtControl.Codec
