import Mathlib.Algebra.Order.Ring.Unbundled.Rat
import Mathlib.Order.Monotone.Defs

/-!
# Floats

Floats are exact rationals, the two infinities and not-a-number.  The sum of two
finite floats is the rounded exact sum; which rounding is used stays open, so
results about it hold for the rounding of the machine and for exact arithmetic.
-/

namespace RtControl.Codec

/-- A rounding of exact results. -/
structure Rounding where
  round : ℚ → ℚ
  monotone : Monotone round
  zero : round 0 = 0
  one : round 1 = 1

/-- Exact arithmetic. -/
def Rounding.exact : Rounding where
  round := id
  monotone := monotone_id
  zero := rfl
  one := rfl

@[simp]
theorem Rounding.exact_round (value : ℚ) : Rounding.exact.round value = value :=
  rfl

/-- A float. -/
inductive PyFloat where
  | finite (value : ℚ)
  | infinity (negative : Bool)
  | nan
  deriving DecidableEq

namespace PyFloat

/-- `math.isfinite`. -/
def isFinite : PyFloat → Bool
  | finite _ => true
  | _ => false

/-- `math.isnan`. -/
def isNan : PyFloat → Bool
  | nan => true
  | _ => false

def neg : PyFloat → PyFloat
  | finite value => finite (-value)
  | infinity negative => infinity !negative
  | nan => nan

def add (rounding : Rounding) : PyFloat → PyFloat → PyFloat
  | finite first, finite second => finite (rounding.round (first + second))
  | infinity first, infinity second => if first = second then infinity first else nan
  | infinity negative, finite _ | finite _, infinity negative => infinity negative
  | nan, _ | _, nan => nan

def sub (rounding : Rounding) (first second : PyFloat) : PyFloat :=
  first.add rounding second.neg

/-- `<=`; every comparison with not-a-number fails. -/
def le : PyFloat → PyFloat → Bool
  | finite first, finite second => decide (first ≤ second)
  | infinity first, infinity second => first || !second
  | infinity negative, finite _ => negative
  | finite _, infinity negative => !negative
  | nan, _ | _, nan => false

/-- `<`. -/
def lt (first second : PyFloat) : Bool :=
  first.le second && !second.le first

@[simp]
theorem isFinite_finite (value : ℚ) : (finite value).isFinite = true :=
  rfl

@[simp]
theorem sub_finite (rounding : Rounding) (first second : ℚ) :
    (finite first).sub rounding (finite second) = finite (rounding.round (first - second)) := by
  rw [sub, neg, add, sub_eq_add_neg]

@[simp]
theorem le_finite_iff (first second : ℚ) :
    (finite first).le (finite second) = true ↔ first ≤ second :=
  decide_eq_true_iff

end PyFloat

end RtControl.Codec
