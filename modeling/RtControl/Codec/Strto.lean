import RtControl.Codec.Numeral

/-!
# Integer conversions

`std::stoi` and `std::stoul` in base ten: white space, an optional sign and at least one digit
are read, and what follows the digits is ignored.
-/

namespace RtControl.Codec

/-- The exceptions of the conversions. -/
inductive ConversionError where
  | invalidArgument
  | outOfRange
  deriving DecidableEq, Repr

/-- `isspace` in the C locale. -/
def isSpace (char : Char) : Bool :=
  char = ' ' || (0x09 ≤ char.toNat && char.toNat ≤ 0x0d)

/-- Whether the text is negative, and the text after its sign. -/
def readSign : List Char → Bool × List Char
  | '-' :: text => (true, text)
  | '+' :: text => (false, text)
  | text => (false, text)

/-- The decimal digits at the front of a text. -/
def leadingDigits (text : List Char) : List Nat :=
  (text.takeWhile Char.isDigit).map fun char => char.toNat - 0x30

/-- The sign and the magnitude of the number that `strtol` and `strtoul` read. -/
def readNumber (text : String) : Option (Bool × Nat) :=
  let (negative, text) := readSign (text.toList.dropWhile isSpace)
  let digits := leadingDigits text
  if digits = [] then none else some (negative, numeral 10 digits)

/-- `std::stoi`, with an `int` of 32 bits. -/
def stoi (text : String) : Except ConversionError Int :=
  match readNumber text with
  | none => .error .invalidArgument
  | some (negative, magnitude) =>
      let value : Int := if negative then -magnitude else magnitude
      if -2147483648 ≤ value ∧ value ≤ 2147483647 then .ok value else .error .outOfRange

/-- `std::stoul`, with an `unsigned long` of 64 bits: a negative number wraps around. -/
def stoul (text : String) : Except ConversionError Nat :=
  match readNumber text with
  | none => .error .invalidArgument
  | some (negative, magnitude) =>
      if magnitude < 2 ^ 64 then
        .ok (if negative then (2 ^ 64 - magnitude) % 2 ^ 64 else magnitude)
      else
        .error .outOfRange

example : stoul " -18446744073709551614x" = .ok 2 := by
  decide +kernel

end RtControl.Codec
