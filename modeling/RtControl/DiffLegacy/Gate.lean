import Mathlib.Data.List.AList

/-!
# The comparison of the migration gate

`diff_legacy.py` flattens the node tree of a YAML document into a map from spelled keys
to scalars and compares two such maps key by key.
-/

namespace RtControl.DiffLegacy

/-- The exceptions that reach the caller. -/
inductive Failure where
  | gateError (message : String)
  | valueError
  deriving DecidableEq

/-- A node of a composed document. -/
inductive Node where
  | scalar (tag value : String)
  | mapping (entries : List (Node × Node))
  | sequence (items : List Node)

/-! ## Integers -/

/-- The zeros of the decimal digits of Unicode. -/
def decimalZeros : List Nat :=
  [0x30, 0x660, 0x6F0, 0x7C0, 0x966, 0x9E6, 0xA66, 0xAE6, 0xB66, 0xBE6, 0xC66, 0xCE6, 0xD66,
    0xDE6, 0xE50, 0xED0, 0xF20, 0x1040, 0x1090, 0x17E0, 0x1810, 0x1946, 0x19D0, 0x1A80, 0x1A90,
    0x1B50, 0x1BB0, 0x1C40, 0x1C50, 0xA620, 0xA8D0, 0xA900, 0xA9D0, 0xA9F0, 0xAA50, 0xABF0,
    0xFF10, 0x104A0, 0x10D30, 0x11066, 0x110F0, 0x11136, 0x111D0, 0x112F0, 0x11450, 0x114D0,
    0x11650, 0x116C0, 0x11730, 0x118E0, 0x11950, 0x11C50, 0x11D50, 0x11DA0, 0x16A60, 0x16AC0,
    0x16B50, 0x1D7CE, 0x1D7D8, 0x1D7E2, 0x1D7EC, 0x1D7F6, 0x1E140, 0x1E2F0, 0x1E950, 0x1FBF0]

/-- The white space that `int` strips. -/
def isIntSpace (char : Char) : Bool :=
  let code := char.toNat
  (0x09 ≤ code && code ≤ 0x0D) || (0x2000 ≤ code && code ≤ 0x200A) ||
    [0x20, 0x85, 0xA0, 0x1680, 0x2028, 0x2029, 0x202F, 0x205F, 0x3000].contains code

/-- The value of a digit in any base. -/
def digitValue (char : Char) : Option Nat :=
  if 'a' ≤ char ∧ char ≤ 'z' then
    some (char.toNat - 'a'.toNat + 10)
  else if 'A' ≤ char ∧ char ≤ 'Z' then
    some (char.toNat - 'A'.toNat + 10)
  else
    (decimalZeros.find? fun start => start ≤ char.toNat && char.toNat < start + 10).map
      (char.toNat - ·)

/-- A number from its digits; there is at least one. -/
def parseDigits (base : Nat) (digits : List Char) : Option Nat :=
  if digits = [] then
    none
  else
    digits.foldlM (fun value char => do
      let digit ← digitValue char
      if digit < base then some (value * base + digit) else none) 0

def stripEnd (text : List Char) : List Char :=
  (text.reverse.dropWhile isIntSpace).reverse

/-- The digits of a decimal number that `int` converts. -/
def maxDecimalDigits : Nat := 4300

/-- `int(text, 10)` on a text without underscores. -/
def intOfDecimal (text : List Char) : Option Int :=
  let stripped := stripEnd (text.dropWhile isIntSpace)
  let (sign, digits) : Int × List Char :=
    match stripped with
    | '-' :: digits => (-1, digits)
    | '+' :: digits => (1, digits)
    | digits => (1, digits)
  if digits.length > maxDecimalDigits then
    none
  else
    (parseDigits 10 digits).map (sign * ·)

/-- The base of a prefixed literal. -/
def baseOf : Char → Option Nat
  | 'x' | 'X' => some 16
  | 'o' | 'O' => some 8
  | 'b' | 'B' => some 2
  | _ => none

/-- `parse_integer`. -/
def parseInteger (text : String) : Except Failure Int :=
  let normalized := text.toList.filter (· ≠ '_')
  let (sign, unsigned) : Int × List Char :=
    match normalized with
    | '-' :: rest => (-1, rest)
    | '+' :: rest => (1, rest)
    | rest => (1, rest)
  let parsed :=
    match unsigned with
    | '0' :: mark :: digits =>
        match baseOf mark with
        | some base => (parseDigits base (stripEnd digits)).map (sign * ·)
        | none => intOfDecimal normalized
    | _ => intOfDecimal normalized
  match parsed with
  | some value => .ok value
  | none => .error .valueError

/-! ## Scalars -/

/-- The kinds of a scalar. -/
inductive Kind where
  | int
  | float
  | bool
  | null
  | string
  deriving DecidableEq

/-- The Python value of a scalar. -/
inductive Value where
  | int (value : Int)
  | bool (value : Bool)
  | none
  | str (value : String)
  deriving DecidableEq

/-- `Scalar`. -/
structure Scalar where
  kind : Kind
  value : Value
  text : String
  deriving DecidableEq

/-- The last part of a tag. -/
def tagName (tag : String) : String :=
  String.ofList (tag.toList.reverse.takeWhile (· ≠ ':')).reverse

/-- `scalar_from_node`. -/
def scalarFromNode (tag value : String) : Except Failure Scalar :=
  if tagName tag = "int" then do
    let number ← parseInteger value
    return { kind := .int, value := .int number, text := value }
  else if tagName tag = "float" then
    return { kind := .float, value := .str value, text := value }
  else if tagName tag = "bool" then
    let truth := decide (value.toLower ∈ ["true", "yes", "on"])
    return { kind := .bool, value := .bool truth, text := value }
  else if tagName tag = "null" then
    return { kind := .null, value := .none, text := value }
  else
    return { kind := .string, value := .str value, text := value }

/-- `equivalent`. -/
def equivalent (expected actual : Scalar) : Bool :=
  if expected.kind ≠ actual.kind then
    false
  else if expected.kind = .float then
    expected.text = actual.text
  else
    expected.value = actual.value

/-! ## Flattening -/

/-- `SemanticMap`. -/
abbrev SemanticMap := AList fun _ : String => Scalar

/-- `mapping_key`. -/
def mappingKey : Node → Except Failure String
  | .scalar _ value => .ok value
  | _ => .error (.gateError "Only scalar YAML mapping keys are supported")

/-- The prefix of the value of a key. -/
def keyPrefix (path key : String) : String :=
  if path = "" then key else path ++ "." ++ key

/-- The prefix of an item of a sequence. -/
def indexPrefix (path : String) (index : Nat) : String :=
  path ++ "[" ++ toString index ++ "]"

mutual

/-- `flatten_node`; the updates of `flattened` are unions that prefer the new values. -/
def flattenNode (path : String) : Node → Except Failure SemanticMap
  | .scalar tag value =>
      if path = "" then
        .error (.gateError "A scalar cannot be used as the configuration root")
      else
        (scalarFromNode tag value).map (AList.singleton path)
  | .mapping entries => flattenEntries path entries ∅
  | .sequence items => flattenItems path 0 items ∅

/-- The loop of `flatten_node` over the entries of a mapping. -/
def flattenEntries (path : String) :
    List (Node × Node) → SemanticMap → Except Failure SemanticMap
  | [], flattened => .ok flattened
  | (keyNode, valueNode) :: entries, flattened => do
      let key ← mappingKey keyNode
      let child ← flattenNode (keyPrefix path key) valueNode
      flattenEntries path entries (child ∪ flattened)

/-- The loop of `flatten_node` over the items of a sequence. -/
def flattenItems (path : String) (index : Nat) :
    List Node → SemanticMap → Except Failure SemanticMap
  | [], flattened => .ok flattened
  | item :: items, flattened => do
      let child ← flattenNode (indexPrefix path index) item
      flattenItems path (index + 1) items (child ∪ flattened)

end

/-! ## Comparing -/

/-- `Difference`. -/
structure Difference where
  axis : String
  key : String
  expected : Option Scalar
  actual : Option Scalar
  deriving DecidableEq

/-- The difference at one key. -/
def differenceAt (axis : String) (expected actual : SemanticMap) (key : String) :
    Option Difference :=
  match expected.lookup key, actual.lookup key with
  | some expectedValue, some actualValue =>
      if equivalent expectedValue actualValue then
        none
      else
        some { axis, key, expected := some expectedValue, actual := some actualValue }
  | expectedValue, actualValue =>
      some { axis, key, expected := expectedValue, actual := actualValue }

/-- `compare_maps`. -/
def compareMaps (axis : String) (expected actual : SemanticMap) : List Difference :=
  ((expected.keys ∪ actual.keys).mergeSort fun first second => first ≤ second).filterMap
    (differenceAt axis expected actual)

end RtControl.DiffLegacy
