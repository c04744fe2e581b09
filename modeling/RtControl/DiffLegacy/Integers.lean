import RtControl.DiffLegacy.Gate
import RtControl.Codec.Numeral
import Mathlib.Data.Bool.AllAny

/-!
# Integers of YAML 1.1

The resolver of the YAML loader gives a plain scalar the integer tag by a pattern of five
alternatives, each with its own base.  `parse_integer` reads the tagged text without that
pattern.
-/

namespace RtControl.DiffLegacy

open RtControl.Codec

/-! ## The pattern of the resolver -/

/-- The digits of an integer by the alternative of the pattern that it matches. -/
inductive IntForm where
  | binary (digits : List Nat)
  | octal (digits : List Nat)
  | decimal (digits : List Nat)
  | hexadecimal (digits : List Nat)
  | sexagesimal (parts : List (List Nat))
  deriving DecidableEq

/-- The number of an unsigned integer. -/
def IntForm.number : IntForm → Nat
  | .binary digits => numeral 2 digits
  | .octal digits => numeral 8 digits
  | .decimal digits => numeral 10 digits
  | .hexadecimal digits => numeral 16 digits
  | .sexagesimal parts => numeral 60 (parts.map (numeral 10))

/-- The hexadecimal digits in both cases. -/
def hexDigits : List Char :=
  "0123456789abcdefABCDEF".toList

/-- The value of a hexadecimal digit. -/
def digitOf (char : Char) : Nat :=
  hexDigits.idxOf char.toLower

/-- A text without its underscores. -/
def withoutUnderscores (text : List Char) : List Char :=
  text.filter (· ≠ '_')

/-- The digits of a text with underscores. -/
def digitsOf (text : List Char) : List Nat :=
  (withoutUnderscores text).map digitOf

/-- A text over digits and underscores. -/
def isOver (digits : String) (text : List Char) : Bool :=
  text.all fun char => char = '_' || digits.toList.contains char

/-- `[0-5]?[0-9]`, the part after a colon. -/
def isSexagesimalPart : List Char → Bool
  | [units] => "0123456789".toList.contains units
  | [tens, units] => "012345".toList.contains tens && "0123456789".toList.contains units
  | _ => false

/-- `0b[0-1_]+`, `0x[0-9a-fA-F_]+`, `0`, `0[0-7_]+`, `[1-9][0-9_]*` and
`[1-9][0-9_]*(:[0-5]?[0-9])+`. -/
def resolveUnsigned : List Char → Option IntForm
  | '0' :: 'b' :: digits =>
      if digits ≠ [] ∧ isOver "01" digits then some (.binary (digitsOf digits)) else none
  | '0' :: 'x' :: digits =>
      if digits ≠ [] ∧ isOver "0123456789abcdefABCDEF" digits then
        some (.hexadecimal (digitsOf digits))
      else
        none
  | ['0'] => some (.decimal [0])
  | '0' :: digits =>
      if isOver "01234567" digits then some (.octal (digitsOf digits)) else none
  | first :: rest =>
      if "123456789".toList.contains first then
        match rest.splitOn ':' with
        | [digits] =>
            if isOver "0123456789" digits then some (.decimal (digitsOf (first :: digits)))
            else none
        | digits :: parts =>
            if isOver "0123456789" digits ∧ parts.all isSexagesimalPart then
              some (.sexagesimal (digitsOf (first :: digits) :: parts.map digitsOf))
            else
              none
        | [] => none
      else
        none
  | [] => none

/-- A tagged integer with its sign. -/
structure YamlInteger where
  sign : Int
  form : IntForm
  deriving DecidableEq

/-- The number of a tagged integer. -/
def YamlInteger.value (integer : YamlInteger) : Int :=
  integer.sign * integer.form.number

/-- The optional sign before an integer. -/
def readSign : List Char → Int × List Char
  | '-' :: rest => (-1, rest)
  | '+' :: rest => (1, rest)
  | rest => (1, rest)

/-- The integer that the resolver tags. -/
def resolveInteger (text : String) : Option YamlInteger :=
  let (sign, unsigned) := readSign text.toList
  (resolveUnsigned unsigned).map fun form => { sign, form }

/-- The integers that `parse_integer` converts to their number. -/
def IntForm.Convertible : IntForm → Prop
  | .binary digits => digits ≠ []
  | .octal digits => numeral 8 digits < 8 ∧ digits.length < maxDecimalDigits
  | .decimal digits => digits.length ≤ maxDecimalDigits
  | .hexadecimal digits => digits ≠ []
  | .sexagesimal _ => False

instance : DecidablePred IntForm.Convertible
  | .binary digits => inferInstanceAs (Decidable (digits ≠ []))
  | .octal digits =>
      inferInstanceAs (Decidable (numeral 8 digits < 8 ∧ digits.length < maxDecimalDigits))
  | .decimal digits => inferInstanceAs (Decidable (digits.length ≤ maxDecimalDigits))
  | .hexadecimal digits => inferInstanceAs (Decidable (digits ≠ []))
  | .sexagesimal _ => inferInstanceAs (Decidable False)

/-! ## Digits -/

theorem digitValue_of_mem {char : Char} (digit : char ∈ hexDigits) :
    digitValue char = some (digitOf char) := by
  have listed : ∀ char ∈ hexDigits, digitValue char = some (digitOf char) :=
    List.all_iff_forall_prop.mp (by decide)
  exact listed char digit

theorem parseDigits_eq_some {base : Nat} {digits : List Char} (nonempty : digits ≠ [])
    (inBase : ∀ char ∈ digits, char ∈ hexDigits ∧ digitOf char < base) :
    parseDigits base digits = some (numeral base (digits.map digitOf)) := by
  rw [parseDigits, if_neg nonempty]
  clear nonempty
  induction digits using List.reverseRecOn with
  | nil => rfl
  | append_singleton digits char ih =>
      rcases inBase char (by simp) with ⟨isDigit, bounded⟩
      rw [List.foldlM_append, ih fun other inside => inBase other (List.mem_append_left _ inside)]
      simp [digitValue_of_mem isDigit, bounded]

/-- A character that is no digit stops the conversion. -/
theorem parseDigits_eq_none {base : Nat} {digits : List Char} {char : Char}
    (inside : char ∈ digits) (noDigit : digitValue char = none) :
    parseDigits base digits = none := by
  rw [parseDigits, if_neg (List.ne_nil_of_mem inside)]
  rcases List.append_of_mem inside with ⟨front, back, rfl⟩
  simp [noDigit]

theorem isOver_iff {digits : String} {text : List Char} :
    isOver digits text ↔ ∀ char ∈ text, char = '_' ∨ char ∈ digits.toList := by
  simp [isOver]

theorem mem_withoutUnderscores {text : List Char} {char : Char} :
    char ∈ withoutUnderscores text ↔ char ∈ text ∧ char ≠ '_' := by
  simp [withoutUnderscores]

/-- The digits of a text over the digits of a base. -/
theorem mem_of_isOver {digits : String} {text : List Char} (only : isOver digits text)
    {char : Char} (inside : char ∈ withoutUnderscores text) : char ∈ digits.toList := by
  rw [mem_withoutUnderscores] at inside
  exact (isOver_iff.mp only char inside.1).resolve_left inside.2

theorem parseDigits_of_isOver {base : Nat} {digits : String} {text : List Char}
    (ofBase : ∀ char ∈ digits.toList, char ∈ hexDigits ∧ digitOf char < base)
    (only : isOver digits text) (nonempty : digitsOf text ≠ []) :
    parseDigits base (withoutUnderscores text) = some (numeral base (digitsOf text)) := by
  refine parseDigits_eq_some ?_ fun char inside => ofBase char (mem_of_isOver only inside)
  rwa [digitsOf, Ne, List.map_eq_nil_iff] at nonempty

/-! ## Reading a text -/

/-- The characters of an unsigned integer without underscores. -/
def Plain (text : List Char) : Prop :=
  ∀ char ∈ text, char ∈ ':' :: hexDigits

/-- The texts of an optional sign. -/
inductive SignMark : List Char → Int → Prop
  | none : SignMark [] 1
  | plus : SignMark ['+'] 1
  | minus : SignMark ['-'] (-1)

theorem exists_signMark {text unsigned : List Char} {sign : Int}
    (signed : readSign text = (sign, unsigned)) :
    ∃ mark, SignMark mark sign ∧
      withoutUnderscores text = mark ++ withoutUnderscores unsigned := by
  unfold readSign at signed
  split at signed
  all_goals cases signed
  · exact ⟨_, .minus, rfl⟩
  · exact ⟨_, .plus, rfl⟩
  · exact ⟨_, .none, rfl⟩

theorem Plain.notSpace {text : List Char} (plain : Plain text) {char : Char}
    (inside : char ∈ text) : isIntSpace char = false := by
  have listed : ∀ char ∈ ':' :: hexDigits, isIntSpace char = false :=
    List.all_iff_forall_prop.mp (by decide)
  exact listed char (plain char inside)

theorem dropWhile_eq_self {text : List Char} (noSpace : ∀ char ∈ text, isIntSpace char = false) :
    text.dropWhile isIntSpace = text := by
  cases text with
  | nil => rfl
  | cons first rest =>
      rw [List.dropWhile_cons_of_neg]
      rw [noSpace first List.mem_cons_self]
      exact Bool.false_ne_true

theorem stripEnd_eq_self {text : List Char} (noSpace : ∀ char ∈ text, isIntSpace char = false) :
    stripEnd text = text := by
  rw [stripEnd, dropWhile_eq_self, List.reverse_reverse]
  simpa using noSpace

theorem readSign_append {mark unsigned : List Char} {sign : Int}
    (signed : SignMark mark sign) (minus : unsigned.head? ≠ some '-')
    (plus : unsigned.head? ≠ some '+') : readSign (mark ++ unsigned) = (sign, unsigned) := by
  cases signed with
  | none =>
      rw [List.nil_append]
      unfold readSign
      split
      · exact absurd rfl minus
      · exact absurd rfl plus
      · rfl
  | plus => rfl
  | minus => rfl

theorem Plain.head?_ne {text : List Char} (plain : Plain text) {char : Char}
    (other : char ∉ ':' :: hexDigits) : text.head? ≠ some char := by
  intro first
  exact other (plain char (List.mem_of_head? first))

/-- `int(text, 10)` on a plain text after a sign. -/
theorem intOfDecimal_signed {mark unsigned : List Char} {sign : Int}
    (signed : SignMark mark sign) (plain : Plain unsigned) :
    intOfDecimal (mark ++ unsigned) =
      if unsigned.length > maxDecimalDigits then none
      else (parseDigits 10 unsigned).map fun number => sign * number := by
  have marks : ∀ char ∈ ['+', '-'], isIntSpace char = false := List.all_iff_forall_prop.mp (by decide)
  have noSpace : ∀ char ∈ mark ++ unsigned, isIntSpace char = false := by
    intro char inside
    rcases List.mem_append.mp inside with marked | unmarked
    · refine marks char ?_
      cases signed <;> simp_all
    · exact plain.notSpace unmarked
  have split : intOfDecimal (mark ++ unsigned) =
      if (readSign (mark ++ unsigned)).2.length > maxDecimalDigits then none
      else (parseDigits 10 (readSign (mark ++ unsigned)).2).map fun number =>
        (readSign (mark ++ unsigned)).1 * number := by
    rw [intOfDecimal, dropWhile_eq_self noSpace, stripEnd_eq_self noSpace]
    rfl
  rw [split, readSign_append signed (plain.head?_ne (by decide)) (plain.head?_ne (by decide))]

/-- The result of a conversion. -/
def answer : Option Int → Except Failure Int
  | some value => .ok value
  | none => .error .valueError

theorem answer_eq_ok_iff {parsed : Option Int} {value : Int} :
    answer parsed = .ok value ↔ parsed = some value := by
  cases parsed <;> simp [answer]

theorem parseInteger_eq {text : String} {normalized : List Char}
    (same : withoutUnderscores text.toList = normalized) :
    parseInteger text =
      answer (match (readSign normalized).2 with
        | '0' :: letter :: digits =>
            match baseOf letter with
            | some base =>
                (parseDigits base (stripEnd digits)).map fun number =>
                  (readSign normalized).1 * number
            | none => intOfDecimal normalized
        | _ => intOfDecimal normalized) := by
  subst same
  rfl

/-- A text with a base prefix. -/
theorem parseInteger_of_base {text : String} {mark digits : List Char} {letter : Char}
    {sign value : Int} {base : Nat} (signed : SignMark mark sign) (plain : Plain digits)
    (normalized : withoutUnderscores text.toList = mark ++ '0' :: letter :: digits)
    (based : baseOf letter = some base) :
    parseInteger text = .ok value ↔
      ∃ number, parseDigits base digits = some number ∧ sign * number = value := by
  rw [parseInteger_eq normalized, readSign_append signed (by simp) (by simp), answer_eq_ok_iff]
  simp only [based, stripEnd_eq_self fun char => plain.notSpace]
  cases parseDigits base digits <;> simp

/-- A text without a base prefix. -/
theorem parseInteger_of_decimal {text : String} {mark unsigned : List Char}
    {sign value : Int} (signed : SignMark mark sign) (plain : Plain unsigned)
    (normalized : withoutUnderscores text.toList = mark ++ unsigned)
    (noPrefix : ∀ letter digits, unsigned = '0' :: letter :: digits → baseOf letter = none) :
    parseInteger text = .ok value ↔ unsigned.length ≤ maxDecimalDigits ∧
      ∃ number, parseDigits 10 unsigned = some number ∧ sign * number = value := by
  have decimal : parseInteger text = answer (intOfDecimal (mark ++ unsigned)) := by
    rw [parseInteger_eq normalized, readSign_append signed (plain.head?_ne (by decide))
      (plain.head?_ne (by decide))]
    dsimp only
    congr 1
    split
    · rw [noPrefix _ _ rfl]
    · rfl
  rw [decimal, intOfDecimal_signed signed plain, answer_eq_ok_iff]
  split_ifs with long
  · simp [long]
  · cases parseDigits 10 unsigned <;> simp [not_lt.mp long]

/-! ## The alternatives -/

theorem SignMark.mul_inj {mark : List Char} {sign : Int} (signed : SignMark mark sign)
    {first second : Int} : sign * first = sign * second ↔ first = second := by
  cases signed <;> simp

section Alternatives

variable {text : String} {mark unsigned : List Char} {sign : Int}

/-- A prefixed alternative is read when it has a digit. -/
theorem parseInteger_prefixed (signed : SignMark mark sign) {letter : Char} {digits : List Char}
    {base : Nat} {ofBase : String} (based : baseOf letter = some base)
    (inBase : ∀ char ∈ ofBase.toList, char ∈ hexDigits ∧ digitOf char < base)
    (only : isOver ofBase digits)
    (normalized : withoutUnderscores text.toList =
      mark ++ '0' :: letter :: withoutUnderscores digits) :
    parseInteger text = .ok (sign * numeral base (digitsOf digits)) ↔ digitsOf digits ≠ [] := by
  have plain : Plain (withoutUnderscores digits) := fun char inside =>
    List.mem_cons_of_mem _ (inBase char (mem_of_isOver only inside)).1
  rw [parseInteger_of_base signed plain normalized based]
  constructor
  · rintro ⟨number, parsed, -⟩ empty
    rw [digitsOf, List.map_eq_nil_iff] at empty
    rw [empty] at parsed
    cases parsed
  · intro nonempty
    exact ⟨_, parseDigits_of_isOver inBase only nonempty, rfl⟩

/-- A text of decimal digits is read in base ten up to the limit on its length. -/
theorem parseInteger_decimal (signed : SignMark mark sign) {value : Int}
    (only : isOver "0123456789" unsigned) (nonempty : digitsOf unsigned ≠ [])
    (normalized : withoutUnderscores text.toList = mark ++ withoutUnderscores unsigned) :
    parseInteger text = .ok value ↔
      (digitsOf unsigned).length ≤ maxDecimalDigits ∧
        sign * numeral 10 (digitsOf unsigned) = value := by
  have inBase : ∀ char ∈ "0123456789".toList,
      char ∈ hexDigits ∧ digitOf char < 10 ∧ baseOf char = none :=
    List.all_iff_forall_prop.mp (by decide)
  have plain : Plain (withoutUnderscores unsigned) := fun char inside =>
    List.mem_cons_of_mem _ (inBase char (mem_of_isOver only inside)).1
  rw [parseInteger_of_decimal signed plain normalized,
    parseDigits_of_isOver (fun char inside => ⟨(inBase char inside).1, (inBase char inside).2.1⟩)
      only nonempty]
  · simp [digitsOf]
  · intro letter digits prefixed
    have inside : letter ∈ withoutUnderscores unsigned := by simp [prefixed]
    exact (inBase letter (mem_of_isOver only inside)).2.2

end Alternatives

/-- A separated text has only the separator and what its pieces have. -/
theorem mem_of_mem_intercalate {separator char : Char} {pieces : List (List Char)}
    (inside : char ∈ [separator].intercalate pieces) :
    char = separator ∨ ∃ piece ∈ pieces, char ∈ piece := by
  induction pieces with
  | nil => simp at inside
  | cons piece pieces ih =>
      cases pieces with
      | nil =>
          rw [List.intercalate_singleton] at inside
          exact .inr ⟨piece, List.mem_cons_self, inside⟩
      | cons next pieces =>
          rw [List.intercalate_cons_cons, List.append_assoc] at inside
          rcases List.mem_append.mp inside with here | inside
          · exact .inr ⟨piece, List.mem_cons_self, here⟩
          · rcases List.mem_cons.mp inside with rfl | inside
            · exact .inl rfl
            · exact (ih inside).imp_right fun ⟨found, listed, within⟩ =>
                ⟨found, List.mem_cons_of_mem _ listed, within⟩

theorem mem_of_isSexagesimalPart {part : List Char} (isPart : isSexagesimalPart part)
    {char : Char} (inside : char ∈ part) : char ∈ hexDigits := by
  have decimal : ∀ char ∈ "0123456789".toList, char ∈ hexDigits :=
    List.all_iff_forall_prop.mp (by decide)
  have tens : ∀ char ∈ "012345".toList, char ∈ hexDigits := List.all_iff_forall_prop.mp (by decide)
  unfold isSexagesimalPart at isPart
  split at isPart
  · rw [List.mem_singleton.mp inside]
    exact decimal _ (List.contains_iff_mem.mp isPart)
  · rw [Bool.and_eq_true, List.contains_iff_mem, List.contains_iff_mem] at isPart
    rcases List.mem_cons.mp inside with rfl | inside
    · exact tens _ isPart.1
    · rw [List.mem_singleton.mp inside]
      exact decimal _ isPart.2
  · cases isPart

/-- The alternatives that the resolver tells apart. -/
inductive Matches : List Char → IntForm → Prop
  | binary {digits : List Char} :
      isOver "01" digits → Matches ('0' :: 'b' :: digits) (.binary (digitsOf digits))
  | hexadecimal {digits : List Char} :
      isOver "0123456789abcdefABCDEF" digits →
      Matches ('0' :: 'x' :: digits) (.hexadecimal (digitsOf digits))
  | octal {digits : List Char} :
      isOver "01234567" digits → Matches ('0' :: digits) (.octal (digitsOf digits))
  | decimal {first : Char} {digits : List Char} :
      isOver "0123456789" (first :: digits) → first ≠ '_' →
      Matches (first :: digits) (.decimal (digitsOf (first :: digits)))
  | sexagesimal {first : Char} {rest : List Char} {parts : List (List Nat)} :
      first ∈ "123456789".toList → ':' ∈ rest →
      (∀ char ∈ rest, char = '_' ∨ char ∈ ':' :: hexDigits) →
      Matches (first :: rest) (.sexagesimal parts)

theorem matches_of_resolved {unsigned : List Char} {form : IntForm}
    (resolved : resolveUnsigned unsigned = some form) : Matches unsigned form := by
  have decimals : ∀ char ∈ "123456789".toList, char ∈ "0123456789".toList ∧ char ≠ '_' :=
    List.all_iff_forall_prop.mp (by decide)
  have inHex : ∀ char ∈ "0123456789".toList, char ∈ hexDigits :=
    List.all_iff_forall_prop.mp (by decide)
  unfold resolveUnsigned at resolved
  split at resolved
  · split_ifs at resolved with only
    cases resolved
    exact .binary only.2
  · split_ifs at resolved with only
    cases resolved
    exact .hexadecimal only.2
  · cases resolved
    exact .decimal (by decide) (by decide)
  · split_ifs at resolved with only
    cases resolved
    exact .octal only
  · rename_i first rest _ _ _ _
    split_ifs at resolved with leading
    rw [List.contains_iff_mem] at leading
    have whole : [':'].intercalate (rest.splitOn ':') = rest := List.intercalate_splitOn ':'
    split at resolved
    · rename_i digits split
      split_ifs at resolved with only
      cases resolved
      rw [split, List.intercalate_singleton] at whole
      subst whole
      refine .decimal (isOver_iff.mpr ?_) (decimals first leading).2
      exact List.forall_mem_cons.mpr ⟨.inr (decimals first leading).1, isOver_iff.mp only⟩
    · rename_i digits parts several split
      split_ifs at resolved with only
      cases resolved
      rw [split] at whole
      refine .sexagesimal leading ?_ ?_
      · cases parts with
        | nil => exact absurd rfl several
        | cons part parts =>
            rw [← whole, List.intercalate_cons_cons]
            simp
      · intro char inside
        rw [← whole] at inside
        rcases mem_of_mem_intercalate inside with rfl | ⟨piece, listed, within⟩
        · exact .inr List.mem_cons_self
        · rcases List.mem_cons.mp listed with rfl | listed
          · refine (isOver_iff.mp only.1 char within).imp_right fun digit => ?_
            exact List.mem_cons_of_mem _ (inHex char digit)
          · have isPart := List.all_eq_true.mp only.2 piece listed
            exact .inr (List.mem_cons_of_mem _ (mem_of_isSexagesimalPart isPart within))
    · cases resolved
  · cases resolved

theorem withoutUnderscores_cons {first : Char} (named : first ≠ '_') (rest : List Char) :
    withoutUnderscores (first :: rest) = first :: withoutUnderscores rest := by
  simp [withoutUnderscores, named]

/-- `parse_integer` on an alternative after a sign. -/
theorem parseInteger_matched {text : String} {mark unsigned : List Char} {sign : Int}
    {form : IntForm} (signed : SignMark mark sign)
    (normalized : withoutUnderscores text.toList = mark ++ withoutUnderscores unsigned)
    (matched : Matches unsigned form) :
    parseInteger text = .ok (sign * form.number) ↔ form.Convertible := by
  cases matched with
  | binary only => exact parseInteger_prefixed signed rfl (List.all_iff_forall_prop.mp (by decide)) only normalized
  | hexadecimal only => exact parseInteger_prefixed signed rfl (List.all_iff_forall_prop.mp (by decide)) only normalized
  | @octal digits only =>
      have octals : ∀ char ∈ "01234567".toList, char ∈ "0123456789".toList :=
        List.all_iff_forall_prop.mp (by decide)
      have values : ∀ char ∈ "01234567".toList, digitOf char < 8 :=
        List.all_iff_forall_prop.mp (by decide)
      have overDecimal : isOver "0123456789" ('0' :: digits) := by
        refine isOver_iff.mpr (List.forall_mem_cons.mpr ⟨.inr (by decide), ?_⟩)
        exact fun char inside => (isOver_iff.mp only char inside).imp_right (octals char)
      have leading : digitsOf ('0' :: digits) = 0 :: digitsOf digits := rfl
      have small : ∀ digit ∈ digitsOf digits, digit < 8 := by
        intro digit inside
        rcases List.mem_map.mp inside with ⟨char, listed, rfl⟩
        exact values char (mem_of_isOver only listed)
      rw [parseInteger_decimal signed overDecimal (by rw [leading]; simp) normalized, leading,
        signed.mul_inj, Int.natCast_inj, numeral_zero_cons]
      rw [IntForm.number, numeral_eq_numeral_iff (by decide) (by decide) small, and_comm]
      rfl
  | decimal only named =>
      rw [parseInteger_decimal signed only _ normalized]
      · exact and_iff_left rfl
      · rw [digitsOf, withoutUnderscores_cons named]
        simp
  | @sexagesimal first rest _ leading colon only =>
      have decimals : ∀ char ∈ "123456789".toList,
          char ∈ hexDigits ∧ char ≠ '_' ∧ char ≠ '0' := List.all_iff_forall_prop.mp (by decide)
      rcases decimals first leading with ⟨digit, named, nonzero⟩
      rw [withoutUnderscores_cons named] at normalized
      have plain : Plain (first :: withoutUnderscores rest) := by
        refine List.forall_mem_cons.mpr ⟨List.mem_cons_of_mem _ digit, fun char inside => ?_⟩
        rw [mem_withoutUnderscores] at inside
        exact (only char inside.1).resolve_left inside.2
      have colonLeft : ':' ∈ first :: withoutUnderscores rest :=
        List.mem_cons_of_mem _ (mem_withoutUnderscores.mpr ⟨colon, by decide⟩)
      rw [parseInteger_of_decimal signed plain normalized,
        parseDigits_eq_none colonLeft (by decide)]
      · simp [IntForm.Convertible]
      · intro letter digits same
        exact absurd (List.cons_eq_cons.mp same).1 nonzero

/-! ## Equivalent integers -/

theorem parseInteger_eq_ok_iff {text : String} {integer : YamlInteger}
    (tagged : resolveInteger text = some integer) :
    parseInteger text = .ok integer.value ↔ integer.form.Convertible := by
  rcases signed : readSign text.toList with ⟨sign, unsigned⟩
  rw [resolveInteger, signed] at tagged
  rcases Option.map_eq_some_iff.mp tagged with ⟨form, resolved, rfl⟩
  rcases exists_signMark signed with ⟨mark, marked, normalized⟩
  exact parseInteger_matched marked normalized (matches_of_resolved resolved)

/-- The tag of an integer. -/
def intTag : String :=
  "tag:yaml.org,2002:int"

theorem scalarFromNode_intTag {text : String} {value : Int} (parsed : parseInteger text = .ok value) :
    scalarFromNode intTag text = .ok { kind := .int, value := .int value, text } := by
  have isInt : tagName intTag = "int" := by decide +kernel
  rw [scalarFromNode, if_pos isInt, parsed]
  rfl

/-- A tagged integer is read as its number exactly when it is convertible, and convertible
integers are equivalent exactly when their numbers are the same. -/
theorem int_scalars_equivalent_iff {text : String} {integer : YamlInteger}
    (tagged : resolveInteger text = some integer) :
    (parseInteger text = .ok integer.value ↔ integer.form.Convertible) ∧
      ∀ (other : String) (otherInteger : YamlInteger),
        resolveInteger other = some otherInteger → integer.form.Convertible →
        otherInteger.form.Convertible →
        ∃ first second,
          scalarFromNode intTag text = .ok first ∧ scalarFromNode intTag other = .ok second ∧
          (equivalent first second = true ↔ integer.value = otherInteger.value) := by
  refine ⟨parseInteger_eq_ok_iff tagged, ?_⟩
  intro other otherInteger otherTagged convertible otherConvertible
  have parsed := (parseInteger_eq_ok_iff tagged).mpr convertible
  have otherParsed := (parseInteger_eq_ok_iff otherTagged).mpr otherConvertible
  refine ⟨_, _, scalarFromNode_intTag parsed, scalarFromNode_intTag otherParsed, ?_⟩
  simp [equivalent]

/-- A hexadecimal and a decimal text of one number. -/
theorem int_scalars_equivalent_iff_4337 :
    (parseInteger "0x10f1" = .ok 4337 ↔
        (IntForm.hexadecimal [1, 0, 15, 1]).Convertible) ∧
      ∃ first second,
        scalarFromNode intTag "0x10f1" = .ok first ∧ scalarFromNode intTag "4_337" = .ok second ∧
        (equivalent first second = true ↔ (4337 : Int) = 4337) := by
  have tagged : resolveInteger "0x10f1" = some ⟨1, .hexadecimal [1, 0, 15, 1]⟩ := by
    decide +kernel
  have otherTagged : resolveInteger "4_337" = some ⟨1, .decimal [4, 3, 3, 7]⟩ := by
    decide +kernel
  rcases int_scalars_equivalent_iff tagged with ⟨read, same⟩
  exact ⟨read, same _ _ otherTagged (by decide) (by decide)⟩

/-- An octal text is read in base ten. -/
theorem octal_read_as_decimal :
    ¬∀ (text : String) (integer : YamlInteger), resolveInteger text = some integer →
      parseInteger text = .ok integer.value := by
  intro reads
  have tagged : resolveInteger "010" = some ⟨1, .octal [1, 0]⟩ := by decide +kernel
  have parsed : parseInteger "010" = .ok 10 := by decide +kernel
  exact absurd ((reads _ _ tagged).symm.trans parsed) (by decide +kernel)

end RtControl.DiffLegacy
