import RtControl.DiffLegacy.Soundness
import Mathlib.Data.List.TakeWhile

/-!
# The sync-tolerance overlay

`prepend_sync_tolerance` works on the flattened map: it moves every `sdo[n]` key to `sdo[n + 1]`
and writes the four keys of the new first entry.  That is a list prepend in the document, except
for the lists that an empty key of the root hides under the same spelling.
-/

namespace RtControl.DiffLegacy

open RtControl.Codec

/-! ## The overlay -/

/-- A digit of `\d`. -/
def isDecimal (char : Char) : Bool :=
  decimalZeros.any fun start => start ≤ char.toNat && char.toNat < start + 10

/-- `(.*)$`: a line, which one line break may follow. -/
def lineOf (text : List Char) : Option String :=
  let line := text.takeWhile (· ≠ '\n')
  if text = line ∨ text = line ++ ['\n'] then some (String.ofList line) else none

/-- `SDO_KEY.match`; the groups are the index and the rest of the key.  No list has an index of
more digits than `int` converts. -/
def matchSdoKey (key : String) : Option (Nat × String) :=
  match key.toList with
  | 's' :: 'd' :: 'o' :: '[' :: text =>
      match text.dropWhile isDecimal with
      | ']' :: after => do
          let index ← parseDigits 10 (text.takeWhile isDecimal)
          let rest ← lineOf after
          some (index, rest)
      | _ => none
  | _ => none

/-- A key of an entry of the start-up objects. -/
def sdoKey (index : Nat) (rest : String) : String :=
  "sdo[" ++ toString index ++ "]" ++ rest

/-- The key that the overlay writes for a key. -/
def shiftedKey (key : String) : String :=
  match matchSdoKey key with
  | some (index, rest) => sdoKey (index + 1) rest
  | none => key

/-- The keys and values of the new entry. -/
def toleranceItems (valueType : String) : List (String × Scalar) :=
  [("sdo[0].index", { kind := .int, value := .int 0x10F1, text := "0x10f1" }),
    ("sdo[0].sub_index", { kind := .int, value := .int 2, text := "2" }),
    ("sdo[0].type", { kind := .string, value := .str valueType, text := valueType }),
    ("sdo[0].value", { kind := .int, value := .int 250, text := "250" })]

/-- `prepend_sync_tolerance`.  The order of the items matters only where two spellings of an index
meet. -/
def prependSyncTolerance (profile : SemanticMap) (valueType : String) : SemanticMap :=
  let expected := profile.entries.foldr
    (fun entry expected => AList.insert (shiftedKey entry.1) entry.2 expected) (∅ : SemanticMap)
  (toleranceItems valueType).foldl
    (fun expected item => AList.insert item.1 item.2 expected) expected

/-! ## The same in the document -/

/-- A plain text. -/
def textNode (text : String) : Node :=
  .scalar "tag:yaml.org,2002:str" text

/-- `{index: 0x10f1, sub_index: 2, type: valueType, value: 250}` -/
def toleranceNode (valueType : String) : Node :=
  .mapping [(textNode "index", intNode "0x10f1"), (textNode "sub_index", intNode "2"),
    (textNode "type", textNode valueType), (textNode "value", intNode "250")]

/-- The entry is the list of start-up objects. -/
def isSdo (entry : Node × Node) : Bool :=
  (mappingKey entry.1).toOption = some "sdo"

/-- The new object goes to the head of a list. -/
def prependItem (valueType : String) (entry : Node × Node) : Node × Node :=
  match entry with
  | (keyNode, .sequence items) =>
      if isSdo entry then (keyNode, .sequence (toleranceNode valueType :: items)) else entry
  | _ => entry

/-- The new object goes to the head of `sdo`, which is added where it is missing. -/
def prependTolerance (valueType : String) (entries : List (Node × Node)) : List (Node × Node) :=
  if entries.any isSdo then entries.map (prependItem valueType)
  else entries ++ [(textNode "sdo", .sequence [toleranceNode valueType])]

/-- The keys of a mapping are free of the marks that structure a key. -/
def Unmarked : Node → Prop
  | .mapping entries =>
      ∀ key ∈ keyTexts entries, '.' ∉ key.toList ∧ '[' ∉ key.toList ∧ '\n' ∉ key.toList
  | _ => True

/-- A document to overlay: its keys are unmarked and its `sdo` is absent or a list. -/
structure Overlayable (entries : List (Node × Node)) : Prop where
  unmarked : Everywhere Unmarked (.mapping entries)
  listed : ∀ value, Child (.mapping entries) (.key "sdo") value → ∃ items, value = .sequence items

/-- A list that is spelled `sdo` because the keys above it are empty. -/
inductive Hidden : Node → List Node → Prop
  | here {node : Node} {items : List Node} :
      Child node (.key "sdo") (.sequence items) → Hidden node items
  | descend {node value : Node} {items : List Node} :
      Child node (.key "") value → Hidden value items → Hidden node items

/-- No hidden list has a scalar. -/
def Unhidden (entries : List (Node × Node)) : Prop :=
  ∀ value items steps scalar, Child (.mapping entries) (.key "") value → Hidden value items →
    ¬Leaf (.sequence items) steps scalar

/-- No scalar of a hidden list has the path of a scalar of the own list. -/
def Separate (entries : List (Node × Node)) : Prop :=
  ∀ own value items steps otherSteps scalar other,
    Child (.mapping entries) (.key "sdo") own → Leaf own steps scalar →
      Child (.mapping entries) (.key "") value → Hidden value items →
        Leaf (.sequence items) otherSteps other → spell "sdo" steps ≠ spell "sdo" otherSteps

/-- The overlay of the flattened document is the flattened overlay: the same failure, or
dictionaries with the same items. -/
def PrependsTolerance (entries : List (Node × Node)) (valueType : String) : Prop :=
  (flattenNode "" (.mapping entries)).map
      (fun profile key => (prependSyncTolerance profile valueType).lookup key) =
    (flattenNode "" (.mapping (prependTolerance valueType entries))).map
      fun flattened key => flattened.lookup key

/-! ## Keys of the start-up objects -/

theorem digitValue_of_isDigit {char : Char} (digit : char.isDigit = true) :
    digitValue char = some (char.toNat - '0'.toNat) := by
  obtain ⟨low, high⟩ := Char.isDigit_iff_toNat.mp digit
  have above : ¬('a' ≤ char ∧ char ≤ 'z') := fun bounds => by
    have letter : 'a'.toNat ≤ char.toNat := bounds.1
    exact absurd (le_trans letter high) (by decide)
  have aboveUpper : ¬('A' ≤ char ∧ char ≤ 'Z') := fun bounds => by
    have letter : 'A'.toNat ≤ char.toNat := bounds.1
    exact absurd (le_trans letter high) (by decide)
  have zeros : decimalZeros = 0x30 :: decimalZeros.tail := rfl
  have first : decimalZeros.find?
      (fun start => start ≤ char.toNat && char.toNat < start + 10) = some 0x30 := by
    have low : 0x30 ≤ char.toNat := low
    have high : char.toNat ≤ 0x39 := high
    rw [zeros]
    refine List.find?_cons_of_pos ?_
    simp only [Bool.and_eq_true, decide_eq_true_eq]
    omega
  rw [digitValue, if_neg above, if_neg aboveUpper, first]
  rfl

theorem isDecimal_of_isDigit {char : Char} (digit : char.isDigit = true) :
    isDecimal char = true := by
  obtain ⟨low, high⟩ := Char.isDigit_iff_toNat.mp digit
  have low : 0x30 ≤ char.toNat := low
  have high : char.toNat ≤ 0x39 := high
  rw [isDecimal, List.any_eq_true]
  refine ⟨0x30, by decide, ?_⟩
  simp only [Bool.and_eq_true, decide_eq_true_eq]
  omega

theorem foldlM_digits {digits : List Char} (only : ∀ char ∈ digits, char.isDigit = true)
    (value : Nat) :
    digits.foldlM (fun value char => do
      let digit ← digitValue char
      if digit < 10 then some (value * 10 + digit) else none) value =
      some (Nat.ofDigitChars 10 digits value) := by
  induction digits generalizing value with
  | nil => simp
  | cons char digits ih =>
      obtain ⟨digit, rest⟩ := List.forall_mem_cons.mp only
      have high : char.toNat ≤ 0x39 := (Char.isDigit_iff_toNat.mp digit).2
      have bounded : char.toNat - '0'.toNat < 10 := by
        have zero : '0'.toNat = 0x30 := rfl
        omega
      rw [List.foldlM_cons, digitValue_of_isDigit digit, Nat.ofDigitChars_cons, Nat.mul_comm 10]
      simp only [Option.bind_eq_bind, Option.bind_some, if_pos bounded]
      exact ih rest _

/-- A spelled index is read back. -/
theorem parseDigits_toString (index : Nat) :
    parseDigits 10 (toString index).toList = some index := by
  rw [Nat.toString_eq_repr, Nat.toList_repr, parseDigits, if_neg Nat.toDigits_ne_nil,
    foldlM_digits fun char inside => Nat.isDigit_of_mem_toDigits (by decide) (by decide) inside,
    Nat.ofDigitChars_ten_toDigits]

theorem lineOf_eq_some {text : String} (line : '\n' ∉ text.toList) :
    lineOf text.toList = some text := by
  have whole : text.toList.takeWhile (· ≠ '\n') = text.toList := by
    rw [List.takeWhile_eq_self_iff]
    intro char inside
    exact decide_eq_true fun same => line (same ▸ inside)
  simp only [lineOf, whole, true_or, if_true, String.ofList_toList]

theorem line_of_lineOf {text : List Char} {rest : String} (read : lineOf text = some rest) :
    '\n' ∉ rest.toList := by
  simp only [lineOf, Option.ite_none_right_eq_some, Option.some.injEq] at read
  rw [← read.2, String.toList_ofList]
  intro inside
  exact absurd (List.mem_takeWhile_imp inside) (by decide)

theorem toList_sdoKey (index : Nat) (rest : String) :
    (sdoKey index rest).toList =
      's' :: 'd' :: 'o' :: '[' :: ((toString index).toList ++ ']' :: rest.toList) := by
  simp [sdoKey]

/-- A key of a start-up object matches with its index and its rest. -/
theorem matchSdoKey_sdoKey {index : Nat} {rest : String} (line : '\n' ∉ rest.toList) :
    matchSdoKey (sdoKey index rest) = some (index, rest) := by
  have digits : ∀ char ∈ (toString index).toList, isDecimal char = true := by
    intro char inside
    rw [Nat.toString_eq_repr, Nat.toList_repr] at inside
    exact isDecimal_of_isDigit (Nat.isDigit_of_mem_toDigits (by decide) (by decide) inside)
  have bracket : ¬isDecimal ']' = true := by decide
  have front : ((toString index).toList ++ ']' :: rest.toList).takeWhile isDecimal =
      (toString index).toList := by
    rw [List.takeWhile_append_of_pos digits, List.takeWhile_cons_of_neg bracket, List.append_nil]
  have back : ((toString index).toList ++ ']' :: rest.toList).dropWhile isDecimal =
      ']' :: rest.toList := by
    rw [List.dropWhile_append_of_pos digits, List.dropWhile_cons_of_neg bracket]
  simp only [matchSdoKey, toList_sdoKey, front, back, parseDigits_toString, lineOf_eq_some line,
    Option.bind_eq_bind, Option.bind_some]

theorem line_of_matchSdoKey {key rest : String} {index : Nat}
    (matched : matchSdoKey key = some (index, rest)) : '\n' ∉ rest.toList := by
  unfold matchSdoKey at matched
  split at matched
  · split at matched
    · simp only [Option.bind_eq_bind, Option.bind_eq_some_iff, Option.some.injEq,
        Prod.mk.injEq] at matched
      obtain ⟨_, -, read, line, -, rfl⟩ := matched
      exact line_of_lineOf line
    · contradiction
  · contradiction

/-- A matching key starts like one of a start-up object. -/
theorem toList_of_matchSdoKey {key rest : String} {index : Nat}
    (matched : matchSdoKey key = some (index, rest)) :
    ∃ text, key.toList = 's' :: 'd' :: 'o' :: '[' :: text := by
  unfold matchSdoKey at matched
  split at matched
  next text named => exact ⟨text, named⟩
  next => contradiction

theorem sdoKey_inj {index other : Nat} {rest otherRest : String} (line : '\n' ∉ rest.toList)
    (otherLine : '\n' ∉ otherRest.toList) (same : sdoKey index rest = sdoKey other otherRest) :
    index = other ∧ rest = otherRest := by
  have matched := congrArg matchSdoKey same
  rw [matchSdoKey_sdoKey line, matchSdoKey_sdoKey otherLine] at matched
  cases matched
  exact ⟨rfl, rfl⟩

/-- What a path adds to the key that it continues. -/
def continuation : List Segment → String
  | [] => ""
  | .key text :: steps => "." ++ text ++ continuation steps
  | .index position :: steps => "[" ++ toString position ++ "]" ++ continuation steps

theorem spell_eq_append {path : String} (started : path ≠ "") (steps : List Segment) :
    spell path steps = path ++ continuation steps := by
  induction steps generalizing path with
  | nil => simp [continuation]
  | cons segment steps ih =>
      cases segment with
      | key text =>
          rw [spell_cons, ih (by simp [Segment.extend, started]), Segment.extend, if_neg started,
            continuation]
          simp only [String.append_assoc]
      | index position =>
          rw [spell_cons, ih (by simp [Segment.extend, started]), Segment.extend, continuation]
          simp only [String.append_assoc]

/-- A key that continues another one than `sdo` does not match. -/
theorem matchSdoKey_of_other {key : String} (noDot : '.' ∉ key.toList) (noMark : '[' ∉ key.toList)
    (other : key ≠ "sdo") (steps : List Segment) :
    matchSdoKey (key ++ continuation steps) = none := by
  by_contra matching
  obtain ⟨⟨index, rest⟩, matched⟩ := Option.ne_none_iff_exists'.mp matching
  obtain ⟨text, named⟩ := toList_of_matchSdoKey matched
  let unmarked : Char → Bool := fun char => char ≠ '.' && char ≠ '['
  have own : ∀ char ∈ key.toList, unmarked char = true := by
    intro char inside
    simp only [unmarked, Bool.and_eq_true, decide_eq_true_eq]
    exact ⟨fun dot => noDot (dot ▸ inside), fun mark => noMark (mark ▸ inside)⟩
  have ended : (continuation steps).toList.takeWhile unmarked = [] := by
    cases steps with
    | nil => rfl
    | cons segment steps => cases segment <;> simp [continuation, unmarked]
  have starts := congrArg (List.takeWhile unmarked) named
  rw [String.toList_append, List.takeWhile_append_of_pos own, ended, List.append_nil] at starts
  exact other (String.toList_inj.mp starts)

/-! ## Flattening two documents alike -/

/-- The same failure, or related results. -/
inductive Alike {α β : Type} (related : α → β → Prop) : Except Failure α → Except Failure β → Prop
  | ok {value : α} {other : β} : related value other → Alike related (.ok value) (.ok other)
  | error (failure : Failure) : Alike related (.error failure) (.error failure)

theorem Alike.bind {α β γ δ : Type} {related : α → β → Prop} {next : γ → δ → Prop}
    {first : Except Failure α} {other : Except Failure β} {continue_ : α → Except Failure γ}
    {otherContinue : β → Except Failure δ} (alike : Alike related first other)
    (continued : ∀ value otherValue, related value otherValue →
      Alike next (continue_ value) (otherContinue otherValue)) :
    Alike next (first >>= continue_) (other >>= otherContinue) := by
  cases alike with
  | ok relation => exact continued _ _ relation
  | error failure => exact .error failure

theorem Alike.mono {α β : Type} {related weaker : α → β → Prop} {first : Except Failure α}
    {other : Except Failure β} (alike : Alike related first other)
    (implied : ∀ value otherValue, first = .ok value → other = .ok otherValue →
      related value otherValue → weaker value otherValue) : Alike weaker first other := by
  cases alike with
  | ok relation => exact .ok (implied _ _ rfl rfl relation)
  | error failure => exact .error failure

theorem Alike.map_eq {α β γ : Type} {first : Except Failure α} {other : Except Failure β}
    {view : α → γ} {otherView : β → γ}
    (alike : Alike (fun value otherValue => view value = otherView otherValue) first other) :
    first.map view = other.map otherView := by
  cases alike with
  | ok same => exact congrArg Except.ok same
  | error failure => rfl

theorem lookup_union {first second : SemanticMap} {key : String} :
    (first ∪ second).lookup key = (first.lookup key).or (second.lookup key) := by
  by_cases inside : key ∈ first
  · obtain ⟨scalar, found⟩ := Option.isSome_iff_exists.mp (AList.lookup_isSome.mpr inside)
    rw [AList.lookup_union_left inside, found, Option.some_or]
  · rw [AList.lookup_union_right inside, AList.lookup_eq_none.mpr inside, Option.none_or]

/-- A relation of maps that unions keep. -/
def UnionClosed (related : SemanticMap → SemanticMap → Prop) : Prop :=
  ∀ child otherChild flattened other, related child otherChild → related flattened other →
    related (child ∪ flattened) (otherChild ∪ other)

section Alike

variable {related : SemanticMap → SemanticMap → Prop} {path otherPath : String}

theorem flattenEntries_alike (closed : UnionClosed related) {entries others : List (Node × Node)}
    (parts : List.Forall₂ (fun entry other => other.1 = entry.1 ∧
      ∀ key, mappingKey entry.1 = .ok key →
        Alike related (flattenNode ((Segment.key key).extend path) entry.2)
          (flattenNode ((Segment.key key).extend otherPath) other.2)) entries others)
    {flattened other : SemanticMap} (initial : related flattened other) :
    Alike related (flattenEntries path entries flattened)
      (flattenEntries otherPath others other) := by
  induction parts generalizing flattened other with
  | nil => exact .ok initial
  | @cons entry other entries others part _ ih =>
      obtain ⟨named, part⟩ := part
      rw [flattenEntries, flattenEntries, named]
      cases keyed : mappingKey entry.1 with
      | error failure => exact .error failure
      | ok key =>
          refine @Alike.bind _ _ _ _ related related _ _ _ _ (part key keyed) ?_
          exact fun child otherChild children => ih (closed _ _ _ _ children initial)

theorem flattenItems_alike (closed : UnionClosed related) {items : List Node}
    {start otherStart : Nat}
    (parts : ∀ offset item, items[offset]? = some item →
      Alike related (flattenNode ((Segment.index (start + offset)).extend path) item)
        (flattenNode ((Segment.index (otherStart + offset)).extend otherPath) item))
    {flattened other : SemanticMap} (initial : related flattened other) :
    Alike related (flattenItems path start items flattened)
      (flattenItems otherPath otherStart items other) := by
  induction items generalizing start otherStart flattened other with
  | nil => exact .ok initial
  | cons item items ih =>
      rw [flattenItems, flattenItems]
      refine Alike.bind (parts 0 item rfl) fun child otherChild children => ?_
      refine ih (fun offset other found => ?_) (closed _ _ _ _ children initial)
      rw [Nat.add_right_comm, Nat.add_right_comm otherStart]
      exact parts (offset + 1) other found

end Alike

/-! ## The same part under another prefix -/

/-- The keys that start with a prefix start with another one, with the same values. -/
structure Moved (path otherPath : String) (flattened other : SemanticMap) : Prop where
  own : ∀ key ∈ flattened, ∃ rest, key = path ++ rest
  moved : ∀ key ∈ other, ∃ rest, key = otherPath ++ rest
  same : ∀ rest, other.lookup (otherPath ++ rest) = flattened.lookup (path ++ rest)

section Moved

variable {path otherPath : String}

theorem Moved.empty (path otherPath : String) : Moved path otherPath ∅ ∅ where
  own := fun key inside => absurd inside (AList.notMem_empty key)
  moved := fun key inside => absurd inside (AList.notMem_empty key)
  same := fun _ => rfl

theorem Moved.union (path otherPath : String) : UnionClosed (Moved path otherPath) := by
  intro child otherChild flattened other part rest
  constructor
  · intro key inside
    exact (AList.mem_union.mp inside).elim (part.own key) (rest.own key)
  · intro key inside
    exact (AList.mem_union.mp inside).elim (part.moved key) (rest.moved key)
  · intro suffix
    rw [lookup_union, lookup_union, part.same, rest.same]

/-- A key under a longer prefix is one under the prefix. -/
theorem Moved.shorten {suffix : String} {flattened other : SemanticMap}
    (moved : Moved (path ++ suffix) (otherPath ++ suffix) flattened other) :
    Moved path otherPath flattened other where
  own := by
    intro key inside
    obtain ⟨rest, rfl⟩ := moved.own key inside
    exact ⟨suffix ++ rest, String.append_assoc ..⟩
  moved := by
    intro key inside
    obtain ⟨rest, rfl⟩ := moved.moved key inside
    exact ⟨suffix ++ rest, String.append_assoc ..⟩
  same := by
    intro rest
    by_cases longer : ∃ tail, rest = suffix ++ tail
    · obtain ⟨tail, rfl⟩ := longer
      rw [← String.append_assoc, ← String.append_assoc]
      exact moved.same tail
    · have absent : otherPath ++ rest ∉ other := by
        intro inside
        obtain ⟨tail, same⟩ := moved.moved _ inside
        rw [String.append_assoc] at same
        exact longer ⟨tail, (String.append_right_inj _).mp same⟩
      have ownAbsent : path ++ rest ∉ flattened := by
        intro inside
        obtain ⟨tail, same⟩ := moved.own _ inside
        rw [String.append_assoc] at same
        exact longer ⟨tail, (String.append_right_inj _).mp same⟩
      rw [AList.lookup_eq_none.mpr absent, AList.lookup_eq_none.mpr ownAbsent]

theorem lookup_singleton {key own : String} {scalar : Scalar} :
    (AList.singleton own scalar : SemanticMap).lookup key =
      if key = own then some scalar else none := by
  rw [← AList.insert_empty]
  split
  next same => rw [same, AList.lookup_insert]
  next other => rw [AList.lookup_insert_ne other, AList.lookup_empty]

theorem Moved.singleton (scalar : Scalar) :
    Moved path otherPath (AList.singleton path scalar) (AList.singleton otherPath scalar) where
  own := by
    intro key inside
    rw [AList.mem_keys, AList.keys_singleton, List.mem_singleton] at inside
    exact ⟨"", by rw [inside, String.append_empty]⟩
  moved := by
    intro key inside
    rw [AList.mem_keys, AList.keys_singleton, List.mem_singleton] at inside
    exact ⟨"", by rw [inside, String.append_empty]⟩
  same := by
    intro rest
    simp only [lookup_singleton, String.append_eq_left_iff]

/-- A node flattens alike under two prefixes. -/
theorem flattenNode_moved {holds : Node → Prop} {node : Node} (every : Everywhere holds node)
    (started : path ≠ "") (otherStarted : otherPath ≠ "") :
    Alike (Moved path otherPath) (flattenNode path node) (flattenNode otherPath node) := by
  induction every generalizing path otherPath with
  | @intro node _ _ ih =>
      have parts {segment : Segment} {value : Node} (child : Child node segment value) :
          Alike (Moved path otherPath) (flattenNode (segment.extend path) value)
            (flattenNode (segment.extend otherPath) value) := by
        have own : segment.extend path = path ++ continuation [segment] :=
          spell_eq_append started [segment]
        have other : segment.extend otherPath = otherPath ++ continuation [segment] :=
          spell_eq_append otherStarted [segment]
        rw [own, other]
        refine (ih segment value child ?_ ?_).mono fun _ _ _ _ moved => moved.shorten
        · simp [started]
        · simp [otherStarted]
      cases node with
      | scalar tag value =>
          rw [flattenNode, flattenNode, if_neg started, if_neg otherStarted]
          cases scalarFromNode tag value with
          | error failure => exact .error failure
          | ok scalar => exact .ok (.singleton scalar)
      | mapping entries =>
          rw [flattenNode, flattenNode]
          refine flattenEntries_alike (Moved.union path otherPath) ?_ (Moved.empty path otherPath)
          exact List.forall₂_same.mpr fun entry inside =>
            ⟨rfl, fun key keyed => parts (.entry inside keyed)⟩
      | sequence items =>
          rw [flattenNode, flattenNode]
          refine flattenItems_alike (Moved.union path otherPath) (fun offset item found => ?_)
            (Moved.empty path otherPath)
          rw [Nat.zero_add]
          exact parts (.item found)

end Moved

end RtControl.DiffLegacy
