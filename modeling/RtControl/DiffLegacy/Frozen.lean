import RtControl.DiffLegacy.Prepend

/-!
# The frozen overlay

The gate edits the flattened legacy profile: it fixes a switch, replaces the process data of two
axes, and prepends the start-up object.  On a document whose paths can be read back the same edits
can be made in the root mapping, and flattening the edited document gives the edited map.
-/

namespace RtControl.DiffLegacy

open RtControl.Codec

/-! ## The built-in process data -/

def floatNode (text : String) : Node :=
  .scalar "tag:yaml.org,2002:float" text

def boolNode (text : String) : Node :=
  .scalar "tag:yaml.org,2002:bool" text

/-- The entries of a mapping with plain keys. -/
def fields (entries : List (String × Node)) : List (Node × Node) :=
  entries.map fun entry => (textNode entry.1, entry.2)

/-- An entry of an object dictionary with more fields. -/
def objectNode (index subIndex type : String) (more : List (String × Node)) : Node :=
  .mapping (fields ([("index", intNode index), ("sub_index", intNode subIndex),
    ("type", textNode type)] ++ more))

/-- A process data object with its channels. -/
def pdoNode (index : String) (channels : List Node) : Node :=
  .mapping (fields [("index", intNode index), ("channels", .sequence channels)])

/-- `TI5_CSP_OVERLAY`. -/
def ti5CspOverlay : List (Node × Node) :=
  fields [
    ("sdo", .sequence [
      objectNode "0x6060" "0" "int8" [("value", intNode "8")],
      objectNode "0x60c2" "1" "uint8" [("value", intNode "4")],
      objectNode "0x60c2" "2" "int8" [("value", intNode "-3")]]),
    ("rpdo", .sequence [pdoNode "0x1601" [
      objectNode "0x6040" "0" "uint16" [("command_interface", textNode "control_word"),
        ("default", intNode "0")],
      objectNode "0x607a" "0" "int32" [("command_interface", textNode "position"),
        ("factor", floatNode "41721.513402"), ("default", floatNode ".nan")]]]),
    ("tpdo", .sequence [pdoNode "0x1a01" [
      objectNode "0x6041" "0" "uint16" [("state_interface", textNode "status_word")],
      objectNode "0x6064" "0" "int32" [("state_interface", textNode "position"),
        ("factor", floatNode "0.0000239684498")]]])]

/-! ## The overlay of the map -/

/-- `key.startswith(("sdo", "rpdo", "tpdo"))` -/
def isProcessData (key : String) : Bool :=
  ["sdo", "rpdo", "tpdo"].any fun start => start.toList.isPrefixOf key.toList

/-- `Scalar("bool", False, "false")` -/
def switchedOff : Scalar :=
  { kind := .bool, value := .bool false, text := "false" }

/-- The loop that deletes the process data. -/
def deleteProcessData (expected : SemanticMap) : SemanticMap :=
  expected.keys.foldl
    (fun expected key => if isProcessData key then expected.erase key else expected) expected

/-- The process data of the axes with another drive. -/
def replaceProcessData (expected : SemanticMap) : Except Failure SemanticMap := do
  let overlay ← flattenNode "" (.mapping ti5CspOverlay)
  return overlay ∪ deleteProcessData expected

/-- The type of the prepended value. -/
def toleranceType (ti5 : Bool) : String :=
  if ti5 then "uint32" else "uint16"

/-- `apply_frozen_overlay`. -/
def applyFrozenOverlay (legacy : SemanticMap) (ti5 : Bool) : Except Failure SemanticMap := do
  let expected := legacy.insert "auto_state_transitions" switchedOff
  let expected ← (if ti5 then replaceProcessData expected else .ok expected)
  return prependSyncTolerance expected (toleranceType ti5)

/-! ## The overlay of the document -/

/-- The entry has one of the keys. -/
def hasKey (named : String → Bool) (entry : Node × Node) : Bool :=
  (mappingKey entry.1).toOption.any named

/-- The entries with some keys give way to other ones. -/
def replaceEntries (replaced : String → Bool) (added entries : List (Node × Node)) :
    List (Node × Node) :=
  (entries.filter fun entry => !hasKey replaced entry) ++ added

/-- `auto_state_transitions: false` -/
def switchEntries : List (Node × Node) :=
  fields [("auto_state_transitions", boolNode "false")]

def isSwitch (key : String) : Bool :=
  key = "auto_state_transitions"

/-- The document before the start-up object is prepended. -/
def switchedDocument (ti5 : Bool) (entries : List (Node × Node)) : List (Node × Node) :=
  let switched := replaceEntries isSwitch switchEntries entries
  if ti5 then replaceEntries isProcessData ti5CspOverlay switched else switched

/-- The document that the migrated profile is compared with. -/
def frozenDocument (ti5 : Bool) (entries : List (Node × Node)) : List (Node × Node) :=
  prependTolerance (toleranceType ti5) (switchedDocument ti5 entries)

/-! ## Legible documents -/

/-- A container is not empty. -/
def Filled : Node → Prop
  | .scalar _ _ => True
  | .mapping entries => entries ≠ []
  | .sequence items => items ≠ []

/-- A node that reads back: distinct and unmarked keys, and a container has something in it. -/
structure Tidy (node : Node) : Prop where
  distinct : DistinctKeys node
  filled : Filled node
  unmarked : Unmarked node

/-- A root mapping that flattens and whose paths can be read back. -/
structure Legible (entries : List (Node × Node)) : Prop where
  tidy : Everywhere Tidy (.mapping entries)
  named : ∀ value, ¬Child (.mapping entries) (.key "") value
  flat : ∃ flattened, flattenNode "" (.mapping entries) = .ok flattened

theorem Everywhere.mono {holds weaker : Node → Prop} {node : Node} (every : Everywhere holds node)
    (implied : ∀ node, holds node → weaker node) : Everywhere weaker node := by
  induction every with
  | intro here _ ih => exact .intro (implied _ here) ih

theorem plainKey_of_unmarked {key : String}
    (unmarked : '.' ∉ key.toList ∧ '[' ∉ key.toList ∧ '\n' ∉ key.toList) : PlainKey key where
  noDot := unmarked.1
  noIndex := by
    rintro ⟨stem, position, rfl⟩
    exact unmarked.2.1 (by simp)

theorem Tidy.readable {node : Node} (tidy : Tidy node) : Readable node := by
  cases node with
  | scalar tag value => trivial
  | mapping entries =>
      exact ⟨tidy.filled, fun key named => plainKey_of_unmarked (tidy.unmarked key named)⟩
  | sequence items => exact tidy.filled

section Legible

variable {entries : List (Node × Node)}

theorem Legible.distinct (legible : Legible entries) : Everywhere DistinctKeys (.mapping entries) :=
  legible.tidy.mono fun _ tidy => tidy.distinct

theorem Legible.unmarked (legible : Legible entries) : Everywhere Unmarked (.mapping entries) :=
  legible.tidy.mono fun _ tidy => tidy.unmarked

theorem Legible.unambiguous (legible : Legible entries) : Unambiguous (.mapping entries) where
  readable := legible.tidy.mono fun _ tidy => tidy.readable
  named := legible.named

/-- No list of a legible document is hidden. -/
theorem Legible.unhidden (legible : Legible entries) : Unhidden entries :=
  fun value _ _ _ child => absurd child (legible.named value)

theorem Legible.lookup_eq_some_iff (legible : Legible entries) {flattened : SemanticMap}
    (flat : flattenNode "" (.mapping entries) = .ok flattened) {key : String} {scalar : Scalar} :
    flattened.lookup key = some scalar ↔
      ∃ steps, Leaf (.mapping entries) steps scalar ∧ spell "" steps = key :=
  DiffLegacy.lookup_eq_some_iff legible.distinct legible.unambiguous flat

end Legible

/-! ## Checking a built-in document -/

mutual

/-- A check of every node. -/
def Node.all (check : Node → Bool) : Node → Bool
  | .scalar tag value => check (.scalar tag value)
  | .mapping entries => check (.mapping entries) && allEntries check entries
  | .sequence items => check (.sequence items) && allItems check items

def allEntries (check : Node → Bool) : List (Node × Node) → Bool
  | [] => true
  | (_, valueNode) :: entries => valueNode.all check && allEntries check entries

def allItems (check : Node → Bool) : List Node → Bool
  | [] => true
  | item :: items => item.all check && allItems check items

end

/-- The unmarked keys as a check. -/
def isUnmarked (key : String) : Bool :=
  key.toList.all fun char => char ≠ '.' && char ≠ '[' && char ≠ '\n'

/-- `Tidy` as a check. -/
def isTidy : Node → Bool
  | .scalar _ _ => true
  | .mapping entries =>
      !entries.isEmpty && entries.all (fun entry => (mappingKey entry.1).isOk) &&
        decide (keyTexts entries).Nodup && (keyTexts entries).all isUnmarked
  | .sequence items => !items.isEmpty

section Check

variable {check : Node → Bool}

mutual

theorem everywhere_of_all {holds : Node → Prop} (sound : ∀ node, check node = true → holds node) :
    ∀ node : Node, node.all check = true → Everywhere holds node
  | .scalar tag value, checked => everywhere_scalar (sound _ checked)
  | .mapping entries, checked => by
      rw [Node.all, Bool.and_eq_true] at checked
      exact everywhere_mapping (sound _ checked.1) (everywhere_of_allEntries sound _ checked.2)
  | .sequence items, checked => by
      rw [Node.all, Bool.and_eq_true] at checked
      exact everywhere_sequence (sound _ checked.1) (everywhere_of_allItems sound _ checked.2)

theorem everywhere_of_allEntries {holds : Node → Prop}
    (sound : ∀ node, check node = true → holds node) :
    ∀ entries, allEntries check entries = true → ∀ entry ∈ entries, Everywhere holds entry.2
  | [], _ => by simp
  | (_, valueNode) :: entries, checked => by
      rw [allEntries, Bool.and_eq_true] at checked
      exact List.forall_mem_cons.mpr ⟨everywhere_of_all sound valueNode checked.1,
        everywhere_of_allEntries sound entries checked.2⟩

theorem everywhere_of_allItems {holds : Node → Prop}
    (sound : ∀ node, check node = true → holds node) :
    ∀ items, allItems check items = true → ∀ item ∈ items, Everywhere holds item
  | [], _ => by simp
  | item :: items, checked => by
      rw [allItems, Bool.and_eq_true] at checked
      exact List.forall_mem_cons.mpr ⟨everywhere_of_all sound item checked.1,
        everywhere_of_allItems sound items checked.2⟩

end

end Check

theorem keyed_of_isOk {keyNode : Node} (success : (mappingKey keyNode).isOk = true) :
    ∃ key, mappingKey keyNode = .ok key := by
  cases keyed : mappingKey keyNode with
  | error failure =>
      rw [keyed] at success
      cases success
  | ok key => exact ⟨key, rfl⟩

/-- Distinct texts are distinct keys. -/
theorem nodup_keys {entries : List (Node × Node)}
    (keyed : ∀ entry ∈ entries, ∃ key, mappingKey entry.1 = .ok key)
    (nodup : (keyTexts entries).Nodup) : (entries.map fun entry => mappingKey entry.1).Nodup := by
  have texts : entries.map (fun entry => mappingKey entry.1) = (keyTexts entries).map .ok := by
    induction entries with
    | nil => rfl
    | cons entry entries ih =>
        obtain ⟨⟨key, first⟩, rest⟩ := List.forall_mem_cons.mp keyed
        have unfolded : keyTexts (entry :: entries) = key :: keyTexts entries := by
          rw [keyTexts, List.filterMap_cons, first]
          rfl
        rw [unfolded] at nodup ⊢
        rw [List.map_cons, List.map_cons, first, ih rest (List.nodup_cons.mp nodup).2]
  rw [texts]
  exact nodup.map fun first second same => Except.ok.inj same

theorem tidy_of_isTidy (node : Node) (checked : isTidy node = true) : Tidy node := by
  cases node with
  | scalar tag value => exact ⟨trivial, trivial, trivial⟩
  | mapping entries =>
      simp only [isTidy, Bool.and_eq_true, List.all_eq_true, decide_eq_true_eq] at checked
      obtain ⟨⟨⟨filled, keyed⟩, nodup⟩, unmarked⟩ := checked
      have keyed := fun entry inside => keyed_of_isOk (keyed entry inside)
      refine ⟨⟨keyed, nodup_keys keyed nodup⟩, by simpa [Filled] using filled, fun key named => ?_⟩
      have marks := List.all_eq_true.mp (unmarked key named)
      refine ⟨fun mark => ?_, fun mark => ?_, fun mark => ?_⟩ <;> exact absurd (marks _ mark) (by simp)
  | sequence items => exact ⟨trivial, by simpa [isTidy, Filled] using checked, trivial⟩

/-! ## Replacing root entries -/

theorem Leaf.exists_key {entries : List (Node × Node)} {steps : List Segment} {scalar : Scalar}
    (leaf : Leaf (.mapping entries) steps scalar) :
    ∃ key rest value, steps = .key key :: rest ∧ Child (.mapping entries) (.key key) value ∧
      Leaf value rest scalar := by
  cases leaf with
  | child child below =>
      cases child with
      | entry inside keyed => exact ⟨_, _, _, rfl, .entry inside keyed, below⟩

theorem hasKey_eq {entry : Node × Node} {key : String} (keyed : mappingKey entry.1 = .ok key)
    (named : String → Bool) : hasKey named entry = named key := by
  rw [hasKey, keyed]
  rfl

theorem ok_bind {α β : Type} (value : α) (next : α → Except Failure β) :
    (.ok value : Except Failure α) >>= next = next value :=
  rfl

/-- The loop over the entries succeeds when every entry does. -/
theorem exists_flattenEntries {path : String} {entries : List (Node × Node)}
    (parts : ∀ entry ∈ entries, ∃ key child, mappingKey entry.1 = .ok key ∧
      flattenNode (keyPrefix path key) entry.2 = .ok child) (initial : SemanticMap) :
    ∃ flattened, flattenEntries path entries initial = .ok flattened := by
  induction entries generalizing initial with
  | nil => exact ⟨initial, rfl⟩
  | cons entry entries ih =>
      obtain ⟨⟨key, child, keyed, flat⟩, rest⟩ := List.forall_mem_cons.mp parts
      obtain ⟨flattened, done⟩ := ih rest (child ∪ initial)
      exact ⟨flattened, by rw [flattenEntries, keyed, ok_bind, flat, ok_bind, done]⟩

section Replace

variable {replaced : String → Bool} {added entries : List (Node × Node)}

theorem mem_replaceEntries_iff {entry : Node × Node} :
    entry ∈ replaceEntries replaced added entries ↔
      (entry ∈ entries ∧ hasKey replaced entry = false) ∨ entry ∈ added := by
  rw [replaceEntries, List.mem_append, List.mem_filter, Bool.not_eq_true']

theorem child_replaceEntries_iff {key : String} {value : Node} :
    Child (.mapping (replaceEntries replaced added entries)) (.key key) value ↔
      (Child (.mapping entries) (.key key) value ∧ replaced key = false) ∨
        Child (.mapping added) (.key key) value := by
  constructor
  · intro child
    cases child with
    | entry inside keyed =>
        rcases mem_replaceEntries_iff.mp inside with ⟨kept, other⟩ | new
        · exact .inl ⟨.entry kept keyed, by rwa [hasKey_eq keyed] at other⟩
        · exact .inr (.entry new keyed)
  · rintro (⟨child, other⟩ | child)
    · cases child with
      | entry inside keyed =>
          exact .entry (mem_replaceEntries_iff.mpr
            (.inl ⟨inside, by rw [hasKey_eq keyed]; exact other⟩)) keyed
    · cases child with
      | entry inside keyed => exact .entry (mem_replaceEntries_iff.mpr (.inr inside)) keyed

theorem leaf_replaceEntries_iff {key : String} {rest : List Segment} {scalar : Scalar} :
    Leaf (.mapping (replaceEntries replaced added entries)) (.key key :: rest) scalar ↔
      (Leaf (.mapping entries) (.key key :: rest) scalar ∧ replaced key = false) ∨
        Leaf (.mapping added) (.key key :: rest) scalar := by
  constructor
  · intro leaf
    obtain ⟨value, child, below⟩ := leaf.exists_child
    rcases child_replaceEntries_iff.mp child with ⟨own, other⟩ | new
    · exact .inl ⟨.child own below, other⟩
    · exact .inr (.child new below)
  · rintro (⟨leaf, other⟩ | leaf)
    · obtain ⟨value, child, below⟩ := leaf.exists_child
      exact .child (child_replaceEntries_iff.mpr (.inl ⟨child, other⟩)) below
    · obtain ⟨value, child, below⟩ := leaf.exists_child
      exact .child (child_replaceEntries_iff.mpr (.inr child)) below

/-- New entries do not repeat a key that stays. -/
theorem distinctKeys_replaceEntries (distinct : DistinctKeys (.mapping entries))
    (addedDistinct : DistinctKeys (.mapping added))
    (covered : ∀ key ∈ keyTexts added, replaced key = true) :
    DistinctKeys (.mapping (replaceEntries replaced added entries)) := by
  refine ⟨fun entry inside => ?_, ?_⟩
  · rcases mem_replaceEntries_iff.mp inside with ⟨own, _⟩ | new
    · exact distinct.1 entry own
    · exact addedDistinct.1 entry new
  · rw [replaceEntries, List.map_append, List.nodup_append]
    refine ⟨distinct.2.sublist (List.filter_sublist.map _), addedDistinct.2, ?_⟩
    intro first inside second other same
    subst same
    obtain ⟨entry, kept, rfl⟩ := List.mem_map.mp inside
    obtain ⟨newEntry, new, keys⟩ := List.mem_map.mp other
    obtain ⟨key, keyed⟩ := addedDistinct.1 newEntry new
    have named := covered key (mem_keyTexts_iff.mpr ⟨newEntry.2, .entry new keyed⟩)
    have stays := (List.mem_filter.mp kept).2
    rw [hasKey_eq (keys.symm.trans keyed), named] at stays
    cases stays

/-- Replacing root entries keeps a document legible. -/
theorem Legible.replaceEntries (legible : Legible entries) (addedLegible : Legible added)
    (covered : ∀ key ∈ keyTexts added, replaced key = true) :
    Legible (replaceEntries replaced added entries) where
  tidy := by
    refine .intro ⟨?_, ?_, ?_⟩ fun segment value child => ?_
    · exact distinctKeys_replaceEntries legible.tidy.here.distinct addedLegible.tidy.here.distinct
        covered
    · exact List.append_ne_nil_of_right_ne_nil _ addedLegible.tidy.here.filled
    · intro key named
      obtain ⟨value, child⟩ := mem_keyTexts_iff.mp named
      rcases child_replaceEntries_iff.mp child with ⟨own, _⟩ | new
      · exact legible.tidy.here.unmarked key (mem_keyTexts_iff.mpr ⟨value, own⟩)
      · exact addedLegible.tidy.here.unmarked key (mem_keyTexts_iff.mpr ⟨value, new⟩)
    · cases child with
      | entry inside keyed =>
          rcases child_replaceEntries_iff.mp (.entry inside keyed) with ⟨own, _⟩ | new
          · exact legible.tidy.descend own
          · exact addedLegible.tidy.descend new
  named := by
    intro value child
    rcases child_replaceEntries_iff.mp child with ⟨own, _⟩ | new
    · exact legible.named value own
    · exact addedLegible.named value new
  flat := by
    obtain ⟨flattened, flat⟩ := legible.flat
    obtain ⟨addedMap, addedFlat⟩ := addedLegible.flat
    rw [flattenNode] at flat addedFlat
    refine exists_flattenEntries (fun entry inside => ?_) ∅
    rcases mem_replaceEntries_iff.mp inside with ⟨own, _⟩ | new
    · exact flattenEntries_child flat entry own
    · exact flattenEntries_child addedFlat entry new

/-- The flattened document with replaced entries, where the spelled keys show which entries are
replaced. -/
theorem lookup_replaceEntries (legible : Legible entries) (addedLegible : Legible added)
    (covered : ∀ key ∈ keyTexts added, replaced key = true) {spelled : String → Bool}
    (shown : ∀ key rest scalar, Leaf (.mapping entries) (.key key :: rest) scalar →
      spelled (spell "" (.key key :: rest)) = replaced key)
    {flattened addedMap other : SemanticMap}
    (flat : flattenNode "" (.mapping entries) = .ok flattened)
    (addedFlat : flattenNode "" (.mapping added) = .ok addedMap)
    (otherFlat : flattenNode "" (.mapping (replaceEntries replaced added entries)) = .ok other)
    (key : String) :
    other.lookup key =
      (addedMap.lookup key).or (if spelled key then none else flattened.lookup key) := by
  have edited := legible.replaceEntries addedLegible covered
  cases new : addedMap.lookup key with
  | some scalar =>
      rw [Option.some_or, edited.lookup_eq_some_iff otherFlat]
      obtain ⟨steps, leaf, same⟩ := (addedLegible.lookup_eq_some_iff addedFlat).mp new
      obtain ⟨own, rest, value, rfl, _, _⟩ := leaf.exists_key
      exact ⟨_, leaf_replaceEntries_iff.mpr (.inr leaf), same⟩
  | none =>
      rw [Option.none_or]
      refine Option.ext fun scalar => ?_
      rw [edited.lookup_eq_some_iff otherFlat]
      constructor
      · rintro ⟨steps, leaf, rfl⟩
        obtain ⟨own, rest, value, rfl, _, _⟩ := leaf.exists_key
        rcases leaf_replaceEntries_iff.mp leaf with ⟨kept, other⟩ | addedLeaf
        · rw [shown own rest scalar kept, other, if_neg Bool.false_ne_true]
          exact (legible.lookup_eq_some_iff flat).mpr ⟨_, kept, rfl⟩
        · have found := (addedLegible.lookup_eq_some_iff addedFlat).mpr ⟨_, addedLeaf, rfl⟩
          rw [new] at found
          cases found
      · intro found
        split_ifs at found with gone
        obtain ⟨steps, leaf, rfl⟩ := (legible.lookup_eq_some_iff flat).mp found
        obtain ⟨own, rest, value, rfl, _, _⟩ := leaf.exists_key
        rw [shown own rest scalar leaf, Bool.not_eq_true] at gone
        exact ⟨_, leaf_replaceEntries_iff.mpr (.inl ⟨leaf, gone⟩), rfl⟩

end Replace

/-! ## The built-in entries -/

theorem legible_of_isTidy {entries : List (Node × Node)}
    (checked : (Node.mapping entries).all isTidy = true) (named : "" ∉ keyTexts entries)
    (flat : (flattenNode "" (.mapping entries)).isOk = true) : Legible entries where
  tidy := everywhere_of_all tidy_of_isTidy _ checked
  named := fun value child => named (mem_keyTexts_iff.mpr ⟨value, child⟩)
  flat := exists_of_isOk flat

theorem legible_ti5CspOverlay : Legible ti5CspOverlay :=
  legible_of_isTidy (by decide +kernel) (by decide +kernel) (by decide +kernel)

theorem legible_switchEntries : Legible switchEntries :=
  legible_of_isTidy (by decide +kernel) (by decide +kernel) (by decide +kernel)

theorem isProcessData_of_ti5CspOverlay : ∀ key ∈ keyTexts ti5CspOverlay, isProcessData key = true := by
  decide +kernel

theorem isSwitch_of_switchEntries : ∀ key ∈ keyTexts switchEntries, isSwitch key = true := by
  decide +kernel

theorem scalarFromNode_switchedOff :
    scalarFromNode "tag:yaml.org,2002:bool" "false" = .ok switchedOff := by
  decide +kernel

theorem flattenNode_switchEntries :
    flattenNode "" (.mapping switchEntries) =
      .ok (AList.singleton "auto_state_transitions" switchedOff ∪ ∅) := by
  have value : flattenNode "auto_state_transitions" (boolNode "false") =
      .ok (AList.singleton "auto_state_transitions" switchedOff) := by
    rw [boolNode, flattenNode, if_neg (by decide), scalarFromNode_switchedOff]
    rfl
  rw [switchEntries, fields, List.map_singleton, flattenNode, flattenEntries]
  change flattenNode "auto_state_transitions" (boolNode "false") >>= _ = _
  rw [value]
  rfl

/-! ## The keys of the process data -/

/-- A prefix ends before a character that it does not have. -/
theorem prefix_append_iff {word front back : List Char}
    (ended : ∀ char, back.head? = some char → char ∉ word) :
    word <+: front ++ back ↔ word <+: front := by
  refine ⟨fun starts => ?_, fun starts => starts.trans (List.prefix_append front back)⟩
  by_cases short : word.length ≤ front.length
  · exact List.prefix_of_prefix_length_le starts (List.prefix_append front back) short
  · have long : front.length ≤ word.length := by omega
    obtain ⟨more, rfl⟩ := List.prefix_of_prefix_length_le (List.prefix_append front back) starts long
    cases more with
    | nil => simp at short
    | cons char more =>
        obtain ⟨tail, same⟩ := (List.prefix_append_right_inj front).mp starts
        refine absurd ?_ (ended char (by rw [← same]; rfl))
        exact List.mem_append_right front List.mem_cons_self

theorem head?_continuation {steps : List Segment} {char : Char}
    (first : (continuation steps).toList.head? = some char) : char = '.' ∨ char = '[' := by
  cases steps with
  | nil => cases first
  | cons segment steps =>
      cases segment <;> simp [continuation] at first
      · exact .inl first.symm
      · exact .inr first.symm

/-- A path spells process data when its root key does. -/
theorem isProcessData_spell {key : String} (started : key ≠ "") (rest : List Segment) :
    isProcessData (spell "" (.key key :: rest)) = isProcessData key := by
  have plain : ∀ start ∈ ["sdo", "rpdo", "tpdo"], '.' ∉ start.toList ∧ '[' ∉ start.toList := by
    decide
  rw [spell_cons, Segment.extend, if_pos rfl, spell_eq_append started, Bool.eq_iff_iff,
    isProcessData, isProcessData, List.any_eq_true, List.any_eq_true]
  refine exists_congr fun start => and_congr_right fun inside => ?_
  rw [List.isPrefixOf_iff_prefix, List.isPrefixOf_iff_prefix, String.toList_append]
  refine prefix_append_iff fun char first there => ?_
  rcases head?_continuation first with rfl | rfl
  · exact (plain start inside).1 there
  · exact (plain start inside).2 there

theorem lookup_deleteKeys {keys : List String} {expected : SemanticMap} {key : String} :
    (keys.foldl (fun expected key => if isProcessData key then expected.erase key else expected)
      expected).lookup key =
        if key ∈ keys ∧ isProcessData key = true then none else expected.lookup key := by
  induction keys generalizing expected with
  | nil => simp
  | cons first keys ih =>
      rw [List.foldl_cons, ih]
      by_cases same : key = first
      · subst same
        by_cases deleted : isProcessData key = true <;> simp [deleted]
      · by_cases deleted : isProcessData first = true <;>
          simp [deleted, same, AList.lookup_erase_ne]

theorem lookup_deleteProcessData (expected : SemanticMap) (key : String) :
    (deleteProcessData expected).lookup key =
      if isProcessData key then none else expected.lookup key := by
  rw [deleteProcessData, lookup_deleteKeys]
  by_cases inside : key ∈ expected.keys
  · simp only [inside, true_and]
  · have absent := AList.lookup_eq_none.mpr (mt AList.mem_keys.mp inside)
    simp [inside, absent]

/-! ## The switch and the process data -/

/-- A legacy profile: a legible document with a list of start-up objects and a plain switch, where
it has them. -/
structure Migratable (entries : List (Node × Node)) : Prop extends Legible entries where
  listed : ∀ value, Child (.mapping entries) (.key "sdo") value → ∃ items, value = .sequence items
  switched : ∀ value, Child (.mapping entries) (.key "auto_state_transitions") value →
    ∃ tag text, value = .scalar tag text

section Migratable

variable {entries : List (Node × Node)}

/-- The switch is the only scalar that is spelled like it. -/
theorem Migratable.isSwitch_spell (migratable : Migratable entries) (key : String)
    (rest : List Segment) (scalar : Scalar)
    (leaf : Leaf (.mapping entries) (.key key :: rest) scalar) :
    isSwitch (spell "" (.key key :: rest)) = isSwitch key := by
  have plain := leaf.plainPath migratable.unambiguous
  have plainSwitch : PlainPath [.key "auto_state_transitions"] := by
    refine ⟨fun segment inside => ?_, by simp⟩
    rw [List.mem_singleton.mp inside]
    exact plainKey_of_unmarked (by decide)
  rw [Bool.eq_iff_iff, isSwitch, isSwitch, decide_eq_true_eq, decide_eq_true_eq]
  constructor
  · intro spelled
    cases spell_injective plain plainSwitch spelled
    rfl
  · rintro rfl
    obtain ⟨value, child, below⟩ := leaf.exists_child
    obtain ⟨tag, text, rfl⟩ := migratable.switched value child
    cases below with
    | scalar _ => rfl
    | child deeper _ => cases deeper

theorem Migratable.legible_switch (migratable : Migratable entries) :
    Legible (replaceEntries isSwitch switchEntries entries) :=
  migratable.toLegible.replaceEntries legible_switchEntries isSwitch_of_switchEntries

/-- Setting the switch in the map is setting it in the document. -/
theorem Migratable.lookup_switch (migratable : Migratable entries) {legacy other : SemanticMap}
    (flat : flattenNode "" (.mapping entries) = .ok legacy)
    (otherFlat :
      flattenNode "" (.mapping (replaceEntries isSwitch switchEntries entries)) = .ok other)
    (key : String) :
    (legacy.insert "auto_state_transitions" switchedOff).lookup key = other.lookup key := by
  rw [lookup_replaceEntries migratable.toLegible legible_switchEntries isSwitch_of_switchEntries
    migratable.isSwitch_spell flat flattenNode_switchEntries otherFlat, AList.union_empty]
  by_cases same : key = "auto_state_transitions"
  · subst same
    rw [AList.lookup_insert, lookup_singleton, if_pos rfl, Option.some_or]
  · rw [AList.lookup_insert_ne same, lookup_singleton, if_neg same, Option.none_or,
      isSwitch, decide_eq_false same, if_neg Bool.false_ne_true]

theorem Migratable.legible_switchedDocument (migratable : Migratable entries) (ti5 : Bool) :
    Legible (switchedDocument ti5 entries) := by
  cases ti5 with
  | false => exact migratable.legible_switch
  | true =>
      exact migratable.legible_switch.replaceEntries legible_ti5CspOverlay
        isProcessData_of_ti5CspOverlay

/-- The two edits of the map are the two edits of the document. -/
theorem Migratable.lookup_switchedDocument (migratable : Migratable entries)
    {legacy : SemanticMap} (flat : flattenNode "" (.mapping entries) = .ok legacy) (ti5 : Bool) :
    ∃ expected other,
      (if ti5 then replaceProcessData (legacy.insert "auto_state_transitions" switchedOff)
        else .ok (legacy.insert "auto_state_transitions" switchedOff)) = .ok expected ∧
      flattenNode "" (.mapping (switchedDocument ti5 entries)) = .ok other ∧
      ∀ key, expected.lookup key = other.lookup key := by
  obtain ⟨switched, switchedFlat⟩ := migratable.legible_switch.flat
  have same := migratable.lookup_switch flat switchedFlat
  cases ti5 with
  | false => exact ⟨_, switched, rfl, switchedFlat, same⟩
  | true =>
      obtain ⟨overlay, overlayFlat⟩ := legible_ti5CspOverlay.flat
      obtain ⟨other, otherFlat⟩ := (migratable.legible_switchedDocument true).flat
      refine ⟨overlay ∪ deleteProcessData (legacy.insert "auto_state_transitions" switchedOff),
        other, ?_, otherFlat, fun key => ?_⟩
      · rw [if_pos rfl, replaceProcessData, overlayFlat]
        rfl
      · have shown (key : String) (rest : List Segment) (scalar : Scalar)
            (leaf : Leaf (.mapping (replaceEntries isSwitch switchEntries entries))
              (.key key :: rest) scalar) :
            isProcessData (spell "" (.key key :: rest)) = isProcessData key := by
          refine isProcessData_spell (fun empty => ?_) rest
          obtain ⟨value, child, _⟩ := leaf.exists_child
          exact migratable.legible_switch.named value (empty ▸ child)
        rw [lookup_replaceEntries migratable.legible_switch legible_ti5CspOverlay
          isProcessData_of_ti5CspOverlay shown switchedFlat overlayFlat otherFlat, lookup_union,
          lookup_deleteProcessData, same]

theorem Migratable.overlayable (migratable : Migratable entries) (ti5 : Bool) :
    Overlayable (switchedDocument ti5 entries) where
  unmarked := (migratable.legible_switchedDocument ti5).unmarked
  listed := by
    intro value child
    have switch {value : Node}
        (child : Child (.mapping (replaceEntries isSwitch switchEntries entries)) (.key "sdo")
          value) : ∃ items, value = .sequence items := by
      rcases child_replaceEntries_iff.mp child with ⟨own, _⟩ | new
      · exact migratable.listed value own
      · exact absurd (isSwitch_of_switchEntries _ (mem_keyTexts_iff.mpr ⟨value, new⟩)) (by decide)
    cases ti5 with
    | false => exact switch child
    | true =>
        rcases child_replaceEntries_iff.mp child with ⟨own, _⟩ | new
        · exact switch own
        · have listed : Child (.mapping ti5CspOverlay) (.key "sdo") (.sequence _) :=
            .entry List.mem_cons_self rfl
          exact ⟨_, new.unique legible_ti5CspOverlay.distinct.here listed⟩

end Migratable

/-! ## The start-up object -/

section Prepend

variable {entries : List (Node × Node)} {valueType : String}

theorem prependItem_fst (entry : Node × Node) : (prependItem valueType entry).1 = entry.1 := by
  unfold prependItem
  split
  next =>
    split <;> rfl
  next => rfl

theorem distinctKeys_prependTolerance (distinct : DistinctKeys (.mapping entries)) :
    DistinctKeys (.mapping (prependTolerance valueType entries)) := by
  rw [prependTolerance]
  split
  next =>
    refine ⟨fun entry inside => ?_, ?_⟩
    · obtain ⟨own, there, rfl⟩ := List.mem_map.mp inside
      rw [prependItem_fst]
      exact distinct.1 own there
    · simpa only [List.map_map, Function.comp_def, prependItem_fst] using distinct.2
  next missing =>
    refine ⟨fun entry inside => ?_, ?_⟩
    · rcases List.mem_append.mp inside with own | new
      · exact distinct.1 entry own
      · rw [List.mem_singleton.mp new]
        exact ⟨"sdo", rfl⟩
    · rw [List.map_append, List.nodup_append]
      refine ⟨distinct.2, List.nodup_singleton _, fun first inside second other same => ?_⟩
      obtain ⟨entry, own, rfl⟩ := List.mem_map.mp inside
      cases List.mem_singleton.mp other
      exact missing (List.any_eq_true.mpr ⟨entry, own, (isSdo_iff same).mpr rfl⟩)

theorem tidy_toleranceNode : Everywhere Tidy (toleranceNode valueType) :=
  everywhere_of_all tidy_of_isTidy _ rfl

/-- The prepended object keeps a document legible. -/
theorem Legible.prependTolerance (legible : Legible entries) (overlayable : Overlayable entries) :
    Legible (prependTolerance valueType entries) where
  tidy := by
    refine .intro ⟨?_, ?_, ?_⟩ fun segment value child => ?_
    · exact distinctKeys_prependTolerance legible.tidy.here.distinct
    · obtain ⟨items, child⟩ := exists_child_sdo overlayable valueType
      cases child with
      | entry inside _ => exact List.ne_nil_of_mem inside
    · exact (unmarked_prependTolerance overlayable valueType).here
    · cases child with
      | entry inside keyed =>
          rcases child_prependTolerance overlayable (.entry inside keyed) with
            ⟨own, _⟩ | ⟨rfl, items, rfl, below⟩
          · exact legible.tidy.descend own
          · refine everywhere_sequence ⟨trivial, by simp [Filled], trivial⟩
              (List.forall_mem_cons.mpr ⟨tidy_toleranceNode, fun item inside => ?_⟩)
            rcases below with rfl | own
            · contradiction
            · obtain ⟨index, found⟩ := List.mem_iff_getElem?.mp inside
              exact (legible.tidy.descend own).descend (.item found)
  named := by
    intro value child
    rcases child_prependTolerance overlayable child with ⟨own, _⟩ | ⟨named, _⟩
    · exact legible.named value own
    · exact absurd named (by decide)
  flat := by
    obtain ⟨flattened, flat⟩ := legible.flat
    have alike : Alike (Shifted valueType) _ _ :=
      flattenNode_prependTolerance overlayable legible.unhidden
    rw [flat] at alike
    generalize flattenNode "" (.mapping (DiffLegacy.prependTolerance valueType entries)) = result
      at alike
    cases alike with
    | ok _ => exact ⟨_, rfl⟩

/-- Maps with the same items are overlaid alike. -/
theorem lookup_prepend_congr (legible : Legible entries) (overlayable : Overlayable entries)
    {expected flattened other : SemanticMap}
    (flat : flattenNode "" (.mapping entries) = .ok flattened)
    (otherFlat : flattenNode "" (.mapping (prependTolerance valueType entries)) = .ok other)
    (same : ∀ key, expected.lookup key = flattened.lookup key) (key : String) :
    (prependSyncTolerance expected valueType).lookup key = other.lookup key := by
  have alike : Alike (Shifted valueType) _ _ :=
    flattenNode_prependTolerance overlayable legible.unhidden
  rw [flat, otherFlat] at alike
  have canonical : ∀ key ∈ flattened, Canonical key := by
    cases alike with
    | ok shifted => exact shifted.canonical
  have canonicalExpected : ∀ key ∈ expected, Canonical key := by
    intro own inside
    have present := AList.lookup_isSome.mpr inside
    rw [same] at present
    exact canonical own (AList.lookup_isSome.mp present)
  have prepends : PrependsTolerance entries valueType :=
    prependsTolerance_of_unhidden overlayable legible.unhidden
  rw [PrependsTolerance, flat, otherFlat] at prepends
  have overlaid : (prependSyncTolerance flattened valueType).lookup key = other.lookup key :=
    congrFun (Except.ok.inj prepends) key
  rw [← overlaid, lookup_prependSyncTolerance canonicalExpected,
    lookup_prependSyncTolerance canonical, funext same]

end Prepend

/-! ## The whole overlay -/

section Migratable

variable {entries : List (Node × Node)}

theorem Migratable.legible_frozenDocument (migratable : Migratable entries) (ti5 : Bool) :
    Legible (frozenDocument ti5 entries) :=
  (migratable.legible_switchedDocument ti5).prependTolerance (migratable.overlayable ti5)

/-- The overlay of the flattened profile is the flattened overlay of the profile. -/
theorem Migratable.applyFrozenOverlay (migratable : Migratable entries) {legacy : SemanticMap}
    (flat : flattenNode "" (.mapping entries) = .ok legacy) (ti5 : Bool) :
    ∃ expected frozen, applyFrozenOverlay legacy ti5 = .ok expected ∧
      flattenNode "" (.mapping (frozenDocument ti5 entries)) = .ok frozen ∧
      ∀ key, expected.lookup key = frozen.lookup key := by
  obtain ⟨switched, switchedMap, edited, switchedFlat, same⟩ :=
    migratable.lookup_switchedDocument flat ti5
  obtain ⟨frozen, frozenFlat⟩ := (migratable.legible_frozenDocument ti5).flat
  refine ⟨prependSyncTolerance switched (toleranceType ti5), frozen, ?_, frozenFlat, ?_⟩
  · rw [DiffLegacy.applyFrozenOverlay, edited]
    rfl
  · exact lookup_prepend_congr (migratable.legible_switchedDocument ti5)
      (migratable.overlayable ti5) switchedFlat frozenFlat same

end Migratable

end RtControl.DiffLegacy
