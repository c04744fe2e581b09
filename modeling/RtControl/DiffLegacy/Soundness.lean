import RtControl.DiffLegacy.Gate
import RtControl.Codec.Spelling
import Mathlib.Order.Basic

/-!
# What an empty comparison says about the documents

A flattened map remembers the leaves of a document under their spelled paths.  Two
documents whose paths can be read back and whose containers are not empty compare equal
exactly when they have the same shape and equivalent scalars.
-/

namespace RtControl.DiffLegacy

open RtControl.Codec

/-! ## Documents -/

/-- A node directly below another one. -/
inductive Child : Node → Segment → Node → Prop
  | entry {entries : List (Node × Node)} {keyNode valueNode : Node} {key : String} :
      (keyNode, valueNode) ∈ entries → mappingKey keyNode = .ok key →
      Child (.mapping entries) (.key key) valueNode
  | item {items : List Node} {index : Nat} {item : Node} :
      items[index]? = some item → Child (.sequence items) (.index index) item

/-- A scalar below a node, with the path to it. -/
inductive Leaf : Node → List Segment → Scalar → Prop
  | scalar {tag value : String} {scalar : Scalar} :
      scalarFromNode tag value = .ok scalar → Leaf (.scalar tag value) [] scalar
  | child {node value : Node} {segment : Segment} {path : List Segment} {scalar : Scalar} :
      Child node segment value → Leaf value path scalar → Leaf node (segment :: path) scalar

/-- A property of every node of a document. -/
inductive Everywhere (holds : Node → Prop) : Node → Prop
  | intro {node : Node} :
      holds node → (∀ segment value, Child node segment value → Everywhere holds value) →
      Everywhere holds node

/-- The keys of a mapping. -/
def keyTexts (entries : List (Node × Node)) : List String :=
  entries.filterMap fun entry => (mappingKey entry.1).toOption

/-- The keys of a mapping are scalars and distinct. -/
def DistinctKeys : Node → Prop
  | .mapping entries =>
      (∀ entry ∈ entries, ∃ key, mappingKey entry.1 = .ok key) ∧
        (entries.map fun entry => mappingKey entry.1).Nodup
  | _ => True

/-- A container is not empty, and its keys can be read back from a path. -/
def Readable : Node → Prop
  | .scalar _ _ => True
  | .mapping entries => entries ≠ [] ∧ ∀ key ∈ keyTexts entries, PlainKey key
  | .sequence items => items ≠ []

/-- A document whose paths can be read back. -/
structure Unambiguous (document : Node) : Prop where
  readable : Everywhere Readable document
  named : ∀ value, ¬Child document (.key "") value

/-- The same shape and equivalent scalars. -/
inductive Same : Node → Node → Prop
  | scalar {tag value otherTag otherValue : String} {expected actual : Scalar} :
      scalarFromNode tag value = .ok expected → scalarFromNode otherTag otherValue = .ok actual →
      equivalent expected actual = true → Same (.scalar tag value) (.scalar otherTag otherValue)
  | mapping {entries others : List (Node × Node)} :
      (∀ key, key ∈ keyTexts entries ↔ key ∈ keyTexts others) →
      (∀ segment value other, Child (.mapping entries) segment value →
        Child (.mapping others) segment other → Same value other) →
      Same (.mapping entries) (.mapping others)
  | sequence {items others : List Node} :
      items.length = others.length →
      (∀ segment value other, Child (.sequence items) segment value →
        Child (.sequence others) segment other → Same value other) →
      Same (.sequence items) (.sequence others)

/-! ## Children -/

theorem mem_keyTexts_iff {entries : List (Node × Node)} {key : String} :
    key ∈ keyTexts entries ↔ ∃ value, Child (.mapping entries) (.key key) value := by
  simp only [keyTexts, List.mem_filterMap]
  constructor
  · rintro ⟨⟨keyNode, valueNode⟩, inside, named⟩
    cases keyed : mappingKey keyNode with
    | error failure =>
        rw [keyed] at named
        cases named
    | ok text =>
        rw [keyed] at named
        cases named
        exact ⟨valueNode, .entry inside keyed⟩
  · rintro ⟨value, child⟩
    cases child with
    | entry inside keyed => exact ⟨_, inside, by rw [keyed]; rfl⟩

theorem child_sequence_iff {items : List Node} {index : Nat} :
    (∃ value, Child (.sequence items) (.index index) value) ↔ index < items.length := by
  constructor
  · rintro ⟨value, child⟩
    cases child with
    | item found => exact (List.getElem?_eq_some_iff.mp found).1
  · intro inside
    exact ⟨items[index], .item (List.getElem?_eq_getElem inside)⟩

/-- Distinct keys have one child for each step. -/
theorem Child.unique {node first second : Node} {segment : Segment}
    (distinct : DistinctKeys node) (child : Child node segment first)
    (other : Child node segment second) : first = second := by
  cases child with
  | @entry entries keyNode _ key inside keyed =>
      cases other with
      | @entry _ otherKey _ _ otherInside otherKeyed =>
          have entriesSame := List.inj_on_of_nodup_map distinct.2 inside otherInside
            (keyed.trans otherKeyed.symm)
          exact congrArg Prod.snd entriesSame
  | item found =>
      cases other with
      | item otherFound => exact Option.some_inj.mp (found.symm.trans otherFound)

theorem Everywhere.here {holds : Node → Prop} {node : Node} (every : Everywhere holds node) :
    holds node := by
  cases every with
  | intro here _ => exact here

theorem Everywhere.descend {holds : Node → Prop} {node value : Node} {segment : Segment}
    (every : Everywhere holds node) (child : Child node segment value) :
    Everywhere holds value := by
  cases every with
  | intro _ below => exact below segment value child

/-- A path leads to one scalar. -/
theorem Leaf.unique {node : Node} {path : List Segment} {first second : Scalar}
    (distinct : Everywhere DistinctKeys node) (leaf : Leaf node path first)
    (other : Leaf node path second) : first = second := by
  induction leaf with
  | scalar parsed =>
      cases other with
      | scalar otherParsed => exact Except.ok.inj (parsed.symm.trans otherParsed)
  | child child leaf ih =>
      cases other with
      | child otherChild otherLeaf =>
          cases child.unique distinct.here otherChild
          exact ih (distinct.descend child) otherLeaf

/-- The paths of an unambiguous document are plain. -/
theorem Leaf.plainPath {document : Node} {path : List Segment} {scalar : Scalar}
    (unambiguous : Unambiguous document) (leaf : Leaf document path scalar) :
    PlainPath path where
  plain := by
    have readable := unambiguous.readable
    clear unambiguous
    induction leaf with
    | scalar _ => simp
    | child child _ ih =>
        refine List.forall_mem_cons.mpr ⟨?_, ih (readable.descend child)⟩
        cases child with
        | entry inside keyed =>
            exact readable.here.2 _ (mem_keyTexts_iff.mpr ⟨_, .entry inside keyed⟩)
        | item found => trivial
  started := by
    cases leaf with
    | scalar _ => simp
    | child child _ =>
        intro empty
        cases Option.some_inj.mp empty
        exact unambiguous.named _ child

/-! ## Flattening -/

section Flattening

variable {path : String}

theorem bind_eq_ok {α β : Type} {first : Except Failure α} {next : α → Except Failure β}
    {result : β} (success : first >>= next = .ok result) :
    ∃ value, first = .ok value ∧ next value = .ok result := by
  cases first with
  | error failure => cases success
  | ok value => exact ⟨value, rfl, success⟩

/-- What the loops over a container collect: every entry comes from what was there or from
a part, and no key is lost. -/
structure Collected (initial : SemanticMap) (part : SemanticMap → Prop)
    (flattened : SemanticMap) : Prop where
  found : ∀ {key : String} {scalar : Scalar}, flattened.lookup key = some scalar →
    initial.lookup key = some scalar ∨ ∃ child, part child ∧ child.lookup key = some scalar
  kept : ∀ {key : String}, key ∈ initial ∨ (∃ child, part child ∧ key ∈ child) → key ∈ flattened

theorem Collected.nil {initial : SemanticMap} {part : SemanticMap → Prop}
    (none : ∀ child, ¬part child) : Collected initial part initial where
  found := .inl
  kept := by
    rintro key (there | ⟨child, isPart, _⟩)
    · exact there
    · exact absurd isPart (none child)

theorem Collected.cons {initial child flattened : SemanticMap}
    {part rest : SemanticMap → Prop}
    (parts : ∀ other, part other ↔ other = child ∨ rest other)
    (collected : Collected (child ∪ initial) rest flattened) :
    Collected initial part flattened where
  found := by
    intro key scalar found
    rcases collected.found found with united | ⟨other, isRest, inside⟩
    · rcases AList.lookup_union_eq_some.mp united with inside | ⟨_, there⟩
      · exact .inr ⟨child, (parts child).mpr (.inl rfl), inside⟩
      · exact .inl there
    · exact .inr ⟨other, (parts other).mpr (.inr isRest), inside⟩
  kept := by
    rintro key (there | ⟨other, isPart, inside⟩)
    · exact collected.kept (.inl (AList.mem_union.mpr (.inr there)))
    · rcases (parts other).mp isPart with rfl | isRest
      · exact collected.kept (.inl (AList.mem_union.mpr (.inl inside)))
      · exact collected.kept (.inr ⟨other, isRest, inside⟩)

theorem flattenEntries_collected {entries : List (Node × Node)}
    {initial flattened : SemanticMap}
    (flat : flattenEntries path entries initial = .ok flattened) :
    Collected initial (fun child => ∃ entry ∈ entries, ∃ key, mappingKey entry.1 = .ok key ∧
      flattenNode ((Segment.key key).extend path) entry.2 = .ok child) flattened := by
  induction entries generalizing initial with
  | nil =>
      cases flat
      exact .nil (by simp)
  | cons entry entries ih =>
      rw [flattenEntries] at flat
      rcases bind_eq_ok flat with ⟨key, keyed, flat⟩
      rcases bind_eq_ok flat with ⟨child, part, flat⟩
      refine Collected.cons ?_ (ih flat)
      intro other
      rw [List.exists_mem_cons_iff]
      constructor
      · rintro (⟨otherKey, otherKeyed, otherPart⟩ | rest)
        · cases keyed.symm.trans otherKeyed
          exact .inl (Except.ok.inj (otherPart.symm.trans part))
        · exact .inr rest
      · rintro (rfl | rest)
        · exact .inl ⟨key, keyed, part⟩
        · exact .inr rest

theorem flattenItems_collected {items : List Node} {start : Nat}
    {initial flattened : SemanticMap}
    (flat : flattenItems path start items initial = .ok flattened) :
    Collected initial (fun child => ∃ offset item, items[offset]? = some item ∧
      flattenNode ((Segment.index (start + offset)).extend path) item = .ok child)
      flattened := by
  induction items generalizing start initial with
  | nil =>
      cases flat
      exact .nil (by simp)
  | cons item items ih =>
      rw [flattenItems] at flat
      rcases bind_eq_ok flat with ⟨child, part, flat⟩
      refine Collected.cons ?_ (ih flat)
      intro other
      constructor
      · rintro ⟨offset, otherItem, found, otherPart⟩
        cases offset with
        | zero =>
            cases found
            exact .inl (Except.ok.inj (otherPart.symm.trans part))
        | succ offset =>
            rw [← Nat.add_assoc, Nat.add_right_comm] at otherPart
            exact .inr ⟨offset, otherItem, found, otherPart⟩
      · rintro (rfl | ⟨offset, otherItem, found, otherPart⟩)
        · exact ⟨0, item, rfl, part⟩
        · rw [Nat.add_right_comm] at otherPart
          exact ⟨offset + 1, otherItem, found, otherPart⟩

theorem flattenEntries_child {entries : List (Node × Node)} {initial flattened : SemanticMap}
    (flat : flattenEntries path entries initial = .ok flattened) :
    ∀ entry ∈ entries, ∃ key child, mappingKey entry.1 = .ok key ∧
      flattenNode ((Segment.key key).extend path) entry.2 = .ok child := by
  induction entries generalizing initial with
  | nil => simp
  | cons entry entries ih =>
      rw [flattenEntries] at flat
      rcases bind_eq_ok flat with ⟨key, keyed, flat⟩
      rcases bind_eq_ok flat with ⟨child, part, flat⟩
      exact List.forall_mem_cons.mpr ⟨⟨key, child, keyed, part⟩, ih flat⟩

theorem flattenItems_child {items : List Node} {start : Nat} {initial flattened : SemanticMap}
    (flat : flattenItems path start items initial = .ok flattened) {offset : Nat} {item : Node}
    (found : items[offset]? = some item) :
    ∃ child, flattenNode ((Segment.index (start + offset)).extend path) item = .ok child := by
  induction items generalizing start initial offset with
  | nil => simp at found
  | cons head items ih =>
      rw [flattenItems] at flat
      rcases bind_eq_ok flat with ⟨child, part, flat⟩
      cases offset with
      | zero =>
          cases found
          exact ⟨child, part⟩
      | succ offset =>
          have rest := ih flat found
          rwa [Nat.add_right_comm] at rest

/-- A flattened container is collected from its children. -/
theorem flattenNode_collected {node : Node} {flattened : SemanticMap}
    (flat : flattenNode path node = .ok flattened)
    (container : ∀ tag value, node ≠ .scalar tag value) :
    Collected ∅ (fun child => ∃ segment value, Child node segment value ∧
      flattenNode (segment.extend path) value = .ok child) flattened := by
  cases node with
  | scalar tag value => exact absurd rfl (container tag value)
  | mapping entries =>
      rw [flattenNode] at flat
      convert flattenEntries_collected flat using 2 with child
      constructor
      · rintro ⟨segment, value, child, part⟩
        cases child with
        | entry inside keyed => exact ⟨_, inside, _, keyed, part⟩
      · rintro ⟨⟨keyNode, valueNode⟩, inside, key, keyed, part⟩
        exact ⟨_, _, .entry inside keyed, part⟩
  | sequence items =>
      rw [flattenNode] at flat
      convert flattenItems_collected flat using 2 with child
      constructor
      · rintro ⟨segment, value, child, part⟩
        cases child with
        | item found => exact ⟨_, _, found, by rwa [Nat.zero_add]⟩
      · rintro ⟨offset, item, found, part⟩
        rw [Nat.zero_add] at part
        exact ⟨_, _, .item found, part⟩

/-- The children of a flattened node are flattened. -/
theorem flattenNode_child {node value : Node} {segment : Segment} {flattened : SemanticMap}
    (flat : flattenNode path node = .ok flattened) (child : Child node segment value) :
    ∃ part, flattenNode (segment.extend path) value = .ok part := by
  cases child with
  | entry inside keyed =>
      rw [flattenNode] at flat
      rcases flattenEntries_child flat _ inside with ⟨key, part, otherKeyed, flatPart⟩
      cases keyed.symm.trans otherKeyed
      exact ⟨part, flatPart⟩
  | @item items index item found =>
      rw [flattenNode] at flat
      have flatPart := flattenItems_child flat found
      rwa [Nat.zero_add] at flatPart

theorem flattenNode_scalar {tag value : String} {flattened : SemanticMap}
    (flat : flattenNode path (.scalar tag value) = .ok flattened) :
    ∃ scalar, scalarFromNode tag value = .ok scalar ∧ flattened = AList.singleton path scalar := by
  rw [flattenNode] at flat
  split_ifs at flat
  cases parsed : scalarFromNode tag value with
  | error failure =>
      rw [parsed] at flat
      cases flat
  | ok scalar =>
      rw [parsed] at flat
      exact ⟨scalar, rfl, (Except.ok.inj flat).symm⟩

/-- Every flattened entry is a leaf under its spelled path. -/
theorem exists_leaf_of_lookup {holds : Node → Prop} {node : Node} {flattened : SemanticMap}
    {key : String} {scalar : Scalar} (every : Everywhere holds node)
    (flat : flattenNode path node = .ok flattened) (found : flattened.lookup key = some scalar) :
    ∃ steps, Leaf node steps scalar ∧ spell path steps = key := by
  induction every generalizing path flattened with
  | @intro node _ _ ih =>
      by_cases isScalar : ∃ tag value, node = .scalar tag value
      · rcases isScalar with ⟨tag, value, rfl⟩
        rcases flattenNode_scalar flat with ⟨parsed, success, rfl⟩
        rw [← Option.mem_def, AList.mem_lookup_iff, AList.singleton_entries,
          List.mem_singleton] at found
        cases found
        exact ⟨[], .scalar success, rfl⟩
      · have container : ∀ tag value, node ≠ .scalar tag value :=
          fun tag value same => isScalar ⟨tag, value, same⟩
        rcases (flattenNode_collected flat container).found found with empty | collected
        · rw [AList.lookup_empty] at empty
          cases empty
        · rcases collected with ⟨part, ⟨segment, value, child, flatPart⟩, foundPart⟩
          rcases ih segment value child flatPart foundPart with ⟨steps, leaf, spelled⟩
          exact ⟨segment :: steps, .child child leaf, spelled⟩

/-- Every leaf has an entry under its spelled path. -/
theorem spell_mem_of_leaf {node : Node} {flattened : SemanticMap} {steps : List Segment}
    {scalar : Scalar} (leaf : Leaf node steps scalar)
    (flat : flattenNode path node = .ok flattened) : spell path steps ∈ flattened := by
  induction leaf generalizing path flattened with
  | scalar _ =>
      rcases flattenNode_scalar flat with ⟨parsed, _, rfl⟩
      rw [AList.mem_keys, AList.keys_singleton]
      exact List.mem_singleton_self path
  | @child node value segment steps scalar child leaf ih =>
      have container : ∀ tag text, node ≠ .scalar tag text := by
        rintro tag text rfl
        cases child
      rcases flattenNode_child flat child with ⟨part, flatPart⟩
      exact (flattenNode_collected flat container).kept
        (.inr ⟨part, ⟨segment, value, child, flatPart⟩, ih flatPart⟩)

end Flattening

/-- An unambiguous document is flattened to exactly its leaves. -/
theorem lookup_eq_some_iff {document : Node} {flattened : SemanticMap} {key : String}
    {scalar : Scalar} (distinct : Everywhere DistinctKeys document)
    (unambiguous : Unambiguous document) (flat : flattenNode "" document = .ok flattened) :
    flattened.lookup key = some scalar ↔
      ∃ steps, Leaf document steps scalar ∧ spell "" steps = key := by
  constructor
  · exact exists_leaf_of_lookup distinct flat
  · rintro ⟨steps, leaf, rfl⟩
    have present := AList.lookup_isSome.mpr (spell_mem_of_leaf leaf flat)
    rcases Option.isSome_iff_exists.mp present with ⟨other, found⟩
    rcases exists_leaf_of_lookup distinct flat found with ⟨otherSteps, otherLeaf, spelled⟩
    cases spell_injective (otherLeaf.plainPath unambiguous) (leaf.plainPath unambiguous) spelled
    rw [found, otherLeaf.unique distinct leaf]

/-! ## Comparing -/

theorem differenceAt_eq_none_iff {axis : String} {expected actual : SemanticMap} {key : String} :
    differenceAt axis expected actual key = none ↔
      ∃ first second, expected.lookup key = some first ∧ actual.lookup key = some second ∧
        equivalent first second = true := by
  unfold differenceAt
  split
  · rename_i first second found otherFound
    simp [found, otherFound]
  · rename_i missing
    simp only [reduceCtorEq, false_iff]
    rintro ⟨first, second, found, otherFound, _⟩
    exact missing first second found otherFound

/-- A comparison is empty when the maps have the same keys and equivalent values. -/
theorem compareMaps_eq_nil_iff {axis : String} {expected actual : SemanticMap} :
    compareMaps axis expected actual = [] ↔
      (∀ key first, expected.lookup key = some first →
        ∃ second, actual.lookup key = some second ∧ equivalent first second = true) ∧
      ∀ key second, actual.lookup key = some second →
        ∃ first, expected.lookup key = some first ∧ equivalent first second = true := by
  have present {flattened : SemanticMap} {key : String} {scalar : Scalar}
      (found : flattened.lookup key = some scalar) : key ∈ flattened.keys :=
    AList.mem_keys.mp (AList.lookup_isSome.mp (Option.isSome_iff_exists.mpr ⟨scalar, found⟩))
  rw [compareMaps, List.filterMap_eq_nil_iff]
  simp only [List.mem_mergeSort, List.mem_union_iff, differenceAt_eq_none_iff]
  constructor
  · intro agree
    constructor
    · intro key first found
      rcases agree key (.inl (present found)) with ⟨_, second, again, other, same⟩
      cases found.symm.trans again
      exact ⟨second, other, same⟩
    · intro key second found
      rcases agree key (.inr (present found)) with ⟨first, _, other, again, same⟩
      cases found.symm.trans again
      exact ⟨first, other, same⟩
  · rintro ⟨forward, backward⟩ key (inside | inside)
    · have some := AList.lookup_isSome.mpr (AList.mem_keys.mpr inside)
      rcases Option.isSome_iff_exists.mp some with ⟨first, found⟩
      rcases forward key first found with ⟨second, other, same⟩
      exact ⟨first, second, found, other, same⟩
    · have some := AList.lookup_isSome.mpr (AList.mem_keys.mpr inside)
      rcases Option.isSome_iff_exists.mp some with ⟨second, found⟩
      rcases backward key second found with ⟨first, other, same⟩
      exact ⟨first, second, other, found, same⟩

/-- The same leaves up to equivalence. -/
structure SameLeaves (expected actual : Node) : Prop where
  forward : ∀ steps first, Leaf expected steps first →
    ∃ second, Leaf actual steps second ∧ equivalent first second = true
  backward : ∀ steps second, Leaf actual steps second →
    ∃ first, Leaf expected steps first ∧ equivalent first second = true

/-- Unambiguous documents compare equal when their leaves do. -/
theorem compareMaps_eq_nil_iff_sameLeaves {axis : String} {expected actual : Node}
    {expectedMap actualMap : SemanticMap}
    (distinct : Everywhere DistinctKeys expected ∧ Everywhere DistinctKeys actual)
    (unambiguous : Unambiguous expected ∧ Unambiguous actual)
    (flat : flattenNode "" expected = .ok expectedMap)
    (actualFlat : flattenNode "" actual = .ok actualMap) :
    compareMaps axis expectedMap actualMap = [] ↔ SameLeaves expected actual := by
  simp only [compareMaps_eq_nil_iff, lookup_eq_some_iff distinct.1 unambiguous.1 flat,
    lookup_eq_some_iff distinct.2 unambiguous.2 actualFlat]
  -- Equal spellings are equal paths, in one document and across the two.
  constructor
  · rintro ⟨forward, backward⟩
    constructor
    · intro steps first leaf
      rcases forward _ _ ⟨steps, leaf, rfl⟩ with ⟨second, ⟨others, otherLeaf, spelled⟩, same⟩
      cases spell_injective (otherLeaf.plainPath unambiguous.2) (leaf.plainPath unambiguous.1)
        spelled
      exact ⟨second, otherLeaf, same⟩
    · intro steps second leaf
      rcases backward _ _ ⟨steps, leaf, rfl⟩ with ⟨first, ⟨others, otherLeaf, spelled⟩, same⟩
      cases spell_injective (otherLeaf.plainPath unambiguous.1) (leaf.plainPath unambiguous.2)
        spelled
      exact ⟨first, otherLeaf, same⟩
  · rintro ⟨forward, backward⟩
    constructor
    · rintro key first ⟨steps, leaf, rfl⟩
      rcases forward steps first leaf with ⟨second, otherLeaf, same⟩
      exact ⟨second, ⟨steps, otherLeaf, rfl⟩, same⟩
    · rintro key second ⟨steps, leaf, rfl⟩
      rcases backward steps second leaf with ⟨first, otherLeaf, same⟩
      exact ⟨first, ⟨steps, otherLeaf, rfl⟩, same⟩

/-! ## Shapes -/

theorem exists_child_of_readable {node : Node} (readable : Readable node)
    (distinct : DistinctKeys node) (container : ∀ tag value, node ≠ .scalar tag value) :
    ∃ segment value, Child node segment value := by
  cases node with
  | scalar tag value => exact absurd rfl (container tag value)
  | mapping entries =>
      rcases List.exists_mem_of_ne_nil entries readable.1 with ⟨entry, inside⟩
      rcases distinct.1 entry inside with ⟨key, keyed⟩
      exact ⟨.key key, entry.2, .entry inside keyed⟩
  | sequence items =>
      rcases child_sequence_iff.mpr (List.length_pos_iff.mpr readable) with ⟨value, child⟩
      exact ⟨.index 0, value, child⟩

/-- A part of an accepted document: it flattens under some prefix, with distinct keys and
no empty container. -/
structure Accepted (node : Node) : Prop where
  readable : Everywhere Readable node
  distinct : Everywhere DistinctKeys node
  flat : ∃ path flattened, flattenNode path node = .ok flattened

theorem Accepted.descend {node value : Node} {segment : Segment} (accepted : Accepted node)
    (child : Child node segment value) : Accepted value where
  readable := accepted.readable.descend child
  distinct := accepted.distinct.descend child
  flat := by
    rcases accepted.flat with ⟨path, flattened, flat⟩
    exact ⟨_, flattenNode_child flat child⟩

/-- An accepted document has leaves everywhere. -/
theorem Accepted.exists_leaf {node : Node} (accepted : Accepted node) :
    ∃ steps scalar, Leaf node steps scalar := by
  rcases accepted with ⟨readable, distinct, path, flattened, flat⟩
  induction readable generalizing path flattened with
  | @intro node readable _ ih =>
      by_cases isScalar : ∃ tag value, node = .scalar tag value
      · rcases isScalar with ⟨tag, value, rfl⟩
        rcases flattenNode_scalar flat with ⟨scalar, parsed, _⟩
        exact ⟨[], scalar, .scalar parsed⟩
      · have container : ∀ tag value, node ≠ .scalar tag value :=
          fun tag value same => isScalar ⟨tag, value, same⟩
        rcases exists_child_of_readable readable distinct.here container with
          ⟨segment, value, child⟩
        rcases flattenNode_child flat child with ⟨part, flatPart⟩
        rcases ih segment value child (distinct.descend child) _ _ flatPart with
          ⟨steps, scalar, leaf⟩
        exact ⟨segment :: steps, scalar, .child child leaf⟩

theorem Leaf.exists_child {node : Node} {segment : Segment} {steps : List Segment}
    {scalar : Scalar} (leaf : Leaf node (segment :: steps) scalar) :
    ∃ value, Child node segment value ∧ Leaf value steps scalar := by
  cases leaf with
  | child child leaf => exact ⟨_, child, leaf⟩

/-- Corresponding children of documents with the same leaves have the same leaves. -/
theorem SameLeaves.descend {expected actual value other : Node} {segment : Segment}
    (same : SameLeaves expected actual) (distinct : DistinctKeys expected)
    (otherDistinct : DistinctKeys actual) (child : Child expected segment value)
    (otherChild : Child actual segment other) : SameLeaves value other where
  forward := by
    intro steps first leaf
    rcases same.forward _ _ (.child child leaf) with ⟨second, otherLeaf, alike⟩
    rcases otherLeaf.exists_child with ⟨_, again, otherLeaf⟩
    cases otherChild.unique otherDistinct again
    exact ⟨second, otherLeaf, alike⟩
  backward := by
    intro steps second leaf
    rcases same.backward _ _ (.child otherChild leaf) with ⟨first, otherLeaf, alike⟩
    rcases otherLeaf.exists_child with ⟨_, again, otherLeaf⟩
    cases child.unique distinct again
    exact ⟨first, otherLeaf, alike⟩

/-- Documents with the same leaves have the same children. -/
theorem SameLeaves.child_iff {expected actual : Node} (same : SameLeaves expected actual)
    (accepted : Accepted expected) (otherAccepted : Accepted actual) (segment : Segment) :
    (∃ value, Child expected segment value) ↔ ∃ other, Child actual segment other := by
  constructor
  · rintro ⟨value, child⟩
    rcases (accepted.descend child).exists_leaf with ⟨steps, first, leaf⟩
    rcases same.forward _ _ (.child child leaf) with ⟨second, otherLeaf, _⟩
    rcases otherLeaf.exists_child with ⟨other, otherChild, _⟩
    exact ⟨other, otherChild⟩
  · rintro ⟨other, otherChild⟩
    rcases (otherAccepted.descend otherChild).exists_leaf with ⟨steps, second, leaf⟩
    rcases same.backward _ _ (.child otherChild leaf) with ⟨first, otherLeaf, _⟩
    rcases otherLeaf.exists_child with ⟨value, child, _⟩
    exact ⟨value, child⟩

theorem same_of_sameLeaves {expected actual : Node} (accepted : Accepted expected)
    (otherAccepted : Accepted actual) (same : SameLeaves expected actual) :
    Same expected actual := by
  have every := accepted.readable
  -- The induction is on the expected document; the leaves fix the kind of the other node.
  induction every generalizing actual with
  | @intro node _ _ ih =>
      have children {segment : Segment} {value other : Node} (child : Child node segment value)
          (otherChild : Child actual segment other) : Same value other :=
        ih segment value child (accepted.descend child) (otherAccepted.descend otherChild)
          (same.descend accepted.distinct.here otherAccepted.distinct.here child otherChild)
      have steps := same.child_iff accepted otherAccepted
      rcases accepted.exists_leaf with ⟨path, first, leaf⟩
      rcases same.forward _ _ leaf with ⟨second, otherLeaf, alike⟩
      cases leaf with
      | scalar parsed =>
          cases otherLeaf with
          | scalar otherParsed => exact .scalar parsed otherParsed alike
      | child child leaf =>
          rcases otherLeaf.exists_child with ⟨other, otherChild, _⟩
          cases child with
          | entry inside keyed =>
              cases otherChild with
              | entry otherInside otherKeyed =>
                  refine .mapping ?_ fun segment value other => children
                  intro key
                  rw [mem_keyTexts_iff, mem_keyTexts_iff]
                  exact steps (.key key)
          | item found =>
              cases otherChild with
              | item otherFound =>
                  refine .sequence ?_ fun segment value other => children
                  refine eq_of_forall_lt_iff fun index => ?_
                  rw [← child_sequence_iff, ← child_sequence_iff]
                  exact steps (.index index)

/-- Containers with corresponding children that have the same leaves have the same leaves. -/
theorem SameLeaves.of_children {expected actual : Node}
    (container : ∀ tag value, expected ≠ .scalar tag value)
    (otherContainer : ∀ tag value, actual ≠ .scalar tag value)
    (steps : ∀ segment,
      (∃ value, Child expected segment value) ↔ ∃ other, Child actual segment other)
    (children : ∀ segment value other, Child expected segment value →
      Child actual segment other → SameLeaves value other) : SameLeaves expected actual where
  forward := by
    intro path first leaf
    cases leaf with
    | scalar _ => exact absurd rfl (container _ _)
    | child child leaf =>
        rcases (steps _).mp ⟨_, child⟩ with ⟨other, otherChild⟩
        rcases (children _ _ _ child otherChild).forward _ _ leaf with ⟨second, otherLeaf, alike⟩
        exact ⟨second, .child otherChild otherLeaf, alike⟩
  backward := by
    intro path second leaf
    cases leaf with
    | scalar _ => exact absurd rfl (otherContainer _ _)
    | child otherChild leaf =>
        rcases (steps _).mpr ⟨_, otherChild⟩ with ⟨value, child⟩
        rcases (children _ _ _ child otherChild).backward _ _ leaf with ⟨first, otherLeaf, alike⟩
        exact ⟨first, .child child otherLeaf, alike⟩

theorem sameLeaves_of_same {expected actual : Node} (same : Same expected actual) :
    SameLeaves expected actual := by
  induction same with
  | scalar parsed otherParsed alike =>
      constructor
      · intro path first leaf
        cases leaf with
        | scalar again =>
            cases parsed.symm.trans again
            exact ⟨_, .scalar otherParsed, alike⟩
        | child child _ => cases child
      · intro path second leaf
        cases leaf with
        | scalar again =>
            cases otherParsed.symm.trans again
            exact ⟨_, .scalar parsed, alike⟩
        | child child _ => cases child
  | @mapping entries others keys _ ih =>
      refine .of_children (by simp) (by simp) ?_ ih
      rintro (key | index)
      · rw [← mem_keyTexts_iff, ← mem_keyTexts_iff]
        exact keys key
      · constructor <;> rintro ⟨_, ⟨⟩⟩
  | @sequence items others length _ ih =>
      refine .of_children (by simp) (by simp) ?_ ih
      rintro (key | index)
      · constructor <;> rintro ⟨_, ⟨⟩⟩
      · rw [child_sequence_iff, child_sequence_iff, length]

/-- On unambiguous documents with distinct keys the comparison is empty exactly when the
documents have the same shape and equivalent scalars. -/
theorem compare_eq_nil_iff_same {axis : String} {expected actual : Node}
    {expectedMap actualMap : SemanticMap} (distinct : Everywhere DistinctKeys expected)
    (otherDistinct : Everywhere DistinctKeys actual) (unambiguous : Unambiguous expected)
    (otherUnambiguous : Unambiguous actual) (flat : flattenNode "" expected = .ok expectedMap)
    (otherFlat : flattenNode "" actual = .ok actualMap) :
    compareMaps axis expectedMap actualMap = [] ↔ Same expected actual := by
  rw [compareMaps_eq_nil_iff_sameLeaves ⟨distinct, otherDistinct⟩
    ⟨unambiguous, otherUnambiguous⟩ flat otherFlat]
  constructor
  · exact same_of_sameLeaves ⟨unambiguous.readable, distinct, _, _, flat⟩
      ⟨otherUnambiguous.readable, otherDistinct, _, _, otherFlat⟩
  · exact sameLeaves_of_same

/-! ## Concrete documents -/

theorem everywhere_mapping {holds : Node → Prop} {entries : List (Node × Node)}
    (here : holds (.mapping entries)) (below : ∀ entry ∈ entries, Everywhere holds entry.2) :
    Everywhere holds (.mapping entries) := by
  refine .intro here fun segment value child => ?_
  cases child with
  | entry inside _ => exact below _ inside

theorem everywhere_sequence {holds : Node → Prop} {items : List Node}
    (here : holds (.sequence items)) (below : ∀ item ∈ items, Everywhere holds item) :
    Everywhere holds (.sequence items) := by
  refine .intro here fun segment value child => ?_
  cases child with
  | item found => exact below _ (List.mem_of_getElem? found)

theorem exists_of_isOk {document : Node} (success : (flattenNode "" document).isOk = true) :
    ∃ flattened, flattenNode "" document = .ok flattened := by
  cases flat : flattenNode "" document with
  | error failure =>
      rw [flat] at success
      cases success
  | ok flattened => exact ⟨flattened, rfl⟩

/-- A document with one entry. -/
def single (key : String) (value : Node) : Node :=
  .mapping [(.scalar "tag:yaml.org,2002:str" key, value)]

def intNode (text : String) : Node :=
  .scalar "tag:yaml.org,2002:int" text

theorem everywhere_scalar {holds : Node → Prop} {tag value : String}
    (here : holds (.scalar tag value)) : Everywhere holds (.scalar tag value) := by
  refine .intro here fun segment value child => ?_
  cases child

theorem distinctKeys_single {key : String} {value : Node}
    (below : Everywhere DistinctKeys value) : Everywhere DistinctKeys (single key value) :=
  everywhere_mapping ⟨by simp [mappingKey], by simp⟩ (by simpa using below)

/-- A list of start-up objects with one index. -/
def startup (text : String) : Node :=
  single "sdo" (.sequence [intNode text])

theorem distinctKeys_startup (text : String) : Everywhere DistinctKeys (startup text) := by
  refine distinctKeys_single (everywhere_sequence trivial ?_)
  simp only [List.mem_singleton, forall_eq]
  exact everywhere_scalar trivial

theorem unambiguous_startup (text : String) : Unambiguous (startup text) := by
  have keys : keyTexts [(.scalar "tag:yaml.org,2002:str" "sdo", .sequence [intNode text])] =
      ["sdo"] := rfl
  constructor
  · refine everywhere_mapping ⟨by simp, ?_⟩ ?_
    · rw [keys]
      simp only [List.mem_singleton, forall_eq]
      refine ⟨by decide +kernel, fun ends => ?_⟩
      exact absurd ends.getLast? (by decide +kernel)
    · simp only [List.mem_singleton, forall_eq]
      refine everywhere_sequence (by simp [Readable]) ?_
      simp only [List.mem_singleton, forall_eq]
      exact everywhere_scalar trivial
  · intro value child
    have named := mem_keyTexts_iff.mpr ⟨value, child⟩
    rw [keys] at named
    simp at named

/-- An index written in two ways. -/
theorem compare_eq_nil_iff_same_of_startup :
    ∃ expectedMap actualMap,
      flattenNode "" (startup "0x10f1") = .ok expectedMap ∧
      flattenNode "" (startup "4337") = .ok actualMap ∧
      (compareMaps "turn" expectedMap actualMap = [] ↔
        Same (startup "0x10f1") (startup "4337")) := by
  have success : (flattenNode "" (startup "0x10f1")).isOk = true := by decide +kernel
  have otherSuccess : (flattenNode "" (startup "4337")).isOk = true := by decide +kernel
  rcases exists_of_isOk success with ⟨expectedMap, flat⟩
  rcases exists_of_isOk otherSuccess with ⟨actualMap, otherFlat⟩
  exact ⟨expectedMap, actualMap, flat, otherFlat,
    compare_eq_nil_iff_same (distinctKeys_startup _) (distinctKeys_startup _)
      (unambiguous_startup _) (unambiguous_startup _) flat otherFlat⟩

/-- A dotted key and a nested mapping compare equal. -/
theorem different_shapes_compare_equal :
    ¬∀ (axis : String) (expected actual : Node) (expectedMap actualMap : SemanticMap),
      Everywhere DistinctKeys expected → Everywhere DistinctKeys actual →
      flattenNode "" expected = .ok expectedMap → flattenNode "" actual = .ok actualMap →
      compareMaps axis expectedMap actualMap = [] → Same expected actual := by
  intro sound
  have success : (flattenNode "" (single "a.b" (intNode "1"))).isOk = true := by decide +kernel
  rcases exists_of_isOk success with ⟨flattened, flat⟩
  have alike : flattenNode "" (single "a" (single "b" (intNode "1"))) =
      flattenNode "" (single "a.b" (intNode "1")) := by
    rfl
  have empty : compareMaps "turn" flattened flattened = [] := by
    have refl (scalar : Scalar) : equivalent scalar scalar = true := by simp [equivalent]
    rw [compareMaps_eq_nil_iff]
    exact ⟨fun key first found => ⟨first, found, refl first⟩,
      fun key second found => ⟨second, found, refl second⟩⟩
  have distinct (key : String) : Everywhere DistinctKeys (single key (intNode "1")) :=
    distinctKeys_single (everywhere_scalar trivial)
  have same := sound "turn" _ _ flattened flattened (distinct "a.b")
    (distinctKeys_single (distinct "b")) flat (alike.trans flat) empty
  cases same with
  | mapping keys _ =>
      have nested := (keys "a").mpr (by decide +kernel)
      revert nested
      decide +kernel

end RtControl.DiffLegacy
