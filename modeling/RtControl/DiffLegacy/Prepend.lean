import RtControl.DiffLegacy.Overlay
import Mathlib.Data.Set.Finite.List

/-!
# The overlay as a list prepend

The shift of the keys has an inverse on the spelled paths, so the overlay can be looked up in the
flattened document.  Every part of the document then flattens to what the shift of its keys says,
except a hidden list.
-/

namespace RtControl.DiffLegacy

open RtControl.Codec

/-! ## Looking up the overlay -/

/-- The key that is shifted to a key. -/
def unshiftedKey (key : String) : Option String :=
  match matchSdoKey key with
  | none => some key
  | some (0, _) => none
  | some (index + 1, rest) =>
      if key = sdoKey (index + 1) rest then some (sdoKey index rest) else none

/-- A key that is spelled like a path if it matches. -/
def Canonical (key : String) : Prop :=
  ∀ index rest, matchSdoKey key = some (index, rest) → key = sdoKey index rest

theorem canonical_sdoKey {index : Nat} {rest : String} (line : '\n' ∉ rest.toList) :
    Canonical (sdoKey index rest) := by
  intro other otherRest matched
  rw [matchSdoKey_sdoKey line] at matched
  cases matched
  rfl

theorem shiftedKey_sdoKey {index : Nat} {rest : String} (line : '\n' ∉ rest.toList) :
    shiftedKey (sdoKey index rest) = sdoKey (index + 1) rest := by
  rw [shiftedKey, matchSdoKey_sdoKey line]

theorem unshiftedKey_of_unmatched {key : String} (unmatched : matchSdoKey key = none) :
    unshiftedKey key = some key := by
  rw [unshiftedKey, unmatched]

theorem unshiftedKey_sdoKey_succ {index : Nat} {rest : String} (line : '\n' ∉ rest.toList) :
    unshiftedKey (sdoKey (index + 1) rest) = some (sdoKey index rest) := by
  simp only [unshiftedKey, matchSdoKey_sdoKey line, if_true]

/-- The shift is injective on the spelled paths. -/
theorem shiftedKey_eq_iff {key shifted : String} (canonical : Canonical key) :
    shiftedKey key = shifted ↔ unshiftedKey shifted = some key := by
  constructor
  · rintro rfl
    cases matched : matchSdoKey key with
    | none =>
        rw [shiftedKey, matched]
        exact unshiftedKey_of_unmatched matched
    | some found =>
        obtain ⟨index, rest⟩ := found
        have line := line_of_matchSdoKey matched
        rw [canonical index rest matched, shiftedKey_sdoKey line, unshiftedKey_sdoKey_succ line]
  · intro unshifted
    unfold unshiftedKey at unshifted
    split at unshifted
    next unmatched =>
      cases unshifted
      rw [shiftedKey, unmatched]
    next => contradiction
    next index rest matched =>
      split_ifs at unshifted with spelled
      cases unshifted
      rw [shiftedKey_sdoKey (line_of_matchSdoKey matched), spelled]

/-- The dictionary of the new entry. -/
def tolerance (valueType : String) : SemanticMap :=
  (toleranceItems valueType).foldl (fun expected item => AList.insert item.1 item.2 expected) ∅

theorem foldl_insert_union {items : List (String × Scalar)} {first second : SemanticMap} :
    items.foldl (fun expected item => AList.insert item.1 item.2 expected) (first ∪ second) =
      items.foldl (fun expected item => AList.insert item.1 item.2 expected) first ∪ second := by
  induction items generalizing first with
  | nil => rfl
  | cons item items ih => rw [List.foldl_cons, List.foldl_cons, ← ih, AList.insert_union]

/-- The dictionary with the shifted keys. -/
def shiftedMap (entries : List (Sigma fun _ : String => Scalar)) : SemanticMap :=
  entries.foldr (fun entry expected => AList.insert (shiftedKey entry.1) entry.2 expected) ∅

theorem prependSyncTolerance_eq {profile : SemanticMap} {valueType : String} :
    prependSyncTolerance profile valueType =
      tolerance valueType ∪ shiftedMap profile.entries := by
  rw [tolerance, ← foldl_insert_union, AList.empty_union]
  rfl

theorem lookup_shiftedMap {entries : List (Sigma fun _ : String => Scalar)}
    (canonical : ∀ entry ∈ entries, Canonical entry.1) (key : String) :
    (shiftedMap entries).lookup key =
      (unshiftedKey key).bind fun own => entries.dlookup own := by
  induction entries with
  | nil => cases unshiftedKey key <;> rfl
  | cons entry entries ih =>
      obtain ⟨first, rest⟩ := List.forall_mem_cons.mp canonical
      have shift : shiftedKey entry.1 = key ↔ unshiftedKey key = some entry.1 :=
        shiftedKey_eq_iff first
      rw [shiftedMap, List.foldr_cons]
      by_cases same : shiftedKey entry.1 = key
      · rw [shift.mp same, ← same, AList.lookup_insert]
        exact (List.dlookup_cons_eq entries entry.1 entry.2).symm
      · rw [AList.lookup_insert_ne (Ne.symm same)]
        refine (ih rest).trans (Option.bind_congr fun own unshifted => ?_)
        refine (List.dlookup_cons_ne entries entry fun other => same (shift.mpr ?_)).symm
        rw [← other]
        exact unshifted

theorem mem_shiftedMap {entries : List (Sigma fun _ : String => Scalar)}
    {entry : Sigma fun _ : String => Scalar} (inside : entry ∈ entries) :
    shiftedKey entry.1 ∈ shiftedMap entries := by
  induction inside with
  | head entries => exact (AList.mem_insert _).mpr (.inl rfl)
  | tail other _ ih => exact (AList.mem_insert _).mpr (.inr ih)

/-- What the overlay says about a key. -/
theorem lookup_prependSyncTolerance {profile : SemanticMap}
    (canonical : ∀ key ∈ profile, Canonical key) (valueType key : String) :
    (prependSyncTolerance profile valueType).lookup key =
      ((tolerance valueType).lookup key).or ((unshiftedKey key).bind profile.lookup) := by
  rw [prependSyncTolerance_eq, lookup_union, lookup_shiftedMap fun entry inside => ?_]
  · rfl
  · exact canonical _ (AList.mem_keys.mpr (List.mem_keys_of_mem inside))

/-- No entry gets lost. -/
theorem shiftedKey_mem_prependSyncTolerance {profile : SemanticMap} {key : String}
    (inside : key ∈ profile) (valueType : String) :
    shiftedKey key ∈ prependSyncTolerance profile valueType := by
  obtain ⟨scalar, entry⟩ := List.exists_of_mem_keys (AList.mem_keys.mp inside)
  rw [prependSyncTolerance_eq]
  exact AList.mem_union.mpr (.inr (mem_shiftedMap entry))

/-- The keys of the new entry are those of the first start-up object. -/
theorem exists_of_mem_tolerance {valueType key : String} (inside : key ∈ tolerance valueType) :
    ∃ rest, '\n' ∉ rest.toList ∧ key = sdoKey 0 rest := by
  simp only [tolerance, toleranceItems, List.foldl_cons, List.foldl_nil, AList.mem_insert,
    AList.notMem_empty, or_false] at inside
  rcases inside with rfl | rfl | rfl | rfl
  · exact ⟨".value", by decide, rfl⟩
  · exact ⟨".type", by decide, rfl⟩
  · exact ⟨".sub_index", by decide, rfl⟩
  · exact ⟨".index", by decide, rfl⟩

/-! ## Parts of the document -/

/-- A flattened part and the same part with the new entry before the start-up objects. -/
structure Shifted (valueType : String) (flattened other : SemanticMap) : Prop where
  canonical : ∀ key ∈ flattened, Canonical key
  moved : ∀ key ∉ tolerance valueType,
    other.lookup key = (unshiftedKey key).bind flattened.lookup
  first : ∀ key ∈ tolerance valueType, key ∈ other →
    other.lookup key = (tolerance valueType).lookup key

theorem mem_of_lookup {flattened : SemanticMap} {key : String} {scalar : Scalar}
    (found : flattened.lookup key = some scalar) : key ∈ flattened :=
  AList.lookup_isSome.mp (Option.isSome_iff_exists.mpr ⟨scalar, found⟩)

/-- A dictionary that has the shifted keys of another one. -/
theorem lookup_eq_bind {flattened other : SemanticMap} {key : String}
    (canonical : ∀ key ∈ flattened, Canonical key)
    (shifted : ∀ scalar, other.lookup key = some scalar ↔
      ∃ own, shiftedKey own = key ∧ flattened.lookup own = some scalar) :
    other.lookup key = (unshiftedKey key).bind flattened.lookup := by
  refine Option.ext fun scalar => ?_
  rw [shifted, Option.bind_eq_some_iff]
  refine exists_congr fun own => and_congr_left fun found => ?_
  exact shiftedKey_eq_iff (canonical own (mem_of_lookup found))

section Shifted

variable {valueType : String}

theorem Shifted.empty : Shifted valueType ∅ ∅ where
  canonical := fun key inside => absurd inside (AList.notMem_empty key)
  moved := by
    intro key _
    cases unshiftedKey key <;> rfl
  first := fun key _ inside => absurd inside (AList.notMem_empty key)

theorem Shifted.union : UnionClosed (Shifted valueType) := by
  intro child otherChild flattened other part rest
  constructor
  · intro key inside
    exact (AList.mem_union.mp inside).elim (part.canonical key) (rest.canonical key)
  · intro key outside
    rw [lookup_union, part.moved key outside, rest.moved key outside]
    cases unshiftedKey key with
    | none => rfl
    | some own => exact lookup_union.symm
  · intro key first inside
    by_cases ofPart : key ∈ otherChild
    · rw [AList.lookup_union_left ofPart]
      exact part.first key first ofPart
    · rw [AList.lookup_union_right ofPart]
      exact rest.first key first ((AList.mem_union.mp inside).resolve_left ofPart)

/-- A part without start-up objects is not shifted. -/
theorem Shifted.of_unmatched {flattened : SemanticMap}
    (unmatched : ∀ key ∈ flattened, matchSdoKey key = none) :
    Shifted valueType flattened flattened := by
  have canonical : ∀ key ∈ flattened, Canonical key := by
    intro key inside index rest matched
    rw [unmatched key inside] at matched
    contradiction
  constructor
  · exact canonical
  · intro key _
    refine lookup_eq_bind canonical fun scalar => ⟨fun found => ⟨key, ?_, found⟩, ?_⟩
    · rw [shiftedKey, unmatched key (mem_of_lookup found)]
    · rintro ⟨own, shifted, found⟩
      rw [shiftedKey, unmatched own (mem_of_lookup found)] at shifted
      rwa [← shifted]
  · intro key first inside
    obtain ⟨rest, line, rfl⟩ := exists_of_mem_tolerance first
    have matched : matchSdoKey (sdoKey 0 rest) = some (0, rest) := matchSdoKey_sdoKey line
    rw [unmatched _ inside] at matched
    contradiction

/-- The objects of a list are shifted. -/
theorem Shifted.of_moved {index : Nat} {flattened other : SemanticMap}
    (moved : Moved (indexPrefix "sdo" index) (indexPrefix "sdo" (index + 1)) flattened other)
    (lines : ∀ rest, sdoKey index rest ∈ flattened → '\n' ∉ rest.toList) :
    Shifted valueType flattened other := by
  have canonical : ∀ key ∈ flattened, Canonical key := by
    intro key inside
    obtain ⟨rest, rfl⟩ := moved.own key inside
    exact canonical_sdoKey (lines rest inside)
  have back {key : String} {scalar : Scalar} (found : other.lookup key = some scalar) :
      ∃ rest, '\n' ∉ rest.toList ∧ key = sdoKey (index + 1) rest ∧
        flattened.lookup (sdoKey index rest) = some scalar := by
    obtain ⟨rest, rfl⟩ := moved.moved key (mem_of_lookup found)
    rw [moved.same] at found
    exact ⟨rest, lines rest (mem_of_lookup found), rfl, found⟩
  constructor
  · exact canonical
  · intro key _
    refine lookup_eq_bind canonical fun scalar => ⟨fun found => ?_, ?_⟩
    · obtain ⟨rest, line, rfl, ownFound⟩ := back found
      exact ⟨_, shiftedKey_sdoKey line, ownFound⟩
    · rintro ⟨own, rfl, found⟩
      obtain ⟨rest, rfl⟩ := moved.own own (mem_of_lookup found)
      have shifted : shiftedKey (indexPrefix "sdo" index ++ rest) =
          indexPrefix "sdo" (index + 1) ++ rest :=
        shiftedKey_sdoKey (lines rest (mem_of_lookup found))
      rw [shifted, moved.same, found]
  · intro key first inside
    obtain ⟨rest, line, rfl⟩ := exists_of_mem_tolerance first
    obtain ⟨scalar, found⟩ := Option.isSome_iff_exists.mp (AList.lookup_isSome.mpr inside)
    obtain ⟨otherRest, otherLine, same, -⟩ := back found
    exact absurd (sdoKey_inj line otherLine same).1 (by omega)

/-- The new entry. -/
theorem Shifted.of_tolerance : Shifted valueType ∅ (tolerance valueType ∪ ∅) where
  canonical := fun key inside => absurd inside (AList.notMem_empty key)
  moved := by
    intro key outside
    rw [AList.union_empty, AList.lookup_eq_none.mpr outside]
    cases unshiftedKey key <;> rfl
  first := by
    intro key first _
    rw [AList.lookup_union_left first]

end Shifted

/-! ## Paths into a document -/

/-- The paths of unmarked keys stay on one line. -/
theorem Leaf.line {node : Node} {steps : List Segment} {scalar : Scalar}
    (leaf : Leaf node steps scalar) (unmarked : Everywhere Unmarked node) :
    '\n' ∉ (continuation steps).toList := by
  induction leaf with
  | scalar _ => decide
  | child child leaf ih =>
      have rest := ih (unmarked.descend child)
      cases child with
      | entry inside keyed =>
          have named := unmarked.here _ (mem_keyTexts_iff.mpr ⟨_, .entry inside keyed⟩)
          simp [continuation, named.2.2, rest]
      | @item items index item found =>
          have digits : '\n' ∉ (toString index).toList := fun inside =>
            notMem_index rfl (by decide) (List.mem_append_left [']'] inside)
          simp only [continuation, String.toList_append, List.mem_append, not_or]
          exact ⟨⟨⟨by decide, digits⟩, by decide⟩, rest⟩

/-- A path into an item continues with its index. -/
theorem spell_sdo_index (index : Nat) (steps : List Segment) :
    spell "sdo" (.index index :: steps) = sdoKey index (continuation steps) := by
  rw [spell_cons, spell_eq_append (by simp [Segment.extend])]
  rfl

/-- A path that goes on without an index does not match. -/
theorem matchSdoKey_sdo_of_key {steps : List Segment}
    (unindexed : ∀ index rest, steps ≠ .index index :: rest) :
    matchSdoKey (spell "sdo" steps) = none := by
  by_contra matching
  obtain ⟨⟨index, rest⟩, matched⟩ := Option.ne_none_iff_exists'.mp matching
  obtain ⟨text, named⟩ := toList_of_matchSdoKey matched
  rw [spell_eq_append (by decide), String.toList_append] at named
  cases steps with
  | nil => simp [continuation] at named
  | cons segment steps =>
      cases segment with
      | key other => simp [continuation] at named
      | index position => exact unindexed position steps rfl

/-- A matching path leads into a list. -/
theorem Leaf.exists_list {node : Node} {steps : List Segment} {scalar : Scalar}
    (leaf : Leaf node steps scalar) (unmarked : Everywhere Unmarked node)
    (matching : matchSdoKey (spell "" steps) ≠ none) :
    ∃ items rest, Hidden node items ∧ Leaf (.sequence items) rest scalar ∧
      spell "sdo" rest = spell "" steps := by
  induction leaf with
  | scalar _ => exact absurd rfl matching
  | @child node value segment steps scalar child leaf ih =>
      cases segment with
      | index position =>
          obtain ⟨⟨other, rest⟩, matched⟩ := Option.ne_none_iff_exists'.mp matching
          obtain ⟨text, named⟩ := toList_of_matchSdoKey matched
          rw [spell_cons, spell_eq_append (by simp [Segment.extend])] at named
          simp [Segment.extend] at named
      | key text =>
          by_cases empty : text = ""
          · subst empty
            obtain ⟨items, rest, hidden, inside, spelled⟩ := ih (unmarked.descend child) matching
            exact ⟨items, rest, .descend child hidden, inside, spelled⟩
          by_cases named : text = "sdo"
          · subst named
            by_cases indexed : ∃ index rest, steps = .index index :: rest
            · obtain ⟨index, rest, rfl⟩ := indexed
              cases leaf with
              | child inside below =>
                  cases inside with
                  | item found =>
                      exact ⟨_, _, .here child, .child (.item found) below, rfl⟩
            · refine absurd (matchSdoKey_sdo_of_key ?_) matching
              exact fun index rest same => indexed ⟨index, rest, same⟩
          · cases child with
            | entry inside keyed =>
                have marks := unmarked.here _ (mem_keyTexts_iff.mpr ⟨_, .entry inside keyed⟩)
                have spelled : spell "" (.key text :: steps) = text ++ continuation steps :=
                  spell_eq_append empty steps
                rw [spelled] at matching
                exact absurd (matchSdoKey_of_other marks.1 marks.2.1 named steps) matching

/-- A list is found at a path. -/
theorem Hidden.exists_leaf {node : Node} {items : List Node} {steps : List Segment}
    {scalar : Scalar} (hidden : Hidden node items) (leaf : Leaf (.sequence items) steps scalar) :
    ∃ path, Leaf node path scalar ∧ spell "" path = spell "sdo" steps := by
  induction hidden with
  | here child => exact ⟨_, .child child leaf, rfl⟩
  | descend child _ ih =>
      obtain ⟨path, inside, spelled⟩ := ih leaf
      exact ⟨_, .child child inside, spelled⟩

theorem Hidden.descend_everywhere {holds : Node → Prop} {node : Node} {items : List Node}
    (hidden : Hidden node items) (every : Everywhere holds node) :
    Everywhere holds (.sequence items) := by
  induction hidden with
  | here child => exact every.descend child
  | descend child _ ih => exact ih (every.descend child)

/-! ## The root -/

theorem flattenNode_toleranceNode (valueType : String) :
    flattenNode (indexPrefix "sdo" 0) (toleranceNode valueType) = .ok (tolerance valueType) := by
  rfl

section Root

variable {valueType : String}

theorem flattenNode_sdo {items : List Node} (unmarked : Everywhere Unmarked (.sequence items)) :
    Alike (Shifted valueType) (flattenNode "sdo" (.sequence items))
      (flattenNode "sdo" (.sequence (toleranceNode valueType :: items))) := by
  rw [flattenNode, flattenNode, flattenItems, flattenNode_toleranceNode]
  refine flattenItems_alike Shifted.union (fun offset item found => ?_) Shifted.of_tolerance
  have every := unmarked.descend (.item found)
  rw [Nat.zero_add, Nat.zero_add, Nat.add_comm]
  have parts : Alike (Moved (indexPrefix "sdo" offset) (indexPrefix "sdo" (offset + 1))) _ _ :=
    flattenNode_moved every (by simp [indexPrefix]) (by simp [indexPrefix])
  refine parts.mono fun flattened other flat _ moved => .of_moved moved fun rest inside => ?_
  obtain ⟨scalar, present⟩ := Option.isSome_iff_exists.mp (AList.lookup_isSome.mpr inside)
  obtain ⟨steps, leaf, spelled⟩ := exists_leaf_of_lookup every flat present
  rw [spell_eq_append (by simp [indexPrefix])] at spelled
  rw [← (String.append_right_inj _).mp spelled]
  exact leaf.line every

/-- The other parts of the root have no start-up objects. -/
theorem flattenNode_other {entries : List (Node × Node)} {key : String} {value : Node}
    (unmarked : Everywhere Unmarked (.mapping entries)) (unhidden : Unhidden entries)
    (child : Child (.mapping entries) (.key key) value) (other : key ≠ "sdo") :
    Alike (Shifted valueType) (flattenNode key value) (flattenNode key value) := by
  cases flat : flattenNode key value with
  | error failure => exact .error failure
  | ok flattened =>
      refine .ok (.of_unmatched fun found inside => ?_)
      obtain ⟨scalar, present⟩ := Option.isSome_iff_exists.mp (AList.lookup_isSome.mpr inside)
      have every := unmarked.descend child
      obtain ⟨steps, leaf, rfl⟩ := exists_leaf_of_lookup every flat present
      by_cases empty : key = ""
      · subst empty
        by_contra matching
        obtain ⟨items, rest, hidden, below, _⟩ := leaf.exists_list every matching
        exact unhidden value items rest scalar child hidden below
      · have marks := unmarked.here key (mem_keyTexts_iff.mpr ⟨value, child⟩)
        rw [spell_eq_append empty]
        exact matchSdoKey_of_other marks.1 marks.2.1 other steps

theorem flattenEntries_append {path : String} {front back : List (Node × Node)}
    {flattened : SemanticMap} :
    flattenEntries path (front ++ back) flattened =
      flattenEntries path front flattened >>= flattenEntries path back := by
  induction front generalizing flattened with
  | nil => rfl
  | cons entry front ih =>
      simp only [List.cons_append, flattenEntries, ih, bind_assoc]

theorem mappingKey_of_isSdo {entry : Node × Node} (named : isSdo entry = true) :
    mappingKey entry.1 = .ok "sdo" := by
  cases keyed : mappingKey entry.1 with
  | error failure => simp [isSdo, keyed, Except.toOption] at named
  | ok key => simpa [isSdo, keyed, Except.toOption] using named

theorem isSdo_iff {entry : Node × Node} {key : String} (keyed : mappingKey entry.1 = .ok key) :
    isSdo entry = true ↔ key = "sdo" := by
  simp [isSdo, keyed, Except.toOption]

/-- A changed entry is a list of start-up objects with the new one at its head. -/
theorem prependItem_of_isSdo {entries : List (Node × Node)} (overlayable : Overlayable entries)
    {entry : Node × Node} (inside : entry ∈ entries) (named : isSdo entry = true)
    (valueType : String) :
    ∃ items, entry.2 = .sequence items ∧
      prependItem valueType entry = (entry.1, .sequence (toleranceNode valueType :: items)) := by
  obtain ⟨items, listed⟩ :=
    overlayable.listed entry.2 (.entry inside (mappingKey_of_isSdo named))
  obtain ⟨keyNode, value⟩ := entry
  cases listed
  exact ⟨items, rfl, by rw [prependItem, if_pos named]⟩

theorem prependItem_of_other {entry : Node × Node} (other : ¬isSdo entry = true) :
    prependItem valueType entry = entry := by
  unfold prependItem
  split
  next => rw [if_neg other]
  next => rfl

/-- The document and the one with the new entry flatten alike. -/
theorem flattenNode_prependTolerance {entries : List (Node × Node)}
    (overlayable : Overlayable entries) (unhidden : Unhidden entries) :
    Alike (Shifted valueType) (flattenNode "" (.mapping entries))
      (flattenNode "" (.mapping (prependTolerance valueType entries))) := by
  have others {entry : Node × Node} (inside : entry ∈ entries) (other : ¬isSdo entry = true)
      (key : String) (keyed : mappingKey entry.1 = .ok key) :
      Alike (Shifted valueType) (flattenNode key entry.2) (flattenNode key entry.2) :=
    flattenNode_other overlayable.unmarked unhidden (.entry inside keyed)
      fun named => other ((isSdo_iff keyed).mpr named)
  rw [flattenNode, flattenNode, prependTolerance]
  split
  next =>
    refine flattenEntries_alike Shifted.union ?_ Shifted.empty
    rw [List.forall₂_map_right_iff, List.forall₂_same]
    intro entry inside
    by_cases named : isSdo entry = true
    · obtain ⟨items, listed, changed⟩ := prependItem_of_isSdo overlayable inside named valueType
      refine ⟨by rw [changed], fun key keyed => ?_⟩
      cases (isSdo_iff keyed).mp named
      have every := overlayable.unmarked.descend (.entry inside keyed)
      rw [changed, listed]
      rw [listed] at every
      exact flattenNode_sdo every
    · rw [prependItem_of_other named]
      exact ⟨rfl, others inside named⟩
  next missing =>
    have absent : ∀ entry ∈ entries, ¬isSdo entry = true := by
      simpa using missing
    have front : Alike (Shifted valueType) (flattenEntries "" entries ∅)
        (flattenEntries "" entries ∅) := by
      refine flattenEntries_alike Shifted.union ?_ Shifted.empty
      exact List.forall₂_same.mpr fun entry inside => ⟨rfl, others inside (absent entry inside)⟩
    rw [flattenEntries_append]
    cases flat : flattenEntries "" entries ∅ with
    | error failure => exact .error failure
    | ok flattened =>
        rw [flat] at front
        have added : ((.ok flattened : Except Failure SemanticMap) >>=
            flattenEntries "" [(textNode "sdo", .sequence [toleranceNode valueType])]) =
              .ok (tolerance valueType ∪ ∅ ∪ flattened) := rfl
        have shifted : Shifted valueType flattened flattened := by
          cases front with
          | ok shifted => exact shifted
        have united := Shifted.union _ _ _ _ Shifted.of_tolerance shifted
        rw [AList.empty_union] at united
        rw [added]
        exact .ok united

theorem mem_of_child {path key : String} {node value : Node} {segment : Segment}
    {flattened part : SemanticMap} (flat : flattenNode path node = .ok flattened)
    (child : Child node segment value)
    (flatPart : flattenNode (segment.extend path) value = .ok part) (inside : key ∈ part) :
    key ∈ flattened := by
  have container : ∀ tag text, node ≠ .scalar tag text := by
    rintro tag text rfl
    cases child
  exact (flattenNode_collected flat container).kept
    (.inr ⟨part, ⟨segment, value, child, flatPart⟩, inside⟩)

/-- The list of start-up objects has the new one at its head. -/
theorem exists_child_sdo {entries : List (Node × Node)} (overlayable : Overlayable entries)
    (valueType : String) :
    ∃ items, Child (.mapping (prependTolerance valueType entries)) (.key "sdo")
      (.sequence (toleranceNode valueType :: items)) := by
  rw [prependTolerance]
  split
  next some =>
    obtain ⟨entry, inside, named⟩ := List.any_eq_true.mp some
    obtain ⟨items, _, changed⟩ := prependItem_of_isSdo overlayable inside named valueType
    exact ⟨items, .entry (List.mem_map.mpr ⟨entry, inside, changed⟩) (mappingKey_of_isSdo named)⟩
  next =>
    exact ⟨[], .entry (List.mem_append_right _ (List.mem_singleton_self _)) rfl⟩

/-- The other children are those of the document. -/
theorem child_prependTolerance {entries : List (Node × Node)} (overlayable : Overlayable entries)
    {key : String} {value : Node}
    (child : Child (.mapping (prependTolerance valueType entries)) (.key key) value) :
    Child (.mapping entries) (.key key) value ∧ key ≠ "sdo" ∨
      key = "sdo" ∧ ∃ items, value = .sequence (toleranceNode valueType :: items) ∧
        (items = [] ∨ Child (.mapping entries) (.key "sdo") (.sequence items)) := by
  cases child with
  | entry listed keyed =>
      rw [prependTolerance] at listed
      split at listed
      next =>
        obtain ⟨entry, inside, changed⟩ := List.mem_map.mp listed
        by_cases named : isSdo entry = true
        · obtain ⟨items, sequence, own⟩ := prependItem_of_isSdo overlayable inside named valueType
          cases changed.symm.trans own
          have same := (isSdo_iff keyed).mp named
          refine .inr ⟨same, items, rfl, .inr ?_⟩
          rw [← sequence]
          exact .entry inside (mappingKey_of_isSdo named)
        · rw [prependItem_of_other named] at changed
          subst changed
          exact .inl ⟨.entry inside keyed, fun same => named ((isSdo_iff keyed).mpr same)⟩
      next missing =>
        rcases List.mem_append.mp listed with inside | added
        · refine .inl ⟨.entry inside keyed, fun same => missing ?_⟩
          exact List.any_eq_true.mpr ⟨_, inside, (isSdo_iff keyed).mpr same⟩
        · cases List.mem_singleton.mp added
          cases keyed
          exact .inr ⟨rfl, [], rfl, .inl rfl⟩

theorem unmarked_toleranceNode : Everywhere Unmarked (toleranceNode valueType) := by
  refine everywhere_mapping ?_ ?_
  · have keys : keyTexts [(textNode "index", intNode "0x10f1"), (textNode "sub_index", intNode "2"),
        (textNode "type", textNode valueType), (textNode "value", intNode "250")] =
          ["index", "sub_index", "type", "value"] := rfl
    intro key inside
    rw [keys] at inside
    revert key
    decide
  · intro entry inside
    simp only [List.mem_cons, List.not_mem_nil, or_false] at inside
    rcases inside with rfl | rfl | rfl | rfl <;> exact everywhere_scalar trivial

theorem unmarked_prependTolerance {entries : List (Node × Node)}
    (overlayable : Overlayable entries) (valueType : String) :
    Everywhere Unmarked (.mapping (prependTolerance valueType entries)) := by
  refine .intro ?_ fun segment value child => ?_
  · intro key named
    obtain ⟨value, child⟩ := mem_keyTexts_iff.mp named
    rcases child_prependTolerance overlayable child with ⟨own, _⟩ | ⟨rfl, _⟩
    · exact overlayable.unmarked.here key (mem_keyTexts_iff.mpr ⟨value, own⟩)
    · decide
  · cases child with
    | entry inside keyed =>
        rcases child_prependTolerance overlayable (.entry inside keyed) with
          ⟨own, _⟩ | ⟨rfl, items, rfl, below⟩
        · exact overlayable.unmarked.descend own
        · refine everywhere_sequence trivial
            (List.forall_mem_cons.mpr ⟨unmarked_toleranceNode, fun item inside => ?_⟩)
          rcases below with rfl | own
          · contradiction
          · obtain ⟨index, found⟩ := List.mem_iff_getElem?.mp inside
            exact (overlayable.unmarked.descend own).descend (.item found)

/-- A path that spells the key of an object leads into that object. -/
theorem Leaf.exists_item {items : List Node} {steps : List Segment} {scalar : Scalar} {index : Nat}
    {rest : String} (leaf : Leaf (.sequence items) steps scalar)
    (unmarked : Everywhere Unmarked (.sequence items)) (line : '\n' ∉ rest.toList)
    (spelled : spell "sdo" steps = sdoKey index rest) :
    ∃ item tail, items[index]? = some item ∧ Leaf item tail scalar ∧ continuation tail = rest := by
  cases leaf with
  | @child _ item segment tail _ child below =>
      have unmarkedItem := unmarked.descend child
      cases child with
      | item found =>
          rw [spell_sdo_index] at spelled
          obtain ⟨rfl, same⟩ := sdoKey_inj (below.line unmarkedItem) line spelled
          exact ⟨item, tail, found, below, same⟩

/-! ## The overlay of the document -/

/-- Without hidden lists the overlay is a list prepend. -/
theorem prependsTolerance_of_unhidden {entries : List (Node × Node)}
    (overlayable : Overlayable entries) (unhidden : Unhidden entries) :
    PrependsTolerance entries valueType := by
  refine Alike.map_eq ((flattenNode_prependTolerance overlayable unhidden).mono ?_)
  intro flattened other _ flat shifted
  funext key
  rw [lookup_prependSyncTolerance shifted.canonical]
  by_cases first : key ∈ tolerance valueType
  · obtain ⟨items, child⟩ := exists_child_sdo overlayable valueType
    obtain ⟨part, flatPart⟩ := flattenNode_child flat child
    have inside : key ∈ part :=
      mem_of_child flatPart (.item rfl) (flattenNode_toleranceNode valueType) first
    rw [shifted.first key first (mem_of_child flat child flatPart inside)]
    obtain ⟨scalar, found⟩ := Option.isSome_iff_exists.mp (AList.lookup_isSome.mpr first)
    rw [found, Option.some_or]
  · rw [AList.lookup_eq_none.mpr first, Option.none_or, shifted.moved key first]

/-- A scalar of a hidden list has the path. -/
def HiddenAt (entries : List (Node × Node)) (index : Nat) (rest : String) : Prop :=
  ∃ value items steps scalar, Child (.mapping entries) (.key "") value ∧ Hidden value items ∧
    Leaf (.sequence items) steps scalar ∧ spell "sdo" steps = sdoKey index rest

theorem mem_of_hiddenAt {entries : List (Node × Node)} {index : Nat} {rest : String}
    {flattened : SemanticMap} (hidden : HiddenAt entries index rest)
    (flat : flattenNode "" (.mapping entries) = .ok flattened) :
    sdoKey index rest ∈ flattened := by
  obtain ⟨value, items, steps, scalar, child, below, leaf, spelled⟩ := hidden
  obtain ⟨path, inside, same⟩ := (Hidden.descend child below).exists_leaf leaf
  rw [← spelled, ← same]
  exact spell_mem_of_leaf inside flat

/-- The overlay shifts a hidden object, and only another one can take its place. -/
theorem hiddenAt_succ {entries : List (Node × Node)} {index : Nat} {rest : String}
    {flattened : SemanticMap} (overlayable : Overlayable entries) (separate : Separate entries)
    (prepends : PrependsTolerance entries valueType) (line : '\n' ∉ rest.toList)
    (flat : flattenNode "" (.mapping entries) = .ok flattened)
    (hidden : HiddenAt entries index rest) : HiddenAt entries (index + 1) rest := by
  rw [PrependsTolerance, flat] at prepends
  cases otherFlat : flattenNode "" (.mapping (prependTolerance valueType entries)) with
  | error failure =>
      rw [otherFlat] at prepends
      cases prepends
  | ok other =>
      rw [otherFlat] at prepends
      have shifted := shiftedKey_mem_prependSyncTolerance (mem_of_hiddenAt hidden flat) valueType
      rw [shiftedKey_sdoKey line] at shifted
      obtain ⟨scalar, found⟩ := Option.isSome_iff_exists.mp (AList.lookup_isSome.mpr shifted)
      have same := congrFun (Except.ok.inj prepends) (sdoKey (index + 1) rest)
      have unmarked := unmarked_prependTolerance overlayable valueType
      obtain ⟨path, leaf, spelled⟩ :=
        exists_leaf_of_lookup unmarked otherFlat (same.symm.trans found)
      have matching : matchSdoKey (spell "" path) ≠ none := by
        rw [spelled, matchSdoKey_sdoKey line]
        exact Option.some_ne_none _
      obtain ⟨items, steps, list, inside, spelledList⟩ := leaf.exists_list unmarked matching
      rw [spelled] at spelledList
      cases list with
      | descend child below =>
          rcases child_prependTolerance overlayable child with ⟨own, _⟩ | ⟨named, _⟩
          · exact ⟨_, items, steps, scalar, own, below, inside, spelledList⟩
          · exact absurd named (by decide)
      | here child =>
          rcases child_prependTolerance overlayable child with ⟨_, other⟩ | ⟨_, items, listed, own⟩
          · exact absurd rfl other
          · cases listed
            obtain ⟨item, tail, there, below, rfl⟩ :=
              inside.exists_item (unmarked.descend child) line spelledList
            rw [List.getElem?_cons_succ] at there
            rcases own with rfl | own
            · contradiction
            · obtain ⟨value, hiddenItems, _, _, empty, list, hiddenLeaf, spelledHidden⟩ := hidden
              have ownLeaf := Leaf.child (.item there) below
              refine absurd ?_ (separate _ _ _ _ _ _ _ own ownLeaf empty list hiddenLeaf)
              rw [spell_sdo_index, spelledHidden]

/-- Without common paths the overlay is a list prepend only if no list is hidden. -/
theorem unhidden_of_prependsTolerance {entries : List (Node × Node)} {flattened : SemanticMap}
    (overlayable : Overlayable entries) (separate : Separate entries)
    (flat : flattenNode "" (.mapping entries) = .ok flattened)
    (prepends : PrependsTolerance entries valueType) : Unhidden entries := by
  intro value items steps scalar child hidden leaf
  have unmarked := hidden.descend_everywhere (overlayable.unmarked.descend child)
  cases leaf with
  | @child _ item segment tail _ inside below =>
      have line := below.line (unmarked.descend inside)
      cases inside with
      | @item _ index _ found =>
          have start : HiddenAt entries index (continuation tail) :=
            ⟨value, items, _, scalar, child, hidden, .child (.item found) below,
              spell_sdo_index index tail⟩
          have every (count : Nat) : HiddenAt entries (index + count) (continuation tail) := by
            induction count with
            | zero => exact start
            | succ count ih => exact hiddenAt_succ overlayable separate prepends line flat ih
          -- The flattened document has finitely many keys.
          have infinite : {key | key ∈ flattened.keys}.Infinite := by
            refine Set.infinite_of_injective_forall_mem
              (f := fun count => sdoKey (index + count) (continuation tail)) ?_ fun count => ?_
            · intro first second same
              exact Nat.add_left_cancel (sdoKey_inj line line same).1
            · exact AList.mem_keys.mp (mem_of_hiddenAt (every count) flat)
          exact infinite flattened.keys.finite_toSet

end Root

theorem child_single {key other : String} {value below : Node}
    (child : Child (.mapping [(textNode key, below)]) (.key other) value) :
    other = key ∧ value = below := by
  cases child with
  | entry inside keyed =>
      cases List.mem_singleton.mp inside
      cases keyed
      exact ⟨rfl, rfl⟩

theorem unmarked_single {key : String} {value : Node}
    (marks : '.' ∉ key.toList ∧ '[' ∉ key.toList ∧ '\n' ∉ key.toList)
    (below : Everywhere Unmarked value) : Everywhere Unmarked (.mapping [(textNode key, value)]) := by
  refine everywhere_mapping (fun other inside => ?_) (fun entry inside => ?_)
  · obtain ⟨child, named⟩ := mem_keyTexts_iff.mp inside
    rw [(child_single named).1]
    exact marks
  · rw [List.mem_singleton.mp inside]
    exact below

/-- The overlay is a list prepend when no list is hidden, and, in a document that flattens and
whose hidden and own lists have no common path, only then. -/
theorem prependsTolerance_iff_unhidden {entries : List (Node × Node)} {valueType : String}
    (overlayable : Overlayable entries) :
    (Unhidden entries → PrependsTolerance entries valueType) ∧
      ∀ flattened, flattenNode "" (.mapping entries) = .ok flattened → Separate entries →
        (PrependsTolerance entries valueType ↔ Unhidden entries) :=
  ⟨prependsTolerance_of_unhidden overlayable, fun _ flat separate =>
    ⟨unhidden_of_prependsTolerance overlayable separate flat,
      prependsTolerance_of_unhidden overlayable⟩⟩

/-- A list with a mapping and a bare number. -/
def listedStartup : List (Node × Node) :=
  [(textNode "sdo", .sequence [single "index" (intNode "0x6060"), intNode "7"])]

theorem overlayable_listedStartup : Overlayable listedStartup where
  unmarked := by
    refine unmarked_single (by decide) (everywhere_sequence trivial ?_)
    simp only [List.mem_cons, List.not_mem_nil, or_false, forall_eq_or_imp, forall_eq]
    exact ⟨unmarked_single (by decide) (everywhere_scalar trivial), everywhere_scalar trivial⟩
  listed := fun _ child => ⟨_, (child_single child).2⟩

theorem prependsTolerance_iff_unhidden_of_startup :
    PrependsTolerance listedStartup "uint16" ∧
      ∃ flattened, flattenNode "" (.mapping listedStartup) = .ok flattened ∧
        (PrependsTolerance listedStartup "uint16" ↔ Unhidden listedStartup) := by
  have unnamed : ∀ value, ¬Child (.mapping listedStartup) (.key "") value :=
    fun value child => absurd (child_single child).1 (by decide)
  have success : (flattenNode "" (.mapping listedStartup)).isOk = true := by decide +kernel
  obtain ⟨flattened, flat⟩ := exists_of_isOk success
  have settled := @prependsTolerance_iff_unhidden _ "uint16" overlayable_listedStartup
  refine ⟨settled.1 fun value _ _ _ child => absurd child (unnamed value), flattened, flat, ?_⟩
  exact settled.2 flattened flat fun _ value _ _ _ _ _ _ _ child => absurd child (unnamed value)

/-- A list under an empty key keeps its index. -/
theorem not_prependsTolerance_of_emptyKey :
    ¬∀ (entries : List (Node × Node)) (valueType : String), Overlayable entries →
      PrependsTolerance entries valueType := by
  intro always
  have unmarkedList : Everywhere Unmarked (startup "1") := by
    refine unmarked_single (by decide) (everywhere_sequence trivial ?_)
    simp only [List.mem_singleton, forall_eq]
    exact everywhere_scalar trivial
  have overlayable : Overlayable [(textNode "", startup "1")] :=
    ⟨unmarked_single (by decide) unmarkedList,
      fun value child => absurd (child_single child).1 (by decide)⟩
  have success : (flattenNode "" (.mapping [(textNode "", startup "1")])).isOk = true := by
    decide +kernel
  obtain ⟨flattened, flat⟩ := exists_of_isOk success
  have separate : Separate [(textNode "", startup "1")] :=
    fun own _ _ _ _ _ _ child => absurd (child_single child).1 (by decide)
  have unhidden := unhidden_of_prependsTolerance overlayable separate flat
    (always _ "uint16" overlayable)
  have list : Child (startup "1") (.key "sdo") (.sequence [intNode "1"]) :=
    .entry List.mem_cons_self rfl
  have first : [intNode "1"][0]? = some (intNode "1") := rfl
  exact unhidden (startup "1") [intNode "1"] _ _ (.entry List.mem_cons_self rfl) (.here list)
    (.child (.item first) (.scalar rfl))

end RtControl.DiffLegacy
