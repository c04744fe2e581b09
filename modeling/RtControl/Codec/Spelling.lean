import Mathlib.Data.List.Basic
import Mathlib.Data.List.Induction

/-!
# Dotted and bracketed paths

A path into a nested value is spelled with a dot before a key and brackets around an
index.  The spelling is unambiguous on the paths whose keys contain no dot, do not end
like an index, and are not empty where the path starts.
-/

namespace RtControl.Codec

/-- One step of a path. -/
inductive Segment where
  | key (text : String)
  | index (position : Nat)
  deriving DecidableEq

/-- A spelled path with one more step. -/
def Segment.extend (spelled : String) : Segment → String
  | .key text => if spelled = "" then text else spelled ++ "." ++ text
  | .index position => spelled ++ "[" ++ toString position ++ "]"

/-- A path spelled after what is already spelled. -/
def spell (spelled : String) (path : List Segment) : String :=
  path.foldl Segment.extend spelled

@[simp]
theorem spell_nil (spelled : String) : spell spelled [] = spelled :=
  rfl

@[simp]
theorem spell_cons (spelled : String) (segment : Segment) (path : List Segment) :
    spell spelled (segment :: path) = spell (segment.extend spelled) path :=
  rfl

@[simp]
theorem spell_concat (spelled : String) (path : List Segment) (segment : Segment) :
    spell spelled (path ++ [segment]) = segment.extend (spell spelled path) := by
  simp [spell]

/-- A text that ends in a bracketed index. -/
def EndsInIndex (text : String) : Prop :=
  ∃ (stem : String) (position : Nat), text = stem ++ "[" ++ toString position ++ "]"

theorem EndsInIndex.getLast? {text : String} (ends : EndsInIndex text) :
    text.toList.getLast? = some ']' := by
  rcases ends with ⟨stem, position, rfl⟩
  rw [String.toList_append]
  exact List.getLast?_concat

/-- A key that cannot be read as more than one step. -/
structure PlainKey (text : String) : Prop where
  noDot : '.' ∉ text.toList
  noIndex : ¬EndsInIndex text

/-- A step whose key, if it has one, is plain. -/
def Segment.Plain : Segment → Prop
  | .key text => PlainKey text
  | .index _ => True

/-- A path of plain steps that does not start with an empty key. -/
structure PlainPath (path : List Segment) : Prop where
  plain : ∀ segment ∈ path, segment.Plain
  started : path.head? ≠ some (.key "")

theorem PlainPath.of_concat {path : List Segment} {segment : Segment}
    (plain : PlainPath (path ++ [segment])) : PlainPath path where
  plain := fun step inside => plain.plain step (List.mem_append_left _ inside)
  started := by
    cases path with
    | nil => simp
    | cons head path => exact plain.started

/-! ## Reading the last step back -/

/-- The last occurrence of a separator splits a list in one way. -/
theorem append_separator_inj {α : Type*} {separator : α} {first second front back : List α}
    (noFront : separator ∉ front) (noBack : separator ∉ back)
    (same : first ++ separator :: front = second ++ separator :: back) :
    first = second ∧ front = back := by
  induction first generalizing second with
  | nil =>
      cases second with
      | nil => exact ⟨rfl, (List.cons_inj_right separator).mp same⟩
      | cons head second =>
          have tails := (List.cons_eq_cons.mp same).2
          exact absurd (tails ▸ List.mem_append_right _ List.mem_cons_self) noFront
  | cons head first ih =>
      cases second with
      | nil =>
          have tails := (List.cons_eq_cons.mp same).2
          exact absurd (tails.symm ▸ List.mem_append_right _ List.mem_cons_self) noBack
      | cons other second =>
          rcases List.cons_eq_cons.mp same with ⟨rfl, tails⟩
          rcases ih tails with ⟨rfl, backs⟩
          exact ⟨rfl, backs⟩

/-- The digits of an index contain no punctuation. -/
theorem notMem_index {position : Nat} {mark : Char} (punctuation : mark.isDigit = false)
    (open_ : mark ≠ ']') : mark ∉ (toString position).toList ++ [']'] := by
  intro inside
  rcases List.mem_append.mp inside with digit | closing
  · rw [Nat.toString_eq_repr, Nat.toList_repr] at digit
    have isDigit := Nat.isDigit_of_mem_toDigits (by decide) (by decide) digit
    rw [punctuation] at isDigit
    cases isDigit
  · exact open_ (List.mem_singleton.mp closing)

theorem toList_index (spelled : String) (position : Nat) :
    ((Segment.index position).extend spelled).toList =
      spelled.toList ++ '[' :: ((toString position).toList ++ [']']) := by
  simp [Segment.extend]

theorem toList_key {spelled : String} (text : String) (continued : spelled ≠ "") :
    ((Segment.key text).extend spelled).toList = spelled.toList ++ '.' :: text.toList := by
  simp [Segment.extend, continued]

theorem endsInIndex_index (spelled : String) (position : Nat) :
    EndsInIndex ((Segment.index position).extend spelled) :=
  ⟨spelled, position, rfl⟩

theorem extend_index_inj {first second : String} {position other : Nat}
    (same : (Segment.index position).extend first = (Segment.index other).extend second) :
    first = second ∧ position = other := by
  rw [← String.toList_inj, toList_index, toList_index] at same
  rcases append_separator_inj (notMem_index (by decide) (by decide))
    (notMem_index (by decide) (by decide)) same with ⟨starts, indices⟩
  have digits := List.append_cancel_right indices
  rw [Nat.toString_eq_repr, Nat.toString_eq_repr, Nat.toList_repr, Nat.toList_repr] at digits
  have positions := congrArg (Nat.ofDigitChars 10 · 0) digits
  rw [Nat.ofDigitChars_ten_toDigits, Nat.ofDigitChars_ten_toDigits] at positions
  exact ⟨String.toList_inj.mp starts, positions⟩

theorem extend_key_inj {first second text other : String} (plain : PlainKey text)
    (plainOther : PlainKey other) (continued : first ≠ "") (continuedOther : second ≠ "")
    (same : (Segment.key text).extend first = (Segment.key other).extend second) :
    first = second ∧ text = other := by
  rw [← String.toList_inj, toList_key _ continued, toList_key _ continuedOther] at same
  rcases append_separator_inj plain.noDot plainOther.noDot same with ⟨starts, texts⟩
  exact ⟨String.toList_inj.mp starts, String.toList_inj.mp texts⟩

/-- A plain key does not end a path like an index does. -/
theorem extend_key_ne_extend_index {first second text : String} {position : Nat}
    (plain : PlainKey text) :
    (Segment.key text).extend first ≠ (Segment.index position).extend second := by
  intro same
  by_cases start : first = ""
  · rw [Segment.extend, if_pos start] at same
    exact plain.noIndex (same ▸ endsInIndex_index second position)
  · rw [← String.toList_inj, toList_key _ start, toList_index, ← List.singleton_append,
      ← List.append_assoc] at same
    -- Either the index lies within the key, or the dot lies within the index.
    rcases List.append_eq_append_iff.mp same with ⟨rest, _, key⟩ | ⟨rest, dotted, index⟩
    · refine plain.noIndex ⟨String.ofList rest, position, String.toList_inj.mp ?_⟩
      simp [key]
    · cases rest using List.reverseRecOn with
      | nil =>
          refine plain.noIndex ⟨"", position, String.toList_inj.mp ?_⟩
          simpa using index.symm
      | append_singleton rest last =>
          rw [← List.append_assoc] at dotted
          have isDot := (List.append_inj' dotted rfl).2
          rw [List.singleton_inj] at isDot
          subst isDot
          have inside : '.' ∈ '[' :: ((toString position).toList ++ [']']) := by
            rw [index]
            simp
          rcases List.mem_cons.mp inside with opening | inside
          · exact absurd opening (by decide)
          · exact notMem_index (by decide) (by decide) inside

/-! ## Whole paths -/

/-- A path that has started is spelled. -/
theorem spell_ne_empty {path : List Segment} (plain : PlainPath path) (nonempty : path ≠ []) :
    spell "" path ≠ "" := by
  induction path using List.reverseRecOn with
  | nil => exact absurd rfl nonempty
  | append_singleton path segment ih =>
      rw [spell_concat]
      cases segment with
      | key text =>
          by_cases start : spell "" path = ""
          · have root : path = [] := by
              by_contra continued
              exact ih plain.of_concat continued start
            subst root
            have named : text ≠ "" := by
              rintro rfl
              exact plain.started rfl
            simpa [Segment.extend] using named
          · rw [← String.toList_inj.ne, toList_key text start]
            simp
      | index position =>
          rw [← String.toList_inj.ne, toList_index]
          simp

theorem spell_eq_empty_iff {path : List Segment} (plain : PlainPath path) :
    spell "" path = "" ↔ path = [] := by
  constructor
  · intro empty
    by_contra nonempty
    exact spell_ne_empty plain nonempty empty
  · rintro rfl
    rfl

/-- Plain paths are spelled in different ways. -/
theorem spell_injective {first second : List Segment} (plain : PlainPath first)
    (plainSecond : PlainPath second) (same : spell "" first = spell "" second) :
    first = second := by
  induction first using List.reverseRecOn generalizing second with
  | nil => exact ((spell_eq_empty_iff plainSecond).mp same.symm).symm
  | append_singleton first segment ih =>
      cases second using List.reverseRecOn with
      | nil => exact (spell_eq_empty_iff plain).mp same
      | append_singleton second other =>
          have plainSegment := plain.plain segment (by simp)
          have plainOther := plainSecond.plain other (by simp)
          have agreed := ih plain.of_concat plainSecond.of_concat
          have root := spell_eq_empty_iff plain.of_concat
          have rootSecond := spell_eq_empty_iff plainSecond.of_concat
          rw [spell_concat, spell_concat] at same
          cases segment with
          | index position =>
              cases other with
              | index otherPosition =>
                  rcases extend_index_inj same with ⟨starts, rfl⟩
                  rw [agreed starts]
              | key text => exact absurd same.symm (extend_key_ne_extend_index plainOther)
          | key text =>
              cases other with
              | index otherPosition => exact absurd same (extend_key_ne_extend_index plainSegment)
              | key otherText =>
                  by_cases start : spell "" first = ""
                  · by_cases startSecond : spell "" second = ""
                    · rw [start, startSecond] at same
                      rw [root.mp start, rootSecond.mp startSecond]
                      simpa [Segment.extend] using same
                    · -- The dot before the second key would lie within the first key.
                      rw [start, ← String.toList_inj, toList_key _ startSecond] at same
                      have texts : text.toList = (spell "" second).toList ++ '.' ::
                          otherText.toList := by
                        simpa [Segment.extend] using same
                      exact absurd (by rw [texts]; simp) plainSegment.noDot
                  · by_cases startSecond : spell "" second = ""
                    · rw [startSecond, ← String.toList_inj, toList_key _ start] at same
                      have texts : otherText.toList = (spell "" first).toList ++ '.' ::
                          text.toList := by
                        simpa [Segment.extend] using same.symm
                      exact absurd (by rw [texts]; simp) plainOther.noDot
                    · rcases extend_key_inj plainSegment plainOther start startSecond same with
                        ⟨starts, rfl⟩
                      rw [agreed starts]

end RtControl.Codec
