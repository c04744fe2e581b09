import Mathlib.Data.List.Pairwise
import Mathlib.Data.List.Forall2

/-!
# Topics

A publisher puts its latest value into a queue.  Values in the queue may get lost, and the
subscriber holds the last one that has reached it.  When the publisher only advances along a
relation, so do the values that the subscriber holds: losses leave gaps, but nothing is reordered.
-/

namespace RtControl.Transition

universe u v

/-- The value that the subscriber holds, those in flight and the latest of the publisher. -/
structure Topic (α : Type u) where
  held : α
  queue : List α
  latest : α

/-- Remove one item of a queue. -/
def loseAt {α : Type u} (index : Nat) (queue : List α) : List α :=
  queue.take index ++ queue.drop (index + 1)

theorem sublist_loseAt {α : Type u} (index : Nat) (queue : List α) :
    (loseAt index queue).Sublist queue := by
  rw [loseAt, ← List.eraseIdx_eq_take_drop_succ]
  exact List.eraseIdx_sublist queue index

/-- Two queues stay alike when both lose the same item. -/
theorem forall₂_loseAt {α : Type u} {β : Type v} {related : α → β → Prop} {first : List α}
    {second : List β} (alike : List.Forall₂ related first second) (index : Nat) :
    List.Forall₂ related (loseAt index first) (loseAt index second) :=
  List.rel_append (List.forall₂_take index alike) (List.forall₂_drop (index + 1) alike)

namespace Topic

variable {α : Type u}

/-- The publisher has a new latest value. -/
def advance (value : α) (t : Topic α) : Topic α :=
  { t with latest := value }

/-- The latest value is published. -/
def publish (t : Topic α) : Topic α :=
  { t with queue := t.queue ++ [t.latest] }

/-- A value in flight gets lost. -/
def lose (index : Nat) (t : Topic α) : Topic α :=
  { t with queue := loseAt index t.queue }

/-- The oldest value in flight reaches the subscriber. -/
def deliver (t : Topic α) : Topic α :=
  match t.queue with
  | [] => t
  | value :: queue => { t with held := value, queue }

/-- From the held value to the latest one, earlier values are related to later ones. -/
def Ordered (related : α → α → Prop) (t : Topic α) : Prop :=
  (t.held :: (t.queue ++ [t.latest])).Pairwise related

variable {related : α → α → Prop} {t : Topic α} {value : α}

theorem ordered_iff : t.Ordered related ↔
    (t.held :: t.queue).Pairwise related ∧
      ∀ earlier ∈ t.held :: t.queue, related earlier t.latest := by
  rw [Ordered, ← List.cons_append, List.pairwise_append]
  simp only [List.pairwise_singleton, true_and, List.mem_singleton, forall_eq]

theorem Ordered.advance (ordered : t.Ordered related)
    (trans : ∀ {first second third : α},
      related first second → related second third → related first third)
    (step : related t.latest value) : (t.advance value).Ordered related := by
  obtain ⟨queue, latest⟩ := ordered_iff.mp ordered
  exact ordered_iff.mpr ⟨queue, fun earlier member => trans (latest earlier member) step⟩

theorem Ordered.publish (ordered : t.Ordered related) (refl : related t.latest t.latest) :
    t.publish.Ordered related := by
  obtain ⟨queue, latest⟩ := ordered_iff.mp ordered
  refine ordered_iff.mpr ⟨ordered, fun earlier member => ?_⟩
  rw [Topic.publish, ← List.cons_append, List.mem_append, List.mem_singleton] at member
  rcases member with member | rfl
  · exact latest earlier member
  · exact refl

theorem Ordered.lose (ordered : t.Ordered related) (index : Nat) :
    (t.lose index).Ordered related := by
  refine List.Pairwise.sublist ?_ ordered
  exact (((sublist_loseAt index t.queue).append_right [t.latest])).cons_cons t.held

theorem Ordered.deliver (ordered : t.Ordered related) : t.deliver.Ordered related := by
  rw [Topic.deliver]
  split
  · exact ordered
  next value queue waiting =>
    rw [Ordered, waiting] at ordered
    exact ordered.tail

@[simp]
theorem latest_deliver (t : Topic α) : t.deliver.latest = t.latest := by
  rw [deliver]
  split <;> rfl

/-- The next held value continues the held one. -/
theorem Ordered.held_deliver (ordered : t.Ordered related) (refl : related t.held t.held) :
    related t.held t.deliver.held := by
  rw [Topic.deliver]
  split
  · exact refl
  next value queue waiting =>
    rw [Ordered, waiting] at ordered
    exact List.rel_of_pairwise_cons ordered List.mem_cons_self

end Topic

end RtControl.Transition
