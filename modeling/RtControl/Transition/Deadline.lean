import Mathlib.Data.Option.Basic
import Mathlib.Logic.Function.Iterate
import Mathlib.Tactic.SplitIfs

/-!
# Loops with a deadline

A loop repeats a cycle until its goal is met.  It gives up after a cycle that has missed both
its goal and the deadline.  The outcome is that of the first cycle after which the goal is met
or the deadline has passed, and a goal met in that cycle outweighs the deadline.
-/

namespace RtControl.Transition

universe u

/-- A cycle with a goal and a deadline. -/
structure DeadlineLoop (σ : Type u) where
  cycle : σ → σ
  met : σ → Bool
  late : σ → Bool

namespace DeadlineLoop

variable {σ : Type u}

/-- Run the loop.  The result says whether the goal is met; the fuel bounds the cycles. -/
def wait (loop : DeadlineLoop σ) : Nat → σ → Option (Bool × σ)
  | 0, _ => none
  | fuel + 1, state =>
      let target := loop.cycle state
      if loop.met target then some (true, target)
      else if loop.late target then some (false, target)
      else wait loop fuel target

/-- The loop goes on after a cycle that ends in the state. -/
def Pending (loop : DeadlineLoop σ) (state : σ) : Prop :=
  loop.met state = false ∧ loop.late state = false

/-- The cycle with the given number, counted from zero, is the last one. -/
structure Last (loop : DeadlineLoop σ) (start : σ) (cycle : Nat) : Prop where
  pending : ∀ earlier < cycle, loop.Pending (loop.cycle^[earlier + 1] start)
  ends : loop.met (loop.cycle^[cycle + 1] start) = true ∨
    loop.late (loop.cycle^[cycle + 1] start) = true

variable {loop : DeadlineLoop σ} {start final : σ} {fuel cycle : Nat} {goal : Bool}

theorem last_zero_iff :
    loop.Last start 0 ↔
      loop.met (loop.cycle start) = true ∨ loop.late (loop.cycle start) = true :=
  ⟨Last.ends, fun ends => ⟨fun _ before => absurd before (Nat.not_lt_zero _), ends⟩⟩

theorem last_succ_iff :
    loop.Last start (cycle + 1) ↔
      loop.Pending (loop.cycle start) ∧ loop.Last (loop.cycle start) cycle := by
  constructor
  · intro last
    refine ⟨last.pending 0 (Nat.succ_pos cycle), ?_, last.ends⟩
    intro earlier before
    exact last.pending (earlier + 1) (Nat.succ_lt_succ before)
  · rintro ⟨first, last⟩
    refine ⟨?_, last.ends⟩
    rintro (_ | earlier) before
    · exact first
    · exact last.pending earlier (Nat.lt_of_succ_lt_succ before)

/-- There is at most one last cycle. -/
theorem Last.unique {other : Nat} (last : loop.Last start cycle) (also : loop.Last start other) :
    cycle = other := by
  have ended {first second : Nat} (ends : loop.Last start first)
      (goes : loop.Last start second) : second ≤ first := by
    by_contra later
    have pending := goes.pending first (Nat.lt_of_not_le later)
    rcases ends.ends with met | late
    · rw [pending.1] at met
      contradiction
    · rw [pending.2] at late
      contradiction
  exact Nat.le_antisymm (ended also last) (ended last also)

/-- The loop returns after its last cycle and says whether that has met the goal. -/
theorem wait_eq_some_iff :
    loop.wait fuel start = some (goal, final) ↔
      ∃ cycle < fuel, loop.Last start cycle ∧ final = loop.cycle^[cycle + 1] start ∧
        goal = loop.met final := by
  induction fuel generalizing start with
  | zero =>
      constructor
      · intro returned
        contradiction
      · rintro ⟨cycle, within, -⟩
        exact absurd within (Nat.not_lt_zero cycle)
  | succ fuel ih =>
      rw [wait]
      split_ifs with met late
      · constructor
        · intro returned
          cases returned
          exact ⟨0, Nat.succ_pos fuel, last_zero_iff.mpr (Or.inl met), rfl, met.symm⟩
        · rintro ⟨cycle, -, last, rfl, rfl⟩
          cases last.unique (last_zero_iff.mpr (Or.inl met))
          exact congrArg (fun goal => some (goal, loop.cycle start)) met.symm
      · rw [Bool.not_eq_true] at met
        constructor
        · intro returned
          cases returned
          exact ⟨0, Nat.succ_pos fuel, last_zero_iff.mpr (Or.inr late), rfl, met.symm⟩
        · rintro ⟨cycle, -, last, rfl, rfl⟩
          cases last.unique (last_zero_iff.mpr (Or.inr late))
          exact congrArg (fun goal => some (goal, loop.cycle start)) met.symm
      · have pending : loop.Pending (loop.cycle start) :=
          ⟨Bool.eq_false_iff.mpr met, Bool.eq_false_iff.mpr late⟩
        rw [ih]
        constructor
        · rintro ⟨cycle, within, last, ended, goal⟩
          exact ⟨cycle + 1, Nat.succ_lt_succ within, last_succ_iff.mpr ⟨pending, last⟩, ended, goal⟩
        · rintro ⟨_ | cycle, within, last, ended, goal⟩
          · rcases last_zero_iff.mp last with met' | late'
            · exact absurd met' met
            · exact absurd late' late
          · exact ⟨cycle, Nat.lt_of_succ_lt_succ within, (last_succ_iff.mp last).2, ended, goal⟩

/-- A loop that returns does so after its last cycle, whatever the fuel is. -/
theorem wait_eq_some_iff_last (returns : (loop.wait fuel start).isSome = true) :
    loop.wait fuel start = some (goal, final) ↔
      ∃ cycle, loop.Last start cycle ∧ final = loop.cycle^[cycle + 1] start ∧
        goal = loop.met final := by
  obtain ⟨⟨found, state⟩, returned⟩ := Option.isSome_iff_exists.mp returns
  obtain ⟨ended, within, last, -⟩ := wait_eq_some_iff.mp returned
  rw [wait_eq_some_iff]
  constructor
  · rintro ⟨cycle, -, outcome⟩
    exact ⟨cycle, outcome⟩
  · rintro ⟨cycle, also, outcome⟩
    cases last.unique also
    exact ⟨ended, within, last, outcome⟩

/-- A loop that returns meets its goal exactly if a cycle does and no earlier one is late.  The
goal and the deadline are given by the number of the cycle. -/
theorem wait_met_iff (ready early : Nat → Prop)
    (returns : (loop.wait fuel start).isSome = true)
    (met : ∀ cycle, loop.met (loop.cycle^[cycle + 1] start) = true ↔ ready cycle)
    (late : ∀ cycle, loop.late (loop.cycle^[cycle + 1] start) = false ↔ early cycle) :
    loop.wait fuel start = some (true, final) ↔
      ∃ cycle, ready cycle ∧ (∀ earlier < cycle, ¬ready earlier ∧ early earlier) ∧
        final = loop.cycle^[cycle + 1] start := by
  have pending (cycle : Nat) :
      loop.Pending (loop.cycle^[cycle + 1] start) ↔ ¬ready cycle ∧ early cycle := by
    rw [Pending, ← Bool.not_eq_true, met, late]
  rw [wait_eq_some_iff_last returns]
  constructor
  · rintro ⟨cycle, last, rfl, goal⟩
    refine ⟨cycle, (met cycle).mp goal.symm, ?_, rfl⟩
    intro earlier before
    exact (pending earlier).mp (last.pending earlier before)
  · rintro ⟨cycle, goal, waited, rfl⟩
    refine ⟨cycle, ⟨?_, Or.inl ((met cycle).mpr goal)⟩, rfl, ((met cycle).mpr goal).symm⟩
    intro earlier before
    exact (pending earlier).mpr (waited earlier before)

/-- A loop returns when a rank falls in every cycle before the deadline. -/
theorem wait_isSome (property : σ → Prop) (rank : σ → Nat)
    (preserved : ∀ state, property state → property (loop.cycle state))
    (falls : ∀ state, property state → loop.late (loop.cycle state) = false →
      rank (loop.cycle state) < rank state)
    (initial : property start) (enough : rank start < fuel) :
    (loop.wait fuel start).isSome = true := by
  induction fuel generalizing start with
  | zero => exact absurd enough (Nat.not_lt_zero _)
  | succ fuel ih =>
      rw [wait]
      split_ifs with met late
      · rfl
      · rfl
      · refine ih (preserved start initial) ?_
        have lower := falls start initial (Bool.eq_false_iff.mpr late)
        omega

end DeadlineLoop

end RtControl.Transition
