import RtControl.Transition.Core
import Mathlib.Data.List.Chain

/-!
# Progress of infinite runs

An execution is an infinite guarded run.  A property leads to a goal when every
state with the property is followed by a state with the goal.  The rank rule
derives this from two facts: no step before the goal raises a rank, and an event
that lowers it occurs again and again.
-/

namespace RtControl.Transition

universe u v

/-- An infinite run whose steps all meet the guard. -/
structure Execution {σ : Type u} {ε : Type v} (next : Step σ ε) (guard : Guard σ ε) (start : σ) where
  state : Nat → σ
  event : Nat → ε
  initial : state 0 = start
  allowed : ∀ time, guard (state time) (event time) = true
  steps : ∀ time, next (state time) (event time) = some (state (time + 1))

namespace Execution

variable {σ : Type u} {ε : Type v} {next : Step σ ε} {guard : Guard σ ε} {start : σ}
variable (run : Execution next guard start)

/-! ## Leads-to -/

/-- Every state with the property is followed by a state with the goal. -/
def LeadsTo (property goal : σ → Prop) : Prop :=
  ∀ time, property (run.state time) → ∃ later, time ≤ later ∧ goal (run.state later)

variable {run}

/-- Leads-to composes. -/
theorem LeadsTo.trans {property middle goal : σ → Prop} (first : run.LeadsTo property middle)
    (second : run.LeadsTo middle goal) : run.LeadsTo property goal := by
  intro time holds
  rcases first time holds with ⟨between, early, met⟩
  rcases second between met with ⟨later, late, reached⟩
  exact ⟨later, Nat.le_trans early late, reached⟩

section Rank

variable {rank : σ → Nat} {helps : σ → ε → Prop} {property goal : σ → Prop}

/-- Up to a helpful event the run reaches the goal or a lower rank. -/
theorem lowers_of_helpful
    (walks : ∀ time, property (run.state time) →
      goal (run.state (time + 1)) ∨
        property (run.state (time + 1)) ∧
          (rank (run.state (time + 1)) < rank (run.state time) ∨
            rank (run.state (time + 1)) = rank (run.state time) ∧
              ¬helps (run.state time) (run.event time)))
    (distance time : Nat) (holds : property (run.state time))
    (helped : property (run.state (time + distance)) →
      helps (run.state (time + distance)) (run.event (time + distance))) :
    ∃ later, time ≤ later ∧
      (goal (run.state later) ∨
        property (run.state later) ∧ rank (run.state later) < rank (run.state time)) := by
  induction distance generalizing time with
  | zero =>
      rcases walks time holds with reached | ⟨kept, lower | ⟨-, idle⟩⟩
      · exact ⟨time + 1, Nat.le_succ time, Or.inl reached⟩
      · exact ⟨time + 1, Nat.le_succ time, Or.inr ⟨kept, lower⟩⟩
      · exact absurd (helped holds) idle
  | succ distance ih =>
      have shifted : time + (distance + 1) = time + 1 + distance := by omega
      rcases walks time holds with reached | ⟨kept, lower | ⟨same, -⟩⟩
      · exact ⟨time + 1, Nat.le_succ time, Or.inl reached⟩
      · exact ⟨time + 1, Nat.le_succ time, Or.inr ⟨kept, lower⟩⟩
      · rw [shifted] at helped
        rcases ih (time + 1) kept helped with ⟨later, late, met⟩
        rw [same] at met
        exact ⟨later, Nat.le_of_succ_le late, met⟩

/-- The rank rule.  Inside the property no step raises the rank before the goal
is reached, a helpful event lowers it, and helpful events keep occurring. -/
theorem leadsTo_of_rank (rank : σ → Nat) (helps : σ → ε → Prop)
    (walks : ∀ time, property (run.state time) →
      goal (run.state (time + 1)) ∨
        property (run.state (time + 1)) ∧
          (rank (run.state (time + 1)) < rank (run.state time) ∨
            rank (run.state (time + 1)) = rank (run.state time) ∧
              ¬helps (run.state time) (run.event time)))
    (fair : ∀ time, ∃ later, time ≤ later ∧
      (property (run.state later) → helps (run.state later) (run.event later))) :
    run.LeadsTo property goal := by
  intro time holds
  induction level : rank (run.state time) using Nat.strongRecOn generalizing time with
  | ind level ih =>
      rcases fair time with ⟨occurrence, after, helped⟩
      have reached : time + (occurrence - time) = occurrence := by omega
      rw [← reached] at helped
      rcases lowers_of_helpful walks (occurrence - time) time holds helped with
        ⟨middle, early, met | ⟨kept, lower⟩⟩
      · exact ⟨middle, early, met⟩
      · rcases ih (rank (run.state middle)) (level ▸ lower) middle kept rfl with
          ⟨later, late, met⟩
        exact ⟨later, Nat.le_trans early late, met⟩

end Rank

/-! ## Milestones -/

/-- From a time on the run passes the milestones in their order. -/
def Passes (run : Execution next guard start) : List (σ → Prop) → Nat → Prop
  | [], _ => True
  | milestone :: milestones, time =>
      ∃ later, time ≤ later ∧ milestone (run.state later) ∧ Passes run milestones later

/-- Milestones that lead to each other are passed. -/
theorem passes_of_chain {milestones : List (σ → Prop)} {property : σ → Prop} {time : Nat}
    (chain : List.IsChain run.LeadsTo (property :: milestones))
    (holds : property (run.state time)) : run.Passes milestones time := by
  induction milestones generalizing property time with
  | nil => exact trivial
  | cons milestone milestones ih =>
      rw [List.isChain_cons_cons] at chain
      rcases chain.1 time holds with ⟨later, late, met⟩
      exact ⟨later, late, met, ih chain.2 met⟩

/-- Milestones may be weakened. -/
theorem Passes.mono {milestones weaker : List (σ → Prop)} {time : Nat}
    (passes : run.Passes milestones time)
    (implied : List.Forall₂ (fun strong weak => ∀ state, strong state → weak state)
      milestones weaker) : run.Passes weaker time := by
  induction implied generalizing time with
  | nil => exact trivial
  | cons implied _ ih =>
      rcases passes with ⟨later, late, met, rest⟩
      exact ⟨later, late, implied _ met, ih rest⟩

end Execution

/-! ## Executions from finite runs -/

section Lasso

variable {σ : Type u} {ε : Type v} {next : Step σ ε} {guard : Guard σ ε} {start final : σ}
variable {events : List ε} {last : ε}

theorem run_append (first second : List ε) :
    run next guard start (first ++ second) =
      (run next guard start first).bind fun state => run next guard state second := by
  induction first generalizing start with
  | nil => rfl
  | cons event first ih =>
      simp only [List.cons_append, run]
      split
      · rw [Option.bind_assoc]
        congr 1
        funext target
        exact ih
      · rfl

/-- A successful run steps from each of its prefixes to the next. -/
theorem run_take_succ (success : run next guard start events = some final) {time : Nat}
    (within : time < events.length) :
    ∃ source target, run next guard start (events.take time) = some source ∧
      run next guard start (events.take (time + 1)) = some target ∧
      guard source events[time] = true ∧ next source events[time] = some target := by
  have split : events.take (time + 1) = events.take time ++ [events[time]] := by simp
  have whole : events = events.take (time + 1) ++ events.drop (time + 1) :=
    (List.take_append_drop _ _).symm
  rw [whole, run_append] at success
  rcases Option.bind_eq_some_iff.mp success with ⟨target, reached, -⟩
  have stepped := reached
  rw [split, run_append] at stepped
  rcases Option.bind_eq_some_iff.mp stepped with ⟨source, before, step⟩
  rw [run] at step
  split at step
  · rename_i allowed
    rcases Option.bind_eq_some_iff.mp step with ⟨middle, moved, rest⟩
    cases rest
    exact ⟨source, target, before, reached, allowed, moved⟩
  · contradiction

/-- A run into a state that an event keeps goes on forever. -/
def Execution.lasso (success : run next guard start events = some final)
    (allowed : guard final last = true) (stays : next final last = some final) :
    Execution next guard start where
  state time := (run next guard start (events.take time)).getD final
  event time := events.getD time last
  initial := rfl
  allowed time := by
    by_cases within : time < events.length
    · rcases run_take_succ success within with ⟨source, target, before, -, permitted, -⟩
      simpa [before, within] using permitted
    · have beyond : events.length ≤ time := Nat.le_of_not_lt within
      simpa [List.take_of_length_le beyond, success, beyond] using allowed
  steps time := by
    by_cases within : time < events.length
    · rcases run_take_succ success within with ⟨source, target, before, after, -, moved⟩
      simpa [before, after, within] using moved
    · have beyond : events.length ≤ time := Nat.le_of_not_lt within
      have after : events.length ≤ time + 1 := Nat.le_succ_of_le beyond
      simpa [List.take_of_length_le beyond, List.take_of_length_le after, success, beyond]
        using stays

/-- The loop of a lasso. -/
theorem Execution.lasso_beyond (success : run next guard start events = some final)
    (allowed : guard final last = true) (stays : next final last = some final) {time : Nat}
    (beyond : events.length ≤ time) :
    (Execution.lasso success allowed stays).state time = final ∧
      (Execution.lasso success allowed stays).event time = last := by
  constructor
  · show (run next guard start (events.take time)).getD final = final
    rw [List.take_of_length_le beyond, success]
    rfl
  · show events.getD time last = last
    simp [beyond]

/-- A test passed by a prefix of the run is passed by the lasso. -/
theorem Execution.lasso_within (success : run next guard start events = some final)
    (allowed : guard final last = true) (stays : next final last = some final) {time : Nat}
    {test : σ → Bool} (passed : (run next guard start (events.take time)).any test = true) :
    test ((Execution.lasso success allowed stays).state time) = true := by
  rw [Option.any_eq_true] at passed
  rcases passed with ⟨state, reached, holds⟩
  show test ((run next guard start (events.take time)).getD final) = true
  rw [reached]
  exact holds

end Lasso

end RtControl.Transition
