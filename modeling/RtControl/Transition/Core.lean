import Mathlib.Logic.Basic
import Mathlib.Data.Option.Basic

/-!
# Guarded runs of event-labelled transitions

A transition system is a partial function of a state and an event.  A guard is a
decidable restriction on the steps of a run: the scheduling and environment
assumptions of a result are guards, so that one transition function serves
results with different assumptions and a run can be checked by evaluation.
-/

namespace RtControl.Transition

universe u v w

/-- An event-labelled partial transition function. -/
abbrev Step (σ : Type u) (ε : Type v) :=
  σ → ε → Option σ

/-- A restriction on the steps of a run. -/
abbrev Guard (σ : Type u) (ε : Type v) :=
  σ → ε → Bool

/-- The guard that admits every step. -/
def unguarded {σ : Type u} {ε : Type v} : Guard σ ε :=
  fun _ _ => true

section Reachability

variable {σ : Type u} {ε : Type v}

/-- Reachability by steps that all meet the guard. -/
inductive Reachable (next : Step σ ε) (guard : Guard σ ε) (start : σ) : σ → Prop
  | refl : Reachable next guard start start
  | tail {source target : σ} (event : ε) :
      Reachable next guard start source →
      guard source event = true →
      next source event = some target →
      Reachable next guard start target

namespace Reachable

variable {next : Step σ ε} {guard : Guard σ ε} {start middle state : σ}

/-- A property that holds initially and is kept by every guarded step holds in
every reachable state. -/
theorem invariant (property : σ → Prop) (initial : property start)
    (preserved : ∀ {source target : σ} (event : ε), property source →
      guard source event = true → next source event = some target → property target)
    (reachable : Reachable next guard start state) : property state := by
  induction reachable with
  | refl => exact initial
  | tail event _ allowed step ih => exact preserved event ih allowed step

/-- Guarded reachability composes. -/
theorem trans (first : Reachable next guard start middle)
    (second : Reachable next guard middle state) : Reachable next guard start state := by
  induction second with
  | refl => exact first
  | tail event _ allowed step ih => exact tail event ih allowed step

/-- One guarded step. -/
theorem single (event : ε) (allowed : guard start event = true)
    (step : next start event = some state) : Reachable next guard start state :=
  tail event refl allowed step

/-- A system whose steps are runs of a second one reaches no other states. -/
theorem refine {fine : Step σ ε}
    (simulates : ∀ {source target : σ} (event : ε), next source event = some target →
      Reachable fine unguarded source target)
    (reachable : Reachable next guard start state) :
    Reachable fine unguarded start state := by
  induction reachable with
  | refl => exact refl
  | tail event _ _ step ih => exact ih.trans (simulates event step)

end Reachable

/-! ## Executable runs -/

/-- Run a list of events.  A step that is not enabled or breaks the guard fails
the run. -/
def run (next : Step σ ε) (guard : Guard σ ε) : σ → List ε → Option σ
  | state, [] => some state
  | state, event :: events =>
      if guard state event then
        (next state event).bind fun target => run next guard target events
      else
        none

/-- A successful run witnesses reachability. -/
theorem reachable_of_run {next : Step σ ε} {guard : Guard σ ε} {start state : σ}
    {events : List ε} (success : run next guard start events = some state) :
    Reachable next guard start state := by
  induction events generalizing start with
  | nil =>
      cases success
      exact .refl
  | cons event events ih =>
      rw [run] at success
      split at success
      · rename_i allowed
        obtain ⟨middle, step, rest⟩ := Option.bind_eq_some_iff.mp success
        exact (Reachable.single event allowed step).trans (ih rest)
      · contradiction

/-- A run whose final state passes a test reaches a state that passes it. -/
theorem exists_reachable_of_run {next : Step σ ε} {guard : Guard σ ε} {start : σ}
    {events : List ε} {test : σ → Bool}
    (passed : (run next guard start events).any test = true) :
    ∃ state, Reachable next guard start state ∧ test state = true := by
  rw [Option.any_eq_true] at passed
  obtain ⟨state, success, holds⟩ := passed
  exact ⟨state, reachable_of_run success, holds⟩

/-! ## Blocks of steps -/

/-- Repeat a total step until the state rests or the fuel is used up. -/
def settle (next : σ → σ) (resting : σ → Bool) : Nat → σ → σ
  | 0, state => state
  | fuel + 1, state =>
      if resting state then state else settle next resting fuel (next state)

/-- A block of steps is a run, when every step outside a resting state is one. -/
theorem reachable_settle {next : Step σ ε} {advance : σ → σ} {resting : σ → Bool}
    (event : ε)
    (steps : ∀ state, resting state = false → next state event = some (advance state))
    (fuel : Nat) (state : σ) :
    Reachable next unguarded state (settle advance resting fuel state) := by
  induction fuel generalizing state with
  | zero => exact .refl
  | succ fuel ih =>
      rw [settle]
      split
      · exact .refl
      · rename_i moving
        have step := steps state (by simpa using moving)
        exact (Reachable.single event rfl step).trans (ih _)

/-! ## History variables -/

section Observation

variable {ω : Type w}

/-- Add a history variable that records every step and restricts none. -/
def observed (next : Step σ ε) (record : σ → ε → σ → ω → ω) : Step (σ × ω) ε :=
  fun observation event =>
    (next observation.1 event).map fun target =>
      (target, record observation.1 event target observation.2)

/-- The guard of a system on its observed runs. -/
def onState (guard : Guard σ ε) : Guard (σ × ω) ε :=
  fun observation event => guard observation.1 event

theorem observed_eq_some_iff {next : Step σ ε} {record : σ → ε → σ → ω → ω}
    {source target : σ × ω} {event : ε} :
    observed next record source event = some target ↔
      next source.1 event = some target.1 ∧
        target.2 = record source.1 event target.1 source.2 := by
  rcases source with ⟨state, history⟩
  rcases target with ⟨target, targetHistory⟩
  simp only [observed, Option.map_eq_some_iff, Prod.mk.injEq]
  constructor
  · rintro ⟨middle, step, rfl, rfl⟩
    exact ⟨step, rfl⟩
  · rintro ⟨step, rfl⟩
    exact ⟨target, step, rfl, rfl⟩

end Observation

end Reachability

end RtControl.Transition
