import Mathlib.Data.Option.Basic
import Mathlib.Data.List.Basic
import Mathlib.Tactic.SplitIfs

/-!
# Scripts of fallible actions

A script is a list of actions on an environment that may refuse them.  The environment decides by
the actions so far, so an arbitrary environment stands for every behaviour of the devices.  No
refusal cuts a script short; the journal keeps the actions in their order and the first failure.
-/

namespace RtControl.Transition

universe u v

/-- Whether an action is accepted after the actions so far. -/
abbrev Environment (κ : Type u) :=
  List κ → κ → Bool

/-- The actions so far and the first failure. -/
structure Journal (κ : Type u) (φ : Type v) where
  actions : List κ := []
  failure : Option φ := none
  deriving DecidableEq

/-- A step of a script. -/
inductive ScriptStep (κ : Type u) (φ : Type v) where
  /-- An action whose result is not looked at. -/
  | perform (action : κ)
  /-- An action that fails when it is refused. -/
  | attempt (action : κ) (failure : φ)
  /-- A failure without an action. -/
  | fail (failure : φ)
  deriving DecidableEq

variable {κ : Type u} {φ : Type v}

/-- The action of a step. -/
def ScriptStep.action : ScriptStep κ φ → Option κ
  | .perform action | .attempt action _ => some action
  | .fail _ => none

theorem filterMap_action_cons (s : ScriptStep κ φ) (script : List (ScriptStep κ φ)) :
    (s :: script).filterMap (·.action) = s.action.toList ++ script.filterMap (·.action) := by
  rw [List.filterMap_cons]
  cases s.action <;> rfl

/-- The failure of a step after the actions so far. -/
def ScriptStep.refusal (env : Environment κ) (actions : List κ) : ScriptStep κ φ → Option φ
  | .perform _ => none
  | .attempt action failure => if env actions action then none else some failure
  | .fail failure => some failure

namespace Journal

/-- One step of a script. -/
def step (env : Environment κ) (j : Journal κ φ) (s : ScriptStep κ φ) : Journal κ φ where
  actions := j.actions ++ s.action.toList
  failure := j.failure.or (s.refusal env j.actions)

/-- Run a script to its end. -/
def run (env : Environment κ) (j : Journal κ φ) (script : List (ScriptStep κ φ)) : Journal κ φ :=
  script.foldl (step env) j

/-- Run a script up to its first failure. -/
def runUntil (env : Environment κ) : Journal κ φ → List (ScriptStep κ φ) → Journal κ φ
  | j, [] => j
  | j, s :: script =>
      let j := j.step env s
      if j.failure.isSome then j else runUntil env j script

variable {env : Environment κ} {j : Journal κ φ} {script rest : List (ScriptStep κ φ)}
variable {s : ScriptStep κ φ}

@[simp]
theorem run_nil : j.run env [] = j :=
  rfl

@[simp]
theorem run_cons : j.run env (s :: script) = (j.step env s).run env script :=
  rfl

theorem run_append : j.run env (script ++ rest) = (j.run env script).run env rest :=
  List.foldl_append

theorem run_flatMap {ι : Type*} (scripts : ι → List (ScriptStep κ φ)) (indices : List ι) :
    j.run env (indices.flatMap scripts) =
      indices.foldl (fun j index => j.run env (scripts index)) j := by
  induction indices generalizing j with
  | nil => rfl
  | cons index indices ih => rw [List.flatMap_cons, run_append, ih, List.foldl_cons]

/-- The actions of a script do not depend on the environment. -/
theorem actions_run : (j.run env script).actions = j.actions ++ script.filterMap (·.action) := by
  induction script generalizing j with
  | nil => rw [run_nil, List.filterMap_nil, List.append_nil]
  | cons s script ih =>
      rw [run_cons, ih, step, filterMap_action_cons, List.append_assoc]

/-- A failure is kept. -/
theorem failure_run_of_some {failure : φ} (failed : j.failure = some failure) :
    (j.run env script).failure = some failure := by
  induction script generalizing j with
  | nil => exact failed
  | cons s script ih =>
      refine ih ?_
      rw [step, failed, Option.some_or]

/-- The failure of a script is that of its first step that fails. -/
theorem failure_run_eq_some_iff {failure : φ} (clean : j.failure = none) :
    (j.run env script).failure = some failure ↔
      ∃ before s after, script = before ++ s :: after ∧
        (j.run env before).failure = none ∧
        s.refusal env (j.run env before).actions = some failure := by
  induction script generalizing j with
  | nil =>
      rw [run_nil, clean]
      refine iff_of_false (fun same => by cases same) ?_
      rintro ⟨before, s, after, split, -⟩
      exact List.append_ne_nil_of_right_ne_nil before (List.cons_ne_nil s after) split.symm
  | cons s script ih =>
      rw [run_cons]
      cases refused : s.refusal env j.actions with
      | some first =>
          have failed : (j.step env s).failure = some first := by
            rw [step, clean, refused, Option.none_or]
          rw [failure_run_of_some failed]
          constructor
          · intro same
            cases same
            exact ⟨[], s, script, rfl, clean, refused⟩
          · rintro ⟨_ | ⟨head, before⟩, other, after, split, unfailed, last⟩
            · cases split
              exact refused.symm.trans last
            · cases split
              rw [run_cons, failure_run_of_some failed] at unfailed
              cases unfailed
      | none =>
          have passed : (j.step env s).failure = none := by
            rw [step, clean, refused, Option.none_or]
          rw [ih passed]
          constructor
          · rintro ⟨before, other, after, rfl, unfailed, last⟩
            exact ⟨s :: before, other, after, rfl, unfailed, last⟩
          · rintro ⟨_ | ⟨head, before⟩, other, after, split, unfailed, last⟩
            · cases split
              rw [run_nil, refused] at last
              cases last
            · cases split
              exact ⟨before, other, after, rfl, unfailed, last⟩

/-- A script fails in no step exactly if every step passes after the actions before it. -/
theorem failure_run_eq_none_iff :
    (j.run env script).failure = none ↔
      j.failure = none ∧ ∀ before s after, script = before ++ s :: after →
        s.refusal env (j.actions ++ before.filterMap (·.action)) = none := by
  induction script generalizing j with
  | nil =>
      refine (and_iff_left ?_).symm
      intro before s after split
      exact absurd split.symm (List.append_ne_nil_of_right_ne_nil before (List.cons_ne_nil s after))
  | cons head script ih =>
      rw [run_cons, ih, step, Option.or_eq_none_iff, and_assoc]
      refine and_congr_right fun _ => ?_
      constructor
      · rintro ⟨first, later⟩ (_ | ⟨other, before⟩) s after split
        · cases split
          rw [List.filterMap_nil, List.append_nil]
          exact first
        · cases split
          have passed := later before s after rfl
          rwa [List.append_assoc, ← filterMap_action_cons] at passed
      · intro all
        constructor
        · have passed := all [] head script rfl
          rwa [List.filterMap_nil, List.append_nil] at passed
        · rintro before s after rfl
          have passed := all (head :: before) s after rfl
          rwa [filterMap_action_cons, ← List.append_assoc] at passed

theorem runUntil_append (clean : j.failure = none) :
    j.runUntil env (script ++ rest) =
      if (j.runUntil env script).failure.isSome then j.runUntil env script
      else (j.runUntil env script).runUntil env rest := by
  induction script generalizing j with
  | nil => simp [runUntil, clean]
  | cons s script ih =>
      rw [List.cons_append, runUntil, runUntil]
      by_cases failed : (j.step env s).failure.isSome = true
      · simp only [failed, if_true]
      · rw [Option.not_isSome_iff_eq_none] at failed
        simp only [failed, Option.isSome_none, Bool.false_eq_true, if_false]
        exact ih failed

/-- A script without a failure is run to its end. -/
theorem runUntil_of_clean (clean : (j.runUntil env script).failure = none) :
    j.runUntil env script = j.run env script := by
  induction script generalizing j with
  | nil => rfl
  | cons s script ih =>
      rw [runUntil] at clean ⊢
      split_ifs at clean ⊢ with failed
      · rw [clean] at failed
        cases failed
      · exact ih clean

/-- A script that fails is run up to and including its first step that fails. -/
theorem runUntil_of_failure {failure : φ} (clean : j.failure = none)
    (failed : (j.runUntil env script).failure = some failure) :
    ∃ before s after, script = before ++ s :: after ∧ (j.run env before).failure = none ∧
      s.refusal env (j.run env before).actions = some failure ∧
      j.runUntil env script = j.run env (before ++ [s]) := by
  induction script generalizing j with
  | nil =>
      rw [runUntil, clean] at failed
      cases failed
  | cons s script ih =>
      rw [runUntil] at failed ⊢
      split_ifs at failed ⊢ with now
      · refine ⟨[], s, script, rfl, clean, ?_, rfl⟩
        rwa [step, clean, Option.none_or] at failed
      · rw [Option.not_isSome_iff_eq_none] at now
        obtain ⟨before, other, after, rfl, unfailed, refused, same⟩ := ih now failed
        exact ⟨s :: before, other, after, rfl, unfailed, refused, same⟩

/-- A script stops early exactly if it fails. -/
theorem failure_runUntil_eq_none_iff (clean : j.failure = none) :
    (j.runUntil env script).failure = none ↔ (j.run env script).failure = none := by
  constructor
  · intro passed
    rwa [← runUntil_of_clean passed]
  · intro passed
    cases failed : (j.runUntil env script).failure with
    | none => rfl
    | some failure =>
        obtain ⟨before, s, after, split, unfailed, refused, -⟩ := runUntil_of_failure clean failed
        have found := (failure_run_eq_some_iff clean).mpr
          ⟨before, s, after, split, unfailed, refused⟩
        rw [passed] at found
        cases found

/-- A script with a failure of its own fails. -/
theorem failure_run_of_mem_fail {failure : φ} (member : .fail failure ∈ script) :
    (j.run env script).failure ≠ none := by
  intro clean
  obtain ⟨before, after, split⟩ := List.append_of_mem member
  have passed := (failure_run_eq_none_iff.mp clean).2 before _ after split
  cases passed

end Journal

/-! ## Accepted actions -/

/-- Every judged action has been accepted after the actions before it. -/
def Accepted (env : Environment κ) (judged : κ → Bool) (actions calls : List κ) : Prop :=
  ∀ before action after, calls = before ++ action :: after → judged action = true →
    env (actions ++ before) action = true

/-- A step looks at the results of the judged actions and of no others. -/
def ScriptStep.Judges (judged : κ → Bool) : ScriptStep κ φ → Prop
  | .perform action => judged action = false
  | .attempt action _ => judged action = true
  | .fail _ => False

variable {env : Environment κ} {judged : κ → Bool} {actions calls : List κ} {action : κ}

theorem accepted_nil : Accepted env judged actions [] := by
  intro before action after split
  exact absurd split.symm
    (List.append_ne_nil_of_right_ne_nil before (List.cons_ne_nil action after))

theorem accepted_cons_iff :
    Accepted env judged actions (action :: calls) ↔
      (judged action = true → env actions action = true) ∧
        Accepted env judged (actions ++ [action]) calls := by
  constructor
  · intro accepted
    constructor
    · intro verdict
      have found := accepted [] action calls rfl verdict
      rwa [List.append_nil] at found
    · rintro before other after rfl verdict
      have found := accepted (action :: before) other after rfl verdict
      rwa [List.append_assoc]
  · rintro ⟨first, later⟩ (_ | ⟨head, before⟩) other after split verdict
    · cases split
      rw [List.append_nil]
      exact first verdict
    · cases split
      have found := later before other after rfl verdict
      rwa [List.append_assoc] at found

/-- A script that judges its actions fails in no step exactly if they are accepted. -/
theorem Journal.failure_run_eq_none_iff_accepted {j : Journal κ φ} {script : List (ScriptStep κ φ)}
    (judges : ∀ s ∈ script, s.Judges judged) :
    (j.run env script).failure = none ↔
      j.failure = none ∧ Accepted env judged j.actions (script.filterMap (·.action)) := by
  induction script generalizing j with
  | nil => exact (and_iff_left accepted_nil).symm
  | cons s script ih =>
      have first := judges s List.mem_cons_self
      rw [run_cons, ih fun other member => judges other (List.mem_cons_of_mem s member), step,
        Option.or_eq_none_iff, and_assoc, filterMap_action_cons]
      refine and_congr_right fun _ => ?_
      cases s with
      | perform action =>
          rw [ScriptStep.action, Option.toList_some, List.singleton_append, accepted_cons_iff]
          refine and_congr_left fun _ => iff_of_true rfl fun verdict => ?_
          exact absurd (first.symm.trans verdict) Bool.false_ne_true
      | attempt action failure =>
          rw [ScriptStep.action, Option.toList_some, List.singleton_append, accepted_cons_iff]
          refine and_congr_left fun _ => ?_
          rw [ScriptStep.refusal]
          cases verdict : env j.actions action with
          | true => exact iff_of_true rfl fun _ => rfl
          | false =>
              refine iff_of_false (fun same => by cases same) fun accepted => ?_
              exact absurd (accepted first) Bool.false_ne_true
      | fail failure => exact absurd first id

end RtControl.Transition
