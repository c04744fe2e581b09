import Mathlib.Data.List.Basic

/-!
# Programs of calls

A program makes calls to a world that answers by the calls so far, so an arbitrary world stands for
every behaviour of what is called.  A call that is never answered blocks the program.  Triples say
what holds of the calls when a program returns, when it blocks and when the fuel of a loop has run
out, and a law says of every call that the calls before it permit it.
-/

namespace RtControl.Transition

universe u v w

/-- How a program ends. -/
inductive Outcome (κ : Type u) (α : Type v) where
  | returned (value : α) (calls : List κ)
  /-- The next call is never answered. -/
  | blocked (calls : List κ)
  /-- The fuel of a loop has run out. -/
  | unfinished (calls : List κ)

/-- A program, as a function of the calls so far. -/
def Program (κ : Type u) (α : Type v) :=
  List κ → Outcome κ α

namespace Program

variable {κ : Type u} {α : Type v} {β : Type v}

/-- Return a value without a call. -/
protected def pure (value : α) : Program κ α :=
  fun calls => .returned value calls

/-- Go on with the value of a program. -/
protected def bind (program : Program κ α) (next : α → Program κ β) : Program κ β :=
  fun calls =>
    match program calls with
    | .returned value calls => next value calls
    | .blocked calls => .blocked calls
    | .unfinished calls => .unfinished calls

instance : Monad (Program κ) where
  pure := Program.pure
  bind := Program.bind

/-- One call with its answer. -/
def make (answer : List κ → Option α) (call : α → κ) : Program κ α :=
  fun calls =>
    match answer calls with
    | none => .blocked calls
    | some value => .returned value (calls ++ [call value])

/-- Repeat a body until it gives a value; the fuel bounds the repetitions. -/
def repeatUntil (body : Program κ (Option α)) : Nat → Program κ α
  | 0 => fun calls => .unfinished calls
  | fuel + 1 => Program.bind body fun
      | some value => Program.pure value
      | none => repeatUntil body fuel

variable {calls : List κ} {value : α} {answer : List κ → Option α} {call : α → κ}
variable {next : α → Program κ β}

@[simp]
theorem pure_apply : (pure value : Program κ α) calls = .returned value calls :=
  rfl

@[simp]
theorem ite_apply {condition : Prop} [Decidable condition] {program other : Program κ α} :
    (if condition then program else other) calls =
      if condition then program calls else other calls := by
  split_ifs <;> rfl

@[simp]
theorem make_apply :
    make answer call calls =
      match answer calls with
      | none => .blocked calls
      | some value => .returned value (calls ++ [call value]) :=
  rfl

/-- A program that starts with a call. -/
@[simp]
theorem make_bind_apply :
    (make answer call >>= next) calls =
      match answer calls with
      | none => .blocked calls
      | some value => next value (calls ++ [call value]) := by
  show Program.bind (make answer call) next calls = _
  rw [Program.bind, make]
  cases answer calls <;> rfl

end Program

/-! ## Triples -/

section Triples

variable {κ : Type u} {α : Type v} {β : Type v}

/-- What holds when a program returns, when it blocks and when its fuel has run out. -/
def Outcome.Ends (post : α → List κ → Prop) (stuck short : List κ → Prop) : Outcome κ α → Prop
  | .returned value calls => post value calls
  | .blocked calls => stuck calls
  | .unfinished calls => short calls

/-- From calls with the precondition the program ends as stated. -/
def Triple (pre : List κ → Prop) (program : Program κ α) (post : α → List κ → Prop)
    (stuck short : List κ → Prop) : Prop :=
  ∀ calls, pre calls → (program calls).Ends post stuck short

variable {pre weaker : List κ → Prop} {post stronger : α → List κ → Prop}
variable {stuck short : List κ → Prop} {program : Program κ α}

theorem Triple.pure {value : α} (holds : ∀ calls, pre calls → post value calls) :
    Triple pre (Pure.pure value : Program κ α) post stuck short :=
  holds

theorem Triple.bind {middle : α → List κ → Prop} {next : α → Program κ β}
    {last : β → List κ → Prop} (first : Triple pre program middle stuck short)
    (second : ∀ value, Triple (middle value) (next value) last stuck short) :
    Triple pre (program >>= next) last stuck short := by
  intro calls holds
  have ends := first calls holds
  show (Program.bind program next calls).Ends last stuck short
  rw [Program.bind]
  cases outcome : program calls with
  | returned value calls =>
      rw [outcome] at ends
      exact second value calls ends
  | blocked calls | unfinished calls =>
      rw [outcome] at ends
      exact ends

theorem Triple.make {answer : List κ → Option α} {call : α → κ}
    (answered : ∀ calls value, pre calls → answer calls = some value →
      post value (calls ++ [call value]))
    (unanswered : ∀ calls, pre calls → answer calls = none → stuck calls) :
    Triple pre (Program.make answer call) post stuck short := by
  intro calls holds
  rw [Program.make]
  cases given : answer calls with
  | none => exact unanswered calls holds given
  | some value => exact answered calls value holds given

theorem Triple.mono (triple : Triple weaker program post stuck short)
    (before : ∀ calls, pre calls → weaker calls)
    (after : ∀ value calls, post value calls → stronger value calls) :
    Triple pre program stronger stuck short := by
  intro calls holds
  have ends := triple calls (before calls holds)
  cases outcome : program calls with
  | returned value calls =>
      rw [outcome] at ends
      exact after value calls ends
  | blocked calls | unfinished calls =>
      rw [outcome] at ends
      exact ends

theorem Triple.ite {condition : Prop} [Decidable condition] {other : Program κ α}
    (yes : condition → Triple pre program post stuck short)
    (no : ¬condition → Triple pre other post stuck short) :
    Triple pre (if condition then program else other) post stuck short := by
  split_ifs with holds
  · exact yes holds
  · exact no holds

/-- What holds after a repetition: the end with a value, or the start of the next one. -/
def Repeats (post : α → List κ → Prop) (again : List κ → Prop) : Option α → List κ → Prop
  | some value => post value
  | none => again

/-- A body that keeps an invariant.  The fuel is enough when a rank falls in every repetition;
elsewhere the invariant holds when it has run out. -/
theorem Triple.repeatUntil {body : Program κ (Option α)} {rank : List κ → Nat} {scarce : Prop}
    (cut : scarce → ∀ calls, pre calls → short calls)
    (repeats : ∀ bound, Triple (fun calls => pre calls ∧ rank calls ≤ bound) body
      (Repeats post fun calls => pre calls ∧ (scarce ∨ rank calls < bound)) stuck short)
    {fuel : Nat} :
    Triple (fun calls => pre calls ∧ (scarce ∨ rank calls < fuel))
      (Program.repeatUntil body fuel) post stuck short := by
  induction fuel with
  | zero =>
      rintro calls ⟨holds, allowed | falls⟩
      · exact cut allowed calls holds
      · exact absurd falls (Nat.not_lt_zero _)
  | succ fuel ih =>
      rintro calls ⟨holds, enough⟩
      refine Triple.bind (repeats (rank calls)) (fun answer => ?_) calls ⟨holds, Nat.le_refl _⟩
      cases answer with
      | some value => exact fun _ => id
      | none =>
          refine ih.mono ?_ fun _ _ => id
          rintro later ⟨kept, falls⟩
          refine ⟨kept, ?_⟩
          rcases enough with allowed | enough
          · exact Or.inl allowed
          · exact falls.imp_right fun falls => Nat.lt_of_lt_of_le falls (Nat.le_of_lt_succ enough)

end Triples

/-! ## Laws -/

/-- Every call is permitted by the calls before it. -/
def Lawful {κ : Type u} (rule : List κ → κ → Prop) (calls : List κ) : Prop :=
  ∀ before call after, calls = before ++ call :: after → rule before call

section Lawful

variable {κ : Type u} {rule : List κ → κ → Prop} {calls : List κ} {call : κ}

theorem lawful_nil : Lawful rule [] := by
  intro before call after split
  exact absurd split.symm
    (List.append_ne_nil_of_right_ne_nil before (List.cons_ne_nil call after))

theorem lawful_concat_iff : Lawful rule (calls ++ [call]) ↔ Lawful rule calls ∧ rule calls call := by
  constructor
  · intro lawful
    refine ⟨fun before earlier after split => ?_, lawful calls call [] rfl⟩
    exact lawful before earlier (after ++ [call]) (by rw [split, List.append_assoc]; rfl)
  · rintro ⟨lawful, last⟩ before other after split
    rcases List.eq_nil_or_concat after with rfl | ⟨rest, final, rfl⟩
    · obtain ⟨rfl, same⟩ := List.append_inj' split rfl
      cases same
      exact last
    · rw [List.concat_eq_append, ← List.cons_append, ← List.append_assoc] at split
      exact lawful before other rest (List.append_inj' split rfl).1

theorem Lawful.concat (lawful : Lawful rule calls) (permitted : rule calls call) :
    Lawful rule (calls ++ [call]) :=
  lawful_concat_iff.mpr ⟨lawful, permitted⟩

end Lawful

end RtControl.Transition
