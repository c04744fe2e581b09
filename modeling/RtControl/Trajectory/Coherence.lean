import RtControl.Trajectory.Snapshot

/-!
# The coherence of the admission snapshot

The decision on a copy is the intended one.  Between two updates the cells hold the
values of the last one, apart from an age that a deactivation made invalid, and a copy
that the sequence number accepts is a copy of that update: the update that was last
finished when the copy began is still the last one when it ends.
-/

namespace RtControl.Trajectory

open RtControl.Transition RtControl.Codec

/-! ## The decision -/

/-- The position that the first point of the goal has for a joint. -/
def Goal.startOf (goal : Goal) (joint : String) : Option Double :=
  (goal.jointNames.zip goal.firstPositions).lookup joint

/-- A goal may start from a snapshot: the feedback is fresh, and every configured joint
is in the goal and starts within its tolerance, by the rounded difference of the doubles. -/
structure Admissible (rounding : Rounding) (config : Config) (check : StartCheck config.dof) (goal : Goal)
    (snapshot : Snapshot config.dof) : Prop where
  fresh : ∃ age : ℚ, snapshot.feedbackAgeMs = some age ∧ age ≤ check.maxFeedbackAgeMs
  close : ∀ joint, ∃ first actual : ℚ,
    goal.startOf (config.joints.get joint) = some (some first) ∧
      snapshot.positions joint = some actual ∧
      |rounding.round (first - actual)| ≤ check.positionTolerances joint

/-- Looking a joint up by its first index is looking it up in the paired lists. -/
theorem lookup_zip_eq_findIdx? {α : Type} (name : String) (names : List String)
    (values : List α) (paired : values.length = names.length) :
    (names.zip values).lookup name = (names.findIdx? (· = name)).bind fun i => values[i]? := by
  induction names generalizing values with
  | nil => simp
  | cons head names ih =>
      cases values with
      | nil => simp at paired
      | cons value values =>
          have rest := ih values (by simpa using paired)
          by_cases found : head = name
          · subst head
            simp [List.findIdx?_cons]
          · have other : (name == head) = false := by simpa using Ne.symm found
            rw [List.zip_cons_cons, List.lookup_cons, other, rest, List.findIdx?_cons]
            simp [found, Option.bind_map]

section Decision

variable {rounding : Rounding} {config : Config} {check : StartCheck config.dof} {goal : Goal}
  {snapshot : Snapshot config.dof}

theorem jointMismatch_eq_none_iff (joint : Fin config.dof) :
    jointMismatch rounding config check goal snapshot joint = none ↔
      ∃ first actual : ℚ,
        goal.startOf (config.joints.get joint) = some (some first) ∧
          snapshot.positions joint = some actual ∧
          |rounding.round (first - actual)| ≤ check.positionTolerances joint := by
  rw [Goal.startOf, lookup_zip_eq_findIdx? _ _ _ goal.one_position, jointMismatch]
  cases found : goal.jointNames.findIdx? (· = config.joints.get joint) with
  | none => simp
  | some goalIndex =>
      have inside : goalIndex < goal.firstPositions.length := by
        rw [goal.one_position]
        exact (List.findIdx?_eq_some_iff_findIdx_eq.mp found).1
      have first_eq := List.getElem?_eq_getElem inside
      cases first : goal.firstPositions[goalIndex] with
      | none => cases snapshot.positions joint <;> simp [first_eq, first]
      | some first => cases snapshot.positions joint <;> simp [first_eq, first]

/-- The decision accepts exactly the admissible goals. -/
theorem decideStart_eq_accepted_iff :
    decideStart rounding config check goal snapshot = .accepted ↔
      Admissible rounding config check goal snapshot := by
  have joints : firstMismatch rounding config check goal snapshot = none ↔
      ∀ joint, ∃ first actual : ℚ,
        goal.startOf (config.joints.get joint) = some (some first) ∧
          snapshot.positions joint = some actual ∧
          |rounding.round (first - actual)| ≤ check.positionTolerances joint := by
    rw [firstMismatch, List.findSome?_eq_none_iff]
    simp only [List.mem_finRange, true_implies, jointMismatch_eq_none_iff]
  constructor
  · intro accepted
    rw [decideStart] at accepted
    split at accepted
    · contradiction
    · rename_i age age_eq
      split at accepted
      · contradiction
      · rename_i young
        split at accepted
        · contradiction
        · rename_i passed
          exact ⟨⟨age, age_eq, not_lt.mp young⟩, joints.mp passed⟩
  · rintro ⟨⟨age, age_eq, young⟩, close⟩
    simp only [decideStart, age_eq, not_lt.mpr young, if_false, joints.mpr close]

end Decision

/-! ## What one step can do -/

/-- The steps of the lifecycle callbacks and of the update. -/
inductive Move {dof : ℕ} (enabled : Bool) (s : System dof) : System dof → Prop
  | activate (inactive : s.lifecycle = .inactive) :
      Move enabled s
        { s with
          lifecycle := .active
          activations := s.activations + 1
          cells := { s.cells with hasFeedbackAge := s.cells.hasFeedbackAge || enabled } }
  | deactivate (active : s.lifecycle = .active) :
      Move enabled s
        { s with
          lifecycle := .deactivating
          cells := { s.cells with hasFeedbackAge := false } }
  | invalidateAge (deactivating : s.lifecycle = .deactivating) :
      Move enabled s
        { s with
          lifecycle := .inactive
          cells := { s.cells with feedbackAgeMs := none } }
  | openSnapshot (positions : Fin dof → Double) (idle : s.writer = .idle)
      (active : s.lifecycle = .active) :
      Move enabled s
        { s with
          writer := .storing s.activations positions 0
          cells := { s.cells with sequence := s.cells.sequence + 1 } }
  | storePosition {activation : ℕ} {positions : Fin dof → Double} {index : ℕ}
      (storing : s.writer = .storing activation positions index) (inside : index < dof) :
      Move enabled s
        { s with
          writer := .storing activation positions (index + 1)
          cells :=
            { s.cells with
              positions := Function.update s.cells.positions ⟨index, inside⟩
                (positions ⟨index, inside⟩) } }
  | storeAge (feedbackAgeMs : Double) {activation : ℕ} {positions : Fin dof → Double}
      {index : ℕ} (storing : s.writer = .storing activation positions index)
      (stored : dof ≤ index) :
      Move enabled s
        { s with
          writer := .closing { feedbackAgeMs, positions, activation }
          cells := { s.cells with feedbackAgeMs } }
  | closeSnapshot {update : Update dof} (closing : s.writer = .closing update) :
      Move enabled s
        { s with
          writer := .idle
          updates := update :: s.updates
          cells := { s.cells with sequence := s.cells.sequence + 1 } }

section Inversion

variable {dof : ℕ} {enabled : Bool} {s t : System dof}

theorem move_of_lifecycleStep (event : Event dof)
    (moved : lifecycleStep enabled s event = some t) : Move enabled s t := by
  cases event with
  | activate =>
      obtain ⟨inactive, ⟨⟩⟩ := Option.ite_none_right_eq_some.mp moved
      exact .activate inactive
  | deactivate =>
      obtain ⟨active, ⟨⟩⟩ := Option.ite_none_right_eq_some.mp moved
      exact .deactivate active
  | invalidateAge =>
      obtain ⟨deactivating, ⟨⟩⟩ := Option.ite_none_right_eq_some.mp moved
      exact .invalidateAge deactivating
  | openSnapshot | storePosition | storeAge | closeSnapshot | validate => cases moved

theorem move_of_updateStep (event : Event dof) (moved : updateStep s event = some t) :
    Move enabled s t := by
  cases event with
  | openSnapshot positions =>
      simp only [updateStep] at moved
      split at moved
      · rename_i idle
        obtain ⟨active, ⟨⟩⟩ := Option.ite_none_right_eq_some.mp moved
        exact .openSnapshot positions idle active
      · cases moved
  | storePosition =>
      simp only [updateStep] at moved
      split at moved
      · rename_i storing
        split at moved
        · rename_i inside
          cases moved
          exact .storePosition storing inside
        · cases moved
      · cases moved
  | storeAge feedbackAgeMs =>
      simp only [updateStep] at moved
      split at moved
      · rename_i storing
        split at moved
        · cases moved
        · rename_i stored
          cases moved
          exact .storeAge feedbackAgeMs storing (not_lt.mp stored)
      · cases moved
  | closeSnapshot =>
      simp only [updateStep] at moved
      split at moved
      · rename_i closing
        cases moved
        exact .closeSnapshot closing
      · cases moved
  | activate | deactivate | invalidateAge | validate => cases moved

end Inversion

/-- A step is one of the other calls or the next step of the validation. -/
theorem step_cases {rounding : Rounding} {config : Config} {goal : Goal} {s t : System config.dof}
    {event : Event config.dof} (stepped : step rounding config goal s event = some t) :
    Move config.startCheck.isSome s t ∨
      ∃ validator, validatorStep rounding config goal s = some validator ∧
        t = { s with validator := validator } := by
  have ofUpdate : ∀ {event : Event config.dof},
      (if config.startCheck.isSome then updateStep s event else none) = some t →
        Move config.startCheck.isSome s t :=
    fun moved => move_of_updateStep _ (Option.ite_none_right_eq_some.mp moved).2
  cases event with
  | activate => exact .inl (move_of_lifecycleStep .activate stepped)
  | deactivate => exact .inl (move_of_lifecycleStep .deactivate stepped)
  | invalidateAge => exact .inl (move_of_lifecycleStep .invalidateAge stepped)
  | openSnapshot | storePosition | storeAge | closeSnapshot => exact .inl (ofUpdate stepped)
  | validate =>
      obtain ⟨validator, next, rfl⟩ := Option.map_eq_some_iff.mp stepped
      exact .inr ⟨validator, next, rfl⟩

/-! ## The cells between two updates -/

/-- The positions below the next index agree after one more load. -/
theorem update_agrees {dof index : ℕ} {copy cells : Fin dof → Double} (inside : index < dof)
    (agree : ∀ joint : Fin dof, joint < index → copy joint = cells joint)
    (joint : Fin dof) (before : joint < index + 1) :
    Function.update copy ⟨index, inside⟩ (cells ⟨index, inside⟩) joint = cells joint := by
  by_cases here : joint = ⟨index, inside⟩
  · subst here
    simp
  · have different := Fin.val_ne_of_ne here
    rw [Function.update_of_ne here]
    exact agree joint (by simp only at different; omega)

section Cells

variable {dof : ℕ} {enabled : Bool} {s t : System dof}

/-- An activation of the run so far. -/
def System.Began (s : System dof) (activation : ℕ) : Prop :=
  1 ≤ activation ∧ activation ≤ s.activations

/-- The cells hold the values of an update, but a later deactivation may have made the
age invalid. -/
structure System.Holds (s : System dof) (update : Update dof) : Prop where
  positions : s.cells.positions = update.positions
  age : s.cells.feedbackAgeMs = update.feedbackAgeMs ∨
    s.cells.feedbackAgeMs = none ∧
      (update.activation < s.activations ∨ s.lifecycle = .inactive)

/-- The contents of the cells, as far as the update in progress has stored them. -/
def System.Stored (s : System dof) : Prop :=
  match s.writer with
  | .idle =>
      (s.updates = [] → s.cells.feedbackAgeMs = none) ∧
        ∀ update ∈ s.updates.head?, s.Holds update
  | .storing activation positions index =>
      s.Began activation ∧
        ∀ joint : Fin dof, joint < index → s.cells.positions joint = positions joint
  | .closing update => s.Began update.activation ∧ s.Holds update

/-- The invariant of the lifecycle callbacks and the update. -/
structure System.Coherent (enabled : Bool) (s : System dof) : Prop where
  sequence : s.cells.sequence =
    sequenceNumber (2 * s.updates.length + s.writer.isOpen.toNat)
  activated : s.lifecycle ≠ .inactive → 1 ≤ s.activations
  available : s.lifecycle = .active → enabled = true → s.cells.hasFeedbackAge = true
  began : ∀ update ∈ s.updates, s.Began update.activation
  stored : s.Stored

theorem System.Began.mono {activation : ℕ} (began : s.Began activation)
    (later : s.activations ≤ t.activations) : t.Began activation :=
  ⟨began.1, began.2.trans later⟩

theorem activations_le_of_move (move : Move enabled s t) : s.activations ≤ t.activations := by
  cases move <;> simp

theorem sequence_of_move (move : Move enabled s t)
    (sequence : s.cells.sequence =
      sequenceNumber (2 * s.updates.length + s.writer.isOpen.toNat)) :
    t.cells.sequence = sequenceNumber (2 * t.updates.length + t.writer.isOpen.toNat) := by
  cases move with
  | activate | deactivate | invalidateAge => exact sequence
  | openSnapshot positions idle =>
      rw [idle] at sequence
      exact (congrArg (· + 1) sequence).trans (sequenceNumber_succ _).symm
  | storePosition storing | storeAge _ storing =>
      rw [storing] at sequence
      exact sequence
  | closeSnapshot closing =>
      rw [closing] at sequence
      exact (congrArg (· + 1) sequence).trans (sequenceNumber_succ _).symm

theorem began_of_move (move : Move enabled s t) (coherent : s.Coherent enabled) :
    ∀ update ∈ t.updates, t.Began update.activation := by
  have earlier : ∀ update ∈ s.updates, t.Began update.activation :=
    fun update member => (coherent.began update member).mono (activations_le_of_move move)
  cases move with
  | closeSnapshot closing =>
      have stored := coherent.stored
      rw [System.Stored, closing] at stored
      intro update member
      rcases List.mem_cons.mp member with rfl | member
      · exact stored.1
      · exact earlier update member
  | _ => exact earlier

/-- What the steps of the lifecycle callbacks have in common: they leave the update in
progress and the positions alone, and an age that stays invalid belongs to an earlier
activation. -/
structure LifecycleMove (s t : System dof) : Prop where
  writer : t.writer = s.writer
  updates : t.updates = s.updates
  positions : t.cells.positions = s.cells.positions
  activations : s.activations ≤ t.activations
  age : t.cells.feedbackAgeMs = none ∧ t.lifecycle = .inactive ∨
    t.cells.feedbackAgeMs = s.cells.feedbackAgeMs ∧
      (s.lifecycle = .inactive → s.activations < t.activations)

theorem System.Holds.of_lifecycleMove {update : Update dof} (move : LifecycleMove s t)
    (began : s.Began update.activation) (holds : s.Holds update) : t.Holds update := by
  refine ⟨move.positions.trans holds.positions, ?_⟩
  rcases move.age with ⟨invalid, inactive⟩ | ⟨age, later⟩
  · exact .inr ⟨invalid, .inr inactive⟩
  · rw [age]
    rcases holds.age with held | ⟨invalid, earlier | inactive⟩
    · exact .inl held
    · exact .inr ⟨invalid, .inl (earlier.trans_le move.activations)⟩
    · exact .inr ⟨invalid, .inl (began.2.trans_lt (later inactive))⟩

theorem stored_of_lifecycleMove (coherent : s.Coherent enabled) (move : LifecycleMove s t) :
    t.Stored := by
  have stored := coherent.stored
  rw [System.Stored] at stored ⊢
  rw [move.writer, move.updates]
  cases writer : s.writer with
  | idle =>
      rw [writer] at stored
      constructor
      · intro none_finished
        rcases move.age with ⟨invalid, _⟩ | ⟨age, _⟩
        · exact invalid
        · exact age.trans (stored.1 none_finished)
      · intro update last
        have finished := coherent.began update (List.mem_of_mem_head? last)
        exact (stored.2 update last).of_lifecycleMove move finished
  | storing activation positions index =>
      rw [writer] at stored
      refine ⟨stored.1.mono move.activations, ?_⟩
      intro joint before
      rw [move.positions]
      exact stored.2 joint before
  | closing update =>
      rw [writer] at stored
      exact ⟨stored.1.mono move.activations, stored.2.of_lifecycleMove move stored.1⟩

theorem stored_of_move (move : Move enabled s t) (coherent : s.Coherent enabled) :
    t.Stored := by
  have stored := coherent.stored
  cases move with
  | activate =>
      refine stored_of_lifecycleMove coherent ⟨rfl, rfl, rfl, Nat.le_succ _, .inr ⟨rfl, ?_⟩⟩
      exact fun _ => Nat.lt_succ_self _
  | deactivate active =>
      refine stored_of_lifecycleMove coherent ⟨rfl, rfl, rfl, le_refl _, .inr ⟨rfl, ?_⟩⟩
      intro inactive
      rw [active] at inactive
      cases inactive
  | invalidateAge =>
      exact stored_of_lifecycleMove coherent ⟨rfl, rfl, rfl, le_refl _, .inl ⟨rfl, rfl⟩⟩
  | openSnapshot positions idle active =>
      have running : s.lifecycle ≠ .inactive := by simp [active]
      exact ⟨⟨coherent.activated running, le_refl _⟩, fun _ before => absurd before (by simp)⟩
  | @storePosition activation positions index storing inside =>
      rw [System.Stored, storing] at stored
      exact ⟨stored.1, update_agrees inside stored.2⟩
  | @storeAge feedbackAgeMs activation positions index storing complete =>
      rw [System.Stored, storing] at stored
      refine ⟨stored.1, ?_, .inl rfl⟩
      funext joint
      exact stored.2 joint (joint.isLt.trans_le complete)
  | closeSnapshot closing =>
      rw [System.Stored, closing] at stored
      refine ⟨by simp, ?_⟩
      intro update last
      cases last
      exact ⟨stored.2.positions, stored.2.age⟩

/-- The lifecycle callbacks and the update keep the invariant. -/
theorem System.Coherent.of_move (coherent : s.Coherent enabled) (move : Move enabled s t) :
    t.Coherent enabled where
  sequence := sequence_of_move move coherent.sequence
  began := began_of_move move coherent
  stored := stored_of_move move coherent
  activated := by
    cases move with
    | activate => simp
    | deactivate active => exact fun _ => coherent.activated (by simp [active])
    | invalidateAge => simp
    | _ => exact coherent.activated
  available := by
    cases move with
    | activate => simp +contextual
    | deactivate | invalidateAge => simp
    | _ => exact coherent.available

end Cells

/-! ## The copy of the validation -/

section Copy

variable {dof : ℕ} {enabled : Bool} {s t : System dof} {attempt : Attempt}
  {copy : Snapshot dof} {index : ℕ}

/-- A pass of the copy loop began between two updates. -/
structure Attempt.Opened (attempt : Attempt) (s : System dof) : Prop where
  finished : attempt.begunBefore ≤ s.updates.length
  sequence : attempt.sequenceBefore = sequenceNumber (2 * attempt.begunBefore)

/-- Unless another update began, the values copied so far are those of the last one, but
the age may have been invalid. -/
structure Attempt.Copied (attempt : Attempt) (copy : Snapshot dof) (index : ℕ)
    (s : System dof) : Prop extends attempt.Opened s where
  age : s.begun = attempt.begunBefore → copy.feedbackAgeMs = none ∨
    ∃ update ∈ s.updates.head?, copy.feedbackAgeMs = update.feedbackAgeMs
  positions : s.begun = attempt.begunBefore → ∀ joint : Fin dof, joint < index →
    copy.positions joint = s.cells.positions joint

theorem updates_suffix_of_move (move : Move enabled s t) : s.updates <:+ t.updates := by
  cases move with
  | closeSnapshot => exact List.suffix_cons ..
  | _ => exact List.suffix_refl _

theorem validator_of_move (move : Move enabled s t) : t.validator = s.validator := by
  cases move <;> rfl

/-- While no update begins, the finished updates and the positions stay. -/
theorem unchanged_of_begun_le (move : Move enabled s t)
    (quiet : t.begun ≤ s.updates.length) :
    t.updates = s.updates ∧ t.cells.positions = s.cells.positions ∧
      s.begun = s.updates.length := by
  cases move with
  | activate | deactivate | invalidateAge =>
      exact ⟨rfl, rfl, le_antisymm quiet (Nat.le_add_right ..)⟩
  | openSnapshot | storePosition | storeAge | closeSnapshot =>
      exact absurd quiet (Nat.not_succ_le_self _)

theorem Attempt.Opened.of_move (opened : attempt.Opened s) (move : Move enabled s t) :
    attempt.Opened t :=
  ⟨opened.finished.trans (updates_suffix_of_move move).length_le, opened.sequence⟩

theorem Attempt.Copied.of_move (copied : attempt.Copied copy index s)
    (move : Move enabled s t) : attempt.Copied copy index t := by
  have unchanged : t.begun = attempt.begunBefore →
      t.updates = s.updates ∧ t.cells.positions = s.cells.positions ∧
        s.begun = attempt.begunBefore := by
    intro same
    have quiet : t.begun ≤ s.updates.length := same.trans_le copied.finished
    rcases unchanged_of_begun_le move quiet with ⟨updates, positions, begun⟩
    have reached : s.updates.length ≤ t.begun := by
      rw [← updates]
      exact Nat.le_add_right ..
    exact ⟨updates, positions, by omega⟩
  refine ⟨copied.toOpened.of_move move, ?_, ?_⟩
  · intro same
    rcases unchanged same with ⟨updates, _, begun⟩
    rw [updates]
    exact copied.age begun
  · intro same
    rcases unchanged same with ⟨_, positions, begun⟩
    rw [positions]
    exact copied.positions begun

/-! The progress of the validation itself does not matter to what is in the cells. -/

theorem System.Coherent.set_validator (coherent : s.Coherent enabled)
    (validator : Validator dof) : System.Coherent enabled { s with validator := validator } := by
  refine ⟨coherent.sequence, coherent.activated, coherent.available, coherent.began, ?_⟩
  have stored := coherent.stored
  rw [System.Stored] at stored ⊢
  cases writer : s.writer with
  | idle =>
      rw [writer] at stored
      refine ⟨stored.1, ?_⟩
      intro update last
      have held := stored.2 update last
      exact ⟨held.positions, held.age⟩
  | storing =>
      rw [writer] at stored
      exact stored
  | closing =>
      rw [writer] at stored
      exact ⟨stored.1, stored.2.positions, stored.2.age⟩

theorem Attempt.Opened.set_validator (opened : attempt.Opened s) (validator : Validator dof) :
    attempt.Opened { s with validator := validator } :=
  ⟨opened.finished, opened.sequence⟩

theorem Attempt.Copied.set_validator (copied : attempt.Copied copy index s)
    (validator : Validator dof) :
    attempt.Copied copy index { s with validator := validator } :=
  ⟨copied.toOpened.set_validator validator, copied.age, copied.positions⟩

/-- An even sequence number is seen between two updates. -/
theorem System.Coherent.begun_of_even (coherent : s.Coherent enabled)
    (even : s.cells.sequence &&& 1 = 0) :
    s.writer = .idle ∧ s.begun = s.updates.length := by
  rw [coherent.sequence, sequenceNumber_and_one_eq_zero_iff] at even
  cases writer : s.writer with
  | idle => exact ⟨rfl, by simp [System.begun, writer, Writer.isOpen]⟩
  | storing | closing =>
      rw [writer] at even
      simp [Writer.isOpen] at even

/-- The first load of a pass. -/
theorem opened_of_even (coherent : s.Coherent enabled) (even : s.cells.sequence &&& 1 = 0)
    (number : ℕ) :
    Attempt.Opened
      { number, sequenceBefore := s.cells.sequence, begunBefore := s.begun } s := by
  rcases coherent.begun_of_even even with ⟨idle, begun⟩
  refine ⟨begun.le, ?_⟩
  rw [coherent.sequence, begun, idle]
  rfl

/-- The load of the age. -/
theorem copied_of_opened (coherent : s.Coherent enabled) (opened : attempt.Opened s) :
    attempt.Copied { feedbackAgeMs := s.cells.feedbackAgeMs, positions := fun _ => some 0 } 0
      s := by
  refine ⟨opened, ?_, fun _ _ before => absurd before (Nat.not_lt_zero _)⟩
  intro same
  have stored := coherent.stored
  have idle : s.writer = .idle := by
    have finished := opened.finished
    rw [← same, System.begun] at finished
    cases writer : s.writer with
    | idle => rfl
    | storing | closing =>
        rw [writer] at finished
        exact absurd finished (Nat.not_succ_le_self _)
  rw [System.Stored, idle] at stored
  cases last : s.updates.head? with
  | none => exact .inl (stored.1 (List.head?_eq_none_iff.mp last))
  | some update =>
      rcases (stored.2 update last).age with held | ⟨invalid, _⟩
      · exact .inr ⟨update, rfl, held⟩
      · exact .inl invalid

/-- The load of one position. -/
theorem Attempt.Copied.load (copied : attempt.Copied copy index s) (inside : index < dof) :
    attempt.Copied
      { copy with
        positions := Function.update copy.positions ⟨index, inside⟩
          (s.cells.positions ⟨index, inside⟩) }
      (index + 1) s := by
  refine ⟨copied.toOpened, copied.age, ?_⟩
  intro same
  exact update_agrees inside (copied.positions same)

/-- A copy that the second load of the sequence number accepts has the values of the last
update, unless its age was invalid or the sequence number went all the way around. -/
theorem Attempt.Copied.of_update (copied : attempt.Copied copy index s)
    (coherent : s.Coherent enabled) (complete : dof ≤ index)
    (equal : attempt.sequenceBefore = s.cells.sequence)
    (even : s.cells.sequence &&& 1 = 0) (few : s.begun - attempt.begunBefore < 2 ^ 63)
    (valid : copy.feedbackAgeMs ≠ none) :
    ∃ update ∈ s.updates, copy = update.toSnapshot := by
  rcases coherent.begun_of_even even with ⟨idle, begun⟩
  have same : s.begun = attempt.begunBefore := by
    have finished := copied.finished
    rw [coherent.sequence, copied.sequence, idle] at equal
    have counted : 2 * attempt.begunBefore = 2 * s.updates.length + 0 :=
      eq_of_sequenceNumber_eq (by omega) (by omega) equal
    omega
  rcases copied.age same with invalid | ⟨update, last, age⟩
  · exact absurd invalid valid
  · have stored := coherent.stored
    rw [System.Stored, idle] at stored
    have holds := stored.2 update last
    refine ⟨update, List.mem_of_mem_head? last, Snapshot.ext age ?_⟩
    funext joint
    rw [copied.positions same joint (joint.isLt.trans_le complete), holds.positions]

end Copy

end RtControl.Trajectory
