import RtControl.Trajectory.Coherence

/-!
# Admission on one coherent snapshot

An accepted goal was tested against the values of one single update.  The sequence number
is 64 bits wide, so that this takes fewer than `2 ^ 63` updates during the copy: after a
full turn a copy of two updates is accepted.
-/

namespace RtControl.Trajectory

open RtControl.Transition RtControl.Codec

/-! ## Whole runs -/

section Runs

variable {rounding : Rounding} {config : Config} {check : StartCheck config.dof} {goal : Goal}
  {s t : System config.dof}

/-- The progress of the validation.  An accepted copy is one update's, unless the sequence
number went all the way around. -/
def System.Validated (rounding : Rounding) (check : StartCheck config.dof) (goal : Goal)
    (s : System config.dof) : Prop :=
  match s.validator with
  | .ready | .before _ => True
  | .loadingAge attempt => attempt.Opened s
  | .loadingPositions attempt copy index => attempt.Copied copy index s
  | .returned verdict tested =>
      verdict = .accepted → ∃ copy, tested = some copy ∧
        Admissible rounding config check goal copy.snapshot ∧
          (copy.updatesDuring < 2 ^ 63 →
            ∃ update ∈ s.updates, copy.snapshot = update.toSnapshot)

theorem System.Validated.of_move {enabled : Bool} (validated : s.Validated rounding check goal)
    (move : Move enabled s t) : t.Validated rounding check goal := by
  rw [System.Validated] at validated ⊢
  rw [validator_of_move move]
  cases validator : s.validator with
  | ready | before => trivial
  | loadingAge attempt =>
      rw [validator] at validated
      exact Attempt.Opened.of_move validated move
  | loadingPositions attempt copy index =>
      rw [validator] at validated
      exact Attempt.Copied.of_move validated move
  | returned verdict tested =>
      rw [validator] at validated
      intro accepted
      rcases validated accepted with ⟨copy, tested_eq, admissible, single⟩
      refine ⟨copy, tested_eq, admissible, ?_⟩
      intro few
      rcases single few with ⟨update, member, equal⟩
      exact ⟨update, (updates_suffix_of_move move).subset member, equal⟩

theorem validated_nextAttempt (number : ℕ) :
    System.Validated rounding check goal { s with validator := nextAttempt number } := by
  rw [nextAttempt]
  split
  · trivial
  · intro accepted
    cases accepted

/-- The validation keeps its own invariant. -/
theorem validated_of_validatorStep {enabled : Bool} {validator : Validator config.dof}
    (checked : config.startCheck = some check) (coherent : s.Coherent enabled)
    (validated : s.Validated rounding check goal)
    (next : validatorStep rounding config goal s = some validator) :
    System.Validated rounding check goal { s with validator := validator } := by
  rw [System.Validated] at validated
  cases current : s.validator with
  | ready =>
      simp only [validatorStep, checked, current] at next
      split at next
      · cases next
        trivial
      · cases next
        intro accepted
        cases accepted
  | before number =>
      simp only [validatorStep, checked, current] at next
      split at next
      · cases next
        exact validated_nextAttempt number
      · rename_i even
        cases next
        exact (opened_of_even coherent (not_not.mp even) number).set_validator _
  | loadingAge attempt =>
      rw [current] at validated
      simp only [validatorStep, checked, current] at next
      cases next
      exact (copied_of_opened coherent validated).set_validator _
  | loadingPositions attempt copy index =>
      rw [current] at validated
      simp only [validatorStep, checked, current] at next
      split at next
      · rename_i inside
        cases next
        exact (validated.load inside).set_validator _
      · rename_i complete
        split at next
        · rename_i unchanged
          cases next
          intro accepted
          have admissible := decideStart_eq_accepted_iff.mp accepted
          refine ⟨_, rfl, admissible, ?_⟩
          intro few
          have valid : copy.feedbackAgeMs ≠ none := by
            rcases admissible.fresh with ⟨age, age_eq, _⟩
            simp [age_eq]
          exact validated.of_update coherent (not_lt.mp complete) unchanged.1 unchanged.2 few
            valid
        · cases next
          exact validated_nextAttempt attempt.number
  | returned =>
      simp [validatorStep, checked, current] at next

/-- The invariant holds in every state that a run reaches. -/
theorem coherent_of_reachable (checked : config.startCheck = some check)
    (reachable : Reachable (step rounding config goal) unguarded {} s) :
    s.Coherent true ∧ s.Validated rounding check goal := by
  refine reachable.invariant
    (fun s : System config.dof => s.Coherent true ∧ s.Validated rounding check goal) ?_ ?_
  · refine ⟨⟨rfl, by simp, by simp, by simp, ?_⟩, trivial⟩
    exact ⟨fun _ => rfl, by simp⟩
  · rintro s t event ⟨coherent, validated⟩ - stepped
    have enabled : config.startCheck.isSome = true := by simp [checked]
    rcases step_cases stepped with move | ⟨validator, next, rfl⟩
    · rw [enabled] at move
      exact ⟨coherent.of_move move, validated.of_move move⟩
    · exact ⟨coherent.set_validator validator,
        validated_of_validatorStep checked coherent validated next⟩

/-! ## A call without a concurrent update -/

/-- The snapshot that the cells hold. -/
def System.held (s : System config.dof) : Snapshot config.dof where
  feedbackAgeMs := s.cells.feedbackAgeMs
  positions := s.cells.positions

/-- The validation, run without any other step, accepts the goal. -/
def AcceptsAlone (rounding : Rounding) (config : Config) (goal : Goal)
    (s : System config.dof) : Prop :=
  ∃ steps t tested,
    run (step rounding config goal) unguarded s (List.replicate steps .validate) = some t ∧
      t.validator = .returned .accepted tested

theorem AcceptsAlone.of_step {validator : Validator config.dof}
    (next : validatorStep rounding config goal s = some validator)
    (accepts : AcceptsAlone rounding config goal { s with validator := validator }) :
    AcceptsAlone rounding config goal s := by
  rcases accepts with ⟨steps, t, tested, ran, returned⟩
  refine ⟨steps + 1, t, tested, ?_, returned⟩
  rw [List.replicate_succ, run, step, next]
  exact ran

theorem acceptsAlone_of_returned {tested : Option (Tested config.dof)}
    (returned : s.validator = .returned .accepted tested) :
    AcceptsAlone rounding config goal s :=
  ⟨0, s, tested, rfl, returned⟩

section Equations

variable (rounding goal) {attempt : Attempt} {copy : Snapshot config.dof} {index : ℕ}

theorem validatorStep_ready (checked : config.startCheck = some check)
    (called : s.validator = .ready) (available : s.cells.hasFeedbackAge = true) :
    validatorStep rounding config goal s = some (.before 0) := by
  simp only [validatorStep, checked, called, available, if_true]

theorem validatorStep_before {number : ℕ} (checked : config.startCheck = some check)
    (passing : s.validator = .before number) (even : s.cells.sequence &&& 1 = 0) :
    validatorStep rounding config goal s = some (.loadingAge
      { number, sequenceBefore := s.cells.sequence, begunBefore := s.begun }) := by
  simp only [validatorStep, checked, passing, even, ne_eq, not_true_eq_false, if_false]

theorem validatorStep_loadingAge (checked : config.startCheck = some check)
    (loading : s.validator = .loadingAge attempt) :
    validatorStep rounding config goal s = some (.loadingPositions attempt
      { feedbackAgeMs := s.cells.feedbackAgeMs, positions := fun _ => some 0 } 0) := by
  simp only [validatorStep, checked, loading]

theorem validatorStep_loadingPositions (checked : config.startCheck = some check)
    (loading : s.validator = .loadingPositions attempt copy index)
    (inside : index < config.dof) :
    validatorStep rounding config goal s = some (.loadingPositions attempt
      { copy with
        positions := Function.update copy.positions ⟨index, inside⟩
          (s.cells.positions ⟨index, inside⟩) }
      (index + 1)) := by
  simp only [validatorStep, checked, loading, dif_pos inside]

theorem validatorStep_unchanged (checked : config.startCheck = some check)
    (loading : s.validator = .loadingPositions attempt copy index)
    (complete : config.dof ≤ index) (unchanged : attempt.sequenceBefore = s.cells.sequence)
    (even : s.cells.sequence &&& 1 = 0) :
    validatorStep rounding config goal s = some (.returned
      (decideStart rounding config check goal copy)
      (some { snapshot := copy, updatesDuring := s.begun - attempt.begunBefore })) := by
  simp only [validatorStep, checked, loading, dif_neg (not_lt.mpr complete), unchanged, even,
    and_self, if_true]

end Equations

/-- The copy loop finishes its pass while the cells stay as they are. -/
theorem acceptsAlone_of_loadingPositions {attempt : Attempt} (remaining : ℕ)
    {copy : Snapshot config.dof} {index : ℕ} (checked : config.startCheck = some check)
    (loading : s.validator = .loadingPositions attempt copy index)
    (count : index + remaining = config.dof)
    (age : copy.feedbackAgeMs = s.cells.feedbackAgeMs)
    (positions : ∀ joint : Fin config.dof, joint < index →
      copy.positions joint = s.cells.positions joint)
    (unchanged : attempt.sequenceBefore = s.cells.sequence)
    (even : s.cells.sequence &&& 1 = 0)
    (admissible : Admissible rounding config check goal s.held) :
    AcceptsAlone rounding config goal s := by
  induction remaining generalizing s copy index with
  | zero =>
      have copied : copy = s.held := by
        refine Snapshot.ext age ?_
        funext joint
        exact positions joint (by omega)
      have next := validatorStep_unchanged rounding goal checked loading count.ge unchanged even
      rw [copied, decideStart_eq_accepted_iff.mpr admissible] at next
      exact .of_step next (acceptsAlone_of_returned rfl)
  | succ remaining ih =>
      have inside : index < config.dof := by omega
      have next := validatorStep_loadingPositions rounding goal checked loading inside
      refine .of_step next (ih rfl (by omega) age ?_ unchanged even admissible)
      exact update_agrees inside positions

/-- Without a concurrent update, a call in an active controller accepts what the held
snapshot allows. -/
theorem acceptsAlone_of_active (checked : config.startCheck = some check)
    (coherent : s.Coherent true) (active : s.lifecycle = .active) (idle : s.writer = .idle)
    (called : s.validator = .ready)
    (admissible : Admissible rounding config check goal s.held) :
    AcceptsAlone rounding config goal s := by
  have even : s.cells.sequence &&& 1 = 0 := by
    rw [coherent.sequence, idle, sequenceNumber_and_one_eq_zero_iff]
    exact even_two_mul _
  apply AcceptsAlone.of_step
  · exact validatorStep_ready rounding goal checked called (coherent.available active rfl)
  apply AcceptsAlone.of_step
  · exact validatorStep_before rounding goal checked rfl even
  apply AcceptsAlone.of_step
  · exact validatorStep_loadingAge rounding goal checked rfl
  exact acceptsAlone_of_loadingPositions config.dof checked rfl (Nat.zero_add _) rfl
    (fun _ before => absurd before (Nat.not_lt_zero _)) rfl even admissible

/-- The cells hold the last update of the current activation. -/
theorem held_eq_of_active {update : Update config.dof} (coherent : s.Coherent true)
    (active : s.lifecycle = .active) (idle : s.writer = .idle)
    (last : s.updates.head? = some update) (current : update.activation = s.activations) :
    s.held = update.toSnapshot := by
  have stored := coherent.stored
  rw [System.Stored, idle] at stored
  have holds := stored.2 update last
  refine Snapshot.ext ?_ holds.positions
  rcases holds.age with held | ⟨_, earlier | inactive⟩
  · exact held
  · omega
  · rw [active] at inactive
    cases inactive

/-- **Admission on one snapshot.**  An accepted goal was tested against admissible values,
and these are the values of one update of some activation, provided that fewer than
`2 ^ 63` updates began during the copy.  Conversely, a call during which no update runs
accepts every goal that is admissible for the held snapshot, and the held snapshot is the
last update of the current activation. -/
theorem admission_tests_one_update (checked : config.startCheck = some check)
    (reachable : Reachable (step rounding config goal) unguarded {} s) :
    (∀ tested, s.validator = .returned .accepted tested →
      ∃ copy, tested = some copy ∧ Admissible rounding config check goal copy.snapshot ∧
        (copy.updatesDuring < 2 ^ 63 →
          ∃ update ∈ s.updates, s.Began update.activation ∧
            copy.snapshot = update.toSnapshot)) ∧
      (s.lifecycle = .active → s.writer = .idle →
        (s.validator = .ready → Admissible rounding config check goal s.held →
          AcceptsAlone rounding config goal s) ∧
        ∀ update, s.updates.head? = some update → update.activation = s.activations →
          s.held = update.toSnapshot) := by
  rcases coherent_of_reachable checked reachable with ⟨coherent, validated⟩
  constructor
  · intro tested returned
    rw [System.Validated, returned] at validated
    rcases validated rfl with ⟨copy, tested_eq, admissible, single⟩
    refine ⟨copy, tested_eq, admissible, ?_⟩
    intro few
    rcases single few with ⟨update, member, equal⟩
    exact ⟨update, member, coherent.began update member, equal⟩
  · intro active idle
    constructor
    · intro called admissible
      exact acceptsAlone_of_active checked coherent active idle called admissible
    · intro update last current
      exact held_eq_of_active coherent active idle last current

end Runs

/-- Unit tolerances for two joints. -/
def pairCheck : StartCheck 2 where
  positionTolerances := fun _ => 1
  tolerances_nonneg := by simp
  maxFeedbackAgeMs := (500 : ℚ)

abbrev pairConfig : Config where
  joints := ["left", "right"]
  startCheck := some pairCheck

/-- A goal that starts with both joints at zero. -/
def originGoal : Goal where
  jointNames := ["left", "right"]
  firstPositions := [some 0, some 0]
  one_position := rfl

/-- A fresh snapshot with the given positions. -/
def pairAt (left right : ℚ) : Snapshot 2 where
  feedbackAgeMs := some 1
  positions := fun joint => if joint = 0 then some left else some right

theorem admissible_pairAt_iff (left right : ℚ) :
    Admissible .exact pairConfig pairCheck originGoal (pairAt left right) ↔ |left| ≤ 1 ∧ |right| ≤ 1 := by
  constructor
  · rintro ⟨_, close⟩
    rcases close 0 with ⟨first, actual, first_eq, actual_eq, near⟩
    rcases close 1 with ⟨first', actual', first_eq', actual_eq', near'⟩
    cases first_eq
    cases first_eq'
    cases actual_eq
    cases actual_eq'
    simp only [Rounding.exact_round, zero_sub, abs_neg] at near near'
    exact ⟨near, near'⟩
  · rintro ⟨nearLeft, nearRight⟩
    refine ⟨⟨1, rfl, ?_⟩, ?_⟩
    · exact WithTop.coe_le_coe.mpr (by decide +kernel)
    · refine Fin.forall_fin_two.mpr ⟨?_, ?_⟩
      · exact ⟨0, left, rfl, rfl, by simpa [pairCheck] using nearLeft⟩
      · exact ⟨0, right, rfl, rfl, by simpa [pairCheck] using nearRight⟩

/-- A goal was accepted on a copy that overlaps few updates. -/
def System.acceptedInTime {dof : ℕ} (s : System dof) : Bool :=
  match s.validator with
  | .returned .accepted (some copy) => copy.updatesDuring < 2 ^ 63
  | _ => false

/-- One update, and a call that accepts the goal. -/
theorem admission_tests_one_update_of_fresh :
    ∃ s copy, Reachable (step .exact pairConfig originGoal) unguarded {} s ∧
      s.validator = .returned .accepted (some copy) ∧
      ∃ update ∈ s.updates, s.Began update.activation ∧
        copy.snapshot = update.toSnapshot := by
  have ran : (run (step .exact pairConfig originGoal) unguarded {}
      [.activate, .openSnapshot (pairAt 0 0).positions, .storePosition, .storePosition,
        .storeAge (some 1), .closeSnapshot, .validate, .validate, .validate, .validate,
        .validate, .validate]).any System.acceptedInTime = true := by
    decide +kernel
  rcases exists_reachable_of_run ran with ⟨s, reachable, accepted⟩
  rw [System.acceptedInTime] at accepted
  split at accepted
  · rename_i copy returned
    have checked : pairConfig.startCheck = some pairCheck := rfl
    have tests := admission_tests_one_update checked reachable
    rcases tests.1 _ returned with ⟨_, ⟨⟩, _, single⟩
    exact ⟨s, copy, reachable, returned, single (of_decide_eq_true accepted)⟩
  · contradiction

/-! ## A full turn of the sequence number -/

section Turn

variable {rounding : Rounding} {config : Config} {check : StartCheck config.dof}
  {s : System config.dof}

/-- The state after one whole update. -/
def afterUpdate (snapshot : Snapshot config.dof) (s : System config.dof) :
    System config.dof :=
  { s with
    cells :=
      { s.cells with
        sequence := s.cells.sequence + 1 + 1
        feedbackAgeMs := snapshot.feedbackAgeMs
        positions := snapshot.positions }
    updates := { toSnapshot := snapshot, activation := s.activations } :: s.updates }

/-- The stores of the remaining positions. -/
theorem reachable_storePositions (goal : Goal) {activation : ℕ}
    {positions : Fin config.dof → Double} (remaining : ℕ) {index : ℕ}
    (checked : config.startCheck = some check)
    (storing : s.writer = .storing activation positions index)
    (count : index + remaining = config.dof)
    (stored : ∀ joint : Fin config.dof, joint < index →
      s.cells.positions joint = positions joint) :
    Reachable (step rounding config goal) unguarded s
      { s with
        writer := .storing activation positions config.dof
        cells := { s.cells with positions := positions } } := by
  induction remaining generalizing s index with
  | zero =>
      have complete : s.cells.positions = positions := by
        funext joint
        exact stored joint (by omega)
      have last : s.writer = .storing activation positions config.dof :=
        storing.trans (congrArg (Writer.storing activation positions) count)
      have unchanged :
          { s with
            writer := .storing activation positions config.dof
            cells := { s.cells with positions := positions } } = s := by
        rw [← last, ← complete]
      rw [unchanged]
      exact .refl
  | succ remaining ih =>
      have inside : index < config.dof := by omega
      have first : step rounding config goal s .storePosition =
          some
            { s with
              writer := .storing activation positions (index + 1)
              cells :=
                { s.cells with
                  positions := Function.update s.cells.positions ⟨index, inside⟩
                    (positions ⟨index, inside⟩) } } := by
        simp only [step, updateStep, checked, storing, dif_pos inside, Option.isSome_some,
          if_true]
      refine (Reachable.single .storePosition rfl first).trans ?_
      exact ih rfl (by omega) (update_agrees inside stored)

/-- One whole update. -/
theorem reachable_afterUpdate (goal : Goal) (checked : config.startCheck = some check)
    (active : s.lifecycle = .active) (idle : s.writer = .idle)
    (snapshot : Snapshot config.dof) :
    Reachable (step rounding config goal) unguarded s (afterUpdate snapshot s) := by
  have opening : step rounding config goal s (.openSnapshot snapshot.positions) =
      some
        { s with
          writer := .storing s.activations snapshot.positions 0
          cells := { s.cells with sequence := s.cells.sequence + 1 } } := by
    simp only [step, updateStep, checked, idle, active, Option.isSome_some, if_true]
  refine (Reachable.single _ rfl opening).trans ?_
  refine (reachable_storePositions goal config.dof checked rfl (Nat.zero_add _)
    (fun _ before => absurd before (Nat.not_lt_zero _))).trans ?_
  apply Reachable.tail .closeSnapshot
  · apply Reachable.single (.storeAge snapshot.feedbackAgeMs) rfl
    simp only [step, updateStep, checked, Option.isSome_some, if_true, lt_self_iff_false,
      if_false]
    rfl
  · rfl
  · simp only [step, updateStep, checked, Option.isSome_some, if_true, afterUpdate, idle]

theorem reachable_validate {goal : Goal} {validator : Validator config.dof}
    (next : validatorStep rounding config goal s = some validator) :
    Reachable (step rounding config goal) unguarded s { s with validator := validator } := by
  apply Reachable.single .validate rfl
  rw [step, next]
  rfl

/-- Many updates that store the same values. -/
theorem exists_afterUpdates (goal : Goal) (checked : config.startCheck = some check)
    (active : s.lifecycle = .active) (idle : s.writer = .idle)
    (snapshot : Snapshot config.dof) {increments : ℕ}
    (sequence : s.cells.sequence = sequenceNumber increments) (count : ℕ) :
    ∃ t, Reachable (step rounding config goal) unguarded s t ∧
      t.lifecycle = .active ∧ t.writer = .idle ∧ t.validator = s.validator ∧
      t.cells.sequence = sequenceNumber (increments + 2 * count) ∧
      (0 < count → t.cells.positions = snapshot.positions) ∧
      ∀ update ∈ t.updates, update ∈ s.updates ∨ update.toSnapshot = snapshot := by
  induction count with
  | zero =>
      exact ⟨s, .refl, active, idle, rfl, sequence, fun positive => absurd positive (by simp),
        fun _ member => .inl member⟩
  | succ count ih =>
      rcases ih with ⟨t, reachable, active, idle, validator, sequence, -, known⟩
      refine ⟨afterUpdate snapshot t,
        reachable.trans (reachable_afterUpdate goal checked active idle snapshot),
        active, idle, validator, ?_, fun _ => rfl, ?_⟩
      · calc
          t.cells.sequence + 1 + 1 = sequenceNumber (increments + 2 * count) + 1 + 1 := by
            rw [sequence]
          _ = sequenceNumber (increments + 2 * count + 1 + 1) := by
            rw [sequenceNumber_succ, sequenceNumber_succ]
      · intro update member
        rcases List.mem_cons.mp member with rfl | member
        · exact .inr rfl
        · exact known update member

end Turn

/-! Both snapshots are five away from the goal in one joint.  The copy takes the left
position of the first snapshot and the right one of the second.  All differences are small
integers, exact in doubles. -/

/-- One update, and the first half of a copy. -/
def tornEvents : List (Event 2) :=
  [.activate, .openSnapshot (pairAt 0 5).positions, .storePosition, .storePosition,
    .storeAge (some 1), .closeSnapshot, .validate, .validate, .validate, .validate]

/-- The first snapshot is published, and the copy has taken its left position. -/
def tornStart : System 2 :=
  (run (step .exact pairConfig originGoal) unguarded {} tornEvents).getD {}

theorem reachable_tornStart :
    Reachable (step .exact pairConfig originGoal) unguarded {} tornStart := by
  have ran : run (step .exact pairConfig originGoal) unguarded {} tornEvents = some tornStart := rfl
  exact reachable_of_run ran

/-- A full turn of the sequence number lets a copy of two different updates through, and
neither of them is admissible. -/
theorem exists_torn_copy :
    ∃ s copy, Reachable (step .exact pairConfig originGoal) unguarded {} s ∧
      s.validator = .returned .accepted (some copy) ∧
      ∀ update ∈ s.updates, copy.snapshot ≠ update.toSnapshot ∧
        ¬Admissible .exact pairConfig pairCheck originGoal update.toSnapshot := by
  have checked : pairConfig.startCheck = some pairCheck := rfl
  have started : tornStart.lifecycle = .active ∧ tornStart.writer = .idle ∧
      tornStart.cells.sequence = sequenceNumber 2 := ⟨rfl, rfl, rfl⟩
  obtain ⟨attempt, copy, loading, before, age, left⟩ : ∃ attempt copy,
      tornStart.validator = .loadingPositions attempt copy 1 ∧
        attempt.sequenceBefore = sequenceNumber 2 ∧ copy.feedbackAgeMs = some 1 ∧
        copy.positions 0 = some 0 :=
    ⟨_, _, rfl, rfl, rfl, rfl⟩
  have published : ∀ update ∈ tornStart.updates, update.toSnapshot = pairAt 0 5 := by
    intro update member
    cases List.mem_singleton.mp member
    rfl
  rcases exists_afterUpdates originGoal checked started.1 started.2.1 (pairAt 5 0) started.2.2
    (2 ^ 63) with ⟨t, updated, -, -, validator, sequence, right, known⟩
  have turned : t.cells.sequence = sequenceNumber 2 := by
    rw [sequence]
    exact sequenceNumber_add_turn 2
  have even : t.cells.sequence &&& 1 = 0 := by
    rw [turned, sequenceNumber_and_one_eq_zero_iff]
    exact even_two
  -- The last position comes from the second snapshot.
  have torn : Snapshot.mk copy.feedbackAgeMs
      (Function.update copy.positions 1 (t.cells.positions 1)) = pairAt 0 0 := by
    refine Snapshot.ext age ?_
    rw [right (Nat.two_pow_pos 63)]
    funext joint
    revert joint
    exact Fin.forall_fin_two.mpr ⟨left, rfl⟩
  have loaded : validatorStep .exact pairConfig originGoal t =
      some (.loadingPositions attempt (pairAt 0 0) 2) := by
    rw [validatorStep_loadingPositions .exact originGoal checked (validator.trans loading) (by decide)]
    exact congrArg (fun copied => some (Validator.loadingPositions attempt copied 2)) torn
  have returned := validatorStep_unchanged .exact originGoal checked
    (s := { t with validator := .loadingPositions attempt (pairAt 0 0) 2 }) rfl le_rfl
    (before.trans turned.symm) even
  have admissible := (admissible_pairAt_iff 0 0).mpr (by simp)
  rw [decideStart_eq_accepted_iff.mpr admissible] at returned
  let copied : Tested 2 := ⟨pairAt 0 0, t.begun - attempt.begunBefore⟩
  refine ⟨{ t with validator := .returned .accepted (some copied) }, copied, ?_, rfl, ?_⟩
  · exact ((reachable_tornStart.trans updated).trans (reachable_validate loaded)).trans
      (reachable_validate returned)
  · intro update member
    have apart : update.toSnapshot = pairAt 0 5 ∨ update.toSnapshot = pairAt 5 0 :=
      (known update member).imp_left (published update)
    have refused : ¬Admissible .exact pairConfig pairCheck originGoal update.toSnapshot := by
      rcases apart with equal | equal
      · rw [equal, admissible_pairAt_iff]
        decide +kernel
      · rw [equal, admissible_pairAt_iff]
        decide +kernel
    refine ⟨?_, refused⟩
    intro equal
    apply refused
    rw [← equal]
    exact admissible

end RtControl.Trajectory
