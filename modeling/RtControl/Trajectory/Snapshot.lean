import RtControl.Transition.Core
import RtControl.Codec.PyFloat
import RtControl.Codec.SequenceNumber
import Mathlib.Algebra.Order.Ring.Rat
import Mathlib.Algebra.Order.Group.Unbundled.Abs
import Mathlib.Order.WithBot
import Mathlib.Data.List.FinRange

/-!
# The admission snapshot of the trajectory controller

`update` publishes the joint positions and the feedback age in separate atomic cells,
between two increments of a sequence number.  `validate_trajectory_start` copies the
cells and retries until the sequence number was even and unchanged around the copy.
Every atomic load and store is one step, so that the steps of the update, of the
lifecycle callbacks and of the validation interleave freely.  `on_configure` only makes
the first state: the controller is not configured again during a run.
-/

namespace RtControl.Trajectory

open RtControl.Transition RtControl.Codec

/-- A double of the controller.  `none` stands for the values that are not finite: the
checks reject them all alike. -/
abbrev Double :=
  Option ℚ

/-! ## Configuration -/

/-- The parameters `trajectory_start_consistency_check`.  Their validation leaves
`max_feedback_age_ms` nonnegative but allows infinity. -/
structure StartCheckParams where
  enabled : Bool
  positionTolerances : List Double
  feedbackAgeStateInterface : String
  maxFeedbackAgeMs : WithTop ℚ

/-- The parameters that admission reads. -/
structure Params where
  joints : List String
  startCheck : StartCheckParams

/-- The enabled check after `on_configure`: one finite and nonnegative tolerance for
each joint. -/
structure StartCheck (dof : ℕ) where
  positionTolerances : Fin dof → ℚ
  tolerances_nonneg : ∀ joint, 0 ≤ positionTolerances joint
  maxFeedbackAgeMs : WithTop ℚ

/-- The configured controller. -/
structure Config where
  joints : List String
  startCheck : Option (StartCheck joints.length)

/-- The degrees of freedom. -/
abbrev Config.dof (config : Config) : ℕ :=
  config.joints.length

/-- The tolerances that `on_configure` refuses. -/
def badTolerance : Double → Bool
  | none => true
  | some tolerance => tolerance < 0

theorem tolerance_nonneg {tolerances : List Double} {count : ℕ}
    (counted : tolerances.length = count) (valid : tolerances.any badTolerance = false)
    (joint : Fin count) : 0 ≤ (tolerances.get (joint.cast counted.symm)).getD 0 := by
  have passed : badTolerance (tolerances.get (joint.cast counted.symm)) = false := by
    rw [List.any_eq_false] at valid
    exact eq_false_of_ne_true (valid _ (List.get_mem ..))
  cases tolerance : tolerances.get (joint.cast counted.symm) with
  | none =>
      rw [tolerance] at passed
      exact absurd passed (by decide)
  | some bound =>
      rw [tolerance] at passed
      simpa [badTolerance] using passed

/-- The checks of `on_configure`. -/
def onConfigure (params : Params) : Except String Config :=
  let check := params.startCheck
  if check.enabled then
    if check.feedbackAgeStateInterface = "" then
      .error "trajectory_start_consistency_check.feedback_age_state_interface must not be empty"
    else if counted : check.positionTolerances.length = params.joints.length then
      if valid : check.positionTolerances.any badTolerance = false then
        .ok
          { joints := params.joints
            startCheck := some
              { positionTolerances := fun joint =>
                  (check.positionTolerances.get (joint.cast counted.symm)).getD 0
                tolerances_nonneg := tolerance_nonneg counted valid
                maxFeedbackAgeMs := check.maxFeedbackAgeMs } }
      else
        .error ("trajectory_start_consistency_check.position_tolerances must be finite and " ++
          "nonnegative")
    else
      .error ("trajectory_start_consistency_check.position_tolerances must contain one value " ++
        "per configured joint (expected " ++ toString params.joints.length ++ ", got " ++
        toString check.positionTolerances.length ++ ")")
  else
    .ok { joints := params.joints, startCheck := none }

/-- An enabled check is configured with the parameters, and none of them is replaced. -/
theorem onConfigure_startCheck {params : Params} {config : Config}
    (configured : onConfigure params = .ok config)
    (enabled : params.startCheck.enabled = true) :
    config.joints = params.joints ∧
      ∃ check, config.startCheck = some check ∧
        check.maxFeedbackAgeMs = params.startCheck.maxFeedbackAgeMs ∧
        ∀ joint, params.startCheck.positionTolerances[joint.val]? =
          some (some (check.positionTolerances joint)) := by
  simp only [onConfigure, enabled, if_true] at configured
  split at configured
  · contradiction
  · split at configured
    · rename_i counted
      split at configured
      · rename_i valid
        cases configured
        refine ⟨rfl, _, rfl, rfl, ?_⟩
        intro joint
        have inside : joint.val < params.startCheck.positionTolerances.length :=
          joint.isLt.trans_eq counted.symm
        have passed : badTolerance params.startCheck.positionTolerances[joint.val] = false := by
          rw [List.any_eq_false] at valid
          exact eq_false_of_ne_true (valid _ (List.getElem_mem inside))
        rw [List.getElem?_eq_getElem inside]
        cases tolerance : params.startCheck.positionTolerances[joint.val] with
        | none =>
            rw [tolerance] at passed
            exact absurd passed (by decide)
        | some bound => simp [tolerance]
      · contradiction
    · contradiction

/-- The goal of an action call.  The upstream validation leaves at least one point and
one position for each joint name in it. -/
structure Goal where
  jointNames : List String
  firstPositions : List Double
  one_position : firstPositions.length = jointNames.length

/-! ## The decision on a copied snapshot -/

/-- The values of one snapshot. -/
@[ext]
structure Snapshot (dof : ℕ) where
  feedbackAgeMs : Double
  positions : Fin dof → Double

/-- The logged reasons of a rejection. -/
inductive Reason where
  | feedbackSnapshotUnavailable
  | staleFeedback (feedbackAgeMs : Double) (maxFeedbackAgeMs : WithTop ℚ)
  | missingJoint (joint : String) (feedbackAgeMs : Double)
  | startPositionMismatch (joint : String) (firstPosition actualPosition : Double)
      (limit : ℚ) (feedbackAgeMs : Double)

/-- The result of the validation. -/
inductive Verdict where
  | accepted
  | rejected (reason : Reason)

section Decision

variable (rounding : Rounding) (config : Config) (check : StartCheck config.dof) (goal : Goal)
  (snapshot : Snapshot config.dof)

/-- The check of one configured joint, `none` when it passes.  The difference of two
doubles is rounded; one that overflows is above every tolerance. -/
def jointMismatch (joint : Fin config.dof) : Option Reason :=
  let name := config.joints.get joint
  match goal.jointNames.findIdx? (· = name) with
  | none => some (.missingJoint name snapshot.feedbackAgeMs)
  | some goalIndex =>
      let actualPosition := snapshot.positions joint
      let firstPosition := (goal.firstPositions[goalIndex]?).join
      let mismatch := Reason.startPositionMismatch name firstPosition actualPosition
        (check.positionTolerances joint) snapshot.feedbackAgeMs
      match actualPosition, firstPosition with
      | some actual, some first =>
          if check.positionTolerances joint < |rounding.round (first - actual)| then
            some mismatch
          else
            none
      | _, _ => some mismatch

/-- The loop over the configured joints. -/
def firstMismatch : Option Reason :=
  (List.finRange config.dof).findSome? (jointMismatch rounding config check goal snapshot)

/-- The decision of `validate_trajectory_start` on the copied values. -/
def decideStart : Verdict :=
  match snapshot.feedbackAgeMs with
  | none => .rejected (.staleFeedback none check.maxFeedbackAgeMs)
  | some age =>
      if check.maxFeedbackAgeMs < age then
        .rejected (.staleFeedback (some age) check.maxFeedbackAgeMs)
      else
        match firstMismatch rounding config check goal snapshot with
        | some reason => .rejected reason
        | none => .accepted

end Decision

/-! ## Shared cells and threads -/

/-- The atomic members that the threads share. -/
structure Cells (dof : ℕ) where
  sequence : UInt64 := 0
  feedbackAgeMs : Double := none
  positions : Fin dof → Double := fun _ => none
  hasFeedbackAge : Bool := false

/-- A snapshot with the activation in which its update began. -/
@[ext]
structure Update (dof : ℕ) extends Snapshot dof where
  activation : ℕ

/-- The program counter of `update` between its two increments. -/
inductive Writer (dof : ℕ) where
  | idle
  | storing (activation : ℕ) (positions : Fin dof → Double) (index : ℕ)
  | closing (update : Update dof)

/-- The progress of the lifecycle callbacks. -/
inductive Lifecycle where
  | inactive
  | active
  | deactivating
  deriving DecidableEq

/-- One pass of the copy loop.  `begunBefore` is a history variable: the updates begun
when the sequence number was loaded. -/
structure Attempt where
  number : ℕ
  sequenceBefore : UInt64
  begunBefore : ℕ

/-- The copy that the decision was made on.  `updatesDuring` is a history variable: the
updates begun between the two loads of the sequence number. -/
structure Tested (dof : ℕ) where
  snapshot : Snapshot dof
  updatesDuring : ℕ

/-- The program counter of `validate_trajectory_start`. -/
inductive Validator (dof : ℕ) where
  | ready
  | before (attempt : ℕ)
  | loadingAge (attempt : Attempt)
  | loadingPositions (attempt : Attempt) (copy : Snapshot dof) (index : ℕ)
  | returned (verdict : Verdict) (tested : Option (Tested dof))

/-- The controller with the calls in progress.  `activations` and `updates`, the finished
updates from the last one on, are history variables. -/
structure System (dof : ℕ) where
  cells : Cells dof := {}
  lifecycle : Lifecycle := .inactive
  writer : Writer dof := .idle
  validator : Validator dof := .ready
  activations : ℕ := 0
  updates : List (Update dof) := []

/-- An update is between its two increments. -/
def Writer.isOpen {dof : ℕ} : Writer dof → Bool
  | .idle => false
  | _ => true

/-- The updates begun so far. -/
def System.begun {dof : ℕ} (s : System dof) : ℕ :=
  s.updates.length + s.writer.isOpen.toNat

/-! ## Steps -/

/-- The steps: two lifecycle callbacks, the update and the validation. -/
inductive Event (dof : ℕ) where
  | activate
  | deactivate
  | invalidateAge
  | openSnapshot (positions : Fin dof → Double)
  | storePosition
  | storeAge (feedbackAgeMs : Double)
  | closeSnapshot
  | validate

section Steps

variable {dof : ℕ}

/-- The steps of the lifecycle callbacks.  An activation that does not find the age
interface fails before its store. -/
def lifecycleStep (enabled : Bool) (s : System dof) : Event dof → Option (System dof)
  | .activate =>
      if s.lifecycle = .inactive then
        some
          { s with
            lifecycle := .active
            activations := s.activations + 1
            cells := { s.cells with hasFeedbackAge := s.cells.hasFeedbackAge || enabled } }
      else
        none
  | .deactivate =>
      if s.lifecycle = .active then
        some
          { s with
            lifecycle := .deactivating
            cells := { s.cells with hasFeedbackAge := false } }
      else
        none
  | .invalidateAge =>
      if s.lifecycle = .deactivating then
        some
          { s with
            lifecycle := .inactive
            cells := { s.cells with feedbackAgeMs := none } }
      else
        none
  | _ => none

/-- The steps of `update`.  The age interface is read when its value is stored. -/
def updateStep (s : System dof) : Event dof → Option (System dof)
  | .openSnapshot positions =>
      match s.writer with
      | .idle =>
          if s.lifecycle = .active then
            some
              { s with
                writer := .storing s.activations positions 0
                cells := { s.cells with sequence := s.cells.sequence + 1 } }
          else
            none
      | _ => none
  | .storePosition =>
      match s.writer with
      | .storing activation positions index =>
          if inside : index < dof then
            some
              { s with
                writer := .storing activation positions (index + 1)
                cells :=
                  { s.cells with
                    positions := Function.update s.cells.positions ⟨index, inside⟩
                      (positions ⟨index, inside⟩) } }
          else
            none
      | _ => none
  | .storeAge feedbackAgeMs =>
      match s.writer with
      | .storing activation positions index =>
          if index < dof then
            none
          else
            some
              { s with
                writer := .closing { feedbackAgeMs, positions, activation }
                cells := { s.cells with feedbackAgeMs } }
      | _ => none
  | .closeSnapshot =>
      match s.writer with
      | .closing update =>
          some
            { s with
              writer := .idle
              updates := update :: s.updates
              cells := { s.cells with sequence := s.cells.sequence + 1 } }
      | _ => none
  | _ => none

/-- The passes of the copy loop. -/
def maxAttempts : ℕ :=
  1000

/-- The next pass of the copy loop, or its end. -/
def nextAttempt (attempt : ℕ) : Validator dof :=
  if attempt + 1 < maxAttempts then
    .before (attempt + 1)
  else
    .returned (.rejected .feedbackSnapshotUnavailable) none

end Steps

/-- The next step of `validate_trajectory_start`.  The snapshot cells are allocated
whenever the check is enabled. -/
def validatorStep (rounding : Rounding) (config : Config) (goal : Goal) (s : System config.dof) :
    Option (Validator config.dof) :=
  match config.startCheck, s.validator with
  | none, .ready => some (.returned .accepted none)
  | some _, .ready =>
      if s.cells.hasFeedbackAge then
        some (.before 0)
      else
        some (.returned (.rejected .feedbackSnapshotUnavailable) none)
  | some _, .before attempt =>
      if s.cells.sequence &&& 1 ≠ 0 then
        some (nextAttempt attempt)
      else
        some (.loadingAge
          { number := attempt, sequenceBefore := s.cells.sequence, begunBefore := s.begun })
  | some _, .loadingAge attempt =>
      -- `actual_positions` starts with zeros; every cell is overwritten before its use.
      some (.loadingPositions attempt
        { feedbackAgeMs := s.cells.feedbackAgeMs, positions := fun _ => some 0 } 0)
  | some check, .loadingPositions attempt copy index =>
      if inside : index < config.dof then
        some (.loadingPositions attempt
          { copy with
            positions := Function.update copy.positions ⟨index, inside⟩
              (s.cells.positions ⟨index, inside⟩) }
          (index + 1))
      else if attempt.sequenceBefore = s.cells.sequence ∧ s.cells.sequence &&& 1 = 0 then
        some (.returned (decideStart rounding config check goal copy)
          (some { snapshot := copy, updatesDuring := s.begun - attempt.begunBefore }))
      else
        some (nextAttempt attempt.number)
  | _, _ => none

/-- One atomic load or store of any of the calls.  Without the check the update leaves
the snapshot alone. -/
def step (rounding : Rounding) (config : Config) (goal : Goal) : Step (System config.dof) (Event config.dof)
  | s, .validate => (validatorStep rounding config goal s).map fun validator => { s with validator }
  | s, .activate => lifecycleStep config.startCheck.isSome s .activate
  | s, .deactivate => lifecycleStep config.startCheck.isSome s .deactivate
  | s, .invalidateAge => lifecycleStep config.startCheck.isSome s .invalidateAge
  | s, event => if config.startCheck.isSome then updateStep s event else none

end RtControl.Trajectory
