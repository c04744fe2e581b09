import RtControl.EnableManager.Update

/-!
# The axes the loops of a cycle single out

Four loops keep the first axis that passes a test in an `int8_t` that starts at
`-1`.  Each of them computes `List.find?`, so the kept index is `-1` or the index
of an axis that passes the test.  The enable loop is related to the batch tables
here as well: a valid and complete batch has every axis of the batches so far in
Operation Enabled.
-/

namespace RtControl.EnableManager

/-! ## First axes -/

/-- The `int8_t` index of an optional axis, `-1` for none. -/
def axisIndex : Option Axis → Int
  | some axis => axis.val
  | none => -1

theorem axisIndex_bounds (found : Option Axis) :
    -1 ≤ axisIndex found ∧ axisIndex found < axisCount := by
  cases found with
  | none => decide
  | some axis =>
      have bound := axis.isLt
      simp only [axisIndex]
      omega

theorem axisIndex_neg_iff (found : Option Axis) : axisIndex found < 0 ↔ found = none := by
  cases found with
  | none => decide
  | some axis =>
      simp only [axisIndex, reduceCtorEq, iff_false]
      omega

/-- The first axis in loop order is the lowest one. -/
theorem find?_axes_eq_some {test : Axis → Bool} {axis : Axis}
    (found : axes.find? test = some axis) :
    test axis = true ∧ ∀ lower < axis, test lower = false := by
  rcases List.find?_eq_some_iff_getElem.mp found with ⟨passed, index, inRange, here, before⟩
  refine ⟨passed, fun lower below => ?_⟩
  have position : index = axis.val := by
    rw [← here]
    simp [axes]
  have lowerIndex : lower.val < index := by
    rw [position]
    exact below
  simpa [axes] using before lower.val lowerIndex

/-- A loop that overwrites an unset index by the axes passing a test computes
`List.find?`. -/
theorem foldl_first {σ : Type} (visit : σ → Axis → σ) (first : σ → Int) (test : Axis → Bool)
    (steps : ∀ scan axis, first (visit scan axis) =
      if first scan < 0 ∧ test axis = true then (axis.val : Int) else first scan)
    (group : List Axis) (scan : σ) :
    first (group.foldl visit scan) =
      if first scan < 0 ∧ (group.find? test).isSome then axisIndex (group.find? test)
      else first scan := by
  induction group generalizing scan with
  | nil => simp
  | cons axis group ih =>
      rw [List.foldl_cons, ih, steps, List.find?_cons]
      by_cases unset : first scan < 0
      · cases passed : test axis with
        | true =>
            have indexed : ¬((axis.val : Int) < 0) := by omega
            simp [unset, indexed, axisIndex]
        | false => simp [unset]
      · simp [unset]

/-- A loop that starts unset keeps the first axis that passes its test. -/
theorem foldl_first_unset {σ : Type} {visit : σ → Axis → σ} (first : σ → Int)
    {test : Axis → Bool} {scan : σ}
    (steps : ∀ scan axis, first (visit scan axis) =
      if first scan < 0 ∧ test axis = true then (axis.val : Int) else first scan)
    (unset : first scan = -1) (group : List Axis) :
    first (group.foldl visit scan) = axisIndex (group.find? test) := by
  rw [foldl_first visit first test steps, unset]
  cases group.find? test <;> simp [axisIndex]

theorem firstFaultedAxis_eq (words : Words) :
    firstFaultedAxis words =
      axisIndex (axes.find? fun axis => isFaultState (decodeState (words axis))) := by
  unfold firstFaultedAxis
  cases axes.find? fun axis => isFaultState (decodeState (words axis)) <;> rfl

theorem finishScan_firstFault (words : Words) :
    (finishScan words).firstFault = firstFaultedAxis words := by
  rw [firstFaultedAxis_eq]
  apply foldl_first_unset FinishScan.firstFault _ rfl
  intro scan axis
  simp only [FinishScan.visit]
  split_ifs <;> simp_all

theorem downwardScan_firstNonterminal (words : Words) :
    (downwardScan words).firstNonterminal =
      axisIndex (axes.find? fun axis =>
        !isConfirmedDisableTerminal axis (decodeState (words axis)) &&
          !isFaultState (decodeState (words axis))) := by
  apply foldl_first_unset DownwardScan.firstNonterminal _ rfl
  intro scan axis
  have kept : (scan.visitState axis (decodeState (words axis))).firstNonterminal =
      scan.firstNonterminal := by
    cases decodeState (words axis) <;> rfl
  simp only [DownwardScan.visit, Bool.and_eq_true, decide_eq_true_eq, kept]
  split_ifs <;> simp_all

theorem resetScan_firstPending (targets : Axis → Bool) (words : Words) :
    (resetScan targets words).firstPending =
      axisIndex (axes.find? fun axis => resetPending targets words axis) := by
  apply foldl_first_unset ResetScan.firstPending _ rfl
  intro scan axis
  simp only [ResetScan.visit]
  split_ifs <;> simp_all

/-- Some axis is faulted exactly when the first faulted axis is set. -/
theorem firstFaultedAxis_nonneg_iff (words : Words) :
    0 ≤ firstFaultedAxis words ↔ anyFault words = true := by
  rw [firstFaultedAxis_eq, ← Int.not_lt, axisIndex_neg_iff, anyFault, List.any_eq_true,
    List.find?_eq_none]
  simp

/-! ## The enable loop -/

/-- The axis keeps the running batch incomplete. -/
def holdsUpBatch (currentBatch : Nat) (words : Words) (axis : Axis) : Bool :=
  let role := batchRole currentBatch axis
  !role.isPrevious && role.isCurrent && decodeState (words axis) ≠ .operationEnabled

/-- The axis has left the path to Operation Enabled. -/
def leavesBatch (currentBatch : Nat) (words : Words) (axis : Axis) : Bool :=
  let role := batchRole currentBatch axis
  match decodeState (words axis) with
  | .operationEnabled => false
  | .switchOnDisabled | .readyToSwitchOn | .switchedOn => role.isPrevious
  | _ => role.isPrevious || role.isCurrent

theorem EnableScan.visit_batchComplete (currentBatch : Nat) (words : Words) (scan : EnableScan)
    (axis : Axis) :
    (scan.visit currentBatch words axis).batchComplete =
      (scan.batchComplete && !holdsUpBatch currentBatch words axis) := by
  simp only [visit, holdsUpBatch]
  cases (batchRole currentBatch axis).isPrevious <;>
    cases (batchRole currentBatch axis).isCurrent <;>
    cases decodeState (words axis) <;> simp
  all_goals split_ifs <;> rfl

theorem EnableScan.visit_invalidAxis (currentBatch : Nat) (words : Words) (scan : EnableScan)
    (axis : Axis) :
    (scan.visit currentBatch words axis).invalidAxis =
      if scan.invalidAxis < 0 ∧ leavesBatch currentBatch words axis = true then (axis.val : Int)
      else scan.invalidAxis := by
  simp only [visit]
  cases leaves : leavesBatch currentBatch words axis <;> simp only [leavesBatch] at leaves <;>
    cases state : decodeState (words axis) <;> simp only [state] at leaves <;>
    split_ifs <;> simp_all

theorem EnableScan.foldl_batchComplete (currentBatch : Nat) (words : Words) (group : List Axis)
    (scan : EnableScan) :
    (group.foldl (EnableScan.visit currentBatch words) scan).batchComplete =
      (scan.batchComplete && group.all fun axis => !holdsUpBatch currentBatch words axis) := by
  induction group generalizing scan with
  | nil => simp
  | cons axis group ih =>
      rw [List.foldl_cons, ih, visit_batchComplete, List.all_cons, Bool.and_assoc]

theorem enableScan_batchComplete_iff (currentBatch : Nat) (words : Words) :
    (enableScan currentBatch words).batchComplete = true ↔
      ∀ axis, holdsUpBatch currentBatch words axis = false := by
  rw [enableScan, EnableScan.foldl_batchComplete]
  simp

theorem enableScan_invalidAxis (currentBatch : Nat) (words : Words) :
    (enableScan currentBatch words).invalidAxis =
      axisIndex (axes.find? (leavesBatch currentBatch words)) :=
  foldl_first_unset EnableScan.invalidAxis (EnableScan.visit_invalidAxis currentBatch words) rfl axes

theorem enableScan_valid_iff (currentBatch : Nat) (words : Words) :
    (enableScan currentBatch words).invalidAxis < 0 ↔
      ∀ axis, leavesBatch currentBatch words axis = false := by
  rw [enableScan_invalidAxis, axisIndex_neg_iff, List.find?_eq_none]
  simp

/-! ## The batch tables -/

/-- Every axis of the batches up to `batch` reports Operation Enabled. -/
def batchesEnabled (batch : Nat) (words : Words) : Bool :=
  (List.range (batch + 1)).all fun batch =>
    (List.range (batchSize batch)).all fun item =>
      decodeState (wordAt words (batchItem batch item)) = .operationEnabled

theorem wordAt_axis (words : Words) (axis : Axis) : wordAt words axis.val = words axis := by
  have bound := axis.isLt
  rw [wordAt, dif_pos ⟨Int.natCast_nonneg _, by omega⟩]
  simp

/-- The tables name axes only. -/
theorem batchItem_inRange {batch item : Nat} (known : batch < batchCount)
    (listed : item < batchSize batch) :
    0 ≤ batchItem batch item ∧ batchItem batch item < axisCount := by
  have tables : ∀ batch < batchCount, ∀ item < batchSize batch,
      0 ≤ batchItem batch item ∧ batchItem batch item < axisCount := by
    decide
  exact tables batch known item listed

/-- An axis listed in a batch up to the current one is a previous or a current
axis of the membership loops. -/
theorem batchRole_of_listed {currentBatch batch item : Nat} {axis : Axis}
    (known : currentBatch < batchCount) (reached : batch ≤ currentBatch)
    (listed : item < batchSize batch) (named : batchItem batch item = axis.val) :
    (batchRole currentBatch axis).isPrevious = true ∨
      (batchRole currentBatch axis).isCurrent = true := by
  have tables : ∀ currentBatch < batchCount, ∀ batch < currentBatch + 1,
      ∀ item < batchSize batch, ∀ axis : Axis, batchItem batch item = axis.val →
        (batchRole currentBatch axis).isPrevious = true ∨
          (batchRole currentBatch axis).isCurrent = true := by
    decide +kernel
  exact tables currentBatch known batch (by omega) item listed axis named

/-- The batches together cover the group. -/
theorem batchRole_last (axis : Axis) :
    (batchRole (batchCount - 1) axis).isPrevious = true ∨
      (batchRole (batchCount - 1) axis).isCurrent = true := by
  revert axis
  decide

/-- In a valid and complete batch every previous and every current axis is
enabled. -/
theorem operationEnabled_of_complete {currentBatch : Nat} {words : Words} {axis : Axis}
    (valid : (enableScan currentBatch words).invalidAxis < 0)
    (complete : (enableScan currentBatch words).batchComplete = true)
    (member : (batchRole currentBatch axis).isPrevious = true ∨
      (batchRole currentBatch axis).isCurrent = true) :
    decodeState (words axis) = .operationEnabled := by
  have stays := (enableScan_valid_iff currentBatch words).mp valid axis
  have ready := (enableScan_batchComplete_iff currentBatch words).mp complete axis
  simp only [leavesBatch, holdsUpBatch] at stays ready
  cases previous : (batchRole currentBatch axis).isPrevious with
  | true =>
      rw [previous] at stays
      cases state : decodeState (words axis) <;> simp [state] at stays ⊢
  | false =>
      have current : (batchRole currentBatch axis).isCurrent = true := by
        simpa [previous] using member
      simpa [previous, current] using ready

/-- A valid and complete batch confirms every batch so far. -/
theorem batchesEnabled_of_complete {currentBatch : Nat} {words : Words}
    (known : currentBatch < batchCount)
    (valid : (enableScan currentBatch words).invalidAxis < 0)
    (complete : (enableScan currentBatch words).batchComplete = true) :
    batchesEnabled currentBatch words = true := by
  simp only [batchesEnabled, List.all_eq_true, List.mem_range, decide_eq_true_eq]
  intro batch reached item listed
  obtain ⟨low, high⟩ := batchItem_inRange (by omega) listed
  obtain ⟨axis, named⟩ : ∃ axis : Axis, batchItem batch item = axis.val :=
    ⟨⟨(batchItem batch item).toNat, by omega⟩, by simp [low]⟩
  rw [named, wordAt_axis]
  exact operationEnabled_of_complete valid complete
    (batchRole_of_listed known (by omega) listed named)

/-- The last batch of a complete enable confirms the whole group. -/
theorem operationEnabled_of_lastBatch {currentBatch : Nat} {words : Words}
    (last : currentBatch + 1 = batchCount)
    (valid : (enableScan currentBatch words).invalidAxis < 0)
    (complete : (enableScan currentBatch words).batchComplete = true) (axis : Axis) :
    decodeState (words axis) = .operationEnabled := by
  have lastBatch : currentBatch = batchCount - 1 := by omega
  subst lastBatch
  exact operationEnabled_of_complete valid complete (batchRole_last axis)

end RtControl.EnableManager
