import RtControl.EnableManager.Results

/-!
# Safe indexing

The table accesses of a cycle and of a response are listed, and each of them is in range
in every reachable state.  The list is checked against a second reading of the cycle in
which every table is read with a check of the index: where the listed accesses are in
range, the checked cycle computes what the cycle does.
-/

namespace RtControl.EnableManager

open RtControl.Transition

/-! ## Table accesses -/

/-- The tables that a cycle or a response indexes; `batchRow` is the second index of
`kEnableBatches`. -/
inductive Table where
  | enableBatches
  | batchRow
  | batchSizes
  | statusWords
  | jointNames
  deriving DecidableEq, Repr

/-- The number of entries of a table. -/
def Table.length : Table → Nat
  | .enableBatches => EnableManager.enableBatches.length
  | .batchRow => 3
  | .batchSizes => EnableManager.batchSizes.length
  | .statusWords => axisCount
  | .jointNames => EnableManager.jointNames.length

/-- One use of an index. -/
structure Access where
  table : Table
  index : Int
  deriving DecidableEq, Repr

/-- The index names an entry of its table. -/
def Access.InRange (access : Access) : Prop :=
  0 ≤ access.index ∧ access.index < access.table.length

/-- The accesses of the two membership loops of `updateEnable`. -/
def membershipAccesses (currentBatch : Nat) : List Access :=
  (List.range (currentBatch + 1)).flatMap fun batch : Nat =>
    ⟨.batchSizes, batch⟩ :: (List.range (batchSize batch)).flatMap fun item : Nat =>
      [⟨.enableBatches, batch⟩, ⟨.batchRow, item⟩]

/-- The accesses of a batch timeout, when its loop runs to the end. -/
def timedOutAccesses (currentBatch : Nat) (words : Words) : List Access :=
  [⟨.enableBatches, currentBatch⟩, ⟨.batchRow, 0⟩, ⟨.batchSizes, currentBatch⟩] ++
    ((List.range (batchSize currentBatch)).flatMap fun item =>
      [⟨.enableBatches, currentBatch⟩, ⟨.batchRow, item⟩,
        ⟨.statusWords, batchItem currentBatch item⟩]) ++
    [⟨.statusWords, timedOutAxis currentBatch words⟩]

/-- The access of a response or a diagnostic message to `kJointNames`. -/
def nameAccesses (joint : Int) : List Access :=
  if 0 ≤ joint then [⟨.jointNames, joint⟩] else []

namespace Controller

variable (config : Config) (now : Int) (s : Controller)

/-- The accesses of `finishDownward` by a computed index. -/
def finishAccesses : List Access :=
  let scan := finishScan s.statusWords
  match s.phase with
  | .startupSanitizing =>
      if s.primaryFailure.stage ≠ .success then []
      else if scan.anyFault then [⟨.statusWords, scan.firstFault⟩]
      else []
  | .disabling => if scan.anyFault then [⟨.statusWords, scan.firstFault⟩] else []
  | _ => []

/-- The accesses of a stage timeout by a computed index. -/
def timeoutAccesses : List Access :=
  if s.primaryFailure.stage = .success ∧ 0 ≤ stageTimeoutAxis s.statusWords then
    [⟨.statusWords, stageTimeoutAxis s.statusWords⟩]
  else
    []

/-- The accesses of `updateDownward` by a computed index. -/
def downwardAccesses : List Access :=
  let scan := downwardScan s.statusWords
  if 2 ≤ s.downwardStage ∧ scan.allNonfaultTerminal then
    s.finishAccesses
  else if advancesStage scan s.downwardStage then
    if 2 < s.downwardStage + 1 ∧ scan.allNonfaultTerminal then s.finishAccesses else []
  else if s.stageDeadlineNs ≤ now then
    s.timeoutAccesses ++
      if s.phase ≠ .emergencyDisable then [] else (s.recordStageTimeout scan).finishAccesses
  else
    []

/-- The accesses of `updateEnable` by a computed index. -/
def enableAccesses : List Access :=
  let scan := enableScan s.currentBatch s.statusWords
  if anyFault s.statusWords ∨ s.phase = .interBatchDelay then
    []
  else
    membershipAccesses s.currentBatch ++
      if 0 ≤ scan.invalidAxis then [⟨.statusWords, scan.invalidAxis⟩]
      else if scan.batchComplete then []
      else if s.stageDeadlineNs ≤ now then timedOutAccesses s.currentBatch s.statusWords
      else []

/-- The accesses of `updateReset` by a computed index. -/
def resetAccesses : List Access :=
  let scan := resetScan s.resetTargets s.statusWords
  if s.disableRequest ∨ s.phase = .resetLow ∨ scan.allReset then
    []
  else if s.stageDeadlineNs ≤ now ∧ 0 ≤ scan.firstPending then
    [⟨.statusWords, scan.firstPending⟩]
  else
    []

/-- The table accesses of one cycle: the axis loops, and the computed indexes of the
phase the monitor leaves. -/
def accesses (readings : Readings) : List Access :=
  let s := (s.refreshStatusWords readings).monitorFaults config now
  (axes.map fun axis => ⟨.statusWords, axis.val⟩) ++
    match s.phase with
    | .startupSanitizing | .disabling | .rollback | .emergencyDisable =>
        { s with
          downwardStage := s.descentStage
          stageDeadlineNs := s.descentDeadline config now }.downwardAccesses now
    | .enabling | .interBatchDelay => s.enableAccesses now
    | .resetLow | .resetHigh => s.resetAccesses now
    | _ => []

variable {config now s}

theorem finishAccesses_inRange : ∀ access ∈ s.finishAccesses, access.InRange := by
  have inRange (faulted : (finishScan s.statusWords).anyFault = true) :
      Access.InRange ⟨.statusWords, (finishScan s.statusWords).firstFault⟩ := by
    rw [finishScan_anyFault] at faulted
    have located := Recorded.firstFault_located s.statusWords
    rw [finishScan_firstFault] at located ⊢
    exact ⟨(firstFaultedAxis_nonneg_iff _).mpr faulted, located.2⟩
  simp only [finishAccesses]
  intro access used
  split at used
  · split_ifs at used with failed faulted
    · contradiction
    · rw [List.mem_singleton] at used
      exact used ▸ inRange faulted
    · contradiction
  · split_ifs at used with faulted
    · rw [List.mem_singleton] at used
      exact used ▸ inRange faulted
    · contradiction
  · contradiction

theorem timeoutAccesses_inRange : ∀ access ∈ s.timeoutAccesses, access.InRange := by
  intro access used
  simp only [timeoutAccesses] at used
  split_ifs at used with named
  · rw [List.mem_singleton] at used
    subst used
    exact ⟨named.2, (stageTimeoutAxis_located s.statusWords).2⟩
  · contradiction

theorem downwardAccesses_inRange : ∀ access ∈ s.downwardAccesses now, access.InRange := by
  intro access used
  simp only [downwardAccesses] at used
  split_ifs at used
  · exact finishAccesses_inRange access used
  · exact finishAccesses_inRange access used
  · contradiction
  · rw [List.append_nil] at used
    exact timeoutAccesses_inRange access used
  · rcases List.mem_append.mp used with used | used
    · exact timeoutAccesses_inRange access used
    · exact finishAccesses_inRange access used
  · contradiction

/-- The batch tables are indexed in range up to the current batch. -/
theorem membershipAccesses_inRange {currentBatch : Nat} (known : currentBatch < batchCount) :
    ∀ access ∈ membershipAccesses currentBatch, access.InRange := by
  have tables : ∀ currentBatch < batchCount, ∀ access ∈ membershipAccesses currentBatch,
      0 ≤ access.index ∧ access.index < access.table.length := by
    decide +kernel
  exact tables currentBatch known

theorem timedOutAccesses_inRange {currentBatch : Nat} (known : currentBatch < batchCount)
    (words : Words) : ∀ access ∈ timedOutAccesses currentBatch words, access.InRange := by
  have sizes : ∀ batch < batchCount, batchSize batch ≤ 3 := by decide
  have row := sizes currentBatch known
  intro access used
  simp only [timedOutAccesses, List.mem_append, List.mem_flatMap, List.mem_range, List.mem_cons,
    List.not_mem_nil, or_false] at used
  have batch : (currentBatch : Int) < (batchCount : Int) := by exact_mod_cast known
  rcases used with ((rfl | rfl | rfl) | ⟨item, listed, rfl | rfl | rfl⟩) | rfl
  · exact ⟨Int.natCast_nonneg _, batch⟩
  · exact ⟨le_refl _, by decide⟩
  · exact ⟨Int.natCast_nonneg _, batch⟩
  · exact ⟨Int.natCast_nonneg _, batch⟩
  · refine ⟨Int.natCast_nonneg _, ?_⟩
    simp only [Table.length]
    omega
  · exact batchItem_inRange known listed
  · exact timedOutAxis_inRange known words

theorem enableAccesses_inRange (known : s.currentBatch < batchCount) :
    ∀ access ∈ s.enableAccesses now, access.InRange := by
  intro access used
  simp only [enableAccesses] at used
  split at used
  next => contradiction
  next =>
    rcases List.mem_append.mp used with used | used
    · exact membershipAccesses_inRange known access used
    · split_ifs at used with invalid complete expired
      · rw [List.mem_singleton] at used
        subst used
        exact ⟨invalid, (invalidAxis_located _ _).2⟩
      · contradiction
      · exact timedOutAccesses_inRange known _ access used
      · contradiction

theorem resetAccesses_inRange : ∀ access ∈ s.resetAccesses now, access.InRange := by
  intro access used
  simp only [resetAccesses] at used
  split_ifs at used with quiet expired
  · contradiction
  · rw [List.mem_singleton] at used
    subst used
    exact ⟨expired.2, (firstPending_located _ _).2⟩
  · contradiction

/-- Every table access of a cycle is in range. -/
theorem accesses_inRange (known : s.currentBatch < batchCount) (readings : Readings) :
    ∀ access ∈ s.accesses config now readings, access.InRange := by
  have kept : ((s.refreshStatusWords readings).monitorFaults config now).currentBatch <
      batchCount := by
    simp only [monitorFaults]
    split <;> exact known
  intro access used
  simp only [accesses] at used
  rcases List.mem_append.mp used with used | used
  · obtain ⟨axis, -, rfl⟩ := List.mem_map.mp used
    have bound := axis.isLt
    exact ⟨Int.natCast_nonneg _, by simp only [Table.length]; omega⟩
  · split at used
    iterate 4 exact downwardAccesses_inRange access used
    iterate 2 exact enableAccesses_inRange kept access used
    iterate 2 exact resetAccesses_inRange access used
    contradiction

end Controller

/-- A located joint is a legal index of `kJointNames`. -/
theorem nameAccesses_inRange {joint : Int} (located : joint < axisCount) :
    ∀ access ∈ nameAccesses joint, access.InRange := by
  intro access used
  unfold nameAccesses at used
  split_ifs at used with named
  · rw [List.mem_singleton] at used
    subst used
    exact ⟨named, located⟩
  · contradiction

/-! ## Checked reads -/

theorem toNat_lt_axisCount {index : Int} (inRange : 0 ≤ index ∧ index < axisCount) :
    index.toNat < axisCount := by
  omega

/-- `status_words_[index]`, if there is such an entry. -/
def readWord (words : Words) (index : Int) : Option UInt16 :=
  if inRange : 0 ≤ index ∧ index < axisCount then
    some (words ⟨index.toNat, toNat_lt_axisCount inRange⟩)
  else
    none

/-- The status word of a joint index, if there is such an entry, and no word for `-1`. -/
def readNamed (words : Words) (joint : Int) : Option UInt16 :=
  if 0 ≤ joint then readWord words joint else some 0

/-- `kEnableBatches[batch][item]`, if there is such an entry. -/
def readItem (batch item : Nat) : Option Int :=
  enableBatches[batch]?.bind fun row => row[item]?

/-- `kBatchSizes[batch]`, if there is such an entry. -/
def readSize (batch : Nat) : Option Nat :=
  batchSizes[batch]?

/-- The joint name of an index, if there is such an entry, and the empty name for `-1`. -/
def readName (joint : Int) : Option String :=
  if 0 ≤ joint then jointNames[joint.toNat]? else some ""

/-- `fillResponse` with a checked read. -/
def checkedResponse (slot : ResultSlot) : Option Response := do
  let failedJoint ← readName slot.failedJoint
  return {
    ok := slot.ok
    failedBatch := slot.failedBatch
    failedJoint
    statusWord := slot.statusWord
    stage := stageName slot.stage }

/-- `batchRole` with checked reads. -/
def checkedRole (currentBatch : Nat) (axis : Axis) : Option BatchRole :=
  (List.range (currentBatch + 1)).foldlM
    (fun role batch => do
      let size ← readSize batch
      (List.range size).foldlM
        (fun role item => do
          let joint ← readItem batch item
          return if joint = axis.val then
            { isCurrent := batch = currentBatch, isPrevious := batch < currentBatch }
          else
            role)
        role)
    {}

/-- The body of the axis loop in `updateEnable`, once the role of the axis is known. -/
def EnableScan.visitAs (role : BatchRole) (state : DriveState) (scan : EnableScan) (axis : Axis) :
    EnableScan :=
  if role.isPrevious then
    if state ≠ .operationEnabled ∧ scan.invalidAxis < 0 then
      { scan with invalidAxis := axis.val }
    else
      scan
  else if role.isCurrent then
    match state with
    | .switchOnDisabled | .readyToSwitchOn | .switchedOn =>
        { scan with batchComplete := false }
    | .operationEnabled => scan
    | _ =>
        { batchComplete := false
          invalidAxis := if scan.invalidAxis < 0 then axis.val else scan.invalidAxis }
  else
    scan

/-- `enableScan` with checked reads of the batch tables. -/
def checkedEnableScan (currentBatch : Nat) (words : Words) : Option EnableScan :=
  axes.foldlM
    (fun scan axis => do
      let role ← checkedRole currentBatch axis
      return scan.visitAs role (decodeState (words axis)) axis)
    {}

/-- The search loop of a batch timeout, which ends with the first axis that is not enabled. -/
def checkedPending (batch : Nat) (words : Words) : List Nat → Option (Option Int)
  | [] => some none
  | item :: items => do
      let joint ← readItem batch item
      let statusWord ← readWord words joint
      if decodeState statusWord ≠ .operationEnabled then
        return some joint
      else
        checkedPending batch words items

/-- `timedOutAxis` with checked reads. -/
def checkedTimedOut (currentBatch : Nat) (words : Words) : Option Int := do
  let first ← readItem currentBatch 0
  let size ← readSize currentBatch
  let pending ← checkedPending currentBatch words (List.range size)
  return pending.getD first

section Reads

variable {words : Words} {batch item currentBatch : Nat} {joint : Int}

theorem readWord_eq (inRange : Access.InRange ⟨.statusWords, joint⟩) :
    readWord words joint = some (wordAt words joint) := by
  have bounds : 0 ≤ joint ∧ joint < axisCount := inRange
  rw [readWord, wordAt, dif_pos bounds, dif_pos bounds]

theorem readNamed_eq (inRange : 0 ≤ joint → Access.InRange ⟨.statusWords, joint⟩) :
    readNamed words joint = some (if 0 ≤ joint then wordAt words joint else 0) := by
  unfold readNamed
  split_ifs with named
  · exact readWord_eq (inRange named)
  · rfl

theorem readItem_eq (row : Access.InRange ⟨.enableBatches, batch⟩)
    (column : Access.InRange ⟨.batchRow, item⟩) :
    readItem batch item = some (batchItem batch item) := by
  have tables : ∀ batch < batchCount, ∀ item < 3,
      readItem batch item = some (batchItem batch item) := by
    decide
  exact tables batch (Int.ofNat_lt.mp row.2) item (Int.ofNat_lt.mp column.2)

theorem readSize_eq (row : Access.InRange ⟨.batchSizes, batch⟩) :
    readSize batch = some (batchSize batch) := by
  have tables : ∀ batch < batchCount, readSize batch = some (batchSize batch) := by decide
  exact tables batch (Int.ofNat_lt.mp row.2)

theorem readName_eq (inRange : ∀ access ∈ nameAccesses joint, access.InRange) :
    readName joint = some (jointName joint) := by
  unfold readName jointName
  split_ifs with named
  · have bound : joint < (jointNames.length : Int) :=
      (inRange ⟨.jointNames, joint⟩ (by simp [nameAccesses, named])).2
    rw [List.getD_eq_getElem?_getD, List.getElem?_eq_getElem (by omega)]
    rfl
  · rfl

theorem checkedResponse_eq {slot : ResultSlot}
    (inRange : ∀ access ∈ nameAccesses slot.failedJoint, access.InRange) :
    checkedResponse slot = some (fillResponse slot) := by
  rw [checkedResponse, readName_eq inRange]
  rfl

/-- A loop whose body always succeeds. -/
theorem foldlM_eq_some {α β : Type} {body : β → α → Option β} {next : β → α → β} {items : List α}
    (succeeds : ∀ value, ∀ item ∈ items, body value item = some (next value item)) (initial : β) :
    items.foldlM body initial = some (items.foldl next initial) := by
  induction items generalizing initial with
  | nil => rfl
  | cons item items ih =>
      rw [List.foldlM_cons, succeeds initial item List.mem_cons_self]
      exact ih (fun value other listed => succeeds value other (List.mem_cons_of_mem item listed)) _

theorem checkedRole_eq (inRange : ∀ access ∈ membershipAccesses currentBatch, access.InRange)
    (axis : Axis) : checkedRole currentBatch axis = some (batchRole currentBatch axis) := by
  refine foldlM_eq_some (fun role batch reached => ?_) _
  have size := inRange ⟨.batchSizes, batch⟩
    (List.mem_flatMap.mpr ⟨batch, reached, List.mem_cons_self⟩)
  rw [readSize_eq size]
  refine foldlM_eq_some (fun role item listed => ?_) _
  have entry (access : Access)
      (read : access ∈ ([⟨.enableBatches, batch⟩, ⟨.batchRow, item⟩] : List Access)) :
      access.InRange :=
    inRange access (List.mem_flatMap.mpr ⟨batch, reached,
      List.mem_cons_of_mem _ (List.mem_flatMap.mpr ⟨item, listed, read⟩)⟩)
  rw [readItem_eq (entry _ (by simp)) (entry _ (by simp))]
  rfl

theorem checkedEnableScan_eq
    (inRange : ∀ access ∈ membershipAccesses currentBatch, access.InRange) :
    checkedEnableScan currentBatch words = some (enableScan currentBatch words) := by
  refine foldlM_eq_some (fun scan axis _ => ?_) _
  rw [checkedRole_eq inRange axis]
  rfl

theorem checkedPending_eq {items : List Nat}
    (inRange : ∀ item ∈ items, Access.InRange ⟨.enableBatches, batch⟩ ∧
      Access.InRange ⟨.batchRow, item⟩ ∧ Access.InRange ⟨.statusWords, batchItem batch item⟩) :
    checkedPending batch words items =
      some ((items.map (batchItem batch)).find? fun joint =>
        decodeState (wordAt words joint) ≠ .operationEnabled) := by
  induction items with
  | nil => rfl
  | cons item items ih =>
      obtain ⟨row, column, word⟩ := inRange item List.mem_cons_self
      have rest := ih fun other listed => inRange other (List.mem_cons_of_mem item listed)
      rw [checkedPending, readItem_eq row column, List.map_cons, List.find?_cons]
      simp only [Option.bind_eq_bind, Option.bind_some, readWord_eq word, rest]
      split_ifs with pending <;> simp [pending]

theorem checkedTimedOut_eq
    (inRange : ∀ access ∈ timedOutAccesses currentBatch words, access.InRange) :
    checkedTimedOut currentBatch words = some (timedOutAxis currentBatch words) := by
  simp only [timedOutAccesses, List.mem_append, List.mem_flatMap, List.mem_range, List.mem_cons,
    List.not_mem_nil, or_false] at inRange
  have row : Access.InRange ⟨.enableBatches, currentBatch⟩ := inRange _ (by simp)
  have start : Access.InRange ⟨.batchRow, (0 : Nat)⟩ := inRange _ (by simp)
  have size : Access.InRange ⟨.batchSizes, currentBatch⟩ := inRange _ (by simp)
  have pending : checkedPending currentBatch words (List.range (batchSize currentBatch)) = _ :=
    checkedPending_eq fun item listed =>
      ⟨row, inRange _ (.inl (.inr ⟨item, List.mem_range.mp listed, by simp⟩)),
        inRange _ (.inl (.inr ⟨item, List.mem_range.mp listed, by simp⟩))⟩
  rw [checkedTimedOut, readItem_eq row start, readSize_eq size]
  simp only [Option.bind_eq_bind, Option.bind_some, pending]
  rfl

end Reads

namespace Controller

variable (config : Config) (now : Int) (s : Controller)

/-! ## The checked cycle -/

/-- `finishStartup` with a checked read. -/
def checkedFinishStartup (scan : FinishScan) : Option Controller := do
  if s.primaryFailure.stage ≠ .success then
    return (s.storePhase .failed).storeOwner .none
  else if scan.anyFault then
    let statusWord ← readWord s.statusWords scan.firstFault
    let failure : Failure := {
      stage := .faultRequiresReset
      joint := scan.firstFault
      statusWord }
    return ((s.recordFailure failure).storePhase .failed).storeOwner .none
  else
    return (s.storePhase .idle).storeOwner .none

/-- `finishDisabling` with a checked read. -/
def checkedFinishDisabling (scan : FinishScan) : Option Controller := do
  if scan.anyFault then
    let statusWord ← readWord s.statusWords scan.firstFault
    let failure : Failure := {
      stage := .faultRequiresReset
      joint := scan.firstFault
      statusWord }
    return (((s.publishDisable false failure).recordFailure failure).storePhase .failed).storeOwner
      .none
  else if s.jtcDeactivateFailed then
    return ((s.publishDisable false { stage := .jtcDeactivateFailed }).storePhase
      .failed).storeOwner .none
  else if s.primaryFailure.stage ≠ .success then
    return ((s.publishDisable false s.primaryFailure).storePhase .failed).storeOwner .none
  else
    return ((s.clearFailure.publishDisable true { stage := .success }).storePhase .idle).storeOwner
      .none

/-- `finishDownward` with checked reads. -/
def checkedFinishDownward : Option Controller :=
  let scan := finishScan s.statusWords
  match s.phase with
  | .startupSanitizing => s.checkedFinishStartup scan
  | .disabling => s.checkedFinishDisabling scan
  | .rollback => some (s.finishRollback scan)
  | .emergencyDisable => some (s.finishEmergency scan)
  | _ => some s

/-- `recordStageTimeout` with a checked read. -/
def checkedRecordStageTimeout (scan : DownwardScan) : Option Controller := do
  let firstNonterminal :=
    if scan.firstNonterminal < 0 ∧ scan.anyFault then firstFaultedAxis s.statusWords
    else scan.firstNonterminal
  if s.primaryFailure.stage = .success then
    let stage := if scan.anyFault then Stage.faultRequiresReset else .disableTimeout
    let statusWord ← readNamed s.statusWords firstNonterminal
    return { s with
      primaryFailure := { s.primaryFailure with
        stage := stage
        joint := firstNonterminal
        statusWord := statusWord }
      lastFailure := {
        stage := stage
        batch := -1
        joint := firstNonterminal
        statusWord := statusWord } }
  else
    return s

/-- `expireStage` with checked reads. -/
def checkedExpireStage (scan : DownwardScan) : Option Controller := do
  let s ← s.checkedRecordStageTimeout scan
  if s.phase ≠ .emergencyDisable then
    return { s with
      interruptedOwner := s.owner
      stageDeadlineNs := now + config.disableStageTimeoutNs
      emergencyJtcDeactivateRequest := true
      phase := .emergencyQuickStop }
  else
    s.checkedFinishDownward

/-- `updateDownward` with checked reads. -/
def checkedDownward : Option Controller :=
  let scan := downwardScan s.statusWords
  let s := { s with
    controlWords := fun axis => downwardCommand (decodeState (s.statusWords axis)) }
  if 2 ≤ s.downwardStage ∧ scan.allNonfaultTerminal then
    s.checkedFinishDownward
  else if advancesStage scan s.downwardStage then
    let s := { s with
      downwardStage := s.downwardStage + 1
      stageDeadlineNs := now + config.disableStageTimeoutNs }
    if 2 < s.downwardStage ∧ scan.allNonfaultTerminal then s.checkedFinishDownward else some s
  else if s.stageDeadlineNs ≤ now then
    s.checkedExpireStage config now scan
  else
    some s

/-- `recordEnableFailure` with a checked read. -/
def checkedRecordEnableFailure (stage : Stage) (joint : Int) : Option Controller := do
  let statusWord ← readWord s.statusWords joint
  let failure : Failure := { stage, batch := s.currentBatch, joint, statusWord }
  return { s with primaryFailure := failure, lastFailure := failure }

/-- `settleBatch` with checked reads. -/
def checkedSettleBatch (scan : EnableScan) : Option Controller := do
  if 0 ≤ scan.invalidAxis then
    let s ← s.checkedRecordEnableFailure .enableInvalidState scan.invalidAxis
    if s.enablePreemptRequested then
      return s.preemptFailedEnable.startDownward config now .disabling
    else
      return s.startDownward config now .rollback
  else if scan.batchComplete then
    if s.enablePreemptRequested then
      return s.preemptEnable config now
    else if s.currentBatch + 1 = batchCount then
      return { s with enableHardwareReady := true, phase := .jtcActivating }
    else
      return { s with
        stageDeadlineNs := now + config.interBatchDelayNs
        phase := .interBatchDelay }
  else if s.stageDeadlineNs ≤ now then
    let joint ← checkedTimedOut s.currentBatch s.statusWords
    let s ← s.checkedRecordEnableFailure .enableBatchTimeout joint
    if s.enablePreemptRequested then
      let s := s.preemptFailedEnable
      let s := { s with primaryFailure := { s.primaryFailure with stage := .success } }
      return s.startDownward config now .disabling
    else
      return s.startDownward config now .rollback
  else
    return s

/-- `updateBatch` with checked reads; the commands use the roles that the scan has read. -/
def checkedBatch : Option Controller := do
  let scan ← checkedEnableScan s.currentBatch s.statusWords
  let s := { s with
    controlWords := fun axis =>
      enableCommand s.currentBatch axis (decodeState (s.statusWords axis)) }
  s.checkedSettleBatch config now scan

/-- `updateEnable` with checked reads. -/
def checkedEnable : Option Controller :=
  if anyFault s.statusWords then
    some (s.updateEnable config now)
  else if s.phase = .interBatchDelay then
    some (s.updateEnable config now)
  else
    { s with
      enablePreemptRequested := s.enablePreemptRequested || s.disableRequest }.checkedBatch config
      now

/-- `updateReset` with a checked read. -/
def checkedReset : Option Controller := do
  if s.disableRequest ∨ s.phase = .resetLow then
    return s.updateReset config now
  else
    let scan := resetScan s.resetTargets s.statusWords
    let s := { s with
      controlWords := fun axis =>
        resetCommand (s.resetTargets axis) (decodeState (s.statusWords axis)) }
    if scan.allReset then
      return ((s.clearFailure.publishReset true { stage := .success }).storePhase .idle).storeOwner
        .none
    else if s.stageDeadlineNs ≤ now then
      let statusWord ← readNamed s.statusWords scan.firstPending
      let failure : Failure := {
        stage := .faultResetTimeout
        joint := scan.firstPending
        statusWord }
      let s := (s.recordFailure failure).publishReset false failure
      return ((s.setAllControlWords 0x0000).storePhase .failed).storeOwner .none
    else
      return s

/-- `dispatch` with checked reads; the phases left out index by no computed value. -/
def checkedDispatch : Option Controller :=
  match s.phase with
  | .startupSanitizing | .disabling | .rollback | .emergencyDisable =>
      { s with
        downwardStage := s.descentStage
        stageDeadlineNs := s.descentDeadline config now }.checkedDownward config now
  | .enabling | .interBatchDelay => s.checkedEnable config now
  | .resetLow | .resetHigh => s.checkedReset config now
  | _ => some (s.dispatch config now)

/-- `update` with checked reads. -/
def checkedUpdate (readings : Readings) : Option Controller :=
  if s.active then
    ((s.refreshStatusWords readings).monitorFaults config now).checkedDispatch config now
  else
    some s

variable {config now s}

theorem checkedFinishDownward_eq (inRange : ∀ access ∈ s.finishAccesses, access.InRange) :
    s.checkedFinishDownward = some s.finishDownward := by
  have read (named : (⟨.statusWords, (finishScan s.statusWords).firstFault⟩ : Access) ∈
      s.finishAccesses) : readWord s.statusWords (finishScan s.statusWords).firstFault = _ :=
    readWord_eq (inRange _ named)
  unfold checkedFinishDownward finishDownward
  cases phase : s.phase with
  | startupSanitizing =>
      simp only [checkedFinishStartup, finishStartup]
      split_ifs with failed faulted
      · rfl
      · rw [read (by simp [finishAccesses, phase, failed, faulted])]
        rfl
      · rfl
  | disabling =>
      simp only [checkedFinishDisabling, finishDisabling]
      split_ifs with faulted
      · rw [read (by simp [finishAccesses, phase, faulted])]
        rfl
      all_goals rfl
  | _ => rfl

theorem checkedRecordStageTimeout_eq
    (inRange : ∀ access ∈ s.timeoutAccesses, access.InRange) :
    s.checkedRecordStageTimeout (downwardScan s.statusWords) =
      some (s.recordStageTimeout (downwardScan s.statusWords)) := by
  rw [recordStageTimeout_scan]
  by_cases clear : s.primaryFailure.stage = .success
  · have read : readNamed s.statusWords (stageTimeoutAxis s.statusWords) = _ :=
      readNamed_eq fun named => inRange _ (by simp [timeoutAccesses, clear, named])
    simp only [checkedRecordStageTimeout, if_pos clear]
    simp only [stageTimeoutAxis] at read ⊢
    rw [read]
    rfl
  · simp only [checkedRecordStageTimeout, if_neg clear]
    rfl

theorem checkedExpireStage_eq (inRange : ∀ access ∈ s.timeoutAccesses, access.InRange) :
    s.checkedExpireStage config now (downwardScan s.statusWords) =
      some (s.expireStage config now (downwardScan s.statusWords)) := by
  have phase := recordStageTimeout_phase s (downwardScan s.statusWords)
  rw [checkedExpireStage, checkedRecordStageTimeout_eq inRange]
  simp only [Option.bind_eq_bind, Option.bind_some, expireStage]
  split_ifs with normal
  · rfl
  · rw [not_not] at normal
    -- the end of an emergency reads no table
    refine checkedFinishDownward_eq fun access used => ?_
    simp only [finishAccesses, normal] at used
    cases used

theorem checkedDownward_eq (inRange : ∀ access ∈ s.downwardAccesses now, access.InRange) :
    s.checkedDownward config now = some (s.updateDownward config now) := by
  simp only [downwardAccesses] at inRange
  simp only [checkedDownward, updateDownward]
  split_ifs with terminal advances last expired
  · rw [if_pos terminal] at inRange
    exact checkedFinishDownward_eq inRange
  · rw [if_neg terminal, if_pos advances, if_pos last] at inRange
    exact checkedFinishDownward_eq inRange
  · rfl
  · rw [if_neg terminal, if_neg advances, if_pos expired] at inRange
    exact checkedExpireStage_eq fun access used => inRange access (List.mem_append_left _ used)
  · rfl

theorem checkedRecordEnableFailure_eq {stage : Stage} {joint : Int}
    (inRange : Access.InRange ⟨.statusWords, joint⟩) :
    s.checkedRecordEnableFailure stage joint = some (s.recordEnableFailure stage joint) := by
  rw [checkedRecordEnableFailure, readWord_eq inRange]
  rfl

theorem checkedSettleBatch_eq {scan : EnableScan}
    (invalid : 0 ≤ scan.invalidAxis → Access.InRange ⟨.statusWords, scan.invalidAxis⟩)
    (timedOut : ¬0 ≤ scan.invalidAxis → ¬scan.batchComplete = true → s.stageDeadlineNs ≤ now →
      ∀ access ∈ timedOutAccesses s.currentBatch s.statusWords, access.InRange) :
    s.checkedSettleBatch config now scan = some (s.settleBatch config now scan) := by
  unfold checkedSettleBatch settleBatch
  by_cases named : 0 ≤ scan.invalidAxis
  · rw [if_pos named, if_pos named, checkedRecordEnableFailure_eq (invalid named)]
    simp only [Option.bind_eq_bind, Option.bind_some]
    split_ifs <;> rfl
  · rw [if_neg named, if_neg named]
    by_cases complete : scan.batchComplete = true
    · rw [if_pos complete, if_pos complete]
      split_ifs <;> rfl
    · rw [if_neg complete, if_neg complete]
      by_cases expired : s.stageDeadlineNs ≤ now
      · have accesses := timedOut named complete expired
        have word : Access.InRange ⟨.statusWords, timedOutAxis s.currentBatch s.statusWords⟩ :=
          accesses _ (List.mem_append_right _ (List.mem_singleton.mpr rfl))
        rw [if_pos expired, if_pos expired, checkedTimedOut_eq accesses]
        simp only [Option.bind_eq_bind, Option.bind_some, checkedRecordEnableFailure_eq word]
        split_ifs <;> rfl
      · rw [if_neg expired, if_neg expired]
        rfl

theorem checkedEnable_eq (inRange : ∀ access ∈ s.enableAccesses now, access.InRange) :
    s.checkedEnable config now = some (s.updateEnable config now) := by
  unfold checkedEnable
  split_ifs with faulted delaying
  · rfl
  · rfl
  · dsimp only [enableAccesses] at inRange
    rw [if_neg (not_or.mpr ⟨faulted, delaying⟩)] at inRange
    have healthy : axes.find? (fun axis => isFaultState (decodeState (s.statusWords axis))) =
        none :=
      List.find?_eq_none.mpr fun axis listed fault =>
        faulted (List.any_eq_true.mpr ⟨axis, listed, fault⟩)
    have scanned : checkedEnableScan s.currentBatch s.statusWords = _ :=
      checkedEnableScan_eq fun access used => inRange access (List.mem_append_left _ used)
    simp only [updateEnable, healthy, if_neg delaying, checkedBatch, scanned, Option.bind_eq_bind,
      Option.bind_some, updateBatch]
    refine checkedSettleBatch_eq (fun named => inRange _ (List.mem_append_right _ ?_))
      fun valid incomplete expired access used => inRange _ (List.mem_append_right _ ?_)
    · rw [if_pos named]
      exact List.mem_singleton.mpr rfl
    · rw [if_neg valid, if_neg incomplete, if_pos expired]
      exact used

theorem checkedReset_eq (inRange : ∀ access ∈ s.resetAccesses now, access.InRange) :
    s.checkedReset config now = some (s.updateReset config now) := by
  unfold checkedReset
  by_cases quiet : s.disableRequest = true ∨ s.phase = .resetLow
  · rw [if_pos quiet]
    rfl
  · obtain ⟨undisturbed, high⟩ := not_or.mp quiet
    rw [if_neg quiet, updateReset, if_neg undisturbed, if_neg high]
    dsimp only
    by_cases reset : (resetScan s.resetTargets s.statusWords).allReset = true
    · rw [if_pos reset, if_pos reset]
      rfl
    · rw [if_neg reset, if_neg reset]
      by_cases expired : s.stageDeadlineNs ≤ now
      · have read : readNamed s.statusWords (resetScan s.resetTargets s.statusWords).firstPending =
            _ :=
          readNamed_eq fun named =>
            inRange _ (by simp [resetAccesses, undisturbed, high, reset, expired, named])
        rw [if_pos expired, if_pos expired, read]
        rfl
      · rw [if_neg expired, if_neg expired]
        rfl

/-- A cycle whose listed accesses are in range does the same with checked reads. -/
theorem checkedUpdate_eq {readings : Readings}
    (inRange : ∀ access ∈ s.accesses config now readings, access.InRange) :
    s.checkedUpdate config now readings = some (s.update config now readings) := by
  unfold checkedUpdate update
  split_ifs with active
  · have used := fun access listed => inRange access (List.mem_append_right _ listed)
    generalize (s.refreshStatusWords readings).monitorFaults config now = t at used ⊢
    have descends : t.updateDescent config now = _ := updateDescent_eq config now t
    unfold checkedDispatch dispatch
    cases phase : t.phase <;> simp only [phase] at used descends ⊢
    case startupSanitizing | disabling | rollback | emergencyDisable =>
      rw [descends]
      exact checkedDownward_eq used
    case enabling | interBatchDelay => exact checkedEnable_eq used
    case resetLow | resetHigh => exact checkedReset_eq used
  · rfl

end Controller

/-- In every reachable state each ready result slot is well formed, the batch counter
is a legal index of the batch tables with room for its successor between two batches,
and every table access of every possible next cycle, of every response that may be
filled and of the diagnostics is in range: with checked reads they do the same. -/
theorem results_wellFormed (config : Config) (s : System)
    (reachable : Reachable (blockStep config) unguarded configured s) :
    (∀ slot ∈ [s.enableResult, s.disableResult, s.resetResult], slot.ready = true →
      slot.WellFormed ∧ (∀ access ∈ nameAccesses slot.failedJoint, access.InRange) ∧
        checkedResponse slot = some (fillResponse slot)) ∧
    s.currentBatch < 5 ∧ (s.phase = .interBatchDelay → s.currentBatch + 1 < 5) ∧
    (∀ now readings, (∀ access ∈ s.toController.accesses config now readings, access.InRange) ∧
      s.toController.checkedUpdate config now readings =
        some (s.toController.update config now readings)) ∧
    (∀ access ∈ nameAccesses s.lastFailure.joint, access.InRange) ∧
    readName s.lastFailure.joint = some (jointName s.lastFailure.joint) := by
  obtain ⟨-, law⟩ := block_step_invariant (fun state => ResultLaw state.toController)
    parked_configured resultLaw_configured (fun _ _ law _ step move => resultLaw_of_step law step move)
    reachable
  have latest := nameAccesses_inRange law.last.joint.2
  refine ⟨?_, law.known, law.delay, fun now readings => ?_, latest, readName_eq latest⟩
  · have named {slot : ResultSlot} (wellFormed : slot.WellFormed) :
        slot.WellFormed ∧ (∀ access ∈ nameAccesses slot.failedJoint, access.InRange) ∧
          checkedResponse slot = some (fillResponse slot) := by
      have inRange : ∀ access ∈ nameAccesses slot.failedJoint, access.InRange := by
        apply nameAccesses_inRange
        cases answer : slot.ok with
        | true =>
            rw [(wellFormed.accepted answer).2.2.1]
            decide
        | false => exact Int.lt_add_one_of_le (wellFormed.refused answer).2.2.2
      exact ⟨wellFormed, inRange, checkedResponse_eq inRange⟩
    intro slot listed ready
    simp only [List.mem_cons, List.not_mem_nil, or_false] at listed
    rcases listed with rfl | rfl | rfl
    · exact named (law.enable ready)
    · exact named (law.disable ready)
    · exact named (law.reset ready)
  · have inRange : ∀ access ∈ s.accesses config now readings, access.InRange :=
      Controller.accesses_inRange law.known readings
    exact ⟨inRange, Controller.checkedUpdate_eq inRange⟩

/-- A batch that expires on its first axis is published with that batch and joint. -/
theorem results_wellFormed_of_batchTimeout :
    ∃ s, Reachable (blockStep defaultConfig) unguarded configured s ∧
      s.enableResult.ready = true ∧ s.enableResult.failedBatch = 0 ∧
      s.enableResult.failedJoint = 0 ∧ s.enableResult.WellFormed := by
  have found : (run (blockStep defaultConfig) unguarded configured
      ([Event.activate] ++ startupCycles ++ [Event.callEnable] ++
        cycles 0x0040 [10, 15, 16, 17, 18])).any
      (fun s => s.enableResult.ready && s.enableResult.failedBatch = 0 &&
        s.enableResult.failedJoint = 0) = true := by
    rfl
  obtain ⟨s, reachable, expired⟩ := exists_reachable_of_run found
  simp only [Bool.and_eq_true, decide_eq_true_eq] at expired
  obtain ⟨slots, -⟩ := results_wellFormed defaultConfig s reachable
  exact ⟨s, reachable, expired.1.1, expired.1.2, expired.2,
    (slots s.enableResult (List.mem_cons_self ..) expired.1.1).1⟩

end RtControl.EnableManager
