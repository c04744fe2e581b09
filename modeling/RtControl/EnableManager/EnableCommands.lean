import RtControl.EnableManager.Words

/-!
# Who is commanded to enable operation

The running batch writes by batch membership: `0x000F` to the earlier batches, the next
step to the current one and zero to the later ones.  The delay between two batches writes
by the reported state alone, and the phases around the JTC switch hold the whole group.
-/

namespace RtControl.EnableManager

open RtControl.Transition

/-! ## The batch of an axis -/

/-- An axis is listed in a batch. -/
def listedIn (axis : Axis) (batch : Nat) : Bool :=
  (List.range (batchSize batch)).any fun item => batchItem batch item = axis.val

/-- The index of the batch of an axis in `kEnableBatches`. -/
def axisBatch (axis : Axis) : Nat :=
  ((List.range batchCount).find? (listedIn axis)).getD batchCount

/-- The loops of `updateEnable` do not stop at a match, so the last one counts. -/
theorem foldl_overwrite {α β : Type} (test : β → Bool) (value initial : α) (items : List β) :
    items.foldl (fun kept item => if test item = true then value else kept) initial =
      if items.any test = true then value else initial := by
  induction items generalizing initial with
  | nil => rfl
  | cons item items ih =>
      rw [List.foldl_cons, ih, List.any_cons]
      cases test item <;> cases items.any test <;> rfl

theorem foldl_range_select {α : Type} (key count : Nat) (value : Nat → α) (initial : α) :
    (List.range count).foldl (fun kept item => if key = item then value item else kept) initial =
      if key < count then value key else initial := by
  induction count with
  | zero => rfl
  | succ count ih =>
      rw [List.range_succ, List.foldl_append, ih, List.foldl_cons, List.foldl_nil]
      by_cases same : key = count
      · subst same
        simp
      · have bound : key < count + 1 ↔ key < count := by omega
        simp only [same, if_false, bound]

theorem axisBatch_lt (axis : Axis) : axisBatch axis < batchCount := by
  revert axis
  decide +kernel

/-- Every axis is listed in its own batch and in no other one. -/
theorem listedIn_eq (axis : Axis) (batch : Nat) :
    listedIn axis batch = decide (axisBatch axis = batch) := by
  by_cases known : batch < batchCount
  · have tables : ∀ batch < batchCount, ∀ axis : Axis,
        listedIn axis batch = decide (axisBatch axis = batch) := by
      decide +kernel
    exact tables batch known axis
  · have empty : batchSize batch = 0 := by
      have beyond : batchSizes.length ≤ batch := Nat.not_lt.mp known
      rw [batchSize, List.getD_eq_getElem?_getD, List.getElem?_eq_none beyond]
      rfl
    have bound := axisBatch_lt axis
    have other : axisBatch axis ≠ batch := by omega
    simp [listedIn, empty, other]

/-- The membership loops compare the batch of the axis with the current one. -/
theorem batchRole_eq (currentBatch : Nat) (axis : Axis) :
    batchRole currentBatch axis =
      if axisBatch axis ≤ currentBatch then
        { isCurrent := axisBatch axis = currentBatch
          isPrevious := axisBatch axis < currentBatch }
      else
        {} := by
  have inner (role : BatchRole) (batch : Nat) :
      (List.range (batchSize batch)).foldl (fun role item =>
        if batchItem batch item = axis.val then
          { isCurrent := batch = currentBatch, isPrevious := batch < currentBatch : BatchRole }
        else role) role =
      if axisBatch axis = batch then
        { isCurrent := batch = currentBatch, isPrevious := batch < currentBatch }
      else role := by
    have overwritten := foldl_overwrite (fun item => decide (batchItem batch item = axis.val))
      ({ isCurrent := batch = currentBatch, isPrevious := batch < currentBatch : BatchRole })
      role (List.range (batchSize batch))
    have listed := listedIn_eq axis batch
    rw [listedIn] at listed
    rw [listed] at overwritten
    simpa only [decide_eq_true_eq] using overwritten
  simp only [batchRole, inner]
  rw [foldl_range_select (axisBatch axis) (currentBatch + 1)]
  simp only [Nat.lt_succ_iff]

/-! ## Batches not yet started -/

/-- A cycle of the batchwise enable that starts no emergency writes zero to every axis of
a later batch. -/
def KeepsLaterOff (s t : System) (event : Event) : Prop :=
  ∀ now readings, event = .update now readings → s.active = true → s.phase.isEnabling = true →
    t.phase.isEmergency = false →
    ∀ axis, s.currentBatch < axisBatch axis → t.controlWords axis = 0x0000

/-- No axis of a later batch reports Operation Enabled in a healthy delay between two
batches. -/
def laterStayDown : Guard System Event := fun s event =>
  match event with
  | .update _ readings =>
      decide (s.active = true → s.phase = .interBatchDelay →
        anyFault (refreshedWords readings) = false →
        ∀ axis, s.currentBatch < axisBatch axis →
          decodeState (refreshedWords readings axis) ≠ .operationEnabled)
  | _ => true

/-- Every cycle of every run keeps the later batches off. -/
def LaterOffLaw (config : Config) (guard : Guard System Event) : Prop :=
  ∀ s t event, Reachable (atomicStep config) guard configured s →
    guard s event = true → atomicStep config s event = some t → KeepsLaterOff s t event

theorem enableCommand_of_later {currentBatch : Nat} {axis : Axis} (state : DriveState)
    (later : currentBatch < axisBatch axis) : enableCommand currentBatch axis state = 0x0000 := by
  have role : batchRole currentBatch axis = {} := by
    rw [batchRole_eq, if_neg (by omega)]
  simp only [enableCommand, role]
  rfl

theorem interBatchCommand_eq_zero_iff (state : DriveState) :
    interBatchCommand state = 0x0000 ↔ state ≠ .operationEnabled := by
  cases state <;> decide

/-- A healthy enable cycle starts no emergency. -/
theorem Controller.updateEnable_calm {config : Config} {now : Int} {s : Controller}
    (enabling : s.phase.isEnabling = true) (healthy : anyFault s.statusWords = false) :
    (s.updateEnable config now).phase.isEmergency = false := by
  have outside : s.phase.isEmergency = false := by
    cases phase : s.phase <;> simp_all [Phase.isEnabling, Phase.isEmergency]
  simp only [updateEnable, find?_faulted healthy, updateInterBatchDelay, updateBatch, settleBatch, preemptEnable,
    startDownward]
  split_ifs <;> first
    | rfl
    | exact outside

section Steps

variable {config : Config} {now : Int} {readings : Readings} {s t : System} {event : Event}

/-- What a healthy enable cycle writes to a later batch. -/
theorem laterOff_iff (active : s.active = true) (enabling : s.phase.isEnabling = true)
    (healthy : anyFault (refreshedWords readings) = false) :
    (∀ axis, s.currentBatch < axisBatch axis →
      (s.toController.update config now readings).controlWords axis = 0x0000) ↔
      (s.phase = .interBatchDelay → ∀ axis, s.currentBatch < axisBatch axis →
        decodeState (refreshedWords readings axis) ≠ .operationEnabled) := by
  have written (axis : Axis) : (s.toController.update config now readings).controlWords axis =
      if s.phase = .interBatchDelay then
        interBatchCommand (decodeState (refreshedWords readings axis))
      else enableCommand s.currentBatch axis (decodeState (refreshedWords readings axis)) := by
    have scanned := Controller.updateEnable_controlWords config now
      (s.toController.refreshStatusWords readings) healthy
    rw [Controller.update_of_enabling active enabling, scanned]
    rfl
  constructor
  · intro off delaying axis later
    have zero := off axis later
    rw [written, if_pos delaying] at zero
    exact (interBatchCommand_eq_zero_iff _).mp zero
  · intro down axis later
    rw [written]
    by_cases delaying : s.phase = .interBatchDelay
    · rw [if_pos delaying]
      exact (interBatchCommand_eq_zero_iff _).mpr (down delaying axis later)
    · rw [if_neg delaying]
      exact enableCommand_of_later _ later

/-- An enable cycle starts an emergency exactly on a fault. -/
theorem isEmergency_of_enabling (active : s.active = true) (enabling : s.phase.isEnabling = true) :
    (s.toController.update config now readings).phase.isEmergency =
      anyFault (refreshedWords readings) := by
  rw [Controller.update_of_enabling active enabling]
  cases fault : anyFault (refreshedWords readings) with
  | true =>
      rw [((s.toController.refreshStatusWords readings).updateEnable_of_anyFault config now
        fault).2]
      rfl
  | false => exact Controller.updateEnable_calm enabling fault

theorem keepsLaterOff_iff (step : atomicStep config s event = some t) :
    KeepsLaterOff s t event ↔ laterStayDown s event = true := by
  cases event with
  | update now readings =>
      cases step
      simp only [laterStayDown, decide_eq_true_eq]
      constructor
      · intro keeps active delaying healthy
        have enabling : s.phase.isEnabling = true := by rw [delaying]; rfl
        have calm : (s.toController.update config now readings).phase.isEmergency = false := by
          rw [isEmergency_of_enabling active enabling, healthy]
        exact (laterOff_iff active enabling healthy).mp
          (keeps now readings rfl active enabling calm) delaying
      · intro down _ _ same active enabling calm
        cases same
        have healthy : anyFault (refreshedWords readings) = false := by
          rw [← isEmergency_of_enabling active enabling]
          exact calm
        exact (laterOff_iff active enabling healthy).mpr fun delaying =>
          down active delaying healthy
  | _ => simp [laterStayDown, KeepsLaterOff]

end Steps

/-- Runs whose later batches stay out of Operation Enabled in the delays keep them off, and
in any run a cycle does so exactly when it sees none of them there. -/
theorem keepsLaterOff_of_laterStayDown (config : Config) :
    LaterOffLaw config laterStayDown ∧
      ∀ s t event, Reachable (atomicStep config) unguarded configured s →
        atomicStep config s event = some t →
          (KeepsLaterOff s t event ↔ laterStayDown s event = true) := by
  constructor
  · intro s t event _ allowed step
    exact (keepsLaterOff_iff step).mpr allowed
  · intro s t event _ step
    exact keepsLaterOff_iff step

/-- Readings of a group whose first batch is in Operation Enabled. -/
def firstBatchEnabled : Readings := fun axis =>
  if axisBatch axis = 0 then some 0x0027 else some 0x0040

/-- An enable whose first batch is complete. -/
def firstBatchEvents : List Event :=
  [Event.activate] ++ startupCycles ++ [Event.callEnable] ++
    List.replicate 8 (Event.enable false) ++ cycles 0x0040 [10] ++
      [Event.update 11000000000 firstBatchEnabled]

/-- In the delay after the first batch the others are off. -/
theorem keepsLaterOff_of_firstBatch :
    ∃ s t, Reachable (atomicStep defaultConfig) laterStayDown configured s ∧
      s.phase = .interBatchDelay ∧ s.currentBatch = 0 ∧
      atomicStep defaultConfig s (.update 11100000000 firstBatchEnabled) = some t ∧
      ∀ axis, 0 < axisBatch axis → t.controlWords axis = 0x0000 := by
  have found : (run (atomicStep defaultConfig) laterStayDown configured firstBatchEvents).any
      (fun s => s.active && s.phase = .interBatchDelay && s.currentBatch = 0 &&
        laterStayDown s (.update 11100000000 firstBatchEnabled)) = true := by
    decide +kernel
  rcases exists_reachable_of_run found with ⟨s, reachable, tested⟩
  simp only [Bool.and_eq_true, decide_eq_true_eq] at tested
  rcases tested with ⟨⟨⟨active, delaying⟩, first⟩, allowed⟩
  have enabling : s.phase.isEnabling = true := by rw [delaying]; rfl
  have calm : (s.toController.update defaultConfig 11100000000
      firstBatchEnabled).phase.isEmergency = false := by
    rw [isEmergency_of_enabling active enabling]
    decide +kernel
  refine ⟨s, _, reachable, delaying, first, rfl, ?_⟩
  intro axis later
  exact (keepsLaterOff_of_laterStayDown defaultConfig).1 s _ _ reachable allowed rfl _ _ rfl
    active enabling calm axis (first ▸ later)

/-- An axis of a later batch that reports Operation Enabled in the delay is commanded to
stay there. -/
theorem not_keepsLaterOff_of_unexpectedAxis : ¬LaterOffLaw defaultConfig unguarded := by
  intro always
  have found : (run (atomicStep defaultConfig) unguarded configured firstBatchEvents).any
      (fun s => s.active && s.phase = .interBatchDelay && s.currentBatch = 0 &&
        ((s.toController.update defaultConfig 11100000000 (everyAxis 0x0027)).controlWords 13 =
          0x000F)) = true := by
    decide +kernel
  rcases exists_reachable_of_run found with ⟨s, reachable, tested⟩
  simp only [Bool.and_eq_true, decide_eq_true_eq] at tested
  rcases tested with ⟨⟨⟨active, delaying⟩, first⟩, held⟩
  have enabling : s.phase.isEnabling = true := by rw [delaying]; rfl
  have calm : (s.toController.update defaultConfig 11100000000
      (everyAxis 0x0027)).phase.isEmergency = false := by
    rw [isEmergency_of_enabling active enabling]
    decide +kernel
  have off := always s _ (.update 11100000000 (everyAxis 0x0027)) reachable rfl rfl _ _ rfl active
    enabling calm 13 (by rw [first]; decide +kernel)
  exact absurd (off.symm.trans held) (by decide)

/-! ## Enable Operation -/

/-- The cycle writes the word to the axis, whatever its command interface held before. -/
def Writes (config : Config) (now : Int) (readings : Readings) (s : Controller) (axis : Axis)
    (word : UInt16) : Prop :=
  ∀ held : Words,
    ({ s with controlWords := held }.update config now readings).controlWords axis = word

/-- The states in which Enable Operation is the next or the holding command. -/
def ReadyToEnable (state : DriveState) : Prop :=
  state = .switchedOn ∨ state = .operationEnabled

section Words

variable {config : Config} {now : Int} {readings : Readings} {s : Controller} {axis : Axis}

theorem downwardCommand_ne_enable (state : DriveState) : downwardCommand state ≠ 0x000F := by
  cases state <;> decide

theorem resetCommand_ne_enable (target : Bool) (state : DriveState) :
    resetCommand target state ≠ 0x000F := by
  cases target <;> cases state <;> decide

theorem interBatchCommand_eq_enable {state : DriveState}
    (enables : interBatchCommand state = 0x000F) : state = .operationEnabled := by
  revert enables
  cases state <;> decide

/-- A running batch enables the axes that are ready and the members of earlier batches. -/
theorem enableCommand_eq_enable {currentBatch : Nat} {state : DriveState}
    (enables : enableCommand currentBatch axis state = 0x000F) :
    ReadyToEnable state ∨ axisBatch axis < currentBatch := by
  by_cases earlier : axisBatch axis < currentBatch
  · exact .inr earlier
  · have notPrevious : (batchRole currentBatch axis).isPrevious = false := by
      rw [batchRole_eq]
      split_ifs
      · exact decide_eq_false earlier
      · rfl
    simp only [enableCommand, notPrevious, Bool.false_eq_true, if_false] at enables
    split_ifs at enables
    · refine .inl ?_
      revert enables
      cases state <;> simp [ReadyToEnable]
    · exact absurd enables (by decide)

/-- A member of an earlier batch that is not enabled any more ends the enable. -/
theorem updateEnable_phase_of_earlier (enabling : s.phase = .enabling)
    (healthy : anyFault s.statusWords = false) (earlier : axisBatch axis < s.currentBatch)
    (left : decodeState (s.statusWords axis) ≠ .operationEnabled) :
    (s.updateEnable config now).phase = .rollback ∨
      (s.updateEnable config now).phase = .disabling := by
  have previous : (batchRole s.currentBatch axis).isPrevious = true := by
    rw [batchRole_eq, if_pos (Nat.le_of_lt earlier)]
    exact decide_eq_true earlier
  have leaves : leavesBatch s.currentBatch s.statusWords axis = true := by
    simp only [leavesBatch, previous]
    cases state : decodeState (s.statusWords axis) <;> simp_all
  have invalid : 0 ≤ (enableScan s.currentBatch s.statusWords).invalidAxis := by
    by_contra valid
    have stays := (enableScan_valid_iff _ _).mp (Int.not_le.mp valid) axis
    rw [leaves] at stays
    cases stays
  simp only [Controller.updateEnable, find?_faulted healthy, enabling, reduceCtorEq, if_false,
    Controller.updateBatch, Controller.settleBatch, invalid, if_true, Controller.startDownward]
  split_ifs
  · exact .inr rfl
  · exact .inl rfl

theorem ends_of_earlier (active : s.active = true) (enabling : s.phase = .enabling)
    (healthy : anyFault (refreshedWords readings) = false)
    (earlier : axisBatch axis < s.currentBatch) :
    ReadyToEnable (decodeState (refreshedWords readings axis)) ∨
      (s.update config now readings).phase = .rollback ∨
      (s.update config now readings).phase = .disabling := by
  by_cases holds : decodeState (refreshedWords readings axis) = .operationEnabled
  · exact .inl (.inr holds)
  · have running : s.phase.isEnabling = true := by rw [enabling]; rfl
    rw [Controller.update_of_enabling active running]
    have ends : ((s.refreshStatusWords readings).updateEnable config now).phase = .rollback ∨
        ((s.refreshStatusWords readings).updateEnable config now).phase = .disabling :=
      updateEnable_phase_of_earlier enabling healthy earlier holds
    exact .inr ends

/-- An unmonitored cycle around the JTC switch sees no fault. -/
theorem healthy_of_unmonitored {phase : Phase} {words : Words}
    (held : phase = .jtcActivating ∨ phase = .jtcDeactivating)
    (calm : monitoredFailure phase words = none) : anyFault words = false := by
  by_contra faulted
  rw [Bool.not_eq_false] at faulted
  rcases exists_monitored_of_anyFault (.inr held) faulted with ⟨axis, stage, tripped⟩
  rw [calm] at tripped
  cases tripped

/-- While the group waits for its JTC, a healthy cycle holds every axis. -/
theorem writes_of_jtcActivating (active : s.active = true) (activating : s.phase = .jtcActivating)
    (unfailed : s.jtcActivateFailedRequest = false)
    (calm : monitoredFailure .jtcActivating (refreshedWords readings) = none) :
    Writes config now readings s axis 0x000F := by
  intro held
  have unmonitored : monitoredFailure s.phase (refreshedWords readings) = none := by
    rw [activating]
    exact calm
  rw [Controller.update_of_unmonitored config now { s with controlWords := held } active unmonitored]
  simp only [Controller.dispatch, Controller.refreshStatusWords, activating,
    Controller.updateJtcActivating_controlWords, unfailed]
  rfl

/-- Where the batchwise enable writes Enable Operation. -/
theorem enabled_of_enabling (active : s.active = true) (enabling : s.phase.isEnabling = true)
    (written : Writes config now readings s axis 0x000F) :
    ReadyToEnable (decodeState (refreshedWords readings axis)) ∨
      (s.phase = .enabling ∧ axisBatch axis < s.currentBatch ∧
        ((s.update config now readings).phase = .rollback ∨
          (s.update config now readings).phase = .disabling)) := by
  -- Start from words that hold no axis, so that a kept word is not taken for a written one.
  have enables := written fun _ => 0x0000
  rw [Controller.update_of_enabling (s := { s with controlWords := fun _ => 0x0000 }) active
    enabling] at enables
  have healthy : anyFault (refreshedWords readings) = false := by
    by_contra faulted
    rw [Bool.not_eq_false] at faulted
    have kept := (Controller.updateEnable_of_anyFault config now
      ({ s with controlWords := fun _ => 0x0000 }.refreshStatusWords readings) faulted).1
    rw [kept] at enables
    exact absurd enables (by decide : (0x0000 : UInt16) ≠ 0x000F)
  have commanded := congrFun (Controller.updateEnable_controlWords config now
    ({ s with controlWords := fun _ => 0x0000 }.refreshStatusWords readings) healthy) axis
  rw [enables] at commanded
  by_cases delaying : s.phase = .interBatchDelay
  · have held : interBatchCommand (decodeState (refreshedWords readings axis)) = 0x000F :=
      ((if_pos delaying).symm.trans commanded.symm)
    exact .inl (.inr (interBatchCommand_eq_enable held))
  · have running : s.phase = .enabling := by
      cases phase : s.phase <;> simp_all [Phase.isEnabling]
    have sent : enableCommand s.currentBatch axis (decodeState (refreshedWords readings axis)) =
        0x000F := ((if_neg delaying).symm.trans commanded.symm)
    rcases enableCommand_eq_enable sent with ready | earlier
    · exact .inl ready
    · rcases ends_of_earlier active running healthy earlier with ready | ends
      · exact .inl ready
      · exact .inr ⟨running, earlier, ends⟩

/-- Outside the batchwise enable only a held group is commanded to enable operation. -/
theorem enabled_of_dispatch (outside : s.phase.isEnabling = false)
    (calm : monitoredFailure s.phase s.statusWords = none) (off : s.controlWords axis = 0x0000)
    (enables : (s.dispatch config now).controlWords axis = 0x000F) :
    (∀ axis, s.phase = .enabled → decodeState (s.statusWords axis) = .operationEnabled) ∧
      (s.phase = .enabled ∨ s.phase = .jtcActivating ∨ s.phase = .jtcDeactivating) := by
  have zero : (0x0000 : UInt16) ≠ 0x000F := by decide
  refine ⟨?_, ?_⟩
  · intro axis enabled
    rw [enabled] at calm
    exact operationEnabled_of_unmonitored calm axis
  · cases phase : s.phase with
    | inactive =>
        simp only [Controller.dispatch, phase, off] at enables
        exact absurd enables zero
    | startupSanitizing | disabling | rollback | emergencyDisable =>
        simp only [Controller.dispatch, phase, Controller.updateDescent_controlWords] at enables
        exact absurd enables (downwardCommand_ne_enable _)
    | idle =>
        simp only [Controller.dispatch, phase, Controller.updateIdle_controlWords] at enables
        exact absurd enables zero
    | failed =>
        simp only [Controller.dispatch, phase, Controller.updateFailed_controlWords] at enables
        exact absurd enables zero
    | resetLow | resetHigh =>
        simp only [Controller.dispatch, phase] at enables
        rcases Controller.updateReset_controlWords config now s axis with low | reset
        · exact absurd (low.symm.trans enables) zero
        · exact absurd (reset.symm.trans enables) (resetCommand_ne_enable _ _)
    | emergencyQuickStop =>
        simp only [Controller.dispatch, phase,
          Controller.updateEmergencyQuickStop_controlWords] at enables
        exact absurd enables (quickStopCommand_ne_enable _)
    | enabling | interBatchDelay =>
        rw [phase] at outside
        cases outside
    | enabled => exact .inl rfl
    | jtcActivating => exact .inr (.inl rfl)
    | jtcDeactivating => exact .inr (.inr rfl)

/-- Enable Operation is written to an axis that is ready for it, to the whole healthy group
around the JTC switch, and to a member of an earlier batch by a cycle that ends the enable. -/
theorem enable_written_only (config : Config) (now : Int) (readings : Readings) (s : Controller)
    (axis : Axis) (written : Writes config now readings s axis 0x000F) :
    ReadyToEnable (decodeState (refreshedWords readings axis)) ∨
      ((s.phase = .jtcActivating ∨ s.phase = .jtcDeactivating) ∧
        anyFault (refreshedWords readings) = false) ∨
      (s.phase = .enabling ∧ axisBatch axis < s.currentBatch ∧
        ((s.update config now readings).phase = .rollback ∨
          (s.update config now readings).phase = .disabling)) := by
  have enables := written fun _ => 0x0000
  by_cases active : s.active = true
  · by_cases enabling : s.phase.isEnabling = true
    · rcases enabled_of_enabling active enabling written with ready | earlier
      · exact .inl ready
      · exact .inr (.inr earlier)
    · rw [Bool.not_eq_true] at enabling
      cases calm : monitoredFailure s.phase (refreshedWords readings) with
      | some tripped =>
          rw [Controller.update_of_monitored config now { s with controlWords := fun _ => 0x0000 }
            active calm, Controller.updateEmergencyQuickStop_controlWords] at enables
          exact absurd enables (quickStopCommand_ne_enable _)
      | none =>
          rw [Controller.update_of_unmonitored config now { s with controlWords := fun _ => 0x0000 }
            active calm] at enables
          have held := enabled_of_dispatch
            (s := { s with controlWords := fun _ => 0x0000 }.refreshStatusWords readings) enabling
            calm rfl enables
          rcases held with ⟨operating, enabled | waiting⟩
          · exact .inl (.inr (operating axis enabled))
          · have around : s.phase = .jtcActivating ∨ s.phase = .jtcDeactivating := waiting
            refine .inr (.inl ⟨around, ?_⟩)
            rcases around with activating | deactivating
            · rw [activating] at calm
              exact healthy_of_unmonitored (.inl rfl) calm
            · rw [deactivating] at calm
              exact healthy_of_unmonitored (.inr rfl) calm
  · rw [Bool.not_eq_true] at active
    rw [Controller.update_inactive config now { s with controlWords := fun _ => 0x0000 } readings
      active] at enables
    exact absurd enables (by decide : (0x0000 : UInt16) ≠ 0x000F)

end Words

/-- The whole group is held while it waits for its JTC. -/
theorem enable_written_only_of_activating :
    ((Phase.jtcActivating = .jtcActivating ∨ Phase.jtcActivating = .jtcDeactivating) ∧
        anyFault (refreshedWords (everyAxis 0x0040)) = false) ∧
      Writes defaultConfig 0 (everyAxis 0x0040)
        { active := true, phase := .jtcActivating } 0 0x000F := by
  have written : Writes defaultConfig 0 (everyAxis 0x0040)
      { active := true, phase := .jtcActivating } 0 0x000F :=
    writes_of_jtcActivating rfl rfl rfl (by decide +kernel)
  rcases enable_written_only defaultConfig 0 (everyAxis 0x0040) _ 0 written with
    ready | held | earlier
  · exact absurd ready (by unfold ReadyToEnable; decide +kernel)
  · exact ⟨held, written⟩
  · exact absurd earlier.1 (by decide)

/-- An axis that has dropped to Quick Stop Active while the group waits for its JTC is
commanded to enable operation. -/
theorem enable_written_to_stopped_axis :
    ¬∀ (config : Config) (s : System) (now : Int) (readings : Readings) (axis : Axis),
      Reachable (atomicStep config) unguarded configured s →
      Writes config now readings s.toController axis 0x000F →
      ReadyToEnable (decodeState (refreshedWords readings axis)) := by
  intro always
  have found : (run (atomicStep defaultConfig) unguarded configured
      ([Event.activate] ++ startupCycles ++ [Event.callEnable] ++
        List.replicate 8 (Event.enable false) ++ batchCycles)).any
      (fun s => s.active && s.phase = .jtcActivating && !s.jtcActivateFailedRequest) = true := by
    decide +kernel
  rcases exists_reachable_of_run found with ⟨s, reachable, tested⟩
  simp only [Bool.and_eq_true, decide_eq_true_eq, Bool.not_eq_true'] at tested
  rcases tested with ⟨⟨active, activating⟩, unfailed⟩
  have ready := always defaultConfig s 20000000000 (everyAxis 0x0007) 0 reachable
    (writes_of_jtcActivating active activating unfailed (by decide +kernel))
  revert ready
  unfold ReadyToEnable
  decide +kernel

end RtControl.EnableManager
