import RtControl.EnableManager.Conforming

/-!
# One cycle from station to station

One real-time cycle over the readings of conforming drives takes the group to
the next station when the current stage is settled, and keeps its station
otherwise.  The descents, the batches and the stations without a stage are
treated in turn; the mixed states of the fourteen drives stay confined axis by
axis throughout.
-/

namespace RtControl.EnableManager

/-! ## Descents -/

namespace Controller

variable {config : Config} {now : Int} {s : Controller}

theorem updateDescent_of_open (unsettled : s.descentSettles = false)
    (early : now < s.descentDeadline config now) :
    s.updateDescent config now = s.descentScanned config now := by
  simp only [descentSettles] at unsettled
  rw [updateDescent_eq]
  simp only [updateDownward, descentScanned]
  split_ifs with terminal advance beyond expired
  · simp [terminal] at unsettled
  · simp only [advancesStage] at advance
    split_ifs at advance <;> omega
  · split_ifs at unsettled with last
    · simp only [advancesStage] at advance
      split_ifs at advance <;> omega
    · simp [unsettled] at advance
  · omega
  · rfl

theorem updateDescent_of_settled (low : s.descentStage < 2) (settled : s.descentSettles = true) :
    s.updateDescent config now =
      { s.descentScanned config now with
        downwardStage := s.descentStage + 1
        stageDeadlineNs := now + config.disableStageTimeoutNs } := by
  have advances : advancesStage (downwardScan s.statusWords) s.descentStage = true := by
    simpa [descentSettles, Nat.not_le.mpr low] using settled
  have unfinished : ¬(2 < s.descentStage + 1) := by omega
  rw [updateDescent_eq]
  simp [updateDownward, descentScanned, Nat.not_le.mpr low, advances, unfinished]

theorem updateDescent_of_last (last : 2 ≤ s.descentStage) (settled : s.descentSettles = true) :
    s.updateDescent config now = (s.descentScanned config now).finishDownward := by
  have terminal : (downwardScan s.statusWords).allNonfaultTerminal = true := by
    simpa [descentSettles, last] using settled
  rw [updateDescent_eq]
  simp [updateDownward, descentScanned, last, terminal]

end Controller

section Cycles

variable {config : Config} {now : Int} {s : Controller} {station : Station}

/-- A descent at a stage, whatever its set deadline. -/
theorem Poised.descend {descent : Nat → Station}
    (named : descent = .startup ∨ descent = .disabling) {stage later : Nat}
    (poised : Poised (descent stage) s) (low : later ≤ 2) {deadline : Int}
    (positive : deadline ≠ 0) (controlWords : Words) :
    Stands (descent later)
      { s with downwardStage := later, stageDeadlineNs := deadline, controlWords } := by
  have counted : ({ s with downwardStage := later, stageDeadlineNs := deadline, controlWords } :
      Controller).descentStage = later := by
    simp [Controller.descentStage, positive]
  rcases named with rfl | rfl
  · exact { poised with counts := ⟨counted, low⟩, commands := fun _ => trivial }
  · exact { poised with counts := ⟨counted, low⟩, commands := fun _ => trivial }

/-- A terminal group under the words of a descent is an idle group. -/
theorem downwardCommand_of_terminal {axis : Axis} {state : DriveState}
    (terminal : isConfirmedDisableTerminal axis state = true) : downwardCommand state = 0x0000 := by
  cases state <;> simp_all [isConfirmedDisableTerminal, downwardCommand]

theorem finishStartup_of_clean {scan : FinishScan} (blameless : s.primaryFailure.stage = .success)
    (healthy : scan.anyFault = false) :
    s.finishStartup scan = { s with phase := .idle, owner := .none } := by
  simp [Controller.finishStartup, Controller.storePhase, Controller.storeOwner, blameless, healthy]

theorem finishDisabling_of_clean {scan : FinishScan}
    (blameless : s.primaryFailure.stage = .success) (switchedOff : s.jtcDeactivateFailed = false)
    (healthy : scan.anyFault = false) :
    s.finishDisabling scan =
      { s with
        lastFailure := {}
        disableResult := Controller.published true { stage := .success }
        phase := .idle
        owner := .none } := by
  simp [Controller.finishDisabling, Controller.storePhase, Controller.storeOwner,
    Controller.clearFailure, Controller.publishDisable, blameless, switchedOff, healthy]

/-- The last stage of a descent ends with every axis in its terminal, under zero
words. -/
theorem Poised.rests {descent : Nat → Station} {stage : Nat}
    (named : descent = .startup ∨ descent = .disabling) (poised : Poised (descent stage) s)
    (last : 2 ≤ s.descentStage) (settled : s.descentSettles = true) :
    (finishScan s.statusWords).anyFault = false ∧
      ∀ axis, isConfirmedDisableTerminal axis (decodeState (s.statusWords axis)) = true ∧
        downwardCommand (decodeState (s.statusWords axis)) = 0x0000 := by
  have healthy : anyFault s.statusWords = false := by
    rw [anyFault_eq_false_iff]
    rcases named with rfl | rfl
    · exact poised.reads
    · exact poised.reads
  have scanned : (downwardScan s.statusWords).allNonfaultTerminal = true := by
    simpa [Controller.descentSettles, last] using settled
  have terminal := (allTerminal_iff _).mp (allTerminal_of_scan scanned healthy)
  exact ⟨(finishScan_anyFault _).trans healthy,
    fun axis => ⟨terminal axis, downwardCommand_of_terminal (terminal axis)⟩⟩

/-- The startup sanitizer ends in the idle group. -/
theorem Poised.finish_startup (poised : Poised (.startup 2) s)
    (settled : s.descentSettles = true) :
    Cycled (.startup 2) true s ((s.descentScanned config now).finishDownward) := by
  have last : 2 ≤ s.descentStage := poised.counts.1.ge
  rcases poised.rests (Or.inl rfl) last settled with ⟨healthy, terminal⟩
  have phase : (s.descentScanned config now).phase = .startupSanitizing := poised.phase
  have finished : (s.descentScanned config now).finishDownward =
      { s.descentScanned config now with phase := .idle, owner := .none } := by
    simp only [Controller.finishDownward, phase]
    exact finishStartup_of_clean poised.blameless healthy
  rw [finished]
  constructor
  · exact { poised with
      phase := rfl
      owner := rfl
      counts := trivial
      reads := fun axis => (terminal axis).1
      commands := fun axis => (terminal axis).2 }
  · rfl
  · rfl
  · rfl
  · simp
  · exact fun _ => rfl

/-- A normal disable ends in the idle group and publishes its success. -/
theorem Poised.finish_disabling (poised : Poised (.disabling 2) s)
    (settled : s.descentSettles = true) :
    Cycled (.disabling 2) true s ((s.descentScanned config now).finishDownward) := by
  have last : 2 ≤ s.descentStage := poised.counts.1.ge
  rcases poised.rests (Or.inr rfl) last settled with ⟨healthy, terminal⟩
  have phase : (s.descentScanned config now).phase = .disabling := poised.phase
  have finished : (s.descentScanned config now).finishDownward =
      { s.descentScanned config now with
        lastFailure := {}
        disableResult := Controller.published true { stage := .success }
        phase := .idle
        owner := .none } := by
    simp only [Controller.finishDownward, phase]
    exact finishDisabling_of_clean poised.blameless poised.switchedOff healthy
  rw [finished]
  constructor
  · exact { poised with
      phase := rfl
      owner := rfl
      counts := trivial
      reads := fun axis => (terminal axis).1
      commands := fun axis => (terminal axis).2 }
  · rfl
  · rfl
  · rfl
  · simp
  · exact fun _ => rfl

/-- One cycle of a descent of conforming drives. -/
theorem Poised.cycled_descent {descent : Nat → Station} {stage : Nat}
    (named : descent = .startup ∨ descent = .disabling) (poised : Poised (descent stage) s)
    (timeout : 1 ≤ config.disableStageTimeoutNs) (started : 0 ≤ now)
    (timely : s.inTime config now = true) :
    Cycled (descent stage) (s.settles now) s (s.dispatch config now) := by
  have dispatched : s.dispatch config now = s.updateDescent config now ∧
      s.settles now = s.descentSettles ∧
      s.inTime config now = decide (now < s.descentDeadline config now) ∧
      s.descentStage = stage ∧ stage ≤ 2 := by
    have phase := poised.phase
    have counts := poised.counts
    rcases named with rfl | rfl <;> rw [Station.phase] at phase <;>
      simp only [Controller.dispatch, Controller.settles, Controller.inTime, phase, true_and] <;>
      exact counts
  rcases dispatched with ⟨descends, settles, bounded, counted, low⟩
  rw [descends, settles]
  rw [bounded, decide_eq_true_eq] at timely
  have fresh : now + config.disableStageTimeoutNs ≠ 0 := by omega
  cases settled : s.descentSettles with
  | false =>
      have positive : s.descentDeadline config now ≠ 0 := by
        rw [Controller.descentDeadline]
        split_ifs with unset
        · exact fresh
        · exact unset
      have stands := poised.descend named low positive
        fun axis => downwardCommand (decodeState (s.statusWords axis))
      rw [Controller.updateDescent_of_open settled timely, Controller.descentScanned, counted]
      constructor
      · rcases named with rfl | rfl <;> exact stands
      · rfl
      · simp
      · rcases named with rfl | rfl <;> rfl
      · rcases named with rfl | rfl <;> simp
      · rcases named with rfl | rfl <;> exact fun _ => rfl
  | true =>
      by_cases last : stage < 2
      · have stands := poised.descend named (Nat.succ_le_of_lt last) fresh
          fun axis => downwardCommand (decodeState (s.statusWords axis))
        rw [Controller.updateDescent_of_settled (counted ▸ last) settled, counted]
        have unfinished : stage ≠ 2 := by omega
        have advanced : (descent stage).next true = descent (stage + 1) := by
          rcases named with rfl | rfl <;> simp [Station.next, last]
        constructor
        · rw [advanced]
          exact stands
        · rfl
        · rcases named with rfl | rfl <;> simp [unfinished] <;> rfl
        · rcases named with rfl | rfl <;> rfl
        · rcases named with rfl | rfl <;> simp
        · rcases named with rfl | rfl <;> exact fun _ => rfl
      · have ended : stage = 2 := by omega
        subst ended
        rw [Controller.updateDescent_of_last counted.ge settled]
        rcases named with rfl | rfl
        · exact poised.finish_startup settled
        · exact poised.finish_disabling settled

/-! ## Batches -/

theorem batchRole_first (axis : Axis) : (batchRole 0 axis).isPrevious = false := by
  revert axis
  decide

/-- The axes before the next batch are those of the batches so far. -/
theorem batchRole_succ {number : Nat} (more : number + 1 < batchCount) (axis : Axis) :
    (batchRole (number + 1) axis).isPrevious =
      ((batchRole number axis).isPrevious || (batchRole number axis).isCurrent) := by
  have tables : ∀ number < batchCount - 1, ∀ axis : Axis,
      (batchRole (number + 1) axis).isPrevious =
        ((batchRole number axis).isPrevious || (batchRole number axis).isCurrent) := by
    decide +kernel
  exact tables number (by omega) axis

theorem Poised.healthy (poised : Poised station s) :
    (axes.find? fun axis => isFaultState (decodeState (s.statusWords axis))) = none := by
  rw [List.find?_eq_none]
  intro axis _
  have reads := poised.reads axis
  rw [Bool.not_eq_true]
  cases station <;> simp only [Station.Reads] at reads
  case startup | disabling => exact reads
  case idle | enableRequested | resetRequested =>
    exact isFaultState_of_isConfirmedDisableTerminal reads
  case activating | enabled | deactivating =>
    rw [reads]
    rfl
  case batch =>
    split_ifs at reads
    · rw [reads]
      rfl
    · cases state : decodeState (s.statusWords axis) <;>
        simp_all [DriveState.climbs, isFaultState]
    · exact isFaultState_of_isConfirmedDisableTerminal reads
  case delay =>
    split_ifs at reads
    · rw [reads]
      rfl
    · exact isFaultState_of_isConfirmedDisableTerminal reads

/-- Conforming drives never leave the path of their batch. -/
theorem Poised.valid {number : Nat} (poised : Poised (.batch number) s) :
    (enableScan number s.statusWords).invalidAxis < 0 := by
  rw [enableScan_valid_iff]
  intro axis
  have reads := poised.reads axis
  simp only [Station.Reads] at reads
  simp only [leavesBatch]
  split_ifs at reads with previous current
  · simp [reads]
  · cases state : decodeState (s.statusWords axis) <;> simp_all [DriveState.climbs]
  · cases state : decodeState (s.statusWords axis) <;>
      simp_all [isConfirmedDisableTerminal]

/-- A complete batch has lifted its axes to Operation Enabled. -/
theorem Poised.lifted {number : Nat} (poised : Poised (.batch number) s)
    (complete : (enableScan number s.statusWords).batchComplete = true) (axis : Axis) :
    (Station.delay number).Reads axis (decodeState (s.statusWords axis)) := by
  have reads := poised.reads axis
  simp only [Station.Reads] at reads ⊢
  split_ifs with member
  · exact operationEnabled_of_complete poised.valid complete member
  · rw [not_or] at member
    simpa [member] using reads

/-- Between two batches the words of the last batch stand. -/
theorem interBatchCommand_of_reads {number : Nat} {axis : Axis} {state : DriveState}
    (reads : (Station.delay number).Reads axis state) :
    interBatchCommand state = enableCommand number axis state := by
  simp only [Station.Reads] at reads
  split_ifs at reads with member
  · subst reads
    rcases member with previous | current
    · simp [interBatchCommand, enableCommand, previous]
    · simp [interBatchCommand, enableCommand, current]
  · rw [not_or] at member
    cases state <;> simp_all [interBatchCommand, enableCommand, isConfirmedDisableTerminal]

/-- After the delay the axes of the next batch stand at their terminals. -/
theorem Station.reads_batch_succ {number : Nat} {axis : Axis} {state : DriveState}
    (more : number + 1 < batchCount) (reads : (Station.delay number).Reads axis state) :
    (Station.batch (number + 1)).Reads axis state := by
  simp only [Reads, batchRole_succ more, Bool.or_eq_true] at reads ⊢
  split_ifs at reads ⊢ with member current
  · exact reads
  · exact climbs_of_terminal reads
  · exact reads

/-- After the delay the axes of the next batch hold zero words. -/
theorem Station.commands_batch_succ {number : Nat} {axis : Axis} {state : DriveState}
    (more : number + 1 < batchCount) (reads : (Station.delay number).Reads axis state) :
    (Station.batch (number + 1)).Commands axis state (interBatchCommand state) := by
  have kept := interBatchCommand_of_reads reads
  simp only [Reads] at reads
  split_ifs at reads with member
  · left
    have previous : (batchRole (number + 1) axis).isPrevious = true := by
      rw [batchRole_succ more]
      simpa using member
    rw [reads]
    simp [interBatchCommand, enableCommand, previous]
  · right
    rw [not_or] at member
    rw [kept]
    exact ⟨by simp [enableCommand, member], reads⟩

/-- The batch cycle of an undisturbed enable is its settlement. -/
theorem Poised.dispatch_batch {number : Nat} (poised : Poised (.batch number) s) :
    s.dispatch config now =
      { s with
        enablePreemptRequested := false
        controlWords := fun axis =>
          enableCommand number axis (decodeState (s.statusWords axis)) }.settleBatch config now
        (enableScan number s.statusWords) := by
  have phase : s.phase = .enabling := poised.phase
  have unpreempted : (s.enablePreemptRequested || s.disableRequest) = false := by
    rw [poised.unpreempted, poised.disableRequest]
    rfl
  simp only [Controller.dispatch, Controller.updateEnable, Controller.updateBatch, phase,
    poised.healthy, unpreempted, poised.counts.1]
  rfl

/-- One cycle of a batch of conforming drives. -/
theorem Poised.cycled_batch {number : Nat} (poised : Poised (.batch number) s)
    (timely : s.inTime config now = true) :
    Cycled (.batch number) (s.settles now) s (s.dispatch config now) := by
  have phase : s.phase = .enabling := poised.phase
  rcases poised.counts with ⟨counted, known, unready⟩
  have settles : s.settles now = (enableScan number s.statusWords).batchComplete := by
    simp only [Controller.settles, phase, counted]
  have early : ¬(s.stageDeadlineNs ≤ now) := by
    simpa [Controller.inTime, phase] using timely
  have valid : ¬(0 ≤ (enableScan number s.statusWords).invalidAxis) :=
    not_le.mpr poised.valid
  rw [poised.dispatch_batch, settles]
  simp only [Controller.settleBatch, if_neg valid]
  cases complete : (enableScan number s.statusWords).batchComplete with
  | false =>
      simp only [Bool.false_eq_true, if_false, if_neg early]
      exact ⟨{ poised with unpreempted := rfl, commands := fun axis => Or.inl rfl }, rfl,
        by simp, rfl, by simp, fun _ => rfl⟩
  | true =>
      have lifted := poised.lifted complete
      simp only [if_true, Bool.false_eq_true, if_false, counted]
      by_cases last : number + 1 = batchCount
      · have enabled : ∀ axis, decodeState (s.statusWords axis) = .operationEnabled :=
          operationEnabled_of_lastBatch last poised.valid complete
        have held : ∀ axis, enableCommand number axis (decodeState (s.statusWords axis)) = 0x000F := by
          intro axis
          rw [← interBatchCommand_of_reads (lifted axis), enabled axis]
          rfl
        have advanced : (Station.batch number).next true = .activating := by
          simp [Station.next, last]
        simp only [if_pos last]
        constructor
        · rw [advanced]
          exact { poised with
            phase := rfl
            unpreempted := rfl
            counts := rfl
            reads := enabled
            commands := held }
        · rfl
        · simp
        · rfl
        · simp
        · exact fun _ => rfl
      · have more : number + 1 < batchCount := by omega
        have advanced : (Station.batch number).next true = .delay number := by
          simp [Station.next, last]
        simp only [if_neg last]
        constructor
        · rw [advanced]
          exact { poised with
            phase := rfl
            unpreempted := rfl
            counts := ⟨rfl, more, unready⟩
            reads := lifted
            commands := fun axis => rfl }
        · rfl
        · simp
        · rfl
        · simp
        · exact fun _ => rfl

/-- One cycle of the delay between two batches. -/
theorem Poised.cycled_delay {number : Nat} (poised : Poised (.delay number) s) :
    Cycled (.delay number) (s.settles now) s (s.dispatch config now) := by
  have phase : s.phase = .interBatchDelay := poised.phase
  rcases poised.counts with ⟨counted, more, unready⟩
  have unpreempted : (s.enablePreemptRequested || s.disableRequest) = false := by
    rw [poised.unpreempted, poised.disableRequest]
    rfl
  have settles : s.settles now = decide (s.stageDeadlineNs ≤ now) := by
    simp only [Controller.settles, phase]
  have kept : ∀ axis, interBatchCommand (decodeState (s.statusWords axis)) =
      enableCommand number axis (decodeState (s.statusWords axis)) :=
    fun axis => interBatchCommand_of_reads (poised.reads axis)
  rw [settles]
  simp only [Controller.dispatch, Controller.updateEnable, Controller.updateInterBatchDelay, phase,
    poised.healthy, unpreempted, Bool.false_eq_true, if_false, if_true]
  by_cases elapsed : s.stageDeadlineNs ≤ now
  · simp only [elapsed, if_true, decide_true]
    constructor
    · exact { poised with
        phase := rfl
        unpreempted := rfl
        counts := ⟨congrArg (· + 1) counted, more, unready⟩
        reads := fun axis => Station.reads_batch_succ more (poised.reads axis)
        commands := fun axis => Station.commands_batch_succ more (poised.reads axis) }
    · rfl
    · simp
    · rfl
    · simp
    · exact fun _ => rfl
  · simp only [elapsed, if_false, decide_false]
    exact ⟨{ poised with phase := rfl, unpreempted := rfl, commands := kept }, rfl, by simp, rfl,
      by simp, fun _ => rfl⟩

/-! ## Stations without a stage -/

theorem Poised.cycled_idle {owner : Owner} (poised : Poised (.idle owner) s) (settled : Bool) :
    Cycled (.idle owner) settled s (s.dispatch config now) := by
  have phase : s.phase = .idle := poised.phase
  have enable : s.enableRequest = false := poised.enableRequest
  have disable : s.disableRequest = false := poised.disableRequest
  have reset : s.resetRequest = false := poised.resetRequest
  have kept : s.dispatch config now = s.setAllControlWords 0x0000 := by
    simp [Controller.dispatch, Controller.updateIdle, phase, enable, disable, reset]
  rw [kept]
  exact ⟨{ poised with commands := fun _ => rfl }, rfl, by simp; rfl, rfl, fun _ => rfl, fun _ => rfl⟩

/-- The requested enable starts its first batch. -/
theorem Poised.cycled_enableRequested (poised : Poised .enableRequested s) (settled : Bool) :
    Cycled .enableRequested settled s (s.dispatch config now) := by
  have phase : s.phase = .idle := poised.phase
  have enable : s.enableRequest = true := poised.enableRequest
  have started : s.dispatch config now =
      { s.setAllControlWords 0x0000 with
        enableRequest := false
        currentBatch := 0
        enablePreemptRequested := false
        primaryFailure := {}
        enableHardwareReady := false
        stageDeadlineNs := now + config.batchTimeoutNs
        phase := .enabling } := by
    simp only [Controller.dispatch, Controller.updateIdle, phase, enable, if_true]
  rw [started]
  constructor
  · refine { poised with
      phase := rfl
      enableRequest := rfl
      unpreempted := rfl
      blameless := rfl
      counts := ⟨rfl, by decide, rfl⟩
      reads := ?_
      commands := fun axis => Or.inr ⟨rfl, poised.reads axis⟩ }
    intro axis
    have terminal := poised.reads axis
    simp only [Station.next, Station.Reads, batchRole_first, Bool.false_eq_true, if_false]
    split_ifs
    · exact climbs_of_terminal terminal
    · exact terminal
  · rfl
  · simp; rfl
  · rfl
  · simp
  · exact fun _ => rfl

/-- A reset of a group without faults is answered by its first cycle. -/
theorem Poised.cycled_resetRequested (poised : Poised .resetRequested s) (settled : Bool) :
    Cycled .resetRequested settled s (s.dispatch config now) := by
  have phase : s.phase = .idle := poised.phase
  have enable : s.enableRequest = false := poised.enableRequest
  have reset : s.resetRequest = true := poised.resetRequest
  have healthy : anyFault s.statusWords = false :=
    anyFault_of_allTerminal ((allTerminal_iff _).mpr poised.reads)
  have answered : s.dispatch config now =
      { s.setAllControlWords 0x0000 with
        resetRequest := false
        resetTargets := fun axis => isFaultState (decodeState (s.statusWords axis))
        lastFailure := {}
        resetResult := Controller.published true { stage := .alreadyClear }
        owner := .none } := by
    simp only [Controller.dispatch, Controller.updateIdle, phase, enable, reset, healthy,
      Bool.false_eq_true, if_false, if_true, Bool.not_false]
    rfl
  rw [answered]
  constructor
  · exact { poised with
      owner := rfl
      resetRequest := rfl
      counts := trivial
      commands := fun _ => rfl }
  · rfl
  · simp; rfl
  · rfl
  · simp
  · exact fun _ => rfl

theorem Poised.cycled_activating (poised : Poised .activating s) (settled : Bool) :
    Cycled .activating settled s (s.dispatch config now) := by
  have phase : s.phase = .jtcActivating := poised.phase
  have held : s.dispatch config now = s.setAllControlWords 0x000F := by
    simp [Controller.dispatch, Controller.updateJtcActivating, phase, poised.switchedOn]
  rw [held]
  exact ⟨{ poised with commands := fun _ => rfl }, rfl, by simp; rfl, rfl, by simp, fun _ => rfl⟩

theorem Poised.cycled_enabled {owner : Owner} (poised : Poised (.enabled owner) s)
    (settled : Bool) : Cycled (.enabled owner) settled s (s.dispatch config now) := by
  have phase : s.phase = .enabled := poised.phase
  have disable : s.disableRequest = false := poised.disableRequest
  have held : s.dispatch config now = s.setAllControlWords 0x000F := by
    simp [Controller.dispatch, Controller.updateEnabled, phase, disable]
  rw [held]
  exact ⟨{ poised with commands := fun _ => rfl }, rfl, by simp; rfl, rfl, by simp, fun _ => rfl⟩

/-- The JTC is off: the requested descent starts. -/
theorem Poised.cycled_deactivating {requested : Bool}
    (poised : Poised (.deactivating requested) s) (settled : Bool) :
    Cycled (.deactivating requested) settled s (s.dispatch config now) := by
  have phase : s.phase = .jtcDeactivating := poised.phase
  have disable : s.disableRequest = requested := poised.disableRequest
  cases requested with
  | false =>
      have held : s.dispatch config now = s.setAllControlWords 0x000F := by
        simp [Controller.dispatch, Controller.updateEnabled, phase, disable]
      rw [held]
      exact ⟨{ poised with commands := fun _ => rfl }, rfl, by simp; rfl, rfl, by simp, fun _ => rfl⟩
  | true =>
      have begun : s.dispatch config now =
          { s.setAllControlWords 0x000F with
            disableRequest := false
            downwardStage := 0
            stageDeadlineNs := now + config.disableStageTimeoutNs
            phase := .disabling } := by
        simp only [Controller.dispatch, Controller.updateEnabled, phase, disable, if_true]
        rfl
      rw [begun]
      constructor
      · refine { poised with
          phase := rfl
          disableRequest := rfl
          counts := ⟨by simp [Controller.descentStage], by decide⟩
          reads := ?_
          commands := fun _ => trivial }
        intro axis
        have enabled : decodeState (s.statusWords axis) = .operationEnabled := poised.reads axis
        simp only [Controller.setAllControlWords, enabled]
        rfl
      · rfl
      · simp; rfl
      · rfl
      · simp
      · exact fun _ => rfl

/-! ## One cycle -/

/-- The fault monitor finds nothing to complain about. -/
theorem Poised.unmonitored (poised : Poised station s) :
    monitoredFailure s.phase s.statusWords = none := by
  have watched (enabled : ∀ axis, decodeState (s.statusWords axis) = .operationEnabled) :
      monitoredFailure s.phase s.statusWords = none := by
    simp [monitoredFailure, enabled, isFaultState]
  cases station with
  | activating => exact watched poised.reads
  | enabled owner => exact watched poised.reads
  | deactivating requested => exact watched poised.reads
  | _ =>
      rw [poised.phase]
      rfl

/-- The switch over the phase takes the group to its next station. -/
theorem Poised.cycled (poised : Poised station s) (timeout : 1 ≤ config.disableStageTimeoutNs)
    (started : 0 ≤ now) (timely : s.inTime config now = true) :
    Cycled station (s.settles now) s (s.dispatch config now) := by
  cases station with
  | startup stage => exact poised.cycled_descent (Or.inl rfl) timeout started timely
  | disabling stage => exact poised.cycled_descent (Or.inr rfl) timeout started timely
  | idle owner => exact poised.cycled_idle _
  | enableRequested => exact poised.cycled_enableRequested _
  | resetRequested => exact poised.cycled_resetRequested _
  | batch number => exact poised.cycled_batch timely
  | delay number => exact poised.cycled_delay
  | activating => exact poised.cycled_activating _
  | enabled owner => exact poised.cycled_enabled _
  | deactivating requested => exact poised.cycled_deactivating _

/-- One real-time cycle on conforming drives follows the stations. -/
theorem Stands.cycled {readings : Readings} (stands : Stands station s)
    (conforming : ∀ axis, follows axis (s.controlWords axis) (decodeState (s.statusWords axis))
      (decodeState (refreshedWord (readings axis))) = true)
    (timeout : 1 ≤ config.disableStageTimeoutNs) (started : 0 ≤ now)
    (timely : (s.refreshStatusWords readings).inTime config now = true) :
    Cycled station ((s.refreshStatusWords readings).settles now) s
      (s.update config now readings) := by
  have poised := stands.refreshed conforming
  have dispatched : s.update config now readings =
      (s.refreshStatusWords readings).dispatch config now := by
    simp only [Controller.update, stands.active, if_true, Controller.monitorFaults,
      poised.unmonitored]
  rw [dispatched]
  have cycled := poised.cycled timeout started timely
  exact ⟨cycled.stands, cycled.enableResult, cycled.disableResult, cycled.resetResult,
    cycled.enableHardwareReady, cycled.commanded⟩

/-- The word of a descent moves every axis that has not reached its terminal. -/
theorem driveMove_of_descent {axis : Axis} {state : DriveState}
    (healthy : isFaultState state = false) (known : state ≠ .unknown)
    (unsettled : isConfirmedDisableTerminal axis state = false) :
    (driveMove axis (downwardCommand state) state).isSome = true := by
  cases state with
  | readyToSwitchOn =>
      simp only [isConfirmedDisableTerminal] at unsettled
      simp only [driveMove, downwardCommand]
      grind
  | _ => simp_all [isFaultState, isConfirmedDisableTerminal, driveMove, downwardCommand]

/-- The word of a batch moves every axis on the way up. -/
theorem driveMove_of_batch {number : Nat} {axis : Axis} {state : DriveState}
    (current : (batchRole number axis).isPrevious = false)
    (member : (batchRole number axis).isCurrent = true) (climbing : state.climbs = true)
    (below : state ≠ .operationEnabled) :
    (driveMove axis (enableCommand number axis state) state).isSome = true := by
  cases state <;> simp_all [DriveState.climbs, driveMove, enableCommand]

/-- An axis that holds up its batch is on the way up. -/
theorem Station.climbs_of_holdsUp {number : Nat} {settled : Bool} {axis : Axis}
    {state : DriveState} (reads : ((Station.batch number).next settled).Reads axis state)
    (current : (batchRole number axis).isPrevious = false)
    (member : (batchRole number axis).isCurrent = true) : state.climbs = true := by
  simp only [next] at reads
  split_ifs at reads
  · cases reads
    rfl
  · simp only [Reads, member, or_true, if_true] at reads
    rw [reads]
    rfl
  · simpa [Reads, current, member] using reads

/-- An axis that keeps a stage open has been given the word of its next
transition: no mixture of drive states stalls the group. -/
theorem Cycled.unstalled {settled : Bool} {t : Controller} {axis : Axis}
    (cycled : Cycled station settled s t) (unsettled : station.holdsUp t.statusWords axis = true)
    (known : decodeState (t.statusWords axis) ≠ .unknown) :
    (driveMove axis (t.controlWords axis) (decodeState (t.statusWords axis))).isSome = true := by
  have healthy : isFaultState (decodeState (t.statusWords axis)) = false := by
    simpa using List.find?_eq_none.mp cycled.stands.healthy axis (mem_axes axis)
  rw [cycled.commanded]
  cases station with
  | startup stage => exact driveMove_of_descent healthy known (by simpa [Station.holdsUp] using unsettled)
  | disabling stage => exact driveMove_of_descent healthy known (by simpa [Station.holdsUp] using unsettled)
  | batch number =>
      simp only [Station.holdsUp, holdsUpBatch, Bool.and_eq_true, Bool.not_eq_true',
        decide_eq_true_eq] at unsettled
      rcases unsettled with ⟨⟨current, member⟩, below⟩
      have climbing := Station.climbs_of_holdsUp (cycled.stands.reads axis) current member
      exact driveMove_of_batch current member climbing below
  | _ => exact absurd unsettled Bool.false_ne_true

end Cycles

end RtControl.EnableManager
