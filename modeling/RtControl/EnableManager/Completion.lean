import RtControl.EnableManager.EnableProgress
import RtControl.EnableManager.DisableProgress

/-!
# The closed loop comes to its end

Along every fair execution of the closed loop the startup sanitizer ends in
idle, an admitted enable passes its five batches and returns its success, and an
admitted disable returns its success from a terminal group.
-/

namespace RtControl.EnableManager

open RtControl.Transition

section Runs

variable {config : Config} {words : Words} {run : LoopRun config words}

/-! ## Admission -/

theorem Station.eq_of_unowned {station : Station} (free : station.owner = .none) :
    station = .idle .none ∨ station = .enabled .none := by
  cases station <;> simp_all [owner]

/-- An enable is admitted from the idle group. -/
theorem ClosedLoop.admits_enable {station : Station} {s t : System} {event : Event}
    (law : ClosedLoop station s) (move : LoopMove config s event t) (free : s.owner = .none)
    (taken : (stationAfter s station event).owner = .enable) :
    stationAfter s station event = .idle .enable := by
  have unowned : station.owner = .none := law.stands.owner ▸ free
  cases move with
  | cycle now readings =>
      simp only [stationAfter] at taken
      rcases Station.eq_of_unowned unowned with rfl | rfl <;> simp [Station.next, Station.owner] at taken
  | enable running =>
      have position := (law.enabling running).1
      simp only [stationAfter] at taken ⊢
      cases pc : s.enablePc <;> rw [pc] at position taken <;>
        simp_all [EnablePc.moves, EnableAt, Station.owner]
  | disable running =>
      simp only [stationAfter] at taken
      cases pc : s.disablePc <;> rw [pc] at taken <;> simp_all [DisablePc.moves, Station.owner]
  | reset running =>
      simp only [stationAfter] at taken
      cases pc : s.resetPc <;> rw [pc] at taken <;> simp_all [ResetPc.moves, Station.owner]
  | _ =>
      simp only [stationAfter] at taken
      rw [unowned] at taken
      contradiction

/-- A disable is admitted from the enabled group. -/
theorem ClosedLoop.admits_disable {station : Station} {s t : System} {event : Event}
    (law : ClosedLoop station s) (move : LoopMove config s event t) (free : s.owner = .none)
    (taken : (stationAfter s station event).owner = .disable) :
    stationAfter s station event = .enabled .disable := by
  have unowned : station.owner = .none := law.stands.owner ▸ free
  cases move with
  | cycle now readings =>
      simp only [stationAfter] at taken
      rcases Station.eq_of_unowned unowned with rfl | rfl <;> simp [Station.next, Station.owner] at taken
  | enable running =>
      simp only [stationAfter] at taken
      cases pc : s.enablePc <;> rw [pc] at taken <;> simp_all [EnablePc.moves, Station.owner]
  | disable running =>
      have position := (law.disabling running).1
      simp only [stationAfter] at taken ⊢
      cases pc : s.disablePc <;> rw [pc] at position taken <;>
        simp_all [DisablePc.moves, DisableAt, Station.owner]
  | reset running =>
      simp only [stationAfter] at taken
      cases pc : s.resetPc <;> rw [pc] at taken <;> simp_all [ResetPc.moves, Station.owner]
  | _ =>
      simp only [stationAfter] at taken
      rw [unowned] at taken
      contradiction

/-! ## Whole operations -/

/-- The startup sanitizer runs until the group is idle. -/
theorem startup_ends (timeout : 1 ≤ config.disableStageTimeoutNs)
    (healthy : anyFault words = false) (fair : Fair run) :
    ∃ time, (∀ earlier, earlier < time → (run.state earlier).phase = .startupSanitizing) ∧
      ClosedLoop (.idle .none) (run.state time) := by
  have first : run.LeadsTo (ClosedLoop (.startup 0)) (ClosedLoop (.startup 1)) :=
    leadsTo_next timeout fair rfl
  have second : run.LeadsTo (ClosedLoop (.startup 1)) (ClosedLoop (.startup 2)) :=
    leadsTo_next timeout fair rfl
  have last : run.LeadsTo (ClosedLoop (.startup 2)) (ClosedLoop (.idle .none)) :=
    leadsTo_next timeout fair rfl
  have starts : ClosedLoop (.startup 0) (run.state 0) := by
    rw [run.initial]
    exact closedLoop_poweredUp healthy
  rcases ((first.trans second).trans last) 0 starts with ⟨idle, -, reached⟩
  have leaves : ∃ time, (run.state time).phase ≠ .startupSanitizing :=
    ⟨idle, by simp [reached.stands.phase, Station.phase]⟩
  classical
  have before : ∀ earlier, earlier < Nat.find leaves →
      (run.state earlier).phase = .startupSanitizing := by
    intro earlier early
    exact not_not.mp (Nat.find_min leaves early)
  refine ⟨Nat.find leaves, before, ?_⟩
  have left := Nat.find_spec leaves
  cases found : Nat.find leaves with
  | zero =>
      rw [found] at left
      exact absurd starts.stands.phase left
  | succ time =>
      rw [found] at left before
      rcases exists_station timeout healthy run time with ⟨station, law⟩
      have sanitizing := law.stands.phase.symm.trans (before time (Nat.lt_succ_self time))
      rcases law.advance timeout with ⟨move, after⟩
      cases station with
      | startup stage =>
          rcases stationAfter_of_cycled law rfl move with ⟨now, readings, update, -⟩ | ⟨-, same⟩
          · rw [update] at after
            simp only [stationAfter, Station.next] at after
            split_ifs at after
            · exact absurd after.stands.phase left
            · exact after
            · exact absurd after.stands.phase left
          · rw [same] at after
            exact absurd after.stands.phase left
      | _ => exact absurd sanitizing (by simp [Station.phase])

/-- The group works on a batch. -/
def inBatch (batch : Nat) (s : System) : Prop :=
  s.phase = .enabling ∧ s.currentBatch = batch

theorem ClosedLoop.inBatch {batch : Nat} {s : System} (law : ClosedLoop (.batch batch) s) :
    inBatch batch s :=
  ⟨law.stands.phase, law.stands.counts.1⟩

/-- A batch that is not the last leads to the next one. -/
theorem leadsTo_batch (timeout : 1 ≤ config.disableStageTimeoutNs) (fair : Fair run)
    {batch : Nat} (more : batch + 1 ≠ batchCount) :
    run.LeadsTo (ClosedLoop (.batch batch)) (ClosedLoop (.batch (batch + 1))) := by
  have completes : run.LeadsTo (ClosedLoop (.batch batch)) (ClosedLoop (.delay batch)) := by
    have next : run.LeadsTo (ClosedLoop (.batch batch))
        (ClosedLoop ((Station.batch batch).next true)) := leadsTo_next timeout fair rfl
    simpa [Station.next, more] using next
  have elapses : run.LeadsTo (ClosedLoop (.delay batch)) (ClosedLoop (.batch (batch + 1))) :=
    leadsTo_next timeout fair rfl
  exact completes.trans elapses

/-- An admitted enable passes the five batches and returns its success. -/
theorem enable_passes (timeout : 1 ≤ config.disableStageTimeoutNs) (fair : Fair run) {time : Nat}
    (admitted : ClosedLoop (.idle .enable) (run.state time)) :
    run.Passes ((List.range batchCount).map inBatch ++ [enableSucceeded]) time := by
  have starts : run.LeadsTo (ClosedLoop (.idle .enable)) (ClosedLoop (.batch 0)) :=
    (leadsTo_enableRequested timeout fair).trans (leadsTo_next timeout fair rfl)
  have ends : run.LeadsTo (ClosedLoop (.batch 4)) enableSucceeded := by
    have completes : run.LeadsTo (ClosedLoop (.batch 4)) (ClosedLoop .activating) :=
      leadsTo_next timeout fair rfl
    have enables := completes.trans (leadsTo_enabled timeout fair)
    exact (enables.trans (leadsTo_enableReleased timeout fair)).trans
      (leadsTo_enableSucceeded timeout fair)
  have passes : run.Passes
      [ClosedLoop (.batch 0), ClosedLoop (.batch 1), ClosedLoop (.batch 2), ClosedLoop (.batch 3),
        ClosedLoop (.batch 4), enableSucceeded] time := by
    refine Execution.passes_of_chain ?_ admitted
    simp only [List.isChain_cons_cons, List.isChain_singleton, and_true]
    exact ⟨starts, leadsTo_batch timeout fair (by decide), leadsTo_batch timeout fair (by decide),
      leadsTo_batch timeout fair (by decide), leadsTo_batch timeout fair (by decide), ends⟩
  apply passes.mono
  have weakened (batch : Nat) : ∀ s, ClosedLoop (.batch batch) s → inBatch batch s :=
    fun _ law => law.inBatch
  exact .cons (weakened 0) (.cons (weakened 1) (.cons (weakened 2) (.cons (weakened 3)
    (.cons (weakened 4) (.cons (fun _ => id) .nil)))))

/-- An admitted disable returns its success from a terminal group. -/
theorem disable_ends (timeout : 1 ≤ config.disableStageTimeoutNs) (fair : Fair run) :
    run.LeadsTo (ClosedLoop (.enabled .disable)) disableSucceeded := by
  have requests := (leadsTo_deactivating timeout fair).trans (leadsTo_disableRequested timeout fair)
  exact (requests.trans (leadsTo_idle timeout fair)).trans (leadsTo_disableSucceeded timeout fair)

/-- A stage can end before its deadline only when the deadline lies ahead of its
start, so the first cycle of a fair execution bounds the stage timeout. -/
theorem one_le_timeout (healthy : anyFault words = false) (fair : Fair run) :
    1 ≤ config.disableStageTimeoutNs := by
  classical
  have updates : ∃ time, ∃ now readings, run.event time = .update now readings := by
    rcases fair.cycles 0 with ⟨time, -, now, readings, update, -⟩
    exact ⟨time, now, readings, update⟩
  have starts : ∀ time, time ≤ Nat.find updates →
      ClosedLoop (.startup 0) (run.state time) ∧ (run.state time).stageDeadlineNs = 0 := by
    intro time
    induction time with
    | zero =>
        intro _
        rw [run.initial]
        exact ⟨closedLoop_poweredUp healthy, rfl⟩
    | succ time ih =>
        intro early
        rcases ih (Nat.le_of_succ_le early) with ⟨law, unset⟩
        have between : ∀ now readings, run.event time ≠ .update now readings :=
          fun now readings update => Nat.find_min updates early ⟨now, readings, update⟩
        have move := law.move (run.allowed time) (run.steps time)
        have after := law.step_of_callback between move
        rcases stationAfter_of_cycled law rfl move with ⟨now, readings, update, -⟩ | ⟨-, same⟩
        · exact absurd update (between now readings)
        · rw [same] at after
          exact ⟨after, (move.stageDeadlineNs between).trans unset⟩
  rcases Nat.find_spec updates with ⟨now, readings, update⟩
  rcases starts (Nat.find updates) (Nat.le_refl _) with ⟨law, unset⟩
  have move := law.move (run.allowed _) (run.steps _)
  rw [update] at move
  generalize run.state (Nat.find updates + 1) = next at move
  cases move with
  | cycle now readings started conforming timely =>
      have phase : (run.state (Nat.find updates)).phase = .startupSanitizing := law.stands.phase
      simp only [Controller.inTime, Controller.refreshStatusWords, phase,
        Controller.descentDeadline, unset, if_true, decide_eq_true_eq] at timely
      omega

end Runs

/-- The axis keeps the stage that a cycle works on open. -/
def holdsUpStage (s : Controller) (words : Words) (axis : Axis) : Bool :=
  match s.phase with
  | .startupSanitizing | .disabling =>
      !isConfirmedDisableTerminal axis (decodeState (words axis))
  | .enabling => holdsUpBatch s.currentBatch words axis
  | _ => false

theorem Stands.holdsUp_eq {station : Station} {s : Controller} (stands : Stands station s)
    (words : Words) (axis : Axis) : station.holdsUp words axis = holdsUpStage s words axis := by
  have phase := stands.phase
  cases station with
  | batch number =>
      have counted : s.currentBatch = number := stands.counts.1
      rw [holdsUpStage, phase, counted]
      rfl
  | _ =>
      rw [holdsUpStage, phase]
      rfl

/-- In a closed loop with fourteen conforming drives, whatever their delays, in
which every batch and descent stage ends before its deadline, every switch of
the JTC succeeds, no wait expires and no calls overlap: the startup sanitizer
ends in a terminal idle group; an admitted enable passes the five batches and
returns its success from the enabled group; an admitted disable returns its
success from a terminal idle group; no rollback, emergency or failure is ever
entered; and every axis that keeps a stage open holds the word of its next
transition. -/
theorem closed_loop_completes (config : Config) (words : Words)
    (healthy : anyFault words = false) (run : LoopRun config words) (fair : Fair run) :
    (∃ time, (∀ earlier, earlier < time → (run.state earlier).phase = .startupSanitizing) ∧
      (run.state time).phase = .idle ∧ allTerminal (run.state time).statusWords = true) ∧
    (∀ time, (run.state time).owner = .none → (run.state (time + 1)).owner = .enable →
      run.Passes ((List.range batchCount).map inBatch ++ [enableSucceeded]) (time + 1)) ∧
    (∀ time, (run.state time).owner = .none → (run.state (time + 1)).owner = .disable →
      (run.state (time + 1)).phase = .enabled ∧
        run.Passes [disableSucceeded] (time + 1)) ∧
    (∀ time, (run.state time).phase ≠ .rollback ∧
      (run.state time).phase ≠ .emergencyQuickStop ∧
      (run.state time).phase ≠ .emergencyDisable ∧ (run.state time).phase ≠ .failed) ∧
    ∀ time now readings, run.event time = .update now readings → ∀ axis,
      holdsUpStage (run.state time).toController (run.state (time + 1)).statusWords axis = true →
      decodeState ((run.state (time + 1)).statusWords axis) ≠ .unknown →
      (driveMove axis ((run.state (time + 1)).controlWords axis)
        (decodeState ((run.state (time + 1)).statusWords axis))).isSome = true := by
  have timeout := one_le_timeout healthy fair
  refine ⟨?_, ?_, ?_, ?_, ?_⟩
  · rcases startup_ends timeout healthy fair with ⟨time, sanitizing, law⟩
    exact ⟨time, sanitizing, law.stands.phase, (allTerminal_iff _).mpr law.stands.reads⟩
  · intro time free taken
    rcases exists_station timeout healthy run time with ⟨station, law⟩
    rcases law.advance timeout with ⟨move, after⟩
    rw [law.admits_enable move free (after.stands.owner.symm.trans taken)] at after
    exact enable_passes timeout fair after
  · intro time free taken
    rcases exists_station timeout healthy run time with ⟨station, law⟩
    rcases law.advance timeout with ⟨move, after⟩
    rw [law.admits_disable move free (after.stands.owner.symm.trans taken)] at after
    rcases disable_ends timeout fair (time + 1) after with ⟨later, late, ended⟩
    exact ⟨after.stands.phase, later, late, ended, trivial⟩
  · intro time
    rcases exists_station timeout healthy run time with ⟨station, law⟩
    rw [law.stands.phase]
    cases station <;> simp [Station.phase]
  · intro time now readings update axis unsettled known
    rcases exists_station timeout healthy run time with ⟨station, law⟩
    rcases law.advance timeout with ⟨move, -⟩
    rw [← law.stands.holdsUp_eq] at unsettled
    rw [update] at move
    generalize run.state (time + 1) = next at move unsettled known ⊢
    cases move with
    | cycle now readings started conforming timely =>
        exact (law.stands.cycled conforming timeout started timely).unstalled unsettled known

/-! ## A whole enable and disable -/

/-- A group found with one axis enabled, one in quick stop and one not ready. -/
def waking : Words := fun axis =>
  if axis = 0 then 0x0027 else if axis = 3 then 0x0007 else if axis = 5 then 0x0000 else 0x0040

/-- The enabled axis of the waking group reports a word, the others are switched
off. -/
def sanitizing (word : UInt16) : Readings := fun axis =>
  if axis = 0 then some word else some 0x0040

/-- The axes of the batches so far are enabled, those of the running batch
report a word, and the others are switched off. -/
def climbing (batch : Nat) (word : UInt16) : Readings := fun axis =>
  if (batchRole batch axis).isPrevious then some 0x0027
  else if (batchRole batch axis).isCurrent then some word
  else some 0x0040

/-- Every axis reports its terminal after an enable. -/
def settledReadings : Readings := fun axis =>
  if axis = 1 ∨ axis = 2 ∨ axis = 7 ∨ axis = 8 then some 0x0021 else some 0x0040

/-- The cycles of one batch and of the delay after it. -/
def climb (batch : Nat) : List Event :=
  let start : Int := 10000000000 + 2000000000 * batch
  [.update start (climbing batch 0x0040), .update (start + 200000000) (climbing batch 0x0021),
    .update (start + 400000000) (climbing batch 0x0023),
    .update (start + 600000000) (climbing batch 0x0027),
    .update (start + 1000000000) (climbing batch 0x0027)]

/-- The startup sanitizer of the waking group. -/
def wakingStartup : List Event :=
  [Event.update 1000000000 fun axis => some (waking axis),
    Event.update 2000000000 (sanitizing 0x0023), Event.update 3000000000 (sanitizing 0x0021),
    Event.update 4000000000 (sanitizing 0x0040)]

/-- An enable call with every atomic step of its callback. -/
def enableOperation : List Event :=
  [Event.callEnable] ++ List.replicate 8 (Event.enable false) ++
    [Event.update 9000000000 (everyAxis 0x0040)] ++ (List.range batchCount).flatMap climb ++
    List.replicate 6 (Event.enable false) ++ [Event.controllerManager true true] ++
    List.replicate 25 (Event.enable false)

/-- A disable call with every atomic step of its callback. -/
def disableOperation : List Event :=
  [Event.callDisable] ++ List.replicate 9 (Event.disable false) ++
    [Event.controllerManager true true] ++ List.replicate 4 (Event.disable false) ++
    cycles 0x0027 [30, 31] ++ cycles 0x0023 [32] ++ cycles 0x0021 [33] ++
    [Event.update 34000000000 settledReadings] ++ List.replicate 9 (Event.disable false)

/-- Startup, an enable and a disable of the waking group. -/
def wholeCycle : List Event :=
  wakingStartup ++ enableOperation ++ disableOperation

/-- The cycle the idle group repeats. -/
def idleCycle : Event := .update 35000000000 settledReadings

/-- The group rests in idle with nothing requested. -/
def restsInIdle (s : System) : Bool :=
  s.active && s.phase = .idle && !s.enableRequest && !s.disableRequest && !s.resetRequest &&
    s.enablePc = .idle && s.disablePc = .idle && s.jtc.pending = [] &&
    conformingLoop defaultConfig s idleCycle

/-- A cycle of the idle group with nothing requested. -/
theorem Controller.update_idle {config : Config} {now : Int} {readings : Readings} {s : Controller}
    (active : s.active = true) (idle : s.phase = .idle) (enable : s.enableRequest = false)
    (disable : s.disableRequest = false) (reset : s.resetRequest = false) :
    s.update config now readings = (s.refreshStatusWords readings).setAllControlWords 0x0000 := by
  simp [update, active, monitorFaults, monitoredFailure, dispatch, updateIdle, refreshStatusWords,
    idle, enable, disable, reset]

/-- The whole cycle, continued by idle cycles, is a fair execution. -/
theorem exists_wholeCycle :
    ∃ run : LoopRun defaultConfig waking, Fair run ∧
      (run.state 9).owner = .none ∧ (run.state 10).owner = .enable ∧
      (run.state 75).owner = .none ∧ (run.state 76).owner = .disable := by
  have rested : (run (atomicStep defaultConfig) (conformingLoop defaultConfig) (poweredUp waking)
      wholeCycle).any restsInIdle = true := by
    decide +kernel
  rw [Option.any_eq_true] at rested
  rcases rested with ⟨prior, finished, rests⟩
  simp only [restsInIdle, Bool.and_eq_true, Bool.not_eq_true', decide_eq_true_eq] at rests
  rcases rests with
    ⟨⟨⟨⟨⟨⟨⟨⟨active, idle⟩, enable⟩, disable⟩, reset⟩, enablePc⟩, disablePc⟩, empty⟩, permitted⟩
  let final : System := { prior with
    toController := (prior.toController.refreshStatusWords settledReadings).setAllControlWords 0x0000 }
  have moves : atomicStep defaultConfig prior idleCycle = some final := by
    simp only [atomicStep, idleCycle, Controller.update_idle active idle enable disable reset, final]
  have stays : atomicStep defaultConfig final idleCycle = some final := by
    have kept : final.toController.update defaultConfig 35000000000 settledReadings =
        (final.toController.refreshStatusWords settledReadings).setAllControlWords 0x0000 :=
      Controller.update_idle active idle enable disable reset
    simp only [atomicStep, idleCycle, kept]
    rfl
  have allowed : conformingLoop defaultConfig final idleCycle = true := by
    have phase : (final.toController.refreshStatusWords settledReadings).phase = .idle := idle
    have steady : ∀ axis, follows axis (final.controlWords axis)
        (decodeState (final.statusWords axis))
        (decodeState (refreshedWord (settledReadings axis))) = true := by
      intro axis
      simp [follows, final, Controller.setAllControlWords, Controller.refreshStatusWords,
        refreshedWords]
    simp [conformingLoop, idleCycle, Controller.inTime, phase, steady]
  have success : run (atomicStep defaultConfig) (conformingLoop defaultConfig) (poweredUp waking)
      (wholeCycle ++ [idleCycle]) = some final := by
    rw [run_append, finished]
    simp [run, permitted, moves]
  have beyond (time : Nat) : ∃ later, time ≤ later ∧
      (Execution.lasso success allowed stays).state later = final ∧
      (Execution.lasso success allowed stays).event later = idleCycle :=
    ⟨(wholeCycle ++ [idleCycle]).length + time, Nat.le_add_left _ _,
      Execution.lasso_beyond success allowed stays (Nat.le_add_right _ _)⟩
  have owned (time : Nat) (owner : Owner)
      (passed : (run (atomicStep defaultConfig) (conformingLoop defaultConfig) (poweredUp waking)
        ((wholeCycle ++ [idleCycle]).take time)).any (fun s => s.owner = owner) = true) :
      ((Execution.lasso success allowed stays).state time).owner = owner :=
    of_decide_eq_true (Execution.lasso_within success allowed stays passed)
  refine ⟨Execution.lasso success allowed stays, ?_, owned 9 .none (by decide +kernel),
    owned 10 .enable (by decide +kernel), owned 75 .none (by decide +kernel),
    owned 76 .disable (by decide +kernel)⟩
  constructor
  · intro time
    rcases beyond time with ⟨later, late, state, event⟩
    refine ⟨later, late, _, _, event, ?_⟩
    rw [state]
    simp [Controller.settles, Controller.refreshStatusWords, final, Controller.setAllControlWords,
      idle]
  · intro time
    rcases beyond time with ⟨later, late, state, -⟩
    refine ⟨later, late, ?_⟩
    rw [state]
    exact fun running => absurd enablePc running
  · intro time
    rcases beyond time with ⟨later, late, state, -⟩
    refine ⟨later, late, ?_⟩
    rw [state]
    exact fun running => absurd disablePc running
  · intro time
    rcases beyond time with ⟨later, late, state, -⟩
    refine ⟨later, late, ?_⟩
    rw [state]
    exact fun sent => absurd empty sent

/-- The execution above enables and disables the waking group. -/
theorem closed_loop_completes_of_wholeCycle :
    ∃ run : LoopRun defaultConfig waking,
      run.Passes ((List.range batchCount).map inBatch ++ [enableSucceeded]) 10 ∧
        run.Passes [disableSucceeded] 76 := by
  rcases exists_wholeCycle with ⟨run, fair, idle, enabling, enabled, disabling⟩
  have completes := closed_loop_completes defaultConfig waking (by decide) run fair
  exact ⟨run, completes.2.1 9 idle enabling, (completes.2.2.1 75 enabled disabling).2⟩

end RtControl.EnableManager
