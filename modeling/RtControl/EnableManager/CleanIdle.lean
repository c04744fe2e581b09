import RtControl.EnableManager.Atomic

/-!
# The clean idle phase

`kIdle` is what `/rt/enable` is admitted on, so every path into it has to see all
axes at their confirmed terminal.  The descents and the completed reset check
this.  The reset that finds nothing to clear in `kFailed` does not: it goes to
`kIdle` as soon as no axis is faulted.
-/

namespace RtControl.EnableManager

open RtControl.Transition

/-- If the step enters `kIdle`, it is a cycle whose refreshed status words show
every axis at its confirmed terminal. -/
def CleanEntry (s t : System) (event : Event) : Prop :=
  s.phase ≠ .idle → t.phase = .idle →
    ∃ now readings, event = .update now readings ∧
      allTerminal (refreshedWords readings) = true

/-- The cycle takes the unchecked way from `kFailed` to `kIdle`: a reset is
pending, no disable is, no axis is faulted, and some axis is not terminal. -/
def skipsCheck (s : System) (readings : Readings) : Bool :=
  s.active && s.phase = .failed && !s.disableRequest && s.resetRequest &&
    !anyFault (refreshedWords readings) && !allTerminal (refreshedWords readings)

/-- No cycle takes the unchecked way. -/
def checksBeforeIdle : Guard System Event := fun s event =>
  match event with
  | .update _ readings => !skipsCheck s readings
  | _ => true

/-- Clean idle: every step of every run that enters `kIdle` is a cycle that sees
every axis at its confirmed terminal. -/
def CleanIdle (config : Config) (guard : Guard System Event) : Prop :=
  ∀ s t event, Reachable (atomicStep config) guard configured s →
    guard s event = true → atomicStep config s event = some t → CleanEntry s t event

section Entry

variable {config : Config} {now : Int} {s t : System} {event : Event}

/-- The ways of a cycle into `kIdle`. -/
theorem entersIdle_of_cycle {s t : Controller} (cycle : Cycle config now s t)
    (before : s.phase ≠ .idle) (after : t.phase = .idle) :
    allTerminal s.statusWords = true ∨
      s.phase = .failed ∧ s.disableRequest = false ∧ s.resetRequest = true ∧
        anyFault s.statusWords = false := by
  cases cycle with
  | hold | holdEnable => exact absurd after before
  | idleAlreadyClear _ _ idle | idleAlreadyDisabled _ idle => exact absurd idle before
  | monitor _ _ _ _ _ _ _ _ entered =>
      have entersIdle : Phase.isEmergency .idle = true := after ▸ entered
      contradiction
  | finishStartup _ _ _ _ _ _ settled
  | finishDisabling _ _ _ _ _ _ _ _ settled
  | finishRollback _ _ _ _ _ _ settled
  | finishEmergency _ _ _ _ _ _ _ _ _ _ _ settled
  | finishReset _ _ _ _ _ _ _ settled =>
      rcases settled with failed | ⟨-, terminal⟩
      · cases after.symm.trans failed
      · exact Or.inl terminal
  | failedAlreadyClear _ _ failed unrequested requested healthy =>
      exact Or.inr ⟨failed, unrequested, requested, healthy⟩
  | _ => cases after

/-- The unchecked way does enter `kIdle`. -/
theorem update_phase_of_skipsCheck {readings : Readings} (skips : skipsCheck s readings = true) :
    (s.toController.update config now readings).phase = .idle := by
  simp only [skipsCheck, Bool.and_eq_true, decide_eq_true_eq, Bool.not_eq_true'] at skips
  obtain ⟨⟨⟨⟨⟨active, failed⟩, unrequested⟩, requested⟩, healthy⟩, -⟩ := skips
  simp [Controller.update, active, Controller.monitorFaults, Controller.refreshStatusWords,
    monitoredFailure, failed, Controller.dispatch, Controller.updateFailed, unrequested, requested,
    healthy, Controller.setAllControlWords, Controller.storePhase, Controller.storeOwner]

/-- A cycle enters `kIdle` cleanly exactly when it does not take the unchecked
way. -/
theorem cleanEntry_update_iff {readings : Readings}
    (step : atomicStep config s (.update now readings) = some t) :
    CleanEntry s t (.update now readings) ↔ skipsCheck s readings = false := by
  constructor
  · intro clean
    by_contra skips
    have skips : skipsCheck s readings = true := by simpa using skips
    have entered : t.phase = .idle := by
      cases step
      exact update_phase_of_skipsCheck skips
    simp only [skipsCheck, Bool.and_eq_true, decide_eq_true_eq, Bool.not_eq_true'] at skips
    obtain ⟨⟨⟨⟨⟨-, failed⟩, -⟩, -⟩, -⟩, unsettled⟩ := skips
    obtain ⟨_, _, same, terminal⟩ := clean (by simp [failed]) entered
    cases same
    simp [terminal] at unsettled
  · intro checked before after
    cases atomicMove_of_step step with
    | skip => exact absurd after before
    | bystander _ _ frame => exact absurd (frame.phase ▸ after) before
    | update _ _ t active cycle =>
        refine ⟨now, readings, rfl, ?_⟩
        rcases entersIdle_of_cycle cycle before after with
          terminal | ⟨failed, unrequested, requested, healthy⟩
        · exact terminal
        · have failed : s.phase = .failed := failed
          have unrequested : s.disableRequest = false := unrequested
          have requested : s.resetRequest = true := requested
          have healthy : anyFault (refreshedWords readings) = false := healthy
          simpa [skipsCheck, active, failed, unrequested, requested, healthy] using checked

/-- No step but a cycle enters `kIdle`. -/
theorem cleanEntry_of_other (step : atomicStep config s event = some t)
    (other : ∀ now readings, event ≠ .update now readings) : CleanEntry s t event := by
  intro before after
  cases atomicMove_of_step step with
  | skip now readings => exact absurd rfl (other now readings)
  | update now readings => exact absurd rfl (other now readings)
  | callEnable =>
      rcases (callEnable_frame s).phase with same | ⟨-, enabled⟩
      · exact absurd (same.symm.trans after) before
      · cases enabled.symm.trans after
  | enable late running =>
      rcases (enableStep_frame s late).phase with same | ⟨-, enabled⟩
      · exact absurd (same.symm.trans after) before
      · cases enabled.symm.trans after
  | callDisable =>
      rcases (callDisable_frame s).phase with same | ⟨-, deactivating⟩
      · exact absurd (same.symm.trans after) before
      · cases deactivating.symm.trans after
  | disable late running =>
      rcases (disableStep_frame s late).phase with same | ⟨-, deactivating⟩
      · exact absurd (same.symm.trans after) before
      · cases deactivating.symm.trans after
  | bystander _ _ frame => exact absurd (frame.phase.symm.trans after) before
  | activate inactive => cases after
  | deactivate active => cases after

/-- A step is clean exactly when it does not take the unchecked way. -/
theorem cleanEntry_iff (step : atomicStep config s event = some t) :
    CleanEntry s t event ↔ checksBeforeIdle s event = true := by
  cases event with
  | update now readings =>
      rw [cleanEntry_update_iff step]
      simp [checksBeforeIdle]
  | _ => simp [checksBeforeIdle, cleanEntry_of_other step nofun]

end Entry

/-! ## The result -/

/-- Runs that never take the unchecked way enter `kIdle` cleanly, and in any run
a step is clean exactly when it does not take that way. -/
theorem cleanIdle_of_checksBeforeIdle (config : Config) :
    CleanIdle config checksBeforeIdle ∧
      ∀ s t event, Reachable (atomicStep config) unguarded configured s →
        atomicStep config s event = some t →
          (CleanEntry s t event ↔ checksBeforeIdle s event = true) := by
  constructor
  · intro s t event _ checked step
    exact (cleanEntry_iff step).mpr checked
  · intro s t event _ step
    exact cleanEntry_iff step

/-- The startup sanitizer enters `kIdle` on axes that are switched off. -/
theorem cleanIdle_of_startup :
    ∃ s t, Reachable (atomicStep defaultConfig) checksBeforeIdle configured s ∧
      atomicStep defaultConfig s (.update 3000000000 (everyAxis 0x0040)) = some t ∧
      s.phase ≠ .idle ∧ t.phase = .idle ∧
      allTerminal (refreshedWords (everyAxis 0x0040)) = true := by
  have found : (run (atomicStep defaultConfig) checksBeforeIdle configured
      ([Event.activate] ++ cycles 0x0040 [1, 2])).any (fun s =>
        s.phase ≠ .idle &&
          checksBeforeIdle s (.update 3000000000 (everyAxis 0x0040)) &&
          (atomicStep defaultConfig s (.update 3000000000 (everyAxis 0x0040))).any
            fun t => t.phase = .idle) = true := by
    rfl
  obtain ⟨s, reachable, entered⟩ := exists_reachable_of_run found
  simp only [Bool.and_eq_true, decide_eq_true_eq, Option.any_eq_true] at entered
  obtain ⟨⟨before, checked⟩, t, step, after⟩ := entered
  obtain ⟨_, _, same, terminal⟩ :=
    (cleanIdle_of_checksBeforeIdle defaultConfig).1 s t _ reachable checked step before after
  cases same
  exact ⟨s, t, reachable, step, before, after, terminal⟩

/-- Every axis is stuck at Switched On: the startup sanitizer and the emergency
descent after it time out into `kFailed`, and a reset is called. -/
def resetOnSwitchedOn : List Event :=
  [Event.activate] ++ cycles 0x0023 [1, 10, 11, 12, 20] ++ [Event.callReset] ++
    List.replicate 6 (Event.reset false)

set_option maxRecDepth 1000 in
/-- A reset in `kFailed` reaches `kIdle` with every axis at Switched On. -/
theorem not_cleanIdle_of_resetOnSwitchedOn : ¬CleanIdle defaultConfig unguarded := by
  intro always
  have found : (run (atomicStep defaultConfig) unguarded configured resetOnSwitchedOn).any
      (fun s => s.phase = .failed &&
        (atomicStep defaultConfig s (.update 21000000000 (everyAxis 0x0023))).any
          fun t => t.phase = .idle) = true := by
    rfl
  obtain ⟨s, reachable, entered⟩ := exists_reachable_of_run found
  rw [Bool.and_eq_true, Option.any_eq_true] at entered
  obtain ⟨failed, t, step, idle⟩ := entered
  rw [decide_eq_true_eq] at failed idle
  obtain ⟨_, _, same, terminal⟩ := always s t _ reachable rfl step (by simp [failed]) idle
  cases same
  revert terminal
  decide

end RtControl.EnableManager
