import RtControl.EnableManager.Atomic

/-!
# A normal disable switches the JTC off first

`handleDisable` chooses its path from a snapshot of the phase and raises
`disable_request_` some instructions later.  In `kEnabled` and `kJtcDeactivating`
the cycle takes the flag for the end of a JTC deactivation; a flag raised by a
call that saw an enable still running has none behind it.
-/

namespace RtControl.EnableManager

open RtControl.Transition

/-- `handleDisable` has seen `kEnabled` and has not yet raised its request. -/
def DisablePc.onEnabledPath : DisablePc → Bool
  | .loadOwner phase | .casOwner phase | .clearReady phase | .clearFailed phase
  | .raiseRequest phase => phase = .enabled
  | .storeDeactivating | .switch _ | .storeFailed | .storeRestart | .recordFailure _ => true
  | _ => false

/-- `switchJtc` has not returned to `handleDisable` yet. -/
def DisablePc.isSwitching : DisablePc → Bool
  | .switch (.returned _) => false
  | .switch _ => true
  | _ => false

/-- The result of the last `switchJtc(false)` of `handleDisable` since the group
became enabled. -/
def recordSwitch (s : System) (_ : Event) (t : System) (last : Option SwitchResult) :
    Option SwitchResult :=
  if s.phase ≠ .enabled ∧ t.phase = .enabled then none
  else if s.disablePc.isSwitching then
    match t.disablePc with
    | .switch (.returned result) => some result
    | _ => last
  else last

/-- The disable request is not raised while the JTC is activated or active, and
`kEnabled` is not stored while the request is pending. -/
def raisesAside : Guard System Event := fun s event =>
  inSession s event &&
    match event with
    | .disable _ =>
        match s.disablePc with
        | .raiseRequest _ => s.phase ≠ .jtcActivating && s.phase ≠ .enabled
        | _ => true
    | .enable _ => !(s.enablePc = .storeEnabled && s.disableRequest)
    | _ => true

/-- Every step that takes an enabled group into its descent comes after a
`switchJtc(false)` of the disable callback has returned, with success or with the
restart latched. -/
def DeactivatesFirst (config : Config) (guard : Guard System Event) : Prop :=
  ∀ s last,
    Reachable (observed (atomicStep config) recordSwitch) (onState guard) (activated, none)
        (s, last) →
      ∀ t event, guard s event = true → atomicStep config s event = some t →
        (s.phase = .enabled ∨ s.phase = .jtcDeactivating) → t.phase = .disabling →
          ∃ result, last = some result ∧ (result = .success ∨ s.restartRequired = true)

/-- How a pending disable request, the path of its callback and the last switch
belong together. -/
structure DeactivationLaw (s : System) (last : Option SwitchResult) : Prop where
  callback : s.disablePc ≠ .idle → s.disableCallbackActive = true
  raised : s.disableRequest = true → s.phase ≠ .jtcActivating ∧ s.phase ≠ .enabled
  path : s.disablePc.onEnabledPath = true → s.disableRequest = false
  switched : s.phase = .jtcDeactivating → s.disablePc.isSwitching = true ∨ last.isSome = true
  returned : ∀ result, s.disablePc = .switch (.returned result) →
    last = none ∨ last = some result
  latched : ∀ result, last = some result → result ≠ .success →
    s.restartRequired = true ∨ s.disablePc = .switch (.returned result) ∨
      s.disablePc = .storeFailed ∨ s.disablePc = .storeRestart

section Moves

variable {config : Config} {s t : System} {late : Bool} {last : Option SwitchResult}
  {event : Event}

/-- A cycle raises no disable request and does not enter `kJtcDeactivating`. -/
theorem disableSide_of_cycle {now : Int} {s t : Controller} (cycle : Cycle config now s t) :
    (t.disableRequest = true → s.disableRequest = true) ∧
      (t.phase = .jtcDeactivating → s.phase = .jtcDeactivating) := by
  cases cycle with
  | monitor _ _ _ _ _ _ _ _ entered => grind -linarith
  | _ => grind -linarith

/-- A cycle takes an enabled group into its descent only for a disable
request. -/
theorem requested_of_descent {now : Int} {s t : Controller} (cycle : Cycle config now s t)
    (before : s.phase = .enabled ∨ s.phase = .jtcDeactivating) (after : t.phase = .disabling) :
    s.disableRequest = true := by
  cases cycle with
  | monitor _ _ _ _ _ _ _ _ entered => grind -linarith
  | _ => grind -linarith

/-- A step of another thread that raises no disable request keeps the law. -/
theorem DeactivationLaw.frame (law : DeactivationLaw s last) (event : Event)
    (pc : t.disablePc = s.disablePc)
    (callback : t.disableCallbackActive = s.disableCallbackActive)
    (request : t.disableRequest = true → s.disableRequest = true)
    (restart : s.restartRequired = true → t.restartRequired = true)
    (raised : t.disableRequest = true → t.phase ≠ .jtcActivating ∧ t.phase ≠ .enabled)
    (deactivating : t.phase = .jtcDeactivating → s.phase = .jtcDeactivating) :
    DeactivationLaw t (recordSwitch s event t last) := by
  have recorded : recordSwitch s event t last = last ∨
      recordSwitch s event t last = none ∧ t.phase = .enabled := by
    simp only [recordSwitch, pc]
    split_ifs with enters switching
    · exact Or.inr ⟨rfl, enters.2⟩
    · left
      cases held : s.disablePc with
      | switch inner => cases inner <;> simp_all [DisablePc.isSwitching]
      | _ => rfl
    · exact Or.inl rfl
  constructor
  · rw [pc, callback]
    exact law.callback
  · exact raised
  · intro onPath
    by_contra requested
    have before := law.path (pc ▸ onPath)
    simp [request (by simpa using requested)] at before
  · intro phase
    rcases recorded with kept | ⟨-, enabled⟩
    · rw [pc, kept]
      exact law.switched (deactivating phase)
    · cases phase.symm.trans enabled
  · intro result held
    rcases recorded with kept | ⟨dropped, -⟩
    · rw [kept]
      exact law.returned result (pc ▸ held)
    · exact Or.inl dropped
  · intro result held failed
    rcases recorded with kept | ⟨dropped, -⟩
    · rw [pc]
      rcases law.latched result (kept ▸ held) failed with latched | onPath
      · exact Or.inl (restart latched)
      · exact Or.inr onPath
    · simp [dropped] at held

theorem deactivationLaw_update {now : Int} {readings : Readings} {t : Controller}
    (law : DeactivationLaw s last)
    (cycle : Cycle config now (s.toController.refreshStatusWords readings) t) :
    DeactivationLaw { s with toController := t }
      (recordSwitch s (.update now readings) { s with toController := t } last) := by
  obtain ⟨request, deactivating⟩ := disableSide_of_cycle cycle
  have kept := Controller.untouched_of_cycle cycle
  refine law.frame _ rfl kept.disableCallbackActive request
    (fun latched => kept.restartRequired.trans latched) ?_ deactivating
  intro requested
  have before := request requested
  obtain ⟨activating, enabled⟩ := law.raised before
  cases enableFlow_of_cycle cycle with
  | same phase => exact ⟨phase.trans_ne activating, phase.trans_ne enabled⟩
  | outside _ activating enabled => exact ⟨activating, enabled⟩
  | accept _ _ phase => exact ⟨phase.trans_ne nofun, phase.trans_ne nofun⟩
  | advance _ after => grind -linarith
  | ready _ _ _ _ unrequested => cases unrequested.symm.trans before

theorem deactivationLaw_enable (law : DeactivationLaw s last)
    (aside : raisesAside s (.enable late) = true) :
    DeactivationLaw (s.enableStep late)
      (recordSwitch s (.enable late) (s.enableStep late) last) := by
  have frame := enableStep_frame s late
  refine law.frame _ frame.disablePc frame.disableCallbackActive
    (fun requested => frame.disableRequest ▸ requested) frame.restartRequired ?_ ?_
  · intro requested
    have before : s.disableRequest = true := frame.disableRequest ▸ requested
    rcases frame.phase with same | ⟨storing, -⟩
    · rw [same]
      exact law.raised before
    · simp [raisesAside, storing, before] at aside
  · intro deactivating
    rcases frame.phase with same | ⟨-, enabled⟩
    · exact same.symm.trans deactivating
    · cases enabled.symm.trans deactivating

/-- The steps of `switchJtc` inside `handleDisable`. -/
theorem deactivationLaw_switch {inner : SwitchPc} (law : DeactivationLaw s last)
    (pc : s.disablePc = .switch inner) :
    DeactivationLaw (s.disableStep late)
      (recordSwitch s (.disable late) (s.disableStep late) last) := by
  obtain ⟨switchInProgress, jtc, switched⟩ := switchStep_frame s late false inner
  obtain ⟨callback, raised, path, deactivating, returned, latched⟩ := law
  cases inner with
  | returned result =>
      cases result <;> simp only [System.disableStep, pc] <;> constructor <;>
        grind -linarith [recordSwitch, DisablePc.isSwitching, DisablePc.onEnabledPath]
  | _ =>
      simp only [System.disableStep, pc, switched]
      generalize (s.switchStep false late _).2 = next
      cases next <;> constructor <;>
        grind -linarith [recordSwitch, DisablePc.isSwitching, DisablePc.onEnabledPath]

/-- A step of `handleDisable` outside `switchJtc` and its failure branch that
writes neither the phase nor the request keeps the law. -/
theorem DeactivationLaw.walk (law : DeactivationLaw s last) (event : Event)
    (phase : t.phase = s.phase) (request : t.disableRequest = s.disableRequest)
    (restart : t.restartRequired = s.restartRequired)
    (before : s.disablePc.isSwitching = false ∧
      (∀ result, s.disablePc ≠ .switch (.returned result)) ∧
      s.disablePc ≠ .storeFailed ∧ s.disablePc ≠ .storeRestart)
    (after : ∀ inner, t.disablePc ≠ .switch inner)
    (callback : t.disablePc ≠ .idle → t.disableCallbackActive = true)
    (path : t.disablePc.onEnabledPath = true →
      s.disablePc.onEnabledPath = true ∨ s.phase = .enabled) :
    DeactivationLaw t (recordSwitch s event t last) := by
  obtain ⟨unswitching, unreturned, unfailed, unlatched⟩ := before
  have kept : recordSwitch s event t last = last := by
    simp [recordSwitch, phase, unswitching]
  rw [kept]
  constructor
  · exact callback
  · rw [request, phase]
    exact law.raised
  · intro onPath
    rw [request]
    rcases path onPath with held | enabled
    · exact law.path held
    · by_contra requested
      exact (law.raised (by simpa using requested)).2 enabled
  · intro deactivating
    rcases law.switched (phase.symm.trans deactivating) with switching | returned
    · simp [unswitching] at switching
    · exact Or.inr returned
  · intro result held
    exact absurd held (after _)
  · intro result held failed
    rw [restart]
    rcases law.latched result held failed with latched | returned | failing | storing
    · exact Or.inl latched
    · exact absurd returned (unreturned result)
    · exact absurd failing unfailed
    · exact absurd storing unlatched

theorem deactivationLaw_disable (law : DeactivationLaw s last)
    (aside : raisesAside s (.disable late) = true) :
    DeactivationLaw (s.disableStep late)
      (recordSwitch s (.disable late) (s.disableStep late) last) := by
  have called := law.callback
  cases pc : s.disablePc with
  | switch inner => exact deactivationLaw_switch law pc
  | storeDeactivating | storeFailed | storeRestart | raiseRequest _ =>
      obtain ⟨callback, raised, path, deactivating, returned, latched⟩ := law
      simp only [System.disableStep, pc]
      constructor <;>
        grind -linarith [recordSwitch, raisesAside, DisablePc.isSwitching, DisablePc.onEnabledPath]
  | wait inner =>
      cases inner <;> simp only [System.disableStep, pc] <;>
        refine law.walk _ rfl rfl rfl ?_ ?_ ?_ ?_ <;>
        simp_all [DisablePc.isSwitching, DisablePc.onEnabledPath]
  | recordFailure field =>
      cases field <;> simp only [System.disableStep, pc, FailureField.next] <;>
        refine law.walk _ rfl rfl rfl ?_ ?_ ?_ ?_ <;>
        simp_all [DisablePc.isSwitching, DisablePc.onEnabledPath]
  | _ =>
      simp only [System.disableStep, pc, System.answerDisable]
      try split_ifs
      all_goals
        refine law.walk _ rfl rfl rfl ?_ ?_ ?_ ?_ <;>
        simp_all [DisablePc.isSwitching, DisablePc.onEnabledPath]

theorem deactivationLaw_callDisable (law : DeactivationLaw s last) :
    DeactivationLaw s.callDisable (recordSwitch s .callDisable s.callDisable last) := by
  unfold System.callDisable
  split
  · exact law.frame _ rfl rfl id id law.raised id
  · rename_i free
    have atIdle : s.disablePc = .idle := by
      by_contra running
      exact free (law.callback running)
    refine law.walk _ rfl rfl rfl ?_ ?_ ?_ ?_ <;>
      simp [atIdle, DisablePc.isSwitching, DisablePc.onEnabledPath]

/-- Every allowed atomic step keeps the law. -/
theorem deactivationLaw_step (law : DeactivationLaw s last)
    (aside : raisesAside s event = true) (step : atomicStep config s event = some t) :
    DeactivationLaw t (recordSwitch s event t last) := by
  cases atomicMove_of_step step with
  | skip => exact law.frame _ rfl rfl id id law.raised id
  | update now readings t active cycle => exact deactivationLaw_update law cycle
  | callEnable =>
      have frame := callEnable_frame s
      have kept : s.callEnable.phase = s.phase := by
        unfold System.callEnable
        split <;> rfl
      refine law.frame _ frame.disablePc frame.disableCallbackActive
        (fun requested => frame.disableRequest ▸ requested) frame.restartRequired ?_ ?_
      · intro requested
        rw [kept]
        exact law.raised (frame.disableRequest ▸ requested)
      · exact fun deactivating => kept.symm.trans deactivating
  | enable late running => exact deactivationLaw_enable law aside
  | callDisable => exact deactivationLaw_callDisable law
  | disable late running => exact deactivationLaw_disable law aside
  | bystander event t frame =>
      refine law.frame _ frame.disablePc frame.disableCallbackActive
        (fun requested => frame.disableRequest ▸ requested) frame.restartRequired ?_ ?_
      · intro requested
        rw [frame.phase]
        exact law.raised (frame.disableRequest ▸ requested)
      · exact fun deactivating => frame.phase.symm.trans deactivating
  | activate | deactivate => simp [raisesAside, inSession, Event.isLifecycle] at aside

/-- A disable request pending in an enabled group has a returned switch behind
it. -/
theorem switched_of_requested (law : DeactivationLaw s last)
    (descending : s.phase = .enabled ∨ s.phase = .jtcDeactivating)
    (requested : s.disableRequest = true) :
    ∃ result, last = some result ∧ (result = .success ∨ s.restartRequired = true) := by
  have offPath : s.disablePc.onEnabledPath = false := by
    by_contra onPath
    simp [law.path (by simpa using onPath)] at requested
  have deactivating : s.phase = .jtcDeactivating := by
    rcases descending with enabled | deactivating
    · exact absurd enabled (law.raised requested).2
    · exact deactivating
  rcases law.switched deactivating with switching | returned
  · cases pc : s.disablePc with
    | switch inner => simp [pc, DisablePc.onEnabledPath] at offPath
    | _ => simp [pc, DisablePc.isSwitching] at switching
  · obtain ⟨result, recorded⟩ := Option.isSome_iff_exists.mp returned
    refine ⟨result, recorded, ?_⟩
    by_cases success : result = .success
    · exact Or.inl success
    · rcases law.latched result recorded success with latched | held | held | held
      · exact Or.inr latched
      all_goals simp [held, DisablePc.onEnabledPath] at offPath

end Moves

/-! ## The result -/

/-- While the disable request is raised aside from the activation of the JTC and
of the enabled phase, no enabled group descends before its JTC was switched
off. -/
theorem deactivatesFirst_of_raisesAside (config : Config) :
    DeactivatesFirst config raisesAside := by
  intro s last reachable t event aside step before after
  have initial : DeactivationLaw activated none :=
    ⟨nofun, nofun, nofun, nofun, nofun, nofun⟩
  have law : DeactivationLaw s last := by
    refine reachable.invariant (fun current => DeactivationLaw current.1 current.2) initial ?_
    intro source target event holds aside step
    obtain ⟨moves, recorded⟩ := observed_eq_some_iff.mp step
    rw [recorded]
    exact deactivationLaw_step holds aside moves
  apply switched_of_requested law before
  cases atomicMove_of_step step with
  | update now readings t active cycle =>
      have requested := requested_of_descent cycle before after
      exact requested
  | enable late running =>
      rcases (enableStep_frame s late).phase with same | ⟨-, enabled⟩ <;> grind -linarith
  | callEnable =>
      rcases (callEnable_frame s).phase with same | ⟨-, enabled⟩ <;> grind -linarith
  | disable late running =>
      rcases (disableStep_frame s late).phase with same | ⟨-, deactivating⟩ <;> grind -linarith
  | callDisable =>
      rcases (callDisable_frame s).phase with same | ⟨-, deactivating⟩ <;> grind -linarith
  | bystander event t frame => grind -linarith [frame.phase]
  | skip => grind -linarith
  | activate inactive => cases after
  | deactivate active => cases after

/-- A disable of the enabled group switches the JTC off before the descent
starts. -/
theorem deactivatesFirst_of_disable :
    ∃ s t last result,
      Reachable (observed (atomicStep defaultConfig) recordSwitch) (onState raisesAside)
          (activated, none) (s, last) ∧
        atomicStep defaultConfig s (.update 20000000000 (everyAxis 0x0027)) = some t ∧
        s.phase = .jtcDeactivating ∧ t.phase = .disabling ∧ last = some result ∧
        (result = .success ∨ s.restartRequired = true) := by
  have found : (run (observed (atomicStep defaultConfig) recordSwitch) (onState raisesAside)
      (activated, none) (enableSteps ++ [Event.callDisable] ++
        List.replicate 9 (Event.disable false) ++ [Event.controllerManager true true] ++
        List.replicate 4 (Event.disable false))).any
      (fun observation => observation.1.phase = .jtcDeactivating &&
        raisesAside observation.1 (.update 20000000000 (everyAxis 0x0027)) &&
        (atomicStep defaultConfig observation.1
          (.update 20000000000 (everyAxis 0x0027))).any fun t => t.phase = .disabling) =
        true := by
    rfl
  obtain ⟨⟨s, last⟩, reachable, starts⟩ := exists_reachable_of_run found
  simp only [Bool.and_eq_true, decide_eq_true_eq, Option.any_eq_true] at starts
  obtain ⟨⟨deactivating, allowed⟩, t, step, descends⟩ := starts
  obtain ⟨result, recorded, ended⟩ := deactivatesFirst_of_raisesAside defaultConfig s last
    reachable t _ allowed step (Or.inr deactivating) descends
  exact ⟨s, t, last, result, reachable, step, deactivating, descends, recorded, ended⟩

/-- A disable call sees the last batch run and prepares to preempt it; the batch
completes, the JTC is activated and the group is enabled; then the call raises
its request. -/
def lateRequest : List Event :=
  startupCycles ++ [Event.callEnable] ++ List.replicate 8 (Event.enable false) ++
    cycles 0x0040 [10] ++ cycles 0x0027 [11, 12, 13, 14, 15, 16, 17, 18] ++ [Event.callDisable] ++
    List.replicate 5 (Event.disable false) ++ cycles 0x0027 [19] ++
    List.replicate 6 (Event.enable false) ++ [Event.controllerManager true true] ++
    List.replicate 16 (Event.enable false) ++ [Event.disable false]

/-- The enabled group descends with the JTC active and no switch attempted. -/
theorem not_deactivatesFirst_of_lateRequest : ¬DeactivatesFirst defaultConfig inSession := by
  intro always
  have found : (run (observed (atomicStep defaultConfig) recordSwitch) (onState inSession)
      (activated, none) lateRequest).any (fun observation =>
        observation.1.phase = .enabled && observation.1.jtc.active && observation.2 = none &&
          (atomicStep defaultConfig observation.1
            (.update 20000000000 (everyAxis 0x0027))).any fun t => t.phase = .disabling) =
        true := by
    rfl
  obtain ⟨⟨s, last⟩, reachable, raced⟩ := exists_reachable_of_run found
  simp only [Bool.and_eq_true, decide_eq_true_eq, Option.any_eq_true] at raced
  obtain ⟨⟨⟨enabled, -⟩, unswitched⟩, t, step, descends⟩ := raced
  obtain ⟨result, recorded, -⟩ := always s last reachable t _ rfl step (Or.inl enabled) descends
  cases unswitched.symm.trans recorded

end RtControl.EnableManager
