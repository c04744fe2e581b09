import RtControl.EnableManager.Atomic

/-!
# An emergency is not cancelled by a callback

`handleEnable` checks the phase and stores `kEnabled` some instructions later;
`handleDisable` takes a snapshot of the phase and stores `kJtcDeactivating` some
instructions later.  Neither store is a compare-exchange, so an emergency that
starts in between is overwritten.
-/

namespace RtControl.EnableManager

open RtControl.Transition

/-- `handleDisable` has seen `kEnabled` and has not yet stored
`kJtcDeactivating`.  The compare-exchange of the owner in between is no protection:
`handleEnable` may release the owner after the emergency has begun. -/
def DisablePc.holdsEnabled : DisablePc → Bool
  | .loadOwner phase | .casOwner phase | .clearReady phase | .clearFailed phase =>
      phase = .enabled
  | .storeDeactivating => true
  | _ => false

/-- A callback stands between a phase check and the phase store it leads to. -/
def storesPhase (s : System) : Bool :=
  s.enablePc.stage = .committing || s.disablePc.holdsEnabled

/-- No emergency starts while a callback stands between its phase check and its
phase store. -/
def calmStores (config : Config) : Guard System Event := fun s event =>
  match event with
  | .update now readings =>
      !(storesPhase s && s.active &&
        s.toController.raisesEmergency config now (refreshedWords readings))
  | _ => true

/-- An emergency stands: apart from a deactivation, every step from an emergency
phase stays in one or is the cycle that ends the emergency descent. -/
def EmergencyStands (config : Config) (guard : Guard System Event) : Prop :=
  ∀ s t event, Reachable (atomicStep config) guard configured s →
    guard s event = true → atomicStep config s event = some t →
    s.phase.isEmergency = true → event ≠ .deactivate →
      t.phase.isEmergency = true ∨
        (∃ now readings, event = .update now readings) ∧ s.phase = .emergencyDisable ∧
          (t.phase = .idle ∨ t.phase = .failed)

/-- No callback is about to store a phase during an emergency, and only an
active controller has one. -/
structure EmergencyLaw (s : System) : Prop where
  stores : storesPhase s = true → s.phase.isEmergency = false
  active : s.phase.isEmergency = true → s.active = true

section Invariant

variable {config : Config} {s t : System} {event : Event}

/-- `handleDisable` holds an enabled snapshot only after it has seen the
phase. -/
theorem disableStep_holdsEnabled (s : System) (late : Bool)
    (after : (s.disableStep late).disablePc.holdsEnabled = true) :
    s.disablePc.holdsEnabled = true ∨ s.phase = .enabled := by
  cases pc : s.disablePc with
  | loadPhase =>
      right
      simp only [System.disableStep, pc] at after
      split_ifs at after
      · contradiction
      · contradiction
      · cases phase : s.phase <;> simp_all [DisablePc.holdsEnabled]
  | loadOwner phase | casOwner phase | clearReady phase =>
      left
      simp only [System.disableStep, pc, System.answerDisable] at after
      try split_ifs at after
      all_goals cases phase <;> simp_all [DisablePc.holdsEnabled]
  | clearFailed phase =>
      left
      simp only [System.disableStep, pc] at after
      split_ifs at after with enabled
      · subst enabled
        rfl
      · contradiction
  | storeDeactivating => exact Or.inl rfl
  | switch inner =>
      cases inner with
      | returned result =>
          cases result <;> simp [System.disableStep, pc, DisablePc.holdsEnabled] at after
      | _ => simp [System.disableStep, pc, DisablePc.holdsEnabled] at after
  | wait inner => cases inner <;> simp [System.disableStep, pc, DisablePc.holdsEnabled] at after
  | recordFailure field =>
      cases field <;>
        simp [System.disableStep, pc, DisablePc.holdsEnabled, FailureField.next] at after
  | _ =>
      simp only [System.disableStep, pc, System.answerDisable] at after
      try split_ifs at after
      all_goals contradiction

theorem emergencyLaw_update {now : Int} {readings : Readings} {t : Controller}
    (law : EmergencyLaw s) (active : s.active = true)
    (calm : calmStores config s (.update now readings) = true)
    (cycle : Cycle config now (s.toController.refreshStatusWords readings) t) :
    EmergencyLaw { s with toController := t } := by
  constructor
  · intro stores
    have before : s.phase.isEmergency = false := law.stores stores
    by_contra after
    have raises := raisesEmergency_of_cycle cycle (by simpa using after) before
    have reason : s.toController.raisesEmergency config now (refreshedWords readings) = true :=
      raises
    have stored : storesPhase s = true := stores
    simp [calmStores, stored, active, reason] at calm
  · intro _
    rw [(Controller.untouched_of_cycle cycle).active]
    exact active

theorem emergencyLaw_enable {late : Bool} (law : EmergencyLaw s) :
    EmergencyLaw (s.enableStep late) := by
  have frame := enableStep_frame s late
  constructor
  · cases enableStep_advance s late <;>
      grind -linarith [storesPhase, EmergencyLaw, EnableFrame, EnableSame, EnablePc.stage]
  · rw [frame.active]
    rcases frame.phase with same | ⟨-, enabled⟩
    · rw [same]
      exact law.active
    · simp [enabled, Phase.isEmergency]

theorem emergencyLaw_disable {late : Bool} (law : EmergencyLaw s) :
    EmergencyLaw (s.disableStep late) := by
  have frame := disableStep_frame s late
  constructor
  · intro stores
    rcases frame.phase with same | ⟨-, deactivating⟩
    · rw [same]
      simp only [storesPhase, Bool.or_eq_true, frame.enablePc] at stores
      rcases stores with commits | holds
      · exact law.stores (by simp [storesPhase, commits])
      · rcases disableStep_holdsEnabled s late holds with held | enabled
        · exact law.stores (by simp [storesPhase, held])
        · simp [enabled, Phase.isEmergency]
    · simp [deactivating, Phase.isEmergency]
  · rw [frame.active]
    rcases frame.phase with same | ⟨-, deactivating⟩
    · rw [same]
      exact law.active
    · simp [deactivating, Phase.isEmergency]

theorem emergencyLaw_callEnable (law : EmergencyLaw s) : EmergencyLaw s.callEnable := by
  unfold System.callEnable
  split
  · exact law
  · refine ⟨fun stores => law.stores ?_, law.active⟩
    simp only [storesPhase, EnablePc.stage, Bool.or_eq_true] at stores ⊢
    exact Or.inr (by simpa using stores)

theorem emergencyLaw_callDisable (law : EmergencyLaw s) : EmergencyLaw s.callDisable := by
  unfold System.callDisable
  split
  · exact law
  · refine ⟨fun stores => law.stores ?_, law.active⟩
    simp only [storesPhase, DisablePc.holdsEnabled, Bool.or_eq_true] at stores ⊢
    exact Or.inl (by simpa using stores)

/-- Every allowed atomic step keeps the law. -/
theorem emergencyLaw_step (law : EmergencyLaw s) (calm : calmStores config s event = true)
    (step : atomicStep config s event = some t) : EmergencyLaw t := by
  cases atomicMove_of_step step with
  | skip => exact law
  | update now readings t active cycle => exact emergencyLaw_update law active calm cycle
  | callEnable => exact emergencyLaw_callEnable law
  | enable late running => exact emergencyLaw_enable law
  | callDisable => exact emergencyLaw_callDisable law
  | disable late running => exact emergencyLaw_disable law
  | bystander event t frame =>
      constructor
      · rw [storesPhase, frame.enablePc, frame.disablePc, frame.phase]
        exact law.stores
      · rw [frame.phase, frame.active]
        exact law.active
  | activate inactive =>
      constructor
      · simp [Controller.onActivate, Phase.isEmergency]
      · simp [Controller.onActivate, Phase.isEmergency]
  | deactivate active =>
      constructor
      · simp [Controller.onDeactivate, Phase.isEmergency]
      · simp [Controller.onDeactivate, Phase.isEmergency]

end Invariant

/-! ## The result -/

/-- While no emergency starts between a callback's phase check and its phase
store, no callback cancels an emergency. -/
theorem emergencyStands_of_calmStores (config : Config) :
    EmergencyStands config (calmStores config) := by
  intro s t event reachable calm step emergency staysActive
  have law : EmergencyLaw s := by
    refine reachable.invariant EmergencyLaw ?_ fun event holds calm step =>
      emergencyLaw_step holds calm step
    constructor <;> decide
  have settled : storesPhase s = false := by
    by_contra stores
    simp [law.stores (by simpa using stores)] at emergency
  simp only [storesPhase, Bool.or_eq_false_iff, decide_eq_false_iff_not] at settled
  cases atomicMove_of_step step with
  | skip => exact Or.inl emergency
  | update now readings t active cycle =>
      rcases emergency_of_cycle cycle emergency with stays | ⟨descending, ended⟩
      · exact Or.inl stays
      · exact Or.inr ⟨⟨now, readings, rfl⟩, descending, ended⟩
  | callEnable =>
      rcases (callEnable_frame s).phase with same | ⟨storing, -⟩
      · exact Or.inl (by rw [same]; exact emergency)
      · simp [storing, EnablePc.stage] at settled
  | enable late running =>
      rcases (enableStep_frame s late).phase with same | ⟨storing, -⟩
      · exact Or.inl (by rw [same]; exact emergency)
      · simp [storing, EnablePc.stage] at settled
  | callDisable =>
      rcases (callDisable_frame s).phase with same | ⟨storing, -⟩
      · exact Or.inl (by rw [same]; exact emergency)
      · simp [storing, DisablePc.holdsEnabled] at settled
  | disable late running =>
      rcases (disableStep_frame s late).phase with same | ⟨storing, -⟩
      · exact Or.inl (by rw [same]; exact emergency)
      · simp [storing, DisablePc.holdsEnabled] at settled
  | bystander event t frame => exact Or.inl (by rw [frame.phase]; exact emergency)
  | activate inactive => simp [law.active emergency] at inactive
  | deactivate active => exact absurd rfl staysActive

/-- A fault seen before the callback turns to the JTC ends in `kFailed`, through
the emergency descent. -/
theorem emergencyStands_of_faultWhilePolling :
    ∃ s t, Reachable (atomicStep defaultConfig) (calmStores defaultConfig) configured s ∧
      atomicStep defaultConfig s (.update 23000000000 (everyAxis 0x0008)) = some t ∧
      s.phase.isEmergency = true ∧ t.phase.isEmergency = false ∧
      s.phase = .emergencyDisable ∧ (t.phase = .idle ∨ t.phase = .failed) := by
  have found : (run (atomicStep defaultConfig) (calmStores defaultConfig) configured
      ([Event.activate] ++ startupCycles ++ [Event.callEnable] ++
        List.replicate 8 (Event.enable false) ++ batchCycles ++ cycles 0x0008 [20, 21, 22])).any
      (fun s =>
        s.phase.isEmergency &&
          calmStores defaultConfig s (.update 23000000000 (everyAxis 0x0008)) &&
          (atomicStep defaultConfig s (.update 23000000000 (everyAxis 0x0008))).any
            fun t => !t.phase.isEmergency) = true := by
    rfl
  obtain ⟨s, reachable, ended⟩ := exists_reachable_of_run found
  simp only [Bool.and_eq_true, Option.any_eq_true, Bool.not_eq_true'] at ended
  obtain ⟨⟨emergency, calm⟩, t, step, left⟩ := ended
  rcases emergencyStands_of_calmStores defaultConfig s t _ reachable calm step emergency nofun with
    stays | ⟨-, descending, settled⟩
  · cases left.symm.trans stays
  · exact ⟨s, t, reachable, step, emergency, left, descending, settled⟩

/-- An enable session up to the instruction that stores `kEnabled`, then a cycle
that sees a fault on every axis. -/
def faultBeforeStore : List Event :=
  [Event.activate] ++ startupCycles ++ [Event.callEnable] ++
    List.replicate 8 (Event.enable false) ++ batchCycles ++
    List.replicate 6 (Event.enable false) ++ [Event.controllerManager true true] ++
    List.replicate 8 (Event.enable false) ++ cycles 0x0008 [20]

/-- The store of `kEnabled` cancels an emergency that started after the phase
check. -/
theorem not_emergencyStands_of_faultBeforeStore :
    ¬EmergencyStands defaultConfig unguarded := by
  intro always
  have found : (run (atomicStep defaultConfig) unguarded configured faultBeforeStore).any
      (fun s => s.phase.isEmergency &&
        (atomicStep defaultConfig s (.enable false)).any fun t => t.phase = .enabled) = true := by
    rfl
  obtain ⟨s, reachable, raced⟩ := exists_reachable_of_run found
  rw [Bool.and_eq_true, Option.any_eq_true] at raced
  obtain ⟨emergency, t, step, enabled⟩ := raced
  rw [decide_eq_true_eq] at enabled
  rcases always s t (.enable false) reachable rfl step emergency nofun with
    stays | ⟨⟨now, readings, isUpdate⟩, -⟩
  · simp [enabled, Phase.isEmergency] at stays
  · cases isUpdate

/-- An enable session up to the instruction that releases the owner; then a disable call
loads `kEnabled`, and a cycle sees a fault on every axis. -/
def faultBeforeOwner : List Event :=
  [Event.activate] ++ startupCycles ++ [Event.callEnable] ++
    List.replicate 8 (Event.enable false) ++ batchCycles ++
    List.replicate 6 (Event.enable false) ++ [Event.controllerManager true true] ++
    List.replicate 15 (Event.enable false) ++
    [Event.callDisable, .disable false, .disable false] ++ cycles 0x0008 [20]

-- The enable callback releases the owner, the disable callback takes it in the emergency and
-- stores its phase.
example : (run (atomicStep defaultConfig) unguarded configured faultBeforeOwner).any (fun s =>
    s.phase.isEmergency && s.disablePc = .loadOwner .enabled &&
      (run (atomicStep defaultConfig) unguarded s
        (Event.enable false :: List.replicate 5 (Event.disable false))).any fun t =>
          t.phase = .jtcDeactivating) = true := by
  rfl

end RtControl.EnableManager
