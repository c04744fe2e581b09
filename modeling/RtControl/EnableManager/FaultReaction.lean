import RtControl.EnableManager.Words

/-!
# The reaction to a fault in its own cycle

The fault monitor falls through to the quick stop, so a cycle that sees a fault while
the group may move rewrites every control word.  The fault exit of `updateEnable`
returns before any word is written: the group keeps the words of the previous cycle.
-/

namespace RtControl.EnableManager

open RtControl.Transition

/-- The group is in an emergency and no axis is commanded to stay enabled. -/
structure Stopped (words : Words) (t : Controller) : Prop where
  emergency : t.phase.isEmergency = true
  disabled : ∀ axis, t.controlWords axis ≠ 0x000F
  quickStop : ∀ axis, decodeState (words axis) = .operationEnabled → t.controlWords axis = 0x0002
  released : ∀ axis, isFaultState (decodeState (words axis)) = true → t.controlWords axis = 0x0000

/-- A cycle that sees a fault in a powered phase stops the group. -/
def ReactsAtOnce (s t : System) (event : Event) : Prop :=
  ∀ now readings, event = .update now readings → s.active = true → s.phase.isPowered = true →
    anyFault (refreshedWords readings) = true → Stopped (refreshedWords readings) t.toController

/-- The words of the previous cycle enable no axis and release the faulted ones, and no
axis is in Operation Enabled. -/
def nothingPowered (s : System) (words : Words) : Bool :=
  axes.all fun axis =>
    s.controlWords axis ≠ 0x000F && decodeState (words axis) ≠ .operationEnabled &&
      (!isFaultState (decodeState (words axis)) || s.controlWords axis = 0x0000)

/-- A fault during the batchwise enable finds nothing powered. -/
def faultsUnpowered : Guard System Event := fun s event =>
  match event with
  | .update _ readings =>
      !(s.active && s.phase.isEnabling && anyFault (refreshedWords readings)) ||
        nothingPowered s (refreshedWords readings)
  | _ => true

/-- Every cycle of every run reacts to a fault at once. -/
def ReactionLaw (config : Config) (guard : Guard System Event) : Prop :=
  ∀ s t event, Reachable (atomicStep config) guard configured s →
    guard s event = true → atomicStep config s event = some t → ReactsAtOnce s t event

section Cycles

variable {config : Config} {now : Int} {readings : Readings} {s : Controller}

theorem quickStopCommand_of_fault {state : DriveState} (fault : isFaultState state = true) :
    quickStopCommand state = 0x0000 := by
  rcases (isFaultState_iff state).mp fault with rfl | rfl <;> rfl

/-- The quick stop stops the group, whether it goes on or hands over. -/
theorem stopped_updateEmergencyQuickStop (stopping : s.phase = .emergencyQuickStop) :
    Stopped s.statusWords (s.updateEmergencyQuickStop config now) := by
  have written := s.updateEmergencyQuickStop_controlWords config now
  refine ⟨?_, ?_, ?_, ?_⟩
  · rcases s.updateEmergencyQuickStop_eq config now stopping with ⟨_, _, _, _, emergency, same⟩
    rw [same]
    exact emergency
  · intro axis
    rw [written]
    exact quickStopCommand_ne_enable _
  · intro axis enabled
    simp only [written, enabled]
    rfl
  · intro axis fault
    rw [written]
    exact quickStopCommand_of_fault fault

/-- The monitor reacts to a fault in its own cycle. -/
theorem stopped_of_monitored (active : s.active = true)
    (monitored : s.phase = .enabled ∨ s.phase = .jtcActivating ∨ s.phase = .jtcDeactivating)
    (faulted : anyFault (refreshedWords readings) = true) :
    Stopped (refreshedWords readings) (s.update config now readings) := by
  rcases exists_monitored_of_anyFault monitored faulted with ⟨axis, stage, tripped⟩
  have stopping : ((s.refreshStatusWords readings).startEmergency config now stage axis.val
      (refreshedWords readings axis)).phase = .emergencyQuickStop := rfl
  rw [s.update_of_monitored config now active tripped]
  exact stopped_updateEmergencyQuickStop stopping

/-- A fault while enabling starts the emergency and writes nothing. -/
theorem update_of_faultWhileEnabling (active : s.active = true)
    (enabling : s.phase.isEnabling = true) (faulted : anyFault (refreshedWords readings) = true) :
    (s.update config now readings).controlWords = s.controlWords ∧
      (s.update config now readings).phase = .emergencyQuickStop := by
  rw [Controller.update_of_enabling active enabling]
  exact (s.refreshStatusWords readings).updateEnable_of_anyFault config now faulted

end Cycles

/-! ## Words of an enable -/

/-- No axis holds a quick-stop word during the batchwise enable. -/
def NoQuickStop (s : System) : Prop :=
  s.phase.isEnabling = true → ∀ axis, s.controlWords axis ≠ 0x0002

theorem enableCommand_ne_quickStop (currentBatch : Nat) (axis : Axis) (state : DriveState) :
    enableCommand currentBatch axis state ≠ 0x0002 := by
  unfold enableCommand
  dsimp only
  split_ifs
  · decide
  · cases state <;> decide
  · decide

theorem interBatchCommand_ne_quickStop (state : DriveState) :
    interBatchCommand state ≠ 0x0002 := by
  unfold interBatchCommand
  split_ifs <;> decide

theorem noQuickStop_update {config : Config} {now : Int} {readings : Readings} {s : Controller}
    (active : s.active = true)
    (after : (s.update config now readings).phase.isEnabling = true) (axis : Axis) :
    (s.update config now readings).controlWords axis ≠ 0x0002 := by
  rcases Controller.phase_of_enabling (s.update_outcome config now readings active) after with
    idle | enabling
  · have idle : s.phase = .idle := idle
    have calm : monitoredFailure s.phase (refreshedWords readings) = none :=
      monitoredFailure_of_unmonitored (by simp [idle])
    rw [s.update_of_unmonitored config now active calm]
    simp only [Controller.dispatch, Controller.refreshStatusWords, idle,
      Controller.updateIdle_controlWords]
    decide
  · have enabling : s.phase.isEnabling = true := enabling
    by_cases faulted : anyFault (refreshedWords readings) = true
    · rw [(update_of_faultWhileEnabling active enabling faulted).2] at after
      cases after
    · have healthy : anyFault (s.refreshStatusWords readings).statusWords = false := by
        simpa [Controller.refreshStatusWords] using faulted
      rw [Controller.update_of_enabling active enabling,
        Controller.updateEnable_controlWords config now _ healthy]
      split_ifs
      · exact interBatchCommand_ne_quickStop _
      · exact enableCommand_ne_quickStop _ _ _

/-- A callback does not lead into the batchwise enable. -/
theorem isEnabling_of_callback {config : Config} {s t : System} {event : Event}
    (step : atomicStep config s event = some t) (session : event.isLifecycle = false)
    (callback : ∀ now readings, event ≠ .update now readings)
    (enabling : t.phase.isEnabling = true) : s.phase.isEnabling = true := by
  rcases phase_of_callback step session callback with same | held
  · rw [← same]
    exact enabling
  · revert enabling held
    cases t.phase <;> simp [Phase.isEnabling, Phase.isHeld]

theorem noQuickStop_of_callback {config : Config} {s t : System} {event : Event}
    (law : NoQuickStop s) (step : atomicStep config s event = some t)
    (session : event.isLifecycle = false)
    (callback : ∀ now readings, event ≠ .update now readings) : NoQuickStop t := by
  intro enabling
  rw [(cycleFrame_of_callback step session callback).controlWords]
  exact law (isEnabling_of_callback step session callback enabling)

theorem noQuickStop_of_step {config : Config} {s t : System} {event : Event}
    (law : NoQuickStop s) (step : atomicStep config s event = some t) : NoQuickStop t := by
  cases event with
  | update now readings =>
      cases step
      by_cases active : s.active = true
      · intro after axis
        exact noQuickStop_update active after axis
      · rw [Bool.not_eq_true] at active
        rw [s.toController.update_inactive config now readings active]
        exact law
  | activate =>
      rw [atomicStep, Option.ite_none_left_eq_some] at step
      rcases step with ⟨inactive, same⟩
      cases same
      intro enabling
      cases enabling
  | deactivate =>
      rw [atomicStep, Option.ite_none_right_eq_some] at step
      rcases step with ⟨active, same⟩
      cases same
      intro enabling
      cases enabling
  | _ => exact noQuickStop_of_callback law step rfl (by simp)

theorem noQuickStop_of_reachable {config : Config} {guard : Guard System Event} {s : System}
    (reachable : Reachable (atomicStep config) guard configured s) : NoQuickStop s := by
  refine reachable.invariant NoQuickStop ?_ fun _ law _ step => noQuickStop_of_step law step
  intro enabling
  cases enabling

/-! ## The result -/

section Steps

variable {config : Config} {s t : System} {event : Event}

theorem nothingPowered_iff {words : Words} :
    nothingPowered s words = true ↔ ∀ axis, s.controlWords axis ≠ 0x000F ∧
      decodeState (words axis) ≠ .operationEnabled ∧
      (isFaultState (decodeState (words axis)) = true → s.controlWords axis = 0x0000) := by
  simp only [nothingPowered, List.all_eq_true, mem_axes, forall_const, Bool.and_eq_true,
    decide_eq_true_eq, Bool.or_eq_true, Bool.not_eq_true', and_assoc]
  refine forall_congr' fun axis => and_congr_right fun _ => and_congr_right fun _ => ?_
  cases isFaultState (decodeState (words axis)) <;> simp

/-- The words of the previous cycle stop the group when nothing is powered. -/
theorem stopped_iff_nothingPowered {now : Int} {readings : Readings} (law : NoQuickStop s)
    (active : s.active = true) (enabling : s.phase.isEnabling = true)
    (faulted : anyFault (refreshedWords readings) = true) :
    Stopped (refreshedWords readings) (s.toController.update config now readings) ↔
      nothingPowered s (refreshedWords readings) = true := by
  have kept : (s.toController.update config now readings).controlWords = s.controlWords ∧
      (s.toController.update config now readings).phase = .emergencyQuickStop :=
    update_of_faultWhileEnabling active enabling faulted
  rcases kept with ⟨words, phase⟩
  rw [nothingPowered_iff]
  constructor
  · rintro ⟨_, disabled, quickStop, released⟩ axis
    rw [words] at disabled quickStop released
    exact ⟨disabled axis, fun enabled => law enabling axis (quickStop axis enabled),
      released axis⟩
  · intro unpowered
    refine ⟨by rw [phase]; rfl, ?_, ?_, ?_⟩
    · intro axis
      rw [words]
      exact (unpowered axis).1
    · intro axis enabled
      exact absurd enabled (unpowered axis).2.1
    · intro axis fault
      rw [words]
      exact (unpowered axis).2.2 fault

theorem reactsAtOnce_iff (law : NoQuickStop s) (step : atomicStep config s event = some t) :
    ReactsAtOnce s t event ↔ faultsUnpowered s event = true := by
  cases event with
  | update now readings =>
      cases step
      by_cases seen : (s.active && s.phase.isEnabling && anyFault (refreshedWords readings)) = true
      · have powered : s.phase.isPowered = true := by
          simp only [Bool.and_eq_true] at seen
          simp [Phase.isPowered, seen.1.2]
        simp only [faultsUnpowered, seen, Bool.not_true, Bool.false_or]
        simp only [Bool.and_eq_true] at seen
        rcases seen with ⟨⟨active, enabling⟩, faulted⟩
        rw [← stopped_iff_nothingPowered law active enabling faulted]
        constructor
        · intro reacts
          exact reacts now readings rfl active powered faulted
        · intro stopped _ _ same _ _ _
          cases same
          exact stopped
      · have allowed : faultsUnpowered s (.update now readings) = true := by
          simp [faultsUnpowered, seen]
        simp only [allowed, iff_true]
        rintro _ _ same active powered faulted
        cases same
        have monitored : s.phase = .enabled ∨ s.phase = .jtcActivating ∨
            s.phase = .jtcDeactivating := by
          simp only [active, faulted, Bool.true_and, Bool.and_true] at seen
          cases phase : s.phase <;> simp_all [Phase.isPowered, Phase.isEnabling]
        exact stopped_of_monitored active monitored faulted
  | _ => simp [faultsUnpowered, ReactsAtOnce]

end Steps

/-- Runs whose faults during an enable find nothing powered react to every fault at once,
and in any run a cycle does so exactly when it is no other fault. -/
theorem reactsAtOnce_of_faultsUnpowered (config : Config) :
    ReactionLaw config faultsUnpowered ∧
      ∀ s t event, Reachable (atomicStep config) unguarded configured s →
        atomicStep config s event = some t →
          (ReactsAtOnce s t event ↔ faultsUnpowered s event = true) := by
  constructor
  · intro s t event reachable allowed step
    exact (reactsAtOnce_iff (noQuickStop_of_reachable reachable) step).mpr allowed
  · intro s t event reachable step
    exact reactsAtOnce_iff (noQuickStop_of_reachable reachable) step

/-- A fault in normal operation stops the group in its own cycle. -/
theorem reactsAtOnce_of_faultWhileEnabled :
    ∃ s t, Reachable (atomicStep defaultConfig) faultsUnpowered configured s ∧
      s.phase = .enabled ∧ s.active = true ∧
      atomicStep defaultConfig s (.update 30000000000 (everyAxis 0x0008)) = some t ∧
      Stopped (refreshedWords (everyAxis 0x0008)) t.toController := by
  have found : (run (atomicStep defaultConfig) faultsUnpowered configured
      ([Event.activate] ++ enableSteps)).any (fun s =>
        s.phase = .enabled && s.active &&
          faultsUnpowered s (.update 30000000000 (everyAxis 0x0008))) = true := by
    decide +kernel
  rcases exists_reachable_of_run found with ⟨s, reachable, tested⟩
  simp only [Bool.and_eq_true, decide_eq_true_eq] at tested
  rcases tested with ⟨⟨enabled, active⟩, allowed⟩
  refine ⟨s, _, reachable, enabled, active, rfl, ?_⟩
  exact (reactsAtOnce_of_faultsUnpowered defaultConfig).1 s _ _ reachable allowed rfl _ _ rfl
    active (by rw [enabled]; rfl) (by decide +kernel)

/-- A fault in the second batch leaves the first batch commanded to stay enabled. -/
theorem not_reactsAtOnce_of_faultWhileEnabling : ¬ReactionLaw defaultConfig unguarded := by
  intro always
  have found : (run (atomicStep defaultConfig) unguarded configured
      ([Event.activate] ++ startupCycles ++ [Event.callEnable] ++
        List.replicate 8 (Event.enable false) ++ cycles 0x0040 [10] ++ cycles 0x0027 [11])).any
      (fun s => s.active && s.phase.isPowered &&
        ((s.toController.update defaultConfig 11100000000 (everyAxis 0x0008)).controlWords 0 =
          0x000F)) = true := by
    decide +kernel
  rcases exists_reachable_of_run found with ⟨s, reachable, tested⟩
  simp only [Bool.and_eq_true, decide_eq_true_eq] at tested
  rcases tested with ⟨⟨active, powered⟩, kept⟩
  have stopped := always s _ (.update 11100000000 (everyAxis 0x0008)) reachable rfl rfl _ _ rfl
    active powered (by decide +kernel)
  exact stopped.disabled 0 kept

end RtControl.EnableManager
