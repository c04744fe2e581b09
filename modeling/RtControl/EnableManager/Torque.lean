import RtControl.EnableManager.Blocks

/-!
# No torque without a fresh enable

Bit 3 of a control word is Enable Operation.  It is written in five phases only,
and the way into these phases is a cycle in idle that consumes the request of an
admitted enable call.
-/

namespace RtControl.EnableManager

open RtControl.Transition

/-- The phases in which Enable Operation may be commanded. -/
def Phase.isPowered (phase : Phase) : Bool :=
  phase.isEnabling || phase = .jtcActivating || phase = .enabled || phase = .jtcDeactivating

/-- Enable Operation is clear on every axis. -/
def Torqueless (words : Words) : Prop :=
  ∀ axis, words axis &&& 0x0008 = 0

/-! ## Words written outside the powered phases -/

theorem zero_torqueless : (0x0000 : UInt16) &&& 0x0008 = 0 := by
  decide

theorem downwardCommand_torqueless (state : DriveState) : downwardCommand state &&& 0x0008 = 0 := by
  cases state <;> decide

theorem quickStopCommand_torqueless (state : DriveState) :
    quickStopCommand state &&& 0x0008 = 0 := by
  cases state <;> decide

theorem resetCommand_torqueless (target : Bool) (state : DriveState) :
    resetCommand target state &&& 0x0008 = 0 := by
  cases target <;> cases state <;> decide

namespace Controller

variable (config : Config) (now : Int) (s : Controller)

/-- Completing a descent writes no control word. -/
theorem finishDownward_controlWords : s.finishDownward.controlWords = s.controlWords := by
  unfold finishDownward finishStartup finishDisabling finishRollback finishEmergency
  split
  · simp only [storePhase, storeOwner, recordFailure]
    split_ifs <;> rfl
  · simp only [storePhase, storeOwner, recordFailure, publishDisable, clearFailure]
    split_ifs <;> rfl
  · rfl
  · simp only [storePhase, storeOwner, publishEnable, publishDisable]
    split_ifs <;> rfl
  · rfl

/-- An expired stage writes no control word. -/
theorem expireStage_controlWords (scan : DownwardScan) :
    (s.expireStage config now scan).controlWords = s.controlWords := by
  obtain ⟨primaryFailure, lastFailure, recorded⟩ := recordStageTimeout_eq s scan
  simp only [expireStage, recorded]
  split_ifs
  · rfl
  · rw [finishDownward_controlWords]

/-- A descent cycle writes the descent command to every axis. -/
theorem updateDescent_controlWords :
    (s.updateDescent config now).controlWords =
      fun axis => downwardCommand (decodeState (s.statusWords axis)) := by
  rw [updateDescent_eq]
  simp only [updateDownward]
  split_ifs
  · rw [finishDownward_controlWords]
  · rw [finishDownward_controlWords]
  · rfl
  · rw [expireStage_controlWords]
  · rfl

theorem updateDescent_torqueless : Torqueless (s.updateDescent config now).controlWords := by
  intro axis
  rw [updateDescent_controlWords]
  exact downwardCommand_torqueless _

theorem updateEmergencyQuickStop_torqueless :
    Torqueless (s.updateEmergencyQuickStop config now).controlWords := by
  intro axis
  simp only [updateEmergencyQuickStop, startDownward]
  split_ifs <;> exact quickStopCommand_torqueless _

theorem updateIdle_torqueless : Torqueless (s.updateIdle config now).controlWords := by
  intro axis
  simp only [updateIdle, setAllControlWords, targetFaults, answerAlreadyClear, clearFailure,
    publishReset, publishDisable, storeOwner, storePhase]
  split_ifs <;> exact zero_torqueless

theorem updateFailed_torqueless : Torqueless (s.updateFailed config now).controlWords := by
  intro axis
  simp only [updateFailed, setAllControlWords, targetFaults, answerAlreadyClear, clearFailure,
    publishReset, storeOwner, storePhase, startDownward]
  split_ifs <;> exact zero_torqueless

theorem updateReset_torqueless : Torqueless (s.updateReset config now).controlWords := by
  intro axis
  simp only [updateReset, setAllControlWords, publishReset, storeOwner, storePhase, clearFailure,
    recordFailure, startDownward]
  split_ifs <;> first
    | exact zero_torqueless
    | exact resetCommand_torqueless _ _

/-- A cycle that starts outside the powered phases clears Enable Operation on
every axis. -/
theorem update_torqueless (readings : Readings) (active : s.active = true)
    (started : s.phase ≠ .inactive) (unpowered : s.phase.isPowered = false) :
    Torqueless (s.update config now readings).controlWords := by
  rw [update, if_pos active, monitorFaults]
  have calm : monitoredFailure (s.refreshStatusWords readings).phase
      (s.refreshStatusWords readings).statusWords = none := by
    cases phase : s.phase <;>
      simp_all [refreshStatusWords, monitoredFailure, Phase.isPowered]
  rw [calm]
  cases phase : s.phase <;> simp only [dispatch, refreshStatusWords, phase]
  case inactive => exact absurd phase started
  case startupSanitizing | disabling | rollback | emergencyDisable =>
    exact updateDescent_torqueless config now _
  case idle => exact updateIdle_torqueless config now _
  case resetLow | resetHigh => exact updateReset_torqueless config now _
  case emergencyQuickStop => exact updateEmergencyQuickStop_torqueless config now _
  case failed => exact updateFailed_torqueless config now _
  all_goals simp [phase, Phase.isPowered, Phase.isEnabling] at unpowered

end Controller

/-! ## The way into the powered phases -/

/-- The history of enable admissions: whether an admitted enable call has not
been consumed yet. -/
def recordAdmission (s : System) (event : Event) (t : System) (fresh : Bool) : Bool :=
  match event with
  | .callEnable => admitsEnable s || fresh
  | _ => if s.phase.isPowered = false ∧ t.phase.isPowered = true then false else fresh

/-- No enable call is admitted. -/
def admitsNone : Guard System Event := fun s event =>
  match event with
  | .callEnable => !admitsEnable s
  | _ => true

/-- The powered phases are entered through a pending enable request only. -/
theorem powered_of_cycle {config : Config} {now : Int} {s t : Controller}
    (cycle : Cycle config now s t) (before : s.phase.isPowered = false)
    (after : t.phase.isPowered = true) :
    s.phase = .idle ∧ s.enableRequest = true ∧ t.enableRequest = false := by
  cases cycle with
  | acceptEnable _ idle requested => exact ⟨idle, requested, rfl⟩
  | monitor _ _ _ _ _ _ _ _ entered =>
      grind -linarith [Phase.isPowered]
  | _ => grind -linarith [Phase.isPowered]

/-- The words, the lifecycle, the pending request and its admission belong
together. -/
structure TorqueLaw (s : System) (fresh : Bool) : Prop where
  inactive : s.active = false → s.phase = .inactive ∧ Torqueless s.controlWords
  active : s.active = true → s.phase ≠ .inactive
  requested : s.enableRequest = true →
    fresh = true ∧ (s.active = true → s.phase = .idle)

section Moves

variable {config : Config} {s t : System} {late fresh : Bool} {event : Event}

theorem torqueLaw_update {now : Int} {readings : Readings} {t : Controller}
    (law : TorqueLaw s fresh) (active : s.active = true)
    (cycle : Cycle config now (s.toController.refreshStatusWords readings) t) :
    TorqueLaw { s with toController := t }
      (recordAdmission s (.update now readings) { s with toController := t } fresh) := by
  have kept : t.active = s.active := (Controller.untouched_of_cycle cycle).active
  obtain ⟨-, started, requested⟩ := law
  constructor
  · simp [kept, active]
  · intro _
    cases cycle with
    | monitor _ _ _ _ _ _ _ _ entered => grind -linarith
    | _ => grind -linarith
  · cases cycle with
    | monitor _ _ _ _ _ _ _ tripped =>
        have watched := phase_of_monitored tripped
        grind -linarith
    | _ =>
        grind -linarith [recordAdmission, Phase.isPowered]

/-- A step that keeps the request and stays on its side of the powered phases
keeps the law. -/
theorem TorqueLaw.frame (law : TorqueLaw s fresh) (event : Event)
    (active : t.active = s.active) (words : t.controlWords = s.controlWords)
    (request : t.enableRequest = s.enableRequest)
    (phase : t.phase = s.phase ∨ s.phase.isPowered = true ∧ t.phase.isPowered = true) :
    TorqueLaw t (recordAdmission s event t fresh) := by
  obtain ⟨inactive, started, requested⟩ := law
  have side : s.phase.isPowered = t.phase.isPowered := by
    rcases phase with same | ⟨before, after⟩
    · rw [same]
    · rw [before, after]
  constructor
  · intro stopped
    obtain ⟨resting, torqueless⟩ := inactive (active ▸ stopped)
    rcases phase with same | ⟨before, -⟩
    · exact ⟨same.trans resting, words ▸ torqueless⟩
    · simp [resting, Phase.isPowered, Phase.isEnabling] at before
  · intro running
    rcases phase with same | ⟨-, after⟩
    · rw [same]
      exact started (active ▸ running)
    · intro resting
      simp [resting, Phase.isPowered, Phase.isEnabling] at after
  · intro pending
    obtain ⟨admitted, idle⟩ := requested (request ▸ pending)
    constructor
    · cases event <;> simp [recordAdmission, admitted, side]
    · intro running
      have resting := idle (active ▸ running)
      rcases phase with same | ⟨before, -⟩
      · exact same.trans resting
      · simp [resting, Phase.isPowered, Phase.isEnabling] at before

theorem torqueLaw_enable (parked : Parked s) (law : TorqueLaw s fresh)
    (called : s.enablePc = .idle → event = .callEnable) (block : EnableBlock s late t) :
    TorqueLaw t (recordAdmission s event t fresh) := by
  cases block with
  | accept atIdle active running resting free =>
      cases called atIdle
      have unheld : s.enableCallbackActive = false := by simpa [atIdle] using parked.enableActive
      refine ⟨by simp [active], law.active, fun _ => ⟨?_, fun _ => resting⟩⟩
      simp [recordAdmission, admitsEnable, unheld, active, running, resting, free]
  | complete _ _ activating =>
      exact law.frame event rfl rfl rfl (Or.inr ⟨by simp [activating, Phase.isPowered], rfl⟩)
  | _ => exact law.frame event rfl rfl rfl (Or.inl rfl)

theorem torqueLaw_disable (law : TorqueLaw s fresh) (block : DisableBlock s late t) :
    TorqueLaw t (recordAdmission s event t fresh) := by
  cases block with
  | takeEnabled _ _ enabled =>
      exact law.frame event rfl rfl rfl (Or.inr ⟨by simp [enabled, Phase.isPowered], rfl⟩)
  | _ => exact law.frame event rfl rfl rfl (Or.inl rfl)

theorem torqueLaw_reset (law : TorqueLaw s fresh) (block : ResetBlock s late t) :
    TorqueLaw t (recordAdmission s event t fresh) := by
  cases block <;> exact law.frame event rfl rfl rfl (Or.inl rfl)

theorem torqueLaw_worker (law : TorqueLaw s fresh) (block : WorkerBlock s event t) :
    TorqueLaw t (recordAdmission s event t fresh) := by
  cases block <;> exact law.frame _ rfl rfl rfl (Or.inl rfl)

/-- Every block step keeps the law. -/
theorem torqueLaw_of_move (parked : Parked s) (law : TorqueLaw s fresh)
    (move : BlockMove config s event t) : TorqueLaw t (recordAdmission s event t fresh) := by
  cases move with
  | skip => exact law.frame _ rfl rfl rfl (Or.inl rfl)
  | update now readings t active cycle => exact torqueLaw_update law active cycle
  | callEnable t block => exact torqueLaw_enable parked law (fun _ => rfl) block
  | enable late t running block =>
      exact torqueLaw_enable parked law (fun atIdle => absurd atIdle running) block
  | callDisable t block => exact torqueLaw_disable law block
  | disable late t running block => exact torqueLaw_disable law block
  | callReset t block => exact torqueLaw_reset law block
  | reset late t running block => exact torqueLaw_reset law block
  | fireWorker t block | callWorker late t block | resumeWorker late t block
  | latchRestart t block => exact torqueLaw_worker law block
  | controllerManager => exact law.frame _ rfl rfl rfl (Or.inl rfl)
  | activate inactive => exact ⟨nofun, nofun, nofun⟩
  | deactivate active =>
      refine ⟨fun _ => ⟨rfl, fun axis => zero_torqueless⟩, nofun, ?_⟩
      intro pending
      obtain ⟨admitted, -⟩ := law.requested pending
      exact ⟨by simp [recordAdmission, Controller.onDeactivate, Phase.isPowered, Phase.isEnabling,
        admitted], nofun⟩

/-- A block step enters the powered phases only as a cycle that consumes the
request of a fresh enable. -/
theorem powered_of_move (law : TorqueLaw s fresh) (move : BlockMove config s event t)
    (before : s.phase.isPowered = false) (after : t.phase.isPowered = true) :
    (∃ now readings, event = .update now readings) ∧ s.phase = .idle ∧
      s.enableRequest = true ∧ t.enableRequest = false ∧ fresh = true := by
  cases phaseMove_of_move move with
  | same phase => simp [phase, before] at after
  | cycle now readings c update cycle target =>
      subst target
      obtain ⟨idle, requested, consumed⟩ := powered_of_cycle cycle before after
      exact ⟨⟨now, readings, update⟩, idle, requested, consumed, (law.requested requested).1⟩
  | enabled activating => simp [activating, Phase.isPowered] at before
  | deactivating enabled => simp [enabled, Phase.isPowered] at before
  | lifecycle ended =>
      rcases ended with ended | ended <;>
        simp [ended, Phase.isPowered, Phase.isEnabling] at after

/-- An enable request is raised by an admitted enable call only. -/
theorem request_of_move (parked : Parked s) (move : BlockMove config s event t)
    (after : t.enableRequest = true) :
    s.enableRequest = true ∨ event = .callEnable ∧ admitsEnable s = true := by
  have callback := parked.enableActive
  cases move with
  | update now readings t active cycle =>
      left
      cases enableFlow_of_cycle cycle with
      | accept _ _ _ request => cases request.symm.trans after
      | same _ request | outside _ _ _ request | advance _ _ request | ready _ _ request =>
          exact request.symm.trans after
  | callEnable t block => cases block <;> grind -linarith [admitsEnable]
  | enable late t running block => cases block <;> grind -linarith
  | callDisable t block => cases block <;> exact Or.inl after
  | disable late t running block => cases block <;> exact Or.inl after
  | callReset t block => cases block <;> exact Or.inl after
  | reset late t running block => cases block <;> exact Or.inl after
  | fireWorker t block | callWorker late t block | resumeWorker late t block
  | latchRestart t block => cases block <;> exact Or.inl after
  | skip | controllerManager | deactivate => exact Or.inl after
  | activate => cases after

/-- Every cycle that starts outside the powered phases leaves Enable Operation
clear. -/
theorem torqueless_of_update {now : Int} {readings : Readings} (law : TorqueLaw s fresh)
    (unpowered : s.phase.isPowered = false) :
    Torqueless (s.toController.update config now readings).controlWords := by
  by_cases active : s.active = true
  · exact s.toController.update_torqueless config now readings active (law.active active) unpowered
  · simp only [Bool.not_eq_true] at active
    rw [s.toController.update_inactive config now readings active]
    exact (law.inactive active).2

end Moves

/-! ## The result -/

/-- The group is off and stays off until an enable is admitted. -/
def StaysOff (s : System) : Prop :=
  (∃ fresh, TorqueLaw s fresh) ∧ s.phase.isPowered = false ∧ s.enableRequest = false

/-- Without an admission every block step keeps the group off. -/
theorem staysOff_of_move {config : Config} {s t : System} {event : Event} (parked : Parked s)
    (off : StaysOff s) (allowed : admitsNone s event = true)
    (move : BlockMove config s event t) : StaysOff t := by
  obtain ⟨⟨fresh, law⟩, unpowered, unrequested⟩ := off
  refine ⟨⟨_, torqueLaw_of_move parked law move⟩, ?_, ?_⟩
  · by_contra powered
    obtain ⟨-, -, requested, -⟩ := powered_of_move law move unpowered (by simpa using powered)
    simp [unrequested] at requested
  · by_contra requested
    rcases request_of_move parked move (by simpa using requested) with pending | ⟨rfl, admitted⟩
    · simp [unrequested] at pending
    · simp [admitsNone, admitted] at allowed

/-- In every run: a cycle that starts outside the powered phases leaves Enable
Operation clear on all axes; these phases are entered only by a cycle in idle
that consumes the request of an admitted enable which no earlier entry consumed;
outside idle an active controller has no such request pending; and from a state
outside these phases with none pending, no run without a new admission enters
them or commands Enable Operation. -/
theorem torque_needs_fresh_enable (config : Config) :
    ∀ s fresh,
      Reachable (observed (blockStep config) recordAdmission) (onState unguarded)
          (configured, false) (s, fresh) →
        (∀ t now readings, blockStep config s (.update now readings) = some t →
          s.phase.isPowered = false → Torqueless t.controlWords) ∧
        (∀ t event, blockStep config s event = some t →
          s.phase.isPowered = false → t.phase.isPowered = true →
            (∃ now readings, event = .update now readings) ∧ s.phase = .idle ∧
              s.enableRequest = true ∧ t.enableRequest = false ∧ fresh = true) ∧
        (s.active = true → s.phase ≠ .idle → s.enableRequest = false) ∧
        (s.phase.isPowered = false → s.enableRequest = false →
          ∀ u, Reachable (blockStep config) admitsNone s u →
            u.phase.isPowered = false ∧
              ∀ v now readings, blockStep config u (.update now readings) = some v →
                Torqueless v.controlWords) := by
  intro s fresh reachable
  have initial : TorqueLaw configured false :=
    ⟨fun _ => ⟨rfl, fun axis => zero_torqueless⟩, nofun, nofun⟩
  obtain ⟨parked, law⟩ : Parked s ∧ TorqueLaw s fresh := by
    refine observed_invariant TorqueLaw parked_configured initial ?_ reachable
    intro source target history event parked holds _ move
    exact torqueLaw_of_move parked holds move
  refine ⟨?_, ?_, ?_, ?_⟩
  · intro t now readings step unpowered
    cases step
    exact torqueless_of_update law unpowered
  · intro t event step before after
    exact powered_of_move law (blockMove_of_step parked step) before after
  · intro active busy
    by_contra requested
    exact busy ((law.requested (by simpa using requested)).2 active)
  · intro unpowered unrequested u later
    obtain ⟨-, ⟨_, lawLater⟩, unpoweredLater, -⟩ := block_invariant StaysOff parked
      ⟨⟨fresh, law⟩, unpowered, unrequested⟩
      (fun _ parked off allowed move => staysOff_of_move parked off allowed move) later
    refine ⟨unpoweredLater, ?_⟩
    intro v now readings step
    cases step
    exact torqueless_of_update lawLater unpoweredLater

/-- The request of an admitted enable is consumed by the next cycle in idle. -/
theorem torque_of_admitted_enable :
    ∃ s t fresh,
      Reachable (observed (blockStep defaultConfig) recordAdmission) (onState unguarded)
          (configured, false) (s, fresh) ∧
        blockStep defaultConfig s (.update 10000000000 (everyAxis 0x0040)) = some t ∧
        s.phase.isPowered = false ∧ t.phase.isPowered = true ∧ fresh = true ∧
        Torqueless t.controlWords := by
  have found : (run (observed (blockStep defaultConfig) recordAdmission) (onState unguarded)
      (configured, false) ([Event.activate] ++ startupCycles ++ [Event.callEnable])).any
      (fun observation => !observation.1.phase.isPowered &&
        (blockStep defaultConfig observation.1
          (.update 10000000000 (everyAxis 0x0040))).any fun t => t.phase.isPowered) =
        true := by
    rfl
  obtain ⟨⟨s, fresh⟩, reachable, starts⟩ := exists_reachable_of_run found
  rw [Bool.and_eq_true, Option.any_eq_true, Bool.not_eq_true'] at starts
  obtain ⟨before, t, step, after⟩ := starts
  obtain ⟨clear, enters, -⟩ := torque_needs_fresh_enable defaultConfig s fresh reachable
  obtain ⟨-, -, -, -, admitted⟩ := enters t _ step before after
  exact ⟨s, t, fresh, reachable, step, before, after, admitted, clear t _ _ step before⟩

end RtControl.EnableManager
