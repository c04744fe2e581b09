import RtControl.EnableManager.Interleaving
import RtControl.EnableManager.Words

/-!
# One reset edge

A reset writes one low cycle and then `0x0080` to every target that reports Fault.  The high
phase decides anew in every cycle, from the status word alone: a target that leaves Fault and
faults again, while another axis holds the operation open, is given a second edge.
-/

namespace RtControl.EnableManager

open RtControl.Transition

/-! ## Edges of a sequence -/

section Edges

variable {α : Type} [DecidableEq α] {low high : α}

/-- The number of direct changes from `low` to `high`. -/
def risingEdges (low high : α) : List α → Nat
  | first :: second :: rest =>
      (if first = low ∧ second = high then 1 else 0) + risingEdges low high (second :: rest)
  | _ => 0

/-- One more value adds an edge when it is high after a low one. -/
theorem risingEdges_append (values : List α) (value : α) :
    risingEdges low high (values ++ [value]) =
      risingEdges low high values +
        if values.getLast? = some low ∧ value = high then 1 else 0 := by
  induction values with
  | nil => rfl
  | cons first values ih =>
      cases values with
      | nil => simp [risingEdges]
      | cons second rest =>
          rw [List.cons_append, List.cons_append, risingEdges, ← List.cons_append, ih, risingEdges,
            List.getLast?_cons_cons, Nat.add_assoc]

theorem risingEdges_eq_zero {values : List α} (absent : high ∉ values) :
    risingEdges low high values = 0 := by
  induction values with
  | nil => rfl
  | cons first values ih =>
      cases values with
      | nil => rfl
      | cons second rest =>
          rw [List.mem_cons, not_or] at absent
          have other : ¬(first = low ∧ second = high) := fun both =>
            absent.2 (both.2 ▸ List.mem_cons_self)
          rw [risingEdges, if_neg other, ih absent.2]

/-- A sequence of two values that starts low and comes to be high has an edge. -/
theorem one_le_risingEdges {values : List α} (binary : ∀ value ∈ values, value = low ∨ value = high)
    (distinct : low ≠ high) (started : values.head? = some low) (raised : high ∈ values) :
    1 ≤ risingEdges low high values := by
  induction values with
  | nil => contradiction
  | cons first values ih =>
      cases Option.some.inj started
      have later : high ∈ values := (List.mem_cons.mp raised).resolve_left distinct.symm
      cases values with
      | nil => contradiction
      | cons second rest =>
          rw [risingEdges]
          rcases binary second (List.mem_cons_of_mem _ List.mem_cons_self) with second_low | second_high
          · subst second_low
            have edges := ih (fun value inside => binary value (List.mem_cons_of_mem _ inside)) rfl later
            omega
          · rw [if_pos ⟨rfl, second_high⟩]
            omega

end Edges

/-! ## The property and its condition -/

/-- The status words and the control words of the cycles of a reset operation, oldest first. -/
abbrev ResetLog :=
  List (Words × Words)

/-- The control words written to an axis. -/
def ResetLog.written (log : ResetLog) (axis : Axis) : List UInt16 :=
  log.map fun cycle => cycle.2 axis

/-- The cycle that enters `kResetLow` starts an operation, and the cycles that find it running
belong to it. -/
def recordReset (s : System) (event : Event) (t : System) (log : ResetLog) : ResetLog :=
  match event with
  | .update _ readings =>
      if !s.active then log
      else if t.phase = .resetLow then [(refreshedWords readings, t.controlWords)]
      else if s.phase.isReset then log ++ [(refreshedWords readings, t.controlWords)]
      else log
  | _ => log

/-- What a reset writes apart from the number of its edges. -/
structure ResetPulse (log : ResetLog) : Prop where
  words : ∀ axis, ∀ word ∈ log.written axis, word = 0x0000 ∨ word = 0x0080
  low : ∀ axis, ∀ word ∈ (log.written axis).head?, word = 0x0000
  targeted : ∀ cycle ∈ log, ∀ axis, cycle.2 axis = 0x0080 →
    decodeState (cycle.1 axis) = .fault ∧
      ∀ first ∈ log.head?, isFaultState (decodeState (first.1 axis)) = true

/-- Every axis is given at most one edge. -/
structure OneEdge (log : ResetLog) : Prop extends ResetPulse log where
  edges : ∀ axis, risingEdges 0x0000 0x0080 (log.written axis) ≤ 1

/-- The axis was given its edge and has been released since. -/
def edgeSpent (log : ResetLog) (axis : Axis) : Bool :=
  0x0080 ∈ log.written axis && (log.written axis).getLast? = some 0x0000

/-- The cycle raises the reset bit wherever a target reports Fault. -/
def raisesReset (now : Int) (s : Controller) : Bool :=
  s.active && s.phase = .resetHigh && !s.disableRequest && now < s.stageDeadlineNs

/-- No cycle that raises the reset bit sees a target in Fault again after its edge. -/
def unrepeated : Guard (System × ResetLog) Event := fun observation event =>
  match event with
  | .update now readings =>
      !(raisesReset now observation.1.toController && axes.any fun axis =>
        observation.1.resetTargets axis && decodeState (refreshedWords readings axis) = .fault &&
          edgeSpent observation.2 axis)
  | _ => true

/-- Every reset operation of every run gives each axis at most one edge. -/
def OneEdgeLaw (config : Config) (guard : Guard (System × ResetLog) Event) : Prop :=
  ∀ s log, Reachable (observed (atomicStep config) recordReset) guard (configured, []) (s, log) →
    OneEdge log

/-! ## What a cycle writes -/

namespace Controller

variable {config : Config} {now : Int} {s t : Controller} {readings : Readings}

/-- A finished scan leaves no axis in Fault. -/
theorem resetCommand_of_allReset (done : (resetScan s.resetTargets s.statusWords).allReset = true)
    (axis : Axis) :
    resetCommand (s.resetTargets axis) (decodeState (s.statusWords axis)) = 0x0000 := by
  have terminal := (allTerminal_iff _).mp (allTerminal_of_allReset done) axis
  have calm := isFaultState_of_isConfirmedDisableTerminal terminal
  have other : decodeState (s.statusWords axis) ≠ .fault := by
    intro fault
    rw [fault] at calm
    contradiction
  rw [resetCommand, decide_eq_false other, Bool.and_false]
  rfl

/-- A reset cycle writes the reset bit only while it raises it. -/
theorem updateReset_word (axis : Axis) :
    (s.updateReset config now).controlWords axis =
      if s.phase ≠ .resetLow ∧ s.disableRequest = false ∧ now < s.stageDeadlineNs then
        resetCommand (s.resetTargets axis) (decodeState (s.statusWords axis))
      else 0x0000 := by
  rw [updateReset]
  by_cases requested : s.disableRequest = true
  · rw [if_pos requested, if_neg (by simp [requested])]
    rfl
  · rw [if_neg requested]
    by_cases low : s.phase = .resetLow
    · rw [if_pos low, if_neg (by simp [low])]
      rfl
    · rw [if_neg low]
      have unrequested : s.disableRequest = false := Bool.eq_false_of_not_eq_true requested
      by_cases done : (resetScan s.resetTargets s.statusWords).allReset = true
      · simp only [done, if_true, resetCommand_of_allReset done, ite_self]
        rfl
      · by_cases late : s.stageDeadlineNs ≤ now
        · simp only [done, Bool.false_eq_true, if_false, late, if_true, not_lt.mpr late, and_false]
          rfl
        · simp only [done, Bool.false_eq_true, late, low, unrequested, Int.not_le.mp late, ne_eq,
            not_false_eq_true, and_self, if_false, if_true]

/-- A cycle as the reset operation sees it. -/
inductive ResetFlow (s t : Controller) : Prop
  /-- No operation runs after the cycle. -/
  | stop
      (after : t.phase.isReset = false)
  /-- The faulted axes become the targets of an operation. -/
  | start
      (before : s.phase.isReset = false)
      (after : t.phase = .resetLow)
      (words : t.controlWords = fun _ => 0x0000)
      (targets : t.resetTargets = fun axis => isFaultState (decodeState (s.statusWords axis)))
  /-- An operation goes on. -/
  | stay
      (before : s.phase.isReset = true)
      (after : t.phase = .resetHigh)
      (targets : t.resetTargets = s.resetTargets)

theorem finishDownward_isReset (downward : s.phase.isDownward = true) :
    s.finishDownward.phase.isReset = false := by
  rcases s.finishDownward_phase downward with idle | failed
  · rw [idle]
    rfl
  · rw [failed]
    rfl

theorem resetFlow_of_kept (before : s.phase.isReset = false) (same : t.phase = s.phase) :
    ResetFlow s t :=
  .stop (same ▸ before)

theorem resetFlow_of_outcome (outcome : Outcome config now s t) : ResetFlow s t := by
  have stopping (u : Controller) (phase : u.phase.isEmergency = true) :
      (u.updateEmergencyQuickStop config now).phase.isReset = false := by
    simp only [updateEmergencyQuickStop]
    split_ifs
    · rfl
    · revert phase
      cases u.phase <;> decide
  have outside (phase : s.phase.isDownward = true) : s.phase.isReset = false := by
    revert phase
    cases s.phase <;> decide
  have held (phase : s.phase.isHeld = true) : s.phase.isReset = false := by
    revert phase
    cases s.phase <;> decide
  cases outcome with
  | monitored axis stage => exact .stop (stopping _ rfl)
  | inactive stopped => exact resetFlow_of_kept (by rw [stopped]; rfl) rfl
  | descentDone downward => exact .stop (finishDownward_isReset downward)
  | descentAdvance downward | descentHold downward =>
      exact resetFlow_of_kept (outside downward) rfl
  | emergencyExpire descending =>
      refine .stop (finishDownward_isReset ?_)
      rw [recordStageTimeout_phase]
      exact congrArg Phase.isDownward descending
  | quickStop stops => exact .stop (stopping _ (by rw [stops]; rfl))
  | idleStartReset idle => exact .start (by rw [idle]; rfl) rfl rfl rfl
  | failedStartReset failed => exact .start (by rw [failed]; rfl) rfl rfl rfl
  | idleAlreadyClear idle | idleAlreadyDisabled idle | idleHold idle =>
      exact resetFlow_of_kept (by rw [idle]; rfl) rfl
  | delayHold delaying => exact resetFlow_of_kept (by rw [delaying]; rfl) rfl
  | batchHold enabling => exact resetFlow_of_kept (by rw [enabling]; rfl) rfl
  | activatingHold activating => exact resetFlow_of_kept (by rw [activating]; rfl) rfl
  | heldHold phase => exact resetFlow_of_kept (held phase) rfl
  | failedHold failed => exact resetFlow_of_kept (by rw [failed]; rfl) rfl
  | raiseReset resetting => exact .stay (by rw [resetting]; rfl) rfl rfl
  | resetHold resetting => exact .stay (by rw [resetting]; rfl) resetting rfl
  | _ => exact .stop rfl

/-- A cycle of a reset operation is not monitored. -/
theorem update_of_isReset (active : s.active = true) (resetting : s.phase.isReset = true) :
    s.update config now readings = (s.refreshStatusWords readings).updateReset config now := by
  have calm : monitoredFailure s.phase (refreshedWords readings) = none := by
    apply monitoredFailure_of_unmonitored
    cases phase : s.phase <;> simp_all [Phase.isReset]
  rw [s.update_of_unmonitored config now active calm]
  cases phase : s.phase <;> simp_all [Phase.isReset, dispatch, refreshStatusWords]

/-- What a cycle of a reset operation writes to an axis. -/
theorem update_word_of_isReset (active : s.active = true) (resetting : s.phase.isReset = true)
    (axis : Axis) :
    (s.update config now readings).controlWords axis =
      if raisesReset now s then
        resetCommand (s.resetTargets axis) (decodeState (refreshedWords readings axis))
      else 0x0000 := by
  have raises : raisesReset now s = true ↔
      s.phase ≠ .resetLow ∧ s.disableRequest = false ∧ now < s.stageDeadlineNs := by
    rw [raisesReset, active]
    revert resetting
    cases s.phase <;> simp [Phase.isReset]
  simp only [raises]
  rw [update_of_isReset active resetting]
  exact updateReset_word axis

end Controller

/-! ## One more cycle -/

section Cycles

variable {log : ResetLog} {cycle first : Words × Words}

theorem written_append (axis : Axis) :
    ResetLog.written (log ++ [cycle]) axis = log.written axis ++ [cycle.2 axis] := by
  rw [ResetLog.written, List.map_append]
  rfl

/-- The cycle writes `0x0080` only to faulted axes that were faulted at the start. -/
def Pulses (first cycle : Words × Words) : Prop :=
  ∀ axis, cycle.2 axis = 0x0000 ∨ cycle.2 axis = 0x0080 ∧ decodeState (cycle.1 axis) = .fault ∧
    isFaultState (decodeState (first.1 axis)) = true

theorem resetPulse_append (pulse : ResetPulse log) (started : log.head? = some first)
    (pulses : Pulses first cycle) : ResetPulse (log ++ [cycle]) := by
  have head : (log ++ [cycle]).head? = some first := by
    rw [List.head?_append, started]
    rfl
  refine ⟨?_, ?_, ?_⟩
  · intro axis word inside
    rw [written_append, List.mem_append, List.mem_singleton] at inside
    rcases inside with earlier | last
    · exact pulse.words axis word earlier
    · rw [last]
      exact (pulses axis).imp_right And.left
  · intro axis word inside
    refine pulse.low axis word ?_
    rw [ResetLog.written, List.head?_map, head] at inside
    rw [ResetLog.written, List.head?_map, started]
    exact inside
  · intro seen inside axis raised
    rw [head]
    rw [List.mem_append, List.mem_singleton] at inside
    rcases inside with earlier | last
    · have targeted := pulse.targeted seen earlier axis raised
      rw [started] at targeted
      exact targeted
    · subst last
      rcases pulses axis with zero | ⟨-, fault, target⟩
      · rw [zero] at raised
        contradiction
      · exact ⟨fault, fun _ same => Option.some.inj same ▸ target⟩

/-- One more cycle keeps the law exactly if it gives no axis a second edge. -/
theorem oneEdge_append_iff (law : OneEdge log) (started : log.head? = some first)
    (pulses : Pulses first cycle) :
    OneEdge (log ++ [cycle]) ↔
      ∀ axis, edgeSpent log axis = true → cycle.2 axis ≠ 0x0080 := by
  constructor
  · intro extended axis spent raised
    rw [edgeSpent, Bool.and_eq_true, decide_eq_true_eq, decide_eq_true_eq] at spent
    have counted := extended.edges axis
    rw [written_append, risingEdges_append, if_pos ⟨spent.2, raised⟩] at counted
    have low : (log.written axis).head? = some 0x0000 := by
      have zero := law.low axis
      rw [ResetLog.written, List.head?_map, started] at zero ⊢
      exact congrArg some (zero _ rfl)
    have edges := one_le_risingEdges (law.words axis) (by decide) low spent.1
    omega
  · intro single
    refine ⟨resetPulse_append law.toResetPulse started pulses, fun axis => ?_⟩
    have counted := law.edges axis
    rw [written_append, risingEdges_append]
    split_ifs with rises
    · have absent : (0x0080 : UInt16) ∉ log.written axis := fun present =>
        single axis (by simp [edgeSpent, present, rises.1]) rises.2
      rw [risingEdges_eq_zero absent]
    · exact counted

/-- The cycle that enters `kResetLow` writes nothing else than zero. -/
theorem oneEdge_start (words : Words) : OneEdge [(words, fun _ => 0x0000)] := by
  refine ⟨⟨?_, ?_, ?_⟩, fun _ => Nat.zero_le 1⟩
  · intro axis word inside
    exact .inl (List.mem_singleton.mp inside)
  · intro axis word inside
    exact (Option.some.inj inside).symm
  · intro cycle inside axis raised
    rw [List.mem_singleton.mp inside] at raised
    exact absurd raised (show (0x0000 : UInt16) ≠ 0x0080 by decide)

theorem oneEdge_nil : OneEdge [] :=
  ⟨⟨nofun, nofun, nofun⟩, fun _ => Nat.zero_le 1⟩

end Cycles

/-! ## Runs -/

/-- What holds of a reset operation and its history between two steps. -/
structure ResetKept (s : System) (log : ResetLog) : Prop where
  pulse : ResetPulse log
  targets : s.phase.isReset = true →
    ∃ first, log.head? = some first ∧
      ∀ axis, s.resetTargets axis = isFaultState (decodeState (first.1 axis))

section Runs

variable {config : Config} {s t : System} {event : Event} {log : ResetLog} {now : Int}
  {readings : Readings}

/-- A cycle of a running operation writes `0x0080` to the faulted targets at most. -/
theorem pulses_of_update (active : s.active = true) (resetting : s.phase.isReset = true)
    {first : Words × Words}
    (targets : ∀ axis, s.resetTargets axis = isFaultState (decodeState (first.1 axis))) :
    Pulses first
      (refreshedWords readings, (s.toController.update config now readings).controlWords) := by
  intro axis
  simp only [Controller.update_word_of_isReset active resetting]
  split_ifs
  · rw [resetCommand]
    split_ifs with raised
    · rw [Bool.and_eq_true, decide_eq_true_eq, targets] at raised
      exact .inr ⟨rfl, raised.2, raised.1⟩
    · exact .inl rfl
  · exact .inl rfl

theorem resetKept_update (law : ResetKept s log) (active : s.active = true) :
    ResetKept { s with toController := s.toController.update config now readings }
      (recordReset s (.update now readings)
        { s with toController := s.toController.update config now readings } log) := by
  have flow : Controller.ResetFlow (s.toController.refreshStatusWords readings)
      (s.toController.update config now readings) :=
    Controller.resetFlow_of_outcome (s.toController.update_outcome config now readings active)
  simp only [recordReset, active, Bool.not_true, Bool.false_eq_true, if_false]
  cases flow with
  | stop after =>
      have other : (s.toController.update config now readings).phase ≠ .resetLow := by
        intro low
        rw [low] at after
        contradiction
      have stopped (running : (s.toController.update config now readings).phase.isReset = true) :
          False := Bool.false_ne_true (after.symm.trans running)
      rw [if_neg other]
      split_ifs with resetting
      · obtain ⟨first, started, targets⟩ := law.targets resetting
        exact ⟨resetPulse_append law.pulse started (pulses_of_update active resetting targets),
          fun running => (stopped running).elim⟩
      · exact ⟨law.pulse, fun running => (stopped running).elim⟩
  | start before after words targets =>
      rw [if_pos after]
      refine ⟨?_, fun _ => ⟨_, rfl, fun axis => congrFun targets axis⟩⟩
      rw [words]
      exact (oneEdge_start _).toResetPulse
  | stay before after targets =>
      have resetting : s.phase.isReset = true := before
      obtain ⟨first, started, faulted⟩ := law.targets resetting
      rw [if_neg (by rw [after]; nofun), if_pos resetting]
      refine ⟨resetPulse_append law.pulse started (pulses_of_update active resetting faulted),
        fun _ => ⟨first, ?_, fun axis => (congrFun targets axis).trans (faulted axis)⟩⟩
      rw [List.head?_append, started]
      rfl

/-- Every step keeps the history lawful, apart from the number of edges. -/
theorem resetKept_of_step (law : ResetKept s log) (step : atomicStep config s event = some t) :
    ResetKept t (recordReset s event t log) := by
  have callback (logged : recordReset s event t log = log) (session : event.isLifecycle = false)
      (other : ∀ now readings, event ≠ .update now readings) :
      ResetKept t (recordReset s event t log) := by
    rw [logged]
    refine ⟨law.pulse, fun resetting => ?_⟩
    have running : s.phase.isReset = true := by
      rcases phase_of_callback step session other with same | held
      · exact same ▸ resetting
      · revert resetting held
        cases t.phase <;> simp [Phase.isReset, Phase.isHeld]
    obtain ⟨first, started, targets⟩ := law.targets running
    rw [(cycleFrame_of_callback step session other).resetTargets]
    exact ⟨first, started, targets⟩
  cases event with
  | update now readings =>
      cases step
      by_cases active : s.active = true
      · exact resetKept_update law active
      · rw [Bool.not_eq_true] at active
        simp only [recordReset, active, Bool.not_false, if_true]
        rw [s.toController.update_inactive config now readings active]
        exact law
  | activate =>
      rw [atomicStep, Option.ite_none_left_eq_some] at step
      obtain ⟨-, same⟩ := step
      cases same
      exact ⟨law.pulse, fun resetting => absurd resetting Bool.false_ne_true⟩
  | deactivate =>
      rw [atomicStep, Option.ite_none_right_eq_some] at step
      obtain ⟨-, same⟩ := step
      cases same
      exact ⟨law.pulse, fun resetting => absurd resetting Bool.false_ne_true⟩
  | _ => exact callback rfl rfl fun _ _ same => by cases same

/-- A cycle of a running operation raises the reset bit on the targets in Fault. -/
theorem update_raises_iff (active : s.active = true) (resetting : s.phase.isReset = true)
    (axis : Axis) :
    (s.toController.update config now readings).controlWords axis = 0x0080 ↔
      raisesReset now s.toController = true ∧ s.resetTargets axis = true ∧
        decodeState (refreshedWords readings axis) = .fault := by
  have zero : (0x0000 : UInt16) ≠ 0x0080 := by decide
  rw [Controller.update_word_of_isReset active resetting]
  by_cases raises : raisesReset now s.toController = true
  · simp [raises, resetCommand]
  · simp [raises, zero]

/-- The condition, axis by axis. -/
theorem unrepeated_iff :
    unrepeated (s, log) (.update now readings) = true ↔
      ∀ axis, edgeSpent log axis = true →
        ¬(raisesReset now s.toController = true ∧ s.resetTargets axis = true ∧
          decodeState (refreshedWords readings axis) = .fault) := by
  simp only [unrepeated, Bool.not_eq_true', Bool.and_eq_false_imp, List.any_eq_false,
    Bool.and_eq_true, decide_eq_true_eq]
  constructor
  · rintro none axis spent ⟨raises, target, fault⟩
    exact none raises axis (mem_axes axis) ⟨⟨target, fault⟩, spent⟩
  · rintro none raises axis - ⟨⟨target, fault⟩, spent⟩
    exact none axis spent ⟨raises, target, fault⟩

theorem not_raisesReset (outside : ¬(s.active = true ∧ s.phase.isReset = true)) :
    raisesReset now s.toController = false := by
  by_contra raises
  simp only [raisesReset, Bool.not_eq_false, Bool.and_eq_true, decide_eq_true_eq] at raises
  refine outside ⟨raises.1.1.1, ?_⟩
  rw [raises.1.1.2]
  rfl

/-- A cycle from a lawful history keeps the law exactly if it meets the condition. -/
theorem oneEdge_update_iff (law : ResetKept s log) (one : OneEdge log) :
    OneEdge (recordReset s (.update now readings)
        { s with toController := s.toController.update config now readings } log) ↔
      unrepeated (s, log) (.update now readings) = true := by
  rw [unrepeated_iff]
  by_cases running : s.active = true ∧ s.phase.isReset = true
  · obtain ⟨active, resetting⟩ := running
    obtain ⟨first, started, targets⟩ := law.targets resetting
    have other : (s.toController.update config now readings).phase ≠ .resetLow := by
      intro low
      have flow : Controller.ResetFlow (s.toController.refreshStatusWords readings)
          (s.toController.update config now readings) :=
        Controller.resetFlow_of_outcome (s.toController.update_outcome config now readings active)
      cases flow with
      | stop after =>
          rw [low] at after
          contradiction
      | start before => exact Bool.false_ne_true (before.symm.trans resetting)
      | stay _ after => cases low.symm.trans after
    simp only [recordReset, active, Bool.not_true, Bool.false_eq_true, if_false, if_neg other,
      if_pos resetting]
    rw [oneEdge_append_iff one started (pulses_of_update active resetting targets)]
    simp only [ne_eq, update_raises_iff active resetting]
  · have calm : raisesReset now s.toController = false := not_raisesReset running
    refine iff_of_true ?_ fun axis _ raised => Bool.false_ne_true (calm.symm.trans raised.1)
    by_cases active : s.active = true
    · have flow : Controller.ResetFlow (s.toController.refreshStatusWords readings)
          (s.toController.update config now readings) :=
        Controller.resetFlow_of_outcome (s.toController.update_outcome config now readings active)
      have outside : ¬s.phase.isReset = true := fun resetting => running ⟨active, resetting⟩
      simp only [recordReset, active, Bool.not_true, Bool.false_eq_true, if_false, if_neg outside]
      split_ifs with low
      · cases flow with
        | start _ _ words =>
            rw [words]
            exact oneEdge_start _
        | stop after =>
            rw [low] at after
            contradiction
        | stay before => exact absurd before outside
      · exact one
    · simp only [recordReset, active, Bool.not_false, if_true]
      exact one

/-- A step from a lawful history keeps the law exactly if it meets the condition. -/
theorem oneEdge_step_iff (law : ResetKept s log) (one : OneEdge log)
    (step : atomicStep config s event = some t) :
    OneEdge (recordReset s event t log) ↔ unrepeated (s, log) event = true := by
  cases event with
  | update now readings =>
      cases step
      exact oneEdge_update_iff law one
  | _ => exact iff_of_true one rfl

theorem resetKept_of_reachable {guard : Guard (System × ResetLog) Event}
    (reachable : Reachable (observed (atomicStep config) recordReset) guard (configured, [])
      (s, log)) : ResetKept s log := by
  have initial : ResetKept configured [] := ⟨oneEdge_nil.toResetPulse, nofun⟩
  refine reachable.invariant (fun current => ResetKept current.1 current.2) initial ?_
  rintro ⟨source, before⟩ ⟨target, after⟩ event law allowed step
  obtain ⟨moves, recorded⟩ := observed_eq_some_iff.mp step
  have kept := resetKept_of_step law moves
  rw [← recorded] at kept
  exact kept

theorem oneEdge_of_reachable
    (reachable : Reachable (observed (atomicStep config) recordReset) unrepeated (configured, [])
      (s, log)) : ResetKept s log ∧ OneEdge log := by
  have initial : ResetKept configured [] := ⟨oneEdge_nil.toResetPulse, nofun⟩
  refine reachable.invariant (fun current => ResetKept current.1 current.2 ∧ OneEdge current.2)
    ⟨initial, oneEdge_nil⟩ ?_
  rintro ⟨source, before⟩ ⟨target, after⟩ event ⟨law, one⟩ allowed step
  obtain ⟨moves, recorded⟩ := observed_eq_some_iff.mp step
  have kept := And.intro (resetKept_of_step law moves) ((oneEdge_step_iff law one moves).mpr allowed)
  rw [← recorded] at kept
  exact kept

end Runs

/-! ## The result -/

/-- In every run in which no target faults again after its edge, every reset operation gives each
axis at most one edge.  The rest of the law holds in every run, and a step from a lawful history
keeps the law exactly if it meets the condition. -/
theorem oneEdgeLaw_of_unrepeated (config : Config) :
    OneEdgeLaw config unrepeated ∧
      ∀ s log, Reachable (observed (atomicStep config) recordReset) (onState unguarded)
          (configured, []) (s, log) →
        ResetPulse log ∧ ∀ t event, OneEdge log → atomicStep config s event = some t →
          (OneEdge (recordReset s event t log) ↔ unrepeated (s, log) event = true) := by
  constructor
  · intro s log reachable
    exact (oneEdge_of_reachable reachable).2
  · intro s log reachable
    have law := resetKept_of_reachable reachable
    exact ⟨law.pulse, fun t event one step => oneEdge_step_iff law one step⟩

/-- A reset of the first axis, up to its edge. -/
def firstEdge : List Event :=
  [Event.activate] ++ startupCycles ++ [Event.callReset] ++ List.replicate 8 (Event.reset false) ++
    [Event.update 10000000000 (firstFaulted 0x0040), .update 11000000000 (firstFaulted 0x0040),
      .update 12000000000 (firstFaulted 0x0040)]

/-- An axis that leaves Fault after its edge is given one. -/
theorem oneEdgeLaw_of_clearedAxis :
    ∃ s log, Reachable (observed (atomicStep defaultConfig) recordReset) unrepeated
        (configured, []) (s, log) ∧
      log.written 0 = [0x0000, 0x0000, 0x0080, 0x0000] ∧ OneEdge log := by
  have found : (run (observed (atomicStep defaultConfig) recordReset) unrepeated (configured, [])
      (firstEdge ++ cycles 0x0040 [13])).any (fun observation =>
        observation.2.written 0 = [0x0000, 0x0000, 0x0080, 0x0000]) = true := by
    decide +kernel
  rcases exists_reachable_of_run found with ⟨⟨s, log⟩, reachable, tested⟩
  exact ⟨s, log, reachable, of_decide_eq_true tested,
    (oneEdgeLaw_of_unrepeated defaultConfig).1 s log reachable⟩

/-- An axis that leaves Fault for Not Ready to Switch On and faults again is given a second edge
within the operation. -/
theorem not_oneEdgeLaw_of_faultingAgain : ¬OneEdgeLaw defaultConfig (onState unguarded) := by
  intro always
  have found : (run (observed (atomicStep defaultConfig) recordReset) (onState unguarded)
      (configured, []) (firstEdge ++ cycles 0x0000 [13] ++
        [Event.update 14000000000 (firstFaulted 0x0040)])).any
      (fun observation => risingEdges 0x0000 0x0080 (observation.2.written 0) = 2) = true := by
    decide +kernel
  rcases exists_reachable_of_run found with ⟨⟨s, log⟩, reachable, tested⟩
  have counted := (always s log reachable).edges 0
  rw [of_decide_eq_true tested] at counted
  exact absurd counted (by decide)

end RtControl.EnableManager
