import RtControl.EnableManager.Outcome
import RtControl.EnableManager.Scan

/-!
# Ordered batches

An enable session runs its five batches in order.  The batch counter steps from
`b` to `b + 1` only after a cycle in which every axis of the batches up to `b` was
in Operation Enabled and none was faulted, and the group is handed to the JTC only
by a cycle that sees all fourteen axes there.
-/

namespace RtControl.EnableManager

open RtControl.Transition

/-- The history of the running enable session: the values its batch counter has
taken, and the batches confirmed by one of its cycles. -/
structure BatchLog where
  visited : List Nat := []
  confirmed : List Nat := []

/-- The cycle saw every axis of the batches up to the current one in Operation
Enabled and no faulted axis. -/
def confirmsBatch (s : System) (words : Words) : Bool :=
  s.phase = .enabling && batchesEnabled s.currentBatch words && !anyFault words

/-- Record the batch counter and the confirmed batches.  A cycle that leaves idle
for the first batch opens a new session. -/
def recordBatch (s : System) (event : Event) (t : System) (log : BatchLog) : BatchLog :=
  match event with
  | .update _ readings =>
      if s.phase = .idle ∧ t.phase = .enabling then
        { visited := [t.currentBatch] }
      else
        { visited :=
            if t.currentBatch = s.currentBatch then log.visited
            else log.visited ++ [t.currentBatch]
          confirmed :=
            if confirmsBatch s (refreshedWords readings) then log.confirmed ++ [s.currentBatch]
            else log.confirmed }
  | _ => log

/-! ## What a cycle does to the batches -/

/-- A cycle as the batch counter sees it. -/
inductive BatchFlow (s t : Controller) : Prop
  /-- The cycle ends outside the batchwise enable. -/
  | outside
      (after : t.phase.isEnabling = false)
      (batch : t.currentBatch = s.currentBatch)
      (activating : t.phase = .jtcActivating → s.phase = .jtcActivating)
      (hardware : t.enableHardwareReady = s.enableHardwareReady)
  /-- A requested enable starts its first batch. -/
  | accept
      (idle : s.phase = .idle)
      (after : t.phase = .enabling)
      (batch : t.currentBatch = 0)
      (hardware : t.enableHardwareReady = false)
  /-- The batch or the delay goes on. -/
  | hold
      (before : s.phase.isEnabling = true)
      (after : t.phase = s.phase)
      (batch : t.currentBatch = s.currentBatch)
      (hardware : t.enableHardwareReady = s.enableHardwareReady)
  /-- The delay is over. -/
  | next
      (delaying : s.phase = .interBatchDelay)
      (after : t.phase = .enabling)
      (batch : t.currentBatch = s.currentBatch + 1)
      (hardware : t.enableHardwareReady = s.enableHardwareReady)
  /-- A batch other than the last is complete. -/
  | complete
      (enabling : s.phase = .enabling)
      (after : t.phase = .interBatchDelay)
      (batch : t.currentBatch = s.currentBatch)
      (more : s.currentBatch + 1 ≠ batchCount)
      (healthy : anyFault s.statusWords = false)
      (valid : (enableScan s.currentBatch s.statusWords).invalidAxis < 0)
      (finished : (enableScan s.currentBatch s.statusWords).batchComplete = true)
      (hardware : t.enableHardwareReady = s.enableHardwareReady)
  /-- The last batch is complete. -/
  | ready
      (enabling : s.phase = .enabling)
      (after : t.phase = .jtcActivating)
      (batch : t.currentBatch = s.currentBatch)
      (last : s.currentBatch + 1 = batchCount)
      (valid : (enableScan s.currentBatch s.statusWords).invalidAxis < 0)
      (finished : (enableScan s.currentBatch s.statusWords).batchComplete = true)
      (hardware : t.enableHardwareReady = true)

theorem Phase.not_isEnabling_of_isHeld {phase : Phase} (held : phase.isHeld = true) :
    phase.isEnabling = false ∧ phase ≠ .jtcActivating := by
  cases phase <;> simp_all [isHeld, isEnabling]

namespace Controller

variable {config : Config} {now : Int} {s : Controller}

@[simp]
theorem recordEnableFailure_currentBatch (stage : Stage) (joint : Int) :
    (s.recordEnableFailure stage joint).currentBatch = s.currentBatch := rfl

@[simp]
theorem recordEnableFailure_enableHardwareReady (stage : Stage) (joint : Int) :
    (s.recordEnableFailure stage joint).enableHardwareReady = s.enableHardwareReady := rfl

@[simp]
theorem preemptFailedEnable_currentBatch :
    s.preemptFailedEnable.currentBatch = s.currentBatch := rfl

@[simp]
theorem preemptFailedEnable_enableHardwareReady :
    s.preemptFailedEnable.enableHardwareReady = s.enableHardwareReady := rfl

@[simp]
theorem batchScanned_currentBatch : s.batchScanned.currentBatch = s.currentBatch := rfl

@[simp]
theorem batchScanned_enableHardwareReady :
    s.batchScanned.enableHardwareReady = s.enableHardwareReady := rfl

/-- A descent that ends the enable leaves the batches alone. -/
theorem batchFlow_startDownward {t : Controller} {phase : Phase}
    (descending : phase = .rollback ∨ phase = .disabling)
    (batch : t.currentBatch = s.currentBatch)
    (hardware : t.enableHardwareReady = s.enableHardwareReady) :
    BatchFlow s (t.startDownward config now phase) := by
  rcases descending with rollback | disabling
  · subst rollback
    exact .outside rfl batch (by intro after; cases after) hardware
  · subst disabling
    exact .outside rfl batch (by intro after; cases after) hardware

/-- A finished descent leaves the batches alone. -/
theorem batchFlow_finish {t : Controller} (downward : t.phase.isDownward = true)
    (batch : t.currentBatch = s.currentBatch)
    (hardware : t.enableHardwareReady = s.enableHardwareReady) :
    BatchFlow s t.finishDownward := by
  have rests := t.finishDownward_phase downward
  rcases t.finishDownward_eq with ⟨_, _, _, phase, _, finished⟩
  rw [finished] at rests ⊢
  rcases rests with rests | rests
  · have idle : phase = .idle := rests
    subst idle
    exact .outside rfl batch (by intro after; cases after) hardware
  · have failed : phase = .failed := rests
    subst failed
    exact .outside rfl batch (by intro after; cases after) hardware

/-- The quick stop leaves the batches alone. -/
theorem batchFlow_quickStop {t : Controller} (stopping : t.phase = .emergencyQuickStop)
    (batch : t.currentBatch = s.currentBatch)
    (hardware : t.enableHardwareReady = s.enableHardwareReady) :
    BatchFlow s (t.updateEmergencyQuickStop config now) := by
  rcases updateEmergencyQuickStop_eq config now t stopping with
    ⟨_, phase, _, _, emergency, stopped⟩
  rw [stopped]
  obtain ⟨enabling, activating, -⟩ := Phase.outside_of_isEmergency emergency
  exact .outside enabling batch (fun after => absurd after activating) hardware

theorem batchFlow_of_outcome {t : Controller} (outcome : Outcome config now s t) :
    BatchFlow s t := by
  cases outcome with
  | monitored axis stage tripped => exact batchFlow_quickStop rfl rfl rfl
  | inactive stopped => exact .outside (by rw [stopped]; rfl) rfl id rfl
  | descentDone downward => exact batchFlow_finish downward rfl rfl
  | descentAdvance downward | descentHold downward =>
      have enabling : s.phase.isEnabling = false := by
        cases phase : s.phase <;> simp_all [Phase.isDownward, Phase.isNormalDescent,
          Phase.isEnabling]
      exact .outside enabling rfl id rfl
  | descentExpire normal expired =>
      rcases recordStageTimeout_eq (s.descentScanned config now) (downwardScan s.statusWords) with
        ⟨_, _, recorded⟩
      rw [recorded]
      exact .outside rfl rfl (by intro after; cases after) rfl
  | emergencyExpire descending expired =>
      rcases recordStageTimeout_eq (s.descentScanned config now) (downwardScan s.statusWords) with
        ⟨_, _, recorded⟩
      rw [recorded]
      have downward : s.phase.isDownward = true := by rw [descending]; rfl
      exact batchFlow_finish downward rfl rfl
  | quickStop stopping => exact batchFlow_quickStop stopping rfl rfl
  | acceptEnable idle => exact .accept idle rfl rfl rfl
  | idleAlreadyClear idle | idleAlreadyDisabled idle | idleHold idle =>
      simp only [storeOwner, setAllControlWords, publishReset, publishDisable, clearFailure,
        targetFaults, answerAlreadyClear]
      exact .outside (congrArg Phase.isEnabling idle) rfl id rfl
  | idleStartReset idle => exact .outside rfl rfl (by intro after; cases after) rfl
  | enableFault => exact .outside rfl rfl (by intro after; cases after) rfl
  | delayPreempted => exact .outside rfl rfl (by intro after; cases after) rfl
  | nextBatch delaying => exact .next delaying rfl rfl rfl
  | delayHold delaying => exact .hold (by rw [delaying]; rfl) rfl rfl rfl
  | batchInvalid | batchExpire =>
      exact batchFlow_startDownward (Or.inl rfl) (by simp) (by simp)
  | batchInvalidPreempted | batchExpirePreempted =>
      exact batchFlow_startDownward (Or.inr rfl) (by simp) (by simp)
  | batchPreempted =>
      exact batchFlow_startDownward (Or.inr rfl) (by simp [storeOwner, publishEnable])
        (by simp [storeOwner, publishEnable])
  | hardwareReady enabling healthy valid complete unpreempted last =>
      exact .ready enabling rfl rfl last valid complete rfl
  | batchComplete enabling healthy valid complete unpreempted more =>
      exact .complete enabling rfl rfl more healthy valid complete rfl
  | batchHold enabling => exact .hold (by rw [enabling]; rfl) rfl rfl rfl
  | activateFailed => exact .outside rfl rfl (by intro after; cases after) rfl
  | activatingHold activating => exact .outside (congrArg Phase.isEnabling activating) rfl id rfl
  | heldDescend => exact .outside rfl rfl (by intro after; cases after) rfl
  | heldHold held => exact .outside (Phase.not_isEnabling_of_isHeld held).1 rfl id rfl
  | resetPreempted | raiseReset | resetDone | resetExpire =>
      simp only [storeOwner, storePhase, setAllControlWords, publishReset, recordFailure,
        clearFailure, resetScanned, startDownward]
      exact .outside rfl rfl (by intro after; cases after) rfl
  | resetHold resetting => exact .outside (congrArg Phase.isEnabling resetting) rfl id rfl
  | failedDescend | failedAlreadyClear | failedStartReset =>
      simp only [storeOwner, storePhase, setAllControlWords, publishReset, clearFailure,
        targetFaults, answerAlreadyClear, startDownward]
      exact .outside rfl rfl (by intro after; cases after) rfl
  | failedHold failed => exact .outside (congrArg Phase.isEnabling failed) rfl id rfl

end Controller

/-! ## The law of a session -/

/-- The batch counter of a running enable has taken every value up to the current
one, and every batch before it is confirmed. -/
structure BatchLaw (s : System) (log : BatchLog) : Prop where
  inactive : s.active = false → s.phase = .inactive
  known : s.currentBatch < batchCount
  visited : s.phase.isEnabling = true → log.visited = List.range (s.currentBatch + 1)
  confirmed : s.phase.isEnabling = true → ∀ batch < s.currentBatch, batch ∈ log.confirmed
  delay : s.phase = .interBatchDelay →
    s.currentBatch + 1 < batchCount ∧ s.currentBatch ∈ log.confirmed

section Moves

variable {config : Config} {s t : System} {event : Event} {late : Bool} {log : BatchLog}

/-- Outside the batchwise enable the law says nothing about the log. -/
theorem BatchLaw.outside {later : BatchLog} (inactive : t.active = false → t.phase = .inactive)
    (known : t.currentBatch < batchCount) (after : t.phase.isEnabling = false) :
    BatchLaw t later := by
  refine ⟨inactive, known, by rw [after]; nofun, by rw [after]; nofun, ?_⟩
  intro delaying
  rw [delaying] at after
  contradiction

/-- A step that keeps phase, lifecycle and batch keeps the law of its log. -/
theorem BatchLaw.congr (law : BatchLaw s log) (active : t.active = s.active)
    (phase : t.phase = s.phase) (batch : t.currentBatch = s.currentBatch) : BatchLaw t log := by
  rcases law with ⟨inactive, known, visited, confirmed, delay⟩
  exact ⟨by rw [active, phase]; exact inactive, by rw [batch]; exact known,
    by rw [phase, batch]; exact visited, by rw [phase, batch]; exact confirmed,
    by rw [phase, batch]; exact delay⟩

theorem batchLaw_update {now : Int} {readings : Readings} {t : Controller} (law : BatchLaw s log)
    (active : s.active = true) (kept : t.active = s.active)
    (flow : BatchFlow (s.toController.refreshStatusWords readings) t) :
    BatchLaw { s with toController := t }
      (recordBatch s (.update now readings) { s with toController := t } log) := by
  have running : t.active = false → t.phase = .inactive := by
    intro stopped
    rw [kept, active] at stopped
    contradiction
  have known := law.known
  cases flow with
  | outside after batch activating hardware =>
      exact BatchLaw.outside running (batch ▸ known) after
  | accept idle after batch hardware =>
      have idle : s.phase = .idle := idle
      simp only [recordBatch, idle, after, and_self, if_true]
      refine ⟨running, ?_, fun _ => ?_, fun _ => ?_, ?_⟩
      · simp [batch]
      · simp [batch]
      · simp [batch]
      · intro delaying
        rw [after] at delaying
        contradiction
  | hold before after batch hardware =>
      have before : s.phase.isEnabling = true := before
      have awake : ¬(s.phase = .idle ∧ t.phase = .enabling) := by
        rintro ⟨idle, -⟩
        rw [idle] at before
        contradiction
      have kept : ∀ batch ∈ log.confirmed, batch ∈ (recordBatch s (.update now readings)
          { s with toController := t } log).confirmed := by
        intro batch member
        simp only [recordBatch, if_neg awake]
        split_ifs
        · exact List.mem_append_left _ member
        · exact member
      have same : (recordBatch s (.update now readings) { s with toController := t } log).visited =
          log.visited := by
        simp only [recordBatch, if_neg awake]
        exact if_pos batch
      refine ⟨running, batch ▸ known, fun _ => ?_, fun _ => ?_, fun delaying => ?_⟩
      · rw [same, law.visited before]
        exact congrArg (fun count => List.range (count + 1)) batch.symm
      · intro earlier below
        exact kept earlier (law.confirmed before earlier (batch ▸ below))
      · obtain ⟨more, member⟩ := law.delay (after.symm.trans delaying)
        exact ⟨batch ▸ more, kept _ (batch ▸ member)⟩
  | next delaying after batch hardware =>
      have delaying : s.phase = .interBatchDelay := delaying
      have batch : t.currentBatch = s.currentBatch + 1 := batch
      obtain ⟨more, member⟩ := law.delay delaying
      have enabling : s.phase.isEnabling = true := by rw [delaying]; rfl
      have unconfirmed : confirmsBatch s (refreshedWords readings) = false := by
        simp [confirmsBatch, delaying]
      simp only [recordBatch, delaying, unconfirmed, reduceCtorEq, false_and, if_false,
        Bool.false_eq_true]
      refine ⟨running, by rw [batch]; exact more, fun _ => ?_, fun _ => ?_, ?_⟩
      · have moved : ¬(t.currentBatch = s.currentBatch) := by omega
        rw [if_neg moved, law.visited enabling, List.range_succ (n := t.currentBatch)]
        exact congrArg (fun values => values ++ [t.currentBatch])
          (congrArg List.range batch.symm)
      · intro earlier below
        rcases Nat.lt_or_eq_of_le (Nat.le_of_lt_succ (batch ▸ below)) with smaller | equal
        · exact law.confirmed enabling earlier smaller
        · rw [equal]
          exact member
      · intro delayed
        rw [after] at delayed
        contradiction
  | complete enabling after batch more healthy valid finished hardware =>
      have enabling : s.phase = .enabling := enabling
      have batch : t.currentBatch = s.currentBatch := batch
      have more : s.currentBatch + 1 ≠ batchCount := more
      have inBatch : s.phase.isEnabling = true := by rw [enabling]; rfl
      have everyBatch : batchesEnabled s.currentBatch (refreshedWords readings) = true :=
        batchesEnabled_of_complete known valid finished
      have fault : anyFault (refreshedWords readings) = false := healthy
      have confirms : confirmsBatch s (refreshedWords readings) = true := by
        simp [confirmsBatch, enabling, everyBatch, fault]
      simp only [recordBatch, enabling, confirms, batch, reduceCtorEq, false_and, if_false, if_true]
      refine ⟨running, by rw [batch]; exact known, fun _ => ?_, fun _ => ?_, fun _ => ⟨?_, ?_⟩⟩
      · rw [law.visited inBatch, batch]
      · intro earlier below
        exact List.mem_append_left _ (law.confirmed inBatch earlier (batch ▸ below))
      · rw [batch]
        omega
      · simp [batch]
  | ready enabling after batch last valid finished hardware =>
      exact BatchLaw.outside running (batch ▸ known) (by rw [after]; rfl)

/-- A callback keeps the law: it never moves the phase into or within the batchwise
enable, and it never writes the batch counter. -/
theorem BatchLaw.callback (law : BatchLaw s log) (active : t.active = s.active)
    (batch : t.currentBatch = s.currentBatch)
    (phase : t.phase = s.phase ∨ s.phase ≠ .inactive ∧ t.phase.isEnabling = false) :
    BatchLaw t log := by
  rcases phase with same | ⟨started, after⟩
  · exact law.congr active same batch
  · apply BatchLaw.outside _ (batch ▸ law.known) after
    intro stopped
    exact absurd (law.inactive (active ▸ stopped)) started

/-- Every block step keeps the law. -/
theorem batchLaw_of_step (law : BatchLaw s log) (step : blockStep config s event = some t)
    (move : BlockMove config s event t) : BatchLaw t (recordBatch s event t log) := by
  cases move with
  | skip now readings inactive =>
      apply BatchLaw.outside law.inactive law.known
      rw [law.inactive inactive]
      rfl
  | controllerManager => exact law.congr rfl rfl rfl
  | update now readings t active cycle =>
      exact batchLaw_update law active (Controller.untouched_of_cycle cycle).active
        (Controller.batchFlow_of_outcome (outcome_of_step active step))
  | callEnable t block | enable late t running block =>
      cases block with
      | complete _ _ activating =>
          exact law.callback rfl rfl (Or.inr ⟨by rw [activating]; nofun, rfl⟩)
      | _ => exact law.callback rfl rfl (Or.inl rfl)
  | callDisable t block | disable late t running block =>
      cases block with
      | takeEnabled _ _ enabled =>
          exact law.callback rfl rfl (Or.inr ⟨by rw [enabled]; nofun, rfl⟩)
      | _ => exact law.callback rfl rfl (Or.inl rfl)
  | callReset t block | reset late t running block =>
      cases block <;> exact law.callback rfl rfl (Or.inl rfl)
  | fireWorker t block | callWorker late t block | resumeWorker late t block
  | latchRestart t block =>
      cases block <;> exact law.callback rfl rfl (Or.inl rfl)
  | activate inactive => exact BatchLaw.outside nofun (by exact Nat.zero_lt_succ 4) rfl
  | deactivate active => exact BatchLaw.outside (fun _ => rfl) law.known rfl

/-- What the batches see of a step that is no cycle of an active controller. -/
structure Quiet (s : System) (event : Event) (t : System) : Prop where
  activating : t.phase = .jtcActivating → s.phase = .jtcActivating
  hardware : t.enableHardwareReady = true → s.enableHardwareReady = true
  batch : t.currentBatch = s.currentBatch ∨ event = .activate ∧ t.currentBatch = 0

/-- Only a cycle hands the group to the JTC or moves the batch counter. -/
theorem quiet_or_flow (step : blockStep config s event = some t)
    (move : BlockMove config s event t) :
    Quiet s event t ∨ ∃ now readings c, event = .update now readings ∧
      t = { s with toController := c } ∧
      BatchFlow (s.toController.refreshStatusWords readings) c := by
  cases move with
  | skip | controllerManager => exact Or.inl ⟨id, id, Or.inl rfl⟩
  | update now readings c active cycle =>
      exact Or.inr ⟨now, readings, c, rfl, rfl,
        Controller.batchFlow_of_outcome (outcome_of_step active step)⟩
  | callEnable t block | enable late t running block =>
      cases block with
      | accept => exact Or.inl ⟨id, nofun, Or.inl rfl⟩
      | complete => exact Or.inl ⟨nofun, id, Or.inl rfl⟩
      | _ => exact Or.inl ⟨id, id, Or.inl rfl⟩
  | callDisable t block | disable late t running block =>
      cases block with
      | takeEnabled => exact Or.inl ⟨nofun, id, Or.inl rfl⟩
      | _ => exact Or.inl ⟨id, id, Or.inl rfl⟩
  | callReset t block | reset late t running block =>
      cases block <;> exact Or.inl ⟨id, id, Or.inl rfl⟩
  | fireWorker t block | callWorker late t block | resumeWorker late t block
  | latchRestart t block =>
      cases block <;> exact Or.inl ⟨id, id, Or.inl rfl⟩
  | activate => exact Or.inl ⟨nofun, nofun, Or.inr ⟨rfl, rfl⟩⟩
  | deactivate => exact Or.inl ⟨nofun, id, Or.inl rfl⟩

end Moves

/-- In every run, a step that enters `kJtcActivating` or raises
`enable_hardware_ready_` is a cycle whose fourteen refreshed status words all decode
to Operation Enabled, the batch counter of its session has taken the values 0 to 4
in order, and every batch before the last was confirmed.  The counter moves from `b`
to `b + 1` only after a cycle of the session that saw every axis of the batches up to
`b` enabled and no fault, and otherwise only back to 0. -/
theorem batches_ordered (config : Config) (s : System) (log : BatchLog)
    (reachable : Reachable (observed (blockStep config) recordBatch) (onState unguarded)
      (configured, {}) (s, log))
    (event : Event) (t : System) (step : blockStep config s event = some t) :
    (s.phase ≠ .jtcActivating ∧ t.phase = .jtcActivating ∨
        s.enableHardwareReady = false ∧ t.enableHardwareReady = true →
      t.phase = .jtcActivating ∧ t.enableHardwareReady = true ∧
        (∃ now readings, event = .update now readings ∧
          ∀ axis, decodeState (refreshedWords readings axis) = .operationEnabled) ∧
        log.visited = [0, 1, 2, 3, 4] ∧ ∀ batch < 4, batch ∈ log.confirmed) ∧
    (t.currentBatch ≠ s.currentBatch →
      t.currentBatch = 0 ∧ (event = .activate ∨ s.phase = .idle ∧ t.phase = .enabling) ∨
        t.currentBatch = s.currentBatch + 1 ∧ s.currentBatch ∈ log.confirmed) := by
  have initial : BatchLaw configured {} := BatchLaw.outside (fun _ => rfl) (by decide) rfl
  obtain ⟨parked, law⟩ := observed_step_invariant BatchLaw parked_configured initial
    (fun _ _ law _ step move => batchLaw_of_step law step move) reachable
  rcases quiet_or_flow step (blockMove_of_step parked step) with
    quiet | ⟨now, readings, c, rfl, rfl, flow⟩
  · constructor
    · rintro (⟨before, after⟩ | ⟨before, after⟩)
      · exact absurd (quiet.activating after) before
      · rw [quiet.hardware after] at before
        contradiction
    · intro moved
      rcases quiet.batch with same | ⟨activates, zero⟩
      · exact absurd same moved
      · exact Or.inl ⟨zero, Or.inl activates⟩
  -- The cycle that completes the last batch is the only one that hands over.
  cases flow with
  | outside after batch activating hardware =>
      refine ⟨?_, fun moved => absurd batch moved⟩
      rintro (⟨before, entered⟩ | ⟨before, raised⟩)
      · exact absurd (activating entered) before
      · exact absurd (before.symm.trans (hardware.symm.trans raised)) nofun
  | accept idle after batch hardware =>
      refine ⟨?_, fun _ => Or.inl ⟨batch, Or.inr ⟨idle, after⟩⟩⟩
      rintro (⟨-, entered⟩ | ⟨-, raised⟩)
      · exact absurd (after.symm.trans entered) nofun
      · exact absurd (hardware.symm.trans raised) nofun
  | hold before after batch hardware =>
      refine ⟨?_, fun moved => absurd batch moved⟩
      rintro (⟨unentered, entered⟩ | ⟨unraised, raised⟩)
      · exact absurd (after.symm.trans entered) unentered
      · exact absurd (unraised.symm.trans (hardware.symm.trans raised)) nofun
  | next delaying after batch hardware =>
      refine ⟨?_, fun _ => Or.inr ⟨batch, (law.delay delaying).2⟩⟩
      rintro (⟨-, entered⟩ | ⟨unraised, raised⟩)
      · exact absurd (after.symm.trans entered) nofun
      · exact absurd (unraised.symm.trans (hardware.symm.trans raised)) nofun
  | complete enabling after batch more healthy valid finished hardware =>
      refine ⟨?_, fun moved => absurd batch moved⟩
      rintro (⟨-, entered⟩ | ⟨unraised, raised⟩)
      · exact absurd (after.symm.trans entered) nofun
      · exact absurd (unraised.symm.trans (hardware.symm.trans raised)) nofun
  | ready enabling after batch last valid finished hardware =>
      refine ⟨fun _ => ?_, fun moved => absurd batch moved⟩
      have inBatch : s.phase.isEnabling = true := congrArg Phase.isEnabling enabling
      have lastBatch : s.currentBatch = 4 := Nat.succ.inj last
      refine ⟨after, hardware, ⟨now, readings, rfl, ?_⟩, ?_, ?_⟩
      · exact operationEnabled_of_lastBatch last valid finished
      · rw [law.visited inBatch, lastBatch]
        rfl
      · intro batch below
        exact law.confirmed inBatch batch (lastBatch ▸ below)

/-- A whole enable on conforming drives hands over after its five batches. -/
theorem batches_ordered_of_enable :
    ∃ s t log event,
      Reachable (observed (blockStep defaultConfig) recordBatch) (onState unguarded)
        (configured, {}) (s, log) ∧
      blockStep defaultConfig s event = some t ∧ s.phase ≠ .jtcActivating ∧
      t.phase = .jtcActivating ∧ log.visited = [0, 1, 2, 3, 4] := by
  have found : (run (observed (blockStep defaultConfig) recordBatch) (onState unguarded)
      (configured, {})
      ([Event.activate] ++ startupCycles ++ [Event.callEnable] ++ batchCycles.dropLast)).any
      (fun observation => observation.1.phase ≠ .jtcActivating &&
        (blockStep defaultConfig observation.1 (.update 19000000000 (everyAxis 0x0027))).any
          fun t => t.phase = .jtcActivating) = true := by
    rfl
  obtain ⟨⟨s, log⟩, reachable, hands⟩ := exists_reachable_of_run found
  simp only [Bool.and_eq_true, decide_eq_true_eq, Option.any_eq_true] at hands
  obtain ⟨before, t, step, after⟩ := hands
  obtain ⟨proven, -⟩ := batches_ordered defaultConfig s log reachable _ t step
  obtain ⟨-, -, -, visited, -⟩ := proven (Or.inl ⟨before, after⟩)
  exact ⟨s, t, log, _, reachable, step, before, after, visited⟩

end RtControl.EnableManager
