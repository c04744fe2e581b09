import RtControl.EnableManager.Batches
import RtControl.EnableManager.Torque
import RtControl.EnableManager.Atomic

/-!
# The words one cycle writes

Every branch of `update` writes its control words before it decides how to go on, so
the words after a cycle are a function of its phase and of the refreshed states.  Two
branches write none: the fault exit of `updateEnable` and the rollback of a failed JTC
activation.
-/

namespace RtControl.EnableManager

open RtControl.Transition

theorem quickStopCommand_ne_enable (state : DriveState) : quickStopCommand state ≠ 0x000F := by
  cases state <;> decide

/-- A healthy group has no first faulted axis. -/
theorem find?_faulted {words : Words} (healthy : anyFault words = false) :
    (axes.find? fun axis => isFaultState (decodeState (words axis))) = none := by
  rw [List.find?_eq_none]
  intro axis _ fault
  rw [(anyFault_eq_false_iff _).mp healthy axis] at fault
  cases fault

namespace Controller

variable (config : Config) (now : Int) (s : Controller)

theorem updateEmergencyQuickStop_controlWords :
    (s.updateEmergencyQuickStop config now).controlWords =
      fun axis => quickStopCommand (decodeState (s.statusWords axis)) := by
  simp only [updateEmergencyQuickStop, startDownward]
  split_ifs <;> rfl

theorem updateIdle_controlWords : (s.updateIdle config now).controlWords = fun _ => 0x0000 := by
  simp only [updateIdle, setAllControlWords, targetFaults, answerAlreadyClear, clearFailure,
    publishReset, publishDisable, storeOwner, storePhase]
  split_ifs <;> rfl

theorem updateFailed_controlWords :
    (s.updateFailed config now).controlWords = fun _ => 0x0000 := by
  simp only [updateFailed, setAllControlWords, targetFaults, answerAlreadyClear, clearFailure,
    publishReset, storeOwner, storePhase, startDownward]
  split_ifs <;> rfl

/-- A reset writes the reset bit or nothing to an axis. -/
theorem updateReset_controlWords (axis : Axis) :
    (s.updateReset config now).controlWords axis = 0x0000 ∨
      (s.updateReset config now).controlWords axis =
        resetCommand (s.resetTargets axis) (decodeState (s.statusWords axis)) := by
  simp only [updateReset, setAllControlWords, publishReset, storeOwner, storePhase, clearFailure,
    recordFailure, startDownward]
  split_ifs
  · exact .inl rfl
  · exact .inl rfl
  · exact .inr rfl
  · exact .inl rfl
  · exact .inl rfl
  · exact .inr rfl

/-- The wait for the JTC holds the group, unless its activation has failed. -/
theorem updateJtcActivating_controlWords :
    (s.updateJtcActivating config now).controlWords =
      if s.jtcActivateFailedRequest then s.controlWords else fun _ => 0x000F := by
  simp only [updateJtcActivating, setAllControlWords, recordFailure, startDownward]
  split_ifs <;> rfl

theorem updateInterBatchDelay_controlWords :
    (s.updateInterBatchDelay config now).controlWords =
      fun axis => interBatchCommand (decodeState (s.statusWords axis)) := by
  simp only [updateInterBatchDelay, preemptEnable, publishEnable, storeOwner, startDownward]
  split_ifs <;> rfl

theorem settleBatch_controlWords (scan : EnableScan) :
    (s.settleBatch config now scan).controlWords = s.controlWords := by
  simp only [settleBatch]
  split_ifs <;> rfl

theorem updateBatch_controlWords :
    (s.updateBatch config now).controlWords =
      fun axis => enableCommand s.currentBatch axis (decodeState (s.statusWords axis)) := by
  rw [updateBatch, settleBatch_controlWords]

/-- The fault exit of an enable cycle leaves the words of the previous cycle. -/
theorem updateEnable_of_anyFault (faulted : anyFault s.statusWords = true) :
    (s.updateEnable config now).controlWords = s.controlWords ∧
      (s.updateEnable config now).phase = .emergencyQuickStop := by
  rw [anyFault, List.any_eq_true] at faulted
  rcases faulted with ⟨axis, inside, fault⟩
  simp only [updateEnable]
  split
  · exact ⟨rfl, rfl⟩
  · rename_i none
    exact absurd fault (List.find?_eq_none.mp none axis inside)

/-- A healthy enable cycle writes the command of its phase. -/
theorem updateEnable_controlWords (healthy : anyFault s.statusWords = false) :
    (s.updateEnable config now).controlWords = fun axis =>
      if s.phase = .interBatchDelay then interBatchCommand (decodeState (s.statusWords axis))
      else enableCommand s.currentBatch axis (decodeState (s.statusWords axis)) := by
  simp only [updateEnable, find?_faulted healthy]
  split_ifs
  · rw [updateInterBatchDelay_controlWords]
  · rw [updateBatch_controlWords]

/-- A monitored failure is answered by the quick stop in the same cycle. -/
theorem update_of_monitored {readings : Readings} {axis : Axis} {stage : Stage}
    (active : s.active = true)
    (tripped : monitoredFailure s.phase (refreshedWords readings) = some (axis, stage)) :
    s.update config now readings =
      ((s.refreshStatusWords readings).startEmergency config now stage axis.val
        (refreshedWords readings axis)).updateEmergencyQuickStop config now := by
  have seen : monitoredFailure (s.refreshStatusWords readings).phase
      (s.refreshStatusWords readings).statusWords = some (axis, stage) := tripped
  rw [update, if_pos active, monitorFaults, seen]
  rfl

theorem update_of_unmonitored {readings : Readings} (active : s.active = true)
    (calm : monitoredFailure s.phase (refreshedWords readings) = none) :
    s.update config now readings = (s.refreshStatusWords readings).dispatch config now := by
  have seen : monitoredFailure (s.refreshStatusWords readings).phase
      (s.refreshStatusWords readings).statusWords = none := calm
  rw [update, if_pos active, monitorFaults, seen]

end Controller

theorem monitoredFailure_of_unmonitored {phase : Phase} {words : Words}
    (unmonitored : phase ≠ .enabled ∧ phase ≠ .jtcActivating ∧ phase ≠ .jtcDeactivating) :
    monitoredFailure phase words = none := by
  rw [monitoredFailure, if_neg]
  rintro (enabled | activating | deactivating)
  · exact unmonitored.1 enabled
  · exact unmonitored.2.1 activating
  · exact unmonitored.2.2 deactivating

/-- A cycle of the batchwise enable is not monitored. -/
theorem Controller.update_of_enabling {config : Config} {now : Int} {readings : Readings}
    {s : Controller} (active : s.active = true) (enabling : s.phase.isEnabling = true) :
    s.update config now readings = (s.refreshStatusWords readings).updateEnable config now := by
  have calm : monitoredFailure s.phase (refreshedWords readings) = none := by
    apply monitoredFailure_of_unmonitored
    cases phase : s.phase <;> simp_all [Phase.isEnabling]
  rw [s.update_of_unmonitored config now active calm]
  cases phase : s.phase <;> simp_all [Phase.isEnabling, dispatch, refreshStatusWords]

/-- A cycle of a descent is not monitored. -/
theorem Controller.update_of_downward {config : Config} {now : Int} {readings : Readings}
    {s : Controller} (active : s.active = true) (downward : s.phase.isDownward = true) :
    s.update config now readings = (s.refreshStatusWords readings).updateDescent config now := by
  have calm : monitoredFailure s.phase (refreshedWords readings) = none := by
    apply monitoredFailure_of_unmonitored
    cases phase : s.phase <;> simp_all [Phase.isDownward, Phase.isNormalDescent]
  rw [s.update_of_unmonitored config now active calm]
  cases phase : s.phase <;>
    simp_all [Phase.isDownward, Phase.isNormalDescent, dispatch, refreshStatusWords]

/-- The monitor sees a fault in each of its three phases. -/
theorem exists_monitored_of_anyFault {phase : Phase} {words : Words}
    (monitored : phase = .enabled ∨ phase = .jtcActivating ∨ phase = .jtcDeactivating)
    (faulted : anyFault words = true) :
    ∃ axis stage, monitoredFailure phase words = some (axis, stage) := by
  rw [anyFault, List.any_eq_true] at faulted
  rcases faulted with ⟨axis, inside, fault⟩
  rw [monitoredFailure, if_pos monitored]
  cases found : axes.findSome? fun axis =>
      if isFaultState (decodeState (words axis)) = true then some (axis, Stage.faultDetected)
      else if phase = .enabled ∧ decodeState (words axis) ≠ .operationEnabled then
        some (axis, Stage.unexpectedDriveState)
      else none with
  | none =>
      have missed := List.findSome?_eq_none_iff.mp found axis inside
      rw [if_pos fault] at missed
      cases missed
  | some tripped => exact ⟨tripped.1, tripped.2, rfl⟩

/-- In normal operation the monitor passes only a group in Operation Enabled. -/
theorem operationEnabled_of_unmonitored {words : Words}
    (calm : monitoredFailure .enabled words = none) (axis : Axis) :
    decodeState (words axis) = .operationEnabled := by
  rw [monitoredFailure, if_pos (.inl rfl)] at calm
  have missed := List.findSome?_eq_none_iff.mp calm axis (mem_axes axis)
  dsimp only at missed
  split_ifs at missed with fault unexpected
  by_contra left
  exact unexpected ⟨rfl, left⟩

/-- A cycle enters or continues the batchwise enable from idle or from the enable. -/
theorem Controller.phase_of_enabling {config : Config} {now : Int} {s t : Controller}
    (outcome : Outcome config now s t) (after : t.phase.isEnabling = true) :
    s.phase = .idle ∨ s.phase.isEnabling = true := by
  cases Controller.batchFlow_of_outcome outcome with
  | outside outside =>
      rw [outside] at after
      cases after
  | accept idle => exact .inl idle
  | hold before => exact .inr before
  | next delaying => exact .inr (by rw [delaying]; rfl)
  | complete enabling => exact .inr (by rw [enabling]; rfl)
  | ready _ activating =>
      rw [activating] at after
      cases after

/-! ## Words between the cycles -/

/-- Members that only a cycle writes. -/
structure CycleFrame (s t : System) : Prop where
  controlWords : t.controlWords = s.controlWords
  resetTargets : t.resetTargets = s.resetTargets

section Callbacks

variable (s : System) (late : Bool)

theorem enableStep_cycleFrame : CycleFrame s (s.enableStep late) := by
  cases pc : s.enablePc with
  | switch inner =>
      rcases switchStep_frame s late true inner with ⟨switchInProgress, jtc, switched⟩
      cases inner with
      | returned result =>
          cases result <;> simp only [System.enableStep, pc] <;> exact ⟨rfl, rfl⟩
      | _ =>
          simp only [System.enableStep, pc, switched]
          exact ⟨rfl, rfl⟩
  | wait inner => cases inner <;> simp only [System.enableStep, pc] <;> exact ⟨rfl, rfl⟩
  | _ =>
      simp only [System.enableStep, pc]
      try split_ifs
      all_goals exact ⟨rfl, rfl⟩

theorem disableStep_cycleFrame : CycleFrame s (s.disableStep late) := by
  cases pc : s.disablePc with
  | switch inner =>
      rcases switchStep_frame s late false inner with ⟨switchInProgress, jtc, switched⟩
      cases inner with
      | returned result =>
          cases result <;> simp only [System.disableStep, pc] <;> exact ⟨rfl, rfl⟩
      | _ =>
          simp only [System.disableStep, pc, switched]
          exact ⟨rfl, rfl⟩
  | wait inner => cases inner <;> simp only [System.disableStep, pc] <;> exact ⟨rfl, rfl⟩
  | _ =>
      simp only [System.disableStep, pc]
      try split_ifs
      all_goals exact ⟨rfl, rfl⟩

theorem resetStep_cycleFrame : CycleFrame s (s.resetStep late) := by
  cases pc : s.resetPc with
  | wait inner => cases inner <;> simp only [System.resetStep, pc] <;> exact ⟨rfl, rfl⟩
  | _ =>
      simp only [System.resetStep, pc]
      try split_ifs
      all_goals exact ⟨rfl, rfl⟩

end Callbacks

section Steps

variable {config : Config} {s t : System} {event : Event}

/-- Within a session only a cycle writes these members. -/
theorem cycleFrame_of_callback (step : atomicStep config s event = some t)
    (session : event.isLifecycle = false) (callback : ∀ now readings, event ≠ .update now readings) :
    CycleFrame s t := by
  cases event with
  | update now readings => exact absurd rfl (callback now readings)
  | callEnable =>
      cases step
      unfold System.callEnable
      split <;> exact ⟨rfl, rfl⟩
  | enable late =>
      rw [atomicStep, Option.ite_none_left_eq_some] at step
      rcases step with ⟨running, same⟩
      cases same
      exact enableStep_cycleFrame s late
  | callDisable =>
      cases step
      unfold System.callDisable
      split <;> exact ⟨rfl, rfl⟩
  | disable late =>
      rw [atomicStep, Option.ite_none_left_eq_some] at step
      rcases step with ⟨running, same⟩
      cases same
      exact disableStep_cycleFrame s late
  | callReset =>
      cases step
      unfold System.callReset
      split <;> exact ⟨rfl, rfl⟩
  | reset late =>
      rw [atomicStep, Option.ite_none_left_eq_some] at step
      rcases step with ⟨running, same⟩
      cases same
      exact resetStep_cycleFrame s late
  | fireWorker =>
      cases step
      unfold System.fireWorker
      split_ifs <;> exact ⟨rfl, rfl⟩
  | callWorker late =>
      rw [atomicStep, Option.ite_none_left_eq_some] at step
      rcases step with ⟨calling, same⟩
      cases same
      unfold System.callWorker
      split_ifs <;> exact ⟨rfl, rfl⟩
  | resumeWorker late =>
      rw [atomicStep, Option.ite_none_left_eq_some] at step
      rcases step with ⟨running, same⟩
      cases same
      rcases resumeWorker_writes s late with ⟨switchInProgress, jtc, worker, failed, written⟩
      rw [written]
      exact ⟨rfl, rfl⟩
  | latchRestart =>
      rw [atomicStep, Option.ite_none_left_eq_some] at step
      rcases step with ⟨failed, same⟩
      cases same
      exact ⟨rfl, rfl⟩
  | controllerManager ok changed =>
      rw [atomicStep, Option.map_eq_some_iff] at step
      rcases step with ⟨jtc, executed, same⟩
      cases same
      exact ⟨rfl, rfl⟩
  | activate | deactivate => cases session

/-- Within a session a callback keeps the phase or stores one of the held phases. -/
theorem phase_of_callback (step : atomicStep config s event = some t)
    (session : event.isLifecycle = false)
    (callback : ∀ now readings, event ≠ .update now readings) :
    t.phase = s.phase ∨ t.phase.isHeld = true := by
  have stored {stands : Prop} {phase : Phase} (moved : t.phase = s.phase ∨ stands ∧ t.phase = phase)
      (held : phase.isHeld = true) : t.phase = s.phase ∨ t.phase.isHeld = true :=
    moved.imp_right fun ⟨_, entered⟩ => entered ▸ held
  cases atomicMove_of_step step with
  | skip now readings | update now readings => exact absurd rfl (callback now readings)
  | callEnable => exact stored (callEnable_frame s).phase rfl
  | enable late => exact stored (enableStep_frame s late).phase rfl
  | callDisable => exact stored (callDisable_frame s).phase rfl
  | disable late => exact stored (disableStep_frame s late).phase rfl
  | bystander _ _ frame => exact .inl frame.phase
  | activate | deactivate => cases session

end Steps

end RtControl.EnableManager
