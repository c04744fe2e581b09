import RtControl.EnableManager.Interleaving
import RtControl.EnableManager.Cycle

/-!
# What one atomic step leaves alone

Every thread writes a small part of the shared state.  The records below list,
for each thread, the members its steps never write and the one way it may change
the phase; an invariant about the other members is kept by them without a case
analysis of the program counter.
-/

namespace RtControl.EnableManager

/-- Members that a step of `handleEnable` does not write. -/
structure EnableFrame (s t : System) : Prop where
  active : t.active = s.active
  disableRequest : t.disableRequest = s.disableRequest
  disablePc : t.disablePc = s.disablePc
  disableCallbackActive : t.disableCallbackActive = s.disableCallbackActive
  phase : t.phase = s.phase ∨ s.enablePc = .storeEnabled ∧ t.phase = .enabled
  restartRequired : s.restartRequired = true → t.restartRequired = true

/-- Members that a step of `handleDisable` does not write. -/
structure DisableFrame (s t : System) : Prop where
  active : t.active = s.active
  enableRequest : t.enableRequest = s.enableRequest
  enableHardwareReady : t.enableHardwareReady = s.enableHardwareReady
  jtcActivateFailedRequest : t.jtcActivateFailedRequest = s.jtcActivateFailedRequest
  enablePc : t.enablePc = s.enablePc
  enableCallbackActive : t.enableCallbackActive = s.enableCallbackActive
  phase : t.phase = s.phase ∨ s.disablePc = .storeDeactivating ∧ t.phase = .jtcDeactivating

/-- Members that a step of `handleResetFault`, of the worker timer or of the
controller manager does not write. -/
structure BystanderFrame (s t : System) : Prop where
  active : t.active = s.active
  phase : t.phase = s.phase
  enableRequest : t.enableRequest = s.enableRequest
  disableRequest : t.disableRequest = s.disableRequest
  enableHardwareReady : t.enableHardwareReady = s.enableHardwareReady
  jtcActivateFailedRequest : t.jtcActivateFailedRequest = s.jtcActivateFailedRequest
  enablePc : t.enablePc = s.enablePc
  disablePc : t.disablePc = s.disablePc
  enableCallbackActive : t.enableCallbackActive = s.enableCallbackActive
  disableCallbackActive : t.disableCallbackActive = s.disableCallbackActive
  restartRequired : s.restartRequired = true → t.restartRequired = true

section Frames

variable (s : System) (late : Bool)

theorem switchStep_frame (activate : Bool) (pc : SwitchPc) :
    ∃ switchInProgress jtc,
      (s.switchStep activate late pc).1 = { s with switchInProgress, jtc } := by
  unfold System.switchStep
  split
  · split_ifs
    · exact ⟨_, _, rfl⟩
    · exact ⟨_, _, rfl⟩
  · split_ifs
    · exact ⟨_, _, rfl⟩
    · exact ⟨_, _, rfl⟩
  · split
    · exact ⟨_, _, rfl⟩
    · exact ⟨_, _, rfl⟩
  · exact ⟨_, _, rfl⟩
  · exact ⟨_, _, rfl⟩

theorem enableStep_frame : EnableFrame s (s.enableStep late) := by
  cases pc : s.enablePc with
  | storeEnabled =>
      simp only [System.enableStep, pc]
      exact ⟨rfl, rfl, rfl, rfl, Or.inr ⟨pc, rfl⟩, id⟩
  | storeRestart =>
      simp only [System.enableStep, pc]
      exact ⟨rfl, rfl, rfl, rfl, Or.inl rfl, fun _ => rfl⟩
  | switch inner =>
      obtain ⟨switchInProgress, jtc, switched⟩ := switchStep_frame s late true inner
      cases inner with
      | returned result =>
          cases result <;> simp only [System.enableStep, pc] <;>
            exact ⟨rfl, rfl, rfl, rfl, Or.inl rfl, id⟩
      | _ =>
          simp only [System.enableStep, pc, switched]
          exact ⟨rfl, rfl, rfl, rfl, Or.inl rfl, id⟩
  | wait inner =>
      cases inner <;> simp only [System.enableStep, pc] <;>
        exact ⟨rfl, rfl, rfl, rfl, Or.inl rfl, id⟩
  | _ =>
      simp only [System.enableStep, pc]
      try split_ifs
      all_goals exact ⟨rfl, rfl, rfl, rfl, Or.inl rfl, id⟩

theorem callEnable_frame : EnableFrame s s.callEnable := by
  unfold System.callEnable
  split
  · exact ⟨rfl, rfl, rfl, rfl, Or.inl rfl, id⟩
  · exact ⟨rfl, rfl, rfl, rfl, Or.inl rfl, id⟩

theorem disableStep_frame : DisableFrame s (s.disableStep late) := by
  cases pc : s.disablePc with
  | storeDeactivating =>
      simp only [System.disableStep, pc]
      exact ⟨rfl, rfl, rfl, rfl, rfl, rfl, Or.inr ⟨pc, rfl⟩⟩
  | switch inner =>
      obtain ⟨switchInProgress, jtc, switched⟩ := switchStep_frame s late false inner
      cases inner with
      | returned result =>
          cases result <;> simp only [System.disableStep, pc] <;>
            exact ⟨rfl, rfl, rfl, rfl, rfl, rfl, Or.inl rfl⟩
      | _ =>
          simp only [System.disableStep, pc, switched]
          exact ⟨rfl, rfl, rfl, rfl, rfl, rfl, Or.inl rfl⟩
  | wait inner =>
      cases inner <;> simp only [System.disableStep, pc] <;>
        exact ⟨rfl, rfl, rfl, rfl, rfl, rfl, Or.inl rfl⟩
  | _ =>
      simp only [System.disableStep, pc]
      try split_ifs
      all_goals exact ⟨rfl, rfl, rfl, rfl, rfl, rfl, Or.inl rfl⟩

theorem callDisable_frame : DisableFrame s s.callDisable := by
  unfold System.callDisable
  split
  · exact ⟨rfl, rfl, rfl, rfl, rfl, rfl, Or.inl rfl⟩
  · exact ⟨rfl, rfl, rfl, rfl, rfl, rfl, Or.inl rfl⟩

theorem resetStep_frame : BystanderFrame s (s.resetStep late) := by
  cases pc : s.resetPc with
  | wait inner =>
      cases inner <;> simp only [System.resetStep, pc] <;>
        exact ⟨rfl, rfl, rfl, rfl, rfl, rfl, rfl, rfl, rfl, rfl, id⟩
  | _ =>
      simp only [System.resetStep, pc]
      try split_ifs
      all_goals exact ⟨rfl, rfl, rfl, rfl, rfl, rfl, rfl, rfl, rfl, rfl, id⟩

theorem callReset_frame : BystanderFrame s s.callReset := by
  unfold System.callReset
  split
  · exact ⟨rfl, rfl, rfl, rfl, rfl, rfl, rfl, rfl, rfl, rfl, id⟩
  · exact ⟨rfl, rfl, rfl, rfl, rfl, rfl, rfl, rfl, rfl, rfl, id⟩

theorem fireWorker_frame : BystanderFrame s s.fireWorker := by
  unfold System.fireWorker
  split_ifs
  · exact ⟨rfl, rfl, rfl, rfl, rfl, rfl, rfl, rfl, rfl, rfl, id⟩
  · exact ⟨rfl, rfl, rfl, rfl, rfl, rfl, rfl, rfl, rfl, rfl, id⟩

theorem callWorker_frame : BystanderFrame s s.callWorker := by
  unfold System.callWorker
  split_ifs
  · exact ⟨rfl, rfl, rfl, rfl, rfl, rfl, rfl, rfl, rfl, rfl, id⟩
  · exact ⟨rfl, rfl, rfl, rfl, rfl, rfl, rfl, rfl, rfl, rfl, id⟩

/-- A worker inside `switchJtc` writes the switch and the counts of the worker only. -/
theorem resumeWorker_writes :
    ∃ switchInProgress jtc worker workersFailed,
      s.resumeWorker late = { s with switchInProgress, jtc, worker, workersFailed } := by
  unfold System.resumeWorker
  split
  · exact ⟨_, _, _, _, rfl⟩
  · rename_i pc held
    obtain ⟨switchInProgress, jtc, switched⟩ := switchStep_frame s late false pc
    cases stepped : s.switchStep false late pc with
    | mk next after =>
        rw [stepped] at switched
        obtain rfl : next = { s with switchInProgress, jtc } := switched
        cases after with
        | returned result => cases result <;> exact ⟨_, _, _, _, rfl⟩
        | _ => exact ⟨_, _, _, _, rfl⟩

theorem resumeWorker_frame : BystanderFrame s (s.resumeWorker late) := by
  obtain ⟨switchInProgress, jtc, worker, workersFailed, written⟩ := resumeWorker_writes s late
  rw [written]
  exact ⟨rfl, rfl, rfl, rfl, rfl, rfl, rfl, rfl, rfl, rfl, id⟩

theorem latchRestart_frame : BystanderFrame s s.latchRestart :=
  ⟨rfl, rfl, rfl, rfl, rfl, rfl, rfl, rfl, rfl, rfl, fun _ => rfl⟩

end Frames

/-! ## Stages of `handleEnable` -/

/-- Where `handleEnable` stands with respect to the shared state. -/
inductive EnableStage where
  | idle
  | entry
  | admitted
  | cleared
  | polling
  | switching
  | committing
  | settled
  deriving DecidableEq, Repr

/-- The stage of a program counter.  Polling ends with the two checks after the
wait loop; committing lies between the final phase check and the store of
`kEnabled`. -/
def EnablePc.stage : EnablePc → EnableStage
  | .idle => .idle
  | .loadActive | .loadRestart | .loadEnabled | .loadIdle => .entry
  | .casOwner | .clearReady | .clearHardware => .admitted
  | .raiseRequest => .cleared
  | .loopActive | .loopHardware | .loopReady | .loopClock | .afterReady | .afterHardware =>
      .polling
  | .switch _ | .storeRestart | .storeEmergency | .failedCheck | .raiseFailed
  | .finalCheck => .switching
  | .clearFailure _ | .storeEnabled => .committing
  | .publish _ | .publishReady | .releaseOwner | .wait _ => .settled

@[simp]
theorem EnablePc.stage_eq_idle_iff {pc : EnablePc} : pc.stage = .idle ↔ pc = .idle := by
  cases pc <;> simp [stage]

/-- The members through which `handleEnable` and `update()` hand the enable
operation to each other are the same. -/
structure EnableSame (s t : System) : Prop where
  phase : t.phase = s.phase
  request : t.enableRequest = s.enableRequest
  hardware : t.enableHardwareReady = s.enableHardwareReady
  failed : t.jtcActivateFailedRequest = s.jtcActivateFailedRequest

/-- What one step of `handleEnable` does to its stage and to these members. -/
inductive EnableAdvance (s t : System) : Prop
  | walk
      (same : EnableSame s t)
      (stage : t.enablePc.stage = s.enablePc.stage)
  | refuse
      (same : EnableSame s t)
      (after : t.enablePc.stage = .settled)
      (before : s.enablePc.stage = .entry ∨ s.enablePc.stage = .admitted)
  | enter
      (same : EnableSame s t)
      (after : t.enablePc.stage = .admitted)
      (before : s.enablePc.stage = .entry)
      (resting : s.phase = .idle)
  | clear
      (same : EnableSame { s with enableHardwareReady := false } t)
      (after : t.enablePc.stage = .cleared)
      (before : s.enablePc.stage = .admitted)
  | raise
      (same : EnableSame { s with enableRequest := true } t)
      (after : t.enablePc.stage = .polling)
      (before : s.enablePc.stage = .cleared)
  | giveUp
      (same : EnableSame s t)
      (after : t.enablePc.stage = .settled)
      (before : s.enablePc.stage = .polling)
      (early : s.enablePc = .afterReady ∧ s.enableResult.ready = true ∨
        s.enablePc = .afterHardware ∧ s.enableHardwareReady = false)
  | proceed
      (same : EnableSame s t)
      (after : t.enablePc.stage = .switching)
      (before : s.enablePc.stage = .polling)
      (hardware : s.enableHardwareReady = true)
  | commit
      (same : EnableSame s t)
      (after : t.enablePc.stage = .committing)
      (before : s.enablePc.stage = .switching)
      (activating : s.phase = .jtcActivating)
  | pass
      (same : EnableSame s t)
      (after : t.enablePc.stage = .settled)
      (before : s.enablePc.stage = .switching)
      (left : s.phase ≠ .jtcActivating)
  | fail
      (same : EnableSame { s with jtcActivateFailedRequest := true } t)
      (after : t.enablePc.stage = .settled)
      (before : s.enablePc.stage = .switching)
  | store
      (same : EnableSame { s with phase := .enabled } t)
      (after : t.enablePc.stage = .settled)
      (before : s.enablePc = .storeEnabled)
  | release
      (same : EnableSame s t)
      (after : t.enablePc = .idle)
      (before : s.enablePc.stage = .settled)

section Stages

variable (s : System) (late : Bool)

theorem enableStep_switch_advance {inner : SwitchPc} (pc : s.enablePc = .switch inner) :
    EnableAdvance s (s.enableStep late) := by
  obtain ⟨switchInProgress, jtc, switched⟩ := switchStep_frame s late true inner
  cases inner with
  | returned result =>
      cases result <;> simp only [System.enableStep, pc] <;>
        exact .walk ⟨rfl, rfl, rfl, rfl⟩ (by rw [pc]; rfl)
  | _ =>
      simp only [System.enableStep, pc, switched]
      exact .walk ⟨rfl, rfl, rfl, rfl⟩ (by rw [pc]; rfl)

theorem enableStep_wait_advance {inner : WaitPc} (pc : s.enablePc = .wait inner) :
    EnableAdvance s (s.enableStep late) := by
  cases inner with
  | release =>
      simp only [System.enableStep, pc]
      exact .release ⟨rfl, rfl, rfl, rfl⟩ rfl (by rw [pc]; rfl)
  | _ =>
      simp only [System.enableStep, pc]
      exact .walk ⟨rfl, rfl, rfl, rfl⟩ (by rw [pc]; rfl)

/-- Every step of a running enable callback advances its stage in a listed
way. -/
theorem enableStep_advance : EnableAdvance s (s.enableStep late) := by
  cases pc : s.enablePc with
  | switch inner => exact enableStep_switch_advance s late pc
  | wait inner => exact enableStep_wait_advance s late pc
  | loadIdle =>
      simp only [System.enableStep, pc]
      split_ifs with resting
      · exact .refuse ⟨rfl, rfl, rfl, rfl⟩ rfl (Or.inl (by rw [pc]; rfl))
      · exact .enter ⟨rfl, rfl, rfl, rfl⟩ rfl (by rw [pc]; rfl) (not_not.mp resting)
  | casOwner =>
      simp only [System.enableStep, pc]
      split_ifs
      · exact .walk ⟨rfl, rfl, rfl, rfl⟩ (by rw [pc]; rfl)
      · exact .refuse ⟨rfl, rfl, rfl, rfl⟩ rfl (Or.inr (by rw [pc]; rfl))
  | clearHardware =>
      simp only [System.enableStep, pc]
      exact .clear ⟨rfl, rfl, rfl, rfl⟩ rfl (by rw [pc]; rfl)
  | raiseRequest =>
      simp only [System.enableStep, pc]
      exact .raise ⟨rfl, rfl, rfl, rfl⟩ rfl (by rw [pc]; rfl)
  | afterReady =>
      simp only [System.enableStep, pc]
      split_ifs with ready
      · exact .giveUp ⟨rfl, rfl, rfl, rfl⟩ rfl (by rw [pc]; rfl) (Or.inl ⟨pc, ready⟩)
      · exact .walk ⟨rfl, rfl, rfl, rfl⟩ (by rw [pc]; rfl)
  | afterHardware =>
      simp only [System.enableStep, pc]
      split_ifs with hardware
      · exact .proceed ⟨rfl, rfl, rfl, rfl⟩ rfl (by rw [pc]; rfl) hardware
      · exact .giveUp ⟨rfl, rfl, rfl, rfl⟩ rfl (by rw [pc]; rfl)
          (Or.inr ⟨pc, by simpa using hardware⟩)
  | failedCheck =>
      simp only [System.enableStep, pc]
      split_ifs with activating
      · exact .walk ⟨rfl, rfl, rfl, rfl⟩ (by rw [pc]; rfl)
      · exact .pass ⟨rfl, rfl, rfl, rfl⟩ rfl (by rw [pc]; rfl) activating
  | raiseFailed =>
      simp only [System.enableStep, pc]
      exact .fail ⟨rfl, rfl, rfl, rfl⟩ rfl (by rw [pc]; rfl)
  | finalCheck =>
      simp only [System.enableStep, pc]
      split_ifs with activating
      · exact .commit ⟨rfl, rfl, rfl, rfl⟩ rfl (by rw [pc]; rfl) activating
      · exact .pass ⟨rfl, rfl, rfl, rfl⟩ rfl (by rw [pc]; rfl) activating
  | clearFailure field =>
      cases field <;> simp only [System.enableStep, pc] <;>
        exact .walk ⟨rfl, rfl, rfl, rfl⟩ (by rw [pc]; rfl)
  | storeEnabled =>
      simp only [System.enableStep, pc]
      exact .store ⟨rfl, rfl, rfl, rfl⟩ rfl pc
  | publish field =>
      cases field <;> simp only [System.enableStep, pc] <;>
        exact .walk ⟨rfl, rfl, rfl, rfl⟩ (by rw [pc]; rfl)
  | idle | clearReady | storeRestart | storeEmergency | publishReady | releaseOwner =>
      simp only [System.enableStep, pc]
      exact .walk ⟨rfl, rfl, rfl, rfl⟩ (by simp [pc, EnablePc.stage])
  | loopActive | loopHardware | loopReady | loopClock =>
      simp only [System.enableStep, pc]
      split_ifs <;> exact .walk ⟨rfl, rfl, rfl, rfl⟩ (by rw [pc]; rfl)
  | loadActive =>
      simp only [System.enableStep, pc]
      split_ifs
      · exact .walk ⟨rfl, rfl, rfl, rfl⟩ (by rw [pc]; rfl)
      · exact .refuse ⟨rfl, rfl, rfl, rfl⟩ rfl (Or.inl (by rw [pc]; rfl))
  | loadRestart | loadEnabled =>
      simp only [System.enableStep, pc]
      split_ifs
      · exact .refuse ⟨rfl, rfl, rfl, rfl⟩ rfl (Or.inl (by rw [pc]; rfl))
      · exact .walk ⟨rfl, rfl, rfl, rfl⟩ (by rw [pc]; rfl)

/-- A step of a running enable callback keeps the callback flag or ends the
callback. -/
theorem enableStep_callback (running : s.enablePc ≠ .idle) :
    (s.enableStep late).enablePc ≠ .idle ∧
        (s.enableStep late).enableCallbackActive = s.enableCallbackActive ∨
      (s.enableStep late).enablePc = .idle ∧
        (s.enableStep late).enableCallbackActive = false := by
  cases pc : s.enablePc with
  | idle => exact absurd pc running
  | switch inner =>
      obtain ⟨switchInProgress, jtc, switched⟩ := switchStep_frame s late true inner
      cases inner with
      | returned result =>
          cases result <;> simp [System.enableStep, pc]
      | _ => simp [System.enableStep, pc, switched]
  | wait inner => cases inner <;> simp [System.enableStep, pc]
  | clearFailure field => cases field <;> simp [System.enableStep, pc, FailureField.next]
  | publish field => cases field <;> simp [System.enableStep, pc, SlotField.next]
  | _ =>
      simp only [System.enableStep, pc]
      try split_ifs
      all_goals simp [System.answerEnable]

end Stages

/-! ## Atomic runs -/

/-- Every step of an atomic run, with the threads that no invariant singles out
reduced to their frames. -/
inductive AtomicMove (config : Config) (s : System) : Event → System → Prop
  | skip (now : Int) (readings : Readings)
      (inactive : s.active = false) :
      AtomicMove config s (.update now readings) s
  | update (now : Int) (readings : Readings) (t : Controller)
      (active : s.active = true)
      (cycle : Cycle config now (s.toController.refreshStatusWords readings) t) :
      AtomicMove config s (.update now readings) { s with toController := t }
  | callEnable :
      AtomicMove config s .callEnable s.callEnable
  | enable (late : Bool)
      (running : s.enablePc ≠ .idle) :
      AtomicMove config s (.enable late) (s.enableStep late)
  | callDisable :
      AtomicMove config s .callDisable s.callDisable
  | disable (late : Bool)
      (running : s.disablePc ≠ .idle) :
      AtomicMove config s (.disable late) (s.disableStep late)
  | bystander (event : Event) (t : System)
      (frame : BystanderFrame s t) :
      AtomicMove config s event t
  | activate
      (inactive : s.active = false) :
      AtomicMove config s .activate { s with toController := s.toController.onActivate }
  | deactivate
      (active : s.active = true) :
      AtomicMove config s .deactivate { s with toController := s.toController.onDeactivate }

theorem atomicMove_of_step {config : Config} {s t : System} {event : Event}
    (step : atomicStep config s event = some t) : AtomicMove config s event t := by
  cases event with
  | update now readings =>
      cases step
      by_cases active : s.active = true
      · exact .update now readings _ active (s.toController.update_cycle config now readings active)
      · simp only [Bool.not_eq_true] at active
        simp only [s.toController.update_inactive config now readings active]
        exact .skip now readings active
  | callEnable =>
      cases step
      exact .callEnable
  | enable late =>
      rw [atomicStep, Option.ite_none_left_eq_some] at step
      obtain ⟨running, same⟩ := step
      cases same
      exact .enable late running
  | callDisable =>
      cases step
      exact .callDisable
  | disable late =>
      rw [atomicStep, Option.ite_none_left_eq_some] at step
      obtain ⟨running, same⟩ := step
      cases same
      exact .disable late running
  | callReset =>
      cases step
      exact .bystander _ _ (callReset_frame s)
  | reset late =>
      rw [atomicStep, Option.ite_none_left_eq_some] at step
      obtain ⟨running, same⟩ := step
      cases same
      exact .bystander _ _ (resetStep_frame s late)
  | fireWorker =>
      cases step
      exact .bystander _ _ (fireWorker_frame s)
  | callWorker late =>
      rw [atomicStep, Option.ite_none_left_eq_some] at step
      obtain ⟨calling, same⟩ := step
      cases same
      exact .bystander _ _ (callWorker_frame s)
  | resumeWorker late =>
      rw [atomicStep, Option.ite_none_left_eq_some] at step
      obtain ⟨running, same⟩ := step
      cases same
      exact .bystander _ _ (resumeWorker_frame s late)
  | latchRestart =>
      rw [atomicStep, Option.ite_none_left_eq_some] at step
      obtain ⟨failed, same⟩ := step
      cases same
      exact .bystander _ _ (latchRestart_frame s)
  | controllerManager ok changed =>
      rw [atomicStep, Option.map_eq_some_iff] at step
      obtain ⟨jtc, executed, same⟩ := step
      cases same
      exact .bystander _ _ ⟨rfl, rfl, rfl, rfl, rfl, rfl, rfl, rfl, rfl, rfl, id⟩
  | activate =>
      rw [atomicStep, Option.ite_none_left_eq_some] at step
      obtain ⟨inactive, same⟩ := step
      cases same
      exact .activate (by simpa using inactive)
  | deactivate =>
      rw [atomicStep, Option.ite_none_right_eq_some] at step
      obtain ⟨active, same⟩ := step
      cases same
      exact .deactivate active

end RtControl.EnableManager
