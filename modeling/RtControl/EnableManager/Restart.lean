import RtControl.EnableManager.Switch

/-!
# When the restart is latched

Here the controller manager is truthful and answers in time.  A switch call then
latches the restart in two situations only: another switch is in progress, or
the JTC to be deactivated is inactive already.  An emergency raised before the
JTC was active leads to the second, one raised while a callback switches the JTC
to either.
-/

namespace RtControl.EnableManager

open RtControl.Transition

/-- The switch service is there and answers before a caller gives up. -/
def prompt : Guard System Event := fun s event =>
  match event with
  | .enable late => !(late && (s.enablePc = .switch .acquire || s.enablePc = .switch .await))
  | .disable late => !(late && (s.disablePc = .switch .acquire || s.disablePc = .switch .await))
  | .callWorker late => !late
  | .resumeWorker late => !late
  | _ => true

/-- Within one activation the controller manager is truthful and in time. -/
def promptSession : Guard System Event := fun s event =>
  truthfulSession s event && prompt s event

/-- A `switchJtc` call finds no other switch in progress, and a deactivation
finds the JTC active. -/
def switchesWhenDue : Guard System Event := fun s event =>
  match event with
  | .enable _ => !(s.enablePc = .switch .acquire && s.switchInProgress)
  | .disable _ =>
      !(s.disablePc = .switch .acquire && (s.switchInProgress || !s.jtc.active))
  | .callWorker _ =>
      !(s.workersCalling ≠ 0 && (s.switchInProgress || !s.jtc.active))
  | _ => true

/-- Every switch call of a prompt session is made when it is due. -/
def dueSwitches : Guard System Event := fun s event =>
  promptSession s event && switchesWhenDue s event

/-- The restart is latched in no reachable state. -/
def NeverLatches (config : Config) (guard : Guard System Event) : Prop :=
  ∀ s, Reachable (blockStep config) guard activated s → s.restartRequired = false

/-- An activation in flight: not executed or answered. -/
def Jtc.goingUp (jtc : Jtc) : Prop :=
  jtc.pending = [true] ∧ jtc.answer = none ∨ jtc.pending = [] ∧ jtc.answer ≠ none

/-- A deactivation in flight: not executed on an active JTC, or executed. -/
def Jtc.goingDown (jtc : Jtc) : Prop :=
  jtc.pending = [false] ∧ jtc.answer = none ∧ jtc.active = true ∨
    jtc.pending = [] ∧ jtc.answer = some true

/-- No restart is latched or due, and deactivations in flight will succeed. -/
structure LatchLaw (s : System) : Prop where
  unlatched : s.unlatched
  switch : SwitchLaw Jtc.goingUp Jtc.goingDown s

theorem settles_goingUp : Settles Jtc.goingUp := by
  rintro jtc (⟨-, unanswered⟩ | ⟨settled, -⟩) answered
  · exact absurd unanswered answered
  · exact settled

theorem settles_goingDown : Settles Jtc.goingDown := by
  rintro jtc (⟨-, unanswered, -⟩ | ⟨settled, -⟩) answered
  · exact absurd unanswered answered
  · exact settled

/-- A deactivation in flight is not declined. -/
theorem not_declined_of_goingDown {jtc : Jtc} (down : jtc.goingDown) :
    jtc.answer ≠ some false := by
  rcases down with ⟨-, unanswered, -⟩ | ⟨-, answered⟩
  · simp [unanswered]
  · simp [answered]

section Moves

variable {config : Config} {s t : System} {late : Bool} {event : Event}

theorem latchLaw_enable (law : LatchLaw s)
    (timely : late = true → s.enablePc ≠ .switch .acquire ∧ s.enablePc ≠ .switch .await)
    (due : s.enablePc = .switch .acquire → s.switchInProgress = false)
    (block : EnableBlock s late t) : LatchLaw t := by
  have running : t.restartRequired = false := by
    cases block with
    | unsent calling blocked =>
        rcases blocked with busy | expired
        · simp [due calling] at busy
        · exact absurd calling (timely expired).1
    | lapse awaiting _ expired => exact absurd awaiting (timely expired).2
    | _ => exact law.unlatched.1
  have unfailed : t.workersFailed = 0 := by
    cases block <;> exact law.unlatched.2
  refine ⟨⟨running, unfailed⟩, switchLaw_enable law.switch settles_goingUp ?_ block running⟩
  intro _ free
  exact Or.inl ⟨by simp [Jtc.send, (law.switch.free free).1], rfl⟩

theorem latchLaw_disable (law : LatchLaw s)
    (timely : late = true → s.disablePc ≠ .switch .acquire ∧ s.disablePc ≠ .switch .await)
    (due : s.disablePc = .switch .acquire → s.switchInProgress = false ∧ s.jtc.active = true)
    (block : DisableBlock s late t) : LatchLaw t := by
  have running : t.restartRequired = false := by
    cases block with
    | unsent calling blocked =>
        rcases blocked with busy | expired
        · simp [(due calling).1] at busy
        · exact absurd calling (timely expired).1
    | declined awaiting answered =>
        obtain ⟨-, down⟩ := law.switch.disable awaiting
        rcases answered with declined | ⟨-, expired⟩
        · exact absurd declined (not_declined_of_goingDown down)
        · exact absurd awaiting (timely expired).2
    | _ => exact law.unlatched.1
  have unfailed : t.workersFailed = 0 := by
    cases block <;> exact law.unlatched.2
  refine ⟨⟨running, unfailed⟩, switchLaw_disable law.switch settles_goingDown ?_ block running⟩
  intro calling free
  exact Or.inl ⟨by simp [Jtc.send, (law.switch.free free).1], rfl, (due calling).2⟩

theorem latchLaw_worker (law : LatchLaw s) (block : WorkerBlock s event t)
    (timely : event ≠ .callWorker true ∧ event ≠ .resumeWorker true)
    (due : ∀ late, event = .callWorker late → s.workersCalling ≠ 0 →
      s.switchInProgress = false ∧ s.jtc.active = true) : LatchLaw t := by
  have unlatched : t.unlatched := by
    cases block with
    | busy late calling blocked => simp [(due late rfl calling).1] at blocked
    | missing => exact absurd rfl timely.1
    | declined late awaiting answered =>
        obtain ⟨-, -, -, down⟩ := law.switch.worker awaiting
        rcases answered with declined | ⟨-, rfl⟩
        · exact absurd declined (not_declined_of_goingDown down)
        · exact absurd rfl timely.2
    | latch failed => exact absurd law.unlatched.2 failed
    | _ => exact law.unlatched
  refine ⟨unlatched, switchLaw_worker law.switch settles_goingDown ?_ block unlatched⟩
  intro late called calling free
  exact Or.inl ⟨by simp [Jtc.send, (law.switch.free free).1], rfl, (due late called calling).2⟩

theorem latchLaw_update {now : Int} {readings : Readings} {t : Controller} (law : LatchLaw s)
    (cycle : Cycle config now (s.toController.refreshStatusWords readings) t) :
    LatchLaw { s with toController := t } := by
  have kept := Controller.untouched_of_cycle cycle
  exact ⟨⟨kept.restartRequired.trans law.unlatched.1, law.unlatched.2⟩,
    switchLaw_update law.switch cycle⟩

theorem latchLaw_execute {activate : Bool} {pending : List Bool} (law : LatchLaw s)
    (oldest : s.jtc.pending = activate :: pending) :
    LatchLaw { s with jtc := s.jtc.executed activate pending } := by
  refine ⟨law.unlatched, switchLaw_execute law.switch oldest ?_ ?_⟩
  · rintro (⟨waiting, -⟩ | ⟨settled, -⟩)
    · obtain ⟨rfl, rfl⟩ : activate = true ∧ pending = [] := by simpa [oldest] using waiting
      exact Or.inr ⟨rfl, by simp [Jtc.executed]⟩
    · simp [settled] at oldest
  · rintro (⟨waiting, -, active⟩ | ⟨settled, -⟩)
    · obtain ⟨rfl, rfl⟩ : activate = false ∧ pending = [] := by simpa [oldest] using waiting
      exact Or.inr ⟨rfl, by simp [Jtc.executed, active]⟩
    · simp [settled] at oldest

/-- Every allowed block step keeps the law. -/
theorem latchLaw_of_move (law : LatchLaw s) (allowed : dueSwitches s event = true)
    (move : BlockMove config s event t) : LatchLaw t := by
  simp only [dueSwitches, promptSession, truthfulSession, Bool.and_eq_true] at allowed
  obtain ⟨⟨⟨session, truth⟩, timely⟩, due⟩ := allowed
  cases move with
  | skip => exact law
  | update now readings t active cycle => exact latchLaw_update law cycle
  | callEnable t block fresh =>
      rcases fresh with fresh | rfl
      · exact latchLaw_enable law (by simp) (by simp [fresh]) block
      · exact law
  | enable late t running block =>
      refine latchLaw_enable law ?_ ?_ block
      · intro expired
        simpa [prompt, expired] using timely
      · intro calling
        simpa [switchesWhenDue, calling] using due
  | callDisable t block fresh =>
      rcases fresh with fresh | rfl
      · exact latchLaw_disable law (by simp) (by simp [fresh]) block
      · exact law
  | disable late t running block =>
      refine latchLaw_disable law ?_ ?_ block
      · intro expired
        simpa [prompt, expired] using timely
      · intro calling
        simpa [switchesWhenDue, calling] using due
  | callReset t block | reset late t running block =>
      refine ⟨?_, switchLaw_reset law.switch block⟩
      cases block <;> exact law.unlatched
  | callWorker late t block =>
      obtain rfl : late = false := by simpa [prompt] using timely
      refine latchLaw_worker law block ⟨nofun, nofun⟩ ?_
      rintro _ - calling
      simpa [switchesWhenDue, calling] using due
  | resumeWorker late t block =>
      obtain rfl : late = false := by simpa [prompt] using timely
      exact latchLaw_worker law block ⟨nofun, nofun⟩ nofun
  | fireWorker t block | latchRestart t block =>
      exact latchLaw_worker law block ⟨nofun, nofun⟩ nofun
  | controllerManager ok changed activate pending oldest =>
      rw [executed_of_truthful oldest truth]
      exact latchLaw_execute law oldest
  | activate | deactivate => simp [inSession, Event.isLifecycle] at session

end Moves

/-! ## A switch call that is not due latches the restart -/

section Undue

attribute [local simp] runOn blockLength settle EnablePc.yields DisablePc.yields
  WorkerPc.yields System.enableStep System.disableStep System.switchStep FailureField.next Failure.setField

variable (config : Config) {s : System}

/-- The system can go on to a latched restart in a prompt session. -/
def Latches (s : System) : Prop :=
  ∃ u, Reachable (blockStep config) promptSession s u ∧ u.restartRequired = true

/-- A truthful controller manager declines to deactivate an inactive JTC. -/
theorem latches_of_refused (waiting : s.jtc.pending = [false]) (inactive : s.jtc.active = false)
    (answered : Latches config
      { s with jtc := { active := false, pending := [], answer := some false } }) :
    Latches config s := by
  obtain ⟨u, reachable, latched⟩ := answered
  have allowed : promptSession s (.controllerManager false false) = true := by
    simp [promptSession, truthfulSession, inSession, Event.isLifecycle, truthful, prompt, waiting,
      inactive]
  have refused : blockStep config s (.controllerManager false false) = some
      { s with jtc := { active := false, pending := [], answer := some false } } := by
    simp [blockStep, atomicStep, Jtc.execute, waiting, inactive]
  exact ⟨u, (Reachable.single _ allowed refused).trans reachable, latched⟩

/-- A worker whose switch did not succeed latches the restart. -/
theorem latches_failed (failed : s.workersFailed ≠ 0) : Latches config s := by
  have step : blockStep config s .latchRestart = some s.latchRestart := by
    simp [blockStep, atomicStep, failed]
  exact ⟨_, .single _ rfl step, rfl⟩

/-- A worker whose deactivation is declined latches the restart. -/
theorem latches_worker (awaiting : s.worker = .switch .await)
    (declined : s.jtc.answer = some false) : Latches config s := by
  have step : blockStep config s (.resumeWorker false) = some { s with
      switchInProgress := false
      worker := .idle
      workersFailed := s.workersFailed + 1 } := by
    simp [blockStep, atomicStep, System.resumeWorker, awaiting, declined]
  obtain ⟨u, reachable, latched⟩ := latches_failed config
    (s := { s with
      switchInProgress := false
      worker := .idle
      workersFailed := s.workersFailed + 1 }) (by simp)
  exact ⟨u, (Reachable.single _ rfl step).trans reachable, latched⟩

/-- A disable call whose deactivation is declined latches the restart. -/
theorem latches_disable (awaiting : s.disablePc = .switch .await)
    (declined : s.jtc.answer = some false) : Latches config s := by
  have step : blockStep config s (.disable false) = some { s with
      switchInProgress := false
      jtcDeactivateFailed := true
      restartRequired := true
      lastFailure := { stage := .jtcDeactivateFailed }
      disableRequest := true
      disablePc := .wait .loadActive } := by
    simp [blockStep, atomicStep, awaiting, declined]
  exact ⟨_, .single _ rfl step, rfl⟩

theorem latches_undue_worker (free : s.switchInProgress = false → s.jtc.pending = [])
    (yields : s.worker.yields = true)
    (undue : s.switchInProgress = true ∨ s.jtc.active = false) :
    Latches config (runOn (.callWorker false) s.callWorker) := by
  by_cases busy : s.switchInProgress = true
  · apply latches_failed
    simp only [System.callWorker, busy, if_true, runOn, blockLength, settle, yields]
    exact Nat.succ_ne_zero _
  · have inactive : s.jtc.active = false := by simpa [busy] using undue
    apply latches_of_refused
    · simp [System.callWorker, System.resumeWorker, busy, Jtc.send, free (by simpa using busy)]
    · simp [System.callWorker, System.resumeWorker, busy, Jtc.send, inactive]
    · apply latches_worker
      · simp [System.callWorker, System.resumeWorker, busy]
      · rfl

theorem latches_undue_disable (free : s.switchInProgress = false → s.jtc.pending = [])
    (calling : s.disablePc = .switch .acquire)
    (undue : s.switchInProgress = true ∨ s.jtc.active = false) :
    Latches config (runOn (.disable false) (s.disableStep false)) := by
  by_cases busy : s.switchInProgress = true
  · refine ⟨_, .refl, ?_⟩
    simp [calling, busy]
  · have inactive : s.jtc.active = false := by simpa [busy] using undue
    apply latches_of_refused
    · simp [calling, busy, Jtc.send, free (by simpa using busy)]
    · simp [calling, busy, Jtc.send, inactive]
    · apply latches_disable
      · simp [calling, busy]
      · rfl

theorem latches_undue_enable (calling : s.enablePc = .switch .acquire)
    (busy : s.switchInProgress = true) :
    Latches config (runOn (.enable false) (s.enableStep false)) := by
  refine ⟨_, .refl, ?_⟩
  by_cases activating : s.phase = .jtcActivating
  · simp [calling, busy, activating]
  · simp [calling, busy, activating]

end Undue

/-- A switch call that is not due leads to a latched restart. -/
theorem latches_of_undue (config : Config) {s : System} {event : Event} (parked : Parked s)
    (law : LatchLaw s) (timely : prompt s event = true) (undue : switchesWhenDue s event = false) :
    ∃ t, blockStep config s event = some t ∧ Latches config t := by
  have free := fun unheld => (law.switch.free unheld).1
  cases event with
  | enable late =>
      simp only [switchesWhenDue, Bool.not_eq_false', Bool.and_eq_true, decide_eq_true_eq] at undue
      obtain ⟨calling, busy⟩ := undue
      obtain rfl : late = false := by simpa [prompt, calling] using timely
      refine ⟨_, ?_, latches_undue_enable config calling busy⟩
      simp [blockStep, atomicStep, calling]
  | disable late =>
      simp only [switchesWhenDue, Bool.not_eq_false', Bool.and_eq_true, Bool.or_eq_true,
        Bool.not_eq_true', decide_eq_true_eq] at undue
      obtain ⟨calling, undue⟩ := undue
      obtain rfl : late = false := by simpa [prompt, calling] using timely
      refine ⟨_, ?_, latches_undue_disable config free calling undue⟩
      simp [blockStep, atomicStep, calling]
  | callWorker late =>
      simp only [switchesWhenDue, Bool.not_eq_false', Bool.and_eq_true, Bool.or_eq_true,
        Bool.not_eq_true', decide_eq_true_eq] at undue
      obtain ⟨calling, undue⟩ := undue
      obtain rfl : late = false := by simpa [prompt] using timely
      refine ⟨_, ?_, latches_undue_worker config free parked.worker undue⟩
      simp [blockStep, atomicStep, calling]
  | _ => simp [switchesWhenDue] at undue

/-! ## The result -/

/-- While every switch call is due, no restart is latched; a call that is not due
leads to a latched restart. -/
theorem neverLatches_of_dueSwitches (config : Config) :
    NeverLatches config dueSwitches ∧
      ∀ s event, Reachable (blockStep config) dueSwitches activated s →
        promptSession s event = true → switchesWhenDue s event = false →
          ∃ t, blockStep config s event = some t ∧ Latches config t := by
  have initial : LatchLaw activated := ⟨⟨rfl, rfl⟩, switchLaw_activated⟩
  have lawful (s : System) (reachable : Reachable (blockStep config) dueSwitches activated s) :
      Parked s ∧ LatchLaw s :=
    block_invariant LatchLaw parked_activated initial
      (fun _ _ holds allowed move => latchLaw_of_move holds allowed move) reachable
  constructor
  · intro s reachable
    exact (lawful s reachable).2.unlatched.1
  · intro s event reachable allowed undue
    obtain ⟨parked, law⟩ := lawful s reachable
    simp only [promptSession, Bool.and_eq_true] at allowed
    exact latches_of_undue config parked law allowed.2 undue

/-- A fault of the enabled group: the worker deactivates the active JTC and the
restart is not latched. -/
theorem neverLatches_of_faultWhileEnabled :
    (∃ s, Reachable (blockStep defaultConfig) dueSwitches activated s ∧ s.phase = .failed ∧
      s.jtc.active = false ∧ s.restartRequired = false) ∧
    ∃ s t, Reachable (blockStep defaultConfig) dueSwitches activated s ∧
      switchesWhenDue s (.callWorker false) = false ∧
      blockStep defaultConfig s (.callWorker false) = some t ∧ Latches defaultConfig t := by
  constructor
  · have found : (run (blockStep defaultConfig) dueSwitches activated
        (enableBlocks ++ cycles 0x0008 [20, 21, 22, 23] ++
          [Event.fireWorker, .callWorker false, .controllerManager true true,
            .resumeWorker false])).any
        (fun s => s.phase = .failed && !s.jtc.active) = true := by
      rfl
    obtain ⟨s, reachable, ended⟩ := exists_reachable_of_run found
    simp only [Bool.and_eq_true, decide_eq_true_eq, Bool.not_eq_true'] at ended
    obtain ⟨failed, inactive⟩ := ended
    exact ⟨s, reachable, failed, inactive,
      (neverLatches_of_dueSwitches defaultConfig).1 s reachable⟩
  · have found : (run (blockStep defaultConfig) dueSwitches activated
        (startupCycles ++ [Event.callEnable] ++ cycles 0x0040 [10] ++ cycles 0x0008 [11] ++
          [Event.fireWorker])).any
        (fun s => !switchesWhenDue s (.callWorker false)) = true := by
      rfl
    obtain ⟨s, reachable, undue⟩ := exists_reachable_of_run found
    rw [Bool.not_eq_true'] at undue
    obtain ⟨t, step, latches⟩ :=
      (neverLatches_of_dueSwitches defaultConfig).2 s (.callWorker false) reachable rfl undue
    exact ⟨s, t, reachable, undue, step, latches⟩

/-- A fault is seen while the first batch is enabled; the worker deactivates a JTC
that was never active. -/
def faultBeforeJtc : List Event :=
  startupCycles ++ [Event.callEnable] ++ cycles 0x0040 [10] ++ cycles 0x0008 [11] ++
    [Event.fireWorker, .callWorker false, .controllerManager false false, .resumeWorker false,
      .latchRestart]

/-- The drive fault latches the restart. -/
theorem not_neverLatches_of_faultBeforeJtc : ¬NeverLatches defaultConfig promptSession := by
  intro always
  have found : (run (blockStep defaultConfig) promptSession activated faultBeforeJtc).any
      (fun s => s.restartRequired) = true := by
    rfl
  obtain ⟨s, reachable, latched⟩ := exists_reachable_of_run found
  cases (always s reachable).symm.trans latched

end RtControl.EnableManager
