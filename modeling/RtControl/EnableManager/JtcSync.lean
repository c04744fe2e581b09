import RtControl.EnableManager.Ownership
import RtControl.EnableManager.Switch

/-!
# The JTC and the state machine stay in step

An emergency ends on the hardware side within a few cycles, while its JTC
deactivation waits for a timer and for the controller manager.  Nothing makes
the next enable wait for it.  Here the controller manager is truthful: a STRICT
request succeeds exactly when the JTC is in the opposite state, and a refused
request changes nothing.
-/

namespace RtControl.EnableManager

open RtControl.Transition

/-- The disable callback switches the JTC off or is about to store that it could
not. -/
def DisablePc.switchesJtc : DisablePc → Bool
  | .switch _ | .storeFailed | .storeRestart => true
  | _ => false

/-- No JTC deactivation is requested, about to be sent or in flight, and no restart is
to be stored for one that did not succeed. -/
def jtcQuiet (s : System) : Bool :=
  !s.emergencyJtcDeactivateRequest && s.workersCalling = 0 && !s.switchInProgress &&
    s.workersFailed = 0 && !s.disablePc.switchesJtc

/-- No enable is admitted while a JTC deactivation is outstanding. -/
def admitsQuietly : Guard System Event := fun s event =>
  match event with
  | .callEnable => !admitsEnable s || jtcQuiet s
  | _ => true

/-- Within a session with a truthful controller manager, enables are admitted
only once every earlier JTC deactivation is done. -/
def resynchronized : Guard System Event := fun s event =>
  truthfulSession s event && admitsQuietly s event

/-- An activation in flight: not executed on an inactive JTC, or executed. -/
def Jtc.activating (jtc : Jtc) : Prop :=
  jtc.pending = [true] ∧ jtc.answer = none ∧ jtc.active = false ∨
    jtc.pending = [] ∧ jtc.answer = some true ∧ jtc.active = true

/-- A deactivation in flight: not executed, or executed or refused. -/
def Jtc.deactivating (jtc : Jtc) : Prop :=
  jtc.pending = [false] ∧ jtc.answer = none ∨
    jtc.pending = [] ∧ jtc.answer ≠ none ∧ jtc.active = false

/-- No thread is in `switchJtc` or about to call it, and no request of an earlier call
is left. -/
structure System.SwitchesNothing (s : System) : Prop where
  free : s.switchInProgress = false
  executed : s.jtc.pending = []
  worker : s.workersCalling = 0
  enable : s.enablePc ≠ .switch .acquire
  disable : s.disablePc ≠ .switch .acquire

/-- Whenever a cycle starts an enable, the JTC is inactive, no deactivation is requested
and no switch is in flight. -/
def EnablesWithJtcOff (config : Config) (guard : Guard System Event) : Prop :=
  ∀ s, Reachable (blockStep config) guard activated s →
    ∀ t event, guard s event = true → blockStep config s event = some t →
      s.phase = .idle → t.phase = .enabling →
        s.jtc.active = false ∧ s.emergencyJtcDeactivateRequest = false ∧ s.SwitchesNothing

/-- The callback is led on to the JTC by hardware that is ready. -/
def System.headsForJtc (s : System) : Prop :=
  s.enablePc = .switch .acquire ∨
    s.enablePc = .loopActive ∧ s.enableHardwareReady = true ∧ s.enableResult.ready = false

/-- Where the JTC may be active and who will switch it off, while no restart is
latched or due. -/
structure PhaseLaw (s : System) : Prop where
  unfailed : s.jtcActivateFailedRequest = false
  session : (s.enableRequest = true ∨ s.phase.isEnabling = true ∨ s.phase = .jtcActivating ∨
      s.phase = .enabled ∨ s.phase = .jtcDeactivating) →
    s.emergencyJtcDeactivateRequest = false ∧ s.workersCalling = 0 ∧ s.worker ≠ .switch .await
  off : (s.enableRequest = true ∨ s.phase.isEnabling = true) →
    s.jtc.active = false ∧ s.switchInProgress = false ∧ s.disablePc ≠ .switch .acquire ∧
      s.enablePc ≠ .switch .acquire ∧ s.enableHardwareReady = false
  activating : s.phase = .jtcActivating →
    s.disablePc ≠ .switch .acquire ∧ s.disablePc ≠ .switch .await ∧ s.disableRequest = false ∧
      (s.enablePc ≠ .switch .await → s.jtc.active = false ∧ s.switchInProgress = false)
  enabled : s.phase = .enabled →
    s.jtc.active = true ∧ s.switchInProgress = false ∧ s.disablePc ≠ .switch .acquire ∧
      s.disableRequest = false ∧ (s.enablePc = .idle ∨ s.enablePc = .wait .loadActive)
  deactivating : s.phase = .jtcDeactivating →
    (s.enablePc = .idle ∨ s.enablePc = .wait .loadActive) ∧
      (s.disablePc = .switch .acquire ∨ s.disablePc = .switch .await ∨
        s.jtc.active = false ∧ s.switchInProgress = false) ∧
      (s.disableRequest = true →
        s.disablePc ≠ .switch .acquire ∧ s.disablePc ≠ .switch .await)
  accounted : s.jtc.active = true →
    s.emergencyJtcDeactivateRequest = true ∨ s.workersCalling ≠ 0 ∨ s.worker = .switch .await ∨
      s.phase = .enabled ∨ s.phase = .jtcDeactivating ∨ s.enablePc = .switch .await
  stray : s.headsForJtc → s.phase ≠ .jtcActivating →
    s.jtc.active = false ∧ (s.emergencyJtcDeactivateRequest = true ∨ s.workersCalling ≠ 0 ∨
      s.worker = .switch .await ∧ s.jtc.answer ≠ some true)
  strayAwait : s.enablePc = .switch .await → s.phase ≠ .jtcActivating →
    s.emergencyJtcDeactivateRequest = true ∨ s.workersCalling ≠ 0

/-- The synchronisation law: an enable starts only with no restart latched or due, and
without one the switch and the phases are in step. -/
structure SyncLaw (s : System) : Prop where
  ownership : s.toController.Ownership
  starting : (s.enableRequest = true ∨ s.phase.isEnabling = true) → s.unlatched
  switch : s.unlatched → SwitchLaw Jtc.activating Jtc.deactivating s
  phases : s.unlatched → PhaseLaw s

theorem settles_activating : Settles Jtc.activating := by
  rintro jtc (⟨-, unanswered, -⟩ | ⟨settled, -⟩) answered
  · exact absurd unanswered answered
  · exact settled

theorem settles_deactivating : Settles Jtc.deactivating := by
  rintro jtc (⟨-, unanswered⟩ | ⟨settled, -⟩) answered
  · exact absurd unanswered answered
  · exact settled

/-- A deactivation sent to a free controller manager. -/
theorem deactivating_send {jtc : Jtc} (free : jtc.pending = []) :
    (jtc.send false).deactivating := by
  simp [Jtc.deactivating, Jtc.send, free]

/-! ## A cycle as the JTC sees it -/

/-- The phases in which a JTC is activated, active or deactivated, or in which an
enable works towards that. -/
def Phase.inSession (phase : Phase) : Bool :=
  phase.isEnabling || phase = .jtcActivating || phase = .enabled || phase = .jtcDeactivating

/-- The members a cycle shares with the threads that switch the JTC, as far as no
flow says otherwise. -/
structure JtcSame (s t : Controller) : Prop where
  request : t.enableRequest = s.enableRequest
  hardware : t.enableHardwareReady = s.enableHardwareReady
  failed : t.jtcActivateFailedRequest = s.jtcActivateFailedRequest
  disable : t.disableRequest = s.disableRequest ∨ t.disableRequest = false
  result : t.enableResult = s.enableResult ∨ t.enableResult.ready = true

/-- A cycle as the threads that switch the JTC see it. -/
inductive JtcFlow (s t : Controller) : Prop
  /-- The phase stays. -/
  | still
      (same : JtcSame s t)
      (phase : t.phase = s.phase)
      (emergency : t.emergencyJtcDeactivateRequest = s.emergencyJtcDeactivateRequest)
  /-- An emergency starts and asks for a deactivation. -/
  | alarm
      (same : JtcSame s t)
      (phase : t.phase.inSession = false)
      (emergency : t.emergencyJtcDeactivateRequest = true)
      (busy : s.phase ≠ .idle)
  /-- The cycle goes from a phase outside the session to another one. -/
  | rest
      (same : JtcSame s t)
      (phase : t.phase.inSession = false)
      (emergency : t.emergencyJtcDeactivateRequest = s.emergencyJtcDeactivateRequest)
      (before : s.phase.inSession = false)
      (idle : s.phase = .idle → s.enableRequest = false)
  /-- The enable operation ends before the JTC is touched. -/
  | abandon
      (same : JtcSame s t)
      (phase : t.phase.inSession = false)
      (emergency : t.emergencyJtcDeactivateRequest = s.emergencyJtcDeactivateRequest)
      (before : s.phase.isEnabling = true)
  /-- An enabled group descends for a disable request. -/
  | descend
      (same : JtcSame s t)
      (phase : t.phase.inSession = false)
      (emergency : t.emergencyJtcDeactivateRequest = s.emergencyJtcDeactivateRequest)
      (before : s.phase = .enabled ∨ s.phase = .jtcDeactivating)
      (requested : s.disableRequest = true)
  /-- The callback's failure request is consumed. -/
  | giveUp
      (requested : s.jtcActivateFailedRequest = true)
      (request : t.enableRequest = s.enableRequest)
      (phase : t.phase.inSession = false)
  /-- A requested enable starts. -/
  | accept
      (failed : t.jtcActivateFailedRequest = s.jtcActivateFailedRequest)
      (phase : t.phase = .enabling)
      (emergency : t.emergencyJtcDeactivateRequest = s.emergencyJtcDeactivateRequest)
      (requested : s.enableRequest = true)
      (request : t.enableRequest = false)
      (hardware : t.enableHardwareReady = false)
  /-- The next batch or its delay starts. -/
  | advance
      (same : JtcSame s t)
      (phase : t.phase.isEnabling = true)
      (emergency : t.emergencyJtcDeactivateRequest = s.emergencyJtcDeactivateRequest)
      (before : s.phase.isEnabling = true)
  /-- The last batch is complete. -/
  | ready
      (failed : t.jtcActivateFailedRequest = s.jtcActivateFailedRequest)
      (phase : t.phase = .jtcActivating)
      (emergency : t.emergencyJtcDeactivateRequest = s.emergencyJtcDeactivateRequest)
      (before : s.phase = .enabling)
      (request : t.enableRequest = s.enableRequest)
      (disable : t.disableRequest = false)

theorem JtcSame.of_eq {s t : Controller} (request : t.enableRequest = s.enableRequest)
    (hardware : t.enableHardwareReady = s.enableHardwareReady)
    (failed : t.jtcActivateFailedRequest = s.jtcActivateFailedRequest)
    (disable : t.disableRequest = s.disableRequest)
    (result : t.enableResult = s.enableResult) : JtcSame s t where
  request := request
  hardware := hardware
  failed := failed
  disable := Or.inl disable
  result := Or.inl result

/-- The resting phases lie outside the session. -/
theorem Phase.inSession_of_settled {phase : Phase} {terminal : Prop}
    (settled : phase = .failed ∨ phase = .idle ∧ terminal) : phase.inSession = false := by
  rcases settled with rfl | ⟨rfl, -⟩
  · rfl
  · rfl

theorem jtcFlow_of_cycle {config : Config} {now : Int} {s t : Controller}
    (cycle : Cycle config now s t) : JtcFlow s t := by
  cases cycle with
  | hold | holdEnable | idleAlreadyClear =>
      exact .still (.of_eq rfl rfl rfl rfl rfl) rfl rfl
  | idleAlreadyDisabled => exact .still ⟨rfl, rfl, rfl, Or.inr rfl, Or.inl rfl⟩ rfl rfl
  | monitor _ _ _ _ phase _ _ tripped entered =>
      have outside : phase.inSession = false := by
        cases phase <;> simp_all [Phase.isEmergency] <;> rfl
      have busy : s.phase ≠ .idle := by
        rcases phase_of_monitored tripped with held | held | held <;> simp [held]
      exact .alarm (.of_eq rfl rfl rfl rfl rfl) outside rfl busy
  | enableFault _ _ enabling =>
      have busy : s.phase ≠ .idle := by
        intro idle
        simp [idle, Phase.isEnabling] at enabling
      exact .alarm ⟨rfl, rfl, rfl, Or.inr rfl, Or.inl rfl⟩ rfl rfl busy
  | expire _ _ _ _ _ descending =>
      have busy : s.phase ≠ .idle := by
        intro idle
        simp [idle, Phase.isNormalDescent] at descending
      exact .alarm (.of_eq rfl rfl rfl rfl rfl) rfl rfl busy
  | quickStopped _ _ _ before =>
      exact .rest (.of_eq rfl rfl rfl rfl rfl) rfl rfl (by rw [before]; rfl)
        (fun idle => by cases before.symm.trans idle)
  | finishStartup _ _ _ _ _ before settled | finishDisabling _ _ _ _ _ _ _ before settled =>
      exact .rest (.of_eq rfl rfl rfl rfl rfl) (Phase.inSession_of_settled settled) rfl
        (by rw [before]; rfl) (fun idle => by cases before.symm.trans idle)
  | finishRollback _ _ _ _ _ before settled =>
      exact .rest ⟨rfl, rfl, rfl, Or.inl rfl, Or.inr rfl⟩ (Phase.inSession_of_settled settled) rfl
        (by rw [before]; rfl) (fun idle => by cases before.symm.trans idle)
  | finishEmergency enableResult _ _ _ _ _ _ _ before answersEnable _ settled =>
      have result : enableResult = s.enableResult ∨ enableResult.ready = true := by
        split at answersEnable
        · exact Or.inr answersEnable
        · exact Or.inl answersEnable
      exact .rest ⟨rfl, rfl, rfl, Or.inl rfl, result⟩ (Phase.inSession_of_settled settled) rfl
        (by rw [before]; rfl) (fun idle => by cases before.symm.trans idle)
  | acceptEnable _ _ requested => exact .accept rfl rfl rfl requested rfl rfl
  | startReset _ resting =>
      rcases resting with ⟨idle, unrequested⟩ | ⟨failed, -⟩
      · exact .rest (.of_eq rfl rfl rfl rfl rfl) rfl rfl (by rw [idle]; rfl)
          (fun _ => unrequested)
      · exact .rest (.of_eq rfl rfl rfl rfl rfl) rfl rfl (by rw [failed]; rfl)
          (fun idle => by cases failed.symm.trans idle)
  | preemptEnable _ _ _ _ _ enabling =>
      exact .abandon ⟨rfl, rfl, rfl, Or.inr rfl, Or.inr rfl⟩ rfl rfl enabling
  | nextBatch _ _ delaying =>
      exact .advance (.of_eq rfl rfl rfl rfl rfl) rfl rfl (by rw [delaying]; rfl)
  | batchComplete _ _ enabling =>
      exact .advance (.of_eq rfl rfl rfl rfl rfl) rfl rfl (by rw [enabling]; rfl)
  | hardwareReady _ enabling _ unpreempted =>
      exact .ready rfl rfl rfl enabling rfl unpreempted.2
  | rollbackEnable _ _ _ enabling =>
      exact .abandon (.of_eq rfl rfl rfl rfl rfl) rfl rfl (by rw [enabling]; rfl)
  | activateFailed _ _ _ _ requested => exact .giveUp requested rfl rfl
  | descend _ _ origin _ requested =>
      rcases origin with enabled | deactivating | failed
      · exact .descend ⟨rfl, rfl, rfl, Or.inr rfl, Or.inl rfl⟩ rfl rfl (Or.inl enabled) requested
      · exact .descend ⟨rfl, rfl, rfl, Or.inr rfl, Or.inl rfl⟩ rfl rfl (Or.inr deactivating)
          requested
      · exact .rest ⟨rfl, rfl, rfl, Or.inr rfl, Or.inl rfl⟩ rfl rfl (by rw [failed]; rfl)
          (fun idle => by cases failed.symm.trans idle)
  | preemptReset _ _ _ resetting =>
      exact .rest ⟨rfl, rfl, rfl, Or.inr rfl, Or.inl rfl⟩ rfl rfl
        (by cases before : s.phase <;> simp_all [Phase.isReset] <;> rfl)
        (fun idle => by simp [idle, Phase.isReset] at resetting)
  | raiseReset _ before =>
      exact .rest (.of_eq rfl rfl rfl rfl rfl) rfl rfl (by rw [before]; rfl)
        (fun idle => by cases before.symm.trans idle)
  | finishReset _ _ _ _ before _ _ settled =>
      exact .rest (.of_eq rfl rfl rfl rfl rfl) (Phase.inSession_of_settled settled) rfl
        (by rw [before]; rfl) (fun idle => by cases before.symm.trans idle)
  | failedAlreadyClear _ _ before =>
      exact .rest (.of_eq rfl rfl rfl rfl rfl) rfl rfl (by rw [before]; rfl)
        (fun idle => by cases before.symm.trans idle)

section Moves

attribute [local grind =] Phase.inSession System.headsForJtc System.unlatched Jtc.send
  Jtc.activating Jtc.deactivating Jtc.executed

variable {config : Config} {s t : System} {late : Bool} {event : Event}

theorem phaseLaw_update {now : Int} {readings : Readings} {t : Controller}
    (switch : SwitchLaw Jtc.activating Jtc.deactivating s) (law : PhaseLaw s)
    (requested : s.enableRequest = true → s.phase = .idle)
    (cycle : Cycle config now (s.toController.refreshStatusWords readings) t) :
    PhaseLaw { s with toController := t } := by
  obtain ⟨unfailed, session, off, activating, enabled, deactivating, accounted, stray,
    strayAwait⟩ := law
  obtain ⟨free, held, worker, enable, disable⟩ := switch
  have kept : t.switchInProgress = s.switchInProgress :=
    (Controller.untouched_of_cycle cycle).switchInProgress
  cases jtcFlow_of_cycle cycle with
  | giveUp failed => cases unfailed.symm.trans failed
  | alarm same phase emergency busy =>
      -- the emergency's own request accounts for a JTC that is or becomes active
      have unrequested : s.enableRequest = false := by
        by_contra pending
        exact busy (requested (by simpa using pending))
      constructor <;> grind -linarith [JtcSame]
  | descend same phase emergency before pending =>
      -- `kEnabled` has no disable request, and in `kJtcDeactivating` the switch has returned
      have inactive : s.jtc.active = false ∧ s.switchInProgress = false := by
        rcases before with held | held <;> grind -linarith
      constructor <;> grind -linarith [JtcSame]
  | _ => constructor <;> grind -linarith [JtcSame]

/-- The block that accepts an enable call passes the admission test. -/
theorem admitsEnable_of_fresh (parked : Parked s) (fresh : s.enablePc = .idle)
    (active : s.active = true) (running : s.restartRequired = false) (resting : s.phase = .idle)
    (free : s.owner = .none) : admitsEnable s = true := by
  have uncalled : s.enableCallbackActive = false := by
    by_contra called
    exact parked.enableActive.mp (by simpa using called) fresh
  simp [admitsEnable, uncalled, active, running, resting, free]

theorem phaseLaw_enable (parked : Parked s)
    (switch : SwitchLaw Jtc.activating Jtc.deactivating s) (law : PhaseLaw s)
    (quietly : admitsEnable s = true → jtcQuiet s = true)
    (block : EnableBlock s late t) (running : t.restartRequired = false) : PhaseLaw t := by
  obtain ⟨free, held, worker, enable, disable⟩ := switch
  obtain ⟨unfailed, session, off, activating, enabled, deactivating, accounted, stray,
    strayAwait⟩ := law
  cases block with
  | unsent | lapse => cases running
  | declined awaiting answered =>
      -- the JTC was inactive when the activation was sent
      rcases (enable awaiting).2.2 with ⟨-, unanswered, -⟩ | ⟨-, accepted, -⟩
      · cases unanswered.symm.trans answered
      · cases accepted.symm.trans answered
  | accept fresh active running resting free =>
      -- nothing is outstanding that could account for an active JTC
      have quiet : jtcQuiet s = true :=
        quietly (admitsEnable_of_fresh parked fresh active running resting free)
      constructor <;> grind -linarith [jtcQuiet, DisablePc.switchesJtc]
  | overtaken awaiting answered left =>
      -- the emergency that overtook the callback has its request pending
      have pending := strayAwait awaiting left
      constructor <;> grind -linarith
  | _ => constructor <;> grind -linarith

theorem phaseLaw_disable (switch : SwitchLaw Jtc.activating Jtc.deactivating s) (law : PhaseLaw s)
    (block : DisableBlock s late t) (running : t.restartRequired = false) : PhaseLaw t := by
  obtain ⟨free, held, worker, enable, disable⟩ := switch
  obtain ⟨unfailed, session, off, activating, enabled, deactivating, accounted, stray,
    strayAwait⟩ := law
  cases block with
  | unsent | declined => cases running
  | preempt fresh active preempting => constructor <;> grind -linarith [preempts]
  | take fresh active accepted free => constructor <;> grind -linarith [rejectsDisable]
  | complete awaiting answered =>
      have inactive : s.jtc.active = false := by
        rcases (disable awaiting).2 with ⟨-, unanswered⟩ | ⟨-, -, inactive⟩
        · cases unanswered.symm.trans answered
        · exact inactive
      constructor <;> grind -linarith
  | _ => constructor <;> grind -linarith

theorem phaseLaw_worker (switch : SwitchLaw Jtc.activating Jtc.deactivating s) (law : PhaseLaw s)
    (block : WorkerBlock s event t) (unlatched : t.unlatched) : PhaseLaw t := by
  obtain ⟨free, held, worker, enable, disable⟩ := switch
  obtain ⟨unfailed, session, off, activating, enabled, deactivating, accounted, stray,
    strayAwait⟩ := law
  cases block with
  | busy | missing | declined => cases unlatched.2
  | latch => cases unlatched.1
  | complete late awaiting answered =>
      have inactive : s.jtc.active = false := by
        rcases (worker awaiting).2.2.2 with ⟨-, unanswered⟩ | ⟨-, -, inactive⟩
        · cases unanswered.symm.trans answered
        · exact inactive
      constructor <;> grind -linarith
  | _ => constructor <;> grind -linarith

/-- The enable callback calls `switchJtc` with the JTC inactive. -/
theorem inactive_of_calling (law : PhaseLaw s) (calling : s.enablePc = .switch .acquire) :
    s.jtc.active = false := by
  by_cases activating : s.phase = .jtcActivating
  · obtain ⟨-, -, -, unsent⟩ := law.activating activating
    exact (unsent (by simp [calling])).1
  · exact (law.stray (Or.inl calling) activating).1

theorem SyncLaw.requested (law : SyncLaw s) (requested : s.enableRequest = true) :
    s.phase = .idle :=
  (law.ownership.requested requested).1

theorem syncLaw_update {now : Int} {readings : Readings} {t : Controller} (law : SyncLaw s)
    (cycle : Cycle config now (s.toController.refreshStatusWords readings) t) :
    SyncLaw { s with toController := t } := by
  have kept : { s with toController := t }.unlatched ↔ s.unlatched := by
    simp only [System.unlatched, (Controller.untouched_of_cycle cycle).restartRequired]
    exact Iff.rfl
  have refreshed : (s.toController.refreshStatusWords readings).Ownership :=
    ⟨law.ownership.owned, law.ownership.requested⟩
  refine ⟨refreshed.of_cycle cycle, ?_, ?_, ?_⟩
  · intro started
    rw [kept]
    by_contra latched
    have starting := law.starting
    cases jtcFlow_of_cycle cycle <;> grind -linarith [JtcSame]
  · intro unlatched
    exact switchLaw_update (law.switch (kept.mp unlatched)) cycle
  · intro unlatched
    exact phaseLaw_update (law.switch (kept.mp unlatched)) (law.phases (kept.mp unlatched))
      law.requested cycle

theorem syncLaw_enable (parked : Parked s) (law : SyncLaw s)
    (quietly : admitsEnable s = true → jtcQuiet s = true)
    (block : EnableBlock s late t) : SyncLaw t := by
  have kept : t.unlatched → s.unlatched := by
    cases block <;> simp [System.unlatched]
  refine ⟨ownership_enable law.ownership block, ?_, ?_, ?_⟩
  · have starting := law.starting
    have off := fun unlatched => (law.phases unlatched).off
    have held := fun unlatched => (law.switch unlatched).enable
    cases block with
    | accept fresh active running resting free =>
        have quiet : jtcQuiet s = true :=
          quietly (admitsEnable_of_fresh parked fresh active running resting free)
        grind -linarith [jtcQuiet]
    | _ => grind -linarith
  · intro unlatched
    have switch := law.switch (kept unlatched)
    refine switchLaw_enable switch settles_activating ?_ block unlatched.1
    intro calling free
    have off := inactive_of_calling (law.phases (kept unlatched)) calling
    exact Or.inl ⟨by simp [Jtc.send, (switch.free free).1], rfl, off⟩
  · intro unlatched
    exact phaseLaw_enable parked (law.switch (kept unlatched)) (law.phases (kept unlatched))
      quietly block unlatched.1

theorem syncLaw_disable (law : SyncLaw s) (block : DisableBlock s late t) : SyncLaw t := by
  have kept : t.unlatched → s.unlatched := by
    cases block <;> simp [System.unlatched]
  refine ⟨ownership_disable law.ownership block, ?_, ?_, ?_⟩
  · have starting := law.starting
    have off := fun unlatched => (law.phases unlatched).off
    have held := fun unlatched => (law.switch unlatched).disable
    cases block <;> grind -linarith
  · intro unlatched
    have switch := law.switch (kept unlatched)
    exact switchLaw_disable switch settles_deactivating
      (fun _ free => deactivating_send (switch.free free).1) block unlatched.1
  · intro unlatched
    exact phaseLaw_disable (law.switch (kept unlatched)) (law.phases (kept unlatched)) block
      unlatched.1

theorem syncLaw_worker (law : SyncLaw s) (block : WorkerBlock s event t) : SyncLaw t := by
  have kept : t.unlatched → s.unlatched := by
    cases block <;> simp [System.unlatched]
  refine ⟨ownership_worker law.ownership block, ?_, ?_, ?_⟩
  · have starting := law.starting
    have session := fun unlatched => (law.phases unlatched).session
    cases block <;> grind -linarith
  · intro unlatched
    have switch := law.switch (kept unlatched)
    exact switchLaw_worker switch settles_deactivating
      (fun _ _ _ free => deactivating_send (switch.free free).1) block unlatched
  · intro unlatched
    exact phaseLaw_worker (law.switch (kept unlatched)) (law.phases (kept unlatched)) block
      unlatched

theorem syncLaw_reset (law : SyncLaw s) (block : ResetBlock s late t) : SyncLaw t := by
  have ownership := ownership_reset law.ownership block
  have kept : t.unlatched → s.unlatched := by
    cases block <;> exact id
  refine ⟨ownership, ?_, fun unlatched => switchLaw_reset (law.switch (kept unlatched)) block, ?_⟩
  · cases block <;> exact law.starting
  · intro unlatched
    obtain ⟨unfailed, session, off, activating, enabled, deactivating, accounted, stray,
      strayAwait⟩ := law.phases (kept unlatched)
    cases block <;>
      exact ⟨unfailed, session, off, activating, enabled, deactivating, accounted, stray,
        strayAwait⟩

theorem syncLaw_execute {activate : Bool} {pending : List Bool} (law : SyncLaw s)
    (oldest : s.jtc.pending = activate :: pending) :
    SyncLaw { s with jtc := s.jtc.executed activate pending } := by
  refine ⟨law.ownership, law.starting, ?_, ?_⟩
  · intro unlatched
    apply switchLaw_execute (law.switch unlatched) oldest <;> grind -linarith
  · intro unlatched
    obtain ⟨free, held, worker, enable, disable⟩ := law.switch unlatched
    obtain ⟨unfailed, session, off, activating, enabled, deactivating, accounted, stray,
      strayAwait⟩ := law.phases unlatched
    constructor <;> grind -linarith

/-- Every allowed block step keeps the law. -/
theorem syncLaw_of_move (parked : Parked s) (law : SyncLaw s)
    (allowed : resynchronized s event = true) (move : BlockMove config s event t) :
    SyncLaw t := by
  simp only [resynchronized, truthfulSession, Bool.and_eq_true] at allowed
  obtain ⟨⟨session, truth⟩, quietly⟩ := allowed
  cases move with
  | skip => exact law
  | update now readings t active cycle => exact syncLaw_update law cycle
  | callEnable t block =>
      refine syncLaw_enable parked law ?_ block
      intro admitted
      simpa [admitsQuietly, admitted] using quietly
  | enable late t running block =>
      refine syncLaw_enable parked law ?_ block
      intro admitted
      simp [admitsEnable, parked.enableActive.mpr running] at admitted
  | callDisable t block => exact syncLaw_disable law block
  | disable late t running block => exact syncLaw_disable law block
  | callReset t block => exact syncLaw_reset law block
  | reset late t running block => exact syncLaw_reset law block
  | fireWorker t block | callWorker late t block | resumeWorker late t block
  | latchRestart t block => exact syncLaw_worker law block
  | controllerManager ok changed activate pending oldest =>
      rw [executed_of_truthful oldest truth]
      exact syncLaw_execute law oldest
  | activate | deactivate => simp [inSession, Event.isLifecycle] at session

theorem syncLaw_activated : SyncLaw activated where
  ownership := ownership_activated
  starting := nofun
  switch := fun _ => switchLaw_activated
  phases := fun _ => by
    constructor <;> simp [activated, configured, Controller.onActivate, Phase.isEnabling,
      System.headsForJtc]

/-- Only a cycle that consumes an enable request starts an enable. -/
theorem requested_of_enabling (move : BlockMove config s event t) (before : s.phase = .idle)
    (after : t.phase = .enabling) : s.enableRequest = true := by
  cases phaseMove_of_move move with
  | same phase => cases (phase.trans before).symm.trans after
  | cycle now readings c update cycle target =>
      subst target
      cases jtcFlow_of_cycle cycle <;> grind -linarith
  | enabled _ enabled => cases enabled.symm.trans after
  | deactivating _ deactivating => cases deactivating.symm.trans after
  | lifecycle ended => rcases ended with ended | ended <;> cases ended.symm.trans after

end Moves

/-! ## The result -/

/-- While enables are admitted only once every earlier JTC deactivation is done,
an enable starts with the JTC off and no switch outstanding. -/
theorem enablesWithJtcOff_of_resynchronized (config : Config) :
    EnablesWithJtcOff config resynchronized := by
  intro s reachable t event allowed step before after
  obtain ⟨parked, law⟩ := block_invariant SyncLaw parked_activated syncLaw_activated
    (fun _ parked holds allowed move => syncLaw_of_move parked holds allowed move) reachable
  have requested := requested_of_enabling (blockMove_of_step parked step) before after
  have unlatched := law.starting (Or.inl requested)
  obtain ⟨inactive, free, disable, enable, -⟩ := (law.phases unlatched).off (Or.inl requested)
  obtain ⟨quiet, uncalled, -⟩ := (law.phases unlatched).session (Or.inl requested)
  have executed := ((law.switch unlatched).free free).1
  exact ⟨inactive, quiet, free, executed, uncalled, enable, disable⟩

/-- After an emergency the worker switches the JTC off, and the next enable starts
with nothing outstanding. -/
theorem enablesWithJtcOff_of_workerFirst :
    ∃ s t, Reachable (blockStep defaultConfig) resynchronized activated s ∧
      blockStep defaultConfig s (.update 30000000000 (everyAxis 0x0040)) = some t ∧
      s.phase = .idle ∧ t.phase = .enabling ∧ s.jtc.active = false ∧
      s.emergencyJtcDeactivateRequest = false ∧ s.SwitchesNothing := by
  have found : (run (blockStep defaultConfig) resynchronized activated
      (enableBlocks ++ [Event.enable false] ++ cycles 0x0040 [20, 21, 22, 23] ++
        [Event.fireWorker, .callWorker false, .controllerManager true true,
          .resumeWorker false, .callEnable])).any
      (fun s => s.phase = .idle &&
        (blockStep defaultConfig s (.update 30000000000 (everyAxis 0x0040))).any fun t =>
          t.phase = .enabling) = true := by
    rfl
  obtain ⟨s, reachable, starts⟩ := exists_reachable_of_run found
  simp only [Bool.and_eq_true, decide_eq_true_eq, Option.any_eq_true] at starts
  obtain ⟨idle, t, step, enabling⟩ := starts
  have off := enablesWithJtcOff_of_resynchronized defaultConfig s reachable t _ rfl step idle
    enabling
  exact ⟨s, t, reachable, step, idle, enabling, off⟩

/-- The group is enabled, a cycle finds the axes switched off and the emergency
ends in idle before the worker timer fires; a new enable is admitted at once. -/
def enableBeforeWorker : List Event :=
  enableBlocks ++ [Event.enable false] ++ cycles 0x0040 [20, 21, 22, 23] ++ [Event.callEnable]

/-- The enable starts with the JTC active and its deactivation still requested. -/
theorem not_enablesWithJtcOff_of_enableBeforeWorker :
    ¬EnablesWithJtcOff defaultConfig truthfulSession := by
  intro always
  have found : (run (blockStep defaultConfig) truthfulSession activated enableBeforeWorker).any
      (fun s => s.phase = .idle && s.jtc.active && s.emergencyJtcDeactivateRequest &&
        (blockStep defaultConfig s (.update 30000000000 (everyAxis 0x0040))).any fun t =>
          t.phase = .enabling) = true := by
    rfl
  obtain ⟨s, reachable, raced⟩ := exists_reachable_of_run found
  simp only [Bool.and_eq_true, decide_eq_true_eq, Option.any_eq_true] at raced
  obtain ⟨⟨⟨idle, active⟩, -⟩, t, step, enabling⟩ := raced
  obtain ⟨inactive, -⟩ := always s reachable t _ rfl step idle enabling
  cases inactive.symm.trans active

end RtControl.EnableManager
