import RtControl.EnableManager.Ownership

/-!
# Every admitted call is answered

A call waits for its result slot until the operation that ends its episode
publishes it.  Which slot that is follows from the owner of the state machine,
and for an emergency from the interrupted owner.  A disable that preempts an
enable does not take ownership: when a fault turns the enable into an emergency,
its request is dropped and its slot is never published.
-/

namespace RtControl.EnableManager

open RtControl.Transition

/-- The cycle sees a fault while an enable runs that a waiting disable has asked
to preempt. -/
def dropsPreemption (s : System) (readings : Readings) : Bool :=
  s.active && s.phase.isEnabling && anyFault (refreshedWords readings) &&
    s.disableRequest && s.disableCallbackActive && !s.disableResult.ready

/-- Within a session, no fault meets an enable under preemption. -/
def keepsPreemption : Guard System Event := fun s event =>
  inSession s event &&
    match event with
    | .update _ readings => !dropsPreemption s readings
    | _ => true

/-- No lost response: at rest, with no owner and no request pending, every
admitted call that still waits has its result. -/
def NoLostResponse (config : Config) (guard : Guard System Event) : Prop :=
  ∀ s, Reachable (blockStep config) guard activated s →
    (s.phase = .idle ∨ s.phase = .enabled ∨ s.phase = .failed) → s.owner = .none →
    s.enableRequest = false → s.disableRequest = false → s.resetRequest = false →
      (s.enablePc ≠ .idle → s.enableResult.ready = true) ∧
        (s.disablePc ≠ .idle → s.disableResult.ready = true) ∧
        (s.resetPc ≠ .idle → s.resetResult.ready = true)

/-- Who will publish the slot of a call that still waits. -/
structure AnswerLaw (s : Controller) : Prop where
  ownership : s.Ownership
  enable : s.enableCallbackActive = true → s.enableResult.ready = false →
    s.owner = .enable ∨ s.phase.isEmergency = true ∧ s.interruptedOwner = .enable
  disable : s.disableCallbackActive = true → s.disableResult.ready = false →
    s.owner = .disable ∨
      s.disableRequest = true ∧ (s.phase.isEnabling = true ∨ s.phase.isReset = true) ∨
      s.phase.isEmergency = true ∧ s.interruptedOwner = .disable
  reset : s.resetCallbackActive = true → s.resetResult.ready = false →
    s.resetRequest = true ∨ s.phase.isReset = true

section Cycles

variable {config : Config} {now : Int} {s t : Controller}

theorem enableAnswer_of_cycle (law : AnswerLaw s) (cycle : Cycle config now s t)
    (waiting : t.enableCallbackActive = true) (unanswered : t.enableResult.ready = false) :
    t.owner = .enable ∨ t.phase.isEmergency = true ∧ t.interruptedOwner = .enable := by
  obtain ⟨⟨owned, requested⟩, enable, -, -⟩ := law
  unfold Controller.owned at owned
  cases cycle with
  | monitor _ _ _ _ _ _ _ tripped entered =>
      have watched := phase_of_monitored tripped
      grind -linarith
  | _ =>
      grind -linarith [Controller.published]

theorem disableAnswer_of_cycle (law : AnswerLaw s) (cycle : Cycle config now s t)
    (kept : s.phase.isEnabling = true → anyFault s.statusWords = true →
      s.disableRequest = true → s.disableCallbackActive = true → s.disableResult.ready = true)
    (waiting : t.disableCallbackActive = true) (unanswered : t.disableResult.ready = false) :
    t.owner = .disable ∨
      t.disableRequest = true ∧ (t.phase.isEnabling = true ∨ t.phase.isReset = true) ∨
      t.phase.isEmergency = true ∧ t.interruptedOwner = .disable := by
  obtain ⟨⟨owned, requested⟩, -, disable, -⟩ := law
  unfold Controller.owned at owned
  cases cycle with
  | monitor _ _ _ _ _ _ _ tripped entered =>
      have watched := phase_of_monitored tripped
      grind -linarith
  | _ =>
      grind -linarith [Controller.published]

theorem resetAnswer_of_cycle (law : AnswerLaw s) (cycle : Cycle config now s t)
    (waiting : t.resetCallbackActive = true) (unanswered : t.resetResult.ready = false) :
    t.resetRequest = true ∨ t.phase.isReset = true := by
  obtain ⟨⟨owned, requested⟩, -, -, reset⟩ := law
  cases cycle with
  | monitor _ _ _ _ _ _ _ tripped entered =>
      have watched := phase_of_monitored tripped
      grind -linarith
  | _ => grind -linarith

end Cycles

section Blocks

variable {config : Config} {s t : System} {late : Bool} {event : Event}

theorem answerLaw_update {now : Int} {readings : Readings} {t : Controller}
    (law : AnswerLaw s.toController) (active : s.active = true)
    (keeps : dropsPreemption s readings = false)
    (cycle : Cycle config now (s.toController.refreshStatusWords readings) t) :
    AnswerLaw t := by
  have refreshed : AnswerLaw (s.toController.refreshStatusWords readings) :=
    ⟨⟨law.ownership.owned, law.ownership.requested⟩, law.enable, law.disable, law.reset⟩
  constructor
  · exact refreshed.ownership.of_cycle cycle
  · exact enableAnswer_of_cycle refreshed cycle
  · apply disableAnswer_of_cycle refreshed cycle
    intro enabling faulted requested waiting
    have enabling : s.phase.isEnabling = true := enabling
    have faulted : anyFault (refreshedWords readings) = true := faulted
    have requested : s.disableRequest = true := requested
    have waiting : s.disableCallbackActive = true := waiting
    have answered : s.disableResult.ready = true := by
      simpa [dropsPreemption, active, enabling, faulted, requested, waiting] using keeps
    exact answered
  · exact resetAnswer_of_cycle refreshed cycle

theorem answerLaw_enable (law : AnswerLaw s.toController) (block : EnableBlock s late t) :
    AnswerLaw t.toController := by
  have ownership := ownership_enable law.ownership block
  obtain ⟨⟨owned, requested⟩, enable, disable, reset⟩ := law
  unfold Controller.owned at owned
  cases block <;> refine ⟨ownership, ?_, ?_, ?_⟩ <;>
    grind -linarith [Controller.published]

theorem answerLaw_disable (law : AnswerLaw s.toController) (block : DisableBlock s late t) :
    AnswerLaw t.toController := by
  have ownership := ownership_disable law.ownership block
  obtain ⟨⟨owned, requested⟩, enable, disable, reset⟩ := law
  unfold Controller.owned at owned
  cases block <;> refine ⟨ownership, ?_, ?_, ?_⟩ <;>
    grind -linarith [preempts]

theorem answerLaw_reset (law : AnswerLaw s.toController) (block : ResetBlock s late t) :
    AnswerLaw t.toController := by
  have ownership := ownership_reset law.ownership block
  obtain ⟨⟨owned, requested⟩, enable, disable, reset⟩ := law
  unfold Controller.owned at owned
  cases block <;> refine ⟨ownership, ?_, ?_, ?_⟩ <;> grind -linarith

theorem answerLaw_worker (law : AnswerLaw s.toController) (block : WorkerBlock s event t) :
    AnswerLaw t.toController := by
  have ownership := ownership_worker law.ownership block
  cases block <;> exact ⟨ownership, law.enable, law.disable, law.reset⟩

/-- Every allowed block step keeps the law. -/
theorem answerLaw_of_move (law : AnswerLaw s.toController)
    (allowed : keepsPreemption s event = true) (move : BlockMove config s event t) :
    AnswerLaw t.toController := by
  cases move with
  | skip => exact law
  | update now readings t active cycle =>
      have keeps : dropsPreemption s readings = false := by
        simpa [keepsPreemption, inSession, Event.isLifecycle] using allowed
      exact answerLaw_update law active keeps cycle
  | callEnable t block => exact answerLaw_enable law block
  | enable late t running block => exact answerLaw_enable law block
  | callDisable t block => exact answerLaw_disable law block
  | disable late t running block => exact answerLaw_disable law block
  | callReset t block => exact answerLaw_reset law block
  | reset late t running block => exact answerLaw_reset law block
  | fireWorker t block | callWorker late t block | resumeWorker late t block
  | latchRestart t block => exact answerLaw_worker law block
  | controllerManager => exact ⟨law.ownership, law.enable, law.disable, law.reset⟩
  | activate | deactivate => simp [keepsPreemption, inSession, Event.isLifecycle] at allowed

end Blocks

/-! ## The result -/

/-- While no fault meets an enable under preemption, no response is lost. -/
theorem noLostResponse_of_keepsPreemption (config : Config) :
    NoLostResponse config keepsPreemption := by
  intro s reachable resting free enableIdle disableIdle resetIdle
  have initial : AnswerLaw activated.toController :=
    ⟨ownership_activated, nofun, nofun, nofun⟩
  obtain ⟨parked, law⟩ := block_invariant (fun s => AnswerLaw s.toController)
    parked_activated initial
    (fun _ _ holds allowed move => answerLaw_of_move holds allowed move) reachable
  have calm : s.phase.isEmergency = false ∧ s.phase.isReset = false := by
    rcases resting with idle | enabled | failed <;>
      simp [*, Phase.isEmergency, Phase.isReset]
  refine ⟨fun waiting => ?_, fun waiting => ?_, fun waiting => ?_⟩
  · by_contra unready
    have owner := law.enable (parked.enableActive.mpr waiting) (by simpa using unready)
    simp [free, calm] at owner
  · by_contra unready
    have owner := law.disable (parked.disableActive.mpr waiting) (by simpa using unready)
    simp [free, calm, disableIdle] at owner
  · by_contra unready
    have pending := law.reset (parked.resetActive.mpr waiting) (by simpa using unready)
    simp [calm, resetIdle] at pending

/-- A disable preempts an enable in its first batch and both calls are
answered. -/
theorem noLostResponse_of_preemption :
    ∃ s, Reachable (blockStep defaultConfig) keepsPreemption activated s ∧
      s.phase = .idle ∧ s.enablePc ≠ .idle ∧ s.disablePc ≠ .idle ∧
      s.enableResult.ready = true ∧ s.disableResult.ready = true := by
  have found : (run (blockStep defaultConfig) keepsPreemption activated
      (startupCycles ++ [Event.callEnable] ++ cycles 0x0040 [10] ++ [Event.callDisable] ++
        cycles 0x0040 [11, 12, 13, 14, 15, 16, 17])).any (fun s =>
        s.phase = .idle && s.owner = .none && !s.enableRequest && !s.disableRequest &&
          !s.resetRequest && s.enablePc ≠ .idle && s.disablePc ≠ .idle) = true := by
    rfl
  obtain ⟨s, reachable, rested⟩ := exists_reachable_of_run found
  simp only [Bool.and_eq_true, decide_eq_true_eq, Bool.not_eq_true'] at rested
  obtain ⟨⟨⟨⟨⟨⟨idle, free⟩, enableIdle⟩, disableIdle⟩, resetIdle⟩, enabling⟩, disabling⟩ := rested
  obtain ⟨enableReady, disableReady, -⟩ := noLostResponse_of_keepsPreemption defaultConfig s
    reachable (Or.inl idle) free enableIdle disableIdle resetIdle
  exact ⟨s, reachable, idle, enabling, disabling, enableReady enabling, disableReady disabling⟩

/-- A disable preempts an enable in its first batch and the next cycle sees a
fault; the emergency then runs to its end. -/
def faultUnderPreemption : List Event :=
  startupCycles ++ [Event.callEnable] ++ cycles 0x0040 [10] ++ [Event.callDisable] ++
    cycles 0x0008 [11, 12, 13, 14, 15]

/-- The disable call is left without a result. -/
theorem not_noLostResponse_of_faultUnderPreemption :
    ¬NoLostResponse defaultConfig inSession := by
  intro always
  have found : (run (blockStep defaultConfig) inSession activated faultUnderPreemption).any
      (fun s => s.phase = .failed && s.owner = .none && !s.enableRequest &&
        !s.disableRequest && !s.resetRequest && s.disablePc ≠ .idle &&
        !s.disableResult.ready) = true := by
    rfl
  obtain ⟨s, reachable, lost⟩ := exists_reachable_of_run found
  simp only [Bool.and_eq_true, decide_eq_true_eq, Bool.not_eq_true'] at lost
  obtain ⟨⟨⟨⟨⟨⟨failed, free⟩, enableIdle⟩, disableIdle⟩, resetIdle⟩, waiting⟩, unready⟩ := lost
  obtain ⟨-, answered, -⟩ :=
    always s reachable (Or.inr (Or.inr failed)) free enableIdle disableIdle resetIdle
  simp [answered waiting] at unready

end RtControl.EnableManager
