import RtControl.EnableManager.Ownership

/-!
# No descent without a caller

`disable_request_` is raised after a controller switch of up to seconds.  A fault
in `kJtcDeactivating` may run the whole emergency and answer the caller in the
meantime; the flag raised afterwards, or a flag whose caller gave up, is then
consumed by a later phase on nobody's behalf.
-/

namespace RtControl.EnableManager

open RtControl.Transition

/-- No cycle sees a fault in `kJtcDeactivating`, and no disable call gives up
while its request is pending. -/
def keepsCaller : Guard System Event := fun s event =>
  inSession s event &&
    match event with
    | .update _ readings =>
        !(s.phase = .jtcDeactivating && anyFault (refreshedWords readings))
    | .disable late =>
        !(late && s.disablePc = .wait .loadActive && s.disableRequest)
    | _ => true

/-- The history of the disable call that runs last: whether a descent was
already started for it. -/
def recordDescent (s : System) (_ : Event) (t : System) (served : Bool) : Bool :=
  if s.phase ≠ .disabling ∧ t.phase = .disabling then true
  else if s.disableCallbackActive = false ∧ t.disableCallbackActive = true then false
  else served

/-- A disable call waits for a result that is not published. -/
def awaitsDisable (s : System) : Prop :=
  s.disableCallbackActive = true ∧ s.disableResult.ready = false

/-- No ghost operation: a descent is owned by the disable operation, it starts
for a waiting disable call that is not answered and had no descent before, and a
pending request has such a call behind it. -/
def NoGhost (config : Config) (guard : Guard System Event) : Prop :=
  ∀ s served,
    Reachable (observed (blockStep config) recordDescent) (onState guard) (activated, false)
        (s, served) →
      (s.phase = .disabling → s.owner = .disable) ∧
      (s.disableRequest = true → awaitsDisable s) ∧
      ∀ t event, guard s event = true → blockStep config s event = some t →
        s.phase ≠ .disabling → t.phase = .disabling →
          awaitsDisable s ∧ s.disableRequest = true ∧ t.disableRequest = false ∧
            served = false

/-- How a pending disable request, its caller and the phase belong together. -/
structure GhostLaw (s : System) (served : Bool) : Prop where
  ownership : s.toController.Ownership
  active : s.active = true
  raised : s.disableRequest = true →
    s.disablePc = .wait .loadActive ∧ s.disableResult.ready = false ∧ served = false ∧
      (s.phase.isEnabling = true ∨ s.phase.isReset = true ∨ s.phase = .jtcDeactivating ∨
        s.phase = .failed ∧ s.owner = .disable)
  switching : s.disablePc = .switch .acquire ∨ s.disablePc = .switch .await →
    s.phase = .jtcDeactivating ∧ s.disableResult.ready = false ∧ served = false
  sampled : s.phase.isEnabling = true → s.enablePreemptRequested = true →
    s.disableRequest = true
  descending : s.phase = .disabling → s.owner = .disable

section Moves

variable {config : Config} {s t : System} {late served : Bool} {event : Event}

theorem ghostLaw_update {now : Int} {readings : Readings} {t : Controller}
    (law : GhostLaw s served)
    (healthy : s.phase = .jtcDeactivating → anyFault (refreshedWords readings) = false)
    (cycle : Cycle config now (s.toController.refreshStatusWords readings) t) :
    GhostLaw { s with toController := t }
      (recordDescent s (.update now readings) { s with toController := t } served) := by
  have refreshed : (s.toController.refreshStatusWords readings).Ownership :=
    ⟨law.ownership.owned, law.ownership.requested⟩
  have ownership := refreshed.of_cycle cycle
  obtain ⟨⟨owned, requested⟩, active, raised, switching, sampled, descending⟩ := law
  unfold Controller.owned at owned
  cases cycle with
  | monitor _ _ _ _ _ _ _ tripped entered =>
      -- in `kJtcDeactivating` only a fault trips the monitor, and the guard rules it out
      have watched := phase_of_monitored tripped
      have settled : s.phase ≠ .jtcDeactivating := by
        intro deactivating
        have faulted := anyFault_of_monitored tripped
          (by simp [Controller.refreshStatusWords, deactivating])
        have words : anyFault (refreshedWords readings) = true := faulted
        simp [healthy deactivating] at words
      refine ⟨ownership, active, ?_, ?_, ?_, ?_⟩ <;>
        grind -linarith [recordDescent]
  | _ =>
      refine ⟨ownership, active, ?_, ?_, ?_, ?_⟩ <;>
        grind -linarith [recordDescent]

theorem ghostLaw_enable (law : GhostLaw s served) (block : EnableBlock s late t) :
    GhostLaw t (recordDescent s event t served) := by
  have ownership := ownership_enable law.ownership block
  obtain ⟨⟨owned, requested⟩, active, raised, switching, sampled, descending⟩ := law
  unfold Controller.owned at owned
  cases block <;> refine ⟨ownership, active, ?_, ?_, ?_, ?_⟩ <;>
    grind -linarith [recordDescent]

theorem ghostLaw_disable (parked : Parked s) (law : GhostLaw s served)
    (stays : late = true → s.disablePc = .wait .loadActive → s.disableRequest = false)
    (block : DisableBlock s late t) : GhostLaw t (recordDescent s event t served) := by
  have ownership := ownership_disable law.ownership block
  have called := parked.disableActive
  obtain ⟨⟨owned, requested⟩, active, raised, switching, sampled, descending⟩ := law
  unfold Controller.owned at owned
  cases block <;> refine ⟨ownership, active, ?_, ?_, ?_, ?_⟩ <;>
    grind -linarith [recordDescent, preempts, rejectsDisable]

theorem ghostLaw_reset (law : GhostLaw s served) (block : ResetBlock s late t) :
    GhostLaw t (recordDescent s event t served) := by
  have ownership := ownership_reset law.ownership block
  obtain ⟨⟨owned, requested⟩, active, raised, switching, sampled, descending⟩ := law
  unfold Controller.owned at owned
  cases block <;> refine ⟨ownership, active, ?_, ?_, ?_, ?_⟩ <;> grind -linarith [recordDescent]

theorem ghostLaw_worker (law : GhostLaw s served) (block : WorkerBlock s event t) :
    GhostLaw t (recordDescent s event t served) := by
  have ownership := ownership_worker law.ownership block
  obtain ⟨-, active, raised, switching, sampled, descending⟩ := law
  cases block <;> refine ⟨ownership, active, ?_, ?_, ?_, ?_⟩ <;> grind -linarith [recordDescent]

/-- Every allowed block step keeps the law. -/
theorem ghostLaw_of_move (parked : Parked s) (law : GhostLaw s served)
    (allowed : keepsCaller s event = true) (move : BlockMove config s event t) :
    GhostLaw t (recordDescent s event t served) := by
  cases move with
  | skip => simpa [recordDescent] using law
  | update now readings t active cycle =>
      refine ghostLaw_update law ?_ cycle
      intro deactivating
      simpa [keepsCaller, inSession, Event.isLifecycle, deactivating] using allowed
  | callEnable t block => exact ghostLaw_enable law block
  | enable late t running block => exact ghostLaw_enable law block
  | callDisable t block => exact ghostLaw_disable parked law (by simp) block
  | disable late t running block =>
      refine ghostLaw_disable parked law ?_ block
      intro expired waiting
      simpa [keepsCaller, inSession, Event.isLifecycle, expired, waiting] using allowed
  | callReset t block => exact ghostLaw_reset law block
  | reset late t running block => exact ghostLaw_reset law block
  | fireWorker t block | callWorker late t block | resumeWorker late t block
  | latchRestart t block => exact ghostLaw_worker law block
  | controllerManager ok changed activate pending oldest =>
      obtain ⟨ownership, active, raised, switching, sampled, descending⟩ := law
      refine ⟨ownership, active, ?_, ?_, ?_, ?_⟩ <;> grind -linarith [recordDescent]
  | activate | deactivate => simp [keepsCaller, inSession, Event.isLifecycle] at allowed

/-- The steps that start a descent consume a pending disable request. -/
theorem descent_of_move (law : GhostLaw s served) (move : BlockMove config s event t)
    (before : s.phase ≠ .disabling) (after : t.phase = .disabling) :
    s.disableRequest = true ∧ t.disableRequest = false := by
  have sampled := law.sampled
  cases phaseMove_of_move move with
  | same phase => exact absurd (phase.symm.trans after) before
  | cycle now readings c update cycle target =>
      subst target
      cases cycle <;> grind -linarith
  | enabled _ enabled => cases enabled.symm.trans after
  | deactivating _ deactivating => cases deactivating.symm.trans after
  | lifecycle ended => rcases ended with ended | ended <;> cases ended.symm.trans after

end Moves

/-! ## The result -/

/-- While no fault is seen in `kJtcDeactivating` and no disable call gives up on
a pending request, every descent has its caller. -/
theorem noGhost_of_keepsCaller (config : Config) : NoGhost config keepsCaller := by
  intro s served reachable
  have initial : GhostLaw activated false :=
    ⟨ownership_activated, rfl, nofun, nofun, nofun, nofun⟩
  obtain ⟨parked, law⟩ : Parked s ∧ GhostLaw s served := by
    refine observed_invariant GhostLaw parked_activated initial ?_ reachable
    intro source target history event parked holds allowed move
    exact ghostLaw_of_move parked holds allowed move
  have waits : s.disableRequest = true → awaitsDisable s := by
    intro requested
    obtain ⟨waiting, unready, -⟩ := law.raised requested
    exact ⟨parked.disableActive.mpr (by simp [waiting]), unready⟩
  refine ⟨law.descending, waits, ?_⟩
  intro t event allowed step before after
  obtain ⟨requested, consumed⟩ :=
    descent_of_move law (blockMove_of_step parked step) before after
  exact ⟨waits requested, requested, consumed, (law.raised requested).2.2.1⟩

/-- A disable switches the JTC off, raises its request and waits when the descent
starts. -/
theorem noGhost_of_disable :
    ∃ s t served,
      Reachable (observed (blockStep defaultConfig) recordDescent) (onState keepsCaller)
          (activated, false) (s, served) ∧
        blockStep defaultConfig s (.update 20000000000 (everyAxis 0x0027)) = some t ∧
        s.phase ≠ .disabling ∧ t.phase = .disabling ∧ awaitsDisable s ∧ served = false := by
  have found : (run (observed (blockStep defaultConfig) recordDescent) (onState keepsCaller)
      (activated, false) (enableBlocks ++
        [Event.callDisable, .disable false, .controllerManager true true, .disable false])).any
      (fun observation => observation.1.phase ≠ .disabling &&
        keepsCaller observation.1 (.update 20000000000 (everyAxis 0x0027)) &&
        (blockStep defaultConfig observation.1
          (.update 20000000000 (everyAxis 0x0027))).any fun t => t.phase = .disabling) =
        true := by
    rfl
  obtain ⟨⟨s, served⟩, reachable, starts⟩ := exists_reachable_of_run found
  simp only [Bool.and_eq_true, decide_eq_true_eq, Option.any_eq_true] at starts
  obtain ⟨⟨before, allowed⟩, t, step, after⟩ := starts
  obtain ⟨-, -, descends⟩ := noGhost_of_keepsCaller defaultConfig s served reachable
  obtain ⟨waits, -, -, unserved⟩ := descends t _ allowed step before after
  exact ⟨s, t, served, reachable, step, before, after, waits, unserved⟩

/-- The group is enabled, a disable switches the JTC off, and a cycle sees a
fault meanwhile: the emergency ends and answers the disable call before its
request is raised. -/
def faultWhileDeactivating : List Event :=
  enableBlocks ++ [Event.callDisable, .disable false] ++ cycles 0x0008 [20, 21, 22, 23] ++
    [Event.controllerManager true true, .disable false]

/-- The request is left pending after its call was answered. -/
theorem not_noGhost_of_faultWhileDeactivating : ¬NoGhost defaultConfig inSession := by
  intro always
  have found : (run (observed (blockStep defaultConfig) recordDescent) (onState inSession)
      (activated, false) faultWhileDeactivating).any
      (fun observation => observation.1.disableRequest && observation.1.disableResult.ready) =
        true := by
    rfl
  obtain ⟨⟨s, served⟩, reachable, left⟩ := exists_reachable_of_run found
  rw [Bool.and_eq_true] at left
  obtain ⟨requested, answered⟩ := left
  obtain ⟨-, waits, -⟩ := always s served reachable
  simp [(waits requested).2] at answered

end RtControl.EnableManager
