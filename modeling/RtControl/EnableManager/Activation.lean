import RtControl.EnableManager.Blocks

/-!
# The JTC is activated on an enabled group only

The enable callback learns from the sticky flag `enable_hardware_ready_` that the
last batch is complete, after a poll delay.  The phase may have moved on by then,
and the callback does not look at it again before it sends the activation
request.
-/

namespace RtControl.EnableManager

open RtControl.Transition

/-- The enable callback has not sent its activation request yet. -/
def EnablePc.beforeSend (pc : EnablePc) : Bool :=
  pc = .loopActive || pc = .switch .acquire

/-- Within a session, `kJtcActivating` is not left by a fault or by a failure
request before the callback has sent its activation request. -/
def holdsUntilSent : Guard System Event := fun s event =>
  inSession s event &&
    match event with
    | .update _ readings =>
        !(s.phase = .jtcActivating && s.enablePc.beforeSend &&
          (anyFault (refreshedWords readings) || s.jtcActivateFailedRequest))
    | _ => true

/-- Every activation request is sent in `kJtcActivating`. -/
def ActivatesEnabledGroup (config : Config) (guard : Guard System Event) : Prop :=
  ∀ s t event, Reachable (blockStep config) guard activated s →
    guard s event = true → blockStep config s event = some t →
    t.jtc.pending = s.jtc.pending ++ [true] → s.phase = .jtcActivating

/-- Where the sticky flag leads the callback on, the phase is
`kJtcActivating`. -/
structure ActivationLaw (s : System) : Prop where
  polling : s.enablePc = .loopActive → s.enableHardwareReady = true →
    s.phase = .jtcActivating
  calling : s.enablePc = .switch .acquire → s.phase = .jtcActivating

section Moves

variable {config : Config} {s t : System} {late : Bool} {event : Event}

/-- A cycle leaves `kJtcActivating` for a fault or a failure request only. -/
theorem jtcActivating_of_cycle {now : Int} {s t : Controller} (cycle : Cycle config now s t)
    (activating : s.phase = .jtcActivating) :
    t.phase = .jtcActivating ∨ anyFault s.statusWords = true ∨
      s.jtcActivateFailedRequest = true := by
  cases cycle with
  | hold => exact Or.inl activating
  | monitor _ _ _ _ _ _ _ tripped =>
      exact Or.inr (Or.inl (anyFault_of_monitored tripped (by simp [activating])))
  | activateFailed _ _ _ _ requested => exact Or.inr (Or.inr requested)
  | _ => grind -linarith

theorem activationLaw_update {now : Int} {readings : Readings} {t : Controller}
    (law : ActivationLaw s)
    (holds : s.phase = .jtcActivating → s.enablePc.beforeSend = true →
      anyFault (refreshedWords readings) = false ∧ s.jtcActivateFailedRequest = false)
    (cycle : Cycle config now (s.toController.refreshStatusWords readings) t) :
    ActivationLaw { s with toController := t } := by
  have stays : s.enablePc.beforeSend = true → s.phase = .jtcActivating →
      t.phase = .jtcActivating := by
    intro unsent activating
    obtain ⟨healthy, unrequested⟩ := holds activating unsent
    rcases jtcActivating_of_cycle cycle activating with same | faulted | requested
    · exact same
    · have faulted : anyFault (refreshedWords readings) = true := faulted
      simp [healthy] at faulted
    · have requested : s.jtcActivateFailedRequest = true := requested
      simp [unrequested] at requested
  constructor
  · intro polling ready
    have polling : s.enablePc = .loopActive := polling
    have ready : t.enableHardwareReady = true := ready
    have unsent : s.enablePc.beforeSend = true := by simp [polling, EnablePc.beforeSend]
    cases enableFlow_of_cycle cycle with
    | ready _ after => exact after
    | accept _ _ _ _ hardware => simp [hardware] at ready
    | same _ _ hardware
    | outside _ _ _ _ hardware
    | advance _ _ _ hardware =>
        have readyBefore : s.enableHardwareReady = true := hardware ▸ ready
        exact stays unsent (law.polling polling readyBefore)
  · intro calling
    have calling : s.enablePc = .switch .acquire := calling
    exact stays (by simp [calling, EnablePc.beforeSend]) (law.calling calling)

theorem activationLaw_enable (law : ActivationLaw s) (block : EnableBlock s late t) :
    ActivationLaw t := by
  obtain ⟨polling, calling⟩ := law
  cases block with
  | stay => exact ⟨polling, calling⟩
  | proceed polls hardware => exact ⟨nofun, fun _ => polling polls hardware⟩
  | _ => exact ⟨by simp, by simp⟩

theorem activationLaw_disable (law : ActivationLaw s) (block : DisableBlock s late t) :
    ActivationLaw t := by
  obtain ⟨polling, calling⟩ := law
  cases block with
  | takeEnabled _ _ enabled =>
      constructor
      · intro polls hardware
        cases enabled.symm.trans (polling polls hardware)
      · intro calls
        cases enabled.symm.trans (calling calls)
  | _ => exact ⟨polling, calling⟩

/-- Every allowed block step keeps the law. -/
theorem activationLaw_of_move (law : ActivationLaw s) (allowed : holdsUntilSent s event = true)
    (move : BlockMove config s event t) : ActivationLaw t := by
  obtain ⟨polling, calling⟩ := law
  cases move with
  | skip => exact ⟨polling, calling⟩
  | update now readings t active cycle =>
      refine activationLaw_update ⟨polling, calling⟩ ?_ cycle
      intro activating unsent
      simpa [holdsUntilSent, inSession, Event.isLifecycle, activating, unsent] using allowed
  | callEnable t block => exact activationLaw_enable ⟨polling, calling⟩ block
  | enable late t running block => exact activationLaw_enable ⟨polling, calling⟩ block
  | callDisable t block => exact activationLaw_disable ⟨polling, calling⟩ block
  | disable late t running block => exact activationLaw_disable ⟨polling, calling⟩ block
  | callReset t block => cases block <;> exact ⟨polling, calling⟩
  | reset late t running block => cases block <;> exact ⟨polling, calling⟩
  | fireWorker t block | callWorker late t block | resumeWorker late t block
  | latchRestart t block => cases block <;> exact ⟨polling, calling⟩
  | controllerManager => exact ⟨polling, calling⟩
  | activate | deactivate => simp [holdsUntilSent, inSession, Event.isLifecycle] at allowed

/-- Only the enable callback, when it calls `switchJtc`, sends an activation
request. -/
theorem calling_of_activation (move : BlockMove config s event t)
    (sent : t.jtc.pending = s.jtc.pending ++ [true]) : s.enablePc = .switch .acquire := by
  have unsent : s.jtc.pending ≠ s.jtc.pending ++ [true] := by simp
  cases move with
  | callEnable t block => cases block <;> first | assumption | exact absurd sent unsent
  | enable late t running block => cases block <;> first | assumption | exact absurd sent unsent
  | callDisable t block => cases block <;> simp [Jtc.send] at sent
  | disable late t running block => cases block <;> simp [Jtc.send] at sent
  | callReset t block => cases block <;> exact absurd sent unsent
  | reset late t running block => cases block <;> exact absurd sent unsent
  | fireWorker t block | callWorker late t block | resumeWorker late t block
  | latchRestart t block => cases block <;> simp [Jtc.send] at sent
  | controllerManager ok changed activate pending oldest =>
      have lengths := congrArg List.length sent
      simp only [oldest, List.length_append, List.length_cons, List.length_nil] at lengths
      omega
  | skip | update | activate | deactivate => exact absurd sent unsent

end Moves

/-! ## The result -/

/-- While `kJtcActivating` is held until the request is sent, the JTC is
activated on an enabled group only. -/
theorem activatesEnabledGroup_of_holdsUntilSent (config : Config) :
    ActivatesEnabledGroup config holdsUntilSent := by
  intro s t event reachable allowed step sent
  obtain ⟨parked, law⟩ := block_invariant ActivationLaw parked_activated ⟨nofun, nofun⟩
    (fun _ _ holds allowed move => activationLaw_of_move holds allowed move) reachable
  exact law.calling (calling_of_activation (blockMove_of_step parked step) sent)

/-- The callback turns to the JTC and sends its request in `kJtcActivating`. -/
theorem activatesEnabledGroup_of_batchCycles :
    ∃ s t, Reachable (blockStep defaultConfig) holdsUntilSent activated s ∧
      blockStep defaultConfig s (.enable false) = some t ∧
      t.jtc.pending = s.jtc.pending ++ [true] ∧ s.phase = .jtcActivating := by
  have found : (run (blockStep defaultConfig) holdsUntilSent activated
      (startupCycles ++ [Event.callEnable] ++ batchCycles ++ [Event.enable false])).any (fun s =>
        (blockStep defaultConfig s (.enable false)).any fun t =>
          t.jtc.pending = s.jtc.pending ++ [true]) = true := by
    rfl
  obtain ⟨s, reachable, sends⟩ := exists_reachable_of_run found
  rw [Option.any_eq_true] at sends
  obtain ⟨t, step, sent⟩ := sends
  rw [decide_eq_true_eq] at sent
  have activating := activatesEnabledGroup_of_holdsUntilSent defaultConfig s t _ reachable rfl
    step sent
  exact ⟨s, t, reachable, step, sent, activating⟩

/-- The batches complete, a fault is seen before the callback polls again, and
the callback then turns to the JTC. -/
def faultBeforePoll : List Event :=
  startupCycles ++ [Event.callEnable] ++ batchCycles ++ cycles 0x0008 [20] ++ [Event.enable false]

/-- The activation request is sent during the emergency. -/
theorem not_activatesEnabledGroup_of_faultBeforePoll :
    ¬ActivatesEnabledGroup defaultConfig inSession := by
  intro always
  have found : (run (blockStep defaultConfig) inSession activated faultBeforePoll).any
      (fun s => s.phase.isEmergency && (blockStep defaultConfig s (.enable false)).any fun t =>
        t.jtc.pending = s.jtc.pending ++ [true]) = true := by
    rfl
  obtain ⟨s, reachable, raced⟩ := exists_reachable_of_run found
  rw [Bool.and_eq_true, Option.any_eq_true] at raced
  obtain ⟨emergency, t, step, sent⟩ := raced
  rw [decide_eq_true_eq] at sent
  have activating := always s t (.enable false) reachable rfl step sent
  simp [activating, Phase.isEmergency] at emergency

end RtControl.EnableManager
