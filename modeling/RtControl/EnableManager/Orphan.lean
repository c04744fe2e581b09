import RtControl.EnableManager.Atomic

/-!
# Every JTC activation keeps its callback

`kJtcActivating` has no deadline in `update()`: it is left only because the
enable callback stores `kEnabled` or raises `jtc_activate_failed_request_`, or
because a fault is seen.  The callback may return early from its first wait; if
the enable operation is still under way then, the last batch parks the group in
`kJtcActivating` with nobody left to move it on.
-/

namespace RtControl.EnableManager

open RtControl.Transition

/-- The callback still has the decision on `kJtcActivating` before it: the phase
check, or the store or request the check leads to. -/
def EnableStage.decides (stage : EnableStage) : Bool :=
  stage = .polling || stage = .switching || stage = .committing

/-- The enable operation is requested, running or waiting for the JTC. -/
def underway (s : System) : Bool :=
  s.active && (s.enableRequest || s.phase.isEnabling || s.phase = .jtcActivating)

/-- `handleEnable` takes no early return from its first wait, with a published
result or with hardware that is not ready, while its operation is under way. -/
def staysUntilDone : Guard System Event := fun s event =>
  match event with
  | .enable _ =>
      !((s.enablePc = .afterReady && s.enableResult.ready ||
        s.enablePc = .afterHardware && !s.enableHardwareReady) && underway s)
  | _ => true

/-- No orphaned activation: in `kJtcActivating` a live enable callback has its
decision before it, or has raised the failure request that the next cycle
consumes. -/
def NoOrphan (config : Config) (guard : Guard System Event) : Prop :=
  ∀ s, Reachable (atomicStep config) guard configured s →
    s.phase = .jtcActivating →
      (s.enableCallbackActive = true ∧ s.enablePc.stage.decides = true) ∨
        s.jtcActivateFailedRequest = true

/-- How the enable request, the enabling phases and the callback belong
together. -/
structure OrphanLaw (s : System) : Prop where
  callback : s.enableCallbackActive = true ↔ s.enablePc ≠ .idle
  inactive : s.active = false → s.phase.isEnabling = false ∧ s.phase ≠ .jtcActivating
  polling : s.active = true → (s.enableRequest = true ∨ s.phase.isEnabling = true) →
    s.enablePc.stage = .polling ∧ s.enableHardwareReady = false
  cleared : s.enablePc.stage = .cleared → s.enableHardwareReady = false
  accepted : s.phase.isEnabling = true → s.enableRequest = false
  admitted : s.enablePc.stage = .admitted ∨ s.enablePc.stage = .cleared →
    s.phase ≠ .jtcActivating
  deciding : s.phase = .jtcActivating → s.enableRequest = false ∧
    (s.enablePc.stage.decides = true ∧
        (s.enablePc.stage = .polling → s.enableHardwareReady = true) ∨
      s.jtcActivateFailedRequest = true)

section Invariant

variable {config : Config} {s t : System} {event : Event}

/-- The law reads only what the enable operation shares with the callback. -/
theorem OrphanLaw.congr (law : OrphanLaw s) (same : EnableSame s t)
    (active : t.active = s.active) (pc : t.enablePc = s.enablePc)
    (callback : t.enableCallbackActive = s.enableCallbackActive) : OrphanLaw t := by
  obtain ⟨phase, request, hardware, failed⟩ := same
  constructor
  · rw [callback, pc]
    exact law.callback
  · rw [active, phase]
    exact law.inactive
  · rw [active, request, phase, pc, hardware]
    exact law.polling
  · rw [pc, hardware]
    exact law.cleared
  · rw [phase, request]
    exact law.accepted
  · rw [pc, phase]
    exact law.admitted
  · rw [phase, request, pc, hardware, failed]
    exact law.deciding

/-- Leaving the phases of the enable operation keeps the law. -/
theorem OrphanLaw.outside (law : OrphanLaw s)
    (active : t.active = s.active) (pc : t.enablePc = s.enablePc)
    (callback : t.enableCallbackActive = s.enableCallbackActive)
    (request : t.enableRequest = s.enableRequest)
    (hardware : t.enableHardwareReady = s.enableHardwareReady)
    (enabling : t.phase.isEnabling = false) (activating : t.phase ≠ .jtcActivating) :
    OrphanLaw t := by
  constructor
  · rw [callback, pc]
    exact law.callback
  · intro _
    exact ⟨enabling, activating⟩
  · intro running under
    rw [active] at running
    rw [request, enabling] at under
    rw [pc, hardware]
    exact law.polling running (under.imp_right (by simp))
  · rw [pc, hardware]
    exact law.cleared
  · intro enabled
    simp [enabled] at enabling
  · intro _
    exact activating
  · intro waiting
    exact absurd waiting activating

theorem orphanLaw_update {now : Int} {readings : Readings} {t : Controller}
    (law : OrphanLaw s) (active : s.active = true)
    (cycle : Cycle config now (s.toController.refreshStatusWords readings) t) :
    OrphanLaw { s with toController := t } := by
  have callbackKept : t.enableCallbackActive = s.enableCallbackActive :=
    (Controller.untouched_of_cycle cycle).enableCallbackActive
  have activeKept : t.active = s.active := (Controller.untouched_of_cycle cycle).active
  cases enableFlow_of_cycle cycle with
  | same phase request hardware failed =>
      exact law.congr ⟨phase, request, hardware, failed⟩ activeKept rfl callbackKept
  | outside enabling activating _ request hardware =>
      exact law.outside activeKept rfl callbackKept request hardware enabling activating
  | accept idle requested phase request hardware =>
      obtain ⟨polls, -⟩ := law.polling active (Or.inl requested)
      constructor
      · rw [callbackKept]
        exact law.callback
      · simp [activeKept, active]
      · intro _ _
        exact ⟨polls, hardware⟩
      · intro _
        exact hardware
      · intro _
        exact request
      · simp [phase]
      · simp [phase]
  | advance before after request hardware =>
      have law' := law.polling active (Or.inr before)
      constructor
      · rw [callbackKept]
        exact law.callback
      · simp [activeKept, active]
      · intro _ _
        rw [hardware]
        exact law'
      · rw [hardware]
        exact law.cleared
      · intro _
        rw [request]
        exact law.accepted before
      · intro early
        simp [law'.1] at early
      · intro activating
        have waiting : t.phase = .jtcActivating := activating
        simp [waiting, Phase.isEnabling] at after
  | ready before after request hardware _ =>
      have enabling : s.phase.isEnabling = true := by
        have inBatch : s.phase = .enabling := before
        simp [inBatch, Phase.isEnabling]
      obtain ⟨polls, -⟩ := law.polling active (Or.inr enabling)
      have unrequested : t.enableRequest = false := by
        rw [request]
        exact law.accepted enabling
      constructor
      · rw [callbackKept]
        exact law.callback
      · simp [activeKept, active]
      · simp [unrequested, after, Phase.isEnabling]
      · simp [polls]
      · intro _
        exact unrequested
      · simp [polls]
      · intro _
        exact ⟨unrequested, Or.inl ⟨by simp [polls, EnableStage.decides], fun _ => hardware⟩⟩

theorem orphanLaw_enable {late : Bool} (law : OrphanLaw s) (running : s.enablePc ≠ .idle)
    (stays : staysUntilDone s (.enable late) = true) :
    OrphanLaw (s.enableStep late) := by
  have activeKept := (enableStep_frame s late).active
  have callbackKept := enableStep_callback s late running
  have advance := enableStep_advance s late
  constructor
  · rcases callbackKept with ⟨live, kept⟩ | ⟨ended, dropped⟩
    · rw [kept]
      have flag := law.callback.mpr running
      simp [flag, live]
    · simp [ended, dropped]
  · cases advance <;> grind -linarith [EnableSame, OrphanLaw]
  · cases advance <;>
      grind -linarith [EnableSame, OrphanLaw, EnablePc.stage, staysUntilDone, underway]
  · cases advance <;> grind -linarith [EnableSame, OrphanLaw, EnablePc.stage]
  · cases advance <;> grind -linarith [EnableSame, OrphanLaw]
  · cases advance <;> grind -linarith [EnableSame, OrphanLaw, EnablePc.stage]
  · cases advance <;>
      grind -linarith [EnableSame, OrphanLaw, EnableStage.decides, EnablePc.stage,
        staysUntilDone, underway]

theorem orphanLaw_disable (law : OrphanLaw s) (frame : DisableFrame s t) : OrphanLaw t := by
  rcases frame.phase with phase | ⟨-, phase⟩
  · exact law.congr
      ⟨phase, frame.enableRequest, frame.enableHardwareReady, frame.jtcActivateFailedRequest⟩
      frame.active frame.enablePc frame.enableCallbackActive
  · exact law.outside frame.active frame.enablePc frame.enableCallbackActive frame.enableRequest
      frame.enableHardwareReady (by simp [phase, Phase.isEnabling]) (by simp [phase])

theorem orphanLaw_callEnable (law : OrphanLaw s) : OrphanLaw s.callEnable := by
  unfold System.callEnable
  split
  · exact law
  · rename_i free
    have atIdle : s.enablePc = .idle := by
      by_contra running
      exact free (law.callback.mpr running)
    constructor
    · simp
    · exact law.inactive
    · intro active under
      have polls := (law.polling active under).1
      simp [atIdle, EnablePc.stage] at polls
    · simp [EnablePc.stage]
    · exact law.accepted
    · simp [EnablePc.stage]
    · intro activating
      obtain ⟨unrequested, decided⟩ := law.deciding activating
      rw [atIdle] at decided
      simpa [EnablePc.stage, EnableStage.decides] using And.intro unrequested decided

/-- Every allowed atomic step keeps the law. -/
theorem orphanLaw_step (law : OrphanLaw s) (stays : staysUntilDone s event = true)
    (step : atomicStep config s event = some t) : OrphanLaw t := by
  cases atomicMove_of_step step with
  | skip => exact law
  | update now readings t active cycle => exact orphanLaw_update law active cycle
  | callEnable => exact orphanLaw_callEnable law
  | enable late running => exact orphanLaw_enable law running stays
  | callDisable => exact orphanLaw_disable law (callDisable_frame s)
  | disable late running => exact orphanLaw_disable law (disableStep_frame s late)
  | bystander event t frame =>
      exact law.congr
        ⟨frame.phase, frame.enableRequest, frame.enableHardwareReady,
          frame.jtcActivateFailedRequest⟩
        frame.active frame.enablePc frame.enableCallbackActive
  | activate inactive =>
      constructor
      · exact law.callback
      · simp [Controller.onActivate]
      · simp [Controller.onActivate, Controller.setAllControlWords, Phase.isEnabling]
      · simp [Controller.onActivate]
      · simp [Controller.onActivate]
      · simp [Controller.onActivate]
      · simp [Controller.onActivate]
  | deactivate active =>
      constructor
      · exact law.callback
      · simp [Controller.onDeactivate, Phase.isEnabling]
      · simp [Controller.onDeactivate]
      · exact law.cleared
      · simp [Controller.onDeactivate, Phase.isEnabling]
      · simp [Controller.onDeactivate]
      · simp [Controller.onDeactivate]

end Invariant

/-! ## The result -/

/-- While `handleEnable` does not give up on an operation that is under way, no
run orphans `kJtcActivating`. -/
theorem noOrphan_of_staysUntilDone (config : Config) : NoOrphan config staysUntilDone := by
  intro s reachable activating
  have law : OrphanLaw s := by
    refine reachable.invariant OrphanLaw ?_ fun event holds stays step =>
      orphanLaw_step holds stays step
    constructor <;> decide
  obtain ⟨-, ⟨decides, -⟩ | failed⟩ := law.deciding activating
  · refine Or.inl ⟨law.callback.mpr ?_, decides⟩
    intro atIdle
    simp [atIdle, EnablePc.stage, EnableStage.decides] at decides
  · exact Or.inr failed

/-- The batches complete while the callback polls. -/
theorem noOrphan_of_polling :
    ∃ s, Reachable (atomicStep defaultConfig) staysUntilDone configured s ∧
      s.phase = .jtcActivating ∧ s.jtcActivateFailedRequest = false ∧
      s.enableCallbackActive = true ∧ s.enablePc.stage.decides = true := by
  have found : (run (atomicStep defaultConfig) staysUntilDone configured
      ([Event.activate] ++ startupCycles ++ [Event.callEnable] ++
        List.replicate 8 (Event.enable false) ++ batchCycles)).any
      (fun s => s.phase = .jtcActivating && !s.jtcActivateFailedRequest) = true := by
    rfl
  obtain ⟨s, reachable, reached⟩ := exists_reachable_of_run found
  simp only [Bool.and_eq_true, decide_eq_true_eq, Bool.not_eq_true'] at reached
  obtain ⟨activating, unfailed⟩ := reached
  rcases noOrphan_of_staysUntilDone defaultConfig s reachable activating with live | failed
  · exact ⟨s, reachable, activating, unfailed, live⟩
  · cases unfailed.symm.trans failed

/-- The wait of `handleEnable` expires in the first batch; the batches then
complete without it. -/
def abandonedEnable : List Event :=
  [Event.activate] ++ startupCycles ++ [Event.callEnable, .enable true] ++ batchCycles

/-- An enable call that times out while the batches run orphans
`kJtcActivating`. -/
theorem not_noOrphan_of_abandonedEnable : ¬NoOrphan defaultConfig unguarded := by
  intro always
  have found : (run (blockStep defaultConfig) unguarded configured abandonedEnable).any
      (fun s => s.phase = .jtcActivating && !s.enableCallbackActive &&
        !s.jtcActivateFailedRequest) = true := by
    rfl
  obtain ⟨s, reachable, orphaned⟩ := exists_reachable_of_run found
  simp only [Bool.and_eq_true, decide_eq_true_eq, Bool.not_eq_true'] at orphaned
  obtain ⟨⟨activating, ended⟩, unfailed⟩ := orphaned
  rcases always s (reachable_atomic_of_block reachable) activating with ⟨live, -⟩ | failed
  · simp [ended] at live
  · simp [unfailed] at failed

end RtControl.EnableManager
