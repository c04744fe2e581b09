import RtControl.EnableManager.Blocks

/-!
# Ownership of the state machine

Within one activation and with callbacks running in blocks, the phase determines
which operation may own the state machine.
-/

namespace RtControl.EnableManager

open RtControl.Transition

namespace Controller

/-- The owners a phase admits. -/
def owned (s : Controller) : Prop :=
  match s.phase with
  | .inactive => False
  | .startupSanitizing => s.owner = .internal
  | .idle => s.owner = .none ∨ s.owner = .enable ∧ s.enableRequest = true ∨
      s.owner = .reset ∧ s.resetRequest = true
  | .enabling | .interBatchDelay | .jtcActivating | .rollback => s.owner = .enable
  | .enabled => s.owner = .none
  | .jtcDeactivating => s.owner = .disable
  | .disabling => s.owner = .disable ∨ s.owner = .none ∨ s.owner = .reset
  | .resetLow | .resetHigh => s.owner = .reset ∨ s.owner = .none ∨
      s.owner = .disable ∧ s.disableRequest = true
  | .emergencyQuickStop | .emergencyDisable =>
      s.owner = .internal ∨ s.owner = s.interruptedOwner
  | .failed => s.owner = .none ∨ s.owner = .disable ∧ s.disableRequest = true ∨
      s.owner = .reset ∧ s.resetRequest = true

/-- The phase fits the owner, and a pending enable request stands in the idle
phase. -/
structure Ownership (s : Controller) : Prop where
  owned : s.owned
  requested : s.enableRequest = true → s.phase = .idle ∧ s.owner = .enable

/-- A cycle hands the state machine on as the phase demands. -/
theorem Ownership.of_cycle {config : Config} {now : Int} {s t : Controller}
    (law : s.Ownership) (cycle : Cycle config now s t) : t.Ownership := by
  obtain ⟨owned, requested⟩ := law
  unfold Controller.owned at owned
  cases cycle with
  | monitor _ _ _ _ _ _ _ tripped entered =>
      have watched := phase_of_monitored tripped
      constructor <;> grind -linarith [Controller.owned]
  | _ =>
      constructor <;>
        grind -linarith [Controller.owned]

end Controller

section Blocks

variable {config : Config} {s t : System} {late : Bool} {event : Event}

theorem ownership_enable (law : s.toController.Ownership) (block : EnableBlock s late t) :
    t.toController.Ownership := by
  obtain ⟨owned, requested⟩ := law
  unfold Controller.owned at owned
  cases block <;> constructor <;> grind -linarith [Controller.owned]

theorem ownership_disable (law : s.toController.Ownership) (block : DisableBlock s late t) :
    t.toController.Ownership := by
  obtain ⟨owned, requested⟩ := law
  unfold Controller.owned at owned
  cases block <;> constructor <;> grind -linarith [Controller.owned, preempts, rejectsDisable]

theorem ownership_reset (law : s.toController.Ownership) (block : ResetBlock s late t) :
    t.toController.Ownership := by
  obtain ⟨owned, requested⟩ := law
  unfold Controller.owned at owned
  cases block <;> constructor <;> grind -linarith [Controller.owned]

theorem ownership_worker (law : s.toController.Ownership) (block : WorkerBlock s event t) :
    t.toController.Ownership := by
  obtain ⟨owned, requested⟩ := law
  cases block <;> exact ⟨owned, requested⟩

end Blocks

/-- The startup sanitizer owns the state machine after activation. -/
theorem ownership_activated : activated.toController.Ownership := by
  constructor
  · rfl
  · nofun

end RtControl.EnableManager
