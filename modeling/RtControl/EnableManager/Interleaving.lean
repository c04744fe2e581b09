import RtControl.EnableManager.Callbacks
import RtControl.Transition.Core

/-!
# Interleavings of the real-time cycle and the callbacks

Two transition functions share one state and one set of events.  In
`atomicStep` every atomic access of a service callback and of the worker timer is a
step of its own and whole cycles of `update()` run between any two of them.  In
`blockStep` a callback runs on until it calls `switchJtc`, waits for the controller
manager or reaches a wait loop; the worker stops there too, and before it stores the
restart.  Every block is a run of atomic steps.
-/

namespace RtControl.EnableManager

open RtControl.Transition

/-- What the scheduler and the environment choose. -/
inductive Event where
  | update (now : Int) (readings : Readings)
  | callEnable
  | enable (late : Bool)
  | callDisable
  | disable (late : Bool)
  | callReset
  | reset (late : Bool)
  | fireWorker
  | callWorker (late : Bool)
  | resumeWorker (late : Bool)
  | latchRestart
  | controllerManager (ok changed : Bool)
  | activate
  | deactivate

/-- The lifecycle transitions of the controller. -/
def Event.isLifecycle : Event → Bool
  | .activate => true
  | .deactivate => true
  | _ => false

/-- One event with every atomic access of a callback on its own. -/
def atomicStep (config : Config) : Step System Event := fun s event =>
  match event with
  | .update now readings =>
      some { s with toController := s.toController.update config now readings }
  | .callEnable => some s.callEnable
  | .enable late => if s.enablePc = .idle then none else some (s.enableStep late)
  | .callDisable => some s.callDisable
  | .disable late => if s.disablePc = .idle then none else some (s.disableStep late)
  | .callReset => some s.callReset
  | .reset late => if s.resetPc = .idle then none else some (s.resetStep late)
  | .fireWorker => some s.fireWorker
  | .callWorker _ => if s.workersCalling = 0 then none else some s.callWorker
  | .resumeWorker late => if s.worker = .idle then none else some (s.resumeWorker late)
  | .latchRestart => if s.workersFailed = 0 then none else some s.latchRestart
  | .controllerManager ok changed =>
      (s.jtc.execute ok changed).map fun jtc => { s with jtc }
  | .activate =>
      if s.active then none else some { s with toController := s.toController.onActivate }
  | .deactivate =>
      if s.active then some { s with toController := s.toController.onDeactivate } else none

/-! ## Blocks -/

/-- Where an enable callback may be interrupted. -/
def EnablePc.yields : EnablePc → Bool
  | .idle | .loopActive | .switch .acquire | .switch .await | .wait .loadActive => true
  | _ => false

/-- Where a disable callback may be interrupted. -/
def DisablePc.yields : DisablePc → Bool
  | .idle | .switch .acquire | .switch .await | .wait .loadActive => true
  | _ => false

/-- Where a reset callback may be interrupted. -/
def ResetPc.yields : ResetPc → Bool
  | .idle | .wait .loadActive => true
  | _ => false

/-- Where the worker may be interrupted inside `switchJtc`. -/
def WorkerPc.yields : WorkerPc → Bool
  | .idle | .switch .await => true
  | _ => false

/-- More atomic steps than any block of a callback has. -/
def blockLength : Nat := 20

/-- Run the callback of an event on to its next interruption point. -/
def runOn (event : Event) (s : System) : System :=
  match event with
  | .callEnable => settle (System.enableStep · false) (·.enablePc.yields) blockLength s
  | .enable late => settle (System.enableStep · late) (·.enablePc.yields) blockLength s
  | .callDisable => settle (System.disableStep · false) (·.disablePc.yields) blockLength s
  | .disable late => settle (System.disableStep · late) (·.disablePc.yields) blockLength s
  | .callReset => settle (System.resetStep · false) (·.resetPc.yields) blockLength s
  | .reset late => settle (System.resetStep · late) (·.resetPc.yields) blockLength s
  | .callWorker late | .resumeWorker late =>
      settle (System.resumeWorker · late) (·.worker.yields) blockLength s
  | _ => s

/-- One event with a callback running on to its next interruption point. -/
def blockStep (config : Config) : Step System Event := fun s event =>
  (atomicStep config s event).map (runOn event)

/-- The configured controller before its first activation. -/
def configured : System := {}

/-- The system right after the first activation. -/
def activated : System :=
  { configured with toController := configured.toController.onActivate }

/-- Steps within one activation of the controller. -/
def inSession : Guard System Event := fun _ event => !event.isLifecycle

/-- The admission test of `handleEnable`: a call made now takes the idle state
machine. -/
def admitsEnable (s : System) : Bool :=
  !s.enableCallbackActive && s.active && !s.restartRequired && s.phase = .idle &&
    s.owner = .none

/-! ## Scripted cycles -/

/-- Every axis reports the same status word. -/
def everyAxis (word : UInt16) : Readings := fun _ => some word

/-- The first axis is faulted and the others report one word. -/
def firstFaulted (word : UInt16) : Readings := fun axis =>
  if axis = 0 then some 0x0008 else some word

/-- Cycles at the given seconds with one status word on every axis. -/
def cycles (word : UInt16) (seconds : List Nat) : List Event :=
  seconds.map fun second => .update (1000000000 * second) (everyAxis word)

/-- The startup sanitizer on a group that is switched off: it ends in idle. -/
def startupCycles : List Event := cycles 0x0040 [1, 2, 3, 4]

/-- A requested enable on conforming drives: the request is accepted and the
five batches complete, with a delay between them. -/
def batchCycles : List Event :=
  cycles 0x0040 [10] ++ cycles 0x0027 [11, 12, 13, 14, 15, 16, 17, 18, 19]

/-- A whole enable in blocks, from the startup to the enabled group. -/
def enableBlocks : List Event :=
  startupCycles ++ [Event.callEnable] ++ batchCycles ++
    [Event.enable false, .enable false, .controllerManager true true, .enable false]

/-- A whole enable in atomic steps, from the startup to the enabled group. -/
def enableSteps : List Event :=
  startupCycles ++ [Event.callEnable] ++ List.replicate 8 (Event.enable false) ++ batchCycles ++
    List.replicate 6 (Event.enable false) ++ [Event.controllerManager true true] ++
    List.replicate 16 (Event.enable false)

/-! ## Blocks are runs of atomic steps -/

theorem reachable_enable (config : Config) (late : Bool) (fuel : Nat) (s : System) :
    Reachable (atomicStep config) unguarded s
      (settle (System.enableStep · late) (·.enablePc.yields) fuel s) := by
  apply reachable_settle (.enable late)
  intro state moving
  apply if_neg
  intro atIdle
  simp [atIdle, EnablePc.yields] at moving

theorem reachable_disable (config : Config) (late : Bool) (fuel : Nat) (s : System) :
    Reachable (atomicStep config) unguarded s
      (settle (System.disableStep · late) (·.disablePc.yields) fuel s) := by
  apply reachable_settle (.disable late)
  intro state moving
  apply if_neg
  intro atIdle
  simp [atIdle, DisablePc.yields] at moving

theorem reachable_reset (config : Config) (late : Bool) (fuel : Nat) (s : System) :
    Reachable (atomicStep config) unguarded s
      (settle (System.resetStep · late) (·.resetPc.yields) fuel s) := by
  apply reachable_settle (.reset late)
  intro state moving
  apply if_neg
  intro atIdle
  simp [atIdle, ResetPc.yields] at moving

theorem reachable_worker (config : Config) (late : Bool) (fuel : Nat) (s : System) :
    Reachable (atomicStep config) unguarded s
      (settle (System.resumeWorker · late) (·.worker.yields) fuel s) := by
  apply reachable_settle (.resumeWorker late)
  intro state moving
  apply if_neg
  intro atIdle
  simp [atIdle, WorkerPc.yields] at moving

theorem reachable_runOn (config : Config) (event : Event) (s : System) :
    Reachable (atomicStep config) unguarded s (runOn event s) := by
  cases event with
  | callEnable => exact reachable_enable config false _ s
  | enable late => exact reachable_enable config late _ s
  | callDisable => exact reachable_disable config false _ s
  | disable late => exact reachable_disable config late _ s
  | callReset => exact reachable_reset config false _ s
  | reset late => exact reachable_reset config late _ s
  | callWorker late | resumeWorker late => exact reachable_worker config late _ s
  | _ => exact .refl

/-- Every state reached by blocks is reached by atomic steps. -/
theorem reachable_atomic_of_block {config : Config} {guard : Guard System Event}
    {start state : System} (reachable : Reachable (blockStep config) guard start state) :
    Reachable (atomicStep config) unguarded start state := by
  refine reachable.refine ?_
  intro source target event step
  rw [blockStep, Option.map_eq_some_iff] at step
  obtain ⟨middle, first, rfl⟩ := step
  exact (Reachable.single event rfl first).trans (reachable_runOn config event middle)

end RtControl.EnableManager
