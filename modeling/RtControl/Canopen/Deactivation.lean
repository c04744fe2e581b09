import RtControl.Canopen.Cia402System
import RtControl.Transition.Core

/-!
# The deactivation of the track motors

`on_deactivate` makes all its calls whatever the drivers answer, and succeeds exactly if all of
them are accepted.  It waits for the callback executor before it shuts the first driver down, and
the shutdown of a driver waits for the driver's own threads before it removes the driver: no
callback runs on a driver that has been removed, in any interleaving with these threads.
-/

namespace RtControl.Canopen

open RtControl.Transition

/-! ## The calls -/

/-- The calls whose result is looked at. -/
def Action.judged : Action → Bool
  | .baseActivate | .tpdoTransmit .. | .initMotor _ | .setOperationMode .. | .setTarget ..
  | .shutdownMotor _ | .requestNmtStop | .shutdownDriver _ | .baseDeactivate => true
  | _ => false

/-- The calls that a motor gets before the sleep, unless it is in Switch On Disabled. -/
def targetCalls (drivers : Drivers) (disabled : UInt8 → Bool) (node : UInt8) : List Action :=
  if drivers.has node then
    .getState node :: if disabled node then [] else [.storeVelocity node 0, .setTarget node 0]
  else
    []

/-- Whether the motors report Switch On Disabled when they are asked. -/
def readDisabled (device : Device) (drivers : Drivers) (actions : List Action) (node : UInt8) :
    Bool :=
  let first := device.switchOnDisabled actions 2
  if node = 2 then first
  else device.switchOnDisabled (actions ++ targetCalls drivers (fun _ => first) 2) 3

/-- The calls of `on_deactivate`: both targets, both motors, the bus, the executor, all drivers
and the base. -/
def deactivationCalls (drivers : Drivers) (disabled : UInt8 → Bool) : List Action :=
  trackNodes.flatMap (targetCalls drivers disabled) ++ .sleepMs 20 ::
    (trackNodes.filter drivers.has).map .shutdownMotor ++
      .requestNmtStop :: .stopCallbackExecutor :: drivers.map .shutdownDriver ++ [.baseDeactivate]

/-- The first loop as a script. -/
def targetScript (drivers : Drivers) (disabled : UInt8 → Bool) (node : UInt8) :
    List (ScriptStep Action Failure) :=
  if drivers.has node then
    .perform (.getState node) :: if disabled node then [] else zeroTarget node
  else
    [.fail ⟨node, .driverLookup⟩]

/-- The second loop as a script. -/
def motorScript (drivers : Drivers) (node : UInt8) : List (ScriptStep Action Failure) :=
  if drivers.has node then [.attempt (.shutdownMotor node) ⟨node, .shutdownMotor⟩] else []

/-- `on_deactivate` as a script. -/
def deactivationScript (drivers : Drivers) (disabled : UInt8 → Bool) :
    List (ScriptStep Action Failure) :=
  trackNodes.flatMap (targetScript drivers disabled) ++ .perform (.sleepMs 20) ::
    trackNodes.flatMap (motorScript drivers) ++
      .attempt .requestNmtStop ⟨0, .nmtStop⟩ :: .perform .stopCallbackExecutor ::
        drivers.map fun driver => .attempt (.shutdownDriver driver) ⟨0, .driverShutdown⟩

section Script

variable {device : Device} {drivers : Drivers} {actions : List Action} {j : Log}

theorem deactivateTarget_eq_run (j : Log) (disabled : UInt8 → Bool) (node : UInt8)
    (same : disabled node = device.switchOnDisabled j.actions node) :
    deactivateTarget device drivers j node =
      j.run device.accepts (targetScript drivers disabled node) := by
  rw [deactivateTarget, targetScript, ← same]
  cases drivers.has node with
  | false => rfl
  | true => cases disabled node <;> rfl

theorem deactivateMotor_eq_run (node : UInt8) :
    deactivateMotor device drivers j node = j.run device.accepts (motorScript drivers node) := by
  rw [deactivateMotor, motorScript]
  cases drivers.has node <;> rfl

theorem shutdownDrivers_eq_run :
    shutdownDrivers device drivers j = j.run device.accepts
      (drivers.map fun driver => .attempt (.shutdownDriver driver) ⟨0, .driverShutdown⟩) := by
  rw [shutdownDrivers, Journal.run, List.foldl_map]

theorem actions_targetScript (disabled : UInt8 → Bool) (node : UInt8) :
    (targetScript drivers disabled node).filterMap (·.action) =
      targetCalls drivers disabled node := by
  rw [targetScript, targetCalls]
  cases drivers.has node with
  | false => rfl
  | true => cases disabled node <;> rfl

/-- `on_deactivate` runs its script, with the states that it reads. -/
theorem onDeactivate_eq_run (device : Device) (drivers : Drivers) (actions : List Action) :
    let j := ({ actions } : Log).run device.accepts
      (deactivationScript drivers (readDisabled device drivers actions))
    onDeactivate device drivers actions =
      (j.failure.isNone && device.accepts j.actions .baseDeactivate,
        j.step device.accepts (.perform .baseDeactivate)) := by
  generalize states : readDisabled device drivers actions = disabled
  have two : disabled 2 = device.switchOnDisabled actions 2 := by
    rw [← states]
    rfl
  have three : disabled 3 = device.switchOnDisabled (({ actions } : Log).run device.accepts
      (targetScript drivers disabled 2)).actions 3 := by
    have same : targetCalls drivers disabled 2 =
        targetCalls drivers (fun _ => device.switchOnDisabled actions 2) 2 := by
      rw [targetCalls, targetCalls, two]
    rw [Journal.actions_run, actions_targetScript, same, ← states]
    rfl
  have targeted : trackNodes.foldl (deactivateTarget device drivers) ({ actions } : Log) =
      ({ actions } : Log).run device.accepts
        (trackNodes.flatMap (targetScript drivers disabled)) := by
    rw [Journal.run_flatMap]
    simp only [trackNodes, List.foldl_cons, List.foldl_nil]
    rw [deactivateTarget_eq_run _ disabled 2 two, deactivateTarget_eq_run _ disabled 3 three]
  have motors (j : Log) : trackNodes.foldl (deactivateMotor device drivers) j =
      j.run device.accepts (trackNodes.flatMap (motorScript drivers)) := by
    rw [Journal.run_flatMap]
    congr 1
    funext j node
    exact deactivateMotor_eq_run node
  rw [onDeactivate]
  simp only [targeted, motors, shutdownDrivers_eq_run, deactivationScript, Journal.run_append,
    Journal.run_cons]

theorem actions_motorScripts (nodes : List UInt8) :
    (nodes.flatMap (motorScript drivers)).filterMap (·.action) =
      (nodes.filter drivers.has).map Action.shutdownMotor := by
  induction nodes with
  | nil => rfl
  | cons node nodes ih =>
      rw [List.flatMap_cons, List.filterMap_append, ih, motorScript, List.filter_cons]
      cases drivers.has node <;> rfl

theorem actions_removals :
    (drivers.map fun driver => ScriptStep.attempt (Action.shutdownDriver driver)
      (⟨0, .driverShutdown⟩ : Failure)).filterMap (·.action) =
        drivers.map Action.shutdownDriver := by
  rw [List.filterMap_map]
  show drivers.filterMap (some ∘ Action.shutdownDriver) = _
  rw [List.filterMap_eq_map]

theorem actions_deactivationScript (disabled : UInt8 → Bool) :
    (deactivationScript drivers disabled).filterMap (·.action) ++ [.baseDeactivate] =
      deactivationCalls drivers disabled := by
  simp only [deactivationScript, deactivationCalls, List.filterMap_append, List.filterMap_cons,
    List.filterMap_flatMap, actions_targetScript, actions_removals]
  rw [← actions_motorScripts, List.filterMap_flatMap]
  rfl

theorem judges_targetScript {disabled : UInt8 → Bool} {node : UInt8}
    (found : drivers.has node = true) :
    ∀ s ∈ targetScript drivers disabled node, s.Judges Action.judged := by
  rw [targetScript, if_pos found]
  cases disabled node with
  | true => exact List.forall_mem_singleton.mpr rfl
  | false =>
      simp only [zeroTarget, Bool.false_eq_true, if_false, List.forall_mem_cons]
      exact ⟨rfl, rfl, rfl, List.forall_mem_nil _⟩

theorem judges_motorScript (node : UInt8) :
    ∀ s ∈ motorScript drivers node, s.Judges Action.judged := by
  rw [motorScript]
  cases drivers.has node with
  | true => exact List.forall_mem_singleton.mpr rfl
  | false => exact List.forall_mem_nil _

/-- Without a missing driver, the script looks at the results of its judged calls. -/
theorem judges_deactivationScript (found : ∀ node ∈ trackNodes, drivers.has node = true)
    (disabled : UInt8 → Bool) :
    ∀ s ∈ deactivationScript drivers disabled, s.Judges Action.judged := by
  intro s member
  simp only [deactivationScript, List.mem_append, List.mem_cons, List.mem_flatMap,
    List.mem_map] at member
  rcases member with (⟨node, track, member⟩ | rfl | ⟨node, -, member⟩) |
    rfl | rfl | ⟨driver, -, rfl⟩
  · exact judges_targetScript (found node track) s member
  · rfl
  · exact judges_motorScript node s member
  · rfl
  · rfl
  · rfl

/-- A missing driver fails. -/
theorem fail_mem_deactivationScript {node : UInt8} (track : node ∈ trackNodes)
    (missing : drivers.has node = false) (disabled : UInt8 → Bool) :
    .fail ⟨node, .driverLookup⟩ ∈ deactivationScript drivers disabled := by
  refine List.mem_append_left _ (List.mem_append_left _ (List.mem_flatMap.mpr ⟨node, track, ?_⟩))
  rw [targetScript, missing]
  exact List.mem_singleton_self _

/-- **Deactivation.**  `on_deactivate` makes all its calls, whatever the drivers answer: zero
targets for the motors that are not in Switch On Disabled, and after the sleep the shutdown of both
motors, the NMT stop, the end of the executor, the shutdown of all drivers and the base.  It
succeeds exactly if both track nodes have a driver and every call is accepted. -/
theorem deactivation_goes_on (device : Device) (drivers : Drivers) (actions : List Action) :
    let calls := deactivationCalls drivers (readDisabled device drivers actions)
    (onDeactivate device drivers actions).2.actions = actions ++ calls ∧
      ((onDeactivate device drivers actions).1 = true ↔
        (∀ node ∈ trackNodes, drivers.has node = true) ∧
          Accepted device.accepts Action.judged actions calls) := by
  have same := onDeactivate_eq_run device drivers actions
  dsimp only at same ⊢
  generalize readDisabled device drivers actions = disabled at *
  refine ⟨?_, ?_⟩
  · rw [same, ← actions_deactivationScript, ← List.append_assoc]
    exact congrArg (· ++ [Action.baseDeactivate]) Journal.actions_run
  -- The verdict of the base counts like that of one more step.
  · have verdict : (onDeactivate device drivers actions).1 = true ↔
        (({ actions } : Log).run device.accepts (deactivationScript drivers disabled ++
          [.attempt .baseDeactivate ⟨0, .driverShutdown⟩])).failure = none := by
      rw [same, Journal.run_append, Bool.and_eq_true, Option.isNone_iff_eq_none]
      rw [Journal.run_cons, Journal.run_nil, Journal.step, Option.or_eq_none_iff]
      refine and_congr_right fun _ => ?_
      rw [ScriptStep.refusal]
      cases device.accepts _ Action.baseDeactivate <;> simp
    rw [verdict]
    by_cases found : ∀ node ∈ trackNodes, drivers.has node = true
    · have judges : ∀ s ∈ deactivationScript drivers disabled ++
          [.attempt .baseDeactivate ⟨0, .driverShutdown⟩], s.Judges Action.judged := by
        intro s member
        rcases List.mem_append.mp member with member | last
        · exact judges_deactivationScript found disabled s member
        · cases List.mem_singleton.mp last
          rfl
      rw [Journal.failure_run_eq_none_iff_accepted judges, List.filterMap_append,
        ← actions_deactivationScript, and_iff_right rfl, and_iff_right found]
      rfl
    · refine iff_of_false ?_ fun succeeded => found succeeded.1
      simp only [not_forall] at found
      obtain ⟨node, track, missing⟩ := found
      exact Journal.failure_run_of_mem_fail (List.mem_append_left _
        (fail_mem_deactivationScript track (Bool.eq_false_iff.mpr missing) disabled))

end Script

/-! ## The threads of the callbacks -/

/-- Who runs the callbacks of a driver: the callback executor, or threads of the driver itself. -/
inductive Host where
  | executor
  | driver (node : UInt16)
  deriving DecidableEq, Repr

/-- The calls of `on_deactivate`, down to those that wait for threads and that remove a driver. -/
inductive Call where
  | cancelExecutor
  | joinSpinThread
  | storeActivated (node : UInt16) (activated : Bool)
  /-- `deactivate(true)` of a driver. -/
  | deactivateDerived (node : UInt16)
  | removeFromMaster (node : UInt16)
  | other
  deriving DecidableEq, Repr

/-- The host whose threads a call waits for. -/
def Call.waitsFor : Call → Option Host
  | .joinSpinThread => some .executor
  | .deactivateDerived node => some (.driver node)
  | _ => none

/-- `NodeCanopenDriver::deactivate`, after its checks. -/
def deactivateDriver (node : UInt16) : List Call :=
  [.storeActivated node false, .deactivateDerived node, .removeFromMaster node]

/-- What `shutdown` of a driver gets to before it returns or throws: the calls of `deactivate` that
return, between calls that remove no driver.  A call that throws is one of `after`. -/
structure Shutdown where
  before : List Call
  reached : Nat
  after : List Call
  removesNone : ∀ node, .removeFromMaster node ∉ before ++ after

def Shutdown.calls (shutdown : Shutdown) (node : UInt16) : List Call :=
  shutdown.before ++ (deactivateDriver node).take shutdown.reached ++ shutdown.after

/-- What the calls find: whether `executor_` is set, whether `spin_thread_` is set and joinable, and
how far the shutdown of each driver gets. -/
structure Members where
  executor : Bool
  joinable : Bool
  shutdown : UInt16 → Shutdown

/-- `CanopenSystem::stop_callback_executor` -/
def Members.stopCallbackExecutor (members : Members) : List Call :=
  (if members.executor then [.cancelExecutor] else []) ++
    if members.joinable then [.joinSpinThread] else []

/-- The calls below a call of `on_deactivate`. -/
def Members.calls (members : Members) : Action → List Call
  | .stopCallbackExecutor => members.stopCallbackExecutor
  | .shutdownDriver node => (members.shutdown node).calls node
  | _ => [.other]

/-- The threads of the executor and of the drivers, with the choices of the scheduler.  Their code
is upstream; any number of callbacks may run at a time. -/
structure Threads (σ ι : Type) where
  /-- The host runs a callback of the driver. -/
  runs : σ → Host → UInt16 → Prop
  /-- All threads of the host have ended. -/
  ended : σ → Host → Prop
  /-- A callback begins, goes on or ends. -/
  moves : σ → ι → Option σ
  /-- A call returns, `none` while it waits. -/
  returns : Call → σ → ι → Option σ

/-- What `on_deactivate` relies on: a join returns when the threads have ended, a thread that has
ended runs nothing and is not started again, and a driver's own threads run no callback of another
driver. -/
structure Threads.Documented {σ ι : Type} (threads : Threads σ ι) : Prop where
  waited : ∀ {call host choice s t}, call.waitsFor = some host →
    threads.returns call s choice = some t → threads.ended t host
  stays_moves : ∀ {host choice s t}, threads.moves s choice = some t → threads.ended s host →
    threads.ended t host
  stays_returns : ∀ {call host choice s t}, threads.returns call s choice = some t →
    threads.ended s host → threads.ended t host
  idle : ∀ {host node s}, threads.ended s host → ¬threads.runs s host node
  own : ∀ {node other s}, threads.runs s (.driver other) node → other = node

/-- `on_deactivate` among the threads: the calls that are still to be made, the threads, and the
drivers that have been removed from the master. -/
structure Deactivation (σ : Type) where
  pending : List Call
  threads : σ
  removed : List UInt16 := []
  deriving DecidableEq

/-- The steps. -/
inductive ThreadEvent (ι : Type) where
  /-- The next call of `on_deactivate` returns. -/
  | main (choice : ι)
  | thread (choice : ι)

/-- The drivers that are removed once a call has returned. -/
def Call.removes (removed : List UInt16) : Call → List UInt16
  | .removeFromMaster node => node :: removed
  | _ => removed

/-- One step of `on_deactivate` or of the threads beside it. -/
def threadStep {σ ι : Type} (threads : Threads σ ι) : Step (Deactivation σ) (ThreadEvent ι) :=
  fun s event =>
    match event with
    | .main choice =>
        match s.pending with
        | [] => none
        | call :: pending =>
            (threads.returns call s.threads choice).map fun later =>
              { pending, threads := later, removed := call.removes s.removed }
    | .thread choice => (threads.moves s.threads choice).map fun later => { s with threads := later }

/-- Every driver is removed only after a call has waited for a host of it, unless the threads of
that host have ended already. -/
def RemovedAfter (host : UInt16 → Host) : (UInt16 → Prop) → List Call → Prop
  | _, [] => True
  | ended, call :: calls =>
      (∀ node, call = .removeFromMaster node → ended node) ∧
        RemovedAfter host (fun node => ended node ∨ call.waitsFor = some (host node)) calls

section Order

variable {host : UInt16 → Host} {ended later : UInt16 → Prop} {calls others : List Call}

theorem RemovedAfter.mono (ordered : RemovedAfter host ended calls)
    (kept : ∀ node, ended node → later node) : RemovedAfter host later calls := by
  induction calls generalizing ended later with
  | nil => trivial
  | cons call calls ih =>
      refine ⟨fun node removal => kept node (ordered.1 node removal), ih ordered.2 ?_⟩
      exact fun node => Or.imp_left (kept node)

theorem removedAfter_append (first : RemovedAfter host ended calls)
    (second : RemovedAfter host
      (fun node => ended node ∨ ∃ call ∈ calls, call.waitsFor = some (host node)) others) :
    RemovedAfter host ended (calls ++ others) := by
  induction calls generalizing ended with
  | nil => exact second.mono fun node => by simp
  | cons call calls ih =>
      refine ⟨first.1, ih first.2 (second.mono fun node => ?_)⟩
      simp only [List.exists_mem_cons_iff]
      exact or_assoc.mpr

theorem removedAfter_of_removesNone (removesNone : ∀ node, .removeFromMaster node ∉ calls) :
    RemovedAfter host ended calls := by
  induction calls generalizing ended with
  | nil => trivial
  | cons call calls ih =>
      constructor
      · rintro node rfl
        exact absurd List.mem_cons_self (removesNone node)
      · exact ih fun node member => removesNone node (List.mem_cons_of_mem _ member)

theorem removedAfter_of_ended (all : ∀ node, ended node) : RemovedAfter host ended calls := by
  induction calls generalizing ended with
  | nil => trivial
  | cons call calls ih => exact ⟨fun node _ => all node, ih fun node => Or.inl (all node)⟩

/-- `shutdown` waits for the driver's own threads before it removes the driver. -/
theorem removedAfter_shutdown (shutdown : Shutdown) (node : UInt16) :
    RemovedAfter .driver ended (shutdown.calls node) := by
  have first : ∀ other, .removeFromMaster other ∉ shutdown.before :=
    fun other member => shutdown.removesNone other (List.mem_append_left _ member)
  have last : ∀ other, .removeFromMaster other ∉ shutdown.after :=
    fun other member => shutdown.removesNone other (List.mem_append_right _ member)
  rw [Shutdown.calls, List.append_assoc]
  refine removedAfter_append (removedAfter_of_removesNone first) ?_
  refine removedAfter_append ?_ (removedAfter_of_removesNone last)
  rcases shutdown.reached with _ | _ | _ | more <;>
    simp [deactivateDriver, RemovedAfter, Call.waitsFor]

theorem removedAfter_flatMap {actions : List Action} (members : Members)
    (each : ∀ action, RemovedAfter host ended (members.calls action)) :
    RemovedAfter host ended (actions.flatMap members.calls) := by
  induction actions with
  | nil => trivial
  | cons action actions ih =>
      rw [List.flatMap_cons]
      exact removedAfter_append (each action) (ih.mono fun _ => Or.inl)

variable (members : Members) (drivers : Drivers) (disabled : UInt8 → Bool)

theorem removesNone_stopCallbackExecutor (node : UInt16) :
    .removeFromMaster node ∉ members.stopCallbackExecutor := by
  rw [Members.stopCallbackExecutor]
  cases members.executor <;> cases members.joinable <;> simp

/-- Every driver is removed after its own threads have been waited for. -/
theorem removedAfter_own :
    RemovedAfter .driver ended ((deactivationCalls drivers disabled).flatMap members.calls) := by
  apply removedAfter_flatMap
  intro action
  cases action with
  | stopCallbackExecutor =>
      exact removedAfter_of_removesNone (removesNone_stopCallbackExecutor members)
  | shutdownDriver node => exact removedAfter_shutdown (members.shutdown node) node
  | _ => exact removedAfter_of_removesNone fun node => by simp [Members.calls]

/-- The calls of `on_deactivate` up to the NMT stop. -/
def callsBeforeStop : List Action :=
  trackNodes.flatMap (targetCalls drivers disabled) ++ .sleepMs 20 ::
    (trackNodes.filter drivers.has).map .shutdownMotor ++ [.requestNmtStop]

theorem removesNone_beforeStop (node : UInt16) :
    .removeFromMaster node ∉ (callsBeforeStop drivers disabled).flatMap members.calls := by
  rw [List.mem_flatMap]
  rintro ⟨action, member, removal⟩
  simp only [callsBeforeStop, List.mem_append, List.mem_cons, List.mem_flatMap, List.mem_map,
    List.not_mem_nil, or_false] at member
  rcases member with (⟨track, -, member⟩ | rfl | ⟨track, -, rfl⟩) | rfl
  · rw [targetCalls] at member
    split_ifs at member
    · rw [List.mem_singleton.mp member] at removal
      simp [Members.calls] at removal
    · simp only [List.mem_cons, List.not_mem_nil, or_false] at member
      rcases member with rfl | rfl | rfl <;> simp [Members.calls] at removal
    · exact absurd member List.not_mem_nil
  · simp [Members.calls] at removal
  · simp [Members.calls] at removal
  · simp [Members.calls] at removal

/-- Every driver is removed after the executor has been waited for. -/
theorem removedAfter_executor (spinning : members.joinable = false → ∀ node, ended node) :
    RemovedAfter (fun _ => .executor) ended
      ((deactivationCalls drivers disabled).flatMap members.calls) := by
  have split : deactivationCalls drivers disabled = callsBeforeStop drivers disabled ++
      .stopCallbackExecutor :: (drivers.map .shutdownDriver ++ [.baseDeactivate]) := by
    simp [deactivationCalls, callsBeforeStop]
  rw [split, List.flatMap_append, List.flatMap_cons]
  refine removedAfter_append
    (removedAfter_of_removesNone (removesNone_beforeStop members drivers disabled)) ?_
  refine removedAfter_append
    (removedAfter_of_removesNone (removesNone_stopCallbackExecutor members)) ?_
  -- From here on the threads of the executor have ended.
  apply removedAfter_of_ended
  intro node
  cases joinable : members.joinable with
  | false => exact Or.inl (Or.inl (spinning joinable node))
  | true =>
      refine Or.inr ⟨.joinSpinThread, ?_, rfl⟩
      simp [Members.calls, Members.stopCallbackExecutor, joinable]

end Order

section Runs

variable {σ ι : Type} {threads : Threads σ ι} {s t : Deactivation σ} {event : ThreadEvent ι}

/-- The threads of a host of each removed driver have ended, and every driver that is left is
removed after they have been waited for. -/
structure Waited (threads : Threads σ ι) (host : UInt16 → Host) (s : Deactivation σ) : Prop where
  removed : ∀ node ∈ s.removed, threads.ended s.threads (host node)
  pending : RemovedAfter host (fun node => threads.ended s.threads (host node)) s.pending

theorem Waited.step {host : UInt16 → Host} (documented : threads.Documented)
    (waited : Waited threads host s) (step : threadStep threads s event = some t) :
    Waited threads host t := by
  cases event with
  | main choice =>
      simp only [threadStep] at step
      split at step
      · cases step
      next call calls next =>
        obtain ⟨later, returned, rfl⟩ := Option.map_eq_some_iff.mp step
        have ordered := waited.pending
        rw [next] at ordered
        constructor
        · intro node member
          apply documented.stays_returns returned
          cases call with
          | removeFromMaster removed =>
              rcases List.mem_cons.mp member with rfl | member
              · exact ordered.1 node rfl
              · exact waited.removed node member
          | _ => exact waited.removed node member
        · refine ordered.2.mono fun node => ?_
          rintro (ended | waits)
          · exact documented.stays_returns returned ended
          · exact documented.waited waits returned
  | thread choice =>
      obtain ⟨later, moved, rfl⟩ := Option.map_eq_some_iff.mp step
      exact ⟨fun node member => documented.stays_moves moved (waited.removed node member),
        waited.pending.mono fun node => documented.stays_moves moved⟩

theorem Waited.of_reachable {host : UInt16 → Host} {calls : List Call} {start : σ}
    (documented : threads.Documented)
    (ordered : RemovedAfter host (fun node => threads.ended start (host node)) calls)
    (reachable : Reachable (threadStep threads) unguarded { pending := calls, threads := start }
      s) :
    Waited threads host s :=
  reachable.invariant (Waited threads host) ⟨by simp, ordered⟩ fun _ waited _ step =>
    waited.step documented step

/-- **No callback on a removed driver.**  In every interleaving of `on_deactivate` with the threads
of the executor and of the drivers, once a driver has been removed from the master no host runs a
callback of it, and the executor runs no callback at all. -/
theorem no_callback_after_removal {members : Members} {drivers : Drivers} {disabled : UInt8 → Bool}
    {start : σ} (documented : threads.Documented)
    (spinning : members.joinable = false → threads.ended start .executor)
    (reachable : Reachable (threadStep threads) unguarded
      { pending := (deactivationCalls drivers disabled).flatMap members.calls, threads := start }
      s) :
    ∀ node ∈ s.removed, (∀ host, ¬threads.runs s.threads host node) ∧
      ∀ other, ¬threads.runs s.threads .executor other := by
  intro node removed
  have executor := Waited.of_reachable documented
    (removedAfter_executor members drivers disabled fun idle _ => spinning idle) reachable
  have own := Waited.of_reachable documented (removedAfter_own members drivers disabled) reachable
  constructor
  · intro host runs
    cases host with
    | executor => exact documented.idle (executor.removed node removed) runs
    | driver other =>
        obtain rfl := documented.own runs
        exact documented.idle (own.removed other removed) runs
  · intro other
    exact documented.idle (executor.removed node removed)

end Runs

/-! A pool of threads: the callbacks that run, by host and driver, and the hosts that have been
waited for. -/

structure Pool where
  running : List (Host × UInt16) := []
  joined : List Host := []
  deriving DecidableEq

/-- The choices of the scheduler of a pool. -/
inductive Turn where
  | begins (host : Host) (node : UInt16)
  | ends (host : Host) (node : UInt16)
  | call

/-- A host starts callbacks until it is waited for, its threads run side by side, and who waits for
it goes on when none of its callbacks runs. -/
def pool : Threads Pool Turn where
  runs s host node := (host = .executor ∨ host = .driver node) ∧ (host, node) ∈ s.running
  ended s host := host ∈ s.joined ∧ ∀ node, (host, node) ∉ s.running
  moves s
    | .begins host node =>
        if host ∈ s.joined then none else some { s with running := (host, node) :: s.running }
    | .ends host node => some { s with running := s.running.erase (host, node) }
    | .call => none
  returns call s _ :=
    match call.waitsFor with
    | some host =>
        if s.running.all (·.1 ≠ host) then some { s with joined := host :: s.joined } else none
    | none => some s

theorem documented_pool : pool.Documented where
  waited := by
    intro call host choice s t waits returned
    simp only [pool, waits] at returned
    obtain ⟨drained, ⟨⟩⟩ := Option.ite_none_right_eq_some.mp returned
    rw [List.all_eq_true] at drained
    refine ⟨List.mem_cons_self, fun node member => ?_⟩
    simpa using drained _ member
  stays_moves := by
    rintro host choice s t moved ⟨joined, drained⟩
    cases choice with
    | begins other node =>
        obtain ⟨alive, ⟨⟩⟩ := Option.ite_none_left_eq_some.mp moved
        refine ⟨joined, fun node' member => ?_⟩
        rcases List.mem_cons.mp member with same | member
        · cases same
          exact alive joined
        · exact drained node' member
    | ends other node =>
        cases moved
        exact ⟨joined, fun node' member => drained node' (List.mem_of_mem_erase member)⟩
    | call => cases moved
  stays_returns := by
    rintro call host choice s t returned ⟨joined, drained⟩
    simp only [pool] at returned
    split at returned
    · obtain ⟨-, ⟨⟩⟩ := Option.ite_none_right_eq_some.mp returned
      exact ⟨List.mem_cons_of_mem _ joined, drained⟩
    · cases returned
      exact ⟨joined, drained⟩
  idle := fun ended runs => ended.2 _ runs.2
  own := by
    rintro node other s ⟨host, -⟩
    simpa using host

/-- Both drivers are deactivated to the end. -/
def wholeShutdown : Members where
  executor := true
  joinable := true
  shutdown _ := { before := [.other], reached := 3, after := [.other], removesNone := by simp }

/-- Two callbacks run on the executor and one on a thread of driver 3, which goes on after driver 2
has been removed. -/
theorem no_callback_after_removal_of_pool :
    ∃ s : Deactivation Pool, s.removed = [2] ∧ pool.runs s.threads (.driver 3) 3 ∧
      (∀ host, ¬pool.runs s.threads host 2) ∧ ∀ other, ¬pool.runs s.threads .executor other := by
  have ran : (run (threadStep pool) unguarded
      { pending := (deactivationCalls [2, 3] fun _ => false).flatMap wholeShutdown.calls
        threads := ({} : Pool) }
      ([.thread (.begins .executor 2), .thread (.begins .executor 3),
        .thread (.begins (.driver 3) 3)] ++ List.replicate 10 (.main .call) ++
        [.thread (.ends .executor 2), .thread (.ends .executor 3)] ++
        List.replicate 6 (.main .call))).any
        (fun s => s.removed = [2] && s.threads.running = [(.driver 3, 3)]) = true := by
    decide +kernel
  obtain ⟨s, reachable, ended⟩ := exists_reachable_of_run ran
  simp only [Bool.and_eq_true, decide_eq_true_eq] at ended
  obtain ⟨removed, running⟩ := ended
  have quiet := no_callback_after_removal documented_pool (fun idle => absurd idle (by decide))
    reachable
    2 (by rw [removed]; exact List.mem_singleton_self 2)
  exact ⟨s, removed, ⟨Or.inr rfl, by rw [running]; exact List.mem_singleton_self _⟩, quiet⟩

end RtControl.Canopen
