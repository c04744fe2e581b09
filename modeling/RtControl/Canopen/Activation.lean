import RtControl.Canopen.Deactivation
import Mathlib.Data.List.Permutation

/-!
# The activation of the track motors

Only one configuration is accepted, whatever the order of the joints.  The activation brings up
node 2 and then node 3 and stops at the first call that is refused.  Then every motor that has a
driver is shut down after its target has been set to zero, and a rollback that fails ends with
the NMT stop of all nodes.
-/

namespace RtControl.Canopen

open RtControl.Codec
open RtControl.Transition

/-! ## The configuration -/

/-- The configurations of the track motors. -/
def trackMotors : List MotorConfiguration :=
  trackNodes.map fun node => { nodeId := node, operationMode := profiledVelocity }

/-- What a joint contributes to the configurations. -/
def Joint.read (joint : Joint) : Except ConfigurationError (Option MotorConfiguration) :=
  match joint.nodeId, joint.operationMode with
  | none, _ => .ok none
  | some _, none => .error (.noOperationMode joint.name)
  | some nodeId, some operationMode => (readMotor joint.name nodeId operationMode).map some

section Configuration

variable {joints others : List Joint} {joint : Joint} {motors found : List MotorConfiguration}
variable {motor : MotorConfiguration}

theorem readMotors_cons_eq_ok_iff :
    readMotors (joint :: joints) = .ok motors ↔
      ∃ motor rest, joint.read = .ok motor ∧ readMotors joints = .ok rest ∧
        motors = motor.toList ++ rest := by
  rw [readMotors, Joint.read]
  cases joint.nodeId with
  | none => simp [eq_comm]
  | some nodeId =>
      cases joint.operationMode with
      | none => simp
      | some operationMode =>
          dsimp only
          cases readMotor joint.name nodeId operationMode with
          | error reason => simp [Except.bind, Except.map]
          | ok motor =>
              cases readMotors joints with
              | error reason => simp [Except.bind, Except.map]
              | ok rest => simp [Except.bind, Except.map, eq_comm]

theorem operationMode_of_readMotor {joint nodeId operationMode : String}
    (read : readMotor joint nodeId operationMode = .ok motor) :
    motor.operationMode = profiledVelocity := by
  rw [readMotor] at read
  split at read
  · split_ifs at read with large unsupported
    cases read
    rw [not_or, not_not] at unsupported
    exact unsupported.2
  · cases read

theorem operationMode_of_read (read : joint.read = .ok (some motor)) :
    motor.operationMode = profiledVelocity := by
  rw [Joint.read] at read
  split at read
  · cases read
  · cases read
  next nodeId operationMode _ _ =>
    cases selected : readMotor joint.name nodeId operationMode with
    | error reason =>
        rw [selected] at read
        cases read
    | ok other =>
        rw [selected] at read
        cases read
        exact operationMode_of_readMotor selected

theorem operationMode_of_readMotors (read : readMotors joints = .ok motors) :
    ∀ motor ∈ motors, motor.operationMode = profiledVelocity := by
  induction joints generalizing motors with
  | nil =>
      cases read
      intro motor member
      cases member
  | cons joint joints ih =>
      obtain ⟨first, rest, selected, others, rfl⟩ := readMotors_cons_eq_ok_iff.mp read
      intro motor member
      rcases List.mem_append.mp member with member | member
      · rw [Option.mem_toList] at member
        subst member
        exact operationMode_of_read selected
      · exact ih others motor member

theorem eq_trackMotors (nodes : motors.map (·.nodeId) = trackNodes)
    (modes : ∀ motor ∈ motors, motor.operationMode = profiledVelocity) :
    motors = trackMotors := by
  rw [trackMotors, ← nodes, List.map_map]
  symm
  refine (List.map_congr_left fun motor member => ?_).trans motors.map_id
  rw [Function.comp_apply, ← modes motor member]
  rfl

/-- The only accepted configurations are those of the track motors. -/
theorem configure_eq_ok_iff :
    configure joints = .ok motors ↔
      motors = trackMotors ∧ ∃ found, readMotors joints = .ok found ∧ found.Perm trackMotors := by
  rw [configure]
  cases read : readMotors joints with
  | error reason => simp [Except.bind]
  | ok found =>
      have sorted := List.perm_insertionSort
        (fun first second : MotorConfiguration => first.nodeId ≤ second.nodeId) found
      simp only [Except.bind, Except.ok.injEq, exists_eq_left']
      constructor
      · intro accepted
        split_ifs at accepted with nodes
        cases accepted
        have modes := operationMode_of_readMotors read
        have same := eq_trackMotors nodes fun motor member =>
          modes motor (sorted.mem_iff.mp member)
        exact ⟨same, same ▸ sorted.symm⟩
      · rintro ⟨rfl, perm⟩
        rcases List.perm_pair.mp perm with rfl | rfl <;> rfl

end Configuration

/-! ## The calls -/

/-- The calls that bring up a motor, before its mode is read. -/
def primeCalls (node : UInt8) : List Action :=
  [.tpdoTransmit node 0x6060 0 profiledVelocity.toUInt32, .initMotor node]

/-- The calls that bring up a motor which reports the given mode. -/
def motorCalls (node : UInt8) (mode : UInt16) : List Action :=
  primeCalls node ++ .getMode node ::
    (if mode ≠ profiledVelocity then [.setOperationMode node profiledVelocity] else []) ++
      [.storeVelocity node 0, .setTarget node 0]

/-- The modes that the motors report when they are brought up after the given calls. -/
def readModes (device : Device) (actions : List Action) (node : UInt8) : UInt16 :=
  let first := device.mode (actions ++ primeCalls 2) 2
  if node = 2 then first
  else device.mode (actions ++ motorCalls 2 first ++ primeCalls 3) 3

/-- The bring-up of a motor as a script. -/
def motorUpScript (drivers : Drivers) (modes : UInt8 → UInt16) (node : UInt8) :
    List (ScriptStep Action Failure) :=
  let motor : MotorConfiguration := { nodeId := node, operationMode := profiledVelocity }
  if drivers.has node then
    primeMotor motor ++ .perform (.getMode node) :: seedMotor motor (modes node)
  else
    [.fail ⟨node, .driverLookup⟩]

/-- The bring-up of both motors. -/
def bringUpScript (drivers : Drivers) (modes : UInt8 → UInt16) :
    List (ScriptStep Action Failure) :=
  trackNodes.flatMap (motorUpScript drivers modes)

/-- The calls that set the target of a motor in velocity mode to zero. -/
def zeroCalls (drivers : Drivers) (inMode : Bool) (node : UInt8) : List Action :=
  if drivers.has node then
    .getMode node :: if inMode then [.storeVelocity node 0, .setTarget node 0] else []
  else
    []

/-- Whether the motors report the velocity mode when they are asked in the rollback. -/
def velocityModes (device : Device) (drivers : Drivers) (actions : List Action) (node : UInt8) :
    Bool :=
  let first := decide (device.mode actions 2 = profiledVelocity)
  if node = 2 then first
  else decide (device.mode (actions ++ zeroCalls drivers first 2) 3 = profiledVelocity)

/-- The calls of the rollback: a zero target for every motor in velocity mode, and after the sleep
the shutdown of every motor that has a driver. -/
def rollbackCalls (drivers : Drivers) (inMode : UInt8 → Bool) : List Action :=
  (trackNodes.flatMap fun node => zeroCalls drivers (inMode node) node) ++
    .sleepMs 20 :: (trackNodes.filter drivers.has).map .shutdownMotor

section BringUp

variable {device : Device} {drivers : Drivers} {actions : List Action} {j : Log}

theorem actions_motorUpScript {modes : UInt8 → UInt16} {node : UInt8}
    (found : drivers.has node = true) :
    (motorUpScript drivers modes node).filterMap (·.action) = motorCalls node (modes node) := by
  rw [motorUpScript, if_pos found, seedMotor, motorCalls]
  by_cases other : modes node ≠ profiledVelocity
  · simp only [if_pos other]
    rfl
  · simp only [if_neg other]
    rfl

/-- The body of the loop runs its script up to the first failure. -/
theorem activateMotor_eq_runUntil (device : Device) (drivers : Drivers) (clean : j.failure = none)
    (modes : UInt8 → UInt16) (node : UInt8)
    (mode : modes node = device.mode (j.actions ++ primeCalls node) node) :
    activateMotor device drivers { nodeId := node, operationMode := profiledVelocity } j =
      j.runUntil device.accepts (motorUpScript drivers modes node) := by
  rw [activateMotor, motorUpScript]
  cases found : drivers.has node with
  | false => simp [Journal.runUntil, Journal.step, ScriptStep.refusal]
  | true =>
      simp only [Bool.not_true, Bool.false_eq_true, if_false, if_true]
      rw [Journal.runUntil_append clean]
      split_ifs with failed
      · rfl
      · rw [Option.not_isSome_iff_eq_none] at failed
        have prime := congrArg Journal.actions (Journal.runUntil_of_clean failed)
        rw [Journal.actions_run] at prime
        have primed : (j.runUntil device.accepts
            (primeMotor { nodeId := node, operationMode := profiledVelocity })).actions =
              j.actions ++ primeCalls node := prime
        have unfailed : ((j.runUntil device.accepts (primeMotor
            { nodeId := node, operationMode := profiledVelocity })).step device.accepts
              (.perform (.getMode node))).failure.isSome = false := by
          rw [Journal.step, failed]
          rfl
        rw [mode, primed, Journal.runUntil]
        simp only [unfailed, Bool.false_eq_true, if_false]

/-- A motor that is brought up has a driver and has got all its calls. -/
theorem actions_of_motorUp {modes : UInt8 → UInt16} {node : UInt8}
    (up : (j.runUntil device.accepts (motorUpScript drivers modes node)).failure = none) :
    (j.runUntil device.accepts (motorUpScript drivers modes node)).actions =
      j.actions ++ motorCalls node (modes node) := by
  have same := Journal.runUntil_of_clean up
  rw [same] at up ⊢
  cases found : drivers.has node with
  | false =>
      have member : .fail (⟨node, .driverLookup⟩ : Failure) ∈ motorUpScript drivers modes node := by
        rw [motorUpScript, found]
        exact List.mem_singleton_self _
      exact absurd up (Journal.failure_run_of_mem_fail member)
  | true => rw [Journal.actions_run, actions_motorUpScript found]

/-- The loop runs the bring-up script, and a failure leaves at most the first motor completed. -/
theorem activateMotors_eq_runUntil (device : Device) (drivers : Drivers) (actions : List Action) :
    (activateMotors device drivers trackMotors { actions } []).1 =
        ({ actions } : Log).runUntil device.accepts
          (bringUpScript drivers (readModes device actions)) ∧
      ((activateMotors device drivers trackMotors { actions } []).1.failure ≠ none →
        (activateMotors device drivers trackMotors { actions } []).2 = [] ∨
          (activateMotors device drivers trackMotors { actions } []).2 = [2]) := by
  have clean : ({ actions } : Log).failure = none := rfl
  have first := activateMotor_eq_runUntil device drivers clean (readModes device actions) 2 rfl
  have split : bringUpScript drivers (readModes device actions) =
      motorUpScript drivers (readModes device actions) 2 ++
        (motorUpScript drivers (readModes device actions) 3 ++ []) := rfl
  rw [split, Journal.runUntil_append clean]
  simp only [trackMotors, trackNodes, List.map_cons, List.map_nil, activateMotors, first]
  generalize up : ({ actions } : Log).runUntil device.accepts
    (motorUpScript drivers (readModes device actions) 2) = t
  cases failed : t.failure with
  | some failure => simp [failed]
  | none =>
      have made : t.actions = actions ++ motorCalls 2 (readModes device actions 2) := by
        rw [← up] at failed ⊢
        exact actions_of_motorUp failed
      have second := activateMotor_eq_runUntil device drivers failed (readModes device actions) 3
        (by rw [made]; rfl)
      simp only [Option.isSome_none, Bool.false_eq_true, if_false, List.append_nil, second]
      split_ifs with ended
      · exact ⟨rfl, fun _ => Or.inr rfl⟩
      · rw [Option.not_isSome_iff_eq_none] at ended
        exact ⟨rfl, fun failed => absurd ended failed⟩

theorem judges_motorUpScript {modes : UInt8 → UInt16} {node : UInt8}
    (found : drivers.has node = true) :
    ∀ s ∈ motorUpScript drivers modes node, s.Judges Action.judged := by
  rw [motorUpScript, if_pos found, seedMotor]
  split_ifs with other
  · simp only [primeMotor, zeroTarget, List.cons_append, List.nil_append, List.forall_mem_cons]
    exact ⟨rfl, rfl, rfl, rfl, rfl, rfl, List.forall_mem_nil _⟩
  · simp only [primeMotor, zeroTarget, List.cons_append, List.nil_append, List.forall_mem_cons]
    exact ⟨rfl, rfl, rfl, rfl, rfl, List.forall_mem_nil _⟩

end BringUp

/-! ## The rollback -/

section Rollback

variable {device : Device} {drivers : Drivers} {actions : List Action} {j : Log}

/-- The first loop of the rollback as a script. -/
def rollbackTargetScript (drivers : Drivers) (inMode : UInt8 → Bool) (node : UInt8) :
    List (ScriptStep Action Failure) :=
  if drivers.has node then
    .perform (.getMode node) :: if inMode node then zeroTarget node else []
  else
    []

/-- The second loop of the rollback as a script. -/
def rollbackMotorScript (drivers : Drivers) (node : UInt8) : List (ScriptStep Action Failure) :=
  if drivers.has node then [.attempt (.shutdownMotor node) ⟨node, .shutdownMotor⟩]
  else [.fail ⟨node, .driverLookup⟩]

/-- The rollback as a script, up to the NMT stop. -/
def rollbackScript (drivers : Drivers) (inMode : UInt8 → Bool) :
    List (ScriptStep Action Failure) :=
  trackNodes.flatMap (rollbackTargetScript drivers inMode) ++ .perform (.sleepMs 20) ::
    trackNodes.flatMap (rollbackMotorScript drivers)

theorem rollbackTarget_eq_run (j : Log) (inMode : UInt8 → Bool) (node : UInt8)
    (same : inMode node = decide (device.mode j.actions node = profiledVelocity)) :
    rollbackTarget device drivers j { nodeId := node, operationMode := profiledVelocity } =
      j.run device.accepts (rollbackTargetScript drivers inMode node) := by
  rw [rollbackTarget, rollbackTargetScript]
  cases drivers.has node with
  | false => rfl
  | true =>
      by_cases mode : device.mode j.actions node = profiledVelocity
      · simp only [same, mode, decide_true, if_true]
        rfl
      · simp only [same, mode, decide_false, if_false]
        rfl

theorem rollbackMotor_eq_run (node : UInt8) :
    rollbackMotor device drivers j node =
      j.run device.accepts (rollbackMotorScript drivers node) := by
  rw [rollbackMotor, rollbackMotorScript]
  cases drivers.has node <;> rfl

theorem actions_rollbackTargetScript (inMode : UInt8 → Bool) (node : UInt8) :
    (rollbackTargetScript drivers inMode node).filterMap (·.action) =
      zeroCalls drivers (inMode node) node := by
  rw [rollbackTargetScript, zeroCalls]
  cases drivers.has node with
  | false => rfl
  | true => cases inMode node <;> rfl

/-- The rollback runs its script with the modes that it reads, and a failure adds the NMT stop. -/
theorem rollback_eq_run (device : Device) (drivers : Drivers) (actions : List Action)
    {completed : List UInt8} (order : completed = [] ∨ completed = [2]) :
    let undone := ({ actions } : Log).run device.accepts
      (rollbackScript drivers (velocityModes device drivers actions))
    rollback device drivers trackMotors completed actions =
      if undone.failure.isSome then undone.step device.accepts (.perform .requestNmtStop)
      else undone := by
  generalize states : velocityModes device drivers actions = inMode
  have two : inMode 2 = decide (device.mode actions 2 = profiledVelocity) := by
    rw [← states]
    rfl
  have three : inMode 3 = decide (device.mode (({ actions } : Log).run device.accepts
      (rollbackTargetScript drivers inMode 2)).actions 3 = profiledVelocity) := by
    rw [Journal.actions_run, actions_rollbackTargetScript, two, ← states]
    rfl
  have targeted : trackMotors.foldl (rollbackTarget device drivers) ({ actions } : Log) =
      ({ actions } : Log).run device.accepts
        (trackNodes.flatMap (rollbackTargetScript drivers inMode)) := by
    rw [Journal.run_flatMap]
    simp only [trackMotors, trackNodes, List.map_cons, List.map_nil, List.foldl_cons,
      List.foldl_nil]
    rw [rollbackTarget_eq_run _ inMode 2 two, rollbackTarget_eq_run _ inMode 3 three]
  have inOrder : shutdownOrder trackMotors completed = trackNodes := by
    rcases order with rfl | rfl <;> decide
  have motors (j : Log) : trackNodes.foldl (rollbackMotor device drivers) j =
      j.run device.accepts (trackNodes.flatMap (rollbackMotorScript drivers)) := by
    rw [Journal.run_flatMap]
    congr 1
    funext j node
    exact rollbackMotor_eq_run node
  rw [rollback]
  simp only [targeted, inOrder, motors, rollbackScript, Journal.run_append, Journal.run_cons]

theorem actions_rollbackScript (inMode : UInt8 → Bool) :
    (rollbackScript drivers inMode).filterMap (·.action) = rollbackCalls drivers inMode := by
  have motors (nodes : List UInt8) :
      (nodes.flatMap (rollbackMotorScript drivers)).filterMap (·.action) =
        (nodes.filter drivers.has).map Action.shutdownMotor := by
    induction nodes with
    | nil => rfl
    | cons node nodes ih =>
        rw [List.flatMap_cons, List.filterMap_append, ih, rollbackMotorScript, List.filter_cons]
        cases drivers.has node <;> rfl
  rw [rollbackScript, rollbackCalls, List.filterMap_append, List.filterMap_flatMap, ← motors]
  simp only [actions_rollbackTargetScript, List.filterMap_cons]
  rfl

theorem failure_rollbackScript (device : Device) (inMode : UInt8 → Bool) :
    (({ actions } : Log).run device.accepts (rollbackScript drivers inMode)).failure = none ↔
      (∀ node ∈ trackNodes, drivers.has node = true) ∧
        Accepted device.accepts Action.judged actions (rollbackCalls drivers inMode) := by
  by_cases found : ∀ node ∈ trackNodes, drivers.has node = true
  · have judges : ∀ s ∈ rollbackScript drivers inMode, s.Judges Action.judged := by
      intro s member
      simp only [rollbackScript, List.mem_append, List.mem_cons, List.mem_flatMap] at member
      rcases member with ⟨node, track, member⟩ | rfl | ⟨node, track, member⟩
      · rw [rollbackTargetScript, if_pos (found node track)] at member
        cases mode : inMode node with
        | true =>
            rw [mode] at member
            simp only [zeroTarget, if_true, List.mem_cons, List.not_mem_nil, or_false] at member
            rcases member with rfl | rfl | rfl <;> rfl
        | false =>
            rw [mode] at member
            cases List.mem_singleton.mp member
            rfl
      · rfl
      · rw [rollbackMotorScript, if_pos (found node track)] at member
        cases List.mem_singleton.mp member
        rfl
    rw [Journal.failure_run_eq_none_iff_accepted judges, actions_rollbackScript,
      and_iff_right rfl, and_iff_right found]
  · refine iff_of_false ?_ fun passed => found passed.1
    simp only [not_forall] at found
    obtain ⟨node, track, missing⟩ := found
    have member : .fail (⟨node, .driverLookup⟩ : Failure) ∈ rollbackMotorScript drivers node := by
      rw [rollbackMotorScript, if_neg missing]
      exact List.mem_singleton_self _
    exact Journal.failure_run_of_mem_fail (List.mem_append_right _ (List.mem_cons_of_mem _
      (List.mem_flatMap.mpr ⟨node, track, member⟩)))

/-- The rollback makes all its calls; when it fails, the NMT stop is one more. -/
theorem rollback_outcome (device : Device) (drivers : Drivers) (actions : List Action)
    {completed : List UInt8} (order : completed = [] ∨ completed = [2]) :
    let undo := rollbackCalls drivers (velocityModes device drivers actions)
    let undone := rollback device drivers trackMotors completed actions
    undone.actions = actions ++ undo ++ (if undone.failure.isSome then [.requestNmtStop] else []) ∧
      (undone.failure = none ↔ (∀ node ∈ trackNodes, drivers.has node = true) ∧
        Accepted device.accepts Action.judged actions undo) := by
  dsimp only
  rw [rollback_eq_run device drivers actions order, ← failure_rollbackScript device]
  cases broken : (({ actions } : Log).run device.accepts
      (rollbackScript drivers (velocityModes device drivers actions))).failure with
  | none =>
      simp only [broken, Option.isSome_none, Bool.false_eq_true, if_false, List.append_nil,
        and_true]
      rw [Journal.actions_run, actions_rollbackScript]
  | some failure =>
      simp only [broken, Option.isSome_some, if_true, Journal.step, ScriptStep.refusal,
        Option.some_or, iff_self, and_true]
      rw [Journal.actions_run, actions_rollbackScript]
      rfl

end Rollback

/-! ## The outcome -/

section Outcome

variable {device : Device} {drivers : Drivers} {joints : List Joint} {actions : List Action}

/-- The calls that bring up both motors. -/
def bringUpCalls (modes : UInt8 → UInt16) : List Action :=
  trackNodes.flatMap fun node => motorCalls node (modes node)

theorem actions_bringUpScript {modes : UInt8 → UInt16}
    (found : ∀ node ∈ trackNodes, drivers.has node = true) :
    (bringUpScript drivers modes).filterMap (·.action) = bringUpCalls modes := by
  rw [bringUpScript, bringUpCalls, List.filterMap_flatMap]
  exact List.flatMap_congr fun node track => actions_motorUpScript (found node track)

theorem failure_bringUpScript {j : Log} {modes : UInt8 → UInt16} (clean : j.failure = none) :
    (j.run device.accepts (bringUpScript drivers modes)).failure = none ↔
      (∀ node ∈ trackNodes, drivers.has node = true) ∧
        Accepted device.accepts Action.judged j.actions (bringUpCalls modes) := by
  by_cases found : ∀ node ∈ trackNodes, drivers.has node = true
  · have judges : ∀ s ∈ bringUpScript drivers modes, s.Judges Action.judged := by
      intro s member
      obtain ⟨node, track, member⟩ := List.mem_flatMap.mp member
      exact judges_motorUpScript (found node track) s member
    rw [Journal.failure_run_eq_none_iff_accepted judges, actions_bringUpScript found,
      and_iff_right clean, and_iff_right found]
  · refine iff_of_false ?_ fun passed => found passed.1
    simp only [not_forall] at found
    obtain ⟨node, track, missing⟩ := found
    have member : .fail (⟨node, .driverLookup⟩ : Failure) ∈ motorUpScript drivers modes node := by
      rw [motorUpScript, if_neg missing]
      exact List.mem_singleton_self _
    exact Journal.failure_run_of_mem_fail (List.mem_flatMap.mpr ⟨node, track, member⟩)

/-- A step of the bring-up looks at the result of its call, or misses a driver. -/
theorem judges_or_fail_of_bringUp {modes : UInt8 → UInt16} {s : ScriptStep Action Failure}
    (member : s ∈ bringUpScript drivers modes) :
    s.Judges Action.judged ∨ ∃ failure, s = .fail failure := by
  obtain ⟨node, -, member⟩ := List.mem_flatMap.mp member
  by_cases found : drivers.has node = true
  · exact Or.inl (judges_motorUpScript found s member)
  · rw [motorUpScript, if_neg found] at member
    exact Or.inr ⟨_, List.mem_singleton.mp member⟩

/-- A configured activation is its bring-up, followed by a rollback when it fails. -/
theorem onActivate_of_configured (drivers : Drivers)
    (base : device.accepts actions .baseActivate = true)
    (configured : configure joints = .ok trackMotors) :
    ∃ completed : List UInt8,
      let j := ({ actions := actions ++ [.baseActivate] } : Log).runUntil device.accepts
        (bringUpScript drivers (readModes device (actions ++ [.baseActivate])))
      (j.failure ≠ none → completed = [] ∨ completed = [2]) ∧
        onActivate device drivers joints actions =
          match j.failure with
          | none => (.success, j.actions)
          | some primary =>
              let undone := rollback device drivers trackMotors completed j.actions
              (.failed primary undone.failure, undone.actions) := by
  obtain ⟨same, order⟩ := activateMotors_eq_runUntil device drivers
    (actions ++ [.baseActivate])
  refine ⟨(activateMotors device drivers trackMotors
    { actions := actions ++ [.baseActivate] } []).2, ?_, ?_⟩
  · rw [← same]
    exact order
  · rw [onActivate, base, configured, ← same]
    rfl

/-- **Activation.**  `on_activate` succeeds exactly if the base does, the configuration is that of
the track motors, both nodes have a driver and every call of the bring-up is accepted, for node 2
and then for node 3; these are then all its calls. -/
theorem activation_succeeds_iff (device : Device) (drivers : Drivers) (joints : List Joint)
    (actions : List Action) (calls : List Action) :
    onActivate device drivers joints actions = (.success, calls) ↔
      device.accepts actions .baseActivate = true ∧ configure joints = .ok trackMotors ∧
        (∀ node ∈ trackNodes, drivers.has node = true) ∧
        let activated := actions ++ [.baseActivate]
        Accepted device.accepts Action.judged activated
            (bringUpCalls (readModes device activated)) ∧
          calls = activated ++ bringUpCalls (readModes device activated) := by
  by_cases base : device.accepts actions .baseActivate = true
  · rw [and_iff_right base]
    cases configured : configure joints with
    | error reason =>
        refine iff_of_false ?_ fun accepted => by cases accepted.1
        rw [onActivate, base, configured]
        exact fun same => by cases same
    | ok motors =>
        obtain ⟨rfl, -⟩ := configure_eq_ok_iff.mp configured
        rw [and_iff_right rfl]
        obtain ⟨completed, -, ended⟩ := onActivate_of_configured drivers base configured
        set activated := actions ++ [.baseActivate] with made
        have clean : ({ actions := activated } : Log).failure = none := rfl
        have exact : (({ actions := activated } : Log).runUntil device.accepts
            (bringUpScript drivers (readModes device activated))).failure = none ↔ _ :=
          (Journal.failure_runUntil_eq_none_iff clean).trans (failure_bringUpScript clean)
        rw [ended]
        cases failed : (({ actions := activated } : Log).runUntil device.accepts
          (bringUpScript drivers (readModes device activated))).failure with
        | none =>
            obtain ⟨found, accepted⟩ := exact.mp failed
            rw [Journal.runUntil_of_clean failed, Journal.actions_run,
              actions_bringUpScript found, and_iff_right found, and_iff_right accepted,
              Prod.mk.injEq, and_iff_right rfl]
            exact eq_comm
        | some primary =>
            refine iff_of_false (fun same => by cases same) ?_
            rintro ⟨found, accepted, -⟩
            rw [exact.mpr ⟨found, accepted⟩] at failed
            cases failed
  · refine iff_of_false ?_ fun accepted => base accepted.1
    rw [onActivate, Bool.eq_false_iff.mpr base]
    exact fun same => by cases same

/-- **Rollback.**  A failed `on_activate` has stopped at the first step of the bring-up that fails.
Then it has set the targets of the motors in velocity mode to zero, slept and shut down every motor
that has a driver.  The rollback itself fails exactly if a driver is missing or one of its calls is
refused, and then the NMT stop of all nodes is the last call. -/
theorem failed_activation_rolls_back {primary : Failure} {undone : Option Failure}
    {calls : List Action}
    (failed : onActivate device drivers joints actions = (.failed primary undone, calls)) :
    ∃ before s after,
      let activated := actions ++ [.baseActivate]
      let made := activated ++ (before ++ [s]).filterMap (·.action)
      let undo := rollbackCalls drivers (velocityModes device drivers made)
      bringUpScript drivers (readModes device activated) = before ++ s :: after ∧
        Accepted device.accepts Action.judged activated (before.filterMap (·.action)) ∧
        s.refusal device.accepts (activated ++ before.filterMap (·.action)) = some primary ∧
        calls = made ++ undo ++ (if undone.isSome then [.requestNmtStop] else []) ∧
        (undone = none ↔ (∀ node ∈ trackNodes, drivers.has node = true) ∧
          Accepted device.accepts Action.judged made undo) := by
  have base : device.accepts actions .baseActivate = true := by
    by_contra refused
    rw [onActivate, Bool.eq_false_iff.mpr refused] at failed
    cases failed
  have configured : configure joints = .ok trackMotors := by
    cases read : configure joints with
    | ok motors => rw [(configure_eq_ok_iff.mp read).1]
    | error reason =>
        rw [onActivate, base, read] at failed
        cases failed
  obtain ⟨completed, order, ended⟩ := onActivate_of_configured drivers base configured
  rw [ended] at failed
  generalize actions ++ [Action.baseActivate] = activated at *
  cases stopped : (({ actions := activated } : Log).runUntil device.accepts
      (bringUpScript drivers (readModes device activated))).failure with
  | none =>
      rw [stopped] at failed
      cases failed
  | some first =>
      rw [stopped] at failed
      obtain ⟨before, s, after, split, unfailed, refused, same⟩ :=
        Journal.runUntil_of_failure rfl stopped
      rw [same, Journal.actions_run] at failed
      rw [Journal.actions_run] at refused
      have judges : ∀ t ∈ before, t.Judges Action.judged := by
        intro t member
        have found : t ∈ bringUpScript drivers (readModes device activated) := by
          rw [split]
          exact List.mem_append_left _ member
        rcases judges_or_fail_of_bringUp found with judges | ⟨failure, rfl⟩
        · exact judges
        · exact absurd unfailed (Journal.failure_run_of_mem_fail member)
      have accepted := ((Journal.failure_run_eq_none_iff_accepted judges).mp unfailed).2
      obtain ⟨undo, clean⟩ := rollback_outcome device drivers
        (activated ++ (before ++ [s]).filterMap (·.action))
        (order (by rw [stopped]; exact Option.some_ne_none first))
      cases failed
      exact ⟨before, s, after, split, accepted, refused, undo, clean⟩

/-- A device on which the second motor cannot be brought up. -/
def stuckDevice : Device where
  accepts _ action := action != .initMotor 3
  mode _ _ := profiledVelocity
  switchOnDisabled _ _ := false

/-- The joints of both track motors. -/
def trackJoints : List Joint :=
  [{ name := "right", nodeId := some "3", operationMode := some "3" },
    { name := "left", nodeId := some "2", operationMode := some "3" }]

theorem failed_activation_rolls_back_of_stuck :
    ∃ calls before s after,
      onActivate stuckDevice [2, 3] trackJoints [] =
          (.failed ⟨3, .initMotor⟩ none, calls) ∧
        bringUpScript [2, 3] (readModes stuckDevice [.baseActivate]) = before ++ s :: after ∧
        calls = .baseActivate :: (before ++ [s]).filterMap (·.action) ++
          rollbackCalls [2, 3] (velocityModes stuckDevice [2, 3]
            (.baseActivate :: (before ++ [s]).filterMap (·.action))) := by
  have failed : (onActivate stuckDevice [2, 3] trackJoints []).1 =
      .failed ⟨3, .initMotor⟩ none := by decide +kernel
  obtain ⟨before, s, after, split, -, -, calls, -⟩ :=
    failed_activation_rolls_back (Prod.ext_iff.mpr ⟨failed, rfl⟩)
  refine ⟨_, before, s, after, Prod.ext_iff.mpr ⟨failed, rfl⟩, split, ?_⟩
  exact calls.trans (List.append_nil _)

end Outcome

end RtControl.Canopen
