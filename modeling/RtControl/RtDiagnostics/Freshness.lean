import RtControl.RtDiagnostics.Node
import Mathlib.Data.List.Nodup

/-!
# How fresh the values of a row are

The values are merged key by key and never removed, but one time stamp stands for all of
them.  A row can therefore be shown as live with values that no recent message contained;
it cannot when every message carries the row values that an earlier one carried.
-/

namespace RtControl.RtDiagnostics

open RtControl.Codec
open RtControl.Transition

/-! ## Receipts -/

/-- A received message and the time of its receipt. -/
abbrev Receipt := Int × DynamicJointState

/-- Record the messages received. -/
def receive (_ : Node) (event : Event) (_ : Node) (receipts : List Receipt) : List Receipt :=
  match event with
  | .dynamicState nowNs message => (nowNs, message) :: receipts
  | _ => receipts

/-- The node and the messages it has received. -/
def receivingStep : Step (Node × List Receipt) Event :=
  observed step receive

/-- The steady clock: a snapshot is not taken before the last receipt. -/
def steady : Guard Node Event := fun node event =>
  match event with
  | .tick nowNs => !node.hasDynamicState || decide (node.dynamicStateReceivedNs ≤ nowNs)
  | _ => true

/-- The values that the master row is computed from. -/
def masterKeys : List String :=
  [processAgeKey, linkUpKey, slavesRespondingKey, wcErrorCountKey]

/-- The values that a slave row is computed from. -/
def slaveKeys (axis : Nat × String) : List String :=
  [processAgeKey, alStateKey axis.1, statusWordKey axis.2]

/-- The values that some EtherCAT row is computed from. -/
def rowKeys : List String :=
  masterKeys ++ axes.flatMap slaveKeys

/-- The stored value of a key was in a message received within the stale timeout. -/
def Contained (node : Node) (receipts : List Receipt) (nowNs : Int) (key : String) : Prop :=
  ∃ receipt ∈ receipts, receipt.1 ≤ nowNs ∧ nowNs - receipt.1 ≤ staleTimeoutNs ∧
    ∃ entry ∈ receipt.2.entries, entry.1 = key ∧ node.values key = some entry.2

instance (node : Node) (receipts : List Receipt) (nowNs : Int) (key : String) :
    Decidable (Contained node receipts nowNs key) :=
  inferInstanceAs (Decidable (∃ receipt ∈ receipts, receipt.1 ≤ nowNs ∧
    nowNs - receipt.1 ≤ staleTimeoutNs ∧
      ∃ entry ∈ receipt.2.entries, entry.1 = key ∧ node.values key = some entry.2))

/-- The EtherCAT rows by name, with the values that each is computed from. -/
def ethercatRows : List (String × List String) :=
  ("/robot/rt_control/ethercat/master", masterKeys) ::
    axes.map fun axis => (s!"/robot/rt_control/ethercat/slave_{axis.1}", slaveKeys axis)

/-- No EtherCAT row that a snapshot publishes shows a stale value as live. -/
def LiveRows (render : PyFloat → String) (node : Node) (receipts : List Receipt)
    (nowNs : Int) : Prop :=
  ∀ row ∈ node.snapshotRows render nowNs, row.level ≠ .stale →
    ∀ keys, (row.name, keys) ∈ ethercatRows → ∀ key ∈ keys, Contained node receipts nowNs key

/-! ## The callbacks -/

section Callbacks

variable {node : Node} {nowNs : Int}

/-- A merged value was in the message, or the message left it out. -/
theorem merge_eq_some {values : String → Option PyFloat} {entries : List (String × PyFloat)}
    {key : String} {value : PyFloat} (stored : merge values entries key = some value) :
    (key, value) ∈ entries ∨
      (∀ entry ∈ entries, entry.1 ≠ key) ∧ values key = some value := by
  induction entries generalizing values with
  | nil => exact .inr ⟨by simp, stored⟩
  | cons head entries ih =>
      rcases ih stored with inside | ⟨absent, kept⟩
      · exact .inl (List.mem_cons_of_mem _ inside)
      · dsimp only at kept
        by_cases same : head.1 = key
        · subst same
          rw [Function.update_self, Option.some_inj] at kept
          subst kept
          exact .inl List.mem_cons_self
        · rw [Function.update_of_ne (Ne.symm same)] at kept
          exact .inr ⟨List.forall_mem_cons.mpr ⟨same, absent⟩, kept⟩

/-- What the diagnostics and the snapshots leave alone. -/
structure SameValues (node target : Node) : Prop where
  values : target.values = node.values
  received : target.dynamicStateReceivedNs = node.dynamicStateReceivedNs
  has : target.hasDynamicState = node.hasDynamicState

theorem SameValues.refl : SameValues node node :=
  ⟨rfl, rfl, rfl⟩

theorem SameValues.trans {middle target : Node} (first : SameValues node middle)
    (second : SameValues middle target) : SameValues node target :=
  ⟨second.values.trans first.values, second.received.trans first.received,
    second.has.trans first.has⟩

theorem sameValues_onDiagnosticStatus (status : DiagnosticStatus) :
    SameValues node (node.onDiagnosticStatus nowNs status) := by
  unfold Node.onDiagnosticStatus
  split_ifs <;> exact ⟨rfl, rfl, rfl⟩

theorem sameValues_onDiagnostics (statuses : List DiagnosticStatus) :
    SameValues node (node.onDiagnostics nowNs statuses) := by
  induction statuses generalizing node with
  | nil => exact .refl
  | cons status statuses ih => exact (sameValues_onDiagnosticStatus status).trans ih

theorem sameValues_publishSnapshot : SameValues node node.publishSnapshot := by
  unfold Node.publishSnapshot
  dsimp only
  split_ifs <;> exact ⟨rfl, rfl, rfl⟩

end Callbacks

/-! ## Runs -/

/-- A message that carries every row value stored before it. -/
def carries (node : Node) (message : DynamicJointState) : Bool :=
  rowKeys.all fun key =>
    (node.values key).isNone || message.entries.any fun entry => entry.1 = key

/-- Runs on a steady clock in which no message leaves out a row value that an earlier one
carried. -/
def carrying : Guard Node Event := fun node event =>
  steady node event &&
    match event with
    | .dynamicState _ message => carries node message
    | _ => true

/-- Every row value stored was in the message that the time stamp belongs to. -/
def Stamped (node : Node) (receipts : List Receipt) : Prop :=
  ∀ key ∈ rowKeys, ∀ value, node.values key = some value →
    node.hasDynamicState = true ∧
      ∃ message, (node.dynamicStateReceivedNs, message) ∈ receipts ∧
        (key, value) ∈ message.entries

theorem Stamped.of_sameValues {node target : Node} {receipts : List Receipt}
    (stamped : Stamped node receipts) (same : SameValues node target) :
    Stamped target receipts := by
  intro key row value stored
  rw [same.values] at stored
  rw [same.received, same.has]
  exact stamped key row value stored

theorem stamped_onDynamicState {node : Node} {nowNs : Int} {message : DynamicJointState}
    {receipts : List Receipt} (carried : carries node message = true) :
    Stamped (node.onDynamicState nowNs message) ((nowNs, message) :: receipts) := by
  intro key row value stored
  rcases merge_eq_some stored with inside | ⟨absent, kept⟩
  · exact ⟨rfl, message, List.mem_cons_self, inside⟩
  · have present := List.all_eq_true.mp carried key row
    rw [kept] at present
    simp only [Option.isNone_some, Bool.false_or, List.any_eq_true, decide_eq_true_eq] at present
    rcases present with ⟨entry, inside, named⟩
    exact absurd named (absent entry inside)

theorem stamped_of_reachable {node : Node} {receipts : List Receipt} {hardwareId : String}
    (reachable : Reachable receivingStep (onState carrying) (Node.start hardwareId, [])
      (node, receipts)) : Stamped node receipts := by
  refine Reachable.invariant (fun observation => Stamped observation.1 observation.2) ?_ ?_
    reachable
  · intro key _ value stored
    cases stored
  · rintro ⟨source, history⟩ ⟨target, recorded⟩ event stamped allowed moved
    rcases observed_eq_some_iff.mp moved with ⟨stepped, extended⟩
    dsimp only at stamped stepped extended
    subst extended
    cases event with
    | dynamicState nowNs message =>
        cases stepped
        rw [onState, carrying, Bool.and_eq_true] at allowed
        exact stamped_onDynamicState allowed.2
    | diagnostics nowNs statuses =>
        cases stepped
        exact stamped.of_sameValues (sameValues_onDiagnostics statuses)
    | tick nowNs =>
        cases stepped
        exact stamped.of_sameValues sameValues_publishSnapshot

/-! ## The rows -/

section Rows

variable {render : PyFloat → String} {node : Node} {receipts : List Receipt} {nowNs : Int}

theorem exists_of_getValue {values : String → Option PyFloat} {key : String}
    {initial : PyFloat} (read : (getValue values key initial).1 = true) :
    ∃ value, values key = some value := by
  unfold getValue at read
  split at read
  · cases read
  · rename_i value stored
    exact ⟨value, stored⟩

theorem exists_of_masterValues (complete : node.masterValues.1 = true) :
    (∃ value, node.values linkUpKey = some value) ∧
      (∃ value, node.values slavesRespondingKey = some value) ∧
      ∃ value, node.values wcErrorCountKey = some value := by
  simp only [Node.masterValues, Bool.not_eq_true'] at complete
  split_ifs at complete with noLink noSlaves
  rw [Bool.not_eq_false] at noLink noSlaves
  exact ⟨exists_of_getValue noLink, exists_of_getValue noSlaves, exists_of_getValue complete⟩

theorem exists_of_slaveValues {axis : Nat × String}
    (complete : (node.slaveValues axis).1 = true) :
    (∃ value, node.values (alStateKey axis.1) = some value) ∧
      ∃ value, node.values (statusWordKey axis.2) = some value := by
  simp only [Node.slaveValues, Bool.not_eq_true'] at complete
  split_ifs at complete with noState
  rw [Bool.not_eq_false] at noState
  exact ⟨exists_of_getValue noState, exists_of_getValue complete⟩

theorem exists_of_processStale (fresh : node.processStale = false) :
    ∃ value, node.values processAgeKey = some value := by
  rw [Node.processStale, Bool.or_eq_false_iff, Bool.not_eq_false'] at fresh
  exact exists_of_getValue fresh.1

/-- A master row that is not stale has a fresh topic and all of its values. -/
theorem masterRow_live (live : (node.masterRow render nowNs).level ≠ .stale) :
    node.topicStale nowNs = false ∧
      ∀ key ∈ masterKeys, ∃ value, node.values key = some value := by
  have notStale : (node.topicStale nowNs || node.processStale || !node.masterValues.1) =
      false := by
    by_contra stale
    rw [Bool.not_eq_false] at stale
    simp only [Node.masterRow, stale, if_true] at live
    exact live rfl
  simp only [Bool.or_eq_false_iff, Bool.not_eq_false'] at notStale
  rcases notStale with ⟨⟨topic, process⟩, complete⟩
  rcases exists_of_masterValues complete with ⟨link, slaves, count⟩
  refine ⟨topic, ?_⟩
  simp only [masterKeys, List.forall_mem_cons]
  exact ⟨exists_of_processStale process, link, slaves, count, by simp⟩

/-- A slave row that is not stale has a fresh topic and all of its values. -/
theorem slaveRow_live {axis : Nat × String}
    (live : (node.slaveRow render nowNs axis).level ≠ .stale) :
    node.topicStale nowNs = false ∧
      ∀ key ∈ slaveKeys axis, ∃ value, node.values key = some value := by
  have notStale : (node.topicStale nowNs || node.processStale || !(node.slaveValues axis).1) =
      false := by
    by_contra stale
    rw [Bool.not_eq_false] at stale
    simp only [Node.slaveRow, stale, if_true] at live
    exact live rfl
  simp only [Bool.or_eq_false_iff, Bool.not_eq_false'] at notStale
  rcases notStale with ⟨⟨topic, process⟩, complete⟩
  rcases exists_of_slaveValues complete with ⟨state, word⟩
  refine ⟨topic, ?_⟩
  simp only [slaveKeys, List.forall_mem_cons]
  exact ⟨exists_of_processStale process, state, word, by simp⟩

/-- On a fresh topic a stamped value was received within the timeout. -/
theorem Stamped.contained {key : String} {value : PyFloat} (stamped : Stamped node receipts)
    (clock : steady node (.tick nowNs) = true) (fresh : node.topicStale nowNs = false)
    (row : key ∈ rowKeys) (stored : node.values key = some value) :
    Contained node receipts nowNs key := by
  rcases stamped key row value stored with ⟨has, message, received, inside⟩
  simp only [steady, has, Bool.not_true, Bool.false_or, decide_eq_true_eq] at clock
  simp only [Node.topicStale, has, Bool.not_true, Bool.false_or, decide_eq_false_iff_not,
    not_lt, gt_iff_lt] at fresh
  exact ⟨_, received, clock, fresh, _, inside, rfl, stored⟩

theorem canopenRow_name {number : Nat} {snapshot : CanopenSnapshot} :
    (node.canopenRow nowNs number snapshot).name =
      s!"/robot/rt_control/canopen/node_{number}" := by
  unfold Node.canopenRow
  dsimp only
  split_ifs <;> rfl

/-- A published row under the name of an EtherCAT row is the master row or a slave row, with the
values of that row. -/
theorem ethercat_of_published {row : DiagnosticStatus} {keys : List String}
    (published : row ∈ node.snapshotRows render nowNs) (named : (row.name, keys) ∈ ethercatRows) :
    (row = node.masterRow render nowNs ∧ keys = masterKeys) ∨
      ∃ axis ∈ axes, row = node.slaveRow render nowNs axis ∧ keys = slaveKeys axis := by
  have distinct : (ethercatRows.map Prod.fst).Nodup := by decide +kernel
  have foreign : ∀ entry ∈ ethercatRows, entry.1 ≠ "/robot/rt_control/canopen/node_2" ∧
      entry.1 ≠ "/robot/rt_control/canopen/node_3" := by decide +kernel
  have unique {entry : String × List String} (listed : entry ∈ ethercatRows)
      (same : row.name = entry.1) : keys = entry.2 :=
    congrArg Prod.snd (List.inj_on_of_nodup_map distinct named listed same)
  rcases List.mem_append.mp published with ethercat | canopen
  · rcases List.mem_cons.mp ethercat with master | slave
    · exact .inl ⟨master, unique List.mem_cons_self (congrArg _ master)⟩
    · rcases List.mem_map.mp slave with ⟨axis, known, shown⟩
      have listed : (s!"/robot/rt_control/ethercat/slave_{axis.1}", slaveKeys axis) ∈ ethercatRows :=
        List.mem_cons_of_mem _ (List.mem_map.mpr ⟨axis, known, rfl⟩)
      exact .inr ⟨axis, known, shown.symm, unique listed (congrArg _ shown.symm)⟩
  · simp only [List.mem_cons, List.not_mem_nil, or_false] at canopen
    rcases canopen with shown | shown
    · exact absurd (shown ▸ canopenRow_name) (foreign _ named).1
    · exact absurd (shown ▸ canopenRow_name) (foreign _ named).2

/-- Stamped values are shown as live only while they are. -/
theorem Stamped.liveRows (stamped : Stamped node receipts)
    (clock : steady node (.tick nowNs) = true) : LiveRows render node receipts nowNs := by
  intro row published live keys named key inside
  rcases ethercat_of_published published named with ⟨rfl, rfl⟩ | ⟨axis, known, rfl, rfl⟩
  · rcases masterRow_live live with ⟨fresh, stored⟩
    rcases stored key inside with ⟨value, stored⟩
    exact stamped.contained clock fresh (List.mem_append_left _ inside) stored
  · rcases slaveRow_live live with ⟨fresh, stored⟩
    rcases stored key inside with ⟨value, stored⟩
    have inRows : key ∈ rowKeys :=
      List.mem_append_right _ (List.mem_flatMap.mpr ⟨axis, known, inside⟩)
    exact stamped.contained clock fresh inRows stored

end Rows

/-- While no message leaves out a row value that an earlier one carried, no snapshot shows
a stale value as live. -/
theorem rows_live_of_carrying {render : PyFloat → String} {hardwareId : String} {node : Node}
    {receipts : List Receipt} {nowNs : Int}
    (reachable : Reachable receivingStep (onState carrying) (Node.start hardwareId, [])
      (node, receipts))
    (clock : steady node (.tick nowNs) = true) : LiveRows render node receipts nowNs :=
  (stamped_of_reachable reachable).liveRows clock

/-- A message with the values of the master row and no others. -/
def masterMessage : DynamicJointState where
  jointNames := ["ethercat_domain", "ethercat_master"]
  interfaceValues := [
    { interfaceNames := ["process_data_age_ms"], values := [.finite 1] },
    { interfaceNames := ["link_up", "slaves_responding", "wc_error_count"],
      values := [.finite 1, .finite 16, .finite 0] }]

/-- A message without any value. -/
def emptyMessage : DynamicJointState where
  jointNames := []
  interfaceValues := []

/-- A master row that is not stale, in a run of two full messages. -/
theorem rows_live_of_masterMessage :
    ∃ node receipts,
      Reachable receivingStep (onState carrying) (Node.start "robot-001", []) (node, receipts) ∧
      (node.masterRow (fun _ => "") 5000000000).level ≠ .stale ∧
      LiveRows (fun _ => "") node receipts 5000000000 := by
  have passed : (run receivingStep (onState carrying) (Node.start "robot-001", [])
      [.dynamicState 1000000000 masterMessage, .dynamicState 3000000000 masterMessage]).any
      (fun observation => steady observation.1 (.tick 5000000000) &&
        decide ((observation.1.masterRow (fun _ => "") 5000000000).level ≠ .stale)) = true := by
    decide +kernel
  rcases exists_reachable_of_run passed with ⟨⟨node, receipts⟩, reachable, tested⟩
  rw [Bool.and_eq_true, decide_eq_true_eq] at tested
  exact ⟨node, receipts, reachable, tested.2, rows_live_of_carrying reachable tested.1⟩

/-- Two empty messages keep the values of the first one alive beyond the timeout. -/
theorem stale_values_shown_live :
    ¬∀ (render : PyFloat → String) (hardwareId : String) (node : Node)
      (receipts : List Receipt) (nowNs : Int),
      Reachable receivingStep (onState steady) (Node.start hardwareId, []) (node, receipts) →
      steady node (.tick nowNs) = true → LiveRows render node receipts nowNs := by
  intro live
  have passed : (run receivingStep (onState steady) (Node.start "robot-001", [])
      [.dynamicState 0 masterMessage, .dynamicState 2000000000 emptyMessage,
        .dynamicState 4000000000 emptyMessage]).any
      (fun observation => steady observation.1 (.tick 4000000000) &&
        decide ((observation.1.masterRow (fun _ => "") 4000000000).level ≠ .stale ∧
          ¬Contained observation.1 observation.2 4000000000 linkUpKey)) = true := by
    decide +kernel
  rcases exists_reachable_of_run passed with ⟨⟨node, receipts⟩, reachable, tested⟩
  rw [Bool.and_eq_true, decide_eq_true_eq] at tested
  rcases tested with ⟨clock, notStale, absent⟩
  exact absent (live _ _ _ _ _ reachable clock _ List.mem_cons_self notStale _ List.mem_cons_self _
    (by simp [masterKeys]))

end RtControl.RtDiagnostics
