import RtControl.Plc.CallbackLog
import Mathlib.Data.List.Induction

/-!
# Output services change one bit

Every write of the node goes to the control register with its enable bit set, or to the
command register with the bit of the called output changed; each starts from the word
the register holds.  Hence in every run, and after every single access, all other bits
of the two registers are as they were at the start.
-/

namespace RtControl.Plc

open RtControl.Transition

/-- An access with the service call it was made for, if any. -/
structure Traced where
  call : Option (Output × Bool)
  access : Access

/-- The accesses of a history. -/
def accesses (history : List Traced) : List Access :=
  history.map Traced.access

/-- The access is a write to a register. -/
def Access.writesTo (register : UInt16) (access : Access) : Bool :=
  match access.body with
  | .write address _ => address == register
  | .read _ _ => false

/-- The value of an output that the last call for it whose command write was applied has
requested. -/
def requestedBit (command : UInt16) (output : Output) (initial : Bool) (history : List Traced) :
    Bool :=
  history.foldl (fun value traced =>
    match traced.call with
    | some (called, enabled) =>
        if called = output ∧ traced.access.applied ∧ traced.access.writesTo command then enabled
        else value
    | none => value) initial

/-- An access of the node, given the words the two registers hold: a read, the control
word with its enable bit set, or the command word with the called output changed. -/
inductive Proper (plc : PlcModel) (command control : UInt16) (traced : Traced) : Prop
  | reads
      (reading : traced.access.IsRead)
  | repairs
      (named : traced.access.body = .write plc.control (enableRemoteControlWord control))
  | writes (output : Output) (enabled : Bool)
      (called : traced.call = some (output, enabled))
      (named : traced.access.body = .write plc.command (withBit command output.bit enabled))

/-- A history of proper accesses. -/
def ProperHistory (plc : PlcModel) : UInt16 → UInt16 → List Traced → Prop
  | _, _, [] => True
  | command, control, traced :: later =>
      Proper plc command control traced ∧
        ProperHistory plc (traced.access.effect plc.command command)
          (traced.access.effect plc.control control) later

section History

variable {plc : PlcModel} {command control : UInt16}

theorem accesses_append (earlier later : List Traced) :
    accesses (earlier ++ later) = accesses earlier ++ accesses later :=
  List.map_append

theorem properHistory_append {earlier later : List Traced} :
    ProperHistory plc command control (earlier ++ later) ↔
      ProperHistory plc command control earlier ∧
        ProperHistory plc (valueAfter plc.command command (accesses earlier))
          (valueAfter plc.control control (accesses earlier)) later := by
  induction earlier generalizing command control with
  | nil => simp [ProperHistory, accesses]
  | cons traced earlier ih =>
      simp only [List.cons_append, ProperHistory, ih, and_assoc]
      rfl

theorem requestedBit_append (register : UInt16) (output : Output) (initial : Bool)
    (earlier later : List Traced) :
    requestedBit register output initial (earlier ++ later) =
      requestedBit register output (requestedBit register output initial earlier) later :=
  List.foldl_append

/-- What holds of the two registers after a history. -/
structure BitLaw (plc : PlcModel) (command control : UInt16) (history : List Traced) : Prop where
  others : ∀ bit, 3 ≤ bit → bit < 16 →
    (valueAfter plc.command command (accesses history)).toNat.testBit bit =
      command.toNat.testBit bit
  outputs : ∀ output : Output,
    (valueAfter plc.command command (accesses history)).toNat.testBit output.bit.toNat =
      requestedBit plc.command output (command.toNat.testBit output.bit.toNat) history
  control : ∀ bit, 1 ≤ bit → bit < 16 →
    (valueAfter plc.control control (accesses history)).toNat.testBit bit =
      control.toNat.testBit bit

theorem valueAfter_snoc (register word : UInt16) (history : List Traced) (traced : Traced) :
    valueAfter register word (accesses (history ++ [traced])) =
      traced.access.effect register (valueAfter register word (accesses history)) := by
  rw [accesses_append, valueAfter_append]
  rfl

/-- An access that is no applied command write of a call requests nothing. -/
theorem requestedBit_snoc_of_unwritten {register : UInt16} {history : List Traced} {traced : Traced}
    (unwritten : traced.access.writesTo register = false) (output : Output) (initial : Bool) :
    requestedBit register output initial (history ++ [traced]) =
      requestedBit register output initial history := by
  rw [requestedBit_append]
  simp only [requestedBit, List.foldl_cons, List.foldl_nil, unwritten, Bool.false_eq_true,
    and_false, if_false]
  cases traced.call <;> rfl

theorem Access.effect_of_unwritten {access : Access} {register : UInt16}
    (unwritten : access.writesTo register = false) (word : UInt16) :
    access.effect register word = word := by
  unfold writesTo at unwritten
  unfold effect
  cases named : access.body with
  | read start count => rfl
  | write address value =>
      rw [named] at unwritten
      have other : address ≠ register := by simpa using unwritten
      simp only [other, and_false, if_false]

/-- The command register keeps its bits at an access that does not write it. -/
theorem BitLaw.of_unwritten {history : List Traced} {traced : Traced}
    (law : BitLaw plc command control history)
    (unwritten : traced.access.writesTo plc.command = false)
    (enabling : ∀ bit, 1 ≤ bit → bit < 16 →
      (traced.access.effect plc.control
          (valueAfter plc.control control (accesses history))).toNat.testBit bit =
        (valueAfter plc.control control (accesses history)).toNat.testBit bit) :
    BitLaw plc command control (history ++ [traced]) := by
  constructor
  · intro bit low high
    rw [valueAfter_snoc, Access.effect_of_unwritten unwritten]
    exact law.others bit low high
  · intro output
    rw [valueAfter_snoc, Access.effect_of_unwritten unwritten,
      requestedBit_snoc_of_unwritten unwritten]
    exact law.outputs output
  · intro bit low high
    rw [valueAfter_snoc, enabling bit low high]
    exact law.control bit low high

theorem Access.effect_write {access : Access} {address value : UInt16}
    (named : access.body = .write address value) (register word : UInt16) :
    access.effect register word = if access.applied ∧ address = register then value else word := by
  rw [effect, named]

/-- Proper accesses keep every bit that no call has changed. -/
theorem bitLaw_of_proper (distinct : plc.command ≠ plc.control) {history : List Traced}
    (proper : ProperHistory plc command control history) : BitLaw plc command control history := by
  induction history using List.reverseRecOn with
  | nil => exact ⟨fun _ _ _ => rfl, fun _ => rfl, fun _ _ _ => rfl⟩
  | append_singleton history traced ih =>
      rcases properHistory_append.mp proper with ⟨earlier, here, -⟩
      have law := ih earlier
      cases here with
      | reads reading =>
          rcases reading with ⟨start, count, named⟩
          apply law.of_unwritten
          · rw [Access.writesTo, named]
          · intro bit _ _
            rw [Access.effect_read named]
      | repairs named =>
          apply law.of_unwritten
          · rw [Access.writesTo, named]
            exact beq_eq_false_iff_ne.mpr distinct.symm
          · intro bit low high
            rw [Access.effect_write named]
            split_ifs with applied
            · rw [testBit_enableRemoteControlWord, decide_eq_false (Nat.ne_of_gt low),
                Bool.or_false]
            · rfl
      | writes output enabled called named =>
          have control : traced.access.effect plc.control
              (valueAfter plc.control control (accesses history)) =
                valueAfter plc.control control (accesses history) := by
            rw [Access.effect_write named, if_neg]
            exact fun both => distinct both.2
          have writes : traced.access.writesTo plc.command = true := by
            rw [Access.writesTo, named]
            exact beq_self_eq_true _
          constructor
          · intro bit low high
            rw [valueAfter_snoc, Access.effect_write named]
            split_ifs with applied
            · have other : bit ≠ output.bit.toNat := by
                have small := output.bit_lt
                omega
              rw [testBit_withBit _ _ _ _ high, if_neg other]
              exact law.others bit low high
            · exact law.others bit low high
          · intro asked
            have small := asked.bit_lt
            have value := law.outputs asked
            have snoc : requestedBit plc.command asked (command.toNat.testBit asked.bit.toNat)
                (history ++ [traced]) =
                if output = asked ∧ traced.access.applied = true then enabled
                else requestedBit plc.command asked (command.toNat.testBit asked.bit.toNat)
                  history := by
              rw [requestedBit_append]
              simp only [requestedBit, List.foldl_cons, List.foldl_nil, called, writes, and_true]
            rw [valueAfter_snoc, Access.effect_write named, snoc]
            cases applied : traced.access.applied with
            | false => simpa using value
            | true =>
                simp only [and_true, if_true]
                rw [testBit_withBit _ _ _ _ (by omega)]
                by_cases same : output = asked
                · rw [same, if_pos rfl, if_pos rfl]
                · have other : asked.bit.toNat ≠ output.bit.toNat :=
                    fun equal => same (Output.bit_injective equal).symm
                  rw [if_neg other, if_neg same]
                  exact value
          · intro bit low high
            rw [valueAfter_snoc, control]
            exact law.control bit low high

end History

/-! ## Callbacks -/

/-- The accesses of one callback. -/
def trace (call : Option (Output × Bool)) (requests : List Access) : List Traced :=
  requests.map (Traced.mk call)

/-- The remote control was read as enabled. -/
def RemoteEnabled (control : UInt16) (requests : List Access) : Prop :=
  ∃ access ∈ requests, access.body = .read control 1 ∧
    ∃ word, access.reply = .registers [word] ∧ word.toNat.testBit 0 = true

section Callbacks

variable {plc : PlcModel} {command control status : UInt16} {output : Output} {enabled : Bool}
  {requests : List Access}

theorem accesses_trace (call : Option (Output × Bool)) (requests : List Access) :
    accesses (trace call requests) = requests := by
  rw [accesses, trace, List.map_map]
  exact List.map_id requests

theorem trace_append (call : Option (Output × Bool)) (earlier later : List Access) :
    trace call (earlier ++ later) = trace call earlier ++ trace call later :=
  List.map_append

theorem proper_of_reads (call : Option (Output × Bool))
    (reads : ∀ access ∈ requests, access.IsRead) :
    ProperHistory plc command control (trace call requests) := by
  induction requests generalizing command control with
  | nil => trivial
  | cons access requests ih =>
      rcases List.forall_mem_cons.mp reads with ⟨here, later⟩
      exact ⟨.reads here, ih later⟩

theorem RepairLog.proper {ready : Bool} (log : RepairLog plc.control control requests ready)
    (call : Option (Output × Bool)) : ProperHistory plc command control (trace call requests) := by
  cases log with
  | unread first reads => exact ⟨.reads ⟨_, _, reads⟩, trivial⟩
  | enabled first reads answer set => exact ⟨.reads ⟨_, _, reads⟩, trivial⟩
  | unwritten first second reads writes =>
      refine ⟨.reads ⟨_, _, reads⟩, .repairs ?_, trivial⟩
      rw [Access.effect_read reads]
      exact writes
  | unconfirmed first second third reads writes readsBack =>
      refine ⟨.reads ⟨_, _, reads⟩, .repairs ?_, .reads ⟨_, _, readsBack⟩, trivial⟩
      rw [Access.effect_read reads]
      exact writes
  | confirmed first second third readback reads writes readsBack answer set =>
      refine ⟨.reads ⟨_, _, reads⟩, .repairs ?_, .reads ⟨_, _, readsBack⟩, trivial⟩
      rw [Access.effect_read reads]
      exact writes

/-- The repair does not write the command register. -/
theorem RepairLog.unwritten_command (distinct : plc.command ≠ plc.control) {ready : Bool}
    (log : RepairLog plc.control control requests ready) :
    ∀ access ∈ requests, access.writesTo plc.command = false := by
  have other : (plc.control == plc.command) = false := beq_eq_false_iff_ne.mpr distinct.symm
  cases log <;>
    simp_all only [List.forall_mem_cons, List.not_mem_nil, Access.writesTo, false_implies,
      implies_true, and_self]

theorem RepairLog.remoteEnabled (log : RepairLog plc.control control requests true) :
    RemoteEnabled plc.control requests := by
  cases log with
  | enabled first reads answer set =>
      exact ⟨first, List.mem_cons_self, reads, control, answer, set⟩
  | confirmed first second third readback reads writes readsBack answer set =>
      exact ⟨third, by simp, readsBack, readback, answer, set⟩

/-- The accesses of an output write: a read, the one write of the command register, and
reads, which show the requested bit when the write was verified. -/
theorem OutputLog.cases {verified : Bool}
    (log : OutputLog plc.command status command output enabled requests verified) :
    (∃ first : Access, requests = [first] ∧ first.body = .read plc.command 1 ∧
      verified = false) ∨
    ∃ first second later, requests = first :: second :: later ∧
      first.body = .read plc.command 1 ∧
      second.body = .write plc.command (withBit command output.bit enabled) ∧
      (∀ access ∈ later, access.IsRead) ∧
      (verified = true →
        (∃ access ∈ later, access.Shows plc.command output enabled) ∧
        ∃ access ∈ later, access.Shows status output enabled) := by
  cases log with
  | unread first reads => exact Or.inl ⟨first, rfl, reads, rfl⟩
  | unverified first second later reads writes readsLater =>
      exact Or.inr ⟨first, second, later, rfl, reads, writes, readsLater, nofun⟩
  | verified first second later commandRead statusRead reads writes readsLater commandShows
      statusShows =>
      refine Or.inr ⟨first, second, later ++ [commandRead, statusRead], rfl, reads, writes, ?_, ?_⟩
      · have commandReads : commandRead.IsRead := ⟨_, _, commandShows.choose_spec.1⟩
        have statusReads : statusRead.IsRead := ⟨_, _, statusShows.choose_spec.1⟩
        exact List.forall_mem_append.mpr ⟨readsLater,
          List.forall_mem_cons.mpr ⟨commandReads, List.forall_mem_singleton.mpr statusReads⟩⟩
      · intro _
        exact ⟨⟨commandRead, by simp, commandShows⟩, ⟨statusRead, by simp, statusShows⟩⟩

theorem OutputLog.proper {verified : Bool}
    (log : OutputLog plc.command status command output enabled requests verified) :
    ProperHistory plc command control (trace (some (output, enabled)) requests) := by
  rcases log.cases with ⟨first, rfl, reads, -⟩ | ⟨first, second, later, rfl, reads, writes, reading, -⟩
  · exact ⟨.reads ⟨_, _, reads⟩, trivial⟩
  · refine ⟨.reads ⟨_, _, reads⟩, .writes output enabled rfl ?_, proper_of_reads _ reading⟩
    rw [Access.effect_read reads]
    exact writes

/-- What the accesses of a service call keep to. -/
structure CallLaw (plc : PlcModel) (status : UInt16) (output : Output) (enabled : Bool)
    (requests : List Access) (success : Bool) : Prop where
  /-- The command register is written at most once. -/
  once : requests.countP (Access.writesTo plc.command) ≤ 1
  /-- It is written only behind a read of the control register with its enable bit set. -/
  guarded : ∀ earlier access later, requests = earlier ++ access :: later →
    access.writesTo plc.command = true → RemoteEnabled plc.control earlier
  /-- A successful call has seen the requested bit in the command and in the status
  register after its write. -/
  verified : success = true → ∃ earlier access later, requests = earlier ++ access :: later ∧
    access.writesTo plc.command = true ∧
    (∃ readback ∈ later, readback.Shows plc.command output enabled) ∧
    ∃ readback ∈ later, readback.Shows status output enabled

theorem CallLog.proper {device : Device} {success : Bool}
    (log : CallLog plc status device output enabled requests success) :
    ProperHistory plc (device.memory plc.command) (device.memory plc.control)
      (trace (some (output, enabled)) requests) := by
  cases log with
  | unconnected => trivial
  | unrepaired _ log => exact log.proper _
  | written repairs writes verified repaired log =>
      rw [trace_append, properHistory_append, accesses_trace]
      exact ⟨repaired.proper _, log.proper⟩

theorem PollLog.proper {device : Device} (log : PollLog plc device requests) :
    ProperHistory plc (device.memory plc.command) (device.memory plc.control)
      (trace none requests) := by
  cases log with
  | unconnected => trivial
  | polled repairs reads ready log reading =>
      rw [trace_append, properHistory_append]
      exact ⟨log.proper _, proper_of_reads none reading⟩

theorem Access.IsRead.unwritten {access : Access} (reading : access.IsRead) (register : UInt16) :
    access.writesTo register = false := by
  rcases reading with ⟨start, count, named⟩
  rw [writesTo, named]

theorem countP_of_unwritten {register : UInt16}
    (unwritten : ∀ access ∈ requests, access.writesTo register = false) :
    requests.countP (Access.writesTo register) = 0 := by
  rw [List.countP_eq_zero]
  intro access member
  rw [unwritten access member]
  exact Bool.false_ne_true

/-- Without a command write the law says nothing. -/
theorem CallLaw.of_unwritten
    (unwritten : ∀ access ∈ requests, access.writesTo plc.command = false) :
    CallLaw plc status output enabled requests false where
  once := by rw [countP_of_unwritten unwritten]; exact Nat.zero_le 1
  guarded := by
    intro earlier access later split writes
    have member : access ∈ requests := by
      rw [split]
      exact List.mem_append_right _ List.mem_cons_self
    rw [unwritten access member] at writes
    contradiction
  verified := nofun

theorem CallLog.law (distinct : plc.command ≠ plc.control) {device : Device} {success : Bool}
    (log : CallLog plc status device output enabled requests success) :
    CallLaw plc status output enabled requests success := by
  cases log with
  | unconnected => exact .of_unwritten (by simp)
  | unrepaired _ log => exact .of_unwritten (log.unwritten_command distinct)
  | written repairs writes verified repaired log =>
      have unwritten := repaired.unwritten_command distinct
      have enabledBefore {earlier later : List Access} {access : Access}
          (split : repairs ++ writes = earlier ++ access :: later)
          (wrote : access.writesTo plc.command = true) : RemoteEnabled plc.control earlier := by
        rcases repaired.remoteEnabled with ⟨read, member, enabled⟩
        refine ⟨read, ?_, enabled⟩
        rcases List.append_eq_append_iff.mp split with ⟨between, rfl, -⟩ | ⟨between, both, rest⟩
        · exact List.mem_append_left _ member
        · cases between with
          | nil =>
              rw [List.append_nil] at both
              rw [← both]
              exact member
          | cons head tail =>
              have first : access = head := (List.cons.inj rest).1
              have inside : access ∈ repairs := by
                rw [both, first]
                simp
              rw [unwritten access inside] at wrote
              contradiction
      rcases log.cases with ⟨first, rfl, reads, unverified⟩ |
          ⟨first, second, later, rfl, reads, wrote, reading, shows⟩
      · rw [unverified]
        apply CallLaw.of_unwritten
        have unread : first.writesTo plc.command = false :=
          Access.IsRead.unwritten ⟨_, _, reads⟩ plc.command
        exact List.forall_mem_append.mpr ⟨unwritten, List.forall_mem_singleton.mpr unread⟩
      · have firstUnwritten : first.writesTo plc.command = false :=
          Access.IsRead.unwritten ⟨_, _, reads⟩ plc.command
        have laterUnwritten : ∀ access ∈ later, access.writesTo plc.command = false :=
          fun access member => (reading access member).unwritten plc.command
        have secondWrites : second.writesTo plc.command = true := by
          rw [Access.writesTo, wrote]
          exact beq_self_eq_true _
        constructor
        · rw [List.countP_append, countP_of_unwritten unwritten, List.countP_cons,
            List.countP_cons, countP_of_unwritten laterUnwritten]
          simp [firstUnwritten, secondWrites]
        · intro earlier access later split wrote
          exact enabledBefore split wrote
        · intro success
          exact ⟨repairs ++ [first], second, later, by simp, secondWrites, shows success⟩

end Callbacks

/-! ## Runs -/

/-- The request of a callback. -/
def NodeEvent.request : NodeEvent → Option (Output × Bool)
  | .call output enabled => some (output, enabled)
  | .poll => none

/-- Record the accesses of a callback. -/
def recordAccesses (node : PlcNode Device) (event : NodeEvent) (next : PlcNode Device)
    (history : List Traced) : List Traced :=
  history ++ trace event.request
    (next.session.server.log.drop node.session.server.log.length)

section Runs

variable {plc : PlcModel} {surroundings : Surroundings Device} {parameters : Parameters}
  {node : PlcNode Device}

/-- A service call responds, and its accesses keep to their law. -/
theorem serviceCallback_law (behind : plc.Behind surroundings parameters)
    (distinct : plc.command ≠ plc.control) (quiet : node.Quiet) (output : Output)
    (enabled : Bool) :
    ∃ response state next requests,
      PlcNode.handle surroundings parameters (.call output enabled) node =
        .ok { response := some response, state } next ∧
      next.Quiet ∧ plc.Extends node.session.server requests next.session.server ∧
      ProperHistory plc (node.session.server.memory plc.command)
        (node.session.server.memory plc.control) (trace (some (output, enabled)) requests) ∧
      CallLaw plc parameters.registers.output output enabled requests response.success := by
  have called : Called plc _ _ output enabled _ := answerOutput_called behind quiet
  rcases called.log with ⟨requests, log, continues⟩
  exact ⟨_, _, _, requests, serviceCallback_eq output enabled, called.quiet, continues, log.proper,
    log.law distinct⟩

theorem pollOnce_law (behind : plc.Behind surroundings parameters) (quiet : node.Quiet) :
    ∃ reaction next requests,
      PlcNode.handle surroundings parameters .poll node = .ok reaction next ∧
      next.Quiet ∧ plc.Extends node.session.server requests next.session.server ∧
      ProperHistory plc (node.session.server.memory plc.command)
        (node.session.server.memory plc.control) (trace none requests) := by
  rcases pollOnce_polled quiet with ⟨last, polled, returns⟩
  rcases polled.log behind with ⟨silent, requests, log, continues⟩
  exact ⟨_, _, requests, returns, silent, continues, log.proper⟩

/-- What holds of the node, the PLC and the recorded accesses between two callbacks. -/
structure ServiceLaw (plc : PlcModel) (memory : Memory) (node : PlcNode Device)
    (history : List Traced) : Prop where
  quiet : node.Quiet
  log : plc.Extends ⟨memory, []⟩ (accesses history) node.session.server
  proper : ProperHistory plc (memory plc.command) (memory plc.control) history

theorem ServiceLaw.extend {memory : Memory} {history : List Traced} {event : NodeEvent}
    {next : PlcNode Device} {requests : List Access} (law : ServiceLaw plc memory node history)
    (quiet : next.Quiet)
    (continues : plc.Extends node.session.server requests next.session.server)
    (proper : ProperHistory plc (node.session.server.memory plc.command)
      (node.session.server.memory plc.control) (trace event.request requests)) :
    ServiceLaw plc memory next (recordAccesses node event next history) := by
  have recorded : recordAccesses node event next history =
      history ++ trace event.request requests := by
    rw [recordAccesses, continues.log, List.drop_left]
  rw [recorded]
  refine ⟨quiet, ?_, ?_⟩
  · rw [accesses_append, accesses_trace]
    exact law.log.trans continues
  · rw [law.log.memory _ (Or.inl rfl), law.log.memory _ (Or.inr rfl)] at proper
    exact properHistory_append.mpr ⟨law.proper, proper⟩

theorem serviceLaw_of_reachable (behind : plc.Behind surroundings parameters)
    (distinct : plc.command ≠ plc.control) {memory : Memory} {history : List Traced}
    (reachable : Reachable (observed (PlcNode.step surroundings parameters) recordAccesses)
      (onState unguarded) (PlcNode.start ⟨memory, []⟩, []) (node, history)) :
    ServiceLaw plc memory node history := by
  have start : ServiceLaw plc memory (PlcNode.start ⟨memory, []⟩) [] :=
    ⟨fun connected => absurd connected Bool.false_ne_true, .refl _, trivial⟩
  refine reachable.invariant (fun state => ServiceLaw plc memory state.1 state.2) start ?_
  rintro ⟨source, earlier⟩ ⟨target, later⟩ event law - step
  rcases observed_eq_some_iff.mp step with ⟨moves, recorded⟩
  simp only at law moves recorded
  rw [recorded]
  unfold PlcNode.step at moves
  cases event with
  | call output enabled =>
      rcases serviceCallback_law behind distinct law.quiet output enabled with
        ⟨response, state, next, requests, handles, quiet, continues, proper, -⟩
      rw [handles] at moves
      cases moves
      exact law.extend quiet continues proper
  | poll =>
      rcases pollOnce_law behind law.quiet with
        ⟨reaction, next, requests, handles, quiet, continues, proper⟩
      rw [handles] at moves
      cases moves
      exact law.extend quiet continues proper

end Runs

/-- In every run of service calls and polls against a PLC behind a lossy link: the two
registers are what the applied writes made of them; after every access the bits 3 to 15
of the command register and 1 to 15 of the control register are as at the start, and
the bit of an output is what the last call for it with an applied write has requested;
and the accesses of every service call keep to the law of calls. -/
theorem output_services_touch_their_bit (plc : PlcModel) (surroundings : Surroundings Device)
    (parameters : Parameters) (behind : plc.Behind surroundings parameters)
    (distinct : plc.command ≠ plc.control) (memory : Memory) (node : PlcNode Device)
    (history : List Traced)
    (reachable : Reachable (observed (PlcNode.step surroundings parameters) recordAccesses)
      (onState unguarded) (PlcNode.start ⟨memory, []⟩, []) (node, history)) :
    (node.session.server.log = accesses history ∧
      ∀ register, plc.Owned register → node.session.server.memory register =
        valueAfter register (memory register) (accesses history)) ∧
    (∀ earlier later, history = earlier ++ later →
      BitLaw plc (memory plc.command) (memory plc.control) earlier) ∧
    ∀ output enabled, ∃ response state next requests,
      PlcNode.handle surroundings parameters (.call output enabled) node =
        .ok { response := some response, state } next ∧
      next.session.server.log = node.session.server.log ++ requests ∧
      CallLaw plc parameters.registers.output output enabled requests response.success := by
  have law := serviceLaw_of_reachable behind distinct reachable
  refine ⟨⟨law.log.log, law.log.memory⟩, ?_, ?_⟩
  · rintro earlier later rfl
    exact bitLaw_of_proper distinct (properHistory_append.mp law.proper).1
  · intro output enabled
    rcases serviceCallback_law behind distinct law.quiet output enabled with
      ⟨response, state, next, requests, handles, -, continues, -, callLaw⟩
    exact ⟨response, state, next, requests, handles, continues.log, callLaw⟩

/-- A PLC that follows the command of its left solenoid and reports a failure for the
twelfth request after it has applied it. -/
def losingPlc : PlcModel where
  command := 200
  control := 201
  fates n := if n = 11 then .failed true 4 else .answered
  inputs _ _ := 1

/-- A prompt link to that PLC. -/
def losingSurroundings : Surroundings Device where
  server := losingPlc.server
  arrivals _ := .chunk 300
  unitId := 1
  connects _ := none
  clock := countingClock
  rounding := .exact

/-- The registers of that PLC at the start. -/
def losingMemory : Memory := fun register =>
  if register = 200 then 0xA000 else 0x0100

/-- The left solenoid is switched on and verified; the write for the right one fails
after it was applied. -/
theorem output_services_touch_their_bit_of_failure :
    ∃ node history,
      Reachable (observed (PlcNode.step losingSurroundings defaultParameters) recordAccesses)
        (onState unguarded) (PlcNode.start ⟨losingMemory, []⟩, []) (node, history) ∧
      node.session.server.memory 200 = 0xA003 ∧
      (∀ bit, 3 ≤ bit → bit < 16 →
        (valueAfter 200 0xA000 (accesses history)).toNat.testBit bit =
          (0xA000 : UInt16).toNat.testBit bit) := by
  have found : (run (observed (PlcNode.step losingSurroundings defaultParameters) recordAccesses)
      (onState unguarded) (PlcNode.start ⟨losingMemory, []⟩, [])
      [.call .leftSolenoid true, .poll, .call .rightSolenoid true, .poll]).any
        (fun state => state.1.session.server.memory 200 == 0xA003) = true := by
    decide +kernel
  rcases exists_reachable_of_run found with ⟨⟨node, history⟩, reachable, written⟩
  rcases output_services_touch_their_bit losingPlc losingSurroundings defaultParameters
    ⟨rfl, rfl, rfl⟩ (by decide) losingMemory node history reachable with ⟨-, law, -⟩
  exact ⟨node, history, reachable, by simpa using written,
    (law history [] (List.append_nil _).symm).others⟩

end RtControl.Plc
