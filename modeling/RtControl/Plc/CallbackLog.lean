import RtControl.Plc.OutputLog

/-!
# The accesses of whole callbacks

A service callback repairs the remote control and then writes its output; a poll
repairs the remote control and then only reads.  Between two callbacks a connected
client stands between two answers.
-/

namespace RtControl.Plc

open RtControl.Codec

/-! ## The client of a callback -/

section Ensure

variable {σ : Type} {node : PlcNode σ}

/-- What the node keeps while it looks for a client. -/
structure Kept (node next : PlcNode σ) : Prop where
  server : next.session.server = node.session.server
  snapshot : next.snapshot = node.snapshot
  lastUpdate : next.lastUpdate = node.lastUpdate

/-- What `_ensure_client_locked` does. -/
inductive Ensured (force : Bool) (node : PlcNode σ) :
    EStateM.Result ClientError (PlcNode σ) Bool → Prop
  | available (next : PlcNode σ)
      (kept : Kept node next)
      (connected : next.session.connected = true)
      (quiet : next.session.inbound = []) :
      Ensured force node (.ok true next)
  | absent (next : PlcNode σ)
      (kept : Kept node next)
      (closed : next.session.connected = false)
      (unforced : force = false) :
      Ensured force node (.ok false next)
  | raised (error : ClientError) (next : PlcNode σ)
      (kept : Kept node next)
      (closed : next.session.connected = false)
      (link : error.isLink)
      (forced : force = true) :
      Ensured force node (.error error next)

theorem connect_ok {surroundings : Surroundings σ}
    (opened : surroundings.connects node.attempts = none) :
    PlcNode.connect surroundings node = .ok () { node with
      attempts := node.attempts + 1
      session := { node.session with connected := true, transactionId := 0, inbound := [] }
      lastError := "" } := by
  unfold PlcNode.connect
  rw [nodeBind_ok get_eq]
  simp only [opened]
  rfl

theorem connect_error {surroundings : Surroundings σ} {error : { error : ClientError // error.isLink }}
    (refused : surroundings.connects node.attempts = some error) :
    PlcNode.connect surroundings node = .error error.val { node with
      attempts := node.attempts + 1
      lastError := error.val.text } := by
  unfold PlcNode.connect
  rw [nodeBind_ok get_eq]
  simp only [refused]
  rfl

theorem Kept.trans {node middle next : PlcNode σ} (earlier : Kept node middle)
    (later : Kept middle next) : Kept node next where
  server := later.server.trans earlier.server
  snapshot := later.snapshot.trans earlier.snapshot
  lastUpdate := later.lastUpdate.trans earlier.lastUpdate

theorem Ensured.after {node middle : PlcNode σ} {force : Bool}
    {result : EStateM.Result ClientError (PlcNode σ) Bool} (earlier : Kept node middle)
    (ensured : Ensured force middle result) : Ensured force node result := by
  cases ensured with
  | available next kept connected quiet =>
      exact .available next (earlier.trans kept) connected quiet
  | absent next kept closed unforced => exact .absent next (earlier.trans kept) closed unforced
  | raised error next kept closed link forced =>
      exact .raised error next (earlier.trans kept) closed link forced

theorem tryConnect_ensured (surroundings : Surroundings σ) (force : Bool)
    (closed : node.session.connected = false) :
    Ensured force node (PlcNode.tryConnect surroundings force node) := by
  unfold PlcNode.tryConnect
  cases attempt : surroundings.connects node.attempts with
  | none =>
      simp only [connect_ok attempt]
      exact .available _ ⟨rfl, rfl, rfl⟩ rfl rfl
  | some error =>
      simp only [connect_error attempt]
      cases force with
      | true => exact .raised _ _ ⟨rfl, rfl, rfl⟩ closed error.property rfl
      | false => exact .absent _ ⟨rfl, rfl, rfl⟩ closed rfl

theorem ensureClientLocked_ensured (surroundings : Surroundings σ) (parameters : Parameters)
    (force : Bool) (quiet : node.Quiet) :
    Ensured force node (PlcNode.ensureClientLocked surroundings parameters force node) := by
  unfold PlcNode.ensureClientLocked
  rw [nodeBind_ok get_eq]
  by_cases connected : node.session.connected = true
  · rw [if_pos connected]
    exact .available node ⟨rfl, rfl, rfl⟩ connected (quiet connected)
  · rw [if_neg connected, nodeBind_ok (monotonic_eq surroundings)]
    have closed : node.session.connected = false := by simpa using connected
    by_cases waits : (!force && ((PyFloat.finite (surroundings.clock.reading node.readings)).sub
        surroundings.rounding node.lastConnectAttempt).lt
          (.finite parameters.reconnectPeriod)) = true
    · rw [if_pos waits]
      exact .absent _ ⟨rfl, rfl, rfl⟩ closed (by simp_all)
    · rw [if_neg waits, nodeBind_ok (modify_eq _)]
      refine .after ?_ (tryConnect_ensured surroundings force ?_)
      · exact ⟨rfl, rfl, rfl⟩
      · exact closed

end Ensure

/-! ## A service call -/

/-- The accesses of a service call to a PLC, and whether it succeeded. -/
inductive CallLog (plc : PlcModel) (status : UInt16) (device : Device) (output : Output)
    (enabled : Bool) : List Access → Bool → Prop
  | unconnected : CallLog plc status device output enabled [] false
  | unrepaired (repairs : List Access)
      (log : RepairLog plc.control (device.memory plc.control) repairs false) :
      CallLog plc status device output enabled repairs false
  | written (repairs writes : List Access) (verified : Bool)
      (repaired : RepairLog plc.control (device.memory plc.control) repairs true)
      (log : OutputLog plc.command status
        (valueAfter plc.command (device.memory plc.command) repairs) output enabled writes
        verified) :
      CallLog plc status device output enabled (repairs ++ writes) verified

section Calls

variable {plc : PlcModel} {surroundings : Surroundings Device} {parameters : Parameters}
  {node : PlcNode Device} {output : Output} {enabled : Bool}

/-- What a service callback does before it publishes. -/
structure Called (plc : PlcModel) (status : UInt16) (device : Device) (output : Output)
    (enabled : Bool) (answered : Response × PlcNode Device) : Prop where
  quiet : answered.2.Quiet
  log : ∃ requests, CallLog plc status device output enabled requests answered.1.success ∧
    plc.Extends device requests answered.2.session.server

/-- The handlers of a service callback keep a client that stands between two answers. -/
theorem Called.of_raised {status : UInt16} {device : Device} {error : ClientError}
    {next : PlcNode Device} {requests : List Access}
    (log : CallLog plc status device output enabled requests false)
    (continues : plc.Extends device requests next.session.server)
    (quiet : error.kind = .control → next.session.inbound = []) :
    Called plc status device output enabled (PlcNode.rejectOutput output error next) := by
  unfold PlcNode.rejectOutput
  split_ifs with control
  · exact ⟨fun _ => quiet control, requests, log, continues⟩
  · exact ⟨fun connected => absurd connected Bool.false_ne_true, requests, log, continues⟩

theorem serveConnected_wrote (behind : plc.Behind surroundings parameters)
    (connected : node.session.connected = true) (empty : node.session.inbound = []) :
    Wrote plc node (CallLog plc parameters.registers.output node.session.server output enabled)
      (PlcNode.serveConnected surroundings parameters output enabled node) := by
  unfold PlcNode.serveConnected
  rw [behind.control]
  have repaired : Repaired plc node.session _ :=
    repairRemoteControl_repaired behind.server connected empty
  generalize repairs : repairRemoteControl surroundings.toSetting plc.control.toNat
    node.session = result at repaired
  cases repaired with
  | raised error session requests log continues stays caught quietAfter =>
      rw [nodeBind_error (onClient_error repairs)]
      exact .raised error _ requests (.unrepaired requests log) continues stays quietAfter
  | returned changed session requests log continues stays emptyAfter =>
      rw [nodeBind_ok (onClient_ok repairs)]
      have wrote : Wrote plc { node with session } _
          (PlcNode.writeOutputBit surroundings parameters output.bit enabled
            (.finite parameters.verifyTimeout) (.finite parameters.verifyPeriod)
            { node with session }) :=
        writeOutputBit_wrote behind stays emptyAfter
      refine wrote.after continues ?_
      intro writes verified logLater
      refine .written requests writes verified log ?_
      rw [← continues.memory _ (Or.inl rfl)]
      exact logLater

theorem answerOutput_called (behind : plc.Behind surroundings parameters) (quiet : node.Quiet) :
    Called plc parameters.registers.output node.session.server output enabled
      (PlcNode.answerOutput surroundings parameters output enabled node) := by
  unfold PlcNode.answerOutput PlcNode.serveOutput
  have ensured := ensureClientLocked_ensured surroundings parameters true quiet
  generalize ensures : PlcNode.ensureClientLocked surroundings parameters true node =
    result at ensured
  cases ensured with
  | absent next kept closed unforced => contradiction
  | raised error next kept closed link forced =>
      rw [nodeBind_error ensures, ← kept.server]
      exact .of_raised .unconnected (.refl _) fun control => absurd control link.caught.2
  | available next kept connected empty =>
      rw [nodeBind_ok ensures, ← kept.server]
      simp only [Bool.not_true, Bool.false_eq_true, if_false]
      have wrote : Wrote plc next _
          (PlcNode.serveConnected surroundings parameters output enabled next) :=
        serveConnected_wrote behind connected empty
      generalize PlcNode.serveConnected surroundings parameters output enabled next =
        result at wrote
      cases wrote with
      | returned value last requests log continues stays emptyAfter =>
          exact ⟨fun _ => emptyAfter, requests, log, continues⟩
      | raised error last requests log continues stays quietAfter =>
          exact .of_raised log continues quietAfter

end Calls

/-! ## Reads -/

section Reads

variable {plc : PlcModel} {setting : Setting Device} {α β : Type}

/-- The state that a computation leaves. -/
def stateAfter {ε σ : Type} : EStateM.Result ε σ α → σ
  | .ok _ state => state
  | .error _ state => state

/-- Client code that only reads, on any stream. -/
def ReadOnly (plc : PlcModel) (action : Client Device α) : Prop :=
  ∀ s : Session Device, s.connected = true →
    ∃ requests, (∀ access ∈ requests, access.IsRead) ∧
      plc.Extends s.server requests (stateAfter (action s)).server ∧
      (stateAfter (action s)).connected = true

theorem readOnly_pure (value : α) : ReadOnly plc (pure value) :=
  fun s connected => ⟨[], by simp, .refl s.server, connected⟩

theorem readOnly_throw (error : ClientError) : ReadOnly plc (throw error : Client Device α) :=
  fun s connected => ⟨[], by simp, .refl s.server, connected⟩

theorem readOnly_ofExcept (checked : Except ClientError α) :
    ReadOnly plc (ofExcept checked : Client Device α) := by
  cases checked with
  | error error => exact readOnly_throw error
  | ok value => exact readOnly_pure value

theorem ReadOnly.bind {first : Client Device α} {rest : α → Client Device β}
    (reads : ReadOnly plc first) (readsLater : ∀ value, ReadOnly plc (rest value)) :
    ReadOnly plc (first >>= rest) := by
  intro s connected
  rcases reads s connected with ⟨requests, reading, continues, stays⟩
  cases result : first s with
  | error error t =>
      rw [bind_error result]
      rw [result] at continues stays
      exact ⟨requests, reading, continues, stays⟩
  | ok value t =>
      rw [bind_ok result]
      rw [result] at continues stays
      rcases readsLater value t stays with ⟨further, readingLater, continuesLater, staysLater⟩
      exact ⟨requests ++ further, List.forall_mem_append.mpr ⟨reading, readingLater⟩,
        continues.trans continuesLater, staysLater⟩

/-- A request is served once, on any stream. -/
theorem request_served (behind : setting.server = plc.server) (body : Body) {s : Session Device}
    (connected : s.connected = true) :
    ∃ access : Access, access.body = body ∧
      plc.Extends s.server [access]
        (stateAfter (request setting body.function body.payload s)).server ∧
      (stateAfter (request setting body.function body.payload s)).connected = true := by
  rcases plc.extends_serve s.server body with ⟨applied, continues⟩
  have server : (s.sent setting body).server = (plc.serve s.server body).1 := by
    rw [Session.sent, behind]
    rfl
  rw [← server] at continues
  refine ⟨⟨body, (plc.serve s.server body).2, applied⟩, rfl, ?_⟩
  rw [request_eq connected]
  cases result : response setting body.function (s.sent setting body) with
  | ok payload t =>
      rcases response_ok (function_plain body) result with ⟨rest, recvs, -, -, rfl⟩
      exact ⟨continues, connected⟩
  | error error t =>
      rcases response_error result with ⟨-, rest, recvs, rfl⟩
      exact ⟨continues, connected⟩

theorem readOnly_readHoldingRegisters (behind : setting.server = plc.server) (start count : Int) :
    ReadOnly plc (readHoldingRegisters setting start count) := by
  refine (readOnly_ofExcept _).bind fun _ => .bind ?_ fun _ => readOnly_ofExcept _
  intro s connected
  rcases request_served behind (readBody start count) connected with
    ⟨access, named, continues, stays⟩
  exact ⟨[access], List.forall_mem_singleton.mpr ⟨_, _, named⟩, continues, stays⟩

theorem readOnly_readRegister (behind : setting.server = plc.server) (register : Int) :
    ReadOnly plc (readRegister setting register) :=
  (readOnly_readHoldingRegisters behind register 1).bind fun _ => readOnly_pure _

theorem readOnly_readIoSnapshot (behind : setting.server = plc.server)
    (input output alarm : Int) : ReadOnly plc (readIoSnapshot setting input output alarm) := by
  unfold readIoSnapshot
  split_ifs
  · refine (readOnly_readHoldingRegisters behind input 3).bind fun values => ?_
    split
    · exact readOnly_pure _
    · exact readOnly_throw _
  · exact (readOnly_readRegister behind input).bind fun _ =>
      (readOnly_readRegister behind output).bind fun _ =>
        (readOnly_readRegister behind alarm).bind fun _ => readOnly_pure _

end Reads

/-! ## A poll -/

section Polls

variable {σ : Type} {surroundings : Surroundings σ} {parameters : Parameters} {node : PlcNode σ}

/-- The session on which a poll reads the status, once it has a client. -/
def statusSession (surroundings : Surroundings σ) (parameters : Parameters) (node : PlcNode σ) :
    Session σ :=
  repaired surroundings.toSetting parameters.registers node.session

/-- What a poll does before it publishes: there is no client, the status read returns, or
it raises. -/
inductive Polled (surroundings : Surroundings σ) (parameters : Parameters) (node : PlcNode σ) :
    PlcNode σ → Prop
  | absent (next : PlcNode σ)
      (ensures : PlcNode.ensureClientLocked surroundings parameters false node = .ok false next)
      (kept : Kept node next)
      (closed : next.session.connected = false) :
      Polled surroundings parameters node next
  | read (next : PlcNode σ) (snapshot : PlcIoSnapshot) (session : Session σ) (remoteError : String)
      (ensures : PlcNode.ensureClientLocked surroundings parameters false node = .ok true next)
      (kept : Kept node next)
      (connected : next.session.connected = true)
      (empty : next.session.inbound = [])
      (reads : readIoSnapshot surroundings.toSetting parameters.registers.input.toNat
        parameters.registers.output.toNat parameters.registers.alarm.toNat
        (statusSession surroundings parameters next) = .ok snapshot session)
      (stays : session.connected = true)
      (quiet : session.inbound = []) :
      Polled surroundings parameters node { next with
        session, snapshot
        readings := next.readings + 1
        lastUpdate := some (.finite (surroundings.clock.reading next.readings))
        lastError := remoteError }
  | failed (next : PlcNode σ) (error : ClientError) (session : Session σ)
      (ensures : PlcNode.ensureClientLocked surroundings parameters false node = .ok true next)
      (kept : Kept node next)
      (connected : next.session.connected = true)
      (empty : next.session.inbound = [])
      (reads : readIoSnapshot surroundings.toSetting parameters.registers.input.toNat
        parameters.registers.output.toNat parameters.registers.alarm.toNat
        (statusSession surroundings parameters next) = .error error session) :
      Polled surroundings parameters node
        (PlcNode.closeClientLocked { next with session, lastError := error.text })

/-- The repair in a poll goes on with the session it leaves, and with a stream on which the
status read is not misled. -/
theorem repairPolled_eq {next : PlcNode σ} (connected : next.session.connected = true)
    (empty : next.session.inbound = []) :
    ∃ remoteError, PlcNode.repairPolled surroundings parameters next =
        .ok remoteError { next with session := statusSession surroundings parameters next } ∧
      (statusSession surroundings parameters next).connected = true ∧
      Pending surroundings.toSetting (statusSession surroundings parameters next) := by
  unfold PlcNode.repairPolled statusSession repaired
  rcases repairRemoteControl_settled surroundings.toSetting connected empty
      parameters.registers.control with
    ⟨changed, t, returned, stays, quiet⟩ | ⟨error, t, raised, caught, stays, pending⟩
  · simp only [onClient_ok returned, returned]
    exact ⟨_, rfl, stays, .quiet quiet⟩
  · simp only [onClient_error raised, raised, if_neg caught]
    exact ⟨_, rfl, stays, pending⟩

theorem pollStatus_ok {remoteError : String} {snapshot : PlcIoSnapshot} {session : Session σ}
    (reads : readIoSnapshot surroundings.toSetting parameters.registers.input.toNat
      parameters.registers.output.toNat parameters.registers.alarm.toNat node.session =
        .ok snapshot session) :
    PlcNode.pollStatus surroundings parameters remoteError node = .ok () { node with
      session, snapshot
      readings := node.readings + 1
      lastUpdate := some (.finite (surroundings.clock.reading node.readings))
      lastError := remoteError } := by
  simp only [PlcNode.pollStatus, PlcNode.readStatus, onClient_ok reads]

theorem pollStatus_error {remoteError : String} {error : ClientError} {session : Session σ}
    (reads : readIoSnapshot surroundings.toSetting parameters.registers.input.toNat
      parameters.registers.output.toNat parameters.registers.alarm.toNat node.session =
        .error error session)
    (link : error.isLink) :
    PlcNode.pollStatus surroundings parameters remoteError node =
      .ok () (PlcNode.closeClientLocked { node with session, lastError := error.text }) := by
  simp only [PlcNode.pollStatus, PlcNode.readStatus, onClient_error reads, if_neg link.caught.2]

/-- A poll returns, and it publishes the state it leaves. -/
theorem pollOnce_polled (quiet : node.Quiet) :
    ∃ last, Polled surroundings parameters node last ∧
      PlcNode.pollOnce surroundings parameters node =
        (Reaction.mk none <$> PlcNode.publishStateLocked surroundings parameters) last := by
  unfold PlcNode.pollOnce
  have ensured := ensureClientLocked_ensured surroundings parameters false quiet
  generalize ensures : PlcNode.ensureClientLocked surroundings parameters false node =
    result at ensured
  cases ensured with
  | raised error next kept closed link forced => contradiction
  | absent next kept closed unforced =>
      rw [nodeBind_ok ensures]
      exact ⟨next, .absent next ensures kept closed, rfl⟩
  | available next kept connected empty =>
      rw [nodeBind_ok ensures]
      simp only [Bool.not_true, Bool.false_eq_true, if_false]
      rcases repairPolled_eq connected empty with ⟨remoteError, repairs, stays, pending⟩
      rw [nodeBind_ok repairs]
      have read := readIoSnapshot_spec stays pending parameters.registers
      generalize reads : readIoSnapshot surroundings.toSetting parameters.registers.input.toNat
        parameters.registers.output.toNat parameters.registers.alarm.toNat
        (statusSession surroundings parameters next) = result at read
      cases read with
      | fresh snapshot session answered lastConnected lastQuiet =>
          refine ⟨_, .read next snapshot session remoteError ensures kept connected empty reads
            lastConnected lastQuiet, ?_⟩
          rw [nodeBind_ok (pollStatus_ok reads)]
          rfl
      | raised error session link =>
          refine ⟨_, .failed next error session ensures kept connected empty reads, ?_⟩
          rw [nodeBind_ok (pollStatus_error reads link)]
          rfl

/-- The state that a node publishes. -/
def publishedState (surroundings : Surroundings σ) (parameters : Parameters) (node : PlcNode σ) :
    PlcIoState :=
  plcStateMessage node.snapshot node.session.connected
    (node.session.connected && stateIsFresh surroundings.rounding node.lastUpdate
      (.finite (surroundings.clock.reading node.readings)) (.finite parameters.dataTimeout))
    node.lastError

theorem serviceCallback_eq (output : Output) (enabled : Bool) :
    PlcNode.serviceCallback surroundings parameters output enabled node =
      .ok { response := some (PlcNode.answerOutput surroundings parameters output enabled node).1
            state := publishedState surroundings parameters
              (PlcNode.answerOutput surroundings parameters output enabled node).2 }
        { (PlcNode.answerOutput surroundings parameters output enabled node).2 with
          readings :=
            (PlcNode.answerOutput surroundings parameters output enabled node).2.readings + 1 } :=
  rfl

end Polls

/-- The accesses of a poll. -/
inductive PollLog (plc : PlcModel) (device : Device) : List Access → Prop
  | unconnected : PollLog plc device []
  | polled (repairs reads : List Access) (ready : Bool)
      (log : RepairLog plc.control (device.memory plc.control) repairs ready)
      (reading : ∀ access ∈ reads, access.IsRead) :
      PollLog plc device (repairs ++ reads)

section Device

variable {plc : PlcModel} {surroundings : Surroundings Device} {parameters : Parameters}
  {node last : PlcNode Device}

theorem statusSession_log (behind : plc.Behind surroundings parameters)
    (connected : node.session.connected = true) (empty : node.session.inbound = []) :
    ∃ repairs ready, RepairLog plc.control (node.session.server.memory plc.control) repairs ready ∧
      plc.Extends node.session.server repairs
        (statusSession surroundings parameters node).server ∧
      (statusSession surroundings parameters node).connected = true := by
  have log : Repaired plc node.session _ :=
    repairRemoteControl_repaired behind.server connected empty
  unfold statusSession repaired
  rw [behind.control]
  generalize repairRemoteControl surroundings.toSetting plc.control.toNat node.session =
    result at log
  cases log with
  | returned changed session requests log continues stays emptyAfter =>
      exact ⟨requests, true, log, continues, stays⟩
  | raised error session requests log continues stays caught quietAfter =>
      exact ⟨requests, false, log, continues, stays⟩

/-- A poll repairs and reads, and it leaves a connected client between two answers. -/
theorem Polled.log (behind : plc.Behind surroundings parameters)
    (polled : Polled surroundings parameters node last) :
    last.Quiet ∧ ∃ requests, PollLog plc node.session.server requests ∧
      plc.Extends node.session.server requests last.session.server := by
  cases polled with
  | absent _ ensures kept closed =>
      refine ⟨fun connected => ?_, [], .unconnected, ?_⟩
      · rw [closed] at connected
        contradiction
      · rw [kept.server]
        exact .refl _
  | read next snapshot session remoteError ensures kept connected empty reads stays quiet =>
      rcases statusSession_log behind connected empty with
        ⟨repairs, ready, log, continues, staysRepaired⟩
      rcases readOnly_readIoSnapshot behind.server _ _ _ _ staysRepaired with
        ⟨requests, reading, continuesLater, -⟩
      rw [reads] at continuesLater
      rw [kept.server] at log continues
      exact ⟨fun _ => quiet, _, .polled repairs requests ready log reading,
        continues.trans continuesLater⟩
  | failed next error session ensures kept connected empty reads =>
      rcases statusSession_log behind connected empty with
        ⟨repairs, ready, log, continues, staysRepaired⟩
      rcases readOnly_readIoSnapshot behind.server _ _ _ _ staysRepaired with
        ⟨requests, reading, continuesLater, -⟩
      rw [reads] at continuesLater
      rw [kept.server] at log continues
      exact ⟨fun again => absurd again Bool.false_ne_true, _,
        .polled repairs requests ready log reading, continues.trans continuesLater⟩

end Device

end RtControl.Plc
