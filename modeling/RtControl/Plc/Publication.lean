import RtControl.Plc.CallbackLog

/-!
# Published states

Service calls reconnect, repair and write, and they raise at many points, but none of
them touches the stored snapshot or its time.  A poll stores the registers that its
status read returned, or it closes the client.  So a state that is published as fresh
shows the registers of the last status read that returned.
-/

namespace RtControl.Plc

open RtControl.Codec
open RtControl.Transition

/-! ## Service calls -/

section Steady

variable {σ α β : Type}

/-- The stored status is the same. -/
structure SameStatus (node next : PlcNode σ) : Prop where
  snapshot : next.snapshot = node.snapshot
  lastUpdate : next.lastUpdate = node.lastUpdate

theorem SameStatus.trans {node middle next : PlcNode σ} (earlier : SameStatus node middle)
    (later : SameStatus middle next) : SameStatus node next where
  snapshot := later.snapshot.trans earlier.snapshot
  lastUpdate := later.lastUpdate.trans earlier.lastUpdate

/-- What node code on a connected client does that leaves the status alone: it returns
between two answers, or it raises, and a control error is raised between two answers. -/
inductive StatusKept (node : PlcNode σ) : EStateM.Result ClientError (PlcNode σ) α → Prop
  | returned (value : α) (next : PlcNode σ)
      (same : SameStatus node next)
      (connected : next.session.connected = true)
      (quiet : next.session.inbound = []) :
      StatusKept node (.ok value next)
  | raised (error : ClientError) (next : PlcNode σ)
      (same : SameStatus node next)
      (quiet : error.kind = .control → next.session.inbound = []) :
      StatusKept node (.error error next)

/-- Node code that leaves the status alone. -/
def Steady (action : NodeM σ α) : Prop :=
  ∀ node : PlcNode σ, node.session.connected = true → node.session.inbound = [] →
    StatusKept node (action node)

theorem steady_pure (value : α) : Steady (pure value : NodeM σ α) :=
  fun node connected quiet => .returned value node ⟨rfl, rfl⟩ connected quiet

theorem steady_throw (error : ClientError) : Steady (throw error : NodeM σ α) :=
  fun node _ quiet => .raised error node ⟨rfl, rfl⟩ fun _ => quiet

theorem steady_ofExcept (checked : Except ClientError α) :
    Steady (ofExcept checked : NodeM σ α) := by
  cases checked with
  | error error => exact steady_throw error
  | ok value => exact steady_pure value

theorem Steady.bind {first : NodeM σ α} {rest : α → NodeM σ β} (steady : Steady first)
    (steadyLater : ∀ value, Steady (rest value)) : Steady (first >>= rest) := by
  intro node connected quiet
  have kept := steady node connected quiet
  generalize result : first node = outcome at kept
  cases kept with
  | raised error next same quietAfter =>
      rw [nodeBind_error result]
      exact .raised error next same quietAfter
  | returned value next same stays empty =>
      rw [nodeBind_ok result]
      have later := steadyLater value next stays empty
      generalize rest value next = outcome at later
      cases later with
      | raised error last sameLater quietLater =>
          exact .raised error last (same.trans sameLater) quietLater
      | returned value last sameLater staysLater emptyLater =>
          exact .returned value last (same.trans sameLater) staysLater emptyLater

theorem steady_monotonic (surroundings : Surroundings σ) :
    Steady (PlcNode.monotonic surroundings) :=
  fun _ connected quiet => .returned _ _ ⟨rfl, rfl⟩ connected quiet

/-- One served request. -/
theorem steady_of_served {setting : Setting σ} {action : Client σ α} {body : Body}
    {accept : Reply → Option α}
    (served : ∀ s : Session σ, s.connected = true → s.inbound = [] →
      Served setting s body accept (action s)) : Steady (PlcNode.onClient action) := by
  intro node connected quiet
  have request := served node.session connected quiet
  unfold PlcNode.onClient
  generalize action node.session = outcome at request
  cases request with
  | answered value recvs answer => exact .returned value _ ⟨rfl, rfl⟩ connected rfl
  | refused error recvs link =>
      exact .raised error _ ⟨rfl, rfl⟩ fun control => absurd control link.caught.2
  | broken error consumed recvs link =>
      exact .raised error _ ⟨rfl, rfl⟩ fun control => absurd control link.caught.2

theorem onClient_bind (first : Client σ α) (rest : α → Client σ β) :
    PlcNode.onClient (first >>= rest) =
      PlcNode.onClient first >>= fun value => PlcNode.onClient (rest value) := by
  funext node
  cases result : first node.session with
  | error error session =>
      rw [nodeBind_error (onClient_error result), onClient_error (bind_error result)]
  | ok value session =>
      rw [nodeBind_ok (onClient_ok result)]
      simp only [PlcNode.onClient, bind_ok result]

theorem Steady.onClient_bind {first : Client σ α} {rest : α → Client σ β}
    (steady : Steady (PlcNode.onClient first))
    (steadyLater : ∀ value, Steady (PlcNode.onClient (rest value))) :
    Steady (PlcNode.onClient (first >>= rest)) := by
  rw [Plc.onClient_bind]
  exact steady.bind steadyLater

theorem steady_onClient_throw (error : ClientError) :
    Steady (PlcNode.onClient (throw error : Client σ α)) :=
  fun node _ quiet => .raised error node ⟨rfl, rfl⟩ fun _ => quiet

theorem steady_onClient_pure (value : α) :
    Steady (PlcNode.onClient (pure value : Client σ α)) :=
  fun node connected quiet => .returned value node ⟨rfl, rfl⟩ connected quiet

theorem steady_readRegister (setting : Setting σ) (register : UInt16) :
    Steady (PlcNode.onClient (readRegister setting register.toNat)) := by
  refine .onClient_bind ?_ fun _ => steady_onClient_pure _
  exact steady_of_served fun _ connected quiet =>
    read_served (validRange_register register) connected quiet

theorem steady_writeSingleRegister (setting : Setting σ) (register word : UInt16) :
    Steady (PlcNode.onClient (writeSingleRegister setting register.toNat word.toNat)) := by
  have bound := word.toNat_lt
  exact steady_of_served fun _ connected quiet =>
    write_served (validRange_register register) (by omega) connected quiet

theorem steady_repairRemoteControl (setting : Setting σ) (register : UInt16) :
    Steady (PlcNode.onClient (repairRemoteControl setting register.toNat)) := by
  unfold repairRemoteControl
  refine (steady_readRegister setting register).onClient_bind fun current => ?_
  simp only
  split_ifs
  · exact steady_onClient_pure _
  · refine (steady_writeSingleRegister setting register _).onClient_bind fun _ => ?_
    refine (steady_readRegister setting register).onClient_bind fun readback => ?_
    split_ifs
    · exact steady_onClient_throw _
    · exact steady_onClient_throw _
    · exact steady_onClient_throw _
    · exact steady_onClient_pure _

theorem steady_verifyOutput (surroundings : Surroundings σ) (parameters : Parameters)
    (bitIndex : UInt16) (enabled : Bool) (deadline : PyFloat) (rounds : Nat)
    (commandReadback statusReadback : UInt16) :
    Steady (PlcNode.verifyOutput surroundings parameters bitIndex enabled deadline rounds
      commandReadback statusReadback) := by
  induction rounds generalizing commandReadback statusReadback with
  | zero => exact steady_throw _
  | succ rounds ih =>
      unfold PlcNode.verifyOutput
      refine (steady_readRegister _ _).bind fun commandWord => ?_
      refine (steady_readRegister _ _).bind fun statusWord => ?_
      refine (steady_ofExcept _).bind fun agrees => ?_
      split_ifs
      · exact steady_pure _
      · refine (steady_monotonic surroundings).bind fun now => ?_
        split_ifs
        · exact steady_throw _
        · exact ih _ _

theorem steady_writeOutputBit (surroundings : Surroundings σ) (parameters : Parameters)
    (bitIndex : UInt16) (enabled : Bool) (verifyTimeout verifyPeriod : PyFloat) :
    Steady (PlcNode.writeOutputBit surroundings parameters bitIndex enabled verifyTimeout
      verifyPeriod) := by
  unfold PlcNode.writeOutputBit
  dsimp only
  split_ifs
  · exact steady_throw _
  · exact steady_throw _
  · exact steady_throw _
  · refine (steady_readRegister _ _).bind fun currentWord => ?_
    refine (steady_ofExcept _).bind fun desiredWord => ?_
    refine (steady_writeSingleRegister _ _ _).bind fun _ => ?_
    refine (steady_monotonic surroundings).bind fun now => ?_
    exact steady_verifyOutput _ _ _ _ _ _ _ _

/-- The handlers of a service callback leave the status alone. -/
theorem rejectOutput_same {node next : PlcNode σ} {error : ClientError} {output : Output}
    (same : SameStatus node next) (quiet : error.kind = .control → next.session.inbound = []) :
    SameStatus node (PlcNode.rejectOutput output error next).2 ∧
      (PlcNode.rejectOutput output error next).2.Quiet := by
  unfold PlcNode.rejectOutput
  split_ifs with control
  · exact ⟨⟨same.snapshot, same.lastUpdate⟩, fun _ => quiet control⟩
  · exact ⟨⟨same.snapshot, same.lastUpdate⟩, fun connected => absurd connected Bool.false_ne_true⟩

theorem steady_serveConnected (surroundings : Surroundings σ) (parameters : Parameters)
    (output : Output) (enabled : Bool) :
    Steady (PlcNode.serveConnected surroundings parameters output enabled) :=
  (steady_repairRemoteControl _ _).bind fun _ => steady_writeOutputBit _ _ _ _ _ _

/-- A service call leaves the stored status alone. -/
theorem answerOutput_same (surroundings : Surroundings σ) (parameters : Parameters)
    {node : PlcNode σ} (quiet : node.Quiet) (output : Output) (enabled : Bool) :
    SameStatus node (PlcNode.answerOutput surroundings parameters output enabled node).2 ∧
      (PlcNode.answerOutput surroundings parameters output enabled node).2.Quiet := by
  unfold PlcNode.answerOutput PlcNode.serveOutput
  have ensured := ensureClientLocked_ensured surroundings parameters true quiet
  generalize ensures : PlcNode.ensureClientLocked surroundings parameters true node =
    result at ensured
  cases ensured with
  | absent next kept closed unforced => contradiction
  | raised error next kept closed link forced =>
      rw [nodeBind_error ensures]
      exact rejectOutput_same ⟨kept.snapshot, kept.lastUpdate⟩
        fun control => absurd control link.caught.2
  | available next kept connected empty =>
      rw [nodeBind_ok ensures]
      simp only [Bool.not_true, Bool.false_eq_true, if_false]
      have same : SameStatus node next := ⟨kept.snapshot, kept.lastUpdate⟩
      have served := steady_serveConnected surroundings parameters output enabled next connected
        empty
      generalize PlcNode.serveConnected surroundings parameters output enabled next =
        result at served
      cases served with
      | returned value last sameLater staysLater emptyLater =>
          exact ⟨same.trans ⟨sameLater.snapshot, sameLater.lastUpdate⟩, fun _ => emptyLater⟩
      | raised error last sameLater quietLater =>
          exact rejectOutput_same (same.trans sameLater) quietLater

end Steady

/-! ## Status reads -/

/-- The three registers that a status read returned, and when. -/
structure StatusRead where
  diStatus : UInt16
  doStatus : UInt16
  ioAlarm : UInt16
  time : ℚ

/-- The snapshot of the registers. -/
def StatusRead.snapshot (read : StatusRead) : PlcIoSnapshot :=
  decodeIoSnapshot read.diStatus read.doStatus read.ioAlarm

section Status

variable {σ : Type}

/-- The registers that `read_io_snapshot` reads. -/
def readIoRegisters (setting : Setting σ) (input output alarm : Int) :
    Client σ (UInt16 × UInt16 × UInt16) :=
  if output = input + 1 ∧ alarm = input + 2 then do
    match ← readHoldingRegisters setting input 3 with
    | [diStatus, doStatus, ioAlarm] => return (diStatus, doStatus, ioAlarm)
    | _ => throw { kind := .value, text := "not enough values to unpack" }
  else do
    let diStatus ← readRegister setting input
    let doStatus ← readRegister setting output
    let ioAlarm ← readRegister setting alarm
    return (diStatus, doStatus, ioAlarm)

/-- A snapshot decodes the three registers that were read. -/
theorem readIoSnapshot_eq (setting : Setting σ) (input output alarm : Int) :
    readIoSnapshot setting input output alarm =
      readIoRegisters setting input output alarm >>= fun registers =>
        pure (decodeIoSnapshot registers.1 registers.2.1 registers.2.2) := by
  unfold readIoSnapshot readIoRegisters
  split_ifs
  · unfold readSnapshotBlock
    rw [bind_assoc]
    congr 1
    funext values
    rcases values with _ | ⟨first, _ | ⟨second, _ | ⟨third, _ | ⟨fourth, rest⟩⟩⟩⟩ <;> rfl
  · unfold readSnapshotSingly
    simp only [bind_assoc, pure_bind]

/-- The status read of a poll from this node, if it has a client and the read returns. -/
def statusRead (surroundings : Surroundings σ) (parameters : Parameters) (node : PlcNode σ) :
    Option StatusRead :=
  match PlcNode.ensureClientLocked surroundings parameters false node with
  | .ok true next =>
      match readIoRegisters surroundings.toSetting parameters.registers.input.toNat
          parameters.registers.output.toNat parameters.registers.alarm.toNat
          (statusSession surroundings parameters next) with
      | .ok (diStatus, doStatus, ioAlarm) _ =>
          some { diStatus, doStatus, ioAlarm, time := surroundings.clock.reading next.readings }
      | .error _ _ => none
  | _ => none

/-- Record the last status read of a poll that returned. -/
def recordStatus (surroundings : Surroundings σ) (parameters : Parameters) (node : PlcNode σ)
    (event : NodeEvent) (_next : PlcNode σ) (latest : Option StatusRead) : Option StatusRead :=
  match event with
  | .call _ _ => latest
  | .poll => (statusRead surroundings parameters node).or latest

/-- The stored status is the one of the last status read that returned. -/
def Stores (node : PlcNode σ) (latest : Option StatusRead) : Prop :=
  match latest with
  | none => node.lastUpdate = none
  | some read => node.lastUpdate = some (.finite read.time) ∧ node.snapshot = read.snapshot

variable {surroundings : Surroundings σ} {parameters : Parameters} {node last : PlcNode σ}
  {latest : Option StatusRead}

theorem SameStatus.stores (same : SameStatus node last) (stores : Stores node latest) :
    Stores last latest := by
  cases latest with
  | none => exact same.lastUpdate.trans stores
  | some read =>
      exact ⟨same.lastUpdate.trans stores.1, same.snapshot.trans stores.2⟩

/-- A poll stores what its status read returned, or it closes the client. -/
theorem Polled.stores (polled : Polled surroundings parameters node last)
    (stores : Stores node latest) :
    Stores last ((statusRead surroundings parameters node).or latest) ∧
      (statusRead surroundings parameters node = none → last.session.connected = false) := by
  cases polled with
  | absent _ ensures kept closed =>
      have unread : statusRead surroundings parameters node = none := by
        simp only [statusRead, ensures]
      rw [unread, Option.none_or]
      have same : SameStatus node last := ⟨kept.snapshot, kept.lastUpdate⟩
      exact ⟨same.stores stores, fun _ => closed⟩
  | read next snapshot session remoteError ensures kept connected empty reads stays quiet =>
      rw [readIoSnapshot_eq] at reads
      rcases bind_eq_ok_iff.mp reads with ⟨registers, t, returned, decoded⟩
      cases decoded
      have read : statusRead surroundings parameters node = some
          { diStatus := registers.1, doStatus := registers.2.1, ioAlarm := registers.2.2
            time := surroundings.clock.reading next.readings } := by
        simp only [statusRead, ensures, returned]
      rw [read, Option.some_or]
      exact ⟨⟨rfl, rfl⟩, nofun⟩
  | failed next error session ensures kept connected empty reads =>
      have unread : statusRead surroundings parameters node = none := by
        simp only [statusRead, ensures]
        rw [readIoSnapshot_eq] at reads
        cases result : readIoRegisters surroundings.toSetting parameters.registers.input.toNat
            parameters.registers.output.toNat parameters.registers.alarm.toNat
            (statusSession surroundings parameters next) with
        | error error t => rfl
        | ok registers t =>
            rw [bind_ok result] at reads
            contradiction
      rw [unread, Option.none_or]
      have same : SameStatus node
          (PlcNode.closeClientLocked { next with session, lastError := error.text }) :=
        ⟨kept.snapshot, kept.lastUpdate⟩
      exact ⟨same.stores stores, fun _ => rfl⟩

/-- The state a node publishes as fresh shows a status read that is young enough. -/
structure Honest (surroundings : Surroundings σ) (parameters : Parameters)
    (latest : Option StatusRead) (now : ℚ) (state : PlcIoState) : Prop where
  connected : state.connected = true
  read : ∃ read, latest = some read ∧ state.snapshot = read.snapshot ∧
    0 ≤ surroundings.rounding.round (now - read.time) ∧
    surroundings.rounding.round (now - read.time) ≤ parameters.dataTimeout

theorem stateIsFresh_finite {rounding : Rounding} {lastUpdate : Option PyFloat} {now timeout : ℚ}
    (fresh : stateIsFresh rounding lastUpdate (.finite now) (.finite timeout) = true) :
    ∃ time, lastUpdate = some time ∧
      ∀ value, time = .finite value →
        0 ≤ rounding.round (now - value) ∧ rounding.round (now - value) ≤ timeout := by
  cases lastUpdate with
  | none => contradiction
  | some time =>
      refine ⟨time, rfl, ?_⟩
      rintro value rfl
      simp only [stateIsFresh] at fresh
      split_ifs at fresh
      simp only [PyFloat.sub_finite, Bool.and_eq_true, PyFloat.le_finite_iff] at fresh
      exact fresh

theorem publishedState_honest (stores : Stores node latest)
    (fresh : (publishedState surroundings parameters node).dataFresh = true) :
    Honest surroundings parameters latest (surroundings.clock.reading node.readings)
      (publishedState surroundings parameters node) := by
  have both : node.session.connected = true ∧ stateIsFresh surroundings.rounding node.lastUpdate
      (.finite (surroundings.clock.reading node.readings)) (.finite parameters.dataTimeout) =
        true := by
    simpa [publishedState, plcStateMessage] using fresh
  rcases stateIsFresh_finite both.2 with ⟨time, updated, young⟩
  refine ⟨both.1, ?_⟩
  cases latest with
  | none =>
      rw [show node.lastUpdate = none from stores] at updated
      contradiction
  | some read =>
      rw [stores.1] at updated
      refine ⟨read, rfl, stores.2, young read.time (Option.some.inj updated).symm⟩

end Status

/-! ## Runs -/

section Runs

variable {σ : Type} {surroundings : Surroundings σ} {parameters : Parameters}
  {node : PlcNode σ} {latest : Option StatusRead}

/-- What holds between two callbacks. -/
structure StatusLaw (node : PlcNode σ) (latest : Option StatusRead) : Prop where
  quiet : node.Quiet
  stores : Stores node latest

/-- A poll leaves a connected client between two answers. -/
theorem Polled.quiet {last : PlcNode σ} (polled : Polled surroundings parameters node last) :
    last.Quiet := by
  cases polled with
  | absent _ ensures kept closed =>
      intro connected
      rw [closed] at connected
      contradiction
  | read next snapshot session remoteError ensures kept connected empty reads stays quiet =>
      exact fun _ => quiet
  | failed next error session ensures kept connected empty reads =>
      exact fun again => absurd again Bool.false_ne_true

/-- What one callback does to the status and publishes. -/
theorem StatusLaw.handle (law : StatusLaw node latest) (event : NodeEvent) :
    ∃ reaction last, PlcNode.handle surroundings parameters event node =
        .ok reaction { last with readings := last.readings + 1 } ∧
      reaction.state = publishedState surroundings parameters last ∧
      StatusLaw last (recordStatus surroundings parameters node event last latest) ∧
      (event = .poll → statusRead surroundings parameters node = none →
        last.session.connected = false) ∧
      ∀ output enabled, event = .call output enabled → SameStatus node last := by
  cases event with
  | call output enabled =>
      rcases answerOutput_same surroundings parameters law.quiet output enabled with ⟨same, quiet⟩
      exact ⟨_, _, serviceCallback_eq output enabled, rfl, ⟨quiet, same.stores law.stores⟩, nofun,
        fun _ _ _ => same⟩
  | poll =>
      rcases pollOnce_polled law.quiet with ⟨last, polled, returns⟩
      rcases polled.stores law.stores with ⟨stores, closes⟩
      exact ⟨_, last, returns, rfl, ⟨polled.quiet, stores⟩, fun _ => closes, nofun⟩

theorem statusLaw_of_reachable {server : σ}
    (reachable : Reachable
      (observed (PlcNode.step surroundings parameters) (recordStatus surroundings parameters))
      (onState unguarded) (PlcNode.start server, none) (node, latest)) :
    StatusLaw node latest := by
  have start : StatusLaw (PlcNode.start server) none :=
    ⟨fun connected => absurd connected Bool.false_ne_true, rfl⟩
  refine reachable.invariant (fun state => StatusLaw state.1 state.2) start ?_
  rintro ⟨source, earlier⟩ ⟨target, later⟩ event law - step
  rcases observed_eq_some_iff.mp step with ⟨moves, recorded⟩
  simp only at law moves recorded
  rcases law.handle event with ⟨reaction, last, handles, -, lawAfter, -, -⟩
  unfold PlcNode.step at moves
  rw [handles] at moves
  cases moves
  rw [recorded]
  exact ⟨lawAfter.quiet, lawAfter.stores⟩

end Runs

/-- In every run of service calls and polls, with any outcome of connecting, reading and
writing: every callback publishes a state; a state that is published as fresh is
connected and shows the registers of the last status read that returned, which is not
older than the data timeout; a poll without a client or whose status read raises
publishes neither as connected nor as fresh; and a service call changes neither the
stored snapshot nor its time. -/
theorem published_states_are_honest {σ : Type} (surroundings : Surroundings σ)
    (parameters : Parameters) (server : σ) (node : PlcNode σ) (latest : Option StatusRead)
    (reachable : Reachable
      (observed (PlcNode.step surroundings parameters) (recordStatus surroundings parameters))
      (onState unguarded) (PlcNode.start server, none) (node, latest)) (event : NodeEvent) :
    ∃ reaction next, PlcNode.handle surroundings parameters event node = .ok reaction next ∧
      (reaction.state.dataFresh = true → Honest surroundings parameters
        (recordStatus surroundings parameters node event next latest)
        (surroundings.clock.reading (next.readings - 1)) reaction.state) ∧
      (event = .poll → statusRead surroundings parameters node = none →
        reaction.state.connected = false ∧ reaction.state.dataFresh = false) ∧
      ∀ output enabled, event = .call output enabled →
        next.snapshot = node.snapshot ∧ next.lastUpdate = node.lastUpdate := by
  have law := statusLaw_of_reachable reachable
  rcases law.handle event with ⟨reaction, last, handles, published, lawAfter, closes, same⟩
  refine ⟨reaction, _, handles, ?_, ?_, ?_⟩
  · rw [published]
    exact publishedState_honest lawAfter.stores
  · intro polled unread
    have closed := closes polled unread
    rw [published]
    simp [publishedState, plcStateMessage, closed]
  · intro output enabled called
    exact ⟨(same output enabled called).snapshot, (same output enabled called).lastUpdate⟩

/-- A prompt link to a register memory. -/
def promptSurroundings : Surroundings Memory where
  server := memoryServer
  arrivals _ := .chunk 300
  unitId := 1
  connects _ := none
  clock := countingClock
  rounding := .exact

/-- A poll after a poll and a service call publishes a fresh state. -/
theorem published_states_are_honest_of_poll :
    ∃ node latest reaction next,
      Reachable (observed (PlcNode.step promptSurroundings defaultParameters)
          (recordStatus promptSurroundings defaultParameters))
        (onState unguarded) (PlcNode.start fun register => register, none) (node, latest) ∧
      PlcNode.handle promptSurroundings defaultParameters .poll node = .ok reaction next ∧
      reaction.state.dataFresh = true ∧
      Honest promptSurroundings defaultParameters
        (recordStatus promptSurroundings defaultParameters node .poll next latest)
        (promptSurroundings.clock.reading (next.readings - 1)) reaction.state := by
  have found : (run (observed (PlcNode.step promptSurroundings defaultParameters)
      (recordStatus promptSurroundings defaultParameters)) (onState unguarded)
      (PlcNode.start fun register => register, none) [.poll, .call .leftSolenoid true]).any
        (fun state =>
          match PlcNode.handle promptSurroundings defaultParameters .poll state.1 with
          | .ok reaction _ => reaction.state.dataFresh
          | .error _ _ => false) = true := by
    decide +kernel
  rcases exists_reachable_of_run found with ⟨⟨node, latest⟩, reachable, fresh⟩
  rcases published_states_are_honest promptSurroundings defaultParameters _ node latest reachable
    .poll with ⟨reaction, next, handles, honest, -, -⟩
  simp only [handles] at fresh
  exact ⟨node, latest, reaction, next, reachable, handles, fresh, honest fresh⟩

end RtControl.Plc
