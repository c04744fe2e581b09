import RtControl.Plc.Runtime
import Mathlib.Data.List.Basic
import Mathlib.Tactic.IntervalCases

/-!
# Polling on a kept connection

`_poll_once` keeps the connection after a failed repair of the remote-control bit and
reads the snapshot on the same stream.  An interrupted repair leaves a rest of an old
answer in front of the snapshot's answer; no such stream starts with a frame of the
snapshot's transaction, so the snapshot read raises and the connection is closed.
-/

namespace RtControl.Plc

open RtControl.Codec

/-! ## Shifted frames -/

/-- The PDUs that an interrupted repair may leave behind: the answer to a read of one
register, the echo of a control word with its enable bit set, or an exception. -/
inductive StalePdu : List UInt8 → Prop
  | register (v1 v0 : UInt8) : StalePdu [0x03, 0x02, v1, v0]
  | echo (a1 a0 w1 w0 : UInt8)
      (enabled : w0 ≠ 0) :
      StalePdu [0x06, a1, a0, w1, w0]
  | exception (function code : UInt8)
      (marked : function ≠ 0) :
      StalePdu [function, code]

/-- A frame with a short PDU, byte by byte. -/
theorem frame_bytes (transactionId : UInt16) (unitId : UInt8) {pdu : List UInt8}
    (short : pdu.length + 1 < 256) :
    frame transactionId unitId pdu =
      UInt8.ofNat (transactionId.toNat / 256) :: UInt8.ofNat transactionId.toNat :: 0 :: 0 :: 0 ::
        UInt8.ofNat (pdu.length + 1) :: unitId :: pdu := by
  have zero : pack16 0 = [0, 0] := pack16_small (by decide)
  rw [frame, pack16_small short, zero, pack16]
  rfl

theorem ofNat_ne_zero {value : Nat} (positive : 0 < value) (short : value < 256) :
    UInt8.ofNat value ≠ 0 := by
  intro zero
  have same := congrArg UInt8.toNat zero
  simp only [UInt8.toNat_ofNat', UInt8.toNat_zero] at same
  omega

/-- The bytes of a stale frame from any position on, followed by a header with a zero
protocol id and a zero high length byte, do not start with a header of another
transaction and the read function. -/
theorem stale_bytes {t1 t0 high low unitId staleSize size length : UInt8}
    {stale pdu payload rest : List UInt8} (left : StalePdu stale)
    (advanced : [t1, t0] ≠ [high, low]) (staleNonzero : staleSize ≠ 0) (nonzero : size ≠ 0)
    {consumed : Nat} (unread : consumed < stale.length + 7) :
    (t1 :: t0 :: 0 :: 0 :: 0 :: staleSize :: unitId :: stale).drop consumed ++
        (high :: low :: 0 :: 0 :: 0 :: length :: unitId :: pdu) ≠
      high :: low :: 0 :: 0 :: 0 :: size :: unitId :: 0x03 :: payload ++ rest := by
  intro same
  -- In each shape and at each position a byte that is known to be nonzero, or the two
  -- transactions, would have to match a zero byte of the header.
  cases left with
  | register v1 v0 =>
      simp only [List.length_cons, List.length_nil] at unread
      interval_cases consumed <;>
        simp only [List.drop_succ_cons, List.drop_zero, List.cons_append, List.nil_append,
          List.cons.injEq] at same <;> grind
  | echo a1 a0 w1 w0 enabled =>
      simp only [List.length_cons, List.length_nil] at unread
      interval_cases consumed <;>
        simp only [List.drop_succ_cons, List.drop_zero, List.cons_append, List.nil_append,
          List.cons.injEq] at same <;> grind
  | exception function code marked =>
      simp only [List.length_cons, List.length_nil] at unread
      interval_cases consumed <;>
        simp only [List.drop_succ_cons, List.drop_zero, List.cons_append, List.nil_append,
          List.cons.injEq] at same <;> grind

theorem StalePdu.length_le {stale : List UInt8} (left : StalePdu stale) : stale.length ≤ 5 := by
  cases left <;> simp

/-- The rest of a stale frame, followed by the next answer, does not start with a
frame of the next transaction. -/
theorem stale_ne_frame {transactionId : UInt16} {unitId : UInt8} {stale pdu payload : List UInt8}
    (left : StalePdu stale) (short : pdu.length + 1 ≤ 254) (fits : payload.length + 2 ≤ 254)
    {consumed : Nat} (unread : consumed < (frame transactionId unitId stale).length)
    (rest : List UInt8) :
    (frame transactionId unitId stale).drop consumed ++ frame (transactionId + 1) unitId pdu ≠
      frame (transactionId + 1) unitId (0x03 :: payload) ++ rest := by
  have advanced : [UInt8.ofNat (transactionId.toNat / 256), UInt8.ofNat transactionId.toNat] ≠
      [UInt8.ofNat ((transactionId + 1).toNat / 256), UInt8.ofNat (transactionId + 1).toNat] := by
    intro same
    have equal := pack16_inj.mp same
    simp at equal
  have staleSmall := left.length_le
  have staleSize : UInt8.ofNat (stale.length + 1) ≠ 0 := ofNat_ne_zero (by omega) (by omega)
  have size : UInt8.ofNat ((0x03 :: payload).length + 1) ≠ 0 :=
    ofNat_ne_zero (by rw [List.length_cons]; omega) (by rw [List.length_cons]; omega)
  rw [length_frame] at unread
  rw [frame_bytes transactionId unitId (by omega : stale.length + 1 < 256),
    frame_bytes (transactionId + 1) unitId (by omega : pdu.length + 1 < 256),
    frame_bytes (transactionId + 1) unitId
      (by rw [List.length_cons]; omega : (0x03 :: payload).length + 1 < 256)]
  exact stale_bytes left advanced staleSize size unread

/-! ## Reads and writes of one register -/

section Session

variable {σ : Type} {setting : Setting σ} {s : Session σ}

/-- The stream between two requests: quiet, or with the rest of the last answer. -/
inductive Pending (setting : Setting σ) (s : Session σ) : Prop
  | quiet
      (empty : s.inbound = [])
  | stale (pdu : List UInt8) (consumed : Nat)
      (left : StalePdu pdu)
      (unread : consumed < (frame s.transactionId setting.unitId pdu).length)
      (rest : s.inbound = (frame s.transactionId setting.unitId pdu).drop consumed)

/-- What a request of the repair does: it returns on a quiet stream, or it raises and
may leave a rest of its answer. -/
inductive Settled {α : Type} (setting : Setting σ) (s : Session σ) (body : Body)
    (accept : Reply → Option α) : EStateM.Result ClientError (Session σ) α → Prop
  | returned (value : α) (t : Session σ)
      (answer : accept (s.reply setting body) = some value)
      (served : t.exchanges = s.exchanges ++ [(body, s.reply setting body)])
      (connected : t.connected = s.connected)
      (quiet : t.inbound = []) :
      Settled setting s body accept (.ok value t)
  | raised (error : ClientError) (t : Session σ)
      (link : error.isLink)
      (connected : t.connected = s.connected)
      (pending : Pending setting t) :
      Settled setting s body accept (.error error t)

theorem Served.settled {α : Type} {body : Body} {accept : Reply → Option α}
    {result : EStateM.Result ClientError (Session σ) α}
    (served : Served setting s body accept result)
    (stale : StalePdu (answerPdu body (s.reply setting body))) :
    Settled setting s body accept result := by
  cases served with
  | answered value recvs answer => exact .returned value _ answer rfl rfl rfl
  | refused error recvs link => exact .raised error _ link rfl (.quiet rfl)
  | broken error consumed recvs link unprompt short =>
      exact .raised error _ link rfl (.stale _ consumed stale short rfl)

/-- The answer to a read of one register may be left behind. -/
theorem stalePdu_read {register : Int} {reply : Reply}
    (conforms : (readBody register 1).Answers reply) :
    StalePdu (answerPdu (readBody register 1) reply) := by
  cases reply with
  | registers values =>
      have single : values.length = 1 := conforms
      obtain ⟨value, rfl⟩ := List.length_eq_one_iff.mp single
      exact .register _ _
  | written => exact conforms.elim
  | refused code => exact .exception _ _ (by decide : (0x03 : UInt8) ||| 0x80 ≠ 0)

/-- The echo of a word with its enable bit set may be left behind. -/
theorem stalePdu_write {register : Int} {word : UInt16} (odd : word.toNat % 2 = 1) {reply : Reply}
    (conforms : (writeBody register word.toNat).Answers reply) :
    StalePdu (answerPdu (writeBody register word.toNat) reply) := by
  cases reply with
  | registers values => exact conforms.elim
  | written =>
      apply StalePdu.echo
      intro zero
      have low := congrArg UInt8.toNat zero
      have bound := word.toNat_lt
      simp only [UInt8.toNat_ofNat', UInt16.toNat_ofNat', Int.toNat_natCast, UInt8.toNat_zero] at low
      omega
  | refused code => exact .exception _ _ (by decide : (0x06 : UInt8) ||| 0x80 ≠ 0)

/-- A register number of the node. -/
theorem validRange_register (register : UInt16) : ValidRange (register.toNat : Int) 1 := by
  have bound := register.toNat_lt
  unfold ValidRange
  omega

/-- What a client accepts as the answer to a read of one register. -/
def Reply.register? (reply : Reply) : Option UInt16 :=
  reply.registers?.map fun values => values.headD 0

theorem readRegister_settled (connected : s.connected = true) (quiet : s.inbound = [])
    (register : UInt16) :
    Settled setting s (readBody register.toNat 1) Reply.register?
      (readRegister setting register.toNat s) := by
  have conforms : (readBody register.toNat 1).Answers
      (s.reply setting (readBody register.toNat 1)) := setting.server.conforms _ _
  have settled : Settled setting s _ _ _ :=
    (read_served (validRange_register register) connected quiet).settled (stalePdu_read conforms)
  unfold readRegister
  generalize read : readHoldingRegisters setting register.toNat 1 s = result at settled
  cases settled with
  | returned values t answer served stays empty =>
      rw [bind_ok read]
      refine .returned _ t ?_ served stays empty
      rw [Reply.register?, answer]
      rfl
  | raised error t link stays pending =>
      rw [bind_error read]
      exact .raised error t link stays pending

theorem writeSingleRegister_settled (connected : s.connected = true) (quiet : s.inbound = [])
    (register : UInt16) {word : UInt16} (odd : word.toNat % 2 = 1) :
    Settled setting s (writeBody register.toNat word.toNat) Reply.written?
      (writeSingleRegister setting register.toNat word.toNat s) := by
  have conforms : (writeBody register.toNat word.toNat).Answers
      (s.reply setting (writeBody register.toNat word.toNat)) := setting.server.conforms _ _
  have bound := word.toNat_lt
  exact (write_served (validRange_register register) (by omega) connected quiet).settled
    (stalePdu_write odd conforms)

theorem enableRemoteControlWord_odd (word : UInt16) :
    (enableRemoteControlWord word).toNat % 2 = 1 := by
  have lowest : (enableRemoteControlWord word).toNat.testBit 0 = true := by
    simp [enableRemoteControlWord, remoteControlEnableMask]
  simpa [Nat.testBit_zero] using lowest

/-! ## The repair -/

/-- The repair returns on a quiet stream, or it raises one of the caught exceptions and
may leave a rest of an answer. -/
theorem repairRemoteControl_settled (setting : Setting σ) (connected : s.connected = true)
    (quiet : s.inbound = []) (register : UInt16) :
    (∃ changed t, repairRemoteControl setting register.toNat s = .ok changed t ∧
      t.connected = true ∧ t.inbound = []) ∨
    ∃ error t, repairRemoteControl setting register.toNat s = .error error t ∧
      error.kind ≠ .value ∧ t.connected = true ∧ Pending setting t := by
  unfold repairRemoteControl
  have first : Settled setting s _ _ _ := readRegister_settled connected quiet register
  generalize reads : readRegister setting register.toNat s = result at first
  cases first with
  | raised error t link stays pending =>
      exact Or.inr ⟨error, t, bind_error reads, link.caught.1, stays.trans connected, pending⟩
  | returned current t answer served stays empty =>
      rw [bind_ok reads]
      simp only
      split_ifs with enabled
      · exact Or.inl ⟨false, t, rfl, stays.trans connected, empty⟩
      · have second : Settled setting t _ _ _ := writeSingleRegister_settled
          (stays.trans connected) empty register (enableRemoteControlWord_odd current)
        generalize writes : writeSingleRegister setting register.toNat
          (enableRemoteControlWord current).toNat t = result at second
        cases second with
        | raised error u link staysLater pending =>
            exact Or.inr ⟨error, u, bind_error writes, link.caught.1,
              staysLater.trans (stays.trans connected), pending⟩
        | returned written u answerLater servedLater staysLater emptyLater =>
            rw [bind_ok writes]
            have uConnected := staysLater.trans (stays.trans connected)
            have third : Settled setting u _ _ _ :=
              readRegister_settled uConnected emptyLater register
            generalize readsBack : readRegister setting register.toNat u = result at third
            cases third with
            | raised error v link staysLast pending =>
                exact Or.inr ⟨error, v, bind_error readsBack, link.caught.1,
                  staysLast.trans uConnected, pending⟩
            | returned readback v answerLast servedLast staysLast emptyLast =>
                rw [bind_ok readsBack]
                have vConnected := staysLast.trans uConnected
                by_cases cleared : readback &&& remoteControlEnableMask ≠ remoteControlEnableMask
                · rw [if_pos cleared]
                  exact Or.inr ⟨_, v, rfl, nofun, vConnected, .quiet emptyLast⟩
                · rw [if_neg cleared]
                  by_cases differs : readback ≠ enableRemoteControlWord current
                  · rw [if_pos differs]
                    exact Or.inr ⟨_, v, rfl, nofun, vConnected, .quiet emptyLast⟩
                  · rw [if_neg differs]
                    exact Or.inl ⟨true, v, rfl, vConnected, emptyLast⟩

/-! ## The snapshot -/

/-- A valid read behind a stale answer raises. -/
theorem read_stale {start count : Int} (valid : ValidRange start count)
    (connected : s.connected = true) {pdu : List UInt8} {consumed : Nat} (left : StalePdu pdu)
    (unread : consumed < (frame s.transactionId setting.unitId pdu).length)
    (rest : s.inbound = (frame s.transactionId setting.unitId pdu).drop consumed) :
    ∃ error t, readHoldingRegisters setting start count s = .error error t ∧ error.isLink := by
  have conforms : (readBody start count).Answers (s.reply setting (readBody start count)) :=
    setting.server.conforms _ _
  rw [readHoldingRegisters_eq valid, request_eq connected]
  cases received : response setting (readBody start count).function
      (s.sent setting (readBody start count)) with
  | ok payload t =>
      obtain ⟨behind, recvs, stream, fits, -⟩ :=
        response_ok (function_plain (readBody start count)) received
      have joined : (s.sent setting (readBody start count)).inbound =
          (frame s.transactionId setting.unitId pdu).drop consumed ++
            frame (s.transactionId + 1) setting.unitId
              (answerPdu (readBody start count) (s.reply setting (readBody start count))) := by
        rw [← rest]
        rfl
      rw [joined] at stream
      exact absurd stream (stale_ne_frame left
        (length_answerPdu (sendable_readBody valid) conforms) fits unread behind)
  | error error t => exact ⟨error, t, rfl, (response_error received).1⟩

/-- The four registers of the node. -/
structure Registers where
  control : UInt16
  input : UInt16
  output : UInt16
  alarm : UInt16

/-- The snapshot is decoded from what the server answered to the requests between two
points of its history, and to no others. -/
inductive AnsweredBy (registers : Registers) (before after : List (Body × Reply)) :
    PlcIoSnapshot → Prop
  | block (diStatus doStatus ioAlarm : UInt16)
      (answers : after = before ++
        [(readBody registers.input.toNat 3, .registers [diStatus, doStatus, ioAlarm])]) :
      AnsweredBy registers before after (decodeIoSnapshot diStatus doStatus ioAlarm)
  | singly (diStatus doStatus ioAlarm : UInt16)
      (answers : after = before ++
        [(readBody registers.input.toNat 1, .registers [diStatus]),
          (readBody registers.output.toNat 1, .registers [doStatus]),
          (readBody registers.alarm.toNat 1, .registers [ioAlarm])]) :
      AnsweredBy registers before after (decodeIoSnapshot diStatus doStatus ioAlarm)

/-- What the snapshot read does after the repair. -/
inductive SnapshotRead (setting : Setting σ) (registers : Registers) (s : Session σ) :
    EStateM.Result ClientError (Session σ) PlcIoSnapshot → Prop
  | fresh (snapshot : PlcIoSnapshot) (t : Session σ)
      (answered : AnsweredBy registers s.exchanges t.exchanges snapshot)
      (connected : t.connected = true)
      (quiet : t.inbound = []) :
      SnapshotRead setting registers s (.ok snapshot t)
  | raised (error : ClientError) (t : Session σ)
      (link : error.isLink) :
      SnapshotRead setting registers s (.error error t)

/-- The one value of an accepted read of one register. -/
theorem reply_of_register {register : UInt16} {word : UInt16}
    (answer : Reply.register? (s.reply setting (readBody register.toNat 1)) = some word) :
    s.reply setting (readBody register.toNat 1) = .registers [word] := by
  have conforms : (readBody register.toNat 1).Answers
      (s.reply setting (readBody register.toNat 1)) := setting.server.conforms _ _
  cases reply : s.reply setting (readBody register.toNat 1) with
  | registers values =>
      rw [reply] at answer conforms
      have single : values.length = 1 := conforms
      obtain ⟨value, rfl⟩ := List.length_eq_one_iff.mp single
      cases answer
      rfl
  | written =>
      rw [reply] at answer
      contradiction
  | refused code =>
      rw [reply] at answer
      contradiction

theorem readSnapshotSingly_fresh (connected : s.connected = true) (quiet : s.inbound = [])
    (registers : Registers) :
    SnapshotRead setting registers s (readSnapshotSingly setting registers.input.toNat
      registers.output.toNat registers.alarm.toNat s) := by
  unfold readSnapshotSingly
  have first : Settled setting s _ _ _ := readRegister_settled connected quiet registers.input
  generalize readsInput : readRegister setting registers.input.toNat s = result at first
  cases first with
  | raised error t link => exact bind_error readsInput ▸ .raised error t link
  | returned diStatus t answerInput servedInput tConnected tQuiet =>
      rw [bind_ok readsInput]
      have second : Settled setting t _ _ _ :=
        readRegister_settled (tConnected.trans connected) tQuiet registers.output
      generalize readsOutput : readRegister setting registers.output.toNat t = result at second
      cases second with
      | raised error u link => exact bind_error readsOutput ▸ .raised error u link
      | returned doStatus u answerOutput servedOutput uConnected uQuiet =>
          rw [bind_ok readsOutput]
          have third : Settled setting u _ _ _ := readRegister_settled
            (uConnected.trans (tConnected.trans connected)) uQuiet registers.alarm
          generalize readsAlarm : readRegister setting registers.alarm.toNat u = result at third
          cases third with
          | raised error v link => exact bind_error readsAlarm ▸ .raised error v link
          | returned ioAlarm v answerAlarm servedAlarm vConnected vQuiet =>
              rw [bind_ok readsAlarm]
              refine .fresh _ v (.singly diStatus doStatus ioAlarm ?_)
                (vConnected.trans (uConnected.trans (tConnected.trans connected))) vQuiet
              rw [servedAlarm, servedOutput, servedInput, reply_of_register answerInput,
                reply_of_register answerOutput, reply_of_register answerAlarm]
              simp only [List.append_assoc, List.cons_append, List.nil_append]

theorem readSnapshotBlock_fresh (connected : s.connected = true) (quiet : s.inbound = [])
    (registers : Registers) (range : ValidRange registers.input.toNat 3) :
    SnapshotRead setting registers s
      (readSnapshotBlock setting registers.input.toNat s) := by
  unfold readSnapshotBlock
  have conforms : (readBody registers.input.toNat 3).Answers
      (s.reply setting (readBody registers.input.toNat 3)) := setting.server.conforms _ _
  have served : Served setting s _ _ _ := read_served range connected quiet
  generalize reads : readHoldingRegisters setting registers.input.toNat 3 s = result at served
  cases served with
  | answered values recvs answer =>
      rw [bind_ok reads]
      cases reply : s.reply setting (readBody registers.input.toNat 3) with
      | registers answered =>
          rw [reply] at answer conforms
          cases answer
          have triple : values.length = 3 := conforms
          obtain ⟨diStatus, doStatus, ioAlarm, rfl⟩ := List.length_eq_three.mp triple
          refine .fresh _ _ (.block diStatus doStatus ioAlarm ?_) connected rfl
          exact congrArg (fun answered => s.exchanges ++ [(_, answered)]) reply
      | written =>
          rw [reply] at answer
          contradiction
      | refused code =>
          rw [reply] at answer
          contradiction
  | refused error recvs link => exact bind_error reads ▸ .raised error _ link
  | broken error consumed recvs link => exact bind_error reads ▸ .raised error _ link

/-- The snapshot read returns the server's answer to it, or it raises. -/
theorem readIoSnapshot_spec (connected : s.connected = true) (pending : Pending setting s)
    (registers : Registers) :
    SnapshotRead setting registers s (readIoSnapshot setting registers.input.toNat
      registers.output.toNat registers.alarm.toNat s) := by
  have alarmBound := registers.alarm.toNat_lt
  unfold readIoSnapshot
  cases pending with
  | quiet empty =>
      split_ifs with contiguous
      · apply readSnapshotBlock_fresh connected empty
        unfold ValidRange
        omega
      · exact readSnapshotSingly_fresh connected empty registers
  | stale pdu consumed left unread rest =>
      split_ifs with contiguous
      · have range : ValidRange registers.input.toNat 3 := by
          unfold ValidRange
          omega
        obtain ⟨error, t, raised, link⟩ := read_stale range connected left unread rest
        unfold readSnapshotBlock
        exact bind_error raised ▸ .raised error t link
      · obtain ⟨error, t, raised, link⟩ :=
          read_stale (validRange_register registers.input) connected left unread rest
        unfold readSnapshotSingly readRegister
        exact bind_error (bind_error raised) ▸ .raised error t link

end Session

/-! ## The node -/

/-- The node with its client; a closed client has no stream. -/
structure Node (σ : Type) where
  session : Session σ
  snapshot : PlcIoSnapshot
  lastError : String

/-- What `_ensure_client_locked` does when there is no client: it waits for the
reconnect period, the connection fails, or a new client is connected. -/
inductive Attempt where
  | skipped
  | failed (text : String)
  | opened
  deriving DecidableEq, Repr

section Node

variable {σ : Type} (setting : Setting σ) (registers : Registers)

/-- `_close_client_locked`. -/
def Session.close (s : Session σ) : Session σ :=
  { s with connected := false, inbound := [] }

/-- `_ensure_client_locked` of a poll; a new client starts its counter at zero on a new
stream. -/
def ensureClient (attempt : Attempt) (node : Node σ) : Node σ :=
  if node.session.connected then
    node
  else
    match attempt with
    | .skipped => node
    | .failed text => { node with lastError := text }
    | .opened =>
        { node with
          session := { node.session with connected := true, transactionId := 0, inbound := [] }
          lastError := "" }

/-- The snapshot part of `_poll_once`. -/
def pollSnapshot (remoteError : String) (node : Node σ) (s : Session σ) :
    EStateM.Result ClientError (Node σ) Unit :=
  match readIoSnapshot setting registers.input.toNat registers.output.toNat
      registers.alarm.toNat s with
  | .ok snapshot t => .ok () { session := t, snapshot := snapshot, lastError := remoteError }
  | .error error t =>
      if error.kind = .control then .error error { node with session := t }
      else .ok () { node with session := t.close, lastError := error.text }

/-- `_poll_once`: exceptions outside the caught classes leave the callback. -/
def pollOnce (attempt : Attempt) (node : Node σ) : EStateM.Result ClientError (Node σ) Unit :=
  let node := ensureClient attempt node
  if !node.session.connected then
    .ok () node
  else
    match repairRemoteControl setting registers.control.toNat node.session with
    | .ok _ s => pollSnapshot setting registers "" node s
    | .error error s =>
        if error.kind = .value then .error error { node with session := s }
        else pollSnapshot setting registers ("remote control unavailable: " ++ error.text) node s

/-- A connected client stands between two answers. -/
def Node.Quiet (node : Node σ) : Prop :=
  node.session.connected = true → node.session.inbound = []

theorem quiet_ensureClient (attempt : Attempt) {node : Node σ} (quiet : node.Quiet) :
    (ensureClient attempt node).Quiet := by
  unfold ensureClient
  split_ifs with connected
  · exact quiet
  · cases attempt with
    | skipped => exact quiet
    | failed text => exact fun reconnected => absurd reconnected connected
    | opened => exact fun _ => rfl

/-- The session that a poll reads its snapshot on: the one the repair leaves, whether
it returned or raised. -/
def repaired (s : Session σ) : Session σ :=
  match repairRemoteControl setting registers.control.toNat s with
  | .ok _ t => t
  | .error _ t => t

/-- A snapshot read on the session `s` returns the server's answers to it, which the
node takes over, or it raises, and the node closes the client and keeps its snapshot. -/
structure TakesFresh (s : Session σ) (old : PlcIoSnapshot) (after : Node σ) : Prop where
  returned : ∀ snapshot t, readIoSnapshot setting registers.input.toNat registers.output.toNat
      registers.alarm.toNat s = .ok snapshot t →
    after.snapshot = snapshot ∧ AnsweredBy registers s.exchanges after.session.exchanges snapshot ∧
      after.session.connected = true ∧ after.session.inbound = []
  raised : ∀ error t, readIoSnapshot setting registers.input.toNat registers.output.toNat
      registers.alarm.toNat s = .error error t →
    after.snapshot = old ∧ after.session.connected = false

variable {setting registers}

theorem pollSnapshot_takesFresh {remoteError : String} {node : Node σ} {s : Session σ}
    (connected : s.connected = true) (pending : Pending setting s) :
    ∃ after, pollSnapshot setting registers remoteError node s = .ok () after ∧ after.Quiet ∧
      TakesFresh setting registers s node.snapshot after := by
  have read := readIoSnapshot_spec connected pending registers
  unfold pollSnapshot
  generalize reads : readIoSnapshot setting registers.input.toNat registers.output.toNat
    registers.alarm.toNat s = result at read
  cases read with
  | fresh snapshot t answered stays silent =>
      refine ⟨_, rfl, fun _ => silent, ?_, ?_⟩
      · intro taken u same
        rw [reads] at same
        cases same
        exact ⟨rfl, answered, stays, silent⟩
      · intro error u raised
        rw [reads] at raised
        contradiction
  | raised error t link =>
      simp only [if_neg link.caught.2]
      refine ⟨_, rfl, nofun, ?_, fun _ _ _ => ⟨rfl, rfl⟩⟩
      intro taken u same
      rw [reads] at same
      contradiction

/-- A poll of a connected client. -/
theorem pollOnce_takesFresh (attempt : Attempt) {node : Node σ} (quiet : node.Quiet)
    (connected : (ensureClient attempt node).session.connected = true) :
    ∃ after, pollOnce setting registers attempt node = .ok () after ∧ after.Quiet ∧
      TakesFresh setting registers
        (repaired setting registers (ensureClient attempt node).session)
        (ensureClient attempt node).snapshot after := by
  have silent := quiet_ensureClient attempt quiet connected
  unfold pollOnce repaired
  simp only [connected, Bool.not_true, Bool.false_eq_true, if_false]
  rcases repairRemoteControl_settled setting connected silent registers.control with
    ⟨changed, t, returned, stays, empty⟩ | ⟨error, t, raised, caught, stays, pending⟩
  · rw [returned]
    exact pollSnapshot_takesFresh stays (.quiet empty)
  · rw [raised]
    simp only [if_neg caught]
    exact pollSnapshot_takesFresh stays pending

end Node

/-- For every conforming server, arrival schedule, unit id and register addresses: the
stream is quiet whenever a poll starts, with any value of the transaction counter, and
a poll ends normally.  Wherever the repair was interrupted, a snapshot that the read
behind it returns is decoded from exactly the server's answers to that read; otherwise
the read raises, the client is closed and the old snapshot is kept. -/
theorem poll_takes_fresh_answer {σ : Type} (setting : Setting σ) (registers : Registers) :
    (∀ node : Node σ, node.session.connected = false → node.Quiet) ∧
    ∀ (attempt : Attempt) (node : Node σ), node.Quiet →
      ∃ after, pollOnce setting registers attempt node = .ok () after ∧ after.Quiet ∧
        ((ensureClient attempt node).session.connected = true →
          TakesFresh setting registers
            (repaired setting registers (ensureClient attempt node).session)
            (ensureClient attempt node).snapshot after) ∧
        ((ensureClient attempt node).session.connected = false →
          after = ensureClient attempt node) := by
  constructor
  · intro node closed connected
    rw [closed] at connected
    contradiction
  · intro attempt node quiet
    cases connected : (ensureClient attempt node).session.connected with
    | true =>
        obtain ⟨after, polled, silent, fresh⟩ := pollOnce_takesFresh attempt quiet connected
        exact ⟨after, polled, silent, fun _ => fresh, nofun⟩
    | false =>
        refine ⟨ensureClient attempt node, ?_, quiet_ensureClient attempt quiet, nofun,
          fun _ => rfl⟩
        unfold pollOnce
        simp only [connected, Bool.not_false, if_true]

/-- A link whose second `recv` times out. -/
def interruptedLink : Setting Memory where
  server := memoryServer
  arrivals n := if n = 1 then .timeout else .chunk 3
  unitId := 1

/-- The node before its first connection. -/
def startNode : Node Memory where
  session := {
    connected := false
    transactionId := 0
    inbound := []
    recvs := 0
    server := fun _ => 0
    exchanges := [] }
  snapshot := decodeIoSnapshot 0 0 0
  lastError := ""

/-- The registers of the node's defaults. -/
def defaultRegisters : Registers where
  control := 201
  input := 210
  output := 211
  alarm := 212

/-- The first answer of the repair arrives in part before the timeout: the poll closes
the client. -/
theorem poll_takes_fresh_answer_of_timeout :
    ∃ after, pollOnce interruptedLink defaultRegisters .opened startNode = .ok () after ∧
      after.session.connected = false ∧ after.snapshot = decodeIoSnapshot 0 0 0 := by
  obtain ⟨start, polls⟩ := poll_takes_fresh_answer interruptedLink defaultRegisters
  obtain ⟨after, polled, -, fresh, -⟩ := polls .opened startNode (start startNode rfl)
  obtain ⟨old, closed⟩ := (fresh rfl).raised _ _ rfl
  exact ⟨after, polled, closed, old⟩

end RtControl.Plc
