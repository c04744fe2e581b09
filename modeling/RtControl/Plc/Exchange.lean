import RtControl.Plc.Stream

/-!
# Requests and their answers

A register read or write on a quiet stream is served once by the server: the client
returns what the server answered, raises on an exception answer, or is interrupted
and leaves a rest of the answer on the stream.
-/

namespace RtControl.Plc

open RtControl.Codec

/-- The payload of a request. -/
def Body.payload : Body → List UInt8
  | .read start count => pack16 start ++ pack16 count
  | .write address value => pack16 address ++ pack16 value

/-- What a client accepts as the answer to a read. -/
def Reply.registers? : Reply → Option (List UInt16)
  | .registers values => some values
  | _ => none

/-- What a client accepts as the answer to a write. -/
def Reply.written? : Reply → Option Unit
  | .written => some ()
  | _ => none

section Requests

variable {σ : Type} (setting : Setting σ) (s : Session σ)

/-- The server's reply to a request that is sent now. -/
def Session.reply (body : Body) : Reply :=
  (setting.server.serve s.server body).2

/-- The session after a request was sent and served. -/
def Session.sent (body : Body) : Session σ :=
  { s with
    transactionId := s.transactionId + 1
    server := (setting.server.serve s.server body).1
    exchanges := s.exchanges ++ [(body, s.reply setting body)]
    inbound := s.inbound ++
      frame (s.transactionId + 1) setting.unitId (answerPdu body (s.reply setting body)) }

variable {setting s}

theorem parseRequest_body (transactionId : UInt16) (unitId : UInt8) (body : Body) :
    parseRequest (pack16 transactionId ++ pack16 0 ++
      pack16 (UInt16.ofNat (body.payload.length + 2)) ++ [unitId] ++ [body.function] ++
        body.payload) = some (transactionId, unitId, body) := by
  have protocol : unpack16 (UInt8.ofNat ((0 : UInt16).toNat / 256)) (UInt8.ofNat (0 : UInt16).toNat) =
      0 := unpack16_of_pack16 0
  have length : unpack16 (UInt8.ofNat ((UInt16.ofNat (4 + 2)).toNat / 256))
      (UInt8.ofNat (UInt16.ofNat (4 + 2)).toNat) = 6 := unpack16_of_pack16 6
  cases body with
  | read start count =>
      simp only [Body.payload, Body.function, pack16, List.cons_append, List.nil_append,
        List.length_cons, List.length_nil, parseRequest, Nat.reduceAdd] at length ⊢
      rw [if_pos ⟨protocol, length⟩, if_pos trivial, unpack16_of_pack16, unpack16_of_pack16,
        unpack16_of_pack16]
  | write address value =>
      simp only [Body.payload, Body.function, pack16, List.cons_append, List.nil_append,
        List.length_cons, List.length_nil, parseRequest, Nat.reduceAdd] at length ⊢
      rw [if_pos ⟨protocol, length⟩, if_neg (by decide), if_pos trivial, unpack16_of_pack16,
        unpack16_of_pack16, unpack16_of_pack16]

/-- A request is served before its answer is read. -/
theorem request_eq (connected : s.connected = true) (body : Body) :
    request setting body.function body.payload s =
      response setting body.function (s.sent setting body) := by
  simp only [request, bind, EStateM.bind, get, getThe, MonadStateOf.get, EStateM.get, connected,
    Bool.not_true, Bool.false_eq_true, if_false, set, EStateM.set, sendall, modify, modifyGet,
    MonadStateOf.modifyGet, EStateM.modifyGet, parseRequest_body, Session.sent, Session.reply]

theorem function_plain (body : Body) : body.function ≠ body.function ||| 0x80 := by
  cases body with
  | read start count => exact (by decide : (0x03 : UInt8) ≠ 0x03 ||| 0x80)
  | write address value => exact (by decide : (0x06 : UInt8) ≠ 0x06 ||| 0x80)

theorem answerPdu_ne_nil (body : Body) (reply : Reply) : answerPdu body reply ≠ [] := by
  cases reply with
  | registers values => simp [answerPdu]
  | written => cases body <;> simp [answerPdu]
  | refused code => simp [answerPdu]

/-- The requests the client may send. -/
def Body.Sendable : Body → Prop
  | .read _ count => count.toNat ≤ 125
  | .write _ _ => True

/-- An answer to a sendable request fits an MBAP frame. -/
theorem length_answerPdu {body : Body} (sendable : body.Sendable) {reply : Reply}
    (conforms : body.Answers reply) : (answerPdu body reply).length + 1 ≤ 254 := by
  cases body with
  | read start count =>
      have bound : count.toNat ≤ 125 := sendable
      cases reply with
      | registers values =>
          have length : values.length = count.toNat := conforms
          simp only [answerPdu, List.length_append, length_packWords, List.length_cons,
            List.length_nil]
          omega
      | written => exact conforms.elim
      | refused code => simp [answerPdu]
  | write address value =>
      cases reply with
      | registers values => exact conforms.elim
      | written => simp [answerPdu]
      | refused code => simp [answerPdu]

/-- What a request on a quiet stream does, for a client that accepts the replies
`accept`. -/
inductive Served {α : Type} (setting : Setting σ) (s : Session σ) (body : Body)
    (accept : Reply → Option α) : EStateM.Result ClientError (Session σ) α → Prop
  /-- The server's answer is returned and nothing of it is left. -/
  | answered (value : α) (recvs : Nat)
      (answer : accept (s.reply setting body) = some value) :
      Served setting s body accept (.ok value ((s.sent setting body).received [] recvs))
  /-- The server's exception is raised and nothing of it is left. -/
  | refused (error : ClientError) (recvs : Nat)
      (link : error.isLink)
      (answer : accept (s.reply setting body) = none) :
      Served setting s body accept (.error error ((s.sent setting body).received [] recvs))
  /-- The receive is interrupted before the end of the answer. -/
  | broken (error : ClientError) (consumed recvs : Nat)
      (link : error.isLink)
      (unprompt : ¬setting.Prompt)
      (short : consumed < (frame (s.transactionId + 1) setting.unitId
        (answerPdu body (s.reply setting body))).length) :
      Served setting s body accept (.error error ((s.sent setting body).received
        ((frame (s.transactionId + 1) setting.unitId
          (answerPdu body (s.reply setting body))).drop consumed) recvs))

theorem request_answer (connected : s.connected = true) (quiet : s.inbound = []) {body : Body}
    (sendable : body.Sendable) :
    Answer setting body.function (s.sent setting body) (answerPdu body (s.reply setting body))
      (request setting body.function body.payload s) := by
  rw [request_eq connected]
  apply response_answer (answerPdu_ne_nil _ _)
  · exact length_answerPdu sendable (setting.server.conforms s.server body)
  · simp only [Session.sent, quiet, List.nil_append]

theorem checkPdu_refused (body : Body) (code : UInt8) (payload : List UInt8) :
    checkPdu body.function (answerPdu body (.refused code)) ≠ .ok payload := by
  intro checked
  have plain := function_plain body
  have named := (checkPdu_eq_ok_iff plain).mp checked
  simp only [answerPdu, List.cons.injEq] at named
  exact plain named.1.symm

/-- What a request does when its payload is decoded. -/
def decodeAnswer {α : Type} (decode : List UInt8 → Except ClientError α) :
    EStateM.Result ClientError (Session σ) (List UInt8) → EStateM.Result ClientError (Session σ) α
  | .ok payload t =>
      match decode payload with
      | .ok value => .ok value t
      | .error error => .error error t
  | .error error t => .error error t

/-- A client whose decoder takes the payload of every accepted reply is served. -/
theorem Answer.served {α : Type} {body : Body} {accept : Reply → Option α}
    {decode : List UInt8 → Except ClientError α}
    {result : EStateM.Result ClientError (Session σ) (List UInt8)}
    (answer : Answer setting body.function (s.sent setting body)
      (answerPdu body (s.reply setting body)) result)
    (decodes : ∀ payload, checkPdu body.function (answerPdu body (s.reply setting body)) =
      .ok payload → ∃ value, decode payload = .ok value ∧
        accept (s.reply setting body) = some value)
    (refuses : ∀ error, checkPdu body.function (answerPdu body (s.reply setting body)) =
      .error error → accept (s.reply setting body) = none) :
    Served setting s body accept (decodeAnswer decode result) := by
  cases answer with
  | accepted payload recvs checked =>
      obtain ⟨value, decoded, accepted⟩ := decodes payload checked
      simp only [decodeAnswer, decoded]
      exact .answered value recvs accepted
  | rejected error recvs checked =>
      exact .refused error recvs (checkPdu_isLink checked) (refuses error checked)
  | broken error consumed recvs link unprompt short =>
      exact .broken error consumed recvs link unprompt short

/-! ## Register reads -/

/-- The range a client accepts for a read. -/
def ValidRange (start count : Int) : Prop :=
  0 ≤ start ∧ 1 ≤ count ∧ count ≤ 125 ∧ start + count ≤ 0x10000

theorem validateRegisterRange_eq_ok_iff {start count : Int} :
    validateRegisterRange start count = .ok () ↔ ValidRange start count := by
  unfold validateRegisterRange ValidRange
  constructor
  · intro accepted
    split_ifs at accepted with address length range
    omega
  · rintro ⟨low, positive, small, range⟩
    rw [if_neg (by omega), if_neg (by omega), if_neg (by omega)]

/-- The request of a read. -/
def readBody (start count : Int) : Body :=
  .read (UInt16.ofNat start.toNat) (UInt16.ofNat count.toNat)

theorem toNat_readCount {start count : Int} (valid : ValidRange start count) :
    (UInt16.ofNat count.toNat).toNat = count.toNat := by
  obtain ⟨-, -, small, -⟩ := valid
  rw [UInt16.toNat_ofNat']
  omega

theorem sendable_readBody {start count : Int} (valid : ValidRange start count) :
    (readBody start count).Sendable := by
  have bound := toNat_readCount valid
  obtain ⟨-, -, small, -⟩ := valid
  simp only [readBody, Body.Sendable, bound]
  omega

/-- A valid read is one request. -/
theorem readHoldingRegisters_eq {start count : Int} (valid : ValidRange start count) :
    readHoldingRegisters setting start count s =
      decodeAnswer (unpackRegisters count.toNat)
        (request setting (readBody start count).function (readBody start count).payload s) := by
  have accepted := validateRegisterRange_eq_ok_iff.mpr valid
  simp only [readHoldingRegisters, bind, EStateM.bind, accepted, ofExcept, pure, EStateM.pure]
  have payload : packPair start count = (readBody start count).payload := rfl
  have function : (0x03 : UInt8) = (readBody start count).function := rfl
  rw [payload, function]
  cases request setting (readBody start count).function (readBody start count).payload s with
  | error error t => rfl
  | ok payload t =>
      simp only [decodeAnswer]
      cases unpackRegisters count.toNat payload <;> rfl

theorem unpackRegisters_answer {count : Nat} {values : List UInt16} (length : values.length = count)
    (small : count ≤ 125) :
    unpackRegisters count (UInt8.ofNat (2 * values.length) :: packWords values) = .ok values := by
  have byteCount : (UInt8.ofNat (2 * values.length)).toNat = count * 2 := by
    rw [UInt8.toNat_ofNat']
    omega
  have data : (packWords values).length = count * 2 := by
    rw [length_packWords]
    omega
  simp only [unpackRegisters, byteCount, data, ne_eq, not_true_eq_false, or_self, if_false,
    unpackWords_packWords]

/-- A valid read on a quiet stream is served once. -/
theorem read_served {start count : Int} (valid : ValidRange start count)
    (connected : s.connected = true) (quiet : s.inbound = []) :
    Served setting s (readBody start count) Reply.registers?
      (readHoldingRegisters setting start count s) := by
  have conforms : (readBody start count).Answers (s.reply setting (readBody start count)) :=
    setting.server.conforms s.server (readBody start count)
  have plain := function_plain (readBody start count)
  rw [readHoldingRegisters_eq valid]
  apply (request_answer connected quiet (sendable_readBody valid)).served
  · intro payload checked
    cases reply : s.reply setting (readBody start count) with
    | registers values =>
        rw [reply] at checked conforms
        have length : values.length = count.toNat := conforms.trans (toNat_readCount valid)
        have named := (checkPdu_eq_ok_iff plain).mp checked
        simp only [answerPdu, List.cons_append, List.nil_append, List.cons.injEq, true_and]
          at named
        obtain ⟨-, -, small, -⟩ := valid
        rw [← named]
        exact ⟨values, unpackRegisters_answer length (by omega), rfl⟩
    | written =>
        rw [reply] at conforms
        exact conforms.elim
    | refused code =>
        rw [reply] at checked
        exact absurd checked (checkPdu_refused _ code payload)
  · intro error checked
    cases reply : s.reply setting (readBody start count) with
    | registers values =>
        have pdu : answerPdu (readBody start count) (.registers values) =
            (readBody start count).function ::
              UInt8.ofNat (2 * values.length) :: packWords values := rfl
        rw [reply, (checkPdu_eq_ok_iff plain).mpr pdu] at checked
        contradiction
    | written =>
        rw [reply] at conforms
        exact conforms.elim
    | refused code => rfl

/-! ## Register writes -/

/-- The request of a write. -/
def writeBody (address value : Int) : Body :=
  .write (UInt16.ofNat address.toNat) (UInt16.ofNat value.toNat)

/-- A valid write is one request. -/
theorem writeSingleRegister_eq {address value : Int} (valid : ValidRange address 1)
    (word : 0 ≤ value ∧ value ≤ 0xFFFF) :
    writeSingleRegister setting address value s =
      decodeAnswer (checkEcho address value)
        (request setting (writeBody address value).function
          (writeBody address value).payload s) := by
  have accepted := validateRegisterRange_eq_ok_iff.mpr valid
  simp only [writeSingleRegister, bind, EStateM.bind, accepted, ofExcept, pure, EStateM.pure,
    not_true_eq_false, if_false, word, and_self]
  have payload : packPair address value = (writeBody address value).payload := rfl
  have function : (0x06 : UInt8) = (writeBody address value).function := rfl
  rw [payload, function]
  cases request setting (writeBody address value).function (writeBody address value).payload s with
  | error error t => rfl
  | ok payload t =>
      simp only [decodeAnswer]
      cases checkEcho address value payload <;> rfl

theorem checkEcho_answer {address value : Int} (valid : ValidRange address 1)
    (word : 0 ≤ value ∧ value ≤ 0xFFFF) :
    checkEcho address value (writeBody address value).payload = .ok () := by
  obtain ⟨low, -, -, high⟩ := valid
  have echoedAddress : ((UInt16.ofNat address.toNat).toNat : Int) = address := by
    rw [UInt16.toNat_ofNat']
    omega
  have echoedValue : ((UInt16.ofNat value.toNat).toNat : Int) = value := by
    rw [UInt16.toNat_ofNat']
    omega
  simp only [writeBody, Body.payload, pack16, List.cons_append, List.nil_append, checkEcho,
    unpack16_of_pack16, echoedAddress, echoedValue, ne_eq, not_true_eq_false, or_self, if_false]

/-- A valid write on a quiet stream is served once. -/
theorem write_served {address value : Int} (valid : ValidRange address 1)
    (word : 0 ≤ value ∧ value ≤ 0xFFFF) (connected : s.connected = true)
    (quiet : s.inbound = []) :
    Served setting s (writeBody address value) Reply.written?
      (writeSingleRegister setting address value s) := by
  have sendable : (writeBody address value).Sendable := trivial
  have conforms : (writeBody address value).Answers (s.reply setting (writeBody address value)) :=
    setting.server.conforms s.server (writeBody address value)
  have checks : checkPdu (writeBody address value).function
      (answerPdu (writeBody address value) .written) = .ok (writeBody address value).payload :=
    (checkPdu_eq_ok_iff (function_plain (writeBody address value))).mpr rfl
  rw [writeSingleRegister_eq valid word]
  apply (request_answer connected quiet sendable).served
  · intro payload checked
    cases reply : s.reply setting (writeBody address value) with
    | registers values =>
        rw [reply] at conforms
        exact conforms.elim
    | written =>
        rw [reply, checks] at checked
        cases checked
        exact ⟨(), checkEcho_answer valid word, rfl⟩
    | refused code =>
        rw [reply] at checked
        exact absurd checked (checkPdu_refused _ code payload)
  · intro error checked
    cases reply : s.reply setting (writeBody address value) with
    | registers values =>
        rw [reply] at conforms
        exact conforms.elim
    | written =>
        rw [reply, checks] at checked
        contradiction
    | refused code => rfl

end Requests

end RtControl.Plc
