import RtControl.Codec.BigEndian

/-!
# The Modbus TCP client

The client sends one request at a time and reads the header and the PDU of the answer
from a byte stream.  The other end is any server that answers requests in order: its
answer bytes join the stream when the request is sent, and an arrival schedule decides
how many of them each `recv` returns and when a `recv` gives up.
-/

namespace RtControl.Plc

open RtControl.Codec

/-! ## Errors -/

/-- The exception classes of the client and of its callers. -/
inductive ErrorKind where
  | os
  | modbus
  | value
  | control
  deriving DecidableEq, Repr

/-- A raised exception with its text. -/
structure ClientError where
  kind : ErrorKind
  text : String
  deriving DecidableEq, Repr

/-- Lower-case hexadecimal digits, padded with zeros on the left. -/
def hexDigits (width value : Nat) : String :=
  let digits := Nat.toDigits 16 value
  String.ofList (List.replicate (width - digits.length) '0' ++ digits)

/-! ## The server -/

/-- A request of the two function codes the client uses. -/
inductive Body where
  | read (start count : UInt16)
  | write (address value : UInt16)
  deriving DecidableEq, Repr

/-- A server's answer to one request. -/
inductive Reply where
  | registers (values : List UInt16)
  | written
  | refused (code : UInt8)
  deriving DecidableEq, Repr

/-- The answers a conforming server may give: as many registers as were asked for, an
echo of the write, or an exception. -/
def Body.Answers : Body → Reply → Prop
  | .read _ count, .registers values => values.length = count.toNat
  | .write _ _, .written => True
  | _, .refused _ => True
  | _, _ => False

/-- A conforming server over the states `σ`. -/
structure Server (σ : Type) where
  serve : σ → Body → σ × Reply
  conforms : ∀ (state : σ) (body : Body), body.Answers (serve state body).2

/-- The function code of a request. -/
def Body.function : Body → UInt8
  | .read _ _ => 0x03
  | .write _ _ => 0x06

/-- The PDU of an answer. -/
def answerPdu (body : Body) : Reply → List UInt8
  | .registers values => [body.function, UInt8.ofNat (2 * values.length)] ++ packWords values
  | .written =>
      match body with
      | .write address value => [body.function] ++ pack16 address ++ pack16 value
      | .read _ _ => [body.function]
  | .refused code => [body.function ||| 0x80, code]

/-- An MBAP header and the PDU behind it. -/
def frame (transactionId : UInt16) (unitId : UInt8) (pdu : List UInt8) : List UInt8 :=
  pack16 transactionId ++ pack16 0 ++ pack16 (UInt16.ofNat (pdu.length + 1)) ++ [unitId] ++ pdu

/-- The server's reading of one request frame. -/
def parseRequest : List UInt8 → Option (UInt16 × UInt8 × Body)
  | [t1, t0, p1, p0, l1, l0, unitId, function, a1, a0, v1, v0] =>
      if unpack16 p1 p0 = 0 ∧ unpack16 l1 l0 = 6 then
        if function = 0x03 then
          some (unpack16 t1 t0, unitId, .read (unpack16 a1 a0) (unpack16 v1 v0))
        else if function = 0x06 then
          some (unpack16 t1 t0, unitId, .write (unpack16 a1 a0) (unpack16 v1 v0))
        else
          none
      else
        none
  | _ => none

/-! ## The connection -/

/-- What one `recv` finds: some of the bytes that have arrived, none before the socket
timeout, or the end of the stream. -/
inductive Arrival where
  | chunk (size : Nat)
  | timeout
  | closed
  deriving DecidableEq, Repr

/-- A client with its connection: the bytes that are answered and not yet received,
the number of `recv` calls so far, and the server with the exchanges it has served. -/
structure Session (σ : Type) where
  connected : Bool
  transactionId : UInt16
  inbound : List UInt8
  recvs : Nat
  server : σ
  exchanges : List (Body × Reply)

/-- A client's surroundings. -/
structure Setting (σ : Type) where
  server : Server σ
  arrivals : Nat → Arrival
  unitId : UInt8

/-- Client code: it raises exceptions and works on the session. -/
abbrev Client (σ α : Type) :=
  EStateM ClientError (Session σ) α

section Client

variable {σ : Type} (setting : Setting σ)

/-- `sock.sendall`: the server serves the request and its answer joins the stream. -/
def sendall (request : List UInt8) : Client σ Unit :=
  modify fun s =>
    match parseRequest request with
    | none => s
    | some (transactionId, unitId, body) =>
        let (server, reply) := setting.server.serve s.server body
        { s with
          server := server
          exchanges := s.exchanges ++ [(body, reply)]
          inbound := s.inbound ++ frame transactionId unitId (answerPdu body reply) }

/-- `sock.recv`: at least one and at most `length` of the next bytes. -/
def recv (length : Nat) : Client σ (List UInt8) := do
  let s ← get
  set { s with recvs := s.recvs + 1 }
  match setting.arrivals s.recvs, s.inbound with
  | .closed, _ => return []
  | .timeout, _ | .chunk _, [] => throw { kind := .os, text := "timed out" }
  | .chunk size, inbound =>
      let chunk := inbound.take (max 1 (min size length))
      set { s with recvs := s.recvs + 1, inbound := inbound.drop chunk.length }
      return chunk

/-- The loop of `_recv_exact`; every round adds a byte, so `length` rounds are enough. -/
def recvLoop (length : Nat) : Nat → List UInt8 → Client σ (List UInt8)
  | 0, chunks => return chunks
  | rounds + 1, chunks => do
      if chunks.length < length then
        let chunk ← recv setting (length - chunks.length)
        if chunk.isEmpty then
          throw { kind := .modbus, text := "connection closed by remote host" }
        recvLoop length rounds (chunks ++ chunk)
      else
        return chunks

/-- Receive exactly `length` bytes. -/
def recvExact (length : Nat) : Client σ (List UInt8) :=
  recvLoop setting length length []

end Client

/-- The checks of the MBAP header; the length it announces. -/
def checkHeader (expectedTransaction : UInt16) (expectedUnit : UInt8) :
    List UInt8 → Except ClientError Nat
  | [t1, t0, p1, p0, l1, l0, unitId] =>
      let transactionId := unpack16 t1 t0
      let protocolId := unpack16 p1 p0
      let length := unpack16 l1 l0
      if transactionId ≠ expectedTransaction then
        .error {
          kind := .modbus
          text := s!"transaction mismatch: got {transactionId}, expected {expectedTransaction}" }
      else if protocolId ≠ 0 then
        .error { kind := .modbus, text := s!"unexpected protocol id: {protocolId}" }
      else if unitId ≠ expectedUnit then
        .error {
          kind := .modbus, text := s!"unit id mismatch: got {unitId}, expected {expectedUnit}" }
      else if ¬(2 ≤ length.toNat ∧ length.toNat ≤ 254) then
        .error { kind := .modbus, text := s!"invalid MBAP length: {length}" }
      else
        .ok length.toNat
  | _ => .error { kind := .modbus, text := "unpack requires a buffer of 7 bytes" }

/-- The checks of the PDU; its payload. -/
def checkPdu (function : UInt8) : List UInt8 → Except ClientError (List UInt8)
  | responseFunction :: payload =>
      if responseFunction = function ||| 0x80 then
        let code := match payload with
          | [] => "-1"
          | code :: _ => toString code
        .error {
          kind := .modbus
          text := "Modbus exception for function 0x" ++ hexDigits 2 function.toNat ++
            ": code " ++ code }
      else if responseFunction ≠ function then
        .error {
          kind := .modbus
          text := "function mismatch: got 0x" ++ hexDigits 2 responseFunction.toNat ++
            ", expected 0x" ++ hexDigits 2 function.toNat }
      else
        .ok payload
  | [] => .error { kind := .modbus, text := "index out of range" }

/-- `_validate_register_range`. -/
def validateRegisterRange (start count : Int) : Except ClientError Unit :=
  if ¬(0 ≤ start ∧ start ≤ 0xFFFF) then
    .error { kind := .value, text := s!"register address out of uint16 range: {start}" }
  else if ¬(1 ≤ count ∧ count ≤ 125) then
    .error { kind := .value, text := s!"register count must be in range 1..125: {count}" }
  else if start + count > 0x10000 then
    .error { kind := .value, text := "register range exceeds uint16 address space" }
  else
    .ok ()

/-- `_unpack_registers`. -/
def unpackRegisters (count : Nat) : List UInt8 → Except ClientError (List UInt16)
  | [] => .error { kind := .modbus, text := "register response is missing byte count" }
  | byteCount :: data =>
      let expected := count * 2
      let actual := data.length
      if byteCount.toNat ≠ expected ∨ actual ≠ expected then
        .error {
          kind := .modbus
          text := s!"register response length mismatch: byte_count={byteCount}, data={actual}, " ++
            s!"expected={expected}" }
      else
        match unpackWords data with
        | some values => .ok values
        | none => .error { kind := .modbus, text := "invalid register response" }

section Client

variable {σ : Type} (setting : Setting σ)

/-- The part of `_request` behind the send: one answer is read and checked. -/
def response (function : UInt8) : Client σ (List UInt8) := do
  let s ← get
  let header ← recvExact setting 7
  let length ← ofExcept (checkHeader s.transactionId setting.unitId header)
  let pdu ← recvExact setting (length - 1)
  ofExcept (checkPdu function pdu)

/-- `_request`: send one request and return the payload of its answer. -/
def request (function : UInt8) (payload : List UInt8) : Client σ (List UInt8) := do
  let s ← get
  if !s.connected then
    throw { kind := .modbus, text := "client is not connected" }
  let transactionId := s.transactionId + 1
  set { s with transactionId := transactionId }
  sendall setting (pack16 transactionId ++ pack16 0 ++
    pack16 (UInt16.ofNat (payload.length + 2)) ++ [setting.unitId] ++ [function] ++ payload)
  response setting function

/-- The two words of a request payload. -/
def packPair (first second : Int) : List UInt8 :=
  pack16 (UInt16.ofNat first.toNat) ++ pack16 (UInt16.ofNat second.toNat)

/-- `read_holding_registers`. -/
def readHoldingRegisters (start count : Int) : Client σ (List UInt16) := do
  ofExcept (validateRegisterRange start count)
  let payload ← request setting 0x03 (packPair start count)
  ofExcept (unpackRegisters count.toNat payload)

/-- The comparison of a write with its echo. -/
def checkEcho (address value : Int) (payload : List UInt8) : Except ClientError Unit :=
  match payload with
  | [a1, a0, v1, v0] =>
      let echoedAddress := unpack16 a1 a0
      let echoedValue := unpack16 v1 v0
      if (echoedAddress.toNat : Int) ≠ address ∨ (echoedValue.toNat : Int) ≠ value then
        .error {
          kind := .modbus
          text := s!"register write echo mismatch: address={echoedAddress}, value=0x" ++
            hexDigits 4 echoedValue.toNat }
      else
        .ok ()
  | _ =>
      let actual := payload.length
      .error {
        kind := .modbus
        text := s!"register write response length mismatch: expected=4 actual={actual}" }

/-- `write_single_register`. -/
def writeSingleRegister (address value : Int) : Client σ Unit := do
  ofExcept (validateRegisterRange address 1)
  if ¬(0 ≤ value ∧ value ≤ 0xFFFF) then
    throw { kind := .value, text := s!"register value out of uint16 range: {value}" }
  let payload ← request setting 0x06 (packPair address value)
  ofExcept (checkEcho address value payload)

end Client

end RtControl.Plc
