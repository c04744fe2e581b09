import RtControl.Plc.Exchange
import Mathlib.Logic.Function.Basic

/-!
# Register access of the PLC node

The snapshot of the PLC and the repair of its remote-control bit, on top of the
register reads and writes of the client.  The second part states the round trip of
the whole stack against a server that holds a register memory.
-/

namespace RtControl.Plc

/-- `PlcIoSnapshot`. -/
structure PlcIoSnapshot where
  leftVacuumEstablished : Bool
  rightVacuumEstablished : Bool
  leftSolenoidOn : Bool
  rightSolenoidOn : Bool
  vacuumPumpOn : Bool
  ioAlarm : UInt16
  deriving DecidableEq, Repr

def leftSolenoidBit : UInt16 := 0

def rightSolenoidBit : UInt16 := 1

def vacuumPumpBit : UInt16 := 2

def remoteControlEnableMask : UInt16 := 1

/-- `bool(word & (1 << bit))`. -/
def testBit (word bit : UInt16) : Bool :=
  word &&& (1 <<< bit) ≠ 0

/-- `decode_io_snapshot`. -/
def decodeIoSnapshot (diStatus doStatus ioAlarm : UInt16) : PlcIoSnapshot where
  leftVacuumEstablished := testBit diStatus 0
  rightVacuumEstablished := testBit diStatus 1
  leftSolenoidOn := testBit doStatus leftSolenoidBit
  rightSolenoidOn := testBit doStatus rightSolenoidBit
  vacuumPumpOn := testBit doStatus vacuumPumpBit
  ioAlarm := ioAlarm &&& 0xFFFF

/-- `enable_remote_control_word`. -/
def enableRemoteControlWord (controlWord : UInt16) : UInt16 :=
  (controlWord ||| remoteControlEnableMask) &&& 0xFFFF

section Runtime

variable {σ : Type} (setting : Setting σ)

/-- `read_holding_registers(register, 1)[0]`; the list holds the one value asked for. -/
def readRegister (register : Int) : Client σ UInt16 := do
  let values ← readHoldingRegisters setting register 1
  return values.headD 0

/-- `repair_remote_control`: set the enable bit of the control word and read it back. -/
def repairRemoteControl (controlRegister : Int) : Client σ Bool := do
  let currentWord ← readRegister setting controlRegister
  let desiredWord := enableRemoteControlWord currentWord
  if desiredWord = currentWord then
    return false
  writeSingleRegister setting controlRegister desiredWord.toNat
  let readback ← readRegister setting controlRegister
  if readback &&& remoteControlEnableMask ≠ remoteControlEnableMask then
    throw {
      kind := .control
      text := s!"remote control enable readback failed: MW{controlRegister}=0x" ++
        hexDigits 4 readback.toNat }
  if readback ≠ desiredWord then
    throw {
      kind := .control
      text := s!"remote control readback mismatch: MW{controlRegister}=0x" ++
        hexDigits 4 readback.toNat ++ ", expected=0x" ++ hexDigits 4 desiredWord.toNat }
  return true

/-- The fast path of `read_io_snapshot`: three registers in a row. -/
def readSnapshotBlock (inputRegister : Int) : Client σ PlcIoSnapshot := do
  match ← readHoldingRegisters setting inputRegister 3 with
  | [diStatus, doStatus, ioAlarm] => return decodeIoSnapshot diStatus doStatus ioAlarm
  | _ => throw { kind := .value, text := "not enough values to unpack" }

/-- The other path of `read_io_snapshot`: three single reads. -/
def readSnapshotSingly (inputRegister outputStatusRegister alarmRegister : Int) :
    Client σ PlcIoSnapshot := do
  let diStatus ← readRegister setting inputRegister
  let doStatus ← readRegister setting outputStatusRegister
  let ioAlarm ← readRegister setting alarmRegister
  return decodeIoSnapshot diStatus doStatus ioAlarm

/-- `read_io_snapshot`. -/
def readIoSnapshot (inputRegister outputStatusRegister alarmRegister : Int) :
    Client σ PlcIoSnapshot :=
  if outputStatusRegister = inputRegister + 1 ∧ alarmRegister = inputRegister + 2 then
    readSnapshotBlock setting inputRegister
  else
    readSnapshotSingly setting inputRegister outputStatusRegister alarmRegister

end Runtime

/-! ## Composition of served requests -/

section Composition

variable {σ α β : Type} {setting : Setting σ} {s t : Session σ}

theorem bind_ok {first : Client σ α} {next : α → Client σ β} {value : α}
    (returned : first s = .ok value t) : (first >>= next) s = next value t := by
  simp only [bind, EStateM.bind, returned]

theorem bind_error {first : Client σ α} {next : α → Client σ β} {error : ClientError}
    (raised : first s = .error error t) : (first >>= next) s = .error error t := by
  simp only [bind, EStateM.bind, raised]

/-- A sequence returns exactly when its two parts do. -/
theorem bind_eq_ok_iff {first : Client σ α} {next : α → Client σ β} {value : β}
    {u : Session σ} :
    (first >>= next) s = .ok value u ↔
      ∃ middle t, first s = .ok middle t ∧ next middle t = .ok value u := by
  cases result : first s with
  | ok middle t =>
      rw [bind_ok result]
      constructor
      · intro returned
        exact ⟨middle, t, rfl, returned⟩
      · rintro ⟨_, _, same, returned⟩
        cases same
        exact returned
  | error error t =>
      rw [bind_error result]
      constructor
      · nofun
      · rintro ⟨_, _, same, -⟩
        contradiction

/-- On a prompt stream an acceptable reply is returned and nothing of it is left. -/
theorem Served.of_prompt {body : Body} {accept : Reply → Option α} {value : α}
    {result : EStateM.Result ClientError (Session σ) α}
    (served : Served setting s body accept result) (prompt : setting.Prompt)
    (answer : accept (s.reply setting body) = some value) :
    ∃ recvs, result = .ok value ((s.sent setting body).received [] recvs) := by
  cases served with
  | answered returned recvs same =>
      rw [answer] at same
      cases same
      exact ⟨recvs, rfl⟩
  | refused error recvs link none =>
      rw [answer] at none
      contradiction
  | broken error consumed recvs link unprompt => exact absurd prompt unprompt

end Composition

/-! ## A register memory -/

/-- The holding registers by address. -/
abbrev Memory :=
  UInt16 → UInt16

/-- The values of a range of registers. -/
def Memory.range (memory : Memory) (start count : Nat) : List UInt16 :=
  (List.range count).map fun offset => memory (UInt16.ofNat (start + offset))

theorem Memory.length_range (memory : Memory) (start count : Nat) :
    (memory.range start count).length = count := by
  rw [Memory.range, List.length_map, List.length_range]

/-- A conforming server: reads return the memory, a write changes one register, and a
range outside the address space or of an illegal length is refused. -/
def memoryServer : Server Memory where
  serve memory
    | .read start count =>
        if 1 ≤ count.toNat ∧ count.toNat ≤ 125 ∧ start.toNat + count.toNat ≤ 0x10000 then
          (memory, .registers (memory.range start.toNat count.toNat))
        else
          (memory, .refused 0x02)
    | .write address value => (Function.update memory address value, .written)
  conforms := by
    intro memory body
    cases body with
    | read start count =>
        simp only
        split_ifs
        · exact memory.length_range _ _
        · trivial
    | write address value => trivial

section Memory

variable {setting : Setting Memory} {s : Session Memory}

theorem serve_readBody (memory : Memory) {start count : Int} (valid : ValidRange start count) :
    memoryServer.serve memory (readBody start count) =
      (memory, .registers (memory.range start.toNat count.toNat)) := by
  obtain ⟨low, positive, small, range⟩ := valid
  have startWord : (UInt16.ofNat start.toNat).toNat = start.toNat := by
    rw [UInt16.toNat_ofNat']
    omega
  have countWord : (UInt16.ofNat count.toNat).toNat = count.toNat := by
    rw [UInt16.toNat_ofNat']
    omega
  simp only [memoryServer, readBody, startWord, countWord]
  rw [if_pos (by omega)]

/-- A valid read returns the memory and consumes exactly its answer. -/
theorem read_memory (holds : setting.server = memoryServer) (prompt : setting.Prompt)
    (connected : s.connected = true) (quiet : s.inbound = []) {start count : Int}
    (valid : ValidRange start count) :
    ∃ t, readHoldingRegisters setting start count s =
        .ok (s.server.range start.toNat count.toNat) t ∧
      t.inbound = [] ∧ t.server = s.server ∧ t.connected = true ∧
      t.transactionId = s.transactionId + 1 ∧
      t.exchanges = s.exchanges ++
        [(readBody start count, .registers (s.server.range start.toNat count.toNat))] := by
  have serves : setting.server.serve s.server (readBody start count) =
      (s.server, .registers (s.server.range start.toNat count.toNat)) := by
    rw [holds]
    exact serve_readBody s.server valid
  have answer : Reply.registers? (s.reply setting (readBody start count)) =
      some (s.server.range start.toNat count.toNat) := by
    rw [Session.reply, serves]
    rfl
  obtain ⟨recvs, result⟩ := (read_served valid connected quiet).of_prompt prompt answer
  refine ⟨_, result, rfl, ?_, connected, rfl, ?_⟩
  · simp only [Session.received, Session.sent, serves]
  · simp only [Session.received, Session.sent, Session.reply, serves]

/-- A valid write changes exactly its register and consumes exactly its answer. -/
theorem write_memory (holds : setting.server = memoryServer) (prompt : setting.Prompt)
    (connected : s.connected = true) (quiet : s.inbound = []) {address value : Int}
    (valid : ValidRange address 1) (word : 0 ≤ value ∧ value ≤ 0xFFFF) :
    ∃ t, writeSingleRegister setting address value s = .ok () t ∧
      t.inbound = [] ∧
      t.server = Function.update s.server (UInt16.ofNat address.toNat)
        (UInt16.ofNat value.toNat) ∧
      t.transactionId = s.transactionId + 1 := by
  have serves : setting.server.serve s.server (writeBody address value) =
      (Function.update s.server (UInt16.ofNat address.toNat) (UInt16.ofNat value.toNat),
        .written) := by
    rw [holds]
    rfl
  have answer : Reply.written? (s.reply setting (writeBody address value)) = some () := by
    rw [Session.reply, serves]
    rfl
  obtain ⟨recvs, result⟩ := (write_served valid word connected quiet).of_prompt prompt answer
  refine ⟨_, result, rfl, ?_, rfl⟩
  simp only [Session.received, Session.sent, serves]

theorem readRegister_memory (holds : setting.server = memoryServer) (prompt : setting.Prompt)
    (connected : s.connected = true) (quiet : s.inbound = []) {register : Int}
    (valid : 0 ≤ register ∧ register ≤ 0xFFFF) :
    ∃ t, readRegister setting register s = .ok (s.server (UInt16.ofNat register.toNat)) t ∧
      t.inbound = [] ∧ t.server = s.server ∧ t.connected = true := by
  have range : ValidRange register 1 := by
    unfold ValidRange
    omega
  obtain ⟨t, returned, silent, server, stays, -, -⟩ :=
    read_memory holds prompt connected quiet range
  exact ⟨t, bind_ok returned, silent, server, stays⟩

/-- Three single reads decode the three registers. -/
theorem readSnapshotSingly_memory (holds : setting.server = memoryServer)
    (prompt : setting.Prompt) (connected : s.connected = true) (quiet : s.inbound = [])
    {input output alarm : Int} (inputValid : 0 ≤ input ∧ input ≤ 0xFFFF)
    (outputValid : 0 ≤ output ∧ output ≤ 0xFFFF) (alarmValid : 0 ≤ alarm ∧ alarm ≤ 0xFFFF) :
    ∃ t, readSnapshotSingly setting input output alarm s =
        .ok (decodeIoSnapshot (s.server (UInt16.ofNat input.toNat))
          (s.server (UInt16.ofNat output.toNat)) (s.server (UInt16.ofNat alarm.toNat))) t ∧
      t.inbound = [] ∧ t.server = s.server := by
  obtain ⟨t, first, tQuiet, tServer, tConnected⟩ :=
    readRegister_memory holds prompt connected quiet inputValid
  obtain ⟨u, second, uQuiet, uServer, uConnected⟩ :=
    readRegister_memory holds prompt tConnected tQuiet outputValid
  obtain ⟨v, third, vQuiet, vServer, -⟩ :=
    readRegister_memory holds prompt uConnected uQuiet alarmValid
  refine ⟨v, ?_, vQuiet, vServer.trans (uServer.trans tServer)⟩
  rw [readSnapshotSingly, bind_ok first, bind_ok second, bind_ok third, uServer, tServer]
  rfl

/-- One read of three registers decodes the same registers. -/
theorem readSnapshotBlock_memory (holds : setting.server = memoryServer)
    (prompt : setting.Prompt) (connected : s.connected = true) (quiet : s.inbound = [])
    {input : Int} (low : 0 ≤ input) (high : input + 2 ≤ 0xFFFF) :
    ∃ t, readSnapshotBlock setting input s =
        .ok (decodeIoSnapshot (s.server (UInt16.ofNat input.toNat))
          (s.server (UInt16.ofNat (input + 1).toNat))
          (s.server (UInt16.ofNat (input + 2).toNat))) t ∧
      t.inbound = [] ∧ t.server = s.server := by
  have range : ValidRange input 3 := by
    unfold ValidRange
    omega
  obtain ⟨t, returned, silent, server, -⟩ := read_memory holds prompt connected quiet range
  have second : (input + 1).toNat = input.toNat + 1 := by omega
  have third : (input + 2).toNat = input.toNat + 2 := by omega
  refine ⟨t, ?_, silent, server⟩
  rw [readSnapshotBlock, bind_ok returned, second, third]
  rfl

end Memory

/-- Against every register memory, for every unit id, transaction counter and chunking
of the answers, a client on a quiet stream reads exactly the registers it asks for,
writes exactly the register it names, consumes exactly one answer for each request, and
returns the same snapshot on both paths. -/
theorem modbus_round_trip (unitId : UInt8) (arrivals : Nat → Arrival)
    (chunks : ∀ n, ∃ size, arrivals n = .chunk size) (s : Session Memory)
    (connected : s.connected = true) (quiet : s.inbound = []) :
    let setting : Setting Memory := { server := memoryServer, arrivals, unitId }
    (∀ start count : Int, 0 ≤ start → 1 ≤ count → count ≤ 125 → start + count ≤ 65536 →
      ∃ t, readHoldingRegisters setting start count s =
          .ok (s.server.range start.toNat count.toNat) t ∧
        t.inbound = [] ∧ t.server = s.server ∧ t.transactionId = s.transactionId + 1 ∧
        t.exchanges.length = s.exchanges.length + 1) ∧
    (∀ address value : Int, 0 ≤ address → address ≤ 65535 → 0 ≤ value → value ≤ 65535 →
      ∃ t, writeSingleRegister setting address value s = .ok () t ∧ t.inbound = [] ∧
        t.server = Function.update s.server (UInt16.ofNat address.toNat)
          (UInt16.ofNat value.toNat)) ∧
    (∀ input output alarm : Int, 0 ≤ input → input ≤ 65535 → 0 ≤ output → output ≤ 65535 →
      0 ≤ alarm → alarm ≤ 65535 →
      ∃ t, readIoSnapshot setting input output alarm s =
          .ok (decodeIoSnapshot (s.server (UInt16.ofNat input.toNat))
            (s.server (UInt16.ofNat output.toNat)) (s.server (UInt16.ofNat alarm.toNat))) t ∧
        t.inbound = [] ∧ t.server = s.server) ∧
    ∀ input : Int, 0 ≤ input → input + 2 ≤ 65535 →
      ∃ snapshot t u, readSnapshotBlock setting input s = .ok snapshot t ∧
        readSnapshotSingly setting input (input + 1) (input + 2) s = .ok snapshot u := by
  intro setting
  have holds : setting.server = memoryServer := rfl
  have prompt : setting.Prompt := chunks
  refine ⟨?_, ?_, ?_, ?_⟩
  · intro start count low positive small range
    obtain ⟨t, returned, silent, server, -, counted, served⟩ :=
      read_memory holds prompt connected quiet ⟨low, positive, small, range⟩
    exact ⟨t, returned, silent, server, counted, by rw [served, List.length_append]; rfl⟩
  · intro address value low high valueLow valueHigh
    have range : ValidRange address 1 := by
      unfold ValidRange
      omega
    obtain ⟨t, returned, silent, server, -⟩ :=
      write_memory holds prompt connected quiet range ⟨valueLow, valueHigh⟩
    exact ⟨t, returned, silent, server⟩
  · intro input output alarm inputLow inputHigh outputLow outputHigh alarmLow alarmHigh
    unfold readIoSnapshot
    split_ifs with contiguous
    · obtain ⟨rfl, rfl⟩ := contiguous
      exact readSnapshotBlock_memory holds prompt connected quiet inputLow alarmHigh
    · exact readSnapshotSingly_memory holds prompt connected quiet ⟨inputLow, inputHigh⟩
        ⟨outputLow, outputHigh⟩ ⟨alarmLow, alarmHigh⟩
  · intro input low high
    obtain ⟨t, block, -⟩ := readSnapshotBlock_memory holds prompt connected quiet low high
    have first : 0 ≤ input ∧ input ≤ 0xFFFF := by omega
    have second : 0 ≤ input + 1 ∧ input + 1 ≤ 0xFFFF := by omega
    have third : 0 ≤ input + 2 ∧ input + 2 ≤ 0xFFFF := by omega
    obtain ⟨u, singly, -⟩ :=
      readSnapshotSingly_memory holds prompt connected quiet first second third
    exact ⟨_, t, u, block, singly⟩

/-- A full read of 125 registers whose answers arrive byte by byte, at the wrap of the
transaction counter. -/
theorem modbus_round_trip_of_bytes :
    ∃ t, readHoldingRegisters
        { server := memoryServer, arrivals := fun _ => .chunk 1, unitId := 1 } 65411 125
        { connected := true, transactionId := 0xFFFF, inbound := [], recvs := 0,
          server := fun address => address, exchanges := [] } =
          .ok (Memory.range (fun address => address) 65411 125) t ∧
      t.inbound = [] ∧ t.transactionId = 0 := by
  obtain ⟨reads, -⟩ := modbus_round_trip 1 (fun _ => .chunk 1) (fun _ => ⟨1, rfl⟩)
    { connected := true, transactionId := 0xFFFF, inbound := [], recvs := 0,
      server := fun address => address, exchanges := [] } rfl rfl
  obtain ⟨t, returned, silent, -, counted, -⟩ :=
    reads 65411 125 (by decide) (by decide) (by decide) (by decide)
  exact ⟨t, returned, silent, counted⟩

end RtControl.Plc
