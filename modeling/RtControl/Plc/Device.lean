import RtControl.Plc.PlcNode

/-!
# A PLC behind a lossy link

The command and the control register of the PLC are written only by the client; its
other registers show anything.  Any request may fail, after it was applied or
without.  The device logs its accesses, and the log determines the two registers.
-/

namespace RtControl.Plc

/-- What becomes of a request: it is answered, or a failure is reported for it, after it
was applied or without. -/
inductive Fate where
  | answered
  | failed (applied : Bool) (code : UInt8)
  deriving DecidableEq, Repr

/-- A request with its reply, and whether it was applied. -/
structure Access where
  body : Body
  reply : Reply
  applied : Bool
  deriving DecidableEq, Repr

/-- The registers of the PLC and its accesses so far. -/
structure Device where
  memory : Memory
  log : List Access

/-- A PLC with its command and control registers, the fate of each request, and what the
other registers show when the request is served. -/
structure PlcModel where
  command : UInt16
  control : UInt16
  fates : Nat → Fate
  inputs : Nat → Memory

/-- The value of a register after an access. -/
def Access.effect (register word : UInt16) (access : Access) : UInt16 :=
  match access.body with
  | .write address value => if access.applied ∧ address = register then value else word
  | .read _ _ => word

/-- The value of a register after some accesses. -/
def valueAfter (register word : UInt16) (log : List Access) : UInt16 :=
  log.foldl (Access.effect register) word

@[simp]
theorem valueAfter_nil (register word : UInt16) : valueAfter register word [] = word :=
  rfl

theorem valueAfter_append (register word : UInt16) (first second : List Access) :
    valueAfter register word (first ++ second) =
      valueAfter register (valueAfter register word first) second :=
  List.foldl_append

theorem valueAfter_cons (register word : UInt16) (access : Access) (log : List Access) :
    valueAfter register word (access :: log) =
      valueAfter register (access.effect register word) log :=
  rfl

namespace PlcModel

variable (plc : PlcModel)

/-- The registers that only the client writes. -/
def Owned (register : UInt16) : Prop :=
  register = plc.command ∨ register = plc.control

instance (register : UInt16) : Decidable (plc.Owned register) :=
  inferInstanceAs (Decidable (_ ∨ _))

/-- The registers as the next request finds them. -/
def seen (device : Device) : Memory := fun register =>
  if plc.Owned register then device.memory register else plc.inputs device.log.length register

/-- Serve one request. -/
def serve (device : Device) (body : Body) : Device × Reply :=
  let served := memoryServer.serve (plc.seen device) body
  match plc.fates device.log.length with
  | .answered =>
      ({ memory := served.1, log := device.log ++ [⟨body, served.2, true⟩] }, served.2)
  | .failed applied code =>
      ({ memory := if applied then served.1 else plc.seen device
         log := device.log ++ [⟨body, .refused code, applied⟩] }, .refused code)

/-- The PLC as a server. -/
def server : Server Device where
  serve := plc.serve
  conforms := by
    intro device body
    unfold serve
    cases plc.fates device.log.length with
    | answered => exact memoryServer.conforms _ body
    | failed applied code => cases body <;> trivial

variable {plc}

/-- From one state of the device to a later one by the given accesses. -/
structure Extends (plc : PlcModel) (device : Device) (accesses : List Access) (later : Device) :
    Prop where
  log : later.log = device.log ++ accesses
  memory : ∀ register, plc.Owned register →
    later.memory register = valueAfter register (device.memory register) accesses

theorem Extends.refl (device : Device) : Extends plc device [] device where
  log := (List.append_nil _).symm
  memory _ _ := rfl

theorem Extends.trans {first second third : Device} {accesses further : List Access}
    (earlier : Extends plc first accesses second) (later : Extends plc second further third) :
    Extends plc first (accesses ++ further) third where
  log := by rw [later.log, earlier.log, List.append_assoc]
  memory register owned := by
    rw [later.memory register owned, earlier.memory register owned, valueAfter_append]

theorem seen_owned (device : Device) {register : UInt16} (owned : plc.Owned register) :
    plc.seen device register = device.memory register :=
  if_pos owned

theorem effect_serve (memory : Memory) (body : Body) (reply : Reply) (applied : Bool)
    (register : UInt16) :
    (if applied then (memoryServer.serve memory body).1 else memory) register =
      Access.effect register (memory register) ⟨body, reply, applied⟩ := by
  cases body with
  | read start count =>
      have kept : (memoryServer.serve memory (.read start count)).1 = memory := by
        simp only [memoryServer]
        split <;> rfl
      rw [kept, ite_self]
      rfl
  | write address value =>
      cases applied with
      | false => rfl
      | true =>
          simp only [memoryServer, Access.effect, if_true, true_and, Function.update_apply,
            eq_comm (a := register)]

/-- One request is one access, and it applies only to the register it names. -/
theorem extends_serve (device : Device) (body : Body) :
    ∃ applied, Extends plc device [⟨body, (plc.serve device body).2, applied⟩]
      (plc.serve device body).1 := by
  unfold serve
  cases plc.fates device.log.length with
  | answered =>
      refine ⟨true, rfl, ?_⟩
      intro register owned
      rw [valueAfter_cons, valueAfter_nil, ← plc.seen_owned device owned]
      exact effect_serve _ body _ true register
  | failed applied code =>
      refine ⟨applied, rfl, ?_⟩
      intro register owned
      rw [valueAfter_cons, valueAfter_nil, ← plc.seen_owned device owned]
      exact effect_serve _ body _ applied register

/-- A read of an owned register that is answered returns its value. -/
theorem reply_owned {device : Device} {register word : UInt16} (owned : plc.Owned register)
    (answered : (plc.serve device (.read register 1)).2.register? = some word) :
    word = device.memory register := by
  unfold serve at answered
  cases fate : plc.fates device.log.length with
  | failed applied code =>
      rw [fate] at answered
      contradiction
  | answered =>
      rw [fate] at answered
      have bound := register.toNat_lt
      have inRange : 1 ≤ (1 : UInt16).toNat ∧ (1 : UInt16).toNat ≤ 125 ∧
          register.toNat + (1 : UInt16).toNat ≤ 0x10000 := by
        rw [UInt16.toNat_one]
        omega
      simp only [memoryServer, if_pos inRange, Reply.register?, Reply.registers?] at answered
      simp only [Memory.range, UInt16.toNat_one, List.range_one, List.map_cons, List.map_nil,
        Nat.add_zero, UInt16.ofNat_toNat, Option.map_some, List.headD_cons,
        Option.some.injEq] at answered
      rw [← answered, plc.seen_owned device owned]

end PlcModel

end RtControl.Plc
