import RtControl.Ethercat.EcMaster
import RtControl.Ethercat.Cia402Drive
import Mathlib.Data.List.Basic

/-!
# The cyclic exchange of the master

`EcMaster::update`, `readData` and `writeData` exchange the process data of the one domain and
keep what the diagnostics report: when a complete sample was last received, how many reads met
an incomplete working counter, and the states of the master and the slaves.

The master calls its modules through the interface of `EcSlave`, which is a parameter.
`update_counter_` and `check_state_frequency_` belong to the upstream master, so an exchange
comes with the report that it fetches, if it fetches one.
-/

namespace RtControl.Ethercat

universe u v

/-! ## Clock readings -/

/-- The nanoseconds of a second. -/
def second : Nat := 1000000000

theorem second_pos : 0 < second := by decide

/-- A reading of `CLOCK_MONOTONIC`. -/
structure Timespec where
  sec : Nat
  nsec : Nat
  normalized : nsec < second
  deriving DecidableEq

namespace Timespec

/-- A zero-initialised reading. -/
def zero : Timespec :=
  ⟨0, 0, second_pos⟩

/-- The reading in nanoseconds. -/
def nanoseconds (value : Timespec) : Nat :=
  value.sec * second + value.nsec

/-- The lexicographic comparison of `deadline_reached`. -/
def deadlineReached (now deadline : Timespec) : Bool :=
  now.sec > deadline.sec || (now.sec = deadline.sec && now.nsec ≥ deadline.nsec)

theorem deadlineReached_iff (now deadline : Timespec) :
    now.deadlineReached deadline = true ↔ deadline.nanoseconds ≤ now.nanoseconds := by
  have earlier := now.normalized
  have later := deadline.normalized
  simp only [deadlineReached, nanoseconds, Bool.or_eq_true, Bool.and_eq_true, decide_eq_true_eq]
  unfold second at *
  omega

theorem add_normalized (value : Timespec) (milliseconds : Nat) :
    value.nsec + milliseconds % 1000 * 1000000 < 2 * second := by
  have normalized := value.normalized
  unfold second at *
  omega

/-- `add_milliseconds`: one carry is enough for a normalized value. -/
def addMilliseconds (value : Timespec) (milliseconds : Nat) : Timespec :=
  let nsec := value.nsec + milliseconds % 1000 * 1000000
  if overflow : second ≤ nsec then
    { sec := value.sec + milliseconds / 1000 + 1
      nsec := nsec - second
      normalized := by have bound := value.add_normalized milliseconds; omega }
  else
    { sec := value.sec + milliseconds / 1000
      nsec := nsec
      normalized := Nat.lt_of_not_le overflow }

theorem nanoseconds_addMilliseconds (value : Timespec) (milliseconds : Nat) :
    (value.addMilliseconds milliseconds).nanoseconds =
      value.nanoseconds + milliseconds * 1000000 := by
  rw [addMilliseconds]
  split_ifs with overflow
  · simp only [nanoseconds, second] at overflow ⊢
    omega
  · simp only [nanoseconds, second]
    omega

/-- The loop that carries nanoseconds into seconds. -/
def carry (sec nsec : Nat) : Timespec :=
  if overflow : second ≤ nsec then carry (sec + 1) (nsec - second)
  else { sec, nsec, normalized := Nat.lt_of_not_le overflow }
termination_by nsec
decreasing_by
  have positive : 0 < second := by decide
  omega

/-- The next shot: `t.tv_nsec += master_.getInterval()` with its carry. -/
def advance (value : Timespec) (interval : Nat) : Timespec :=
  carry value.sec (value.nsec + interval)

end Timespec

/-! ## The master -/

/-- `EcSlave`, as far as the cyclic exchange calls it.  `receive` is the new process image,
and `processData` stands for the calls over all PDOs of the module. -/
structure EcSlave (μ : Type u) (ι : Type v) where
  receive : ι → μ → μ
  setStateIsOperational : Bool → μ → μ
  processData : μ → μ
  onPdoCycleSent : μ → μ
  initialized : μ → Bool

/-- `ec_wc_state_t`. -/
inductive WcState where
  | zero
  | incomplete
  | complete
  deriving DecidableEq, Repr

/-- `ec_slave_config_state_t`, as far as the driver uses it. -/
structure ConfigState where
  alState : UInt8 := 0
  operational : Bool := false
  deriving DecidableEq, Repr

/-- What `checkMasterState` and `checkSlaveStates` fetch. -/
structure Report where
  linkUp : Bool
  slavesResponding : Nat
  configState : Nat → ConfigState

/-- What a received frame brings: the state of the working counter with the time of its check,
the report that is fetched after it, and the inputs of the modules. -/
structure Received (ι : Type v) where
  wcState : WcState
  time : Timespec
  report : Option Report := none
  inputs : Nat → ι

/-- An entry of `slave_info_` with its module. -/
structure SlaveEntry (μ : Type u) where
  slave : μ
  configState : ConfigState := {}

/-- The data of the master that the cyclic exchange works on. -/
structure Cyclic (μ : Type u) where
  slaves : List (SlaveEntry μ)
  lastCompleteTime : Timespec := .zero
  hasCompleteSample : Bool := false
  workingCounterErrorCount : Nat := 0
  linkUp : Bool := false
  slavesResponding : Nat := 0

section Exchange

variable {μ : Type u} {ι : Type v}

/-- Change the module of an entry. -/
def SlaveEntry.modify (change : μ → μ) (entry : SlaveEntry μ) : SlaveEntry μ :=
  { entry with slave := change entry.slave }

/-- `checkSlaveStates` for one slave: the module hears of a change. -/
def SlaveEntry.checkState (plugin : EcSlave μ ι) (entry : SlaveEntry μ) (state : ConfigState) :
    SlaveEntry μ where
  slave :=
    if state.operational ≠ entry.configState.operational then
      plugin.setStateIsOperational state.operational entry.slave
    else
      entry.slave
  configState := state

namespace Cyclic

/-- `checkDomainState` -/
def checkDomainState (s : Cyclic μ) (received : Received ι) (count : Bool) : Cyclic μ :=
  if received.wcState = .complete then
    { s with lastCompleteTime := received.time, hasCompleteSample := true }
  else if count then
    { s with workingCounterErrorCount := s.workingCounterErrorCount + 1 }
  else
    s

/-- `checkMasterState` and `checkSlaveStates`, in the exchanges that call them. -/
def checkStates (plugin : EcSlave μ ι) (s : Cyclic μ) : Option Report → Cyclic μ
  | none => s
  | some report =>
      { s with
        linkUp := report.linkUp
        slavesResponding := report.slavesResponding
        slaves := s.slaves.mapIdx fun index entry =>
          entry.checkState plugin (report.configState index) }

/-- The frame reaches the modules and the states of the master. -/
def receive (plugin : EcSlave μ ι) (s : Cyclic μ) (received : Received ι) (count : Bool) :
    Cyclic μ :=
  let slaves := s.slaves.mapIdx fun index => SlaveEntry.modify (plugin.receive (received.inputs index))
  ({ s with slaves }.checkDomainState received count).checkStates plugin received.report

/-- The calls of `processData` on all entries of the domain. -/
def processData (plugin : EcSlave μ ι) (s : Cyclic μ) : Cyclic μ :=
  { s with slaves := s.slaves.map (SlaveEntry.modify plugin.processData) }

/-- The prepared image is sent, and the modules are told. -/
def send (plugin : EcSlave μ ι) (s : Cyclic μ) : Cyclic μ :=
  { s with slaves := s.slaves.map (SlaveEntry.modify plugin.onPdoCycleSent) }

/-- `EcMaster::update` -/
def update (plugin : EcSlave μ ι) (s : Cyclic μ) (received : Received ι) : Cyclic μ :=
  ((s.receive plugin received false).processData plugin).send plugin

/-- `EcMaster::readData` -/
def readData (plugin : EcSlave μ ι) (s : Cyclic μ) (received : Received ι) : Cyclic μ :=
  (s.receive plugin received true).processData plugin

/-- `EcMaster::writeData` -/
def writeData (plugin : EcSlave μ ι) (s : Cyclic μ) : Cyclic μ :=
  (s.processData plugin).send plugin

/-- `processDataAgeMs`; `none` is NaN. -/
def processDataAgeMs (s : Cyclic μ) (now : Timespec) : Option ℚ :=
  if s.hasCompleteSample then
    let seconds : ℚ := now.sec - s.lastCompleteTime.sec
    let nanoseconds : ℚ := now.nsec - s.lastCompleteTime.nsec
    some (seconds * 1000 + nanoseconds / 1000000)
  else
    none

/-- `slaveAlState` -/
def slaveAlState (s : Cyclic μ) (index : Nat) : UInt8 :=
  match s.slaves[index]? with
  | some entry => entry.configState.alState
  | none => 0

/-- `configuredSlaveCount` -/
def configuredSlaveCount (s : Cyclic μ) : Nat :=
  s.slaves.length

end Cyclic

theorem checkDomainState_slaves (s : Cyclic μ) (received : Received ι) (count : Bool) :
    (s.checkDomainState received count).slaves = s.slaves := by
  rw [Cyclic.checkDomainState]
  split_ifs <;> rfl

@[simp]
theorem length_update (plugin : EcSlave μ ι) (s : Cyclic μ) (received : Received ι) :
    (s.update plugin received).slaves.length = s.slaves.length := by
  simp only [Cyclic.update, Cyclic.send, Cyclic.processData, Cyclic.receive, List.length_map]
  cases received.report with
  | none => rw [Cyclic.checkStates, checkDomainState_slaves, List.length_mapIdx]
  | some states =>
      simp only [Cyclic.checkStates, checkDomainState_slaves, List.length_mapIdx]

/-- A checked module is told the flag of its slave or nothing. -/
theorem exists_hear (plugin : EcSlave μ ι) (entry : SlaveEntry μ) (state : ConfigState) :
    ∃ hear : μ → μ, (hear = id ∨ ∃ operational, hear = plugin.setStateIsOperational operational) ∧
      (entry.checkState plugin state).slave = hear entry.slave := by
  rw [SlaveEntry.checkState]
  split_ifs
  · exact ⟨_, Or.inr ⟨_, rfl⟩, rfl⟩
  · exact ⟨id, Or.inl rfl, rfl⟩

/-- A module sees only its own inputs, and the flag of its slave when it has changed. -/
theorem getElem?_update {plugin : EcSlave μ ι} {s : Cyclic μ} {received : Received ι} {index : Nat}
    {entry : SlaveEntry μ} (found : (s.update plugin received).slaves[index]? = some entry) :
    ∃ source, s.slaves[index]? = some source ∧ ∃ hear : μ → μ,
      (hear = id ∨ ∃ operational, hear = plugin.setStateIsOperational operational) ∧
      entry.slave = plugin.onPdoCycleSent (plugin.processData
        (hear (plugin.receive (received.inputs index) source.slave))) := by
  simp only [Cyclic.update, Cyclic.send, Cyclic.processData, List.map_map, List.getElem?_map,
    Option.map_eq_some_iff] at found
  obtain ⟨heard, found, rfl⟩ := found
  rw [Cyclic.receive] at found
  cases report : received.report with
  | none =>
      rw [report, Cyclic.checkStates, checkDomainState_slaves, List.getElem?_mapIdx, Option.map_eq_some_iff] at found
      obtain ⟨source, here, rfl⟩ := found
      exact ⟨source, here, id, Or.inl rfl, rfl⟩
  | some states =>
      rw [report] at found
      simp only [Cyclic.checkStates, checkDomainState_slaves, List.getElem?_mapIdx, Option.map_map,
        Option.map_eq_some_iff] at found
      obtain ⟨source, here, rfl⟩ := found
      obtain ⟨hear, flagged, same⟩ := exists_hear plugin
        (source.modify (plugin.receive (received.inputs index))) (states.configState index)
      refine ⟨source, here, hear, flagged, ?_⟩
      exact congrArg (fun slave => plugin.onPdoCycleSent (plugin.processData slave)) same

end Exchange

end RtControl.Ethercat
