import RtControl.Ethercat.BusGate
import Mathlib.Data.List.Nodup
import Mathlib.Data.List.ReduceOption

/-!
# The state interfaces of the driver

`EthercatDriver::read` and `write` exchange process data while the driver is activated, and `read`
copies the diagnostics of the master to the state interfaces of its sensors.  In every run of the
driver these interfaces show what the frames up to the last read have reported.
-/

namespace RtControl.Ethercat

open RtControl.Transition

universe u v w

/-! ## State interfaces -/

/-- A sensor of the hardware component. -/
structure Sensor where
  name : String
  stateInterfaces : List String
  deriving DecidableEq, Repr

/-- `StateInterfaceBinding`, the component and the interface; `none` is not valid. -/
abbrev StateInterfaceBinding :=
  Option (Nat × Nat)

/-- `hw_sensor_states_` -/
abbrev SensorStates :=
  List (List Double)

/-- The loop of `findSensorStateInterface` from a component on. -/
def findFrom (sensorName interfaceName : String) : Nat → List Sensor → StateInterfaceBinding
  | _, [] => none
  | component, sensor :: sensors =>
      if sensor.name ≠ sensorName then
        findFrom sensorName interfaceName (component + 1) sensors
      else
        match sensor.stateInterfaces.findIdx? (· = interfaceName) with
        | some interface => some (component, interface)
        | none => findFrom sensorName interfaceName (component + 1) sensors

/-- `findSensorStateInterface` -/
def findSensorStateInterface (sensors : List Sensor) (sensorName interfaceName : String) :
    StateInterfaceBinding :=
  findFrom sensorName interfaceName 0 sensors

/-- `setSensorState` -/
def setSensorState (binding : StateInterfaceBinding) (value : Double) (states : SensorStates) :
    SensorStates :=
  match binding with
  | none => states
  | some (component, interface) => states.modify component (·.set interface value)

/-- The value of a state interface. -/
def getSensorState (binding : Nat × Nat) (states : SensorStates) : Option Double :=
  states[binding.1]?.bind (·[binding.2]?)

/-- There is a state for every interface. -/
def Shaped (sensors : List Sensor) (states : SensorStates) : Prop :=
  states.map List.length = sensors.map (·.stateInterfaces.length)

section Bindings

variable {sensors : List Sensor} {sensorName interfaceName : String} {binding : Nat × Nat}
variable {states : SensorStates} {value : Double} {component : Nat}

theorem findFrom_eq_some
    (found : findFrom sensorName interfaceName component sensors = some binding) :
    ∃ offset sensor, binding.1 = component + offset ∧ sensors[offset]? = some sensor ∧
      sensor.name = sensorName ∧ sensor.stateInterfaces[binding.2]? = some interfaceName := by
  induction sensors generalizing component with
  | nil => cases found
  | cons head sensors ih =>
      have later (found : findFrom sensorName interfaceName (component + 1) sensors =
          some binding) :
          ∃ offset sensor, binding.1 = component + offset ∧
            (head :: sensors)[offset]? = some sensor ∧
            sensor.name = sensorName ∧ sensor.stateInterfaces[binding.2]? = some interfaceName := by
        obtain ⟨offset, sensor, index, here, names⟩ := ih found
        exact ⟨offset + 1, sensor, by omega, here, names⟩
      rw [findFrom] at found
      split_ifs at found with other
      · exact later found
      · rw [not_not] at other
        split at found
        next interface here =>
          cases found
          refine ⟨0, head, rfl, rfl, other, ?_⟩
          obtain ⟨within, same, -⟩ := List.findIdx?_eq_some_iff_getElem.mp here
          rw [List.getElem?_eq_getElem within]
          exact congrArg some (of_decide_eq_true same)
        next => exact later found

/-- A found binding carries the names that were looked for. -/
theorem findSensorStateInterface_eq_some
    (found : findSensorStateInterface sensors sensorName interfaceName = some binding) :
    ∃ sensor, sensors[binding.1]? = some sensor ∧ sensor.name = sensorName ∧
      sensor.stateInterfaces[binding.2]? = some interfaceName := by
  obtain ⟨offset, sensor, index, here, names⟩ := findFrom_eq_some found
  rw [Nat.zero_add] at index
  exact ⟨sensor, index ▸ here, names⟩

/-- Different names are bound to different interfaces. -/
theorem names_of_binding {otherSensor otherInterface : String}
    (first : findSensorStateInterface sensors sensorName interfaceName = some binding)
    (second : findSensorStateInterface sensors otherSensor otherInterface = some binding) :
    sensorName = otherSensor ∧ interfaceName = otherInterface := by
  obtain ⟨sensor, here, name, interface⟩ := findSensorStateInterface_eq_some first
  obtain ⟨other, there, otherName, otherInterface⟩ := findSensorStateInterface_eq_some second
  rw [here] at there
  cases there
  rw [interface] at otherInterface
  exact ⟨name.symm.trans otherName, Option.some.inj otherInterface⟩

theorem shaped_setSensorState (shaped : Shaped sensors states) (found : StateInterfaceBinding) :
    Shaped sensors (setSensorState found value states) := by
  cases found with
  | none => exact shaped
  | some binding =>
      rw [Shaped, ← shaped, setSensorState]
      refine List.ext_getElem? fun index => ?_
      simp only [List.getElem?_map, List.getElem?_modify, Option.map_eq_map, Option.map_map]
      congr 1
      funext row
      rw [Function.comp_apply]
      split_ifs
      · exact List.length_set
      · rfl

/-- A written interface holds its value. -/
theorem getSensorState_set (shaped : Shaped sensors states)
    (found : findSensorStateInterface sensors sensorName interfaceName = some binding) :
    getSensorState binding (setSensorState (some binding) value states) = some value := by
  obtain ⟨sensor, here, -, interface⟩ := findSensorStateInterface_eq_some found
  have lengths := congrArg (·[binding.1]?) shaped
  simp only [List.getElem?_map, here, Option.map_some] at lengths
  obtain ⟨row, there, length⟩ := Option.map_eq_some_iff.mp lengths
  have within : binding.2 < row.length := by
    rw [length]
    exact (List.getElem?_eq_some_iff.mp interface).1
  rw [getSensorState, setSensorState, List.getElem?_modify, there]
  simp only [if_true, Option.map_eq_map, Option.map_some, Option.bind_some]
  exact List.getElem?_set_self within

/-- The other interfaces keep their values. -/
theorem getSensorState_set_of_ne {other : Nat × Nat} (different : other ≠ binding) :
    getSensorState binding (setSensorState (some other) value states) =
      getSensorState binding states := by
  rw [getSensorState, getSensorState, setSensorState, List.getElem?_modify]
  split_ifs with component
  · cases states[binding.1]? with
    | none => rfl
    | some row =>
        have interface : other.2 ≠ binding.2 := fun same => different (Prod.ext component same)
        simp only [Option.map_eq_map, Option.map_some, Option.bind_some]
        exact List.getElem?_set_ne interface
  · rw [Option.map_eq_map, Option.map_id']

end Bindings

/-! ## The table of the diagnostics -/

/-- A value with the names of its state interface. -/
structure DiagnosticRow where
  sensor : String
  interface : String
  value : Double
  deriving DecidableEq

/-- The writes of a table, each to the interface of its names. -/
def writeRows (sensors : List Sensor) (rows : List DiagnosticRow) (states : SensorStates) :
    SensorStates :=
  rows.foldl
    (fun states row =>
      setSensorState (findSensorStateInterface sensors row.sensor row.interface) row.value states)
    states

section Rows

variable {sensors : List Sensor} {rows : List DiagnosticRow} {states : SensorStates}
variable {binding : Nat × Nat}

theorem shaped_writeRows (shaped : Shaped sensors states) :
    Shaped sensors (writeRows sensors rows states) := by
  induction rows generalizing states with
  | nil => exact shaped
  | cons row rows ih => exact ih (shaped_setSensorState shaped _)

/-- An interface that no row names keeps its value. -/
theorem getSensorState_writeRows_of_ne
    (unnamed : ∀ row ∈ rows,
      findSensorStateInterface sensors row.sensor row.interface ≠ some binding) :
    getSensorState binding (writeRows sensors rows states) = getSensorState binding states := by
  induction rows generalizing states with
  | nil => rfl
  | cons row rows ih =>
      rw [writeRows, List.foldl_cons]
      refine (ih fun other member => unnamed other (List.mem_cons_of_mem row member)).trans ?_
      cases found : findSensorStateInterface sensors row.sensor row.interface with
      | none => rfl
      | some other =>
          refine getSensorState_set_of_ne fun same => ?_
          exact unnamed row List.mem_cons_self (same ▸ found)

/-- Rows with different names all reach their interfaces. -/
theorem getSensorState_writeRows (shaped : Shaped sensors states)
    (distinct : (rows.map fun row => (row.sensor, row.interface)).Nodup) {row : DiagnosticRow}
    (member : row ∈ rows)
    (found : findSensorStateInterface sensors row.sensor row.interface = some binding) :
    getSensorState binding (writeRows sensors rows states) = some row.value := by
  induction rows generalizing states with
  | nil => cases member
  | cons head rows ih =>
      rw [List.map_cons, List.nodup_cons] at distinct
      rw [writeRows, List.foldl_cons]
      rcases List.mem_cons.mp member with rfl | member
      · refine (getSensorState_writeRows_of_ne fun other listed same => ?_).trans ?_
        · obtain ⟨sensor, interface⟩ := names_of_binding same found
          exact distinct.1 (List.mem_map.mpr ⟨other, listed, Prod.ext sensor interface⟩)
        · rw [found]
          exact getSensorState_set shaped found
      · exact ih (shaped_setSensorState shaped _) distinct.2 member

end Rows

/-! ## The driver -/

/-- The hardware component: its sensors, and the position parameters of its modules. -/
structure DiagnosticConfig where
  sensors : List Sensor
  positions : List (Option String)

/-- What the master knows for the diagnostics.  The number of errors is exact: the counter has 64
bits, goes on over activations, and reaches the interfaces as a double, which holds every number up
to `2 ^ 53`. -/
structure MasterDiagnostics where
  lastComplete : Option Timespec
  workingCounterErrorCount : Nat
  linkUp : Bool
  slavesResponding : Nat
  alStates : List UInt8

/-- `processDataAgeMs` of a last complete frame, in exact milliseconds. -/
def ageMs (now complete : Timespec) : ℚ :=
  ((now.sec : ℚ) - complete.sec) * 1000 + ((now.nsec : ℚ) - complete.nsec) / 1000000

/-- The row of a slave with a position. -/
def slaveRow (slave : Option String × UInt8) : Option DiagnosticRow :=
  slave.1.map fun position => ⟨"ethercat_slave_" ++ position, "al_state", some slave.2.toNat⟩

/-- The rows of `updateDiagnosticStateInterfaces`, in the order of its writes. -/
def MasterDiagnostics.rows (positions : List (Option String)) (now : Timespec)
    (d : MasterDiagnostics) : List DiagnosticRow :=
  [⟨"ethercat_domain", "process_data_age_ms", d.lastComplete.map (ageMs now)⟩,
    ⟨"ethercat_master", "link_up", some (if d.linkUp then 1 else 0)⟩,
    ⟨"ethercat_master", "slaves_responding", some d.slavesResponding⟩,
    ⟨"ethercat_master", "wc_error_count", some d.workingCounterErrorCount⟩] ++
    (positions.zip d.alStates).filterMap slaveRow

section Driver

variable {μ : Type u} {ι : Type v} {κ : Type w}

/-- The diagnostics of the master. -/
def Cyclic.diagnostics (s : Cyclic μ) : MasterDiagnostics where
  lastComplete := if s.hasCompleteSample then some s.lastCompleteTime else none
  workingCounterErrorCount := s.workingCounterErrorCount
  linkUp := s.linkUp
  slavesResponding := s.slavesResponding
  alStates := s.slaves.map fun entry => entry.configState.alState

/-- `slave_al_state_bindings_` -/
def DiagnosticConfig.slaveAlStateBindings (config : DiagnosticConfig) :
    List StateInterfaceBinding :=
  config.positions.map fun position =>
    position.bind fun position =>
      findSensorStateInterface config.sensors ("ethercat_slave_" ++ position) "al_state"

/-- `updateDiagnosticStateInterfaces` -/
def DiagnosticConfig.updateDiagnosticStateInterfaces (config : DiagnosticConfig) (s : Cyclic μ)
    (now : Timespec) (states : SensorStates) : SensorStates :=
  let find := findSensorStateInterface config.sensors
  let states := setSensorState (find "ethercat_domain" "process_data_age_ms")
    (s.processDataAgeMs now) states
  let states := setSensorState (find "ethercat_master" "link_up")
    (some (if s.linkUp then 1 else 0)) states
  let states := setSensorState (find "ethercat_master" "slaves_responding")
    (some s.slavesResponding) states
  let states := setSensorState (find "ethercat_master" "wc_error_count")
    (some s.workingCounterErrorCount) states
  (List.range (min s.configuredSlaveCount config.slaveAlStateBindings.length)).foldl
    (fun states slave => setSensorState (config.slaveAlStateBindings[slave]?.join)
      (some (s.slaveAlState slave).toNat) states) states

/-- The driver with the states of its sensors. -/
structure DriverState (μ : Type u) extends CyclicDriver μ where
  sensorStates : SensorStates

/-- The upstream part of `on_activate`. -/
abbrev BringUp (μ : Type u) :=
  EcMaster × Cyclic μ → (EcMaster × Cyclic μ) × Bool

/-- The calls of the controller manager and the writes of the controllers. -/
inductive DriverEvent (μ : Type u) (ι : Type v) (κ : Type w) where
  | onActivate (upstream : BringUp μ) (parameters : HardwareParameters) (startup : Startup ι)
  | onDeactivate (bus : Bus)
  | read (received : Received ι) (now : Timespec)
  | write
  | setCommand (index : Nat) (command : κ)

/-- One call.  `read` and `write` look at `activated_`. -/
def driverStep (plugin : EcAxis μ ι κ) (config : DiagnosticConfig) :
    Step (DriverState μ) (DriverEvent μ ι κ)
  | d, .onActivate upstream parameters startup =>
      (d.toCyclicDriver.onActivate plugin.toEcSlave upstream parameters startup).map fun started =>
        { d with toCyclicDriver := started.1 }
  | d, .onDeactivate bus =>
      (d.toEthercatDriver.onDeactivate bus).map fun stopped =>
        { d with toEthercatDriver := stopped.1 }
  | d, .read received now =>
      if d.activated then
        let cyclic := d.cyclic.readData plugin.toEcSlave received
        some { d with
          cyclic
          sensorStates := config.updateDiagnosticStateInterfaces cyclic now d.sensorStates }
      else
        some d
  | d, .write =>
      some (if d.activated then { d with cyclic := d.cyclic.writeData plugin.toEcSlave } else d)
  | d, .setCommand index command =>
      some { d with cyclic := d.cyclic.exchange plugin (.setCommand index command) }

/-! ## What the frames have reported -/

/-- The diagnostics after the frames of some reads. -/
def MasterDiagnostics.after (d : MasterDiagnostics) (frames : List (Received ι)) :
    MasterDiagnostics where
  lastComplete :=
    ((frames.filter (·.wcState = .complete)).getLast?.map (·.time)).or d.lastComplete
  workingCounterErrorCount :=
    d.workingCounterErrorCount + frames.countP (·.wcState ≠ .complete)
  linkUp := ((frames.filterMap (·.report)).getLast?.map (·.linkUp)).getD d.linkUp
  slavesResponding :=
    ((frames.filterMap (·.report)).getLast?.map (·.slavesResponding)).getD d.slavesResponding
  alStates := d.alStates.mapIdx fun index alState =>
    ((frames.filterMap (·.report)).getLast?.map fun report =>
      (report.configState index).alState).getD alState

/-- The master as `on_activate` has left it, the frames of the reads since then, and both with the
time of the last read that has been made. -/
structure DriverHistory (ι : Type v) where
  base : MasterDiagnostics
  frames : List (Received ι) := []
  published : Option (MasterDiagnostics × List (Received ι) × Timespec) := none

/-- The history of every call. -/
def recordDriver (d : DriverState μ) (event : DriverEvent μ ι κ) (t : DriverState μ)
    (history : DriverHistory ι) : DriverHistory ι :=
  match event with
  | .onActivate .. => { history with base := t.cyclic.diagnostics, frames := [] }
  | .read received now =>
      if d.activated then
        { history with
          frames := history.frames ++ [received]
          published := some (history.base, history.frames ++ [received], now) }
      else
        history
  | _ => history

variable {plugin : EcAxis μ ι κ} {config : DiagnosticConfig} {s : Cyclic μ} {now : Timespec}
variable {states : SensorStates} {d : MasterDiagnostics} {frames : List (Received ι)}
variable {received : Received ι}

/-! ## One update of the interfaces -/

theorem processDataAgeMs_eq : s.processDataAgeMs now = s.diagnostics.lastComplete.map (ageMs now) := by
  rw [Cyclic.processDataAgeMs, Cyclic.diagnostics]
  split_ifs <;> rfl

/-- The loop over the slaves writes a row for every slave with a position. -/
theorem foldl_slaves {slaves : Nat}
    (within : slaves ≤ min s.configuredSlaveCount config.slaveAlStateBindings.length) :
    (List.range slaves).foldl
        (fun states slave => setSensorState (config.slaveAlStateBindings[slave]?.join)
          (some (s.slaveAlState slave).toNat) states) states =
      writeRows config.sensors
        (((config.positions.zip s.diagnostics.alStates).take slaves).filterMap slaveRow)
        states := by
  induction slaves with
  | zero => rfl
  | succ slaves ih =>
      have inside : slaves < s.slaves.length ∧ slaves < config.positions.length := by
        rw [DiagnosticConfig.slaveAlStateBindings, List.length_map] at within
        exact lt_min_iff.mp within
      obtain ⟨entry, here⟩ : ∃ entry, s.slaves[slaves]? = some entry :=
        ⟨_, List.getElem?_eq_getElem inside.1⟩
      obtain ⟨position, there⟩ : ∃ position, config.positions[slaves]? = some position :=
        ⟨_, List.getElem?_eq_getElem inside.2⟩
      have pair : (config.positions.zip s.diagnostics.alStates)[slaves]? =
          some (position, entry.configState.alState) := by
        rw [List.getElem?_zip_eq_some]
        refine ⟨there, ?_⟩
        rw [Cyclic.diagnostics, List.getElem?_map, here, Option.map_some]
      have bound : config.slaveAlStateBindings[slaves]?.join = position.bind fun position =>
          findSensorStateInterface config.sensors ("ethercat_slave_" ++ position) "al_state" := by
        rw [DiagnosticConfig.slaveAlStateBindings, List.getElem?_map, there, Option.map_some,
          Option.join_some]
      have state : s.slaveAlState slaves = entry.configState.alState := by
        rw [Cyclic.slaveAlState, here]
      rw [List.range_succ, List.foldl_append, ih (Nat.le_of_succ_le within), List.take_add_one,
        pair, List.filterMap_append, writeRows, writeRows, List.foldl_append, List.foldl_cons,
        List.foldl_nil, bound, state]
      cases position <;> rfl

/-- The update writes the rows of the diagnostics. -/
theorem updateDiagnosticStateInterfaces_eq :
    config.updateDiagnosticStateInterfaces s now states =
      writeRows config.sensors (s.diagnostics.rows config.positions now) states := by
  rw [DiagnosticConfig.updateDiagnosticStateInterfaces, MasterDiagnostics.rows,
    foldl_slaves (Nat.le_refl _), processDataAgeMs_eq]
  have complete : (config.positions.zip s.diagnostics.alStates).length =
      min s.configuredSlaveCount config.slaveAlStateBindings.length := by
    rw [List.length_zip, Cyclic.diagnostics, List.length_map, Cyclic.configuredSlaveCount,
      DiagnosticConfig.slaveAlStateBindings, List.length_map, Nat.min_comm]
  rw [← complete, List.take_length]
  rfl

/-- Different positions have different rows. -/
theorem nodup_rows (distinct : config.positions.reduceOption.Nodup) (d : MasterDiagnostics) :
    ((d.rows config.positions now).map fun row => (row.sensor, row.interface)).Nodup := by
  have names (slaves : List (Option String × UInt8)) :
      ((slaves.filterMap slaveRow).map fun row => (row.sensor, row.interface)) =
        (slaves.map Prod.fst).reduceOption.map
          fun position => ("ethercat_slave_" ++ position, "al_state") := by
    rw [List.map_filterMap, List.reduceOption, List.filterMap_map, List.map_filterMap]
    refine List.filterMap_congr fun slave _ => ?_
    obtain ⟨position, alState⟩ := slave
    cases position <;> rfl
  have sub : ((config.positions.zip d.alStates).map Prod.fst).Sublist config.positions := by
    rw [List.zip_eq_zip_take_min, List.map_fst_zip]
    · exact List.take_sublist _ _
    · rw [List.length_take, List.length_take]
      omega
  have slaves : ((((config.positions.zip d.alStates).map Prod.fst).reduceOption).map
      fun position => ("ethercat_slave_" ++ position, "al_state")).Nodup := by
    refine List.Nodup.map (fun first second same => ?_) (distinct.sublist (sub.filterMap _))
    exact (String.append_right_inj _).mp (Prod.mk.inj same).1
  rw [MasterDiagnostics.rows, List.map_append, names]
  have master : [("ethercat_domain", "process_data_age_ms"), ("ethercat_master", "link_up"),
      ("ethercat_master", "slaves_responding"), ("ethercat_master", "wc_error_count")].Nodup := by
    decide
  refine List.Nodup.append master slaves ?_
  intro name first second
  obtain ⟨position, -, rfl⟩ := List.mem_map.mp second
  simp at first

/-- After the update every bound row shows its value. -/
theorem getSensorState_update (shaped : Shaped config.sensors states)
    (distinct : config.positions.reduceOption.Nodup) {row : DiagnosticRow}
    (member : row ∈ s.diagnostics.rows config.positions now) {binding : Nat × Nat}
    (found : findSensorStateInterface config.sensors row.sensor row.interface = some binding) :
    getSensorState binding (config.updateDiagnosticStateInterfaces s now states) =
      some row.value := by
  rw [updateDiagnosticStateInterfaces_eq]
  exact getSensorState_writeRows shaped (nodup_rows distinct s.diagnostics) member found

/-! ## One call of the driver -/

/-- The reports of a longer sequence of frames. -/
theorem after_concat (d : MasterDiagnostics) (frames : List (Received ι)) (received : Received ι) :
    d.after (frames ++ [received]) = (d.after frames).after [received] := by
  have latest {α : Type} (value : Report → α) (default : α) :
      (((frames ++ [received]).filterMap (·.report)).getLast?.map value).getD default =
        (([received].filterMap (·.report)).getLast?.map value).getD
          (((frames.filterMap (·.report)).getLast?.map value).getD default) := by
    rw [List.filterMap_append, List.getLast?_append, Option.map_or, Option.getD_or]
  simp only [MasterDiagnostics.after, MasterDiagnostics.mk.injEq, latest, List.mapIdx_mapIdx]
  refine ⟨?_, ?_, trivial, trivial, rfl⟩
  · rw [List.filter_append, List.getLast?_append, Option.map_or, Option.or_assoc]
  · rw [List.countP_append, Nat.add_assoc]

theorem alStates_modify (s : Cyclic μ) (change : SlaveEntry μ → SlaveEntry μ)
    (kept : ∀ entry, (change entry).configState = entry.configState) :
    (s.slaves.map change).map (fun entry => entry.configState.alState) =
      s.slaves.map fun entry => entry.configState.alState := by
  rw [List.map_map]
  refine List.map_congr_left fun entry _ => ?_
  rw [Function.comp_apply, kept]

theorem diagnostics_processData (plugin : EcSlave μ ι) (s : Cyclic μ) :
    (s.processData plugin).diagnostics = s.diagnostics :=
  congrArg (MasterDiagnostics.mk _ _ _ _) (alStates_modify s _ fun _ => rfl)

theorem diagnostics_writeData (plugin : EcSlave μ ι) (s : Cyclic μ) :
    (s.writeData plugin).diagnostics = s.diagnostics := by
  rw [← diagnostics_processData plugin s]
  exact congrArg (MasterDiagnostics.mk _ _ _ _)
    (alStates_modify (s.processData plugin) (SlaveEntry.modify plugin.onPdoCycleSent) fun _ => rfl)

theorem diagnostics_setCommand (plugin : EcAxis μ ι κ) (s : Cyclic μ) (index : Nat) (command : κ) :
    (s.exchange plugin (.setCommand index command)).diagnostics = s.diagnostics := by
  refine congrArg (MasterDiagnostics.mk _ _ _ _) (List.ext_getElem? fun other => ?_)
  simp only [Cyclic.exchange, List.getElem?_map, List.getElem?_modify, Option.map_eq_map,
    Option.map_map]
  congr 1
  funext entry
  rw [Function.comp_apply]
  split_ifs <;> rfl

theorem diagnostics_checkDomainState (s : Cyclic μ) (received : Received ι) :
    (s.checkDomainState received true).diagnostics =
      { s.diagnostics with
        lastComplete :=
          if received.wcState = .complete then some received.time else s.diagnostics.lastComplete
        workingCounterErrorCount := s.workingCounterErrorCount +
          if received.wcState = .complete then 0 else 1 } := by
  rw [Cyclic.checkDomainState]
  by_cases complete : received.wcState = .complete
  · simp only [if_pos complete]
    rfl
  · simp only [if_neg complete, if_true]
    rfl

theorem diagnostics_checkStates (plugin : EcSlave μ ι) (s : Cyclic μ) (report : Option Report) :
    (s.checkStates plugin report).diagnostics =
      match report with
      | none => s.diagnostics
      | some report =>
          { s.diagnostics with
            linkUp := report.linkUp
            slavesResponding := report.slavesResponding
            alStates := s.diagnostics.alStates.mapIdx fun index _ =>
              (report.configState index).alState } := by
  cases report with
  | none => rfl
  | some report =>
      refine congrArg (MasterDiagnostics.mk _ _ _ _) (List.ext_getElem? fun index => ?_)
      simp only [Cyclic.checkStates, Cyclic.diagnostics, List.getElem?_map, List.getElem?_mapIdx,
        Option.map_map]
      rfl

/-- A read takes the diagnostics from its frame. -/
theorem diagnostics_readData (plugin : EcSlave μ ι) (s : Cyclic μ) (received : Received ι) :
    (s.readData plugin received).diagnostics = s.diagnostics.after [received] := by
  have heard : Cyclic.diagnostics { s with
      slaves := s.slaves.mapIdx fun index =>
        SlaveEntry.modify (plugin.receive (received.inputs index)) } = s.diagnostics := by
    refine congrArg (MasterDiagnostics.mk _ _ _ _) (List.ext_getElem? fun index => ?_)
    simp only [List.getElem?_map, List.getElem?_mapIdx, Option.map_map]
    rfl
  rw [Cyclic.readData, diagnostics_processData, Cyclic.receive, diagnostics_checkStates,
    diagnostics_checkDomainState, heard, MasterDiagnostics.after]
  have same (alStates : List UInt8) : (alStates.mapIdx fun _ alState => alState) = alStates :=
    List.ext_getElem? fun index => by rw [List.getElem?_mapIdx, Option.map_id']
  have frame : received.wcState = .complete ∨ received.wcState ≠ .complete := em _
  rcases frame with complete | incomplete
  · cases report : received.report with
    | none => simp [complete, report, Cyclic.diagnostics, same]
    | some states => simp [complete, report, Cyclic.diagnostics]
  · cases report : received.report with
    | none => simp [incomplete, report, Cyclic.diagnostics, same]
    | some states => simp [incomplete, report, Cyclic.diagnostics]

/-! ## Whole runs -/

theorem hasCompleteSample_update {plugin : EcSlave μ ι} (sampled : s.hasCompleteSample = true) :
    (s.update plugin received).hasCompleteSample = true := by
  have checked : (s.receive plugin received false).hasCompleteSample = true := by
    rw [Cyclic.receive, Cyclic.checkStates.eq_def]
    split
    all_goals
      rw [Cyclic.checkDomainState]
      by_cases complete : received.wcState = .complete
      · rw [if_pos complete]
      · rw [if_neg complete, if_neg Bool.false_ne_true]
        exact sampled
  exact checked

/-- A started master has received a complete frame. -/
theorem sampled_of_onActivate {plugin : EcSlave μ ι} {upstream : BringUp μ} {d e : CyclicDriver μ}
    {parameters : HardwareParameters} {startup : Startup ι}
    (started : d.onActivate plugin upstream parameters startup = some (e, .success)) :
    e.cyclic.hasCompleteSample = true := by
  obtain ⟨_, _, _, cyclic, _, _, bus, preload, ready, initialized, rfl⟩ :=
    onActivate_success_iff.mp started
  have later : ∀ cycle, bus ≤ cycle →
      (startup.masterAfter plugin cyclic (cycle + 1)).hasCompleteSample = true := by
    intro cycle after
    induction cycle, after using Nat.le_induction with
    | base => exact ready.ready.sampled
    | succ cycle _ ih => exact hasCompleteSample_update ih
  exact later preload (Nat.le_of_lt initialized.after)

theorem onActivate_of_activated {plugin : EcSlave μ ι} {upstream : BringUp μ} {d : CyclicDriver μ}
    (parameters : HardwareParameters) (startup : Startup ι) (active : d.activated = true) :
    d.onActivate plugin upstream parameters startup =
      some (d, .failed (.error .doubleOnActivate)) := by
  rw [CyclicDriver.onActivate, CyclicDriver.checkParameters, if_pos active]

/-- The invariant: the diagnostics of the master are those of the frames since its start, and the
interfaces show those of the last read. -/
structure Published (config : DiagnosticConfig) (d : DriverState μ) (history : DriverHistory ι) :
    Prop where
  shaped : Shaped config.sensors d.sensorStates
  reported : d.cyclic.diagnostics = history.base.after history.frames
  sampled : d.activated = true → d.cyclic.diagnostics.lastComplete.isSome = true
  shown : ∀ base frames now, history.published = some (base, frames, now) →
    (base.after frames).lastComplete.isSome = true ∧
      ∀ row ∈ (base.after frames).rows config.positions now, ∀ binding,
        findSensorStateInterface config.sensors row.sensor row.interface = some binding →
          getSensorState binding d.sensorStates = some row.value

theorem after_nil (d : MasterDiagnostics) : d.after ([] : List (Received ι)) = d := by
  have same (alStates : List UInt8) : (alStates.mapIdx fun _ alState => alState) = alStates :=
    List.ext_getElem? fun index => by rw [List.getElem?_mapIdx, Option.map_id']
  simp [MasterDiagnostics.after, same]

theorem lastComplete_after (sampled : d.lastComplete.isSome = true) :
    (d.after frames).lastComplete.isSome = true := by
  rw [MasterDiagnostics.after, Option.isSome_or, sampled, Bool.or_true]

variable {state target : DriverState μ} {history : DriverHistory ι} {event : DriverEvent μ ι κ}

/-- Every call keeps the invariant. -/
theorem published_step (distinct : config.positions.reduceOption.Nodup)
    (published : Published config state history)
    (stepped : driverStep plugin config state event = some target) :
    Published config target (recordDriver state event target history) := by
  cases event with
  | onActivate upstream parameters startup =>
      obtain ⟨⟨e, result⟩, started, rfl⟩ := Option.map_eq_some_iff.mp stepped
      refine ⟨published.shaped, (after_nil _).symm, fun active => ?_, published.shown⟩
      by_cases before : state.activated = true
      · rw [onActivate_of_activated parameters startup before] at started
        cases started
        exact published.sampled before
      · have success : result = .success := by
          have active : e.activated = true := active
          rw [activated_of_onActivate started, Bool.eq_false_iff.mpr before, Bool.false_or,
            decide_eq_true_eq] at active
          exact active
        rw [success] at started
        have sampled := sampled_of_onActivate started
        show e.cyclic.diagnostics.lastComplete.isSome = true
        rw [Cyclic.diagnostics, sampled, if_pos rfl]
        rfl
  | onDeactivate bus =>
      obtain ⟨stopped, called, rfl⟩ := Option.map_eq_some_iff.mp stepped
      refine ⟨published.shaped, published.reported, fun active => ?_, published.shown⟩
      obtain ⟨answer, -, rfl⟩ := Option.map_eq_some_iff.mp called
      cases active
  | read received now =>
      rw [driverStep] at stepped
      split_ifs at stepped with active
      · cases stepped
        have after := diagnostics_readData plugin.toEcSlave state.cyclic received
        have frames : (state.cyclic.readData plugin.toEcSlave received).diagnostics =
            history.base.after (history.frames ++ [received]) := by
          rw [after, published.reported, after_concat]
        have sampled : (history.base.after (history.frames ++ [received])).lastComplete.isSome =
            true := by
          rw [← frames, after]
          exact lastComplete_after (published.sampled active)
        rw [recordDriver, if_pos active]
        refine ⟨?_, frames, fun _ => frames ▸ sampled, ?_⟩
        · show Shaped config.sensors (config.updateDiagnosticStateInterfaces _ _ _)
          rw [updateDiagnosticStateInterfaces_eq]
          exact shaped_writeRows published.shaped
        · intro base shown time same
          cases same
          refine ⟨sampled, ?_⟩
          rw [← frames]
          exact fun row member binding found =>
            getSensorState_update published.shaped distinct member found
      · cases stepped
        rw [recordDriver, if_neg active]
        exact published
  | write =>
      cases stepped
      show Published config _ history
      split_ifs with active
      · have same := diagnostics_writeData plugin.toEcSlave state.cyclic
        exact ⟨published.shaped, same.trans published.reported,
          fun _ => (congrArg (fun d => d.lastComplete.isSome) same).trans (published.sampled active),
          published.shown⟩
      · exact published
  | setCommand index command =>
      cases stepped
      have same := diagnostics_setCommand plugin state.cyclic index command
      exact ⟨published.shaped, same.trans published.reported,
        fun active => (congrArg (fun d => d.lastComplete.isSome) same).trans
          (published.sampled active), published.shown⟩

/-- **Diagnostics of the bus.**  In every run of the driver, across activations and deactivations,
the state interfaces show what the last read has found: the age of the last complete frame, which
is never missing, the number of incomplete frames that were read so far, and the latest states of
the master and its slaves. -/
theorem interfaces_show_last_read (plugin : EcAxis μ ι κ) (config : DiagnosticConfig)
    (distinct : config.positions.reduceOption.Nodup) {start : DriverState μ}
    (shaped : Shaped config.sensors start.sensorStates) (inactive : start.activated = false)
    {s : DriverState μ × DriverHistory ι}
    (reachable : Reachable (observed (driverStep plugin config) recordDriver) unguarded
      (start, { base := start.cyclic.diagnostics }) s)
    {base : MasterDiagnostics} {frames : List (Received ι)} {now : Timespec}
    (published : s.2.published = some (base, frames, now)) :
    (base.after frames).lastComplete.isSome = true ∧
      ∀ row ∈ (base.after frames).rows config.positions now, ∀ binding,
        findSensorStateInterface config.sensors row.sensor row.interface = some binding →
          getSensorState binding s.1.sensorStates = some row.value := by
  have invariant : Published config s.1 s.2 := by
    refine reachable.invariant
      (fun s : DriverState μ × DriverHistory ι => Published config s.1 s.2) ?_ ?_
    · refine ⟨shaped, (after_nil _).symm, fun active => ?_, fun base frames now none => ?_⟩
      · exact absurd (inactive.symm.trans active) Bool.false_ne_true
      · cases none
    · intro source target event published _ stepped
      obtain ⟨moved, recorded⟩ := observed_eq_some_iff.mp stepped
      rw [recorded]
      exact published_step distinct published moved
  exact invariant.shown base frames now published

end Driver

/-- The sensors of a bus with the turn motor. -/
def turnDiagnostics : DiagnosticConfig where
  sensors := [⟨"ethercat_domain", ["process_data_age_ms"]⟩,
    ⟨"ethercat_master", ["link_up", "slaves_responding", "wc_error_count"]⟩,
    ⟨"ethercat_slave_14", ["al_state"]⟩]
  positions := [some "14"]

/-- A read frame whose working counter is incomplete. -/
def turnFrame : Received (ℕ → Double) :=
  { ((turnStartup 0x23).cycle 2).received with wcState := .incomplete }

theorem interfaces_show_last_read_of_turn :
    ∃ (e : CyclicDriver (DriveModule Bool)) (s : DriverState (DriveModule Bool)),
      turnDriver.onActivate (driveSlave turnUpstream) turnBring turnParameters
          (turnStartup 0x23) = some (e, .success) ∧
        getSensorState (1, 2) s.sensorStates =
          some (some ((e.cyclic.diagnostics.after [turnFrame]).workingCounterErrorCount : ℚ)) := by
  obtain ⟨e, started⟩ := turn_started
  have active : e.activated = true := by
    rw [activated_of_onActivate started]
    rfl
  let start : DriverState (DriveModule Bool) :=
    { turnDriver with sensorStates := [[none], [none, none, none], [none]] }
  let begun : DriverState (DriveModule Bool) := { start with toCyclicDriver := e }
  have activates : observed (driverStep (driveAxis turnUpstream) turnDiagnostics) recordDriver
      (start, { base := start.cyclic.diagnostics })
      (.onActivate turnBring turnParameters (turnStartup 0x23)) =
        some (begun, { base := e.cyclic.diagnostics }) := by
    refine observed_eq_some_iff.mpr ⟨?_, rfl⟩
    exact Option.map_eq_some_iff.mpr ⟨(e, .success), started, rfl⟩
  obtain ⟨s, reads⟩ : ∃ s : DriverState (DriveModule Bool),
      observed (driverStep (driveAxis turnUpstream) turnDiagnostics) recordDriver
        (begun, { base := e.cyclic.diagnostics }) (.read turnFrame (fullSecond 9)) =
          some (s, {
            base := e.cyclic.diagnostics
            frames := [turnFrame]
            published := some (e.cyclic.diagnostics, [turnFrame], fullSecond 9) }) := by
    refine ⟨_, observed_eq_some_iff.mpr ⟨if_pos active, ?_⟩⟩
    rw [recordDriver]
    exact (if_pos active).symm
  have reachable := (Reachable.single _ rfl activates).tail _ (rfl : unguarded _ _ = true) reads
  have shaped : Shaped turnDiagnostics.sensors start.sensorStates := rfl
  have shows := (interfaces_show_last_read (driveAxis turnUpstream) turnDiagnostics (by decide)
    shaped rfl reachable rfl).2
  have bound : findSensorStateInterface turnDiagnostics.sensors "ethercat_master"
      "wc_error_count" = some (1, 2) := by
    decide
  refine ⟨e, s, started, ?_⟩
  exact shows ⟨"ethercat_master", "wc_error_count", _⟩ (by simp [MasterDiagnostics.rows]) (1, 2)
    bound


end RtControl.Ethercat
