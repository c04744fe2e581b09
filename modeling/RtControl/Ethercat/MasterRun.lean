import RtControl.Ethercat.Exchange

/-!
# Runs of the master

Between its activation and its deactivation the master goes through exchanges, in any order, while
the controllers write to the command interfaces.  A property of the modules that every call keeps
holds along all runs, and a map of the modules that commutes with the calls commutes with the runs.
-/

namespace RtControl.Ethercat

universe u v w

/-! ## Runs -/

/-- A module with what the controllers do to its command interfaces. -/
structure EcAxis (μ : Type u) (ι : Type v) (κ : Type w) extends EcSlave μ ι where
  setCommand : κ → μ → μ

/-- The exchanges of the master and the writes of the controllers. -/
inductive BusEvent (ι : Type v) (κ : Type w) where
  | update (received : Received ι)
  | readData (received : Received ι)
  | setCommand (index : Nat) (command : κ)
  | writeData

/-- Whether the image is sent. -/
def BusEvent.sends {ι : Type v} {κ : Type w} : BusEvent ι κ → Bool
  | .update _ | .writeData => true
  | .readData _ | .setCommand .. => false

section Runs

variable {μ : Type u} {ι : Type v} {κ : Type w}

/-- One event. -/
def Cyclic.exchange (plugin : EcAxis μ ι κ) (s : Cyclic μ) : BusEvent ι κ → Cyclic μ
  | .update received => s.update plugin.toEcSlave received
  | .readData received => s.readData plugin.toEcSlave received
  | .setCommand index command =>
      { s with slaves := s.slaves.modify index (SlaveEntry.modify (plugin.setCommand command)) }
  | .writeData => s.writeData plugin.toEcSlave

/-- A run of the master. -/
def Cyclic.run (plugin : EcAxis μ ι κ) (s : Cyclic μ) (events : List (BusEvent ι κ)) : Cyclic μ :=
  events.foldl (Cyclic.exchange plugin) s

variable {plugin : EcAxis μ ι κ} {s : Cyclic μ} {event : BusEvent ι κ}
variable {events later : List (BusEvent ι κ)}

@[simp]
theorem run_nil : s.run plugin [] = s :=
  rfl

@[simp]
theorem run_cons : s.run plugin (event :: events) = (s.exchange plugin event).run plugin events :=
  rfl

theorem run_append : s.run plugin (events ++ later) = (s.run plugin events).run plugin later :=
  List.foldl_append

theorem run_concat :
    s.run plugin (events ++ [event]) = (s.run plugin events).exchange plugin event :=
  run_append

/-! ## Invariants of the modules -/

/-- Every module has the property. -/
def Cyclic.Each (property : μ → Prop) (s : Cyclic μ) : Prop :=
  ∀ entry ∈ s.slaves, property entry.slave

/-- The calls of the master and the controllers keep a property of the modules. -/
structure EcAxis.Keeps (plugin : EcAxis μ ι κ) (property : μ → Prop) : Prop where
  receive : ∀ inputs {m}, property m → property (plugin.receive inputs m)
  operational : ∀ operational {m}, property m →
    property (plugin.setStateIsOperational operational m)
  processData : ∀ {m}, property m → property (plugin.processData m)
  sent : ∀ {m}, property m → property (plugin.onPdoCycleSent m)
  command : ∀ command {m}, property m → property (plugin.setCommand command m)

variable {property result : μ → Prop}

theorem each_map {change : μ → μ} (keeps : ∀ {m}, property m → result (change m))
    (each : s.Each property) {cyclic : Cyclic μ}
    (slaves : cyclic.slaves = s.slaves.map (SlaveEntry.modify change)) : cyclic.Each result := by
  intro entry member
  rw [slaves] at member
  obtain ⟨source, here, rfl⟩ := List.mem_map.mp member
  exact keeps (each source here)

theorem each_receive (keeps : plugin.Keeps property) (each : s.Each property)
    (received : Received ι) (count : Bool) :
    (s.receive plugin.toEcSlave received count).Each property := by
  have heard : ∀ entry ∈ s.slaves.mapIdx fun index =>
      SlaveEntry.modify (plugin.receive (received.inputs index)), property entry.slave := by
    intro entry member
    obtain ⟨index, within, rfl⟩ := List.mem_mapIdx.mp member
    exact keeps.receive _ (each _ (List.getElem_mem within))
  rw [Cyclic.receive]
  cases received.report with
  | none =>
      intro entry member
      rw [Cyclic.checkStates, checkDomainState_slaves] at member
      exact heard entry member
  | some report =>
      intro entry member
      simp only [Cyclic.checkStates, checkDomainState_slaves] at member
      obtain ⟨index, within, rfl⟩ := List.mem_mapIdx.mp member
      have source := heard _ (List.getElem_mem within)
      rw [SlaveEntry.checkState]
      split_ifs
      · exact keeps.operational _ source
      · exact source

/-- Every event keeps the property of the modules. -/
theorem each_exchange (keeps : plugin.Keeps property) (each : s.Each property)
    (event : BusEvent ι κ) : (s.exchange plugin event).Each property := by
  cases event with
  | update received =>
      have heard := each_receive keeps each received false
      exact each_map keeps.sent (each_map keeps.processData heard rfl) rfl
  | readData received => exact each_map keeps.processData (each_receive keeps each received true) rfl
  | setCommand index command =>
      intro entry member
      obtain ⟨other, found⟩ := List.mem_iff_getElem?.mp member
      rw [Cyclic.exchange, List.getElem?_modify] at found
      obtain ⟨source, here, rfl⟩ := Option.map_eq_some_iff.mp found
      have kept := each source (List.mem_of_getElem? here)
      split_ifs
      · exact keeps.command command kept
      · exact kept
  | writeData => exact each_map keeps.sent (each_map keeps.processData each rfl) rfl

/-- The property holds along every run. -/
theorem each_run (keeps : plugin.Keeps property) (initial : s.Each property)
    (events : List (BusEvent ι κ)) : (s.run plugin events).Each property := by
  induction events generalizing s with
  | nil => exact initial
  | cons event events ih => exact ih (each_exchange keeps initial event)

/-- An image is sent right after the call of `processData`. -/
theorem each_sent (keeps : plugin.Keeps property)
    (sent : ∀ {m}, property m → result (plugin.onPdoCycleSent (plugin.processData m)))
    (initial : s.Each property) (events : List (BusEvent ι κ)) (sends : event.sends = true) :
    (s.run plugin (events ++ [event])).Each result := by
  rw [run_concat]
  have each := each_run keeps initial events
  cases event with
  | readData | setCommand => cases sends
  | update received =>
      have heard := each_receive keeps each received false
      exact each_map sent heard (List.map_map (g := SlaveEntry.modify plugin.onPdoCycleSent))
  | writeData => exact each_map sent each (List.map_map (g := SlaveEntry.modify plugin.onPdoCycleSent))

end Runs

/-! ## Maps of the modules -/

section Maps

variable {ν : Type u} {μ : Type u} {ι : Type v} {κ : Type w}

/-- A map of the modules commutes with all calls. -/
structure Erases (fine : EcAxis ν ι κ) (coarse : EcAxis μ ι κ) (erase : ν → μ) : Prop where
  receive : ∀ inputs m, erase (fine.receive inputs m) = coarse.receive inputs (erase m)
  operational : ∀ operational m, erase (fine.setStateIsOperational operational m) =
    coarse.setStateIsOperational operational (erase m)
  processData : ∀ m, erase (fine.processData m) = coarse.processData (erase m)
  sent : ∀ m, erase (fine.onPdoCycleSent m) = coarse.onPdoCycleSent (erase m)
  command : ∀ command m, erase (fine.setCommand command m) = coarse.setCommand command (erase m)

/-- The entry with the mapped module. -/
def SlaveEntry.erase (erase : ν → μ) (entry : SlaveEntry ν) : SlaveEntry μ where
  slave := erase entry.slave
  configState := entry.configState

/-- The master with the mapped modules. -/
def Cyclic.erase (erase : ν → μ) (s : Cyclic ν) : Cyclic μ where
  slaves := s.slaves.map (SlaveEntry.erase erase)
  lastCompleteTime := s.lastCompleteTime
  hasCompleteSample := s.hasCompleteSample
  workingCounterErrorCount := s.workingCounterErrorCount
  linkUp := s.linkUp
  slavesResponding := s.slavesResponding

variable {fine : EcAxis ν ι κ} {coarse : EcAxis μ ι κ} {erase : ν → μ} {s : Cyclic ν}

theorem map_erase_modify {change : ν → ν} {image : μ → μ}
    (commutes : ∀ m, erase (change m) = image (erase m)) (slaves : List (SlaveEntry ν)) :
    (slaves.map (SlaveEntry.modify change)).map (SlaveEntry.erase erase) =
      (slaves.map (SlaveEntry.erase erase)).map (SlaveEntry.modify image) := by
  rw [List.map_map, List.map_map]
  refine List.map_congr_left fun entry _ => ?_
  exact congrArg (SlaveEntry.mk · entry.configState) (commutes entry.slave)

theorem erase_checkDomainState (received : Received ι) (count : Bool) :
    (s.checkDomainState received count).erase erase =
      (s.erase erase).checkDomainState received count := by
  rw [Cyclic.checkDomainState, Cyclic.checkDomainState]
  split_ifs <;> rfl

theorem erase_checkState (erases : Erases fine coarse erase) (entry : SlaveEntry ν)
    (state : ConfigState) :
    (entry.checkState fine.toEcSlave state).erase erase =
      (entry.erase erase).checkState coarse.toEcSlave state := by
  rw [SlaveEntry.checkState, SlaveEntry.checkState, SlaveEntry.erase, SlaveEntry.erase]
  split_ifs
  · rw [erases.operational]
  · rfl

theorem erase_checkStates (erases : Erases fine coarse erase) (report : Option Report) :
    (s.checkStates fine.toEcSlave report).erase erase =
      (s.erase erase).checkStates coarse.toEcSlave report := by
  cases report with
  | none => rfl
  | some report =>
      have slaves : (s.slaves.mapIdx fun index entry =>
          entry.checkState fine.toEcSlave (report.configState index)).map
            (SlaveEntry.erase erase) =
          (s.slaves.map (SlaveEntry.erase erase)).mapIdx fun index entry =>
            entry.checkState coarse.toEcSlave (report.configState index) := by
        refine List.ext_getElem? fun index => ?_
        simp only [List.getElem?_map, List.getElem?_mapIdx, Option.map_map]
        congr 1
        funext entry
        exact erase_checkState erases entry (report.configState index)
      simp only [Cyclic.checkStates, Cyclic.erase, slaves]

theorem erase_receive (erases : Erases fine coarse erase) (received : Received ι) (count : Bool) :
    (s.receive fine.toEcSlave received count).erase erase =
      (s.erase erase).receive coarse.toEcSlave received count := by
  have slaves : (s.slaves.mapIdx fun index =>
      SlaveEntry.modify (fine.receive (received.inputs index))).map (SlaveEntry.erase erase) =
        (s.slaves.map (SlaveEntry.erase erase)).mapIdx fun index =>
          SlaveEntry.modify (coarse.receive (received.inputs index)) := by
    refine List.ext_getElem? fun index => ?_
    simp only [List.getElem?_map, List.getElem?_mapIdx, Option.map_map]
    congr 1
    funext entry
    exact congrArg (SlaveEntry.mk · entry.configState) (erases.receive _ entry.slave)
  rw [Cyclic.receive, Cyclic.receive, erase_checkStates erases, erase_checkDomainState]
  simp only [Cyclic.erase, slaves]

/-- A map that commutes with the calls commutes with the events. -/
theorem erase_exchange (erases : Erases fine coarse erase) (event : BusEvent ι κ) :
    (s.exchange fine event).erase erase = (s.erase erase).exchange coarse event := by
  have processed (s : Cyclic ν) : (s.processData fine.toEcSlave).erase erase =
      (s.erase erase).processData coarse.toEcSlave := by
    rw [Cyclic.processData, Cyclic.processData]
    exact congrArg (Cyclic.mk · _ _ _ _ _) (map_erase_modify erases.processData s.slaves)
  have sent (s : Cyclic ν) : (s.send fine.toEcSlave).erase erase =
      (s.erase erase).send coarse.toEcSlave := by
    rw [Cyclic.send, Cyclic.send]
    exact congrArg (Cyclic.mk · _ _ _ _ _) (map_erase_modify erases.sent s.slaves)
  cases event with
  | update received =>
      rw [Cyclic.exchange, Cyclic.exchange, Cyclic.update, Cyclic.update, sent, processed,
        erase_receive erases]
  | readData received =>
      rw [Cyclic.exchange, Cyclic.exchange, Cyclic.readData, Cyclic.readData, processed,
        erase_receive erases]
  | setCommand index command =>
      have slaves : (s.slaves.modify index (SlaveEntry.modify (fine.setCommand command))).map
          (SlaveEntry.erase erase) = (s.slaves.map (SlaveEntry.erase erase)).modify index
            (SlaveEntry.modify (coarse.setCommand command)) := by
        refine List.ext_getElem? fun other => ?_
        simp only [List.getElem?_map, List.getElem?_modify, Option.map_eq_map, Option.map_map]
        congr 1
        funext entry
        rw [Function.comp_apply, Function.comp_apply]
        split_ifs
        · exact congrArg (SlaveEntry.mk · entry.configState) (erases.command command entry.slave)
        · rfl
      exact congrArg (Cyclic.mk · _ _ _ _ _) slaves
  | writeData =>
      rw [Cyclic.exchange, Cyclic.exchange, Cyclic.writeData, Cyclic.writeData, sent, processed]

/-- The run of the mapped modules is the mapped run. -/
theorem erase_run (erases : Erases fine coarse erase) (events : List (BusEvent ι κ)) :
    (s.run fine events).erase erase = (s.erase erase).run coarse events := by
  induction events generalizing s with
  | nil => rfl
  | cons event events ih => rw [run_cons, run_cons, ih, erase_exchange erases]

end Maps

end RtControl.Ethercat
