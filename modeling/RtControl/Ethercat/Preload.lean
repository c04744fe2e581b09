import RtControl.Ethercat.Gate
import RtControl.Ethercat.Startup

/-!
# The drives during the start-up

`EcCiA402Drive` is a module of the master.  A slave that is not operational yet passes its control
word on unprepared, but its target position is preloaded all the same.  So the wait for the preload
ends with its first cycle, unless a drive reports Operation Enabled.
-/

namespace RtControl.Ethercat

open RtControl.Transition

/-! ## The drive as a module -/

/-- `EcCiA402Drive` with the flag of its slave. -/
structure DriveModule (σ : Type) where
  drive : Drive σ
  isOperational : Bool := false

section Module

variable {σ : Type} [DecidableEq σ]

/-- `processData` up to the check for a state change. -/
def DriveModule.processChannel (upstream : Upstream σ) (m : DriveModule σ) (channel : Channel) :
    Drive σ :=
  if channel.object = .controlWord ∧ m.isOperational = false then
    { m.drive with
      channels := m.drive.channels.set m.drive.cursor
        (channel.ecUpdate m.drive.commands (m.drive.inputs m.drive.cursor))
      image := m.drive.image.store channel.object (channel.outgoing m.drive.commands) }
  else
    m.drive.processChannel upstream channel

/-- `processData` for the channel at the cursor. -/
def DriveModule.processNext (upstream : Upstream σ) (m : DriveModule σ) : DriveModule σ :=
  match m.drive.channels[m.drive.cursor]? with
  | none => m
  | some channel =>
      let processed := m.processChannel upstream channel
      { m with
        drive :=
          if m.drive.cursor + 1 = m.drive.channels.length then
            { processed.checkStateChange upstream with cursor := 0 }
          else
            { processed with cursor := m.drive.cursor + 1 } }

/-- The pass of the master over the channels. -/
def DriveModule.pass (upstream : Upstream σ) (m : DriveModule σ) : DriveModule σ :=
  (DriveModule.processNext upstream)^[m.drive.channels.length] m

/-- The drive behind the interface of the master. -/
def driveSlave (upstream : Upstream σ) : EcSlave (DriveModule σ) (ℕ → Double) where
  receive inputs m := { m with drive := { m.drive with inputs } }
  setStateIsOperational isOperational m := { m with isOperational }
  processData := DriveModule.pass upstream
  onPdoCycleSent m := { m with drive := m.drive.onPdoCycleSent }
  initialized m := m.drive.targetPositionPreloaded

/-- The object and the direction of a channel. -/
def Channel.shape (channel : Channel) : Object × Bool :=
  (channel.object, channel.rpdo)

/-- The drive of an axis between two passes: it writes a target position and reads an actual
position. -/
structure PositionAxis (m : DriveModule σ) : Prop where
  aligned : m.drive.cursor = 0
  target : (Object.targetPosition, true) ∈ m.drive.channels.map Channel.shape
  actual : (Object.actualPosition, false) ∈ m.drive.channels.map Channel.shape
  receive : (Object.targetPosition, false) ∉ m.drive.channels.map Channel.shape
  transmit : (Object.actualPosition, true) ∉ m.drive.channels.map Channel.shape

/-- The inputs hold a number for every actual position. -/
def FinitePositions (shapes : List (Object × Bool)) (inputs : ℕ → Double) : Prop :=
  ∀ index, shapes[index]? = some (.actualPosition, false) → (inputs index).isSome = true

end Module

/-! ## One call of `processData` -/

section Calls

variable {σ : Type} [DecidableEq σ] {upstream : Upstream σ} {d : Drive σ} {m : DriveModule σ}
variable {channel : Channel}

omit [DecidableEq σ] in
theorem shape_of_sameMapping {prepared : Channel} (same : SameMapping channel prepared) :
    prepared.shape = channel.shape :=
  Prod.ext same.object same.rpdo

theorem map_shape_set {channels : List Channel} {index : ℕ} {updated : Channel}
    (next : channels[index]? = some channel) (same : updated.shape = channel.shape) :
    (channels.set index updated).map Channel.shape = channels.map Channel.shape := by
  rw [List.map_set, same]
  refine List.ext_getElem? fun other => ?_
  rw [List.getElem?_set]
  split_ifs with here within
  · rw [← here, List.getElem?_map, next, Option.map_some]
  · rw [← here, List.getElem?_eq_none (Nat.le_of_not_lt within)]
  · rfl

/-- What a call does to the preload, up to the check for a state change. -/
structure Processed (upstream : Upstream σ) (d : Drive σ) (channel : Channel) (t : Drive σ) :
    Prop where
  shape : t.channels.map Channel.shape = d.channels.map Channel.shape
  state : t.state = d.state
  inputs : t.inputs = d.inputs
  preloaded : t.targetPositionPreloaded = d.targetPositionPreloaded
  pending : d.targetPositionPreloadPending = true → t.targetPositionPreloadPending = true
  requested : channel.shape = (.targetPosition, true) → d.positionValid = true →
    d.state ≠ upstream.operationEnabled → t.targetPositionPreloadPending = true
  enabled : d.state = upstream.operationEnabled →
    t.targetPositionPreloadPending = d.targetPositionPreloadPending
  valid : channel.object ≠ .actualPosition → t.positionValid = d.positionValid
  read : channel.shape = (.actualPosition, false) → (d.inputs d.cursor).isSome = true →
    t.positionValid = true

theorem preloadRequested_of_valid (valid : d.positionValid = true)
    (disabled : d.state ≠ upstream.operationEnabled) :
    d.preloadWriteRequested upstream = true := by
  simp [Drive.preloadWriteRequested, valid, disabled]

/-- The target position is written from a valid position outside Operation Enabled. -/
theorem lastValue_targetPosition (target : channel.shape = (.targetPosition, true))
    (valid : d.positionValid = true) (disabled : d.state ≠ upstream.operationEnabled)
    (input : Double) :
    ((d.prepare upstream channel).ecUpdate d.commands input).lastValue.isSome = true := by
  obtain ⟨object, rpdo⟩ := Prod.mk.inj target
  have raw : d.lastPositionRaw.isSome = true := by
    rw [Drive.positionValid, Bool.and_eq_true] at valid
    exact valid.2
  obtain ⟨value, same⟩ := Option.isSome_iff_exists.mp raw
  rw [Drive.prepare, object]
  simp only [Drive.prepareTargetPosition, if_pos valid, if_pos disabled, Channel.ecUpdate,
    Channel.outgoing, rpdo, if_true, same]
  split <;> rfl

theorem processed_processChannel (next : d.channels[d.cursor]? = some channel) :
    Processed upstream d channel (d.processChannel upstream channel) := by
  have same := shape_of_sameMapping (sameMapping_ecUpdate (d.prepare upstream channel)
    d.commands (d.inputs d.cursor))
  have shape := same.trans (shape_of_sameMapping (sameMapping_prepare upstream d channel))
  have shapes := map_shape_set next shape
  simp only [Drive.processChannel]
  split_ifs with target
  · refine ⟨shapes, rfl, rfl, rfl, ?_, ?_, ?_, fun _ => rfl, ?_⟩
    · intro pending
      simp [Drive.afterTargetPosition, pending]
    · intro direction valid disabled
      have written := lastValue_targetPosition direction valid disabled (d.inputs d.cursor)
      have requested := preloadRequested_of_valid valid disabled
      show (d.preloadWriteRequested upstream && _ || _) = true
      rw [requested, written]
      rfl
    · intro enabled
      have idle : d.preloadWriteRequested upstream = false := by
        simp [Drive.preloadWriteRequested, enabled]
      show (d.preloadWriteRequested upstream && _ || _) = _
      rw [idle]
      rfl
    · intro actual
      rw [Channel.shape, target] at actual
      cases actual
  · have session := sameSession_afterRead
      { d with
        channels := d.channels.set d.cursor
          ((d.prepare upstream channel).ecUpdate d.commands (d.inputs d.cursor))
        image := d.image.store channel.object ((d.prepare upstream channel).outgoing d.commands) }
      ((d.prepare upstream channel).ecUpdate d.commands (d.inputs d.cursor))
    have object : ((d.prepare upstream channel).ecUpdate d.commands (d.inputs d.cursor)).object =
        channel.object := congrArg Prod.fst shape
    refine ⟨?_, session.state, ?_, session.preloaded, ?_, ?_, fun _ => session.pending, ?_, ?_⟩
    · rw [session.channels]
      exact shapes
    · rw [Drive.afterRead]
      split <;> rfl
    · intro pending
      rw [session.pending]
      exact pending
    · intro direction
      exact absurd (Prod.mk.inj direction).1 target
    · intro other
      rw [Drive.afterRead]
      split
      next actual => exact absurd (object.symm.trans actual) other
      all_goals rfl
    · intro direction input
      obtain ⟨actual, rpdo⟩ := Prod.mk.inj direction
      obtain ⟨raw, read⟩ := Option.isSome_iff_exists.mp input
      have prepared : d.prepare upstream channel = channel := by rw [Drive.prepare, actual]
      simp [prepared, Channel.ecUpdate, rpdo, read, Drive.afterRead, actual, Drive.positionValid]

/-- The same for the module: an idle slave only passes its control word on. -/
theorem processed_of_module (next : m.drive.channels[m.drive.cursor]? = some channel) :
    Processed upstream m.drive channel (m.processChannel upstream channel) := by
  rw [DriveModule.processChannel]
  split_ifs with idle
  · have shapes := map_shape_set next (shape_of_sameMapping
      (sameMapping_ecUpdate channel m.drive.commands (m.drive.inputs m.drive.cursor)))
    refine ⟨shapes, rfl, rfl, rfl, id, ?_, fun _ => rfl, fun _ => rfl, ?_⟩
    all_goals
      intro direction
      have object := (Prod.mk.inj direction).1
      rw [idle.1] at object
      cases object
  · exact processed_processChannel next

/-! ## One pass -/

/-- The drive of a pass after the first calls, up to the check for a state change. -/
structure Passing (upstream : Upstream σ) (start d : Drive σ) (calls : ℕ) : Prop where
  shape : d.channels.map Channel.shape = start.channels.map Channel.shape
  state : d.state = start.state
  inputs : d.inputs = start.inputs
  preloaded : d.targetPositionPreloaded = start.targetPositionPreloaded
  enabled : start.state = upstream.operationEnabled →
    d.targetPositionPreloadPending = start.targetPositionPreloadPending
  requested : start.positionValid = true → start.state ≠ upstream.operationEnabled →
    (Object.targetPosition, true) ∈ (start.channels.map Channel.shape).take calls →
    d.targetPositionPreloadPending = true
  valid : start.positionValid = true ∨
      (Object.actualPosition, false) ∈ (start.channels.map Channel.shape).take calls →
    d.positionValid = true

variable {start : Drive σ} {calls : ℕ}

omit [DecidableEq σ] in
theorem passing_refl (d : Drive σ) : Passing upstream d d 0 := by
  refine ⟨rfl, rfl, rfl, rfl, fun _ => rfl, ?_, ?_⟩
  · intro _ _ member
    cases member
  · rintro (valid | member)
    · exact valid
    · cases member

/-- One more call of a pass. -/
theorem passing_succ (passing : Passing upstream start m.drive calls)
    (cursor : m.drive.cursor = calls) (next : m.drive.channels[calls]? = some channel)
    (transmit : (Object.actualPosition, true) ∉ start.channels.map Channel.shape)
    (finite : FinitePositions (start.channels.map Channel.shape) start.inputs) :
    Passing upstream start (m.processChannel upstream channel) (calls + 1) := by
  have processed : Processed upstream m.drive channel (m.processChannel upstream channel) := by
    refine processed_of_module ?_
    rw [cursor]
    exact next
  have listed : (start.channels.map Channel.shape)[calls]? = some channel.shape := by
    rw [← passing.shape, List.getElem?_map, next, Option.map_some]
  have seen : (start.channels.map Channel.shape).take (calls + 1) =
      (start.channels.map Channel.shape).take calls ++ [channel.shape] := by
    rw [List.take_add_one, listed, Option.toList_some]
  -- A read position is valid, and no other channel takes the validity away.
  have kept (valid : m.drive.positionValid = true) :
      (m.processChannel upstream channel).positionValid = true := by
    by_cases actual : channel.object = .actualPosition
    · cases direction : channel.rpdo with
      | true =>
          refine absurd ?_ transmit
          rw [← actual, ← direction]
          exact List.mem_of_getElem? listed
      | false =>
          have shape : channel.shape = (.actualPosition, false) := Prod.ext actual direction
          refine processed.read shape ?_
          rw [passing.inputs, cursor]
          exact finite calls (listed.trans (congrArg some shape))
    · exact (processed.valid actual).trans valid
  refine ⟨processed.shape.trans passing.shape, processed.state.trans passing.state,
    processed.inputs.trans passing.inputs, processed.preloaded.trans passing.preloaded, ?_, ?_, ?_⟩
  · intro enabled
    exact (processed.enabled (passing.state.trans enabled)).trans (passing.enabled enabled)
  · intro valid disabled member
    rw [seen, List.mem_append, List.mem_singleton] at member
    rcases member with before | now
    · exact processed.pending (passing.requested valid disabled before)
    · refine processed.requested now.symm (passing.valid (Or.inl valid)) ?_
      rw [passing.state]
      exact disabled
  · rw [seen]
    rintro (valid | member)
    · exact kept (passing.valid (Or.inl valid))
    · rcases List.mem_append.mp member with before | now
      · exact kept (passing.valid (Or.inr before))
      · have shape : channel.shape = (.actualPosition, false) := (List.mem_singleton.mp now).symm
        refine processed.read shape ?_
        rw [passing.inputs, cursor]
        exact finite calls (listed.trans (congrArg some shape))

/-- What a pass does to the preload. -/
structure Passed (upstream : Upstream σ) (start d : Drive σ) : Prop where
  cursor : d.cursor = 0
  shape : d.channels.map Channel.shape = start.channels.map Channel.shape
  valid : d.positionValid = true
  requested : start.positionValid = true → start.state ≠ upstream.operationEnabled →
    d.targetPositionPreloadPending = true
  enabled : start.state = upstream.operationEnabled → d.state = upstream.operationEnabled →
    d.targetPositionPreloadPending = start.targetPositionPreloadPending ∧
      d.targetPositionPreloaded = start.targetPositionPreloaded

/-- The check for a state change ends the pass. -/
theorem passed_of_passing {d : Drive σ}
    (passing : Passing upstream start d (start.channels.map Channel.shape).length)
    (target : (Object.targetPosition, true) ∈ start.channels.map Channel.shape)
    (actual : (Object.actualPosition, false) ∈ start.channels.map Channel.shape) :
    Passed upstream start { d.checkStateChange upstream with cursor := 0 } := by
  have complete := List.take_length (l := start.channels.map Channel.shape)
  have requested := passing.requested
  have valid := passing.valid
  rw [complete] at requested valid
  obtain ⟨state, changed⟩ := checkStateChange_cases upstream d
  rw [changed]
  split_ifs with left
  · refine ⟨rfl, passing.shape, valid (Or.inr actual), ?_, ?_⟩
    · intro _ disabled
      exact absurd (passing.state.symm.trans left.1) disabled
    · intro _ enabled
      exact absurd enabled left.2
  · refine ⟨rfl, passing.shape, valid (Or.inr actual), ?_, ?_⟩
    · intro found disabled
      exact requested found disabled target
    · intro enabled _
      exact ⟨passing.enabled enabled, passing.preloaded⟩

/-- The calls of a pass before the last one. -/
theorem passing_iterate (upstream : Upstream σ) (axis : PositionAxis m)
    (finite : FinitePositions (m.drive.channels.map Channel.shape) m.drive.inputs)
    (before : calls < m.drive.channels.length) :
    ((DriveModule.processNext upstream)^[calls] m).drive.cursor = calls ∧
      Passing upstream m.drive ((DriveModule.processNext upstream)^[calls] m).drive calls := by
  induction calls with
  | zero => exact ⟨axis.aligned, passing_refl m.drive⟩
  | succ calls ih =>
      obtain ⟨cursor, passing⟩ := ih (Nat.lt_of_succ_lt before)
      rw [Function.iterate_succ_apply']
      generalize (DriveModule.processNext upstream)^[calls] m = t at cursor passing ⊢
      have length : t.drive.channels.length = m.drive.channels.length := by
        simpa using congrArg List.length passing.shape
      have within : calls < t.drive.channels.length := by omega
      have next := List.getElem?_eq_getElem within
      have goesOn : ¬calls + 1 = t.drive.channels.length := by omega
      have after := passing_succ passing cursor next axis.transmit finite
      simp only [DriveModule.processNext, cursor, next, if_neg goesOn]
      exact ⟨trivial, after.shape, after.state, after.inputs, after.preloaded, after.enabled,
        after.requested, after.valid⟩

theorem passed_pass (upstream : Upstream σ) (axis : PositionAxis m)
    (finite : FinitePositions (m.drive.channels.map Channel.shape) m.drive.inputs) :
    Passed upstream m.drive (m.pass upstream).drive := by
  obtain ⟨last, length⟩ : ∃ last, m.drive.channels.length = last + 1 := by
    refine Nat.exists_eq_succ_of_ne_zero fun empty => ?_
    have member := axis.target
    rw [List.eq_nil_of_length_eq_zero empty] at member
    cases member
  obtain ⟨cursor, passing⟩ :=
    passing_iterate upstream axis finite (show last < _ by omega)
  rw [DriveModule.pass, length, Function.iterate_succ_apply']
  generalize (DriveModule.processNext upstream)^[last] m = t at cursor passing ⊢
  have same : t.drive.channels.length = m.drive.channels.length := by
    simpa using congrArg List.length passing.shape
  have within : last < t.drive.channels.length := by omega
  have next := List.getElem?_eq_getElem within
  have ends : last + 1 = t.drive.channels.length := by omega
  have after := passing_succ passing cursor next axis.transmit finite
  simp only [DriveModule.processNext, cursor, next, if_pos ends]
  refine passed_of_passing ?_ axis.target axis.actual
  rw [List.length_map, length]
  exact after

end Calls

/-! ## The start-up of the axes -/

section Startup

variable {σ : Type} [DecidableEq σ] {upstream : Upstream σ}

/-- What an exchange does to the preload of a drive. -/
structure AxisExchanged (upstream : Upstream σ) (source target : DriveModule σ) : Prop where
  axis : PositionAxis target
  shape : target.drive.channels.map Channel.shape = source.drive.channels.map Channel.shape
  valid : target.drive.positionValid = true
  preloaded : source.drive.positionValid = true →
    source.drive.state ≠ upstream.operationEnabled → target.drive.targetPositionPreloaded = true
  enabled : source.drive.state = upstream.operationEnabled →
    target.drive.state = upstream.operationEnabled →
    source.drive.targetPositionPreloaded = false →
    source.drive.targetPositionPreloadPending = false →
    target.drive.targetPositionPreloaded = false ∧
      target.drive.targetPositionPreloadPending = false

/-- What `onPdoCycleSent` leaves alone. -/
structure SentFrame (d t : Drive σ) : Prop where
  channels : t.channels = d.channels
  cursor : t.cursor = d.cursor
  state : t.state = d.state
  valid : t.positionValid = d.positionValid

omit [DecidableEq σ] in
theorem sent_frame (d : Drive σ) : SentFrame d d.onPdoCycleSent := by
  rw [Drive.onPdoCycleSent]
  split <;> exact ⟨rfl, rfl, rfl, rfl⟩

theorem axisExchanged (upstream : Upstream σ) {source : DriveModule σ} {hear : DriveModule σ → DriveModule σ}
    {inputs : ℕ → Double} (axis : PositionAxis source)
    (finite : FinitePositions (source.drive.channels.map Channel.shape) inputs)
    (heard : hear = id ∨ ∃ operational,
      hear = (driveSlave upstream).setStateIsOperational operational) :
    AxisExchanged upstream source ((driveSlave upstream).onPdoCycleSent
      ((driveSlave upstream).processData (hear ((driveSlave upstream).receive inputs source)))) := by
  obtain ⟨heardModule, same⟩ : ∃ m, hear ((driveSlave upstream).receive inputs source) = m :=
    ⟨_, rfl⟩
  have drive : heardModule.drive = { source.drive with inputs := inputs } := by
    rw [← same]
    rcases heard with rfl | ⟨operational, rfl⟩ <;> rfl
  have aligned : PositionAxis heardModule := by
    constructor
    all_goals rw [drive]
    · exact axis.aligned
    · exact axis.target
    · exact axis.actual
    · exact axis.receive
    · exact axis.transmit
  have passed := passed_pass upstream aligned (by rw [drive]; exact finite)
  rw [same]
  show AxisExchanged upstream source { heardModule.pass upstream with
    drive := (heardModule.pass upstream).drive.onPdoCycleSent }
  generalize heardModule.pass upstream = t at passed ⊢
  rw [drive] at passed
  have shape : t.drive.onPdoCycleSent.channels.map Channel.shape =
      source.drive.channels.map Channel.shape := by
    rw [(sent_frame t.drive).channels]
    exact passed.shape
  refine ⟨?_, shape, (sent_frame t.drive).valid.trans passed.valid, ?_, ?_⟩
  · refine ⟨(sent_frame t.drive).cursor.trans passed.cursor, ?_, ?_, ?_, ?_⟩
    all_goals simp only [shape]
    · exact axis.target
    · exact axis.actual
    · exact axis.receive
    · exact axis.transmit
  · intro valid disabled
    have pending := passed.requested valid disabled
    show t.drive.onPdoCycleSent.targetPositionPreloaded = true
    rw [Drive.onPdoCycleSent, if_pos pending]
  · intro before after preloaded pending
    have stays : t.drive.state = upstream.operationEnabled :=
      (sent_frame t.drive).state.symm.trans after
    obtain ⟨samePending, samePreloaded⟩ := passed.enabled before stays
    have idle : t.drive.targetPositionPreloadPending = false := samePending.trans pending
    show t.drive.onPdoCycleSent.targetPositionPreloaded = false ∧
      t.drive.onPdoCycleSent.targetPositionPreloadPending = false
    rw [Drive.onPdoCycleSent, if_neg (Bool.eq_false_iff.mp idle)]
    exact ⟨samePreloaded.trans preloaded, idle⟩

variable {startup : Startup (ℕ → Double)} {master : Cyclic (DriveModule σ)}

/-- The inputs of every cycle hold a number for every actual position. -/
def FiniteStartup (startup : Startup (ℕ → Double)) (master : Cyclic (DriveModule σ)) : Prop :=
  ∀ cycle index entry, master.slaves[index]? = some entry →
    FinitePositions (entry.slave.drive.channels.map Channel.shape)
      ((startup.cycle cycle).received.inputs index)

/-- The modules of a start-up after some cycles. -/
theorem axis_of_masterAfter (axes : ∀ entry ∈ master.slaves, PositionAxis entry.slave)
    (finite : FiniteStartup startup master) (cycles : ℕ) {index : ℕ}
    {entry : SlaveEntry (DriveModule σ)}
    (found : (startup.masterAfter (driveSlave upstream) master cycles).slaves[index]? =
      some entry) :
    PositionAxis entry.slave ∧ ∃ source, master.slaves[index]? = some source ∧
      entry.slave.drive.channels.map Channel.shape =
        source.slave.drive.channels.map Channel.shape := by
  induction cycles generalizing entry with
  | zero => exact ⟨axes entry (List.mem_of_getElem? found), entry, found, rfl⟩
  | succ cycles ih =>
      obtain ⟨before, here, hear, heard, same⟩ := getElem?_update found
      obtain ⟨axis, source, first, shape⟩ := ih here
      have positions := finite cycles index source first
      rw [← shape] at positions
      have exchanged := axisExchanged upstream axis positions heard
      rw [same]
      exact ⟨exchanged.axis, source, first, exchanged.shape.trans shape⟩

/-- One cycle of a start-up. -/
theorem axisExchanged_of_masterAfter (axes : ∀ entry ∈ master.slaves, PositionAxis entry.slave)
    (finite : FiniteStartup startup master) (cycles : ℕ) {index : ℕ}
    {entry : SlaveEntry (DriveModule σ)}
    (found : (startup.masterAfter (driveSlave upstream) master (cycles + 1)).slaves[index]? =
      some entry) :
    ∃ source, (startup.masterAfter (driveSlave upstream) master cycles).slaves[index]? =
        some source ∧ AxisExchanged upstream source.slave entry.slave := by
  obtain ⟨source, here, hear, heard, same⟩ := getElem?_update found
  obtain ⟨axis, first, initial, shape⟩ := axis_of_masterAfter axes finite cycles here
  have positions := finite cycles index first initial
  rw [← shape] at positions
  refine ⟨source, here, ?_⟩
  rw [same]
  exact axisExchanged upstream axis positions heard

/-- Two cycles preload a drive, unless it reports Operation Enabled after the first. -/
theorem preloaded_after_two (axes : ∀ entry ∈ master.slaves, PositionAxis entry.slave)
    (finite : FiniteStartup startup master) (cycles : ℕ)
    (disabled : ∀ entry ∈
      (startup.masterAfter (driveSlave upstream) master (cycles + 1)).slaves,
      entry.slave.drive.state ≠ upstream.operationEnabled) :
    (startup.masterAfter (driveSlave upstream) master (cycles + 2)).Initialized
      (driveSlave upstream) := by
  intro entry member
  obtain ⟨index, found⟩ := List.getElem?_of_mem member
  obtain ⟨second, here, last⟩ := axisExchanged_of_masterAfter axes finite (cycles + 1) found
  obtain ⟨first, -, before⟩ := axisExchanged_of_masterAfter axes finite cycles here
  exact last.preloaded before.valid (disabled second (List.mem_of_getElem? here))

/-- A drive that stays in Operation Enabled is never preloaded. -/
theorem unpreloaded_of_enabled (axes : ∀ entry ∈ master.slaves, PositionAxis entry.slave)
    (finite : FiniteStartup startup master) {index : ℕ} {first : SlaveEntry (DriveModule σ)}
    (here : (startup.masterAfter (driveSlave upstream) master 1).slaves[index]? = some first)
    (unpreloaded : first.slave.drive.targetPositionPreloaded = false ∧
      first.slave.drive.targetPositionPreloadPending = false)
    (cycles : ℕ) (enabled : ∀ earlier ≤ cycles, ∀ entry,
      (startup.masterAfter (driveSlave upstream) master (earlier + 1)).slaves[index]? = some entry →
      entry.slave.drive.state = upstream.operationEnabled)
    {entry : SlaveEntry (DriveModule σ)}
    (found : (startup.masterAfter (driveSlave upstream) master (cycles + 1)).slaves[index]? =
      some entry) :
    entry.slave.drive.targetPositionPreloaded = false ∧
      entry.slave.drive.targetPositionPreloadPending = false := by
  induction cycles generalizing entry with
  | zero =>
      cases Option.some.inj (here.symm.trans found)
      exact unpreloaded
  | succ cycles ih =>
      obtain ⟨source, before, exchanged⟩ := axisExchanged_of_masterAfter axes finite _ found
      obtain ⟨preloaded, pending⟩ := ih (fun earlier within => enabled earlier (by omega)) before
      exact exchanged.enabled (enabled cycles (Nat.le_succ cycles) source before)
        (enabled (cycles + 1) (le_refl _) entry found) preloaded pending

variable {d e : CyclicDriver (DriveModule σ)} {parameters : HardwareParameters}
variable {bring : EcMaster × Cyclic (DriveModule σ) → (EcMaster × Cyclic (DriveModule σ)) × Bool}

/-- **Start-up of axes.**  When no drive reports Operation Enabled as the bus becomes ready, the
wait for the preload is over in its first cycle: `on_activate` succeeds exactly if its checks pass,
the upstream part succeeds and the bus is ready in time, and it ends one cycle later. -/
theorem startup_of_axes
    (axes : ∀ entry ∈ (bring (d.master, d.cyclic)).1.2.slaves, PositionAxis entry.slave)
    (finite : FiniteStartup startup (bring (d.master, d.cyclic)).1.2)
    (disabled : ∀ busTimeoutMs bus,
      startup.BusReadyIn (driveSlave upstream) (bring (d.master, d.cyclic)).1.2 busTimeoutMs bus →
      ∀ entry ∈ (startup.masterAfter (driveSlave upstream) (bring (d.master, d.cyclic)).1.2
        (bus + 1)).slaves, entry.slave.drive.state ≠ upstream.operationEnabled) :
    d.onActivate (driveSlave upstream) bring parameters startup = some (e, .success) ↔
      ∃ preloadTimeoutMs busTimeoutMs master cyclic,
        d.checkParameters parameters = .ok (preloadTimeoutMs, busTimeoutMs) ∧
          bring (d.master, d.cyclic) = ((master, cyclic), true) ∧
          ∃ bus, startup.BusReadyIn (driveSlave upstream) cyclic busTimeoutMs bus ∧
            e = { activated := true
                  master := master
                  cyclic := startup.masterAfter (driveSlave upstream) cyclic (bus + 2) } := by
  rw [onActivate_success_iff]
  have first (preloadTimeoutMs : ℕ) {busTimeoutMs bus : ℕ} {master : EcMaster}
      {cyclic : Cyclic (DriveModule σ)} (brought : bring (d.master, d.cyclic) =
        ((master, cyclic), true))
      (ready : startup.BusReadyIn (driveSlave upstream) cyclic busTimeoutMs bus) :
      startup.InitializedIn (driveSlave upstream) cyclic preloadTimeoutMs bus (bus + 1) := by
    rw [brought] at axes finite disabled
    refine ⟨Nat.lt_succ_self bus, ?_, ?_⟩
    · exact preloaded_after_two axes finite bus (disabled _ bus ready)
    · intro between after before
      omega
  constructor
  · rintro ⟨preloadTimeoutMs, busTimeoutMs, master, cyclic, checked, brought, bus, preload, ready,
      initialized, rfl⟩
    have same : preload = bus + 1 := by
      by_contra other
      have after := initialized.after
      exact (initialized.waited (bus + 1) (Nat.lt_succ_self bus) (by omega)).1
        (first 0 brought ready).ready
    rw [same]
    exact ⟨preloadTimeoutMs, busTimeoutMs, master, cyclic, checked, brought, bus, ready, rfl⟩
  · rintro ⟨preloadTimeoutMs, busTimeoutMs, master, cyclic, checked, brought, bus, ready, rfl⟩
    exact ⟨preloadTimeoutMs, busTimeoutMs, master, cyclic, checked, brought, bus, bus + 1, ready,
      first preloadTimeoutMs brought ready, rfl⟩

/-- **No start-up over an enabled drive.**  When `on_activate` succeeds, every drive that was not
preloaded in the first cycle has been seen outside Operation Enabled in one of its cycles. -/
theorem seen_disabled_of_startup
    (axes : ∀ entry ∈ (bring (d.master, d.cyclic)).1.2.slaves, PositionAxis entry.slave)
    (finite : FiniteStartup startup (bring (d.master, d.cyclic)).1.2)
    (succeeded : d.onActivate (driveSlave upstream) bring parameters startup = some (e, .success))
    {index : ℕ} {first : SlaveEntry (DriveModule σ)}
    (here : (startup.masterAfter (driveSlave upstream)
      (bring (d.master, d.cyclic)).1.2 1).slaves[index]? = some first)
    (unpreloaded : first.slave.drive.targetPositionPreloaded = false ∧
      first.slave.drive.targetPositionPreloadPending = false) :
    ∃ cycles entry, (startup.masterAfter (driveSlave upstream)
        (bring (d.master, d.cyclic)).1.2 (cycles + 1)).slaves[index]? = some entry ∧
      entry.slave.drive.state ≠ upstream.operationEnabled ∧
      ∃ ended, e.cyclic = startup.masterAfter (driveSlave upstream)
        (bring (d.master, d.cyclic)).1.2 (ended + 1) ∧ cycles ≤ ended := by
  obtain ⟨preloadTimeoutMs, -, master, cyclic, -, brought, bus, preload, -, initialized, rfl⟩ :=
    onActivate_success_iff.mp succeeded
  rw [brought] at axes finite here ⊢
  by_contra unseen
  have enabled : ∀ earlier ≤ preload, ∀ entry,
      (startup.masterAfter (driveSlave upstream) cyclic (earlier + 1)).slaves[index]? =
        some entry → entry.slave.drive.state = upstream.operationEnabled := by
    intro earlier within entry found
    by_contra outside
    exact unseen ⟨earlier, entry, found, outside, preload, rfl, within⟩
  have within : index < cyclic.slaves.length := by
    obtain ⟨inside, -⟩ := List.getElem?_eq_some_iff.mp here
    rwa [length_masterAfter] at inside
  have found := List.getElem?_eq_getElem (show index <
    (startup.masterAfter (driveSlave upstream) cyclic (preload + 1)).slaves.length by
      rwa [length_masterAfter])
  have waiting := unpreloaded_of_enabled axes finite here unpreloaded preload enabled found
  have reached := initialized.ready _ (List.mem_of_getElem? found)
  exact Bool.false_ne_true (waiting.1.symm.trans reached)

end Startup

/-! The turn motor on a bus that is ready in the first cycle. -/

/-- A reading of the clock at a full second. -/
def fullSecond (sec : ℕ) : Timespec :=
  ⟨sec, 0, second_pos⟩

theorem fullSecond_slept (cycles : ℕ) :
    (fullSecond 1).nanoseconds + (cycles + 1) * 1000000 ≤
      (fullSecond (cycles + 2)).nanoseconds := by
  simp only [Timespec.nanoseconds, fullSecond, second]
  omega

/-- A start-up in which every frame is complete, every slave is OP and the status word is given. -/
def turnStartup (statusWord : ℚ) : Startup (ℕ → Double) where
  interval := 1000000
  start := fullSecond 1
  cycle cycles := {
    received := {
      wcState := .complete
      time := fullSecond (cycles + 2)
      report := some {
        linkUp := true
        slavesResponding := 1
        configState := fun _ => { alState := ecAlStateOp, operational := true } }
      inputs := fun _ => turnInputs 262144 statusWord }
    now := fullSecond (cycles + 2) }
  preloadStart cycles := fullSecond (cycles + 2)
  positive := by decide
  slept := fullSecond_slept

/-- The upstream part puts the turn motor on the bus. -/
def turnBring (_ : EcMaster × Cyclic (DriveModule Bool)) :
    (EcMaster × Cyclic (DriveModule Bool)) × Bool :=
  (({ requested := true, masterActive := true, slaveInfo := [{ position := 14 }] },
    { slaves := [{ slave := { drive := turnStart } }] }), true)

def turnParameters : HardwareParameters where
  controlFrequency := 1000
  preloadTimeoutMs := some "500"
  startupBusTimeoutMs := some "10000"

/-- The driver before its first activation. -/
def turnDriver : CyclicDriver (DriveModule Bool) where
  activated := false
  master := { requested := true, slaveInfo := [] }
  cyclic := { slaves := [] }

theorem turn_axes : ∀ entry ∈ (turnBring (turnDriver.master, turnDriver.cyclic)).1.2.slaves,
    PositionAxis entry.slave := by
  intro entry member
  cases List.mem_singleton.mp member
  exact ⟨rfl, by decide, by decide, by decide, by decide⟩

theorem turn_finite (statusWord : ℚ) : FiniteStartup (turnStartup statusWord)
    (turnBring (turnDriver.master, turnDriver.cyclic)).1.2 := by
  intro cycle index entry found position actual
  show (turnInputs 262144 statusWord position).isSome = true
  rw [turnInputs.eq_def]
  split <;> rfl

theorem turn_ready :
    (turnStartup 0x23).BusReadyIn (driveSlave turnUpstream)
      (turnBring (turnDriver.master, turnDriver.cyclic)).1.2 10000 0 := by
  refine ⟨⟨rfl, by decide +kernel⟩, ?_⟩
  intro earlier before
  exact absurd before (Nat.not_lt_zero earlier)

theorem startup_of_axes_of_turn :
    ∃ e, turnDriver.onActivate (driveSlave turnUpstream) turnBring turnParameters
      (turnStartup 0x23) = some (e, .success) := by
  refine ⟨_, (startup_of_axes turn_axes (turn_finite 0x23) ?_).mpr
    ⟨500, 10000, _, _, by decide +kernel, rfl, 0, turn_ready, rfl⟩⟩
  intro busTimeoutMs bus found
  have first : bus = 0 := by
    by_contra later
    exact (found.waited 0 (Nat.pos_of_ne_zero later)).1 turn_ready.ready
  rw [first]
  decide +kernel

/-- The turn motor starts. -/
theorem turn_started :
    ∃ e, turnDriver.onActivate (driveSlave turnUpstream) turnBring turnParameters
      (turnStartup 0x23) = some (e, .success) := by
  have initialized : (turnStartup 0x23).InitializedIn (driveSlave turnUpstream)
      (turnBring (turnDriver.master, turnDriver.cyclic)).1.2 500 0 1 := by
    refine ⟨Nat.zero_lt_one, by unfold Cyclic.Initialized; decide +kernel, ?_⟩
    intro between after before
    omega
  have checked : turnDriver.checkParameters turnParameters = .ok (500, 10000) := by
    decide +kernel
  exact ⟨_, onActivate_success_iff.mpr
    ⟨500, 10000, _, _, checked, rfl, 0, 1, turn_ready, initialized, rfl⟩⟩

theorem seen_disabled_of_startup_of_turn :
    ∃ cycles entry, ((turnStartup 0x23).masterAfter (driveSlave turnUpstream)
        (turnBring (turnDriver.master, turnDriver.cyclic)).1.2 (cycles + 1)).slaves[0]? =
          some entry ∧ entry.slave.drive.state ≠ turnUpstream.operationEnabled := by
  obtain ⟨e, succeeded⟩ := turn_started
  obtain ⟨first, here⟩ : ∃ first, ((turnStartup 0x23).masterAfter (driveSlave turnUpstream)
      (turnBring (turnDriver.master, turnDriver.cyclic)).1.2 1).slaves[0]? = some first :=
    ⟨_, rfl⟩
  have unpreloaded : first.slave.drive.targetPositionPreloaded = false ∧
      first.slave.drive.targetPositionPreloadPending = false := by
    cases here
    decide +kernel
  obtain ⟨cycles, entry, found, outside, -⟩ :=
    seen_disabled_of_startup turn_axes (turn_finite 0x23) succeeded here unpreloaded
  exact ⟨cycles, entry, found, outside⟩

end RtControl.Ethercat
