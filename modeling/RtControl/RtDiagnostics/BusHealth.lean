import RtControl.Ethercat.Lifecycle
import RtControl.RtDiagnostics.Freshness
import RtControl.Transition.Topic

/-!
# From the bus to the master row

The state interfaces of the driver are broadcast as dynamic joint states, which may be lost on their
way, and the node turns the last one received into the master row.  While that row stays OK, every
frame that was read between the broadcasts shown had a complete working counter.
-/

namespace RtControl.RtDiagnostics

open RtControl.Codec
open RtControl.Ethercat
open RtControl.Transition

universe u v w

/-! ## Broadcasts -/

/-- A value of a state interface in a message. -/
def ofDouble : Double → PyFloat
  | none => .nan
  | some value => .finite value

/-- The values of the state interfaces under their full names. -/
def sensorEntries (sensors : List Sensor) (states : SensorStates) : List (String × PyFloat) :=
  (sensors.zip states).flatMap fun (sensor, values) =>
    (sensor.stateInterfaces.zip values).map fun (interface, value) =>
      (sensor.name ++ "/" ++ interface, ofDouble value)

/-- A message of the broadcaster: it has every state interface once, with its value. -/
def Broadcasts (sensors : List Sensor) (states : SensorStates) (message : DynamicJointState) :
    Prop :=
  (message.entries.map Prod.fst).Nodup ∧ sensorEntries sensors states ⊆ message.entries

instance (sensors : List Sensor) (states : SensorStates) (message : DynamicJointState) :
    Decidable (Broadcasts sensors states message) :=
  inferInstanceAs (Decidable (_ ∧ ∀ _, _ → _))

/-- The names of the values of the master row. -/
def masterNames : List (String × String) :=
  [("ethercat_domain", "process_data_age_ms"), ("ethercat_master", "link_up"),
    ("ethercat_master", "slaves_responding"), ("ethercat_master", "wc_error_count")]

section Messages

variable {sensors : List Sensor} {states : SensorStates} {message : DynamicJointState}
variable {values : String → Option PyFloat} {key : String} {value : PyFloat}

/-- A bound interface is in the message. -/
theorem mem_of_broadcasts (broadcasts : Broadcasts sensors states message)
    {sensorName interfaceName : String} {binding : Nat × Nat} {state : Double}
    (found : findSensorStateInterface sensors sensorName interfaceName = some binding)
    (shown : getSensorState binding states = some state) :
    (sensorName ++ "/" ++ interfaceName, ofDouble state) ∈ message.entries := by
  obtain ⟨sensor, here, rfl, interface⟩ := findSensorStateInterface_eq_some found
  obtain ⟨row, there, shown⟩ := Option.bind_eq_some_iff.mp shown
  refine broadcasts.2 (List.mem_flatMap.mpr ⟨(sensor, row), ?_, ?_⟩)
  · exact List.mem_of_getElem? (List.getElem?_zip_eq_some.mpr ⟨here, there⟩)
  · refine List.mem_map.mpr ⟨(interfaceName, state), ?_, rfl⟩
    exact List.mem_of_getElem? (List.getElem?_zip_eq_some.mpr ⟨interface, shown⟩)

/-- Merging keeps the values of the other names. -/
theorem merge_of_absent {entries : List (String × PyFloat)}
    (absent : ∀ entry ∈ entries, entry.1 ≠ key) : merge values entries key = values key := by
  induction entries generalizing values with
  | nil => rfl
  | cons head entries ih =>
      obtain ⟨other, absent⟩ := List.forall_mem_cons.mp absent
      rw [merge, List.foldl_cons]
      exact (ih absent).trans (Function.update_of_ne (Ne.symm other) _ _)

/-- Merging distinct names stores every value. -/
theorem merge_of_mem {entries : List (String × PyFloat)} (distinct : (entries.map Prod.fst).Nodup)
    (inside : (key, value) ∈ entries) : merge values entries key = some value := by
  induction entries generalizing values with
  | nil => cases inside
  | cons head entries ih =>
      rw [List.map_cons, List.nodup_cons] at distinct
      rw [merge, List.foldl_cons]
      rcases List.mem_cons.mp inside with rfl | inside
      · refine (merge_of_absent fun entry member same => ?_).trans (Function.update_self ..)
        exact distinct.1 (List.mem_map.mpr ⟨entry, member, same⟩)
      · exact ih distinct.2 inside

end Messages

/-! ## The pipeline -/

/-- The driver, the messages on their way and the node. -/
structure Pipeline (μ : Type u) where
  driver : DriverState μ
  queue : List DynamicJointState
  node : Node

/-- The calls of the driver, the broadcasts and their losses, and the callbacks of the node. -/
inductive PipelineEvent (μ : Type u) (ι : Type v) (κ : Type w) where
  | driver (event : DriverEvent μ ι κ)
  | broadcast (message : DynamicJointState)
  | lose (index : Nat)
  | deliver (nowNs : Int)
  | diagnostics (nowNs : Int) (statuses : List DiagnosticStatus)
  | tick (nowNs : Int)

section Pipeline

variable {μ : Type u} {ι : Type v} {κ : Type w}

/-- One event.  The broadcaster is not part of this code: any message is broadcast that has every
state interface once. -/
def pipelineStep (plugin : EcAxis μ ι κ) (config : DiagnosticConfig) :
    Step (Pipeline μ) (PipelineEvent μ ι κ)
  | s, .driver event =>
      (driverStep plugin config s.driver event).map fun driver => { s with driver }
  | s, .broadcast message =>
      if Broadcasts config.sensors s.driver.sensorStates message then
        some { s with queue := s.queue ++ [message] }
      else
        none
  | s, .lose index => some { s with queue := loseAt index s.queue }
  | s, .deliver nowNs =>
      match s.queue with
      | [] => none
      | message :: queue =>
          (step s.node (.dynamicState nowNs message)).map fun node => { s with queue, node }
  | s, .diagnostics nowNs statuses =>
      (step s.node (.diagnostics nowNs statuses)).map fun node => { s with node }
  | s, .tick nowNs => (step s.node (.tick nowNs)).map fun node => { s with node }

/-! ## What is shown -/

/-- What a read has written: the number of calls of `on_activate` before it, with those that failed,
the diagnostics after the last of them, the frames read since then and the time. -/
structure Publication (ι : Type v) where
  activations : Nat
  base : MasterDiagnostics
  frames : List (Received ι)
  now : Timespec

/-- The diagnostics that the read has written. -/
def Publication.diagnostics (p : Publication ι) : MasterDiagnostics :=
  p.base.after p.frames

/-- The values of the master row: what a read has written, or an age that is not a number. -/
def masterRows : Option (Publication ι) → List DiagnosticRow
  | none => [⟨"ethercat_domain", "process_data_age_ms", none⟩]
  | some p => p.diagnostics.rows [] p.now

/-- The bus is healthy: the link is up, all responders are there, and the process data is fresh. -/
structure Publication.Healthy (p : Publication ι) : Prop where
  link : p.diagnostics.linkUp = true
  responders : p.diagnostics.slavesResponding = 16
  fresh : ∃ complete, p.diagnostics.lastComplete = some complete ∧ ageMs p.now complete ≤ 3000

/-- A later read; within one activation every frame in between is a good one. -/
def Publication.Continues (good : Received ι → Prop) (p q : Publication ι) : Prop :=
  p.activations < q.activations ∨
    p.activations = q.activations ∧ p.base = q.base ∧
      ∃ more, q.frames = p.frames ++ more ∧ ∀ frame ∈ more, good frame

/-- Nothing has been read yet, or a later read. -/
def Follows (good : Received ι → Prop) : Option (Publication ι) → Option (Publication ι) → Prop
  | none, _ => True
  | some _, none => False
  | some p, some q => p.Continues good q

/-- What the driver has done, the calls of `on_activate`, with those that failed, the publications
that the messages carry, and those shown by the OK master rows since the last one that was not
OK. -/
structure BusHistory (ι : Type v) where
  driver : DriverHistory ι
  activations : Nat := 0
  topic : Topic (Option (Publication ι)) := ⟨none, [], none⟩
  streak : List (Option (Publication ι)) := []

/-- The history of every event. -/
def recordBus (render : PyFloat → String) (s : Pipeline μ) (event : PipelineEvent μ ι κ)
    (t : Pipeline μ) (h : BusHistory ι) : BusHistory ι :=
  match event with
  | .driver event =>
      let driver := recordDriver s.driver event t.driver h.driver
      match event with
      | .onActivate .. => { h with driver, activations := h.activations + 1 }
      | .read _ now =>
          if s.driver.activated then
            { h with
              driver
              topic := h.topic.advance (some ⟨h.activations, driver.base, driver.frames, now⟩) }
          else
            h
      | _ => { h with driver }
  | .broadcast _ => { h with topic := h.topic.publish }
  | .lose index => { h with topic := h.topic.lose index }
  | .deliver _ => { h with topic := h.topic.deliver }
  | .diagnostics .. => h
  | .tick nowNs =>
      { h with
        streak :=
          if (s.node.masterRow render nowNs).level = .ok then h.streak ++ [h.topic.held] else [] }

variable {good : Received ι → Prop} {p q : Publication ι} {x y z : Option (Publication ι)}

theorem Publication.Continues.trans {r : Publication ι} (first : p.Continues good q)
    (second : q.Continues good r) : p.Continues good r := by
  rcases first with before | ⟨same, base, more, frames, each⟩
  · refine Or.inl ?_
    rcases second with later | ⟨same, -⟩
    · exact before.trans later
    · exact same ▸ before
  · rcases second with later | ⟨again, other, rest, others, all⟩
    · exact Or.inl (same ▸ later)
    · refine Or.inr ⟨same.trans again, base.trans other, more ++ rest, ?_, ?_⟩
      · rw [others, frames, List.append_assoc]
      · intro frame member
        rcases List.mem_append.mp member with member | member
        · exact each frame member
        · exact all frame member

theorem Follows.refl (x : Option (Publication ι)) : Follows good x x := by
  cases x with
  | none => trivial
  | some p => exact Or.inr ⟨rfl, rfl, [], (List.append_nil p.frames).symm, by simp⟩

theorem Follows.trans (first : Follows good x y) (second : Follows good y z) :
    Follows good x z := by
  cases x with
  | none => trivial
  | some p =>
      cases y with
      | none => exact first.elim
      | some q =>
          cases z with
          | none => exact second.elim
          | some r => exact Publication.Continues.trans first second

/-! ## The values of the master row -/

/-- The message has the values of the master row. -/
def Carries (message : DynamicJointState) (x : Option (Publication ι)) : Prop :=
  (message.entries.map Prod.fst).Nodup ∧
    ∀ row ∈ masterRows x, (row.sensor ++ "/" ++ row.interface, ofDouble row.value) ∈ message.entries

/-- The node has them. -/
def Holds (values : String → Option PyFloat) (x : Option (Publication ι)) : Prop :=
  ∀ row ∈ masterRows x,
    values (row.sensor ++ "/" ++ row.interface) = some (ofDouble row.value)

/-- No read has written a state interface. -/
def Unset (states : SensorStates) : Prop :=
  ∀ values ∈ states, ∀ value ∈ values, value = none

variable {message : DynamicJointState} {node : Node} {nowNs : Int}

theorem holds_onDynamicState (carries : Carries message x) :
    Holds (node.onDynamicState nowNs message).values x :=
  fun row member => merge_of_mem carries.1 (carries.2 row member)

theorem name_of_masterRows {row : DiagnosticRow} (member : row ∈ masterRows x) :
    (row.sensor, row.interface) ∈ masterNames := by
  cases x with
  | none =>
      cases List.mem_singleton.mp member
      exact List.mem_cons_self
  | some p =>
      have names : (masterRows (some p)).map (fun row => (row.sensor, row.interface)) =
          masterNames := by
        simp [masterRows, MasterDiagnostics.rows, masterNames]
      rw [← names]
      exact List.mem_map_of_mem member

theorem exists_getSensorState {sensors : List Sensor} {states : SensorStates}
    {sensorName interfaceName : String} {binding : Nat × Nat} (shaped : Shaped sensors states)
    (found : findSensorStateInterface sensors sensorName interfaceName = some binding) :
    ∃ value, getSensorState binding states = some value := by
  obtain ⟨sensor, here, -, interface⟩ := findSensorStateInterface_eq_some found
  have lengths := congrArg (·[binding.1]?) shaped
  simp only [List.getElem?_map, here, Option.map_some] at lengths
  obtain ⟨values, there, length⟩ := Option.map_eq_some_iff.mp lengths
  have within : binding.2 < values.length := by
    rw [length]
    exact (List.getElem?_eq_some_iff.mp interface).1
  exact ⟨values[binding.2], by simp [getSensorState, there, within]⟩

theorem unset_getSensorState {states : SensorStates} {binding : Nat × Nat} {value : Double}
    (unset : Unset states) (shown : getSensorState binding states = some value) : value = none := by
  obtain ⟨values, here, there⟩ := Option.bind_eq_some_iff.mp shown
  exact unset values (List.mem_of_getElem? here) value (List.mem_of_getElem? there)

section Rows

variable {render : PyFloat → String}

/-- The row of a node is OK only on fresh and complete values without a complaint. -/
theorem ok_of_masterRow (ok : (node.masterRow render nowNs).level = .ok) :
    node.topicStale nowNs = false ∧ node.processStale = false ∧ node.masterValues.1 = true ∧
      node.masterValues.2.1.lt (.finite (1 / 2)) = false ∧
      truncate node.masterValues.2.2.1 = 16 ∧
      (node.hasPreviousWcCount && node.previousWcErrorCount.lt node.masterValues.2.2.2) =
        false := by
  simp only [Node.masterRow] at ok
  split_ifs at ok with stale link changed
  simp only [Bool.or_eq_true, Bool.not_eq_true', not_or, Bool.not_eq_true, Bool.not_eq_false]
    at stale
  rw [Bool.not_eq_true, Bool.or_eq_false_iff, decide_eq_false_iff_not, not_not] at changed
  exact ⟨stale.1.1, stale.1.2, stale.2, Bool.eq_false_iff.mpr link, changed⟩

theorem lt_finite {first second : ℚ} :
    (PyFloat.finite first).lt (.finite second) = decide (first < second) := by
  rw [PyFloat.lt, PyFloat.le, PyFloat.le, ← decide_not, ← Bool.decide_and]
  exact decide_eq_decide.mpr lt_iff_le_not_ge.symm

/-- What the node reads of a publication. -/
theorem masterValues_of_holds (holds : Holds node.values (some p)) :
    node.masterValues = (true, .finite (if p.diagnostics.linkUp then 1 else 0),
      .finite p.diagnostics.slavesResponding,
      .finite p.diagnostics.workingCounterErrorCount) := by
  simp only [Holds, masterRows, MasterDiagnostics.rows, List.cons_append, List.forall_mem_cons]
    at holds
  obtain ⟨-, link, slaves, count, -⟩ := holds
  have link : node.values linkUpKey = _ := link
  have slaves : node.values slavesRespondingKey = _ := slaves
  have count : node.values wcErrorCountKey = _ := count
  simp [Node.masterValues, getValue, link, slaves, count, ofDouble, PyFloat.isFinite]

/-- Without a read the row is stale. -/
theorem processStale_of_none (holds : Holds node.values (none : Option (Publication ι))) :
    node.processStale = true := by
  have age : node.values processAgeKey = some .nan :=
    holds ⟨"ethercat_domain", "process_data_age_ms", none⟩ (List.mem_singleton.mpr rfl)
  simp [Node.processStale, Node.processAge, getValue, age, PyFloat.isFinite]

/-- Fresh process data have been complete within the timeout before the read. -/
theorem fresh_of_holds (holds : Holds node.values (some p)) (fresh : node.processStale = false) :
    ∃ complete, p.diagnostics.lastComplete = some complete ∧ ageMs p.now complete ≤ 3000 := by
  have age : node.values processAgeKey =
      some (ofDouble (p.diagnostics.lastComplete.map (ageMs p.now))) :=
    holds ⟨"ethercat_domain", "process_data_age_ms", _⟩ List.mem_cons_self
  rw [Node.processStale, Node.processAge, getValue, age] at fresh
  cases complete : p.diagnostics.lastComplete with
  | none =>
      rw [complete] at fresh
      cases fresh
  | some time =>
      rw [complete] at fresh
      have within : (PyFloat.finite 3000).lt (.finite (ageMs p.now time)) = false := fresh
      rw [lt_finite, decide_eq_false_iff_not, not_lt] at within
      exact ⟨time, rfl, within⟩

/-- An OK row shows a healthy bus. -/
theorem healthy_of_ok (holds : Holds node.values (some p))
    (ok : (node.masterRow render nowNs).level = .ok) : p.Healthy := by
  obtain ⟨-, fresh, -, link, responders, -⟩ := ok_of_masterRow ok
  rw [masterValues_of_holds holds] at link responders
  refine ⟨?_, ?_, fresh_of_holds holds fresh⟩
  · by_contra down
    rw [Bool.not_eq_true] at down
    rw [down, lt_finite, decide_eq_false_iff_not] at link
    norm_num at link
  · have same : truncate (.finite (p.diagnostics.slavesResponding : ℚ)) =
        p.diagnostics.slavesResponding := by
      simp [truncate]
    have responders : truncate (.finite (p.diagnostics.slavesResponding : ℚ)) = 16 := responders
    rw [same] at responders
    exact_mod_cast responders

/-- No incomplete frame in between when the count has not increased. -/
theorem complete_of_count_le {more : List (Received ι)} {d : MasterDiagnostics}
    {frames : List (Received ι)}
    (count : (d.after (frames ++ more)).workingCounterErrorCount ≤
      (d.after frames).workingCounterErrorCount) :
    ∀ frame ∈ more, frame.wcState = .complete := by
  intro frame member
  rw [MasterDiagnostics.after, MasterDiagnostics.after, List.countP_append] at count
  have zero : more.countP (fun frame => decide (frame.wcState ≠ .complete)) = 0 := by
    dsimp only at count
    omega
  have kept := List.countP_eq_zero.mp zero frame member
  rw [decide_eq_true_eq, not_not] at kept
  exact kept

/-- An OK row whose previous count is that of an earlier publication. -/
theorem continues_of_ok {p q : Publication ι} (holds : Holds node.values (some q))
    (ok : (node.masterRow render nowNs).level = .ok) (has : node.hasPreviousWcCount = true)
    (previous : node.previousWcErrorCount = .finite p.diagnostics.workingCounterErrorCount)
    (follows : p.Continues (fun _ => True) q) :
    p.Continues (fun frame => frame.wcState = .complete) q := by
  rcases follows with before | ⟨same, base, more, frames, -⟩
  · exact Or.inl before
  · obtain ⟨-, -, -, -, -, count⟩ := ok_of_masterRow ok
    rw [masterValues_of_holds holds, has, previous, Bool.true_and, lt_finite,
      decide_eq_false_iff_not, not_lt, Nat.cast_le] at count
    refine Or.inr ⟨same, base, more, frames, ?_⟩
    rw [Publication.diagnostics, Publication.diagnostics, frames, ← base] at count
    exact complete_of_count_le count

end Rows

/-! ## The streak of OK rows -/

/-- The OK rows in a row: they show healthy publications with complete frames in between, and the
node remembers the last count. -/
structure Streak (node : Node) (held : Option (Publication ι))
    (streak : List (Option (Publication ι))) (shown : List (Publication ι)) : Prop where
  published : streak = shown.map some
  healthy : ∀ p ∈ shown, p.Healthy
  gapless : shown.Pairwise (Publication.Continues fun frame => frame.wcState = .complete)
  last : ∀ p, shown.getLast? = some p →
    node.hasPreviousWcCount = true ∧
      node.previousWcErrorCount = .finite p.diagnostics.workingCounterErrorCount ∧
      Follows (fun _ => True) (some p) held

variable {render : PyFloat → String} {streak : List (Option (Publication ι))}
variable {shown : List (Publication ι)}

theorem Streak.nil (node : Node) (held : Option (Publication ι)) : Streak node held [] [] where
  published := rfl
  healthy _ member := nomatch member
  gapless := .nil
  last _ none := nomatch none

/-- A node with the same count, and a later held publication. -/
theorem Streak.later {target : Node} (kept : Streak node x streak shown)
    (has : target.hasPreviousWcCount = node.hasPreviousWcCount)
    (previous : target.previousWcErrorCount = node.previousWcErrorCount)
    (follows : Follows (fun _ => True) x y) : Streak target y streak shown := by
  refine ⟨kept.published, kept.healthy, kept.gapless, fun p found => ?_⟩
  obtain ⟨counted, count, before⟩ := kept.last p found
  exact ⟨has.trans counted, previous.trans count, before.trans follows⟩

theorem previousWc_onDiagnostics (node : Node) (nowNs : Int) (statuses : List DiagnosticStatus) :
    (node.onDiagnostics nowNs statuses).hasPreviousWcCount = node.hasPreviousWcCount ∧
      (node.onDiagnostics nowNs statuses).previousWcErrorCount = node.previousWcErrorCount := by
  induction statuses generalizing node with
  | nil => exact ⟨rfl, rfl⟩
  | cons status statuses ih =>
      have head : (node.onDiagnosticStatus nowNs status).hasPreviousWcCount =
          node.hasPreviousWcCount ∧
          (node.onDiagnosticStatus nowNs status).previousWcErrorCount =
            node.previousWcErrorCount := by
        unfold Node.onDiagnosticStatus
        split_ifs <;> exact ⟨rfl, rfl⟩
      exact ⟨(ih _).1.trans head.1, (ih _).2.trans head.2⟩

/-- The next snapshot. -/
theorem streak_tick (holds : node.hasDynamicState = true → Holds node.values x)
    (kept : Streak node x streak shown) :
    ∃ shown, Streak node.publishSnapshot x
      (if (node.masterRow render nowNs).level = .ok then streak ++ [x] else []) shown := by
  split_ifs with ok
  · obtain ⟨topic, fresh, complete, -⟩ := ok_of_masterRow ok
    rw [Node.topicStale, Bool.or_eq_false_iff, Bool.not_eq_false'] at topic
    have holds := holds topic.1
    cases x with
    | none =>
        rw [processStale_of_none holds] at fresh
        cases fresh
    | some q =>
        refine ⟨shown ++ [q], ?_, ?_, ?_, ?_⟩
        · rw [kept.published, List.map_append, List.map_singleton]
        · intro p member
          rcases List.mem_append.mp member with member | member
          · exact kept.healthy p member
          · rw [List.mem_singleton.mp member]
            exact healthy_of_ok holds ok
        · rcases List.eq_nil_or_concat shown with rfl | ⟨earlier, last, rfl⟩
          · exact List.pairwise_singleton _ q
          · rw [List.concat_eq_append] at kept ⊢
            obtain ⟨has, previous, follows⟩ := kept.last last List.getLast?_concat
            have next := continues_of_ok holds ok has previous follows
            refine List.pairwise_append.mpr ⟨kept.gapless, List.pairwise_singleton _ q, ?_⟩
            intro p member other same
            rw [List.mem_singleton.mp same]
            rcases List.mem_append.mp member with member | member
            · have before := (List.pairwise_append.mp kept.gapless).2.2 p member last
                (List.mem_singleton.mpr rfl)
              exact before.trans next
            · rw [List.mem_singleton.mp member]
              exact next
        · intro p found
          rw [List.getLast?_concat, Option.some_inj] at found
          subst found
          rw [Node.publishSnapshot, masterValues_of_holds holds]
          exact ⟨rfl, rfl, Follows.refl (some q)⟩
  · exact ⟨[], .nil _ _⟩

/-! ## Runs of the pipeline -/

/-- The publications are those of the driver, in the order of its reads. -/
structure Tracked (states : SensorStates) (h : BusHistory ι) : Prop where
  unread : h.topic.latest = none → Unset states
  latest : h.driver.published = h.topic.latest.map fun p => (p.base, p.frames, p.now)
  current : ∀ p, h.topic.latest = some p → p.activations ≤ h.activations ∧
    (p.activations = h.activations → p.base = h.driver.base ∧
      ∃ more, h.driver.frames = p.frames ++ more)
  ordered : h.topic.Ordered (Follows fun _ => True)

/-- The invariant of the pipeline. -/
structure Sound (config : DiagnosticConfig) (s : Pipeline μ) (h : BusHistory ι) : Prop where
  published : Published config s.driver h.driver
  tracked : Tracked s.driver.sensorStates h
  inFlight : List.Forall₂ Carries s.queue h.topic.queue
  holds : s.node.hasDynamicState = true → Holds s.node.values h.topic.held
  streak : ∃ shown, Streak s.node h.topic.held h.streak shown

variable {plugin : EcAxis μ ι κ} {config : DiagnosticConfig} {s t : Pipeline μ} {h : BusHistory ι}

/-- A broadcast carries the latest publication. -/
theorem carries_latest (bound : ∀ name ∈ masterNames,
      (findSensorStateInterface config.sensors name.1 name.2).isSome = true)
    (sound : Sound config s h)
    (broadcasts : Broadcasts config.sensors s.driver.sensorStates message) :
    Carries message h.topic.latest := by
  refine ⟨broadcasts.1, fun row member => ?_⟩
  obtain ⟨binding, found⟩ := Option.isSome_iff_exists.mp (bound _ (name_of_masterRows member))
  cases latest : h.topic.latest with
  | none =>
      rw [latest] at member
      cases List.mem_singleton.mp member
      obtain ⟨value, shows⟩ := exists_getSensorState sound.published.shaped found
      have unset := unset_getSensorState (sound.tracked.unread latest) shows
      rw [unset] at shows
      exact mem_of_broadcasts broadcasts found shows
  | some p =>
      rw [latest] at member
      have published := sound.tracked.latest
      rw [latest, Option.map_some] at published
      have listed : row ∈ p.diagnostics.rows config.positions p.now := by
        rw [masterRows, MasterDiagnostics.rows, List.zip_nil_left, List.filterMap_nil,
          List.append_nil] at member
        exact List.mem_append_left _ member
      have shows := (sound.published.shown _ _ _ published).2 row listed binding found
      exact mem_of_broadcasts broadcasts found shows

/-- A read is published after the earlier ones. -/
theorem tracked_driver {event : DriverEvent μ ι κ} {driver : DriverState μ}
    (tracked : Tracked s.driver.sensorStates h)
    (stepped : driverStep plugin config s.driver event = some driver) :
    Tracked driver.sensorStates (recordBus render s (.driver event) { s with driver } h) := by
  cases event with
  | onActivate upstream parameters startup =>
      obtain ⟨started, -, rfl⟩ := Option.map_eq_some_iff.mp stepped
      refine ⟨tracked.unread, tracked.latest, fun p latest => ?_, tracked.ordered⟩
      have before := (tracked.current p latest).1
      refine ⟨before.trans (Nat.le_succ _), fun same => ?_⟩
      exact absurd same (Nat.ne_of_lt (Nat.lt_succ_of_le before))
  | onDeactivate bus =>
      obtain ⟨stopped, -, rfl⟩ := Option.map_eq_some_iff.mp stepped
      exact ⟨tracked.unread, tracked.latest, tracked.current, tracked.ordered⟩
  | read received now =>
      rw [driverStep] at stepped
      split_ifs at stepped with active
      · cases stepped
        simp only [recordBus, recordDriver, if_pos active]
        refine ⟨fun none => absurd none (Option.some_ne_none _), rfl, ?_, ?_⟩
        · intro p latest
          cases latest
          exact ⟨Nat.le_refl _, fun _ => ⟨rfl, [], (List.append_nil _).symm⟩⟩
        · refine tracked.ordered.advance Follows.trans ?_
          cases latest : h.topic.latest with
          | none => trivial
          | some p =>
              obtain ⟨before, same⟩ := tracked.current p latest
              rcases before.lt_or_eq with earlier | equal
              · exact Or.inl earlier
              · obtain ⟨base, more, frames⟩ := same equal
                refine Or.inr ⟨equal, base, more ++ [received], ?_, fun _ _ => trivial⟩
                rw [← List.append_assoc, ← frames]
      · cases stepped
        simp only [recordBus, if_neg active]
        exact tracked
  | write =>
      cases stepped
      refine ⟨fun latest => ?_, tracked.latest, tracked.current, tracked.ordered⟩
      show Unset (DriverState.sensorStates (if _ then _ else _))
      split_ifs
      · exact tracked.unread latest
      · exact tracked.unread latest
  | setCommand index command =>
      cases stepped
      exact ⟨tracked.unread, tracked.latest, tracked.current, tracked.ordered⟩

theorem tracked_deliver {states : SensorStates} (tracked : Tracked states h) :
    Tracked states { h with topic := h.topic.deliver } := by
  have latest := h.topic.latest_deliver
  refine ⟨fun none => tracked.unread (latest.symm.trans none), ?_, fun p found => ?_,
    tracked.ordered.deliver⟩
  · exact tracked.latest.trans (congrArg _ latest.symm)
  · exact tracked.current p (latest.symm.trans found)

/-- The history of the driver is that of its own run. -/
theorem driver_recordBus (event : DriverEvent μ ι κ) :
    (recordBus render s (.driver event) t h).driver =
      recordDriver s.driver event t.driver h.driver := by
  cases event with
  | read received now =>
      rw [recordBus, recordDriver]
      split_ifs <;> rfl
  | _ => rfl

variable (render s t h) in
/-- The calls of the driver change neither what is on its way nor what is held. -/
theorem topic_recordBus (event : DriverEvent μ ι κ) :
    (recordBus render s (.driver event) t h).topic.queue = h.topic.queue ∧
      (recordBus render s (.driver event) t h).topic.held = h.topic.held ∧
      (recordBus render s (.driver event) t h).streak = h.streak := by
  cases event with
  | read received now =>
      rw [recordBus]
      split_ifs <;> exact ⟨rfl, rfl, rfl⟩
  | _ => exact ⟨rfl, rfl, rfl⟩

/-- Every event keeps the invariant. -/
theorem sound_step (distinct : config.positions.reduceOption.Nodup)
    (bound : ∀ name ∈ masterNames,
      (findSensorStateInterface config.sensors name.1 name.2).isSome = true)
    (sound : Sound config s h) (event : PipelineEvent μ ι κ)
    (stepped : pipelineStep plugin config s event = some t) :
    Sound config t (recordBus render s event t h) := by
  cases event with
  | driver event =>
      obtain ⟨driver, moved, rfl⟩ := Option.map_eq_some_iff.mp stepped
      obtain ⟨queue, held, streak⟩ := topic_recordBus render s { s with driver } h event
      refine ⟨?_, tracked_driver sound.tracked moved, ?_, ?_, ?_⟩
      · rw [driver_recordBus]
        exact published_step distinct sound.published moved
      · rw [queue]
        exact sound.inFlight
      · rw [held]
        exact sound.holds
      · rw [held, streak]
        exact sound.streak
  | broadcast message =>
      rw [pipelineStep] at stepped
      split_ifs at stepped with broadcasts
      cases stepped
      have carries := carries_latest bound sound broadcasts
      refine ⟨sound.published, ⟨sound.tracked.unread, sound.tracked.latest, sound.tracked.current,
        sound.tracked.ordered.publish (Follows.refl _)⟩, ?_, sound.holds, sound.streak⟩
      exact List.rel_append sound.inFlight (.cons carries .nil)
  | lose index =>
      cases stepped
      exact ⟨sound.published, ⟨sound.tracked.unread, sound.tracked.latest, sound.tracked.current,
        sound.tracked.ordered.lose index⟩, forall₂_loseAt sound.inFlight index, sound.holds,
        sound.streak⟩
  | deliver nowNs =>
      rw [pipelineStep] at stepped
      cases waiting : s.queue with
      | nil =>
          rw [waiting] at stepped
          cases stepped
      | cons message queue =>
          rw [waiting] at stepped
          cases stepped
          have inFlight := sound.inFlight
          rw [waiting] at inFlight
          cases incoming : h.topic.queue with
          | nil =>
              rw [incoming] at inFlight
              cases inFlight
          | cons x publications =>
              rw [incoming, List.forall₂_cons] at inFlight
              have delivered : h.topic.deliver = ⟨x, publications, h.topic.latest⟩ := by
                rw [Topic.deliver, incoming]
              obtain ⟨shown, kept⟩ := sound.streak
              have follows := sound.tracked.ordered.held_deliver (Follows.refl _)
              refine ⟨sound.published, tracked_deliver sound.tracked, ?_, fun _ => ?_,
                shown, kept.later rfl rfl follows⟩
              · show List.Forall₂ Carries queue h.topic.deliver.queue
                rw [delivered]
                exact inFlight.2
              · show Holds _ h.topic.deliver.held
                rw [delivered]
                exact holds_onDynamicState inFlight.1
  | diagnostics nowNs statuses =>
      cases stepped
      have same : SameValues s.node (s.node.onDiagnostics nowNs statuses) :=
        sameValues_onDiagnostics statuses
      have count := previousWc_onDiagnostics s.node nowNs statuses
      obtain ⟨shown, kept⟩ := sound.streak
      refine ⟨sound.published, sound.tracked, sound.inFlight, ?_,
        shown, kept.later count.1 count.2 (Follows.refl _)⟩
      rw [same.values, same.has]
      exact sound.holds
  | tick nowNs =>
      cases stepped
      have same : SameValues s.node s.node.publishSnapshot := sameValues_publishSnapshot
      obtain ⟨shown, kept⟩ := sound.streak
      refine ⟨sound.published, ⟨sound.tracked.unread, sound.tracked.latest, sound.tracked.current,
        sound.tracked.ordered⟩, sound.inFlight, ?_, streak_tick sound.holds kept⟩
      rw [same.values, same.has]
      exact sound.holds

/-- **From the bus to the master row.**  In every run of the driver, the lossy broadcasts and the
node, the OK master rows since the last row that was not OK each show what a read has written: the
link up, all responders and process data that were complete within the timeout.  Between the reads
of two such rows in one activation of the driver, every frame read had a complete working
counter. -/
theorem ok_rows_gapless (plugin : EcAxis μ ι κ) (config : DiagnosticConfig)
    (render : PyFloat → String) (distinct : config.positions.reduceOption.Nodup)
    (bound : ∀ name ∈ masterNames,
      (findSensorStateInterface config.sensors name.1 name.2).isSome = true)
    {driver : DriverState μ} (shaped : Shaped config.sensors driver.sensorStates)
    (unset : Unset driver.sensorStates) (inactive : driver.activated = false) (hardwareId : String)
    {s : Pipeline μ × BusHistory ι}
    (reachable : Reachable (observed (pipelineStep plugin config) (recordBus render)) unguarded
      (⟨driver, [], .start hardwareId⟩, { driver := { base := driver.cyclic.diagnostics } }) s) :
    ∃ shown : List (Publication ι), s.2.streak = shown.map some ∧ (∀ p ∈ shown, p.Healthy) ∧
      shown.Pairwise (Publication.Continues fun frame => frame.wcState = .complete) := by
  have sound : Sound config s.1 s.2 := by
    refine reachable.invariant
      (fun s : Pipeline μ × BusHistory ι => Sound config s.1 s.2) ?_ ?_
    · refine ⟨⟨shaped, (after_nil _).symm, fun active => ?_, fun base frames now none => ?_⟩,
        ⟨fun _ => unset, rfl, fun p none => ?_, ?_⟩, .nil, fun none => ?_, [], .nil _ _⟩
      · exact absurd (inactive.symm.trans active) Bool.false_ne_true
      · cases none
      · cases none
      · exact Topic.ordered_iff.mpr ⟨List.pairwise_singleton _ _, fun _ member => by
          cases List.mem_singleton.mp member
          trivial⟩
      · cases none
    · intro source target event sound _ stepped
      obtain ⟨moved, recorded⟩ := observed_eq_some_iff.mp stepped
      rw [recorded]
      exact sound_step distinct bound sound event moved
  obtain ⟨shown, streak⟩ := sound.streak
  exact ⟨shown, streak.published, streak.healthy, streak.gapless⟩

end Pipeline

/-- A complete frame on a bus with all responders. -/
def healthyFrame (sec : ℕ) : Received (ℕ → Double) :=
  { ((turnStartup 0x23).cycle 2).received with
    time := fullSecond sec
    report := some {
      linkUp := true
      slavesResponding := 16
      configState := fun _ => { alState := ecAlStateOp, operational := true } } }

/-- The broadcast of a read right after its frame. -/
def healthyMessage : DynamicJointState where
  jointNames := ["turn", "ethercat_domain", "ethercat_master", "ethercat_slave_14"]
  interfaceValues := [
    { interfaceNames := ["position"], values := [.finite 0] },
    { interfaceNames := ["process_data_age_ms"], values := [.finite 0] },
    { interfaceNames := ["link_up", "slaves_responding", "wc_error_count"],
      values := [.finite 1, .finite 16, .finite 0] },
    { interfaceNames := ["al_state"], values := [.finite 8] }]

def turnState : DriverState (DriveModule Bool) :=
  { turnDriver with sensorStates := [[none], [none, none, none], [none]] }

def healthyEvents : List (PipelineEvent (DriveModule Bool) (ℕ → Double) (ℕ × Double)) :=
  [.driver (.onActivate turnBring turnParameters (turnStartup 0x23)),
    .driver (.read (healthyFrame 9) (fullSecond 9)), .broadcast healthyMessage,
    .deliver 1000000000, .tick 1500000000,
    .driver (.read (healthyFrame 10) (fullSecond 10)), .broadcast healthyMessage, .lose 0,
    .driver (.read (healthyFrame 11) (fullSecond 11)), .broadcast healthyMessage,
    .deliver 3000000000, .tick 3500000000]

theorem ok_rows_gapless_of_turn :
    ∃ p q : Publication (ℕ → Double), p.Healthy ∧ q.Healthy ∧
      p.Continues (fun frame => frame.wcState = .complete) q := by
  have passed : (run (observed (pipelineStep (driveAxis turnUpstream) turnDiagnostics)
      (recordBus fun _ => "")) unguarded
      (⟨turnState, [], .start "robot-001"⟩, { driver := { base := turnState.cyclic.diagnostics } })
      healthyEvents).any (fun s => decide (s.2.streak.length = 2)) = true := by
    decide +kernel
  obtain ⟨s, reachable, two⟩ := exists_reachable_of_run passed
  have shaped : Shaped turnDiagnostics.sensors turnState.sensorStates := rfl
  have unset : Unset turnState.sensorStates := by
    unfold Unset
    decide
  obtain ⟨shown, streak, healthy, gapless⟩ := ok_rows_gapless (driveAxis turnUpstream)
    turnDiagnostics (fun _ => "") (by decide) (by decide) shaped unset rfl "robot-001" reachable
  rw [decide_eq_true_eq, streak, List.length_map, List.length_eq_two] at two
  obtain ⟨p, q, rfl⟩ := two
  exact ⟨p, q, healthy p List.mem_cons_self, healthy q (List.mem_cons_of_mem p List.mem_cons_self),
    List.rel_of_pairwise_cons gapless List.mem_cons_self⟩

end RtControl.RtDiagnostics
