import RtControl.Ethercat.Cia402Drive

/-!
# Sessions of Operation Enabled

A history variable records, for the time since the drive was constructed or last left
Operation Enabled, whether an image with the exact preload was sent and whether a command
came close to the actual position.  The latches of the drive never say more than this
history.
-/

namespace RtControl.Ethercat

open RtControl.Transition

variable {σ : Type} [DecidableEq σ]

/-! ## The history of a session -/

/-- The history since the construction or the last exit of Operation Enabled. -/
structure Session where
  /-- The target position in the image was written as the latest raw actual position and
  has not changed since. -/
  exact : Bool := false
  /-- An image with an exact target position was sent. -/
  sent : Bool := false
  /-- A command was close to the actual position inside Operation Enabled. -/
  near : Bool := false

/-- The value that the next call of a pass writes to the image. -/
def Drive.nextWrite (upstream : Upstream σ) (d : Drive σ) : Option (Object × ℚ) :=
  (d.channels[d.cursor]?).bind fun channel =>
    ((d.prepare upstream channel).outgoing d.commands).map fun value => (channel.object, value)

/-- The next call handles the target position inside Operation Enabled and finds the command
close to the actual position. -/
def Drive.nearNow (upstream : Upstream σ) (d : Drive σ) : Bool :=
  (d.channels[d.cursor]?).any fun channel =>
    channel.object = .targetPosition && d.state = upstream.operationEnabled &&
      d.commandNear channel

/-- The history while the session lasts. -/
def Session.continue (upstream : Upstream σ) (session : Session) (d : Drive σ) : Session where
  exact :=
    match d.nextWrite upstream with
    | some (.targetPosition, value) =>
        d.lastPositionRaw = some value ||
          (session.exact && d.image.targetPosition = some value)
    | _ => session.exact
  sent := session.sent
  near := session.near || d.nearNow upstream

/-- The drive leaves Operation Enabled. -/
def Leaves (upstream : Upstream σ) (d t : Drive σ) : Prop :=
  d.state = upstream.operationEnabled ∧ t.state ≠ upstream.operationEnabled

instance (upstream : Upstream σ) (d t : Drive σ) : Decidable (Leaves upstream d t) :=
  inferInstanceAs (Decidable (_ ∧ _))

/-- The history of every event. -/
def record (upstream : Upstream σ) (d : Drive σ) (event : Event) (t : Drive σ)
    (session : Session) : Session :=
  match event with
  | .process => if Leaves upstream d t then {} else session.continue upstream d
  | .sent => { session with sent := session.sent || session.exact }
  | _ => session

/-! ## One call of `processData` -/

section Calls

variable {upstream : Upstream σ} {d : Drive σ} {channel : Channel}

/-- The preparation leaves the mapping and the scaling of a channel alone. -/
structure SameMapping (channel prepared : Channel) : Prop where
  object : prepared.object = channel.object
  rpdo : prepared.rpdo = channel.rpdo
  interfaceIndex : prepared.interfaceIndex = channel.interfaceIndex
  factor : prepared.factor = channel.factor
  offset : prepared.offset = channel.offset

theorem sameMapping_prepare (upstream : Upstream σ) (d : Drive σ) (channel : Channel) :
    SameMapping channel (d.prepare upstream channel) := by
  rw [Drive.prepare]
  split
  · rw [Drive.prepareControlWord]
    split
    · split <;> exact ⟨rfl, rfl, rfl, rfl, rfl⟩
    · exact ⟨rfl, rfl, rfl, rfl, rfl⟩
  · rw [Drive.prepareTargetPosition]
    split
    · split <;> exact ⟨rfl, rfl, rfl, rfl, rfl⟩
    · exact ⟨rfl, rfl, rfl, rfl, rfl⟩
  · split <;> exact ⟨rfl, rfl, rfl, rfl, rfl⟩
  · exact ⟨rfl, rfl, rfl, rfl, rfl⟩

theorem sameMapping_ecUpdate (channel : Channel) (commands : List Double) (input : Double) :
    SameMapping channel (channel.ecUpdate commands input) := by
  rw [Channel.ecUpdate]
  split <;> exact ⟨rfl, rfl, rfl, rfl, rfl⟩

theorem SameMapping.command {prepared : Channel} (same : SameMapping channel prepared)
    (commands : List Double) : prepared.command commands = channel.command commands := by
  rw [Channel.command, Channel.command, same.interfaceIndex]

theorem ecUpdate_defaultValue (commands : List Double) (input : Double) :
    (channel.ecUpdate commands input).defaultValue = channel.defaultValue := by
  rw [Channel.ecUpdate]
  split <;> rfl

/-- The prepared control word never asks for Operation Enable by its default. -/
theorem sound_prepare (upstream : Upstream σ) (d : Drive σ) (sound : channel.Sound) :
    (d.prepare upstream channel).Sound := by
  have same := sameMapping_prepare upstream d channel
  refine ⟨?_, ?_, ?_⟩
  · intro control
    rw [same.factor, same.offset]
    exact sound.unscaled (same.object ▸ control)
  · intro control value member
    have object : channel.object = .controlWord := same.object ▸ control
    rw [Drive.prepare, object] at member
    simp only [Drive.prepareControlWord] at member
    split at member
    · split at member
      · cases member
        decide +kernel
      · exact sound.default object value member
    · exact sound.default object value member
  · intro target
    rw [same.rpdo]
    exact sound.rpdo (same.object ▸ target)

theorem sound_ecUpdate (sound : channel.Sound) (commands : List Double) (input : Double) :
    (channel.ecUpdate commands input).Sound := by
  have same := sameMapping_ecUpdate channel commands input
  refine ⟨?_, ?_, ?_⟩
  · intro control
    rw [same.factor, same.offset]
    exact sound.unscaled (same.object ▸ control)
  · intro control value member
    rw [ecUpdate_defaultValue] at member
    exact sound.default (same.object ▸ control) value member
  · intro target
    rw [same.rpdo]
    exact sound.rpdo (same.object ▸ target)

/-- A control word that asks for Operation Enable is written after the preload only. -/
theorem preloaded_of_outgoing (sound : channel.Sound) (control : channel.object = .controlWord)
    {value : ℚ} (written : (d.prepare upstream channel).outgoing d.commands = some value)
    (asks : asksOperationEnable value = true) : d.targetPositionPreloaded = true := by
  have prepared := sound_prepare upstream d sound
  have same := sameMapping_prepare upstream d channel
  have object := same.object.trans control
  have fromDefault : (d.prepare upstream channel).defaultValue ≠ some value := by
    intro default
    have refused := prepared.default object value default
    rw [refused] at asks
    contradiction
  by_contra preloaded
  have missing : d.targetPositionPreloaded = false := by simpa using preloaded
  rw [Channel.outgoing] at written
  split at written
  · rw [same.command] at written
    cases requested : channel.command d.commands with
    | none =>
        rw [requested] at written
        exact fromDefault written
    | some command =>
        rw [requested] at written
        have gated : d.prepare upstream channel =
            if asksOperationEnable command then
              { channel with defaultValue := some 7, overrideCommand := true }
            else
              { channel with overrideCommand := false } := by
          simp [Drive.prepare, control, Drive.prepareControlWord, requested, missing]
        by_cases blocked : asksOperationEnable command = true
        · rw [if_pos blocked] at gated
          rw [gated] at written fromDefault
          exact fromDefault written
        · rw [if_neg blocked] at gated
          rw [gated] at written
          rcases sound.unscaled control with ⟨factor, offset⟩
          simp only [factor, offset, one_mul, add_zero, Bool.false_eq_true, if_false] at written
          cases written
          exact blocked asks
  · contradiction

/-- The values of the target position channel, case by case. -/
theorem outgoing_targetPosition (upstream : Upstream σ) (d : Drive σ) (sound : channel.Sound)
    (target : channel.object = .targetPosition) :
    (d.prepare upstream channel).outgoing d.commands =
      if d.positionValid then
        if d.state = upstream.operationEnabled then
          if d.targetPositionPreloaded && d.takeoverAfter upstream channel then
            ((channel.command d.commands).map (channel.factor * · + channel.offset)).or
              d.targetPositionPreloadRaw
          else
            d.targetPositionPreloadRaw
        else
          d.lastPositionRaw
      else
        none := by
  have rpdo := sound.rpdo target
  have same := sameMapping_prepare upstream d channel
  rw [Channel.outgoing, same.rpdo, rpdo, if_pos rfl, same.command]
  simp only [Drive.prepare, target, Drive.prepareTargetPosition]
  by_cases valid : d.positionValid = true
  · by_cases enabled : d.state = upstream.operationEnabled
    · cases channel.command d.commands with
      | none => simp [valid, enabled]
      | some command =>
          cases preloaded : d.targetPositionPreloaded with
          | false => simp [valid, enabled]
          | true => cases takeover : d.takeoverAfter upstream channel <;> simp [valid, enabled]
    · cases channel.command d.commands <;> simp [valid, enabled]
  · cases channel.command d.commands <;> simp [valid]

end Calls

/-! ## The latches follow the history -/

section Invariant

variable {upstream : Upstream σ} {d t : Drive σ} {channel : Channel} {session : Session}

/-- The invariant: a preload is confirmed only when its image was sent, a pending preload is
in the image, and the takeover belongs to the session of Operation Enabled. -/
structure Tracked (upstream : Upstream σ) (d : Drive σ) (session : Session) : Prop where
  sound : ∀ channel ∈ d.channels, channel.Sound
  sent : d.targetPositionPreloaded = true → session.sent = true
  pending : d.targetPositionPreloadPending = true →
    ∃ raw, d.targetPositionPreloadRaw = some raw ∧
      (d.targetPositionPreloaded = false →
        d.image.targetPosition = some raw ∧ session.exact = true)
  takeover : d.positionCommandTakeoverAllowed = true →
    session.near = true ∧ d.state = upstream.operationEnabled

/-- The members that only the target position channel and the state change set. -/
structure SameSession (d t : Drive σ) : Prop where
  channels : t.channels = d.channels
  image : t.image = d.image
  state : t.state = d.state
  preloaded : t.targetPositionPreloaded = d.targetPositionPreloaded
  pending : t.targetPositionPreloadPending = d.targetPositionPreloadPending
  preloadRaw : t.targetPositionPreloadRaw = d.targetPositionPreloadRaw
  takeover : t.positionCommandTakeoverAllowed = d.positionCommandTakeoverAllowed

omit [DecidableEq σ] in
theorem sameSession_afterRead (d : Drive σ) (channel : Channel) :
    SameSession d (d.afterRead channel) := by
  rw [Drive.afterRead]
  split <;> exact ⟨rfl, rfl, rfl, rfl, rfl, rfl, rfl⟩

omit [DecidableEq σ] in
theorem Tracked.of_sameSession (tracked : Tracked upstream d session)
    (same : SameSession d t) : Tracked upstream t session where
  sound := by
    rw [same.channels]
    exact tracked.sound
  sent := by
    rw [same.preloaded]
    exact tracked.sent
  pending := by
    rw [same.pending, same.preloadRaw, same.preloaded, same.image]
    exact tracked.pending
  takeover := by
    rw [same.takeover, same.state]
    exact tracked.takeover

theorem processChannel_state : (d.processChannel upstream channel).state = d.state := by
  simp only [Drive.processChannel]
  split
  · rfl
  · exact (sameSession_afterRead _ _).state

theorem sound_set (tracked : Tracked upstream d session)
    (next : d.channels[d.cursor]? = some channel) (input : Double) :
    ∀ other ∈ d.channels.set d.cursor
      ((d.prepare upstream channel).ecUpdate d.commands input), other.Sound := by
  intro other member
  rcases List.mem_or_eq_of_mem_set member with member | rfl
  · exact tracked.sound other member
  · have sound := tracked.sound channel (List.mem_of_getElem? next)
    exact sound_ecUpdate (sound_prepare upstream d sound) d.commands input

/-- The other channels keep the invariant. -/
theorem tracked_of_other (tracked : Tracked upstream d session)
    (next : d.channels[d.cursor]? = some channel) (other : channel.object ≠ .targetPosition) :
    Tracked upstream (d.processChannel upstream channel) (session.continue upstream d) := by
  have continued : session.continue upstream d = session := by
    have exact : (session.continue upstream d).exact = session.exact := by
      rw [Session.continue]
      dsimp only
      split
      · rename_i value written
        rw [Drive.nextWrite, next, Option.bind_some, Option.map_eq_some_iff] at written
        rcases written with ⟨_, _, equal⟩
        exact absurd (congrArg Prod.fst equal) other
      · rfl
    have near : (session.continue upstream d).near = session.near := by
      simp [Session.continue, Drive.nearNow, next, other]
    cases session
    exact congrArg₂ (Session.mk · _) exact near
  rw [continued]
  simp only [Drive.processChannel, if_neg other]
  refine Tracked.of_sameSession ?_ (sameSession_afterRead _ _)
  have image : (d.image.store channel.object
      ((d.prepare upstream channel).outgoing d.commands)).targetPosition =
        d.image.targetPosition := by
    rw [Image.store.eq_def]
    split
    · rfl
    · rename_i target _
      exact absurd target other
    · rfl
  refine ⟨sound_set tracked next _, tracked.sent, ?_, tracked.takeover⟩
  intro pending
  rw [image]
  exact tracked.pending pending

/-! The target position channel, for the three situations of the drive. -/

section TargetPosition

variable (tracked : Tracked upstream d session)
  (next : d.channels[d.cursor]? = some channel) (target : channel.object = .targetPosition)

include next target

theorem nextWrite_targetPosition :
    d.nextWrite upstream =
      ((d.prepare upstream channel).outgoing d.commands).map (Object.targetPosition, ·) := by
  rw [Drive.nextWrite, next, Option.bind_some, target]

theorem continue_near (near : d.commandNear channel = true)
    (enabled : d.state = upstream.operationEnabled) :
    (session.continue upstream d).near = true := by
  simp [Session.continue, Drive.nearNow, next, target, enabled, near]

include tracked

/-- A takeover is recorded in the history. -/
theorem takeoverAfter_recorded (takeover : d.takeoverAfter upstream channel = true) :
    (session.continue upstream d).near = true ∧ d.state = upstream.operationEnabled := by
  rw [Drive.takeoverAfter, Bool.or_eq_true] at takeover
  rcases takeover with allowed | now
  · rcases tracked.takeover allowed with ⟨near, enabled⟩
    exact ⟨by simp [Session.continue, near], enabled⟩
  · simp only [Bool.and_eq_true, decide_eq_true_eq] at now
    rcases now with ⟨⟨_, enabled⟩, near⟩
    exact ⟨continue_near next target near enabled, enabled⟩

/-- A requested preload is written. -/
theorem outgoing_of_requested (requested : d.preloadWriteRequested upstream = true) :
    ∃ raw, d.lastPositionRaw = some raw ∧
      (d.prepare upstream channel).outgoing d.commands = some raw := by
  have sound := tracked.sound channel (List.mem_of_getElem? next)
  simp only [Drive.preloadWriteRequested, Bool.and_eq_true, decide_eq_true_eq] at requested
  rcases requested with ⟨valid, disabled⟩
  have finite : d.lastPositionRaw.isSome = true := by
    simp only [Drive.positionValid, Bool.and_eq_true] at valid
    exact valid.2
  rcases Option.isSome_iff_exists.mp finite with ⟨raw, raw_eq⟩
  refine ⟨raw, raw_eq, ?_⟩
  rw [outgoing_targetPosition upstream d sound target, if_pos valid, if_neg disabled, raw_eq]

/-- What the target position channel sets. -/
theorem processChannel_targetPosition :
    let t := d.processChannel upstream channel
    let requested := d.preloadWriteRequested upstream
    t.targetPositionPreloaded = d.targetPositionPreloaded ∧
      t.positionCommandTakeoverAllowed = d.takeoverAfter upstream channel ∧
      t.targetPositionPreloadPending = (requested || d.targetPositionPreloadPending) ∧
      t.targetPositionPreloadRaw =
        (if requested then d.lastPositionRaw else d.targetPositionPreloadRaw) ∧
      t.image.targetPosition =
        ((d.prepare upstream channel).outgoing d.commands).or d.image.targetPosition := by
  have sound := tracked.sound channel (List.mem_of_getElem? next)
  have prepared := sameMapping_prepare upstream d channel
  have updated := sameMapping_ecUpdate (d.prepare upstream channel) d.commands (d.inputs d.cursor)
  have command : ((d.prepare upstream channel).ecUpdate d.commands (d.inputs d.cursor)).command
      d.commands = channel.command d.commands := by
    rw [updated.command, prepared.command]
  have lastValue :
      ((d.prepare upstream channel).ecUpdate d.commands (d.inputs d.cursor)).lastValue =
        ((d.prepare upstream channel).outgoing d.commands).or
          (d.prepare upstream channel).lastValue := by
    rw [Channel.ecUpdate, prepared.rpdo, sound.rpdo target, if_pos rfl]
  simp only [Drive.processChannel, if_pos target, Drive.afterTargetPosition]
  have unchanged : Drive.preloadWriteRequested upstream
      { d with
        channels := d.channels.set d.cursor
          ((d.prepare upstream channel).ecUpdate d.commands (d.inputs d.cursor))
        image := d.image.store channel.object
          ((d.prepare upstream channel).outgoing d.commands) } =
      d.preloadWriteRequested upstream := rfl
  rw [unchanged, lastValue]
  refine ⟨trivial, ?_, ?_, ?_, ?_⟩
  · simp only [Drive.takeoverAfter, Drive.commandNear, Drive.positionValid, command]
  · cases requested : d.preloadWriteRequested upstream with
    | false => rfl
    | true =>
        rcases outgoing_of_requested tracked next target requested with ⟨raw, _, outgoing⟩
        simp [outgoing]
  · cases requested : d.preloadWriteRequested upstream with
    | false => rfl
    | true =>
        rcases outgoing_of_requested tracked next target requested with ⟨raw, raw_eq, outgoing⟩
        simp [outgoing, raw_eq]
  · rw [target]
    cases (d.prepare upstream channel).outgoing d.commands <;> rfl

/-- The target position channel keeps the invariant. -/
theorem tracked_of_target :
    Tracked upstream (d.processChannel upstream channel) (session.continue upstream d) := by
  have sound := tracked.sound channel (List.mem_of_getElem? next)
  rcases processChannel_targetPosition tracked next target
    with ⟨preloaded, takeover, pending, preloadRaw, image⟩
  refine ⟨?_, ?_, ?_, ?_⟩
  · have channels : (d.processChannel upstream channel).channels = d.channels.set d.cursor
        ((d.prepare upstream channel).ecUpdate d.commands (d.inputs d.cursor)) := by
      simp only [Drive.processChannel, if_pos target, Drive.afterTargetPosition]
    rw [channels]
    exact sound_set tracked next _
  · rw [preloaded]
    exact tracked.sent
  · rw [pending, preloadRaw, preloaded, image]
    cases requested : d.preloadWriteRequested upstream with
    | true =>
        -- A new preload: its value is the latest raw position.
        intro _
        rcases outgoing_of_requested tracked next target requested with ⟨raw, raw_eq, outgoing⟩
        refine ⟨raw, by simp [raw_eq], fun _ => ⟨by simp [outgoing], ?_⟩⟩
        simp [Session.continue, nextWrite_targetPosition next target, outgoing, raw_eq]
    | false =>
        -- The preload of an earlier call: while it is not confirmed, the image keeps it.
        intro earlier
        rcases tracked.pending (by simpa using earlier) with ⟨raw, raw_eq, held⟩
        refine ⟨raw, by simp [raw_eq], ?_⟩
        intro missing
        rcases held missing with ⟨inImage, exact⟩
        have outgoing : (d.prepare upstream channel).outgoing d.commands = none ∨
            (d.prepare upstream channel).outgoing d.commands = some raw := by
          rw [outgoing_targetPosition upstream d sound target]
          by_cases valid : d.positionValid = true
          · have enabled : d.state = upstream.operationEnabled := by
              simpa [Drive.preloadWriteRequested, valid] using requested
            right
            simp [valid, enabled, missing, raw_eq]
          · left
            simp [valid]
        rcases outgoing with outgoing | outgoing
        · refine ⟨by simp [outgoing, inImage], ?_⟩
          simp [Session.continue, nextWrite_targetPosition next target, outgoing, exact]
        · refine ⟨by simp [outgoing], ?_⟩
          simp [Session.continue, nextWrite_targetPosition next target, outgoing, exact, inImage]
  · rw [takeover, processChannel_state]
    exact takeoverAfter_recorded tracked next target

end TargetPosition

/-- The check at the last channel takes a new state and resets the session on the way out of
Operation Enabled. -/
theorem checkStateChange_cases (upstream : Upstream σ) (d : Drive σ) :
    ∃ state, d.checkStateChange upstream =
      if d.state = upstream.operationEnabled ∧ state ≠ upstream.operationEnabled then
        Drive.resetEnableSession { d with state := state, lastStatusWord := d.statusWord }
      else
        { d with state := state, lastStatusWord := d.statusWord } :=
  ⟨_, rfl⟩

/-- A state change keeps the invariant: leaving Operation Enabled starts a new history. -/
theorem tracked_of_checkStateChange (tracked : Tracked upstream d session) :
    Tracked upstream (d.checkStateChange upstream)
      (if Leaves upstream d (d.checkStateChange upstream) then {} else session) := by
  rcases checkStateChange_cases upstream d with ⟨state, changed⟩
  by_cases left : d.state = upstream.operationEnabled ∧ state ≠ upstream.operationEnabled
  · rw [changed, if_pos left]
    have leaves : Leaves upstream d
        (Drive.resetEnableSession { d with state := state, lastStatusWord := d.statusWord }) := left
    rw [if_pos leaves]
    refine ⟨tracked.sound, ?_, ?_, ?_⟩
    · exact fun preloaded => nomatch preloaded
    · exact fun pending => nomatch pending
    · exact fun takeover => nomatch takeover
  · rw [changed, if_neg left]
    have stays : ¬Leaves upstream d
        { d with state := state, lastStatusWord := d.statusWord } := left
    rw [if_neg stays]
    refine ⟨tracked.sound, tracked.sent, tracked.pending, ?_⟩
    intro takeover
    rcases tracked.takeover takeover with ⟨near, enabled⟩
    exact ⟨near, not_not.mp fun other => left ⟨enabled, other⟩⟩

omit [DecidableEq σ] in
theorem Tracked.set_cursor (tracked : Tracked upstream d session) (cursor : ℕ) :
    Tracked upstream { d with cursor := cursor } session :=
  tracked.of_sameSession ⟨rfl, rfl, rfl, rfl, rfl, rfl, rfl⟩

/-- Every event keeps the invariant. -/
theorem tracked_step (tracked : Tracked upstream d session) {event : Event}
    (stepped : step upstream d event = some t) :
    Tracked upstream t (record upstream d event t session) := by
  cases event with
  | receive inputs =>
      rcases Option.ite_none_right_eq_some.mp stepped with ⟨_, ⟨⟩⟩
      exact tracked.of_sameSession ⟨rfl, rfl, rfl, rfl, rfl, rfl, rfl⟩
  | setCommands commands =>
      rcases Option.ite_none_right_eq_some.mp stepped with ⟨_, ⟨⟩⟩
      exact tracked.of_sameSession ⟨rfl, rfl, rfl, rfl, rfl, rfl, rfl⟩
  | sent =>
      rcases Option.ite_none_right_eq_some.mp stepped with ⟨_, ⟨⟩⟩
      rw [Drive.onPdoCycleSent]
      split
      · rename_i pending
        rcases tracked.pending pending with ⟨raw, raw_eq, held⟩
        refine ⟨tracked.sound, ?_, (fun still => nomatch still), tracked.takeover⟩
        intro _
        cases preloaded : d.targetPositionPreloaded with
        | true => simp [record, tracked.sent preloaded]
        | false => simp [record, (held preloaded).2]
      · refine ⟨tracked.sound, ?_, tracked.pending, tracked.takeover⟩
        intro preloaded
        simp [record, tracked.sent preloaded]
  | process =>
      rcases Option.map_eq_some_iff.mp stepped with ⟨channel, next, rfl⟩
      have noted : Tracked upstream (d.processChannel upstream channel)
          (session.continue upstream d) := by
        by_cases target : channel.object = .targetPosition
        · exact tracked_of_target tracked next target
        · exact tracked_of_other tracked next target
      rw [Drive.processData]
      split
      · have changed := (tracked_of_checkStateChange noted).set_cursor 0
        have left : Leaves upstream (d.processChannel upstream channel)
            ((d.processChannel upstream channel).checkStateChange upstream) ↔
            Leaves upstream d
              { (d.processChannel upstream channel).checkStateChange upstream with cursor := 0 } := by
          rw [Leaves, Leaves, processChannel_state]
        simp only [left] at changed
        exact changed
      · have stays : ¬Leaves upstream d
            { d.processChannel upstream channel with cursor := d.cursor + 1 } := by
          rintro ⟨enabled, changed⟩
          exact changed (processChannel_state.trans enabled)
        simp only [record, if_neg stays]
        exact noted.set_cursor (d.cursor + 1)

/-- The invariant holds along every run of a constructed drive. -/
theorem tracked_of_reachable {layout : Layout} {commands : List Double} {inputs : ℕ → Double}
    {state : σ} {statusWord lastStatusWord : UInt16} {modeOfOperation : ℚ}
    {s : Drive σ × Session}
    (reachable : Reachable (observed (step upstream) (record upstream)) unguarded
      (.construct layout commands inputs state statusWord lastStatusWord modeOfOperation, {}) s) :
    Tracked upstream s.1 s.2 := by
  refine reachable.invariant (fun s : Drive σ × Session => Tracked upstream s.1 s.2) ?_ ?_
  · refine ⟨layout.sound, ?_, ?_, ?_⟩
    · exact fun preloaded => nomatch preloaded
    · exact fun pending => nomatch pending
    · exact fun takeover => nomatch takeover
  · intro source target event tracked _ stepped
    rcases observed_eq_some_iff.mp stepped with ⟨moved, recorded⟩
    rw [recorded]
    exact tracked_step tracked moved

end Invariant

end RtControl.Ethercat
