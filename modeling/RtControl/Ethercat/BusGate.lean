import RtControl.Ethercat.MasterRun
import RtControl.Ethercat.Preload

/-!
# The preload gate on the bus

The drives of a bus share the exchanges of one master.  Slaves become operational and stop being so
in the middle of a run, and a slave that is not operational gets its control word as it was
requested.  In every image that the master sends, an operational slave gets Operation Enable only
after its exact preload, and every slave gets a position command only after its takeover.
-/

namespace RtControl.Ethercat

open RtControl.Transition

section Watched

variable {σ : Type} [DecidableEq σ]

/-! ## The drives with their history -/

/-- The drive with the writes of the controllers to single command interfaces. -/
def driveAxis (upstream : Upstream σ) : EcAxis (DriveModule σ) (ℕ → Double) (ℕ × Double) where
  toEcSlave := driveSlave upstream
  setCommand command m :=
    { m with drive := { m.drive with commands := m.drive.commands.set command.1 command.2 } }

/-- The value that the call of `processData` writes. -/
def DriveModule.outgoing (upstream : Upstream σ) (m : DriveModule σ) (channel : Channel) : Double :=
  if channel.object = .controlWord ∧ m.isOperational = false then
    channel.outgoing m.drive.commands
  else
    (m.drive.prepare upstream channel).outgoing m.drive.commands

/-- What is known of the values in the process image. -/
structure Written where
  /-- An operational slave has written the control word, after the exact preload of the session had
  been sent. -/
  armed : Bool := false
  /-- The target position is the position command. -/
  commanded : Bool := false
  /-- The target position was written inside Operation Enabled, after a command of the session had
  come close to the actual position. -/
  takenOver : Bool := false

/-- The call of `processData` replaces what is known of the value that it writes. -/
def Written.after (upstream : Upstream σ) (m : DriveModule σ) (session : Session)
    (channel : Channel) (written : Written) : Written :=
  match channel.object, m.outgoing upstream channel with
  | .controlWord, some _ =>
      { written with
        armed := m.isOperational && m.drive.targetPositionPreloaded && session.sent }
  | .targetPosition, some _ =>
      { written with
        commanded := m.drive.commandReaches upstream channel
        takenOver := decide (m.drive.state = upstream.operationEnabled) &&
          (session.near || m.drive.commandNear channel) }
  | _, _ => written

/-- The drive with the history of its session and of its image. -/
structure WatchedModule (σ : Type) where
  module : DriveModule σ
  session : Session := {}
  written : Written := {}

/-- `processData` for the channel at the cursor. -/
def WatchedModule.processNext (upstream : Upstream σ) (w : WatchedModule σ) : WatchedModule σ :=
  match w.module.drive.channels[w.module.drive.cursor]? with
  | none => w
  | some channel =>
      let next := w.module.processNext upstream
      { module := next
        session := record upstream w.module.drive .process next.drive w.session
        written := w.written.after upstream w.module w.session channel }

/-- The watched drive behind the interface of the master. -/
def watchedAxis (upstream : Upstream σ) :
    EcAxis (WatchedModule σ) (ℕ → Double) (ℕ × Double) where
  receive inputs w := { w with module := (driveAxis upstream).receive inputs w.module }
  setStateIsOperational operational w :=
    { w with module := (driveAxis upstream).setStateIsOperational operational w.module }
  processData w := (WatchedModule.processNext upstream)^[w.module.drive.channels.length] w
  onPdoCycleSent w :=
    { w with
      module := (driveAxis upstream).onPdoCycleSent w.module
      session := record upstream w.module.drive .sent w.module.drive w.session }
  initialized w := w.module.drive.targetPositionPreloaded
  setCommand command w := { w with module := (driveAxis upstream).setCommand command w.module }

/-- A control word is in a receive PDO and has a default, as in the slave files. -/
def Channel.Given (channel : Channel) : Prop :=
  channel.object = .controlWord → channel.rpdo = true ∧ channel.defaultValue.isSome = true

/-- A constructed module of the slave files. -/
structure DriveModule.Constructed (m : DriveModule σ) : Prop where
  drive : ∃ (layout : Layout) (commands : List Double) (inputs : ℕ → Double) (state : σ)
    (statusWord lastStatusWord : UInt16) (modeOfOperation : ℚ), m.drive =
      .construct layout commands inputs state statusWord lastStatusWord modeOfOperation
  given : ∀ channel ∈ m.drive.channels, channel.Given

/-- The master that starts to be watched. -/
def watch (s : Cyclic (DriveModule σ)) : Cyclic (WatchedModule σ) :=
  s.erase fun m => { module := m }

omit [DecidableEq σ] in
theorem erase_watch (s : Cyclic (DriveModule σ)) : (watch s).erase WatchedModule.module = s := by
  have slaves : (s.slaves.map (SlaveEntry.erase fun m => ({ module := m } : WatchedModule σ))).map
      (SlaveEntry.erase WatchedModule.module) = s.slaves := by
    rw [List.map_map]
    exact List.map_id s.slaves
  exact congrArg (Cyclic.mk · _ _ _ _ _) slaves

variable {upstream : Upstream σ} {m : DriveModule σ} {w : WatchedModule σ} {channel : Channel}
variable {calls : ℕ}

theorem module_processNext :
    (w.processNext upstream).module = w.module.processNext upstream := by
  rw [WatchedModule.processNext]
  cases next : w.module.drive.channels[w.module.drive.cursor]? with
  | none => rw [DriveModule.processNext, next]
  | some channel => rfl

/-- The history restricts nothing. -/
theorem erases_watched (upstream : Upstream σ) :
    Erases (watchedAxis upstream) (driveAxis upstream) WatchedModule.module where
  receive _ _ := rfl
  operational _ _ := rfl
  processData w := by
    show ((WatchedModule.processNext upstream)^[_] w).module =
      (DriveModule.processNext upstream)^[_] w.module
    generalize w.module.drive.channels.length = calls
    induction calls generalizing w with
    | zero => rfl
    | succ calls ih =>
        rw [Function.iterate_succ_apply, Function.iterate_succ_apply, ih, module_processNext]
  sent _ := rfl
  command _ _ := rfl

/-! ## One call -/

variable (upstream) in
/-- The image takes the written value. -/
theorem image_processNext (next : m.drive.channels[m.drive.cursor]? = some channel) :
    (m.processNext upstream).drive.image =
      m.drive.image.store channel.object (m.outgoing upstream channel) := by
  have image : (m.processChannel upstream channel).image =
      m.drive.image.store channel.object (m.outgoing upstream channel) := by
    rw [DriveModule.processChannel, DriveModule.outgoing]
    split_ifs
    · rfl
    · simp only [Drive.processChannel]
      split_ifs
      · rfl
      · exact (sameSession_afterRead _ _).image
  rw [DriveModule.processNext, next]
  dsimp only
  split_ifs
  · obtain ⟨state, changed⟩ := checkStateChange_cases upstream (m.processChannel upstream channel)
    rw [← image, changed]
    split_ifs <;> rfl
  · exact image

theorem given_ecUpdate (given : channel.Given) (commands : List Double) (input : Double) :
    (channel.ecUpdate commands input).Given := by
  have same := sameMapping_ecUpdate channel commands input
  intro control
  rw [same.rpdo, ecUpdate_defaultValue]
  exact given (same.object.symm.trans control)

theorem given_prepare (upstream : Upstream σ) (d : Drive σ) (given : channel.Given) :
    (d.prepare upstream channel).Given := by
  have same := sameMapping_prepare upstream d channel
  intro control
  rw [same.object] at control
  obtain ⟨rpdo, default⟩ := given control
  refine ⟨same.rpdo.trans rpdo, ?_⟩
  rw [Drive.prepare, control]
  dsimp only
  rw [Drive.prepareControlWord]
  split
  · split
    · rfl
    · exact default
  · exact default

/-- A control word is always written. -/
theorem outgoing_isSome (given : channel.Given) (control : channel.object = .controlWord)
    (commands : List Double) : (channel.outgoing commands).isSome = true := by
  obtain ⟨rpdo, default⟩ := given control
  rw [Channel.outgoing, if_pos rpdo]
  split
  · split
    · exact default
    · rfl
  · exact default

variable (upstream m) in
theorem outgoing_module_isSome (given : channel.Given) (control : channel.object = .controlWord) :
    (m.outgoing upstream channel).isSome = true := by
  rw [DriveModule.outgoing]
  split_ifs
  · exact outgoing_isSome given control m.drive.commands
  · have same := sameMapping_prepare upstream m.drive channel
    exact outgoing_isSome (given_prepare upstream m.drive given) (same.object.trans control)
      m.drive.commands

/-- What the calls of `processData` keep of a module. -/
structure NextCall (m t : DriveModule σ) : Prop where
  operational : t.isOperational = m.isOperational
  objects : t.drive.channels.map Channel.object = m.drive.channels.map Channel.object
  given : (∀ channel ∈ m.drive.channels, channel.Given) → ∀ channel ∈ t.drive.channels, channel.Given
  cursor : t.drive.cursor =
    if m.drive.cursor + 1 = m.drive.channels.length then 0 else m.drive.cursor + 1

variable (upstream) in
theorem nextCall_processNext (next : m.drive.channels[m.drive.cursor]? = some channel) :
    NextCall m (m.processNext upstream) := by
  have updated : ∃ other : Channel, other.object = channel.object ∧
      (channel.Given → other.Given) ∧
      (m.processChannel upstream channel).channels = m.drive.channels.set m.drive.cursor other := by
    rw [DriveModule.processChannel]
    split_ifs
    · exact ⟨_, (sameMapping_ecUpdate channel m.drive.commands _).object,
        fun given => given_ecUpdate given m.drive.commands _, rfl⟩
    · refine ⟨(m.drive.prepare upstream channel).ecUpdate m.drive.commands
        (m.drive.inputs m.drive.cursor), ?_, ?_, ?_⟩
      · exact (sameMapping_ecUpdate _ m.drive.commands _).object.trans
          (sameMapping_prepare upstream m.drive channel).object
      · exact fun given => given_ecUpdate (given_prepare upstream m.drive given) m.drive.commands _
      · simp only [Drive.processChannel]
        split_ifs
        · rfl
        · exact (sameSession_afterRead _ _).channels
  obtain ⟨other, object, given, channels⟩ := updated
  have after : (m.processNext upstream).drive.channels =
      m.drive.channels.set m.drive.cursor other := by
    rw [← channels, DriveModule.processNext, next]
    dsimp only
    split_ifs
    · obtain ⟨state, changed⟩ :=
        checkStateChange_cases upstream (m.processChannel upstream channel)
      rw [changed]
      split_ifs <;> rfl
    · rfl
  refine ⟨?_, ?_, ?_, ?_⟩
  · rw [DriveModule.processNext, next]
  · rw [after, List.map_set, object]
    refine List.ext_getElem? fun index => ?_
    rw [List.getElem?_set]
    split_ifs with here within
    · rw [← here, List.getElem?_map, next, Option.map_some]
    · rw [← here, List.getElem?_eq_none (Nat.le_of_not_lt within)]
    · rfl
  · intro all another member
    rw [after] at member
    rcases List.mem_or_eq_of_mem_set member with member | rfl
    · exact all another member
    · exact given (all channel (List.mem_of_getElem? next))
  · rw [DriveModule.processNext, next]
    dsimp only
    split_ifs <;> rfl

/-! ## The history -/

theorem continue_of_other {d : Drive σ} (session : Session)
    (next : d.channels[d.cursor]? = some channel) (other : channel.object ≠ .targetPosition) :
    session.continue upstream d = session := by
  have exact : (session.continue upstream d).exact = session.exact := by
    rw [Session.continue]
    dsimp only
    split
    · rename_i value written
      rw [Drive.nextWrite, next, Option.bind_some, Option.map_eq_some_iff] at written
      rcases written with ⟨_, _, equal⟩
      exact absurd (congrArg Prod.fst equal) other
    · rfl
  have near : (session.continue upstream d).near = session.near := by
    simp [Session.continue, Drive.nearNow, next, other]
  cases session
  exact congrArg₂ (Session.mk · _) exact near

/-- The control word of an idle slave leaves the session alone. -/
theorem tracked_of_idle {session : Session} (tracked : Tracked upstream m.drive session)
    (next : m.drive.channels[m.drive.cursor]? = some channel)
    (control : channel.object = .controlWord) (idle : m.isOperational = false) :
    Tracked upstream (m.processChannel upstream channel)
        (session.continue upstream m.drive) ∧
      (m.processChannel upstream channel).state = m.drive.state := by
  have other : channel.object ≠ .targetPosition := by
    rw [control]
    exact fun same => by cases same
  rw [continue_of_other session next other, DriveModule.processChannel, if_pos ⟨control, idle⟩]
  refine ⟨⟨?_, tracked.sent, ?_, tracked.takeover⟩, rfl⟩
  · intro another member
    rcases List.mem_or_eq_of_mem_set member with member | rfl
    · exact tracked.sound another member
    · exact sound_ecUpdate (tracked.sound channel (List.mem_of_getElem? next)) _ _
  · have image : (m.drive.image.store channel.object
        (channel.outgoing m.drive.commands)).targetPosition = m.drive.image.targetPosition := by
      rw [control]
      cases channel.outgoing m.drive.commands <;> rfl
    intro pending
    rw [image]
    exact tracked.pending pending

/-- Every call keeps the invariant of the session. -/
theorem tracked_processNext {session : Session} (tracked : Tracked upstream m.drive session)
    (next : m.drive.channels[m.drive.cursor]? = some channel) :
    Tracked upstream (m.processNext upstream).drive
      (record upstream m.drive .process (m.processNext upstream).drive session) := by
  by_cases idle : channel.object = .controlWord ∧ m.isOperational = false
  · obtain ⟨noted, state⟩ := tracked_of_idle tracked next idle.1 idle.2
    rw [DriveModule.processNext, next]
    dsimp only
    split_ifs with last
    · have changed := (tracked_of_checkStateChange noted).set_cursor 0
      have left : Leaves upstream (m.processChannel upstream channel)
          ((m.processChannel upstream channel).checkStateChange upstream) ↔
          Leaves upstream m.drive
            { (m.processChannel upstream channel).checkStateChange upstream with cursor := 0 } := by
        rw [Leaves, Leaves, state]
      simp only [left] at changed
      exact changed
    · have stays : ¬Leaves upstream m.drive
          { m.processChannel upstream channel with cursor := m.drive.cursor + 1 } := by
        rintro ⟨enabled, changed⟩
        exact changed (state.trans enabled)
      simp only [record, if_neg stays]
      exact noted.set_cursor (m.drive.cursor + 1)
  · have drive : (m.processNext upstream).drive = m.drive.processData upstream channel := by
      rw [DriveModule.processNext, next]
      dsimp only
      rw [DriveModule.processChannel, if_neg idle, Drive.processData]
    rw [drive]
    refine tracked_step tracked (?_ : step upstream m.drive .process = _)
    rw [step, next, Option.map_some]

/-- The invariant of a watched module: its session is tracked, its control words are given, a
position command in the image was written after the takeover, and only a control word channel has
written a control word. -/
structure WatchedModule.Kept (upstream : Upstream σ) (w : WatchedModule σ) : Prop where
  tracked : Tracked upstream w.module.drive w.session
  given : ∀ channel ∈ w.module.drive.channels, channel.Given
  takenOver : w.written.commanded = true → w.written.takenOver = true
  control : w.module.drive.image.controlWord.isSome = true →
    Object.controlWord ∈ w.module.drive.channels.map Channel.object

/-- Operation Enable in the image was written by an operational slave after the preload. -/
def WatchedModule.Gated (w : WatchedModule σ) : Prop :=
  ∀ value, w.module.drive.image.controlWord = some value →
    asksOperationEnable value = true → w.written.armed = true

/-- A command that reaches the target position has been taken over. -/
theorem takenOver_after {session : Session} {written : Written} (channel : Channel)
    (tracked : Tracked upstream m.drive session)
    (before : written.commanded = true → written.takenOver = true) :
    (written.after upstream m session channel).commanded = true →
      (written.after upstream m session channel).takenOver = true := by
  rw [Written.after]
  split
  · exact before
  next value target _ =>
    intro reaches
    obtain ⟨-, enabled, -, takeover, -⟩ := (commandReaches_iff target).mp reaches
    simp only [enabled, decide_true, Bool.true_and, Bool.or_eq_true]
    rw [Drive.takeoverAfter, Bool.or_eq_true] at takeover
    rcases takeover with allowed | now
    · exact Or.inl (tracked.takeover allowed).1
    · rw [Bool.and_eq_true] at now
      exact Or.inr now.2
  · exact before

theorem kept_processNext (kept : w.Kept upstream)
    (next : w.module.drive.channels[w.module.drive.cursor]? = some channel) :
    (w.processNext upstream).Kept upstream := by
  have call := nextCall_processNext upstream next
  have tracked := tracked_processNext kept.tracked next
  have takenOver := takenOver_after channel kept.tracked kept.takenOver
  have image := image_processNext upstream next
  rw [WatchedModule.processNext, next]
  refine ⟨tracked, call.given kept.given, takenOver, ?_⟩
  dsimp only
  rw [call.objects, image, Image.store.eq_def]
  split
  next control _ =>
    intro _
    rw [← control]
    exact List.mem_map_of_mem (List.mem_of_getElem? next)
  · exact kept.control
  · exact kept.control

/-- One call of a pass: the control word channel itself is gated. -/
theorem gated_processNext (kept : w.Kept upstream) (operational : w.module.isOperational = true)
    (next : w.module.drive.channels[w.module.drive.cursor]? = some channel)
    (before : channel.object = .controlWord ∨ w.Gated) : (w.processNext upstream).Gated := by
  have image := image_processNext upstream next
  have sound := kept.tracked.sound channel (List.mem_of_getElem? next)
  have given := kept.given channel (List.mem_of_getElem? next)
  rw [WatchedModule.processNext, next]
  intro value shown asks
  dsimp only at shown ⊢
  rw [image] at shown
  by_cases control : channel.object = .controlWord
  · obtain ⟨out, written⟩ := Option.isSome_iff_exists.mp
      (outgoing_module_isSome upstream w.module given control)
    rw [written, control] at shown
    cases shown
    rw [Written.after, control, written]
    have fromDrive : (w.module.drive.prepare upstream channel).outgoing
        w.module.drive.commands = some value := by
      rw [DriveModule.outgoing, operational, if_neg (fun idle => by cases idle.2)] at written
      exact written
    have preloaded := preloaded_of_outgoing sound control fromDrive asks
    rw [operational, preloaded, kept.tracked.sent preloaded]
    rfl
  · have same : (w.written.after upstream w.module w.session channel).armed = w.written.armed := by
      rw [Written.after]
      split
      next control' _ => exact absurd control' control
      · rfl
      · rfl
    have kept : (w.module.drive.image.store channel.object
        (w.module.outgoing upstream channel)).controlWord = w.module.drive.image.controlWord := by
      rw [Image.store.eq_def]
      split
      next control' _ => exact absurd control' control
      · rfl
      · rfl
    rw [kept] at shown
    rw [same]
    exact before.resolve_left control value shown asks

/-- The calls of a pass, in an operational slave with the control word channels that are still to
come. -/
theorem iterate_pass (kept : w.Kept upstream) (aligned : w.module.drive.cursor = 0)
    (within : calls ≤ w.module.drive.channels.length) :
    let t := (WatchedModule.processNext upstream)^[calls] w
    t.Kept upstream ∧ t.module.isOperational = w.module.isOperational ∧
      t.module.drive.channels.map Channel.object =
        w.module.drive.channels.map Channel.object ∧
      t.module.drive.cursor = (if calls = w.module.drive.channels.length then 0 else calls) ∧
      (w.module.isOperational = true → t.Gated ∨ ∃ index, calls ≤ index ∧
        (w.module.drive.channels.map Channel.object)[index]? = some .controlWord) := by
  induction calls with
  | zero =>
      refine ⟨kept, rfl, rfl, ?_, fun _ => ?_⟩
      · rw [Function.iterate_zero_apply, aligned, ite_self]
      · cases shown : w.module.drive.image.controlWord with
        | none =>
            refine Or.inl fun value found => ?_
            rw [Function.iterate_zero_apply, shown] at found
            cases found
        | some value =>
            have listed := kept.control (by rw [shown]; rfl)
            obtain ⟨index, found⟩ := List.mem_iff_getElem?.mp listed
            exact Or.inr ⟨index, Nat.zero_le index, found⟩
  | succ calls ih =>
      obtain ⟨kept, operational, objects, cursor, gated⟩ := ih (Nat.le_of_succ_le within)
      rw [Function.iterate_succ_apply']
      generalize (WatchedModule.processNext upstream)^[calls] w = t at *
      rw [if_neg (by omega)] at cursor
      have length : t.module.drive.channels.length = w.module.drive.channels.length := by
        simpa using congrArg List.length objects
      have inside : calls < t.module.drive.channels.length := by omega
      obtain ⟨channel, next⟩ : ∃ channel,
          t.module.drive.channels[t.module.drive.cursor]? = some channel := by
        rw [cursor]
        exact ⟨_, List.getElem?_eq_getElem inside⟩
      have call := nextCall_processNext upstream next
      rw [← module_processNext] at call
      refine ⟨kept_processNext kept next, call.operational.trans operational,
        call.objects.trans objects, ?_, fun active => ?_⟩
      · rw [call.cursor, cursor, length]
      · have listed : (w.module.drive.channels.map Channel.object)[calls]? =
            some channel.object := by
          rw [← objects, List.getElem?_map, ← cursor, next, Option.map_some]
        have goes := gated_processNext kept (operational.trans active) next
        rcases gated active with done | ⟨index, later, found⟩
        · exact Or.inl (goes (Or.inr done))
        · by_cases here : calls = index
          · rw [← here, listed] at found
            exact Or.inl (goes (Or.inl (Option.some.inj found)))
          · exact Or.inr ⟨index, by omega, found⟩

/-- A module between two passes. -/
structure WatchedModule.Resting (upstream : Upstream σ) (w : WatchedModule σ) : Prop where
  kept : w.Kept upstream
  aligned : w.module.drive.cursor = 0

/-- A pass keeps the invariant and gates the image of an operational slave. -/
theorem resting_pass (resting : w.Resting upstream) :
    ((watchedAxis upstream).processData w).Resting upstream ∧
      ((watchedAxis upstream).processData w).module.isOperational = w.module.isOperational ∧
      (w.module.isOperational = true → ((watchedAxis upstream).processData w).Gated) := by
  obtain ⟨kept, operational, -, cursor, gated⟩ :=
    iterate_pass resting.kept resting.aligned (Nat.le_refl _)
  rw [if_pos rfl] at cursor
  refine ⟨⟨kept, cursor⟩, operational, fun active => ?_⟩
  rcases gated active with done | ⟨index, later, found⟩
  · exact done
  · rw [List.getElem?_eq_none (by rw [List.length_map]; exact later)] at found
    cases found

omit [DecidableEq σ] in
/-- The image goes out as it was written. -/
theorem sent_image (d : Drive σ) : d.onPdoCycleSent.image = d.image := by
  rw [Drive.onPdoCycleSent]
  split_ifs <;> rfl

theorem keeps_resting (upstream : Upstream σ) :
    (watchedAxis upstream).Keeps (WatchedModule.Resting upstream) where
  receive inputs w resting :=
    ⟨⟨resting.kept.tracked.of_sameSession ⟨rfl, rfl, rfl, rfl, rfl, rfl, rfl⟩,
      resting.kept.given, resting.kept.takenOver, resting.kept.control⟩, resting.aligned⟩
  operational operational w resting :=
    ⟨⟨resting.kept.tracked, resting.kept.given, resting.kept.takenOver, resting.kept.control⟩,
      resting.aligned⟩
  processData resting := (resting_pass resting).1
  sent {w} resting := by
    have frame := sent_frame w.module.drive
    have sent : step upstream w.module.drive .sent = some w.module.drive.onPdoCycleSent := by
      rw [step, if_pos resting.aligned]
    refine ⟨⟨tracked_step resting.kept.tracked sent, ?_, resting.kept.takenOver, ?_⟩, ?_⟩
    · intro channel member
      exact resting.kept.given channel (frame.channels ▸ member)
    · show w.module.drive.onPdoCycleSent.image.controlWord.isSome = true →
        Object.controlWord ∈ w.module.drive.onPdoCycleSent.channels.map Channel.object
      rw [sent_image, frame.channels]
      exact resting.kept.control
    · exact frame.cursor.trans resting.aligned
  command command w resting :=
    ⟨⟨resting.kept.tracked.of_sameSession ⟨rfl, rfl, rfl, rfl, rfl, rfl, rfl⟩,
      resting.kept.given, resting.kept.takenOver, resting.kept.control⟩, resting.aligned⟩

/-! ## Whole runs -/

/-- A constructed module starts to be watched. -/
theorem resting_watch (constructed : m.Constructed) :
    WatchedModule.Resting upstream { module := m } := by
  obtain ⟨layout, commands, inputs, state, statusWord, lastStatusWord, modeOfOperation, same⟩ :=
    constructed.drive
  refine ⟨⟨?_, constructed.given, (fun none => absurd none Bool.false_ne_true), ?_⟩, ?_⟩
  · exact tracked_of_reachable (s := (m.drive, {})) (by rw [same]; exact .refl)
  · dsimp only
    rw [same]
    exact fun none => by cases none
  · dsimp only
    rw [same]
    rfl

variable (upstream) in
/-- **The gate on the bus.**  In every run of the master over constructed drives, whatever frames,
slave states and commands come, a position command is in an image only if it was written inside
Operation Enabled and after the takeover of the session.  When the image is sent, a control word
that asks for Operation Enable is in the image of an operational slave only if it was written after
the exact preload of the session had been sent. -/
theorem bus_is_gated {start : Cyclic (DriveModule σ)}
    (constructed : ∀ entry ∈ start.slaves, entry.slave.Constructed)
    (events : List (BusEvent (ℕ → Double) (ℕ × Double))) :
    let t := (watch start).run (watchedAxis upstream) events
    t.erase WatchedModule.module = start.run (driveAxis upstream) events ∧
      ∀ entry ∈ t.slaves,
        (entry.slave.written.commanded = true → entry.slave.written.takenOver = true) ∧
        (events.getLast?.any BusEvent.sends = true →
          entry.slave.module.isOperational = true → entry.slave.Gated) := by
  have initial : (watch start).Each (WatchedModule.Resting upstream) := by
    intro entry member
    obtain ⟨source, here, rfl⟩ := List.mem_map.mp member
    exact resting_watch (constructed source here)
  refine ⟨?_, fun entry member => ⟨?_, fun sends operational => ?_⟩⟩
  · rw [erase_run (erases_watched upstream), erase_watch]
  · exact (each_run (keeps_resting upstream) initial events entry member).kept.takenOver
  · rcases List.eq_nil_or_concat events with rfl | ⟨earlier, last, rfl⟩
    · cases sends
    · rw [List.concat_eq_append] at *
      rw [List.getLast?_concat, Option.any_some] at sends
      have gated : ((watch start).run (watchedAxis upstream) (earlier ++ [last])).Each
          fun w => w.module.isOperational = true → w.Gated := by
        refine each_sent (keeps_resting upstream) ?_ initial earlier sends
        intro w resting active value shown
        refine (resting_pass resting).2.2 ((resting_pass resting).2.1.symm.trans active) value ?_
        exact (congrArg Image.controlWord (sent_image _)).symm.trans shown
      exact gated entry member operational

end Watched

/-- A bus with the turn motor, before its slave is operational. -/
def turnBus : Cyclic (DriveModule Bool) where
  slaves := [{ slave := { drive := turnStart } }]

/-- The slave becomes operational, and its motor is preloaded and asked for Operation Enable. -/
def turnEvents : List (BusEvent (ℕ → Double) (ℕ × Double)) :=
  [.update ((turnStartup 0x23).cycle 0).received, .update ((turnStartup 0x23).cycle 1).received,
    .readData ((turnStartup 0x23).cycle 2).received, .setCommand 0 (2, some 0xF), .writeData]

theorem bus_is_gated_of_turn :
    ∃ entry ∈ ((watch turnBus).run (watchedAxis turnUpstream) turnEvents).slaves,
      entry.slave.module.drive.image.controlWord = some 0xF ∧
        entry.slave.module.isOperational = true ∧ entry.slave.written.armed = true := by
  have constructed : ∀ entry ∈ turnBus.slaves, entry.slave.Constructed := by
    intro entry member
    cases List.mem_singleton.mp member
    refine ⟨⟨_, _, _, _, _, _, _, rfl⟩, ?_⟩
    show ∀ channel ∈ turnChannels, channel.Given
    simp only [turnChannels, List.forall_mem_cons, Channel.Given]
    simp
  obtain ⟨entry, member, shown, operational⟩ :
      ∃ entry ∈ ((watch turnBus).run (watchedAxis turnUpstream) turnEvents).slaves,
        entry.slave.module.drive.image.controlWord = some 0xF ∧
          entry.slave.module.isOperational = true := by
    decide +kernel
  have gated := (bus_is_gated turnUpstream constructed turnEvents).2 entry member
  exact ⟨entry, member, shown, operational,
    gated.2 (by decide +kernel) operational 0xF shown (by decide +kernel)⟩


end RtControl.Ethercat
