import RtControl.Ethercat.Session

/-!
# Preload and takeover in every session

Along every run of the drive, a control word asks for Operation Enable only after the exact
preload of the session was sent, and the position command reaches the target position only
inside Operation Enabled and after a command of the session came close to the actual
position.
-/

namespace RtControl.Ethercat

open RtControl.Transition

variable {σ : Type} [DecidableEq σ]

/-- The position command, and not a value of the drive, is written. -/
def Drive.commandReaches (upstream : Upstream σ) (d : Drive σ) (channel : Channel) : Bool :=
  !(d.prepare upstream channel).overrideCommand && (channel.command d.commands).isSome

section Calls

variable {upstream : Upstream σ} {d t : Drive σ} {channel : Channel}

theorem commandReaches_iff (target : channel.object = .targetPosition) :
    d.commandReaches upstream channel = true ↔
      d.positionValid = true ∧ d.state = upstream.operationEnabled ∧
        d.targetPositionPreloaded = true ∧ d.takeoverAfter upstream channel = true ∧
        (channel.command d.commands).isSome = true := by
  simp only [Drive.commandReaches, Drive.prepare, target, Drive.prepareTargetPosition]
  by_cases valid : d.positionValid = true
  · by_cases enabled : d.state = upstream.operationEnabled
    · simp [valid, enabled, and_assoc]
    · simp [valid, enabled]
  · simp [valid]

/-- The written target position. -/
theorem written_targetPosition (sound : channel.Sound)
    (next : d.channels[d.cursor]? = some channel) (target : channel.object = .targetPosition) :
    (d.nextWrite upstream).map Prod.snd =
      if d.commandReaches upstream channel then
        (channel.command d.commands).map (channel.factor * · + channel.offset)
      else if d.positionValid then
        if d.state = upstream.operationEnabled then d.targetPositionPreloadRaw
        else d.lastPositionRaw
      else
        none := by
  rw [nextWrite_targetPosition next target, Option.map_map,
    outgoing_targetPosition upstream d sound target]
  by_cases reaches : d.commandReaches upstream channel = true
  · rw [if_pos reaches]
    rcases (commandReaches_iff target).mp reaches
      with ⟨valid, enabled, preloaded, takeover, mapped⟩
    rcases Option.isSome_iff_exists.mp mapped with ⟨command, command_eq⟩
    simp [valid, enabled, preloaded, takeover, command_eq]
  · rw [if_neg reaches]
    by_cases valid : d.positionValid = true
    · by_cases enabled : d.state = upstream.operationEnabled
      · cases command : channel.command d.commands with
        | none => simp [valid, enabled, Function.comp_def]
        | some value =>
            have blocked : (d.targetPositionPreloaded &&
                d.takeoverAfter upstream channel) = false := by
              simpa [commandReaches_iff target, valid, enabled, command] using reaches
            simp [valid, enabled, blocked, Function.comp_def]
      · simp [valid, enabled, Function.comp_def]
    · simp [valid]

/-- A call before the state change leaves the commands and their mapping alone. -/
theorem processChannel_commands :
    (d.processChannel upstream channel).commands = d.commands ∧
      (d.processChannel upstream channel).positionCommandInterfaceIndex =
        d.positionCommandInterfaceIndex := by
  simp only [Drive.processChannel]
  split
  · exact ⟨rfl, rfl⟩
  · rw [Drive.afterRead]
    split <;> exact ⟨rfl, rfl⟩

/-- Leaving Operation Enabled resets the session. -/
theorem reset_of_leaves (stepped : step upstream d .process = some t)
    (leaves : Leaves upstream d t) :
    t.positionCommandTakeoverAllowed = false ∧ t.targetPositionPreloaded = false ∧
      t.commands = clearCommand d.commands d.positionCommandInterfaceIndex := by
  rcases Option.map_eq_some_iff.mp stepped with ⟨channel, next, rfl⟩
  rw [Drive.processData] at leaves ⊢
  split at leaves
  · rename_i last
    rw [if_pos last]
    rcases checkStateChange_cases upstream (d.processChannel upstream channel)
      with ⟨state, changed⟩
    rw [changed] at leaves ⊢
    split at leaves
    · rename_i left
      rw [if_pos left]
      refine ⟨rfl, rfl, ?_⟩
      simp only [Drive.resetEnableSession, processChannel_commands]
    · rename_i stays
      exact absurd ⟨processChannel_state.trans leaves.1, leaves.2⟩ stays
  · exact absurd (processChannel_state.trans leaves.1) leaves.2

/-- The mapping of the position command is fixed. -/
theorem positionCommandInterfaceIndex_step {event : Event}
    (stepped : step upstream d event = some t) :
    t.positionCommandInterfaceIndex = d.positionCommandInterfaceIndex := by
  cases event with
  | receive | setCommands =>
      rcases Option.ite_none_right_eq_some.mp stepped with ⟨_, ⟨⟩⟩
      rfl
  | sent =>
      rcases Option.ite_none_right_eq_some.mp stepped with ⟨_, ⟨⟩⟩
      rw [Drive.onPdoCycleSent]
      split <;> rfl
  | process =>
      rcases Option.map_eq_some_iff.mp stepped with ⟨channel, next, rfl⟩
      rw [Drive.processData]
      split
      · rcases checkStateChange_cases upstream (d.processChannel upstream channel)
          with ⟨state, changed⟩
        rw [changed]
        split <;> exact processChannel_commands.2
      · exact processChannel_commands.2

end Calls

/-! ## Whole runs -/

section Runs

variable {upstream : Upstream σ} {layout : Layout} {commands : List Double}
  {inputs : ℕ → Double} {state : σ} {statusWord lastStatusWord : UInt16} {modeOfOperation : ℚ}
  {s : Drive σ × Session}

/-- **Preload before Operation Enable.**  A control word whose low nibble is `0xF` is written
only while the preload is confirmed, and a confirmed preload means that, since the
construction or the last exit of Operation Enabled, an image was sent whose target position
was written as the latest raw actual position. -/
theorem preload_gates_operation_enable
    (reachable : Reachable (observed (step upstream) (record upstream)) unguarded
      (.construct layout commands inputs state statusWord lastStatusWord modeOfOperation, {}) s) :
    (∀ value, s.1.nextWrite upstream = some (.controlWord, value) →
      castUInt16 value &&& 0xF = 0xF → s.1.targetPositionPreloaded = true) ∧
      (s.1.targetPositionPreloaded = true → s.2.sent = true) := by
  have tracked := tracked_of_reachable reachable
  refine ⟨?_, tracked.sent⟩
  intro value written nibble
  rcases Option.bind_eq_some_iff.mp written with ⟨channel, next, mapped⟩
  rcases Option.map_eq_some_iff.mp mapped with ⟨_, outgoing, equal⟩
  rcases Prod.mk.inj equal with ⟨control, rfl⟩
  have sound := tracked.sound channel (List.mem_of_getElem? next)
  exact preloaded_of_outgoing sound control outgoing (decide_eq_true nibble)

end Runs

/-! The turn motor of the slave files, with its state reduced to Operation Enabled or not. -/

/-- The status words of the turn motor. -/
def turnUpstream : Upstream Bool where
  deviceState word := word &&& 0x6F = 0x27
  operationEnabled := true

/-- The channels of the turn motor. -/
def turnChannels : List Channel :=
  [{ object := .targetPosition
     rpdo := true
     interfaceIndex := some 0
     factor := 83443026803 / 1000000
     offset := 262144 },
   { object := .other 0x60fe, rpdo := true, interfaceIndex := some 1, defaultValue := some 0 },
   { object := .controlWord, rpdo := true, interfaceIndex := some 2, defaultValue := some 0 },
   { object := .actualPosition
     rpdo := false
     factor := 119842249 / 10000000000000
     offset := -314159265359 / 100000000000 },
   { object := .other 0x60fd, rpdo := false },
   { object := .statusWord, rpdo := false }]

def turnLayout : Layout where
  channels := turnChannels
  sound := by
    intro channel member
    simp only [turnChannels, List.mem_cons, List.not_mem_nil, or_false] at member
    rcases member with rfl | rfl | rfl | rfl | rfl | rfl
    all_goals refine ⟨by simp, ?_, by simp⟩
    all_goals simp
    decide +kernel

/-- The process data of the turn motor: a raw position and a status word. -/
def turnInputs (raw word : ℚ) : ℕ → Double
  | 3 => some raw
  | 5 => some word
  | _ => some 0

/-- The turn motor before the first pass, with Operation Enable already requested. -/
abbrev turnStart : Drive Bool :=
  .construct turnLayout [none, none, some 0xF] (turnInputs 262144 0x23) false 0 0 (-1)

/-- A pass over the six channels. -/
def turnPass : List Event :=
  List.replicate 6 .process

/-- The preload of the turn motor is read, written and sent. -/
def turnPreload : List Event :=
  turnPass ++ turnPass ++ [.sent]

/-- After the preload, the requested Operation Enable is written. -/
theorem preload_gates_operation_enable_of_turn :
    ∃ s, Reachable (observed (step turnUpstream) (record turnUpstream)) unguarded
      (turnStart, {}) s ∧
      s.1.nextWrite turnUpstream = some (.controlWord, 0xF) ∧
      s.1.targetPositionPreloaded = true ∧ s.2.sent = true := by
  have ran : (run (observed (step turnUpstream) (record turnUpstream)) unguarded
      (turnStart, {}) (turnPreload ++ [.process, .process])).any
        (fun s => s.1.nextWrite turnUpstream = some (.controlWord, 0xF)) = true := by
    decide +kernel
  rcases exists_reachable_of_run ran with ⟨s, reachable, written⟩
  have requested := of_decide_eq_true written
  have gate := preload_gates_operation_enable reachable
  have preloaded := gate.1 0xF requested (by decide +kernel)
  exact ⟨s, reachable, requested, preloaded, gate.2 preloaded⟩

section Runs

variable {upstream : Upstream σ} {layout : Layout} {commands : List Double}
  {inputs : ℕ → Double} {state : σ} {statusWord lastStatusWord : UInt16} {modeOfOperation : ℚ}
  {s : Drive σ × Session}

/-- The mapping of the position command in every state of a run. -/
theorem positionCommandInterfaceIndex_of_reachable
    (reachable : Reachable (observed (step upstream) (record upstream)) unguarded
      (.construct layout commands inputs state statusWord lastStatusWord modeOfOperation, {}) s) :
    s.1.positionCommandInterfaceIndex =
      (layout.channels.find? (·.object = .targetPosition)).bind (·.interfaceIndex) := by
  refine reachable.invariant (fun s : Drive σ × Session => s.1.positionCommandInterfaceIndex =
    (layout.channels.find? (·.object = .targetPosition)).bind (·.interfaceIndex)) rfl ?_
  intro source target event fixed _ stepped
  rw [positionCommandInterfaceIndex_step (observed_eq_some_iff.mp stepped).1]
  exact fixed

/-- **Takeover within a session.**  The position command reaches the target position only
inside Operation Enabled and after a command of the session was close to the actual position.
Otherwise the channel writes the latest raw position outside Operation Enabled, the held
preload, if there is one, inside it, and nothing without a valid position.  Leaving Operation
Enabled takes the permission back and sets the position command to NaN. -/
theorem takeover_within_session
    (reachable : Reachable (observed (step upstream) (record upstream)) unguarded
      (.construct layout commands inputs state statusWord lastStatusWord modeOfOperation, {}) s) :
    (∀ channel, s.1.channels[s.1.cursor]? = some channel → channel.object = .targetPosition →
      (s.1.commandReaches upstream channel = true →
        s.1.state = upstream.operationEnabled ∧
          (s.2.near = true ∨ s.1.commandNear channel = true)) ∧
      (s.1.nextWrite upstream).map Prod.snd =
        if s.1.commandReaches upstream channel then
          (channel.command s.1.commands).map (channel.factor * · + channel.offset)
        else if s.1.positionValid then
          if s.1.state = upstream.operationEnabled then s.1.targetPositionPreloadRaw
          else s.1.lastPositionRaw
        else
          none) ∧
      ∀ t, step upstream s.1 .process = some t → Leaves upstream s.1 t →
        t.positionCommandTakeoverAllowed = false ∧
          ∀ channel ∈ layout.channels.find? (·.object = .targetPosition),
            channel.command t.commands = none := by
  have tracked := tracked_of_reachable reachable
  constructor
  · intro channel next target
    have sound := tracked.sound channel (List.mem_of_getElem? next)
    refine ⟨?_, written_targetPosition sound next target⟩
    intro reaches
    rcases (commandReaches_iff target).mp reaches with ⟨_, enabled, _, takeover, _⟩
    refine ⟨enabled, ?_⟩
    rw [Drive.takeoverAfter, Bool.or_eq_true] at takeover
    rcases takeover with allowed | now
    · exact .inl (tracked.takeover allowed).1
    · simp only [Bool.and_eq_true] at now
      exact .inr now.2
  · intro t stepped leaves
    rcases reset_of_leaves stepped leaves with ⟨takeover, _, cleared⟩
    refine ⟨takeover, ?_⟩
    intro channel first
    have index := positionCommandInterfaceIndex_of_reachable reachable
    rw [Option.mem_def.mp first, Option.bind_some] at index
    rw [Channel.command, cleared, index]
    cases channel.interfaceIndex with
    | none => rfl
    | some index =>
        rw [clearCommand, Option.bind_some, List.getElem?_set_self']
        cases s.1.commands[index]? <;> rfl

end Runs

/-- The turn motor enters Operation Enabled with a close command, and the command is
written. -/
def turnTakeover : List Event :=
  turnPreload ++ [.receive (turnInputs 262144 0x27), .setCommands [some 0, none, some 0xF]] ++
    turnPass

theorem takeover_within_session_of_turn :
    ∃ s channel, Reachable (observed (step turnUpstream) (record turnUpstream)) unguarded
      (turnStart, {}) s ∧
      s.1.channels[s.1.cursor]? = some channel ∧
      s.1.commandReaches turnUpstream channel = true ∧ s.1.state = true ∧
      (s.2.near = true ∨ s.1.commandNear channel = true) := by
  have ran : (run (observed (step turnUpstream) (record turnUpstream)) unguarded
      (turnStart, {}) turnTakeover).any
        (fun s => (s.1.channels[s.1.cursor]?).any fun channel =>
          channel.object = .targetPosition && s.1.commandReaches turnUpstream channel) = true := by
    decide +kernel
  rcases exists_reachable_of_run ran with ⟨s, reachable, found⟩
  rw [Option.any_eq_true] at found
  rcases found with ⟨channel, next, passed⟩
  rw [Bool.and_eq_true, decide_eq_true_eq] at passed
  have session := takeover_within_session reachable
  rcases (session.1 channel next passed.1).1 passed.2 with ⟨enabled, near⟩
  exact ⟨s, channel, reachable, next, passed.2, enabled, near⟩

/-- The command is lost after the takeover: the channel goes back to the held preload, although
the drive is enabled, the takeover was made and the motor has moved on. -/
theorem preload_written_after_takeover :
    ∃ s channel, Reachable (observed (step turnUpstream) (record turnUpstream)) unguarded
      (turnStart, {}) s ∧
      s.1.channels[s.1.cursor]? = some channel ∧ channel.object = .targetPosition ∧
      s.1.commandReaches turnUpstream channel = false ∧
      s.1.state = turnUpstream.operationEnabled ∧
      s.1.positionCommandTakeoverAllowed = true ∧ s.2.near = true ∧
      s.1.positionValid = true ∧ s.1.lastPositionRaw = some 300000 ∧
      s.1.nextWrite turnUpstream = some (.targetPosition, 262144) := by
  have ran : (run (observed (step turnUpstream) (record turnUpstream)) unguarded
      (turnStart, {}) (turnTakeover ++ turnPass ++ [.receive (turnInputs 300000 0x27)] ++
        turnPass ++ [.setCommands [none, none, some 0xF]])).any
        (fun s => (s.1.channels[s.1.cursor]?).any fun channel =>
          channel.object = .targetPosition ∧ s.1.commandReaches turnUpstream channel = false ∧
            s.1.state = turnUpstream.operationEnabled ∧
            s.1.positionCommandTakeoverAllowed = true ∧ s.2.near = true ∧
            s.1.positionValid = true ∧ s.1.lastPositionRaw = some 300000 ∧
            s.1.nextWrite turnUpstream = some (.targetPosition, 262144)) = true := by
    decide +kernel
  rcases exists_reachable_of_run ran with ⟨s, reachable, found⟩
  rw [Option.any_eq_true] at found
  rcases found with ⟨channel, next, passed⟩
  exact ⟨s, channel, reachable, next, of_decide_eq_true passed⟩

end RtControl.Ethercat
