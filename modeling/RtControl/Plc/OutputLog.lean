import RtControl.Plc.AccessLog

/-!
# The accesses of an output write

An output write reads the command register, writes it once with one bit changed, and
then only reads.  It returns after the command and the status register were both read
with the requested bit.
-/

namespace RtControl.Plc

open RtControl.Codec

/-- The access is a read. -/
def Access.IsRead (access : Access) : Prop :=
  ∃ start count, access.body = .read start count

/-- The access read one register with the bit of an output as requested. -/
def Access.Shows (access : Access) (register : UInt16) (output : Output) (enabled : Bool) : Prop :=
  ∃ word, access.body = .read register 1 ∧ access.reply = .registers [word] ∧
    word.toNat.testBit output.bit.toNat = enabled

/-- The accesses of an output write to a command word, and whether it was verified. -/
inductive OutputLog (command status word : UInt16) (output : Output) (enabled : Bool) :
    List Access → Bool → Prop
  | unread (first : Access)
      (reads : first.body = .read command 1) :
      OutputLog command status word output enabled [first] false
  | unverified (first second : Access) (later : List Access)
      (reads : first.body = .read command 1)
      (writes : second.body = .write command (withBit word output.bit enabled))
      (readsLater : ∀ access ∈ later, access.IsRead) :
      OutputLog command status word output enabled (first :: second :: later) false
  | verified (first second : Access) (later : List Access) (commandRead statusRead : Access)
      (reads : first.body = .read command 1)
      (writes : second.body = .write command (withBit word output.bit enabled))
      (readsLater : ∀ access ∈ later, access.IsRead)
      (commandShows : commandRead.Shows command output enabled)
      (statusShows : statusRead.Shows status output enabled) :
      OutputLog command status word output enabled
        (first :: second :: (later ++ [commandRead, statusRead])) true

/-- The node's client talks to the PLC. -/
structure PlcModel.Behind (plc : PlcModel) (surroundings : Surroundings Device)
    (parameters : Parameters) : Prop where
  server : surroundings.server = plc.server
  command : parameters.doCommandRegister = plc.command
  control : parameters.registers.control = plc.control

section Composition

variable {σ α β : Type} {node next : PlcNode σ}

theorem nodeBind_ok {first : NodeM σ α} {rest : α → NodeM σ β} {value : α}
    (returned : first node = .ok value next) : (first >>= rest) node = rest value next := by
  simp only [bind, EStateM.bind, returned]

theorem nodeBind_error {first : NodeM σ α} {rest : α → NodeM σ β} {error : ClientError}
    (raised : first node = .error error next) : (first >>= rest) node = .error error next := by
  simp only [bind, EStateM.bind, raised]

theorem onClient_ok {action : Client σ α} {value : α} {session : Session σ}
    (returned : action node.session = .ok value session) :
    PlcNode.onClient action node = .ok value { node with session } := by
  simp only [PlcNode.onClient, returned]

theorem onClient_error {action : Client σ α} {error : ClientError} {session : Session σ}
    (raised : action node.session = .error error session) :
    PlcNode.onClient action node = .error error { node with session } := by
  simp only [PlcNode.onClient, raised]

theorem get_eq : (get : NodeM σ (PlcNode σ)) node = .ok node node :=
  rfl

theorem modify_eq (change : PlcNode σ → PlcNode σ) :
    (modify change : NodeM σ Unit) node = .ok () (change node) :=
  rfl

theorem monotonic_eq (surroundings : Surroundings σ) :
    PlcNode.monotonic surroundings node =
      .ok (.finite (surroundings.clock.reading node.readings))
        { node with readings := node.readings + 1 } :=
  rfl

end Composition

/-- What a part of an output write does at the PLC: it returns with the client between
two answers, or it raises, and a control error leaves the client so. -/
inductive Wrote {α : Type} (plc : PlcModel) (node : PlcNode Device)
    (logs : List Access → Bool → Prop) :
    EStateM.Result ClientError (PlcNode Device) α → Prop
  | returned (value : α) (next : PlcNode Device) (requests : List Access)
      (log : logs requests true)
      (continues : plc.Extends node.session.server requests next.session.server)
      (connected : next.session.connected = true)
      (quiet : next.session.inbound = []) :
      Wrote plc node logs (.ok value next)
  | raised (error : ClientError) (next : PlcNode Device) (requests : List Access)
      (log : logs requests false)
      (continues : plc.Extends node.session.server requests next.session.server)
      (connected : next.session.connected = true)
      (quiet : error.kind = .control → next.session.inbound = []) :
      Wrote plc node logs (.error error next)

/-- The accesses of the verify loop: reads, at the end of which the two readbacks agree
when it returns. -/
inductive VerifyLog (command status : UInt16) (output : Output) (enabled : Bool) :
    List Access → Bool → Prop
  | unverified (requests : List Access)
      (reads : ∀ access ∈ requests, access.IsRead) :
      VerifyLog command status output enabled requests false
  | verified (later : List Access) (commandRead statusRead : Access)
      (reads : ∀ access ∈ later, access.IsRead)
      (commandShows : commandRead.Shows command output enabled)
      (statusShows : statusRead.Shows status output enabled) :
      VerifyLog command status output enabled (later ++ [commandRead, statusRead]) true

section Write

variable {plc : PlcModel} {surroundings : Surroundings Device} {parameters : Parameters}
  {node : PlcNode Device} {output : Output} {enabled : Bool}

theorem outputMatches_of_output (commandWord statusWord : UInt16) :
    outputMatches commandWord statusWord output.bit enabled =
      .ok (commandWord.toNat.testBit output.bit.toNat = enabled ∧
        statusWord.toNat.testBit output.bit.toNat = enabled) := by
  rw [outputMatches, if_neg (not_not_intro output.bit_mem)]
  simp only [masked_eq_iff]

/-- One more round in front of the rest of the loop. -/
theorem VerifyLog.cons {command status : UInt16} {requests : List Access} {agreed : Bool}
    {first second : Access} (firstReads : first.IsRead) (secondReads : second.IsRead)
    (log : VerifyLog command status output enabled requests agreed) :
    VerifyLog command status output enabled ([first, second] ++ requests) agreed := by
  have round : ∀ access ∈ [first, second], access.IsRead :=
    List.forall_mem_cons.mpr ⟨firstReads, List.forall_mem_singleton.mpr secondReads⟩
  cases log with
  | unverified requests reads =>
      exact .unverified _ (List.forall_mem_append.mpr ⟨round, reads⟩)
  | verified later commandRead statusRead reads commandShows statusShows =>
      rw [← List.append_assoc]
      exact .verified _ commandRead statusRead (List.forall_mem_append.mpr ⟨round, reads⟩)
        commandShows statusShows

/-- A part that runs after other accesses. -/
theorem Wrote.after {α : Type} {next : PlcNode Device} {earlier : List Access}
    {logs further : List Access → Bool → Prop}
    {result : EStateM.Result ClientError (PlcNode Device) α}
    (continues : plc.Extends node.session.server earlier next.session.server)
    (weaken : ∀ requests agreed, logs requests agreed → further (earlier ++ requests) agreed)
    (wrote : Wrote plc next logs result) : Wrote plc node further result := by
  cases wrote with
  | returned value last requests log continuesLater connected quiet =>
      exact .returned value last _ (weaken _ _ log) (continues.trans continuesLater) connected quiet
  | raised error last requests log continuesLater connected quiet =>
      exact .raised error last _ (weaken _ _ log) (continues.trans continuesLater) connected quiet

theorem verifyOutput_wrote (behind : plc.Behind surroundings parameters)
    (deadline : PyFloat) (rounds : Nat) (commandReadback statusReadback : UInt16)
    (connected : node.session.connected = true) (quiet : node.session.inbound = []) :
    Wrote plc node (VerifyLog plc.command parameters.registers.output output enabled)
      (PlcNode.verifyOutput surroundings parameters output.bit enabled deadline rounds
        commandReadback statusReadback node) := by
  induction rounds generalizing node commandReadback statusReadback with
  | zero =>
      exact .raised _ node [] (.unverified [] (by simp)) (.refl _) connected fun _ => quiet
  | succ rounds ih =>
      unfold PlcNode.verifyOutput
      rw [behind.command]
      have first : Accessed plc node.session _ _ _ :=
        readRegister_accessed behind.server connected quiet plc.command
      generalize reads : readRegister surroundings.toSetting plc.command.toNat node.session =
        result at first
      cases first with
      | raised error session access named link continues stays =>
          rw [nodeBind_error (onClient_error reads)]
          refine .raised error _ _ (.unverified [access] ?_) continues (stays.trans connected)
            fun control => absurd control link.caught.2
          exact List.forall_mem_singleton.mpr ⟨_, _, named⟩
      | returned commandWord session access named answer accepted continues stays empty =>
          rw [nodeBind_ok (onClient_ok reads)]
          have second : Accessed plc session _ _ _ := readRegister_accessed behind.server
            (stays.trans connected) empty parameters.registers.output
          generalize readsStatus : readRegister surroundings.toSetting
            parameters.registers.output.toNat session = result at second
          cases second with
          | raised error last status statusNamed link continuesLater staysLater =>
              rw [nodeBind_error (onClient_error readsStatus)]
              refine .raised error _ _ (.unverified [access, status] ?_)
                (continues.trans continuesLater) (staysLater.trans (stays.trans connected))
                fun control => absurd control link.caught.2
              exact List.forall_mem_cons.mpr
                ⟨⟨_, _, named⟩, List.forall_mem_singleton.mpr ⟨_, _, statusNamed⟩⟩
          | returned statusWord last status statusNamed statusAnswer statusAccepted continuesLater
              staysLater emptyLater =>
              rw [nodeBind_ok (onClient_ok readsStatus), outputMatches_of_output]
              have lastConnected := staysLater.trans (stays.trans connected)
              have round := continues.trans continuesLater
              simp only [ofExcept, pure_bind, decide_eq_true_eq]
              split_ifs with agrees
              · exact .returned _ _ _ (.verified [] access status (by simp)
                  ⟨_, named, registers_of_accepted answer accepted, agrees.1⟩
                  ⟨_, statusNamed, registers_of_accepted statusAnswer statusAccepted, agrees.2⟩)
                  round lastConnected emptyLater
              · rw [nodeBind_ok (monotonic_eq surroundings)]
                have readsBoth : ∀ log agreed,
                    VerifyLog plc.command parameters.registers.output output enabled log agreed →
                    VerifyLog plc.command parameters.registers.output output enabled
                      ([access, status] ++ log) agreed :=
                  fun _ _ => .cons ⟨_, _, named⟩ ⟨_, _, statusNamed⟩
                split_ifs with passed
                · exact .raised _ _ _ (readsBoth [] false (.unverified [] (by simp))) round
                    lastConnected fun _ => emptyLater
                · exact (ih _ _ lastConnected emptyLater).after round readsBoth

/-- The parameters pass the checks of an output write. -/
theorem Parameters.checked (parameters : Parameters) :
    (!(PyFloat.finite parameters.verifyTimeout).isFinite ||
      (PyFloat.finite parameters.verifyTimeout).lt (.finite 0)) = false ∧
    (!(PyFloat.finite parameters.verifyPeriod).isFinite ||
      (PyFloat.finite parameters.verifyPeriod).le (.finite 0)) = false := by
  have timeout : (PyFloat.finite 0).le (.finite parameters.verifyTimeout) = true :=
    decide_eq_true parameters.verifyTimeout_nonneg
  have period : (PyFloat.finite parameters.verifyPeriod).le (.finite 0) = false :=
    decide_eq_false (not_le.mpr parameters.verifyPeriod_pos)
  simp [PyFloat.lt, timeout, period]

theorem writeOutputBit_wrote (behind : plc.Behind surroundings parameters)
    (connected : node.session.connected = true) (quiet : node.session.inbound = []) :
    Wrote plc node (OutputLog plc.command parameters.registers.output
        (node.session.server.memory plc.command) output enabled)
      (PlcNode.writeOutputBit surroundings parameters output.bit enabled
        (.finite parameters.verifyTimeout) (.finite parameters.verifyPeriod) node) := by
  have checked := parameters.checked
  unfold PlcNode.writeOutputBit
  simp only [checked, Bool.false_eq_true, if_false, behind.command]
  have first : Accessed plc node.session _ _ _ :=
    readRegister_accessed behind.server connected quiet plc.command
  generalize reads : readRegister surroundings.toSetting plc.command.toNat node.session =
    result at first
  cases first with
  | raised error session access named link continues stays =>
      rw [nodeBind_error (onClient_error reads)]
      exact .raised error _ _ (.unread access named) continues (stays.trans connected)
        fun control => absurd control link.caught.2
  | returned currentWord session access named answer accepted continues stays empty =>
      have held : currentWord = node.session.server.memory plc.command := by
        rw [answer] at accepted
        exact plc.reply_owned (Or.inl rfl) accepted
      rw [nodeBind_ok (onClient_ok reads), setOutputBit_of_output, held]
      simp only [ofExcept, pure_bind]
      have second : Accessed plc session _ _ _ :=
        writeSingleRegister_accessed behind.server (stays.trans connected) empty plc.command
          (withBit (node.session.server.memory plc.command) output.bit enabled)
      generalize writes : writeSingleRegister surroundings.toSetting plc.command.toNat
        (withBit (node.session.server.memory plc.command) output.bit enabled).toNat session =
          result at second
      cases second with
      | raised error last write writeNamed link continuesLater staysLater =>
          rw [nodeBind_error (onClient_error writes)]
          exact .raised error _ _ (.unverified access write [] named writeNamed (by simp))
            (continues.trans continuesLater) (staysLater.trans (stays.trans connected))
            fun control => absurd control link.caught.2
      | returned written last write writeNamed _ _ continuesLater staysLater emptyLater =>
          rw [nodeBind_ok (onClient_ok writes), nodeBind_ok (monotonic_eq surroundings)]
          have lastConnected := staysLater.trans (stays.trans connected)
          refine (verifyOutput_wrote behind _ _ _ _ lastConnected emptyLater).after
            (continues.trans continuesLater) ?_
          intro requests agreed log
          cases log with
          | unverified requests readsLater =>
              exact .unverified access write requests named writeNamed readsLater
          | verified later commandRead statusRead readsLater commandShows statusShows =>
              exact .verified access write later commandRead statusRead named writeNamed readsLater
                commandShows statusShows

end Write

end RtControl.Plc
