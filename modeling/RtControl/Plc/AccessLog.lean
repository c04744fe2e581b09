import RtControl.Plc.Device

/-!
# The accesses of a callback

Every request of the node is one access of the PLC.  The accesses of the repair, of an
output write and of a status read follow fixed patterns, whatever the link does to
each request.
-/

namespace RtControl.Plc

theorem readBody_register (register : UInt16) : readBody register.toNat 1 = .read register 1 := by
  rw [readBody, Int.toNat_natCast, UInt16.ofNat_toNat]
  rfl

theorem writeBody_register (register word : UInt16) :
    writeBody register.toNat word.toNat = .write register word := by
  rw [writeBody, Int.toNat_natCast, Int.toNat_natCast, UInt16.ofNat_toNat, UInt16.ofNat_toNat]

section Requests

variable {plc : PlcModel} {setting : Setting Device} {s : Session Device}

/-- What one request on a quiet stream does at the PLC. -/
inductive Accessed {α : Type} (plc : PlcModel) (s : Session Device) (body : Body)
    (accept : Reply → Option α) : EStateM.Result ClientError (Session Device) α → Prop
  | returned (value : α) (t : Session Device) (access : Access)
      (named : access.body = body)
      (answer : access.reply = (plc.serve s.server body).2)
      (accepted : accept access.reply = some value)
      (continues : plc.Extends s.server [access] t.server)
      (connected : t.connected = s.connected)
      (quiet : t.inbound = []) :
      Accessed plc s body accept (.ok value t)
  | raised (error : ClientError) (t : Session Device) (access : Access)
      (named : access.body = body)
      (link : error.isLink)
      (continues : plc.Extends s.server [access] t.server)
      (connected : t.connected = s.connected) :
      Accessed plc s body accept (.error error t)

theorem Served.accessed (behind : setting.server = plc.server) {α : Type} {body : Body}
    {accept : Reply → Option α} {result : EStateM.Result ClientError (Session Device) α}
    (served : Served setting s body accept result) : Accessed plc s body accept result := by
  rcases plc.extends_serve s.server body with ⟨applied, continues⟩
  have reply : s.reply setting body = (plc.serve s.server body).2 := by
    rw [Session.reply, behind]
    rfl
  have server : (s.sent setting body).server = (plc.serve s.server body).1 := by
    rw [Session.sent, behind]
    rfl
  rw [← server] at continues
  cases served with
  | answered value recvs answer =>
      rw [reply] at answer
      exact .returned value _ _ rfl rfl answer continues rfl rfl
  | refused error recvs link => exact .raised error _ _ rfl link continues rfl
  | broken error consumed recvs link => exact .raised error _ _ rfl link continues rfl

theorem readRegister_accessed (behind : setting.server = plc.server)
    (connected : s.connected = true) (quiet : s.inbound = []) (register : UInt16) :
    Accessed plc s (.read register 1) Reply.register?
      (readRegister setting register.toNat s) := by
  have served : Served setting s _ _ (readHoldingRegisters setting register.toNat 1 s) :=
    read_served (validRange_register register) connected quiet
  have accessed := served.accessed behind
  rw [readBody_register] at accessed
  unfold readRegister
  generalize read : readHoldingRegisters setting register.toNat 1 s = result at accessed
  cases accessed with
  | returned values t access named answer accepted continues stays empty =>
      rw [bind_ok read]
      refine .returned _ t access named answer ?_ continues stays empty
      rw [Reply.register?, accepted]
      rfl
  | raised error t access named link continues stays =>
      rw [bind_error read]
      exact .raised error t access named link continues stays

theorem writeSingleRegister_accessed (behind : setting.server = plc.server)
    (connected : s.connected = true) (quiet : s.inbound = []) (register word : UInt16) :
    Accessed plc s (.write register word) Reply.written?
      (writeSingleRegister setting register.toNat word.toNat s) := by
  have bound := word.toNat_lt
  have served : Served setting s _ _ (writeSingleRegister setting register.toNat word.toNat s) :=
    write_served (validRange_register register) (by omega) connected quiet
  rw [← writeBody_register]
  exact served.accessed behind

/-- An accepted answer to a read of one register is that register's value. -/
theorem registers_of_accepted {device : Device} {access : Access} {register word : UInt16}
    (answer : access.reply = (plc.serve device (.read register 1)).2)
    (accepted : access.reply.register? = some word) : access.reply = .registers [word] := by
  have conforms : (Body.read register 1).Answers access.reply := by
    rw [answer]
    exact plc.server.conforms device (.read register 1)
  cases reply : access.reply with
  | registers values =>
      rw [reply] at accepted conforms
      have single : values.length = 1 := conforms
      rcases List.length_eq_one_iff.mp single with ⟨value, rfl⟩
      cases accepted
      rfl
  | written =>
      rw [reply] at accepted
      contradiction
  | refused code =>
      rw [reply] at accepted
      contradiction

end Requests

/-! ## The repair -/

/-- The accesses of the repair of a control word, and whether the remote control was
read back as enabled. -/
inductive RepairLog (control word : UInt16) : List Access → Bool → Prop
  | unread (first : Access)
      (reads : first.body = .read control 1) :
      RepairLog control word [first] false
  | enabled (first : Access)
      (reads : first.body = .read control 1)
      (answer : first.reply = .registers [word])
      (set : word.toNat.testBit 0 = true) :
      RepairLog control word [first] true
  | unwritten (first second : Access)
      (reads : first.body = .read control 1)
      (writes : second.body = .write control (enableRemoteControlWord word)) :
      RepairLog control word [first, second] false
  | unconfirmed (first second third : Access)
      (reads : first.body = .read control 1)
      (writes : second.body = .write control (enableRemoteControlWord word))
      (readsBack : third.body = .read control 1) :
      RepairLog control word [first, second, third] false
  | confirmed (first second third : Access) (readback : UInt16)
      (reads : first.body = .read control 1)
      (writes : second.body = .write control (enableRemoteControlWord word))
      (readsBack : third.body = .read control 1)
      (answer : third.reply = .registers [readback])
      (set : readback.toNat.testBit 0 = true) :
      RepairLog control word [first, second, third] true

/-- What the repair does at the PLC. -/
inductive Repaired (plc : PlcModel) (s : Session Device) :
    EStateM.Result ClientError (Session Device) Bool → Prop
  | returned (changed : Bool) (t : Session Device) (requests : List Access)
      (log : RepairLog plc.control (s.server.memory plc.control) requests true)
      (continues : plc.Extends s.server requests t.server)
      (connected : t.connected = true)
      (quiet : t.inbound = []) :
      Repaired plc s (.ok changed t)
  | raised (error : ClientError) (t : Session Device) (requests : List Access)
      (log : RepairLog plc.control (s.server.memory plc.control) requests false)
      (continues : plc.Extends s.server requests t.server)
      (connected : t.connected = true)
      (caught : error.kind ≠ .value)
      (quiet : error.kind = .control → t.inbound = []) :
      Repaired plc s (.error error t)

/-- An access of one register leaves the other one alone. -/
theorem Access.effect_read {access : Access} {start count : UInt16}
    (reads : access.body = .read start count) (register word : UInt16) :
    access.effect register word = word := by
  rw [effect, reads]

section Repair

variable {plc : PlcModel} {setting : Setting Device} {s : Session Device}

theorem testBit_zero_of_enabled {word : UInt16} (enabled : enableRemoteControlWord word = word) :
    word.toNat.testBit 0 = true := by
  rw [← enabled, testBit_enableRemoteControlWord]
  simp

theorem testBit_zero_of_mask {word : UInt16}
    (masked : word &&& remoteControlEnableMask = remoteControlEnableMask) :
    word.toNat.testBit 0 = true :=
  (masked_eq_iff word .leftSolenoid true).mp masked

theorem repairRemoteControl_repaired (behind : setting.server = plc.server)
    (connected : s.connected = true) (quiet : s.inbound = []) :
    Repaired plc s (repairRemoteControl setting plc.control.toNat s) := by
  unfold repairRemoteControl
  have first : Accessed plc s _ _ _ := readRegister_accessed behind connected quiet plc.control
  generalize reads : readRegister setting plc.control.toNat s = result at first
  cases first with
  | raised error t access named link continues stays =>
      rw [bind_error reads]
      exact .raised error t _ (.unread access named) continues (stays.trans connected)
        link.caught.1 fun control => absurd control link.caught.2
  | returned current t access named answer accepted continues stays empty =>
      have held : current = s.server.memory plc.control := by
        rw [answer] at accepted
        exact plc.reply_owned (Or.inr rfl) accepted
      have answered := registers_of_accepted answer accepted
      rw [bind_ok reads]
      simp only
      split_ifs with enabled
      · rw [held] at answered enabled
        exact .returned false t _ (.enabled access named answered (testBit_zero_of_enabled enabled))
          continues (stays.trans connected) empty
      · have second : Accessed plc t _ _ _ := writeSingleRegister_accessed behind
          (stays.trans connected) empty plc.control (enableRemoteControlWord current)
        generalize writes : writeSingleRegister setting plc.control.toNat
          (enableRemoteControlWord current).toNat t = result at second
        rw [held] at second
        cases second with
        | raised error u write writesNamed link furthers staysLater =>
            rw [bind_error writes]
            exact .raised error u _ (.unwritten access write named writesNamed)
              (continues.trans furthers) (staysLater.trans (stays.trans connected))
              link.caught.1 fun control => absurd control link.caught.2
        | returned written u write writesNamed _ _ furthers staysLater emptyLater =>
            rw [bind_ok writes]
            have uConnected := staysLater.trans (stays.trans connected)
            have uContinues := continues.trans furthers
            have third : Accessed plc u _ _ _ :=
              readRegister_accessed behind uConnected emptyLater plc.control
            generalize readsBack : readRegister setting plc.control.toNat u = result at third
            cases third with
            | raised error v readback readbackNamed link finishes staysLast =>
                rw [bind_error readsBack]
                exact .raised error v _
                  (.unconfirmed access write readback named writesNamed readbackNamed)
                  (uContinues.trans finishes) (staysLast.trans uConnected)
                  link.caught.1 fun control => absurd control link.caught.2
            | returned word v readback readbackNamed answerLast acceptedLast finishes staysLast
                emptyLast =>
                rw [bind_ok readsBack]
                have vConnected := staysLast.trans uConnected
                have vContinues := uContinues.trans finishes
                have unconfirmed : RepairLog plc.control (s.server.memory plc.control)
                    [access, write, readback] false :=
                  .unconfirmed access write readback named writesNamed readbackNamed
                by_cases cleared : word &&& remoteControlEnableMask ≠ remoteControlEnableMask
                · rw [if_pos cleared]
                  exact .raised _ v _ unconfirmed vContinues vConnected nofun fun _ => emptyLast
                · rw [if_neg cleared]
                  by_cases differs : word ≠ enableRemoteControlWord current
                  · rw [if_pos differs]
                    exact .raised _ v _ unconfirmed vContinues vConnected nofun fun _ => emptyLast
                  · rw [if_neg differs]
                    exact .returned true v _
                      (.confirmed access write readback word named writesNamed readbackNamed
                        (registers_of_accepted answerLast acceptedLast)
                        (testBit_zero_of_mask (not_not.mp cleared)))
                      vContinues vConnected emptyLast

end Repair

end RtControl.Plc
