import Mathlib
import RtControl.Plc.ModbusTcp

/-!
# One answer on the byte stream

The loops of the client are related to the bytes of the stream: an exact receive
takes the next bytes or stops before the last of them, an accepted answer is exactly
one frame with the current transaction, and on a stream that holds the answer alone
the client either reads it to the end or leaves a proper rest of it behind.
-/

namespace RtControl.Plc

open RtControl.Codec

/-- The exceptions that a broken or a wrong answer raises. -/
def ClientError.isLink (error : ClientError) : Prop :=
  error.kind = .os ∨ error.kind = .modbus

/-- The node catches them wherever it catches a client error. -/
theorem ClientError.isLink.caught {error : ClientError} (link : error.isLink) :
    error.kind ≠ .value ∧ error.kind ≠ .control := by
  rcases link with os | modbus
  · simp [os]
  · simp [modbus]

/-- No `recv` times out and the stream stays open. -/
def Setting.Prompt {σ : Type} (setting : Setting σ) : Prop :=
  ∀ n, ∃ size, setting.arrivals n = .chunk size

/-- The session after some bytes were received. -/
def Session.received {σ : Type} (s : Session σ) (rest : List UInt8) (recvs : Nat) : Session σ :=
  { s with inbound := rest, recvs := recvs }

section Receive

variable {σ : Type} {setting : Setting σ} {s t : Session σ}

/-- What one `recv` does: it fails, it reports the end of the stream, or it takes some
of the next bytes. -/
inductive Recv (setting : Setting σ) (length : Nat) (s : Session σ) :
    EStateM.Result ClientError (Session σ) (List UInt8) → Prop
  | failed (error : ClientError)
      (link : error.isLink)
      (empty : setting.Prompt → s.inbound = []) :
      Recv setting length s (.error error (s.received s.inbound (s.recvs + 1)))
  | ended
      (unprompt : ¬setting.Prompt) :
      Recv setting length s (.ok [] (s.received s.inbound (s.recvs + 1)))
  | taken (chunk rest : List UInt8)
      (nonempty : chunk ≠ [])
      (short : chunk.length ≤ length)
      (split : s.inbound = chunk ++ rest) :
      Recv setting length s (.ok chunk (s.received rest (s.recvs + 1)))

section Equations

attribute [local simp] bind EStateM.bind get getThe MonadStateOf.get EStateM.get set EStateM.set
  pure EStateM.pure throw throwThe MonadExceptOf.throw EStateM.throw

theorem recv_closed (length : Nat) (arrival : setting.arrivals s.recvs = .closed) :
    recv setting length s = .ok [] (s.received s.inbound (s.recvs + 1)) := by
  simp [recv, arrival, Session.received]

theorem recv_timeout (length : Nat) (arrival : setting.arrivals s.recvs = .timeout) :
    recv setting length s =
      .error { kind := .os, text := "timed out" } (s.received s.inbound (s.recvs + 1)) := by
  simp [recv, arrival, Session.received]

theorem recv_empty (length : Nat) {size : Nat} (arrival : setting.arrivals s.recvs = .chunk size)
    (empty : s.inbound = []) :
    recv setting length s =
      .error { kind := .os, text := "timed out" } (s.received s.inbound (s.recvs + 1)) := by
  simp [recv, arrival, empty, Session.received]

theorem recv_chunk (length : Nat) {size : Nat} (arrival : setting.arrivals s.recvs = .chunk size)
    (present : s.inbound ≠ []) :
    recv setting length s =
      .ok (s.inbound.take (max 1 (min size length)))
        (s.received (s.inbound.drop (s.inbound.take (max 1 (min size length))).length)
          (s.recvs + 1)) := by
  cases inbound : s.inbound with
  | nil => exact absurd inbound present
  | cons byte rest => simp [recv, arrival, inbound, Session.received]

theorem recvLoop_succ (length rounds : Nat) (chunks : List UInt8) :
    recvLoop setting length (rounds + 1) chunks s =
      if chunks.length < length then
        match recv setting (length - chunks.length) s with
        | .ok chunk t =>
            if chunk.isEmpty then
              .error { kind := .modbus, text := "connection closed by remote host" } t
            else recvLoop setting length rounds (chunks ++ chunk) t
        | .error error t => .error error t
      else .ok chunks s := by
  simp only [recvLoop]
  split_ifs with missing
  · simp only [bind, EStateM.bind]
    cases recv setting (length - chunks.length) s with
    | ok chunk t =>
        cases chunk with
        | nil => simp
        | cons byte chunk => simp
    | error error t => rfl
  · rfl

/-- An answer is read in two parts. -/
theorem response_eq (function : UInt8) :
    response setting function s =
      match recvExact setting 7 s with
      | .ok header t =>
          match checkHeader s.transactionId setting.unitId header with
          | .ok length =>
              match recvExact setting (length - 1) t with
              | .ok pdu u =>
                  match checkPdu function pdu with
                  | .ok payload => .ok payload u
                  | .error error => .error error u
              | .error error u => .error error u
          | .error error => .error error t
      | .error error t => .error error t := by
  simp only [response, bind, EStateM.bind, get, getThe, MonadStateOf.get, EStateM.get]
  cases recvExact setting 7 s with
  | error error t => rfl
  | ok header t =>
      simp only
      cases checkHeader s.transactionId setting.unitId header with
      | error error => rfl
      | ok length =>
          simp only [ofExcept, pure, EStateM.pure]
          cases recvExact setting (length - 1) t with
          | error error u => rfl
          | ok pdu u =>
              simp only
              cases checkPdu function pdu <;> rfl

end Equations

theorem recv_spec {length : Nat} (positive : 0 < length) :
    Recv setting length s (recv setting length s) := by
  have late (arrival : ∀ size, setting.arrivals s.recvs ≠ .chunk size) : ¬setting.Prompt := by
    intro prompt
    obtain ⟨size, chunk⟩ := prompt s.recvs
    exact arrival size chunk
  cases arrival : setting.arrivals s.recvs with
  | closed =>
      rw [recv_closed length arrival]
      exact .ended (late (by rw [arrival]; nofun))
  | timeout =>
      rw [recv_timeout length arrival]
      exact .failed _ (Or.inl rfl) fun prompt => absurd prompt (late (by rw [arrival]; nofun))
  | chunk size =>
      by_cases empty : s.inbound = []
      · rw [recv_empty length arrival empty]
        exact .failed _ (Or.inl rfl) fun _ => empty
      · rw [recv_chunk length arrival empty]
        have bytes : 0 < s.inbound.length := List.length_pos_iff.mpr empty
        apply Recv.taken
        · intro none
          have taken := congrArg List.length none
          simp only [List.length_take, List.length_nil] at taken
          omega
        · simp only [List.length_take]
          omega
        · rw [List.length_take]
          rcases Nat.le_total (max 1 (min size length)) s.inbound.length with fits | exceeds
          · rw [Nat.min_eq_left fits, List.take_append_drop]
          · rw [Nat.min_eq_right exceeds, List.take_of_length_le exceeds, List.drop_length,
              List.append_nil]

/-- What an exact receive does: it takes the next bytes, or it fails before the last
of them. -/
inductive Exact (setting : Setting σ) (missing : Nat) (s : Session σ) (chunks : List UInt8) :
    EStateM.Result ClientError (Session σ) (List UInt8) → Prop
  | full (bytes rest : List UInt8) (recvs : Nat)
      (split : s.inbound = bytes ++ rest)
      (exact : bytes.length = missing) :
      Exact setting missing s chunks (.ok (chunks ++ bytes) (s.received rest recvs))
  | failed (error : ClientError) (bytes rest : List UInt8) (recvs : Nat)
      (link : error.isLink)
      (split : s.inbound = bytes ++ rest)
      (short : bytes.length < missing)
      (empty : setting.Prompt → rest = []) :
      Exact setting missing s chunks (.error error (s.received rest recvs))

theorem exact_nothing {missing : Nat} {chunks : List UInt8} (full : missing = 0) :
    Exact setting missing s chunks (.ok chunks s) := by
  have exact : Exact setting missing s chunks (.ok (chunks ++ []) (s.received s.inbound s.recvs)) :=
    .full [] _ _ rfl full.symm
  rw [List.append_nil] at exact
  exact exact

/-- A chunk in front of an exact receive of the rest. -/
theorem exact_append {missing : Nat} {chunks chunk rest : List UInt8} {recvs : Nat}
    {result : EStateM.Result ClientError (Session σ) (List UInt8)}
    (split : s.inbound = chunk ++ rest) (fitting : chunk.length ≤ missing)
    (later : Exact setting (missing - chunk.length) (s.received rest recvs) (chunks ++ chunk)
      result) :
    Exact setting missing s chunks result := by
  cases later with
  | full bytes rest recvs splitLater exactLater =>
      have joined : s.inbound = (chunk ++ bytes) ++ rest := by
        rw [split, List.append_assoc]
        exact congrArg (chunk ++ ·) splitLater
      rw [List.append_assoc]
      exact .full (chunk ++ bytes) rest recvs joined (by rw [List.length_append]; omega)
  | failed error bytes rest recvs link splitLater shortLater empty =>
      have joined : s.inbound = (chunk ++ bytes) ++ rest := by
        rw [split, List.append_assoc]
        exact congrArg (chunk ++ ·) splitLater
      exact .failed error (chunk ++ bytes) rest recvs link joined
        (by rw [List.length_append]; omega) empty

theorem recvLoop_spec {length rounds : Nat} {chunks : List UInt8}
    (fits : length ≤ chunks.length + rounds) (short : chunks.length ≤ length) :
    Exact setting (length - chunks.length) s chunks
      (recvLoop setting length rounds chunks s) := by
  induction rounds generalizing s chunks with
  | zero => exact exact_nothing (by omega)
  | succ rounds ih =>
      rw [recvLoop_succ]
      split_ifs with missing
      · have received : Recv setting (length - chunks.length) s
            (recv setting (length - chunks.length) s) := recv_spec (by omega)
        generalize recv setting (length - chunks.length) s = result at received
        cases received with
        | failed error link empty =>
            exact .failed error [] s.inbound _ link rfl (by rw [List.length_nil]; omega) empty
        | ended unprompt =>
            exact .failed _ [] s.inbound _ (Or.inr rfl) rfl (by rw [List.length_nil]; omega)
              fun prompt => absurd prompt unprompt
        | taken chunk rest nonempty fitting split =>
            have some : chunk.isEmpty = false := by simpa using nonempty
            have grows := List.length_pos_iff.mpr nonempty
            simp only [some, Bool.false_eq_true, if_false]
            apply exact_append split fitting
            rw [Nat.sub_sub, ← List.length_append]
            exact ih (by rw [List.length_append]; omega) (by rw [List.length_append]; omega)
      · exact exact_nothing (by omega)

theorem recvExact_spec (setting : Setting σ) (s : Session σ) (length : Nat) :
    Exact setting length s [] (recvExact setting length s) := by
  have short : ([] : List UInt8).length ≤ length := Nat.zero_le length
  exact recvLoop_spec (Nat.le_add_left _ _) short

/-! ## Frames -/

/-- The seven bytes in front of a PDU. -/
def frameHeader (transactionId : UInt16) (unitId : UInt8) (length : Nat) : List UInt8 :=
  pack16 transactionId ++ pack16 0 ++ pack16 (UInt16.ofNat length) ++ [unitId]

theorem frame_eq (transactionId : UInt16) (unitId : UInt8) (pdu : List UInt8) :
    frame transactionId unitId pdu = frameHeader transactionId unitId (pdu.length + 1) ++ pdu :=
  rfl

@[simp]
theorem length_frameHeader (transactionId : UInt16) (unitId : UInt8) (length : Nat) :
    (frameHeader transactionId unitId length).length = 7 :=
  rfl

@[simp]
theorem length_frame (transactionId : UInt16) (unitId : UInt8) (pdu : List UInt8) :
    (frame transactionId unitId pdu).length = pdu.length + 7 := by
  rw [frame_eq, List.length_append, length_frameHeader, Nat.add_comm]

/-- The header check accepts exactly the headers of the current transaction. -/
theorem checkHeader_eq_ok_iff {transactionId : UInt16} {unitId : UInt8} {header : List UInt8}
    {length : Nat} :
    checkHeader transactionId unitId header = .ok length ↔
      header = frameHeader transactionId unitId length ∧ 2 ≤ length ∧ length ≤ 254 := by
  constructor
  · intro accepted
    unfold checkHeader at accepted
    split at accepted
    next t1 t0 p1 p0 l1 l0 unit =>
      simp only at accepted
      split_ifs at accepted with transaction protocol mismatch range
      cases accepted
      simp only [not_not] at transaction protocol mismatch range
      rw [mismatch, frameHeader, ← transaction, ← protocol, UInt16.ofNat_toNat]
      simp only [pack16_unpack16, List.cons_append, List.nil_append]
      exact ⟨trivial, range⟩
    next => contradiction
  · rintro ⟨rfl, low, high⟩
    have small : (UInt16.ofNat length).toNat = length := by
      rw [UInt16.toNat_ofNat']
      omega
    simp only [frameHeader, pack16, List.cons_append, List.nil_append, checkHeader,
      unpack16_of_pack16, ne_eq, not_true_eq_false, if_false]
    rw [small, if_neg (not_not.mpr ⟨low, high⟩)]

/-- The PDU check accepts exactly the PDUs of the function. -/
theorem checkPdu_eq_ok_iff {function : UInt8} (plain : function ≠ function ||| 0x80)
    {pdu payload : List UInt8} :
    checkPdu function pdu = .ok payload ↔ pdu = function :: payload := by
  cases pdu with
  | nil => simp [checkPdu]
  | cons responseFunction rest =>
      simp only [checkPdu, List.cons.injEq]
      by_cases refused : responseFunction = function ||| 0x80
      · simp only [refused, if_true, reduceCtorEq, false_iff, not_and]
        intro same
        exact absurd same.symm plain
      · by_cases same : responseFunction = function
        · simp [same, plain]
        · simp [refused, same]

theorem checkHeader_isLink {transactionId : UInt16} {unitId : UInt8} {header : List UInt8}
    {error : ClientError} (raised : checkHeader transactionId unitId header = .error error) :
    error.isLink := by
  unfold checkHeader at raised
  split at raised
  · simp only at raised
    split_ifs at raised <;> cases raised <;> exact Or.inr rfl
  · cases raised
    exact Or.inr rfl

theorem checkPdu_isLink {function : UInt8} {pdu : List UInt8} {error : ClientError}
    (raised : checkPdu function pdu = .error error) : error.isLink := by
  unfold checkPdu at raised
  split at raised
  · split_ifs at raised <;> cases raised <;> exact Or.inr rfl
  · cases raised
    exact Or.inr rfl

/-! ## One answer -/

/-- An accepted answer is exactly one frame of the current transaction. -/
theorem response_ok {function : UInt8} (plain : function ≠ function ||| 0x80)
    {payload : List UInt8} (accepted : response setting function s = .ok payload t) :
    ∃ rest recvs,
      s.inbound = frame s.transactionId setting.unitId (function :: payload) ++ rest ∧
        payload.length + 2 ≤ 254 ∧ t = s.received rest recvs := by
  rw [response_eq] at accepted
  have first := recvExact_spec setting s 7
  generalize recvExact setting 7 s = head at first accepted
  cases first with
  | failed => contradiction
  | full header rest recvs split exactly =>
      simp only [List.nil_append] at accepted
      split at accepted
      next length checked =>
        obtain ⟨rfl, low, high⟩ := checkHeader_eq_ok_iff.mp checked
        have second := recvExact_spec setting (s.received rest recvs) (length - 1)
        generalize recvExact setting (length - 1) (s.received rest recvs) = tail at second accepted
        cases second with
        | failed => contradiction
        | full pdu last recvs splitRest exactPdu =>
            simp only [List.nil_append] at accepted
            split at accepted
            next checkedPayload checkedPdu =>
              cases accepted
              have named := (checkPdu_eq_ok_iff plain).mp checkedPdu
              have sized : length = pdu.length + 1 := by omega
              refine ⟨last, recvs, ?_, ?_, rfl⟩
              · rw [split, ← named, frame_eq, ← sized, List.append_assoc]
                exact congrArg (_ ++ ·) splitRest
              · rw [named, List.length_cons] at exactPdu
                omega
            next => contradiction
      next => contradiction

/-- A rejected answer leaves the session as it was but for the received bytes. -/
theorem response_error {function : UInt8} {error : ClientError}
    (rejected : response setting function s = .error error t) :
    error.isLink ∧ ∃ rest recvs, t = s.received rest recvs := by
  rw [response_eq] at rejected
  have first := recvExact_spec setting s 7
  generalize recvExact setting 7 s = head at first rejected
  cases first with
  | failed cause bytes rest recvs link =>
      cases rejected
      exact ⟨link, rest, recvs, rfl⟩
  | full header rest recvs split exactly =>
      simp only [List.nil_append] at rejected
      split at rejected
      next length checked =>
        have second := recvExact_spec setting (s.received rest recvs) (length - 1)
        generalize recvExact setting (length - 1) (s.received rest recvs) = tail at second rejected
        cases second with
        | failed cause bytes last recvs link =>
            cases rejected
            exact ⟨link, last, recvs, rfl⟩
        | full pdu last recvs splitRest exactPdu =>
            simp only [List.nil_append] at rejected
            split at rejected
            next => contradiction
            next cause raised =>
              cases rejected
              exact ⟨checkPdu_isLink raised, last, recvs, rfl⟩
      next cause raised =>
        cases rejected
        exact ⟨checkHeader_isLink raised, rest, recvs, rfl⟩

/-- What happens to an answer that is alone on the stream: it is read to the end, or
a proper rest of it is left behind. -/
inductive Answer (setting : Setting σ) (function : UInt8) (s : Session σ) (pdu : List UInt8) :
    EStateM.Result ClientError (Session σ) (List UInt8) → Prop
  | accepted (payload : List UInt8) (recvs : Nat)
      (checked : checkPdu function pdu = .ok payload) :
      Answer setting function s pdu (.ok payload (s.received [] recvs))
  | rejected (error : ClientError) (recvs : Nat)
      (checked : checkPdu function pdu = .error error) :
      Answer setting function s pdu (.error error (s.received [] recvs))
  | broken (error : ClientError) (consumed recvs : Nat)
      (link : error.isLink)
      (unprompt : ¬setting.Prompt)
      (short : consumed < (frame s.transactionId setting.unitId pdu).length) :
      Answer setting function s pdu (.error error
        (s.received ((frame s.transactionId setting.unitId pdu).drop consumed) recvs))

theorem response_answer {function : UInt8} {pdu : List UInt8} (present : pdu ≠ [])
    (fits : pdu.length + 1 ≤ 254)
    (alone : s.inbound = frame s.transactionId setting.unitId pdu) :
    Answer setting function s pdu (response setting function s) := by
  have positive := List.length_pos_iff.mpr present
  have unread {bytes rest : List UInt8} (split : s.inbound = bytes ++ rest) :
      rest = (frame s.transactionId setting.unitId pdu).drop bytes.length := by
    rw [← alone, split, List.drop_left]
  rw [response_eq]
  have first := recvExact_spec setting s 7
  generalize recvExact setting 7 s = head at first
  cases first with
  | failed error bytes rest recvs link split short empty =>
      have left := unread split
      have unprompt : ¬setting.Prompt := by
        intro prompt
        rw [empty prompt, List.append_nil, alone] at split
        rw [← split, length_frame] at short
        omega
      rw [left]
      exact .broken error _ _ link unprompt (by rw [length_frame]; omega)
  | full header rest recvs split exactly =>
      rw [alone, frame_eq] at split
      obtain ⟨rfl, rfl⟩ := List.append_inj split (by rw [exactly, length_frameHeader])
      have checked : checkHeader s.transactionId setting.unitId
          (frameHeader s.transactionId setting.unitId (pdu.length + 1)) = .ok (pdu.length + 1) :=
        checkHeader_eq_ok_iff.mpr ⟨rfl, by omega, fits⟩
      simp only [List.nil_append, checked, Nat.add_sub_cancel]
      have second := recvExact_spec setting (s.received pdu recvs) pdu.length
      generalize recvExact setting pdu.length (s.received pdu recvs) = tail at second
      cases second with
      | failed error bytes last recvsLater link splitPdu short empty =>
          have whole : s.inbound =
              (frameHeader s.transactionId setting.unitId (pdu.length + 1) ++ bytes) ++ last := by
            rw [alone, frame_eq, List.append_assoc]
            exact congrArg (_ ++ ·) splitPdu
          have left := unread whole
          have unprompt : ¬setting.Prompt := by
            intro prompt
            have splitPdu : pdu = bytes ++ last := splitPdu
            rw [empty prompt, List.append_nil] at splitPdu
            rw [splitPdu] at short
            omega
          have consumed : (frameHeader s.transactionId setting.unitId (pdu.length + 1) ++
              bytes).length < (frame s.transactionId setting.unitId pdu).length := by
            rw [List.length_append, length_frameHeader, length_frame]
            omega
          rw [left]
          exact .broken error _ _ link unprompt consumed
      | full bytes last recvsLater splitPdu exactPdu =>
          have splitPdu : pdu = bytes ++ last := splitPdu
          have done : last = [] := by
            have lengths := congrArg List.length splitPdu
            rw [List.length_append] at lengths
            exact List.eq_nil_of_length_eq_zero (by omega)
          subst done
          rw [List.append_nil] at splitPdu
          subst splitPdu
          simp only [List.nil_append]
          cases checkedPdu : checkPdu function pdu with
          | ok payload => exact .accepted payload recvsLater checkedPdu
          | error error => exact .rejected error recvsLater checkedPdu

end Receive

end RtControl.Plc
