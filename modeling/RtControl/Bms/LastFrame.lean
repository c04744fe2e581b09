import RtControl.Bms.BmsNode
import Mathlib.Data.List.Induction
import Mathlib.Data.Nat.Bitwise

/-!
# The battery state is that of the last accepted frame

Acceptance is spread over the decoding of the raw frame and the checks of the protocol.
Together they accept exactly the basic status frames, and a sequence of reads leaves
the sample of the last of them.
-/

namespace RtControl.Bms

open RtControl.Codec

/-- A basic status frame: a standard data frame with the identifier of the battery
status, at least five data bytes and a percentage. -/
structure Accepted (order : ByteOrder) (bytes : List UInt8) : Prop where
  size : bytes.length = 16
  identifier : (rawCanId order bytes).toNat % 2 ^ 11 = 0x3FC
  standard : (rawCanId order bytes).toNat.testBit 31 = false
  data : (rawCanId order bytes).toNat.testBit 30 = false
  clean : (rawCanId order bytes).toNat.testBit 29 = false
  dlc : 5 ≤ (byteAt bytes 4).toNat ∧ (byteAt bytes 4).toNat ≤ 8
  soc : (byteAt bytes 12).toNat ≤ 100

theorem accepted_iff {order : ByteOrder} {bytes : List UInt8} :
    Accepted order bytes ↔
      bytes.length = 16 ∧ (rawCanId order bytes).toNat % 2 ^ 11 = 0x3FC ∧
      ((rawCanId order bytes).toNat.testBit 31 = false ∧
        (rawCanId order bytes).toNat.testBit 30 = false ∧
        (rawCanId order bytes).toNat.testBit 29 = false) ∧
      (5 ≤ (byteAt bytes 4).toNat ∧ (byteAt bytes 4).toNat ≤ 8) ∧
      (byteAt bytes 12).toNat ≤ 100 := by
  constructor
  · rintro ⟨size, identifier, standard, data, clean, dlc, soc⟩
    exact ⟨size, identifier, ⟨standard, data, clean⟩, dlc, soc⟩
  · rintro ⟨size, identifier, ⟨standard, data, clean⟩, dlc, soc⟩
    exact ⟨size, identifier, standard, data, clean, dlc, soc⟩

instance (order : ByteOrder) (bytes : List UInt8) : Decidable (Accepted order bytes) :=
  decidable_of_iff _ accepted_iff.symm

/-! ## One frame -/

section Frame

variable {order : ByteOrder} {rounding : Rounding} {bytes : List UInt8}

theorem sffMask_eq_iff (word : UInt32) :
    word &&& canSffMask = basicStatusFrameId ↔ word.toNat % 2 ^ 11 = 0x3FC := by
  rw [← UInt32.toNat_inj, UInt32.toNat_and, ← Nat.and_two_pow_sub_one_eq_mod]
  rfl

theorem flagMask_eq_zero_iff (word : UInt32) :
    word &&& canFrameFlagMask = 0 ↔
      word.toNat.testBit 31 = false ∧ word.toNat.testBit 30 = false ∧
        word.toNat.testBit 29 = false := by
  have mask : canFrameFlagMask.toNat = 2 ^ 31 ||| 2 ^ 30 ||| 2 ^ 29 := rfl
  have zero (bit : Nat) : word.toNat &&& 2 ^ bit = 0 ↔ word.toNat.testBit bit = false := by
    rw [Nat.and_two_pow]
    cases word.toNat.testBit bit <;> simp
  rw [← UInt32.toNat_inj, UInt32.toNat_and, mask, Nat.and_or_distrib_left,
    Nat.and_or_distrib_left, UInt32.toNat_zero, Nat.or_eq_zero_iff, Nat.or_eq_zero_iff, zero, zero,
    zero, and_assoc]

/-- The decoder accepts the standard data frames of the battery status. -/
theorem decodeCanFrame_eq :
    decodeCanFrame order bytes =
      if bytes.length = 16 ∧ (rawCanId order bytes).toNat % 2 ^ 11 = 0x3FC ∧
        ((rawCanId order bytes).toNat.testBit 31 = false ∧
          (rawCanId order bytes).toNat.testBit 30 = false ∧
          (rawCanId order bytes).toNat.testBit 29 = false) ∧
        (byteAt bytes 4).toNat ≤ 8
      then some (basicStatusFrameId, (bytes.drop 8).take (byteAt bytes 4).toNat)
      else none := by
  have short : byteAt bytes 4 > 8 ↔ ¬(byteAt bytes 4).toNat ≤ 8 := by
    rw [gt_iff_lt, UInt8.lt_iff_toNat_lt, not_le]
    rfl
  unfold decodeCanFrame
  simp only [ne_eq, sffMask_eq_iff, flagMask_eq_zero_iff, short, canFrameSize]
  by_cases size : bytes.length = 16
  · by_cases flags : (rawCanId order bytes).toNat.testBit 31 = false ∧
        (rawCanId order bytes).toNat.testBit 30 = false ∧
        (rawCanId order bytes).toNat.testBit 29 = false
    · by_cases dlc : (byteAt bytes 4).toNat ≤ 8
      · by_cases identifier : (rawCanId order bytes).toNat % 2048 = 0x3FC
        · simp [size, flags, dlc, (sffMask_eq_iff _).mpr identifier]
        · simp [size, flags, dlc, identifier]
      · simp [size, dlc]
    · simp [flags]
  · simp [size]

/-- The sample of an accepted frame. -/
def sampleOf (rounding : Rounding) (read : RawRead) : BmsSample where
  voltage := some (.finite (rounding.round
    (((byteAt read.bytes 8).toNat * 256 + (byteAt read.bytes 9).toNat : Nat) *
      rounding.round (1 / 10))))
  socFraction := some (.finite (rounding.round ((byteAt read.bytes 12).toNat / 100)))
  lastFrame := some (.finite read.time)

theorem byteAt_payload {count offset : Nat} (inside : offset < count) :
    byteAt ((bytes.drop 8).take count) offset = byteAt bytes (8 + offset) := by
  simp only [byteAt, List.getD_eq_getElem?_getD, List.getElem?_take, if_pos inside,
    List.getElem?_drop]

/-- An accepted frame replaces the whole sample. -/
theorem readFrame_of_accepted {read : RawRead} (accepted : Accepted order read.bytes)
    (sample : BmsSample) : readFrame order rounding sample read = sampleOf rounding read := by
  rcases accepted with ⟨size, identifier, standard, data, clean, ⟨long, short⟩, soc⟩
  have payload : ((read.bytes.drop 8).take (byteAt read.bytes 4).toNat).length =
      (byteAt read.bytes 4).toNat := by
    rw [List.length_take, List.length_drop, size]
    omega
  have percent : ¬byteAt read.bytes 12 > 100 := by
    rw [gt_iff_lt, UInt8.lt_iff_toNat_lt, not_lt]
    exact soc
  have decoded : decodeCanFrame order read.bytes =
      some (basicStatusFrameId, (read.bytes.drop 8).take (byteAt read.bytes 4).toNat) := by
    rw [decodeCanFrame_eq, if_pos ⟨size, identifier, ⟨standard, data, clean⟩, short⟩]
  have taken : ¬(basicStatusFrameId ≠ basicStatusFrameId ∨
      ((read.bytes.drop 8).take (byteAt read.bytes 4).toNat).length < 5 ∨
      (PyFloat.finite read.time).isFinite = false) := by
    rw [payload]
    simp
    omega
  simp only [readFrame, decoded, ingestBasicFrame, if_neg taken, voltageOf, socFractionOf,
    byteAt_payload (by omega : 0 < (byteAt read.bytes 4).toNat),
    byteAt_payload (by omega : 1 < (byteAt read.bytes 4).toNat),
    byteAt_payload (by omega : 4 < (byteAt read.bytes 4).toNat), if_neg percent,
    toNat_unpack16, sampleOf]

/-- A rejected frame changes nothing. -/
theorem readFrame_of_rejected {read : RawRead} (rejected : ¬Accepted order read.bytes)
    (sample : BmsSample) : readFrame order rounding sample read = sample := by
  rw [accepted_iff] at rejected
  rw [readFrame, decodeCanFrame_eq]
  split_ifs with decoded
  · rcases decoded with ⟨size, identifier, flags, short⟩
    have payload : ((read.bytes.drop 8).take (byteAt read.bytes 4).toNat).length =
        (byteAt read.bytes 4).toNat := by
      rw [List.length_take, List.length_drop, size]
      omega
    simp only [ingestBasicFrame, payload]
    split_ifs with refused percent
    · rfl
    · rfl
    · rw [byteAt_payload (by omega)] at percent
      have soc : (byteAt read.bytes 12).toNat ≤ 100 := by
        rw [gt_iff_lt, UInt8.lt_iff_toNat_lt, not_lt] at percent
        exact percent
      exact absurd ⟨size, identifier, flags, ⟨by omega, short⟩, soc⟩ rejected
  · rfl

end Frame

/-! ## Sequences of reads -/

section Reads

variable {order : ByteOrder} {rounding : Rounding}

/-- The last accepted frame of some reads. -/
def lastAccepted (order : ByteOrder) (reads : List RawRead) : Option RawRead :=
  (reads.filter fun read => Accepted order read.bytes).getLast?

theorem lastAccepted_snoc (reads : List RawRead) (read : RawRead) :
    lastAccepted order (reads ++ [read]) =
      if Accepted order read.bytes then some read else lastAccepted order reads := by
  rw [lastAccepted, List.filter_append]
  split_ifs with accepted
  · rw [List.filter_singleton, decide_eq_true accepted, cond_true, List.getLast?_concat]
  · rw [List.filter_singleton, decide_eq_false accepted, cond_false, List.append_nil]
    rfl

/-- Reads leave the sample of their last accepted frame. -/
theorem readFrames_eq (reads : List RawRead) :
    readFrames order rounding reads =
      ((lastAccepted order reads).map (sampleOf rounding)).getD {} := by
  induction reads using List.reverseRecOn with
  | nil => rfl
  | append_singleton reads read ih =>
      rw [readFrames, List.foldl_append, ← readFrames, List.foldl_cons, List.foldl_nil,
        lastAccepted_snoc]
      split_ifs with accepted
      · rw [readFrame_of_accepted accepted]
        rfl
      · rw [readFrame_of_rejected accepted, ih]

/-- The rejected reads, in any position, change nothing. -/
theorem readFrames_filter (reads : List RawRead) :
    readFrames order rounding (reads.filter fun read => Accepted order read.bytes) =
      readFrames order rounding reads := by
  rw [readFrames_eq, readFrames_eq, lastAccepted, List.filter_filter]
  simp only [Bool.and_self]
  rfl

/-- The read is fresh when the state is published. -/
def FreshAt (rounding : Rounding) (timeout : ℚ) (now : PyFloat) (read : RawRead) : Prop :=
  (PyFloat.finite 0).le (now.sub rounding (.finite read.time)) = true ∧
    (now.sub rounding (.finite read.time)).le (.finite timeout) = true

theorem isFresh_sampleOf {timeout : ℚ} (positive : 0 < timeout) (now : PyFloat) (read : RawRead) :
    (sampleOf rounding read).isFresh rounding now (.finite timeout) = true ↔
      FreshAt rounding timeout now read := by
  have valid : (PyFloat.finite 0).lt (.finite timeout) = true := by
    simp only [PyFloat.lt, PyFloat.le, Bool.and_eq_true, decide_eq_true_eq, Bool.not_eq_true',
      decide_eq_false_iff_not, not_le]
    exact ⟨positive.le, positive⟩
  unfold FreshAt
  cases now with
  | finite now => simp [BmsSample.isFresh, sampleOf, valid]
  | infinity negative =>
      simp [BmsSample.isFresh, sampleOf, PyFloat.isFinite, PyFloat.sub, PyFloat.neg, PyFloat.add,
        PyFloat.le]
  | nan =>
      simp [BmsSample.isFresh, sampleOf, PyFloat.isFinite, PyFloat.sub, PyFloat.add, PyFloat.le]

/-- The percentage of an accepted frame is a fraction. -/
theorem socFraction_mem {read : RawRead} (accepted : Accepted order read.bytes) :
    0 ≤ rounding.round ((byteAt read.bytes 12).toNat / 100) ∧
      rounding.round ((byteAt read.bytes 12).toNat / 100) ≤ 1 := by
  have percent : ((byteAt read.bytes 12).toNat : ℚ) ≤ 100 := by exact_mod_cast accepted.soc
  have low : (0 : ℚ) ≤ (byteAt read.bytes 12).toNat / 100 := by positivity
  have high : ((byteAt read.bytes 12).toNat : ℚ) / 100 ≤ 1 := by
    rw [div_le_one (by norm_num)]
    exact percent
  constructor
  · rw [← rounding.zero]
    exact rounding.monotone low
  · rw [← rounding.one]
    exact rounding.monotone high

theorem projectBatteryValues_sampleOf {timeout : ℚ} (positive : 0 < timeout) {now : PyFloat}
    {read : RawRead} (accepted : Accepted order read.bytes)
    (fresh : FreshAt rounding timeout now read) :
    projectBatteryValues rounding (sampleOf rounding read) now (.finite timeout) =
      (.finite (rounding.round
        (((byteAt read.bytes 8).toNat * 256 + (byteAt read.bytes 9).toNat : Nat) *
          rounding.round (1 / 10))),
        .finite (rounding.round ((byteAt read.bytes 12).toNat / 100))) := by
  have isFresh := (isFresh_sampleOf positive now read).mpr fresh
  have fraction : 0 ≤ rounding.round ((byteAt read.bytes 12).toNat / 100) ∧
      rounding.round ((byteAt read.bytes 12).toNat / 100) ≤ 1 := socFraction_mem accepted
  rw [projectBatteryValues, isFresh, Bool.not_true, if_neg Bool.false_ne_true]
  simp [sampleOf, fraction]

theorem projectBatteryValues_of_stale {sample : BmsSample} {now timeout : PyFloat}
    (stale : sample.isFresh rounding now timeout = false) :
    projectBatteryValues rounding sample now timeout = (.nan, .nan) := by
  rw [projectBatteryValues, stale, Bool.not_false, if_pos rfl]

theorem accepted_of_lastAccepted {reads : List RawRead} {read : RawRead}
    (last : lastAccepted order reads = some read) : Accepted order read.bytes := by
  have member := List.mem_of_getLast? last
  simpa using (List.mem_filter.mp member).2

end Reads

/-- For every sequence of raw reads and every time of publication: the battery is present
exactly when the last accepted frame is fresh; then the voltage and the percentage are
those of this frame, and otherwise both are not-a-number; and the rejected reads, in any
position, change nothing. -/
theorem battery_state_of_last_frame (order : ByteOrder) (rounding : Rounding) (timeout : ℚ)
    (positive : 0 < timeout) (reads : List RawRead) (now : PyFloat) :
    let message := batteryStateMessage rounding (readFrames order rounding reads) now
      (.finite timeout)
    (message.present = true ↔
      ∃ read, lastAccepted order reads = some read ∧ FreshAt rounding timeout now read) ∧
    (∀ read, lastAccepted order reads = some read → FreshAt rounding timeout now read →
      message.voltage = .finite (rounding.round
        (((byteAt read.bytes 8).toNat * 256 + (byteAt read.bytes 9).toNat : Nat) *
          rounding.round (1 / 10))) ∧
      message.percentage = .finite (rounding.round ((byteAt read.bytes 12).toNat / 100))) ∧
    (message.present = false → message.voltage = .nan ∧ message.percentage = .nan) ∧
    readFrames order rounding (reads.filter fun read => Accepted order read.bytes) =
      readFrames order rounding reads := by
  intro message
  have absent (stale : (readFrames order rounding reads).isFresh rounding now (.finite timeout) =
      false) : message.present = false ∧ message.voltage = .nan ∧ message.percentage = .nan := by
    simp [message, batteryStateMessage, projectBatteryValues_of_stale stale, PyFloat.isNan]
  have sample : readFrames order rounding reads = _ := readFrames_eq reads
  cases last : lastAccepted order reads with
  | none =>
      rw [last] at sample
      have silent := absent (by rw [sample]; rfl)
      refine ⟨?_, nofun, fun _ => silent.2, readFrames_filter reads⟩
      simp [silent.1]
  | some read =>
      rw [last, Option.map_some, Option.getD_some] at sample
      by_cases fresh : FreshAt rounding timeout now read
      · have values := projectBatteryValues_sampleOf positive (accepted_of_lastAccepted last) fresh
        have present : message.present = true := by
          simp only [message, batteryStateMessage, sample, values]
          rfl
        refine ⟨iff_of_true present ⟨read, rfl, fresh⟩, ?_, ?_, readFrames_filter reads⟩
        · rintro _ ⟨rfl⟩ -
          simp [message, batteryStateMessage, sample, values]
        · rw [present]
          nofun
      · have stale : (sampleOf rounding read).isFresh rounding now (.finite timeout) = false := by
          rw [← Bool.not_eq_true, isFresh_sampleOf positive]
          exact fresh
        have silent := absent (by rw [sample]; exact stale)
        refine ⟨?_, ?_, fun _ => silent.2, readFrames_filter reads⟩
        · rw [silent.1]
          refine iff_of_false Bool.false_ne_true ?_
          rintro ⟨_, ⟨rfl⟩, again⟩
          exact fresh again
        · rintro _ ⟨rfl⟩ again
          exact absurd again fresh

/-- A raw frame that reports 50 V and 80 percent. -/
def fiftyVolts : List UInt8 :=
  [0xFC, 0x03, 0, 0, 8, 0, 0, 0, 0x01, 0xF4, 0xFF, 0x9C, 80, 95, 0x00, 0x0A]

/-- A remote frame of the same identifier behind an accepted frame changes nothing. -/
theorem battery_state_of_last_frame_of_remote :
    let message := batteryStateMessage .exact (readFrames .little .exact
      [⟨fiftyVolts, 10⟩, ⟨fiftyVolts.set 3 0x40, 11⟩]) (.finite 12) (.finite 3)
    message.present = true ∧ message.voltage = .finite 50 := by
  intro message
  have last : lastAccepted .little [⟨fiftyVolts, 10⟩, ⟨fiftyVolts.set 3 0x40, 11⟩] =
      some ⟨fiftyVolts, 10⟩ := by decide +kernel
  have fresh : FreshAt .exact 3 (.finite 12) ⟨fiftyVolts, 10⟩ :=
    ⟨by decide +kernel, by decide +kernel⟩
  have positive : (0 : ℚ) < 3 := by decide +kernel
  rcases battery_state_of_last_frame .little .exact 3 positive
    [⟨fiftyVolts, 10⟩, ⟨fiftyVolts.set 3 0x40, 11⟩] (.finite 12) with ⟨present, values, -, -⟩
  have volts : Rounding.exact.round (((byteAt fiftyVolts 8).toNat * 256 +
      (byteAt fiftyVolts 9).toNat : Nat) * Rounding.exact.round (1 / 10)) = 50 := by
    decide +kernel
  refine ⟨present.mpr ⟨_, last, fresh⟩, ?_⟩
  rw [← volts]
  exact (values _ last fresh).1

end RtControl.Bms
