import Mathlib.Tactic.Common

/-!
# Big-endian 16-bit words

A word is packed into its high and its low byte.  Packing is a bijection onto pairs
of bytes, so the decoder of a byte string accepts exactly the packed words.
-/

namespace RtControl.Codec

/-- The high and the low byte of a word. -/
def pack16 (word : UInt16) : List UInt8 :=
  [UInt8.ofNat (word.toNat / 256), UInt8.ofNat word.toNat]

/-- The word of a high and a low byte. -/
def unpack16 (high low : UInt8) : UInt16 :=
  UInt16.ofNat (high.toNat * 256 + low.toNat)

theorem toNat_unpack16 (high low : UInt8) :
    (unpack16 high low).toNat = high.toNat * 256 + low.toNat := by
  have highBound := high.toNat_lt
  have lowBound := low.toNat_lt
  simp only [unpack16, UInt16.toNat_ofNat']
  omega

/-- Unpacking the bytes of a word returns it. -/
theorem unpack16_of_pack16 (word : UInt16) :
    unpack16 (UInt8.ofNat (word.toNat / 256)) (UInt8.ofNat word.toNat) = word := by
  have bound := word.toNat_lt
  apply UInt16.toNat_inj.mp
  rw [toNat_unpack16]
  simp only [UInt8.toNat_ofNat']
  omega

/-- Packing the word of two bytes returns them. -/
@[simp]
theorem pack16_unpack16 (high low : UInt8) : pack16 (unpack16 high low) = [high, low] := by
  have highBound := high.toNat_lt
  have lowBound := low.toNat_lt
  simp only [pack16, toNat_unpack16, List.cons.injEq, and_true]
  constructor
  · apply UInt8.toNat_inj.mp
    simp only [UInt8.toNat_ofNat']
    omega
  · apply UInt8.toNat_inj.mp
    simp only [UInt8.toNat_ofNat']
    omega

@[simp]
theorem length_pack16 (word : UInt16) : (pack16 word).length = 2 :=
  rfl

/-- Two bytes are a packed word exactly when they unpack to it. -/
theorem unpack16_eq_iff {high low : UInt8} {word : UInt16} :
    unpack16 high low = word ↔ [high, low] = pack16 word := by
  constructor
  · rintro rfl
    exact (pack16_unpack16 high low).symm
  · intro packed
    obtain ⟨rfl, rfl⟩ : high = UInt8.ofNat (word.toNat / 256) ∧ low = UInt8.ofNat word.toNat := by
      simpa [pack16] using packed
    exact unpack16_of_pack16 word

/-- Packing is injective. -/
theorem pack16_inj {first second : UInt16} : pack16 first = pack16 second ↔ first = second := by
  constructor
  · intro packed
    rw [← unpack16_of_pack16 first]
    exact unpack16_eq_iff.mpr packed
  · rintro rfl
    rfl

/-- A word below 256 packs into a zero byte and its value. -/
theorem pack16_small {value : Nat} (small : value < 256) :
    pack16 (UInt16.ofNat value) = [0, UInt8.ofNat value] := by
  have reduced : value % 65536 = value := Nat.mod_eq_of_lt (by omega)
  simp only [pack16, UInt16.toNat_ofNat', Nat.reducePow, reduced, List.cons.injEq, and_true]
  rw [Nat.div_eq_of_lt small]
  rfl

/-! ## Strings of words -/

/-- Pack a list of words. -/
def packWords (words : List UInt16) : List UInt8 :=
  words.flatMap pack16

/-- Unpack a byte string of even length. -/
def unpackWords : List UInt8 → Option (List UInt16)
  | [] => some []
  | [_] => none
  | high :: low :: rest => (unpackWords rest).map (unpack16 high low :: ·)

theorem packWords_cons (word : UInt16) (words : List UInt16) :
    packWords (word :: words) = pack16 word ++ packWords words :=
  rfl

@[simp]
theorem length_packWords (words : List UInt16) : (packWords words).length = 2 * words.length := by
  induction words with
  | nil => rfl
  | cons word words ih =>
      rw [packWords_cons, List.length_append, ih, length_pack16, List.length_cons]
      omega

@[simp]
theorem unpackWords_packWords (words : List UInt16) : unpackWords (packWords words) = some words := by
  induction words with
  | nil => rfl
  | cons word words ih =>
      rw [packWords_cons, pack16]
      simp only [List.cons_append, List.nil_append, unpackWords, ih, Option.map_some,
        unpack16_of_pack16]

end RtControl.Codec
