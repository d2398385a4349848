import NoOS.Lib.CrcPolynomial
import NoOS.Util.Crc16

/-!
# The checksums of `crc8.c`, `crc16.c` and `crc24.c`

The three have a table each, and differ in how they mask the register.
-/

namespace NoOS

/-- One pass of the inner loop. -/
def crc8PopulateBit (polynomial currByte : UInt8) : UInt8 :=
  if currByte &&& 0x80 ≠ 0 then (currByte <<< 1) ^^^ polynomial else currByte <<< 1

def crc8PopulateMsb (polynomial : UInt8) (n : ℕ) : UInt8 := (crc8PopulateBit polynomial)^[8] (UInt8.ofNat n)

def crc8Byte (table : ℕ → UInt8) (crc b : UInt8) : UInt8 := table (crc ^^^ b).toNat &&& 0xff

def crc8 (table : ℕ → UInt8) (pdata : List UInt8) (crc : UInt8) : UInt8 := pdata.foldl (crc8Byte table) crc

/-- One pass of the inner loop, where the word is longer than the register. -/
def crc24PopulateBit (polynomial currByte : UInt32) : UInt32 :=
  if currByte &&& 0x800000 ≠ 0 then ((currByte &&& 0x7FFFFF) <<< 1) ^^^ polynomial else currByte <<< 1

def crc24PopulateMsb (polynomial : UInt32) (n : ℕ) : UInt32 :=
  (crc24PopulateBit polynomial)^[8] (UInt32.ofNat n <<< 16)

def crc24Byte (table : ℕ → UInt32) (crc : UInt32) (b : UInt8) : UInt32 :=
  (table (((crc >>> 16) ^^^ b.toUInt32) &&& 0xff).toNat ^^^ (crc <<< 8)) &&& 0xffffff

def crc24 (table : ℕ → UInt32) (pdata : List UInt8) (crc : UInt32) : UInt32 :=
  pdata.foldl (crc24Byte table) crc &&& 0xffffff

/-- The widths of the three. -/
inductive CrcWidth
  | w8
  | w16
  | w24

def CrcWidth.bits : CrcWidth → ℕ
  | .w8 => 8
  | .w16 => 16
  | .w24 => 24

/-- What the checksum of a width returns, with the table of its own `populate_msb`. -/
def CrcWidth.crc : (k : CrcWidth) → BitVec k.bits → List UInt8 → BitVec k.bits → ℕ
  | .w8, polynomial, pdata, crc => (crc8 (crc8PopulateMsb ⟨polynomial⟩) pdata ⟨crc⟩).toNat
  | .w16, polynomial, pdata, crc => (crc16 (crc16PopulateMsb ⟨polynomial⟩) pdata ⟨crc⟩).toNat
  | .w24, polynomial, pdata, crc =>
    (crc24 (crc24PopulateMsb ⟨polynomial.setWidth 32⟩) pdata ⟨crc.setWidth 32⟩).toNat

open BitStream Crc Polynomial

lemma crc8PopulateBit_toBitVec (polynomial c : UInt8) :
    (crc8PopulateBit polynomial c).toBitVec = shift polynomial.toBitVec c.toBitVec := by
  have hmsb : c &&& 0x80 = 0 ↔ c.toBitVec.msb = false := by
    rw [← UInt8.toBitVec_inj, UInt8.toBitVec_and, show UInt8.toBitVec 0x80 = BitVec.twoPow 8 7 from rfl,
      BitVec.and_twoPow, BitVec.msb_eq_getLsbD_last]
    cases c.toBitVec.getLsbD (8 - 1) with
    | false => simp
    | true => simp
  unfold crc8PopulateBit shift
  by_cases h : c &&& 0x80 = 0
  · rw [if_neg (not_not_intro h), hmsb.mp h, if_neg Bool.false_ne_true]
    rfl
  · rw [if_pos h, if_pos (Bool.of_not_eq_false (mt hmsb.mpr h))]
    rfl

lemma crc8_index (c b : UInt8) :
    (UInt8.ofNat (c ^^^ b).toNat).toBitVec = topByte (highByte c.toBitVec ^^^ b.toBitVec) := by
  rw [UInt8.ofNat_toNat]
  apply BitVec.eq_of_getLsbD_eq
  intro i hi
  rw [getLsbD_topByte hi, BitVec.getLsbD_xor, getLsbD_highByte, UInt8.toBitVec_xor, BitVec.getLsbD_xor]
  simp [hi]

lemma crc8Byte_toBitVec (polynomial c b : UInt8) :
    (crc8Byte (crc8PopulateMsb polynomial) c b).toBitVec = byteStep polynomial.toBitVec c.toBitVec b.toBitVec := by
  have hmove : c.toBitVec <<< 8 = 0#8 := BitVec.shiftLeft_eq_zero (le_refl 8)
  have hmask : ∀ x : UInt8, (x &&& 0xff).toBitVec = x.toBitVec := fun x => BitVec.and_allOnes
  rw [crc8Byte, hmask, byteStep, hmove, BitVec.xor_zero, Crc.entry, ← crc8_index]
  exact iterate_shift (crc8PopulateBit_toBitVec polynomial) 8 _

theorem crc8_toBitVec (polynomial : UInt8) (data : List UInt8) (c : UInt8) :
    (crc8 (crc8PopulateMsb polynomial) data c).toBitVec = Crc.feed polynomial.toBitVec c.toBitVec (bitsOf data) :=
  foldl_byteStep (le_refl 8) (crc8Byte_toBitVec polynomial) data c

/-- The register in the lower bits of a word. -/
def low24 (c : UInt32) : BitVec 24 := c.toBitVec.setWidth 24

lemma crc24PopulateBit_low24 (polynomial c : UInt32) :
    low24 (crc24PopulateBit polynomial c) = shift (low24 polynomial) (low24 c) := by
  have hmsb : c &&& 0x800000 = 0 ↔ (low24 c).msb = false := by
    rw [← UInt32.toBitVec_inj, UInt32.toBitVec_and, show UInt32.toBitVec 0x800000 = BitVec.twoPow 32 23 from rfl,
      BitVec.and_twoPow, BitVec.msb_eq_getLsbD_last, low24, BitVec.getLsbD_setWidth]
    have hbit : BitVec.twoPow 32 23 ≠ 0#32 := by decide
    cases c.toBitVec.getLsbD 23 with
    | false => simp
    | true => simp [hbit]
  have hshl : ∀ x : UInt32, low24 (x <<< 1) = low24 x <<< 1 := by
    intro x
    change (x.toBitVec <<< 1).setWidth 24 = _
    rw [low24]
    apply BitVec.eq_of_getLsbD_eq
    intro i hi
    rw [BitVec.getLsbD_setWidth, BitVec.getLsbD_shiftLeft, BitVec.getLsbD_shiftLeft, BitVec.getLsbD_setWidth]
    grind
  -- The bit that the mask takes out is shifted out of the register anyway.
  have hmask : low24 ((c &&& 0x7FFFFF) <<< 1) = low24 c <<< 1 := by
    rw [hshl]
    apply BitVec.eq_of_getLsbD_eq
    intro i hi
    rw [BitVec.getLsbD_shiftLeft, BitVec.getLsbD_shiftLeft, low24, low24, BitVec.getLsbD_setWidth,
      BitVec.getLsbD_setWidth, UInt32.toBitVec_and,
      show UInt32.toBitVec 0x7FFFFF = BitVec.ofNat 32 (2 ^ 23 - 1) from rfl, BitVec.getLsbD_and, BitVec.getLsbD_ofNat,
      Nat.testBit_two_pow_sub_one]
    grind
  unfold crc24PopulateBit shift
  by_cases h : c &&& 0x800000 = 0
  · rw [if_neg (not_not_intro h), hmsb.mp h, if_neg Bool.false_ne_true, hshl]
  · rw [if_pos h, if_pos (Bool.of_not_eq_false (mt hmsb.mpr h)), ← hmask]
    exact BitVec.setWidth_xor

lemma crc24_index (c : UInt32) (b : UInt8) :
    low24 (UInt32.ofNat (((c >>> 16) ^^^ b.toUInt32) &&& 0xff).toNat <<< 16) =
      topByte (highByte (low24 c) ^^^ b.toBitVec) := by
  have hindex : (((c.toBitVec >>> 16 ^^^ b.toBitVec.setWidth 32) &&& 255#32) <<< 16).setWidth 24 =
      topByte (highByte (low24 c) ^^^ b.toBitVec) := by
    apply BitVec.eq_of_getLsbD_eq
    intro i hi
    rw [getLsbD_topByte hi, BitVec.getLsbD_xor, getLsbD_highByte, BitVec.getLsbD_setWidth, BitVec.getLsbD_shiftLeft,
      getLsbD_and_low, low24]
    grind
  rw [UInt32.ofNat_toNat, ← hindex]
  rfl

lemma low24_mask (c : UInt32) : low24 (c &&& 0xffffff) = low24 c := by
  have hones : UInt32.toBitVec 0xffffff = (BitVec.allOnes 24).setWidth 32 := rfl
  rw [low24, UInt32.toBitVec_and, hones, BitVec.setWidth_and, BitVec.setWidth_setWidth_of_le _ (by decide),
    BitVec.setWidth_eq, BitVec.and_allOnes, low24]

lemma crc24Byte_low24 (polynomial c : UInt32) (b : UInt8) :
    low24 (crc24Byte (crc24PopulateMsb polynomial) c b) = byteStep (low24 polynomial) (low24 c) b.toBitVec := by
  have hentry := iterate_shift (crc24PopulateBit_low24 polynomial) 8
    (UInt32.ofNat (((c >>> 16) ^^^ b.toUInt32) &&& 0xff).toNat <<< 16)
  have hmove : low24 (c <<< 8) = low24 c <<< 8 := by
    change (c.toBitVec <<< 8).setWidth 24 = _
    rw [low24]
    apply BitVec.eq_of_getLsbD_eq
    intro i hi
    rw [BitVec.getLsbD_setWidth, BitVec.getLsbD_shiftLeft, BitVec.getLsbD_shiftLeft, BitVec.getLsbD_setWidth]
    grind
  rw [crc24_index] at hentry
  rw [crc24Byte, low24_mask, byteStep, Crc.entry, ← hentry, ← hmove]
  exact BitVec.setWidth_xor

/-- A register in a longer word is given back as it is. -/
theorem crc24_toBitVec (polynomial c : BitVec 24) (data : List UInt8) :
    (crc24 (crc24PopulateMsb ⟨polynomial.setWidth 32⟩) data ⟨c.setWidth 32⟩).toBitVec =
      (Crc.feed polynomial c (bitsOf data)).setWidth 32 := by
  have hlow : ∀ x : BitVec 24, low24 ⟨x.setWidth 32⟩ = x := by
    intro x
    rw [low24, BitVec.setWidth_setWidth_of_le _ (by decide), BitVec.setWidth_eq]
  have hword : ∀ x : UInt32, (x &&& 0xffffff).toBitVec = (low24 x).setWidth 32 := by
    intro x
    apply BitVec.eq_of_getLsbD_eq
    intro i hi
    rw [UInt32.toBitVec_and, show UInt32.toBitVec 0xffffff = BitVec.ofNat 32 (2 ^ 24 - 1) from rfl, BitVec.getLsbD_and,
      BitVec.getLsbD_ofNat, Nat.testBit_two_pow_sub_one, low24, BitVec.getLsbD_setWidth, BitVec.getLsbD_setWidth]
    grind
  have hrun := foldl_byteStep (by decide) (crc24Byte_low24 ⟨polynomial.setWidth 32⟩) data ⟨c.setWidth 32⟩
  rw [hlow, hlow] at hrun
  rw [crc24, hword, hrun]

namespace CrcWidth

variable (k : CrcWidth)

lemma crc_eq_feed (polynomial init : BitVec k.bits) (data : List UInt8) :
    k.crc polynomial data init = (Crc.feed polynomial init (bitsOf data)).toNat := by
  cases k with
  | w8 => exact congrArg BitVec.toNat (crc8_toBitVec ⟨polynomial⟩ data ⟨init⟩)
  | w16 => exact congrArg BitVec.toNat (crc16_toBitVec ⟨polynomial⟩ data ⟨init⟩)
  | w24 =>
    refine (congrArg BitVec.toNat (crc24_toBitVec polynomial init data)).trans ?_
    exact BitVec.toNat_setWidth_of_le (by decide)

/-- The checksum is the register that takes in the bits of the message one by one, and this is the remainder of the
message, with the first register added above it, by the polynomial. -/
theorem crc_eq_remainder (polynomial init : BitVec k.bits) (data : List UInt8) :
    k.crc polynomial data init = (Crc.feed polynomial init (bitsOf data)).toNat ∧
      toPoly (BitVec.ofNat k.bits (k.crc polynomial data init)) =
        (toPoly init * X ^ (8 * data.length) + message (bitsOf data) * X ^ k.bits) %ₘ modulus polynomial := by
  have hfeed := crc_eq_feed k polynomial init data
  have hpos : 0 < k.bits := by cases k <;> decide
  constructor
  · exact hfeed
  · rw [hfeed, BitVec.ofNat_toNat, BitVec.setWidth_eq, toPoly_feed_eq hpos, length_bitsOf]

/-- Two messages that differ by a burst have different checksums. -/
theorem crc_ne_of_burst {polynomial : BitVec k.bits} (hpoly : polynomial.getLsbD 0 = true) (init : BitVec k.bits)
    {data rx : List UInt8} (hlen : data.length = rx.length) (hne : data ≠ rx)
    (hburst : IsBurst k.bits (List.zipWith Bool.xor (bitsOf data) (bitsOf rx))) :
    k.crc polynomial data init ≠ k.crc polynomial rx init := by
  intro heq
  rw [crc_eq_feed, crc_eq_feed, BitVec.toNat_inj] at heq
  exact hne (feed_bitsOf_inj hpoly hlen hburst heq)

/-- The last bit of a byte and the first one of the next are received wrong. -/
theorem crc_ne_of_burst_w24 :
    CrcWidth.crc .w24 0x5D6DCB#24 [0x12, 0x01, 0x80] 0 ≠ CrcWidth.crc .w24 0x5D6DCB#24 [0x12, 0x00, 0x00] 0 :=
  crc_ne_of_burst .w24 (by decide) 0 rfl (by decide) ⟨15, by decide, by decide⟩

end CrcWidth

end NoOS
