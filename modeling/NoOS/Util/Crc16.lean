import NoOS.Lib.CrcTable

/-!
# The checksum of `crc16.c`

The table has the checksum of every byte, and a message is taken in byte by byte.
-/

namespace NoOS

/-- One pass of the inner loop. -/
def crc16PopulateBit (polynomial currByte : UInt16) : UInt16 :=
  if currByte &&& 0x8000 ≠ 0 then (currByte <<< 1) ^^^ polynomial else currByte <<< 1

/-- The entries of the table. -/
def crc16PopulateMsb (polynomial : UInt16) (n : ℕ) : UInt16 :=
  (crc16PopulateBit polynomial)^[8] (UInt16.ofNat n <<< 8)

def crc16Byte (table : ℕ → UInt16) (crc : UInt16) (b : UInt8) : UInt16 :=
  table (((crc >>> 8) ^^^ b.toUInt16) &&& 0xff).toNat ^^^ (crc <<< 8)

def crc16 (table : ℕ → UInt16) (pdata : List UInt8) (crc : UInt16) : UInt16 := pdata.foldl (crc16Byte table) crc

open BitStream Crc

variable (polynomial : UInt16)

lemma and_msb_eq_zero (c : UInt16) : c &&& 0x8000 = 0 ↔ c.toBitVec.msb = false := by
  rw [← UInt16.toBitVec_inj, UInt16.toBitVec_and, show UInt16.toBitVec 0x8000 = BitVec.twoPow 16 15 from rfl,
    BitVec.and_twoPow, BitVec.msb_eq_getLsbD_last]
  cases c.toBitVec.getLsbD (16 - 1) with
  | false => simp
  | true => simp

lemma crc16PopulateBit_toBitVec (c : UInt16) :
    (crc16PopulateBit polynomial c).toBitVec = shift polynomial.toBitVec c.toBitVec := by
  unfold crc16PopulateBit shift
  by_cases h : c &&& 0x8000 = 0
  · rw [if_neg (not_not_intro h), (and_msb_eq_zero c).mp h, if_neg Bool.false_ne_true]
    rfl
  · rw [if_pos h, if_pos (Bool.of_not_eq_false (mt (and_msb_eq_zero c).mpr h))]
    rfl

lemma crc16PopulateMsb_toBitVec (n : ℕ) :
    (crc16PopulateMsb polynomial n).toBitVec = shifts polynomial.toBitVec 8 (UInt16.ofNat n <<< 8).toBitVec :=
  iterate_shift (crc16PopulateBit_toBitVec polynomial) 8 _

/-- The index into the table is the upper byte of the register with the byte of the message. -/
lemma crc16_index (c : UInt16) (b : UInt8) :
    (UInt16.ofNat (((c >>> 8) ^^^ b.toUInt16) &&& 0xff).toNat <<< 8).toBitVec =
      topByte (highByte c.toBitVec ^^^ b.toBitVec) := by
  have hindex : ((c.toBitVec >>> 8 ^^^ b.toBitVec.setWidth 16) &&& 255#16) <<< 8 =
      topByte (highByte c.toBitVec ^^^ b.toBitVec) := by
    apply BitVec.eq_of_getLsbD_eq
    intro i hi
    rw [getLsbD_topByte hi, BitVec.getLsbD_xor, getLsbD_highByte, BitVec.getLsbD_shiftLeft, getLsbD_and_low]
    grind
  rw [UInt16.ofNat_toNat, ← hindex]
  rfl

lemma crc16Byte_toBitVec (c : UInt16) (b : UInt8) :
    (crc16Byte (crc16PopulateMsb polynomial) c b).toBitVec = byteStep polynomial.toBitVec c.toBitVec b.toBitVec := by
  rw [crc16Byte, UInt16.toBitVec_xor, crc16PopulateMsb_toBitVec, crc16_index]
  rfl

theorem crc16_toBitVec (data : List UInt8) (c : UInt16) :
    (crc16 (crc16PopulateMsb polynomial) data c).toBitVec = Crc.feed polynomial.toBitVec c.toBitVec (bitsOf data) :=
  foldl_byteStep (by decide) (crc16Byte_toBitVec polynomial) data c

lemma ofBits_word (hi lo : UInt8) : (ofBits (bits 8 hi.toNat ++ bits 8 lo.toNat) : BitVec 16) =
    (hi.toUInt16 <<< 8 ||| lo.toUInt16).toBitVec := by
  apply BitVec.eq_of_getLsbD_eq
  intro i hi'
  have htop := @getLsbD_ofBits_top 16 (bits 8 hi.toNat ++ bits 8 lo.toNat) (15 - i) (by lia)
  rw [List.getD_eq_getElem?_getD, show 16 - 1 - (15 - i) = i by lia] at htop
  have hword : (hi.toUInt16 <<< 8 ||| lo.toUInt16).toBitVec =
      hi.toBitVec.setWidth 16 <<< 8 ||| lo.toBitVec.setWidth 16 := rfl
  rw [htop, hword, BitVec.getLsbD_or, BitVec.getLsbD_shiftLeft, BitVec.getLsbD_setWidth, BitVec.getLsbD_setWidth,
    decide_eq_true hi', decide_eq_true (by lia : i - 8 < 16), Bool.true_and, Bool.true_and, Bool.true_and]
  by_cases h : 8 ≤ i
  · rw [List.getElem?_append_left (by rw [length_bits]; lia), getElem?_bits (by lia),
      show 8 - 1 - (15 - i) = i - 8 by lia, decide_eq_false (by lia : ¬ i < 8),
      BitVec.getLsbD_of_ge lo.toBitVec i h, Bool.or_false]
    rfl
  · rw [List.getElem?_append_right (by rw [length_bits]; lia), length_bits, getElem?_bits (by lia),
      show 8 - 1 - (15 - i - 8) = i by lia, decide_eq_true (by lia : i < 8), Bool.not_true, Bool.false_and,
      Bool.false_or]
    rfl

variable {polynomial}

/-- The register ends at 0 if the last two bytes are the checksum of the others. -/
theorem crc16_append (hpoly : polynomial.toBitVec.getLsbD 0 = true) (data : List UInt8) (hi lo : UInt8) :
    crc16 (crc16PopulateMsb polynomial) (data ++ [hi, lo]) 0 = 0 ↔
      crc16 (crc16PopulateMsb polynomial) data 0 = hi.toUInt16 <<< 8 ||| lo.toUInt16 := by
  have hbits : bitsOf (data ++ [hi, lo]) = bitsOf data ++ (bits 8 hi.toNat ++ bits 8 lo.toNat) := by
    simp only [bitsOf, List.flatMap_append, List.flatMap_cons, List.flatMap_nil, List.append_nil]
  rw [← UInt16.toBitVec_inj, crc16_toBitVec, hbits, feed_append, UInt16.toBitVec_zero,
    feed_eq_zero hpoly (by rw [List.length_append, length_bits, length_bits]), ofBits_word, ← UInt16.toBitVec_zero,
    ← crc16_toBitVec, UInt16.toBitVec_inj]

/-- Of the messages that differ by a burst, one alone has its checksum. -/
theorem crc16_burst (hpoly : polynomial.toBitVec.getLsbD 0 = true) {frame rx : List UInt8}
    (hlen : frame.length = rx.length) (hburst : IsBurst 16 (List.zipWith Bool.xor (bitsOf frame) (bitsOf rx)))
    (hframe : crc16 (crc16PopulateMsb polynomial) frame 0 = 0) (hrx : crc16 (crc16PopulateMsb polynomial) rx 0 = 0) :
    rx = frame := by
  rw [← UInt16.toBitVec_inj, crc16_toBitVec] at hframe hrx
  exact (feed_bitsOf_inj hpoly hlen hburst (hframe.trans hrx.symm)).symm

end NoOS
