import NoOS.Lib.BitStream
import NoOS.Lib.Crc

/-!
# Checks by a table

A table has the register after each byte. A byte of the message meets the upper eight bits of the register: they go
through the table together, and the other bits of the register only move.
-/

namespace Crc

open BitStream

variable {w : ℕ}

/-- A byte at the upper end of the word. -/
def topByte (b : BitVec 8) : BitVec w := b.setWidth w <<< (w - 8)

/-- The upper eight bits of a word. -/
def highByte (c : BitVec w) : BitVec 8 := (c >>> (w - 8)).setWidth 8

/-- An entry of the table. -/
def entry (poly : BitVec w) (b : BitVec 8) : BitVec w := shifts poly 8 (topByte b)

/-- The register after a byte. -/
def byteStep (poly c : BitVec w) (b : BitVec 8) : BitVec w := entry poly (highByte c ^^^ b) ^^^ (c <<< 8)

variable {poly c : BitVec w} {b : BitVec 8} {i : ℕ}

lemma getLsbD_topByte (hi : i < w) :
    (topByte b : BitVec w).getLsbD i = (decide (w - 8 ≤ i) && b.getLsbD (i - (w - 8))) := by
  rw [topByte, BitVec.getLsbD_shiftLeft, BitVec.getLsbD_setWidth, decide_eq_true hi,
    decide_eq_true (by lia : i - (w - 8) < w), Bool.true_and, Bool.true_and]
  by_cases h : w - 8 ≤ i
  · rw [decide_eq_true h, decide_eq_false (by omega : ¬ i < w - 8)]
    rfl
  · rw [decide_eq_false h, decide_eq_true (by omega : i < w - 8)]
    rfl

lemma getLsbD_highByte : (highByte c).getLsbD i = (decide (i < 8) && c.getLsbD (w - 8 + i)) := by
  rw [highByte, BitVec.getLsbD_setWidth, BitVec.getLsbD_ushiftRight]

lemma getLsbD_and_low (x : BitVec w) (i : ℕ) :
    (x &&& BitVec.ofNat w 255).getLsbD i = (decide (i < 8) && x.getLsbD i) := by
  by_cases hi : i < w
  · rw [BitVec.getLsbD_and, BitVec.getLsbD_ofNat, show 255 = 2 ^ 8 - 1 from rfl, Nat.testBit_two_pow_sub_one,
      decide_eq_true hi, Bool.true_and, Bool.and_comm]
  · rw [BitVec.getLsbD_of_ge _ _ (Nat.le_of_not_lt hi), BitVec.getLsbD_of_ge x _ (Nat.le_of_not_lt hi), Bool.and_false]

lemma topByte_shiftLeft : (topByte b : BitVec w) <<< 8 = 0#w := by
  apply BitVec.eq_of_getLsbD_eq
  intro i hi
  rw [BitVec.getLsbD_shiftLeft, BitVec.getLsbD_zero]
  by_cases h : i < 8
  · rw [decide_eq_true h, Bool.not_true, Bool.and_false, Bool.false_and]
  · rw [getLsbD_topByte (by lia : i - 8 < w), decide_eq_false (by lia : ¬ w - 8 ≤ i - 8), Bool.false_and,
      Bool.and_false]

lemma ofBits_byte (hw : 8 ≤ w) (b : UInt8) : (ofBits (bits 8 b.toNat) : BitVec w) = topByte b.toBitVec := by
  apply BitVec.eq_of_getLsbD_eq
  intro i hi
  rw [getLsbD_topByte hi]
  by_cases h : w - 8 ≤ i
  · have htop := @getLsbD_ofBits_top w (bits 8 b.toNat) (w - 1 - i) (by lia)
    rw [List.getD_eq_getElem?_getD, getElem?_bits (by lia), show w - 1 - (w - 1 - i) = i by lia] at htop
    rw [htop, decide_eq_true h, show 8 - 1 - (w - 1 - i) = i - (w - 8) by lia]
    rfl
  · rw [getLsbD_ofBits (by rw [length_bits]; lia), decide_eq_false h, Bool.false_and]

/-- Eight shifts take the upper eight bits through the table and move the others. -/
lemma shifts_byte (hw : 8 ≤ w) : shifts poly 8 c = entry poly (highByte c) ^^^ (c <<< 8) := by
  have hsplit : c = topByte (highByte c) ^^^ (c ^^^ topByte (highByte c)) := by
    rw [BitVec.xor_comm c, ← BitVec.xor_assoc, BitVec.xor_self, BitVec.zero_xor]
  have hsmall : ∀ i, w - 8 ≤ i → (c ^^^ topByte (highByte c)).getLsbD i = false := by
    intro i hi
    by_cases hlt : i < w
    · rw [BitVec.getLsbD_xor, getLsbD_topByte hlt, getLsbD_highByte, decide_eq_true hi,
        decide_eq_true (by lia : i - (w - 8) < 8), Bool.true_and, Bool.true_and, Nat.add_sub_cancel' hi,
        Bool.xor_self]
    · exact BitVec.getLsbD_of_ge _ _ (by omega)
  conv_lhs => rw [hsplit]
  rw [shifts_xor, shifts_of_small hsmall hw, BitVec.shiftLeft_xor_distrib, topByte_shiftLeft, BitVec.xor_zero, entry]

/-- The eight bits of a byte are taken in at once. -/
theorem feed_byte (hw : 8 ≤ w) (c : BitVec w) (b : UInt8) :
    feed poly c (bits 8 b.toNat) = byteStep poly c b.toBitVec := by
  have hhigh : highByte (c ^^^ topByte b.toBitVec) = highByte c ^^^ b.toBitVec := by
    apply BitVec.eq_of_getLsbD_eq
    intro i hi
    rw [getLsbD_highByte, BitVec.getLsbD_xor, BitVec.getLsbD_xor, getLsbD_highByte, getLsbD_topByte (by lia),
      decide_eq_true hi, decide_eq_true (by lia : w - 8 ≤ w - 8 + i), Nat.add_sub_cancel_left, Bool.true_and,
      Bool.true_and, Bool.true_and]
  rw [feed_eq (by rw [length_bits]; exact hw), length_bits, ofBits_byte hw, shifts_byte hw, hhigh,
    BitVec.shiftLeft_xor_distrib, topByte_shiftLeft, BitVec.xor_zero, byteStep]

/-- Of the messages that differ by a burst, no two leave the same register. -/
theorem feed_bitsOf_inj (hpoly : poly.getLsbD 0 = true) {data rx : List UInt8} (hlen : data.length = rx.length)
    (hburst : IsBurst w (List.zipWith Bool.xor (bitsOf data) (bitsOf rx)))
    (h : feed poly c (bitsOf data) = feed poly c (bitsOf rx)) : data = rx := by
  have hbits : (bitsOf data).length = (bitsOf rx).length := by rw [length_bitsOf, length_bitsOf, hlen]
  have hdiff := @feed_zipWith w poly c c _ _ hbits
  rw [h, BitVec.xor_self, BitVec.xor_self] at hdiff
  have hnone := burst_seen hpoly hburst hdiff
  apply bitsOf_inj
  apply List.ext_getElem hbits
  intro i hi hi'
  have hlt : i < (List.zipWith Bool.xor (bitsOf data) (bitsOf rx)).length := by
    rwa [List.length_zipWith, hbits, Nat.min_self]
  have hxor := hnone _ (List.getElem_mem hlt)
  rw [List.getElem_zipWith] at hxor
  exact bne_eq_false_iff_eq.mp hxor

variable {R : Type} {val : R → BitVec w}

lemma iterate_shift {f : R → R} (hstep : ∀ r, val (f r) = shift poly (val r)) (n : ℕ) (r : R) :
    val (f^[n] r) = shifts poly n (val r) := by
  induction n generalizing r with
  | zero => rfl
  | succ n ih => rw [Function.iterate_succ_apply, ih, hstep, shifts]

/-- A program that takes in a byte by the table has the register after any message. -/
theorem foldl_byteStep (hw : 8 ≤ w) {f : R → UInt8 → R}
    (hstep : ∀ r b, val (f r b) = byteStep poly (val r) b.toBitVec) (data : List UInt8) (r : R) :
    val (data.foldl f r) = feed poly (val r) (bitsOf data) := by
  induction data generalizing r with
  | nil => rfl
  | cons b data ih =>
    change val (data.foldl f (f r b)) = feed poly (val r) (bits 8 b.toNat ++ bitsOf data)
    rw [ih, hstep, feed_append, feed_byte hw]

end Crc
