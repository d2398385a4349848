import Mathlib.Data.BitVec
import Mathlib.Data.List.Basic
import Mathlib.Tactic.Common

/-!
# Cyclic redundancy checks

A register of `w` bits takes in one bit after the other, the most significant one first, and is reduced by a
polynomial whose constant term is 1. The register is 0 after a burst of up to `w` bits only if the burst is 0, so that
the check finds every such burst.
-/

namespace Crc

variable {w : ℕ}

/-- The register after a bit 0. -/
def shift (poly c : BitVec w) : BitVec w := if c.msb then (c <<< 1) ^^^ poly else c <<< 1

def shifts (poly : BitVec w) : ℕ → BitVec w → BitVec w
  | 0, c => c
  | n + 1, c => shifts poly n (shift poly c)

/-- A bit at the upper end of the word. -/
def top (b : Bool) : BitVec w := if b then BitVec.twoPow w (w - 1) else 0#w

def feedBit (poly c : BitVec w) (b : Bool) : BitVec w := shift poly (c ^^^ top b)

/-- The register after some bits. -/
def feed (poly c : BitVec w) (bs : List Bool) : BitVec w := bs.foldl (feedBit poly) c

/-- The bits at the upper end of the word, the first one on top. -/
def ofBits : List Bool → BitVec w
  | [] => 0#w
  | b :: bs => top b ^^^ (ofBits bs >>> 1)

variable {poly c d : BitVec w} {bs es : List Bool} {n : ℕ}

lemma shift_of_msb (h : c.msb = false) : shift poly c = c <<< 1 := if_neg (by rw [h]; exact Bool.false_ne_true)

lemma shift_xor (poly c d : BitVec w) : shift poly (c ^^^ d) = shift poly c ^^^ shift poly d := by
  unfold shift
  rw [BitVec.msb_xor, BitVec.shiftLeft_xor_distrib]
  ext i hi
  cases c.msb <;> cases d.msb <;> simp <;> grind

lemma shifts_xor (poly : BitVec w) (n : ℕ) (c d : BitVec w) :
    shifts poly n (c ^^^ d) = shifts poly n c ^^^ shifts poly n d := by
  induction n generalizing c d with
  | zero => rfl
  | succ n ih => rw [shifts, shifts, shifts, shift_xor, ih]

lemma shifts_zero (poly : BitVec w) (n : ℕ) : shifts poly n 0#w = 0#w := by
  have hzero := shifts_xor poly n 0#w 0#w
  rwa [BitVec.xor_self, BitVec.xor_self] at hzero

lemma eq_zero_of_shift (hpoly : poly.getLsbD 0 = true) (h : shift poly c = 0#w) : c = 0#w := by
  have hmsb : c.msb = false := by
    by_contra hne
    rw [shift, if_pos (Bool.of_not_eq_false hne)] at h
    have hbit := congrArg (fun x => x.getLsbD 0) h
    simp [hpoly] at hbit
  rw [shift_of_msb hmsb] at h
  apply BitVec.eq_of_getLsbD_eq
  intro i hi
  by_cases hlast : i + 1 < w
  · have hbit := congrArg (fun x => x.getLsbD (i + 1)) h
    simp only [BitVec.getLsbD_shiftLeft, BitVec.getLsbD_zero] at hbit
    simpa [hlast] using hbit
  · rw [BitVec.msb_eq_getLsbD_last, show w - 1 = i by lia] at hmsb
    rw [hmsb, BitVec.getLsbD_zero]

lemma shifts_eq_zero (hpoly : poly.getLsbD 0 = true) : shifts poly n c = 0#w ↔ c = 0#w := by
  constructor
  · intro h
    induction n generalizing c with
    | zero => exact h
    | succ n ih => exact eq_zero_of_shift hpoly (ih h)
  · rintro rfl
    exact shifts_zero poly n

lemma shifts_of_small (h : ∀ i, w - n ≤ i → c.getLsbD i = false) (hn : n ≤ w) : shifts poly n c = c <<< n := by
  induction n generalizing c with
  | zero => rw [shifts, BitVec.shiftLeft_zero]
  | succ n ih =>
    have hmsb : c.msb = false := by
      rw [BitVec.msb_eq_getLsbD_last]
      exact h _ (by lia)
    have hnext : ∀ i, w - n ≤ i → (c <<< 1).getLsbD i = false := by
      intro i hi
      rw [BitVec.getLsbD_shiftLeft, h (i - 1) (by lia), Bool.and_false]
    rw [shifts, shift_of_msb hmsb, ih hnext (by omega), ← BitVec.shiftLeft_add, Nat.add_comm]

lemma getLsbD_top (b : Bool) {i : ℕ} (hi : i + 1 < w) : (top b : BitVec w).getLsbD i = false := by
  unfold top
  split
  · rw [BitVec.getLsbD_twoPow]
    simp
    lia
  · exact BitVec.getLsbD_zero

lemma getLsbD_ofBits {i : ℕ} (hi : i + bs.length < w) : (ofBits bs : BitVec w).getLsbD i = false := by
  induction bs generalizing i with
  | nil => exact BitVec.getLsbD_zero
  | cons b bs ih =>
    rw [List.length_cons] at hi
    rw [ofBits, BitVec.getLsbD_xor, getLsbD_top b (by lia), BitVec.getLsbD_ushiftRight, ih (by lia)]
    rfl

lemma getLsbD_ofBits_top {i : ℕ} (hi : i < w) : (ofBits bs : BitVec w).getLsbD (w - 1 - i) = bs.getD i false := by
  induction bs generalizing i with
  | nil => simp [ofBits]
  | cons b bs ih =>
    rw [ofBits, BitVec.getLsbD_xor, BitVec.getLsbD_ushiftRight]
    cases i with
    | zero =>
      have hover : (ofBits bs : BitVec w).getLsbD (1 + (w - 1 - 0)) = false := BitVec.getLsbD_of_ge _ _ (by lia)
      have htop : (top b : BitVec w).getLsbD (w - 1 - 0) = b := by
        cases b with
        | false => exact BitVec.getLsbD_zero
        | true => rw [top, if_pos rfl, BitVec.getLsbD_twoPow]; simp; lia
      rw [hover, htop, Bool.xor_false, List.getD_cons_zero]
    | succ i =>
      rw [getLsbD_top b (by lia), show 1 + (w - 1 - (i + 1)) = w - 1 - i by lia, ih (by omega), Bool.false_xor,
        List.getD_cons_succ]

/-- A word without its lowest bit is not changed by moving it down and up. -/
lemma shift_ushiftRight (h : c.getLsbD 0 = false) : shift poly (c >>> 1) = c := by
  have hmsb : (c >>> 1).msb = false := by
    rw [BitVec.msb_eq_getLsbD_last, BitVec.getLsbD_ushiftRight]
    exact BitVec.getLsbD_of_ge c _ (by lia)
  rw [shift_of_msb hmsb]
  apply BitVec.eq_of_getLsbD_eq
  intro i hi
  rw [BitVec.getLsbD_shiftLeft, BitVec.getLsbD_ushiftRight]
  obtain _ | i := i
  · simp [h]
  · simp [hi, Nat.add_comm 1 i]

/-- Bits are taken in as if they had been added to the upper end of the register at once. -/
theorem feed_eq (h : bs.length ≤ w) : feed poly c bs = shifts poly bs.length (c ^^^ ofBits bs) := by
  induction bs generalizing c with
  | nil =>
    rw [ofBits, BitVec.xor_zero]
    rfl
  | cons b bs ih =>
    rw [List.length_cons] at h
    change feed poly (feedBit poly c b) bs = _
    rw [ih (by lia), List.length_cons, shifts, ofBits, feedBit, ← BitVec.xor_assoc, shift_xor _ (c ^^^ top b),
      shift_ushiftRight (getLsbD_ofBits (by omega))]

/-- Bits that leave 0 are those of the register. -/
theorem feed_eq_zero (hpoly : poly.getLsbD 0 = true) (h : bs.length ≤ w) :
    feed poly c bs = 0#w ↔ c = ofBits bs := by
  rw [feed_eq h, shifts_eq_zero hpoly, BitVec.xor_eq_zero_iff]

lemma feed_append : feed poly c (bs ++ es) = feed poly (feed poly c bs) es := List.foldl_append

lemma feed_zeros : feed poly c (List.replicate n false) = shifts poly n c := by
  induction n generalizing c with
  | zero => rfl
  | succ n ih =>
    change feed poly (feedBit poly c false) (List.replicate n false) = _
    rw [ih, feedBit, top, if_neg Bool.false_ne_true, BitVec.xor_zero, shifts]

lemma feed_zipWith (h : bs.length = es.length) :
    feed poly (c ^^^ d) (List.zipWith Bool.xor bs es) = feed poly c bs ^^^ feed poly d es := by
  have htop : ∀ a b : Bool, (top (a ^^ b) : BitVec w) = top a ^^^ top b := by
    intro a b
    cases a <;> cases b <;> simp [top]
  induction bs generalizing c d es with
  | nil =>
    obtain rfl := List.length_eq_zero_iff.mp h.symm
    rfl
  | cons b bs ih =>
    obtain _ | ⟨e, es⟩ := es
    · exact absurd h (by simp)
    · change feed poly (feedBit poly (c ^^^ d) (b ^^ e)) (List.zipWith Bool.xor bs es) =
        feed poly (feedBit poly c b) bs ^^^ feed poly (feedBit poly d e) es
      rw [← ih (by simpa using h), feedBit, feedBit, feedBit, ← shift_xor, htop]
      congr 2
      ac_rfl

lemma top_eq_zero {b : Bool} (hw : 0 < w) (h : (top b : BitVec w) = 0#w) : b = false := by
  by_contra hne
  rw [top, if_pos (Bool.of_not_eq_false hne)] at h
  have hbit := congrArg (fun x => x.getLsbD (w - 1)) h
  simp at hbit
  lia

lemma ofBits_eq_zero (hlen : bs.length ≤ w) (h : (ofBits bs : BitVec w) = 0#w) : ∀ b ∈ bs, b = false := by
  induction bs with
  | nil => exact fun b hb => absurd hb List.not_mem_nil
  | cons b bs ih =>
    rw [List.length_cons] at hlen
    -- The upper bit comes from `b` alone.
    have hmsb : (ofBits bs >>> 1 : BitVec w).getLsbD (w - 1) = false := by
      rw [BitVec.getLsbD_ushiftRight]
      exact BitVec.getLsbD_of_ge _ _ (by lia)
    have hb : b = false := by
      apply top_eq_zero (w := w) (by omega)
      apply BitVec.eq_of_getLsbD_eq
      intro i hi
      by_cases hlast : i + 1 < w
      · rw [getLsbD_top b hlast, BitVec.getLsbD_zero]
      · have hbit := congrArg (fun x => x.getLsbD (w - 1)) h
        simp only [ofBits, BitVec.getLsbD_xor, hmsb, Bool.xor_false] at hbit
        rw [show i = w - 1 by lia]
        exact hbit
    have hrest : (ofBits bs : BitVec w) = 0#w := by
      rw [ofBits, hb, top, if_neg Bool.false_ne_true, BitVec.zero_xor] at h
      rw [← @shift_ushiftRight w 0#w (ofBits bs) (getLsbD_ofBits (by omega)), h]
      exact shifts_zero 0#w 1
    intro a ha
    rcases List.mem_cons.mp ha with rfl | ha
    · exact hb
    · exact ih (by omega) hrest a ha

/-- Outside of `w` successive positions no bit is set. -/
def IsBurst (w : ℕ) (es : List Bool) : Prop :=
  ∃ k, (∀ b ∈ es.take k, b = false) ∧ ∀ b ∈ es.drop (k + w), b = false

/-- A burst that is not seen is none. -/
theorem burst_seen (hpoly : poly.getLsbD 0 = true) (hburst : IsBurst w es) (h : feed poly 0#w es = 0#w) :
    ∀ b ∈ es, b = false := by
  obtain ⟨k, hfirst, hlast⟩ := hburst
  have hsplit : es = es.take k ++ ((es.drop k).take w ++ es.drop (k + w)) := by
    rw [← List.drop_drop, List.take_append_drop, List.take_append_drop]
  have hmid : ∀ b ∈ (es.drop k).take w, b = false := by
    have hlen : ((es.drop k).take w).length ≤ w := List.length_take_le _ _
    apply ofBits_eq_zero hlen
    rw [hsplit, feed_append, List.eq_replicate_of_mem hfirst, feed_zeros, shifts_zero, feed_append,
      List.eq_replicate_of_mem hlast, feed_zeros, shifts_eq_zero hpoly, feed_eq_zero hpoly hlen] at h
    exact h.symm
  intro b hb
  rw [hsplit, List.mem_append, List.mem_append] at hb
  rcases hb with hb | hb | hb
  · exact hfirst b hb
  · exact hmid b hb
  · exact hlast b hb

end Crc
