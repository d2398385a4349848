import Mathlib.Data.UInt
import Mathlib.Data.Nat.Bitwise
import Mathlib.Tactic.Common

/-!
# Fields packed into a word

Values are shifted to their offsets and put together by a bitwise or. If each fits into its field and the
fields are apart, every value is found again, and the bits between the fields are 0.
-/

namespace PackedWord

/-- A value for some bits of a word. -/
structure Slot where
  offset : ℕ
  width : ℕ
  val : UInt32

/-- The value is not larger than its field, which ends within the word. -/
structure Slot.Fits (f : Slot) : Prop where
  val_lt : f.val.toNat < 2 ^ f.width
  width_lt : f.width < 32
  end_le : f.offset + f.width ≤ 32
  offset_lt : f.offset < 32

/-- Two ranges of bits without a common one. -/
def Apart (offset width offset' width' : ℕ) : Prop := offset + width ≤ offset' ∨ offset' + width' ≤ offset

instance (offset width offset' width' : ℕ) : Decidable (Apart offset width offset' width') :=
  inferInstanceAs (Decidable (_ ∨ _))

def pack : List Slot → UInt32
  | [] => 0
  | f :: fs => (f.val <<< UInt32.ofNat f.offset) ||| pack fs

def unpack (offset width : ℕ) (w : UInt32) : UInt32 :=
  (w >>> UInt32.ofNat offset) &&& UInt32.ofNat (2 ^ width - 1)

variable {offset width offset' width' : ℕ} {a b v : UInt32} {f : Slot} {fs : List Slot}

lemma toNat_ofNat_mod (h : offset < 32) : (UInt32.ofNat offset).toNat % 32 = offset := by
  rw [UInt32.toNat_ofNat_of_lt' (h.trans (by decide)), Nat.mod_eq_of_lt h]

lemma testBit_unpack (hoffset : offset < 32) (hwidth : width < 32) (i : ℕ) :
    (unpack offset width a).toNat.testBit i = (decide (i < width) && a.toNat.testBit (offset + i)) := by
  have hmask : (UInt32.ofNat (2 ^ width - 1)).toNat = 2 ^ width - 1 := by
    apply UInt32.toNat_ofNat_of_lt'
    have hlt : 2 ^ width < 2 ^ 32 := Nat.pow_lt_pow_right (by decide) hwidth
    exact (Nat.sub_le _ 1).trans_lt hlt
  rw [unpack, UInt32.toNat_and, UInt32.toNat_shiftRight, toNat_ofNat_mod hoffset, hmask, Nat.testBit_and,
    Nat.testBit_two_pow_sub_one, Nat.testBit_shiftRight, Bool.and_comm]

lemma testBit_shiftLeft (hoffset : offset < 32) (i : ℕ) : (v <<< UInt32.ofNat offset).toNat.testBit i =
    (decide (i < 32) && (decide (offset ≤ i) && v.toNat.testBit (i - offset))) := by
  rw [UInt32.toNat_shiftLeft, toNat_ofNat_mod hoffset, Nat.testBit_mod_two_pow, Nat.testBit_shiftLeft]

lemma unpack_or : unpack offset width (a ||| b) = unpack offset width a ||| unpack offset width b := by
  apply UInt32.toNat_inj.mp
  simp only [unpack, UInt32.toNat_or, UInt32.toNat_and, UInt32.toNat_shiftRight, Nat.shiftRight_or_distrib,
    Nat.and_or_distrib_right]

lemma unpack_and : unpack offset width (a &&& b) = unpack offset width a &&& unpack offset width b := by
  apply UInt32.toNat_inj.mp
  apply Nat.eq_of_testBit_eq
  intro i
  simp only [unpack, UInt32.toNat_and, UInt32.toNat_shiftRight, Nat.shiftRight_and_distrib, Nat.testBit_and]
  cases (UInt32.ofNat (2 ^ width - 1)).toNat.testBit i <;> simp

lemma unpack_zero : unpack offset width 0 = 0 := by
  apply UInt32.toNat_inj.mp
  rw [unpack, UInt32.toNat_and, UInt32.toNat_shiftRight, UInt32.toNat_zero, Nat.zero_shiftRight, Nat.zero_and]

lemma unpack_shift_self (h : f.Fits) : unpack f.offset f.width (f.val <<< UInt32.ofNat f.offset) = f.val := by
  obtain ⟨hval, hwidth, hend, hoffset⟩ := h
  apply UInt32.toNat_inj.mp
  apply Nat.eq_of_testBit_eq
  intro i
  rw [testBit_unpack hoffset hwidth, testBit_shiftLeft hoffset]
  by_cases hi : i < f.width
  · simp [hi, show f.offset + i < 32 by lia]
  · have hhigh : f.val.toNat.testBit i = false :=
      Nat.testBit_lt_two_pow (hval.trans_le (Nat.pow_le_pow_right (by decide) (by lia)))
    simp [hi, hhigh]

lemma unpack_shift_apart (h : f.Fits) (hoffset : offset < 32) (hwidth : width < 32)
    (hapart : Apart offset width f.offset f.width) : unpack offset width (f.val <<< UInt32.ofNat f.offset) = 0 := by
  apply UInt32.toNat_inj.mp
  apply Nat.eq_of_testBit_eq
  intro i
  rw [testBit_unpack hoffset hwidth, testBit_shiftLeft h.offset_lt, UInt32.toNat_zero, Nat.zero_testBit]
  rcases hapart with hbelow | habove
  · by_cases hi : i < width
    · simp [show ¬f.offset ≤ offset + i by lia]
    · simp [hi]
  · have hhigh : f.val.toNat.testBit (offset + i - f.offset) = false :=
      Nat.testBit_lt_two_pow (h.val_lt.trans_le (Nat.pow_le_pow_right (by decide) (by lia)))
    simp [hhigh]

lemma unpack_shift_above {k : ℕ} (hk : k < 32) (hwidth : width < 32) (h : offset + width ≤ k) :
    unpack offset width (v <<< UInt32.ofNat k) = 0 := by
  apply UInt32.toNat_inj.mp
  apply Nat.eq_of_testBit_eq
  intro i
  rw [testBit_unpack (by lia) hwidth, testBit_shiftLeft hk, UInt32.toNat_zero, Nat.zero_testBit]
  by_cases hi : i < width
  · simp [show ¬k ≤ offset + i by lia]
  · simp [hi]

lemma unpack_gap (hfs : ∀ f ∈ fs, f.Fits) (hoffset : offset < 32) (hwidth : width < 32)
    (hapart : ∀ f ∈ fs, Apart offset width f.offset f.width) : unpack offset width (pack fs) = 0 := by
  induction fs with
  | nil => exact unpack_zero
  | cons f fs ih =>
    have hhead := unpack_shift_apart (hfs f (List.mem_cons_self ..)) hoffset hwidth (hapart f (List.mem_cons_self ..))
    have htail := ih (fun g hg => hfs g (List.mem_cons_of_mem f hg)) fun g hg => hapart g (List.mem_cons_of_mem f hg)
    rw [pack, unpack_or, hhead, htail]
    rfl

/-- Every field is unpacked as it was packed. -/
theorem unpack_pack (hfs : ∀ f ∈ fs, f.Fits)
    (hapart : fs.Pairwise fun f g => Apart f.offset f.width g.offset g.width) (hf : f ∈ fs) :
    unpack f.offset f.width (pack fs) = f.val := by
  have hfit := hfs f hf
  induction fs with
  | nil => exact absurd hf List.not_mem_nil
  | cons g fs ih =>
    obtain ⟨hg, hrest⟩ := List.pairwise_cons.mp hapart
    have htail : ∀ k ∈ fs, k.Fits := fun k hk => hfs k (List.mem_cons_of_mem g hk)
    rw [pack, unpack_or]
    rcases List.mem_cons.mp hf with rfl | hmem
    · rw [unpack_shift_self hfit, unpack_gap htail hfit.offset_lt hfit.width_lt hg]
      exact UInt32.or_zero
    · have hapart' : Apart f.offset f.width g.offset g.width := (hg f hmem).symm
      rw [unpack_shift_apart (hfs g (List.mem_cons_self ..)) hfit.offset_lt hfit.width_lt hapart',
        ih htail hrest hmem]
      exact UInt32.zero_or

lemma fits_masked (x : UInt32) {offset width : ℕ} (hwidth : width < 32) (hend : offset + width ≤ 32)
    (hoffset : offset < 32) : Slot.Fits ⟨offset, width, x &&& UInt32.ofNat (2 ^ width - 1)⟩ := by
  refine ⟨?_, hwidth, hend, hoffset⟩
  have hlt : 2 ^ width < 2 ^ 32 := Nat.pow_lt_pow_right (by decide) hwidth
  have hmask : (UInt32.ofNat (2 ^ width - 1)).toNat = 2 ^ width - 1 :=
    UInt32.toNat_ofNat_of_lt' ((Nat.sub_le _ 1).trans_lt hlt)
  rw [UInt32.toNat_and, hmask, Nat.and_two_pow_sub_one_eq_mod]
  exact Nat.mod_lt _ (Nat.two_pow_pos width)

lemma toNat_unpack_pack {fs : List Slot} (hfs : ∀ f ∈ fs, f.Fits)
    (hapart : fs.Pairwise fun f g => Apart f.offset f.width g.offset g.width) (hwidth : width < 32)
    {x : UInt32} (hmem : ⟨offset, width, x &&& UInt32.ofNat (2 ^ width - 1)⟩ ∈ fs) :
    (unpack offset width (pack fs)).toNat = x.toNat % 2 ^ width := by
  have hmask : (UInt32.ofNat (2 ^ width - 1)).toNat = 2 ^ width - 1 :=
    UInt32.toNat_ofNat_of_lt' ((Nat.sub_le _ 1).trans_lt (Nat.pow_lt_pow_right (by decide) hwidth))
  rw [unpack_pack (f := ⟨offset, width, _⟩) hfs hapart hmem, UInt32.toNat_and, hmask, Nat.and_two_pow_sub_one_eq_mod]

lemma masked_of_lt {x : UInt32} {width : ℕ} (hwidth : width < 32) (hx : x.toNat < 2 ^ width) :
    x &&& UInt32.ofNat (2 ^ width - 1) = x := by
  have hlt : 2 ^ width < 2 ^ 32 := Nat.pow_lt_pow_right (by decide) hwidth
  have hmask : (UInt32.ofNat (2 ^ width - 1)).toNat = 2 ^ width - 1 :=
    UInt32.toNat_ofNat_of_lt' ((Nat.sub_le _ 1).trans_lt hlt)
  apply UInt32.toNat_inj.mp
  rw [UInt32.toNat_and, hmask, Nat.and_two_pow_sub_one_eq_mod, Nat.mod_eq_of_lt hx]

lemma unpack_congr (hoffset : offset < 32) (hend : offset + width ≤ 32)
    (h : a &&& (UInt32.ofNat (2 ^ width - 1) <<< UInt32.ofNat offset) =
      b &&& (UInt32.ofNat (2 ^ width - 1) <<< UInt32.ofNat offset)) :
    unpack offset width a = unpack offset width b := by
  have hmask : ∀ i < width, (UInt32.ofNat (2 ^ width - 1) <<< UInt32.ofNat offset).toNat.testBit (offset + i) = true := by
    intro i hi
    have hle : 2 ^ width ≤ 2 ^ 32 := Nat.pow_le_pow_right (by decide) (by lia)
    have hones : (UInt32.ofNat (2 ^ width - 1)).toNat = 2 ^ width - 1 :=
      UInt32.toNat_ofNat_of_lt' (by have hpos := Nat.two_pow_pos width; change _ < 2 ^ 32; lia)
    rw [testBit_shiftLeft hoffset, hones, Nat.testBit_two_pow_sub_one]
    simp only [Nat.le_add_right, decide_true, Nat.add_sub_cancel_left, hi,
      show offset + i < 32 by lia, Bool.and_true]
  apply UInt32.toNat_inj.mp
  apply Nat.eq_of_testBit_eq
  intro i
  have hones : (UInt32.ofNat (2 ^ width - 1)).toNat = 2 ^ width - 1 := by
    have hle : 2 ^ width ≤ 2 ^ 32 := Nat.pow_le_pow_right (by decide) (by lia)
    exact UInt32.toNat_ofNat_of_lt' (by have hpos := Nat.two_pow_pos width; change _ < 2 ^ 32; lia)
  rw [unpack, unpack, UInt32.toNat_and, UInt32.toNat_and, hones, Nat.testBit_and, Nat.testBit_and,
    Nat.testBit_two_pow_sub_one, UInt32.toNat_shiftRight, UInt32.toNat_shiftRight, toNat_ofNat_mod hoffset,
    Nat.testBit_shiftRight, Nat.testBit_shiftRight]
  by_cases hi : i < width
  · have hbit := congrArg (fun x : UInt32 => x.toNat.testBit (offset + i)) h
    simp only [UInt32.toNat_and, Nat.testBit_and, hmask i hi, Bool.and_true] at hbit
    rw [hbit]
  · simp [hi]

end PackedWord
