import Mathlib.Data.Nat.Bitwise
import Mathlib.Data.UInt
import Mathlib.Tactic.Common

/-!
# Bit fields of a register

A masked write keeps the bits outside of its mask, and two small numbers next to each other
are read back one by one.
-/

namespace BitField

variable {old val mask f low high : UInt32}

/-- The new value under a mask, and the old one elsewhere. -/
def masked (old val mask : UInt32) : UInt32 := (old &&& ~~~mask) ||| (val &&& mask)

lemma masked_and (h : mask &&& f = f) : masked old val mask &&& f = val &&& f := by
  have hclear : ~~~mask &&& f = 0 := by
    rw [← h, ← UInt32.and_assoc]
    simp
  have hdistrib : masked old val mask &&& f =
      (old &&& (~~~mask &&& f)) ||| (val &&& (mask &&& f)) := by
    apply UInt32.toBitVec_inj.mp
    ext i
    simp only [masked, UInt32.toBitVec_and, UInt32.toBitVec_or, UInt32.toBitVec_not,
      BitVec.getElem_and, BitVec.getElem_or, BitVec.getElem_not]
    grind
  rw [hdistrib, hclear, h]
  simp

lemma toNat_or_shiftLeft (k : ℕ) (low high : UInt32) (hk : k < 32) (hlow : low.toNat < 2 ^ k)
    (hhigh : high.toNat < 2 ^ (32 - k)) :
    ((high <<< UInt32.ofNat k) ||| low).toNat = high.toNat * 2 ^ k + low.toNat := by
  have hmod : (UInt32.ofNat k).toNat % 32 = k := by
    rw [UInt32.toNat_ofNat_of_lt' (by simp only [UInt32.size]; lia), Nat.mod_eq_of_lt hk]
  have hfit : high.toNat * 2 ^ k < 2 ^ 32 := by
    calc high.toNat * 2 ^ k < 2 ^ (32 - k) * 2 ^ k :=
          Nat.mul_lt_mul_of_pos_right hhigh (Nat.two_pow_pos k)
      _ = 2 ^ 32 := by rw [← Nat.pow_add, Nat.sub_add_cancel hk.le]
  rw [UInt32.toNat_or, UInt32.toNat_shiftLeft, hmod, Nat.shiftLeft_eq, Nat.mod_eq_of_lt hfit,
    ← Nat.shiftLeft_eq, ← Nat.shiftLeft_add_eq_or_of_lt hlow, Nat.shiftLeft_eq]

end BitField

/-!
## The bits that are set

A loop shifts a word until nothing is left and does something for every bit that is set. What it does is done as
often as there are such bits.
-/

namespace SetBits

/-- The bits of a number that are set, the lowest one first -/
def setBits (n m : ℕ) : List ℕ := (List.range n).filter fun i => m.testBit i

/-- `while (w) { if (w & 1) …; w >>= 1; }`, with at most `n` passes -/
def walk {α : Type*} (f : α → α) : ℕ → UInt32 → α → α
  | 0, _, a => a
  | n + 1, w, a => if w = 0 then a else walk f n (w >>> 1) (if w &&& 1 ≠ 0 then f a else a)

variable {α : Type*} {f : α → α} {a : α} {n m i : ℕ} {w : UInt32}

lemma mem_setBits : i ∈ setBits n m ↔ i < n ∧ m.testBit i = true := by
  rw [setBits, List.mem_filter, List.mem_range]

lemma setBits_zero (n : ℕ) : setBits n 0 = [] := by
  rw [setBits, List.filter_eq_nil_iff]
  intro i _
  rw [Nat.zero_testBit]
  exact Bool.false_ne_true

lemma length_setBits_le (n m : ℕ) : (setBits n m).length ≤ n := by
  have hle := List.length_filter_le (fun i => m.testBit i) (List.range n)
  rwa [List.length_range] at hle

lemma lt_of_mem (hm : m < 2 ^ n) {k : ℕ} (hi : i ∈ setBits k m) : i < n := by
  by_contra hge
  have hbit := (mem_setBits.mp hi).2
  rw [Nat.testBit_lt_two_pow (hm.trans_le (Nat.pow_le_pow_right Nat.two_pos (Nat.le_of_not_lt hge)))] at hbit
  exact absurd hbit Bool.false_ne_true

/-- A number below `2 ^ n` has at most `n` bits, however many are looked at. -/
lemma length_setBits_le_of_lt (hm : m < 2 ^ n) (k : ℕ) : (setBits k m).length ≤ n := by
  have hsub : setBits k m ⊆ List.range n := fun i hi => List.mem_range.mpr (lt_of_mem hm hi)
  have hnodup : (setBits k m).Nodup := List.Nodup.filter _ List.nodup_range
  have hle := (List.subperm_of_subset hnodup hsub).length_le
  rwa [List.length_range] at hle

lemma length_setBits_succ (n m : ℕ) :
    (setBits (n + 1) m).length = (if m.testBit 0 then 1 else 0) + (setBits n (m >>> 1)).length := by
  have htail : (List.map Nat.succ (List.range n)).filter (fun i => m.testBit i) = (setBits n (m >>> 1)).map Nat.succ := by
    rw [setBits, List.filter_map]
    congr 2
    funext i
    rw [Function.comp_apply, Nat.testBit_shiftRight, Nat.add_comm]
  rw [setBits, List.range_succ_eq_map, List.filter_cons, htail]
  split_ifs
  · rw [List.length_cons, List.length_map, Nat.add_comm]
  · rw [List.length_map, Nat.zero_add]

lemma and_one_ne_zero : w &&& 1 ≠ 0 ↔ w.toNat.testBit 0 = true := by
  rw [Ne, ← UInt32.toNat_inj, UInt32.toNat_and, Nat.testBit_zero]
  change ¬(w.toNat &&& 1) = 0 ↔ _
  rw [Nat.and_one_is_mod]
  simp

theorem walk_eq (hw : w.toNat < 2 ^ n) : walk f n w a = f^[(setBits n w.toNat).length] a := by
  induction n generalizing w a with
  | zero => rfl
  | succ n ih =>
    rw [walk]
    by_cases hzero : w = 0
    · rw [if_pos hzero, hzero, UInt32.toNat_zero, setBits_zero]
      rfl
    · have hshift : (w >>> 1).toNat = w.toNat >>> 1 := UInt32.toNat_shiftRight ..
      have hhalf : (w >>> 1).toNat < 2 ^ n := by
        rw [hshift, Nat.shiftRight_eq_div_pow]
        rw [Nat.pow_succ] at hw
        lia
      rw [if_neg hzero, ih hhalf, length_setBits_succ, hshift]
      by_cases hbit : w &&& 1 ≠ 0
      · rw [if_pos hbit, if_pos (and_one_ne_zero.mp hbit), Nat.add_comm 1, Function.iterate_succ_apply]
      · rw [if_neg hbit, if_neg fun h => hbit (and_one_ne_zero.mpr h), Nat.zero_add]

end SetBits
