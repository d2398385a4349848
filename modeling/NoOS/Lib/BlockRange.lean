import Mathlib.Data.Nat.Init
import Mathlib.Tactic.Common
import Mathlib.Tactic.Ring

/-!
# Ranges of bytes over blocks

The bytes from `a` to `a + l` lie in consecutive blocks of `B` bytes. Block `i` of them, which
is block `a / B + i` of the memory, has `size` of the bytes, from its byte `first` on, and
`before` of the bytes lie in the blocks before it. At the end of the blocks these are all bytes,
which `upto` says. A range without bytes has no block at the
start of a block, and one block elsewhere.
-/

namespace BlockRange

variable (B a l i : ℕ)

def count : ℕ := if l = 0 then (if a % B = 0 then 0 else 1) else (a + l - 1) / B - a / B + 1

def first : ℕ := if i = 0 then a % B else 0

def before : ℕ := if i = 0 then 0 else B * i - a % B

def upto : ℕ := min l (before B a i)

def size : ℕ := if i + 1 = count B a l then l - before B a i else B - first B a i

variable {B a l i : ℕ}

lemma last_eq (hl : l ≠ 0) :
    a + l - 1 = B * (a / B + (count B a l - 1)) + (a + l - 1) % B := by
  have hdiv := Nat.div_add_mod (a + l - 1) B
  have hle : a / B ≤ (a + l - 1) / B := Nat.div_le_div_right (by lia)
  have hcount : a / B + (count B a l - 1) = (a + l - 1) / B := by
    rw [count, if_neg hl]
    lia
  rw [hcount, hdiv]

variable (hB : 0 < B)
include hB

/-- The bytes of the range begin in block `i` at its byte `first`. -/
lemma add_before : a + before B a i = B * (a / B + i) + first B a i := by
  have hdiv := Nat.div_add_mod a B
  have hmod := Nat.mod_lt a hB
  unfold before first
  split
  · subst i
    rw [Nat.add_zero, Nat.add_zero, hdiv]
  · have hle : B * 1 ≤ B * i := Nat.mul_le_mul_left B (Nat.one_le_iff_ne_zero.mpr ‹_›)
    rw [Nat.mul_add]
    lia

lemma before_le (h : i < count B a l) : before B a i ≤ l := by
  have hadd := add_before (a := a) (i := i) hB
  rcases Nat.eq_zero_or_pos i with rfl | hi
  · exact Nat.zero_le l
  · have hl : l ≠ 0 := by
      rintro rfl
      rw [count, if_pos rfl] at h
      split at h
      · exact absurd h (Nat.not_lt_zero _)
      · lia
    have hlast := last_eq (B := B) (a := a) hl
    have hmul : B * i ≤ B * (count B a l - 1) := Nat.mul_le_mul_left B (by lia)
    rw [first, if_neg (by omega), Nat.mul_add] at hadd
    rw [Nat.mul_add] at hlast
    lia

lemma size_add_first_le (h : i < count B a l) : first B a i + size B a l i ≤ B := by
  have hmod := Nat.mod_lt a hB
  have hfirst : first B a i ≤ a % B := by
    unfold first
    split
    · exact Nat.le_refl _
    · exact Nat.zero_le _
  unfold size
  split
  · rename_i hlast
    have hadd := add_before (a := a) (i := i) hB
    rcases Nat.eq_zero_or_pos l with rfl | hl
    · lia
    · have hend := last_eq (B := B) (a := a) hl.ne'
      have hendmod := Nat.mod_lt (a + l - 1) hB
      have hi : count B a l - 1 = i := by lia
      rw [hi] at hend
      lia
  · lia

lemma before_add : before B a i + (B - first B a i) = before B a (i + 1) := by
  have hmod := Nat.mod_lt a hB
  have hmul : B * (i + 1) = B * i + B := Nat.mul_succ B i
  unfold before first
  rcases Nat.eq_zero_or_pos i with rfl | hi
  · simp
  · have hle : B * 1 ≤ B * i := Nat.mul_le_mul_left B hi
    rw [if_neg (by omega), if_neg (by omega), if_neg (by omega), hmul]
    lia

lemma before_last (h : i + 1 = count B a l) : before B a i + size B a l i = l := by
  have hle := before_le (i := i) hB (by lia : i < count B a l)
  rw [size, if_pos h]
  lia

lemma upto_count : upto B a l (count B a l) = l := by
  apply Nat.min_eq_left
  rcases Nat.eq_zero_or_pos l with rfl | hl
  · exact Nat.zero_le _
  · have hcount : count B a l - 1 + 1 = count B a l := by
      rw [count, if_neg hl.ne', Nat.add_sub_cancel]
    have hlast := before_last hB hcount
    have hadd := before_add (a := a) (i := count B a l - 1) hB
    have hsize := size_add_first_le (a := a) (i := count B a l - 1) hB (by lia : _ < count B a l)
    rw [hcount] at hadd
    lia

lemma upto_succ (h : i < count B a l) : before B a i + size B a l i = upto B a l (i + 1) := by
  by_cases hlast : i + 1 = count B a l
  · rw [hlast, upto_count hB, before_last hB hlast]
  · have hle := before_le (i := i + 1) hB (by lia : _ < count B a l)
    rw [size, if_neg hlast, before_add hB]
    exact (Nat.min_eq_right hle).symm

lemma upto_of_lt (h : i < count B a l) : upto B a l i = before B a i :=
  Nat.min_eq_right (before_le hB h)

lemma mem_range_iff {k : ℕ} (h : i < count B a l) (hk : k < B) :
    (a ≤ B * (a / B + i) + k ∧ B * (a / B + i) + k < a + l) ↔
      (first B a i ≤ k ∧ k < first B a i + size B a l i) := by
  have hadd := add_before (a := a) (i := i) hB
  have hle := before_le hB h
  rcases Nat.lt_or_ge k (first B a i) with hlt | hge
  · have hi : i = 0 := by
      by_contra hi
      rw [first, if_neg hi] at hlt
      exact absurd hlt (Nat.not_lt_zero k)
    rw [before, if_pos hi] at hadd
    lia
  · by_cases hlast : i + 1 = count B a l
    · have hsum := before_last hB hlast
      lia
    · have hnext := before_le (i := i + 1) hB (by lia : _ < count B a l)
      have hstep := before_add (a := a) (i := i) hB
      rw [size, if_neg hlast]
      lia

lemma add_le_count (hl : l ≠ 0) : a + l ≤ B * (a / B + count B a l) := by
  have hadd := add_before (a := a) (i := count B a l) hB
  have hcount : count B a l ≠ 0 := by
    rw [count, if_neg hl]
    exact Nat.succ_ne_zero _
  have hle := upto_count (a := a) (l := l) hB
  rw [first, if_neg hcount] at hadd
  have hmin : upto B a l (count B a l) ≤ before B a (count B a l) := Nat.min_le_right _ _
  lia

end BlockRange
