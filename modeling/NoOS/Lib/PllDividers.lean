import Mathlib.Algebra.Order.Field.Rat
import Mathlib.Data.Int.GCD
import Mathlib.Tactic.Common
import Mathlib.Tactic.LinearCombination
import Mathlib.Tactic.Ring

/-!
# The dividers of a PLL

The reference is divided by `m` and multiplied by `n` in the VCO, and the output is divided by `d`. A search that
compares truncated quotients of the rates finds the same dividers as an exact one, as long as the rate can be had
at all and the reference is fast.
-/

structure PllDividers where
  m : ℕ
  n : ℕ
  d : ℕ

namespace PllDividers

/-- The VCO for a reference of `R` -/
def vco (R : ℕ) (p : PllDividers) : ℚ := R * p.n / p.m

def InRange (low high R : ℕ) (p : PllDividers) : Prop := (low : ℚ) ≤ p.vco R ∧ p.vco R ≤ high

/-- The output is exactly the rate, which is `k` times its frequency. -/
def Gives (k R rate : ℕ) (p : PllDividers) : Prop := R * (k * p.n) = rate * (p.m * p.d)

/-- What is compared in place of the rates -/
def Agrees (k R rate : ℕ) (p : PllDividers) : Prop := R / p.m / p.d = rate / (k * p.n)

structure Positive (p : PllDividers) : Prop where
  m_pos : 0 < p.m
  n_pos : 0 < p.n
  d_pos : 0 < p.d

/-- No product is above `high * m` by less than `m`. -/
def Sharp (high : ℕ) (p : PllDividers) : Prop := ∀ r < p.m, 0 < r → ¬p.n ∣ high * p.m + r

instance (high : ℕ) (p : PllDividers) : Decidable (p.Sharp high) :=
  inferInstanceAs (Decidable (∀ r < p.m, 0 < r → ¬p.n ∣ high * p.m + r))

variable {p q : PllDividers} {k low high R rate : ℕ}

lemma inRange_iff (hm : 0 < p.m) : p.InRange low high R ↔ low * p.m ≤ R * p.n ∧ R * p.n ≤ high * p.m := by
  have hm' : (0 : ℚ) < p.m := by exact_mod_cast hm
  rw [InRange, vco, le_div_iff₀ hm', div_le_iff₀ hm']
  exact ⟨fun ⟨hlow, hhigh⟩ => ⟨by exact_mod_cast hlow, by exact_mod_cast hhigh⟩,
    fun ⟨hlow, hhigh⟩ => ⟨by exact_mod_cast hlow, by exact_mod_cast hhigh⟩⟩

/-- The truncated VCO is above a sharp limit only if the VCO itself is. -/
lemma Sharp.div_le_iff (h : p.Sharp high) (hm : 0 < p.m) : R * p.n / p.m ≤ high ↔ R * p.n ≤ high * p.m := by
  constructor
  · intro hle
    by_contra hgt
    rw [Nat.div_le_iff_le_mul_add_pred hm, Nat.mul_comm p.m] at hle
    apply h (R * p.n - high * p.m) (by lia) (by lia)
    rw [Nat.add_sub_cancel' (by lia)]
    exact Nat.dvd_mul_left _ _
  · intro hle
    rw [Nat.mul_comm high] at hle
    exact Nat.div_le_of_le_mul hle

lemma Sharp.truncated_iff (h : p.Sharp high) (hm : 0 < p.m) :
    low ≤ R * p.n / p.m ∧ R * p.n / p.m ≤ high ↔ p.InRange low high R := by
  rw [inRange_iff hm, h.div_le_iff hm, Nat.le_div_iff_mul_le hm]

lemma natAbs_cross_lt {x y a b : ℕ} (ha : 0 < a) (hb : 0 < b) (h : x / a = y / b) :
    (((x * b : ℕ) : ℤ) - (y * a : ℕ)).natAbs < a * b := by
  have hx := Nat.div_add_mod x a
  have hy := Nat.div_add_mod y b
  rw [← h] at hy
  have hxb : x * b = a * (x / a) * b + x % a * b := by rw [← Nat.add_mul, hx]
  have hya : y * a = b * (x / a) * a + y % b * a := by rw [← Nat.add_mul, hy]
  have hswap : a * (x / a) * b = b * (x / a) * a := by ring
  have hxmod : x % a * b < a * b := Nat.mul_lt_mul_of_pos_right (Nat.mod_lt _ ha) hb
  have hymod : y % b * a < b * a := Nat.mul_lt_mul_of_pos_right (Nat.mod_lt _ hb) ha
  rw [Nat.mul_comm b a] at hymod
  lia

lemma Gives.agrees (h : p.Gives k R rate) (hp : p.Positive) (hk : 0 < k) : p.Agrees k R rate := by
  have hkn : 0 < k * p.n := Nat.mul_pos hk hp.n_pos
  have hmd : 0 < p.m * p.d := Nat.mul_pos hp.m_pos hp.d_pos
  rw [Gives] at h
  rw [Agrees, Nat.div_div_eq_div_mul]
  calc R / (p.m * p.d) = R * (k * p.n) / (p.m * p.d * (k * p.n)) := (Nat.mul_div_mul_right _ _ hkn).symm
    _ = rate * (p.m * p.d) / (k * p.n * (p.m * p.d)) := by rw [h, Nat.mul_comm (k * p.n)]
    _ = rate / (k * p.n) := Nat.mul_div_mul_right _ _ hmd

/-- How far the dividers `q` are from the rate that `p` gives -/
def cross (p q : PllDividers) (k : ℕ) : ℤ := k * q.n * (p.m * p.d) - k * p.n * (q.m * q.d)

lemma Gives.cross_eq (h : p.Gives k R rate) :
    (((R * (k * q.n) : ℕ) : ℤ) - (rate * (q.m * q.d) : ℕ)) * (p.m * p.d : ℕ) = R * p.cross q k := by
  have hcast : (R * (k * p.n) : ℤ) = rate * (p.m * p.d) := by exact_mod_cast h
  rw [cross]
  push_cast
  linear_combination (q.m * q.d : ℤ) * hcast

lemma min_dvd_cross (hp : 0 < p.d) (hq : 0 < q.d) (hdvd : p.d ∣ q.d ∨ q.d ∣ p.d) :
    ((min p.d q.d : ℕ) : ℤ) ∣ p.cross q k := by
  have hmin : min p.d q.d ∣ p.d ∧ min p.d q.d ∣ q.d := by
    rcases hdvd with hd | hd
    · rw [min_eq_left (Nat.le_of_dvd hq hd)]
      exact ⟨dvd_rfl, hd⟩
    · rw [min_eq_right (Nat.le_of_dvd hp hd)]
      exact ⟨hd, dvd_rfl⟩
  have hp' : ((min p.d q.d : ℕ) : ℤ) ∣ p.d := Int.natCast_dvd_natCast.mpr hmin.1
  have hq' : ((min p.d q.d : ℕ) : ℤ) ∣ q.d := Int.natCast_dvd_natCast.mpr hmin.2
  exact Int.dvd_sub ((hp'.mul_left _).mul_left _) ((hq'.mul_left _).mul_left _)

/-- If some dividers give the rate, then so do all that agree with it, for a fast reference. -/
theorem Agrees.gives (hq : q.Agrees k R rate) (h : p.Gives k R rate) (hpos : q.Positive) (hpos' : p.Positive)
    (hk : 0 < k) (hdvd : p.d ∣ q.d ∨ q.d ∣ p.d) (hfast : k * q.n * q.m * p.m * max p.d q.d ≤ R) :
    q.Gives k R rate := by
  have hkn : 0 < k * q.n := Nat.mul_pos hk hpos.n_pos
  have hmd : 0 < q.m * q.d := Nat.mul_pos hpos.m_pos hpos.d_pos
  have hmd' : 0 < p.m * p.d := Nat.mul_pos hpos'.m_pos hpos'.d_pos
  rw [Agrees, Nat.div_div_eq_div_mul] at hq
  have hclose := natAbs_cross_lt hmd hkn hq
  have hcross := h.cross_eq (q := q)
  have habs := congrArg Int.natAbs hcross
  rw [Int.natAbs_mul, Int.natAbs_mul, Int.natAbs_natCast, Int.natAbs_natCast] at habs
  have hzero : p.cross q k = 0 := by
    by_contra hne
    have hmin := Nat.le_of_dvd (Int.natAbs_pos.mpr hne) (Int.natCast_dvd.mp (min_dvd_cross hpos'.d_pos hpos.d_pos hdvd))
    have hlt : R * min p.d q.d < R * min p.d q.d := by
      calc R * min p.d q.d ≤ R * (p.cross q k).natAbs := Nat.mul_le_mul_left R hmin
        _ = _ * (p.m * p.d) := habs.symm
        _ < q.m * q.d * (k * q.n) * (p.m * p.d) := Nat.mul_lt_mul_of_pos_right hclose hmd'
        _ = k * q.n * q.m * p.m * max p.d q.d * min p.d q.d := by
          rw [Nat.mul_assoc _ (max p.d q.d), max_mul_min]
          ring
        _ ≤ R * min p.d q.d := Nat.mul_le_mul_right _ hfast
    exact lt_irrefl _ hlt
  rw [hzero, mul_zero] at hcross
  have hdiff := (mul_eq_zero.mp hcross).resolve_right (Int.natCast_ne_zero.mpr hmd'.ne')
  exact Int.ofNat_inj.mp (sub_eq_zero.mp hdiff)

/-- What a search finds is legal, and it gives the rate if that is possible. -/
structure Correct {α : Type*} (Legal Gives : α → Prop) (found : Option α) : Prop where
  legal : ∀ c, found = some c → Legal c
  gives : (∃ c, Legal c ∧ Gives c) → ∃ c, found = some c ∧ Gives c

/-- A search by tests that may wrap is correct if what passes them does not wrap. -/
theorem correct_iff {α : Type*} {Legal Gives Accepts Fits : α → Prop} {found : Option α}
    (hsound : ∀ c, found = some c → Accepts c) (hcomplete : ∀ c, Accepts c → found ≠ none)
    (hlegal : ∀ c, Accepts c → Fits c → Legal c) (hfits : ∀ c c', Accepts c → Legal c' → Fits c)
    (haccepts : ∀ c, Legal c → Gives c → ∃ c', Accepts c')
    (hgives : ∀ c c', Legal c → Gives c → Accepts c' → Gives c') :
    Correct Legal Gives found ↔ ∀ c, Accepts c → Fits c := by
  constructor
  · intro h c hc
    cases hfound : found with
    | none => exact absurd hfound (hcomplete c hc)
    | some c' => exact hfits c c' hc (h.legal c' hfound)
  · intro h
    refine ⟨fun c hc => hlegal c (hsound c hc) (h c (hsound c hc)), ?_⟩
    rintro ⟨c, hc, hgive⟩
    obtain ⟨c', hc'⟩ := haccepts c hc hgive
    cases hfound : found with
    | none => exact absurd hfound (hcomplete c' hc')
    | some c'' => exact ⟨c'', rfl, hgives c c'' hc hgive (hsound c'' hfound)⟩

end PllDividers
