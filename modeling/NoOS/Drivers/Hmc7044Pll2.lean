import NoOS.Drivers.Hmc7044
import NoOS.Lib.Word

/-!
# The dividers of PLL2 of the HMC7044
-/

namespace NoOS
open Arith

/-- Both fractions of PLL2, with and without the doubler, have terms within the registers. -/
structure Pll2Fits (p v : ℕ) : Prop where
  num : p / Nat.gcd p (v * 2) ≤ 65535
  den : v * 2 / Nat.gcd p (v * 2) ≤ 4095
  num' : p / Nat.gcd p v ≤ 65535
  den' : v / Nat.gcd p v ≤ 4095

/-- The dividers make the frequency `p` from the frequency `v`. -/
def Pll2.Solves (s : Pll2) (p v : ℕ) : Prop :=
  v * (if s.doubler then 2 else 1) * s.n2.toNat = p * s.r2.toNat

section Choose

variable {p v : UInt32} (hp : p ≠ 0) (hv : v ≠ 0) (hsmall : v.toNat ≤ 4294967)
include hp hv hsmall

omit hp hv in
lemma toNat_doubled : (v * 2).toNat = v.toNat * 2 := by
  rw [UInt32.toNat_mul]
  change v.toNat * 2 % 2 ^ 32 = _
  lia

omit hp in
lemma doubled_ne_zero : v * 2 ≠ 0 := by
  have hpos : 0 < v.toNat := Nat.pos_of_ne_zero fun h => hv (UInt32.toNat_inj.mp h)
  apply Word.ne_zero_of_pos
  rw [toNat_doubled hsmall]
  lia

omit hp hv in
lemma pll2Fits_iff : Pll2Fits p.toNat v.toNat ↔
    ¬((reduced p (v * 2)).1 > HMC7044_N2_MAX ∨ (reduced p (v * 2)).2 > HMC7044_R2_MAX) ∧
      ¬((reduced p v).1 > HMC7044_N2_MAX ∨ (reduced p v).2 > HMC7044_R2_MAX) := by
  simp only [gt_iff_lt, UInt32.lt_iff_toNat_lt, toNat_reduced, toNat_doubled hsmall]
  change _ ↔ ¬(65535 < _ ∨ 4095 < _) ∧ ¬(65535 < _ ∨ 4095 < _)
  constructor
  · rintro ⟨h1, h2, h3, h4⟩
    lia
  · intro h
    exact ⟨by omega, by omega, by omega, by omega⟩

/-- The product in the first comparison lacks the factor of the doubler: it is half of what it
is compared with. -/
lemma freq_ne : p ≠ v * (reduced p (v * 2)).1 / (reduced p (v * 2)).2 := by
  obtain ⟨hn, hr⟩ := reduced_pos hp (doubled_ne_zero hv hsmall)
  have hmul := @reduced_mul p (v * 2)
  rw [toNat_doubled hsmall] at hmul
  intro h
  have hquot := congrArg UInt32.toNat h
  rw [UInt32.toNat_div, UInt32.toNat_mul] at hquot
  have hle := Nat.mod_le (v.toNat * (reduced p (v * 2)).1.toNat) (2 ^ 32)
  have hvpos : 0 < v.toNat := Nat.pos_of_ne_zero fun h => hv (UInt32.toNat_inj.mp h)
  have hpos := Nat.mul_pos hvpos hn
  have hlt : v.toNat * (reduced p (v * 2)).1.toNat < p.toNat * (reduced p (v * 2)).2.toNat := by
    rw [hmul, Nat.mul_right_comm]
    lia
  have hdiv : v.toNat * (reduced p (v * 2)).1.toNat % 2 ^ 32 / (reduced p (v * 2)).2.toNat <
      p.toNat := by
    rw [Nat.div_lt_iff_lt_mul hr]
    lia
  lia

omit hv in
lemma products_iff : (v.toNat * 2 < 2 ^ 32 ∧ True ∧ v.toNat * (reduced p (v * 2)).1.toNat < 2 ^ 32 ∧
      True ∧ True ∧ v.toNat * 2 < 2 ^ 32 ∧ (v * 2).toNat * (reduced p (v * 2)).1.toNat < 2 ^ 32 ∧
      True ∧ v.toNat * (reduced p v).1.toNat < 2 ^ 32 ∧ True ∧ True) ↔
    p.toNat * (v.toNat * 2 / Nat.gcd p.toNat (v.toNat * 2)) < 2 ^ 32 := by
  have hfirst := @reduced_mul p (v * 2)
  have hsecond := @reduced_mul p v
  have hle : (reduced p v).2.toNat ≤ (reduced p (v * 2)).2.toNat := by
    have hppos : 0 < p.toNat := Nat.pos_of_ne_zero fun h => hp (UInt32.toNat_inj.mp h)
    have hgcd : Nat.gcd p.toNat (v.toNat * 2) ≤ Nat.gcd p.toNat v.toNat * 2 := by
      have hpos := Nat.gcd_pos_of_pos_left v.toNat hppos
      have hdvd := Nat.gcd_mul_right_dvd_mul_gcd p.toNat v.toNat 2
      have htwo : Nat.gcd p.toNat 2 ≤ 2 := Nat.gcd_le_right _ (by decide)
      have hpos' := Nat.mul_pos hpos (Nat.gcd_pos_of_pos_left 2 hppos)
      exact (Nat.le_of_dvd hpos' hdvd).trans (Nat.mul_le_mul_left _ htwo)
    rw [toNat_reduced.2, toNat_reduced.2, toNat_doubled hsmall,
      ← Nat.mul_div_mul_right v.toNat _ (by decide : 0 < 2)]
    exact Nat.div_le_div_left hgcd (Nat.gcd_pos_of_pos_left _ hppos)
  have hle' := Nat.mul_le_mul_left p.toNat hle
  have hden : v.toNat * 2 / Nat.gcd p.toNat (v.toNat * 2) = (reduced p (v * 2)).2.toNat := by
    rw [toNat_reduced.2, toNat_doubled hsmall]
  rw [hden, toNat_doubled hsmall] at *
  have hhalf : v.toNat * 2 * (reduced p (v * 2)).1.toNat = 2 * (v.toNat * (reduced p (v * 2)).1.toNat) := by
    rw [Nat.mul_comm v.toNat 2, Nat.mul_assoc]
  constructor
  · rintro ⟨-, -, -, -, -, -, h, -⟩
    rwa [hfirst]
  · intro h
    refine ⟨by lia, trivial, by lia, trivial, trivial, by lia, by lia, trivial, by lia,
      trivial, trivial⟩

/-- Where both fractions fit, one of them is taken, and both are exact. -/
lemma gives_choose (hfits : Pll2Fits p.toNat v.toNat) : ∃ s,
    Gives 32 (pll2Choose p v) s
      (p.toNat * (v.toNat * 2 / Nat.gcd p.toNat (v.toNat * 2)) < 2 ^ 32) ∧
    s.Solves p.toNat v.toNat ∧ 0 < s.n2.toNat ∧ s.n2.toNat ≤ 65535 ∧ 0 < s.r2.toNat ∧
    s.r2.toNat ≤ 4095 := by
  obtain ⟨hfirst, hsecond⟩ := (pll2Fits_iff hsmall).mp hfits
  have hrat := @gives_rational p (v * 2) HMC7044_N2_MAX HMC7044_R2_MAX 32 (doubled_ne_zero hv hsmall)
  have hrat' := @gives_rational p v HMC7044_N2_MAX HMC7044_R2_MAX 32 hv
  rw [if_neg hfirst] at hrat
  rw [if_neg hsecond] at hrat'
  obtain ⟨hn, hr⟩ := reduced_pos hp (doubled_ne_zero hv hsmall)
  obtain ⟨hn', hr'⟩ := reduced_pos hp hv
  have hbound : (reduced p (v * 2)).1.toNat ≤ 65535 ∧ (reduced p (v * 2)).2.toNat ≤ 4095 ∧
      (reduced p v).1.toNat ≤ 65535 ∧ (reduced p v).2.toNat ≤ 4095 := by
    rw [toNat_reduced.1, toNat_reduced.2, toNat_reduced.1, toNat_reduced.2, toNat_doubled hsmall]
    exact ⟨hfits.num, hfits.den, hfits.num', hfits.den'⟩
  have hsolves : Pll2.Solves ⟨(reduced p (v * 2)).1, (reduced p (v * 2)).2, true⟩ p.toNat v.toNat := by
    have hmul := @reduced_mul p (v * 2)
    rw [toNat_doubled hsmall] at hmul
    exact hmul.symm
  have hsolves' : Pll2.Solves ⟨(reduced p v).1, (reduced p v).2, false⟩ p.toNat v.toNat := by
    have hmul := @reduced_mul p v
    rw [← Nat.mul_one v.toNat] at hmul
    exact hmul.symm
  have hchoice : ∃ s, Gives 32 (if
      (p.toInt32 - (v * 2 * (reduced p (v * 2)).1 / (reduced p (v * 2)).2).toInt32).abs >
        (p.toInt32 - (v * (reduced p v).1 / (reduced p v).2).toInt32).abs then
        return ⟨(reduced p v).1, (reduced p v).2, false⟩
      else return ⟨(reduced p (v * 2)).1, (reduced p (v * 2)).2, true⟩ : Arith Pll2) s True ∧
      s.Solves p.toNat v.toNat ∧ 0 < s.n2.toNat ∧ s.n2.toNat ≤ 65535 ∧ 0 < s.r2.toNat ∧
      s.r2.toNat ≤ 4095 := by
    split_ifs
    · exact ⟨_, Gives.pure, hsolves', hn', hbound.2.2.1, hr', hbound.2.2.2⟩
    · exact ⟨_, Gives.pure, hsolves, hn, hbound.1, hr, hbound.2.1⟩
  obtain ⟨s, hgives, hs⟩ := hchoice
  refine ⟨s, ?_, hs⟩
  apply Gives.congr _ (products_iff hp hsmall)
  unfold pll2Choose
  apply Gives.mul.bind
  apply hrat.bind
  apply Gives.mul.bind
  apply (Gives.div (Word.ne_zero_of_pos hr)).bind
  rw [if_pos (freq_ne hp hv hsmall)]
  apply hrat'.bind
  apply Gives.mul.bind
  apply Gives.mul.bind
  apply (Gives.div (Word.ne_zero_of_pos hr)).bind
  apply Gives.mul.bind
  exact (Gives.div (Word.ne_zero_of_pos hr')).bind hgives

/-- Otherwise the denominator 0 of a fraction that does not fit is divided by. -/
lemma fails_choose (hfits : ¬Pll2Fits p.toNat v.toNat) : (pll2Choose p v).Fails := by
  have hrat := @gives_rational p (v * 2) HMC7044_N2_MAX HMC7044_R2_MAX 32 (doubled_ne_zero hv hsmall)
  have hrat' := @gives_rational p v HMC7044_N2_MAX HMC7044_R2_MAX 32 hv
  obtain ⟨hn, hr⟩ := reduced_pos hp (doubled_ne_zero hv hsmall)
  rw [pll2Fits_iff hsmall] at hfits
  unfold pll2Choose
  apply (Gives.mul (w := 32)).bind_fails
  apply hrat.bind_fails
  apply (Gives.mul (w := 32)).bind_fails
  by_cases hfirst : (reduced p (v * 2)).1 > HMC7044_N2_MAX ∨ (reduced p (v * 2)).2 > HMC7044_R2_MAX
  · rw [if_pos hfirst]
    exact fails_div.bind
  · have hsecond : (reduced p v).1 > HMC7044_N2_MAX ∨ (reduced p v).2 > HMC7044_R2_MAX := by
      by_contra hnot
      exact hfits ⟨hfirst, hnot⟩
    rw [if_neg hfirst]
    rw [if_pos hsecond] at hrat'
    apply (Gives.div (w := 32) (Word.ne_zero_of_pos hr)).bind_fails
    rw [if_pos (freq_ne hp hv hsmall)]
    apply hrat'.bind_fails
    apply (Gives.mul (w := 32)).bind_fails
    apply (Gives.mul (w := 32)).bind_fails
    apply (Gives.div (w := 32) (Word.ne_zero_of_pos hr)).bind_fails
    apply (Gives.mul (w := 32)).bind_fails
    exact fails_div.bind

end Choose

/-- The loop doubles both dividers until the feedback divider is large enough. -/
lemma gives_scale {p v : ℕ} (k : ℕ) {s : Pll2} (hsolves : s.Solves p v) (hn : 0 < s.n2.toNat)
    (hn' : s.n2.toNat ≤ 65535) (hr : 0 < s.r2.toNat) (hr' : s.r2.toNat ≤ 4095)
    (hratio : s.r2.toNat ≤ 4 * s.n2.toNat) (hk : 8 ≤ s.n2.toNat * 2 ^ k) : ∃ s',
      Gives 32 (pll2Scale k s) s' True ∧ s'.Solves p v ∧ 8 ≤ s'.n2.toNat ∧ s'.n2.toNat ≤ 65535 ∧
        0 < s'.r2.toNat ∧ s'.r2.toNat ≤ 4095 := by
  induction k generalizing s with
  | zero => exact ⟨s, Gives.pure, hsolves, by lia, hn', hr, hr'⟩
  | succ k ih =>
    rw [pll2Scale]
    by_cases hsmall : s.n2.toNat < 8
    · have hloop : s.n2 < HMC7044_N2_MIN ∧ s.r2 ≤ HMC7044_R2_MAX / 2 := by
        rw [UInt32.lt_iff_toNat_lt, UInt32.le_iff_toNat_le]
        change _ < 8 ∧ _ ≤ 2047
        lia
      have hn2 : (s.n2 * 2).toNat = s.n2.toNat * 2 := by
        rw [UInt32.toNat_mul]
        exact Nat.mod_eq_of_lt (by change s.n2.toNat * 2 < 2 ^ 32; lia)
      have hr2 : (s.r2 * 2).toNat = s.r2.toNat * 2 := by
        rw [UInt32.toNat_mul]
        exact Nat.mod_eq_of_lt (by change s.r2.toNat * 2 < 2 ^ 32; lia)
      have hsolves' : Pll2.Solves { s with n2 := s.n2 * 2, r2 := s.r2 * 2 } p v := by
        unfold Pll2.Solves at hsolves ⊢
        simp only [hn2, hr2]
        rw [← Nat.mul_assoc, hsolves, Nat.mul_assoc]
      obtain ⟨s', hgives, hs'⟩ := ih (s := { s with n2 := s.n2 * 2, r2 := s.r2 * 2 }) hsolves'
        (by simp only [hn2]; lia) (by simp only [hn2]; lia) (by simp only [hr2]; lia)
        (by simp only [hr2]; lia) (by simp only [hn2, hr2]; lia)
        (by simp only [hn2]; rw [Nat.mul_assoc, ← Nat.pow_succ']; exact hk)
      refine ⟨s', ?_, hs'⟩
      rw [if_pos hloop]
      refine (Gives.mul.bind (Gives.mul.bind hgives)).congr (iff_of_true ⟨?_, ?_, trivial⟩ trivial)
      · change s.n2.toNat * 2 < 2 ^ 32
        lia
      · change s.r2.toNat * 2 < 2 ^ 32
        lia
    · have hdone : ¬(s.n2 < HMC7044_N2_MIN ∧ s.r2 ≤ HMC7044_R2_MAX / 2) := by
        rw [UInt32.lt_iff_toNat_lt]
        exact fun h => hsmall h.1
      rw [if_neg hdone]
      exact ⟨s, Gives.pure, hsolves, by lia, hn', hr, hr'⟩

end NoOS
