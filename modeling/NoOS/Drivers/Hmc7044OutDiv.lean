import NoOS.Drivers.Hmc7044
import NoOS.Lib.NearestMultiple
import NoOS.Lib.Word

/-!
# The output divider

The rounded quotient is the nearest divider where it is supported, and the rounded half of it where it is not, as long
as the sums that are divided fit into a word.
-/

namespace NoOS

/-- The divide ratios of an output. -/
def SupportedDiv (d : ℕ) : Prop := d = 1 ∨ d = 3 ∨ d = 5 ∨ d % 2 = 0 ∧ 2 ≤ d ∧ d ≤ 4094

/-- No supported ratio is nearer to the quotient. -/
def IsNearestDiv (rate parentRate : UInt32) (d : ℕ) : Prop :=
  SupportedDiv d ∧
    ∀ e, SupportedDiv e → |(parentRate.toNat / rate.toNat : ℚ) - d| ≤ |(parentRate.toNat / rate.toNat : ℚ) - e|

/-- The nearest quotient is odd and not supported. -/
def OddDiv (rate parentRate : UInt32) : Prop :=
  7 ≤ NearestMultiple.rounded parentRate.toNat rate.toNat ∧
    NearestMultiple.rounded parentRate.toNat rate.toNat % 2 = 1

instance (rate parentRate : UInt32) : Decidable (OddDiv rate parentRate) := inferInstanceAs (Decidable (_ ∧ _))

/-- The sums of the code, the second one on its branch, need no more than 32 bits. -/
structure OutDivFits (rate parentRate : UInt32) : Prop where
  sum : parentRate.toNat + rate.toNat / 2 < 2 ^ 32
  double : OddDiv rate parentRate → rate.toNat * 2 < 2 ^ 32
  sumDouble : OddDiv rate parentRate → parentRate.toNat + rate.toNat * 2 / 2 < 2 ^ 32
  twice : OddDiv rate parentRate → NearestMultiple.rounded parentRate.toNat (rate.toNat * 2) * 2 < 2 ^ 32

open NearestMultiple

variable {rate parentRate : UInt32}

lemma divRoundClosest_toNat {x y : UInt32} (h : x.toNat + y.toNat / 2 < 2 ^ 32) :
    (divRoundClosest x y).toNat = rounded x.toNat y.toNat := by
  have hhalf : (y / 2).toNat = y.toNat / 2 := UInt32.toNat_div y 2
  rw [divRoundClosest, UInt32.toNat_div, Word.toNat_add_of_lt (by rwa [hhalf]), hhalf, rounded]

lemma divRoundClosest_wrap {x y : UInt32} (h : 2 ^ 32 ≤ x.toNat + y.toNat / 2) : divRoundClosest x y = 0 := by
  have hx := x.toNat_lt
  have hhalf : (y / 2).toNat = y.toNat / 2 := UInt32.toNat_div y 2
  apply UInt32.toNat_inj.mp
  rw [divRoundClosest, UInt32.toNat_div, UInt32.toNat_add, hhalf, UInt32.toNat_zero]
  exact Nat.div_eq_of_lt (by lia)

lemma toNat_clampDiv (x : UInt32) :
    (clamp x HMC7044_OUT_DIV_MIN HMC7044_OUT_DIV_MAX).toNat = max (min x.toNat 4094) 1 := by
  rw [clamp, UInt32.toNat_max, UInt32.toNat_min]
  rfl

variable {x r d : ℕ}

/-- A rounded quotient that is supported, or 0, or even and too large. -/
lemma nearest_of_rounded (hr : 0 < r) (hd : SupportedDiv (rounded x r) ∨ rounded x r % 2 = 0) :
    SupportedDiv (max (min (rounded x r) 4094) 1) ∧ ∀ e, SupportedDiv e →
      |(x : ℤ) - (max (min (rounded x r) 4094) 1 * r : ℕ)| ≤ |(x : ℤ) - (e * r : ℕ)| := by
  have hlow := @two_mul_rounded_le x r
  have hhigh := @le_two_mul_rounded x r hr
  generalize hq : rounded x r = q at *
  by_cases hzero : q = 0
  · subst hzero
    rw [show max (min 0 4094) 1 = 1 from rfl]
    refine ⟨.inl rfl, fun e he => abs_sub_le_of_le ?_ ?_⟩
    · lia
    · unfold SupportedDiv at he
      lia
  · by_cases hlarge : 4094 < q
    · have hmul : 4095 * r ≤ q * r := Nat.mul_le_mul_right r hlarge
      rw [show max (min q 4094) 1 = 4094 by lia]
      refine ⟨.inr (.inr (.inr ⟨rfl, by decide, le_refl _⟩)), fun e he => abs_sub_le_of_ge ?_ ?_⟩
      · lia
      · unfold SupportedDiv at he
        lia
    · rw [show max (min q 4094) 1 = q by lia]
      constructor
      · rcases hd with hd | hd
        · exact hd
        · exact .inr (.inr (.inr ⟨hd, by lia, by lia⟩))
      · intro e he
        exact abs_sub_le_of_half hlow hhigh e

/-- An odd quotient that is not supported leaves the even ratios. -/
lemma nearest_of_odd (hr : 0 < r) (hq : 7 ≤ rounded x r) :
    SupportedDiv (max (min (rounded x (r * 2) * 2) 4094) 1) ∧ ∀ e, SupportedDiv e →
      |(x : ℤ) - (max (min (rounded x (r * 2) * 2) 4094) 1 * r : ℕ)| ≤ |(x : ℤ) - (e * r : ℕ)| := by
  have hx : 7 * r ≤ rounded x r * r := Nat.mul_le_mul_right r hq
  have hlow := @two_mul_rounded_le x r
  have hlow2 := @two_mul_rounded_le x (r * 2)
  have hhigh2 := @le_two_mul_rounded x (r * 2) (by lia)
  have hassoc : ∀ k, k * (r * 2) = k * 2 * r := fun k => by ring
  generalize hm : rounded x (r * 2) = m at *
  have hpos : 3 ≤ m := by
    by_contra hlt
    have hmul : m * (r * 2) ≤ 2 * (r * 2) := Nat.mul_le_mul_right _ (by lia)
    lia
  by_cases hlarge : 4094 < m * 2
  · have hmul : 2048 * (r * 2) ≤ m * (r * 2) := Nat.mul_le_mul_right _ (by lia)
    rw [show max (min (m * 2) 4094) 1 = 4094 by lia]
    refine ⟨.inr (.inr (.inr ⟨rfl, by decide, le_refl _⟩)), fun e he => abs_sub_le_of_ge ?_ ?_⟩
    · lia
    · unfold SupportedDiv at he
      lia
  · rw [show max (min (m * 2) 4094) 1 = m * 2 by lia]
    refine ⟨.inr (.inr (.inr ⟨by lia, by lia, by lia⟩)), fun e he => ?_⟩
    by_cases heven : e % 2 = 0
    · obtain ⟨k, rfl⟩ : ∃ k, e = k * 2 := ⟨e / 2, by lia⟩
      have habs := abs_sub_le_of_half hlow2 hhigh2 k
      rwa [hassoc, hassoc] at habs
    · -- The odd ratios are below the quotient by more than one.
      have he5 : e ≤ 5 := by
        unfold SupportedDiv at he
        lia
      have hmul : e * r ≤ 5 * r := Nat.mul_le_mul_right r he5
      rw [hassoc] at hlow2 hhigh2
      rw [Int.abs_eq_natAbs, Int.abs_eq_natAbs]
      lia

lemma nearest_one_iff (hr : 0 < r) :
    (SupportedDiv 1 ∧ ∀ e, SupportedDiv e → |(x : ℤ) - (1 * r : ℕ)| ≤ |(x : ℤ) - (e * r : ℕ)|) ↔ 2 * x ≤ 3 * r := by
  constructor
  · rintro ⟨-, hbest⟩
    have htwo := hbest 2 (.inr (.inr (.inr ⟨rfl, le_refl 2, by decide⟩)))
    rw [Int.abs_eq_natAbs, Int.abs_eq_natAbs] at htwo
    lia
  · intro hx
    refine ⟨.inl rfl, fun e he => ?_⟩
    have hpos : 1 ≤ e := by
      unfold SupportedDiv at he
      lia
    rcases hpos.eq_or_lt with rfl | hlt
    · exact le_refl _
    · have hmul : 2 * r ≤ e * r := Nat.mul_le_mul_right r hlt
      rw [Int.abs_eq_natAbs, Int.abs_eq_natAbs]
      lia

lemma isNearestDiv_iff (hr : 0 < rate.toNat) : IsNearestDiv rate parentRate d ↔ SupportedDiv d ∧ ∀ e, SupportedDiv e →
    |(parentRate.toNat : ℤ) - (d * rate.toNat : ℕ)| ≤ |(parentRate.toNat : ℤ) - (e * rate.toNat : ℕ)| := by
  unfold IsNearestDiv
  simp only [abs_div_sub_le_iff hr]

/-- The branch of the odd ratios, where the quotient is that of integers. -/
lemma odd_branch_iff (hsum : parentRate.toNat + rate.toNat / 2 < 2 ^ 32) :
    (divRoundClosest parentRate rate ≠ 1 ∧ divRoundClosest parentRate rate ≠ 3 ∧ divRoundClosest parentRate rate ≠ 5 ∧
      divRoundClosest parentRate rate % 2 ≠ 0) ↔ OddDiv rate parentRate := by
  have hnat : ∀ n : UInt32, divRoundClosest parentRate rate ≠ n ↔ rounded parentRate.toNat rate.toNat ≠ n.toNat := by
    intro n
    rw [← divRoundClosest_toNat hsum, ne_eq, ne_eq, UInt32.toNat_inj]
  have hmod : divRoundClosest parentRate rate % 2 ≠ 0 ↔ rounded parentRate.toNat rate.toNat % 2 ≠ 0 := by
    rw [← divRoundClosest_toNat hsum, ne_eq, ← UInt32.toNat_inj, UInt32.toNat_mod]
    rfl
  rw [hnat, hnat, hnat, hmod, OddDiv, show UInt32.toNat 1 = 1 from rfl, show UInt32.toNat 3 = 3 from rfl,
    show UInt32.toNat 5 = 5 from rfl]
  lia

lemma OddDiv.mul_le (h : OddDiv rate parentRate) : 7 * rate.toNat ≤ parentRate.toNat + rate.toNat / 2 :=
  (Nat.mul_le_mul_right _ h.1).trans (Nat.div_mul_le_self _ _)

lemma OddDiv.toNat_double (h : OddDiv rate parentRate) : (rate * 2).toNat = rate.toNat * 2 := by
  have hmul := h.mul_le
  have hlt := parentRate.toNat_lt
  rw [UInt32.toNat_mul]
  exact Nat.mod_eq_of_lt (by
    rw [show UInt32.toNat 2 = 2 from rfl]
    lia)

lemma hmc7044CalcOutDiv_cases (hrate : rate ≠ 0) : ∃ div, hmc7044CalcOutDiv rate parentRate = some div ∧
    (2 ^ 32 ≤ parentRate.toNat + rate.toNat / 2 ∧ div.toNat = 1 ∨
      parentRate.toNat + rate.toNat / 2 < 2 ^ 32 ∧ ¬OddDiv rate parentRate ∧
        div.toNat = max (min (rounded parentRate.toNat rate.toNat) 4094) 1 ∨
      parentRate.toNat + rate.toNat / 2 < 2 ^ 32 ∧ OddDiv rate parentRate ∧
        2 ^ 32 ≤ parentRate.toNat + rate.toNat ∧ div.toNat = 1 ∨
      parentRate.toNat + rate.toNat / 2 < 2 ^ 32 ∧ OddDiv rate parentRate ∧
        parentRate.toNat + rate.toNat < 2 ^ 32 ∧
        div.toNat = max (min (rounded parentRate.toNat (rate.toNat * 2) * 2) 4094) 1) := by
  have hpos : 0 < rate.toNat := Nat.pos_of_ne_zero fun h => hrate (UInt32.toNat_inj.mp h)
  rw [hmc7044CalcOutDiv, if_neg hrate]
  dsimp only
  by_cases hsum : parentRate.toNat + rate.toNat / 2 < 2 ^ 32
  · by_cases hodd : OddDiv rate parentRate
    · have hdouble := hodd.toNat_double
      have hne : rate * 2 ≠ 0 := Word.ne_zero_of_pos (by lia)
      rw [if_pos ((odd_branch_iff hsum).mpr hodd), if_neg hne]
      refine ⟨_, rfl, ?_⟩
      rw [toNat_clampDiv, UInt32.toNat_mul, show UInt32.toNat 2 = 2 from rfl]
      by_cases hfit : parentRate.toNat + rate.toNat < 2 ^ 32
      · have hquot := @divRoundClosest_toNat parentRate (rate * 2) (by lia)
        have hle : rounded parentRate.toNat (rate.toNat * 2) * (rate.toNat * 2) ≤
            parentRate.toNat + rate.toNat * 2 / 2 := Nat.div_mul_le_self _ _
        have htwo : rounded parentRate.toNat (rate.toNat * 2) * 2 ≤
            rounded parentRate.toNat (rate.toNat * 2) * (rate.toNat * 2) := Nat.mul_le_mul_left _ (by lia)
        rw [hquot, hdouble, Nat.mod_eq_of_lt (by lia)]
        exact .inr (.inr (.inr ⟨hsum, hodd, hfit, rfl⟩))
      · have hwrap := @divRoundClosest_wrap parentRate (rate * 2) (by lia)
        rw [hwrap]
        exact .inr (.inr (.inl ⟨hsum, hodd, Nat.le_of_not_lt hfit, rfl⟩))
    · rw [if_neg (mt (odd_branch_iff hsum).mp hodd)]
      refine ⟨_, rfl, .inr (.inl ⟨hsum, hodd, ?_⟩)⟩
      rw [toNat_clampDiv, divRoundClosest_toNat hsum]
  · have hwrap := divRoundClosest_wrap (Nat.le_of_not_lt hsum)
    rw [hwrap, if_neg (by decide)]
    exact ⟨_, rfl, .inl ⟨Nat.le_of_not_lt hsum, rfl⟩⟩

/-- The result is the nearest ratio up to one and a half, and above that if the two sums do not wrap. -/
lemma hmc7044CalcOutDiv_nearest (hrate : rate ≠ 0) :
    (∃ div, hmc7044CalcOutDiv rate parentRate = some div ∧ IsNearestDiv rate parentRate div.toNat) ↔
      2 * parentRate.toNat ≤ 3 * rate.toNat ∨ parentRate.toNat + rate.toNat / 2 < 2 ^ 32 ∧
        (OddDiv rate parentRate → parentRate.toNat + rate.toNat < 2 ^ 32) := by
  have hpos : 0 < rate.toNat := Nat.pos_of_ne_zero fun h => hrate (UInt32.toNat_inj.mp h)
  obtain ⟨div, hdiv, hcases⟩ := @hmc7044CalcOutDiv_cases rate parentRate hrate
  have hthis : (∃ div, hmc7044CalcOutDiv rate parentRate = some div ∧ IsNearestDiv rate parentRate div.toNat) ↔
      IsNearestDiv rate parentRate div.toNat := by
    simp [hdiv]
  rw [hthis, isNearestDiv_iff hpos]
  rcases hcases with ⟨hwrap, hone⟩ | ⟨hsum, hodd, heq⟩ | ⟨hsum, hodd, hwrap, hone⟩ | ⟨hsum, hodd, hfit, heq⟩
  · rw [hone, nearest_one_iff hpos]
    lia
  · rw [heq]
    refine iff_of_true (nearest_of_rounded hpos ?_) (.inr ⟨hsum, fun h => absurd h hodd⟩)
    unfold OddDiv at hodd
    unfold SupportedDiv
    lia
  · have hmul := hodd.mul_le
    rw [hone, nearest_one_iff hpos]
    refine iff_of_false (by lia) ?_
    rintro (hle | ⟨-, hfit⟩)
    · lia
    · exact absurd (hfit hodd) (Nat.not_lt.mpr hwrap)
  · rw [heq]
    exact iff_of_true (nearest_of_odd hpos hodd.1) (.inr ⟨hsum, fun _ => hfit⟩)

lemma outDivFits_iff (hrate : rate ≠ 0) : OutDivFits rate parentRate ↔ parentRate.toNat + rate.toNat / 2 < 2 ^ 32 ∧
    (OddDiv rate parentRate → parentRate.toNat + rate.toNat < 2 ^ 32) := by
  have hpos : 0 < rate.toNat := Nat.pos_of_ne_zero fun h => hrate (UInt32.toNat_inj.mp h)
  constructor
  · rintro ⟨hsum, -, hdouble, -⟩
    rw [Nat.mul_div_cancel _ Nat.two_pos] at hdouble
    exact ⟨hsum, hdouble⟩
  · rintro ⟨hsum, hdouble⟩
    refine ⟨hsum, fun h => ?_, fun h => ?_, fun h => ?_⟩
    · have hmul := h.mul_le
      lia
    · rw [Nat.mul_div_cancel _ Nat.two_pos]
      exact hdouble h
    · have hle : rounded parentRate.toNat (rate.toNat * 2) * (rate.toNat * 2) ≤
          parentRate.toNat + rate.toNat * 2 / 2 := Nat.div_mul_le_self _ _
      have htwo : rounded parentRate.toNat (rate.toNat * 2) * 2 ≤
          rounded parentRate.toNat (rate.toNat * 2) * (rate.toNat * 2) := Nat.mul_le_mul_left _ (by lia)
      have hfit := hdouble h
      lia

/-- The divider is the nearest supported one, without a sum that wraps, if and only if the two sums fit. Where they do
not it is 1, which is the nearest one for quotients up to one and a half. -/
theorem hmc7044CalcOutDiv_nearest_iff (hrate : rate ≠ 0) :
    ((∃ div, hmc7044CalcOutDiv rate parentRate = some div ∧ IsNearestDiv rate parentRate div.toNat) ∧
        OutDivFits rate parentRate ↔
      parentRate.toNat + rate.toNat / 2 < 2 ^ 32 ∧
        (OddDiv rate parentRate → parentRate.toNat + rate.toNat < 2 ^ 32)) ∧
    ((∃ div, hmc7044CalcOutDiv rate parentRate = some div ∧ IsNearestDiv rate parentRate div.toNat) ↔
      2 * parentRate.toNat ≤ 3 * rate.toNat ∨ parentRate.toNat + rate.toNat / 2 < 2 ^ 32 ∧
        (OddDiv rate parentRate → parentRate.toNat + rate.toNat < 2 ^ 32)) := by
  refine ⟨?_, hmc7044CalcOutDiv_nearest hrate⟩
  rw [outDivFits_iff hrate, hmc7044CalcOutDiv_nearest hrate]
  exact and_iff_right_of_imp .inr

/-- 2949120 kHz for a channel of 122880 kHz, in Hz -/
theorem hmc7044CalcOutDiv_nearest_channel :
    ∃ div, hmc7044CalcOutDiv 122880000 2949120000 = some div ∧ IsNearestDiv 122880000 2949120000 div.toNat :=
  (hmc7044CalcOutDiv_nearest_iff (by decide)).2.mpr (.inr ⟨by decide, by decide⟩)

/-- 3.5 GHz are nearer to twice 2.2 GHz than to 2.2 GHz. -/
theorem not_hmc7044CalcOutDiv_nearest :
    ¬∃ div, hmc7044CalcOutDiv 2200000000 3500000000 = some div ∧ IsNearestDiv 2200000000 3500000000 div.toNat := by
  rw [hmc7044CalcOutDiv_nearest (by decide)]
  decide

end NoOS
