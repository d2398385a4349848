import Mathlib.Algebra.Order.Field.Rat
import Mathlib.Algebra.Order.Floor.Div
import Mathlib.Algebra.Order.Ring.Abs
import Mathlib.Algebra.Order.Round
import Mathlib.Data.Rat.Floor
import Mathlib.Tactic.FieldSimp
import Mathlib.Tactic.Linarith
import Mathlib.Tactic.Ring

/-!
# The nearest multiple

A quotient that is rounded to the nearest integer, with half of the divisor added before the division, is off by half
of the divisor at most, so that no multiple of the divisor is nearer.
-/

namespace NearestMultiple

/-- `x / y`, rounded. -/
def rounded (x y : ℕ) : ℕ := (x + y / 2) / y

variable {x y k d e : ℕ}

lemma two_mul_rounded_le : 2 * (rounded x y * y) ≤ 2 * x + y := by
  have hle : rounded x y * y ≤ x + y / 2 := Nat.div_mul_le_self _ _
  lia

lemma le_two_mul_rounded (hy : 0 < y) : 2 * x ≤ 2 * (rounded x y * y) + y := by
  have hlt : x + y / 2 < (rounded x y + 1) * y := (Nat.div_lt_iff_lt_mul hy).mp (Nat.lt_succ_self _)
  rw [Nat.add_mul, Nat.one_mul] at hlt
  lia

/-- A product that is off by half of the divisor is the nearest one. -/
lemma abs_sub_le_of_half (hlow : 2 * (d * y) ≤ 2 * x + y) (hhigh : 2 * x ≤ 2 * (d * y) + y) (k : ℕ) :
    |(x : ℤ) - (d * y : ℕ)| ≤ |(x : ℤ) - (k * y : ℕ)| := by
  rcases Nat.lt_trichotomy k d with h | rfl | h
  · have hmul : (k + 1) * y ≤ d * y := Nat.mul_le_mul_right y h
    rw [Nat.add_mul, Nat.one_mul] at hmul
    rw [Int.abs_eq_natAbs, Int.abs_eq_natAbs]
    lia
  · exact le_refl _
  · have hmul : (d + 1) * y ≤ k * y := Nat.mul_le_mul_right y h
    rw [Nat.add_mul, Nat.one_mul] at hmul
    rw [Int.abs_eq_natAbs, Int.abs_eq_natAbs]
    lia

lemma abs_sub_le_of_le (hx : x ≤ d * y) (h : d ≤ e) : |(x : ℤ) - (d * y : ℕ)| ≤ |(x : ℤ) - (e * y : ℕ)| := by
  have hmul : d * y ≤ e * y := Nat.mul_le_mul_right y h
  rw [Int.abs_eq_natAbs, Int.abs_eq_natAbs]
  lia

lemma abs_sub_le_of_ge (hx : d * y ≤ x) (h : e ≤ d) : |(x : ℤ) - (d * y : ℕ)| ≤ |(x : ℤ) - (e * y : ℕ)| := by
  have hmul : e * y ≤ d * y := Nat.mul_le_mul_right y h
  rw [Int.abs_eq_natAbs, Int.abs_eq_natAbs]
  lia

lemma abs_div_sub_le_iff (hy : 0 < y) :
    |(x / y : ℚ) - d| ≤ |(x / y : ℚ) - e| ↔ |(x : ℤ) - (d * y : ℕ)| ≤ |(x : ℤ) - (e * y : ℕ)| := by
  have hpos : (0 : ℚ) < y := Nat.cast_pos.mpr hy
  have hscale : ∀ k : ℕ, |(x / y : ℚ) - k| = |((x : ℤ) - (k * y : ℕ) : ℤ)| / y := by
    intro k
    rw [eq_div_iff hpos.ne', ← abs_of_pos hpos, ← abs_mul, abs_of_pos hpos, sub_mul, div_mul_cancel₀ _ hpos.ne']
    push_cast
    rfl
  rw [hscale, hscale, div_le_div_iff_of_pos_right hpos]
  exact Int.cast_le

section Fraction

variable {modulus ref rate : ℕ}

/-- The numerator over `modulus` for what is left of `rate`. -/
def fraction (modulus ref rate : ℕ) : ℕ := rounded (rate % ref * modulus) ref

/-- The rate that an integer and a fraction make. -/
def fractionRate (modulus ref integer fract : ℕ) : ℕ := ref * fract / modulus + ref * integer

lemma fraction_le (href : 0 < ref) : fraction modulus ref rate ≤ modulus := by
  have hrem : rate % ref * modulus ≤ ref * modulus := Nat.mul_le_mul_right _ (Nat.mod_lt rate href).le
  rw [fraction, rounded, ← Nat.lt_succ_iff, Nat.div_lt_iff_lt_mul href, Nat.succ_mul, Nat.mul_comm modulus]
  lia

lemma fraction_eq_iff (href : 0 < ref) : fraction modulus ref rate = modulus ↔ (ref - rate % ref) * modulus ≤ ref / 2 := by
  have hle : rate % ref * modulus ≤ ref * modulus := Nat.mul_le_mul_right _ (Nat.mod_lt rate href).le
  have hfull : modulus ≤ fraction modulus ref rate ↔ (ref - rate % ref) * modulus ≤ ref / 2 := by
    rw [fraction, rounded, Nat.le_div_iff_mul_le href, Nat.sub_mul, Nat.mul_comm modulus]
    lia
  rw [← hfull]
  exact ⟨fun h => h.ge, fun h => Nat.le_antisymm (fraction_le href) h⟩

lemma fraction_near (href : 0 < ref) :
    2 * (ref * fraction modulus ref rate + ref * (rate / ref) * modulus) ≤ 2 * (rate * modulus) + ref ∧
      2 * (rate * modulus) ≤ 2 * (ref * fraction modulus ref rate + ref * (rate / ref) * modulus) + ref := by
  have hlow := @two_mul_rounded_le (rate % ref * modulus) ref
  have hhigh := @le_two_mul_rounded (rate % ref * modulus) ref href
  have hsplit : rate * modulus = ref * (rate / ref) * modulus + rate % ref * modulus := by
    rw [← Nat.add_mul, Nat.div_add_mod]
  rw [fraction, hsplit, Nat.mul_comm ref]
  lia

/-- The error of the fraction, and of what is cut off of the rate and of the divided rate. -/
lemma fractionRate_near (hmod : 0 < modulus) (href : 0 < ref) (hd : 0 < d) :
    2 * modulus * d * (fractionRate modulus ref (rate * d / ref) (fraction modulus ref (rate * d)) / d) ≤
        2 * modulus * d * rate + ref ∧
      2 * modulus * d * rate ≤ 2 * modulus * d *
        (fractionRate modulus ref (rate * d / ref) (fraction modulus ref (rate * d)) / d + 1) + ref := by
  obtain ⟨hlow, hhigh⟩ := @fraction_near modulus ref (rate * d) href
  rw [fractionRate]
  generalize fraction modulus ref (rate * d) = f at hlow hhigh ⊢
  generalize ref * (rate * d / ref) = whole at hlow hhigh ⊢
  have hfract : ref * f / modulus * modulus ≤ ref * f := Nat.div_mul_le_self _ _
  have hfract' : ref * f < (ref * f / modulus + 1) * modulus := (Nat.div_lt_iff_lt_mul hmod).mp (Nat.lt_succ_self _)
  generalize ref * f / modulus = q at hfract hfract' ⊢
  have hout : (q + whole) / d * d ≤ q + whole := Nat.div_mul_le_self _ _
  have hout' : q + whole + 1 ≤ ((q + whole) / d + 1) * d := (Nat.div_lt_iff_lt_mul hd).mp (Nat.lt_succ_self _)
  generalize (q + whole) / d = out at hout hout' ⊢
  constructor
  · calc 2 * modulus * d * out = 2 * (out * d * modulus) := by ring
      _ ≤ 2 * ((q + whole) * modulus) := Nat.mul_le_mul_left 2 (Nat.mul_le_mul_right modulus hout)
      _ = 2 * (q * modulus + whole * modulus) := by rw [Nat.add_mul]
      _ ≤ 2 * (ref * f + whole * modulus) := by lia
      _ ≤ 2 * (rate * d * modulus) + ref := hlow
      _ = 2 * modulus * d * rate + ref := by ring
  · calc 2 * modulus * d * rate = 2 * (rate * d * modulus) := by ring
      _ ≤ 2 * (ref * f + whole * modulus) + ref := hhigh
      _ ≤ 2 * ((q + 1) * modulus + whole * modulus) + ref := by lia
      _ = 2 * ((q + whole + 1) * modulus) + ref := by ring
      _ ≤ 2 * ((out + 1) * d * modulus) + ref :=
        Nat.add_le_add_right (Nat.mul_le_mul_left 2 (Nat.mul_le_mul_right modulus hout')) ref
      _ = 2 * modulus * d * (out + 1) + ref := by ring

/-- Half of a step of the fraction, and what is cut off. -/
theorem abs_fractionRate_sub_le (hmod : 0 < modulus) (href : 0 < ref) (hd : 0 < d) :
    |((fractionRate modulus ref (rate * d / ref) (fraction modulus ref (rate * d)) / d : ℕ) : ℚ) - rate| ≤
      ref / (2 * modulus * d) + 1 := by
  obtain ⟨hlow, hhigh⟩ := @fractionRate_near d modulus ref rate hmod href hd
  generalize fractionRate modulus ref (rate * d / ref) (fraction modulus ref (rate * d)) / d = r at hlow hhigh ⊢
  have hc : (0 : ℚ) < 2 * modulus * d := by exact_mod_cast Nat.mul_pos (Nat.mul_pos two_pos hmod) hd
  have hlow' : (r : ℚ) ≤ rate + ref / (2 * modulus * d) := by
    rw [← sub_le_iff_le_add', le_div_iff₀ hc, sub_mul, sub_le_iff_le_add', Nat.cast_comm, Nat.cast_comm rate]
    exact_mod_cast hlow
  have hhigh' : (rate : ℚ) ≤ r + 1 + ref / (2 * modulus * d) := by
    rw [← sub_le_iff_le_add', le_div_iff₀ hc, sub_mul, sub_le_iff_le_add', mul_comm (r + 1 : ℚ), Nat.cast_comm rate]
    exact_mod_cast hhigh
  rw [abs_le]
  constructor
  · linarith only [hhigh']
  · linarith only [hlow']

lemma fraction_mul (href : 0 < ref) : fraction modulus ref (ref * k) = 0 := by
  rw [fraction, rounded, Nat.mul_mod_right, Nat.zero_mul, Nat.zero_add, Nat.div_div_eq_div_mul]
  exact Nat.div_eq_of_lt (by omega)

/-- A fraction is found again in its rate, as long as a step is more than one. -/
lemma fraction_fractionRate (hmod : 0 < modulus) (href : 2 * modulus ≤ ref) {f i : ℕ} (hf : f < modulus) :
    fractionRate modulus ref i f / ref = i ∧ fraction modulus ref (fractionRate modulus ref i f) = f := by
  have hpos : 0 < ref := by lia
  have hlow : ref * f / modulus * modulus ≤ ref * f := Nat.div_mul_le_self _ _
  have hhigh : ref * f < (ref * f / modulus + 1) * modulus := (Nat.div_lt_iff_lt_mul hmod).mp (Nat.lt_succ_self _)
  have hlt : ref * f / modulus < ref := (Nat.div_lt_iff_lt_mul hmod).mpr (Nat.mul_lt_mul_of_pos_left hf hpos)
  rw [fraction, fractionRate, Nat.add_mul_div_left _ _ hpos, Nat.add_mul_mod_self_left, Nat.mod_eq_of_lt hlt,
    Nat.div_eq_of_lt hlt]
  refine ⟨Nat.zero_add i, ?_⟩
  rw [Nat.add_mul, Nat.one_mul] at hhigh
  rw [rounded, Nat.div_eq_iff hpos, Nat.mul_comm f]
  lia

/-- A rate that was made once is made again. -/
theorem fractionRate_again (hmod : 0 < modulus) (href : 2 * modulus ≤ ref) {r : ℕ}
    (hr : r = fractionRate modulus ref (rate / ref) (fraction modulus ref rate)) :
    fraction modulus ref r < modulus ∧ fractionRate modulus ref (r / ref) (fraction modulus ref r) = r := by
  have hpos : 0 < ref := by lia
  rcases (@fraction_le modulus ref rate hpos).lt_or_eq with hlt | heq
  · obtain ⟨hint, hfract⟩ := @fraction_fractionRate modulus ref hmod href _ (rate / ref) hlt
    rw [← hr] at hint hfract
    rw [hint, hfract, ← hr]
    exact ⟨hlt, rfl⟩
  · have hnext : r = ref * (rate / ref + 1) := by
      rw [hr, heq, fractionRate, Nat.mul_div_cancel _ hmod, Nat.mul_succ, Nat.add_comm]
    rw [hnext, fraction_mul hpos, Nat.mul_div_cancel_left _ hpos, fractionRate, Nat.mul_zero, Nat.zero_div, Nat.zero_add]
    exact ⟨hmod, rfl⟩

end Fraction

section Cut

variable {c n hi a b : ℕ}

lemma cut_div_iff (hc : 0 < c) (hn : 0 < n) : (c * x + e) / (c * n) = x / n ↔ c * (x % n) + e < c * n := by
  have hsplit : c * x + e = c * n * (x / n) + (c * (x % n) + e) := by
    rw [← Nat.add_assoc, Nat.mul_assoc, ← Nat.mul_add, Nat.div_add_mod]
  have hpos := Nat.mul_pos hc hn
  rw [hsplit, Nat.mul_add_div hpos, Nat.add_eq_left, Nat.div_eq_zero_iff_lt hpos]

lemma div_le_cut_div (hc : 0 < c) : x / n ≤ (c * x + e) / (c * n) := by
  rw [← Nat.mul_div_mul_left x n hc]
  exact Nat.div_le_div_right (Nat.le_add_right _ _)

lemma ceilDiv_le_cut_ceilDiv (hc : 0 < c) (hn : 0 < n) : x ⌈/⌉ n ≤ (c * x + e) ⌈/⌉ (c * n) := by
  rw [ceilDiv_le_iff_le_mul hn]
  have hle := (ceilDiv_le_iff_le_mul (Nat.mul_pos hc hn)).mp (le_refl ((c * x + e) ⌈/⌉ (c * n)))
  rw [Nat.mul_assoc] at hle
  exact Nat.le_of_mul_le_mul_left ((Nat.le_add_right _ _).trans hle) hc

lemma cut_ceilDiv_iff (hc : 0 < c) (hn : 0 < n) :
    (c * x + e) ⌈/⌉ (c * n) = x ⌈/⌉ n ↔ e ≤ c * (n * (x ⌈/⌉ n) - x) := by
  have hle := @ceilDiv_le_cut_ceilDiv x e c n hc hn
  have hself : x ≤ n * (x ⌈/⌉ n) := (ceilDiv_le_iff_le_mul hn).mp (le_refl _)
  have hmul : c * x ≤ c * (n * (x ⌈/⌉ n)) := Nat.mul_le_mul_left c hself
  rw [← hle.ge_iff_eq', ceilDiv_le_iff_le_mul (Nat.mul_pos hc hn), Nat.mul_sub, Nat.mul_assoc]
  lia

lemma min_eq_min_iff (h : b ≤ a) : min hi a = min hi b ↔ hi ≤ b ∨ a = b := by lia

lemma min_cut_div_iff (hc : 0 < c) (hn : 0 < n) :
    min hi (x / n) = min hi ((c * x + e) / (c * n)) ↔ hi * n ≤ x ∨ c * (x % n) + e < c * n := by
  rw [eq_comm, min_eq_min_iff (div_le_cut_div hc), Nat.le_div_iff_mul_le hn, cut_div_iff hc hn]

lemma min_cut_ceilDiv_iff (hc : 0 < c) (hn : 0 < n) (j : ℕ) :
    min (j + 1 + k) (x ⌈/⌉ n + k) = min (j + 1 + k) ((c * x + e) ⌈/⌉ (c * n) + k) ↔
      n * j < x ∨ e ≤ c * (n * (x ⌈/⌉ n) - x) := by
  have hle := @ceilDiv_le_cut_ceilDiv x e c n hc hn
  rw [eq_comm, min_eq_min_iff (Nat.add_le_add_right hle k), Nat.add_le_add_iff_right, Nat.add_right_cancel_iff,
    Nat.succ_le_iff, ← not_le, ceilDiv_le_iff_le_mul hn, not_le, cut_ceilDiv_iff hc hn]

lemma ceil_natCast_div (hn : 0 < n) : ⌈(x / n : ℚ)⌉ = ((x ⌈/⌉ n : ℕ) : ℤ) := by
  apply le_antisymm
  · rw [Int.ceil_le, div_le_iff₀ (by exact_mod_cast hn), mul_comm]
    exact_mod_cast (ceilDiv_le_iff_le_mul hn).mp (le_refl (x ⌈/⌉ n))
  · obtain ⟨z, hz⟩ := Int.eq_ofNat_of_zero_le (Int.ceil_nonneg (by positivity : (0 : ℚ) ≤ x / n))
    have hle := Int.le_ceil (x / n : ℚ)
    rw [hz, div_le_iff₀ (by exact_mod_cast hn), mul_comm] at hle
    rw [hz]
    exact_mod_cast (ceilDiv_le_iff_le_mul hn).mpr (by exact_mod_cast hle)

lemma round_natCast_div (hn : 0 < n) : round (x / (2 * n : ℕ) : ℚ) = ((x + n) / (2 * n) : ℕ) := by
  have hne : (n : ℚ) ≠ 0 := by exact_mod_cast hn.ne'
  have hhalf : (x / (2 * n : ℕ) : ℚ) + 1 / 2 = ((x + n : ℕ) : ℤ) / (2 * n : ℕ) := by
    push_cast
    field_simp
  rw [round_eq, hhalf, Rat.floor_intCast_div_natCast]
  rfl

end Cut
end NearestMultiple
