import Mathlib.Algebra.Order.Floor.Semifield
import Mathlib.Data.Rat.Floor
import Mathlib.Tactic.Linarith
import Mathlib.Tactic.NormNum
import NoOS.Iio.Values

/-!
# Fractions of attributes

What the two fractional formats print, compared with the decimal expansion of the value.
-/

namespace NoOS
open CString Numeral

/-- The sign of a number and its digits, up to the ninth one behind the point -/
def expansion (q : ℚ) : List Char :=
  let digits := ⌊|q| * 10 ^ 9⌋₊
  (if q < 0 then ['-'] else []) ++ (Nat.toDigits 10 (digits / 10 ^ 9) ++ '.' :: zeroPadded 9 (digits % 10 ^ 9))

example : expansion (-7 / 3) = "-2.333333333".toList := by decide +kernel

/-- The value that is printed, if the arguments of the format are in its range -/
def IioVal.ratio (fmt : IioVal) (vals : ℕ → Int32) : Option ℚ :=
  match fmt with
  | .iioValFractional => if vals 1 = 0 then none else some ((vals 0).toInt / (vals 1).toInt)
  | .iioValFractionalLog2 =>
    if 0 ≤ vals 1 ∧ vals 1 < 32 then some ((vals 0).toInt / 2 ^ (vals 1).toInt.toNat) else none
  | _ => none

/-- A number of 10^-9 that is `q` rounded toward zero -/
structure RoundsTo (tmp : ℤ) (q : ℚ) : Prop where
  natAbs : tmp.natAbs = ⌊|q| * 10 ^ 9⌋₊
  nonneg : 0 ≤ q → 0 ≤ tmp
  nonpos : q < 0 → tmp ≤ 0

variable {b : Sink} {fmt : IioVal} {size : Int32} {vals : ℕ → Int32} {tmp : ℤ} {q : ℚ} {n : ℕ}

lemma floor_div_mul (a d : ℤ) : ⌊|(a : ℚ) / d| * 10 ^ 9⌋₊ = a.natAbs * 10 ^ 9 / d.natAbs := by
  have hcast : |(a : ℚ) / d| * 10 ^ 9 = ((a.natAbs * 10 ^ 9 : ℕ) : ℚ) / (d.natAbs : ℕ) := by
    rw [abs_div, Nat.cast_mul, Nat.cast_natAbs, Nat.cast_natAbs, Int.cast_abs, Int.cast_abs, div_mul_eq_mul_div]
    norm_num
  rw [hcast, Nat.floor_div_eq_div]

lemma roundsTo_tdiv (a d : ℤ) : RoundsTo ((a * 1000000000).tdiv d) ((a : ℚ) / d) := by
  constructor
  · rw [floor_div_mul, Int.natAbs_tdiv, Int.natAbs_mul]
    rfl
  · intro h
    rcases div_nonneg_iff.mp h with ⟨ha, hd⟩ | ⟨ha, hd⟩
    · exact Int.tdiv_nonneg (by have := Int.cast_nonneg_iff.mp ha; omega) (Int.cast_nonneg_iff.mp hd)
    · exact Int.tdiv_nonneg_of_nonpos_of_nonpos (by have := Int.cast_nonpos.mp ha; omega) (Int.cast_nonpos.mp hd)
  · intro h
    rcases div_neg_iff.mp h with ⟨ha, hd⟩ | ⟨ha, hd⟩
    · have ha' := Int.cast_pos.mp ha
      have hd' := Int.cast_lt_zero.mp hd
      exact Int.tdiv_nonpos_of_nonneg_of_nonpos (by omega) hd'.le
    · have ha' := Int.cast_lt_zero.mp ha
      have hd' := Int.cast_pos.mp hd
      rw [← Int.neg_nonneg, ← Int.neg_tdiv]
      exact Int.tdiv_nonneg (by lia) hd'.le

lemma shiftRight_eq_tdiv (x : ℤ) (n : ℕ) :
    (if x < 0 then -(-x / 2 ^ n) else x / 2 ^ n) = x.tdiv (2 ^ n) := by
  split_ifs with h
  · rw [← Int.tdiv_eq_ediv_of_nonneg (by omega), Int.neg_tdiv, Int.neg_neg]
  · rw [Int.tdiv_eq_ediv_of_nonneg (by omega)]

/-- Both formats print a rounded number, which is not above 2^31. -/
lemma iioFormatValue_ratio (h : fmt.ratio vals = some q) : ∃ tmp,
    iioFormatValue b fmt size vals = some (b.snprintf (nanoText tmp)) ∧ RoundsTo tmp q ∧ |q| ≤ 2 ^ 31 := by
  have hlow := (vals 0).le_toInt
  have hhigh := (vals 0).toInt_lt
  have habs : |((vals 0).toInt : ℚ)| ≤ 2 ^ 31 := by
    rw [← Int.cast_abs]
    have hle : |(vals 0).toInt| ≤ 2 ^ 31 := by
      rw [abs_le]
      lia
    exact_mod_cast hle
  cases fmt with
  | iioValFractional =>
    rw [IioVal.ratio] at h
    split_ifs at h with hzero
    obtain rfl := Option.some.inj h
    refine ⟨_, by rw [iioFormatValue, if_neg hzero], roundsTo_tdiv _ _, ?_⟩
    have hne : (vals 1).toInt ≠ 0 := by
      intro heq
      exact hzero (Int32.toInt_inj.mp heq)
    have hone : (1 : ℚ) ≤ |((vals 1).toInt : ℚ)| := by
      rw [← Int.cast_abs]
      exact_mod_cast Int.one_le_abs hne
    rw [abs_div]
    exact (div_le_self (abs_nonneg _) hone).trans habs
  | iioValFractionalLog2 =>
    rw [IioVal.ratio] at h
    split_ifs at h with hrange
    obtain rfl := Option.some.inj h
    have hshift : shiftRight ((vals 0).toInt * 1000000000) (vals 1) =
        some (((vals 0).toInt * 1000000000).tdiv (2 ^ (vals 1).toInt.toNat)) := by
      have hok : ¬(vals 1 < 0 ∨ 64 ≤ vals 1) := by
        simp only [Int32.lt_iff_toInt_lt, Int32.le_iff_toInt_le] at hrange ⊢
        have h32 : Int32.toInt 32 = 32 := rfl
        have h64 : Int32.toInt 64 = 64 := rfl
        lia
      rw [shiftRight, if_neg hok, shiftRight_eq_tdiv]
    refine ⟨_, by rw [iioFormatValue, hshift, Option.map_some], ?_, ?_⟩
    · have hround := roundsTo_tdiv (vals 0).toInt (2 ^ (vals 1).toInt.toNat)
      rwa [Int.cast_pow, Int.cast_ofNat] at hround
    · have hone : (1 : ℚ) ≤ |2 ^ (vals 1).toInt.toNat| := by
        rw [abs_of_pos (by positivity)]
        exact one_le_pow₀ (by norm_num)
      rw [abs_div]
      exact (div_le_self (abs_nonneg _) hone).trans habs
  | _ => cases h

lemma RoundsTo.integer_part (h : RoundsTo tmp q) : tmp.natAbs / 10 ^ 9 = ⌊|q|⌋₊ := by
  have hcast : |q| = |q| * 10 ^ 9 / (10 ^ 9 : ℕ) := by norm_num
  rw [h.natAbs, ← Nat.floor_div_natCast, ← hcast]

lemma toInt_ofInt {z : ℤ} (hlow : -2 ^ 31 ≤ z) (hhigh : z < 2 ^ 31) : (Int32.ofInt z).toInt = z := by
  have hsize : (Int32.size : ℤ) = 2 ^ 32 := rfl
  rw [Int32.toInt_ofInt]
  exact Int.bmod_eq_of_le (by lia) (by lia)

lemma nanoText_eq (h : RoundsTo tmp q) : nanoText tmp =
    decimal (Int32.ofInt (if tmp < 0 then -(⌊|q|⌋₊ : ℤ) else ⌊|q|⌋₊)).toInt ++
      '.' :: zeroPadded 9 (⌊|q| * 10 ^ 9⌋₊ % 10 ^ 9) := by
  have hinteger : tmp.tdiv 1000000000 = if tmp < 0 then -(⌊|q|⌋₊ : ℤ) else ⌊|q|⌋₊ := by
    rw [← h.integer_part]
    split_ifs with hneg
    · have hswap : tmp = -(tmp.natAbs : ℤ) := by lia
      rw [hswap, Int.neg_tdiv, Int.natAbs_neg, Int.natAbs_natCast]
      rfl
    · have hsame : tmp = (tmp.natAbs : ℤ) := by lia
      rw [hsame, Int.natAbs_natCast]
      rfl
  rw [nanoText, hinteger, Int.natAbs_tmod, h.natAbs]
  rfl

lemma expansion_eq (q : ℚ) : expansion q = (if q < 0 then ['-'] else []) ++
    (Nat.toDigits 10 ⌊|q|⌋₊ ++ '.' :: zeroPadded 9 (⌊|q| * 10 ^ 9⌋₊ % 10 ^ 9)) := by
  have hcast : |q| = |q| * 10 ^ 9 / (10 ^ 9 : ℕ) := by norm_num
  have hinteger : ⌊|q| * 10 ^ 9⌋₊ / 10 ^ 9 = ⌊|q|⌋₊ := by rw [← Nat.floor_div_natCast, ← hcast]
  rw [expansion, hinteger]

lemma nanoText_expansion (h : RoundsTo tmp q) (habs : |q| ≤ 2 ^ 31) (hq : q ≤ -1 ∨ 0 ≤ q ∧ q < 2 ^ 31) :
    nanoText tmp = expansion q := by
  rw [nanoText_eq h, expansion_eq]
  rcases hq with hneg | ⟨hpos, hlt⟩
  · have hone : 1 ≤ ⌊|q|⌋₊ := by
      rw [Nat.one_le_floor_iff, le_abs]
      exact Or.inr (by linarith)
    have hmax : ⌊|q|⌋₊ ≤ 2 ^ 31 := Nat.floor_le_of_le (by exact_mod_cast habs)
    have htmp : tmp < 0 := by
      have hle := h.nonpos (by linarith)
      have hint := h.integer_part
      lia
    have hdecimal : decimal (-(⌊|q|⌋₊ : ℤ)) = '-' :: Nat.toDigits 10 ⌊|q|⌋₊ := by
      rw [decimal, if_pos (by omega), Int.natAbs_neg, Int.natAbs_natCast]
    rw [if_pos htmp, if_pos (by linarith), toInt_ofInt (by lia) (by omega), hdecimal]
    rfl
  · have hnot : ¬tmp < 0 := Int.not_lt.mpr (h.nonneg hpos)
    have hmax : ⌊|q|⌋₊ < 2 ^ 31 := by
      rw [abs_of_nonneg hpos, Nat.floor_lt hpos]
      exact_mod_cast hlt
    have hdecimal : decimal (⌊|q|⌋₊ : ℤ) = Nat.toDigits 10 ⌊|q|⌋₊ := by
      rw [decimal, if_neg (by lia), Int.natAbs_natCast]
    rw [if_neg hnot, if_neg (by linarith), toInt_ofInt (by lia) (by omega), hdecimal]
    rfl

lemma length_of_snprintf_eq {s t : List Char} (h : b.snprintf s = b.snprintf t) : s.length = t.length := by
  have hlen : b.i + s.length = b.i + t.length := congrArg Sink.i h
  exact Nat.add_left_cancel hlen

lemma length_nanoText_neg (h : RoundsTo tmp q) (hneg : q < 0) (hsmall : -1 < q) :
    (nanoText tmp).length ≠ (expansion q).length := by
  have hzero : ⌊|q|⌋₊ = 0 := by
    rw [Nat.floor_eq_zero, abs_of_neg hneg]
    linarith
  rw [nanoText_eq h, expansion_eq, hzero, if_pos hneg]
  have hboth : (if tmp < 0 then -((0 : ℕ) : ℤ) else ((0 : ℕ) : ℤ)) = 0 := by split_ifs <;> rfl
  have hdecimal : (decimal (Int32.ofInt 0).toInt).length = 1 := rfl
  have hdigits : (Nat.toDigits 10 0).length = 1 := rfl
  rw [hboth]
  simp only [List.length_append, List.length_cons, List.length_nil, hdecimal, hdigits]
  lia

lemma length_nanoText_max (h : RoundsTo tmp q) (hq : q = 2 ^ 31) : (nanoText tmp).length ≠ (expansion q).length := by
  have hpos : 0 ≤ q := by
    rw [hq]
    norm_num
  have hfloor : ⌊|q|⌋₊ = 2 ^ 31 := by
    rw [abs_of_nonneg hpos, hq]
    exact Nat.floor_natCast (2 ^ 31)
  have hnot : ¬tmp < 0 := Int.not_lt.mpr (h.nonneg hpos)
  have hdecimal : (decimal (Int32.ofInt ((2 ^ 31 : ℕ) : ℤ)).toInt).length = 11 := by decide
  have hdigits : (Nat.toDigits 10 (2 ^ 31)).length = 10 := by decide
  rw [nanoText_eq h, expansion_eq, hfloor, if_neg hnot, if_neg (not_lt.mpr hpos), List.length_append, List.length_append,
    List.length_append, hdecimal, hdigits, List.length_nil]
  lia

/-- A fraction is printed as it should be unless it is between -1 and 0, where the sign is lost, or 2^31. -/
theorem iioFormatValue_expansion_iff (h : fmt.ratio vals = some q) :
    iioFormatValue b fmt size vals = some (b.snprintf (expansion q)) ↔ q ≤ -1 ∨ 0 ≤ q ∧ q < 2 ^ 31 := by
  obtain ⟨tmp, hformat, hround, habs⟩ : ∃ tmp, iioFormatValue b fmt size vals = some (b.snprintf (nanoText tmp)) ∧
      RoundsTo tmp q ∧ |q| ≤ 2 ^ 31 := iioFormatValue_ratio h
  rw [hformat]
  constructor
  · intro heq
    have hlen := length_of_snprintf_eq (Option.some.inj heq)
    by_contra hnot
    rw [not_or, not_le, not_and, not_lt] at hnot
    by_cases hneg : q < 0
    · exact length_nanoText_neg hround hneg hnot.1 hlen
    · have hge := hnot.2 (le_of_not_gt hneg)
      exact length_nanoText_max hround (le_antisymm ((le_abs_self q).trans habs) hge) hlen
  · intro hq
    rw [nanoText_expansion hround habs hq]

/-- -7 / 3 -/
theorem iioFormatValue_expansion_thirds : iioFormatValue ⟨[], 32, 0⟩ .iioValFractional 2 (fun i => if i = 0 then -7 else 3) =
    some ((⟨[], 32, 0⟩ : Sink).snprintf (expansion (-7 / 3))) := by
  have hratio : IioVal.ratio .iioValFractional (fun i => if i = 0 then -7 else 3) = some (-7 / 3) := by
    decide +kernel
  exact (iioFormatValue_expansion_iff hratio).mpr (Or.inl (by norm_num))

/-- -1 / 2 is printed as 0.500000000. -/
theorem iioFormatValue_half : ¬∀ (b : Sink) (size : Int32) (fmt : IioVal) (vals : ℕ → Int32) (q : ℚ),
    fmt.ratio vals = some q → iioFormatValue b fmt size vals = some (b.snprintf (expansion q)) := by
  intro h
  have heq := h ⟨[], 32, 0⟩ 2 .iioValFractional (fun i => if i = 0 then -1 else 2) (-1 / 2) (by decide +kernel)
  have hlen := congrArg (Option.map Sink.i) heq
  exact absurd hlen (by decide +kernel)

end NoOS
