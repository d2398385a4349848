import Mathlib.Algebra.Order.Floor.Div
import Mathlib.Algebra.Order.Field.Rat
import Mathlib.Tactic.Positivity
import NoOS.Drivers.AxiClkgenReadBack
import NoOS.Lib.Nearest

/-!
# The search for the dividers

The loops run through the pairs that keep the phase detector and the VCO in their ranges, except
those with a multiplier below `DIV_ROUND_UP(fvco_min, fin) * d_min`, and try one output divider
for each. What they return is in range; it is the best choice if no legal multiplier is below the
first one and no output divider is rounded to the farther side, or if they come near enough.
-/

namespace NoOS
open NearDivisor

lemma divRoundUp_ceilDiv {x y : UInt32} (hy : 0 < y.toNat) (h : x.toNat + y.toNat < 2 ^ 32) :
    (divRoundUp x y).toNat = x.toNat ⌈/⌉ y.toNat := by
  rw [toNat_divRoundUp hy h, Nat.ceilDiv_eq_add_pred_div]

namespace ClkgenRanges

/-- The ranges of the technologies and speed grades. -/
structure Bounded (r : ClkgenRanges) : Prop where
  fpfdMin : r.fpfdMin.toNat = 10000
  le_fpfdMax : 300000 ≤ r.fpfdMax.toNat
  fpfdMax_le : r.fpfdMax.toNat ≤ 550000
  le_fvcoMin : 600000 ≤ r.fvcoMin.toNat
  fvcoMin_le : r.fvcoMin.toNat ≤ 800000
  le_fvcoMax : 1200000 ≤ r.fvcoMax.toNat
  fvcoMax_le : r.fvcoMax.toNat ≤ 1600000

/-- The sums and products of the search have 32 bits. -/
structure NoOverflow (r : ClkgenRanges) (fin fout : UInt32) : Prop where
  fpfd : fin.toNat + r.fpfdMax.toNat < 2 ^ 32
  fvcoMin : r.fvcoMin.toNat + fin.toNat < 2 ^ 32
  mMin : (divRoundUp r.fvcoMin fin).toNat * (r.dMin fin).toNat < 2 ^ 32
  mMax : r.fvcoMax.toNat * (r.dMax fin).toNat < 2 ^ 32
  loop : ∀ m ∈ forRange (r.mMin fin) (r.mMax fin), fin.toNat * m.toNat + r.fvcoMax.toNat < 2 ^ 32
  fvco : ∀ p ∈ r.pairs fin, (clkgenFvco fin p).toNat + fout.toNat / 2 < 2 ^ 32

/-- The pair keeps the VCO in its range, and the phase detector by the limits of `d`. -/
structure Legal (r : ClkgenRanges) (fin : UInt32) (d m : ℕ) : Prop where
  dMin_le : (r.dMin fin).toNat ≤ d
  le_dMax : d ≤ (r.dMax fin).toNat
  one_le : 1 ≤ m
  le_64 : m ≤ 64
  fvcoMin_le : (r.fvcoMin.toNat : ℚ) ≤ fin.toNat * m / d
  le_fvcoMax : (fin.toNat * m / d : ℚ) ≤ r.fvcoMax.toNat

end ClkgenRanges

lemma AxiClkgen.bounded_ranges (c : AxiClkgen) : c.ranges.Bounded := by
  unfold ranges axiClkgenSetupRanges
  dsimp only
  split_ifs
  all_goals exact ⟨rfl, by decide, by decide, by decide, by decide, by decide, by decide⟩

namespace ClkgenRanges.Bounded

variable {r : ClkgenRanges} {fin fout m : UInt32} {p : UInt32 × UInt32}

lemma toNat_dMin (hr : r.Bounded) (hfin : fin.toNat ≤ 4294967) :
    (r.dMin fin).toNat = max (fin.toNat ⌈/⌉ r.fpfdMax.toNat) 1 := by
  have hlow := hr.le_fpfdMax
  have hhigh := hr.fpfdMax_le
  rw [dMin, UInt32.toNat_max, divRoundUp_ceilDiv (by omega) (by lia)]
  rfl

lemma toNat_dMax (r : ClkgenRanges) (fin : UInt32) :
    (r.dMax fin).toNat = min (fin.toNat / r.fpfdMin.toNat) 80 := by
  rw [dMax, UInt32.toNat_min, UInt32.toNat_div]
  rfl

lemma dMin_le (hr : r.Bounded) (hfin : fin.toNat ≤ 4294967) : (r.dMin fin).toNat ≤ 15 := by
  have hlow := hr.le_fpfdMax
  have hceil : fin.toNat ⌈/⌉ r.fpfdMax.toNat ≤ 15 := by
    apply (ceilDiv_le_iff_le_mul (by omega)).mpr
    lia
  rw [hr.toNat_dMin hfin]
  lia

lemma divRoundUp_fvcoMin_le (hr : r.Bounded) (hfin : fin.toNat ≤ 4294967) (hpos : 0 < fin.toNat) :
    (divRoundUp r.fvcoMin fin).toNat ≤ 800000 := by
  have hhigh := hr.fvcoMin_le
  rw [divRoundUp_ceilDiv hpos (by lia)]
  apply (ceilDiv_le_iff_le_mul hpos).mpr
  calc r.fvcoMin.toNat ≤ 800000 := hhigh
    _ ≤ fin.toNat * 800000 := Nat.le_mul_of_pos_left 800000 hpos

lemma toNat_mMin (hr : r.Bounded) (hfin : fin.toNat ≤ 4294967) (hpos : 0 < fin.toNat) :
    (r.mMin fin).toNat = max (r.fvcoMin.toNat ⌈/⌉ fin.toNat * (r.dMin fin).toNat) 1 := by
  have hhigh := hr.fvcoMin_le
  have hmul : (divRoundUp r.fvcoMin fin).toNat * (r.dMin fin).toNat ≤ 800000 * 15 :=
    Nat.mul_le_mul (hr.divRoundUp_fvcoMin_le hfin hpos) (hr.dMin_le hfin)
  rw [mMin, UInt32.toNat_max, UInt32.toNat_mul, Nat.mod_eq_of_lt (by omega), divRoundUp_ceilDiv hpos (by lia)]
  rfl

lemma toNat_mMax (hr : r.Bounded) :
    (r.mMax fin).toNat = min (r.fvcoMax.toNat * (r.dMax fin).toNat / fin.toNat) 64 := by
  have hmul : r.fvcoMax.toNat * (r.dMax fin).toNat ≤ 1600000 * 80 :=
    Nat.mul_le_mul hr.fvcoMax_le (by rw [toNat_dMax]; exact min_le_right _ _)
  rw [mMax, UInt32.toNat_min, UInt32.toNat_div, UInt32.toNat_mul, Nat.mod_eq_of_lt (by omega)]
  rfl

lemma toNat_mul (hfin : fin.toNat ≤ 4294967) (hm : m.toNat ≤ 64) :
    (fin * m).toNat = fin.toNat * m.toNat ∧ fin.toNat * m.toNat ≤ 274877888 := by
  have hmul : fin.toNat * m.toNat ≤ 4294967 * 64 := Nat.mul_le_mul hfin hm
  rw [UInt32.toNat_mul, Nat.mod_eq_of_lt (by lia)]
  exact ⟨rfl, hmul⟩

lemma toNat_dMinOf (hr : r.Bounded) (hfin : fin.toNat ≤ 4294967) (hm : m.toNat ≤ 64) :
    (r.dMinOf fin m).toNat =
      max (r.dMin fin).toNat (fin.toNat * m.toNat ⌈/⌉ r.fvcoMax.toNat) := by
  obtain ⟨hmul, hle⟩ := toNat_mul hfin hm
  have hlow := hr.le_fvcoMax
  have hhigh := hr.fvcoMax_le
  rw [dMinOf, UInt32.toNat_max, divRoundUp_ceilDiv (by lia) (by lia), hmul]

lemma toNat_dMaxOf (hfin : fin.toNat ≤ 4294967) (hm : m.toNat ≤ 64) :
    (r.dMaxOf fin m).toNat =
      min (r.dMax fin).toNat (fin.toNat * m.toNat / r.fvcoMin.toNat) := by
  rw [dMaxOf, UInt32.toNat_min, UInt32.toNat_div, (toNat_mul hfin hm).1]

lemma one_le_dMin (r : ClkgenRanges) (fin : UInt32) : 1 ≤ (r.dMin fin).toNat := by
  rw [dMin, UInt32.toNat_max]
  exact le_max_right _ _

lemma legal_iff {d m : ℕ} : r.Legal fin d m ↔
    ((r.dMin fin).toNat ≤ d ∧ d ≤ (r.dMax fin).toNat) ∧ (1 ≤ m ∧ m ≤ 64) ∧
      r.fvcoMin.toNat * d ≤ fin.toNat * m ∧ fin.toNat * m ≤ r.fvcoMax.toNat * d := by
  have hone := one_le_dMin r fin
  have hlow (hd : 1 ≤ d) : (r.fvcoMin.toNat : ℚ) ≤ fin.toNat * m / d ↔
      r.fvcoMin.toNat * d ≤ fin.toNat * m := by
    rw [le_div_iff₀ (by exact_mod_cast hd)]
    exact_mod_cast Iff.rfl
  have hhigh (hd : 1 ≤ d) : (fin.toNat * m / d : ℚ) ≤ r.fvcoMax.toNat ↔
      fin.toNat * m ≤ r.fvcoMax.toNat * d := by
    rw [div_le_iff₀ (by exact_mod_cast hd)]
    exact_mod_cast Iff.rfl
  constructor
  · intro h
    have hd : 1 ≤ d := hone.trans h.dMin_le
    exact ⟨⟨h.dMin_le, h.le_dMax⟩, ⟨h.one_le, h.le_64⟩, (hlow hd).mp h.fvcoMin_le,
      (hhigh hd).mp h.le_fvcoMax⟩
  · rintro ⟨⟨hmin, hmax⟩, ⟨hm, hm'⟩, hvmin, hvmax⟩
    have hd : 1 ≤ d := hone.trans hmin
    exact ⟨hmin, hmax, hm, hm', (hlow hd).mpr hvmin, (hhigh hd).mpr hvmax⟩

/-- The loops run through the legal pairs whose multiplier is not below their first one. -/
lemma mem_pairs_iff (hr : r.Bounded) (hfin : fin.toNat ≤ 4294967) (hpos : 0 < fin.toNat) :
    p ∈ r.pairs fin ↔ r.Legal fin p.2.toNat p.1.toNat ∧ (r.mMin fin).toNat ≤ p.1.toNat := by
  have hvmin := hr.le_fvcoMin
  have hvmax := hr.le_fvcoMax
  have hone : 1 ≤ (r.mMin fin).toNat := by
    rw [mMin, UInt32.toNat_max]
    exact le_max_right _ _
  have hpairs : p ∈ r.pairs fin ↔
      ((r.mMin fin).toNat ≤ p.1.toNat ∧ p.1.toNat ≤ (r.mMax fin).toNat) ∧
        (r.dMinOf fin p.1).toNat ≤ p.2.toNat ∧ p.2.toNat ≤ (r.dMaxOf fin p.1).toNat := by
    rw [pairs, List.mem_flatMap, ← mem_forRange_iff, ← mem_forRange_iff]
    constructor
    · rintro ⟨m, hm, hp⟩
      obtain ⟨d, hd, rfl⟩ := List.mem_map.mp hp
      exact ⟨hm, hd⟩
    · exact fun h => ⟨p.1, h.1, List.mem_map.mpr ⟨p.2, h.2, rfl⟩⟩
  rw [hpairs, legal_iff]
  by_cases hm : p.1.toNat ≤ 64
  · rw [hr.toNat_mMax, hr.toNat_dMinOf hfin hm, toNat_dMaxOf hfin hm, max_le_iff, le_min_iff,
      le_min_iff, Nat.le_div_iff_mul_le hpos, Nat.le_div_iff_mul_le (by omega),
      ceilDiv_le_iff_le_mul (by omega), Nat.mul_comm p.2.toNat, Nat.mul_comm p.1.toNat]
    constructor
    · rintro ⟨⟨hmin, -, -⟩, ⟨hd, hup⟩, hd', hlow⟩
      exact ⟨⟨⟨hd, hd'⟩, ⟨hone.trans hmin, hm⟩, hlow, hup⟩, hmin⟩
    · rintro ⟨⟨⟨hd, hd'⟩, -, hlow, hup⟩, hmin⟩
      exact ⟨⟨hmin, hup.trans (Nat.mul_le_mul_left _ hd'), hm⟩, ⟨hd, hup⟩, hd', hlow⟩
  · have hmax : (r.mMax fin).toNat ≤ 64 := by
      rw [hr.toNat_mMax]
      exact min_le_right _ _
    exact iff_of_false (fun h => hm (h.1.2.trans hmax)) (fun h => hm h.1.2.1.2)

lemma toNat_fvco (hfin : fin.toNat ≤ 4294967) (hm : p.1.toNat ≤ 64) :
    (clkgenFvco fin p).toNat = fin.toNat * p.1.toNat / p.2.toNat := by
  rw [clkgenFvco, UInt32.toNat_div, (toNat_mul hfin hm).1]

lemma fvco_le (hr : r.Bounded) {d m : ℕ} (h : r.Legal fin d m) :
    fin.toNat * m / d ≤ 1600000 := by
  obtain ⟨-, -, -, hle⟩ := legal_iff.mp h
  apply Nat.div_le_of_le_mul
  calc fin.toNat * m ≤ r.fvcoMax.toNat * d := hle
    _ ≤ 1600000 * d := Nat.mul_le_mul_right d hr.fvcoMax_le
    _ = d * 1600000 := Nat.mul_comm ..

lemma noOverflow (hr : r.Bounded) (hfin : fin.toNat ≤ 4294967) (hpos : 0 < fin.toNat)
    (hfout : fout.toNat ≤ 4294967) : r.NoOverflow fin fout where
  fpfd := by
    have hhigh := hr.fpfdMax_le
    lia
  fvcoMin := by
    have hhigh := hr.fvcoMin_le
    lia
  mMin := by
    calc (divRoundUp r.fvcoMin fin).toNat * (r.dMin fin).toNat ≤ 800000 * 15 :=
          Nat.mul_le_mul (hr.divRoundUp_fvcoMin_le hfin hpos) (hr.dMin_le hfin)
      _ < 2 ^ 32 := by decide
  mMax := by
    calc r.fvcoMax.toNat * (r.dMax fin).toNat ≤ 1600000 * 80 :=
          Nat.mul_le_mul hr.fvcoMax_le (by rw [toNat_dMax]; exact min_le_right _ _)
      _ < 2 ^ 32 := by decide
  loop := by
    intro m hm
    have hle : m.toNat ≤ 64 := by
      refine (mem_forRange hm).2.trans ?_
      rw [hr.toNat_mMax]
      exact min_le_right _ _
    have hmul := (toNat_mul hfin hle).2
    have hhigh := hr.fvcoMax_le
    lia
  fvco := by
    intro p hp
    have hlegal := ((hr.mem_pairs_iff hfin hpos).mp hp).1
    have hle := hr.fvco_le hlegal
    rw [toNat_fvco hfin hlegal.le_64]
    lia

end ClkgenRanges.Bounded

/-- In range, in kHz -/
structure ClkgenBest.Sound (r : ClkgenRanges) (fin : UInt32) (best : ClkgenBest) : Prop where
  fpfdMin_le : (r.fpfdMin.toNat : ℚ) ≤ fin.toNat / best.d.toNat
  le_fpfdMax : (fin.toNat / best.d.toNat : ℚ) ≤ r.fpfdMax.toNat
  fvcoMin_le : (r.fvcoMin.toNat : ℚ) ≤ fin.toNat * best.m.toNat / best.d.toNat
  le_fvcoMax : (fin.toNat * best.m.toNat / best.d.toNat : ℚ) ≤ r.fvcoMax.toNat
  d_mem : 1 ≤ best.d.toNat ∧ best.d.toNat ≤ 80
  m_mem : 1 ≤ best.m.toNat ∧ best.m.toNat ≤ 64
  dout_mem : 1 ≤ best.dout.toNat ∧ best.dout.toNat ≤ 128

/-- No other dividers get closer to the rate, and there are none if there is no result. -/
structure ClkgenBest.Optimal (r : ClkgenRanges) (fin fout : UInt32) (best : ClkgenBest) : Prop where
  closest : best.d ≠ 0 → ∀ d m dout : ℕ, r.Legal fin d m → 1 ≤ dout → dout ≤ 128 →
    miss fout.toNat (fin.toNat * best.m.toNat / best.d.toNat) best.dout.toNat ≤
      miss fout.toNat (fin.toNat * m / d) dout
  zeros : best.d = 0 → best.m = 0 → best.dout = 0 → ∀ d m : ℕ, ¬r.Legal fin d m

/-- The output divider that the loops try -/
def triedDout (fin fout : UInt32) (d m : ℕ) : ℕ := rounded 128 fout.toNat (fin.toNat * m / d)

/-- No legal multiplier is below the first one of the loops: rounding up before the multiplication
adds nothing, or there are no legal pairs. -/
def ClkgenRanges.NoneSkipped (r : ClkgenRanges) (fin : UInt32) : Prop :=
  r.fvcoMin.toNat ⌈/⌉ fin.toNat * (r.dMin fin).toNat ≤ r.fvcoMin.toNat * (r.dMin fin).toNat ⌈/⌉ fin.toNat ∨
    (r.dMax fin).toNat < (r.dMin fin).toNat ∨ 64 < r.fvcoMin.toNat * (r.dMin fin).toNat ⌈/⌉ fin.toNat

namespace AxiClkgen

variable (c : AxiClkgen) (fin fout : UInt32)

/-- No output divider is rounded to the farther side. -/
def RoundsWell : Prop := ∀ d m : ℕ, c.ranges.Legal fin d m → ¬Misrounds 128 fout.toNat (fin.toNat * m / d)

/-- A pair of the loops comes nearer to the rate than any that is rounded to the farther side can. -/
def ComesNear : Prop :=
  ∃ d m : ℕ, c.ranges.Legal fin d m ∧ (c.ranges.mMin fin).toNat ≤ m ∧
    miss fout.toNat (fin.toNat * m / d) (triedDout fin fout d m) ≤
      fout.toNat ^ 2 / (2 * (c.ranges.fvcoMax.toNat + fout.toNat))

/-- A pair of the loops gives the rate. -/
def Hits : Prop :=
  ∃ d m : ℕ, c.ranges.Legal fin d m ∧ (c.ranges.mMin fin).toNat ≤ m ∧
    fin.toNat * m / d / triedDout fin fout d m = fout.toNat

/-- Every choice is matched by a pair of the loops. -/
def Matched : Prop :=
  ∀ d m dout : ℕ, c.ranges.Legal fin d m → 1 ≤ dout → dout ≤ 128 →
    ∃ d' m' : ℕ, c.ranges.Legal fin d' m' ∧ (c.ranges.mMin fin).toNat ≤ m' ∧
      miss fout.toNat (fin.toNat * m' / d') (triedDout fin fout d' m') ≤
        miss fout.toNat (fin.toNat * m / d) dout

end AxiClkgen

/-- The search ends with the best dividers. -/
def AxiClkgen.SearchOptimal (c : AxiClkgen) (rate : UInt32) : Prop :=
  ∃ best, axiClkgenCalcParams c c.parentRate rate = some best ∧
    best.Optimal c.ranges (c.parentRate / 1000) (rate / 1000)

section Search

variable {r : ClkgenRanges} {fin fout : UInt32} {p : UInt32 × UInt32}

lemma toNat_clkgenDout (hr : r.Bounded) (hfin : fin.toNat ≤ 4294967) (hfout : fout.toNat ≤ 4294967)
    (h : r.Legal fin p.2.toNat p.1.toNat) :
    (clkgenDout fin fout p).toNat = triedDout fin fout p.2.toNat p.1.toNat := by
  have hfvco := ClkgenRanges.Bounded.toNat_fvco hfin h.le_64
  have hle := hr.fvco_le h
  have hhalf : (fout / 2).toNat = fout.toNat / 2 := UInt32.toNat_div ..
  have hsum : (clkgenFvco fin p + fout / 2).toNat =
      fin.toNat * p.1.toNat / p.2.toNat + fout.toNat / 2 := by
    rw [Word.toNat_add_of_lt (by lia), hfvco, hhalf]
  rw [clkgenDout, clamp, divRoundClosest, UInt32.toNat_max, UInt32.toNat_min, UInt32.toNat_div, hsum]
  rfl

lemma clkgenCost_eq (hr : r.Bounded) (hfin : fin.toNat ≤ 4294967) (hfout : fout.toNat ≤ 4294967)
    (h : r.Legal fin p.2.toNat p.1.toNat) :
    clkgenCost fin fout p = miss fout.toNat (fin.toNat * p.1.toNat / p.2.toNat)
      (triedDout fin fout p.2.toNat p.1.toNat) := by
  rw [clkgenCost, clkgenF, UInt32.toNat_div, ClkgenRanges.Bounded.toNat_fvco hfin h.le_64,
    toNat_clkgenDout hr hfin hfout h]
  rfl

lemma kHz_le (x : UInt32) : (x / 1000).toNat ≤ 4294967 := by
  have hlt := x.toNat_lt
  rw [toNat_kHz]
  lia

lemma kHz_pos {x : UInt32} (h : 1000 ≤ x) : 0 < (x / 1000).toNat := by
  have hle := UInt32.le_iff_toNat_le.mp h
  rw [toNat_kHz]
  exact Nat.div_pos hle (by decide)

end Search

variable {c : AxiClkgen} {rate : UInt32}

lemma legal_closest {p : UInt32 × UInt32} (hparent : 1000 ≤ c.parentRate)
    (h : c.closest rate = some p) : c.ranges.Legal (c.parentRate / 1000) p.2.toNat p.1.toNat ∧
      (c.ranges.mMin (c.parentRate / 1000)).toNat ≤ p.1.toNat :=
  (c.bounded_ranges.mem_pairs_iff (kHz_le _) (kHz_pos hparent)).mp (List.argmin_mem h)

/-- The dividers that the search returns, if it finds any, are in range, and nothing overflows. -/
theorem clkgen_search_sound (c : AxiClkgen) (rate : UInt32) (hparent : 1000 ≤ c.parentRate)
    (hrate : 1000 ≤ rate) : ∃ best, axiClkgenCalcParams c c.parentRate rate = some best ∧
      c.ranges.NoOverflow (c.parentRate / 1000) (rate / 1000) ∧
      (best.d ≠ 0 ∨ best.m ≠ 0 ∨ best.dout ≠ 0 → best.Sound c.ranges (c.parentRate / 1000)) := by
  have hr := c.bounded_ranges
  have hfin := kHz_le c.parentRate
  have hpos := kHz_pos hparent
  refine ⟨_, calcParams_eq hparent hrate, hr.noOverflow hfin hpos (kHz_le rate), ?_⟩
  cases hclosest : c.closest rate with
  | none =>
    intro hne
    simp [ClkgenBest.ofPair] at hne
  | some p =>
    intro _
    obtain ⟨hlegal, -⟩ := legal_closest hparent hclosest
    have hdout := clkgenDout_mem (c.parentRate / 1000) (rate / 1000) p
    obtain ⟨⟨hdmin, hdmax⟩, -⟩ := ClkgenRanges.Bounded.legal_iff.mp hlegal
    have hd : 1 ≤ p.2.toNat := (ClkgenRanges.Bounded.one_le_dMin _ _).trans hdmin
    have hlow := hr.le_fpfdMax
    have hmin := hr.fpfdMin
    rw [hr.toNat_dMin hfin, max_le_iff, ceilDiv_le_iff_le_mul (by omega)] at hdmin
    rw [ClkgenRanges.Bounded.toNat_dMax, le_min_iff, Nat.le_div_iff_mul_le (by omega)] at hdmax
    refine ⟨?_, ?_, hlegal.fvcoMin_le, hlegal.le_fvcoMax, ⟨hd, hdmax.2⟩,
      ⟨hlegal.one_le, hlegal.le_64⟩, hdout⟩
    · rw [le_div_iff₀ (by exact_mod_cast hd)]
      have hle := hdmax.1
      rw [Nat.mul_comm] at hle
      exact_mod_cast hle
    · rw [div_le_iff₀ (by exact_mod_cast hd)]
      exact_mod_cast hdmin.1

theorem clkgen_search_sound_ten : ∃ best, axiClkgenCalcParams clkgenTen 10000000 440000000 = some best ∧
    clkgenTen.ranges.NoOverflow 10000 440000 ∧
    (best.d ≠ 0 ∨ best.m ≠ 0 ∨ best.dout ≠ 0 → best.Sound clkgenTen.ranges 10000) :=
  clkgen_search_sound clkgenTen 440000000 (by decide) (by decide)

lemma exists_pair (hparent : 1000 ≤ c.parentRate) {d m : ℕ}
    (h : c.ranges.Legal (c.parentRate / 1000) d m)
    (hm : (c.ranges.mMin (c.parentRate / 1000)).toNat ≤ m) :
    ∃ p ∈ c.ranges.pairs (c.parentRate / 1000), p.2.toNat = d ∧ p.1.toNat = m := by
  have hmax := h.le_dMax
  have hle := h.le_64
  rw [ClkgenRanges.Bounded.toNat_dMax, le_min_iff] at hmax
  have hd : (UInt32.ofNat d).toNat = d :=
    UInt32.toNat_ofNat_of_lt' (by simp only [UInt32.size]; lia)
  have hm' : (UInt32.ofNat m).toNat = m :=
    UInt32.toNat_ofNat_of_lt' (by simp only [UInt32.size]; omega)
  refine ⟨(UInt32.ofNat m, UInt32.ofNat d), ?_, hd, hm'⟩
  apply (c.bounded_ranges.mem_pairs_iff (kHz_le _) (kHz_pos hparent)).mpr
  simp only [hd, hm']
  exact ⟨h, hm⟩

/-- A choice that is matched is matched by a pair that the loops run through. -/
lemma AxiClkgen.Matched.exists_tried (h : c.Matched (c.parentRate / 1000) (rate / 1000))
    (hparent : 1000 ≤ c.parentRate) {d m dout : ℕ}
    (hlegal : c.ranges.Legal (c.parentRate / 1000) d m) (hdout : 1 ≤ dout) (hdout' : dout ≤ 128) :
    ∃ p ∈ c.ranges.pairs (c.parentRate / 1000), clkgenCost (c.parentRate / 1000) (rate / 1000) p ≤
      miss (rate / 1000).toNat ((c.parentRate / 1000).toNat * m / d) dout := by
  obtain ⟨d', m', hlegal', hm', hle⟩ := h d m dout hlegal hdout hdout'
  obtain ⟨p, hp, rfl, rfl⟩ := exists_pair hparent hlegal' hm'
  exact ⟨p, hp, (clkgenCost_eq c.bounded_ranges (kHz_le _) (kHz_le _) hlegal').trans_le hle⟩

/-- The search is optimal if and only if every choice is matched by a pair of the loops. -/
theorem searchOptimal_iff_matched (c : AxiClkgen) (rate : UInt32) (hparent : 1000 ≤ c.parentRate)
    (hrate : 1000 ≤ rate) :
    c.SearchOptimal rate ↔ c.Matched (c.parentRate / 1000) (rate / 1000) := by
  have hcalc := calcParams_eq hparent hrate
  constructor
  · rintro ⟨best, hbest, hopt⟩ d m dout hlegal hdout hdout'
    obtain rfl := Option.some.inj (hcalc.symm.trans hbest)
    cases hclosest : c.closest rate with
    | none =>
      rw [hclosest] at hopt
      exact absurd hlegal (hopt.zeros rfl rfl rfl d m)
    | some p =>
      rw [hclosest] at hopt
      obtain ⟨hp, hm⟩ := legal_closest hparent hclosest
      have hd : 1 ≤ p.2.toNat := (ClkgenRanges.Bounded.one_le_dMin _ _).trans hp.dMin_le
      have hle := hopt.closest (Word.ne_zero_of_pos hd) d m dout hlegal hdout hdout'
      refine ⟨p.2.toNat, p.1.toNat, hp, hm, ?_⟩
      rw [← toNat_clkgenDout c.bounded_ranges (kHz_le _) (kHz_le _) hp]
      exact hle
  · intro h
    refine ⟨_, hcalc, ?_, ?_⟩
    · intro hne d m dout hlegal hdout hdout'
      obtain ⟨q, hq, hle⟩ := h.exists_tried hparent hlegal hdout hdout'
      cases hclosest : c.closest rate with
      | none =>
        rw [hclosest] at hne
        exact absurd rfl hne
      | some p =>
        obtain ⟨hp, -⟩ := legal_closest hparent hclosest
        have hmin : clkgenCost (c.parentRate / 1000) (rate / 1000) p ≤
            clkgenCost (c.parentRate / 1000) (rate / 1000) q := List.le_of_mem_argmin hq hclosest
        rw [clkgenCost_eq c.bounded_ranges (kHz_le _) (kHz_le _) hp,
          ← toNat_clkgenDout c.bounded_ranges (kHz_le _) (kHz_le _) hp] at hmin
        exact hmin.trans hle
    · intro hd _ _ d m hlegal
      obtain ⟨q, hq, -⟩ := h.exists_tried hparent hlegal le_rfl (by decide)
      cases hclosest : c.closest rate with
      | none =>
        rw [List.argmin_eq_none.mp hclosest] at hq
        exact absurd hq List.not_mem_nil
      | some p =>
        obtain ⟨hp, -⟩ := legal_closest hparent hclosest
        rw [hclosest] at hd
        have hpos : 1 ≤ p.2.toNat := (ClkgenRanges.Bounded.one_le_dMin _ _).trans hp.dMin_le
        exact absurd hd (Word.ne_zero_of_pos hpos)

lemma AxiClkgen.vco_band (c : AxiClkgen) :
    c.ranges.fvcoMin.toNat + c.ranges.fpfdMax.toNat ≤ c.ranges.fvcoMax.toNat := by
  unfold ranges axiClkgenSetupRanges
  dsimp only
  split_ifs <;> decide

/-- The limits under which the loops run through all legal pairs. -/
theorem noneSkipped_iff (c : AxiClkgen) (hparent : 1000 ≤ c.parentRate) :
    c.ranges.NoneSkipped (c.parentRate / 1000) ↔ ∀ d m : ℕ, c.ranges.Legal (c.parentRate / 1000) d m →
      (c.ranges.mMin (c.parentRate / 1000)).toNat ≤ m := by
  have hr := c.bounded_ranges
  have hfin := kHz_le c.parentRate
  have hpos := kHz_pos hparent
  have hmMin := hr.toNat_mMin hfin hpos
  have hone := ClkgenRanges.Bounded.one_le_dMin c.ranges (c.parentRate / 1000)
  constructor
  · intro h d m hlegal
    obtain ⟨⟨hd, hd'⟩, ⟨hm, hm'⟩, hlow, -⟩ := ClkgenRanges.Bounded.legal_iff.mp hlegal
    have hleast : c.ranges.fvcoMin.toNat * (c.ranges.dMin (c.parentRate / 1000)).toNat ⌈/⌉
        (c.parentRate / 1000).toNat ≤ m :=
      (ceilDiv_le_iff_le_mul hpos).mpr ((Nat.mul_le_mul_left _ hd).trans hlow)
    rw [hmMin]
    rcases h with hle | hnone | hnone
    · exact max_le (hle.trans hleast) hm
    · exact absurd (hd.trans hd') (Nat.not_le.mpr hnone)
    · exact absurd (hleast.trans hm') (Nat.not_le.mpr hnone)
  · intro h
    by_contra hskip
    unfold ClkgenRanges.NoneSkipped at hskip
    rw [not_or, not_or, Nat.not_le, Nat.not_lt, Nat.not_lt] at hskip
    obtain ⟨hlt, hd, hm⟩ := hskip
    -- the least multiplier with the least divider is legal, and skipped
    generalize hleast : c.ranges.fvcoMin.toNat * (c.ranges.dMin (c.parentRate / 1000)).toNat ⌈/⌉
      (c.parentRate / 1000).toNat = m at hlt hm
    have hvco := hr.le_fvcoMin
    have hup : c.ranges.fvcoMin.toNat * (c.ranges.dMin (c.parentRate / 1000)).toNat ≤
        (c.parentRate / 1000).toNat * m := (ceilDiv_le_iff_le_mul hpos).mp hleast.le
    have hm1 : 1 ≤ m := by
      by_contra hzero
      obtain rfl : m = 0 := by omega
      have hprod := Nat.mul_pos (by omega : 0 < c.ranges.fvcoMin.toNat) hone
      omega
    have hdown : (c.parentRate / 1000).toNat * (m - 1) <
        c.ranges.fvcoMin.toNat * (c.ranges.dMin (c.parentRate / 1000)).toNat := by
      by_contra hge
      have hpred := (ceilDiv_le_iff_le_mul hpos).mpr (Nat.not_lt.mp hge)
      omega
    have hpfd : (c.parentRate / 1000).toNat ≤
        c.ranges.fpfdMax.toNat * (c.ranges.dMin (c.parentRate / 1000)).toNat := by
      have hlow := hr.le_fpfdMax
      rw [hr.toNat_dMin hfin]
      exact (ceilDiv_le_iff_le_mul (by omega)).mp (le_max_left _ _)
    have hband := Nat.mul_le_mul_right (c.ranges.dMin (c.parentRate / 1000)).toNat c.vco_band
    have hlegal : c.ranges.Legal (c.parentRate / 1000) (c.ranges.dMin (c.parentRate / 1000)).toNat m := by
      refine ClkgenRanges.Bounded.legal_iff.mpr ⟨⟨le_rfl, hd⟩, ⟨hm1, hm⟩, hup, ?_⟩
      obtain ⟨k, rfl⟩ := Nat.exists_eq_add_of_le' hm1
      rw [Nat.add_sub_cancel] at hdown
      lia
    have hfirst := h _ m hlegal
    rw [hmMin] at hfirst
    omega

lemma ClkgenRanges.Legal.vco_le {d m : ℕ} (h : c.ranges.Legal (c.parentRate / 1000) d m) :
    (c.parentRate / 1000).toNat * m / d ≤ c.ranges.fvcoMax.toNat := by
  obtain ⟨-, -, -, hle⟩ := ClkgenRanges.Bounded.legal_iff.mp h
  exact Nat.div_le_of_le_mul (hle.trans_eq (Nat.mul_comm _ _))

/-- The search is optimal if a pair of the loops gives the rate, or if no legal pair is skipped and
either no divider is rounded to the farther side or a pair comes near enough. It is not optimal if
all dividers are rounded to the farther side, nor if only choices outside of the loops give the rate. -/
theorem clkgen_search_optimal (c : AxiClkgen) (rate : UInt32) (hparent : 1000 ≤ c.parentRate)
    (hrate : 1000 ≤ rate) :
    (c.Hits (c.parentRate / 1000) (rate / 1000) ∨ c.ranges.NoneSkipped (c.parentRate / 1000) ∧
        (c.RoundsWell (c.parentRate / 1000) (rate / 1000) ∨ c.ComesNear (c.parentRate / 1000) (rate / 1000)) →
      c.SearchOptimal rate) ∧
    ((∃ d m : ℕ, c.ranges.Legal (c.parentRate / 1000) d m) →
      (∀ d m : ℕ, c.ranges.Legal (c.parentRate / 1000) d m →
        Misrounds 128 (rate / 1000).toNat ((c.parentRate / 1000).toNat * m / d)) → ¬c.SearchOptimal rate) ∧
    ∀ d m dout : ℕ, c.ranges.Legal (c.parentRate / 1000) d m → 1 ≤ dout → dout ≤ 128 →
      (c.parentRate / 1000).toNat * m / d / dout = (rate / 1000).toNat →
      (c.SearchOptimal rate ↔ c.Hits (c.parentRate / 1000) (rate / 1000)) := by
  have hfout := kHz_pos hrate
  have hhits : c.Hits (c.parentRate / 1000) (rate / 1000) → c.SearchOptimal rate := by
    rintro ⟨d', m', hlegal', hm', hexact⟩
    refine (searchOptimal_iff_matched c rate hparent hrate).mpr fun d m dout _ _ _ => ⟨d', m', hlegal', hm', ?_⟩
    rw [miss, hexact, sub_self]
    exact Nat.zero_le _
  refine ⟨?_, ?_, ?_⟩
  · rintro (h | ⟨hskip, hround⟩)
    · exact hhits h
    · refine (searchOptimal_iff_matched c rate hparent hrate).mpr fun d m dout hlegal hdout hdout' => ?_
      have hfirst := (noneSkipped_iff c hparent).mp hskip d m hlegal
      by_cases hbad : Misrounds 128 (rate / 1000).toNat ((c.parentRate / 1000).toNat * m / d)
      · obtain ⟨d', m', hlegal', hm', hnear⟩ := hround.resolve_left fun h => h d m hlegal hbad
        exact ⟨d', m', hlegal', hm', hnear.trans (hbad.le_miss hfout hlegal.vco_le hdout)⟩
      · exact ⟨d, m, hlegal, hfirst, (not_misrounds_iff hfout (by decide)).mp hbad dout hdout hdout'⟩
  · rintro ⟨d, m, hlegal⟩ hbad ⟨best, hbest, hopt⟩
    obtain rfl := Option.some.inj ((calcParams_eq hparent hrate).symm.trans hbest)
    cases hclosest : c.closest rate with
    | none =>
      rw [hclosest] at hopt
      exact hopt.zeros rfl rfl rfl d m hlegal
    | some p =>
      rw [hclosest] at hopt
      obtain ⟨hp, -⟩ := legal_closest hparent hclosest
      have hd : 1 ≤ p.2.toNat := (ClkgenRanges.Bounded.one_le_dMin _ _).trans hp.dMin_le
      refine (not_misrounds_iff hfout (by decide)).mpr (fun k hk hk' => ?_) (hbad _ _ hp)
      have hle := hopt.closest (Word.ne_zero_of_pos hd) _ _ k hp hk hk'
      rwa [ClkgenBest.ofPair, toNat_clkgenDout c.bounded_ranges (kHz_le _) (kHz_le _) hp] at hle
  · intro d m dout hlegal hdout hdout' hexact
    refine ⟨fun h => ?_, hhits⟩
    obtain ⟨d', m', hlegal', hm', hle⟩ :=
      (searchOptimal_iff_matched c rate hparent hrate).mp h d m dout hlegal hdout hdout'
    refine ⟨d', m', hlegal', hm', ?_⟩
    unfold miss at hle
    rw [hexact] at hle
    omega

/-- 60 MHz from 10 MHz is reached exactly. For 500 MHz no divider is rounded to the farther side, and
600 MHz is the best. -/
theorem clkgen_search_optimal_ten :
    clkgenTen.SearchOptimal 60000000 ∧ clkgenTen.SearchOptimal 500000000 := by
  constructor
  · refine (clkgen_search_optimal clkgenTen 60000000 (by decide) (by decide)).1 (Or.inl ⟨1, 60, ?_, by decide, ?_⟩)
    · apply ClkgenRanges.Bounded.legal_iff.mpr
      decide
    · decide
  · refine (clkgen_search_optimal clkgenTen 500000000 (by decide) (by decide)).1
      (Or.inr ⟨Or.inl (by decide), Or.inl ?_⟩)
    intro d m hlegal
    obtain ⟨⟨hd, hd'⟩, ⟨-, hm⟩, hlow, -⟩ := ClkgenRanges.Bounded.legal_iff.mp hlegal
    have hone : d = 1 := Nat.le_antisymm hd' hd
    have hfin : (clkgenTen.parentRate / 1000).toNat = 10000 := by decide
    have hvco : clkgenTen.ranges.fvcoMin.toNat = 600000 := by decide
    rw [hone, hfin, hvco] at hlow
    have hrounds : ∀ m < 65, 60 ≤ m → ¬Misrounds 128 500000 (10000 * m / 1) := by decide
    rw [hone, hfin]
    exact hrounds m (by omega) (by omega)

/-- A reference of 4.2 GHz -/
def clkgenFast : AxiClkgen := { clkgenTen with parentRate := 4218763000 }

/-- From 10 MHz the search returns 600 MHz for 440 MHz, where 640 MHz divided by 2 is closer. From
4.2 GHz it misses the multiplier 13. -/
theorem clkgen_search_not_optimal :
    axiClkgenCalcParams clkgenTen clkgenTen.parentRate 440000000 = some ⟨600000, 1, 60, 1⟩ ∧
      ¬clkgenTen.SearchOptimal 440000000 ∧ ¬clkgenFast.SearchOptimal 428297000 := by
  have hten : axiClkgenCalcParams clkgenTen clkgenTen.parentRate 440000000 =
      some ⟨600000, 1, 60, 1⟩ := by decide +kernel
  have hfast : axiClkgenCalcParams clkgenFast clkgenFast.parentRate 428297000 =
      some ⟨427577, 74, 15, 2⟩ := by decide +kernel
  refine ⟨hten, ?_, ?_⟩
  · rintro ⟨best, hbest, hopt⟩
    obtain rfl := Option.some.inj (hten.symm.trans hbest)
    have hlegal : clkgenTen.ranges.Legal (clkgenTen.parentRate / 1000) 1 64 := by
      apply ClkgenRanges.Bounded.legal_iff.mpr
      decide
    exact absurd (hopt.closest (by decide) 1 64 2 hlegal (by decide) (by decide)) (by decide)
  · rintro ⟨best, hbest, hopt⟩
    obtain rfl := Option.some.inj (hfast.symm.trans hbest)
    have hlegal : clkgenFast.ranges.Legal (clkgenFast.parentRate / 1000) 64 13 := by
      apply ClkgenRanges.Bounded.legal_iff.mpr
      decide
    exact absurd (hopt.closest (by decide) 64 13 2 hlegal (by decide) (by decide)) (by decide)

end NoOS
