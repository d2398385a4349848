import NoOS.Drivers.AxiClkgen
import NoOS.Lib.BitField
import NoOS.Lib.Nearest
import NoOS.Lib.Word

/-!
# The dividers that are read back

The search returns the first pair whose output is closest to the rate. The dividers of the
MMCM are read back, and fit into their fields, as long as the output divider is at most 31:
the second output is programmed with four times as much.
-/

namespace NoOS
open BitField

lemma le_mul_divRoundUp {x y : UInt32} (hy : 0 < y.toNat) (h : x.toNat + y.toNat < 2 ^ 32) :
    x.toNat ≤ y.toNat * (divRoundUp x y).toNat := by
  have hsum : (x + y - 1).toNat = x.toNat + y.toNat - 1 := by
    have hadd := Word.toNat_add_of_lt h
    rw [Word.toNat_sub_of_le (by rw [hadd]; exact Nat.le_add_left_of_le hy), hadd]
    rfl
  rw [divRoundUp, UInt32.toNat_div, hsum]
  have hdiv := Nat.div_add_mod (x.toNat + y.toNat - 1) y.toNat
  have hmod := Nat.mod_lt (x.toNat + y.toNat - 1) hy
  lia

namespace AxiClkgen

variable (c : AxiClkgen)

lemma ranges_fvcoMax : 0 < c.ranges.fvcoMax.toNat ∧ c.ranges.fvcoMax.toNat ≤ 1600000 := by
  have hcases : ∀ v, v = 1200000 ∨ v = 1440000 ∨ v = (1600000 : UInt32) →
      0 < v.toNat ∧ v.toNat ≤ 1600000 := by
    rintro v (rfl | rfl | rfl) <;> decide
  apply hcases
  simp only [ranges, axiClkgenSetupRanges]
  split_ifs <;> simp

end AxiClkgen

/-- A pair that the loops run through. -/
structure InLoops (r : ClkgenRanges) (fin : UInt32) (p : UInt32 × UInt32) : Prop where
  m_pos : 0 < p.1.toNat
  m_le : p.1.toNat ≤ 64
  d_pos : 0 < p.2.toNat
  d_le : p.2.toNat ≤ 80
  dMin_le : (divRoundUp (fin * p.1) r.fvcoMax).toNat ≤ p.2.toNat

lemma inLoops_of_mem {r : ClkgenRanges} {fin : UInt32} {p : UInt32 × UInt32}
    (h : p ∈ r.pairs fin) : InLoops r fin p := by
  obtain ⟨m, hm, hp⟩ := List.mem_flatMap.mp h
  obtain ⟨d, hd, rfl⟩ := List.mem_map.mp hp
  have hm := mem_forRange hm
  have hd := mem_forRange hd
  simp only [ClkgenRanges.mMin, ClkgenRanges.mMax, ClkgenRanges.dMinOf, ClkgenRanges.dMaxOf,
    ClkgenRanges.dMin, ClkgenRanges.dMax, UInt32.toNat_max, UInt32.toNat_min] at hm hd
  have hone : (1 : UInt32).toNat = 1 := rfl
  have h64 : (64 : UInt32).toNat = 64 := rfl
  have h80 : (80 : UInt32).toNat = 80 := rfl
  constructor <;> simp only <;> lia

namespace InLoops

variable {r : ClkgenRanges} {fin fout : UInt32} {p : UInt32 × UInt32}

lemma toNat_mul (h : InLoops r fin p) (hfin : fin.toNat ≤ 4294967) :
    (fin * p.1).toNat = fin.toNat * p.1.toNat := by
  rw [UInt32.toNat_mul, Nat.mod_eq_of_lt]
  calc fin.toNat * p.1.toNat ≤ 4294967 * 64 := Nat.mul_le_mul hfin h.m_le
    _ < 2 ^ 32 := by decide

lemma mul_le (h : InLoops r fin p) (hfin : fin.toNat ≤ 4294967) (hpos : 0 < r.fvcoMax.toNat)
    (hmax : r.fvcoMax.toNat ≤ 1600000) : fin.toNat * p.1.toNat ≤ 1600000 * p.2.toNat := by
  have hmul := h.toNat_mul hfin
  have hbound : fin.toNat * p.1.toNat ≤ 4294967 * 64 := Nat.mul_le_mul hfin h.m_le
  have hup := le_mul_divRoundUp (x := fin * p.1) hpos (by lia)
  rw [hmul] at hup
  calc fin.toNat * p.1.toNat ≤ r.fvcoMax.toNat * (divRoundUp (fin * p.1) r.fvcoMax).toNat := hup
    _ ≤ 1600000 * p.2.toNat := Nat.mul_le_mul hmax h.dMin_le

lemma f_lt (h : InLoops r fin p) (hfin : fin.toNat ≤ 4294967) : clkgenF fin fout p < 2 ^ 30 := by
  have hle : (clkgenFvco fin p / clkgenDout fin fout p).toNat ≤ fin.toNat * p.1.toNat := by
    rw [clkgenFvco, UInt32.toNat_div, UInt32.toNat_div, h.toNat_mul hfin]
    exact (Nat.div_le_self _ _).trans (Nat.div_le_self _ _)
  have hbound : fin.toNat * p.1.toNat ≤ 4294967 * 64 := Nat.mul_le_mul hfin h.m_le
  unfold clkgenF
  lia

end InLoops

lemma clkgenDout_mem (fin fout : UInt32) (p : UInt32 × UInt32) :
    1 ≤ (clkgenDout fin fout p).toNat ∧ (clkgenDout fin fout p).toNat ≤ 128 := by
  have hone : (1 : UInt32).toNat = 1 := rfl
  have h128 : (128 : UInt32).toNat = 128 := rfl
  simp only [clkgenDout, clamp, UInt32.toNat_max, UInt32.toNat_min]
  lia

/-- How far the output of a pair is from the rate, in kHz. -/
def clkgenCost (fin fout : UInt32) (p : UInt32 × UInt32) : ℕ :=
  (clkgenF fin fout p - fout.toNat).natAbs

/-- What the loops store for the pair that they keep. -/
def ClkgenBest.ofPair (fin fout : UInt32) : Option (UInt32 × UInt32) → ClkgenBest
  | none => {}
  | some p => ⟨clkgenF fin fout p, p.2, p.1, clkgenDout fin fout p⟩

lemma clkgenSearch_eq_scan {fin fout : UInt32} (hfout : fout ≠ 0) (hsmall : fout.toNat < 2 ^ 30)
    {l : List (UInt32 × UInt32)} (hl : ∀ p ∈ l, clkgenF fin fout p < 2 ^ 30)
    (best : Option (UInt32 × UInt32)) :
    clkgenSearch fin fout (.ofPair fin fout best) l =
      some (.ofPair fin fout (FirstBest.scan (clkgenCost fin fout) best l)) := by
  induction l generalizing best with
  | nil => cases best <;> rfl
  | cons p l ih =>
    have ih := ih fun q hq => hl q (List.mem_cons_of_mem p hq)
    have hzero : clkgenF fin fout p = fout.toNat ↔ clkgenCost fin fout p = 0 := by
      unfold clkgenCost
      lia
    rw [clkgenSearch, if_neg hfout]
    cases best with
    | none =>
      have hfirst : (clkgenF fin fout p - fout.toNat).natAbs <
          ((ClkgenBest.ofPair fin fout none).f - fout.toNat).natAbs := by
        have hp := hl p List.mem_cons_self
        have hnonneg : 0 ≤ clkgenF fin fout p := Int.natCast_nonneg _
        change _ < ((0x7fffffff : ℤ) - fout.toNat).natAbs
        lia
      rw [if_pos hfirst, FirstBest.scan]
      simp only [hzero]
      split
      · rfl
      · exact ih (some p)
    | some b =>
      rw [FirstBest.scan]
      change (if clkgenCost fin fout p < clkgenCost fin fout b then _ else _) = _
      split
      · simp only [hzero]
        split
        · rfl
        · exact ih (some p)
      · exact ih (some b)

variable {c : AxiClkgen} {rate : UInt32}

/-- The first pair that gets closest to the rate. -/
def AxiClkgen.closest (c : AxiClkgen) (rate : UInt32) : Option (UInt32 × UInt32) :=
  (c.ranges.pairs (c.parentRate / 1000)).argmin
    (clkgenCost (c.parentRate / 1000) (rate / 1000))

lemma toNat_kHz (x : UInt32) : (x / 1000).toNat = x.toNat / 1000 := UInt32.toNat_div ..

lemma kHz_eq_zero {x : UInt32} : x / 1000 = 0 ↔ x < 1000 := by
  rw [← UInt32.toNat_inj, toNat_kHz, UInt32.lt_iff_toNat_lt]
  change _ = 0 ↔ x.toNat < 1000
  lia

lemma calcParams_eq (hp : 1000 ≤ c.parentRate) (hr : 1000 ≤ rate) :
    axiClkgenCalcParams c c.parentRate rate =
      some (.ofPair (c.parentRate / 1000) (rate / 1000) (c.closest rate)) := by
  have hfin : (c.parentRate / 1000).toNat ≤ 4294967 := by
    have hlt := c.parentRate.toNat_lt
    rw [toNat_kHz]
    lia
  have hfout : (rate / 1000).toNat < 2 ^ 30 := by
    have hlt := rate.toNat_lt
    rw [toNat_kHz]
    lia
  have hne : c.parentRate / 1000 ≠ 0 := fun h => UInt32.not_lt.mpr hp (kHz_eq_zero.mp h)
  have hne' : rate / 1000 ≠ 0 := fun h => UInt32.not_lt.mpr hr (kHz_eq_zero.mp h)
  have hsearch := clkgenSearch_eq_scan hne' hfout
    (fun p h => (inLoops_of_mem h).f_lt hfin) (l := c.ranges.pairs (c.parentRate / 1000)) none
  rw [FirstBest.scan_eq_argmin] at hsearch
  simp only [axiClkgenCalcParams, if_neg hne]
  exact hsearch

/-- Under the mask the register holds the counts of the divider, six bits each, below the
flags `upper`. -/
structure HoldsCounts (reg mask : UInt32) (upper divider : ℕ) : Prop where
  high_lt : divider / 2 < 64
  low_lt : divider - divider / 2 < 64
  value : (reg &&& mask).toNat = upper * 4096 + (divider / 2 * 64 + (divider - divider / 2))

namespace AxiClkgen

variable {reg reg' val mask : UInt32}

lemma mmcmWrite_self (h : mask ≠ 0xffff) :
    (c.mmcmWrite reg val mask).mmcm reg = masked (c.mmcmRead reg) val mask := by
  simp only [mmcmWrite, if_pos h, Function.update_self, masked]

lemma mmcmWrite_of_ne (h : reg' ≠ reg) : (c.mmcmWrite reg val mask).mmcm reg' = c.mmcm reg' := by
  simp only [mmcmWrite, Function.update_of_ne h]

lemma mmcmRead_of_ne (h : reg' ≠ reg) : (c.mmcmWrite reg val mask).mmcmRead reg' = c.mmcmRead reg' := by
  simp only [mmcmRead, mmcmWrite_of_ne h]

lemma mmcmWrite_parentRate : (c.mmcmWrite reg val mask).parentRate = c.parentRate := rfl

lemma mmcmEnable_parentRate (enable : Bool) : (c.mmcmEnable enable).parentRate = c.parentRate := rfl

@[simp] lemma mmcmEnable_mmcm (enable : Bool) : (c.mmcmEnable enable).mmcm = c.mmcm := rfl

@[simp] lemma mmcmEnable_read (enable : Bool) : (c.mmcmEnable enable).mmcmRead reg = c.mmcmRead reg := rfl

variable (c) (d m dout : UInt32)

lemma program_mmcm : ∃ old0 old1 oldD oldM : UInt32,
    (c.program d m dout).mmcm MMCM_REG_CLKOUT0_1 =
        masked old0 (axiClkgenCalcClkParams dout).counts 0xefff ∧
      (c.program d m dout).mmcm MMCM_REG_CLKOUT1_1 =
        masked old1 (axiClkgenCalcClkParams (dout * 4)).counts 0xefff ∧
      (c.program d m dout).mmcm MMCM_REG_CLK_DIV =
        masked oldD (axiClkgenCalcClkParams d).divClk 0x3fff ∧
      (c.program d m dout).mmcm MMCM_REG_CLK_FB1 =
        masked oldM (axiClkgenCalcClkParams m).counts 0xefff := by
  refine ⟨c.mmcmRead MMCM_REG_CLKOUT0_1, c.mmcmRead MMCM_REG_CLKOUT1_1,
    c.mmcmRead MMCM_REG_CLK_DIV, c.mmcmRead MMCM_REG_CLK_FB1, ?_, ?_, ?_, ?_⟩ <;>
  simp (disch := decide) only [program, mmcmEnable_mmcm, mmcmWrite_of_ne, mmcmWrite_self,
    mmcmRead_of_ne, mmcmEnable_read]

end AxiClkgen

section Counts

variable {divider old : UInt32}

lemma calc_high : (axiClkgenCalcClkParams divider).high.toNat = divider.toNat / 2 :=
  UInt32.toNat_div ..

lemma calc_low :
    (axiClkgenCalcClkParams divider).low.toNat = divider.toNat - divider.toNat / 2 := by
  have hhalf : (divider / 2).toNat = divider.toNat / 2 := UInt32.toNat_div ..
  rw [axiClkgenCalcClkParams, Word.toNat_sub_of_le (by rw [hhalf]; lia), hhalf]

lemma calc_edge : (axiClkgenCalcClkParams divider).edge.toNat = divider.toNat % 2 :=
  UInt32.toNat_mod ..

lemma calc_nocount :
    (axiClkgenCalcClkParams divider).nocount.toNat = if divider = 1 then 1 else 0 := by
  rw [axiClkgenCalcClkParams]
  split <;> rfl

lemma counts_toNat (h : divider.toNat ≤ 126) : (axiClkgenCalcClkParams divider).counts.toNat =
    divider.toNat / 2 * 64 + (divider.toNat - divider.toNat / 2) := by
  have hor := toNat_or_shiftLeft 6 (axiClkgenCalcClkParams divider).low
    (axiClkgenCalcClkParams divider).high (by decide)
    (by rw [calc_low]; lia) (by rw [calc_high]; lia)
  rw [calc_high, calc_low] at hor
  exact hor

lemma and_eq_of_lt {x mask : UInt32} {k : ℕ} (hmask : UInt32.ofNat (2 ^ k - 1) &&& mask =
    UInt32.ofNat (2 ^ k - 1)) (hk : k ≤ 32) (hx : x.toNat < 2 ^ k) : x &&& mask = x := by
  have hself : x &&& UInt32.ofNat (2 ^ k - 1) = x := by
    have hle : 2 ^ k ≤ 2 ^ 32 := Nat.pow_le_pow_right (by decide) hk
    have hpos := Nat.two_pow_pos k
    apply UInt32.toNat_inj.mp
    rw [UInt32.toNat_and, UInt32.toNat_ofNat_of_lt' (by simp only [UInt32.size]; lia),
      Nat.and_two_pow_sub_one_eq_mod, Nat.mod_eq_of_lt hx]
  calc x &&& mask = (x &&& UInt32.ofNat (2 ^ k - 1)) &&& mask := by rw [hself]
    _ = x := by rw [UInt32.and_assoc, hmask, hself]

lemma holdsCounts_counts (old : UInt32) (h : divider.toNat ≤ 126) :
    HoldsCounts (masked old (axiClkgenCalcClkParams divider).counts 0xefff) 0xefff 0
      divider.toNat where
  high_lt := by lia
  low_lt := by lia
  value := by
    have hval := counts_toNat h
    rw [masked_and (by decide), and_eq_of_lt (k := 12) (by decide) (by decide) (by lia), hval]
    lia

lemma holdsCounts_divClk (old : UInt32) (h : divider.toNat ≤ 126) :
    HoldsCounts (masked old (axiClkgenCalcClkParams divider).divClk 0x3fff) 0x3fff
      (divider.toNat % 2 * 2 + if divider = 1 then 1 else 0) divider.toNat where
  high_lt := by lia
  low_lt := by lia
  value := by
    have hcounts := counts_toNat h
    have hflag : (if divider = 1 then 1 else 0) ≤ 1 := by split <;> decide
    have hflag' := @calc_nocount divider
    have hnocount := toNat_or_shiftLeft 12 (axiClkgenCalcClkParams divider).counts
      (axiClkgenCalcClkParams divider).nocount (by decide) (by lia) (by lia)
    have hedge := toNat_or_shiftLeft 13
      (((axiClkgenCalcClkParams divider).nocount <<< UInt32.ofNat 12) |||
        (axiClkgenCalcClkParams divider).counts)
      (axiClkgenCalcClkParams divider).edge (by decide) (by lia)
      (by rw [calc_edge]; lia)
    rw [hnocount, calc_edge, hflag', hcounts] at hedge
    have hor : (axiClkgenCalcClkParams divider).divClk =
        ((axiClkgenCalcClkParams divider).edge <<< UInt32.ofNat 13) |||
          (((axiClkgenCalcClkParams divider).nocount <<< UInt32.ofNat 12) |||
            (axiClkgenCalcClkParams divider).counts) := by
      simp only [ClkParams.divClk, ClkParams.counts, UInt32.or_assoc]
      rfl
    rw [masked_and (by decide), and_eq_of_lt (k := 14) (by decide) (by decide)
      (by rw [hor, hedge]; lia), hor, hedge]
    lia

lemma HoldsCounts.mmcmCounts {reg mask : UInt32} {upper n : ℕ} (h : HoldsCounts reg mask upper n)
    (hmask : mask &&& 0xfff = 0xfff) : (mmcmCounts (reg &&& 0xffff)).toNat = n := by
  have hhigh := h.high_lt
  have hlow := h.low_lt
  have hmod : (reg &&& 0xffff).toNat % (64 * 64) = n / 2 * 64 + (n - n / 2) := by
    have hfield : (reg &&& 0xffff) &&& 0xfff = (reg &&& mask) &&& 0xfff := by
      rw [UInt32.and_assoc, UInt32.and_assoc, hmask]
      rfl
    have hand : ∀ x : UInt32, (x &&& 0xfff).toNat = x.toNat % (64 * 64) := fun x =>
      Nat.and_two_pow_sub_one_eq_mod x.toNat 12
    rw [← hand, hfield, hand, h.value]
    omega
  have h6 : ∀ x : UInt32, (x &&& 0x3f).toNat = x.toNat % 64 := fun x =>
    Nat.and_two_pow_sub_one_eq_mod x.toNat 6
  have hshift : ((reg &&& 0xffff) >>> 6).toNat = (reg &&& 0xffff).toNat / 64 := by
    rw [UInt32.toNat_shiftRight]
    exact Nat.shiftRight_eq_div_pow _ 6
  have hupper : (reg &&& 0xffff).toNat / 64 % 64 = n / 2 := by
    have hswap := Nat.mod_mul_right_div_self (reg &&& 0xffff).toNat 64 64
    rw [← hswap, hmod]
    lia
  simp only [NoOS.mmcmCounts]
  rw [UInt32.toNat_add, h6, h6, hshift, hupper]
  lia

end Counts

/-- What reading back the dividers `best` gives, from the core `c'` that they were programmed
in. -/
structure ReadBack (c c' : AxiClkgen) (best : ClkgenBest) : Prop where
  dividers : c'.dividers = (best.d, best.m, best.dout)
  ret : (axiClkgenGetRate c').1 = SUCCESS
  rate : (axiClkgenGetRate c').2.toNat =
    c.parentRate.toNat / best.d.toNat * best.m.toNat / best.dout.toNat
  clkout0 : HoldsCounts (c'.mmcm MMCM_REG_CLKOUT0_1) 0xefff 0 best.dout.toNat
  clkout1 : HoldsCounts (c'.mmcm MMCM_REG_CLKOUT1_1) 0xefff 0 (best.dout.toNat * 4)
  divClk : HoldsCounts (c'.mmcm MMCM_REG_CLK_DIV) 0x3fff
    (best.d.toNat % 2 * 2 + if best.d = 1 then 1 else 0) best.d.toNat
  clkFb : HoldsCounts (c'.mmcm MMCM_REG_CLK_FB1) 0xefff 0 best.m.toNat

/-- The rate is set without a division by zero, and dividers that are programmed are read
back. -/
def AxiClkgen.ReadsBack (c : AxiClkgen) (rate : UInt32) : Prop :=
  ∃ r, axiClkgenSetRate c rate = some r ∧
    ∀ best, axiClkgenCalcParams c c.parentRate rate = some best →
      best.d ≠ 0 → best.m ≠ 0 → best.dout ≠ 0 → ReadBack c r.2 best

lemma rate_lt {p d m f : ℕ} (dout : ℕ) (hd : 0 < d) (hm : m ≤ 64) (hp : p / 1000 = f)
    (h : f * m ≤ 1600000 * d) : p / d * m / dout < 2 ^ 32 := by
  have hparent : p ≤ 1000 * f + 999 := by lia
  have hdiv : p / d * d ≤ p := Nat.div_mul_le_self p d
  have hsmall : p / d * m ≤ 1600063936 := by
    refine Nat.le_of_mul_le_mul_right ?_ hd
    calc p / d * m * d = p / d * d * m := Nat.mul_right_comm ..
      _ ≤ (1000 * f + 999) * m := Nat.mul_le_mul_right m (hdiv.trans hparent)
      _ = 1000 * (f * m) + 999 * m := by rw [Nat.add_mul, Nat.mul_assoc]
      _ ≤ 1000 * (1600000 * d) + 999 * 64 := by lia
      _ ≤ 1600063936 * d := by lia
  exact (Nat.div_le_self _ _).trans_lt (by lia)

variable {d m dout : UInt32}

lemma getRate_of_dividers (h : c.dividers = (d, m, dout)) (hd : 0 < d.toNat)
    (hdout : 0 < dout.toNat) : axiClkgenGetRate c =
      (SUCCESS, UInt32.ofNat ((c.parentRate / d).toNat * m.toNat / dout.toNat)) := by
  have hne : ¬(d = 0 ∨ dout = 0) :=
    not_or.mpr ⟨Word.ne_zero_of_pos hd, Word.ne_zero_of_pos hdout⟩
  simp only [axiClkgenGetRate, h, if_neg hne]

lemma AxiClkgen.program_parentRate : (c.program d m dout).parentRate = c.parentRate := by
  simp only [program, mmcmEnable_parentRate, mmcmWrite_parentRate]

lemma readBack_program {f : ℤ} (hd : 0 < d.toNat) (hd' : d.toNat ≤ 80) (hm : m.toNat ≤ 64)
    (hdout : 0 < dout.toNat) (hdout' : dout.toNat ≤ 31)
    (hvco : c.parentRate.toNat / 1000 * m.toNat ≤ 1600000 * d.toNat) :
    ReadBack c (c.program d m dout) ⟨f, d, m, dout⟩ := by
  obtain ⟨old0, old1, oldD, oldM, h0, h1, hdiv, hfb⟩ := c.program_mmcm d m dout
  have hmul : (dout * 4).toNat = dout.toNat * 4 := by
    rw [UInt32.toNat_mul]
    exact Nat.mod_eq_of_lt (by change dout.toNat * 4 < _; lia)
  have hclkout0 : HoldsCounts _ 0xefff 0 dout.toNat := holdsCounts_counts old0 (by lia)
  have hclkout1 : HoldsCounts _ 0xefff 0 (dout * 4).toNat :=
    holdsCounts_counts old1 (by lia)
  have hclkDiv : HoldsCounts _ 0x3fff _ d.toNat := holdsCounts_divClk oldD (by lia)
  have hclkFb : HoldsCounts _ 0xefff 0 m.toNat := holdsCounts_counts oldM (by omega)
  rw [← h0] at hclkout0
  rw [← h1, hmul] at hclkout1
  rw [← hdiv] at hclkDiv
  rw [← hfb] at hclkFb
  have hdividers : (c.program d m dout).dividers = (d, m, dout) := by
    simp only [AxiClkgen.dividers, AxiClkgen.mmcmRead, Prod.mk.injEq, ← UInt32.toNat_inj]
    exact ⟨hclkDiv.mmcmCounts rfl, hclkFb.mmcmCounts rfl, hclkout0.mmcmCounts rfl⟩
  have hrate := getRate_of_dividers hdividers hd hdout
  rw [AxiClkgen.program_parentRate] at hrate
  refine ⟨hdividers, by rw [hrate], ?_, hclkout0, hclkout1, hclkDiv, hclkFb⟩
  have hlt := rate_lt dout.toNat hd hm rfl hvco
  rw [hrate, UInt32.toNat_ofNat_of_lt', UInt32.toNat_div]
  rw [UInt32.toNat_div]
  exact hlt

section Runs

variable (hp : c.parentRate ≠ 0) (hr : rate ≠ 0)
include hp hr

lemma readsBack_of_lt (h : ¬(1000 ≤ c.parentRate ∧ 1000 ≤ rate)) :
    c.ReadsBack rate ↔ 1000 ≤ c.parentRate ∧ c.ranges.pairs (c.parentRate / 1000) = [] := by
  have hset : axiClkgenSetRate c rate = _ := if_neg (not_or.mpr ⟨hp, hr⟩)
  by_cases hparent : 1000 ≤ c.parentRate
  · have hrate : rate / 1000 = 0 :=
      kHz_eq_zero.mpr (UInt32.not_le.mp fun hle => h ⟨hparent, hle⟩)
    have hfin : c.parentRate / 1000 ≠ 0 := fun h0 =>
      UInt32.not_lt.mpr hparent (kHz_eq_zero.mp h0)
    have hcalc : axiClkgenCalcParams c c.parentRate rate =
        clkgenSearch (c.parentRate / 1000) 0 {} (c.ranges.pairs (c.parentRate / 1000)) := by
      simp only [axiClkgenCalcParams, if_neg hfin, hrate]
    rw [AxiClkgen.ReadsBack, hset, hcalc]
    cases c.ranges.pairs (c.parentRate / 1000) with
    | nil =>
      refine iff_of_true ⟨_, rfl, ?_⟩ ⟨hparent, rfl⟩
      intro best hbest hd
      obtain rfl := Option.some.inj hbest
      exact absurd rfl hd
    | cons p l =>
      refine iff_of_false ?_ fun h => by cases h.2
      rintro ⟨r, hr, -⟩
      cases hr
  · have hfin : c.parentRate / 1000 = 0 := kHz_eq_zero.mpr (UInt32.not_le.mp hparent)
    have hcalc : axiClkgenCalcParams c c.parentRate rate = none := if_pos hfin
    rw [AxiClkgen.ReadsBack, hset, hcalc]
    refine iff_of_false ?_ fun h => hparent h.1
    rintro ⟨r, hr, -⟩
    cases hr

lemma readsBack_of_le (hparent : 1000 ≤ c.parentRate) (hrate : 1000 ≤ rate) :
    c.ReadsBack rate ↔
      ∀ p ∈ c.closest rate, clkgenDout (c.parentRate / 1000) (rate / 1000) p ≤ 31 := by
  have hset : axiClkgenSetRate c rate = _ := if_neg (not_or.mpr ⟨hp, hr⟩)
  rw [AxiClkgen.ReadsBack, hset, calcParams_eq hparent hrate]
  cases hclosest : c.closest rate with
  | none =>
    refine iff_of_true ⟨_, rfl, ?_⟩ fun p hp => by cases hp
    intro best hbest hd
    obtain rfl := Option.some.inj hbest
    exact absurd rfl hd
  | some p =>
    have hin := inLoops_of_mem (List.argmin_mem hclosest)
    have hfin : (c.parentRate / 1000).toNat ≤ 4294967 := by
      have hlt := c.parentRate.toNat_lt
      rw [toNat_kHz]
      lia
    obtain ⟨hvpos, hvmax⟩ := c.ranges_fvcoMax
    have hvco := hin.mul_le hfin hvpos hvmax
    rw [toNat_kHz] at hvco
    obtain ⟨hdout, hdout'⟩ := clkgenDout_mem (c.parentRate / 1000) (rate / 1000) p
    generalize hq : clkgenDout (c.parentRate / 1000) (rate / 1000) p = dout at hdout hdout'
    have hd0 := Word.ne_zero_of_pos hin.d_pos
    have hm0 := Word.ne_zero_of_pos hin.m_pos
    have hdout0 := Word.ne_zero_of_pos hdout
    have hprog : ¬(p.2 = 0 ∨ dout = 0 ∨ p.1 = 0) := by
      rintro (h | h | h)
      · exact hd0 h
      · exact hdout0 h
      · exact hm0 h
    constructor
    · rintro ⟨r, hr, hall⟩ q hq'
      obtain rfl : p = q := Option.some.inj hq'
      have hback := hall _ rfl hd0 hm0 (by simpa only [ClkgenBest.ofPair, hq] using hdout0)
      have hlow := hback.clkout1.low_lt
      simp only [ClkgenBest.ofPair, hq] at hlow
      rw [hq, UInt32.le_iff_toNat_le]
      change dout.toNat ≤ 31
      lia
    · intro hall
      have hle := UInt32.le_iff_toNat_le.mp (hall p rfl)
      rw [hq] at hle
      refine ⟨_, rfl, ?_⟩
      intro best hbest _ _ _
      obtain rfl := Option.some.inj hbest
      simp only [ClkgenBest.ofPair, hq, if_neg hprog]
      exact readBack_program hin.d_pos hin.d_le hin.m_le hdout hle hvco

end Runs

/-- The dividers are read back if and only if the reference has at least 1 kHz, and either no
pair of dividers is allowed, or the rate has at least 1 kHz too and the first pair that gets
closest to it needs an output divider of at most 31. -/
theorem clkgen_reads_back_iff (c : AxiClkgen) (rate : UInt32) (hp : c.parentRate ≠ 0)
    (hr : rate ≠ 0) : c.ReadsBack rate ↔
      1000 ≤ c.parentRate ∧ (c.ranges.pairs (c.parentRate / 1000) = [] ∨ (1000 ≤ rate ∧
        ∀ p ∈ c.closest rate, clkgenDout (c.parentRate / 1000) (rate / 1000) p ≤ 31)) := by
  by_cases hboth : 1000 ≤ c.parentRate ∧ 1000 ≤ rate
  · rw [readsBack_of_le hp hr hboth.1 hboth.2]
    simp only [hboth, true_and]
    constructor
    · exact Or.inr
    · rintro (hnil | hall)
      · rw [AxiClkgen.closest, hnil]
        intro p hp
        cases hp
      · exact hall
  · rw [readsBack_of_lt hp hr hboth]
    constructor
    · exact fun h => ⟨h.1, Or.inl h.2⟩
    · rintro ⟨hparent, hnil | ⟨hrate, -⟩⟩
      · exact ⟨hparent, hnil⟩
      · exact absurd ⟨hparent, hrate⟩ hboth

/-- A locked clock generator with a reference of 10 MHz. -/
def clkgenTen : AxiClkgen where
  parentRate := 10000000
  version := 0
  fpgaInfo := 0
  fpgaVoltage := 0
  status := AXI_CLKGEN_STATUS
  resetn := 0
  mmcm := fun _ => 0

theorem clkgen_reads_back_sixty : clkgenTen.ReadsBack 60000000 := by
  have hclosest : clkgenTen.closest 60000000 = some (60, 1) := by decide +kernel
  refine (clkgen_reads_back_iff clkgenTen 60000000 (by decide) (by decide)).mpr
    ⟨by decide, Or.inr ⟨by decide, fun p hp => ?_⟩⟩
  rw [hclosest] at hp
  obtain rfl := Option.some.inj hp
  decide +kernel

/-- Below 1 kHz the driver divides by zero. An output divider of 128 is read back as 1, so that
the generator seems to run at 600 MHz instead of 4.6875 MHz. -/
theorem clkgen_reads_back_not :
    axiClkgenSetRate clkgenTen 999 = none ∧
      (axiClkgenSetRate clkgenTen 4687500).map (fun r => (r.2.dividers, axiClkgenGetRate r.2)) =
        some ((1, 60, 1), SUCCESS, 600000000) ∧
      ¬clkgenTen.ReadsBack 999 ∧ ¬clkgenTen.ReadsBack 4687500 := by
  have hzero : axiClkgenSetRate clkgenTen 999 = none := by decide +kernel
  have hcalc : axiClkgenCalcParams clkgenTen clkgenTen.parentRate 4687500 =
      some ⟨4687, 1, 60, 128⟩ := by decide +kernel
  refine ⟨hzero, by decide +kernel, ?_, ?_⟩
  · rintro ⟨r, hr, -⟩
    rw [hzero] at hr
    cases hr
  · rintro ⟨r, -, hall⟩
    have hback := hall _ hcalc (by decide) (by decide) (by decide)
    exact absurd hback.clkout1.low_lt (by decide)

end NoOS
