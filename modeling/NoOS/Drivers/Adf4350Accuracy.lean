import Mathlib.Data.Nat.Cast.Field
import Mathlib.Data.Rat.Floor
import Mathlib.Tactic.FieldSimp
import NoOS.Drivers.Adf4350SetFreq
import NoOS.Lib.PackedWord

/-!
# How near `adf4350_set_freq` comes

The frequency of the VCO is a number of steps, the PFD frequency over the modulus. The steps are those below the
frequency, as only 1 is added to the product before the division, and not half of the divisor. The integer is cut off
by its field of 16 bits.
-/

namespace NoOS
open PackedWord

namespace Adf4350Dev

local instance neZeroAccuracyRegs : NeZero 6 := ⟨by decide⟩

/-- The integer that register 0 receives -/
def regInt (dev : Adf4350Dev) : ℕ := (unpack 15 16 (dev.regs 0)).toNat

def regFract (dev : Adf4350Dev) : ℕ := (unpack 3 12 (dev.regs 0)).toNat

def regMod (dev : Adf4350Dev) : ℕ := (unpack 3 12 (dev.regs 1)).toNat

/-- The frequency of the VCO that is programmed. -/
def vco (dev : Adf4350Dev) : ℚ := dev.fpfd.toNat * (dev.regInt + dev.regFract / dev.regMod)

/-- The VCO is at the nearest step, the fraction was reduced, and the output is the VCO divided, rounded down. -/
structure IsAccurate (freq : ℕ) (found : Adf4350Dev) (r : Adf4350Result) : Prop where
  nearest : |r.dev.vco - freq * 2 ^ r.dev.r4RfDivSel.toNat| ≤ r.dev.fpfd.toNat / (2 * found.r1Mod.toNat)
  reduced : (r.dev.regFract / r.dev.regMod : ℚ) = found.r0Fract.toNat / found.r1Mod.toNat
  floor : r.ret = ⌊r.dev.vco / 2 ^ r.dev.r4RfDivSel.toNat⌋

/-- The frequency is no more than half of a step above one, or just below one, and the integer fits into its field. -/
def AccurateFor (dev : Adf4350Dev) (freq : UInt64) : Prop :=
  (2 * (vcoFreq freq.toNat * dev.freqMod freq % dev.freqPfd freq) ≤ dev.freqPfd freq ∨
    vcoFreq freq.toNat * dev.freqMod freq % dev.freqPfd freq + 1 = dev.freqPfd freq) ∧
  dev.freqSteps freq / dev.freqMod freq < 2 ^ 16

instance (dev : Adf4350Dev) (freq : UInt64) : Decidable (dev.AccurateFor freq) := inferInstanceAs (Decidable (_ ∧ _))

variable {dev : Adf4350Dev} {freq : UInt64} {x p m n i f F k : ℕ}

/-- The steps are the nearest ones in the lower half of a step and at its end. -/
lemma near_iff (hp : 0 < p) : 2 * |((p * ((x + if 1 < p then 1 else 0) / p) : ℕ) : ℤ) - x| ≤ p ↔
    2 * (x % p) ≤ p ∨ x % p + 1 = p := by
  have hsplit := Nat.div_add_mod x p
  have hlt := Nat.mod_lt x hp
  by_cases hone : 1 < p
  · rw [if_pos hone]
    by_cases hlast : x % p + 1 = p
    · have hquot : (x + 1) / p = x / p + 1 := by
        rw [Nat.div_eq_of_lt_le]
        · rw [Nat.add_mul, Nat.one_mul, Nat.mul_comm]
          lia
        · rw [Nat.succ_mul, Nat.add_mul, Nat.one_mul, Nat.mul_comm]
          lia
      rw [hquot, Nat.mul_add, Nat.mul_one, Int.abs_eq_natAbs]
      lia
    · have hquot : (x + 1) / p = x / p := by
        rw [Nat.div_eq_of_lt_le]
        · rw [Nat.mul_comm]
          lia
        · rw [Nat.succ_mul, Nat.mul_comm]
          lia
      rw [hquot, Int.abs_eq_natAbs]
      lia
  · obtain rfl : p = 1 := by lia
    rw [if_neg hone, Nat.add_zero, Nat.div_one, Nat.one_mul, Int.abs_eq_natAbs]
    lia

lemma abs_steps_le_iff (hm : 0 < m) :
    |(p * (i + f / m) : ℚ) - F| ≤ p / (2 * m) ↔ 2 * |((p * (i * m + f) : ℕ) : ℤ) - (F * m : ℕ)| ≤ p := by
  have hpos : (0 : ℚ) < m := Nat.cast_pos.mpr hm
  have hdist : (p * (i + f / m) : ℚ) - F = ((((p * (i * m + f) : ℕ) : ℤ) - (F * m : ℕ) : ℤ) : ℚ) / m := by
    push_cast
    field_simp
  rw [hdist, abs_div, abs_of_pos hpos, div_le_div_iff₀ hpos (by positivity), ← Int.cast_abs]
  generalize |((p * (i * m + f) : ℕ) : ℤ) - (F * m : ℕ)| = z
  have hscale : (z : ℚ) * (2 * m) = (2 * z : ℤ) * m := by
    push_cast
    ring
  rw [hscale, mul_le_mul_iff_left₀ hpos]
  exact_mod_cast Iff.rfl

lemma floor_steps (hm : 0 < m) : ⌊(p * (i + f / m) : ℚ) / 2 ^ k⌋ = ((i * m + f) * p / (m * 2 ^ k) : ℕ) := by
  have hpos : (m : ℚ) ≠ 0 := Nat.cast_ne_zero.mpr hm.ne'
  have hquot : (p * (i + f / m) : ℚ) / 2 ^ k = (((i * m + f) * p : ℕ) : ℚ) / ((m * 2 ^ k : ℕ) : ℚ) := by
    push_cast
    field_simp
  rw [hquot, Rat.floor_natCast_div_natCast]
  rfl

variable {fuel : ℕ} {rets : Fin 6 → Int} {chip : Adf4350Chip} {r : Adf4350Result}

lemma reduceFract_ratio {d : Adf4350Dev} (hmod : 0 < d.r1Mod.toNat) :
    (d.reduceFract.r0Fract.toNat / d.reduceFract.r1Mod.toNat : ℚ) = d.r0Fract.toNat / d.r1Mod.toNat := by
  obtain ⟨hred, hredf⟩ := reduceFract_toNat hmod
  have hgcd : (Nat.gcd d.r1Mod.toNat d.r0Fract.toNat : ℚ) ≠ 0 :=
    Nat.cast_ne_zero.mpr (Nat.gcd_pos_of_pos_left _ hmod).ne'
  rw [hred, hredf, Nat.cast_div (Nat.gcd_dvd_left _ _) hgcd, Nat.cast_div (Nat.gcd_dvd_right _ _) hgcd,
    div_div_div_cancel_right₀ hgcd]

lemma regs_toNat {d : Adf4350Dev} {high : Bool} {rCnt : UInt16}
    (hregs : d.regs = d.freqRegs (if high then ADF4350_REG1_PRESCALER else 0) rCnt) :
    d.regInt = d.r0Int.toNat % 2 ^ 16 ∧ d.regFract = d.r0Fract.toNat % 2 ^ 12 ∧ d.regMod = d.r1Mod.toNat % 2 ^ 12 := by
  have hzero : d.regs 0 = pack [⟨15, 16, d.r0Int &&& UInt32.ofNat (2 ^ 16 - 1)⟩,
      ⟨3, 12, d.r0Fract &&& UInt32.ofNat (2 ^ 12 - 1)⟩] := by
    rw [hregs, pack, pack, pack, UInt32.or_zero]
    rfl
  have hone : d.regs 1 = pack [⟨15, 12, 1⟩, ⟨3, 12, d.r1Mod &&& UInt32.ofNat (2 ^ 12 - 1)⟩,
      ⟨27, 1, if high then 1 else 0⟩] := by
    rw [hregs, pack, pack, pack, pack, UInt32.or_zero, ← UInt32.or_assoc]
    cases high <;> rfl
  have hfits : ∀ f ∈ [(⟨15, 16, d.r0Int &&& UInt32.ofNat (2 ^ 16 - 1)⟩ : Slot),
      ⟨3, 12, d.r0Fract &&& UInt32.ofNat (2 ^ 12 - 1)⟩], f.Fits := by
    simp only [List.forall_mem_cons, List.not_mem_nil, false_implies, implies_true, and_true]
    exact ⟨fits_masked _ (by decide) (by decide) (by decide), fits_masked _ (by decide) (by decide) (by decide)⟩
  refine ⟨?_, ?_, ?_⟩
  · rw [regInt, hzero]
    exact toNat_unpack_pack hfits (by simp [Apart]) (by decide) (List.mem_cons_self ..)
  · rw [regFract, hzero]
    exact toNat_unpack_pack hfits (by simp [Apart]) (by decide) (List.mem_cons_of_mem _ (List.mem_cons_self ..))
  · rw [regMod, hone]
    refine toNat_unpack_pack ?_ (by simp [Apart]) (by decide) (List.mem_cons_of_mem _ (List.mem_cons_self ..))
    simp only [List.forall_mem_cons, List.not_mem_nil, false_implies, implies_true, and_true]
    refine ⟨⟨by decide, by decide, by decide, by decide⟩, fits_masked _ (by decide) (by decide) (by decide), ?_,
      (by decide : 1 < 32), (by decide : 27 + 1 ≤ 32), (by decide : 27 < 32)⟩
    cases high <;> decide

lemma near_cut_iff (hp : 0 < p) (hm : 0 < m) (hn : n = (x + if 1 < p then 1 else 0) / p) :
    2 * |((p * (n / m % 2 ^ 16 * m + n % m) : ℕ) : ℤ) - x| ≤ p ↔
      (2 * (x % p) ≤ p ∨ x % p + 1 = p) ∧ n / m < 2 ^ 16 := by
  rw [← near_iff hp, ← hn]
  by_cases hfit : n / m < 2 ^ 16
  · rw [Nat.mod_eq_of_lt hfit, Nat.div_add_mod']
    exact (and_iff_left hfit).symm
  · refine iff_of_false (fun hnear => ?_) fun h => hfit h.2
    have hcut : 2 ^ 16 + n / m % 2 ^ 16 ≤ n / m := by lia
    have hmul : (2 ^ 16 + n / m % 2 ^ 16) * m + n % m ≤ n := by
      have hle := Nat.mul_le_mul_right m hcut
      have hsplit := Nat.div_add_mod' n m
      lia
    have hbelow : p * (n / m % 2 ^ 16 * m + n % m) + p * m * 2 ^ 16 ≤ p * n := by
      calc p * (n / m % 2 ^ 16 * m + n % m) + p * m * 2 ^ 16
          = p * ((2 ^ 16 + n / m % 2 ^ 16) * m + n % m) := by ring
        _ ≤ p * n := Nat.mul_le_mul_left p hmul
    have hsteps : p * n ≤ x + 1 := by
      rw [hn]
      refine (Nat.mul_div_le _ p).trans ?_
      split <;> lia
    have hpm : p ≤ p * m := Nat.le_mul_of_pos_right p hm
    rw [Int.abs_eq_natAbs] at hnear
    lia

/-- What was found is accurate where its steps are near and their integer fits. -/
lemma wanted_accurate_iff (hlow : 34375000 ≤ freq.toNat) (hhigh : freq.toNat ≤ 4400000000) (hsome : ¬dev.NoFreq freq)
    (hdev : r.dev.fpfd = (dev.wanted freq).fpfd ∧ r.dev.regs = (dev.wanted freq).regs ∧
      r.dev.r4RfDivSel = (dev.wanted freq).r4RfDivSel)
    (hret : r.ret = (dev.wanted freq).setFrequency.toNat) :
    IsAccurate freq.toNat (dev.found freq) r ↔ dev.AccurateFor freq := by
  obtain ⟨⟨-, hpfd, hmod, -⟩, hfpfd, hr1, hfract, hr0, hsel⟩ := found_toNat hlow hhigh hsome
  obtain ⟨hkpfd, hkint, hksel, -⟩ := (dev.found freq).reduceFract_keeps
  have hmpos : 0 < (dev.found freq).r1Mod.toNat := by lia
  obtain ⟨hred, hredf⟩ := reduceFract_toNat hmpos
  have hratio := reduceFract_ratio hmpos
  obtain ⟨hlimp, hlimm, hlims⟩ := wanted_limits hlow hhigh hsome
  obtain ⟨hdp, hdregs, hds⟩ := hdev
  have hppos : 0 < dev.freqPfd freq := hmod.1.trans_le (Nat.div_le_self _ _)
  have hMpos : 0 < (dev.found freq).reduceFract.r1Mod.toNat := by
    rw [hred]
    exact Nat.div_pos (Nat.gcd_le_left _ hmpos) (Nat.gcd_pos_of_pos_left _ hmpos)
  have hlimf : (dev.found freq).reduceFract.r0Fract.toNat < (dev.found freq).reduceFract.r1Mod.toNat := by
    rw [hred, hredf]
    refine Nat.div_lt_div_of_lt_of_dvd (Nat.gcd_dvd_left _ _) ?_
    rw [hfract, hr1]
    exact Nat.mod_lt _ hmod.1
  -- The fraction and the modulus fit into their fields, and of the integer 16 bits are left.
  obtain ⟨hint, hregf, hregm⟩ := @regs_toNat (dev.wanted freq) (highPrescaler freq) _ rfl
  have hlimm' : (dev.found freq).reduceFract.r1Mod.toNat ≤ 4095 := hlimm
  have hint' : r.dev.regInt = dev.freqSteps freq / dev.freqMod freq % 2 ^ 16 := by
    rw [regInt, hdregs]
    refine hint.trans ?_
    change (dev.found freq).reduceFract.r0Int.toNat % 2 ^ 16 = _
    rw [hkint, hr0, Nat.mod_mod_of_dvd _ (by decide)]
  have hregf' : r.dev.regFract = (dev.found freq).reduceFract.r0Fract.toNat := by
    rw [regFract, hdregs]
    exact hregf.trans (Nat.mod_eq_of_lt (hlimf.trans_le (hlimm'.trans (by decide))))
  have hregm' : r.dev.regMod = (dev.found freq).reduceFract.r1Mod.toNat := by
    rw [regMod, hdregs]
    exact hregm.trans (Nat.mod_eq_of_lt (hlimm'.trans_lt (by decide)))
  have hpfd' : r.dev.fpfd.toNat = dev.freqPfd freq := by rw [hdp, ← hfpfd, ← hkpfd]; rfl
  have hsel' : r.dev.r4RfDivSel.toNat = vcoSel freq.toNat := by rw [hds, ← hsel, ← hksel]; rfl
  have hnearest : |r.dev.vco - freq.toNat * 2 ^ r.dev.r4RfDivSel.toNat| ≤
      r.dev.fpfd.toNat / (2 * (dev.found freq).r1Mod.toNat) ↔ dev.AccurateFor freq := by
    have habs := @abs_steps_le_iff (dev.freqPfd freq) (dev.freqMod freq)
      (dev.freqSteps freq / dev.freqMod freq % 2 ^ 16) (dev.freqSteps freq % dev.freqMod freq) (vcoFreq freq.toNat) hmod.1
    have hcut := @near_cut_iff (vcoFreq freq.toNat * dev.freqMod freq) (dev.freqPfd freq) (dev.freqMod freq)
      (dev.freqSteps freq) hppos hmod.1 rfl
    rw [AccurateFor, ← hcut, ← habs, vco, hint', hregf', hregm', hpfd', hsel', hratio, hfract, hr1, vcoFreq]
    push_cast
    exact Iff.rfl
  refine ⟨fun h => hnearest.mp h.nearest, fun h => ⟨hnearest.mpr h, ?_, ?_⟩⟩
  · rw [hregf', hregm']
    exact hratio
  · have hfit := h.2
    have hint32 : (dev.found freq).reduceFract.r0Int.toNat = dev.freqSteps freq / dev.freqMod freq := by
      rw [hkint, hr0, Nat.mod_eq_of_lt (by lia)]
    have hsteps : dev.freqSteps freq / dev.freqMod freq * (dev.found freq).reduceFract.r1Mod.toNat +
        (dev.found freq).reduceFract.r0Fract.toNat < 2 ^ 32 := by
      have hle := Nat.mul_le_mul hfit.le hlimm'
      lia
    have hfloor := @floor_steps (dev.freqPfd freq) (dev.found freq).reduceFract.r1Mod.toNat
      (dev.freqSteps freq / dev.freqMod freq) (dev.found freq).reduceFract.r0Fract.toNat (vcoSel freq.toNat) hMpos
    rw [hret, (toNat_setFrequency hlimp hlimm hlims).1, vco, hint', hregf', hregm', hpfd', hsel',
      Nat.mod_eq_of_lt hfit, hfloor]
    change ((((dev.found freq).reduceFract.r0Int.toNat * (dev.found freq).reduceFract.r1Mod.toNat +
      (dev.found freq).reduceFract.r0Fract.toNat) % 2 ^ 32 * (dev.found freq).reduceFract.fpfd.toNat /
      ((dev.found freq).reduceFract.r1Mod.toNat * 2 ^ (dev.found freq).reduceFract.r4RfDivSel.toNat) : ℕ) : ℤ) = _
    rw [hint32, Nat.mod_eq_of_lt hsteps, hkpfd, hfpfd, hksel, hsel]

lemma setFreq_found (h : adf4350SetFreq fuel rets dev freq chip = .ok r) (hret : 0 ≤ r.ret) :
    adf4350FindDividers (vcoDoublings 64 freq 0).1 (if highPrescaler freq then 75 else 23) fuel
        { dev with r4RfDivSel := (vcoDoublings 64 freq 0).2 } dev.firstRCnt dev.chspc =
          .ok (dev.found freq, UInt16.ofNat (dev.freqDividers freq).1) ∧
      (IsAccurate freq.toNat (dev.found freq) r ↔ dev.AccurateFor freq) := by
  -- The frequency is in range and has dividers.
  have hrange : 34375000 ≤ freq.toNat ∧ freq.toNat ≤ 4400000000 := by
    by_contra hnot
    rw [adf4350SetFreq, adf4350FreqRegs, if_pos (not_not.mp (mt inRange_iff.mp hnot))] at h
    obtain rfl := Except.ok.inj h
    exact absurd (show (0 : Int) ≤ -1 from hret) (by decide)
  obtain ⟨hlow, hhigh⟩ := hrange
  obtain ⟨hnone, hsome⟩ := @freqRegs_ends freq dev hlow hhigh
  obtain ⟨x, hx⟩ : ∃ x, adf4350FreqRegs fuel dev freq = .ok x := by
    rcases hcases : adf4350FreqRegs fuel dev freq with f | x
    · rw [adf4350SetFreq, hcases] at h
      cases h
    · exact ⟨x, rfl⟩
  have hfound : ¬dev.NoFreq freq := fun hno => hnone hno fuel x hx
  obtain ⟨rfl, hdividers⟩ := (hsome hfound).2 fuel x hx
  refine ⟨hdividers, ?_⟩
  obtain ⟨regsHw, val, chip', hset⟩ := @setFreq_wanted dev fuel rets chip freq hx
  obtain rfl := Except.ok.inj (hset.symm.trans h)
  have hok : ¬(adf4350SyncConfig rets (dev.wanted freq) chip).1 < 0 := by
    intro hneg
    dsimp only at hret
    rw [if_pos hneg] at hret
    omega
  obtain ⟨hlimp, hlimm, hlims⟩ := wanted_limits hlow hhigh hfound
  refine wanted_accurate_iff hlow hhigh hfound ⟨rfl, rfl, rfl⟩ ?_
  dsimp only
  rw [if_neg hok, (toNat_setFrequency hlimp hlimm hlims).2]

/-- A call that returns a frequency is accurate if and only if the frequency is near enough to the steps below it or just
below the next one, and the integer fits into 16 bits. -/
theorem setFreq_accurate_iff (h : adf4350SetFreq fuel rets dev freq chip = .ok r) (hret : 0 ≤ r.ret) :
    ∃ found rCnt, adf4350FindDividers (vcoDoublings 64 freq 0).1 (if highPrescaler freq then 75 else 23) fuel
        { dev with r4RfDivSel := (vcoDoublings 64 freq 0).2 } dev.firstRCnt dev.chspc = .ok (found, rCnt) ∧
      (IsAccurate freq.toNat found r ↔ dev.AccurateFor freq) :=
  ⟨_, _, setFreq_found h hret⟩

/-- 2.4 GHz from 25 MHz in steps of 100 kHz -/
theorem setFreq_accurate_channel : ∃ fuel r found,
    adf4350SetFreq fuel (fun _ => 0) (idle 25000000 100000 0) 2400000000 ⟨fun _ => none, false⟩ = .ok r ∧
      IsAccurate 2400000000 found r := by
  obtain ⟨fuel, r, hr, hret⟩ := @setFreq_returns (idle 25000000 100000 0) (fun _ => 0) ⟨fun _ => none, false⟩ 2400000000
    (by decide) (by decide) (by decide) (by decide)
  obtain ⟨found, -, -, hiff⟩ := setFreq_accurate_iff hr hret
  exact ⟨fuel, r, found, hr, hiff.mpr (by decide)⟩

/-- 75 kHz above a step of 100 kHz -/
theorem not_setFreq_accurate : ¬∀ fuel dev rets freq chip r, adf4350SetFreq fuel rets dev freq chip = .ok r → 0 ≤ r.ret →
    ∃ found rCnt, adf4350FindDividers (vcoDoublings 64 freq 0).1 (if highPrescaler freq then 75 else 23) fuel
        { dev with r4RfDivSel := (vcoDoublings 64 freq 0).2 } dev.firstRCnt dev.chspc = .ok (found, rCnt) ∧
      IsAccurate freq.toNat found r := by
  intro h
  obtain ⟨fuel, r, hr, hret⟩ := @setFreq_returns (idle 25000000 100000 0) (fun _ => 0) ⟨fun _ => none, false⟩ 2400075000
    (by decide) (by decide) (by decide) (by decide)
  obtain ⟨found, rCnt, hfound, haccurate⟩ := h _ _ _ _ _ _ hr hret
  obtain ⟨hsame, hiff⟩ := setFreq_found hr hret
  rw [hsame] at hfound
  obtain ⟨rfl, -⟩ := Prod.mk.inj (Except.ok.inj hfound)
  exact absurd (hiff.mp haccurate) (by decide)

end Adf4350Dev

end NoOS
