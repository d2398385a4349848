import NoOS.Drivers.Adf4350Calls
import NoOS.Drivers.Adf4350Search

/-!
# Which frequencies `adf4350_set_freq` sets

A frequency is doubled to one of the VCO, the search for its dividers ends or divides by zero, and what it found is in
range, but for the integer, which is too large where the PFD frequency is too low.
-/

namespace NoOS

/-- How often a frequency is doubled. -/
def vcoSel (freq : ℕ) : ℕ :=
  if 2200000000 ≤ freq then 0
  else if 1100000000 ≤ freq then 1
  else if 550000000 ≤ freq then 2
  else if 275000000 ≤ freq then 3
  else if 137500000 ≤ freq then 4
  else if 68750000 ≤ freq then 5
  else 6

def vcoFreq (freq : ℕ) : ℕ := freq * 2 ^ vcoSel freq

/-- The least integer of the prescaler. -/
def leastInt (freq : ℕ) : ℕ := if 3000000000 < freq then 75 else 23

variable {freq : UInt64}

lemma vcoDoublings_eq (hlow : 34375000 ≤ freq.toNat) (hhigh : freq.toNat ≤ 4400000000) :
    (vcoDoublings 64 freq 0).1.toNat = vcoFreq freq.toNat ∧
      (vcoDoublings 64 freq 0).2.toNat = vcoSel freq.toNat := by
  -- The induction is on the doublings that are left.
  suffices h : ∀ j n (f : UInt64) (sel : UInt32), j ≤ n → sel.toNat + j ≤ 6 → f.toNat ≤ 4400000000 →
      2200000000 ≤ f.toNat * 2 ^ j → (j = 0 ∨ f.toNat * 2 ^ j < 4400000000) →
      (vcoDoublings n f sel).1.toNat = f.toNat * 2 ^ j ∧ (vcoDoublings n f sel).2.toNat = sel.toNat + j by
    have hsel := h (vcoSel freq.toNat) 64 freq 0
    rw [UInt32.toNat_zero, Nat.zero_add] at hsel
    refine hsel ?_ ?_ hhigh ?_ ?_ <;> unfold vcoSel <;> split_ifs <;> lia
  intro j
  induction j with
  | zero =>
    intro n f sel _ _ _ hvco _
    have hlt : ¬f < ADF4350_MIN_VCO_FREQ := by
      rw [UInt64.lt_iff_toNat_lt, Nat.not_lt]
      rw [Nat.pow_zero, Nat.mul_one] at hvco
      exact hvco
    cases n with
    | zero => exact ⟨by rw [vcoDoublings, Nat.pow_zero, Nat.mul_one], rfl⟩
    | succ n =>
      rw [vcoDoublings, if_neg hlt, Nat.pow_zero, Nat.mul_one]
      exact ⟨rfl, rfl⟩
  | succ j ih =>
    intro n f sel hn hsel hf hvco hless
    have hless := hless.resolve_left (Nat.succ_ne_zero j)
    obtain ⟨n, rfl⟩ : ∃ k, n = k + 1 := ⟨n - 1, by lia⟩
    have htwo : f.toNat * 2 ^ (j + 1) = f.toNat * 2 * 2 ^ j := by rw [Nat.pow_succ, Nat.mul_assoc, Nat.mul_comm 2]
    have hpow : f.toNat * 2 * 1 ≤ f.toNat * 2 * 2 ^ j := Nat.mul_le_mul_left _ (Nat.two_pow_pos j)
    have hlt : f < ADF4350_MIN_VCO_FREQ := by
      rw [UInt64.lt_iff_toNat_lt, show ADF4350_MIN_VCO_FREQ.toNat = 2200000000 from rfl]
      lia
    have hshl : (f <<< 1).toNat = f.toNat * 2 := by
      rw [UInt64.toNat_shiftLeft, show UInt64.toNat 1 % 64 = 1 from rfl, Nat.shiftLeft_eq, Nat.pow_one]
      exact Nat.mod_eq_of_lt (by lia)
    have hadd : (sel + 1).toNat = sel.toNat + 1 := Word.toNat_add_of_lt (by
      rw [UInt32.toNat_one]
      lia)
    have hnext := ih n (f <<< 1) (sel + 1) (by lia) (by lia) (by lia) (by rw [hshl]; lia)
      (.inr (by rw [hshl]; lia))
    rw [vcoDoublings, if_pos hlt, htwo, ← hshl]
    exact ⟨hnext.1, by lia⟩

namespace Adf4350Dev

/-- The first count of the R counter. -/
def firstCnt (dev : Adf4350Dev) : ℕ := max 1 dev.pdata.refDivFactor.toNat

/-- The search for a frequency divides by zero. -/
def NoFreq (dev : Adf4350Dev) (freq : UInt64) : Prop :=
  dev.NoDividers dev.firstCnt dev.chspc.toNat (vcoFreq freq.toNat) (leastInt freq.toNat)

instance (dev : Adf4350Dev) (freq : UInt64) : Decidable (dev.NoFreq freq) :=
  inferInstanceAs (Decidable (dev.NoDividers _ _ _ _))

/-- The count of the R counter and the channel spacing for a frequency. -/
def freqDividers (dev : Adf4350Dev) (freq : UInt64) : ℕ × ℕ :=
  dev.dividers dev.firstCnt dev.chspc.toNat (vcoFreq freq.toNat) (leastInt freq.toNat)

/-- The PFD frequency for a frequency. -/
def freqPfd (dev : Adf4350Dev) (freq : UInt64) : ℕ := dev.pfd (dev.freqDividers freq).1

/-- The modulus, before it is reduced. -/
def freqMod (dev : Adf4350Dev) (freq : UInt64) : ℕ := dev.freqPfd freq / (dev.freqDividers freq).2

/-- The frequency of the VCO in steps of the PFD frequency over the modulus. -/
def freqSteps (dev : Adf4350Dev) (freq : UInt64) : ℕ :=
  steps (vcoFreq freq.toNat) (dev.freqPfd freq) (dev.freqMod freq)

/-- The device with the divider of the output. -/
def doubled (dev : Adf4350Dev) (freq : UInt64) : Adf4350Dev := { dev with r4RfDivSel := (vcoDoublings 64 freq 0).2 }

/-- The device with what was found. -/
def found (dev : Adf4350Dev) (freq : UInt64) : Adf4350Dev :=
  ((dev.doubled freq).tried (dev.freqDividers freq).1 (UInt32.ofNat (dev.freqDividers freq).2)).withFreq
    (vcoDoublings 64 freq 0).1

def withRegs (freq : UInt64) (r : Adf4350Dev × UInt16) : Adf4350Dev :=
  { r.1.reduceFract with
    regs := r.1.reduceFract.freqRegs (if highPrescaler freq then ADF4350_REG1_PRESCALER else 0) r.2 }

/-- The device with the registers for a frequency. -/
def wanted (dev : Adf4350Dev) (freq : UInt64) : Adf4350Dev :=
  withRegs freq (dev.found freq, UInt16.ofNat (dev.freqDividers freq).1)

variable {dev : Adf4350Dev} {fuel : ℕ}

lemma firstRCnt_eq (dev : Adf4350Dev) : dev.firstRCnt = UInt16.ofNat (dev.firstCnt - 1) := by
  have hlt := dev.pdata.refDivFactor.toNat_lt
  unfold firstRCnt firstCnt
  by_cases hzero : dev.pdata.refDivFactor = 0
  · rw [if_neg (not_not_intro hzero), hzero]
    rfl
  · have hpos : 1 ≤ dev.pdata.refDivFactor.toNat :=
      Nat.one_le_iff_ne_zero.mpr fun h => hzero (UInt16.toNat_inj.mp h)
    rw [if_pos hzero, Nat.max_eq_right hpos]
    apply UInt16.toNat_inj.mp
    rw [UInt16.toNat_sub_of_le dev.pdata.refDivFactor 1 (UInt16.le_iff_toNat_le.mpr hpos),
      UInt16.toNat_ofNat_of_lt' (by simp only [UInt16.size]; lia)]
    rfl

lemma vcoFreq_limits (hlow : 34375000 ≤ freq.toNat) (hhigh : freq.toNat ≤ 4400000000) :
    2200000000 ≤ vcoFreq freq.toNat ∧ vcoFreq freq.toNat ≤ 4400000000 ∧
      (leastInt freq.toNat ≤ 23 ∨ leastInt freq.toNat ≤ 75 ∧ 3000000000 < vcoFreq freq.toNat) ∧
      vcoSel freq.toNat ≤ 6 := by
  unfold vcoFreq vcoSel leastInt
  split_ifs <;> lia

lemma mdiv_toNat (freq : UInt64) : (if highPrescaler freq then (75 : UInt32) else 23).toNat = leastInt freq.toNat := by
  have hhigh : highPrescaler freq = true ↔ 3000000000 < freq.toNat := by
    rw [highPrescaler, decide_eq_true_iff, gt_iff_lt, UInt64.lt_iff_toNat_lt]
    rfl
  rw [apply_ite UInt32.toNat, leastInt]
  exact if_congr hhigh rfl rfl

lemma inRange_iff : ¬(freq > ADF4350_MAX_OUT_FREQ ∨ freq < ADF4350_MIN_OUT_FREQ) ↔
    34375000 ≤ freq.toNat ∧ freq.toNat ≤ 4400000000 := by
  rw [not_or, gt_iff_lt, UInt64.not_lt, UInt64.not_lt, UInt64.le_iff_toNat_le, UInt64.le_iff_toNat_le, and_comm]
  rfl

/-- A frequency in range has its registers, from the dividers that are found, or its search divides by zero. -/
theorem freqRegs_ends (hlow : 34375000 ≤ freq.toNat) (hhigh : freq.toNat ≤ 4400000000) :
    (dev.NoFreq freq → ∀ fuel r, adf4350FreqRegs fuel dev freq ≠ .ok r) ∧
      (¬dev.NoFreq freq → (∃ fuel, adf4350FreqRegs fuel dev freq = .ok (some (dev.wanted freq))) ∧
        ∀ fuel r, adf4350FreqRegs fuel dev freq = .ok r → r = some (dev.wanted freq) ∧
          adf4350FindDividers (vcoDoublings 64 freq 0).1 (if highPrescaler freq then 75 else 23) fuel
            { dev with r4RfDivSel := (vcoDoublings 64 freq 0).2 } dev.firstRCnt dev.chspc =
              .ok (dev.found freq, UInt16.ofNat (dev.freqDividers freq).1)) := by
  obtain ⟨hvco, hsel⟩ := vcoDoublings_eq hlow hhigh
  obtain ⟨hlow', hhigh', hk, -⟩ := vcoFreq_limits hlow hhigh
  have hfirst : dev.firstCnt - 1 + 1 = dev.firstCnt ∧ dev.firstCnt ≤ 65535 := by
    have hlt := dev.pdata.refDivFactor.toNat_lt
    unfold firstCnt
    lia
  have hregs : ∀ fuel, adf4350FreqRegs fuel dev freq = ((dev.doubled freq).search (vcoDoublings 64 freq 0).1
      (if highPrescaler freq then 75 else 23) fuel (dev.firstCnt - 1, dev.chspc)).map
        (fun r => some (withRegs freq r)) := by
    intro fuel
    rw [adf4350FreqRegs, if_neg (inRange_iff.mpr ⟨hlow, hhigh⟩), search, ← firstRCnt_eq]
    rfl
  have hends := @search_ends (dev.doubled freq) (vcoDoublings 64 freq 0).1 (if highPrescaler freq then 75 else 23)
    dev.chspc (dev.firstCnt - 1) (by rw [hvco]; exact hhigh') (by rw [hvco]; exact hlow') (by lia)
    (by rw [hvco, mdiv_toNat]; exact hk)
  rw [hvco, mdiv_toNat, hfirst.1] at hends
  -- A result comes from one of the search.
  have hresult : ∀ fuel r, adf4350FreqRegs fuel dev freq = .ok r → ∃ x, (dev.doubled freq).search
      (vcoDoublings 64 freq 0).1 (if highPrescaler freq then 75 else 23) fuel (dev.firstCnt - 1, dev.chspc) = .ok x ∧
        r = some (withRegs freq x) := by
    intro fuel r hr
    rw [hregs] at hr
    rcases hcases : (dev.doubled freq).search (vcoDoublings 64 freq 0).1 (if highPrescaler freq then 75 else 23) fuel
      (dev.firstCnt - 1, dev.chspc) with f | x
    · rw [hcases] at hr
      cases hr
    · rw [hcases] at hr
      exact ⟨x, rfl, (Except.ok.inj hr).symm⟩
  constructor
  · intro hno fuel r hr
    obtain ⟨x, hx, -⟩ := hresult fuel r hr
    cases (hends.1 hno).eq hx (by simp)
  · intro hsome
    have hfound := hends.2 hsome
    constructor
    · obtain ⟨fuel, hfuel⟩ := hfound.exists
      refine ⟨fuel, ?_⟩
      rw [hregs, hfuel]
      rfl
    · intro fuel r hr
      obtain ⟨x, hx, rfl⟩ := hresult fuel r hr
      obtain rfl := Except.ok.inj (hfound.eq hx (by simp))
      refine ⟨rfl, ?_⟩
      rw [firstRCnt_eq]
      exact hx

lemma toNat_gcd (x y : UInt32) : (gcd x y).toNat = Nat.gcd x.toNat y.toNat := by
  induction x, y using gcd.induct with
  | case1 x => rw [gcd, if_pos rfl, UInt32.toNat_zero, Nat.gcd_zero_right]
  | case2 x y hy ih =>
    rw [gcd, if_neg hy, ih, UInt32.toNat_mod, Nat.gcd_comm x.toNat, Nat.gcd_rec y.toNat x.toNat, Nat.gcd_comm]

/-- The modulus and the fraction lose their greatest common divisor, which is the modulus for the fraction 0. -/
lemma reduceFract_toNat {d : Adf4350Dev} (hmod : 0 < d.r1Mod.toNat) :
    d.reduceFract.r1Mod.toNat = d.r1Mod.toNat / Nat.gcd d.r1Mod.toNat d.r0Fract.toNat ∧
      d.reduceFract.r0Fract.toNat = d.r0Fract.toNat / Nat.gcd d.r1Mod.toNat d.r0Fract.toNat := by
  unfold reduceFract
  by_cases hfract : d.r0Fract = 0
  · rw [if_neg (fun h => h.1 hfract), hfract, UInt32.toNat_zero, Nat.gcd_zero_right, Nat.div_self hmod, Nat.zero_div]
    exact ⟨rfl, rfl⟩
  · rw [if_pos ⟨hfract, Word.ne_zero_of_pos hmod⟩]
    dsimp only
    rw [UInt32.toNat_div, UInt32.toNat_div, toNat_gcd]
    exact ⟨rfl, rfl⟩

lemma reduceFract_keeps (d : Adf4350Dev) : d.reduceFract.fpfd = d.fpfd ∧ d.reduceFract.r0Int = d.r0Int ∧
    d.reduceFract.r4RfDivSel = d.r4RfDivSel ∧ d.reduceFract.pdata = d.pdata ∧ d.reduceFract.clkin = d.clkin := by
  unfold reduceFract
  split
  · exact ⟨rfl, rfl, rfl, rfl, rfl⟩
  · exact ⟨rfl, rfl, rfl, rfl, rfl⟩

lemma found_toNat (hlow : 34375000 ≤ freq.toNat) (hhigh : freq.toNat ≤ 4400000000) (hsome : ¬dev.NoFreq freq) :
    ((1 ≤ (dev.freqDividers freq).1 ∧ (dev.freqDividers freq).1 ≤ 1023) ∧ dev.freqPfd freq ≤ 32000000 ∧
      (0 < dev.freqMod freq ∧ dev.freqMod freq ≤ 4095) ∧
      leastInt freq.toNat ≤ dev.freqSteps freq / dev.freqMod freq % 2 ^ 32) ∧
    (dev.found freq).fpfd.toNat = dev.freqPfd freq ∧ (dev.found freq).r1Mod.toNat = dev.freqMod freq ∧
      (dev.found freq).r0Fract.toNat = dev.freqSteps freq % dev.freqMod freq ∧
      (dev.found freq).r0Int.toNat = dev.freqSteps freq / dev.freqMod freq % 2 ^ 32 ∧
      (dev.found freq).r4RfDivSel.toNat = vcoSel freq.toNat := by
  obtain ⟨hvco, hsel⟩ := vcoDoublings_eq hlow hhigh
  obtain ⟨hlow', hhigh', hk, -⟩ := vcoFreq_limits hlow hhigh
  have hfirst : 0 < dev.firstCnt := Nat.lt_of_lt_of_le Nat.one_pos (le_max_left _ _)
  obtain ⟨hcnt, hspace, hpfd, hmod, hint⟩ := dividers_limits hfirst hhigh' hlow' hk hsome
  have hspacing : (UInt32.ofNat (dev.freqDividers freq).2).toNat = (dev.freqDividers freq).2 :=
    UInt32.toNat_ofNat_of_lt' hspace
  have hle : (dev.freqDividers freq).1 ≤ 65535 := hcnt.2.trans (by decide)
  have hsteps := @tried_withFreq (dev.doubled freq) (vcoDoublings 64 freq 0).1
    (UInt32.ofNat (dev.freqDividers freq).2) (dev.freqDividers freq).1 (by rw [hvco]; exact hhigh') hle
    (by rw [hspacing]; exact hmod.2) (by rw [hspacing]; exact hmod.1)
  rw [hspacing, hvco] at hsteps
  refine ⟨⟨hcnt, hpfd, hmod, hint⟩, @toNat_withPfd (dev.doubled freq) _ hle, ?_, hsteps.1, hsteps.2, hsel⟩
  have hr1 := @toNat_r1Mod (dev.doubled freq) (UInt32.ofNat (dev.freqDividers freq).2) (dev.freqDividers freq).1 hle
  rw [hspacing] at hr1
  exact hr1

/-- What is programmed is in range. -/
structure InLimits (dev : Adf4350Dev) (freq : UInt64) : Prop where
  pfd : dev.fpfd.toNat ≤ 32000000
  modulus : 1 ≤ dev.r1Mod.toNat ∧ dev.r1Mod.toNat ≤ 4095
  fract : dev.r0Fract.toNat < dev.r1Mod.toNat
  int : leastInt freq.toNat ≤ dev.r0Int.toNat ∧ dev.r0Int.toNat ≤ 65535
  rfDivSel : dev.r4RfDivSel.toNat ≤ 6
  rCnt : ∃ rCnt : UInt16, 1 ≤ rCnt.toNat ∧ rCnt.toNat ≤ 1023 ∧ dev.fpfd = (dev.withPfd rCnt).fpfd ∧
    dev.regs = dev.freqRegs (if highPrescaler freq then ADF4350_REG1_PRESCALER else 0) rCnt

/-- The registers for a frequency are in range if the integer is. -/
lemma wanted_inLimits_iff (hlow : 34375000 ≤ freq.toNat) (hhigh : freq.toNat ≤ 4400000000) (hsome : ¬dev.NoFreq freq) :
    (dev.wanted freq).InLimits freq ↔ dev.freqSteps freq / dev.freqMod freq % 2 ^ 32 ≤ 65535 := by
  obtain ⟨⟨hcnt, hpfd, hmod, hint⟩, hfpfd, hr1, hfract, hr0, hsel⟩ := found_toNat hlow hhigh hsome
  obtain ⟨hkpfd, hkint, hksel, hkpdata, hkclkin⟩ := (dev.found freq).reduceFract_keeps
  obtain ⟨hred, hredf⟩ := @reduceFract_toNat (dev.found freq) (by lia)
  have hgcd : 0 < Nat.gcd (dev.found freq).r1Mod.toNat (dev.found freq).r0Fract.toNat :=
    Nat.gcd_pos_of_pos_left _ (by lia)
  have hlt : (dev.found freq).r0Fract.toNat < (dev.found freq).r1Mod.toNat := by
    rw [hfract, hr1]
    exact Nat.mod_lt _ hmod.1
  have hcount : (UInt16.ofNat (dev.freqDividers freq).1).toNat = (dev.freqDividers freq).1 :=
    UInt16.toNat_ofNat_of_lt' (by simp only [UInt16.size]; lia)
  have hwint : (dev.wanted freq).r0Int.toNat = dev.freqSteps freq / dev.freqMod freq % 2 ^ 32 :=
    (congrArg UInt32.toNat hkint).trans hr0
  constructor
  · intro h
    rw [← hwint]
    exact h.int.2
  · intro h
    constructor
    · exact ((congrArg UInt32.toNat hkpfd).trans hfpfd).trans_le hpfd
    · change 1 ≤ (dev.found freq).reduceFract.r1Mod.toNat ∧ (dev.found freq).reduceFract.r1Mod.toNat ≤ 4095
      rw [hred]
      constructor
      · exact Nat.div_pos (Nat.gcd_le_left _ (by lia)) hgcd
      · exact (Nat.div_le_self _ _).trans (by lia)
    · change (dev.found freq).reduceFract.r0Fract.toNat < (dev.found freq).reduceFract.r1Mod.toNat
      rw [hred, hredf]
      exact Nat.div_lt_div_of_lt_of_dvd (Nat.gcd_dvd_left _ _) hlt
    · rw [hwint]
      exact ⟨hint, h⟩
    · exact ((congrArg UInt32.toNat hksel).trans hsel).trans_le (vcoFreq_limits hlow hhigh).2.2.2
    · refine ⟨UInt16.ofNat (dev.freqDividers freq).1, by lia, by lia, ?_, rfl⟩
      change (dev.found freq).reduceFract.fpfd = ((dev.found freq).reduceFract.withPfd _).fpfd
      rw [hkpfd, withPfd, rDivisor, hkpdata, hkclkin]
      rfl

variable {rets : Fin 6 → Int} {chip : Adf4350Chip} {freq : UInt64}

/-- A synchronisation changes the shadow and the last word alone. -/
lemma syncConfig_dev (rets : Fin 6 → Int) (dev : Adf4350Dev) (chip : Adf4350Chip) : ∃ regsHw val,
    (adf4350SyncConfig rets dev chip).2.1 = { dev with regsHw := regsHw, val := val } := by
  suffices h : ∀ l doublebuf dev chip, ∃ regsHw val,
      (syncLoop rets l doublebuf dev chip).2.1 = { dev with regsHw := regsHw, val := val } from h _ _ _ _
  intro l
  induction l with
  | nil => exact fun _ dev _ => ⟨dev.regsHw, dev.val, rfl⟩
  | cons i l ih =>
    intro doublebuf dev chip
    rcases @syncLoop_cons rets dev chip i l doublebuf with ⟨-, h⟩ | ⟨-, ⟨-, h⟩ | ⟨-, h⟩⟩
    · rw [h]
      exact ih _ _ _
    · rw [h]
      exact ⟨dev.regsHw, _, rfl⟩
    · obtain ⟨regsHw, val, hrest⟩ := ih (doublebuf || i == 1 || i == 4) (dev.wrote i) (chip.receive (regWord dev.regs i))
      rw [h, hrest]
      exact ⟨regsHw, val, rfl⟩

lemma inLimits_shadow {d : Adf4350Dev} {regsHw : Fin 6 → UInt32} {val : UInt32} :
    InLimits { d with regsHw := regsHw, val := val } freq ↔ d.InLimits freq :=
  ⟨fun h => ⟨h.pfd, h.modulus, h.fract, h.int, h.rfDivSel, h.rCnt⟩,
    fun h => ⟨h.pfd, h.modulus, h.fract, h.int, h.rfDivSel, h.rCnt⟩⟩

lemma toNat_setFrequency {d : Adf4350Dev} (hpfd : d.fpfd.toNat ≤ 32000000) (hmod : d.r1Mod.toNat ≤ 4095)
    (hsel : d.r4RfDivSel.toNat ≤ 6) :
    d.setFrequency.toNat = (d.r0Int.toNat * d.r1Mod.toNat + d.r0Fract.toNat) % 2 ^ 32 * d.fpfd.toNat /
        (d.r1Mod.toNat * 2 ^ d.r4RfDivSel.toNat) ∧
      d.setFrequency.toInt64.toInt = d.setFrequency.toNat := by
  have hsteps : (d.r0Int * d.r1Mod + d.r0Fract).toNat =
      (d.r0Int.toNat * d.r1Mod.toNat + d.r0Fract.toNat) % 2 ^ 32 := by
    rw [UInt32.toNat_add, UInt32.toNat_mul, Nat.mod_add_mod]
  have hlt : (d.r0Int.toNat * d.r1Mod.toNat + d.r0Fract.toNat) % 2 ^ 32 < 2 ^ 32 := Nat.mod_lt _ (Nat.two_pow_pos 32)
  have hprod : (d.r0Int.toNat * d.r1Mod.toNat + d.r0Fract.toNat) % 2 ^ 32 * d.fpfd.toNat ≤ 2 ^ 32 * 32000000 :=
    Nat.mul_le_mul hlt.le hpfd
  have hpow : 2 ^ d.r4RfDivSel.toNat ≤ 2 ^ 6 := Nat.pow_le_pow_right Nat.two_pos hsel
  have hdiv : d.r1Mod.toNat * 2 ^ d.r4RfDivSel.toNat ≤ 4095 * 2 ^ 6 := Nat.mul_le_mul hmod hpow
  have hprod' : (d.r0Int.toNat * d.r1Mod.toNat + d.r0Fract.toNat) % 2 ^ 32 * d.fpfd.toNat < 2 ^ 64 := by lia
  have hdiv' : d.r1Mod.toNat * 2 ^ d.r4RfDivSel.toNat < 2 ^ 64 := by lia
  have hshl : ((1 : UInt64) <<< d.r4RfDivSel.toUInt64).toNat = 2 ^ d.r4RfDivSel.toNat := by
    rw [UInt64.toNat_shiftLeft, UInt32.toNat_toUInt64, Nat.mod_eq_of_lt (by lia : d.r4RfDivSel.toNat < 64),
      Nat.shiftLeft_eq, UInt64.toNat_one, Nat.one_mul]
    exact Nat.mod_eq_of_lt (by lia)
  have heq : d.setFrequency.toNat = (d.r0Int.toNat * d.r1Mod.toNat + d.r0Fract.toNat) % 2 ^ 32 * d.fpfd.toNat /
      (d.r1Mod.toNat * 2 ^ d.r4RfDivSel.toNat) := by
    rw [setFrequency, UInt64.toNat_div, UInt64.toNat_mul, UInt64.toNat_mul, UInt32.toNat_toUInt64,
      UInt32.toNat_toUInt64, UInt32.toNat_toUInt64, hsteps, hshl, Nat.mod_eq_of_lt hprod', Nat.mod_eq_of_lt hdiv']
  refine ⟨heq, ?_⟩
  have hsmall : d.setFrequency.toNat < 2 ^ 63 := by
    rw [heq]
    exact (Nat.div_le_self _ _).trans_lt (by lia)
  change d.setFrequency.toBitVec.toInt = _
  rw [BitVec.toInt_eq_toNat_of_lt]
  · rfl
  · rw [UInt64.toNat_toBitVec]
    lia

lemma setFreq_wanted (hregs : adf4350FreqRegs fuel dev freq = .ok (some (dev.wanted freq))) : ∃ regsHw val chip',
    adf4350SetFreq fuel rets dev freq chip = .ok ⟨some (adf4350SyncConfig rets (dev.wanted freq) chip).1,
      if (adf4350SyncConfig rets (dev.wanted freq) chip).1 < 0 then (adf4350SyncConfig rets (dev.wanted freq) chip).1
      else (dev.wanted freq).setFrequency.toInt64.toInt,
      { dev.wanted freq with regsHw := regsHw, val := val }, chip'⟩ := by
  obtain ⟨regsHw, val, hdev⟩ := syncConfig_dev rets (dev.wanted freq) chip
  refine ⟨regsHw, val, (adf4350SyncConfig rets (dev.wanted freq) chip).2.2, ?_⟩
  rw [adf4350SetFreq, hregs, ← hdev]
  simp only [Except.map]
  rw [show (adf4350SyncConfig rets (dev.wanted freq) chip).2.1.setFrequency = (dev.wanted freq).setFrequency by
    rw [hdev]; rfl]

/-- The call ends without a division by zero, and if it returns a frequency what it has programmed is in range. -/
def SetsFreq (dev : Adf4350Dev) (freq : UInt64) : Prop :=
  ∀ rets chip, ∃ fuel r, adf4350SetFreq fuel rets dev freq chip = .ok r ∧ (0 ≤ r.ret → r.dev.InLimits freq)

lemma wanted_limits (hlow : 34375000 ≤ freq.toNat) (hhigh : freq.toNat ≤ 4400000000) (hsome : ¬dev.NoFreq freq) :
    (dev.wanted freq).fpfd.toNat ≤ 32000000 ∧ (dev.wanted freq).r1Mod.toNat ≤ 4095 ∧
      (dev.wanted freq).r4RfDivSel.toNat ≤ 6 := by
  obtain ⟨⟨-, hpfd, hmod, -⟩, hfpfd, hr1, -, -, hsel⟩ := found_toNat hlow hhigh hsome
  obtain ⟨hkpfd, -, hksel, -⟩ := (dev.found freq).reduceFract_keeps
  refine ⟨((congrArg UInt32.toNat hkpfd).trans hfpfd).trans_le hpfd, ?_,
    ((congrArg UInt32.toNat hksel).trans hsel).trans_le (vcoFreq_limits hlow hhigh).2.2.2⟩
  change (dev.found freq).reduceFract.r1Mod.toNat ≤ 4095
  rw [(reduceFract_toNat (by lia)).1]
  exact (Nat.div_le_self _ _).trans (by lia)

/-- A frequency is returned if there are dividers and every write succeeds. -/
lemma setFreq_returns (hlow : 34375000 ≤ freq.toNat) (hhigh : freq.toNat ≤ 4400000000) (hsome : ¬dev.NoFreq freq)
    (h : ∀ i, 0 ≤ rets i) : ∃ fuel r, adf4350SetFreq fuel rets dev freq chip = .ok r ∧ 0 ≤ r.ret := by
  obtain ⟨fuel, hregs⟩ := ((@freqRegs_ends freq dev hlow hhigh).2 hsome).1
  obtain ⟨regsHw, val, chip', hset⟩ := @setFreq_wanted dev fuel rets chip freq hregs
  have hret : 0 ≤ (adf4350SyncConfig rets (dev.wanted freq) chip).1 := syncLoop_ret_nonneg _ _ h
  obtain ⟨hpfd, hmod, hsel⟩ := wanted_limits hlow hhigh hsome
  refine ⟨fuel, _, hset, ?_⟩
  dsimp only
  rw [if_neg (Int.not_lt.mpr hret), (toNat_setFrequency hpfd hmod hsel).2]
  exact Int.natCast_nonneg _

lemma setsFreq_iff (hlow : 34375000 ≤ freq.toNat) (hhigh : freq.toNat ≤ 4400000000) :
    dev.SetsFreq freq ↔ ¬dev.NoFreq freq ∧ dev.freqSteps freq / dev.freqMod freq % 2 ^ 32 ≤ 65535 := by
  obtain ⟨hnone, hsome⟩ := @freqRegs_ends freq dev hlow hhigh
  constructor
  · intro h
    obtain ⟨fuel, r, hr, hlimits⟩ := h (fun _ => 0) ⟨fun _ => none, false⟩
    obtain ⟨x, hx⟩ : ∃ x, adf4350FreqRegs fuel dev freq = .ok x := by
      rcases hcases : adf4350FreqRegs fuel dev freq with f | x
      · rw [adf4350SetFreq, hcases] at hr
        cases hr
      · exact ⟨x, rfl⟩
    have hfound : ¬dev.NoFreq freq := fun hno => hnone hno fuel x hx
    obtain rfl := ((hsome hfound).2 fuel x hx).1
    refine ⟨hfound, ?_⟩
    obtain ⟨regsHw, val, chip', hset⟩ := @setFreq_wanted dev fuel (fun _ => 0) ⟨fun _ => none, false⟩ freq hx
    obtain rfl := Except.ok.inj (hset.symm.trans hr)
    have hret : 0 ≤ (adf4350SyncConfig (fun _ => 0) (dev.wanted freq) ⟨fun _ => none, false⟩).1 :=
      syncLoop_ret_nonneg _ _ fun _ => le_refl 0
    obtain ⟨hpfd, hmod, hsel⟩ := wanted_limits hlow hhigh hfound
    have hin := hlimits (by
      dsimp only
      rw [if_neg (Int.not_lt.mpr hret), (toNat_setFrequency hpfd hmod hsel).2]
      exact Int.natCast_nonneg _)
    exact (wanted_inLimits_iff hlow hhigh hfound).mp (inLimits_shadow.mp hin)
  · rintro ⟨hfound, hint⟩ rets chip
    obtain ⟨fuel, hregs⟩ := (hsome hfound).1
    obtain ⟨regsHw, val, chip', hset⟩ := @setFreq_wanted dev fuel rets chip freq hregs
    exact ⟨fuel, _, hset, fun _ => inLimits_shadow.mpr ((wanted_inLimits_iff hlow hhigh hfound).mpr hint)⟩

/-- The PFD frequency and the modulus that the settings of the device lead to, for any frequency. -/
def settingPfd (dev : Adf4350Dev) : ℕ := dev.pfd (dev.choice dev.firstCnt dev.chspc.toNat).1

def settingMod (dev : Adf4350Dev) : ℕ := dev.choiceMod dev.firstCnt dev.chspc.toNat

/-- The frequency of the VCO is below 65536 times the PFD frequency, or it loses its upper bits. -/
def IntFits (dev : Adf4350Dev) (freq : ℕ) : Prop :=
  vcoFreq freq * dev.settingMod + 1 < 65536 * dev.settingMod * dev.settingPfd ∨
    dev.settingPfd = 1 ∧ 2 ^ 32 + leastInt freq ≤ vcoFreq freq ∧ vcoFreq freq < 2 ^ 32 + 65536

instance (dev : Adf4350Dev) (freq : ℕ) : Decidable (dev.IntFits freq) := inferInstanceAs (Decidable (_ ∨ _))

lemma setsFreq_iff_settings (hlow : 34375000 ≤ freq.toNat) (hhigh : freq.toNat ≤ 4400000000) :
    dev.SetsFreq freq ↔ dev.chspc ≠ 0 ∧ dev.settingMod ≠ 0 ∧ dev.IntFits freq.toNat := by
  obtain ⟨hlow', hhigh', -, -⟩ := vcoFreq_limits hlow hhigh
  have hfirst : 0 < dev.firstCnt := Nat.lt_of_lt_of_le Nat.one_pos (le_max_left _ _)
  have hspace : dev.chspc.toNat = 0 ↔ dev.chspc = 0 := by
    rw [← UInt32.toNat_inj]
    rfl
  have hle : leastInt freq.toNat ≤ 75 := by
    unfold leastInt
    split <;> omega
  have hno : dev.NoFreq freq ↔ dev.chspc = 0 ∨ dev.settingMod = 0 ∨
      dev.Rejected dev.firstCnt dev.chspc.toNat (vcoFreq freq.toNat) (leastInt freq.toNat) ∧ dev.pfd 1023 = 0 := by
    rw [← hspace]
    rfl
  rw [setsFreq_iff hlow hhigh]
  by_cases hs : dev.chspc = 0
  · exact iff_of_false (fun h => h.1 (hno.mpr (.inl hs))) fun h => h.1 hs
  by_cases hm : dev.settingMod = 0
  · exact iff_of_false (fun h => h.1 (hno.mpr (.inr (.inl hm)))) fun h => h.2.1 hm
  obtain ⟨hcnt, hpfd, hmod⟩ := dev.choice_limits hfirst (Nat.pos_of_ne_zero (mt hspace.mp hs))
  have hcnt' := dev.choice_le dev.firstCnt dev.chspc.toNat
  have hmp : dev.settingMod ≤ dev.settingPfd := Nat.div_le_self _ _
  by_cases hrejected : dev.Rejected dev.firstCnt dev.chspc.toNat (vcoFreq freq.toNat) (leastInt freq.toNat)
  · obtain ⟨hone, hover, hbelow⟩ := hrejected
    have hone' : dev.settingPfd = 1 := hone
    have hmone : dev.settingMod = 1 := by lia
    refine iff_of_false ?_ ?_
    · rintro ⟨hfound, hint⟩
      have hlast : dev.pfd 1023 ≠ 0 := fun h0 => hfound (hno.mpr (.inr (.inr ⟨⟨hone, hover, hbelow⟩, h0⟩)))
      have hp := (pfd_of_one hcnt hcnt' hone).2 hlast
      have hdividers : dev.freqDividers freq = (1, 2) := if_pos ⟨hone, hover, hbelow⟩
      rw [freqSteps, freqMod, freqPfd, hdividers] at hint
      change steps (vcoFreq freq.toNat) (dev.pfd 1) (dev.pfd 1 / 2) / (dev.pfd 1 / 2) % 2 ^ 32 ≤ 65535 at hint
      have hge := @steps_div_ge (vcoFreq freq.toNat) (dev.pfd 1) (dev.pfd 1 / 2) (by lia) (by lia)
      have hquot : 65536 ≤ vcoFreq freq.toNat / dev.pfd 1 := by
        rw [Nat.le_div_iff_mul_le (by lia)]
        lia
      have hlt : steps (vcoFreq freq.toNat) (dev.pfd 1) (dev.pfd 1 / 2) / (dev.pfd 1 / 2) < 2 ^ 32 := by
        have hmul : vcoFreq freq.toNat * (dev.pfd 1 / 2) ≤ 4400000000 * (dev.pfd 1 / 2) := Nat.mul_le_mul_right _ hhigh'
        have htwo : 2 ^ 32 * (dev.pfd 1 / 2) * 2 ≤ 2 ^ 32 * (dev.pfd 1 / 2) * dev.pfd 1 := Nat.mul_le_mul_left _ (by lia)
        rw [steps_div_lt_iff (by lia) (by lia), if_pos (by lia)]
        lia
      rw [Nat.mod_eq_of_lt hlt] at hint
      lia
    · rintro ⟨-, -, hfits⟩
      rw [IntFits, hone', hmone] at hfits
      lia
  · have hdividers : dev.freqDividers freq = dev.choice dev.firstCnt dev.chspc.toNat := if_neg hrejected
    have hfound : ¬dev.NoFreq freq := by
      rw [hno, not_or, not_or]
      exact ⟨hs, hm, fun h => hrejected h.1⟩
    rw [and_iff_right hfound, and_iff_right hs, and_iff_right hm, freqSteps, freqMod, freqPfd, hdividers]
    change steps (vcoFreq freq.toNat) dev.settingPfd dev.settingMod / dev.settingMod % 2 ^ 32 ≤ 65535 ↔ _
    unfold IntFits
    by_cases hone : dev.settingPfd = 1
    · have hmone : dev.settingMod = 1 := by lia
      have hnot : ¬(2 ^ 32 ≤ vcoFreq freq.toNat ∧ vcoFreq freq.toNat < 2 ^ 32 + leastInt freq.toNat) :=
        fun h => hrejected ⟨hone, h⟩
      rw [hone, hmone, steps, if_neg (Nat.lt_irrefl 1), Nat.div_one, Nat.div_one, Nat.mul_one, Nat.add_zero]
      lia
    · have hpos : 0 < dev.settingMod := Nat.pos_of_ne_zero hm
      have hmul : vcoFreq freq.toNat * dev.settingMod ≤ 4400000000 * dev.settingMod := Nat.mul_le_mul_right _ hhigh'
      have htwo : 2 ^ 32 * dev.settingMod * 2 ≤ 2 ^ 32 * dev.settingMod * dev.settingPfd :=
        Nat.mul_le_mul_left _ (by lia)
      have hlt : steps (vcoFreq freq.toNat) dev.settingPfd dev.settingMod / dev.settingMod < 2 ^ 32 := by
        rw [steps_div_lt_iff (by lia) hpos, if_pos (by lia)]
        lia
      have hint := @steps_div_lt_iff (vcoFreq freq.toNat) dev.settingPfd dev.settingMod (by lia) hpos 65536
      rw [if_pos (by lia : 1 < dev.settingPfd)] at hint
      rw [Nat.mod_eq_of_lt hlt, ← hint, Nat.lt_succ_iff]
      exact ⟨.inl, fun h => h.resolve_right fun h' => hone h'.1⟩

/-- A frequency is set, with all that is programmed in range, if and only if the modulus of the settings is not 0 and the
integer fits into its field. -/
theorem setsFreq_limits_iff (hlow : 34375000 ≤ freq.toNat) (hhigh : freq.toNat ≤ 4400000000) (hchspc : dev.chspc ≠ 0) :
    dev.SetsFreq freq ↔ dev.settingMod ≠ 0 ∧ dev.IntFits freq.toNat := by
  rw [setsFreq_iff_settings hlow hhigh, and_iff_right hchspc]

/-- A device with a reference and a channel spacing. -/
def idle (clkin chspc : UInt32) (refDivFactor : UInt16) : Adf4350Dev where
  pdata := ⟨clkin, chspc, 0, refDivFactor, false, false, 0, 0, 0⟩
  clkin := clkin
  chspc := chspc
  fpfd := 0
  r0Fract := 0
  r0Int := 0
  r1Mod := 0
  r4RfDivSel := 0
  regs := fun _ => 0
  regsHw := fun _ => 0
  val := 0

/-- 2.4 GHz from 25 MHz in steps of 100 kHz -/
theorem setsFreq_limits_channel : (idle 25000000 100000 0).SetsFreq 2400000000 :=
  (@setsFreq_limits_iff (idle 25000000 100000 0) 2400000000 (by decide) (by decide) (by decide)).mpr (by decide)

/-- A spacing above the PFD frequency, and a PFD frequency of 25 kHz -/
theorem not_setsFreq_limits :
    ¬(idle 10000000 20000000 0).SetsFreq 2400000000 ∧ ¬(idle 25000000 100 1000).SetsFreq 2400000000 := by
  rw [setsFreq_iff_settings (by decide) (by decide), setsFreq_iff_settings (by decide) (by decide)]
  decide

end Adf4350Dev

end NoOS
