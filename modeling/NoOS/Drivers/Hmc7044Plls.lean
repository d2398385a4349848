import NoOS.Drivers.Hmc7044Setup

/-!
# What the setup of the HMC7044 programs into its PLLs
-/

namespace NoOS
open Arith

/-- The dividers of PLL2. The register of the doubler disables it. -/
def Regs.pll2 (regs : Regs) : Pll2 where
  n2 := UInt32.ofNat (regs.pair HMC7044_REG_PLL2_N_LSB HMC7044_REG_PLL2_N_MSB)
  r2 := UInt32.ofNat (regs.pair HMC7044_REG_PLL2_R_LSB HMC7044_REG_PLL2_R_MSB)
  doubler := regs HMC7044_REG_PLL2_FREQ_DOUBLER &&& 1 == 0

def Regs.n1 (regs : Regs) : ℕ := regs.pair HMC7044_REG_PLL1_N_LSB HMC7044_REG_PLL1_N_MSB
def Regs.r1 (regs : Regs) : ℕ := regs.pair HMC7044_REG_PLL1_R_LSB HMC7044_REG_PLL1_R_MSB

section Registers

variable {regs : Regs} {early late : List RegWrite} {p1 : Pll1} {p2 : Pll2} {reg : ℕ}
  (hlate : ∀ w ∈ late, w.1 < 0x1C ∨ 0x36 < w.1)
include hlate

lemma applyWrites_plls (hlow : 0x1C ≤ reg) (hhigh : reg ≤ 0x36) :
    applyWrites regs (early ++ pll2Writes p2 ++ pll1Writes p1 ++ late) reg =
      applyWrites (applyWrites regs early) (pll2Writes p2 ++ pll1Writes p1) reg := by
  have hne : ∀ w ∈ late, w.1 ≠ reg := by
    intro w hw
    have houtside := hlate w hw
    lia
  rw [applyWrites_append, applyWrites_of_ne hne]
  simp only [applyWrites_append]

lemma pll2_applyWrites (hn : p2.n2.toNat ≤ 65535) (hr : p2.r2.toNat ≤ 4095) :
    (applyWrites regs (early ++ pll2Writes p2 ++ pll1Writes p1 ++ late)).pll2 = p2 := by
  have hpair := pair_n p2.n2 hn
  have hpair' := pair_r p2.r2 hr
  obtain ⟨n2, r2, doubler⟩ := p2
  unfold Regs.pll2 Regs.pair
  congr
  · rw [applyWrites_plls hlate (by decide) (by decide), applyWrites_plls hlate (by decide) (by decide)]
    change UInt32.ofNat ((HMC7044_N2_LSB n2).toUInt8.toNat + 256 * (HMC7044_N2_MSB n2).toUInt8.toNat) = n2
    rw [hpair]
    exact UInt32.ofNat_toNat
  · rw [applyWrites_plls hlate (by decide) (by decide), applyWrites_plls hlate (by decide) (by decide)]
    change UInt32.ofNat ((HMC7044_R2_LSB r2).toUInt8.toNat + 256 * (HMC7044_R2_MSB r2).toUInt8.toNat) = r2
    rw [hpair']
    exact UInt32.ofNat_toNat
  · rw [applyWrites_plls hlate (by decide) (by decide)]
    change ((if doubler then 0 else 1 : UInt32).toUInt8 &&& 1 == 0) = doubler
    cases doubler <;> rfl

lemma clkin_applyWrites (i : Fin 4) :
    applyWrites regs (early ++ pll2Writes p2 ++ pll1Writes p1 ++ late) (HMC7044_REG_CLKIN_PRESCALER i.val) =
      (p1.inPrescaler i.castSucc).toUInt8 := by
  have hi := i.isLt
  rw [applyWrites_plls hlate (by unfold HMC7044_REG_CLKIN_PRESCALER; lia)
    (by unfold HMC7044_REG_CLKIN_PRESCALER; omega)]
  match i with
  | 0 => rfl
  | 1 => rfl
  | 2 => rfl
  | 3 => rfl

lemma oscin_applyWrites :
    applyWrites regs (early ++ pll2Writes p2 ++ pll1Writes p1 ++ late) HMC7044_REG_OSCIN_PRESCALER =
      (p1.inPrescaler 4).toUInt8 := by
  rw [applyWrites_plls hlate (by decide) (by decide)]
  rfl

lemma n1_applyWrites (h : p1.n1.toNat ≤ 65535) :
    (applyWrites regs (early ++ pll2Writes p2 ++ pll1Writes p1 ++ late)).n1 = p1.n1.toNat := by
  unfold Regs.n1 Regs.pair
  rw [applyWrites_plls hlate (by decide) (by decide), applyWrites_plls hlate (by decide) (by decide)]
  exact pair_n p1.n1 h

/-- The mask for the upper byte of the reference divider is that of PLL2: 12 bits are programmed. -/
lemma r1_applyWrites :
    (applyWrites regs (early ++ pll2Writes p2 ++ pll1Writes p1 ++ late)).r1 = p1.r1.toNat % 4096 := by
  unfold Regs.r1 Regs.pair
  rw [applyWrites_plls hlate (by decide) (by decide), applyWrites_plls hlate (by decide) (by decide)]
  change (HMC7044_R2_LSB p1.r1).toUInt8.toNat + 256 * (HMC7044_R2_MSB p1.r1).toUInt8.toNat = _
  rw [HMC7044_R2_LSB, HMC7044_R2_MSB, toNat_lsb, toNat_msb p1.r1 0xf00 4 (by decide) rfl]
  lia

end Registers

/-- A device with the three kinds of frequencies and no channels. -/
def plainDev (vcxoFreq pll2Freq : UInt32) (clkinFreq : Fin 4 → UInt32) : Hmc7044Dev where
  isHmc7043 := false
  clkinFreq := clkinFreq
  clkinFreqCcf := fun _ => 0
  vcxoFreq := vcxoFreq
  pll1Pfd := 0
  pll2Freq := pll2Freq
  pll1LoopBw := 200
  sysrefTimerDiv := 1024
  pll1RefPrioCtrl := 0xe4
  clkin0RfsyncEn := false
  clkin1VcoinEn := false
  highPerformanceModeClockDistEn := true
  highPerformanceModePllVcoEn := true
  rfReseederEn := true
  syncPinMode := 1
  pulseGenMode := 0
  inBufMode := fun _ => 0x07
  gpiCtrl := fun _ => 0
  gpoCtrl := fun _ => 0
  channels := []

/-- The dividers that the registers of PLL2 may hold. -/
structure Pll2.Legal (s : Pll2) : Prop where
  n2_ge : 8 ≤ s.n2.toNat
  n2_le : s.n2.toNat ≤ 65535
  r2_ge : 1 ≤ s.r2.toNat
  r2_le : s.r2.toNat ≤ 4095

namespace Hmc7044Dev

variable (dev : Hmc7044Dev)

/-- Nothing is divided by zero and no product wraps. The setup ends in an error before a register is
written, or PLL2 has legal dividers, which solve if any legal dividers do. -/
def SolvesPll2 : Prop :=
  ∃ r, (hmc7044Setup dev).value = some r ∧ (hmc7044Setup dev).Fits 32 ∧
    (r.ret < 0 ∧ r.writes = [] ∨ r.ret = SUCCESS ∧ ∀ regs : Regs,
      (applyWrites regs r.writes).pll2.Legal ∧
        ((∃ s : Pll2, s.Legal ∧ s.Solves dev.pll2KHz.toNat dev.vcxoKHz.toNat) →
          (applyWrites regs r.writes).pll2.Solves dev.pll2KHz.toNat dev.vcxoKHz.toNat))

lemma SolvesPll2.condition {dev : Hmc7044Dev} (h : dev.SolvesPll2) (hrange : dev.InVcoRange) :
    dev.Pll1Divides ∧ Pll2Fits dev.pll2KHz.toNat dev.vcxoKHz.toNat ∧ dev.Pll2Narrow := by
  obtain ⟨r, hvalue, hfits, -⟩ := h
  have hsome : ¬(hmc7044Setup dev).Fails := by
    rw [Fails, hvalue]
    exact Option.some_ne_none r
  by_cases h1 : dev.Pll1Divides
  · by_cases h2 : Pll2Fits dev.pll2KHz.toNat dev.vcxoKHz.toNat
    · obtain ⟨r', p1, p2, hgives, -⟩ := dev.gives_setup h1 hrange h2
      exact ⟨h1, h2, hgives.fits.mp hfits⟩
    · exact absurd (dev.fails_setup_pll2 h1 hrange h2) hsome
  · exact absurd (dev.fails_setup h1) hsome

lemma solvesPll2_of (h1 : dev.Pll1Divides) (hrange : dev.InVcoRange)
    (h2 : Pll2Fits dev.pll2KHz.toNat dev.vcxoKHz.toNat) (hnarrow : dev.Pll2Narrow) : dev.SolvesPll2 := by
  obtain ⟨r, p1, p2, hgives, hret, -, hof, early, late, hwrites, hlate⟩ := dev.gives_setup h1 hrange h2
  refine ⟨r, hgives.value, hgives.fits.mpr hnarrow, Or.inr ⟨hret, ?_⟩⟩
  intro regs
  rw [hwrites, pll2_applyWrites hlate hof.n2_le hof.r2_le]
  exact ⟨⟨hof.n2_ge, hof.n2_le, hof.r2_pos, hof.r2_le⟩, fun _ => hof.solves⟩

/-- PLL2 is solved exactly for the frequencies whose fractions fit the registers, with and without the
doubler, and have a product that 32 bits hold. -/
theorem setup_solves_pll2_iff (hrange : dev.InVcoRange) : dev.SolvesPll2 ↔
    dev.Pll1Divides ∧ Pll2Fits dev.pll2KHz.toNat dev.vcxoKHz.toNat ∧ dev.Pll2Narrow :=
  ⟨fun h => h.condition hrange, fun h => dev.solvesPll2_of h.1 hrange h.2.1 h.2.2⟩

theorem setup_solves_pll2_at : (plainDev 122880000 2949120000 fun _ => 0).SolvesPll2 :=
  (setup_solves_pll2_iff _ ⟨by decide, by decide⟩).mpr
    ⟨⟨by decide, by decide, by decide +kernel, by decide +kernel⟩,
      ⟨by decide +kernel, by decide +kernel, by decide +kernel, by decide +kernel⟩,
      (by decide +kernel : 2949120 * (122880 * 2 / Nat.gcd 2949120 (122880 * 2)) < 2 ^ 32)⟩

/-- A frequency that is prime to that of the VCXO makes the setup divide by zero. -/
theorem setup_pll2_divides_by_zero : (plainDev 100000000 2500007000 fun _ => 0).InVcoRange ∧
    ¬(plainDev 100000000 2500007000 fun _ => 0).SolvesPll2 := by
  have hrange : (plainDev 100000000 2500007000 fun _ => 0).InVcoRange := ⟨by decide, by decide⟩
  refine ⟨hrange, fun h => ?_⟩
  have hnum := (h.condition hrange).2.1.num
  exact absurd hnum (by decide +kernel : ¬2500007 / Nat.gcd 2500007 (100000 * 2) ≤ 65535)

/-- All references in use and the VCXO are divided to one frequency, and the dividers of PLL1 are in
the ratio of the VCXO and that frequency. -/
structure Referenced (regs : Regs) (lcm : ℕ) : Prop where
  lcm_le : lcm ≤ HMC7044_RECOMM_LCM_MAX.toNat
  clkin : ∀ i, dev.clkinKHz i ≠ 0 →
    (regs (HMC7044_REG_CLKIN_PRESCALER i.val)).toNat * lcm = (dev.clkinKHz i).toNat
  oscin : (regs HMC7044_REG_OSCIN_PRESCALER).toNat * lcm = dev.vcxoKHz.toNat
  ratio : dev.vcxoKHz.toNat * regs.r1 = lcm * regs.n1
  n1_ne : regs.n1 ≠ 0
  r1_ne : regs.r1 ≠ 0

/-- Nothing is divided by zero, and after a success the references are consistent. -/
def ConsistentPll1 : Prop :=
  ∃ r, (hmc7044Setup dev).value = some r ∧
    (r.ret = SUCCESS → ∀ regs : Regs, ∃ lcm, dev.Referenced (applyWrites regs r.writes) lcm)

/-- The greatest common divisor of all frequencies is halved without a remainder until it is small
enough, and no frequency is more than 255 times what is left. -/
def Commensurate : Prop :=
  ∃ k lcm, dev.commonFreq.toNat = lcm * 2 ^ k ∧ lcm ≤ 70000 ∧ (k = 0 ∨ 70000 < lcm * 2) ∧
    dev.vcxoKHz.toNat ≤ 255 * lcm ∧ ∀ i, (dev.clkinKHz i).toNat ≤ 255 * lcm

variable {dev}

lemma Commensurate.lcmFreq (h : dev.Commensurate) : dev.lcmFreq.toNat ∣ dev.commonFreq.toNat ∧
    dev.vcxoKHz.toNat ≤ 255 * dev.lcmFreq.toNat ∧
    ∀ i, (dev.clkinKHz i).toNat ≤ 255 * dev.lcmFreq.toNat := by
  obtain ⟨k, lcm, hcommon, hle, hk, hv, hclkin⟩ := h
  have hk32 : k ≤ 32 := by
    rcases hk with rfl | hlarge
    · omega
    · have hlt := dev.commonFreq.toNat_lt
      rw [hcommon] at hlt
      by_contra hgt
      have hpow : 2 ^ 32 ≤ 2 ^ k := Nat.pow_le_pow_right (by decide) (by lia)
      have hmul : 1 * 2 ^ 32 ≤ lcm * 2 ^ k := Nat.mul_le_mul (by lia) hpow
      lia
  have hlcm : dev.lcmFreq.toNat = lcm := halveLcm_double hk32 hcommon hle hk
  rw [hlcm]
  exact ⟨⟨2 ^ k, hcommon⟩, hv, hclkin⟩

/-- What is left divides the common divisor only if no halving had a remainder. -/
lemma commensurate_of_dvd (hvcxo : dev.vcxoKHz ≠ 0) (hdvd : dev.lcmFreq.toNat ∣ dev.commonFreq.toNat)
    (hv : dev.vcxoKHz.toNat ≤ 255 * dev.lcmFreq.toNat)
    (hclkin : ∀ i, (dev.clkinKHz i).toNat ≤ 255 * dev.lcmFreq.toNat) : dev.Commensurate := by
  have hpos : 0 < dev.vcxoKHz.toNat := Nat.pos_of_ne_zero fun h => hvcxo (UInt32.toNat_inj.mp h)
  have hcommon : dev.commonFreq.toNat ≤ 4294967 :=
    (Nat.le_of_dvd hpos ((dev.dvd_commonFreq _).mp dvd_rfl).1).trans dev.vcxoKHz_le
  obtain ⟨k, hquot, hk⟩ := halveLcm_eq_div 32 dev.commonFreq
  obtain ⟨m, hm⟩ := hdvd
  change dev.lcmFreq.toNat = _ at hquot
  cases k with
  | zero => exact ⟨0, dev.lcmFreq.toNat, by simpa using hquot.symm, dev.lcmFreq_le, Or.inl rfl, hv, hclkin⟩
  | succ k =>
    have hlarge : 70000 < dev.commonFreq.toNat / 2 ^ k := by simpa using hk
    have hhalf : dev.lcmFreq.toNat = dev.commonFreq.toNat / 2 ^ k / 2 := by
      rw [hquot, Nat.pow_succ, Nat.div_div_eq_div_mul]
    have hlow : 35000 ≤ dev.lcmFreq.toNat := by lia
    -- the remainder of the halvings is below `2 ^ (k + 1)`, hence below the divisor
    have hmod := Nat.div_add_mod dev.commonFreq.toNat (2 ^ (k + 1))
    have hrem := Nat.mod_lt dev.commonFreq.toNat (Nat.two_pow_pos (k + 1))
    rw [← hquot] at hmod
    have hpow : 35000 * 2 ^ (k + 1) ≤ dev.lcmFreq.toNat * 2 ^ (k + 1) := Nat.mul_le_mul_right _ hlow
    have hsmall : dev.commonFreq.toNat % 2 ^ (k + 1) < dev.lcmFreq.toNat := by
      rw [Nat.mul_comm] at hmod
      lia
    have hzero : dev.commonFreq.toNat % 2 ^ (k + 1) = 0 := by
      have hdvd : dev.lcmFreq.toNat ∣ dev.commonFreq.toNat % 2 ^ (k + 1) := by
        rw [← Nat.dvd_add_right (Nat.dvd_mul_left dev.lcmFreq.toNat (2 ^ (k + 1))), hmod]
        exact ⟨m, hm⟩
      exact Nat.eq_zero_of_dvd_of_lt hdvd hsmall
    rw [hzero, Nat.mul_comm, Nat.add_zero] at hmod
    refine ⟨k + 1, dev.lcmFreq.toNat, hmod.symm, dev.lcmFreq_le, Or.inr ?_, hv, hclkin⟩
    rwa [← hmod, Nat.pow_succ', ← Nat.mul_assoc, Nat.mul_div_cancel _ (Nat.two_pow_pos k)] at hlarge

lemma toNat_prescaler {i : Fin 4} (h : dev.clkinKHz i ≠ 0) :
    (dev.prescaler i).toNat = (dev.clkinKHz i).toNat / dev.lcmFreq.toNat := by
  rw [prescaler, if_pos h]
  exact UInt32.toNat_div _ _

lemma toUInt8_mul {p f lcm : ℕ} {x : UInt32} (hx : x.toNat = f / lcm) (hdvd : lcm ∣ f) (hle : f ≤ 255 * lcm)
    (hp : p = x.toUInt8.toNat) : p * lcm = f := by
  rw [hp, UInt32.toNat_toUInt8, hx, Nat.mod_eq_of_lt, Nat.div_mul_cancel hdvd]
  exact lt_of_le_of_lt (Nat.div_le_of_le_mul (by rwa [Nat.mul_comm])) (by decide : 255 < 2 ^ 8)

lemma toUInt8_mul_le {f lcm : ℕ} {x : UInt32} (hx : x.toNat = f / lcm) : x.toUInt8.toNat * lcm ≤ f := by
  have hmod : x.toUInt8.toNat ≤ f / lcm := by
    rw [UInt32.toNat_toUInt8, hx]
    exact Nat.mod_le _ _
  exact (Nat.mul_le_mul_right lcm hmod).trans (Nat.div_mul_le_self f lcm)

/-- For commensurate frequencies the reference divider is a small power of two. -/
lemma Pll1Of.of_dvd {p : Pll1} (h : dev.Pll1Of p) (hvcxo : dev.vcxoKHz ≠ 0)
    (hdvd : dev.lcmFreq.toNat ∣ dev.vcxoKHz.toNat) :
    p.r1.toNat ≤ 14 ∧ 0 < p.r1.toNat ∧ 0 < p.n1.toNat ∧
      dev.vcxoKHz.toNat * p.r1.toNat = dev.lcmFreq.toNat * p.n1.toNat := by
  obtain ⟨j, hj, hn, hr⟩ := h.scaled
  have hlcm := dev.lcmFreq_ne_zero hvcxo
  have hpos : 0 < dev.lcmFreq.toNat := Nat.pos_of_ne_zero fun h => hlcm (UInt32.toNat_inj.mp h)
  have hvpos : 0 < dev.vcxoKHz.toNat := Nat.pos_of_ne_zero fun h => hvcxo (UInt32.toNat_inj.mp h)
  have hgcd : Nat.gcd dev.vcxoKHz.toNat dev.lcmFreq.toNat = dev.lcmFreq.toNat := Nat.gcd_eq_right hdvd
  have hle := dev.lcmFreq_le
  have hred1 : (reduced dev.vcxoKHz dev.lcmFreq).1.toNat = dev.vcxoKHz.toNat / dev.lcmFreq.toNat := by
    rw [toNat_reduced.1, hgcd]
  have hred2 : (reduced dev.vcxoKHz dev.lcmFreq).2.toNat = 1 := by
    rw [toNat_reduced.2, hgcd, Nat.div_self hpos]
  have hpfd : (dev.vcxoKHz / (reduced dev.vcxoKHz dev.lcmFreq).1).toNat = dev.lcmFreq.toNat := by
    rw [UInt32.toNat_div, hred1]
    exact Nat.div_div_self hdvd (by lia)
  rw [hred2, Nat.one_mul] at hr
  rw [hred1] at hn
  rw [hpfd] at hj
  have hquot := Nat.div_pos (Nat.le_of_dvd hvpos hdvd) hpos
  have hpow := Nat.two_pow_pos j
  refine ⟨?_, ?_, ?_, ?_⟩
  · rcases hj with rfl | hj
    · rw [hr]
      decide
    · lia
  · lia
  · rw [hn]
    exact Nat.mul_pos hquot hpow
  · rw [hn, hr, ← Nat.mul_assoc, Nat.mul_div_cancel' hdvd]

/-- The registers leave no other frequency than the one that was computed. -/
lemma Pll1Of.lcm_eq {p : Pll1} (h : dev.Pll1Of p) (hvcxo : dev.vcxoKHz ≠ 0) {lcm r1 : ℕ}
    (hr : r1 ≤ p.r1.toNat) (hoscin : (p.inPrescaler 4).toUInt8.toNat * lcm = dev.vcxoKHz.toNat)
    (hratio : dev.vcxoKHz.toNat * r1 = lcm * p.n1.toNat) : lcm = dev.lcmFreq.toNat := by
  obtain ⟨j, -, hn, hr'⟩ := h.scaled
  have hvpos : 0 < dev.vcxoKHz.toNat := Nat.pos_of_ne_zero fun h => hvcxo (UInt32.toNat_inj.mp h)
  have hlow : (p.inPrescaler 4).toUInt8.toNat * dev.lcmFreq.toNat ≤ dev.vcxoKHz.toNat := by
    rw [h.oscin]
    exact toUInt8_mul_le (UInt32.toNat_div _ _)
  rw [← hoscin] at hvpos hratio
  have hp := Nat.pos_of_mul_pos_right hvpos
  have hlcm := Nat.pos_of_mul_pos_left hvpos
  rw [Nat.mul_comm _ lcm, Nat.mul_assoc] at hratio
  have hn1 := Nat.eq_of_mul_eq_mul_left hlcm hratio
  have hred := @reduced_mul dev.vcxoKHz dev.lcmFreq
  -- the numerator is at most the prescaler times the denominator
  have hterms : (reduced dev.vcxoKHz dev.lcmFreq).1.toNat ≤
      (p.inPrescaler 4).toUInt8.toNat * (reduced dev.vcxoKHz dev.lcmFreq).2.toNat := by
    apply Nat.le_of_mul_le_mul_right _ (Nat.two_pow_pos j)
    rw [← hn, ← hn1, Nat.mul_assoc, ← hr']
    exact Nat.mul_le_mul_left _ hr
  obtain ⟨-, hrpos⟩ := reduced_pos hvcxo (dev.lcmFreq_ne_zero hvcxo)
  have hhigh : dev.vcxoKHz.toNat ≤ dev.lcmFreq.toNat * (p.inPrescaler 4).toUInt8.toNat := by
    apply Nat.le_of_mul_le_mul_right _ hrpos
    rw [hred, Nat.mul_assoc]
    exact Nat.mul_le_mul_left _ hterms
  apply Nat.eq_of_mul_eq_mul_left hp
  rw [hoscin]
  exact le_antisymm (by rwa [Nat.mul_comm]) hlow

lemma ConsistentPll1.condition (h : dev.ConsistentPll1) : dev.Pll1Divides ∧
    (dev.InVcoRange → Pll2Fits dev.pll2KHz.toNat dev.vcxoKHz.toNat ∧ dev.Commensurate) := by
  obtain ⟨r, hvalue, hconsistent⟩ := h
  have hsome : ¬(hmc7044Setup dev).Fails := by
    rw [Fails, hvalue]
    exact Option.some_ne_none r
  by_cases h1 : dev.Pll1Divides
  · refine ⟨h1, fun hrange => ?_⟩
    by_cases h2 : Pll2Fits dev.pll2KHz.toNat dev.vcxoKHz.toNat
    · obtain ⟨r', p1, p2, hgives, hret, hof, -, early, late, hwrites, hlate⟩ :=
        dev.gives_setup h1 hrange h2
      obtain rfl : r = r' := Option.some.inj (hvalue.symm.trans hgives.value)
      obtain ⟨lcm, href⟩ := hconsistent hret fun _ => 0
      rw [hwrites] at href
      obtain ⟨-, hclkin, hoscin, hratio, -, -⟩ := href
      rw [oscin_applyWrites hlate] at hoscin
      rw [r1_applyWrites hlate, n1_applyWrites hlate hof.n1_le] at hratio
      obtain rfl := hof.lcm_eq h1.vcxo (Nat.mod_le _ _) hoscin hratio
      have hmul : ∀ i, ∃ p ≤ 255, p * dev.lcmFreq.toNat = (dev.clkinKHz i).toNat := by
        intro i
        by_cases hi : dev.clkinKHz i = 0
        · rw [hi]
          exact ⟨0, by decide, Nat.zero_mul _⟩
        · exact ⟨_, Nat.le_of_lt_succ (UInt8.toNat_lt _), hclkin i hi⟩
      refine ⟨h2, commensurate_of_dvd h1.vcxo ((dev.dvd_commonFreq _).mpr ⟨?_, fun i => ?_⟩) ?_ fun i => ?_⟩
      · exact Dvd.intro_left _ hoscin
      · obtain ⟨p, -, hp⟩ := hmul i
        exact Dvd.intro_left p hp
      · rw [← hoscin]
        exact Nat.mul_le_mul_right _ (Nat.le_of_lt_succ (UInt8.toNat_lt _))
      · obtain ⟨p, hle, hp⟩ := hmul i
        rw [← hp]
        exact Nat.mul_le_mul_right _ hle
    · exact absurd (dev.fails_setup_pll2 h1 hrange h2) hsome
  · exact absurd (dev.fails_setup h1) hsome

lemma Commensurate.referenced (h : dev.Commensurate) (h1 : dev.Pll1Divides) (hrange : dev.InVcoRange)
    (h2 : Pll2Fits dev.pll2KHz.toNat dev.vcxoKHz.toNat) : dev.ConsistentPll1 := by
  obtain ⟨r, p1, p2, hgives, -, hof, -, early, late, hwrites, hlate⟩ := dev.gives_setup h1 hrange h2
  obtain ⟨hdvd, hv, hclkin⟩ := h.lcmFreq
  obtain ⟨hdvd, hdvds⟩ := (dev.dvd_commonFreq _).mp hdvd
  obtain ⟨hle, hrpos, hnpos, hratio⟩ := hof.of_dvd h1.vcxo hdvd
  refine ⟨r, hgives.value, fun _ regs => ⟨dev.lcmFreq.toNat, ?_⟩⟩
  rw [hwrites]
  have hr1 := @r1_applyWrites regs early late p1 p2 hlate
  rw [Nat.mod_eq_of_lt (by lia)] at hr1
  have hn1 := @n1_applyWrites regs early late p1 p2 hlate hof.n1_le
  refine ⟨dev.lcmFreq_le, fun i hi => ?_, ?_, ?_, by lia, by lia⟩
  · apply toUInt8_mul (toNat_prescaler hi) (hdvds i) (hclkin i)
    rw [clkin_applyWrites hlate]
    match i with
    | 0 => exact congrArg (fun x : UInt32 => x.toUInt8.toNat) hof.clkin0
    | 1 => exact congrArg (fun x : UInt32 => x.toUInt8.toNat) hof.clkin1
    | 2 => exact congrArg (fun x : UInt32 => x.toUInt8.toNat) hof.clkin2
    | 3 => exact congrArg (fun x : UInt32 => x.toUInt8.toNat) hof.clkin3
  · apply toUInt8_mul (UInt32.toNat_div dev.vcxoKHz dev.lcmFreq) hdvd hv
    rw [oscin_applyWrites hlate, hof.oscin]
  · rw [hr1, hn1]
    exact hratio

end Hmc7044Dev

end NoOS
