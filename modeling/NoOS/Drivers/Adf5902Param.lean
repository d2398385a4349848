import NoOS.Drivers.Adf5902
import Mathlib.Tactic.Linarith
import Mathlib.Tactic.Positivity

/-!
# The parameters of the VCO of the ADF5902

For parameters within the ranges of the device the reference factor is at most five, so that the search for it ends,
and the words for the integer and the fraction hold their quotient exactly.
-/

namespace NoOS

/-- The parameters that the output frequency depends on are in the ranges of the device. -/
structure Adf5902Settings.InRange (p : Adf5902Settings) : Prop where
  rfOut_le : p.rfOut.toNat ≤ 24250000000
  le_rfOut : 24000000000 ≤ p.rfOut.toNat
  refIn_le : p.refIn.toNat ≤ 260000000
  le_refIn : 10000000 ≤ p.refIn.toNat
  doubler : p.refDoublerEn.toNat ≤ 1
  div2 : p.refDiv2En.toNat ≤ 1

lemma Adf5902Settings.Checked.inRange {p : Adf5902Settings} (h : p.Checked) : p.InRange := by
  obtain ⟨⟨hrf, hrf'⟩, ⟨href, href'⟩, hdoubler, hdiv2, -⟩ := h
  rw [UInt64.le_iff_toNat_le] at hrf hrf' href href'
  refine ⟨hrf, hrf', href, href', ?_, ?_⟩
  · rcases hdoubler with h | h <;> rw [h] <;> decide
  · rcases hdiv2 with h | h <;> rw [h] <;> decide

/-- The settings apart from the divider by two, which only the calibration changes. -/
def Adf5902Settings.base (p : Adf5902Settings) : Adf5902Settings := { p with refDiv2En := 0 }

namespace Adf5902Settings

variable {p : Adf5902Settings}

/-- The frequency behind the doubler. -/
def doubled (p : Adf5902Settings) : ℕ := p.refIn.toNat * (1 + p.refDoublerEn.toNat)

lemma InRange.doubled_le (h : p.InRange) : p.doubled ≤ 520000000 :=
  Nat.mul_le_mul h.refIn_le (Nat.add_le_add_left h.doubler 1)

lemma InRange.le_doubled (h : p.InRange) : 10000000 ≤ p.doubled :=
  h.le_refIn.trans (Nat.le_mul_of_pos_right _ (Nat.add_pos_left Nat.one_pos _))

lemma InRange.toNat_doubled (h : p.InRange) : (p.refIn * (1 + p.refDoublerEn.toUInt64)).toNat = p.doubled := by
  have hfactor : (1 + p.refDoublerEn.toUInt64).toNat = 1 + p.refDoublerEn.toNat := by
    rw [UInt64.toNat_add, UInt8.toNat_toUInt64]
    exact Nat.mod_eq_of_lt (by have := h.doubler; change 1 + _ < 2 ^ 64; omega)
  rw [UInt64.toNat_mul, hfactor]
  exact Nat.mod_eq_of_lt (h.doubled_le.trans_lt (by decide))

lemma InRange.toNat_divisor (h : p.InRange) (r : UInt8) :
    (r.toUInt64 * (1 + p.refDiv2En.toUInt64)).toNat = r.toNat * (1 + p.refDiv2En.toNat) := by
  have hdiv2 := h.div2
  have hr := r.toNat_lt
  have hfactor : (1 + p.refDiv2En.toUInt64).toNat = 1 + p.refDiv2En.toNat := by
    rw [UInt64.toNat_add, UInt8.toNat_toUInt64]
    exact Nat.mod_eq_of_lt (by change 1 + _ < 2 ^ 64; omega)
  rw [UInt64.toNat_mul, hfactor, UInt8.toNat_toUInt64]
  apply Nat.mod_eq_of_lt
  have hprod : r.toNat * (1 + p.refDiv2En.toNat) ≤ 255 * 2 := Nat.mul_le_mul (by omega) (by lia)
  omega

lemma InRange.pfdLoop_succ (h : p.InRange) {r : UInt8} (hr : r.toNat < 255) (fuel : ℕ) :
    ∃ f : UInt64, f.toNat = p.doubled / ((r + 1).toNat * (1 + p.refDiv2En.toNat)) ∧
      p.pfdLoop (fuel + 1) r = if 110000000 < f.toNat then p.pfdLoop fuel (r + 1) else some (r + 1, f) := by
  have hdivisor := h.toNat_divisor (r + 1)
  refine ⟨p.refIn * (1 + p.refDoublerEn.toUInt64) / ((r + 1).toUInt64 * (1 + p.refDiv2En.toUInt64)), ?_, ?_⟩
  · rw [UInt64.toNat_div, h.toNat_doubled, hdivisor]
  · have hpos : 0 < (r + 1).toNat * (1 + p.refDiv2En.toNat) := by
      have hsucc : (r + 1).toNat = r.toNat + 1 := by
        rw [UInt8.toNat_add]
        exact Nat.mod_eq_of_lt (by change r.toNat + 1 < 256; lia)
      rw [hsucc]
      positivity
    have hne : (r + 1).toUInt64 * (1 + p.refDiv2En.toUInt64) ≠ 0 := by
      intro hzero
      rw [hzero] at hdivisor
      exact absurd hdivisor hpos.ne
    rw [pfdLoop]
    dsimp only
    rw [if_neg hne]
    exact if_congr UInt64.lt_iff_toNat_lt rfl rfl

/-- The loop ends with a factor of at most five; the factor before gave too high a frequency. -/
lemma InRange.pfdLoop_from (h : p.InRange) {k fuel : ℕ} {r : UInt8} (hr : r.toNat + k = 5) (hfuel : k ≤ fuel)
    (hbefore : r.toNat = 0 ∨ 110000000 < p.doubled / (r.toNat * (1 + p.refDiv2En.toNat))) :
    ∃ r' f, p.pfdLoop fuel r = some (r', f) ∧ 0 < r'.toNat ∧ r'.toNat ≤ 5 ∧
      f.toNat = p.doubled / (r'.toNat * (1 + p.refDiv2En.toNat)) ∧ 5000000 ≤ f.toNat ∧ f.toNat ≤ 110000000 := by
  have hhigh := h.doubled_le
  have hlow := h.le_doubled
  have hdiv2 := h.div2
  induction k generalizing fuel r with
  | zero =>
    have hle : p.doubled / (r.toNat * (1 + p.refDiv2En.toNat)) ≤ 520000000 / 5 := by
      apply Nat.div_le_div hhigh _ (by decide)
      rw [show r.toNat = 5 by omega]
      lia
    rcases hbefore with hzero | hbefore <;> lia
  | succ k ih =>
    obtain _ | fuel := fuel
    · lia
    · obtain ⟨f, hf, hloop⟩ := h.pfdLoop_succ (show r.toNat < 255 by lia) fuel
      have hsucc : (r + 1).toNat = r.toNat + 1 := by
        rw [UInt8.toNat_add]
        exact Nat.mod_eq_of_lt (by change r.toNat + 1 < 256; lia)
      rw [hloop]
      by_cases hbig : 110000000 < f.toNat
      · rw [if_pos hbig]
        exact ih (by lia) (by lia) (Or.inr (by rwa [← hf]))
      · rw [if_neg hbig]
        refine ⟨r + 1, f, rfl, by lia, by lia, hf, ?_, by lia⟩
        rw [hf, hsucc, Nat.le_div_iff_mul_le (by positivity)]
        rcases hbefore with hzero | hbefore
        · rw [hzero]
          lia
        · have hpos : 0 < r.toNat * (1 + p.refDiv2En.toNat) := by
            by_contra hzero
            rw [Nat.eq_zero_of_not_pos hzero, Nat.div_zero] at hbefore
            omega
          have hmul := (Nat.le_div_iff_mul_le hpos).mp hbefore.le
          have hr : 0 < r.toNat := Nat.pos_of_mul_pos_right hpos
          have hdouble : (r.toNat + 1) * (1 + p.refDiv2En.toNat) ≤ 2 * (r.toNat * (1 + p.refDiv2En.toNat)) := by
            rw [← Nat.mul_assoc]
            exact Nat.mul_le_mul_right _ (by lia)
          lia

lemma InRange.pfdLoop_spec (h : p.InRange) : ∃ r f, p.pfdLoop 256 0 = some (r, f) ∧ 0 < r.toNat ∧ r.toNat ≤ 5 ∧
    f.toNat = p.doubled / (r.toNat * (1 + p.refDiv2En.toNat)) ∧ 5000000 ≤ f.toNat ∧ f.toNat ≤ 110000000 :=
  h.pfdLoop_from (k := 5) rfl (by decide) (Or.inl rfl)

end Adf5902Settings

lemma toUInt32_toUInt64_toInt64 (x : Int32) : x.toInt64.toUInt64.toUInt32 = x.toUInt32 := by
  apply UInt32.toBitVec_inj.mp
  ext i hi
  change (BitVec.setWidth 32 (BitVec.signExtend 64 x.toBitVec))[i] = x.toBitVec[i]
  rw [BitVec.getElem_setWidth, BitVec.getLsbD_signExtend]
  simp [hi, show i < 64 by omega]

namespace Adf5902Dev

/-- The wrapped difference is the fraction, which is smaller than `2 ^ 25`. -/
lemma toNat_fracWord {rfOut fPfd : UInt64} {intDiv : UInt16} (hrf : rfOut.toNat ≤ 24250000000)
    (hpos : 0 < fPfd.toNat) (hf : fPfd.toNat ≤ 110000000)
    (hint : intDiv.toNat = rfOut.toNat / (fPfd.toNat * 2)) :
    (fracWord rfOut fPfd intDiv).toNat < 2 ^ 25 ∧
      intDiv.toNat * 2 ^ 25 + (fracWord rfOut fPfd intDiv).toNat = rfOut.toNat * 2 ^ 25 / (fPfd.toNat * 2) := by
  have hquot : (rfOut * ((1 : UInt64) <<< 25) / (fPfd * 2)).toNat = rfOut.toNat * 2 ^ 25 / (fPfd.toNat * 2) := by
    rw [UInt64.toNat_div, UInt64.toNat_mul, UInt64.toNat_mul]
    change rfOut.toNat * 2 ^ 25 % 2 ^ 64 / (fPfd.toNat * 2 % 2 ^ 64) = _
    rw [Nat.mod_eq_of_lt (by lia), Nat.mod_eq_of_lt (by lia)]
  have hproduct : (intDiv.toUInt32.toInt32 * ((1 : UInt32) <<< 25).toInt32).toUInt32.toNat =
      intDiv.toNat * 2 ^ 25 % 2 ^ 32 := by
    change (intDiv.toUInt32 * ((1 : UInt32) <<< 25)).toNat = _
    rw [UInt32.toNat_mul, UInt16.toNat_toUInt32]
    rfl
  -- the quotient splits into its integer and its fraction
  have hsplit : rfOut.toNat * 2 ^ 25 / (fPfd.toNat * 2) =
      intDiv.toNat * 2 ^ 25 + rfOut.toNat % (fPfd.toNat * 2) * 2 ^ 25 / (fPfd.toNat * 2) := by
    have hdiv := Nat.div_add_mod rfOut.toNat (fPfd.toNat * 2)
    rw [← hint] at hdiv
    have hmul : rfOut.toNat * 2 ^ 25 =
        rfOut.toNat % (fPfd.toNat * 2) * 2 ^ 25 + fPfd.toNat * 2 * (intDiv.toNat * 2 ^ 25) := by
      rw [← Nat.mul_assoc, ← Nat.add_mul, Nat.add_comm, hdiv]
    rw [hmul, Nat.add_mul_div_left _ _ (by lia), Nat.add_comm]
  have hfrac : rfOut.toNat % (fPfd.toNat * 2) * 2 ^ 25 / (fPfd.toNat * 2) < 2 ^ 25 := by
    rw [Nat.div_lt_iff_lt_mul (by lia), Nat.mul_comm]
    exact Nat.mul_lt_mul_of_pos_left (Nat.mod_lt _ (by lia)) (by decide)
  have hwrap : ∀ x y : ℕ, y < 2 ^ 25 → (2 ^ 32 - x % 2 ^ 32 + (x + y) % 2 ^ 32) % 2 ^ 32 = y := by
    intro x y hy
    omega
  have hword : (fracWord rfOut fPfd intDiv).toNat =
      rfOut.toNat % (fPfd.toNat * 2) * 2 ^ 25 / (fPfd.toNat * 2) := by
    rw [fracWord, UInt64.toUInt32_sub, toUInt32_toUInt64_toInt64, UInt32.toNat_sub, hproduct, UInt64.toNat_toUInt32,
      hquot, hsplit]
    exact hwrap _ _ hfrac
  rw [hword]
  exact ⟨hfrac, hsplit.symm⟩

lemma vcoFreqParam_settings {dev dev' : Adf5902Dev} {ret : Int}
    (h : dev.vcoFreqParam = some (ret, dev')) : dev'.toAdf5902Settings = dev.toAdf5902Settings := by
  unfold vcoFreqParam at h
  split at h
  · exact absurd h nofun
  · dsimp only at h
    split_ifs at h <;> obtain ⟨-, rfl⟩ := Prod.mk.inj (Option.some.inj h) <;> rfl

end Adf5902Dev
namespace Adf5902Dev

/-- What `adf5902_vco_freq_param` leaves behind when it succeeds. -/
structure Solved (dev : Adf5902Dev) : Prop where
  factor_pos : 0 < dev.refDivFactor.toNat
  factor_le : dev.refDivFactor.toNat ≤ 31
  fPfd_eq : dev.fPfd.toNat = dev.refIn.toNat * (1 + dev.refDoublerEn.toNat) /
    (dev.refDivFactor.toNat * (1 + dev.refDiv2En.toNat))
  le_fPfd : 5000000 ≤ dev.fPfd.toNat
  fPfd_le : dev.fPfd.toNat ≤ 110000000
  int_le : dev.intDiv.toNat ≤ 0xFFF
  fracMsb_le : dev.fracMsb.toNat ≤ 0xFFF
  fracLsb_le : dev.fracLsb.toNat ≤ 0x1FFF
  word_eq : dev.intDiv.toNat * 2 ^ 25 + (dev.fracMsb.toNat * 2 ^ 13 + dev.fracLsb.toNat) =
    dev.rfOut.toNat * 2 ^ 25 / (dev.fPfd.toNat * 2)
  freqCalDiv_le : dev.freqCalDiv.toNat ≤ 0x3FF
  clk1Div_le : dev.clk1Div.toNat ≤ 0xFFF
  adcClkDiv_le : dev.adcClkDiv.toNat ≤ 0xFF

lemma fracMsb_word (tmp : UInt32) (h : tmp.toNat < 2 ^ 25) :
    ((tmp >>> 13) &&& ADF5902_FRAC_MSB_MSK).toUInt16.toNat = tmp.toNat / 2 ^ 13 := by
  rw [UInt32.toNat_toUInt16, UInt32.toNat_and, UInt32.toNat_shiftRight]
  change (tmp.toNat >>> 13 &&& 2 ^ 12 - 1) % 2 ^ 16 = _
  rw [Nat.and_two_pow_sub_one_eq_mod, Nat.shiftRight_eq_div_pow]
  lia

lemma fracLsb_word (tmp : UInt32) : (tmp &&& ADF5902_FRAC_LSB_MSK).toUInt16.toNat = tmp.toNat % 2 ^ 13 := by
  rw [UInt32.toNat_toUInt16, UInt32.toNat_and]
  change (tmp.toNat &&& 2 ^ 13 - 1) % 2 ^ 16 = _
  rw [Nat.and_two_pow_sub_one_eq_mod]
  lia

lemma vcoFreqParam_spec {dev : Adf5902Dev} (h : dev.toAdf5902Settings.InRange) :
    ∃ ret dev', dev.vcoFreqParam = some (ret, dev') ∧ dev'.toAdf5902Settings = dev.toAdf5902Settings ∧
      (ret = SUCCESS → dev'.Solved) := by
  obtain ⟨r, f, hloop, hrpos, hrle, hf, hlow, hhigh⟩ := h.pfdLoop_spec
  have htwice : (f * 2).toNat = f.toNat * 2 := by
    rw [UInt64.toNat_mul]
    exact Nat.mod_eq_of_lt (by change f.toNat * 2 < 2 ^ 64; lia)
  have hne : f * 2 ≠ 0 := by
    intro hzero
    rw [hzero] at htwice
    change 0 = _ at htwice
    lia
  have hrf := h.rfOut_le
  have hint : (dev.rfOut / (f * 2)).toUInt16.toNat = dev.rfOut.toNat / (f.toNat * 2) := by
    rw [UInt64.toNat_toUInt16, UInt64.toNat_div, htwice]
    apply Nat.mod_eq_of_lt
    rw [Nat.div_lt_iff_lt_mul (by lia)]
    lia
  obtain ⟨hfrac, hword⟩ := toNat_fracWord hrf (by lia) hhigh hint
  unfold vcoFreqParam
  rw [hloop]
  dsimp only
  rw [if_neg hne]
  split_ifs with hwide hcal hclk hadc
  · exact ⟨_, _, rfl, rfl, fun hret => absurd hret (by decide)⟩
  · exact ⟨_, _, rfl, rfl, fun hret => absurd hret (by decide)⟩
  · exact ⟨_, _, rfl, rfl, fun hret => absurd hret (by decide)⟩
  · exact ⟨_, _, rfl, rfl, fun hret => absurd hret (by decide)⟩
  · rw [gt_iff_lt, UInt16.lt_iff_toNat_lt, Nat.not_lt] at hwide hcal hclk hadc
    refine ⟨_, _, rfl, rfl, fun _ => ?_⟩
    have hmsb := fracMsb_word _ hfrac
    have hlsb := fracLsb_word (fracWord dev.rfOut f (dev.rfOut / (f * 2)).toUInt16)
    constructor <;> dsimp only
    · exact hrpos
    · lia
    · exact hf
    · exact hlow
    · exact hhigh
    · exact hwide
    · rw [hmsb]
      lia
    · rw [hlsb]
      lia
    · rw [hmsb, hlsb, ← hword, Nat.mul_comm (_ / _), Nat.div_add_mod]
    · exact hcal
    · exact hclk
    · exact hadc.trans (by decide)

end Adf5902Dev

end NoOS
