import NoOS.Drivers.Ad9361Fastlock
import NoOS.Lib.BitField
import NoOS.Lib.NearestMultiple
import NoOS.Lib.Word
import NoOS.Util.Util

/-!
# The PLLs of the AD9361

The frequency of a PLL is an integer and a fraction of a fixed modulus times the reference. The fraction is rounded to
the nearest step, also to a whole one.
-/

namespace NoOS
open Arith NearestMultiple

def BBPLL_MODULUS : UInt64 := 2088960
def MIN_BBPLL_FREQ : UInt32 := 714928500
def MAX_BBPLL_FREQ : UInt32 := 1430143000
def MIN_SYNTH_FREF : UInt32 := 9999000
def MAX_SYNTH_FREF : UInt32 := 80008000
def MIN_VCO_FREQ_HZ : UInt64 := 6000000000
def MAX_CARRIER_FREQ_HZ : UInt64 := 6000000000
def MIN_RX_CARRIER_FREQ_HZ : UInt64 := 70000000
def MIN_TX_CARRIER_FREQ_HZ : UInt64 := 46875001
def AD9363A_MAX_CARRIER_FREQ_HZ : UInt64 := 3800000000
def AD9363A_MIN_CARRIER_FREQ_HZ : UInt64 := 325000000

def REG_SDM_CTRL_1 : UInt32 := 0x03F
def REG_FRACT_BB_FREQ_WORD_1 : UInt32 := 0x041
def REG_FRACT_BB_FREQ_WORD_2 : UInt32 := 0x042
def REG_FRACT_BB_FREQ_WORD_3 : UInt32 := 0x043
def REG_INTEGER_BB_FREQ_WORD : UInt32 := 0x044
def REG_CP_CURRENT : UInt32 := 0x046
def REG_LOOP_FILTER_3 : UInt32 := 0x04A
def REG_VCO_CTRL : UInt32 := 0x04B
def REG_VCO_PROGRAM_1 : UInt32 := 0x04C
def REG_VCO_PROGRAM_2 : UInt32 := 0x04D
def REG_SDM_CTRL : UInt32 := 0x04E
def INIT_BB_FO_CAL : UInt8 := 0x4
def BBPLL_RESET_BAR : UInt8 := 0x1
def FREQ_CAL_ENABLE : UInt8 := 0x80
def FREQ_CAL_COUNT_LENGTH (x : UInt8) : UInt8 := (x &&& 0x3) <<< 5

/-- The integer and the fraction, the same for both kinds of PLL. -/
def pllWords (modulus rate parentRate : UInt64) : Arith (UInt32 × UInt32) := do
  let (rate, tmp) ← doDiv rate parentRate
  let tmp ← Arith.mul64 tmp modulus
  let (tmp, _) ← doDiv (tmp + (parentRate >>> 1)) parentRate
  return (rate.toUInt32, tmp.toUInt32)

def pllRate (modulus parentRate integer fract : UInt64) : Arith UInt64 := do
  let rate ← Arith.mul64 parentRate fract
  let (rate, _) ← doDiv rate modulus
  let whole ← Arith.mul64 parentRate integer
  return rate + whole

/-- The registers of the device. -/
abbrev BbpllRegs := UInt32 → UInt8

def bbpllFract (regs : BbpllRegs) : UInt32 :=
  ((regs REG_FRACT_BB_FREQ_WORD_1).toUInt32 <<< 16) ||| ((regs REG_FRACT_BB_FREQ_WORD_2).toUInt32 <<< 8) |||
    (regs REG_FRACT_BB_FREQ_WORD_3).toUInt32

def bbpllInteger (regs : BbpllRegs) : UInt32 := (regs REG_INTEGER_BB_FREQ_WORD).toUInt32

def ad9361BbpllRecalcRate (regs : BbpllRegs) (parentRate : UInt32) : Arith UInt32 := do
  let rate ← pllRate BBPLL_MODULUS parentRate.toUInt64 (bbpllInteger regs).toUInt64 (bbpllFract regs).toUInt64
  return rate.toUInt32

/-- The rate as an `int32_t`, with a product of 32 bits for the integer. -/
def ad9361BbpllRoundRate (rate prate : UInt32) : Arith UInt32 :=
  if rate > MAX_BBPLL_FREQ then return MAX_BBPLL_FREQ
  else if rate < MIN_BBPLL_FREQ then return MIN_BBPLL_FREQ
  else do
    let (integer, fract) ← pllWords BBPLL_MODULUS rate.toUInt64 prate.toUInt64
    let tmp ← Arith.mul64 prate.toUInt64 fract.toUInt64
    let (tmp, _) ← doDiv tmp BBPLL_MODULUS
    let whole ← Arith.mul prate integer
    return (tmp + whole.toUInt64).toUInt32

/-- The charge pump current in steps of 25 uA. -/
def bbpllIcpVal (rate parentRate : UInt32) : Arith UInt8 := do
  let tmp ← Arith.mul64 (rate >>> 7).toUInt64 150
  let base ← Arith.mul (parentRate >>> 7) 32
  let (tmp, _) ← doDiv tmp base.toUInt64
  let icpVal := (divRoundClosest tmp.toUInt32 25 - 1).toInt32
  return (max (min icpVal 64) 1).toUInt32.toUInt8

def bbpllWrites (icpVal : UInt8) (integer fract : UInt32) : List (UInt32 × UInt8) :=
  [(REG_CP_CURRENT, icpVal),
    (REG_LOOP_FILTER_3, 0x35), (REG_LOOP_FILTER_3 - 1, 0x5B), (REG_LOOP_FILTER_3 - 2, 0xE8),
    (REG_VCO_CTRL, FREQ_CAL_ENABLE ||| FREQ_CAL_COUNT_LENGTH 3), (REG_SDM_CTRL, 0x10),
    (REG_INTEGER_BB_FREQ_WORD, integer.toUInt8), (REG_FRACT_BB_FREQ_WORD_3, fract.toUInt8),
    (REG_FRACT_BB_FREQ_WORD_2, (fract >>> 8).toUInt8), (REG_FRACT_BB_FREQ_WORD_1, (fract >>> 16).toUInt8),
    (REG_SDM_CTRL_1, INIT_BB_FO_CAL ||| BBPLL_RESET_BAR), (REG_SDM_CTRL_1, BBPLL_RESET_BAR),
    (REG_VCO_PROGRAM_1, 0x86), (REG_VCO_PROGRAM_2, 0x01), (REG_VCO_PROGRAM_2, 0x05)]

/-- `ad9361_bbpll_set_rate`, which returns whether the PLL has locked. -/
def ad9361BbpllSetRate (regs : BbpllRegs) (calDone : Int) (rate parentRate : UInt32) : Arith (Int × BbpllRegs) := do
  let icpVal ← bbpllIcpVal rate parentRate
  let (integer, fract) ← pllWords BBPLL_MODULUS rate.toUInt64 parentRate.toUInt64
  return (calDone, (bbpllWrites icpVal integer fract).foldl (fun r w => Function.update r w.1 w.2) regs)

inductive DevId
  | ad9361
  | ad9364
  | ad9363A
deriving DecidableEq

def ad9361ValidateRfpll (devSel : DevId) (isTx : Bool) (freq : UInt64) : Int :=
  if devSel = .ad9363A then
    if freq > AD9363A_MAX_CARRIER_FREQ_HZ ∨ freq < AD9363A_MIN_CARRIER_FREQ_HZ then -EINVAL else 0
  else if freq > MAX_CARRIER_FREQ_HZ ∨ freq < (if isTx then MIN_TX_CARRIER_FREQ_HZ else MIN_RX_CARRIER_FREQ_HZ) then -EINVAL
  else 0

/-- The `while` loop with fewer than `n` passes. -/
def rfpllVco : ℕ → UInt64 → ℤ → Option (UInt64 × ℤ)
  | 0, _, _ => none
  | n + 1, freq, div => if freq ≤ MIN_VCO_FREQ_HZ then rfpllVco n (freq <<< 1) (div + 1) else some (freq, div)

structure RfpllSetting where
  integer : UInt32
  fract : UInt32
  vcoDiv : ℤ
  vcoFreq : UInt64

/-- The arguments of `ad9361_calc_rfpll_int_freq`. -/
def RfpllSetting.dividers (d : RfpllSetting) : RfpllDividers :=
  ⟨d.integer.toUInt64, d.fract.toUInt64, (UInt32.ofInt d.vcoDiv).toUInt64⟩

/-- The dividers, or the error for the frequency. -/
def ad9361CalcRfpllIntDivder (n : ℕ) (devSel : DevId) (isTx : Bool) (freq parentRate : UInt64) :
    Except Int (Option (Arith RfpllSetting)) :=
  let ret := ad9361ValidateRfpll devSel isTx freq
  if ret ≠ 0 then .error ret
  else .ok ((rfpllVco n freq (-1)).map fun (freq, div) => do
    let (integer, fract) ← pllWords RFPLL_MODULUS freq parentRate
    return ⟨integer, fract, div, freq⟩)

section Words

variable {modulus rate parentRate integer fract : UInt64}

lemma gives_pllWords (hmod : modulus.toNat ≤ 2 ^ 23) (hpos : 0 < parentRate.toNat) (hp : parentRate.toNat < 2 ^ 32)
    (hrate : rate.toNat / parentRate.toNat < 2 ^ 32) :
    ∃ w : UInt32 × UInt32, Gives 64 (pllWords modulus rate parentRate) w True ∧
      w.1.toNat = rate.toNat / parentRate.toNat ∧ w.2.toNat = fraction modulus.toNat parentRate.toNat rate.toNat := by
  have hne := Word.ne_zero_of_pos64 hpos
  have hrem := Nat.mod_lt rate.toNat hpos
  have hproduct : (rate % parentRate).toNat * modulus.toNat < 2 ^ 56 := by
    rw [UInt64.toNat_mod]
    calc rate.toNat % parentRate.toNat * modulus.toNat ≤ 2 ^ 32 * 2 ^ 23 := Nat.mul_le_mul (by lia) hmod
      _ < 2 ^ 56 := by decide
  have hhalf : (parentRate >>> 1).toNat = parentRate.toNat / 2 := by
    rw [UInt64.toNat_shiftRight, Nat.shiftRight_eq_div_pow]
    rfl
  have hnumerator : (rate % parentRate * modulus + (parentRate >>> 1)).toNat =
      rate.toNat % parentRate.toNat * modulus.toNat + parentRate.toNat / 2 := by
    have hmul : (rate % parentRate * modulus).toNat = rate.toNat % parentRate.toNat * modulus.toNat := by
      rw [Word.toNat_mul64 (by lia), UInt64.toNat_mod]
    rw [UInt64.toNat_mod] at hproduct
    rw [Word.toNat_add64 (by rw [hmul, hhalf]; lia), hmul, hhalf]
  have hfract := @fraction_le modulus.toNat parentRate.toNat rate.toNat hpos
  refine ⟨⟨(rate / parentRate).toUInt32,
    ((rate % parentRate * modulus + (parentRate >>> 1)) / parentRate).toUInt32⟩, ?_, ?_, ?_⟩
  · refine Gives.congr (φ := True ∧ (rate % parentRate).toNat * modulus.toNat < 2 ^ 64 ∧ True ∧ True) ?_
      (by simp only [hproduct.trans (by decide : 2 ^ 56 < 2 ^ 64), and_self])
    unfold pllWords
    apply (gives_doDiv hne).bind
    apply Gives.mul64.bind
    apply (gives_doDiv hne).bind
    exact Gives.pure
  · rw [UInt64.toNat_toUInt32, UInt64.toNat_div, Nat.mod_eq_of_lt hrate]
  · rw [fraction, rounded] at hfract ⊢
    rw [UInt64.toNat_toUInt32, UInt64.toNat_div, hnumerator, Nat.mod_eq_of_lt (by lia)]

lemma gives_pllRate (hmod : 0 < modulus.toNat) (hp : parentRate.toNat < 2 ^ 32) (hi : integer.toNat < 2 ^ 30)
    (hf : fract.toNat < 2 ^ 30) :
    Gives 64 (pllRate modulus parentRate integer fract) (parentRate * fract / modulus + parentRate * integer) True ∧
      (parentRate * fract / modulus + parentRate * integer).toNat =
        fractionRate modulus.toNat parentRate.toNat integer.toNat fract.toNat := by
  have hbound : ∀ x < 2 ^ 30, parentRate.toNat * x < 2 ^ 62 := fun x hx =>
    calc parentRate.toNat * x ≤ parentRate.toNat * 2 ^ 30 := Nat.mul_le_mul_left _ hx.le
      _ < 2 ^ 62 := by lia
  have hfract := hbound _ hf
  have hint := hbound _ hi
  have hdiv : (parentRate * fract / modulus).toNat = parentRate.toNat * fract.toNat / modulus.toNat := by
    rw [UInt64.toNat_div, Word.toNat_mul64 (by lia)]
  have hle := Nat.div_le_self (parentRate.toNat * fract.toNat) modulus.toNat
  constructor
  · refine Gives.congr (φ := parentRate.toNat * fract.toNat < 2 ^ 64 ∧ True ∧
      parentRate.toNat * integer.toNat < 2 ^ 64 ∧ True) ?_ (iff_true_intro ⟨by lia, trivial, by lia, trivial⟩)
    unfold pllRate
    apply Gives.mul64.bind
    apply (gives_doDiv (Word.ne_zero_of_pos64 hmod)).bind
    apply Gives.mul64.bind
    exact Gives.pure
  · rw [Word.toNat_add64 (by rw [hdiv, Word.toNat_mul64 (by lia)]; lia), hdiv, Word.toNat_mul64 (by lia)]
    rfl

end Words

variable {n k : ℕ} {freq : UInt64} {div : ℤ} {devSel : DevId} {isTx : Bool}

/-- The loop ends with the first multiple that is above the minimum. -/
lemma rfpllVco_eq (hn : k < n) (hbelow : ∀ j < k, freq.toNat * 2 ^ j ≤ MIN_VCO_FREQ_HZ.toNat)
    (habove : MIN_VCO_FREQ_HZ.toNat < freq.toNat * 2 ^ k) :
    ∃ vco : UInt64, rfpllVco n freq div = some (vco, div + k) ∧ vco.toNat = freq.toNat * 2 ^ k := by
  induction k generalizing n freq div with
  | zero =>
    obtain ⟨n, rfl⟩ := Nat.exists_eq_succ_of_ne_zero hn.ne'
    rw [pow_zero, Nat.mul_one] at habove
    refine ⟨freq, ?_, by rw [pow_zero, Nat.mul_one]⟩
    rw [rfpllVco, if_neg (by rw [UInt64.le_iff_toNat_le]; omega), Nat.cast_zero, Int.add_zero]
  | succ k ih =>
    obtain ⟨n, rfl⟩ := Nat.exists_eq_succ_of_ne_zero (Nat.ne_of_gt (Nat.zero_lt_of_lt hn))
    have hle : freq.toNat ≤ MIN_VCO_FREQ_HZ.toNat := by
      have hfirst := hbelow 0 (Nat.succ_pos k)
      rwa [pow_zero, Nat.mul_one] at hfirst
    have hdouble : (freq <<< 1).toNat = freq.toNat * 2 := by
      rw [UInt64.toNat_shiftLeft, Nat.shiftLeft_eq]
      change freq.toNat * 2 % 2 ^ 64 = _
      change freq.toNat ≤ 6000000000 at hle
      lia
    obtain ⟨vco, hloop, hvco⟩ := @ih n (freq <<< 1) (div + 1) (Nat.lt_of_succ_lt_succ hn)
      (fun j hj => by
        rw [hdouble, Nat.mul_assoc, ← Nat.pow_succ']
        exact hbelow (j + 1) (Nat.succ_lt_succ hj))
      (by rwa [hdouble, Nat.mul_assoc, ← Nat.pow_succ'])
    refine ⟨vco, ?_, by rw [hvco, hdouble, Nat.mul_assoc, ← Nat.pow_succ']⟩
    rw [rfpllVco, if_pos (UInt64.le_iff_toNat_le.mpr hle), hloop, Nat.cast_succ, Int.add_assoc, Int.add_comm 1]

lemma validated (h : ad9361ValidateRfpll devSel isTx freq = 0) : 46875001 ≤ freq.toNat ∧ freq.toNat ≤ 6000000000 := by
  have hrange : ∀ {lo hi : UInt64}, ¬(freq > hi ∨ freq < lo) → lo.toNat ≤ freq.toNat ∧ freq.toNat ≤ hi.toNat := by
    intro lo hi hnot
    rw [not_or, gt_iff_lt, UInt64.not_lt, UInt64.not_lt] at hnot
    exact ⟨UInt64.le_iff_toNat_le.mp hnot.2, UInt64.le_iff_toNat_le.mp hnot.1⟩
  have hokay : ∀ {c : Prop} [Decidable c], (if c then -EINVAL else 0) = 0 → ¬c := fun hif hc => by
    rw [if_pos hc] at hif
    exact absurd hif (by decide)
  unfold ad9361ValidateRfpll at h
  by_cases hdev : devSel = .ad9363A
  · rw [if_pos hdev] at h
    obtain ⟨hlow, hhigh⟩ := hrange (hokay h)
    change 325000000 ≤ _ at hlow
    change _ ≤ 3800000000 at hhigh
    lia
  · rw [if_neg hdev] at h
    obtain ⟨hlow, hhigh⟩ := hrange (hokay h)
    change _ ≤ 6000000000 at hhigh
    cases isTx with
    | true => exact ⟨hlow, hhigh⟩
    | false =>
      change 70000000 ≤ _ at hlow
      lia

lemma exists_doubling {f : ℕ} (hlow : 46875001 ≤ f) (hhigh : f ≤ 6000000000) : ∃ k < 7,
    6000000000 < f * 2 ^ (k + 1) ∧ f * 2 ^ (k + 1) ≤ 12000000000 ∧ ∀ j < k + 1, f * 2 ^ j ≤ 6000000000 := by
  classical
  have hseven : 6000000000 < f * 2 ^ 7 := by lia
  have hexists : ∃ k, 6000000000 < f * 2 ^ k := ⟨7, hseven⟩
  have hle : Nat.find hexists ≤ 7 := Nat.find_le hseven
  have habove := Nat.find_spec hexists
  have hbelow : ∀ j < Nat.find hexists, f * 2 ^ j ≤ 6000000000 := fun j hj => Nat.le_of_not_lt (Nat.find_min hexists hj)
  cases hfind : Nat.find hexists with
  | zero =>
    rw [hfind, pow_zero, Nat.mul_one] at habove
    omega
  | succ k =>
    rw [hfind] at hle habove hbelow
    have hlast := hbelow k (Nat.lt_succ_self k)
    refine ⟨k, hle, habove, ?_, hbelow⟩
    rw [pow_succ, ← Nat.mul_assoc]
    lia

/-- What the dividers for `freq` are, from a reference of `ref`. -/
structure RfpllSetting.Right (d : RfpllSetting) (freq ref : ℕ) : Prop where
  div_nonneg : 0 ≤ d.vcoDiv
  div_le : d.vcoDiv ≤ 6
  vco : d.vcoFreq.toNat = freq * 2 ^ (d.vcoDiv + 1).toNat
  vco_low : 6000000000 < d.vcoFreq.toNat
  vco_high : d.vcoFreq.toNat ≤ 12000000000
  integer : d.integer.toNat < 2 ^ 11
  fract : d.fract.toNat ≤ RFPLL_MODULUS.toNat
  /-- Only a frequency just below a multiple of the reference has the modulus as its fraction. -/
  fract_eq : d.fract.toNat = RFPLL_MODULUS.toNat ↔ (ref - d.vcoFreq.toNat % ref) * RFPLL_MODULUS.toNat ≤ ref / 2

lemma calcRfpllIntDivder_ok (hfreq : ad9361ValidateRfpll devSel isTx freq = 0) {ref : UInt32} (hmin : MIN_SYNTH_FREF ≤ ref) :
    ∃ x d, ad9361CalcRfpllIntDivder (n + 8) devSel isTx freq ref.toUInt64 = .ok (some x) ∧ Gives 64 x d True ∧
      d.Right freq.toNat ref.toNat ∧ d.integer.toNat = d.vcoFreq.toNat / ref.toNat ∧
      d.fract.toNat = fraction RFPLL_MODULUS.toNat ref.toNat d.vcoFreq.toNat := by
  have href : 9999000 ≤ ref.toNat := UInt32.le_iff_toNat_le.mp hmin
  have hlt := ref.toNat_lt
  obtain ⟨hlow, hhigh⟩ := validated hfreq
  obtain ⟨k, hk, habove, hmax, hbelow⟩ := exists_doubling hlow hhigh
  obtain ⟨vco, hloop, hvco⟩ := @rfpllVco_eq (n + 8) (k + 1) freq (-1) (by lia) hbelow habove
  have hwide : ref.toUInt64.toNat = ref.toNat := UInt32.toNat_toUInt64 ref
  have hinteger : vco.toNat / ref.toNat < 2 ^ 11 := by
    rw [Nat.div_lt_iff_lt_mul (by lia)]
    lia
  obtain ⟨w, hgives, hint, hfract⟩ := @gives_pllWords RFPLL_MODULUS vco ref.toUInt64 (by decide) (by rw [hwide]; lia)
    (by rw [hwide]; exact hlt) (by rw [hwide]; lia)
  rw [hwide] at hint hfract
  have hdiv : (-1 + ((k + 1 : ℕ) : ℤ) : ℤ) = k := by lia
  have hpure : Gives 64 (pure ⟨w.1, w.2, (k : ℤ), vco⟩ : Arith RfpllSetting) ⟨w.1, w.2, k, vco⟩ True := Gives.pure
  refine ⟨pllWords RFPLL_MODULUS vco ref.toUInt64 >>= fun w => pure ⟨w.1, w.2, k, vco⟩, ⟨w.1, w.2, k, vco⟩, ?_,
    (hgives.bind hpure).congr (and_self_iff), ?_, hint, hfract⟩
  · unfold ad9361CalcRfpllIntDivder
    dsimp only
    rw [if_neg (not_not.mpr hfreq), hloop, hdiv]
    rfl
  · constructor
    · exact Int.natCast_nonneg k
    · change (k : ℤ) ≤ 6
      lia
    · exact hvco
    · exact hvco ▸ habove
    · exact hvco ▸ hmax
    · exact hint ▸ hinteger
    · exact hfract ▸ fraction_le (by lia)
    · change w.2.toNat = _ ↔ _
      rw [hfract]
      exact fraction_eq_iff (by lia)

/-- The frequency of the dividers is off by half a step of the fraction and what is cut off. -/
lemma calcRfpllIntFreq_near {d : RfpllSetting} {f : ℕ} {ref : UInt32} (hmin : MIN_SYNTH_FREF ≤ ref) (h : d.Right f ref.toNat)
    (hint : d.integer.toNat = d.vcoFreq.toNat / ref.toNat)
    (hfract : d.fract.toNat = fraction RFPLL_MODULUS.toNat ref.toNat d.vcoFreq.toNat) :
    |((calcRfpllIntFreq ref.toUInt64 d.dividers).toNat : ℚ) - f| ≤
      ref.toNat / (2 * RFPLL_MODULUS.toNat * 2 ^ (d.vcoDiv + 1).toNat) + 1 := by
  have href : 9999000 ≤ ref.toNat := UInt32.le_iff_toNat_le.mp hmin
  have hwide : ∀ x : UInt32, x.toUInt64.toNat = x.toNat := UInt32.toNat_toUInt64
  obtain ⟨k, hk⟩ := Int.eq_ofNat_of_zero_le h.div_nonneg
  have hk6 : k ≤ 6 := by
    have hle := h.div_le
    lia
  have hsucc : (d.vcoDiv + 1).toNat = k + 1 := by lia
  have hshift : ((UInt32.ofInt d.vcoDiv).toUInt64 + 1).toNat = k + 1 := by
    rw [hk, Word.ofInt_natCast, UInt64.toNat_add, hwide, UInt32.toNat_ofNat_of_lt' (hk6.trans_lt (by decide))]
    change (k + 1) % 2 ^ 64 = _
    lia
  have hfractLe := h.fract
  have hintLt := h.integer
  have hr := (@gives_pllRate RFPLL_MODULUS ref.toUInt64 d.integer.toUInt64 d.fract.toUInt64 (by decide)
    (by rw [hwide]; exact ref.toNat_lt) (by rw [hwide]; lia) (by rw [hwide]; exact hfractLe.trans_lt (by decide))).2
  rw [hwide, hwide, hwide, hint, hfract, h.vco, hsucc] at hr
  change |(((_ : UInt64) >>> ((UInt32.ofInt d.vcoDiv).toUInt64 + 1)).toNat : ℚ) - f| ≤ _
  rw [UInt64.toNat_shiftRight, hshift, Nat.mod_eq_of_lt (by lia : k + 1 < 64), Nat.shiftRight_eq_div_pow]
  change |((UInt64.toNat (ref.toUInt64 * d.fract.toUInt64 / RFPLL_MODULUS + ref.toUInt64 * d.integer.toUInt64) / 2 ^ (k + 1) :
    ℕ) : ℚ) - f| ≤ _
  rw [hr, hsucc]
  have hnear := @abs_fractionRate_sub_le (2 ^ (k + 1)) RFPLL_MODULUS.toNat ref.toNat f (by decide) (by lia)
    (Nat.two_pow_pos _)
  rwa [Nat.cast_pow, Nat.cast_ofNat] at hnear

section Bbpll

variable {rate ref : UInt32} {regs : BbpllRegs}

lemma gives_bbpllRoundRate (hlow : MIN_BBPLL_FREQ ≤ rate) (hhigh : rate ≤ MAX_BBPLL_FREQ) (hmin : MIN_SYNTH_FREF ≤ ref)
    (hmax : ref ≤ MAX_SYNTH_FREF) : ∃ r, Gives 64 (ad9361BbpllRoundRate rate ref) r True ∧
      r.toNat = fractionRate BBPLL_MODULUS.toNat ref.toNat (rate.toNat / ref.toNat)
        (fraction BBPLL_MODULUS.toNat ref.toNat rate.toNat) ∧ r.toNat ≤ rate.toNat + ref.toNat := by
  have hwide : ∀ x : UInt32, x.toUInt64.toNat = x.toNat := UInt32.toNat_toUInt64
  have href : 9999000 ≤ ref.toNat := UInt32.le_iff_toNat_le.mp hmin
  have href' : ref.toNat ≤ 80008000 := UInt32.le_iff_toNat_le.mp hmax
  have hrate : rate.toNat ≤ 1430143000 := UInt32.le_iff_toNat_le.mp hhigh
  have hle := Nat.div_le_self rate.toNat ref.toNat
  obtain ⟨⟨integer, fract⟩, hgives, hint, hfract⟩ := @gives_pllWords BBPLL_MODULUS rate.toUInt64 ref.toUInt64 (by decide)
    (by rw [hwide]; omega) (by rw [hwide]; omega) (by rw [hwide, hwide]; lia)
  rw [hwide, hwide] at hint hfract
  dsimp only at hint hfract
  have hfractLe : fract.toNat ≤ BBPLL_MODULUS.toNat := hfract ▸ fraction_le (by omega)
  have hwhole : ref.toNat * integer.toNat ≤ rate.toNat := hint ▸ Nat.mul_div_le _ _
  have hproduct : ref.toNat * fract.toNat ≤ ref.toNat * 2088960 := Nat.mul_le_mul_left _ hfractLe
  have hpart : ref.toNat * fract.toNat / BBPLL_MODULUS.toNat ≤ ref.toNat :=
    Nat.div_le_of_le_mul (by rw [Nat.mul_comm BBPLL_MODULUS.toNat]; exact hproduct)
  refine ⟨(ref.toUInt64 * fract.toUInt64 / BBPLL_MODULUS + (ref * integer).toUInt64).toUInt32, ?_, ?_⟩
  · rw [ad9361BbpllRoundRate, if_neg (UInt32.not_lt.mpr hhigh), if_neg (UInt32.not_lt.mpr hlow)]
    refine Gives.congr (φ := True ∧ ref.toUInt64.toNat * fract.toUInt64.toNat < 2 ^ 64 ∧ True ∧
      ref.toNat * integer.toNat < 2 ^ 64 ∧ True) ?_ (iff_true_intro ⟨trivial, ?_, trivial, by lia, trivial⟩)
    · apply hgives.bind
      apply Gives.mul64.bind
      apply (gives_doDiv (by decide)).bind
      apply Gives.mul.bind
      exact Gives.pure
    · rw [hwide, hwide]
      lia
  · have hsum : (ref.toUInt64 * fract.toUInt64 / BBPLL_MODULUS + (ref * integer).toUInt64).toUInt32.toNat =
        ref.toNat * fract.toNat / BBPLL_MODULUS.toNat + ref.toNat * integer.toNat := by
      have hmul : (ref.toUInt64 * fract.toUInt64).toNat = ref.toNat * fract.toNat := by
        rw [Word.toNat_mul64 (by rw [hwide, hwide]; lia), hwide, hwide]
      have hmul' : (ref * integer).toNat = ref.toNat * integer.toNat := by
        rw [UInt32.toNat_mul, Nat.mod_eq_of_lt (by lia)]
      rw [UInt64.toNat_toUInt32, Word.toNat_add64 (by rw [UInt64.toNat_div, hmul, hwide, hmul']; lia), UInt64.toNat_div,
        hmul, hwide, hmul', Nat.mod_eq_of_lt (by lia)]
    rw [hsum, ← hint, ← hfract]
    exact ⟨rfl, by lia⟩

lemma bbpllFract_writes {icpVal : UInt8} {integer fract : UInt32} (h : fract.toNat < 2 ^ 24) :
    bbpllFract ((bbpllWrites icpVal integer fract).foldl (fun r w => Function.update r w.1 w.2) regs) = fract := by
  have hbyte : ∀ x : UInt32, x.toUInt8.toUInt32.toNat = x.toNat % 256 := fun x => by
    rw [UInt8.toNat_toUInt32, UInt32.toNat_toUInt8]
  have hshift : ∀ k < 32, (fract >>> UInt32.ofNat k).toNat = fract.toNat / 2 ^ k := fun k hk => by
    rw [UInt32.toNat_shiftRight, UInt32.toNat_ofNat_of_lt' (hk.trans (by decide)), Nat.mod_eq_of_lt hk,
      Nat.shiftRight_eq_div_pow]
  have hlow : ((fract >>> 8).toUInt8.toUInt32 <<< 8 ||| fract.toUInt8.toUInt32).toNat = fract.toNat % 2 ^ 16 := by
    rw [show (8 : UInt32) = UInt32.ofNat 8 from rfl, BitField.toNat_or_shiftLeft 8 _ _ (by decide)
      (by rw [hbyte]; lia) (by rw [hbyte]; lia), hbyte, hbyte, hshift 8 (by decide)]
    lia
  apply UInt32.toNat_inj.mp
  change ((fract >>> 16).toUInt8.toUInt32 <<< 16 ||| (fract >>> 8).toUInt8.toUInt32 <<< 8 ||| fract.toUInt8.toUInt32).toNat = _
  rw [UInt32.or_assoc, show (16 : UInt32) = UInt32.ofNat 16 from rfl, BitField.toNat_or_shiftLeft 16 _ _ (by decide)
    (by rw [hlow]; lia) (by rw [hbyte]; lia), hlow, hbyte, hshift 16 (by decide)]
  lia

lemma bbpllInteger_writes {icpVal : UInt8} {integer fract : UInt32} (h : integer.toNat < 256) :
    bbpllInteger ((bbpllWrites icpVal integer fract).foldl (fun r w => Function.update r w.1 w.2) regs) = integer := by
  apply UInt32.toNat_inj.mp
  change integer.toUInt8.toUInt32.toNat = _
  rw [UInt8.toNat_toUInt32, UInt32.toNat_toUInt8, Nat.mod_eq_of_lt h]

lemma gives_bbpllIcpVal (hrate : rate.toNat < 2 ^ 31) (href : 9999000 ≤ ref.toNat) (href' : ref.toNat ≤ 80008000) :
    ∃ icpVal, Gives 64 (bbpllIcpVal rate ref) icpVal True := by
  have hseven : ∀ x : UInt32, (x >>> 7).toNat = x.toNat / 128 := fun x => by
    rw [UInt32.toNat_shiftRight, Nat.shiftRight_eq_div_pow]
    rfl
  have hbase : ((ref >>> 7) * 32).toUInt64 ≠ 0 := by
    apply Word.ne_zero_of_pos64
    rw [UInt32.toNat_toUInt64, UInt32.toNat_mul, hseven]
    change 0 < ref.toNat / 128 * 32 % 2 ^ 32
    lia
  refine ⟨(max (min (divRoundClosest ((rate >>> 7).toUInt64 * (150 : UInt64) / ((ref >>> 7) * 32).toUInt64).toUInt32 25 - 1).toInt32
    64) 1).toUInt32.toUInt8, Gives.congr (φ := (rate >>> 7).toUInt64.toNat * 150 < 2 ^ 64 ∧ (ref >>> 7).toNat * 32 < 2 ^ 64 ∧ True ∧ True)
    ?_ (iff_true_intro ⟨?_, ?_, trivial, trivial⟩)⟩
  · apply Gives.mul64.bind
    apply Gives.mul.bind
    apply (gives_doDiv hbase).bind
    exact Gives.pure
  · rw [UInt32.toNat_toUInt64, hseven]
    lia
  · rw [hseven]
    lia

lemma gives_bbpllSetRate {calDone : Int} (hrate : rate.toNat < 2 ^ 31) (hmin : MIN_SYNTH_FREF ≤ ref)
    (hmax : ref ≤ MAX_SYNTH_FREF) : ∃ regs', Gives 64 (ad9361BbpllSetRate regs calDone rate ref) (calDone, regs') True ∧
      (bbpllInteger regs').toNat = rate.toNat / ref.toNat ∧
      (bbpllFract regs').toNat = fraction BBPLL_MODULUS.toNat ref.toNat rate.toNat := by
  have hwide : ∀ x : UInt32, x.toUInt64.toNat = x.toNat := UInt32.toNat_toUInt64
  have href : 9999000 ≤ ref.toNat := UInt32.le_iff_toNat_le.mp hmin
  have href' : ref.toNat ≤ 80008000 := UInt32.le_iff_toNat_le.mp hmax
  have hinteger : rate.toNat / ref.toNat < 256 := by
    rw [Nat.div_lt_iff_lt_mul (by omega)]
    lia
  obtain ⟨⟨integer, fract⟩, hgives, hint, hfract⟩ := @gives_pllWords BBPLL_MODULUS rate.toUInt64 ref.toUInt64 (by decide)
    (by rw [hwide]; omega) (by rw [hwide]; omega) (by rw [hwide, hwide]; omega)
  rw [hwide, hwide] at hint hfract
  dsimp only at hint hfract
  have hfractLe : fract.toNat ≤ BBPLL_MODULUS.toNat := hfract ▸ fraction_le (by lia)
  obtain ⟨icpVal, hicp⟩ := @gives_bbpllIcpVal rate ref hrate href href'
  refine ⟨(bbpllWrites icpVal integer fract).foldl (fun r w => Function.update r w.1 w.2) regs, ?_, ?_, ?_⟩
  · refine Gives.congr (φ := True ∧ True ∧ True) ?_ (by simp only [and_self])
    apply hicp.bind
    apply hgives.bind
    exact Gives.pure
  · rw [bbpllInteger_writes (hint ▸ hinteger), hint]
  · rw [bbpllFract_writes (hfractLe.trans_lt (by decide)), hfract]

lemma gives_bbpllRecalcRate {r : ℕ}
    (hr : fractionRate BBPLL_MODULUS.toNat ref.toNat (bbpllInteger regs).toNat (bbpllFract regs).toNat = r)
    (hfract : (bbpllFract regs).toNat < BBPLL_MODULUS.toNat) :
    Gives 64 (ad9361BbpllRecalcRate regs ref) (UInt32.ofNat r) True := by
  have hwide : ∀ x : UInt32, x.toUInt64.toNat = x.toNat := UInt32.toNat_toUInt64
  have hbyte : (bbpllInteger regs).toNat < 2 ^ 8 := (regs REG_INTEGER_BB_FREQ_WORD).toNat_lt
  obtain ⟨hgives, hr'⟩ := @gives_pllRate BBPLL_MODULUS ref.toUInt64 (bbpllInteger regs).toUInt64
    (bbpllFract regs).toUInt64 (by decide) (by rw [hwide]; exact ref.toNat_lt) (by rw [hwide]; lia)
    (by rw [hwide]; exact hfract.trans (by decide))
  rw [hwide, hwide, hwide, hr] at hr'
  have hword : (ref.toUInt64 * (bbpllFract regs).toUInt64 / BBPLL_MODULUS +
      ref.toUInt64 * (bbpllInteger regs).toUInt64).toUInt32 = UInt32.ofNat r := by
    apply UInt32.toNat_inj.mp
    rw [UInt64.toNat_toUInt32, hr', UInt32.toNat_ofNat']
  rw [← hword]
  refine Gives.congr (φ := True ∧ True) ?_ and_self_iff
  exact hgives.bind Gives.pure

end Bbpll

/-- The RFPLL has the integer and the fraction of its frequency, which may be a whole step, and the BBPLL reads back the
rate that was rounded. -/
theorem ad9361_pll_words (n : ℕ) (devSel : DevId) (isTx : Bool) (freq : UInt64)
    (hfreq : ad9361ValidateRfpll devSel isTx freq = 0) (ref : UInt32) (hmin : MIN_SYNTH_FREF ≤ ref)
    (hmax : ref ≤ MAX_SYNTH_FREF) (regs : BbpllRegs) (calDone : Int) (rate : UInt32) (hlow : MIN_BBPLL_FREQ ≤ rate)
    (hhigh : rate ≤ MAX_BBPLL_FREQ) :
    (∃ x d, ad9361CalcRfpllIntDivder (n + 8) devSel isTx freq ref.toUInt64 = .ok (some x) ∧ Gives 64 x d True ∧
      d.Right freq.toNat ref.toNat ∧
      |((calcRfpllIntFreq ref.toUInt64 d.dividers).toNat : ℚ) - freq.toNat| ≤
        ref.toNat / (2 * RFPLL_MODULUS.toNat * 2 ^ (d.vcoDiv + 1).toNat) + 1) ∧
    ∃ r regs', Gives 64 (ad9361BbpllRoundRate rate ref) r True ∧
      Gives 64 (ad9361BbpllSetRate regs calDone r ref) (calDone, regs') True ∧
      Gives 64 (ad9361BbpllRecalcRate regs' ref) r True ∧ (bbpllFract regs').toNat < BBPLL_MODULUS.toNat ∧
      r.toNat = fractionRate BBPLL_MODULUS.toNat ref.toNat (rate.toNat / ref.toNat)
        (fraction BBPLL_MODULUS.toNat ref.toNat rate.toNat) ∧
      r.toNat < 2 ^ 31 ∧ ref.toNat * (rate.toNat / ref.toNat) < 2 ^ 32 ∧ (ref >>> 7).toNat * 32 < 2 ^ 32 := by
  constructor
  · obtain ⟨x, d, hcalc, hgives, hright, hint, hfract⟩ := @calcRfpllIntDivder_ok n freq devSel isTx hfreq ref hmin
    exact ⟨x, d, hcalc, hgives, hright, calcRfpllIntFreq_near hmin hright hint hfract⟩
  · have href : 9999000 ≤ ref.toNat := UInt32.le_iff_toNat_le.mp hmin
    have href' : ref.toNat ≤ 80008000 := UInt32.le_iff_toNat_le.mp hmax
    have hrate : rate.toNat ≤ 1430143000 := UInt32.le_iff_toNat_le.mp hhigh
    have hwhole := Nat.mul_div_le rate.toNat ref.toNat
    obtain ⟨r, hround, hr, hle⟩ := gives_bbpllRoundRate hlow hhigh hmin hmax
    obtain ⟨regs', hset, hint, hfract⟩ := @gives_bbpllSetRate r ref regs calDone (by omega) hmin hmax
    have hstep : 2 * BBPLL_MODULUS.toNat ≤ ref.toNat := href.trans' (by decide)
    obtain ⟨hlt, hagain⟩ := fractionRate_again (by decide) hstep hr
    rw [← hint, ← hfract] at hagain
    rw [← hfract] at hlt
    have hrecalc := gives_bbpllRecalcRate hagain hlt
    rw [UInt32.ofNat_toNat] at hrecalc
    refine ⟨r, regs', hround, hset, hrecalc, hlt, hr, by omega, by omega, ?_⟩
    rw [UInt32.toNat_shiftRight, Nat.shiftRight_eq_div_pow]
    change ref.toNat / 128 * 32 < 2 ^ 32
    omega

/-- The AD9361 at 2.4125 GHz with a reference of 40 MHz, a quarter of which is left over, and a BBPLL of 983.04 MHz -/
theorem ad9361_pll_words_at :
    (∃ x, ad9361CalcRfpllIntDivder 8 .ad9361 false 2412500000 40000000 = .ok (some x) ∧
      Gives 64 x ⟨241, 2097148, 1, 9650000000⟩ True) ∧
    ∃ regs, Gives 64 (ad9361BbpllRoundRate 983040000 40000000) 983040000 True ∧
      Gives 64 (ad9361BbpllSetRate (fun _ => 0) 0 983040000 40000000) (0, regs) True ∧
      Gives 64 (ad9361BbpllRecalcRate regs 40000000) 983040000 True ∧ bbpllFract regs = 1203241 := by
  obtain ⟨⟨x, d, hcalc, hgives, -⟩, r, regs, hround, hset, hrecalc, -⟩ :=
    ad9361_pll_words 0 .ad9361 false 2412500000 (by decide) 40000000 (by decide) (by decide) (fun _ => 0) 0 983040000
      (by decide) (by decide)
  have hcalc' : ad9361CalcRfpllIntDivder 8 .ad9361 false 2412500000 40000000 =
      .ok (some (.val ⟨241, 2097148, 1, 9650000000⟩ [10000000 * 8388593])) := by rfl
  have hfract : (ad9361BbpllSetRate (fun _ => 0) 0 983040000 40000000).value.map (fun r => bbpllFract r.2) =
      some 1203241 := by rfl
  have hrate : (ad9361BbpllRoundRate 983040000 40000000).value = some 983040000 := by rfl
  obtain rfl := Option.some.inj (hround.value.symm.trans hrate)
  rw [hset.value] at hfract
  refine ⟨⟨x, hcalc, ?_⟩, regs, hround, hset, hrecalc, Option.some.inj hfract⟩
  obtain rfl := Option.some.inj (Except.ok.inj (hcalc.symm.trans hcalc'))
  obtain rfl := Option.some.inj hgives.value
  exact hgives

/-- At 3019999999 Hz with a reference of 40 MHz the fraction is the modulus. -/
theorem not_rfpll_fract_lt : ¬∀ (n : ℕ) (devSel : DevId) (isTx : Bool) (freq : UInt64) (ref : UInt32)
    (x : Arith RfpllSetting) (d : RfpllSetting), ad9361ValidateRfpll devSel isTx freq = 0 → MIN_SYNTH_FREF ≤ ref →
      ref ≤ MAX_SYNTH_FREF → ad9361CalcRfpllIntDivder (n + 8) devSel isTx freq ref.toUInt64 = .ok (some x) →
      x.value = some d → d.fract.toNat < RFPLL_MODULUS.toNat := by
  intro h
  have hcalc : ad9361CalcRfpllIntDivder 8 .ad9361 false 3019999999 40000000 = .ok (some (.val
      ⟨150, 8388593, 0, 6039999998⟩ [39999998 * 8388593])) := by rfl
  exact absurd (h 0 .ad9361 false 3019999999 40000000 _ ⟨150, 8388593, 0, 6039999998⟩ (by decide) (by decide) (by decide)
    hcalc rfl) (by decide)

end NoOS
