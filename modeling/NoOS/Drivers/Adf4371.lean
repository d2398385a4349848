import NoOS.Drivers.FractN

/-!
# The synthesizer `adf4371.c`
-/

namespace NoOS
open Arith

def ADF4371_FRAC2WORD_L (x : UInt32) : UInt8 := (fieldPrep 0xFE x).toUInt8
def ADF4371_FRAC1WORD (x : UInt32) : UInt8 := (fieldPrep 0x01 x).toUInt8
def ADF4371_FRAC2WORD_H (x : UInt32) : UInt8 := (fieldPrep 0x7F x).toUInt8
def ADF4371_MOD2WORD (x : UInt32) : UInt8 := (fieldPrep 0x3F x).toUInt8
def ADF4371_RF_DIV_SEL_MSK : UInt8 := 0x70
def ADF4371_RF_DIV_SEL (x : UInt32) : UInt8 := (fieldPrep 0x70 x).toUInt8

def ADF4371_MIN_VCO_FREQ : UInt64 := 4000000000
def ADF4371_MAX_VCO_FREQ : UInt64 := 8000000000
def ADF4371_MAX_OUT_RF8_FREQ : UInt64 := ADF4371_MAX_VCO_FREQ
def ADF4371_MIN_OUT_RF8_FREQ : UInt64 := ADF4371_MIN_VCO_FREQ / 64
def ADF4371_MAX_OUT_RF16_FREQ : UInt64 := ADF4371_MAX_VCO_FREQ * 2
def ADF4371_MIN_OUT_RF16_FREQ : UInt64 := ADF4371_MIN_VCO_FREQ * 2
def ADF4371_MAX_OUT_RF32_FREQ : UInt64 := ADF4371_MAX_VCO_FREQ * 4
def ADF4371_MIN_OUT_RF32_FREQ : UInt64 := ADF4371_MIN_VCO_FREQ * 4
def ADF4371_MAX_FREQ_PFD : UInt32 := 250000000
def ADF4371_MODULUS1 : UInt64 := 33554432
def ADF4371_MAX_MODULUS2 : UInt32 := 16384

def ADF4371_CH_RF8 : UInt32 := 0
def ADF4371_CH_RFAUX8 : UInt32 := 1
def ADF4371_CH_RF16 : UInt32 := 2
def ADF4371_CH_RF32 : UInt32 := 3

structure Adf4371Dev extends FractN where
  numChannels : UInt32
  /-- `cp_settings.icp` -/
  icp : UInt32
  refDivFactor : UInt32
  fpfd : UInt32
  rfDivSel : UInt32

/-- Bytes for consecutive registers. -/
abbrev Adf4371Write := ℕ × List UInt8

def adf4371PllFractNCompute (vco pfd : UInt64) : Arith FractN :=
  pllFractNCompute ADF4371_MODULUS1 ADF4371_MAX_MODULUS2 vco pfd

def adf4371PllFractNGetRate (dev : Adf4371Dev) (channel : UInt32) : Arith UInt64 :=
  if dev.mod2 = 0 then return 0
  else do
    let refDivSel := if channel = ADF4371_CH_RF8 ∨ channel = ADF4371_CH_RFAUX8 then dev.rfDivSel else 0
    let val ← pllFractNGetRate ADF4371_MODULUS1 dev.toFractN dev.fpfd refDivSel.toUInt64
    if channel = ADF4371_CH_RF16 then return val <<< 1
    else if channel = ADF4371_CH_RF32 then return val <<< 2
    else return val

/-- The frequency of the VCO and the output divider, `none` for a refused frequency. -/
def adf4371Vco (dev : Adf4371Dev) (freq : UInt64) (channel : UInt32) : Option (UInt64 × UInt32) :=
  if channel = ADF4371_CH_RF8 ∨ channel = ADF4371_CH_RFAUX8 then
    if freq > ADF4371_MAX_OUT_RF8_FREQ ∨ freq < ADF4371_MIN_OUT_RF8_FREQ then none
    else some (doubleToVco ADF4371_MIN_VCO_FREQ 64 freq 0)
  else if channel = ADF4371_CH_RF16 then
    if freq > ADF4371_MAX_OUT_RF16_FREQ ∨ freq < ADF4371_MIN_OUT_RF16_FREQ then none
    else some (freq >>> 1, dev.rfDivSel)
  else if channel = ADF4371_CH_RF32 then
    if freq > ADF4371_MAX_OUT_RF32_FREQ ∨ freq < ADF4371_MIN_OUT_RF32_FREQ then none
    else some (freq >>> 2, dev.rfDivSel)
  else none

/-- The registers 0x11 to 0x1A. -/
def Adf4371Dev.buf (dev : Adf4371Dev) : List UInt8 :=
  [(dev.integer >>> 8).toUInt8, 0x40, 0x00, dev.fract1.toUInt8, (dev.fract1 >>> 8).toUInt8,
    (dev.fract1 >>> 16).toUInt8,
    ADF4371_FRAC2WORD_L (dev.fract2 &&& 0x7F) ||| ADF4371_FRAC1WORD (dev.fract1 >>> 24),
    ADF4371_FRAC2WORD_H (dev.fract2 >>> 7), dev.mod2.toUInt8, ADF4371_MOD2WORD (dev.mod2 >>> 8)]

/-- `adf4371_write_bulk`: the bytes are stored behind the two of the command in a buffer of ten, or beyond its end. -/
def adf4371WriteBulk (reg : ℕ) (val : List UInt8) : Option Adf4371Write :=
  if 2 + val.length ≤ 10 then some (reg, val) else none

local instance neZeroWrites : NeZero 6 := ⟨by decide⟩

/-- The writes of a new frequency, with their results `rets`; the third one reads `readVal` before. None if a byte is
stored beyond a buffer. -/
def adf4371Send (rets : Fin 6 → Int) (readVal : UInt8) (dev : Adf4371Dev) :
    Arith (Option (Int × Adf4371Dev × List Adf4371Write)) :=
  match adf4371WriteBulk 0x11 dev.buf with
  | none => return none
  | some bulk =>
    let divSel := (readVal &&& ~~~ADF4371_RF_DIV_SEL_MSK) ||| ADF4371_RF_DIV_SEL dev.rfDivSel
    let first := sendUntil isErrValue [(rets 0, bulk), (rets 1, (0x1F, [dev.refDivFactor.toUInt8])),
      (rets 2, (0x24, [divSel]))]
    if first.1 < 0 then return some (first.1, dev, first.2)
    else do
      let y := dev.integer * 375
      let cpBleed ← Arith.div (400 * dev.icp + y - 1) y
      let cpBleed := clamp cpBleed 1 255
      let intMode : UInt8 := if dev.fract1 = 0 ∧ dev.fract2 = 0 then 1 else 0
      let second := sendUntil isErrValue [(rets 3, (0x26, [cpBleed.toUInt8])), (rets 4, (0x2B, [intMode])),
        (rets 5, (0x10, [dev.integer.toUInt8]))]
      return some (second.1, dev, first.2 ++ second.2)

/-- `adf4371_set_freq` up to its first write, none for a refused frequency. -/
def adf4371Tune (dev : Adf4371Dev) (freq : UInt64) (channel : UInt32) : Arith (Option Adf4371Dev) :=
  match adf4371Vco dev freq channel with
  | none => return none
  | some (vco, rfDivSel) => do
    let s ← adf4371PllFractNCompute vco dev.fpfd.toUInt64
    return some { dev with rfDivSel := rfDivSel, toFractN := s }

def adf4371SetFreq (rets : Fin 6 → Int) (readVal : UInt8) (dev : Adf4371Dev) (freq : UInt64)
    (channel : UInt32) : Arith (Option (Int × Adf4371Dev × List Adf4371Write)) := do
  let tuned ← adf4371Tune dev freq channel
  match tuned with
  | none => return some (FAILURE, dev, [])
  | some dev => adf4371Send rets readVal dev

def adf4371ClkRecalcRate (dev : Adf4371Dev) (chan : UInt32) : Arith (Int × UInt64) :=
  if chan > dev.numChannels then return (FAILURE, 0)
  else do
    let rate ← adf4371PllFractNGetRate dev chan
    return (SUCCESS, rate)

def adf4371ClkSetRate (rets : Fin 6 → Int) (readVal : UInt8) (dev : Adf4371Dev) (chan : UInt32)
    (rate : UInt64) : Arith (Option (Int × Adf4371Dev × List Adf4371Write)) :=
  if chan ≥ dev.numChannels then return some (FAILURE, dev, [])
  else adf4371SetFreq rets readVal dev rate chan

/-- The outputs above those of the VCO are multiples of its frequency. -/
def adf4371Step (chan : UInt32) : ℕ :=
  if chan = ADF4371_CH_RF16 then 2 else if chan = ADF4371_CH_RF32 then 4 else 1

/-- The divider that a channel has, none above the frequency of the VCO. -/
def adf4371DivSel (chan rfDivSel : UInt32) : UInt32 :=
  if chan = ADF4371_CH_RF8 ∨ chan = ADF4371_CH_RFAUX8 then rfDivSel else 0

variable {dev dev' : Adf4371Dev} {freq vco rate : UInt64} {chan sel : UInt32} {rets : Fin 6 → Int} {readVal : UInt8}

lemma adf4371Vco_spec (h : adf4371Vco dev freq chan = some (vco, sel)) :
    VcoFor ADF4371_MIN_VCO_FREQ.toNat (freq.toNat / adf4371Step chan) vco.toNat
      (adf4371DivSel chan sel).toNat ∧ freq.toNat < 2 ^ 35 := by
  unfold adf4371Vco at h
  split_ifs at h with hlow hrange hmid hrange hhigh hrange
  · obtain ⟨hle, hge⟩ := not_or.mp hrange
    rw [gt_iff_lt, UInt64.lt_iff_toNat_lt, Nat.not_lt] at hle
    rw [UInt64.lt_iff_toNat_lt, Nat.not_lt] at hge
    change freq.toNat ≤ 8000000000 at hle
    change 62500000 ≤ freq.toNat at hge
    have hstep : adf4371Step chan = 1 := by
      rcases hlow with rfl | rfl <;> rfl
    have hvco := @vcoFor_doubleToVco ADF4371_MIN_VCO_FREQ freq (by decide)
      (by change 4000000000 ≤ _; lia) (by omega)
    rw [Option.some.inj h] at hvco
    rw [hstep, Nat.div_one, adf4371DivSel, if_pos hlow]
    exact ⟨hvco, by omega⟩
  · obtain ⟨hle, hge⟩ := not_or.mp hrange
    rw [gt_iff_lt, UInt64.lt_iff_toNat_lt, Nat.not_lt] at hle
    rw [UInt64.lt_iff_toNat_lt, Nat.not_lt] at hge
    change freq.toNat ≤ 16000000000 at hle
    change 8000000000 ≤ freq.toNat at hge
    obtain ⟨rfl, rfl⟩ := Prod.mk.inj (Option.some.inj h)
    subst hmid
    have hhalf : (freq >>> 1).toNat = freq.toNat / 2 := by
      rw [UInt64.toNat_shiftRight]
      exact Nat.shiftRight_eq_div_pow _ 1
    change VcoFor 4000000000 (freq.toNat / 2) _ 0 ∧ _
    rw [hhalf]
    exact ⟨⟨(Nat.mul_one _).symm, by decide, by lia, by lia, Or.inl rfl⟩, by omega⟩
  · obtain ⟨hle, hge⟩ := not_or.mp hrange
    rw [gt_iff_lt, UInt64.lt_iff_toNat_lt, Nat.not_lt] at hle
    rw [UInt64.lt_iff_toNat_lt, Nat.not_lt] at hge
    change freq.toNat ≤ 32000000000 at hle
    change 16000000000 ≤ freq.toNat at hge
    obtain ⟨rfl, rfl⟩ := Prod.mk.inj (Option.some.inj h)
    subst hhigh
    have hquarter : (freq >>> 2).toNat = freq.toNat / 4 := by
      rw [UInt64.toNat_shiftRight]
      exact Nat.shiftRight_eq_div_pow _ 2
    change VcoFor 4000000000 (freq.toNat / 4) _ 0 ∧ _
    rw [hquarter]
    exact ⟨⟨(Nat.mul_one _).symm, by decide, by lia, by lia, Or.inl rfl⟩, by omega⟩

/-- What a rate that is accepted leaves behind. -/
structure Adf4371Dev.Tuned (dev dev' : Adf4371Dev) (vco : UInt64) (sel : UInt32) : Prop where
  splits : dev'.toFractN.Splits ADF4371_MODULUS1.toNat dev.fpfd.toNat vco.toNat
  fpfd : dev'.fpfd = dev.fpfd
  rfDivSel : dev'.rfDivSel = sel
  numChannels : dev'.numChannels = dev.numChannels

lemma adf4371Send_overruns (rets : Fin 6 → Int) (readVal : UInt8) (dev : Adf4371Dev) :
    adf4371Send rets readVal dev = pure none := rfl

lemma exists_adf4371Tune (hp : 0 < dev.fpfd.toNat) (hmax : dev.fpfd.toNat ≤ ADF4371_MAX_FREQ_PFD.toNat)
    (h : (adf4371Vco dev freq chan).isSome) : ∃ dev', (adf4371Tune dev freq chan).value = some (some dev') := by
  obtain ⟨⟨vco, sel⟩, hvco⟩ := Option.isSome_iff_exists.mp h
  obtain ⟨s, hs, -⟩ := @gives_compute ADF4371_MODULUS1 vco ADF4371_MAX_MODULUS2 dev.fpfd hp hmax (by decide) (by decide)
  unfold adf4371Tune
  rw [hvco]
  exact ⟨_, hs.rest.1⟩

/-- What a frequency in range makes of the device, before the first write. -/
lemma adf4371Tune_tuned (hp : 0 < dev.fpfd.toNat) (hmax : dev.fpfd.toNat ≤ ADF4371_MAX_FREQ_PFD.toNat)
    (htune : (adf4371Tune dev freq chan).value = some (some dev')) :
    (adf4371Tune dev freq chan).Fits 64 ∧
      ∃ vco sel, adf4371Vco dev freq chan = some (vco, sel) ∧ dev.Tuned dev' vco sel := by
  unfold adf4371Tune at htune ⊢
  split at htune
  · cases htune
  · rename_i vco sel hvco
    obtain ⟨s, hs, hcomputes⟩ := @gives_compute ADF4371_MODULUS1 vco ADF4371_MAX_MODULUS2 dev.fpfd hp hmax
      (by decide) (by decide)
    obtain ⟨hvalue, hfits⟩ := @hs.rest (f := fun s =>
      (pure (some { dev with rfDivSel := sel, toFractN := s }) : Arith (Option Adf4371Dev)))
    obtain rfl := Option.some.inj (Option.some.inj (hvalue.symm.trans htune))
    rw [hvco]
    exact ⟨hfits (fits_pure _), vco, sel, rfl, hcomputes.splits hp hmax (by decide), rfl, rfl, rfl⟩

/-- Every frequency that is not refused writes beyond the buffer. -/
lemma adf4371SetFreq_overruns (htune : (adf4371Tune dev freq chan).value = some (some dev')) :
    (adf4371SetFreq rets readVal dev freq chan).value = some none := by
  unfold adf4371SetFreq
  rw [value_bind, htune]
  exact congrArg value (adf4371Send_overruns rets readVal dev')

/-- The multiplier of an output. -/
def adf4371Multiply (chan : UInt32) (val : UInt64) : UInt64 :=
  if chan = ADF4371_CH_RF16 then val <<< 1 else if chan = ADF4371_CH_RF32 then val <<< 2 else val

lemma toNat_adf4371Multiply {val : UInt64} (h : val.toNat < 2 ^ 35) :
    (adf4371Multiply chan val).toNat = val.toNat * adf4371Step chan := by
  unfold adf4371Multiply adf4371Step
  split_ifs
  · rw [UInt64.toNat_shiftLeft]
    change val.toNat <<< 1 % 2 ^ 64 = _
    rw [Nat.shiftLeft_eq, Nat.mod_eq_of_lt (by lia)]
  · rw [UInt64.toNat_shiftLeft]
    change val.toNat <<< 2 % 2 ^ 64 = _
    rw [Nat.shiftLeft_eq, Nat.mod_eq_of_lt (by omega)]
  · exact (Nat.mul_one _).symm

lemma gives_adf4371Recalc {φ : Prop} {val : UInt64} (hchan : chan < dev.numChannels) (hmod2 : dev.mod2 ≠ 0)
    (h : Gives 64 (pllFractNGetRate ADF4371_MODULUS1 dev.toFractN dev.fpfd
      (adf4371DivSel chan dev.rfDivSel).toUInt64) val φ) :
    Gives 64 (adf4371ClkRecalcRate dev chan) (SUCCESS, adf4371Multiply chan val) φ := by
  refine Gives.congr (φ := (φ ∧ True) ∧ True) ?_ (by simp only [and_true])
  unfold adf4371ClkRecalcRate adf4371PllFractNGetRate
  rw [if_neg (UInt32.not_lt.mpr (UInt32.le_of_lt hchan)), if_neg hmod2]
  refine Gives.bind ?_ Gives.pure
  apply h.bind
  unfold adf4371Multiply
  split_ifs
  · exact Gives.pure
  · exact Gives.pure
  · exact Gives.pure

/-- The dividers of a rate are read back unless the PFD runs at 1 Hz and the VCO at `2 ^ 32` Hz or more. -/
lemma adf4371_readsBack_iff (hp : 1 ≤ dev.fpfd) (hmax : dev.fpfd ≤ ADF4371_MAX_FREQ_PFD) (hchan : chan < dev.numChannels)
    (htune : (adf4371Tune dev rate chan).value = some (some dev')) :
    ReadsBack (adf4371Tune dev rate chan) (adf4371ClkRecalcRate dev' chan) rate.toNat (adf4371Step chan) ↔
      ¬(dev.fpfd = 1 ∧ VcoWide ADF4371_MIN_VCO_FREQ.toNat (rate.toNat / adf4371Step chan)) := by
  rw [UInt32.le_iff_toNat_le] at hp hmax
  obtain ⟨hfits, vco, sel, hvco, htuned⟩ := adf4371Tune_tuned hp hmax htune
  obtain ⟨hspec, hlt⟩ := adf4371Vco_spec hvco
  have hmod2 : dev'.mod2 ≠ 0 := Word.ne_zero_of_pos htuned.splits.mod2_pos
  have hone : dev.fpfd = 1 ↔ dev'.fpfd.toNat = 1 := by
    rw [htuned.fpfd]
    exact UInt32.toNat_inj.symm
  have hsplits := htuned.splits
  rw [← htuned.fpfd] at hsplits hp hmax
  rw [← htuned.rfDivSel, ← UInt32.toNat_toUInt64] at hspec
  obtain ⟨hgives, hle, hiff⟩ := gives_output hsplits hspec hp hmax (by decide) (by decide)
  have hrecalc := gives_adf4371Recalc (by rwa [htuned.numChannels]) hmod2 hgives
  have hstep : 0 < adf4371Step chan := by
    unfold adf4371Step
    split_ifs <;> decide
  have hval := @toNat_adf4371Multiply chan _
    (hle.trans_lt ((Nat.div_le_self _ _).trans_lt hlt))
  rw [hone, ← hiff]
  constructor
  · rintro ⟨-, -, v, hv, hback⟩
    obtain rfl := (Prod.mk.inj (Option.some.inj (hrecalc.value.symm.trans hv))).2
    rw [hval] at hback
    exact Nat.eq_of_mul_eq_mul_right hstep hback
  · intro hback
    refine ⟨hfits, hrecalc.fits.mpr trivial, _, hrecalc.value, ?_⟩
    rw [hval, hback]

end NoOS
