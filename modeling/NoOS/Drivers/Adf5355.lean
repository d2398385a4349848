import NoOS.Drivers.FractN

/-!
# The synthesizer `adf5355.c`
-/

namespace NoOS
open Arith

def ADF5355_REG0_INT (x : UInt32) : UInt32 := (x &&& 0xFFFF) <<< 4
def ADF5355_REG0_PRESCALER (x : Bool) : UInt32 := x.toUInt32 <<< 20
def ADF5355_REG0_AUTOCAL (x : UInt32) : UInt32 := x <<< 21
def ADF5355_REG1_FRACT (x : UInt32) : UInt32 := (x &&& 0xFFFFFF) <<< 4
def ADF5355_REG2_MOD2 (x : UInt32) : UInt32 := (x &&& 0x3FFF) <<< 4
def ADF5355_REG2_FRAC2 (x : UInt32) : UInt32 := (x &&& 0x3FFF) <<< 18
def ADF5355_REG4_COUNTER_RESET_EN (x : UInt32) : UInt32 := x <<< 4
def ADF4355_REG6_OUTPUTB_PWR (x : UInt32) : UInt32 := (x &&& 0x3) <<< 7
def ADF4355_REG6_RF_OUTB_EN (x : Bool) : UInt32 := x.toUInt32 <<< 9
def ADF5355_REG6_OUTPUT_PWR (x : UInt32) : UInt32 := (x &&& 0x3) <<< 4
def ADF5355_REG6_RF_OUT_EN (x : Bool) : UInt32 := x.toUInt32 <<< 6
def ADF5355_REG6_RF_OUTB_EN (x : Bool) : UInt32 := x.toUInt32 <<< 10
def ADF5355_REG6_MUTE_TILL_LOCK_EN (x : Bool) : UInt32 := x.toUInt32 <<< 11
def ADF5355_REG6_CP_BLEED_CURR (x : UInt32) : UInt32 := (x &&& 0xFF) <<< 13
def ADF5355_REG6_RF_DIV_SEL (x : UInt32) : UInt32 := (x &&& 0x7) <<< 21
def ADF5355_REG6_FEEDBACK_FUND (x : UInt32) : UInt32 := x <<< 24
def ADF5355_REG6_NEG_BLEED_EN (x : Bool) : UInt32 := x.toUInt32 <<< 29
def ADF5355_REG6_GATED_BLEED_EN (x : Bool) : UInt32 := x.toUInt32 <<< 30
def ADF5356_REG6_BLEED_POLARITY (x : Bool) : UInt32 := x.toUInt32 <<< 31
def ADF5355_REG6_DEFAULT : UInt32 := 0x14000006
def ADF5356_REG13_MOD2_MSB (x : UInt32) : UInt32 := (x &&& 0x3FFF) <<< 4
def ADF5356_REG13_FRAC2_MSB (x : UInt32) : UInt32 := (x &&& 0x3FFF) <<< 18

def ADF5355_MIN_VCO_FREQ : UInt64 := 3400000000
def ADF5355_MAX_VCO_FREQ : UInt64 := 6800000000
def ADF5355_MAX_OUT_FREQ : UInt64 := ADF5355_MAX_VCO_FREQ
def ADF5355_MIN_OUT_FREQ : UInt64 := ADF5355_MIN_VCO_FREQ / 64
def ADF5355_MAX_OUTB_FREQ : UInt64 := ADF5355_MAX_VCO_FREQ * 2
def ADF5355_MIN_OUTB_FREQ : UInt64 := ADF5355_MIN_VCO_FREQ * 2
def ADF4355_MIN_VCO_FREQ : UInt64 := 3400000000
def ADF4355_MAX_VCO_FREQ : UInt64 := 6800000000
def ADF4355_MAX_OUT_FREQ : UInt64 := ADF4355_MAX_VCO_FREQ
def ADF4355_MIN_OUT_FREQ : UInt64 := ADF4355_MIN_VCO_FREQ / 64
def ADF4355_3_MIN_VCO_FREQ : UInt64 := 3300000000
def ADF4355_3_MAX_VCO_FREQ : UInt64 := 6600000000
def ADF4355_3_MAX_OUT_FREQ : UInt64 := ADF4355_3_MAX_VCO_FREQ
def ADF4355_3_MIN_OUT_FREQ : UInt64 := ADF4355_3_MIN_VCO_FREQ / 64
def ADF4355_2_MIN_VCO_FREQ : UInt64 := 3400000000
def ADF4355_2_MAX_OUT_FREQ : UInt64 := 4400000000
def ADF4355_2_MIN_OUT_FREQ : UInt64 := ADF4355_2_MIN_VCO_FREQ / 64
def ADF5355_MAX_FREQ_PFD : UInt32 := 75000000
def ADF5355_MAX_MODULUS2 : UInt32 := 16384
def ADF5356_MAX_MODULUS2 : UInt32 := 268435456
def ADF5355_MODULUS1 : UInt64 := 16777216
def ADF5355_MIN_INT_PRESCALER_89 : UInt32 := 75

inductive Adf5355DeviceId
  | ADF5355
  | ADF4355
  | ADF4355_2
  | ADF4355_3
  | ADF5356
  deriving DecidableEq

structure Adf5355Dev extends FractN where
  devId : Adf5355DeviceId
  allSynced : Bool
  regs : Fin 14 → UInt32
  freqReq : UInt64
  numChannels : UInt8
  maxOutFreq : UInt64
  minOutFreq : UInt64
  minVcoFreq : UInt64
  fpfd : UInt32
  cpUa : UInt32
  cpNegBleedEn : Bool
  cpGatedBleedEn : Bool
  cpBleedCurrentPolarityEn : Bool
  muteTillLockEn : Bool
  outaEn : Bool
  outbEn : Bool
  outaPower : UInt8
  outbPower : UInt8
  rfDivSel : UInt8

/-- The limits that `adf5355_init` sets, and its number of channels. -/
structure Adf5355Dev.Limited (dev : Adf5355Dev) : Prop where
  numChannels : dev.numChannels = 2
  freqs : (dev.maxOutFreq, dev.minOutFreq, dev.minVcoFreq) =
    match dev.devId with
    | .ADF5356 | .ADF5355 => (ADF5355_MAX_OUT_FREQ, ADF5355_MIN_OUT_FREQ, ADF5355_MIN_VCO_FREQ)
    | .ADF4355 => (ADF4355_MAX_OUT_FREQ, ADF4355_MIN_OUT_FREQ, ADF4355_MIN_VCO_FREQ)
    | .ADF4355_2 => (ADF4355_2_MAX_OUT_FREQ, ADF4355_2_MIN_OUT_FREQ, ADF4355_2_MIN_VCO_FREQ)
    | .ADF4355_3 => (ADF4355_3_MAX_OUT_FREQ, ADF4355_3_MIN_OUT_FREQ, ADF4355_3_MIN_VCO_FREQ)

/-- A register and its word, whose lower four bits are the number of the register. -/
abbrev Adf5355Write := Fin 14 × UInt32

def adf5355PllFractNCompute (vco pfd : UInt64) (maxModulus2 : UInt32) : Arith FractN :=
  pllFractNCompute ADF5355_MODULUS1 maxModulus2 vco pfd

def adf5355Write (ret : Int) (reg : Fin 14) (data : UInt32) : Int × Adf5355Write :=
  (ret, (reg, data ||| UInt32.ofNat reg.val))

/-- `rets k` is what the write `k` returns. -/
def adf5355RegConfig (rets : ℕ → Int) (dev : Adf5355Dev) (syncAll : Bool) : Int × Adf5355Dev × List Adf5355Write :=
  let isAdf5356 := dev.devId = .ADF5356
  let full := syncAll || !dev.allSynced
  let regs : List (Fin 14 × UInt32) :=
    if full then
      ((if isAdf5356 then [13] else []) ++ [12, 11, 10, 9, 8, 7, 6, 5, 4, 3, 2, 1] : List (Fin 14)).map
        fun i => (i, dev.regs i)
    else (if isAdf5356 then [(13, dev.regs 13)] else []) ++
      [(10, dev.regs 10), (6, dev.regs 6), (4, dev.regs 4 ||| ADF5355_REG4_COUNTER_RESET_EN 1),
        (2, dev.regs 2), (1, dev.regs 1), (0, dev.regs 0 &&& ~~~ADF5355_REG0_AUTOCAL 1), (4, dev.regs 4)]
  let sent := sendUntil (· ≠ SUCCESS) (regs.mapIdx fun k w => adf5355Write (rets k) w.1 w.2)
  if sent.1 ≠ SUCCESS then (sent.1, dev, sent.2)
  else
    let dev := if full then { dev with allSynced := true } else dev
    let last := adf5355Write (rets regs.length) 0 (dev.regs 0)
    (last.1, dev, sent.2 ++ [last.2])

/-- The frequency of the VCO and the output divider, or the error. -/
def adf5355Vco (dev : Adf5355Dev) (freq : UInt64) (chan : UInt8) : Except Int (UInt64 × UInt8) :=
  if chan > dev.numChannels then .error FAILURE
  else if chan = 0 then
    if freq > dev.maxOutFreq ∨ freq < dev.minOutFreq then .error (-EINVAL)
    else
      let vco := doubleToVco dev.minVcoFreq 64 freq 0
      .ok (vco.1, vco.2.toUInt8)
  else if freq > ADF5355_MAX_OUTB_FREQ ∨ freq < ADF5355_MIN_OUTB_FREQ then .error (-EINVAL)
  else .ok (freq >>> 1, dev.rfDivSel)

/-- The registers for the dividers. Register 6 is set as a whole, whatever it was. -/
def Adf5355Dev.freqRegs (dev : Adf5355Dev) (cpBleed : UInt32) : Fin 14 → UInt32 := fun i =>
  let prescaler := decide (dev.integer ≥ ADF5355_MIN_INT_PRESCALER_89)
  let cpNegBleedEn := if dev.fpfd > 100000000 ∨ dev.fract1 = 0 ∧ dev.fract2 = 0 then false else dev.cpNegBleedEn
  match i with
  | 0 => ADF5355_REG0_INT dev.integer ||| ADF5355_REG0_PRESCALER prescaler ||| ADF5355_REG0_AUTOCAL 1
  | 1 => ADF5355_REG1_FRACT dev.fract1
  | 2 => ADF5355_REG2_MOD2 dev.mod2 ||| ADF5355_REG2_FRAC2 dev.fract2
  | 6 => ADF5355_REG6_OUTPUT_PWR dev.outaPower.toUInt32 ||| ADF5355_REG6_RF_OUT_EN dev.outaEn |||
      (if dev.devId = .ADF5355 then ADF5355_REG6_RF_OUTB_EN !dev.outbEn
        else ADF4355_REG6_OUTPUTB_PWR dev.outbPower.toUInt32 ||| ADF4355_REG6_RF_OUTB_EN dev.outbEn) |||
      ADF5355_REG6_MUTE_TILL_LOCK_EN dev.muteTillLockEn ||| ADF5355_REG6_CP_BLEED_CURR cpBleed |||
      ADF5355_REG6_RF_DIV_SEL dev.rfDivSel.toUInt32 ||| ADF5355_REG6_FEEDBACK_FUND 1 |||
      ADF5355_REG6_NEG_BLEED_EN cpNegBleedEn ||| ADF5355_REG6_GATED_BLEED_EN dev.cpGatedBleedEn |||
      ADF5356_REG6_BLEED_POLARITY (if dev.devId = .ADF5356 then dev.cpBleedCurrentPolarityEn else false) |||
      ADF5355_REG6_DEFAULT
  | 13 => if dev.devId = .ADF5356 then
      ADF5356_REG13_MOD2_MSB (dev.mod2 >>> 14) ||| ADF5356_REG13_FRAC2_MSB (dev.fract2 >>> 14)
    else dev.regs 13
  | i => dev.regs i

def Adf5355Dev.cpBleed (dev : Adf5355Dev) : Arith UInt32 :=
  let y := dev.integer * 375
  if dev.devId = .ADF5356 then Arith.div (24 * (dev.fpfd / 1000) * dev.cpUa) (61440 * 900)
  else Arith.div (400 * dev.cpUa + y - 1) y

/-- The registers of a new frequency, and their writes. -/
def adf5355Send (rets : ℕ → Int) (dev : Adf5355Dev) (vco : UInt64) :
    Arith (Int × Adf5355Dev × List Adf5355Write) := do
  let cpBleed ← dev.cpBleed
  let dev := { dev with regs := dev.freqRegs (clamp cpBleed 1 255), freqReq := vco }
  return adf5355RegConfig rets dev dev.allSynced

def adf5355SetFreq (rets : ℕ → Int) (dev : Adf5355Dev) (freq : UInt64) (chan : UInt8) :
    Arith (Int × Adf5355Dev × List Adf5355Write) :=
  match adf5355Vco dev freq chan with
  | .error ret => return (ret, dev, [])
  | .ok (vco, rfDivSel) => do
    let s ← adf5355PllFractNCompute vco dev.fpfd.toUInt64
      (if dev.devId = .ADF5356 then ADF5356_MAX_MODULUS2 else ADF5355_MAX_MODULUS2)
    adf5355Send rets { dev with rfDivSel := rfDivSel, toFractN := s } vco

def adf5355PllFractNGetRate (dev : Adf5355Dev) (channel : UInt32) : Arith UInt64 := do
  let val ← pllFractNGetRate ADF5355_MODULUS1 dev.toFractN dev.fpfd
    (if channel = 1 then 0 else dev.rfDivSel.toUInt64)
  if channel = 1 then return val <<< 1 else return val

def adf5355ClkRecalcRate (dev : Adf5355Dev) (chan : UInt32) : Arith (Int × UInt64) :=
  if chan > dev.numChannels.toUInt32 then return (FAILURE, 0)
  else do
    let rate ← adf5355PllFractNGetRate dev chan
    return (SUCCESS, rate)

def adf5355ClkSetRate (rets : ℕ → Int) (dev : Adf5355Dev) (chan : UInt32) (rate : UInt64) :
    Arith (Int × Adf5355Dev × List Adf5355Write) :=
  if chan ≥ dev.numChannels.toUInt32 then return (FAILURE, dev, [])
  else adf5355SetFreq rets dev rate chan.toUInt8

/-- The second output runs at twice the frequency of the VCO. -/
def adf5355Step (chan : UInt32) : ℕ := if chan = 1 then 2 else 1

/-- The divider that a channel has, none above the frequency of the VCO. -/
def adf5355DivSel (chan : UInt32) (rfDivSel : UInt8) : UInt64 := if chan = 1 then 0 else rfDivSel.toUInt64

variable {dev dev' : Adf5355Dev} {freq vco rate : UInt64} {chan : UInt32} {sel : UInt8} {rets : ℕ → Int}
  {ret : Int} {ws : List Adf5355Write}

lemma Adf5355Dev.Limited.range (h : dev.Limited) : dev.maxOutFreq.toNat ≤ 6800000000 ∧
    dev.minVcoFreq.toNat ≤ dev.minOutFreq.toNat * 2 ^ 6 ∧ dev.minVcoFreq.toNat ≤ 3400000000 := by
  have hfreqs := h.freqs
  split at hfreqs <;>
  · rw [Prod.mk.injEq, Prod.mk.injEq] at hfreqs
    obtain ⟨hmaxOut, hminOut, hminVco⟩ := hfreqs
    rw [hmaxOut, hminOut, hminVco]
    decide

lemma chan_cases (hchan : chan.toNat < 2) : chan = 0 ∨ chan = 1 := by
  rcases Nat.lt_or_ge chan.toNat 1 with hlt | hge
  · exact Or.inl (UInt32.toNat_inj.mp (Nat.lt_one_iff.mp hlt))
  · exact Or.inr (UInt32.toNat_inj.mp (Nat.le_antisymm (Nat.le_of_lt_succ hchan) hge))

lemma adf5355Vco_spec (hlim : dev.Limited) (hchan : chan.toNat < 2)
    (h : adf5355Vco dev freq chan.toUInt8 = .ok (vco, sel)) :
    VcoFor dev.minVcoFreq.toNat (freq.toNat / adf5355Step chan) vco.toNat
      (adf5355DivSel chan sel).toNat ∧ freq.toNat < 2 ^ 35 := by
  obtain ⟨hmaxOut, hminOut, hminVco⟩ := hlim.range
  unfold adf5355Vco at h
  rw [hlim.numChannels] at h
  rcases chan_cases hchan with rfl | rfl
  · simp only [gt_iff_lt] at h
    rw [if_neg (by decide), if_pos (by decide)] at h
    split_ifs at h with hrange
    obtain ⟨hle, hge⟩ := not_or.mp hrange
    rw [UInt64.lt_iff_toNat_lt, Nat.not_lt] at hle hge
    have hvco := @vcoFor_doubleToVco dev.minVcoFreq freq (by lia) (by lia) (by lia)
    obtain ⟨rfl, rfl⟩ := Prod.mk.inj (Except.ok.inj h)
    have hsel : (adf5355DivSel 0 (doubleToVco dev.minVcoFreq 64 freq 0).2.toUInt8).toNat =
        (doubleToVco dev.minVcoFreq 64 freq 0).2.toNat := by
      change (doubleToVco dev.minVcoFreq 64 freq 0).2.toUInt8.toUInt64.toNat = _
      rw [UInt8.toNat_toUInt64, UInt32.toNat_toUInt8]
      have hle := hvco.sel_le
      lia
    rw [hsel]
    change VcoFor _ (freq.toNat / 1) _ _ ∧ _
    rw [Nat.div_one]
    exact ⟨hvco, by lia⟩
  · simp only [gt_iff_lt] at h
    rw [if_neg (by decide), if_neg (by decide)] at h
    split_ifs at h with hrange
    obtain ⟨hle, hge⟩ := not_or.mp hrange
    rw [UInt64.lt_iff_toNat_lt, Nat.not_lt] at hle hge
    change freq.toNat ≤ 13600000000 at hle
    change 6800000000 ≤ freq.toNat at hge
    obtain ⟨rfl, rfl⟩ := Prod.mk.inj (Except.ok.inj h)
    have hhalf : (freq >>> 1).toNat = freq.toNat / 2 := by
      rw [UInt64.toNat_shiftRight]
      exact Nat.shiftRight_eq_div_pow _ 1
    change VcoFor _ (freq.toNat / 2) _ 0 ∧ _
    rw [hhalf]
    exact ⟨⟨(Nat.mul_one _).symm, by decide, by lia, by lia, Or.inl rfl⟩, by lia⟩

lemma adf5355Vco_error {chan : UInt8} (h : adf5355Vco dev freq chan = .error ret) : ret < 0 := by
  unfold adf5355Vco at h
  split_ifs at h <;>
  · obtain rfl := Except.error.inj h
    decide

/-- What a rate that is accepted leaves behind. -/
structure Adf5355Dev.Tuned (dev dev' : Adf5355Dev) (vco : UInt64) (sel : UInt8) : Prop where
  splits : dev'.toFractN.Splits ADF5355_MODULUS1.toNat dev.fpfd.toNat vco.toNat
  fpfd : dev'.fpfd = dev.fpfd
  rfDivSel : dev'.rfDivSel = sel
  numChannels : dev'.numChannels = dev.numChannels

/-- The fields that the writes leave as they are. -/
structure Adf5355Dev.SameDividers (dev dev' : Adf5355Dev) : Prop where
  toFractN : dev'.toFractN = dev.toFractN
  fpfd : dev'.fpfd = dev.fpfd
  rfDivSel : dev'.rfDivSel = dev.rfDivSel
  numChannels : dev'.numChannels = dev.numChannels

lemma adf5355RegConfig_same (syncAll : Bool) : dev.SameDividers (adf5355RegConfig rets dev syncAll).2.1 := by
  unfold adf5355RegConfig
  dsimp only
  split_ifs <;> exact ⟨rfl, rfl, rfl, rfl⟩

lemma adf5355Send_same (h : (adf5355Send rets dev vco).value = some (ret, dev', ws)) : dev.SameDividers dev' := by
  unfold adf5355Send at h
  rw [value_bind] at h
  obtain ⟨cpBleed, -, hpure⟩ := Option.bind_eq_some_iff.mp h
  rw [value_pure] at hpure
  obtain rfl : _ = dev' := congrArg (fun sent => sent.2.1) (Option.some.inj hpure)
  obtain ⟨htoFractN, hfpfd, hrfDivSel, hnumChannels⟩ :=
    @adf5355RegConfig_same { dev with regs := dev.freqRegs (clamp cpBleed 1 255), freqReq := vco } rets
      dev.allSynced
  exact ⟨htoFractN, hfpfd, hrfDivSel, hnumChannels⟩

lemma fits_adf5355Send : (adf5355Send rets dev vco).Fits 64 := by
  unfold adf5355Send Adf5355Dev.cpBleed
  dsimp only
  split
  · exact fits_div_bind fun cpBleed => fits_pure _
  · exact fits_div_bind fun cpBleed => fits_pure _

lemma adf5355SetFreq_tuned (hp : 0 < dev.fpfd.toNat) (hmax : dev.fpfd.toNat ≤ ADF5355_MAX_FREQ_PFD.toNat)
    {chan : UInt8} (hset : (adf5355SetFreq rets dev freq chan).value = some (ret, dev', ws)) (hret : 0 ≤ ret) :
    (adf5355SetFreq rets dev freq chan).Fits 64 ∧
      ∃ vco sel, adf5355Vco dev freq chan = .ok (vco, sel) ∧ dev.Tuned dev' vco sel := by
  unfold adf5355SetFreq at hset ⊢
  split at hset
  · rename_i code herror
    rw [value_pure] at hset
    obtain ⟨rfl, -⟩ := Prod.mk.inj (Option.some.inj hset)
    exact absurd hret (Int.not_le.mpr (adf5355Vco_error herror))
  · rename_i vco sel hvco
    obtain ⟨s, hs, hcomputes⟩ := @gives_compute ADF5355_MODULUS1 vco
      (if dev.devId = .ADF5356 then ADF5356_MAX_MODULUS2 else ADF5355_MAX_MODULUS2) dev.fpfd hp
      (hmax.trans (by decide)) (by split_ifs <;> decide) (by decide)
    obtain ⟨hvalue, hfits⟩ := @hs.rest (f := fun s =>
      adf5355Send rets { dev with rfDivSel := sel, toFractN := s } vco)
    have hsame := adf5355Send_same (hvalue.symm.trans hset)
    rw [hvco]
    refine ⟨hfits fits_adf5355Send, vco, sel, rfl, ?_⟩
    have hsplits := hcomputes.splits hp (hmax.trans (by decide)) (by split_ifs <;> decide)
    exact ⟨hsame.toFractN ▸ hsplits, hsame.fpfd, hsame.rfDivSel, hsame.numChannels⟩

/-- The multiplier of an output. -/
def adf5355Multiply (chan : UInt32) (val : UInt64) : UInt64 := if chan = 1 then val <<< 1 else val

lemma toNat_adf5355Multiply {val : UInt64} (h : val.toNat < 2 ^ 35) :
    (adf5355Multiply chan val).toNat = val.toNat * adf5355Step chan := by
  unfold adf5355Multiply adf5355Step
  split_ifs
  · rw [UInt64.toNat_shiftLeft]
    change val.toNat <<< 1 % 2 ^ 64 = _
    rw [Nat.shiftLeft_eq, Nat.mod_eq_of_lt (by lia)]
  · exact (Nat.mul_one _).symm

lemma gives_adf5355Recalc {φ : Prop} {val : UInt64} (hchan : chan < dev.numChannels.toUInt32)
    (h : Gives 64 (pllFractNGetRate ADF5355_MODULUS1 dev.toFractN dev.fpfd
      (adf5355DivSel chan dev.rfDivSel)) val φ) :
    Gives 64 (adf5355ClkRecalcRate dev chan) (SUCCESS, adf5355Multiply chan val) φ := by
  refine Gives.congr (φ := (φ ∧ True) ∧ True) ?_ (by simp only [and_true])
  unfold adf5355ClkRecalcRate adf5355PllFractNGetRate
  rw [if_neg (UInt32.not_lt.mpr (UInt32.le_of_lt hchan))]
  refine Gives.bind ?_ Gives.pure
  apply h.bind
  unfold adf5355Multiply
  split_ifs
  · exact Gives.pure
  · exact Gives.pure

/-- A rate is read back unless the PFD runs at 1 Hz and the VCO at `2 ^ 32` Hz or more. -/
lemma adf5355_readsBack_iff (hlim : dev.Limited) (hp : 1 ≤ dev.fpfd) (hmax : dev.fpfd ≤ ADF5355_MAX_FREQ_PFD)
    (hset : (adf5355ClkSetRate rets dev chan rate).value = some (ret, dev', ws)) (hret : 0 ≤ ret) :
    ReadsBack (adf5355ClkSetRate rets dev chan rate) (adf5355ClkRecalcRate dev' chan) rate.toNat
      (adf5355Step chan) ↔
        ¬(dev.fpfd = 1 ∧ VcoWide dev.minVcoFreq.toNat (rate.toNat / adf5355Step chan)) := by
  unfold adf5355ClkSetRate at hset ⊢
  split_ifs at hset ⊢ with hchan
  · rw [value_pure] at hset
    obtain ⟨rfl, -⟩ := Prod.mk.inj (Option.some.inj hset)
    exact absurd hret (by decide)
  · rw [ge_iff_le, UInt32.not_le] at hchan
    have hchan' : chan.toNat < 2 := by
      rw [hlim.numChannels] at hchan
      exact UInt32.lt_iff_toNat_lt.mp hchan
    rw [UInt32.le_iff_toNat_le] at hp hmax
    obtain ⟨hfits, vco, sel, hvco, htuned⟩ := adf5355SetFreq_tuned hp hmax hset hret
    obtain ⟨hspec, hlt⟩ := adf5355Vco_spec hlim hchan' hvco
    have hone : dev.fpfd = 1 ↔ dev'.fpfd.toNat = 1 := by
      rw [htuned.fpfd]
      exact UInt32.toNat_inj.symm
    have hsplits := htuned.splits
    rw [← htuned.fpfd] at hsplits hp hmax
    rw [← htuned.rfDivSel] at hspec
    obtain ⟨hgives, hle, hiff⟩ := gives_output hsplits hspec hp (hmax.trans (by decide))
      (by decide) (by decide)
    have hrecalc := gives_adf5355Recalc (by rwa [htuned.numChannels]) hgives
    have hstep : 0 < adf5355Step chan := by
      unfold adf5355Step
      split_ifs <;> decide
    have hval := @toNat_adf5355Multiply chan _
      (hle.trans_lt ((Nat.div_le_self _ _).trans_lt hlt))
    rw [hone, ← hiff]
    constructor
    · rintro ⟨-, -, v, hv, hback⟩
      obtain rfl := (Prod.mk.inj (Option.some.inj (hrecalc.value.symm.trans hv))).2
      rw [hval] at hback
      exact Nat.eq_of_mul_eq_mul_right hstep hback
    · intro hback
      refine ⟨hfits, hrecalc.fits.mpr trivial, _, hrecalc.value, ?_⟩
      rw [hval, hback]

end NoOS
