import NoOS.Lib.ExactWord
import NoOS.Drivers.FractNFields

/-!
# The setup of the ADF5355

What `adf5355_setup` computes from the reference and the charge pump current are the same numbers as over the
integers, and they fit into their fields. Only the bleed current of the ADF5356 is a product that may wrap.
-/

namespace NoOS
open Arith PackedWord

def ADF5355_REG4_CP_THREESTATE_EN (x : UInt32) : UInt32 := x <<< 5
def ADF5355_REG4_POWER_DOWN_EN (x : UInt32) : UInt32 := x <<< 6
def ADF5355_REG4_PD_POLARITY_POS (x : Bool) : UInt32 := x.toUInt32 <<< 7
def ADF5355_REG4_MUX_LOGIC (x : Bool) : UInt32 := x.toUInt32 <<< 8
def ADF5355_REG4_REFIN_MODE_DIFF (x : Bool) : UInt32 := x.toUInt32 <<< 9
def ADF5355_REG4_CHARGE_PUMP_CURR (x : UInt32) : UInt32 := (x &&& 0xF) <<< 10
def ADF5355_REG4_DOUBLE_BUFF_EN (x : UInt32) : UInt32 := x <<< 14
def ADF5355_REG4_10BIT_R_CNT (x : UInt32) : UInt32 := (x &&& 0x3FF) <<< 15
def ADF5355_REG4_RDIV2_EN (x : UInt32) : UInt32 := x <<< 25
def ADF5355_REG4_RMULT2_EN (x : UInt32) : UInt32 := x <<< 26
def ADF5355_REG4_MUXOUT (x : UInt32) : UInt32 := (x &&& 0x7) <<< 27
def ADF5355_REG5_DEFAULT : UInt32 := 0x00800025
def ADF5355_REG7_LD_MODE_INT_N_EN (x : UInt32) : UInt32 := x <<< 4
def ADF5355_REG7_FACT_N_LD_PRECISION (x : UInt32) : UInt32 := (x &&& 0x3) <<< 5
def ADF5355_REG7_LOL_MODE_EN (x : UInt32) : UInt32 := x <<< 7
def ADF5355_REG7_LD_CYCLE_CNT (x : UInt32) : UInt32 := (x &&& 0x3) <<< 8
def ADF5355_REG7_LE_SYNCED_REFIN_EN (x : UInt32) : UInt32 := x <<< 25
def ADF5356_REG7_LE_SYNCE_EDGE_RISING_EN (x : UInt32) : UInt32 := x <<< 27
def ADF5355_REG7_DEFAULT : UInt32 := 0x10000007
def ADF5356_REG7_DEFAULT : UInt32 := 0x04000007
def ADF5355_REG8_DEFAULT : UInt32 := 0x102D0428
def ADF5356_REG8_DEFAULT : UInt32 := 0x15596568
def ADF5355_REG9_SYNTH_LOCK_TIMEOUT (x : UInt32) : UInt32 := (x &&& 0x1F) <<< 4
def ADF5355_REG9_ALC_TIMEOUT (x : UInt32) : UInt32 := (x &&& 0x1F) <<< 9
def ADF5355_REG9_TIMEOUT (x : UInt32) : UInt32 := (x &&& 0x3FF) <<< 14
def ADF5355_REG9_VCO_BAND_DIV (x : UInt32) : UInt32 := (x &&& 0xFF) <<< 24
def ADF5355_REG10_ADC_EN (x : UInt32) : UInt32 := x <<< 4
def ADF5355_REG10_ADC_CONV_EN (x : UInt32) : UInt32 := x <<< 5
def ADF5355_REG10_ADC_CLK_DIV (x : UInt32) : UInt32 := (x &&& 0xFF) <<< 6
def ADF5355_REG10_DEFAULT : UInt32 := 0x00C0000A
def ADF5355_REG11_DEFAULT : UInt32 := 0x0061300B
def ADF5355_REG12_PHASE_RESYNC_CLK_DIV (x : UInt32) : UInt32 := (x &&& 0xFFFF) <<< 16
def ADF5355_REG12_DEFAULT : UInt32 := 0x0000041C
def ADF5356_REG12_PHASE_RESYNC_CLK_DIV (x : UInt32) : UInt32 := (x &&& 0xFFFFF) <<< 12
def ADF5356_REG12_DEFAULT : UInt32 := 0x000005FC

inductive Adf5355MuxOutSel
  | THREESTATE
  | DVDD
  | GND
  | R_DIV_OUT
  | N_DIV_OUT
  | ANALOG_LOCK_DETECT
  | DIGITAL_LOCK_DETECT
  deriving DecidableEq

def Adf5355MuxOutSel.toUInt32 : Adf5355MuxOutSel → UInt32
  | THREESTATE => 0
  | DVDD => 1
  | GND => 2
  | R_DIV_OUT => 3
  | N_DIV_OUT => 4
  | ANALOG_LOCK_DETECT => 5
  | DIGITAL_LOCK_DETECT => 6

/-- A device with what only its setup reads or sets -/
structure Adf5355SetupDev extends Adf5355Dev where
  freqReqChan : UInt8
  clkinFreq : UInt32
  phaseDetectorPolarityNeg : UInt8
  refDiffEn : Bool
  muxOut3v3En : Bool
  refDoublerEn : UInt8
  refDiv2En : UInt8
  refDivFactor : UInt16
  muxOutSel : Adf5355MuxOutSel
  delayUs : UInt32

/-- `DIV_ROUND_UP` with a divisor that may vanish -/
def divRoundUpBy (x y : UInt32) : Arith UInt32 := Arith.div (x + y - 1) y

/-- The frequency of the phase detector with a reference divider of `r` -/
def Adf5355SetupDev.pfd (dev : Adf5355SetupDev) (r : UInt16) : Arith UInt32 :=
  Arith.div (dev.clkinFreq * if dev.refDoublerEn ≠ 0 then 2 else 1) (r.toUInt32 * if dev.refDiv2En ≠ 0 then 2 else 1)

/-- The loop that maximizes the frequency of the phase detector, with `n` more rounds. A reference of 32 bits ends
it after 58 rounds. -/
def Adf5355SetupDev.maximizePfd (dev : Adf5355SetupDev) : ℕ → UInt16 → Arith (UInt16 × UInt32)
  | 0, r => do
    let fpfd ← dev.pfd r
    return (r, fpfd)
  | n + 1, r => do
    let fpfd ← dev.pfd r
    if fpfd > ADF5355_MAX_FREQ_PFD then dev.maximizePfd n (r + 1) else return (r, fpfd)

/-- The values that the setup derives from the frequency of the phase detector and the charge pump current -/
structure Adf5355Derived where
  chargePumpCurr : UInt32
  timeout : UInt32
  synthLockTimeout : UInt32
  alcTimeout : UInt32
  vcoBandDiv : UInt32
  adcClkDiv : UInt32
  delayUs : UInt32

def adf5355Derive (devId : Adf5355DeviceId) (fpfd cpUa : UInt32) : Arith Adf5355Derived := do
  let timeout := clamp (divRoundUp fpfd (20000 * 30)) 1 1023
  let synthLockTimeout ← divRoundUpBy (fpfd * 2) (100000 * timeout)
  let alcTimeout ← divRoundUpBy (fpfd * 5) (100000 * timeout)
  let adcClkDiv := clamp (divRoundUp (fpfd / 100000 - 2) 4) 1 255
  let delayUs ← divRoundUpBy 16000000 (fpfd / (4 * adcClkDiv + 2))
  return {
    chargePumpCurr := clamp (divRoundClosest (cpUa - 315) 315) 0 15
    timeout := timeout
    synthLockTimeout := synthLockTimeout
    alcTimeout := alcTimeout
    vcoBandDiv := divRoundUp fpfd (if devId = .ADF5356 then 1600000 else 2400000)
    adcClkDiv := adcClkDiv
    delayUs := delayUs }

/-- The registers of the setup. In register 7 the conditional operator takes all the fields for its condition. -/
def Adf5355SetupDev.setupRegs (dev : Adf5355SetupDev) (derived : Adf5355Derived) : Fin 14 → UInt32 := fun i =>
  match i with
  | 4 => ADF5355_REG4_COUNTER_RESET_EN 0 ||| ADF5355_REG4_CP_THREESTATE_EN 0 ||| ADF5355_REG4_POWER_DOWN_EN 0 |||
      ADF5355_REG4_PD_POLARITY_POS (decide (dev.phaseDetectorPolarityNeg = 0)) |||
      ADF5355_REG4_MUX_LOGIC dev.muxOut3v3En ||| ADF5355_REG4_REFIN_MODE_DIFF dev.refDiffEn |||
      ADF5355_REG4_CHARGE_PUMP_CURR derived.chargePumpCurr ||| ADF5355_REG4_DOUBLE_BUFF_EN 1 |||
      ADF5355_REG4_10BIT_R_CNT dev.refDivFactor.toUInt32 ||| ADF5355_REG4_RDIV2_EN dev.refDiv2En.toUInt32 |||
      ADF5355_REG4_RMULT2_EN dev.refDoublerEn.toUInt32 ||| ADF5355_REG4_MUXOUT dev.muxOutSel.toUInt32
  | 5 => ADF5355_REG5_DEFAULT
  | 7 => if ADF5355_REG7_LD_MODE_INT_N_EN 0 ||| ADF5355_REG7_FACT_N_LD_PRECISION 3 ||| ADF5355_REG7_LOL_MODE_EN 0 |||
      ADF5355_REG7_LD_CYCLE_CNT 0 ||| ADF5355_REG7_LE_SYNCED_REFIN_EN 1 |||
      ADF5356_REG7_LE_SYNCE_EDGE_RISING_EN 0 ||| (if dev.devId = .ADF5356 then 1 else 0) ≠ 0 then
      ADF5356_REG7_DEFAULT else ADF5355_REG7_DEFAULT
  | 8 => if dev.devId = .ADF5356 then ADF5356_REG8_DEFAULT else ADF5355_REG8_DEFAULT
  | 9 => ADF5355_REG9_TIMEOUT derived.timeout ||| ADF5355_REG9_SYNTH_LOCK_TIMEOUT derived.synthLockTimeout |||
      ADF5355_REG9_ALC_TIMEOUT derived.alcTimeout ||| ADF5355_REG9_VCO_BAND_DIV derived.vcoBandDiv
  | 10 => ADF5355_REG10_ADC_EN 1 ||| ADF5355_REG10_ADC_CONV_EN 1 ||| ADF5355_REG10_ADC_CLK_DIV derived.adcClkDiv |||
      ADF5355_REG10_DEFAULT
  | 11 => ADF5355_REG11_DEFAULT
  | 12 => if dev.devId = .ADF5356 then ADF5356_REG12_PHASE_RESYNC_CLK_DIV 1 ||| ADF5356_REG12_DEFAULT
      else ADF5355_REG12_PHASE_RESYNC_CLK_DIV 1 ||| ADF5355_REG12_DEFAULT
  | i => dev.regs i

def adf5355Setup (rets : ℕ → Int) (dev : Adf5355SetupDev) :
    Arith (Int × Adf5355SetupDev × List Adf5355Write) := do
  let (refDivFactor, fpfd) ← dev.maximizePfd 57 1
  let dev := { dev with refDivFactor := refDivFactor, fpfd := fpfd }
  let derived ← adf5355Derive dev.devId fpfd dev.cpUa
  let dev := { dev with regs := dev.setupRegs derived, delayUs := derived.delayUs, allSynced := false }
  let (ret, tuned, ws) ← adf5355SetFreq rets dev.toAdf5355Dev dev.freqReq dev.freqReqChan
  return (ret, { dev with toAdf5355Dev := tuned }, ws)

/-- The values that the setup derives, as integers -/
structure Adf5355Values where
  chargePumpCurr : ℤ
  timeout : ℤ
  synthLockTimeout : ℤ
  alcTimeout : ℤ
  vcoBandDiv : ℤ
  adcClkDiv : ℤ
  delayUs : ℤ

def timeoutOf (p : ℤ) : ℤ := ExactWord.clamp (ExactWord.ceil p (20000 * 30)) 1 1023

def adcClkDivOf (p : ℤ) : ℤ := ExactWord.clamp (ExactWord.ceil (p / 100000 - 2) 4) 1 255

def adf5355Formulas (devId : Adf5355DeviceId) (p cp : ℤ) : Adf5355Values where
  chargePumpCurr := ExactWord.clamp ((cp - 315 + 315 / 2) / 315) 0 15
  timeout := timeoutOf p
  synthLockTimeout := ExactWord.ceil (p * 2) (100000 * timeoutOf p)
  alcTimeout := ExactWord.ceil (p * 5) (100000 * timeoutOf p)
  vcoBandDiv := ExactWord.ceil p (if devId = .ADF5356 then 1600000 else 2400000)
  adcClkDiv := adcClkDivOf p
  delayUs := ExactWord.ceil 16000000 (p / (4 * adcClkDivOf p + 2))

/-- The bleed current for an integer divider of `n` -/
def bleedOf (devId : Adf5355DeviceId) (p cp n : ℤ) : ℤ :=
  ExactWord.clamp (if devId = .ADF5356 then 24 * (p / 1000) * cp / (61440 * 900) else ExactWord.ceil (400 * cp) (n * 375))
    1 255

local instance neZeroSetupRegs : NeZero 14 := ⟨by decide⟩

/-- What the fields of the registers hold -/
def Adf5355SetupDev.values (dev : Adf5355SetupDev) : Adf5355Values where
  chargePumpCurr := (unpack 10 4 (dev.regs 4)).toNat
  timeout := (unpack 14 10 (dev.regs 9)).toNat
  synthLockTimeout := (unpack 4 5 (dev.regs 9)).toNat
  alcTimeout := (unpack 9 5 (dev.regs 9)).toNat
  vcoBandDiv := (unpack 24 8 (dev.regs 9)).toNat
  adcClkDiv := (unpack 6 8 (dev.regs 10)).toNat
  delayUs := dev.delayUs.toNat

def bleedField (dev : Adf5355Dev) : ℤ := (unpack 13 8 (dev.regs 6)).toNat

section Derive

open ExactWord

variable {devId : Adf5355DeviceId} {fpfd cpUa : UInt32} {p cp : ℤ}

lemma is_timeout (hp : Is fpfd p) (hmax : p ≤ 75000000) :
    Is (NoOS.clamp (divRoundUp fpfd (20000 * 30)) 1 1023) (timeoutOf p) := by
  have hdivisor : Is (20000 * 30) (20000 * 30) := rfl
  have hone : Is 1 1 := rfl
  have hhigh : Is 1023 1023 := rfl
  exact (hp.ceil hdivisor (by decide) (by omega)).clamp hone hhigh

lemma timeoutOf_bounds (hlow : 0 < p) (hmax : p ≤ 75000000) :
    1 ≤ timeoutOf p ∧ timeoutOf p ≤ 125 ∧ p ≤ timeoutOf p * 600000 := by
  have hceil := @ceil_le p 600000 125 (by decide) (by omega)
  have hle := @le_ceil_mul p 600000 (by decide)
  have hdef : timeoutOf p = max (min (ceil p 600000) 1023) 1 := rfl
  lia

lemma is_adcClkDiv (hp : Is fpfd p) (hlow : 500000 ≤ p) (hmax : p ≤ 75000000) :
    Is (NoOS.clamp (divRoundUp (fpfd / 100000 - 2) 4) 1 255) (adcClkDivOf p) := by
  have hquot : Is (fpfd / 100000) (p / 100000) := hp.div rfl
  have hsub := hquot.sub (y := 2) (b := 2) rfl (by lia)
  exact (hsub.ceil (y := 4) (b := 4) rfl (by decide) (by lia)).clamp (l := 1) (h := 255) rfl rfl

lemma adcClkDivOf_bounds (hlow : 500000 ≤ p) (hmax : p ≤ 75000000) :
    1 ≤ adcClkDivOf p ∧ adcClkDivOf p ≤ 187 ∧ 100000 * (4 * adcClkDivOf p - 3) ≤ p := by
  have hceil := @ceil_le (p / 100000 - 2) 4 187 (by decide) (by lia)
  have hdef : adcClkDivOf p = max (min ((p / 100000 - 2 + 4 - 1) / 4) 255) 1 := rfl
  rw [ceil] at hceil
  lia

/-- Derived words stand for the values of the formulas. -/
structure Adf5355Derived.Are (d : Adf5355Derived) (f : Adf5355Values) : Prop where
  chargePumpCurr : Is d.chargePumpCurr f.chargePumpCurr
  timeout : Is d.timeout f.timeout
  synthLockTimeout : Is d.synthLockTimeout f.synthLockTimeout
  alcTimeout : Is d.alcTimeout f.alcTimeout
  vcoBandDiv : Is d.vcoBandDiv f.vcoBandDiv
  adcClkDiv : Is d.adcClkDiv f.adcClkDiv
  delayUs : Is d.delayUs f.delayUs

/-- The values do not exceed their fields. -/
structure Adf5355Values.Fit (f : Adf5355Values) : Prop where
  chargePumpCurr : f.chargePumpCurr < 2 ^ 4
  timeout : f.timeout < 2 ^ 10
  synthLockTimeout : f.synthLockTimeout < 2 ^ 5
  alcTimeout : f.alcTimeout < 2 ^ 5
  vcoBandDiv : f.vcoBandDiv < 2 ^ 8
  adcClkDiv : f.adcClkDiv < 2 ^ 8

lemma fit_formulas (hlow : 500000 ≤ p) (hmax : p ≤ 75000000) : (adf5355Formulas devId p cp).Fit := by
  obtain ⟨hone, hhigh, hle⟩ := timeoutOf_bounds (by omega) hmax
  obtain ⟨-, hadc, -⟩ := adcClkDivOf_bounds hlow hmax
  have hsynth := @ceil_le (p * 2) (100000 * timeoutOf p) 12 (by lia) (by lia)
  have halc := @ceil_le (p * 5) (100000 * timeoutOf p) 30 (by lia) (by lia)
  have hband : ceil p (if devId = .ADF5356 then 1600000 else 2400000) ≤ 47 := by
    split_ifs
    · exact ceil_le (by decide) (by omega)
    · exact ceil_le (by decide) (by omega)
  constructor
  · change max (min _ 15) 0 < _
    lia
  · exact hhigh.trans_lt (by decide)
  · exact hsynth.trans_lt (by decide)
  · exact halc.trans_lt (by decide)
  · exact hband.trans_lt (by decide)
  · exact hadc.trans_lt (by decide)

lemma value_divRoundUpBy {x y : UInt32} {a b : ℤ} (hx : Is x a) (hy : Is y b) (hpos : 1 ≤ b) (h : a + b < 2 ^ 32) :
    ∃ z, (divRoundUpBy x y).value = some z ∧ Is z (ceil a b) := by
  have hne : y ≠ 0 := by
    rintro rfl
    have hzero : (0 : ℤ) = b := hy
    omega
  exact ⟨_, value_div hne, hx.ceil hy hpos h⟩

lemma value_derive (hp : Is fpfd p) (hcp : Is cpUa cp) (hlow : 500000 ≤ p) (hmax : p ≤ 75000000) (hcp315 : 315 ≤ cp)
    (hcpmax : cp ≤ 5040) : ∃ d, (adf5355Derive devId fpfd cpUa).value = some d ∧ d.Are (adf5355Formulas devId p cp) := by
  obtain ⟨hone, hhigh, hle⟩ := timeoutOf_bounds (by omega) hmax
  obtain ⟨hadc, hadc', hadcp⟩ := adcClkDivOf_bounds hlow hmax
  have htimeout := is_timeout hp hmax
  have hadcDiv := is_adcClkDiv hp hlow hmax
  have hperiod : Is (100000 * NoOS.clamp (divRoundUp fpfd (20000 * 30)) 1 1023) (100000 * timeoutOf p) :=
    Is.mul (x := 100000) (a := 100000) rfl htimeout (by lia)
  have hdouble : Is (fpfd * 2) (p * 2) := hp.mul (y := 2) (b := 2) rfl (by lia)
  have hfive : Is (fpfd * 5) (p * 5) := hp.mul (y := 5) (b := 5) rfl (by lia)
  obtain ⟨synth, hsynth, hissynth⟩ := value_divRoundUpBy hdouble hperiod (by lia) (by lia)
  obtain ⟨alc, halc, hisalc⟩ := value_divRoundUpBy hfive hperiod (by lia) (by lia)
  have hcycle : Is (4 * NoOS.clamp (divRoundUp (fpfd / 100000 - 2) 4) 1 255 + 2) (4 * adcClkDivOf p + 2) :=
    (Is.mul (x := 4) (a := 4) rfl hadcDiv (by lia)).add (y := 2) (b := 2) rfl (by lia)
  have hquot := hp.div hcycle
  have hquotpos : 1 ≤ p / (4 * adcClkDivOf p + 2) := by
    rw [Int.le_ediv_iff_mul_le (by lia)]
    lia
  have hquotmax : p / (4 * adcClkDivOf p + 2) ≤ p := Int.ediv_le_self _ (by lia)
  obtain ⟨delay, hdelay, hisdelay⟩ := value_divRoundUpBy (x := 16000000) (a := 16000000) rfl hquot hquotpos (by lia)
  have hpump : Is (NoOS.clamp (divRoundClosest (cpUa - 315) 315) 0 15) (adf5355Formulas devId p cp).chargePumpCurr := by
    have hsub := hcp.sub (y := 315) (b := 315) rfl hcp315
    have hhalf : Is (315 / 2) (315 / 2) := Is.div (x := 315) (a := 315) (y := 2) (b := 2) rfl rfl
    have hadd := hsub.add hhalf (by lia)
    exact (hadd.div (y := 315) (b := 315) rfl).clamp (l := 0) (h := 15) rfl rfl
  have hband : Is (divRoundUp fpfd (if devId = .ADF5356 then 1600000 else 2400000))
      (adf5355Formulas devId p cp).vcoBandDiv := by
    change Is _ (ceil p (if devId = .ADF5356 then 1600000 else 2400000))
    split_ifs
    · exact hp.ceil (y := 1600000) (b := 1600000) rfl (by decide) (by lia)
    · exact hp.ceil (y := 2400000) (b := 2400000) rfl (by decide) (by lia)
  refine ⟨⟨_, _, synth, alc, _, _, delay⟩, ?_, hpump, htimeout, hissynth, hisalc, hband, hadcDiv, hisdelay⟩
  unfold adf5355Derive
  dsimp only
  rw [value_bind, hsynth, Option.bind_some, value_bind, halc, Option.bind_some, value_bind, hdelay, Option.bind_some,
    value_pure]
  rfl

end Derive

section Reference

variable {dev : Adf5355SetupDev} {c d r : ℕ}

/-- The least reference divider for a reference of `c` and a fixed divider of `d` -/
def leastRCnt (c d : ℕ) : ℕ := c / (75000001 * d) + 1

/-- The frequency of the phase detector with that divider -/
def pfdOf (c d : ℕ) : ℕ := c / (leastRCnt c d * d)

/-- The reference after the doubler, without a bound -/
def Adf5355SetupDev.refIn (dev : Adf5355SetupDev) : ℕ := dev.clkinFreq.toNat * if dev.refDoublerEn ≠ 0 then 2 else 1

def Adf5355SetupDev.refStep (dev : Adf5355SetupDev) : ℕ := if dev.refDiv2En ≠ 0 then 2 else 1

lemma refStep_cases : dev.refStep = 1 ∨ dev.refStep = 2 := by
  unfold Adf5355SetupDev.refStep
  split_ifs
  · exact Or.inr rfl
  · exact Or.inl rfl

lemma leastRCnt_le_iff (hd : 0 < d) (hr : 1 ≤ r) : leastRCnt c d ≤ r ↔ c / (r * d) ≤ 75000000 := by
  rw [leastRCnt, Nat.succ_le_iff, Nat.div_lt_iff_lt_mul (Nat.mul_pos (by decide) hd),
    ← Nat.lt_succ_iff (m := c / (r * d)), Nat.div_lt_iff_lt_mul (Nat.mul_pos hr hd), Nat.mul_left_comm]

lemma isLeast_leastRCnt (hd : 0 < d) : IsLeast {r | 1 ≤ r ∧ c / (r * d) ≤ 75000000} (leastRCnt c d) := by
  have hone : 1 ≤ leastRCnt c d := Nat.succ_pos _
  refine ⟨⟨hone, (leastRCnt_le_iff hd hone).mp (Nat.le_refl _)⟩, ?_⟩
  rintro r ⟨hr, hle⟩
  exact (leastRCnt_le_iff hd hr).mpr hle

lemma leastRCnt_le (hd : d = 1 ∨ d = 2) (hc : c ≤ 1200000000) : leastRCnt c d ≤ 16 := by
  rw [leastRCnt]
  rcases hd with rfl | rfl
  · lia
  · lia

lemma pfdOf_bounds (hd : d = 1 ∨ d = 2) (hc : 1000000 ≤ c) : 500000 ≤ pfdOf c d ∧ pfdOf c d ≤ 75000000 := by
  have hpos : 0 < d := by lia
  have hone : 0 < leastRCnt c d := Nat.succ_pos _
  refine ⟨?_, (leastRCnt_le_iff hpos hone).mp (Nat.le_refl _)⟩
  rw [pfdOf, Nat.le_div_iff_mul_le (Nat.mul_pos hone hpos), leastRCnt]
  rcases hd with rfl | rfl
  · lia
  · lia

lemma value_pfd {x : UInt16} (hx : 1 ≤ x.toNat) (hin : dev.refIn < 2 ^ 32) : ∃ fpfd,
    (dev.pfd x).value = some fpfd ∧ fpfd.toNat = dev.refIn / (x.toNat * dev.refStep) := by
  have hword := x.toNat_lt
  have hrefIn : (dev.clkinFreq * if dev.refDoublerEn ≠ 0 then 2 else 1).toNat = dev.refIn := by
    rw [Adf5355SetupDev.refIn] at hin ⊢
    split_ifs at hin ⊢ <;>
    · rw [UInt32.toNat_mul]
      exact Nat.mod_eq_of_lt hin
  have hstep : (x.toUInt32 * if dev.refDiv2En ≠ 0 then 2 else 1).toNat = x.toNat * dev.refStep := by
    rw [Adf5355SetupDev.refStep]
    split_ifs
    · rw [UInt32.toNat_mul, UInt16.toNat_toUInt32]
      exact Nat.mod_eq_of_lt (by change x.toNat * 2 < _; lia)
    · rw [UInt32.toNat_mul, UInt16.toNat_toUInt32]
      exact Nat.mod_eq_of_lt (by change x.toNat * 1 < _; lia)
  have hpos : 0 < x.toNat * dev.refStep := by
    rcases @refStep_cases dev with h | h <;>
    · rw [h]
      lia
  refine ⟨_, value_div (Word.ne_zero_of_pos (by rwa [hstep])), ?_⟩
  rw [UInt32.toNat_div, hrefIn, hstep]

/-- The loop stops at the least divider, if it is within the rounds that are left. -/
lemma value_maximizePfd (hin : dev.refIn < 2 ^ 32) (n : ℕ) {x : UInt16} (hx : 1 ≤ x.toNat)
    (hle : x.toNat ≤ leastRCnt dev.refIn dev.refStep) (hn : leastRCnt dev.refIn dev.refStep ≤ x.toNat + n)
    (hlt : leastRCnt dev.refIn dev.refStep < 2 ^ 16) : ∃ y fpfd, (dev.maximizePfd n x).value = some (y, fpfd) ∧
      y.toNat = leastRCnt dev.refIn dev.refStep ∧ fpfd.toNat = pfdOf dev.refIn dev.refStep := by
  have hstep : 0 < dev.refStep := by
    rcases @refStep_cases dev with h | h <;> lia
  induction n generalizing x with
  | zero =>
    obtain ⟨fpfd, hvalue, hfpfd⟩ := value_pfd hx hin
    have heq : x.toNat = leastRCnt dev.refIn dev.refStep := by lia
    refine ⟨x, fpfd, ?_, heq, by rw [hfpfd, heq, pfdOf]⟩
    rw [Adf5355SetupDev.maximizePfd, value_bind, hvalue]
    rfl
  | succ n ih =>
    obtain ⟨fpfd, hvalue, hfpfd⟩ := value_pfd hx hin
    have hstop : fpfd > ADF5355_MAX_FREQ_PFD ↔ x.toNat < leastRCnt dev.refIn dev.refStep := by
      rw [gt_iff_lt, UInt32.lt_iff_toNat_lt, hfpfd, ← Nat.not_le, ← Nat.not_le, leastRCnt_le_iff hstep hx]
      rfl
    rw [Adf5355SetupDev.maximizePfd, value_bind, hvalue, Option.bind_some]
    split_ifs with hlarge
    · have hmore := hstop.mp hlarge
      have hnext : (x + 1).toNat = x.toNat + 1 := by
        rw [UInt16.toNat_add]
        exact Nat.mod_eq_of_lt (by change x.toNat + 1 < 2 ^ 16; lia)
      exact ih (by lia) (by lia) (by lia)
    · have heq : x.toNat = leastRCnt dev.refIn dev.refStep := by
        rw [hstop] at hlarge
        lia
      exact ⟨x, fpfd, rfl, heq, by rw [hfpfd, heq, pfdOf]⟩

end Reference

section Registers

open ExactWord

variable {dev : Adf5355SetupDev} {derived : Adf5355Derived} {f : Adf5355Values}

lemma fits_bool (b : Bool) {offset : ℕ} (hend : offset + 1 ≤ 32) : Slot.Fits ⟨offset, 1, b.toUInt32⟩ := by
  have hval : b.toUInt32.toNat < 2 ^ 1 := by
    cases b <;> decide
  exact ⟨hval, (by decide : 1 < 32), hend, (by omega : offset < 32)⟩

lemma Is.of_masked {x y : UInt32} {a : ℤ} {width : ℕ} (hy : Is y a) (ha : a < 2 ^ width)
    (h : x.toNat = y.toNat % 2 ^ width) : (x.toNat : ℤ) = a := by
  rw [Is] at hy
  have hlt : y.toNat < 2 ^ width := by
    rw [← hy] at ha
    exact_mod_cast ha
  rw [h, Nat.mod_eq_of_lt hlt, hy]

/-- Register 4 has the current of the charge pump and the reference divider. -/
lemma setupRegs_four : (unpack 10 4 (dev.setupRegs derived 4)).toNat = derived.chargePumpCurr.toNat % 2 ^ 4 ∧
    (unpack 15 10 (dev.setupRegs derived 4)).toNat = dev.refDivFactor.toUInt32.toNat % 2 ^ 10 := by
  have hfits : ∀ f ∈ [(⟨7, 1, (decide (dev.phaseDetectorPolarityNeg = 0)).toUInt32⟩ : Slot),
      ⟨8, 1, dev.muxOut3v3En.toUInt32⟩, ⟨9, 1, dev.refDiffEn.toUInt32⟩,
      ⟨10, 4, derived.chargePumpCurr &&& UInt32.ofNat (2 ^ 4 - 1)⟩, ⟨14, 1, 1⟩,
      ⟨15, 10, dev.refDivFactor.toUInt32 &&& UInt32.ofNat (2 ^ 10 - 1)⟩], f.Fits := by
    simp only [List.forall_mem_cons, List.not_mem_nil, false_implies, implies_true, and_true]
    exact ⟨fits_bool _ (by decide), fits_bool _ (by decide), fits_bool _ (by decide),
      fits_masked _ (by decide) (by decide) (by decide), ⟨by decide, by decide, by decide, by decide⟩,
      fits_masked _ (by decide) (by decide) (by decide)⟩
  have hword : dev.setupRegs derived 4 = pack [⟨7, 1, (decide (dev.phaseDetectorPolarityNeg = 0)).toUInt32⟩,
      ⟨8, 1, dev.muxOut3v3En.toUInt32⟩, ⟨9, 1, dev.refDiffEn.toUInt32⟩,
      ⟨10, 4, derived.chargePumpCurr &&& UInt32.ofNat (2 ^ 4 - 1)⟩, ⟨14, 1, 1⟩,
      ⟨15, 10, dev.refDivFactor.toUInt32 &&& UInt32.ofNat (2 ^ 10 - 1)⟩] |||
      (dev.refDiv2En.toUInt32 <<< 25 ||| dev.refDoublerEn.toUInt32 <<< 26 |||
        (dev.muxOutSel.toUInt32 &&& 0x7) <<< 27) := by
    have hzero : ADF5355_REG4_COUNTER_RESET_EN 0 ||| ADF5355_REG4_CP_THREESTATE_EN 0 ||| ADF5355_REG4_POWER_DOWN_EN 0 =
        0 := by decide
    rw [Adf5355SetupDev.setupRegs, hzero, UInt32.zero_or]
    simp only [pack, UInt32.or_zero, UInt32.or_assoc]
    rfl
  -- the fields above the divider
  have habove : ∀ {offset width : ℕ}, width < 32 → offset + width ≤ 25 →
      unpack offset width (dev.refDiv2En.toUInt32 <<< 25 ||| dev.refDoublerEn.toUInt32 <<< 26 |||
        (dev.muxOutSel.toUInt32 &&& 0x7) <<< 27) = 0 := by
    intro offset width hwidth hle
    have hdiv2 := @unpack_shift_above offset width dev.refDiv2En.toUInt32 25 (by decide) hwidth hle
    have hdoubler := @unpack_shift_above offset width dev.refDoublerEn.toUInt32 26 (by decide) hwidth (by lia)
    have hmux := @unpack_shift_above offset width (dev.muxOutSel.toUInt32 &&& 0x7) 27 (by decide) hwidth (by omega)
    rw [unpack_or, unpack_or]
    change unpack offset width (_ <<< UInt32.ofNat 25) ||| unpack offset width (_ <<< UInt32.ofNat 26) |||
      unpack offset width (_ <<< UInt32.ofNat 27) = 0
    rw [hdiv2, hdoubler, hmux]
    rfl
  constructor
  · rw [hword, unpack_or, habove (by decide) (by decide), UInt32.or_zero]
    exact toNat_unpack_pack hfits (by simp [Apart]) (by decide) (List.mem_of_getElem? (i := 3) rfl)
  · rw [hword, unpack_or, habove (by decide) (by decide), UInt32.or_zero]
    exact toNat_unpack_pack hfits (by simp [Apart]) (by decide) (List.mem_of_getElem? (i := 5) rfl)

/-- Register 9 has the timeouts and the divider of the VCO bands. -/
lemma setupRegs_nine : (unpack 14 10 (dev.setupRegs derived 9)).toNat = derived.timeout.toNat % 2 ^ 10 ∧
    (unpack 4 5 (dev.setupRegs derived 9)).toNat = derived.synthLockTimeout.toNat % 2 ^ 5 ∧
    (unpack 9 5 (dev.setupRegs derived 9)).toNat = derived.alcTimeout.toNat % 2 ^ 5 ∧
    (unpack 24 8 (dev.setupRegs derived 9)).toNat = derived.vcoBandDiv.toNat % 2 ^ 8 := by
  have hfits : ∀ f ∈ [(⟨14, 10, derived.timeout &&& UInt32.ofNat (2 ^ 10 - 1)⟩ : Slot),
      ⟨4, 5, derived.synthLockTimeout &&& UInt32.ofNat (2 ^ 5 - 1)⟩,
      ⟨9, 5, derived.alcTimeout &&& UInt32.ofNat (2 ^ 5 - 1)⟩,
      ⟨24, 8, derived.vcoBandDiv &&& UInt32.ofNat (2 ^ 8 - 1)⟩], f.Fits := by
    simp only [List.forall_mem_cons, List.not_mem_nil, false_implies, implies_true, and_true]
    exact ⟨fits_masked _ (by decide) (by decide) (by decide), fits_masked _ (by decide) (by decide) (by decide),
      fits_masked _ (by decide) (by decide) (by decide), fits_masked _ (by decide) (by decide) (by decide)⟩
  have hword : dev.setupRegs derived 9 = pack [⟨14, 10, derived.timeout &&& UInt32.ofNat (2 ^ 10 - 1)⟩,
      ⟨4, 5, derived.synthLockTimeout &&& UInt32.ofNat (2 ^ 5 - 1)⟩,
      ⟨9, 5, derived.alcTimeout &&& UInt32.ofNat (2 ^ 5 - 1)⟩,
      ⟨24, 8, derived.vcoBandDiv &&& UInt32.ofNat (2 ^ 8 - 1)⟩] := by
    simp only [pack, UInt32.or_zero, Adf5355SetupDev.setupRegs, UInt32.or_assoc]
    rfl
  rw [hword]
  refine ⟨?_, ?_, ?_, ?_⟩
  · exact toNat_unpack_pack hfits (by simp [Apart]) (by decide) (List.mem_of_getElem? (i := 0) rfl)
  · exact toNat_unpack_pack hfits (by simp [Apart]) (by decide) (List.mem_of_getElem? (i := 1) rfl)
  · exact toNat_unpack_pack hfits (by simp [Apart]) (by decide) (List.mem_of_getElem? (i := 2) rfl)
  · exact toNat_unpack_pack hfits (by simp [Apart]) (by decide) (List.mem_of_getElem? (i := 3) rfl)

lemma setupRegs_ten : (unpack 6 8 (dev.setupRegs derived 10)).toNat = derived.adcClkDiv.toNat % 2 ^ 8 := by
  have hword : dev.setupRegs derived 10 = pack [⟨4, 1, 1⟩, ⟨5, 1, 1⟩,
      ⟨6, 8, derived.adcClkDiv &&& UInt32.ofNat (2 ^ 8 - 1)⟩, ⟨22, 2, 3⟩, ⟨0, 4, 0xA⟩] := by
    simp only [pack, UInt32.or_zero, Adf5355SetupDev.setupRegs, UInt32.or_assoc]
    rfl
  rw [hword]
  refine toNat_unpack_pack ?_ (by simp [Apart]) (by decide) (List.mem_of_getElem? (i := 2) rfl)
  simp only [List.forall_mem_cons, List.not_mem_nil, false_implies, implies_true, and_true]
  exact ⟨⟨by decide, by decide, by decide, by decide⟩, ⟨by decide, by decide, by decide, by decide⟩,
    fits_masked _ (by decide) (by decide) (by decide), ⟨by decide, by decide, by decide, by decide⟩,
    by decide, by decide, by decide, by decide⟩

/-- Derived values that fit are found again in the registers of the setup. -/
lemma values_setupRegs (hare : derived.Are f) (hfit : f.Fit)
    (hregs : ∀ i, i = 4 ∨ i = 9 ∨ i = 10 → dev.regs i = dev.setupRegs derived i)
    (hdelay : dev.delayUs = derived.delayUs) : dev.values = f := by
  obtain ⟨hpump, -⟩ := @setupRegs_four dev derived
  obtain ⟨htimeout, hsynth, halc, hband⟩ := @setupRegs_nine dev derived
  have hadc := @setupRegs_ten dev derived
  rw [← hregs 4 (by simp)] at hpump
  rw [← hregs 9 (by simp)] at htimeout hsynth halc hband
  rw [← hregs 10 (by simp)] at hadc
  rw [Adf5355SetupDev.values, Is.of_masked hare.chargePumpCurr hfit.chargePumpCurr hpump,
    Is.of_masked hare.timeout hfit.timeout htimeout, Is.of_masked hare.synthLockTimeout hfit.synthLockTimeout hsynth,
    Is.of_masked hare.alcTimeout hfit.alcTimeout halc, Is.of_masked hare.vcoBandDiv hfit.vcoBandDiv hband,
    Is.of_masked hare.adcClkDiv hfit.adcClkDiv hadc, hdelay, hare.delayUs]

end Registers

section Bleed

open ExactWord

variable {dev : Adf5355Dev} {rets : ℕ → Int} {p cp n : ℕ}

lemma bleed_freqRegs (cpBleed : UInt32) : (unpack 13 8 (dev.freqRegs cpBleed 6)).toNat = cpBleed.toNat % 2 ^ 8 := by
  have hbool : ∀ (b : Bool) (k : ℕ), k + 1 ≤ 13 ∨ 21 ≤ k ∧ k + 1 ≤ 32 →
      unpack 13 8 (b.toUInt32 <<< UInt32.ofNat k) = 0 := by
    intro b k hk
    exact unpack_shift_apart (f := ⟨k, 1, b.toUInt32⟩) (fits_bool b (by lia)) (by decide) (by decide)
      (show 13 + 8 ≤ k ∨ k + 1 ≤ 13 by lia)
  have hmasked : ∀ (x : UInt32) (k width : ℕ), 0 < width → k + width ≤ 13 ∨ 21 ≤ k ∧ k + width ≤ 32 →
      unpack 13 8 ((x &&& UInt32.ofNat (2 ^ width - 1)) <<< UInt32.ofNat k) = 0 := by
    intro x k width hwidth hk
    exact unpack_shift_apart (f := ⟨k, width, _⟩) (fits_masked x (by lia) (by lia) (by lia)) (by decide)
      (by decide) (show 13 + 8 ≤ k ∨ k + width ≤ 13 by lia)
  have hpower : unpack 13 8 (ADF5355_REG6_OUTPUT_PWR dev.outaPower.toUInt32) = 0 :=
    hmasked _ 4 2 (by decide) (by decide)
  have hdiv : unpack 13 8 (ADF5355_REG6_RF_DIV_SEL dev.rfDivSel.toUInt32) = 0 := hmasked _ 21 3 (by decide) (by decide)
  have hself : unpack 13 8 (ADF5355_REG6_CP_BLEED_CURR cpBleed) = cpBleed &&& UInt32.ofNat (2 ^ 8 - 1) :=
    unpack_shift_self (f := ⟨13, 8, _⟩) (fits_masked cpBleed (by decide) (by decide) (by decide))
  have hsecond : unpack 13 8 (if dev.devId = .ADF5355 then ADF5355_REG6_RF_OUTB_EN !dev.outbEn
      else ADF4355_REG6_OUTPUTB_PWR dev.outbPower.toUInt32 ||| ADF4355_REG6_RF_OUTB_EN dev.outbEn) = 0 := by
    split_ifs
    · exact hbool _ 10 (by decide)
    · rw [unpack_or]
      exact congrArg₂ (· ||| ·) (hmasked _ 7 2 (by decide) (by decide)) (hbool _ 9 (by decide))
  have hout : ∀ b, unpack 13 8 (ADF5355_REG6_RF_OUT_EN b) = 0 := fun b => hbool b 6 (by decide)
  have hmute : ∀ b, unpack 13 8 (ADF5355_REG6_MUTE_TILL_LOCK_EN b) = 0 := fun b => hbool b 11 (by decide)
  have hneg : ∀ b, unpack 13 8 (ADF5355_REG6_NEG_BLEED_EN b) = 0 := fun b => hbool b 29 (by decide)
  have hgated : ∀ b, unpack 13 8 (ADF5355_REG6_GATED_BLEED_EN b) = 0 := fun b => hbool b 30 (by decide)
  have hpolarity : ∀ b, unpack 13 8 (ADF5356_REG6_BLEED_POLARITY b) = 0 := fun b => hbool b 31 (by decide)
  have hfund : unpack 13 8 (ADF5355_REG6_FEEDBACK_FUND 1) = 0 := by decide
  have hdefault : unpack 13 8 ADF5355_REG6_DEFAULT = 0 := by decide
  have hfield : unpack 13 8 (dev.freqRegs cpBleed 6) = cpBleed &&& UInt32.ofNat (2 ^ 8 - 1) := by
    simp only [Adf5355Dev.freqRegs, unpack_or, hpower, hout, hsecond, hmute, hself, hdiv, hfund, hneg, hgated,
      hpolarity, hdefault, UInt32.or_zero, UInt32.zero_or]
  have hmask : (UInt32.ofNat (2 ^ 8 - 1)).toNat = 2 ^ 8 - 1 := rfl
  rw [hfield, UInt32.toNat_and, hmask, Nat.and_two_pow_sub_one_eq_mod]

/-- A call that sets the frequency `rate` leaves the bleed current of the formula, if it accepts the frequency. -/
def BleedExact (dev : Adf5355Dev) (rate : UInt64) (chan : UInt8) (dev' : Adf5355Dev) : Prop :=
  (adf5355Vco dev rate chan).isOk → bleedField dev' = bleedOf dev.devId dev'.fpfd.toNat dev.cpUa.toNat
    (vcoOf dev.minVcoFreq.toNat (rate.toNat / if chan = 0 then 1 else 2) / dev'.fpfd.toNat : ℕ)

/-- The product of the bleed current fits into 32 bits where it is needed. -/
def BleedFits (devId : Adf5355DeviceId) (p cp : ℕ) : Prop := devId = .ADF5356 → 24 * (p / 1000) * cp < 2 ^ 32

instance (devId : Adf5355DeviceId) (p cp : ℕ) : Decidable (BleedFits devId p cp) :=
  inferInstanceAs (Decidable (_ → _))

/-- The bleed current is the one of the formula, unless the product of the ADF5356 needs more than 32 bits. -/
lemma value_cpBleed (hp : dev.fpfd.toNat = p) (hcp : dev.cpUa.toNat = cp) (hn : dev.integer.toNat = n) (hpos : 1 ≤ n)
    (hnmax : n < 2 ^ 15) (hmax : p ≤ 75000000) (hcpmax : cp ≤ 5040) : ∃ b, dev.cpBleed.value = some b ∧
      (((clamp b 1 255).toNat : ℤ) = bleedOf dev.devId p cp n ↔ BleedFits dev.devId p cp) := by
  have hisp := Is.of_toNat hp
  have hiscp := Is.of_toNat hcp
  have hisn := Is.of_toNat hn
  by_cases hdev : dev.devId = .ADF5356
  · refine ⟨24 * (dev.fpfd / 1000) * dev.cpUa / (61440 * 900), ?_, ?_⟩
    · unfold Adf5355Dev.cpBleed
      dsimp only
      rw [if_pos hdev]
      exact value_div (by decide)
    · have hquot : (dev.fpfd / 1000).toNat = p / 1000 := by
        rw [UInt32.toNat_div, hp]
        rfl
      have hscaled : (24 * (dev.fpfd / 1000)).toNat = 24 * (p / 1000) := by
        rw [UInt32.toNat_mul, hquot]
        exact Nat.mod_eq_of_lt (by change 24 * (p / 1000) < _; lia)
      have hbleed : (24 * (dev.fpfd / 1000) * dev.cpUa / (61440 * 900)).toNat =
          24 * (p / 1000) * cp % 2 ^ 32 / 55296000 := by
        rw [UInt32.toNat_div, UInt32.toNat_mul, hscaled, hcp]
        rfl
      have hone : Is 1 1 := rfl
      have h255 : Is 255 255 := rfl
      have hclamp := (Is.of_toNat hbleed).clamp hone h255
      have hproduct : 24 * (p / 1000) * cp ≤ 24 * 75000 * 5040 := Nat.mul_le_mul (by lia) hcpmax
      change ((clamp _ 1 255).toNat : ℤ) = _ at hclamp
      rw [hclamp, bleedOf, if_pos hdev]
      have hcast : (24 * (p / 1000) * cp : ℤ) = (24 * (p / 1000) * cp : ℕ) := by push_cast; rfl
      rw [hcast]
      simp only [BleedFits, hdev, forall_true_left]
      generalize 24 * (p / 1000) * cp = x at *
      unfold ExactWord.clamp
      lia
  · have hdivisor : Is (dev.integer * 375) (n * 375) := hisn.mul (y := 375) (b := 375) rfl (by lia)
    have hcurrent : Is (400 * dev.cpUa) (400 * cp) := Is.mul (x := 400) (a := 400) rfl hiscp (by lia)
    have hne : dev.integer * 375 ≠ 0 := mul_375_ne_zero (Word.ne_zero_of_pos (by lia))
    refine ⟨(400 * dev.cpUa + dev.integer * 375 - 1) / (dev.integer * 375), ?_, ?_⟩
    · unfold Adf5355Dev.cpBleed
      dsimp only
      rw [if_neg hdev]
      exact value_div hne
    · refine iff_of_true ?_ fun h => absurd h hdev
      rw [bleedOf, if_neg hdev]
      exact (hcurrent.ceil hdivisor (by lia) (by lia)).clamp (l := 1) (h := 255) rfl rfl

lemma adf5355RegConfig_regs (syncAll : Bool) : (adf5355RegConfig rets dev syncAll).2.1.regs = dev.regs := by
  unfold adf5355RegConfig
  dsimp only
  split_ifs <;> rfl

lemma value_adf5355Send {b : UInt32} (hb : dev.cpBleed.value = some b) (vco : UInt64) : ∃ ret dev' ws,
    (adf5355Send rets dev vco).value = some (ret, dev', ws) ∧ dev'.regs = dev.freqRegs (clamp b 1 255) ∧
      dev'.fpfd = dev.fpfd := by
  have hsame := @adf5355RegConfig_same { dev with regs := dev.freqRegs (clamp b 1 255), freqReq := vco } rets dev.allSynced
  have hregs := @adf5355RegConfig_regs { dev with regs := dev.freqRegs (clamp b 1 255), freqReq := vco } rets dev.allSynced
  have hvalue : (adf5355Send rets dev vco).value = some (adf5355RegConfig rets
      { dev with regs := dev.freqRegs (clamp b 1 255), freqReq := vco } dev.allSynced) := by
    unfold adf5355Send
    rw [value_bind, hb]
    rfl
  rcases hrun : adf5355RegConfig rets { dev with regs := dev.freqRegs (clamp b 1 255), freqReq := vco } dev.allSynced
    with ⟨ret, dev', ws⟩
  rw [hrun] at hsame hregs hvalue
  exact ⟨ret, dev', ws, hvalue, hregs, hsame.fpfd⟩

/-- A frequency that is refused leaves the device as it is, and one that is accepted sets the bleed current, but not
the registers of the setup. -/
lemma value_adf5355SetFreq (hlim : dev.Limited) (hp : dev.fpfd.toNat = p) (hcp : dev.cpUa.toNat = cp)
    (hlow : 500000 ≤ p) (hmax : p ≤ 75000000) (hcpmax : cp ≤ 5040) (rate : UInt64) (chan : UInt8) :
    ∃ ret dev' ws, (adf5355SetFreq rets dev rate chan).value = some (ret, dev', ws) ∧
      (∀ i, i = 4 ∨ i = 9 ∨ i = 10 → dev'.regs i = dev.regs i) ∧ dev'.fpfd = dev.fpfd ∧
      (BleedExact dev rate chan dev' ↔ ((adf5355Vco dev rate chan).isOk → BleedFits dev.devId p cp)) := by
  rcases hcases : adf5355Vco dev rate chan with ret | ⟨vco, sel⟩
  · refine ⟨ret, dev, [], ?_, fun _ _ => rfl, rfl, ?_⟩
    · unfold adf5355SetFreq
      rw [hcases, value_pure]
    · have hexact : BleedExact dev rate chan dev := by
        intro hok
        rw [hcases] at hok
        cases hok
      exact iff_of_true hexact fun hok => absurd hok Bool.false_ne_true
  · obtain ⟨hvcolow, hvcomax, hvco⟩ := adf5355Vco_eq hlim hcases
    have hmin := hlim.minVco_ge
    obtain ⟨s, hs, hcomputes⟩ := @gives_compute ADF5355_MODULUS1 vco
      (if dev.devId = .ADF5356 then ADF5356_MAX_MODULUS2 else ADF5355_MAX_MODULUS2) dev.fpfd (by lia) (by lia)
      (by split_ifs <;> decide) (by decide)
    obtain ⟨hvalue, -⟩ := @hs.rest (f := fun s =>
      adf5355Send rets { dev with rfDivSel := sel, toFractN := s } vco)
    have hquot : vco.toNat / p < 2 ^ 15 := by
      rw [Nat.div_lt_iff_lt_mul (by lia)]
      lia
    have hquotpos : 1 ≤ vco.toNat / p := Nat.div_pos (by lia) (by lia)
    have hint : s.integer.toNat = vco.toNat / p := by
      rw [hcomputes.integer, hp, Nat.mod_eq_of_lt (by lia)]
    obtain ⟨b, hb, hbleed⟩ := @value_cpBleed { dev with rfDivSel := sel, toFractN := s } p cp (vco.toNat / p) hp hcp hint
      hquotpos hquot hmax hcpmax
    obtain ⟨ret, dev', ws, hsent, hregs, hfpfd⟩ :=
      @value_adf5355Send { dev with rfDivSel := sel, toFractN := s } rets b hb vco
    refine ⟨ret, dev', ws, ?_, ?_, hfpfd, ?_⟩
    · unfold adf5355SetFreq
      rw [hcases]
      exact hvalue.trans hsent
    · rintro i (rfl | rfl | rfl) <;>
      · rw [hregs]
        rfl
    · have hok : (adf5355Vco dev rate chan).isOk := by
        rw [hcases]
        rfl
      have hone : Is 1 1 := rfl
      have h255 : Is 255 255 := rfl
      have hclamp := (Is.of_toNat (rfl : b.toNat = b.toNat)).clamp hone h255
      have hlt : (clamp b 1 255).toNat < 2 ^ 8 := by
        change ((clamp b 1 255).toNat : ℤ) = max (min (b.toNat : ℤ) 255) 1 at hclamp
        lia
      rw [BleedExact, forall_prop_of_true hok, bleedField, hregs, bleed_freqRegs, Nat.mod_eq_of_lt hlt, ← hvco, hfpfd,
        hp, hcp]
      exact hbleed.trans ⟨fun hfits _ => hfits, fun hfits => hfits rfl⟩

end Bleed

/-- The reference divider is the least one for the phase detector, and the registers hold the values of the formulas. -/
structure Adf5355SetupDev.SetupExact (dev dev' : Adf5355SetupDev) : Prop where
  rCnt : IsLeast {r | 1 ≤ r ∧ dev.refIn / (r * dev.refStep) ≤ 75000000} (unpack 15 10 (dev'.regs 4)).toNat
  fpfd : dev'.fpfd.toNat = dev.refIn / ((unpack 15 10 (dev'.regs 4)).toNat * dev.refStep)
  values : dev'.values = adf5355Formulas dev.devId dev'.fpfd.toNat dev.cpUa.toNat

section Setup

variable {dev : Adf5355SetupDev} {rets : ℕ → Int}

lemma value_adf5355Setup (hlim : dev.Limited) (hclk : 1000000 ≤ dev.clkinFreq.toNat)
    (hclkmax : dev.clkinFreq.toNat ≤ 600000000) (hcp : 315 ≤ dev.cpUa.toNat) (hcpmax : dev.cpUa.toNat ≤ 5040) :
    ∃ ret dev' ws, (adf5355Setup rets dev).value = some (ret, dev', ws) ∧ dev.SetupExact dev' ∧
      (BleedExact dev.toAdf5355Dev dev.freqReq dev.freqReqChan dev'.toAdf5355Dev ↔
        ((adf5355Vco dev.toAdf5355Dev dev.freqReq dev.freqReqChan).isOk →
          BleedFits dev.devId (pfdOf dev.refIn dev.refStep) dev.cpUa.toNat)) := by
  have hin : 1000000 ≤ dev.refIn ∧ dev.refIn ≤ 1200000000 := by
    rw [Adf5355SetupDev.refIn]
    split_ifs
    · lia
    · lia
  have hstep : 0 < dev.refStep := by
    rcases @refStep_cases dev with h | h <;> lia
  have hleast := @isLeast_leastRCnt dev.refIn dev.refStep hstep
  have hR := leastRCnt_le (@refStep_cases dev) hin.2
  obtain ⟨hlow, hmax⟩ := pfdOf_bounds (@refStep_cases dev) hin.1
  obtain ⟨r, fpfd, hloop, hr, hfpfd⟩ := @value_maximizePfd dev (by lia) 57 1 (by decide)
    hleast.1.1 (by change _ ≤ 1 + 57; lia) (by lia)
  obtain ⟨derived, hderived, hare⟩ := @value_derive dev.devId fpfd dev.cpUa _ _ (ExactWord.Is.of_toNat hfpfd)
    (ExactWord.Is.of_toNat rfl) (by lia) (by lia) (by lia) (by lia)
  -- the device when the setup sets the frequency
  obtain ⟨ready, hready⟩ : ∃ ready : Adf5355SetupDev, ready = { dev with
      refDivFactor := r, fpfd := fpfd, delayUs := derived.delayUs, allSynced := false,
      regs := Adf5355SetupDev.setupRegs { dev with refDivFactor := r, fpfd := fpfd } derived } := ⟨_, rfl⟩
  have hlim' : ready.Limited := by
    rw [hready]
    exact ⟨hlim.numChannels, hlim.freqs⟩
  obtain ⟨ret, tuned, ws, htuned, hregs, hsame, hbleed⟩ := @value_adf5355SetFreq ready.toAdf5355Dev rets
    (pfdOf dev.refIn dev.refStep) dev.cpUa.toNat hlim' (by rw [hready]; exact hfpfd) (by rw [hready]) hlow hmax hcpmax
    dev.freqReq dev.freqReqChan
  have hvalue : (adf5355Setup rets dev).value = some (ret, { ready with toAdf5355Dev := tuned }, ws) := by
    unfold adf5355Setup
    rw [value_bind, hloop, Option.bind_some]
    dsimp only
    rw [value_bind, hderived, Option.bind_some, value_bind]
    subst hready
    rw [htuned]
    rfl
  have hfpfd' : tuned.fpfd.toNat = pfdOf dev.refIn dev.refStep := by
    rw [hsame, hready]
    exact hfpfd
  have hr4 : (unpack 15 10 (tuned.regs 4)).toNat = leastRCnt dev.refIn dev.refStep := by
    rw [hregs 4 (by simp), hready]
    refine setupRegs_four.2.trans ?_
    rw [UInt16.toNat_toUInt32]
    change r.toNat % 2 ^ 10 = _
    rw [Nat.mod_eq_of_lt (by lia), hr]
  refine ⟨ret, _, ws, hvalue, ⟨?_, ?_, ?_⟩, ?_⟩
  · change IsLeast _ (unpack 15 10 (tuned.regs 4)).toNat
    rw [hr4]
    exact hleast
  · change tuned.fpfd.toNat = dev.refIn / ((unpack 15 10 (tuned.regs 4)).toNat * _)
    rw [hfpfd', hr4, pfdOf]
  · change _ = adf5355Formulas dev.devId tuned.fpfd.toNat dev.cpUa.toNat
    rw [hfpfd']
    refine values_setupRegs hare (fit_formulas (by lia) (by lia)) ?_ (by rw [hready])
    intro i hi
    refine (hregs i hi).trans ?_
    rw [hready]
    rcases hi with rfl | rfl | rfl <;> rfl
  · subst hready
    exact hbleed

end Setup

/-- The setup computes what the formulas say over the integers, but for the bleed current, which it and every later
frequency get right if and only if the product of the ADF5356 fits into 32 bits. -/
theorem setup_exact_iff (rets : ℕ → Int) :
    (∀ dev : Adf5355SetupDev, dev.Limited → 1000000 ≤ dev.clkinFreq.toNat →
      dev.clkinFreq.toNat ≤ 600000000 → 315 ≤ dev.cpUa.toNat → dev.cpUa.toNat ≤ 5040 →
      ∃ ret dev' ws, (adf5355Setup rets dev).value = some (ret, dev', ws) ∧ dev.SetupExact dev' ∧
        (BleedExact dev.toAdf5355Dev dev.freqReq dev.freqReqChan dev'.toAdf5355Dev ↔
          ((adf5355Vco dev.toAdf5355Dev dev.freqReq dev.freqReqChan).isOk →
            BleedFits dev.devId (pfdOf dev.refIn dev.refStep) dev.cpUa.toNat))) ∧
    (∀ (dev : Adf5355Dev) (rate : UInt64) (chan : UInt8), dev.Limited →
      500000 ≤ dev.fpfd.toNat → dev.fpfd.toNat ≤ 75000000 → 315 ≤ dev.cpUa.toNat → dev.cpUa.toNat ≤ 5040 →
      ∃ ret dev' ws, (adf5355SetFreq rets dev rate chan).value = some (ret, dev', ws) ∧
        (BleedExact dev rate chan dev' ↔
          ((adf5355Vco dev rate chan).isOk → BleedFits dev.devId dev.fpfd.toNat dev.cpUa.toNat))) := by
  constructor
  · intro dev hlim hclk hclkmax hcp hcpmax
    exact value_adf5355Setup hlim hclk hclkmax hcp hcpmax
  · intro dev rate chan hlim hlow hmax hcp hcpmax
    obtain ⟨ret, dev', ws, hvalue, -, -, hbleed⟩ := value_adf5355SetFreq hlim rfl rfl hlow hmax hcpmax rate chan
    exact ⟨ret, dev', ws, hvalue, hbleed⟩

/-- An ADF5356 for 5 GHz before its setup -/
def adf5356For (clkinFreq cpUa : UInt32) : Adf5355SetupDev :=
  { adf5355At 0 with
    devId := .ADF5356, cpUa := cpUa, freqReq := 5000000000, freqReqChan := 0, clkinFreq := clkinFreq,
    phaseDetectorPolarityNeg := 0, refDiffEn := true, muxOut3v3En := true, refDoublerEn := 0, refDiv2En := 0,
    refDivFactor := 0, muxOutSel := .DIGITAL_LOCK_DETECT, delayUs := 0 }

/-- 900 uA with a phase detector at 61.44 MHz -/
theorem setup_exact_at : (∃ ret dev' ws, (adf5355Setup (fun _ => 0) (adf5356For 61440000 900)).value = some (ret, dev', ws) ∧
      (adf5356For 61440000 900).SetupExact dev' ∧
      BleedExact (adf5356For 61440000 900).toAdf5355Dev 5000000000 0 dev'.toAdf5355Dev) ∧
    ∃ ret dev' ws, (adf5355SetFreq (fun _ => 0) (adf5355At 61440000) 8000000000 1).value = some (ret, dev', ws) ∧
      BleedExact (adf5355At 61440000) 8000000000 1 dev' := by
  constructor
  · obtain ⟨ret, dev', ws, hvalue, hexact, hbleed⟩ := (setup_exact_iff fun _ => 0).1 (adf5356For 61440000 900)
      ⟨rfl, rfl⟩ (by decide) (by decide) (by decide) (by decide)
    exact ⟨ret, dev', ws, hvalue, hexact, hbleed.mpr (by decide)⟩
  · obtain ⟨ret, dev', ws, hvalue, hbleed⟩ := (setup_exact_iff fun _ => 0).2 (adf5355At 61440000) 8000000000 1
      ⟨rfl, rfl⟩ (by decide) (by decide) (by decide) (by decide)
    exact ⟨ret, dev', ws, hvalue, hbleed.mpr (by decide)⟩

/-- 5040 uA with a phase detector at 61.44 MHz -/
theorem not_setup_exact : ¬∃ ret dev' ws,
    (adf5355Setup (fun _ => 0) (adf5356For 61440000 5040)).value = some (ret, dev', ws) ∧
      (adf5356For 61440000 5040).SetupExact dev' ∧
      BleedExact (adf5356For 61440000 5040).toAdf5355Dev 5000000000 0 dev'.toAdf5355Dev := by
  rintro ⟨ret, dev', ws, hvalue, -, hexact⟩
  obtain ⟨ret', dev'', ws', hvalue', -, hbleed⟩ := @value_adf5355Setup (adf5356For 61440000 5040) (fun _ => 0)
    ⟨rfl, rfl⟩ (by decide) (by decide) (by decide) (by decide)
  obtain ⟨-, hsame⟩ := Prod.mk.inj (Option.some.inj (hvalue.symm.trans hvalue'))
  rw [(Prod.mk.inj hsame).1] at hexact
  exact absurd (hbleed.mp hexact) (by decide)

end NoOS
