import Mathlib.Data.Fin.VecNotation
import Mathlib.Data.UInt
import Mathlib.Logic.Function.Basic
import NoOS.Errno

/-!
# The wideband synthesizer `adf4350.c`

The driver keeps the registers it wants (`regs`) and the registers it has written (`regs_hw`), and
writes the ones that differ. The lower three bits of a word select the register.
-/

namespace NoOS

def ADF4350_REG0_FRACT (x : UInt32) : UInt32 := (x &&& 0xFFF) <<< 3
def ADF4350_REG0_INT (x : UInt32) : UInt32 := (x &&& 0xFFFF) <<< 15
def ADF4350_REG1_MOD (x : UInt32) : UInt32 := (x &&& 0xFFF) <<< 3
def ADF4350_REG1_PHASE (x : UInt32) : UInt32 := (x &&& 0xFFF) <<< 15
def ADF4350_REG1_PRESCALER : UInt32 := (1 : UInt32) <<< 27
def ADF4350_REG2_POWER_DOWN_EN : UInt32 := (1 : UInt32) <<< 5
def ADF4350_REG2_PD_POLARITY_POS : UInt32 := (1 : UInt32) <<< 6
def ADF4350_REG2_LDP_6ns : UInt32 := (1 : UInt32) <<< 7
def ADF4350_REG2_LDF_INT_N : UInt32 := (1 : UInt32) <<< 8
def ADF4350_REG2_CHARGE_PUMP_CURR_uA (x : UInt32) : UInt32 := (((x - 312) / 312) &&& 0xF) <<< 9
def ADF4350_REG2_DOUBLE_BUFF_EN : UInt32 := (1 : UInt32) <<< 13
def ADF4350_REG2_10BIT_R_CNT (x : UInt32) : UInt32 := x <<< 14
def ADF4350_REG2_RDIV2_EN : UInt32 := (1 : UInt32) <<< 24
def ADF4350_REG2_RMULT2_EN : UInt32 := (1 : UInt32) <<< 25
def ADF4350_REG2_MUXOUT (x : UInt32) : UInt32 := x <<< 26
def ADF4350_REG2_NOISE_MODE (x : UInt32) : UInt32 := (x &&& 0x3) <<< 29
def ADF4350_REG3_12BIT_CLKDIV (x : UInt32) : UInt32 := x <<< 3
def ADF4350_REG3_12BIT_CLKDIV_MODE (x : UInt32) : UInt32 := x <<< 16
def ADF4350_REG3_12BIT_CSR_EN : UInt32 := (1 : UInt32) <<< 18
def ADF4351_REG3_CHARGE_CANCELLATION_EN : UInt32 := (1 : UInt32) <<< 21
def ADF4351_REG3_ANTI_BACKLASH_3ns_EN : UInt32 := (1 : UInt32) <<< 22
def ADF4351_REG3_BAND_SEL_CLOCK_MODE_HIGH : UInt32 := (1 : UInt32) <<< 23
def ADF4350_REG4_OUTPUT_PWR (x : UInt32) : UInt32 := x <<< 3
def ADF4350_REG4_RF_OUT_EN : UInt32 := (1 : UInt32) <<< 5
def ADF4350_REG4_AUX_OUTPUT_PWR (x : UInt32) : UInt32 := x <<< 6
def ADF4350_REG4_AUX_OUTPUT_EN : UInt32 := (1 : UInt32) <<< 8
def ADF4350_REG4_AUX_OUTPUT_FUND : UInt32 := (1 : UInt32) <<< 9
def ADF4350_REG4_MUTE_TILL_LOCK_EN : UInt32 := (1 : UInt32) <<< 10
def ADF4350_REG4_8BIT_BAND_SEL_CLKDIV (x : UInt32) : UInt32 := x <<< 12
def ADF4350_REG4_RF_DIV_SEL (x : UInt32) : UInt32 := x <<< 20
def ADF4350_REG4_FEEDBACK_FUND : UInt32 := (1 : UInt32) <<< 23
def ADF4350_REG5_LD_PIN_MODE_DIGITAL : UInt32 := (1 : UInt32) <<< 22

def ADF4350_MAX_OUT_FREQ : UInt64 := 4400000000
def ADF4350_MIN_OUT_FREQ : UInt64 := 34375000
def ADF4350_MIN_VCO_FREQ : UInt64 := 2200000000
def ADF4350_MAX_FREQ_45_PRESC : UInt64 := 3000000000
def ADF4350_MAX_FREQ_PFD : UInt32 := 32000000
def ADF4350_MAX_BANDSEL_CLK : UInt32 := 125000
def ADF4350_MAX_MODULUS : UInt32 := 4095
def ADF4350_MAX_R_CNT : UInt16 := 1023

structure Adf4350PlatformData where
  clkin : UInt32
  channelSpacing : UInt32
  powerUpFrequency : UInt64
  refDivFactor : UInt16
  refDoublerEn : Bool
  refDiv2En : Bool
  r2UserSettings : UInt32
  r3UserSettings : UInt32
  r4UserSettings : UInt32

structure Adf4350Dev where
  pdata : Adf4350PlatformData
  clkin : UInt32
  chspc : UInt32
  fpfd : UInt32
  r0Fract : UInt32
  r0Int : UInt32
  r1Mod : UInt32
  r4RfDivSel : UInt32
  regs : Fin 6 → UInt32
  regsHw : Fin 6 → UInt32
  val : UInt32

/-- The synthesizer: the last word that each register has received, and whether register 1 or 4, which
are double-buffered, has been written after register 0. -/
structure Adf4350Chip where
  words : ℕ → Option UInt32
  pending : Bool

def Adf4350Chip.receive (chip : Adf4350Chip) (word : UInt32) : Adf4350Chip :=
  let reg := (word &&& 7).toNat
  { words := Function.update chip.words reg (some word)
    pending := (reg = 1 ∨ reg = 4) ∨ chip.pending ∧ reg ≠ 0 }

/-- A write that returns an error does not reach the synthesizer. -/
def adf4350Write (chip : Adf4350Chip) (data : UInt32) (ret : Int) : Adf4350Chip :=
  if ret < 0 then chip else chip.receive data

/-- A call does not return because it divides by zero, or because a loop needs more passes than
counted. -/
inductive Adf4350Fault
  | byZero
  | loops

/-- The loop of `adf4350_sync_config` over the registers left. `rets i` is what a write of register `i`
returns. -/
def syncLoop (rets : Fin 6 → Int) : List (Fin 6) → Bool → Adf4350Dev → Adf4350Chip →
    Int × Adf4350Dev × Adf4350Chip
  | [], _, dev, chip => (0, dev, chip)
  | i :: l, doublebuf, dev, chip =>
    if dev.regsHw i ≠ dev.regs i ∨ i = 0 ∧ doublebuf then
      let doublebuf := doublebuf || i == 1 || i == 4
      let val := dev.regs i ||| UInt32.ofNat i.val
      let dev := { dev with val := val }
      let chip := adf4350Write chip val (rets i)
      if rets i < 0 then (rets i, dev, chip)
      else syncLoop rets l doublebuf
        { dev with regsHw := Function.update dev.regsHw i (dev.regs i) } chip
    else syncLoop rets l doublebuf dev chip

def adf4350SyncConfig (rets : Fin 6 → Int) (dev : Adf4350Dev) (chip : Adf4350Chip) :
    Int × Adf4350Dev × Adf4350Chip :=
  syncLoop rets [5, 4, 3, 2, 1, 0] false dev chip

def Adf4350Dev.rDivisor (dev : Adf4350Dev) (rCnt : UInt16) : UInt32 :=
  rCnt.toUInt32 * (if dev.pdata.refDiv2En then 2 else 1)

def Adf4350Dev.withPfd (dev : Adf4350Dev) (rCnt : UInt16) : Adf4350Dev :=
  { dev with fpfd := dev.clkin * (if dev.pdata.refDoublerEn then 2 else 1) / dev.rDivisor rCnt }

/-- `adf4350_tune_r_cnt`. The counter has 16 bits: after 65536 steps it is 0. -/
def adf4350TuneRCnt : ℕ → Adf4350Dev → UInt16 → Except Adf4350Fault (Adf4350Dev × UInt16)
  | 0, _, _ => .error .loops
  | n + 1, dev, rCnt =>
    if dev.rDivisor (rCnt + 1) = 0 then .error .byZero
    else if (dev.withPfd (rCnt + 1)).fpfd > ADF4350_MAX_FREQ_PFD then
      adf4350TuneRCnt n (dev.withPfd (rCnt + 1)) (rCnt + 1)
    else .ok (dev.withPfd (rCnt + 1), rCnt + 1)

/-- The integer and the fraction for a frequency of the VCO. -/
def Adf4350Dev.withFreq (dev : Adf4350Dev) (freq : UInt64) : Adf4350Dev :=
  let tmp := (freq * dev.r1Mod.toUInt64 + (if dev.fpfd > 1 then 1 else 0)) / dev.fpfd.toUInt64
  { dev with
    r0Fract := (tmp % dev.r1Mod.toUInt64).toUInt32
    r0Int := (tmp / dev.r1Mod.toUInt64).toUInt32 }

/-- The three loops that look for the dividers, as one. -/
def adf4350FindDividers (freq : UInt64) (mdiv : UInt32) :
    ℕ → Adf4350Dev → UInt16 → UInt32 → Except Adf4350Fault (Adf4350Dev × UInt16)
  | 0, _, _, _ => .error .loops
  | n + 1, dev, rCnt, chspc =>
    match adf4350TuneRCnt 65536 dev rCnt with
    | .error f => .error f
    | .ok (dev, rCnt) =>
      if chspc = 0 then .error .byZero
      else
        let dev := { dev with r1Mod := dev.fpfd / chspc }
        -- try higher spacing values
        if rCnt > ADF4350_MAX_R_CNT then adf4350FindDividers freq mdiv n dev 0 (chspc + 1)
        else if dev.r1Mod > ADF4350_MAX_MODULUS then adf4350FindDividers freq mdiv n dev rCnt chspc
        else if dev.fpfd = 0 ∨ dev.r1Mod = 0 then .error .byZero
        else if mdiv > (dev.withFreq freq).r0Int then
          adf4350FindDividers freq mdiv n (dev.withFreq freq) rCnt chspc
        else .ok (dev.withFreq freq, rCnt)

/-- The doubling of the frequency up to that of the VCO, which 64 bits end. -/
def vcoDoublings : ℕ → UInt64 → UInt32 → UInt64 × UInt32
  | 0, freq, rfDivSel => (freq, rfDivSel)
  | n + 1, freq, rfDivSel =>
    if freq < ADF4350_MIN_VCO_FREQ then vcoDoublings n (freq <<< 1) (rfDivSel + 1) else (freq, rfDivSel)

def gcd (x y : UInt32) : UInt32 :=
  if y = 0 then x else gcd y (x % y)
termination_by y.toNat
decreasing_by
  rename_i hy
  rw [UInt32.toNat_mod]
  exact Nat.mod_lt _ (Nat.pos_of_ne_zero fun h => hy (UInt32.toNat_inj.mp h))

def bandSelDiv (fpfd : UInt32) : UInt8 :=
  if fpfd % ADF4350_MAX_BANDSEL_CLK > ADF4350_MAX_BANDSEL_CLK / 2 then
    (fpfd / ADF4350_MAX_BANDSEL_CLK + 1).toUInt8
  else (fpfd / ADF4350_MAX_BANDSEL_CLK).toUInt8

/-- The fraction of the modulus in lowest terms. -/
def Adf4350Dev.reduceFract (dev : Adf4350Dev) : Adf4350Dev :=
  if dev.r0Fract ≠ 0 ∧ dev.r1Mod ≠ 0 then
    let divGcd := gcd dev.r1Mod dev.r0Fract
    { dev with r1Mod := dev.r1Mod / divGcd, r0Fract := dev.r0Fract / divGcd }
  else { dev with r0Fract := 0, r1Mod := 1 }

/-- The registers that `adf4350_set_freq` computes. -/
def Adf4350Dev.freqRegs (dev : Adf4350Dev) (prescaler : UInt32) (rCnt : UInt16) : Fin 6 → UInt32 :=
  ![ADF4350_REG0_INT dev.r0Int ||| ADF4350_REG0_FRACT dev.r0Fract,
    ADF4350_REG1_PHASE 1 ||| ADF4350_REG1_MOD dev.r1Mod ||| prescaler,
    ADF4350_REG2_10BIT_R_CNT rCnt.toUInt32 ||| ADF4350_REG2_DOUBLE_BUFF_EN |||
      (if dev.pdata.refDoublerEn then ADF4350_REG2_RMULT2_EN else 0) |||
      (if dev.pdata.refDiv2En then ADF4350_REG2_RDIV2_EN else 0) |||
      (dev.pdata.r2UserSettings &&& (ADF4350_REG2_PD_POLARITY_POS ||| ADF4350_REG2_LDP_6ns |||
        ADF4350_REG2_LDF_INT_N ||| ADF4350_REG2_CHARGE_PUMP_CURR_uA 5000 ||| ADF4350_REG2_MUXOUT 0x7 |||
        ADF4350_REG2_NOISE_MODE 0x3)),
    dev.pdata.r3UserSettings &&& (ADF4350_REG3_12BIT_CLKDIV 0xFFF ||| ADF4350_REG3_12BIT_CLKDIV_MODE 0x3 |||
      ADF4350_REG3_12BIT_CSR_EN),
    ADF4350_REG4_FEEDBACK_FUND ||| ADF4350_REG4_RF_DIV_SEL dev.r4RfDivSel |||
      ADF4350_REG4_8BIT_BAND_SEL_CLKDIV (bandSelDiv dev.fpfd).toUInt32 ||| ADF4350_REG4_RF_OUT_EN |||
      (dev.pdata.r4UserSettings &&& (ADF4350_REG4_OUTPUT_PWR 0x3 ||| ADF4350_REG4_AUX_OUTPUT_PWR 0x3 |||
        ADF4350_REG4_AUX_OUTPUT_EN ||| ADF4350_REG4_AUX_OUTPUT_FUND ||| ADF4350_REG4_MUTE_TILL_LOCK_EN)),
    ADF4350_REG5_LD_PIN_MODE_DIGITAL ||| 0x00180000]

/-- The frequency that was set. -/
def Adf4350Dev.setFrequency (dev : Adf4350Dev) : UInt64 :=
  (dev.r0Int * dev.r1Mod + dev.r0Fract).toUInt64 * dev.fpfd.toUInt64 /
    (dev.r1Mod.toUInt64 * ((1 : UInt64) <<< dev.r4RfDivSel.toUInt64))

/-- A predefined reference division factor, if there is one -/
def Adf4350Dev.firstRCnt (dev : Adf4350Dev) : UInt16 :=
  if dev.pdata.refDivFactor ≠ 0 then dev.pdata.refDivFactor - 1 else 0

/-- The prescaler is 8/9 for high frequencies, and 4/5 otherwise. -/
def highPrescaler (freq : UInt64) : Bool := decide (freq > ADF4350_MAX_FREQ_45_PRESC)

/-- `adf4350_set_freq` up to the registers that it wants, `none` for a frequency out of range. -/
def adf4350FreqRegs (fuel : ℕ) (dev : Adf4350Dev) (freq : UInt64) :
    Except Adf4350Fault (Option Adf4350Dev) :=
  if freq > ADF4350_MAX_OUT_FREQ ∨ freq < ADF4350_MIN_OUT_FREQ then .ok none
  else
    let vco := vcoDoublings 64 freq 0
    let found := adf4350FindDividers vco.1 (if highPrescaler freq then 75 else 23) fuel
      { dev with r4RfDivSel := vco.2 } dev.firstRCnt dev.chspc
    found.map fun r =>
      let dev := r.1.reduceFract
      some { dev with regs := dev.freqRegs (if highPrescaler freq then ADF4350_REG1_PRESCALER else 0) r.2 }

/-- What `adf4350_sync_config` returns where it is called, what the call returns, and the state after. -/
structure Adf4350Result where
  sync : Option Int
  ret : Int
  dev : Adf4350Dev
  chip : Adf4350Chip

def adf4350SetFreq (fuel : ℕ) (rets : Fin 6 → Int) (dev : Adf4350Dev) (freq : UInt64) (chip : Adf4350Chip) :
    Except Adf4350Fault Adf4350Result :=
  (adf4350FreqRegs fuel dev freq).map fun
    | none => ⟨none, -1, dev, chip⟩
    | some dev =>
      let (ret, dev, chip) := adf4350SyncConfig rets dev chip
      ⟨some ret, if ret < 0 then ret else dev.setFrequency.toInt64.toInt, dev, chip⟩

def Adf4350Dev.INT32_MAX : Int64 := 2147483647

def adf4350OutAltvoltage0Frequency (fuel : ℕ) (rets : Fin 6 → Int) (dev : Adf4350Dev) (hz : Int64)
    (chip : Adf4350Chip) : Except Adf4350Fault Adf4350Result :=
  adf4350SetFreq fuel rets dev hz.toUInt64 chip

def adf4350OutAltvoltage0FrequencyResolution (dev : Adf4350Dev) (hz : Int32) : UInt32 × Adf4350Dev :=
  let dev := if hz.toInt64 ≠ Adf4350Dev.INT32_MAX then { dev with chspc := hz.toUInt32 } else dev
  (dev.chspc, dev)

def adf4350OutAltvoltage0RefinFrequency (dev : Adf4350Dev) (hz : Int64) : UInt32 × Adf4350Dev :=
  let dev := if hz ≠ Adf4350Dev.INT32_MAX then { dev with clkin := hz.toUInt64.toUInt32 } else dev
  (dev.clkin, dev)

/-- The registers that a power option wants, `none` for another number. -/
def Adf4350Dev.powerRegs (dev : Adf4350Dev) (pwd : Int32) : Option Adf4350Dev :=
  let reg2 (reg2 : UInt32) := some { dev with regs := Function.update dev.regs 2 reg2 }
  if pwd = 1 then reg2 (dev.regs 2 ||| ADF4350_REG2_POWER_DOWN_EN)
  else if pwd = 0 then reg2 (dev.regs 2 &&& ~~~ADF4350_REG2_POWER_DOWN_EN)
  else none

def Adf4350Dev.powerStatus (dev : Adf4350Dev) : Int :=
  (dev.regs 2 &&& ADF4350_REG2_POWER_DOWN_EN).toInt32.toInt

def adf4350OutAltvoltage0Powerdown (rets : Fin 6 → Int) (dev : Adf4350Dev) (pwd : Int32) (chip : Adf4350Chip) :
    Adf4350Result :=
  match dev.powerRegs pwd with
  | none => ⟨none, dev.powerStatus, dev, chip⟩
  | some dev =>
    let (ret, dev, chip) := adf4350SyncConfig rets dev chip
    ⟨some ret, dev.powerStatus, dev, chip⟩

structure Adf4350InitParam where
  clkin : UInt32
  channelSpacing : UInt32
  powerUpFrequency : UInt32
  referenceDivFactor : UInt32
  referenceDoublerEnable : Bool
  referenceDiv2Enable : Bool
  phaseDetectorPolarityPositiveEnable : Bool
  lockDetectPrecision6nsEnable : Bool
  lockDetectFunctionIntegerNEnable : Bool
  chargePumpCurrent : UInt32
  muxoutSelect : UInt32
  lowSpurModeEnable : Bool
  cycleSlipReductionEnable : Bool
  chargeCancellationEnable : Bool
  antiBacklash3nsEnable : Bool
  bandSelectClockModeHighEnable : Bool
  clkDivider12bit : UInt32
  clkDividerMode : UInt32
  auxOutputEnable : Bool
  auxOutputFundamentalEnable : Bool
  muteTillLockEnable : Bool
  outputPower : UInt32
  auxOutputPower : UInt32

def Adf4350InitParam.pdata (p : Adf4350InitParam) : Adf4350PlatformData where
  clkin := p.clkin
  channelSpacing := p.channelSpacing
  powerUpFrequency := p.powerUpFrequency.toUInt64
  refDivFactor := p.referenceDivFactor.toUInt16
  refDoublerEn := p.referenceDoublerEnable
  refDiv2En := p.referenceDiv2Enable
  r2UserSettings :=
    (if p.phaseDetectorPolarityPositiveEnable then ADF4350_REG2_PD_POLARITY_POS else 0) |||
      (if p.lockDetectPrecision6nsEnable then ADF4350_REG2_LDP_6ns else 0) |||
      (if p.lockDetectFunctionIntegerNEnable then ADF4350_REG2_LDF_INT_N else 0) |||
      ADF4350_REG2_CHARGE_PUMP_CURR_uA p.chargePumpCurrent ||| ADF4350_REG2_MUXOUT p.muxoutSelect |||
      (if p.lowSpurModeEnable then ADF4350_REG2_NOISE_MODE 0x3 else 0)
  r3UserSettings :=
    (if p.cycleSlipReductionEnable then ADF4350_REG3_12BIT_CSR_EN else 0) |||
      (if p.chargeCancellationEnable then ADF4351_REG3_CHARGE_CANCELLATION_EN else 0) |||
      (if p.antiBacklash3nsEnable then ADF4351_REG3_ANTI_BACKLASH_3ns_EN else 0) |||
      (if p.bandSelectClockModeHighEnable then ADF4351_REG3_BAND_SEL_CLOCK_MODE_HIGH else 0) |||
      ADF4350_REG3_12BIT_CLKDIV p.clkDivider12bit ||| ADF4350_REG3_12BIT_CLKDIV_MODE p.clkDividerMode
  r4UserSettings :=
    (if p.auxOutputEnable then ADF4350_REG4_AUX_OUTPUT_EN else 0) |||
      (if p.auxOutputFundamentalEnable then ADF4350_REG4_AUX_OUTPUT_FUND else 0) |||
      (if p.muteTillLockEnable then ADF4350_REG4_MUTE_TILL_LOCK_EN else 0) |||
      ADF4350_REG4_OUTPUT_PWR p.outputPower ||| ADF4350_REG4_AUX_OUTPUT_PWR p.auxOutputPower

/-- The memory that `malloc` returns after `adf4350_setup` has stored its parameters. -/
def Adf4350InitParam.dev (p : Adf4350InitParam) (mem : Adf4350Dev) : Adf4350Dev :=
  let dev := { mem with pdata := p.pdata }
  let dev := (adf4350OutAltvoltage0RefinFrequency dev dev.pdata.clkin.toUInt64.toInt64).2
  (adf4350OutAltvoltage0FrequencyResolution dev dev.pdata.channelSpacing.toInt32).2

/-- `adf4350_setup` where both allocations succeed. The result is that of setting the frequency, which
the code drops for that of `spi_init`. -/
def adf4350Setup (fuel : ℕ) (rets : Fin 6 → Int) (mem : Adf4350Dev) (p : Adf4350InitParam) (chip : Adf4350Chip) :
    Except Adf4350Fault Adf4350Result :=
  adf4350OutAltvoltage0Frequency fuel rets (p.dev mem) (p.dev mem).pdata.powerUpFrequency.toInt64 chip

end NoOS
