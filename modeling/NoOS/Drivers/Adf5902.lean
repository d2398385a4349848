import NoOS.Errno
import NoOS.Lib.Fallible
import Mathlib.Data.UInt
import Mathlib.Logic.Function.Basic
import NoOS.Lib.RegisterFile

/-!
# The radar transmitter `adf5902.c`

The device takes words of 32 bits, whose five lowest bits say which register they are for. A transfer that fails
leaves the registers alone. What is read back from the device goes into the temperature and the measured frequency,
both of them floating-point numbers, which are left out, and so are the delays.
-/

namespace NoOS

def ADF5902_REG0_PLO (x : UInt32) : UInt32 := (x &&& 0x1) <<< 5
def ADF5902_REG0_PTX1 (x : UInt32) : UInt32 := (x &&& 0x1) <<< 6
def ADF5902_REG0_PTX2 (x : UInt32) : UInt32 := (x &&& 0x1) <<< 7
def ADF5902_REG0_PADC (x : UInt32) : UInt32 := (x &&& 0x1) <<< 8
def ADF5902_REG0_VCAL (x : UInt32) : UInt32 := (x &&& 0x1) <<< 9
def ADF5902_REG0_PVCO (x : UInt32) : UInt32 := (x &&& 0x1) <<< 10
def ADF5902_REG0_TX1C (x : UInt32) : UInt32 := (x &&& 0x1) <<< 11
def ADF5902_REG0_TX2C (x : UInt32) : UInt32 := (x &&& 0x1) <<< 12
def ADF5902_REG0_RESERVED : UInt32 := (0x4007F : UInt32) <<< 13
def ADF5902_REG1_TX_AMP_CAL_REF (x : UInt32) : UInt32 := (x &&& 0xFF) <<< 5
def ADF5902_REG1_RESERVED : UInt32 := (0x7FFBF : UInt32) <<< 13
def ADF5902_REG2_ADC_CLK_DIV (x : UInt32) : UInt32 := (x &&& 0xFF) <<< 5
def ADF5902_REG2_ADC_AVG (x : UInt32) : UInt32 := (x &&& 0x3) <<< 13
def ADF5902_REG2_ADC_START (x : UInt32) : UInt32 := (x &&& 0x1) <<< 15
def ADF5902_REG2_RESERVED : UInt32 := (0x2 : UInt32) <<< 16
def ADF5902_REG3_READBACK_CTRL (x : UInt32) : UInt32 := (x &&& 0x3F) <<< 5
def ADF5902_REG3_IO_LVL (x : UInt32) : UInt32 := (x &&& 0x1) <<< 11
def ADF5902_REG3_MUXOUT (x : UInt32) : UInt32 := (x &&& 0xF) <<< 12
def ADF5902_REG3_RESERVED : UInt32 := (0x189 : UInt32) <<< 16
def ADF5902_REG4_TEST_BUS (x : UInt32) : UInt32 := (x &&& 0x7FFF) <<< 5
def ADF5902_REG4_RESERVED : UInt32 := (0x0 : UInt32) <<< 16
def ADF5902_REG5_FRAC_MSB_WORD (x : UInt32) : UInt32 := (x &&& 0xFFF) <<< 5
def ADF5902_REG5_INTEGER_WORD (x : UInt32) : UInt32 := (x &&& 0xFFF) <<< 17
def ADF5902_REG5_RAMP_ON (x : UInt32) : UInt32 := (x &&& 0x1) <<< 29
def ADF5902_REG5_RESERVED : UInt32 := (0x0 : UInt32) <<< 30
def ADF5902_REG6_FRAC_LSB_WORD (x : UInt32) : UInt32 := (x &&& 0x1FFF) <<< 5
def ADF5902_REG6_RESERVED : UInt32 := (0x0 : UInt32) <<< 18
def ADF5902_REG7_R_DIVIDER (x : UInt32) : UInt32 := (x &&& 0x1F) <<< 5
def ADF5902_REG7_REF_DOUBLER (x : UInt32) : UInt32 := (x &&& 0x1) <<< 10
def ADF5902_REG7_R_DIV_2 (x : UInt32) : UInt32 := (x &&& 0x1) <<< 11
def ADF5902_REG7_CLK_DIV (x : UInt32) : UInt32 := (x &&& 0xFFF) <<< 12
def ADF5902_REG7_MASTER_RESET (x : UInt32) : UInt32 := (x &&& 0x1) <<< 25
def ADF5902_REG7_RESERVED : UInt32 := ((0x0 : UInt32) <<< 26) ||| ((0x1 : UInt32) <<< 24)
def ADF5902_REG8_FREQ_CAL_DIV (x : UInt32) : UInt32 := (x &&& 0x3FF) <<< 5
def ADF5902_REG8_RESERVED : UInt32 := (0x8000 : UInt32) <<< 15
def ADF5902_REG9_RESERVED_CALIB : UInt32 := (0x15105C9 : UInt32) <<< 5
def ADF5902_REG9_RESERVED_NORMAL : UInt32 := (0x14005C9 : UInt32) <<< 5
def ADF5902_REG10_RESERVED : UInt32 := (0xE99532 : UInt32) <<< 5
def ADF5902_REG11_CNTR_RESET (x : UInt32) : UInt32 := (x &&& 0x1) <<< 5
def ADF5902_REG11_RAMP_MODE (x : UInt32) : UInt32 := (x &&& 0x3) <<< 7
def ADF5902_REG11_RESERVED : UInt32 := ((0x0 : UInt32) <<< 6) ||| ((0x0 : UInt32) <<< 10) ||| ((0x0 : UInt32) <<< 12)
def ADF5902_REG12_CP_TRISTATE (x : UInt32) : UInt32 := (x &&& 0x1) <<< 15
def ADF5902_REG12_CHARGE_PUMP (x : UInt32) : UInt32 := (x &&& 0xF) <<< 17
def ADF5902_REG12_RESERVED : UInt32 := ((0x0 : UInt32) <<< 5) ||| ((0x1 : UInt32) <<< 16) ||| ((0x2 : UInt32) <<< 21)
def ADF5902_REG13_CLK_DIV_SEL (x : UInt32) : UInt32 := (x &&& 0x3) <<< 5
def ADF5902_REG13_CLK_DIV_2 (x : UInt32) : UInt32 := (x &&& 0xFFF) <<< 7
def ADF5902_REG13_CLK_DIV_MODE (x : UInt32) : UInt32 := (x &&& 0x3) <<< 19
def ADF5902_REG13_LE_SEL (x : UInt32) : UInt32 := (x &&& 0x1) <<< 21
def ADF5902_REG13_RESERVED : UInt32 := (0x0 : UInt32) <<< 22
def ADF5902_REG14_DEV_WORD (x : UInt32) : UInt32 := (x &&& 0xFFFF) <<< 5
def ADF5902_REG14_DEV_OFFSET (x : UInt32) : UInt32 := (x &&& 0xF) <<< 21
def ADF5902_REG14_DEV_SEL (x : UInt32) : UInt32 := (x &&& 0x3) <<< 25
def ADF5902_REG14_RESERVED : UInt32 := (0x0 : UInt32) <<< 27
def ADF5902_REG15_STEP_WORD (x : UInt32) : UInt32 := (x &&& 0xFFFFF) <<< 5
def ADF5902_REG15_STEP_SEL (x : UInt32) : UInt32 := (x &&& 0x3) <<< 25
def ADF5902_REG15_RESERVED : UInt32 := (0x0 : UInt32) <<< 27
def ADF5902_REG16_DEL_START_WORD (x : UInt32) : UInt32 := (x &&& 0xFFF) <<< 5
def ADF5902_REG16_RAMP_DEL (x : UInt32) : UInt32 := (x &&& 0x1) <<< 19
def ADF5902_REG16_TX_DATA_TRIG (x : UInt32) : UInt32 := (x &&& 0x1) <<< 20
def ADF5902_REG16_DEL_SEL (x : UInt32) : UInt32 := (x &&& 0x3) <<< 23
def ADF5902_REG16_RESERVED : UInt32 := ((0x0 : UInt32) <<< 17) ||| ((0x0 : UInt32) <<< 21) ||| ((0x1 : UInt32) <<< 25)
def ADF5902_REG17_RESERVED : UInt32 := (0x0 : UInt32) <<< 5

def ADF5902_REG_RB_NONE : UInt32 := 0x0
def ADF5902_ADC_RB : UInt8 := 0x16
def ADF5902_FREQ_RB : UInt8 := 0x1A
def ADF5902_MUXOUT_CAL_BUSY : UInt32 := 0x7
def ADF5902_MUXOUT_RAMP_STATUS : UInt32 := 0xF
def ADF5902_TEST_BUS_NONE : UInt16 := 0x0000
def ADF5902_RAMP_COMPL_TO_MUXOUT : UInt16 := 0x00C0
def ADF5902_RAMP_DOWN_TO_MUXOUT : UInt16 := 0x0100
def ADF5902_TEMP_SENS_TO_ATEST : UInt16 := 0x0503
def ADF5902_TEMP_SENS_TO_ADC : UInt16 := 0x0903
def ADF5902_MAX_INT_MSB_WORD : UInt16 := 0xFFF
def ADF5902_MAX_FREQ_CAL_DIV : UInt16 := 0x3FF
def ADF5902_MAX_CLK_DIVIDER : UInt16 := 0xFFF
def ADF5902_ADC_MAX_CLK_DIVIDER : UInt16 := 0x7F
def ADF5902_ADC_AVG_4 : UInt8 := 0x3
def ADF5902_MAX_DELAY_START_WRD : UInt16 := 0xFFF
def ADF5902_MAX_STEP_WORD : UInt32 := 0xFFFFF
def ADF5902_MAX_DEV_OFFSET : UInt8 := 0x9
def ADF5902_MAX_CLK_DIV_2 : UInt16 := 0xFFF
def ADF5902_CLK_DIV_OFF : UInt8 := 0x0
def ADF5902_FREQ_MEASURE : UInt8 := 0x2
def ADF5902_RAMP_DIV : UInt8 := 0x3
def ADF5902_CP_CURRENT_4MA48 : UInt8 := 0xF
def ADF5902_R_DIV_2_ENABLE : UInt8 := 0x1
def ADF5902_R_DIV_2_DISABLE : UInt8 := 0x0
def ADF5902_MAX_VCO_FREQ : UInt64 := 24250000000
def ADF5902_MIN_VCO_FREQ : UInt64 := 24000000000
def ADF5902_MIN_REFIN_FREQ : UInt64 := 10000000
def ADF5902_MAX_REFIN_FREQ : UInt64 := 260000000
def ADF5902_MAX_FREQ_PFD : UInt64 := 110000000
def ADF5902_FREQ_CAL_DIV_100KHZ : UInt64 := 100000
def ADF5902_CLK1_DIV_25KHZ : UInt64 := 25000
def ADF5902_ADC_CLK_DIV_1MHZ : UInt64 := 1000000
def ADF5902_FRAC_MSB_MSK : UInt32 := 0xFFF
def ADF5902_FRAC_LSB_MSK : UInt32 := 0x1FFF

structure Slope where
  devWord : UInt16
  devOffset : UInt8
  stepWord : UInt32

/-- The parameters that the driver keeps; the lists have as many entries as their numbers say. -/
structure Adf5902Settings where
  refIn : UInt64
  rfOut : UInt64
  refDoublerEn : UInt8
  refDiv2En : UInt8
  adcAvg : UInt8
  txAmpCalRef : UInt8
  rampDelayEn : UInt8
  txTrigEn : UInt8
  delayWd : List UInt16
  slopes : List Slope
  txRampClk : UInt8
  txDataInvert : UInt8
  rampStatus : UInt16
  clk1DivRamp : UInt16
  clk2Div : List UInt16
  leSel : UInt8
  clkDivMode : UInt8
  cpCurrent : UInt8
  cpTristateEn : UInt8
  rampMode : UInt8

/-- The settings, and what `adf5902_vco_freq_param` computes from them. -/
structure Adf5902Dev extends Adf5902Settings where
  fPfd : UInt64
  refDivFactor : UInt8
  intDiv : UInt16
  fracMsb : UInt16
  fracLsb : UInt16
  freqCalDiv : UInt16
  clk1Div : UInt16
  adcClkDiv : UInt16

/-- Whether `adf5902_check_init_param` lets the parameters pass. -/
def Adf5902Settings.Checked (p : Adf5902Settings) : Prop :=
  (p.rfOut ≤ ADF5902_MAX_VCO_FREQ ∧ ADF5902_MIN_VCO_FREQ ≤ p.rfOut) ∧
  (p.refIn ≤ ADF5902_MAX_REFIN_FREQ ∧ ADF5902_MIN_REFIN_FREQ ≤ p.refIn) ∧
  (p.refDoublerEn = 0 ∨ p.refDoublerEn = 1) ∧
  (p.refDiv2En = 0 ∨ p.refDiv2En = 1) ∧
  p.adcAvg ≤ ADF5902_ADC_AVG_4 ∧
  p.delayWd.length ≤ 4 ∧
  (∀ w ∈ p.delayWd, w ≤ ADF5902_MAX_DELAY_START_WRD) ∧
  (p.rampDelayEn = 0 ∨ p.rampDelayEn = 1) ∧
  (p.txTrigEn = 0 ∨ p.txTrigEn = 1) ∧
  p.slopes.length ≤ 4 ∧
  (∀ s ∈ p.slopes, s.stepWord ≤ ADF5902_MAX_STEP_WORD ∧ s.devOffset ≤ ADF5902_MAX_DEV_OFFSET) ∧
  (p.txRampClk = 0 ∨ p.txRampClk = 1) ∧
  (p.txDataInvert = 0 ∨ p.txDataInvert = 1) ∧
  p.clk2Div.length ≤ 4 ∧
  (∀ w ∈ p.clk2Div, w ≤ ADF5902_MAX_CLK_DIV_2) ∧
  (p.clkDivMode = ADF5902_CLK_DIV_OFF ∨ p.clkDivMode = ADF5902_FREQ_MEASURE ∨ p.clkDivMode = ADF5902_RAMP_DIV) ∧
  (p.leSel = 0 ∨ p.leSel = 1) ∧
  p.cpCurrent ≤ ADF5902_CP_CURRENT_4MA48 ∧
  (p.cpTristateEn = 0 ∨ p.cpTristateEn = 1) ∧
  (p.rampStatus = ADF5902_TEST_BUS_NONE ∨ p.rampStatus = ADF5902_RAMP_COMPL_TO_MUXOUT ∨
    p.rampStatus = ADF5902_RAMP_DOWN_TO_MUXOUT ∨ p.rampStatus = ADF5902_TEMP_SENS_TO_ATEST ∨
    p.rampStatus = ADF5902_TEMP_SENS_TO_ADC) ∧
  p.rampMode ≤ 3 ∧
  p.clk1DivRamp ≤ ADF5902_MAX_CLK_DIVIDER

open scoped RegisterFile in
instance Adf5902Settings.decidableChecked (p : Adf5902Settings) : Decidable p.Checked := by
  unfold Adf5902Settings.Checked
  infer_instance

/-- The loop for `ref_div_factor` from the value `r` on, `none` for a division by zero. The factor has eight bits:
after 256 passes it is 0. -/
def Adf5902Settings.pfdLoop (p : Adf5902Settings) : ℕ → UInt8 → Option (UInt8 × UInt64)
  | 0, _ => none
  | fuel + 1, r =>
    let r := r + 1
    let divisor := r.toUInt64 * (1 + p.refDiv2En.toUInt64)
    if divisor = 0 then none
    else
      let fPfd := p.refIn * (1 + p.refDoublerEn.toUInt64) / divisor
      if fPfd > ADF5902_MAX_FREQ_PFD then p.pfdLoop fuel r else some (r, fPfd)

def divRoundUp64 (x y : UInt64) : UInt64 := (x + y - 1) / y

namespace Adf5902Dev

/-- The difference of a quotient of 64 bits and a product of two ints. -/
def fracWord (rfOut fPfd : UInt64) (intDiv : UInt16) : UInt32 :=
  let product : Int32 := intDiv.toUInt32.toInt32 * ((1 : UInt32) <<< 25).toInt32
  (rfOut * ((1 : UInt64) <<< 25) / (fPfd * 2) - product.toInt64.toUInt64).toUInt32

/-- The code and the device, `none` for a division by zero. -/
def vcoFreqParam (dev : Adf5902Dev) : Option (Int × Adf5902Dev) :=
  match dev.pfdLoop 256 0 with
  | none => none
  | some (r, fPfd) =>
    let dev := { dev with refDivFactor := r, fPfd := fPfd }
    if fPfd * 2 = 0 then none
    else
      let dev := { dev with intDiv := (dev.rfOut / (fPfd * 2)).toUInt16 }
      if dev.intDiv > ADF5902_MAX_INT_MSB_WORD then some (FAILURE, dev)
      else
        let tmp := fracWord dev.rfOut fPfd dev.intDiv
        let dev := { dev with
          fracMsb := ((tmp >>> 13) &&& ADF5902_FRAC_MSB_MSK).toUInt16
          fracLsb := (tmp &&& ADF5902_FRAC_LSB_MSK).toUInt16
          freqCalDiv := (divRoundUp64 fPfd ADF5902_FREQ_CAL_DIV_100KHZ).toUInt16 }
        if dev.freqCalDiv > ADF5902_MAX_FREQ_CAL_DIV then some (FAILURE, dev)
        else
          let dev := { dev with clk1Div := (divRoundUp64 fPfd ADF5902_CLK1_DIV_25KHZ).toUInt16 }
          if dev.clk1Div > ADF5902_MAX_CLK_DIVIDER then some (FAILURE, dev)
          else
            let dev := { dev with adcClkDiv := (fPfd / ADF5902_ADC_CLK_DIV_1MHZ).toUInt16 }
            if dev.adcClkDiv > ADF5902_ADC_MAX_CLK_DIVIDER then some (FAILURE, dev)
            else some (SUCCESS, dev)

end Adf5902Dev

/-- The driver and the device. -/
structure Adf5902 where
  dev : Adf5902Dev
  regs : UInt32 → UInt32
  /-- The code of every transfer -/
  codes : ℕ → Int
  transfers : ℕ

namespace Adf5902

/-- The device puts a word into the register that it is for. -/
def latch (regs : UInt32 → UInt32) (word : UInt32) : UInt32 → UInt32 :=
  Function.update regs (word &&& 0x1F) word

def transfer (word : UInt32) : Fallible Adf5902 Unit := fun s =>
  let s' := { s with transfers := s.transfers + 1 }
  if s.codes s.transfers = SUCCESS then (.ok (), { s' with regs := latch s.regs word })
  else (.error (s.codes s.transfers), s')

def write (regAddr data : UInt32) : Fallible Adf5902 Unit := transfer (data ||| regAddr)

/-- The dummy word, during which the value is read, is a word for register 0. -/
def readback (regAddr : UInt8) (data : UInt32) : Fallible Adf5902 Unit := do
  transfer ((data &&& 0xFFFF0000) |||
    (((data >>> (8 : UInt32)).toUInt8 ||| (regAddr >>> (3 : UInt8))).toUInt32 <<< (8 : UInt32)) |||
    ((0x3 : UInt8) ||| (regAddr <<< (5 : UInt8))).toUInt32)
  transfer 0x0

/-- A division by zero is no success either. -/
def vcoFreqParam : Fallible Adf5902 Unit := fun s =>
  match s.dev.vcoFreqParam with
  | none => (.error FAILURE, s)
  | some (ret, dev) => if ret = SUCCESS then (.ok (), { s with dev := dev }) else (.error ret, { s with dev := dev })

def setRefDiv2En (div2 : UInt8) : Fallible Adf5902 Unit := fun s => (.ok (), { s with dev := { s.dev with refDiv2En := div2 } })

def getDev : Fallible Adf5902 Adf5902Dev := fun s => (.ok s.dev, s)

/-- The writes of a loop. -/
def writeAll : List (UInt32 × UInt32) → Fallible Adf5902 Unit
  | [] => pure ()
  | (regAddr, data) :: ws => do
    write regAddr data
    writeAll ws

def reg0 (plo ptx1 ptx2 vcal tx1c tx2c : UInt32) : UInt32 :=
  ADF5902_REG0_RESERVED ||| ADF5902_REG0_PLO plo ||| ADF5902_REG0_PTX1 ptx1 ||| ADF5902_REG0_PTX2 ptx2 |||
    ADF5902_REG0_PADC 1 ||| ADF5902_REG0_VCAL vcal ||| ADF5902_REG0_PVCO 1 ||| ADF5902_REG0_TX1C tx1c |||
    ADF5902_REG0_TX2C tx2c

def reg2 (dev : Adf5902Dev) (start : UInt32) : UInt32 :=
  ADF5902_REG2_RESERVED ||| ADF5902_REG2_ADC_CLK_DIV dev.adcClkDiv.toUInt32 |||
    ADF5902_REG2_ADC_AVG dev.adcAvg.toUInt32 ||| ADF5902_REG2_ADC_START start

def reg5 (dev : Adf5902Dev) : UInt32 :=
  ADF5902_REG5_RESERVED ||| ADF5902_REG5_FRAC_MSB_WORD dev.fracMsb.toUInt32 |||
    ADF5902_REG5_INTEGER_WORD dev.intDiv.toUInt32 ||| ADF5902_REG5_RAMP_ON 0

def reg6 (dev : Adf5902Dev) : UInt32 := ADF5902_REG6_RESERVED ||| ADF5902_REG6_FRAC_LSB_WORD dev.fracLsb.toUInt32

def reg7 (dev : Adf5902Dev) (div2 : UInt8) (clkDiv : UInt16) : UInt32 :=
  ADF5902_REG7_RESERVED ||| ADF5902_REG7_R_DIVIDER dev.refDivFactor.toUInt32 |||
    ADF5902_REG7_REF_DOUBLER dev.refDoublerEn.toUInt32 ||| ADF5902_REG7_R_DIV_2 div2.toUInt32 |||
    ADF5902_REG7_CLK_DIV clkDiv.toUInt32 ||| ADF5902_REG7_MASTER_RESET 0

def reg13 (clk2Div : UInt16) (sel : ℕ) (mode leSel : UInt8) : UInt32 :=
  ADF5902_REG13_RESERVED ||| ADF5902_REG13_CLK_DIV_2 clk2Div.toUInt32 ||| ADF5902_REG13_CLK_DIV_SEL (UInt32.ofNat sel) |||
    ADF5902_REG13_CLK_DIV_MODE mode.toUInt32 ||| ADF5902_REG13_LE_SEL leSel.toUInt32

def vcoFreqCalib : Fallible Adf5902 Unit := do
  let dev ← getDev
  write 0x7 (reg7 dev dev.refDiv2En dev.clk1Div)
  write 0x6 (reg6 dev)
  write 0x5 (reg5 dev)
  write 0x4 (ADF5902_REG4_RESERVED ||| ADF5902_REG4_TEST_BUS ADF5902_TEST_BUS_NONE.toUInt32)
  write 0x3 (ADF5902_REG3_RESERVED ||| ADF5902_REG3_READBACK_CTRL ADF5902_REG_RB_NONE ||| ADF5902_REG3_IO_LVL 1 |||
    ADF5902_REG3_MUXOUT ADF5902_MUXOUT_CAL_BUSY)
  write 0x2 (reg2 dev 0)
  write 0x1 (ADF5902_REG1_RESERVED ||| ADF5902_REG1_TX_AMP_CAL_REF dev.txAmpCalRef.toUInt32)
  write 0x0 (reg0 1 0 0 1 0 0)
  write 0x0 (reg0 1 1 0 0 0 0)
  write 0x0 (reg0 1 1 0 0 1 0)
  write 0x0 (reg0 1 0 1 0 0 0)
  write 0x0 (reg0 1 0 1 0 0 1)

def vcoNormalOp : Fallible Adf5902 Unit := do
  write 0x9 ADF5902_REG9_RESERVED_NORMAL
  vcoFreqParam
  let dev ← getDev
  write 0x7 (reg7 dev ADF5902_R_DIV_2_DISABLE dev.clk1DivRamp)
  write 0x6 (reg6 dev)
  write 0x5 (ADF5902_REG5_RESERVED ||| ADF5902_REG5_FRAC_MSB_WORD dev.fracMsb.toUInt32 |||
    ADF5902_REG5_INTEGER_WORD dev.intDiv.toUInt32)
  write 0x4 (ADF5902_REG4_RESERVED ||| ADF5902_REG4_TEST_BUS dev.rampStatus.toUInt32)
  write 0x3 (ADF5902_REG3_RESERVED ||| ADF5902_REG3_READBACK_CTRL ADF5902_REG_RB_NONE ||| ADF5902_REG3_IO_LVL 1 |||
    ADF5902_REG3_MUXOUT ADF5902_MUXOUT_RAMP_STATUS)
  write 0xB (ADF5902_REG11_RESERVED ||| ADF5902_REG11_RAMP_MODE dev.rampMode.toUInt32)

/-- `adf5902_init` once the ports are there; the driver has the parameters `p`. -/
def init (p : Adf5902Settings) : Fallible Adf5902 Unit := do
  setRefDiv2En ADF5902_R_DIV_2_ENABLE
  vcoFreqParam
  let dev ← getDev
  write 0x7 (ADF5902_REG7_RESERVED ||| ADF5902_REG7_MASTER_RESET 1)
  write 0xB (ADF5902_REG11_RESERVED ||| ADF5902_REG11_CNTR_RESET 1)
  write 0xB (ADF5902_REG11_RESERVED ||| ADF5902_REG11_CNTR_RESET 0)
  write 0xD (ADF5902_REG13_RESERVED ||| ADF5902_REG13_CLK_DIV_MODE dev.clkDivMode.toUInt32 |||
    ADF5902_REG13_LE_SEL dev.leSel.toUInt32)
  write 0xA ADF5902_REG10_RESERVED
  write 0x9 ADF5902_REG9_RESERVED_CALIB
  write 0x8 (ADF5902_REG8_RESERVED ||| ADF5902_REG8_FREQ_CAL_DIV dev.freqCalDiv.toUInt32)
  write 0x0 (reg0 1 0 0 0 0 0)
  vcoFreqCalib
  write 0x11 ADF5902_REG17_RESERVED
  writeAll (dev.delayWd.zipIdx.map fun w => (0x10, ADF5902_REG16_RESERVED |||
    ADF5902_REG16_DEL_START_WORD w.1.toUInt32 ||| ADF5902_REG16_RAMP_DEL dev.rampDelayEn.toUInt32 |||
    ADF5902_REG16_TX_DATA_TRIG dev.txTrigEn.toUInt32 ||| ADF5902_REG16_DEL_SEL (UInt32.ofNat w.2)))
  writeAll (dev.slopes.zipIdx.flatMap fun s =>
    [(0xF, ADF5902_REG15_RESERVED ||| ADF5902_REG15_STEP_WORD s.1.stepWord |||
      ADF5902_REG15_STEP_SEL (UInt32.ofNat s.2)),
    (0xE, ADF5902_REG14_RESERVED ||| ADF5902_REG14_DEV_WORD s.1.devWord.toUInt32 |||
      ADF5902_REG14_DEV_OFFSET s.1.devOffset.toUInt32 ||| ADF5902_REG14_DEV_SEL (UInt32.ofNat s.2))])
  writeAll (dev.clk2Div.zipIdx.map fun w => (0xD, reg13 w.1 w.2 dev.clkDivMode dev.leSel))
  write 0xC (ADF5902_REG12_RESERVED ||| ADF5902_REG12_CP_TRISTATE dev.cpTristateEn.toUInt32 |||
    ADF5902_REG12_CHARGE_PUMP dev.cpCurrent.toUInt32)
  setRefDiv2En p.refDiv2En
  vcoFreqParam
  vcoNormalOp

def recalibrate : Fallible Adf5902 Unit := do
  let temp := (← getDev).refDiv2En
  vcoFreqParam
  write 0x0 (reg0 0 0 0 0 0 0)
  write 0x9 ADF5902_REG9_RESERVED_CALIB
  vcoFreqCalib
  write 0x9 ADF5902_REG9_RESERVED_NORMAL
  setRefDiv2En temp
  vcoFreqParam
  vcoNormalOp

def readTemp : Fallible Adf5902 Unit := do
  let dev ← getDev
  write 0x4 (ADF5902_REG4_RESERVED ||| ADF5902_REG4_TEST_BUS ADF5902_TEMP_SENS_TO_ADC.toUInt32)
  write 0x2 (reg2 dev 1)
  readback ADF5902_ADC_RB (ADF5902_REG3_IO_LVL 1 ||| ADF5902_REG3_MUXOUT ADF5902_MUXOUT_RAMP_STATUS)
  write 0x4 (ADF5902_REG4_RESERVED ||| ADF5902_REG4_TEST_BUS ADF5902_RAMP_DOWN_TO_MUXOUT.toUInt32)
  write 0x2 (reg2 dev 0)

/-- The code of the write to register 5 is overwritten by the next one. -/
def computeFrequency : Fallible Adf5902 Unit := do
  let dev ← getDev
  if dev.fPfd = 0 then Fallible.fail FAILURE
  readback ADF5902_FREQ_RB (ADF5902_REG3_IO_LVL 1 ||| ADF5902_REG3_MUXOUT ADF5902_MUXOUT_RAMP_STATUS)
  writeAll (dev.clk2Div.zipIdx.map fun w => (0xD, reg13 10 w.2 ADF5902_CLK_DIV_OFF dev.leSel))
  write 0x7 (reg7 dev dev.refDiv2En 1808)
  Fallible.ignore (write 0x5 (reg5 dev))
  writeAll (dev.clk2Div.zipIdx.map fun w => (0xD, reg13 10 w.2 ADF5902_FREQ_MEASURE dev.leSel))
  readback ADF5902_FREQ_RB (ADF5902_REG3_IO_LVL 1 ||| ADF5902_REG3_MUXOUT ADF5902_MUXOUT_RAMP_STATUS)
  write 0x7 (reg7 dev ADF5902_R_DIV_2_DISABLE dev.clk1DivRamp)
  writeAll (dev.clk2Div.zipIdx.map fun w => (0xD, reg13 w.1 w.2 dev.clkDivMode dev.leSel))

end Adf5902

end NoOS
