import NoOS.Errno
import NoOS.Lib.Fallible
import NoOS.Util.Util

/-!
# The AD9528 clock generator

`ad9528_setup` and the functions on the rates of the channels. A register address holds the number of bytes in its
upper half; the bytes are transferred one by one, the address counts down. The flags of the platform data are `true`
where the byte of the source is not 0.
-/

namespace NoOS

def AD9528_1B (x : UInt32) : UInt32 := ((1 : UInt32) <<< 16) ||| (x + 0)
def AD9528_2B (x : UInt32) : UInt32 := ((2 : UInt32) <<< 16) ||| (x + 1)
def AD9528_3B (x : UInt32) : UInt32 := ((3 : UInt32) <<< 16) ||| (x + 2)
def AD9528_4B (x : UInt32) : UInt32 := ((4 : UInt32) <<< 16) ||| (x + 3)
def AD9528_TRANSF_LEN (x : UInt32) : UInt32 := x >>> 16

def AD9528_SERIAL_PORT_CONFIG_B : UInt32 := AD9528_1B 0x1
def AD9528_CHIP_ID : UInt32 := AD9528_4B 0x3
def AD9528_IO_UPDATE : UInt32 := AD9528_1B 0xF
def AD9528_PLL1_REF_A_DIVIDER : UInt32 := AD9528_2B 0x100
def AD9528_PLL1_REF_B_DIVIDER : UInt32 := AD9528_2B 0x102
def AD9528_PLL1_FEEDBACK_DIVIDER : UInt32 := AD9528_2B 0x104
def AD9528_PLL1_CHARGE_PUMP_CTRL : UInt32 := AD9528_2B 0x106
def AD9528_PLL1_CTRL : UInt32 := AD9528_3B 0x108
def AD9528_PLL2_CHARGE_PUMP : UInt32 := AD9528_1B 0x200
def AD9528_PLL2_FEEDBACK_DIVIDER_AB : UInt32 := AD9528_1B 0x201
def AD9528_PLL2_CTRL : UInt32 := AD9528_1B 0x202
def AD9528_PLL2_VCO_CTRL : UInt32 := AD9528_1B 0x203
def AD9528_PLL2_VCO_DIVIDER : UInt32 := AD9528_1B 0x204
def AD9528_PLL2_LOOP_FILTER_CTRL : UInt32 := AD9528_2B 0x205
def AD9528_PLL2_R1_DIVIDER : UInt32 := AD9528_1B 0x207
def AD9528_PLL2_N2_DIVIDER : UInt32 := AD9528_1B 0x208
def AD9528_CHANNEL_OUTPUT (ch : UInt32) : UInt32 := AD9528_3B (0x300 + 3 * ch)
def AD9528_CHANNEL_SYNC : UInt32 := AD9528_1B 0x32A
def AD9528_CHANNEL_SYNC_IGNORE : UInt32 := AD9528_2B 0x32B
def AD9528_SYSREF_RESAMPLE_CTRL : UInt32 := AD9528_2B 0x32D
def AD9528_SYSREF_K_DIVIDER : UInt32 := AD9528_2B 0x400
def AD9528_SYSREF_CTRL : UInt32 := AD9528_2B 0x402
def AD9528_PD_EN : UInt32 := AD9528_1B 0x500
def AD9528_CHANNEL_PD_EN : UInt32 := AD9528_2B 0x501
def AD9528_STAT_MON0 : UInt32 := AD9528_1B 0x505
def AD9528_STAT_MON1 : UInt32 := AD9528_1B 0x506
def AD9528_STAT_PIN_EN : UInt32 := AD9528_1B 0x507
def AD9528_READBACK : UInt32 := AD9528_2B 0x508

def AD9528_SER_CONF_READ_BUFFERED : UInt32 := (1 : UInt32) <<< 5
def AD9528_IO_UPDATE_EN : UInt32 := (1 : UInt32) <<< 0
def AD9528_PLL1_CHARGE_PUMP_AUTO_TRISTATE_DIS : UInt32 := (1 : UInt32) <<< 12
def AD9528_PLL1_CHARGE_PUMP_MODE_NORMAL : UInt32 := (3 : UInt32) <<< 8
def AD9528_PLL1_CHARGE_PUMP_TRISTATE : UInt32 := (1 : UInt32) <<< 7
def AD9528_PLL1_CHARGE_PUMP_CURRENT_nA (x : UInt32) : UInt32 := (x / 500) &&& 0x7F
def AD9528_PLL1_REF_MODE (x : UInt32) : UInt32 := x <<< 16
def AD9528_PLL1_FEEDBACK_BYPASS_EN : UInt32 := (1 : UInt32) <<< 13
def AD9528_PLL1_REFB_BYPASS_EN : UInt32 := (1 : UInt32) <<< 12
def AD9528_PLL1_REFA_BYPASS_EN : UInt32 := (1 : UInt32) <<< 11
def AD9528_PLL1_SOURCE_VCXO : UInt32 := (1 : UInt32) <<< 10
def AD9528_PLL1_REFB_CMOS_NEG_INP_EN : UInt32 := (1 : UInt32) <<< 9
def AD9528_PLL1_REFA_CMOS_NEG_INP_EN : UInt32 := (1 : UInt32) <<< 8
def AD9528_PLL1_REFB_DIFF_RCV_EN : UInt32 := (1 : UInt32) <<< 6
def AD9528_PLL1_REFA_DIFF_RCV_EN : UInt32 := (1 : UInt32) <<< 5
def AD9528_PLL1_REFB_RCV_EN : UInt32 := (1 : UInt32) <<< 4
def AD9528_PLL1_REFA_RCV_EN : UInt32 := (1 : UInt32) <<< 3
def AD9528_PLL1_OSC_IN_CMOS_NEG_INP_EN : UInt32 := (1 : UInt32) <<< 1
def AD9528_PLL1_OSC_IN_DIFF_EN : UInt32 := (1 : UInt32) <<< 0
def AD9528_PLL2_CHARGE_PUMP_CURRENT_nA (x : UInt32) : UInt32 := x / 3500
def AD9528_PLL2_FB_NDIV_A_CNT (x : UInt32) : UInt32 := (x &&& 0x3) <<< 6
def AD9528_PLL2_FB_NDIV_B_CNT (x : UInt32) : UInt32 := (x &&& 0x3F) <<< 0
def AD9528_PLL2_FREQ_DOUBLER_EN : UInt32 := (1 : UInt32) <<< 5
def AD9528_PLL2_CHARGE_PUMP_MODE_NORMAL : UInt32 := (3 : UInt32) <<< 0
def AD9528_PLL2_CHARGE_PUMP_MODE_TRISTATE : UInt32 := (0 : UInt32) <<< 0
def AD9528_PLL2_DOUBLER_R1_EN : UInt32 := (1 : UInt32) <<< 4
def AD9528_PLL2_VCO_CALIBRATE : UInt32 := (1 : UInt32) <<< 0
def AD9528_PLL2_VCO_DIV_M1_PWR_DOWN_EN : UInt32 := (1 : UInt32) <<< 3
def AD9528_PLL2_VCO_DIV_M1 (x : UInt32) : UInt32 := (x &&& 0x7) <<< 0
def AD9528_PLL2_LOOP_FILTER_RZERO_BYPASS_EN : UInt32 := (1 : UInt32) <<< 8
def AD9528_PLL2_LOOP_FILTER_RPOLE2 (x : UInt32) : UInt32 := (x &&& 0x3) <<< 6
def AD9528_PLL2_LOOP_FILTER_RZERO (x : UInt32) : UInt32 := (x &&& 0x7) <<< 3
def AD9528_PLL2_LOOP_FILTER_CPOLE1 (x : UInt32) : UInt32 := (x &&& 0x7) <<< 0
def AD9528_PLL2_R1_DIV (x : UInt32) : UInt32 := (x &&& 0x1F) <<< 0
def AD9528_PLL2_N2_DIV (x : UInt32) : UInt32 := ((x - 1) &&& 0xFF) <<< 0
def AD9528_CLK_DIST_DIV_MIN : UInt32 := 1
def AD9528_CLK_DIST_DIV_MAX : UInt32 := 256
def AD9528_CLK_DIST_DIV (x : UInt32) : UInt32 := ((x - 1) &&& 0xFF) <<< 16
def AD9528_CLK_DIST_DIV_REV (x : UInt32) : UInt32 := ((x >>> 16) &&& 0xFF) + 1
def AD9528_CLK_DIST_DRIVER_MODE (x : UInt32) : UInt32 := (x &&& 0x3) <<< 14
def AD9528_CLK_DIST_DRIVER_MODE_REV (x : UInt32) : UInt32 := (x >>> 14) &&& 0x3
def AD9528_CLK_DIST_DIV_PHASE (x : UInt32) : UInt32 := (x &&& 0x3F) <<< 8
def AD9528_CLK_DIST_DIV_PHASE_REV (x : UInt32) : UInt32 := (x >>> 8) &&& 0x3F
def AD9528_CLK_DIST_CTRL (x : UInt32) : UInt32 := (x &&& 0x7) <<< 5
def AD9528_CLK_DIST_CTRL_REV (x : UInt32) : UInt32 := (x >>> 5) &&& 0x7
def AD9528_CHANNEL_SYNC_SET : UInt32 := (1 : UInt32) <<< 0
def AD9528_CHANNEL_IGNORE_MASK (x : UInt32) : UInt32 := (x &&& 0x3FFF) <<< 0
def AD9528_SYSREF_K_DIV (x : UInt32) : UInt32 := (x &&& 0xFFFF) <<< 0
def AD9528_SYSREF_K_DIV_MIN : UInt32 := 0
def AD9528_SYSREF_K_DIV_MAX : UInt32 := 65535
def AD9528_SYSREF_SOURCE (x : UInt32) : UInt32 := (x &&& 0x3) <<< 14
def AD9528_SYSREF_PATTERN_MODE (x : UInt32) : UInt32 := (x &&& 0x3) <<< 12
def AD9528_SYSREF_PATTERN_REQ : UInt32 := (1 : UInt32) <<< 8
def AD9528_PD_BIAS : UInt32 := (1 : UInt32) <<< 4
def AD9528_PD_PLL2 : UInt32 := (1 : UInt32) <<< 3
def AD9528_PD_PLL1 : UInt32 := (1 : UInt32) <<< 2
def AD9528_CHANNEL_PD_MASK (x : UInt32) : UInt32 := (x &&& 0x3FFF) <<< 0
def AD9528_IS_CALIBRATING : UInt32 := (1 : UInt32) <<< 8
def AD9528_VCXO_OK : UInt32 := (1 : UInt32) <<< 5
def AD9528_PLL2_LOCKED : UInt32 := (1 : UInt32) <<< 1
def AD9528_STAT0_PIN_EN : UInt32 := (1 : UInt32) <<< 2
def AD9528_STAT1_PIN_EN : UInt32 := (1 : UInt32) <<< 3
def AD9528_NUM_CHAN : UInt8 := 14
def AD9528_SPI_MAGIC : UInt32 := 0x00FF05
def SYSREF_SRC_EXTERNAL : UInt8 := 0
def SYSREF_PATTERN_CONTINUOUS : UInt32 := 1
/-- The sources of a channel that have a rate, as indices of `vco_out_freq`. -/
def AD9528_VCO : UInt8 := 0
def AD9528_SYSREF : UInt8 := 2

structure Ad9528ChannelSpec where
  channelNum : UInt8
  syncIgnoreEn : Bool
  outputDis : Bool
  driverMode : UInt8
  signalSource : UInt8
  dividerPhase : UInt8
  channelDivider : UInt16

/-- The platform data; `num_channels` is the length of the table. -/
structure Ad9528PlatformData where
  vcxoFreq : UInt32
  refaEn : Bool
  refbEn : Bool
  refaDiffRcvEn : Bool
  refbDiffRcvEn : Bool
  oscInDiffEn : Bool
  refaCmosNegInpEn : Bool
  refbCmosNegInpEn : Bool
  oscInCmosNegInpEn : Bool
  refaRDiv : UInt16
  refbRDiv : UInt16
  pll1FeedbackDiv : UInt16
  pll1FeedbackSrcVcxo : Bool
  pll1ChargePumpCurrentNA : UInt16
  pll1BypassEn : Bool
  refMode : UInt8
  sysrefSrc : UInt8
  sysrefKDiv : UInt16
  pll2ChargePumpCurrentNA : UInt32
  pll2FreqDoublerEn : Bool
  pll2R1Div : UInt8
  pll2N2Div : UInt8
  pll2VcoDivM1 : UInt8
  pll2BypassEn : Bool
  rpole2 : UInt8
  rzero : UInt8
  cpole1 : UInt8
  rzeroBypassEn : Bool
  channels : List Ad9528ChannelSpec
  stat0PinFuncSel : UInt8
  stat1PinFuncSel : UInt8

/-- `vco_out_freq` by source. -/
structure VcoOutFreq where
  vco : UInt32
  vcxo : UInt32
  sysref : UInt32

/-- The driver and the device behind the port. -/
structure Ad9528 where
  pdata : Ad9528PlatformData
  vcoOutFreq : VcoOutFreq
  regs : UInt32 → UInt8
  /-- The code of every transfer -/
  codes : ℕ → Int32
  /-- What a transfer reads from `AD9528_READBACK` -/
  status : ℕ → UInt8
  transfers : ℕ
  /-- Whether something was divided by zero -/
  byZero : Bool

namespace Ad9528

/-- The register that the first two bytes of a transfer name, without the bit for the direction. -/
def regOf (buf0 buf1 : UInt8) : UInt32 := ((buf0 &&& 0x7F).toUInt32 <<< 8) ||| buf1.toUInt32

/-- What the device answers to a read. -/
def answer (s : Ad9528) (reg : UInt32) : UInt8 :=
  if reg = 0x508 ∨ reg = 0x509 then s.status s.transfers else s.regs reg

/-- One transfer: its code, the last byte afterwards, and the state. A failed one does not reach the device. -/
def spiWriteAndRead (buf0 buf1 buf2 : UInt8) (s : Ad9528) : Int32 × UInt8 × Ad9528 :=
  let code := s.codes s.transfers
  let s' := { s with transfers := s.transfers + 1 }
  if code < 0 then (code, buf2, s')
  else if buf0 &&& 0x80 ≠ 0 then (code, s.answer (regOf buf0 buf1), s')
  else (code, buf2, { s' with regs := Function.update s.regs (regOf buf0 buf1) buf2 })

/-- The addresses of the bytes. -/
def byteAddrs (regAddr : UInt32) : List UInt32 :=
  (List.range (AD9528_TRANSF_LEN regAddr).toNat).map fun k => regAddr - UInt32.ofNat k

/-- The loop of `ad9528_spi_read_n`. -/
def readBytes : List UInt32 → Int32 → UInt32 → Ad9528 → Int32 × UInt32 × Ad9528
  | [], ret, data, s => (ret, data, s)
  | a :: as, ret, data, s =>
    let r := spiWriteAndRead ((0x80 : UInt8) ||| (a >>> 8).toUInt8) (a &&& 0xFF).toUInt8 0x00 s
    readBytes as (ret ||| r.1) ((data <<< 8) ||| r.2.1.toUInt32) r.2.2

/-- The loop of `ad9528_spi_write_n`: the bytes that are left are the lower ones of the data. -/
def writeBytes (data : UInt32) : List UInt32 → Int32 → Ad9528 → Int32 × Ad9528
  | [], ret, s => (ret, s)
  | a :: as, ret, s =>
    let r := spiWriteAndRead (a >>> 8).toUInt8 (a &&& 0xFF).toUInt8
      ((data >>> UInt32.ofNat (8 * as.length)) &&& 0xFF).toUInt8 s
    writeBytes data as (ret ||| r.1) r.2.2

def spiReadN (regAddr : UInt32) : Fallible Ad9528 UInt32 := fun s =>
  let r := readBytes (byteAddrs regAddr) 0 0 s
  if r.1 < 0 then (.error r.1.toInt, r.2.2) else (.ok r.2.1, r.2.2)

def spiWriteN (regAddr regData : UInt32) : Fallible Ad9528 Unit := fun s =>
  let r := writeBytes regData (byteAddrs regAddr) 0 s
  if r.1 < 0 then (.error r.1.toInt, r.2) else (.ok (), r.2)

/-- Writes one after the other. -/
def writeAll : List (UInt32 × UInt32) → Fallible Ad9528 Unit
  | [] => pure ()
  | w :: ws => do
    spiWriteN w.1 w.2
    writeAll ws

/-- The function goes on if the condition holds. -/
def returnUnless (ok : Bool) (code : Int) : Fallible Ad9528 Unit := if ok then pure () else Fallible.fail code

def ioUpdate : Fallible Ad9528 Unit := spiWriteN AD9528_IO_UPDATE AD9528_IO_UPDATE_EN

def poll (regAddr mask data : UInt32) : (timeout : ℕ) → Fallible Ad9528 Unit
  | 0 => Fallible.fail (-1)
  | timeout + 1 => do
    let regData ← spiReadN regAddr
    if regData &&& mask = data then pure () else poll regAddr mask data timeout

/-- Whether polling ended before the timeout. -/
def polled (regAddr mask data : UInt32) : Fallible Ad9528 Bool := fun s =>
  let r := poll regAddr mask data 100 s
  (.ok r.1.isOk, r.2)

def sync : Fallible Ad9528 Unit := do
  spiWriteN AD9528_CHANNEL_SYNC AD9528_CHANNEL_SYNC_SET
  ioUpdate
  spiWriteN AD9528_CHANNEL_SYNC 0
  ioUpdate
  let vcxo ← polled AD9528_READBACK AD9528_VCXO_OK AD9528_VCXO_OK
  let locked ← polled AD9528_READBACK AD9528_PLL2_LOCKED AD9528_PLL2_LOCKED
  returnUnless (vcxo && locked) (-1)

def get : Fallible Ad9528 Ad9528 := fun s => (.ok s, s)

def modify (f : Ad9528 → Ad9528) : Fallible Ad9528 Unit := fun s => (.ok (), f s)

/-- A division by zero ends the program. -/
def divByZero {α : Type} : Fallible Ad9528 α := fun s => (.error FAILURE, { s with byZero := true })

def checkDivisor (y : UInt32) : Fallible Ad9528 Unit := if y = 0 then divByZero else pure ()

def pll2ValidCalibDiv (div : UInt32) : Bool :=
  !(div < 16 || div > 255) && !(div == 18 || div == 19 || div == 23 || div == 27)

def AD_IFE (flag : Bool) (a b : UInt32) : UInt32 := if flag then a else b
def AD_IF (flag : Bool) (a : UInt32) : UInt32 := AD_IFE flag a 0

def pll1Ctrl (p : Ad9528PlatformData) : UInt32 :=
  AD_IFE p.pll1BypassEn
    (AD_IF p.oscInDiffEn AD9528_PLL1_OSC_IN_DIFF_EN |||
      AD_IF p.oscInCmosNegInpEn AD9528_PLL1_OSC_IN_CMOS_NEG_INP_EN |||
      AD9528_PLL1_REFB_BYPASS_EN ||| AD9528_PLL1_REFA_BYPASS_EN ||| AD9528_PLL1_FEEDBACK_BYPASS_EN)
    (AD_IF p.refaEn AD9528_PLL1_REFA_RCV_EN ||| AD_IF p.refbEn AD9528_PLL1_REFB_RCV_EN |||
      AD_IF p.oscInDiffEn AD9528_PLL1_OSC_IN_DIFF_EN |||
      AD_IF p.oscInCmosNegInpEn AD9528_PLL1_OSC_IN_CMOS_NEG_INP_EN |||
      AD_IF p.refaDiffRcvEn AD9528_PLL1_REFA_DIFF_RCV_EN ||| AD_IF p.refbDiffRcvEn AD9528_PLL1_REFB_DIFF_RCV_EN) |||
  AD_IF p.refaCmosNegInpEn AD9528_PLL1_REFA_CMOS_NEG_INP_EN |||
  AD_IF p.refbCmosNegInpEn AD9528_PLL1_REFB_CMOS_NEG_INP_EN |||
  AD_IF p.pll1FeedbackSrcVcxo AD9528_PLL1_SOURCE_VCXO ||| AD9528_PLL1_REF_MODE p.refMode.toUInt32

def pll1Setup (p : Ad9528PlatformData) : Fallible Ad9528 Unit := writeAll [
  (AD9528_PLL1_REF_A_DIVIDER, p.refaRDiv.toUInt32),
  (AD9528_PLL1_REF_B_DIVIDER, p.refbRDiv.toUInt32),
  (AD9528_PLL1_FEEDBACK_DIVIDER, p.pll1FeedbackDiv.toUInt32),
  (AD9528_PLL1_CHARGE_PUMP_CTRL, AD_IFE p.pll1BypassEn AD9528_PLL1_CHARGE_PUMP_TRISTATE
    (AD9528_PLL1_CHARGE_PUMP_CURRENT_nA p.pll1ChargePumpCurrentNA.toUInt32 |||
      AD9528_PLL1_CHARGE_PUMP_MODE_NORMAL ||| AD9528_PLL1_CHARGE_PUMP_AUTO_TRISTATE_DIS)),
  (AD9528_PLL1_CTRL, pll1Ctrl p)]

def bypassPll2 (p : Ad9528PlatformData) : Fallible Ad9528 UInt32 := do
  writeAll [(AD9528_PLL2_CTRL, AD9528_PLL2_CHARGE_PUMP_MODE_TRISTATE), (AD9528_SYSREF_RESAMPLE_CTRL, 0x1)]
  modify fun s => { s with
    pdata := { s.pdata with sysrefSrc := SYSREF_SRC_EXTERNAL }
    vcoOutFreq := ⟨p.vcxoFreq, p.vcxoFreq, p.vcxoFreq⟩ }
  pure 0

/-- The result is `vco_ctrl`. -/
def pll2Setup (p : Ad9528PlatformData) : Fallible Ad9528 UInt32 := do
  let pll2Ndiv := p.pll2VcoDivM1.toUInt32 * p.pll2N2Div.toUInt32
  returnUnless (pll2ValidCalibDiv pll2Ndiv) (-1)
  writeAll [
    (AD9528_PLL2_CHARGE_PUMP, AD9528_PLL2_CHARGE_PUMP_CURRENT_nA p.pll2ChargePumpCurrentNA),
    (AD9528_PLL2_FEEDBACK_DIVIDER_AB,
      AD9528_PLL2_FB_NDIV_A_CNT (pll2Ndiv % 4) ||| AD9528_PLL2_FB_NDIV_B_CNT (pll2Ndiv / 4)),
    (AD9528_PLL2_CTRL,
      AD9528_PLL2_CHARGE_PUMP_MODE_NORMAL ||| AD_IF p.pll2FreqDoublerEn AD9528_PLL2_FREQ_DOUBLER_EN)]
  checkDivisor p.pll2R1Div.toUInt32
  let vcoFreq := (p.vcxoFreq.toUInt64 * (if p.pll2FreqDoublerEn then 2 else 1) * pll2Ndiv.toUInt64 /
    p.pll2R1Div.toUInt64).toUInt32
  let vcoCtrl := AD_IF (p.pll2FreqDoublerEn || p.pll2R1Div != 1) AD9528_PLL2_DOUBLER_R1_EN
  writeAll [
    (AD9528_PLL2_VCO_CTRL, vcoCtrl),
    (AD9528_PLL2_VCO_DIVIDER, AD9528_PLL2_VCO_DIV_M1 p.pll2VcoDivM1.toUInt32 |||
      AD_IFE (p.pll2VcoDivM1 != 0) 0 AD9528_PLL2_VCO_DIV_M1_PWR_DOWN_EN)]
  modify fun s => { s with vcoOutFreq := { s.vcoOutFreq with
    vco := if p.pll2VcoDivM1 ≠ 0 then vcoFreq / p.pll2VcoDivM1.toUInt32 else vcoFreq
    vcxo := p.vcxoFreq } }
  writeAll [
    (AD9528_PLL2_R1_DIVIDER, AD9528_PLL2_R1_DIV p.pll2R1Div.toUInt32),
    (AD9528_PLL2_N2_DIVIDER, AD9528_PLL2_N2_DIV p.pll2N2Div.toUInt32),
    (AD9528_PLL2_LOOP_FILTER_CTRL, AD9528_PLL2_LOOP_FILTER_CPOLE1 p.cpole1.toUInt32 |||
      AD9528_PLL2_LOOP_FILTER_RZERO p.rzero.toUInt32 ||| AD9528_PLL2_LOOP_FILTER_RPOLE2 p.rpole2.toUInt32 |||
      AD_IF p.rzeroBypassEn AD9528_PLL2_LOOP_FILTER_RZERO_BYPASS_EN)]
  pure vcoCtrl

def pll2 (p : Ad9528PlatformData) : Fallible Ad9528 UInt32 := if p.pll2BypassEn then bypassPll2 p else pll2Setup p

/-- The word of an output. -/
def channelWord (chan : Ad9528ChannelSpec) : UInt32 :=
  AD9528_CLK_DIST_DRIVER_MODE chan.driverMode.toUInt32 ||| AD9528_CLK_DIST_DIV chan.channelDivider.toUInt32 |||
    AD9528_CLK_DIST_DIV_PHASE chan.dividerPhase.toUInt32 ||| AD9528_CLK_DIST_CTRL chan.signalSource.toUInt32

/-- The channels that the loop of the setup does not skip. -/
def enabled (p : Ad9528PlatformData) : List Ad9528ChannelSpec :=
  p.channels.filter fun chan => !chan.outputDis && chan.channelNum < AD9528_NUM_CHAN

def maskOf (chans : List Ad9528ChannelSpec) : UInt32 :=
  chans.foldl (fun mask chan => mask ||| ((1 : UInt32) <<< chan.channelNum.toUInt32)) 0

/-- The function of a status pin, if it has one. -/
def statPin (reg : UInt32) (funcSel : UInt8) : List (UInt32 × UInt32) :=
  if funcSel ≠ 0xFF then [(reg, funcSel.toUInt32)] else []

def statPins (p : Ad9528PlatformData) : List (UInt32 × UInt32) :=
  let statEnMask := AD_IF (p.stat0PinFuncSel != 0xFF) AD9528_STAT0_PIN_EN |||
    AD_IF (p.stat1PinFuncSel != 0xFF) AD9528_STAT1_PIN_EN
  statPin AD9528_STAT_MON0 p.stat0PinFuncSel ++ statPin AD9528_STAT_MON1 p.stat1PinFuncSel ++
    if statEnMask ≠ 0 then [(AD9528_STAT_PIN_EN, statEnMask)] else []

def calibrate (p : Ad9528PlatformData) (vcoCtrl : UInt32) : Fallible Ad9528 Unit :=
  if p.pll2BypassEn then pure ()
  else do
    spiWriteN AD9528_PLL2_VCO_CTRL (vcoCtrl ||| AD9528_PLL2_VCO_CALIBRATE)
    ioUpdate
    poll AD9528_READBACK AD9528_IS_CALIBRATING 0 100

/-- `ad9528_setup` once the ports are there and the device is reset. -/
def setup (p : Ad9528PlatformData) : Fallible Ad9528 Unit := do
  modify fun s => { s with pdata := p }
  spiWriteN AD9528_SERIAL_PORT_CONFIG_B AD9528_SER_CONF_READ_BUFFERED
  ioUpdate
  let regData ← spiReadN AD9528_CHIP_ID
  returnUnless (regData &&& 0xFFFFFF == AD9528_SPI_MAGIC) (-1)
  pll1Setup p
  let vcoCtrl ← pll2 p
  writeAll ((enabled p).map fun chan => (AD9528_CHANNEL_OUTPUT chan.channelNum.toUInt32, channelWord chan))
  let sysrefCtrl := AD9528_SYSREF_PATTERN_MODE SYSREF_PATTERN_CONTINUOUS |||
    AD9528_SYSREF_SOURCE (← get).pdata.sysrefSrc.toUInt32
  writeAll [
    (AD9528_CHANNEL_PD_EN, AD9528_CHANNEL_PD_MASK (~~~maskOf (enabled p))),
    (AD9528_CHANNEL_SYNC_IGNORE, AD9528_CHANNEL_IGNORE_MASK (maskOf ((enabled p).filter (·.syncIgnoreEn)))),
    (AD9528_SYSREF_K_DIVIDER, AD9528_SYSREF_K_DIV p.sysrefKDiv.toUInt32),
    (AD9528_SYSREF_CTRL, sysrefCtrl),
    (AD9528_PD_EN,
      AD9528_PD_BIAS ||| AD_IF p.pll1BypassEn AD9528_PD_PLL1 ||| AD_IF p.pll2BypassEn AD9528_PD_PLL2)]
  ioUpdate
  calibrate p vcoCtrl
  writeAll ((AD9528_SYSREF_CTRL, sysrefCtrl ||| AD9528_SYSREF_PATTERN_REQ) :: statPins p)
  ioUpdate
  sync

/-- `DIV_ROUND_CLOSEST` -/
def divClosest (x y : UInt32) : Fallible Ad9528 UInt32 :=
  if y = 0 then divByZero else pure (divRoundClosest x y)

def calcOutDiv (rate parentRate : UInt32) : Fallible Ad9528 UInt32 := do
  let div ← divClosest parentRate rate
  pure (clamp div AD9528_CLK_DIST_DIV_MIN AD9528_CLK_DIST_DIV_MAX)

/-- The K divider, which both functions compute. -/
def calcKDiv (rate vcxo : UInt32) : Fallible Ad9528 UInt32 := do
  let div ← divClosest (vcxo / 2) rate
  pure (clamp div AD9528_SYSREF_K_DIV_MIN AD9528_SYSREF_K_DIV_MAX)

def clkRoundRate (chan rate : UInt32) : Fallible Ad9528 UInt32 := do
  let s ← get
  match s.pdata.channels[chan.toNat]? with
  | none => pure (-1)
  | some spec =>
    if spec.signalSource = AD9528_VCO then do
      let div ← calcOutDiv rate s.vcoOutFreq.vco
      divClosest s.vcoOutFreq.vco div
    else if spec.signalSource = AD9528_SYSREF then do
      let div ← calcKDiv rate s.vcoOutFreq.vcxo
      divClosest (s.vcoOutFreq.vcxo / 2) div
    else pure 0

def setChannelDivider (chan : ℕ) (div : UInt32) (s : Ad9528) : Ad9528 :=
  { s with pdata := { s.pdata with
    channels := s.pdata.channels.modify chan fun spec => { spec with channelDivider := div.toUInt16 } } }

def clkSetRate (chan rate : UInt32) : Fallible Ad9528 Unit := do
  let s ← get
  match s.pdata.channels[chan.toNat]? with
  | none => Fallible.fail (-1)
  | some spec =>
    if spec.signalSource = AD9528_VCO then do
      let div ← calcOutDiv rate s.vcoOutFreq.vco
      modify (setChannelDivider chan.toNat div)
      let reg ← spiReadN (AD9528_CHANNEL_OUTPUT chan)
      let reg := (reg &&& ~~~AD9528_CLK_DIST_DIV (0xFF + 1)) ||| AD9528_CLK_DIST_DIV div.toUInt16.toUInt32
      spiWriteN (AD9528_CHANNEL_OUTPUT spec.channelNum.toUInt32) reg
      ioUpdate
    else if spec.signalSource = AD9528_SYSREF then do
      let div ← calcKDiv rate s.vcoOutFreq.vcxo
      spiWriteN AD9528_SYSREF_K_DIVIDER div
      modify fun s => { s with pdata := { s.pdata with sysrefKDiv := div.toUInt16 } }
      checkDivisor div
      modify fun s => { s with vcoOutFreq := { s.vcoOutFreq with sysref := s.vcoOutFreq.vcxo / 2 / div } }
      ioUpdate
    else Fallible.fail (-2)

end Ad9528

end NoOS
