import NoOS.Errno
import NoOS.Lib.Fallible
import NoOS.Lib.RegisterFile
import NoOS.Util.Util

/-!
# The transceivers of `xilinx_transceiver.c`

The registers of a transceiver are behind a DRP port of `axi_adxcvr.c`. An access asks the port until it is
idle, and gives up after some time: then a read has no value, and a word that was written may be lost or not.
-/

namespace NoOS

/-- A register behind the ports: whether it is behind those of the common blocks, the number that is
selected, and the address. -/
structure DrpKey where
  common : Bool
  sel : UInt32
  reg : UInt32
  deriving DecidableEq

/-- What becomes of an access: it is done in time, or it takes too long and is lost, or done all the same. -/
inductive DrpFate
  | done
  | lost
  | late
  deriving DecidableEq

structure Drp where
  regs : DrpKey → UInt16
  /-- The fate of every access -/
  fate : ℕ → DrpFate
  accesses : ℕ

def ADXCVR_DRP_PORT_COMMON (x : UInt32) : UInt32 := x
def ADXCVR_DRP_PORT_CHANNEL (x : UInt32) : UInt32 := 0x100 + x

/-- The register that an access selects. -/
def drpKey (drpPort reg : UInt32) : DrpKey :=
  ⟨drpPort < ADXCVR_DRP_PORT_CHANNEL 0, drpPort &&& 0xFF, reg &&& 0xFFF⟩

def Drp.next (d : Drp) : Drp := { d with accesses := d.accesses + 1 }

def adxcvrDrpRead (drpPort reg : UInt32) : Fallible Drp UInt32 := fun d =>
  if d.fate d.accesses = .done then (.ok (d.regs (drpKey drpPort reg)).toUInt32, d.next)
  else (.error FAILURE, d.next)

def adxcvrDrpWrite (drpPort reg val : UInt32) : Fallible Drp Unit := fun d =>
  let written := { d.next with regs := Function.update d.regs (drpKey drpPort reg) val.toUInt16 }
  match d.fate d.accesses with
  | .done => (.ok (), written)
  | .lost => (.error FAILURE, d.next)
  | .late => (.error FAILURE, written)

def xilinxXcvrDrpRead (drpPort reg : UInt32) : Fallible Drp UInt32 := adxcvrDrpRead drpPort reg

/-- A write, which is read back for a message. -/
def xilinxXcvrDrpWrite (drpPort reg val : UInt32) : Fallible Drp Unit := do
  adxcvrDrpWrite drpPort reg val
  Fallible.ignore (xilinxXcvrDrpRead drpPort reg)

def xilinxXcvrDrpUpdate (drpPort reg mask val : UInt32) : Fallible Drp Unit := do
  let readVal ← xilinxXcvrDrpRead drpPort reg
  xilinxXcvrDrpWrite drpPort reg (val ||| (readVal &&& ~~~mask))

inductive XilinxXcvrType
  | S7_GTX2
  | US_GTH3
  | US_GTH4
  | US_GTY4
  deriving DecidableEq

inductive XilinxXcvrRefclkPpm
  | PM_200
  | PM_700
  | PM_1250
  deriving DecidableEq

structure XilinxXcvr where
  type : XilinxXcvrType
  refclkPpm : XilinxXcvrRefclkPpm
  encoding : UInt32
  version : UInt32
  speedGrade : UInt32
  devPackage : UInt32
  voltage : UInt32

structure XilinxXcvrCpllConfig where
  refclkDiv : UInt32
  fbDivN1 : UInt32
  fbDivN2 : UInt32
  deriving DecidableEq

structure XilinxXcvrQpllConfig where
  refclkDiv : UInt32
  fbDiv : UInt32
  band : UInt32
  deriving DecidableEq

def ENC_8B10B : UInt32 := 810
def AXI_FPGA_DEV_FB : UInt32 := 4
def AXI_FPGA_DEV_SB : UInt32 := 11

def OUT_DIV_ADDR : UInt32 := 0x88
def OUT_DIV_TX_OFFSET : UInt32 := 0x4
def OUT_DIV_RX_OFFSET : UInt32 := 0x0
def RXCDR_CFG0_ADDR : UInt32 := 0xa8
def RXCDR_CFG1_ADDR : UInt32 := 0xa9
def RXCDR_CFG2_ADDR : UInt32 := 0xaa
def RXCDR_CFG3_ADDR : UInt32 := 0xab
def RXCDR_CFG4_ADDR : UInt32 := 0xac
def RXCDR_CFG4_MASK : UInt32 := 0x00ff
def QPLL_CFG0_ADDR : UInt32 := 0x32
def QPLL_CFG0_LOWBAND_MASK : UInt32 := 0x0040
def QPLL_CFG1_ADDR : UInt32 := 0x33
def QPLL_REFCLK_DIV_M_MASK : UInt32 := 0xf800
def QPLL_REFCLK_DIV_M_OFFSET : UInt32 := 11
def QPLL_REFCLK_DIV_M (x : UInt32) : UInt32 := x <<< 11
def QPLL_FBDIV_N_ADDR : UInt32 := 0x36
def QPLL_FBDIV_N_MASK : UInt32 := 0x03ff
def QPLL_FBDIV_RATIO_ADDR : UInt32 := 0x37
def QPLL_FBDIV_RATIO_MASK : UInt32 := 0x0040
def CPLL_REFCLK_DIV_M_ADDR : UInt32 := 0x5e
def CPLL_REFCLK_DIV_M_MASK : UInt32 := 0x1f00
def CPLL_FB_DIV_45_N1_MASK : UInt32 := 0x0080
def CPLL_FBDIV_N2_MASK : UInt32 := 0x007f
def RX_CLK25_DIV : UInt32 := 0x11
def RX_CLK25_DIV_OFFSET : UInt32 := 6
def RX_CLK25_DIV_MASK : UInt32 := 0x07c0
def TX_CLK25_DIV : UInt32 := 0x6a
def TX_CLK25_DIV_MASK : UInt32 := 0x1f
def QPLL_FBDIV (x : UInt32) : UInt32 := 0x14 + x * 0x80
def QPLL_REFCLK_DIV (x : UInt32) : UInt32 := 0x18 + x * 0x80

def xcvrVersionMajor (version : UInt32) : UInt32 := version >>> 16

def xilinxXcvrSetupCpllVcoRange (xcvr : XilinxXcvr) (vcoMax : UInt32) : UInt32 :=
  if xcvr.type = .S7_GTX2 then vcoMax
  else if xcvr.voltage < 850 ∨ xcvr.speedGrade / 10 = 1 then 4250000
  else vcoMax

/-- The limits of the two bands. -/
structure QpllVcoRange where
  vco0Min : UInt32
  vco0Max : UInt32
  vco1Min : UInt32
  vco1Max : UInt32

def xilinxXcvrSetupQpllVcoRange (xcvr : XilinxXcvr) (r : QpllVcoRange) : QpllVcoRange :=
  if xcvr.type = .S7_GTX2 then
    let r := if xcvr.devPackage = AXI_FPGA_DEV_FB ∨ xcvr.devPackage = AXI_FPGA_DEV_SB then
      { r with vco0Max := 6600000 } else r
    if xcvr.speedGrade / 10 = 2 then { r with vco1Max := 10312500 } else r
  else
    let r := { r with vco1Min := 8000000, vco1Max := 13000000 }
    let r := if (xcvr.voltage < 900 ∨ xcvr.voltage > 720) ∧ xcvr.speedGrade / 10 = 1 then
      { r with vco0Max := 12500000, vco1Max := 12500000 } else r
    if xcvr.voltage = 720 then
      let vco0Max := if xcvr.speedGrade / 10 = 2 then 12500000
        else if xcvr.speedGrade / 10 = 1 then 10312500 else r.vco0Max
      { r with vco0Max := vco0Max, vco1Max := vco0Max }
    else r

/-- The configuration and the output divider, `none` for `FAILURE`. -/
def xilinxXcvrCalcCpllConfig (xcvr : XilinxXcvr) (refclkKhz laneRateKhz : UInt32) :
    Option (XilinxXcvrCpllConfig × UInt32) :=
  let vcoMin := if xcvr.type = .S7_GTX2 then 1600000 else 2000000
  let vcoMax := if xcvr.type = .S7_GTX2 then 3300000 else 6250000
  let vcoMax := if xcvrVersionMajor xcvr.version > 0x10 then xilinxXcvrSetupCpllVcoRange xcvr vcoMax else vcoMax
  [1, 2].findSome? fun m => [1, 2, 4, 8].findSome? fun d => [5, 4].findSome? fun n1 =>
    [5, 4, 3, 2, 1].findSome? fun n2 =>
      let vcoFreq := refclkKhz * n1 * n2 / m
      if vcoFreq > vcoMax ∨ vcoFreq < vcoMin then none
      else if refclkKhz / m / d = laneRateKhz / (2 * n1 * n2) then some (⟨m, n1, n2⟩, d)
      else none

def N_gtx2 : List UInt32 := [16, 20, 32, 40, 64, 66, 80, 100]
def N_gth34 : List UInt32 := [16, 20, 32, 40, 64, 66, 75, 80, 100, 112, 120, 125, 150, 160]

def QpllVcoRange.band (r : QpllVcoRange) (vcoFreq : UInt32) : Option UInt32 :=
  if vcoFreq ≥ r.vco1Min ∧ vcoFreq ≤ r.vco1Max then some 1
  else if vcoFreq ≥ r.vco0Min ∧ vcoFreq ≤ r.vco0Max then some 0
  else none

def xilinxXcvrCalcQpllConfig (xcvr : XilinxXcvr) (refclkKhz laneRateKhz : UInt32) :
    Option (XilinxXcvrQpllConfig × UInt32) :=
  let (bigN, r) : List UInt32 × QpllVcoRange :=
    if xcvr.type = .S7_GTX2 then (N_gtx2, ⟨5930000, 8000000, 9800000, 12500000⟩)
    else (N_gth34, ⟨9800000, 16375000, 9800000, 16375000⟩)
  let r := if xcvrVersionMajor xcvr.version > 0x10 then xilinxXcvrSetupQpllVcoRange xcvr r else r
  [1, 2, 3, 4].findSome? fun m => [1, 2, 4, 8, 16].findSome? fun d => bigN.findSome? fun n =>
    (r.band (refclkKhz * n / m)).bind fun band =>
      if refclkKhz / m / d = laneRateKhz / n then some (⟨m, n, band⟩, d) else none

/-- The feedback divider N1, bit 7 of its register. -/
def cpllReadN1 (val : UInt32) : UInt32 := if val &&& CPLL_FB_DIV_45_N1_MASK ≠ 0 then 5 else 4

/-- The feedback divider N2 of its field. -/
def cpllReadN2 (field : UInt32) : UInt32 :=
  if field = 3 then 5 else if field = 2 then 4 else if field = 1 then 3 else if field = 0 then 2 else 1

def cpllWriteN1 (fbDivN1 : UInt32) : Option UInt32 :=
  if fbDivN1 = 4 then some 0 else if fbDivN1 = 5 then some CPLL_FB_DIV_45_N1_MASK else none

def cpllWriteN2 (fbDivN2 : UInt32) : Option UInt32 :=
  if fbDivN2 = 1 then some 0x10 else if fbDivN2 = 2 then some 0x00 else if fbDivN2 = 3 then some 0x01
  else if fbDivN2 = 4 then some 0x2 else if fbDivN2 = 5 then some 0x3 else none

/-- A field that there is no encoding for is a `FAILURE`. -/
def orFail {α : Type} : Option α → Fallible Drp α
  | some a => pure a
  | none => Fallible.fail FAILURE

def xilinxXcvrGth34CpllReadConfig (drpPort : UInt32) : Fallible Drp XilinxXcvrCpllConfig := do
  let val ← xilinxXcvrDrpRead drpPort 0x28
  let fbDivN1 := cpllReadN1 val
  let fbDivN2 := cpllReadN2 ((val >>> 8) &&& 0xff)
  let val ← xilinxXcvrDrpRead drpPort 0x2a
  return ⟨if val &&& 0xf800 ≠ 0 then 1 else 2, fbDivN1, fbDivN2⟩

def xilinxXcvrGtx2CpllReadConfig (drpPort : UInt32) : Fallible Drp XilinxXcvrCpllConfig := do
  let val ← xilinxXcvrDrpRead drpPort CPLL_REFCLK_DIV_M_ADDR
  return ⟨if val &&& CPLL_REFCLK_DIV_M_MASK ≠ 0 then 1 else 2, cpllReadN1 val,
    cpllReadN2 (val &&& CPLL_FBDIV_N2_MASK)⟩

def xilinxXcvrCpllReadConfig (xcvr : XilinxXcvr) (drpPort : UInt32) : Fallible Drp XilinxXcvrCpllConfig :=
  if xcvr.type = .S7_GTX2 then xilinxXcvrGtx2CpllReadConfig drpPort else xilinxXcvrGth34CpllReadConfig drpPort

def gth34CpllRefclk (refclkDiv : UInt32) : Option UInt32 :=
  if refclkDiv = 1 then some 16 else if refclkDiv = 2 then some 0 else none

def xilinxXcvrGth34CpllWriteConfig (drpPort : UInt32) (conf : XilinxXcvrCpllConfig) : Fallible Drp Unit := do
  let n2 ← orFail (cpllWriteN2 conf.fbDivN2)
  let n1 ← orFail (cpllWriteN1 conf.fbDivN1)
  xilinxXcvrDrpUpdate drpPort 0x28 0xff80 ((n2 <<< 8) ||| n1)
  let val ← orFail (gth34CpllRefclk conf.refclkDiv)
  xilinxXcvrDrpUpdate drpPort 0x2a 0xf800 (val <<< 11)

def gtx2CpllRefclk (refclkDiv : UInt32) : Option UInt32 :=
  if refclkDiv = 1 then some CPLL_REFCLK_DIV_M_MASK else if refclkDiv = 2 then some 0 else none

def xilinxXcvrGtx2CpllWriteConfig (drpPort : UInt32) (conf : XilinxXcvrCpllConfig) : Fallible Drp Unit := do
  let n1 ← orFail (cpllWriteN1 conf.fbDivN1)
  let n2 ← orFail (cpllWriteN2 conf.fbDivN2)
  let refclk ← orFail (gtx2CpllRefclk conf.refclkDiv)
  xilinxXcvrDrpUpdate drpPort CPLL_REFCLK_DIV_M_ADDR
    (CPLL_REFCLK_DIV_M_MASK ||| CPLL_FB_DIV_45_N1_MASK ||| CPLL_FBDIV_N2_MASK) (n1 ||| n2 ||| refclk)

def xilinxXcvrCpllWriteConfig (xcvr : XilinxXcvr) (drpPort : UInt32) (conf : XilinxXcvrCpllConfig) :
    Fallible Drp Unit :=
  if xcvr.type = .S7_GTX2 then xilinxXcvrGtx2CpllWriteConfig drpPort conf
  else xilinxXcvrGth34CpllWriteConfig drpPort conf

def qpllRefclk (refclkDiv : UInt32) : Option UInt32 :=
  if refclkDiv = 1 then some 16 else if refclkDiv = 2 then some 0 else if refclkDiv = 3 then some 1
  else if refclkDiv = 4 then some 2 else none

/-- The divider of a field, and the value `other` for a field without one. -/
def qpllReadRefclk (other field : UInt32) : UInt32 :=
  if field = 16 then 1 else if field = 0 then 2 else if field = 1 then 3 else if field = 2 then 4 else other

def xilinxXcvrGth34QpllReadConfig (drpPort : UInt32) : Fallible Drp XilinxXcvrQpllConfig := do
  let val ← xilinxXcvrDrpRead drpPort (QPLL_REFCLK_DIV 0)
  let refclkDiv := qpllReadRefclk 5 ((val >>> 7) &&& 0x1f)
  let val ← xilinxXcvrDrpRead drpPort (QPLL_FBDIV 0)
  return ⟨refclkDiv, (val &&& 0xff) + 2, 0⟩

/-- The feedback dividers and their fields. -/
def gtx2FbDiv : List (UInt32 × UInt32) :=
  [(16, 32), (20, 48), (32, 96), (40, 128), (64, 224), (66, 320), (80, 288), (100, 368)]

/-- A divider whose field has no meaning stays what it was in `conf`. -/
def xilinxXcvrGtx2QpllReadConfig (drpPort : UInt32) (conf : XilinxXcvrQpllConfig) :
    Fallible Drp XilinxXcvrQpllConfig := do
  let val ← xilinxXcvrDrpRead drpPort QPLL_CFG1_ADDR
  let refclkDiv := qpllReadRefclk conf.refclkDiv ((val &&& QPLL_REFCLK_DIV_M_MASK) >>> QPLL_REFCLK_DIV_M_OFFSET)
  let val ← xilinxXcvrDrpRead drpPort QPLL_FBDIV_N_ADDR
  let fbDiv := (gtx2FbDiv.find? fun n => n.2 = val &&& QPLL_FBDIV_N_MASK).elim conf.fbDiv Prod.fst
  let val ← xilinxXcvrDrpRead drpPort QPLL_CFG0_ADDR
  return ⟨refclkDiv, fbDiv, if val &&& QPLL_CFG0_LOWBAND_MASK ≠ 0 then 0 else 1⟩

def xilinxXcvrQpllReadConfig (xcvr : XilinxXcvr) (drpPort : UInt32) (conf : XilinxXcvrQpllConfig) :
    Fallible Drp XilinxXcvrQpllConfig :=
  if xcvr.type = .S7_GTX2 then xilinxXcvrGtx2QpllReadConfig drpPort conf
  else xilinxXcvrGth34QpllReadConfig drpPort

def xilinxXcvrGth34QpllWriteConfig (drpPort : UInt32) (conf : XilinxXcvrQpllConfig) : Fallible Drp Unit := do
  let fbdiv := conf.fbDiv - 2
  let refclk ← orFail (qpllRefclk conf.refclkDiv)
  xilinxXcvrDrpUpdate drpPort (QPLL_FBDIV 0) 0xff fbdiv
  xilinxXcvrDrpUpdate drpPort (QPLL_REFCLK_DIV 0) 0xf80 (refclk <<< 7)

def xilinxXcvrGtx2QpllWriteConfig (drpPort : UInt32) (conf : XilinxXcvrQpllConfig) : Fallible Drp Unit := do
  let cfg1 ← orFail ((qpllRefclk conf.refclkDiv).map QPLL_REFCLK_DIV_M)
  let fbdiv ← orFail ((gtx2FbDiv.find? fun n => n.1 = conf.fbDiv).map Prod.snd)
  let fbdivRatio := if conf.fbDiv = 66 then 0 else QPLL_FBDIV_RATIO_MASK
  let cfg0 := if conf.band ≠ 0 then 0 else QPLL_CFG0_LOWBAND_MASK
  xilinxXcvrDrpUpdate drpPort QPLL_CFG0_ADDR QPLL_CFG0_LOWBAND_MASK cfg0
  xilinxXcvrDrpUpdate drpPort QPLL_CFG1_ADDR QPLL_REFCLK_DIV_M_MASK cfg1
  xilinxXcvrDrpUpdate drpPort QPLL_FBDIV_N_ADDR QPLL_FBDIV_N_MASK fbdiv
  xilinxXcvrDrpUpdate drpPort QPLL_FBDIV_RATIO_ADDR QPLL_FBDIV_RATIO_MASK fbdivRatio

def xilinxXcvrQpllWriteConfig (xcvr : XilinxXcvr) (drpPort : UInt32) (conf : XilinxXcvrQpllConfig) :
    Fallible Drp Unit :=
  if xcvr.type = .S7_GTX2 then xilinxXcvrGtx2QpllWriteConfig drpPort conf
  else xilinxXcvrGth34QpllWriteConfig drpPort conf

/-- The divider of one direction, the transmitter's with `tx`. -/
def xilinxXcvrGth34ReadOutDiv (drpPort : UInt32) (tx : Bool) : Fallible Drp UInt32 :=
  if tx then do
    let val ← xilinxXcvrDrpRead drpPort 0x7c
    return (1 : UInt32) <<< ((val >>> 8) &&& 7)
  else do
    let val ← xilinxXcvrDrpRead drpPort 0x63
    return (1 : UInt32) <<< (val &&& 7)

/-- The dividers are taken from `ret`, which is `SUCCESS` here. -/
def xilinxXcvrGtx2ReadOutDiv (drpPort : UInt32) (tx : Bool) : Fallible Drp UInt32 := do
  let _ ← xilinxXcvrDrpRead drpPort OUT_DIV_ADDR
  let ret := UInt32.ofInt SUCCESS
  return (1 : UInt32) <<< ((ret >>> (if tx then OUT_DIV_TX_OFFSET else OUT_DIV_RX_OFFSET)) &&& 7)

def xilinxXcvrReadOutDiv (xcvr : XilinxXcvr) (drpPort : UInt32) (tx : Bool) : Fallible Drp UInt32 :=
  if xcvr.type = .S7_GTX2 then xilinxXcvrGtx2ReadOutDiv drpPort tx else xilinxXcvrGth34ReadOutDiv drpPort tx

def xilinxXcvrOutDivToVal (outDiv : UInt32) : UInt32 :=
  if outDiv = 1 then 0 else if outDiv = 2 then 1 else if outDiv = 4 then 2 else if outDiv = 8 then 3 else 4

/-- An update for a divider, which is not wanted if it is negative. -/
def writeOutDiv (drpPort reg mask offset : UInt32) (outDiv : Int32) : Fallible Drp Unit :=
  if outDiv ≥ 0 then
    xilinxXcvrDrpUpdate drpPort reg mask (xilinxXcvrOutDivToVal outDiv.toUInt32 <<< offset)
  else pure ()

def xilinxXcvrGth34WriteOutDiv (drpPort : UInt32) (rxOutDiv txOutDiv : Int32) : Fallible Drp Unit := do
  writeOutDiv drpPort 0x63 0x7 0 rxOutDiv
  writeOutDiv drpPort 0x7c 0x700 8 txOutDiv

def xilinxXcvrGtx2WriteOutDiv (drpPort : UInt32) (rxOutDiv txOutDiv : Int32) : Fallible Drp Unit :=
  let tx : UInt32 × UInt32 := if txOutDiv ≥ 0 then
    (xilinxXcvrOutDivToVal txOutDiv.toUInt32 <<< OUT_DIV_TX_OFFSET, 0x7 <<< OUT_DIV_TX_OFFSET) else (0, 0)
  let rx : UInt32 × UInt32 := if rxOutDiv ≥ 0 then
    (xilinxXcvrOutDivToVal rxOutDiv.toUInt32 <<< OUT_DIV_RX_OFFSET, 0x7 <<< OUT_DIV_RX_OFFSET) else (0, 0)
  xilinxXcvrDrpUpdate drpPort OUT_DIV_ADDR (tx.2 ||| rx.2) (tx.1 ||| rx.1)

def xilinxXcvrWriteOutDiv (xcvr : XilinxXcvr) (drpPort : UInt32) (rxOutDiv txOutDiv : Int32) :
    Fallible Drp Unit :=
  if xcvr.type = .S7_GTX2 then xilinxXcvrGtx2WriteOutDiv drpPort rxOutDiv txOutDiv
  else xilinxXcvrGth34WriteOutDiv drpPort rxOutDiv txOutDiv

def gtx2Cfg1 (xcvr : XilinxXcvr) (laneRate outDiv : UInt32) (lpmEnable : Bool) : Option UInt32 :=
  if xcvr.encoding = ENC_8B10B then
    if outDiv = 1 then some 0x1040 else if outDiv = 2 then some 0x1020 else if outDiv = 4 then some 0x1010
    else if outDiv = 8 then some 0x1008 else none
  else if outDiv = 1 then
    if laneRate > 6600000 then if xcvr.refclkPpm = .PM_1250 then some 0x1020 else some 0x1040
    else if lpmEnable ∨ xcvr.refclkPpm = .PM_1250 then some 0x1020 else some 0x2040
  else if outDiv = 2 then some 0x4020 else if outDiv = 4 then some 0x4010
  else if outDiv = 8 then some 0x4008 else none

/-- What the writes return is not looked at. -/
def xilinxXcvrGtx2ConfigureCdr (xcvr : XilinxXcvr) (drpPort laneRate outDiv : UInt32) (lpmEnable : Bool) :
    Fallible Drp Unit := do
  let cfg3 := if xcvr.refclkPpm = .PM_200 then 0x0000 else 0x8000
  let cfg4 := if laneRate > 6600000 ∧ outDiv = 1 then 0x0B else 0x03
  let cfg1 ← orFail (gtx2Cfg1 xcvr laneRate outDiv lpmEnable)
  Fallible.ignore (xilinxXcvrDrpWrite drpPort RXCDR_CFG0_ADDR 0x0020)
  Fallible.ignore (xilinxXcvrDrpWrite drpPort RXCDR_CFG1_ADDR cfg1)
  Fallible.ignore (xilinxXcvrDrpWrite drpPort RXCDR_CFG2_ADDR 0x23FF)
  Fallible.ignore (xilinxXcvrDrpWrite drpPort RXCDR_CFG3_ADDR cfg3)
  Fallible.ignore (xilinxXcvrDrpUpdate drpPort RXCDR_CFG4_ADDR RXCDR_CFG4_MASK cfg4)

/-- There is nothing to do for the other types. -/
def xilinxXcvrConfigureCdr (xcvr : XilinxXcvr) (drpPort laneRate outDiv : UInt32) (lpmEnable : Bool) :
    Fallible Drp Unit :=
  if xcvr.type = .S7_GTX2 then xilinxXcvrGtx2ConfigureCdr xcvr drpPort laneRate outDiv lpmEnable else pure ()

/-- A divider from 1 to 32, less 1, in a field of the address `reg`. -/
def writeClk25Div (drpPort reg mask offset div : UInt32) : Fallible Drp Unit :=
  if div = 0 ∨ div > 32 then Fallible.fail FAILURE
  else xilinxXcvrDrpUpdate drpPort reg mask ((div - 1) <<< offset)

def xilinxXcvrWriteRxClk25Div (xcvr : XilinxXcvr) (drpPort div : UInt32) : Fallible Drp Unit :=
  if xcvr.type = .S7_GTX2 then writeClk25Div drpPort RX_CLK25_DIV RX_CLK25_DIV_MASK RX_CLK25_DIV_OFFSET div
  else writeClk25Div drpPort 0x6d 0xf8 3 div

def xilinxXcvrWriteTxClk25Div (xcvr : XilinxXcvr) (drpPort div : UInt32) : Fallible Drp Unit :=
  if xcvr.type = .S7_GTX2 then writeClk25Div drpPort TX_CLK25_DIV TX_CLK25_DIV_MASK 0 div
  else writeClk25Div drpPort 0x7a 0xf800 11 div

end NoOS
