import NoOS.Drivers.Ad9361GainTables
import NoOS.Errno
import Mathlib.Data.UInt
import Mathlib.Logic.Function.Basic

/-!
# The gain of the receivers of the AD9361

The driver keeps the number of the table that it has loaded and programs indices of it. An access beyond the end of
a table is a fault. The transfers succeed, the delays are left out.
-/

namespace NoOS

def NO_GAIN_TABLE : UInt32 := 0xFFFFFFFF
def RXGAIN_TBLS_END : UInt32 := 3

def MAX_LMT_INDEX : UInt32 := 40
def MAX_LPF_GAIN : UInt32 := 24
def MAX_DIG_GAIN : UInt32 := 31

def RX_FULL_TBL_IDX_MASK : UInt8 := 0x7F
def RX_LPF_IDX_MASK : UInt8 := 0x1F
def RX_DIGITAL_IDX_MASK : UInt8 := 0x1F
def EXT_LNA_CTRL : UInt8 := 0x80
def TIA_GAIN : UInt8 := 0x20
def RX_GAIN_CTL_MASK : UInt8 := 0x03
def RX_GAIN_CTL_MGC : UInt8 := 0x00
def RX_GAIN_CTL_AGC_FAST_ATK : UInt8 := 0x01
def FAST_ATK_MASK : UInt8 := 0x7
def FAST_ATK_GAIN_LOCKED : UInt8 := 5

inductive TableFault where
  | outOfBounds
deriving DecidableEq

/-- The read of a table. -/
def entry {α : Type} (tbl : List α) (i : ℕ) : Except TableFault α :=
  match tbl[i]? with
  | some e => .ok e
  | none => .error .outOfBounds

/-- `ad9361_from_clk`, which does not leave 64 bits. -/
def fromClk (freq : UInt32) : ℕ := freq.toNat * 2

/-- The manual gain registers of a receiver, `REG_RX1_MANUAL_LMT_FULL_GAIN` and what follows. -/
structure ManualGain where
  lmtFull : UInt8
  lpf : UInt8
  digital : UInt8
deriving DecidableEq

structure Ad9361Rx where
  splitGt : Bool
  elnaInGaintableAllIndexEn : Bool
  digGainEn : Bool
  currentTable : UInt32
  txQuadLpfTiaMatch : Int
  agcConfig1 : UInt8
  rxEnableFilterCtrl : UInt8
  agcUseFullGainTable : Bool
  maxLmtFullGain : UInt8
  gainTableAddress : ℕ
  /-- The table of the device, which is written for both receivers together -/
  gainTable : ℕ → GainWord
  rx1 : ManualGain
  rx2 : ManualGain

structure RfRxGain where
  gainDb : Int32
  fgtLmtIndex : UInt32
  lmtGain : UInt32
  lpfGain : UInt32
  digitalGain : UInt32
  lnaIndex : UInt32
  tiaIndex : UInt32
  mixerIndex : UInt32

/-- What an automatic gain control reports: the state of its fast attack, and the gains it has chosen. -/
structure AgcReport where
  fastAttackState : UInt8
  gain : ManualGain

/-- A masked write, with a value of any size. -/
def writef8 (old mask : UInt8) (val : UInt32) : UInt8 := (old &&& ~~~mask) ||| (val.toUInt8 &&& mask)

namespace Ad9361Rx

def clearState (phy : Ad9361Rx) : Ad9361Rx := { phy with currentTable := NO_GAIN_TABLE }

/-- The first table for the frequency, and the first of all if there is none. -/
def gtTableindex (phy : Ad9361Rx) (freq : ℕ) : ℕ :=
  match adiGtInfo.findIdx? fun info => phy.splitGt = info.splitTable ∧ info.start < freq ∧ freq ≤ info.stop with
  | some i => i
  | none => 0

def gt (phy : Ad9361Rx) : UInt32 := if phy.currentTable = NO_GAIN_TABLE then 0 else phy.currentTable

/-- The loop of `find_table_index` from the index `i` on, with `n` entries to go. -/
def findTableIndexFrom (tbl : List ℤ) (gain : ℤ) : ℕ → ℕ → Except TableFault Int
  | 0, _ => .ok (-EINVAL)
  | n + 1, i => do
    let e ← entry tbl i
    if e ≥ gain then
      let p ← entry tbl (if i > 0 then i - 1 else i)
      if (p - gain).natAbs < (e - gain).natAbs then pure (if i > 0 then i - 1 else i) else pure i
    else findTableIndexFrom tbl gain n (i + 1)

def findTableIndex (phy : Ad9361Rx) (gain : ℤ) : Except TableFault Int := do
  let info ← entry adiGtInfo phy.gt.toNat
  findTableIndexFrom info.absGainTbl gain info.maxIndex 0

/-- The gain of a receiver before its table changes. The table of the new band is taken if there is no other one. -/
def gainBefore (phy : Ad9361Rx) (info : GainTableInfo) (manual : ManualGain) : Except TableFault ℤ :=
  let setGain := (manual.lmtFull &&& RX_FULL_TBL_IDX_MASK).toNat
  if phy.currentTable ≠ NO_GAIN_TABLE then do
    let old ← entry adiGtInfo phy.currentTable.toNat
    entry old.absGainTbl setGain
  else entry info.absGainTbl (if setGain > info.maxIndex - 1 then info.maxIndex - 1 else setGain)

/-- One word for the device. -/
def loadWord (tab : List GainWord) (lna lpfTiaMask : UInt8) (phy : Ad9361Rx) (i : ℕ) : Except TableFault Ad9361Rx := do
  let word ← entry tab i
  pure { phy with
    gainTableAddress := i
    gainTable := Function.update phy.gainTable i (word.1 ||| lna, word.2.1, word.2.2)
    txQuadLpfTiaMatch := if word.2.1 &&& lpfTiaMask = 0x20 then i else phy.txQuadLpfTiaMatch }

/-- `ad9361_load_gt` for both receivers. -/
def loadGt (phy : Ad9361Rx) (freq : ℕ) : Except TableFault Ad9361Rx :=
  let band := phy.gtTableindex freq
  if phy.currentTable = UInt32.ofNat band then .ok phy
  else do
    let info ← entry adiGtInfo band
    let phy := { phy with
      agcUseFullGainTable := !phy.splitGt
      maxLmtFullGain := UInt8.ofNat (info.maxIndex - 1) }
    let rx1Gain ← phy.gainBefore info phy.rx1
    let rx2Gain ← phy.gainBefore info phy.rx2
    let lna := if phy.elnaInGaintableAllIndexEn then EXT_LNA_CTRL else 0
    let lpfTiaMask := if phy.splitGt then 0x20 else 0x3F
    let phy ← (List.range info.maxIndex).foldlM (loadWord info.tab lna lpfTiaMask)
      { phy with txQuadLpfTiaMatch := -EINVAL }
    let phy := { phy with currentTable := UInt32.ofNat band }
    let ret ← phy.findTableIndex rx1Gain
    let ret := if ret < 0 then (info.maxIndex : Int) - 1 else ret
    let phy := { phy with rx1.lmtFull := writef8 phy.rx1.lmtFull RX_FULL_TBL_IDX_MASK (UInt32.ofInt ret) }
    let ret ← phy.findTableIndex rx2Gain
    let ret := if ret < 0 then (info.maxIndex : Int) - 1 else ret
    pure { phy with rx2.lmtFull := (UInt32.ofInt ret).toUInt8 }

/-- The registers of the receiver `rxId`. -/
def manual (phy : Ad9361Rx) (rxId : UInt32) : ManualGain := if rxId = 1 then phy.rx1 else phy.rx2

def setManual (phy : Ad9361Rx) (rxId : UInt32) (manual : ManualGain) : Ad9361Rx :=
  if rxId = 1 then { phy with rx1 := manual } else { phy with rx2 := manual }

/-- The mode of the gain control of a receiver in `REG_AGC_CONFIG_1`. -/
def gainCtl (phy : Ad9361Rx) (rxId : UInt32) : UInt8 :=
  (phy.agcConfig1 >>> (if rxId = 1 then 0 else 2)) &&& RX_GAIN_CTL_MASK

/-- The gains that the device has in `REG_GAIN_RX1` and what follows: the manual ones, or the ones of the automatic
control, which stays below the index in `REG_MAX_LMT_FULL_GAIN`. -/
def deviceGain (phy : Ad9361Rx) (rxId : UInt32) (report : AgcReport) : ManualGain :=
  if phy.gainCtl rxId = RX_GAIN_CTL_MGC then phy.manual rxId
  else if report.gain.lmtFull ≤ phy.maxLmtFullGain then report.gain
  else { report.gain with lmtFull := phy.maxLmtFullGain }

/-- The gain of LNA, mixer and TIA with the steps of a split table. -/
def lmtGain (gt : UInt32) (lnaIndex mixerIndex tiaIndex : UInt8) : Except TableFault ℤ := do
  let lna ← entry lnaTable (gt - RXGAIN_TBLS_END).toNat
  let lna ← entry lna lnaIndex.toNat
  let mixer ← entry mixerTable (gt - RXGAIN_TBLS_END).toNat
  let mixer ← entry mixer mixerIndex.toNat
  let tia ← entry tiaTable tiaIndex.toNat
  pure (lna + mixer + tia)

def getSplitTableGain (phy : Ad9361Rx) (device : ManualGain) (rxGain : RfRxGain) : Except TableFault RfRxGain := do
  let index := device.lmtFull &&& RX_FULL_TBL_IDX_MASK
  let word := phy.gainTable index.toNat
  let lnaIndex := (word.1 >>> 5) &&& 0x3
  let mixerIndex := word.1 &&& 0x1F
  let tiaIndex := (word.2.1 &&& TIA_GAIN) >>> 5
  let gain ← lmtGain phy.gt lnaIndex mixerIndex tiaIndex
  let lmtGain := UInt32.ofInt gain
  let lpfGain := (device.lpf &&& RX_LPF_IDX_MASK).toUInt32
  let digitalGain := (device.digital &&& RX_DIGITAL_IDX_MASK).toUInt32
  pure { rxGain with
    gainDb := (lmtGain + lpfGain + digitalGain).toInt32
    fgtLmtIndex := index.toUInt32
    lmtGain := lmtGain
    lpfGain := lpfGain
    digitalGain := digitalGain
    lnaIndex := lnaIndex.toUInt32
    tiaIndex := tiaIndex.toUInt32
    mixerIndex := mixerIndex.toUInt32 }

def getFullTableGain (phy : Ad9361Rx) (device : ManualGain) (rxGain : RfRxGain) : Except TableFault RfRxGain := do
  let index := device.lmtFull &&& RX_FULL_TBL_IDX_MASK
  let info ← entry adiGtInfo phy.gt.toNat
  let gain ← entry info.absGainTbl index.toNat
  pure { rxGain with
    gainDb := Int32.ofInt gain
    fgtLmtIndex := index.toUInt32
    digitalGain := (device.digital &&& RX_DIGITAL_IDX_MASK).toUInt32 }

/-- The address of the table of the device is restored after it was used. -/
def getRxGain (phy : Ad9361Rx) (rxId : UInt32) (report : AgcReport) (rxGain : RfRxGain) :
    Except TableFault (Int × RfRxGain) :=
  if rxId ≠ 1 ∧ rxId ≠ 2 then .ok (-EINVAL, rxGain)
  else if phy.rxEnableFilterCtrl &&& (if rxId = 1 then 0x40 else 0x80) = 0 then .ok (-EAGAIN, rxGain)
  else if phy.gainCtl rxId = RX_GAIN_CTL_AGC_FAST_ATK ∧
      (report.fastAttackState >>> (if rxId = 1 then 0 else 4)) &&& FAST_ATK_MASK ≠ FAST_ATK_GAIN_LOCKED then
    .ok (-EAGAIN, rxGain)
  else do
    let device := phy.deviceGain rxId report
    let rxGain ← if phy.splitGt then phy.getSplitTableGain device rxGain else phy.getFullTableGain device rxGain
    pure (0, rxGain)

/-- The ends of the table, which are reported with a gain that is not in it. -/
def invalidGain (phy : Ad9361Rx) : Except TableFault (ℤ × ℤ) := do
  let info ← entry adiGtInfo phy.gt.toNat
  let first ← entry info.absGainTbl 0
  let last ← entry info.absGainTbl (info.maxIndex - 1)
  pure (first, last)

def setSplitTableGain (phy : Ad9361Rx) (rxId : UInt32) (rxGain : RfRxGain) : Except TableFault (Int × Ad9361Rx) :=
  if rxGain.fgtLmtIndex > MAX_LMT_INDEX ∨ rxGain.lpfGain > MAX_LPF_GAIN ∨ rxGain.digitalGain > MAX_DIG_GAIN then
    .ok (-EINVAL, phy)
  else do
    let rc ← phy.findTableIndex rxGain.gainDb.toInt
    if rc < 0 then
      let _ ← phy.invalidGain
      pure (rc, phy)
    else
      let old := phy.manual rxId
      pure (0, phy.setManual rxId
        { lmtFull := writef8 old.lmtFull RX_FULL_TBL_IDX_MASK (UInt32.ofInt rc)
          lpf := writef8 old.lpf RX_LPF_IDX_MASK rxGain.lpfGain
          digital := if phy.digGainEn then writef8 old.digital RX_DIGITAL_IDX_MASK rxGain.digitalGain else old.digital })

def setFullTableGain (phy : Ad9361Rx) (rxId : UInt32) (rxGain : RfRxGain) : Except TableFault (Int × Ad9361Rx) := do
  let rc ← phy.findTableIndex rxGain.gainDb.toInt
  if rc < 0 then
    let _ ← phy.invalidGain
    pure (rc, phy)
  else
    let old := phy.manual rxId
    pure (0, phy.setManual rxId { old with lmtFull := writef8 old.lmtFull RX_FULL_TBL_IDX_MASK (UInt32.ofInt rc) })

def setRxGain (phy : Ad9361Rx) (rxId : UInt32) (rxGain : RfRxGain) : Except TableFault (Int × Ad9361Rx) :=
  if rxId ≠ 1 ∧ rxId ≠ 2 then .ok (-EINVAL, phy)
  else if phy.gainCtl rxId ≠ RX_GAIN_CTL_MGC then .ok (-EOPNOTSUPP, phy)
  else if phy.splitGt then phy.setSplitTableGain rxId rxGain
  else phy.setFullTableGain rxId rxGain

end Ad9361Rx

end NoOS
