import Mathlib.Data.UInt
import NoOS.Errno

/-!
# The state machine of the AD9361

`ad9361_ensm_set_state` asks the device for a state and keeps the state that it has asked for. The delays,
one of them for a number of ADC clocks, are left out.
-/

namespace NoOS

def REG_CLOCK_ENABLE : UInt32 := 0x009
def REG_ENSM_CONFIG_1 : UInt32 := 0x014
def REG_ENSM_CONFIG_2 : UInt32 := 0x015
def REG_STATE : UInt32 := 0x017
def REG_SMALL_LMT_OVERLOAD_THRESH : UInt32 := 0x107
def REG_RX_PFD_CONFIG : UInt32 := 0x230
def REG_RX_CP_OVERRANGE_VCO_LOCK : UInt32 := 0x247
def REG_TX_PFD_CONFIG : UInt32 := 0x270
def REG_TX_CP_OVERRANGE_VCO_LOCK : UInt32 := 0x287

def XO_BYPASS : UInt32 := 0x10
def DIGITAL_POWER_UP : UInt32 := 0x4
def CLOCK_ENABLE_DFLT : UInt32 := 0x2
def BBPLL_ENABLE : UInt32 := 0x1
def ENABLE_RX_DATA_PORT_FOR_CAL : UInt32 := 0x80
def FORCE_RX_ON : UInt32 := 0x40
def FORCE_TX_ON : UInt32 := 0x20
def ENABLE_ENSM_PIN_CTRL : UInt32 := 0x10
def LEVEL_MODE : UInt32 := 0x8
def FORCE_ALERT_STATE : UInt32 := 0x4
def TO_ALERT : UInt32 := 0x1
def TXNRX_SPI_CTRL : UInt32 := 0x10
def BYPASS_LD_SYNTH : UInt32 := 0x1
def VCO_LOCK : UInt32 := 0x2
def SYNTH_VCO_POWER_DOWN : UInt8 := 0x2
def FORCE_PD_RESET_RX2 : UInt32 := 0x80
def FORCE_PD_RESET_RX1 : UInt32 := 0x40
def RF_GAIN_MGC : UInt8 := 0

def ENSM_STATE_SLEEP_WAIT : UInt8 := 0x0
def ENSM_STATE_ALERT : UInt8 := 0x5
def ENSM_STATE_TX : UInt8 := 0x6
def ENSM_STATE_RX : UInt8 := 0x8
def ENSM_STATE_FDD : UInt8 := 0xA
def ENSM_STATE_SLEEP : UInt8 := 0x80

/-- What the transfers of a call return: the code of a write, and the byte or the code of a read. They may depend
on the register and on the number of the transfer. -/
structure SpiBus where
  write : UInt32 → ℕ → Int
  read : UInt32 → ℕ → Except Int UInt8

structure SpiLog where
  transfers : ℕ
  /-- The registers and the bytes of the writes without an error, the last one first -/
  writes : List (UInt32 × UInt8)

namespace SpiLog

def write (bus : SpiBus) (reg val : UInt32) (spi : SpiLog) : Int × SpiLog :=
  let ret := bus.write reg spi.transfers
  if ret < 0 then (ret, { spi with transfers := spi.transfers + 1 })
  else (0, ⟨spi.transfers + 1, (reg, val.toUInt8) :: spi.writes⟩)

def read (bus : SpiBus) (reg : UInt32) (spi : SpiLog) : Except Int UInt8 × SpiLog :=
  (bus.read reg spi.transfers, { spi with transfers := spi.transfers + 1 })

/-- The bits of a mask whose lowest bit is `offset`. -/
def readf (bus : SpiBus) (reg mask offset : UInt32) (spi : SpiLog) : Except Int UInt32 × SpiLog :=
  let (buf, spi) := spi.read bus reg
  (buf.map fun buf => (buf.toUInt32 &&& mask) >>> offset, spi)

def writef (bus : SpiBus) (reg mask offset val : UInt32) (spi : SpiLog) : Int × SpiLog :=
  match spi.read bus reg with
  | (.error ret, spi) => (ret, spi)
  | (.ok buf, spi) => spi.write bus reg ((buf.toUInt32 &&& ~~~mask) ||| ((val <<< offset) &&& mask))

/-- The loop of `ad9361_check_cal_done` with `n` reads. -/
def checkCalDoneFrom (bus : SpiBus) (reg mask offset doneState : UInt32) : ℕ → SpiLog → Int × SpiLog
  | 0, spi => (-ETIMEDOUT, spi)
  | n + 1, spi =>
    let (state, spi) := spi.readf bus reg mask offset
    if state = .ok doneState then (0, spi) else checkCalDoneFrom bus reg mask offset doneState n spi

def checkCalDone (bus : SpiBus) (reg mask offset doneState : UInt32) (spi : SpiLog) : Int × SpiLog :=
  checkCalDoneFrom bus reg mask offset doneState 20001 spi

def trxVcoCalControl (bus : SpiBus) (tx enable : Bool) (spi : SpiLog) : Int × SpiLog :=
  spi.writef bus (if tx then REG_TX_PFD_CONFIG else REG_RX_PFD_CONFIG) BYPASS_LD_SYNTH 0 (if enable then 0 else 1)

end SpiLog

structure Ad9361 where
  fdd : Bool
  ensmPinPulseMode : Bool
  useExtclk : Bool
  tddUseDualSynth : Bool
  txmonTddEn : Bool
  cachedSynthPd : UInt8 × UInt8
  agcMode : UInt8 × UInt8
  currEnsmState : UInt8
  spi : SpiLog

namespace Ad9361

/-- The enabled clocks in the sleeping device and the move to ALERT. -/
def wakeUp (phy : Ad9361) (bus : SpiBus) : Ad9361 :=
  let spi := phy.spi
  let spi := (spi.write bus REG_CLOCK_ENABLE
    (DIGITAL_POWER_UP ||| CLOCK_ENABLE_DFLT ||| BBPLL_ENABLE ||| (if phy.useExtclk then XO_BYPASS else 0))).2
  let spi := (spi.write bus REG_ENSM_CONFIG_1 (TO_ALERT ||| FORCE_ALERT_STATE)).2
  let spi := (spi.trxVcoCalControl bus false true).2
  { phy with spi := (spi.trxVcoCalControl bus true true).2 }

def sleep (phy : Ad9361) (bus : SpiBus) : Ad9361 :=
  let spi := phy.spi
  let spi := (spi.trxVcoCalControl bus false false).2
  let spi := (spi.trxVcoCalControl bus true false).2
  let spi := (spi.write bus REG_ENSM_CONFIG_1 0).2
  let spi := (spi.write bus REG_ENSM_CONFIG_1 (if phy.fdd then FORCE_TX_ON else FORCE_RX_ON)).2
  let spi := (spi.write bus REG_ENSM_CONFIG_1 0).2
  let spi := (spi.write bus REG_CLOCK_ENABLE (if phy.useExtclk then XO_BYPASS else 0)).2
  { phy with spi := spi, currEnsmState := ENSM_STATE_SLEEP }

/-- The detour through ALERT. -/
def toAlert (phy : Ad9361) (bus : SpiBus) (val : UInt32) : Ad9361 :=
  let val2 := val &&& ~~~(FORCE_TX_ON ||| FORCE_RX_ON)
  let val2 := val2 ||| TO_ALERT ||| FORCE_ALERT_STATE
  let spi := (phy.spi.write bus REG_ENSM_CONFIG_1 val2).2
  { phy with spi := (spi.checkCalDone bus REG_STATE 0xF 0 ENSM_STATE_ALERT.toUInt32).2 }

/-- The synthesizer of the direction, which has to lock if it is powered. -/
def selectSynth (phy : Ad9361) (bus : SpiBus) (ensmState : UInt8) (pinctrl : Bool) : Ad9361 :=
  if phy.fdd = false ∧ pinctrl = false ∧ phy.tddUseDualSynth = false ∧
      (ensmState = ENSM_STATE_TX ∨ ensmState = ENSM_STATE_RX) then
    let tx := decide (ensmState = ENSM_STATE_TX)
    let reg := if tx then REG_TX_CP_OVERRANGE_VCO_LOCK else REG_RX_CP_OVERRANGE_VCO_LOCK
    let check := (if tx then phy.cachedSynthPd.1 else phy.cachedSynthPd.2) &&& SYNTH_VCO_POWER_DOWN = 0
    let spi := (phy.spi.writef bus REG_ENSM_CONFIG_2 TXNRX_SPI_CTRL 4 (if tx then 1 else 0)).2
    { phy with spi := if check then (spi.checkCalDone bus reg VCO_LOCK 1 1).2 else spi }
  else phy

/-- The reset of the peak detectors of the receivers with manual gain. -/
def resetPeakDetectors (phy : Ad9361) (bus : SpiBus) (val : UInt32) : Ad9361 :=
  if val &&& FORCE_RX_ON ≠ 0 ∧ (phy.agcMode.1 = RF_GAIN_MGC ∨ phy.agcMode.2 = RF_GAIN_MGC) then
    let (buf, spi) := phy.spi.read bus REG_SMALL_LMT_OVERLOAD_THRESH
    let tmp : UInt32 := match buf with | .ok byte => byte.toUInt32 | .error ret => UInt32.ofInt ret
    let spi := (spi.write bus REG_SMALL_LMT_OVERLOAD_THRESH ((tmp &&& 0x3F) |||
      (if phy.agcMode.1 = RF_GAIN_MGC then FORCE_PD_RESET_RX1 else 0) |||
      (if phy.agcMode.2 = RF_GAIN_MGC then FORCE_PD_RESET_RX2 else 0))).2
    { phy with spi := (spi.write bus REG_SMALL_LMT_OVERLOAD_THRESH (tmp &&& 0x3F)).2 }
  else phy

/-- What follows the `switch`, for a word and a code. -/
def transition (phy : Ad9361) (bus : SpiBus) (ensmState : UInt8) (pinctrl : Bool) (val : UInt32) (rc : Int) :
    Int × Ad9361 :=
  if rc ≠ 0 ∧ ¬(phy.currEnsmState ≠ ENSM_STATE_ALERT ∧ val &&& (FORCE_RX_ON ||| FORCE_TX_ON) ≠ 0) then (rc, phy)
  else
    let phy := if rc ≠ 0 then phy.toAlert bus val else phy
    let phy := phy.selectSynth bus ensmState pinctrl
    let (rc, spi) := phy.spi.write bus REG_ENSM_CONFIG_1 val
    let phy := { phy with spi := spi }.resetPeakDetectors bus val
    (rc, { phy with currEnsmState := ensmState })

/-- The word for `REG_ENSM_CONFIG_1` without the forced state. -/
def ensmWord (phy : Ad9361) (pinctrl : Bool) : UInt32 :=
  (if phy.ensmPinPulseMode then 0 else LEVEL_MODE) ||| (if pinctrl then ENABLE_ENSM_PIN_CTRL else 0) |||
    (if phy.txmonTddEn then ENABLE_RX_DATA_PORT_FOR_CAL else 0) ||| TO_ALERT

/-- The code of TX and RX before any detour. -/
def tddCode (phy : Ad9361) : Int :=
  if phy.fdd then -EINVAL else if phy.currEnsmState ≠ ENSM_STATE_ALERT then -EINVAL else 0

def ensmSetState (phy : Ad9361) (bus : SpiBus) (ensmState : UInt8) (pinctrl : Bool) : Int × Ad9361 :=
  let phy := if phy.currEnsmState = ENSM_STATE_SLEEP then phy.wakeUp bus else phy
  let val := phy.ensmWord pinctrl
  if ensmState = ENSM_STATE_TX then phy.transition bus ensmState pinctrl (val ||| FORCE_TX_ON) phy.tddCode
  else if ensmState = ENSM_STATE_RX then phy.transition bus ensmState pinctrl (val ||| FORCE_RX_ON) phy.tddCode
  else if ensmState = ENSM_STATE_FDD then
    phy.transition bus ensmState pinctrl (val ||| FORCE_TX_ON) (if phy.fdd then 0 else -EINVAL)
  else if ensmState = ENSM_STATE_ALERT then
    let val := val &&& ~~~(FORCE_TX_ON ||| FORCE_RX_ON)
    phy.transition bus ensmState pinctrl (val ||| TO_ALERT ||| FORCE_ALERT_STATE) 0
  else if ensmState = ENSM_STATE_SLEEP_WAIT then phy.transition bus ensmState pinctrl val 0
  else if ensmState = ENSM_STATE_SLEEP then (0, phy.sleep bus)
  else (0, phy)

end Ad9361

end NoOS
