import NoOS.Errno
import NoOS.Lib.Loops
import NoOS.Lib.RegisterFile
import NoOS.Util.Util

/-!
# The transceivers of `altera_adxcvr.c`

The core, the ATX PLL and the lanes have registers of their own. Status registers are polled, and what they say
is printed or ignored.
-/

namespace NoOS

def ADXCVR_REG_RESETN : ℕ := 0x0010
def ADXCVR_RESETN : UInt32 := 0x1
def ADXCVR_STATUS : UInt32 := 0x1
def XCVR_ARBITRATION_GET_AVMM : UInt32 := 0x02
def XCVR_ARBITRATION_RELEASE_AVMM_CALIB : UInt32 := 0x01
def XCVR_ARBITRATION_RELEASE_AVMM : UInt32 := 0x03
def XCVR_REG_CALIB_ATX_PLL_EN : ℕ := 0x100
def XCVR_CALIB_ATX_PLL_EN : UInt32 := 0x01
def XCVR_CAPAB_ATX_PLL_CAL_BSY_MASK : UInt32 := 0x02
def XCVR_REG_CALIB_PMA_EN : ℕ := 0x100
def XCVR_CALIB_TX_TERM_VOD_EN : UInt32 := 0x20
def XCVR_CALIB_CMU_CDR_PLL_EN : UInt32 := 0x02
def XCVR_REG_CAPAB_PMA : ℕ := 0x281
def XCVR_CAPAB_RX_CAL_BUSY_EN : UInt32 := 0x20
def XCVR_CAPAB_RX_CAL_BUSY_MASK : UInt32 := 0x02
def XCVR_CAPAB_TX_CAL_BUSY_EN : UInt32 := 0x10
def XCVR_CAPAB_TX_CAL_BUSY_MASK : UInt32 := 0x01
def XCVR_REG_RATE_SWITCH_FLAG : ℕ := 0x166
def XCVR_RATE_SWITCH_FLAG_MASK : UInt32 := 0x80

inductive AlteraBlock where
  | core
  | atxPll
  | adxcfg (lane : ℕ)
  deriving DecidableEq

/-- The driver structure and the registers. Without a lane, `adxcvr_init` would leave `adxcfg_base[0]` undefined. -/
structure AlteraAdxcvr where
  isTransmit : Bool
  lanesPerLink : ℕ
  lanes_pos : 0 < lanesPerLink
  resetCounter : UInt32
  laneRateKhz : UInt32
  parentRateKhz : UInt32
  initialRecalc : Bool
  regs : AlteraBlock × ℕ → UInt32
  /-- What the status registers read, from the first poll on -/
  status : ℕ → UInt32
  polls : ℕ

namespace AlteraAdxcvr

def read (x : AlteraAdxcvr) (b : AlteraBlock) (reg : ℕ) : UInt32 := x.regs (b, reg)

def write (x : AlteraAdxcvr) (b : AlteraBlock) (reg : ℕ) (val : UInt32) : AlteraAdxcvr :=
  { x with regs := Function.update x.regs (b, reg) val }

/-- `atx_pll_update` and `adxcfg_update` -/
def update (x : AlteraAdxcvr) (b : AlteraBlock) (reg : ℕ) (mask val : UInt32) : AlteraAdxcvr :=
  { x with regs := RegisterFile.update x.regs (b, reg) mask val }

/-- Reads of a status until it is as wanted, or there are none left. -/
def poll (x : AlteraAdxcvr) (done : UInt32 → Bool) : ℕ → Bool × AlteraAdxcvr
  | 0 => (false, x)
  | n + 1 =>
    let y := { x with polls := x.polls + 1 }
    if done (x.status x.polls) then (true, y) else poll y done n

def acquireArbitration (x : AlteraAdxcvr) (b : AlteraBlock) : AlteraAdxcvr :=
  ((x.write b 0 XCVR_ARBITRATION_GET_AVMM).poll (fun val => val &&& 4 = 0) 10001).2

def releaseArbitration (x : AlteraAdxcvr) (b : AlteraBlock) (calibrate : Bool) : AlteraAdxcvr :=
  x.write b 0 (if calibrate then XCVR_ARBITRATION_RELEASE_AVMM_CALIB else XCVR_ARBITRATION_RELEASE_AVMM)

def atxPllCalibrationCheck (x : AlteraAdxcvr) : Int × AlteraAdxcvr :=
  let polled := x.poll (fun val => val &&& XCVR_CAPAB_ATX_PLL_CAL_BSY_MASK = 0) 11
  (if polled.1 then 0 else 1, polled.2)

def adxcfgCalibrationCheck (x : AlteraAdxcvr) (tx : Bool) : Int × AlteraAdxcvr :=
  let mask := if tx then XCVR_CAPAB_TX_CAL_BUSY_MASK else XCVR_CAPAB_RX_CAL_BUSY_MASK
  let polled := x.poll (fun val => val &&& mask = 0) 1001
  (if polled.1 then 0 else 1, polled.2)

/-- A pass of `xcvr_calib_tx`, whose errors nobody looks at. -/
def calibTxLane (x : AlteraAdxcvr) (lane : ℕ) : AlteraAdxcvr :=
  let b := AlteraBlock.adxcfg lane
  let x := x.acquireArbitration b
  let x := x.update b XCVR_REG_CALIB_PMA_EN 0x20 XCVR_CALIB_TX_TERM_VOD_EN
  let x := x.update b XCVR_REG_CAPAB_PMA (0x20 ||| 0x10) (0x00 ||| XCVR_CAPAB_TX_CAL_BUSY_EN)
  let x := x.releaseArbitration b true
  (x.adxcfgCalibrationCheck true).2

def calibTx (x : AlteraAdxcvr) : AlteraAdxcvr := Passes.run calibTxLane x.lanesPerLink x

def preLaneRateChange (x : AlteraAdxcvr) : AlteraAdxcvr :=
  let y := { x with resetCounter := x.resetCounter + 1 }
  if x.resetCounter = 0 then y.write .core ADXCVR_REG_RESETN 0 else y

def finalizeLaneRateChange (x : AlteraAdxcvr) : AlteraAdxcvr :=
  let x := { x with resetCounter := x.resetCounter - 1 }
  if x.resetCounter ≠ 0 then x
  else
    let (found, x) := (x.write .core ADXCVR_REG_RESETN ADXCVR_RESETN).poll (fun status => status = ADXCVR_STATUS) 1001
    -- the status of the lanes is read to be printed
    if found then x else { x with polls := x.polls + 1 }

def postLaneRateChange (x : AlteraAdxcvr) (laneRateKhz : UInt32) : AlteraAdxcvr :=
  { x with laneRateKhz := laneRateKhz }.finalizeLaneRateChange

end AlteraAdxcvr

/-- `abs` of an unsigned difference, which is undefined for the least `int`. -/
def absInt (x : UInt32) : Option ℕ := if x = 0x80000000 then none else some (cAbs x)

/-- The loops over the candidates, with the output of the best one so far. An exact one ends them. -/
def closestSearch {α : Type} (out : α → UInt32) (goal : UInt32) : UInt32 → Option α → List α → Option (Option α)
  | _, best, [] => some best
  | bestOut, best, c :: rest => do
    let diff ← absInt (out c - goal)
    let bestDiff ← absInt (bestOut - goal)
    if diff < bestDiff then
      if out c = goal then some (some c) else closestSearch out goal (out c) (some c) rest
    else closestSearch out goal bestOut best rest

/-- `DIV_ROUND_CLOSEST_ULL` of a product of words, unless it divides by zero. -/
def roundedQuotient (num den : UInt32) : Option UInt64 :=
  if den = 0 then none else some (divRoundClosestUll num.toUInt64 den)

/-- `n` and its register -/
def encodeN (n : UInt32) : UInt32 := if n = 1 then 0 else if n = 2 then 1 else if n = 4 then 2 else 3

end NoOS
