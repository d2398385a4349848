import Mathlib.Data.UInt
import NoOS.Errno
import NoOS.Lib.Loops

/-!
# The converters of `axi_adc_core.c`

The driver keeps the mask of the active channels, which `iio_axi_adc.c` updates before a transfer. The registers
are read and written without errors; what the monitors report is up to the core.
-/

namespace NoOS

/-- The registers of a core. -/
abbrev AdcRegs := UInt32 → UInt32

structure AxiAdc where
  numChannels : UInt8
  mask : UInt32
  regs : AdcRegs

def AXI_ADC_REG_RSTN : UInt32 := 0x0040
def AXI_ADC_MMCM_RSTN : UInt32 := 0x2
def AXI_ADC_RSTN : UInt32 := 0x1
def AXI_ADC_REG_CHAN_CNTRL (c : UInt32) : UInt32 := 0x0400 + c * 0x40
def AXI_ADC_FORMAT_SIGNEXT : UInt32 := 0x40
def AXI_ADC_FORMAT_ENABLE : UInt32 := 0x10
def AXI_ADC_ENABLE : UInt32 := 0x1
def AXI_ADC_REG_CHAN_STATUS (c : UInt32) : UInt32 := 0x0404 + c * 0x40
def AXI_ADC_REG_CHAN_CNTRL_3 (c : UInt32) : UInt32 := 0x0418 + c * 0x40
def AXI_ADC_ADC_PN_SEL (x : UInt32) : UInt32 := (x &&& 0xF) <<< 16
def AXI_ADC_REG_DELAY (l : UInt32) : UInt32 := 0x0800 + l * 0x4

def axiAdcSetPnsel (regs : AdcRegs) (chan sel : UInt32) : AdcRegs :=
  let regData := regs (AXI_ADC_REG_CHAN_CNTRL_3 chan)
  let regData := regData &&& ~~~AXI_ADC_ADC_PN_SEL (~~~0)
  let regData := regData ||| AXI_ADC_ADC_PN_SEL sel
  Function.update regs (AXI_ADC_REG_CHAN_CNTRL_3 chan) regData

/-- A pass of the first loop of `axi_adc_pn_mon`. -/
def pnMonEnable (sel : UInt32) (regs : AdcRegs) (ch : ℕ) : AdcRegs :=
  let ch := UInt32.ofNat ch
  let regData := regs (AXI_ADC_REG_CHAN_CNTRL ch) ||| AXI_ADC_ENABLE
  axiAdcSetPnsel (Function.update regs (AXI_ADC_REG_CHAN_CNTRL ch) regData) ch sel

def pnMonClear (regs : AdcRegs) (ch : ℕ) : AdcRegs :=
  Function.update regs (AXI_ADC_REG_CHAN_STATUS (UInt32.ofNat ch)) 0xff

/-- The return code depends on the `status` that the core reports of the channels. -/
def axiAdcPnMon (adc : AxiAdc) (sel : UInt32) (status : ℕ → UInt32) : Int × AxiAdc :=
  let n := adc.numChannels.toNat
  let regs := Passes.run pnMonClear n (Passes.run (pnMonEnable sel) n adc.regs)
  (if ∀ ch < n, status ch = 0 then SUCCESS else FAILURE, { adc with regs := regs })

def axiAdcIdelaySet (delay : UInt32) (regs : AdcRegs) (lane : ℕ) : AdcRegs :=
  Function.update regs (AXI_ADC_REG_DELAY (UInt32.ofNat lane)) delay

def axiAdcDelaySet (adc : AxiAdc) (noOfLanes delay : UInt32) : AxiAdc :=
  let pcoreVersion := adc.regs 0x0 >>> 16
  if pcoreVersion < 9 then adc
  else { adc with regs := Passes.run (axiAdcIdelaySet delay) noOfLanes.toNat adc.regs }

/-- A pass of the loop of `axi_adc_delay_calibrate` over the delays, with the monitors that failed so far. -/
def calibratePass (noOfLanes sel : UInt32) (status : ℕ → ℕ → UInt32) (s : AxiAdc × List Bool) (delay : ℕ) :
    AxiAdc × List Bool :=
  let adc := axiAdcDelaySet s.1 noOfLanes (UInt32.ofNat delay)
  let (ret, adc) := axiAdcPnMon adc sel (status delay)
  (adc, s.2 ++ [decide (ret ≠ 0)])

/-- The intervals of delays without errors. -/
structure DelayScan where
  startValidDelay : ℕ
  startInvalidDelay : ℕ
  interval : ℕ
  validRange : List ℕ
  invalidRange : List ℕ
  cntValid : List ℕ

/-- A write to one of the arrays, `none` beyond its end. -/
def arraySet (l : List ℕ) (i val : ℕ) : Option (List ℕ) := if i < l.length then some (l.set i val) else none

/-- A delay without an error. -/
def DelayScan.valid (s : DelayScan) (val : ℕ) : Option DelayScan :=
  let startValidDelay := if s.startValidDelay = 32 then val else s.startValidDelay
  let restart := startValidDelay ≠ 32 ∧ s.startInvalidDelay ≠ 32
  (arraySet s.cntValid s.interval (s.cntValid.getD s.interval 0 + 1)).map fun cntValid =>
    { s with
      startValidDelay := if restart then 32 else startValidDelay
      startInvalidDelay := if restart then 32 else s.startInvalidDelay
      cntValid := cntValid }

/-- A delay with an error, or the last one. -/
def DelayScan.ends (s : DelayScan) (val : ℕ) : Option DelayScan :=
  let startInvalidDelay := if s.startInvalidDelay = 32 then val else s.startInvalidDelay
  if s.startValidDelay ≠ 32 ∧ startInvalidDelay ≠ 32 then do
    let validRange ← arraySet s.validRange s.interval s.startValidDelay
    let invalidRange ← arraySet s.invalidRange s.interval startInvalidDelay
    return ⟨32, 32, s.interval + 1, validRange, invalidRange, s.cntValid⟩
  else some { s with startInvalidDelay := startInvalidDelay }

def DelayScan.step (errField : List Bool) (s : DelayScan) (val : ℕ) : Option DelayScan := do
  let s ← if errField.getD val false then some s else s.valid val
  if errField.getD val false ∨ val = 32 - 1 then s.ends val else some s

/-- The longest interval. -/
def maxInterval (cntValid : List ℕ) : ℕ :=
  ((List.range 5).foldl (fun (s : ℕ × ℕ) val =>
    if cntValid.getD val 0 > s.1 then (cntValid.getD val 0, val) else s) (0, 0)).2

/-- The middle of the longest interval, `none` if there are more of them than the arrays hold. -/
def calibratedDelay (errField : List Bool) : Option UInt32 :=
  ((List.range 32).foldlM (DelayScan.step errField)
    ⟨32, 32, 0, List.replicate 5 0, List.replicate 5 0, List.replicate 5 0⟩).map fun s =>
    let i := maxInterval s.cntValid
    UInt32.ofNat ((s.validRange.getD i 0 + s.invalidRange.getD i 0 - 1) / 2)

/-- The return code and the core, `none` after an access beyond an array. -/
def axiAdcDelayCalibrate (adc : AxiAdc) (noOfLanes sel : UInt32) (status : ℕ → ℕ → UInt32) : Option (Int × AxiAdc) :=
  let (adc, errField) := Passes.run (calibratePass noOfLanes sel status) 32 (adc, [])
  if ∀ err ∈ errField, err = true then some (FAILURE, axiAdcDelaySet adc noOfLanes 0)
  else (calibratedDelay errField).map fun delay => (SUCCESS, axiAdcDelaySet adc noOfLanes delay)

/-- A pass of the loop of `axi_adc_update_active_channels`, with the mask shifted along. -/
def updateChannel (s : AdcRegs × UInt32) (ch : ℕ) : AdcRegs × UInt32 :=
  let reg := AXI_ADC_REG_CHAN_CNTRL (UInt32.ofNat ch)
  let val := s.1 reg
  let newVal := if s.2 &&& 1 ≠ 0 then val ||| AXI_ADC_ENABLE else val &&& ~~~AXI_ADC_ENABLE
  (if newVal ≠ val then Function.update s.1 reg newVal else s.1, s.2 >>> 1)

def axiAdcUpdateActiveChannels (adc : AxiAdc) (mask : UInt32) : Int × AxiAdc :=
  if mask = adc.mask then (SUCCESS, adc)
  else (SUCCESS, { adc with
    mask := mask
    regs := (Passes.run updateChannel adc.numChannels.toNat (adc.regs, mask)).1 })

/-- The allocation leaves any `mask`. -/
def axiAdcInit (numChannels : UInt8) (mask : UInt32) (regs : AdcRegs) (status : UInt32) : Option AxiAdc :=
  let regs := Function.update regs AXI_ADC_REG_RSTN 0
  let regs := Function.update regs AXI_ADC_REG_RSTN (AXI_ADC_MMCM_RSTN ||| AXI_ADC_RSTN)
  let regs := Passes.run (fun regs ch => Function.update regs (AXI_ADC_REG_CHAN_CNTRL (UInt32.ofNat ch))
    (AXI_ADC_FORMAT_SIGNEXT ||| AXI_ADC_FORMAT_ENABLE ||| AXI_ADC_ENABLE)) numChannels.toNat regs
  if status = 0 then none else some ⟨numChannels, mask, regs⟩

/-- `hweight8` with `n` more passes -/
def hweightFrom : ℕ → UInt32 → UInt32 → UInt32
  | 0, _, count => count
  | n + 1, word, count =>
    if word = 0 then count else hweightFrom n (word >>> 1) (if word &&& 1 ≠ 0 then count + 1 else count)

def hweight8 (word : UInt32) : UInt32 := hweightFrom 32 word 0

structure IioAxiAdc where
  adc : AxiAdc
  mask : UInt32

def iioAxiAdcPrepareTransfer (iioAdc : IioAxiAdc) (mask : UInt32) : Int × IioAxiAdc :=
  let (ret, adc) := axiAdcUpdateActiveChannels iioAdc.adc mask
  (ret, ⟨adc, mask⟩)

def STORAGE_BITS : UInt32 := 16

/-- The bytes that `iio_axi_adc_read_dev` requests of the DMA. -/
def iioAxiAdcReadBytes (iioAdc : IioAxiAdc) (nbSamples : UInt32) : UInt32 :=
  nbSamples * hweight8 iioAdc.mask * (STORAGE_BITS / 8)

end NoOS
