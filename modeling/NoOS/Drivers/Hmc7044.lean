import NoOS.Errno
import NoOS.Util.Util
import Mathlib.Data.Fin.VecNotation
import Mathlib.Logic.Function.Basic

/-!
# The clock distribution `hmc7044.c`

The setup of the HMC7044 and HMC7043 is computed in kHz and written to the device register by
register. What a write returns is not looked at there.
-/

namespace NoOS

def HMC7044_REG_SOFT_RESET : ℕ := 0x0000
def HMC7044_REG_REQ_MODE_0 : ℕ := 0x0001
def HMC7044_REG_EN_CTRL_0 : ℕ := 0x0003
def HMC7044_REG_GLOB_MODE : ℕ := 0x0005
def HMC7044_REG_CLKIN_BUF_CTRL (i : ℕ) : ℕ := 0x000A + i
def HMC7044_REG_PLL1_REF_PRIO_CTRL : ℕ := 0x0014
def HMC7044_REG_CLKIN_PRESCALER (i : ℕ) : ℕ := 0x001C + i
def HMC7044_REG_OSCIN_PRESCALER : ℕ := 0x0020
def HMC7044_REG_PLL1_R_LSB : ℕ := 0x0021
def HMC7044_REG_PLL1_R_MSB : ℕ := 0x0022
def HMC7044_REG_PLL1_N_LSB : ℕ := 0x0026
def HMC7044_REG_PLL1_N_MSB : ℕ := 0x0027
def HMC7044_REG_PLL1_LOCK_DETECT : ℕ := 0x0028
def HMC7044_REG_PLL2_FREQ_DOUBLER : ℕ := 0x0032
def HMC7044_REG_PLL2_R_LSB : ℕ := 0x0033
def HMC7044_REG_PLL2_R_MSB : ℕ := 0x0034
def HMC7044_REG_PLL2_N_LSB : ℕ := 0x0035
def HMC7044_REG_PLL2_N_MSB : ℕ := 0x0036
def HMC7044_REG_GPI_CTRL (i : ℕ) : ℕ := 0x0046 + i
def HMC7044_REG_GPO_CTRL (i : ℕ) : ℕ := 0x0050 + i
def HMC7044_REG_PULSE_GEN : ℕ := 0x005A
def HMC7044_REG_SYSREF_TIMER_LSB : ℕ := 0x005C
def HMC7044_REG_SYSREF_TIMER_MSB : ℕ := 0x005D
def HMC7044_CLK_INPUT_CTRL : ℕ := 0x0064
def HMC7044_REG_CLK_OUT_DRV_LOW_PW : ℕ := 0x009F
def HMC7044_REG_CLK_OUT_DRV_HIGH_PW : ℕ := 0x00A0
def HMC7044_REG_PLL1_DELAY : ℕ := 0x00A5
def HMC7044_REG_PLL1_HOLDOVER : ℕ := 0x00A8
def HMC7044_REG_VTUNE_PRESET : ℕ := 0x00B0
/-- `HMC7044_REG_CH_OUT_CRTL_0` to `HMC7044_REG_CH_OUT_CRTL_8` -/
def HMC7044_REG_CH_OUT_CRTL (k ch : ℕ) : ℕ := 0x00C8 + k + 0xA * ch

def HMC7044_NUM_CHAN : UInt32 := 14
def HMC7044_LOW_VCO_MIN : UInt32 := 2150000
def HMC7044_LOW_VCO_MAX : UInt32 := 2880000
def HMC7044_HIGH_VCO_MIN : UInt32 := 2650000
def HMC7044_HIGH_VCO_MAX : UInt32 := 3200000
def HMC7044_RECOMM_LCM_MAX : UInt32 := 70000
def HMC7044_RECOMM_FPD1 : UInt32 := 10000
def HMC7044_R1_MAX : UInt32 := 65535
def HMC7044_N1_MAX : UInt32 := 65535
def HMC7044_R2_MAX : UInt32 := 4095
def HMC7044_N2_MIN : UInt32 := 8
def HMC7044_N2_MAX : UInt32 := 65535
def HMC7044_OUT_DIV_MIN : UInt32 := 1
def HMC7044_OUT_DIV_MAX : UInt32 := 4094

def HMC7044_R2_LSB (x : UInt32) : UInt32 := x &&& 0xff
def HMC7044_R2_MSB (x : UInt32) : UInt32 := (x &&& 0xf00) >>> 8
def HMC7044_N2_LSB (x : UInt32) : UInt32 := x &&& 0xff
def HMC7044_N2_MSB (x : UInt32) : UInt32 := (x &&& 0xff00) >>> 8
def HMC7044_SYSREF_TIMER_LSB (x : UInt32) : UInt32 := x &&& 0xff
def HMC7044_SYSREF_TIMER_MSB (x : UInt32) : UInt32 := (x &&& 0xf00) >>> 8
def HMC7044_DIV_LSB (x : UInt32) : UInt32 := x &&& 0xff
def HMC7044_DIV_MSB (x : UInt32) : UInt32 := (x >>> 8) &&& 0xff

structure Hmc7044ChanSpec where
  num : UInt32
  disable : Bool
  highPerformanceModeDis : Bool
  startUpModeDynamicEnable : Bool
  dynamicDriverEnable : Bool
  outputControl0Rb4Enable : Bool
  forceMuteEnable : Bool
  divider : UInt32
  driverMode : UInt32
  driverImpedance : UInt32
  coarseDelay : UInt32
  fineDelay : UInt32
  outMuxMode : UInt32

structure Hmc7044Dev where
  isHmc7043 : Bool
  clkinFreq : Fin 4 → UInt32
  clkinFreqCcf : Fin 4 → UInt32
  vcxoFreq : UInt32
  pll1Pfd : UInt32
  pll2Freq : UInt32
  pll1LoopBw : UInt32
  sysrefTimerDiv : UInt32
  pll1RefPrioCtrl : UInt32
  clkin0RfsyncEn : Bool
  clkin1VcoinEn : Bool
  highPerformanceModeClockDistEn : Bool
  highPerformanceModePllVcoEn : Bool
  rfReseederEn : Bool
  syncPinMode : UInt32
  pulseGenMode : UInt32
  inBufMode : Fin 5 → UInt32
  gpiCtrl : Fin 4 → UInt32
  gpoCtrl : Fin 4 → UInt32
  channels : List Hmc7044ChanSpec

/-- The register and the byte of a write. -/
abbrev RegWrite := ℕ × UInt8

/-- Twelve bits of the address are sent. -/
def hmc7044Write (reg : ℕ) (val : UInt32) : RegWrite := (reg % 0x1000, val.toUInt8)

abbrev Regs := ℕ → UInt8

def applyWrites (regs : Regs) (ws : List RegWrite) : Regs :=
  ws.foldl (fun r w => Function.update r w.1 w.2) regs

def Hmc7044Dev.clkinKHz (dev : Hmc7044Dev) (i : Fin 4) : UInt32 :=
  (if dev.clkinFreqCcf i ≠ 0 then dev.clkinFreqCcf i else dev.clkinFreq i) / 1000

/-- The common divisor of the reference inputs that are in use. -/
def Hmc7044Dev.commonFreq (dev : Hmc7044Dev) : UInt32 :=
  (List.finRange 4).foldl (fun lcm i =>
    if dev.clkinKHz i ≠ 0 then greatestCommonDivisor (dev.clkinKHz i) lcm else lcm)
    (dev.vcxoFreq / 1000)

def Hmc7044Dev.refEn (dev : Hmc7044Dev) : UInt32 :=
  (List.finRange 4).foldl (fun refEn i =>
    if dev.clkinKHz i ≠ 0 then refEn ||| (1 <<< UInt32.ofNat i.val) else refEn) 0

/-- The halving of `lcm_freq`, which 32 bits end. -/
def halveLcm : ℕ → UInt32 → UInt32
  | 0, lcm => lcm
  | n + 1, lcm => if lcm > HMC7044_RECOMM_LCM_MAX then halveLcm n (lcm / 2) else lcm

structure Pll1 where
  inPrescaler : Fin 5 → UInt32
  lockDetect : UInt32
  n1 : UInt32
  r1 : UInt32
  pfd : UInt32

/-- The loop that lowers the frequency of the phase detector -/
def pll1Scale : ℕ → UInt32 → UInt32 → UInt32 → Arith (UInt32 × UInt32 × UInt32)
  | 0, pfd, n1, r1 => return (pfd, n1, r1)
  | k + 1, pfd, n1, r1 => do
    if pfd > HMC7044_RECOMM_FPD1 ∧ n1 ≤ HMC7044_N1_MAX / 2 ∧ r1 ≤ HMC7044_R1_MAX / 2 then
      let n1 ← Arith.mul n1 2
      let r1 ← Arith.mul r1 2
      pll1Scale k (pfd / 2) n1 r1
    else return (pfd, n1, r1)

def inPrescaler (freq lcm : UInt32) : Arith UInt32 :=
  if freq ≠ 0 then Arith.div freq lcm else return 1

def hmc7044Pll1 (dev : Hmc7044Dev) : Arith Pll1 := do
  let vcxoFreq := dev.vcxoFreq / 1000
  let lcmFreq := halveLcm 32 dev.commonFreq
  let p0 ← inPrescaler (dev.clkinKHz 0) lcmFreq
  let p1 ← inPrescaler (dev.clkinKHz 1) lcmFreq
  let p2 ← inPrescaler (dev.clkinKHz 2) lcmFreq
  let p3 ← inPrescaler (dev.clkinKHz 3) lcmFreq
  let p4 ← Arith.div vcxoFreq lcmFreq
  let timer ← Arith.mul lcmFreq 4000
  let timer ← Arith.div timer dev.pll1LoopBw
  let nr ← rationalBestApproximation vcxoFreq lcmFreq HMC7044_N1_MAX HMC7044_R1_MAX
  let pfd ← Arith.div vcxoFreq nr.1
  let scaled ← pll1Scale 32 pfd nr.1 nr.2
  return ⟨![p0, p1, p2, p3, p4], logBase2 timer, scaled.2.1, scaled.2.2, scaled.1⟩

structure Pll2 where
  n2 : UInt32
  r2 : UInt32
  doubler : Bool

/-- The first solution uses the doubler, the second one does not. -/
def pll2Choose (pll2Freq vcxoFreq : UInt32) : Arith Pll2 := do
  let doubled ← Arith.mul vcxoFreq 2
  let first ← rationalBestApproximation pll2Freq doubled HMC7044_N2_MAX HMC7044_R2_MAX
  let product ← Arith.mul vcxoFreq first.1
  let freq ← Arith.div product first.2
  if pll2Freq ≠ freq then
    let second ← rationalBestApproximation pll2Freq vcxoFreq HMC7044_N2_MAX HMC7044_R2_MAX
    let doubled ← Arith.mul vcxoFreq 2
    let product ← Arith.mul doubled first.1
    let freq0 ← Arith.div product first.2
    let product ← Arith.mul vcxoFreq second.1
    let freq1 ← Arith.div product second.2
    if (pll2Freq.toInt32 - freq0.toInt32).abs > (pll2Freq.toInt32 - freq1.toInt32).abs then
      return ⟨second.1, second.2, false⟩
    else return ⟨first.1, first.2, true⟩
  else return ⟨first.1, first.2, true⟩

/-- The loop that reaches the least divider -/
def pll2Scale : ℕ → Pll2 → Arith Pll2
  | 0, p => return p
  | k + 1, p => do
    if p.n2 < HMC7044_N2_MIN ∧ p.r2 ≤ HMC7044_R2_MAX / 2 then
      let n2 ← Arith.mul p.n2 2
      let r2 ← Arith.mul p.r2 2
      pll2Scale k { p with n2 := n2, r2 := r2 }
    else return p

section Writes

variable (dev : Hmc7044Dev)

def resetWrites : List RegWrite :=
  [hmc7044Write HMC7044_REG_SOFT_RESET 1, hmc7044Write HMC7044_REG_SOFT_RESET 0]

def disableWrites : List RegWrite :=
  (List.range 14).map fun i => hmc7044Write (HMC7044_REG_CH_OUT_CRTL 0 i) 0

def updateWrites : List RegWrite :=
  [hmc7044Write HMC7044_REG_CLK_OUT_DRV_LOW_PW 0x4d, hmc7044Write HMC7044_REG_CLK_OUT_DRV_HIGH_PW 0xdf]

def globalWrites (highVco : Bool) : List RegWrite :=
  [hmc7044Write HMC7044_REG_PLL1_DELAY 0x06, hmc7044Write HMC7044_REG_PLL1_HOLDOVER 0x06,
    hmc7044Write HMC7044_REG_VTUNE_PRESET 0x04,
    hmc7044Write HMC7044_REG_GLOB_MODE (((dev.syncPinMode &&& 0x3) <<< 6) |||
      (if dev.clkin0RfsyncEn then 0x10 else 0) ||| (if dev.clkin1VcoinEn then 0x20 else 0) |||
      (dev.refEn &&& 0xf)),
    hmc7044Write HMC7044_REG_EN_CTRL_0 ((if dev.rfReseederEn then 0x20 else 0 : UInt32) |||
      ((if highVco then 1 else 2 : UInt32) <<< 3) ||| 0x4 ||| 0x2 ||| 0x1)]

def pll2Writes (p : Pll2) : List RegWrite :=
  [hmc7044Write HMC7044_REG_PLL2_R_LSB (HMC7044_R2_LSB p.r2),
    hmc7044Write HMC7044_REG_PLL2_R_MSB (HMC7044_R2_MSB p.r2),
    hmc7044Write HMC7044_REG_PLL2_N_LSB (HMC7044_N2_LSB p.n2),
    hmc7044Write HMC7044_REG_PLL2_N_MSB (HMC7044_N2_MSB p.n2),
    hmc7044Write HMC7044_REG_PLL2_FREQ_DOUBLER (if p.doubler then 0 else 1)]

/-- The macros for the dividers are those of PLL2. -/
def pll1Writes (p : Pll1) : List RegWrite :=
  [hmc7044Write HMC7044_REG_PLL1_LOCK_DETECT (p.lockDetect &&& 0x1f),
    hmc7044Write (HMC7044_REG_CLKIN_PRESCALER 0) (p.inPrescaler 0),
    hmc7044Write (HMC7044_REG_CLKIN_PRESCALER 1) (p.inPrescaler 1),
    hmc7044Write (HMC7044_REG_CLKIN_PRESCALER 2) (p.inPrescaler 2),
    hmc7044Write (HMC7044_REG_CLKIN_PRESCALER 3) (p.inPrescaler 3),
    hmc7044Write HMC7044_REG_OSCIN_PRESCALER (p.inPrescaler 4),
    hmc7044Write HMC7044_REG_PLL1_R_LSB (HMC7044_R2_LSB p.r1),
    hmc7044Write HMC7044_REG_PLL1_R_MSB (HMC7044_R2_MSB p.r1),
    hmc7044Write HMC7044_REG_PLL1_N_LSB (HMC7044_N2_LSB p.n1),
    hmc7044Write HMC7044_REG_PLL1_N_MSB (HMC7044_N2_MSB p.n1)]

def sysrefWrites : List RegWrite :=
  [hmc7044Write HMC7044_REG_SYSREF_TIMER_LSB (HMC7044_SYSREF_TIMER_LSB dev.sysrefTimerDiv),
    hmc7044Write HMC7044_REG_SYSREF_TIMER_MSB (HMC7044_SYSREF_TIMER_MSB dev.sysrefTimerDiv),
    hmc7044Write HMC7044_REG_PULSE_GEN (dev.pulseGenMode &&& 0x7)]

def inputWrites : List RegWrite :=
  (List.finRange 5).map (fun i => hmc7044Write (HMC7044_REG_CLKIN_BUF_CTRL i.val) (dev.inBufMode i)) ++
    (List.finRange 4).map (fun i => hmc7044Write (HMC7044_REG_GPI_CTRL i.val) (dev.gpiCtrl i)) ++
    (List.finRange 4).map (fun i => hmc7044Write (HMC7044_REG_GPO_CTRL i.val) (dev.gpoCtrl i))

end Writes

def Hmc7044ChanSpec.writes (chan : Hmc7044ChanSpec) : List RegWrite :=
  let num := chan.num.toNat
  if chan.num ≥ HMC7044_NUM_CHAN ∨ chan.disable then []
  else [hmc7044Write (HMC7044_REG_CH_OUT_CRTL 1 num) (HMC7044_DIV_LSB chan.divider),
    hmc7044Write (HMC7044_REG_CH_OUT_CRTL 2 num) (HMC7044_DIV_MSB chan.divider),
    hmc7044Write (HMC7044_REG_CH_OUT_CRTL 8 num) (((chan.driverMode &&& 0x3) <<< 3) |||
      (chan.driverImpedance &&& 0x3) ||| (if chan.dynamicDriverEnable then 0x20 else 0) |||
      (if chan.forceMuteEnable then 0x80 else 0)),
    hmc7044Write (HMC7044_REG_CH_OUT_CRTL 3 num) (chan.fineDelay &&& 0x1f),
    hmc7044Write (HMC7044_REG_CH_OUT_CRTL 4 num) (chan.coarseDelay &&& 0x1f),
    hmc7044Write (HMC7044_REG_CH_OUT_CRTL 7 num) (chan.outMuxMode &&& 0x3),
    hmc7044Write (HMC7044_REG_CH_OUT_CRTL 0 num) ((if chan.startUpModeDynamicEnable then 0xc else 0) |||
      (if chan.outputControl0Rb4Enable then 0x10 else 0) |||
      (if chan.highPerformanceModeDis then 0 else 0x80) ||| 0x40 ||| 0x1)]

def restartWrites (mode : UInt32) : List RegWrite :=
  [hmc7044Write HMC7044_REG_REQ_MODE_0 2, hmc7044Write HMC7044_REG_REQ_MODE_0 mode]

/-- The writes after those of the two loops -/
def Hmc7044Dev.lateWrites (dev : Hmc7044Dev) : List RegWrite :=
  [hmc7044Write HMC7044_REG_PLL1_REF_PRIO_CTRL dev.pll1RefPrioCtrl] ++ sysrefWrites dev ++
    inputWrites dev ++ dev.channels.flatMap Hmc7044ChanSpec.writes ++
    restartWrites ((if dev.highPerformanceModeClockDistEn then 0x40 else 0) |||
      (if dev.highPerformanceModePllVcoEn then 0x20 else 0))

/-- A return code, the structure and the writes so far. -/
structure SetupResult where
  ret : Int
  dev : Hmc7044Dev
  writes : List RegWrite

def hmc7044Setup (dev : Hmc7044Dev) : Arith SetupResult := do
  let vcxoFreq := dev.vcxoFreq / 1000
  let pll2Freq := dev.pll2Freq / 1000
  let p1 ← hmc7044Pll1 dev
  let dev := { dev with pll1Pfd := p1.pfd }
  if pll2Freq < HMC7044_LOW_VCO_MIN ∨ pll2Freq > HMC7044_HIGH_VCO_MAX then
    return ⟨FAILURE, dev, []⟩
  let highVco := decide (pll2Freq ≥ (HMC7044_LOW_VCO_MAX + HMC7044_HIGH_VCO_MIN) / 2)
  let p2 ← pll2Choose pll2Freq vcxoFreq
  let p2 ← pll2Scale 32 p2
  if p2.n2 < HMC7044_N2_MIN then return ⟨-FAILURE, dev, []⟩
  return ⟨SUCCESS, dev, resetWrites ++ disableWrites ++ updateWrites ++ globalWrites dev highVco ++
    pll2Writes p2 ++ pll1Writes p1 ++ dev.lateWrites⟩

def hmc7043Setup (dev : Hmc7044Dev) : SetupResult :=
  let freq := if dev.clkinFreqCcf 0 ≠ 0 then dev.clkinFreqCcf 0 else dev.clkinFreq 0
  let dev := { dev with pll2Freq := freq }
  if freq = 0 then ⟨FAILURE, dev, []⟩
  else ⟨SUCCESS, dev, resetWrites ++ updateWrites ++ disableWrites ++
    (if dev.pll2Freq < 1000000000 then [hmc7044Write HMC7044_CLK_INPUT_CTRL 1] else []) ++
    [hmc7044Write HMC7044_REG_EN_CTRL_0 ((if dev.rfReseederEn then 0x20 else 0) ||| 0x4)] ++
    sysrefWrites dev ++
    [hmc7044Write (HMC7044_REG_CLKIN_BUF_CTRL 0) (dev.inBufMode 0),
      hmc7044Write (HMC7044_REG_CLKIN_BUF_CTRL 1) (dev.inBufMode 1),
      hmc7044Write (HMC7044_REG_GPI_CTRL 0) (dev.gpiCtrl 0),
      hmc7044Write (HMC7044_REG_GPO_CTRL 0) (dev.gpoCtrl 0)] ++
    dev.channels.flatMap Hmc7044ChanSpec.writes ++
    restartWrites (if dev.highPerformanceModeClockDistEn then 0x40 else 0)⟩

/-- `hmc7044_init` with the fields of the parameters in `dev` -/
def hmc7044Init (dev : Hmc7044Dev) : Arith SetupResult :=
  if dev.isHmc7043 then return hmc7043Setup dev else hmc7044Setup dev

/-- There is no divider after a division by zero. -/
def hmc7044CalcOutDiv (rate parentRate : UInt32) : Option UInt32 :=
  if rate = 0 then none
  else
    let div := divRoundClosest parentRate rate
    -- supported odd divide ratios are 1, 3, and 5
    if div ≠ 1 ∧ div ≠ 3 ∧ div ≠ 5 ∧ div % 2 ≠ 0 then
      if rate * 2 = 0 then none
      else some (clamp (divRoundClosest parentRate (rate * 2) * 2) HMC7044_OUT_DIV_MIN HMC7044_OUT_DIV_MAX)
    else some (clamp div HMC7044_OUT_DIV_MIN HMC7044_OUT_DIV_MAX)

/-- The rate, if there is a channel at the index and its divider is not 0. -/
def hmc7044ClkRecalcRate (dev : Hmc7044Dev) (chan : UInt32) : Option (Int × UInt64) :=
  if chan.toNat > dev.channels.length then some (FAILURE, 0)
  else dev.channels[chan.toNat]?.bind fun c =>
    if c.divider = 0 then none else some (SUCCESS, (dev.pll2Freq / c.divider).toUInt64)

def hmc7044ClkRoundRate (dev : Hmc7044Dev) (rate : UInt32) : Option (Int × UInt64) :=
  (hmc7044CalcOutDiv rate dev.pll2Freq).map fun div =>
    (SUCCESS, (divRoundClosest dev.pll2Freq div).toUInt64)

/-- `ret` is what the two writes return. The second one is not sent after a failure. -/
def hmc7044ClkSetRate (dev : Hmc7044Dev) (regs : Regs) (chan : UInt32) (rate : UInt64)
    (ret : Int × Int) : Option (Int × Hmc7044Dev × Regs) :=
  if chan.toNat ≥ dev.channels.length then some (FAILURE, dev, regs)
  else (hmc7044CalcOutDiv rate.toUInt32 dev.pll2Freq).map fun div =>
    let dev := { dev with
      channels := dev.channels.modify chan.toNat fun c => { c with divider := div } }
    let lsb := hmc7044Write (HMC7044_REG_CH_OUT_CRTL 1 chan.toNat) (HMC7044_DIV_LSB div)
    let msb := hmc7044Write (HMC7044_REG_CH_OUT_CRTL 2 chan.toNat) (HMC7044_DIV_MSB div)
    if ret.1 < 0 then (ret.1, dev, regs)
    else if ret.2 < 0 then (ret.2, dev, applyWrites regs [lsb])
    else (ret.2, dev, applyWrites regs [lsb, msb])

end NoOS
