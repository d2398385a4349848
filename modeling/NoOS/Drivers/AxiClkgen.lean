import NoOS.Errno
import NoOS.Util.Util
import Mathlib.Data.List.MinMax
import Mathlib.Data.UInt

/-!
# The clock generator of `clk_axi_clkgen.c`

The dividers are searched for in kHz and written to the MMCM as high and low counts, six bits
each, from which the rate is read back. The reconfiguration port answers: it is not busy when
it is asked.
-/

namespace NoOS

def AXI_PCORE_VER_MAJOR (version : UInt32) : UInt32 := version >>> 16
def AXI_INFO_FPGA_TECH (info : UInt32) : UInt32 := info >>> 24
def AXI_INFO_FPGA_FAMILY (info : UInt32) : UInt32 := (info >>> 16) &&& 0xff
def AXI_INFO_FPGA_SPEED_GRADE (info : UInt32) : UInt32 := (info >>> 8) &&& 0xff
def AXI_INFO_FPGA_VOLTAGE (val : UInt32) : UInt32 := val &&& 0xffff

def AXI_FPGA_TECH_ULTRASCALE_PLUS : UInt32 := 3
def AXI_FPGA_FAMILY_ARTIX : UInt32 := 1
def AXI_FPGA_FAMILY_KINTEX : UInt32 := 2

def AXI_CLKGEN_MMCM_RESETN : UInt32 := 2
def AXI_CLKGEN_RESETN : UInt32 := 1
def AXI_CLKGEN_STATUS : UInt32 := 1

def MMCM_REG_CLKOUT0_1 : UInt32 := 0x08
def MMCM_REG_CLKOUT0_2 : UInt32 := 0x09
def MMCM_REG_CLKOUT1_1 : UInt32 := 0x0A
def MMCM_REG_CLKOUT1_2 : UInt32 := 0x0B
def MMCM_REG_CLK_FB1 : UInt32 := 0x14
def MMCM_REG_CLK_FB2 : UInt32 := 0x15
def MMCM_REG_CLK_DIV : UInt32 := 0x16
def MMCM_REG_LOCK1 : UInt32 := 0x18
def MMCM_REG_LOCK2 : UInt32 := 0x19
def MMCM_REG_LOCK3 : UInt32 := 0x1a
def MMCM_REG_FILTER1 : UInt32 := 0x4e
def MMCM_REG_FILTER2 : UInt32 := 0x4f

def axiClkgenFilterTable : List UInt32 := [
  0x01001990, 0x01001190, 0x01009890, 0x01001890,
  0x01008890, 0x01009090, 0x01009090, 0x01009090,
  0x01009090, 0x01000890, 0x01000890, 0x01000890,
  0x08009090, 0x01001090, 0x01001090, 0x01001090,
  0x01001090, 0x01001090, 0x01001090, 0x01001090,
  0x01001090, 0x01001090, 0x01001090, 0x01008090,
  0x01008090, 0x01008090, 0x01008090, 0x01008090,
  0x01008090, 0x01008090, 0x01008090, 0x01008090,
  0x01008090, 0x01008090, 0x01008090, 0x01008090,
  0x01008090, 0x08001090, 0x08001090, 0x08001090,
  0x08001090, 0x08001090, 0x08001090, 0x08001090,
  0x08001090, 0x08001090, 0x08001090]

def axiClkgenLockTable : List UInt32 := [
  0x060603e8, 0x060603e8, 0x080803e8, 0x0b0b03e8,
  0x0e0e03e8, 0x111103e8, 0x131303e8, 0x161603e8,
  0x191903e8, 0x1c1c03e8, 0x1f1f0384, 0x1f1f0339,
  0x1f1f02ee, 0x1f1f02bc, 0x1f1f028a, 0x1f1f0271,
  0x1f1f023f, 0x1f1f0226, 0x1f1f020d, 0x1f1f01f4,
  0x1f1f01db, 0x1f1f01c2, 0x1f1f01a9, 0x1f1f0190,
  0x1f1f0190, 0x1f1f0177, 0x1f1f015e, 0x1f1f015e,
  0x1f1f0145, 0x1f1f0145, 0x1f1f012c, 0x1f1f012c,
  0x1f1f012c, 0x1f1f0113, 0x1f1f0113, 0x1f1f0113]

def axiClkgenLookupFilter (m : UInt32) : UInt32 := axiClkgenFilterTable.getD m.toNat 0x08008090

def axiClkgenLookupLock (m : UInt32) : UInt32 := axiClkgenLockTable.getD m.toNat 0x1f1f00fa

/-- The driver structure and the core. -/
structure AxiClkgen where
  parentRate : UInt32
  version : UInt32
  fpgaInfo : UInt32
  fpgaVoltage : UInt32
  status : UInt32
  resetn : UInt32
  /-- The registers behind the reconfiguration port, by address -/
  mmcm : UInt32 → UInt32

namespace AxiClkgen

def mmcmRead (c : AxiClkgen) (reg : UInt32) : UInt32 := c.mmcm reg &&& 0xffff

def mmcmWrite (c : AxiClkgen) (reg val mask : UInt32) : AxiClkgen :=
  let regVal := if mask ≠ 0xffff then c.mmcmRead reg &&& ~~~mask else 0
  { c with mmcm := Function.update c.mmcm reg (regVal ||| (val &&& mask)) }

def mmcmEnable (c : AxiClkgen) (enable : Bool) : AxiClkgen :=
  { c with resetn :=
      if enable then AXI_CLKGEN_RESETN ||| AXI_CLKGEN_MMCM_RESETN else AXI_CLKGEN_RESETN }

end AxiClkgen

structure ClkgenRanges where
  fpfdMin : UInt32 := 10000
  fpfdMax : UInt32 := 300000
  fvcoMin : UInt32 := 600000
  fvcoMax : UInt32 := 1200000
deriving DecidableEq, Repr

def axiClkgenSetupRanges (c : AxiClkgen) (r : ClkgenRanges) : ClkgenRanges :=
  let tech := AXI_INFO_FPGA_TECH c.fpgaInfo
  let family := AXI_INFO_FPGA_FAMILY c.fpgaInfo
  let speedGrade := AXI_INFO_FPGA_SPEED_GRADE c.fpgaInfo
  let voltage := AXI_INFO_FPGA_VOLTAGE c.fpgaVoltage
  let r :=
    if 10 ≤ speedGrade ∧ speedGrade ≤ 14 then { r with fvcoMax := 1200000, fpfdMax := 450000 }
    else if 20 ≤ speedGrade ∧ speedGrade ≤ 22 then
      if (family = AXI_FPGA_FAMILY_KINTEX ∨ family = AXI_FPGA_FAMILY_ARTIX) ∧ voltage < 950 then
        { r with fvcoMax := 1200000, fpfdMax := 450000 }
      else { r with fvcoMax := 1440000, fpfdMax := 500000 }
    else if speedGrade = 30 then { r with fvcoMax := 1600000, fpfdMax := 550000 }
    else r
  if tech = AXI_FPGA_TECH_ULTRASCALE_PLUS then { r with fvcoMax := 1600000, fvcoMin := 800000 }
  else r

def AxiClkgen.ranges (c : AxiClkgen) : ClkgenRanges :=
  if AXI_PCORE_VER_MAJOR c.version > 0x04 then axiClkgenSetupRanges c {} else {}

namespace ClkgenRanges

variable (r : ClkgenRanges) (fin : UInt32)

def dMin : UInt32 := max (divRoundUp fin r.fpfdMax) 1
def dMax : UInt32 := min (fin / r.fpfdMin) 80
def mMin : UInt32 := max (divRoundUp r.fvcoMin fin * r.dMin fin) 1
def mMax : UInt32 := min (r.fvcoMax * r.dMax fin / fin) 64
def dMinOf (m : UInt32) : UInt32 := max (r.dMin fin) (divRoundUp (fin * m) r.fvcoMax)
def dMaxOf (m : UInt32) : UInt32 := min (r.dMax fin) (fin * m / r.fvcoMin)

/-- The pairs of `m` and `d` in the order of the two loops. -/
def pairs : List (UInt32 × UInt32) :=
  (forRange (r.mMin fin) (r.mMax fin)).flatMap fun m =>
    (forRange (r.dMinOf fin m) (r.dMaxOf fin m)).map fun d => (m, d)

end ClkgenRanges

/-- The best dividers so far. -/
structure ClkgenBest where
  f : ℤ := 0x7fffffff
  d : UInt32 := 0
  m : UInt32 := 0
  dout : UInt32 := 0
deriving DecidableEq, Repr

def clkgenFvco (fin : UInt32) (p : UInt32 × UInt32) : UInt32 := fin * p.1 / p.2

def clkgenDout (fin fout : UInt32) (p : UInt32 × UInt32) : UInt32 :=
  clamp (divRoundClosest (clkgenFvco fin p) fout) 1 128

/-- The output frequency for a pair. -/
def clkgenF (fin fout : UInt32) (p : UInt32 × UInt32) : ℤ :=
  (clkgenFvco fin p / clkgenDout fin fout p).toNat

/-- The loops over the pairs. A division by `fout = 0` has no result. -/
def clkgenSearch (fin fout : UInt32) : ClkgenBest → List (UInt32 × UInt32) → Option ClkgenBest
  | best, [] => some best
  | best, p :: rest =>
    if fout = 0 then none
    else if (clkgenF fin fout p - fout.toNat).natAbs < (best.f - fout.toNat).natAbs then
      let best : ClkgenBest := ⟨clkgenF fin fout p, p.2, p.1, clkgenDout fin fout p⟩
      if best.f = fout.toNat then some best else clkgenSearch fin fout best rest
    else clkgenSearch fin fout best rest

/-- `axi_clkgen_calc_params`, unless it divides by zero. -/
def axiClkgenCalcParams (c : AxiClkgen) (fin fout : UInt32) : Option ClkgenBest :=
  let fin := fin / 1000
  let fout := fout / 1000
  if fin = 0 then none else clkgenSearch fin fout {} (c.ranges.pairs fin)

structure ClkParams where
  low : UInt32
  high : UInt32
  edge : UInt32
  nocount : UInt32
deriving DecidableEq, Repr

def axiClkgenCalcClkParams (divider : UInt32) : ClkParams where
  nocount := if divider = 1 then 1 else 0
  high := divider / 2
  edge := divider % 2
  low := divider - divider / 2

/-- The first register of a divider. -/
def ClkParams.counts (p : ClkParams) : UInt32 := (p.high <<< 6) ||| p.low

/-- The second register of a divider. -/
def ClkParams.flags (p : ClkParams) : UInt32 := (p.edge <<< 7) ||| (p.nocount <<< 6)

/-- The register of the input divider. -/
def ClkParams.divClk (p : ClkParams) : UInt32 :=
  (p.edge <<< 13) ||| (p.nocount <<< 12) ||| (p.high <<< 6) ||| p.low

/-- The writes to the MMCM. -/
def AxiClkgen.program (c : AxiClkgen) (d m dout : UInt32) : AxiClkgen :=
  let filter := axiClkgenLookupFilter (m - 1)
  let lock := axiClkgenLookupLock (m - 1)
  let c := c.mmcmEnable false
  let p := axiClkgenCalcClkParams dout
  let c := c.mmcmWrite MMCM_REG_CLKOUT0_1 p.counts 0xefff
  let c := c.mmcmWrite MMCM_REG_CLKOUT0_2 p.flags 0x03ff
  let p := axiClkgenCalcClkParams (dout * 4)
  let c := c.mmcmWrite MMCM_REG_CLKOUT1_1 p.counts 0xefff
  let c := c.mmcmWrite MMCM_REG_CLKOUT1_2 p.flags 0x03ff
  let p := axiClkgenCalcClkParams d
  let c := c.mmcmWrite MMCM_REG_CLK_DIV p.divClk 0x3fff
  let p := axiClkgenCalcClkParams m
  let c := c.mmcmWrite MMCM_REG_CLK_FB1 p.counts 0xefff
  let c := c.mmcmWrite MMCM_REG_CLK_FB2 p.flags 0x03ff
  let c := c.mmcmWrite MMCM_REG_LOCK1 (lock &&& 0x3ff) 0x3ff
  let c := c.mmcmWrite MMCM_REG_LOCK2 ((((lock >>> 16) &&& 0x1f) <<< 10) ||| 0x1) 0x7fff
  let c := c.mmcmWrite MMCM_REG_LOCK3 ((((lock >>> 24) &&& 0x1f) <<< 10) ||| 0x3e9) 0x7fff
  let c := c.mmcmWrite MMCM_REG_FILTER1 (filter >>> 16) 0x9900
  let c := c.mmcmWrite MMCM_REG_FILTER2 filter 0x9900
  c.mmcmEnable true

/-- `axi_clkgen_set_rate`, unless it divides by zero. -/
def axiClkgenSetRate (c : AxiClkgen) (rate : UInt32) : Option (Int × AxiClkgen) :=
  if c.parentRate = 0 ∨ rate = 0 then some (0, c)
  else
    (axiClkgenCalcParams c c.parentRate rate).map fun best =>
      if best.d = 0 ∨ best.dout = 0 ∨ best.m = 0 then (0, c)
      else
        let c := c.program best.d best.m best.dout
        (if c.status &&& AXI_CLKGEN_STATUS = 0 then FAILURE else SUCCESS, c)

/-- The sum of the two counts in a register. -/
def mmcmCounts (reg : UInt32) : UInt32 :=
  let low := reg &&& 0x3f
  let high := reg >>> 6 &&& 0x3f
  low + high

/-- The dividers that `axi_clkgen_get_rate` reads, in the order of the triple `d`, `m`, `dout`. -/
def AxiClkgen.dividers (c : AxiClkgen) : UInt32 × UInt32 × UInt32 :=
  (mmcmCounts (c.mmcmRead MMCM_REG_CLK_DIV), mmcmCounts (c.mmcmRead MMCM_REG_CLK_FB1),
    mmcmCounts (c.mmcmRead MMCM_REG_CLKOUT0_1))

/-- The return code and the rate. The limit of `0xffffffff` is overwritten. -/
def axiClkgenGetRate (c : AxiClkgen) : Int × UInt32 :=
  let (d, m, dout) := c.dividers
  if d = 0 ∨ dout = 0 then (SUCCESS, 0)
  else (SUCCESS, UInt32.ofNat ((c.parentRate / d).toNat * m.toNat / dout.toNat))

end NoOS
