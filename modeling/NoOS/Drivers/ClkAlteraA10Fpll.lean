import NoOS.Errno
import NoOS.Lib.RegisterFile
import NoOS.Util.Util

/-!
# The fractional PLL of `clk_altera_a10_fpll.c`

The dividers are searched for in kHz and written into the registers of the counters. The status register is
polled, and what it says is ignored. A `long` has 32 bits.
-/

namespace NoOS

def FPLL_REG_C_COUNTER2 : ℕ := 0x10F
def FPLL_REG_C_COUNTER3 : ℕ := 0x110
def FPLL_REG_C_COUNTER4 : ℕ := 0x111
def FPLL_REG_DIV_COUNTER0 : ℕ := 0x12B
def FPLL_REG_DIV_COUNTER1 : ℕ := 0x12C

def A10_FPLL_PFD_MIN : UInt32 := 25000
def A10_FPLL_PFD_MAX : UInt32 := 60000
def A10_FPLL_VCO_MIN : UInt32 := 4800000
def A10_FPLL_VCO_MAX : UInt32 := 14025000

/-- The driver structure and the registers. -/
structure A10Fpll where
  parentRate : UInt32
  initialRecalc : Bool
  regs : ℕ → UInt32
  /-- What the status register 0x280 reads, from the first poll on -/
  status : ℕ → UInt32
  polls : ℕ

namespace A10Fpll

def read (p : A10Fpll) (addr : ℕ) : UInt32 := p.regs addr

def write (p : A10Fpll) (addr : ℕ) (val : UInt32) : A10Fpll :=
  { p with regs := Function.update p.regs addr val }

def update (p : A10Fpll) (addr : ℕ) (mask val : UInt32) : A10Fpll :=
  { p with regs := RegisterFile.update p.regs addr mask val }

/-- Reads of the status until the bit is clear, or there are none left. -/
def poll (p : A10Fpll) (bit : UInt32) : ℕ → Bool × A10Fpll
  | 0 => (false, p)
  | n + 1 =>
    let q := { p with polls := p.polls + 1 }
    if p.status p.polls &&& bit = 0 then (true, q) else poll q bit n

/-- `altera_a10_acquire_arbitration`, which returns 0 in any case -/
def acquireArbitration (p : A10Fpll) : A10Fpll := ((p.write 0x00 0x2).poll 4 10001).2

def releaseArbitration (p : A10Fpll) (runCalibration : Bool) : A10Fpll :=
  p.write 0x00 (if runCalibration then 0x1 else 0x3)

def pllCalibrationCheck (p : A10Fpll) : Int × A10Fpll :=
  let polled := p.poll 0x02 51
  (if polled.1 then 0 else 1, polled.2)

end A10Fpll

def alteraA10FpllLookupLfResistance (fvco m : UInt32) : UInt32 :=
  if fvco < 12000000 then if m ≤ 15 then 2 else if m ≤ 31 then 0 else if m ≤ 71 then 1 else 3
  else if m ≤ 23 then 0 else if m ≤ 55 then 1 else 3

def alteraA10FpllLookupCpCurrent (fvco m : UInt32) : UInt32 :=
  if fvco < 9000000 then
    if m ≤ 15 then 29 else if m ≤ 23 then 28 else if m ≤ 31 then 29 else if m ≤ 47 then 28
    else if m ≤ 55 then 29 else if m ≤ 71 then 36 else if m ≤ 103 then 29 else 36
  else if fvco < 12000000 then
    if m ≤ 15 then 36 else if m ≤ 23 then 29 else if m ≤ 31 then 36 else if m ≤ 39 then 28
    else if m ≤ 55 then 29 else if m ≤ 79 then 36 else if m ≤ 87 then 29 else 36
  else
    if m ≤ 15 then 28 else if m ≤ 23 then 36 else if m ≤ 39 then 29 else if m ≤ 55 then 36
    else if m ≤ 63 then 29 else 36

section Search

variable (fref fout : UInt32)

def fpllNMin : UInt32 := max (divRoundUp fref A10_FPLL_PFD_MAX) 1
def fpllNMax : UInt32 := min (fref / A10_FPLL_PFD_MIN) 31
def fpllMMin : UInt32 := roundUp (max (divRoundUp (A10_FPLL_VCO_MIN / 2) fref * fpllNMin fref) 8) 2
def fpllMMax : UInt32 := min (A10_FPLL_VCO_MAX / 2 * fpllNMax fref / fref) 127
def fpllNMinOf (m : UInt32) : UInt32 := max (fpllNMin fref) (divRoundUp (fref * m) (A10_FPLL_VCO_MAX / 2))
def fpllNMaxOf (m : UInt32) : UInt32 := min (fpllNMax fref) (fref * m / (A10_FPLL_VCO_MIN / 2))

/-- The pairs of `m` and `n` in the order of the two loops. -/
def fpllPairs : List (UInt32 × UInt32) :=
  (forStep 2 (fpllMMin fref) (fpllMMax fref)).flatMap fun m =>
    (forRange (fpllNMinOf fref m) (fpllNMaxOf fref m)).map fun n => (m, n)

def fpllFvco (p : UInt32 × UInt32) : UInt32 := fref * p.1 * 2 / p.2

def fpllC0 (p : UInt32 × UInt32) : UInt32 := clamp (divRoundClosest (fpllFvco fref p) (fout * 4)) 1 512

/-- The output frequency for a pair. -/
def fpllF (p : UInt32 × UInt32) : UInt32 := fpllFvco fref p / (fpllC0 fref fout p * 4)

end Search

/-- The best dividers so far. -/
structure FpllBest where
  f : UInt32 := 0xffffffff
  n : UInt32 := 0
  m : UInt32 := 0
  c0 : UInt32 := 0
  fvco : UInt32 := 0
  deriving DecidableEq

/-- The loops over the pairs. A division by `fout = 0` has no result. -/
def fpllSearch (fref fout : UInt32) : FpllBest → List (UInt32 × UInt32) → Option (Int × FpllBest)
  | best, [] => some (FAILURE, best)
  | best, p :: rest =>
    if fout * 4 = 0 then none
    else if cAbs (fpllF fref fout p - fout) < cAbs (best.f - fout) then
      let best : FpllBest := ⟨fpllF fref fout p, p.2, p.1, fpllC0 fref fout p, fpllFvco fref p⟩
      if best.f = fout then some (0, best) else fpllSearch fref fout best rest
    else fpllSearch fref fout best rest

/-- `altera_a10_fpll_calc_params`, unless it divides by zero. -/
def alteraA10FpllCalcParams (fref fout : UInt32) : Option (Int × FpllBest) :=
  let fref := fref / 1000
  let fout := fout / 1000
  if fref = 0 then none else fpllSearch fref fout {} (fpllPairs fref)

/-- The rate of the dividers, unless it is a quotient of zero. -/
def fpllQuotient (parentRate m c0 n : UInt32) : Option UInt64 :=
  if c0 * n * 2 = 0 then none else some (divRoundClosestUll (parentRate.toUInt64 * m.toUInt64) (c0 * n * 2))

def alteraA10FpllRoundRate (p : A10Fpll) (rate : UInt32) : Option Int := do
  let (_, best) ← alteraA10FpllCalcParams p.parentRate rate
  if best.n = 0 ∨ best.m = 0 ∨ best.c0 = 0 then some FAILURE
  else
    let tmp ← fpllQuotient p.parentRate best.m best.c0 best.n
    some ((min tmp LONG_MAX).toNat : ℤ)

namespace A10Fpll

/-- The writes of the counters. -/
def writeCounters (p : A10Fpll) (best : FpllBest) : A10Fpll :=
  let lfr := alteraA10FpllLookupLfResistance best.fvco best.m
  let cpc := alteraA10FpllLookupCpCurrent best.fvco best.m
  let c0 := if best.c0 ≥ 512 then 0 else best.c0
  let p := p.write FPLL_REG_DIV_COUNTER0 (best.m &&& 0xff)
  let p := p.write FPLL_REG_DIV_COUNTER1 ((best.n <<< 3) &&& 0xf8)
  let p := p.write FPLL_REG_C_COUNTER2 (best.m / 2)
  let p := p.write FPLL_REG_C_COUNTER3 (c0 &&& 0xff)
  let p := p.update FPLL_REG_C_COUNTER4 0x0f ((c0 &&& 0x100) >>> 4)
  let p := p.update 0x133 0x0c (lfr <<< 2)
  let p := p.update 0x134 0x70 ((cpc &&& 0x7) <<< 4)
  p.update 0x135 0x07 ((cpc &&& 0x38) >>> 3)

/-- The calibration, which runs with internal feedback. -/
def calibrate (p : A10Fpll) : A10Fpll :=
  let feedback := p.read 0x126
  let p := p.write 0x126 (feedback ||| 1)
  let p := p.update 0x100 0x2 0x2
  let p := p.releaseArbitration true
  let p := p.pllCalibrationCheck.2
  p.write 0x126 feedback

/-- The counters `n`, `m` and `c0` as they are read. -/
def dividers (p : A10Fpll) : UInt32 × UInt32 × UInt32 :=
  let div0 := p.read FPLL_REG_DIV_COUNTER0
  let div1 := p.read FPLL_REG_DIV_COUNTER1
  let n := (div1 >>> 3) &&& 0x1f
  let m := div0 ||| ((div1 &&& 0x1) <<< 8)
  let m := if m = 0 then 512 else m
  let div0 := p.read FPLL_REG_C_COUNTER3
  let div1 := p.read FPLL_REG_C_COUNTER4
  (n, m, div0 ||| ((div1 &&& 0x8) <<< 5))

end A10Fpll

def alteraA10FpllSetRate (p : A10Fpll) (rate : UInt32) : Option (Int × A10Fpll) := do
  let (_, best) ← alteraA10FpllCalcParams p.parentRate rate
  if best.n = 0 ∨ best.m = 0 ∨ best.c0 = 0 then some (FAILURE, p)
  else some (0, { (p.acquireArbitration.writeCounters best).calibrate with initialRecalc := false })

def alteraA10FpllRecalcRate (p : A10Fpll) : Option (UInt32 × A10Fpll) :=
  let p := p.acquireArbitration
  let (n, m, c0) := p.dividers
  let p := p.releaseArbitration false
  if c0 = 0 ∨ n = 0 then some (0, p)
  else do
    let tmp ← fpllQuotient p.parentRate m c0 n
    let p ← if tmp ≠ 0 ∧ p.initialRecalc then (alteraA10FpllSetRate p tmp.toUInt32).map Prod.snd else some p
    some ((min tmp ULONG_MAX).toUInt32, p)

end NoOS
