import NoOS.Drivers.AlteraAdxcvr

/-!
# The PLL of the transmitters in `altera_a10_atx_pll.c`

The dividers are searched for in kHz. The output is 4 * `fref` * `m` / (`l` * `n`).
-/

namespace NoOS
open AlteraAdxcvr

def A10_ATX_PLL_PFD_MIN : UInt32 := 61440
def A10_ATX_PLL_VCO_MIN : UInt32 := 7200000
def A10_ATX_PLL_VCO_MAX : UInt32 := 14400000

def alteraA10AtxBands : List UInt32 :=
  [14200000, 13650000, 13150000, 13110000, 12600000, 11900000, 11550000, 11400000, 11100000, 10600000, 10400000,
    9750000, 9350000, 9100000, 8900000, 8800000, 8600000, 8200000, 7800000, 7400000]

/-- `altera_a10_atx_lookup_band` from the band `i` on -/
def atxBandFrom (fvco : UInt32) (i : ℕ) : List UInt32 → UInt32
  | [] => 5
  | band :: bands =>
    if fvco > band then UInt32.ofNat (if i % 8 ≠ 7 then i % 8 + 1 else i % 8) else atxBandFrom fvco (i + 1) bands

def alteraA10AtxLookupBand (fvco : UInt32) : UInt32 := atxBandFrom fvco 0 alteraA10AtxBands

def alteraA10AtxLookupTank (fvco : UInt32) : UInt32 := if fvco < 8800000 then 0 else if fvco < 11400000 then 1 else 2

def alteraA10AtxLookupCpCurrent (m : UInt32) : UInt32 :=
  if m ≤ 20 then 0x1a else if m ≤ 30 then 0x1c else if m ≤ 40 then 0x1d else if m ≤ 60 then 0x25
  else if m ≤ 70 then 0x26 else if m ≤ 90 then 0x1d else if m ≤ 100 then 0x25 else 0x26

def alteraA10AtxLookupLfResistance (m : UInt32) : UInt32 :=
  if m ≤ 12 then 0 else if m ≤ 20 then 1 else if m ≤ 30 then 0 else if m ≤ 70 then 1 else 2

structure AtxParams where
  n : UInt32
  m : UInt32
  l : UInt32
  deriving DecidableEq

section Search

variable (fref : UInt32)

def atxMMin : UInt32 := max (divRoundUp (A10_ATX_PLL_VCO_MIN / 2) fref) 8
def atxMMax : UInt32 := min (A10_ATX_PLL_VCO_MAX / 2 * 8 / fref) 127

/-- The values of `n` that are neither skipped nor behind the one that ends the loop. -/
def atxNs : List UInt32 :=
  (([1, 2, 4, 8] : List UInt32).takeWhile fun n => fref / n ≥ A10_ATX_PLL_PFD_MIN).filter fun n =>
    fref / n ≤ A10_ATX_PLL_VCO_MAX

/-- The candidates in the order of the loops. -/
def atxCandidates : List AtxParams :=
  (atxNs fref).flatMap fun n => (forRange (atxMMin fref) (atxMMax fref)).flatMap fun m =>
    ([1, 2, 4, 8, 16] : List UInt32).map fun l => ⟨n, m, l⟩

def atxFvco (c : AtxParams) : UInt32 := fref * c.m * 2 / c.n

def atxF (c : AtxParams) : UInt32 := atxFvco fref c * 2 / c.l

end Search

/-- The dividers and the frequency of the VCO, all 0 if there are none, unless the search divides by zero. -/
def alteraA10AtxCalcParams (fref fout : UInt32) : Option (AtxParams × UInt32) :=
  if fref = 0 then none
  else (closestSearch (atxF fref) fout 0xffffffff none (atxCandidates fref)).map fun best =>
    best.elim (⟨0, 0, 0⟩, 0) fun c => (c, atxFvco fref c)

def alteraA10AtxPllRoundRate (x : AlteraAdxcvr) (rateKhz : UInt32) : Option Int := do
  let (c, _) ← alteraA10AtxCalcParams x.parentRateKhz rateKhz
  if c.n = 0 ∨ c.m = 0 ∨ c.l = 0 then some (-1)
  else
    let tmp ← roundedQuotient (x.parentRateKhz * c.m * 4) (c.l * c.n)
    some ((min tmp LONG_MAX).toNat : ℤ)

def encodeL (l : UInt32) : UInt32 :=
  if l = 1 then 0 else if l = 2 then 1 else if l = 4 then 2 else if l = 8 then 3 else 4

namespace AlteraAdxcvr

/-- The writes to the PLL. -/
def writeAtx (x : AlteraAdxcvr) (c : AtxParams) (fvco : UInt32) : AlteraAdxcvr :=
  let lfr := alteraA10AtxLookupLfResistance c.m
  let cpc := alteraA10AtxLookupCpCurrent c.m
  let band := alteraA10AtxLookupBand fvco
  let tank := alteraA10AtxLookupTank fvco
  let x := x.update .atxPll 0x102 0x1f (band ||| (tank <<< 3))
  let x := x.update .atxPll 0x104 0x7f (((cpc &&& 0x38) <<< 1) ||| 0x04 ||| lfr)
  let x := x.update .atxPll 0x105 0x07 (cpc &&& 0x7)
  let x := x.update .atxPll 0x107 0x0c (encodeN c.n <<< 2)
  let x := x.update .atxPll 0x108 0x07 (encodeL c.l)
  x.write .atxPll 0x109 c.m

/-- The calibrations that follow. -/
def calibrateAtx (x : AlteraAdxcvr) : AlteraAdxcvr :=
  let x := x.update .atxPll XCVR_REG_CALIB_ATX_PLL_EN 0x01 XCVR_CALIB_ATX_PLL_EN
  let x := x.releaseArbitration .atxPll true
  x.atxPllCalibrationCheck.2.calibTx

/-- The registers of the dividers. -/
def atxDividers (x : AlteraAdxcvr) : UInt32 × UInt32 × UInt32 :=
  (x.read .atxPll 0x107 &&& 0x0c, x.read .atxPll 0x108 &&& 0x07, x.read .atxPll 0x109)

end AlteraAdxcvr

def alteraA10AtxPllSetRate (x : AlteraAdxcvr) (rateKhz : UInt32) : Option (Int × AlteraAdxcvr) := do
  let (c, fvco) ← alteraA10AtxCalcParams x.parentRateKhz rateKhz
  if c.n = 0 ∨ c.m = 0 ∨ c.l = 0 then some (-1, x)
  else
    let y := ((x.preLaneRateChange.acquireArbitration .atxPll).writeAtx c fvco).calibrateAtx.postLaneRateChange rateKhz
    some (0, { y with initialRecalc := false })

def alteraA10AtxPllRecalcRate (x : AlteraAdxcvr) : Option (UInt32 × AlteraAdxcvr) := do
  let x := x.acquireArbitration .atxPll
  let div0 := x.read .atxPll 0x107
  let div1 := x.read .atxPll 0x108
  let m := x.read .atxPll 0x109
  let x := x.releaseArbitration .atxPll false
  let n := (1 : UInt32) <<< ((div0 >>> 2) &&& 0x3)
  let l := (1 : UInt32) <<< (div1 &&& 0x7)
  let tmp ← roundedQuotient (x.parentRateKhz * m) (l * n / 4)
  let x ← if tmp ≠ 0 ∧ x.initialRecalc then (alteraA10AtxPllSetRate x tmp.toUInt32).map Prod.snd else some x
  some ((min tmp ULONG_MAX).toUInt32, x)

end NoOS
