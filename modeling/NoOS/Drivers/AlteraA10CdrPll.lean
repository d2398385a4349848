import NoOS.Drivers.AlteraAdxcvr

/-!
# The PLL of the receivers in `altera_a10_cdr_pll.c`

The dividers are searched for in kHz. The output is 2 * `fref` * `m` * `lpfd` / (`n` * `lpd`).
-/

namespace NoOS
open AlteraAdxcvr

def A10_CDR_PLL_PFD_MIN : UInt32 := 50000
def A10_CDR_PLL_PFD_MAX : UInt32 := 800000
def A10_CDR_PLL_VCO_MIN : UInt32 := 4900000
def A10_CDR_PLL_VCO_MAX : UInt32 := 14150000

section Lookup

variable (fvco : UInt32)

def alteraA10CdrLookupVcoSpeed : UInt32 := if fvco < 7000000 then 3 else if fvco < 12500000 then 2 else 0

def alteraA10CdrLookupVcoSpeedFix : UInt32 :=
  if fvco < 6060000 then 60 else if fvco < 7060000 then 74 else if fvco < 9060000 then 90
  else if fvco < 11350000 then 116 else if fvco < 12760000 then 150 else if fvco < 13460000 then 159 else 174

def alteraA10CdrLookupCpCurrentPd (lpd : UInt32) : UInt32 := if lpd = 1 ∧ fvco < 12000000 then 3 else 4

def alteraA10CdrLookupClklowDiv (fref : UInt32) : UInt32 := if fref > 400000 then 1 else 0

def alteraA10CdrLookupFastlock (lpd : UInt32) : UInt32 := if lpd = 16 then 1 else 0

def alteraA10CdrLookupLfResistorPd (lpd : UInt32) : UInt32 :=
  if fvco < 7000000 then if lpd = 1 then 2 else if lpd = 2 ∨ lpd = 4 then 3 else 0
  else if lpd = 1 ∨ lpd = 2 ∨ lpd = 4 then 3 else 0

/-- The first range that the value is not above, as in the cases of a `switch`. -/
def rangeCase (val : UInt32) (other : UInt32) : List (UInt32 × UInt32) → UInt32
  | [] => other
  | (top, setting) :: cases => if val ≤ top then setting else rangeCase val other cases

def alteraA10CdrLookupLfResistorPfd (m lpfd : UInt32) : UInt32 :=
  if fvco < 7000000 then rangeCase (m * lpfd) 3 [(7, 3), (45, 2)]
  else if fvco < 9000000 then rangeCase (m * lpfd) 3 [(7, 3), (57, 2), (71, 3), (85, 2)]
  else if fvco < 12000000 then rangeCase (m * lpfd) 3 [(7, 3), (27, 1), (71, 2), (85, 3), (129, 2)]
  else rangeCase (m * lpfd) 3 [(7, 3), (27, 1), (57, 2)]

def alteraA10CdrLookupCpCurrentPfd (m lpfd : UInt32) : UInt32 :=
  if fvco < 7000000 then rangeCase (m * lpfd) 3 [(35, 2), (45, 3), (71, 1), (111, 2)]
  else if fvco < 9000000 then
    rangeCase (m * lpfd) 3 [(27, 1), (45, 2), (57, 3), (71, 1), (85, 4), (129, 2), (141, 3), (181, 2)]
  else if fvco < 12000000 then rangeCase (m * lpfd) 2 [(27, 3), (35, 1), (71, 2), (85, 1), (129, 4)]
  else rangeCase (m * lpfd) 3 [(27, 4), (35, 1), (45, 2), (57, 3), (71, 1), (95, 2)]

end Lookup

structure CdrParams where
  n : UInt32
  m : UInt32
  lpfd : UInt32
  lpd : UInt32
  deriving DecidableEq

/-- The values that the loop over `lpd` tries, and the one that it ends with. -/
def cdrLpd (fout : UInt32) : UInt32 :=
  (([1, 2, 4, 8] : List UInt32).find? fun lpd => fout ≥ A10_CDR_PLL_VCO_MIN / lpd).getD 16

def cdrLpfdMin (targetFvco : UInt32) : UInt32 := if targetFvco > 5200000 then 2 else 1

section Search

variable (fref : UInt32)

def cdrMMin : UInt32 := max (divRoundUp (A10_CDR_PLL_VCO_MIN / 2) fref) 8
def cdrMMax (lpfdMin : UInt32) : UInt32 := min (A10_CDR_PLL_VCO_MAX * 8 / lpfdMin / fref) 127

/-- The values of `n` that are neither skipped nor behind the one that ends the loop. -/
def cdrNs : List UInt32 :=
  (([1, 2, 4, 8] : List UInt32).takeWhile fun n => fref / n ≥ A10_CDR_PLL_PFD_MIN).filter fun n =>
    fref / n ≤ A10_CDR_PLL_PFD_MAX

/-- The candidates in the order of the loops. -/
def cdrCandidates (lpfdMin lpd : UInt32) : List CdrParams :=
  (cdrNs fref).flatMap fun n => (forRange lpfdMin 2).flatMap fun lpfd =>
    (forRange (cdrMMin fref) (cdrMMax fref lpfdMin)).map fun m => ⟨n, m, lpfd, lpd⟩

def cdrFvco (c : CdrParams) : UInt32 := fref * c.m * c.lpfd / c.n

end Search

/-- The dividers and the frequency of the VCO, all 0 if there are none, unless the search divides by zero. -/
def alteraA10CdrCalcParams (fref fout : UInt32) : Option (CdrParams × UInt32) :=
  if fref = 0 then none
  else
    let lpd := cdrLpd (fout / 2)
    let targetFvco := fout / 2 * lpd
    (closestSearch (cdrFvco fref) targetFvco 0 none (cdrCandidates fref (cdrLpfdMin targetFvco) lpd)).map fun best =>
      best.elim (⟨0, 0, 0, 0⟩, 0) fun c => (c, cdrFvco fref c)

def alteraA10CdrPllRoundRate (x : AlteraAdxcvr) (rateKhz : UInt32) : Option Int := do
  let (c, _) ← alteraA10CdrCalcParams x.parentRateKhz rateKhz
  if c.n = 0 ∨ c.m = 0 ∨ c.lpfd = 0 ∨ c.lpd = 0 then some (-1)
  else
    let tmp ← roundedQuotient (x.parentRateKhz * c.m * c.lpfd * 2) (c.n * c.lpd)
    some ((min tmp LONG_MAX).toNat : ℤ)

def encodeLpd (lpd : UInt32) : UInt32 :=
  if lpd = 1 then 1 else if lpd = 2 then 3 else if lpd = 4 then 4 else if lpd = 8 then 5 else 6

def encodeLpfd (lpfd : UInt32) : UInt32 := if lpfd = 1 then 2 else 3

def decodeLpd (val : UInt32) : UInt32 :=
  if val = 1 then 1 else if val = 3 then 2 else if val = 4 then 4 else if val = 5 then 8 else 16

def decodeLpfd (val : UInt32) : UInt32 := if val = 2 then 1 else 2

namespace AlteraAdxcvr

/-- The writes to a lane. The settings are looked up with the codes of `lpd` and `lpfd`. -/
def writeCdr (c : CdrParams) (fvco : UInt32) (x : AlteraAdxcvr) (i : ℕ) : AlteraAdxcvr :=
  let n := encodeN c.n
  let lpd := encodeLpd c.lpd
  let lpfd := encodeLpfd c.lpfd
  let vcoSpeed := alteraA10CdrLookupVcoSpeed fvco
  let vcoSpeedFix := alteraA10CdrLookupVcoSpeedFix fvco
  let clkdivLow := alteraA10CdrLookupClklowDiv x.parentRateKhz
  let fastLock := alteraA10CdrLookupFastlock lpd
  let cpCurrentPd := alteraA10CdrLookupCpCurrentPd fvco lpd
  let lfrPd := alteraA10CdrLookupLfResistorPd fvco lpd
  let cpCurrentPfd := alteraA10CdrLookupCpCurrentPfd fvco c.m lpfd
  let lfrPfd := alteraA10CdrLookupLfResistorPfd fvco c.m lpfd
  let b := AlteraBlock.adxcfg i
  let x := x.update b 0x132 0x05 (((vcoSpeedFix &&& 0x80) >>> 7) ||| ((vcoSpeedFix &&& 0x40) >>> 4))
  let x := x.update b 0x133 0xe0 (cpCurrentPd <<< 5)
  let x := x.update b 0x134 0x40 ((vcoSpeedFix &&& 0x10) <<< 2)
  let x := x.update b 0x135 0x4f (((vcoSpeedFix &&& 0x20) <<< 1) ||| (lfrPd <<< 2) ||| lfrPfd)
  let x := x.update b 0x136 0x0f (vcoSpeedFix &&& 0xf)
  let x := x.update b 0x137 0x7c (vcoSpeed <<< 2)
  let x := x.update b 0x139 0xbf ((fastLock <<< 7) ||| (cpCurrentPd <<< 3) ||| cpCurrentPfd)
  let x := x.write b 0x13a ((clkdivLow <<< 6) ||| (lpd <<< 3) ||| lpfd)
  let x := x.write b 0x13b c.m
  x.update b 0x13c 0x0c (n <<< 2)

/-- The calibration of a lane that follows. -/
def calibrateCdr (x : AlteraAdxcvr) (i : ℕ) : AlteraAdxcvr :=
  let b := AlteraBlock.adxcfg i
  let x := x.update b XCVR_REG_CALIB_PMA_EN 0x02 XCVR_CALIB_CMU_CDR_PLL_EN
  let x := x.update b XCVR_REG_RATE_SWITCH_FLAG XCVR_RATE_SWITCH_FLAG_MASK 0x00
  let x := x.update b XCVR_REG_CAPAB_PMA (0x20 ||| 0x10) (XCVR_CAPAB_RX_CAL_BUSY_EN ||| 0x00)
  let x := x.releaseArbitration b true
  (x.adxcfgCalibrationCheck false).2

def setCdrLane (c : CdrParams) (fvco : UInt32) (x : AlteraAdxcvr) (i : ℕ) : AlteraAdxcvr :=
  ((x.acquireArbitration (.adxcfg i)).writeCdr c fvco i).calibrateCdr i

/-- The registers of the dividers of a lane. -/
def cdrDividers (x : AlteraAdxcvr) (lane : ℕ) : UInt32 × UInt32 × UInt32 :=
  (x.read (.adxcfg lane) 0x13a, x.read (.adxcfg lane) 0x13b, x.read (.adxcfg lane) 0x13c &&& 0x0c)

end AlteraAdxcvr

def alteraA10CdrPllSetRate (x : AlteraAdxcvr) (rateKhz : UInt32) : Option (Int × AlteraAdxcvr) := do
  let (c, fvco) ← alteraA10CdrCalcParams x.parentRateKhz rateKhz
  if c.n = 0 ∨ c.m = 0 ∨ c.lpfd = 0 ∨ c.lpd = 0 then some (-1, x)
  else
    let y := Passes.run (setCdrLane c fvco) x.lanesPerLink x.preLaneRateChange
    some (0, { y.postLaneRateChange rateKhz with initialRecalc := false })

def alteraA10CdrPllRecalcRate (x : AlteraAdxcvr) : Option (UInt32 × AlteraAdxcvr) := do
  let x := x.acquireArbitration (.adxcfg 0)
  let div0 := x.read (.adxcfg 0) 0x13a
  let m := x.read (.adxcfg 0) 0x13b
  let div1 := x.read (.adxcfg 0) 0x13c
  let x := x.releaseArbitration (.adxcfg 0) false
  let lpd := decodeLpd ((div0 >>> 3) &&& 0x7)
  let lpfd := decodeLpfd (div0 &&& 0x7)
  let n := (1 : UInt32) <<< ((div1 >>> 2) &&& 0x3)
  let tmp ← roundedQuotient (x.parentRateKhz * m * lpfd * 2) (n * lpd)
  let x ← if tmp ≠ 0 ∧ x.initialRecalc then (alteraA10CdrPllSetRate x tmp.toUInt32).map Prod.snd else some x
  some ((min tmp ULONG_MAX).toUInt32, x)

end NoOS
