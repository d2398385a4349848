import Mathlib.Data.Nat.Log
import Mathlib.Tactic.IntervalCases
import NoOS.Lib.NearestMultiple
import NoOS.Util.Util

/-!
# The gain control timing of the AD9361

The delays and counters of the gain control are computed from times in us and ns and from a clock in Hz. The comments
of the code have their formulas, the code has units that are cut off, words of 32 bits and a byte before it clamps.
-/

namespace NoOS
open NearestMultiple

/-- Fields that start at bit 0. -/
def AGC_ATTACK_DELAY (x : UInt32) : UInt32 := x &&& 0x3F
def PEAK_OVERLOAD_WAIT_TIME (x : UInt32) : UInt32 := x &&& 0x1F
def SETTLING_DELAY (x : UInt32) : UInt32 := x &&& 0x1F
def DEC_POWER_MEASUREMENT_DURATION (x : UInt32) : UInt32 := x &&& 0xF
def ENERGY_DETECT_COUNT (x : UInt32) : UInt32 := x &&& 0x1F

inductive RfGainCtrlMode
  | mgc
  | fastAttackAgc
  | slowAttackAgc
  | hybridAgc
deriving DecidableEq

/-- What `ad9361_gc_update` reads of the platform data. -/
structure GcParams where
  settlingDelayNs : UInt32
  agcAttackDelayExtraMarginUs : UInt8
  gainUpdateIntervalUs : UInt32
  decPowMeasuremntDuration : UInt16
  fAgcDecPowMeasuremntDuration : UInt32
  fAgcStateWaitTimeNs : UInt32
  agcMode0 : RfGainCtrlMode
  agcMode1 : RfGainCtrlMode

/-- What the fields hold then. -/
structure GcUpdate where
  agcAttackDelay : UInt32
  peakWaitTime : UInt32
  settlingDelay : UInt32
  decPowerMeasureDuration : UInt32
  /-- The counter before it is halved for the registers -/
  gainUpdateCounter : UInt32
  doubleGainCounter : Bool
  gainUpdateCounter1 : UInt8
  gainUpdateCounter2 : UInt8
  energyDetectCount : UInt32

/-- A step of `ilog2` for the upper half of `2 ^ (j + 1)` bits: the count and what is left. -/
def ilog2Step (j : Int32) (s : Int32 × Int32) : Int32 × Int32 :=
  let high := s.2 >>> ((1 : Int32) <<< j)
  let a : Int32 := if high ≠ 0 then 1 else 0
  (s.1 + (a <<< j), ((~~~a + 1) &&& high) + (~~~(~~~a + 1) &&& s.2))

def ilog2 (x : Int32) : Int32 := (ilog2Step 0 (ilog2Step 1 (ilog2Step 2 (ilog2Step 3 (ilog2Step 4 (0, x)))))).1

/-- `clamp_t` for a byte from 0 to 31 -/
def clampByte (x : UInt32) : UInt32 := (min x.toUInt8 31).toUInt32

def gcAttackDelay (p : GcParams) (clkrf : UInt32) : UInt32 :=
  let reg := (200 + p.settlingDelayNs) / 2 + 14000000 / (clkrf / 500)
  clampByte (divRoundUp reg 1000 + p.agcAttackDelayExtraMarginUs.toUInt32)

def gcPeakWait (p : GcParams) (clkrf : UInt32) : UInt32 :=
  let reg := (p.settlingDelayNs + 100) * (clkrf / 1000)
  clampByte (divRoundUp reg 1000000 + 1)

def gcSettlingDelay (p : GcParams) (clkrf : UInt32) : UInt32 :=
  let reg := (p.settlingDelayNs + 200) * (clkrf / 2000)
  clampByte (divRoundUp reg 1000000 + 7)

def gcGainUpdate (p : GcParams) (clkrf settlingDelay : UInt32) : UInt32 :=
  let reg := p.gainUpdateIntervalUs * (clkrf / 1000) - settlingDelay * 2000 - 2000
  clamp (divRoundClosest reg 2000) 0 131071

/-- The samples of a power measurement, unless something is divided by zero. -/
def gcDecPowMeasDur (p : GcParams) (clkrf rxSamplClk reg : UInt32) : Option UInt32 :=
  if p.agcMode0 = .fastAttackAgc ∨ p.agcMode1 = .fastAttackAgc then some p.fAgcDecPowMeasuremntDuration
  else
    let firDiv := divRoundClosest clkrf rxSamplClk
    let decPowMeasDur := p.decPowMeasuremntDuration.toUInt32
    if rxSamplClk = 0 ∨ firDiv = 0 ∨ decPowMeasDur = 0 then none
    else some (if reg * 2 / firDiv / decPowMeasDur < 2 then reg / firDiv else decPowMeasDur)

def gcEnergyDetect (p : GcParams) (clkrf : UInt32) : UInt32 :=
  clamp (divRoundClosest (p.fAgcStateWaitTimeNs * (clkrf / 1000)) 1000000) 0 31

/-- `ad9361_gc_update`, unless something is divided by zero. -/
def ad9361GcUpdate (p : GcParams) (clkrf rxSamplClk : UInt32) : Option GcUpdate :=
  let settlingDelay := gcSettlingDelay p clkrf
  let reg := gcGainUpdate p clkrf settlingDelay
  let counter := if reg > 65535 then reg / 2 else reg
  if clkrf / 500 = 0 then none
  else (gcDecPowMeasDur p clkrf rxSamplClk reg).map fun decPowMeasDur =>
    { agcAttackDelay := AGC_ATTACK_DELAY (gcAttackDelay p clkrf)
      peakWaitTime := PEAK_OVERLOAD_WAIT_TIME (gcPeakWait p clkrf)
      settlingDelay := SETTLING_DELAY settlingDelay
      decPowerMeasureDuration := DEC_POWER_MEASUREMENT_DURATION (ilog2 (decPowMeasDur / 16).toInt32).toUInt32
      gainUpdateCounter := reg
      doubleGainCounter := reg > 65535
      gainUpdateCounter1 := (counter &&& 0xFF).toUInt8
      gainUpdateCounter2 := (counter >>> 8).toUInt8
      energyDetectCount := ENERGY_DETECT_COUNT (gcEnergyDetect p clkrf) }

/-! ### The formulas of the comments

Delays and times are in us, and the clock is in MHz. -/

namespace GcFormula

def attackDelay (delayLna clkRF : ℚ) : ℤ := ⌈((0.2 + delayLna) * clkRF + 14) / (2 * clkRF)⌉ + 1

def peakWait (delayLna clkRF : ℚ) : ℤ := ⌈(0.1 + delayLna) * clkRF + 1⌉

def settlingDelay (delayLna clkRF : ℚ) : ℤ := ⌈((0.2 + delayLna) * clkRF + 14) / 2⌉

def gainUpdate (time clkRF : ℚ) (settling : ℤ) : ℤ := round ((time * clkRF - settling * 2 - 2) / 2)

def energyDetect (time clkRF : ℚ) : ℤ := round (time * clkRF)

/-- The value that a field up to `hi` takes for `z`. -/
def saturate (hi z : ℤ) : ℤ := max 0 (min hi z)

end GcFormula

namespace GcParams

variable (p : GcParams) (clkrf rxSamplClk : UInt32)

/-- The delay of the LNA in us and the clock in MHz. -/
def delayLna : ℚ := p.settlingDelayNs.toNat / 1000
def clkRF : ℚ := clkrf.toNat / 1000000

/-- The samples of a power measurement for a gain update counter of `v`. -/
def powerSamples (v : ℕ) : ℕ :=
  let firDiv := clkrf.toNat / rxSamplClk.toNat
  if p.agcMode0 = .fastAttackAgc ∨ p.agcMode1 = .fastAttackAgc then p.fAgcDecPowMeasuremntDuration.toNat
  else if v * 2 / firDiv / p.decPowMeasuremntDuration.toNat < 2 then v / firDiv
  else p.decPowMeasuremntDuration.toNat

end GcParams

open GcFormula GcParams

/-- Every field holds the value of its formula, or the end of its range that is next to it. -/
structure GcUpdate.Follows (u : GcUpdate) (p : GcParams) (clkrf rxSamplClk : UInt32) : Prop where
  attack : (u.agcAttackDelay.toNat : ℤ) = saturate 63 (attackDelay p.delayLna (clkRF clkrf))
  peak : (u.peakWaitTime.toNat : ℤ) = saturate 31 (peakWait p.delayLna (clkRF clkrf))
  settling : (u.settlingDelay.toNat : ℤ) = saturate 31 (GcFormula.settlingDelay p.delayLna (clkRF clkrf))
  counter : (u.gainUpdateCounter.toNat : ℤ) =
    saturate 131071 (gainUpdate p.gainUpdateIntervalUs.toNat (clkRF clkrf) u.settlingDelay.toNat)
  /-- A counter of more than 16 bits is halved. -/
  double : u.doubleGainCounter = decide (65535 < u.gainUpdateCounter.toNat)
  registers : u.gainUpdateCounter1.toNat + 256 * u.gainUpdateCounter2.toNat =
    if 65535 < u.gainUpdateCounter.toNat then u.gainUpdateCounter.toNat / 2 else u.gainUpdateCounter.toNat
  power : u.decPowerMeasureDuration.toNat =
    min 15 (Nat.log2 (p.powerSamples clkrf rxSamplClk u.gainUpdateCounter.toNat / 16))
  energy : (u.energyDetectCount.toNat : ℤ) = saturate 31 (energyDetect (p.fAgcStateWaitTimeNs.toNat / 1000) (clkRF clkrf))

namespace GcParams

variable (p : GcParams) (clkrf : UInt32)

/-- The attack delay in ns -/
def attackNs : ℕ := (200 + p.settlingDelayNs.toNat) / 2 + 14000000 / (clkrf.toNat / 500)

/-- The times in parts of a clock cycle, with the clock in kHz and in 2 kHz -/
def peakParts : ℕ := (p.settlingDelayNs.toNat + 100) * (clkrf.toNat / 1000)
def settlingParts : ℕ := (p.settlingDelayNs.toNat + 200) * (clkrf.toNat / 2000)
def updateParts : ℕ := p.gainUpdateIntervalUs.toNat * (clkrf.toNat / 1000)
def waitParts : ℕ := p.fAgcStateWaitTimeNs.toNat * (clkrf.toNat / 1000)

def settlingCount : ℕ := min 31 (p.settlingParts clkrf ⌈/⌉ 1000000 + 7)

/-- Nothing wraps in 32 bits or in the byte that is clamped, and nothing is below 0. -/
structure NoWrap : Prop where
  delay : 200 + p.settlingDelayNs.toNat < 2 ^ 32
  attackSum : p.attackNs clkrf + 999 < 2 ^ 32
  attackByte : p.attackNs clkrf ⌈/⌉ 1000 + p.agcAttackDelayExtraMarginUs.toNat < 2 ^ 8
  peakSum : p.peakParts clkrf + 999999 < 2 ^ 32
  peakByte : p.peakParts clkrf ⌈/⌉ 1000000 + 1 < 2 ^ 8
  settlingSum : p.settlingParts clkrf + 999999 < 2 ^ 32
  settlingByte : p.settlingParts clkrf ⌈/⌉ 1000000 + 7 < 2 ^ 8
  updateProduct : p.updateParts clkrf < 2 ^ 32
  updateAbove : p.settlingCount clkrf * 2000 + 2000 ≤ p.updateParts clkrf
  energySum : p.waitParts clkrf + 500000 < 2 ^ 32

/-- The times and the clock are small enough for the words, the time of a gain update is not shorter than the settling,
the margin is the one of the formula, the logarithm fits its field, nothing is divided by zero, and what is cut off of the
clock is not enough for one more. -/
structure Fits : Prop where
  attackShort : p.attackNs clkrf + 1000 * p.agcAttackDelayExtraMarginUs.toNat ≤ 255000
  attackAbove : 2000 * clkrf.toNat * min 31 (p.attackNs clkrf ⌈/⌉ 1000 + p.agcAttackDelayExtraMarginUs.toNat) <
    (200 + p.settlingDelayNs.toNat) * clkrf.toNat + 14000000000 + 4000 * clkrf.toNat
  attackBelow : (200 + p.settlingDelayNs.toNat) * clkrf.toNat + 14000000000 + 2000 * clkrf.toNat ≤
    2000 * clkrf.toNat * min 31 (p.attackNs clkrf ⌈/⌉ 1000 + p.agcAttackDelayExtraMarginUs.toNat)
  peakShort : p.peakParts clkrf ≤ 254000000
  peakCut : 29000000 < p.peakParts clkrf ∨ (p.settlingDelayNs.toNat + 100) * (clkrf.toNat % 1000) ≤
    1000 * (1000000 * (p.peakParts clkrf ⌈/⌉ 1000000) - p.peakParts clkrf)
  settlingShort : p.settlingParts clkrf ≤ 248000000
  settlingCut : 23000000 < p.settlingParts clkrf ∨ (p.settlingDelayNs.toNat + 200) * (clkrf.toNat % 2000) ≤
    2000 * (1000000 * (p.settlingParts clkrf ⌈/⌉ 1000000) - p.settlingParts clkrf)
  updateProduct : p.updateParts clkrf < 2 ^ 32
  updateAbove : p.settlingCount clkrf * 2000 + 2000 ≤ p.updateParts clkrf
  updateCut : 131071 * 2000 + p.settlingCount clkrf * 2000 + 1000 ≤ p.updateParts clkrf ∨
    1000 * ((p.updateParts clkrf + 1000) % 2000) + p.gainUpdateIntervalUs.toNat * (clkrf.toNat % 1000) < 2000000
  power : if p.agcMode0 = .fastAttackAgc ∨ p.agcMode1 = .fastAttackAgc then p.fAgcDecPowMeasuremntDuration.toNat < 2 ^ 20
    else p.decPowMeasuremntDuration ≠ 0
  energySum : p.waitParts clkrf + 500000 < 2 ^ 32
  energyCut : 30500000 ≤ p.waitParts clkrf ∨ 1000 * ((p.waitParts clkrf + 500000) % 1000000) +
    p.fAgcStateWaitTimeNs.toNat * (clkrf.toNat % 1000) < 1000000000

end GcParams

section Log

variable {count x j : ℕ}

lemma one_shiftLeft (hj : j ≤ 4) : (1 : Int32) <<< Int32.ofNat j = Int32.ofNat (2 ^ j) := by
  interval_cases j <;> decide

lemma ofNat_shiftRight (hj : j ≤ 4) (hx : x < 2 ^ 31) :
    Int32.ofNat x >>> ((1 : Int32) <<< Int32.ofNat j) = Int32.ofNat (x / 2 ^ 2 ^ j) := by
  have hshift : (((1 : Int32) <<< Int32.ofNat j).toBitVec.smod 32).toNat = 2 ^ j := by
    interval_cases j <;> rfl
  have hmsb : (BitVec.ofNat 32 x).msb = false := by
    rw [BitVec.msb_eq_false_iff_two_mul_lt, BitVec.toNat_ofNat]
    omega
  apply Int32.toBitVec_inj.mp
  change (BitVec.ofNat 32 x).sshiftRight (((1 : Int32) <<< Int32.ofNat j).toBitVec.smod 32).toNat = BitVec.ofNat 32 _
  have hle : x / 2 ^ 2 ^ j ≤ x := Nat.div_le_self _ _
  rw [hshift, BitVec.sshiftRight_eq_of_msb_false hmsb]
  apply BitVec.eq_of_toNat_eq
  rw [BitVec.toNat_ushiftRight, BitVec.toNat_ofNat, BitVec.toNat_ofNat, Nat.shiftRight_eq_div_pow,
    Nat.mod_eq_of_lt (a := x) (by omega), Nat.mod_eq_of_lt (by omega)]

lemma ofNat_eq_zero_iff (hx : x < 2 ^ 31) : Int32.ofNat x = 0 ↔ x = 0 := by
  constructor
  · intro h
    have hint := congrArg Int32.toInt h
    rw [Int32.toInt_ofNat_of_lt hx] at hint
    exact Int.natCast_eq_zero.mp hint
  · rintro rfl
    rfl

lemma ilog2Step_eq (hj : j ≤ 4) (hx : x < 2 ^ 31) :
    ilog2Step (Int32.ofNat j) (Int32.ofNat count, Int32.ofNat x) =
      if x < 2 ^ 2 ^ j then (Int32.ofNat count, Int32.ofNat x)
      else (Int32.ofNat (count + 2 ^ j), Int32.ofNat (x / 2 ^ 2 ^ j)) := by
  have hle : x / 2 ^ 2 ^ j ≤ x := Nat.div_le_self _ _
  have hzero : Int32.ofNat (x / 2 ^ 2 ^ j) = 0 ↔ x < 2 ^ 2 ^ j := by
    rw [ofNat_eq_zero_iff (hle.trans_lt hx), Nat.div_eq_zero_iff_lt (Nat.two_pow_pos _)]
  rw [ilog2Step]
  dsimp only
  rw [ofNat_shiftRight hj hx]
  split_ifs with hhigh hlow hlow
  · exact absurd (hzero.mpr hlow) hhigh
  · rw [one_shiftLeft hj, Int32.ofNat_add]
    change (_, ((-1 : Int32) &&& _) + ((0 : Int32) &&& _)) = _
    rw [Int32.neg_one_and, Int32.zero_and, Int32.add_zero]
  · change (_ + (0 : Int32) <<< Int32.ofNat j, ((0 : Int32) &&& _) + ((-1 : Int32) &&& _)) = _
    rw [Int32.neg_one_and, Int32.zero_and, Int32.zero_add, Int32.zero_shiftLeft, Int32.add_zero]
  · exact absurd (hzero.mp (not_not.mp hhigh)) hlow

/-- After a step for `2 ^ j` bits fewer bits are left, and the sum of both parts is the same. -/
lemma ilog2Step_log (hj : j ≤ 4) (hx : x < 2 ^ 2 ^ (j + 1)) (hsmall : x < 2 ^ 31) :
    ∃ count' x', ilog2Step (Int32.ofNat j) (Int32.ofNat count, Int32.ofNat x) = (Int32.ofNat count', Int32.ofNat x') ∧
      x' < 2 ^ 2 ^ j ∧ count' + x'.log2 = count + x.log2 := by
  rw [ilog2Step_eq hj hsmall]
  split_ifs with hlt
  · exact ⟨count, x, rfl, hlt, rfl⟩
  · refine ⟨count + 2 ^ j, x / 2 ^ 2 ^ j, rfl, ?_, ?_⟩
    · rw [Nat.div_lt_iff_lt_mul (Nat.two_pow_pos _), ← Nat.pow_add, ← Nat.two_mul, ← Nat.pow_succ']
      exact hx
    · have hlog : (x / 2 ^ 2 ^ j).log2 = x.log2 - 2 ^ j := by
        rw [Nat.log2_eq_log_two, Nat.log2_eq_log_two, Nat.log_div_base_pow]
      have hle : 2 ^ 2 ^ j ≤ x := Nat.le_of_not_lt hlt
      have hne : x ≠ 0 := ((Nat.two_pow_pos _).trans_le hle).ne'
      have hsub := (Nat.le_log2 hne).mpr hle
      lia

lemma ilog2_eq (hx : x < 2 ^ 31) : ilog2 (Int32.ofNat x) = Int32.ofNat x.log2 := by
  obtain ⟨c4, x4, h4, hx4, hlog4⟩ := @ilog2Step_log 0 x 4 (by decide) (hx.trans (by decide)) hx
  obtain ⟨c3, x3, h3, hx3, hlog3⟩ := @ilog2Step_log c4 x4 3 (by decide) hx4 (hx4.trans (by decide))
  obtain ⟨c2, x2, h2, hx2, hlog2⟩ := @ilog2Step_log c3 x3 2 (by decide) hx3 (hx3.trans (by decide))
  obtain ⟨c1, x1, h1, hx1, hlog1⟩ := @ilog2Step_log c2 x2 1 (by decide) hx2 (hx2.trans (by decide))
  obtain ⟨c0, x0, h0, hx0, hlog0⟩ := @ilog2Step_log c1 x1 0 (by decide) hx1 (hx1.trans (by decide))
  have hbit : x0.log2 = 0 := by
    change x0 < 2 at hx0
    interval_cases x0 <;> rfl
  have hcount : c0 = x.log2 := by lia
  change (ilog2Step (Int32.ofNat 0) (ilog2Step (Int32.ofNat 1) (ilog2Step (Int32.ofNat 2) (ilog2Step (Int32.ofNat 3)
    (ilog2Step (Int32.ofNat 4) (Int32.ofNat 0, Int32.ofNat x)))))).1 = _
  rw [h4, h3, h2, h1, h0, hcount]

end Log

section Formulas

variable {p : GcParams} {clkrf rxSamplClk : UInt32} {hi n settling : ℕ}

lemma saturate_natCast {z : ℤ} (hz : z = hi) : saturate z n = (min hi n : ℕ) := by
  rw [saturate, hz, ← Nat.cast_min]
  exact max_eq_right (Int.natCast_nonneg _)

lemma attackDelay_eq (hclk : 0 < clkrf.toNat) : attackDelay p.delayLna (clkRF clkrf) =
    (((200 + p.settlingDelayNs.toNat) * clkrf.toNat + 14000000000) ⌈/⌉ (2000 * clkrf.toNat) + 1 : ℕ) := by
  have hne : (clkrf.toNat : ℚ) ≠ 0 := by exact_mod_cast hclk.ne'
  have hquot : ((0.2 + p.delayLna) * clkRF clkrf + 14) / (2 * clkRF clkrf) =
      (((200 + p.settlingDelayNs.toNat) * clkrf.toNat + 14000000000 : ℕ) : ℚ) / (2000 * clkrf.toNat : ℕ) := by
    rw [delayLna, clkRF]
    push_cast
    field_simp
    ring
  rw [attackDelay, hquot, ceil_natCast_div (Nat.mul_pos (by decide) hclk)]
  rfl

lemma peakWait_eq : peakWait p.delayLna (clkRF clkrf) =
    (((p.settlingDelayNs.toNat + 100) * clkrf.toNat) ⌈/⌉ 1000000000 + 1 : ℕ) := by
  have hquot : (0.1 + p.delayLna) * clkRF clkrf =
      (((p.settlingDelayNs.toNat + 100) * clkrf.toNat : ℕ) : ℚ) / (1000000000 : ℕ) := by
    rw [delayLna, clkRF]
    push_cast
    ring
  rw [peakWait, hquot, Int.ceil_add_one, ceil_natCast_div (by decide)]
  rfl

lemma settlingDelay_eq : GcFormula.settlingDelay p.delayLna (clkRF clkrf) =
    (((p.settlingDelayNs.toNat + 200) * clkrf.toNat) ⌈/⌉ 2000000000 + 7 : ℕ) := by
  have hquot : ((0.2 + p.delayLna) * clkRF clkrf + 14) / 2 =
      (((p.settlingDelayNs.toNat + 200) * clkrf.toNat : ℕ) : ℚ) / (2000000000 : ℕ) + (7 : ℕ) := by
    rw [delayLna, clkRF]
    push_cast
    ring
  rw [GcFormula.settlingDelay, hquot, Int.ceil_add_natCast, ceil_natCast_div (by decide)]
  rfl

lemma gainUpdate_eq (h : 2000000 * (settling + 1) ≤ p.gainUpdateIntervalUs.toNat * clkrf.toNat) :
    gainUpdate p.gainUpdateIntervalUs.toNat (clkRF clkrf) settling =
      ((p.gainUpdateIntervalUs.toNat * clkrf.toNat - 2000000 * (settling + 1) + 1000000) / 2000000 : ℕ) := by
  have hquot : ((p.gainUpdateIntervalUs.toNat : ℚ) * clkRF clkrf - (settling : ℤ) * 2 - 2) / 2 =
      ((p.gainUpdateIntervalUs.toNat * clkrf.toNat - 2000000 * (settling + 1) : ℕ) : ℚ) / (2 * 1000000 : ℕ) := by
    rw [clkRF, Nat.cast_sub h]
    push_cast
    ring
  rw [gainUpdate, hquot, round_natCast_div (by decide)]

lemma energyDetect_eq : energyDetect (p.fAgcStateWaitTimeNs.toNat / 1000) (clkRF clkrf) =
    ((p.fAgcStateWaitTimeNs.toNat * clkrf.toNat + 500000000) / 1000000000 : ℕ) := by
  have hquot : (p.fAgcStateWaitTimeNs.toNat / 1000 : ℚ) * clkRF clkrf =
      ((p.fAgcStateWaitTimeNs.toNat * clkrf.toNat : ℕ) : ℚ) / (2 * 500000000 : ℕ) := by
    rw [clkRF]
    push_cast
    ring
  rw [energyDetect, hquot, round_natCast_div (by decide)]

end Formulas

section Values

variable {p : GcParams} {clkrf rxSamplClk x y : UInt32} {k : ℕ}

lemma toNat_mask (hk : k ≤ 16) : (x &&& UInt32.ofNat (2 ^ k - 1)).toNat = x.toNat % 2 ^ k := by
  have hpow : 2 ^ k ≤ 2 ^ 16 := Nat.pow_le_pow_right (by decide) hk
  rw [UInt32.toNat_and, UInt32.toNat_ofNat_of_lt' ((Nat.sub_le _ _).trans_lt (hpow.trans_lt (by decide))),
    Nat.and_two_pow_sub_one_eq_mod]

lemma toNat_clampByte (h : x.toNat < 2 ^ 8) : (clampByte x).toNat = min 31 x.toNat := by
  rw [clampByte, UInt8.toNat_toUInt32, UInt8.toNat_min, UInt32.toNat_toUInt8, Nat.mod_eq_of_lt h, Nat.min_comm]
  rfl

lemma toNat_clampByte_divRoundUp {q : ℕ} (hx : x.toNat = q) (hy : 0 < y.toNat) {z : UInt32} (hz : z.toNat = k)
    (hbyte : q ⌈/⌉ y.toNat + k < 2 ^ 8) (hsmall : 2 ^ 8 * y.toNat + y.toNat < 2 ^ 32) :
    (clampByte (divRoundUp x y + z)).toNat = min 31 (q ⌈/⌉ y.toNat + k) := by
  have hle : q ≤ y.toNat * 2 ^ 8 := (ceilDiv_le_iff_le_mul hy).mp (by omega)
  have hround : (divRoundUp x y).toNat = q ⌈/⌉ y.toNat := by
    rw [toNat_divRoundUp hy (by rw [hx]; omega), hx]
    rfl
  have hadd : (divRoundUp x y + z).toNat = q ⌈/⌉ y.toNat + k := by
    rw [Word.toNat_add_of_lt (by rw [hround, hz]; omega), hround, hz]
  rw [toNat_clampByte (by rw [hadd]; exact hbyte), hadd]

lemma toNat_parts (hmul : x.toNat * (clkrf.toNat / y.toNat) < 2 ^ 32) :
    (x * (clkrf / y)).toNat = x.toNat * (clkrf.toNat / y.toNat) := by
  rw [UInt32.toNat_mul, UInt32.toNat_div, Nat.mod_eq_of_lt hmul]

lemma toNat_clamp {hi : UInt32} : (clamp x 0 hi).toNat = min hi.toNat x.toNat := by
  rw [clamp, UInt32.toNat_max, UInt32.toNat_min, Nat.min_comm]
  exact max_eq_left (Nat.zero_le _)

lemma agcAttackDelay_value (h : p.NoWrap clkrf) : (AGC_ATTACK_DELAY (gcAttackDelay p clkrf)).toNat =
    min 31 (p.attackNs clkrf ⌈/⌉ 1000 + p.agcAttackDelayExtraMarginUs.toNat) := by
  have hsum := h.attackSum
  have hreg : ((200 + p.settlingDelayNs) / 2 + 14000000 / (clkrf / 500)).toNat = p.attackNs clkrf := by
    have hdelay : ((200 + p.settlingDelayNs) / 2).toNat = (200 + p.settlingDelayNs.toNat) / 2 := by
      rw [UInt32.toNat_div, Word.toNat_add_of_lt (a := 200) h.delay]
      rfl
    have hclock : (14000000 / (clkrf / 500) : UInt32).toNat = 14000000 / (clkrf.toNat / 500) := rfl
    rw [attackNs] at hsum ⊢
    rw [Word.toNat_add_of_lt (by rw [hdelay, hclock]; omega), hdelay, hclock]
  have hvalue := toNat_clampByte_divRoundUp hreg (by decide : 0 < (1000 : UInt32).toNat)
    (UInt8.toNat_toUInt32 p.agcAttackDelayExtraMarginUs) h.attackByte (by decide)
  change (gcAttackDelay p clkrf &&& UInt32.ofNat (2 ^ 6 - 1)).toNat = _
  rw [toNat_mask (by decide)]
  change (gcAttackDelay p clkrf).toNat = _ at hvalue
  rw [hvalue]
  exact Nat.mod_eq_of_lt ((min_le_left _ _).trans_lt (by decide))

lemma peakWaitTime_value (h : p.NoWrap clkrf) : (PEAK_OVERLOAD_WAIT_TIME (gcPeakWait p clkrf)).toNat =
    min 31 (p.peakParts clkrf ⌈/⌉ 1000000 + 1) := by
  have hdelay := h.delay
  have hsum := h.peakSum
  have hadd : (p.settlingDelayNs + 100).toNat = p.settlingDelayNs.toNat + 100 :=
    Word.toNat_add_of_lt (b := 100) (by change _ + 100 < _; omega)
  have hreg : ((p.settlingDelayNs + 100) * (clkrf / 1000)).toNat = p.peakParts clkrf := by
    rw [peakParts, ← hadd] at hsum
    rw [peakParts, ← hadd]
    exact toNat_parts (y := 1000) (by change _ * (clkrf.toNat / 1000) < _; omega)
  have hvalue := toNat_clampByte_divRoundUp hreg (by decide : 0 < (1000000 : UInt32).toNat) (rfl : (1 : UInt32).toNat = 1)
    h.peakByte (by decide)
  change (gcPeakWait p clkrf).toNat = _ at hvalue
  change (gcPeakWait p clkrf &&& UInt32.ofNat (2 ^ 5 - 1)).toNat = _
  rw [toNat_mask (by decide), hvalue]
  exact Nat.mod_eq_of_lt ((min_le_left _ _).trans_lt (by decide))

lemma gcSettlingDelay_value (h : p.NoWrap clkrf) : (gcSettlingDelay p clkrf).toNat = p.settlingCount clkrf := by
  have hdelay := h.delay
  have hsum := h.settlingSum
  have hadd : (p.settlingDelayNs + 200).toNat = p.settlingDelayNs.toNat + 200 :=
    Word.toNat_add_of_lt (b := 200) (by change _ + 200 < _; omega)
  have hreg : ((p.settlingDelayNs + 200) * (clkrf / 2000)).toNat = p.settlingParts clkrf := by
    rw [settlingParts, ← hadd] at hsum
    rw [settlingParts, ← hadd]
    exact toNat_parts (y := 2000) (by change _ * (clkrf.toNat / 2000) < _; omega)
  exact toNat_clampByte_divRoundUp hreg (by decide : 0 < (1000000 : UInt32).toNat) (rfl : (7 : UInt32).toNat = 7)
    h.settlingByte (by decide)

lemma settlingDelay_value (h : p.NoWrap clkrf) : (SETTLING_DELAY (gcSettlingDelay p clkrf)).toNat = p.settlingCount clkrf := by
  change (gcSettlingDelay p clkrf &&& UInt32.ofNat (2 ^ 5 - 1)).toNat = _
  rw [toNat_mask (by decide), gcSettlingDelay_value h]
  exact Nat.mod_eq_of_lt ((min_le_left _ _).trans_lt (by decide))

lemma gainUpdate_value (h : p.NoWrap clkrf) : (gcGainUpdate p clkrf (gcSettlingDelay p clkrf)).toNat =
    min 131071 ((p.updateParts clkrf - (p.settlingCount clkrf * 2000 + 2000) + 1000) / 2000) := by
  have hproduct := h.updateProduct
  have habove := h.updateAbove
  have hcount : p.settlingCount clkrf ≤ 31 := min_le_left _ _
  have hreg : (p.gainUpdateIntervalUs * (clkrf / 1000)).toNat = p.updateParts clkrf := toNat_parts (y := 1000) hproduct
  have hsettling : (gcSettlingDelay p clkrf * 2000).toNat = p.settlingCount clkrf * 2000 := by
    rw [UInt32.toNat_mul, gcSettlingDelay_value h]
    exact Nat.mod_eq_of_lt (by change _ * 2000 < _; omega)
  have hfirst : (p.gainUpdateIntervalUs * (clkrf / 1000) - gcSettlingDelay p clkrf * 2000).toNat =
      p.updateParts clkrf - p.settlingCount clkrf * 2000 := by
    have hle : (gcSettlingDelay p clkrf * 2000).toNat ≤ (p.gainUpdateIntervalUs * (clkrf / 1000)).toNat := by
      rw [hreg, hsettling]
      exact (Nat.le_add_right _ _).trans habove
    rw [Word.toNat_sub_of_le hle, hreg, hsettling]
  have hsecond : (p.gainUpdateIntervalUs * (clkrf / 1000) - gcSettlingDelay p clkrf * 2000 - 2000).toNat =
      p.updateParts clkrf - (p.settlingCount clkrf * 2000 + 2000) := by
    have hle : (2000 : UInt32).toNat ≤ (p.gainUpdateIntervalUs * (clkrf / 1000) - gcSettlingDelay p clkrf * 2000).toNat := by
      rw [hfirst]
      exact Nat.le_sub_of_add_le' habove
    rw [Word.toNat_sub_of_le hle, hfirst, Nat.sub_add_eq]
    rfl
  rw [gcGainUpdate, toNat_clamp, toNat_divRoundClosest (by rw [hsecond]; change _ + 1000 < _; omega), hsecond]
  rfl

lemma energyDetect_value (h : p.NoWrap clkrf) : (ENERGY_DETECT_COUNT (gcEnergyDetect p clkrf)).toNat =
    min 31 ((p.waitParts clkrf + 500000) / 1000000) := by
  have hsum := h.energySum
  have hreg : (p.fAgcStateWaitTimeNs * (clkrf / 1000)).toNat = p.waitParts clkrf :=
    toNat_parts (y := 1000) (Nat.lt_of_le_of_lt (Nat.le_add_right _ 500000) hsum)
  change (gcEnergyDetect p clkrf &&& UInt32.ofNat (2 ^ 5 - 1)).toNat = _
  rw [toNat_mask (by decide), gcEnergyDetect, toNat_clamp, toNat_divRoundClosest (by rw [hreg]; exact hsum), hreg]
  exact Nat.mod_eq_of_lt ((min_le_left _ _).trans_lt (by decide))

end Values

section Fields

variable {p : GcParams} {clkrf rxSamplClk : UInt32}

lemma attack_iff (hclk : 0 < clkrf.toNat) {j : ℕ} (hj : j ≤ 31) :
    (j : ℤ) = saturate 63 (attackDelay p.delayLna (clkRF clkrf)) ↔
      2000 * clkrf.toNat * j < (200 + p.settlingDelayNs.toNat) * clkrf.toNat + 14000000000 + 4000 * clkrf.toNat ∧
        (200 + p.settlingDelayNs.toNat) * clkrf.toNat + 14000000000 + 2000 * clkrf.toNat ≤ 2000 * clkrf.toNat * j := by
  rw [attackDelay_eq hclk, @saturate_natCast 63 _ 63 rfl, Nat.cast_inj]
  have hpos : 0 < 2000 * clkrf.toNat := Nat.mul_pos (by decide) hclk
  have hfour : 4000 * clkrf.toNat = 2000 * clkrf.toNat + 2000 * clkrf.toNat := by omega
  rw [hfour]
  generalize (200 + p.settlingDelayNs.toNat) * clkrf.toNat + 14000000000 = ns
  generalize 2000 * clkrf.toNat = c at hpos ⊢
  have hle : ∀ k, ns ⌈/⌉ c ≤ k ↔ ns ≤ c * k := fun k => ceilDiv_le_iff_le_mul hpos
  cases j with
  | zero => omega
  | succ i =>
    have hupper := hle i
    have hlower : i ≤ ns ⌈/⌉ c ↔ c * i < ns + c := by
      cases i with
      | zero => omega
      | succ l =>
        have hl := hle l
        rw [Nat.mul_succ]
        omega
    rw [Nat.mul_succ]
    lia

lemma peak_iff : ((min 31 (p.peakParts clkrf ⌈/⌉ 1000000 + 1) : ℕ) : ℤ) = saturate 31 (peakWait p.delayLna (clkRF clkrf)) ↔
    29000000 < p.peakParts clkrf ∨ (p.settlingDelayNs.toNat + 100) * (clkrf.toNat % 1000) ≤
      1000 * (1000000 * (p.peakParts clkrf ⌈/⌉ 1000000) - p.peakParts clkrf) := by
  have hparts : (p.settlingDelayNs.toNat + 100) * clkrf.toNat =
      1000 * p.peakParts clkrf + (p.settlingDelayNs.toNat + 100) * (clkrf.toNat % 1000) := by
    rw [peakParts, Nat.mul_left_comm, ← Nat.mul_add, Nat.div_add_mod]
  rw [peakWait_eq, @saturate_natCast 31 _ 31 rfl, Nat.cast_inj, hparts]
  exact min_cut_ceilDiv_iff (k := 1) (c := 1000) (n := 1000000) (by decide) (by decide) 29

lemma settling_iff : (p.settlingCount clkrf : ℤ) = saturate 31 (GcFormula.settlingDelay p.delayLna (clkRF clkrf)) ↔
    23000000 < p.settlingParts clkrf ∨ (p.settlingDelayNs.toNat + 200) * (clkrf.toNat % 2000) ≤
      2000 * (1000000 * (p.settlingParts clkrf ⌈/⌉ 1000000) - p.settlingParts clkrf) := by
  have hparts : (p.settlingDelayNs.toNat + 200) * clkrf.toNat =
      2000 * p.settlingParts clkrf + (p.settlingDelayNs.toNat + 200) * (clkrf.toNat % 2000) := by
    rw [settlingParts, Nat.mul_left_comm, ← Nat.mul_add, Nat.div_add_mod]
  rw [settlingDelay_eq, @saturate_natCast 31 _ 31 rfl, Nat.cast_inj, hparts, settlingCount]
  exact min_cut_ceilDiv_iff (k := 7) (c := 2000) (n := 1000000) (by decide) (by decide) 23

lemma counter_iff (h : p.settlingCount clkrf * 2000 + 2000 ≤ p.updateParts clkrf) :
    ((min 131071 ((p.updateParts clkrf - (p.settlingCount clkrf * 2000 + 2000) + 1000) / 2000) : ℕ) : ℤ) =
        saturate 131071 (gainUpdate p.gainUpdateIntervalUs.toNat (clkRF clkrf) (p.settlingCount clkrf)) ↔
      131071 * 2000 + p.settlingCount clkrf * 2000 + 1000 ≤ p.updateParts clkrf ∨
        1000 * ((p.updateParts clkrf + 1000) % 2000) + p.gainUpdateIntervalUs.toNat * (clkrf.toNat % 1000) < 2000000 := by
  have hparts : p.gainUpdateIntervalUs.toNat * clkrf.toNat =
      1000 * p.updateParts clkrf + p.gainUpdateIntervalUs.toNat * (clkrf.toNat % 1000) := by
    rw [updateParts, Nat.mul_left_comm, ← Nat.mul_add, Nat.div_add_mod]
  have hcut := @min_cut_div_iff (p.updateParts clkrf - (p.settlingCount clkrf * 2000 + 2000) + 1000)
    (p.gainUpdateIntervalUs.toNat * (clkrf.toNat % 1000)) 1000 2000 131071 (by decide) (by decide)
  rw [gainUpdate_eq (by omega), @saturate_natCast 131071 _ 131071 rfl, Nat.cast_inj, hparts]
  have hwhole : 1000 * p.updateParts clkrf + p.gainUpdateIntervalUs.toNat * (clkrf.toNat % 1000) -
      2000000 * (p.settlingCount clkrf + 1) + 1000000 =
        1000 * (p.updateParts clkrf - (p.settlingCount clkrf * 2000 + 2000) + 1000) +
          p.gainUpdateIntervalUs.toNat * (clkrf.toNat % 1000) := by omega
  have hrem : (p.updateParts clkrf - (p.settlingCount clkrf * 2000 + 2000) + 1000) % 2000 =
      (p.updateParts clkrf + 1000) % 2000 := by omega
  rw [hrem] at hcut
  rw [hwhole]
  refine hcut.trans (or_congr_left ?_)
  omega

lemma energy_iff : ((min 31 ((p.waitParts clkrf + 500000) / 1000000) : ℕ) : ℤ) =
      saturate 31 (energyDetect (p.fAgcStateWaitTimeNs.toNat / 1000) (clkRF clkrf)) ↔
    30500000 ≤ p.waitParts clkrf ∨ 1000 * ((p.waitParts clkrf + 500000) % 1000000) +
      p.fAgcStateWaitTimeNs.toNat * (clkrf.toNat % 1000) < 1000000000 := by
  have hparts : p.fAgcStateWaitTimeNs.toNat * clkrf.toNat + 500000000 =
      1000 * (p.waitParts clkrf + 500000) + p.fAgcStateWaitTimeNs.toNat * (clkrf.toNat % 1000) := by
    have hsplit : p.fAgcStateWaitTimeNs.toNat * clkrf.toNat =
        1000 * p.waitParts clkrf + p.fAgcStateWaitTimeNs.toNat * (clkrf.toNat % 1000) := by
      rw [waitParts, Nat.mul_left_comm, ← Nat.mul_add, Nat.div_add_mod]
    omega
  rw [energyDetect_eq, @saturate_natCast 31 _ 31 rfl, Nat.cast_inj, hparts]
  refine (min_cut_div_iff (c := 1000) (n := 1000000) (by decide) (by decide)).trans (or_congr_left ?_)
  omega

section Power

variable {reg : UInt32}

lemma firDiv_eq (hclk : 0 < clkrf.toNat) (hmax : clkrf.toNat ≤ 245760000) (hrx : rxSamplClk.toNat ∣ clkrf.toNat) :
    0 < rxSamplClk.toNat ∧ (divRoundClosest clkrf rxSamplClk).toNat = clkrf.toNat / rxSamplClk.toNat ∧
      0 < clkrf.toNat / rxSamplClk.toNat := by
  obtain ⟨q, hq⟩ := hrx
  have hpos : 0 < rxSamplClk.toNat := Nat.pos_of_ne_zero fun h => by
    rw [h, Nat.zero_mul] at hq
    exact hclk.ne' hq
  have hqpos : 0 < q := Nat.pos_of_ne_zero fun h => by
    rw [h, Nat.mul_zero] at hq
    exact hclk.ne' hq
  have hle : rxSamplClk.toNat ≤ clkrf.toNat := hq ▸ Nat.le_mul_of_pos_right _ hqpos
  refine ⟨hpos, ?_, ?_⟩
  · rw [toNat_divRoundClosest (by omega), hq, Nat.mul_add_div hpos, Nat.mul_div_cancel_left _ hpos,
      Nat.div_eq_of_lt (Nat.div_lt_self hpos (by decide)), Nat.add_zero]
  · rw [hq, Nat.mul_div_cancel_left _ hpos]
    exact hqpos

/-- The samples fit the field unless the fast attack mode asks for more. -/
lemma gcDecPowMeasDur_eq (hclk : 0 < clkrf.toNat) (hmax : clkrf.toNat ≤ 245760000) (hrx : rxSamplClk.toNat ∣ clkrf.toNat)
    (hreg : reg.toNat ≤ 131071) (hdec : ¬(p.agcMode0 = .fastAttackAgc ∨ p.agcMode1 = .fastAttackAgc) →
      p.decPowMeasuremntDuration ≠ 0) :
    ∃ d, gcDecPowMeasDur p clkrf rxSamplClk reg = some d ∧ d.toNat = p.powerSamples clkrf rxSamplClk reg.toNat := by
  obtain ⟨hrxpos, hfir, hfirpos⟩ := firDiv_eq hclk hmax hrx
  rw [gcDecPowMeasDur, powerSamples]
  by_cases hfast : p.agcMode0 = .fastAttackAgc ∨ p.agcMode1 = .fastAttackAgc
  · rw [if_pos hfast, if_pos hfast]
    exact ⟨_, rfl, rfl⟩
  · have hdecpos : p.decPowMeasuremntDuration.toUInt32 ≠ 0 := fun h => hdec hfast (by
      have hnat := congrArg UInt32.toNat h
      rw [UInt16.toNat_toUInt32] at hnat
      exact UInt16.toNat_inj.mp hnat)
    have hnone : ¬(rxSamplClk = 0 ∨ divRoundClosest clkrf rxSamplClk = 0 ∨ p.decPowMeasuremntDuration.toUInt32 = 0) := by
      rintro (h | h | h)
      · exact Word.ne_zero_of_pos hrxpos h
      · exact Word.ne_zero_of_pos (by rw [hfir]; exact hfirpos) h
      · exact hdecpos h
    have hquot : (reg * 2 / divRoundClosest clkrf rxSamplClk / p.decPowMeasuremntDuration.toUInt32).toNat =
        reg.toNat * 2 / (clkrf.toNat / rxSamplClk.toNat) / p.decPowMeasuremntDuration.toNat := by
      rw [UInt32.toNat_div, UInt32.toNat_div, hfir, UInt16.toNat_toUInt32, UInt32.toNat_mul]
      change reg.toNat * 2 % 2 ^ 32 / _ / _ = _
      rw [Nat.mod_eq_of_lt (by omega)]
    rw [if_neg hfast, if_neg hfast]
    dsimp only
    rw [if_neg hnone]
    refine ⟨_, rfl, ?_⟩
    rw [apply_ite UInt32.toNat, UInt32.toNat_div, hfir, UInt16.toNat_toUInt32]
    refine if_congr ?_ rfl rfl
    rw [UInt32.lt_iff_toNat_lt, hquot]
    rfl

lemma gcDecPowMeasDur_none (hfast : ¬(p.agcMode0 = .fastAttackAgc ∨ p.agcMode1 = .fastAttackAgc))
    (hdec : p.decPowMeasuremntDuration = 0) : gcDecPowMeasDur p clkrf rxSamplClk reg = none := by
  have hnone : rxSamplClk = 0 ∨ divRoundClosest clkrf rxSamplClk = 0 ∨ p.decPowMeasuremntDuration.toUInt32 = 0 := by
    rw [hdec]
    exact Or.inr (Or.inr rfl)
  rw [gcDecPowMeasDur, if_neg hfast]
  exact if_pos hnone

lemma powerField_value {d : UInt32} : (DEC_POWER_MEASUREMENT_DURATION (ilog2 (d / 16).toInt32).toUInt32).toNat =
    (d.toNat / 16).log2 % 16 := by
  have hlt := d.toNat_lt
  have hword : (d / 16).toInt32 = Int32.ofNat (d.toNat / 16) := by
    apply Int32.toBitVec_inj.mp
    change (d / 16).toBitVec = BitVec.ofNat 32 (d.toNat / 16)
    apply BitVec.eq_of_toNat_eq
    rw [BitVec.toNat_ofNat, Nat.mod_eq_of_lt (by omega)]
    rfl
  have hlog : (d.toNat / 16).log2 < 2 ^ 32 := (Nat.log2_le_self _).trans_lt (by omega)
  have hback : (Int32.ofNat (d.toNat / 16).log2).toUInt32.toNat = (d.toNat / 16).log2 := by
    change (BitVec.ofNat 32 (d.toNat / 16).log2).toNat = _
    rw [BitVec.toNat_ofNat, Nat.mod_eq_of_lt hlog]
  change (_ &&& UInt32.ofNat (2 ^ 4 - 1)).toNat = _
  rw [toNat_mask (by decide), hword, ilog2_eq (by omega), hback]
  rfl

lemma power_iff {d : ℕ} (hd : d < 2 ^ 32) : (d / 16).log2 % 16 = min 15 (d / 16).log2 ↔ d < 2 ^ 20 := by
  have hlow : (d / 16).log2 < 16 ↔ d / 16 < 2 ^ 16 := by
    by_cases hzero : d / 16 = 0
    · rw [hzero]
      decide
    · exact Nat.log2_lt hzero
  have hhigh : (d / 16).log2 < 28 := by
    by_cases hzero : d / 16 = 0
    · rw [hzero]
      decide
    · exact (Nat.log2_lt hzero).mpr (by omega)
  lia

end Power

end Fields

section Update

variable {p : GcParams} {clkrf rxSamplClk : UInt32}

lemma noWrap_of_fits (hlow : 1000000 ≤ clkrf.toNat) (h : p.Fits clkrf) : p.NoWrap clkrf := by
  have hattack := h.attackShort
  have hpeak := h.peakShort
  have hdelay : p.settlingDelayNs.toNat + 100 ≤ 254000000 :=
    (Nat.le_mul_of_pos_right _ (by omega : 0 < clkrf.toNat / 1000)).trans hpeak
  constructor
  · omega
  · omega
  · have hceil : p.attackNs clkrf ⌈/⌉ 1000 ≤ 255 - p.agcAttackDelayExtraMarginUs.toNat :=
      (ceilDiv_le_iff_le_mul (by decide)).mpr (by omega)
    have hmargin := p.agcAttackDelayExtraMarginUs.toNat_lt
    omega
  · omega
  · have hceil : p.peakParts clkrf ⌈/⌉ 1000000 ≤ 254 := (ceilDiv_le_iff_le_mul (by decide)).mpr hpeak
    omega
  · exact Nat.lt_of_le_of_lt (Nat.add_le_add_right h.settlingShort _) (by decide)
  · have hceil : p.settlingParts clkrf ⌈/⌉ 1000000 ≤ 248 := (ceilDiv_le_iff_le_mul (by decide)).mpr h.settlingShort
    omega
  · exact h.updateProduct
  · exact h.updateAbove
  · exact h.energySum

lemma counter_bytes {reg : UInt32} (hreg : reg.toNat ≤ 131071) :
    ((if reg > 65535 then reg / 2 else reg) &&& 0xFF).toUInt8.toNat +
        256 * ((if reg > 65535 then reg / 2 else reg) >>> 8).toUInt8.toNat =
      if 65535 < reg.toNat then reg.toNat / 2 else reg.toNat := by
  have hif : (if reg > 65535 then reg / 2 else reg).toNat = if 65535 < reg.toNat then reg.toNat / 2 else reg.toNat := by
    rw [apply_ite UInt32.toNat, UInt32.toNat_div]
    exact if_congr UInt32.lt_iff_toNat_lt rfl rfl
  have hlt : (if 65535 < reg.toNat then reg.toNat / 2 else reg.toNat) < 2 ^ 16 := by
    split_ifs <;> omega
  rw [← hif] at hlt ⊢
  generalize (if reg > 65535 then reg / 2 else reg) = counter at hlt ⊢
  have hfirst : (counter &&& 0xFF).toUInt8.toNat = counter.toNat % 256 := by
    rw [UInt32.toNat_toUInt8]
    change (counter &&& UInt32.ofNat (2 ^ 8 - 1)).toNat % 256 = _
    rw [toNat_mask (by decide)]
    exact Nat.mod_mod _ _
  have hsecond : (counter >>> 8).toUInt8.toNat = counter.toNat / 256 := by
    rw [UInt32.toNat_toUInt8, UInt32.toNat_shiftRight, Nat.shiftRight_eq_div_pow]
    change counter.toNat / 256 % 256 = _
    lia
  rw [hfirst, hsecond]
  omega

/-- Only in the fast attack mode the samples of a measurement can be too many for the field. -/
lemma powerSamples_lt_iff {v : ℕ} (hv : v ≤ 131071) : p.powerSamples clkrf rxSamplClk v < 2 ^ 20 ↔
    (p.agcMode0 = .fastAttackAgc ∨ p.agcMode1 = .fastAttackAgc → p.fAgcDecPowMeasuremntDuration.toNat < 2 ^ 20) := by
  have hdec := p.decPowMeasuremntDuration.toNat_lt
  have hdiv := Nat.div_le_self v (clkrf.toNat / rxSamplClk.toNat)
  rw [powerSamples]
  by_cases hfast : p.agcMode0 = .fastAttackAgc ∨ p.agcMode1 = .fastAttackAgc
  · rw [if_pos hfast]
    exact ⟨fun h _ => h, fun h => h hfast⟩
  · rw [if_neg hfast]
    refine iff_of_true ?_ fun h => absurd h hfast
    split_ifs <;> omega

/-- Without a wrap the update follows the formulas as far as nothing that is cut off matters. -/
lemma gcUpdate_follows_iff (hlow : 1000000 ≤ clkrf.toNat) (hhigh : clkrf.toNat ≤ 245760000)
    (hrx : rxSamplClk.toNat ∣ clkrf.toNat) (h : p.NoWrap clkrf)
    (hdec : ¬(p.agcMode0 = .fastAttackAgc ∨ p.agcMode1 = .fastAttackAgc) → p.decPowMeasuremntDuration ≠ 0) :
    ∃ u, ad9361GcUpdate p clkrf rxSamplClk = some u ∧ (u.Follows p clkrf rxSamplClk ↔ p.Fits clkrf) := by
  have hclk : 0 < clkrf.toNat := Nat.lt_of_lt_of_le (by decide) hlow
  have hreg := gainUpdate_value h
  have hmax : (gcGainUpdate p clkrf (gcSettlingDelay p clkrf)).toNat ≤ 131071 := hreg ▸ min_le_left _ _
  obtain ⟨d, hd, hsamples⟩ := gcDecPowMeasDur_eq hclk hhigh hrx hmax hdec
  have hclock : clkrf / 500 ≠ 0 := Word.ne_zero_of_pos (by
    rw [UInt32.toNat_div]
    exact Nat.div_pos (by change 500 ≤ _; omega) (by decide))
  rw [ad9361GcUpdate, hd, if_neg hclock, Option.map_some]
  refine ⟨_, rfl, ?_⟩
  have hattack := @attack_iff p clkrf hclk _ (min_le_left 31 (p.attackNs clkrf ⌈/⌉ 1000 + p.agcAttackDelayExtraMarginUs.toNat))
  have hpower := @power_iff d.toNat d.toNat_lt
  rw [hsamples, powerSamples_lt_iff hmax] at hpower
  constructor
  · intro hfollows
    have hattack' := hfollows.attack
    have hpeak := hfollows.peak
    have hsettling := hfollows.settling
    have hcounter := hfollows.counter
    have hsmall := hfollows.power
    have henergy := hfollows.energy
    dsimp only at hattack' hpeak hsettling hcounter hsmall henergy
    rw [agcAttackDelay_value h, hattack] at hattack'
    rw [peakWaitTime_value h, peak_iff] at hpeak
    rw [settlingDelay_value h, settling_iff] at hsettling
    rw [hreg, settlingDelay_value h, counter_iff h.updateAbove] at hcounter
    rw [powerField_value, hsamples, hpower] at hsmall
    rw [energyDetect_value h, energy_iff] at henergy
    have hattackByte := h.attackByte
    have hpeakByte := h.peakByte
    have hsettlingByte := h.settlingByte
    constructor
    · have hceil : p.attackNs clkrf ≤ 1000 * (255 - p.agcAttackDelayExtraMarginUs.toNat) :=
        (ceilDiv_le_iff_le_mul (by decide)).mp (by omega)
      omega
    · exact hattack'.1
    · exact hattack'.2
    · exact (ceilDiv_le_iff_le_mul (a := 1000000) (c := 254) (by decide)).mp (by omega)
    · exact hpeak
    · exact (ceilDiv_le_iff_le_mul (a := 1000000) (c := 248) (by decide)).mp (by omega)
    · exact hsettling
    · exact h.updateProduct
    · exact h.updateAbove
    · exact hcounter
    · split_ifs with hfast
      · exact hsmall hfast
      · exact hdec hfast
    · exact h.energySum
    · exact henergy
  · intro hfits
    constructor
    · exact (agcAttackDelay_value h).symm ▸ hattack.mpr ⟨hfits.attackAbove, hfits.attackBelow⟩
    · exact (peakWaitTime_value h).symm ▸ peak_iff.mpr hfits.peakCut
    · exact (settlingDelay_value h).symm ▸ settling_iff.mpr hfits.settlingCut
    · change ((gcGainUpdate p clkrf (gcSettlingDelay p clkrf)).toNat : ℤ) = _
      rw [hreg, settlingDelay_value h]
      exact (counter_iff h.updateAbove).mpr hfits.updateCut
    · exact decide_eq_decide.mpr UInt32.lt_iff_toNat_lt
    · exact counter_bytes hmax
    · rw [powerField_value, hsamples]
      refine hpower.mpr fun hfast => ?_
      have hsmall := hfits.power
      rwa [if_pos hfast] at hsmall
    · exact (energyDetect_value h).symm ▸ energy_iff.mpr hfits.energyCut

/-- The update follows the formulas, without a wrap, exactly for what fits. -/
theorem ad9361GcUpdate_follows_iff (p : GcParams) (clkrf rxSamplClk : UInt32) (hlow : 1000000 ≤ clkrf.toNat)
    (hhigh : clkrf.toNat ≤ 245760000) (hrx : rxSamplClk.toNat ∣ clkrf.toNat) :
    (∃ u, ad9361GcUpdate p clkrf rxSamplClk = some u ∧ u.Follows p clkrf rxSamplClk ∧ p.NoWrap clkrf) ↔ p.Fits clkrf := by
  constructor
  · rintro ⟨u, hu, hfollows, hnowrap⟩
    have hdec : ¬(p.agcMode0 = .fastAttackAgc ∨ p.agcMode1 = .fastAttackAgc) → p.decPowMeasuremntDuration ≠ 0 := by
      intro hfast hzero
      rw [ad9361GcUpdate, gcDecPowMeasDur_none hfast hzero, Option.map_none, ite_self] at hu
      exact Option.some_ne_none u hu.symm
    obtain ⟨v, hv, hiff⟩ := gcUpdate_follows_iff hlow hhigh hrx hnowrap hdec
    obtain rfl := Option.some.inj (hu.symm.trans hv)
    exact hiff.mp hfollows
  · intro h
    have hnowrap := noWrap_of_fits hlow h
    have hdec : ¬(p.agcMode0 = .fastAttackAgc ∨ p.agcMode1 = .fastAttackAgc) → p.decPowMeasuremntDuration ≠ 0 := by
      intro hfast
      have hpower := h.power
      rwa [if_neg hfast] at hpower
    obtain ⟨u, hu, hiff⟩ := gcUpdate_follows_iff hlow hhigh hrx hnowrap hdec
    exact ⟨u, hu, hiff.mpr h, hnowrap⟩

end Update

/-- The defaults at a clock of 122.88 MHz and a sample rate of 30.72 MHz -/
def defaultGcParams : GcParams where
  settlingDelayNs := 0
  agcAttackDelayExtraMarginUs := 1
  gainUpdateIntervalUs := 1000
  decPowMeasuremntDuration := 8192
  fAgcDecPowMeasuremntDuration := 64
  fAgcStateWaitTimeNs := 260
  agcMode0 := .slowAttackAgc
  agcMode1 := .slowAttackAgc

theorem ad9361GcUpdate_follows_at : ∃ u, ad9361GcUpdate defaultGcParams 122880000 30720000 = some u ∧
    u.Follows defaultGcParams 122880000 30720000 ∧ defaultGcParams.NoWrap 122880000 := by
  refine (ad9361GcUpdate_follows_iff defaultGcParams 122880000 30720000 (by decide) (by decide) (by decide)).mpr ?_
  constructor <;> decide

/-- A delay of 10 us of the LNA is a settling delay of 262 at 50 MHz, of which the byte keeps 6. -/
theorem not_ad9361GcUpdate_follows : ¬∀ (p : GcParams) (clkrf rxSamplClk : UInt32), 1000000 ≤ clkrf.toNat →
    clkrf.toNat ≤ 245760000 → rxSamplClk.toNat ∣ clkrf.toNat →
    ∃ u, ad9361GcUpdate p clkrf rxSamplClk = some u ∧ u.Follows p clkrf rxSamplClk ∧ p.NoWrap clkrf := by
  intro h
  obtain ⟨u, hu, hfollows, -⟩ := h { defaultGcParams with settlingDelayNs := 10000 } 50000000 50000000 (by decide) (by decide)
    (by decide)
  have hsix : (ad9361GcUpdate { defaultGcParams with settlingDelayNs := 10000 } 50000000 50000000).map
      GcUpdate.settlingDelay = some 6 := by decide
  have hsettling := hfollows.settling
  rw [hu] at hsix
  rw [settlingDelay_eq, Option.some.inj hsix] at hsettling
  exact absurd hsettling (by decide)

end NoOS
