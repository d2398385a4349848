import Mathlib.Data.Int.Order.Basic
import Mathlib.Data.UInt
import Mathlib.Logic.Function.Basic
import Mathlib.Tactic.Common

/-!
# The channel dividers of the clock generator `ad9517.c`

The input clock passes the VCO divider and then the divider of a pair of channels, which has one factor for the
LVPECL channels 0 to 3 and two for the LVDS/CMOS channels 4 to 7. The transfers succeed. A negative channel is as
invalid as one above 7.
-/

namespace NoOS

def AD9517_REG_DIVIDER_0_0 : ℕ := 0x190
def AD9517_REG_DIVIDER_0_1 : ℕ := 0x191
def AD9517_REG_DIVIDER_1_0 : ℕ := 0x196
def AD9517_REG_DIVIDER_1_1 : ℕ := 0x197
def AD9517_REG_LVDS_CMOS_DIVIDER_2_0 : ℕ := 0x199
def AD9517_REG_LVDS_CMOS_DIVIDER_2_2 : ℕ := 0x19B
def AD9517_REG_LVDS_CMOS_DIVIDER_2_3 : ℕ := 0x19C
def AD9517_REG_LVDS_CMOS_DIVIDER_3_0 : ℕ := 0x19E
def AD9517_REG_LVDS_CMOS_DIVIDER_3_2 : ℕ := 0x1A0
def AD9517_REG_LVDS_CMOS_DIVIDER_3_3 : ℕ := 0x1A1
def AD9517_REG_VCO_DIVIDER : ℕ := 0x1E0
def AD9517_REG_INPUT_CLKS : ℕ := 0x1E1

def AD9517_DIVIDER_BYPASS : UInt8 := 0x80
def AD9517_BYPASS_DIVIDER_2 : UInt8 := 0x20
def AD9517_BYPASS_DIVIDER_1 : UInt8 := 0x10
def AD9517_POWER_DOWN_VCO_CLK : UInt8 := 0x4
def AD9517_SEL_VCO_CLK : UInt8 := 0x2
def AD9517_BYPASS_VCO_DIVIDER : UInt8 := 0x1

inductive Ad9517Fault
  | divisionByZero
  /-- A search that finds no divider. -/
  | hang
deriving DecidableEq, Repr

/-- The clock selection of the platform data, and the registers. -/
structure Ad9517Dev where
  vcoClkSel : UInt32
  extClkFreq : ℕ
  intVcoFreq : ℕ
  regs : ℕ → UInt8

namespace Ad9517Dev

/-- The registers are written byte by byte. -/
def write (dev : Ad9517Dev) (regAddr : ℕ) (regVal : UInt8) : Ad9517Dev :=
  { dev with regs := Function.update dev.regs regAddr regVal }

/-- The selection of the input that `ad9517_setup` writes. -/
def setup (dev : Ad9517Dev) (powerDownVcoClk : UInt8) : Ad9517Dev :=
  dev.write AD9517_REG_INPUT_CLKS
    (dev.vcoClkSel.toUInt8 * AD9517_SEL_VCO_CLK ||| powerDownVcoClk * AD9517_POWER_DOWN_VCO_CLK)

end Ad9517Dev

/-- The loop from `i` on; `number` passes are enough for `i * i <= number` to fail. -/
def dividersCheckerFrom (number : ℕ) : ℕ → ℕ → Int
  | 0, _ => 1
  | k + 1, i =>
    if i * i ≤ number then
      if number % i = 0 ∧ i ≤ 32 ∧ number / i ≤ 32 then 0 else dividersCheckerFrom number k (i + 1)
    else 1

def dividersChecker (number : ℕ) : Int := dividersCheckerFrom number (number + 1) 1

/-- The first VCO divider from `v` on that makes at most 1600 MHz of the clock. After 255 the `uint8_t` is 0. -/
def raiseVcoDivider (freq : ℕ) : ℕ → ℕ → Except Ad9517Fault ℕ
  | 0, _ => .error .divisionByZero
  | k + 1, v => if freq / v > 1600000000 then raiseVcoDivider freq k (v + 1) else .ok v

/-- The VCO divider is raised up to 6 while the channel divider is greater than its maximum. -/
def spreadVcoDivider (freq frequency dividerMax : ℕ) : ℕ → ℕ → ℕ
  | 0, v => v
  | k + 1, v =>
    if freq / v / frequency > dividerMax then spreadVcoDivider freq frequency dividerMax k (v + 1) else v

/-- The loop over `dividers_checker`, which is 1 for all numbers above 1024. -/
def skipDividers : ℕ → ℕ → Except Ad9517Fault ℕ
  | 0, _ => .error .hang
  | k + 1, divider => if dividersChecker divider ≠ 0 then skipDividers k (divider + 1) else .ok divider

/-- The two dividers around the desired frequency. In at most 1024 passes the divider is at least 1 and the
frequency after it not below the desired one. -/
def searchDividers (freqToChanDiv frequency : ℕ) : ℕ → ℕ → ℕ → Except Ad9517Fault (ℕ × ℕ)
  | 0, _, _ => .error .hang
  | k + 1, freq0Divider, divider =>
    if freqToChanDiv / divider ≥ frequency then
      if divider < 32 then searchDividers freqToChanDiv frequency k divider (divider + 1)
      else do
        let next ← skipDividers 1024 (divider + 1)
        searchDividers freqToChanDiv frequency k divider next
    else .ok (freq0Divider, divider)

/-- The factors of a divider above 32. -/
def splitDivider (divider : ℕ) : ℕ → ℕ → Except Ad9517Fault (ℕ × ℕ)
  | 0, _ => .error .hang
  | k + 1, divider2 =>
    let (divider1, divider2) :=
      if divider % divider2 ≠ 0 then (divider, divider2 - 1) else (divider / divider2, divider2)
    if divider1 > 32 then splitDivider divider k divider2 else .ok (divider1, divider2)

def lowCycles (divider : ℕ) : ℕ := divider / 2 - 1

def highCycles (divider : ℕ) : ℕ := divider / 2 + divider % 2 - 1

/-- The field of four bits for the low cycles above the one for the high cycles. -/
def cyclesValue (divider : ℕ) : UInt8 :=
  ((UInt8.ofNat (lowCycles divider) &&& 0xF) <<< 4) ||| (UInt8.ofNat (highCycles divider) &&& 0xF)

def lvpeclDivider0 (channel : ℕ) : ℕ := if channel / 2 ≠ 0 then AD9517_REG_DIVIDER_1_0 else AD9517_REG_DIVIDER_0_0

def lvpeclDivider1 (channel : ℕ) : ℕ := if channel / 2 ≠ 0 then AD9517_REG_DIVIDER_1_1 else AD9517_REG_DIVIDER_0_1

def lvdsDivider0 (channel : ℕ) : ℕ :=
  if channel / 6 ≠ 0 then AD9517_REG_LVDS_CMOS_DIVIDER_3_0 else AD9517_REG_LVDS_CMOS_DIVIDER_2_0

def lvdsDivider2 (channel : ℕ) : ℕ :=
  if channel / 6 ≠ 0 then AD9517_REG_LVDS_CMOS_DIVIDER_3_2 else AD9517_REG_LVDS_CMOS_DIVIDER_2_2

def lvdsDivider3 (channel : ℕ) : ℕ :=
  if channel / 6 ≠ 0 then AD9517_REG_LVDS_CMOS_DIVIDER_3_3 else AD9517_REG_LVDS_CMOS_DIVIDER_2_3

/-- `dividers` are those whose cycles are written to fields. -/
structure Ad9517Programmed where
  dev : Ad9517Dev
  dividers : List ℕ

def programVcoDivider (dev : Ad9517Dev) (vcoDivider : ℕ) : Ad9517Dev :=
  let regValue := dev.regs AD9517_REG_INPUT_CLKS
  if vcoDivider = 1 ∧ regValue &&& AD9517_SEL_VCO_CLK = 0 then
    dev.write AD9517_REG_INPUT_CLKS (regValue ||| AD9517_BYPASS_VCO_DIVIDER)
  else dev.write AD9517_REG_VCO_DIVIDER ((UInt8.ofNat vcoDivider - 2) &&& 0x7)

def programLvpecl (dev : Ad9517Dev) (channel divider : ℕ) : Ad9517Programmed :=
  if divider = 1 then
    let regAddress := lvpeclDivider1 channel
    ⟨dev.write regAddress (dev.regs regAddress ||| AD9517_DIVIDER_BYPASS), []⟩
  else
    let dev :=
      if channel / 2 ≠ 0 then dev
      else dev.write AD9517_REG_DIVIDER_0_1 (dev.regs AD9517_REG_DIVIDER_0_1 &&& ~~~AD9517_DIVIDER_BYPASS)
    ⟨dev.write (lvpeclDivider0 channel) (cyclesValue divider), [divider]⟩

def programLvds (dev : Ad9517Dev) (channel divider : ℕ) : Except Ad9517Fault Ad9517Programmed :=
  let regAddress := lvdsDivider3 channel
  if divider = 1 then
    let regValue := dev.regs regAddress ||| (AD9517_BYPASS_DIVIDER_2 ||| AD9517_BYPASS_DIVIDER_1)
    .ok ⟨dev.write regAddress regValue, []⟩
  else if divider ≤ 32 then
    let dev := dev.write regAddress (dev.regs regAddress ||| AD9517_BYPASS_DIVIDER_2)
    .ok ⟨dev.write (lvdsDivider0 channel) (cyclesValue divider), [divider]⟩
  else do
    let (divider1, divider2) ← splitDivider divider 33 32
    let dev := dev.write (lvdsDivider0 channel) (cyclesValue divider1)
    pure ⟨dev.write (lvdsDivider2 channel) (cyclesValue divider2), [divider1, divider2]⟩

structure Ad9517Result where
  ret : Int
  vcoDivider : ℕ
  divider : ℕ
  programmed : Ad9517Programmed

def ad9517Clock (dev : Ad9517Dev) : ℕ := if dev.vcoClkSel ≠ 0 then dev.intVcoFreq else dev.extClkFreq

def ad9517VcoDividerMin (dev : Ad9517Dev) : ℕ := if dev.vcoClkSel ≠ 0 then 2 else 1

def ad9517DividerMax (channel : ℕ) : ℕ := if channel ≤ 3 then 32 else if channel ≤ 7 then 1024 else 0

/-- The divider nearer to the desired frequency. -/
def chooseDivider (freqToChanDiv frequency : ℕ) (dividers : ℕ × ℕ) : ℕ :=
  if (frequency : Int) - (freqToChanDiv / dividers.2 : ℕ) > (freqToChanDiv / dividers.1 : ℕ) - (frequency : Int) then
    dividers.1
  else dividers.2

def takeDivider (dividerMax freqToChanDiv frequency : ℕ) : Except Ad9517Fault ℕ :=
  if freqToChanDiv / frequency > dividerMax then .ok dividerMax
  else (chooseDivider freqToChanDiv frequency) <$> searchDividers freqToChanDiv frequency 1025 1 1

def programDivider (dev : Ad9517Dev) (channel divider : ℕ) : Except Ad9517Fault Ad9517Programmed :=
  if channel ≤ 3 then .ok (programLvpecl dev channel divider) else programLvds dev channel divider

def ad9517Frequency (dev : Ad9517Dev) (channel frequency : ℕ) : Except Ad9517Fault Ad9517Result := do
  let dividerMax := ad9517DividerMax channel
  let vcoDivider ← raiseVcoDivider (ad9517Clock dev) (256 - ad9517VcoDividerMin dev) (ad9517VcoDividerMin dev)
  if frequency = 0 then .error .divisionByZero
  else
    let vcoDivider := spreadVcoDivider (ad9517Clock dev) frequency dividerMax (6 - vcoDivider) vcoDivider
    let freqToChanDiv := ad9517Clock dev / vcoDivider
    -- `set_freq` is computed before the channel is looked at.
    if freqToChanDiv / frequency > dividerMax ∧ dividerMax = 0 then .error .divisionByZero
    else
      let dev := programVcoDivider dev vcoDivider
      if channel ≤ 7 then
        let divider ← takeDivider dividerMax freqToChanDiv frequency
        let programmed ← programDivider dev channel divider
        pure ⟨(freqToChanDiv / divider : ℕ), vcoDivider, divider, programmed⟩
      else pure ⟨-1, vcoDivider, 0, ⟨dev, []⟩⟩

namespace Ad9517Dev

/-- The cycles of a divider, each field standing for one more. -/
def cycles (dev : Ad9517Dev) (regAddress : ℕ) : ℕ :=
  (dev.regs regAddress >>> 4).toNat + 1 + ((dev.regs regAddress &&& 0xF).toNat + 1)

/-- A bypass bit is set. -/
def Bypassed (dev : Ad9517Dev) (regAddress : ℕ) (bypass : UInt8) : Prop := dev.regs regAddress &&& bypass ≠ 0

instance decidableBypassed (dev : Ad9517Dev) (regAddress : ℕ) (bypass : UInt8) :
    Decidable (dev.Bypassed regAddress bypass) := inferInstanceAs (Decidable (_ ≠ _))

/-- Five values of the VCO divider stand for 2 to 6. -/
def decodedVcoDivider (dev : Ad9517Dev) : Option ℕ :=
  if dev.Bypassed AD9517_REG_INPUT_CLKS AD9517_BYPASS_VCO_DIVIDER then some 1
  else if (dev.regs AD9517_REG_VCO_DIVIDER &&& 0x7).toNat ≤ 4 then
    some ((dev.regs AD9517_REG_VCO_DIVIDER &&& 0x7).toNat + 2)
  else none

def decodedDivider (dev : Ad9517Dev) (channel : ℕ) : ℕ :=
  if channel ≤ 3 then
    if dev.Bypassed (lvpeclDivider1 channel) AD9517_DIVIDER_BYPASS then 1 else dev.cycles (lvpeclDivider0 channel)
  else
    (if dev.Bypassed (lvdsDivider3 channel) AD9517_BYPASS_DIVIDER_1 then 1 else dev.cycles (lvdsDivider0 channel)) *
      if dev.Bypassed (lvdsDivider3 channel) AD9517_BYPASS_DIVIDER_2 then 1 else dev.cycles (lvdsDivider2 channel)

def decodedRate (dev : Ad9517Dev) (channel : ℕ) : Option ℕ :=
  dev.decodedVcoDivider.map fun vcoDivider => ad9517Clock dev / (vcoDivider * dev.decodedDivider channel)

end Ad9517Dev

end NoOS
