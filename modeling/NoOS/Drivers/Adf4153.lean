import Mathlib.Algebra.Order.Floor.Semifield
import Mathlib.Data.Nat.Cast.Order.Field
import Mathlib.Data.Rat.Floor
import Mathlib.Order.Bounds.Basic
import Mathlib.Tactic.Ring
import NoOS.Lib.PackedWord

/-!
# The frequency plan of the ADF4153

The channel spacing makes MOD, then the R counter is raised until the PFD frequency is allowed and INT is large enough for
the prescaler, and then FRAC is raised until the frequency is above the requested one. The `float` expressions are exact.
The limits are those of `adf4153_init`.
-/

namespace NoOS
open PackedWord

def adf4153PfdMaxFrq : ℕ := 32000000
def adf4153VcoMinFrq : ℕ := 500000000
def adf4153VcoMaxFrq : ℕ := 4000000000
def adf4153ModMax : ℕ := 4095

def FREQ_2_GHZ : ℕ := 2000000000
def ADF4153_PRESCALER_4_5 : ℕ := 0
def ADF4153_PRESCALER_8_9 : ℕ := 1

inductive Adf4153Fault
  | divisionByZero
  /-- A float that is converted to a type it does not fit. -/
  | conversion
  /-- FRAC is 0 again, and the loop goes on forever. -/
  | hang
deriving DecidableEq, Repr

structure Adf4153Dev where
  refIn : UInt32
  channelSpacing : UInt32
  r0 : UInt32
  r1 : UInt32
  r2 : UInt32
  r3 : UInt32

structure Adf4153Plan where
  channelSpacing : ℕ
  modValue : ℕ
  prescaler : ℕ
  rCounter : ℕ
  intValue : ℕ
  fracValue : ℕ
deriving DecidableEq

namespace Adf4153

/-- Division that rounds up -/
def CEIL (a b : ℕ) : ℕ := a / b + if 0 < a % b then 1 else 0

/-- The loop that raises the channel spacing. It goes on while MOD fits, and divides by 0 once the spacing has wrapped. -/
def raiseSpacing (refIn spacing : ℕ) : Except Adf4153Fault (ℕ × ℕ) :=
  if 2 ^ 32 ≤ spacing + 1 then .error .divisionByZero
  else if CEIL refIn (spacing + 1) ≤ adf4153ModMax then raiseSpacing refIn (spacing + 1)
  else .ok (spacing + 1, CEIL refIn (spacing + 1))
termination_by 2 ^ 32 - spacing

/-- The PFD frequency for an R counter -/
def pfdFrequency (refIn doubler r : ℕ) : ℕ := ⌊(refIn : ℚ) * (((1 + doubler : ℕ) : ℚ) / r)⌋₊

lemma pfdFrequency_eq (refIn doubler r : ℕ) : pfdFrequency refIn doubler r = refIn * (1 + doubler) / r := by
  rw [pfdFrequency, ← mul_div_assoc, ← Nat.cast_mul, Nat.floor_div_eq_div]

/-- `adf4153_tune_rcounter` with the R counter and the PFD frequency. The counter stays far below its 16 bits. -/
def tuneRcounter (refIn doubler r : ℕ) : Except Adf4153Fault (ℕ × ℕ) :=
  if 2 ^ 32 ≤ pfdFrequency refIn doubler (r + 1) then .error .conversion
  else if adf4153PfdMaxFrq < pfdFrequency refIn doubler (r + 1) then tuneRcounter refIn doubler (r + 1)
  else .ok (r + 1, pfdFrequency refIn doubler (r + 1))
termination_by refIn * (1 + doubler) - r
decreasing_by
  rename_i hgt
  rw [pfdFrequency_eq] at hgt
  have hmul := Nat.div_mul_le_self (refIn * (1 + doubler)) (r + 1)
  have hpos : 1 * (r + 1) ≤ refIn * (1 + doubler) / (r + 1) * (r + 1) := Nat.mul_le_mul_right _ (by lia)
  lia

lemma of_tuneRcounter {refIn doubler r r' pfd : ℕ} (h : tuneRcounter refIn doubler r = .ok (r', pfd)) :
    r < r' ∧ pfd = pfdFrequency refIn doubler r' ∧ pfd ≤ adf4153PfdMaxFrq := by
  fun_induction tuneRcounter refIn doubler r with
  | case1 => exact nomatch h
  | case2 r hlt hgt ih =>
    obtain ⟨hr, hpfd⟩ := ih h
    exact ⟨by lia, hpfd⟩
  | case3 r hlt hle =>
    obtain ⟨rfl, rfl⟩ := Prod.mk.inj (Except.ok.inj h)
    exact ⟨Nat.lt_succ_self r, rfl, not_lt.mp hle⟩

/-- The loop around it, until INT is large enough -/
def findCounter (refIn doubler vco intMin r : ℕ) : Except Adf4153Fault (ℕ × ℕ) :=
  match _htune : tuneRcounter refIn doubler r with
  | .error e => .error e
  | .ok (r', pfd) =>
    if pfd = 0 then .error .divisionByZero
    else if vco / pfd < intMin then findCounter refIn doubler vco intMin r'
    else .ok (r', pfd)
termination_by refIn * (1 + doubler) - r
decreasing_by
  rename_i hzero _
  obtain ⟨hr, hpfd, -⟩ := of_tuneRcounter _htune
  rw [pfdFrequency_eq] at hpfd
  have hmul := Nat.div_mul_le_self (refIn * (1 + doubler)) r'
  have hpos : 1 * r' ≤ refIn * (1 + doubler) / r' * r' := Nat.mul_le_mul_right _ (Nat.pos_of_ne_zero (hpfd ▸ hzero))
  lia

/-- `calculated_frequency` -/
def calculatedFrequency (int frac mod pfd : ℕ) : ℕ := ⌊((int : ℚ) + (frac : ℚ) / mod) * pfd⌋₊

/-- The loop over FRAC -/
def findFrac (vco pfd mod int frac : ℕ) : Except Adf4153Fault ℕ :=
  if 2 ^ 32 ≤ frac + 1 then .error .hang
  else if calculatedFrequency int (frac + 1) mod pfd ≤ vco then findFrac vco pfd mod int (frac + 1)
  else .ok (frac + 1)
termination_by 2 ^ 32 - frac

end Adf4153
open Adf4153

namespace Adf4153Dev

/-- The reference doubler -/
def refDoubler (dev : Adf4153Dev) : ℕ := ((dev.r2 &&& (((7 : UInt32) &&& 1) <<< 11)) >>> 11).toNat

/-- The requested frequency within the limits of the VCO -/
def vcoFrequency (frequency : ℕ) : ℕ :=
  if frequency ≤ adf4153VcoMaxFrq then if adf4153VcoMinFrq ≤ frequency then frequency else adf4153VcoMinFrq
  else adf4153VcoMaxFrq

def devicePrescaler (vco : ℕ) : ℕ := if vco ≤ FREQ_2_GHZ then ADF4153_PRESCALER_4_5 else ADF4153_PRESCALER_8_9
def intMin (prescaler : ℕ) : ℕ := if prescaler = ADF4153_PRESCALER_4_5 then 31 else 91

/-- The channel spacing and MOD -/
def channelMod (dev : Adf4153Dev) : Except Adf4153Fault (ℕ × ℕ) :=
  let spacing := dev.channelSpacing.toNat
  if spacing = 0 then .error .divisionByZero
  else if adf4153ModMax < CEIL dev.refIn.toNat spacing then raiseSpacing dev.refIn.toNat spacing
  else .ok (spacing, CEIL dev.refIn.toNat spacing)

/-- What `adf4153_set_frequency` computes, with the frequency that it returns -/
def plan (dev : Adf4153Dev) (frequency : ℕ) : Except Adf4153Fault (Adf4153Plan × ℕ) := do
  let vco := vcoFrequency frequency
  let (channelSpacing, modValue) ← dev.channelMod
  let prescaler := devicePrescaler vco
  let (rCounter, pfd) ← findCounter dev.refIn.toNat dev.refDoubler vco (intMin prescaler) 0
  let intValue := vco / pfd
  let frac ← findFrac vco pfd modValue intValue 0
  let fracValue := frac - 1
  .ok (⟨channelSpacing, modValue, prescaler, rCounter, intValue, fracValue⟩,
    calculatedFrequency intValue fracValue modValue pfd)

/-- `adf4153_update_latch` with the buffer of the latch -/
def updateLatch (dev : Adf4153Dev) (latchData : UInt32) : Adf4153Dev :=
  let latchType := latchData &&& 0x3
  if latchType = 0 then { dev with r0 := latchData }
  else if latchType = 1 then { dev with r1 := latchData }
  else if latchType = 2 then { dev with r2 := latchData }
  else { dev with r3 := latchData }

def ADF4153_CTRL_N_DIVIDER : UInt32 := 0
def ADF4153_CTRL_R_DIVIDER : UInt32 := 1
def ADF4153_CTRL_CONTROL : UInt32 := 2

def ADF4153_R0_FRAC (x : UInt32) : UInt32 := (x &&& 0xFFF) <<< 2
def ADF4153_R0_INT (x : UInt32) : UInt32 := (x &&& 0x1FF) <<< 14
def ADF4153_R1_MOD (x : UInt32) : UInt32 := (x &&& 0xFFF) <<< 2
def ADF4153_R1_RCOUNTER (x : UInt32) : UInt32 := (x &&& 0xF) <<< 14
def ADF4153_R1_PRESCALE (x : UInt32) : UInt32 := (x &&& 0x1) <<< 18
def ADF4153_R2_COUNTER_RST (x : UInt32) : UInt32 := (x &&& 0x1) <<< 2

/-- The bits that are kept of the latches. A complement binds more tightly than the shift of the macro behind it. -/
def keepR0 : UInt32 := ((~~~(0xFFF &&& 0xFFF : UInt32)) <<< 2) &&& ((~~~(0x1FF &&& 0x1FF : UInt32)) <<< 14)
def keepR1 : UInt32 :=
  ((~~~(0xFFF &&& 0xFFF : UInt32)) <<< 2) &&& ((~~~(0xF &&& 0xF : UInt32)) <<< 14) &&& ((~~~(0x1 &&& 0x1 : UInt32)) <<< 18)
def keepR2 : UInt32 := (~~~(0x1 &&& 0x1 : UInt32)) <<< 2

/-- The latches are loaded between an enabled and a disabled counter reset. -/
def program (dev : Adf4153Dev) (p : Adf4153Plan) : Adf4153Dev :=
  let dev := { dev with channelSpacing := UInt32.ofNat p.channelSpacing }
  let dev := dev.updateLatch (ADF4153_CTRL_CONTROL ||| dev.r2 ||| ADF4153_R2_COUNTER_RST 1)
  let dev := { dev with r1 := dev.r1 &&& keepR1 }
  let dev := dev.updateLatch (ADF4153_CTRL_R_DIVIDER ||| dev.r1 ||| ADF4153_R1_MOD (UInt32.ofNat p.modValue) |||
    ADF4153_R1_RCOUNTER (UInt32.ofNat p.rCounter) ||| ADF4153_R1_PRESCALE (UInt32.ofNat p.prescaler))
  let dev := { dev with r0 := dev.r0 &&& keepR0 }
  let dev := dev.updateLatch (ADF4153_CTRL_N_DIVIDER ||| dev.r0 ||| ADF4153_R0_FRAC (UInt32.ofNat p.fracValue) |||
    ADF4153_R0_INT (UInt32.ofNat p.intValue))
  let dev := { dev with r2 := dev.r2 &&& keepR2 }
  dev.updateLatch (ADF4153_CTRL_CONTROL ||| dev.r2 ||| ADF4153_R2_COUNTER_RST 0)

end Adf4153Dev

def adf4153SetFrequency (dev : Adf4153Dev) (frequency : ℕ) : Except Adf4153Fault (ℕ × Adf4153Dev) := do
  let (p, calculated) ← dev.plan frequency
  .ok (calculated, dev.program p)

namespace Adf4153Dev

/-- The latches hold the plan, and the doubler is as it was. -/
structure Latched (dev dev' : Adf4153Dev) (p : Adf4153Plan) : Prop where
  spacing : dev'.channelSpacing.toNat = p.channelSpacing
  modValue : (unpack 2 12 dev'.r1).toNat = p.modValue
  rCounter : (unpack 14 4 dev'.r1).toNat = p.rCounter
  prescaler : (unpack 18 1 dev'.r1).toNat = p.prescaler
  fracValue : (unpack 2 12 dev'.r0).toNat = p.fracValue
  intValue : (unpack 14 9 dev'.r0).toNat = p.intValue
  doubler : dev'.refDoubler = dev.refDoubler

/-- The counters are in their ranges, and the returned frequency is the one that they make, the next one below `vco`. -/
structure Planned (dev : Adf4153Dev) (vco : ℕ) (p : Adf4153Plan) (ret : ℕ) (dev' : Adf4153Dev) : Prop where
  spacing : IsLeast {s | dev.channelSpacing.toNat ≤ s ∧ CEIL dev.refIn.toNat s ≤ adf4153ModMax} p.channelSpacing
  modValue : 1 ≤ p.modValue ∧ p.modValue ≤ adf4153ModMax
  fracValue : p.fracValue < p.modValue
  intValue : intMin p.prescaler ≤ p.intValue ∧ p.intValue ≤ 511
  rCounter : p.rCounter ≤ 15
  latched : Latched dev dev' p
  le : ret ≤ vco
  near : (vco : ℚ) < ret + (pfdFrequency dev.refIn.toNat dev.refDoubler p.rCounter : ℚ) / p.modValue + 1
  exact : ret = ⌊(pfdFrequency dev.refIn.toNat dev.refDoubler p.rCounter : ℚ) *
    (p.intValue + (p.fracValue : ℚ) / p.modValue)⌋₊

/-- The call returns, and its plan is right. -/
def PlansFrequency (dev : Adf4153Dev) (frequency : ℕ) : Prop :=
  ∃ p ret dev', dev.plan frequency = .ok (p, ret) ∧ adf4153SetFrequency dev frequency = .ok (ret, dev') ∧
    Planned dev (vcoFrequency frequency) p ret dev'

/-- The reference before it is divided -/
def doubledRef (dev : Adf4153Dev) : ℕ := dev.refIn.toNat * (1 + dev.refDoubler)

/-- MOD fits at once, R can be at most 15, and INT is not above 511 with R at 1. -/
structure InRange (dev : Adf4153Dev) (vco : ℕ) : Prop where
  modValue : CEIL dev.refIn.toNat dev.channelSpacing.toNat ≤ adf4153ModMax
  pfd : dev.doubledRef / 15 ≤ adf4153PfdMaxFrq
  int : intMin (devicePrescaler vco) ≤ vco / (dev.doubledRef / 15)
  quotient : vco < 512 * dev.doubledRef

end Adf4153Dev

namespace Adf4153

variable {refIn doubler r r' k pfd vco imin mod int frac m s : ℕ}

lemma div_anti (h : r ≤ k) (hr : 0 < r) (x : ℕ) : x / k ≤ x / r := Nat.div_le_div_left h hr

/-- The inner loop stops at the first counter that makes an allowed PFD frequency. -/
lemma tuneRcounter_spec (hx : refIn * (1 + doubler) < 2 ^ 32) (hk : refIn * (1 + doubler) / k ≤ adf4153PfdMaxFrq) (hr : r < k) :
    ∃ r', tuneRcounter refIn doubler r = .ok (r', refIn * (1 + doubler) / r') ∧ r < r' ∧ r' ≤ k ∧
      ∀ j, r < j → j < r' → adf4153PfdMaxFrq < refIn * (1 + doubler) / j := by
  fun_induction tuneRcounter refIn doubler r with
  | case1 r hover =>
    rw [pfdFrequency_eq] at hover
    have hle := Nat.div_le_self (refIn * (1 + doubler)) (r + 1)
    lia
  | case2 r _ hgt ih =>
    rw [pfdFrequency_eq] at hgt
    have hne : r + 1 ≠ k := fun heq => by
      rw [heq] at hgt
      omega
    obtain ⟨r', heq, hlt, hle, hbefore⟩ := ih (by lia)
    refine ⟨r', heq, by lia, hle, fun j hj hj' => ?_⟩
    rcases Nat.lt_or_ge (r + 1) j with hlater | hfirst
    · exact hbefore j hlater hj'
    · rwa [show j = r + 1 by lia]
  | case3 r _ hle =>
    rw [pfdFrequency_eq]
    exact ⟨r + 1, rfl, Nat.lt_succ_self r, hr, fun j hj hj' => by lia⟩

lemma findCounter_of_tune (h : tuneRcounter refIn doubler r = .ok (r', pfd)) :
    findCounter refIn doubler vco imin r = if pfd = 0 then .error .divisionByZero
      else if vco / pfd < imin then findCounter refIn doubler vco imin r' else .ok (r', pfd) := by
  rw [findCounter]
  split
  · rename_i e heq
    exact nomatch h.symm.trans heq
  · rename_i r₁ pfd₁ heq
    obtain ⟨rfl, rfl⟩ := Prod.mk.inj (Except.ok.inj (h.symm.trans heq))
    rfl

/-- A counter is good if its PFD frequency is allowed and INT is large enough. -/
def Good (x vco imin r : ℕ) : Prop := x / r ≤ adf4153PfdMaxFrq ∧ imin ≤ vco / (x / r)

lemma findCounter_spec (hx : refIn * (1 + doubler) < 2 ^ 32) (himin : 0 < imin)
    (hk : Good (refIn * (1 + doubler)) vco imin k) (hr : r < k) :
    ∃ r', findCounter refIn doubler vco imin r = .ok (r', refIn * (1 + doubler) / r') ∧ r < r' ∧ r' ≤ k ∧
      Good (refIn * (1 + doubler)) vco imin r' ∧ 0 < refIn * (1 + doubler) / r' ∧
      ∀ j, r < j → j < r' → ¬Good (refIn * (1 + doubler)) vco imin j := by
  induction hn : k - r using Nat.strong_induction_on generalizing r with
  | _ n ih =>
    obtain ⟨r', htune, hlt, hle, hbefore⟩ := tuneRcounter_spec hx hk.1 hr
    have hmax := (of_tuneRcounter htune).2.2
    have hpos : 0 < refIn * (1 + doubler) / r' := by
      have hquot : 0 < refIn * (1 + doubler) / k := Nat.pos_of_ne_zero fun hzero => by
        have hint := hk.2
        rw [hzero, Nat.div_zero] at hint
        omega
      exact hquot.trans_le (div_anti hle (by lia) _)
    rw [findCounter_of_tune htune, if_neg hpos.ne']
    by_cases hint : vco / (refIn * (1 + doubler) / r') < imin
    · have hne : r' ≠ k := fun heq => by
        have hgood := hk.2
        rw [← heq] at hgood
        lia
      obtain ⟨r₁, heq, hlt₁, hle₁, hgood, hpos₁, hfirst⟩ := ih (k - r') (by lia) (by lia) rfl
      rw [if_pos hint]
      refine ⟨r₁, heq, by lia, hle₁, hgood, hpos₁, fun j hj hj₁ => ?_⟩
      rcases lt_trichotomy j r' with hlow | rfl | hhigh
      · exact fun h => absurd h.1 (not_le.mpr (hbefore j hj hlow))
      · exact fun h => absurd h.2 (not_le.mpr hint)
      · exact hfirst j hhigh hj₁
    · rw [if_neg hint]
      exact ⟨r', rfl, hlt, hle, ⟨hmax, not_lt.mp hint⟩, hpos,
        fun j hj hj' h => absurd h.1 (not_le.mpr (hbefore j hj hj'))⟩

lemma of_findCounter (h : findCounter refIn doubler vco imin r = .ok (r', pfd)) :
    r < r' ∧ pfd = refIn * (1 + doubler) / r' ∧ 0 < pfd ∧ Good (refIn * (1 + doubler)) vco imin r' := by
  fun_induction findCounter refIn doubler vco imin r with
  | case1 => exact nomatch h
  | case2 => exact nomatch h
  | case3 r r₁ pfd₁ htune hzero hint ih =>
    obtain ⟨hlt, hrest⟩ := ih h
    exact ⟨(of_tuneRcounter htune).1.trans hlt, hrest⟩
  | case4 r r₁ pfd₁ htune hzero hint =>
    obtain ⟨rfl, rfl⟩ := Prod.mk.inj (Except.ok.inj h)
    obtain ⟨hlt, hpfd, hmax⟩ := of_tuneRcounter htune
    rw [pfdFrequency_eq] at hpfd
    exact ⟨hlt, hpfd, Nat.pos_of_ne_zero hzero, by rwa [← hpfd], by rw [← hpfd]; exact not_lt.mp hint⟩

lemma int_le (hvco : vco ≤ 4000000000) (himin : imin ≤ 91) {x : ℕ} (hx : vco < 512 * x) (hr : 1 ≤ r) (hpos : 0 < x / r)
    (hfirst : ∀ j, 0 < j → j < r → ¬Good x vco imin j) : vco / (x / r) ≤ 511 := by
  rw [← Nat.lt_succ_iff, Nat.div_lt_iff_lt_mul hpos]
  rcases Nat.eq_or_lt_of_le hr with rfl | hlater
  · rwa [Nat.div_one]
  · have hhalf : x / (r - 1) / 2 ≤ x / r := by
      rw [Nat.le_div_iff_mul_le hr]
      calc x / (r - 1) / 2 * r ≤ x / (r - 1) / 2 * (2 * (r - 1)) := Nat.mul_le_mul_left _ (by lia)
        _ = x / (r - 1) / 2 * 2 * (r - 1) := (Nat.mul_assoc _ _ _).symm
        _ ≤ x / (r - 1) * (r - 1) := Nat.mul_le_mul_right _ (Nat.div_mul_le_self _ _)
        _ ≤ x := Nat.div_mul_le_self _ _
    have hbad := hfirst (r - 1) (by lia) (by lia)
    rw [Good, not_and_or, not_le, not_le] at hbad
    rcases hbad with hpfd | hint
    · rw [adf4153PfdMaxFrq] at hpfd
      lia
    · have hprev : 0 < x / (r - 1) := hpos.trans_le (div_anti (Nat.sub_le _ _) (by lia) x)
      rw [Nat.div_lt_iff_lt_mul hprev] at hint
      have hle : imin * (x / (r - 1)) ≤ 91 * (x / (r - 1)) := Nat.mul_le_mul_right _ himin
      lia

lemma calculatedFrequency_eq (int frac mod pfd : ℕ) : calculatedFrequency int frac mod pfd = int * pfd + frac * pfd / mod := by
  have hsplit : ((int : ℚ) + (frac : ℚ) / mod) * pfd = ((int * pfd : ℕ) : ℚ) + ((frac * pfd : ℕ) : ℚ) / mod := by
    push_cast
    ring
  rw [calculatedFrequency, hsplit, add_comm, Nat.floor_add_natCast (by positivity), Nat.floor_div_eq_div, Nat.add_comm]

/-- FRAC is found below MOD, and it is the last one that does not exceed the frequency. -/
lemma findFrac_spec (hmod : mod ≤ 4095) (hvco : vco < int * pfd + pfd) (hfrac : frac < mod)
    (hle : int * pfd + frac * pfd / mod ≤ vco) : ∃ f, findFrac vco pfd mod int frac = .ok (f + 1) ∧ f < mod ∧
      int * pfd + f * pfd / mod ≤ vco ∧ vco < int * pfd + (f + 1) * pfd / mod := by
  fun_induction findFrac vco pfd mod int frac with
  | case1 frac hover => lia
  | case2 frac _ hagain ih =>
    rw [calculatedFrequency_eq] at hagain
    have hne : frac + 1 ≠ mod := fun heq => by
      rw [heq, Nat.mul_div_cancel_left _ (by lia)] at hagain
      lia
    exact ih (by lia) hagain
  | case3 frac _ hdone =>
    rw [calculatedFrequency_eq] at hdone
    exact ⟨frac, rfl, hfrac, hle, not_le.mp hdone⟩

lemma near_of_lt (h : vco < int * pfd + (frac + 1) * pfd / mod) :
    (vco : ℚ) < ((int * pfd + frac * pfd / mod : ℕ) : ℚ) + (pfd : ℚ) / mod + 1 := by
  have hnext : (((frac + 1) * pfd / mod : ℕ) : ℚ) ≤ (((frac + 1) * pfd : ℕ) : ℚ) / mod := Nat.cast_div_le
  have hthis : ((frac * pfd : ℕ) : ℚ) / mod < ((frac * pfd / mod : ℕ) : ℚ) + 1 := by
    rw [← Nat.floor_div_eq_div (K := ℚ)]
    exact Nat.lt_floor_add_one _
  have hsplit : (((frac + 1) * pfd : ℕ) : ℚ) / mod = ((frac * pfd : ℕ) : ℚ) / mod + (pfd : ℚ) / mod := by
    push_cast
    ring
  have hlt : (vco : ℚ) < ((int * pfd : ℕ) : ℚ) + (((frac + 1) * pfd / mod : ℕ) : ℚ) := by exact_mod_cast h
  push_cast at hlt hnext hthis hsplit ⊢
  linarith

lemma of_raiseSpacing (h : raiseSpacing refIn s = .ok (k, m)) : m = CEIL refIn k ∧ adf4153ModMax < m := by
  fun_induction raiseSpacing refIn s with
  | case1 => exact nomatch h
  | case2 s _ _ ih => exact ih h
  | case3 s _ hgt =>
    obtain ⟨rfl, rfl⟩ := Prod.mk.inj (Except.ok.inj h)
    exact ⟨rfl, not_le.mp hgt⟩

end Adf4153

namespace Adf4153Dev

variable {dev : Adf4153Dev} {p : Adf4153Plan}

lemma unpack_latch {low keep : UInt32} {fs : List Slot} {f : Slot} (old : UInt32) (hfs : ∀ f ∈ fs, f.Fits)
    (hapart : fs.Pairwise fun f g => Apart f.offset f.width g.offset g.width) (hf : f ∈ fs)
    (hlow : unpack f.offset f.width low = 0) (hkeep : unpack f.offset f.width keep = 0) :
    unpack f.offset f.width (low ||| (old &&& keep) ||| pack fs) = f.val := by
  rw [unpack_or, unpack_or, unpack_and, hlow, hkeep, UInt32.and_zero, UInt32.or_zero, UInt32.zero_or, unpack_pack hfs hapart hf]

lemma latch_type {low keep : UInt32} {fs : List Slot} (old : UInt32) (hfs : ∀ f ∈ fs, f.Fits) (hkeep : unpack 0 2 keep = 0)
    (habove : ∀ f ∈ fs, Apart 0 2 f.offset f.width) :
    (low ||| (old &&& keep) ||| pack fs) &&& 0x3 = unpack 0 2 low := by
  have htype : ∀ w : UInt32, w &&& 0x3 = unpack 0 2 w := fun w => by
    rw [unpack]
    congr 1
  rw [htype, unpack_or, unpack_or, unpack_and, hkeep, UInt32.and_zero, UInt32.or_zero,
    unpack_gap hfs (by decide) (by decide) habove, UInt32.or_zero]

lemma toNat_masked {x width : ℕ} (hwidth : width < 32) (hx : x < 2 ^ width) :
    (UInt32.ofNat x &&& UInt32.ofNat (2 ^ width - 1)).toNat = x := by
  have hlt : 2 ^ width < 2 ^ 32 := Nat.pow_lt_pow_right (by decide) hwidth
  have hnat : (UInt32.ofNat x).toNat = x := UInt32.toNat_ofNat_of_lt' (hx.trans hlt)
  rw [masked_of_lt hwidth (by rwa [hnat]), hnat]

/-- The fields of the R divider latch, and of the N divider latch -/
def slotsR1 (p : Adf4153Plan) : List Slot :=
  [⟨2, 12, UInt32.ofNat p.modValue &&& UInt32.ofNat (2 ^ 12 - 1)⟩,
    ⟨14, 4, UInt32.ofNat p.rCounter &&& UInt32.ofNat (2 ^ 4 - 1)⟩,
    ⟨18, 1, UInt32.ofNat p.prescaler &&& UInt32.ofNat (2 ^ 1 - 1)⟩]

def slotsR0 (p : Adf4153Plan) : List Slot :=
  [⟨2, 12, UInt32.ofNat p.fracValue &&& UInt32.ofNat (2 ^ 12 - 1)⟩,
    ⟨14, 9, UInt32.ofNat p.intValue &&& UInt32.ofNat (2 ^ 9 - 1)⟩]

lemma fits_slotsR1 (p : Adf4153Plan) : ∀ f ∈ slotsR1 p, f.Fits := by
  simp only [slotsR1, List.mem_cons, List.not_mem_nil, or_false, forall_eq_or_imp, forall_eq]
  exact ⟨fits_masked _ (by decide) (by decide) (by decide), fits_masked _ (by decide) (by decide) (by decide),
    fits_masked _ (by decide) (by decide) (by decide)⟩

lemma fits_slotsR0 (p : Adf4153Plan) : ∀ f ∈ slotsR0 p, f.Fits := by
  simp only [slotsR0, List.mem_cons, List.not_mem_nil, or_false, forall_eq_or_imp, forall_eq]
  exact ⟨fits_masked _ (by decide) (by decide) (by decide), fits_masked _ (by decide) (by decide) (by decide)⟩

def latchR1 (dev : Adf4153Dev) (p : Adf4153Plan) : UInt32 := ADF4153_CTRL_R_DIVIDER ||| (dev.r1 &&& keepR1) ||| pack (slotsR1 p)
def latchR0 (dev : Adf4153Dev) (p : Adf4153Plan) : UInt32 := ADF4153_CTRL_N_DIVIDER ||| (dev.r0 &&& keepR0) ||| pack (slotsR0 p)

lemma latchR1_eq (dev : Adf4153Dev) (p : Adf4153Plan) :
    ADF4153_CTRL_R_DIVIDER ||| (dev.r1 &&& keepR1) ||| ADF4153_R1_MOD (UInt32.ofNat p.modValue) |||
      ADF4153_R1_RCOUNTER (UInt32.ofNat p.rCounter) ||| ADF4153_R1_PRESCALE (UInt32.ofNat p.prescaler) = dev.latchR1 p := by
  rw [latchR1, slotsR1, pack, pack, pack, pack, UInt32.or_zero, ← UInt32.or_assoc, ← UInt32.or_assoc]
  rfl

lemma latchR0_eq (dev : Adf4153Dev) (p : Adf4153Plan) :
    ADF4153_CTRL_N_DIVIDER ||| (dev.r0 &&& keepR0) ||| ADF4153_R0_FRAC (UInt32.ofNat p.fracValue) |||
      ADF4153_R0_INT (UInt32.ofNat p.intValue) = dev.latchR0 p := by
  rw [latchR0, slotsR0, pack, pack, pack, UInt32.or_zero, ← UInt32.or_assoc]
  rfl

lemma refDoubler_eq (dev : Adf4153Dev) : dev.refDoubler = (unpack 11 1 dev.r2).toNat := by
  have hshift : (11 : UInt32).toNat % 32 = 11 := rfl
  have hmask : (((7 : UInt32) &&& 1) <<< 11).toNat >>> 11 = (UInt32.ofNat (2 ^ 1 - 1)).toNat := rfl
  have hoffset : (UInt32.ofNat 11).toNat % 32 = 11 := rfl
  rw [refDoubler, unpack, UInt32.toNat_shiftRight, UInt32.toNat_and, UInt32.toNat_and, UInt32.toNat_shiftRight, hshift, hoffset,
    Nat.shiftRight_and_distrib, hmask]

lemma updateLatch_r0 (dev : Adf4153Dev) {x : UInt32} (hx : x &&& 0x3 = 0) : dev.updateLatch x = { dev with r0 := x } := by
  rw [updateLatch, if_pos hx]

lemma updateLatch_r1 (dev : Adf4153Dev) {x : UInt32} (hx : x &&& 0x3 = 1) : dev.updateLatch x = { dev with r1 := x } := by
  rw [updateLatch, if_neg (by rw [hx]; decide), if_pos hx]

/-- The control latch, or the noise latch where the buffer of the control latch has its lowest bit set. -/
lemma updateLatch_control (dev : Adf4153Dev) (x : UInt32) : ∃ r2 r3,
    dev.updateLatch (ADF4153_CTRL_CONTROL ||| x) = { dev with r2, r3 } ∧ (r2 = dev.r2 ∨ r2 = ADF4153_CTRL_CONTROL ||| x) := by
  have hbit : ((ADF4153_CTRL_CONTROL ||| x) &&& 0x3).toNat.testBit 1 = true := by
    rw [UInt32.toNat_and, UInt32.toNat_or, Nat.testBit_and, Nat.testBit_or]
    have hctrl : ADF4153_CTRL_CONTROL.toNat.testBit 1 = true := rfl
    have hmask : (0x3 : UInt32).toNat.testBit 1 = true := rfl
    rw [hctrl, hmask, Bool.true_or, Bool.true_and]
  rw [updateLatch]
  split_ifs with h0 h1 h2
  · rw [h0] at hbit
    exact absurd hbit (by decide)
  · rw [h1] at hbit
    exact absurd hbit (by decide)
  · exact ⟨_, _, rfl, Or.inr rfl⟩
  · exact ⟨_, _, rfl, Or.inl rfl⟩

lemma program_eq (dev : Adf4153Dev) (p : Adf4153Plan) : ∃ r2 r3,
    dev.program p = ⟨dev.refIn, UInt32.ofNat p.channelSpacing, dev.latchR0 p, dev.latchR1 p, r2, r3⟩ ∧
      unpack 11 1 r2 = unpack 11 1 dev.r2 := by
  obtain ⟨r2, r3, hfirst, hr2⟩ := updateLatch_control { dev with channelSpacing := UInt32.ofNat p.channelSpacing }
    (dev.r2 ||| ADF4153_R2_COUNTER_RST 1)
  have hsame : unpack 11 1 r2 = unpack 11 1 dev.r2 := by
    rcases hr2 with rfl | rfl
    · rfl
    · have hctrl : unpack 11 1 ADF4153_CTRL_CONTROL = 0 := by decide
      have hrst : unpack 11 1 (ADF4153_R2_COUNTER_RST 1) = 0 := by decide
      rw [unpack_or, unpack_or, hctrl, hrst, UInt32.or_zero, UInt32.zero_or]
  have hR1 : dev.latchR1 p &&& 0x3 = 1 := latch_type dev.r1 (fits_slotsR1 p) (by decide) (by simp [slotsR1, Apart])
  have hR0 : dev.latchR0 p &&& 0x3 = 0 := latch_type dev.r0 (fits_slotsR0 p) (by decide) (by simp [slotsR0, Apart])
  obtain ⟨r2', r3', hlast, hr2'⟩ := updateLatch_control
    ⟨dev.refIn, UInt32.ofNat p.channelSpacing, dev.latchR0 p, dev.latchR1 p, r2 &&& keepR2, r3⟩
    ((r2 &&& keepR2) ||| ADF4153_R2_COUNTER_RST 0)
  refine ⟨r2', r3', ?_, ?_⟩
  · rw [program]
    dsimp only
    rw [UInt32.or_assoc, hfirst]
    dsimp only
    rw [latchR1_eq, updateLatch_r1 _ hR1]
    dsimp only
    rw [latchR0_eq, updateLatch_r0 _ hR0]
    dsimp only
    rw [UInt32.or_assoc, hlast]
  · have hkeep : unpack 11 1 (r2 &&& keepR2) = unpack 11 1 r2 := by
      have hones : unpack 11 1 keepR2 = UInt32.ofNat (2 ^ 1 - 1) := by decide
      rw [unpack_and, hones, unpack, UInt32.and_assoc, UInt32.and_self]
    rcases hr2' with rfl | rfl
    · rw [hkeep, hsame]
    · have hctrl : unpack 11 1 ADF4153_CTRL_CONTROL = 0 := by decide
      have hrst : unpack 11 1 (ADF4153_R2_COUNTER_RST 0) = 0 := by decide
      rw [unpack_or, unpack_or, hctrl, hrst, UInt32.or_zero, UInt32.zero_or, hkeep, hsame]

lemma latched_program (hspacing : p.channelSpacing < 2 ^ 32) (hmod : p.modValue ≤ 4095) (hfrac : p.fracValue ≤ 4095)
    (hr : p.rCounter ≤ 15) (hint : p.intValue ≤ 511) (hprescaler : p.prescaler ≤ 1) : Latched dev (dev.program p) p := by
  obtain ⟨r2, r3, heq, hr2⟩ := program_eq dev p
  have hfields1 : ∀ f ∈ slotsR1 p, unpack f.offset f.width (dev.latchR1 p) = f.val := by
    intro f hf
    have hplaces : unpack f.offset f.width ADF4153_CTRL_R_DIVIDER = 0 ∧ unpack f.offset f.width keepR1 = 0 := by
      simp only [slotsR1, List.mem_cons, List.not_mem_nil, or_false] at hf
      rcases hf with rfl | rfl | rfl
      · exact (by decide : unpack 2 12 ADF4153_CTRL_R_DIVIDER = 0 ∧ unpack 2 12 keepR1 = 0)
      · exact (by decide : unpack 14 4 ADF4153_CTRL_R_DIVIDER = 0 ∧ unpack 14 4 keepR1 = 0)
      · exact (by decide : unpack 18 1 ADF4153_CTRL_R_DIVIDER = 0 ∧ unpack 18 1 keepR1 = 0)
    exact unpack_latch dev.r1 (fits_slotsR1 p) (by simp [slotsR1, Apart]) hf hplaces.1 hplaces.2
  have hfields0 : ∀ f ∈ slotsR0 p, unpack f.offset f.width (dev.latchR0 p) = f.val := by
    intro f hf
    have hplaces : unpack f.offset f.width ADF4153_CTRL_N_DIVIDER = 0 ∧ unpack f.offset f.width keepR0 = 0 := by
      simp only [slotsR0, List.mem_cons, List.not_mem_nil, or_false] at hf
      rcases hf with rfl | rfl
      · exact (by decide : unpack 2 12 ADF4153_CTRL_N_DIVIDER = 0 ∧ unpack 2 12 keepR0 = 0)
      · exact (by decide : unpack 14 9 ADF4153_CTRL_N_DIVIDER = 0 ∧ unpack 14 9 keepR0 = 0)
    exact unpack_latch dev.r0 (fits_slotsR0 p) (by simp [slotsR0, Apart]) hf hplaces.1 hplaces.2
  rw [heq]
  simp only [slotsR1, slotsR0, List.mem_cons, List.not_mem_nil, or_false, forall_eq_or_imp, forall_eq] at hfields1 hfields0
  obtain ⟨hf1, hf2, hf3⟩ := hfields1
  obtain ⟨hf4, hf5⟩ := hfields0
  exact {
    spacing := UInt32.toNat_ofNat_of_lt' hspacing
    modValue := by
      dsimp only
      rw [hf1, toNat_masked (by decide) (by omega)]
    rCounter := by
      dsimp only
      rw [hf2, toNat_masked (by decide) (by omega)]
    prescaler := by
      dsimp only
      rw [hf3, toNat_masked (by decide) (by lia)]
    fracValue := by
      dsimp only
      rw [hf4, toNat_masked (by decide) (by omega)]
    intValue := by
      dsimp only
      rw [hf5, toNat_masked (by decide) (by lia)]
    doubler := by rw [refDoubler_eq, refDoubler_eq, hr2] }

variable {frequency vco : ℕ}

lemma vcoFrequency_bounds (frequency : ℕ) : 500000000 ≤ vcoFrequency frequency ∧ vcoFrequency frequency ≤ 4000000000 := by
  rw [vcoFrequency, adf4153VcoMaxFrq, adf4153VcoMinFrq]
  split_ifs <;> lia

lemma intMin_bounds (prescaler : ℕ) : 31 ≤ intMin prescaler ∧ intMin prescaler ≤ 91 := by
  rw [intMin]
  split_ifs <;> omega

lemma of_plan {p : Adf4153Plan} {ret : ℕ} (h : dev.plan frequency = .ok (p, ret)) :
    dev.channelMod = .ok (p.channelSpacing, p.modValue) ∧ p.prescaler = devicePrescaler (vcoFrequency frequency) ∧
      ∃ pfd, findCounter dev.refIn.toNat dev.refDoubler (vcoFrequency frequency)
        (intMin (devicePrescaler (vcoFrequency frequency))) 0 = .ok (p.rCounter, pfd) ∧
        p.intValue = vcoFrequency frequency / pfd := by
  rw [plan] at h
  cases hmod : dev.channelMod with
  | error e =>
    rw [hmod] at h
    exact nomatch h
  | ok found =>
    obtain ⟨spacing, mod⟩ := found
    rw [hmod] at h
    cases hcounter : findCounter dev.refIn.toNat dev.refDoubler (vcoFrequency frequency)
        (intMin (devicePrescaler (vcoFrequency frequency))) 0 with
    | error e =>
      simp only [bind, Except.bind, hcounter] at h
      exact nomatch h
    | ok found =>
      obtain ⟨r, pfd⟩ := found
      simp only [bind, Except.bind, hcounter] at h
      cases hfrac : findFrac (vcoFrequency frequency) pfd mod (vcoFrequency frequency / pfd) 0 with
      | error e =>
        simp only [hfrac] at h
        exact nomatch h
      | ok frac =>
        simp only [hfrac] at h
        obtain ⟨rfl, -⟩ := Prod.mk.inj (Except.ok.inj h)
        exact ⟨rfl, rfl, pfd, rfl, rfl⟩

lemma plan_eq {spacing mod r pfd frac : ℕ} (hchannel : dev.channelMod = .ok (spacing, mod))
    (hcounter : findCounter dev.refIn.toNat dev.refDoubler (vcoFrequency frequency)
      (intMin (devicePrescaler (vcoFrequency frequency))) 0 = .ok (r, pfd))
    (hfrac : findFrac (vcoFrequency frequency) pfd mod (vcoFrequency frequency / pfd) 0 = .ok (frac + 1)) :
    dev.plan frequency = .ok
      (⟨spacing, mod, devicePrescaler (vcoFrequency frequency), r, vcoFrequency frequency / pfd, frac⟩,
        calculatedFrequency (vcoFrequency frequency / pfd) frac mod pfd) := by
  rw [plan]
  simp only [bind, Except.bind, hchannel, hcounter, hfrac, Nat.add_sub_cancel]

lemma channelMod_le {spacing mod : ℕ} (h : dev.channelMod = .ok (spacing, mod))
    (hle : CEIL dev.refIn.toNat spacing ≤ adf4153ModMax) : CEIL dev.refIn.toNat dev.channelSpacing.toNat ≤ adf4153ModMax := by
  rw [channelMod] at h
  split_ifs at h with hzero hgt
  · obtain ⟨rfl, hmax⟩ := of_raiseSpacing h
    omega
  · exact not_lt.mp hgt

lemma inRange_of_plansFrequency (h : dev.PlansFrequency frequency) : InRange dev (vcoFrequency frequency) := by
  obtain ⟨p, ret, dev', hplan, -, hright⟩ := h
  obtain ⟨hmod, hprescaler, pfd, hcounter, hint⟩ := of_plan hplan
  obtain ⟨hr, hpfd, hpos, hgood⟩ := of_findCounter hcounter
  have hle := div_anti hright.rCounter hr dev.doubledRef
  have hquot : vcoFrequency frequency < 512 * pfd := by
    rw [← Nat.div_lt_iff_lt_mul hpos, ← hint]
    exact Nat.lt_succ_of_le hright.intValue.2
  have hvco := (vcoFrequency_bounds frequency).1
  have hpfdle : pfd ≤ dev.doubledRef := hpfd.le.trans (Nat.div_le_self _ _)
  have hlow : 0 < dev.doubledRef / 15 := Nat.div_pos (by lia) (by decide)
  exact {
    modValue := channelMod_le hmod hright.spacing.1.2
    pfd := hle.trans hgood.1
    int := hgood.2.trans (Nat.div_le_div_left hle hlow)
    quotient := hquot.trans_le (Nat.mul_le_mul_left _ hpfdle) }

lemma devicePrescaler_le (vco : ℕ) : devicePrescaler vco ≤ 1 := by
  rw [devicePrescaler]
  split_ifs
  · decide
  · decide

lemma one_le_CEIL {a b : ℕ} (ha : 0 < a) (hb : 0 < b) : 1 ≤ CEIL a b := by
  rw [CEIL]
  split_ifs with hrest
  · exact Nat.le_add_left _ _
  · exact Nat.div_pos (Nat.le_of_dvd ha (Nat.dvd_of_mod_eq_zero (by lia))) hb

lemma refIn_pos (hvco : 0 < vco) (h : InRange dev vco) : 0 < dev.refIn.toNat := Nat.pos_of_ne_zero fun hzero => by
  have hquot := h.quotient
  rw [doubledRef, hzero] at hquot
  omega

lemma plansFrequency_of_inRange (hspacing : 1 ≤ dev.channelSpacing.toNat) (h : InRange dev (vcoFrequency frequency)) :
    dev.PlansFrequency frequency := by
  obtain ⟨hvcomin, hvcomax⟩ := vcoFrequency_bounds frequency
  obtain ⟨himin, himax⟩ := intMin_bounds (devicePrescaler (vcoFrequency frequency))
  have href : dev.doubledRef < 2 ^ 32 := by
    have hpfd := h.pfd
    rw [adf4153PfdMaxFrq] at hpfd
    lia
  obtain ⟨r, hcounter, hr, hle, hgood, hpos, hfirst⟩ :=
    findCounter_spec (r := 0) href (by lia : 0 < intMin _) ⟨h.pfd, h.int⟩ (by decide)
  rw [← doubledRef] at hcounter hgood hpos hfirst
  have hint := int_le hvcomax himax h.quotient hr hpos hfirst
  obtain ⟨pfd, hpfd⟩ : ∃ pfd, pfd = dev.doubledRef / r := ⟨_, rfl⟩
  rw [← hpfd] at hcounter hpos hint
  have hpfd' : pfdFrequency dev.refIn.toNat dev.refDoubler r = pfd := by rw [pfdFrequency_eq, hpfd, doubledRef]
  have hmod : 1 ≤ CEIL dev.refIn.toNat dev.channelSpacing.toNat := one_le_CEIL (refIn_pos (by lia) h) hspacing
  have hchannel : dev.channelMod = .ok (dev.channelSpacing.toNat, CEIL dev.refIn.toNat dev.channelSpacing.toNat) := by
    rw [channelMod, if_neg (by omega), if_neg (not_lt.mpr h.modValue)]
  have hfits := h.modValue
  generalize CEIL dev.refIn.toNat dev.channelSpacing.toNat = mod at hmod hchannel hfits
  obtain ⟨frac, hfrac, hlt, hbelow, habove⟩ := @findFrac_spec pfd _ mod (vcoFrequency frequency / pfd) 0 hfits
    (Nat.lt_div_mul_add hpos) hmod (by rw [Nat.zero_mul, Nat.zero_div, Nat.add_zero]; exact Nat.div_mul_le_self _ _)
  refine ⟨_, _, _, plan_eq hchannel hcounter hfrac, by rw [adf4153SetFrequency, plan_eq hchannel hcounter hfrac]; rfl, ?_⟩
  exact {
    spacing := ⟨⟨le_rfl, h.modValue⟩, fun s hs => hs.1⟩
    modValue := ⟨hmod, hfits⟩
    fracValue := hlt
    intValue := ⟨by rw [hpfd]; exact hgood.2, hint⟩
    rCounter := hle
    latched := latched_program (UInt32.toNat_lt _) hfits (hlt.le.trans hfits) hle hint (devicePrescaler_le _)
    le := by
      rw [calculatedFrequency_eq]
      exact hbelow
    near := by
      rw [hpfd', calculatedFrequency_eq]
      exact near_of_lt habove
    exact := by rw [hpfd', calculatedFrequency, mul_comm] }

end Adf4153Dev

open Adf4153Dev

/-- A frequency is planned right if and only if MOD fits for the channel spacing as it is, the R counter can be at most 15,
and INT is at most 511 for the undivided reference. -/
theorem adf4153SetFrequency_iff (dev : Adf4153Dev) (frequency : ℕ) (hspacing : 1 ≤ dev.channelSpacing.toNat) :
    dev.PlansFrequency frequency ↔ InRange dev (vcoFrequency frequency) :=
  ⟨inRange_of_plansFrequency, plansFrequency_of_inRange hspacing⟩

/-- A device after its initialisation, without the doubler -/
def adf4153At (refIn channelSpacing : UInt32) : Adf4153Dev := ⟨refIn, channelSpacing, 0, 1, 2, 3⟩

/-- 1.805 GHz from 25 MHz with channels of 150 kHz: INT is 72 and FRAC is 33, with MOD 167. -/
theorem adf4153SetFrequency_plans : (adf4153At 25000000 150000).PlansFrequency 1805000000 :=
  (adf4153SetFrequency_iff (adf4153At 25000000 150000) 1805000000 (by decide)).mpr
    ⟨by decide, by decide, by decide, by decide⟩

/-- With channels of 1 kHz MOD would be 25000, and is still too high when the loop is left. -/
theorem not_adf4153SetFrequency : ¬∀ (dev : Adf4153Dev) (frequency : ℕ), 1 ≤ dev.channelSpacing.toNat →
    dev.PlansFrequency frequency := by
  intro h
  have hfits := (inRange_of_plansFrequency (h (adf4153At 25000000 1000) 1800000000 (by decide))).modValue
  exact absurd hfits (by decide)

end NoOS
