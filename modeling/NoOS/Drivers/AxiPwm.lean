import Mathlib.Algebra.Order.Floor.Div
import Mathlib.Data.UInt
import NoOS.Lib.Trace

/-!
# The PWM generator of `axi_pwm.c`

The calls turn times into counts of the reference clock, in 32 bits. A channel whose period counts 0 is off.
-/

namespace NoOS

def NSEC_PER_USEC : ℕ := 1000
def USEC_PER_SEC : ℕ := 1000000
def AXI_PWMGEN_CHANNEL_DISABLE : UInt32 := 0
def AXI_PWMGEN_LOAD_CONIG : UInt32 := 2

/-- The registers of a channel, and the one for the configuration of the core -/
inductive PwmReg where
  | config
  | period
  | duty
  | phase
deriving DecidableEq

/-- `struct pwm_desc` with its `struct axi_pwm_desc`, and the registers written -/
structure Pwm where
  refClockHz : UInt32
  chPeriod : UInt32
  periodNs : UInt32
  dutyCycleNs : UInt32
  phaseNs : UInt32
  enabled : Bool
  regs : PwmReg → UInt32

namespace Pwm

/-- `axi_io_write`, which fails unless `ok` -/
def write (p : Pwm) (ok : Bool) (r : PwmReg) (data : UInt32) : Pwm × Bool :=
  if ok then ({ p with regs := Function.update p.regs r data }, true) else (p, false)

/-- The counts of all three functions. `tmp` has 32 bits, and `DIV_ROUND_UP` those of a `long`. -/
def count (longBits : ℕ) (refClockHz ns : UInt32) : UInt32 :=
  let tmp := UInt32.ofNat (refClockHz.toNat / NSEC_PER_USEC * ns.toNat)
  UInt32.ofNat ((tmp.toNat + USEC_PER_SEC - 1) % 2 ^ longBits / USEC_PER_SEC)

def enable (p : Pwm) (first second : Bool) : Pwm × Bool :=
  let (p, ret) := p.write first .period p.chPeriod
  if !ret then (p, false) else p.write second .config AXI_PWMGEN_LOAD_CONIG

def disable (p : Pwm) (first second : Bool) : Pwm × Bool :=
  let (p, ret) := p.write first .period AXI_PWMGEN_CHANNEL_DISABLE
  if !ret then (p, false) else p.write second .config AXI_PWMGEN_LOAD_CONIG

def setPeriod (longBits : ℕ) (p : Pwm) (ok : Bool) (periodNs : UInt32) : Pwm × Bool :=
  let periodCnt := count longBits p.refClockHz periodNs
  let p := { p with chPeriod := periodCnt }
  let (p, ret) := p.write ok .period (if p.enabled then periodCnt else 0)
  if !ret then (p, false) else ({ p with periodNs := periodNs }, true)

/-- The first lines of `pwm_set_duty_cycle` -/
def clampDuty (p : Pwm) (dutyCycleNs : UInt32) : UInt32 := if p.periodNs < dutyCycleNs then p.periodNs else dutyCycleNs

def setDutyCycle (longBits : ℕ) (p : Pwm) (ok : Bool) (dutyCycleNs : UInt32) : Pwm × Bool :=
  let dutyCycleNs := p.clampDuty dutyCycleNs
  let (p, ret) := p.write ok .duty (count longBits p.refClockHz dutyCycleNs)
  if !ret then (p, false) else ({ p with dutyCycleNs := dutyCycleNs }, true)

def setPhase (longBits : ℕ) (p : Pwm) (ok : Bool) (phaseNs : UInt32) : Pwm × Bool :=
  let (p, ret) := p.write ok .phase (count longBits p.refClockHz phaseNs)
  if !ret then (p, false) else ({ p with phaseNs := phaseNs }, true)

/-- The descriptor from `calloc`, with the clock -/
def fresh (refClockHz : UInt32) : Pwm := ⟨refClockHz, 0, 0, 0, 0, false, fun _ => 0⟩

/-- The count that is asked for -/
def demanded (refClockHz ns : UInt32) : ℕ := refClockHz.toNat / NSEC_PER_USEC * ns.toNat ⌈/⌉ USEC_PER_SEC

/-- Neither the product nor the rounding wraps around. -/
def Fits (longBits : ℕ) (refClockHz ns : UInt32) : Prop :=
  refClockHz.toNat / NSEC_PER_USEC * ns.toNat < 2 ^ 32 ∧
    refClockHz.toNat / NSEC_PER_USEC * ns.toNat + USEC_PER_SEC ≤ 2 ^ longBits

instance (longBits : ℕ) (refClockHz ns : UInt32) : Decidable (Fits longBits refClockHz ns) :=
  inferInstanceAs (Decidable (_ ∧ _))

end Pwm

inductive PwmCall where
  | setPeriod (ns : UInt32)
  | setDutyCycle (ns : UInt32)
  | setPhase (ns : UInt32)
  | enable
  | disable

/-- A call, and which of its writes succeed -/
structure PwmAttempt where
  call : PwmCall
  first : Bool
  second : Bool

/-- A channel, and whether it was switched on and not off again -/
structure PwmChannel where
  pwm : Pwm
  on : Bool

namespace PwmChannel

/-- The channel is switched by the first write. -/
def step (longBits : ℕ) (c : PwmChannel) (a : PwmAttempt) : PwmChannel :=
  match a.call with
  | .setPeriod ns => ⟨(c.pwm.setPeriod longBits a.first ns).1, c.on⟩
  | .setDutyCycle ns => ⟨(c.pwm.setDutyCycle longBits a.first ns).1, c.on⟩
  | .setPhase ns => ⟨(c.pwm.setPhase longBits a.first ns).1, c.on⟩
  | .enable => ⟨(c.pwm.enable a.first a.second).1, a.first || c.on⟩
  | .disable => ⟨(c.pwm.disable a.first a.second).1, !a.first && c.on⟩

/-- The counts are those of the times, and a channel that is on is not high for longer than its period. -/
structure Programmed (c : PwmChannel) : Prop where
  stored : c.pwm.chPeriod.toNat = Pwm.demanded c.pwm.refClockHz c.pwm.periodNs
  period : c.on → (c.pwm.regs .period).toNat = Pwm.demanded c.pwm.refClockHz c.pwm.periodNs
  duty : (c.pwm.regs .duty).toNat = Pwm.demanded c.pwm.refClockHz c.pwm.dutyCycleNs
  phase : (c.pwm.regs .phase).toNat = Pwm.demanded c.pwm.refClockHz c.pwm.phaseNs
  dutyLe : c.on → c.pwm.regs .duty ≤ c.pwm.regs .period

/-- The call keeps the counts right. -/
def Kept (longBits : ℕ) (c : PwmChannel) (a : PwmAttempt) : Prop :=
  match a.call with
  | .setPeriod ns =>
    Pwm.Fits longBits c.pwm.refClockHz ns ∧
      if a.first then
        c.on → (c.pwm.enabled ∨ Pwm.demanded c.pwm.refClockHz ns = 0) ∧
          (c.pwm.regs .duty).toNat ≤ Pwm.demanded c.pwm.refClockHz ns
      else Pwm.demanded c.pwm.refClockHz ns = Pwm.demanded c.pwm.refClockHz c.pwm.periodNs
  | .setDutyCycle ns => a.first → Pwm.Fits longBits c.pwm.refClockHz (c.pwm.clampDuty ns)
  | .setPhase ns => a.first → Pwm.Fits longBits c.pwm.refClockHz ns
  | .enable => a.first → c.pwm.regs .duty ≤ c.pwm.chPeriod
  | .disable => True

variable {longBits : ℕ} {p : Pwm} {c : PwmChannel} {ref ns ms : UInt32} {first second : Bool}

lemma toNat_count (h : Pwm.Fits longBits ref ns) : (Pwm.count longBits ref ns).toNat = Pwm.demanded ref ns := by
  obtain ⟨hprod, hsum⟩ := h
  rw [Pwm.count, Pwm.demanded, Nat.ceilDiv_eq_add_pred_div]
  generalize ref.toNat / NSEC_PER_USEC * ns.toNat = t at hprod hsum ⊢
  simp only [USEC_PER_SEC] at hsum ⊢
  have htmp : (UInt32.ofNat t).toNat = t := UInt32.toNat_ofNat_of_lt' hprod
  have hmod : (t + 1000000 - 1) % 2 ^ longBits = t + 1000000 - 1 := Nat.mod_eq_of_lt (by lia)
  rw [htmp, hmod, UInt32.toNat_ofNat_of_lt' (by simp only [UInt32.size]; lia)]

/-- A product or a sum that wraps around counts too little. -/
theorem toNat_count_lt (hlong : 32 ≤ longBits) (h : ¬Pwm.Fits longBits ref ns) :
    (Pwm.count longBits ref ns).toNat < Pwm.demanded ref ns := by
  rw [Pwm.Fits] at h
  rw [Pwm.count, Pwm.demanded, Nat.ceilDiv_eq_add_pred_div]
  generalize ref.toNat / NSEC_PER_USEC * ns.toNat = t at h ⊢
  simp only [USEC_PER_SEC] at h ⊢
  have hpow : 2 ^ 32 ≤ 2 ^ longBits := Nat.pow_le_pow_right Nat.two_pos hlong
  have htmp : (UInt32.ofNat t).toNat = t % 2 ^ 32 := UInt32.toNat_ofNat'
  have hle : (UInt32.ofNat ((t % 2 ^ 32 + 1000000 - 1) % 2 ^ longBits / 1000000)).toNat ≤
      (t % 2 ^ 32 + 1000000 - 1) % 2 ^ longBits / 1000000 := by
    rw [UInt32.toNat_ofNat']
    exact Nat.mod_le _ _
  rw [htmp]
  refine lt_of_le_of_lt hle ?_
  by_cases hprod : t < 2 ^ 32
  · have hwrap : (t + 1000000 - 1) % 2 ^ longBits ≤ t + 1000000 - 1 - 2 ^ longBits := by
      rw [Nat.mod_eq_sub_mod (by lia)]
      exact Nat.mod_le _ _
    rw [Nat.mod_eq_of_lt hprod]
    lia
  · have hmod := Nat.mod_le (t % 2 ^ 32 + 1000000 - 1) (2 ^ longBits)
    lia

lemma demanded_mono (h : ns ≤ ms) : Pwm.demanded ref ns ≤ Pwm.demanded ref ms :=
  (gc_smul_ceilDiv (by decide)).monotone_l (Nat.mul_le_mul_left _ (UInt32.le_iff_toNat_le.mp h))

lemma clampDuty_le : p.clampDuty ns ≤ p.periodNs := by
  unfold Pwm.clampDuty
  split
  · exact UInt32.le_refl _
  · next h => exact UInt32.not_lt.mp h

section Calls

variable (p ns) (longBits : ℕ)

lemma setPeriod_true : (p.setPeriod longBits true ns).1 =
    { p with
      chPeriod := Pwm.count longBits p.refClockHz ns
      periodNs := ns
      regs := Function.update p.regs .period (if p.enabled then Pwm.count longBits p.refClockHz ns else 0) } := rfl

lemma setPeriod_false : (p.setPeriod longBits false ns).1 = { p with chPeriod := Pwm.count longBits p.refClockHz ns } := rfl

lemma setDutyCycle_true : (p.setDutyCycle longBits true ns).1 =
    { p with
      dutyCycleNs := p.clampDuty ns
      regs := Function.update p.regs .duty (Pwm.count longBits p.refClockHz (p.clampDuty ns)) } := rfl

lemma setPhase_true : (p.setPhase longBits true ns).1 =
    { p with phaseNs := ns, regs := Function.update p.regs .phase (Pwm.count longBits p.refClockHz ns) } := rfl

end Calls

variable {on : Bool} {cnt : UInt32}

lemma Programmed.storeCount (hc : Programmed ⟨p, on⟩) (hcnt : cnt.toNat = Pwm.demanded p.refClockHz p.periodNs) :
    Programmed ⟨{ p with chPeriod := cnt }, on⟩ :=
  ⟨hcnt, hc.period, hc.duty, hc.phase, hc.dutyLe⟩

lemma Programmed.writePeriod (hc : Programmed ⟨p, on⟩) (hcnt : cnt.toNat = Pwm.demanded p.refClockHz ns)
    (hok : on → (p.enabled ∨ Pwm.demanded p.refClockHz ns = 0) ∧
      (p.regs .duty).toNat ≤ Pwm.demanded p.refClockHz ns) :
    Programmed
      ⟨{ p with
        chPeriod := cnt
        periodNs := ns
        regs := Function.update p.regs .period (if p.enabled then cnt else 0) }, on⟩ := by
  have hnew : on → (if p.enabled then cnt else 0).toNat = Pwm.demanded p.refClockHz ns := by
    intro hon
    by_cases hen : p.enabled
    · rw [if_pos hen, hcnt]
    · rw [if_neg hen, (hok hon).1.resolve_left hen]
      rfl
  refine ⟨hcnt, hnew, hc.duty, hc.phase, fun hon => UInt32.le_iff_toNat_le.mpr ?_⟩
  change _ ≤ (if p.enabled then cnt else 0).toNat
  rw [hnew hon]
  exact (hok hon).2

lemma Programmed.writeDuty (hc : Programmed ⟨p, on⟩) (hcnt : cnt.toNat = Pwm.demanded p.refClockHz ns)
    (hle : ns ≤ p.periodNs) :
    Programmed ⟨{ p with dutyCycleNs := ns, regs := Function.update p.regs .duty cnt }, on⟩ := by
  refine ⟨hc.stored, hc.period, hcnt, hc.phase, fun hon => UInt32.le_iff_toNat_le.mpr ?_⟩
  calc cnt.toNat = Pwm.demanded p.refClockHz ns := hcnt
    _ ≤ Pwm.demanded p.refClockHz p.periodNs := demanded_mono hle
    _ = (p.regs .period).toNat := (hc.period hon).symm

lemma Programmed.writePhase (hc : Programmed ⟨p, on⟩) (hcnt : cnt.toNat = Pwm.demanded p.refClockHz ns) :
    Programmed ⟨{ p with phaseNs := ns, regs := Function.update p.regs .phase cnt }, on⟩ :=
  ⟨hc.stored, hc.period, hc.duty, hcnt, hc.dutyLe⟩

lemma programmed_setPeriod (hc : Programmed ⟨p, on⟩) (hfits : Pwm.Fits longBits p.refClockHz ns)
    (hok : if first then on → (p.enabled ∨ Pwm.demanded p.refClockHz ns = 0) ∧
        (p.regs .duty).toNat ≤ Pwm.demanded p.refClockHz ns
      else Pwm.demanded p.refClockHz ns = Pwm.demanded p.refClockHz p.periodNs) :
    Programmed ⟨(p.setPeriod longBits first ns).1, on⟩ := by
  cases first with
  | false =>
    rw [setPeriod_false]
    exact hc.storeCount ((toNat_count hfits).trans hok)
  | true =>
    rw [setPeriod_true]
    exact hc.writePeriod (toNat_count hfits) hok

lemma programmed_setDutyCycle (hc : Programmed ⟨p, on⟩)
    (hfits : first → Pwm.Fits longBits p.refClockHz (p.clampDuty ns)) :
    Programmed ⟨(p.setDutyCycle longBits first ns).1, on⟩ := by
  cases first with
  | false => exact hc
  | true =>
    rw [setDutyCycle_true]
    exact hc.writeDuty (toNat_count (hfits rfl)) clampDuty_le

lemma programmed_setPhase (hc : Programmed ⟨p, on⟩) (hfits : first → Pwm.Fits longBits p.refClockHz ns) :
    Programmed ⟨(p.setPhase longBits first ns).1, on⟩ := by
  cases first with
  | false => exact hc
  | true =>
    rw [setPhase_true]
    exact hc.writePhase (toNat_count (hfits rfl))

lemma programmed_enable (hc : Programmed ⟨p, on⟩) (hok : first → p.regs .duty ≤ p.chPeriod) :
    Programmed ⟨(p.enable first second).1, first || on⟩ := by
  cases first with
  | false => exact hc
  | true =>
    rw [Bool.true_or]
    cases second with
    | false => exact ⟨hc.stored, fun _ => hc.stored, hc.duty, hc.phase, fun _ => hok rfl⟩
    | true => exact ⟨hc.stored, fun _ => hc.stored, hc.duty, hc.phase, fun _ => hok rfl⟩

lemma programmed_disable (hc : Programmed ⟨p, on⟩) :
    Programmed ⟨(p.disable first second).1, !first && on⟩ := by
  cases first with
  | false => exact hc
  | true =>
    cases second with
    | false => exact ⟨hc.stored, (nomatch ·), hc.duty, hc.phase, (nomatch ·)⟩
    | true => exact ⟨hc.stored, (nomatch ·), hc.duty, hc.phase, (nomatch ·)⟩

lemma programmed_fresh (refClockHz : UInt32) : Programmed ⟨.fresh refClockHz, false⟩ :=
  have hzero : 0 = Pwm.demanded refClockHz 0 := (zero_ceilDiv _).symm
  ⟨hzero, (nomatch ·), hzero, hzero, (nomatch ·)⟩

lemma step_programmed (longBits : ℕ) (c : PwmChannel) (a : PwmAttempt) (hc : c.Programmed) (hok : c.Kept longBits a) :
    (c.step longBits a).Programmed := by
  obtain ⟨call, first, second⟩ := a
  cases call with
  | setPeriod ns => exact programmed_setPeriod hc hok.1 hok.2
  | setDutyCycle ns => exact programmed_setDutyCycle hc hok
  | setPhase ns => exact programmed_setPhase hc hok
  | enable => exact programmed_enable hc hok
  | disable => exact programmed_disable hc

end PwmChannel

/-- In a run whose calls are all kept, the counts are right in every state. -/
theorem pwm_always_programmed (longBits : ℕ) (c : PwmChannel) (as : List PwmAttempt) (hc : c.Programmed)
    (hg : Trace.Guarded (PwmChannel.step longBits) (PwmChannel.Kept longBits) c as) :
    Trace.Always (PwmChannel.step longBits) PwmChannel.Programmed c as :=
  hg.always hc (PwmChannel.step_programmed longBits)

/-- At 100 MHz a channel is switched on with a period of 10 us and a duty cycle of 5 us. -/
theorem pwm_always_programmed_us : Trace.Always (PwmChannel.step 64) PwmChannel.Programmed ⟨.fresh 100000000, false⟩
    [⟨.setPeriod 10000, true, true⟩, ⟨.setDutyCycle 5000, true, true⟩, ⟨.setPhase 0, true, true⟩,
      ⟨.enable, true, true⟩] := by
  refine pwm_always_programmed 64 _ _ (PwmChannel.programmed_fresh _) ?_
  refine Trace.guarded_cons.mpr ⟨⟨by decide, (nomatch ·)⟩, ?_⟩
  refine Trace.guarded_cons.mpr ⟨fun _ => by decide, ?_⟩
  refine Trace.guarded_cons.mpr ⟨fun _ => by decide, ?_⟩
  exact Trace.guarded_cons.mpr ⟨fun _ => by decide, Trace.guarded_nil⟩

/-- A shorter period leaves the duty cycle as it was. -/
theorem not_pwm_always_programmed : ¬∀ (longBits : ℕ) (refClockHz : UInt32) (as : List PwmAttempt), 32 ≤ longBits →
    Trace.Always (PwmChannel.step longBits) PwmChannel.Programmed ⟨.fresh refClockHz, false⟩ as := by
  intro h
  have halways := h 64 100000000 [⟨.setPeriod 10000, true, true⟩, ⟨.setDutyCycle 5000, true, true⟩,
    ⟨.setPeriod 2000, true, true⟩, ⟨.enable, true, true⟩] (by decide)
  exact absurd (halways.last.dutyLe rfl) (by decide)

end NoOS
