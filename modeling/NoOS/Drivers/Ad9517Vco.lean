import NoOS.Drivers.Ad9517
import NoOS.Drivers.ClockTransfers

/-!
# The frequency of the VCO of the AD9517

The reference is divided by R, and the VCO frequency by `P * B + A`. `ad9517_vco_frequency` raises R until some prescaler
has `B >= 3` and `B > A`. It does not look at the widths of the counters. The transfers succeed.
-/

namespace NoOS
open ClockTransfers

def AD9517_MAX_PFD_FREQ : ℕ := 100000000

def AD9517_T1B : UInt32 := (1 : UInt32) <<< 16
def AD9517_T2B : UInt32 := (2 : UInt32) <<< 16

def AD9517_REG_R_COUNTER : UInt32 := AD9517_T2B ||| 0x012
def AD9517_REG_A_COUNTER : UInt32 := AD9517_T1B ||| 0x013
def AD9517_REG_B_COUNTER : UInt32 := AD9517_T2B ||| 0x015
def AD9517_REG_PLL_CTRL_1 : UInt32 := AD9517_T1B ||| 0x016

lemma ad9517_regs : AD9517_REG_R_COUNTER = encode 2 0x011 ∧ AD9517_REG_A_COUNTER = encode 1 0x013 ∧
    AD9517_REG_B_COUNTER = encode 2 0x014 ∧ AD9517_REG_PLL_CTRL_1 = encode 1 0x016 := by decide

inductive Ad9517Type
  | AD9517_1
  | AD9517_2
  | AD9517_3
  | AD9517_4

/-- The least and the greatest frequency of the VCO. -/
def Ad9517Type.vcoRange : Ad9517Type → ℕ × ℕ
  | AD9517_1 => (2300000000, 2650000000)
  | AD9517_2 => (2050000000, 2330000000)
  | AD9517_3 => (1750000000, 2250000000)
  | AD9517_4 => (1450000000, 1800000000)

/-- The device with what the search reads and writes of its state. -/
structure Ad9517Vco where
  ad9517Type : Ad9517Type
  ref1Freq : Int32
  ref2Freq : Int32
  refSelPinEn : UInt8
  refSelPin : UInt8
  ref2En : UInt8
  intVcoFreq : Int
  rCounter : ℕ
  aCounter : ℕ
  bCounter : ℕ
  prescalerP : ℕ
  antibacklashPulseWidth : UInt8
  mem : Mem

namespace Ad9517Vco

/-- The reference is selected by the pin or by the register. -/
def refFreq (dev : Ad9517Vco) : ℕ :=
  (if dev.refSelPinEn ≠ 0 then (if dev.refSelPin ≠ 0 then dev.ref2Freq else dev.ref1Freq)
    else if dev.ref2En ≠ 0 then dev.ref2Freq else dev.ref1Freq).toUInt32.toNat

/-- R is raised while the PFD frequency is above its maximum. -/
def lowerPfd (ref r : ℕ) : ℕ := if AD9517_MAX_PFD_FREQ < ref / r then lowerPfd ref (r + 1) else r
termination_by ref + 1 - r
decreasing_by
  have hr := Nat.div_mul_le_self ref r
  have hpos : 1 * r ≤ ref / r * r := Nat.mul_le_mul_right r (by lia)
  lia

/-- The prescaler as it is written to the register, and the counters. -/
structure Counters where
  prescaler : ℕ
  p : ℕ
  b : ℕ
  a : ℕ
deriving DecidableEq

/-- The counters for one prescaler. The quotient is an `int32_t`, B a `uint16_t` and A a `uint8_t`. -/
def Counters.of (frequency pfd index p : ℕ) : Counters :=
  let n := Int.bmod (frequency / pfd : ℕ) (2 ^ 32)
  ⟨index + 2, p, (n.tdiv p % 2 ^ 16).toNat, (n.tmod p % 2 ^ 8).toNat⟩

def Counters.Good (c : Counters) : Prop := 3 ≤ c.b ∧ c.a < c.b

instance (c : Counters) : Decidable c.Good := inferInstanceAs (Decidable (_ ∧ _))

/-- `prescaler_value` with its index, and `prescaler_limit` -/
def prescalers : List (ℕ × ℕ × ℕ) :=
  [(0, 2, 200000000), (1, 4, 1000000000), (2, 8, 2400000000), (3, 16, 3000000000), (4, 32, 3000000000)]

/-- The inner loop -/
def tryPrescalers (frequency pfd : ℕ) : List (ℕ × ℕ × ℕ) → Option Counters
  | [] => none
  | (index, p, limit) :: rest =>
    if frequency ≤ limit ∧ (Counters.of frequency pfd index p).Good then some (Counters.of frequency pfd index p)
    else tryPrescalers frequency pfd rest

/-- The outer loop, with the R counter. The limit of the last prescaler admits every legal frequency, so that it is divided
by a PFD frequency of 0. -/
def findCounters (frequency ref r : ℕ) : Except Ad9517Fault (ℕ × Counters) :=
  if ref / r = 0 then .error .divisionByZero
  else
    match tryPrescalers frequency (ref / r) prescalers with
    | some c => .ok (r, c)
    | none => findCounters frequency ref (r + 1)
termination_by ref + 1 - r
decreasing_by
  have hr := Nat.div_mul_le_self ref r
  have hpos : 1 * r ≤ ref / r * r := Nat.mul_le_mul_right r (Nat.pos_of_ne_zero ‹_›)
  lia

def AD9517_PRESCALER_P (x : UInt32) : UInt32 := x &&& 0x7
def AD9517_A_COUNTER (x : ℕ) : UInt16 := UInt16.ofNat x &&& 0x3F
def AD9517_B_COUNTER (x : ℕ) : UInt16 := UInt16.ofNat x &&& 0x1FFF
def AD9517_R_COUNTER (x : ℕ) : UInt16 := UInt16.ofNat x &&& 0x3FFF

/-- The registers of the PLL, where `ctrl` is what was read of the first one -/
def writeCounters (ctrl : UInt32) (r : ℕ) (c : Counters) (mem : Mem) : Mem :=
  let regValue := (ctrl &&& ~~~AD9517_PRESCALER_P 0x7) ||| AD9517_PRESCALER_P (UInt32.ofNat c.prescaler)
  ad9517Write AD9517_REG_R_COUNTER (AD9517_R_COUNTER r) <|
    ad9517Write AD9517_REG_B_COUNTER (AD9517_B_COUNTER c.b) <|
      ad9517Write AD9517_REG_A_COUNTER (AD9517_A_COUNTER c.a) <|
        ad9517Write AD9517_REG_PLL_CTRL_1 regValue.toUInt16 mem

/-- The state after the search -/
def withCounters (dev : Ad9517Vco) (r : ℕ) (c : Counters) : Ad9517Vco :=
  { dev with
    rCounter := r
    aCounter := c.a
    bCounter := c.b
    prescalerP := c.p
    antibacklashPulseWidth := if 50000000 < dev.refFreq / r then 1 else dev.antibacklashPulseWidth }

end Ad9517Vco
open Ad9517Vco

/-- `ad9517_vco_frequency` with what it returns -/
def ad9517VcoFrequency (dev : Ad9517Vco) (frequency : Int) : Except Ad9517Fault (Int × Ad9517Vco) := do
  if frequency < dev.ad9517Type.vcoRange.1 ∨ dev.ad9517Type.vcoRange.2 < frequency then .ok (-1, dev)
  else
    let (r, c) ← findCounters frequency.toNat dev.refFreq (lowerPfd dev.refFreq 1)
    let dev := dev.withCounters r c
    let (regValue, mem) := ad9517Read AD9517_REG_PLL_CTRL_1 0 dev.mem
    if regValue.toInt32 < 0 then .ok (regValue.toNat, { dev with mem })
    else
      let vcoFreq : ℕ := dev.refFreq / r * (c.p * c.b + c.a) % 2 ^ 32
      .ok (vcoFreq, { dev with intVcoFreq := vcoFreq, mem := writeCounters regValue r c mem })

namespace Ad9517Vco

/-- The fields as the device reads them from its registers. The prescalers divide by powers of two. -/
def decodedR (mem : Mem) : ℕ := (mem 0x012).toNat % 64 * 256 + (mem 0x011).toNat
def decodedA (mem : Mem) : ℕ := (mem 0x013).toNat % 64
def decodedB (mem : Mem) : ℕ := (mem 0x015).toNat % 32 * 256 + (mem 0x014).toNat
def decodedP (mem : Mem) : ℕ := 2 ^ ((mem 0x016).toNat % 8 - 1)

/-- The counters fit, the registers hold them, and the frequency that is returned is the one that they make. -/
structure Planned (ref frequency vcoFreq : ℕ) (dev : Ad9517Vco) : Prop where
  r : 1 ≤ dev.rCounter ∧ dev.rCounter ≤ 16383
  b : 3 ≤ dev.bCounter ∧ dev.bCounter ≤ 8191
  a : dev.aCounter < dev.prescalerP ∧ dev.aCounter < dev.bCounter ∧ dev.aCounter ≤ 63
  decoded : decodedR dev.mem = dev.rCounter ∧ decodedA dev.mem = dev.aCounter ∧ decodedB dev.mem = dev.bCounter ∧
    decodedP dev.mem = dev.prescalerP
  pfd : ref / dev.rCounter ≤ AD9517_MAX_PFD_FREQ
  exact : vcoFreq = ref / dev.rCounter * (dev.prescalerP * dev.bCounter + dev.aCounter)
  near : vcoFreq < frequency + ref / dev.rCounter ∧ frequency < vcoFreq + ref / dev.rCounter

/-- The call returns, and if it returns no error, it has planned the frequency. -/
def PlansVco (dev : Ad9517Vco) (frequency : ℕ) : Prop :=
  ∃ ret dev', ad9517VcoFrequency dev frequency = .ok (ret, dev') ∧
    (0 ≤ ret → Planned dev.refFreq frequency ret.toNat dev')

def Legal (dev : Ad9517Vco) (frequency : ℕ) : Prop :=
  dev.ad9517Type.vcoRange.1 ≤ frequency ∧ frequency ≤ dev.ad9517Type.vcoRange.2

/-- The first prescaler that is tried -/
def firstPrescaler (frequency : ℕ) : ℕ := if frequency ≤ 2400000000 then 8 else 16

variable {f ref r pfd p index k : ℕ} {c : Counters} {dev dev' : Ad9517Vco} {mem : Mem}

lemma of_eq (hn : f / pfd < 2 ^ 31) (hp : p ≤ 256) (hpos : 0 < p) (hb : f / pfd / p < 2 ^ 16) :
    Counters.of f pfd index p = ⟨index + 2, p, f / pfd / p, f / pfd % p⟩ := by
  rw [Counters.of]
  generalize f / pfd = n at *
  have hmod := Nat.mod_lt n hpos
  have hkept : Int.bmod n (2 ^ 32) = n := Int.bmod_eq_of_le (by lia) (by omega)
  have hquot : (n : ℤ).tdiv p % 2 ^ 16 = (n / p : ℕ) := by
    rw [← Int.ofNat_tdiv]
    exact Int.emod_eq_of_lt (Int.natCast_nonneg _) (by exact_mod_cast hb)
  have hrest : (n : ℤ).tmod p % 2 ^ 8 = (n % p : ℕ) := by
    rw [← Int.ofNat_tmod]
    exact Int.emod_eq_of_lt (Int.natCast_nonneg _) (by exact_mod_cast hmod.trans_le hp)
  rw [hkept, hquot, hrest, Int.toNat_natCast, Int.toNat_natCast]

/-- A prescaler that is not taken makes the quotient less than its square. -/
lemma lt_of_not_good (hp : 3 ≤ p) (h : ¬(3 ≤ k / p ∧ k % p < k / p)) : k < p * p := by
  have hmod := Nat.mod_lt k (by omega : 0 < p)
  rw [← Nat.div_lt_iff_lt_mul (by omega)]
  lia

lemma of_tryPrescalers {ps : List (ℕ × ℕ × ℕ)} (h : tryPrescalers f pfd ps = some c) :
    ∃ index p limit, (index, p, limit) ∈ ps ∧ f ≤ limit ∧ c = Counters.of f pfd index p ∧ c.Good := by
  induction ps with
  | nil => exact nomatch h
  | cons q ps ih =>
    obtain ⟨index, p, limit⟩ := q
    rw [tryPrescalers] at h
    split_ifs at h with hgood
    · obtain rfl := Option.some.inj h
      exact ⟨index, p, limit, List.mem_cons_self, hgood.1, rfl, hgood.2⟩
    · obtain ⟨index', p', limit', hmem, hrest⟩ := ih h
      exact ⟨index', p', limit', List.mem_cons_of_mem _ hmem, hrest⟩

/-! ### The search

A frequency above 1 GHz is divided by 8, 16 or 32, by 8 only up to 2.4 GHz. -/

lemma firstPrescaler_mem (f : ℕ) : firstPrescaler f = 8 ∨ firstPrescaler f = 16 := by
  rw [firstPrescaler]
  split_ifs
  · exact Or.inl rfl
  · exact Or.inr rfl

section Vco

variable (hf : 1000000000 < f) (hmax : f ≤ 3000000000)
include hf hmax

omit hmax in
/-- What is taken is for one of these prescalers, and none is before the first one. -/
lemma taken_of_tryPrescalers (h : tryPrescalers f pfd prescalers = some c) :
    ∃ index p, c = Counters.of f pfd index p ∧ c.Good ∧ firstPrescaler f ≤ p ∧
      (index = 2 ∧ p = 8 ∨ index = 3 ∧ p = 16 ∨ index = 4 ∧ p = 32) := by
  obtain ⟨index, p, limit, hmem, hlimit, hc, hgood⟩ := of_tryPrescalers h
  refine ⟨index, p, hc, hgood, ?_⟩
  rw [firstPrescaler]
  simp only [prescalers, List.mem_cons, Prod.mk.injEq, List.not_mem_nil, or_false] at hmem
  split_ifs <;> lia

lemma first_taken (pfd : ℕ) : ∃ index, (Counters.of f pfd index (firstPrescaler f)).Good →
    tryPrescalers f pfd prescalers = some (Counters.of f pfd index (firstPrescaler f)) := by
  have h2 : ¬(f ≤ 200000000 ∧ (Counters.of f pfd 0 2).Good) := fun h => by omega
  have h4 : ¬(f ≤ 1000000000 ∧ (Counters.of f pfd 1 4).Good) := fun h => by omega
  rw [prescalers, tryPrescalers, if_neg h2, tryPrescalers, if_neg h4, firstPrescaler]
  split_ifs with hlimit
  · exact ⟨2, fun hgood => by rw [tryPrescalers, if_pos ⟨hlimit, hgood⟩]⟩
  · exact ⟨3, fun hgood => by rw [tryPrescalers, if_neg fun h => hlimit h.1, tryPrescalers, if_pos ⟨hmax, hgood⟩]⟩

/-- So it is for all quotients from its square on for which B is not cut off. -/
lemma first_taken_of_le (hlo : firstPrescaler f * firstPrescaler f ≤ f / pfd) (hhi : f / pfd < 2 ^ 18) :
    ∃ index, tryPrescalers f pfd prescalers = some ⟨index, firstPrescaler f, f / pfd / firstPrescaler f, f / pfd % firstPrescaler f⟩ := by
  obtain ⟨index, htaken⟩ := first_taken hf hmax pfd
  have hfirst := firstPrescaler_mem f
  have hb : f / pfd / firstPrescaler f < 2 ^ 16 := by
    rw [Nat.div_lt_iff_lt_mul (by lia)]
    lia
  rw [of_eq (by omega) (by lia) (by lia) hb] at htaken
  refine ⟨index + 2, htaken ?_⟩
  by_contra hnot
  exact absurd (lt_of_not_good (by lia) hnot) (not_lt.mpr hlo)

omit hmax in
/-- Below 8192 times the first prescaler the counters are what they should be. -/
lemma exact_of_tryPrescalers (hn : f / pfd < 8192 * firstPrescaler f) (h : tryPrescalers f pfd prescalers = some c) :
    c.p * c.b + c.a = f / pfd ∧ (3 ≤ c.b ∧ c.b ≤ 8191) ∧ c.a < c.p ∧ c.a < c.b ∧
      (c.prescaler = 4 ∧ c.p = 8 ∨ c.prescaler = 5 ∧ c.p = 16 ∨ c.prescaler = 6 ∧ c.p = 32) := by
  obtain ⟨index, p, hc, hgood, hle, hp⟩ := taken_of_tryPrescalers hf h
  have hfirst := firstPrescaler_mem f
  have hb : f / pfd / p < 8192 := by
    rw [Nat.div_lt_iff_lt_mul (by lia)]
    exact hn.trans_le (Nat.mul_le_mul_left _ hle)
  rw [of_eq (by lia) (by lia) (by lia) (by lia)] at hc
  subst hc
  refine ⟨Nat.div_add_mod _ _, ⟨hgood.1, ?_⟩, Nat.mod_lt _ (by lia), hgood.2, ?_⟩
  · exact Nat.le_of_lt_succ hb
  · dsimp only
    lia

end Vco

lemma lowerPfd_spec (ref r : ℕ) : ref / lowerPfd ref r ≤ AD9517_MAX_PFD_FREQ ∧ r ≤ lowerPfd ref r ∧
    (lowerPfd ref r = r ∨ AD9517_MAX_PFD_FREQ < ref / (lowerPfd ref r - 1)) := by
  fun_induction lowerPfd ref r with
  | case1 r hgt ih =>
    obtain ⟨hle, hge, hlast⟩ := ih
    refine ⟨hle, by lia, Or.inr ?_⟩
    rcases hlast with hlast | hlast
    · rwa [hlast, Nat.add_sub_cancel]
    · exact hlast
  | case2 r hle => exact ⟨not_lt.mp hle, le_rfl, Or.inl rfl⟩

lemma of_findCounters {r' : ℕ} (h : findCounters f ref r = .ok (r', c)) :
    r ≤ r' ∧ ref / r' ≠ 0 ∧ tryPrescalers f (ref / r') prescalers = some c := by
  fun_induction findCounters f ref r with
  | case1 => exact nomatch h
  | case2 r hpfd c' hsome =>
    obtain ⟨rfl, rfl⟩ := Prod.mk.inj (Except.ok.inj h)
    exact ⟨le_rfl, hpfd, hsome⟩
  | case3 r hpfd hnone ih =>
    obtain ⟨hle, hrest⟩ := ih h
    exact ⟨by lia, hrest⟩

/-- The quotient is small enough, and so is R. -/
structure Fits (f ref r : ℕ) : Prop where
  pos : 1 ≤ r
  le : r ≤ 1000
  quotient : f < 8192 * firstPrescaler f * (ref / r)

/-- Where no prescaler is taken, the quotient is less than 256, so that the PFD frequency can be halved. -/
lemma Fits.next (hf : 1450000000 ≤ f) (hmax : f ≤ 3000000000) (href : ref < 2 ^ 32) (h : Fits f ref r)
    (hnone : tryPrescalers f (ref / r) prescalers = none) : Fits f ref (r + 1) := by
  have hfirst := firstPrescaler_mem f
  have hpos : 0 < ref / r := Nat.pos_of_ne_zero fun hzero => by
    have hquot := h.quotient
    rw [hzero] at hquot
    lia
  have hquot : f / (ref / r) < 256 := by
    by_contra hge
    have hhi : f / (ref / r) < 2 ^ 18 := by
      rw [Nat.div_lt_iff_lt_mul hpos]
      exact h.quotient.trans_le (Nat.mul_le_mul_right _ (by lia))
    have hlo : firstPrescaler f * firstPrescaler f ≤ 256 := by
      rcases hfirst with h8 | h16
      · rw [h8]
        decide
      · rw [h16]
    obtain ⟨index, hsome⟩ := first_taken_of_le (by lia) hmax (hlo.trans (not_lt.mp hge)) hhi
    exact absurd (hnone.symm.trans hsome) nofun
  rw [Nat.div_lt_iff_lt_mul hpos] at hquot
  have hmul := Nat.div_mul_le_self ref r
  have hr : r ≤ 999 := by
    by_contra hgt
    have hprod : ref / r * 1000 ≤ ref / r * r := Nat.mul_le_mul_left _ (by lia)
    lia
  have hhalf : ref / r / 2 ≤ ref / (r + 1) := by
    rw [Nat.le_div_iff_mul_le (Nat.succ_pos r)]
    calc ref / r / 2 * (r + 1) ≤ ref / r / 2 * (2 * r) := Nat.mul_le_mul_left _ (by have := h.pos; lia)
      _ = ref / r / 2 * 2 * r := (Nat.mul_assoc _ _ _).symm
      _ ≤ ref / r * r := Nat.mul_le_mul_right _ (Nat.div_mul_le_self _ _)
      _ ≤ ref := hmul
  refine ⟨by lia, by lia, ?_⟩
  have hprod : 8192 * 8 * (ref / (r + 1)) ≤ 8192 * firstPrescaler f * (ref / (r + 1)) :=
    Nat.mul_le_mul_right _ (by lia)
  lia

lemma Fits.findCounters (hf : 1450000000 ≤ f) (hmax : f ≤ 3000000000) (href : ref < 2 ^ 32) (h : Fits f ref r) :
    ∃ r' c, findCounters f ref r = .ok (r', c) ∧ Fits f ref r' := by
  fun_induction Ad9517Vco.findCounters f ref r with
  | case1 r hzero =>
    have hquot := h.quotient
    rw [hzero] at hquot
    lia
  | case2 r hpfd c hsome => exact ⟨r, c, rfl, h⟩
  | case3 r hpfd hnone ih => exact ih (h.next hf hmax href hnone)

/-- The first loop leaves at least half of the maximal PFD frequency. -/
lemma fits_lowerPfd (hmax : f ≤ 3000000000) (href : ref < 2 ^ 32) (h : f < 8192 * firstPrescaler f * ref) :
    Fits f ref (lowerPfd ref 1) := by
  obtain ⟨-, hpos, hfirst | hlast⟩ := lowerPfd_spec ref 1
  · rw [hfirst]
    exact ⟨le_rfl, by decide, by rwa [Nat.div_one]⟩
  · generalize lowerPfd ref 1 = r at *
    have hr : 2 ≤ r := by
      by_contra hlt
      rw [show r - 1 = 0 by lia, Nat.div_zero] at hlast
      exact absurd hlast (Nat.not_lt_zero _)
    have hmul : (r - 1) * (AD9517_MAX_PFD_FREQ + 1) ≤ ref :=
      (Nat.mul_le_mul_left _ hlast).trans (Nat.mul_div_le _ _)
    rw [AD9517_MAX_PFD_FREQ] at hmul
    have hpfd : 50000000 ≤ ref / r := by
      rw [Nat.le_div_iff_mul_le (by omega)]
      lia
    refine ⟨hpos, by lia, ?_⟩
    have hprod : 8192 * 8 * (ref / r) ≤ 8192 * firstPrescaler f * (ref / r) :=
      Nat.mul_le_mul_right _ (by have := firstPrescaler_mem f; lia)
    lia

lemma read_ctrl (mem : Mem) : ad9517Read AD9517_REG_PLL_CTRL_1 0 mem = ((mem 0x016).toUInt32, mem) := by
  rw [ad9517_regs.2.2.2, ad9517Read_eq (by decide) (by decide) (by decide) 0 (by decide)]
  congr 1
  apply UInt32.toNat_inj.mp
  change ((0 : UInt32) <<< 8 ||| (mem 0x016).toUInt32).toNat = _
  rw [UInt32.zero_shiftLeft, UInt32.zero_or]

lemma byte_not_neg (b : UInt8) : ¬b.toUInt32.toInt32 < 0 := by
  have hlt := b.toNat_lt
  have hnat : b.toUInt32.toInt32.toInt = b.toNat := by
    change b.toUInt32.toBitVec.toInt = _
    rw [BitVec.toInt_eq_toNat_of_lt]
    · rfl
    · change 2 * b.toUInt32.toNat < _
      rw [UInt8.toNat_toUInt32]
      lia
  rw [Int32.lt_iff_toInt_lt, hnat]
  exact not_lt.mpr (Int.natCast_nonneg _)

lemma write_eq {n : ℕ} {x : UInt32} (v : UInt16) (hpos : 1 ≤ n) (hn : n ≤ 4) (hx : x.toNat + n ≤ 1024) (mem : Mem) :
    ad9517Write (encode n x) v mem = withRegister n x.toNat v.toNat mem := by
  rw [ad9517Write_eq hpos hn (by lia) v hx, store_cells hn (by omega), UInt16.toNat_toUInt32]

lemma masked_counter {m : UInt16} (hk : k ≤ 16) (hm : m.toNat = 2 ^ k - 1) (x : ℕ) :
    (UInt16.ofNat x &&& m).toNat = x % 2 ^ k := by
  rw [UInt16.toNat_and, hm, Nat.and_two_pow_sub_one_eq_mod, UInt16.toNat_ofNat', Nat.mod_mod_of_dvd _ (Nat.pow_dvd_pow 2 hk)]

lemma ctrl_prescaler (ctrl : UInt32) (x : ℕ) :
    ((ctrl &&& ~~~AD9517_PRESCALER_P 0x7) ||| AD9517_PRESCALER_P (UInt32.ofNat x)).toNat % 2 ^ 3 = x % 2 ^ 3 := by
  have hclear : (~~~AD9517_PRESCALER_P 0x7).toNat % 2 ^ 3 = 0 := rfl
  have hmask : (0x7 : UInt32).toNat = 2 ^ 3 - 1 := rfl
  rw [UInt32.toNat_or, Nat.or_mod_two_pow, UInt32.toNat_and, Nat.and_mod_two_pow, hclear, Nat.and_zero, Nat.zero_or,
    AD9517_PRESCALER_P, UInt32.toNat_and, hmask, Nat.and_two_pow_sub_one_eq_mod, Nat.mod_mod, UInt32.toNat_ofNat',
    Nat.mod_mod_of_dvd _ (Nat.pow_dvd_pow 2 (by decide))]

lemma decoded_writeCounters (ctrl : UInt32) (mem : Mem) :
    decodedR (writeCounters ctrl r c mem) = r % 2 ^ 14 ∧ decodedA (writeCounters ctrl r c mem) = c.a % 2 ^ 6 ∧
      decodedB (writeCounters ctrl r c mem) = c.b % 2 ^ 13 ∧
      decodedP (writeCounters ctrl r c mem) = 2 ^ (c.prescaler % 2 ^ 3 - 1) := by
  obtain ⟨hregR, hregA, hregB, hregP⟩ := ad9517_regs
  have hR : (AD9517_R_COUNTER r).toNat = r % 2 ^ 14 := masked_counter (by decide) rfl r
  have hA : (AD9517_A_COUNTER c.a).toNat = c.a % 2 ^ 6 := masked_counter (by decide) rfl c.a
  have hB : (AD9517_B_COUNTER c.b).toNat = c.b % 2 ^ 13 := masked_counter (by decide) rfl c.b
  have hP := ctrl_prescaler ctrl c.prescaler
  rw [writeCounters]
  rw [hregR, hregA, hregB, hregP, write_eq _ (by decide) (by decide) (by decide), write_eq _ (by decide) (by decide) (by decide),
    write_eq _ (by decide) (by decide) (by decide), write_eq _ (by decide) (by decide) (by decide), hR, hA, hB,
    UInt32.toNat_toUInt16]
  have h11 : (0x011 : UInt32).toNat = 17 := rfl
  have h12 : (0x012 : UInt32).toNat = 18 := rfl
  have h13 : (0x013 : UInt32).toNat = 19 := rfl
  have h14 : (0x014 : UInt32).toNat = 20 := rfl
  have h15 : (0x015 : UInt32).toNat = 21 := rfl
  have h16 : (0x016 : UInt32).toNat = 22 := rfl
  simp only [decodedR, decodedA, decodedB, decodedP, withRegister, h11, h12, h13, h14, h15, h16, UInt8.toNat_ofNat',
    Nat.reduceLeDiff, Nat.reduceAdd, Nat.reduceLT, Nat.reduceSub, and_true, and_false, if_true, if_false,
    Nat.pow_zero, Nat.pow_one, Nat.div_one]
  refine ⟨by lia, by lia, by lia, ?_⟩
  rw [← hP]
  congr 2
  lia

/-- The device after a legal call for which the search finds counters -/
def programmed (dev : Ad9517Vco) (r : ℕ) (c : Counters) : Ad9517Vco :=
  { dev.withCounters r c with
    intVcoFreq := (dev.refFreq / r * (c.p * c.b + c.a) % 2 ^ 32 : ℕ)
    mem := writeCounters (dev.mem 0x016).toUInt32 r c dev.mem }

lemma vcoFrequency_eq (hlegal : dev.Legal f) :
    ad9517VcoFrequency dev f = (findCounters f dev.refFreq (lowerPfd dev.refFreq 1)).map fun (r, c) =>
      (((dev.refFreq / r * (c.p * c.b + c.a) % 2 ^ 32 : ℕ) : ℤ), dev.programmed r c) := by
  have hin : ¬((f : ℤ) < dev.ad9517Type.vcoRange.1 ∨ (dev.ad9517Type.vcoRange.2 : ℤ) < f) := by
    have h := hlegal
    rw [Legal] at h
    lia
  have hmem : ∀ r c, (dev.withCounters r c).mem = dev.mem := fun _ _ => rfl
  rw [ad9517VcoFrequency, if_neg hin, Int.toNat_natCast]
  cases findCounters f dev.refFreq (lowerPfd dev.refFreq 1) with
  | error e => rfl
  | ok found =>
    obtain ⟨r, c⟩ := found
    simp only [bind, Except.bind, hmem, read_ctrl, if_neg (byte_not_neg _)]
    rfl

lemma Legal.bounds (hlegal : dev.Legal f) : 1450000000 ≤ f ∧ f ≤ 2650000000 := by
  obtain ⟨hmin, hmax⟩ := hlegal
  cases htype : dev.ad9517Type with
  | AD9517_1 | AD9517_2 | AD9517_3 | AD9517_4 =>
    rw [htype, Ad9517Type.vcoRange] at hmin hmax
    dsimp only at hmin hmax
    lia

lemma refFreq_lt (dev : Ad9517Vco) : dev.refFreq < 2 ^ 32 := UInt32.toNat_lt _

/-- A planned frequency has a B counter of 13 bits, and so would the first prescaler have it. -/
lemma lt_of_plansVco (hlegal : dev.Legal f) (h : dev.PlansVco f) : f < 8192 * firstPrescaler f * dev.refFreq := by
  obtain ⟨hmin, hmax⟩ := hlegal.bounds
  obtain ⟨ret, dev', hcall, hplan⟩ := h
  rw [vcoFrequency_eq hlegal] at hcall
  cases hfind : findCounters f dev.refFreq (lowerPfd dev.refFreq 1) with
  | error e =>
    rw [hfind] at hcall
    exact nomatch hcall
  | ok found =>
    obtain ⟨r, c⟩ := found
    rw [hfind] at hcall
    obtain ⟨rfl, rfl⟩ := Prod.mk.inj (Except.ok.inj hcall)
    have hplanned := hplan (Int.natCast_nonneg _)
    obtain ⟨-, hpfd, htaken⟩ := of_findCounters hfind
    obtain ⟨index, p, hc, -, hle, hp⟩ := taken_of_tryPrescalers (by omega) htaken
    have hcp : c.p = p := by rw [hc]; rfl
    have hb : c.b ≤ 8191 := hplanned.b.2
    have ha : c.a < c.p := hplanned.a.1
    have hnear := hplanned.near.2
    rw [hplanned.exact] at hnear
    change f < dev.refFreq / r * (c.p * c.b + c.a) + dev.refFreq / r at hnear
    have hpos : 0 < dev.refFreq / r := Nat.pos_of_ne_zero hpfd
    have hquot : f / (dev.refFreq / r) < 8192 * p := by
      rw [Nat.div_lt_iff_lt_mul hpos]
      calc f < (c.p * c.b + c.a + 1) * (dev.refFreq / r) := by rwa [Nat.succ_mul, Nat.mul_comm]
        _ ≤ 8192 * p * (dev.refFreq / r) := by
          refine Nat.mul_le_mul_right _ ?_
          have hprod : c.p * c.b ≤ c.p * 8191 := Nat.mul_le_mul_left _ hb
          lia
    by_contra hge
    have hfirst := firstPrescaler_mem f
    have hlo : 8192 * firstPrescaler f ≤ f / (dev.refFreq / r) := by
      rw [Nat.le_div_iff_mul_le hpos]
      exact (Nat.mul_le_mul_left _ (Nat.div_le_self _ _)).trans (not_lt.mp hge)
    obtain ⟨index', hsome⟩ := first_taken_of_le (by lia) (by lia)
      ((Nat.mul_le_mul_right _ (by lia)).trans hlo) (by lia : f / (dev.refFreq / r) < 2 ^ 18)
    rw [htaken] at hsome
    have hpp : c.p = firstPrescaler f := by rw [Option.some.inj hsome]
    rw [← hpp, hcp] at hlo
    lia

lemma plansVco_of_lt (hlegal : dev.Legal f) (h : f < 8192 * firstPrescaler f * dev.refFreq) : dev.PlansVco f := by
  obtain ⟨hmin, hmax⟩ := hlegal.bounds
  obtain ⟨r, c, hfind, hfits⟩ := (fits_lowerPfd (by lia) dev.refFreq_lt h).findCounters hmin (by omega) dev.refFreq_lt
  obtain ⟨hge, hpfd, htaken⟩ := of_findCounters hfind
  have hpos : 0 < dev.refFreq / r := Nat.pos_of_ne_zero hpfd
  have hquot : f / (dev.refFreq / r) < 8192 * firstPrescaler f := by
    rw [Nat.div_lt_iff_lt_mul hpos]
    exact hfits.quotient
  obtain ⟨hn, hb, hap, hab, hcodes⟩ := exact_of_tryPrescalers (by lia) hquot htaken
  have hle : dev.refFreq / r * (c.p * c.b + c.a) ≤ f := by
    rw [hn]
    exact Nat.mul_div_le _ _
  have hlt : f < dev.refFreq / r * (c.p * c.b + c.a) + dev.refFreq / r := by
    rw [hn]
    exact Nat.lt_mul_div_succ f hpos
  have hvco : dev.refFreq / r * (c.p * c.b + c.a) % 2 ^ 32 = dev.refFreq / r * (c.p * c.b + c.a) :=
    Nat.mod_eq_of_lt (by lia)
  have hmax := (lowerPfd_spec dev.refFreq 1).1
  obtain ⟨hdR, hdA, hdB, hdP⟩ := @decoded_writeCounters r c (dev.mem 0x016).toUInt32 dev.mem
  refine ⟨_, _, by rw [vcoFrequency_eq hlegal, hfind]; rfl, fun _ => ?_⟩
  rw [Int.toNat_natCast, hvco]
  exact {
    r := ⟨hfits.pos, hfits.le.trans (by decide)⟩
    b := hb
    a := ⟨hap, hab, by change c.a ≤ 63; lia⟩
    decoded := by
      refine ⟨hdR.trans (Nat.mod_eq_of_lt ?_), hdA.trans (Nat.mod_eq_of_lt ?_), hdB.trans (Nat.mod_eq_of_lt ?_), hdP.trans ?_⟩
      · have := hfits.le
        lia
      · lia
      · lia
      · change _ = c.p
        rcases hcodes with ⟨hcode, hp⟩ | ⟨hcode, hp⟩ | ⟨hcode, hp⟩
        · rw [hcode, hp]
          rfl
        · rw [hcode, hp]
          rfl
        · rw [hcode, hp]
          rfl
    pfd := (Nat.div_le_div_left hge (lowerPfd_spec dev.refFreq 1).2.1).trans hmax
    exact := rfl
    near := ⟨by change _ < f + dev.refFreq / r; lia, hlt⟩ }

end Ad9517Vco

/-- A plan is right if and only if the first prescaler that is tried, 8 up to 2.4 GHz and 16 above, makes a B counter of 13
bits with the whole reference. -/
theorem ad9517VcoFrequency_iff (dev : Ad9517Vco) (frequency : ℕ) (hlegal : dev.Legal frequency) :
    dev.PlansVco frequency ↔ frequency < 8192 * firstPrescaler frequency * dev.refFreq :=
  ⟨lt_of_plansVco hlegal, plansVco_of_lt hlegal⟩

/-- An AD9517-4 with a reference of `ref1` on its first input -/
def ad9517_4 (ref1 : Int32) : Ad9517Vco :=
  ⟨.AD9517_4, ref1, 0, 0, 0, 0, 0, 0, 0, 0, 0, 0, fun _ => 0⟩

/-- 1.5 GHz from 25 MHz -/
theorem ad9517VcoFrequency_plans : (ad9517_4 25000000).PlansVco 1500000000 :=
  (ad9517VcoFrequency_iff (ad9517_4 25000000) 1500000000 (by unfold Legal; decide)).mpr (by decide)

/-- A reference of 10 kHz needs a B counter of 18750 for 1.5 GHz. -/
theorem not_ad9517VcoFrequency : ¬∀ (dev : Ad9517Vco) (frequency : ℕ), 1 ≤ dev.refFreq → dev.Legal frequency →
    dev.PlansVco frequency := by
  intro h
  have hlegal : (ad9517_4 10000).Legal 1500000000 := by
    unfold Legal
    decide
  exact absurd (lt_of_plansVco hlegal (h (ad9517_4 10000) 1500000000 (by decide) hlegal)) (by decide)

end NoOS
