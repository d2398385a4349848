import NoOS.Drivers.AlteraAdxcvrReceive
import NoOS.Drivers.AlteraAdxcvrTransmit

/-!
# The rates of the transceivers that are read back
-/

namespace NoOS
open RegisterFile

namespace AlteraAdxcvr

def roundRate (x : AlteraAdxcvr) (rateKhz : UInt32) : Option Int :=
  if x.isTransmit then alteraA10AtxPllRoundRate x rateKhz else alteraA10CdrPllRoundRate x rateKhz

def setRate (x : AlteraAdxcvr) (rateKhz : UInt32) : Option (Int × AlteraAdxcvr) :=
  if x.isTransmit then alteraA10AtxPllSetRate x rateKhz else alteraA10CdrPllSetRate x rateKhz

def recalcRate (x : AlteraAdxcvr) : Option (UInt32 × AlteraAdxcvr) :=
  if x.isTransmit then alteraA10AtxPllRecalcRate x else alteraA10CdrPllRecalcRate x

/-- The words of the dividers for a lane. All lanes of a transmitter have the one ATX PLL. -/
def dividerWords (x : AlteraAdxcvr) (lane : ℕ) : UInt32 × UInt32 × UInt32 :=
  if x.isTransmit then x.atxDividers else x.cdrDividers lane

/-- The announced rate is read back, from the same dividers in all lanes, and the other bits are as before. -/
structure ReadsBack (x y : AlteraAdxcvr) (rateKhz : UInt32) : Prop where
  rate : ∃ r z, y.recalcRate = some (r, z) ∧ x.roundRate rateKhz = some (r.toNat : ℤ)
  lanes : ∀ i < x.lanesPerLink, ∀ j < x.lanesPerLink, y.dividerWords i = y.dividerWords j
  keeps : Keeps (updatedFields x.isTransmit x.lanesPerLink) x.regs y.regs

variable {x y : AlteraAdxcvr} {rateKhz : UInt32}

/-- A transmitter is read without a division by zero if and only if its divider is at least four. -/
lemma AtxSet.rate_iff {c : AtxParams} (h : AtxSet x y rateKhz c) :
    (∃ r z, alteraA10AtxPllRecalcRate y = some (r, z) ∧ alteraA10AtxPllRoundRate x rateKhz = some (r.toNat : ℤ)) ↔
      4 ≤ c.n.toNat * c.l.toNat := by
  have hc := h.allowed
  have hrecalc := atxRecalcRate_eq h.initialRecalc h.dividers (h.parentRateKhz ▸ hc)
  rw [h.parentRateKhz] at hrecalc
  rw [hrecalc, atxRoundRate_eq h.calcParams hc]
  constructor
  · rintro ⟨r, z, hread, -⟩
    by_contra hsmall
    rw [small_divider hc.n hc.l (Nat.lt_of_not_le hsmall), roundedQuotient, if_pos rfl] at hread
    exact absurd hread nofun
  · intro h4
    have hpow : ∀ l ∈ ([1, 2, 4, 8, 16] : List UInt32), ∀ n ∈ ([1, 2, 4, 8] : List UInt32), l * n ≠ 0 := by decide
    have hmul : (x.parentRateKhz * c.m).toNat = x.parentRateKhz.toNat * c.m.toNat := by
      rw [UInt32.toNat_mul, Nat.mod_eq_of_lt (hc.mul_le.trans_lt (by decide))]
    have hmul4 : (x.parentRateKhz * c.m * 4).toNat = 4 * (x.parentRateKhz.toNat * c.m.toNat) := by
      have hle := hc.mul_le
      have hfour : (4 : UInt32).toNat = 4 := rfl
      rw [UInt32.toNat_mul, hmul, hfour, Nat.mod_eq_of_lt (by lia), Nat.mul_comm]
    obtain ⟨hne, hsame⟩ := quarter_rate hc.n hc.l h4 (x.parentRateKhz.toNat * c.m.toNat)
    obtain ⟨q, hq, hval⟩ := @roundedQuotient_eq (x.parentRateKhz * c.m) _ hne
    obtain ⟨q', hq', hval'⟩ := @roundedQuotient_eq (x.parentRateKhz * c.m * 4) _ (hpow _ hc.l _ hc.n)
    have heq : q'.toNat = q.toNat := by
      rw [hval', hval, hmul4, hmul, hsame]
    have hsmall : q.toNat ≤ 0x7fffffff := by
      have hle := hc.mul_le
      have hdiv : (c.l * c.n / 4).toNat / 2 ≤ 2 ^ 30 := by
        have hlt := (c.l * c.n).toNat_lt
        have hfour : (4 : UInt32).toNat = 4 := rfl
        rw [UInt32.toNat_div, hfour]
        lia
      rw [hval, hmul]
      apply (Nat.div_le_self _ _).trans
      lia
    rw [hq, hq']
    refine ⟨_, _, rfl, ?_⟩
    rw [Option.map_some, (min_limits hsmall).1, (min_limits (heq.trans_le hsmall)).2, heq]

lemma CdrSet.rate {c : CdrParams} (h : CdrSet x y rateKhz c) :
    ∃ r z, alteraA10CdrPllRecalcRate y = some (r, z) ∧ alteraA10CdrPllRoundRate x rateKhz = some (r.toNat : ℤ) := by
  have hc := h.allowed
  have hrecalc := cdrRecalcRate_eq h.initialRecalc (h.dividers 0 x.lanes_pos) (h.parentRateKhz ▸ hc)
  rw [h.parentRateKhz] at hrecalc
  obtain ⟨q, hq, hsmall⟩ := cdrQuotient hc
  rw [hrecalc, cdrRoundRate_eq h.calcParams hc, hq]
  refine ⟨_, _, rfl, ?_⟩
  rw [Option.map_some, (min_limits hsmall).1, (min_limits hsmall).2]

/-- A rate is read back if and only if the dividers that are found for a transmitter are at least four together. -/
theorem readsBack_iff (h : x.setRate rateKhz = some (SUCCESS, y)) : x.ReadsBack y rateKhz ↔
    (x.isTransmit = true → ∃ c, x.atxClosest rateKhz = some c ∧ 4 ≤ c.n.toNat * c.l.toNat) := by
  cases htx : x.isTransmit with
  | false =>
    rw [setRate, htx] at h
    obtain ⟨c, hset⟩ := cdrSetRate_spec h
    have hytx : y.isTransmit = false := hset.isTransmit.trans htx
    refine iff_of_true ⟨?_, ?_, ?_⟩ nofun
    · rw [recalcRate, roundRate, hytx, htx]
      exact hset.rate
    · intro i hi j hj
      rw [dividerWords, dividerWords, hytx]
      exact (hset.dividers i hi).trans (hset.dividers j hj).symm
    · rw [htx]
      exact hset.keeps
  | true =>
    rw [setRate, htx] at h
    obtain ⟨c, hset⟩ := atxSetRate_spec h
    have hytx : y.isTransmit = true := hset.isTransmit.trans htx
    have hrate : (∃ r z, y.recalcRate = some (r, z) ∧ x.roundRate rateKhz = some (r.toNat : ℤ)) ↔
        4 ≤ c.n.toNat * c.l.toNat := by
      rw [recalcRate, roundRate, hytx, htx]
      exact hset.rate_iff
    constructor
    · intro hback _
      exact ⟨c, hset.closest, hrate.mp hback.rate⟩
    · intro hfour
      obtain ⟨c', hc', h4⟩ := hfour rfl
      obtain rfl := Option.some.inj (hset.closest.symm.trans hc')
      refine ⟨hrate.mpr h4, ?_, ?_⟩
      · intro i _ j _
        rw [dividerWords, dividerWords, hytx]
        rfl
      · rw [htx]
        exact hset.keeps

/-- A transmitter with one lane and a reference of 800 MHz. -/
def transmitter : AlteraAdxcvr := ⟨true, 1, Nat.one_pos, 0, 0, 800000, true, fun _ => 0, fun _ => 0, 0⟩

theorem readsBack_at : ∃ y, transmitter.setRate 6400000 = some (SUCCESS, y) ∧ transmitter.ReadsBack y 6400000 := by
  obtain ⟨y, hy⟩ : ∃ y, transmitter.setRate 6400000 = some (SUCCESS, y) := ⟨_, rfl⟩
  refine ⟨y, hy, (readsBack_iff hy).mpr fun _ => ⟨⟨1, 8, 4⟩, ?_, ?_⟩⟩
  · decide +kernel
  · decide

/-- For 12.8 Gbps, `l` is 2 and `n` is 1. -/
theorem not_readsBack : ∃ y, transmitter.setRate 12800000 = some (SUCCESS, y) ∧
    ¬transmitter.ReadsBack y 12800000 := by
  obtain ⟨y, hy⟩ : ∃ y, transmitter.setRate 12800000 = some (SUCCESS, y) := ⟨_, rfl⟩
  refine ⟨y, hy, ?_⟩
  intro h
  obtain ⟨c, hset⟩ := atxSetRate_spec hy
  have hclosest : transmitter.atxClosest 12800000 = some ⟨1, 8, 2⟩ := by decide +kernel
  obtain rfl := Option.some.inj (hclosest.symm.trans hset.closest)
  have hrate := h.rate
  rw [recalcRate, hset.isTransmit] at hrate
  exact absurd (hset.rate_iff.mp hrate) (by decide)

end AlteraAdxcvr

end NoOS
