import Mathlib.Data.Nat.Bitwise
import NoOS.Drivers.ClkAlteraA10Fpll
import NoOS.Lib.Nearest
import NoOS.Lib.Word

/-!
# The counters that are read back

Bit 8 of the output counter is written into bit 4 of its register and read from bit 3, so that an output
counter above 255 is not read back, and neither is a rate above `LONG_MAX`, which is announced as that.
-/

namespace NoOS
open RegisterFile

section Search

variable {fref fout : UInt32} {p : UInt32 × UInt32}

lemma fpllPairs_le (h : p ∈ fpllPairs fref) : p.1.toNat ≤ 127 ∧ p.2.toNat ≤ 31 := by
  obtain ⟨m, hm, hp⟩ := List.mem_flatMap.mp h
  obtain ⟨n, hn, rfl⟩ := List.mem_map.mp hp
  have hm := le_of_mem_forStep (by decide) hm
  have hn := (mem_forRange hn).2
  simp only [fpllMMax, fpllNMaxOf, fpllNMax, UInt32.toNat_min] at hm hn
  have h127 : (127 : UInt32).toNat = 127 := rfl
  have h31 : (31 : UInt32).toNat = 31 := rfl
  constructor <;> dsimp only <;> lia

lemma fpllC0_mem : 1 ≤ (fpllC0 fref fout p).toNat ∧ (fpllC0 fref fout p).toNat ≤ 512 := by
  have hone : (1 : UInt32).toNat = 1 := rfl
  have h512 : (512 : UInt32).toNat = 512 := rfl
  simp only [fpllC0, clamp, UInt32.toNat_max, UInt32.toNat_min]
  lia

lemma toNat_fpllF : (fpllF fref fout p).toNat = (fpllFvco fref p).toNat / ((fpllC0 fref fout p).toNat * 4) := by
  have hhigh := (@fpllC0_mem fref fout p).2
  have hmul : (fpllC0 fref fout p * 4).toNat = (fpllC0 fref fout p).toNat * 4 := by
    rw [UInt32.toNat_mul]
    exact Nat.mod_eq_of_lt (by change _ * 4 < 2 ^ 32; lia)
  rw [fpllF, UInt32.toNat_div, hmul]

lemma fpllF_lt : (fpllF fref fout p).toNat < 2 ^ 31 := by
  have hlow := (@fpllC0_mem fref fout p).1
  rw [toNat_fpllF, Nat.div_lt_iff_lt_mul (by omega)]
  have hlt := (fpllFvco fref p).toNat_lt
  lia

variable (fref fout) in
/-- How far the output of a pair is from the rate, in kHz. No pair counts as -1 kHz. -/
def fpllCost : Option (UInt32 × UInt32) → ℕ
  | none => fout.toNat + 1
  | some p => ((fpllF fref fout p).toNat - (fout.toNat : ℤ)).natAbs

/-- What the loops store for the pair that they keep. -/
def FpllBest.ofPair (fref fout : UInt32) : Option (UInt32 × UInt32) → FpllBest
  | none => {}
  | some p => ⟨fpllF fref fout p, p.2, p.1, fpllC0 fref fout p, fpllFvco fref p⟩

lemma cAbs_ofPair (hfout : fout.toNat < 2 ^ 31) (best : Option (UInt32 × UInt32)) :
    cAbs ((FpllBest.ofPair fref fout best).f - fout) = fpllCost fref fout best := by
  cases best with
  | none =>
    have hsub : (0xffffffff - fout : UInt32).toNat = 0xffffffff - fout.toNat :=
      Word.toNat_sub_of_le (by change fout.toNat ≤ 0xffffffff; omega)
    change cAbs (0xffffffff - fout) = _
    rw [cAbs_eq, hsub, fpllCost]
    split_ifs <;> lia
  | some p => exact cAbs_sub fpllF_lt hfout

lemma fpllSearch_eq_scan (hfout : fout.toNat < 2 ^ 31) (h4 : fout * 4 ≠ 0) {l : List (UInt32 × UInt32)}
    (best : Option (UInt32 × UInt32)) : ∃ ret,
      fpllSearch fref fout (.ofPair fref fout best) l =
        some (ret, .ofPair fref fout ((FirstBest.scan (fpllCost fref fout) (some best) (l.map some)).getD none)) := by
  induction l generalizing best with
  | nil => exact ⟨FAILURE, rfl⟩
  | cons p l ih =>
    have hzero : fpllF fref fout p = fout ↔ fpllCost fref fout (some p) = 0 := by
      rw [← UInt32.toNat_inj, fpllCost]
      lia
    have hp := @cAbs_ofPair fref fout hfout (some p)
    change cAbs (fpllF fref fout p - fout) = _ at hp
    rw [fpllSearch, if_neg h4, cAbs_ofPair hfout, hp, List.map_cons, FirstBest.scan]
    split_ifs with hlt hcost
    · exact ⟨0, if_pos (hzero.mpr hcost)⟩
    · obtain ⟨ret, hret⟩ := ih (some p)
      exact ⟨ret, (if_neg fun hexact => hcost (hzero.mp hexact)).trans hret⟩
    · exact ih best

variable (fref fout) in
/-- The first of the pairs that are closest to the rate. -/
def fpllClosest : Option (UInt32 × UInt32) :=
  ((none :: (fpllPairs fref).map some).argmin (fpllCost fref fout)).getD none

lemma fpllSearch_closest (hfout : fout.toNat < 2 ^ 31) (h4 : fout * 4 ≠ 0) : ∃ ret,
    fpllSearch fref fout {} (fpllPairs fref) = some (ret, .ofPair fref fout (fpllClosest fref fout)) := by
  obtain ⟨ret, hsearch⟩ := @fpllSearch_eq_scan fref _ hfout h4 (fpllPairs fref) none
  rw [FirstBest.scan_some_eq_argmin] at hsearch
  exact ⟨ret, hsearch⟩

lemma fpllClosest_mem (h : fpllClosest fref fout = some p) : p ∈ fpllPairs fref := by
  unfold fpllClosest at h
  rcases hmin : (none :: (fpllPairs fref).map some).argmin (fpllCost fref fout) with _ | best
  · rw [hmin] at h
    exact absurd h nofun
  · rw [hmin] at h
    obtain rfl : best = some p := h
    have hmem := List.argmin_mem hmin
    rw [List.mem_cons, List.mem_map] at hmem
    rcases hmem with hnone | ⟨q, hq, hsome⟩
    · exact absurd hnone nofun
    · rwa [← Option.some.inj hsome]

end Search

lemma toNat_kHz_lt (x : UInt32) : (x / 1000).toNat < 2 ^ 31 := by
  rw [UInt32.toNat_div]
  have hlt := x.toNat_lt
  change x.toNat / 1000 < 2 ^ 31
  lia

lemma calcParams_closest {parentRate rate : UInt32} {ret : Int} {best : FpllBest}
    (h : alteraA10FpllCalcParams parentRate rate = some (ret, best)) (hn : best.n ≠ 0) :
    best = .ofPair (parentRate / 1000) (rate / 1000) (fpllClosest (parentRate / 1000) (rate / 1000)) := by
  unfold alteraA10FpllCalcParams at h
  dsimp only at h
  split_ifs at h with hfref
  by_cases h4 : rate / 1000 * 4 = 0
  · cases hpairs : fpllPairs (parentRate / 1000) with
    | nil =>
      rw [hpairs, fpllSearch, Option.some.injEq, Prod.mk.injEq] at h
      exact absurd (congrArg FpllBest.n h.2).symm hn
    | cons p l =>
      rw [hpairs, fpllSearch, if_pos h4] at h
      exact absurd h nofun
  · obtain ⟨code, hsearch⟩ := @fpllSearch_closest (parentRate / 1000) _ (toNat_kHz_lt rate) h4
    rw [h, Option.some.injEq, Prod.mk.injEq] at hsearch
    exact hsearch.2

namespace A10Fpll

variable {p : A10Fpll} {best : FpllBest}

/-- The fields that a new rate is written into, with the arbitration and the calibration. -/
def updatedFields (addr : ℕ) : UInt32 :=
  if addr = 0x00 ∨ addr = FPLL_REG_DIV_COUNTER0 ∨ addr = FPLL_REG_DIV_COUNTER1 ∨
    addr = FPLL_REG_C_COUNTER2 ∨ addr = FPLL_REG_C_COUNTER3 then 0xffffffff
  else if addr = FPLL_REG_C_COUNTER4 then 0x0f
  else if addr = 0x133 then 0x0c
  else if addr = 0x134 then 0x70
  else if addr = 0x135 then 0x07
  else if addr = 0x100 then 0x02
  else 0

lemma poll_eq (bit : UInt32) (n : ℕ) : ∃ k, (p.poll bit n).2 = { p with polls := k } := by
  induction n generalizing p with
  | zero => exact ⟨p.polls, rfl⟩
  | succ n ih =>
    rw [poll]
    split_ifs
    · exact ⟨p.polls + 1, rfl⟩
    · exact @ih { p with polls := p.polls + 1 }

@[simp] lemma poll_regs (bit : UInt32) (n : ℕ) : (p.poll bit n).2.regs = p.regs := by
  obtain ⟨k, hk⟩ := @poll_eq p bit n
  rw [hk]

@[simp] lemma poll_parentRate (bit : UInt32) (n : ℕ) : (p.poll bit n).2.parentRate = p.parentRate := by
  obtain ⟨k, hk⟩ := @poll_eq p bit n
  rw [hk]

lemma acquireArbitration_regs : p.acquireArbitration.regs = Function.update p.regs 0x00 0x2 :=
  poll_regs 4 10001

lemma calibrate_regs :
    p.calibrate.regs = Function.update (RegisterFile.update p.regs 0x100 0x2 0x2) 0x00 0x1 := by
  funext i
  simp only [calibrate, pllCalibrationCheck, releaseArbitration, A10Fpll.write, A10Fpll.update, A10Fpll.read,
    poll_regs]
  by_cases hi : i = 0x126
  · subst hi
    simp
  · by_cases hzero : i = 0x00
    · subst hzero
      simp
    · by_cases h100 : i = 0x100
      · subst h100
        simp
      · simp [hi, hzero, h100]

lemma bit8_cases (c : UInt32) : c &&& 0x100 = 0 ∨ c &&& 0x100 = 0x100 := by
  have hbit := Nat.and_two_pow c.toNat 8
  cases htest : c.toNat.testBit 8 with
  | false =>
    apply Or.inl
    apply UInt32.toNat_inj.mp
    rw [UInt32.toNat_and]
    rwa [htest, Bool.toNat_false, Nat.zero_mul] at hbit
  | true =>
    apply Or.inr
    apply UInt32.toNat_inj.mp
    rw [UInt32.toNat_and]
    rwa [htest, Bool.toNat_true, Nat.one_mul] at hbit

lemma toNat_and_ff (c : UInt32) : (c &&& 0xff).toNat = c.toNat % 256 := by
  rw [UInt32.toNat_and]
  exact Nat.and_two_pow_sub_one_eq_mod c.toNat 8

lemma writeCounters_dividers (hm0 : best.m ≠ 0) (hm : best.m.toNat ≤ 127) (hn : best.n.toNat ≤ 31)
    (hc0 : best.c0.toNat ≤ 512) : (p.writeCounters best).dividers = (best.n, best.m, best.c0 &&& 0xff) := by
  have hdiv0 : best.m &&& 0xff = best.m := by
    apply UInt32.toNat_inj.mp
    rw [toNat_and_ff]
    lia
  have hbit0 : (best.n <<< 3 &&& 0xf8) &&& 1 = 0 := by
    rw [UInt32.and_assoc]
    exact UInt32.and_zero
  have hfield : ∀ n : Fin 32, ((UInt32.ofNat n.val <<< 3 &&& 0xf8) >>> 3) &&& 0x1f = UInt32.ofNat n.val := by
    decide
  have hdiv1 : ((best.n <<< 3 &&& 0xf8) >>> 3) &&& 0x1f = best.n := by
    have hself := hfield ⟨best.n.toNat, by omega⟩
    rwa [UInt32.ofNat_toNat] at hself
  have hlow : (if best.c0 ≥ 512 then 0 else best.c0) &&& 0xff = best.c0 &&& 0xff := by
    split_ifs with hlarge
    · rw [ge_iff_le, UInt32.le_iff_toNat_le] at hlarge
      obtain heq : best.c0 = 512 := UInt32.toNat_inj.mp (Nat.le_antisymm hc0 hlarge)
      rw [heq]
      rfl
    · rfl
  have hhigh (c old : UInt32) : ((old &&& ~~~(0x0f : UInt32)) ||| ((c &&& 0x100) >>> 4)) &&& (0x8 : UInt32) = 0 := by
    rw [update_and (by decide)]
    rcases bit8_cases c with h | h <;>
    · rw [h]
      rfl
  unfold dividers writeCounters
  simp [A10Fpll.write, A10Fpll.update, A10Fpll.read, FPLL_REG_DIV_COUNTER0, FPLL_REG_DIV_COUNTER1,
    FPLL_REG_C_COUNTER2, FPLL_REG_C_COUNTER3, FPLL_REG_C_COUNTER4, hdiv0, hbit0, hdiv1, hm0, hhigh, hlow]

lemma lfr_field (fvco m : UInt32) : (0x0c : UInt32) &&& (alteraA10FpllLookupLfResistance fvco m <<< 2) =
    alteraA10FpllLookupLfResistance fvco m <<< 2 := by
  unfold alteraA10FpllLookupLfResistance
  split_ifs <;> rfl

lemma cpc_field (fvco m : UInt32) :
    (0x70 : UInt32) &&& ((alteraA10FpllLookupCpCurrent fvco m &&& 0x7) <<< 4) =
      (alteraA10FpllLookupCpCurrent fvco m &&& 0x7) <<< 4 ∧
    (0x07 : UInt32) &&& ((alteraA10FpllLookupCpCurrent fvco m &&& 0x38) >>> 3) =
      (alteraA10FpllLookupCpCurrent fvco m &&& 0x38) >>> 3 := by
  unfold alteraA10FpllLookupCpCurrent
  split_ifs <;> exact ⟨rfl, rfl⟩

/-- The bits outside of the fields, as long as the output counter does not use bit 8. -/
lemma writeCounters_keeps (hc0 : best.c0.toNat ≤ 255) :
    Keeps updatedFields p.regs (p.writeCounters best).regs := by
  have hbit8 : (if best.c0 ≥ 512 then 0 else best.c0) &&& 0x100 = 0 := by
    have hlarge : ¬best.c0 ≥ 512 := by
      rw [ge_iff_le, UInt32.le_iff_toNat_le]
      change ¬512 ≤ best.c0.toNat
      omega
    rw [if_neg hlarge]
    have hbit := Nat.and_two_pow best.c0.toNat 8
    rw [Nat.testBit_lt_two_pow (by omega), Bool.toNat_false, Nat.zero_mul] at hbit
    apply UInt32.toNat_inj.mp
    rw [UInt32.toNat_and]
    exact hbit
  have hcpc := cpc_field best.fvco best.m
  unfold writeCounters
  simp only [A10Fpll.write, A10Fpll.update, hbit8]
  refine Keeps.trans ?_ (keeps_update hcpc.2 (by decide))
  refine Keeps.trans ?_ (keeps_update hcpc.1 (by decide))
  refine Keeps.trans ?_ (keeps_update (lfr_field best.fvco best.m) (by decide))
  refine Keeps.trans ?_ (keeps_update (by decide) (by decide))
  refine Keeps.trans ?_ (keeps_write (by decide))
  refine Keeps.trans ?_ (keeps_write (by decide))
  refine Keeps.trans ?_ (keeps_write (by decide))
  exact keeps_write (by decide)

@[simp] lemma acquireArbitration_parentRate : p.acquireArbitration.parentRate = p.parentRate :=
  poll_parentRate 4 10001

@[simp] lemma writeCounters_parentRate : (p.writeCounters best).parentRate = p.parentRate := rfl

@[simp] lemma calibrate_parentRate : p.calibrate.parentRate = p.parentRate := by
  simp only [calibrate, pllCalibrationCheck, releaseArbitration, A10Fpll.write, A10Fpll.update, poll_parentRate]

lemma acquireArbitration_dividers : p.acquireArbitration.dividers = p.dividers := by
  simp [dividers, A10Fpll.read, acquireArbitration_regs, FPLL_REG_DIV_COUNTER0, FPLL_REG_DIV_COUNTER1,
    FPLL_REG_C_COUNTER3, FPLL_REG_C_COUNTER4]

lemma calibrate_dividers : p.calibrate.dividers = p.dividers := by
  simp [dividers, A10Fpll.read, calibrate_regs, FPLL_REG_DIV_COUNTER0, FPLL_REG_DIV_COUNTER1,
    FPLL_REG_C_COUNTER3, FPLL_REG_C_COUNTER4]

lemma calibrate_keeps : Keeps updatedFields p.regs p.calibrate.regs := by
  rw [calibrate_regs]
  exact (keeps_update (by decide) (by decide)).trans (keeps_write (by decide))

lemma acquireArbitration_keeps : Keeps updatedFields p.regs p.acquireArbitration.regs := by
  rw [acquireArbitration_regs]
  exact keeps_write (by decide)

/-- The dividers of the search and the announced rate are read back, and the other bits are as before. -/
structure ReadsBack (p p' : A10Fpll) (rate : UInt32) : Prop where
  dividers : ∀ ret best, alteraA10FpllCalcParams p.parentRate rate = some (ret, best) →
    p'.dividers = (best.n, best.m, best.c0)
  rate : ∃ r p'', alteraA10FpllRecalcRate p' = some (r, p'') ∧ alteraA10FpllRoundRate p rate = some (r.toNat : ℤ)
  keeps : Keeps updatedFields p.regs p'.regs

end A10Fpll

/-- The rate for the dividers of a pair, rounded. -/
def fpllRounded (parentRate m c0 n : ℕ) : ℕ := (parentRate * m + c0 * n) / (c0 * n * 2)

section Rate

variable {parentRate m c0 n : UInt32}

lemma fpllQuotient_eq (hm : m.toNat ≤ 127) (hn : n.toNat ≤ 31) (hn0 : n ≠ 0) (hc : c0.toNat ≤ 512)
    (hc0 : c0 ≠ 0) : ∃ tmp : UInt64, fpllQuotient parentRate m c0 n = some tmp ∧
      tmp.toNat = fpllRounded parentRate.toNat m.toNat c0.toNat n.toNat := by
  have hproduct : c0.toNat * n.toNat ≤ 512 * 31 := Nat.mul_le_mul hc hn
  have hpos : 0 < c0.toNat * n.toNat := by
    apply Nat.mul_pos
    · exact Nat.pos_of_ne_zero fun h => hc0 (UInt32.toNat_inj.mp h)
    · exact Nat.pos_of_ne_zero fun h => hn0 (UInt32.toNat_inj.mp h)
  have hbase : (c0 * n * 2).toNat = c0.toNat * n.toNat * 2 := by
    have htwo : (2 : UInt32).toNat = 2 := rfl
    have hmul : (c0 * n).toNat = c0.toNat * n.toNat := by
      rw [UInt32.toNat_mul, Nat.mod_eq_of_lt (by lia)]
    rw [UInt32.toNat_mul, hmul, htwo, Nat.mod_eq_of_lt (by lia)]
  have hbase0 : c0 * n * 2 ≠ 0 := Word.ne_zero_of_pos (by lia)
  have hnum : parentRate.toNat * m.toNat ≤ 2 ^ 32 * 127 := Nat.mul_le_mul parentRate.toNat_lt.le hm
  have hmul : (parentRate.toUInt64 * m.toUInt64).toNat = parentRate.toNat * m.toNat := by
    have hbound : parentRate.toUInt64.toNat * m.toUInt64.toNat < 2 ^ 64 := by
      rw [UInt32.toNat_toUInt64, UInt32.toNat_toUInt64]
      lia
    rw [Word.toNat_mul64 hbound, UInt32.toNat_toUInt64, UInt32.toNat_toUInt64]
  have hhalf : (c0 * n * 2 / 2).toUInt64.toNat = c0.toNat * n.toNat := by
    rw [UInt32.toNat_toUInt64, UInt32.toNat_div, hbase]
    exact Nat.mul_div_cancel _ (by decide)
  refine ⟨_, if_neg hbase0, ?_⟩
  rw [divRoundClosestUll, UInt64.toNat_div, Word.toNat_add64 (by rw [hmul, hhalf]; lia), hmul, hhalf,
    UInt32.toNat_toUInt64, hbase]
  rfl

/-- A clamped rate is the same with both limits as long as it fits the lower one. -/
lemma min_toUInt32 {tmp : UInt64} (h : tmp.toNat ≤ 0x7fffffff) :
    (min tmp ULONG_MAX).toUInt32.toNat = (min tmp LONG_MAX).toNat := by
  have hlong : LONG_MAX.toNat = 0x7fffffff := rfl
  have hulong : ULONG_MAX.toNat = 0xffffffff := rfl
  rw [UInt64.toNat_toUInt32, UInt64.toNat_min, UInt64.toNat_min, hlong, hulong]
  lia

lemma le_of_min_eq {tmp : UInt64} (h : (min tmp ULONG_MAX).toUInt32.toNat = (min tmp LONG_MAX).toNat) :
    tmp.toNat ≤ 0x7fffffff := by
  have hlong : LONG_MAX.toNat = 0x7fffffff := rfl
  have hulong : ULONG_MAX.toNat = 0xffffffff := rfl
  rw [UInt64.toNat_toUInt32, UInt64.toNat_min, UInt64.toNat_min, hlong, hulong] at h
  lia

end Rate

namespace A10Fpll

variable {p p' : A10Fpll} {rate : UInt32}

/-- The pair that the search keeps, if any. -/
def closest (p : A10Fpll) (rate : UInt32) : Option (UInt32 × UInt32) :=
  fpllClosest (p.parentRate / 1000) (rate / 1000)

def c0 (p : A10Fpll) (rate : UInt32) (q : UInt32 × UInt32) : UInt32 :=
  fpllC0 (p.parentRate / 1000) (rate / 1000) q

lemma setRate_spec (h : alteraA10FpllSetRate p rate = some (SUCCESS, p')) : ∃ q ret, p.closest rate = some q ∧
    alteraA10FpllCalcParams p.parentRate rate =
      some (ret, .ofPair (p.parentRate / 1000) (rate / 1000) (some q)) ∧
    q.1 ≠ 0 ∧ q.2 ≠ 0 ∧ q.1.toNat ≤ 127 ∧ q.2.toNat ≤ 31 ∧
    p' = { (p.acquireArbitration.writeCounters (.ofPair (p.parentRate / 1000) (rate / 1000) (some q))).calibrate
      with initialRecalc := false } := by
  unfold alteraA10FpllSetRate at h
  cases hcalc : alteraA10FpllCalcParams p.parentRate rate with
  | none =>
    rw [hcalc] at h
    exact absurd h nofun
  | some found =>
    obtain ⟨ret, best⟩ := found
    rw [hcalc] at h
    change (if best.n = 0 ∨ best.m = 0 ∨ best.c0 = 0 then _ else _) = _ at h
    split_ifs at h with hzero
    · exact absurd (Prod.mk.inj (Option.some.inj h)).1 (by decide)
    · obtain ⟨hn, hm, -⟩ := not_or.mp hzero |>.imp id not_or.mp
      have hbest := calcParams_closest hcalc hn
      cases hclosest : fpllClosest (p.parentRate / 1000) (rate / 1000) with
      | none =>
        rw [hbest, hclosest] at hn
        exact absurd rfl hn
      | some q =>
        rw [hclosest] at hbest
        subst hbest
        obtain ⟨hm127, hn31⟩ := fpllPairs_le (fpllClosest_mem hclosest)
        exact ⟨q, ret, hclosest, rfl, hm, hn, hm127, hn31, (Prod.mk.inj (Option.some.inj h)).2.symm⟩

lemma recalcRate_eq {n m c0 : UInt32} {tmp : UInt64} (hinit : p.initialRecalc = false)
    (hdiv : p.dividers = (n, m, c0)) (hc0 : c0 ≠ 0) (hn : n ≠ 0)
    (htmp : fpllQuotient p.parentRate m c0 n = some tmp) :
    ∃ p'', alteraA10FpllRecalcRate p = some ((min tmp ULONG_MAX).toUInt32, p'') := by
  have hparent : (p.acquireArbitration.releaseArbitration false).parentRate = p.parentRate :=
    acquireArbitration_parentRate
  have hrecalc : (p.acquireArbitration.releaseArbitration false).initialRecalc = false := by
    obtain ⟨k, hk⟩ := @poll_eq (p.write 0x00 0x2) 4 10001
    change ((p.write 0x00 0x2).poll 4 10001).2.initialRecalc = false
    rw [hk]
    exact hinit
  refine ⟨p.acquireArbitration.releaseArbitration false, ?_⟩
  unfold alteraA10FpllRecalcRate
  simp only [acquireArbitration_dividers, hdiv, hc0, hn, or_self, if_false, hparent, htmp, hrecalc,
    Bool.false_eq_true, and_false, Option.bind_eq_bind, Option.bind_some]

lemma roundRate_eq {ret : Int} {best : FpllBest} {tmp : UInt64}
    (hcalc : alteraA10FpllCalcParams p.parentRate rate = some (ret, best)) (hn : best.n ≠ 0) (hm : best.m ≠ 0)
    (hc0 : best.c0 ≠ 0) (htmp : fpllQuotient p.parentRate best.m best.c0 best.n = some tmp) :
    alteraA10FpllRoundRate p rate = some ((min tmp LONG_MAX).toNat : ℤ) := by
  unfold alteraA10FpllRoundRate
  simp only [hcalc, hn, hm, hc0, or_self, if_false, htmp, Option.bind_eq_bind, Option.bind_some]

/-- The rate of the pair that is kept is read back if and only if its output counter is at most 255 and its
rate fits a `long`. -/
theorem reads_back_iff (hset : alteraA10FpllSetRate p rate = some (SUCCESS, p')) :
    p.ReadsBack p' rate ↔ ∃ q, p.closest rate = some q ∧ (p.c0 rate q).toNat ≤ 255 ∧
      fpllRounded p.parentRate.toNat q.1.toNat (p.c0 rate q).toNat q.2.toNat ≤ LONG_MAX.toNat := by
  obtain ⟨q, ret, hq, hcalc, hm, hn, hm127, hn31, hp'⟩ := setRate_spec hset
  obtain ⟨hc1, hc512⟩ : 1 ≤ (p.c0 rate q).toNat ∧ (p.c0 rate q).toNat ≤ 512 := fpllC0_mem
  have hc0 : p.c0 rate q ≠ 0 := Word.ne_zero_of_pos hc1
  have hread : p'.dividers = (q.2, q.1, p.c0 rate q &&& 0xff) := by
    have hwritten := @writeCounters_dividers p.acquireArbitration
      (.ofPair (p.parentRate / 1000) (rate / 1000) (some q)) hm hm127 hn31 hc512
    rw [hp']
    exact calibrate_dividers.trans hwritten
  have hparent : p'.parentRate = p.parentRate := by
    rw [hp']
    simp only [calibrate_parentRate, writeCounters_parentRate, acquireArbitration_parentRate]
  have hinit : p'.initialRecalc = false := by
    rw [hp']
  obtain ⟨tmp, htmp, hround⟩ := @fpllQuotient_eq p.parentRate q.1 (p.c0 rate q) q.2 hm127 hn31 hn hc512 hc0
  constructor
  · intro h
    have hsame := (Prod.mk.inj (Prod.mk.inj (hread.symm.trans (h.dividers ret _ hcalc))).2).2
    have hlow : (p.c0 rate q).toNat ≤ 255 := by
      have hmod := toNat_and_ff (p.c0 rate q)
      rw [hsame] at hmod
      change (p.c0 rate q).toNat = _ at hmod
      omega
    have hself : p.c0 rate q &&& 0xff = p.c0 rate q := hsame
    rw [hself] at hread
    rw [← hparent] at htmp
    obtain ⟨p₂, hrecalc⟩ := recalcRate_eq hinit hread hc0 hn htmp
    rw [hparent] at htmp
    obtain ⟨r, p₃, hrecalc', hannounced⟩ := h.rate
    refine ⟨q, hq, hlow, ?_⟩
    rw [← hround]
    apply le_of_min_eq
    obtain rfl := (Prod.mk.inj (Option.some.inj (hrecalc.symm.trans hrecalc'))).1
    have hround' := (roundRate_eq hcalc hn hm hc0 htmp).symm.trans hannounced
    exact (Int.ofNat.inj (Option.some.inj hround')).symm
  · rintro ⟨q', hq', hlow, hlong⟩
    obtain rfl := Option.some.inj (hq.symm.trans hq')
    rw [← hround] at hlong
    have hself : p.c0 rate q &&& 0xff = p.c0 rate q := by
      apply UInt32.toNat_inj.mp
      rw [toNat_and_ff]
      exact Nat.mod_eq_of_lt (by omega)
    rw [hself] at hread
    constructor
    · intro ret' best hcalc'
      obtain ⟨-, rfl⟩ := Prod.mk.inj (Option.some.inj (hcalc.symm.trans hcalc'))
      exact hread
    · have hround' := roundRate_eq hcalc hn hm hc0 htmp
      rw [← hparent] at htmp
      obtain ⟨p₂, hrecalc⟩ := recalcRate_eq hinit hread hc0 hn htmp
      refine ⟨_, p₂, hrecalc, ?_⟩
      rw [hround', min_toUInt32 hlong]
    · rw [hp']
      apply acquireArbitration_keeps.trans
      apply Keeps.trans _ calibrate_keeps
      exact writeCounters_keeps hlow

/-- A reference of 60 MHz. -/
def sixty : A10Fpll := ⟨60000000, true, fun _ => 0, fun _ => 0, 0⟩

theorem reads_back_at : ∃ p', alteraA10FpllSetRate sixty 4800000 = some (SUCCESS, p') ∧
    sixty.ReadsBack p' 4800000 := by
  refine ⟨_, rfl, ?_⟩
  refine (reads_back_iff rfl).mpr ⟨(40, 1), ?_, ?_, ?_⟩
  · decide +kernel
  · decide
  · decide

/-- The output counter for 4 MHz is 300, which is read back as 44. -/
theorem not_read_back : ∃ p', alteraA10FpllSetRate sixty 4000000 = some (SUCCESS, p') ∧
    ¬sixty.ReadsBack p' 4000000 := by
  refine ⟨_, rfl, ?_⟩
  intro h
  have hread := h.dividers 0 ⟨4000, 1, 40, 300, 4800000⟩ rfl
  revert hread
  decide

end A10Fpll

end NoOS
