import NoOS.Errno
import NoOS.Lib.CoarseFraction
import NoOS.Lib.Word
import NoOS.Util.Util

/-!
# Fractional-N frequencies

`adf4371.c` and `adf5355.c` divide the frequency of the VCO by that of the phase detector in the same
way: into an integer, a fraction of a fixed modulus, and a fraction of what is left, whose modulus is
made to fit its register.
-/

namespace NoOS
open Arith

structure FractN where
  integer : UInt32
  fract1 : UInt32
  fract2 : UInt32
  mod2 : UInt32

/-- The modulus and the fraction lose bits until the modulus fits, which 32 bits end. -/
def halveModulus (maxModulus2 : UInt32) : ℕ → UInt32 → UInt32 → UInt32 × UInt32
  | 0, mod2, fract2 => (mod2, fract2)
  | n + 1, mod2, fract2 =>
    if mod2 > maxModulus2 then halveModulus maxModulus2 n (mod2 >>> 1) (fract2 >>> 1) else (mod2, fract2)

def pllFractNCompute (modulus1 : UInt64) (maxModulus2 : UInt32) (vco pfd : UInt64) : Arith FractN := do
  let (vco, tmp) ← doDiv vco pfd
  let tmp ← Arith.mul64 tmp modulus1
  let (tmp, fract2) ← doDiv tmp pfd
  let (mod2, fract2) := halveModulus maxModulus2 32 pfd.toUInt32 fract2.toUInt32
  let gcdDiv := greatestCommonDivisor fract2 mod2
  let mod2 ← Arith.div mod2 gcdDiv
  let fract2 ← Arith.div fract2 gcdDiv
  return ⟨vco.toUInt32, tmp.toUInt32, fract2, mod2⟩

/-- The frequency that the dividers make, with `2 ^ divSel` as the divider of the output. -/
def pllFractNGetRate (modulus1 : UInt64) (s : FractN) (fpfd : UInt32) (divSel : UInt64) : Arith UInt64 := do
  let val ← Arith.mul64 s.integer.toUInt64 modulus1
  let val ← Arith.mul64 (val + s.fract1.toUInt64) fpfd.toUInt64
  let tmp ← Arith.mul64 s.fract2.toUInt64 fpfd.toUInt64
  let (tmp, _) ← doDiv tmp s.mod2.toUInt64
  let val := val + (tmp + modulus1 / 2)
  let base ← Arith.mul64 modulus1 ((1 : UInt64) <<< divSel)
  let (val, _) ← doDiv val base
  return val

/-- The doubling of a frequency up to the least one of the VCO, which 64 bits end. -/
def doubleToVco (minVcoFreq : UInt64) : ℕ → UInt64 → UInt32 → UInt64 × UInt32
  | 0, freq, divSel => (freq, divSel)
  | n + 1, freq, divSel =>
    if freq < minVcoFreq then doubleToVco minVcoFreq n (freq <<< 1) (divSel + 1) else (freq, divSel)

/-- Transfers up to the first that returns an error, with the code that ends them. -/
def sendUntil {α : Type} (fails : Int → Bool) : List (Int × α) → Int × List α
  | [] => (SUCCESS, [])
  | [(ret, w)] => (ret, [w])
  | (ret, w) :: rest =>
    if fails ret then (ret, [w])
    else
      let sent := sendUntil fails rest
      (sent.1, w :: sent.2)

section Send

variable {α : Type} {fails : Int → Bool} {l : List (Int × α)}

lemma sendUntil_ok (hsuccess : fails SUCCESS = false) (h : ∀ w ∈ l, fails w.1 = false) :
    fails (sendUntil fails l).1 = false ∧ (sendUntil fails l).2 = l.map Prod.snd := by
  induction l with
  | nil => exact ⟨hsuccess, rfl⟩
  | cons w rest ih =>
    obtain ⟨hw, hrest⟩ := List.forall_mem_cons.mp h
    obtain ⟨hret, hsent⟩ := ih hrest
    cases rest with
    | nil => exact ⟨hw, rfl⟩
    | cons v rest =>
      rw [sendUntil, if_neg (Bool.eq_false_iff.mp hw)]
      · exact ⟨hret, congrArg (w.2 :: ·) hsent⟩
      · exact List.cons_ne_nil v rest

end Send

lemma toNat_shiftRight_one (x : UInt32) : (x >>> 1).toNat = x.toNat / 2 := by
  rw [UInt32.toNat_shiftRight]
  exact Nat.shiftRight_eq_div_pow x.toNat 1

/-- The loop takes off the bits that the modulus has to lose, from the fraction too. -/
lemma halveModulus_eq {maxModulus2 : UInt32} (n : ℕ) {mod2 fract2 : UInt32} (hn : mod2.toNat < 2 ^ n) :
    (halveModulus maxModulus2 n mod2 fract2).1.toNat = CoarseFraction.coarse maxModulus2.toNat mod2.toNat mod2.toNat ∧
      (halveModulus maxModulus2 n mod2 fract2).2.toNat =
        CoarseFraction.coarse maxModulus2.toNat mod2.toNat fract2.toNat := by
  have hdone : ∀ {p x : ℕ}, p ≤ maxModulus2.toNat → x = CoarseFraction.coarse maxModulus2.toNat p x := by
    intro p x hle
    rw [CoarseFraction.coarse, CoarseFraction.lost_eq_zero hle, Nat.pow_zero, Nat.div_one]
  induction n generalizing mod2 fract2 with
  | zero =>
    have hzero : mod2.toNat ≤ maxModulus2.toNat := by lia
    exact ⟨hdone hzero, hdone hzero⟩
  | succ n ih =>
    rw [halveModulus]
    split_ifs with hlarge
    · rw [gt_iff_lt, UInt32.lt_iff_toNat_lt] at hlarge
      have hhalf := toNat_shiftRight_one mod2
      have hnext := @ih (mod2 >>> 1) (fract2 >>> 1) (by rw [hhalf]; rw [Nat.pow_succ] at hn; lia)
      rw [hhalf, toNat_shiftRight_one fract2, ← CoarseFraction.coarse_half hlarge,
        ← CoarseFraction.coarse_half hlarge] at hnext
      exact hnext
    · rw [gt_iff_lt, UInt32.lt_iff_toNat_lt, Nat.not_lt] at hlarge
      exact ⟨hdone hlarge, hdone hlarge⟩

/-- A frequency that `n` doublings lift to the least one is doubled at most `n` times, and never over
twice the least one. -/
lemma doubleToVco_spec {minVcoFreq : UInt64} (hmin : minVcoFreq.toNat ≤ 2 ^ 33) (n : ℕ) {fuel : ℕ}
    (hfuel : n ≤ fuel) {freq : UInt64} {divSel : UInt32} (hsel : divSel.toNat + n < 2 ^ 32)
    (hfreq : minVcoFreq.toNat ≤ freq.toNat * 2 ^ n) : ∃ k ≤ n,
      (doubleToVco minVcoFreq fuel freq divSel).1.toNat = freq.toNat * 2 ^ k ∧
      (doubleToVco minVcoFreq fuel freq divSel).2.toNat = divSel.toNat + k ∧
      minVcoFreq.toNat ≤ freq.toNat * 2 ^ k ∧ (k = 0 ∨ freq.toNat * 2 ^ k < 2 * minVcoFreq.toNat) := by
  induction n generalizing fuel freq divSel with
  | zero =>
    refine ⟨0, le_refl 0, ?_, ?_, hfreq, Or.inl rfl⟩ <;>
    · cases fuel with
      | zero => simp [doubleToVco]
      | succ fuel =>
        have hdone : ¬freq < minVcoFreq := by
          rw [UInt64.lt_iff_toNat_lt]
          lia
        simp [doubleToVco, hdone]
  | succ n ih =>
    obtain ⟨fuel, rfl⟩ : ∃ m, fuel = m + 1 := ⟨fuel - 1, by lia⟩
    rw [doubleToVco]
    split_ifs with hlow
    · rw [UInt64.lt_iff_toNat_lt] at hlow
      have hdouble : (freq <<< 1).toNat = freq.toNat * 2 := by
        rw [UInt64.toNat_shiftLeft]
        change freq.toNat <<< 1 % 2 ^ 64 = _
        rw [Nat.shiftLeft_eq, Nat.mod_eq_of_lt (by lia), Nat.pow_one]
      have hnext : (divSel + 1).toNat = divSel.toNat + 1 := Word.toNat_add_of_lt (by
        change divSel.toNat + 1 < 2 ^ 32
        lia)
      obtain ⟨k, hk, hfreq', hsel', hlow', hbound⟩ := @ih fuel (by lia) (freq <<< 1) (divSel + 1)
        (by rw [hnext]; lia) (by rw [hdouble, Nat.mul_assoc, ← Nat.pow_succ']; exact hfreq)
      rw [hdouble, Nat.mul_assoc, ← Nat.pow_succ'] at hfreq' hlow' hbound
      refine ⟨k + 1, by lia, hfreq', by rw [hsel', hnext]; lia, hlow', Or.inr ?_⟩
      rcases hbound with rfl | hbound
      · lia
      · exact hbound
    · rw [UInt64.lt_iff_toNat_lt] at hlow
      exact ⟨0, by omega, by simp, by simp, by lia, Or.inl rfl⟩

/-- The dividers stand for the frequency up to an error of the second fraction. -/
structure FractN.Splits (s : FractN) (modulus p vco : ℕ) : Prop where
  integer : s.integer.toNat = vco / p % 2 ^ 32
  fract1 : s.fract1.toNat = vco % p * modulus / p
  fract2_le : s.fract2.toNat ≤ p
  mod2_pos : 0 < s.mod2.toNat
  low : vco % p * modulus % p < CoarseFraction.part p s.fract2.toNat s.mod2.toNat + 2 ^ 15
  high : CoarseFraction.part p s.fract2.toNat s.mod2.toNat < vco % p * modulus % p + 2 ^ 15

/-- The dividers for a frequency of the VCO, with the second fraction in lowest terms. -/
structure FractN.Computes (s : FractN) (modulus maxModulus2 p vco : ℕ) : Prop where
  integer : s.integer.toNat = vco / p % 2 ^ 32
  fract1 : s.fract1.toNat = vco % p * modulus / p
  fract2 : s.fract2.toNat = CoarseFraction.coarse maxModulus2 p (vco % p * modulus % p) /
    Nat.gcd (CoarseFraction.coarse maxModulus2 p (vco % p * modulus % p)) (CoarseFraction.coarse maxModulus2 p p)
  mod2 : s.mod2.toNat = CoarseFraction.coarse maxModulus2 p p /
    Nat.gcd (CoarseFraction.coarse maxModulus2 p (vco % p * modulus % p)) (CoarseFraction.coarse maxModulus2 p p)

/-- A phase detector below 250 MHz does not lose more than 15 bits. -/
lemma two_pow_lost_le {maxModulus2 p : ℕ} (hp : 0 < p) (hmax : 2 ^ 14 ≤ maxModulus2) (hfpfd : p ≤ 250000000) :
    2 ^ CoarseFraction.lost maxModulus2 p ≤ 2 ^ 15 ∧ 0 < CoarseFraction.coarse maxModulus2 p p := by
  rcases (CoarseFraction.lost maxModulus2 p).eq_zero_or_pos with hzero | hpos
  · rw [CoarseFraction.coarse, hzero, Nat.pow_zero, Nat.div_one]
    exact ⟨by decide, hp⟩
  · have hlost := CoarseFraction.two_pow_lost_mul hpos
    have hmul := Nat.mul_le_mul_right (2 ^ CoarseFraction.lost maxModulus2 p) hmax
    refine ⟨by lia, ?_⟩
    rw [CoarseFraction.coarse]
    exact Nat.div_pos (by lia) (Nat.two_pow_pos _)

lemma FractN.Computes.splits {s : FractN} {modulus maxModulus2 p vco : ℕ} (h : s.Computes modulus maxModulus2 p vco)
    (hp : 0 < p) (hfpfd : p ≤ 250000000) (hmax : 2 ^ 14 ≤ maxModulus2) : s.Splits modulus p vco := by
  have hlt := Nat.mod_lt (vco % p * modulus) hp
  obtain ⟨hpow, hpos⟩ := two_pow_lost_le hp hmax hfpfd
  obtain ⟨hhigh, hlow⟩ := CoarseFraction.part_error hlt hpos
  have hpart : CoarseFraction.part p s.fract2.toNat s.mod2.toNat = CoarseFraction.part p
      (CoarseFraction.coarse maxModulus2 p (vco % p * modulus % p)) (CoarseFraction.coarse maxModulus2 p p) := by
    rw [h.fract2, h.mod2, CoarseFraction.part_reduced hpos]
  unfold CoarseFraction.coarse at hpart
  constructor
  · exact h.integer
  · exact h.fract1
  · rw [h.fract2, CoarseFraction.coarse]
    exact (Nat.div_le_self _ _).trans ((Nat.div_le_self _ _).trans hlt.le)
  · rw [h.mod2]
    exact Nat.div_pos (Nat.gcd_le_right _ hpos) (Nat.gcd_pos_of_pos_right _ hpos)
  · rw [hpart]
    lia
  · rw [hpart]
    lia

section RoundTrip

variable {modulus1 vco : UInt64} {maxModulus2 fpfd : UInt32}

lemma gives_compute (hp : 0 < fpfd.toNat) (hfpfd : fpfd.toNat ≤ 250000000)
    (hmax : 2 ^ 14 ≤ maxModulus2.toNat) (hmod : modulus1.toNat ≤ 2 ^ 25) : ∃ s,
      Gives 64 (pllFractNCompute modulus1 maxModulus2 vco fpfd.toUInt64) s True ∧
      s.Computes modulus1.toNat maxModulus2.toNat fpfd.toNat vco.toNat := by
  have hpfd : fpfd.toUInt64.toNat = fpfd.toNat := UInt32.toNat_toUInt64 fpfd
  have hne : fpfd.toUInt64 ≠ 0 := Word.ne_zero_of_pos64 (by rwa [hpfd])
  have hrem := Nat.mod_lt vco.toNat hp
  -- what is left of the VCO, in steps of the first modulus
  have hproduct : (vco % fpfd.toUInt64).toNat * modulus1.toNat < 2 ^ 64 := by
    rw [UInt64.toNat_mod, hpfd]
    calc vco.toNat % fpfd.toNat * modulus1.toNat ≤ 250000000 * 2 ^ 25 :=
          Nat.mul_le_mul (by lia) hmod
      _ < 2 ^ 64 := by decide
  have htmp : (vco % fpfd.toUInt64 * modulus1).toNat = vco.toNat % fpfd.toNat * modulus1.toNat := by
    rw [Word.toNat_mul64 hproduct, UInt64.toNat_mod, hpfd]
  have hfract2 : (vco % fpfd.toUInt64 * modulus1 % fpfd.toUInt64).toUInt32.toNat =
      vco.toNat % fpfd.toNat * modulus1.toNat % fpfd.toNat := by
    have hlt := Nat.mod_lt (vco.toNat % fpfd.toNat * modulus1.toNat) hp
    rw [UInt64.toNat_toUInt32, UInt64.toNat_mod, htmp, hpfd, Nat.mod_eq_of_lt (by lia)]
  have hfract1 : (vco % fpfd.toUInt64 * modulus1 / fpfd.toUInt64).toUInt32.toNat =
      vco.toNat % fpfd.toNat * modulus1.toNat / fpfd.toNat := by
    have hle : vco.toNat % fpfd.toNat * modulus1.toNat / fpfd.toNat ≤ modulus1.toNat :=
      Nat.div_le_of_le_mul (Nat.mul_le_mul_right _ hrem.le)
    rw [UInt64.toNat_toUInt32, UInt64.toNat_div, htmp, hpfd, Nat.mod_eq_of_lt (by lia)]
  have hself : fpfd.toUInt64.toUInt32 = fpfd := by
    apply UInt32.toNat_inj.mp
    rw [UInt64.toNat_toUInt32, hpfd, Nat.mod_eq_of_lt fpfd.toNat_lt]
  obtain ⟨hm, hn⟩ := @halveModulus_eq maxModulus2 32 fpfd
    (vco % fpfd.toUInt64 * modulus1 % fpfd.toUInt64).toUInt32 fpfd.toNat_lt
  rcases hhalve : halveModulus maxModulus2 32 fpfd
    (vco % fpfd.toUInt64 * modulus1 % fpfd.toUInt64).toUInt32 with ⟨m, n⟩
  rw [hhalve] at hm hn
  dsimp only at hm hn
  rw [hfract2] at hn
  obtain ⟨-, hpos⟩ := two_pow_lost_le hp hmax hfpfd
  have hgcd : greatestCommonDivisor n m ≠ 0 := gcd_ne_zero (Word.ne_zero_of_pos (by rwa [hm]))
  obtain ⟨hnum, hden⟩ := @toNat_reduced n m
  rw [hn, hm] at hnum hden
  refine ⟨⟨(vco / fpfd.toUInt64).toUInt32, (vco % fpfd.toUInt64 * modulus1 / fpfd.toUInt64).toUInt32,
    n / greatestCommonDivisor n m, m / greatestCommonDivisor n m⟩, ?_, ?_⟩
  · refine Gives.congr (φ := True ∧ (vco % fpfd.toUInt64).toNat * modulus1.toNat < 2 ^ 64 ∧ True ∧ True ∧
      True ∧ True) ?_ (by simp only [hproduct, and_self])
    unfold pllFractNCompute
    apply (gives_doDiv hne).bind
    apply Gives.mul64.bind
    apply (gives_doDiv hne).bind
    dsimp only
    rw [hself, hhalve]
    apply (Gives.div hgcd).bind
    apply (Gives.div hgcd).bind
    exact Gives.pure
  · constructor
    · change (vco / fpfd.toUInt64).toUInt32.toNat = _
      rw [UInt64.toNat_toUInt32, UInt64.toNat_div, hpfd]
    · exact hfract1
    · exact hnum
    · exact hden

/-- The rate as an expression in words. -/
def FractN.rate (s : FractN) (modulus1 : UInt64) (fpfd : UInt32) (divSel : UInt64) : UInt64 :=
  ((s.integer.toUInt64 * modulus1 + s.fract1.toUInt64) * fpfd.toUInt64 +
    (s.fract2.toUInt64 * fpfd.toUInt64 / s.mod2.toUInt64 + modulus1 / 2)) / (modulus1 * ((1 : UInt64) <<< divSel))

lemma gives_rate {s : FractN} {divSel : UInt64} (hmod2 : s.mod2.toUInt64 ≠ 0)
    (hbase : modulus1 * ((1 : UInt64) <<< divSel) ≠ 0) :
    Gives 64 (pllFractNGetRate modulus1 s fpfd divSel) (s.rate modulus1 fpfd divSel)
      (s.integer.toUInt64.toNat * modulus1.toNat < 2 ^ 64 ∧
        (s.integer.toUInt64 * modulus1 + s.fract1.toUInt64).toNat * fpfd.toUInt64.toNat < 2 ^ 64 ∧
        s.fract2.toUInt64.toNat * fpfd.toUInt64.toNat < 2 ^ 64 ∧
        modulus1.toNat * ((1 : UInt64) <<< divSel).toNat < 2 ^ 64) := by
  refine Gives.congr (φ := s.integer.toUInt64.toNat * modulus1.toNat < 2 ^ 64 ∧
    (s.integer.toUInt64 * modulus1 + s.fract1.toUInt64).toNat * fpfd.toUInt64.toNat < 2 ^ 64 ∧
    s.fract2.toUInt64.toNat * fpfd.toUInt64.toNat < 2 ^ 64 ∧ True ∧
    modulus1.toNat * ((1 : UInt64) <<< divSel).toNat < 2 ^ 64 ∧ True ∧ True) ?_
    (by simp only [and_true, true_and])
  unfold pllFractNGetRate
  apply Gives.mul64.bind
  apply Gives.mul64.bind
  apply Gives.mul64.bind
  apply (gives_doDiv hmod2).bind
  apply Gives.mul64.bind
  apply (gives_doDiv hbase).bind
  exact Gives.pure

lemma toNat_one_shiftLeft {divSel : UInt64} (h : divSel.toNat ≤ 6) :
    ((1 : UInt64) <<< divSel).toNat = 2 ^ divSel.toNat := by
  rw [UInt64.toNat_shiftLeft, Nat.mod_eq_of_lt (by omega : divSel.toNat < 64), Nat.shiftLeft_eq]
  change 1 * 2 ^ divSel.toNat % 2 ^ 64 = _
  rw [Nat.one_mul]
  exact Nat.mod_eq_of_lt (Nat.pow_lt_pow_right (by decide) (by omega))

/-- What the first two dividers make, in steps of the first modulus. -/
lemma steps_eq (i r modulus p : ℕ) : (i * modulus + r * modulus / p) * p + r * modulus % p =
    (i * p + r) * modulus := by
  have hdiv := Nat.div_add_mod (r * modulus) p
  rw [Nat.add_mul, Nat.add_assoc, Nat.mul_comm (r * modulus / p), hdiv, Nat.add_mul, Nat.mul_right_comm]

/-- The frequency that the dividers make is the one that they were made for, as far as the integer fits
32 bits. -/
lemma gives_getRate {s : FractN} {vco : ℕ} {divSel : UInt64} (h : s.Splits modulus1.toNat fpfd.toNat vco)
    (hp : 0 < fpfd.toNat) (hfpfd : fpfd.toNat ≤ 250000000) (hmod : 2 ^ 16 ≤ modulus1.toNat)
    (hmod' : modulus1.toNat ≤ 2 ^ 25) (hvco : vco < 2 ^ 33) (hsel : divSel.toNat ≤ 6) :
    Gives 64 (pllFractNGetRate modulus1 s fpfd divSel) (s.rate modulus1 fpfd divSel) True ∧
      (s.rate modulus1 fpfd divSel).toNat =
        (vco / fpfd.toNat % 2 ^ 32 * fpfd.toNat + vco % fpfd.toNat) / 2 ^ divSel.toNat := by
  have hrem := Nat.mod_lt vco hp
  have hint := h.integer
  have hfract1 := h.fract1
  have hlow := h.low
  have hhigh := h.high
  have hpfd : fpfd.toUInt64.toNat = fpfd.toNat := UInt32.toNat_toUInt64 fpfd
  have hmod2 : s.mod2.toUInt64 ≠ 0 := Word.ne_zero_of_pos64 (by rw [UInt32.toNat_toUInt64]; exact h.mod2_pos)
  have hshift := toNat_one_shiftLeft hsel
  have hx : vco / fpfd.toNat % 2 ^ 32 * fpfd.toNat + vco % fpfd.toNat ≤ vco := by
    have hquot := Nat.mul_le_mul_right fpfd.toNat (Nat.mod_le (vco / fpfd.toNat) (2 ^ 32))
    have hdiv := Nat.div_add_mod vco fpfd.toNat
    rw [Nat.mul_comm] at hdiv
    lia
  generalize vco / fpfd.toNat % 2 ^ 32 = i at *
  generalize vco % fpfd.toNat = r at *
  have hsteps := steps_eq i r modulus1.toNat fpfd.toNat
  have hbound : (i * fpfd.toNat + r) * modulus1.toNat < 2 ^ 33 * 2 ^ 25 :=
    Nat.mul_lt_mul_of_lt_of_le (by lia) hmod' (by omega)
  have hi : i * modulus1.toNat ≤ (i * fpfd.toNat + r) * modulus1.toNat := by
    apply Nat.mul_le_mul_right
    exact (Nat.le_mul_of_pos_right i hp).trans (Nat.le_add_right _ _)
  have hfract : r * modulus1.toNat / fpfd.toNat ≤ modulus1.toNat :=
    Nat.div_le_of_le_mul (Nat.mul_le_mul_right _ hrem.le)
  -- the words of the calculation, one after the other
  have hfirst : s.integer.toUInt64.toNat * modulus1.toNat = i * modulus1.toNat := by
    rw [UInt32.toNat_toUInt64, hint]
  have hsum : (s.integer.toUInt64 * modulus1 + s.fract1.toUInt64).toNat =
      i * modulus1.toNat + r * modulus1.toNat / fpfd.toNat := by
    have hfirst' := (Word.toNat_mul64 (x := s.integer.toUInt64) (y := modulus1) (by lia)).trans hfirst
    rw [Word.toNat_add64 (by rw [hfirst', UInt32.toNat_toUInt64, hfract1]; lia), hfirst',
      UInt32.toNat_toUInt64, hfract1]
  have hsecond : (s.integer.toUInt64 * modulus1 + s.fract1.toUInt64).toNat * fpfd.toUInt64.toNat =
      (i * modulus1.toNat + r * modulus1.toNat / fpfd.toNat) * fpfd.toNat := by
    rw [hsum, hpfd]
  have hthird : s.fract2.toUInt64.toNat * fpfd.toUInt64.toNat < 2 ^ 64 := by
    rw [UInt32.toNat_toUInt64, hpfd]
    calc s.fract2.toNat * fpfd.toNat ≤ 250000000 * 250000000 :=
          Nat.mul_le_mul (h.fract2_le.trans hfpfd) hfpfd
      _ < 2 ^ 64 := by decide
  have hpart : (s.fract2.toUInt64 * fpfd.toUInt64 / s.mod2.toUInt64).toNat =
      CoarseFraction.part fpfd.toNat s.fract2.toNat s.mod2.toNat := by
    rw [UInt64.toNat_div, Word.toNat_mul64 hthird, hpfd, UInt32.toNat_toUInt64, UInt32.toNat_toUInt64]
    rfl
  have hhalf : (s.fract2.toUInt64 * fpfd.toUInt64 / s.mod2.toUInt64 + modulus1 / 2).toNat =
      CoarseFraction.part fpfd.toNat s.fract2.toNat s.mod2.toNat + modulus1.toNat / 2 := by
    have htwo : (modulus1 / 2).toNat = modulus1.toNat / 2 := UInt64.toNat_div modulus1 2
    have hsmall := Nat.mod_lt (r * modulus1.toNat) hp
    rw [Word.toNat_add64 (by rw [hpart, htwo]; lia), hpart, htwo]
  have hfourth : modulus1.toNat * ((1 : UInt64) <<< divSel).toNat < 2 ^ 64 := by
    rw [hshift]
    calc modulus1.toNat * 2 ^ divSel.toNat ≤ 2 ^ 25 * 2 ^ 6 :=
          Nat.mul_le_mul hmod' (Nat.pow_le_pow_right (by decide) hsel)
      _ < 2 ^ 64 := by decide
  have hbase : (modulus1 * ((1 : UInt64) <<< divSel)).toNat = modulus1.toNat * 2 ^ divSel.toNat := by
    rw [Word.toNat_mul64 hfourth, hshift]
  have hbase0 : modulus1 * ((1 : UInt64) <<< divSel) ≠ 0 := by
    apply Word.ne_zero_of_pos64
    rw [hbase]
    exact Nat.mul_pos (by lia) (Nat.two_pow_pos _)
  refine ⟨(gives_rate hmod2 hbase0).congr (iff_of_true ⟨by lia, by lia, hthird, hfourth⟩ trivial), ?_⟩
  have hsmall := Nat.mod_lt (r * modulus1.toNat) hp
  have hsecond' := (Word.toNat_mul64 (by lia)).trans hsecond
  rw [FractN.rate, UInt64.toNat_div, hbase, Word.toNat_add64 (by rw [hsecond', hhalf]; lia), hsecond', hhalf,
    ← Nat.div_div_eq_div_mul]
  have hround := @CoarseFraction.div_add_half (i * fpfd.toNat + r) (r * modulus1.toNat % fpfd.toNat)
    (CoarseFraction.part fpfd.toNat s.fract2.toNat s.mod2.toNat) modulus1.toNat (by lia) (by lia) (by lia)
    (by lia)
  have hdifference : (i * modulus1.toNat + r * modulus1.toNat / fpfd.toNat) * fpfd.toNat =
      (i * fpfd.toNat + r) * modulus1.toNat - r * modulus1.toNat % fpfd.toNat := by
    lia
  rw [hdifference, hround]

end RoundTrip

/-- A VCO for an output of `f`, which is doubled `sel` times and never over twice the least frequency. -/
structure VcoFor (minVcoFreq f vco sel : ℕ) : Prop where
  eq : vco = f * 2 ^ sel
  sel_le : sel ≤ 6
  low : minVcoFreq ≤ vco
  lt : vco < 2 ^ 33
  tight : sel = 0 ∨ vco < 2 * minVcoFreq

/-- The frequency of the VCO for an output of `f` does not fit 32 bits. -/
def VcoWide (minVcoFreq f : ℕ) : Prop := ∃ k ≤ 6, 2 ^ 32 ≤ f * 2 ^ k ∧ (k = 0 ∨ f * 2 ^ k < 2 * minVcoFreq)

/-- The frequency of the VCO for an output of `f`: as many doublings as it takes to reach the least one. -/
def vcoOf (minVcoFreq f : ℕ) : ℕ := f * 2 ^ Nat.size ((minVcoFreq - 1) / f)

section Output

variable {minVcoFreq f vco sel p : ℕ}

lemma VcoFor.vco_eq (h : VcoFor minVcoFreq f vco sel) : vco = vcoOf minVcoFreq f := by
  have hlow := h.low
  have htight := h.tight
  rw [h.eq] at hlow htight ⊢
  rcases f.eq_zero_or_pos with rfl | hf
  · rw [vcoOf, Nat.zero_mul, Nat.zero_mul]
  · have hpos : 0 < f * 2 ^ sel := Nat.mul_pos hf (Nat.two_pow_pos sel)
    have hiff : ∀ k, Nat.size ((minVcoFreq - 1) / f) ≤ k ↔ minVcoFreq - 1 < f * 2 ^ k := by
      intro k
      rw [Nat.size_le, Nat.div_lt_iff_lt_mul hf, Nat.mul_comm]
    have hsel : Nat.size ((minVcoFreq - 1) / f) = sel := by
      apply Nat.le_antisymm
      · exact (hiff sel).mpr (by lia)
      · rcases sel with _ | k
        · exact Nat.zero_le _
        · apply Nat.lt_of_not_le
          rw [hiff]
          rw [Nat.pow_succ, ← Nat.mul_assoc] at htight
          lia
    rw [vcoOf, hsel]

lemma VcoFor.wide_iff (h : VcoFor minVcoFreq f vco sel) :
    VcoWide minVcoFreq f ↔ 2 ^ 32 ≤ vco := by
  constructor
  · rintro ⟨k, -, hk, htight⟩
    have hlow := h.low
    rw [h.eq] at hlow ⊢
    -- the number of doublings is the one that the code makes
    rcases Nat.lt_trichotomy k sel with hlt | rfl | hgt
    · have hle : f * 2 ^ (k + 1) ≤ f * 2 ^ sel :=
        Nat.mul_le_mul_left f (Nat.pow_le_pow_right (by decide) hlt)
      rw [Nat.pow_succ, ← Nat.mul_assoc] at hle
      have hsel := h.tight
      rw [h.eq] at hsel
      lia
    · exact hk
    · have hle : f * 2 ^ (sel + 1) ≤ f * 2 ^ k :=
        Nat.mul_le_mul_left f (Nat.pow_le_pow_right (by decide) hgt)
      rw [Nat.pow_succ, ← Nat.mul_assoc] at hle
      lia
  · intro hwide
    refine ⟨sel, h.sel_le, ?_, ?_⟩
    · rw [← h.eq]
      exact hwide
    · rw [← h.eq]
      exact h.tight

/-- The integer loses its bit 32 exactly when the phase detector runs at 1 Hz and the VCO at `2 ^ 32` or
more, and then the output is too low. -/
lemma VcoFor.back_iff (h : VcoFor minVcoFreq f vco sel) (hp : 0 < p) :
    (vco / p % 2 ^ 32 * p + vco % p) / 2 ^ sel = f ↔ ¬(p = 1 ∧ VcoWide minVcoFreq f) := by
  rw [h.wide_iff]
  have hpow := Nat.two_pow_pos sel
  have hf : vco / 2 ^ sel = f := by
    rw [h.eq]
    exact Nat.mul_div_cancel f hpow
  have hlt := h.lt
  constructor
  · rintro hback ⟨rfl, hwide⟩
    have hmod : vco % 2 ^ 32 = vco - 2 ^ 32 := by lia
    rw [Nat.div_one, Nat.mul_one, Nat.mod_one, Nat.add_zero, hmod] at hback
    have hle : 2 ^ sel ≤ 2 ^ 32 := Nat.pow_le_pow_right (by decide) (h.sel_le.trans (by decide))
    have hlower : (vco - 2 ^ 32) / 2 ^ sel ≤ (vco - 2 ^ sel) / 2 ^ sel := Nat.div_le_div_right (by lia)
    have hstep := Nat.sub_mul_div vco (2 ^ sel) 1
    have hpos : 0 < vco / 2 ^ sel := Nat.div_pos (by lia) hpow
    rw [Nat.mul_one] at hstep
    lia
  · intro hok
    have hquot : vco / p < 2 ^ 32 := by
      rw [Nat.div_lt_iff_lt_mul hp]
      rcases Nat.lt_or_ge p 2 with hlow | hhigh
      · obtain rfl : p = 1 := by lia
        lia
      · calc vco < 2 ^ 32 * 2 := by omega
          _ ≤ 2 ^ 32 * p := Nat.mul_le_mul_left _ hhigh
    rw [Nat.mod_eq_of_lt hquot, Nat.mul_comm, Nat.div_add_mod, hf]

/-- Doubling gives a VCO for every frequency that is at most a 64th below the least one. -/
lemma vcoFor_doubleToVco {minVcoFreq freq : UInt64} (hmin : minVcoFreq.toNat ≤ 2 ^ 32)
    (hlow : minVcoFreq.toNat ≤ freq.toNat * 2 ^ 6) (hhigh : freq.toNat < 2 ^ 33) :
    VcoFor minVcoFreq.toNat freq.toNat (doubleToVco minVcoFreq 64 freq 0).1.toNat
      (doubleToVco minVcoFreq 64 freq 0).2.toNat := by
  obtain ⟨k, hk, hfreq, hsel, hdone, htight⟩ := @doubleToVco_spec minVcoFreq (by lia) 6 64 (by decide)
    freq 0 (by decide) hlow
  change _ = 0 + k at hsel
  rw [Nat.zero_add] at hsel
  rw [hfreq, hsel]
  refine ⟨rfl, hk, hdone, ?_, htight⟩
  rcases htight with rfl | hlt
  · lia
  · lia

end Output

lemma gives_output {modulus1 divSel : UInt64} {fpfd : UInt32} {s : FractN} {minVcoFreq f vco : ℕ}
    (hs : s.Splits modulus1.toNat fpfd.toNat vco) (h : VcoFor minVcoFreq f vco divSel.toNat)
    (hp : 0 < fpfd.toNat) (hfpfd : fpfd.toNat ≤ 250000000)
    (hmod : 2 ^ 16 ≤ modulus1.toNat) (hmod' : modulus1.toNat ≤ 2 ^ 25) :
    Gives 64 (pllFractNGetRate modulus1 s fpfd divSel) (s.rate modulus1 fpfd divSel) True ∧
      (s.rate modulus1 fpfd divSel).toNat ≤ f ∧
      ((s.rate modulus1 fpfd divSel).toNat = f ↔ ¬(fpfd.toNat = 1 ∧ VcoWide minVcoFreq f)) := by
  obtain ⟨hgives, hrate⟩ := gives_getRate hs hp hfpfd hmod hmod' h.lt h.sel_le
  refine ⟨hgives, ?_, by rw [hrate]; exact h.back_iff hp⟩
  rw [hrate]
  calc (vco / fpfd.toNat % 2 ^ 32 * fpfd.toNat + vco % fpfd.toNat) / 2 ^ divSel.toNat
      ≤ (vco / fpfd.toNat * fpfd.toNat + vco % fpfd.toNat) / 2 ^ divSel.toNat := by
        apply Nat.div_le_div_right
        apply Nat.add_le_add_right
        exact Nat.mul_le_mul_right _ (Nat.mod_le _ _)
    _ = vco / 2 ^ divSel.toNat := by rw [Nat.div_add_mod']
    _ = f := by rw [h.eq, Nat.mul_div_cancel f (Nat.two_pow_pos _)]

/-- A setter and the reader after it use no more than 64 bits, and what is read is the rate that was set,
down to a multiple of `step`. -/
def ReadsBack {α : Type} (set : Arith α) (recalc : Arith (Int × UInt64)) (rate step : ℕ) : Prop :=
  set.Fits 64 ∧ recalc.Fits 64 ∧ ∃ v, recalc.value = some (SUCCESS, v) ∧ v.toNat = rate / step * step

end NoOS
