import NoOS.Drivers.Hmc7044
import NoOS.Lib.Word

/-!
# The dividers of PLL1 of the HMC7044

The common divisor of all references is halved until it is small enough. Halving an odd number
leaves a number that divides the references no more.
-/

namespace NoOS
open Arith

lemma toNat_foldl_gcd (f : Fin 4 → UInt32) (l : List (Fin 4)) (v : UInt32) :
    (l.foldl (fun lcm i => if f i ≠ 0 then greatestCommonDivisor (f i) lcm else lcm) v).toNat =
      l.foldl (fun g i => Nat.gcd (f i).toNat g) v.toNat := by
  induction l generalizing v with
  | nil => rfl
  | cons i l ih =>
    rw [List.foldl_cons, List.foldl_cons, ih]
    split_ifs with hzero
    · rw [toNat_greatestCommonDivisor]
    · rw [not_not.mp hzero]
      change _ = List.foldl _ (Nat.gcd 0 v.toNat) l
      rw [Nat.gcd_zero_left]

lemma dvd_foldl_gcd (f : Fin 4 → ℕ) (l : List (Fin 4)) (v d : ℕ) :
    d ∣ l.foldl (fun g i => Nat.gcd (f i) g) v ↔ d ∣ v ∧ ∀ i ∈ l, d ∣ f i := by
  induction l generalizing v with
  | nil => simp
  | cons i l ih =>
    rw [List.foldl_cons, ih, Nat.dvd_gcd_iff, List.forall_mem_cons]
    tauto

namespace Hmc7044Dev

variable (dev : Hmc7044Dev)

def vcxoKHz : UInt32 := dev.vcxoFreq / 1000

def lcmFreq : UInt32 := halveLcm 32 dev.commonFreq

lemma dvd_commonFreq (d : ℕ) : d ∣ dev.commonFreq.toNat ↔
    d ∣ dev.vcxoKHz.toNat ∧ ∀ i, d ∣ (dev.clkinKHz i).toNat := by
  rw [commonFreq, toNat_foldl_gcd, dvd_foldl_gcd]
  simp [vcxoKHz]

lemma commonFreq_eq_zero : dev.commonFreq = 0 ↔ dev.vcxoKHz = 0 ∧ ∀ i, dev.clkinKHz i = 0 := by
  have hzero : ∀ x : UInt32, x = 0 ↔ 0 ∣ x.toNat := by
    intro x
    rw [Nat.zero_dvd, ← UInt32.toNat_inj]
    rfl
  rw [hzero, dvd_commonFreq]
  simp only [← hzero]

end Hmc7044Dev

lemma lcmMax_lt_iff (f : UInt32) : f > HMC7044_RECOMM_LCM_MAX ↔ 70000 < f.toNat :=
  UInt32.lt_iff_toNat_lt

lemma halveLcm_le (n : ℕ) (f : UInt32) (h : f.toNat < 2 ^ n) : (halveLcm n f).toNat ≤ 70000 := by
  induction n generalizing f with
  | zero =>
    rw [halveLcm]
    omega
  | succ n ih =>
    rw [halveLcm]
    split_ifs with hlarge
    · apply ih
      rw [UInt32.toNat_div]
      change f.toNat / 2 < 2 ^ n
      rw [Nat.pow_succ] at h
      lia
    · rw [lcmMax_lt_iff] at hlarge
      omega

lemma halveLcm_ne_zero (n : ℕ) {f : UInt32} (h : f ≠ 0) : halveLcm n f ≠ 0 := by
  induction n generalizing f with
  | zero => exact h
  | succ n ih =>
    rw [halveLcm]
    split_ifs with hlarge
    · apply ih
      apply Word.ne_zero_of_pos
      rw [lcmMax_lt_iff] at hlarge
      rw [UInt32.toNat_div]
      change 0 < f.toNat / 2
      lia
    · exact h

lemma halveLcm_eq_div (n : ℕ) (f : UInt32) : ∃ k,
    (halveLcm n f).toNat = f.toNat / 2 ^ k ∧ (k = 0 ∨ 70000 < f.toNat / 2 ^ (k - 1)) := by
  induction n generalizing f with
  | zero => exact ⟨0, by simp [halveLcm], Or.inl rfl⟩
  | succ n ih =>
    rw [halveLcm]
    split_ifs with hlarge
    · obtain ⟨k, hquot, hk⟩ := ih (f / 2)
      have hhalf : (f / 2).toNat = f.toNat / 2 := UInt32.toNat_div f 2
      rw [hhalf] at hquot hk
      refine ⟨k + 1, ?_, Or.inr ?_⟩
      · rw [hquot, Nat.div_div_eq_div_mul, Nat.pow_succ']
      · rw [lcmMax_lt_iff] at hlarge
        rcases hk with rfl | hk
        · simpa using hlarge
        · cases k with
          | zero => simpa using hlarge
          | succ k =>
            rw [Nat.div_div_eq_div_mul, Nat.add_sub_cancel] at hk
            rwa [Nat.add_sub_cancel, Nat.pow_succ']
    · exact ⟨0, by simp, Or.inl rfl⟩

lemma halveLcm_double {n k lcm : ℕ} {f : UInt32} (hn : k ≤ n) (hf : f.toNat = lcm * 2 ^ k)
    (hle : lcm ≤ 70000) (hk : k = 0 ∨ 70000 < lcm * 2) : (halveLcm n f).toNat = lcm := by
  induction n generalizing f k with
  | zero =>
    obtain rfl : k = 0 := by lia
    simpa [halveLcm] using hf
  | succ n ih =>
    rw [halveLcm]
    cases k with
    | zero =>
      rw [if_neg (by rw [lcmMax_lt_iff]; lia)]
      simpa using hf
    | succ k =>
      have hdouble : f.toNat = lcm * 2 ^ k * 2 := by rw [hf, Nat.pow_succ, Nat.mul_assoc]
      have hpos := Nat.le_mul_of_pos_right lcm (Nat.two_pow_pos k)
      rw [if_pos (by rw [lcmMax_lt_iff]; lia)]
      apply ih (k := k) (by lia) _ (by lia)
      rw [UInt32.toNat_div, hdouble]
      exact Nat.mul_div_cancel _ (by decide)

/-- The loop doubles both dividers as long as the frequency is too high. -/
lemma gives_pll1Scale (k : ℕ) {pfd n1 r1 : UInt32} (hn : n1.toNat ≤ 65535)
    (hr : r1.toNat ≤ 65535) : ∃ s j,
      Gives 32 (pll1Scale k pfd n1 r1) s True ∧ (j = 0 ∨ 10000 * 2 ^ j ≤ 2 * pfd.toNat) ∧
        s.2.1.toNat = n1.toNat * 2 ^ j ∧ s.2.2.toNat = r1.toNat * 2 ^ j ∧
        s.2.1.toNat ≤ 65535 ∧ s.2.2.toNat ≤ 65535 := by
  induction k generalizing pfd n1 r1 with
  | zero => exact ⟨_, 0, Gives.pure, Or.inl rfl, by simp, by simp, hn, hr⟩
  | succ k ih =>
    rw [pll1Scale]
    split_ifs with hloop
    · simp only [gt_iff_lt, UInt32.lt_iff_toNat_lt, UInt32.le_iff_toNat_le] at hloop
      change 10000 < pfd.toNat ∧ n1.toNat ≤ 32767 ∧ r1.toNat ≤ 32767 at hloop
      have hn2 : (n1 * 2).toNat = n1.toNat * 2 := by
        rw [UInt32.toNat_mul]
        exact Nat.mod_eq_of_lt (by change n1.toNat * 2 < 2 ^ 32; lia)
      have hr2 : (r1 * 2).toNat = r1.toNat * 2 := by
        rw [UInt32.toNat_mul]
        exact Nat.mod_eq_of_lt (by change r1.toNat * 2 < 2 ^ 32; lia)
      have hhalf : (pfd / 2).toNat = pfd.toNat / 2 := UInt32.toNat_div ..
      obtain ⟨s, j, hgives, hj, hsn, hsr, hle⟩ := @ih (pfd / 2) (n1 * 2) (r1 * 2) (by lia) (by lia)
      refine ⟨s, j + 1, ?_, Or.inr ?_, ?_, ?_, hle⟩
      · refine (Gives.mul.bind (Gives.mul.bind hgives)).congr (iff_of_true ⟨?_, ?_, trivial⟩ trivial)
        · change n1.toNat * 2 < 2 ^ 32
          lia
        · change r1.toNat * 2 < 2 ^ 32
          lia
      · rw [Nat.pow_succ]
        rcases hj with rfl | hj
        · lia
        · lia
      · rw [hsn, hn2, Nat.pow_succ', Nat.mul_assoc]
      · rw [hsr, hr2, Nat.pow_succ', Nat.mul_assoc]
    · exact ⟨_, 0, Gives.pure, Or.inl rfl, by simp, by simp, hn, hr⟩

namespace Hmc7044Dev

variable (dev : Hmc7044Dev)

/-- Nothing is divided by zero: the VCXO has at least 1 kHz, there is a loop bandwidth, and the
fraction of the VCXO and the common frequency has terms of 16 bits. -/
structure Pll1Divides : Prop where
  vcxo : dev.vcxoKHz ≠ 0
  loopBw : dev.pll1LoopBw ≠ 0
  num : dev.vcxoKHz.toNat / Nat.gcd dev.vcxoKHz.toNat dev.lcmFreq.toNat ≤ 65535
  den : dev.lcmFreq.toNat / Nat.gcd dev.vcxoKHz.toNat dev.lcmFreq.toNat ≤ 65535

/-- The prescaler of an input. -/
def prescaler (i : Fin 4) : UInt32 :=
  if dev.clkinKHz i ≠ 0 then dev.clkinKHz i / dev.lcmFreq else 1

lemma lcmFreq_le : dev.lcmFreq.toNat ≤ 70000 :=
  halveLcm_le 32 _ dev.commonFreq.toNat_lt

lemma lcmFreq_ne_zero (h : dev.vcxoKHz ≠ 0) : dev.lcmFreq ≠ 0 :=
  halveLcm_ne_zero 32 fun hzero => h (dev.commonFreq_eq_zero.mp hzero).1

lemma gives_inPrescaler (hlcm : dev.lcmFreq ≠ 0) (i : Fin 4) :
    Gives 32 (inPrescaler (dev.clkinKHz i) dev.lcmFreq) (dev.prescaler i) True := by
  unfold inPrescaler prescaler
  split_ifs
  · exact Gives.div hlcm
  · exact Gives.pure

/-- What is computed for PLL1. -/
structure Pll1Of (p : Pll1) : Prop where
  clkin0 : p.inPrescaler 0 = dev.prescaler 0
  clkin1 : p.inPrescaler 1 = dev.prescaler 1
  clkin2 : p.inPrescaler 2 = dev.prescaler 2
  clkin3 : p.inPrescaler 3 = dev.prescaler 3
  oscin : p.inPrescaler 4 = dev.vcxoKHz / dev.lcmFreq
  scaled : ∃ j, (j = 0 ∨ 10000 * 2 ^ j ≤
      2 * (dev.vcxoKHz / (reduced dev.vcxoKHz dev.lcmFreq).1).toNat) ∧
    p.n1.toNat = (reduced dev.vcxoKHz dev.lcmFreq).1.toNat * 2 ^ j ∧
    p.r1.toNat = (reduced dev.vcxoKHz dev.lcmFreq).2.toNat * 2 ^ j
  n1_le : p.n1.toNat ≤ 65535
  r1_le : p.r1.toNat ≤ 65535

lemma gives_pll1 (h : dev.Pll1Divides) : ∃ p, Gives 32 (hmc7044Pll1 dev) p True ∧ dev.Pll1Of p := by
  have hlcm := dev.lcmFreq_ne_zero h.vcxo
  have hle := dev.lcmFreq_le
  have hbound : (reduced dev.vcxoKHz dev.lcmFreq).1.toNat ≤ 65535 ∧
      (reduced dev.vcxoKHz dev.lcmFreq).2.toNat ≤ 65535 := by
    rw [toNat_reduced.1, toNat_reduced.2]
    exact ⟨h.num, h.den⟩
  have hfits : ¬((reduced dev.vcxoKHz dev.lcmFreq).1 > HMC7044_N1_MAX ∨
      (reduced dev.vcxoKHz dev.lcmFreq).2 > HMC7044_R1_MAX) := by
    simp only [gt_iff_lt, UInt32.lt_iff_toNat_lt]
    change ¬(65535 < _ ∨ 65535 < _)
    lia
  have hrat := @gives_rational dev.vcxoKHz dev.lcmFreq HMC7044_N1_MAX HMC7044_R1_MAX 32 hlcm
  rw [if_neg hfits] at hrat
  obtain ⟨hn, -⟩ := reduced_pos h.vcxo hlcm
  obtain ⟨s, j, hscale, hj, hsn, hsr, hn1, hr1⟩ :=
    @gives_pll1Scale 32 (dev.vcxoKHz / (reduced dev.vcxoKHz dev.lcmFreq).1) _ _ hbound.1 hbound.2
  refine ⟨⟨![dev.prescaler 0, dev.prescaler 1, dev.prescaler 2, dev.prescaler 3,
    dev.vcxoKHz / dev.lcmFreq], logBase2 (dev.lcmFreq * 4000 / dev.pll1LoopBw), s.2.1, s.2.2, s.1⟩, ?_,
    ⟨rfl, rfl, rfl, rfl, rfl, ⟨j, hj, hsn, hsr⟩, hn1, hr1⟩⟩
  refine Gives.congr (φ := True ∧ True ∧ True ∧ True ∧ True ∧ dev.lcmFreq.toNat * 4000 < 2 ^ 32 ∧
    True ∧ True ∧ True ∧ True ∧ True) ?_ (iff_of_true (by simp only [true_and, and_true]; lia) trivial)
  unfold hmc7044Pll1
  apply (dev.gives_inPrescaler hlcm 0).bind
  apply (dev.gives_inPrescaler hlcm 1).bind
  apply (dev.gives_inPrescaler hlcm 2).bind
  apply (dev.gives_inPrescaler hlcm 3).bind
  apply (Gives.div hlcm).bind
  apply Gives.mul.bind
  apply (Gives.div h.loopBw).bind
  apply hrat.bind
  apply (Gives.div (Word.ne_zero_of_pos hn)).bind
  exact hscale.bind Gives.pure

lemma fails_pll1 (h : ¬dev.Pll1Divides) : (hmc7044Pll1 dev).Fails := by
  unfold hmc7044Pll1
  by_cases hlcm : dev.lcmFreq = 0
  · have hcommon : dev.commonFreq = 0 := by
      by_contra hne
      exact halveLcm_ne_zero 32 hne hlcm
    have hclkin := (dev.commonFreq_eq_zero.mp hcommon).2
    have hone : ∀ i lcm, Gives 32 (inPrescaler (dev.clkinKHz i) lcm) 1 True := by
      intro i lcm
      rw [inPrescaler, if_neg (not_not_intro (hclkin i))]
      exact Gives.pure
    apply (hone 0 _).bind_fails
    apply (hone 1 _).bind_fails
    apply (hone 2 _).bind_fails
    apply (hone 3 _).bind_fails
    change (Arith.div dev.vcxoKHz dev.lcmFreq >>= _).Fails
    rw [hlcm]
    exact fails_div.bind
  · have hrat := @gives_rational dev.vcxoKHz dev.lcmFreq HMC7044_N1_MAX HMC7044_R1_MAX 32 hlcm
    apply (dev.gives_inPrescaler hlcm 0).bind_fails
    apply (dev.gives_inPrescaler hlcm 1).bind_fails
    apply (dev.gives_inPrescaler hlcm 2).bind_fails
    apply (dev.gives_inPrescaler hlcm 3).bind_fails
    apply (Gives.div (w := 32) hlcm).bind_fails
    apply (Gives.mul (w := 32)).bind_fails
    by_cases hbw : dev.pll1LoopBw = 0
    · rw [hbw]
      exact fails_div.bind
    · apply (Gives.div (w := 32) hbw).bind_fails
      apply hrat.bind_fails
      -- the numerator that is divided by is 0
      have hzero : (if (reduced dev.vcxoKHz dev.lcmFreq).1 > HMC7044_N1_MAX ∨
          (reduced dev.vcxoKHz dev.lcmFreq).2 > HMC7044_R1_MAX then (0, 0)
          else reduced dev.vcxoKHz dev.lcmFreq).1 = 0 := by
        split_ifs with hfits
        · rfl
        · simp only [gt_iff_lt, UInt32.lt_iff_toNat_lt, toNat_reduced] at hfits
          change ¬(65535 < _ ∨ 65535 < _) at hfits
          have hvcxo : dev.vcxoKHz = 0 := by
            by_contra hne
            exact h ⟨hne, hbw, by omega, by omega⟩
          apply UInt32.toNat_inj.mp
          rw [toNat_reduced.1, hvcxo]
          exact Nat.zero_div _
      rw [hzero]
      exact fails_div.bind

end Hmc7044Dev

end NoOS
