import NoOS.Drivers.Adf4350
import NoOS.Lib.Loops
import NoOS.Lib.Word
import Mathlib.Tactic.Ring

/-!
# The dividers that `adf4350_set_freq` finds

The search takes the least count of the R counter with which the PFD frequency and the modulus are within their
limits, and a wider channel spacing where there is none up to 1023. Both are quotients of the reference frequency.
-/

namespace NoOS

namespace Adf4350Dev

/-- The reference frequency after the doubler. -/
def refIn (dev : Adf4350Dev) : ℕ := (dev.clkin * (if dev.pdata.refDoublerEn then 2 else 1)).toNat

/-- The divider after the R counter. -/
def refDiv (dev : Adf4350Dev) : ℕ := if dev.pdata.refDiv2En then 2 else 1

/-- The PFD frequency for a count of the R counter. -/
def pfd (dev : Adf4350Dev) (r : ℕ) : ℕ := dev.refIn / (r * dev.refDiv)

/-- The least count from `lo` on with a PFD frequency of 32 MHz at most. -/
def leastTuned (dev : Adf4350Dev) (lo : ℕ) : ℕ := max lo (dev.refIn / (32000001 * dev.refDiv) + 1)

/-- The least one with a modulus of 4095 at most for a channel spacing. -/
def leastRCnt (dev : Adf4350Dev) (lo s : ℕ) : ℕ := max (dev.leastTuned lo) (dev.refIn / (4096 * s * dev.refDiv) + 1)

/-- The device with a count and a channel spacing. -/
def tried (dev : Adf4350Dev) (r : ℕ) (s : UInt32) : Adf4350Dev :=
  { dev.withPfd (UInt16.ofNat r) with r1Mod := (dev.withPfd (UInt16.ofNat r)).fpfd / s }

variable {dev : Adf4350Dev} {freq : UInt64} {mdiv s : UInt32} {r : ℕ} {M lo : ℕ}

lemma refIn_lt (dev : Adf4350Dev) : dev.refIn < 2 ^ 32 := UInt32.toNat_lt _

lemma refDiv_cases (dev : Adf4350Dev) : dev.refDiv = 1 ∨ dev.refDiv = 2 := by
  unfold refDiv
  split
  · exact .inr rfl
  · exact .inl rfl

lemma refDiv_pos (dev : Adf4350Dev) : 0 < dev.refDiv := by
  have hcases := dev.refDiv_cases
  lia

lemma le_leastTuned (dev : Adf4350Dev) (lo : ℕ) : lo ≤ dev.leastTuned lo := le_max_left _ _

lemma leastTuned_le (dev : Adf4350Dev) (h : lo ≤ 65535) : dev.leastTuned lo ≤ 65535 := by
  have hlt := dev.refIn_lt
  have hdiv : dev.refIn / (32000001 * dev.refDiv) ≤ 134 := by
    have hpos := dev.refDiv_pos
    rw [Nat.div_le_iff_le_mul_add_pred (by lia)]
    have hmul : 134 * 32000001 ≤ 32000001 * dev.refDiv * 134 := by lia
    lia
  unfold leastTuned
  lia

lemma toNat_rDivisor (hr : r ≤ 65535) : (dev.rDivisor (UInt16.ofNat r)).toNat = r * dev.refDiv := by
  have hnat : (UInt16.ofNat r).toNat = r := UInt16.toNat_ofNat_of_lt' (by simp only [UInt16.size]; omega)
  unfold rDivisor refDiv
  rw [UInt32.toNat_mul, UInt16.toNat_toUInt32, hnat]
  split
  · exact Nat.mod_eq_of_lt (by rw [show UInt32.toNat 2 = 2 from rfl]; lia)
  · exact Nat.mod_eq_of_lt (by rw [UInt32.toNat_one]; lia)

lemma toNat_withPfd (hr : r ≤ 65535) : (dev.withPfd (UInt16.ofNat r)).fpfd.toNat = dev.pfd r := by
  rw [withPfd, UInt32.toNat_div, toNat_rDivisor hr]
  rfl

lemma pfd_le_iff (hr : 0 < r) : dev.pfd r ≤ M ↔ dev.refIn / ((M + 1) * dev.refDiv) + 1 ≤ r := by
  have hpos := dev.refDiv_pos
  rw [pfd, ← Nat.lt_succ_iff, Nat.div_lt_iff_lt_mul (Nat.mul_pos hr hpos), Nat.succ_le_iff,
    Nat.div_lt_iff_lt_mul (Nat.mul_pos (Nat.succ_pos M) hpos), Nat.succ_eq_add_one, Nat.mul_left_comm]

lemma modulus_le_iff {s : ℕ} (hr : 0 < r) (hs : 0 < s) :
    dev.pfd r / s ≤ 4095 ↔ dev.refIn / (4096 * s * dev.refDiv) + 1 ≤ r := by
  have hle := @pfd_le_iff dev r (4096 * s - 1) hr
  rw [Nat.sub_add_cancel (by lia)] at hle
  rw [← hle, ← Nat.lt_succ_iff, Nat.div_lt_iff_lt_mul hs]
  lia

lemma tuneRCnt_eq (n : ℕ) {r : ℕ} (hle : dev.leastTuned (r + 1) ≤ 65535) (hn : dev.leastTuned (r + 1) ≤ r + n) :
    adf4350TuneRCnt n dev (UInt16.ofNat r) =
      .ok (dev.withPfd (UInt16.ofNat (dev.leastTuned (r + 1))), UInt16.ofNat (dev.leastTuned (r + 1))) := by
  have hlo := dev.le_leastTuned (r + 1)
  have htuned : dev.pfd (r + 1) ≤ 32000000 ↔ dev.refIn / (32000001 * dev.refDiv) + 1 ≤ r + 1 :=
    pfd_le_iff (Nat.succ_pos r)
  induction n generalizing dev r with
  | zero => lia
  | succ n ih =>
    have hnext : UInt16.ofNat r + 1 = UInt16.ofNat (r + 1) := by
      rw [UInt16.ofNat_add]
      rfl
    have hdiv : dev.rDivisor (UInt16.ofNat (r + 1)) ≠ 0 := by
      apply Word.ne_zero_of_pos
      rw [toNat_rDivisor (by lia)]
      exact Nat.mul_pos (Nat.succ_pos r) dev.refDiv_pos
    have hgt : (dev.withPfd (UInt16.ofNat (r + 1))).fpfd > ADF4350_MAX_FREQ_PFD ↔ ¬dev.pfd (r + 1) ≤ 32000000 := by
      rw [gt_iff_lt, UInt32.lt_iff_toNat_lt, toNat_withPfd (by lia), Nat.not_le]
      rfl
    rw [adf4350TuneRCnt, hnext, if_neg hdiv]
    by_cases hpfd : dev.pfd (r + 1) ≤ 32000000
    · have heq : dev.leastTuned (r + 1) = r + 1 := max_eq_left (htuned.mp hpfd)
      rw [if_neg (mt hgt.mp (not_not_intro hpfd)), heq]
    · have heq : dev.leastTuned (r + 1) = dev.leastTuned (r + 1 + 1) := by
        have hlt := mt htuned.mpr hpfd
        unfold leastTuned
        lia
      rw [if_pos (hgt.mpr hpfd), heq]
      have hn' : dev.leastTuned (r + 1 + 1) ≤ r + 1 + n := by lia
      exact @ih (dev.withPfd (UInt16.ofNat (r + 1))) (r + 1) (heq ▸ hle) hn' (le_max_left _ _)
        (@pfd_le_iff dev (r + 1 + 1) 32000000 (Nat.succ_pos _))

lemma toNat_r1Mod (hr : r ≤ 65535) : (dev.tried r s).r1Mod.toNat = dev.pfd r / s.toNat := by
  change ((dev.withPfd (UInt16.ofNat r)).fpfd / s).toNat = _
  rw [UInt32.toNat_div, toNat_withPfd hr]

/-- A pass stops, goes on with the next count, or begins again with a wider spacing. -/
lemma findDividers_succ (n : ℕ) (hr : r + 1 ≤ 65535) :
    adf4350FindDividers freq mdiv (n + 1) dev (UInt16.ofNat r) s =
      if s = 0 then .error .byZero
      else if 1023 < dev.leastTuned (r + 1) then
        adf4350FindDividers freq mdiv n (dev.tried (dev.leastTuned (r + 1)) s) 0 (s + 1)
      else if 4095 < dev.pfd (dev.leastTuned (r + 1)) / s.toNat then
        adf4350FindDividers freq mdiv n (dev.tried (dev.leastTuned (r + 1)) s)
          (UInt16.ofNat (dev.leastTuned (r + 1))) s
      else if dev.pfd (dev.leastTuned (r + 1)) / s.toNat = 0 then .error .byZero
      else if mdiv > ((dev.tried (dev.leastTuned (r + 1)) s).withFreq freq).r0Int then
        adf4350FindDividers freq mdiv n ((dev.tried (dev.leastTuned (r + 1)) s).withFreq freq)
          (UInt16.ofNat (dev.leastTuned (r + 1))) s
      else .ok ((dev.tried (dev.leastTuned (r + 1)) s).withFreq freq, UInt16.ofNat (dev.leastTuned (r + 1))) := by
  have hle := @leastTuned_le (r + 1) dev hr
  have hlo := dev.le_leastTuned (r + 1)
  rw [adf4350FindDividers, tuneRCnt_eq 65536 hle (by lia)]
  generalize dev.leastTuned (r + 1) = c at *
  have hcnt : UInt16.ofNat c > ADF4350_MAX_R_CNT ↔ 1023 < c := by
    rw [gt_iff_lt, UInt16.lt_iff_toNat_lt, UInt16.toNat_ofNat_of_lt' (by simp only [UInt16.size]; omega)]
    rfl
  have hmod : (dev.tried c s).r1Mod > ADF4350_MAX_MODULUS ↔ 4095 < dev.pfd c / s.toNat := by
    rw [gt_iff_lt, UInt32.lt_iff_toNat_lt, toNat_r1Mod hle]
    rfl
  have hzero : (dev.tried c s).fpfd = 0 ∨ (dev.tried c s).r1Mod = 0 ↔ dev.pfd c / s.toNat = 0 := by
    rw [← UInt32.toNat_inj, ← UInt32.toNat_inj, toNat_r1Mod hle, UInt32.toNat_zero]
    constructor
    · rintro (h | h)
      · change (dev.withPfd (UInt16.ofNat c)).fpfd.toNat = 0 at h
        rw [toNat_withPfd hle] at h
        rw [h, Nat.zero_div]
      · exact h
    · exact .inr
  simp only [← hcnt, ← hmod, ← hzero]
  rfl

lemma findDividers_left (n : ℕ) (hr : r + 1 ≤ 65535) (a b c e : UInt32) :
    adf4350FindDividers freq mdiv n { dev with fpfd := a, r0Fract := b, r0Int := c, r1Mod := e } (UInt16.ofNat r) s =
      adf4350FindDividers freq mdiv n dev (UInt16.ofNat r) s := by
  induction n generalizing r s a b c e with
  | zero => rfl
  | succ n ih =>
    rw [findDividers_succ n hr, findDividers_succ n hr]
    have hwide := fun a b c e => ih (r := 0) (s := s + 1) (by decide) a b c e
    refine if_congr Iff.rfl rfl (if_ctx_congr Iff.rfl (fun _ => ?_) fun hcnt => ?_)
    · exact (hwide _ _ _ _).trans (hwide _ _ _ _).symm
    · have hle : dev.leastTuned (r + 1) + 1 ≤ 65535 := by
        have hle := Nat.le_of_not_lt hcnt
        lia
      have hnext := fun a b c e => ih (r := dev.leastTuned (r + 1)) (s := s) hle a b c e
      refine if_congr Iff.rfl ?_ (if_congr Iff.rfl rfl (if_congr Iff.rfl ?_ rfl))
      · exact (hnext _ _ _ _).trans (hnext _ _ _ _).symm
      · exact (hnext _ _ _ _).trans (hnext _ _ _ _).symm

/-- The search from a count and a channel spacing on. -/
def search (dev : Adf4350Dev) (freq : UInt64) (mdiv : UInt32) (n : ℕ) (p : ℕ × UInt32) :
    Except Adf4350Fault (Adf4350Dev × UInt16) :=
  adf4350FindDividers freq mdiv n dev (UInt16.ofNat p.1) p.2

/-- The search gets from one count and spacing to others. -/
def SearchLeads (dev : Adf4350Dev) (freq : UInt64) (mdiv : UInt32) (p q : ℕ × UInt32) : Prop :=
  Fuel.Leads (.error .loops) (dev.search freq mdiv) p q

/-- The search ends with a result. -/
def SearchEnds (dev : Adf4350Dev) (freq : UInt64) (mdiv : UInt32) (p : ℕ × UInt32)
    (r : Except Adf4350Fault (Adf4350Dev × UInt16)) : Prop :=
  Fuel.Ends (.error .loops) (dev.search freq mdiv) p r

lemma ends_of_spacing_zero (hr : r + 1 ≤ 65535) : dev.SearchEnds freq mdiv (r, 0) (.error .byZero) :=
  Fuel.Ends.step rfl fun n => by rw [search, findDividers_succ n hr, if_pos rfl]

lemma leads_wider (hr : r + 1 ≤ 65535) (hs : s ≠ 0) (hcnt : 1023 < dev.leastTuned (r + 1)) :
    dev.SearchLeads freq mdiv (r, s) (0, s + 1) := by
  refine Fuel.Leads.step rfl fun n => ?_
  rw [search, findDividers_succ n hr, if_neg hs, if_pos hcnt]
  exact @findDividers_left dev freq mdiv (s + 1) 0 n (by decide) _ _ _ _

lemma leads_next (hs : s ≠ 0) (hcnt : dev.leastTuned (r + 1) ≤ 1023)
    (hmod : 4095 < dev.pfd (dev.leastTuned (r + 1)) / s.toNat) :
    dev.SearchLeads freq mdiv (r, s) (dev.leastTuned (r + 1), s) := by
  have hlo := dev.le_leastTuned (r + 1)
  refine Fuel.Leads.step rfl fun n => ?_
  rw [search, findDividers_succ n (by lia), if_neg hs, if_neg (Nat.not_lt.mpr hcnt), if_pos hmod]
  exact @findDividers_left dev freq mdiv s (dev.leastTuned (r + 1)) n (by omega) _ _ _ _

section

variable (hs : s ≠ 0) (hcnt : dev.leastTuned (r + 1) ≤ 1023)
  (hmod : dev.pfd (dev.leastTuned (r + 1)) / s.toNat ≤ 4095)

include hs hcnt hmod

lemma ends_byZero (hzero : dev.pfd (dev.leastTuned (r + 1)) / s.toNat = 0) :
    dev.SearchEnds freq mdiv (r, s) (.error .byZero) := by
  have hlo := dev.le_leastTuned (r + 1)
  refine Fuel.Ends.step rfl fun n => ?_
  rw [search, findDividers_succ n (by lia), if_neg hs, if_neg (Nat.not_lt.mpr hcnt), if_neg (Nat.not_lt.mpr hmod),
    if_pos hzero]

variable (hne : dev.pfd (dev.leastTuned (r + 1)) / s.toNat ≠ 0)

include hne

lemma leads_again (hint : mdiv > ((dev.tried (dev.leastTuned (r + 1)) s).withFreq freq).r0Int) :
    dev.SearchLeads freq mdiv (r, s) (dev.leastTuned (r + 1), s) := by
  have hlo := dev.le_leastTuned (r + 1)
  refine Fuel.Leads.step rfl fun n => ?_
  rw [search, findDividers_succ n (by lia), if_neg hs, if_neg (Nat.not_lt.mpr hcnt), if_neg (Nat.not_lt.mpr hmod),
    if_neg hne, if_pos hint]
  exact @findDividers_left dev freq mdiv s (dev.leastTuned (r + 1)) n (by omega) _ _ _ _

lemma ends_found (hint : ¬mdiv > ((dev.tried (dev.leastTuned (r + 1)) s).withFreq freq).r0Int) :
    dev.SearchEnds freq mdiv (r, s)
      (.ok ((dev.tried (dev.leastTuned (r + 1)) s).withFreq freq, UInt16.ofNat (dev.leastTuned (r + 1)))) := by
  have hlo := dev.le_leastTuned (r + 1)
  refine Fuel.Ends.step rfl fun n => ?_
  rw [search, findDividers_succ n (by lia), if_neg hs, if_neg (Nat.not_lt.mpr hcnt), if_neg (Nat.not_lt.mpr hmod),
    if_neg hne, if_neg hint]

end

/-- With a spacing that has a count the search gets to the least one. -/
lemma leads_leastRCnt (hs : s ≠ 0) (hle : dev.leastRCnt (r + 1) s.toNat ≤ 1023) : ∃ r',
    dev.leastTuned (r' + 1) = dev.leastRCnt (r + 1) s.toNat ∧ dev.SearchLeads freq mdiv (r, s) (r', s) := by
  have hpos : 0 < s.toNat := Nat.pos_of_ne_zero fun h => hs (UInt32.toNat_inj.mp h)
  -- The induction is on the counts that are left.
  generalize hleft : dev.leastRCnt (r + 1) s.toNat - dev.leastTuned (r + 1) = k
  induction k using Nat.strong_induction_on generalizing r with
  | _ k ih =>
    have hlo := dev.le_leastTuned (r + 1)
    have hmod := @modulus_le_iff dev (dev.leastTuned (r + 1)) s.toNat (by lia) hpos
    have htuned : dev.leastTuned (r + 1) ≤ dev.leastRCnt (r + 1) s.toNat := le_max_left _ _
    by_cases hfit : dev.pfd (dev.leastTuned (r + 1)) / s.toNat ≤ 4095
    · exact ⟨r, (max_eq_left (hmod.mp hfit)).symm, Fuel.Leads.refl _⟩
    · have hgt := mt hmod.mpr hfit
      have hsame : dev.leastRCnt (dev.leastTuned (r + 1) + 1) s.toNat = dev.leastRCnt (r + 1) s.toNat := by
        unfold leastRCnt leastTuned at *
        lia
      have hnext := dev.le_leastTuned (dev.leastTuned (r + 1) + 1)
      have hbound : dev.leastTuned (r + 1) < dev.leastRCnt (r + 1) s.toNat := by
        unfold leastRCnt
        lia
      obtain ⟨r', heq, hleads⟩ := ih _ (by lia) (hsame ▸ hle) rfl
      exact ⟨r', heq.trans hsame, (leads_next hs (by lia) (Nat.lt_of_not_le hfit)).trans hleads⟩

/-- With a spacing that has none it begins again with the next one. -/
lemma leads_wider_of_leastRCnt (hr : r + 1 ≤ 65535) (hs : s ≠ 0) (hgt : 1023 < dev.leastRCnt (r + 1) s.toNat) :
    dev.SearchLeads freq mdiv (r, s) (0, s + 1) := by
  have hpos : 0 < s.toNat := Nat.pos_of_ne_zero fun h => hs (UInt32.toNat_inj.mp h)
  generalize hleft : 1024 - dev.leastTuned (r + 1) = k
  induction k using Nat.strong_induction_on generalizing r with
  | _ k ih =>
    have hlo := dev.le_leastTuned (r + 1)
    by_cases hcnt : 1023 < dev.leastTuned (r + 1)
    · exact leads_wider hr hs hcnt
    · have hmod := @modulus_le_iff dev (dev.leastTuned (r + 1)) s.toNat (by lia) hpos
      have hfit : ¬dev.pfd (dev.leastTuned (r + 1)) / s.toNat ≤ 4095 := by
        intro hfit
        have hle := hmod.mp hfit
        unfold leastRCnt at hgt
        lia
      have hsame : 1023 < dev.leastRCnt (dev.leastTuned (r + 1) + 1) s.toNat := by
        unfold leastRCnt leastTuned at *
        lia
      have hnext := dev.le_leastTuned (dev.leastTuned (r + 1) + 1)
      exact (leads_next hs (by lia) (Nat.lt_of_not_le hfit)).trans (ih _ (by lia) (by lia) hsame rfl)

/-- The least channel spacing from `s` on for which there is a count. -/
def leastSpacing (dev : Adf4350Dev) (s : ℕ) : ℕ := max s (dev.refIn / (4190208 * dev.refDiv) + 1)

lemma leastRCnt_le_iff {s : ℕ} (hlo : lo ≤ 1023) (hs : 0 < s) :
    dev.leastRCnt lo s ≤ 1023 ↔ dev.leastSpacing s = s := by
  have hpos := dev.refDiv_pos
  have htuned : dev.leastTuned lo ≤ 1023 := by
    have hquot : dev.refIn / (32000001 * dev.refDiv) < 1023 := by
      rw [Nat.div_lt_iff_lt_mul (by lia)]
      have hlt := dev.refIn_lt
      lia
    unfold leastTuned
    lia
  have hmul : 1022 * (4096 * s * dev.refDiv) + 4096 * s * dev.refDiv = s * (4190208 * dev.refDiv) := by ring
  have hspace : dev.refIn / (4096 * s * dev.refDiv) < 1023 ↔ dev.refIn / (4190208 * dev.refDiv) < s := by
    have hprod : 0 < 4096 * s * dev.refDiv := Nat.mul_pos (by omega) hpos
    rw [Nat.div_lt_iff_lt_mul hprod, Nat.div_lt_iff_lt_mul (by omega)]
    lia
  unfold leastRCnt leastSpacing
  lia

lemma leastSpacing_lt {s : ℕ} (hs : s < 2 ^ 32) : dev.leastSpacing s < 2 ^ 32 := by
  have hquot : dev.refIn / (4190208 * dev.refDiv) < 2 ^ 32 - 1 := by
    have hpos := dev.refDiv_pos
    rw [Nat.div_lt_iff_lt_mul (by lia)]
    have hlt := dev.refIn_lt
    lia
  unfold leastSpacing
  lia

/-- From the count 1 on the search gets to the least spacing that has a count. -/
lemma leads_leastSpacing (hs : s ≠ 0) : ∃ r',
    dev.leastTuned (r' + 1) = dev.leastRCnt 1 (dev.leastSpacing s.toNat) ∧
      dev.SearchLeads freq mdiv (0, s) (r', UInt32.ofNat (dev.leastSpacing s.toNat)) := by
  have hlt := @leastSpacing_lt dev s.toNat s.toNat_lt
  generalize hleft : dev.leastSpacing s.toNat - s.toNat = k
  induction k generalizing s with
  | zero =>
    have hpos : 0 < s.toNat := Nat.pos_of_ne_zero fun h => hs (UInt32.toNat_inj.mp h)
    have heq : dev.leastSpacing s.toNat = s.toNat := by
      have hle : s.toNat ≤ dev.leastSpacing s.toNat := le_max_left _ _
      lia
    rw [heq, UInt32.ofNat_toNat]
    exact leads_leastRCnt hs ((leastRCnt_le_iff (by decide) hpos).mpr heq)
  | succ k ih =>
    have hpos : 0 < s.toNat := Nat.pos_of_ne_zero fun h => hs (UInt32.toNat_inj.mp h)
    have hnext : (s + 1).toNat = s.toNat + 1 := Word.toNat_add_of_lt (by
      rw [UInt32.toNat_one]
      lia)
    have hsame : dev.leastSpacing (s + 1).toNat = dev.leastSpacing s.toNat := by
      rw [hnext]
      unfold leastSpacing at *
      lia
    have hgt : 1023 < dev.leastRCnt 1 s.toNat := by
      rw [← Nat.not_le, leastRCnt_le_iff (by decide) hpos]
      lia
    obtain ⟨r', heq, hleads⟩ := @ih (s + 1) (Word.ne_zero_of_pos (by lia)) (hsame ▸ hlt) (by lia)
    rw [hsame] at heq hleads
    exact ⟨r', heq, (leads_wider_of_leastRCnt (by decide) hs hgt).trans hleads⟩

/-- The count and the spacing, from the first count and the spacing that is asked for. -/
def choice (dev : Adf4350Dev) (lo s : ℕ) : ℕ × ℕ :=
  if dev.leastRCnt lo s ≤ 1023 then (dev.leastRCnt lo s, s)
  else (dev.leastRCnt 1 (dev.leastSpacing (s + 1)), dev.leastSpacing (s + 1))

/-- The modulus that goes with them. -/
def choiceMod (dev : Adf4350Dev) (lo s : ℕ) : ℕ := dev.pfd (dev.choice lo s).1 / (dev.choice lo s).2

lemma choice_le (dev : Adf4350Dev) (lo s : ℕ) : (dev.choice lo s).1 ≤ 1023 := by
  unfold choice
  split
  · assumption
  · have hself : dev.leastSpacing (dev.leastSpacing (s + 1)) = dev.leastSpacing (s + 1) := by
      unfold leastSpacing
      lia
    have hle : s + 1 ≤ dev.leastSpacing (s + 1) := le_max_left _ _
    exact (leastRCnt_le_iff (by decide) (by lia)).mpr hself

/-- The choice is the least count for its spacing, from some count on. -/
lemma choice_least (dev : Adf4350Dev) {lo s : ℕ} (hlo : 0 < lo) (hs : 0 < s) : ∃ lo', 0 < lo' ∧
    (dev.choice lo s).1 = dev.leastRCnt lo' (dev.choice lo s).2 ∧ 0 < (dev.choice lo s).2 := by
  unfold choice
  split
  · exact ⟨lo, hlo, rfl, hs⟩
  · have hle : s + 1 ≤ dev.leastSpacing (s + 1) := le_max_left _ _
    exact ⟨1, Nat.one_pos, rfl, by lia⟩

lemma choice_limits (dev : Adf4350Dev) {lo s : ℕ} (hlo : 0 < lo) (hs : 0 < s) :
    1 ≤ (dev.choice lo s).1 ∧ dev.pfd (dev.choice lo s).1 ≤ 32000000 ∧ dev.choiceMod lo s ≤ 4095 := by
  obtain ⟨lo', hlo', heq, hspace⟩ := dev.choice_least hlo hs
  have hmax : dev.leastTuned lo' ≤ (dev.choice lo s).1 ∧
      dev.refIn / (4096 * (dev.choice lo s).2 * dev.refDiv) + 1 ≤ (dev.choice lo s).1 := by
    conv_lhs => rw [heq]
    conv_rhs => rw [heq]
    exact ⟨le_max_left _ _, le_max_right _ _⟩
  have hpos : 0 < (dev.choice lo s).1 := by
    have hle := dev.le_leastTuned lo'
    lia
  refine ⟨hpos, (pfd_le_iff hpos).mpr ?_, ?_⟩
  · have htuned : dev.refIn / (32000001 * dev.refDiv) + 1 ≤ dev.leastTuned lo' := le_max_right _ _
    exact htuned.trans hmax.1
  · exact (modulus_le_iff hpos hspace).mpr hmax.2

/-- The search gets to its choice, if the spacing has not to be widened beyond 32 bits. -/
lemma leads_choice (hr : r + 1 ≤ 65535) (hs : s ≠ 0)
    (hfit : dev.leastRCnt (r + 1) s.toNat ≤ 1023 ∨ s.toNat + 1 < 2 ^ 32) : ∃ r',
      dev.leastTuned (r' + 1) = (dev.choice (r + 1) s.toNat).1 ∧
        (dev.choice (r + 1) s.toNat).2 < 2 ^ 32 ∧
        dev.SearchLeads freq mdiv (r, s) (r', UInt32.ofNat (dev.choice (r + 1) s.toNat).2) := by
  by_cases hle : dev.leastRCnt (r + 1) s.toNat ≤ 1023
  · rw [choice, if_pos hle, UInt32.ofNat_toNat]
    obtain ⟨r', heq, hleads⟩ := @leads_leastRCnt dev freq mdiv s r hs hle
    exact ⟨r', heq, s.toNat_lt, hleads⟩
  · have hlt := hfit.resolve_left hle
    have hnext : (s + 1).toNat = s.toNat + 1 := Word.toNat_add_of_lt hlt
    have hwider := @leads_wider_of_leastRCnt dev freq mdiv s r hr hs (Nat.lt_of_not_le hle)
    obtain ⟨r', heq, hleads⟩ := @leads_leastSpacing dev freq mdiv (s + 1) (Word.ne_zero_of_pos (by lia))
    rw [hnext] at heq hleads
    rw [choice, if_neg hle]
    exact ⟨r', heq, leastSpacing_lt hlt, hwider.trans hleads⟩

lemma ends_of_widest (hr : r + 1 ≤ 65535) (hgt : 1023 < dev.leastRCnt (r + 1) s.toNat) (hs : s.toNat + 1 = 2 ^ 32) :
    dev.SearchEnds freq mdiv (r, s) (.error .byZero) := by
  have hne : s ≠ 0 := Word.ne_zero_of_pos (by lia)
  have hwrap : s + 1 = 0 := by
    apply UInt32.toNat_inj.mp
    rw [UInt32.toNat_add, UInt32.toNat_one, hs]
    rfl
  have hwider := @leads_wider_of_leastRCnt dev freq mdiv s r hr hne hgt
  rw [hwrap] at hwider
  exact hwider.ends (ends_of_spacing_zero (by decide))

/-- The frequency in steps of the PFD frequency over the modulus. -/
def steps (F p m : ℕ) : ℕ := (F * m + if 1 < p then 1 else 0) / p

section

variable {F p m : ℕ}

lemma withFreq_steps (hfreq : freq.toNat ≤ 4400000000) (hmod : dev.r1Mod.toNat ≤ 4095) (hpos : 0 < dev.r1Mod.toNat) :
    (dev.withFreq freq).r0Fract.toNat = steps freq.toNat dev.fpfd.toNat dev.r1Mod.toNat % dev.r1Mod.toNat ∧
      (dev.withFreq freq).r0Int.toNat =
        steps freq.toNat dev.fpfd.toNat dev.r1Mod.toNat / dev.r1Mod.toNat % 2 ^ 32 := by
  have hmul : freq.toNat * dev.r1Mod.toNat ≤ 4400000000 * 4095 := Nat.mul_le_mul hfreq hmod
  have hround : (if dev.fpfd > 1 then (1 : UInt64) else 0).toNat = if 1 < dev.fpfd.toNat then 1 else 0 := by
    rw [apply_ite UInt64.toNat]
    exact if_congr (by rw [gt_iff_lt, UInt32.lt_iff_toNat_lt]; rfl) rfl rfl
  have hprod : (freq * dev.r1Mod.toUInt64).toNat = freq.toNat * dev.r1Mod.toNat := by
    rw [UInt64.toNat_mul, UInt32.toNat_toUInt64]
    exact Nat.mod_eq_of_lt (by lia)
  have htmp : ((freq * dev.r1Mod.toUInt64 + if dev.fpfd > 1 then 1 else 0) / dev.fpfd.toUInt64).toNat =
      steps freq.toNat dev.fpfd.toNat dev.r1Mod.toNat := by
    rw [UInt64.toNat_div, UInt64.toNat_add, hprod, hround, UInt32.toNat_toUInt64, Nat.mod_eq_of_lt, steps]
    split <;> lia
  have hlt := dev.r1Mod.toNat_lt
  constructor
  · rw [withFreq, UInt64.toNat_toUInt32, UInt64.toNat_mod, htmp, UInt32.toNat_toUInt64]
    exact Nat.mod_eq_of_lt ((Nat.mod_lt _ hpos).trans hlt)
  · rw [withFreq, UInt64.toNat_toUInt32, UInt64.toNat_div, htmp, UInt32.toNat_toUInt64]

lemma steps_div_ge (hp : 0 < p) (hm : 0 < m) : F / p ≤ steps F p m / m := by
  rw [Nat.le_div_iff_mul_le hm, steps, Nat.le_div_iff_mul_le hp]
  have hle : F / p * p * m ≤ F * m := Nat.mul_le_mul_right m (Nat.div_mul_le_self F p)
  calc F / p * m * p = F / p * p * m := Nat.mul_right_comm _ _ _
    _ ≤ F * m + if 1 < p then 1 else 0 := hle.trans (Nat.le_add_right _ _)

lemma steps_div_lt_iff (hp : 0 < p) (hm : 0 < m) {k : ℕ} :
    steps F p m / m < k ↔ F * m + (if 1 < p then 1 else 0) < k * m * p := by
  rw [Nat.div_lt_iff_lt_mul hm, steps, Nat.div_lt_iff_lt_mul hp]

/-- The integer is too small only where it has lost its upper bits, with a PFD frequency of 1 Hz. -/
lemma int_wraps_iff {k : ℕ} (hlow : 2200000000 ≤ F) (hhigh : F ≤ 4400000000) (hp : p ≤ 32000000) (hm : 0 < m)
    (hmp : m ≤ p) (hk : k ≤ 23 ∨ k ≤ 75 ∧ 3000000000 < F) :
    steps F p m / m % 2 ^ 32 < k ↔ p = 1 ∧ 2 ^ 32 ≤ F ∧ F < 2 ^ 32 + k := by
  by_cases hone : p = 1
  · subst hone
    obtain rfl : m = 1 := by lia
    rw [steps, if_neg (Nat.lt_irrefl 1), Nat.div_one, Nat.div_one, Nat.mul_one, Nat.add_zero]
    lia
  · have htwo : m * 2 ≤ m * p := Nat.mul_le_mul_left m (by lia)
    have hmul : F * m ≤ 4400000000 * m := Nat.mul_le_mul_right m hhigh
    have hlt : steps F p m / m < 2 ^ 32 := by
      rw [steps_div_lt_iff (by lia) hm, if_pos (by lia), Nat.mul_assoc]
      lia
    have hge := @steps_div_ge F p m (by lia) hm
    have hdiv : k ≤ F / p := by
      rw [Nat.le_div_iff_mul_le (by lia)]
      have hmul : k * p ≤ k * 32000000 := Nat.mul_le_mul_left k hp
      lia
    rw [Nat.mod_eq_of_lt hlt]
    lia

end

lemma tried_withFreq (hfreq : freq.toNat ≤ 4400000000) (hr : r ≤ 65535) (hmod : dev.pfd r / s.toNat ≤ 4095)
    (hpos : 0 < dev.pfd r / s.toNat) :
    ((dev.tried r s).withFreq freq).r0Fract.toNat =
        steps freq.toNat (dev.pfd r) (dev.pfd r / s.toNat) % (dev.pfd r / s.toNat) ∧
      ((dev.tried r s).withFreq freq).r0Int.toNat =
        steps freq.toNat (dev.pfd r) (dev.pfd r / s.toNat) / (dev.pfd r / s.toNat) % 2 ^ 32 := by
  have hp : (dev.tried r s).fpfd.toNat = dev.pfd r := toNat_withPfd hr
  have hm := @toNat_r1Mod dev s r hr
  have hboth := @withFreq_steps (dev.tried r s) freq hfreq (by lia) (by lia)
  rwa [hp, hm] at hboth

/-- The search with a PFD frequency of 1 Hz does not accept it. -/
def Rejected (dev : Adf4350Dev) (lo s F k : ℕ) : Prop :=
  dev.pfd (dev.choice lo s).1 = 1 ∧ 2 ^ 32 ≤ F ∧ F < 2 ^ 32 + k

instance (dev : Adf4350Dev) (lo s F k : ℕ) : Decidable (dev.Rejected lo s F k) :=
  inferInstanceAs (Decidable (_ ∧ _ ∧ _))

lemma pfd_of_one (hpos : 0 < r) (hr : r ≤ 1023) (hone : dev.pfd r = 1) :
    dev.refIn < 2046 * dev.refDiv ∧ (dev.pfd 1023 ≠ 0 → 1023 ≤ dev.pfd 1 ∧ dev.pfd 1 < 2046) := by
  have hdiv := dev.refDiv_pos
  have href : dev.refIn < 2046 * dev.refDiv := by
    have hlt : dev.refIn / (r * dev.refDiv) < 2 := by
      rw [pfd] at hone
      omega
    rw [Nat.div_lt_iff_lt_mul (Nat.mul_pos hpos hdiv)] at hlt
    have hmul : r * dev.refDiv ≤ 1023 * dev.refDiv := Nat.mul_le_mul_right _ hr
    lia
  refine ⟨href, fun hlast => ?_⟩
  have hge : 1 ≤ dev.refIn / (1023 * dev.refDiv) := Nat.one_le_iff_ne_zero.mpr hlast
  rw [Nat.le_div_iff_mul_le (by omega)] at hge
  rw [pfd, Nat.one_mul, Nat.le_div_iff_mul_le hdiv, Nat.div_lt_iff_lt_mul hdiv]
  exact ⟨by lia, href⟩

/-- Then it goes on to a spacing of 2 Hz, unless there is a count with less than 1 Hz before. -/
lemma ends_of_one (hfreq : freq.toNat ≤ 4400000000) (hlow : 2 ^ 32 ≤ freq.toNat) (hhigh : freq.toNat < 2 ^ 32 + mdiv.toNat)
    (hmdiv : mdiv.toNat ≤ 75) (hpos : 0 < r) (hr : r ≤ 1023) (hone : dev.pfd r = 1) :
    (dev.pfd 1023 = 0 → dev.SearchEnds freq mdiv (r, 1) (.error .byZero)) ∧
      (dev.pfd 1023 ≠ 0 → dev.SearchEnds freq mdiv (r, 1)
        (.ok ((dev.tried 1 2).withFreq freq, UInt16.ofNat 1))) := by
  have hdiv := dev.refDiv_pos
  obtain ⟨href, hfirst⟩ := pfd_of_one hpos hr hone
  have htuned : ∀ lo, 0 < lo → dev.leastTuned lo = lo := by
    intro lo hlo
    have hzero : dev.refIn / (32000001 * dev.refDiv) = 0 := Nat.div_eq_of_lt (by lia)
    unfold leastTuned
    lia
  induction hleft : 1023 - r generalizing r with
  | zero =>
    obtain rfl : r = 1023 := by lia
    refine ⟨fun hzero => absurd hone (by omega), fun hlast => ?_⟩
    have hwider : dev.SearchLeads freq mdiv (1023, 1) (0, 2) :=
      leads_wider (by decide) (by decide) (by rw [htuned _ (by decide)]; decide)
    have hp := hfirst hlast
    have hfirst := htuned 1 Nat.one_pos
    have hmod : dev.pfd 1 / UInt32.toNat 2 ≤ 4095 ∧ 0 < dev.pfd 1 / UInt32.toNat 2 := by
      rw [show UInt32.toNat 2 = 2 from rfl]
      lia
    have hint := (tried_withFreq hfreq (by decide : 1 ≤ 65535) hmod.1 hmod.2).2
    have hwraps := @int_wraps_iff freq.toNat (dev.pfd 1) (dev.pfd 1 / UInt32.toNat 2) mdiv.toNat (by lia) hfreq
      (by lia) hmod.2 (Nat.div_le_self _ _) (.inr ⟨hmdiv, by lia⟩)
    have hends := @ends_found dev freq mdiv 2 0 (by decide) (by rw [hfirst]; decide) (by rw [hfirst]; exact hmod.1)
      (by rw [hfirst]; exact hmod.2.ne') (by
        rw [hfirst, gt_iff_lt, UInt32.lt_iff_toNat_lt, hint, hwraps]
        lia)
    rw [hfirst] at hends
    exact hwider.ends hends
  | succ k ih =>
    have hnext := htuned (r + 1) (Nat.succ_pos r)
    have hle : dev.pfd (r + 1) ≤ dev.pfd r :=
      Nat.div_le_div_left (Nat.mul_le_mul_right _ (Nat.le_succ r)) (Nat.mul_pos hpos hdiv)
    have hmod : dev.pfd (r + 1) / UInt32.toNat 1 = dev.pfd (r + 1) := Nat.div_one _
    by_cases hzero : dev.pfd (r + 1) = 0
    · have hends : dev.SearchEnds freq mdiv (r, 1) (.error .byZero) :=
        ends_byZero (by decide) (by lia) (by rw [hnext, hmod]; lia) (by rw [hnext, hmod, hzero])
      refine ⟨fun _ => hends, fun hne => absurd ?_ hne⟩
      have hanti : dev.pfd 1023 ≤ dev.pfd (r + 1) :=
        Nat.div_le_div_left (Nat.mul_le_mul_right _ (by lia)) (Nat.mul_pos (Nat.succ_pos r) hdiv)
      lia
    · have hone' : dev.pfd (r + 1) = 1 := by lia
      have hint := (@tried_withFreq dev freq 1 (r + 1) hfreq (by lia) (by rw [hmod]; lia)
        (by rw [hmod]; lia)).2
      have hwraps := @int_wraps_iff freq.toNat (dev.pfd (r + 1)) (dev.pfd (r + 1) / UInt32.toNat 1) mdiv.toNat
        (by lia) hfreq (by lia) (by lia) (Nat.div_le_self _ _) (.inr ⟨hmdiv, by lia⟩)
      have hagain : dev.SearchLeads freq mdiv (r, 1) (dev.leastTuned (r + 1), 1) :=
        leads_again (by decide) (by lia) (by rw [hnext, hmod]; lia) (by rw [hnext, hmod]; exact hzero) (by
          rw [hnext, gt_iff_lt, UInt32.lt_iff_toNat_lt, hint, hwraps]
          exact ⟨hone', hlow, hhigh⟩)
      rw [hnext] at hagain
      obtain ⟨hbyZero, hfound⟩ := ih (Nat.succ_pos r) (by lia) hone' (by lia)
      exact ⟨fun h => hagain.ends (hbyZero h), fun h => hagain.ends (hfound h)⟩

/-- The count and the spacing that the search ends with. -/
def dividers (dev : Adf4350Dev) (lo s F k : ℕ) : ℕ × ℕ := if dev.Rejected lo s F k then (1, 2) else dev.choice lo s

/-- No frequency can be set: the spacing or the modulus is 0, or the PFD frequency becomes 0 after a first one of 1 Hz. -/
def NoDividers (dev : Adf4350Dev) (lo s F k : ℕ) : Prop :=
  s = 0 ∨ dev.choiceMod lo s = 0 ∨ dev.Rejected lo s F k ∧ dev.pfd 1023 = 0

instance (dev : Adf4350Dev) (lo s F k : ℕ) : Decidable (dev.NoDividers lo s F k) :=
  inferInstanceAs (Decidable (_ ∨ _ ∨ _ ∧ _))

/-- The search ends, with the dividers or by a division by zero. -/
theorem search_ends (hfreq : freq.toNat ≤ 4400000000) (hlow : 2200000000 ≤ freq.toNat) (hr : r + 1 ≤ 65535)
    (hk : mdiv.toNat ≤ 23 ∨ mdiv.toNat ≤ 75 ∧ 3000000000 < freq.toNat) :
    (dev.NoDividers (r + 1) s.toNat freq.toNat mdiv.toNat → dev.SearchEnds freq mdiv (r, s) (.error .byZero)) ∧
      (¬dev.NoDividers (r + 1) s.toNat freq.toNat mdiv.toNat → dev.SearchEnds freq mdiv (r, s)
        (.ok ((dev.tried (dev.dividers (r + 1) s.toNat freq.toNat mdiv.toNat).1
          (UInt32.ofNat (dev.dividers (r + 1) s.toNat freq.toNat mdiv.toNat).2)).withFreq freq,
          UInt16.ofNat (dev.dividers (r + 1) s.toNat freq.toNat mdiv.toNat).1))) := by
  by_cases hs : s = 0
  · subst hs
    exact ⟨fun _ => ends_of_spacing_zero hr, fun h => absurd (.inl rfl) h⟩
  by_cases hwide : dev.leastRCnt (r + 1) s.toNat ≤ 1023 ∨ s.toNat + 1 < 2 ^ 32
  · have hpos : 0 < s.toNat := Nat.pos_of_ne_zero fun h => hs (UInt32.toNat_inj.mp h)
    obtain ⟨hcnt, hpfd, hmod⟩ := dev.choice_limits (Nat.succ_pos r) hpos
    obtain ⟨lo, -, -, hspos⟩ := dev.choice_least (Nat.succ_pos r) hpos
    have hle := dev.choice_le (r + 1) s.toNat
    obtain ⟨r', heq, hlt, hleads⟩ := @leads_choice dev freq mdiv s r hr hs hwide
    rw [choiceMod] at hmod
    set c := dev.choice (r + 1) s.toNat with hc
    have hnone : dev.NoDividers (r + 1) s.toNat freq.toNat mdiv.toNat ↔ s.toNat = 0 ∨ dev.pfd c.1 / c.2 = 0 ∨
        dev.Rejected (r + 1) s.toNat freq.toNat mdiv.toNat ∧ dev.pfd 1023 = 0 := Iff.rfl
    have hspace : (UInt32.ofNat c.2).toNat = c.2 := UInt32.toNat_ofNat_of_lt' hlt
    have hspace0 : UInt32.ofNat c.2 ≠ 0 := Word.ne_zero_of_pos (by lia)
    by_cases hzero : dev.pfd c.1 / c.2 = 0
    · refine ⟨fun _ => hleads.ends ?_, fun h => absurd (hnone.mpr (.inr (.inl hzero))) h⟩
      exact ends_byZero hspace0 (by lia) (by rw [heq, hspace]; exact hmod) (by rw [heq, hspace]; exact hzero)
    · have hint := (@tried_withFreq dev freq (UInt32.ofNat c.2) c.1 hfreq (by lia) (by rw [hspace]; exact hmod)
        (by rw [hspace]; exact Nat.pos_of_ne_zero hzero)).2
      rw [hspace] at hint
      have hwraps := int_wraps_iff hlow hfreq hpfd (Nat.pos_of_ne_zero hzero) (Nat.div_le_self _ _) hk
      by_cases hrejected : dev.Rejected (r + 1) s.toNat freq.toNat mdiv.toNat
      · -- The modulus is 1, and so is the spacing.
        have hone : c.2 = 1 := by
          rw [hrejected.1] at hzero
          by_contra hne
          exact hzero (Nat.div_eq_of_lt (by lia))
        have hagain : dev.SearchLeads freq mdiv (r', UInt32.ofNat c.2) (c.1, 1) := by
          have hleads := @leads_again dev freq mdiv (UInt32.ofNat c.2) r' hspace0 (by lia)
            (by rw [heq, hspace]; exact hmod) (by rw [heq, hspace]; exact hzero) (by
              rw [heq, gt_iff_lt, UInt32.lt_iff_toNat_lt, hint, hwraps]
              exact hrejected)
          rw [heq, hone] at hleads
          rw [hone]
          exact hleads
        obtain ⟨hbyZero, hfound⟩ := @ends_of_one dev freq mdiv c.1 hfreq hrejected.2.1 hrejected.2.2 (by lia) hcnt hle
          hrejected.1
        rw [dividers, if_pos hrejected]
        refine ⟨fun h => ?_, fun h => ?_⟩
        · have hlast := ((hnone.mp h).resolve_left hpos.ne').resolve_left hzero
          exact hleads.ends (hagain.ends (hbyZero hlast.2))
        · exact hleads.ends (hagain.ends (hfound fun h0 => h (hnone.mpr (.inr (.inr ⟨hrejected, h0⟩)))))
      · rw [dividers, if_neg hrejected, ← hc]
        refine ⟨fun h => ?_, fun h => hleads.ends ?_⟩
        · exact absurd (((hnone.mp h).resolve_left hpos.ne').resolve_left hzero).1 hrejected
        · have hends := @ends_found dev freq mdiv (UInt32.ofNat c.2) r' hspace0 (by lia)
            (by rw [heq, hspace]; exact hmod) (by rw [heq, hspace]; exact hzero) (by
              rw [heq, gt_iff_lt, UInt32.lt_iff_toNat_lt, hint, hwraps]
              exact hrejected)
          rwa [heq] at hends
  · obtain ⟨hgt, hover⟩ := not_or.mp hwide
    have hlast : s.toNat + 1 = 2 ^ 32 := by
      have hlt := s.toNat_lt
      lia
    refine ⟨fun _ => ends_of_widest hr (Nat.lt_of_not_le hgt) hlast, fun h => absurd (.inr (.inl ?_)) h⟩
    -- The spacing is above every PFD frequency.
    have hle : 2 ^ 32 ≤ dev.leastSpacing (s.toNat + 1) := hlast ▸ le_max_left _ _
    have hlt : dev.pfd (dev.choice (r + 1) s.toNat).1 < 2 ^ 32 := (Nat.div_le_self _ _).trans_lt dev.refIn_lt
    rw [choiceMod]
    apply Nat.div_eq_of_lt
    refine hlt.trans_le ?_
    rw [choice, if_neg hgt]
    exact hle

lemma dividers_limits {lo s F k : ℕ} (hlo : 0 < lo) (hhigh : F ≤ 4400000000) (hlow : 2200000000 ≤ F)
    (hk : k ≤ 23 ∨ k ≤ 75 ∧ 3000000000 < F) (hsome : ¬dev.NoDividers lo s F k) :
    let c := dev.dividers lo s F k
    (1 ≤ c.1 ∧ c.1 ≤ 1023) ∧ c.2 < 2 ^ 32 ∧ dev.pfd c.1 ≤ 32000000 ∧
      (0 < dev.pfd c.1 / c.2 ∧ dev.pfd c.1 / c.2 ≤ 4095) ∧
      k ≤ steps F (dev.pfd c.1) (dev.pfd c.1 / c.2) / (dev.pfd c.1 / c.2) % 2 ^ 32 := by
  obtain ⟨hs0, hsome⟩ := not_or.mp hsome
  obtain ⟨hmod0, hlast⟩ := not_or.mp hsome
  obtain ⟨hcnt, hpfd, hmod⟩ := dev.choice_limits hlo (Nat.pos_of_ne_zero hs0)
  have hle := dev.choice_le lo s
  dsimp only
  by_cases hrejected : dev.Rejected lo s F k
  · have hone := (pfd_of_one hcnt hle hrejected.1).2 fun h0 => hlast ⟨hrejected, h0⟩
    have hwraps := @int_wraps_iff F (dev.pfd 1) (dev.pfd 1 / 2) k hlow hhigh (by lia) (by lia) (by lia) hk
    rw [dividers, if_pos hrejected]
    change (1 ≤ 1 ∧ 1 ≤ 1023) ∧ 2 < 2 ^ 32 ∧ dev.pfd 1 ≤ 32000000 ∧ (0 < dev.pfd 1 / 2 ∧ dev.pfd 1 / 2 ≤ 4095) ∧
      k ≤ steps F (dev.pfd 1) (dev.pfd 1 / 2) / (dev.pfd 1 / 2) % 2 ^ 32
    refine ⟨by decide, by decide, by lia, by lia, ?_⟩
    rw [← Nat.not_lt, hwraps]
    lia
  · have hwraps := int_wraps_iff hlow hhigh hpfd (Nat.pos_of_ne_zero hmod0) (Nat.div_le_self _ _) hk
    rw [dividers, if_neg hrejected]
    refine ⟨⟨hcnt, hle⟩, ?_, hpfd, ⟨Nat.pos_of_ne_zero hmod0, hmod⟩, ?_⟩
    · by_contra hwide
      exact hmod0 (Nat.div_eq_of_lt ((Nat.div_le_self _ _).trans_lt (dev.refIn_lt.trans_le (Nat.le_of_not_lt hwide))))
    · rw [← Nat.not_lt]
      exact fun h => hrejected (hwraps.mp h)

end Adf4350Dev

end NoOS
