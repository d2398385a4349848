import NoOS.Drivers.AlteraAtxLimits

/-!
# What the divider searches find

The search for the receivers does not compare its candidates with the limits of the VCO either. It leaves out settings:
one `lpd` is tried, and a high goal is not tried with `lpfd = 1`. Close to the frequency of a candidate no other one is
found, so that the search is right where that frequency is within the limits of the VCO.
-/

namespace NoOS
open FirstBest RegisterFile

/-- What the VCO of the receivers is set to, in kHz. -/
def cdrVco (fref : UInt32) (c : CdrParams) : ℕ := fref.toNat * c.m.toNat * c.lpfd.toNat / c.n.toNat

/-- The rate of a setting for the receivers, in kHz. -/
def cdrRate (fref : UInt32) (c : CdrParams) : ℕ := cdrVco fref c * 2 / c.lpd.toNat

/-- A setting that the PLL of the receivers can run with. -/
structure CdrParams.Within (fref : UInt32) (c : CdrParams) : Prop where
  pfd_ge : A10_CDR_PLL_PFD_MIN.toNat ≤ fref.toNat / c.n.toNat
  pfd_le : fref.toNat / c.n.toNat ≤ A10_CDR_PLL_PFD_MAX.toNat
  vco_ge : A10_CDR_PLL_VCO_MIN.toNat ≤ cdrVco fref c
  vco_le : cdrVco fref c ≤ A10_CDR_PLL_VCO_MAX.toNat
  m_ge : 8 ≤ c.m.toNat
  m_le : c.m.toNat ≤ 127
  n : c.n ∈ ([1, 2, 4, 8] : List UInt32)
  lpfd : c.lpfd ∈ ([1, 2] : List UInt32)
  lpd : c.lpd ∈ ([1, 2, 4, 8, 16] : List UInt32)

/-- No setting within the limits is nearer to the rate `fout`. -/
structure CdrParams.Nearest (fref fout : UInt32) (c : CdrParams) : Prop where
  within : c.Within fref
  le : ∀ t : CdrParams, t.Within fref → gap (cdrRate fref c) fout.toNat ≤ gap (cdrRate fref t) fout.toNat

/-- The products are those of the rate formulas, and the distance is the real one. -/
structure CdrParams.Exact (fref targetFvco : UInt32) (c : CdrParams) : Prop where
  product : fref.toNat * c.m.toNat * c.lpfd.toNat < 2 ^ 32
  difference : cAbs (cdrFvco fref c - targetFvco) = gap (cdrVco fref c) targetFvco.toNat

/-- The search for the receivers returns no dividers, or one of the nearest settings within the limits. -/
def CdrSearchSound (fref fout : UInt32) : Prop :=
  let lpd := cdrLpd (fout / 2)
  let targetFvco := fout / 2 * lpd
  ∃ c fvco, alteraA10CdrCalcParams fref fout = some (c, fvco) ∧
    (¬(c.n = 0 ∨ c.m = 0 ∨ c.lpfd = 0 ∨ c.lpd = 0) →
      c.Nearest fref fout ∧ fvco.toNat = cdrVco fref c ∧ targetFvco.toNat = fout.toNat / 2 * lpd.toNat ∧
        ∀ d ∈ cdrCandidates fref (cdrLpfdMin targetFvco) lpd, d.Exact fref targetFvco)

/-- The frequency that the search looks for -/
def cdrTarget (fout : UInt32) : UInt32 := fout / 2 * cdrLpd (fout / 2)

/-- The settings that the search tries -/
def cdrTried (fref fout : UInt32) : List CdrParams :=
  cdrCandidates fref (cdrLpfdMin (cdrTarget fout)) (cdrLpd (fout / 2))

/-- References and rates for which the search is right. -/
inductive CdrInLimits (fref fout : UInt32) : Prop
  | lowReference (h : fref.toNat < 50000)
  | highReference (h : 6400008 ≤ fref.toNat)
  | lowRate (h : fout.toNat ≤ 19140)
  /-- The rate is that of a setting which does not divide the reference, or a little above it. -/
  | above (c : CdrParams) (hc : c ∈ cdrTried fref fout) (hwithin : c.Within fref) (hn : c.n = 1)
      (hle : cdrRate fref c ≤ fout.toNat) (hnear : 128 * (fout.toNat - cdrRate fref c) + 264 ≤ fref.toNat)
  /-- No rate is rounded, and the rate is close to that of a setting within the limits. -/
  | near (c : CdrParams) (hc : c ∈ cdrTried fref fout) (hwithin : c.Within fref) (hdvd : 64 ∣ fref.toNat)
      (hnear : 128 * gap (cdrRate fref c) fout.toNat + 264 ≤ fref.toNat)

/-- References and rates for which the search is wrong. -/
inductive CdrBeyond (fref fout : UInt32) : Prop
  /-- The target is close to a frequency beyond the limits of the VCO. -/
  | near (c : CdrParams) (hc : c ∈ cdrTried fref fout)
      (hnear : 16 * gap (cdrVco fref c) (cdrTarget fout).toNat + 8 ≤ fref.toNat)
      (hout : cdrVco fref c < A10_CDR_PLL_VCO_MIN.toNat ∨ A10_CDR_PLL_VCO_MAX.toNat < cdrVco fref c)
  /-- The target is far away from the limits of the VCO and close to another frequency. -/
  | outside (c : CdrParams) (hc : c ∈ cdrTried fref fout) (hle : cdrVco fref c < 2 * (cdrTarget fout).toNat)
      (hout : 14150000 + gap (cdrVco fref c) (cdrTarget fout).toNat < (cdrTarget fout).toNat ∨
        (cdrTarget fout).toNat + gap (cdrVco fref c) (cdrTarget fout).toNat < 4900000)
  /-- The rate is close to that of a setting within the limits which is left out for a high target, with the largest `n`
  and an odd `m`, and another one is tried. -/
  | leftOut (c t : CdrParams) (hc : c ∈ cdrTried fref fout) (hle : cdrVco fref c < 2 * (cdrTarget fout).toNat)
      (ht : t.Within fref) (hdvd : 64 ∣ fref.toNat) (hnear : 128 * gap (cdrRate fref t) fout.toNat < fref.toNat)
      (hgoal : 5200000 < (cdrTarget fout).toNat) (hlpd : t.lpd = cdrLpd (fout / 2)) (hn : t.n = 8) (hlpfd : t.lpfd = 1)
      (hodd : t.m.toNat % 2 = 1)

section Receivers

variable {fref fout : UInt32} {b c : CdrParams}

lemma CdrParams.Allowed.nonzero (h : c.Allowed fref) : ¬(c.n = 0 ∨ c.m = 0 ∨ c.lpfd = 0 ∨ c.lpd = 0) := by
  have hn : ∀ n ∈ ([1, 2, 4, 8] : List UInt32), n ≠ 0 := by decide
  have hlpfd : ∀ lpfd ∈ ([1, 2] : List UInt32), lpfd ≠ 0 := by decide
  have hlpd : ∀ lpd ∈ ([1, 2, 4, 8, 16] : List UInt32), lpd ≠ 0 := by decide
  have hm : c.m ≠ 0 := Word.ne_zero_of_pos (Nat.lt_of_lt_of_le (by decide) h.m_ge)
  rintro (hzero | hzero | hzero | hzero)
  · exact hn c.n h.n hzero
  · exact hm hzero
  · exact hlpfd c.lpfd h.lpfd hzero
  · exact hlpd c.lpd h.lpd hzero

lemma CdrParams.Allowed.product_le (h : c.Allowed fref) : fref.toNat * c.m.toNat * c.lpfd.toNat ≤ 113200000 * 2 := by
  have hlpfd : ∀ lpfd ∈ ([1, 2] : List UInt32), lpfd.toNat ≤ 2 := by decide
  exact Nat.mul_le_mul h.mul_le (hlpfd c.lpfd h.lpfd)

lemma CdrParams.Allowed.toNat_cdrFvco (h : c.Allowed fref) : (cdrFvco fref c).toNat = cdrVco fref c := by
  have hmul_le := h.mul_le
  have hproduct_le := h.product_le
  have hmul : (fref * c.m).toNat = fref.toNat * c.m.toNat := by
    rw [UInt32.toNat_mul, Nat.mod_eq_of_lt (by omega)]
  have hproduct : (fref * c.m * c.lpfd).toNat = fref.toNat * c.m.toNat * c.lpfd.toNat := by
    rw [UInt32.toNat_mul, hmul, Nat.mod_eq_of_lt (by omega)]
  rw [cdrFvco, UInt32.toNat_div, hproduct]
  rfl

lemma CdrParams.Allowed.toNat_cdrFvco_lt (h : c.Allowed fref) : (cdrFvco fref c).toNat < 2 ^ 31 := by
  have hle := h.product_le
  rw [h.toNat_cdrFvco]
  apply (Nat.div_le_self _ _).trans_lt
  omega

/-- A rate that is not divided is half of `fout`, and the others are small. -/
lemma toNat_target : (fout / 2 * cdrLpd (fout / 2)).toNat = fout.toNat / 2 * (cdrLpd (fout / 2)).toNat ∧
    fout.toNat / 2 * (cdrLpd (fout / 2)).toNat < 2 ^ 31 := by
  have hlt := fout.toNat_lt
  have hone : UInt32.toNat 1 = 1 := rfl
  have hvco : (A10_CDR_PLL_VCO_MIN / 1).toNat = 4900000 := rfl
  have hhalf : (fout / 2).toNat = fout.toNat / 2 := UInt32.toNat_div fout 2
  have hsmall : fout.toNat / 2 * (cdrLpd (fout / 2)).toNat < 2 ^ 31 := by
    by_cases hge : fout / 2 ≥ A10_CDR_PLL_VCO_MIN / 1
    · have hfirst : cdrLpd (fout / 2) = 1 := by
        unfold cdrLpd
        rw [List.find?_cons_of_pos]
        · rfl
        · exact decide_eq_true hge
      rw [hfirst, hone]
      omega
    · have hlpd : ∀ lpd ∈ ([1, 2, 4, 8, 16] : List UInt32), lpd.toNat ≤ 16 := by decide
      rw [ge_iff_le, UInt32.le_iff_toNat_le, hvco, hhalf] at hge
      calc fout.toNat / 2 * (cdrLpd (fout / 2)).toNat
          ≤ 4900000 * 16 := Nat.mul_le_mul (by omega) (hlpd _ (cdrLpd_mem (fout / 2)))
        _ < 2 ^ 31 := by decide
  rw [UInt32.toNat_mul, hhalf, Nat.mod_eq_of_lt (by omega)]
  exact ⟨rfl, hsmall⟩

lemma cdrSearchSound_iff_search (hfref : fref ≠ 0) : CdrSearchSound fref fout ↔
    ∃ found, closestSearch (cdrFvco fref) (fout / 2 * cdrLpd (fout / 2)) 0 none
        (cdrCandidates fref (cdrLpfdMin (fout / 2 * cdrLpd (fout / 2))) (cdrLpd (fout / 2))) = some found ∧
      ∀ b, found = some b → b.Nearest fref fout := by
  obtain ⟨htarget, hlt⟩ := @toNat_target fout
  unfold CdrSearchSound alteraA10CdrCalcParams
  dsimp only
  rw [if_neg hfref]
  constructor
  · rintro ⟨c, fvco, hcalc, hsound⟩
    obtain ⟨found, hfound, hpair⟩ := Option.map_eq_some_iff.mp hcalc
    refine ⟨found, hfound, ?_⟩
    rintro b rfl
    obtain ⟨rfl, rfl⟩ := Prod.mk.inj hpair
    exact (hsound (cdr_allowed (closest_mem (closestSearch_eq hfound).symm)).nonzero).1
  · rintro ⟨found, hfound, hgood⟩
    rw [hfound, Option.map_some]
    cases found with
    | none => exact ⟨_, _, rfl, fun hne => absurd (Or.inl rfl) hne⟩
    | some c =>
      have hallowed := cdr_allowed (closest_mem (closestSearch_eq hfound).symm)
      refine ⟨_, _, rfl, fun _ => ⟨hgood c rfl, hallowed.toNat_cdrFvco, htarget, fun d hd => ?_⟩⟩
      have hd := cdr_allowed hd
      have hproduct := hd.product_le
      refine ⟨by omega, (cAbs_sub hd.toNat_cdrFvco_lt (by omega)).trans ?_⟩
      rw [hd.toNat_cdrFvco]
      rfl

/-- The search is right if and only if what it keeps is one of the nearest settings. -/
lemma cdrSearchSound_iff_kept (hfref : fref ≠ 0) : CdrSearchSound fref fout ↔
    ∀ b, some b ∈ (none :: (cdrTried fref fout).map some).argmin (distance (cdrFvco fref) (cdrTarget fout) 0) →
      b.Nearest fref fout := by
  obtain ⟨htarget, hlt⟩ := @toNat_target fout
  have hgoal : (cdrTarget fout).toNat < 2 ^ 31 := htarget.trans_lt hlt
  have hout : ∀ c ∈ cdrTried fref fout, (cdrFvco fref c).toNat < 2 ^ 31 := fun c hc => (cdr_allowed hc).toNat_cdrFvco_lt
  rw [cdrSearchSound_iff_search hfref]
  refine (search_good_iff hout).trans (and_iff_right (Or.inr ⟨?_, fun c hc => ?_⟩))
  · exact sub_ne_of_lt (by decide) hgoal
  · exact sub_ne_of_lt (hout c hc) hgoal

lemma distance_zero : distance (cdrFvco fref) (cdrTarget fout) 0 none = (cdrTarget fout).toNat := by
  obtain ⟨htarget, hlt⟩ := @toNat_target fout
  have hgoal : (cdrTarget fout).toNat < 2 ^ 31 := htarget.trans_lt hlt
  have hzero : UInt32.toNat 0 = 0 := rfl
  change cAbs (0 - cdrTarget fout) = _
  rw [cAbs_sub (by decide) hgoal, hzero]
  lia

lemma cdr_rates : (∀ c ∈ cdrTried fref fout, (cdrFvco fref c).toNat = cdrVco fref c) ∧
    (∀ c ∈ cdrTried fref fout, (cdrFvco fref c).toNat < 2 ^ 31) ∧ (cdrTarget fout).toNat < 2 ^ 31 := by
  obtain ⟨htarget, hlt⟩ := @toNat_target fout
  exact ⟨fun c hc => (cdr_allowed hc).toNat_cdrFvco, fun c hc => (cdr_allowed hc).toNat_cdrFvco_lt, htarget.trans_lt hlt⟩

lemma cdr_kept (hb : some b ∈ (none :: (cdrTried fref fout).map some).argmin (distance (cdrFvco fref) (cdrTarget fout) 0)) :
    IsKept (realDistance (cdrVco fref) (cdrTarget fout).toNat (cdrTarget fout).toNat) (cdrTried fref fout) b := by
  obtain ⟨hrate, hout, hgoal⟩ := @cdr_rates fref fout
  have hkept := kept_real hrate hout hgoal hb
  rwa [distance_zero] at hkept

lemma cdr_exists_kept (hc : c ∈ cdrTried fref fout) (hle : cdrVco fref c < 2 * (cdrTarget fout).toNat)
    (hpos : 0 < cdrVco fref c) :
    ∃ b, some b ∈ (none :: (cdrTried fref fout).map some).argmin (distance (cdrFvco fref) (cdrTarget fout) 0) ∧
      gap (cdrVco fref b) (cdrTarget fout).toNat ≤ gap (cdrVco fref c) (cdrTarget fout).toNat := by
  obtain ⟨hrate, hout, hgoal⟩ := @cdr_rates fref fout
  have hlt : gap (cdrVco fref c) (cdrTarget fout).toNat < distance (cdrFvco fref) (cdrTarget fout) 0 none := by
    rw [distance_zero]
    unfold gap
    omega
  obtain ⟨b, hb, -, hnear⟩ := exists_kept hrate hout hgoal hc hlt
  exact ⟨b, hb, hnear⟩

/-- What the loops try -/
structure CdrParams.Tried (fref fout : UInt32) (c : CdrParams) : Prop where
  n : c.n ∈ ([1, 2, 4, 8] : List UInt32)
  lpfd : c.lpfd ∈ ([1, 2] : List UInt32)
  pfd_ge : 50000 ≤ fref.toNat / c.n.toNat
  pfd_le : fref.toNat / c.n.toNat ≤ 800000
  mul_ge : 2450000 ≤ fref.toNat * c.m.toNat
  m_ge : 8 ≤ c.m.toNat
  m_le : c.m.toNat ≤ 127
  lpd : c.lpd = cdrLpd (fout / 2)
  lpfd_ge : (cdrLpfdMin (cdrTarget fout)).toNat ≤ c.lpfd.toNat

lemma cdr_tried (h : c ∈ cdrTried fref fout) : c.Tried fref fout := by
  have hallowed := cdr_allowed h
  obtain ⟨n, hn, h⟩ := List.mem_flatMap.mp h
  obtain ⟨lpfd, hlpfd, h⟩ := List.mem_flatMap.mp h
  obtain ⟨m, hm, rfl⟩ := List.mem_map.mp h
  obtain ⟨htake, htest⟩ := List.mem_filter.mp hn
  have hge := List.all_eq_true.mp List.all_takeWhile n htake
  rw [decide_eq_true_eq, ge_iff_le, UInt32.le_iff_toNat_le, UInt32.toNat_div] at hge
  rw [decide_eq_true_eq, UInt32.le_iff_toNat_le, UInt32.toNat_div] at htest
  have hge : 50000 ≤ fref.toNat / n.toNat := hge
  have hpos : 0 < fref.toNat := Nat.pos_of_ne_zero fun hzero => by simp [hzero] at hge
  have hsmall : fref.toNat * 8 ≤ 113200000 := (Nat.mul_le_mul_left _ hallowed.m_ge).trans hallowed.mul_le
  have hhalf : (A10_CDR_PLL_VCO_MIN / 2).toNat = 2450000 := rfl
  have hlow := (mem_forRange hm).1
  rw [cdrMMin, UInt32.toNat_max, toNat_divRoundUp (by omega) (by omega), hhalf] at hlow
  have hle := (le_max_left _ _).trans hlow
  have hmul : 2450000 ≤ fref.toNat * m.toNat := by
    rw [← Nat.lt_succ_iff, Nat.div_lt_iff_lt_mul hpos, Nat.succ_mul, Nat.mul_comm] at hle
    omega
  exact ⟨hallowed.n, hallowed.lpfd, hge, htest, hmul, hallowed.m_ge, hallowed.m_le, rfl, (mem_forRange hlpfd).1⟩

lemma CdrParams.Tried.vco_ge (h : c.Tried fref fout) : 306250 ≤ cdrVco fref c ∧ fref.toNat ≤ cdrVco fref c := by
  have hn : ∀ n ∈ ([1, 2, 4, 8] : List UInt32), 0 < n.toNat ∧ n.toNat ≤ 8 := by decide
  have hlpfd : ∀ lpfd ∈ ([1, 2] : List UInt32), 1 ≤ lpfd.toNat := by decide
  obtain ⟨hpos, hle⟩ := hn _ h.n
  have hone : fref.toNat * c.m.toNat * 1 ≤ fref.toNat * c.m.toNat * c.lpfd.toNat := Nat.mul_le_mul_left _ (hlpfd _ h.lpfd)
  have hm : fref.toNat * 8 ≤ fref.toNat * c.m.toNat := Nat.mul_le_mul_left _ h.m_ge
  have hmul := h.mul_ge
  have hdiv := Nat.mul_le_mul_left fref.toNat hle
  unfold cdrVco
  rw [Nat.le_div_iff_mul_le hpos, Nat.le_div_iff_mul_le hpos]
  omega

lemma CdrParams.Tried.within (h : c.Tried fref fout) (hmin : A10_CDR_PLL_VCO_MIN.toNat ≤ cdrVco fref c)
    (hmax : cdrVco fref c ≤ A10_CDR_PLL_VCO_MAX.toNat) : c.Within fref :=
  ⟨h.pfd_ge, h.pfd_le, hmin, hmax, h.m_ge, h.m_le, h.n, h.lpfd, h.lpd ▸ cdrLpd_mem _⟩

lemma vco_grid (hn : c.n ∈ ([1, 2, 4, 8] : List UInt32)) :
    ∃ g, 8 * cdrVco fref c ≤ fref.toNat * g ∧ fref.toNat * g < 8 * cdrVco fref c + 8 := by
  have hk : ∀ n ∈ ([1, 2, 4, 8] : List UInt32), 0 < n.toNat ∧ n.toNat * (8 / n.toNat) = 8 ∧ 0 < 8 / n.toNat := by decide
  obtain ⟨hpos, hprod, hkpos⟩ := hk _ hn
  refine ⟨c.m.toNat * c.lpfd.toNat * (8 / c.n.toNat), ?_⟩
  rw [← Nat.mul_assoc, ← Nat.mul_assoc]
  unfold cdrVco
  generalize fref.toNat * c.m.toNat * c.lpfd.toNat = q
  have hlow := Nat.mul_le_mul_right (8 / c.n.toNat) (Nat.div_mul_le_self q c.n.toNat)
  have hhigh := Nat.mul_lt_mul_of_pos_right ((Nat.div_lt_iff_lt_mul hpos).mp (Nat.lt_succ_self (q / c.n.toNat))) hkpos
  rw [Nat.mul_assoc, hprod] at hlow hhigh
  omega

/-- The frequencies at least as close to the target as a close one are equal to it. -/
lemma vco_eq (hc : c.n ∈ ([1, 2, 4, 8] : List UInt32)) (hb : b.n ∈ ([1, 2, 4, 8] : List UInt32)) {target : ℕ}
    (hnear : 16 * gap (cdrVco fref c) target + 8 ≤ fref.toNat)
    (hle : gap (cdrVco fref b) target ≤ gap (cdrVco fref c) target) : cdrVco fref b = cdrVco fref c := by
  obtain ⟨g, hlow, hhigh⟩ := @vco_grid fref c hc
  obtain ⟨g', hlow', hhigh'⟩ := @vco_grid fref b hb
  unfold gap at hnear hle
  rcases apart fref.toNat g g' with rfl | hmul | hmul
  · omega
  · omega
  · omega

lemma cdr_grid (hn : c.n ∈ ([1, 2, 4, 8] : List UInt32)) (hlpd : c.lpd ∈ ([1, 2, 4, 8, 16] : List UInt32)) :
    ∃ g, 64 * cdrRate fref c ≤ fref.toNat * g ∧ fref.toNat * g < 64 * cdrRate fref c + 128 ∧
      (c.n = 1 → fref.toNat * g < 64 * cdrRate fref c + 64) ∧
      (64 ∣ fref.toNat → 64 * cdrRate fref c = fref.toNat * g) := by
  have hk : ∀ n ∈ ([1, 2, 4, 8] : List UInt32), ∀ l ∈ ([1, 2, 4, 8, 16] : List UInt32),
      n.toNat * l.toNat * (128 / (n.toNat * l.toNat)) = 128 ∧ n.toNat ∣ 64 := by decide
  obtain ⟨hprod, hdvd⟩ := hk _ hn _ hlpd
  obtain ⟨hlow, hhigh, hexact, hround⟩ :=
    @rate_grid _ _ _ (fref.toNat * c.m.toNat * c.lpfd.toNat) (cdrRate fref c) rfl hprod hdvd
  have hsame : fref.toNat * c.m.toNat * c.lpfd.toNat * (128 / (c.n.toNat * c.lpd.toNat)) =
      fref.toNat * (c.m.toNat * c.lpfd.toNat * (128 / (c.n.toNat * c.lpd.toNat))) := by
    rw [Nat.mul_assoc fref.toNat, Nat.mul_assoc fref.toNat]
  rw [hsame] at hlow hhigh hexact hround
  refine ⟨_, hlow, hhigh, fun hone => hexact (congrArg UInt32.toNat hone), fun h => hround ?_⟩
  exact (h.mul_right _).mul_right _

lemma target_near {v l fout : ℕ} (hl : l ∈ [1, 2, 4, 8, 16]) : gap v (fout / 2 * l) ≤ 8 * gap (v * 2 / l) fout + 16 := by
  simp only [List.mem_cons, List.not_mem_nil, or_false] at hl
  unfold gap
  rcases hl with rfl | rfl | rfl | rfl | rfl <;> omega

lemma CdrParams.Tried.target_near (h : c.Tried fref fout) :
    gap (cdrVco fref c) (cdrTarget fout).toNat ≤ 8 * gap (cdrRate fref c) fout.toNat + 16 := by
  have hl : ∀ l ∈ ([1, 2, 4, 8, 16] : List UInt32), l.toNat ∈ [1, 2, 4, 8, 16] := by decide
  have htarget : (cdrTarget fout).toNat = fout.toNat / 2 * c.lpd.toNat := by
    rw [h.lpd]
    exact toNat_target.1
  rw [htarget]
  exact NoOS.target_near (hl _ (h.lpd ▸ cdrLpd_mem _))

/-- What is kept close to the rate of a candidate has its rate and its VCO. -/
lemma cdrSearchSound_of_close (hfref : fref ≠ 0) (hc : c ∈ cdrTried fref fout) (hwithin : c.Within fref)
    (hnear : 128 * gap (cdrRate fref c) fout.toNat + 264 ≤ fref.toNat)
    (hnearest : ∀ t : CdrParams, t.Within fref → gap (cdrRate fref c) fout.toNat ≤ gap (cdrRate fref t) fout.toNat) :
    CdrSearchSound fref fout := by
  refine (cdrSearchSound_iff_kept hfref).mpr fun b hb => ?_
  have hkept := cdr_kept hb
  have htried := cdr_tried hc
  have hb := cdr_tried hkept.mem
  have htarget := htried.target_near
  have hvco : cdrVco fref b = cdrVco fref c := vco_eq htried.n hb.n (by omega) (hkept.le c hc)
  have hrate : cdrRate fref b = cdrRate fref c := by rw [cdrRate, cdrRate, hvco, hb.lpd, htried.lpd]
  exact ⟨hb.within (hvco ▸ hwithin.vco_ge) (hvco ▸ hwithin.vco_le), fun t ht => hrate ▸ hnearest t ht⟩

lemma cdrSearchSound_of_nil (hfref : fref ≠ 0) (h : ∀ c : CdrParams, ¬c.Tried fref fout) : CdrSearchSound fref fout :=
  (cdrSearchSound_iff_kept hfref).mpr fun b hb => absurd (cdr_tried (cdr_kept hb).mem) (h b)

theorem cdrSearchSound_of_inLimits (hfref : fref ≠ 0) (h : CdrInLimits fref fout) : CdrSearchSound fref fout := by
  have hn : ∀ n ∈ ([1, 2, 4, 8] : List UInt32), 0 < n.toNat ∧ n.toNat ≤ 8 := by decide
  cases h with
  | lowReference h =>
    refine cdrSearchSound_of_nil hfref fun c hc => ?_
    have hle := hc.pfd_ge.trans (Nat.div_le_self _ _)
    omega
  | highReference h =>
    refine cdrSearchSound_of_nil hfref fun c hc => ?_
    have hle := (Nat.div_le_div_left (hn _ hc.n).2 (hn _ hc.n).1).trans hc.pfd_le
    omega
  | lowRate h =>
    refine (cdrSearchSound_iff_kept hfref).mpr fun b hb => ?_
    have hkept := cdr_kept hb
    have hlpd : ∀ lpd ∈ ([1, 2, 4, 8, 16] : List UInt32), lpd.toNat ≤ 16 := by decide
    have htarget : (cdrTarget fout).toNat ≤ 9570 * 16 :=
      calc (cdrTarget fout).toNat = fout.toNat / 2 * (cdrLpd (fout / 2)).toNat := toNat_target.1
        _ ≤ 9570 * 16 := Nat.mul_le_mul (by omega) (hlpd _ (cdrLpd_mem _))
    have hlt : gap (cdrVco fref b) (cdrTarget fout).toNat < (cdrTarget fout).toNat := hkept.lt
    have hge := (cdr_tried hkept.mem).vco_ge.1
    unfold gap at hlt
    omega
  | above c hc hwithin hone hle hnear =>
    have hgap : gap (cdrRate fref c) fout.toNat = fout.toNat - cdrRate fref c := by
      unfold gap
      omega
    refine cdrSearchSound_of_close hfref hc hwithin (by omega) fun t ht => ?_
    obtain ⟨g, hlow, -, hexact, -⟩ := @cdr_grid fref c hwithin.n hwithin.lpd
    obtain ⟨g', hlow', hhigh', -, -⟩ := @cdr_grid fref t ht.n ht.lpd
    exact near_grid hlow (hexact hone) hlow' hhigh' (Or.inl ⟨hle, by omega⟩)
  | near c hc hwithin hdvd hnear =>
    refine cdrSearchSound_of_close hfref hc hwithin hnear fun t ht => ?_
    obtain ⟨g, hlow, -, -, hround⟩ := @cdr_grid fref c hwithin.n hwithin.lpd
    obtain ⟨g', hlow', hhigh', -, hround'⟩ := @cdr_grid fref t ht.n ht.lpd
    have heq := hround hdvd
    exact near_grid hlow (by omega) hlow' hhigh' (Or.inr ⟨heq, hround' hdvd, by omega⟩)

/-- The divisions are exact if the reference is a multiple of 64 kHz. -/
lemma cdr_exact (hn : c.n ∈ ([1, 2, 4, 8] : List UInt32)) (hlpd : c.lpd ∈ ([1, 2, 4, 8, 16] : List UInt32))
    (h : 64 ∣ fref.toNat) : cdrRate fref c * c.lpd.toNat * c.n.toNat = fref.toNat * c.m.toNat * c.lpfd.toNat * 2 := by
  have hk : ∀ n ∈ ([1, 2, 4, 8] : List UInt32), ∀ l ∈ ([1, 2, 4, 8, 16] : List UInt32),
      0 < n.toNat ∧ 64 = n.toNat * (64 / n.toNat) ∧ l.toNat ∣ 64 / n.toNat * 2 := by decide
  obtain ⟨hpos, hsplit, hdvd⟩ := hk _ hn _ hlpd
  obtain ⟨t, ht⟩ := h
  have hproduct : fref.toNat * c.m.toNat * c.lpfd.toNat = c.n.toNat * (64 / c.n.toNat * (t * c.m.toNat * c.lpfd.toNat)) := by
    rw [← Nat.mul_assoc, ← hsplit, ht, Nat.mul_assoc 64, Nat.mul_assoc 64]
  have hvco : cdrVco fref c = 64 / c.n.toNat * (t * c.m.toNat * c.lpfd.toNat) := by
    rw [cdrVco, hproduct, Nat.mul_div_cancel_left _ hpos]
  have hrate : cdrRate fref c * c.lpd.toNat = cdrVco fref c * 2 := by
    apply Nat.div_mul_cancel
    rw [hvco, Nat.mul_right_comm]
    exact hdvd.mul_right _
  rw [hrate, hvco, hproduct]
  lia

theorem not_cdrSearchSound_of_beyond (hfref : fref ≠ 0) (h : CdrBeyond fref fout) : ¬CdrSearchSound fref fout := by
  intro hsound
  have hmin : A10_CDR_PLL_VCO_MIN.toNat = 4900000 := rfl
  have hmax : A10_CDR_PLL_VCO_MAX.toNat = 14150000 := rfl
  cases h with
  | near c hc hnear hout =>
    have htried := cdr_tried hc
    have hge := htried.vco_ge
    obtain ⟨b, hb, hclose⟩ := cdr_exists_kept hc (by unfold gap at hnear; omega) (by omega)
    have hwithin := ((cdrSearchSound_iff_kept hfref).mp hsound b hb).within
    have hvco := vco_eq htried.n hwithin.n hnear hclose
    have hlow := hwithin.vco_ge
    have hhigh := hwithin.vco_le
    omega
  | outside c hc hle hout =>
    have hge := (cdr_tried hc).vco_ge
    obtain ⟨b, hb, hclose⟩ := cdr_exists_kept hc hle (by omega)
    have hwithin := ((cdrSearchSound_iff_kept hfref).mp hsound b hb).within
    have hlow := hwithin.vco_ge
    have hhigh := hwithin.vco_le
    unfold gap at hclose hout
    omega
  | leftOut c t hc hle ht hdvd hnear hgoal hlpd hn hlpfd hodd =>
    have hge := (cdr_tried hc).vco_ge
    obtain ⟨b, hb, -⟩ := cdr_exists_kept hc hle (by omega)
    have hnearest := (cdrSearchSound_iff_kept hfref).mp hsound b hb
    have htried := cdr_tried (cdr_kept hb).mem
    -- a close rate is that of the setting that is left out
    have hrate : cdrRate fref b = cdrRate fref t := by
      obtain ⟨g, -, -, -, hround⟩ := @cdr_grid fref t ht.n ht.lpd
      obtain ⟨g', -, -, -, hround'⟩ := @cdr_grid fref b htried.n hnearest.within.lpd
      have hg := hround hdvd
      have hg' := hround' hdvd
      have hle := hnearest.le t ht
      unfold gap at hle hnear
      rcases apart fref.toNat g g' with rfl | hmul | hmul
      · omega
      · omega
      · omega
    have hproduct := @cdr_exact fref b htried.n hnearest.within.lpd hdvd
    have hproduct' := @cdr_exact fref t ht.n ht.lpd hdvd
    have hpos : 0 < fref.toNat := Nat.pos_of_ne_zero fun hzero => by simp [hzero] at hnear
    have htwo : b.lpfd.toNat = 2 := by
      have hge := htried.lpfd_ge
      have hall : ∀ lpfd ∈ ([1, 2] : List UInt32), lpfd.toNat ≤ 2 := by decide
      have hlt : 5200000 < cdrTarget fout := UInt32.lt_iff_toNat_lt.mpr hgoal
      have hmin : cdrLpfdMin (cdrTarget fout) = 2 := if_pos hlt
      rw [hmin] at hge
      exact le_antisymm (hall _ htried.lpfd) hge
    -- `m` times the least common denominator is even with `lpfd = 2`
    have hm : b.n.toNat * t.m.toNat = 16 * b.m.toNat := by
      rw [hn, hlpfd] at hproduct'
      change _ * 8 = _ * 1 * 2 at hproduct'
      rw [htwo, hrate, htried.lpd, ← hlpd] at hproduct
      have hquarter : cdrRate fref t * t.lpd.toNat * 4 = fref.toNat * t.m.toNat := by omega
      apply Nat.eq_of_mul_eq_mul_left hpos
      calc fref.toNat * (b.n.toNat * t.m.toNat) = fref.toNat * t.m.toNat * b.n.toNat := by lia
        _ = cdrRate fref t * t.lpd.toNat * b.n.toNat * 4 := by rw [← hquarter, Nat.mul_right_comm]
        _ = fref.toNat * (16 * b.m.toNat) := by
          rw [hproduct]
          lia
    have hbn := htried.n
    have hcases : ∀ n ∈ ([1, 2, 4, 8] : List UInt32), n.toNat = 1 ∨ n.toNat = 2 ∨ n.toNat = 4 ∨ n.toNat = 8 := by decide
    rcases hcases _ hbn with hn | hn | hn | hn <;> rw [hn] at hm <;> omega

end Receivers

end NoOS
