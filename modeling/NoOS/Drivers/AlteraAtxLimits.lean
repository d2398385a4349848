import NoOS.Drivers.AlteraAdxcvrSearch

/-!
# What the search for the transmitters finds

The search takes the first of the closest candidates. They need not be within the limits of the PLL: the range of `m` is
the same for every `n`, and the frequency of the phase detector is compared with `A10_ATX_PLL_VCO_MAX`. The rates are
multiples of a part of the reference, rounded down. Close to one of them no other rate is found, and the setting that is
found for it has the smallest `n`, so that it does not divide the reference or has the largest `l`.
-/

namespace NoOS
open FirstBest RegisterFile

/-- The limit of the phase detector, which the search does not use. -/
def A10_ATX_PLL_PFD_MAX : UInt32 := 800000

/-- What the VCO of the transmitters is set to, in kHz. -/
def atxVco (fref : UInt32) (c : AtxParams) : ℕ := fref.toNat * c.m.toNat * 2 / c.n.toNat

/-- The rate of a setting for the transmitters, in kHz. -/
def atxRate (fref : UInt32) (c : AtxParams) : ℕ := atxVco fref c * 2 / c.l.toNat

/-- A setting that the PLL of the transmitters can run with. -/
structure AtxParams.Within (fref : UInt32) (c : AtxParams) : Prop where
  pfd_ge : A10_ATX_PLL_PFD_MIN.toNat ≤ fref.toNat / c.n.toNat
  pfd_le : fref.toNat / c.n.toNat ≤ A10_ATX_PLL_PFD_MAX.toNat
  vco_ge : A10_ATX_PLL_VCO_MIN.toNat ≤ atxVco fref c
  vco_le : atxVco fref c ≤ A10_ATX_PLL_VCO_MAX.toNat
  m_ge : 8 ≤ c.m.toNat
  m_le : c.m.toNat ≤ 127
  n : c.n ∈ ([1, 2, 4, 8] : List UInt32)
  l : c.l ∈ ([1, 2, 4, 8, 16] : List UInt32)

/-- No setting within the limits is nearer to the rate `fout`. -/
structure AtxParams.Nearest (fref fout : UInt32) (c : AtxParams) : Prop where
  within : c.Within fref
  le : ∀ t : AtxParams, t.Within fref → gap (atxRate fref c) fout.toNat ≤ gap (atxRate fref t) fout.toNat

/-- The products are those of the rate formulas, and the distance is the real one. -/
structure AtxParams.Exact (fref fout : UInt32) (c : AtxParams) : Prop where
  product : fref.toNat * c.m.toNat * 2 < 2 ^ 32
  doubled : atxVco fref c * 2 < 2 ^ 32
  difference : cAbs (atxF fref c - fout) = gap (atxRate fref c) fout.toNat

/-- The search for the transmitters returns no dividers, or one of the nearest settings within the limits. -/
def AtxSearchSound (fref fout : UInt32) : Prop :=
  ∃ c fvco, alteraA10AtxCalcParams fref fout = some (c, fvco) ∧
    (¬(c.n = 0 ∨ c.m = 0 ∨ c.l = 0) →
      c.Nearest fref fout ∧ fvco.toNat = atxVco fref c ∧ ∀ d ∈ atxCandidates fref, d.Exact fref fout)

/-- The reference is a multiple of 32 kHz, so that no rate is rounded, and no other rate is closer. -/
structure AtxParams.Near (fref fout : UInt32) (c : AtxParams) : Prop where
  dvd : 32 ∣ fref.toNat
  lt : 64 * gap (atxRate fref c) fout.toNat < fref.toNat

/-- References and rates for which the search is right. -/
inductive AtxInLimits (fref fout : UInt32) : Prop
  | lowReference (h : fref.toNat < 61440)
  | highReference (h : 7200000 < fref.toNat)
  | lowRate (h : fout.toNat < 56250)
  /-- The distances are not the real ones, and all of them are too large. -/
  | farRate (h : 2 ^ 31 - 1 ≤ fout.toNat)
      (hfar : ∀ c ∈ atxCandidates fref,
        atxRate fref c + 2 ^ 31 ≠ fout.toNat ∧ atxRate fref c + 2 ^ 32 ≤ 2 * fout.toNat + 1)
  /-- The rate is that of a setting which does not divide the reference, or a little above it. -/
  | above (c : AtxParams) (hc : c.Within fref) (hn : c.n = 1) (hle : atxRate fref c ≤ fout.toNat)
      (hnear : 64 * (fout.toNat - atxRate fref c) + 96 ≤ fref.toNat)
  /-- The rate is close to that of a setting which does not divide the reference or has the largest `l`. -/
  | near (c : AtxParams) (hc : c.Within fref) (hnear : c.Near fref fout) (hfirst : c.n = 1 ∨ c.l = 16)
      (hpfd : ∀ d ∈ atxCandidates fref, d.Near fref fout → fref.toNat / d.n.toNat ≤ A10_ATX_PLL_PFD_MAX.toNat)

/-- References and rates for which the search is wrong. -/
inductive AtxBeyond (fref fout : UInt32) : Prop
  /-- A distance is undefined or has wrapped. -/
  | wrapped (c : AtxParams) (h : 2 ^ 31 - 1 ≤ fout.toNat) (hc : c ∈ atxCandidates fref)
      (hfar : atxRate fref c + 2 ^ 31 = fout.toNat ∨ 2 * fout.toNat + 1 < atxRate fref c + 2 ^ 32)
  /-- No setting is within the limits, or the rate is far away from all of theirs and close to another one. -/
  | outside (c : AtxParams) (h : fout.toNat < 2 ^ 31 - 1) (hc : c ∈ atxCandidates fref)
      (hle : atxRate fref c ≤ 2 * fout.toNat)
      (hout : 800000 < fref.toNat / 8 ∨ 28800000 + gap (atxRate fref c) fout.toNat < fout.toNat ∨
        fout.toNat + gap (atxRate fref c) fout.toNat < 900000)
  /-- The rate is close to that of a setting with a frequency of the phase detector above the limit, or only to those of
  settings beyond the limits and of settings which are also tried with another VCO before. -/
  | near (c : AtxParams) (hc : c ∈ atxCandidates fref) (hnear : c.Near fref fout)
      (hout : (∃ d ∈ atxCandidates fref, d.Near fref fout ∧ A10_ATX_PLL_PFD_MAX.toNat < fref.toNat / d.n.toNat) ∨
        ∀ d : AtxParams, d.Within fref → d.Near fref fout → d.n ≠ 1 ∧ d.l ≠ 16)

lemma apart (s g g' : ℕ) : g' = g ∨ s * g + s ≤ s * g' ∨ s * g' + s ≤ s * g := by
  rcases lt_trichotomy g g' with hlt | heq | hgt
  · exact Or.inr (Or.inl ((Nat.mul_succ s g).symm.trans_le (Nat.mul_le_mul_left s hlt)))
  · exact Or.inl heq.symm
  · exact Or.inr (Or.inr ((Nat.mul_succ s g').symm.trans_le (Nat.mul_le_mul_left s hgt)))

/-- What is divided by `n` and `l`, rounded down, is close to a multiple of the 128th part. -/
lemma rate_grid {n l k q r : ℕ} (hr : q / n * 2 / l = r) (hk : n * l * k = 128) (hn : n ∣ 64) :
    64 * r ≤ q * k ∧ q * k < 64 * r + 128 ∧ (n = 1 → q * k < 64 * r + 64) ∧ (64 ∣ q → 64 * r = q * k) := by
  have hn0 : 0 < n := Nat.pos_of_ne_zero fun h => by simp [h] at hk
  have hl0 : 0 < l := Nat.pos_of_ne_zero fun h => by simp [h] at hk
  have hk0 : 0 < k := Nat.pos_of_ne_zero fun h => by simp [h] at hk
  have hprod : r * (n * l * k) = r * 128 := by rw [hk]
  have hvlow : q / n * n ≤ q := Nat.div_mul_le_self q n
  have hvhigh : q < (q / n + 1) * n := (Nat.div_lt_iff_lt_mul hn0).mp (Nat.lt_succ_self _)
  have hrlow : r * l ≤ q / n * 2 := hr ▸ Nat.div_mul_le_self _ l
  have hrhigh : q / n * 2 < (r + 1) * l := (Nat.div_lt_iff_lt_mul hl0).mp (hr ▸ Nat.lt_succ_self _)
  refine ⟨?_, ?_, ?_, ?_⟩
  · have hmul := Nat.mul_le_mul_right (n * k) hrlow
    have hmul' := Nat.mul_le_mul_right (2 * k) hvlow
    lia
  · have hmul : (q / n * 2 + 1) * n ≤ (r + 1) * l * n := Nat.mul_le_mul_right n hrhigh
    have htwice : 2 * q + 2 ≤ r * l * n + l * n + n := by lia
    have hmul' := Nat.mul_le_mul_right k htwice
    have hle : n * k ≤ n * k * l := Nat.le_mul_of_pos_right _ hl0
    lia
  · rintro rfl
    rw [Nat.div_one] at hrhigh
    have hmul : (q * 2 + 1) * k ≤ (r + 1) * l * k := Nat.mul_le_mul_right k hrhigh
    lia
  · rintro ⟨t, rfl⟩
    obtain ⟨u, hu⟩ := hn
    have hlk : l * k = 2 * u := Nat.eq_of_mul_eq_mul_left hn0 (by lia)
    have hquot : 64 * t / n * 2 = l * (k * t) := by
      rw [hu, Nat.mul_assoc n u t, Nat.mul_div_cancel_left _ hn0, ← Nat.mul_assoc l k t, hlk]
      lia
    rw [hquot, Nat.mul_div_cancel_left _ hl0] at hr
    lia

/-- The rates of the grid around the one that `fout` is close to are farther away. -/
lemma near_grid {s g g' x x' fout : ℕ} (hlow : 64 * x ≤ s * g) (hhigh : s * g < 64 * x + 64) (hlow' : 64 * x' ≤ s * g')
    (hhigh' : s * g' < 64 * x' + 128)
    (hnear : x ≤ fout ∧ 128 * (fout - x) + 192 ≤ s ∨ 64 * x = s * g ∧ 64 * x' = s * g' ∧ 128 * gap x fout < s) :
    gap x fout ≤ gap x' fout := by
  unfold gap at hnear ⊢
  rcases apart s g g' with rfl | hmul | hmul
  · lia
  · lia
  · lia

section Transmitters

variable {fref fout : UInt32} {c : AtxParams}

lemma AtxParams.Allowed.nonzero (h : c.Allowed fref) : ¬(c.n = 0 ∨ c.m = 0 ∨ c.l = 0) := by
  have hn : ∀ n ∈ ([1, 2, 4, 8] : List UInt32), n ≠ 0 := by decide
  have hl : ∀ l ∈ ([1, 2, 4, 8, 16] : List UInt32), l ≠ 0 := by decide
  have hm : c.m ≠ 0 := Word.ne_zero_of_pos (Nat.lt_of_lt_of_le (by decide) h.m_ge)
  rintro (hzero | hzero | hzero)
  · exact hn c.n h.n hzero
  · exact hm hzero
  · exact hl c.l h.l hzero

lemma AtxParams.Allowed.atxVco_le (h : c.Allowed fref) : atxVco fref c ≤ 115200000 := by
  have hle := h.mul_le
  apply (Nat.div_le_self _ _).trans
  omega

lemma AtxParams.Allowed.atxRate_lt (h : c.Allowed fref) : atxRate fref c < 2 ^ 28 := by
  have hle := h.atxVco_le
  apply (Nat.div_le_self _ _).trans_lt
  omega

lemma AtxParams.Allowed.toNat_atxFvco (h : c.Allowed fref) : (atxFvco fref c).toNat = atxVco fref c := by
  have hle := h.mul_le
  have htwo : (2 : UInt32).toNat = 2 := rfl
  have hmul : (fref * c.m).toNat = fref.toNat * c.m.toNat := by
    rw [UInt32.toNat_mul, Nat.mod_eq_of_lt (by omega)]
  have hdouble : (fref * c.m * 2).toNat = fref.toNat * c.m.toNat * 2 := by
    rw [UInt32.toNat_mul, hmul, htwo, Nat.mod_eq_of_lt (by omega)]
  rw [atxFvco, UInt32.toNat_div, hdouble]
  rfl

lemma AtxParams.Allowed.toNat_atxF (h : c.Allowed fref) : (atxF fref c).toNat = atxRate fref c := by
  have hle := h.atxVco_le
  have htwo : (2 : UInt32).toNat = 2 := rfl
  have hdouble : (atxFvco fref c * 2).toNat = atxVco fref c * 2 := by
    rw [UInt32.toNat_mul, h.toNat_atxFvco, htwo, Nat.mod_eq_of_lt (by omega)]
  rw [atxF, UInt32.toNat_div, hdouble]
  rfl

lemma AtxParams.Allowed.exact_of (h : c.Allowed fref) (hreal : cAbs (atxF fref c - fout) = gap (atxRate fref c) fout.toNat) :
    c.Exact fref fout := by
  have hmul := h.mul_le
  have hvco := h.atxVco_le
  exact ⟨by omega, by omega, hreal⟩

lemma atxSearchSound_iff_search (hfref : fref ≠ 0) : AtxSearchSound fref fout ↔
    ∃ found, closestSearch (atxF fref) fout 0xffffffff none (atxCandidates fref) = some found ∧
      ∀ b, found = some b → b.Nearest fref fout ∧
        ∀ d ∈ atxCandidates fref, cAbs (atxF fref d - fout) = gap (atxRate fref d) fout.toNat := by
  unfold AtxSearchSound alteraA10AtxCalcParams
  rw [if_neg hfref]
  constructor
  · rintro ⟨c, fvco, hcalc, hsound⟩
    obtain ⟨found, hfound, hpair⟩ := Option.map_eq_some_iff.mp hcalc
    refine ⟨found, hfound, ?_⟩
    rintro b rfl
    obtain ⟨rfl, rfl⟩ := Prod.mk.inj hpair
    have hallowed := atx_allowed (closest_mem (closestSearch_eq hfound).symm)
    obtain ⟨hnearest, -, hexact⟩ := hsound hallowed.nonzero
    exact ⟨hnearest, fun d hd => (hexact d hd).difference⟩
  · rintro ⟨found, hfound, hgood⟩
    rw [hfound, Option.map_some]
    cases found with
    | none => exact ⟨_, _, rfl, fun hne => absurd (Or.inl rfl) hne⟩
    | some c =>
      have hallowed := atx_allowed (closest_mem (closestSearch_eq hfound).symm)
      obtain ⟨hnearest, hreal⟩ := hgood c rfl
      exact ⟨_, _, rfl, fun _ => ⟨hnearest, hallowed.toNat_atxFvco, fun d hd => (atx_allowed hd).exact_of (hreal d hd)⟩⟩

lemma distance_start (h : fout.toNat < 2 ^ 31) : distance (atxF fref) fout 0xffffffff none = fout.toNat + 1 := by
  have hstart : UInt32.toNat 0xffffffff = 2 ^ 32 - 1 := rfl
  change cAbs (0xffffffff - fout) = _
  rw [cAbs_eq, Word.toNat_sub_of_le (by omega), hstart]
  split_ifs <;> lia

lemma AtxParams.Allowed.far_iff (h : c.Allowed fref) (hfout : 2 ^ 31 ≤ fout.toNat) :
    (atxF fref c - fout ≠ 0x80000000 ∧
        distance (atxF fref) fout 0xffffffff none ≤ distance (atxF fref) fout 0xffffffff (some c)) ↔
      atxRate fref c + 2 ^ 31 ≠ fout.toNat ∧ atxRate fref c + 2 ^ 32 ≤ 2 * fout.toNat + 1 := by
  have hlt := h.atxRate_lt
  have hfout' := fout.toNat_lt
  have hleast : UInt32.toNat 0x80000000 = 2 ^ 31 := rfl
  have hmax : UInt32.toNat 0xffffffff = 2 ^ 32 - 1 := rfl
  have hsub : (atxF fref c - fout).toNat = atxRate fref c + 2 ^ 32 - fout.toNat := by
    rw [UInt32.toNat_sub, h.toNat_atxF]
    lia
  have hstart : distance (atxF fref) fout 0xffffffff none = 2 ^ 32 - 1 - fout.toNat := by
    change cAbs (0xffffffff - fout) = _
    rw [cAbs_eq, Word.toNat_sub_of_le (by omega), hmax, if_pos (by omega)]
  have hdistance : distance (atxF fref) fout 0xffffffff (some c) = cAbs (atxF fref c - fout) := rfl
  rw [hstart, hdistance, cAbs_eq, Ne, ← UInt32.toNat_inj, hsub, hleast]
  split_ifs <;> omega

lemma atx_rates : (∀ c ∈ atxCandidates fref, (atxF fref c).toNat = atxRate fref c) ∧
    ∀ c ∈ atxCandidates fref, (atxF fref c).toNat < 2 ^ 31 := by
  refine ⟨fun c hc => (atx_allowed hc).toNat_atxF, fun c hc => ?_⟩
  have hlt := (atx_allowed hc).atxRate_lt
  rw [(atx_allowed hc).toNat_atxF]
  omega

lemma atx_start_iff : 0xffffffff - fout = 0x80000000 ↔ fout.toNat = 2 ^ 31 - 1 := by
  have hmax : UInt32.toNat 0xffffffff = 2 ^ 32 - 1 := rfl
  have hleast : UInt32.toNat 0x80000000 = 2 ^ 31 := rfl
  have hlt := fout.toNat_lt
  rw [← UInt32.toNat_inj, Word.toNat_sub_of_le (by omega), hmax, hleast]
  lia

/-- Below 2^31 the search is right if and only if what it keeps is one of the nearest settings. -/
lemma atxSearchSound_iff_kept (hfref : fref ≠ 0) (hfout : fout.toNat < 2 ^ 31 - 1) : AtxSearchSound fref fout ↔
    ∀ b, some b ∈ (none :: (atxCandidates fref).map some).argmin (distance (atxF fref) fout 0xffffffff) →
      b.Nearest fref fout := by
  obtain ⟨hrate, hout⟩ := @atx_rates fref
  have hreal : ∀ d ∈ atxCandidates fref, cAbs (atxF fref d - fout) = gap (atxRate fref d) fout.toNat := by
    intro d hd
    rw [← hrate d hd]
    exact cAbs_sub (hout d hd) (by omega)
  have hdefined : 0xffffffff - fout ≠ 0x80000000 ∧ ∀ c ∈ atxCandidates fref, atxF fref c - fout ≠ 0x80000000 :=
    ⟨mt atx_start_iff.mp (by omega), fun c hc => sub_ne_of_lt (hout c hc) (by omega)⟩
  rw [atxSearchSound_iff_search hfref]
  simp only [and_iff_left hreal]
  rw [search_good_iff hout, and_iff_right (Or.inr hdefined)]

lemma atx_kept (hfout : fout.toNat < 2 ^ 31 - 1)
    (hb : some b ∈ (none :: (atxCandidates fref).map some).argmin (distance (atxF fref) fout 0xffffffff)) :
    IsKept (realDistance (atxRate fref) fout.toNat (fout.toNat + 1)) (atxCandidates fref) b := by
  obtain ⟨hrate, hout⟩ := @atx_rates fref
  have hkept := kept_real hrate hout (by omega) hb
  rwa [distance_start (by omega)] at hkept

lemma atx_exists_kept (hfout : fout.toNat < 2 ^ 31 - 1) (hc : c ∈ atxCandidates fref)
    (hle : gap (atxRate fref c) fout.toNat ≤ fout.toNat) :
    ∃ b, some b ∈ (none :: (atxCandidates fref).map some).argmin (distance (atxF fref) fout 0xffffffff) ∧
      gap (atxRate fref b) fout.toNat ≤ gap (atxRate fref c) fout.toNat := by
  obtain ⟨hrate, hout⟩ := @atx_rates fref
  have hgoal : fout.toNat < 2 ^ 31 := by omega
  have hlt : gap (atxRate fref c) fout.toNat < distance (atxF fref) fout 0xffffffff none := by
    rw [distance_start hgoal]
    exact Nat.lt_succ_of_le hle
  obtain ⟨b, hb, -, hnear⟩ := exists_kept hrate hout hgoal hc hlt
  exact ⟨b, hb, hnear⟩

/-- What the loops try -/
structure AtxParams.Tried (fref : UInt32) (c : AtxParams) : Prop where
  n : c.n ∈ ([1, 2, 4, 8] : List UInt32)
  l : c.l ∈ ([1, 2, 4, 8, 16] : List UInt32)
  pfd_ge : 61440 ≤ fref.toNat / c.n.toNat
  mul_ge : 3600000 ≤ fref.toNat * c.m.toNat
  mul_le : fref.toNat * c.m.toNat ≤ 57600000
  m_ge : 8 ≤ c.m.toNat
  m_le : c.m.toNat ≤ 127

lemma mem_atxNs {n : UInt32} : n ∈ atxNs fref ↔
    n ∈ ([1, 2, 4, 8] : List UInt32) ∧ 61440 ≤ fref.toNat / n.toNat ∧ fref.toNat / n.toNat ≤ 14400000 := by
  have hordered : ([1, 2, 4, 8] : List UInt32).Pairwise fun a b => 0 < a.toNat ∧ a.toNat ≤ b.toNat := by decide
  have hmono : ([1, 2, 4, 8] : List UInt32).Pairwise fun a b =>
      decide (fref / b ≥ A10_ATX_PLL_PFD_MIN) = true → decide (fref / a ≥ A10_ATX_PLL_PFD_MIN) = true := by
    refine hordered.imp fun {a b} hab hb => ?_
    rw [decide_eq_true_eq, ge_iff_le, UInt32.le_iff_toNat_le, UInt32.toNat_div] at hb ⊢
    exact hb.trans (Nat.div_le_div_left hab.2 hab.1)
  rw [atxNs, takeWhile_eq_filter hmono, List.mem_filter, List.mem_filter, decide_eq_true_eq, decide_eq_true_eq, ge_iff_le,
    UInt32.le_iff_toNat_le, UInt32.le_iff_toNat_le, UInt32.toNat_div, and_assoc]
  rfl

lemma mem_atxMs {m : UInt32} (hpos : 0 < fref.toNat) (hle : fref.toNat ≤ 7200000) :
    m ∈ forRange (atxMMin fref) (atxMMax fref) ↔
      (3600000 ≤ fref.toNat * m.toNat ∧ 8 ≤ m.toNat) ∧ fref.toNat * m.toNat ≤ 57600000 ∧ m.toNat ≤ 127 := by
  have h127 : (127 : UInt32).toNat = 127 := rfl
  have h8 : (8 : UInt32).toNat = 8 := rfl
  have hhalf : (A10_ATX_PLL_VCO_MIN / 2).toNat = 3600000 := rfl
  have hbound : (A10_ATX_PLL_VCO_MAX / 2 * 8).toNat = 57600000 := rfl
  have hup : (3600000 + fref.toNat - 1) / fref.toNat ≤ m.toNat ↔ 3600000 ≤ fref.toNat * m.toNat := by
    rw [← Nat.lt_succ_iff, Nat.div_lt_iff_lt_mul hpos, Nat.succ_mul, Nat.mul_comm]
    lia
  rw [mem_forRange_iff, atxMMin, atxMMax, UInt32.toNat_max, UInt32.toNat_min, UInt32.toNat_div, h127, h8, hbound,
    toNat_divRoundUp (by omega) (by omega), hhalf, max_le_iff, le_min_iff, Nat.le_div_iff_mul_le hpos, hup,
    Nat.mul_comm m.toNat]

lemma atx_mem_iff : c ∈ atxCandidates fref ↔ c.Tried fref := by
  constructor
  · intro h
    have hallowed := atx_allowed h
    obtain ⟨n, hn, h⟩ := List.mem_flatMap.mp h
    obtain ⟨m, hm, h⟩ := List.mem_flatMap.mp h
    obtain ⟨l, -, rfl⟩ := List.mem_map.mp h
    have hpfd := (mem_atxNs.mp hn).2.1
    have hpos : 0 < fref.toNat := Nat.pos_of_ne_zero fun hzero => by simp [hzero] at hpfd
    have hsmall : fref.toNat * 8 ≤ 57600000 := (Nat.mul_le_mul_left _ hallowed.m_ge).trans hallowed.mul_le
    have hm := (mem_atxMs hpos (by omega)).mp hm
    exact ⟨hallowed.n, hallowed.l, hpfd, hm.1.1, hallowed.mul_le, hallowed.m_ge, hallowed.m_le⟩
  · intro h
    obtain ⟨n, m, l⟩ := c
    have hpos : 0 < fref.toNat := Nat.pos_of_mul_pos_right (Nat.lt_of_lt_of_le (by decide) h.mul_ge)
    have hsmall : fref.toNat * 8 ≤ 57600000 := (Nat.mul_le_mul_left _ h.m_ge).trans h.mul_le
    have hpfd : fref.toNat / n.toNat ≤ 14400000 := (Nat.div_le_self _ _).trans (by omega)
    refine List.mem_flatMap.mpr ⟨n, mem_atxNs.mpr ⟨h.n, h.pfd_ge, hpfd⟩, List.mem_flatMap.mpr ⟨m, ?_, ?_⟩⟩
    · exact (mem_atxMs hpos (by omega)).mpr ⟨⟨h.mul_ge, h.m_ge⟩, h.mul_le, h.m_le⟩
    · exact List.mem_map.mpr ⟨l, h.l, rfl⟩

lemma AtxParams.Tried.rate_ge (h : c.Tried fref) : 112500 ≤ atxRate fref c := by
  have hn : ∀ n ∈ ([1, 2, 4, 8] : List UInt32), 0 < n.toNat ∧ n.toNat ≤ 8 := by decide
  have hl : ∀ l ∈ ([1, 2, 4, 8, 16] : List UInt32), 0 < l.toNat ∧ l.toNat ≤ 16 := by decide
  have hmul := h.mul_ge
  have hvco : 900000 ≤ atxVco fref c := by
    rw [atxVco, Nat.le_div_iff_mul_le (hn _ h.n).1]
    have hle := (hn _ h.n).2
    lia
  rw [atxRate, Nat.le_div_iff_mul_le (hl _ h.l).1]
  have hle := (hl _ h.l).2
  lia

lemma AtxParams.Within.rate_bounds (h : c.Within fref) : 900000 ≤ atxRate fref c ∧ atxRate fref c ≤ 28800000 := by
  have hl : ∀ l ∈ ([1, 2, 4, 8, 16] : List UInt32), 0 < l.toNat ∧ l.toNat ≤ 16 := by decide
  have hmin : UInt32.toNat A10_ATX_PLL_VCO_MIN = 7200000 := rfl
  have hmax : UInt32.toNat A10_ATX_PLL_VCO_MAX = 14400000 := rfl
  have hvco := h.vco_ge
  have hvco' := h.vco_le
  constructor
  · rw [atxRate, Nat.le_div_iff_mul_le (hl _ h.l).1]
    have hle := (hl _ h.l).2
    lia
  · apply (Nat.div_le_self _ _).trans
    lia

/-- If no rate is rounded, the settings within the limits are tried, and so are those that do not divide the reference. -/
lemma AtxParams.Within.tried (h : c.Within fref) (hexact : c.n = 1 ∨ 32 ∣ fref.toNat) : c.Tried fref := by
  have hn : ∀ n ∈ ([1, 2, 4, 8] : List UInt32), 0 < n.toNat ∧ n.toNat ≤ 8 ∧ n.toNat ∣ 64 := by decide
  obtain ⟨hpos, hle, hdvd⟩ := hn _ h.n
  have hmin : UInt32.toNat A10_ATX_PLL_VCO_MIN = 7200000 := rfl
  have hmax : UInt32.toNat A10_ATX_PLL_VCO_MAX = 14400000 := rfl
  have hvco := h.vco_ge
  have hvco' := h.vco_le
  have hmul : atxVco fref c * c.n.toNat = fref.toNat * c.m.toNat * 2 := by
    rcases hexact with hone | ⟨t, ht⟩
    · have hone : c.n.toNat = 1 := congrArg UInt32.toNat hone
      rw [atxVco, hone, Nat.div_one, Nat.mul_one]
    · apply Nat.div_mul_cancel
      rw [ht]
      exact hdvd.trans ⟨t * c.m.toNat, by lia⟩
  have hlow : 7200000 * 1 ≤ atxVco fref c * c.n.toNat := Nat.mul_le_mul (by omega) hpos
  have hhigh : atxVco fref c * c.n.toNat ≤ 14400000 * 8 := Nat.mul_le_mul (by omega) hle
  exact ⟨h.n, h.l, h.pfd_ge, by omega, by omega, h.m_ge, h.m_le⟩

lemma atx_grid (hn : c.n ∈ ([1, 2, 4, 8] : List UInt32)) (hl : c.l ∈ ([1, 2, 4, 8, 16] : List UInt32)) :
    ∃ g, 64 * atxRate fref c ≤ 2 * fref.toNat * g ∧ 2 * fref.toNat * g < 64 * atxRate fref c + 128 ∧
      (c.n = 1 → 2 * fref.toNat * g < 64 * atxRate fref c + 64) ∧
      (32 ∣ fref.toNat → 64 * atxRate fref c = 2 * fref.toNat * g) := by
  have hk : ∀ n ∈ ([1, 2, 4, 8] : List UInt32), ∀ l ∈ ([1, 2, 4, 8, 16] : List UInt32),
      n.toNat * l.toNat * (128 / (n.toNat * l.toNat)) = 128 ∧ n.toNat ∣ 64 := by decide
  obtain ⟨hprod, hdvd⟩ := hk _ hn _ hl
  obtain ⟨hlow, hhigh, hexact, hround⟩ := @rate_grid _ _ _ (fref.toNat * c.m.toNat * 2) (atxRate fref c) rfl hprod hdvd
  have hsame : fref.toNat * c.m.toNat * 2 * (128 / (c.n.toNat * c.l.toNat)) =
      2 * fref.toNat * (c.m.toNat * (128 / (c.n.toNat * c.l.toNat))) := by
    rw [Nat.mul_comm _ 2, ← Nat.mul_assoc 2, Nat.mul_assoc (2 * fref.toNat)]
  rw [hsame] at hlow hhigh hexact hround
  refine ⟨_, hlow, hhigh, fun hone => hexact (congrArg UInt32.toNat hone), fun h => hround ?_⟩
  obtain ⟨t, ht⟩ := h
  exact ⟨t * c.m.toNat, by rw [ht]; lia⟩

/-- The divisions are exact if the reference is a multiple of 32 kHz. -/
lemma atx_exact (hn : c.n ∈ ([1, 2, 4, 8] : List UInt32)) (hl : c.l ∈ ([1, 2, 4, 8, 16] : List UInt32))
    (h : 32 ∣ fref.toNat) : atxVco fref c * c.n.toNat = fref.toNat * c.m.toNat * 2 ∧
      atxRate fref c * c.l.toNat = atxVco fref c * 2 := by
  have hk : ∀ n ∈ ([1, 2, 4, 8] : List UInt32), ∀ l ∈ ([1, 2, 4, 8, 16] : List UInt32),
      0 < n.toNat ∧ 64 = n.toNat * (64 / n.toNat) ∧ l.toNat ∣ 64 / n.toNat * 2 := by decide
  obtain ⟨hpos, hsplit, hdvd⟩ := hk _ hn _ hl
  obtain ⟨t, ht⟩ := h
  have hproduct : fref.toNat * c.m.toNat * 2 = c.n.toNat * (64 / c.n.toNat * (t * c.m.toNat)) := by
    rw [← Nat.mul_assoc, ← hsplit, ht]
    lia
  have hvco : atxVco fref c = 64 / c.n.toNat * (t * c.m.toNat) := by
    rw [atxVco, hproduct, Nat.mul_div_cancel_left _ hpos]
  constructor
  · rw [hvco, hproduct, Nat.mul_comm]
  · apply Nat.div_mul_cancel
    rw [hvco, Nat.mul_right_comm]
    exact hdvd.mul_right _

/-- The candidates come with growing `n`, and for one `n` with growing `m`. -/
lemma atx_ordered : (atxCandidates fref).Pairwise fun c d => c.n ≤ d.n ∧ (c.n = d.n → c.m ≤ d.m) := by
  have hns : (atxNs fref).Pairwise (· < ·) := by
    have hall : ([1, 2, 4, 8] : List UInt32).Pairwise (· < ·) := by decide
    exact hall.sublist (List.filter_sublist.trans (List.takeWhile_sublist _))
  refine List.pairwise_flatMap.mpr ⟨fun n _ => List.pairwise_flatMap.mpr ⟨fun m _ => ?_, ?_⟩, ?_⟩
  · refine List.pairwise_map.mpr (List.pairwise_of_forall fun _ _ => ?_)
    exact ⟨UInt32.le_refl _, fun _ => UInt32.le_refl _⟩
  · refine (forRange_sorted _ _).imp fun {m m'} hle c hc d hd => ?_
    obtain ⟨l, -, rfl⟩ := List.mem_map.mp hc
    obtain ⟨l', -, rfl⟩ := List.mem_map.mp hd
    exact ⟨UInt32.le_refl _, fun _ => hle⟩
  · refine hns.imp fun {n n'} hlt c hc d hd => ?_
    obtain ⟨m, -, hc⟩ := List.mem_flatMap.mp hc
    obtain ⟨l, -, rfl⟩ := List.mem_map.mp hc
    obtain ⟨m', -, hd⟩ := List.mem_flatMap.mp hd
    obtain ⟨l', -, rfl⟩ := List.mem_map.mp hd
    exact ⟨UInt32.le_of_lt hlt, fun heq => absurd heq (UInt32.ne_of_lt hlt)⟩

/-- No candidate with a smaller `n`, or with the same and a smaller `m`, is as near as the one that is kept. -/
lemma kept_first {b : AtxParams} {start : ℕ} (hb : IsKept (realDistance (atxRate fref) fout.toNat start) (atxCandidates fref) b)
    (hc : c ∈ atxCandidates fref) (hle : gap (atxRate fref c) fout.toNat ≤ gap (atxRate fref b) fout.toNat) :
    b.n ≤ c.n ∧ (b.n = c.n → b.m ≤ c.m) := by
  rcases hb.eq_or_rel atx_ordered hc hle with rfl | hrel
  · exact ⟨UInt32.le_refl _, fun _ => UInt32.le_refl _⟩
  · exact hrel

/-- What is kept does not divide the reference, or it has the largest `l`: else `l` is doubled and `n` halved before. -/
lemma kept_half {b : AtxParams} {start : ℕ} (hdvd : 32 ∣ fref.toNat)
    (hb : IsKept (realDistance (atxRate fref) fout.toNat start) (atxCandidates fref) b) : b.n = 1 ∨ b.l = 16 := by
  have htried := atx_mem_iff.mp hb.mem
  by_contra hne
  obtain ⟨hn, hl⟩ := not_or.mp hne
  have hhalf : ∀ n ∈ ([1, 2, 4, 8] : List UInt32), n ≠ 1 →
      n / 2 ∈ ([1, 2, 4, 8] : List UInt32) ∧ n.toNat = (n / 2).toNat * 2 ∧ ¬n ≤ n / 2 := by decide
  have hdouble : ∀ l ∈ ([1, 2, 4, 8, 16] : List UInt32), l ≠ 16 →
      l * 2 ∈ ([1, 2, 4, 8, 16] : List UInt32) ∧ (l * 2).toNat = l.toNat * 2 ∧ 0 < l.toNat := by decide
  obtain ⟨hnmem, hnhalf, hnlt⟩ := hhalf _ htried.n hn
  obtain ⟨hlmem, hldouble, hlpos⟩ := hdouble _ htried.l hl
  have hnpos : 0 < (b.n / 2).toNat := Nat.pos_of_ne_zero fun hzero => by
    have hpfd := htried.pfd_ge
    rw [hnhalf, hzero] at hpfd
    simp at hpfd
  have hpfd : 61440 ≤ fref.toNat / (b.n / 2).toNat :=
    htried.pfd_ge.trans (Nat.div_le_div_left (by omega) hnpos)
  have hother : AtxParams.Tried fref ⟨b.n / 2, b.m, b.l * 2⟩ :=
    ⟨hnmem, hlmem, hpfd, htried.mul_ge, htried.mul_le, htried.m_ge, htried.m_le⟩
  have hrate : atxRate fref ⟨b.n / 2, b.m, b.l * 2⟩ = atxRate fref b := by
    obtain ⟨hvco, hrate⟩ := atx_exact htried.n htried.l hdvd
    obtain ⟨hvco', hrate'⟩ := @atx_exact fref ⟨b.n / 2, b.m, b.l * 2⟩ hnmem hlmem hdvd
    dsimp only at hvco' hrate'
    have htwice : atxVco fref ⟨b.n / 2, b.m, b.l * 2⟩ = atxVco fref b * 2 := by
      apply Nat.eq_of_mul_eq_mul_right hnpos
      rw [hvco', ← hvco, hnhalf]
      lia
    apply Nat.eq_of_mul_eq_mul_right (Nat.mul_pos hlpos Nat.two_pos)
    rw [← hldouble, hrate', htwice, hldouble]
    lia
  exact hnlt (kept_first hb (atx_mem_iff.mpr hother) (le_of_eq (by rw [hrate]))).1

/-- If there is a candidate, one of them is above what the settings within the limits can reach. -/
lemma exists_top (h : c ∈ atxCandidates fref) :
    ∃ t ∈ atxCandidates fref, ∀ s : AtxParams, s.Within fref → atxRate fref s < atxRate fref t := by
  have htried := atx_mem_iff.mp h
  have hpos : 0 < fref.toNat := Nat.pos_of_mul_pos_right (Nat.lt_of_lt_of_le (by decide) htried.mul_ge)
  have hsmall : fref.toNat * 8 ≤ 57600000 := (Nat.mul_le_mul_left _ htried.m_ge).trans htried.mul_le
  have hone : UInt32.toNat 1 = 1 := rfl
  have hm := (mem_atxMs hpos (by omega)).mpr ⟨⟨htried.mul_ge, htried.m_ge⟩, htried.mul_le, htried.m_le⟩
  have hmax := (mem_atxMs hpos (by omega)).mp (mem_forRange_iff.mpr ⟨(mem_forRange hm).1.trans (mem_forRange hm).2, le_rfl⟩)
  have hpfd : 61440 ≤ fref.toNat := htried.pfd_ge.trans (Nat.div_le_self _ _)
  have htop : 7202880 ≤ fref.toNat * (atxMMax fref).toNat := by
    have h127 : (127 : UInt32).toNat = 127 := rfl
    have hbound : (A10_ATX_PLL_VCO_MAX / 2 * 8).toNat = 57600000 := rfl
    rw [atxMMax, UInt32.toNat_min, UInt32.toNat_div, h127, hbound]
    rcases min_choice (57600000 / fref.toNat) 127 with hmin | hmin
    · rw [hmin]
      have hmod := Nat.div_add_mod 57600000 fref.toNat
      have hlt := Nat.mod_lt 57600000 hpos
      omega
    · rw [hmin]
      omega
  refine ⟨⟨1, atxMMax fref, 1⟩, atx_mem_iff.mpr ?_, fun s hs => ?_⟩
  · refine ⟨List.mem_cons_self, List.mem_cons_self, ?_, hmax.1.1, hmax.2.1, hmax.1.2, hmax.2.2⟩
    rw [hone, Nat.div_one]
    exact hpfd
  · have hvco : atxVco fref s ≤ 14400000 := hs.vco_le
    calc atxRate fref s ≤ atxVco fref s * 2 := Nat.div_le_self _ _
      _ ≤ 14400000 * 2 := Nat.mul_le_mul_right 2 hvco
      _ < fref.toNat * (atxMMax fref).toNat * 2 * 2 := by omega
      _ = atxRate fref ⟨1, atxMMax fref, 1⟩ := by rw [atxRate, atxVco, hone, Nat.div_one, Nat.div_one]

/-- From 2^31 - 1 on the search is right if and only if no distance is undefined and nothing is kept. -/
lemma atxSearchSound_far_iff (hfref : fref ≠ 0) (hfout : 2 ^ 31 - 1 ≤ fout.toNat) : AtxSearchSound fref fout ↔
    ∀ c ∈ atxCandidates fref,
      atxRate fref c + 2 ^ 31 ≠ fout.toNat ∧ atxRate fref c + 2 ^ 32 ≤ 2 * fout.toNat + 1 := by
  obtain ⟨hrate, hout⟩ := @atx_rates fref
  rw [atxSearchSound_iff_search hfref, search_good_iff hout]
  rcases hfout.eq_or_lt with heq | hfar
  · constructor
    · rintro ⟨hnil | ⟨hne, -⟩, -⟩
      · rw [hnil]
        exact fun c hc => absurd hc List.not_mem_nil
      · exact absurd (atx_start_iff.mpr heq.symm) hne
    · intro h
      have hnil : atxCandidates fref = [] := by
        refine List.eq_nil_iff_forall_not_mem.mpr fun c hc => ?_
        have hle := (h c hc).2
        omega
      rw [hnil]
      exact ⟨Or.inl rfl, fun b hb => absurd (isKept_of_argmin hb).mem List.not_mem_nil⟩
  · have hiff : ∀ c ∈ atxCandidates fref, _ ↔ _ := fun c hc => (atx_allowed hc).far_iff (Nat.succ_le_of_lt hfar)
    constructor
    · rintro ⟨hnil | ⟨-, hdefined⟩, hgood⟩ c hc
      · rw [hnil] at hc
        exact absurd hc List.not_mem_nil
      · refine (hiff c hc).mp ⟨hdefined c hc, Nat.le_of_not_lt fun hlt => ?_⟩
        -- the top candidate is nearer than the settings within the limits, so that none of these is kept
        obtain ⟨b, hb⟩ := exists_argmin_some hc hlt
        obtain ⟨hnearest, hreal⟩ := hgood b hb
        have hkept := isKept_of_argmin hb
        obtain ⟨t, ht, habove⟩ := exists_top hc
        have hle : gap (atxRate fref b) fout.toNat ≤ gap (atxRate fref t) fout.toNat := by
          rw [← hreal b hkept.mem, ← hreal t ht]
          exact hkept.le t ht
        have hlow := habove b hnearest.within
        have htop := (atx_allowed ht).atxRate_lt
        unfold gap at hle
        omega
    · intro h
      refine ⟨Or.inr ⟨mt atx_start_iff.mp (by omega), fun c hc => ((hiff c hc).mpr (h c hc)).1⟩, fun b hb => ?_⟩
      have hkept := isKept_of_argmin hb
      exact absurd ((hiff b hkept.mem).mpr (h b hkept.mem)).2 (Nat.not_le.mpr hkept.lt)

lemma AtxParams.Tried.within_of_one (h : c.Tried fref) (hn : c.n = 1) (hpfd : fref.toNat ≤ 800000)
    (hmul : fref.toNat * c.m.toNat ≤ 7200000) : c.Within fref := by
  have hone : c.n.toNat = 1 := congrArg UInt32.toNat hn
  have hvco : atxVco fref c = fref.toNat * c.m.toNat * 2 := by rw [atxVco, hone, Nat.div_one]
  have hge := h.pfd_ge
  have hmul' := h.mul_ge
  rw [hone, Nat.div_one] at hge
  constructor
  · rw [hone, Nat.div_one]
    exact hge
  · rw [hone, Nat.div_one]
    exact hpfd
  · rw [hvco]
    change 7200000 ≤ _
    omega
  · rw [hvco]
    change _ ≤ 14400000
    omega
  · exact h.m_ge
  · exact h.m_le
  · exact h.n
  · exact h.l

/-- The rates that are not rounded and at least as close as a close one are equal to it. -/
lemma AtxParams.Near.rate_eq {b : AtxParams} (h : c.Near fref fout) (hc : c.Tried fref) (hb : b.Tried fref)
    (hle : gap (atxRate fref b) fout.toNat ≤ gap (atxRate fref c) fout.toNat) : atxRate fref b = atxRate fref c := by
  obtain ⟨g, -, -, -, hround⟩ := atx_grid hc.n hc.l
  obtain ⟨g', -, -, -, hround'⟩ := atx_grid hb.n hb.l
  have hg := hround h.dvd
  have hg' := hround' h.dvd
  have hlt := h.lt
  have hapart := apart (2 * fref.toNat) g g'
  rw [← hg, ← hg'] at hapart
  unfold gap at hle hlt
  rcases hapart with rfl | hmul | hmul
  · omega
  · omega
  · omega

lemma AtxParams.Near.of_le {b : AtxParams} (h : c.Near fref fout)
    (hle : gap (atxRate fref b) fout.toNat ≤ gap (atxRate fref c) fout.toNat) : b.Near fref fout :=
  ⟨h.dvd, (Nat.mul_le_mul_left 64 hle).trans_lt h.lt⟩

lemma AtxParams.Near.accepted (h : c.Near fref fout) (hc : c.Tried fref) :
    fout.toNat < 2 ^ 31 - 1 ∧ gap (atxRate fref c) fout.toNat ≤ fout.toNat := by
  have hrate := (atx_allowed (atx_mem_iff.mpr hc)).atxRate_lt
  have hmul := (atx_allowed (atx_mem_iff.mpr hc)).mul_le
  have hlt := h.lt
  have hk : ∀ n ∈ ([1, 2, 4, 8] : List UInt32), ∀ l ∈ ([1, 2, 4, 8, 16] : List UInt32), l.toNat * n.toNat ≤ 128 := by
    decide
  obtain ⟨hvco, hexact⟩ := atx_exact hc.n hc.l h.dvd
  have hproduct : atxRate fref c * (c.l.toNat * c.n.toNat) = fref.toNat * c.m.toNat * 4 := by
    rw [← Nat.mul_assoc, hexact, Nat.mul_right_comm, hvco]
    lia
  have hle : fref.toNat * 8 * 4 ≤ atxRate fref c * 128 :=
    calc fref.toNat * 8 * 4 ≤ fref.toNat * c.m.toNat * 4 := Nat.mul_le_mul_right 4 (Nat.mul_le_mul_left _ hc.m_ge)
      _ = atxRate fref c * (c.l.toNat * c.n.toNat) := hproduct.symm
      _ ≤ atxRate fref c * 128 := Nat.mul_le_mul_left _ (hk _ hc.n _ hc.l)
  unfold gap at hlt ⊢
  omega

lemma atxSearchSound_of_nil (hfref : fref ≠ 0) (h : ∀ c : AtxParams, ¬c.Tried fref) : AtxSearchSound fref fout := by
  rcases Nat.lt_or_ge fout.toNat (2 ^ 31 - 1) with hnear | hfar
  · exact (atxSearchSound_iff_kept hfref hnear).mpr fun b hb => absurd (atx_mem_iff.mp (atx_kept hnear hb).mem) (h b)
  · exact (atxSearchSound_far_iff hfref hfar).mpr fun c hc => absurd (atx_mem_iff.mp hc) (h c)

/-- What is kept for a rate a little above that of a setting which does not divide the reference -/
lemma atxSearchSound_of_above (hfref : fref ≠ 0) (hc : c.Within fref) (hn : c.n = 1)
    (hle : atxRate fref c ≤ fout.toNat) (hnear : 64 * (fout.toNat - atxRate fref c) + 96 ≤ fref.toNat) :
    AtxSearchSound fref fout := by
  have htried := hc.tried (Or.inl hn)
  have hrate := hc.rate_bounds
  have hone : c.n.toNat = 1 := congrArg UInt32.toNat hn
  have hpfd : fref.toNat / c.n.toNat ≤ 800000 := hc.pfd_le
  have hvco : atxVco fref c ≤ 14400000 := hc.vco_le
  rw [hone, Nat.div_one] at hpfd
  rw [atxVco, hone, Nat.div_one] at hvco
  have hfout : fout.toNat < 2 ^ 31 - 1 := by omega
  obtain ⟨g, hlow, -, hexact, -⟩ := atx_grid hc.n hc.l
  have hnearest : ∀ t : AtxParams, t.n ∈ ([1, 2, 4, 8] : List UInt32) → t.l ∈ ([1, 2, 4, 8, 16] : List UInt32) →
      gap (atxRate fref c) fout.toNat ≤ gap (atxRate fref t) fout.toNat := by
    intro t htn htl
    obtain ⟨g', hlow', hhigh', -, -⟩ := atx_grid htn htl
    exact near_grid hlow (hexact hn) hlow' hhigh' (Or.inl ⟨hle, by omega⟩)
  refine (atxSearchSound_iff_kept hfref hfout).mpr fun b hb => ?_
  have hkept := atx_kept hfout hb
  have hb := atx_mem_iff.mp hkept.mem
  obtain ⟨hbn, hbm⟩ := kept_first hkept (atx_mem_iff.mpr htried) (hnearest b hb.n hb.l)
  have hleast : ∀ n ∈ ([1, 2, 4, 8] : List UInt32), n ≤ 1 → n = 1 := by decide
  have hbone : b.n = 1 := hleast b.n hb.n (hn ▸ hbn)
  have hm : b.m.toNat ≤ c.m.toNat := UInt32.le_iff_toNat_le.mp (hbm (hbone.trans hn.symm))
  have hmul : fref.toNat * b.m.toNat ≤ fref.toNat * c.m.toNat := Nat.mul_le_mul_left _ hm
  refine ⟨hb.within_of_one hbone hpfd (by omega), fun t ht => ?_⟩
  exact (hkept.le c (atx_mem_iff.mpr htried)).trans (hnearest t ht.n ht.l)

/-- What is kept for a rate that is close to one of a setting which does not divide the reference or has the largest
`l` -/
lemma atxSearchSound_of_near (hfref : fref ≠ 0) (hc : c.Within fref) (hnear : c.Near fref fout)
    (hfirst : c.n = 1 ∨ c.l = 16)
    (hpfd : ∀ d ∈ atxCandidates fref, d.Near fref fout → fref.toNat / d.n.toNat ≤ A10_ATX_PLL_PFD_MAX.toNat) :
    AtxSearchSound fref fout := by
  have htried := hc.tried (Or.inr hnear.dvd)
  obtain ⟨hfout, -⟩ := hnear.accepted htried
  refine (atxSearchSound_iff_kept hfref hfout).mpr fun b hb => ?_
  have hkept := atx_kept hfout hb
  have hb := atx_mem_iff.mp hkept.mem
  have hclose : gap (atxRate fref b) fout.toNat ≤ gap (atxRate fref c) fout.toNat :=
    hkept.le c (atx_mem_iff.mpr htried)
  have hrate := hnear.rate_eq htried hb hclose
  have hpfd := hpfd b hkept.mem (hnear.of_le hclose)
  obtain ⟨hbn, hbm⟩ := kept_first hkept (atx_mem_iff.mpr htried) (le_of_eq (by rw [hrate]))
  obtain ⟨-, hexact⟩ := atx_exact hc.n hc.l hnear.dvd
  obtain ⟨hvco', hexact'⟩ := atx_exact hb.n hb.l hnear.dvd
  have hmin : 7200000 ≤ atxVco fref c := hc.vco_ge
  have hmax : atxVco fref c ≤ 14400000 := hc.vco_le
  have hlast : ∀ l ∈ ([1, 2, 4, 8, 16] : List UInt32), l.toNat ≤ 16 := by decide
  refine ⟨?_, fun t ht => hkept.le t (atx_mem_iff.mpr (ht.tried (Or.inr hnear.dvd)))⟩
  by_cases hbone : b.n = 1
  · have hone : b.n.toNat = 1 := congrArg UInt32.toNat hbone
    rw [hone, Nat.div_one] at hpfd
    refine hb.within_of_one hbone hpfd ?_
    rcases hfirst with hn | hl
    · -- the smallest `m` has the smallest VCO
      have hm : b.m.toNat ≤ c.m.toNat := UInt32.le_iff_toNat_le.mp (hbm (hbone.trans hn.symm))
      have hmul : fref.toNat * b.m.toNat ≤ fref.toNat * c.m.toNat := Nat.mul_le_mul_left _ hm
      rw [atxVco, hn] at hmax
      change fref.toNat * c.m.toNat * 2 / 1 ≤ _ at hmax
      omega
    · -- the largest `l` has the largest VCO
      have hl : c.l.toNat = 16 := congrArg UInt32.toNat hl
      have hle : atxRate fref b * b.l.toNat ≤ atxRate fref c * c.l.toNat :=
        Nat.mul_le_mul hrate.le (hl ▸ hlast _ hb.l)
      rw [hone] at hvco'
      omega
  · -- both have the largest `l`
    have hleast : ∀ n ∈ ([1, 2, 4, 8] : List UInt32), n ≤ 1 → n = 1 := by decide
    have hbl : b.l.toNat = 16 := congrArg UInt32.toNat ((kept_half hnear.dvd hkept).resolve_left hbone)
    have hl : c.l.toNat = 16 := congrArg UInt32.toNat
      (hfirst.resolve_left fun hn => hbone (hleast b.n hb.n (hn ▸ hbn)))
    rw [hrate, hbl] at hexact'
    rw [hl] at hexact
    have hvco : atxVco fref b = atxVco fref c := by omega
    exact ⟨hb.pfd_ge, hpfd, hvco ▸ hc.vco_ge, hvco ▸ hc.vco_le, hb.m_ge, hb.m_le, hb.n, hb.l⟩

theorem atxSearchSound_of_inLimits (hfref : fref ≠ 0) (h : AtxInLimits fref fout) : AtxSearchSound fref fout := by
  cases h with
  | lowReference h =>
    refine atxSearchSound_of_nil hfref fun c hc => ?_
    have hle := hc.pfd_ge.trans (Nat.div_le_self _ _)
    omega
  | highReference h =>
    refine atxSearchSound_of_nil hfref fun c hc => ?_
    have hle := (Nat.mul_le_mul_left fref.toNat hc.m_ge).trans hc.mul_le
    omega
  | lowRate h =>
    have hfout : fout.toNat < 2 ^ 31 - 1 := by omega
    refine (atxSearchSound_iff_kept hfref hfout).mpr fun b hb => ?_
    have hkept := atx_kept hfout hb
    have hlt : gap (atxRate fref b) fout.toNat < fout.toNat + 1 := hkept.lt
    have hge := (atx_mem_iff.mp hkept.mem).rate_ge
    unfold gap at hlt
    omega
  | farRate h hfar => exact (atxSearchSound_far_iff hfref h).mpr hfar
  | above c hc hn hle hnear => exact atxSearchSound_of_above hfref hc hn hle hnear
  | near c hc hnear hfirst hpfd => exact atxSearchSound_of_near hfref hc hnear hfirst hpfd

theorem not_atxSearchSound_of_beyond (hfref : fref ≠ 0) (h : AtxBeyond fref fout) : ¬AtxSearchSound fref fout := by
  intro hsound
  cases h with
  | wrapped c h hc hfar =>
    obtain ⟨hne, hle⟩ := (atxSearchSound_far_iff hfref h).mp hsound c hc
    omega
  | outside c h hc hle hout =>
    obtain ⟨b, hb, hclose⟩ := atx_exists_kept h hc (by unfold gap; omega)
    have hwithin := ((atxSearchSound_iff_kept hfref h).mp hsound b hb).within
    have hrate := hwithin.rate_bounds
    have hn : ∀ n ∈ ([1, 2, 4, 8] : List UInt32), 0 < n.toNat ∧ n.toNat ≤ 8 := by decide
    have hpfd : fref.toNat / 8 ≤ 800000 :=
      (Nat.div_le_div_left (hn _ hwithin.n).2 (hn _ hwithin.n).1).trans hwithin.pfd_le
    unfold gap at hclose hout
    omega
  | near c hc hnear hout =>
    have htried := atx_mem_iff.mp hc
    obtain ⟨hfout, haccepted⟩ := hnear.accepted htried
    obtain ⟨b, hb, hclose⟩ := atx_exists_kept hfout hc haccepted
    have hwithin := ((atxSearchSound_iff_kept hfref hfout).mp hsound b hb).within
    have hkept := atx_kept hfout hb
    rcases hout with ⟨d, hd, hdnear, hpfd⟩ | hall
    · -- the first of the settings with this rate has the smallest `n`
      have hb := atx_mem_iff.mp hkept.mem
      have hdc : atxRate fref d = atxRate fref b := by
        rcases le_total (gap (atxRate fref b) fout.toNat) (gap (atxRate fref d) fout.toNat) with hle | hle
        · exact (hdnear.rate_eq (atx_mem_iff.mp hd) hb hle).symm
        · exact (hnear.of_le hclose).rate_eq hb (atx_mem_iff.mp hd) hle
      have hle := (kept_first hkept hd (le_of_eq (by rw [hdc]))).1
      have hn : ∀ n ∈ ([1, 2, 4, 8] : List UInt32), 0 < n.toNat := by decide
      have hdiv : fref.toNat / d.n.toNat ≤ fref.toNat / b.n.toNat :=
        Nat.div_le_div_left (UInt32.le_iff_toNat_le.mp hle) (hn _ hb.n)
      exact absurd (hdiv.trans hwithin.pfd_le) (Nat.not_le.mpr hpfd)
    · obtain ⟨hn, hl⟩ := hall b hwithin (hnear.of_le hclose)
      rcases kept_half hnear.dvd hkept with hone | hlast
      · exact hn hone
      · exact hl hlast

end Transmitters

end NoOS
