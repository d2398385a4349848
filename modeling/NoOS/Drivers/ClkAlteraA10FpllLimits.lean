import Mathlib.Algebra.Order.Field.Rat
import Mathlib.Tactic.Ring
import NoOS.Drivers.ClkAlteraA10FpllReadBack

/-!
# The limits of the fractional PLL

The pairs of the search are the ones within the limits of the phase detector and the VCO, with the parity of the
first `m`. As `round_up` divides, the first `m` may be odd, and then every `m` is.
-/

namespace NoOS

/-- The least `n` for a reference of `F` kHz -/
def leastN (F : ℕ) : ℕ := max ((F + 59999) / 60000) 1

/-- The `m` that the loop begins with -/
def firstM (F : ℕ) : ℕ := (max ((2400000 + F - 1) / F * leastN F) 8 + 1) / 2

/-- Counters within the limits for a reference of `F` kHz -/
structure FpllLegal (F m n : ℕ) : Prop where
  m_le : m ≤ 127
  n_pos : 1 ≤ n
  n_le : n ≤ 31
  pfd_ge : 25000 * n ≤ F
  pfd_le : F ≤ 60000 * n
  vco_ge : 2400000 * n ≤ F * m
  vco_le : F * m ≤ 7012500 * n

section Pairs

variable {F m n : ℕ}

lemma FpllLegal.m_ge (h : FpllLegal F m n) : 40 ≤ m := by
  by_contra hlt
  have hn := h.n_pos
  have hpfd := h.pfd_le
  have hvco := h.vco_ge
  have hmul : F * m ≤ 60000 * n * 39 := Nat.mul_le_mul hpfd (by omega)
  omega

lemma FpllLegal.firstM_le (h : FpllLegal F m n) : firstM F ≤ m := by
  have hm := h.m_ge
  have hpfd := h.pfd_le
  have hpfd' := h.pfd_ge
  have hn := h.n_pos
  have hnle := h.n_le
  have hF : 0 < F := by omega
  have hleast : leastN F ≤ n := by
    rw [leastN]
    omega
  have hceil : (2400000 + F - 1) / F * F ≤ 2400000 + F - 1 := Nat.div_mul_le_self _ _
  have hproduct : (2400000 + F - 1) / F * leastN F ≤ 2 * m := by
    apply Nat.le_of_mul_le_mul_right _ hF
    calc (2400000 + F - 1) / F * leastN F * F = (2400000 + F - 1) / F * F * leastN F := Nat.mul_right_comm _ _ _
      _ ≤ (2400000 + F - 1) * n := Nat.mul_le_mul hceil hleast
      _ ≤ 4800000 * n := Nat.mul_le_mul_right n (by omega)
      _ ≤ 2 * m * F := by
        have hvco := h.vco_ge
        rw [Nat.mul_assoc, Nat.mul_comm m]
        omega
  rw [firstM]
  omega

end Pairs

section Loops

variable {fref fout : UInt32} {p : UInt32 × UInt32} {F G : ℕ}

lemma toNat_fpllNMin (hF : fref.toNat = F) (hmax : F < 4294968) : (fpllNMin fref).toNat = leastN F := by
  have h60000 : A10_FPLL_PFD_MAX.toNat = 60000 := rfl
  have hone : (1 : UInt32).toNat = 1 := rfl
  rw [fpllNMin, UInt32.toNat_max, toNat_divRoundUp (by decide) (by rw [h60000]; omega), hF, h60000, hone, leastN]
  lia

lemma toNat_fpllNMax (hF : fref.toNat = F) : (fpllNMax fref).toNat = min (F / 25000) 31 := by
  have h25000 : A10_FPLL_PFD_MIN.toNat = 25000 := rfl
  have h31 : (31 : UInt32).toNat = 31 := rfl
  rw [fpllNMax, UInt32.toNat_min, UInt32.toNat_div, hF, h25000, h31]

lemma firstM_product (hpos : 0 < F) (hmax : F < 4294968) : (2400000 + F - 1) / F * leastN F < 2 ^ 23 := by
  rcases Nat.lt_or_ge F 60001 with hlow | hhigh
  · have hleast : leastN F = 1 := by
      rw [leastN]
      omega
    have hdiv : (2400000 + F - 1) / F ≤ 2400000 + F - 1 := Nat.div_le_self _ _
    rw [hleast, Nat.mul_one]
    omega
  · have hleast : leastN F ≤ 72 := by
      rw [leastN]
      omega
    have hdiv : (2400000 + F - 1) / F ≤ 40 := by
      rw [Nat.div_le_iff_le_mul_add_pred hpos]
      omega
    calc (2400000 + F - 1) / F * leastN F ≤ 40 * 72 := Nat.mul_le_mul hdiv hleast
      _ < 2 ^ 23 := by decide

lemma toNat_fpllMMin (hF : fref.toNat = F) (hpos : 0 < F) (hmax : F < 4294968) :
    (fpllMMin fref).toNat = firstM F := by
  have hhalf : (A10_FPLL_VCO_MIN / 2).toNat = 2400000 := rfl
  have htwo : (2 : UInt32).toNat = 2 := rfl
  have height : (8 : UInt32).toNat = 8 := rfl
  have hproduct := firstM_product hpos hmax
  have hceil : (divRoundUp (A10_FPLL_VCO_MIN / 2) fref).toNat = (2400000 + F - 1) / F := by
    rw [toNat_divRoundUp (by omega) (by rw [hhalf]; omega), hhalf, hF]
  have hmul : (divRoundUp (A10_FPLL_VCO_MIN / 2) fref * fpllNMin fref).toNat = (2400000 + F - 1) / F * leastN F := by
    rw [UInt32.toNat_mul, hceil, toNat_fpllNMin hF hmax]
    exact Nat.mod_eq_of_lt (by omega)
  change (divRoundUp (max (divRoundUp (A10_FPLL_VCO_MIN / 2) fref * fpllNMin fref) 8) 2).toNat = _
  rw [toNat_divRoundUp (by decide) (by rw [UInt32.toNat_max, hmul, height, htwo]; omega), UInt32.toNat_max, hmul,
    height, htwo, firstM, Nat.add_sub_assoc (by decide : 1 ≤ 2)]

lemma toNat_fpllMMax (hF : fref.toNat = F) : (fpllMMax fref).toNat = min (7012500 * min (F / 25000) 31 / F) 127 := by
  have hhalf : (A10_FPLL_VCO_MAX / 2).toNat = 7012500 := rfl
  have h127 : (127 : UInt32).toNat = 127 := rfl
  rw [fpllMMax, UInt32.toNat_min, UInt32.toNat_div, UInt32.toNat_mul, toNat_fpllNMax hF, hhalf, hF, h127,
    Nat.mod_eq_of_lt (by omega)]

lemma toNat_fref_mul {m : UInt32} (hF : fref.toNat = F) (hmax : F < 4294968) (hm : m.toNat ≤ 127) :
    (fref * m).toNat = F * m.toNat ∧ F * m.toNat < 2 ^ 30 := by
  have hlt : F * m.toNat < 2 ^ 30 := by
    calc F * m.toNat ≤ 4294967 * 127 := Nat.mul_le_mul (by omega) hm
      _ < 2 ^ 30 := by decide
  refine ⟨?_, hlt⟩
  rw [UInt32.toNat_mul, hF]
  exact Nat.mod_eq_of_lt (by omega)

lemma toNat_fpllNMinOf {m : UInt32} (hF : fref.toNat = F) (hmax : F < 4294968) (hm : m.toNat ≤ 127) :
    (fpllNMinOf fref m).toNat = max (leastN F) ((F * m.toNat + 7012500 - 1) / 7012500) := by
  obtain ⟨hmul, hlt⟩ := toNat_fref_mul hF hmax hm
  have hhalf : (A10_FPLL_VCO_MAX / 2).toNat = 7012500 := rfl
  rw [fpllNMinOf, UInt32.toNat_max, toNat_fpllNMin hF hmax, toNat_divRoundUp (by decide) (by rw [hmul, hhalf]; omega),
    hmul, hhalf]

lemma toNat_fpllNMaxOf {m : UInt32} (hF : fref.toNat = F) (hmax : F < 4294968) (hm : m.toNat ≤ 127) :
    (fpllNMaxOf fref m).toNat = min (min (F / 25000) 31) (F * m.toNat / 2400000) := by
  obtain ⟨hmul, -⟩ := toNat_fref_mul hF hmax hm
  have hhalf : (A10_FPLL_VCO_MIN / 2).toNat = 2400000 := rfl
  rw [fpllNMaxOf, UInt32.toNat_min, toNat_fpllNMax hF, UInt32.toNat_div, hmul, hhalf]

/-- The loops visit the counters within the limits that have the parity of the first `m`. -/
lemma mem_fpllPairs_iff (hF : fref.toNat = F) (hpos : 0 < F) (hmax : F < 4294968) : p ∈ fpllPairs fref ↔
    p.1.toNat % 2 = firstM F % 2 ∧ FpllLegal F p.1.toNat p.2.toNat := by
  obtain ⟨m, n⟩ := p
  have hmem : (m, n) ∈ fpllPairs fref ↔ m ∈ forStep 2 (fpllMMin fref) (fpllMMax fref) ∧
      n ∈ forRange (fpllNMinOf fref m) (fpllNMaxOf fref m) := by
    rw [fpllPairs, List.mem_flatMap]
    constructor
    · rintro ⟨m', hm, hp⟩
      obtain ⟨n', hn, heq⟩ := List.mem_map.mp hp
      obtain ⟨rfl, rfl⟩ := Prod.mk.inj heq
      exact ⟨hm, hn⟩
    · rintro ⟨hm, hn⟩
      exact ⟨m, hm, List.mem_map.mpr ⟨n, hn, rfl⟩⟩
  rw [hmem, mem_forStep_iff (by decide), mem_forRange_iff, toNat_fpllMMin hF hpos hmax, toNat_fpllMMax hF]
  have hlow_iff : ∀ a n, (a + 7012500 - 1) / 7012500 ≤ n ↔ a ≤ 7012500 * n := by lia
  have hpfd_iff : ∀ n, (F + 59999) / 60000 ≤ n ↔ F ≤ 60000 * n := by omega
  have hpfd_iff' : n.toNat ≤ F / 25000 ↔ 25000 * n.toNat ≤ F := by
    rw [Nat.le_div_iff_mul_le (by decide), Nat.mul_comm]
  have hhigh_iff : n.toNat ≤ F * m.toNat / 2400000 ↔ 2400000 * n.toNat ≤ F * m.toNat := by
    rw [Nat.le_div_iff_mul_le (by decide), Nat.mul_comm]
  constructor
  · rintro ⟨⟨hle, i, hi⟩, hlow, hhigh⟩
    have hm : m.toNat ≤ 127 := hle.trans (min_le_right _ _)
    rw [toNat_fpllNMinOf hF hmax hm, leastN, max_le_iff, max_le_iff, hlow_iff, hpfd_iff] at hlow
    rw [toNat_fpllNMaxOf hF hmax hm, le_min_iff, le_min_iff, hpfd_iff', hhigh_iff] at hhigh
    obtain ⟨⟨hpfd, hn⟩, hvco⟩ := hlow
    obtain ⟨⟨hpfd', hn31⟩, hvco'⟩ := hhigh
    have hparity : m.toNat % 2 = firstM F % 2 := by
      rw [hi, Nat.add_mul_mod_self_left]
    exact ⟨hparity, hm, hn, hn31, hpfd', hpfd, hvco', hvco⟩
  · rintro ⟨hparity, hlegal⟩
    have hfirst := hlegal.firstM_le
    have hlast : m.toNat ≤ 7012500 * min (F / 25000) 31 / F := by
      rw [Nat.le_div_iff_mul_le hpos, Nat.mul_comm]
      exact hlegal.vco_le.trans (Nat.mul_le_mul_left _ (le_min (hpfd_iff'.mpr hlegal.pfd_ge) hlegal.n_le))
    rw [toNat_fpllNMinOf hF hmax hlegal.m_le, toNat_fpllNMaxOf hF hmax hlegal.m_le, leastN]
    dsimp only at hparity hfirst
    refine ⟨⟨le_min hlast hlegal.m_le, (m.toNat - firstM F) / 2, by lia⟩, ?_, ?_⟩
    · exact max_le (max_le ((hpfd_iff _).mpr hlegal.pfd_le) hlegal.n_pos) ((hlow_iff _ _).mpr hlegal.vco_le)
    · exact le_min (le_min (hpfd_iff'.mpr hlegal.pfd_ge) hlegal.n_le) (hhigh_iff.mpr hlegal.vco_ge)

lemma toNat_fpllFvco (hF : fref.toNat = F) (hmax : F < 4294968) (hm : p.1.toNat ≤ 127) :
    (fpllFvco fref p).toNat = F * p.1.toNat * 2 / p.2.toNat ∧ (fpllFvco fref p).toNat < 2 ^ 31 := by
  obtain ⟨hmul, hlt⟩ := toNat_fref_mul hF hmax hm
  have htwo : (2 : UInt32).toNat = 2 := rfl
  have hfvco : (fpllFvco fref p).toNat = F * p.1.toNat * 2 / p.2.toNat := by
    rw [fpllFvco, UInt32.toNat_div, UInt32.toNat_mul, hmul, htwo, Nat.mod_eq_of_lt (by omega)]
  have hle : F * p.1.toNat * 2 / p.2.toNat ≤ F * p.1.toNat * 2 := Nat.div_le_self _ _
  exact ⟨hfvco, by omega⟩

/-- The output is at most twice the rate, unless the output counter cannot divide any further. -/
lemma fpllF_le_iff (hG : fout.toNat = G) (hpos : 0 < G) (hmax : G < 4294968)
    (hlt : (fpllFvco fref p).toNat < 2 ^ 31) :
    (fpllF fref fout p).toNat ≤ 2 * G ↔ (fpllFvco fref p).toNat / 2048 ≤ 2 * G := by
  have hfour : (fout * 4).toNat = 4 * G := by
    rw [UInt32.toNat_mul, hG, Nat.mul_comm]
    exact Nat.mod_eq_of_lt (by change 4 * G < _; omega)
  have hone : (1 : UInt32).toNat = 1 := rfl
  have h512 : (512 : UInt32).toNat = 512 := rfl
  have hround := toNat_divRoundClosest (by rw [hfour]; omega : (fpllFvco fref p).toNat + (fout * 4).toNat / 2 < 2 ^ 32)
  have hc0 : (fpllC0 fref fout p).toNat = max (min (((fpllFvco fref p).toNat + 2 * G) / (4 * G)) 512) 1 := by
    rw [fpllC0, clamp, UInt32.toNat_max, UInt32.toNat_min, hround, hfour, hone, h512]
    congr 4
    omega
  rw [toNat_fpllF, hc0]
  generalize (fpllFvco fref p).toNat = v at *
  have hquot := Nat.div_add_mod (v + 2 * G) (4 * G)
  have hrem := Nat.mod_lt (v + 2 * G) (by omega : 0 < 4 * G)
  generalize (v + 2 * G) / (4 * G) = c at *
  rcases Nat.lt_or_ge 512 c with hlarge | hsmall
  · rw [min_eq_right hlarge.le, max_eq_left (by decide)]
  · -- The output counter is a rounded quotient, and neither output is too large.
    rw [min_eq_left hsmall]
    have hcG : 4 * G * c ≤ 4 * G * 512 := Nat.mul_le_mul_left _ hsmall
    have hboth : v ≤ 2 * G * (max c 1 * 4) := by
      rcases Nat.eq_zero_or_pos c with rfl | hc
      · rw [Nat.max_eq_right (Nat.zero_le 1)]
        lia
      · have hG4 : 4 * G * 1 ≤ 4 * G * c := Nat.mul_le_mul_left _ hc
        have hexpand : 2 * G * (c * 4) = 4 * G * c + 4 * G * c := by ring
        rw [max_eq_left hc]
        lia
    exact iff_of_true (Nat.div_le_of_le_mul (by rwa [Nat.mul_comm])) (by lia)

end Loops

section Kept

variable {fref fout : UInt32} {p : UInt32 × UInt32} {F G : ℕ}

lemma fpllCost_some_lt_none (hG : fout.toNat = G) :
    fpllCost fref fout (some p) < fpllCost fref fout none ↔ (fpllF fref fout p).toNat ≤ 2 * G := by
  rw [fpllCost, fpllCost, hG]
  lia

lemma fpllClosest_some (h : fpllClosest fref fout = some p) :
    fpllCost fref fout (some p) < fpllCost fref fout none := by
  unfold fpllClosest at h
  cases hmin : (none :: (fpllPairs fref).map some).argmin (fpllCost fref fout) with
  | none =>
    rw [hmin] at h
    exact absurd h nofun
  | some best =>
    rw [hmin] at h
    obtain rfl : best = some p := h
    exact (FirstBest.eq_or_lt_of_mem_argmin hmin).resolve_left nofun

lemma fpllClosest_none (h : fpllClosest fref fout = none) (hp : p ∈ fpllPairs fref) :
    fpllCost fref fout none ≤ fpllCost fref fout (some p) := by
  unfold fpllClosest at h
  cases hmin : (none :: (fpllPairs fref).map some).argmin (fpllCost fref fout) with
  | none => exact absurd (List.argmin_eq_none.mp hmin) (List.cons_ne_nil _ _)
  | some best =>
    rw [hmin] at h
    obtain rfl : best = none := h
    exact List.le_of_mem_argmin (List.mem_cons_of_mem _ (List.mem_map_of_mem hp)) hmin

end Kept

/-- The dividers as they should be for a reference of `F` kHz. The feedback counter is programmed as `m / 2`. -/
structure FpllSound (F : ℕ) (best : FpllBest) : Prop where
  m_even : best.m.toNat % 2 = 0
  m_ge : 8 ≤ best.m.toNat
  m_le : best.m.toNat ≤ 127
  n_ge : 1 ≤ best.n.toNat
  n_le : best.n.toNat ≤ 31
  c0_ge : 1 ≤ best.c0.toNat
  c0_le : best.c0.toNat ≤ 512
  pfd_ge : (A10_FPLL_PFD_MIN.toNat : ℚ) ≤ F / best.n.toNat
  pfd_le : (F / best.n.toNat : ℚ) ≤ A10_FPLL_PFD_MAX.toNat
  vco_ge : (A10_FPLL_VCO_MIN.toNat : ℚ) ≤ 2 * F * best.m.toNat / best.n.toNat
  vco_le : (2 * F * best.m.toNat / best.n.toNat : ℚ) ≤ A10_FPLL_VCO_MAX.toNat

/-- The products of the search, without wrapping. Both rates are in kHz. -/
def fpllProducts (fref fout : UInt32) : List ℕ :=
  [(divRoundUp (A10_FPLL_VCO_MIN / 2) fref).toNat * (fpllNMin fref).toNat,
    (A10_FPLL_VCO_MAX / 2).toNat * (fpllNMax fref).toNat, fout.toNat * 4] ++
  (forStep 2 (fpllMMin fref) (fpllMMax fref)).map (fun m => fref.toNat * m.toNat) ++
  (fpllPairs fref).flatMap fun p => [(fref * p.1).toNat * 2, (fpllC0 fref fout p).toNat * 4]

section Sound

variable {fref fout : UInt32} {p : UInt32 × UInt32} {F G : ℕ}

lemma fpllProducts_lt (hF : fref.toNat = F) (hpos : 0 < F) (hmax : F < 4294968) (hG : fout.toNat = G)
    (hG' : G < 4294968) : ∀ x ∈ fpllProducts fref fout, x < 2 ^ 32 := by
  have hhalf : (A10_FPLL_VCO_MIN / 2).toNat = 2400000 := rfl
  have hhalf' : (A10_FPLL_VCO_MAX / 2).toNat = 7012500 := rfl
  intro x hx
  rw [fpllProducts, List.mem_append, List.mem_append] at hx
  rcases hx with (hx | hx) | hx
  · simp only [List.mem_cons, List.not_mem_nil, or_false] at hx
    rcases hx with rfl | rfl | rfl
    · have hproduct := firstM_product hpos hmax
      rw [toNat_divRoundUp (by omega) (by rw [hhalf]; omega), hhalf, hF, toNat_fpllNMin hF hmax]
      omega
    · rw [hhalf', toNat_fpllNMax hF]
      omega
    · omega
  · obtain ⟨m, hm, rfl⟩ := List.mem_map.mp hx
    have hle := ((mem_forStep_iff (by decide)).mp hm).1
    rw [toNat_fpllMMax hF] at hle
    rw [hF]
    have hlt := (toNat_fref_mul hF hmax (hle.trans (min_le_right _ _))).2
    omega
  · obtain ⟨p, hp, hx⟩ := List.mem_flatMap.mp hx
    obtain ⟨hmul, hlt⟩ := toNat_fref_mul hF hmax ((mem_fpllPairs_iff hF hpos hmax).mp hp).2.m_le
    have hc0 := (@fpllC0_mem fref fout p).2
    simp only [List.mem_cons, List.not_mem_nil, or_false] at hx
    rcases hx with rfl | rfl
    · omega
    · omega

lemma FpllLegal.sound (h : FpllLegal F p.1.toNat p.2.toNat) (heven : p.1.toNat % 2 = 0) :
    FpllSound F (.ofPair fref fout (some p)) := by
  have hc0 := @fpllC0_mem fref fout p
  have hpos : (0 : ℚ) < p.2.toNat := by exact_mod_cast h.n_pos
  have hvco : 4800000 * p.2.toNat ≤ 2 * F * p.1.toNat := by
    have hhalf := h.vco_ge
    rw [Nat.mul_assoc]
    omega
  have hvco' : 2 * F * p.1.toNat ≤ 14025000 * p.2.toNat := by
    have hhalf := h.vco_le
    rw [Nat.mul_assoc]
    omega
  refine ⟨heven, Nat.le_trans (by decide) h.m_ge, h.m_le, h.n_pos, h.n_le, hc0.1, hc0.2, ?_, ?_, ?_, ?_⟩
  · apply (le_div_iff₀ hpos).mpr
    exact_mod_cast h.pfd_ge
  · apply (div_le_iff₀ hpos).mpr
    exact_mod_cast h.pfd_le
  · apply (le_div_iff₀ hpos).mpr
    exact_mod_cast hvco
  · apply (div_le_iff₀ hpos).mpr
    exact_mod_cast hvco'

/-- Counters within the limits are visited, if `m` has the parity of the first one. -/
lemma FpllLegal.exists_pair {m n : ℕ} (hF : fref.toNat = F) (hpos : 0 < F) (hmax : F < 4294968) (h : FpllLegal F m n)
    (hparity : m % 2 = firstM F % 2) : ∃ p ∈ fpllPairs fref, p.1.toNat = m ∧ p.2.toNat = n := by
  have hm : (UInt32.ofNat m).toNat = m := UInt32.toNat_ofNat_of_lt' (h.m_le.trans_lt (by decide))
  have hn : (UInt32.ofNat n).toNat = n := UInt32.toNat_ofNat_of_lt' (h.n_le.trans_lt (by decide))
  refine ⟨(UInt32.ofNat m, UInt32.ofNat n), (mem_fpllPairs_iff hF hpos hmax).mpr ?_, hm, hn⟩
  rw [hm, hn]
  exact ⟨hparity, h⟩

lemma fpllCalcParams_eq (hfref : 1000 ≤ fref.toNat) (hfout : 1000 ≤ fout.toNat) : ∃ ret,
    alteraA10FpllCalcParams fref fout =
      some (ret, .ofPair (fref / 1000) (fout / 1000) (fpllClosest (fref / 1000) (fout / 1000))) := by
  have hkHz : ∀ x : UInt32, (x / 1000).toNat = x.toNat / 1000 := fun x => UInt32.toNat_div x 1000
  have hfref0 : fref / 1000 ≠ 0 := Word.ne_zero_of_pos (by rw [hkHz]; omega)
  have h4 : fout / 1000 * 4 ≠ 0 := by
    apply Word.ne_zero_of_pos
    have hlt := fout.toNat_lt
    have hmul : (fout / 1000 * 4).toNat = fout.toNat / 1000 * 4 := by
      rw [UInt32.toNat_mul, hkHz]
      exact Nat.mod_eq_of_lt (by change _ * 4 < _; omega)
    omega
  obtain ⟨ret, hsearch⟩ := @fpllSearch_closest (fref / 1000) _ (toNat_kHz_lt fout) h4
  exact ⟨ret, (if_neg hfref0).trans hsearch⟩

end Sound

/-- The dividers that the search finds are sound, and no product of it wraps. -/
def FpllSearchSound (fref fout : UInt32) : Prop :=
  (∀ x ∈ fpllProducts (fref / 1000) (fout / 1000), x < 2 ^ 32) ∧
    ∃ ret best, alteraA10FpllCalcParams fref fout = some (ret, best) ∧
      (best.n ≠ 0 ∧ best.m ≠ 0 ∧ best.c0 ≠ 0 → FpllSound (fref.toNat / 1000) best)

/-- The search is sound for the references whose first `m` is even. For the others it is only sound if it finds
nothing, as every pair within the limits has an output above twice the rate. -/
theorem fpllSearchSound_iff {fref fout : UInt32} (hfref : 1000 ≤ fref.toNat) (hfout : 1000 ≤ fout.toNat) :
    FpllSearchSound fref fout ↔ firstM (fref.toNat / 1000) % 2 = 0 ∨
      ∀ m n, FpllLegal (fref.toNat / 1000) m n → m % 2 = 1 →
        2 * (fout.toNat / 1000) < fref.toNat / 1000 * m * 2 / n / 2048 := by
  have hF : (fref / 1000).toNat = fref.toNat / 1000 := UInt32.toNat_div fref 1000
  have hG : (fout / 1000).toNat = fout.toNat / 1000 := UInt32.toNat_div fout 1000
  have hfreflt := fref.toNat_lt
  have hfoutlt := fout.toNat_lt
  have hpos : 0 < fref.toNat / 1000 := by omega
  have hmax : fref.toNat / 1000 < 4294968 := by omega
  have hG' : fout.toNat / 1000 < 4294968 := by omega
  obtain ⟨ret, hcalc⟩ := fpllCalcParams_eq hfref hfout
  have hkept : ∀ p ∈ fpllPairs (fref / 1000),
      fpllCost (fref / 1000) (fout / 1000) (some p) < fpllCost (fref / 1000) (fout / 1000) none ↔
        fref.toNat / 1000 * p.1.toNat * 2 / p.2.toNat / 2048 ≤ 2 * (fout.toNat / 1000) := by
    intro p hp
    have hm := ((mem_fpllPairs_iff hF hpos hmax).mp hp).2.m_le
    obtain ⟨hfvco, hlt⟩ := @toNat_fpllFvco _ p _ hF hmax hm
    rw [fpllCost_some_lt_none hG, fpllF_le_iff hG (by omega) hG' hlt, hfvco]
  rw [FpllSearchSound]
  generalize fref.toNat / 1000 = F at *
  generalize fout.toNat / 1000 = G at *
  constructor
  · rintro ⟨-, ret', best, hbest, hsound⟩
    rw [hcalc, Option.some.injEq, Prod.mk.injEq] at hbest
    obtain ⟨-, rfl⟩ := hbest
    by_cases heven : firstM F % 2 = 0
    · exact Or.inl heven
    · apply Or.inr
      intro m n hlegal hodd
      obtain ⟨p, hp, rfl, rfl⟩ := hlegal.exists_pair hF hpos hmax (by omega)
      cases hclosest : fpllClosest (fref / 1000) (fout / 1000) with
      | none =>
        have hnone := fpllClosest_none hclosest hp
        rw [← not_lt, hkept p hp, not_le] at hnone
        exact hnone
      | some q =>
        -- The pair that is kept has an odd `m`.
        obtain ⟨hparity, hq⟩ := (mem_fpllPairs_iff hF hpos hmax).mp (fpllClosest_mem hclosest)
        rw [hclosest] at hsound
        have hm := hq.m_ge
        have hnonzero : q.2 ≠ 0 ∧ q.1 ≠ 0 ∧ fpllC0 (fref / 1000) (fout / 1000) q ≠ 0 :=
          ⟨Word.ne_zero_of_pos hq.n_pos, Word.ne_zero_of_pos (by omega), Word.ne_zero_of_pos fpllC0_mem.1⟩
        have hqeven : q.1.toNat % 2 = 0 := (hsound hnonzero).m_even
        omega
  · intro hcond
    refine ⟨fpllProducts_lt hF hpos hmax hG hG', ret, _, hcalc, ?_⟩
    rintro ⟨hn, -, -⟩
    cases hclosest : fpllClosest (fref / 1000) (fout / 1000) with
    | none =>
      rw [hclosest] at hn
      exact absurd rfl hn
    | some q =>
      have hmem := fpllClosest_mem hclosest
      obtain ⟨hparity, hq⟩ := (mem_fpllPairs_iff hF hpos hmax).mp hmem
      apply hq.sound
      rcases hcond with heven | hnone
      · rw [hparity, heven]
      · by_contra hodd
        have hle := (hkept q hmem).mp (fpllClosest_some hclosest)
        exact absurd (hnone _ _ hq (by omega)) (not_lt.mpr hle)

theorem fpllSearchSound_100MHz : FpllSearchSound 100000000 122880000 := by
  have hiff := @fpllSearchSound_iff 100000000 122880000 (by decide) (by decide)
  have heven : firstM ((100000000 : UInt32).toNat / 1000) % 2 = 0 := by decide
  exact hiff.mpr (Or.inl heven)

/-- From 245.76 MHz the feedback counter should be 41.5 for 100 MHz. -/
theorem not_fpllSearchSound : ¬FpllSearchSound 245760000 100000000 := by
  have hcalc : alteraA10FpllCalcParams 245760000 100000000 = some (-1, ⟨99990, 6, 83, 17, 6799360⟩) := by
    decide +kernel
  rintro ⟨-, ret, best, hbest, hsound⟩
  rw [hcalc, Option.some.injEq, Prod.mk.injEq] at hbest
  obtain ⟨-, rfl⟩ := hbest
  have heven := (hsound ⟨by decide, by decide, by decide⟩).m_even
  exact absurd heven (by decide)

end NoOS
