import Mathlib.Order.Lattice
import Mathlib.Tactic.Ring
import NoOS.Drivers.Ad9517

/-!
# The divider searches of the clock generator

The loops visit the products of two factors of at most 32 in their order, so that a search ends at the two of them
around the wanted divider, and goes on for ever where there is none above it.
-/

namespace NoOS

/-- A product of two factors that a divider has. -/
def IsProduct (d : ℕ) : Prop := ∃ a b, 1 ≤ a ∧ a ≤ 32 ∧ 1 ≤ b ∧ b ≤ 32 ∧ d = a * b

variable {d k n i q : ℕ}

lemma IsProduct.pos (h : IsProduct d) : 1 ≤ d := by
  obtain ⟨a, b, ha, -, hb, -, rfl⟩ := h
  exact Nat.mul_pos ha hb

lemma IsProduct.le (h : IsProduct d) : d ≤ 1024 := by
  obtain ⟨a, b, -, ha, -, hb, rfl⟩ := h
  exact Nat.mul_le_mul ha hb

lemma isProduct_of_le (hpos : 1 ≤ d) (hle : d ≤ 32) : IsProduct d :=
  ⟨d, 1, hpos, hle, Nat.le_refl 1, by decide, (Nat.mul_one d).symm⟩

lemma IsProduct.exists_next (h : IsProduct d) (hlt : d < 1024) : ∃ e, IsProduct e ∧ d < e ∧ e ≤ 2 * d := by
  obtain ⟨a, b, ha, ha', hb, hb', rfl⟩ := h
  by_cases hfull : a = 32
  · rw [hfull] at hlt ⊢
    refine ⟨32 * (b + 1), ⟨32, b + 1, by decide, by decide, by lia, by lia, rfl⟩, ?_, ?_⟩
    · omega
    · lia
  · refine ⟨(a + 1) * b, ⟨a + 1, b, by lia, by lia, hb, hb', rfl⟩, ?_, ?_⟩
    · exact Nat.mul_lt_mul_of_pos_right (by omega) hb
    · rw [← Nat.mul_assoc]
      exact Nat.mul_le_mul_right b (by lia)

lemma dividersCheckerFrom_eq_zero (hi : 1 ≤ i) (hk : n < i + k) :
    dividersCheckerFrom n k i = 0 ↔ ∃ j, i ≤ j ∧ j * j ≤ n ∧ n % j = 0 ∧ j ≤ 32 ∧ n / j ≤ 32 := by
  have hself : ∀ j, 1 ≤ j → j ≤ j * j := fun j hj => Nat.le_mul_of_pos_left j hj
  induction k generalizing i with
  | zero =>
    refine iff_of_false (by rw [dividersCheckerFrom]; decide) ?_
    rintro ⟨j, hj, hsq, -⟩
    have hle := hself j (by lia)
    lia
  | succ k ih =>
    rw [dividersCheckerFrom]
    by_cases hsq : i * i ≤ n
    · rw [if_pos hsq]
      by_cases hdiv : n % i = 0 ∧ i ≤ 32 ∧ n / i ≤ 32
      · rw [if_pos hdiv]
        exact iff_of_true rfl ⟨i, Nat.le_refl i, hsq, hdiv⟩
      · have hrest := @ih (i + 1) (by omega) (by lia)
        rw [if_neg hdiv]
        refine hrest.trans ⟨?_, ?_⟩
        · rintro ⟨j, hj, hjrest⟩
          exact ⟨j, by lia, hjrest⟩
        · rintro ⟨j, hj, hjsq, hjrest⟩
          have hne : j ≠ i := by
            rintro rfl
            exact hdiv hjrest
          exact ⟨j, by lia, hjsq, hjrest⟩
    · rw [if_neg hsq]
      refine iff_of_false (by decide) ?_
      rintro ⟨j, hj, hjsq, -⟩
      exact hsq ((Nat.mul_le_mul hj hj).trans hjsq)

lemma dividersChecker_eq_zero (hpos : 1 ≤ d) : dividersChecker d = 0 ↔ IsProduct d := by
  rw [dividersChecker, dividersCheckerFrom_eq_zero (Nat.le_refl 1) (by omega)]
  constructor
  · rintro ⟨j, hj, hsq, hmod, hle, hquot⟩
    have hmul : j * (d / j) = d := Nat.mul_div_cancel' (Nat.dvd_of_mod_eq_zero hmod)
    have hpos' : 1 ≤ d / j := Nat.pos_of_ne_zero fun hzero => by rw [hzero, Nat.mul_zero] at hmul; omega
    exact ⟨j, d / j, hj, hle, hpos', hquot, hmul.symm⟩
  · rintro ⟨a, b, ha, ha', hb, hb', rfl⟩
    rcases Nat.le_total a b with hab | hab
    · exact ⟨a, ha, Nat.mul_le_mul_left a hab, Nat.mul_mod_right a b, ha', by rwa [Nat.mul_div_cancel_left b ha]⟩
    · exact ⟨b, hb, Nat.mul_le_mul_right b hab, Nat.mul_mod_left a b, hb', by rwa [Nat.mul_div_cancel a hb]⟩

/-- No product lies between the two. -/
structure Next (d e : ℕ) : Prop where
  product : IsProduct e
  lt : d < e
  le : ∀ m, IsProduct m → d < m → e ≤ m

lemma skipDividers_ok (hpos : 1 ≤ d) {m : ℕ} (hm : IsProduct m) (hdm : d ≤ m) (hmk : m < d + k) :
    ∃ e, skipDividers k d = .ok e ∧ IsProduct e ∧ d ≤ e ∧ ∀ m, IsProduct m → d ≤ m → e ≤ m := by
  induction k generalizing d with
  | zero => lia
  | succ k ih =>
    rw [skipDividers]
    by_cases hd : IsProduct d
    · rw [if_neg (not_not_intro ((dividersChecker_eq_zero hpos).mpr hd))]
      exact ⟨d, rfl, hd, Nat.le_refl d, fun m _ h => h⟩
    · rw [if_pos (mt (dividersChecker_eq_zero hpos).mp hd)]
      have hne : d ≠ m := by
        rintro rfl
        exact hd hm
      obtain ⟨e, hrun, he, hle, hleast⟩ := ih (d := d + 1) (by omega) (by lia) (by lia)
      refine ⟨e, hrun, he, by lia, fun m hm hdm => hleast m hm ?_⟩
      have hne : d ≠ m := by
        rintro rfl
        exact hd hm
      lia

lemma skipDividers_hang (hd : 1024 < d) : skipDividers k d = .error .hang := by
  induction k generalizing d with
  | zero => rfl
  | succ k ih =>
    have hnone : ¬ IsProduct d := fun h => by have hle := h.le; omega
    rw [skipDividers, if_pos (mt (dividersChecker_eq_zero (by omega)).mp hnone), ih (by omega)]

lemma searchDividers_step {c f : ℕ} (hf : 0 < f) (hd : IsProduct d) (hq : d ≤ c / f) (hlt : d < 1024) (d₀ : ℕ) :
    ∃ e, Next d e ∧ searchDividers c f (k + 1) d₀ d = searchDividers c f k d e := by
  have hge : c / d ≥ f := (Nat.le_div_iff_mul_le hd.pos).mpr (Nat.mul_comm f d ▸ (Nat.le_div_iff_mul_le hf).mp hq)
  rw [searchDividers, if_pos hge]
  by_cases hsmall : d < 32
  · exact ⟨d + 1, ⟨isProduct_of_le (by lia) (by lia), by omega, fun m _ h => h⟩, by rw [if_pos hsmall]⟩
  · obtain ⟨m, hm, hdm, -⟩ := hd.exists_next hlt
    have hmax := hm.le
    obtain ⟨e, hrun, he, hle, hleast⟩ := skipDividers_ok (k := 1024) (d := d + 1) (by lia) hm (by lia) (by lia)
    refine ⟨e, ⟨he, by lia, fun m hm h => hleast m hm (by lia)⟩, ?_⟩
    rw [if_neg hsmall, hrun]
    rfl

lemma searchDividers_end {c f : ℕ} (hf : 0 < f) (hpos : 1 ≤ d) (hq : c / f < d) (d₀ : ℕ) :
    searchDividers c f (k + 1) d₀ d = .ok (d₀, d) := by
  have hlt : ¬ c / d ≥ f := by
    intro hge
    have hle := (Nat.le_div_iff_mul_le hf).mpr (Nat.mul_comm f d ▸ (Nat.le_div_iff_mul_le hpos).mp hge)
    lia
  rw [searchDividers, if_neg hlt]

/-- The two products around the quotient. -/
structure Around (q : ℕ) (dividers : ℕ × ℕ) : Prop where
  product : IsProduct dividers.1
  le : dividers.1 ≤ q
  lt : q < dividers.2
  next : Next dividers.1 dividers.2

lemma searchDividers_spec {c f : ℕ} (hf : 0 < f) (hd : IsProduct d) (hle : d ≤ c / f) (hmax : c / f < 1024)
    (hk : c / f + 1 < d + k) (d₀ : ℕ) : ∃ r, searchDividers c f k d₀ d = .ok r ∧ Around (c / f) r := by
  induction k generalizing d d₀ with
  | zero => lia
  | succ k ih =>
    obtain ⟨e, hnext, hrun⟩ := searchDividers_step (k := k) hf hd hle (by lia) d₀
    have hlt := hnext.lt
    rw [hrun]
    by_cases hin : e ≤ c / f
    · exact ih hnext.product hin (by lia) d
    · obtain _ | k := k
      · lia
      · exact ⟨(d, e), searchDividers_end hf hnext.product.pos (by omega) d, hd, hle, by omega, hnext⟩

lemma searchDividers_hang {c f : ℕ} (hf : 0 < f) (hd : IsProduct d) (hmax : 1024 ≤ c / f) (d₀ : ℕ) :
    searchDividers c f k d₀ d = .error .hang := by
  induction k generalizing d d₀ with
  | zero => rfl
  | succ k ih =>
    have hle := hd.le
    by_cases hlt : d < 1024
    · obtain ⟨e, hnext, hrun⟩ := searchDividers_step (c := c) (k := k) hf hd (by lia) hlt d₀
      rw [hrun, ih hnext.product d]
    · have hge : c / d ≥ f :=
        (Nat.le_div_iff_mul_le hd.pos).mpr (Nat.mul_comm f d ▸ (Nat.le_div_iff_mul_le hf).mp (by lia))
      rw [searchDividers, if_pos hge, if_neg (by lia), skipDividers_hang (by lia)]
      rfl

variable {c f : ℕ} {r : ℕ × ℕ}

lemma Around.first_ge (h : Around (c / f) r) (hf : 0 < f) : f ≤ c / r.1 :=
  (Nat.le_div_iff_mul_le h.product.pos).mpr (Nat.mul_comm f r.1 ▸ (Nat.le_div_iff_mul_le hf).mp h.le)

lemma Around.second_lt (h : Around (c / f) r) (hf : 0 < f) : c / r.2 < f := by
  rw [Nat.div_lt_iff_lt_mul h.next.product.pos, Nat.mul_comm]
  exact (Nat.div_lt_iff_lt_mul hf).mp h.lt

lemma chooseDivider_product (h : Around (c / f) r) : IsProduct (chooseDivider c f r) := by
  unfold chooseDivider
  split
  · exact h.product
  · exact h.next.product

lemma chooseDivider_rate_pos (h : Around (c / f) r) (hf : 0 < f) : 1 ≤ c / chooseDivider c f r := by
  have hfirst := h.first_ge hf
  unfold chooseDivider
  split
  · lia
  · by_contra hzero
    have hsecond : c < r.2 := by
      by_contra hge
      have hpos := (Nat.le_div_iff_mul_le h.next.product.pos).mpr ((Nat.one_mul _).trans_le (Nat.not_lt.mp hge))
      omega
    obtain ⟨e, he, hlt, hle⟩ := h.product.exists_next ((h.next.lt).trans_le h.next.product.le)
    have hnext := h.next.le e he hlt
    have htwo : 2 ≤ c / r.1 := by lia
    have hmul := (Nat.le_div_iff_mul_le h.product.pos).mp htwo
    lia

lemma chooseDivider_nearest (h : Around (c / f) r) (hf : 0 < f) (hd : IsProduct d) :
    |((c / chooseDivider c f r : ℕ) : Int) - f| ≤ |((c / d : ℕ) : Int) - f| := by
  have hfirst := h.first_ge hf
  have hsecond := h.second_lt hf
  -- The rates fall with the divider, so that the two around the quotient are the closest on their sides.
  have hside : f ≤ c / d ∧ c / r.1 ≤ c / d ∨ c / d ≤ c / r.2 := by
    by_cases hlt : r.1 < d
    · exact Or.inr (Nat.div_le_div_left (h.next.le d hd hlt) h.next.product.pos)
    · have hle : c / r.1 ≤ c / d := Nat.div_le_div_left (Nat.not_lt.mp hlt) hd.pos
      exact Or.inl ⟨hfirst.trans hle, hle⟩
  unfold chooseDivider
  split <;> rcases hside with ⟨hge, hle⟩ | hle <;> rw [abs_le'] <;> constructor <;> simp only [le_abs] <;> lia

lemma chooseDivider_gt_iff (h : Around (c / f) r) (hf : 0 < f) (hd : IsProduct d) {e : ℕ} (hnext : Next d e) :
    d < chooseDivider c f r ↔ 2 * f ≤ c / d + c / e := by
  have hfirst := h.first_ge hf
  have hsecond := h.second_lt hf
  have hlt := h.next.lt
  by_cases hbelow : c / f < d
  · -- Both candidates are at most `d`, whose rate is below the wanted one.
    have hle : r.2 ≤ d := h.next.le d hd (by have := h.le; lia)
    have hd' : c / d ≤ c / r.2 := Nat.div_le_div_left hle h.next.product.pos
    have he' : c / e ≤ c / d := Nat.div_le_div_left hnext.lt.le hd.pos
    refine iff_of_false ?_ (by lia)
    unfold chooseDivider
    split <;> lia
  · by_cases habove : e ≤ c / f
    · have hle : e ≤ r.1 := by
        by_contra hgt
        have := h.next.le e hnext.product (by lia)
        have := h.lt
        lia
      have he' : f ≤ c / e := hfirst.trans (Nat.div_le_div_left hle hnext.product.pos)
      have hd' : c / e ≤ c / d := Nat.div_le_div_left hnext.lt.le hd.pos
      have hlt' := hnext.lt
      refine iff_of_true ?_ (by lia)
      unfold chooseDivider
      split <;> lia
    · have hfst : r.1 = d := by
        have hle := h.le
        have hge : d ≤ r.1 := by
          by_contra hgt
          have := h.next.le d hd (by lia)
          have := h.lt
          lia
        by_contra hne
        have := hnext.le r.1 h.product (by lia)
        lia
      have hsnd : r.2 = e := by
        apply Nat.le_antisymm
        · exact h.next.le e hnext.product (hfst ▸ hnext.lt)
        · exact hnext.le r.2 h.next.product (hfst ▸ h.next.lt)
      have hlt' := hnext.lt
      unfold chooseDivider
      rw [hfst, hsnd] at *
      split <;> lia

end NoOS
