import Mathlib.Algebra.Order.Group.Abs
import Mathlib.Algebra.Order.Group.Nat
import Mathlib.Data.Int.Notation
import Mathlib.Data.List.MinMax
import Mathlib.Data.List.Pairwise
import Mathlib.Tactic.Common

/-!
# The first best candidate

A loop that keeps a candidate until another one is strictly better, and that stops at the
first perfect one, ends with the first of the best candidates.
-/

namespace FirstBest

variable {α : Type*} (cost : α → ℕ)

/-- The loop, with the candidate that is kept. -/
def scan : Option α → List α → Option α
  | best, [] => best
  | none, a :: l => if cost a = 0 then some a else scan (some a) l
  | some b, a :: l =>
    if cost a < cost b then if cost a = 0 then some a else scan (some a) l else scan (some b) l

variable {cost} {a : α} {l : List α} {best : Option α}

lemma foldl_of_cost_zero (h : cost a = 0) :
    l.foldl (List.argAux fun b c => cost b < cost c) (some a) = some a := by
  induction l with
  | nil => rfl
  | cons b l ih =>
    rw [List.foldl_cons]
    have hkeep : List.argAux (fun b c => cost b < cost c) (some a) b = some a := by
      simp [List.argAux, h]
    rw [hkeep, ih]

lemma scan_eq_foldl : scan cost best l = l.foldl (List.argAux fun b c => cost b < cost c) best := by
  induction l generalizing best with
  | nil => cases best <;> rfl
  | cons a l ih =>
    rw [List.foldl_cons]
    cases best with
    | none =>
      rw [scan]
      split
      · exact (foldl_of_cost_zero ‹_›).symm
      · exact ih
    | some b =>
      rw [scan]
      by_cases hlt : cost a < cost b
      · rw [if_pos hlt]
        have hnew : List.argAux (fun b c => cost b < cost c) (some b) a = some a := if_pos hlt
        rw [hnew]
        split
        · exact (foldl_of_cost_zero ‹_›).symm
        · exact ih
      · rw [if_neg hlt]
        have hold : List.argAux (fun b c => cost b < cost c) (some b) a = some b := if_neg hlt
        rw [hold]
        exact ih

/-- The loop finds the first of the best candidates. -/
theorem scan_eq_argmin (l : List α) : scan cost none l = l.argmin cost := scan_eq_foldl

/-- The same from a first candidate. -/
theorem scan_some_eq_argmin (l : List α) : scan cost (some a) l = (a :: l).argmin cost := scan_eq_foldl

/-- The first candidate stays unless another one is strictly better. -/
lemma eq_or_lt_of_mem_argmin {b : α} (h : b ∈ (a :: l).argmin cost) : b = a ∨ cost b < cost a := by
  classical
  rcases Nat.lt_or_ge (cost b) (cost a) with hlt | hge
  · exact Or.inr hlt
  · apply Or.inl
    have hidx := List.index_of_argmin h List.mem_cons_self hge
    rw [List.idxOf_cons_self, Nat.le_zero] at hidx
    by_contra hne
    rw [List.idxOf_cons_ne l (Ne.symm hne)] at hidx
    exact Nat.succ_ne_zero _ hidx

section Kept

variable {cost : Option α → ℕ} {l : List α} {b c : α}

/-- The first of the best candidates that are better than none. -/
structure IsKept (cost : Option α → ℕ) (l : List α) (b : α) : Prop where
  mem : b ∈ l
  lt : cost (some b) < cost none
  le : ∀ c ∈ l, cost (some b) ≤ cost (some c)
  first : ∀ pre post, l = pre ++ b :: post → b ∉ pre → ∀ c ∈ pre, cost (some b) < cost (some c)

lemma lt_of_mem_prefix {β : Type*} {f : β → ℕ} {x y : β} {before behind : List β}
    (h : x ∈ (before ++ x :: behind).argmin f) (hx : x ∉ before) (hy : y ∈ before) : f x < f y := by
  classical
  by_contra hge
  have hidx := List.index_of_argmin h (List.mem_append_left _ hy) (Nat.le_of_not_lt hge)
  have hlt := List.idxOf_lt_length_of_mem hy
  rw [List.idxOf_append_of_notMem hx, List.idxOf_append_of_mem hy, List.idxOf_cons_self] at hidx
  lia

lemma isKept_of_argmin (h : some b ∈ (none :: l.map some).argmin cost) : IsKept cost l b := by
  have hmem : b ∈ l := by
    have hlist := List.argmin_mem h
    rw [List.mem_cons, List.mem_map] at hlist
    rcases hlist with hnone | ⟨c, hc, hsome⟩
    · exact absurd hnone nofun
    · rwa [← Option.some.inj hsome]
  refine ⟨hmem, (eq_or_lt_of_mem_argmin h).resolve_left nofun, fun c hc => ?_, fun pre post hl hpre c hc => ?_⟩
  · exact List.le_of_mem_argmin (List.mem_cons_of_mem _ (List.mem_map_of_mem hc)) h
  · rw [hl, List.map_append, List.map_cons, ← List.cons_append] at h
    apply lt_of_mem_prefix h
    · rw [List.mem_cons, List.mem_map]
      rintro (hnone | ⟨d, hd, hsome⟩)
      · exact absurd hnone nofun
      · exact hpre (Option.some.inj hsome ▸ hd)
    · exact List.mem_cons_of_mem _ (List.mem_map_of_mem hc)

/-- A candidate that is better than none makes the loop keep one. -/
lemma exists_argmin_some (hc : c ∈ l) (hlt : cost (some c) < cost none) :
    ∃ b, some b ∈ (none :: l.map some).argmin cost := by
  cases hmin : (none :: l.map some).argmin cost with
  | none => exact absurd (List.argmin_eq_none.mp hmin) (List.cons_ne_nil _ _)
  | some best =>
    cases best with
    | none =>
      have hle := List.le_of_mem_argmin (List.mem_cons_of_mem _ (List.mem_map_of_mem hc)) hmin
      omega
    | some b => exact ⟨b, rfl⟩

lemma IsKept.congr {cost' : Option α → ℕ} (h : IsKept cost l b) (hnone : cost none = cost' none)
    (hsome : ∀ c ∈ l, cost (some c) = cost' (some c)) : IsKept cost' l b := by
  have hb := hsome b h.mem
  refine ⟨h.mem, hb ▸ hnone ▸ h.lt, fun c hc => hb ▸ hsome c hc ▸ h.le c hc, fun pre post hl hpre c hc => ?_⟩
  rw [← hb, ← hsome c (hl ▸ List.mem_append_left _ hc)]
  exact h.first pre post hl hpre c hc

/-- In an ordered list no candidate in front of the one that is kept is as good. -/
lemma IsKept.eq_or_rel {R : α → α → Prop} (h : IsKept cost l b) (hl : l.Pairwise R) (hc : c ∈ l)
    (hle : cost (some c) ≤ cost (some b)) : c = b ∨ R b c := by
  obtain ⟨pre, post, hsplit, hpre⟩ := List.eq_append_cons_of_mem h.mem
  rw [hsplit] at hc hl
  rcases List.mem_append.mp hc with hfront | hback
  · exact absurd hle (Nat.not_le.mpr (h.first pre post hsplit hpre c hfront))
  · rcases List.mem_cons.mp hback with heq | hpost
    · exact Or.inl heq
    · exact Or.inr ((List.pairwise_cons.mp (List.pairwise_append.mp hl).2.1).1 c hpost)

end Kept

end FirstBest

/-!
## Divisors that get near a target

The quotient of `v` by a divisor comes closest to a target `t` at one of the two divisors around
`v / t`, which need not be the one that `v / t` is rounded to.
-/

namespace NearDivisor

/-- How far the quotient is from the target. -/
def miss (t v k : ℕ) : ℕ := ((v / k : ℕ) - t : ℤ).natAbs

/-- `v / t`, rounded, among the divisors from 1 to `bound`. -/
def rounded (bound t v : ℕ) : ℕ := max (min ((v + t / 2) / t) bound) 1

variable {bound t v q k : ℕ}

lemma miss_le_of_le (hq : v ≤ q * t) (hpos : 0 < q) (hk : q ≤ k) : miss t v q ≤ miss t v k := by
  have hbelow : v / q ≤ t := Nat.div_le_of_le_mul hq
  have hmono : v / k ≤ v / q := Nat.div_le_div_left hk hpos
  unfold miss
  lia

lemma miss_le_of_ge (hq : q * t ≤ v) (hpos : 0 < k) (hk : k ≤ q) : miss t v q ≤ miss t v k := by
  have habove : t ≤ v / q := (Nat.le_div_iff_mul_le (hpos.trans_le hk)).mpr (by rwa [Nat.mul_comm])
  have hmono : v / q ≤ v / k := Nat.div_le_div_left hk hpos
  unfold miss
  lia

/-- How far the quotient by `v / t` is above the target. -/
def above (t v : ℕ) : ℕ := v % t / (v / t)

/-- How far the quotient by `v / t + 1` is below the target. -/
def below (t v : ℕ) : ℕ := (t - v % t + v / t) / (v / t + 1)

/-- Rounding takes the farther one of the two divisors around `v / t`. -/
def Misrounds (bound t v : ℕ) : Prop :=
  1 ≤ v / t ∧ v / t < bound ∧
    if 2 * (v % t) < t then below t v < above t v else above t v < below t v

instance decidableMisrounds (bound t v : ℕ) : Decidable (Misrounds bound t v) :=
  inferInstanceAs (Decidable (1 ≤ v / t ∧ v / t < bound ∧
    if 2 * (v % t) < t then below t v < above t v else above t v < below t v))

lemma miss_div (h : 0 < v / t) : miss t v (v / t) = above t v := by
  have hquot : v / (v / t) = t + above t v := by
    have hv : v / t * t + v % t = v := Nat.div_add_mod' v t
    calc v / (v / t) = (v / t * t + v % t) / (v / t) := by rw [hv]
      _ = t + above t v := Nat.mul_add_div h t (v % t)
  rw [miss, hquot]
  lia

lemma div_add_of_add_eq {a s c : ℕ} (ht : 0 < t) (hs : s ≤ t) (hv : v + s = (a + 1) * t)
    (hlow : c * (a + 1) ≤ s + a) (hhigh : s + a < (c + 1) * (a + 1)) : v / (a + 1) + c = t := by
  have hct : c ≤ t := by
    by_contra hlt
    have hmul : (t + 1) * (a + 1) ≤ c * (a + 1) := Nat.mul_le_mul_right _ (Nat.not_le.mp hlt)
    have hle : a ≤ t * a := Nat.le_mul_of_pos_left a ht
    lia
  obtain ⟨k, rfl⟩ := Nat.exists_eq_add_of_le hct
  have hquot : v / (a + 1) = k := Nat.div_eq_of_lt_le (by lia) (by lia)
  rw [hquot, Nat.add_comm]

lemma miss_div_add_one (ht : 0 < t) : miss t v (v / t + 1) = below t v := by
  have hr : v % t < t := Nat.mod_lt v ht
  have hv : v / t * t + v % t = v := Nat.div_add_mod' v t
  have hpos : 0 < v / t + 1 := Nat.succ_pos _
  have hquot : v / (v / t + 1) + below t v = t := by
    refine div_add_of_add_eq (s := t - v % t) ht (Nat.sub_le _ _) (by lia) (Nat.div_mul_le_self _ _) ?_
    exact (Nat.div_lt_iff_lt_mul hpos).mp (Nat.lt_succ_self _)
  unfold miss
  lia

lemma div_half (ht : 0 < t) : (v + t / 2) / t = if 2 * (v % t) < t then v / t else v / t + 1 := by
  have hr : v % t < t := Nat.mod_lt v ht
  have hv : v / t * t + v % t = v := Nat.div_add_mod' v t
  split_ifs with hhalf
  · exact Nat.div_eq_of_lt_le (by lia) (by lia)
  · exact Nat.div_eq_of_lt_le (by lia) (by lia)

/-- One of the two divisors around `v / t` is as good as any other. -/
lemma min_le_miss (ht : 0 < t) (hpos : 0 < v / t) (hk : 1 ≤ k) : min (above t v) (below t v) ≤ miss t v k := by
  have hr : v % t < t := Nat.mod_lt v ht
  have hv : v / t * t + v % t = v := Nat.div_add_mod' v t
  rcases Nat.lt_or_ge (v / t) k with hlt | hle
  · apply (min_le_right _ _).trans
    rw [← miss_div_add_one ht]
    exact miss_le_of_le (by lia) (Nat.succ_pos _) hlt
  · apply (min_le_left _ _).trans
    rw [← miss_div hpos]
    exact miss_le_of_ge (by lia) hk hle

lemma rounded_of_between (ht : 0 < t) (hpos : 0 < v / t) (hlt : v / t < bound) :
    rounded bound t v = if 2 * (v % t) < t then v / t else v / t + 1 := by
  rw [rounded, div_half ht]
  split_ifs <;> lia

lemma miss_rounded (ht : 0 < t) (hpos : 0 < v / t) (hlt : v / t < bound) :
    miss t v (rounded bound t v) = if 2 * (v % t) < t then above t v else below t v := by
  rw [rounded_of_between ht hpos hlt]
  split_ifs
  · exact miss_div hpos
  · exact miss_div_add_one ht

/-- The rounded divisor is the best one if and only if it is not the farther one of the two. -/
theorem not_misrounds_iff (ht : 0 < t) (hbound : 1 ≤ bound) : ¬Misrounds bound t v ↔
    ∀ k, 1 ≤ k → k ≤ bound → miss t v (rounded bound t v) ≤ miss t v k := by
  have hr : v % t < t := Nat.mod_lt v ht
  have hv : v / t * t + v % t = v := Nat.div_add_mod' v t
  by_cases hpos : 0 < v / t
  swap
  · -- the quotient by 1 is below the target
    rw [Nat.not_lt, Nat.le_zero] at hpos
    have hone : rounded bound t v = 1 := by
      rw [rounded, div_half ht, hpos]
      split_ifs <;> lia
    refine iff_of_true (fun h => absurd h.1 (by lia)) fun k hk _ => ?_
    rw [hone]
    exact miss_le_of_le (by lia) Nat.one_pos hk
  by_cases hlt : v / t < bound
  swap
  · -- the quotient by the bound is above the target
    have hbound' : rounded bound t v = bound := by
      rw [rounded, div_half ht]
      split_ifs <;> lia
    refine iff_of_true (fun h => hlt h.2.1) fun k hk hk' => ?_
    rw [hbound']
    have hmul : bound * t ≤ v / t * t := Nat.mul_le_mul_right t (Nat.not_lt.mp hlt)
    exact miss_le_of_ge (by lia) hk hk'
  rw [miss_rounded ht hpos hlt]
  constructor
  · intro h k hk _
    refine le_trans ?_ (min_le_miss ht hpos hk)
    unfold Misrounds at h
    split_ifs at h ⊢ <;> lia
  · rintro h ⟨-, -, hbad⟩
    have hover := h (v / t) hpos hlt.le
    have hunder := h (v / t + 1) (Nat.succ_pos _) hlt
    rw [miss_div hpos] at hover
    rw [miss_div_add_one ht] at hunder
    split_ifs at hover hunder hbad <;> lia

/-- Where rounding goes wrong, the quotients are this far from the target. -/
lemma Misrounds.le_miss {V : ℕ} (h : Misrounds bound t v) (ht : 0 < t) (hV : v ≤ V) (hk : 1 ≤ k) :
    t ^ 2 / (2 * (V + t)) ≤ miss t v k := by
  obtain ⟨hpos, hlt, hbad⟩ := h
  have hr : v % t < t := Nat.mod_lt v ht
  have hv : v / t * t + v % t = v := Nat.div_add_mod' v t
  have hnum : (v / t + 1) * t ≤ V + t := by lia
  have hcut : t ^ 2 / (2 * (V + t)) ≤ t / 2 / (v / t + 1) := by
    calc t ^ 2 / (2 * (V + t)) ≤ t ^ 2 / (2 * ((v / t + 1) * t)) :=
          Nat.div_le_div_left (Nat.mul_le_mul_left 2 hnum)
            (Nat.mul_pos Nat.two_pos (Nat.mul_pos (Nat.succ_pos _) ht))
      _ = t / 2 / (v / t + 1) := by
          rw [Nat.pow_two, ← Nat.mul_assoc, Nat.mul_div_mul_right _ _ ht, Nat.div_div_eq_div_mul]
  -- the one that rounding takes is farther than the other
  have hboth : t / 2 / (v / t + 1) ≤ above t v ∧ t / 2 / (v / t + 1) ≤ below t v := by
    split_ifs at hbad with hhalf
    · have hunder : t / 2 / (v / t + 1) ≤ below t v := Nat.div_le_div_right (by lia)
      exact ⟨hunder.trans hbad.le, hunder⟩
    · have hover : t / 2 / (v / t + 1) ≤ above t v :=
        (Nat.div_le_div_left (Nat.le_succ _) hpos).trans (Nat.div_le_div_right (by lia))
      exact ⟨hover, hover.trans hbad.le⟩
  exact hcut.trans ((le_min hboth.1 hboth.2).trans (min_le_miss ht hpos hk))

end NearDivisor

/-!
## The nearest entry of a sorted table

In a sorted table, which may repeat its entries, one of the two entries around a value is the nearest to it.
-/

namespace NearestEntry

variable {α : Type*} [AddCommGroup α] [LinearOrder α]

/-- No entry of the table is closer to `g` than the one at `i`. -/
def IsNearest (tbl : List α) (g : α) (i : ℕ) : Prop :=
  ∃ e, tbl[i]? = some e ∧ ∀ e' ∈ tbl, |e - g| ≤ |e' - g|

variable {tbl : List α} {g e e' p : α} {i j : ℕ}

lemma IsNearest.lt_length (h : IsNearest tbl g i) : i < tbl.length := by
  obtain ⟨e, he, -⟩ := h
  exact (List.getElem?_eq_some_iff.mp he).1

omit [AddCommGroup α] in
lemma entry_le (hs : tbl.Pairwise (· ≤ ·)) (he : tbl[i]? = some e) (he' : tbl[j]? = some e') (h : i ≤ j) : e ≤ e' := by
  obtain ⟨hi, rfl⟩ := List.getElem?_eq_some_iff.mp he
  obtain ⟨hj, rfl⟩ := List.getElem?_eq_some_iff.mp he'
  rcases h.eq_or_lt with rfl | hlt
  · exact le_refl _
  · exact List.pairwise_iff_getElem.mp hs i j hi hj hlt

variable [IsOrderedAddMonoid α]

lemma abs_sub_le_of_below (hp : p ≤ g) (h : e' ≤ p) : |p - g| ≤ |e' - g| := by
  rw [abs_of_nonpos (sub_nonpos.mpr hp), abs_of_nonpos (sub_nonpos.mpr (h.trans hp))]
  exact neg_le_neg (sub_le_sub_right h g)

lemma abs_sub_le_of_above (he : g ≤ e) (h : e ≤ e') : |e - g| ≤ |e' - g| := by
  rw [abs_of_nonneg (sub_nonneg.mpr he), abs_of_nonneg (sub_nonneg.mpr (he.trans h))]
  exact sub_le_sub_right h g

lemma isNearest_first (hs : tbl.Pairwise (· ≤ ·)) (he : tbl[0]? = some e) (h : g ≤ e) : IsNearest tbl g 0 := by
  refine ⟨e, he, fun e' hmem => ?_⟩
  obtain ⟨j, hj⟩ := List.mem_iff_getElem?.mp hmem
  exact abs_sub_le_of_above h (entry_le hs he hj (Nat.zero_le j))

lemma isNearest_last (hs : tbl.Pairwise (· ≤ ·)) (he : tbl[i]? = some e) (hlast : tbl.length = i + 1) (h : e ≤ g) :
    IsNearest tbl g i := by
  refine ⟨e, he, fun e' hmem => ?_⟩
  obtain ⟨j, hj⟩ := List.mem_iff_getElem?.mp hmem
  have hlt := (List.getElem?_eq_some_iff.mp hj).1
  exact abs_sub_le_of_below h (entry_le hs hj he (by lia))

lemma isNearest_between (hs : tbl.Pairwise (· ≤ ·)) (hp : tbl[i]? = some p) (he : tbl[i + 1]? = some e) (hpg : p ≤ g)
    (hge : g ≤ e) : IsNearest tbl g (if |p - g| < |e - g| then i else i + 1) := by
  have hsides : ∀ e' ∈ tbl, |p - g| ≤ |e' - g| ∨ |e - g| ≤ |e' - g| := by
    intro e' hmem
    obtain ⟨j, hj⟩ := List.mem_iff_getElem?.mp hmem
    rcases Nat.lt_or_ge i j with hlt | hle
    · exact Or.inr (abs_sub_le_of_above hge (entry_le hs he hj hlt))
    · exact Or.inl (abs_sub_le_of_below hpg (entry_le hs hj hp hle))
  split_ifs with hcloser
  · refine ⟨p, hp, fun e' hmem => ?_⟩
    rcases hsides e' hmem with h | h
    · exact h
    · exact hcloser.le.trans h
  · refine ⟨e, he, fun e' hmem => ?_⟩
    rcases hsides e' hmem with h | h
    · exact (not_lt.mp hcloser).trans h
    · exact h

end NearestEntry

/-!
# The first least entry

A loop above a table that keeps the place of the least key so far, and that goes on to a later place only
when its key is strictly less.
-/

namespace FirstLeast

variable {α β : Type*} [LinearOrder β] {key : α → β} {l p : List α} {a b : α} {i j : ℕ}

/-- `i` is the first place in the table where the key is least. -/
def IsFirstLeast (key : α → β) (l : List α) (i : ℕ) : Prop :=
  ∃ a, l[i]? = some a ∧ ∀ j b, l[j]? = some b → key a ≤ key b ∧ (j < i → key a < key b)

/-- The loop above the entries from place `i` on, with the least key so far and its place. -/
def scanFrom (key : α → β) : List α → ℕ → β → ℕ → ℕ
  | [], _, _, ret => ret
  | a :: l, i, least, ret => if key a < least then scanFrom key l (i + 1) (key a) i else scanFrom key l (i + 1) least ret

lemma isFirstLeast_singleton : IsFirstLeast key [a] 0 := by
  refine ⟨a, rfl, fun j b hb => ?_⟩
  cases j with
  | zero =>
    rw [List.getElem?_cons_zero, Option.some_inj] at hb
    subst hb
    exact ⟨le_rfl, fun h => absurd h (lt_irrefl 0)⟩
  | succ j => cases hb

/-- The entry that follows the ones of `p` is the first least one if its key is less than the least of `p`. -/
lemma isFirstLeast_new (h : IsFirstLeast key p i) (ha : p[i]? = some a) (hlt : key b < key a) :
    IsFirstLeast key (p ++ [b]) p.length := by
  obtain ⟨a', ha', hleast⟩ := h
  rw [ha, Option.some_inj] at ha'
  subst ha'
  refine ⟨b, List.getElem?_concat_length, fun j c hc => ?_⟩
  rcases lt_or_ge j p.length with hj | hj
  · rw [List.getElem?_append_left hj] at hc
    have hbc := hlt.trans_le (hleast j c hc).1
    exact ⟨hbc.le, fun _ => hbc⟩
  · refine ⟨?_, fun h => absurd h (Nat.not_lt.mpr hj)⟩
    rw [List.getElem?_append_right hj] at hc
    have hmem := List.mem_of_getElem? hc
    rw [List.mem_singleton.mp hmem]

lemma isFirstLeast_old (h : IsFirstLeast key p i) (ha : p[i]? = some a) (hle : key a ≤ key b) :
    IsFirstLeast key (p ++ [b]) i := by
  obtain ⟨a', ha', hleast⟩ := h
  rw [ha, Option.some_inj] at ha'
  subst ha'
  have hi : i < p.length := (List.getElem?_eq_some_iff.mp ha).1
  refine ⟨a, by rw [List.getElem?_append_left hi, ha], fun j c hc => ?_⟩
  rcases lt_or_ge j p.length with hj | hj
  · rw [List.getElem?_append_left hj] at hc
    exact hleast j c hc
  · rw [List.getElem?_append_right hj] at hc
    have hmem := List.mem_of_getElem? hc
    rw [List.mem_singleton.mp hmem]
    exact ⟨hle, fun h => absurd (h.trans hi) (Nat.not_lt.mpr hj)⟩

/-- The loop keeps the first least place of the entries behind it. -/
theorem isFirstLeast_scanFrom (h : IsFirstLeast key p i) (ha : p[i]? = some a) :
    IsFirstLeast key (p ++ l) (scanFrom key l p.length (key a) i) := by
  induction l generalizing p i a with
  | nil =>
    rw [List.append_nil]
    exact h
  | cons b l ih =>
    rw [scanFrom, List.append_cons]
    have hlen : p.length + 1 = (p ++ [b]).length := by rw [List.length_append, List.length_singleton]
    have hi : i < p.length := (List.getElem?_eq_some_iff.mp ha).1
    split_ifs with hlt
    · rw [hlen]
      exact ih (isFirstLeast_new h ha hlt) List.getElem?_concat_length
    · rw [hlen]
      exact ih (isFirstLeast_old h ha (not_lt.mp hlt)) (by rw [List.getElem?_append_left hi, ha])

lemma isFirstLeast_scan : IsFirstLeast key (a :: l) (scanFrom key l 1 (key a) 0) :=
  isFirstLeast_scanFrom (p := [a]) isFirstLeast_singleton rfl

lemma exists_isFirstLeast (hne : l ≠ []) : ∃ i, IsFirstLeast key l i := by
  cases l with
  | nil => exact absurd rfl hne
  | cons a l => exact ⟨_, isFirstLeast_scan⟩

lemma IsFirstLeast.lt_length (h : IsFirstLeast key l i) : i < l.length := by
  obtain ⟨a, ha, -⟩ := h
  exact (List.getElem?_eq_some_iff.mp ha).1

lemma IsFirstLeast.unique (h : IsFirstLeast key l i) (h' : IsFirstLeast key l j) : i = j := by
  obtain ⟨a, ha, hleast⟩ := h
  obtain ⟨b, hb, hleast'⟩ := h'
  rcases Nat.lt_trichotomy i j with hlt | heq | hgt
  · exact absurd (hleast j b hb).1 (not_le.mpr ((hleast' i a ha).2 hlt))
  · exact heq
  · exact absurd (hleast' i a ha).1 (not_le.mpr ((hleast j b hb).2 hgt))

end FirstLeast
