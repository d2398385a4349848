import NoOS.Drivers.AlteraA10AtxPll
import NoOS.Drivers.AlteraA10CdrPll
import NoOS.Lib.Nearest
import NoOS.Lib.Word

/-!
# The dividers that the searches find

A search ends with the first of the candidates that are closest to the rate. No product of the rate formulas
wraps for a candidate.
-/

namespace NoOS
open FirstBest

section Search

variable {α : Type} (out : α → UInt32) (goal init : UInt32)

/-- How far the output of a candidate is from the goal. No candidate counts as the initial output. -/
def distance (best : Option α) : ℕ := cAbs (best.elim init out - goal)

/-- The first of the candidates that are closest to the goal, if one is closer than the initial output. -/
def closest (l : List α) : Option α := ((none :: l.map some).argmin (distance out goal init)).getD none

variable {out goal init} {best found : Option α} {l : List α}

lemma absInt_eq {x : UInt32} {d : ℕ} (h : absInt x = some d) : cAbs x = d := by
  unfold absInt at h
  split_ifs at h
  exact Option.some.inj h

lemma distance_eq_zero {c : α} : distance out goal init (some c) = 0 ↔ out c = goal := by
  change cAbs (out c - goal) = 0 ↔ _
  have hlt := (out c - goal).toNat_lt
  rw [cAbs_eq]
  constructor
  · intro h
    have hzero : (out c - goal).toNat = 0 := by
      split_ifs at h <;> lia
    exact sub_eq_zero.mp (UInt32.toNat_inj.mp hzero)
  · rintro rfl
    rw [sub_self]
    rfl

lemma closestSearch_scan (h : closestSearch out goal (best.elim init out) best l = some found) :
    found = (FirstBest.scan (distance out goal init) (some best) (l.map some)).getD none := by
  induction l generalizing best with
  | nil => exact (Option.some.inj h).symm
  | cons c l ih =>
    obtain ⟨d, hd, h⟩ := Option.bind_eq_some_iff.mp h
    obtain ⟨e, he, h⟩ := Option.bind_eq_some_iff.mp h
    have hnew : distance out goal init (some c) = d := absInt_eq hd
    have hold : distance out goal init best = e := absInt_eq he
    rw [List.map_cons, FirstBest.scan, hnew, hold]
    by_cases hlt : d < e
    · rw [if_pos hlt] at h ⊢
      by_cases hexact : out c = goal
      · rw [if_pos hexact] at h
        rw [if_pos (hnew.symm.trans (distance_eq_zero.mpr hexact))]
        exact (Option.some.inj h).symm
      · rw [if_neg hexact] at h
        rw [if_neg fun hzero => hexact (distance_eq_zero.mp (hnew.trans hzero))]
        exact @ih (some c) h
    · rw [if_neg hlt] at h ⊢
      exact ih h

/-- A search without an undefined step finds the first closest candidate. -/
theorem closestSearch_eq (h : closestSearch out goal init none l = some found) :
    found = closest out goal init l := by
  have hscan := @closestSearch_scan α out goal init none found l h
  rwa [FirstBest.scan_eq_foldl] at hscan

lemma closest_mem {c : α} (h : closest out goal init l = some c) : c ∈ l := by
  unfold closest at h
  cases hmin : (none :: l.map some).argmin (distance out goal init) with
  | none =>
    rw [hmin] at h
    exact absurd h nofun
  | some best =>
    rw [hmin] at h
    obtain rfl : best = some c := h
    have hmem := List.argmin_mem hmin
    rw [List.mem_cons, List.mem_map] at hmem
    rcases hmem with hnone | ⟨d, hd, hsome⟩
    · exact absurd hnone nofun
    · rwa [← Option.some.inj hsome]

end Search

/-- How far a rate is from another one, in kHz. -/
def gap (rate goal : ℕ) : ℕ := ((rate : ℤ) - goal).natAbs

section Kept

variable {α : Type} {out : α → UInt32} {goal init bestOut : UInt32} {best : Option α} {l : List α}

lemma absInt_of_ne {x : UInt32} (h : x ≠ 0x80000000) : absInt x = some (cAbs x) := if_neg h

lemma sub_ne_of_lt {a b : UInt32} (ha : a.toNat < 2 ^ 31) (hb : b.toNat < 2 ^ 31) : a - b ≠ 0x80000000 := by
  intro h
  have hnat := congrArg UInt32.toNat h
  have hleast : UInt32.toNat 0x80000000 = 2 ^ 31 := rfl
  rw [UInt32.toNat_sub, hleast] at hnat
  omega

lemma closestSearch_from_iff (hout : ∀ c ∈ l, (out c).toNat < 2 ^ 31) (hbest : bestOut - goal ≠ 0x80000000) :
    (∃ found, closestSearch out goal bestOut best l = some found) ↔ ∀ c ∈ l, out c - goal ≠ 0x80000000 := by
  induction l generalizing bestOut best with
  | nil => exact iff_of_true ⟨best, rfl⟩ fun c hc => absurd hc List.not_mem_nil
  | cons c l ih =>
    have hc := hout c List.mem_cons_self
    have hl : ∀ d ∈ l, (out d).toNat < 2 ^ 31 := fun d hd => hout d (List.mem_cons_of_mem c hd)
    rw [List.forall_mem_cons, closestSearch]
    by_cases hdiff : out c - goal = 0x80000000
    · have hnone : absInt (out c - goal) = none := if_pos hdiff
      rw [hnone]
      exact iff_of_false (fun ⟨_, hfound⟩ => absurd hfound nofun) fun h => h.1 hdiff
    · rw [absInt_of_ne hdiff, absInt_of_ne hbest, Option.bind_eq_bind, Option.bind_some, Option.bind_some]
      split_ifs with hlt hexact
      · -- an exact candidate leaves no other one that far away
        refine iff_of_true ⟨_, rfl⟩ ⟨hdiff, fun d hd => sub_ne_of_lt (hl d hd) (hexact ▸ hc)⟩
      · rw [ih hl hdiff, and_iff_right hdiff]
      · rw [ih hl hbest, and_iff_right hdiff]

lemma closestSearch_isSome_iff (hout : ∀ c ∈ l, (out c).toNat < 2 ^ 31) :
    (∃ found, closestSearch out goal init none l = some found) ↔
      l = [] ∨ (init - goal ≠ 0x80000000 ∧ ∀ c ∈ l, out c - goal ≠ 0x80000000) := by
  by_cases hinit : init - goal = 0x80000000
  · cases l with
    | nil => exact iff_of_true ⟨none, rfl⟩ (Or.inl rfl)
    | cons c l =>
      apply iff_of_false
      · rintro ⟨found, hfound⟩
        obtain ⟨d, -, hfound⟩ := Option.bind_eq_some_iff.mp hfound
        obtain ⟨e, he, -⟩ := Option.bind_eq_some_iff.mp hfound
        rw [absInt, if_pos hinit] at he
        exact absurd he nofun
      · rintro (hnil | ⟨hne, -⟩)
        · exact absurd hnil (List.cons_ne_nil c l)
        · exact hne hinit
  · rw [closestSearch_from_iff hout hinit, and_iff_right hinit]
    constructor
    · exact Or.inr
    · rintro (rfl | h)
      · exact fun c hc => absurd hc List.not_mem_nil
      · exact h

lemma closest_eq_some_iff {b : α} : closest out goal init l = some b ↔
    some b ∈ (none :: l.map some).argmin (distance out goal init) := by
  unfold closest
  cases (none :: l.map some).argmin (distance out goal init) with
  | none => exact iff_of_false nofun nofun
  | some best => exact ⟨fun h => congrArg some h, fun h => Option.some.inj h⟩

variable {Good : α → Prop}

/-- The search ends with a good candidate, or with none, if and only if its distances are defined and what it keeps is
good. -/
theorem search_good_iff (hout : ∀ c ∈ l, (out c).toNat < 2 ^ 31) :
    (∃ found, closestSearch out goal init none l = some found ∧ ∀ b, found = some b → Good b) ↔
      (l = [] ∨ (init - goal ≠ 0x80000000 ∧ ∀ c ∈ l, out c - goal ≠ 0x80000000)) ∧
        ∀ b, some b ∈ (none :: l.map some).argmin (distance out goal init) → Good b := by
  rw [← closestSearch_isSome_iff hout]
  constructor
  · rintro ⟨found, hfound, hgood⟩
    rw [closestSearch_eq hfound] at hgood
    exact ⟨⟨found, hfound⟩, fun b hb => hgood b (closest_eq_some_iff.mpr hb)⟩
  · rintro ⟨⟨found, hfound⟩, hgood⟩
    refine ⟨found, hfound, fun b hb => ?_⟩
    rw [closestSearch_eq hfound] at hb
    exact hgood b (closest_eq_some_iff.mp hb)

/-- The real distances -/
def realDistance (rate : α → ℕ) (goal start : ℕ) (best : Option α) : ℕ := best.elim start fun c => gap (rate c) goal

lemma kept_real {rate : α → ℕ} (hrate : ∀ c ∈ l, (out c).toNat = rate c) (hout : ∀ c ∈ l, (out c).toNat < 2 ^ 31)
    (hgoal : goal.toNat < 2 ^ 31) {b : α} (hb : some b ∈ (none :: l.map some).argmin (distance out goal init)) :
    IsKept (realDistance rate goal.toNat (distance out goal init none)) l b := by
  refine (isKept_of_argmin hb).congr rfl fun c hc => ?_
  change distance out goal init (some c) = gap (rate c) goal.toNat
  rw [← hrate c hc]
  exact cAbs_sub (hout c hc) hgoal

/-- A candidate that is nearer than the start makes the search keep one that is at least as near. -/
lemma exists_kept {rate : α → ℕ} (hrate : ∀ c ∈ l, (out c).toNat = rate c) (hout : ∀ c ∈ l, (out c).toNat < 2 ^ 31)
    (hgoal : goal.toNat < 2 ^ 31) {c : α} (hc : c ∈ l) (hlt : gap (rate c) goal.toNat < distance out goal init none) :
    ∃ b, some b ∈ (none :: l.map some).argmin (distance out goal init) ∧ b ∈ l ∧
      gap (rate b) goal.toNat ≤ gap (rate c) goal.toNat := by
  have hreal : distance out goal init (some c) = gap (rate c) goal.toNat := by
    rw [← hrate c hc]
    exact cAbs_sub (hout c hc) hgoal
  obtain ⟨b, hb⟩ := exists_argmin_some hc (hreal.trans_lt hlt)
  have hkept := kept_real hrate hout hgoal hb
  exact ⟨b, hb, hkept.mem, hkept.le c hc⟩

end Kept

lemma takeWhile_eq_filter {α : Type*} {p : α → Bool} {l : List α} (h : l.Pairwise fun a b => p b = true → p a = true) :
    l.takeWhile p = l.filter p := by
  induction l with
  | nil => rfl
  | cons a l ih =>
    obtain ⟨hhead, hrest⟩ := List.pairwise_cons.mp h
    cases hp : p a with
    | true => rw [List.takeWhile_cons_of_pos hp, List.filter_cons_of_pos hp, ih hrest]
    | false =>
      rw [List.takeWhile_cons_of_neg (by simp [hp]), List.filter_cons_of_neg (by simp [hp])]
      refine (List.filter_eq_nil_iff.mpr fun b hb hpb => ?_).symm
      exact Bool.false_ne_true (hp.symm.trans (hhead b hb hpb))

lemma mem_takeWhile_filter {p q : UInt32 → Bool} {l : List UInt32} {n : UInt32}
    (h : n ∈ (l.takeWhile p).filter q) : n ∈ l :=
  (List.takeWhile_sublist p).subset (List.mem_of_mem_filter h)

lemma roundedQuotient_eq {num den : UInt32} (hden : den ≠ 0) : ∃ q, roundedQuotient num den = some q ∧
    q.toNat = (num.toNat + den.toNat / 2) / den.toNat := by
  refine ⟨_, if_neg hden, ?_⟩
  have hnum := num.toNat_lt
  have hhalf : (den / 2).toNat = den.toNat / 2 := UInt32.toNat_div den 2
  have hlt := den.toNat_lt
  rw [divRoundClosestUll, UInt64.toNat_div, Word.toNat_add64, UInt32.toNat_toUInt64, UInt32.toNat_toUInt64,
    UInt32.toNat_toUInt64, hhalf]
  rw [UInt32.toNat_toUInt64, UInt32.toNat_toUInt64, hhalf]
  lia

lemma min_limits {q : UInt64} (h : q.toNat ≤ 0x7fffffff) :
    (min q ULONG_MAX).toUInt32.toNat = q.toNat ∧ (min q LONG_MAX).toNat = q.toNat := by
  have hlong : LONG_MAX.toNat = 0x7fffffff := rfl
  have hulong : ULONG_MAX.toNat = 0xffffffff := rfl
  rw [UInt64.toNat_toUInt32, UInt64.toNat_min, UInt64.toNat_min, hlong, hulong]
  lia

lemma mul_le_of_le_div {fref m : UInt32} {bound d : ℕ} (h : m.toNat ≤ bound / d / fref.toNat) :
    fref.toNat * m.toNat ≤ bound / d := by
  calc fref.toNat * m.toNat ≤ fref.toNat * (bound / d / fref.toNat) := Nat.mul_le_mul_left _ h
    _ ≤ bound / d := Nat.mul_div_le _ _

/-- A candidate for the transmitters. -/
structure AtxParams.Allowed (fref : UInt32) (c : AtxParams) : Prop where
  n : c.n ∈ ([1, 2, 4, 8] : List UInt32)
  l : c.l ∈ ([1, 2, 4, 8, 16] : List UInt32)
  m_ge : 8 ≤ c.m.toNat
  m_le : c.m.toNat ≤ 127
  mul_le : fref.toNat * c.m.toNat ≤ 57600000

lemma atx_allowed {fref : UInt32} {c : AtxParams} (h : c ∈ atxCandidates fref) : c.Allowed fref := by
  obtain ⟨n, hn, h⟩ := List.mem_flatMap.mp h
  obtain ⟨m, hm, h⟩ := List.mem_flatMap.mp h
  obtain ⟨l, hl, rfl⟩ := List.mem_map.mp h
  obtain ⟨hlow, hhigh⟩ := mem_forRange hm
  have h8 : (8 : UInt32).toNat = 8 := rfl
  have h127 : (127 : UInt32).toNat = 127 := rfl
  have hmax : (A10_ATX_PLL_VCO_MAX / 2 * 8).toNat = 57600000 := rfl
  rw [atxMMin, UInt32.toNat_max, h8] at hlow
  rw [atxMMax, UInt32.toNat_min, UInt32.toNat_div, h127, hmax] at hhigh
  constructor
  · exact mem_takeWhile_filter hn
  · exact hl
  · exact (le_max_right _ _).trans hlow
  · exact hhigh.trans (min_le_right _ _)
  · have hdiv : m.toNat ≤ 57600000 / 1 / fref.toNat := hhigh.trans (min_le_left _ _)
    exact mul_le_of_le_div hdiv

/-- A candidate for the receivers. -/
structure CdrParams.Allowed (fref : UInt32) (c : CdrParams) : Prop where
  n : c.n ∈ ([1, 2, 4, 8] : List UInt32)
  lpfd : c.lpfd ∈ ([1, 2] : List UInt32)
  lpd : c.lpd ∈ ([1, 2, 4, 8, 16] : List UInt32)
  m_ge : 8 ≤ c.m.toNat
  m_le : c.m.toNat ≤ 127
  mul_le : fref.toNat * c.m.toNat ≤ 113200000

lemma cdrLpd_mem (fout : UInt32) : cdrLpd fout ∈ ([1, 2, 4, 8, 16] : List UInt32) := by
  unfold cdrLpd
  cases hfind : ([1, 2, 4, 8] : List UInt32).find? fun lpd => fout ≥ A10_CDR_PLL_VCO_MIN / lpd with
  | none => decide
  | some lpd =>
    have hmem := List.mem_of_find?_eq_some hfind
    exact List.mem_append_left [16] hmem

lemma cdr_allowed {fref targetFvco fout : UInt32} {c : CdrParams}
    (h : c ∈ cdrCandidates fref (cdrLpfdMin targetFvco) (cdrLpd fout)) : c.Allowed fref := by
  obtain ⟨n, hn, h⟩ := List.mem_flatMap.mp h
  obtain ⟨lpfd, hlpfd, h⟩ := List.mem_flatMap.mp h
  obtain ⟨m, hm, rfl⟩ := List.mem_map.mp h
  obtain ⟨hlow, hhigh⟩ := mem_forRange hm
  have h8 : (8 : UInt32).toNat = 8 := rfl
  have h127 : (127 : UInt32).toNat = 127 := rfl
  rw [cdrMMin, UInt32.toNat_max, h8] at hlow
  rw [cdrMMax, UInt32.toNat_min, UInt32.toNat_div, h127] at hhigh
  have hmin : cdrLpfdMin targetFvco = 1 ∨ cdrLpfdMin targetFvco = 2 := by
    unfold cdrLpfdMin
    split_ifs
    · exact Or.inr rfl
    · exact Or.inl rfl
  constructor
  · exact mem_takeWhile_filter hn
  · obtain ⟨hge, hle⟩ := mem_forRange hlpfd
    have hone : 1 ≤ lpfd.toNat := by
      rcases hmin with hmin | hmin <;> rw [hmin] at hge
      · exact hge
      · exact Nat.le_of_lt hge
    have htwo : lpfd.toNat ≤ 2 := hle
    rw [List.mem_cons, List.mem_singleton]
    rcases (by lia : lpfd.toNat = 1 ∨ lpfd.toNat = 2) with heq | heq
    · exact Or.inl (UInt32.toNat_inj.mp heq)
    · exact Or.inr (UInt32.toNat_inj.mp heq)
  · exact cdrLpd_mem fout
  · exact (le_max_right _ _).trans hlow
  · exact hhigh.trans (min_le_right _ _)
  · have hdiv := hhigh.trans (min_le_left _ _)
    rcases hmin with hmin | hmin <;> rw [hmin] at hdiv
    · exact @mul_le_of_le_div fref m 113200000 1 hdiv
    · have hhalf := @mul_le_of_le_div fref m 113200000 2 hdiv
      exact hhalf.trans (by decide)

end NoOS
