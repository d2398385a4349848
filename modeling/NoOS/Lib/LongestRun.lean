import Mathlib.Algebra.Order.Group.Nat
import Mathlib.Order.Basic
import Mathlib.Tactic.Common

/-!
# The longest run of a property

A run is a stretch of places that all have the property. One pass over the places finds the first of the longest runs
if it knows the length of the run that ends where it stands, and the first longest run of the places before that run.
A run may also go round a circle, which is a run of the circle written down twice. The maximal runs can be listed, and the
longest runs are the longest of them.
-/

namespace LongestRun

variable {p : ℕ → Prop} {len len' c s n : ℕ}

/-- The `n` places from `s` on are below `len`, and all of them have the property. -/
structure IsRun (p : ℕ → Prop) (len s n : ℕ) : Prop where
  le : s + n ≤ len
  all : ∀ i, s ≤ i → i < s + n → p i

/-- The run of length `n` from `s` on is a longest one, and none of its length starts before it. -/
structure IsFirstLongest (p : ℕ → Prop) (len s n : ℕ) : Prop where
  run : IsRun p len s n
  longest : ∀ s' n', IsRun p len s' n' → n' ≤ n
  first : ∀ s', IsRun p len s' n → s ≤ s'

/-- The last `c` places are a run, and the place before them is not in it. -/
structure IsTail (p : ℕ → Prop) (len c : ℕ) : Prop where
  le : c ≤ len
  all : ∀ i, len - c ≤ i → i < len → p i
  cut : c < len → ¬p (len - c - 1)

lemma IsRun.mono (h : IsRun p len s n) (hle : len ≤ len') : IsRun p len' s n := ⟨h.le.trans hle, h.all⟩

lemma IsRun.congr {q : ℕ → Prop} (h : IsRun p len s n) (hq : ∀ i < len, p i → q i) : IsRun q len s n :=
  ⟨h.le, fun i hi hlt => hq i (hlt.trans_le h.le) (h.all i hi hlt)⟩

lemma IsFirstLongest.congr {q : ℕ → Prop} (h : IsFirstLongest p len s n) (hq : ∀ i < len, p i ↔ q i) :
    IsFirstLongest q len s n :=
  ⟨h.run.congr fun i hi => (hq i hi).mp, fun s' n' hr => h.longest s' n' (hr.congr fun i hi => (hq i hi).mpr),
    fun s' hr => h.first s' (hr.congr fun i hi => (hq i hi).mpr)⟩

lemma IsFirstLongest.pos {i : ℕ} (h : IsFirstLongest p len s n) (hi : i < len) (hp : p i) : 0 < n := by
  refine h.longest i 1 ⟨hi, fun j hj hlt => ?_⟩
  have heq : j = i := by lia
  rwa [heq]

lemma IsTail.isRun (h : IsTail p len c) : IsRun p len (len - c) c :=
  ⟨(Nat.sub_add_cancel h.le).le, fun i hi hlt => h.all i hi (by have := h.le; lia)⟩

lemma IsTail.pass (h : IsTail p len c) (hp : p len) : IsTail p (len + 1) (c + 1) := by
  have hle := h.le
  refine ⟨by lia, fun i hi hlt => ?_, fun hlt => ?_⟩
  · rcases Nat.lt_succ_iff_lt_or_eq.mp hlt with hlt | rfl
    · exact h.all i (by lia) hlt
    · exact hp
  · rw [Nat.add_sub_add_right]
    exact h.cut (by omega)

lemma IsTail.fail (hp : ¬p len) : IsTail p (len + 1) 0 :=
  ⟨Nat.zero_le _, fun _ hi hlt => absurd hlt (Nat.not_lt.mpr hi), fun _ => hp⟩

lemma IsTail.before_or_in (h : IsTail p len c) (hr : IsRun p len s n) (hpos : 0 < n) : s + n ≤ len - c ∨ len - c ≤ s := by
  by_contra hcon
  have hlen := hr.le
  have hle := h.le
  exact h.cut (by lia) (hr.all _ (by lia) (by lia))

/-- The last run is the first longest one if it is longer than the runs before it. -/
lemma IsTail.close_new (h : IsTail p len c) (hb : IsFirstLongest p (len - c) s n) (hlt : n < c) :
    IsFirstLongest p len (len - c) c := by
  have hle := h.le
  have hsplit : ∀ s' n', IsRun p len s' n' → 0 < n' → n' ≤ n ∨ len - c ≤ s' := by
    intro s' n' hr hpos
    rcases h.before_or_in hr hpos with hbefore | hin
    · exact Or.inl (hb.longest s' n' ⟨hbefore, hr.all⟩)
    · exact Or.inr hin
  refine ⟨h.isRun, fun s' n' hr => ?_, fun s' hr => ?_⟩
  · have hlen := hr.le
    rcases Nat.eq_zero_or_pos n' with hzero | hpos
    · lia
    · rcases hsplit s' n' hr hpos with hshort | hin
      · lia
      · lia
  · rcases hsplit s' c hr (Nat.zero_lt_of_lt hlt) with hshort | hin
    · omega
    · exact hin

lemma IsTail.close_old (h : IsTail p len c) (hb : IsFirstLongest p (len - c) s n) (hle : c ≤ n) :
    IsFirstLongest p len s n := by
  have hlen := h.le
  have hbound := hb.run.le
  refine ⟨hb.run.mono (Nat.sub_le _ _), fun s' n' hr => ?_, fun s' hr => ?_⟩
  · have hend := hr.le
    rcases Nat.eq_zero_or_pos n' with hzero | hpos
    · lia
    · rcases h.before_or_in hr hpos with hbefore | hin
      · exact hb.longest s' n' ⟨hbefore, hr.all⟩
      · lia
  · have hend := hr.le
    rcases Nat.eq_zero_or_pos n with hzero | hpos
    · have hfirst := hb.first 0 ⟨by lia, fun i _ hlt => absurd hlt (by lia)⟩
      lia
    · rcases h.before_or_in hr hpos with hbefore | hin
      · exact hb.first s' ⟨hbefore, hr.all⟩
      · lia

lemma IsFirstLongest.fail (h : IsFirstLongest p len s n) (hp : ¬p len) : IsFirstLongest p (len + 1) s n := by
  have hcut : ∀ s' n', IsRun p (len + 1) s' n' → 0 < n' → IsRun p len s' n' := by
    intro s' n' hr hpos
    refine ⟨Nat.le_of_not_lt fun hlt => hp (hr.all len ?_ hlt), hr.all⟩
    have hend := hr.le
    lia
  refine ⟨h.run.mono (Nat.le_succ _), fun s' n' hr => ?_, fun s' hr => ?_⟩
  · rcases Nat.eq_zero_or_pos n' with hzero | hpos
    · omega
    · exact h.longest s' n' (hcut s' n' hr hpos)
  · rcases Nat.eq_zero_or_pos n with hzero | hpos
    · have hfirst := h.first 0 ⟨by omega, fun i _ hlt => absurd hlt (by lia)⟩
      lia
    · exact h.first s' (hcut s' n hr hpos)

/-- What is known after `len` places: the last run of length `c`, and the first longest run before it. -/
structure Scanned (p : ℕ → Prop) (len c s n : ℕ) : Prop where
  tail : IsTail p len c
  best : IsFirstLongest p (len - c) s n

lemma Scanned.start : Scanned p 0 0 0 0 := by
  refine ⟨⟨le_rfl, fun i _ hlt => absurd hlt (Nat.not_lt_zero i), fun h => absurd h (lt_irrefl 0)⟩, ?_⟩
  refine ⟨⟨le_rfl, fun i _ hlt => absurd hlt (Nat.not_lt_zero i)⟩, fun s' n' hr => ?_, fun s' _ => Nat.zero_le s'⟩
  have hend := hr.le
  lia

lemma Scanned.pass (h : Scanned p len c s n) (hp : p len) : Scanned p (len + 1) (c + 1) s n := by
  refine ⟨h.tail.pass hp, ?_⟩
  rw [Nat.add_sub_add_right]
  exact h.best

/-- The first longest run of all places so far. -/
theorem Scanned.close (h : Scanned p len c s n) :
    IsFirstLongest p len (if n < c then len - c else s) (if n < c then c else n) := by
  split_ifs with hlt
  · exact h.tail.close_new h.best hlt
  · exact h.tail.close_old h.best (Nat.le_of_not_lt hlt)

lemma IsFirstLongest.middle (h : IsFirstLongest p len s n) (hpos : 0 < n) : p (s + n / 2) :=
  h.run.all _ (Nat.le_add_right _ _) (Nat.add_lt_add_left (Nat.div_lt_self hpos (by decide)) s)

/-- The `n` places of a circle of `len` places from `s` on have the property, and none of them is met twice. -/
structure IsArc (p : ℕ → Prop) (len s n : ℕ) : Prop where
  le : n ≤ len
  all : ∀ j < n, p ((s + j) % len)

/-- The place `i` is in a longest arc. -/
def InLongestArc (p : ℕ → Prop) (len i : ℕ) : Prop :=
  ∃ s n, IsArc p len s n ∧ (∀ s' n', IsArc p len s' n' → n' ≤ n) ∧ ∃ j < n, (s + j) % len = i

lemma IsArc.isRun (h : IsArc p len s n) (hpos : 0 < len) : IsRun (fun i => p (i % len)) (2 * len) (s % len) n := by
  have hle := h.le
  have hmod := Nat.mod_lt s hpos
  refine ⟨by lia, fun i hi hlt => ?_⟩
  obtain ⟨j, rfl⟩ := Nat.exists_eq_add_of_le hi
  rw [Nat.mod_add_mod]
  exact h.all j (by lia)

/-- A run of a circle written down twice goes once round it at most, unless every place has the property. -/
lemma IsRun.lt_of_not_all {f : ℕ} (h : IsRun (fun i => p (i % len)) (2 * len) s n) (hf : f < len) (hp : ¬p f) : n < len := by
  by_contra hge
  have hend := h.le
  rcases Nat.lt_or_ge f s with hlt | hle
  · have hall := h.all (f + len) (by lia) (by lia)
    rw [Nat.add_mod_right, Nat.mod_eq_of_lt hf] at hall
    exact hp hall
  · have hall := h.all f hle (by lia)
    rw [Nat.mod_eq_of_lt hf] at hall
    exact hp hall

/-- The middle of a longest run of a circle written down twice is in a longest arc. -/
theorem IsFirstLongest.inLongestArc (h : IsFirstLongest (fun i => p (i % len)) (2 * len) s n) (hpos : 0 < n) :
    InLongestArc p len ((s + n / 2) % len) := by
  have hend := h.run.le
  have hlen : 0 < len := by lia
  by_cases hall : ∀ i < len, p i
  · refine ⟨0, len, ⟨le_rfl, fun j hj => hall _ (Nat.mod_lt _ hlen)⟩, fun s' n' harc => harc.le,
      (s + n / 2) % len, Nat.mod_lt _ hlen, ?_⟩
    rw [Nat.zero_add, Nat.mod_mod]
  · obtain ⟨f, hf⟩ := not_forall.mp hall
    obtain ⟨hlt, hp⟩ := Classical.not_imp.mp hf
    have hn := h.run.lt_of_not_all hlt hp
    refine ⟨s, n, ⟨hn.le, fun j hj => h.run.all (s + j) (Nat.le_add_right _ _) (Nat.add_lt_add_left hj s)⟩,
      fun s' n' harc => h.longest _ _ (harc.isRun hlen), n / 2, Nat.div_lt_self hpos (by decide), rfl⟩

section MaxRuns

variable {s' n' i : ℕ}

/-- A run that goes on neither before its first place nor behind its last one. -/
structure IsMaxRun (p : ℕ → Prop) (len s n : ℕ) : Prop where
  run : IsRun p len s n
  pos : 0 < n
  before : 0 < s → ¬p (s - 1)
  after : s + n < len → ¬p (s + n)

/-- A run of the greatest length. -/
structure IsLongest (p : ℕ → Prop) (len s n : ℕ) : Prop where
  run : IsRun p len s n
  pos : 0 < n
  longest : ∀ s' n', IsRun p len s' n' → n' ≤ n

lemma IsMaxRun.contains (h : IsMaxRun p len s n) (hr : IsRun p len s' n') (hi : s ≤ i) (hlt : i < s + n) (hi' : s' ≤ i)
    (hlt' : i < s' + n') : s ≤ s' ∧ s' + n' ≤ s + n := by
  have hend := hr.le
  constructor
  · by_contra hcon
    exact h.before (by lia) (hr.all _ (by lia) (by lia))
  · by_contra hcon
    exact h.after (by lia) (hr.all _ (by lia) (by lia))

lemma IsMaxRun.unique (h : IsMaxRun p len s n) (h' : IsMaxRun p len s' n') (hi : s ≤ i) (hlt : i < s + n) (hi' : s' ≤ i)
    (hlt' : i < s' + n') : s = s' ∧ n = n' := by
  have hin := h.contains h'.run hi hlt hi' hlt'
  have hin' := h'.contains h.run hi' hlt' hi hlt
  lia

variable {q : ℕ → Bool} {start : Option ℕ} {pos k : ℕ}

/-- The run that ends before `pos`, if there is one. -/
def ended (start : Option ℕ) (pos : ℕ) : List (ℕ × ℕ) := (start.map fun s => (s, pos - s)).toList

/-- The maximal runs of the next `k` places from `pos` on, by their first places and their lengths. The first of them
may have begun before. -/
def runs (q : ℕ → Bool) (start : Option ℕ) (pos : ℕ) : ℕ → List (ℕ × ℕ)
  | 0 => ended start pos
  | k + 1 => if q pos then runs q (some (start.getD pos)) (pos + 1) k else ended start pos ++ runs q none (pos + 1) k

/-- What is known of the run that reaches `pos`. -/
structure Reaches (q : ℕ → Bool) (start : Option ℕ) (pos : ℕ) : Prop where
  all : ∀ s, start = some s → s < pos ∧ ∀ i, s ≤ i → i < pos → q i = true
  before : ∀ s, start.getD pos = s → 0 < s → ¬q (s - 1) = true

lemma Reaches.pass (h : Reaches q start pos) (hq : q pos = true) : Reaches q (some (start.getD pos)) (pos + 1) := by
  refine ⟨fun s hs => ?_, fun s hs => h.before s hs⟩
  obtain rfl := Option.some.inj hs
  cases start with
  | none =>
    refine ⟨Nat.lt_succ_self pos, fun i hi hlt => ?_⟩
    obtain rfl : pos = i := by
      change pos ≤ i at hi
      lia
    exact hq
  | some s =>
    obtain ⟨hlt, hall⟩ := h.all s rfl
    refine ⟨Nat.lt_succ_of_lt hlt, fun i hi hi' => ?_⟩
    rcases Nat.lt_succ_iff_lt_or_eq.mp hi' with hbefore | rfl
    · exact hall i hi hbefore
    · exact hq

lemma Reaches.fail (hq : ¬q pos = true) : Reaches q none (pos + 1) :=
  by
  refine ⟨fun _ hs => absurd hs nofun, fun s hs _ => ?_⟩
  obtain rfl : pos + 1 = s := hs
  exact hq

lemma Reaches.ended (h : Reaches q start pos) (hle : pos ≤ len) (hq : pos < len → ¬q pos = true) {r : ℕ × ℕ}
    (hr : r ∈ ended start pos) : IsMaxRun (fun i => q i = true) len r.1 r.2 := by
  cases start with
  | none => exact absurd hr List.not_mem_nil
  | some s =>
    obtain rfl := List.mem_singleton.mp hr
    obtain ⟨hlt, hall⟩ := h.all s rfl
    have hend : s + (pos - s) = pos := by lia
    refine ⟨⟨by dsimp only; lia, fun i hi hi' => hall i hi (by dsimp only at hi'; lia)⟩, by dsimp only; lia,
      h.before s rfl, ?_⟩
    dsimp only
    rw [hend]
    exact hq

lemma Reaches.isMaxRun (h : Reaches q start pos) {r : ℕ × ℕ} (hr : r ∈ runs q start pos k) :
    IsMaxRun (fun i => q i = true) (pos + k) r.1 r.2 := by
  induction k generalizing start pos with
  | zero => exact h.ended (Nat.le_refl _) (fun hlt => absurd hlt (Nat.lt_irrefl _)) hr
  | succ k ih =>
    rw [runs] at hr
    rw [Nat.add_comm k, ← Nat.add_assoc]
    split_ifs at hr with hq
    · exact ih (h.pass hq) hr
    · rcases List.mem_append.mp hr with hended | hlater
      · exact h.ended (by lia) (fun _ => hq) hended
      · exact ih (Reaches.fail hq) hlater

lemma exists_mem_ended (hi : start.getD pos ≤ i) (hlt : i < pos) :
    ∃ r ∈ ended start pos, r.1 ≤ i ∧ i < r.1 + r.2 := by
  cases start with
  | none => exact absurd hi (by change ¬pos ≤ i; omega)
  | some s => exact ⟨_, List.mem_singleton_self _, hi, by change i < s + (pos - s); lia⟩

lemma exists_mem_runs (hi : start.getD pos ≤ i) (hlt : i < pos + k) (hq : pos ≤ i → q i = true) :
    ∃ r ∈ runs q start pos k, r.1 ≤ i ∧ i < r.1 + r.2 := by
  induction k generalizing start pos with
  | zero => exact exists_mem_ended hi hlt
  | succ k ih =>
    rw [runs]
    by_cases hpass : q pos = true
    · rw [if_pos hpass]
      exact ih hi (by lia) fun hle => hq (by omega)
    · rw [if_neg hpass]
      rcases Nat.lt_trichotomy i pos with hbefore | rfl | hafter
      · obtain ⟨r, hr, hin⟩ := exists_mem_ended hi hbefore
        exact ⟨r, List.mem_append_left _ hr, hin⟩
      · exact absurd (hq (Nat.le_refl i)) hpass
      · obtain ⟨r, hr, hin⟩ := @ih none (pos + 1) hafter (by lia) fun hle => hq (by omega)
        exact ⟨r, List.mem_append_right _ hr, hin⟩

lemma Reaches.zero : Reaches q none 0 := by
  refine ⟨fun _ hs => absurd hs nofun, fun s hs hpos => ?_⟩
  obtain rfl : 0 = s := hs
  exact absurd hpos (Nat.lt_irrefl 0)

lemma IsRun.exists_mem_runs (hr : IsRun (fun i => q i = true) k s n) (hpos : 0 < n) :
    ∃ r ∈ runs q none 0 k, r.1 ≤ s ∧ s + n ≤ r.1 + r.2 := by
  have hend := hr.le
  obtain ⟨r, hmem, hle, hlt⟩ := @LongestRun.exists_mem_runs s q none 0 k (Nat.zero_le s) (by lia)
    fun _ => hr.all s (Nat.le_refl s) (by omega)
  have hmax := Reaches.zero.isMaxRun hmem
  rw [Nat.zero_add] at hmax
  exact ⟨r, hmem, hmax.contains hr hle hlt (Nat.le_refl s) (by omega)⟩

/-- The longest runs are the longest of those that are listed. -/
theorem isLongest_iff : IsLongest (fun i => q i = true) k s n ↔
    (s, n) ∈ runs q none 0 k ∧ ∀ r ∈ runs q none 0 k, r.2 ≤ n := by
  have hmax : ∀ r ∈ runs q none 0 k, IsMaxRun (fun i => q i = true) k r.1 r.2 := by
    intro r hr
    have hrun := Reaches.zero.isMaxRun hr
    rwa [Nat.zero_add] at hrun
  constructor
  · intro h
    obtain ⟨r, hmem, hle, hlast⟩ := h.run.exists_mem_runs h.pos
    have hlength := h.longest _ _ (hmax r hmem).run
    have hr : r = (s, n) := Prod.ext (by lia) (by lia)
    rw [hr] at hmem
    exact ⟨hmem, fun r' hr' => h.longest _ _ (hmax r' hr').run⟩
  · rintro ⟨hmem, hlongest⟩
    refine ⟨(hmax _ hmem).run, (hmax _ hmem).pos, fun s' n' hr => ?_⟩
    rcases Nat.eq_zero_or_pos n' with hzero | hpos
    · omega
    · obtain ⟨r, hr', hle, hlast⟩ := hr.exists_mem_runs hpos
      have hlength := hlongest r hr'
      lia

end MaxRuns

end LongestRun
