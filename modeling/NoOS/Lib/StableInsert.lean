import Mathlib.Data.Finset.Max
import Mathlib.Data.List.Induction
import Mathlib.Data.List.Sort
import Mathlib.Data.List.TakeWhile

/-!
# Stable insertion

An item is inserted behind everything that is not greater. The sequence stays in order, and the items that are
neither less nor greater than each other stay in the order of their insertion. Taken from the front, they also
leave in that order.
-/

namespace StableInsert

variable {δ : Type*} (le : δ → δ → Prop) [DecidableRel le]

/-- Neither is less than the other. -/
def Alike (v e : δ) : Prop := le v e ∧ le e v

instance : DecidableRel (Alike le) := fun v e => inferInstanceAs (Decidable (le v e ∧ le e v))

/-- Behind everything that is not greater than `d` -/
def insertBehind (d : δ) (ds : List δ) : List δ := ds.orderedInsert (fun a b => ¬le b a) d

variable {le} {d v : δ} {ds : List δ}

lemma insertBehind_eq (d : δ) (ds : List δ) :
    insertBehind le d ds = ds.takeWhile (fun e => le e d) ++ d :: ds.dropWhile (fun e => le e d) := by
  simp only [insertBehind, List.orderedInsert_eq_take_drop, not_not]

lemma insertBehind_cons (d e : δ) (ds : List δ) :
    insertBehind le d (e :: ds) = if le e d then e :: insertBehind le d ds else d :: e :: ds := by
  rw [insertBehind, List.orderedInsert_cons, ite_not]
  rfl

lemma perm_insertBehind (d : δ) (ds : List δ) : (insertBehind le d ds).Perm (d :: ds) := List.perm_orderedInsert _ _ _

section Preorder

variable [Std.Total le] [IsTrans δ le]

theorem pairwise_insertBehind (h : ds.Pairwise le) : (insertBehind le d ds).Pairwise le := by
  induction ds with
  | nil => exact List.pairwise_singleton le d
  | cons e ds ih =>
    obtain ⟨he, hds⟩ := List.pairwise_cons.mp h
    rw [insertBehind_cons]
    by_cases hle : le e d
    · rw [if_pos hle, List.pairwise_cons]
      refine ⟨fun x hx => ?_, ih hds⟩
      rcases List.mem_cons.mp ((perm_insertBehind d ds).mem_iff.mp hx) with rfl | hmem
      · exact hle
      · exact he x hmem
    · have hde : le d e := (Std.Total.total e d).resolve_left hle
      rw [if_neg hle, List.pairwise_cons]
      refine ⟨fun x hx => ?_, h⟩
      rcases List.mem_cons.mp hx with rfl | hmem
      · exact hde
      · exact IsTrans.trans d e x hde (he x hmem)

/-- The item is the last one among those like it. -/
theorem filter_insertBehind (h : ds.Pairwise le) (v d : δ) :
    (insertBehind le d ds).filter (fun e => Alike le v e) =
      ds.filter (fun e => Alike le v e) ++ [d].filter (fun e => Alike le v e) := by
  induction ds with
  | nil => rfl
  | cons e ds ih =>
    obtain ⟨he, hds⟩ := List.pairwise_cons.mp h
    rw [insertBehind_cons]
    by_cases hle : le e d
    · rw [if_pos hle, List.filter_cons, List.filter_cons, ih hds]
      split
      · rfl
      · rfl
    · rw [if_neg hle, ← List.singleton_append, List.filter_append]
      by_cases hd : Alike le v d
      · -- everything from here on is greater than `d`, and so than `v`
        have hnone : (e :: ds).filter (fun e => Alike le v e) = [] := by
          refine List.filter_eq_nil_iff.mpr fun x hx hv => ?_
          have hex : le e x := by
            rcases List.mem_cons.mp hx with rfl | hmem
            · exact (Std.Total.total x x).elim id id
            · exact he x hmem
          have hxd : le x d := IsTrans.trans x v d (of_decide_eq_true hv).2 hd.1
          exact hle (IsTrans.trans e x d hex hxd)
        rw [hnone, List.append_nil, List.nil_append]
      · have hd' : [d].filter (fun e => Alike le v e) = [] := List.filter_eq_nil_iff.mpr (by simpa using hd)
        rw [hd', List.nil_append, List.append_nil]

end Preorder

section Keys

variable {κ : Type*} [LinearOrder κ] {key : δ → κ}

/-- The comparison with `d` places it among `ds` in the order of the keys: no less item stops it, and the least
of the greater ones does. -/
def Placed (le : δ → δ → Prop) (key : δ → κ) (ds : List δ) (d : δ) : Prop :=
  (∀ e ∈ ds, key e < key d → le e d) ∧
    ∀ s ∈ ds, key d < key s → (∀ e ∈ ds, key d < key e → key s ≤ key e) → ¬le s d

omit [DecidableRel le] in
lemma Placed.congr {es : List δ} (h : ∀ e, e ∈ ds ↔ e ∈ es) : Placed le key ds d ↔ Placed le key es d := by
  simp only [Placed, h]

omit [DecidableRel le] in
lemma exists_least_above {x : δ} (hx : x ∈ ds) (hd : key d < key x) :
    ∃ s ∈ ds, key d < key s ∧ ∀ e ∈ ds, key d < key e → key s ≤ key e := by
  classical
  obtain ⟨s, hs, hleast⟩ := Finset.exists_min_image (ds.toFinset.filter fun e => key d < key e) key
    ⟨x, by simp [hx, hd]⟩
  simp only [Finset.mem_filter, List.mem_toFinset] at hs hleast
  exact ⟨s, hs.1, hs.2, fun e he hde => hleast e ⟨he, hde⟩⟩

/-- A sequence in order stays so if and only if the item is placed in it. -/
theorem pairwise_insertBehind_iff (hkey : Function.Injective key) (hself : le d d)
    (h : ds.Pairwise fun a b => key a ≤ key b) :
    (insertBehind le d ds).Pairwise (fun a b => key a ≤ key b) ↔ Placed le key ds d := by
  obtain ⟨xs, ys, rfl, hinsert, hxs, hstop⟩ : ∃ xs ys, ds = xs ++ ys ∧ insertBehind le d ds = xs ++ d :: ys ∧
      (∀ x ∈ xs, le x d) ∧ ∀ f fs, ys = f :: fs → ¬le f d := by
    refine ⟨_, _, List.takeWhile_append_dropWhile.symm, insertBehind_eq d ds, fun x hx => ?_, fun f fs hf => ?_⟩
    · have hle := List.mem_takeWhile_imp hx
      exact of_decide_eq_true hle
    · have hhead := List.head_dropWhile_not (fun e => decide (le e d)) (l := ds) (by rw [hf]; exact List.cons_ne_nil f fs)
      simp only [hf, List.head_cons] at hhead
      exact of_decide_eq_false hhead
  rw [hinsert]
  obtain ⟨hx, hy, hxy⟩ := List.pairwise_append.mp h
  constructor
  · intro hsorted
    obtain ⟨-, hdy, hxd⟩ := List.pairwise_append.mp hsorted
    refine ⟨fun e he hlt => ?_, fun s hs hlt hleast hle => ?_⟩
    · rcases List.mem_append.mp he with hex | hey
      · exact hxs e hex
      · exact absurd ((List.pairwise_cons.mp hdy).1 e hey) (not_le.mpr hlt)
    · rcases List.mem_append.mp hs with hsx | hsy
      · exact absurd (hxd s hsx d List.mem_cons_self) (not_le.mpr hlt)
      · -- the item that stops `d` is greater, and the least of the greater ones
        obtain ⟨f, fs, rfl⟩ := List.exists_cons_of_ne_nil (List.ne_nil_of_mem hsy)
        have hfd : ¬le f d := hstop f fs rfl
        have hne : key d ≠ key f := fun hc => hfd (hkey hc ▸ hself)
        have hdf : key d < key f := lt_of_le_of_ne ((List.pairwise_cons.mp hdy).1 f List.mem_cons_self) hne
        have hsf : key s ≤ key f := hleast f (List.mem_append_right xs List.mem_cons_self) hdf
        rcases List.mem_cons.mp hsy with rfl | hmem
        · exact hfd hle
        · have hfs : key f ≤ key s := (List.pairwise_cons.mp hy).1 s hmem
          exact hfd (hkey (le_antisymm hfs hsf) ▸ hle)
  · rintro ⟨hless, hgreater⟩
    refine List.pairwise_append.mpr ⟨hx, List.pairwise_cons.mpr ⟨fun y hmem => ?_, hy⟩, fun x hmem e he => ?_⟩
    · by_contra hlt
      obtain ⟨f, fs, rfl⟩ := List.exists_cons_of_ne_nil (List.ne_nil_of_mem hmem)
      have hfy : key f ≤ key y := by
        rcases List.mem_cons.mp hmem with rfl | hmem'
        · exact le_refl _
        · exact (List.pairwise_cons.mp hy).1 y hmem'
      have hfd : key f < key d := lt_of_le_of_lt hfy (not_le.mp hlt)
      exact hstop f fs rfl (hless f (List.mem_append_right xs List.mem_cons_self) hfd)
    · have hxd : key x ≤ key d := by
        by_contra hlt
        obtain ⟨s, hs, hds, hleast⟩ := exists_least_above (List.mem_append_left ys hmem) (not_le.mp hlt)
        have hnle : ¬le s d := hgreater s hs hds hleast
        rcases List.mem_append.mp hs with hsx | hsy
        · exact hnle (hxs s hsx)
        · have hxs' : key x ≤ key s := hxy x hmem s hsy
          have hsx : key s ≤ key x := hleast x (List.mem_append_left ys hmem) (not_le.mp hlt)
          exact hnle (hkey (le_antisymm hxs' hsx) ▸ hxs x hmem)
      rcases List.mem_cons.mp he with rfl | hey
      · exact hxd
      · exact hxy x hmem e hey

/-- The items inserted one after another -/
def insertAll (le : δ → δ → Prop) [DecidableRel le] (xs : List δ) : List δ :=
  xs.foldl (fun ds d => insertBehind le d ds) []

lemma insertAll_concat (xs : List δ) (d : δ) : insertAll le (xs ++ [d]) = insertBehind le d (insertAll le xs) := by
  rw [insertAll, List.foldl_append]
  rfl

lemma perm_insertAll (xs : List δ) : (insertAll le xs).Perm xs := by
  induction xs using List.reverseRecOn with
  | nil => exact List.Perm.refl _
  | append_singleton xs d ih =>
    rw [insertAll_concat]
    exact (perm_insertBehind d _).trans ((ih.cons d).trans (List.perm_append_singleton d xs).symm)

/-- The items are in order if and only if each of them has been placed. -/
theorem pairwise_insertAll_iff (hkey : Function.Injective key) (hself : ∀ d, le d d) (xs : List δ) :
    (insertAll le xs).Pairwise (fun a b => key a ≤ key b) ↔
      ∀ pre d, pre ++ [d] <+: xs → Placed le key pre d := by
  induction xs using List.reverseRecOn with
  | nil =>
    refine iff_of_true List.Pairwise.nil fun pre d hpre => ?_
    exact absurd (List.prefix_nil.mp hpre) (by simp)
  | append_singleton xs d ih =>
    have hmem : ∀ e, e ∈ insertAll le xs ↔ e ∈ xs := fun e => (perm_insertAll xs).mem_iff
    have hsub : (insertAll le xs).Sublist (insertBehind le d (insertAll le xs)) := by
      rw [insertBehind_eq]
      nth_rewrite 1 [← List.takeWhile_append_dropWhile (p := fun e => decide (le e d)) (l := insertAll le xs)]
      exact (List.sublist_cons_self d _).append_left _
    rw [insertAll_concat]
    constructor
    · intro hsorted pre e hpre
      have hold := hsorted.sublist hsub
      rcases List.prefix_concat_iff.mp hpre with heq | hshort
      · obtain ⟨rfl, he⟩ := List.append_inj' heq rfl
        obtain rfl : e = d := by simpa using he
        exact (Placed.congr hmem).mp ((pairwise_insertBehind_iff hkey (hself e) hold).mp hsorted)
      · exact ih.mp hold pre e hshort
    · intro hplaced
      have hold := ih.mpr fun pre e hpre => hplaced pre e (hpre.trans (List.prefix_append xs [d]))
      exact (pairwise_insertBehind_iff hkey (hself d) hold).mpr
        ((Placed.congr hmem).mpr (hplaced xs d (List.prefix_refl _)))

end Keys

/-- The items that came and left, in order, and those that remain -/
structure History (δ : Type*) where
  pushed : List δ := []
  popped : List δ := []
  remaining : List δ := []

namespace History

variable {h : History δ}

/-- Nothing is lost, alike items leave in the order they came, and the least of those that remain is next. -/
structure Ordered (le : δ → δ → Prop) [DecidableRel le] (h : History δ) : Prop where
  sorted : h.remaining.Pairwise le
  fifo : ∀ v, (h.popped ++ h.remaining).filter (fun e => Alike le v e) = h.pushed.filter (fun e => Alike le v e)
  conserved : h.pushed.Perm (h.popped ++ h.remaining)

lemma ordered_nil : ({} : History δ).Ordered le := ⟨List.Pairwise.nil, fun _ => rfl, List.Perm.refl _⟩

theorem Ordered.push [Std.Total le] [IsTrans δ le] (hh : h.Ordered le) (d : δ) :
    Ordered le { h with pushed := h.pushed ++ [d], remaining := insertBehind le d h.remaining } := by
  refine ⟨pairwise_insertBehind hh.sorted, fun v => ?_, ?_⟩
  · rw [List.filter_append, filter_insertBehind hh.sorted, ← List.append_assoc, ← List.filter_append, hh.fifo,
      List.filter_append]
  · have hnew : (h.pushed ++ [d]).Perm (h.popped ++ h.remaining ++ [d]) := hh.conserved.append_right [d]
    have hmiddle : (h.popped ++ h.remaining ++ [d]).Perm (h.popped ++ d :: h.remaining) :=
      (List.perm_append_singleton d _).trans List.perm_middle.symm
    exact hnew.trans (hmiddle.trans ((perm_insertBehind d h.remaining).symm.append_left h.popped))

theorem Ordered.pop {pushed popped rest : List δ} (hh : Ordered le ⟨pushed, popped, d :: rest⟩) :
    Ordered le ⟨pushed, popped ++ [d], rest⟩ := by
  refine ⟨hh.sorted.of_cons, fun v => ?_, ?_⟩
  · rw [← List.append_cons]
    exact hh.fifo v
  · rw [← List.append_cons]
    exact hh.conserved

lemma Ordered.head_le [Std.Refl le] (hh : h.Ordered le) (hd : h.remaining.head? = some d) {e : δ}
    (he : e ∈ h.remaining) : le d e := by
  obtain ⟨rest, hrest⟩ := List.head?_eq_some_iff.mp hd
  have hsorted := hh.sorted
  rw [hrest] at he hsorted
  rcases List.mem_cons.mp he with rfl | hmem
  · exact Std.Refl.refl e
  · exact (List.pairwise_cons.mp hsorted).1 e hmem

lemma Ordered.le_getLast [Std.Refl le] (hh : h.Ordered le) (hd : h.remaining.getLast? = some d) {e : δ}
    (he : e ∈ h.remaining) : le e d := by
  obtain ⟨front, hfront⟩ := List.getLast?_eq_some_iff.mp hd
  have hsorted := hh.sorted
  rw [hfront] at he hsorted
  rcases List.mem_append.mp he with hmem | hmem
  · exact (List.pairwise_append.mp hsorted).2.2 e hmem d (List.mem_singleton_self d)
  · rw [List.mem_singleton.mp hmem]
    exact Std.Refl.refl d

end History

end StableInsert
