import Mathlib.Data.Finset.Erase
import Mathlib.Data.Finset.Insert
import Mathlib.Logic.Function.Basic
import Mathlib.Tactic.Common

/-!
# Ownership of allocated blocks

Each owner holds at most one block. The rules below are those of a new block and of a block
given back.
-/

namespace Ownership
open Function

variable {ι α : Type*}

/-- The live blocks are those that have an owner, and none has two. -/
structure Owns (live : Finset α) (own : ι → Option α) : Prop where
  live_of_own : ∀ {i a}, own i = some a → a ∈ live
  owner : ∀ {a}, a ∈ live → ∃ i, own i = some a
  uniq : ∀ {i j a}, own i = some a → own j = some a → i = j

namespace Owns

variable {live : Finset α} {own : ι → Option α} {i : ι} {a : α}

lemma empty : Owns (∅ : Finset α) (fun _ : ι => none) where
  live_of_own h := by cases h
  owner h := by cases h
  uniq h := by cases h

lemma eq_empty (h : Owns live own) (hown : ∀ i, own i = none) : live = ∅ := by
  apply Finset.eq_empty_of_forall_notMem
  intro a ha
  obtain ⟨i, hi⟩ := h.owner ha
  simp [hown i] at hi

variable [DecidableEq ι] [DecidableEq α]

lemma acquire (h : Owns live own) (hi : own i = none) (ha : a ∉ live) :
    Owns (insert a live) (update own i (some a)) where
  live_of_own := by
    intro j b hj
    by_cases hji : j = i
    · subst hji
      rw [update_self, Option.some_inj] at hj
      exact hj ▸ Finset.mem_insert_self a live
    · rw [update_of_ne hji] at hj
      exact Finset.mem_insert_of_mem (h.live_of_own hj)
  owner := by
    intro b hb
    rcases Finset.mem_insert.mp hb with rfl | hb
    · exact ⟨i, update_self ..⟩
    · obtain ⟨j, hj⟩ := h.owner hb
      have hji : j ≠ i := by
        rintro rfl
        simp [hi] at hj
      exact ⟨j, by rwa [update_of_ne hji]⟩
  uniq := by
    intro j k b hj hk
    by_cases hji : j = i
    · by_cases hki : k = i
      · rw [hji, hki]
      · subst hji
        rw [update_self, Option.some_inj] at hj
        rw [update_of_ne hki] at hk
        exact absurd (h.live_of_own hk) (hj ▸ ha)
    · rw [update_of_ne hji] at hj
      by_cases hki : k = i
      · subst hki
        rw [update_self, Option.some_inj] at hk
        exact absurd (h.live_of_own hj) (hk ▸ ha)
      · rw [update_of_ne hki] at hk
        exact h.uniq hj hk

lemma release (h : Owns live own) (hi : own i = some a) :
    Owns (live.erase a) (update own i none) where
  live_of_own := by
    intro j b hj
    have hji : j ≠ i := by
      rintro rfl
      simp at hj
    rw [update_of_ne hji] at hj
    refine Finset.mem_erase.mpr ⟨?_, h.live_of_own hj⟩
    rintro rfl
    exact hji (h.uniq hj hi)
  owner := by
    intro b hb
    obtain ⟨hne, hb⟩ := Finset.mem_erase.mp hb
    obtain ⟨j, hj⟩ := h.owner hb
    have hji : j ≠ i := by
      rintro rfl
      exact hne (Option.some_inj.mp (hj.symm.trans hi))
    exact ⟨j, by rwa [update_of_ne hji]⟩
  uniq := by
    intro j k b hj hk
    have hji : j ≠ i := by
      rintro rfl
      simp at hj
    have hki : k ≠ i := by
      rintro rfl
      simp at hk
    rw [update_of_ne hji] at hj
    rw [update_of_ne hki] at hk
    exact h.uniq hj hk

end Owns

end Ownership

/-!
## Two tables that point at each other

A link between an `α` and a `β` is written down on both sides, in `f : α → Option β` and in
`g : β → Option α`. The lemmas say what making and removing a link asks for.
-/

namespace LinkTable
open Function

variable {α β : Type*}

/-- Every link in `f` is also in `g`. -/
def Tracks (f : α → Option β) (g : β → Option α) : Prop := ∀ a b, f a = some b → g b = some a

/-- Both tables hold the same links. -/
def Mutual (f : α → Option β) (g : β → Option α) : Prop := ∀ a b, f a = some b ↔ g b = some a

variable {f : α → Option β} {g : β → Option α} {a a' : α} {b : β}

lemma mutual_iff : Mutual f g ↔ Tracks f g ∧ Tracks g f :=
  ⟨fun h => ⟨fun a b => (h a b).mp, fun b a => (h a b).mpr⟩,
    fun h a b => ⟨h.1 a b, h.2 b a⟩⟩

lemma Tracks.inj (h : Tracks f g) (ha : f a = some b) (ha' : f a' = some b) : a = a' :=
  Option.some_inj.mp ((h a b ha).symm.trans (h a' b ha'))

variable [DecidableEq α] [DecidableEq β]

lemma Tracks.link (h : Tracks f g) (hb : g b = none) :
    Tracks (update f a (some b)) (update g b (some a)) := by
  intro x y hxy
  by_cases hx : x = a
  · subst hx
    rw [update_self, Option.some_inj] at hxy
    rw [hxy, update_self]
  · rw [update_of_ne hx] at hxy
    have hgy := h x y hxy
    have hy : y ≠ b := by
      rintro rfl
      simp [hb] at hgy
    rwa [update_of_ne hy]

lemma Tracks.unlink (h : Tracks f g) (hb : g b = some a) :
    Tracks (update f a none) (update g b none) := by
  intro x y hxy
  by_cases hx : x = a
  · simp [hx] at hxy
  · rw [update_of_ne hx] at hxy
    have hgy := h x y hxy
    have hy : y ≠ b := by
      rintro rfl
      exact hx (Option.some_inj.mp (hgy.symm.trans hb))
    rwa [update_of_ne hy]

lemma Mutual.link (h : Mutual f g) (ha : f a = none) (hb : g b = none) :
    Mutual (update f a (some b)) (update g b (some a)) := by
  rw [mutual_iff] at h ⊢
  exact ⟨h.1.link hb, h.2.link ha⟩

lemma Mutual.unlink (h : Mutual f g) (hb : g b = some a) :
    Mutual (update f a none) (update g b none) := by
  have ha : f a = some b := (h a b).mpr hb
  rw [mutual_iff] at h ⊢
  exact ⟨h.1.unlink hb, h.2.unlink ha⟩

end LinkTable

/-!
## A value and the place where it is stashed

A quiet value replaces a value that is kept aside. There is one place for it, so that only one of two replacements
in a row can be taken back.
-/

/-- A value and what was stashed last. -/
@[ext] structure Stash (α : Type*) where
  value : α
  stashed : α

namespace Stash

variable {α : Type*} {quiet : α} {s : Stash α}

def stash (quiet : α) (s : Stash α) : Stash α := ⟨quiet, s.value⟩

def restore (s : Stash α) : Stash α := ⟨s.stashed, s.stashed⟩

@[simp] lemma stash_value : (s.stash quiet).value = quiet := rfl

@[simp] lemma stash_stashed : (s.stash quiet).stashed = s.value := rfl

@[simp] lemma restore_value : s.restore.value = s.stashed := rfl

@[simp] lemma restore_stashed : s.restore.stashed = s.stashed := rfl

end Stash
