import Mathlib.Data.List.Basic
import Mathlib.Data.Int.Basic
import Mathlib.Tactic.Common

/-!
# A cursor on a sequence

A cursor is at an element of a sequence or at none. What cannot be done has no result and leaves the cursor
and the sequence alone.
-/

variable {δ : Type*}

inductive Cursor (δ : Type*)
  | off (items : List δ)
  | on (before : List δ) (item : δ) (after : List δ)
deriving DecidableEq

namespace Cursor

def items : Cursor δ → List δ
  | .off items => items
  | .on before item after => before ++ item :: after

def item? : Cursor δ → Option δ
  | .off _ => none
  | .on _ item _ => some item

/-- At element `i` of the sequence -/
def place (items : List δ) (i : ℕ) : Option (Cursor δ) :=
  match items.drop i with
  | [] => none
  | item :: after => some (.on (items.take i) item after)

/-- At the first element, if there is one -/
def atFirst : List δ → Cursor δ
  | [] => .off []
  | item :: after => .on [] item after

/-- At the last element, if there is one -/
def atLast (items : List δ) : Cursor δ := (place items (items.length - 1)).getD (.off items)

/-- `k` elements on, or back if `k` is negative -/
def move (k : ℤ) : Cursor δ → Option (Cursor δ)
  | .off _ => none
  | .on before item after =>
    if 0 ≤ before.length + k then place (before ++ item :: after) (before.length + k).toNat else none

/-- To the first element that satisfies `hit` -/
def find (hit : δ → Bool) (c : Cursor δ) : Option (Cursor δ) := place c.items (c.items.takeWhile (!hit ·)).length

/-- A new item next to the element, or the first one of the sequence -/
def insert (after : Bool) (new : δ) : Cursor δ → Option (Cursor δ)
  | .off [] => some (.off [new])
  | .off (_ :: _) => none
  | .on before item rest => some (if after then .on before item (new :: rest) else .on (before ++ [new]) item rest)

/-- Take the element out. The cursor goes to the next one, or to the previous one if it was the last. -/
def get : Cursor δ → Option (δ × Cursor δ)
  | .off _ => none
  | .on before item (next :: after) => some (item, .on before next after)
  | .on before item [] => some (item, atLast before)

def edit (new : δ) : Cursor δ → Option (Cursor δ)
  | .off _ => none
  | .on before _ after => some (.on before new after)

variable {c c' : Cursor δ} {before after xs : List δ} {item new : δ} {i : ℕ}

lemma place_length (before : List δ) (item : δ) (after : List δ) :
    place (before ++ item :: after) before.length = some (.on before item after) := by
  rw [place, List.drop_left, List.take_left]

lemma atLast_concat (xs : List δ) (item : δ) : atLast (xs ++ [item]) = .on xs item [] := by
  rw [atLast, List.length_append, List.length_singleton, Nat.add_sub_cancel, place_length]
  rfl

lemma items_place (h : place xs i = some c) : c.items = xs := by
  rw [place] at h
  cases hdrop : xs.drop i with
  | nil =>
    rw [hdrop] at h
    exact absurd h.symm (Option.some_ne_none _)
  | cons item after =>
    rw [hdrop, Option.some.injEq] at h
    rw [← h, items, ← hdrop, List.take_append_drop]

lemma items_atLast (xs : List δ) : (atLast xs).items = xs := by
  rw [atLast]
  cases h : place xs (xs.length - 1) with
  | none => rfl
  | some c => exact items_place h

/-- Moving and searching leave the sequence alone. -/
theorem items_move {k : ℤ} (h : c.move k = some c') : c'.items = c.items := by
  cases c with
  | off items => exact absurd h.symm (Option.some_ne_none _)
  | on before item after =>
    rw [move] at h
    split at h
    · exact items_place h
    · exact absurd h.symm (Option.some_ne_none _)

theorem items_find {hit : δ → Bool} (h : c.find hit = some c') : c'.items = c.items := items_place h

lemma length_place (h : place xs i = some (.on before item after)) : before.length = i := by
  rw [place] at h
  cases hdrop : xs.drop i with
  | nil =>
    rw [hdrop] at h
    exact absurd h.symm (Option.some_ne_none _)
  | cons x rest =>
    rw [hdrop, Option.some.injEq, Cursor.on.injEq] at h
    have hlt : i < xs.length := by
      by_contra hle
      rw [List.drop_eq_nil_of_le (not_lt.mp hle)] at hdrop
      exact absurd hdrop (List.cons_ne_nil _ _).symm
    rw [← h.1, List.length_take_of_le (Nat.le_of_lt hlt)]

/-- A move by a number other than 0 does not stay. -/
theorem move_ne_self {k : ℤ} (hk : k ≠ 0) : c.move k ≠ some c := by
  intro h
  cases c with
  | off items => exact absurd h.symm (Option.some_ne_none _)
  | on before item after =>
    rw [move] at h
    split at h
    · have hlen := length_place h
      lia
    · exact absurd h.symm (Option.some_ne_none _)

/-- Taking out removes the element and nothing else; without one the sequence has become empty. -/
theorem items_get (h : (Cursor.on before item after).get = some (new, c')) :
    new = item ∧ c'.items = before ++ after ∧ (c'.item? = none ↔ before ++ after = []) := by
  cases after with
  | cons next after =>
    obtain ⟨rfl, rfl⟩ := Prod.mk.inj (Option.some.inj h)
    exact ⟨rfl, rfl, by simp [item?]⟩
  | nil =>
    obtain ⟨rfl, rfl⟩ := Prod.mk.inj (Option.some.inj h)
    rw [List.append_nil]
    refine ⟨rfl, items_atLast before, ?_⟩
    rcases List.eq_nil_or_concat before with rfl | ⟨xs, x, rfl⟩
    · exact iff_of_true rfl rfl
    · rw [List.concat_eq_append, atLast_concat]
      simp [item?]

end Cursor
