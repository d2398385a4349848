import Mathlib.Data.List.Basic
import Mathlib.Data.Nat.Basic
import Mathlib.Order.Basic
import Mathlib.Tactic.Common

/-!
# Positions counted in laps

A position in an unbounded stream is kept on a ring of `n` cells as an index
`pos % n` and a lap count `pos / n`. The lemmas relate a step along the stream, and the
distance of two positions, to the two parts.
-/

namespace Lap

variable {n pos a r w : ℕ}

lemma advance_inside (h : pos % n + a < n) :
    (pos + a) % n = pos % n + a ∧ (pos + a) / n = pos / n := by
  have hpos := Nat.div_add_mod pos n
  have hn : 0 < n := by lia
  have he : pos + a = pos % n + a + n * (pos / n) := by lia
  constructor
  · rw [he, Nat.add_mul_mod_self_left, Nat.mod_eq_of_lt h]
  · rw [he, Nat.add_mul_div_left _ _ hn, Nat.div_eq_of_lt h, Nat.zero_add]

lemma advance_wrap (hn : 0 < n) (h : pos % n + a = n) :
    (pos + a) % n = 0 ∧ (pos + a) / n = pos / n + 1 := by
  have hpos := Nat.div_add_mod pos n
  have he : pos + a = n * (pos / n + 1) := by rw [Nat.mul_add, Nat.mul_one]; lia
  constructor
  · rw [he, Nat.mul_mod_right]
  · rw [he, Nat.mul_div_cancel_left _ hn]

lemma sub_eq (h : r ≤ w) : w - r + r % n = n * (w / n - r / n) + w % n := by
  have hw := Nat.div_add_mod w n
  have hr := Nat.div_add_mod r n
  have hle : r / n ≤ w / n := Nat.div_le_div_right h
  have hmul : n * (r / n) ≤ n * (w / n) := Nat.mul_le_mul_left n hle
  rw [Nat.mul_sub]
  lia

/-- Positions at most one lap apart are in the same lap or in consecutive ones. -/
lemma laps_le_one (hn : 0 < n) (hle : r ≤ w) (h : w ≤ r + n) :
    w / n = r / n ∨ w / n = r / n + 1 := by
  have h1 : r / n ≤ w / n := Nat.div_le_div_right hle
  have h2 : w / n ≤ (r + n) / n := Nat.div_le_div_right h
  rw [Nat.add_div_right r hn] at h2
  lia

/-- Positions less than one lap apart share an index only if they are equal. -/
lemma eq_of_mod_eq (hle : r ≤ w) (h : w < r + n) (hmod : w % n = r % n) : w = r := by
  have hsub := sub_eq (n := n) hle
  rw [hmod] at hsub
  have hzero : w / n - r / n = 0 := by
    by_contra hne
    have hmul := Nat.mul_le_mul_left n (Nat.one_le_iff_ne_zero.mpr hne)
    lia
  rw [hzero] at hsub
  lia

end Lap

/-!
## Windows of a stream kept on a ring

Cell `p % n` of a ring of `n` cells holds stream position `p`, for the positions of a
window. Writing ahead of the window leaves it alone, committing the written cells moves its
upper end, and reading a straight piece of the ring gives a straight piece of the stream.
-/

namespace RingWindow

variable {α : Type*}

/-- Overwrites the cells from `off` on by `data`. -/
def splice (cells : List α) (off : ℕ) (data : List α) : List α :=
  cells.take off ++ data ++ cells.drop (off + data.length)

/-- The `len` cells from `off` on. -/
def slice (cells : List α) (off len : ℕ) : List α := (cells.drop off).take len

variable {n lo hi w r off len : ℕ} {cells stream data : List α}

@[simp] lemma splice_nil (off : ℕ) : splice cells off [] = cells := by
  simp [splice]

lemma splice_length (h : off + data.length ≤ cells.length) :
    (splice cells off data).length = cells.length := by
  simp only [splice, List.length_append, List.length_take, List.length_drop]
  lia

lemma splice_getElem? (h : off + data.length ≤ cells.length) (i : ℕ) :
    (splice cells off data)[i]? =
      if off ≤ i ∧ i < off + data.length then data[i - off]? else cells[i]? := by
  have hoff : (cells.take off).length = off := by rw [List.length_take]; lia
  unfold splice
  rw [List.append_assoc, List.getElem?_append, hoff]
  by_cases h1 : i < off
  · rw [if_pos h1, if_neg (by lia), List.getElem?_take_of_lt h1]
  · rw [if_neg h1, List.getElem?_append]
    by_cases h2 : i < off + data.length
    · rw [if_pos (by lia), if_pos ⟨by lia, h2⟩]
    · rw [if_neg (by lia), if_neg (by lia), List.getElem?_drop]
      congr 1
      lia

lemma slice_length (h : off + len ≤ cells.length) : (slice cells off len).length = len := by
  rw [slice, List.length_take, List.length_drop]
  lia

lemma slice_getElem? (i : ℕ) :
    (slice cells off len)[i]? = if i < len then cells[off + i]? else none := by
  rw [slice, List.getElem?_take, List.getElem?_drop]

lemma slice_splice (h : off + data.length ≤ cells.length) :
    slice (splice cells off data) off data.length = data := by
  apply List.ext_getElem?
  intro i
  rw [slice_getElem?, splice_getElem? h]
  by_cases hi : i < data.length
  · rw [if_pos hi, if_pos ⟨by lia, by lia⟩]
    congr 1
    lia
  · rw [if_neg hi, List.getElem?_eq_none (by omega)]

/-- The ring holds the stream positions `lo ≤ p < hi`. -/
def Holds (n : ℕ) (cells stream : List α) (lo hi : ℕ) : Prop :=
  ∀ p, lo ≤ p → p < hi → cells[p % n]? = stream[p]?

lemma Holds.mono (h : Holds n cells stream lo hi) {lo' hi' : ℕ} (hlo : lo ≤ lo') (hhi : hi' ≤ hi) :
    Holds n cells stream lo' hi' :=
  fun p h1 h2 => h p (hlo.trans h1) (h2.trans_le hhi)

lemma holds_empty (h : hi ≤ lo) : Holds n cells stream lo hi :=
  fun p h1 h2 => absurd (h1.trans_lt h2) (by omega)

/-- Cells ahead of the window can be overwritten as long as they do not lap it. -/
lemma Holds.splice (h : Holds n cells stream lo hi) (hn : cells.length = n) (hw : hi ≤ w)
    (hfit : w % n + data.length ≤ n) (hlap : w + data.length ≤ lo + n) :
    Holds n (splice cells (w % n) data) stream lo hi := by
  intro p h1 h2
  rw [splice_getElem? (hfit.trans_eq hn.symm), if_neg, h p h1 h2]
  rintro ⟨h3, h4⟩
  have hlt : w % n + (p % n - w % n) < n := by lia
  have hk := (Lap.advance_inside hlt).1
  have he : w + (p % n - w % n) = p := Lap.eq_of_mod_eq (n := n) (by lia) (by lia) (by lia)
  lia

lemma Holds.extend (h : Holds n cells stream lo w) (hw : stream.length = w)
    (hfit : w % n + len ≤ n) :
    Holds n cells (stream ++ slice cells (w % n) len) lo (w + len) := by
  intro p h1 h2
  by_cases hp : p < w
  · rw [List.getElem?_append_left (by lia), h p h1 hp]
  · rw [List.getElem?_append_right (by lia), slice_getElem?, if_pos (by lia)]
    have hlt : w % n + (p - w) < n := by lia
    have hk := (Lap.advance_inside hlt).1
    rw [hw, ← hk, Nat.add_sub_cancel' (by lia)]

/-- A straight piece of the ring inside the window is a piece of the stream. -/
lemma Holds.slice_eq (h : Holds n cells stream lo hi) (hlo : lo ≤ r) (hhi : r + len ≤ hi)
    (hfit : r % n + len ≤ n) : slice cells (r % n) len = slice stream r len := by
  apply List.ext_getElem?
  intro i
  rw [slice_getElem?, slice_getElem?]
  by_cases hi : i < len
  · rw [if_pos hi, if_pos hi, ← h (r + i) (by lia) (by lia)]
    congr 1
    by_cases hlt : r % n + i < n
    · exact (Lap.advance_inside hlt).1.symm
    · lia
  · rw [if_neg hi, if_neg hi]

end RingWindow
