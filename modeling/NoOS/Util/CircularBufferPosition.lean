import Mathlib.Tactic.Ring
import NoOS.Lib.RingWindow
import NoOS.Lib.Word
import NoOS.Util.CircularBuffer

/-!
# Stream positions of the circular buffer pointers

A pointer stands at a position of the unbounded byte stream: its index is the position
modulo the buffer size, its spin count the number of laps modulo `2 ^ 32`. Transactions move
the position by their size, and `cb_size` is the distance of the two positions.
-/

namespace NoOS
open RingWindow Word

lemma spins_wrap (a b : UInt32) : 0xFFFFFFFF - b + a + 1 = a - b := by
  grind

/-- Both branches compute the difference of the spin counts modulo `2 ^ 32`. -/
lemma nbSpins_eq (a b : UInt32) : nbSpins a b = a - b := by
  rw [nbSpins, spins_wrap, ite_self]

/-- The pointer `p` of a buffer of `n` bytes stands at stream position `pos`. -/
structure CbPtr.At (n : ℕ) (p : CbPtr) (pos : ℕ) : Prop where
  idx : p.idx.toNat = pos % n
  spin : p.spinCount.toNat = pos / n % 2 ^ 32
  idle : p.asyncStarted = false → p.asyncSize = 0
  fits : pos % n + p.asyncSize.toNat ≤ n

variable {n pos w r : ℕ} {p : CbPtr} {desc : CircularBuffer}

lemma CbPtr.at_zero : ({} : CbPtr).At n 0 where
  idx := by simp
  spin := by simp
  idle _ := rfl
  fits := by simp

/-- The end of a transaction moves the pointer by the size of the transaction. -/
lemma CbPtr.At.finish (h : p.At n pos) {size : UInt32} (hs : size.toNat = n) (hn : 0 < n) :
    (p.finish size).At n (pos + p.asyncSize.toNat) := by
  have hlt := size.toNat_lt
  have hmod := Nat.mod_lt pos hn
  have hfits := h.fits
  have hval : (p.idx + p.asyncSize).toNat = pos % n + p.asyncSize.toNat := by
    rw [toNat_add_of_lt, h.idx]
    rw [h.idx]
    lia
  have hge : p.idx + p.asyncSize ≥ size ↔ pos % n + p.asyncSize.toNat = n := by
    rw [ge_iff_le, UInt32.le_iff_toNat_le, hval]
    lia
  have hle : ∀ m, m < n → m + (0 : UInt32).toNat ≤ n := by
    intro m hm
    simp only [UInt32.toNat_zero]
    lia
  by_cases hwrap : pos % n + p.asyncSize.toNat = n
  · obtain ⟨hm, hd⟩ := Lap.advance_wrap hn hwrap
    refine ⟨?_, ?_, fun _ => rfl, hle _ (by lia)⟩
    · simp only [CbPtr.finish, hge.mpr hwrap, if_true, UInt32.toNat_mod, hval, hs, hwrap, hm,
        Nat.mod_self]
    · simp only [CbPtr.finish, hge.mpr hwrap, if_true, UInt32.toNat_add, h.spin, hd,
        UInt32.toNat_one, Nat.mod_add_mod]
  · have hlt' : pos % n + p.asyncSize.toNat < n := by lia
    obtain ⟨hm, hd⟩ := Lap.advance_inside hlt'
    have hno : ¬p.idx + p.asyncSize ≥ size := fun hc => hwrap (hge.mp hc)
    refine ⟨?_, ?_, fun _ => rfl, hle _ (by lia)⟩
    · simp only [CbPtr.finish, hno, if_false, hval, hm]
    · simp only [CbPtr.finish, hno, if_false, h.spin, hd]

lemma CbPtr.At.start (h : p.At n pos) {size : UInt32} (hs : size.toNat = n) (hn : 0 < n)
    (requested : UInt32) :
    ({ p with asyncSize := min requested (size - p.idx), asyncStarted := true } : CbPtr).At n pos where
  idx := h.idx
  spin := h.spin
  idle := by simp
  fits := by
    have hmod := Nat.mod_lt pos hn
    have hi := h.idx
    simp only [UInt32.toNat_min]
    rw [toNat_sub_of_le (by lia), hs, hi]
    lia

/-- The bytes a transaction reserves: what was asked for, up to the end of the buffer. -/
lemma CbPtr.At.reserved (h : p.At n pos) {size : UInt32} (hs : size.toNat = n) (hn : 0 < n)
    (requested : UInt32) :
    (min requested (size - p.idx)).toNat = min requested.toNat (n - pos % n) := by
  have hmod := Nat.mod_lt pos hn
  rw [UInt32.toNat_min, toNat_sub_of_le (by rw [hs, h.idx]; lia), hs, h.idx]

/-- The number of spins is the number of laps between the two positions. -/
lemma nbSpins_toNat {p q : CbPtr} (hw : p.At n w) (hr : q.At n r) (h : r ≤ w) :
    (nbSpins p.spinCount q.spinCount).toNat = (w / n - r / n) % 2 ^ 32 := by
  have hle : r / n ≤ w / n := Nat.div_le_div_right h
  rw [nbSpins_eq, UInt32.toNat_sub, hw.spin, hr.spin]
  omega

lemma unread_toNat (size spins wi ri : UInt32) :
    (unread size spins wi ri).toNat =
      if 0 < spins.toNat then (size.toNat + wi.toNat + (2 ^ 32 - ri.toNat)) % 2 ^ 32
      else (wi.toNat + (2 ^ 32 - ri.toNat)) % 2 ^ 32 := by
  have hri := ri.toNat_lt
  have hpos : spins > 0 ↔ 0 < spins.toNat := UInt32.lt_iff_toNat_lt
  unfold unread
  by_cases h : spins > 0
  · rw [if_pos h, if_pos (hpos.mp h), UInt32.toNat_sub, UInt32.toNat_add]
    omega
  · rw [if_neg h, if_neg (fun hc => h (hpos.mpr hc)), UInt32.toNat_sub]
    lia

/-- The unread bytes of a buffer whose pointers stand at `w` and `r`. -/
lemma unread_of_at {p q : CbPtr} {size : UInt32} (hs : size.toNat = n) (hw : p.At n w)
    (hr : q.At n r) (h : r ≤ w) :
    (unread size (nbSpins p.spinCount q.spinCount) p.idx q.idx).toNat =
      if 0 < (w / n - r / n) % 2 ^ 32 then (n + w % n + (2 ^ 32 - r % n)) % 2 ^ 32
      else (w % n + (2 ^ 32 - r % n)) % 2 ^ 32 := by
  rw [unread_toNat, nbSpins_toNat hw hr h, hs, hw.idx, hr.idx]

/-- With at most one lap between the pointers the unread bytes are their distance. -/
lemma unread_of_le {p q : CbPtr} {size : UInt32} (hs : size.toNat = n) (hn : 0 < n)
    (hw : p.At n w) (hr : q.At n r) (hle : r ≤ w) (hlap : w ≤ r + n) :
    (unread size (nbSpins p.spinCount q.spinCount) p.idx q.idx).toNat = w - r := by
  have hsize := size.toNat_lt
  have hdist := Lap.sub_eq (n := n) hle
  have hwm := Nat.mod_lt w hn
  have hrm := Nat.mod_lt r hn
  rw [unread_of_at hs hw hr hle]
  rcases Lap.laps_le_one hn hle hlap with hl | hl
  · rw [hl, Nat.sub_self, Nat.mul_zero] at hdist
    rw [hl, Nat.sub_self, if_neg (by simp)]
    omega
  · rw [hl, Nat.add_sub_cancel_left, Nat.mul_one] at hdist
    rw [hl, Nat.add_sub_cancel_left, if_pos (by simp)]
    omega

lemma clampSize_of_le {descSize size : UInt32} (h : size.toNat ≤ descSize.toNat) :
    clampSize descSize size = (SUCCESS, size) := by
  rw [clampSize, if_neg]
  rw [gt_iff_lt, UInt32.lt_iff_toNat_lt]
  omega

lemma clampSize_of_lt {descSize size : UInt32} (h : descSize.toNat < size.toNat) :
    clampSize descSize size = (-EOVERRUN, descSize) := by
  rw [clampSize, if_pos (UInt32.lt_iff_toNat_lt.mpr h)]

/-- With at most one lap between the pointers `cb_size` is their distance. -/
theorem cbSize_of_le (hs : desc.size.toNat = n) (hn : 0 < n) (hw : desc.write.At n w)
    (hr : desc.read.At n r) (hle : r ≤ w) (hlap : w ≤ r + n) :
    ∃ size, cbSize desc = (SUCCESS, size) ∧ size.toNat = w - r := by
  have hval := unread_of_le hs hn hw hr hle hlap
  exact ⟨_, clampSize_of_le (by lia), hval⟩

end NoOS
