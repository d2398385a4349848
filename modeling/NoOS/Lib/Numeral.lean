import Mathlib.Algebra.Order.Field.Rat
import Mathlib.Data.Int.Notation
import Mathlib.Data.List.Basic
import Mathlib.Tactic.Common

/-!
# Numerals of the C library

What `%d` and `%0wu` print, and `strtol` with base 0 on a target with a `long` of 32 bits:
numerals are octal after a `0` and hexadecimal after `0x`. A number with a decimal point has digits on both sides of it.
-/

namespace Numeral

/-- `%d` -/
def decimal (z : ℤ) : List Char :=
  if z < 0 then '-' :: Nat.toDigits 10 z.natAbs else Nat.toDigits 10 z.natAbs

/-- `%0wu` -/
def zeroPadded (w n : ℕ) : List Char :=
  List.replicate (w - (Nat.toDigits 10 n).length) '0' ++ Nat.toDigits 10 n

def digitVal (c : Char) : Option ℕ :=
  if c.isDigit then some (c.toNat - '0'.toNat)
  else if c.isLower then some (c.toNat - 'a'.toNat + 10)
  else if c.isUpper then some (c.toNat - 'A'.toNat + 10)
  else none

/-- The value of the longest run of digits, after digits with the value `acc`. -/
def digits (base acc : ℕ) : List Char → ℕ
  | [] => acc
  | c :: cs =>
    match digitVal c with
    | none => acc
    | some d => if d < base then digits base (base * acc + d) cs else acc

def isspace (c : Char) : Bool := c = ' ' || (9 ≤ c.toNat && c.toNat ≤ 13)

/-- A numeral without its sign. -/
def magnitude : List Char → ℕ
  | '0' :: x :: cs =>
    if (x = 'x' ∨ x = 'X') ∧ (cs.head?.bind digitVal).any (· < 16) then digits 16 0 cs
    else digits 8 0 (x :: cs)
  | cs => digits 10 0 cs

def clampLong (z : ℤ) : ℤ := max (-2 ^ 31) (min z (2 ^ 31 - 1))

/-- `strtol(s, NULL, 0)` -/
def strtol (s : List Char) : ℤ :=
  match s.dropWhile isspace with
  | '-' :: cs => clampLong (-magnitude cs)
  | '+' :: cs => clampLong (magnitude cs)
  | cs => clampLong (magnitude cs)

variable {n w : ℕ} {ds tail : List Char}

/-- Text that does not continue a numeral. -/
def Stops (tail : List Char) : Prop := ∀ c ∈ tail.head?, digitVal c = none

lemma stops_nil : Stops [] := by simp [Stops]

lemma stops_blank : Stops [' '] := by
  rintro c hc
  obtain rfl := Option.some.inj hc
  decide

lemma clampLong_of_mem {z : ℤ} (h : -2 ^ 31 ≤ z) (h' : z < 2 ^ 31) : clampLong z = z := by
  unfold clampLong
  lia

lemma digitVal_of_isDigit {c : Char} (h : c.isDigit = true) :
    digitVal c = some (c.toNat - '0'.toNat) := if_pos h

lemma toNat_sub_lt {c : Char} (h : c.isDigit = true) : c.toNat - '0'.toNat < 10 := by
  simp only [Char.isDigit, Bool.and_eq_true, decide_eq_true_eq] at h
  have h9 : c.toNat ≤ '9'.toNat := h.2
  change c.toNat - 48 < 10
  have h57 : '9'.toNat = 57 := rfl
  lia

lemma digits_stops {base acc : ℕ} (h : Stops tail) : digits base acc tail = acc := by
  cases tail with
  | nil => rfl
  | cons c cs => simp only [digits, h c rfl]

lemma digits_append (hds : ∀ c ∈ ds, c.isDigit = true) (h : Stops tail) (acc : ℕ) :
    digits 10 acc (ds ++ tail) = Nat.ofDigitChars 10 ds acc := by
  induction ds generalizing acc with
  | nil => simpa using digits_stops h
  | cons d ds ih =>
    have hd := hds d List.mem_cons_self
    rw [List.cons_append, digits, digitVal_of_isDigit hd]
    simp only [toNat_sub_lt hd, if_true]
    rw [ih (fun c hc => hds c (List.mem_cons_of_mem d hc)), Nat.ofDigitChars_cons]

lemma isDigit_toDigits {c : Char} (h : c ∈ Nat.toDigits 10 n) : c.isDigit = true :=
  Nat.isDigit_of_mem_toDigits (by decide) (by decide) h

lemma head_toDigits (hn : 0 < n) : (Nat.toDigits 10 n).head? ≠ some '0' := by
  induction n using Nat.strongRecOn with
  | ind n ih =>
    rw [Nat.toDigits_eq_if (by decide)]
    split_ifs with hlt
    · have hsmall : ∀ n < 10, 0 < n → [Nat.digitChar n].head? ≠ some '0' := by decide
      exact hsmall n hlt hn
    · rw [List.head?_append_of_ne_nil _ Nat.toDigits_ne_nil]
      exact ih (n / 10) (by lia) (by lia)

lemma magnitude_of_head {s : List Char} (h : s.head? ≠ some '0') : magnitude s = digits 10 0 s := by
  unfold magnitude
  split
  · exact absurd rfl h
  · rfl

lemma magnitude_toDigits (hn : 0 < n) (h : Stops tail) :
    magnitude (Nat.toDigits 10 n ++ tail) = n := by
  rw [magnitude_of_head, digits_append (fun c => isDigit_toDigits) h, Nat.ofDigitChars_ten_toDigits]
  rw [List.head?_append_of_ne_nil _ Nat.toDigits_ne_nil]
  exact head_toDigits hn

lemma digits_zeros (k : ℕ) (h : Stops tail) : digits 8 0 (List.replicate k '0' ++ tail) = 0 := by
  induction k with
  | zero => exact digits_stops h
  | succ k ih =>
    have hzero : digitVal '0' = some 0 := by decide
    simpa [List.replicate_succ, digits, hzero] using ih

lemma magnitude_zeros (k : ℕ) (h : Stops tail) :
    magnitude (List.replicate (k + 1) '0' ++ tail) = 0 := by
  have hx : digitVal 'x' = some 33 ∧ digitVal 'X' = some 33 := by decide
  cases k with
  | zero =>
    cases tail with
    | nil => decide
    | cons c cs =>
      have hc : ¬(c = 'x' ∨ c = 'X') := by
        have hnone := h c rfl
        rintro (rfl | rfl)
        · simp [hx.1] at hnone
        · simp [hx.2] at hnone
      change magnitude ('0' :: c :: cs) = 0
      rw [magnitude, if_neg (fun hand => hc hand.1)]
      exact digits_stops h
  | succ k =>
    change magnitude ('0' :: '0' :: (List.replicate k '0' ++ tail)) = 0
    have h0 : ¬('0' = 'x' ∨ '0' = 'X') := by decide
    rw [magnitude, if_neg (fun hand => h0 hand.1)]
    exact digits_zeros (k + 1) h

lemma zeroPadded_zero (hw : 0 < w) : zeroPadded w 0 = List.replicate w '0' := by
  rw [zeroPadded, Nat.toDigits_zero, List.length_singleton]
  change List.replicate (w - 1) '0' ++ List.replicate 1 '0' = _
  rw [List.replicate_append_replicate, Nat.sub_add_cancel hw]

lemma zeroPadded_of_le (h : 10 ^ (w - 1) ≤ n) (hw : 1 < w) : zeroPadded w n = Nat.toDigits 10 n := by
  have hlen : ¬(Nat.toDigits 10 n).length ≤ w - 1 := by
    rw [Nat.length_toDigits_le_iff (by decide) (by lia)]
    omega
  rw [zeroPadded, show w - (Nat.toDigits 10 n).length = 0 by lia]
  rfl

lemma isDigit_zeroPadded {c : Char} (h : c ∈ zeroPadded w n) : c.isDigit = true := by
  rcases List.mem_append.mp h with h | h
  · rw [List.eq_of_mem_replicate h]
    rfl
  · exact isDigit_toDigits h

lemma strtol_of_isDigit {c : Char} {cs : List Char} (h : c.isDigit = true) :
    strtol (c :: cs) = clampLong (magnitude (c :: cs)) := by
  have hspace : isspace c = false := by
    simp only [Char.isDigit, Bool.and_eq_true, decide_eq_true_eq] at h
    have h0 : '0'.toNat ≤ c.toNat := h.1
    have h48 : '0'.toNat = 48 := rfl
    have hne : c ≠ ' ' := by
      rintro rfl
      revert h0
      decide
    simp only [isspace, hne, decide_false, Bool.false_or, Bool.and_eq_false_iff,
      decide_eq_false_iff_not]
    lia
  rw [strtol, List.dropWhile_cons_of_neg (by simp [hspace])]
  split
  · obtain ⟨rfl, -⟩ := List.cons.inj ‹_›
    exact absurd h (by decide)
  · obtain ⟨rfl, -⟩ := List.cons.inj ‹_›
    exact absurd h (by decide)
  · rfl

lemma strtol_append_of_isDigit {s : List Char} (hne : s ≠ []) (h : ∀ c ∈ s, c.isDigit = true) :
    strtol (s ++ tail) = clampLong (magnitude (s ++ tail)) := by
  cases s with
  | nil => exact absurd rfl hne
  | cons c cs => exact strtol_of_isDigit (h c List.mem_cons_self)

/-- A printed number is read back. -/
theorem strtol_decimal {z : ℤ} (hmin : -2 ^ 31 ≤ z) (hmax : z < 2 ^ 31) : strtol (decimal z) = z := by
  have hmag : magnitude (Nat.toDigits 10 z.natAbs) = z.natAbs := by
    rcases Nat.eq_zero_or_pos z.natAbs with hzero | hpos
    · rw [hzero]
      decide
    · simpa using magnitude_toDigits hpos stops_nil
  unfold decimal
  split_ifs with hneg
  · rw [strtol, List.dropWhile_cons_of_neg (by decide)]
    simp only [hmag]
    rw [clampLong_of_mem (by lia) (by omega)]
    lia
  · have h := @strtol_append_of_isDigit [] _ Nat.toDigits_ne_nil
      (fun c => isDigit_toDigits (n := z.natAbs))
    rw [List.append_nil, hmag, clampLong_of_mem (by lia) (by lia)] at h
    lia

lemma strtol_zeroPadded_zero (hw : 0 < w) (h : Stops tail) : strtol (zeroPadded w 0 ++ tail) = 0 := by
  have hne : zeroPadded w 0 ≠ [] := by simp [zeroPadded]
  obtain ⟨k, rfl⟩ := Nat.exists_eq_succ_of_ne_zero (Nat.pos_iff_ne_zero.mp hw)
  rw [strtol_append_of_isDigit hne (fun c => isDigit_zeroPadded), zeroPadded_zero hw,
    magnitude_zeros k h]
  rfl

/-- A fraction that needs all of its digits is read as a decimal number. -/
lemma strtol_zeroPadded_of_le (hw : 1 < w) (hle : 10 ^ (w - 1) ≤ n) (hlt : n < 2 ^ 31)
    (h : Stops tail) : strtol (zeroPadded w n ++ tail) = n := by
  have hpos : 0 < n := Nat.lt_of_lt_of_le (Nat.pow_pos (by decide)) hle
  rw [zeroPadded_of_le hle hw, strtol_append_of_isDigit Nat.toDigits_ne_nil
    (fun c => isDigit_toDigits), magnitude_toDigits hpos h, clampLong_of_mem (by lia) (by lia)]

lemma length_zeroPadded (hw : 0 < w) (hn : n < 10 ^ w) : (zeroPadded w n).length = w := by
  have hlen := (Nat.length_toDigits_le_iff (b := 10) (by decide) hw).mpr hn
  rw [zeroPadded, List.length_append, List.length_replicate]
  lia

/-- All characters of the type would be tried otherwise. -/
instance decidableAllDigits (s : List Char) : Decidable (∀ c ∈ s, c.isDigit = true) := List.decidableBAll _ s

/-- A number without its sign. There are digits on both sides of the point. -/
def pointed (s : List Char) : Option ℚ :=
  match s.dropWhile Char.isDigit with
  | '.' :: frac =>
    if s.takeWhile Char.isDigit ≠ [] ∧ frac ≠ [] ∧ ∀ c ∈ frac, c.isDigit = true then
      some (Nat.ofDigitChars 10 (s.takeWhile Char.isDigit) 0 + (Nat.ofDigitChars 10 frac 0 : ℚ) / 10 ^ frac.length)
    else none
  | _ => none

def decimalValue : List Char → Option ℚ
  | '-' :: s => (pointed s).map fun q => -q
  | s => pointed s

lemma ofDigitChars_zeroPadded (w n : ℕ) : Nat.ofDigitChars 10 (zeroPadded w n) 0 = n := by
  rw [zeroPadded, Nat.ofDigitChars_append, Nat.ofDigitChars_replicate_zero, Nat.mul_zero, Nat.ofDigitChars_ten_toDigits]

lemma span_toDigits (n : ℕ) (tail : List Char) :
    (Nat.toDigits 10 n ++ '.' :: tail).takeWhile Char.isDigit = Nat.toDigits 10 n ∧
    (Nat.toDigits 10 n ++ '.' :: tail).dropWhile Char.isDigit = '.' :: tail := by
  have hpoint : ¬Char.isDigit '.' = true := by decide
  rw [List.takeWhile_append_of_pos fun c => isDigit_toDigits, List.dropWhile_append_of_pos fun c => isDigit_toDigits,
    List.takeWhile_cons_of_neg hpoint, List.dropWhile_cons_of_neg hpoint, List.append_nil]
  exact ⟨rfl, rfl⟩

lemma pointed_toDigits (n : ℕ) (tail : List Char) : pointed (Nat.toDigits 10 n ++ '.' :: tail) =
    if tail ≠ [] ∧ ∀ c ∈ tail, c.isDigit = true then some (n + (Nat.ofDigitChars 10 tail 0 : ℚ) / 10 ^ tail.length)
    else none := by
  obtain ⟨htake, hdrop⟩ := span_toDigits n tail
  rw [pointed, hdrop, htake]
  simp only [ne_eq, Nat.toDigits_ne_nil, not_false_eq_true, true_and, Nat.ofDigitChars_ten_toDigits]

lemma pointed_fraction (hw : 0 < w) (hn : n < 10 ^ w) (a : ℕ) :
    pointed (Nat.toDigits 10 a ++ '.' :: zeroPadded w n) = some (a + (n : ℚ) / 10 ^ w) := by
  have hlen := length_zeroPadded hw hn
  have hne : zeroPadded w n ≠ [] := List.ne_nil_of_length_pos (by lia)
  rw [pointed_toDigits, if_pos ⟨hne, fun c => isDigit_zeroPadded⟩, ofDigitChars_zeroPadded, hlen]

lemma decimalValue_of_head {c : Char} (hc : c ≠ '-') (s : List Char) : decimalValue (c :: s) = pointed (c :: s) := by
  rw [decimalValue]
  rintro s ⟨⟩
  exact hc rfl

lemma decimalValue_toDigits (n : ℕ) (tail : List Char) :
    decimalValue (Nat.toDigits 10 n ++ tail) = pointed (Nat.toDigits 10 n ++ tail) := by
  cases hdigits : Nat.toDigits 10 n with
  | nil => exact absurd hdigits Nat.toDigits_ne_nil
  | cons c cs =>
    have hc : c.isDigit = true := isDigit_toDigits (n := n) (by rw [hdigits]; exact List.mem_cons_self)
    have hne : c ≠ '-' := by
      rintro rfl
      exact absurd hc (by decide)
    exact decimalValue_of_head hne _

lemma pointed_end {s : List Char} {c : Char} (hc : ¬c.isDigit = true) : pointed (s ++ [c]) = none := by
  rw [pointed]
  split
  · rename_i frac hdrop
    refine if_neg fun h => ?_
    obtain ⟨pre, hpre⟩ := List.dropWhile_suffix (l := s ++ [c]) Char.isDigit
    rw [hdrop, ← List.dropLast_append_getLast h.2.1, ← List.cons_append, ← List.append_assoc] at hpre
    have hlast := (List.append_inj' hpre rfl).2
    have hmem := h.2.2 _ (List.getLast_mem h.2.1)
    rw [List.cons.inj hlast |>.1] at hmem
    exact hc hmem
  · rfl

lemma decimalValue_end {s : List Char} {c : Char} (hc : ¬c.isDigit = true) : decimalValue (s ++ [c]) = none := by
  cases s with
  | nil =>
    by_cases hsign : c = '-'
    · rw [hsign]
      rfl
    · exact (decimalValue_of_head hsign []).trans (@pointed_end [] c hc)
  | cons d ds =>
    by_cases hsign : d = '-'
    · rw [hsign, List.cons_append, decimalValue, pointed_end hc]
      rfl
    · rw [List.cons_append, decimalValue_of_head hsign, ← List.cons_append]
      exact pointed_end hc

end Numeral
