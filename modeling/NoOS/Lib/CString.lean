import Mathlib.Data.Int.Notation
import Mathlib.Data.List.Basic
import Mathlib.Tactic.Common

/-!
# C strings

A block of memory is the list of its characters, and a string in it ends at the first NUL.
Printing into a bounded buffer piece by piece stores what printing all at once does.
-/

namespace CString

def NUL : Char := Char.ofNat 0

/-- `mem` with `cs` written from `pos` on. -/
def writeAt (mem : List Char) (pos : ℕ) (cs : List Char) : List Char :=
  mem.take pos ++ cs ++ mem.drop (pos + cs.length)

/-- The string that `mem` starts with, if it has an end. -/
def read (mem : List Char) : Option (List Char) :=
  if NUL ∈ mem then some (mem.takeWhile (· ≠ NUL)) else none

/-- `none` if the result does not fit in the block. -/
def strcat (mem cs : List Char) : Option (List Char) := do
  let s ← read mem
  if s.length + cs.length + 1 ≤ mem.length then some (writeAt mem s.length (cs ++ [NUL])) else none

/-- The sign of the first difference, and of the length if there is none. -/
def strcmp : List Char → List Char → ℤ
  | [], [] => 0
  | [], c :: _ => -c.toNat
  | c :: _, [] => c.toNat
  | c :: cs, d :: ds => if c = d then strcmp cs ds else (c.toNat : ℤ) - d.toNat

/-- What `snprintf` stores in `size` bytes. -/
def bounded (size : ℕ) (text : List Char) : List Char :=
  if size = 0 then [] else text.take (size - 1) ++ [NUL]

/-- A buffer of `n` bytes, the first of `mem`, after the output of `i` characters. -/
structure Sink where
  mem : List Char
  n : ℕ
  i : ℕ := 0

/-- `i += snprintf(buff + i, max(n - i, 0), …)` -/
def Sink.snprintf (b : Sink) (text : List Char) : Sink :=
  { b with
    mem := writeAt b.mem b.i (bounded (b.n - b.i) text)
    i := b.i + text.length }

variable {mem a s t rest cs : List Char} {b : Sink}

@[simp] lemma writeAt_nil (pos : ℕ) : writeAt mem pos [] = mem := by simp [writeAt]

lemma writeAt_append : writeAt (a ++ rest) a.length cs = a ++ (cs ++ rest.drop cs.length) := by
  simp [writeAt, List.drop_append]

lemma writeAt_of_length {pos : ℕ} (h : a.length = pos) :
    writeAt (a ++ rest) pos cs = a ++ (cs ++ rest.drop cs.length) := by rw [← h, writeAt_append]

lemma length_writeAt {pos : ℕ} (h : pos + cs.length ≤ mem.length) :
    (writeAt mem pos cs).length = mem.length := by
  simp only [writeAt, List.length_append, List.length_take, List.length_drop]
  lia

lemma read_eq (hs : NUL ∉ s) : read (s ++ NUL :: rest) = some s := by
  have htake : (s ++ NUL :: rest).takeWhile (· ≠ NUL) = s := by
    rw [List.takeWhile_append_of_pos, List.takeWhile_cons]
    · simp
    · intro c hc
      simpa using ne_of_mem_of_not_mem hc hs
  simp only [read, List.mem_append, List.mem_cons, true_or, or_true, if_true, htake]

lemma strcat_eq (hs : NUL ∉ s) (h : cs.length ≤ rest.length) :
    strcat (s ++ NUL :: rest) cs = some (s ++ (cs ++ NUL :: rest.drop cs.length)) := by
  have hlen : s.length + cs.length + 1 ≤ (s ++ NUL :: rest).length := by
    simp only [List.length_append, List.length_cons]
    lia
  simp only [strcat, read_eq hs, Option.bind_eq_bind, Option.bind_some, hlen, if_true,
    writeAt_append]
  simp

lemma toNat_eq_zero {c : Char} : c.toNat = 0 ↔ c = NUL :=
  ⟨fun h => Char.toNat_inj.mp h, fun h => h ▸ rfl⟩

lemma strcmp_eq_zero {s t : List Char} (hs : NUL ∉ s) (ht : NUL ∉ t) :
    strcmp s t = 0 ↔ s = t := by
  induction s generalizing t with
  | nil =>
    cases t with
    | nil => simp [strcmp]
    | cons d ds =>
      have hd : d ≠ NUL := fun h => ht (h ▸ List.mem_cons_self)
      simpa [strcmp] using fun h => hd (toNat_eq_zero.mp h)
  | cons c cs ih =>
    cases t with
    | nil =>
      have hc : c ≠ NUL := fun h => hs (h ▸ List.mem_cons_self)
      simpa [strcmp] using fun h => hc (toNat_eq_zero.mp h)
    | cons d ds =>
      by_cases hcd : c = d
      · simp only [strcmp, hcd, if_true, List.cons.injEq, true_and]
        exact ih (fun h => hs (List.mem_cons_of_mem c h)) fun h => ht (List.mem_cons_of_mem d h)
      · have hne : (c.toNat : ℤ) - d.toNat ≠ 0 := by
          intro h
          exact hcd (Char.toNat_inj.mp (by lia))
        simp [strcmp, hcd, hne]

lemma strcmp_nil_pos (hs : NUL ∉ s) (hne : s ≠ []) : 0 < strcmp s [] := by
  cases s with
  | nil => exact absurd rfl hne
  | cons c cs =>
    have hc : c.toNat ≠ 0 := fun h => hs (toNat_eq_zero.mp h ▸ List.mem_cons_self)
    simp only [strcmp]
    lia

lemma bounded_of_lt {size : ℕ} (h : t.length < size) : bounded size t = t ++ [NUL] := by
  rw [bounded, if_neg (by omega), List.take_of_length_le (by lia)]

lemma length_bounded {size : ℕ} (h : 0 < size) :
    (bounded size t).length = min t.length (size - 1) + 1 := by
  rw [bounded, if_neg (by omega)]
  simp only [List.length_append, List.length_take, List.length_singleton]
  lia

lemma bounded_append {size : ℕ} (h : s.length < size) :
    bounded size (s ++ t) = s ++ bounded (size - s.length) t := by
  have hsub : size - 1 - s.length = size - s.length - 1 := by lia
  rw [bounded, bounded, if_neg (by lia), if_neg (by lia), List.take_append,
    List.take_of_length_le (by lia), List.append_assoc, hsub]

lemma bounded_append_of_le {size : ℕ} (h : size ≤ s.length) :
    bounded size (s ++ t) = bounded size s := by
  unfold bounded
  rw [List.take_append_of_le_length (by lia)]

lemma Sink.snprintf_append (h : b.n ≤ b.mem.length) :
    (b.snprintf s).snprintf t = b.snprintf (s ++ t) := by
  obtain ⟨mem, n, i⟩ := b
  simp only at h
  simp only [snprintf, List.length_append, Nat.add_assoc, Sink.mk.injEq, and_true, Nat.sub_add_eq]
  by_cases hs : s.length < n - i
  · obtain ⟨a, r, rfl, rfl⟩ : ∃ a r, mem = a ++ r ∧ a.length = i :=
      ⟨mem.take i, mem.drop i, (List.take_append_drop i mem).symm, by simp; lia⟩
    have hpos : 0 < n - a.length - s.length := by lia
    obtain ⟨k, hk⟩ : ∃ k, (bounded (n - a.length - s.length) t).length = k + 1 :=
      ⟨_, length_bounded hpos⟩
    have hlen : (a ++ s).length = a.length + s.length := List.length_append
    have hfirst : a ++ (s ++ [NUL] ++ r.drop (s ++ [NUL]).length) =
        (a ++ s) ++ NUL :: r.drop (s.length + 1) := by simp
    rw [bounded_of_lt hs, bounded_append hs, writeAt_append, writeAt_append, hfirst,
      writeAt_of_length hlen, hk, List.drop_succ_cons, List.drop_drop, List.length_append, hk]
    simp only [List.append_assoc]
    congr 4
    lia
  · have hcut : n - i - s.length = 0 := by lia
    rw [bounded_append_of_le (by omega), hcut]
    simp [bounded]

/-- The bytes behind a pointer, as far as they have been written. -/
abbrev Bytes : Type := ℕ → Option Char

namespace Bytes

def unwritten : Bytes := fun _ => none

/-- `snprintf(&buf[pos], size, …)` -/
def snprintf (mem : Bytes) (pos size : ℕ) (text : List Char) : Bytes :=
  fun i => if pos ≤ i ∧ i < pos + (bounded size text).length then (bounded size text)[i - pos]? else mem i

variable {mem : Bytes} {pos size i : ℕ} {text : List Char}

lemma snprintf_inside (h : i < (bounded size text).length) :
    mem.snprintf pos size text (pos + i) = (bounded size text)[i]? := by
  rw [snprintf, if_pos (by lia), Nat.add_sub_cancel_left]

lemma snprintf_outside (h : i < pos ∨ pos + (bounded size text).length ≤ i) :
    mem.snprintf pos size text i = mem i := by
  rw [snprintf, if_neg (by lia)]

lemma snprintf_char (hfit : text.length < size) (h : i < text.length) :
    mem.snprintf pos size text (pos + i) = text[i]? := by
  rw [snprintf_inside, bounded_of_lt hfit, List.getElem?_append_left h]
  rw [bounded_of_lt hfit, List.length_append]
  lia

/-- `k` bytes have been written within `len`, and they are `text`. -/
structure Holds (mem : Bytes) (len k : ℕ) (text : List Char) : Prop where
  within : ∀ i, mem i ≠ none → i < len
  written : ∀ i < k, mem i ≠ none
  length : text.length = k
  chars : ∀ i < k, mem i = text[i]?

lemma Holds.unique {len len' k : ℕ} (h : Holds mem len k s) (h' : Holds mem len' k t) : s = t := by
  refine List.ext_getElem? fun i => ?_
  rcases Nat.lt_or_ge i k with hi | hi
  · rw [← h.chars i hi, h'.chars i hi]
  · rw [List.getElem?_eq_none (by rw [h.length]; exact hi), List.getElem?_eq_none (by rw [h'.length]; exact hi)]

lemma holds_snprintf (hfit : text.length < size) : Holds (unwritten.snprintf 0 size text) size text.length text := by
  have hlen : (bounded size text).length = text.length + 1 := by
    rw [bounded_of_lt hfit, List.length_append, List.length_singleton]
  have hchars : ∀ i < text.length, unwritten.snprintf 0 size text i = text[i]? := fun i hi => by
    rw [← Nat.zero_add i, snprintf_char hfit hi, Nat.zero_add]
  refine ⟨fun i hi => ?_, fun i hi => ?_, rfl, hchars⟩
  · by_contra hge
    exact hi (snprintf_outside (by lia))
  · rw [hchars i hi, List.getElem?_eq_getElem hi]
    exact Option.some_ne_none _

/-- A text that does not fit leaves bytes unwritten, or ends in NUL. -/
lemma of_holds_snprintf (hne : text ≠ []) (h : Holds (unwritten.snprintf 0 size text) size text.length t) :
    text.length < size ∨ ∃ s, t = s ++ [NUL] := by
  rcases Nat.lt_or_ge text.length size with hfit | hlong
  · exact Or.inl hfit
  · right
    have hpos : 0 < size := Nat.pos_of_ne_zero fun hzero => by
      rw [hzero] at h
      exact h.written 0 (List.length_pos_iff.mpr hne) rfl
    have hbounded : (bounded size text).length = size := by
      rw [length_bounded hpos]
      lia
    have hsize : text.length = size := by
      by_contra hmore
      exact h.written size (by lia) (snprintf_outside (by lia))
    have hlast : t[size - 1]? = some NUL := by
      have hbyte : unwritten.snprintf 0 size text (0 + (size - 1)) = some NUL := by
        rw [snprintf_inside (by lia), bounded, if_neg (by lia),
          List.getElem?_append_right (by rw [List.length_take]; lia), List.length_take, show size - 1 - min (size - 1) text.length = 0 by lia]
        rfl
      rw [Nat.zero_add, h.chars _ (by lia)] at hbyte
      exact hbyte
    have htne : t ≠ [] := List.ne_nil_of_length_pos (by rw [h.length]; lia)
    refine ⟨t.dropLast, ?_⟩
    have hget : t.getLast? = some NUL := by
      rw [List.getLast?_eq_getElem?, h.length, hsize]
      exact hlast
    rw [← List.dropLast_append_getLast htne] at hget ⊢
    rw [List.getLast?_append, List.getLast?_singleton] at hget
    rw [Option.some.inj hget, List.dropLast_concat]

/-- A sign and a text behind it, both with the length of the whole buffer. -/
def signed (size : ℕ) (text : List Char) : Bytes := (unwritten.snprintf 0 size ['-']).snprintf 1 size text

lemma holds_signed (hfit : 1 + text.length < size) : Holds (signed size text) size (1 + text.length) ('-' :: text) := by
  have hsign : bounded size ['-'] = ['-', NUL] := bounded_of_lt (by rw [List.length_singleton]; lia)
  have hlen : (bounded size text).length = text.length + 1 := by
    rw [bounded_of_lt (by omega), List.length_append, List.length_singleton]
  have hchars : ∀ i < 1 + text.length, signed size text i = ('-' :: text)[i]? := fun i hi => by
    rcases Nat.eq_zero_or_pos i with rfl | hpos
    · rw [signed, snprintf_outside (Or.inl Nat.zero_lt_one), ← Nat.zero_add 0,
        snprintf_inside (by rw [hsign]; decide), hsign]
      rfl
    · obtain ⟨j, rfl⟩ := Nat.exists_eq_add_of_le hpos
      rw [signed, snprintf_char (by lia) (by lia), Nat.add_comm, List.getElem?_cons_succ]
  refine ⟨fun i hi => ?_, fun i hi => ?_, by rw [List.length_cons, Nat.add_comm], hchars⟩
  · by_contra hge
    refine hi ?_
    rw [signed, snprintf_outside (by lia),
      snprintf_outside (by rw [hsign]; exact Or.inr (by change 0 + 2 ≤ i; lia))]
    rfl
  · rw [hchars i hi, List.getElem?_eq_getElem (by rw [List.length_cons]; lia)]
    exact Option.some_ne_none _

/-- The text behind the sign goes beyond the buffer unless it fits. -/
lemma of_holds_signed (h : Holds (signed size text) size (1 + text.length) t) : 1 + text.length < size := by
  by_contra hlong
  have hpos : 0 < size := Nat.pos_of_ne_zero fun hzero => by
    rw [hzero] at h
    exact h.written 0 (by omega) rfl
  have hbounded : size ≤ (bounded size text).length := by
    rw [length_bounded hpos]
    lia
  have hbyte : signed size text (1 + (size - 1)) ≠ none := by
    rw [signed, snprintf_inside (by lia), List.getElem?_eq_getElem (by lia)]
    exact Option.some_ne_none _
  have hlt := h.within _ hbyte
  lia

lemma not_holds_shifted {k : ℕ} (hk : 0 < k) : ¬Holds (unwritten.snprintf 1 size text) size k t :=
  fun h => h.written 0 hk (snprintf_outside (Or.inl Nat.zero_lt_one))

end Bytes

end CString
