import NoOS.Lib.Numeral

/-!
# Lines and their numbers

`strsep` takes the lines of a text apart and `sscanf` reads the numbers of a line, as a format tells it. A conversion
that finds no digit ends the scan and keeps the numbers before it.
-/

namespace Scanf
open Numeral

def NUL : Char := Char.ofNat 0

/-- What a format asks for next. -/
inductive Directive
  | lit (c : Char)
  /-- White space, any amount of it -/
  | space
  /-- `%d` -/
  | int
  /-- `%u` -/
  | uint
deriving DecidableEq

def literal (text : String) : List Directive := text.toList.map .lit

/-- A decimal numeral: its sign, its digits and the text after it. -/
def numeral (s : List Char) : Option (Bool × ℕ × List Char) :=
  let (neg, ds) :=
    match s.dropWhile isspace with
    | '-' :: cs => (true, cs)
    | '+' :: cs => (false, cs)
    | cs => (false, cs)
  if (ds.takeWhile Char.isDigit).isEmpty then none
  else some (neg, Nat.ofDigitChars 10 (ds.takeWhile Char.isDigit) 0, ds.dropWhile Char.isDigit)

/-- The value that `strtoul` has for a numeral. -/
def clampUlong (neg : Bool) (n : ℕ) : ℤ :=
  if 2 ^ 32 ≤ n then 2 ^ 32 - 1 else if neg then (-n) % 2 ^ 32 else n

/-- The numbers that `sscanf` stores. -/
def scan : List Directive → List Char → List ℤ
  | [], _ => []
  | .space :: fmt, s => scan fmt (s.dropWhile isspace)
  | .lit _ :: _, [] => []
  | .lit c :: fmt, d :: s => if d = c then scan fmt s else []
  | .int :: fmt, s =>
    match numeral s with
    | none => []
    | some (neg, n, s) => clampLong (if neg then -n else n) :: scan fmt s
  | .uint :: fmt, s =>
    match numeral s with
    | none => []
    | some (neg, n, s) => clampUlong neg n :: scan fmt s

/-- The conversions of a format. -/
def conversions (fmt : List Directive) : ℕ := fmt.countP fun d => d = .int ∨ d = .uint

variable {fmt : List Directive} {s : List Char} {c : Char} {ks : List Char}

lemma length_scan_le (fmt : List Directive) (s : List Char) :
    (scan fmt s).length ≤ conversions fmt := by
  induction fmt generalizing s with
  | nil => exact Nat.zero_le _
  | cons d fmt ih =>
    have hcons : conversions (d :: fmt) = conversions fmt + if d = .int ∨ d = .uint then 1 else 0 := by
      simp [conversions, List.countP_cons]
    rw [hcons]
    cases d with
    | lit c =>
      cases s with
      | nil => exact Nat.zero_le _
      | cons d s =>
        rw [scan]
        split
        · exact ih s
        · exact Nat.zero_le _
    | space => exact ih _
    | int =>
      rw [scan]
      split
      · exact Nat.zero_le _
      · exact Nat.succ_le_succ (ih _)
    | uint =>
      rw [scan]
      split
      · exact Nat.zero_le _
      · exact Nat.succ_le_succ (ih _)

lemma lead_of_scan (h : scan (ks.map .lit ++ fmt) s ≠ []) : ks <+: s := by
  induction ks generalizing s with
  | nil => exact List.nil_prefix
  | cons k ks ih =>
    cases s with
    | nil => exact absurd rfl h
    | cons d s =>
      rw [List.map_cons, List.cons_append, scan] at h
      split_ifs at h with hd
      · subst hd
        exact List.cons_prefix_cons.mpr ⟨rfl, ih h⟩
      · exact absurd rfl h

lemma numeral_head (h : numeral s ≠ none) :
    ∃ c, s.head? = some c ∧ (isspace c = true ∨ c = '-' ∨ c = '+' ∨ c.isDigit = true) := by
  cases s with
  | nil => exact absurd rfl h
  | cons c s =>
    refine ⟨c, rfl, ?_⟩
    by_contra hc
    push Not at hc
    obtain ⟨hspace, hminus, hplus, hdigit⟩ := hc
    refine h ?_
    rw [numeral, List.dropWhile_cons_of_neg hspace]
    split
    rename_i heq
    split at heq
    · exact absurd (List.cons.inj ‹_›).1 hminus
    · exact absurd (List.cons.inj ‹_›).1 hplus
    · obtain ⟨-, rfl⟩ := Prod.mk.inj heq
      rw [List.takeWhile_cons_of_neg hdigit]
      rfl

lemma scan_int_eq_nil : scan (.int :: fmt) s = [] ↔ numeral s = none := by
  rw [scan]
  split <;> simp_all

/-- `strsep(&ptr, "\n")` on the memory from `ptr` on: the line, and what follows unless a NUL ends the text. Nothing
for a text without an end. -/
def strsep : List Char → Option (List Char × Option (List Char))
  | [] => none
  | c :: cs =>
    if c = NUL then some ([], none)
    else if c = '\n' then some ([], some cs)
    else (strsep cs).map fun p => (c :: p.1, p.2)

/-- The lines that begin before the end of the text, when `line` was read of the first of them. -/
def linesFrom (line : List Char) : List Char → List (List Char)
  | [] => if line = [] then [] else [line]
  | c :: cs =>
    if c = NUL then [line]
    else if c = '\n' then line :: linesFrom [] cs
    else linesFrom (line ++ [c]) cs

def fileLines (data : List Char) : List (List Char) := linesFrom [] data

/-- The text and the byte after it end where `strsep` looks for an end. -/
def Terminated (data : List Char) (next : Char) : Prop :=
  NUL ∈ data ∨ next = NUL ∨ next = '\n' ∧ (data = [] ∨ data.getLast? = some '\n')

instance (data : List Char) (next : Char) : Decidable (Terminated data next) :=
  inferInstanceAs (Decidable (_ ∨ _ ∨ _ ∧ _))

/-- Text within a line. -/
def Plain (w : List Char) : Prop := ∀ c ∈ w, c ≠ NUL ∧ c ≠ '\n'

variable {w data rest : List Char} {next : Char}

lemma strsep_append (hw : Plain w) (rest : List Char) :
    strsep (w ++ rest) = (strsep rest).map fun p => (w ++ p.1, p.2) := by
  induction w with
  | nil => simp
  | cons c w ih =>
    have hc := hw c List.mem_cons_self
    rw [List.cons_append, strsep, if_neg hc.1, if_neg hc.2, ih fun d hd => hw d (List.mem_cons_of_mem c hd),
      Option.map_map]
    rfl

lemma strsep_nul (hw : Plain w) (rest : List Char) : strsep (w ++ NUL :: rest) = some (w, none) := by
  rw [strsep_append hw, strsep, if_pos rfl]
  simp

lemma strsep_line (hw : Plain w) (rest : List Char) : strsep (w ++ '\n' :: rest) = some (w, some rest) := by
  rw [strsep_append hw, strsep, if_neg (by decide), if_pos rfl]
  simp

lemma strsep_length {text line rest : List Char} (h : strsep text = some (line, some rest)) :
    rest.length < text.length := by
  induction text generalizing line with
  | nil => simp [strsep] at h
  | cons c text ih =>
    rw [strsep] at h
    split_ifs at h
    · simp at h
    · simp only [Option.some.injEq, Prod.mk.injEq] at h
      rw [← h.2]
      exact Nat.lt_succ_self _
    · obtain ⟨p, hp, heq⟩ := Option.map_eq_some_iff.mp h
      obtain ⟨-, hrest⟩ := Prod.mk.inj heq
      have hrec : strsep text = some (p.1, some rest) := by rw [hp, ← hrest]
      exact Nat.lt_succ_of_lt (ih hrec)

lemma linesFrom_append (hw : Plain w) (line rest : List Char) :
    linesFrom line (w ++ rest) = linesFrom (line ++ w) rest := by
  induction w generalizing line with
  | nil => simp
  | cons c w ih =>
    have hc := hw c List.mem_cons_self
    rw [List.cons_append, linesFrom, if_neg hc.1, if_neg hc.2, ih fun d hd => hw d (List.mem_cons_of_mem c hd),
      List.append_assoc]
    rfl

lemma fileLines_plain (hw : Plain w) : fileLines w = if w = [] then [] else [w] := by
  simpa [fileLines, linesFrom] using linesFrom_append hw [] []

lemma fileLines_nul (hw : Plain w) (rest : List Char) : fileLines (w ++ NUL :: rest) = [w] := by
  rw [fileLines, linesFrom_append hw, linesFrom, if_pos rfl]
  rfl

lemma fileLines_line (hw : Plain w) (rest : List Char) : fileLines (w ++ '\n' :: rest) = w :: fileLines rest := by
  rw [fileLines, linesFrom_append hw, linesFrom, if_neg (by decide), if_pos rfl]
  rfl

lemma plain_cases (data : List Char) :
    Plain data ∨ ∃ w c rest, Plain w ∧ (c = NUL ∨ c = '\n') ∧ data = w ++ c :: rest := by
  induction data with
  | nil => exact .inl fun c hc => absurd hc List.not_mem_nil
  | cons d data ih =>
    by_cases hd : d = NUL ∨ d = '\n'
    · exact .inr ⟨[], d, data, fun c hc => absurd hc List.not_mem_nil, hd, rfl⟩
    · push Not at hd
      have hcons : ∀ {w}, Plain w → Plain (d :: w) := by
        intro w hw c hc
        rcases List.mem_cons.mp hc with rfl | hc
        · exact hd
        · exact hw c hc
      obtain hplain | ⟨w, c, rest, hw, hc, rfl⟩ := ih
      · exact .inl (hcons hplain)
      · exact .inr ⟨d :: w, c, rest, hcons hw, hc, rfl⟩

lemma terminated_plain (hw : Plain w) : Terminated w next ↔ next = NUL ∨ next = '\n' ∧ w = [] := by
  have hnul : NUL ∉ w := fun h => (hw NUL h).1 rfl
  have hlast : w.getLast? ≠ some '\n' := fun h => (hw '\n' (List.mem_of_getLast? h)).2 rfl
  simp [Terminated, hnul, hlast]

lemma terminated_line (hw : Plain w) (rest : List Char) :
    Terminated (w ++ '\n' :: rest) next ↔ Terminated rest next := by
  have hnul : NUL ∉ w := fun h => (hw NUL h).1 rfl
  have hne : NUL ≠ '\n' := by decide
  have hlast : ('\n' :: rest).getLast? = some '\n' ↔ rest = [] ∨ rest.getLast? = some '\n' := by
    cases rest with
    | nil => simp
    | cons d rest => simp [List.getLast?_cons]
  simp [Terminated, hnul, hne, hlast]

end Scanf
