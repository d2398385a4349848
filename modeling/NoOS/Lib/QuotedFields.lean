import Mathlib.Data.List.Basic
import Mathlib.Tactic.Common

/-!
# Lists of plain and quoted fields

A text of fields with a separator between them. A plain field is the printed form of a value;
a quoted one stands between quotes, with an escape character in front of some characters.
-/

namespace QuotedFields

/-- The characters of a format, and which of them are escaped between quotes. -/
structure Format (α : Type*) where
  quote : α
  sep : α
  esc : α
  escaped : α → Bool
  escaped_quote : escaped quote = true
  escaped_esc : escaped esc = true
  quote_ne_esc : quote ≠ esc

/-- Values that are printed without quotes. -/
structure Plain {α : Type*} (fmt : Format α) (β : Type*) where
  print : β → List α
  parse : List α → Option β
  parse_print : ∀ b, parse (print b) = some b
  print_ne_nil : ∀ b, print b ≠ []
  sep_notMem : ∀ b, fmt.sep ∉ print b
  quote_notMem : ∀ b, fmt.quote ∉ print b

inductive Field (α β : Type*)
  | plain (value : β)
  | quoted (text : List α)
deriving DecidableEq

variable {α β : Type*} (fmt : Format α) (plain : Plain fmt β)

def escape (text : List α) : List α :=
  text.flatMap fun c => if fmt.escaped c then [fmt.esc, c] else [c]

variable {fmt}

def Field.encode : Field α β → List α
  | .plain value => plain.print value
  | .quoted text => fmt.quote :: (escape fmt text ++ [fmt.quote])

def encode : List (Field α β) → List α
  | [] => []
  | [f] => f.encode plain
  | f :: fs => f.encode plain ++ fmt.sep :: encode fs

variable {plain}

lemma Field.encode_ne_nil (f : Field α β) : f.encode plain ≠ [] := by
  cases f with
  | plain value => exact plain.print_ne_nil value
  | quoted text => exact List.cons_ne_nil _ _

lemma encode_ne_nil {fs : List (Field α β)} (hfs : fs ≠ []) : encode plain fs ≠ [] := by
  match fs with
  | [f] => exact f.encode_ne_nil
  | f :: g :: gs => simp [encode]

lemma length_le_encode (fs : List (Field α β)) : fs.length ≤ (encode plain fs).length := by
  induction fs with
  | nil => exact Nat.le_refl 0
  | cons f fs ih =>
    have hpos := List.length_pos_iff.mpr (@Field.encode_ne_nil _ _ _ plain f)
    cases fs with
    | nil => exact hpos
    | cons g gs =>
      simp only [encode, List.length_append, List.length_cons] at ih ⊢
      lia

lemma length_escape (text : List α) :
    (escape fmt text).length = text.length + text.countP fmt.escaped := by
  induction text with
  | nil => rfl
  | cons c cs ih =>
    rw [escape, List.flatMap_cons, List.length_append]
    change _ + (escape fmt cs).length = _
    rw [ih, List.countP_cons, List.length_cons]
    split <;> simp <;> lia

variable [DecidableEq α] (plain)

variable (fmt) in
/-- The text up to the closing quote, and what comes after it; `escaping` after an escape
character. -/
def unquote (escaping : Bool) : List α → Option (List α × List α)
  | [] => none
  | c :: cs =>
    if escaping then (unquote false cs).map fun r => (c :: r.1, r.2)
    else if c = fmt.quote then some ([], cs)
    else if c = fmt.esc then unquote true cs
    else (unquote false cs).map fun r => (c :: r.1, r.2)

/-- The first field, and what comes after it. -/
def field (text : List α) : Option (Field α β × List α) :=
  match text with
  | [] => none
  | c :: cs =>
    if c = fmt.quote then (unquote fmt false cs).map fun r => (.quoted r.1, r.2)
    else
      (plain.parse ((c :: cs).takeWhile (· ≠ fmt.sep))).map fun b =>
        (.plain b, (c :: cs).dropWhile (· ≠ fmt.sep))

/-- At most `n` fields, to the end of the text. -/
def fields : ℕ → List α → Option (List (Field α β))
  | 0, _ => none
  | n + 1, text =>
    match field plain text with
    | none => none
    | some (f, []) => some [f]
    | some (f, c :: cs) => if c = fmt.sep then (fields n cs).map (f :: ·) else none

def decode (text : List α) : Option (List (Field α β)) :=
  if text = [] then some [] else fields plain text.length text

variable {plain}

lemma unquote_escape (text rest : List α) :
    unquote fmt false (escape fmt text ++ fmt.quote :: rest) = some (text, rest) := by
  induction text with
  | nil =>
    change unquote fmt false (fmt.quote :: rest) = _
    rw [unquote, if_neg Bool.false_ne_true, if_pos rfl]
  | cons c cs ih =>
    rw [escape, List.flatMap_cons]
    change unquote fmt false (_ ++ escape fmt cs ++ fmt.quote :: rest) = _
    by_cases hc : fmt.escaped c = true
    · have hesc : fmt.esc ≠ fmt.quote := fmt.quote_ne_esc.symm
      rw [if_pos hc, List.append_assoc]
      change unquote fmt false (fmt.esc :: c :: (escape fmt cs ++ fmt.quote :: rest)) = _
      rw [unquote, if_neg Bool.false_ne_true, if_neg hesc, if_pos rfl, unquote, if_pos rfl, ih,
        Option.map_some]
    · have hquote : c ≠ fmt.quote := by
        rintro rfl
        exact hc fmt.escaped_quote
      have hesc : c ≠ fmt.esc := by
        rintro rfl
        exact hc fmt.escaped_esc
      rw [if_neg hc, List.append_assoc]
      change unquote fmt false (c :: (escape fmt cs ++ fmt.quote :: rest)) = _
      rw [unquote, if_neg Bool.false_ne_true, if_neg hquote, if_neg hesc, ih, Option.map_some]

/-- Text in front of which a plain field ends. -/
def Ends (fmt : Format α) (rest : List α) : Prop := ∀ c ∈ rest.head?, c = fmt.sep

lemma takeWhile_append {text rest : List α} (htext : fmt.sep ∉ text) (hrest : Ends fmt rest) :
    (text ++ rest).takeWhile (· ≠ fmt.sep) = text ∧ (text ++ rest).dropWhile (· ≠ fmt.sep) = rest := by
  have hall : ∀ c ∈ text, decide (c ≠ fmt.sep) = true := by
    intro c hc
    refine decide_eq_true ?_
    rintro rfl
    exact htext hc
  rw [List.takeWhile_append_of_pos hall, List.dropWhile_append_of_pos hall]
  cases rest with
  | nil => simp
  | cons c cs => simp [hrest c rfl]

lemma field_encode (f : Field α β) {rest : List α} (hrest : Ends fmt rest) :
    field plain (f.encode plain ++ rest) = some (f, rest) := by
  cases f with
  | plain value =>
    obtain ⟨htake, hdrop⟩ := takeWhile_append (plain.sep_notMem value) hrest
    have hquote := plain.quote_notMem value
    have hparse := plain.parse_print value
    rw [Field.encode]
    cases hp : plain.print value with
    | nil => exact absurd hp (plain.print_ne_nil value)
    | cons c cs =>
      rw [hp] at htake hdrop hquote hparse
      have hc : c ≠ fmt.quote := by
        rintro rfl
        exact hquote List.mem_cons_self
      rw [List.cons_append] at htake hdrop ⊢
      simp only [field, if_neg hc, htake, hdrop, hparse, Option.map_some]
  | quoted text =>
    rw [Field.encode, List.cons_append, List.append_assoc]
    change field plain (fmt.quote :: (escape fmt text ++ fmt.quote :: rest)) = _
    simp only [field, if_true, unquote_escape, Option.map_some]

lemma fields_encode {fs : List (Field α β)} (hfs : fs ≠ []) {n : ℕ} (hn : fs.length ≤ n) :
    fields plain n (encode plain fs) = some fs := by
  induction fs generalizing n with
  | nil => exact absurd rfl hfs
  | cons f fs ih =>
    obtain ⟨n, rfl⟩ : ∃ m, n = m + 1 := ⟨n - 1, by simp only [List.length_cons] at hn; lia⟩
    cases fs with
    | nil =>
      have hf := @field_encode _ _ _ plain _ f [] (by simp [Ends])
      rw [List.append_nil] at hf
      simp only [encode, fields, hf]
    | cons g gs =>
      have hf := @field_encode _ _ _ plain _ f (fmt.sep :: encode plain (g :: gs)) (by simp [Ends])
      have hgs := ih (List.cons_ne_nil g gs) (Nat.le_of_succ_le_succ hn)
      simp only [encode, fields, hf, hgs, if_true, Option.map_some]

/-- No two lists of fields have the same text. -/
theorem decode_encode (fs : List (Field α β)) : decode plain (encode plain fs) = some fs := by
  rw [decode]
  by_cases hfs : fs = []
  · rw [hfs]
    rfl
  · rw [if_neg (encode_ne_nil hfs), fields_encode hfs (length_le_encode fs)]

end QuotedFields
