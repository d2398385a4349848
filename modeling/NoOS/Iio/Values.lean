import Mathlib.Data.UInt
import NoOS.Errno
import NoOS.Lib.CString
import NoOS.Lib.Numeral

/-!
# Values of attributes

Translation of `iio_format_value` and `iio_parse_value` in `iio/iio.c`. There is no result
when the behaviour is undefined.
-/

namespace NoOS
open CString Numeral

inductive IioVal
  | iioValInt
  | iioValIntPlusMicro
  | iioValIntPlusNano
  | iioValIntPlusMicroDb
  | iioValIntMultiple
  | iioValFractional
  | iioValFractionalLog2
  | iioValChar
deriving DecidableEq

/-- The next token of a string, and what is left behind the delimiter that ends it. -/
def strtok (delims s : List Char) : Option (List Char × List Char) :=
  match s.dropWhile (· ∈ delims) with
  | [] => none
  | cs => some (cs.takeWhile (· ∉ delims), (cs.dropWhile (· ∉ delims)).tail)

/-- The integer and the fraction, unless one of them is missing. -/
def iioStrParse (buf : List Char) (scaleDb : Bool) : Option (ℤ × ℤ) := do
  let (p, rest) ← strtok ['.'] buf
  let integer := strtol p
  let (p, _) ←
    if scaleDb then strtok ['d', 'b'] rest <|> strtok [' ', 'd', 'b'] rest
    else strtok ['\n'] rest
  some (integer, strtol p)

/-- `fract *= scale`, which must not overflow. -/
def scaleFract (scale : ℤ) : Option (ℤ × ℤ) → Option (Except ℤ (ℤ × ℤ))
  | none => some (.error (-EINVAL))
  | some (integer, fract) =>
    if -2 ^ 31 ≤ fract * scale ∧ fract * scale < 2 ^ 31 then some (.ok (integer, fract * scale))
    else none

/-- An error, or `*val` and `*val2`. -/
def iioParseValue (buf : List Char) : IioVal → Option (Except ℤ (ℤ × ℤ))
  | .iioValInt => some (.ok (strtol buf, 0))
  | .iioValIntPlusMicroDb => scaleFract 100000 (iioStrParse buf true)
  | .iioValIntPlusMicro => scaleFract 100000 (iioStrParse buf false)
  | .iioValIntPlusNano => scaleFract 100000000 (iioStrParse buf false)
  | .iioValChar =>
    match buf with
    | [] => some (.error (-EINVAL))
    | ch :: _ => some (.ok (ch.toNat, 0))
  | _ => some (.error (-EINVAL))

/-- `shift_right`, for a distance that is less than the width. -/
def shiftRight (x : ℤ) (s : Int32) : Option ℤ :=
  if s < 0 ∨ 64 ≤ s then none
  else some (if x < 0 then -(-x / 2 ^ s.toInt.toNat) else x / 2 ^ s.toInt.toNat)

/-- "%d.%09u" of a number of 10^-9. -/
def nanoText (tmp : ℤ) : List Char :=
  decimal (Int32.ofInt (tmp.tdiv 1000000000)).toInt ++
    '.' :: zeroPadded 9 (tmp.tmod 1000000000).natAbs

/-- The numbers with a blank after each, until one of them has reached the end of the buffer. -/
def printMultiple (b : Sink) : List Int32 → Sink
  | [] => b
  | v :: vs =>
    let b := b.snprintf (decimal v.toInt ++ [' '])
    if b.n ≤ b.i then b else printMultiple b vs

/-- The buffer holds `len` bytes; the number of characters `i` is the result. -/
def iioFormatValue (b : Sink) (fmt : IioVal) (size : Int32) (vals : ℕ → Int32) : Option Sink :=
  match fmt with
  | .iioValInt => some (b.snprintf (decimal (vals 0).toInt))
  | .iioValIntPlusMicroDb => some (b.snprintf
      (decimal (vals 0).toInt ++ '.' :: (zeroPadded 6 (vals 1).toUInt32.toNat ++ " dB".toList)))
  | .iioValIntPlusMicro => some (b.snprintf
      (decimal (vals 0).toInt ++ '.' :: (zeroPadded 6 (vals 1).toUInt32.toNat ++ [])))
  | .iioValIntPlusNano => some (b.snprintf
      (decimal (vals 0).toInt ++ '.' :: zeroPadded 9 (vals 1).toUInt32.toNat))
  | .iioValFractional =>
    if vals 1 = 0 then none
    else some (b.snprintf (nanoText (((vals 0).toInt * 1000000000).tdiv (vals 1).toInt)))
  | .iioValFractionalLog2 =>
    (shiftRight ((vals 0).toInt * 1000000000) (vals 1)).map fun tmp => b.snprintf (nanoText tmp)
  | .iioValIntMultiple => some (printMultiple b ((List.range size.toInt.toNat).map vals))
  | .iioValChar => some (b.snprintf [Char.ofNat ((vals 0).toUInt32.toNat % 256)])

/-- How many fractions a format has; the integer format has only 0. -/
def IioVal.fractions : IioVal → ℕ
  | .iioValInt => 1
  | .iioValIntPlusMicro | .iioValIntPlusMicroDb => 10 ^ 6
  | .iioValIntPlusNano => 10 ^ 9
  | _ => 0

/-- What is read from the buffer that a value has been printed to. -/
def reparse (b : Sink) (fmt : IioVal) (val val2 : Int32) : Option (Except ℤ (ℤ × ℤ)) := do
  let b ← iioFormatValue b fmt 2 (fun i => if i = 0 then val else val2)
  let text ← read b.mem
  iioParseValue text fmt

variable {b : Sink} {text tail : List Char} {w f : ℕ} {z : ℤ}

lemma mem_decimal {c : Char} (h : c ∈ decimal z) : c = '-' ∨ c.isDigit = true := by
  unfold decimal at h
  split_ifs at h
  · rcases List.mem_cons.mp h with rfl | h
    · exact .inl rfl
    · exact .inr (isDigit_toDigits h)
  · exact .inr (isDigit_toDigits h)

lemma decimal_ne_nil : decimal z ≠ [] := by
  unfold decimal
  split_ifs
  · simp
  · exact Nat.toDigits_ne_nil

lemma length_decimal (v : Int32) : (decimal v.toInt).length ≤ 11 := by
  have hdigits : (Nat.toDigits 10 v.toInt.natAbs).length ≤ 10 := by
    have hmin := v.le_toInt
    have hmax := v.toInt_lt
    rw [Nat.length_toDigits_le_iff (by decide) (by decide)]
    lia
  unfold decimal
  split_ifs
  · simp only [List.length_cons]
    omega
  · omega

/-- A text that fits in the buffer is the string that is read from it. -/
lemma read_snprintf (hi : b.i = 0) (hlen : text.length < b.n) (hnul : NUL ∉ text) :
    read (b.snprintf text).mem = some text := by
  have hmem : (b.snprintf text).mem = text ++ NUL :: b.mem.drop (text.length + 1) := by
    simp only [Sink.snprintf, hi, Nat.sub_zero, bounded_of_lt hlen]
    simp [writeAt]
  rw [hmem, read_eq hnul]

section Tokens

variable {delims token rest : List Char}

lemma strtok_token (hne : token ≠ []) (h : ∀ c ∈ token, c ∉ delims) :
    strtok delims (token ++ rest) = some (token ++ rest.takeWhile (· ∉ delims),
      (rest.dropWhile (· ∉ delims)).tail) := by
  have hpos : ∀ c ∈ token, decide (c ∉ delims) = true := fun c hc => decide_eq_true (h c hc)
  have hskip : (token ++ rest).dropWhile (· ∈ delims) = token ++ rest := by
    cases token with
    | nil => exact absurd rfl hne
    | cons c cs =>
      rw [List.cons_append, List.dropWhile_cons_of_neg]
      simpa using h c List.mem_cons_self
  rw [strtok, hskip]
  split
  · exact absurd (List.append_eq_nil_iff.mp ‹_›).1 hne
  · rw [List.takeWhile_append_of_pos hpos, List.dropWhile_append_of_pos hpos]

lemma strtok_append {d : Char} (hne : token ≠ []) (h : ∀ c ∈ token, c ∉ delims) (hd : d ∈ delims) :
    strtok delims (token ++ d :: rest) = some (token, rest) := by
  rw [strtok_token hne h, List.takeWhile_cons_of_neg (by simpa using hd),
    List.dropWhile_cons_of_neg (by simpa using hd), List.append_nil, List.tail_cons]

lemma strtok_end (hne : token ≠ []) (h : ∀ c ∈ token, c ∉ delims) :
    strtok delims token = some (token, []) := by
  simpa using @strtok_token delims token [] hne h

end Tokens

/-- Scaled by the value of its first digit, a fraction is itself only when it is 0. -/
lemma scaleFract_iff {v : ℤ} (hw : 1 < w) (hw' : w ≤ 9) (hf : f < 10 ^ w) (h : Stops tail) :
    scaleFract ((10 ^ (w - 1) : ℕ) : ℤ) (some (v, strtol (zeroPadded w f ++ tail))) =
      some (.ok (v, (f : ℤ))) ↔ f = 0 := by
  have hmax : f < 2 ^ 31 := by
    have hpow : 10 ^ w ≤ 10 ^ 9 := Nat.pow_le_pow_right (by decide) hw'
    lia
  rw [scaleFract]
  constructor
  · intro heq
    split_ifs at heq
    obtain heq : strtol (zeroPadded w f ++ tail) * ((10 ^ (w - 1) : ℕ) : ℤ) = f := by simpa using heq
    by_contra hne
    -- a multiple of the scale has all of its digits
    have hle : 10 ^ (w - 1) ≤ f :=
      Nat.le_of_dvd (Nat.pos_of_ne_zero hne) (Int.natCast_dvd_natCast.mp (Dvd.intro_left _ heq))
    rw [strtol_zeroPadded_of_le hw hle hmax h] at heq
    have hscale : 1 < 10 ^ (w - 1) := Nat.one_lt_pow (by lia) (by decide)
    have hmul : f * 10 ^ (w - 1) = f * 1 := by
      rw [Nat.mul_one]
      exact_mod_cast heq
    exact absurd (Nat.eq_of_mul_eq_mul_left (Nat.pos_of_ne_zero hne) hmul) hscale.ne'
  · rintro rfl
    rw [strtol_zeroPadded_zero (by omega) h]
    simp

lemma isDigit_ne {c d : Char} (hc : c.isDigit = true) (hd : d.isDigit = false) : c ≠ d := by
  rintro rfl
  simp [hc] at hd

lemma strtok_integer (v : Int32) (rest : List Char) :
    strtok ['.'] (decimal v.toInt ++ '.' :: rest) = some (decimal v.toInt, rest) := by
  refine strtok_append decimal_ne_nil ?_ List.mem_cons_self
  intro c hc
  rw [List.mem_singleton]
  rcases mem_decimal hc with rfl | hc
  · decide
  · exact isDigit_ne hc rfl

lemma iioStrParse_micro (v : Int32) :
    iioStrParse (decimal v.toInt ++ '.' :: zeroPadded w f) false =
      some (v.toInt, strtol (zeroPadded w f ++ [])) := by
  have hne : zeroPadded w f ≠ [] := by simp [zeroPadded]
  have hend : ∀ c ∈ zeroPadded w f, c ∉ ['\n'] := by
    intro c hc
    rw [List.mem_singleton]
    exact isDigit_ne (isDigit_zeroPadded hc) rfl
  simp only [iioStrParse, strtok_integer, strtok_end hne hend,
    strtol_decimal v.le_toInt v.toInt_lt, Bool.false_eq_true, if_false, Option.bind_eq_bind,
    Option.bind_some, List.append_nil]

lemma iioStrParse_db (v : Int32) :
    iioStrParse (decimal v.toInt ++ '.' :: (zeroPadded w f ++ " dB".toList)) true =
      some (v.toInt, strtol (zeroPadded w f ++ [' '])) := by
  have hne : zeroPadded w f ++ [' '] ≠ [] := by simp
  have hend : ∀ c ∈ zeroPadded w f ++ [' '], c ∉ ['d', 'b'] := by
    intro c hc
    simp only [List.mem_cons, List.not_mem_nil, or_false, not_or]
    rcases List.mem_append.mp hc with hc | hc
    · exact ⟨isDigit_ne (isDigit_zeroPadded hc) rfl, isDigit_ne (isDigit_zeroPadded hc) rfl⟩
    · rw [List.mem_singleton.mp hc]
      decide
  have hsplit : zeroPadded w f ++ " dB".toList = (zeroPadded w f ++ [' ']) ++ 'd' :: ['B'] := by
    rw [List.append_assoc]
    rfl
  have htok : strtok ['d', 'b'] ((zeroPadded w f ++ [' ']) ++ 'd' :: ['B']) =
      some (zeroPadded w f ++ [' '], ['B']) := strtok_append hne hend List.mem_cons_self
  simp only [iioStrParse, strtok_integer, hsplit, htok, strtol_decimal v.le_toInt v.toInt_lt,
    if_true, Option.bind_eq_bind, Option.bind_some]
  rfl

variable {b : Sink}

lemma reparse_snprintf {fmt : IioVal} {val val2 : Int32} (hi : b.i = 0) (hlen : text.length < b.n)
    (hnul : NUL ∉ text)
    (hfmt : iioFormatValue b fmt 2 (fun i => if i = 0 then val else val2) =
      some (b.snprintf text)) :
    reparse b fmt val val2 = iioParseValue text fmt := by
  simp only [reparse, hfmt, read_snprintf hi hlen hnul, Option.bind_eq_bind, Option.bind_some]

lemma nul_notMem_value (v : Int32) (w f : ℕ) (htail : NUL ∉ tail) :
    NUL ∉ decimal v.toInt ++ '.' :: (zeroPadded w f ++ tail) := by
  have hdec : NUL ∉ decimal v.toInt := by
    intro h
    rcases mem_decimal h with h | h
    · exact absurd h (by decide)
    · exact absurd h (by decide)
  have hfrac : NUL ∉ zeroPadded w f := fun h => absurd (isDigit_zeroPadded h) (by decide)
  have hdot : NUL ≠ '.' := by decide
  simp only [List.mem_append, List.mem_cons, hdec, hfrac, hdot, htail, or_self, not_false_eq_true]

lemma length_value (v : Int32) (tail : List Char) (hw : 0 < w) (hf : f < 10 ^ w) (hlen : w + tail.length ≤ 9) :
    (decimal v.toInt ++ '.' :: (zeroPadded w f ++ tail)).length < 22 := by
  have hint := length_decimal v
  have hfrac := length_zeroPadded hw hf
  simp only [List.length_append, List.length_cons]
  lia

lemma toNat_fract {n : ℕ} (fract : Fin n) (hn : n ≤ 10 ^ 9) :
    (Int32.ofNat fract).toUInt32.toNat = fract := by
  have hlt := fract.isLt
  change (UInt32.ofNat fract).toNat = fract
  exact UInt32.toNat_ofNat_of_lt' (by simp only [UInt32.size]; lia)

/-- A value is read back as it was printed if and only if its fraction is 0. -/
theorem iio_value_round_trip (b : Sink) (hi : b.i = 0) (hn : 22 ≤ b.n) (fmt : IioVal) (val : Int32)
    (fract : Fin fmt.fractions) :
    reparse b fmt val (Int32.ofNat fract) = some (.ok (val.toInt, (fract : ℕ))) ↔ (fract : ℕ) = 0 := by
  have hdb : NUL ∉ " dB".toList := by decide
  cases fmt with
  | iioValInt =>
    have hlen := length_decimal val
    have hnul := nul_notMem_value val 1 0 List.not_mem_nil
    have hzero : (fract : ℕ) = 0 := Nat.lt_one_iff.mp fract.isLt
    rw [reparse_snprintf hi (by omega : (decimal val.toInt).length < b.n)
      (fun h => hnul (List.mem_append_left _ h)) rfl, hzero, iioParseValue,
      strtol_decimal val.le_toInt val.toInt_lt]
    simp
  | iioValIntPlusMicro =>
    have hf : (fract : ℕ) < 10 ^ 6 := fract.isLt
    have hval := toNat_fract fract (by decide)
    have hlen := length_value val [] (by decide) hf (by decide)
    rw [reparse_snprintf hi (hlen.trans_le hn) (nul_notMem_value _ _ _ List.not_mem_nil)
      (by rw [iioFormatValue]; simp only [hval, if_true, one_ne_zero, if_false]),
      iioParseValue, List.append_nil, iioStrParse_micro]
    exact scaleFract_iff (w := 6) (by decide) (by decide) hf stops_nil
  | iioValIntPlusMicroDb =>
    have hf : (fract : ℕ) < 10 ^ 6 := fract.isLt
    have hval := toNat_fract fract (by decide)
    have hlen := length_value val " dB".toList (by decide) hf (by decide)
    rw [reparse_snprintf hi (hlen.trans_le hn) (nul_notMem_value _ _ _ hdb)
      (by rw [iioFormatValue]; simp only [hval, if_true, one_ne_zero, if_false]),
      iioParseValue, iioStrParse_db]
    exact scaleFract_iff (w := 6) (by decide) (by decide) hf stops_blank
  | iioValIntPlusNano =>
    have hf : (fract : ℕ) < 10 ^ 9 := fract.isLt
    have hval := toNat_fract fract (by decide)
    have hlen := length_value val [] (by decide) hf (by decide)
    rw [reparse_snprintf hi (hlen.trans_le hn) (nul_notMem_value _ _ _ List.not_mem_nil)
      (by rw [iioFormatValue]; simp only [hval, if_true, one_ne_zero, if_false, List.append_nil]),
      iioParseValue, List.append_nil, iioStrParse_micro]
    exact scaleFract_iff (w := 9) (by decide) (by decide) hf stops_nil
  | _ => exact fract.elim0

/-- 5 without a fraction. -/
theorem iio_value_round_trip_five :
    reparse ⟨[], 22, 0⟩ .iioValIntPlusMicro 5 0 = some (.ok (5, 0)) :=
  (iio_value_round_trip ⟨[], 22, 0⟩ rfl (by decide) .iioValIntPlusMicro 5 ⟨0, by decide⟩).mpr rfl

/-- 1.000001 is read back as 1.100000: its fraction is an octal 1, which is scaled. -/
theorem iio_value_round_trip_millionth :
    reparse ⟨[], 22, 0⟩ .iioValIntPlusMicro 1 1 = some (.ok (1, 100000)) ∧
      reparse ⟨[], 22, 0⟩ .iioValIntPlusMicro 1 1 ≠ some (.ok (1, 1)) := by
  have hread : reparse ⟨[], 22, 0⟩ .iioValIntPlusMicro 1 1 = some (.ok (1, 100000)) := rfl
  refine ⟨hread, ?_⟩
  rw [hread]
  simp

end NoOS
