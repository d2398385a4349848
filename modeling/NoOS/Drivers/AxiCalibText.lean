import Mathlib.Tactic.Ring
import NoOS.Drivers.AxiDacCalib
import NoOS.Drivers.IioAxiDac
import NoOS.Lib.CString
import NoOS.Lib.Numeral

/-!
# The text of the calibration attributes

The IIO functions of the AXI converters print the coefficients of the calibration with six digits behind the point. A sign
before a 0 is printed by itself. The tone scale is printed from one number of millionths. A `long` has 32 bits.
-/

namespace NoOS
open CString Numeral

/-- The two coefficients of a register -/
def AXI_TO_IQCOR_COEFF_1 (x : UInt32) : UInt32 := (x >>> 16) &&& 0xFFFF
def AXI_TO_IQCOR_COEFF_2 (x : UInt32) : UInt32 := (x >>> 0) &&& 0xFFFF

def iqcorCoeff (phase chan reg : UInt32) : UInt32 :=
  if (phase + chan) % 2 = 0 then AXI_TO_IQCOR_COEFF_1 reg else AXI_TO_IQCOR_COEFF_2 reg

def AXI_ADC_REG_CHAN_CNTRL_2 (c : UInt32) : UInt32 := 0x0414 + c * 0x40
def AXI_DAC_REG_CHAN_CNTRL_8 (c : UInt32) : UInt32 := 0x041C + c * 0x40
def AXI_DAC_REG_DDS_SCALE (x : UInt32) : UInt32 := (0x400 : UInt32) + (x >>> 1) * 0x40 + (x &&& 1) * 0x8
def AXI_DAC_TO_DDS_SCALE (x : UInt32) : UInt32 := (x >>> 0) &&& 0xFFFF

/-- The coefficient is decoded by the same lines as in `axi_dac_dds_from_signed_mag_fmt`. -/
def axiAdcGetCalibPhaseScale (regs : UInt32 → UInt32) (phase chan : UInt32) : Int32 × Int32 :=
  axiDacDdsFromSignedMagFmt (iqcorCoeff phase chan (regs (AXI_ADC_REG_CHAN_CNTRL_2 chan)))

def axiAdcGetCalibPhase (regs : UInt32 → UInt32) (chan : UInt32) : Int32 × Int32 :=
  axiAdcGetCalibPhaseScale regs 1 chan

def axiAdcGetCalibScale (regs : UInt32 → UInt32) (chan : UInt32) : Int32 × Int32 :=
  axiAdcGetCalibPhaseScale regs 0 chan

def axiDacDdsGetCalibPhaseScale (dac : AxiDac) (phase chan : UInt32) : Int32 × Int32 :=
  axiDacDdsFromSignedMagFmt (iqcorCoeff phase chan (dac.regs (AXI_DAC_REG_CHAN_CNTRL_8 chan)))

def axiDacDdsGetCalibPhase (dac : AxiDac) (chan : UInt32) : Int32 × Int32 := axiDacDdsGetCalibPhaseScale dac 1 chan
def axiDacDdsGetCalibScale (dac : AxiDac) (chan : UInt32) : Int32 × Int32 := axiDacDdsGetCalibPhaseScale dac 0 chan

/-- The signed value of the scale register -/
def ddsScale (scaleReg : UInt32) : Int32 :=
  let scaleReg := AXI_DAC_TO_DDS_SCALE scaleReg
  let sign : Int32 := if scaleReg &&& 0x8000 ≠ 0 then -1 else 1
  ((scaleReg &&& ~~~0x8000).toUInt64 * 1000000 / 0x4000).toUInt32.toInt32 * sign

/-- `*scale_micro_units`. The register is read between two writes of the synchronisation. -/
def axiDacDdsGetScale (dac : AxiDac) (chan : UInt32) : Int32 × AxiDac :=
  let dac := axiDacWrite dac AXI_DAC_REG_SYNC_CONTROL 0
  let scaleReg := dac.regs (AXI_DAC_REG_DDS_SCALE chan)
  (ddsScale scaleReg, axiDacWrite dac AXI_DAC_REG_SYNC_CONTROL AXI_DAC_SYNC)

/-! ### The texts

Each function returns a length and the bytes that it has written to the buffer. -/

/-- `%.6` of a signed number -/
def sixDigits (z : ℤ) : List Char := if z < 0 then '-' :: zeroPadded 6 z.natAbs else zeroPadded 6 z.natAbs

/-- `"%"PRIi32".%.6"PRIi32` -/
def pointText (val val2 : ℤ) : List Char := decimal val ++ '.' :: sixDigits val2

/-- A negative fraction of 0 has its sign printed first. -/
def showCalib (r : Int32 × Int32) (len : ℕ) : ℕ × Bytes :=
  let text := pointText r.1.toInt |r.2.toInt|
  if r.2 < 0 ∧ r.1 ≥ 0 then (1 + text.length, Bytes.signed len text)
  else (text.length, Bytes.unwritten.snprintf 0 len text)

/-- The channel number as it is passed on -/
def chanOf (chNum : Int16) : UInt32 := chNum.toInt32.toUInt32

def getCalibphase (regs : UInt32 → UInt32) (chNum : Int16) (len : ℕ) : ℕ × Bytes :=
  showCalib (axiAdcGetCalibPhase regs (chanOf chNum)) len

def getCalibscale (regs : UInt32 → UInt32) (chNum : Int16) (len : ℕ) : ℕ × Bytes :=
  showCalib (axiAdcGetCalibScale regs (chanOf chNum)) len

def getVoltageCalibscale (dac : AxiDac) (chNum : Int16) (len : ℕ) : ℕ × Bytes :=
  showCalib (axiDacDdsGetCalibScale dac (chanOf chNum)) len

/-- The sign is counted and not printed. -/
def showCalibphase (r : Int32 × Int32) (len : ℕ) : ℕ × Bytes :=
  let text := pointText r.1.toInt |r.2.toInt|
  if r.2 < 0 ∧ r.1 ≥ 0 then (1 + text.length, Bytes.unwritten.snprintf 1 len text)
  else (text.length, Bytes.unwritten.snprintf 0 len text)

def getVoltageCalibphase (dac : AxiDac) (chNum : Int16) (len : ℕ) : ℕ × Bytes :=
  showCalibphase (axiDacDdsGetCalibPhase dac (chanOf chNum)) len

/-- Both parts have the sign of the number. -/
def showScale (scale : Int32) (len : ℕ) : ℕ × Bytes :=
  let text := pointText (scale / 1000000).toInt (scale % 1000000).toInt
  (text.length, Bytes.unwritten.snprintf 0 len text)

def getAltvoltageScale (dac : AxiDac) (chNum : Int16) (len : ℕ) : ℕ × Bytes :=
  showScale (axiDacDdsGetScale dac (chanOf chNum)).1 len

/-- The buffer holds a text of the returned length for the number `q`, and nothing has been written behind it. -/
def ShowsValue (len : ℕ) (r : ℕ × Bytes) (q : ℚ) : Prop :=
  ∃ text, Bytes.Holds r.2 len r.1 text ∧ decimalValue text = some q

/-- The characters of a coefficient -/
def textLength (w : UInt32) : ℕ := if 0x8000 < w then 9 else 8

namespace CalibText

variable {len n w m : ℕ} {s b : Bool} {text : List Char} {q : ℚ} {val val2 : Int32}

lemma nul_not_digit : ¬NUL.isDigit = true := by decide

lemma shows_snprintf (hne : text ≠ []) :
    ShowsValue len (text.length, Bytes.unwritten.snprintf 0 len text) q ↔
      text.length < len ∧ decimalValue text = some q := by
  constructor
  · rintro ⟨t, hholds, hvalue⟩
    rcases Bytes.of_holds_snprintf hne hholds with hfit | ⟨s, rfl⟩
    · rw [hholds.unique (Bytes.holds_snprintf hfit)] at hvalue
      exact ⟨hfit, hvalue⟩
    · rw [decimalValue_end nul_not_digit] at hvalue
      exact nomatch hvalue
  · rintro ⟨hfit, hvalue⟩
    exact ⟨text, Bytes.holds_snprintf hfit, hvalue⟩

lemma shows_signed : ShowsValue len (1 + text.length, Bytes.signed len text) q ↔
    1 + text.length < len ∧ decimalValue ('-' :: text) = some q := by
  constructor
  · rintro ⟨t, hholds, hvalue⟩
    have hfit := Bytes.of_holds_signed hholds
    rw [hholds.unique (Bytes.holds_signed hfit)] at hvalue
    exact ⟨hfit, hvalue⟩
  · rintro ⟨hfit, hvalue⟩
    exact ⟨'-' :: text, Bytes.holds_signed hfit, hvalue⟩

lemma pointText_ne_nil (val val2 : ℤ) : pointText val val2 ≠ [] :=
  List.append_ne_nil_of_right_ne_nil _ (List.cons_ne_nil _ _)

lemma pointText_natCast (n m : ℕ) : pointText n m = Nat.toDigits 10 n ++ '.' :: zeroPadded 6 m := by
  rw [pointText, sixDigits, decimal, if_neg (by omega), if_neg (by omega)]
  rfl

lemma pointText_neg (hn : 0 < n) (z : ℤ) : pointText (-n) z = '-' :: pointText n z := by
  rw [pointText, pointText, decimal, decimal, if_pos (by omega), if_neg (by omega), Int.natAbs_neg]
  rfl

lemma length_pointText (hn : n < 10) (hm : m < 10 ^ 6) : (pointText n m).length = 8 := by
  have hlen := length_zeroPadded (by decide) hm
  rw [pointText_natCast, Nat.toDigits_of_lt_base hn, List.length_append, List.length_singleton, List.length_cons, hlen]

lemma decimalValue_pointText (hm : m < 10 ^ 6) (n : ℕ) :
    decimalValue (pointText n m) = some (n + (m : ℚ) / 1000000) ∧
      decimalValue ('-' :: pointText n m) = some (-(n + (m : ℚ) / 1000000)) := by
  have hpointed := pointed_fraction (by decide) hm n
  rw [pointText_natCast]
  norm_num at hpointed
  constructor
  · rw [decimalValue_toDigits, hpointed]
  · rw [decimalValue, hpointed]
    rfl

lemma decimalValue_second_sign (hm : 0 < m) (n : ℕ) : decimalValue (pointText n (-m)) = none ∧
    decimalValue ('-' :: pointText n (-m)) = none := by
  have hpointed : pointed (Nat.toDigits 10 n ++ '.' :: '-' :: zeroPadded 6 m) = none := by
    rw [pointed_toDigits, if_neg]
    exact fun h => absurd (h.2 '-' List.mem_cons_self) (by decide)
  have htext : pointText n (-m) = Nat.toDigits 10 n ++ '.' :: '-' :: zeroPadded 6 m := by
    rw [pointText, sixDigits, decimal, if_neg (by omega), if_pos (by omega), Int.natAbs_neg]
    rfl
  rw [htext]
  constructor
  · rw [decimalValue_toDigits, hpointed]
  · rw [decimalValue, hpointed]
    rfl

section Point

variable {a : ℕ}

lemma shows_point (ha : a < 10) (hm : m < 10 ^ 6) :
    ShowsValue len ((pointText a m).length, Bytes.unwritten.snprintf 0 len (pointText a m)) q ↔
      8 < len ∧ a + (m : ℚ) / 1000000 = q := by
  rw [shows_snprintf (pointText_ne_nil _ _), length_pointText ha hm, (decimalValue_pointText hm a).1, Option.some.injEq]

lemma shows_negative (hpos : 0 < a) (ha : a < 10) (hm : m < 10 ^ 6) :
    ShowsValue len ((pointText (-a) m).length, Bytes.unwritten.snprintf 0 len (pointText (-a) m)) q ↔
      9 < len ∧ -(a + (m : ℚ) / 1000000) = q := by
  rw [shows_snprintf (pointText_ne_nil _ _), pointText_neg hpos, List.length_cons, length_pointText ha hm,
    (decimalValue_pointText hm a).2, Option.some.injEq]

lemma shows_sign_first (ha : a < 10) (hm : m < 10 ^ 6) :
    ShowsValue len (1 + (pointText a m).length, Bytes.signed len (pointText a m)) q ↔
      9 < len ∧ -(a + (m : ℚ) / 1000000) = q := by
  rw [shows_signed, length_pointText ha hm, (decimalValue_pointText hm a).2, Option.some.injEq]

end Point

lemma exists_calibWord {w : UInt32} (hw : w.toNat < 2 ^ 16) : ∃ s b n, n < 2 ^ 14 ∧ w = calibWord s b n := by
  refine ⟨decide (2 ^ 15 ≤ w.toNat), decide (2 ^ 14 ≤ w.toNat % 2 ^ 15), w.toNat % 2 ^ 14, by lia, ?_⟩
  apply UInt32.toNat_inj.mp
  rw [toNat_calibWord (by lia)]
  by_cases hs : 2 ^ 15 ≤ w.toNat
  · by_cases hb : 2 ^ 14 ≤ w.toNat % 2 ^ 15
    · rw [decide_eq_true hs, decide_eq_true hb, Bool.toNat_true]
      lia
    · rw [decide_eq_true hs, decide_eq_false hb, Bool.toNat_true, Bool.toNat_false]
      lia
  · by_cases hb : 2 ^ 14 ≤ w.toNat % 2 ^ 15
    · rw [decide_eq_false hs, decide_eq_true hb, Bool.toNat_true, Bool.toNat_false]
      lia
    · rw [decide_eq_false hs, decide_eq_false hb, Bool.toNat_false]
      lia

lemma iqcorCoeff_lt (phase chan reg : UInt32) : (iqcorCoeff phase chan reg).toNat < 2 ^ 16 := by
  have hmask : (0xFFFF : UInt32).toNat = 2 ^ 16 - 1 := rfl
  rw [iqcorCoeff]
  split_ifs
  · rw [AXI_TO_IQCOR_COEFF_1, UInt32.toNat_and, hmask, Nat.and_two_pow_sub_one_eq_mod]
    exact Nat.mod_lt _ (by decide)
  · rw [AXI_TO_IQCOR_COEFF_2, UInt32.toNat_and, hmask, Nat.and_two_pow_sub_one_eq_mod]
    exact Nat.mod_lt _ (by decide)

lemma microOf_pos_iff : 0 < microOf n ↔ 0 < n := by
  unfold microOf
  lia

lemma lt_calibWord_iff (hn : n < 2 ^ 14) : 0x8000 < calibWord s b n ↔ s = true ∧ (b = true ∨ 0 < n) := by
  rw [UInt32.lt_iff_toNat_lt, toNat_calibWord hn]
  have hhalf : (0x8000 : UInt32).toNat = 2 ^ 15 := rfl
  rw [hhalf]
  cases s <;> cases b <;> simp <;> lia

/-- Units and micro units of a word, with the sign in the micro units where the units are 0 -/
lemma decode_calibWord (hn : n < 2 ^ 14) :
    (axiDacDdsFromSignedMagFmt (calibWord s b n)).1 = (if b then (if s then -1 else 1) else 0) ∧
      (axiDacDdsFromSignedMagFmt (calibWord s b n)).2.toInt =
        if s ∧ b = false then -(microOf n : ℤ) else microOf n := by
  have hfraction := calibWord_fraction (s := s) (b := b) hn
  have hmicro : (((calibWord s b n &&& ~~~0xC000).toUInt64 * 1000000 + 0x4000 / 2) / 0x4000).toNat =
      microOf n := by
    rw [toNat_micro (by rw [hfraction]; exact hn), hfraction]
  have hlt := microOf_lt hn
  rw [← hmicro] at hlt ⊢
  simp only [axiDacDdsFromSignedMagFmt, calibWord_sign hn, calibWord_integer hn]
  generalize ((calibWord s b n &&& ~~~0xC000).toUInt64 * 1000000 + 0x4000 / 2) / 0x4000 = v at hlt ⊢
  cases b with
  | false =>
    have hsigned := toInt_signed (s := s) hlt
    simp only [Bool.false_eq_true, if_false, if_true, hsigned, and_true]
  | true =>
    have hsigned := toInt_signed (s := false) hlt
    simp only [Bool.false_eq_true, if_false] at hsigned
    have hself : v * (1 : Int32).toInt64.toUInt64 = v := UInt64.mul_one v
    rw [hself] at hsigned
    cases s with
    | false => exact ⟨rfl, hsigned⟩
    | true => exact ⟨rfl, hsigned⟩

lemma sign_first_iff (hn : n < 2 ^ 14) : ((axiDacDdsFromSignedMagFmt (calibWord s b n)).2 < 0 ∧
    (axiDacDdsFromSignedMagFmt (calibWord s b n)).1 ≥ 0) ↔ s = true ∧ b = false ∧ 0 < n := by
  obtain ⟨hval, hval2⟩ := decode_calibWord (s := s) (b := b) hn
  have hzero : Int32.toInt 0 = 0 := rfl
  have hpos := @microOf_pos_iff n
  rw [Int32.lt_iff_toInt_lt, hval, hval2, hzero]
  cases s with
  | false => simp
  | true =>
    cases b with
    | false =>
      simp
      omega
    | true => simp

lemma shows_calib (hn : n < 2 ^ 14) :
    ShowsValue len (showCalib (axiDacDdsFromSignedMagFmt (calibWord s b n)) len)
      (denoted (axiDacDdsFromSignedMagFmt (calibWord s b n)).1 (axiDacDdsFromSignedMagFmt (calibWord s b n)).2) ↔
    textLength (calibWord s b n) < len := by
  obtain ⟨hval, hval2⟩ := decode_calibWord (s := s) (b := b) hn
  have hmicro : microOf n < 10 ^ 6 := microOf_lt hn
  have habs : |(axiDacDdsFromSignedMagFmt (calibWord s b n)).2.toInt| = microOf n := by
    rw [hval2]
    split_ifs
    · rw [abs_neg, Nat.abs_cast]
    · rw [Nat.abs_cast]
  rw [denoted_calibWord hn, showCalib, habs, textLength]
  simp only [sign_first_iff hn, lt_calibWord_iff hn]
  have hunit : Int32.toInt 0 = (0 : ℕ) ∧ Int32.toInt 1 = (1 : ℕ) ∧ Int32.toInt (-1) = -(1 : ℕ) := ⟨rfl, rfl, rfl⟩
  rw [hval]
  cases s with
  | false =>
    cases b with
    | false =>
      have hpoint := @shows_point len _ (0 + (microOf n : ℚ) / 1000000) 0 (by decide) hmicro
      simpa [hunit] using hpoint
    | true =>
      have hpoint := @shows_point len _ (1 + (microOf n : ℚ) / 1000000) 1 (by decide) hmicro
      simpa [hunit] using hpoint
  | true =>
    cases b with
    | false =>
      rcases Nat.eq_zero_or_pos n with rfl | hpos
      · have hpoint := @shows_point len _ 0 0 (by decide) hmicro
        simpa [hunit, microOf] using hpoint
      · have hsign := @shows_sign_first len _ (-(0 + (microOf n : ℚ) / 1000000)) 0 (by decide) hmicro
        simpa [hunit, hpos] using hsign
    | true =>
      have hnegative := @shows_negative len _ (-(1 + (microOf n : ℚ) / 1000000)) 1 (by decide) (by decide) hmicro
      simpa [hunit] using hnegative

/-- The text of a phase, with its sign left out, is right only if there is none. -/
lemma shows_calibphase (hn : n < 2 ^ 14) :
    ShowsValue len (showCalibphase (axiDacDdsFromSignedMagFmt (calibWord s b n)) len)
      (denoted (axiDacDdsFromSignedMagFmt (calibWord s b n)).1 (axiDacDdsFromSignedMagFmt (calibWord s b n)).2) ↔
    textLength (calibWord s b n) < len ∧ (calibWord s b n ≤ 0x8000 ∨ 0xC000 ≤ calibWord s b n) := by
  have hlt := @lt_calibWord_iff n s b hn
  have hsign := @sign_first_iff n s b hn
  have hone : 0xC000 ≤ calibWord s b n ↔ s = true ∧ b = true := by
    have hbound : (0xC000 : UInt32).toNat = 3 * 2 ^ 14 := rfl
    rw [UInt32.le_iff_toNat_le, toNat_calibWord hn, hbound]
    cases s <;> cases b <;> simp <;> lia
  by_cases hfirst : s = true ∧ b = false ∧ 0 < n
  · obtain ⟨rfl, rfl, hpos⟩ := hfirst
    rw [showCalibphase, if_pos (hsign.mpr ⟨rfl, rfl, hpos⟩)]
    apply iff_of_false
    · rintro ⟨text, hholds, -⟩
      exact Bytes.not_holds_shifted (by omega) hholds
    · rintro ⟨-, hle | hge⟩
      · exact UInt32.not_lt.mpr hle (hlt.mpr ⟨rfl, Or.inr hpos⟩)
      · exact Bool.false_ne_true (hone.mp hge).2
  · have hcalib := @shows_calib len n s b hn
    rw [showCalib, if_neg (mt hsign.mp hfirst)] at hcalib
    rw [showCalibphase, if_neg (mt hsign.mp hfirst), hcalib, iff_self_and]
    rintro -
    rw [← UInt32.not_lt, hlt, hone]
    cases s with
    | false => simp
    | true =>
      cases b with
      | false => simpa using hfirst
      | true => simp

/-- The millionths of a scale of 14 bits behind the point -/
def millionths (x : ℕ) : ℕ := x * 1000000 / 16384

lemma millionths_lt {x : ℕ} (hx : x < 2 ^ 15) : millionths x < 2000000 := by
  unfold millionths
  lia

lemma millionths_eq_zero_iff {x : ℕ} : millionths x = 0 ↔ x = 0 := by
  unfold millionths
  lia

lemma millionths_eq_unit_iff {x : ℕ} : millionths x = 1000000 ↔ x = 2 ^ 14 := by
  unfold millionths
  lia

lemma toNat_toDdsScale (reg : UInt32) : (AXI_DAC_TO_DDS_SCALE reg).toNat < 2 ^ 16 := by
  have hmask : (0xFFFF : UInt32).toNat = 2 ^ 16 - 1 := rfl
  rw [AXI_DAC_TO_DDS_SCALE, UInt32.toNat_and, hmask, Nat.and_two_pow_sub_one_eq_mod]
  exact Nat.mod_lt _ (by decide)

lemma scale_sign {w : UInt32} (hw : w.toNat < 2 ^ 16) : w &&& 0x8000 ≠ 0 ↔ 2 ^ 15 ≤ w.toNat := by
  rw [show (0x8000 : UInt32) = UInt32.ofNat (2 ^ 15) from rfl, and_bit_ne_zero 15 (by decide),
    Nat.testBit_eq_decide_div_mod_eq, decide_eq_true_iff]
  lia

lemma scale_magnitude {w : UInt32} (hw : w.toNat < 2 ^ 16) : (w &&& ~~~0x8000).toNat = w.toNat % 2 ^ 15 := by
  have hmask : (w &&& ~~~0x8000).toNat = w.toNat &&& 0xFFFF7FFF := UInt32.toNat_and ..
  have hlow : w.toNat &&& 0xFFFF = w.toNat := by
    rw [show 0xFFFF = 2 ^ 16 - 1 from rfl, Nat.and_two_pow_sub_one_of_lt_two_pow hw]
  rw [hmask, ← hlow, Nat.and_assoc, show 0xFFFF &&& 0xFFFF7FFF = 2 ^ 15 - 1 from rfl, Nat.and_two_pow_sub_one_eq_mod,
    hlow]

lemma ddsScale_toInt (reg : UInt32) : (ddsScale reg).toInt =
    if 2 ^ 15 ≤ (AXI_DAC_TO_DDS_SCALE reg).toNat then -(millionths ((AXI_DAC_TO_DDS_SCALE reg).toNat % 2 ^ 15) : ℤ)
    else millionths ((AXI_DAC_TO_DDS_SCALE reg).toNat % 2 ^ 15) := by
  have hw := toNat_toDdsScale reg
  unfold ddsScale
  generalize AXI_DAC_TO_DDS_SCALE reg = w at hw ⊢
  have hlt := @millionths_lt (w.toNat % 2 ^ 15) (Nat.mod_lt _ (by decide))
  have hword : ((w &&& ~~~0x8000).toUInt64 * 1000000 / 0x4000).toNat = millionths (w.toNat % 2 ^ 15) := by
    have hmul : ((w &&& ~~~0x8000).toUInt64 * 1000000).toNat = w.toNat % 2 ^ 15 * 1000000 := by
      rw [Word.toNat_mul64 (by rw [UInt32.toNat_toUInt64, scale_magnitude hw]; change _ * 1000000 < _; lia),
        UInt32.toNat_toUInt64, scale_magnitude hw]
      rfl
    rw [UInt64.toNat_div, hmul]
    rfl
  have hint : ((w &&& ~~~0x8000).toUInt64 * 1000000 / 0x4000).toUInt32.toInt32.toInt = millionths (w.toNat % 2 ^ 15) := by
    apply Word.toInt32_toInt_of_emod (by lia) (by lia)
    rw [UInt64.toNat_toUInt32, hword]
    lia
  dsimp only
  rw [Int32.toInt_mul, hint]
  simp only [scale_sign hw]
  split_ifs with hsign
  · change ((millionths (w.toNat % 2 ^ 15) : ℤ) * -1).bmod (2 ^ 32) = _
    rw [Int.bmod_eq_of_le (by lia) (by lia)]
    lia
  · change ((millionths (w.toNat % 2 ^ 15) : ℤ) * 1).bmod (2 ^ 32) = _
    rw [Int.bmod_eq_of_le (by lia) (by lia)]
    lia

lemma axiDacDdsGetScale_eq (dac : AxiDac) (chan : UInt32) :
    (axiDacDdsGetScale dac chan).1 = ddsScale (dac.regs (AXI_DAC_REG_DDS_SCALE chan)) := by
  have hne : AXI_DAC_REG_DDS_SCALE chan ≠ AXI_DAC_REG_SYNC_CONTROL := by
    intro h
    have hnat := congrArg UInt32.toNat h
    simp only [AXI_DAC_REG_DDS_SCALE, AXI_DAC_REG_SYNC_CONTROL, UInt32.toNat_add, UInt32.toNat_mul] at hnat
    have h1 : UInt32.toNat 0x400 = 0x400 := rfl
    have h2 : UInt32.toNat 0x40 = 0x40 := rfl
    have h3 : UInt32.toNat 0x8 = 0x8 := rfl
    have h4 : UInt32.toNat 0x44 = 0x44 := rfl
    rw [h1, h2, h3, h4] at hnat
    lia
  change ddsScale (Function.update dac.regs AXI_DAC_REG_SYNC_CONTROL 0 (AXI_DAC_REG_DDS_SCALE chan)) = _
  rw [Function.update_of_ne hne]

section Scale

variable {scale : Int32} {k : ℕ}

lemma showScale_eq : showScale scale len = ((pointText (scale.toInt.tdiv 1000000) (scale.toInt.tmod 1000000)).length,
    Bytes.unwritten.snprintf 0 len (pointText (scale.toInt.tdiv 1000000) (scale.toInt.tmod 1000000))) := by
  have hdiv : (scale / 1000000).toInt = scale.toInt.tdiv 1000000 := Int32.toInt_div_of_ne_right scale _ (by decide)
  have hmod : (scale % 1000000).toInt = scale.toInt.tmod 1000000 := Int32.toInt_mod scale 1000000
  rw [showScale, hdiv, hmod]

lemma shows_scale_of_nonneg (hk : k < 2000000) (hscale : scale.toInt = k) :
    ShowsValue len (showScale scale len) (scale.toInt / 1000000) ↔ 8 < len := by
  have hsplit : (k : ℚ) = 1000000 * (k / 1000000 : ℕ) + (k % 1000000 : ℕ) := by
    exact_mod_cast (Nat.div_add_mod k 1000000).symm
  rw [showScale_eq, hscale]
  refine (@shows_point len (k % 1000000) _ (k / 1000000) (by lia) (by lia)).trans (and_iff_left ?_)
  rw [Int.cast_natCast, hsplit]
  ring_nf

lemma shows_scale_of_neg (hk : k < 2000000) (hscale : scale.toInt = -(k : ℤ)) :
    ShowsValue len (showScale scale len) (scale.toInt / 1000000) ↔
      (k = 0 ∧ 8 < len) ∨ (k = 1000000 ∧ 9 < len) := by
  by_cases hwhole : k % 1000000 = 0
  · obtain rfl | rfl : k = 0 ∨ k = 1000000 := by lia
    · rw [shows_scale_of_nonneg (k := 0) (by decide) hscale]
      simp
    · rw [showScale_eq, hscale]
      have hnegative := @shows_negative len 0 (((-1000000 : ℤ) : ℚ) / 1000000) 1 (by decide) (by decide) (by decide)
      refine Iff.trans hnegative ?_
      norm_num
  · rw [showScale_eq, hscale]
    have hparts : (-(k : ℤ)).tdiv 1000000 = -(k / 1000000 : ℕ) ∧ (-(k : ℤ)).tmod 1000000 = -(k % 1000000 : ℕ) := by
      constructor
      · rw [Int.neg_tdiv]
        rfl
      · rw [Int.neg_tmod]
        rfl
    obtain ⟨hplain, hsigned⟩ := @decimalValue_second_sign (k % 1000000) (Nat.pos_of_ne_zero hwhole) (k / 1000000)
    rw [hparts.1, hparts.2, shows_snprintf (pointText_ne_nil _ _)]
    apply iff_of_false
    · rintro ⟨-, hvalue⟩
      rcases Nat.eq_zero_or_pos (k / 1000000) with hzero | hpos
      · rw [hzero] at hvalue hplain
        exact nomatch hplain.symm.trans hvalue
      · rw [pointText_neg hpos, hsigned] at hvalue
        exact nomatch hvalue
    · lia

end Scale

/-- The text of a tone scale is right if and only if it fits and the scale is not negative or -1. -/
lemma shows_ddsScale (reg : UInt32) : ShowsValue len (showScale (ddsScale reg) len) ((ddsScale reg).toInt / 1000000) ↔
    textLength (AXI_DAC_TO_DDS_SCALE reg) < len ∧
      (AXI_DAC_TO_DDS_SCALE reg ≤ 0x8000 ∨ AXI_DAC_TO_DDS_SCALE reg = 0xC000) := by
  have hscale := ddsScale_toInt reg
  have hw := toNat_toDdsScale reg
  generalize AXI_DAC_TO_DDS_SCALE reg = w at hscale hw ⊢
  have hlow : w.toNat % 2 ^ 15 < 2 ^ 15 := Nat.mod_lt _ (by decide)
  have hlt := millionths_lt hlow
  have hhalf : (0x8000 : UInt32).toNat = 2 ^ 15 := rfl
  have hone : (0xC000 : UInt32).toNat = 3 * 2 ^ 14 := rfl
  simp only [textLength, UInt32.lt_iff_toNat_lt, UInt32.le_iff_toNat_le, ← UInt32.toNat_inj, hhalf, hone]
  split_ifs at hscale with hsign
  · rw [shows_scale_of_neg hlt hscale, millionths_eq_zero_iff, millionths_eq_unit_iff]
    split_ifs <;> lia
  · rw [shows_scale_of_nonneg hlt hscale]
    split_ifs <;> lia

end CalibText

inductive CalibAttr
  | adcCalibphase
  | adcCalibscale
  | dacCalibphase
  | dacCalibscale
  | dacScale
deriving DecidableEq, Repr

namespace CalibAttr

variable (regs : UInt32 → UInt32) (dac : AxiDac) (chNum : Int16)

/-- The coefficient or the scale in the register of an attribute -/
def word : CalibAttr → UInt32
  | adcCalibphase => iqcorCoeff 1 (chanOf chNum) (regs (AXI_ADC_REG_CHAN_CNTRL_2 (chanOf chNum)))
  | adcCalibscale => iqcorCoeff 0 (chanOf chNum) (regs (AXI_ADC_REG_CHAN_CNTRL_2 (chanOf chNum)))
  | dacCalibphase => iqcorCoeff 1 (chanOf chNum) (dac.regs (AXI_DAC_REG_CHAN_CNTRL_8 (chanOf chNum)))
  | dacCalibscale => iqcorCoeff 0 (chanOf chNum) (dac.regs (AXI_DAC_REG_CHAN_CNTRL_8 (chanOf chNum)))
  | dacScale => AXI_DAC_TO_DDS_SCALE (dac.regs (AXI_DAC_REG_DDS_SCALE (chanOf chNum)))

/-- The number that the driver decodes -/
def value : CalibAttr → ℚ
  | adcCalibphase => denoted (axiAdcGetCalibPhase regs (chanOf chNum)).1 (axiAdcGetCalibPhase regs (chanOf chNum)).2
  | adcCalibscale => denoted (axiAdcGetCalibScale regs (chanOf chNum)).1 (axiAdcGetCalibScale regs (chanOf chNum)).2
  | dacCalibphase => denoted (axiDacDdsGetCalibPhase dac (chanOf chNum)).1 (axiDacDdsGetCalibPhase dac (chanOf chNum)).2
  | dacCalibscale => denoted (axiDacDdsGetCalibScale dac (chanOf chNum)).1 (axiDacDdsGetCalibScale dac (chanOf chNum)).2
  | dacScale => (axiDacDdsGetScale dac (chanOf chNum)).1.toInt / 1000000

/-- What the function of an attribute returns and prints -/
def text (len : ℕ) : CalibAttr → ℕ × Bytes
  | adcCalibphase => getCalibphase regs chNum len
  | adcCalibscale => getCalibscale regs chNum len
  | dacCalibphase => getVoltageCalibphase dac chNum len
  | dacCalibscale => getVoltageCalibscale dac chNum len
  | dacScale => getAltvoltageScale dac chNum len

/-- The words whose sign is printed once and in front -/
def SignPrinted (w : UInt32) : CalibAttr → Prop
  | dacCalibphase => w ≤ 0x8000 ∨ 0xC000 ≤ w
  | dacScale => w ≤ 0x8000 ∨ w = 0xC000
  | _ => True

end CalibAttr

open CalibText in
/-- An attribute is shown as the number that is decoded if and only if its text fits and its sign is printed. -/
theorem calibAttr_showsValue_iff (a : CalibAttr) (regs : UInt32 → UInt32) (dac : AxiDac) (chNum : Int16) (len : ℕ) :
    ShowsValue len (a.text regs dac chNum len) (a.value regs dac chNum) ↔
      textLength (a.word regs dac chNum) < len ∧ a.SignPrinted (a.word regs dac chNum) := by
  have hcalib (phase reg) := @exists_calibWord _ (iqcorCoeff_lt phase (chanOf chNum) reg)
  cases a with
  | adcCalibphase =>
    obtain ⟨s, b, n, hn, hword⟩ := hcalib 1 (regs (AXI_ADC_REG_CHAN_CNTRL_2 (chanOf chNum)))
    have hshows := @shows_calib len n s b hn
    rw [← hword] at hshows
    exact hshows.trans (and_iff_left trivial).symm
  | adcCalibscale =>
    obtain ⟨s, b, n, hn, hword⟩ := hcalib 0 (regs (AXI_ADC_REG_CHAN_CNTRL_2 (chanOf chNum)))
    have hshows := @shows_calib len n s b hn
    rw [← hword] at hshows
    exact hshows.trans (and_iff_left trivial).symm
  | dacCalibphase =>
    obtain ⟨s, b, n, hn, hword⟩ := hcalib 1 (dac.regs (AXI_DAC_REG_CHAN_CNTRL_8 (chanOf chNum)))
    have hshows := @shows_calibphase len n s b hn
    rw [← hword] at hshows
    exact hshows
  | dacCalibscale =>
    obtain ⟨s, b, n, hn, hword⟩ := hcalib 0 (dac.regs (AXI_DAC_REG_CHAN_CNTRL_8 (chanOf chNum)))
    have hshows := @shows_calib len n s b hn
    rw [← hword] at hshows
    exact hshows.trans (and_iff_left trivial).symm
  | dacScale =>
    rw [CalibAttr.text, CalibAttr.value, getAltvoltageScale, axiDacDdsGetScale_eq]
    exact shows_ddsScale _

/-- The phase -0.5 of a DAC leaves the byte for its sign as it was. -/
theorem not_calibAttr_showsValue :
    ¬∀ (a : CalibAttr) (regs : UInt32 → UInt32) (dac : AxiDac) (chNum : Int16) (len : ℕ),
      ShowsValue len (a.text regs dac chNum len) (a.value regs dac chNum) := by
  intro h
  obtain ⟨text, hholds, -⟩ := h .dacCalibphase (fun _ => 0) ⟨2, fun _ => 0xA000, []⟩ 0 20
  exact Bytes.not_holds_shifted (by decide) hholds

end NoOS
