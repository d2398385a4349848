import Mathlib.Data.Nat.Prime.Basic
import NoOS.Drivers.Adf4371
import NoOS.Drivers.Adf5355
import NoOS.Lib.PackedWord

/-!
# The rates of the fractional-N synthesizers

A rate that an ADF5355 accepts is read back, except where the quotient of the VCO and the phase detector needs 33
bits: it is stored in a `uint32_t`. The fields of its registers hold the dividers if the integer fits into 16 bits and
the second modulus into its field; the greatest modulus, `2 ^ 14`, has one bit more than that. The ADF4371 has the same
dividers, but the call that is to write them stores two bytes beyond its buffer.
-/

namespace NoOS
open Arith PackedWord

/-- Four channels, with a phase detector at `fpfd`. -/
def adf4371At (fpfd : UInt32) : Adf4371Dev :=
  { integer := 0, fract1 := 0, fract2 := 0, mod2 := 0, numChannels := 4, icp := 1750, refDivFactor := 1,
    fpfd := fpfd, rfDivSel := 0 }

/-- An ADF5355 after its initialisation, with a phase detector at `fpfd`. -/
def adf5355At (fpfd : UInt32) : Adf5355Dev :=
  { integer := 0, fract1 := 0, fract2 := 0, mod2 := 0, devId := .ADF5355, allSynced := false,
    regs := fun _ => 0, freqReq := 0, numChannels := 2, maxOutFreq := ADF5355_MAX_OUT_FREQ,
    minOutFreq := ADF5355_MIN_OUT_FREQ, minVcoFreq := ADF5355_MIN_VCO_FREQ, fpfd := fpfd, cpUa := 900,
    cpNegBleedEn := true, cpGatedBleedEn := false, cpBleedCurrentPolarityEn := false, muteTillLockEn := true,
    outaEn := true, outbEn := true, outaPower := 3, outbPower := 3, rfDivSel := 0 }

/-- The dividers that fields of registers stand for -/
structure DividerFields where
  integer : ℕ
  fract1 : ℕ
  fract2 : ℕ
  mod2 : ℕ

/-- The fields are the dividers, the integer is the whole quotient of the VCO and the phase detector, and none
of the numbers is too large. -/
structure FractN.Held (s : FractN) (fields : DividerFields) (modulus1 width quotient : ℕ) : Prop where
  fields_eq : fields = ⟨s.integer.toNat, s.fract1.toNat, s.fract2.toNat, s.mod2.toNat⟩
  integer_eq : s.integer.toNat = quotient
  integer_lt : s.integer.toNat < 2 ^ 16
  fract1_lt : s.fract1.toNat < modulus1
  fract2_lt : s.fract2.toNat < s.mod2.toNat
  fract2_fits : s.fract2.toNat < 2 ^ width
  mod2_fits : s.mod2.toNat < 2 ^ width

/-- What is left of the fraction `f` of `p` is below what is left of `p`, and has a factor 2 with a modulus of
`2 ^ 14`. -/
def SecondFits (p f : ℕ) : Prop :=
  CoarseFraction.coarse (2 ^ 14) p f < CoarseFraction.coarse (2 ^ 14) p p ∧
    (CoarseFraction.coarse (2 ^ 14) p p = 2 ^ 14 → 2 ∣ CoarseFraction.coarse (2 ^ 14) p f)

instance (p f : ℕ) : Decidable (SecondFits p f) := inferInstanceAs (Decidable (_ ∧ (_ → _)))

section Held

variable {s : FractN} {modulus1 maxModulus2 width p vco : ℕ}

/-- The fields with as many bits of the dividers as they have room for. -/
def FractN.cutOff (s : FractN) (modulus1 width : ℕ) : DividerFields :=
  ⟨s.integer.toNat % 2 ^ 16, s.fract1.toNat % modulus1, s.fract2.toNat % 2 ^ width, s.mod2.toNat % 2 ^ width⟩

lemma held_cutOff_iff (h : s.Computes modulus1 maxModulus2 p vco) (hp : 0 < p) (hmodulus : 0 < modulus1) :
    s.Held (s.cutOff modulus1 width) modulus1 width (vco / p) ↔
      vco / p < 2 ^ 16 ∧ s.fract2.toNat < s.mod2.toNat ∧ s.mod2.toNat < 2 ^ width := by
  constructor
  · intro held
    have hlt := held.integer_lt
    rw [held.integer_eq] at hlt
    exact ⟨hlt, held.fract2_lt, held.mod2_fits⟩
  · rintro ⟨hinteger, hfract2, hmod2⟩
    have hquotient : s.integer.toNat = vco / p := by
      rw [h.integer, Nat.mod_eq_of_lt (by lia)]
    have hfract1 : s.fract1.toNat < modulus1 := by
      rw [h.fract1, Nat.div_lt_iff_lt_mul hp, Nat.mul_comm modulus1]
      exact Nat.mul_lt_mul_of_pos_right (Nat.mod_lt vco hp) hmodulus
    have hlt : s.integer.toNat < 2 ^ 16 := by rwa [hquotient]
    refine ⟨?_, hquotient, hlt, hfract1, hfract2, hfract2.trans hmod2, hmod2⟩
    rw [FractN.cutOff, Nat.mod_eq_of_lt hlt, Nat.mod_eq_of_lt hfract1, Nat.mod_eq_of_lt (hfract2.trans hmod2),
      Nat.mod_eq_of_lt hmod2]

lemma FractN.Computes.fract2_lt_iff (h : s.Computes modulus1 maxModulus2 p vco)
    (hpos : 0 < CoarseFraction.coarse maxModulus2 p p) : s.fract2.toNat < s.mod2.toNat ↔
      CoarseFraction.coarse maxModulus2 p (vco % p * modulus1 % p) < CoarseFraction.coarse maxModulus2 p p := by
  rw [h.fract2, h.mod2]
  generalize CoarseFraction.coarse maxModulus2 p (vco % p * modulus1 % p) = n
  have hgcd := Nat.gcd_pos_of_pos_right n hpos
  rw [Nat.div_lt_iff_lt_mul hgcd, Nat.div_mul_cancel (Nat.gcd_dvd_right _ _)]

/-- With at most `2 ^ 14` the modulus is too large only if nothing is left to reduce. -/
lemma FractN.Computes.secondFits_iff (h : s.Computes modulus1 (2 ^ 14) p vco)
    (hpos : 0 < CoarseFraction.coarse (2 ^ 14) p p) :
    s.fract2.toNat < s.mod2.toNat ∧ s.mod2.toNat < 2 ^ 14 ↔ SecondFits p (vco % p * modulus1 % p) := by
  rw [h.fract2_lt_iff hpos, h.mod2, SecondFits]
  have hle := @CoarseFraction.coarse_le (2 ^ 14) p
  generalize CoarseFraction.coarse (2 ^ 14) p (vco % p * modulus1 % p) = n
  generalize CoarseFraction.coarse (2 ^ 14) p p = m at hle hpos
  refine and_congr_right fun _ => ⟨?_, ?_⟩
  · rintro hlt rfl
    by_contra hodd
    have hcoprime : Nat.gcd n (2 ^ 14) = 1 :=
      Nat.Coprime.pow_right 14 (Nat.coprime_two_right.mpr (Nat.not_even_iff_odd.mp (by rwa [even_iff_two_dvd])))
    rw [hcoprime, Nat.div_one] at hlt
    exact Nat.lt_irrefl _ hlt
  · intro heven
    rcases Nat.lt_or_eq_of_le hle with hlt | rfl
    · exact (Nat.div_le_self _ _).trans_lt hlt
    · have hdvd : 2 ∣ Nat.gcd n (2 ^ 14) := Nat.dvd_gcd (heven rfl) (by decide)
      have htwo := Nat.le_of_dvd (Nat.gcd_pos_of_pos_right n hpos) hdvd
      exact Nat.div_lt_self hpos htwo

lemma FractN.Computes.second_lt (h : s.Computes modulus1 (2 ^ 28) p vco) (hp : 0 < p) (hlt : p < 2 ^ 28) :
    s.fract2.toNat < s.mod2.toNat ∧ s.mod2.toNat < 2 ^ 28 := by
  have hcoarse : ∀ x, CoarseFraction.coarse (2 ^ 28) p x = x := by
    intro x
    rw [CoarseFraction.coarse, CoarseFraction.lost_eq_zero hlt.le, Nat.pow_zero, Nat.div_one]
  constructor
  · rw [h.fract2_lt_iff (by rwa [hcoarse]), hcoarse, hcoarse]
    exact Nat.mod_lt _ hp
  · rw [h.mod2, hcoarse p]
    exact (Nat.div_le_self _ _).trans_lt hlt

end Held

/-- The registers after the writes, of which each goes on to the next address with every byte. -/
def adf4371Regs (old : ℕ → UInt8) (ws : List Adf4371Write) : ℕ → UInt8 :=
  ws.foldl (fun regs w a => if w.1 ≤ a ∧ a < w.1 + w.2.length then w.2.getD (a - w.1) 0 else regs a) old

def adf4371Fields (regs : ℕ → UInt8) : DividerFields where
  integer := (regs 0x10).toNat + 2 ^ 8 * (regs 0x11).toNat
  fract1 := (regs 0x14).toNat + 2 ^ 8 * (regs 0x15).toNat + 2 ^ 16 * (regs 0x16).toNat +
    2 ^ 24 * ((regs 0x17).toNat % 2)
  fract2 := (regs 0x17).toNat / 2 + 2 ^ 7 * ((regs 0x18).toNat % 2 ^ 7)
  mod2 := (regs 0x19).toNat + 2 ^ 8 * ((regs 0x1A).toNat % 2 ^ 6)

/-- The call succeeds and its writes leave the dividers in the registers, whatever these were. -/
def Adf4371Programs (run : Arith (Option (Int × Adf4371Dev × List Adf4371Write))) (quotient : ℕ) : Prop :=
  ∃ ret dev' ws, run.value = some (some (ret, dev', ws)) ∧ 0 ≤ ret ∧
    ∀ old, dev'.toFractN.Held (adf4371Fields (adf4371Regs old ws)) ADF4371_MODULUS1.toNat 14 quotient

/-- The bytes that are made for the registers 0x11 to 0x1A and 0x10 hold the dividers. -/
def Adf4371Dev.BytesHold (dev : Adf4371Dev) (quotient : ℕ) : Prop :=
  ∀ old, dev.toFractN.Held (adf4371Fields (adf4371Regs old [(0x11, dev.buf), (0x10, [dev.integer.toUInt8])]))
    ADF4371_MODULUS1.toNat 14 quotient

section Adf4371

variable {dev dev' : Adf4371Dev} {rets : Fin 6 → Int} {readVal : UInt8}

lemma toNat_toUInt8_div (x : UInt32) (k : ℕ) (hk : k < 32) :
    (x >>> UInt32.ofNat k).toUInt8.toNat = x.toNat / 2 ^ k % 2 ^ 8 := by
  rw [UInt32.toNat_toUInt8, UInt32.toNat_shiftRight, toNat_ofNat_mod hk, Nat.shiftRight_eq_div_pow]

lemma toNat_fieldPrep_low {mask : UInt32} (width : ℕ) (hfirst : findFirstSetBit mask = 0)
    (hmask : mask.toNat = 2 ^ width - 1) (x : UInt32) : (fieldPrep mask x).toNat = x.toNat % 2 ^ width := by
  rw [fieldPrep, hfirst, UInt32.shiftLeft_zero, UInt32.toNat_and, hmask, Nat.and_two_pow_sub_one_eq_mod]

lemma toNat_FRAC1WORD (x : UInt32) : (ADF4371_FRAC1WORD x).toNat = x.toNat % 2 := by
  rw [ADF4371_FRAC1WORD, UInt32.toNat_toUInt8, toNat_fieldPrep_low 1 (by decide) (by decide)]
  lia

lemma toNat_FRAC2WORD_H (x : UInt32) : (ADF4371_FRAC2WORD_H x).toNat = x.toNat % 2 ^ 7 := by
  rw [ADF4371_FRAC2WORD_H, UInt32.toNat_toUInt8, toNat_fieldPrep_low 7 (by decide) (by decide)]
  lia

lemma toNat_MOD2WORD (x : UInt32) : (ADF4371_MOD2WORD x).toNat = x.toNat % 2 ^ 6 := by
  rw [ADF4371_MOD2WORD, UInt32.toNat_toUInt8, toNat_fieldPrep_low 6 (by decide) (by decide)]
  lia

lemma toNat_FRAC2WORD_L (x : UInt32) : (ADF4371_FRAC2WORD_L (x &&& 0x7F)).toNat = (x.toNat % 2 ^ 7) <<< 1 := by
  have hfirst : findFirstSetBit 0xFE = 1 := by decide
  have hlow : (x &&& 0x7F).toNat = x.toNat % 2 ^ 7 := by
    rw [UInt32.toNat_and]
    exact Nat.and_two_pow_sub_one_eq_mod x.toNat 7
  have hlt := Nat.mod_lt x.toNat (Nat.two_pow_pos 7)
  have hshift : ((x &&& 0x7F) <<< 1).toNat = (x.toNat % 2 ^ 7) <<< 1 := by
    rw [UInt32.toNat_shiftLeft, hlow]
    change (x.toNat % 2 ^ 7) <<< 1 % 2 ^ 32 = _
    rw [Nat.shiftLeft_eq, Nat.mod_eq_of_lt (by lia)]
  have hmask : (x.toNat % 2 ^ 7) <<< 1 &&& 0xFE = (x.toNat % 2 ^ 7) <<< 1 := by
    change (x.toNat % 2 ^ 7) <<< 1 &&& (2 ^ 7 - 1) <<< 1 = _
    rw [← Nat.shiftLeft_and_distrib, Nat.and_two_pow_sub_one_eq_mod, Nat.mod_mod]
  rw [ADF4371_FRAC2WORD_L, fieldPrep, hfirst, UInt32.toNat_toUInt8, UInt32.toNat_and, hshift]
  change ((x.toNat % 2 ^ 7) <<< 1 &&& 0xFE) % 2 ^ 8 = _
  rw [hmask, Nat.shiftLeft_eq, Nat.mod_eq_of_lt (by lia)]

lemma toNat_reg17 (fract1 fract2 : UInt32) :
    (ADF4371_FRAC2WORD_L (fract2 &&& 0x7F) ||| ADF4371_FRAC1WORD (fract1 >>> 24)).toNat =
      fract2.toNat % 2 ^ 7 * 2 + fract1.toNat / 2 ^ 24 % 2 := by
  have hbit : (fract1 >>> 24).toNat = fract1.toNat / 2 ^ 24 := by
    rw [UInt32.toNat_shiftRight]
    exact Nat.shiftRight_eq_div_pow fract1.toNat 24
  rw [UInt8.toNat_or, toNat_FRAC2WORD_L, toNat_FRAC1WORD, hbit,
    ← Nat.shiftLeft_add_eq_or_of_lt (by lia : fract1.toNat / 2 ^ 24 % 2 < 2 ^ 1), Nat.shiftLeft_eq]

/-- The divisor of the bleed current does not vanish, although it may wrap. -/
lemma mul_375_ne_zero {x : UInt32} (h : x ≠ 0) : x * 375 ≠ 0 := by
  intro hzero
  have hmod : x.toNat * 375 % 2 ^ 32 = 0 := congrArg UInt32.toNat hzero
  have hdvd : 2 ^ 32 ∣ x.toNat :=
    Nat.Coprime.dvd_of_dvd_mul_right (by decide : Nat.Coprime (2 ^ 32) 375) (Nat.dvd_of_mod_eq_zero hmod)
  exact h (UInt32.toNat_inj.mp (Nat.eq_zero_of_dvd_of_lt hdvd x.toNat_lt))

lemma adf4371Fields_eq (old : ℕ → UInt8) :
    adf4371Fields (adf4371Regs old [(0x11, dev.buf), (0x10, [dev.integer.toUInt8])]) =
      dev.toFractN.cutOff ADF4371_MODULUS1.toNat 14 := by
  have hbyte : ∀ x : UInt32, x.toUInt8.toNat = x.toNat % 2 ^ 8 := fun x => UInt32.toNat_toUInt8 x
  have hinteger := toNat_toUInt8_div dev.integer 8 (by decide)
  have hmid := toNat_toUInt8_div dev.fract1 8 (by decide)
  have hhigh := toNat_toUInt8_div dev.fract1 16 (by decide)
  have hboth := toNat_reg17 dev.fract1 dev.fract2
  have hfract2 : (ADF4371_FRAC2WORD_H (dev.fract2 >>> 7)).toNat = dev.fract2.toNat / 2 ^ 7 % 2 ^ 7 := by
    rw [toNat_FRAC2WORD_H, UInt32.toNat_shiftRight]
    exact congrArg (· % 2 ^ 7) (Nat.shiftRight_eq_div_pow dev.fract2.toNat 7)
  have hmod2 : (ADF4371_MOD2WORD (dev.mod2 >>> 8)).toNat = dev.mod2.toNat / 2 ^ 8 % 2 ^ 6 := by
    rw [toNat_MOD2WORD, UInt32.toNat_shiftRight]
    exact congrArg (· % 2 ^ 6) (Nat.shiftRight_eq_div_pow dev.mod2.toNat 8)
  have hmodulus : ADF4371_MODULUS1.toNat = 2 ^ 25 := rfl
  rw [FractN.cutOff, hmodulus, DividerFields.mk.injEq]
  refine ⟨?_, ?_, ?_, ?_⟩
  · change dev.integer.toUInt8.toNat + 2 ^ 8 * (dev.integer >>> 8).toUInt8.toNat = _
    rw [hbyte]
    change (dev.integer >>> 8).toUInt8.toNat = _ at hinteger
    lia
  · change dev.fract1.toUInt8.toNat + 2 ^ 8 * (dev.fract1 >>> 8).toUInt8.toNat +
      2 ^ 16 * (dev.fract1 >>> 16).toUInt8.toNat +
      2 ^ 24 * ((ADF4371_FRAC2WORD_L (dev.fract2 &&& 0x7F) ||| ADF4371_FRAC1WORD (dev.fract1 >>> 24)).toNat % 2) = _
    rw [hbyte, hboth]
    change (dev.fract1 >>> 8).toUInt8.toNat = _ at hmid
    change (dev.fract1 >>> 16).toUInt8.toNat = _ at hhigh
    lia
  · change (ADF4371_FRAC2WORD_L (dev.fract2 &&& 0x7F) ||| ADF4371_FRAC1WORD (dev.fract1 >>> 24)).toNat / 2 +
      2 ^ 7 * ((ADF4371_FRAC2WORD_H (dev.fract2 >>> 7)).toNat % 2 ^ 7) = _
    rw [hboth, hfract2]
    lia
  · change dev.mod2.toUInt8.toNat + 2 ^ 8 * ((ADF4371_MOD2WORD (dev.mod2 >>> 8)).toNat % 2 ^ 6) = _
    rw [hbyte, hmod2]
    lia

lemma Adf4371Dev.bytesHold_iff {quotient : ℕ} : dev.BytesHold quotient ↔
    dev.toFractN.Held (dev.toFractN.cutOff ADF4371_MODULUS1.toNat 14) ADF4371_MODULUS1.toNat 14 quotient := by
  unfold Adf4371Dev.BytesHold
  constructor
  · intro h
    have hzero := h fun _ => 0
    rwa [adf4371Fields_eq] at hzero
  · intro h old
    rwa [adf4371Fields_eq]

/-- The bytes hold the dividers if these fit their fields, but their write is beyond the buffer. -/
lemma adf4371_bytesHold_iff (hp : 1 ≤ dev.fpfd) (hmax : dev.fpfd ≤ ADF4371_MAX_FREQ_PFD) {rate : UInt64} {chan : UInt32}
    {v : ℕ} (hv : v = vcoOf ADF4371_MIN_VCO_FREQ.toNat (rate.toNat / adf4371Step chan))
    (htune : (adf4371Tune dev rate chan).value = some (some dev')) :
    ¬Adf4371Programs (adf4371SetFreq rets readVal dev rate chan) (v / dev.fpfd.toNat) ∧
      (dev'.BytesHold (v / dev.fpfd.toNat) ↔ v / dev.fpfd.toNat < 2 ^ 16 ∧
        SecondFits dev.fpfd.toNat (v % dev.fpfd.toNat * ADF4371_MODULUS1.toNat % dev.fpfd.toNat)) := by
  constructor
  · rintro ⟨ret, dev'', ws, hvalue, -⟩
    cases (adf4371SetFreq_overruns htune).symm.trans hvalue
  · rw [UInt32.le_iff_toNat_le] at hp hmax
    unfold adf4371Tune at htune
    split at htune
    · cases htune
    · rename_i vco sel hvco
      have heq := (adf4371Vco_spec hvco).1.vco_eq
      rw [← hv] at heq
      obtain ⟨s, hs, hcomputes⟩ := @gives_compute ADF4371_MODULUS1 vco ADF4371_MAX_MODULUS2 dev.fpfd hp hmax
        (by decide) (by decide)
      obtain ⟨-, hpos⟩ := two_pow_lost_le hp (by decide : 2 ^ 14 ≤ 2 ^ 14) hmax
      obtain ⟨hvalue, -⟩ := @hs.rest (f := fun s =>
        (pure (some { dev with rfDivSel := sel, toFractN := s }) : Arith (Option Adf4371Dev)))
      obtain rfl := Option.some.inj (Option.some.inj (hvalue.symm.trans htune))
      rw [heq] at hcomputes
      rw [← hcomputes.secondFits_iff hpos, ← held_cutOff_iff hcomputes hp (by decide)]
      exact Adf4371Dev.bytesHold_iff

end Adf4371

/-- The registers after the writes -/
def adf5355Regs (old : Fin 14 → UInt32) (ws : List Adf5355Write) : Fin 14 → UInt32 :=
  ws.foldl (fun regs w => Function.update regs w.1 w.2) old

/-- The bits of a field of the second fraction or its modulus -/
def adf5355Width (devId : Adf5355DeviceId) : ℕ := if devId = .ADF5356 then 28 else 14

local instance neZeroFieldRegs : NeZero 14 := ⟨by decide⟩

/-- Only the ADF5356 has upper bits of the second fraction and its modulus, in register 13. -/
def adf5355Fields (devId : Adf5355DeviceId) (regs : Fin 14 → UInt32) : DividerFields where
  integer := (unpack 4 16 (regs 0)).toNat
  fract1 := (unpack 4 24 (regs 1)).toNat
  fract2 := (unpack 18 14 (regs 2)).toNat + if devId = .ADF5356 then 2 ^ 14 * (unpack 18 14 (regs 13)).toNat else 0
  mod2 := (unpack 4 14 (regs 2)).toNat + if devId = .ADF5356 then 2 ^ 14 * (unpack 4 14 (regs 13)).toNat else 0

/-- The call succeeds and its writes leave the dividers in the registers, whatever these were. -/
def Adf5355Programs (devId : Adf5355DeviceId) (run : Arith (Int × Adf5355Dev × List Adf5355Write))
    (quotient : ℕ) : Prop :=
  ∃ dev' ws, run.value = some (SUCCESS, dev', ws) ∧ ∀ old, dev'.toFractN.Held
    (adf5355Fields devId (adf5355Regs old ws)) ADF5355_MODULUS1.toNat (adf5355Width devId) quotient

section Adf5355

variable {dev dev' : Adf5355Dev} {rets : ℕ → Int}

lemma adf5355Regs_eq {old : Fin 14 → UInt32} {ws : List Adf5355Write} {i : Fin 14} {x : UInt32} (hmem : (i, x) ∈ ws)
    (h : ∀ w ∈ ws, w.1 = i → w.2 = x) : adf5355Regs old ws i = x := by
  induction ws using List.reverseRecOn with
  | nil => exact absurd hmem List.not_mem_nil
  | append_singleton ws w ih =>
    rw [adf5355Regs, List.foldl_append, List.foldl_cons, List.foldl_nil]
    by_cases hw : i = w.1
    · rw [hw, Function.update_self]
      exact h w (List.mem_append_right ws (List.mem_singleton_self w)) hw.symm
    · rw [Function.update_of_ne hw]
      refine ih ?_ fun v hv => h v (List.mem_append_left _ hv)
      rcases List.mem_append.mp hmem with hold | hlast
      · exact hold
      · obtain rfl := List.mem_singleton.mp hlast
        exact absurd rfl hw

/-- The registers before the last one, register 0, which starts the new frequency -/
def Adf5355Dev.configRegs (dev : Adf5355Dev) (syncAll : Bool) : List (Fin 14 × UInt32) :=
  if syncAll || !dev.allSynced then
    ((if dev.devId = .ADF5356 then [13] else []) ++ [12, 11, 10, 9, 8, 7, 6, 5, 4, 3, 2, 1] : List (Fin 14)).map
      fun i => (i, dev.regs i)
  else (if dev.devId = .ADF5356 then [(13, dev.regs 13)] else []) ++
    [(10, dev.regs 10), (6, dev.regs 6), (4, dev.regs 4 ||| ADF5355_REG4_COUNTER_RESET_EN 1),
      (2, dev.regs 2), (1, dev.regs 1), (0, dev.regs 0 &&& ~~~ADF5355_REG0_AUTOCAL 1), (4, dev.regs 4)]

/-- Only the registers 0 and 4 are written with other values than their own. -/
lemma configRegs_own (syncAll : Bool) : ∀ w ∈ dev.configRegs syncAll, w.1 = 0 ∨ w.1 = 4 ∨ w.2 = dev.regs w.1 := by
  intro w hw
  unfold Adf5355Dev.configRegs at hw
  split_ifs at hw with hfull hdev hdev
  · obtain ⟨i, -, rfl⟩ := List.mem_map.mp hw
    exact Or.inr (Or.inr rfl)
  · obtain ⟨i, -, rfl⟩ := List.mem_map.mp hw
    exact Or.inr (Or.inr rfl)
  all_goals
    simp only [List.cons_append, List.nil_append, List.mem_cons, List.not_mem_nil, or_false] at hw
    rcases hw with rfl | rfl | rfl | rfl | rfl | rfl | rfl | rfl <;> simp

lemma mem_configRegs (syncAll : Bool) : (1, dev.regs 1) ∈ dev.configRegs syncAll ∧
    (2, dev.regs 2) ∈ dev.configRegs syncAll ∧
    (dev.devId = .ADF5356 → (13, dev.regs 13) ∈ dev.configRegs syncAll) := by
  unfold Adf5355Dev.configRegs
  split_ifs <;> simp_all

/-- Either way of configuring ends with the registers of the dividers as they are wanted. -/
lemma adf5355RegConfig_ok (hrets : ∀ k, rets k = SUCCESS) (syncAll : Bool) (old : Fin 14 → UInt32) :
    (adf5355RegConfig rets dev syncAll).1 = SUCCESS ∧
      (∀ i, i = 0 ∨ i = 1 ∨ i = 2 ∨ i = 13 ∧ dev.devId = .ADF5356 →
        adf5355Regs old (adf5355RegConfig rets dev syncAll).2.2 i = dev.regs i ||| UInt32.ofNat i.val) := by
  have hsend : (sendUntil (· ≠ SUCCESS) ((dev.configRegs syncAll).mapIdx fun k w =>
      adf5355Write (rets k) w.1 w.2)).1 = SUCCESS ∧
      (sendUntil (· ≠ SUCCESS) ((dev.configRegs syncAll).mapIdx fun k w => adf5355Write (rets k) w.1 w.2)).2 =
        (dev.configRegs syncAll).map fun w => (w.1, w.2 ||| UInt32.ofNat w.1.val) := by
    obtain ⟨hret, hsent⟩ := @sendUntil_ok _ (· ≠ SUCCESS)
      ((dev.configRegs syncAll).mapIdx fun k w => adf5355Write (rets k) w.1 w.2) (by decide) (by
        intro w hw
        obtain ⟨k, hk, rfl⟩ := List.mem_mapIdx.mp hw
        exact decide_eq_false (not_not.mpr (hrets k)))
    refine ⟨not_not.mp (of_decide_eq_false hret), hsent.trans ?_⟩
    apply List.ext_getElem
    · rw [List.length_map, List.length_map, List.length_mapIdx]
    · intro k h₁ h₂
      rw [List.getElem_map, List.getElem_map, List.getElem_mapIdx]
      rfl
  have hconfig : adf5355RegConfig rets dev syncAll = (rets (dev.configRegs syncAll).length,
      (if syncAll || !dev.allSynced then { dev with allSynced := true } else dev),
      ((dev.configRegs syncAll).map fun w => (w.1, w.2 ||| UInt32.ofNat w.1.val)) ++
        [(0, (if syncAll || !dev.allSynced then { dev with allSynced := true } else dev).regs 0 ||| 0)]) := by
    rw [← hsend.2]
    exact if_neg (not_not.mpr hsend.1)
  have hregs0 : (if syncAll || !dev.allSynced then { dev with allSynced := true } else dev).regs 0 = dev.regs 0 := by
    split_ifs <;> rfl
  rw [hconfig, hregs0]
  refine ⟨hrets _, ?_⟩
  intro i hi
  dsimp only
  rcases hi with rfl | hi
  · rw [adf5355Regs, List.foldl_append, List.foldl_cons, List.foldl_nil, Function.update_self]
    rfl
  · obtain ⟨hone, htwo, hthirteen⟩ := @mem_configRegs dev syncAll
    have hmem : (i, dev.regs i) ∈ dev.configRegs syncAll ∧ i ≠ 0 ∧ i ≠ 4 := by
      rcases hi with rfl | rfl | ⟨rfl, hdev⟩
      · exact ⟨hone, by decide, by decide⟩
      · exact ⟨htwo, by decide, by decide⟩
      · exact ⟨hthirteen hdev, by decide, by decide⟩
    obtain ⟨hmem, hzero, hfour⟩ := hmem
    apply adf5355Regs_eq
    · exact List.mem_append_left _ (List.mem_map.mpr ⟨_, hmem, rfl⟩)
    · intro w hw hwi
      rcases List.mem_append.mp hw with hmap | hlast
      · obtain ⟨v, hv, rfl⟩ := List.mem_map.mp hmap
        dsimp only at hwi ⊢
        subst hwi
        rcases configRegs_own syncAll v hv with h0 | h4 | hown
        · exact absurd h0 hzero
        · exact absurd h4 hfour
        · rw [hown]
      · obtain rfl := List.mem_singleton.mp hlast
        exact absurd hwi.symm hzero

lemma toNat_reg0 (cpBleed : UInt32) :
    (unpack 4 16 (dev.freqRegs cpBleed 0 ||| 0)).toNat = dev.integer.toNat % 2 ^ 16 := by
  obtain ⟨prescaler, hprescaler⟩ : ∃ b, b = decide (dev.integer ≥ ADF5355_MIN_INT_PRESCALER_89) := ⟨_, rfl⟩
  have hpack : dev.freqRegs cpBleed 0 ||| 0 = pack [⟨4, 16, dev.integer &&& UInt32.ofNat (2 ^ 16 - 1)⟩,
      ⟨20, 1, prescaler.toUInt32⟩, ⟨21, 1, 1⟩] := by
    rw [hprescaler, pack, pack, pack, pack, ← UInt32.or_assoc, ← UInt32.or_assoc]
    rfl
  rw [hpack]
  refine toNat_unpack_pack ?_ (by simp [Apart]) (by decide) (List.mem_cons_self ..)
  simp only [List.forall_mem_cons, List.not_mem_nil, false_implies, implies_true, and_true]
  refine ⟨fits_masked _ (by decide) (by decide) (by decide), ⟨?_, (by decide : 1 < 32),
    (by decide : 20 + 1 ≤ 32), (by decide : 20 < 32)⟩, by decide, by decide, by decide, by decide⟩
  cases prescaler <;> decide

lemma toNat_reg1 (cpBleed : UInt32) :
    (unpack 4 24 (dev.freqRegs cpBleed 1 ||| 1)).toNat = dev.fract1.toNat % 2 ^ 24 := by
  have hpack : dev.freqRegs cpBleed 1 ||| 1 = pack [⟨4, 24, dev.fract1 &&& UInt32.ofNat (2 ^ 24 - 1)⟩, ⟨0, 4, 1⟩] := rfl
  rw [hpack]
  refine toNat_unpack_pack ?_ (by simp [Apart]) (by decide) (List.mem_cons_self ..)
  simp only [List.forall_mem_cons, List.not_mem_nil, false_implies, implies_true, and_true]
  exact ⟨fits_masked _ (by decide) (by decide) (by decide), by decide, by decide, by decide, by decide⟩

lemma toNat_twoFields (mod2 fract2 reg : UInt32) (hreg : reg.toNat < 2 ^ 4) :
    (unpack 4 14 ((mod2 &&& 0x3FFF) <<< 4 ||| (fract2 &&& 0x3FFF) <<< 18 ||| reg)).toNat = mod2.toNat % 2 ^ 14 ∧
      (unpack 18 14 ((mod2 &&& 0x3FFF) <<< 4 ||| (fract2 &&& 0x3FFF) <<< 18 ||| reg)).toNat =
        fract2.toNat % 2 ^ 14 := by
  have hpack : (mod2 &&& 0x3FFF) <<< 4 ||| (fract2 &&& 0x3FFF) <<< 18 ||| reg =
      pack [⟨4, 14, mod2 &&& UInt32.ofNat (2 ^ 14 - 1)⟩, ⟨18, 14, fract2 &&& UInt32.ofNat (2 ^ 14 - 1)⟩,
        ⟨0, 4, reg⟩] := by
    have hzero : reg <<< UInt32.ofNat 0 ||| 0 = reg := by
      rw [UInt32.or_zero]
      exact UInt32.shiftLeft_zero
    rw [pack, pack, pack, pack, hzero, ← UInt32.or_assoc]
    rfl
  have hfits : ∀ f ∈ [(⟨4, 14, mod2 &&& UInt32.ofNat (2 ^ 14 - 1)⟩ : Slot),
      ⟨18, 14, fract2 &&& UInt32.ofNat (2 ^ 14 - 1)⟩, ⟨0, 4, reg⟩], f.Fits := by
    simp only [List.forall_mem_cons, List.not_mem_nil, false_implies, implies_true, and_true]
    exact ⟨fits_masked _ (by decide) (by decide) (by decide), fits_masked _ (by decide) (by decide) (by decide),
      hreg, (by decide : 4 < 32), (by decide : 0 + 4 ≤ 32), (by decide : 0 < 32)⟩
  rw [hpack]
  constructor
  · exact toNat_unpack_pack hfits (by simp [Apart]) (by decide) (List.mem_cons_self ..)
  · exact toNat_unpack_pack hfits (by simp [Apart]) (by decide) (List.mem_cons_of_mem _ (List.mem_cons_self ..))

lemma adf5355Fields_eq {regs : Fin 14 → UInt32} {cpBleed : UInt32}
    (h : ∀ i, i = 0 ∨ i = 1 ∨ i = 2 ∨ i = 13 ∧ dev.devId = .ADF5356 →
      regs i = dev.freqRegs cpBleed i ||| UInt32.ofNat i.val) :
    adf5355Fields dev.devId regs = dev.toFractN.cutOff ADF5355_MODULUS1.toNat (adf5355Width dev.devId) := by
  obtain ⟨hmod2, hfract2⟩ := toNat_twoFields dev.mod2 dev.fract2 2 (by decide)
  have hreg2 : regs 2 = (dev.mod2 &&& 0x3FFF) <<< 4 ||| (dev.fract2 &&& 0x3FFF) <<< 18 ||| 2 := h 2 (by simp)
  have hmodulus : ADF5355_MODULUS1.toNat = 2 ^ 24 := rfl
  have hzero : UInt32.ofNat (0 : Fin 14).val = 0 := rfl
  have hone : UInt32.ofNat (1 : Fin 14).val = 1 := rfl
  rw [FractN.cutOff, adf5355Fields, hmodulus, h 0 (by simp), h 1 (by simp), hzero, hone, toNat_reg0, toNat_reg1, hreg2,
    hmod2, hfract2, DividerFields.mk.injEq, adf5355Width]
  refine ⟨rfl, rfl, ?_⟩
  by_cases hdev : dev.devId = .ADF5356
  · have hreg13 : regs 13 = (dev.mod2 >>> 14 &&& 0x3FFF) <<< 4 ||| (dev.fract2 >>> 14 &&& 0x3FFF) <<< 18 ||| 13 := by
      rw [h 13 (by simp [hdev]), Adf5355Dev.freqRegs]
      exact congrArg (· ||| 13) (if_pos hdev)
    obtain ⟨hmod2', hfract2'⟩ := toNat_twoFields (dev.mod2 >>> 14) (dev.fract2 >>> 14) 13 (by decide)
    have hupper : ∀ x : UInt32, (x >>> 14).toNat = x.toNat / 2 ^ 14 := by
      intro x
      rw [UInt32.toNat_shiftRight]
      exact Nat.shiftRight_eq_div_pow x.toNat 14
    rw [if_pos hdev, if_pos hdev, if_pos hdev, hreg13, hmod2', hfract2', hupper, hupper]
    lia
  · rw [if_neg hdev, if_neg hdev, if_neg hdev]
    exact ⟨rfl, rfl⟩

lemma adf5355Send_ok (hrets : ∀ k, rets k = SUCCESS) (hint : dev.integer ≠ 0) (vco : UInt64) : ∃ dev' ws,
    (adf5355Send rets dev vco).value = some (SUCCESS, dev', ws) ∧ ∀ old,
      adf5355Fields dev.devId (adf5355Regs old ws) =
        dev.toFractN.cutOff ADF5355_MODULUS1.toNat (adf5355Width dev.devId) := by
  obtain ⟨cpBleed, hbleed⟩ : ∃ cpBleed, dev.cpBleed.value = some cpBleed := by
    unfold Adf5355Dev.cpBleed
    dsimp only
    split
    · exact ⟨_, value_div (by decide)⟩
    · exact ⟨_, value_div (mul_375_ne_zero hint)⟩
  have hconfig := fun old => @adf5355RegConfig_ok
    { dev with regs := dev.freqRegs (clamp cpBleed 1 255), freqReq := vco } rets hrets dev.allSynced old
  have hvalue : (adf5355Send rets dev vco).value = some (adf5355RegConfig rets
      { dev with regs := dev.freqRegs (clamp cpBleed 1 255), freqReq := vco } dev.allSynced) := by
    unfold adf5355Send
    rw [value_bind, hbleed]
    rfl
  have hret := (hconfig fun _ => 0).1
  refine ⟨_, _, hvalue.trans (congrArg some (Prod.ext hret rfl)), fun old => ?_⟩
  exact @adf5355Fields_eq dev _ _ (hconfig old).2

lemma Adf5355Dev.Limited.minVco_ge (h : dev.Limited) : 3300000000 ≤ dev.minVcoFreq.toNat := by
  have hfreqs := h.freqs
  split at hfreqs <;>
  · rw [Prod.mk.injEq, Prod.mk.injEq] at hfreqs
    rw [hfreqs.2.2]
    decide

lemma adf5355Vco_eq (hlim : dev.Limited) {freq vco : UInt64} {chan sel : UInt8}
    (h : adf5355Vco dev freq chan = .ok (vco, sel)) : dev.minVcoFreq.toNat ≤ vco.toNat ∧ vco.toNat < 2 ^ 33 ∧
      vco.toNat = vcoOf dev.minVcoFreq.toNat (freq.toNat / if chan = 0 then 1 else 2) := by
  by_cases hchan : chan = 0
  · subst hchan
    obtain ⟨hspec, -⟩ := @adf5355Vco_spec dev freq vco 0 sel hlim (by decide) h
    exact ⟨hspec.low, hspec.lt, hspec.vco_eq⟩
  · have hsecond : adf5355Vco dev freq 1 = .ok (vco, sel) := by
      rw [← h, adf5355Vco, adf5355Vco, if_neg hchan, hlim.numChannels]
      have hnot : ¬chan > 2 := by
        intro hgt
        rw [adf5355Vco, hlim.numChannels, if_pos hgt] at h
        cases h
      rw [if_neg hnot]
      rfl
    obtain ⟨hspec, -⟩ := @adf5355Vco_spec dev freq vco 1 sel hlim (by decide) hsecond
    rw [if_neg hchan]
    exact ⟨hspec.low, hspec.lt, hspec.vco_eq⟩

lemma adf5355_programs_iff (hlim : dev.Limited) (hp : 1 ≤ dev.fpfd) (hmax : dev.fpfd ≤ ADF5355_MAX_FREQ_PFD)
    (hrets : ∀ k, rets k = SUCCESS) {rate : UInt64} {chan : UInt8} {v : ℕ}
    (hv : v = vcoOf dev.minVcoFreq.toNat (rate.toNat / if chan = 0 then 1 else 2))
    (haccept : (adf5355Vco dev rate chan).isOk) :
    Adf5355Programs dev.devId (adf5355SetFreq rets dev rate chan) (v / dev.fpfd.toNat) ↔
      v / dev.fpfd.toNat < 2 ^ 16 ∧ (dev.devId ≠ .ADF5356 →
        SecondFits dev.fpfd.toNat (v % dev.fpfd.toNat * ADF5355_MODULUS1.toNat % dev.fpfd.toNat)) := by
  obtain ⟨vco, sel, hvco⟩ : ∃ vco sel, adf5355Vco dev rate chan = .ok (vco, sel) := by
    rcases hcases : adf5355Vco dev rate chan with ret | ⟨vco, sel⟩
    · rw [hcases] at haccept
      cases haccept
    · exact ⟨vco, sel, rfl⟩
  obtain ⟨hlow, -, heq⟩ := adf5355Vco_eq hlim hvco
  have hmin := hlim.minVco_ge
  rw [← hv] at heq
  rw [UInt32.le_iff_toNat_le] at hp hmax
  obtain ⟨s, hs, hcomputes⟩ := @gives_compute ADF5355_MODULUS1 vco
    (if dev.devId = .ADF5356 then ADF5356_MAX_MODULUS2 else ADF5355_MAX_MODULUS2) dev.fpfd hp
    (hmax.trans (by decide)) (by split_ifs <;> decide) (by decide)
  obtain ⟨hvalue, -⟩ := @hs.rest (f := fun s =>
    adf5355Send rets { dev with rfDivSel := sel, toFractN := s } vco)
  have hrun : (adf5355SetFreq rets dev rate chan).value =
      (adf5355Send rets { dev with rfDivSel := sel, toFractN := s } vco).value := by
    unfold adf5355SetFreq
    rw [hvco]
    exact hvalue
  rw [heq] at hcomputes hlow
  -- what has to fit besides the integer
  have hsecond : s.fract2.toNat < s.mod2.toNat ∧ s.mod2.toNat < 2 ^ adf5355Width dev.devId ↔
      (dev.devId ≠ .ADF5356 →
        SecondFits dev.fpfd.toNat (v % dev.fpfd.toNat * ADF5355_MODULUS1.toNat % dev.fpfd.toNat)) := by
    rw [adf5355Width]
    by_cases hdev : dev.devId = .ADF5356
    · rw [if_pos hdev] at hcomputes ⊢
      exact iff_of_true (hcomputes.second_lt hp (hmax.trans_lt (by decide))) fun hne => absurd hdev hne
    · rw [if_neg hdev] at hcomputes ⊢
      obtain ⟨-, hpos⟩ := two_pow_lost_le hp (by decide : 2 ^ 14 ≤ 2 ^ 14) (hmax.trans (by decide))
      rw [hcomputes.secondFits_iff hpos, forall_prop_of_true hdev]
  rw [← hsecond, ← held_cutOff_iff hcomputes hp (by decide)]
  have hsend : s.integer.toNat = v / dev.fpfd.toNat → ∃ dev' ws,
      (adf5355SetFreq rets dev rate chan).value = some (SUCCESS, dev', ws) ∧ dev'.toFractN = s ∧
        ∀ old, adf5355Fields dev.devId (adf5355Regs old ws) =
          s.cutOff ADF5355_MODULUS1.toNat (adf5355Width dev.devId) := by
    intro hquotient
    have hint : s.integer ≠ 0 := by
      change _ ≤ 75000000 at hmax
      exact Word.ne_zero_of_pos (by rw [hquotient]; exact Nat.div_pos (by lia) hp)
    obtain ⟨dev', ws, hsent, hfields⟩ :=
      @adf5355Send_ok { dev with rfDivSel := sel, toFractN := s } rets hrets hint vco
    exact ⟨dev', ws, hrun.trans hsent, (adf5355Send_same hsent).toFractN, hfields⟩
  constructor
  · rintro ⟨dev', ws, hset, hheld⟩
    have hdev : dev'.toFractN = s := (adf5355Send_same (hrun.symm.trans hset)).toFractN
    rw [hdev] at hheld
    obtain ⟨dev'', ws', hset', -, hfields⟩ := hsend (hheld fun _ => 0).integer_eq
    obtain ⟨-, hsame⟩ := Prod.mk.inj (Option.some.inj (hset.symm.trans hset'))
    rw [← hfields (fun _ => 0), ← (Prod.mk.inj hsame).2]
    exact hheld _
  · intro hheld
    obtain ⟨dev', ws, hset, hdev, hfields⟩ := hsend hheld.integer_eq
    refine ⟨dev', ws, hset, fun old => ?_⟩
    rw [hdev, hfields]
    exact hheld

end Adf5355

/-- The call returns, and the channel reads its rate back. -/
def Adf4371RoundTrip (run : Arith (Option (Int × Adf4371Dev × List Adf4371Write))) (chan : UInt32) (rate : UInt64) :
    Prop :=
  ∃ ret dev' ws, run.value = some (some (ret, dev', ws)) ∧
    ReadsBack run (adf4371ClkRecalcRate dev' chan) rate.toNat (adf4371Step chan)

/-- No call of the ADF4371 for a rate in range returns; the dividers that it has stored make the rate if and only if
the phase detector runs above 1 Hz or the VCO below `2 ^ 32` Hz. Under this condition each channel of an ADF5355
reads its rate back, as the greatest multiple of its multiplier up to the rate. -/
theorem clk_rate_reads_back_iff (chan : UInt32) (rate : UInt64) :
    (∀ (dev dev' : Adf4371Dev) (rets : Fin 6 → Int) (readVal : UInt8), 1 ≤ dev.fpfd →
      dev.fpfd ≤ ADF4371_MAX_FREQ_PFD → chan < dev.numChannels →
      (adf4371Tune dev rate chan).value = some (some dev') →
      (adf4371ClkSetRate rets readVal dev chan rate).value = some none ∧
      ¬Adf4371RoundTrip (adf4371ClkSetRate rets readVal dev chan rate) chan rate ∧
      (ReadsBack (adf4371Tune dev rate chan) (adf4371ClkRecalcRate dev' chan) rate.toNat (adf4371Step chan) ↔
        ¬(dev.fpfd = 1 ∧ VcoWide ADF4371_MIN_VCO_FREQ.toNat (rate.toNat / adf4371Step chan)))) ∧
    (∀ (dev : Adf5355Dev) (rets : ℕ → Int) (ret : Int) (dev' : Adf5355Dev) (ws : List Adf5355Write),
      dev.Limited → 1 ≤ dev.fpfd → dev.fpfd ≤ ADF5355_MAX_FREQ_PFD →
      (adf5355ClkSetRate rets dev chan rate).value = some (ret, dev', ws) → 0 ≤ ret →
      (ReadsBack (adf5355ClkSetRate rets dev chan rate) (adf5355ClkRecalcRate dev' chan) rate.toNat
        (adf5355Step chan) ↔
        ¬(dev.fpfd = 1 ∧ VcoWide dev.minVcoFreq.toNat (rate.toNat / adf5355Step chan)))) := by
  constructor
  · intro dev dev' rets readVal hp hmax hchan htune
    have hrun : (adf4371ClkSetRate rets readVal dev chan rate).value = some none := by
      rw [adf4371ClkSetRate, if_neg (UInt32.not_le.mpr hchan)]
      exact adf4371SetFreq_overruns htune
    refine ⟨hrun, ?_, adf4371_readsBack_iff hp hmax hchan htune⟩
    rintro ⟨ret, dev'', ws, hvalue, -⟩
    cases hrun.symm.trans hvalue
  · intro dev rets ret dev' ws hlim hp hmax hset hret
    exact adf5355_readsBack_iff hlim hp hmax hset hret

/-- 2.4001 GHz from 100 MHz, and twice 4.0001 GHz from 50 MHz -/
theorem clk_rate_reads_back_at :
    (∃ dev', (adf4371Tune (adf4371At 100000000) 2400100000 0).value = some (some dev') ∧
      (adf4371ClkSetRate (fun _ => 0) 0 (adf4371At 100000000) 0 2400100000).value = some none ∧
      ReadsBack (adf4371Tune (adf4371At 100000000) 2400100000 0) (adf4371ClkRecalcRate dev' 0) 2400100000 1) ∧
    ∃ dev' ws, (adf5355ClkSetRate (fun _ => 0) (adf5355At 50000000) 1 8000200000).value = some (0, dev', ws) ∧
    ReadsBack (adf5355ClkSetRate (fun _ => 0) (adf5355At 50000000) 1 8000200000)
      (adf5355ClkRecalcRate dev' 1) 8000200000 2 := by
  constructor
  · obtain ⟨dev', htune⟩ := @exists_adf4371Tune (adf4371At 100000000) 2400100000 0 (by decide) (by decide) (by decide)
    obtain ⟨hrun, -, hiff⟩ := (clk_rate_reads_back_iff 0 2400100000).1 (adf4371At 100000000) dev' (fun _ => 0) 0 (by decide)
      (by decide) (by decide) htune
    exact ⟨dev', htune, hrun, hiff.mpr fun h => absurd h.1 (by decide)⟩
  · obtain ⟨dev', ws, hset, -⟩ := (@adf5355_programs_iff (adf5355At 50000000) (fun _ => 0) ⟨rfl, rfl⟩ (by decide) (by decide)
      (fun _ => rfl) 8000200000 1 4000100000 (by decide) (by decide)).mpr (by decide)
    exact ⟨dev', ws, hset, ((clk_rate_reads_back_iff 1 8000200000).2 (adf5355At 50000000) (fun _ => 0) 0 dev' ws ⟨rfl, rfl⟩
      (by decide) (by decide) hset (by decide)).mpr fun h => absurd h.1 (by decide)⟩

/-- The ADF4371 writes beyond its buffer. With the phase detector of an ADF5355 at 1 Hz, bit 32 of the quotient for
5 GHz is lost. -/
theorem clk_rate_not_read_back : (adf4371Vco (adf4371At 100000000) 2400100000 0).isSome ∧
    ¬Adf4371RoundTrip (adf4371ClkSetRate (fun _ => 0) 0 (adf4371At 100000000) 0 2400100000) 0 2400100000 ∧
    ∃ dev' ws, (adf5355ClkSetRate (fun _ => 0) (adf5355At 1) 0 5000000000).value = some (SUCCESS, dev', ws) ∧
    ¬ReadsBack (adf5355ClkSetRate (fun _ => 0) (adf5355At 1) 0 5000000000)
      (adf5355ClkRecalcRate dev' 0) 5000000000 1 := by
  refine ⟨by decide, ?_, _, _, rfl, ?_⟩
  · rintro ⟨ret, dev'', ws, hvalue, -⟩
    obtain ⟨dev', htune⟩ := @exists_adf4371Tune (adf4371At 100000000) 2400100000 0 (by decide) (by decide) (by decide)
    cases (adf4371SetFreq_overruns htune).symm.trans hvalue
  · intro hback
    refine (adf5355_readsBack_iff ⟨rfl, rfl⟩ (by decide) (by decide) rfl (by decide)).mp hback
      ⟨rfl, 0, by decide, ?_, Or.inl rfl⟩
    decide

/-- The registers of an accepted rate hold its dividers if and only if the integer fits into 16 bits and, unless the
device is an ADF5356, the second fraction and its modulus of at most `2 ^ 14` fit into 14 bits. For an ADF4371 this is
so of the bytes that are made for its registers, but they are stored beyond a buffer. -/
theorem set_freq_fields_iff (rate : UInt64) (v p : ℕ) :
    (∀ (dev dev' : Adf4371Dev) (rets : Fin 6 → Int) (readVal : UInt8) (chan : UInt32),
      p = dev.fpfd.toNat → v = vcoOf ADF4371_MIN_VCO_FREQ.toNat (rate.toNat / adf4371Step chan) →
      1 ≤ dev.fpfd → dev.fpfd ≤ ADF4371_MAX_FREQ_PFD → (adf4371Tune dev rate chan).value = some (some dev') →
      ¬Adf4371Programs (adf4371SetFreq rets readVal dev rate chan) (v / p) ∧
      (dev'.BytesHold (v / p) ↔ v / p < 2 ^ 16 ∧ SecondFits p (v % p * ADF4371_MODULUS1.toNat % p))) ∧
    (∀ (dev : Adf5355Dev) (rets : ℕ → Int) (chan : UInt8),
      p = dev.fpfd.toNat → v = vcoOf dev.minVcoFreq.toNat (rate.toNat / if chan = 0 then 1 else 2) →
      dev.Limited → 1 ≤ dev.fpfd → dev.fpfd ≤ ADF5355_MAX_FREQ_PFD → (∀ k, rets k = SUCCESS) →
      (adf5355Vco dev rate chan).isOk →
      (Adf5355Programs dev.devId (adf5355SetFreq rets dev rate chan) (v / p) ↔
        v / p < 2 ^ 16 ∧ (dev.devId ≠ .ADF5356 → SecondFits p (v % p * ADF5355_MODULUS1.toNat % p)))) := by
  constructor
  · rintro dev dev' rets readVal chan rfl hv hp hmax htune
    exact adf4371_bytesHold_iff hp hmax hv htune
  · rintro dev rets chan rfl hv hlim hp hmax hrets haccept
    exact adf5355_programs_iff hlim hp hmax hrets hv haccept

/-- 2.4001 GHz from 100 MHz, and twice 4.0001 GHz from 50 MHz -/
theorem set_freq_fields_at :
    (∃ dev', (adf4371Tune (adf4371At 100000000) 2400100000 0).value = some (some dev') ∧
      ¬Adf4371Programs (adf4371SetFreq (fun _ => 0) 0 (adf4371At 100000000) 2400100000 0) 48 ∧ dev'.BytesHold 48) ∧
    Adf5355Programs .ADF5355 (adf5355SetFreq (fun _ => 0) (adf5355At 50000000) 8000200000 1) 80 := by
  constructor
  · obtain ⟨dev', htune⟩ := @exists_adf4371Tune (adf4371At 100000000) 2400100000 0 (by decide) (by decide) (by decide)
    obtain ⟨hnot, hiff⟩ := (set_freq_fields_iff 2400100000 4800200000 100000000).1 (adf4371At 100000000) dev' (fun _ => 0) 0
      0 rfl (by decide) (by decide) (by decide) htune
    exact ⟨dev', htune, hnot, hiff.mpr (by decide)⟩
  · exact ((set_freq_fields_iff 8000200000 4000100000 50000000).2 (adf5355At 50000000) (fun _ => 0) 1 rfl (by decide)
      ⟨rfl, rfl⟩ (by decide) (by decide) (fun _ => rfl) (by decide)).mpr (by decide)

/-- No accepted rate of an ADF4371 is programmed. From 67.111864 MHz an ADF5355 makes 5 GHz with a modulus of `2 ^ 14`, of
which the field keeps nothing. -/
theorem not_set_freq_fields : (adf4371Vco (adf4371At 100000000) 2400100000 0).isSome ∧
    ¬Adf4371Programs (adf4371SetFreq (fun _ => 0) 0 (adf4371At 100000000) 2400100000 0) (4800200000 / 100000000) ∧
    (adf5355Vco (adf5355At 67111864) 5000000000 0).isOk ∧
    ¬Adf5355Programs .ADF5355 (adf5355SetFreq (fun _ => 0) (adf5355At 67111864) 5000000000 0) (5000000000 / 67111864) := by
  refine ⟨by decide, ?_, by decide, ?_⟩
  · obtain ⟨dev', htune⟩ := @exists_adf4371Tune (adf4371At 100000000) 2400100000 0 (by decide) (by decide) (by decide)
    exact (@adf4371_bytesHold_iff (adf4371At 100000000) dev' (fun _ => 0) 0 (by decide) (by decide) 2400100000 0 4800200000
      (by decide) htune).1
  · have hiff := @adf5355_programs_iff (adf5355At 67111864) (fun _ => 0) ⟨rfl, rfl⟩ (by decide) (by decide)
      (fun _ => rfl) 5000000000 0 5000000000 (by decide) (by decide)
    exact fun hprograms => absurd (hiff.mp hprograms) (by decide)

end NoOS
