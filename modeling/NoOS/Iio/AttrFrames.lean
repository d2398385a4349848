import Mathlib.Data.UInt
import Mathlib.Tactic.Common
import Mathlib.Tactic.IntervalCases
import NoOS.Lib.Word

/-!
# All attributes at once

Translation of `iio_read_all_attr` and `iio_write_all_attr` in `iio/iio.c`, and of the macro
`bswap_constant_32`. The target has 32-bit addresses and stores words with the low byte
first. Positions in the buffer are `int16_t` values.
-/

namespace NoOS

/-- Conversion to `int16_t`. -/
def int16 (z : ℤ) : ℤ := (z + 2 ^ 15) % 2 ^ 16 - 2 ^ 15

def bswapConstant32 (x : UInt32) : UInt32 :=
  ((x &&& 0xff000000) >>> 24) ||| ((x &&& 0x00ff0000) >>> 8) |||
    ((x &&& 0x0000ff00) <<< 8) ||| ((x &&& 0x000000ff) <<< 24)

/-- What `show` does: it leaves a string in `local_buf` and returns its length, or returns an
error. -/
inductive Shown
  | value (text : List UInt8) (nul_notMem : 0 ∉ text)
  | error (code : Int32) (neg : code < 0)

/-- The result of `show`, as it is stored in the length word. -/
def Shown.attrLength : Shown → UInt32
  | .value text _ => UInt32.ofNat text.length
  | .error code _ => code.toUInt32

/-- The bytes of a word in memory. -/
def wordBytes (w : UInt32) : List UInt8 :=
  [w.toUInt8, (w >>> 8).toUInt8, (w >>> 16).toUInt8, (w >>> 24).toUInt8]

/-- Memory from `params->buf` on, with `bytes` at the position `pos`. -/
def writeBytes (mem : ℕ → UInt8) (pos : ℕ) (bytes : List UInt8) : ℕ → UInt8 :=
  fun k => if pos ≤ k then bytes.getD (k - pos) (mem k) else mem k

/-- The next multiple of 4, as the code computes it. -/
def align4 (z : ℤ) : ℤ := if z % 4 ≠ 0 then (z / 4 + 1) * 4 else z

/-- Memory and `j` after the attributes; no result for an access before the buffer or beyond
the 256 bytes of `local_buf`. -/
def iioReadAllAttr (mem : ℕ → UInt8) (j : ℤ) : List Shown → Option ((ℕ → UInt8) × ℤ)
  | [] => some (mem, j)
  | shown :: rest =>
    if j < 0 then none
    else
      let mem := writeBytes mem j.toNat (wordBytes (bswapConstant32 shown.attrLength))
      let j := int16 (j + 4)
      match shown with
      | .error _ _ => iioReadAllAttr mem j rest
      | .value text _ =>
        if j < 0 ∨ 256 ≤ text.length then none
        else iioReadAllAttr (writeBytes mem j.toNat (text ++ [0]))
          (int16 (j + align4 text.length)) rest

/-- The arguments `buf + off` and `len` of a call of `store`. -/
structure StoreCall where
  off : ℤ
  len : ℤ
deriving DecidableEq

/-- The calls of `store` for `n` attributes; `addr` is the address `params->buf`. The bytes of
the buffer are not read. -/
def iioWriteAllAttr (addr : UInt32) (j : ℤ) : ℕ → List StoreCall
  | 0 => []
  | n + 1 =>
    let attrLength := int16 (bswapConstant32 (addr + UInt32.ofInt j)).toNat
    let j := int16 (j + 4)
    ⟨j, attrLength⟩ :: iioWriteAllAttr addr (int16 (align4 (int16 (j + attrLength)))) n

/-- `store` is called with the bytes of `text`, within the first `total` bytes. -/
structure StoreCall.Gives (c : StoreCall) (mem : ℕ → UInt8) (total : ℤ) (text : List UInt8) :
    Prop where
  len : c.len = text.length
  first : 0 ≤ c.off
  last : c.off + c.len ≤ total
  bytes : ∀ k (h : k < text.length), mem (c.off.toNat + k) = text[k]

/-- Every attribute is stored as it was shown. -/
def RoundTrips (mem : ℕ → UInt8) (addr : UInt32) (j : ℤ) (shown : List Shown) : Prop :=
  ∃ out total, iioReadAllAttr mem j shown = some (out, total) ∧ 0 ≤ total ∧
    List.Forall₂ (fun s c => ∃ text h, s = .value text h ∧ c.Gives out total text) shown
      (iioWriteAllAttr addr j shown.length)

/-- All values are shown, the string stays below 2^15 bytes, and the upper half of the address
of each length word is 256 times the length of the value. -/
def Addressed (addr : UInt32) (p : ℕ) : List Shown → Prop
  | [] => p < 2 ^ 15
  | .error _ _ :: _ => False
  | .value text _ :: rest =>
    text.length < 256 ∧ (addr + UInt32.ofNat p).toNat / 2 ^ 16 = 256 * text.length ∧
      Addressed addr (p + 4 + (text.length + 3) / 4 * 4) rest

lemma bswapConstant32_low (x : UInt32) : (bswapConstant32 x).toBitVec.extractLsb' 0 (8 + 8) =
    x.toBitVec.extractLsb' 16 8 ++ x.toBitVec.extractLsb' 24 8 := by
  apply BitVec.eq_of_getLsbD_eq
  intro i hi
  rw [BitVec.getLsbD_append, bswapConstant32]
  interval_cases i <;> simp

/-- The low half of a swapped word is the upper half with its bytes swapped. -/
lemma toNat_bswapConstant32 (x : UInt32) :
    (bswapConstant32 x).toNat % 2 ^ 16 = x.toNat / 2 ^ 16 % 256 * 256 + x.toNat / 2 ^ 24 := by
  have hlow := congrArg BitVec.toNat (bswapConstant32_low x)
  have hx := x.toNat_lt
  have hbyte : x.toNat / 2 ^ 24 < 2 ^ 8 := by lia
  rw [BitVec.toNat_append, BitVec.extractLsb'_toNat, BitVec.extractLsb'_toNat,
    BitVec.extractLsb'_toNat, Nat.shiftRight_eq_div_pow, Nat.shiftRight_eq_div_pow,
    Nat.shiftRight_eq_div_pow, UInt32.toNat_toBitVec, UInt32.toNat_toBitVec,
    Nat.mod_eq_of_lt hbyte, ← Nat.shiftLeft_add_eq_or_of_lt hbyte, Nat.shiftLeft_eq] at hlow
  simpa using hlow

lemma int16_of_lt {n : ℕ} (h : n < 2 ^ 15) : int16 n = n := by
  unfold int16
  lia

lemma int16_eq_iff {m n : ℕ} (h : n < 2 ^ 15) : int16 m = n ↔ m % 2 ^ 16 = n := by
  unfold int16
  lia

lemma int16_bswap_iff {x : UInt32} {n : ℕ} (h : n < 256) :
    int16 (bswapConstant32 x).toNat = n ↔ x.toNat / 2 ^ 16 = 256 * n := by
  have hhigh : x.toNat / 2 ^ 24 = x.toNat / 2 ^ 16 / 256 := by
    rw [Nat.div_div_eq_div_mul]
    norm_num
  rw [int16_eq_iff (by lia), toNat_bswapConstant32, hhigh]
  generalize x.toNat / 2 ^ 16 = y
  lia

lemma align4_natCast (n : ℕ) : align4 n = ((n + 3) / 4 * 4 : ℕ) := by
  unfold align4
  split_ifs
  · lia
  · lia

lemma writeBytes_of_lt {mem : ℕ → UInt8} {pos k : ℕ} {bytes : List UInt8} (h : k < pos) :
    writeBytes mem pos bytes k = mem k := if_neg (by omega)

lemma writeBytes_getElem {mem : ℕ → UInt8} {pos k : ℕ} {bytes : List UInt8}
    (h : k < bytes.length) : writeBytes mem pos bytes (pos + k) = bytes[k] := by
  simp [writeBytes, h]

variable {shown rest : List Shown} {mem out : ℕ → UInt8} {j total : ℤ}

lemma nonneg_of_iioReadAllAttr (h : iioReadAllAttr mem j shown = some (out, total))
    (htotal : 0 ≤ total) : 0 ≤ j := by
  cases shown with
  | nil =>
    obtain ⟨-, rfl⟩ := by simpa [iioReadAllAttr] using h
    exact htotal
  | cons s rest =>
    by_contra hj
    rw [iioReadAllAttr, if_pos (by omega)] at h
    cases h

lemma int16_of_nonneg {z : ℤ} (h : 0 ≤ int16 z) (hz : 0 ≤ z) (hlt : z < 2 ^ 16) :
    int16 z = z ∧ z < 2 ^ 15 := by
  unfold int16 at h ⊢
  lia

lemma iioReadAllAttr_cons {s : Shown}
    (h : iioReadAllAttr mem j (s :: rest) = some (out, total)) (hj : j < 2 ^ 15)
    (htotal : 0 ≤ total) :
    let word := writeBytes mem j.toNat (wordBytes (bswapConstant32 s.attrLength))
    0 ≤ j ∧ match s with
      | .error _ _ => iioReadAllAttr word (j + 4) rest = some (out, total) ∧ j + 4 < 2 ^ 15
      | .value text _ => text.length < 256 ∧ j + 4 + align4 text.length < 2 ^ 15 ∧
        iioReadAllAttr (writeBytes word (j + 4).toNat (text ++ [0])) (j + 4 + align4 text.length)
          rest = some (out, total) := by
  have hnonneg := nonneg_of_iioReadAllAttr h htotal
  rw [iioReadAllAttr, if_neg (by lia)] at h
  refine ⟨hnonneg, ?_⟩
  cases s with
  | error code neg =>
    obtain ⟨hint, hlt⟩ := int16_of_nonneg (nonneg_of_iioReadAllAttr h htotal) (by lia) (by omega)
    simp only [hint] at h
    exact ⟨h, hlt⟩
  | value text nul =>
    simp only at h
    split_ifs at h with hbad
    obtain ⟨hint, hlt⟩ := int16_of_nonneg (z := j + 4) (by omega) (by lia) (by omega)
    have halign := align4_natCast text.length
    simp only [hint] at h hbad
    obtain ⟨hint', hlt'⟩ := int16_of_nonneg (nonneg_of_iioReadAllAttr h htotal) (by lia) (by lia)
    simp only [hint'] at h
    exact ⟨by lia, hlt', h⟩

lemma iioReadAllAttr_frame (h : iioReadAllAttr mem j shown = some (out, total)) (hj : j < 2 ^ 15)
    (htotal : 0 ≤ total) : j ≤ total ∧ ∀ k : ℕ, k < j → out k = mem k := by
  induction shown generalizing mem j with
  | nil =>
    obtain ⟨rfl, rfl⟩ := by simpa [iioReadAllAttr] using h
    exact ⟨le_refl j, fun _ _ => rfl⟩
  | cons s rest ih =>
    obtain ⟨hnonneg, hs⟩ := iioReadAllAttr_cons h hj htotal
    cases s with
    | error code neg =>
      obtain ⟨hle, hmem⟩ := ih hs.1 hs.2
      refine ⟨by omega, fun k hk => ?_⟩
      rw [hmem k (by omega), writeBytes_of_lt (by lia)]
    | value text nul =>
      have halign := align4_natCast text.length
      obtain ⟨hle, hmem⟩ := ih hs.2.2 hs.2.1
      refine ⟨by lia, fun k hk => ?_⟩
      rw [hmem k (by lia), writeBytes_of_lt (by lia), writeBytes_of_lt (by lia)]

section Value

variable {text : List UInt8} {nul : 0 ∉ text} {p : ℕ} {addr : UInt32}

/-- Memory after a value at `p`. -/
def valueMem (mem : ℕ → UInt8) (p : ℕ) (text : List UInt8) : ℕ → UInt8 :=
  writeBytes (writeBytes mem p (wordBytes (bswapConstant32 (UInt32.ofNat text.length)))) (p + 4)
    (text ++ [0])

/-- The position after a value at `p`. -/
def nextPos (p : ℕ) (text : List UInt8) : ℕ := p + 4 + (text.length + 3) / 4 * 4

lemma le_nextPos (p : ℕ) (text : List UInt8) : p + 4 + text.length ≤ nextPos p text := by
  unfold nextPos
  lia

lemma valueMem_getElem {k : ℕ} (h : k < text.length) :
    valueMem mem p text (p + 4 + k) = text[k] := by
  have hk : k < (text ++ [0]).length := by
    rw [List.length_append]
    lia
  rw [valueMem, writeBytes_getElem hk, List.getElem_append_left h]

lemma iioReadAllAttr_value (hlen : text.length < 256) (hp : nextPos p text < 2 ^ 15) :
    iioReadAllAttr mem p (.value text nul :: rest) =
      iioReadAllAttr (valueMem mem p text) (nextPos p text) rest := by
  have hle := le_nextPos p text
  have h4 : int16 (p + 4) = ((p + 4 : ℕ) : ℤ) := int16_of_lt (n := p + 4) (by lia)
  have hnext : int16 (((p + 4 : ℕ) : ℤ) + align4 text.length) = (nextPos p text : ℕ) := by
    rw [align4_natCast, ← Nat.cast_add]
    exact int16_of_lt hp
  rw [iioReadAllAttr, if_neg (by lia)]
  simp only [h4, hnext, Int.toNat_natCast, Shown.attrLength]
  rw [if_neg (by lia), valueMem]

lemma iioReadAllAttr_value_inv
    (h : iioReadAllAttr mem p (.value text nul :: rest) = some (out, total)) (hp : p < 2 ^ 15)
    (htotal : 0 ≤ total) : text.length < 256 ∧ nextPos p text < 2 ^ 15 := by
  obtain ⟨-, hlen, hlt, -⟩ := iioReadAllAttr_cons h (by lia) htotal
  rw [align4_natCast] at hlt
  refine ⟨hlen, ?_⟩
  unfold nextPos
  lia

/-- Where the length is read as it was written, the next length is looked for behind the
value. -/
lemma iioWriteAllAttr_value (hp : nextPos p text < 2 ^ 15) (h4 : p % 4 = 0)
    (haddr : int16 (bswapConstant32 (addr + UInt32.ofNat p)).toNat = text.length) (n : ℕ) :
    iioWriteAllAttr addr p (n + 1) =
      ⟨((p + 4 : ℕ) : ℤ), text.length⟩ :: iioWriteAllAttr addr (nextPos p text) n := by
  have hle := le_nextPos p text
  have hoff : int16 (p + 4) = ((p + 4 : ℕ) : ℤ) := int16_of_lt (n := p + 4) (by lia)
  have hend : int16 (((p + 4 : ℕ) : ℤ) + text.length) = ((p + 4 + text.length : ℕ) : ℤ) := by
    rw [← Nat.cast_add]
    exact int16_of_lt (by lia)
  have hnext : int16 (align4 ((p + 4 + text.length : ℕ) : ℤ)) = (nextPos p text : ℕ) := by
    have heq : (p + 4 + text.length + 3) / 4 * 4 = nextPos p text := by
      unfold nextPos
      lia
    rw [align4_natCast, heq]
    exact int16_of_lt hp
  rw [iioWriteAllAttr, Word.ofInt_natCast]
  simp only [haddr, hoff, hend, hnext]

end Value

lemma Addressed.lt {addr : UInt32} {p : ℕ} (h : Addressed addr p shown) : p < 2 ^ 15 := by
  induction shown generalizing p with
  | nil => exact h
  | cons s rest ih =>
    cases s with
    | error code neg => exact absurd h id
    | value text nul =>
      have hlt := ih h.2.2
      lia

/-- From any position: the values come back if and only if the addresses fit. -/
lemma roundTrips_iff_addressed {addr : UInt32} {p : ℕ} (hp : p < 2 ^ 15) (h4 : p % 4 = 0) :
    RoundTrips mem addr p shown ↔ Addressed addr p shown := by
  induction shown generalizing p mem with
  | nil =>
    constructor
    · exact fun _ => hp
    · exact fun _ => ⟨mem, p, rfl, by lia, .nil⟩
  | cons s rest ih =>
    cases s with
    | error code neg =>
      constructor
      · rintro ⟨out, total, -, -, hcalls⟩
        obtain ⟨⟨text, nul, hs, -⟩, -⟩ := List.forall₂_cons.mp hcalls
        cases hs
      · exact fun h => absurd h id
    | value text nul =>
      have hmod : nextPos p text % 4 = 0 := by
        unfold nextPos
        lia
      constructor
      · rintro ⟨out, total, hread, htotal, hcalls⟩
        obtain ⟨hlen, hnext⟩ := iioReadAllAttr_value_inv hread hp htotal
        obtain ⟨⟨text', nul', hs, hgives⟩, hrest⟩ := List.forall₂_cons.mp hcalls
        obtain rfl : text = text' := by cases hs; rfl
        have haddr := hgives.len
        simp only [Word.ofInt_natCast] at haddr
        rw [List.length_cons, iioWriteAllAttr_value hnext h4 haddr] at hcalls
        rw [iioReadAllAttr_value hlen hnext] at hread
        exact ⟨hlen, (int16_bswap_iff hlen).mp haddr,
          (ih hnext hmod).mp ⟨out, total, hread, htotal, (List.forall₂_cons.mp hcalls).2⟩⟩
      · rintro ⟨hlen, haddr, hrest⟩
        have hnext : nextPos p text < 2 ^ 15 := hrest.lt
        obtain ⟨out, total, hread, htotal, hcalls⟩ :
            RoundTrips (valueMem mem p text) addr (nextPos p text) rest :=
          (ih hnext hmod).mpr hrest
        obtain ⟨hle, hframe⟩ := iioReadAllAttr_frame hread (by lia) htotal
        have hend := le_nextPos p text
        refine ⟨out, total, ?_, htotal, ?_⟩
        · rw [iioReadAllAttr_value hlen hnext, hread]
        · rw [List.length_cons, iioWriteAllAttr_value hnext h4 ((int16_bswap_iff hlen).mpr haddr)]
          refine List.forall₂_cons.mpr ⟨⟨text, nul, rfl, ?_⟩, hcalls⟩
          exact {
            len := rfl
            first := Int.natCast_nonneg _
            last := by
              simp only
              lia
            bytes := by
              intro k hk
              rw [Int.toNat_natCast, hframe _ (by lia), valueMem_getElem hk] }

/-- Every attribute is stored as it was shown if and only if all values are shown, they take
less than 2^15 bytes, and the address of each length word spells the length. -/
theorem iio_attr_round_trip (mem : ℕ → UInt8) (addr : UInt32) (shown : List Shown) :
    RoundTrips mem addr 0 shown ↔ Addressed addr 0 shown :=
  roundTrips_iff_addressed (p := 0) (by decide) rfl

/-- One attribute that shows "7", in a buffer at 0x20000000. -/
theorem iio_attr_round_trip_seven :
    ¬RoundTrips (fun _ => 0) 0x20000000 0 [.value [55] (by decide)] := by
  rw [show (0 : ℤ) = ((0 : ℕ) : ℤ) from rfl, roundTrips_iff_addressed (by decide) rfl]
  rintro ⟨-, haddr, -⟩
  revert haddr
  decide

end NoOS
