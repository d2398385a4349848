import NoOS.Drivers.AxiJesd204
import NoOS.Lib.PackedWord

/-!
# The alignment sequence of a lane

The words of the sequence are packed by the transmitter and unpacked by the receiver. The device number is packed
where the receiver does not look for it, and a parameter of 256 spills over the fields above its own.
-/

namespace NoOS
open PackedWord

structure LinkParams where
  DID : ℕ
  BID : ℕ
  L : ℕ
  F : ℕ
  K : ℕ
  M : ℕ
  N : ℕ
  CS : ℕ
  N' : ℕ
  S : ℕ
  HD : Bool
  SCR : Bool
  JESDV : ℕ
  SUBCLASS : ℕ

namespace LinkParams

/-- The ranges of the standard. -/
structure InRange (p : LinkParams) : Prop where
  DID_le : p.DID ≤ 255
  BID_le : p.BID ≤ 15
  L_pos : 1 ≤ p.L
  L_le : p.L ≤ 32
  F_pos : 1 ≤ p.F
  F_le : p.F ≤ 256
  K_pos : 1 ≤ p.K
  K_le : p.K ≤ 32
  M_pos : 1 ≤ p.M
  M_le : p.M ≤ 256
  N_pos : 1 ≤ p.N
  N_le : p.N ≤ 32
  CS_le : p.CS ≤ 3
  N'_pos : 1 ≤ p.N'
  N'_le : p.N' ≤ 32
  S_pos : 1 ≤ p.S
  S_le : p.S ≤ 32
  JESDV_le : p.JESDV ≤ 7
  SUBCLASS_le : p.SUBCLASS ≤ 7

/-- The parameters as they are stored, in bytes. -/
def config (p : LinkParams) (laneId : UInt8) (version : UInt32) : Jesd204TxConfig where
  deviceId := UInt8.ofNat p.DID
  bankId := UInt8.ofNat p.BID
  laneId := laneId
  lanesPerDevice := UInt8.ofNat p.L
  octetsPerFrame := UInt8.ofNat p.F
  framesPerMultiframe := UInt8.ofNat p.K
  convertersPerDevice := UInt8.ofNat p.M
  resolution := UInt8.ofNat p.N
  bitsPerSample := UInt8.ofNat p.N'
  samplesPerFrame := UInt8.ofNat p.S
  jesdVersion := UInt8.ofNat p.JESDV
  subclassVersion := UInt8.ofNat p.SUBCLASS
  controlBitsPerSample := UInt8.ofNat p.CS
  version := version
  enableScrambling := p.SCR
  highDensity := p.HD

/-- The sum of the fields that are transmitted. -/
def fieldSum (p : LinkParams) (lane : ℕ) : ℕ :=
  p.DID + p.BID + lane + (p.L - 1) + p.SCR.toNat + (p.F - 1) + (p.K - 1) + (p.M - 1) + p.CS + (p.N - 1) +
    (p.N' - 1) + p.SUBCLASS + (p.S - 1) + p.JESDV + p.HD.toNat

/-- What a receiver should print. -/
def laneInfo (p : LinkParams) (lane : ℕ) : LaneInfo where
  DID := UInt32.ofNat p.DID
  BID := UInt32.ofNat p.BID
  LID := UInt32.ofNat lane
  L := UInt32.ofNat p.L
  SCR := p.SCR.toUInt32
  F := UInt32.ofNat p.F
  K := UInt32.ofNat p.K
  M := UInt32.ofNat p.M
  N := UInt32.ofNat p.N
  CS := UInt32.ofNat p.CS
  N' := UInt32.ofNat p.N'
  S := UInt32.ofNat p.S
  HD := p.HD.toUInt32
  FCHK := UInt32.ofNat (p.fieldSum lane % 256)
  CF := 0
  ADJCNT := 0
  PHADJ := 0
  ADJDIR := 0
  JESDV := UInt32.ofNat p.JESDV
  SUBCLASS := UInt32.ofNat p.SUBCLASS

end LinkParams

section Words

variable {config : Jesd204TxConfig} {lane : UInt32} {n : ℕ}

/-- The word of a lane that is found in the writes. -/
def RegWrites.ilas (writes : RegWrites) (lane i : UInt32) : UInt32 :=
  (writes.lookup (JESD204_TX_REG_ILAS lane i)).getD 0

lemma ilas_inj {i j : UInt32} (h : JESD204_TX_REG_ILAS lane i = JESD204_TX_REG_ILAS lane j) : i * 4 = j * 4 :=
  UInt32.add_right_inj (lane * 32) |>.mp (UInt32.add_left_inj 0x310 |>.mp h)

lemma setLaneIlas_lookup {i : UInt32} (hi : i ∈ ([0, 1, 2, 3] : List UInt32)) :
    (axiJesd204TxSetLaneIlas config lane).ilas lane i = ilasWord { config with laneId := lane.toUInt8 } i := by
  have hne : ∀ i ∈ ([0, 1, 2, 3] : List UInt32), ∀ j ∈ ([0, 1, 2, 3] : List UInt32), i * 4 = j * 4 → i = j := by
    intro i hi j hj
    simp only [List.mem_cons, List.not_mem_nil, or_false] at hi hj
    rcases hi with rfl | rfl | rfl | rfl <;> rcases hj with rfl | rfl | rfl | rfl <;> decide
  have hbeq : ∀ j ∈ ([0, 1, 2, 3] : List UInt32), (JESD204_TX_REG_ILAS lane i == JESD204_TX_REG_ILAS lane j) =
      (i == j) := by
    intro j hj
    rw [Bool.eq_iff_iff, beq_iff_eq, beq_iff_eq]
    exact ⟨fun h => hne i hi j hj (ilas_inj h), fun h => by rw [h]⟩
  have h0 := hbeq 0 (by decide)
  have h1 := hbeq 1 (by decide)
  have h2 := hbeq 2 (by decide)
  have h3 := hbeq 3 (by decide)
  simp only [RegWrites.ilas, axiJesd204TxSetLaneIlas, List.map_cons, List.map_nil, List.lookup_cons, h0, h1, h2, h3]
  simp only [List.mem_cons, List.not_mem_nil, or_false] at hi
  rcases hi with rfl | rfl | rfl | rfl <;> rfl

lemma ofNat_toUInt32 (h : n < 256) : (UInt8.ofNat n).toUInt32 = UInt32.ofNat n := by
  apply UInt32.toNat_inj.mp
  rw [UInt8.toNat_toUInt32, UInt8.toNat_ofNat_of_lt' h, UInt32.toNat_ofNat_of_lt' (h.trans (by decide))]

lemma lessOne_ofNat (hpos : 1 ≤ n) (h : n < 256) : lessOne (UInt8.ofNat n) = UInt32.ofNat (n - 1) := by
  rw [lessOne, ofNat_toUInt32 h]
  exact (UInt32.ofNat_sub hpos).symm

lemma ofNat_add_one (hpos : 1 ≤ n) : UInt32.ofNat (n - 1) + 1 = UInt32.ofNat n := by
  have hadd : n - 1 + 1 = n := Nat.sub_add_cancel hpos
  rw [← hadd, UInt32.ofNat_add, Nat.add_sub_cancel]
  rfl

lemma fits_ofNat {offset width : ℕ} (hval : n < 2 ^ width) (hwidth : width < 32) (hend : offset + width ≤ 32)
    (hoffset : offset < 32) : (Slot.mk offset width (UInt32.ofNat n)).Fits := by
  have hlt : n < UInt32.size := hval.trans (Nat.pow_lt_pow_right (by decide) hwidth)
  refine ⟨?_, hwidth, hend, hoffset⟩
  rwa [UInt32.toNat_ofNat_of_lt' hlt]

end Words

/-- The value of a field above a parameter that spills over it. -/
def spilled (n width v : ℕ) : ℕ := if n = 256 then 2 ^ width - 1 else v

lemma spilled_lt {n width v : ℕ} (h : v < 2 ^ width) : spilled n width v < 2 ^ width := by
  unfold spilled
  split_ifs
  · exact Nat.sub_one_lt_of_lt h
  · exact h

lemma ones_or (x : UInt32) : 0xffffffff ||| x = 0xffffffff := by
  apply UInt32.toBitVec_inj.mp
  rw [UInt32.toBitVec_or]
  exact BitVec.allOnes_or

namespace LinkParams

variable {p : LinkParams} {lane version : UInt32}

def wordZero (p : LinkParams) : List Slot :=
  [⟨8, 8, UInt32.ofNat p.DID⟩, ⟨24, 4, UInt32.ofNat p.BID⟩]

def wordOne (p : LinkParams) (lane : ℕ) : List Slot :=
  [⟨0, 5, UInt32.ofNat lane⟩, ⟨8, 5, UInt32.ofNat (p.L - 1)⟩, ⟨15, 1, UInt32.ofNat p.SCR.toNat⟩,
    ⟨16, 8, UInt32.ofNat (p.F - 1)⟩, ⟨24, 5, UInt32.ofNat (spilled p.F 5 (p.K - 1))⟩,
    ⟨29, 3, UInt32.ofNat (spilled p.F 3 0)⟩]

def wordTwo (p : LinkParams) : List Slot :=
  [⟨0, 8, UInt32.ofNat (p.M - 1)⟩, ⟨8, 5, UInt32.ofNat (spilled p.M 5 (p.N - 1))⟩,
    ⟨13, 1, UInt32.ofNat (spilled p.M 1 0)⟩, ⟨14, 2, UInt32.ofNat (spilled p.M 2 p.CS)⟩,
    ⟨16, 5, UInt32.ofNat (spilled p.M 5 (p.N' - 1))⟩, ⟨21, 3, UInt32.ofNat (spilled p.M 3 p.SUBCLASS)⟩,
    ⟨24, 5, UInt32.ofNat (spilled p.M 5 (p.S - 1))⟩, ⟨29, 3, UInt32.ofNat (spilled p.M 3 p.JESDV)⟩]

def wordThree (p : LinkParams) (lane : ℕ) : List Slot :=
  [⟨7, 1, UInt32.ofNat p.HD.toNat⟩, ⟨24, 8, UInt32.ofNat (p.fieldSum lane % 256)⟩]

lemma bool_toUInt32 (b : Bool) : b.toUInt32 = UInt32.ofNat b.toNat := by
  cases b <;> rfl

lemma ilasWord_zero (h : p.InRange) : ilasWord (p.config lane.toUInt8 version) 0 = pack p.wordZero := by
  have hDID := h.DID_le
  have hBID := h.BID_le
  simp only [ilasWord, config, wordZero, pack, if_true]
  rw [ofNat_toUInt32 (by omega), ofNat_toUInt32 (by omega), UInt32.or_zero]
  rfl

lemma pack_wordOne (a b c d e f : UInt32) :
    pack [⟨0, 5, a⟩, ⟨8, 5, b⟩, ⟨15, 1, c⟩, ⟨16, 8, d⟩, ⟨24, 5, e⟩, ⟨29, 3, f⟩] =
      a ||| (b <<< 8) ||| (c <<< 15) ||| ((d <<< 16) ||| (e <<< 24) ||| (f <<< 29)) := by
  have hzero : a <<< UInt32.ofNat 0 = a := UInt32.shiftLeft_zero
  simp only [pack, hzero, UInt32.or_zero, UInt32.or_assoc]
  rfl

/-- A number of octets of 256 is stored as 0, and 0 less 1 covers the field above. -/
lemma spill_one : ∀ k < 32, ((lessOne (UInt8.ofNat 256) <<< 16) ||| (UInt32.ofNat k <<< 24)) =
    ((UInt32.ofNat 255 <<< 16) ||| (UInt32.ofNat 31 <<< 24) ||| (UInt32.ofNat 7 <<< 29)) := by
  decide

lemma ilasWord_one (h : p.InRange) (hlane : lane.toNat < 32) :
    ilasWord (p.config lane.toUInt8 version) 1 = pack (p.wordOne lane.toNat) := by
  have hlow : lane.toUInt8.toUInt32 = UInt32.ofNat lane.toNat := by
    apply UInt32.toNat_inj.mp
    rw [UInt8.toNat_toUInt32, UInt32.toNat_toUInt8, UInt32.ofNat_toNat, Nat.mod_eq_of_lt (by omega)]
  have hL := h.L_le
  have hK := h.K_le
  have hF := h.F_le
  simp only [ilasWord, config, show ¬(1 : UInt32) = 0 by decide, if_true, if_false]
  rw [hlow, lessOne_ofNat h.L_pos (by omega), lessOne_ofNat h.K_pos (by omega), bool_toUInt32, wordOne,
    pack_wordOne, UInt32.or_assoc (_ ||| _ ||| _)]
  refine congrArg _ ?_
  by_cases hbig : p.F = 256
  · rw [hbig, spilled, spilled, if_pos rfl, if_pos rfl]
    exact spill_one (p.K - 1) (by lia)
  · have hnone : UInt32.ofNat 0 <<< 29 = 0 := rfl
    rw [lessOne_ofNat h.F_pos (by lia), spilled, spilled, if_neg hbig, if_neg hbig, hnone, UInt32.or_zero]

lemma pack_wordTwo (a b c d e f g i : UInt32) :
    pack [⟨0, 8, a⟩, ⟨8, 5, b⟩, ⟨13, 1, c⟩, ⟨14, 2, d⟩, ⟨16, 5, e⟩, ⟨21, 3, f⟩, ⟨24, 5, g⟩, ⟨29, 3, i⟩] =
      a ||| (b <<< 8) ||| (c <<< 13) ||| (d <<< 14) ||| (e <<< 16) ||| (f <<< 21) ||| (g <<< 24) ||| (i <<< 29) := by
  have hzero : a <<< UInt32.ofNat 0 = a := UInt32.shiftLeft_zero
  simp only [pack, hzero, UInt32.or_zero, UInt32.or_assoc]
  rfl

lemma ilasWord_two (h : p.InRange) : ilasWord (p.config lane.toUInt8 version) 2 = pack p.wordTwo := by
  have hM := h.M_le
  simp only [ilasWord, config, show ¬(2 : UInt32) = 0 by decide, show ¬(2 : UInt32) = 1 by decide, if_true,
    if_false]
  rw [wordTwo, pack_wordTwo]
  by_cases hbig : p.M = 256
  · have hones : lessOne (UInt8.ofNat 256) = 0xffffffff := rfl
    simp only [hbig, hones, spilled, if_true, UInt32.or_assoc, ones_or]
    rfl
  · have hnone : UInt32.ofNat 0 <<< 13 = 0 := rfl
    have hN := h.N_le
    have hN' := h.N'_le
    have hS := h.S_le
    have hCS := h.CS_le
    have hJESDV := h.JESDV_le
    have hSUBCLASS := h.SUBCLASS_le
    rw [lessOne_ofNat h.M_pos (by lia), lessOne_ofNat h.N_pos (by omega), lessOne_ofNat h.N'_pos (by omega),
      lessOne_ofNat h.S_pos (by omega), ofNat_toUInt32 (by lia), ofNat_toUInt32 (by lia),
      ofNat_toUInt32 (by lia)]
    simp only [spilled, if_neg hbig, hnone, UInt32.or_zero]

/-- The lower byte of the checksum, in which a stored 0 less 1 is 255. -/
lemma chksum_eq (h : p.InRange) :
    axiJesd204TxCalcIlasChksum (p.config lane.toUInt8 version) = UInt32.ofNat (p.fieldSum lane.toNat % 256) := by
  have hless : ∀ n : ℕ, 1 ≤ n → (lessOne (UInt8.ofNat n)).toUInt8 = UInt8.ofNat (n - 1) := by
    intro n hpos
    rw [lessOne, UInt32.toUInt8_sub, UInt8.toUInt8_toUInt32]
    exact (UInt8.ofNat_sub hpos).symm
  have hbyte : ∀ x : UInt32, x &&& 0xff = x.toUInt8.toUInt32 := by
    intro x
    apply UInt32.toNat_inj.mp
    rw [UInt32.toNat_and, UInt8.toNat_toUInt32, UInt32.toNat_toUInt8]
    exact Nat.and_two_pow_sub_one_eq_mod x.toNat 8
  have hbool : ∀ b : Bool, b.toUInt32.toUInt8 = UInt8.ofNat b.toNat := by decide
  have hlow : lane.toUInt8 = UInt8.ofNat lane.toNat := (UInt8.ofNat_uInt32ToNat lane).symm
  have hsum : UInt32.ofNat (p.fieldSum lane.toNat % 256) = (UInt8.ofNat (p.fieldSum lane.toNat)).toUInt32 := by
    apply UInt32.toNat_inj.mp
    rw [UInt8.toNat_toUInt32, UInt8.toNat_ofNat', UInt32.toNat_ofNat_of_lt']
    exact (Nat.mod_lt _ (by decide)).trans (by decide)
  rw [hsum, axiJesd204TxCalcIlasChksum, hbyte]
  congr 1
  simp only [config, UInt32.toUInt8_add, UInt8.toUInt8_toUInt32, hbool, fieldSum, UInt8.ofNat_add, hlow,
    hless _ h.L_pos, hless _ h.F_pos, hless _ h.K_pos, hless _ h.M_pos, hless _ h.N_pos, hless _ h.N'_pos,
    hless _ h.S_pos]

lemma ilasWord_three (h : p.InRange) :
    ilasWord (p.config lane.toUInt8 version) 3 = pack (p.wordThree lane.toNat) := by
  rw [wordThree, pack, pack, pack, UInt32.or_zero, ← chksum_eq h, ← bool_toUInt32]
  rfl

/-- The words of a lane, as a receiver reads them. -/
def transmitted (p : LinkParams) (lane version : UInt32) (laneId : UInt8) : UInt32 → UInt32 :=
  (axiJesd204TxSetLaneIlas (p.config laneId version) lane).ilas lane

variable {laneId : UInt8}

lemma fits_wordOne (h : p.InRange) (hlane : lane.toNat < 32) : ∀ f ∈ p.wordOne lane.toNat, f.Fits := by
  have hL := h.L_le
  have hF := h.F_le
  have hK := h.K_le
  have hSCR := Bool.toNat_lt p.SCR
  have hbyte : p.F - 1 < 2 ^ 8 := by lia
  have hk : p.K - 1 < 2 ^ 5 := by lia
  intro f hf
  simp only [wordOne, List.mem_cons, List.not_mem_nil, or_false] at hf
  rcases hf with rfl | rfl | rfl | rfl | rfl | rfl
  · exact fits_ofNat (by omega) (by decide) (by decide) (by decide)
  · exact fits_ofNat (by lia) (by decide) (by decide) (by decide)
  · exact fits_ofNat (by omega) (by decide) (by decide) (by decide)
  · exact fits_ofNat hbyte (by decide) (by decide) (by decide)
  · exact fits_ofNat (spilled_lt hk) (by decide) (by decide) (by decide)
  · exact fits_ofNat (spilled_lt (by decide)) (by decide) (by decide) (by decide)

lemma fits_wordTwo (h : p.InRange) : ∀ f ∈ p.wordTwo, f.Fits := by
  have hM := h.M_le
  have hN := h.N_le
  have hN' := h.N'_le
  have hS := h.S_le
  have hCS := h.CS_le
  have hJESDV := h.JESDV_le
  have hSUBCLASS := h.SUBCLASS_le
  intro f hf
  simp only [wordTwo, List.mem_cons, List.not_mem_nil, or_false] at hf
  rcases hf with rfl | rfl | rfl | rfl | rfl | rfl | rfl | rfl
  · exact fits_ofNat (by lia) (by decide) (by decide) (by decide)
  · exact fits_ofNat (spilled_lt (by lia)) (by decide) (by decide) (by decide)
  · exact fits_ofNat (spilled_lt (by decide)) (by decide) (by decide) (by decide)
  · exact fits_ofNat (spilled_lt (by lia)) (by decide) (by decide) (by decide)
  · exact fits_ofNat (spilled_lt (by lia)) (by decide) (by decide) (by decide)
  · exact fits_ofNat (spilled_lt (by lia)) (by decide) (by decide) (by decide)
  · exact fits_ofNat (spilled_lt (by lia)) (by decide) (by decide) (by decide)
  · exact fits_ofNat (spilled_lt (by lia)) (by decide) (by decide) (by decide)

lemma fits_wordZero (h : p.InRange) : ∀ f ∈ p.wordZero, f.Fits := by
  have hDID := h.DID_le
  have hBID := h.BID_le
  intro f hf
  simp only [wordZero, List.mem_cons, List.not_mem_nil, or_false] at hf
  rcases hf with rfl | rfl
  · exact fits_ofNat (by omega) (by decide) (by decide) (by decide)
  · exact fits_ofNat (by omega) (by decide) (by decide) (by decide)

lemma fits_wordThree : ∀ f ∈ p.wordThree lane.toNat, f.Fits := by
  have hHD := Bool.toNat_lt p.HD
  intro f hf
  simp only [wordThree, List.mem_cons, List.not_mem_nil, or_false] at hf
  rcases hf with rfl | rfl
  · exact fits_ofNat (by omega) (by decide) (by decide) (by decide)
  · exact fits_ofNat (Nat.mod_lt _ (by decide)) (by decide) (by decide) (by decide)

lemma transmitted_eq {i : UInt32} (hi : i ∈ ([0, 1, 2, 3] : List UInt32)) :
    p.transmitted lane version laneId i = ilasWord (p.config lane.toUInt8 version) i := setLaneIlas_lookup hi

/-- What is read differs from the parameters in the device number and in what has been spilled over. -/
lemma laneinfo_eq (h : p.InRange) (hlane : lane.toNat < 32) :
    axiJesd204RxLaneinfo8b10bRead (p.transmitted lane version laneId) =
      { p.laneInfo lane.toNat with
        DID := 0
        K := UInt32.ofNat (spilled p.F 5 (p.K - 1)) + 1
        N := UInt32.ofNat (spilled p.M 5 (p.N - 1)) + 1
        CS := UInt32.ofNat (spilled p.M 2 p.CS)
        N' := UInt32.ofNat (spilled p.M 5 (p.N' - 1)) + 1
        S := UInt32.ofNat (spilled p.M 5 (p.S - 1)) + 1
        JESDV := UInt32.ofNat (spilled p.M 3 p.JESDV)
        SUBCLASS := UInt32.ofNat (spilled p.M 3 p.SUBCLASS) } := by
  have h0 : p.transmitted lane version laneId 0 = pack p.wordZero := (transmitted_eq (by decide)).trans (ilasWord_zero h)
  have h1 : p.transmitted lane version laneId 1 = pack (p.wordOne lane.toNat) :=
    (transmitted_eq (by decide)).trans (ilasWord_one h hlane)
  have h2 : p.transmitted lane version laneId 2 = pack p.wordTwo := (transmitted_eq (by decide)).trans (ilasWord_two h)
  have h3 : p.transmitted lane version laneId 3 = pack (p.wordThree lane.toNat) :=
    (transmitted_eq (by decide)).trans (ilasWord_three h)
  have zero : ∀ (i : ℕ) (f : Slot), p.wordZero[i]? = some f →
      unpack f.offset f.width (pack p.wordZero) = f.val :=
    fun i f hi => unpack_pack (fits_wordZero h) (by simp [wordZero, Apart]) (List.mem_of_getElem? hi)
  have one : ∀ (i : ℕ) (f : Slot), (p.wordOne lane.toNat)[i]? = some f →
      unpack f.offset f.width (pack (p.wordOne lane.toNat)) = f.val :=
    fun i f hi => unpack_pack (fits_wordOne h hlane) (by simp [wordOne, Apart]) (List.mem_of_getElem? hi)
  have two : ∀ (i : ℕ) (f : Slot), p.wordTwo[i]? = some f →
      unpack f.offset f.width (pack p.wordTwo) = f.val :=
    fun i f hi => unpack_pack (fits_wordTwo h) (by simp [wordTwo, Apart]) (List.mem_of_getElem? hi)
  have three : ∀ (i : ℕ) (f : Slot), (p.wordThree lane.toNat)[i]? = some f →
      unpack f.offset f.width (pack (p.wordThree lane.toNat)) = f.val :=
    fun i f hi => unpack_pack (fits_wordThree) (by simp [wordThree, Apart]) (List.mem_of_getElem? hi)
  unfold axiJesd204RxLaneinfo8b10bRead
  rw [h0, h1, h2, h3]
  ext1
  · exact @unpack_gap 16 8 _ (fits_wordZero h) (by decide) (by decide) (by simp [wordZero, Apart])
  · exact zero 1 ⟨24, 4, _⟩ rfl
  · exact one 0 ⟨0, 5, _⟩ rfl
  · exact (congrArg (· + 1) (one 1 ⟨8, 5, _⟩ rfl)).trans (ofNat_add_one h.L_pos)
  · exact (one 2 ⟨15, 1, _⟩ rfl).trans (bool_toUInt32 p.SCR).symm
  · exact (congrArg (· + 1) (one 3 ⟨16, 8, _⟩ rfl)).trans (ofNat_add_one h.F_pos)
  · exact congrArg (· + 1) (one 4 ⟨24, 5, _⟩ rfl)
  · exact (congrArg (· + 1) (two 0 ⟨0, 8, _⟩ rfl)).trans (ofNat_add_one h.M_pos)
  · exact congrArg (· + 1) (two 1 ⟨8, 5, _⟩ rfl)
  · exact two 3 ⟨14, 2, _⟩ rfl
  · exact congrArg (· + 1) (two 4 ⟨16, 5, _⟩ rfl)
  · exact congrArg (· + 1) (two 6 ⟨24, 5, _⟩ rfl)
  · exact (three 0 ⟨7, 1, _⟩ rfl).trans (bool_toUInt32 p.HD).symm
  · exact three 1 ⟨24, 8, _⟩ rfl
  · exact @unpack_gap 0 5 _ fits_wordThree (by decide) (by decide) (by simp [wordThree, Apart])
  · exact @unpack_gap 28 8 _ (fits_wordZero h) (by decide) (by decide) (by simp [wordZero, Apart])
  · exact @unpack_gap 5 1 _ (fits_wordOne h hlane) (by decide) (by decide) (by simp [wordOne, Apart])
  · exact @unpack_gap 6 1 _ (fits_wordOne h hlane) (by decide) (by decide) (by simp [wordOne, Apart])
  · exact two 7 ⟨29, 3, _⟩ rfl
  · exact two 5 ⟨21, 3, _⟩ rfl

/-- A parameter is read as it is if it is all ones where something is spilled over it. -/
lemma spilled_eq_iff {n width v : ℕ} (hv : v < 2 ^ width) (hwidth : width < 32) :
    UInt32.ofNat (spilled n width v) = UInt32.ofNat v ↔ (n = 256 → v + 1 = 2 ^ width) := by
  have hsize : 2 ^ width < UInt32.size := Nat.pow_lt_pow_right (by decide) hwidth
  have hinj : UInt32.ofNat (spilled n width v) = UInt32.ofNat v ↔ spilled n width v = v := by
    rw [← UInt32.toNat_inj, UInt32.toNat_ofNat_of_lt' ((spilled_lt hv).trans hsize),
      UInt32.toNat_ofNat_of_lt' (hv.trans hsize)]
  rw [hinj, spilled]
  split_ifs with hbig
  · constructor
    · intro heq _
      lia
    · intro hall
      have := hall hbig
      lia
  · exact iff_of_true rfl fun h => absurd h hbig

lemma spilled_add_one_iff {n width v : ℕ} (hv : v - 1 < 2 ^ width) (hpos : 1 ≤ v) (hwidth : width < 32) :
    UInt32.ofNat (spilled n width (v - 1)) + 1 = UInt32.ofNat v ↔ (n = 256 → v = 2 ^ width) := by
  rw [← ofNat_add_one hpos, UInt32.add_left_inj, spilled_eq_iff hv hwidth, Nat.sub_add_cancel hpos]

/-- The parameters that a spill does not change. -/
def Unspilled (p : LinkParams) : Prop :=
  (p.F = 256 → p.K = 32) ∧
    (p.M = 256 → p.N = 32 ∧ p.CS = 3 ∧ p.N' = 32 ∧ p.S = 32 ∧ p.JESDV = 7 ∧ p.SUBCLASS = 7)

end LinkParams

open LinkParams

/-- Every parameter of every lane is read as it was set, and the checksum is that of the fields, if and only if
the device number is 0 and nothing is spilled. -/
theorem ilas_roundTrip_iff {p : LinkParams} {lane version : UInt32} {laneId : UInt8} (h : p.InRange)
    (hlane : lane.toNat < p.L) :
    axiJesd204RxLaneinfo8b10bRead (p.transmitted lane version laneId) = p.laneInfo lane.toNat ↔
      p.DID = 0 ∧ p.Unspilled := by
  have hDID : (0 : UInt32) = UInt32.ofNat p.DID ↔ p.DID = 0 := by
    rw [← UInt32.toNat_inj, UInt32.toNat_ofNat_of_lt' (by have := h.DID_le; simp only [UInt32.size]; omega)]
    exact eq_comm
  have hK := @spilled_add_one_iff p.F 5 p.K (by have := h.K_le; omega) h.K_pos (by decide)
  have hN := @spilled_add_one_iff p.M 5 p.N (by have := h.N_le; omega) h.N_pos (by decide)
  have hN' := @spilled_add_one_iff p.M 5 p.N' (by have := h.N'_le; omega) h.N'_pos (by decide)
  have hS := @spilled_add_one_iff p.M 5 p.S (by have := h.S_le; omega) h.S_pos (by decide)
  have hCS := @spilled_eq_iff p.M 2 p.CS (by have := h.CS_le; omega) (by decide)
  have hJESDV := @spilled_eq_iff p.M 3 p.JESDV (by have := h.JESDV_le; omega) (by decide)
  have hSUBCLASS := @spilled_eq_iff p.M 3 p.SUBCLASS (by have := h.SUBCLASS_le; omega) (by decide)
  rw [laneinfo_eq h (hlane.trans_le h.L_le), LaneInfo.ext_iff]
  simp only [laneInfo, hDID, hK, hN, hN', hS, hCS, hJESDV, hSUBCLASS, Unspilled]
  constructor
  · rintro ⟨hdid, -, -, -, -, -, hk, -, hn, hcs, hn', hs, -, -, -, -, -, -, hjesdv, hsubclass⟩
    refine ⟨hdid, hk, ?_⟩
    intro hbig
    exact ⟨hn hbig, by have := hcs hbig; omega, hn' hbig, hs hbig, by have := hjesdv hbig; omega,
      by have := hsubclass hbig; omega⟩
  · rintro ⟨hdid, hk, hm⟩
    simp only [hdid, true_and]
    refine ⟨hk, ?_, ?_, ?_, ?_, ?_, ?_⟩
    · exact fun hbig => (hm hbig).1
    · intro hbig
      rw [(hm hbig).2.1]
      rfl
    · exact fun hbig => (hm hbig).2.2.1
    · exact fun hbig => (hm hbig).2.2.2.1
    · intro hbig
      rw [(hm hbig).2.2.2.2.1]
      rfl
    · intro hbig
      rw [(hm hbig).2.2.2.2.2]
      rfl

/-- Four lanes, frames of eight octets, sixteen bits. -/
def fourLanes (DID : ℕ) : LinkParams where
  DID := DID
  BID := 5
  L := 4
  F := 8
  K := 32
  M := 16
  N := 16
  CS := 1
  N' := 16
  S := 1
  HD := true
  SCR := true
  JESDV := 1
  SUBCLASS := 1

theorem ilas_roundTrip_at : axiJesd204RxLaneinfo8b10bRead ((fourLanes 0).transmitted 3 0 0) =
    (fourLanes 0).laneInfo 3 := by
  have hrange : (fourLanes 0).InRange := by constructor <;> decide
  have hlane : (3 : UInt32).toNat < (fourLanes 0).L := by decide
  apply (ilas_roundTrip_iff hrange hlane).mpr
  exact ⟨rfl, by decide, by decide⟩

/-- The device number 1 is read as 0. -/
theorem ilas_not_roundTrip : (fourLanes 1).InRange ∧
    axiJesd204RxLaneinfo8b10bRead ((fourLanes 1).transmitted 3 0 0) ≠ (fourLanes 1).laneInfo 3 := by
  refine ⟨by constructor <;> decide, by decide⟩

end NoOS
