import NoOS.Drivers.AlteraA10AtxPll
import NoOS.Drivers.AlteraA10CdrPll

/-!
# The fields that a new rate updates

Every setting fits into its field, so that no update reaches beyond its mask.
-/

namespace NoOS
open RegisterFile

namespace AlteraAdxcvr

/-- The field of a register in a list, which is empty if it is not there. -/
def fieldOf (fields : List (ℕ × UInt32)) (reg : ℕ) : UInt32 := (fields.lookup reg).getD 0

def atxFields : List (ℕ × UInt32) :=
  [(0, 0xffffffff), (0x102, 0x1f), (0x104, 0x7f), (0x105, 0x07), (0x107, 0x0c), (0x108, 0x07), (0x109, 0xffffffff),
    (0x100, 0x01)]

def calibTxFields : List (ℕ × UInt32) := [(0, 0xffffffff), (0x100, 0x20), (0x281, 0x30)]

def cdrFields : List (ℕ × UInt32) :=
  [(0, 0xffffffff), (0x132, 0x05), (0x133, 0xe0), (0x134, 0x40), (0x135, 0x4f), (0x136, 0x0f), (0x137, 0x7c),
    (0x139, 0xbf), (0x13a, 0xffffffff), (0x13b, 0xffffffff), (0x13c, 0x0c), (0x100, 0x02), (0x166, 0x80), (0x281, 0x30)]

/-- The masks of the updates, with the registers that are written as a whole. -/
def updatedFields (transmit : Bool) (lanes : ℕ) : AlteraBlock × ℕ → UInt32
  | (.core, reg) => fieldOf [(ADXCVR_REG_RESETN, 0xffffffff)] reg
  | (.atxPll, reg) => if transmit then fieldOf atxFields reg else 0
  | (.adxcfg i, reg) => if i < lanes then fieldOf (if transmit then calibTxFields else cdrFields) reg else 0

variable {x y z : AlteraAdxcvr} {fields : AlteraBlock × ℕ → UInt32} {b : AlteraBlock} {reg : ℕ} {mask val : UInt32}

lemma read_write_self : (x.write b reg val).read b reg = val := Function.update_self ..

lemma read_write_of_ne {b' : AlteraBlock} {reg' : ℕ} (h : (b', reg') ≠ (b, reg)) :
    (x.write b reg val).read b' reg' = x.read b' reg' := Function.update_of_ne h ..

lemma read_update_self : (x.update b reg mask val).read b reg = (x.read b reg &&& ~~~mask) ||| val :=
  RegisterFile.update_self

lemma read_update_of_ne {b' : AlteraBlock} {reg' : ℕ} (h : (b', reg') ≠ (b, reg)) :
    (x.update b reg mask val).read b' reg' = x.read b' reg' := RegisterFile.update_of_ne h

/-- Only bits of the fields change, and nothing of what the rate depends on. -/
structure Moves (fields : AlteraBlock × ℕ → UInt32) (x y : AlteraAdxcvr) : Prop where
  isTransmit : y.isTransmit = x.isTransmit
  lanesPerLink : y.lanesPerLink = x.lanesPerLink
  parentRateKhz : y.parentRateKhz = x.parentRateKhz
  initialRecalc : y.initialRecalc = x.initialRecalc
  keeps : Keeps fields x.regs y.regs

lemma Moves.refl (fields : AlteraBlock × ℕ → UInt32) (x : AlteraAdxcvr) : Moves fields x x :=
  ⟨rfl, rfl, rfl, rfl, Keeps.refl _ _⟩

lemma Moves.trans (h : Moves fields x y) (h' : Moves fields y z) : Moves fields x z :=
  ⟨h'.isTransmit.trans h.isTransmit, h'.lanesPerLink.trans h.lanesPerLink,
    h'.parentRateKhz.trans h.parentRateKhz, h'.initialRecalc.trans h.initialRecalc, h.keeps.trans h'.keeps⟩

lemma moves_write (h : fields (b, reg) = 0xffffffff) : Moves fields x (x.write b reg val) :=
  ⟨rfl, rfl, rfl, rfl, keeps_write h⟩

lemma moves_update (hval : mask &&& val = val) (hsub : fields (b, reg) &&& mask = mask) :
    Moves fields x (x.update b reg mask val) := ⟨rfl, rfl, rfl, rfl, keeps_update hval hsub⟩

lemma poll_eq (done : UInt32 → Bool) (n : ℕ) : ∃ k, (x.poll done n).2 = { x with polls := k } := by
  induction n generalizing x with
  | zero => exact ⟨x.polls, rfl⟩
  | succ n ih =>
    rw [poll]
    split_ifs
    · exact ⟨x.polls + 1, rfl⟩
    · exact @ih { x with polls := x.polls + 1 }

lemma moves_poll (done : UInt32 → Bool) (n : ℕ) : Moves fields x (x.poll done n).2 := by
  obtain ⟨k, hk⟩ := @poll_eq x done n
  rw [hk]
  exact ⟨rfl, rfl, rfl, rfl, Keeps.refl _ _⟩

lemma read_poll (done : UInt32 → Bool) (n : ℕ) : (x.poll done n).2.read b reg = x.read b reg := by
  obtain ⟨k, hk⟩ := @poll_eq x done n
  rw [hk]
  rfl

lemma read_acquireArbitration_of_ne {b' : AlteraBlock} {reg' : ℕ} (h : (b', reg') ≠ (b, 0)) :
    (x.acquireArbitration b).read b' reg' = x.read b' reg' := by
  rw [acquireArbitration, read_poll, read_write_of_ne h]

lemma moves_acquireArbitration (h : fields (b, 0) = 0xffffffff) : Moves fields x (x.acquireArbitration b) :=
  (moves_write h).trans (moves_poll _ _)

lemma moves_preLaneRateChange (h : fields (.core, ADXCVR_REG_RESETN) = 0xffffffff) :
    Moves fields x x.preLaneRateChange := by
  unfold preLaneRateChange
  dsimp only
  split_ifs
  · exact ⟨rfl, rfl, rfl, rfl, keeps_write h⟩
  · exact ⟨rfl, rfl, rfl, rfl, Keeps.refl _ _⟩

lemma moves_finalizeLaneRateChange (h : fields (.core, ADXCVR_REG_RESETN) = 0xffffffff) :
    Moves fields x x.finalizeLaneRateChange := by
  have hpoll : ∀ t : AlteraAdxcvr, Moves fields t
      ((t.write .core ADXCVR_REG_RESETN ADXCVR_RESETN).poll (fun status => status = ADXCVR_STATUS) 1001).2 :=
    fun t => (moves_write h).trans (moves_poll _ _)
  unfold finalizeLaneRateChange
  dsimp only
  have hfirst : Moves fields x { x with resetCounter := x.resetCounter - 1 } := ⟨rfl, rfl, rfl, rfl, Keeps.refl _ _⟩
  split_ifs
  · exact hfirst
  · exact hfirst.trans (hpoll _)
  · have hprint : ∀ t : AlteraAdxcvr, Moves fields t { t with polls := t.polls + 1 } :=
      fun _ => ⟨rfl, rfl, rfl, rfl, Keeps.refl _ _⟩
    exact hfirst.trans ((hpoll _).trans (hprint _))

lemma moves_postLaneRateChange (h : fields (.core, ADXCVR_REG_RESETN) = 0xffffffff) (rateKhz : UInt32) :
    Moves fields x (x.postLaneRateChange rateKhz) := by
  have hfirst : Moves fields x { x with laneRateKhz := rateKhz } := ⟨rfl, rfl, rfl, rfl, Keeps.refl _ _⟩
  exact hfirst.trans (moves_finalizeLaneRateChange h)

lemma read_postLaneRateChange (h : b ≠ .core) (rateKhz : UInt32) :
    (x.postLaneRateChange rateKhz).read b reg = x.read b reg :=
  (moves_postLaneRateChange (if_pos rfl) rateKhz : Moves (fun i => if i.1 = .core then 0xffffffff else 0) _ _).keeps.eq
    (if_neg h)

lemma moves_calibTxLane {lane : ℕ} (hfull : fields (.adxcfg lane, 0) = 0xffffffff)
    (hpma : fields (.adxcfg lane, 0x100) &&& 0x20 = 0x20) (hcapab : fields (.adxcfg lane, 0x281) &&& 0x30 = 0x30) :
    Moves fields x (x.calibTxLane lane) := by
  have hterm : 0x20 &&& XCVR_CALIB_TX_TERM_VOD_EN = XCVR_CALIB_TX_TERM_VOD_EN := rfl
  have hbusy : 0x30 &&& (0x00 ||| XCVR_CAPAB_TX_CAL_BUSY_EN) = 0x00 ||| XCVR_CAPAB_TX_CAL_BUSY_EN := rfl
  apply (moves_acquireArbitration hfull).trans
  apply (moves_update hterm hpma).trans
  apply (moves_update hbusy hcapab).trans
  apply (moves_write hfull).trans
  exact moves_poll _ _

lemma moves_run {pass : AlteraAdxcvr → ℕ → AlteraAdxcvr} {n : ℕ} (h : ∀ t i, i < n → Moves fields t (pass t i)) :
    Moves fields x (Passes.run pass n x) := by
  induction n with
  | zero => exact Moves.refl _ _
  | succ n ih =>
    rw [Passes.run_succ]
    exact (ih fun t i hi => h t i (Nat.lt_succ_of_lt hi)).trans (h _ n (Nat.lt_succ_self n))

section Settings

variable {fvco m lpd lpfd : UInt32}

lemma atxBandFrom_mem (i : ℕ) (bands : List UInt32) :
    atxBandFrom fvco i bands ∈ ([1, 2, 3, 4, 5, 6, 7] : List UInt32) := by
  have hband : ∀ k < 8, UInt32.ofNat (if k ≠ 7 then k + 1 else k) ∈ ([1, 2, 3, 4, 5, 6, 7] : List UInt32) := by
    decide
  induction bands generalizing i with
  | nil => exact List.mem_of_elem_eq_true rfl
  | cons band bands ih =>
    rw [atxBandFrom]
    split
    · exact hband (i % 8) (Nat.mod_lt i (by decide))
    · exact ih (i + 1)

lemma lookupTank_mem : alteraA10AtxLookupTank fvco ∈ ([0, 1, 2] : List UInt32) := by
  unfold alteraA10AtxLookupTank
  split_ifs <;> decide

lemma lookupCpCurrent_mem : alteraA10AtxLookupCpCurrent m ∈ ([0x1a, 0x1c, 0x1d, 0x25, 0x26] : List UInt32) := by
  unfold alteraA10AtxLookupCpCurrent
  split_ifs <;> decide

lemma lookupLfResistance_mem : alteraA10AtxLookupLfResistance m ∈ ([0, 1, 2] : List UInt32) := by
  unfold alteraA10AtxLookupLfResistance
  split_ifs <;> decide

lemma rangeCase_mem {settings : List UInt32} {other : UInt32} {cases : List (UInt32 × UInt32)}
    (hother : other ∈ settings) (h : ∀ c ∈ cases, c.2 ∈ settings) : rangeCase val other cases ∈ settings := by
  induction cases with
  | nil => exact hother
  | cons c cases ih =>
    rw [rangeCase]
    split
    · exact h c List.mem_cons_self
    · exact ih fun d hd => h d (List.mem_cons_of_mem c hd)

lemma lookupVcoSpeed_mem : alteraA10CdrLookupVcoSpeed fvco ∈ ([0, 2, 3] : List UInt32) := by
  unfold alteraA10CdrLookupVcoSpeed
  split_ifs <;> decide

lemma lookupVcoSpeedFix_mem :
    alteraA10CdrLookupVcoSpeedFix fvco ∈ ([60, 74, 90, 116, 150, 159, 174] : List UInt32) := by
  unfold alteraA10CdrLookupVcoSpeedFix
  split_ifs <;> decide

lemma lookupCpCurrentPd_mem : alteraA10CdrLookupCpCurrentPd fvco lpd ∈ ([3, 4] : List UInt32) := by
  unfold alteraA10CdrLookupCpCurrentPd
  split_ifs <;> decide

lemma lookupFastlock_mem : alteraA10CdrLookupFastlock lpd ∈ ([0, 1] : List UInt32) := by
  unfold alteraA10CdrLookupFastlock
  split_ifs <;> decide

lemma lookupClklowDiv_mem (fref : UInt32) : alteraA10CdrLookupClklowDiv fref ∈ ([0, 1] : List UInt32) := by
  unfold alteraA10CdrLookupClklowDiv
  split_ifs <;> decide

lemma lookupLfResistorPd_mem : alteraA10CdrLookupLfResistorPd fvco lpd ∈ ([0, 2, 3] : List UInt32) := by
  unfold alteraA10CdrLookupLfResistorPd
  split_ifs <;> decide

lemma lookupLfResistorPfd_mem : alteraA10CdrLookupLfResistorPfd fvco m lpfd ∈ ([1, 2, 3] : List UInt32) := by
  unfold alteraA10CdrLookupLfResistorPfd
  split_ifs <;> exact rangeCase_mem (by decide) (by decide)

lemma lookupCpCurrentPfd_mem :
    alteraA10CdrLookupCpCurrentPfd fvco m lpfd ∈ ([1, 2, 3, 4] : List UInt32) := by
  unfold alteraA10CdrLookupCpCurrentPfd
  split_ifs <;> exact rangeCase_mem (by decide) (by decide)

lemma encodeN_mem (n : UInt32) : encodeN n ∈ ([0, 1, 2, 3] : List UInt32) := by
  unfold encodeN
  split_ifs <;> decide

lemma encodeL_mem (l : UInt32) : encodeL l ∈ ([0, 1, 2, 3, 4] : List UInt32) := by
  unfold encodeL
  split_ifs <;> decide

lemma decodeN_eq {n div : UInt32} (hn : n ∈ ([1, 2, 4, 8] : List UInt32))
    (h : div &&& 0x0c = encodeN n <<< (2 : UInt32)) : (1 : UInt32) <<< ((div >>> 2) &&& (3 : UInt32)) = n := by
  have hmask : (0x0c : UInt32) >>> (2 : UInt32) = 3 := rfl
  have hshift : (div >>> 2) &&& (3 : UInt32) = (div &&& 0x0c) >>> (2 : UInt32) := by
    rw [UInt32.shiftRight_and, hmask]
  have hall : ∀ n ∈ ([1, 2, 4, 8] : List UInt32), (1 : UInt32) <<< ((encodeN n <<< (2 : UInt32)) >>> (2 : UInt32)) = n := by
    decide
  rw [hshift, h]
  exact hall n hn

end Settings

end AlteraAdxcvr

end NoOS
