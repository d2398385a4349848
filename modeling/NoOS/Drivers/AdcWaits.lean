import NoOS.Lib.Loops
import NoOS.Lib.Word

/-!
# The waits of the AD7124 and the AD717x

The functions poll a register until a bit of it is clear. Three of them count down before the test, so that a timeout of 0
wraps, and one counts down after it, so that the counter wraps when it is used up.
-/

namespace NoOS
open Polling

namespace AdcWaits

def INVALID_VAL : Int := -1
def TIMEOUT : Int := -3

/-- What a read of the register returns, and the value that it leaves there. -/
structure Read where
  ret : Int
  value : Int32

/-- The reads that the device answers, one after the other. -/
abbrev Reads : Type := ℕ → Read

variable (reads : Reads) (ready : Int32 → Bool)

/-- `while(!ready && --timeout)` and `return timeout ? 0 : TIMEOUT`, with the number of reads so far. -/
def whileDown (isReady : Bool) (timeout : UInt32) (n : ℕ) : ℕ × Int :=
  if isReady then (n, if timeout ≠ 0 then 0 else TIMEOUT)
  else
    let timeout := timeout - 1
    if timeout = 0 then (n, if timeout ≠ 0 then 0 else TIMEOUT)
    else if (reads n).ret < 0 then (n + 1, (reads n).ret)
    else whileDown (ready (reads n).value) timeout (n + 1)
termination_by (timeout - 1).toNat
decreasing_by
  have hsub := Word.toNat_sub_one_add_one (a := timeout) (by assumption)
  change (timeout - 1).toNat < timeout.toNat
  lia

/-- `while(!powered_on && timeout--)` and `return (timeout || powered_on) ? 0 : TIMEOUT` -/
def whilePost (poweredOn : Bool) (timeout : UInt32) (n : ℕ) : ℕ × Int :=
  if poweredOn then (n, if timeout ≠ 0 ∨ poweredOn then 0 else TIMEOUT)
  else if timeout = 0 then (n, if timeout - 1 ≠ 0 ∨ poweredOn then 0 else TIMEOUT)
  else if (reads n).ret < 0 then (n + 1, (reads n).ret)
  else whilePost (ready (reads n).value) (timeout - 1) (n + 1)
termination_by timeout.toNat
decreasing_by
  have hsub := Word.toNat_sub_one_add_one (a := timeout) (by assumption)
  lia

end AdcWaits
open AdcWaits

def AD7124_ERR_REG_SPI_IGNORE_ERR : Int32 := (1 : Int32) <<< 6
def AD7124_STATUS_REG_POR_FLAG : Int32 := (1 : Int32) <<< 4
def AD7124_STATUS_REG_RDY : Int32 := (1 : Int32) <<< 7
def AD717X_STATUS_REG : UInt8 := 0x00
def AD717X_STATUS_REG_RDY : Int32 := (1 : Int32) <<< 7

/-- The bits of `mask` are clear. -/
def AdcWaits.clear (mask value : Int32) : Bool := value &&& mask = 0

/-- The waits return how many reads there were and their code. Without a device there are none. -/
def ad7124WaitForSpiReady (dev : Option Reads) (timeout : UInt32) : ℕ × Int :=
  match dev with
  | none => (0, INVALID_VAL)
  | some reads => whileDown reads (clear AD7124_ERR_REG_SPI_IGNORE_ERR) false timeout 0

def ad7124WaitToPowerOn (dev : Option Reads) (timeout : UInt32) : ℕ × Int :=
  match dev with
  | none => (0, INVALID_VAL)
  | some reads => whilePost reads (clear AD7124_STATUS_REG_POR_FLAG) false timeout 0

def ad7124WaitForConvReady (dev : Option Reads) (timeout : UInt32) : ℕ × Int :=
  match dev with
  | none => (0, INVALID_VAL)
  | some reads => whileDown reads (clear AD7124_STATUS_REG_RDY) false timeout 0

/-- The addresses of the registers of a device, and the reads of its status register. -/
structure Ad717xDev where
  regs : Option (List UInt8)
  reads : Reads

/-- Whether `AD717X_GetReg` finds the register -/
def Ad717xDev.getReg (device : Ad717xDev) (regAddress : UInt8) : Bool :=
  match device.regs with
  | none => false
  | some regs => regs.any fun addr => addr = regAddress

def ad717xWaitForReady (device : Option Ad717xDev) (timeout : UInt32) : ℕ × Int :=
  match device with
  | none => (0, INVALID_VAL)
  | some device =>
    if device.regs.isNone then (0, INVALID_VAL)
    else if !device.getReg AD717X_STATUS_REG then (0, INVALID_VAL)
    else whileDown device.reads (clear AD717X_STATUS_REG_RDY) false timeout 0

namespace AdcWaits

/-- The wait makes no more than `timeout` reads, and it returns 0 only if the last read has succeeded and is ready, the
error of a read that failed, and the timeout otherwise. -/
structure Honest (reads : Reads) (ready : Int32 → Bool) (timeout : UInt32) (result : ℕ × Int) : Prop where
  reads_le : result.1 ≤ timeout.toNat
  ready_of_zero : result.2 = 0 → ∃ k, result.1 = k + 1 ∧ 0 ≤ (reads k).ret ∧ ready (reads k).value
  error : ∀ i < result.1, (reads i).ret < 0 → result.2 = (reads i).ret
  timeout : (∀ i < result.1, 0 ≤ (reads i).ret) → result.2 ≠ 0 → result.2 = TIMEOUT

variable {reads : Reads} {ready : Int32 → Bool} {timeout : UInt32} {budget n m : ℕ}

/-- A read that fails, and one that is ready, ends the wait. -/
def answer (reads : Reads) (ready : Int32 → Bool) (n : ℕ) : Option Int :=
  if (reads n).ret < 0 then some (reads n).ret else if ready (reads n).value then some 0 else none

/-- Counting down before the test makes one read less than the timeout, or nearly `2 ^ 32` of them. -/
lemma whileDown_eq : whileDown reads ready false timeout n =
    ((poll (answer reads ready) (timeout - 1).toNat n).1, (poll (answer reads ready) (timeout - 1).toNat n).2.getD TIMEOUT) := by
  induction hb : (timeout - 1).toNat generalizing timeout n with
  | zero =>
    have hzero : timeout - 1 = 0 := UInt32.toNat_inj.mp hb
    rw [whileDown]
    simp only [Bool.false_eq_true, if_false, hzero, if_true, ne_eq, not_true_eq_false, poll, Option.getD_none]
  | succ budget ih =>
    have hne : timeout - 1 ≠ 0 := Word.ne_zero_of_pos (by lia)
    have hnext : (timeout - 1 - 1).toNat = budget := by
      have hsub := Word.toNat_sub_one_add_one hne
      lia
    rw [whileDown]
    simp only [Bool.false_eq_true, if_false, hne]
    by_cases hfail : (reads n).ret < 0
    · have hans : answer reads ready n = some (reads n).ret := if_pos hfail
      rw [if_pos hfail, poll_some hans, Option.getD_some]
    · cases hready : ready (reads n).value with
      | true =>
        have hans : answer reads ready n = some 0 := by rw [answer, if_neg hfail, hready, if_pos rfl]
        rw [if_neg hfail, poll_some hans, whileDown, if_pos rfl, if_pos hne, Option.getD_some]
      | false =>
        have hans : answer reads ready n = none := by rw [answer, if_neg hfail, hready]; rfl
        rw [if_neg hfail, poll_none hans]
        exact ih hnext

/-- Counting down after the test makes as many reads as the timeout says, but then the counter has wrapped. -/
lemma whilePost_eq : whilePost reads ready false timeout n =
    ((poll (answer reads ready) timeout.toNat n).1, (poll (answer reads ready) timeout.toNat n).2.getD 0) := by
  induction hb : timeout.toNat generalizing timeout n with
  | zero =>
    have hzero : timeout = 0 := UInt32.toNat_inj.mp hb
    have hwrap : (0 : UInt32) - 1 ≠ 0 := by decide
    rw [whilePost, hzero]
    simp only [Bool.false_eq_true, if_false, if_true, hwrap, ne_eq, not_false_eq_true, true_or, poll, Option.getD_none]
  | succ budget ih =>
    have hne : timeout ≠ 0 := Word.ne_zero_of_pos (by lia)
    have hnext : (timeout - 1).toNat = budget := by
      have hsub := Word.toNat_sub_one_add_one hne
      lia
    rw [whilePost]
    simp only [Bool.false_eq_true, if_false, hne]
    by_cases hfail : (reads n).ret < 0
    · have hans : answer reads ready n = some (reads n).ret := if_pos hfail
      rw [if_pos hfail, poll_some hans, Option.getD_some]
    · cases hready : ready (reads n).value with
      | true =>
        have hans : answer reads ready n = some 0 := by rw [answer, if_neg hfail, hready, if_pos rfl]
        rw [if_neg hfail, poll_some hans, whilePost, if_pos rfl, if_pos (Or.inr rfl), Option.getD_some]
      | false =>
        have hans : answer reads ready n = none := by rw [answer, if_neg hfail, hready]; rfl
        rw [if_neg hfail, poll_none hans]
        exact ih hnext

lemma nonneg_of_none {k : ℕ} (h : answer reads ready k = none) : 0 ≤ (reads k).ret ∧ ready (reads k).value = false := by
  rw [answer] at h
  split_ifs at h with hfail hready
  exact ⟨Int.not_lt.mp hfail, Bool.not_eq_true _ ▸ hready⟩

/-- A wait that ends with an answer within its timeout is honest. -/
lemma honest_of_answer {r : Int} (h : poll (answer reads ready) budget 0 = (m, some r)) (hle : budget ≤ timeout.toNat) :
    Honest reads ready timeout (m, r) := by
  have hreads := @poll_le _ (answer reads ready) budget 0
  obtain ⟨k, rfl, -, hans, hbefore⟩ := answer_of_poll h
  rw [h] at hreads
  have hquiet : ∀ i < k + 1, (reads i).ret < 0 → i = k := by
    intro i hi hfail
    by_contra hne
    exact absurd (nonneg_of_none (hbefore i (Nat.zero_le i) (by lia))).1 (Int.not_le.mpr hfail)
  rw [answer] at hans
  split_ifs at hans with hfail hready
  · have hr : (reads k).ret = r := Option.some_inj.mp hans
    refine ⟨by lia, fun hzero => ?_, fun i hi hlt => ?_, fun hall _ => ?_⟩
    · exact absurd (hr.trans hzero) hfail.ne
    · rw [hquiet i hi hlt]
      exact hr.symm
    · exact absurd (hall k (Nat.lt_succ_self k)) (Int.not_le.mpr hfail)
  · have hr : 0 = r := Option.some_inj.mp hans
    refine ⟨by lia, fun _ => ⟨k, rfl, Int.not_lt.mp hfail, hready⟩, fun i hi hlt => ?_, fun _ hne => ?_⟩
    · rw [hquiet i hi hlt] at hlt
      exact absurd hlt hfail
    · exact absurd hr.symm hne

/-- One that has used its budget up without an answer is honest if it returns the timeout. -/
lemma honest_of_none (h : poll (answer reads ready) budget 0 = (m, none)) (hle : budget ≤ timeout.toNat) :
    Honest reads ready timeout (m, TIMEOUT) := by
  obtain ⟨hm, hall⟩ := none_of_poll h
  refine ⟨by lia, fun hzero => absurd (show TIMEOUT = 0 from hzero) (by decide), fun i hi hlt => ?_,
    fun _ _ => rfl⟩
  exact absurd (nonneg_of_none (hall i (Nat.zero_le i) hi)).1 (Int.not_le.mpr hlt)

lemma whileDown_honest_iff : Honest reads ready timeout (whileDown reads ready false timeout 0) ↔ timeout ≠ 0 := by
  rw [whileDown_eq]
  constructor
  · rintro h rfl
    have hle := h.reads_le
    have hbudget : ((0 : UInt32) - 1).toNat = 2 ^ 32 - 2 + 1 := rfl
    rw [hbudget] at hle
    cases hans : answer reads ready 0 with
    | some r =>
      rw [poll_some hans] at hle
      exact absurd hle (Nat.not_succ_le_zero 0)
    | none =>
      rcases hp : poll (answer reads ready) (2 ^ 32 - 2 + 1) 0 with ⟨m, r | r⟩
      · obtain ⟨hm, -⟩ := none_of_poll hp
        rw [hp, hm] at hle
        exact absurd hle (by decide)
      · obtain ⟨k, hm, -⟩ := answer_of_poll hp
        rw [hp, hm] at hle
        exact absurd hle (Nat.not_succ_le_zero k)
  · intro hne
    have hsub := Word.toNat_sub_one_add_one hne
    rcases hp : poll (answer reads ready) (timeout - 1).toNat 0 with ⟨m, r | r⟩
    · exact honest_of_none hp (by lia)
    · exact honest_of_answer hp (by omega)

lemma whilePost_honest_iff : Honest reads ready timeout (whilePost reads ready false timeout 0) ↔
    ∃ k < timeout.toNat, (reads k).ret < 0 ∨ ready (reads k).value := by
  rw [whilePost_eq]
  rcases hp : poll (answer reads ready) timeout.toNat 0 with ⟨m, r | r⟩
  · obtain ⟨hm, hall⟩ := none_of_poll hp
    have hquiet : ∀ k < timeout.toNat, 0 ≤ (reads k).ret ∧ ready (reads k).value = false :=
      fun k hk => nonneg_of_none (hall k (Nat.zero_le k) (by lia))
    constructor
    · intro h
      obtain ⟨k, hk, -, hready⟩ := h.ready_of_zero rfl
      have hk : m = k + 1 := hk
      exact ⟨k, by lia, Or.inr hready⟩
    · rintro ⟨k, hk, hfail | hready⟩
      · exact absurd (hquiet k hk).1 (Int.not_le.mpr hfail)
      · rw [(hquiet k hk).2] at hready
        cases hready
  · refine iff_of_true (honest_of_answer hp le_rfl) ?_
    have hreads := @poll_le _ (answer reads ready) timeout.toNat 0
    obtain ⟨k, rfl, -, hans, -⟩ := answer_of_poll hp
    rw [hp] at hreads
    refine ⟨k, by omega, ?_⟩
    by_contra hcon
    obtain ⟨hfail, hready⟩ := not_or.mp hcon
    rw [answer, if_neg hfail, if_neg hready] at hans
    cases hans

end AdcWaits

/-- The waits that count down before the test are honest except for a timeout of 0, and the wait for the power-on exactly
if one of the reads that its timeout allows fails or shows that the device is on. -/
theorem adcWaits_honest_iff (reads : Reads) (regs : List UInt8) (hstatus : AD717X_STATUS_REG ∈ regs) (timeout : UInt32) :
    (Honest reads (clear AD7124_ERR_REG_SPI_IGNORE_ERR) timeout (ad7124WaitForSpiReady (some reads) timeout) ↔
      timeout ≠ 0) ∧
    (Honest reads (clear AD7124_STATUS_REG_POR_FLAG) timeout (ad7124WaitToPowerOn (some reads) timeout) ↔
      ∃ k < timeout.toNat, (reads k).ret < 0 ∨ clear AD7124_STATUS_REG_POR_FLAG (reads k).value) ∧
    (Honest reads (clear AD7124_STATUS_REG_RDY) timeout (ad7124WaitForConvReady (some reads) timeout) ↔ timeout ≠ 0) ∧
    (Honest reads (clear AD717X_STATUS_REG_RDY) timeout (ad717xWaitForReady (some ⟨some regs, reads⟩) timeout) ↔
      timeout ≠ 0) := by
  have hreg : Ad717xDev.getReg ⟨some regs, reads⟩ AD717X_STATUS_REG = true :=
    List.any_eq_true.mpr ⟨_, hstatus, decide_eq_true rfl⟩
  have hwait : ad717xWaitForReady (some ⟨some regs, reads⟩) timeout =
      whileDown reads (clear AD717X_STATUS_REG_RDY) false timeout 0 := by
    rw [ad717xWaitForReady]
    simp only [Option.isNone_some, Bool.false_eq_true, if_false, hreg, Bool.not_true]
  rw [hwait]
  exact ⟨whileDown_honest_iff, whilePost_honest_iff, whileDown_honest_iff, whileDown_honest_iff⟩

/-- A device that shows its power-on and a conversion that is not ready until its fourth status -/
def lateReads (k : ℕ) : Read := if k < 3 then ⟨0, 0x90⟩ else ⟨0, 0⟩

theorem adcWaits_honest_ready :
    Honest lateReads (clear AD7124_STATUS_REG_POR_FLAG) 1000 (ad7124WaitToPowerOn (some lateReads) 1000) ∧
      Honest lateReads (clear AD7124_STATUS_REG_RDY) 1000 (ad7124WaitForConvReady (some lateReads) 1000) := by
  obtain ⟨-, hpower, hconv, -⟩ := adcWaits_honest_iff lateReads [0x00] (by decide) 1000
  exact ⟨hpower.mpr ⟨3, by decide, Or.inr (by decide)⟩, hconv.mpr (by decide)⟩

/-- With a timeout of 0 the wait for the power-on returns 0 without a read. -/
theorem not_adcWaits_honest : ¬∀ (reads : Reads) (timeout : UInt32),
    Honest reads (clear AD7124_STATUS_REG_POR_FLAG) timeout (ad7124WaitToPowerOn (some reads) timeout) := by
  intro h
  obtain ⟨k, hk, -⟩ := whilePost_honest_iff.mp (h (fun _ => ⟨0, 0x10⟩) 0)
  exact absurd hk (Nat.not_lt_zero k)

end NoOS
