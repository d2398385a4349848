import NoOS.Drivers.Adf4350
import NoOS.Lib.Trace

/-!
# The register shadow of the ADF4350

A register is written when its shadow differs. The shadow starts from what `malloc` returns, and whether
register 0 has to follow a double-buffered register is forgotten when a write between them fails.
-/

namespace NoOS
open Trace

/-- No register has bits where its number goes. -/
def Aligned (regs : Fin 6 → UInt32) : Prop := ∀ i, regs i &&& 7 = 0

/-- The word that carries a register. -/
def regWord (regs : Fin 6 → UInt32) (i : Fin 6) : UInt32 := regs i ||| UInt32.ofNat i.val

section Bits

variable {a b c : UInt32}

lemma and_seven_or (ha : a &&& 7 = 0) (hb : b &&& 7 = 0) : (a ||| b) &&& 7 = 0 := by
  have hdistrib : (a ||| b) &&& 7 = (a &&& 7) ||| (b &&& 7) := by
    apply UInt32.toBitVec_inj.mp
    ext i
    simp only [UInt32.toBitVec_and, UInt32.toBitVec_or, BitVec.getElem_and, BitVec.getElem_or]
    grind
  rw [hdistrib, ha, hb]
  rfl

lemma and_seven_and (ha : a &&& 7 = 0) (b : UInt32) : (b &&& a) &&& 7 = 0 := by
  rw [UInt32.and_assoc, ha]
  exact UInt32.and_zero

lemma and_seven_and' (ha : a &&& 7 = 0) (b : UInt32) : (a &&& b) &&& 7 = 0 := by
  rw [UInt32.and_comm a]
  exact and_seven_and ha b

lemma and_seven_shift (x : UInt32) {k : ℕ} (hk : 3 ≤ k) (hk' : k < 32) :
    (x <<< UInt32.ofNat k) &&& 7 = 0 := by
  have hmod : (UInt32.ofNat k).toNat % 32 = k := by
    rw [UInt32.toNat_ofNat_of_lt' (by simp only [UInt32.size]; omega), Nat.mod_eq_of_lt hk']
  apply UInt32.toNat_inj.mp
  rw [UInt32.toNat_and, UInt32.toNat_shiftLeft, hmod, Nat.shiftLeft_eq]
  change x.toNat * 2 ^ k % 2 ^ 32 &&& 2 ^ 3 - 1 = 0
  rw [Nat.and_two_pow_sub_one_eq_mod, Nat.mod_mod_of_dvd _ (Nat.pow_dvd_pow 2 (by decide))]
  exact Nat.mod_eq_zero_of_dvd ((Nat.pow_dvd_pow 2 hk).mul_left _)

lemma and_seven_ite {p : Prop} [Decidable p] (ha : a &&& 7 = 0) (hb : b &&& 7 = 0) :
    (if p then a else b) &&& 7 = 0 := by
  split
  · exact ha
  · exact hb

end Bits

lemma regWord_and {regs : Fin 6 → UInt32} (h : Aligned regs) (i : Fin 6) :
    (regWord regs i &&& 7).toNat = i.val := by
  have hdistrib : regWord regs i &&& 7 = (regs i &&& 7) ||| (UInt32.ofNat i.val &&& 7) := by
    apply UInt32.toBitVec_inj.mp
    ext j
    simp only [regWord, UInt32.toBitVec_and, UInt32.toBitVec_or, BitVec.getElem_and, BitVec.getElem_or]
    grind
  have hnumber : ∀ i : Fin 6, (UInt32.ofNat i.val &&& 7).toNat = i.val := by decide
  rw [hdistrib, h i, UInt32.zero_or, hnumber]

lemma freqRegs_aligned (dev : Adf4350Dev) (high : Bool) (rCnt : UInt16) :
    Aligned (dev.freqRegs (if high then ADF4350_REG1_PRESCALER else 0) rCnt) := by
  intro i
  match i with
  | 0 =>
    apply and_seven_or
    · exact and_seven_shift (k := 15) _ (by decide) (by decide)
    · exact and_seven_shift (k := 3) _ (by decide) (by decide)
  | 1 =>
    apply and_seven_or
    · apply and_seven_or
      · exact and_seven_shift (k := 15) _ (by decide) (by decide)
      · exact and_seven_shift (k := 3) _ (by decide) (by decide)
    · exact and_seven_ite (by decide) (by decide)
  | 2 =>
    apply and_seven_or
    · apply and_seven_or
      · apply and_seven_or
        · apply and_seven_or
          · exact and_seven_shift (k := 14) _ (by decide) (by decide)
          · decide
        · exact and_seven_ite (by decide) (by decide)
      · exact and_seven_ite (by decide) (by decide)
    · exact and_seven_and (by decide) _
  | 3 => exact and_seven_and (by decide) _
  | 4 =>
    apply and_seven_or
    · apply and_seven_or
      · apply and_seven_or
        · apply and_seven_or
          · decide
          · exact and_seven_shift (k := 20) _ (by decide) (by decide)
        · exact and_seven_shift (k := 12) _ (by decide) (by decide)
      · decide
    · exact and_seven_and (by decide) _
  | 5 => exact (by decide : (ADF4350_REG5_LD_PIN_MODE_DIGITAL ||| 0x00180000) &&& 7 = 0)

/-- The shadow of a register is the last word that it has received. -/
def Agrees (dev : Adf4350Dev) (chip : Adf4350Chip) (i : Fin 6) : Prop :=
  chip.words i.val = some (regWord dev.regsHw i)

section Sync

variable {rets : Fin 6 → Int} {dev : Adf4350Dev} {chip : Adf4350Chip} {i j : Fin 6}

lemma receive_words (h : Aligned dev.regs) :
    (chip.receive (regWord dev.regs i)).words = Function.update chip.words i.val (some (regWord dev.regs i)) := by
  change Function.update chip.words (regWord dev.regs i &&& 7).toNat _ = _
  rw [regWord_and h]

/-- The state after a successful write. -/
def Adf4350Dev.wrote (dev : Adf4350Dev) (i : Fin 6) : Adf4350Dev :=
  { dev with val := regWord dev.regs i, regsHw := Function.update dev.regsHw i (dev.regs i) }

lemma agrees_wrote_self (h : Aligned dev.regs) : Agrees (dev.wrote i) (chip.receive (regWord dev.regs i)) i := by
  unfold Agrees
  rw [receive_words h, Function.update_self, regWord, regWord, Adf4350Dev.wrote]
  simp only [Function.update_self]

lemma agrees_wrote_of_ne (h : Aligned dev.regs) (hne : j ≠ i) (hj : Agrees dev chip j) :
    Agrees (dev.wrote i) (chip.receive (regWord dev.regs i)) j := by
  have hval : j.val ≠ i.val := fun hv => hne (Fin.ext hv)
  unfold Agrees
  rw [receive_words h, Function.update_of_ne hval, hj, regWord, regWord, Adf4350Dev.wrote]
  simp only [Function.update_of_ne hne]

/-- A pass of the loop skips the register, fails to write it, or writes it. -/
lemma syncLoop_cons (l : List (Fin 6)) (doublebuf : Bool) :
    ((dev.regsHw i = dev.regs i ∧ ¬(i = 0 ∧ doublebuf = true)) ∧
      syncLoop rets (i :: l) doublebuf dev chip = syncLoop rets l doublebuf dev chip) ∨
    ((dev.regsHw i ≠ dev.regs i ∨ i = 0 ∧ doublebuf = true) ∧
      (rets i < 0 ∧ syncLoop rets (i :: l) doublebuf dev chip =
        (rets i, { dev with val := regWord dev.regs i }, chip) ∨
      0 ≤ rets i ∧ syncLoop rets (i :: l) doublebuf dev chip =
        syncLoop rets l (doublebuf || i == 1 || i == 4) (dev.wrote i)
          (chip.receive (regWord dev.regs i)))) := by
  rw [syncLoop]
  by_cases hwrite : dev.regsHw i ≠ dev.regs i ∨ i = 0 ∧ doublebuf = true
  · refine Or.inr ⟨hwrite, ?_⟩
    rw [if_pos hwrite]
    by_cases hfail : rets i < 0
    · left
      refine ⟨hfail, ?_⟩
      simp only [if_pos hfail, adf4350Write]
      rfl
    · right
      refine ⟨Int.not_lt.mp hfail, ?_⟩
      simp only [if_neg hfail, adf4350Write]
      rfl
  · refine Or.inl ⟨?_, if_neg hwrite⟩
    rw [not_or, not_not] at hwrite
    exact hwrite

lemma syncLoop_regs (l : List (Fin 6)) (doublebuf : Bool) :
    (syncLoop rets l doublebuf dev chip).2.1.regs = dev.regs := by
  induction l generalizing doublebuf dev chip with
  | nil => rfl
  | cons i l ih =>
    rcases @syncLoop_cons rets dev chip i l doublebuf with ⟨-, h⟩ | ⟨-, ⟨-, h⟩ | ⟨-, h⟩⟩
    · rw [h, ih]
    · rw [h]
    · rw [h, ih]
      rfl

lemma syncLoop_agrees (h : Aligned dev.regs) (l : List (Fin 6)) (doublebuf : Bool) (hj : Agrees dev chip j) :
    Agrees (syncLoop rets l doublebuf dev chip).2.1 (syncLoop rets l doublebuf dev chip).2.2 j := by
  induction l generalizing doublebuf dev chip with
  | nil => exact hj
  | cons i l ih =>
    rcases @syncLoop_cons rets dev chip i l doublebuf with ⟨-, h'⟩ | ⟨-, ⟨-, h'⟩ | ⟨-, h'⟩⟩
    · rw [h']
      exact ih h _ hj
    · rw [h']
      exact hj
    · rw [h']
      apply @ih (dev.wrote i) _ h
      by_cases hne : j = i
      · rw [hne]
        exact agrees_wrote_self h
      · exact agrees_wrote_of_ne h hne hj

lemma syncLoop_keeps (l : List (Fin 6)) (doublebuf : Bool) (hj : dev.regsHw j = dev.regs j) :
    (syncLoop rets l doublebuf dev chip).2.1.regsHw j = dev.regs j := by
  induction l generalizing doublebuf dev chip with
  | nil => exact hj
  | cons i l ih =>
    rcases @syncLoop_cons rets dev chip i l doublebuf with ⟨-, h⟩ | ⟨-, ⟨-, h⟩ | ⟨-, h⟩⟩
    · rw [h, ih _ hj]
    · rw [h]
      exact hj
    · rw [h]
      refine @ih (dev.wrote i) _ _ ?_
      change Function.update dev.regsHw i (dev.regs i) j = dev.regs j
      by_cases hne : j = i
      · rw [hne, Function.update_self]
      · rw [Function.update_of_ne hne, hj]

/-- After a success the shadow of every register is the register. It agrees where it did before, and
where it differed. -/
lemma syncLoop_success (h : Aligned dev.regs) (l : List (Fin 6)) (doublebuf : Bool)
    (hret : 0 ≤ (syncLoop rets l doublebuf dev chip).1) (hmem : j ∈ l) :
    (syncLoop rets l doublebuf dev chip).2.1.regsHw j = dev.regs j ∧
      (Agrees dev chip j ∨ dev.regsHw j ≠ dev.regs j →
        Agrees (syncLoop rets l doublebuf dev chip).2.1 (syncLoop rets l doublebuf dev chip).2.2 j) := by
  induction l generalizing doublebuf dev chip with
  | nil => exact absurd hmem List.not_mem_nil
  | cons i l ih =>
    rcases @syncLoop_cons rets dev chip i l doublebuf with ⟨hskip, h'⟩ | ⟨-, ⟨hfail, h'⟩ | ⟨-, h'⟩⟩
    · rw [h'] at hret ⊢
      rcases List.mem_cons.mp hmem with rfl | hmem
      · refine ⟨syncLoop_keeps l doublebuf hskip.1, fun hj => syncLoop_agrees h l doublebuf ?_⟩
        exact hj.resolve_right fun hne => hne hskip.1
      · exact ih h doublebuf hret hmem
    · rw [h'] at hret
      exact absurd hret (Int.not_le.mpr hfail)
    · rw [h'] at hret ⊢
      by_cases hne : j = i
      · subst hne
        refine ⟨@syncLoop_keeps rets (dev.wrote j) _ _ l _ (Function.update_self j _ _), fun _ => ?_⟩
        exact @syncLoop_agrees rets (dev.wrote j) _ _ h l _ (agrees_wrote_self h)
      · have hkeep : (dev.wrote i).regsHw j = dev.regsHw j := Function.update_of_ne hne _ _
        obtain ⟨hdone, hagrees⟩ := @ih (dev.wrote i) _ h _ hret ((List.mem_cons.mp hmem).resolve_left hne)
        refine ⟨hdone, fun hj => hagrees ?_⟩
        rcases hj with hj | hj
        · exact Or.inl (agrees_wrote_of_ne h hne hj)
        · right
          rw [hkeep]
          exact hj

lemma receive_pending (h : Aligned dev.regs) : (chip.receive (regWord dev.regs i)).pending = true ↔
    (i = 1 ∨ i = 4) ∨ chip.pending = true ∧ i ≠ 0 := by
  have hone : i = 1 ↔ i.val = 1 := Fin.ext_iff
  have hfour : i = 4 ↔ i.val = 4 := Fin.ext_iff
  have hzero : i = 0 ↔ i.val = 0 := Fin.ext_iff
  rw [hone, hfour, ne_eq, hzero, Adf4350Chip.receive, regWord_and h]
  simp

/-- Register 0 follows at the end unless it is owed from before and nothing reminds of it. -/
lemma syncLoop_pending (h : Aligned dev.regs) (l : List (Fin 6)) (hl : 0 ∉ l) (doublebuf : Bool)
    (hret : 0 ≤ (syncLoop rets (l ++ [0]) doublebuf dev chip).1)
    (hremind : chip.pending = true → doublebuf = true ∨ dev.regsHw 0 ≠ dev.regs 0 ∨
      ∃ i ∈ l, (i = 1 ∨ i = 4) ∧ dev.regsHw i ≠ dev.regs i) :
    (syncLoop rets (l ++ [0]) doublebuf dev chip).2.2.pending = false := by
  induction l generalizing doublebuf dev chip with
  | nil =>
    rw [List.nil_append] at hret ⊢
    rcases @syncLoop_cons rets dev chip 0 [] doublebuf with ⟨hskip, h'⟩ | ⟨-, ⟨hfail, h'⟩ | ⟨-, h'⟩⟩
    · rw [h']
      by_contra hpending
      rcases hremind (Bool.not_eq_false _ ▸ hpending) with hbuf | hne | ⟨i, hi, -⟩
      · exact hskip.2 ⟨rfl, hbuf⟩
      · exact hne hskip.1
      · exact absurd hi List.not_mem_nil
    · rw [h'] at hret
      exact absurd hret (Int.not_le.mpr hfail)
    · rw [h']
      apply Bool.eq_false_iff.mpr
      intro hpending
      rcases (receive_pending h).mp hpending with hnumber | ⟨-, hzero⟩
      · exact absurd hnumber (by decide)
      · exact hzero rfl
  | cons i l ih =>
    obtain ⟨hi, hl⟩ := not_or.mp (mt List.mem_cons.mpr hl)
    rw [List.cons_append] at hret ⊢
    rcases @syncLoop_cons rets dev chip i (l ++ [0]) doublebuf with ⟨hskip, h'⟩ | ⟨-, ⟨hfail, h'⟩ | ⟨-, h'⟩⟩
    · rw [h'] at hret ⊢
      refine ih h hl doublebuf hret fun hpending => ?_
      rcases hremind hpending with hbuf | hne | ⟨k, hk, hnumber, hne⟩
      · exact Or.inl hbuf
      · exact Or.inr (Or.inl hne)
      · rcases List.mem_cons.mp hk with rfl | hk
        · exact absurd hskip.1 hne
        · exact Or.inr (Or.inr ⟨k, hk, hnumber, hne⟩)
    · rw [h'] at hret
      exact absurd hret (Int.not_le.mpr hfail)
    · rw [h'] at hret ⊢
      refine @ih (dev.wrote i) _ h hl _ hret fun hpending => ?_
      have hkeep : ∀ k, k ≠ i → (dev.wrote i).regsHw k = dev.regsHw k :=
        fun k hk => Function.update_of_ne hk _ _
      by_cases hdouble : i = 1 ∨ i = 4
      · left
        rcases hdouble with rfl | rfl
        · simp
        · simp
      · obtain ⟨hpending, -⟩ := ((receive_pending h).mp hpending).resolve_left hdouble
        rcases hremind hpending with hbuf | hne | ⟨k, hk, hnumber, hne⟩
        · left
          rw [hbuf]
          rfl
        · right; left
          rw [hkeep 0 hi]
          exact hne
        · right; right
          have hki : k ≠ i := by
            rintro rfl
            exact hdouble hnumber
          refine ⟨k, (List.mem_cons.mp hk).resolve_left hki, hnumber, ?_⟩
          rw [hkeep k hki]
          exact hne

end Sync

end NoOS
