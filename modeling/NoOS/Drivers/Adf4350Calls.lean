import NoOS.Drivers.Adf4350Shadow

/-!
# Runs of the ADF4350

A run starts before the first setup, with a synthesizer in any state.
-/

namespace NoOS
open Trace

inductive Adf4350Call
  | setup (mem : Adf4350Dev) (p : Adf4350InitParam) (rets : Fin 6 → Int)
  | frequency (hz : Int64) (rets : Fin 6 → Int)
  | resolution (hz : Int32)
  | refin (hz : Int64)
  | powerdown (pwd : Int32) (rets : Fin 6 → Int)

/-- The device, the synthesizer, and whether the last synchronisation of the device succeeded. -/
structure Adf4350System where
  dev : Option Adf4350Dev
  chip : Adf4350Chip
  synced : Bool

namespace Adf4350System

def after (s : Adf4350System) (r : Adf4350Result) : Adf4350System where
  dev := some r.dev
  chip := r.chip
  synced := (r.sync.map fun ret => decide (0 ≤ ret)).getD s.synced

/-- Without a device there is only the setup to be called. -/
def step (fuel : ℕ) (s : Adf4350System) (c : Adf4350Call) : Except Adf4350Fault Adf4350System :=
  match c, s.dev with
  | .setup mem p rets, _ => (adf4350Setup fuel rets mem p s.chip).map { s with synced := false }.after
  | _, none => .ok s
  | .frequency hz rets, some dev =>
    (adf4350OutAltvoltage0Frequency fuel rets dev hz s.chip).map s.after
  | .resolution hz, some dev => .ok { s with dev := some (adf4350OutAltvoltage0FrequencyResolution dev hz).2 }
  | .refin hz, some dev => .ok { s with dev := some (adf4350OutAltvoltage0RefinFrequency dev hz).2 }
  | .powerdown pwd rets, some dev => .ok (s.after (adf4350OutAltvoltage0Powerdown rets dev pwd s.chip))

/-- The shadow of each register is the last word that the register has received. -/
def Shadowed (s : Adf4350System) : Prop := ∀ dev, s.dev = some dev → ∀ i, Agrees dev s.chip i

/-- After a successful synchronisation the synthesizer holds the registers, and register 0 has followed
the double-buffered ones. -/
def Held (s : Adf4350System) : Prop :=
  s.synced = true → ∀ dev, s.dev = some dev →
    (∀ i : Fin 6, s.chip.words i.val = some (regWord dev.regs i)) ∧ s.chip.pending = false

local instance neZeroRegs : NeZero 6 := ⟨by decide⟩

/-- Register 0 is not owed, or a register that makes it be written has changed, or a write fails. -/
def Reminded (chip : Adf4350Chip) (rets : Fin 6 → Int) (dev : Adf4350Dev) : Prop :=
  chip.pending = true →
    (dev.regsHw 0 ≠ dev.regs 0 ∨ dev.regsHw 1 ≠ dev.regs 1 ∨ dev.regsHw 4 ≠ dev.regs 4) ∨
      ∃ i, dev.regsHw i ≠ dev.regs i ∧ rets i < 0

/-- The setup writes all registers: the frequency is in range, what the memory has as the shadow differs
from what is wanted, and no write fails. Later calls do not forget a register 0 that is owed. -/
def Allowed (fuel : ℕ) (s : Adf4350System) : Adf4350Call → Prop
  | .setup mem p rets =>
    ∀ r, adf4350FreqRegs fuel (p.dev mem) (p.dev mem).pdata.powerUpFrequency.toInt64.toUInt64 = .ok r →
      ∃ dev, r = some dev ∧ ∀ i, dev.regsHw i ≠ dev.regs i ∧ 0 ≤ rets i
  | .frequency hz rets => ∀ dev dev', s.dev = some dev →
    adf4350FreqRegs fuel dev hz.toUInt64 = .ok (some dev') → Reminded s.chip rets dev'
  | .powerdown pwd rets => ∀ dev dev', s.dev = some dev →
    dev.powerRegs pwd = some dev' → Reminded s.chip rets dev'
  | _ => True

/-- What a run keeps. -/
structure Sound (s : Adf4350System) : Prop where
  aligned : ∀ dev, s.dev = some dev → Aligned dev.regs
  shadowed : s.Shadowed
  held : s.Held

end Adf4350System

lemma tuneRCnt_regsHw (n : ℕ) {dev : Adf4350Dev} {rCnt : UInt16} {r : Adf4350Dev × UInt16}
    (h : adf4350TuneRCnt n dev rCnt = .ok r) : r.1.regsHw = dev.regsHw := by
  induction n generalizing dev rCnt with
  | zero => simp [adf4350TuneRCnt] at h
  | succ n ih =>
    rw [adf4350TuneRCnt] at h
    split_ifs at h
    · rw [ih h]
      rfl
    · rw [← Except.ok.inj h]
      rfl

lemma findDividers_regsHw {freq : UInt64} {mdiv : UInt32} (n : ℕ) {dev : Adf4350Dev} {rCnt : UInt16}
    {chspc : UInt32} {r : Adf4350Dev × UInt16} (h : adf4350FindDividers freq mdiv n dev rCnt chspc = .ok r) :
    r.1.regsHw = dev.regsHw := by
  induction n generalizing dev rCnt chspc with
  | zero => simp [adf4350FindDividers] at h
  | succ n ih =>
    rw [adf4350FindDividers] at h
    rcases htune : adf4350TuneRCnt 65536 dev rCnt with f | ⟨dev', rCnt'⟩
    · rw [htune] at h
      simp at h
    · rw [htune] at h
      have hkeep := tuneRCnt_regsHw _ htune
      dsimp only at h hkeep
      split_ifs at h
      · exact (ih h).trans hkeep
      · exact (ih h).trans hkeep
      · exact (ih h).trans hkeep
      · rw [← Except.ok.inj h]
        exact hkeep

lemma reduceFract_regsHw (dev : Adf4350Dev) : dev.reduceFract.regsHw = dev.regsHw := by
  unfold Adf4350Dev.reduceFract
  split_ifs <;> rfl

/-- The frequency does not touch the shadow, and the registers for it are aligned. -/
lemma freqRegs_spec {fuel : ℕ} {dev dev' : Adf4350Dev} {freq : UInt64}
    (h : adf4350FreqRegs fuel dev freq = .ok (some dev')) :
    dev'.regsHw = dev.regsHw ∧ Aligned dev'.regs := by
  unfold adf4350FreqRegs at h
  split at h
  · simp at h
  · rcases hfind : adf4350FindDividers (vcoDoublings 64 freq 0).1 (if highPrescaler freq then 75 else 23) fuel
      { dev with r4RfDivSel := (vcoDoublings 64 freq 0).2 } dev.firstRCnt dev.chspc with f | found
    · simp only [hfind] at h
      cases h
    · simp only [hfind] at h
      obtain rfl := Option.some.inj (Except.ok.inj h)
      have hkeep := findDividers_regsHw fuel hfind
      exact ⟨(reduceFract_regsHw _).trans hkeep, freqRegs_aligned _ _ _⟩

/-- The option for the power does not touch the shadow, and keeps the registers aligned. -/
lemma powerRegs_spec {dev dev' : Adf4350Dev} {pwd : Int32} (h : dev.powerRegs pwd = some dev')
    (haligned : Aligned dev.regs) : dev'.regsHw = dev.regsHw ∧ Aligned dev'.regs := by
  have hupdate : ∀ reg2 : UInt32, reg2 &&& 7 = 0 → Aligned (Function.update dev.regs 2 reg2) := by
    intro reg2 hreg i
    by_cases hi : i = 2
    · rw [hi, Function.update_self, hreg]
    · rw [Function.update_of_ne hi, haligned]
  unfold Adf4350Dev.powerRegs at h
  split_ifs at h
  · obtain rfl := Option.some.inj h
    exact ⟨rfl, hupdate _ (and_seven_or (haligned 2) (by decide))⟩
  · obtain rfl := Option.some.inj h
    exact ⟨rfl, hupdate _ (and_seven_and' (haligned 2) _)⟩

section Sync

variable {rets : Fin 6 → Int} {dev : Adf4350Dev} {chip : Adf4350Chip} {j : Fin 6}

lemma syncLoop_ret_neg (l : List (Fin 6)) (doublebuf : Bool) (hmem : j ∈ l)
    (hj : dev.regsHw j ≠ dev.regs j) (hneg : rets j < 0) : (syncLoop rets l doublebuf dev chip).1 < 0 := by
  induction l generalizing doublebuf dev chip with
  | nil => exact absurd hmem List.not_mem_nil
  | cons i l ih =>
    rcases @syncLoop_cons rets dev chip i l doublebuf with ⟨hskip, h⟩ | ⟨-, ⟨hfail, h⟩ | ⟨hok, h⟩⟩
    · rw [h]
      apply ih _ _ hj
      apply (List.mem_cons.mp hmem).resolve_left
      rintro rfl
      exact hj hskip.1
    · rw [h]
      exact hfail
    · rw [h]
      have hne : j ≠ i := by
        rintro rfl
        exact absurd hneg (Int.not_lt.mpr hok)
      apply ih _ ((List.mem_cons.mp hmem).resolve_left hne)
      change Function.update dev.regsHw i (dev.regs i) j ≠ dev.regs j
      rwa [Function.update_of_ne hne]

lemma syncLoop_ret_nonneg (l : List (Fin 6)) (doublebuf : Bool) (h : ∀ i, 0 ≤ rets i) :
    0 ≤ (syncLoop rets l doublebuf dev chip).1 := by
  induction l generalizing doublebuf dev chip with
  | nil => exact le_refl 0
  | cons i l ih =>
    rcases @syncLoop_cons rets dev chip i l doublebuf with ⟨-, h'⟩ | ⟨-, ⟨hfail, -⟩ | ⟨-, h'⟩⟩
    · rw [h']
      exact ih _
    · exact absurd hfail (Int.not_lt.mpr (h i))
    · rw [h']
      exact ih _

/-- The state after a synchronisation. -/
def syncedSystem (rets : Fin 6 → Int) (dev : Adf4350Dev) (chip : Adf4350Chip) : Adf4350System :=
  let r := adf4350SyncConfig rets dev chip
  ⟨some r.2.1, r.2.2, decide (0 ≤ r.1)⟩

lemma mem_order (i : Fin 6) : i ∈ ([5, 4, 3, 2, 1, 0] : List (Fin 6)) := by
  revert i
  decide

/-- A shadow that agrees, or differs where every write succeeds, agrees after the synchronisation. -/
lemma sound_sync (haligned : Aligned dev.regs)
    (hagrees : ∀ i, Agrees dev chip i ∨ 0 ≤ (adf4350SyncConfig rets dev chip).1 ∧ dev.regsHw i ≠ dev.regs i)
    (hremind : Adf4350System.Reminded chip rets dev) : (syncedSystem rets dev chip).Sound := by
  constructor
  · intro dev' hdev
    obtain rfl := Option.some.inj hdev
    rw [adf4350SyncConfig, syncLoop_regs]
    exact haligned
  · intro dev' hdev i
    obtain rfl := Option.some.inj hdev
    rcases hagrees i with hi | ⟨hret, hi⟩
    · exact syncLoop_agrees haligned _ _ hi
    · exact (syncLoop_success haligned _ _ hret (mem_order i)).2 (Or.inr hi)
  · intro hsynced dev' hdev
    obtain rfl := Option.some.inj hdev
    have hret : 0 ≤ (adf4350SyncConfig rets dev chip).1 := of_decide_eq_true hsynced
    constructor
    · intro i
      obtain ⟨hdone, hagree⟩ := syncLoop_success haligned _ _ hret (mem_order i)
      have hword := hagree ((hagrees i).imp_right And.right)
      rw [Agrees, regWord, hdone] at hword
      change (adf4350SyncConfig rets dev chip).2.2.words i.val = _
      rw [regWord, adf4350SyncConfig, syncLoop_regs]
      exact hword
    · apply syncLoop_pending haligned [5, 4, 3, 2, 1] (by decide) false hret
      intro hpending
      rcases hremind hpending with (hne | hne | hne) | ⟨i, hne, hneg⟩
      · exact Or.inr (Or.inl hne)
      · exact Or.inr (Or.inr ⟨1, by decide, Or.inl rfl, hne⟩)
      · exact Or.inr (Or.inr ⟨4, by decide, Or.inr rfl, hne⟩)
      · exact absurd hret (Int.not_le.mpr (syncLoop_ret_neg _ _ (mem_order i) hne hneg))

end Sync

namespace Adf4350System

variable {fuel : ℕ} {s : Adf4350System} {c : Adf4350Call}

lemma setFreq_cases (rets : Fin 6 → Int) (dev : Adf4350Dev) (freq : UInt64) (chip : Adf4350Chip) :
    (∃ f, adf4350SetFreq fuel rets dev freq chip = .error f) ∨
    (adf4350FreqRegs fuel dev freq = .ok none ∧
      adf4350SetFreq fuel rets dev freq chip = .ok ⟨none, -1, dev, chip⟩) ∨
    ∃ wanted ret, adf4350FreqRegs fuel dev freq = .ok (some wanted) ∧
      adf4350SetFreq fuel rets dev freq chip =
        .ok ⟨some (adf4350SyncConfig rets wanted chip).1, ret, (adf4350SyncConfig rets wanted chip).2.1,
          (adf4350SyncConfig rets wanted chip).2.2⟩ := by
  unfold adf4350SetFreq
  rcases adf4350FreqRegs fuel dev freq with f | (_ | wanted)
  · exact Or.inl ⟨f, rfl⟩
  · exact Or.inr (Or.inl ⟨rfl, rfl⟩)
  · exact Or.inr (Or.inr ⟨wanted, _, rfl, rfl⟩)

lemma Sound.of_regs_eq {dev dev' : Adf4350Dev} {chip : Adf4350Chip} {synced : Bool}
    (h : Sound ⟨some dev, chip, synced⟩) (hregs : dev'.regs = dev.regs) (hshadow : dev'.regsHw = dev.regsHw) :
    Sound ⟨some dev', chip, synced⟩ := by
  constructor
  · intro d hd
    obtain rfl := Option.some.inj hd
    rw [hregs]
    exact h.aligned dev rfl
  · intro d hd i
    obtain rfl := Option.some.inj hd
    rw [Agrees, regWord, hshadow]
    exact h.shadowed dev rfl i
  · intro hsynced d hd
    obtain rfl := Option.some.inj hd
    rw [hregs]
    exact h.held hsynced dev rfl

lemma Sound.step (h : s.Sound) (hallowed : s.Allowed fuel c) :
    Unless (fun _ => True) Sound (s.step fuel c) := by
  obtain ⟨dev, chip, synced⟩ := s
  cases c with
  | setup mem p rets =>
    change Unless _ _ (Except.map _ (adf4350SetFreq fuel rets (p.dev mem) _ chip))
    rcases setFreq_cases rets (p.dev mem) _ chip with ⟨f, hset⟩ | ⟨hregs, -⟩ | ⟨wanted, ret, hregs, hset⟩
    · rw [hset]
      trivial
    · obtain ⟨wanted, hsome, -⟩ := hallowed none hregs
      exact absurd hsome (Option.some_ne_none wanted).symm
    · obtain ⟨_, hsome, hwritten⟩ := hallowed _ hregs
      obtain rfl := Option.some.inj hsome
      have hret := @syncLoop_ret_nonneg rets wanted chip [5, 4, 3, 2, 1, 0] false fun i => (hwritten i).2
      rw [hset]
      exact sound_sync (freqRegs_spec hregs).2 (fun i => Or.inr ⟨hret, (hwritten i).1⟩)
        fun _ => Or.inl (Or.inl (hwritten 0).1)
  | frequency hz rets =>
    cases dev with
    | none => exact h
    | some dev =>
      change Unless _ _ (Except.map _ (adf4350SetFreq fuel rets dev hz.toUInt64 chip))
      rcases setFreq_cases rets dev hz.toUInt64 chip with ⟨f, hset⟩ | ⟨-, hset⟩ | ⟨wanted, ret, hregs, hset⟩
      · rw [hset]
        trivial
      · rw [hset]
        exact h
      · obtain ⟨hkeep, haligned⟩ := freqRegs_spec hregs
        rw [hset]
        refine sound_sync haligned (fun i => Or.inl ?_) (hallowed dev wanted rfl hregs)
        rw [Agrees, regWord, hkeep]
        exact h.shadowed dev rfl i
  | resolution hz =>
    cases dev with
    | none => exact h
    | some dev =>
      apply h.of_regs_eq
      · unfold adf4350OutAltvoltage0FrequencyResolution
        split_ifs <;> rfl
      · unfold adf4350OutAltvoltage0FrequencyResolution
        split_ifs <;> rfl
  | refin hz =>
    cases dev with
    | none => exact h
    | some dev =>
      apply h.of_regs_eq
      · unfold adf4350OutAltvoltage0RefinFrequency
        split_ifs <;> rfl
      · unfold adf4350OutAltvoltage0RefinFrequency
        split_ifs <;> rfl
  | powerdown pwd rets =>
    cases dev with
    | none => exact h
    | some dev =>
      change Sound (after _ (adf4350OutAltvoltage0Powerdown rets dev pwd chip))
      unfold adf4350OutAltvoltage0Powerdown
      rcases hregs : dev.powerRegs pwd with _ | wanted
      · exact h
      · obtain ⟨hkeep, haligned⟩ := powerRegs_spec hregs (h.aligned dev rfl)
        refine sound_sync haligned (fun i => Or.inl ?_) (hallowed dev wanted rfl hregs)
        rw [Agrees, regWord, hkeep]
        exact h.shadowed dev rfl i

/-- In every run that is allowed, the shadow is what the synthesizer has received, and after each
successful synchronisation the synthesizer holds the registers. -/
theorem shadow_held (fuel : ℕ) (chip : Adf4350Chip) (calls : List Adf4350Call)
    (h : Guarded (orFault (step fuel)) (untilFault (Allowed fuel)) (.ok ⟨none, chip, false⟩) calls) :
    Always (orFault (step fuel)) (Unless (fun _ => True) fun s => s.Shadowed ∧ s.Held)
      (.ok ⟨none, chip, false⟩) calls := by
  have hstart : Sound ⟨none, chip, false⟩ := by
    constructor
    · exact fun dev hdev => absurd hdev (Option.some_ne_none dev).symm
    · exact fun dev hdev => absurd hdev (Option.some_ne_none dev).symm
    · exact fun hsynced => absurd hsynced Bool.false_ne_true
  refine (h.unless hstart fun t e ht he => ht.step he).mono ?_
  intro r hr
  cases r with
  | error f => trivial
  | ok t => exact ⟨Sound.shadowed hr, Sound.held hr⟩

/-- 25 MHz at the reference, steps of 100 kHz, and 2.2 GHz to start with. -/
def plainParam : Adf4350InitParam where
  clkin := 25000000
  channelSpacing := 100000
  powerUpFrequency := 2200000000
  referenceDivFactor := 0
  referenceDoublerEnable := false
  referenceDiv2Enable := false
  phaseDetectorPolarityPositiveEnable := true
  lockDetectPrecision6nsEnable := false
  lockDetectFunctionIntegerNEnable := false
  chargePumpCurrent := 2500
  muxoutSelect := 0
  lowSpurModeEnable := false
  cycleSlipReductionEnable := false
  chargeCancellationEnable := false
  antiBacklash3nsEnable := false
  bandSelectClockModeHighEnable := false
  clkDivider12bit := 0
  clkDividerMode := 0
  auxOutputEnable := false
  auxOutputFundamentalEnable := false
  muteTillLockEnable := false
  outputPower := 0
  auxOutputPower := 0

/-- Memory with ones in the shadow. -/
def plainMem : Adf4350Dev where
  pdata := plainParam.pdata
  clkin := 0
  chspc := 0
  fpfd := 0
  r0Fract := 0
  r0Int := 0
  r1Mod := 0
  r4RfDivSel := 0
  regs := fun _ => 0
  regsHw := fun _ => 1
  val := 0

def newChip : Adf4350Chip := ⟨fun _ => none, false⟩

/-- The registers that are wanted differ from the shadow. -/
def differs : Except Adf4350Fault (Option Adf4350Dev) → Bool
  | .ok (some dev) => decide (∀ i, dev.regsHw i ≠ dev.regs i)
  | .ok none => false
  | .error _ => true

instance decidableReminded {chip : Adf4350Chip} {rets : Fin 6 → Int} {dev : Adf4350Dev} :
    Decidable (Reminded chip rets dev) :=
  inferInstanceAs (Decidable (_ → _ ∨ _))

/-- Whether a change of the frequency is allowed. -/
def reminds (hz : Int64) (rets : Fin 6 → Int) : Except Adf4350Fault Adf4350System → Bool
  | .ok ⟨some dev, chip, _⟩ =>
    match adf4350FreqRegs 2 dev hz.toUInt64 with
    | .ok (some dev') => decide (Reminded chip rets dev')
    | _ => true
  | _ => true

lemma allowed_of_reminds {hz : Int64} {rets : Fin 6 → Int} {r : Except Adf4350Fault Adf4350System}
    (h : reminds hz rets r = true) : untilFault (Allowed 2) r (.frequency hz rets) := by
  rcases r with _ | ⟨dev, chip, synced⟩
  · trivial
  · rintro dev dev' rfl hregs
    simp only [reminds, hregs] at h
    exact of_decide_eq_true h

/-- The change to 1230.1 MHz fails at register 1 and is made again. -/
def retried : List Adf4350Call :=
  [.setup plainMem plainParam fun _ => 0, .frequency 2450100000 fun _ => 0,
    .frequency 1230100000 ![0, -1, 0, 0, 0, 0], .frequency 1230100000 fun _ => 0]

theorem shadow_held_setup : Always (orFault (step 2)) (Unless (fun _ => True) fun s => s.Shadowed ∧ s.Held)
    (.ok ⟨none, newChip, false⟩) retried := by
  refine shadow_held 2 newChip _ (guarded_cons.mpr ⟨?_, guarded_cons.mpr ⟨allowed_of_reminds ?_,
    guarded_cons.mpr ⟨allowed_of_reminds ?_, guarded_cons.mpr ⟨allowed_of_reminds ?_, guarded_nil⟩⟩⟩⟩)
  · intro r hr
    have hdiffers : differs (adf4350FreqRegs 2 (plainParam.dev plainMem)
        (plainParam.dev plainMem).pdata.powerUpFrequency.toInt64.toUInt64) = true := by decide +kernel
    rw [hr] at hdiffers
    rcases r with _ | dev
    · exact absurd hdiffers Bool.false_ne_true
    · exact ⟨dev, rfl, fun i => ⟨of_decide_eq_true hdiffers i, le_refl 0⟩⟩
  · decide +kernel
  · decide +kernel
  · decide +kernel

/-- The write of register 0 fails after that of register 4, and is not made again. -/
def forgetful : List Adf4350Call :=
  [.setup plainMem plainParam fun _ => 0, .frequency 1100000000 ![-1, 0, 0, 0, 0, 0],
    .frequency 1100000000 fun _ => 0]

/-- Memory that happens to hold what register 5 is to be given. -/
def leftover : List Adf4350Call := [.setup { plainMem with regsHw := fun _ => 0x00580000 } plainParam fun _ => 0]

/-- A device after a successful synchronisation, with register 0 owed or register 5 never written. -/
def owes : Except Adf4350Fault Adf4350System → Bool
  | .ok s => s.synced && s.dev.isSome && (s.chip.pending || (s.chip.words 5).isNone)
  | .error _ => false

lemma not_held_of_owes {r : Except Adf4350Fault Adf4350System} (h : owes r = true) :
    ¬Unless (fun _ => True) (fun s => s.Shadowed ∧ s.Held) r := by
  intro hr
  rcases r with _ | ⟨_ | dev, chip, synced⟩
  · exact absurd h Bool.false_ne_true
  · exact absurd h (by simp [owes])
  · simp only [owes, Option.isSome_some, Bool.and_true, Bool.and_eq_true, Bool.or_eq_true] at h
    obtain ⟨hsynced, hpending | hnone⟩ := h
    · rw [(hr.2 hsynced dev rfl).2] at hpending
      exact Bool.false_ne_true hpending
    · have hword : chip.words 5 = _ := (hr.2 hsynced dev rfl).1 5
      rw [hword] at hnone
      exact Bool.false_ne_true hnone

theorem shadow_not_held :
    ¬Always (orFault (step 2)) (Unless (fun _ => True) fun s => s.Shadowed ∧ s.Held)
        (.ok ⟨none, newChip, false⟩) forgetful ∧
      ¬Always (orFault (step 2)) (Unless (fun _ => True) fun s => s.Shadowed ∧ s.Held)
        (.ok ⟨none, newChip, false⟩) leftover :=
  ⟨fun h => not_held_of_owes (by decide +kernel) h.last, fun h => not_held_of_owes (by decide +kernel) h.last⟩

end Adf4350System

end NoOS
