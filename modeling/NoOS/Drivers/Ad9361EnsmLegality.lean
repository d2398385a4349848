import NoOS.Drivers.Ad9361Ensm
import NoOS.Lib.Trace

/-!
# The transitions of the state machine

A request that does not fit the mode is marked as an error, which the detour through ALERT overwrites, and a
failed write of the request is returned after the state has been taken over.
-/

namespace NoOS

namespace SpiLog

/-- The bytes that `REG_ENSM_CONFIG_1` has taken, the last one first. -/
def config1 (spi : SpiLog) : List UInt8 :=
  (spi.writes.filter fun w => w.1 = REG_ENSM_CONFIG_1).map Prod.snd

/-- Transfers that leave `REG_ENSM_CONFIG_1` alone. -/
structure Apart (s t : SpiLog) : Prop where
  config1 : t.config1 = s.config1
  transfers : s.transfers ≤ t.transfers

variable {s t u : SpiLog} {bus : SpiBus} {reg val : UInt32}

lemma Apart.refl (s : SpiLog) : Apart s s := ⟨rfl, Nat.le_refl _⟩

lemma Apart.trans (h : Apart s t) (h' : Apart t u) : Apart s u :=
  ⟨h'.config1.trans h.config1, h.transfers.trans h'.transfers⟩

lemma write_transfers (s : SpiLog) : (s.write bus reg val).2.transfers = s.transfers + 1 := by
  unfold write
  dsimp only
  split_ifs <;> rfl

lemma apart_write (hreg : reg ≠ REG_ENSM_CONFIG_1) (s : SpiLog) : Apart s (s.write bus reg val).2 := by
  constructor
  · unfold write
    dsimp only
    split_ifs
    · rfl
    · unfold config1
      rw [List.filter_cons_of_neg (by simpa using hreg)]
  · rw [write_transfers]
    exact Nat.le_succ _

lemma apart_read (s : SpiLog) : Apart s (s.read bus reg).2 := ⟨rfl, Nat.le_succ _⟩

lemma apart_writef {mask offset : UInt32} (hreg : reg ≠ REG_ENSM_CONFIG_1) (s : SpiLog) :
    Apart s (s.writef bus reg mask offset val).2 := by
  have hread := @apart_read bus reg s
  unfold writef
  cases hr : s.read bus reg with
  | mk buf t =>
    rw [hr] at hread
    cases buf with
    | error ret => exact hread
    | ok buf => exact hread.trans (apart_write hreg t)

lemma apart_checkCalDoneFrom {mask offset doneState : UInt32} (n : ℕ) (s : SpiLog) :
    Apart s (s.checkCalDoneFrom bus reg mask offset doneState n).2 := by
  induction n generalizing s with
  | zero => exact Apart.refl s
  | succ n ih =>
    have hread : Apart s (s.readf bus reg mask offset).2 := @apart_read bus reg s
    unfold checkCalDoneFrom
    dsimp only
    split_ifs
    · exact hread
    · exact hread.trans (ih _)

lemma apart_trxVcoCalControl (tx enable : Bool) (s : SpiLog) : Apart s (s.trxVcoCalControl bus tx enable).2 := by
  apply apart_writef
  cases tx <;> decide

lemma write_config1 (s : SpiLog) :
    (s.write bus REG_ENSM_CONFIG_1 val).2.config1 = s.config1 ∨
      (s.write bus REG_ENSM_CONFIG_1 val).2.config1 = val.toUInt8 :: s.config1 := by
  unfold write
  dsimp only
  split_ifs
  · exact Or.inl rfl
  · exact Or.inr rfl

lemma write_config1_ok (h : 0 ≤ bus.write REG_ENSM_CONFIG_1 s.transfers) :
    (s.write bus REG_ENSM_CONFIG_1 val).1 = 0 ∧
      (s.write bus REG_ENSM_CONFIG_1 val).2.config1 = val.toUInt8 :: s.config1 := by
  unfold write
  dsimp only
  rw [if_neg (Int.not_lt.mpr h)]
  exact ⟨rfl, rfl⟩

end SpiLog

namespace Ad9361
open SpiLog

variable {phy : Ad9361} {bus : SpiBus} {ensmState : UInt8} {pinctrl : Bool} {val : UInt32} {rc : Int}

/-- The word of the detour. -/
def alertWord (val : UInt32) : UInt8 :=
  ((val &&& ~~~(FORCE_TX_ON ||| FORCE_RX_ON)) ||| TO_ALERT ||| FORCE_ALERT_STATE).toUInt8

lemma toAlert_eq (phy : Ad9361) (bus : SpiBus) (val : UInt32) : ∃ spi, phy.toAlert bus val = { phy with spi := spi } ∧
    phy.spi.transfers ≤ spi.transfers ∧ (0 ≤ bus.write REG_ENSM_CONFIG_1 phy.spi.transfers →
      spi.config1 = alertWord val :: phy.spi.config1) := by
  have hpoll := @apart_checkCalDoneFrom bus REG_STATE 0xF 0 ENSM_STATE_ALERT.toUInt32 20001
    (phy.spi.write bus REG_ENSM_CONFIG_1
      ((val &&& ~~~(FORCE_TX_ON ||| FORCE_RX_ON)) ||| TO_ALERT ||| FORCE_ALERT_STATE)).2
  refine ⟨_, rfl, ?_, ?_⟩
  · have hle := hpoll.transfers
    rw [write_transfers] at hle
    exact (Nat.le_succ _).trans hle
  · intro h
    exact hpoll.config1.trans (write_config1_ok h).2

lemma selectSynth_eq (phy : Ad9361) (bus : SpiBus) (ensmState : UInt8) (pinctrl : Bool) :
    ∃ spi, phy.selectSynth bus ensmState pinctrl = { phy with spi := spi } ∧ Apart phy.spi spi := by
  unfold selectSynth
  split_ifs with hcond
  · refine ⟨_, rfl, ?_⟩
    have hselect : ∀ v, Apart phy.spi (phy.spi.writef bus REG_ENSM_CONFIG_2 TXNRX_SPI_CTRL 4 v).2 :=
      fun v => apart_writef (by decide) phy.spi
    split_ifs
    · exact (hselect _).trans (apart_checkCalDoneFrom 20001 _)
    · exact hselect _
    · exact (hselect _).trans (apart_checkCalDoneFrom 20001 _)
    · exact hselect _
  · exact ⟨phy.spi, rfl, Apart.refl _⟩

lemma resetPeakDetectors_eq (phy : Ad9361) (bus : SpiBus) (val : UInt32) :
    ∃ spi, phy.resetPeakDetectors bus val = { phy with spi := spi } ∧ Apart phy.spi spi := by
  have hne : REG_SMALL_LMT_OVERLOAD_THRESH ≠ REG_ENSM_CONFIG_1 := by decide
  unfold resetPeakDetectors
  by_cases hmanual : val &&& FORCE_RX_ON ≠ 0 ∧ (phy.agcMode.1 = RF_GAIN_MGC ∨ phy.agcMode.2 = RF_GAIN_MGC)
  · rw [if_pos hmanual]
    refine ⟨_, rfl, ?_⟩
    exact (@apart_read bus REG_SMALL_LMT_OVERLOAD_THRESH phy.spi).trans
      ((apart_write hne _).trans (apart_write hne _))
  · rw [if_neg hmanual]
    exact ⟨phy.spi, rfl, Apart.refl _⟩

lemma wakeUp_eq (phy : Ad9361) (bus : SpiBus) :
    ∃ spi, phy.wakeUp bus = { phy with spi := spi } ∧ phy.spi.transfers + 2 ≤ spi.transfers := by
  refine ⟨_, rfl, ?_⟩
  have hcal : ∀ (tx : Bool) (s : SpiLog), s.transfers ≤ (s.trxVcoCalControl bus tx true).2.transfers :=
    fun tx s => (apart_trxVcoCalControl tx true s).transfers
  refine Nat.le_trans ?_ ((hcal false _).trans (hcal true _))
  rw [write_transfers, write_transfers]

/-- A transition is refused, or the state is taken over whatever the writes return. -/
lemma transition_cases (phy : Ad9361) (bus : SpiBus) (ensmState : UInt8) (pinctrl : Bool) (val : UInt32) (rc : Int) :
    (rc ≠ 0 ∧ ¬(phy.currEnsmState ≠ ENSM_STATE_ALERT ∧ val &&& (FORCE_RX_ON ||| FORCE_TX_ON) ≠ 0) ∧
      phy.transition bus ensmState pinctrl val rc = (rc, phy)) ∨
    (¬(rc ≠ 0 ∧ ¬(phy.currEnsmState ≠ ENSM_STATE_ALERT ∧ val &&& (FORCE_RX_ON ||| FORCE_TX_ON) ≠ 0)) ∧
      ∃ ret spi, phy.transition bus ensmState pinctrl val rc =
        (ret, { phy with spi := spi, currEnsmState := ensmState }) ∧
      (rc = 0 → spi.config1 = phy.spi.config1 ∨ spi.config1 = val.toUInt8 :: phy.spi.config1) ∧
      ((∀ n, phy.spi.transfers ≤ n → 0 ≤ bus.write REG_ENSM_CONFIG_1 n) → ret = 0 ∧ spi.config1 =
        val.toUInt8 :: if rc = 0 then phy.spi.config1 else alertWord val :: phy.spi.config1)) := by
  unfold transition
  by_cases hrefused : rc ≠ 0 ∧ ¬(phy.currEnsmState ≠ ENSM_STATE_ALERT ∧ val &&& (FORCE_RX_ON ||| FORCE_TX_ON) ≠ 0)
  · exact Or.inl ⟨hrefused.1, hrefused.2, if_pos hrefused⟩
  · refine Or.inr ⟨hrefused, ?_⟩
    rw [if_neg hrefused]
    dsimp only
    -- the detour, the synthesizer, the word and the peak detectors in turn
    obtain ⟨spi₁, hdetour, hle₁, hconfig₁⟩ : ∃ spi, (if rc ≠ 0 then phy.toAlert bus val else phy) =
        { phy with spi := spi } ∧ phy.spi.transfers ≤ spi.transfers ∧
        (rc = 0 → spi.config1 = phy.spi.config1) ∧
        (0 ≤ bus.write REG_ENSM_CONFIG_1 phy.spi.transfers → spi.config1 =
          if rc = 0 then phy.spi.config1 else alertWord val :: phy.spi.config1) := by
      by_cases hrc : rc = 0
      · exact ⟨phy.spi, if_neg (not_not.mpr hrc), Nat.le_refl _, fun _ => rfl, fun _ => (if_pos hrc).symm⟩
      · obtain ⟨spi, heq, hle, hconfig⟩ := toAlert_eq phy bus val
        refine ⟨spi, (if_pos hrc).trans heq, hle, fun h => absurd h hrc, fun h => ?_⟩
        rw [if_neg hrc]
        exact hconfig h
    obtain ⟨spi₂, hsynth, hapart₂⟩ := selectSynth_eq { phy with spi := spi₁ } bus ensmState pinctrl
    obtain ⟨spi₃, hpeak, hapart₃⟩ := resetPeakDetectors_eq
      { phy with spi := (spi₂.write bus REG_ENSM_CONFIG_1 val).2 } bus val
    rw [hdetour, hsynth]
    dsimp only
    rw [hpeak]
    refine ⟨_, spi₃, rfl, ?_, ?_⟩
    · intro hrc
      rw [hapart₃.config1, ← hconfig₁.1 hrc, ← hapart₂.config1]
      exact write_config1 spi₂
    · intro hok
      have hle₂ : phy.spi.transfers ≤ spi₂.transfers := hle₁.trans hapart₂.transfers
      obtain ⟨hret, hword⟩ := @write_config1_ok spi₂ bus val (hok _ hle₂)
      refine ⟨hret, ?_⟩
      rw [hapart₃.config1, hword, hapart₂.config1, hconfig₁.2 (hok _ (Nat.le_refl _))]

/-- The state of a request is one of the mode of the device. -/
def FitsMode (fdd : Bool) (ensmState : UInt8) : Prop :=
  (ensmState = ENSM_STATE_TX ∨ ensmState = ENSM_STATE_RX → fdd = false) ∧ (ensmState = ENSM_STATE_FDD → fdd = true)

instance (fdd : Bool) (ensmState : UInt8) : Decidable (FitsMode fdd ensmState) :=
  inferInstanceAs (Decidable (_ ∧ _))

/-- The states that are asked for with a single word. -/
def forcedStates : List UInt8 :=
  [ENSM_STATE_TX, ENSM_STATE_RX, ENSM_STATE_FDD, ENSM_STATE_ALERT, ENSM_STATE_SLEEP_WAIT]

/-- A request that the code carries out. -/
def Accepts (phy : Ad9361) (ensmState : UInt8) : Prop :=
  ensmState ∈ forcedStates ∧ (FitsMode phy.fdd ensmState ∨ phy.currEnsmState ≠ ENSM_STATE_ALERT)

instance (phy : Ad9361) (ensmState : UInt8) : Decidable (phy.Accepts ensmState) :=
  inferInstanceAs (Decidable (_ ∧ _))

/-- The first transfer behind the word that wakes the device up. -/
def firstTransfer (phy : Ad9361) : ℕ := if phy.currEnsmState = ENSM_STATE_SLEEP then 2 else 0

/-- A byte that moves the device to ALERT. -/
def IsAlert (word : UInt8) : Prop := word &&& FORCE_ALERT_STATE.toUInt8 ≠ 0

/-- The last word for the state machine is one that moves it to ALERT. -/
def LastAlert (words : List UInt8) : Prop := ∃ word rest, words = word :: rest ∧ IsAlert word

/-- What a call has done. -/
inductive Outcome (phy : Ad9361) (bus : SpiBus) (ensmState : UInt8) : Int × Ad9361 → Prop
  | refused (ret : Int) (spi : SpiLog) (h : ¬phy.Accepts ensmState)
      (hspi : phy.currEnsmState = ENSM_STATE_ALERT → spi.config1 = phy.spi.config1) :
      Outcome phy bus ensmState (ret, { phy with spi := spi })
  | asleep (spi : SpiLog) (h : ensmState = ENSM_STATE_SLEEP) :
      Outcome phy bus ensmState (0, { phy with spi := spi, currEnsmState := ENSM_STATE_SLEEP })
  | taken (ret : Int) (spi : SpiLog) (h : phy.Accepts ensmState)
      (halert : ensmState = ENSM_STATE_ALERT → phy.currEnsmState = ENSM_STATE_ALERT → LastAlert phy.spi.config1 →
        LastAlert spi.config1)
      (hok : (∀ n, phy.firstTransfer ≤ n → 0 ≤ bus.write REG_ENSM_CONFIG_1 n) → ret = 0 ∧
        ∃ word rest, spi.config1 = word :: rest ∧ (ensmState = ENSM_STATE_ALERT → IsAlert word) ∧
          (ensmState = ENSM_STATE_TX ∨ ensmState = ENSM_STATE_RX →
            phy.currEnsmState = ENSM_STATE_ALERT ∧ rest = phy.spi.config1 ∨ LastAlert rest)) :
      Outcome phy bus ensmState (ret, { phy with spi := spi, currEnsmState := ensmState })

lemma isAlert_toUInt8 (val : UInt32) : IsAlert (val ||| TO_ALERT ||| FORCE_ALERT_STATE).toUInt8 := by
  intro hzero
  have hbit := congrArg (fun x : UInt8 => x.toNat.testBit 2) hzero
  have hone : FORCE_ALERT_STATE.toUInt8.toNat.testBit 2 = true := rfl
  have hone' : FORCE_ALERT_STATE.toNat.testBit 2 = true := rfl
  simp only [UInt32.toUInt8_or, UInt8.toNat_and, UInt8.toNat_or, Nat.testBit_and, Nat.testBit_or, hone,
    Bool.or_true, Bool.and_true] at hbit
  exact absurd hbit (by decide)

lemma forces_or {val force : UInt32} (h : force = FORCE_TX_ON ∨ force = FORCE_RX_ON) :
    (val ||| force) &&& (FORCE_RX_ON ||| FORCE_TX_ON) ≠ 0 := by
  intro hzero
  have hbit : ∀ k, ((val ||| force) &&& (FORCE_RX_ON ||| FORCE_TX_ON)).toNat.testBit k = false := by
    intro k
    rw [hzero]
    exact Nat.zero_testBit k
  simp only [UInt32.toNat_and, UInt32.toNat_or, Nat.testBit_and, Nat.testBit_or] at hbit
  rcases h with rfl | rfl
  · have htx : FORCE_TX_ON.toNat.testBit 5 = true := rfl
    have hfive := hbit 5
    simp only [htx, Bool.or_true, Bool.and_true] at hfive
    exact absurd hfive (by decide)
  · have hrx : FORCE_RX_ON.toNat.testBit 6 = true := rfl
    have hsix := hbit 6
    simp only [hrx, Bool.or_true, Bool.true_or, Bool.and_true] at hsix
    exact absurd hsix (by decide)

lemma transition_outcome {spi : SpiLog} (hle : phy.firstTransfer ≤ spi.transfers)
    (hsame : phy.currEnsmState = ENSM_STATE_ALERT → spi.config1 = phy.spi.config1)
    (haccepts : phy.Accepts ensmState ↔
      ¬(rc ≠ 0 ∧ ¬(phy.currEnsmState ≠ ENSM_STATE_ALERT ∧ val &&& (FORCE_RX_ON ||| FORCE_TX_ON) ≠ 0)))
    (halert : ensmState = ENSM_STATE_ALERT → rc = 0 ∧ IsAlert val.toUInt8)
    (htdd : ensmState = ENSM_STATE_TX ∨ ensmState = ENSM_STATE_RX → rc = 0 → phy.currEnsmState = ENSM_STATE_ALERT) :
    Outcome phy bus ensmState ({ phy with spi := spi }.transition bus ensmState pinctrl val rc) := by
  rcases transition_cases { phy with spi := spi } bus ensmState pinctrl val rc with
    ⟨hrc, hno, heq⟩ | ⟨hyes, ret, spi', heq, hwords, hok⟩
  · rw [heq]
    exact .refused rc spi (fun h => haccepts.mp h ⟨hrc, hno⟩) hsame
  · rw [heq]
    refine .taken ret spi' (haccepts.mpr hyes) ?_ ?_
    · intro hstate hcurr hlast
      obtain ⟨hrc, hword⟩ := halert hstate
      rcases hwords hrc with hwords | hwords
      · rw [hwords, hsame hcurr]
        exact hlast
      · exact ⟨_, _, hwords, hword⟩
    · intro hbus
      obtain ⟨hret, hconfig⟩ := hok fun n hn => hbus n (hle.trans hn)
      refine ⟨hret, _, _, hconfig, fun hstate => (halert hstate).2, ?_⟩
      intro hstate
      by_cases hrc : rc = 0
      · have hcurr := htdd hstate hrc
        rw [if_pos hrc]
        exact Or.inl ⟨hcurr, hsame hcurr⟩
      · rw [if_neg hrc]
        exact Or.inr ⟨_, _, rfl, isAlert_toUInt8 _⟩

lemma tdd_outcome {spi : SpiLog} (hstate : ensmState = ENSM_STATE_TX ∨ ensmState = ENSM_STATE_RX)
    (hforce : val &&& (FORCE_RX_ON ||| FORCE_TX_ON) ≠ 0) (hle : phy.firstTransfer ≤ spi.transfers)
    (hsame : phy.currEnsmState = ENSM_STATE_ALERT → spi.config1 = phy.spi.config1) :
    Outcome phy bus ensmState ({ phy with spi := spi }.transition bus ensmState pinctrl val
      { phy with spi := spi }.tddCode) := by
  have hcode : { phy with spi := spi }.tddCode ≠ 0 ↔ phy.fdd = true ∨ phy.currEnsmState ≠ ENSM_STATE_ALERT := by
    unfold tddCode
    dsimp only
    cases phy.fdd <;> simp [EINVAL]
  have hmem : ensmState ∈ forcedStates := by
    rcases hstate with rfl | rfl <;> decide
  have hne : ensmState ≠ ENSM_STATE_FDD ∧ ensmState ≠ ENSM_STATE_ALERT := by
    rcases hstate with rfl | rfl <;> decide
  have hfits : FitsMode phy.fdd ensmState ↔ phy.fdd = false :=
    ⟨fun h => h.1 hstate, fun h => ⟨fun _ => h, fun heq => absurd heq hne.1⟩⟩
  apply transition_outcome hle hsame
  · rw [hcode, Accepts, hfits]
    cases phy.fdd <;> simp [hforce, hmem]
  · exact fun h => absurd h hne.2
  · intro _ hzero
    by_contra hcurr
    exact hcode.mpr (Or.inr hcurr) hzero

/-- What a call does, in all cases. -/
theorem ensmSetState_outcome (phy : Ad9361) (bus : SpiBus) (ensmState : UInt8) (pinctrl : Bool) :
    Outcome phy bus ensmState (phy.ensmSetState bus ensmState pinctrl) := by
  obtain ⟨spi, hawake, hle, hsame⟩ : ∃ spi, (if phy.currEnsmState = ENSM_STATE_SLEEP then phy.wakeUp bus else phy) =
      { phy with spi := spi } ∧ phy.firstTransfer ≤ spi.transfers ∧
      (phy.currEnsmState = ENSM_STATE_ALERT → spi.config1 = phy.spi.config1) := by
    unfold firstTransfer
    by_cases hsleep : phy.currEnsmState = ENSM_STATE_SLEEP
    · obtain ⟨spi, heq, hle⟩ := wakeUp_eq phy bus
      refine ⟨spi, (if_pos hsleep).trans heq, ?_, fun h => absurd (hsleep.symm.trans h) (by decide)⟩
      rw [if_pos hsleep]
      exact (Nat.le_add_left 2 _).trans hle
    · refine ⟨phy.spi, if_neg hsleep, ?_, fun _ => rfl⟩
      rw [if_neg hsleep]
      exact Nat.zero_le _
  unfold ensmSetState
  rw [hawake]
  dsimp only
  by_cases htx : ensmState = ENSM_STATE_TX
  · rw [if_pos htx]
    have hforce : (phy.ensmWord pinctrl ||| FORCE_TX_ON) &&& (FORCE_RX_ON ||| FORCE_TX_ON) ≠ 0 := forces_or (Or.inl rfl)
    exact tdd_outcome (Or.inl htx) hforce hle hsame
  by_cases hrx : ensmState = ENSM_STATE_RX
  · rw [if_neg htx, if_pos hrx]
    have hforce : (phy.ensmWord pinctrl ||| FORCE_RX_ON) &&& (FORCE_RX_ON ||| FORCE_TX_ON) ≠ 0 := forces_or (Or.inr rfl)
    exact tdd_outcome (Or.inr hrx) hforce hle hsame
  rw [if_neg htx, if_neg hrx]
  by_cases hfdd : ensmState = ENSM_STATE_FDD
  · rw [if_pos hfdd]
    apply transition_outcome hle hsame
    · have hforce : (phy.ensmWord pinctrl ||| FORCE_TX_ON) &&& (FORCE_RX_ON ||| FORCE_TX_ON) ≠ 0 :=
        forces_or (Or.inl rfl)
      subst hfdd
      unfold Accepts FitsMode
      change _ ↔ ¬((if phy.fdd = true then 0 else -EINVAL) ≠ 0 ∧ ¬(_ ∧ (phy.ensmWord pinctrl ||| FORCE_TX_ON) &&& _ ≠ 0))
      cases hmode : phy.fdd with
      | false => simp [hforce, forcedStates, EINVAL]
      | true => simp [forcedStates, htx, hrx]
    · intro h
      exact absurd (hfdd.symm.trans h) (by decide)
    · rintro (h | h)
      · exact absurd h htx
      · exact absurd h hrx
  rw [if_neg hfdd]
  have hother : ∀ val, ensmState ∈ forcedStates → (ensmState = ENSM_STATE_ALERT → IsAlert val.toUInt8) →
      Outcome phy bus ensmState ({ phy with spi := spi }.transition bus ensmState pinctrl val 0) := by
    intro val hmem hword
    apply transition_outcome hle hsame
    · have hfits : FitsMode phy.fdd ensmState :=
        ⟨fun h => absurd h (not_or.mpr ⟨htx, hrx⟩), fun h => absurd h hfdd⟩
      exact iff_of_true ⟨hmem, Or.inl hfits⟩ fun h => h.1 rfl
    · exact fun h => ⟨rfl, hword h⟩
    · exact fun h => absurd h (not_or.mpr ⟨htx, hrx⟩)
  by_cases halert : ensmState = ENSM_STATE_ALERT
  · rw [if_pos halert]
    exact hother _ (by rw [halert]; decide) fun _ => isAlert_toUInt8 _
  rw [if_neg halert]
  by_cases hwait : ensmState = ENSM_STATE_SLEEP_WAIT
  · rw [if_pos hwait]
    exact hother _ (by rw [hwait]; decide) fun h => absurd h halert
  rw [if_neg hwait]
  by_cases hsleep : ensmState = ENSM_STATE_SLEEP
  · rw [if_pos hsleep]
    exact .asleep _ hsleep
  · rw [if_neg hsleep]
    refine .refused 0 spi ?_ hsame
    intro h
    have hmem := h.1
    simp only [forcedStates, List.mem_cons, List.not_mem_nil, or_false] at hmem
    rcases hmem with h | h | h | h | h
    · exact htx h
    · exact hrx h
    · exact hfdd h
    · exact halert h
    · exact hwait h

structure EnsmCall where
  bus : SpiBus
  ensmState : UInt8
  pinctrl : Bool

/-- A call, whose transfers are numbered from 0 on. -/
def request (phy : Ad9361) (call : EnsmCall) : Int × Ad9361 :=
  { phy with spi := { phy.spi with transfers := 0 } }.ensmSetState call.bus call.ensmState call.pinctrl

def step (phy : Ad9361) (call : EnsmCall) : Ad9361 := (phy.request call).2

/-- The state is one of the mode. -/
def Legal (phy : Ad9361) : Prop := FitsMode phy.fdd phy.currEnsmState

instance (phy : Ad9361) : Decidable phy.Legal := inferInstanceAs (Decidable (FitsMode _ _))

/-- A code leaves the state as it was, and TX and RX come right after a word for ALERT. -/
structure Right (phy : Ad9361) (call : EnsmCall) : Prop where
  kept : (phy.request call).1 < 0 → (phy.step call).currEnsmState = phy.currEnsmState
  entered : ∀ state, state = ENSM_STATE_TX ∨ state = ENSM_STATE_RX → (phy.step call).currEnsmState = state →
    phy.currEnsmState ≠ state → ∃ word rest, (phy.step call).spi.config1 = word :: rest ∧ LastAlert rest

/-- A request for another state that is carried out fits the mode, and none of its words fails. -/
def Allowed (phy : Ad9361) (call : EnsmCall) : Prop :=
  phy.Accepts call.ensmState → call.ensmState ≠ phy.currEnsmState → FitsMode phy.fdd call.ensmState ∧
    ∀ n, phy.firstTransfer ≤ n → 0 ≤ call.bus.write REG_ENSM_CONFIG_1 n

structure Inv (phy : Ad9361) : Prop where
  legal : phy.Legal
  alert : phy.currEnsmState = ENSM_STATE_ALERT → LastAlert phy.spi.config1

variable {call : EnsmCall}

lemma Inv.step (h : phy.Inv) (hallowed : phy.Allowed call) : (phy.step call).Inv ∧ phy.Right call := by
  have houtcome := ensmSetState_outcome { phy with spi := { phy.spi with transfers := 0 } } call.bus call.ensmState
    call.pinctrl
  change Outcome _ _ _ (phy.request call) at houtcome
  suffices hall : ∀ result, Outcome { phy with spi := { phy.spi with transfers := 0 } } call.bus call.ensmState
      result → result.2.Inv ∧ (result.1 < 0 → result.2.currEnsmState = phy.currEnsmState) ∧
      ∀ state, state = ENSM_STATE_TX ∨ state = ENSM_STATE_RX → result.2.currEnsmState = state →
        phy.currEnsmState ≠ state → ∃ word rest, result.2.spi.config1 = word :: rest ∧ LastAlert rest by
    obtain ⟨hinv, hkept, hentered⟩ := hall _ houtcome
    exact ⟨hinv, hkept, hentered⟩
  intro result hresult
  cases hresult with
  | refused ret spi hno hspi =>
    refine ⟨⟨h.legal, fun halert => ?_⟩, fun _ => rfl, fun state _ heq hne => absurd heq hne⟩
    rw [hspi halert]
    exact h.alert halert
  | asleep spi hsleep =>
    have halert : ENSM_STATE_SLEEP ≠ ENSM_STATE_ALERT := by decide
    have hfdd : ENSM_STATE_SLEEP ≠ ENSM_STATE_FDD := by decide
    have htdd : ¬(ENSM_STATE_SLEEP = ENSM_STATE_TX ∨ ENSM_STATE_SLEEP = ENSM_STATE_RX) := by decide
    refine ⟨⟨?_, fun heq => absurd heq halert⟩, fun hneg => absurd hneg (Int.lt_irrefl 0), ?_⟩
    · exact ⟨fun hstate => absurd hstate htdd, fun heq => absurd heq hfdd⟩
    · rintro state hstate rfl
      exact absurd hstate htdd
  | taken ret spi haccepts halert hok =>
    by_cases hsame : call.ensmState = phy.currEnsmState
    · refine ⟨⟨?_, fun heq => ?_⟩, fun _ => hsame, fun state _ heq hne => absurd (hsame.symm.trans heq) hne⟩
      · change FitsMode phy.fdd call.ensmState
        rw [hsame]
        exact h.legal
      · exact halert heq (hsame.symm.trans heq) (h.alert (hsame.symm.trans heq))
    · obtain ⟨hfits, hbus⟩ := hallowed haccepts hsame
      obtain ⟨hret, word, rest, hconfig, hword, hrest⟩ := hok hbus
      refine ⟨⟨hfits, fun heq => ⟨word, rest, hconfig, hword heq⟩⟩, fun hneg => ?_, ?_⟩
      · rw [hret] at hneg
        exact absurd hneg (Int.lt_irrefl 0)
      · rintro state hstate rfl -
        refine ⟨word, rest, hconfig, ?_⟩
        rcases hrest hstate with ⟨hcurr, rfl⟩ | hlast
        · exact h.alert hcurr
        · exact hlast

end Ad9361

open Ad9361

/-- In every run whose requests are allowed, the state is one of the mode, TX and RX are entered from ALERT, and
a code leaves the state as it was. -/
theorem ensm_legal {phy : Ad9361} (hlegal : phy.Legal)
    (halert : phy.currEnsmState = ENSM_STATE_ALERT → LastAlert phy.spi.config1) (calls : List EnsmCall)
    (hallowed : Trace.Guarded step Allowed phy calls) :
    Trace.Always step Legal phy calls ∧
      ∀ pre call, pre ++ [call] <+: calls → (Trace.run step phy pre).Right call := by
  have hinv : Trace.Always step Inv phy calls :=
    hallowed.always ⟨hlegal, halert⟩ fun _ _ h hallowed => (h.step hallowed).1
  refine ⟨hinv.mono fun _ h => h.legal, fun pre call hpre => ?_⟩
  have hbefore := hinv pre ((List.prefix_append pre [call]).trans hpre)
  exact (hbefore.step (hallowed pre call hpre)).2

/-- A bus without errors on which every status is as it is waited for. -/
def quietBus : SpiBus := ⟨fun _ _ => 0, fun reg _ => .ok (if reg = REG_STATE then ENSM_STATE_ALERT else 2)⟩

/-- A device with FDD that has been set up. -/
def fddDevice : Ad9361 := ⟨true, false, false, false, false, (0, 0), (0, 0), ENSM_STATE_FDD, ⟨0, []⟩⟩

def fddCalls : List EnsmCall :=
  [⟨quietBus, ENSM_STATE_ALERT, false⟩, ⟨quietBus, ENSM_STATE_TX, false⟩, ⟨quietBus, ENSM_STATE_FDD, true⟩]

theorem ensm_legal_at : Trace.Always step Legal fddDevice fddCalls ∧
    ∀ pre call, pre ++ [call] <+: fddCalls → (Trace.run step fddDevice pre).Right call := by
  refine ensm_legal (by decide) (fun h => absurd h (by decide)) fddCalls ?_
  unfold fddCalls
  rw [Trace.guarded_cons, Trace.guarded_cons, Trace.guarded_cons]
  refine ⟨fun _ _ => ⟨by decide, fun _ _ => Int.le_refl 0⟩, fun h => absurd h (by decide), fun _ _ => ?_,
    Trace.guarded_nil⟩
  exact ⟨by decide, fun _ _ => Int.le_refl 0⟩

/-- TX is entered from FDD, through ALERT. -/
theorem ensm_not_legal : fddDevice.Legal ∧ ¬(fddDevice.step ⟨quietBus, ENSM_STATE_TX, false⟩).Legal := by
  decide

end NoOS
