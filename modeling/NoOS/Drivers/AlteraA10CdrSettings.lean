import NoOS.Drivers.AlteraAdxcvrReceive

/-!
# The analog settings of the receivers

The fast lock, the charge pump and the loop filter of a lane are looked up for its dividers. When
`altera_a10_cdr_pll_set_rate` looks them up, `lpd` and `lpfd` are codes already. Both give the same settings for
some of the dividers only.
-/

namespace NoOS
open RegisterFile

namespace AlteraAdxcvr

/-- The settings of a lane. The current of the phase detector's charge pump is in two of its registers. -/
structure CdrSettings where
  fastLock : UInt32
  cpCurrentPd : UInt32
  cpCurrentPdAgain : UInt32
  lfrPd : UInt32
  cpCurrentPfd : UInt32
  lfrPfd : UInt32
  deriving DecidableEq

/-- The settings in the registers of a lane. -/
def cdrSettings (x : AlteraAdxcvr) (lane : ℕ) : CdrSettings where
  fastLock := (x.read (.adxcfg lane) 0x139 &&& 0x80) >>> 7
  cpCurrentPd := (x.read (.adxcfg lane) 0x133 &&& 0xe0) >>> 5
  cpCurrentPdAgain := (x.read (.adxcfg lane) 0x139 &&& 0x38) >>> 3
  lfrPd := (x.read (.adxcfg lane) 0x135 &&& 0x0c) >>> 2
  cpCurrentPfd := x.read (.adxcfg lane) 0x139 &&& 0x07
  lfrPfd := x.read (.adxcfg lane) 0x135 &&& 0x03

/-- The settings that the lookup functions give. -/
def lookupSettings (fvco m lpfd lpd : UInt32) : CdrSettings where
  fastLock := alteraA10CdrLookupFastlock lpd
  cpCurrentPd := alteraA10CdrLookupCpCurrentPd fvco lpd
  cpCurrentPdAgain := alteraA10CdrLookupCpCurrentPd fvco lpd
  lfrPd := alteraA10CdrLookupLfResistorPd fvco lpd
  cpCurrentPfd := alteraA10CdrLookupCpCurrentPfd fvco m lpfd
  lfrPfd := alteraA10CdrLookupLfResistorPfd fvco m lpfd

section Written

variable {x y : AlteraAdxcvr} {b : AlteraBlock} {mask val rateKhz fvco : UInt32} {i j r r' : ℕ} {c : CdrParams}

lemma read_write_of_reg (h : r' ≠ r) : (x.write b r val).read b r' = x.read b r' :=
  read_write_of_ne fun heq => h (Prod.mk.inj heq).2

lemma read_update_of_reg (h : r' ≠ r) : (x.update b r mask val).read b r' = x.read b r' :=
  read_update_of_ne fun heq => h (Prod.mk.inj heq).2

lemma writeCdr_settings :
    (x.writeCdr c fvco i).cdrSettings i = lookupSettings fvco c.m (encodeLpfd c.lpfd) (encodeLpd c.lpd) := by
  have hlock : ∀ lock ∈ ([0, 1] : List UInt32), ∀ pd ∈ ([3, 4] : List UInt32), ∀ pfd ∈ ([1, 2, 3, 4] : List UInt32),
      ((((lock <<< (7 : UInt32)) ||| (pd <<< (3 : UInt32)) ||| pfd) &&& (0x80 : UInt32)) >>> (7 : UInt32)) = lock ∧
      ((((lock <<< (7 : UInt32)) ||| (pd <<< (3 : UInt32)) ||| pfd) &&& (0x38 : UInt32)) >>> (3 : UInt32)) = pd ∧
      ((lock <<< (7 : UInt32)) ||| (pd <<< (3 : UInt32)) ||| pfd) &&& (0x07 : UInt32) = pfd := by decide
  have hcp : ∀ pd ∈ ([3, 4] : List UInt32), ((pd <<< (5 : UInt32)) &&& (0xe0 : UInt32)) >>> (5 : UInt32) = pd := by
    decide
  have hlfr : ∀ fix ∈ ([60, 74, 90, 116, 150, 159, 174] : List UInt32), ∀ pd ∈ ([0, 2, 3] : List UInt32),
      ∀ pfd ∈ ([1, 2, 3] : List UInt32),
      ((((fix &&& (0x20 : UInt32)) <<< (1 : UInt32)) ||| (pd <<< (2 : UInt32)) ||| pfd) &&& (0x0c : UInt32)) >>>
        (2 : UInt32) = pd ∧
      (((fix &&& (0x20 : UInt32)) <<< (1 : UInt32)) ||| (pd <<< (2 : UInt32)) ||| pfd) &&& (0x03 : UInt32) = pfd := by
    decide
  obtain ⟨hfast, hpd, hpfd⟩ := hlock _ (@lookupFastlock_mem (encodeLpd c.lpd)) _
    (@lookupCpCurrentPd_mem fvco (encodeLpd c.lpd)) _ (@lookupCpCurrentPfd_mem fvco c.m (encodeLpfd c.lpfd))
  obtain ⟨hrpd, hrpfd⟩ := hlfr _ (@lookupVcoSpeedFix_mem fvco) _ (@lookupLfResistorPd_mem fvco (encodeLpd c.lpd)) _
    (@lookupLfResistorPfd_mem fvco c.m (encodeLpfd c.lpfd))
  simp (disch := decide) only [cdrSettings, writeCdr, read_update_of_reg, read_write_of_reg, read_update_self]
  rw [update_and rfl, update_and rfl, update_and rfl, update_and rfl, update_and rfl, update_and rfl,
    hfast, hpd, hpfd, hrpd, hrpfd, hcp _ lookupCpCurrentPd_mem]
  rfl

lemma setCdrLane_settings :
    (setCdrLane c fvco x i).cdrSettings i = lookupSettings fvco c.m (encodeLpfd c.lpfd) (encodeLpd c.lpd) := by
  have hwritten := @writeCdr_settings (x.acquireArbitration (.adxcfg i)) fvco i c
  rw [setCdrLane, cdrSettings, read_calibrateCdr (by decide), read_calibrateCdr (by decide),
    read_calibrateCdr (by decide), ← hwritten, cdrSettings]

lemma setCdrLane_settings_of_ne (h : j ≠ i) : (setCdrLane c fvco x i).cdrSettings j = x.cdrSettings j := by
  simp only [cdrSettings, read_setCdrLane_of_ne h]

/-- A successful call leaves the settings of the codes in every lane. -/
lemma cdrSetRate_settings (h : alteraA10CdrPllSetRate x rateKhz = some (SUCCESS, y))
    (hcalc : alteraA10CdrCalcParams x.parentRateKhz rateKhz = some (c, fvco)) (hi : i < x.lanesPerLink) :
    y.cdrSettings i = lookupSettings fvco c.m (encodeLpfd c.lpfd) (encodeLpd c.lpd) := by
  obtain ⟨d, -, hd, rfl⟩ := cdrSetRate_eq h
  obtain ⟨rfl, rfl⟩ := Prod.mk.inj (Option.some.inj (hcalc.symm.trans hd))
  have hne : AlteraBlock.adxcfg i ≠ .core := nofun
  have hpost : ∀ t : AlteraAdxcvr, (t.postLaneRateChange rateKhz).cdrSettings i = t.cdrSettings i := by
    intro t
    simp only [cdrSettings, read_postLaneRateChange hne rateKhz]
  exact (hpost _).trans (run_lane cdrSettings (fun _ => lookupSettings _ c.m (encodeLpfd c.lpfd) (encodeLpd c.lpd))
    (fun _ _ => setCdrLane_settings) (fun _ _ _ => setCdrLane_settings_of_ne) hi)

end Written

/-- The values of `m` for which the code of `lpfd` leads to the settings of `lpfd`, in ranges. -/
def agreeingM (fvco lpfd : UInt32) : List (ℕ × ℕ) :=
  if lpfd = 1 then
    if fvco < 7000000 then [(8, 17), (112, 127)]
    else if fvco < 9000000 then [(8, 13), (86, 90)]
    else if fvco < 12000000 then [(8, 13)]
    else [(8, 13), (96, 127)]
  else
    if fvco < 7000000 then [(8, 11), (23, 23), (36, 37), (56, 127)]
    else if fvco < 9000000 then [(8, 9), (14, 15), (43, 43), (48, 60), (65, 70), (91, 127)]
    else if fvco < 12000000 then [(8, 9), (18, 23), (43, 43), (65, 127)]
    else [(8, 9), (48, 127)]

/-- The tables give the same for the codes. -/
structure CodesAgree (fvco m lpfd lpd : UInt32) : Prop where
  lpd : lpd ≠ 2 ∧ lpd ≠ 16
  m : ∃ r ∈ agreeingM fvco lpfd, r.1 ≤ m.toNat ∧ m.toNat ≤ r.2

section Codes

variable {fvco m lpfd lpd : UInt32}

lemma exists_band (fvco : UInt32) : ∃ v ∈ ([0, 7000000, 9000000, 12000000] : List UInt32),
    (∀ m lpfd, alteraA10CdrLookupLfResistorPfd fvco m lpfd = alteraA10CdrLookupLfResistorPfd v m lpfd) ∧
    (∀ m lpfd, alteraA10CdrLookupCpCurrentPfd fvco m lpfd = alteraA10CdrLookupCpCurrentPfd v m lpfd) ∧
    ∀ lpfd, agreeingM fvco lpfd = agreeingM v lpfd := by
  unfold alteraA10CdrLookupLfResistorPfd alteraA10CdrLookupCpCurrentPfd agreeingM
  by_cases h7 : fvco < 7000000
  · exact ⟨0, by decide, by simp [h7], by simp [h7], by simp [h7]⟩
  · by_cases h9 : fvco < 9000000
    · exact ⟨7000000, by decide, by simp [h7, h9], by simp [h7, h9], by simp [h7, h9]⟩
    · by_cases h12 : fvco < 12000000
      · exact ⟨9000000, by decide, by simp [h7, h9, h12], by simp [h7, h9, h12], by simp [h7, h9, h12]⟩
      · exact ⟨12000000, by decide, by simp [h7, h9, h12], by simp [h7, h9, h12], by simp [h7, h9, h12]⟩

lemma pfd_iff (hm : 8 ≤ m.toNat) (hm' : m.toNat ≤ 127) (hlpfd : lpfd ∈ ([1, 2] : List UInt32)) :
    (alteraA10CdrLookupLfResistorPfd fvco m (encodeLpfd lpfd) = alteraA10CdrLookupLfResistorPfd fvco m lpfd ∧
      alteraA10CdrLookupCpCurrentPfd fvco m (encodeLpfd lpfd) = alteraA10CdrLookupCpCurrentPfd fvco m lpfd) ↔
      ∃ r ∈ agreeingM fvco lpfd, r.1 ≤ m.toNat ∧ m.toNat ≤ r.2 := by
  obtain ⟨v, hv, hlfr, hcp, hagree⟩ := exists_band fvco
  have hall : ∀ k < 128, 8 ≤ k →
      ((alteraA10CdrLookupLfResistorPfd v (UInt32.ofNat k) (encodeLpfd lpfd) =
          alteraA10CdrLookupLfResistorPfd v (UInt32.ofNat k) lpfd ∧
        alteraA10CdrLookupCpCurrentPfd v (UInt32.ofNat k) (encodeLpfd lpfd) =
          alteraA10CdrLookupCpCurrentPfd v (UInt32.ofNat k) lpfd) ↔
        ∃ r ∈ agreeingM v lpfd, r.1 ≤ k ∧ k ≤ r.2) := by
    clear hlfr hcp hagree
    simp only [List.mem_cons, List.not_mem_nil, or_false] at hv hlpfd
    rcases hv with rfl | rfl | rfl | rfl <;> rcases hlpfd with rfl | rfl <;> decide +kernel
  have hband := hall m.toNat (Nat.lt_succ_of_le hm') hm
  rw [UInt32.ofNat_toNat] at hband
  rw [hlfr, hlfr, hcp, hcp, hagree]
  exact hband

lemma pd_iff (hlpd : lpd ∈ ([1, 2, 4, 8, 16] : List UInt32)) :
    (alteraA10CdrLookupFastlock (encodeLpd lpd) = alteraA10CdrLookupFastlock lpd ∧
      alteraA10CdrLookupCpCurrentPd fvco (encodeLpd lpd) = alteraA10CdrLookupCpCurrentPd fvco lpd ∧
      alteraA10CdrLookupLfResistorPd fvco (encodeLpd lpd) = alteraA10CdrLookupLfResistorPd fvco lpd) ↔
      lpd ≠ 2 ∧ lpd ≠ 16 := by
  have hlock : ∀ l ∈ ([1, 2, 4, 8, 16] : List UInt32),
      (alteraA10CdrLookupFastlock (encodeLpd l) = alteraA10CdrLookupFastlock l ↔ l ≠ 16) := by decide
  have hone : ∀ l ∈ ([1, 2, 4, 8, 16] : List UInt32), (encodeLpd l = 1 ↔ l = 1) := by decide
  have hcp : alteraA10CdrLookupCpCurrentPd fvco (encodeLpd lpd) = alteraA10CdrLookupCpCurrentPd fvco lpd := by
    simp only [alteraA10CdrLookupCpCurrentPd, hone lpd hlpd]
  have hlfr : alteraA10CdrLookupLfResistorPd fvco (encodeLpd lpd) = alteraA10CdrLookupLfResistorPd fvco lpd ↔
      lpd ≠ 2 := by
    have hlow : ∀ l ∈ ([1, 2, 4, 8, 16] : List UInt32), (alteraA10CdrLookupLfResistorPd 0 (encodeLpd l) =
        alteraA10CdrLookupLfResistorPd 0 l ↔ l ≠ 2) := by decide
    have hhigh : ∀ l ∈ ([1, 2, 4, 8, 16] : List UInt32), (alteraA10CdrLookupLfResistorPd 7000000 (encodeLpd l) =
        alteraA10CdrLookupLfResistorPd 7000000 l ↔ l ≠ 2) := by decide
    by_cases h7 : fvco < 7000000
    · have hband : ∀ l, alteraA10CdrLookupLfResistorPd fvco l = alteraA10CdrLookupLfResistorPd 0 l := by
        intro l
        rw [alteraA10CdrLookupLfResistorPd, if_pos h7]
        rfl
      rw [hband, hband, hlow lpd hlpd]
    · have hband : ∀ l, alteraA10CdrLookupLfResistorPd fvco l = alteraA10CdrLookupLfResistorPd 7000000 l := by
        intro l
        rw [alteraA10CdrLookupLfResistorPd, if_neg h7]
        rfl
      rw [hband, hband, hhigh lpd hlpd]
  rw [hlock lpd hlpd, hlfr]
  tauto

lemma lookupSettings_codes_iff (hm : 8 ≤ m.toNat) (hm' : m.toNat ≤ 127) (hlpfd : lpfd ∈ ([1, 2] : List UInt32))
    (hlpd : lpd ∈ ([1, 2, 4, 8, 16] : List UInt32)) :
    lookupSettings fvco m (encodeLpfd lpfd) (encodeLpd lpd) = lookupSettings fvco m lpfd lpd ↔
      CodesAgree fvco m lpfd lpd := by
  rw [lookupSettings, lookupSettings, CdrSettings.mk.injEq]
  constructor
  · rintro ⟨hlock, hcp, -, hlfr, hcpfd, hlpfr⟩
    exact ⟨(pd_iff hlpd).mp ⟨hlock, hcp, hlfr⟩, (pfd_iff hm hm' hlpfd).mp ⟨hlpfr, hcpfd⟩⟩
  · rintro ⟨hpd, hpfd⟩
    obtain ⟨hlock, hcp, hlfr⟩ := (pd_iff hlpd).mpr hpd
    obtain ⟨hlpfr, hcpfd⟩ := (pfd_iff hm hm' hlpfd).mpr hpfd
    exact ⟨hlock, hcp, hcp, hlfr, hcpfd, hlpfr⟩

end Codes

variable {x y : AlteraAdxcvr} {c : CdrParams} {rateKhz fvco : UInt32}

/-- Every lane has the settings of the dividers if and only if those of the codes are the same. -/
theorem cdrSettings_iff (h : alteraA10CdrPllSetRate x rateKhz = some (SUCCESS, y))
    (hcalc : alteraA10CdrCalcParams x.parentRateKhz rateKhz = some (c, fvco)) :
    (∀ i < x.lanesPerLink, y.cdrSettings i = lookupSettings fvco c.m c.lpfd c.lpd) ↔
      CodesAgree fvco c.m c.lpfd c.lpd := by
  obtain ⟨d, hset⟩ := cdrSetRate_spec h
  obtain ⟨rfl, -⟩ := Prod.mk.inj (Option.some.inj (hcalc.symm.trans hset.calcParams))
  have hc := hset.allowed
  rw [← lookupSettings_codes_iff hc.m_ge hc.m_le hc.lpfd hc.lpd]
  constructor
  · intro hall
    exact (cdrSetRate_settings h hcalc x.lanes_pos).symm.trans (hall 0 x.lanes_pos)
  · intro hcodes i hi
    exact (cdrSetRate_settings h hcalc hi).trans hcodes

/-- A receiver with one lane and a reference of 600 MHz. -/
def receiver : AlteraAdxcvr := ⟨false, 1, Nat.one_pos, 0, 0, 600000, true, fun _ => 0, fun _ => 0, 0⟩

theorem cdrSettings_at : ∃ y, alteraA10CdrPllSetRate receiver 19200000 = some (SUCCESS, y) ∧
    ∀ i < receiver.lanesPerLink, y.cdrSettings i = lookupSettings 9600000 8 2 1 := by
  obtain ⟨y, hy⟩ : ∃ y, alteraA10CdrPllSetRate receiver 19200000 = some (SUCCESS, y) := ⟨_, rfl⟩
  have hcalc : alteraA10CdrCalcParams receiver.parentRateKhz 19200000 = some (⟨1, 8, 2, 1⟩, 9600000) := by
    decide +kernel
  exact ⟨y, hy, (cdrSettings_iff hy hcalc).mpr ⟨by decide, by decide⟩⟩

/-- For 9.6 Gbps, `lpd` is 2, and the resistance is looked up for 3. -/
theorem not_cdrSettings : ∃ y, alteraA10CdrPllSetRate receiver 9600000 = some (SUCCESS, y) ∧
    alteraA10CdrCalcParams receiver.parentRateKhz 9600000 = some (⟨1, 8, 2, 2⟩, 9600000) ∧
    y.cdrSettings 0 ≠ lookupSettings 9600000 8 2 2 := by
  obtain ⟨y, hy⟩ : ∃ y, alteraA10CdrPllSetRate receiver 9600000 = some (SUCCESS, y) := ⟨_, rfl⟩
  have hcalc : alteraA10CdrCalcParams receiver.parentRateKhz 9600000 = some (⟨1, 8, 2, 2⟩, 9600000) := by
    decide +kernel
  refine ⟨y, hy, hcalc, ?_⟩
  rw [cdrSetRate_settings hy hcalc receiver.lanes_pos]
  decide

end AlteraAdxcvr

end NoOS
