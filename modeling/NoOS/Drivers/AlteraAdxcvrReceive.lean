import NoOS.Drivers.AlteraAdxcvrFields
import NoOS.Drivers.AlteraAdxcvrSearch

/-!
# The rate of a receiver

Every lane has a PLL of its own, and the loop over the lanes writes the same dividers into each. The first lane
is the one that is read.
-/

namespace NoOS
open RegisterFile

namespace AlteraAdxcvr

variable {x y : AlteraAdxcvr} {b : AlteraBlock} {reg : ℕ} {mask val : UInt32}

section Receive

variable {lanes i j : ℕ} {c : CdrParams} {fvco : UInt32}

lemma cdr_field (hi : i < lanes) : updatedFields false lanes (.adxcfg i, reg) = fieldOf cdrFields reg := if_pos hi

lemma moves_updateCdr (hi : i < lanes) (hval : mask &&& val = val) (hsub : fieldOf cdrFields reg &&& mask = mask) :
    Moves (updatedFields false lanes) x (x.update (.adxcfg i) reg mask val) := by
  apply moves_update hval
  rw [cdr_field hi, hsub]

lemma moves_writeCdr (hi : i < lanes) (h : fieldOf cdrFields reg = 0xffffffff) :
    Moves (updatedFields false lanes) x (x.write (.adxcfg i) reg val) := by
  apply moves_write
  rw [cdr_field hi, h]

lemma writeCdr_moves (hi : i < lanes) : Moves (updatedFields false lanes) x (x.writeCdr c fvco i) := by
  have hfix : ∀ fix ∈ ([60, 74, 90, 116, 150, 159, 174] : List UInt32),
      (0x05 : UInt32) &&& (((fix &&& (0x80 : UInt32)) >>> (7 : UInt32)) ||| ((fix &&& (0x40 : UInt32)) >>> (4 : UInt32))) =
        ((fix &&& (0x80 : UInt32)) >>> (7 : UInt32)) ||| ((fix &&& (0x40 : UInt32)) >>> (4 : UInt32)) ∧
      (0x40 : UInt32) &&& ((fix &&& (0x10 : UInt32)) <<< (2 : UInt32)) = (fix &&& (0x10 : UInt32)) <<< (2 : UInt32) ∧
      (0x0f : UInt32) &&& (fix &&& (0xf : UInt32)) = fix &&& (0xf : UInt32) := by decide
  have hlfr : ∀ fix ∈ ([60, 74, 90, 116, 150, 159, 174] : List UInt32), ∀ pd ∈ ([0, 2, 3] : List UInt32),
      ∀ pfd ∈ ([1, 2, 3] : List UInt32),
      (0x4f : UInt32) &&& (((fix &&& (0x20 : UInt32)) <<< (1 : UInt32)) ||| (pd <<< (2 : UInt32)) ||| pfd) =
        ((fix &&& (0x20 : UInt32)) <<< (1 : UInt32)) ||| (pd <<< (2 : UInt32)) ||| pfd := by decide
  have hcp : ∀ pd ∈ ([3, 4] : List UInt32), (0xe0 : UInt32) &&& (pd <<< (5 : UInt32)) = pd <<< (5 : UInt32) := by decide
  have hspeed : ∀ speed ∈ ([0, 2, 3] : List UInt32),
      (0x7c : UInt32) &&& (speed <<< (2 : UInt32)) = speed <<< (2 : UInt32) := by decide
  have hlock : ∀ lock ∈ ([0, 1] : List UInt32), ∀ pd ∈ ([3, 4] : List UInt32), ∀ pfd ∈ ([1, 2, 3, 4] : List UInt32),
      (0xbf : UInt32) &&& ((lock <<< (7 : UInt32)) ||| (pd <<< (3 : UInt32)) ||| pfd) =
        (lock <<< (7 : UInt32)) ||| (pd <<< (3 : UInt32)) ||| pfd := by decide
  have hn : ∀ n ∈ ([0, 1, 2, 3] : List UInt32), (0x0c : UInt32) &&& (n <<< (2 : UInt32)) = n <<< (2 : UInt32) := by
    decide
  obtain ⟨hhigh, hmiddle, hlow⟩ := hfix _ (@lookupVcoSpeedFix_mem fvco)
  apply Moves.trans _ (moves_updateCdr hi (hn _ (encodeN_mem c.n)) (by decide))
  apply Moves.trans _ (moves_writeCdr hi (by decide))
  apply Moves.trans _ (moves_writeCdr hi (by decide))
  apply Moves.trans _ (moves_updateCdr hi
    (hlock _ lookupFastlock_mem _ lookupCpCurrentPd_mem _ lookupCpCurrentPfd_mem) (by decide))
  apply Moves.trans _ (moves_updateCdr hi (hspeed _ lookupVcoSpeed_mem) (by decide))
  apply Moves.trans _ (moves_updateCdr hi hlow (by decide))
  apply Moves.trans _ (moves_updateCdr hi
    (hlfr _ lookupVcoSpeedFix_mem _ lookupLfResistorPd_mem _ lookupLfResistorPfd_mem) (by decide))
  apply Moves.trans _ (moves_updateCdr hi hmiddle (by decide))
  apply Moves.trans _ (moves_updateCdr hi (hcp _ lookupCpCurrentPd_mem) (by decide))
  exact moves_updateCdr hi hhigh (by decide)

lemma calibrateCdr_moves (hi : i < lanes) : Moves (updatedFields false lanes) x (x.calibrateCdr i) := by
  have hcal : 0x02 &&& XCVR_CALIB_CMU_CDR_PLL_EN = XCVR_CALIB_CMU_CDR_PLL_EN := rfl
  have hflag : XCVR_RATE_SWITCH_FLAG_MASK &&& 0x00 = 0x00 := rfl
  have hbusy : (0x20 ||| 0x10) &&& (XCVR_CAPAB_RX_CAL_BUSY_EN ||| 0x00) = XCVR_CAPAB_RX_CAL_BUSY_EN ||| 0x00 := rfl
  apply Moves.trans _ (moves_poll _ _)
  apply Moves.trans _ (moves_writeCdr hi (by decide))
  apply Moves.trans _ (moves_updateCdr hi hbusy (by decide))
  apply Moves.trans _ (moves_updateCdr hi hflag (by decide))
  exact moves_updateCdr hi hcal (by decide)

lemma setCdrLane_moves (hi : i < lanes) : Moves (updatedFields false lanes) x (setCdrLane c fvco x i) := by
  have hstart : Moves (updatedFields false lanes) x (x.acquireArbitration (.adxcfg i)) :=
    moves_acquireArbitration (cdr_field hi)
  exact hstart.trans ((writeCdr_moves hi).trans (calibrateCdr_moves hi))

/-- The words that are written for the dividers. -/
def cdrWords (parentRateKhz : UInt32) (c : CdrParams) : UInt32 × UInt32 × UInt32 :=
  ((alteraA10CdrLookupClklowDiv parentRateKhz <<< 6) ||| (encodeLpd c.lpd <<< 3) ||| encodeLpfd c.lpfd, c.m,
    encodeN c.n <<< 2)

lemma writeCdr_dividers : (x.writeCdr c fvco i).cdrDividers i = cdrWords x.parentRateKhz c := by
  have hn : ∀ n ∈ ([0, 1, 2, 3] : List UInt32), (n <<< (2 : UInt32)) &&& (0x0c : UInt32) = n <<< (2 : UInt32) := by
    decide
  have hne : ∀ r r' : ℕ, r ≠ r' → (AlteraBlock.adxcfg i, r) ≠ (AlteraBlock.adxcfg i, r') :=
    fun r r' h heq => h (Prod.mk.inj heq).2
  have ha : (x.writeCdr c fvco i).read (.adxcfg i) 0x13a = (cdrWords x.parentRateKhz c).1 := by
    rw [writeCdr, read_update_of_ne (hne _ _ (by decide)), read_write_of_ne (hne _ _ (by decide)), read_write_self]
    rfl
  have hb : (x.writeCdr c fvco i).read (.adxcfg i) 0x13b = c.m := by
    rw [writeCdr, read_update_of_ne (hne _ _ (by decide)), read_write_self]
  have hc : (x.writeCdr c fvco i).read (.adxcfg i) 0x13c &&& 0x0c = (encodeN c.n <<< (2 : UInt32)) &&& 0x0c := by
    rw [writeCdr, read_update_self]
    exact update_and rfl
  rw [cdrDividers, ha, hb, hc, hn _ (encodeN_mem c.n)]
  rfl

lemma read_calibrateCdr (hreg : reg ∉ ([0, 0x100, 0x166, 0x281] : List ℕ)) :
    (x.calibrateCdr i).read (.adxcfg i) reg = x.read (.adxcfg i) reg := by
  have hne : ∀ r ∈ ([0, 0x100, 0x166, 0x281] : List ℕ), (AlteraBlock.adxcfg i, reg) ≠ (AlteraBlock.adxcfg i, r) := by
    intro r hr heq
    rw [(Prod.mk.inj heq).2] at hreg
    exact hreg hr
  rw [calibrateCdr, adxcfgCalibrationCheck, read_poll, releaseArbitration, read_write_of_ne (hne _ (by decide)),
    read_update_of_ne (hne _ (by decide)), read_update_of_ne (hne _ (by decide)), read_update_of_ne (hne _ (by decide))]

lemma setCdrLane_self : (setCdrLane c fvco x i).cdrDividers i = cdrWords x.parentRateKhz c := by
  have hwritten := @writeCdr_dividers (x.acquireArbitration (.adxcfg i)) i c fvco
  have hparent : (x.acquireArbitration (.adxcfg i)).parentRateKhz = x.parentRateKhz :=
    (moves_acquireArbitration rfl : Moves (fun _ => 0xffffffff) x _).parentRateKhz
  rw [hparent] at hwritten
  rw [setCdrLane, cdrDividers, read_calibrateCdr (by decide), read_calibrateCdr (by decide),
    read_calibrateCdr (by decide), ← hwritten, cdrDividers]

lemma read_setCdrLane_of_ne (h : j ≠ i) (reg : ℕ) :
    (setCdrLane c fvco x i).read (.adxcfg j) reg = x.read (.adxcfg j) reg := by
  have hne : ∀ r, (AlteraBlock.adxcfg j, reg) ≠ (AlteraBlock.adxcfg i, r) :=
    fun r heq => h (AlteraBlock.adxcfg.inj (Prod.mk.inj heq).1)
  simp only [setCdrLane, calibrateCdr, adxcfgCalibrationCheck, read_poll, releaseArbitration, writeCdr,
    read_write_of_ne (hne _), read_update_of_ne (hne _), read_acquireArbitration_of_ne (hne _)]

lemma setCdrLane_other (h : j ≠ i) : (setCdrLane c fvco x i).cdrDividers j = x.cdrDividers j := by
  simp only [cdrDividers, read_setCdrLane_of_ne h]

/-- The loop leaves the same in every lane, as it does not look at the lanes. -/
lemma run_lane {β : Type} (look : AlteraAdxcvr → ℕ → β) (word : UInt32 → β)
    (hself : ∀ t i, look (setCdrLane c fvco t i) i = word t.parentRateKhz)
    (hother : ∀ t i j, j ≠ i → look (setCdrLane c fvco t i) j = look t j) (hj : j < lanes) :
    look (Passes.run (setCdrLane c fvco) lanes x) j = word x.parentRateKhz := by
  have hparent : ∀ t i, (setCdrLane c fvco t i).parentRateKhz = t.parentRateKhz :=
    fun t i => (setCdrLane_moves (Nat.lt_succ_self i)).parentRateKhz
  have hcell := @Passes.run_cell _ _ (setCdrLane c fvco) lanes x (fun t j => (t.parentRateKhz, look t j))
    (fun _ p => (p.1, word p.1)) (fun t i _ => Prod.ext (hparent t i) (hself t i))
    (fun t i k _ _ hki => Prod.ext (hparent t i) (hother t i k hki)) j hj
  exact (Prod.mk.inj hcell).2

lemma run_dividers (hj : j < lanes) :
    (Passes.run (setCdrLane c fvco) lanes x).cdrDividers j = cdrWords x.parentRateKhz c :=
  run_lane cdrDividers (fun parent => cdrWords parent c) (fun _ _ => setCdrLane_self) (fun _ _ _ => setCdrLane_other) hj

/-- What a successful call has found and written. -/
structure CdrSet (x y : AlteraAdxcvr) (rateKhz : UInt32) (c : CdrParams) : Prop where
  allowed : c.Allowed x.parentRateKhz
  calcParams : alteraA10CdrCalcParams x.parentRateKhz rateKhz = some (c, cdrFvco x.parentRateKhz c)
  dividers : ∀ i < x.lanesPerLink, y.cdrDividers i = cdrWords x.parentRateKhz c
  parentRateKhz : y.parentRateKhz = x.parentRateKhz
  isTransmit : y.isTransmit = x.isTransmit
  initialRecalc : y.initialRecalc = false
  keeps : Keeps (updatedFields false x.lanesPerLink) x.regs y.regs

lemma cdrCalcParams_eq {fref fout : UInt32} {found : CdrParams × UInt32}
    (h : alteraA10CdrCalcParams fref fout = some found) :
    found = (⟨0, 0, 0, 0⟩, 0) ∨ ∃ c, c.Allowed fref ∧ found = (c, cdrFvco fref c) := by
  unfold alteraA10CdrCalcParams at h
  split_ifs at h
  obtain ⟨best, hbest, rfl⟩ := Option.map_eq_some_iff.mp h
  cases best with
  | none => exact Or.inl rfl
  | some c => exact Or.inr ⟨c, cdr_allowed (closest_mem (closestSearch_eq hbest).symm), rfl⟩

lemma cdrSetRate_eq {rateKhz : UInt32} (h : alteraA10CdrPllSetRate x rateKhz = some (SUCCESS, y)) :
    ∃ c, c.Allowed x.parentRateKhz ∧
      alteraA10CdrCalcParams x.parentRateKhz rateKhz = some (c, cdrFvco x.parentRateKhz c) ∧
      y = { (Passes.run (setCdrLane c (cdrFvco x.parentRateKhz c)) x.lanesPerLink
        x.preLaneRateChange).postLaneRateChange rateKhz with initialRecalc := false } := by
  obtain ⟨found, hcalc, h⟩ := Option.bind_eq_some_iff.mp h
  dsimp only at h
  split_ifs at h with hzero
  · exact absurd (Prod.mk.inj (Option.some.inj h)).1 (by decide)
  · rcases cdrCalcParams_eq hcalc with rfl | ⟨c, hc, rfl⟩
    · exact absurd (Or.inl rfl) hzero
    · exact ⟨c, hc, hcalc, (Prod.mk.inj (Option.some.inj h)).2.symm⟩

lemma cdrSetRate_spec {rateKhz : UInt32} (h : alteraA10CdrPllSetRate x rateKhz = some (SUCCESS, y)) :
    ∃ c, CdrSet x y rateKhz c := by
  obtain ⟨c, hc, hcalc, rfl⟩ := cdrSetRate_eq h
  have hstart : Moves (updatedFields false x.lanesPerLink) x x.preLaneRateChange := moves_preLaneRateChange rfl
  have hpass : ∀ t i, i < x.lanesPerLink → Moves (updatedFields false x.lanesPerLink) t
      (setCdrLane c (cdrFvco x.parentRateKhz c) t i) := fun t i hi => setCdrLane_moves hi
  have hrun := hstart.trans (moves_run hpass)
  have hall := hrun.trans (moves_postLaneRateChange rfl rateKhz)
  refine ⟨c, hc, hcalc, ?_, hall.parentRateKhz, hall.isTransmit, rfl, hall.keeps⟩
  intro i hi
  have hne : AlteraBlock.adxcfg i ≠ .core := nofun
  have hwords := @run_dividers x.preLaneRateChange x.lanesPerLink i c (cdrFvco x.parentRateKhz c) hi
  rw [hstart.parentRateKhz, cdrDividers] at hwords
  rw [← hwords, cdrDividers]
  have hread : ∀ t : AlteraAdxcvr, ∀ r, (t.postLaneRateChange rateKhz).read (.adxcfg i) r = t.read (.adxcfg i) r :=
    fun t r => read_postLaneRateChange hne rateKhz
  exact congrArg₂ _ (hread _ _) (congrArg₂ _ (hread _ _) (congrArg (· &&& 0x0c) (hread _ _)))

lemma decodeCdr_eq {c : CdrParams} {parent : UInt32} (hc : c.Allowed parent) (parentRateKhz : UInt32) :
    decodeLpd (((cdrWords parentRateKhz c).1 >>> 3) &&& (0x7 : UInt32)) = c.lpd ∧
      decodeLpfd ((cdrWords parentRateKhz c).1 &&& (0x7 : UInt32)) = c.lpfd := by
  have hall : ∀ clk ∈ ([0, 1] : List UInt32), ∀ lpd ∈ ([1, 2, 4, 8, 16] : List UInt32), ∀ lpfd ∈ ([1, 2] : List UInt32),
      decodeLpd ((((clk <<< (6 : UInt32)) ||| (encodeLpd lpd <<< (3 : UInt32)) ||| encodeLpfd lpfd) >>> (3 : UInt32)) &&&
        (0x7 : UInt32)) = lpd ∧
      decodeLpfd (((clk <<< (6 : UInt32)) ||| (encodeLpd lpd <<< (3 : UInt32)) ||| encodeLpfd lpfd) &&&
        (0x7 : UInt32)) = lpfd := by decide
  exact hall _ (lookupClklowDiv_mem parentRateKhz) _ hc.lpd _ hc.lpfd

lemma cdrRecalcRate_eq {p : UInt32} (hinit : x.initialRecalc = false) (hdiv : x.cdrDividers 0 = cdrWords p c)
    (hc : c.Allowed x.parentRateKhz) : alteraA10CdrPllRecalcRate x =
      (roundedQuotient (x.parentRateKhz * c.m * c.lpfd * 2) (c.n * c.lpd)).map fun tmp =>
        ((min tmp ULONG_MAX).toUInt32, (x.acquireArbitration (.adxcfg 0)).releaseArbitration (.adxcfg 0) false) := by
  have hread : ∀ r, r ≠ 0 → (x.acquireArbitration (.adxcfg 0)).read (.adxcfg 0) r = x.read (.adxcfg 0) r :=
    fun r hr => read_acquireArbitration_of_ne fun h => hr (Prod.mk.inj h).2
  have hmoves : Moves (fun _ => 0xffffffff) x
      ((x.acquireArbitration (.adxcfg 0)).releaseArbitration (.adxcfg 0) false) :=
    (moves_acquireArbitration rfl).trans (moves_write rfl)
  obtain ⟨ha, hrest⟩ := Prod.mk.inj hdiv
  obtain ⟨hm, hn⟩ := Prod.mk.inj hrest
  obtain ⟨hlpd, hlpfd⟩ := decodeCdr_eq hc p
  have hword : x.read (.adxcfg 0) 0x13a = (cdrWords p c).1 := ha
  unfold alteraA10CdrPllRecalcRate
  simp only [hread 0x13a (by decide), hread 0x13b (by decide), hread 0x13c (by decide), hmoves.parentRateKhz,
    hmoves.initialRecalc, hinit, decodeN_eq hc.n hn, hword, hlpd, hlpfd, hm, Bool.false_eq_true, and_false, if_false]
  cases roundedQuotient (x.parentRateKhz * c.m * c.lpfd * 2) (c.n * c.lpd) <;> rfl

lemma cdrRoundRate_eq {rateKhz : UInt32} (hcalc : alteraA10CdrCalcParams x.parentRateKhz rateKhz = some (c, fvco))
    (hc : c.Allowed x.parentRateKhz) : alteraA10CdrPllRoundRate x rateKhz =
      (roundedQuotient (x.parentRateKhz * c.m * c.lpfd * 2) (c.n * c.lpd)).map fun tmp =>
        ((min tmp LONG_MAX).toNat : ℤ) := by
  have hn : ∀ n ∈ ([1, 2, 4, 8] : List UInt32), n ≠ 0 := by decide
  have hlpfd : ∀ l ∈ ([1, 2] : List UInt32), l ≠ 0 := by decide
  have hlpd : ∀ l ∈ ([1, 2, 4, 8, 16] : List UInt32), l ≠ 0 := by decide
  have hm : c.m ≠ 0 := Word.ne_zero_of_pos (Nat.lt_of_lt_of_le (by decide) hc.m_ge)
  unfold alteraA10CdrPllRoundRate
  simp only [hcalc, Option.bind_eq_bind, Option.bind_some, hn c.n hc.n, hlpfd c.lpfd hc.lpfd, hlpd c.lpd hc.lpd, hm,
    or_self, if_false]
  cases roundedQuotient (x.parentRateKhz * c.m * c.lpfd * 2) (c.n * c.lpd) <;> rfl

lemma cdrQuotient {parent : UInt32} (hc : c.Allowed parent) :
    ∃ q, roundedQuotient (parent * c.m * c.lpfd * 2) (c.n * c.lpd) = some q ∧ q.toNat ≤ 0x7fffffff := by
  have hden : ∀ n ∈ ([1, 2, 4, 8] : List UInt32), ∀ l ∈ ([1, 2, 4, 8, 16] : List UInt32),
      n * l ≠ 0 ∧ (n * l).toNat ≤ 128 := by decide
  have hlpfd : ∀ l ∈ ([1, 2] : List UInt32), l.toNat ≤ 2 := by decide
  obtain ⟨hne, hle⟩ := hden _ hc.n _ hc.lpd
  obtain ⟨q, hq, hval⟩ := @roundedQuotient_eq (parent * c.m * c.lpfd * 2) (c.n * c.lpd) hne
  have hnum : (parent * c.m * c.lpfd * 2).toNat ≤ 113200000 * 2 * 2 := by
    have hsmall := hlpfd _ hc.lpfd
    rw [UInt32.toNat_mul, UInt32.toNat_mul, UInt32.toNat_mul]
    calc (parent.toNat * c.m.toNat % 2 ^ 32 * c.lpfd.toNat % 2 ^ 32 * 2) % 2 ^ 32
        ≤ parent.toNat * c.m.toNat % 2 ^ 32 * c.lpfd.toNat % 2 ^ 32 * 2 := Nat.mod_le _ _
      _ ≤ 113200000 * 2 * 2 := by
        apply Nat.mul_le_mul_right
        apply (Nat.mod_le _ _).trans
        exact Nat.mul_le_mul ((Nat.mod_le _ _).trans hc.mul_le) hsmall
  refine ⟨q, hq, ?_⟩
  rw [hval]
  apply (Nat.div_le_self _ _).trans
  lia

end Receive

end AlteraAdxcvr

end NoOS
