import NoOS.Drivers.AlteraAdxcvrFields
import NoOS.Drivers.AlteraAdxcvrSearch

/-!
# The rate of a transmitter

The ATX PLL is read with the divider `l` * `n` / 4, which is 0 if `l` * `n` is 1 or 2.
-/

namespace NoOS
open RegisterFile

namespace AlteraAdxcvr

variable {x y : AlteraAdxcvr} {b : AlteraBlock} {reg : ℕ} {mask val : UInt32}

section Transmit

variable {lanes : ℕ} {c : AtxParams} {fvco : UInt32}

lemma moves_updateAtx (hval : mask &&& val = val) (hsub : fieldOf atxFields reg &&& mask = mask) :
    Moves (updatedFields true lanes) x (x.update .atxPll reg mask val) := moves_update hval hsub

lemma writeAtx_moves : Moves (updatedFields true lanes) x (x.writeAtx c fvco) := by
  have hband : ∀ band ∈ ([1, 2, 3, 4, 5, 6, 7] : List UInt32), ∀ tank ∈ ([0, 1, 2] : List UInt32),
      (0x1f : UInt32) &&& (band ||| (tank <<< (3 : UInt32))) = band ||| (tank <<< (3 : UInt32)) := by decide
  have hcpc : ∀ cpc ∈ ([0x1a, 0x1c, 0x1d, 0x25, 0x26] : List UInt32), ∀ lfr ∈ ([0, 1, 2] : List UInt32),
      (0x7f : UInt32) &&& (((cpc &&& (0x38 : UInt32)) <<< (1 : UInt32)) ||| (0x04 : UInt32) ||| lfr) =
        ((cpc &&& (0x38 : UInt32)) <<< (1 : UInt32)) ||| (0x04 : UInt32) ||| lfr := by decide
  have hlow : ∀ cpc ∈ ([0x1a, 0x1c, 0x1d, 0x25, 0x26] : List UInt32),
      (0x07 : UInt32) &&& (cpc &&& (0x7 : UInt32)) = cpc &&& (0x7 : UInt32) := by decide
  have hn : ∀ n ∈ ([0, 1, 2, 3] : List UInt32), (0x0c : UInt32) &&& (n <<< (2 : UInt32)) = n <<< (2 : UInt32) := by
    decide
  have hl : ∀ l ∈ ([0, 1, 2, 3, 4] : List UInt32), (0x07 : UInt32) &&& l = l := by decide
  apply Moves.trans _ (moves_write rfl)
  apply Moves.trans _ (moves_updateAtx (hl _ (encodeL_mem c.l)) (by decide))
  apply Moves.trans _ (moves_updateAtx (hn _ (encodeN_mem c.n)) (by decide))
  apply Moves.trans _ (moves_updateAtx (hlow _ lookupCpCurrent_mem) (by decide))
  apply Moves.trans _ (moves_updateAtx (hcpc _ lookupCpCurrent_mem _ lookupLfResistance_mem) (by decide))
  exact moves_updateAtx (hband _ (atxBandFrom_mem 0 _) _ lookupTank_mem) (by decide)

lemma calibTx_moves (hlanes : x.lanesPerLink = lanes) : Moves (updatedFields true lanes) x x.calibTx := by
  unfold calibTx
  rw [hlanes]
  apply moves_run
  intro t i hi
  apply moves_calibTxLane
  · exact if_pos hi
  · rw [updatedFields, if_pos hi]
    rfl
  · rw [updatedFields, if_pos hi]
    rfl

lemma calibrateAtx_moves (hlanes : x.lanesPerLink = lanes) : Moves (updatedFields true lanes) x x.calibrateAtx := by
  have hcal : 0x01 &&& XCVR_CALIB_ATX_PLL_EN = XCVR_CALIB_ATX_PLL_EN := rfl
  have hcheck : ∀ t : AlteraAdxcvr, Moves (updatedFields true lanes) t t.atxPllCalibrationCheck.2 :=
    fun t => moves_poll _ _
  have hstart : Moves (updatedFields true lanes) x
      ((x.update .atxPll XCVR_REG_CALIB_ATX_PLL_EN 0x01 XCVR_CALIB_ATX_PLL_EN).releaseArbitration .atxPll true) :=
    (moves_updateAtx hcal (by decide)).trans (moves_write rfl)
  have hboth := hstart.trans (hcheck _)
  exact hboth.trans (calibTx_moves (hboth.lanesPerLink.trans hlanes))

/-- The words that are written for the dividers. -/
def atxWords (c : AtxParams) : UInt32 × UInt32 × UInt32 := (encodeN c.n <<< 2, encodeL c.l, c.m)

lemma writeAtx_dividers : (x.writeAtx c fvco).atxDividers = atxWords c := by
  have hn : ∀ n ∈ ([0, 1, 2, 3] : List UInt32), (n <<< (2 : UInt32)) &&& (0x0c : UInt32) = n <<< (2 : UInt32) := by
    decide
  have hl : ∀ l ∈ ([0, 1, 2, 3, 4] : List UInt32), l &&& (0x07 : UInt32) = l := by decide
  have h7 : (x.writeAtx c fvco).read .atxPll 0x107 &&& 0x0c = (encodeN c.n <<< (2 : UInt32)) &&& 0x0c := by
    rw [writeAtx, read_write_of_ne (by decide), read_update_of_ne (by decide), read_update_self]
    exact update_and rfl
  have h8 : (x.writeAtx c fvco).read .atxPll 0x108 &&& 0x07 = encodeL c.l &&& 0x07 := by
    rw [writeAtx, read_write_of_ne (by decide), read_update_self]
    exact update_and rfl
  have h9 : (x.writeAtx c fvco).read .atxPll 0x109 = c.m := by
    rw [writeAtx, read_write_self]
  rw [atxDividers, h7, h8, h9, hn _ (encodeN_mem c.n), hl _ (encodeL_mem c.l)]
  rfl

lemma read_calibTxLane (lane reg : ℕ) : (x.calibTxLane lane).read .atxPll reg = x.read .atxPll reg := by
  have hne : ∀ r, (AlteraBlock.atxPll, reg) ≠ (AlteraBlock.adxcfg lane, r) := fun r => nofun
  rw [calibTxLane, adxcfgCalibrationCheck, read_poll, releaseArbitration, read_write_of_ne (hne 0),
    read_update_of_ne (hne _), read_update_of_ne (hne _), read_acquireArbitration_of_ne (hne 0)]

lemma read_calibrateAtx (h : reg ≠ 0) (h' : reg ≠ XCVR_REG_CALIB_ATX_PLL_EN) :
    x.calibrateAtx.read .atxPll reg = x.read .atxPll reg := by
  have hlanes : ∀ t : AlteraAdxcvr, t.calibTx.read .atxPll reg = t.read .atxPll reg :=
    fun t => Passes.run_keeps (fun t : AlteraAdxcvr => t.read .atxPll reg) fun u i _ => read_calibTxLane i reg
  rw [calibrateAtx, hlanes, atxPllCalibrationCheck, read_poll, releaseArbitration, read_write_of_ne (by simp [h]),
    read_update_of_ne (by simp [h'])]

lemma read_initialRecalc (recalc : Bool) : ({ x with initialRecalc := recalc } : AlteraAdxcvr).read b reg = x.read b reg :=
  rfl

lemma atxDividers_congr (h : ∀ r, y.read .atxPll r = x.read .atxPll r) : y.atxDividers = x.atxDividers := by
  rw [atxDividers, h, h, h, atxDividers]

lemma calibrateAtx_dividers : x.calibrateAtx.atxDividers = x.atxDividers := by
  rw [atxDividers, read_calibrateAtx (by decide) (by decide), read_calibrateAtx (by decide) (by decide),
    read_calibrateAtx (by decide) (by decide), atxDividers]

lemma postLaneRateChange_dividers {rateKhz : UInt32} :
    (x.postLaneRateChange rateKhz).atxDividers = x.atxDividers := by
  have hne : AlteraBlock.atxPll ≠ .core := nofun
  have hread : ∀ r, (x.postLaneRateChange rateKhz).read .atxPll r = x.read .atxPll r :=
    fun r => read_postLaneRateChange hne rateKhz
  exact atxDividers_congr hread

/-- The candidate that the search for a transmitter keeps, if any. -/
def atxClosest (x : AlteraAdxcvr) (rateKhz : UInt32) : Option AtxParams :=
  closest (atxF x.parentRateKhz) rateKhz 0xffffffff (atxCandidates x.parentRateKhz)

/-- What a successful call has found and written. -/
structure AtxSet (x y : AlteraAdxcvr) (rateKhz : UInt32) (c : AtxParams) : Prop where
  closest : x.atxClosest rateKhz = some c
  allowed : c.Allowed x.parentRateKhz
  calcParams : alteraA10AtxCalcParams x.parentRateKhz rateKhz = some (c, atxFvco x.parentRateKhz c)
  dividers : y.atxDividers = atxWords c
  parentRateKhz : y.parentRateKhz = x.parentRateKhz
  isTransmit : y.isTransmit = x.isTransmit
  initialRecalc : y.initialRecalc = false
  keeps : Keeps (updatedFields true x.lanesPerLink) x.regs y.regs

lemma atxCalcParams_eq {fref fout : UInt32} {found : AtxParams × UInt32}
    (h : alteraA10AtxCalcParams fref fout = some found) : found =
      (closest (atxF fref) fout 0xffffffff (atxCandidates fref)).elim (⟨0, 0, 0⟩, 0) fun c => (c, atxFvco fref c) := by
  unfold alteraA10AtxCalcParams at h
  split_ifs at h
  obtain ⟨best, hbest, rfl⟩ := Option.map_eq_some_iff.mp h
  rw [closestSearch_eq hbest]

lemma atxSetRate_spec {rateKhz : UInt32} (h : alteraA10AtxPllSetRate x rateKhz = some (SUCCESS, y)) :
    ∃ c, AtxSet x y rateKhz c := by
  obtain ⟨found, hcalc, h⟩ := Option.bind_eq_some_iff.mp h
  have hfound := atxCalcParams_eq hcalc
  dsimp only at h
  split_ifs at h with hzero
  · exact absurd (Prod.mk.inj (Option.some.inj h)).1 (by decide)
  · cases hclosest : closest (atxF x.parentRateKhz) rateKhz 0xffffffff (atxCandidates x.parentRateKhz) with
    | none =>
      rw [hclosest] at hfound
      subst hfound
      exact absurd (Or.inl rfl) hzero
    | some c =>
      rw [hclosest] at hfound
      subst hfound
      obtain rfl := (Prod.mk.inj (Option.some.inj h)).2
      have hstart : Moves (updatedFields true x.lanesPerLink) x (x.preLaneRateChange.acquireArbitration .atxPll) :=
        (moves_preLaneRateChange rfl).trans (moves_acquireArbitration rfl)
      have hwritten := hstart.trans (@writeAtx_moves _ x.lanesPerLink c (atxFvco x.parentRateKhz c))
      have hcal := hwritten.trans (calibrateAtx_moves hwritten.lanesPerLink)
      have hall := hcal.trans (moves_postLaneRateChange rfl rateKhz)
      refine ⟨c, hclosest, atx_allowed (closest_mem hclosest), hcalc, ?_, hall.parentRateKhz, hall.isTransmit, rfl,
        hall.keeps⟩
      have hpost := @postLaneRateChange_dividers ((x.preLaneRateChange.acquireArbitration .atxPll).writeAtx c
        (atxFvco x.parentRateKhz c)).calibrateAtx rateKhz
      rw [calibrateAtx_dividers, writeAtx_dividers] at hpost
      rw [← hpost]
      exact atxDividers_congr fun _ => read_initialRecalc false

lemma decodeL_eq {l div : UInt32} (hl : l ∈ ([1, 2, 4, 8, 16] : List UInt32)) (h : div &&& 0x07 = encodeL l) :
    (1 : UInt32) <<< (div &&& 0x7) = l := by
  have hall : ∀ l ∈ ([1, 2, 4, 8, 16] : List UInt32), (1 : UInt32) <<< encodeL l = l := by decide
  rw [h]
  exact hall l hl

lemma atxRecalcRate_eq {c : AtxParams} (hinit : x.initialRecalc = false) (hdiv : x.atxDividers = atxWords c)
    (hc : c.Allowed x.parentRateKhz) : alteraA10AtxPllRecalcRate x =
      (roundedQuotient (x.parentRateKhz * c.m) (c.l * c.n / 4)).map fun tmp =>
        ((min tmp ULONG_MAX).toUInt32, (x.acquireArbitration .atxPll).releaseArbitration .atxPll false) := by
  have hread : ∀ r, r ≠ 0 → (x.acquireArbitration .atxPll).read .atxPll r = x.read .atxPll r :=
    fun r hr => read_acquireArbitration_of_ne fun h => hr (Prod.mk.inj h).2
  have hmoves : Moves (fun _ => 0xffffffff) x ((x.acquireArbitration .atxPll).releaseArbitration .atxPll false) :=
    (moves_acquireArbitration rfl).trans (moves_write rfl)
  obtain ⟨hn, hl, hm⟩ : x.read .atxPll 0x107 &&& 0x0c = encodeN c.n <<< (2 : UInt32) ∧
      x.read .atxPll 0x108 &&& 0x07 = encodeL c.l ∧ x.read .atxPll 0x109 = c.m := by
    rwa [atxDividers, atxWords, Prod.mk.injEq, Prod.mk.injEq] at hdiv
  unfold alteraA10AtxPllRecalcRate
  simp only [hread 0x107 (by decide), hread 0x108 (by decide), hread 0x109 (by decide), hmoves.parentRateKhz,
    hmoves.initialRecalc, hinit, decodeN_eq hc.n hn, decodeL_eq hc.l hl, hm, Bool.false_eq_true, and_false, if_false]
  cases roundedQuotient (x.parentRateKhz * c.m) (c.l * c.n / 4) <;> rfl

lemma atxRoundRate_eq {rateKhz fvco : UInt32} {c : AtxParams}
    (hcalc : alteraA10AtxCalcParams x.parentRateKhz rateKhz = some (c, fvco)) (hc : c.Allowed x.parentRateKhz) :
    alteraA10AtxPllRoundRate x rateKhz =
      (roundedQuotient (x.parentRateKhz * c.m * 4) (c.l * c.n)).map fun tmp => ((min tmp LONG_MAX).toNat : ℤ) := by
  have hn : ∀ n ∈ ([1, 2, 4, 8] : List UInt32), n ≠ 0 := by decide
  have hl : ∀ l ∈ ([1, 2, 4, 8, 16] : List UInt32), l ≠ 0 := by decide
  have hm : c.m ≠ 0 := Word.ne_zero_of_pos (Nat.lt_of_lt_of_le (by decide) hc.m_ge)
  unfold alteraA10AtxPllRoundRate
  simp only [hcalc, Option.bind_eq_bind, Option.bind_some, hn c.n hc.n, hl c.l hc.l, hm, or_self, if_false]
  cases roundedQuotient (x.parentRateKhz * c.m * 4) (c.l * c.n) <;> rfl

lemma quarter_rate {c : AtxParams} (hn : c.n ∈ ([1, 2, 4, 8] : List UInt32))
    (hl : c.l ∈ ([1, 2, 4, 8, 16] : List UInt32)) (h4 : 4 ≤ c.n.toNat * c.l.toNat) (p : ℕ) :
    c.l * c.n / 4 ≠ 0 ∧ (4 * p + (c.l * c.n).toNat / 2) / (c.l * c.n).toNat =
      (p + (c.l * c.n / 4).toNat / 2) / (c.l * c.n / 4).toNat := by
  have hpowers : ∀ l ∈ ([1, 2, 4, 8, 16] : List UInt32), ∀ n ∈ ([1, 2, 4, 8] : List UInt32),
      4 ≤ n.toNat * l.toNat → l * n / 4 ≠ 0 ∧ (l * n).toNat = 4 * (l * n / 4).toNat ∧
        ((l * n / 4).toNat = 1 ∨ (l * n / 4).toNat % 2 = 0) := by decide
  obtain ⟨hne, hfour, heven⟩ := hpowers c.l hl c.n hn h4
  refine ⟨hne, ?_⟩
  generalize (c.l * c.n / 4).toNat = d at hfour heven
  rw [hfour]
  rcases heven with rfl | heven
  · lia
  · obtain ⟨e, rfl⟩ := Nat.dvd_of_mod_eq_zero heven
    have hhalf : 4 * (2 * e) / 2 = 4 * e := by lia
    have hhalf' : 2 * e / 2 = e := by lia
    rw [hhalf, hhalf', ← Nat.mul_add, Nat.mul_div_mul_left _ _ (by decide)]

lemma small_divider {c : AtxParams} (hn : c.n ∈ ([1, 2, 4, 8] : List UInt32))
    (hl : c.l ∈ ([1, 2, 4, 8, 16] : List UInt32)) (h4 : c.n.toNat * c.l.toNat < 4) : c.l * c.n / 4 = 0 := by
  have hpowers : ∀ l ∈ ([1, 2, 4, 8, 16] : List UInt32), ∀ n ∈ ([1, 2, 4, 8] : List UInt32),
      n.toNat * l.toNat < 4 → l * n / 4 = 0 := by decide
  exact hpowers c.l hl c.n hn h4

end Transmit

end AlteraAdxcvr

end NoOS
