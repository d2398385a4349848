import NoOS.Drivers.Ad9517Registers
import NoOS.Lib.Trace

/-!
# The rates of the channels

What a call writes is decoded again. The bypass bits that earlier calls have left decide whether the divider that a
call reports is the one in use.
-/

namespace NoOS

variable {dev : Ad9517Dev} {channel frequency v : ℕ}

/-- The dividers that the hardware has for a channel. -/
def DividerAllowed (channel d : ℕ) : Prop := if channel ≤ 3 then 1 ≤ d ∧ d ≤ 32 else IsProduct d

lemma DividerAllowed.product {d : ℕ} (h : DividerAllowed channel d) : IsProduct d := by
  unfold DividerAllowed at h
  split at h
  · exact isProduct_of_le h.1 h.2
  · exact h

lemma DividerAllowed.le_max {d : ℕ} (h : DividerAllowed channel d) (hchannel : channel ≤ 7) :
    d ≤ ad9517DividerMax channel := by
  unfold DividerAllowed at h
  unfold ad9517DividerMax
  split at h
  · rw [if_pos ‹_›]
    exact h.2
  · rw [if_neg ‹_›, if_pos hchannel]
    exact h.le

lemma next_one : Next 1 2 := ⟨isProduct_of_le (by decide) (by decide), by decide, fun _ _ h => h⟩

lemma next_thirtyTwo : Next 32 33 := ⟨⟨3, 11, by decide, by decide, by decide, by decide, rfl⟩, by decide, fun _ _ h => h⟩

/-- What is known about the divider that a call takes for the frequency `c` at the channel dividers. -/
structure Taken (channel c f d : ℕ) : Prop where
  product : IsProduct d
  rate_pos : 1 ≤ c / d
  one_lt : 1 < d ↔ 2 * f ≤ c / 1 + c / 2
  lvpecl : channel ≤ 3 → (d ≤ 32 ↔ ¬ (c / f = 32 ∧ 2 * f ≤ c / 32 + c / 33))
  lvds : 4 ≤ channel → (32 < d ↔ 2 * f ≤ c / 32 + c / 33)
  nearest : ∀ e, DividerAllowed channel e → |((c / d : ℕ) : Int) - f| ≤ |((c / e : ℕ) : Int) - f|

variable {c f : ℕ}

lemma div_ge_of_le {d : ℕ} (hf : 0 < f) (hpos : 1 ≤ d) (hle : d ≤ c / f) : f ≤ c / d :=
  (Nat.le_div_iff_mul_le hpos).mpr (Nat.mul_comm f d ▸ (Nat.le_div_iff_mul_le hf).mp hle)

lemma div_lt_of_gt {d : ℕ} (hf : 0 < f) (hpos : 1 ≤ d) (hlt : c / f < d) : c / d < f := by
  rw [Nat.div_lt_iff_lt_mul hpos, Nat.mul_comm]
  exact (Nat.div_lt_iff_lt_mul hf).mp hlt

lemma taken_max (hf : 0 < f) (hchannel : channel ≤ 7) (hgt : c / f > ad9517DividerMax channel) :
    Taken channel c f (ad9517DividerMax channel) := by
  have hmax : ad9517DividerMax channel = 32 ∧ channel ≤ 3 ∨ ad9517DividerMax channel = 1024 ∧ 4 ≤ channel := by
    unfold ad9517DividerMax
    split <;> lia
  have hproduct : IsProduct (ad9517DividerMax channel) := by
    rcases hmax with ⟨h, -⟩ | ⟨h, -⟩ <;> rw [h]
    · exact isProduct_of_le (by decide) (by decide)
    · exact ⟨32, 32, by decide, by decide, by decide, by decide, rfl⟩
  have hrate := div_ge_of_le hf hproduct.pos hgt.le
  have hone : f ≤ c / 1 := div_ge_of_le hf (by decide) (by lia)
  have htwo : f ≤ c / 2 := div_ge_of_le hf (by decide) (by lia)
  refine ⟨hproduct, by lia, iff_of_true (by lia) (by lia), ?_, ?_, ?_⟩
  · intro hlvpecl
    exact iff_of_true (by lia) (by lia)
  · intro hlvds
    have hsmall : f ≤ c / 32 := div_ge_of_le hf (by decide) (by lia)
    have hnext : f ≤ c / 33 := div_ge_of_le hf (by decide) (by lia)
    exact iff_of_true (by lia) (by lia)
  · intro e he
    have hle : c / ad9517DividerMax channel ≤ c / e := Nat.div_le_div_left (he.le_max hchannel) he.product.pos
    rw [abs_of_nonneg (by lia), abs_of_nonneg (by lia)]
    lia

lemma taken_choice (hf : 0 < f) (hle : c / f ≤ ad9517DividerMax channel) {r : ℕ × ℕ} (hr : Around (c / f) r) :
    Taken channel c f (chooseDivider c f r) := by
  have hgt := chooseDivider_gt_iff hr hf (isProduct_of_le (by decide) (Nat.le_refl 32)) next_thirtyTwo
  refine ⟨chooseDivider_product hr, chooseDivider_rate_pos hr hf,
    chooseDivider_gt_iff hr hf (isProduct_of_le (by decide) (by decide)) next_one, ?_, fun _ => hgt,
    fun e he => chooseDivider_nearest hr hf he.product⟩
  intro hlvpecl
  rw [← Nat.not_lt, hgt]
  apply not_congr
  constructor
  · intro hsum
    refine ⟨?_, hsum⟩
    by_contra hne
    have hmax : ad9517DividerMax channel = 32 := if_pos hlvpecl
    have hthirtyTwo : c / 32 < f := div_lt_of_gt hf (by decide) (by lia)
    have hthirtyThree : c / 33 < f := div_lt_of_gt hf (by decide) (by lia)
    lia
  · exact And.right

lemma takeDivider_ok (hf : 0 < f) (hchannel : channel ≤ 7) (hfound : ¬ (4 ≤ channel ∧ c / f = 1024))
    (hpos : 1 ≤ c / f) : ∃ d, takeDivider (ad9517DividerMax channel) c f = .ok d ∧ Taken channel c f d := by
  unfold takeDivider
  by_cases hgt : c / f > ad9517DividerMax channel
  · exact ⟨_, if_pos hgt, taken_max hf hchannel hgt⟩
  · have hlt : c / f < 1024 := by
      unfold ad9517DividerMax at hgt
      split at hgt <;> lia
    obtain ⟨r, hrun, hr⟩ := searchDividers_spec hf (isProduct_of_le (Nat.le_refl 1) (by decide)) hpos hlt
      (by lia : c / f + 1 < 1 + 1025) 1
    refine ⟨_, ?_, taken_choice hf (Nat.not_lt.mp hgt) hr⟩
    rw [if_neg hgt, hrun]
    rfl

lemma takeDivider_hang (hf : 0 < f) (hchannel : 4 ≤ channel ∧ channel ≤ 7) (hhang : c / f = 1024) :
    takeDivider (ad9517DividerMax channel) c f = .error .hang := by
  have hmax : ad9517DividerMax channel = 1024 := by
    rw [ad9517DividerMax, if_neg (by lia), if_pos hchannel.2]
  rw [takeDivider, if_neg (by lia), searchDividers_hang hf (isProduct_of_le (Nat.le_refl 1) (by decide)) hhang.ge]
  rfl

/-- The VCO divider that is decoded is the one in use if it is at most 6 and no bypass is left for it. -/
lemma programVcoDivider_decoded (hpos : 1 ≤ v) (hle : v ≤ 255)
    (hsel : v = 1 → dev.regs AD9517_REG_INPUT_CLKS &&& AD9517_SEL_VCO_CLK = 0) :
    ((programVcoDivider dev v).decodedVcoDivider = some v ∧
      v ≤ 6 ∧ (v = 1 ∨ ¬ dev.Bypassed AD9517_REG_INPUT_CLKS AD9517_BYPASS_VCO_DIVIDER)) ∨
    (¬ (v ≤ 6 ∧ (v = 1 ∨ ¬ dev.Bypassed AD9517_REG_INPUT_CLKS AD9517_BYPASS_VCO_DIVIDER)) ∧
      ∀ v', (programVcoDivider dev v).decodedVcoDivider = some v' → 2 * v' ≤ v) := by
  by_cases hone : v = 1
  · have hprogram : programVcoDivider dev v =
        dev.write AD9517_REG_INPUT_CLKS (dev.regs AD9517_REG_INPUT_CLKS ||| AD9517_BYPASS_VCO_DIVIDER) :=
      if_pos ⟨hone, hsel hone⟩
    rw [hprogram, Ad9517Dev.decodedVcoDivider, if_pos (Ad9517Dev.bypassed_or (by decide) _)]
    exact Or.inl ⟨by rw [hone], by omega, Or.inl hone⟩
  · have hprogram : programVcoDivider dev v = dev.write AD9517_REG_VCO_DIVIDER ((UInt8.ofNat v - 2) &&& 0x7) :=
      if_neg fun h => hone h.1
    have hkept := @Ad9517Dev.bypassed_congr dev _ _ (@Ad9517Dev.regs_write_of_ne dev _ ((UInt8.ofNat v - 2) &&& 0x7) _
      (by decide : AD9517_REG_INPUT_CLKS ≠ AD9517_REG_VCO_DIVIDER)) AD9517_BYPASS_VCO_DIVIDER
    have hfield : ((UInt8.ofNat v - 2) &&& 0x7 &&& 0x7).toNat = (v - 2) % 8 := by
      rw [UInt8.and_assoc, UInt8.and_self, UInt8.toNat_and, UInt8.toNat_sub,
        UInt8.toNat_ofNat_of_lt' (by simp only [UInt8.size]; omega), show UInt8.toNat 0x7 = 2 ^ 3 - 1 from rfl,
        Nat.and_two_pow_sub_one_eq_mod, show UInt8.toNat 2 = 2 from rfl]
      lia
    rw [hprogram, Ad9517Dev.decodedVcoDivider, if_congr hkept rfl rfl, Ad9517Dev.regs_write_self, hfield]
    by_cases hbypass : dev.Bypassed AD9517_REG_INPUT_CLKS AD9517_BYPASS_VCO_DIVIDER
    · refine Or.inr ⟨fun h => (h.2.resolve_left hone) hbypass, fun v' hv' => ?_⟩
      rw [if_pos hbypass] at hv'
      have heq := Option.some.inj hv'
      lia
    · rw [if_neg hbypass]
      by_cases hsmall : v ≤ 6
      · refine Or.inl ⟨?_, hsmall, Or.inr hbypass⟩
        rw [if_pos (by lia), show (v - 2) % 8 + 2 = v by lia]
      · refine Or.inr ⟨fun h => hsmall h.1, fun v' hv' => ?_⟩
        split at hv'
        · have heq := Option.some.inj hv'
          lia
        · exact absurd hv' nofun

/-- Nothing that the VCO divider depends on is changed. -/
structure SameInput (dev dev' : Ad9517Dev) : Prop where
  sel : dev'.vcoClkSel = dev.vcoClkSel
  clock : ad9517Clock dev' = ad9517Clock dev
  divider : dev'.regs AD9517_REG_VCO_DIVIDER = dev.regs AD9517_REG_VCO_DIVIDER
  input : dev'.regs AD9517_REG_INPUT_CLKS = dev.regs AD9517_REG_INPUT_CLKS

lemma SameInput.decodedVcoDivider {dev' : Ad9517Dev} (h : SameInput dev dev') :
    dev'.decodedVcoDivider = dev.decodedVcoDivider := by
  rw [Ad9517Dev.decodedVcoDivider, Ad9517Dev.decodedVcoDivider, h.divider,
    if_congr (Ad9517Dev.bypassed_congr h.input _) rfl rfl]

lemma sameInput_write {a : ℕ} (ha : a < AD9517_REG_VCO_DIVIDER) (val : UInt8) : SameInput dev (dev.write a val) := by
  unfold AD9517_REG_VCO_DIVIDER at ha
  refine ⟨rfl, rfl, Ad9517Dev.regs_write_of_ne ?_, Ad9517Dev.regs_write_of_ne ?_⟩
  · unfold AD9517_REG_VCO_DIVIDER
    omega
  · unfold AD9517_REG_INPUT_CLKS
    omega

lemma SameInput.trans {dev' dev'' : Ad9517Dev} (h : SameInput dev dev') (h' : SameInput dev' dev'') :
    SameInput dev dev'' :=
  ⟨h'.sel.trans h.sel, h'.clock.trans h.clock, h'.divider.trans h.divider, h'.input.trans h.input⟩

lemma channelRegs_lt (channel : ℕ) : lvpeclDivider0 channel < AD9517_REG_VCO_DIVIDER ∧
    lvpeclDivider1 channel < AD9517_REG_VCO_DIVIDER ∧ lvdsDivider0 channel < AD9517_REG_VCO_DIVIDER ∧
    lvdsDivider2 channel < AD9517_REG_VCO_DIVIDER ∧ lvdsDivider3 channel < AD9517_REG_VCO_DIVIDER := by
  unfold lvpeclDivider0 lvpeclDivider1 lvdsDivider0 lvdsDivider2 lvdsDivider3
  refine ⟨?_, ?_, ?_, ?_, ?_⟩ <;> split <;> decide

lemma sameInput_programLvpecl (channel d : ℕ) : SameInput dev (programLvpecl dev channel d).dev := by
  obtain ⟨h0, h1, -⟩ := channelRegs_lt channel
  unfold programLvpecl
  split
  · exact sameInput_write h1 _
  · dsimp only
    split
    · exact sameInput_write h0 _
    · exact (sameInput_write (by decide) _).trans (sameInput_write h0 _)

lemma sameInput_programLvds {d : ℕ} {p : Ad9517Programmed} (h : programLvds dev channel d = .ok p) :
    SameInput dev p.dev := by
  obtain ⟨-, -, h0, h2, h3⟩ := channelRegs_lt channel
  unfold programLvds at h
  split at h
  · rw [← Except.ok.inj h]
    exact sameInput_write h3 _
  · split at h
    · rw [← Except.ok.inj h]
      exact (sameInput_write h3 _).trans (sameInput_write h0 _)
    · cases hsplit : splitDivider d 33 32 with
      | error e =>
        rw [hsplit] at h
        exact absurd h nofun
      | ok xy =>
        rw [hsplit] at h
        rw [← Except.ok.inj h]
        exact (sameInput_write h0 _).trans (sameInput_write h2 _)

lemma div_ne_of_half {n p p' : ℕ} (hpos : 1 ≤ n / p) (hhalf : 2 * p' ≤ p) : n / p' ≠ n / p := by
  intro heq
  have hp : 0 < p' := Nat.pos_of_ne_zero fun hzero => by
    rw [hzero, Nat.div_zero] at heq
    omega
  have hmul : 2 * (n / p) ≤ n / p' := by
    rw [Nat.le_div_iff_mul_le hp]
    calc 2 * (n / p) * p' = n / p * (2 * p') := by ring
      _ ≤ n / p * p := Nat.mul_le_mul_left _ hhalf
      _ ≤ n := Nat.div_mul_le_self n p
  lia

namespace Ad9517Dev

/-- A call for which something is claimed: the frequency is not above the clock at the channel dividers. -/
def InRange (dev : Ad9517Dev) (channel frequency : ℕ) : Prop :=
  channel ≤ 7 ∧ 0 < frequency ∧ frequency ≤ ad9517Clock dev / dev.vcoDividerFloor

/-- A call returns; if it returns a rate, the registers stand for it, its dividers fit into their fields, and no
other divider comes closer at the chosen VCO divider. -/
def Right (dev : Ad9517Dev) (channel frequency : ℕ) : Prop :=
  match ad9517Frequency dev channel frequency with
  | .error _ => False
  | .ok r => 0 < r.ret →
    r.programmed.dev.decodedRate channel = some r.ret.toNat ∧ DividerAllowed channel r.divider ∧
    (∀ d ∈ r.programmed.dividers, CyclesFit d) ∧
    ∀ d, DividerAllowed channel d →
      |r.ret - frequency| ≤ |((ad9517Clock dev / r.vcoDivider / d : ℕ) : Int) - frequency|

/-- The clock does not need a VCO divider above 6, no bypass bit is left that is not wanted, and the search does not
leave the dividers that the channel has. -/
def RateAllowed (dev : Ad9517Dev) (channel frequency : ℕ) : Prop :=
  let c := dev.channelClock channel frequency
  ad9517Clock dev < 9600000006 ∧
  (dev.vcoDividerFor channel frequency = 1 ∨ ¬ dev.Bypassed AD9517_REG_INPUT_CLKS AD9517_BYPASS_VCO_DIVIDER) ∧
  if channel ≤ 3 then
    ¬ (c / frequency = 32 ∧ 2 * frequency ≤ c / 32 + c / 33) ∧
    ¬ (2 ≤ channel ∧ 2 * frequency ≤ c / 1 + c / 2 ∧ dev.Bypassed (lvpeclDivider1 channel) AD9517_DIVIDER_BYPASS)
  else
    c / frequency ≠ 1024 ∧
    ¬ (2 * frequency ≤ c / 1 + c / 2 ∧ dev.Bypassed (lvdsDivider3 channel) AD9517_BYPASS_DIVIDER_1) ∧
    ¬ (2 * frequency ≤ c / 32 + c / 33 ∧ dev.Bypassed (lvdsDivider3 channel) AD9517_BYPASS_DIVIDER_2)

end Ad9517Dev

lemma vcoDividerFor_pos : 1 ≤ dev.vcoDividerFor channel frequency := by
  unfold Ad9517Dev.vcoDividerFor Ad9517Dev.vcoDividerFloor
  lia

lemma floor_le_six_iff : dev.vcoDividerFloor ≤ 6 ↔ ad9517Clock dev < 9600000006 := by
  have hmin := (vcoDividerMin_pos dev).2
  unfold Ad9517Dev.vcoDividerFloor
  lia

lemma ad9517Frequency_refused (hfloor : 255 < dev.vcoDividerFloor) :
    ad9517Frequency dev channel frequency = .error .divisionByZero := by
  unfold ad9517Frequency
  rw [raise_error hfloor]
  rfl

lemma ad9517Frequency_eq (hchannel : channel ≤ 7) (hf : 0 < frequency) (hfloor : dev.vcoDividerFloor ≤ 255) :
    ad9517Frequency dev channel frequency = (do
      let divider ← takeDivider (ad9517DividerMax channel) (dev.channelClock channel frequency) frequency
      let programmed ← programDivider (programVcoDivider dev (dev.vcoDividerFor channel frequency)) channel divider
      pure ⟨(dev.channelClock channel frequency / divider : ℕ), dev.vcoDividerFor channel frequency, divider,
        programmed⟩) := by
  obtain ⟨v, hraise, hspread⟩ := @raise_spread_eq dev channel frequency hfloor
  have hmax : ad9517DividerMax channel ≠ 0 := by
    unfold ad9517DividerMax
    split <;> omega
  unfold ad9517Frequency
  rw [hraise]
  simp only [bind, Except.bind, hspread]
  rw [if_neg hf.ne', if_neg fun h => hmax h.2, if_pos hchannel]
  rfl

/-- A bypass bit is left that the divider `d` does not want. -/
def Ad9517Dev.Stale (dev : Ad9517Dev) (channel d : ℕ) : Prop :=
  if channel ≤ 3 then 2 ≤ channel ∧ 1 < d ∧ dev.Bypassed (lvpeclDivider1 channel) AD9517_DIVIDER_BYPASS
  else 1 < d ∧ dev.Bypassed (lvdsDivider3 channel) AD9517_BYPASS_DIVIDER_1 ∨
    32 < d ∧ dev.Bypassed (lvdsDivider3 channel) AD9517_BYPASS_DIVIDER_2

lemma programDivider_ok (hle : channel ≤ 3) (d : ℕ) :
    programDivider dev channel d = .ok (programLvpecl dev channel d) := if_pos hle

/-- The divider that is decoded is the one in use unless a bypass bit is left, which at least halves it. -/
lemma programDivider_decoded {d : ℕ} (hd : DividerAllowed channel d) :
    ∃ p, programDivider dev channel d = .ok p ∧ SameInput dev p.dev ∧ (∀ e ∈ p.dividers, CyclesFit e) ∧
      (p.dev.decodedDivider channel = d ∧ ¬ dev.Stale channel d ∨
        dev.Stale channel d ∧ 2 * p.dev.decodedDivider channel ≤ d) := by
  unfold Ad9517Dev.Stale
  by_cases hlvpecl : channel ≤ 3
  · unfold DividerAllowed at hd
    rw [if_pos hlvpecl] at hd ⊢
    refine ⟨_, programDivider_ok hlvpecl d, sameInput_programLvpecl channel d, ?_, ?_⟩
    · intro e he
      unfold programLvpecl at he
      split at he
      · exact absurd he List.not_mem_nil
      · rw [List.mem_singleton.mp he]
        exact cyclesFit_of_le hd.2
    · rw [programLvpecl_decoded hlvpecl hd.1 hd.2]
      by_cases hstale : 2 ≤ channel ∧ 1 < d ∧ dev.Bypassed (lvpeclDivider1 channel) AD9517_DIVIDER_BYPASS
      · rw [if_pos hstale]
        exact Or.inr ⟨hstale, hstale.2.1⟩
      · rw [if_neg hstale]
        exact Or.inl ⟨rfl, hstale⟩
  · unfold DividerAllowed at hd
    rw [if_neg hlvpecl] at hd ⊢
    obtain ⟨p, x, y, hrun, hxy, hx, hy, -, hfit, hdecoded⟩ := @programLvds_decoded dev channel (by omega) d hd
    have hposd := hd.pos
    refine ⟨p, (if_neg hlvpecl).trans hrun, sameInput_programLvds hrun, hfit, ?_⟩
    rw [hdecoded]
    by_cases hfirst : 1 < d ∧ dev.Bypassed (lvdsDivider3 channel) AD9517_BYPASS_DIVIDER_1
    · refine Or.inr ⟨Or.inl hfirst, ?_⟩
      have htwo := hx hfirst.1
      rw [if_pos hfirst, Nat.one_mul]
      split
      · exact hfirst.1
      · rw [← hxy]
        exact Nat.mul_le_mul_right y htwo
    · by_cases hsecond : 32 < d ∧ dev.Bypassed (lvdsDivider3 channel) AD9517_BYPASS_DIVIDER_2
      · refine Or.inr ⟨Or.inr hsecond, ?_⟩
        rw [if_neg hfirst, if_pos hsecond, Nat.mul_one, ← hxy, Nat.mul_comm 2]
        exact Nat.mul_le_mul_left x (hy hsecond.1)
      · rw [if_neg hfirst, if_neg hsecond]
        exact Or.inl ⟨hxy, fun h => h.elim hfirst hsecond⟩

lemma stale_programVcoDivider {d : ℕ} :
    (programVcoDivider dev v).Stale channel d ↔ dev.Stale channel d := by
  have hkept : ∀ a b, a < AD9517_REG_VCO_DIVIDER → ((programVcoDivider dev v).Bypassed a b ↔ dev.Bypassed a b) := by
    intro a b ha
    unfold AD9517_REG_VCO_DIVIDER at ha
    apply Ad9517Dev.bypassed_congr
    unfold programVcoDivider
    dsimp only
    split
    · exact Ad9517Dev.regs_write_of_ne (by unfold AD9517_REG_INPUT_CLKS; omega)
    · exact Ad9517Dev.regs_write_of_ne (by unfold AD9517_REG_VCO_DIVIDER; omega)
  obtain ⟨-, h1, -, -, h3⟩ := channelRegs_lt channel
  unfold Ad9517Dev.Stale
  rw [hkept _ _ h1, hkept _ _ h3, hkept _ _ h3]

lemma rateAllowed_iff {d : ℕ} (hchannel : channel ≤ 7) (hd : Taken channel (dev.channelClock channel frequency) frequency d)
    (hfound : ¬ (4 ≤ channel ∧ dev.channelClock channel frequency / frequency = 1024)) :
    dev.RateAllowed channel frequency ↔
      (dev.vcoDividerFor channel frequency ≤ 6 ∧ (dev.vcoDividerFor channel frequency = 1 ∨
        ¬ dev.Bypassed AD9517_REG_INPUT_CLKS AD9517_BYPASS_VCO_DIVIDER)) ∧
      DividerAllowed channel d ∧ ¬ dev.Stale channel d := by
  have hclock : ad9517Clock dev < 9600000006 ↔ dev.vcoDividerFor channel frequency ≤ 6 := by
    rw [← floor_le_six_iff]
    unfold Ad9517Dev.vcoDividerFor
    lia
  unfold Ad9517Dev.RateAllowed Ad9517Dev.Stale DividerAllowed
  dsimp only
  rw [hclock, ← hd.one_lt]
  by_cases hlvpecl : channel ≤ 3
  · have hone := hd.product.pos
    rw [if_pos hlvpecl, if_pos hlvpecl, if_pos hlvpecl, ← hd.lvpecl hlvpecl]
    tauto
  · have hproduct := hd.product
    have hfound' : dev.channelClock channel frequency / frequency ≠ 1024 := fun h => hfound ⟨by lia, h⟩
    rw [if_neg hlvpecl, if_neg hlvpecl, if_neg hlvpecl, ← hd.lvds (by omega), not_or]
    simp only [hfound', hproduct, ne_eq, not_false_eq_true, true_and, and_assoc]

/-- What `ad9517_setup` leaves, and all calls keep. -/
def Ad9517Dev.Selected (dev : Ad9517Dev) : Prop :=
  dev.vcoClkSel = 0 → dev.regs AD9517_REG_INPUT_CLKS &&& AD9517_SEL_VCO_CLK = 0

lemma Ad9517Dev.Selected.of_one (h : dev.Selected) (hone : dev.vcoDividerFor channel frequency = 1) :
    dev.regs AD9517_REG_INPUT_CLKS &&& AD9517_SEL_VCO_CLK = 0 := by
  apply h
  by_contra hsel
  unfold Ad9517Dev.vcoDividerFor Ad9517Dev.vcoDividerFloor ad9517VcoDividerMin at hone
  rw [if_pos hsel] at hone
  lia

/-- The registers stand for the rate exactly if the VCO divider and the divider are those in use. -/
lemma decodedRate_iff {d : ℕ} {p : Ad9517Programmed} (hsel : dev.Selected)
    (hmax : dev.vcoDividerFor channel frequency ≤ 255) (hpos : 1 ≤ dev.channelClock channel frequency / d)
    (hinput : SameInput (programVcoDivider dev (dev.vcoDividerFor channel frequency)) p.dev)
    (hdecoded : p.dev.decodedDivider channel = d ∧ ¬ dev.Stale channel d ∨
      dev.Stale channel d ∧ 2 * p.dev.decodedDivider channel ≤ d) :
    p.dev.decodedRate channel = some (dev.channelClock channel frequency / d) ↔
      (dev.vcoDividerFor channel frequency ≤ 6 ∧ (dev.vcoDividerFor channel frequency = 1 ∨
        ¬ dev.Bypassed AD9517_REG_INPUT_CLKS AD9517_BYPASS_VCO_DIVIDER)) ∧ ¬ dev.Stale channel d := by
  have hclock : ad9517Clock p.dev = ad9517Clock dev := by
    rw [hinput.clock]
    unfold programVcoDivider
    dsimp only
    split <;> rfl
  unfold Ad9517Dev.channelClock at hpos ⊢
  rw [Nat.div_div_eq_div_mul] at hpos ⊢
  rw [Ad9517Dev.decodedRate, hinput.decodedVcoDivider, hclock]
  have hle : p.dev.decodedDivider channel ≤ d := by lia
  rcases programVcoDivider_decoded vcoDividerFor_pos hmax hsel.of_one with ⟨hvco, hcond⟩ | ⟨hcond, hvco⟩
  · rw [hvco, Option.map_some]
    rcases hdecoded with ⟨heq, hfresh⟩ | ⟨hstale, hhalf⟩
    · exact iff_of_true (by rw [heq]) ⟨hcond, hfresh⟩
    · refine iff_of_false (fun h => ?_) fun h => h.2 hstale
      apply div_ne_of_half hpos _ (Option.some.inj h)
      rw [Nat.mul_left_comm]
      exact Nat.mul_le_mul_left _ hhalf
  · refine iff_of_false (fun h => ?_) fun h => hcond h.1
    obtain ⟨v', hv', heq⟩ := Option.map_eq_some_iff.mp h
    apply div_ne_of_half hpos _ heq
    rw [← Nat.mul_assoc]
    exact Nat.mul_le_mul (hvco v' hv') hle

/-- One call is right exactly if it meets the condition. -/
theorem right_iff (hsel : dev.Selected) (hrange : dev.InRange channel frequency) :
    dev.Right channel frequency ↔ dev.RateAllowed channel frequency := by
  obtain ⟨hchannel, hf, hle⟩ := hrange
  have hquot : 1 ≤ dev.channelClock channel frequency / frequency :=
    (Nat.le_div_iff_mul_le hf).mpr ((Nat.one_mul _).trans_le (le_channelClock hchannel hle))
  unfold Ad9517Dev.Right
  by_cases hfloor : dev.vcoDividerFloor ≤ 255
  · by_cases hhang : 4 ≤ channel ∧ dev.channelClock channel frequency / frequency = 1024
    · rw [ad9517Frequency_eq hchannel hf hfloor, takeDivider_hang hf ⟨hhang.1, hchannel⟩ hhang.2]
      refine iff_of_false (fun h => h) ?_
      unfold Ad9517Dev.RateAllowed
      dsimp only
      rw [if_neg (by lia)]
      exact fun h => h.2.2.1 hhang.2
    · obtain ⟨d, hrun, hd⟩ := takeDivider_ok hf hchannel hhang hquot
      have hmax : dev.vcoDividerFor channel frequency ≤ 255 := by
        unfold Ad9517Dev.vcoDividerFor
        lia
      rw [ad9517Frequency_eq hchannel hf hfloor, hrun, rateAllowed_iff hchannel hd hhang]
      by_cases hallowed : DividerAllowed channel d
      · obtain ⟨p, hp, hinput, hfit, hdecoded⟩ :=
          @programDivider_decoded (programVcoDivider dev (dev.vcoDividerFor channel frequency)) channel d hallowed
        rw [stale_programVcoDivider] at hdecoded
        have hrate := decodedRate_iff hsel hmax hd.rate_pos hinput hdecoded
        simp only [bind, Except.bind, hp, pure, Except.pure, Int.toNat_natCast]
        constructor
        · intro h
          obtain ⟨heq, -⟩ := h (by exact_mod_cast hd.rate_pos)
          obtain ⟨hvco, hfresh⟩ := hrate.mp heq
          exact ⟨hvco, hallowed, hfresh⟩
        · rintro ⟨hvco, -, hfresh⟩ -
          exact ⟨hrate.mpr ⟨hvco, hfresh⟩, hallowed, hfit, hd.nearest⟩
      · refine iff_of_false (fun h => ?_) fun h => hallowed h.2.1
        cases hp : programDivider (programVcoDivider dev (dev.vcoDividerFor channel frequency)) channel d with
        | error e => simp only [bind, Except.bind, hp] at h
        | ok p =>
          simp only [bind, Except.bind, hp, pure, Except.pure] at h
          exact hallowed (h (by exact_mod_cast hd.rate_pos)).2.1
  · rw [ad9517Frequency_refused (by omega)]
    refine iff_of_false (fun h => h) fun h => ?_
    have hsix := floor_le_six_iff.mpr h.1
    omega

structure Ad9517Call where
  channel : ℕ
  frequency : ℕ

namespace Ad9517Dev

def step (dev : Ad9517Dev) (call : Ad9517Call) : Except Ad9517Fault Ad9517Dev :=
  (ad9517Frequency dev call.channel call.frequency).map fun r => r.programmed.dev

lemma selected_setup (dev : Ad9517Dev) (powerDownVcoClk : UInt8) : (dev.setup powerDownVcoClk).Selected := by
  intro hsel
  have hzero : dev.vcoClkSel = 0 := hsel
  have hpower : ∀ n : Fin 256, UInt8.ofNat n * AD9517_POWER_DOWN_VCO_CLK &&& AD9517_SEL_VCO_CLK = 0 := by decide +kernel
  have hbits := hpower ⟨powerDownVcoClk.toNat, powerDownVcoClk.toNat_lt⟩
  rw [UInt8.ofNat_toNat] at hbits
  rw [setup, regs_write_self, hzero, or_and, hbits]
  rfl

lemma Selected.programVcoDivider (h : dev.Selected) (v : ℕ) : (programVcoDivider dev v).Selected := by
  unfold NoOS.programVcoDivider
  dsimp only
  split
  · intro hsel
    rw [regs_write_self, or_and, h hsel]
    rfl
  · intro hsel
    rw [regs_write_of_ne (by decide)]
    exact h hsel

lemma Selected.of_same {dev' : Ad9517Dev} (h : dev.Selected) (hsame : SameInput dev dev') : dev'.Selected := by
  intro hsel
  rw [hsame.input]
  exact h (hsame.sel.symm.trans hsel)

lemma sameInput_programDivider {d : ℕ} {p : Ad9517Programmed} (h : programDivider dev channel d = .ok p) :
    SameInput dev p.dev := by
  unfold programDivider at h
  split at h
  · rw [← Except.ok.inj h]
    exact sameInput_programLvpecl channel d
  · exact sameInput_programLvds h

lemma sameInput_frequency {r : Ad9517Result} (h : ad9517Frequency dev channel frequency = .ok r) :
    ∃ v, SameInput (NoOS.programVcoDivider dev v) r.programmed.dev := by
  unfold ad9517Frequency at h
  cases hraise : raiseVcoDivider (ad9517Clock dev) (256 - ad9517VcoDividerMin dev) (ad9517VcoDividerMin dev) with
  | error e =>
    rw [hraise] at h
    exact absurd h nofun
  | ok v =>
    rw [hraise] at h
    simp only [bind, Except.bind] at h
    split at h
    · exact absurd h nofun
    · split at h
      · exact absurd h nofun
      · split at h
        · split at h
          · exact absurd h nofun
          · split at h
            · exact absurd h nofun
            · rw [← Except.ok.inj h]
              exact ⟨_, sameInput_programDivider ‹_›⟩
        · rw [← Except.ok.inj h]
          exact ⟨_, rfl, rfl, rfl, rfl⟩

lemma Selected.step (h : dev.Selected) (call : Ad9517Call) :
    Trace.Unless (fun _ => True) Selected (dev.step call) := by
  unfold Ad9517Dev.step
  cases hrun : ad9517Frequency dev call.channel call.frequency with
  | error e => trivial
  | ok r =>
    obtain ⟨v, hsame⟩ := sameInput_frequency hrun
    exact (h.programVcoDivider v).of_same hsame

end Ad9517Dev

open Trace in
/-- The calls of a run are right exactly if each meets the condition. -/
theorem channel_rates_right_iff (dev : Ad9517Dev) (powerDownVcoClk : UInt8) (calls : List Ad9517Call) :
    Guarded (orFault Ad9517Dev.step)
        (untilFault fun dev call => dev.InRange call.channel call.frequency → dev.Right call.channel call.frequency)
        (.ok (dev.setup powerDownVcoClk)) calls ↔
      Guarded (orFault Ad9517Dev.step)
        (untilFault fun dev call => dev.InRange call.channel call.frequency → dev.RateAllowed call.channel call.frequency)
        (.ok (dev.setup powerDownVcoClk)) calls := by
  have hstart : Unless (fun _ => True) Ad9517Dev.Selected (Except.ok (dev.setup powerDownVcoClk) :
      Except Ad9517Fault Ad9517Dev) := dev.selected_setup powerDownVcoClk
  apply guarded_congr hstart
  · intro r call hr
    cases r with
    | error e => trivial
    | ok dev => exact hr.step call
  · intro r call hr
    cases r with
    | error e => exact Iff.rfl
    | ok dev => exact forall_congr' fun hrange => right_iff hr hrange

open Trace in
theorem channel_rates_not_right :
    ¬ Guarded (orFault Ad9517Dev.step)
      (untilFault fun dev call => dev.InRange call.channel call.frequency → dev.Right call.channel call.frequency)
      (.ok ((⟨0, 1000000000, 0, fun _ => 0⟩ : Ad9517Dev).setup 0)) [⟨4, 1000000000⟩, ⟨4, 250000000⟩] := by
  intro h
  have hsecond := h [⟨4, 1000000000⟩] ⟨4, 250000000⟩ (by simp)
  have hrun : ∃ dev, run (orFault Ad9517Dev.step) (.ok ((⟨0, 1000000000, 0, fun _ => 0⟩ : Ad9517Dev).setup 0))
      [⟨4, 1000000000⟩] = .ok dev ∧ dev.Selected ∧ dev.InRange 4 250000000 ∧ ¬ dev.RateAllowed 4 250000000 := by
    refine ⟨_, rfl, fun _ => by decide, ⟨by decide, by decide, by decide⟩, fun hallowed => ?_⟩
    have hchannel := hallowed.2.2
    rw [if_neg (by decide)] at hchannel
    exact hchannel.2.1 ⟨by decide, by decide⟩
  obtain ⟨dev, hrun, hsel, hrange, hbad⟩ := hrun
  rw [hrun] at hsecond
  exact hbad ((right_iff hsel hrange).mp (hsecond hrange))

end NoOS
