import NoOS.Drivers.Ad9517Search

/-!
# The divider registers of the clock generator

The VCO divider that the loops end with, and what the registers of a channel stand for after they have been written.
-/

namespace NoOS

namespace Ad9517Dev

variable (dev : Ad9517Dev) (channel frequency : ℕ)

/-- The first VCO divider with at most 1600 MHz after it. -/
def vcoDividerFloor : ℕ := max (ad9517VcoDividerMin dev) (ad9517Clock dev / 1600000001 + 1)

/-- The least VCO divider for which the channel divider is large enough, but no more than 6. -/
def vcoDividerFor : ℕ :=
  max dev.vcoDividerFloor (min 6 (ad9517Clock dev / ((ad9517DividerMax channel + 1) * frequency) + 1))

/-- The frequency at the channel dividers. -/
def channelClock : ℕ := ad9517Clock dev / dev.vcoDividerFor channel frequency

end Ad9517Dev

variable {dev : Ad9517Dev} {channel frequency v k m : ℕ}

lemma div_gt_iff {freq limit v : ℕ} (hv : 1 ≤ v) : freq / v > limit ↔ v < freq / (limit + 1) + 1 := by
  rw [Nat.lt_succ_iff, Nat.le_div_iff_mul_le (Nat.succ_pos limit), gt_iff_lt, Nat.lt_iff_add_one_le,
    Nat.le_div_iff_mul_le hv, Nat.mul_comm]

lemma raiseVcoDivider_eq {freq : ℕ} (hv : 1 ≤ v) (hm : m = freq / 1600000001 + 1) :
    raiseVcoDivider freq k v = if max v m < v + k then .ok (max v m) else .error .divisionByZero := by
  induction k generalizing v with
  | zero => rw [if_neg (by lia), raiseVcoDivider]
  | succ k ih =>
    rw [raiseVcoDivider]
    by_cases hgt : freq / v > 1600000000
    · have hlt := (div_gt_iff hv).mp hgt
      rw [if_pos hgt, ih (by lia), show max (v + 1) m = max v m by lia, show v + 1 + k = v + (k + 1) by lia]
    · have hge := mt (div_gt_iff hv).mpr hgt
      rw [if_neg hgt, if_pos (by lia), show max v m = v by lia]

lemma spreadVcoDivider_eq {freq dividerMax : ℕ} (hv : 1 ≤ v)
    (hm : m = freq / ((dividerMax + 1) * frequency) + 1) :
    spreadVcoDivider freq frequency dividerMax k v = max v (min (v + k) m) := by
  induction k generalizing v with
  | zero => rw [spreadVcoDivider]; lia
  | succ k ih =>
    have hiff : freq / v / frequency > dividerMax ↔ v < m := by
      rw [Nat.div_div_eq_div_mul, Nat.mul_comm v, ← Nat.div_div_eq_div_mul, div_gt_iff hv, Nat.div_div_eq_div_mul,
        Nat.mul_comm frequency, hm]
    rw [spreadVcoDivider]
    by_cases hgt : freq / v / frequency > dividerMax
    · have hlt := hiff.mp hgt
      rw [if_pos hgt, ih (by lia)]
      lia
    · have hge := mt hiff.mpr hgt
      rw [if_neg hgt]
      lia

lemma vcoDividerMin_pos (dev : Ad9517Dev) : 1 ≤ ad9517VcoDividerMin dev ∧ ad9517VcoDividerMin dev ≤ 2 := by
  unfold ad9517VcoDividerMin
  split <;> decide

lemma raise_spread_eq (hfloor : dev.vcoDividerFloor ≤ 255) :
    ∃ v, raiseVcoDivider (ad9517Clock dev) (256 - ad9517VcoDividerMin dev) (ad9517VcoDividerMin dev) = .ok v ∧
      spreadVcoDivider (ad9517Clock dev) frequency (ad9517DividerMax channel) (6 - v) v =
        dev.vcoDividerFor channel frequency := by
  obtain ⟨hpos, hle⟩ := vcoDividerMin_pos dev
  have hraise := @raiseVcoDivider_eq (ad9517VcoDividerMin dev) (256 - ad9517VcoDividerMin dev) _ (ad9517Clock dev) hpos rfl
  rw [if_pos (by unfold Ad9517Dev.vcoDividerFloor at hfloor; lia)] at hraise
  refine ⟨_, hraise, ?_⟩
  rw [spreadVcoDivider_eq (by lia) rfl, Ad9517Dev.vcoDividerFor, Ad9517Dev.vcoDividerFloor]
  lia

lemma raise_error (hfloor : 255 < dev.vcoDividerFloor) :
    raiseVcoDivider (ad9517Clock dev) (256 - ad9517VcoDividerMin dev) (ad9517VcoDividerMin dev) =
      .error .divisionByZero := by
  obtain ⟨hpos, hle⟩ := vcoDividerMin_pos dev
  rw [raiseVcoDivider_eq hpos rfl, if_neg]
  unfold Ad9517Dev.vcoDividerFloor at hfloor
  lia

/-- A frequency that is not above the one at the channel dividers stays so while the VCO divider is raised. -/
lemma le_channelClock (hchannel : channel ≤ 7) (hle : frequency ≤ ad9517Clock dev / dev.vcoDividerFloor) :
    frequency ≤ dev.channelClock channel frequency := by
  unfold Ad9517Dev.channelClock
  have hfloor : 1 ≤ dev.vcoDividerFloor := by unfold Ad9517Dev.vcoDividerFloor; lia
  by_cases hsame : dev.vcoDividerFor channel frequency = dev.vcoDividerFloor
  · rwa [hsame]
  · obtain ⟨w, hw⟩ : ∃ w, dev.vcoDividerFor channel frequency = w + 1 ∧ 1 ≤ w ∧
        w ≤ ad9517Clock dev / ((ad9517DividerMax channel + 1) * frequency) := by
      refine ⟨dev.vcoDividerFor channel frequency - 1, ?_⟩
      unfold Ad9517Dev.vcoDividerFor at *
      lia
    obtain ⟨hw, hpos, hquot⟩ := hw
    have hmax : 1 ≤ ad9517DividerMax channel := by
      unfold ad9517DividerMax
      split <;> omega
    rw [hw, Nat.le_div_iff_mul_le (Nat.succ_pos w)]
    calc frequency * (w + 1) ≤ frequency * (w * (ad9517DividerMax channel + 1)) := by
          apply Nat.mul_le_mul_left
          have htwo : w * 2 ≤ w * (ad9517DividerMax channel + 1) := Nat.mul_le_mul_left w (by lia)
          lia
      _ = w * ((ad9517DividerMax channel + 1) * frequency) := by ring
      _ ≤ ad9517Clock dev := by
          apply (Nat.mul_le_mul_right _ hquot).trans
          exact Nat.div_mul_le_self _ _

lemma or_and (r b c : UInt8) : (r ||| b) &&& c = (r &&& c) ||| (b &&& c) := by
  apply UInt8.toBitVec_inj.mp
  ext i hi
  simp only [UInt8.toBitVec_and, UInt8.toBitVec_or, BitVec.getElem_and, BitVec.getElem_or]
  grind

lemma and_not_and (r b : UInt8) : (r &&& ~~~b) &&& b = 0 := by
  apply UInt8.toBitVec_inj.mp
  ext i hi
  simp only [UInt8.toBitVec_and, UInt8.toBitVec_not, UInt8.toBitVec_zero, BitVec.getElem_and, BitVec.getElem_not,
    BitVec.getElem_zero]
  grind

lemma cycles_cyclesValue {d : ℕ} (hlow : 2 ≤ d) (hhigh : d ≤ 32) :
    (cyclesValue d >>> 4).toNat + 1 + ((cyclesValue d &&& 0xF).toNat + 1) = d := by
  have hall : ∀ d : Fin 33, 2 ≤ d.val →
      (cyclesValue d >>> 4).toNat + 1 + ((cyclesValue d &&& 0xF).toNat + 1) = d := by decide
  exact hall ⟨d, by omega⟩ hlow

/-- The cycles of a divider fit into their fields. -/
def CyclesFit (d : ℕ) : Prop := lowCycles d < 16 ∧ highCycles d < 16

lemma cyclesFit_of_le {d : ℕ} (h : d ≤ 32) : CyclesFit d := by
  unfold CyclesFit lowCycles highCycles
  lia

namespace Ad9517Dev

variable {a : ℕ} {val : UInt8}

@[simp] lemma regs_write_self : (dev.write a val).regs a = val := Function.update_self ..

@[simp] lemma regs_write_of_ne {b : ℕ} (h : b ≠ a) : (dev.write a val).regs b = dev.regs b := Function.update_of_ne h ..

lemma cycles_write_self {d : ℕ} (hlow : 2 ≤ d) (hhigh : d ≤ 32) : (dev.write a (cyclesValue d)).cycles a = d := by
  rw [cycles, regs_write_self, cycles_cyclesValue hlow hhigh]

lemma bypassed_congr {dev' : Ad9517Dev} (h : dev'.regs a = dev.regs a) (b : UInt8) :
    dev'.Bypassed a b ↔ dev.Bypassed a b := by rw [Bypassed, Bypassed, h]

lemma bypassed_or {b : UInt8} (hb : b ≠ 0) (r : UInt8) : (dev.write a (r ||| b)).Bypassed a b := by
  rw [Bypassed, regs_write_self, or_and, UInt8.and_self, Ne, UInt8.or_eq_zero_iff]
  exact fun h => hb h.2

lemma bypassed_or_apart {b c : UInt8} (hbc : b &&& c = 0) :
    (dev.write a (dev.regs a ||| b)).Bypassed a c ↔ dev.Bypassed a c := by
  rw [Bypassed, Bypassed, regs_write_self, or_and, hbc, UInt8.or_zero]

lemma not_bypassed_and_not (r b : UInt8) : ¬ (dev.write a (r &&& ~~~b)).Bypassed a b := by
  rw [Bypassed, regs_write_self, and_not_and]
  exact not_not_intro rfl

lemma cycles_congr {dev' : Ad9517Dev} (h : dev'.regs a = dev.regs a) : dev'.cycles a = dev.cycles a := by
  rw [cycles, cycles, h]

end Ad9517Dev

lemma lvpecl_ne (channel channel' : ℕ) : lvpeclDivider0 channel ≠ lvpeclDivider1 channel' := by
  unfold lvpeclDivider0 lvpeclDivider1
  split <;> split <;> decide

lemma lvds_ne (channel : ℕ) : lvdsDivider0 channel ≠ lvdsDivider3 channel ∧ lvdsDivider2 channel ≠ lvdsDivider3 channel ∧
    lvdsDivider0 channel ≠ lvdsDivider2 channel := by
  unfold lvdsDivider0 lvdsDivider2 lvdsDivider3
  split <;> decide

lemma programLvpecl_decoded (hchannel : channel ≤ 3) {d : ℕ} (hpos : 1 ≤ d) (hle : d ≤ 32) :
    (programLvpecl dev channel d).dev.decodedDivider channel =
      if 2 ≤ channel ∧ 1 < d ∧ dev.Bypassed (lvpeclDivider1 channel) AD9517_DIVIDER_BYPASS then 1 else d := by
  have hne := (lvpecl_ne channel channel).symm
  rw [Ad9517Dev.decodedDivider, if_pos hchannel, programLvpecl]
  by_cases hone : d = 1
  · rw [if_pos hone, if_pos (Ad9517Dev.bypassed_or (by decide) _), if_neg (by omega), hone]
  · have hkept : ∀ dev : Ad9517Dev, (dev.write (lvpeclDivider0 channel) (cyclesValue d)).Bypassed
        (lvpeclDivider1 channel) AD9517_DIVIDER_BYPASS ↔ dev.Bypassed (lvpeclDivider1 channel) AD9517_DIVIDER_BYPASS :=
      fun dev => Ad9517Dev.bypassed_congr (Ad9517Dev.regs_write_of_ne hne) _
    rw [if_neg hone]
    dsimp only
    rw [if_congr (hkept _) rfl rfl, Ad9517Dev.cycles_write_self (by lia) hle]
    by_cases hpair : channel / 2 ≠ 0
    · have htwo : 2 ≤ channel := by lia
      have hmany : 1 < d := by lia
      rw [if_pos hpair]
      simp only [htwo, hmany, true_and]
    · have haddr : lvpeclDivider1 channel = AD9517_REG_DIVIDER_0_1 := if_neg hpair
      rw [if_neg hpair, haddr, if_neg (Ad9517Dev.not_bypassed_and_not _ _), if_neg (by lia)]

lemma splitDivider_spec {d : ℕ} (hd : IsProduct d) (hlarge : 32 < d) {b : ℕ} (hb : b ≤ 32)
    (hmax : ∀ x, x ∣ d → x ≤ 32 → x ≤ b) (hk : b < k) :
    ∃ x y, splitDivider d k b = .ok (x, y) ∧ x * y = d ∧ 2 ≤ x ∧ x ≤ 32 ∧ 2 ≤ y ∧ y ≤ 32 := by
  induction k generalizing b with
  | zero => lia
  | succ k ih =>
    have hone : 1 ≤ b := hmax 1 (Nat.one_dvd d) (by decide)
    rw [splitDivider]
    by_cases hdvd : b ∣ d
    · -- The largest divisor that is small enough leaves a small quotient.
      obtain ⟨x, y, hx, hx', hy, hy', rfl⟩ := hd
      have hxb := hmax x (Nat.dvd_mul_right x y) hx'
      have hle : x * y / b ≤ 32 := by
        apply (Nat.div_le_div_left hxb hx).trans
        rw [Nat.mul_div_cancel_left y hx]
        exact hy'
      have hmul : x * y / b * b = x * y := Nat.div_mul_cancel hdvd
      rw [if_neg (not_not_intro (Nat.mod_eq_zero_of_dvd hdvd))]
      refine ⟨x * y / b, b, if_neg (by lia), hmul, ?_, hle, ?_, hb⟩
      · by_contra hlt
        have hbound : x * y / b * b ≤ 1 * b := Nat.mul_le_mul_right b (by lia)
        lia
      · by_contra hlt
        have hbone : b = 1 := by lia
        rw [hbone, Nat.div_one] at hle
        omega
    · rw [if_pos (mt Nat.dvd_of_mod_eq_zero hdvd)]
      dsimp only
      rw [if_pos hlarge]
      apply ih (by lia)
      · intro x hx hx'
        have hle := hmax x hx hx'
        have hne : x ≠ b := by
          rintro rfl
          exact hdvd hx
        lia
      · lia

/-- The channels 4 to 7 keep both bypass bits; only those of a single factor are set. -/
lemma programLvds_decoded (hchannel : 4 ≤ channel) {d : ℕ} (hd : IsProduct d) :
    ∃ p x y, programLvds dev channel d = .ok p ∧ x * y = d ∧ (1 < d → 2 ≤ x) ∧ (32 < d → 2 ≤ y) ∧ (d ≤ 32 → y = 1) ∧
      (∀ e ∈ p.dividers, CyclesFit e) ∧
      p.dev.decodedDivider channel =
        (if 1 < d ∧ dev.Bypassed (lvdsDivider3 channel) AD9517_BYPASS_DIVIDER_1 then 1 else x) *
          if 32 < d ∧ dev.Bypassed (lvdsDivider3 channel) AD9517_BYPASS_DIVIDER_2 then 1 else y := by
  obtain ⟨h03, h23, h02⟩ := lvds_ne channel
  have hpos := hd.pos
  have hdecoded : ∀ dev : Ad9517Dev, dev.decodedDivider channel =
      (if dev.Bypassed (lvdsDivider3 channel) AD9517_BYPASS_DIVIDER_1 then 1 else dev.cycles (lvdsDivider0 channel)) *
        if dev.Bypassed (lvdsDivider3 channel) AD9517_BYPASS_DIVIDER_2 then 1
        else dev.cycles (lvdsDivider2 channel) := fun dev => by
    rw [Ad9517Dev.decodedDivider, if_neg (by omega)]
  unfold programLvds
  by_cases hone : d = 1
  · refine ⟨_, 1, 1, if_pos hone, hone.symm, by omega, by omega, fun _ => rfl, fun e he => absurd he List.not_mem_nil, ?_⟩
    have hfirst := @Ad9517Dev.bypassed_or dev (lvdsDivider3 channel) AD9517_BYPASS_DIVIDER_1 (by decide)
      (dev.regs (lvdsDivider3 channel) ||| AD9517_BYPASS_DIVIDER_2)
    have hsecond := @Ad9517Dev.bypassed_or dev (lvdsDivider3 channel) AD9517_BYPASS_DIVIDER_2 (by decide)
      (dev.regs (lvdsDivider3 channel) ||| AD9517_BYPASS_DIVIDER_1)
    rw [UInt8.or_assoc] at hfirst hsecond
    rw [UInt8.or_comm AD9517_BYPASS_DIVIDER_1] at hsecond
    rw [hdecoded, if_pos hfirst, if_pos hsecond, if_neg (by omega), if_neg (by omega)]
  · by_cases hsmall : d ≤ 32
    · rw [if_neg hone, if_pos hsmall]
      refine ⟨_, d, 1, rfl, Nat.mul_one d, by lia, by omega, fun _ => rfl, ?_, ?_⟩
      · intro e he
        rw [List.mem_singleton.mp he]
        exact cyclesFit_of_le hsmall
      · have hsecond : ((dev.write (lvdsDivider3 channel) (dev.regs (lvdsDivider3 channel) ||| AD9517_BYPASS_DIVIDER_2)).write
            (lvdsDivider0 channel) (cyclesValue d)).Bypassed (lvdsDivider3 channel) AD9517_BYPASS_DIVIDER_2 :=
          (Ad9517Dev.bypassed_congr (Ad9517Dev.regs_write_of_ne h03.symm) _).mpr (Ad9517Dev.bypassed_or (by decide) _)
        have hfirst := (Ad9517Dev.bypassed_congr (@Ad9517Dev.regs_write_of_ne _ _ (cyclesValue d) _ h03.symm) _).trans
          (@Ad9517Dev.bypassed_or_apart dev (lvdsDivider3 channel) AD9517_BYPASS_DIVIDER_2 AD9517_BYPASS_DIVIDER_1
            (by decide))
        have hmany : 1 < d := by lia
        rw [hdecoded, if_congr hfirst rfl rfl, if_pos hsecond, Ad9517Dev.cycles_write_self (by lia) hsmall,
          if_neg (by lia : ¬ (32 < d ∧ _))]
        simp only [hmany, true_and]
    · obtain ⟨x, y, hsplit, hxy, hx, hx', hy, hy'⟩ := @splitDivider_spec 33 d hd (by omega) 32 (Nat.le_refl 32)
        (fun x _ h => h) (by decide)
      rw [if_neg hone, if_neg hsmall, hsplit]
      refine ⟨_, x, y, rfl, hxy, fun _ => hx, fun _ => hy, by lia, ?_, ?_⟩
      · intro e he
        rcases List.mem_pair.mp he with rfl | rfl
        · exact cyclesFit_of_le hx'
        · exact cyclesFit_of_le hy'
      · have hbits : ∀ b, ((dev.write (lvdsDivider0 channel) (cyclesValue x)).write (lvdsDivider2 channel)
            (cyclesValue y)).Bypassed (lvdsDivider3 channel) b ↔ dev.Bypassed (lvdsDivider3 channel) b := fun b =>
          (Ad9517Dev.bypassed_congr (Ad9517Dev.regs_write_of_ne h23.symm) b).trans
            (Ad9517Dev.bypassed_congr (Ad9517Dev.regs_write_of_ne h03.symm) b)
        have hmany : 1 < d := by lia
        have hlarge : 32 < d := by lia
        rw [hdecoded, if_congr (hbits _) rfl rfl, if_congr (hbits _) rfl rfl, Ad9517Dev.cycles_write_self hy hy',
          Ad9517Dev.cycles_congr (Ad9517Dev.regs_write_of_ne h02), Ad9517Dev.cycles_write_self hx hx']
        simp only [hmany, hlarge, true_and]

end NoOS
