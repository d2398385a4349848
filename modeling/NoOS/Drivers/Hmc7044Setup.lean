import NoOS.Drivers.Hmc7044Pll1
import NoOS.Drivers.Hmc7044Pll2

/-!
# The setup of the HMC7044
-/

namespace NoOS
open Arith

section Writes

variable {regs : Regs} {ws ws' : List RegWrite} {reg : ℕ}

lemma applyWrites_append : applyWrites regs (ws ++ ws') = applyWrites (applyWrites regs ws) ws' :=
  List.foldl_append

lemma applyWrites_of_ne (h : ∀ w ∈ ws, w.1 ≠ reg) : applyWrites regs ws reg = regs reg := by
  induction ws generalizing regs with
  | nil => rfl
  | cons w ws ih =>
    obtain ⟨hw, hws⟩ := List.forall_mem_cons.mp h
    change applyWrites (Function.update regs w.1 w.2) ws reg = _
    rw [ih hws, Function.update_of_ne hw.symm]

lemma channel_writes_ge (chan : Hmc7044ChanSpec) : ∀ w ∈ chan.writes, 0xC8 ≤ w.1 := by
  intro w hw
  unfold Hmc7044ChanSpec.writes at hw
  split at hw
  · exact absurd hw List.not_mem_nil
  · rename_i hnum
    have hlt : chan.num.toNat < 14 := by
      by_contra hge
      exact hnum (Or.inl (UInt32.le_iff_toNat_le.mpr (by change 14 ≤ _; omega)))
    have hreg : ∀ k < 10, HMC7044_REG_CH_OUT_CRTL k chan.num.toNat % 0x1000 =
        HMC7044_REG_CH_OUT_CRTL k chan.num.toNat := by
      intro k hk
      apply Nat.mod_eq_of_lt
      rw [HMC7044_REG_CH_OUT_CRTL]
      lia
    have hge : ∀ k < 10, 0xC8 ≤ HMC7044_REG_CH_OUT_CRTL k chan.num.toNat % 0x1000 := by
      intro k hk
      rw [hreg k hk, HMC7044_REG_CH_OUT_CRTL]
      lia
    simp only [hmc7044Write, List.mem_cons, List.not_mem_nil, or_false] at hw
    rcases hw with rfl | rfl | rfl | rfl | rfl | rfl | rfl <;> exact hge _ (by decide)

lemma lateWrites_ne (dev : Hmc7044Dev) : ∀ w ∈ dev.lateWrites, w.1 < 0x1C ∨ 0x36 < w.1 := by
  have hfin : ∀ {n : ℕ} (l : List (Fin n)) (base : ℕ) (f : Fin n → UInt32),
      n ≤ 5 → base ≤ 0x17 ∨ 0x36 < base ∧ base < 0xF00 →
      ∀ w ∈ l.map (fun i => hmc7044Write (base + i.val) (f i)), w.1 < 0x1C ∨ 0x36 < w.1 := by
    intro n l base f hn hbase w hw
    obtain ⟨i, -, rfl⟩ := List.mem_map.mp hw
    have hi := i.isLt
    have hmod : (base + i.val) % 0x1000 = base + i.val := Nat.mod_eq_of_lt (by lia)
    change (base + i.val) % 0x1000 < _ ∨ _ < (base + i.val) % 0x1000
    rw [hmod]
    lia
  intro w hw
  simp only [Hmc7044Dev.lateWrites, List.mem_append] at hw
  rcases hw with (((hw | hw) | hw) | hw) | hw
  · obtain rfl := List.mem_singleton.mp hw
    exact Or.inl (by decide : HMC7044_REG_PLL1_REF_PRIO_CTRL % 0x1000 < 0x1C)
  · simp only [sysrefWrites, List.mem_cons, List.not_mem_nil, or_false] at hw
    rcases hw with rfl | rfl | rfl
    · exact Or.inr (by decide : 0x36 < HMC7044_REG_SYSREF_TIMER_LSB % 0x1000)
    · exact Or.inr (by decide : 0x36 < HMC7044_REG_SYSREF_TIMER_MSB % 0x1000)
    · exact Or.inr (by decide : 0x36 < HMC7044_REG_PULSE_GEN % 0x1000)
  · simp only [inputWrites, List.mem_append] at hw
    rcases hw with (hw | hw) | hw
    · exact hfin _ 0x0A _ (by decide) (by decide) w hw
    · exact hfin _ 0x46 _ (by decide) (by decide) w hw
    · exact hfin _ 0x50 _ (by decide) (by decide) w hw
  · obtain ⟨chan, -, hchan⟩ := List.mem_flatMap.mp hw
    have hge := channel_writes_ge chan w hchan
    omega
  · simp only [restartWrites, List.mem_cons, List.not_mem_nil, or_false] at hw
    rcases hw with rfl | rfl <;>
    exact Or.inl (by decide : HMC7044_REG_REQ_MODE_0 % 0x1000 < 0x1C)

end Writes

/-- A 16-bit register pair. -/
def Regs.pair (regs : Regs) (lsb msb : ℕ) : ℕ := (regs lsb).toNat + 256 * (regs msb).toNat

lemma toNat_lsb (x : UInt32) : (x &&& 0xff).toUInt8.toNat = x.toNat % 256 := by
  have hand : (x &&& 0xff).toNat = x.toNat % 256 :=
    (UInt32.toNat_and x 0xff).trans (Nat.and_two_pow_sub_one_eq_mod x.toNat 8)
  rw [UInt32.toNat_toUInt8, hand]
  lia

lemma toNat_msb (x mask : UInt32) (k : ℕ) (hk : k ≤ 8) (hmask : mask.toNat >>> 8 = 2 ^ k - 1) :
    ((x &&& mask) >>> 8).toUInt8.toNat = x.toNat / 256 % 2 ^ k := by
  have hle : 2 ^ k ≤ 2 ^ 8 := Nat.pow_le_pow_right (by decide) hk
  have hlt := Nat.mod_lt (x.toNat / 256) (Nat.two_pow_pos k)
  rw [UInt32.toNat_toUInt8, UInt32.toNat_shiftRight, UInt32.toNat_and]
  change (x.toNat &&& mask.toNat) >>> 8 % 2 ^ 8 = _
  rw [Nat.shiftRight_and_distrib, hmask, Nat.and_two_pow_sub_one_eq_mod,
    Nat.shiftRight_eq_div_pow]
  exact Nat.mod_eq_of_lt (lt_of_lt_of_le hlt hle)

lemma pair_n (x : UInt32) (h : x.toNat ≤ 65535) :
    (HMC7044_N2_LSB x).toUInt8.toNat + 256 * (HMC7044_N2_MSB x).toUInt8.toNat = x.toNat := by
  rw [HMC7044_N2_LSB, HMC7044_N2_MSB, toNat_lsb, toNat_msb x 0xff00 8 (by decide) rfl]
  lia

lemma pair_r (x : UInt32) (h : x.toNat ≤ 4095) :
    (HMC7044_R2_LSB x).toUInt8.toNat + 256 * (HMC7044_R2_MSB x).toUInt8.toNat = x.toNat := by
  rw [HMC7044_R2_LSB, HMC7044_R2_MSB, toNat_lsb, toNat_msb x 0xf00 4 (by decide) rfl]
  lia

namespace Hmc7044Dev

variable (dev : Hmc7044Dev)

def pll2KHz : UInt32 := dev.pll2Freq / 1000

/-- The frequency of PLL2 is one of its VCO. -/
def InVcoRange : Prop := 2150000 ≤ dev.pll2KHz.toNat ∧ dev.pll2KHz.toNat ≤ 3200000

/-- The largest product of the calculation has 32 bits. -/
def Pll2Narrow : Prop := dev.pll2KHz.toNat *
  (dev.vcxoKHz.toNat * 2 / Nat.gcd dev.pll2KHz.toNat (dev.vcxoKHz.toNat * 2)) < 2 ^ 32

lemma vcxoKHz_le : dev.vcxoKHz.toNat ≤ 4294967 := by
  have hlt := dev.vcxoFreq.toNat_lt
  rw [vcxoKHz, UInt32.toNat_div]
  change dev.vcxoFreq.toNat / 1000 ≤ _
  lia

lemma outside_iff : (dev.pll2Freq / 1000 < HMC7044_LOW_VCO_MIN ∨
    dev.pll2Freq / 1000 > HMC7044_HIGH_VCO_MAX) ↔ ¬dev.InVcoRange := by
  rw [gt_iff_lt, UInt32.lt_iff_toNat_lt, UInt32.lt_iff_toNat_lt]
  change dev.pll2KHz.toNat < 2150000 ∨ 3200000 < dev.pll2KHz.toNat ↔ ¬(_ ∧ _)
  lia

/-- The dividers of PLL2 that are programmed. -/
structure Pll2Of (p : Pll2) : Prop where
  solves : p.Solves dev.pll2KHz.toNat dev.vcxoKHz.toNat
  n2_ge : 8 ≤ p.n2.toNat
  n2_le : p.n2.toNat ≤ 65535
  r2_pos : 0 < p.r2.toNat
  r2_le : p.r2.toNat ≤ 4095

lemma gives_pll2 (hvcxo : dev.vcxoKHz ≠ 0) (hrange : dev.InVcoRange)
    (hfits : Pll2Fits dev.pll2KHz.toNat dev.vcxoKHz.toNat) : ∃ s p,
      Gives 32 (pll2Choose dev.pll2KHz dev.vcxoKHz) s dev.Pll2Narrow ∧
      Gives 32 (pll2Scale 32 s) p True ∧ dev.Pll2Of p := by
  have hp := Word.ne_zero_of_pos (lt_of_lt_of_le (by decide) hrange.1)
  have hle := dev.vcxoKHz_le
  obtain ⟨s, hgives, hsolves, hn, hn', hr, hr'⟩ := gives_choose hp hvcxo hle hfits
  have hratio : s.r2.toNat ≤ 4 * s.n2.toNat := by
    have hlow : 2150000 * s.r2.toNat ≤ dev.pll2KHz.toNat * s.r2.toNat :=
      Nat.mul_le_mul_right _ hrange.1
    have hdoubler : dev.vcxoKHz.toNat * (if s.doubler then 2 else 1) ≤ 8589934 := by
      split <;> lia
    have hhigh := Nat.mul_le_mul_right s.n2.toNat hdoubler
    rw [hsolves] at hhigh
    lia
  obtain ⟨s', hscale, hsolves', hrest⟩ := gives_scale 32 hsolves hn hn' hr hr' hratio (by lia)
  exact ⟨s, s', hgives, hscale, hsolves', hrest.1, hrest.2.1, hrest.2.2.1, hrest.2.2.2⟩

lemma gives_setup (h : dev.Pll1Divides) (hrange : dev.InVcoRange)
    (hfits : Pll2Fits dev.pll2KHz.toNat dev.vcxoKHz.toNat) : ∃ r p1 p2,
      Gives 32 (hmc7044Setup dev) r dev.Pll2Narrow ∧ r.ret = SUCCESS ∧ dev.Pll1Of p1 ∧
      dev.Pll2Of p2 ∧ ∃ early late : List RegWrite,
        r.writes = early ++ pll2Writes p2 ++ pll1Writes p1 ++ late ∧
        ∀ w ∈ late, w.1 < 0x1C ∨ 0x36 < w.1 := by
  obtain ⟨p1, hp1, hof1⟩ := dev.gives_pll1 h
  obtain ⟨s, p2, hchoose, hscale, hof2⟩ := dev.gives_pll2 h.vcxo hrange hfits
  have hlarge : ¬p2.n2 < HMC7044_N2_MIN := by
    rw [UInt32.lt_iff_toNat_lt]
    change ¬p2.n2.toNat < 8
    have hge := hof2.n2_ge
    omega
  have hdev := lateWrites_ne { dev with pll1Pfd := p1.pfd }
  refine ⟨⟨SUCCESS, { dev with pll1Pfd := p1.pfd }, resetWrites ++ disableWrites ++ updateWrites ++
    globalWrites { dev with pll1Pfd := p1.pfd }
      (decide (dev.pll2KHz ≥ (HMC7044_LOW_VCO_MAX + HMC7044_HIGH_VCO_MIN) / 2)) ++
    pll2Writes p2 ++ pll1Writes p1 ++ { dev with pll1Pfd := p1.pfd : Hmc7044Dev }.lateWrites⟩,
    p1, p2, ?_, rfl, hof1, hof2, _, _, rfl, hdev⟩
  refine Gives.congr (φ := True ∧ dev.Pll2Narrow ∧ True ∧ True) ?_ (by simp only [true_and, and_true])
  unfold hmc7044Setup
  apply hp1.bind
  rw [if_neg (not_not_intro hrange ∘ dev.outside_iff.mp)]
  apply hchoose.bind
  apply hscale.bind
  rw [if_neg hlarge]
  exact Gives.pure

lemma gives_setup_outside (h : dev.Pll1Divides) (hrange : ¬dev.InVcoRange) : ∃ r,
    Gives 32 (hmc7044Setup dev) r True ∧ r.ret = FAILURE ∧ r.writes = [] := by
  obtain ⟨p1, hp1, -⟩ := dev.gives_pll1 h
  refine ⟨⟨FAILURE, { dev with pll1Pfd := p1.pfd }, []⟩, ?_, rfl, rfl⟩
  refine Gives.congr (φ := True ∧ True) ?_ (by simp only [and_true])
  unfold hmc7044Setup
  apply hp1.bind
  rw [if_pos (dev.outside_iff.mpr hrange)]
  exact Gives.pure

lemma fails_setup (h : ¬dev.Pll1Divides) : (hmc7044Setup dev).Fails := (dev.fails_pll1 h).bind

lemma fails_setup_pll2 (h : dev.Pll1Divides) (hrange : dev.InVcoRange)
    (hfits : ¬Pll2Fits dev.pll2KHz.toNat dev.vcxoKHz.toNat) : (hmc7044Setup dev).Fails := by
  obtain ⟨p1, hp1, -⟩ := dev.gives_pll1 h
  have hp := Word.ne_zero_of_pos (lt_of_lt_of_le (by decide) hrange.1)
  unfold hmc7044Setup
  apply hp1.bind_fails
  rw [if_neg (not_not_intro hrange ∘ dev.outside_iff.mp)]
  exact (fails_choose hp h.vcxo dev.vcxoKHz_le hfits).bind

end Hmc7044Dev

end NoOS
