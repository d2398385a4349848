import NoOS.Drivers.Hmc7044Plls
import NoOS.Lib.Trace

/-!
# The channel rates of the HMC7044

`hmc7044_clk_set_rate` keeps the divider in the table of channels and writes it to the registers of an
output. The setup takes the number of the output from the table, `hmc7044_clk_set_rate` takes the index
in the table.
-/

namespace NoOS
open Trace

/-- The divider that the registers of an output hold. -/
def Regs.outDivider (regs : Regs) (n : ℕ) : ℕ :=
  regs.pair (HMC7044_REG_CH_OUT_CRTL 1 n) (HMC7044_REG_CH_OUT_CRTL 2 n)

/-- A call of `hmc7044_clk_set_rate` with what its two writes return. -/
structure ClkSetRate where
  chan : UInt32
  rate : UInt64
  ret : Int × Int

/-- The device, its registers, and the channels whose rate was set successfully the last time. -/
structure ClkSystem where
  dev : Hmc7044Dev
  regs : Regs
  synced : ℕ → Bool

namespace ClkSystem

/-- A division by zero ends the run. -/
def step (s : ClkSystem) (c : ClkSetRate) : Except Unit ClkSystem :=
  match hmc7044ClkSetRate s.dev s.regs c.chan c.rate c.ret with
  | none => .error ()
  | some (ret, dev, regs) => .ok ⟨dev, regs,
      if c.chan.toNat ≥ s.dev.channels.length then s.synced
      else Function.update s.synced c.chan.toNat (decide (0 ≤ ret))⟩

/-- What `hmc7044_init` leaves of registers with arbitrary contents. -/
def start (r : SetupResult) (regs : Regs) : ClkSystem := ⟨r.dev, applyWrites regs r.writes, fun _ => false⟩

/-- After a success the rate that is read back is the one that was announced, the registers of the
output hold the divider of the table, and those of the other outputs are unchanged. -/
def Coherent (s : ClkSystem) (c : ClkSetRate) : Prop :=
  ∀ ret dev regs, hmc7044ClkSetRate s.dev s.regs c.chan c.rate c.ret = some (ret, dev, regs) → 0 ≤ ret →
    ∃ chan rate, dev.channels[c.chan.toNat]? = some chan ∧
      hmc7044ClkRecalcRate dev c.chan = some (SUCCESS, rate) ∧
      hmc7044ClkRoundRate dev c.rate.toUInt32 = some (SUCCESS, rate) ∧
      regs.outDivider chan.num.toNat = chan.divider.toNat ∧
      ∀ n < 14, n ≠ chan.num.toNat → regs.outDivider n = s.regs.outDivider n

/-- The channel stands at the index of its output, and the frequency is rounded down by the divider. -/
def Allowed (s : ClkSystem) (c : ClkSetRate) : Prop :=
  ∀ chan, s.dev.channels[c.chan.toNat]? = some chan → chan.num = c.chan ∧ c.chan < HMC7044_NUM_CHAN ∧
    ∀ div, hmc7044CalcOutDiv c.rate.toUInt32 s.dev.pll2Freq = some div →
      2 * (s.dev.pll2Freq.toNat % div.toNat) < div.toNat ∧ s.dev.pll2Freq.toNat + div.toNat / 2 < 2 ^ 32

/-- The registers follow the table. -/
def Mirrored (s : ClkSystem) : Prop :=
  ∀ j chan, s.synced j = true → s.dev.channels[j]? = some chan →
    chan.num.toNat = j ∧ j < 14 ∧ s.regs.outDivider j = chan.divider.toNat

end ClkSystem

lemma clamp_mem (x : UInt32) : 1 ≤ (clamp x HMC7044_OUT_DIV_MIN HMC7044_OUT_DIV_MAX).toNat ∧
    (clamp x HMC7044_OUT_DIV_MIN HMC7044_OUT_DIV_MAX).toNat ≤ 4094 := by
  have hmin : HMC7044_OUT_DIV_MIN.toNat = 1 := rfl
  have hmax : HMC7044_OUT_DIV_MAX.toNat = 4094 := rfl
  rw [clamp, UInt32.toNat_max, UInt32.toNat_min, hmin, hmax]
  lia

lemma hmc7044CalcOutDiv_mem {rate parent div : UInt32} (h : hmc7044CalcOutDiv rate parent = some div) :
    1 ≤ div.toNat ∧ div.toNat ≤ 4094 := by
  unfold hmc7044CalcOutDiv at h
  split at h
  · exact absurd h (Option.some_ne_none _).symm
  · dsimp only at h
    split at h
    · split at h
      · exact absurd h (Option.some_ne_none _).symm
      · rw [← Option.some.inj h]
        exact clamp_mem _
    · rw [← Option.some.inj h]
      exact clamp_mem _

lemma divRoundClosest_eq {x y : UInt32} (hrem : 2 * (x.toNat % y.toNat) < y.toNat)
    (hfit : x.toNat + y.toNat / 2 < 2 ^ 32) : divRoundClosest x y = x / y := by
  have hhalf : (y / 2).toNat = y.toNat / 2 := UInt32.toNat_div y 2
  have hpos : 0 < y.toNat := by lia
  apply UInt32.toNat_inj.mp
  rw [divRoundClosest, UInt32.toNat_div, Word.toNat_add_of_lt (by rwa [hhalf]), hhalf, UInt32.toNat_div]
  have hdiv := Nat.div_add_mod x.toNat y.toNat
  rw [Nat.div_eq_iff hpos]
  constructor
  · rw [Nat.mul_comm]
    lia
  · rw [Nat.mul_comm]
    lia

variable {dev dev' : Hmc7044Dev} {regs regs' : Regs} {chan : UInt32} {rate : UInt64} {ret : Int × Int} {r : Int}

/-- A call sets the divider in the table, and a success has written both of its bytes. -/
lemma hmc7044ClkSetRate_cases (h : hmc7044ClkSetRate dev regs chan rate ret = some (r, dev', regs')) :
    (dev.channels.length ≤ chan.toNat ∧ r < 0 ∧ dev' = dev ∧ regs' = regs) ∨
    ∃ div, chan.toNat < dev.channels.length ∧ hmc7044CalcOutDiv rate.toUInt32 dev.pll2Freq = some div ∧
      dev' = { dev with
        channels := dev.channels.modify chan.toNat fun c => { c with divider := div } } ∧
      ∃ ws, ws <+: [hmc7044Write (HMC7044_REG_CH_OUT_CRTL 1 chan.toNat) (HMC7044_DIV_LSB div),
          hmc7044Write (HMC7044_REG_CH_OUT_CRTL 2 chan.toNat) (HMC7044_DIV_MSB div)] ∧
        regs' = applyWrites regs ws ∧ (0 ≤ r → ws.length = 2) := by
  unfold hmc7044ClkSetRate at h
  split at h
  · rename_i hlarge
    obtain ⟨rfl, rfl, rfl⟩ : FAILURE = r ∧ dev = dev' ∧ regs = regs' := by simpa using h
    exact Or.inl ⟨hlarge, by decide, rfl, rfl⟩
  · rename_i hsmall
    obtain ⟨div, hdiv, h⟩ := Option.map_eq_some_iff.mp h
    refine Or.inr ⟨div, Nat.lt_of_not_le hsmall, hdiv, ?_⟩
    dsimp only at h
    split at h
    · rename_i hneg
      obtain ⟨rfl, rfl, rfl⟩ := by simpa using h
      exact ⟨rfl, [], List.nil_prefix, rfl, by omega⟩
    · split at h
      · rename_i hneg
        obtain ⟨rfl, rfl, rfl⟩ := by simpa using h
        exact ⟨rfl, _, List.prefix_append [_] [_], rfl, by omega⟩
      · obtain ⟨rfl, rfl, rfl⟩ := by simpa using h
        exact ⟨rfl, _, List.prefix_refl _, rfl, fun _ => rfl⟩

lemma outDivider_of_ne {div : UInt32} {ws : List RegWrite} {n : ℕ}
    (hws : ws <+: [hmc7044Write (HMC7044_REG_CH_OUT_CRTL 1 chan.toNat) (HMC7044_DIV_LSB div),
      hmc7044Write (HMC7044_REG_CH_OUT_CRTL 2 chan.toNat) (HMC7044_DIV_MSB div)])
    (hchan : chan.toNat < 14) (hne : n ≠ chan.toNat) :
    (applyWrites regs ws).outDivider n = regs.outDivider n := by
  have hregs : ∀ w ∈ ws, ∀ k, k = 1 ∨ k = 2 → w.1 ≠ HMC7044_REG_CH_OUT_CRTL k n := by
    intro w hw k hk
    have hmem := hws.subset hw
    simp only [List.mem_cons, List.not_mem_nil, or_false] at hmem
    have hreg : ∀ m < 10, (0xC8 + m + 0xA * chan.toNat) % 0x1000 = 0xC8 + m + 0xA * chan.toNat :=
      fun m hm => Nat.mod_eq_of_lt (by lia)
    rcases hmem with rfl | rfl
    · change (0xC8 + 1 + 0xA * chan.toNat) % 0x1000 ≠ 0xC8 + k + 0xA * n
      rw [hreg 1 (by decide)]
      lia
    · change (0xC8 + 2 + 0xA * chan.toNat) % 0x1000 ≠ 0xC8 + k + 0xA * n
      rw [hreg 2 (by decide)]
      lia
  unfold Regs.outDivider Regs.pair
  rw [applyWrites_of_ne fun w hw => hregs w hw 1 (Or.inl rfl),
    applyWrites_of_ne fun w hw => hregs w hw 2 (Or.inr rfl)]

lemma outDivider_self {div : UInt32} {ws : List RegWrite}
    (hws : ws <+: [hmc7044Write (HMC7044_REG_CH_OUT_CRTL 1 chan.toNat) (HMC7044_DIV_LSB div),
      hmc7044Write (HMC7044_REG_CH_OUT_CRTL 2 chan.toNat) (HMC7044_DIV_MSB div)])
    (hlength : ws.length = 2) (hchan : chan.toNat < 14) (hdiv : div.toNat ≤ 4094) :
    (applyWrites regs ws).outDivider chan.toNat = div.toNat := by
  obtain rfl := hws.eq_of_length hlength
  have hreg : ∀ k < 10, HMC7044_REG_CH_OUT_CRTL k chan.toNat % 0x1000 =
      HMC7044_REG_CH_OUT_CRTL k chan.toNat := by
    intro k hk
    apply Nat.mod_eq_of_lt
    rw [HMC7044_REG_CH_OUT_CRTL]
    lia
  have hne : HMC7044_REG_CH_OUT_CRTL 1 chan.toNat ≠ HMC7044_REG_CH_OUT_CRTL 2 chan.toNat := by
    change 0xC8 + 1 + 0xA * chan.toNat ≠ 0xC8 + 2 + 0xA * chan.toNat
    omega
  unfold Regs.outDivider Regs.pair applyWrites hmc7044Write
  simp only [List.foldl_cons, List.foldl_nil, hreg 1 (by decide), hreg 2 (by decide)]
  rw [Function.update_of_ne hne, Function.update_self, Function.update_self, HMC7044_DIV_LSB, HMC7044_DIV_MSB,
    toNat_lsb, toNat_lsb, UInt32.toNat_shiftRight]
  change div.toNat % 256 + 256 * (div.toNat >>> 8 % 256) = div.toNat
  rw [Nat.shiftRight_eq_div_pow]
  lia

namespace ClkSystem

variable {s s' : ClkSystem} {c : ClkSetRate}

/-- The channel of a call within the table, with its new divider. -/
lemma getElem?_modify {chans : List Hmc7044ChanSpec} {i : ℕ} (div : UInt32) (h : i < chans.length) :
    ∃ old, chans[i]? = some old ∧
      (chans.modify i fun c => { c with divider := div })[i]? = some { old with divider := div } := by
  refine ⟨chans[i], List.getElem?_eq_getElem h, ?_⟩
  rw [List.getElem?_modify_eq, List.getElem?_eq_getElem h]
  rfl

theorem Allowed.coherent (h : s.Allowed c) : s.Coherent c := by
  intro ret dev regs hset hret
  rcases hmc7044ClkSetRate_cases hset with ⟨-, hneg, -⟩ | ⟨div, hchan, hdiv, rfl, ws, hws, rfl, hlength⟩
  · omega
  · obtain ⟨old, hold, hnew⟩ := getElem?_modify div hchan
    obtain ⟨hnum, hlt, hround⟩ := h old hold
    obtain ⟨hrem, hfit⟩ := hround div hdiv
    obtain ⟨hpos, hle⟩ := hmc7044CalcOutDiv_mem hdiv
    have hlt' : c.chan.toNat < 14 := UInt32.lt_iff_toNat_lt.mp hlt
    have hne : div ≠ 0 := Word.ne_zero_of_pos hpos
    refine ⟨{ old with divider := div }, (s.dev.pll2Freq / div).toUInt64, hnew, ?_, ?_, ?_, ?_⟩
    · rw [hmc7044ClkRecalcRate, hnew, if_neg (by rw [List.length_modify]; lia)]
      exact if_neg hne
    · rw [hmc7044ClkRoundRate, hdiv, ← divRoundClosest_eq hrem hfit]
      rfl
    · change (applyWrites s.regs ws).outDivider old.num.toNat = div.toNat
      rw [hnum]
      exact outDivider_self hws (hlength hret) hlt' hle
    · intro n _ hneq
      change n ≠ old.num.toNat at hneq
      rw [hnum] at hneq
      exact outDivider_of_ne hws hlt' hneq

/-- An allowed call keeps the registers of all channels that were set successfully in step. -/
lemma Mirrored.step (h : s.Mirrored) (hallowed : s.Allowed c) (hstep : s.step c = .ok s') :
    s'.Mirrored := by
  unfold ClkSystem.step at hstep
  split at hstep
  · exact absurd hstep (by simp)
  · rename_i ret dev regs hset
    obtain rfl := Except.ok.inj hstep
    intro j chan hsynced hchan
    rcases hmc7044ClkSetRate_cases hset with ⟨hlarge, -, rfl, rfl⟩ | ⟨div, hsmall, hdiv, rfl, ws, hws, rfl, hlength⟩
    · rw [if_pos hlarge] at hsynced
      exact h j chan hsynced hchan
    · rw [if_neg (Nat.not_le_of_lt hsmall)] at hsynced
      obtain ⟨old, hold, hnew⟩ := getElem?_modify div hsmall
      obtain ⟨hnum, hlt, -⟩ := hallowed old hold
      have hlt' : c.chan.toNat < 14 := UInt32.lt_iff_toNat_lt.mp hlt
      by_cases hj : j = c.chan.toNat
      · subst hj
        change Function.update s.synced c.chan.toNat _ c.chan.toNat = true at hsynced
        rw [Function.update_self, decide_eq_true_eq] at hsynced
        obtain rfl := Option.some.inj (hnew.symm.trans hchan)
        exact ⟨congrArg UInt32.toNat hnum, hlt',
          outDivider_self hws (hlength hsynced) hlt' (hmc7044CalcOutDiv_mem hdiv).2⟩
      · change Function.update s.synced c.chan.toNat _ j = true at hsynced
        rw [Function.update_of_ne hj] at hsynced
        change (List.modify _ _ _)[j]? = some chan at hchan
        rw [List.getElem?_modify_ne _ _ (Ne.symm hj)] at hchan
        obtain ⟨hnum', hj', hheld⟩ := h j chan hsynced hchan
        exact ⟨hnum', hj', (outDivider_of_ne hws hlt' hj).trans hheld⟩

/-- Where every call stands at the index of its output and rounds down, the registers follow the table
and every call is coherent. -/
theorem set_rate_coherent (dev : Hmc7044Dev) (regs : Regs) (calls : List ClkSetRate) (r : SetupResult) :
    (hmc7044Init dev).value = some r →
    Guarded (orFault step) (untilFault Allowed) (.ok (start r regs)) calls →
    Always (orFault step) (Unless (fun _ => True) Mirrored) (.ok (start r regs)) calls ∧
      ∀ pre c s, pre ++ [c] <+: calls → run (orFault step) (.ok (start r regs)) pre = .ok s →
        s.Coherent c := by
  intro _ hcalls
  constructor
  · apply hcalls.unless
    · exact fun j chan hsynced => absurd hsynced (by simp [start])
    · intro t c ht hallowed
      rcases hstep : t.step c with _ | t'
      · exact trivial
      · exact ht.step hallowed hstep
  · intro pre c s hpre hrun
    apply Allowed.coherent
    have hallowed := hcalls pre c hpre
    rw [hrun] at hallowed
    exact hallowed

/-- An HMC7043 with a clock of 1 GHz and two channels with a divider of 10. -/
def twoChannels (num0 num1 : UInt32) : Hmc7044Dev :=
  { plainDev 0 0 ![1000000000, 0, 0, 0] with
    isHmc7043 := true
    channels := [num0, num1].map fun num => ⟨num, false, false, false, false, false, false, 10, 0, 0, 0, 0, 0⟩ }

theorem set_rate_coherent_at :
    (start (hmc7043Setup (twoChannels 0 1)) fun _ => 0).Coherent ⟨1, 250000000, (0, 0)⟩ :=
  (set_rate_coherent (twoChannels 0 1) (fun _ => 0) [⟨1, 250000000, (0, 0)⟩] _ rfl (by
      intro pre c hpre
      obtain rfl : pre = [] := by
        have hlength := hpre.length_le
        rw [List.length_append] at hlength
        exact List.eq_nil_of_length_eq_zero (by simpa using hlength)
      obtain rfl := (List.cons_prefix_cons.mp hpre).1
      intro chan hchan
      obtain rfl := Option.some.inj hchan
      refine ⟨rfl, by decide, fun div hdiv => ?_⟩
      obtain rfl := Option.some.inj hdiv
      decide)).2 [] _ _ (List.prefix_refl _) rfl

/-- With the channels in the other order, the registers of the first output get the divider of the
second one. -/
theorem set_rate_of_other_output : ∃ r, (hmc7044Init (twoChannels 1 0)).value = some r ∧
    ¬(start r fun _ => 0).Coherent ⟨0, 250000000, (0, 0)⟩ := by
  refine ⟨_, rfl, fun h => ?_⟩
  obtain ⟨chan, rate, hchan, -, -, hheld, -⟩ := h 0 _ _ rfl (by decide)
  obtain rfl := Option.some.inj hchan
  exact absurd hheld (by decide)

end ClkSystem

end NoOS
