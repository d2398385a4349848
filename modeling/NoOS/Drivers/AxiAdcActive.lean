import NoOS.Drivers.AxiAdcCore
import NoOS.Lib.RegisterFile
import NoOS.Lib.Trace
import NoOS.Lib.Word

/-!
# The active channels of a converter

The driver updates the channels only if their mask is not the one it remembers. The monitors enable all channels
behind its back, as the initialisation does, which leaves the remembered mask to chance.
-/

namespace NoOS
open Trace

section Registers

variable {c c' : ℕ} {regs : AdcRegs} {sel delay a : UInt32}

lemma toNat_channel {base : UInt32} (hbase : base.toNat < 2 ^ 16) (hc : c < 256) :
    (base + UInt32.ofNat c * 0x40).toNat = base.toNat + c * 64 := by
  have hsmall : (UInt32.ofNat c).toNat = c := UInt32.toNat_ofNat_of_lt' (hc.trans (by decide))
  have hmul : (UInt32.ofNat c * 0x40).toNat = c * 64 := by
    rw [UInt32.toNat_mul, hsmall]
    change c * 64 % 2 ^ 32 = c * 64
    lia
  rw [Word.toNat_add_of_lt (by lia), hmul]

/-- The address of the control register of a channel. -/
def cntrl (c : ℕ) : UInt32 := AXI_ADC_REG_CHAN_CNTRL (UInt32.ofNat c)

lemma toNat_cntrl (hc : c < 256) : (cntrl c).toNat = 0x400 + c * 64 := toNat_channel (by decide) hc

lemma cntrl_ne (hc : c < 256) (hc' : c' < 256) (hne : c ≠ c') : cntrl c ≠ cntrl c' := by
  intro heq
  have hnat := congrArg UInt32.toNat heq
  rw [toNat_cntrl hc, toNat_cntrl hc'] at hnat
  lia

lemma cntrl_ne_cntrl3 (hc : c < 256) (hc' : c' < 256) :
    cntrl c ≠ AXI_ADC_REG_CHAN_CNTRL_3 (UInt32.ofNat c') := by
  intro heq
  have hnat := congrArg UInt32.toNat heq
  have h3 : (AXI_ADC_REG_CHAN_CNTRL_3 (UInt32.ofNat c')).toNat = 0x418 + c' * 64 := toNat_channel (by decide) hc'
  rw [toNat_cntrl hc, h3] at hnat
  lia

lemma cntrl_ne_status (hc : c < 256) (hc' : c' < 256) : cntrl c ≠ AXI_ADC_REG_CHAN_STATUS (UInt32.ofNat c') := by
  intro heq
  have hnat := congrArg UInt32.toNat heq
  have hstatus : (AXI_ADC_REG_CHAN_STATUS (UInt32.ofNat c')).toNat = 0x404 + c' * 64 :=
    toNat_channel (by decide) hc'
  rw [toNat_cntrl hc, hstatus] at hnat
  lia

/-- A channel is enabled. -/
def AdcRegs.enabled (regs : AdcRegs) (c : ℕ) : Prop := regs (cntrl c) &&& AXI_ADC_ENABLE ≠ 0

instance : Decidable (regs.enabled c) := inferInstanceAs (Decidable (_ ≠ _))

lemma or_enable : (a ||| AXI_ADC_ENABLE) &&& AXI_ADC_ENABLE ≠ 0 := by
  have hself : (a ||| AXI_ADC_ENABLE) &&& AXI_ADC_ENABLE = AXI_ADC_ENABLE := by
    apply RegisterFile.ext_bits
    intro k hk
    simp only [UInt32.toBitVec_and, UInt32.toBitVec_or, BitVec.getElem_and, BitVec.getElem_or]
    grind
  rw [hself]
  decide

lemma and_not_enable : (a &&& ~~~AXI_ADC_ENABLE) &&& AXI_ADC_ENABLE = 0 := by
  rw [UInt32.and_assoc]
  exact UInt32.and_zero

lemma or_enable_others : (a ||| AXI_ADC_ENABLE) &&& ~~~AXI_ADC_ENABLE = a &&& ~~~AXI_ADC_ENABLE := by
  apply RegisterFile.ext_bits
  intro k hk
  simp only [UInt32.toBitVec_and, UInt32.toBitVec_or, UInt32.toBitVec_not, BitVec.getElem_and,
    BitVec.getElem_or, BitVec.getElem_not]
  grind

lemma and_not_enable_others : (a &&& ~~~AXI_ADC_ENABLE) &&& ~~~AXI_ADC_ENABLE = a &&& ~~~AXI_ADC_ENABLE := by
  rw [UInt32.and_assoc, UInt32.and_self]

end Registers

section Functions

variable {adc : AxiAdc} {c : ℕ} {sel : UInt32}

lemma numChannels_lt (adc : AxiAdc) : adc.numChannels.toNat < 256 := adc.numChannels.toNat_lt

lemma pnMon_enables (status : ℕ → UInt32) (hc : c < adc.numChannels.toNat) :
    (axiAdcPnMon adc sel status).2.regs.enabled c := by
  have hlt := numChannels_lt adc
  have henable : (Passes.run (pnMonEnable sel) adc.numChannels.toNat adc.regs) (cntrl c) =
      adc.regs (cntrl c) ||| AXI_ADC_ENABLE := by
    apply Passes.run_cell (fun (regs : AdcRegs) ch => regs (cntrl ch)) (fun _ val => val ||| AXI_ADC_ENABLE) _ _ hc
    · intro regs i hi
      have hne := cntrl_ne_cntrl3 (hi.trans hlt) (hi.trans hlt)
      exact (Function.update_of_ne hne _ _).trans (Function.update_self ..)
    · intro regs i j hi hj hji
      have hne := cntrl_ne_cntrl3 (hj.trans hlt) (hi.trans hlt)
      exact (Function.update_of_ne hne _ _).trans
        (Function.update_of_ne (cntrl_ne (hj.trans hlt) (hi.trans hlt) hji) _ _)
  have hclear : ∀ regs, (Passes.run pnMonClear adc.numChannels.toNat regs) (cntrl c) = regs (cntrl c) := by
    intro regs
    apply Passes.run_keeps fun (regs : AdcRegs) => regs (cntrl c)
    intro regs i hi
    exact Function.update_of_ne (cntrl_ne_status (hc.trans hlt) (hi.trans hlt)) _ _
  change (Passes.run pnMonClear _ (Passes.run (pnMonEnable sel) _ adc.regs)) (cntrl c) &&& AXI_ADC_ENABLE ≠ 0
  rw [hclear, henable]
  exact or_enable

/-- The version of the core is behind none of the registers of a channel. -/
lemma pnMon_version (status : ℕ → UInt32) : (axiAdcPnMon adc sel status).2.regs 0x0 = adc.regs 0x0 := by
  have hlt := numChannels_lt adc
  have hne : ∀ base : UInt32, 0 < base.toNat → base.toNat < 2 ^ 16 → ∀ i < adc.numChannels.toNat,
      0x0 ≠ base + UInt32.ofNat i * 0x40 := by
    intro base hpos hbase i hi heq
    have hnat := congrArg UInt32.toNat heq
    rw [toNat_channel hbase (hi.trans hlt), UInt32.toNat_zero] at hnat
    lia
  have henable : (Passes.run (pnMonEnable sel) adc.numChannels.toNat adc.regs) 0x0 = adc.regs 0x0 := by
    apply Passes.run_keeps fun (regs : AdcRegs) => regs 0x0
    intro regs i hi
    exact (Function.update_of_ne (hne 0x0418 (by decide) (by decide) i hi) _ _).trans
      (Function.update_of_ne (hne 0x0400 (by decide) (by decide) i hi) _ _)
  have hclear : ∀ regs, (Passes.run pnMonClear adc.numChannels.toNat regs) 0x0 = regs 0x0 := by
    intro regs
    apply Passes.run_keeps fun (regs : AdcRegs) => regs 0x0
    intro regs i hi
    exact Function.update_of_ne (hne 0x0404 (by decide) (by decide) i hi) _ _
  exact (hclear _).trans henable

/-- The delays of the lanes are not written, or not to a control register of a channel. -/
def DelaysApart (adc : AxiAdc) (noOfLanes : UInt32) : Prop :=
  adc.regs 0x0 >>> 16 < 9 ∨
    ∀ lane < noOfLanes.toNat, ∀ c < adc.numChannels.toNat, AXI_ADC_REG_DELAY (UInt32.ofNat lane) ≠ cntrl c

instance (noOfLanes : UInt32) : Decidable (DelaysApart adc noOfLanes) := inferInstanceAs (Decidable (_ ∨ _))

variable {noOfLanes delay : UInt32}

lemma delaySet_cntrl (h : DelaysApart adc noOfLanes) (hc : c < adc.numChannels.toNat) :
    (axiAdcDelaySet adc noOfLanes delay).regs (cntrl c) = adc.regs (cntrl c) := by
  unfold axiAdcDelaySet
  dsimp only
  split_ifs with hversion
  · rfl
  · apply Passes.run_keeps fun (regs : AdcRegs) => regs (cntrl c)
    intro regs lane hlane
    exact Function.update_of_ne (h.resolve_left hversion lane hlane c hc).symm _ _

lemma delaySet_fields : (axiAdcDelaySet adc noOfLanes delay).numChannels = adc.numChannels ∧
    (axiAdcDelaySet adc noOfLanes delay).mask = adc.mask := by
  unfold axiAdcDelaySet
  dsimp only
  split_ifs <;> exact ⟨rfl, rfl⟩

lemma DelaysApart.delaySet (h : DelaysApart adc noOfLanes) :
    DelaysApart (axiAdcDelaySet adc noOfLanes delay) noOfLanes := by
  rcases h with hversion | hapart
  · left
    unfold axiAdcDelaySet
    rwa [if_pos hversion]
  · right
    rwa [delaySet_fields.1]

lemma DelaysApart.pnMon (h : DelaysApart adc noOfLanes) (status : ℕ → UInt32) :
    DelaysApart (axiAdcPnMon adc sel status).2 noOfLanes := by
  rcases h with hversion | hapart
  · left
    rwa [pnMon_version status]
  · exact Or.inr hapart

/-- What the passes of a calibration keep. -/
structure Calibrating (adc : AxiAdc) (noOfLanes : UInt32) (t : AxiAdc) : Prop where
  numChannels : t.numChannels = adc.numChannels
  mask : t.mask = adc.mask
  apart : DelaysApart t noOfLanes

/-- After a calibration every channel is enabled, whatever the monitors have reported. -/
lemma delayCalibrate_enables {adc' : AxiAdc} {ret : Int} {status : ℕ → ℕ → UInt32}
    (h : axiAdcDelayCalibrate adc noOfLanes sel status = some (ret, adc')) (hapart : DelaysApart adc noOfLanes) :
    adc'.numChannels = adc.numChannels ∧ adc'.mask = adc.mask ∧
      ∀ c < adc.numChannels.toNat, adc'.regs.enabled c := by
  let loop := Passes.run (calibratePass noOfLanes sel status) 32 (adc, [])
  have hkeeps : Calibrating adc noOfLanes loop.1 := by
    apply @Passes.run_induction _ _ _ _ fun s : AxiAdc × List Bool => Calibrating adc noOfLanes s.1
    · exact ⟨rfl, rfl, hapart⟩
    · intro s i ⟨hnum, hmask, hs⟩
      exact ⟨delaySet_fields.1.trans hnum, delaySet_fields.2.trans hmask, hs.delaySet.pnMon (status i)⟩
  have henabled : ∀ c < loop.1.numChannels.toNat, loop.1.regs.enabled c := by
    apply @Passes.run_last _ _ _ _ fun s : AxiAdc × List Bool => ∀ c < s.1.numChannels.toNat, s.1.regs.enabled c
    · intro s i c hc
      exact pnMon_enables (status i) hc
    · decide
  have hlast : ∀ delay, axiAdcDelaySet loop.1 noOfLanes delay = adc' →
      adc'.numChannels = adc.numChannels ∧ adc'.mask = adc.mask ∧
        ∀ c < adc.numChannels.toNat, adc'.regs.enabled c := by
    rintro delay rfl
    refine ⟨delaySet_fields.1.trans hkeeps.numChannels, delaySet_fields.2.trans hkeeps.mask, ?_⟩
    intro c hc
    rw [← hkeeps.numChannels] at hc
    unfold AdcRegs.enabled
    rw [delaySet_cntrl hkeeps.apart hc]
    exact henabled c hc
  change (if ∀ err ∈ loop.2, err = true then some (FAILURE, axiAdcDelaySet loop.1 noOfLanes 0)
    else (calibratedDelay loop.2).map fun delay => (SUCCESS, axiAdcDelaySet loop.1 noOfLanes delay)) =
      some (ret, adc') at h
  split_ifs at h
  · exact hlast 0 (Prod.mk.inj (Option.some.inj h)).2
  · obtain ⟨delay, -, heq⟩ := Option.map_eq_some_iff.mp h
    exact hlast delay (Prod.mk.inj heq).2

/-- The control register of a channel after an update with `mask`. -/
def updatedCntrl (mask : UInt32) (c : ℕ) (val : UInt32) : UInt32 :=
  if mask.toNat.testBit c then val ||| AXI_ADC_ENABLE else val &&& ~~~AXI_ADC_ENABLE

lemma and_one_ne_zero {a : UInt32} : a &&& 1 ≠ 0 ↔ a.toNat.testBit 0 = true := by
  rw [Ne, ← UInt32.toNat_inj, UInt32.toNat_and, Nat.testBit_zero]
  change ¬a.toNat &&& 1 = 0 ↔ _
  rw [Nat.and_one_is_mod, decide_eq_true_eq]
  lia

lemma updateChannels_cntrl {mask : UInt32} {n : ℕ} (regs : AdcRegs) (hn : n < 256) :
    (Passes.run updateChannel n (regs, mask)).2.toNat = mask.toNat >>> n ∧ ∀ c < 256,
      (Passes.run updateChannel n (regs, mask)).1 (cntrl c) =
        if c < n then updatedCntrl mask c (regs (cntrl c)) else regs (cntrl c) := by
  induction n with
  | zero => exact ⟨rfl, fun c _ => rfl⟩
  | succ n ih =>
    obtain ⟨hmask, hcntrl⟩ := ih (by lia)
    rw [Passes.run_succ]
    generalize Passes.run updateChannel n (regs, mask) = t at hmask hcntrl ⊢
    have hbit : t.2 &&& 1 ≠ 0 ↔ mask.toNat.testBit n = true := by
      rw [and_one_ne_zero, hmask, Nat.testBit_shiftRight, Nat.add_zero]
    have hown : (updateChannel t n).1 (cntrl n) = updatedCntrl mask n (t.1 (cntrl n)) := by
      unfold updateChannel updatedCntrl
      simp only [hbit]
      split_ifs with hb hsame hsame
      · exact Function.update_self ..
      · exact (not_not.mp hsame).symm
      · exact Function.update_self ..
      · exact (not_not.mp hsame).symm
    constructor
    · change (t.2 >>> 1).toNat = mask.toNat >>> (n + 1)
      rw [UInt32.toNat_shiftRight, hmask, Nat.shiftRight_add]
      rfl
    · intro c hc
      by_cases hcn : c = n
      · subst hcn
        rw [hown, hcntrl c hc, if_neg (Nat.lt_irrefl c), if_pos (Nat.lt_succ_self c)]
      · have hother : (updateChannel t n).1 (cntrl c) = t.1 (cntrl c) := by
          have hne := cntrl_ne hc (show n < 256 by lia) hcn
          unfold updateChannel
          dsimp only
          split_ifs
          · exact Function.update_of_ne hne _ _
          · rfl
          · exact Function.update_of_ne hne _ _
          · rfl
        rw [hother, hcntrl c hc]
        by_cases hlt : c < n
        · rw [if_pos hlt, if_pos (Nat.lt_succ_of_lt hlt)]
        · rw [if_neg hlt, if_neg (by lia)]

/-- The bits of a mask below `n`. -/
def maskBits (n : ℕ) (mask : ℕ) : ℕ := ((List.range n).filter fun c => mask.testBit c).length

lemma maskBits_succ (n mask : ℕ) :
    maskBits (n + 1) mask = (if mask.testBit 0 then 1 else 0) + maskBits n (mask >>> 1) := by
  have hshift : ((List.range n).map Nat.succ).filter (fun c => mask.testBit c) =
      ((List.range n).filter fun c => (mask >>> 1).testBit c).map Nat.succ := by
    rw [List.filter_map]
    congr 2
    funext c
    rw [Function.comp_apply, Nat.testBit_shiftRight, Nat.add_comm]
  rw [maskBits, List.range_succ_eq_map, List.filter_cons, hshift]
  split_ifs
  · rw [List.length_cons, List.length_map, Nat.add_comm, maskBits]
  · rw [List.length_map, Nat.zero_add, maskBits]

lemma maskBits_zero (n : ℕ) : maskBits n 0 = 0 := by
  unfold maskBits
  rw [List.filter_eq_nil_iff.mpr]
  · rfl
  · intro c _
    rw [Nat.zero_testBit]
    exact Bool.false_ne_true

lemma maskBits_le (n mask : ℕ) : maskBits n mask ≤ n := by
  have hle := List.length_filter_le (fun c => mask.testBit c) (List.range n)
  rwa [List.length_range] at hle

/-- All bits are counted, as long as there are passes left for them. -/
lemma hweightFrom_eq {fuel n : ℕ} {word count : UInt32} (hfuel : word.toNat < 2 ^ fuel) (hn : word.toNat < 2 ^ n) :
    hweightFrom fuel word count = count + UInt32.ofNat (maskBits n word.toNat) := by
  induction fuel generalizing n word count with
  | zero =>
    obtain rfl : word = 0 := UInt32.toNat_inj.mp (Nat.lt_one_iff.mp hfuel)
    rw [UInt32.toNat_zero, maskBits_zero]
    exact (UInt32.add_zero count).symm
  | succ fuel ih =>
    unfold hweightFrom
    by_cases hzero : word = 0
    · rw [if_pos hzero, hzero, UInt32.toNat_zero, maskBits_zero]
      exact (UInt32.add_zero count).symm
    · have hpos : 0 < word.toNat := Nat.pos_of_ne_zero fun h => hzero (UInt32.toNat_inj.mp h)
      cases n with
      | zero => exact absurd (Nat.lt_one_iff.mp hn) (by omega)
      | succ n =>
        have hshift : (word >>> 1).toNat = word.toNat >>> 1 := UInt32.toNat_shiftRight ..
        have hhalf : ∀ k, word.toNat < 2 ^ (k + 1) → (word >>> 1).toNat < 2 ^ k := by
          intro k hk
          rw [hshift, Nat.shiftRight_eq_div_pow]
          rw [Nat.pow_succ] at hk
          lia
        rw [if_neg hzero, ih (hhalf fuel hfuel) (hhalf n hn), maskBits_succ, hshift]
        by_cases hbit : word &&& 1 ≠ 0
        · rw [if_pos hbit, if_pos (and_one_ne_zero.mp hbit), UInt32.ofNat_add, ← UInt32.add_assoc]
          rfl
        · rw [if_neg hbit, if_neg fun h => hbit (and_one_ne_zero.mpr h), Nat.zero_add]

lemma toNat_hweight8 {n : ℕ} {mask : UInt32} (hlt : n < 256) (hn : mask.toNat < 2 ^ n) :
    (hweight8 mask).toNat = maskBits n mask.toNat := by
  have hle := maskBits_le n mask.toNat
  rw [hweight8, hweightFrom_eq mask.toNat_lt hn, UInt32.zero_add, UInt32.toNat_ofNat_of_lt']
  simp only [UInt32.size]
  lia

end Functions

inductive AxiAdcCall
  | pnMon (sel : UInt32) (status : ℕ → UInt32)
  | delayCalibrate (noOfLanes sel : UInt32) (status : ℕ → ℕ → UInt32)
  | prepareTransfer (mask : UInt32)
  | readDev (nbSamples : UInt32)

/-- The masks are for the channels that there are. -/
def AxiAdcCall.InRange (n : ℕ) : AxiAdcCall → Prop
  | .prepareTransfer mask => mask.toNat < 2 ^ n
  | _ => True

structure AxiAdcSystem where
  iioAdc : IioAxiAdc
  /-- All channels have been enabled since their last update -/
  monitored : Bool
  /-- Only reads have followed the last preparation -/
  prepared : Bool

namespace AxiAdcSystem

def start (adc : AxiAdc) (mask : UInt32) : AxiAdcSystem := ⟨⟨adc, mask⟩, true, false⟩

/-- An access beyond an array ends the run. -/
def step (s : AxiAdcSystem) : AxiAdcCall → Except Unit AxiAdcSystem
  | .pnMon sel status => .ok ⟨⟨(axiAdcPnMon s.iioAdc.adc sel status).2, s.iioAdc.mask⟩, true, false⟩
  | .delayCalibrate noOfLanes sel status =>
    match axiAdcDelayCalibrate s.iioAdc.adc noOfLanes sel status with
    | none => .error ()
    | some (_, adc) => .ok ⟨⟨adc, s.iioAdc.mask⟩, true, false⟩
  | .prepareTransfer mask => .ok ⟨(iioAxiAdcPrepareTransfer s.iioAdc mask).2,
      s.monitored && decide (mask = s.iioAdc.adc.mask), true⟩
  | .readDev _ => .ok s

def channels (s : AxiAdcSystem) : ℕ := s.iioAdc.adc.numChannels.toNat

def enabledChannels (s : AxiAdcSystem) : ℕ :=
  ((List.range s.channels).filter fun c => decide (s.iioAdc.adc.regs.enabled c)).length

/-- What a call does in the state in which it is made. -/
def Right (s : AxiAdcSystem) : AxiAdcCall → Prop
  | .prepareTransfer mask =>
    let t := (iioAxiAdcPrepareTransfer s.iioAdc mask).2.adc.regs
    ∀ c < s.channels, (t.enabled c ↔ mask.toNat.testBit c) ∧
      t (cntrl c) &&& ~~~AXI_ADC_ENABLE = s.iioAdc.adc.regs (cntrl c) &&& ~~~AXI_ADC_ENABLE
  | .readDev nbSamples => s.prepared →
    (iioAxiAdcReadBytes s.iioAdc nbSamples).toNat = nbSamples.toNat * s.enabledChannels * 2
  | _ => True

/-- The calls for which the mask that is remembered is the one to look at, the lanes are apart from the channels,
and the number of bytes fits into a word. -/
def Allowed (s : AxiAdcSystem) : AxiAdcCall → Prop
  | .prepareTransfer mask => mask = s.iioAdc.adc.mask → s.monitored = true →
    ∀ c < s.channels, mask.toNat.testBit c
  | .delayCalibrate noOfLanes _ _ => DelaysApart s.iioAdc.adc noOfLanes
  | .readDev nbSamples => nbSamples.toNat * maskBits s.channels s.iioAdc.mask.toNat * 2 < 2 ^ 32
  | _ => True

structure Inv (n : ℕ) (s : AxiAdcSystem) : Prop where
  channels : s.channels = n
  lt : n < 256
  enabled : ∀ c < n, s.iioAdc.adc.regs.enabled c ↔
    s.monitored = true ∨ s.iioAdc.adc.mask.toNat.testBit c = true
  prepared : s.prepared = true → s.iioAdc.mask.toNat < 2 ^ n ∧
    ∀ c < n, s.iioAdc.adc.regs.enabled c ↔ s.iioAdc.mask.toNat.testBit c = true

variable {s t : AxiAdcSystem} {call : AxiAdcCall} {n : ℕ}

lemma updated_enabled (mask : UInt32) (c : ℕ) (val : UInt32) :
    (updatedCntrl mask c val &&& AXI_ADC_ENABLE ≠ 0 ↔ mask.toNat.testBit c = true) ∧
      updatedCntrl mask c val &&& ~~~AXI_ADC_ENABLE = val &&& ~~~AXI_ADC_ENABLE := by
  unfold updatedCntrl
  split_ifs with hbit
  · exact ⟨iff_of_true or_enable hbit, or_enable_others⟩
  · exact ⟨iff_of_false (not_not.mpr and_not_enable) hbit, and_not_enable_others⟩

lemma prepare_updates {mask : UInt32} (hne : mask ≠ s.iioAdc.adc.mask) {c : ℕ} (hc : c < s.channels) :
    (iioAxiAdcPrepareTransfer s.iioAdc mask).2.adc.regs (cntrl c) =
      updatedCntrl mask c (s.iioAdc.adc.regs (cntrl c)) := by
  have hlt := numChannels_lt s.iioAdc.adc
  have hrun := (@updateChannels_cntrl mask _ s.iioAdc.adc.regs hlt).2 c (hc.trans hlt)
  unfold iioAxiAdcPrepareTransfer axiAdcUpdateActiveChannels
  rw [if_neg hne]
  exact hrun.trans (if_pos hc)

lemma prepare_skips {mask : UInt32} (h : mask = s.iioAdc.adc.mask) :
    (iioAxiAdcPrepareTransfer s.iioAdc mask).2.adc = s.iioAdc.adc := by
  unfold iioAxiAdcPrepareTransfer axiAdcUpdateActiveChannels
  rw [if_pos h]

lemma Inv.right_prepare {mask : UInt32} (h : s.Inv n) (hallowed : s.Allowed (.prepareTransfer mask)) :
    s.Right (.prepareTransfer mask) := by
  intro c hc
  unfold AdcRegs.enabled
  by_cases hmask : mask = s.iioAdc.adc.mask
  · have henabled := h.enabled c (h.channels ▸ hc)
    rw [prepare_skips hmask]
    refine ⟨henabled.trans ?_, rfl⟩
    rw [← hmask]
    constructor
    · rintro (hmonitored | hbit)
      · exact hallowed hmask hmonitored c hc
      · exact hbit
    · exact Or.inr
  · rw [prepare_updates hmask hc]
    exact updated_enabled mask c _

lemma Inv.right_read {nbSamples : UInt32} (h : s.Inv n) (hallowed : s.Allowed (.readDev nbSamples)) :
    s.Right (.readDev nbSamples) := by
  intro hprepared
  obtain ⟨hlt, henabled⟩ := h.prepared hprepared
  have hcount : s.enabledChannels = maskBits n s.iioAdc.mask.toNat := by
    unfold enabledChannels maskBits
    rw [h.channels]
    congr 1
    apply List.filter_congr
    intro c hc
    rw [Bool.eq_iff_iff, decide_eq_true_eq]
    exact henabled c (List.mem_range.mp hc)
  have hweight := toNat_hweight8 h.lt hlt
  dsimp only [Allowed] at hallowed
  rw [h.channels] at hallowed
  have hsmall : nbSamples.toNat * maskBits n s.iioAdc.mask.toNat < 2 ^ 32 := by lia
  rw [iioAxiAdcReadBytes, UInt32.toNat_mul, UInt32.toNat_mul, hweight, hcount, Nat.mod_eq_of_lt hsmall]
  exact Nat.mod_eq_of_lt hallowed

lemma Inv.right (h : s.Inv n) (hallowed : s.Allowed call) : s.Right call := by
  cases call with
  | pnMon sel status => trivial
  | delayCalibrate noOfLanes sel status => trivial
  | prepareTransfer mask => exact h.right_prepare hallowed
  | readDev nbSamples => exact h.right_read hallowed

lemma Inv.step (h : s.Inv n) (hallowed : s.Allowed call) (hrange : call.InRange n) (hstep : s.step call = .ok t) :
    t.Inv n := by
  cases call with
  | pnMon sel status =>
    obtain rfl := Except.ok.inj hstep
    refine ⟨h.channels, h.lt, ?_, fun hfalse => absurd hfalse Bool.false_ne_true⟩
    intro c hc
    exact iff_of_true (pnMon_enables status (hc.trans_eq h.channels.symm)) (Or.inl rfl)
  | delayCalibrate noOfLanes sel status =>
    dsimp only [AxiAdcSystem.step] at hstep
    split at hstep
    · exact absurd hstep nofun
    · rename_i ret adc hcalibrate
      obtain rfl := Except.ok.inj hstep
      obtain ⟨hnum, -, henabled⟩ := delayCalibrate_enables hcalibrate hallowed
      refine ⟨?_, h.lt, ?_, fun hfalse => absurd hfalse Bool.false_ne_true⟩
      · exact (congrArg UInt8.toNat hnum).trans h.channels
      · intro c hc
        exact iff_of_true (henabled c (hc.trans_eq h.channels.symm)) (Or.inl rfl)
  | prepareTransfer mask =>
    obtain rfl := Except.ok.inj hstep
    have hright := h.right_prepare hallowed
    have hbits : ∀ c < n, (iioAxiAdcPrepareTransfer s.iioAdc mask).2.adc.regs.enabled c ↔
        mask.toNat.testBit c = true := fun c hc => (hright c (h.channels.symm ▸ hc)).1
    have hfields : (iioAxiAdcPrepareTransfer s.iioAdc mask).2.adc.numChannels = s.iioAdc.adc.numChannels ∧
        (iioAxiAdcPrepareTransfer s.iioAdc mask).2.adc.mask = mask := by
      unfold iioAxiAdcPrepareTransfer axiAdcUpdateActiveChannels
      split_ifs with hmask
      · exact ⟨rfl, hmask.symm⟩
      · exact ⟨rfl, rfl⟩
    refine ⟨(congrArg UInt8.toNat hfields.1).trans h.channels, h.lt, ?_, fun _ => ⟨hrange, hbits⟩⟩
    intro c hc
    rw [hbits c hc, hfields.2]
    constructor
    · exact Or.inr
    · rintro (hmonitored | hbit)
      · obtain ⟨hbefore, hsame⟩ := Bool.and_eq_true_iff.mp hmonitored
        exact hallowed (of_decide_eq_true hsame) hbefore c (h.channels.symm ▸ hc)
      · exact hbit
  | readDev nbSamples =>
    obtain rfl := Except.ok.inj hstep
    exact h

lemma init_inv {numChannels : UInt8} {mask iioMask status : UInt32} {regs : AdcRegs} {adc : AxiAdc}
    (h : axiAdcInit numChannels mask regs status = some adc) : (start adc iioMask).Inv numChannels.toNat := by
  have hlt : numChannels.toNat < 256 := numChannels.toNat_lt
  unfold axiAdcInit at h
  dsimp only at h
  split_ifs at h
  obtain rfl := Option.some.inj h
  refine ⟨rfl, hlt, ?_, fun hfalse => absurd hfalse Bool.false_ne_true⟩
  intro c hc
  refine iff_of_true ?_ (Or.inl rfl)
  unfold AdcRegs.enabled
  dsimp only [start]
  rw [Passes.run_cell (fun (regs : AdcRegs) ch => regs (cntrl ch))
    (fun _ _ => AXI_ADC_FORMAT_SIGNEXT ||| AXI_ADC_FORMAT_ENABLE ||| AXI_ADC_ENABLE) _ _ hc]
  · exact or_enable
  · exact fun _ _ _ => Function.update_self ..
  · exact fun _ i j hi hj hji => Function.update_of_ne (cntrl_ne (hj.trans hlt) (hi.trans hlt) hji) _ _

end AxiAdcSystem

open AxiAdcSystem

/-- In every run whose calls are allowed, each preparation enables the channels of its mask and no others, and a
read that follows requests their bytes. -/
theorem channels_follow_mask {numChannels : UInt8} {mask iioMask status : UInt32} {regs : AdcRegs} {adc : AxiAdc}
    (hinit : axiAdcInit numChannels mask regs status = some adc) (calls : List AxiAdcCall)
    (hrange : ∀ call ∈ calls, call.InRange numChannels.toNat)
    (hallowed : Guarded (orFault step) (untilFault Allowed) (.ok (start adc iioMask)) calls) :
    ∀ pre call s, pre ++ [call] <+: calls → run (orFault step) (.ok (start adc iioMask)) pre = .ok s →
      s.Right call := by
  have hguarded : Guarded (orFault step) (untilFault fun s call => s.Allowed call ∧ call.InRange numChannels.toNat)
      (.ok (start adc iioMask)) calls := by
    intro pre call hpre
    have hcall := hallowed pre call hpre
    have hmem : call ∈ calls := hpre.subset (by simp)
    cases hrun : run (orFault step) (.ok (start adc iioMask)) pre with
    | ok s =>
      rw [hrun] at hcall
      exact ⟨hcall, hrange call hmem⟩
    | error _ => trivial
  have hinv : Always (orFault step) (Unless (fun _ => True) (Inv numChannels.toNat)) (.ok (start adc iioMask))
      calls := by
    apply hguarded.unless (init_inv hinit)
    intro t call ht ⟨hok, hin⟩
    cases hstep : t.step call with
    | ok t' => exact ht.step hok hin hstep
    | error _ => trivial
  intro pre call s hpre hrun
  have hcall := hallowed pre call hpre
  have hs := hinv pre ((List.prefix_append pre [call]).trans hpre)
  rw [hrun] at hcall hs
  exact Inv.right hs hcall

/-- Two channels after the initialisation, with a mask that the allocation has left. -/
def twoAdcChannels (mask : UInt32) : AxiAdc :=
  ⟨2, mask, Passes.run (fun regs ch => Function.update regs (AXI_ADC_REG_CHAN_CNTRL (UInt32.ofNat ch))
    (AXI_ADC_FORMAT_SIGNEXT ||| AXI_ADC_FORMAT_ENABLE ||| AXI_ADC_ENABLE)) 2
    (Function.update (Function.update (fun _ => 0) AXI_ADC_REG_RSTN 0) AXI_ADC_REG_RSTN
      (AXI_ADC_MMCM_RSTN ||| AXI_ADC_RSTN))⟩

theorem channels_follow_mask_at : (start (twoAdcChannels 3) 0).Right (.prepareTransfer 1) := by
  have hinit : axiAdcInit 2 3 (fun _ => 0) 1 = some (twoAdcChannels 3) := rfl
  have hrange : ∀ call ∈ [AxiAdcCall.prepareTransfer 1], call.InRange (2 : UInt8).toNat := by
    intro call hcall
    obtain rfl := List.mem_singleton.mp hcall
    exact (by decide : (1 : UInt32).toNat < 2 ^ (2 : UInt8).toNat)
  have hallowed : Guarded (orFault step) (untilFault Allowed) (.ok (start (twoAdcChannels 3) 0))
      [.prepareTransfer 1] := by
    refine guarded_cons.mpr ⟨?_, guarded_nil⟩
    intro hmask
    exact absurd hmask (by decide)
  exact channels_follow_mask hinit _ hrange hallowed [] _ _ (List.prefix_refl _) rfl

/-- If the memory holds the mask by chance, the second channel stays enabled. -/
theorem channels_not_updated : ∃ adc, axiAdcInit 2 1 (fun _ => 0) 1 = some adc ∧
    ¬(start adc 0).Right (.prepareTransfer 1) := by
  refine ⟨twoAdcChannels 1, rfl, ?_⟩
  intro hright
  have hbit := (hright 1 (by decide)).1
  exact absurd hbit (by decide)

end NoOS
