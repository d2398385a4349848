import Mathlib.Data.Nat.Bitwise
import NoOS.Drivers.AxiAdcActive

/-!
# The transfers of `iio_axi_dac.c`

The IIO device has a voltage channel and two tones for each channel of the converter. A preparation runs through all
of them, and takes the number of each for the number of a channel of the converter.
-/

namespace NoOS

def AXI_DAC_REG_SYNC_CONTROL : UInt32 := 0x44
def AXI_DAC_SYNC : UInt32 := 0x1
def AXI_DAC_REG_CHAN_CNTRL_7 (c : UInt32) : UInt32 := 0x0418 + c * 0x40
def AXI_DAC_DATA_SEL_DDS : UInt32 := 0
def AXI_DAC_DATA_SEL_DMA : UInt32 := 2

structure AxiDac where
  numChannels : UInt8
  regs : UInt32 → UInt32
  /-- The addresses that have been written -/
  written : List UInt32

def axiDacWrite (dac : AxiDac) (regAddr regData : UInt32) : AxiDac :=
  { dac with regs := Function.update dac.regs regAddr regData, written := regAddr :: dac.written }

def axiDacSetDatasel (dac : AxiDac) (chan : Int32) (sel : UInt32) : Int × AxiDac :=
  let dac :=
    if chan < 0 then Passes.run (fun dac i => axiDacWrite dac (AXI_DAC_REG_CHAN_CNTRL_7 (UInt32.ofNat i)) sel)
      dac.numChannels.toNat dac
    else axiDacWrite dac (AXI_DAC_REG_CHAN_CNTRL_7 chan.toUInt32) sel
  (SUCCESS, axiDacWrite dac AXI_DAC_REG_SYNC_CONTROL AXI_DAC_SYNC)

inductive DacChType
  | voltage
  | altvoltage
deriving DecidableEq, Repr

structure DacIioChannel where
  chType : DacChType
  channel : ℕ
  scanIndex : ℕ
deriving DecidableEq, Repr

structure DacIioDevice where
  numCh : UInt16
  channels : List DacIioChannel

/-- The names follow from the types and the numbers of the channels. -/
def iioAxiDacCreateDeviceDescriptor (dac : AxiDac) : DacIioDevice :=
  let voltageChNo := dac.numChannels.toNat
  let altvoltageChNo := dac.numChannels.toNat * 2
  { numCh := UInt16.ofNat (voltageChNo + altvoltageChNo)
    channels := ((List.range voltageChNo).map fun i => ⟨.voltage, i, i⟩) ++
      (List.range altvoltageChNo).map fun i => ⟨.altvoltage, i, i⟩ }

structure IioAxiDac where
  dac : AxiDac
  mask : UInt32
  /-- Whether there is a `dcache_flush_range` -/
  flushes : Bool
  devDescriptor : DacIioDevice

/-- `BIT(x)`, `none` where the shift is undefined. -/
def BIT (x : ℕ) : Option UInt32 := if x < 32 then some ((1 : UInt32) <<< UInt32.ofNat x) else none

/-- The loop from the channel `i` on, with the passes that are left. -/
def prepareFrom (mask : UInt32) : ℕ → ℕ → AxiDac → Option (Int × AxiDac)
  | 0, _, dac => some (SUCCESS, dac)
  | k + 1, i, dac =>
    match BIT i with
    | none => none
    | some b =>
      let (ret, dac) := axiDacSetDatasel dac (Int32.ofNat i)
        (if b &&& mask ≠ 0 then AXI_DAC_DATA_SEL_DMA else AXI_DAC_DATA_SEL_DDS)
      if ret < 0 then some (ret, dac) else prepareFrom mask k (i + 1) dac

/-- `none` for an undefined shift. -/
def iioAxiDacPrepareTransfer (iioDac : IioAxiDac) (mask : UInt32) : Option (Int × IioAxiDac) :=
  (prepareFrom mask iioDac.devDescriptor.numCh.toNat 0 iioDac.dac).map fun r =>
    (r.1, { iioDac with dac := r.2, mask := mask })

/-- The bytes that are flushed, if there is a cache, and the bytes that the DMA is asked to transfer. -/
def iioAxiDacWriteData (iioDac : IioAxiDac) (nbSamples : UInt32) : Option UInt32 × UInt32 :=
  let bytes := nbSamples * hweight8 iioDac.mask * (STORAGE_BITS / 8)
  (if iioDac.flushes then some bytes else none, bytes)

/-- The device of a converter with `n` channels. -/
def newIioAxiDac (n : UInt8) (regs : UInt32 → UInt32) (flushes : Bool) (mask : UInt32) : IioAxiDac :=
  let dac : AxiDac := ⟨n, regs, []⟩
  ⟨dac, mask, flushes, iioAxiDacCreateDeviceDescriptor dac⟩

namespace IioAxiDac

/-- The number of the channels of the converter that take their samples from the DMA. -/
def dmaChannels (s : IioAxiDac) : ℕ :=
  ((List.range s.dac.numChannels.toNat).filter fun ch =>
    s.dac.regs (AXI_DAC_REG_CHAN_CNTRL_7 (UInt32.ofNat ch)) = AXI_DAC_DATA_SEL_DMA).length

/-- Each channel of the converter has the source that its bit of the mask asks for. -/
def Selects (s : IioAxiDac) (mask : UInt32) : Prop :=
  ∀ ch < s.dac.numChannels.toNat, s.dac.regs (AXI_DAC_REG_CHAN_CNTRL_7 (UInt32.ofNat ch)) =
    if mask.toNat.testBit ch then AXI_DAC_DATA_SEL_DMA else AXI_DAC_DATA_SEL_DDS

/-- No source of a channel that does not exist has been written. -/
def Within (s : IioAxiDac) : Prop :=
  ∀ addr ∈ s.dac.written, ∀ ch : ℕ, s.dac.numChannels.toNat ≤ ch → addr.toNat ≠ 0x418 + ch * 0x40

/-- A write flushes and transfers the samples of the channels that take them. -/
def Transfers (s : IioAxiDac) (nbSamples : UInt32) : Prop :=
  (iioAxiDacWriteData s nbSamples).2.toNat = nbSamples.toNat * s.dmaChannels * 2 ∧
    (s.flushes = true → (iioAxiDacWriteData s nbSamples).1 = some (iioAxiDacWriteData s nbSamples).2)

/-- The preparation meets no undefined shift, and it and a write of `nbSamples` after it are right. -/
def Right (s : IioAxiDac) (mask nbSamples : UInt32) : Prop :=
  ∃ s', iioAxiDacPrepareTransfer s mask = some (SUCCESS, s') ∧ s'.Selects mask ∧ s'.Within ∧ s'.Transfers nbSamples

end IioAxiDac

section Preparation

variable {dac dac' : AxiDac} {mask sel : UInt32} {i j k : ℕ}

lemma toNat_cntrl7 (hj : j < 2 ^ 16) : (AXI_DAC_REG_CHAN_CNTRL_7 (UInt32.ofNat j)).toNat = 0x418 + j * 0x40 := by
  rw [AXI_DAC_REG_CHAN_CNTRL_7, UInt32.toNat_add, UInt32.toNat_mul, UInt32.toNat_ofNat']
  change (0x418 + j % 2 ^ 32 * 0x40 % 2 ^ 32) % 2 ^ 32 = _
  lia

lemma cntrl7_inj (hi : i < 2 ^ 16) (hj : j < 2 ^ 16)
    (h : AXI_DAC_REG_CHAN_CNTRL_7 (UInt32.ofNat i) = AXI_DAC_REG_CHAN_CNTRL_7 (UInt32.ofNat j)) : i = j := by
  have hnat := congrArg UInt32.toNat h
  rw [toNat_cntrl7 hi, toNat_cntrl7 hj] at hnat
  lia

lemma cntrl7_ne_sync (hj : j < 2 ^ 16) : AXI_DAC_REG_CHAN_CNTRL_7 (UInt32.ofNat j) ≠ AXI_DAC_REG_SYNC_CONTROL := by
  intro h
  have hnat := congrArg UInt32.toNat h
  rw [toNat_cntrl7 hj] at hnat
  change _ = 0x44 at hnat
  lia

/-- One channel of the loop: its source is set, and then all channels are synchronised. -/
lemma setDatasel_eq (hi : i < 2 ^ 16) : axiDacSetDatasel dac (Int32.ofNat i) sel =
    (SUCCESS, axiDacWrite (axiDacWrite dac (AXI_DAC_REG_CHAN_CNTRL_7 (UInt32.ofNat i)) sel)
      AXI_DAC_REG_SYNC_CONTROL AXI_DAC_SYNC) := by
  have hpos : ¬Int32.ofNat i < 0 := by
    rw [Int32.lt_iff_toInt_lt, Int32.toInt_ofNat_of_lt (by omega)]
    exact Int.not_lt.mpr (Int.natCast_nonneg i)
  rw [axiDacSetDatasel, if_neg hpos]
  rfl

lemma BIT_and (hi : i < 32) : ∃ b, BIT i = some b ∧ (b &&& mask ≠ 0 ↔ mask.toNat.testBit i = true) := by
  have hshift : ((1 : UInt32) <<< UInt32.ofNat i).toNat = 2 ^ i := by
    rw [UInt32.toNat_shiftLeft, UInt32.toNat_ofNat_of_lt' (by simp only [UInt32.size]; omega), Nat.mod_eq_of_lt hi,
      Nat.shiftLeft_eq, UInt32.toNat_one, Nat.one_mul]
    exact Nat.mod_eq_of_lt (Nat.pow_lt_pow_right (by decide) hi)
  refine ⟨_, if_pos hi, ?_⟩
  rw [Ne, ← UInt32.toNat_inj, UInt32.toNat_and, hshift, Nat.and_comm, Nat.and_two_pow,
    UInt32.toNat_zero]
  cases mask.toNat.testBit i <;> simp

/-- The source for a channel. -/
def sourceOf (mask : UInt32) (ch : ℕ) : UInt32 :=
  if mask.toNat.testBit ch then AXI_DAC_DATA_SEL_DMA else AXI_DAC_DATA_SEL_DDS

lemma prepareFrom_spec (hend : i + k ≤ 32) : ∃ dac', prepareFrom mask k i dac = some (SUCCESS, dac') ∧
    dac'.numChannels = dac.numChannels ∧
    (∀ j < 2 ^ 16, dac'.regs (AXI_DAC_REG_CHAN_CNTRL_7 (UInt32.ofNat j)) =
      if i ≤ j ∧ j < i + k then sourceOf mask j else dac.regs (AXI_DAC_REG_CHAN_CNTRL_7 (UInt32.ofNat j))) ∧
    ∀ addr, addr ∈ dac'.written ↔ addr ∈ dac.written ∨ 0 < k ∧ addr = AXI_DAC_REG_SYNC_CONTROL ∨
      ∃ j, i ≤ j ∧ j < i + k ∧ addr = AXI_DAC_REG_CHAN_CNTRL_7 (UInt32.ofNat j) := by
  induction k generalizing i dac with
  | zero =>
    refine ⟨dac, rfl, rfl, fun j _ => (if_neg (by lia)).symm, fun addr => ?_⟩
    constructor
    · exact Or.inl
    · rintro (h | ⟨h, -⟩ | ⟨j, hj, hj', -⟩)
      · exact h
      · omega
      · omega
  | succ k ih =>
    obtain ⟨b, hb, hiff⟩ := @BIT_and mask i (by lia)
    have hsource : (if b &&& mask ≠ 0 then AXI_DAC_DATA_SEL_DMA else AXI_DAC_DATA_SEL_DDS) = sourceOf mask i :=
      if_congr hiff rfl rfl
    obtain ⟨dac', hrun, hnum, hregs, hwritten⟩ := @ih
      (axiDacWrite (axiDacWrite dac (AXI_DAC_REG_CHAN_CNTRL_7 (UInt32.ofNat i)) (sourceOf mask i))
        AXI_DAC_REG_SYNC_CONTROL AXI_DAC_SYNC) (i + 1) (by lia)
    refine ⟨dac', ?_, hnum, ?_, ?_⟩
    · rw [prepareFrom, hb]
      dsimp only
      rw [hsource, setDatasel_eq (by lia)]
      exact hrun
    · intro j hj
      rw [hregs j hj]
      by_cases hlater : i + 1 ≤ j ∧ j < i + 1 + k
      · rw [if_pos hlater, if_pos (by lia)]
      · rw [if_neg hlater]
        change Function.update (Function.update dac.regs _ _) _ _ _ = _
        rw [Function.update_of_ne (cntrl7_ne_sync hj)]
        by_cases hji : j = i
        · rw [hji, Function.update_self, if_pos (by lia)]
        · rw [Function.update_of_ne fun h => hji (cntrl7_inj hj (by lia) h), if_neg (by lia)]
    · intro addr
      rw [hwritten addr]
      change addr ∈ _ :: _ :: dac.written ∨ _ ↔ _
      rw [List.mem_cons, List.mem_cons]
      constructor
      · rintro ((rfl | rfl | h) | ⟨-, rfl⟩ | ⟨j, hj, hj', rfl⟩)
        · exact Or.inr (Or.inl ⟨Nat.succ_pos k, rfl⟩)
        · exact Or.inr (Or.inr ⟨i, Nat.le_refl i, by omega, rfl⟩)
        · exact Or.inl h
        · exact Or.inr (Or.inl ⟨Nat.succ_pos k, rfl⟩)
        · exact Or.inr (Or.inr ⟨j, by omega, by lia, rfl⟩)
      · rintro (h | ⟨-, rfl⟩ | ⟨j, hj, hj', rfl⟩)
        · exact Or.inl (Or.inr (Or.inr h))
        · exact Or.inl (Or.inl rfl)
        · by_cases hji : j = i
          · rw [hji]
            exact Or.inl (Or.inr (Or.inl rfl))
          · exact Or.inr (Or.inr ⟨j, by lia, by lia, rfl⟩)

lemma prepareFrom_undefined (hi : i ≤ 32) (hend : 32 < i + k) : prepareFrom mask k i dac = none := by
  induction k generalizing i dac with
  | zero => lia
  | succ k ih =>
    by_cases hlast : i = 32
    · subst hlast
      rfl
    · obtain ⟨b, hb, -⟩ := @BIT_and mask i (by lia)
      rw [prepareFrom, hb]
      dsimp only
      rw [setDatasel_eq (by omega)]
      exact ih (by lia) (by lia)

end Preparation

section Device

variable {n : UInt8} {regs : UInt32 → UInt32} {flushes : Bool} {mask mask₀ nbSamples : UInt32}

lemma numCh_new : (newIioAxiDac n regs flushes mask₀).devDescriptor.numCh.toNat = 3 * n.toNat := by
  have hlt := n.toNat_lt
  change (UInt16.ofNat (n.toNat + n.toNat * 2)).toNat = _
  rw [UInt16.toNat_ofNat']
  lia

/-- With up to ten channels the sources are set as the mask says; with more a shift is undefined. -/
lemma prepare_new : (10 < n.toNat → iioAxiDacPrepareTransfer (newIioAxiDac n regs flushes mask₀) mask = none) ∧
    (n.toNat ≤ 10 → ∃ s', iioAxiDacPrepareTransfer (newIioAxiDac n regs flushes mask₀) mask = some (SUCCESS, s') ∧
      s'.mask = mask ∧ s'.flushes = flushes ∧ s'.dac.numChannels = n ∧ s'.Selects mask ∧
      (0 < n.toNat → AXI_DAC_REG_CHAN_CNTRL_7 (UInt32.ofNat n.toNat) ∈ s'.dac.written) ∧
      (n.toNat = 0 → s'.dac.written = [])) := by
  constructor
  · intro hmany
    rw [iioAxiDacPrepareTransfer, numCh_new, prepareFrom_undefined (Nat.zero_le 32) (by lia)]
    rfl
  · intro hfew
    obtain ⟨dac', hrun, hnum, hregs, hwritten⟩ := @prepareFrom_spec ⟨n, regs, []⟩ mask 0 (3 * n.toNat) (by lia)
    refine ⟨⟨dac', mask, flushes, (newIioAxiDac n regs flushes mask₀).devDescriptor⟩, ?_, rfl, rfl, hnum, ?_, ?_, ?_⟩
    · rw [iioAxiDacPrepareTransfer, numCh_new]
      change (prepareFrom mask (3 * n.toNat) 0 ⟨n, regs, []⟩).map _ = _
      rw [hrun]
      rfl
    · intro ch hch
      change ch < dac'.numChannels.toNat at hch
      rw [hnum] at hch
      change ch < n.toNat at hch
      exact (hregs ch (by lia)).trans (if_pos (by lia))
    · intro hpos
      exact (hwritten _).mpr (Or.inr (Or.inr ⟨n.toNat, Nat.zero_le _, by lia, rfl⟩))
    · intro hzero
      apply List.eq_nil_iff_forall_not_mem.mpr
      intro addr haddr
      rcases (hwritten addr).mp haddr with h | ⟨h, -⟩ | ⟨j, hj, hj', -⟩
      · exact List.not_mem_nil h
      · omega
      · lia

lemma dmaChannels_eq {s : IioAxiDac} (h : s.Selects mask) :
    s.dmaChannels = maskBits s.dac.numChannels.toNat mask.toNat := by
  rw [IioAxiDac.dmaChannels, maskBits]
  congr 1
  apply List.filter_congr
  intro ch hch
  rw [h ch (List.mem_range.mp hch)]
  cases mask.toNat.testBit ch <;> decide

lemma transfers_iff {s : IioAxiDac} (hmask : s.mask = mask) (h : s.Selects mask) :
    s.Transfers nbSamples ↔ nbSamples.toNat * maskBits 32 mask.toNat * 2 % 2 ^ 32 =
      nbSamples.toNat * maskBits s.dac.numChannels.toNat mask.toNat * 2 := by
  have hbytes : (iioAxiDacWriteData s nbSamples).2.toNat = nbSamples.toNat * maskBits 32 mask.toNat * 2 % 2 ^ 32 := by
    have hweight := @toNat_hweight8 32 mask (by decide) mask.toNat_lt
    change (nbSamples * hweight8 s.mask * (STORAGE_BITS / 8)).toNat = _
    rw [hmask, UInt32.toNat_mul, UInt32.toNat_mul, hweight, show (STORAGE_BITS / 8).toNat = 2 by decide]
    exact Nat.mod_mul_mod _ _ _
  rw [IioAxiDac.Transfers, hbytes, dmaChannels_eq h]
  constructor
  · exact And.left
  · intro heq
    refine ⟨heq, fun hflush => ?_⟩
    rw [iioAxiDacWriteData, if_pos hflush]

end Device

/-- The source beyond the last channel is written, if there is a channel. -/
lemma within_iff {s : IioAxiDac} {n : UInt8} (hnum : s.dac.numChannels = n)
    (hwritten : 0 < n.toNat → AXI_DAC_REG_CHAN_CNTRL_7 (UInt32.ofNat n.toNat) ∈ s.dac.written)
    (hnone : n.toNat = 0 → s.dac.written = []) : s.Within ↔ n = 0 := by
  constructor
  · intro hwithin
    by_contra hne
    have hpos : 0 < n.toNat := Nat.pos_of_ne_zero fun hzero => hne (UInt8.toNat_inj.mp hzero)
    have hlt := n.toNat_lt
    exact hwithin _ (hwritten hpos) n.toNat (by rw [hnum]) (toNat_cntrl7 (by lia))
  · rintro rfl
    intro addr haddr
    rw [hnone rfl] at haddr
    exact absurd haddr List.not_mem_nil

/-- What becomes of a mask over the channels of the device: up to ten channels get their sources, with more a shift is
undefined, and the bytes are right where no tone counts. A source beyond the last channel is written in any case, so
that all of it is right for a converter without channels alone. -/
theorem dac_transfer_right_iff (n : UInt8) (regs : UInt32 → UInt32) (flushes : Bool) (mask₀ mask nbSamples : UInt32)
    (hmask : mask.toNat < 2 ^ (3 * n.toNat)) :
    ((newIioAxiDac n regs flushes mask₀).Right mask nbSamples ↔ n = 0) ∧
    ((∃ s', iioAxiDacPrepareTransfer (newIioAxiDac n regs flushes mask₀) mask = some (SUCCESS, s') ∧
      s'.Selects mask) ↔ n.toNat ≤ 10) ∧
    ∀ s', iioAxiDacPrepareTransfer (newIioAxiDac n regs flushes mask₀) mask = some (SUCCESS, s') →
      (s'.Within ↔ n = 0) ∧
      (s'.Transfers nbSamples ↔ nbSamples.toNat * maskBits 32 mask.toNat * 2 % 2 ^ 32 =
        nbSamples.toNat * maskBits n.toNat mask.toNat * 2) := by
  obtain ⟨hmany, hfew⟩ := @prepare_new n regs flushes mask mask₀
  rcases Nat.lt_or_ge 10 n.toNat with hlt | hle
  · have hnone := hmany hlt
    have hne : n ≠ 0 := by
      rintro rfl
      exact absurd hlt (by decide)
    refine ⟨⟨?_, fun h => absurd h hne⟩, ⟨?_, fun h => absurd h (by omega)⟩, ?_⟩
    · rintro ⟨s', hs', -⟩
      rw [hnone] at hs'
      exact absurd hs' nofun
    · rintro ⟨s', hs', -⟩
      rw [hnone] at hs'
      exact absurd hs' nofun
    · intro s' hs'
      rw [hnone] at hs'
      exact absurd hs' nofun
  · obtain ⟨s', hs', hsmask, -, hnum, hselects, hwritten, hzero⟩ := hfew hle
    have hwithin := within_iff hnum hwritten hzero
    have htransfers := @transfers_iff mask nbSamples s' hsmask hselects
    rw [hnum] at htransfers
    have hunique : ∀ t, iioAxiDacPrepareTransfer (newIioAxiDac n regs flushes mask₀) mask = some (SUCCESS, t) →
        t = s' := by
      intro t ht
      rw [hs'] at ht
      exact (Prod.mk.inj (Option.some.inj ht)).2.symm
    refine ⟨⟨?_, ?_⟩, ⟨fun _ => hle, fun _ => ⟨s', hs', hselects⟩⟩, ?_⟩
    · rintro ⟨t, ht, -, ht', -⟩
      rw [hunique t ht] at ht'
      exact hwithin.mp ht'
    · intro h
      refine ⟨s', hs', hselects, hwithin.mpr h, htransfers.mpr ?_⟩
      subst h
      -- a mask over no channels
      have hmask₀ : mask.toNat = 0 := Nat.lt_one_iff.mp hmask
      rw [hmask₀, maskBits_zero, maskBits_zero]
      rfl
    · intro t ht
      rw [hunique t ht]
      exact ⟨hwithin, htransfers⟩

theorem dac_transfer_right_at : (1 : UInt32).toNat < 2 ^ (3 * (2 : UInt8).toNat) ∧
    ∃ s', iioAxiDacPrepareTransfer (newIioAxiDac 2 (fun _ => 0) true 0) 1 = some (SUCCESS, s') ∧ s'.Selects 1 :=
  ⟨by decide, (dac_transfer_right_iff 2 (fun _ => 0) true 0 1 16 (by decide)).2.1.mpr (by decide)⟩

/-- Two channels, of which the first takes its samples from the DMA: the sources of the channels 2 to 5 are written. -/
theorem dac_transfer_not_right : (1 : UInt32).toNat < 2 ^ (3 * (2 : UInt8).toNat) ∧
    ¬(newIioAxiDac 2 (fun _ => 0) true 0).Right 1 16 := by
  refine ⟨by decide, ?_⟩
  obtain ⟨s', hs', -, -, hnum, -, hwritten, hzero⟩ :=
    (@prepare_new 2 (fun _ => 0) true 1 0).2 (by decide)
  rintro ⟨t, ht, -, hwithin, -⟩
  rw [hs'] at ht
  obtain rfl := (Prod.mk.inj (Option.some.inj ht)).2
  exact absurd ((within_iff hnum hwritten hzero).mp hwithin) (by decide)

end NoOS
