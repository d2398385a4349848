import NoOS.Drivers.Ad9528Port
import NoOS.Lib.Word

/-!
# The outputs of the AD9528 after the setup

The setup writes a word for every channel in use. Nothing after that touches the registers of the outputs, so that
they hold the fields of the table.
-/

namespace NoOS
open Fallible PackedWord
open scoped RegisterFile

namespace Ad9528PlatformData

/-- The frequency of the VCO in whole Hz. -/
def vcoFreq (p : Ad9528PlatformData) : ℕ :=
  p.vcxoFreq.toNat * (if p.pll2FreqDoublerEn then 2 else 1) * (p.pll2VcoDivM1.toNat * p.pll2N2Div.toNat) /
    p.pll2R1Div.toNat

/-- The frequency at the dividers of the channels. -/
def vcoOut (p : Ad9528PlatformData) : ℕ :=
  if p.pll2BypassEn then p.vcxoFreq.toNat
  else if p.pll2VcoDivM1 ≠ 0 then p.vcoFreq / p.pll2VcoDivM1.toNat else p.vcoFreq

/-- The VCO frequency is defined and fits, and every channel in use has an output and a divider of its own. -/
structure Allowed (p : Ad9528PlatformData) : Prop where
  r1Div : p.pll2BypassEn = false → p.pll2R1Div ≠ 0
  fits : p.pll2BypassEn = false → p.vcoFreq < 2 ^ 32
  apart : (p.channels.map (·.channelNum)).Nodup
  dividers : ∀ chan ∈ p.channels, chan.outputDis = false → 1 ≤ chan.channelDivider.toNat ∧ chan.channelDivider.toNat ≤ 256

lemma Allowed.divisor_ne_zero {p : Ad9528PlatformData} (hp : p.Allowed) (hbypass : p.pll2BypassEn = false) :
    p.pll2R1Div.toUInt32 ≠ 0 := by
  intro hzero
  have hnat := congrArg UInt32.toNat hzero
  rw [UInt8.toNat_toUInt32] at hnat
  exact hp.r1Div hbypass (UInt8.toNat_inj.mp hnat)

end Ad9528PlatformData

namespace Ad9528

/-- The fields that are not the divider. -/
structure SameFields (a b : UInt32) : Prop where
  driverMode : AD9528_CLK_DIST_DRIVER_MODE_REV a = AD9528_CLK_DIST_DRIVER_MODE_REV b
  phase : AD9528_CLK_DIST_DIV_PHASE_REV a = AD9528_CLK_DIST_DIV_PHASE_REV b
  ctrl : AD9528_CLK_DIST_CTRL_REV a = AD9528_CLK_DIST_CTRL_REV b

section Words

variable {regs : UInt32 → UInt8} {m n : UInt8} {r v : UInt32}

lemma mem_output (hn : n < AD9528_NUM_CHAN) : r ∈ regsOf (AD9528_CHANNEL_OUTPUT n.toUInt32) ↔
    0x300 + 3 * n.toNat ≤ r.toNat ∧ r.toNat ≤ 0x302 + 3 * n.toNat := by
  have hlt : n.toNat < 14 := UInt8.lt_iff_toNat_lt.mp hn
  have heq : ∀ k < 0x400, r = UInt32.ofNat k ↔ r.toNat = k := by
    intro k hk
    rw [← UInt32.toNat_inj, UInt32.toNat_ofNat_of_lt' (hk.trans (by decide))]
  rw [regsOf_output hn, List.mem_cons, List.mem_cons, List.mem_singleton, heq _ (by lia), heq _ (by lia),
    heq _ (by lia)]
  lia

lemma not_mem_output (hm : m < AD9528_NUM_CHAN) (hn : n < AD9528_NUM_CHAN) (hne : m ≠ n)
    (hr : r ∈ regsOf (AD9528_CHANNEL_OUTPUT m.toUInt32)) : r ∉ regsOf (AD9528_CHANNEL_OUTPUT n.toUInt32) := by
  rw [mem_output hm] at hr
  rw [mem_output hn]
  have hne' : m.toNat ≠ n.toNat := fun h => hne (UInt8.toNat_inj.mp h)
  lia

lemma isOutput_of_mem (hn : n < AD9528_NUM_CHAN) (hr : r ∈ regsOf (AD9528_CHANNEL_OUTPUT n.toUInt32)) : IsOutput r := by
  have hlt : n.toNat < 14 := UInt8.lt_iff_toNat_lt.mp hn
  rw [mem_output hn] at hr
  refine ⟨UInt32.le_iff_toNat_le.mpr ?_, UInt32.lt_iff_toNat_lt.mpr ?_⟩
  · change 0x300 ≤ r.toNat
    lia
  · change r.toNat < 0x32A
    lia

lemma not_isKDivider_of_mem (hn : n < AD9528_NUM_CHAN) (hr : r ∈ regsOf (AD9528_CHANNEL_OUTPUT n.toUInt32)) :
    ¬IsKDivider r := by
  have hk : ∀ q ∈ regsOf AD9528_SYSREF_K_DIVIDER, ¬IsOutput q := by decide
  exact fun h => hk r h (isOutput_of_mem hn hr)

lemma toNat_mask {k : ℕ} (hk : k ≤ 24) (v : UInt32) : (v &&& UInt32.ofNat (2 ^ k - 1)).toNat = v.toNat % 2 ^ k := by
  have hlt : 2 ^ k - 1 < 2 ^ 32 := (Nat.sub_le _ 1).trans_lt (Nat.pow_lt_pow_right (by decide) (by omega))
  rw [UInt32.toNat_and, UInt32.toNat_ofNat_of_lt' hlt, Nat.and_two_pow_sub_one_eq_mod]

lemma outWord_store (hn : n < AD9528_NUM_CHAN) :
    outWord (store v (regsOf (AD9528_CHANNEL_OUTPUT n.toUInt32)) regs) n = v &&& 0xFFFFFF := by
  have hall : ∀ k : Fin 14, (regsOf (AD9528_CHANNEL_OUTPUT (UInt32.ofNat k))).Nodup := by decide
  have hnodup := hall ⟨n.toNat, UInt8.lt_iff_toNat_lt.mp hn⟩
  rw [← toUInt32_eq] at hnodup
  have hlen : (regsOf (AD9528_CHANNEL_OUTPUT n.toUInt32)).length = 3 := by
    rw [regsOf_output hn]
    rfl
  have hlow : v.toNat % 256 ^ 3 < 2 ^ 32 := (Nat.mod_lt _ (by decide)).trans (by decide)
  apply UInt32.toNat_inj.mp
  rw [outWord, toNat_word_store hnodup (by rw [hlen]; decide), hlen, UInt32.toNat_zero, Nat.zero_mul, Nat.zero_add,
    Nat.mod_eq_of_lt hlow]
  exact (toNat_mask (k := 24) (by decide) v).symm

lemma outWord_congr {regs' : UInt32 → UInt8} (hn : n < AD9528_NUM_CHAN) (h : ∀ r, IsOutput r → regs r = regs' r) :
    outWord regs n = outWord regs' n := word_congr fun r hr => h r (isOutput_of_mem hn hr)

lemma outWord_store_of_ne (hm : m < AD9528_NUM_CHAN) (hn : n < AD9528_NUM_CHAN) (hne : m ≠ n) :
    outWord (store v (regsOf (AD9528_CHANNEL_OUTPUT n.toUInt32)) regs) m = outWord regs m :=
  word_congr fun _ hr => store_of_not_mem (not_mem_output hm hn hne hr)

lemma kWord_store : kWord (store v (regsOf AD9528_SYSREF_K_DIVIDER) regs) = v &&& 0xFFFF := by
  have hnodup : (regsOf AD9528_SYSREF_K_DIVIDER).Nodup := by decide
  have hlen : (regsOf AD9528_SYSREF_K_DIVIDER).length = 2 := rfl
  have hlow : v.toNat % 256 ^ 2 < 2 ^ 32 := (Nat.mod_lt _ (by decide)).trans (by decide)
  apply UInt32.toNat_inj.mp
  rw [kWord, toNat_word_store hnodup (by rw [hlen]; decide), hlen, UInt32.toNat_zero, Nat.zero_mul, Nat.zero_add,
    Nat.mod_eq_of_lt hlow]
  exact (toNat_mask (k := 16) (by decide) v).symm

lemma kWord_congr {regs' : UInt32 → UInt8} (h : ∀ r, IsKDivider r → regs r = regs' r) : kWord regs = kWord regs' :=
  word_congr h

end Words

section Fields

variable {a d : UInt32}

/-- The word that `ad9528_clk_set_rate` writes. -/
def withDivider (a d : UInt32) : UInt32 := (a &&& ~~~AD9528_CLK_DIST_DIV (0xFF + 1)) ||| AD9528_CLK_DIST_DIV d

lemma clkDistDiv_and : AD9528_CLK_DIST_DIV (0xFF + 1) &&& AD9528_CLK_DIST_DIV d = AD9528_CLK_DIST_DIV d := by
  have hmask : AD9528_CLK_DIST_DIV (0xFF + 1) = (0xFF : UInt32) <<< 16 := rfl
  rw [hmask, AD9528_CLK_DIST_DIV, ← UInt32.shiftLeft_and, UInt32.and_comm (d - 1), ← UInt32.and_assoc,
    UInt32.and_self]

lemma unpack_div_congr {b : UInt32} (h : a &&& 0xFF0000 = b &&& 0xFF0000) : unpack 16 8 a = unpack 16 8 b := by
  have hmask : UInt32.ofNat (2 ^ 8 - 1) <<< UInt32.ofNat 16 = 0xFF0000 := by decide
  apply unpack_congr (by decide) (by decide)
  rw [hmask]
  exact h

lemma unpack_div_stored (a : UInt32) : unpack 16 8 (a &&& 0xFFFFFF) = unpack 16 8 a := by
  apply unpack_div_congr
  rw [UInt32.and_assoc]
  rfl

lemma div_withDivider (h : 1 ≤ d.toNat) (h' : d.toNat ≤ 256) :
    AD9528_CLK_DIST_DIV_REV (withDivider a d &&& 0xFFFFFF) = d := by
  have hfield : withDivider a d &&& 0xFF0000 = AD9528_CLK_DIST_DIV d &&& 0xFF0000 := RegisterFile.update_and rfl
  have hunpack : unpack 16 8 (withDivider a d &&& 0xFFFFFF) = (d - 1) &&& 0xFF := by
    rw [unpack_div_stored, unpack_div_congr hfield]
    exact unpack_shift_self (f := ⟨16, 8, (d - 1) &&& 0xFF⟩) (fits_masked (d - 1) (by decide) (by decide) (by decide))
  have hsub : (d - 1).toNat = d.toNat - 1 := Word.toNat_sub_of_le h
  have hmasked : (d - 1) &&& 0xFF = d - 1 := @masked_of_lt (d - 1) 8 (by decide) (by lia)
  change unpack 16 8 (withDivider a d &&& 0xFFFFFF) + 1 = d
  rw [hunpack, hmasked, UInt32.sub_add_cancel]

/-- A field apart from the divider is the one of the word that was read. -/
lemma unpack_withDivider {o w : ℕ} (ho : o < 32) (hend : o + w ≤ 32)
    (hlow : (0xFFFFFF : UInt32) &&& (UInt32.ofNat (2 ^ w - 1) <<< UInt32.ofNat o) = UInt32.ofNat (2 ^ w - 1) <<< UInt32.ofNat o)
    (hapart : AD9528_CLK_DIST_DIV (0xFF + 1) &&& (UInt32.ofNat (2 ^ w - 1) <<< UInt32.ofNat o) = 0) :
    unpack o w (withDivider a d &&& 0xFFFFFF) = unpack o w a := by
  apply unpack_congr ho hend
  rw [UInt32.and_assoc, hlow]
  exact RegisterFile.and_eq_of_disjoint (RegisterFile.update_and_not clkDistDiv_and) hapart

lemma sameFields_withDivider : SameFields (withDivider a d &&& 0xFFFFFF) a :=
  ⟨unpack_withDivider (o := 14) (w := 2) (by decide) (by decide) rfl rfl,
    unpack_withDivider (o := 8) (w := 6) (by decide) (by decide) rfl rfl,
    unpack_withDivider (o := 5) (w := 3) (by decide) (by decide) rfl rfl⟩

/-- The fields of the word of the setup. -/
def slots (chan : Ad9528ChannelSpec) : List Slot := [
  ⟨14, 2, chan.driverMode.toUInt32 &&& 0x3⟩, ⟨16, 8, (chan.channelDivider.toUInt32 - 1) &&& 0xFF⟩,
  ⟨8, 6, chan.dividerPhase.toUInt32 &&& 0x3F⟩, ⟨5, 3, chan.signalSource.toUInt32 &&& 0x7⟩]

lemma channelWord_eq (chan : Ad9528ChannelSpec) : channelWord chan = pack (slots chan) := by
  rw [channelWord]
  simp only [slots, pack, UInt32.or_zero, UInt32.or_assoc]
  rfl

lemma div_channelWord (chan : Ad9528ChannelSpec) (h : 1 ≤ chan.channelDivider.toNat)
    (h' : chan.channelDivider.toNat ≤ 256) :
    AD9528_CLK_DIST_DIV_REV (channelWord chan &&& 0xFFFFFF) = chan.channelDivider.toUInt32 := by
  have hfits : ∀ f ∈ slots chan, f.Fits := by
    simp only [slots, List.forall_mem_cons, List.not_mem_nil, false_implies, implies_true, and_true]
    exact ⟨fits_masked _ (by decide) (by decide) (by decide), fits_masked _ (by decide) (by decide) (by decide),
      fits_masked _ (by decide) (by decide) (by decide), fits_masked _ (by decide) (by decide) (by decide)⟩
  have hapart : (slots chan).Pairwise fun f g => Apart f.offset f.width g.offset g.width := by simp [slots, Apart]
  have hdiv : chan.channelDivider.toUInt32.toNat = chan.channelDivider.toNat := UInt16.toNat_toUInt32 _
  have hsub : (chan.channelDivider.toUInt32 - 1).toNat = chan.channelDivider.toNat - 1 := by
    rw [Word.toNat_sub_of_le (by rw [hdiv]; exact h), hdiv]
    rfl
  have hmasked : (chan.channelDivider.toUInt32 - 1) &&& 0xFF = chan.channelDivider.toUInt32 - 1 :=
    @masked_of_lt (chan.channelDivider.toUInt32 - 1) 8 (by decide) (by lia)
  change unpack 16 8 (channelWord chan &&& 0xFFFFFF) + 1 = _
  rw [unpack_div_stored, channelWord_eq,
    unpack_pack (f := ⟨16, 8, _⟩) hfits hapart (List.mem_cons_of_mem _ (List.mem_cons_self ..))]
  change ((chan.channelDivider.toUInt32 - 1) &&& 0xFF) + 1 = _
  rw [hmasked, UInt32.sub_add_cancel]

end Fields

section Setup

variable {p : Ad9528PlatformData} {s t : Ad9528} {α : Type}

/-- What the setup has kept of the platform data. -/
structure Configured (p : Ad9528PlatformData) (s : Ad9528) : Prop where
  channels : s.pdata.channels = p.channels
  sysrefKDiv : s.pdata.sysrefKDiv = p.sysrefKDiv

/-- The driver has the frequencies of the platform data. -/
structure Clocked (p : Ad9528PlatformData) (s : Ad9528) : Prop extends Configured p s where
  vco : s.vcoOutFreq.vco.toNat = p.vcoOut
  vcxo : s.vcoOutFreq.vcxo = p.vcxoFreq

/-- The outputs in use hold the words of their entries. -/
structure Distributed (p : Ad9528PlatformData) (s : Ad9528) : Prop extends Clocked p s where
  outputs : ∀ chan ∈ enabled p, outWord s.regs chan.channelNum = channelWord chan &&& 0xFFFFFF

/-- What the setup leaves. -/
structure Started (p : Ad9528PlatformData) (s : Ad9528) : Prop extends Distributed p s where
  k : kWord s.regs = p.sysrefKDiv.toUInt32

lemma Configured.keeps (h : Configured p s) (hst : Same s t) : Configured p t :=
  ⟨by rw [hst.pdata, h.channels], by rw [hst.pdata, h.sysrefKDiv]⟩

lemma Clocked.keeps (h : Clocked p s) (hst : Same s t) : Clocked p t :=
  ⟨h.toConfigured.keeps hst, by rw [hst.vcoOutFreq, h.vco], by rw [hst.vcoOutFreq, h.vcxo]⟩

lemma mem_enabled {chan : Ad9528ChannelSpec} :
    chan ∈ enabled p ↔ chan ∈ p.channels ∧ chan.outputDis = false ∧ chan.channelNum < AD9528_NUM_CHAN := by
  simp [enabled, List.mem_filter]

lemma Distributed.keeps (h : Distributed p s) (hst : Keeps IsOutput s t) : Distributed p t := by
  refine ⟨h.toClocked.keeps hst.toSame, fun chan hchan => ?_⟩
  rw [outWord_congr (mem_enabled.mp hchan).2.2 hst.regs]
  exact h.outputs chan hchan

lemma Started.keeps (h : Started p s) (hst : Keeps (fun r => IsOutput r ∨ IsKDivider r) s t) : Started p t := by
  refine ⟨h.toDistributed.keeps (hst.mono fun r hr => Or.inl hr), ?_⟩
  rw [kWord_congr fun r hr => hst.regs r (Or.inr hr)]
  exact h.k

lemma moves_after {inv : Ad9528 → Prop} {P : UInt32 → Prop} {x : Fallible Ad9528 α} (hx : Moves (Keeps P) x)
    (hinv : ∀ s t, inv s → Keeps P s t → inv t) : Moves (fun s t => inv s → inv t) x :=
  fun s hs => hinv s _ hs (hx s)

lemma moves_returnUnless {P : UInt32 → Prop} {ok : Bool} {code : Int} : Moves (Keeps P) (returnUnless ok code) := by
  unfold returnUnless
  split
  · exact Moves.pure (Keeps.refl P)
  · exact Moves.fail (Keeps.refl P)

lemma moves_ioUpdate : Moves (Keeps fun r => IsOutput r ∨ IsKDivider r) ioUpdate := moves_spiWriteN (by decide)

lemma moves_sync : Moves (Keeps fun r => IsOutput r ∨ IsKDivider r) sync := by
  refine moves_bind (moves_spiWriteN (by decide)) fun _ => moves_bind moves_ioUpdate fun _ =>
    moves_bind (moves_spiWriteN (by decide)) fun _ => moves_bind moves_ioUpdate fun _ =>
    moves_bind moves_polled fun vcxo => moves_bind moves_polled fun locked => ?_
  exact moves_returnUnless

lemma moves_calibrate (vcoCtrl : UInt32) : Moves (Keeps fun r => IsOutput r ∨ IsKDivider r) (calibrate p vcoCtrl) := by
  unfold calibrate
  split
  · exact Moves.pure (Keeps.refl _)
  · exact moves_bind (moves_spiWriteN (by decide)) fun _ => moves_bind moves_ioUpdate fun _ => moves_poll 100

lemma mem_statPins {w : UInt32 × UInt32} (h : w ∈ statPins p) :
    w.1 = AD9528_STAT_MON0 ∨ w.1 = AD9528_STAT_MON1 ∨ w.1 = AD9528_STAT_PIN_EN := by
  have hpin : ∀ {reg : UInt32} {sel : UInt8}, w ∈ statPin reg sel → w.1 = reg := by
    intro reg sel hw
    unfold statPin at hw
    split at hw
    · rw [List.mem_singleton.mp hw]
    · exact absurd hw List.not_mem_nil
  unfold statPins at h
  rw [List.mem_append, List.mem_append] at h
  rcases h with (h | h) | h
  · exact Or.inl (hpin h)
  · exact Or.inr (Or.inl (hpin h))
  · split at h
    · exact Or.inr (Or.inr (by rw [List.mem_singleton.mp h]))
    · exact absurd h List.not_mem_nil

/-- What comes after the loop over the channels, with the register of the K divider left out. -/
lemma moves_statPins (ctrl : UInt32) : Moves (Keeps fun r => IsOutput r ∨ IsKDivider r)
    (writeAll ((AD9528_SYSREF_CTRL, ctrl) :: statPins p)) := by
  apply moves_writeAll
  intro w hw
  have hreg : w.1 = AD9528_SYSREF_CTRL ∨ w.1 = AD9528_STAT_MON0 ∨ w.1 = AD9528_STAT_MON1 ∨
      w.1 = AD9528_STAT_PIN_EN := by
    rcases List.mem_cons.mp hw with rfl | hw
    · exact Or.inl rfl
    · exact Or.inr (mem_statPins hw)
  rcases hreg with h | h | h | h
  all_goals rw [h]; decide

lemma toNat_ndiv (m n : UInt8) : (m.toUInt32 * n.toUInt32).toNat = m.toNat * n.toNat := by
  have hm := m.toNat_lt
  have hn := n.toNat_lt
  have hprod : m.toNat * n.toNat ≤ 255 * 255 := Nat.mul_le_mul (by omega) (by omega)
  rw [UInt32.toNat_mul, UInt8.toNat_toUInt32, UInt8.toNat_toUInt32]
  exact Nat.mod_eq_of_lt (by omega)

/-- The quotient of 64 bits is the VCO frequency, of which the word keeps all if it fits. -/
lemma toNat_vcoFreq (hfits : p.vcoFreq < 2 ^ 32) :
    (p.vcxoFreq.toUInt64 * (if p.pll2FreqDoublerEn then 2 else 1) *
      (p.pll2VcoDivM1.toUInt32 * p.pll2N2Div.toUInt32).toUInt64 / p.pll2R1Div.toUInt64).toUInt32.toNat = p.vcoFreq := by
  have hvcxo := p.vcxoFreq.toNat_lt
  have hm := p.pll2VcoDivM1.toNat_lt
  have hn := p.pll2N2Div.toNat_lt
  have hndiv : p.pll2VcoDivM1.toNat * p.pll2N2Div.toNat ≤ 255 * 255 := Nat.mul_le_mul (by lia) (by lia)
  have hdouble : (if p.pll2FreqDoublerEn then 2 else 1 : UInt64).toNat = if p.pll2FreqDoublerEn then 2 else 1 := by
    split
    · rfl
    · rfl
  have hle : (if p.pll2FreqDoublerEn then 2 else 1) ≤ 2 := by
    split
    · decide
    · decide
  have hfirst : p.vcxoFreq.toNat * (if p.pll2FreqDoublerEn then 2 else 1) ≤ 2 ^ 32 * 2 := Nat.mul_le_mul hvcxo.le hle
  have hsecond : p.vcxoFreq.toNat * (if p.pll2FreqDoublerEn then 2 else 1) *
      (p.pll2VcoDivM1.toNat * p.pll2N2Div.toNat) ≤ 2 ^ 32 * 2 * (255 * 255) := Nat.mul_le_mul hfirst hndiv
  have hinner : (p.vcxoFreq.toUInt64 * (if p.pll2FreqDoublerEn then 2 else 1)).toNat =
      p.vcxoFreq.toNat * (if p.pll2FreqDoublerEn then 2 else 1) := by
    rw [UInt64.toNat_mul, hdouble, UInt32.toNat_toUInt64]
    exact Nat.mod_eq_of_lt (by lia)
  have houter : (p.vcxoFreq.toUInt64 * (if p.pll2FreqDoublerEn then 2 else 1) *
      (p.pll2VcoDivM1.toUInt32 * p.pll2N2Div.toUInt32).toUInt64).toNat =
      p.vcxoFreq.toNat * (if p.pll2FreqDoublerEn then 2 else 1) * (p.pll2VcoDivM1.toNat * p.pll2N2Div.toNat) := by
    rw [UInt64.toNat_mul, hinner, UInt32.toNat_toUInt64, toNat_ndiv]
    exact Nat.mod_eq_of_lt (by lia)
  rw [UInt64.toNat_toUInt32, UInt64.toNat_div, houter, UInt8.toNat_toUInt64]
  exact Nat.mod_eq_of_lt hfits

lemma clocked_bypassPll2 (hp : p.pll2BypassEn = true) (hs : Configured p s) :
    Ensures (bypassPll2 p) s fun _ => Clocked p := by
  refine Ensures.after (moves_after (P := fun _ => False) (moves_writeAll (by simp)) fun s t h hst => h.keeps hst.toSame)
    hs fun _ s hs => ?_
  intro _ t hrun
  obtain ⟨-, rfl⟩ := Prod.mk.inj hrun
  exact ⟨⟨hs.channels, hs.sysrefKDiv⟩, by simp [Ad9528PlatformData.vcoOut, hp], rfl⟩

lemma moves_any (ws : List (UInt32 × UInt32)) : Moves (Keeps fun _ => False) (writeAll ws) := moves_writeAll (by simp)

lemma clocked_pll2Setup (hp : p.Allowed) (hbypass : p.pll2BypassEn = false) (hs : Configured p s) :
    Ensures (pll2Setup p) s fun _ => Clocked p := by
  have hany : ∀ ws, Moves (fun s t => Configured p s → Configured p t) (writeAll ws) :=
    fun ws => moves_after (moves_any ws) fun s t h hst => h.keeps hst.toSame
  unfold pll2Setup
  dsimp only
  refine Ensures.after (moves_after (P := fun _ => False) moves_returnUnless fun s t h hst => h.keeps hst.toSame) hs
    fun _ s hs => ?_
  refine Ensures.after (hany _) hs fun _ s hs => ?_
  rw [checkDivisor, if_neg (hp.divisor_ne_zero hbypass)]
  refine Ensures.reach (Configured p) (Ensures.pure hs) fun _ s hs => ?_
  refine Ensures.after (hany _) hs fun _ s hs => ?_
  refine Ensures.reach (Clocked p) ?_ fun _ s hs => ?_
  · intro _ t hrun
    obtain ⟨-, rfl⟩ := Prod.mk.inj hrun
    refine ⟨⟨hs.channels, hs.sysrefKDiv⟩, ?_, rfl⟩
    dsimp only
    have hneg : ¬p.pll2BypassEn = true := by simp [hbypass]
    rw [Ad9528PlatformData.vcoOut, if_neg hneg]
    split
    · rw [UInt32.toNat_div, toNat_vcoFreq (hp.fits hbypass), UInt8.toNat_toUInt32]
    · exact toNat_vcoFreq (hp.fits hbypass)
  refine Ensures.after (moves_after (moves_any _) fun s t h hst => h.keeps hst.toSame) hs fun _ s hs => ?_
  exact Ensures.pure hs

/-- The loop over the channels writes every word to its own registers. -/
lemma ensures_channels {chans : List Ad9528ChannelSpec} (hnum : ∀ chan ∈ chans, chan.channelNum < AD9528_NUM_CHAN)
    (hnodup : (chans.map (·.channelNum)).Nodup) :
    Ensures (writeAll (chans.map fun chan => (AD9528_CHANNEL_OUTPUT chan.channelNum.toUInt32, channelWord chan))) s
      fun _ t => Same s t ∧ (∀ chan ∈ chans, outWord t.regs chan.channelNum = channelWord chan &&& 0xFFFFFF) ∧
        ∀ m < AD9528_NUM_CHAN, m ∉ chans.map (·.channelNum) → outWord t.regs m = outWord s.regs m := by
  induction chans generalizing s with
  | nil => exact Ensures.pure ⟨Same.refl s, by simp, fun _ _ _ => rfl⟩
  | cons chan chans ih =>
    rw [List.map_cons, List.nodup_cons] at hnodup
    have hchan := hnum chan (List.mem_cons_self ..)
    refine Ensures.bind_of (ensures_spiWriteN (writable_output hchan)) fun _ u hu => ?_
    refine (ih (fun c hc => hnum c (List.mem_cons_of_mem chan hc)) hnodup.2).mono fun _ t ht => ?_
    obtain ⟨hsame, hwords, hothers⟩ := ht
    refine ⟨hu.1.trans hsame, fun c hc => ?_, fun m hm hmem => ?_⟩
    · rcases List.mem_cons.mp hc with rfl | hc
      · rw [hothers _ hchan hnodup.1, hu.2, outWord_store hchan]
      · exact hwords c hc
    · rw [List.map_cons, List.mem_cons, not_or] at hmem
      rw [hothers m hm hmem.2, hu.2, outWord_store_of_ne hm hchan hmem.1]

lemma nodup_enabled (h : (p.channels.map (·.channelNum)).Nodup) : ((enabled p).map (·.channelNum)).Nodup :=
  h.sublist (List.filter_sublist.map _)

lemma k_mask (x : UInt16) : AD9528_SYSREF_K_DIV x.toUInt32 &&& 0xFFFF = x.toUInt32 := by
  have hshift : AD9528_SYSREF_K_DIV x.toUInt32 = x.toUInt32 &&& 0xFFFF := by
    simp [AD9528_SYSREF_K_DIV]
  rw [hshift, UInt32.and_assoc, UInt32.and_self]
  exact @masked_of_lt x.toUInt32 16 (by decide) (by rw [UInt16.toNat_toUInt32]; exact x.toNat_lt)

/-- A setup that succeeds. -/
theorem started_setup (hp : p.Allowed) : Ensures (setup p) s fun _ => Started p := by
  have hconf : ∀ {β : Type} {x : Fallible Ad9528 β}, Moves (Keeps fun _ => False) x →
      Moves (fun s t => Configured p s → Configured p t) x :=
    fun hx => moves_after hx fun s t h hst => h.keeps hst.toSame
  have hdist : ∀ {β : Type} {x : Fallible Ad9528 β}, Moves (Keeps IsOutput) x →
      Moves (fun s t => Distributed p s → Distributed p t) x :=
    fun hx => moves_after hx fun s t h hst => h.keeps hst
  have hstart : ∀ {β : Type} {x : Fallible Ad9528 β}, Moves (Keeps fun r => IsOutput r ∨ IsKDivider r) x →
      Moves (fun s t => Started p s → Started p t) x :=
    fun hx => moves_after hx fun s t h hst => h.keeps hst
  unfold setup
  refine Ensures.reach (Configured p) ?_ fun _ s hs => ?_
  · intro _ t hrun
    obtain ⟨-, rfl⟩ := Prod.mk.inj hrun
    exact ⟨rfl, rfl⟩
  refine Ensures.after (hconf (moves_spiWriteN (by simp))) hs fun _ s hs => ?_
  refine Ensures.after (hconf (moves_spiWriteN (by simp))) hs fun _ s hs => ?_
  refine Ensures.after (hconf moves_spiReadN) hs fun regData s hs => ?_
  refine Ensures.after (hconf moves_returnUnless) hs fun _ s hs => ?_
  refine Ensures.after (hconf (moves_any _)) hs fun _ s hs => ?_
  refine Ensures.reach (Clocked p) ?_ fun vcoCtrl s hs => ?_
  · unfold pll2
    split
    · rename_i hbypass
      exact clocked_bypassPll2 hbypass hs
    · rename_i hbypass
      exact clocked_pll2Setup hp (Bool.eq_false_iff.mpr hbypass) hs
  refine Ensures.reach (Distributed p) ?_ fun _ s hs => ?_
  · refine (ensures_channels (fun chan hchan => (mem_enabled.mp hchan).2.2) (nodup_enabled hp.apart)).mono
      fun _ t ht => ?_
    exact ⟨hs.keeps ht.1, ht.2.1⟩
  refine Ensures.after (hdist (fun s => Keeps.refl _ s)) hs fun dev s hs => ?_
  -- The write of the K divider is the third one of the list.
  refine Ensures.reach (Started p) ?_ fun _ s hs => ?_
  · have hpd : ∀ r ∈ regsOf AD9528_CHANNEL_PD_EN, ¬IsOutput r := by decide
    have hsync : ∀ r ∈ regsOf AD9528_CHANNEL_SYNC_IGNORE, ¬IsOutput r := by decide
    refine Ensures.after (hdist (moves_spiWriteN hpd)) hs fun _ s hs => ?_
    refine Ensures.after (hdist (moves_spiWriteN hsync)) hs fun _ s hs => ?_
    refine Ensures.reach (Started p) ?_ fun _ s hs => ?_
    · have hwrite : Writable AD9528_SYSREF_K_DIVIDER := by
        unfold Writable
        decide
      have hk : ∀ r ∈ regsOf AD9528_SYSREF_K_DIVIDER, ¬IsOutput r := by decide
      intro _ t hrun
      obtain ⟨-, hregs⟩ := ensures_spiWriteN hwrite _ t hrun
      have hkeeps := (moves_spiWriteN hk).ensures s _ t hrun
      refine ⟨hs.keeps hkeeps, ?_⟩
      rw [hregs, kWord_store, k_mask]
    have hctrl : ∀ r ∈ regsOf AD9528_SYSREF_CTRL, ¬(IsOutput r ∨ IsKDivider r) := by decide
    have hpd : ∀ r ∈ regsOf AD9528_PD_EN, ¬(IsOutput r ∨ IsKDivider r) := by decide
    refine Ensures.after (hstart (moves_spiWriteN hctrl)) hs fun _ s hs => ?_
    refine Ensures.after (hstart (moves_spiWriteN hpd)) hs fun _ s hs => ?_
    exact Ensures.pure hs
  refine Ensures.after (hstart moves_ioUpdate) hs fun _ s hs => ?_
  refine Ensures.after (hstart (moves_calibrate vcoCtrl)) hs fun _ s hs => ?_
  refine Ensures.after (hstart (moves_statPins _)) hs fun _ s hs => ?_
  refine Ensures.after (hstart moves_ioUpdate) hs fun _ s hs => ?_
  exact (moves_sync.ensures s).mono fun _ t hst => hs.keeps hst

/-- Nothing is divided by zero, whatever the transfers return. -/
theorem moves_setup (hp : p.Allowed) : Moves (fun s t => s.byZero = false → t.byZero = false) (setup p) := by
  have hkeeps : ∀ {β : Type} {P : UInt32 → Prop} {x : Fallible Ad9528 β}, Moves (Keeps P) x →
      Moves (fun s t => s.byZero = false → t.byZero = false) x :=
    fun hx => moves_after hx fun s t h hst => by rw [hst.byZero, h]
  have hbind : ∀ {β γ : Type} {x : Fallible Ad9528 β} {f : β → Fallible Ad9528 γ},
      Moves (fun s t => s.byZero = false → t.byZero = false) x →
      (∀ b, Moves (fun s t => s.byZero = false → t.byZero = false) (f b)) →
      Moves (fun s t => s.byZero = false → t.byZero = false) (x >>= f) :=
    fun hx hf => Moves.bind (fun _ _ _ h h' hs => h' (h hs)) hx hf
  have hmodify : ∀ f : Ad9528 → Ad9528, (∀ s, (f s).byZero = s.byZero) →
      Moves (fun s t => s.byZero = false → t.byZero = false) (modify f) := fun f hf s hs => (hf s).trans hs
  have hpll2 : Moves (fun s t => s.byZero = false → t.byZero = false)
      (pll2 p) := by
    unfold pll2
    split
    · exact hbind (hkeeps (moves_any _)) fun _ => hbind (hmodify _ fun _ => rfl) fun _ _ hs => hs
    · rename_i hbypass
      have hcheck : Moves (fun s t => s.byZero = false → t.byZero = false) (checkDivisor p.pll2R1Div.toUInt32) := by
        rw [checkDivisor, if_neg (hp.divisor_ne_zero (Bool.eq_false_iff.mpr hbypass))]
        exact fun _ hs => hs
      exact hbind (hkeeps (P := fun _ => False) moves_returnUnless) fun _ => hbind (hkeeps (moves_any _)) fun _ =>
        hbind hcheck fun _ => hbind (hkeeps (moves_any _)) fun _ => hbind (hmodify _ fun _ => rfl) fun _ =>
        hbind (hkeeps (moves_any _)) fun _ _ hs => hs
  exact hbind (hmodify _ fun _ => rfl) fun _ => hbind (hkeeps (P := fun _ => False) (moves_spiWriteN (by simp))) fun _ =>
    hbind (hkeeps moves_ioUpdate) fun _ => hbind (hkeeps (P := fun _ => False) moves_spiReadN) fun _ =>
    hbind (hkeeps (P := fun _ => False) moves_returnUnless) fun _ => hbind (hkeeps (moves_any _)) fun _ =>
    hbind hpll2 fun vcoCtrl => hbind (hkeeps (moves_any _)) fun _ => hbind (fun _ hs => hs) fun _ =>
    hbind (hkeeps (moves_any _)) fun _ => hbind (hkeeps moves_ioUpdate) fun _ =>
    hbind (hkeeps (moves_calibrate vcoCtrl)) fun _ => hbind (hkeeps (moves_any _)) fun _ =>
    hbind (hkeeps moves_ioUpdate) fun _ => hkeeps moves_sync

end Setup

end Ad9528

end NoOS
