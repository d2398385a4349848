import NoOS.Drivers.Ad9528Setup
import NoOS.Lib.Trace
import Mathlib.Data.List.Nodup
import Mathlib.Data.List.Perm.Subperm

/-!
# The channel rates of the AD9528

`ad9528_clk_set_rate` writes to the output that the entry of the table names. The other fields of its word are those
that were read for the output whose number is the index of the entry.
-/

namespace NoOS
open Fallible PackedWord
open scoped RegisterFile

namespace Ad9528

/-- `f` is the quotient rounded to the nearest number. -/
def Nearest (f num den : ℕ) : Prop := 0 < den ∧ 2 * f * den ≤ 2 * num + den ∧ 2 * num ≤ 2 * f * den + den

/-- The rate of an output: its divider divides the clock of the VCO, or the K divider half of the VCXO. -/
def RunsAt (s : Ad9528) (spec : Ad9528ChannelSpec) (f : UInt32) : Prop :=
  if spec.signalSource = AD9528_VCO then
    Nearest f.toNat s.vcoOutFreq.vco.toNat (AD9528_CLK_DIST_DIV_REV (outWord s.regs spec.channelNum)).toNat
  else Nearest f.toNat s.vcoOutFreq.vcxo.toNat (2 * (kWord s.regs).toNat)

/-- The register of an output holds the divider of its entry. -/
def Programmed (s : Ad9528) (spec : Ad9528ChannelSpec) : Prop :=
  AD9528_CLK_DIST_DIV_REV (outWord s.regs spec.channelNum) = spec.channelDivider.toUInt32

/-- The entry `j` is in step with the registers. -/
def InStep (s : Ad9528) (j : ℕ) : Prop := ∀ spec, s.pdata.channels[j]? = some spec → s.Programmed spec

def KInStep (s : Ad9528) : Prop := kWord s.regs = s.pdata.sysrefKDiv.toUInt32

structure SetRate where
  chan : UInt32
  rate : UInt32

/-- A call divides by zero nowhere. If it succeeds its output runs at the rate that was announced, has its other
fields as before, and nothing else gets out of step. -/
structure Coherent (s : Ad9528) (c : SetRate) : Prop where
  byZero : (clkSetRate c.chan c.rate s).2.byZero = false
  success : ∀ t, clkSetRate c.chan c.rate s = (.ok (), t) →
    ∃ spec f, s.pdata.channels[c.chan.toNat]? = some spec ∧ clkRoundRate c.chan c.rate s = (.ok f, s) ∧
      t.RunsAt spec f ∧ SameFields (outWord t.regs spec.channelNum) (outWord s.regs spec.channelNum) ∧
      (∀ n < AD9528_NUM_CHAN, n ≠ spec.channelNum → outWord t.regs n = outWord s.regs n) ∧
      (∀ j, s.InStep j → t.InStep j) ∧ (s.KInStep → t.KInStep) ∧
      (if spec.signalSource = AD9528_VCO then t.InStep c.chan.toNat else t.KInStep)

/-- The output with the number of the index has the same fields, or half of the VCXO is not divided by zero. -/
def CallAllowed (s : Ad9528) (c : SetRate) : Prop :=
  ∀ spec, s.pdata.channels[c.chan.toNat]? = some spec →
    (spec.signalSource = AD9528_VCO → s.vcoOutFreq.vco.toNat + 128 < 2 ^ 32 ∧
      SameFields (word s.regs (regsOf (AD9528_CHANNEL_OUTPUT c.chan)) 0) (outWord s.regs spec.channelNum)) ∧
    (spec.signalSource = AD9528_SYSREF → c.rate.toNat - c.rate.toNat / 2 ≤ s.vcoOutFreq.vcxo.toNat / 2)

/-- The device, and the entries with a call that failed. -/
structure History where
  dev : Ad9528
  failed : ℕ → Bool

def step (h : History) (c : SetRate) : History :=
  match clkSetRate c.chan c.rate h.dev with
  | (.ok _, s) => ⟨s, h.failed⟩
  | (.error _, s) => ⟨s, Function.update h.failed c.chan.toNat true⟩

/-- Nothing was divided by zero, and the table agrees with the registers apart from what failed. -/
structure Mirrored (h : History) : Prop where
  byZero : h.dev.byZero = false
  entry : ∀ j spec, h.dev.pdata.channels[j]? = some spec → spec.outputDis = false → h.failed j = false →
    h.dev.Programmed spec
  k : (∀ j spec, h.dev.pdata.channels[j]? = some spec → spec.signalSource = AD9528_SYSREF → h.failed j = false) →
    h.dev.KInStep

section Dividers

variable {x y rate : UInt32}

/-- The divider of a channel for a rate. -/
def outDiv (rate parentRate : UInt32) : UInt32 :=
  clamp (divRoundClosest parentRate rate) AD9528_CLK_DIST_DIV_MIN AD9528_CLK_DIST_DIV_MAX

def kDiv (rate vcxo : UInt32) : UInt32 :=
  clamp (divRoundClosest (vcxo / 2) rate) AD9528_SYSREF_K_DIV_MIN AD9528_SYSREF_K_DIV_MAX

lemma divClosest_eq (hy : y ≠ 0) : divClosest x y = pure (divRoundClosest x y) := if_neg hy

lemma calcOutDiv_eq (hrate : rate ≠ 0) : calcOutDiv rate x = pure (outDiv rate x) := by
  rw [calcOutDiv, divClosest_eq hrate]
  rfl

lemma calcKDiv_eq (hrate : rate ≠ 0) : calcKDiv rate x = pure (kDiv rate x) := by
  rw [calcKDiv, divClosest_eq hrate]
  rfl

lemma outDiv_mem (rate parentRate : UInt32) :
    1 ≤ (outDiv rate parentRate).toNat ∧ (outDiv rate parentRate).toNat ≤ 256 := by
  have hmin : AD9528_CLK_DIST_DIV_MIN.toNat = 1 := rfl
  have hmax : AD9528_CLK_DIST_DIV_MAX.toNat = 256 := rfl
  rw [outDiv, clamp, UInt32.toNat_max, UInt32.toNat_min, hmin, hmax]
  lia

/-- The K divider is not 0 as long as the rate is rounded to half of the VCXO at most. -/
lemma kDiv_mem (hrate : rate ≠ 0) (h : rate.toNat - rate.toNat / 2 ≤ x.toNat / 2) :
    1 ≤ (kDiv rate x).toNat ∧ (kDiv rate x).toNat ≤ 65535 := by
  have hmin : AD9528_SYSREF_K_DIV_MIN.toNat = 0 := rfl
  have hmax : AD9528_SYSREF_K_DIV_MAX.toNat = 65535 := rfl
  have hpos : 0 < rate.toNat := Nat.pos_of_ne_zero fun h0 => hrate (UInt32.toNat_inj.mp h0)
  have hx := x.toNat_lt
  have hr := rate.toNat_lt
  have hhalf : (x / 2).toNat = x.toNat / 2 := UInt32.toNat_div x 2
  have hround : (rate / 2).toNat = rate.toNat / 2 := UInt32.toNat_div rate 2
  have hquot : 1 ≤ (divRoundClosest (x / 2) rate).toNat := by
    rw [divRoundClosest, UInt32.toNat_div, Word.toNat_add_of_lt (by lia), hhalf, hround,
      Nat.le_div_iff_mul_le hpos]
    lia
  rw [kDiv, clamp, UInt32.toNat_max, UInt32.toNat_min, hmin, hmax]
  lia

lemma toUInt32_toUInt16 (h : x.toNat < 2 ^ 16) : x.toUInt16.toUInt32 = x := by
  apply UInt32.toNat_inj.mp
  rw [UInt16.toNat_toUInt32, UInt32.toNat_toUInt16, Nat.mod_eq_of_lt h]

lemma nearest_div {num den : ℕ} (hden : 0 < den) : Nearest ((num + den / 2) / den) num den := by
  have hlow := Nat.div_mul_le_self (num + den / 2) den
  have hhigh := Nat.lt_div_mul_add (a := num + den / 2) hden
  rw [Nearest, Nat.mul_assoc]
  lia

lemma nearest_half {num k : ℕ} (hk : 0 < k) : Nearest ((num / 2 + k / 2) / k) num (2 * k) := by
  have hlow := Nat.div_mul_le_self (num / 2 + k / 2) k
  have hhigh := Nat.lt_div_mul_add (a := num / 2 + k / 2) hk
  have hmul : 2 * ((num / 2 + k / 2) / k) * (2 * k) = 4 * ((num / 2 + k / 2) / k * k) := by ring
  rw [Nearest, hmul]
  lia

end Dividers

section Call

variable {s t : Ad9528} {chan rate : UInt32} {spec : Ad9528ChannelSpec}

/-- The entries name different outputs. -/
structure Sound (s : Ad9528) : Prop where
  num : ∀ spec ∈ s.pdata.channels, spec.channelNum < AD9528_NUM_CHAN
  apart : (s.pdata.channels.map (·.channelNum)).Nodup

lemma Sound.length_le (h : s.Sound) : s.pdata.channels.length ≤ 14 := by
  have hsub : s.pdata.channels.map (·.channelNum) ⊆ (List.range 14).map UInt8.ofNat := by
    intro n hn
    obtain ⟨spec, hspec, rfl⟩ := List.mem_map.mp hn
    have hlt : spec.channelNum.toNat < 14 := UInt8.lt_iff_toNat_lt.mp (h.num spec hspec)
    exact List.mem_map.mpr ⟨spec.channelNum.toNat, List.mem_range.mpr hlt, UInt8.ofNat_toNat⟩
  have hle := (h.apart.subperm hsub).length_le
  simpa using hle

lemma Sound.num_ne (h : s.Sound) {i j : ℕ} {a b : Ad9528ChannelSpec} (hi : s.pdata.channels[i]? = some a)
    (hj : s.pdata.channels[j]? = some b) (hij : i ≠ j) : a.channelNum ≠ b.channelNum := by
  intro heq
  have hi' : (s.pdata.channels.map (·.channelNum))[i]? = some a.channelNum := by rw [List.getElem?_map, hi]; rfl
  have hj' : (s.pdata.channels.map (·.channelNum))[j]? = some a.channelNum := by
    rw [List.getElem?_map, hj, heq]; rfl
  have hlt : i < (s.pdata.channels.map (·.channelNum)).length := (List.getElem?_eq_some_iff.mp hi').1
  exact hij ((List.getElem?_inj hlt h.apart).mp (hi'.trans hj'.symm))

lemma Sound.exists_output (h : s.Sound) (hspec : s.pdata.channels[chan.toNat]? = some spec) :
    ∃ n : UInt8, n < AD9528_NUM_CHAN ∧ chan = n.toUInt32 := by
  have hlt : chan.toNat < 14 := (List.getElem?_eq_some_iff.mp hspec).1.trans_le h.length_le
  have hn : (UInt8.ofNat chan.toNat).toNat = chan.toNat := UInt8.toNat_ofNat_of_lt' (by change _ < 256; omega)
  refine ⟨UInt8.ofNat chan.toNat, UInt8.lt_iff_toNat_lt.mpr (by rw [hn]; exact hlt), ?_⟩
  apply UInt32.toNat_inj.mp
  rw [UInt8.toNat_toUInt32, hn]

lemma get_bind {α : Type} {f : Ad9528 → Fallible Ad9528 α} : (get >>= f) s = f s s := rfl

/-- The reads and writes for a channel divider. -/
def programOutput (chan : UInt32) (num : UInt8) (div : UInt32) : Fallible Ad9528 Unit := do
  let reg ← spiReadN (AD9528_CHANNEL_OUTPUT chan)
  spiWriteN (AD9528_CHANNEL_OUTPUT num.toUInt32) (withDivider reg div.toUInt16.toUInt32)
  ioUpdate

lemma clkSetRate_vco (hrate : rate ≠ 0) (hspec : s.pdata.channels[chan.toNat]? = some spec)
    (hsource : spec.signalSource = AD9528_VCO) :
    clkSetRate chan rate s = programOutput chan spec.channelNum (outDiv rate s.vcoOutFreq.vco)
      (setChannelDivider chan.toNat (outDiv rate s.vcoOutFreq.vco) s) := by
  rw [clkSetRate, get_bind, hspec]
  dsimp only
  rw [if_pos hsource, calcOutDiv_eq hrate]
  rfl

/-- The write of the K divider and what follows. -/
def programK (div : UInt32) : Fallible Ad9528 Unit := do
  spiWriteN AD9528_SYSREF_K_DIVIDER div
  modify fun s => { s with pdata := { s.pdata with sysrefKDiv := div.toUInt16 } }
  checkDivisor div
  modify fun s => { s with vcoOutFreq := { s.vcoOutFreq with sysref := s.vcoOutFreq.vcxo / 2 / div } }
  ioUpdate

lemma clkSetRate_sysref (hrate : rate ≠ 0) (hspec : s.pdata.channels[chan.toNat]? = some spec)
    (hsource : spec.signalSource = AD9528_SYSREF) :
    clkSetRate chan rate s = programK (kDiv rate s.vcoOutFreq.vcxo) s := by
  have hne : ¬spec.signalSource = AD9528_VCO := by
    rw [hsource]
    decide
  rw [clkSetRate, get_bind, hspec]
  dsimp only
  rw [if_neg hne, if_pos hsource, calcKDiv_eq hrate]
  rfl

lemma clkSetRate_none (hspec : s.pdata.channels[chan.toNat]? = none) :
    clkSetRate chan rate s = (.error (-1), s) := by
  rw [clkSetRate, get_bind, hspec]
  rfl

lemma clkSetRate_other (hspec : s.pdata.channels[chan.toNat]? = some spec)
    (hvco : spec.signalSource ≠ AD9528_VCO) (hsysref : spec.signalSource ≠ AD9528_SYSREF) :
    clkSetRate chan rate s = (.error (-2), s) := by
  rw [clkSetRate, get_bind, hspec]
  dsimp only
  rw [if_neg hvco, if_neg hsysref]
  rfl

lemma clkRoundRate_vco (hrate : rate ≠ 0) (hspec : s.pdata.channels[chan.toNat]? = some spec)
    (hsource : spec.signalSource = AD9528_VCO) :
    clkRoundRate chan rate s = (.ok (divRoundClosest s.vcoOutFreq.vco (outDiv rate s.vcoOutFreq.vco)), s) := by
  have hdiv : outDiv rate s.vcoOutFreq.vco ≠ 0 := Word.ne_zero_of_pos (outDiv_mem rate s.vcoOutFreq.vco).1
  rw [clkRoundRate, get_bind, hspec]
  dsimp only
  rw [if_pos hsource, calcOutDiv_eq hrate]
  exact congrFun (divClosest_eq hdiv) s

lemma clkRoundRate_sysref (hrate : rate ≠ 0) (hspec : s.pdata.channels[chan.toNat]? = some spec)
    (hsource : spec.signalSource = AD9528_SYSREF) (hdiv : kDiv rate s.vcoOutFreq.vcxo ≠ 0) :
    clkRoundRate chan rate s = (.ok (divRoundClosest (s.vcoOutFreq.vcxo / 2) (kDiv rate s.vcoOutFreq.vcxo)), s) := by
  have hne : ¬spec.signalSource = AD9528_VCO := by
    rw [hsource]
    decide
  rw [clkRoundRate, get_bind, hspec]
  dsimp only
  rw [if_neg hne, if_pos hsource, calcKDiv_eq hrate]
  exact congrFun (divClosest_eq hdiv) s

lemma getElem?_setChannelDivider {i j : ℕ} {div : UInt32} (hspec : s.pdata.channels[i]? = some spec) :
    (setChannelDivider i div s).pdata.channels[j]? =
      if i = j then some { spec with channelDivider := div.toUInt16 } else s.pdata.channels[j]? := by
  rw [setChannelDivider, List.getElem?_modify]
  split
  · rename_i hij
    subst hij
    rw [hspec]
    rfl
  · exact Option.map_id_apply

/-- The other registers of outputs and the K divider stay. -/
def OtherThan (n : UInt8) (r : UInt32) : Prop :=
  r ∉ regsOf (AD9528_CHANNEL_OUTPUT n.toUInt32) ∧ (IsOutput r ∨ IsKDivider r)

lemma moves_programOutput {n : UInt8} {div : UInt32} : Moves (Keeps (OtherThan n)) (programOutput chan n div) := by
  refine moves_bind moves_spiReadN fun reg => moves_bind (moves_spiWriteN fun r hr h => h.1 hr) fun _ => ?_
  exact fun s => (moves_ioUpdate s).mono fun r hr => hr.2

lemma outWord_otherThan {m n : UInt8} (h : Keeps (OtherThan n) s t) (hm : m < AD9528_NUM_CHAN)
    (hn : n < AD9528_NUM_CHAN) (hne : m ≠ n) : outWord t.regs m = outWord s.regs m :=
  word_congr fun r hr => h.regs r ⟨not_mem_output hm hn hne hr, Or.inl (isOutput_of_mem hm hr)⟩

lemma kWord_otherThan {n : UInt8} (h : Keeps (OtherThan n) s t) (hn : n < AD9528_NUM_CHAN) :
    kWord t.regs = kWord s.regs :=
  kWord_congr fun r hr => h.regs r ⟨fun hmem => not_isKDivider_of_mem hn hmem hr, Or.inr hr⟩

lemma ensures_programOutput {m n : UInt8} {div : UInt32} (hm : m < AD9528_NUM_CHAN) (hn : n < AD9528_NUM_CHAN) :
    Ensures (programOutput m.toUInt32 n div) s fun _ t => outWord t.regs n =
      withDivider (outWord s.regs m) div.toUInt16.toUInt32 &&& 0xFFFFFF := by
  have hstatus : ∀ r ∈ regsOf (AD9528_CHANNEL_OUTPUT m.toUInt32), r ≠ 0x508 ∧ r ≠ 0x509 := by
    intro r hr
    have hout := isOutput_of_mem hm hr
    refine ⟨?_, ?_⟩
    · rintro rfl
      exact absurd hout (by decide)
    · rintro rfl
      exact absurd hout (by decide)
  refine Ensures.bind_of (ensures_spiReadN hstatus) fun reg u hu => ?_
  obtain ⟨rfl, -, hregs⟩ := hu
  refine Ensures.bind_of (ensures_spiWriteN (writable_output hn)) fun _ v hv => ?_
  refine (moves_ioUpdate.ensures v).mono fun _ t ht => ?_
  rw [outWord_congr hn fun r hr => ht.regs r (Or.inl hr), hv.2, outWord_store hn, outWord]

/-- What the calls on the K divider leave. -/
structure KOnly (s t : Ad9528) : Prop where
  channels : t.pdata.channels = s.pdata.channels
  vco : t.vcoOutFreq.vco = s.vcoOutFreq.vco
  vcxo : t.vcoOutFreq.vcxo = s.vcoOutFreq.vcxo
  byZero : t.byZero = s.byZero
  regs : ∀ r, IsOutput r → t.regs r = s.regs r

lemma KOnly.trans {u : Ad9528} (h : KOnly s t) (h' : KOnly t u) : KOnly s u :=
  ⟨h'.channels.trans h.channels, h'.vco.trans h.vco, h'.vcxo.trans h.vcxo, h'.byZero.trans h.byZero,
    fun r hr => (h'.regs r hr).trans (h.regs r hr)⟩

lemma Keeps.kOnly (h : Keeps IsOutput s t) : KOnly s t :=
  ⟨by rw [h.pdata], by rw [h.vcoOutFreq], by rw [h.vcoOutFreq], h.byZero, h.regs⟩

lemma moves_programK {div : UInt32} (hdiv : div ≠ 0) : Moves KOnly (programK div) := by
  have hbind : ∀ {α β : Type} {x : Fallible Ad9528 α} {f : α → Fallible Ad9528 β}, Moves KOnly x →
      (∀ a, Moves KOnly (f a)) → Moves KOnly (x >>= f) := fun hx hf => Moves.bind (fun _ _ _ => KOnly.trans) hx hf
  have hk : ∀ r ∈ regsOf AD9528_SYSREF_K_DIVIDER, ¬IsOutput r := by decide
  have hcheck : checkDivisor div = pure () := if_neg hdiv
  have hupdate : Moves KOnly ioUpdate := fun s => ((moves_ioUpdate s).mono fun r hr => Or.inl hr).kOnly
  have hwrite : Moves KOnly (spiWriteN AD9528_SYSREF_K_DIVIDER div) := fun s => (moves_spiWriteN hk s).kOnly
  have hmodify : ∀ f : Ad9528 → Ad9528, (∀ s, KOnly s (f s)) → Moves KOnly (modify f) := fun _ hf => hf
  refine hbind hwrite fun _ => hbind (hmodify _ fun s => ?_) fun _ => ?_
  · exact ⟨rfl, rfl, rfl, rfl, fun _ _ => rfl⟩
  rw [hcheck]
  refine hbind (fun s => ?_) fun _ => hbind (hmodify _ fun s => ?_) fun _ => hupdate
  · exact ⟨rfl, rfl, rfl, rfl, fun _ _ => rfl⟩
  · exact ⟨rfl, rfl, rfl, rfl, fun _ _ => rfl⟩

/-- The K divider in the registers and in the platform data. -/
def HasK (div : UInt32) (s : Ad9528) : Prop := kWord s.regs = div ∧ s.pdata.sysrefKDiv = div.toUInt16

lemma ensures_programK {div : UInt32} (hdiv : div ≠ 0) (hlt : div.toNat < 2 ^ 16) :
    Ensures (programK div) s fun _ => HasK div := by
  have hwrite : Writable AD9528_SYSREF_K_DIVIDER := by
    unfold Writable
    decide
  have hcheck : Moves (fun s t => HasK div s → HasK div t) (checkDivisor div) := by
    rw [checkDivisor, if_neg hdiv]
    exact fun _ h => h
  have hmask : div &&& 0xFFFF = div := @masked_of_lt div 16 (by decide) hlt
  have hkeep : ∀ f : Ad9528 → Ad9528, (∀ s, (f s).regs = s.regs ∧ (f s).pdata = s.pdata) →
      Moves (fun s t => HasK div s → HasK div t) (modify f) := by
    intro f hf s hs
    change HasK div (f s)
    rwa [HasK, (hf s).1, (hf s).2]
  have hupdate : Moves (fun s t => HasK div s → HasK div t) ioUpdate := by
    intro s hs
    have hst := moves_ioUpdate s
    rwa [HasK, kWord_congr fun r hr => hst.regs r (Or.inr hr), hst.pdata]
  refine Ensures.bind_of (ensures_spiWriteN hwrite) fun _ u hu => ?_
  refine Ensures.reach (HasK div) ?_ fun _ v hv => ?_
  · intro _ t hrun
    obtain ⟨-, rfl⟩ := Prod.mk.inj hrun
    refine ⟨?_, rfl⟩
    change kWord u.regs = div
    rw [hu.2, kWord_store, hmask]
  refine Ensures.after hcheck hv fun _ v hv => Ensures.after (hkeep _ fun s => ⟨rfl, rfl⟩) hv fun _ v hv => ?_
  exact (hupdate.ensures v).mono fun _ t ht => ht hv

end Call

section Runs

variable {s t : Ad9528} {c : SetRate} {spec : Ad9528ChannelSpec}

/-- What a call leaves of the table and the registers, whether it succeeds or not. -/
structure Touches (s : Ad9528) (c : SetRate) (t : Ad9528) : Prop where
  byZero : t.byZero = s.byZero
  /-- Entries keep their outputs, and all but the one of the call are as before -/
  entry : ∀ j b, t.pdata.channels[j]? = some b → ∃ a, s.pdata.channels[j]? = some a ∧
    b.channelNum = a.channelNum ∧ b.signalSource = a.signalSource ∧ b.outputDis = a.outputDis ∧
    (j ≠ c.chan.toNat → b = a ∧ outWord t.regs a.channelNum = outWord s.regs a.channelNum)
  nums : t.pdata.channels.map (·.channelNum) = s.pdata.channels.map (·.channelNum)

lemma Touches.refl (s : Ad9528) (c : SetRate) : Touches s c s :=
  ⟨rfl, fun _ b hb => ⟨b, hb, rfl, rfl, rfl, fun _ => ⟨rfl, rfl⟩⟩, rfl⟩

lemma Touches.sound (h : Touches s c t) (hs : s.Sound) : t.Sound := by
  refine ⟨fun b hb => ?_, by rw [h.nums]; exact hs.apart⟩
  obtain ⟨j, hj⟩ := List.mem_iff_getElem?.mp hb
  obtain ⟨a, ha, hnum, -⟩ := h.entry j b hj
  rw [hnum]
  exact hs.num a (List.mem_of_getElem? ha)

lemma map_setChannelDivider (i : ℕ) (div : UInt32) :
    (setChannelDivider i div s).pdata.channels.map (·.channelNum) = s.pdata.channels.map (·.channelNum) := by
  apply List.ext_getElem?
  intro j
  rw [List.getElem?_map, List.getElem?_map, setChannelDivider, List.getElem?_modify]
  rcases hj : s.pdata.channels[j]? with _ | a
  · rfl
  · by_cases hij : i = j
    · simp [hij]
    · simp [hij]

lemma touches_vco (hs : s.Sound) (hspec : s.pdata.channels[c.chan.toNat]? = some spec) {div : UInt32}
    (h : Keeps (OtherThan spec.channelNum) (setChannelDivider c.chan.toNat div s) t) : Touches s c t := by
  refine ⟨h.byZero, fun j b hb => ?_, by rw [h.pdata]; exact map_setChannelDivider _ _⟩
  rw [h.pdata, getElem?_setChannelDivider hspec] at hb
  split at hb
  · rename_i hj
    subst hj
    obtain rfl := Option.some.inj hb
    exact ⟨spec, hspec, rfl, rfl, rfl, fun hne => absurd rfl hne⟩
  · rename_i hj
    have hword := outWord_otherThan h (hs.num b (List.mem_of_getElem? hb))
      (hs.num spec (List.mem_of_getElem? hspec)) (hs.num_ne hb hspec (Ne.symm hj))
    exact ⟨b, hb, rfl, rfl, rfl, fun _ => ⟨rfl, hword⟩⟩

lemma touches_sysref (hs : s.Sound) (h : KOnly s t) : Touches s c t := by
  refine ⟨h.byZero, fun j b hb => ?_, by rw [h.channels]⟩
  rw [h.channels] at hb
  exact ⟨b, hb, rfl, rfl, rfl, fun _ => ⟨rfl, outWord_congr (hs.num b (List.mem_of_getElem? hb)) h.regs⟩⟩

lemma clkSetRate_cases (hc : s.CallAllowed c) (hrate : 0 < c.rate) :
    (∃ e, clkSetRate c.chan c.rate s = (.error e, s)) ∨
    (∃ spec, s.pdata.channels[c.chan.toNat]? = some spec ∧ spec.signalSource = AD9528_VCO ∧
      Keeps (OtherThan spec.channelNum) (setChannelDivider c.chan.toNat (outDiv c.rate s.vcoOutFreq.vco) s)
        (clkSetRate c.chan c.rate s).2) ∨
    ∃ spec, s.pdata.channels[c.chan.toNat]? = some spec ∧ spec.signalSource = AD9528_SYSREF ∧
      KOnly s (clkSetRate c.chan c.rate s).2 := by
  have hne : c.rate ≠ 0 := Word.ne_zero_of_pos (UInt32.lt_iff_toNat_lt.mp hrate)
  rcases hspec : s.pdata.channels[c.chan.toNat]? with _ | spec
  · exact Or.inl ⟨_, clkSetRate_none hspec⟩
  · by_cases hvco : spec.signalSource = AD9528_VCO
    · refine Or.inr (Or.inl ⟨spec, rfl, hvco, ?_⟩)
      rw [clkSetRate_vco hne hspec hvco]
      exact moves_programOutput _
    · by_cases hsysref : spec.signalSource = AD9528_SYSREF
      · refine Or.inr (Or.inr ⟨spec, rfl, hsysref, ?_⟩)
        rw [clkSetRate_sysref hne hspec hsysref]
        exact moves_programK (Word.ne_zero_of_pos (kDiv_mem hne ((hc spec hspec).2 hsysref)).1) s
      · exact Or.inl ⟨_, clkSetRate_other hspec hvco hsysref⟩

lemma touches_clkSetRate (hs : s.Sound) (hc : s.CallAllowed c) (hrate : 0 < c.rate) :
    Touches s c (clkSetRate c.chan c.rate s).2 := by
  rcases clkSetRate_cases hc hrate with ⟨e, he⟩ | ⟨spec, hspec, -, h⟩ | ⟨spec, -, -, h⟩
  · rw [he]
    exact Touches.refl s c
  · exact touches_vco hs hspec h
  · exact touches_sysref hs h

lemma Touches.programmed (h : Touches s c t) {j : ℕ} {b : Ad9528ChannelSpec} (hb : t.pdata.channels[j]? = some b)
    (hj : j ≠ c.chan.toNat) (hs : ∀ a, s.pdata.channels[j]? = some a → b = a → s.Programmed a) : t.Programmed b := by
  obtain ⟨a, ha, -, -, -, hsame⟩ := h.entry j b hb
  obtain ⟨rfl, hword⟩ := hsame hj
  have hprogrammed := hs b ha rfl
  rwa [Programmed, hword]

theorem coherent_vco (hs : s.Sound) (hbyZero : s.byZero = false) (hrate : 0 < c.rate) (hc : s.CallAllowed c)
    (hspec : s.pdata.channels[c.chan.toNat]? = some spec) (hsource : spec.signalSource = AD9528_VCO) :
    s.Coherent c := by
  have hne : c.rate ≠ 0 := Word.ne_zero_of_pos (UInt32.lt_iff_toNat_lt.mp hrate)
  obtain ⟨hfit, hfields⟩ := (hc spec hspec).1 hsource
  obtain ⟨hpos, hle⟩ := outDiv_mem c.rate s.vcoOutFreq.vco
  obtain ⟨n, hn, hchan⟩ := hs.exists_output hspec
  have hnum := hs.num spec (List.mem_of_getElem? hspec)
  have htouches := touches_clkSetRate hs hc hrate
  refine ⟨by rw [htouches.byZero, hbyZero], fun t hrun => ?_⟩
  have htouched : Touches s c t := by rwa [hrun] at htouches
  rw [clkSetRate_vco hne hspec hsource, hchan] at hrun
  have hkeeps := moves_programOutput.ensures _ _ _ hrun
  have hword := ensures_programOutput hn hnum _ _ hrun
  rw [← hchan] at hkeeps
  rw [toUInt32_toUInt16 (by omega)] at hword
  have hdiv : AD9528_CLK_DIST_DIV_REV (outWord t.regs spec.channelNum) = outDiv c.rate s.vcoOutFreq.vco := by
    rw [hword]
    exact div_withDivider hpos hle
  have hself : t.InStep c.chan.toNat := by
    intro b hb
    rw [hkeeps.pdata, getElem?_setChannelDivider hspec, if_pos rfl] at hb
    obtain rfl := Option.some.inj hb
    rw [Programmed, hdiv]
    exact (toUInt32_toUInt16 (by omega)).symm
  have hothers : ∀ j, s.InStep j → t.InStep j := by
    intro j hj
    by_cases hself' : j = c.chan.toNat
    · rw [hself']
      exact hself
    · exact fun b hb => htouched.programmed hb hself' fun a ha _ => hj a ha
  refine ⟨spec, _, hspec, clkRoundRate_vco hne hspec hsource, ?_, ?_, ?_, hothers, ?_, ?_⟩
  · rw [RunsAt, if_pos hsource, hdiv, toNat_divRoundClosest (by lia), hkeeps.vcoOutFreq]
    exact nearest_div hpos
  · rw [hword]
    rw [hchan] at hfields
    exact ⟨sameFields_withDivider.driverMode.trans hfields.driverMode,
      sameFields_withDivider.phase.trans hfields.phase, sameFields_withDivider.ctrl.trans hfields.ctrl⟩
  · intro m hm hmn
    have hsame := outWord_otherThan hkeeps hm hnum hmn
    exact hsame
  · intro hk
    rw [KInStep, kWord_otherThan hkeeps hnum, hkeeps.pdata]
    exact hk
  · rw [if_pos hsource]
    exact hself

theorem coherent_sysref (hs : s.Sound) (hbyZero : s.byZero = false) (hrate : 0 < c.rate) (hc : s.CallAllowed c)
    (hspec : s.pdata.channels[c.chan.toNat]? = some spec) (hsource : spec.signalSource = AD9528_SYSREF) :
    s.Coherent c := by
  have hne : c.rate ≠ 0 := Word.ne_zero_of_pos (UInt32.lt_iff_toNat_lt.mp hrate)
  have hvco : ¬spec.signalSource = AD9528_VCO := by
    rw [hsource]
    decide
  obtain ⟨hpos, hle⟩ := kDiv_mem hne ((hc spec hspec).2 hsource)
  have hdiv : kDiv c.rate s.vcoOutFreq.vcxo ≠ 0 := Word.ne_zero_of_pos hpos
  have htouches := touches_clkSetRate hs hc hrate
  refine ⟨by rw [htouches.byZero, hbyZero], fun t hrun => ?_⟩
  rw [clkSetRate_sysref hne hspec hsource] at hrun
  have hkonly := (moves_programK hdiv).ensures s _ _ hrun
  obtain ⟨hword, hkept⟩ := ensures_programK hdiv (by omega) _ _ hrun
  have hk : t.KInStep := by
    rw [KInStep, hword, hkept]
    exact (toUInt32_toUInt16 (by omega)).symm
  refine ⟨spec, _, hspec, clkRoundRate_sysref hne hspec hsource hdiv, ?_, ?_, ?_, ?_, fun _ => hk, ?_⟩
  · have hvcxo := s.vcoOutFreq.vcxo.toNat_lt
    have hhalf : (s.vcoOutFreq.vcxo / 2).toNat = s.vcoOutFreq.vcxo.toNat / 2 := UInt32.toNat_div _ 2
    rw [RunsAt, if_neg hvco, hword, toNat_divRoundClosest (by lia), hhalf, hkonly.vcxo]
    exact nearest_half hpos
  · rw [outWord_congr (hs.num spec (List.mem_of_getElem? hspec)) hkonly.regs]
    exact ⟨rfl, rfl, rfl⟩
  · intro m hm _
    exact outWord_congr hm hkonly.regs
  · intro j hj b hb
    rw [hkonly.channels] at hb
    have hprogrammed := hj b hb
    rwa [Programmed, outWord_congr (hs.num b (List.mem_of_getElem? hb)) hkonly.regs]
  · rw [if_neg hvco]
    exact hk

/-- Every allowed call is coherent. -/
theorem CallAllowed.coherent (hc : s.CallAllowed c) (hs : s.Sound) (hbyZero : s.byZero = false) (hrate : 0 < c.rate) :
    s.Coherent c := by
  rcases hspec : s.pdata.channels[c.chan.toNat]? with _ | spec
  · have hfail : clkSetRate c.chan c.rate s = _ := clkSetRate_none hspec
    refine ⟨by rw [hfail]; exact hbyZero, fun t hrun => ?_⟩
    rw [hfail] at hrun
    exact absurd (Prod.mk.inj hrun).1 nofun
  · by_cases hvco : spec.signalSource = AD9528_VCO
    · exact coherent_vco hs hbyZero hrate hc hspec hvco
    · by_cases hsysref : spec.signalSource = AD9528_SYSREF
      · exact coherent_sysref hs hbyZero hrate hc hspec hsysref
      · have hfail : clkSetRate c.chan c.rate s = _ := clkSetRate_other hspec hvco hsysref
        refine ⟨by rw [hfail]; exact hbyZero, fun t hrun => ?_⟩
        rw [hfail] at hrun
        exact absurd (Prod.mk.inj hrun).1 nofun

lemma Touches.exists_entry (h : Touches s c t) {j : ℕ} {a : Ad9528ChannelSpec} (ha : s.pdata.channels[j]? = some a) :
    ∃ b, t.pdata.channels[j]? = some b ∧ b.signalSource = a.signalSource := by
  have hlen : t.pdata.channels.length = s.pdata.channels.length := by
    have hmap := congrArg List.length h.nums
    simpa using hmap
  have hj : j < t.pdata.channels.length := by
    rw [hlen]
    exact (List.getElem?_eq_some_iff.mp ha).1
  obtain ⟨a', ha', -, hsource, -⟩ := h.entry j _ (List.getElem?_eq_getElem hj)
  obtain rfl := Option.some.inj (ha.symm.trans ha')
  exact ⟨_, List.getElem?_eq_getElem hj, hsource⟩

/-- What holds in every state of a run. -/
structure Inv (h : History) : Prop extends Mirrored h where
  sound : h.dev.Sound

variable {h : History}

lemma Inv.step_ok (hinv : Inv h) (hcoherent : h.dev.Coherent c) (htouches : h.dev.Touches c t)
    (hrun : clkSetRate c.chan c.rate h.dev = (.ok (), t)) : Inv ⟨t, h.failed⟩ := by
  obtain ⟨spec, f, -, -, -, -, -, hkept, hk, -⟩ := hcoherent.success t hrun
  have hbyZero := hcoherent.byZero
  rw [hrun] at hbyZero
  refine ⟨⟨hbyZero, fun j b hb hdis hfailed => ?_, fun hfailed => ?_⟩, htouches.sound hinv.sound⟩
  · obtain ⟨a, ha, -, -, hdis', -⟩ := htouches.entry j b hb
    refine hkept j (fun a' ha' => hinv.entry j a' ha' ?_ hfailed) b hb
    rw [Option.some.inj (ha'.symm.trans ha), ← hdis', hdis]
  · refine hk (hinv.k fun j a ha hsource => ?_)
    obtain ⟨b, hb, hsame⟩ := htouches.exists_entry ha
    exact hfailed j b hb (hsame.trans hsource)

lemma Inv.step_error (hinv : Inv h) (hc : h.dev.CallAllowed c) (hrate : 0 < c.rate) (htouches : h.dev.Touches c t)
    {e : Int} (hrun : clkSetRate c.chan c.rate h.dev = (.error e, t)) :
    Inv ⟨t, Function.update h.failed c.chan.toNat true⟩ := by
  have hfailed_of : ∀ j, Function.update h.failed c.chan.toNat true j = false → j ≠ c.chan.toNat ∧ h.failed j = false := by
    intro j hj
    have hne : j ≠ c.chan.toNat := by
      rintro rfl
      rw [Function.update_self] at hj
      exact absurd hj (by decide)
    exact ⟨hne, by rwa [Function.update_of_ne hne] at hj⟩
  refine ⟨⟨htouches.byZero.trans hinv.byZero, fun j b hb hdis hfailed => ?_, fun hfailed => ?_⟩,
    htouches.sound hinv.sound⟩
  · obtain ⟨hj, hfailed⟩ := hfailed_of j hfailed
    exact htouches.programmed hb hj fun a ha heq => hinv.entry j a ha (heq ▸ hdis) hfailed
  · have hk : h.dev.KInStep := by
      refine hinv.k fun j a ha hsource => ?_
      obtain ⟨b, hb, hsame⟩ := htouches.exists_entry ha
      exact (hfailed_of j (hfailed j b hb (hsame.trans hsource))).2
    rcases clkSetRate_cases hc hrate with ⟨e', he⟩ | ⟨spec, hspec, -, hkeeps⟩ | ⟨spec, hspec, hsource, -⟩
    · obtain rfl := (Prod.mk.inj (he.symm.trans hrun)).2
      exact hk
    · rw [hrun] at hkeeps
      change kWord t.regs = t.pdata.sysrefKDiv.toUInt32
      rw [kWord_otherThan hkeeps (hinv.sound.num spec (List.mem_of_getElem? hspec)), hkeeps.pdata]
      exact hk
    · obtain ⟨b, hb, hsame⟩ := htouches.exists_entry hspec
      exact absurd rfl (hfailed_of _ (hfailed _ b hb (hsame.trans hsource))).1

lemma Inv.step (hinv : Inv h) (hc : h.dev.CallAllowed c) (hrate : 0 < c.rate) : Inv (step h c) := by
  have htouches := touches_clkSetRate hinv.sound hc hrate
  rcases hrun : clkSetRate c.chan c.rate h.dev with ⟨e | u, t⟩
  · rw [hrun] at htouches
    have hstep : Ad9528.step h c = ⟨t, Function.update h.failed c.chan.toNat true⟩ := by rw [Ad9528.step, hrun]
    rw [hstep]
    exact hinv.step_error hc hrate htouches hrun
  · rw [hrun] at htouches
    have hstep : Ad9528.step h c = ⟨t, h.failed⟩ := by rw [Ad9528.step, hrun]
    rw [hstep]
    exact hinv.step_ok (hc.coherent hinv.sound hinv.byZero hrate) htouches hrun

lemma Started.inv {p : Ad9528PlatformData} (hs : Started p s) (hp : p.Allowed)
    (hnum : ∀ chan ∈ p.channels, chan.channelNum < AD9528_NUM_CHAN) (hbyZero : s.byZero = false) :
    Inv ⟨s, fun _ => false⟩ := by
  refine ⟨⟨hbyZero, fun j spec hspec hdis _ => ?_, fun _ => ?_⟩, ⟨?_, ?_⟩⟩
  · change s.pdata.channels[j]? = some spec at hspec
    rw [hs.channels] at hspec
    have hmem := List.mem_of_getElem? hspec
    obtain ⟨hpos, hle⟩ := hp.dividers spec hmem hdis
    change AD9528_CLK_DIST_DIV_REV (outWord s.regs spec.channelNum) = spec.channelDivider.toUInt32
    rw [hs.outputs spec (mem_enabled.mpr ⟨hmem, hdis, hnum spec hmem⟩)]
    exact div_channelWord spec hpos hle
  · change kWord s.regs = s.pdata.sysrefKDiv.toUInt32
    rw [hs.k, hs.sysrefKDiv]
  · change ∀ spec ∈ s.pdata.channels, _
    rw [hs.channels]
    exact hnum
  · change (s.pdata.channels.map (·.channelNum)).Nodup
    rw [hs.channels]
    exact hp.apart

end Runs

open Trace

/-- For platform data and calls that are allowed, the setup and all calls divide by zero nowhere, the frequencies are
those of the platform data, the table agrees with the registers, and every call that succeeds is coherent. -/
theorem channel_rates_coherent (p : Ad9528PlatformData)
    (hnum : ∀ chan ∈ p.channels, chan.channelNum < AD9528_NUM_CHAN) (hp : p.Allowed) (s₀ : Ad9528)
    (hbyZero : s₀.byZero = false) : (setup p s₀).2.byZero = false ∧ ∀ s, setup p s₀ = (.ok (), s) →
      s.vcoOutFreq.vco.toNat = p.vcoOut ∧ s.vcoOutFreq.vcxo = p.vcxoFreq ∧
      ∀ calls : List SetRate, (∀ c ∈ calls, 0 < c.rate) →
        Guarded step (fun h c => h.dev.CallAllowed c) ⟨s, fun _ => false⟩ calls →
        Always step Mirrored ⟨s, fun _ => false⟩ calls ∧
        ∀ pre c, pre ++ [c] <+: calls → (run step ⟨s, fun _ => false⟩ pre).dev.Coherent c := by
  have hzero := moves_setup hp s₀ hbyZero
  refine ⟨hzero, fun s hrun => ?_⟩
  rw [hrun] at hzero
  have hstarted := started_setup hp () s hrun
  refine ⟨hstarted.vco, hstarted.vcxo, fun calls hrates hcalls => ?_⟩
  have hguarded : Guarded step (fun h c => h.dev.CallAllowed c ∧ 0 < c.rate) ⟨s, fun _ => false⟩ calls := by
    intro pre c hpre
    exact ⟨hcalls pre c hpre, hrates c (hpre.subset (List.mem_append_right pre (List.mem_singleton_self c)))⟩
  have halways : Always step Inv ⟨s, fun _ => false⟩ calls :=
    hguarded.always (hstarted.inv hp hnum hzero) fun h c hinv hc => hinv.step hc.1 hc.2
  refine ⟨halways.mono fun h hinv => hinv.toMirrored, fun pre c hpre => ?_⟩
  have hinv := halways pre ((List.prefix_append pre [c]).trans hpre)
  obtain ⟨hc, hrate⟩ := hguarded pre c hpre
  exact hc.coherent hinv.sound hinv.byZero hrate

/-- A device that answers with its magic number and is locked. -/
def lockedDevice (p : Ad9528PlatformData) : Ad9528 where
  pdata := p
  vcoOutFreq := ⟨0, 0, 0⟩
  regs r := if r = 0x3 then 0x05 else if r = 0x4 then 0xFF else 0
  codes _ := 0
  status _ := 0x22
  transfers := 0
  byZero := false

/-- A VCXO of 122.88 MHz and a VCO of 3686.4 MHz, which is divided by three. -/
def platformData (channels : List Ad9528ChannelSpec) : Ad9528PlatformData where
  vcxoFreq := 122880000
  refaEn := true
  refbEn := false
  refaDiffRcvEn := true
  refbDiffRcvEn := false
  oscInDiffEn := false
  refaCmosNegInpEn := false
  refbCmosNegInpEn := false
  oscInCmosNegInpEn := false
  refaRDiv := 1
  refbRDiv := 1
  pll1FeedbackDiv := 4
  pll1FeedbackSrcVcxo := false
  pll1ChargePumpCurrentNA := 5000
  pll1BypassEn := false
  refMode := 0
  sysrefSrc := 2
  sysrefKDiv := 512
  pll2ChargePumpCurrentNA := 805000
  pll2FreqDoublerEn := false
  pll2R1Div := 1
  pll2N2Div := 10
  pll2VcoDivM1 := 3
  pll2BypassEn := false
  rpole2 := 0
  rzero := 7
  cpole1 := 2
  rzeroBypassEn := false
  channels := channels
  stat0PinFuncSel := 0xFF
  stat1PinFuncSel := 0xFF

/-- A channel with a divider of five. -/
def channel (num driverMode source : UInt8) : Ad9528ChannelSpec where
  channelNum := num
  syncIgnoreEn := false
  outputDis := false
  driverMode := driverMode
  signalSource := source
  dividerPhase := 0
  channelDivider := 5

instance decidableSameFields (a b : UInt32) : Decidable (SameFields a b) :=
  decidable_of_iff (AD9528_CLK_DIST_DRIVER_MODE_REV a = AD9528_CLK_DIST_DRIVER_MODE_REV b ∧
      AD9528_CLK_DIST_DIV_PHASE_REV a = AD9528_CLK_DIST_DIV_PHASE_REV b ∧
      AD9528_CLK_DIST_CTRL_REV a = AD9528_CLK_DIST_CTRL_REV b)
    ⟨fun h => ⟨h.1, h.2.1, h.2.2⟩, fun h => ⟨h.driverMode, h.phase, h.ctrl⟩⟩

instance decidableCallAllowed (s : Ad9528) (c : SetRate) : Decidable (s.CallAllowed c) :=
  inferInstanceAs (Decidable (∀ spec ∈ s.pdata.channels[c.chan.toNat]?, _ ∧ _))

lemma eq_ok_of_isOk {x : Fallible Ad9528 Unit} {s : Ad9528} (hok : (x s).1.isOk = true) : x s = (.ok (), (x s).2) := by
  rcases hrun : x s with ⟨e | u, t⟩
  · rw [hrun] at hok
    exact absurd hok nofun
  · rfl

theorem channel_rates_coherent_at :
    ∃ s, setup (platformData [channel 0 0 0, channel 13 2 2]) (lockedDevice (platformData [])) = (.ok (), s) ∧
      s.vcoOutFreq.vco.toNat = 1228800000 ∧
      Always step Mirrored ⟨s, fun _ => false⟩ [⟨0, 245760000⟩, ⟨1, 120000⟩, ⟨2, 1⟩] := by
  have hrun := eq_ok_of_isOk (x := setup (platformData [channel 0 0 0, channel 13 2 2]))
    (s := lockedDevice (platformData [])) (by decide +kernel)
  have hallowed : (platformData [channel 0 0 0, channel 13 2 2]).Allowed :=
    ⟨by decide, by decide, by decide, by decide⟩
  have hstart := (channel_rates_coherent _ (by decide) hallowed (lockedDevice (platformData [])) rfl).2 _ hrun
  exact ⟨_, hrun, hstart.1, (hstart.2.2 _ (by decide) (by decide +kernel)).1⟩

/-- With the entries in the other order the output takes over the driver mode of another one. -/
theorem channel_rates_not_coherent :
    ∃ s, setup (platformData [channel 1 0 0, channel 0 2 0]) (lockedDevice (platformData [])) = (.ok (), s) ∧
      ¬s.Coherent ⟨0, 245760000⟩ := by
  have hrun := eq_ok_of_isOk (x := setup (platformData [channel 1 0 0, channel 0 2 0]))
    (s := lockedDevice (platformData [])) (by decide +kernel)
  refine ⟨_, hrun, fun h => ?_⟩
  have hcall := eq_ok_of_isOk (x := clkSetRate 0 245760000)
    (s := (setup (platformData [channel 1 0 0, channel 0 2 0]) (lockedDevice (platformData []))).2) (by decide +kernel)
  obtain ⟨spec, f, hspec, -, -, hfields, -⟩ := h.success _ hcall
  have hnum : ((setup (platformData [channel 1 0 0, channel 0 2 0]) (lockedDevice (platformData []))).2.pdata.channels[0]?).map
      (·.channelNum) = some 1 := by decide +kernel
  have hone : spec.channelNum = 1 := by
    change (Option.map _ ((setup _ _).2.pdata.channels[(0 : UInt32).toNat]?)) = _ at hnum
    rw [hspec] at hnum
    exact Option.some.inj hnum
  rw [hone] at hfields
  exact absurd hfields.driverMode (by decide +kernel)

end Ad9528

end NoOS
