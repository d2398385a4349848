import Mathlib.Data.List.Chain
import NoOS.Drivers.Ad9361Ensm
import NoOS.Drivers.AxiAdcCore
import NoOS.Lib.RegisterFile

/-!
# The loopbacks of the AD9361

`ad9361_hdl_loopback` lets the FPGA send what it receives. Up to version 7 of the core there is a bit for it in a
register of each channel. Later versions have a value of the data select register instead, and the driver keeps
what was in the register before.
-/

namespace NoOS

def REG_TX_ENABLE_FILTER_CTRL : UInt32 := 0x002
def REG_PARALLEL_PORT_CONF_3 : UInt32 := 0x012
def REG_OBSERVE_CONFIG : UInt32 := 0x3F5
def TX_CHANNEL_ENABLE (x : UInt32) : UInt32 := (x &&& 0x3) <<< 6
def TX_1 : UInt32 := 1
def TX_2 : UInt32 := 2
def HALF_DUPLEX_MODE : UInt32 := 0x8
def SINGLE_PORT_MODE : UInt32 := 0x4
def DATA_PORT_SP_HD_LOOP_TEST_OE : UInt32 := 0x80
def DATA_PORT_LOOP_TEST_ENABLE : UInt32 := 0x1

def pcoreVersionMajor (version : UInt32) : UInt32 := version >>> 16

/-- The register of a channel, and `scratch_reg` for it. -/
structure DataSelect where
  scratch : UInt32
  reg : UInt32
  deriving DecidableEq

namespace DataSelect

/-- A pass of the loop over the channels. -/
def hdlLoopback (major : UInt32) (d : DataSelect) (enable : Bool) : DataSelect :=
  if major > 7 then
    if enable ∧ d.reg ≠ 0x8 then ⟨d.reg, 0x8⟩
    else if d.reg = 0x8 then { d with reg := d.scratch }
    else d
  else if enable then { d with reg := d.reg ||| 0x2 }
  else { d with reg := d.reg &&& ~~~0x2 }

def Active (major : UInt32) (d : DataSelect) : Prop := if major > 7 then d.reg = 0x8 else d.reg &&& 0x2 ≠ 0

instance (major : UInt32) (d : DataSelect) : Decidable (d.Active major) :=
  inferInstanceAs (Decidable (if major > 7 then d.reg = 0x8 else d.reg &&& 0x2 ≠ 0))

/-- The channel after a sequence of requests. -/
def run (major : UInt32) (requests : List Bool) (d : DataSelect) : DataSelect := requests.foldl (hdlLoopback major) d

variable {major : UInt32} {requests : List Bool} {d : DataSelect} {r : Bool}

lemma run_concat : d.run major (requests ++ [r]) = (d.run major requests).hdlLoopback major r := List.foldl_concat ..

/-- Unless loopback is enabled twice in a row, a later core has the saved value back when it is disabled. -/
lemma run_of_chain (hmajor : major > 7) (hd : d.reg ≠ 0x8)
    (h : requests.IsChain fun a b => ¬(a = true ∧ b = true)) :
    (requests.getLast? = some true → d.run major requests = ⟨d.reg, 0x8⟩) ∧
      (requests.getLast? ≠ some true → (d.run major requests).reg = d.reg) := by
  induction requests using List.reverseRecOn with
  | nil => exact ⟨nofun, fun _ => rfl⟩
  | append_singleton requests r ih =>
    obtain ⟨hchain, -, hlast⟩ := List.isChain_append.mp h
    obtain ⟨hon, hoff⟩ := ih hchain
    rw [List.getLast?_concat, run_concat, hdlLoopback, if_pos hmajor]
    cases r with
    | false =>
      refine ⟨nofun, fun _ => ?_⟩
      rw [if_neg (by simp)]
      by_cases htrue : requests.getLast? = some true
      · rw [hon htrue, if_pos rfl]
      · rw [if_neg (by rw [hoff htrue]; exact hd), hoff htrue]
    | true =>
      have hfalse : requests.getLast? ≠ some true := fun htrue => hlast true htrue true rfl ⟨rfl, rfl⟩
      refine ⟨fun _ => ?_, fun hne => absurd rfl hne⟩
      rw [if_pos ⟨rfl, by rw [hoff hfalse]; exact hd⟩, hoff hfalse]

lemma run_twice (hmajor : major > 7) (hd : d.reg ≠ 0x8) (h : requests.IsChain fun a b => ¬(a = true ∧ b = true))
    (hlast : requests.getLast? = some true) : (d.run major (requests ++ [true])).reg = d.reg := by
  rw [run_concat, (run_of_chain hmajor hd h).1 hlast, hdlLoopback, if_pos hmajor, if_neg fun hne => hne.2 rfl, if_pos rfl]

lemma run_bit (hmajor : ¬major > 7) : (d.run major (requests ++ [r])).reg =
    if r then d.reg ||| 0x2 else d.reg &&& ~~~0x2 := by
  have hset : ∀ a : UInt32, (a ||| 0x2) ||| 0x2 = a ||| 0x2 ∧ (a &&& ~~~0x2) ||| 0x2 = a ||| 0x2 ∧
      (a ||| 0x2) &&& ~~~0x2 = a &&& ~~~0x2 ∧ (a &&& ~~~0x2) &&& ~~~0x2 = a &&& ~~~0x2 := by
    intro a
    refine ⟨?_, ?_, ?_, ?_⟩ <;>
    · apply RegisterFile.ext_bits
      intro k hk
      simp only [UInt32.toBitVec_and, UInt32.toBitVec_or, UInt32.toBitVec_not, BitVec.getElem_and, BitVec.getElem_or,
        BitVec.getElem_not]
      grind
  induction requests using List.reverseRecOn generalizing r with
  | nil => cases r <;> simp [run, hdlLoopback, hmajor]
  | append_singleton requests r' ih =>
    obtain ⟨hor, hclear, hand, hkeep⟩ := hset d.reg
    rw [run_concat, hdlLoopback, if_neg hmajor]
    cases r <;> cases r' <;> simp [@ih true, @ih false, hor, hclear, hand, hkeep]

end DataSelect

/-- What the loopbacks use of `ad9361_rf_phy`. `AD9364_DEVICE` is a setting of the project. -/
structure LoopbackPhy where
  ad9364Device : Bool
  rx2tx2 : Bool
  rx1tx1ModeUseRxNum : UInt32
  rx1tx1ModeUseTxNum : UInt32
  bistLoopbackMode : Int
  numChannels : ℕ
  channels_pos : 0 < numChannels
  /-- `scratch_reg` has 16 elements. -/
  channels_le : numChannels ≤ 16
  scratchReg : ℕ → UInt32
  adcRegs : AdcRegs
  spi : SpiLog

namespace LoopbackPhy

/-- The major version of the core. -/
def major (phy : LoopbackPhy) : UInt32 := pcoreVersionMajor (phy.adcRegs 0x4000)

def dataSelectAddr (major : UInt32) (chan : ℕ) : UInt32 :=
  (if major > 7 then 0x4418 else 0x4414) + UInt32.ofNat chan * 0x40

def channel (major : UInt32) (phy : LoopbackPhy) (chan : ℕ) : DataSelect :=
  ⟨phy.scratchReg chan, phy.adcRegs (dataSelectAddr major chan)⟩

def hdlLoopbackChan (major : UInt32) (enable : Bool) (phy : LoopbackPhy) (chan : ℕ) : LoopbackPhy :=
  let d := (phy.channel major chan).hdlLoopback major enable
  { phy with
    scratchReg := Function.update phy.scratchReg chan d.scratch
    adcRegs := Function.update phy.adcRegs (dataSelectAddr major chan) d.reg }

def hdlLoopback (phy : LoopbackPhy) (enable : Bool) : LoopbackPhy :=
  Passes.run (hdlLoopbackChan phy.major enable) phy.numChannels phy

def spiRead (bus : SpiBus) (reg : UInt32) (spi : SpiLog) : UInt32 × SpiLog :=
  let (buf, spi) := spi.read bus reg
  match buf with
  | .ok buf => (buf.toUInt32, spi)
  -- the code of an error is taken for the byte
  | .error ret => (UInt32.ofInt ret, spi)

def enDisTx (phy : LoopbackPhy) (bus : SpiBus) (txIf enable : UInt32) : Int × LoopbackPhy :=
  if txIf &&& enable > 1 ∧ phy.ad9364Device ∧ enable ≠ 0 then (-EINVAL, phy)
  else
    let (ret, spi) := phy.spi.writef bus REG_TX_ENABLE_FILTER_CTRL (TX_CHANNEL_ENABLE txIf) 6 enable
    (ret, { phy with spi := spi })

def intLoopbackFixChCross (phy : LoopbackPhy) (bus : SpiBus) (enable : Bool) : Int × LoopbackPhy :=
  if ¬phy.rx2tx2 ∧ phy.rx1tx1ModeUseRxNum ≠ phy.rx1tx1ModeUseTxNum then
    phy.enDisTx bus (TX_1 ||| TX_2) (if enable then phy.rx1tx1ModeUseRxNum else phy.rx1tx1ModeUseTxNum)
  else (0, phy)

def bistLoopback (phy : LoopbackPhy) (bus : SpiBus) (mode : Int) : Int × LoopbackPhy :=
  let (reg, spi) := spiRead bus REG_OBSERVE_CONFIG phy.spi
  let phy := { phy with spi := spi, bistLoopbackMode := mode }
  if mode = 0 ∨ mode = 2 then
    let phy := phy.hdlLoopback (decide (mode = 2))
    let phy := (phy.intLoopbackFixChCross bus false).2
    let reg := reg &&& ~~~(DATA_PORT_SP_HD_LOOP_TEST_OE ||| DATA_PORT_LOOP_TEST_ENABLE)
    let (ret, spi) := phy.spi.write bus REG_OBSERVE_CONFIG reg
    (ret, { phy with spi := spi })
  else if mode = 1 then
    let phy := phy.hdlLoopback false
    let phy := (phy.intLoopbackFixChCross bus true).2
    let (spHd, spi) := spiRead bus REG_PARALLEL_PORT_CONF_3 phy.spi
    let reg := if spHd &&& SINGLE_PORT_MODE ≠ 0 ∧ spHd &&& HALF_DUPLEX_MODE ≠ 0
      then reg ||| DATA_PORT_SP_HD_LOOP_TEST_OE else reg &&& ~~~DATA_PORT_SP_HD_LOOP_TEST_OE
    let (ret, spi) := spi.write bus REG_OBSERVE_CONFIG (reg ||| DATA_PORT_LOOP_TEST_ENABLE)
    (ret, { phy with spi := spi })
  else (-EINVAL, phy)

end LoopbackPhy

inductive LoopbackCall where
  | hdl (enable : Bool)
  | bist (mode : Int)

/-- Whether a call asks for FPGA loopback. A refused mode asks for nothing. -/
def LoopbackCall.request : LoopbackCall → Option Bool
  | .hdl enable => some enable
  | .bist mode => if mode = 2 then some true else if mode = 0 ∨ mode = 1 then some false else none

def requests (calls : List LoopbackCall) : List Bool := calls.filterMap LoopbackCall.request

namespace LoopbackPhy

def call (bus : SpiBus) (phy : LoopbackPhy) : LoopbackCall → LoopbackPhy
  | .hdl enable => phy.hdlLoopback enable
  | .bist mode => (phy.bistLoopback bus mode).2

def run (bus : SpiBus) (phy : LoopbackPhy) (calls : List LoopbackCall) : LoopbackPhy := calls.foldl (call bus) phy

/-- Loopback is active on all channels if and only if it was requested last, and the data selects are as before
whenever it is not. -/
structure Right (before after : LoopbackPhy) (requested : Bool) : Prop where
  active : (∀ chan < after.numChannels, (after.channel after.major chan).Active after.major) ↔ requested = true
  restored : (¬∀ chan < after.numChannels, (after.channel after.major chan).Active after.major) →
    ∀ chan < before.numChannels, after.adcRegs (dataSelectAddr before.major chan) =
      before.adcRegs (dataSelectAddr before.major chan)

/-- The data selects are right after every call. -/
def AlwaysRight (bus : SpiBus) (phy : LoopbackPhy) (calls : List LoopbackCall) : Prop :=
  ∀ done, done <+: calls → ∀ r, (requests done).getLast? = some r → Right phy (phy.run bus done) r

/-- The later cores are not to be asked twice in a row. The earlier ones had no loopback, or never disable it. -/
def Requestable (phy : LoopbackPhy) (requests : List Bool) : Prop :=
  if phy.major > 7 then requests.IsChain fun a b => ¬(a = true ∧ b = true)
  else (∀ chan < phy.numChannels, phy.adcRegs (dataSelectAddr phy.major chan) &&& 0x2 = 0) ∨ ∀ r ∈ requests, r = true

variable {phy phy' : LoopbackPhy} {bus : SpiBus} {enable : Bool} {chan : ℕ}

/-- The registers of the channels are apart from each other and from the version. -/
lemma dataSelectAddr_ne {i j : ℕ} (major : UInt32) (hi : i < 16) (hj : j < 16) (h : j ≠ i) :
    dataSelectAddr major j ≠ dataSelectAddr major i := by
  have hall : ∀ i < 16, ∀ j < 16, j ≠ i → 0x4418 + UInt32.ofNat j * 0x40 ≠ 0x4418 + UInt32.ofNat i * 0x40 ∧
      0x4414 + UInt32.ofNat j * 0x40 ≠ 0x4414 + UInt32.ofNat i * 0x40 := by decide
  unfold dataSelectAddr
  split_ifs
  · exact (hall i hi j hj h).1
  · exact (hall i hi j hj h).2

lemma version_ne {i : ℕ} (major : UInt32) (hi : i < 16) : 0x4000 ≠ dataSelectAddr major i := by
  have hall : ∀ i < 16, 0x4000 ≠ 0x4418 + UInt32.ofNat i * 0x40 ∧ 0x4000 ≠ 0x4414 + UInt32.ofNat i * 0x40 := by
    decide
  unfold dataSelectAddr
  split_ifs
  · exact (hall i hi).1
  · exact (hall i hi).2

/-- What a call leaves of the channels after it has asked for loopback, or has not. -/
structure Follows (phy phy' : LoopbackPhy) (request : Option Bool) : Prop where
  numChannels : phy'.numChannels = phy.numChannels
  major : phy'.major = phy.major
  channel : ∀ chan < phy.numChannels, phy'.channel phy.major chan =
    request.elim (phy.channel phy.major chan) fun r => (phy.channel phy.major chan).hdlLoopback phy.major r

lemma hdlLoopback_follows : Follows phy (phy.hdlLoopback enable) (some enable) := by
  have hversion : (phy.hdlLoopback enable).adcRegs 0x4000 = phy.adcRegs 0x4000 :=
    Passes.run_keeps (fun t : LoopbackPhy => t.adcRegs 0x4000) fun t i hi =>
      Function.update_of_ne (version_ne _ (hi.trans_le phy.channels_le)) _ _
  have hself : ∀ t i, i < phy.numChannels → (hdlLoopbackChan phy.major enable t i).channel phy.major i =
      (t.channel phy.major i).hdlLoopback phy.major enable := by
    intro t i _
    exact congrArg₂ DataSelect.mk (Function.update_self ..) (Function.update_self ..)
  have hother : ∀ t i j, i < phy.numChannels → j < phy.numChannels → j ≠ i →
      (hdlLoopbackChan phy.major enable t i).channel phy.major j = t.channel phy.major j := by
    intro t i j hi hj hji
    have hne := dataSelectAddr_ne phy.major (hi.trans_le phy.channels_le) (hj.trans_le phy.channels_le) hji
    exact congrArg₂ DataSelect.mk (Function.update_of_ne hji ..) (Function.update_of_ne hne ..)
  constructor
  · exact Passes.run_keeps LoopbackPhy.numChannels fun _ _ _ => rfl
  · exact congrArg pcoreVersionMajor hversion
  · intro chan hchan
    exact Passes.run_cell (channel phy.major) (fun _ d => d.hdlLoopback phy.major enable) hself hother hchan

lemma intLoopbackFixChCross_eq : ∃ spi, (phy.intLoopbackFixChCross bus enable).2 = { phy with spi := spi } := by
  unfold intLoopbackFixChCross enDisTx
  split_ifs <;> exact ⟨_, rfl⟩

lemma Follows.withSpi {request : Option Bool} (h : Follows phy phy' request) (spi : SpiLog) :
    Follows phy { phy' with spi := spi } request := ⟨h.numChannels, h.major, h.channel⟩

lemma call_follows (c : LoopbackCall) : Follows phy (phy.call bus c) c.request := by
  cases c with
  | hdl enable => exact hdlLoopback_follows
  | bist mode =>
    have hstart : ∀ e, Follows phy ({ phy with
        spi := (spiRead bus REG_OBSERVE_CONFIG phy.spi).2, bistLoopbackMode := mode }.hdlLoopback e) (some e) := by
      intro e
      have hfollows := @hdlLoopback_follows { phy with
        spi := (spiRead bus REG_OBSERVE_CONFIG phy.spi).2, bistLoopbackMode := mode } e
      exact ⟨hfollows.numChannels, hfollows.major, hfollows.channel⟩
    have hfix : ∀ e fix spi, Follows phy { ({ phy with
        spi := (spiRead bus REG_OBSERVE_CONFIG phy.spi).2, bistLoopbackMode := mode }.hdlLoopback
          e).intLoopbackFixChCross bus fix |>.2 with spi := spi } (some e) := by
      intro e fix spi
      obtain ⟨spi', heq⟩ := @intLoopbackFixChCross_eq ({ phy with
        spi := (spiRead bus REG_OBSERVE_CONFIG phy.spi).2, bistLoopbackMode := mode }.hdlLoopback e) bus fix
      rw [heq]
      exact (hstart e).withSpi spi
    unfold call bistLoopback LoopbackCall.request
    dsimp only
    by_cases h2 : mode = 2
    · rw [if_pos (Or.inr h2), if_pos h2, decide_eq_true h2]
      exact hfix true _ _
    · rw [if_neg h2]
      by_cases h0 : mode = 0
      · rw [if_pos (Or.inl h0), if_pos (Or.inl h0), decide_eq_false h2]
        exact hfix false _ _
      · rw [if_neg (not_or.mpr ⟨h0, h2⟩)]
        by_cases h1 : mode = 1
        · rw [if_pos h1, if_pos (Or.inr h1)]
          exact hfix false _ _
        · rw [if_neg h1, if_neg (not_or.mpr ⟨h0, h1⟩)]
          exact ⟨rfl, rfl, fun _ _ => rfl⟩

/-- After any calls, each channel is as its requests alone leave it. -/
lemma run_follows (calls : List LoopbackCall) : (phy.run bus calls).numChannels = phy.numChannels ∧
    (phy.run bus calls).major = phy.major ∧ ∀ chan < phy.numChannels,
      (phy.run bus calls).channel phy.major chan = (phy.channel phy.major chan).run phy.major (requests calls) := by
  induction calls using List.reverseRecOn with
  | nil => exact ⟨rfl, rfl, fun _ _ => rfl⟩
  | append_singleton calls c ih =>
    obtain ⟨hnum, hmajor, hchannel⟩ := ih
    have hcall := @call_follows (phy.run bus calls) bus c
    have hrun : phy.run bus (calls ++ [c]) = (phy.run bus calls).call bus c := List.foldl_concat ..
    rw [hrun]
    refine ⟨hcall.numChannels.trans hnum, hcall.major.trans hmajor, fun chan hchan => ?_⟩
    have hstep := hcall.channel chan (hnum.symm ▸ hchan)
    rw [hmajor, hchannel chan hchan] at hstep
    rw [hstep, requests, requests, List.filterMap_append]
    cases hreq : c.request with
    | none => simp [hreq]
    | some r => simp [hreq, DataSelect.run_concat]

/-- The states after the calls are right if and only if the channels are that their requests lead to. -/
lemma right_iff {calls : List LoopbackCall} {r : Bool} : Right phy (phy.run bus calls) r ↔
    ((∀ chan < phy.numChannels, ((phy.channel phy.major chan).run phy.major (requests calls)).Active phy.major) ↔
      r = true) ∧
    ((¬∀ chan < phy.numChannels, ((phy.channel phy.major chan).run phy.major (requests calls)).Active phy.major) →
      ∀ chan < phy.numChannels, ((phy.channel phy.major chan).run phy.major (requests calls)).reg =
        (phy.channel phy.major chan).reg) := by
  obtain ⟨hnum, hmajor, hchannel⟩ := @run_follows phy bus calls
  have hactive : (∀ chan < (phy.run bus calls).numChannels,
      ((phy.run bus calls).channel (phy.run bus calls).major chan).Active (phy.run bus calls).major) ↔
      ∀ chan < phy.numChannels, ((phy.channel phy.major chan).run phy.major (requests calls)).Active phy.major := by
    rw [hnum, hmajor]
    exact forall₂_congr fun chan hchan => by rw [hchannel chan hchan]
  have hreg : (∀ chan < phy.numChannels, (phy.run bus calls).adcRegs (dataSelectAddr phy.major chan) =
      phy.adcRegs (dataSelectAddr phy.major chan)) ↔
      ∀ chan < phy.numChannels, ((phy.channel phy.major chan).run phy.major (requests calls)).reg =
        (phy.channel phy.major chan).reg :=
    forall₂_congr fun chan hchan => by rw [← hchannel chan hchan]; rfl
  constructor
  · rintro ⟨ha, hr⟩
    exact ⟨hactive.symm.trans ha, fun h => hreg.mp (hr (hactive.not.mpr h))⟩
  · rintro ⟨ha, hr⟩
    exact ⟨hactive.trans ha, fun h => hreg.mpr (hr (hactive.not.mp h))⟩

lemma right_of_chain {calls : List LoopbackCall} {r : Bool} (hmajor : phy.major > 7)
    (hprior : ∀ chan < phy.numChannels, (phy.channel phy.major chan).reg ≠ 0x8)
    (h : (requests calls).IsChain fun a b => ¬(a = true ∧ b = true)) (hlast : (requests calls).getLast? = some r) :
    Right phy (phy.run bus calls) r := by
  rw [right_iff]
  simp only [DataSelect.Active, if_pos hmajor]
  cases r with
  | false =>
    have hreg : ∀ chan < phy.numChannels, ((phy.channel phy.major chan).run phy.major (requests calls)).reg =
        (phy.channel phy.major chan).reg := by
      intro chan hchan
      exact (DataSelect.run_of_chain hmajor (hprior chan hchan) h).2 (by rw [hlast]; decide)
    refine ⟨iff_of_false (fun hall => ?_) nofun, fun _ => hreg⟩
    exact hprior 0 phy.channels_pos ((hreg 0 phy.channels_pos).symm.trans (hall 0 phy.channels_pos))
  | true =>
    have hall : ∀ chan < phy.numChannels, ((phy.channel phy.major chan).run phy.major (requests calls)).reg = 0x8 := by
      intro chan hchan
      rw [(DataSelect.run_of_chain hmajor (hprior chan hchan) h).1 hlast]
    exact ⟨iff_of_true hall rfl, fun hnot => absurd hall hnot⟩

/-- For a later core, the second request in a row is the first thing that goes wrong. -/
lemma later_iff {calls : List LoopbackCall} (hmajor : phy.major > 7)
    (hprior : ∀ chan < phy.numChannels, (phy.channel phy.major chan).reg ≠ 0x8) :
    AlwaysRight bus phy calls ↔ (requests calls).IsChain fun a b => ¬(a = true ∧ b = true) := by
  constructor
  · intro h
    induction calls using List.reverseRecOn with
    | nil => exact List.IsChain.nil
    | append_singleton calls c ih =>
      have hchain := ih fun done hdone => h done (hdone.trans (List.prefix_append calls [c]))
      cases hreq : c.request with
      | none =>
        have hsame : requests (calls ++ [c]) = requests calls := by
          rw [requests, List.filterMap_append]
          simp [hreq, requests]
        exact hsame.symm ▸ hchain
      | some r =>
        have hsnoc : requests (calls ++ [c]) = requests calls ++ [r] := by
          rw [requests, List.filterMap_append]
          simp [hreq, requests]
        rw [hsnoc, List.isChain_append]
        refine ⟨hchain, List.IsChain.singleton r, ?_⟩
        rintro x hx y hy ⟨rfl, rfl⟩
        obtain rfl : r = true := Option.some.inj hy
        have hright := h (calls ++ [c]) List.prefix_rfl true (by rw [hsnoc, List.getLast?_concat])
        have hactive := (right_iff.mp hright).1.mpr rfl 0 phy.channels_pos
        rw [hsnoc, DataSelect.Active, if_pos hmajor,
          DataSelect.run_twice hmajor (hprior 0 phy.channels_pos) hchain hx] at hactive
        exact hprior 0 phy.channels_pos hactive
  · rintro h done ⟨rest, rfl⟩ r hlast
    rw [requests, List.filterMap_append] at h
    exact right_of_chain hmajor hprior h.left_of_append hlast

/-- An earlier core loses the bit for loopback when it is disabled, and nothing else. -/
lemma earlier_iff {calls : List LoopbackCall} (hmajor : ¬phy.major > 7) :
    AlwaysRight bus phy calls ↔ (∀ chan < phy.numChannels, phy.adcRegs (dataSelectAddr phy.major chan) &&& 0x2 = 0) ∨
        ∀ r ∈ requests calls, r = true := by
  have hset : ∀ a : UInt32, (a ||| 0x2) &&& 0x2 ≠ 0 := by
    intro a ha
    have hbit := congrArg (fun x : UInt32 => x.toBitVec[1]) ha
    simp [UInt32.toBitVec_and, UInt32.toBitVec_or] at hbit
  have hclear : ∀ a : UInt32, (a &&& ~~~0x2) &&& 0x2 = 0 := by
    intro a
    rw [UInt32.and_assoc]
    exact UInt32.and_zero
  have hkeep : ∀ a : UInt32, a &&& 0x2 = 0 → a &&& ~~~0x2 = a := by
    intro a ha
    apply RegisterFile.ext_bits
    intro k hk
    have hbit := congrArg (fun x : UInt32 => x.toBitVec[k]) ha
    have hzero : (0 : UInt32).toBitVec[k] = false := BitVec.getElem_zero hk
    simp only [UInt32.toBitVec_and, UInt32.toBitVec_not, BitVec.getElem_and, BitVec.getElem_not, hzero] at hbit ⊢
    grind
  constructor
  · intro h
    by_contra hnot
    obtain ⟨hbits, hfalse⟩ := not_or.mp hnot
    push Not at hbits hfalse
    obtain ⟨chan, hchan, hbit⟩ := hbits
    obtain ⟨r, hr, hne⟩ := hfalse
    obtain rfl := Bool.eq_false_of_not_eq_true hne
    obtain ⟨l, rest, hsplit⟩ := List.append_of_mem hr
    have hpre : l ++ [false] <+: requests calls := ⟨rest, by rw [hsplit, List.append_assoc]; rfl⟩
    obtain ⟨done, hdone, hreq⟩ := List.prefix_filterMap_iff.mp hpre
    have hright := h done hdone false (by rw [requests, ← hreq, List.getLast?_concat])
    obtain ⟨hactive, hrestored⟩ := right_iff.mp hright
    have hreg := hrestored (fun hall => absurd (hactive.mp hall) nofun) chan hchan
    rw [requests, ← hreq, DataSelect.run_bit hmajor] at hreg
    have hlost : (phy.channel phy.major chan).reg &&& 0x2 = 0 := by
      rw [← hreg]
      exact hclear _
    exact hbit hlost
  · intro h done hdone r hlast
    obtain ⟨l, hreq⟩ := List.getLast?_eq_some_iff.mp hlast
    rw [right_iff, hreq]
    simp only [DataSelect.Active, if_neg hmajor, DataSelect.run_bit hmajor]
    cases r with
    | true => exact ⟨iff_of_true (fun chan _ => hset _) rfl, fun hnot => absurd (fun chan _ => hset _) hnot⟩
    | false =>
      have hdonemem : false ∈ requests done := hreq.symm ▸ List.mem_append_right l List.mem_cons_self
      have hmem : false ∈ requests calls := (hdone.filterMap _).subset hdonemem
      have hbits := h.resolve_right fun hall => absurd (hall false hmem) nofun
      refine ⟨iff_of_false (fun hall => hall 0 phy.channels_pos (hclear _)) nofun, fun _ chan hchan => ?_⟩
      exact hkeep _ (hbits chan hchan)

/-- After every call the channels are right if and only if the requests suit the version of the core. -/
theorem loopback_iff (bus : SpiBus) (phy : LoopbackPhy) (calls : List LoopbackCall)
    (hprior : phy.major > 7 → ∀ chan < phy.numChannels, phy.adcRegs (dataSelectAddr phy.major chan) ≠ 0x8) :
    AlwaysRight bus phy calls ↔ phy.Requestable (requests calls) := by
  unfold Requestable
  split_ifs with hmajor
  · exact later_iff hmajor (hprior hmajor)
  · exact earlier_iff hmajor

/-- The bus of a device that answers every read with 0. -/
def quietBus : SpiBus := ⟨fun _ _ => 0, fun _ _ => .ok 0⟩

/-- An AD9361 at a core of version 10. -/
def versionTen : LoopbackPhy :=
  ⟨false, true, 1, 1, 0, 4, by decide, by decide, fun _ => 0, fun addr => if addr = 0x4000 then 0x000a0000 else 0,
    ⟨0, []⟩⟩

theorem loopback_at : AlwaysRight quietBus versionTen [.bist 2, .bist 0, .hdl true] := by
  apply (loopback_iff quietBus versionTen _ (by decide)).mpr
  rw [Requestable, if_pos (by decide)]
  decide

/-- Loopback that is enabled twice is not active. -/
theorem not_loopback : (requests [.hdl true, .hdl true]).getLast? = some true ∧
    ¬Right versionTen (versionTen.run quietBus [.hdl true, .hdl true]) true := by
  refine ⟨rfl, fun h => ?_⟩
  have hactive := (right_iff.mp h).1.mpr rfl 0 (by decide)
  exact absurd hactive (by decide)

end LoopbackPhy

end NoOS
