import NoOS.Drivers.AxiAdxcvrReadBack
import NoOS.Drivers.XilinxTransceiverSearch

/-!
# The rate of the transceivers, read back

After a rate has been set, every lane reads back the configuration of the calculation, provided that its common
block has no band and that the output divider of a GTX2 is 1.
-/

namespace NoOS
open RegisterFile Fallible

section Calculations

variable {xcvr : XilinxXcvr} {refclkKhz laneRateKhz : UInt32}

lemma calcCpllConfig_outDiv {c : XilinxXcvrCpllConfig × UInt32}
    (h : xilinxXcvrCalcCpllConfig xcvr refclkKhz laneRateKhz = some c) : c.2 ∈ outDivs := by
  have hsub : ∀ d ∈ ([1, 2, 4, 8] : List UInt32), d ∈ outDivs := by decide
  exact hsub _ (cpllAccepts_of_eq_some h).d_mem

lemma calcQpllConfig_fields {c : XilinxXcvrQpllConfig × UInt32}
    (h : xilinxXcvrCalcQpllConfig xcvr refclkKhz laneRateKhz = some c) :
    c.2 ∈ outDivs ∧ (c.1.band = 0 ∨ c.1.band = 1) ∧ (xcvr.gtx2 = false → c.1.fbDiv ∈ N_gth34) := by
  have hc := qpllAccepts_of_eq_some h
  have hband := (QpllVcoRange.band_cases hc.band).symm.imp And.left And.left
  exact ⟨hc.d_mem, hband, fun _ => mem_N_gth34 hc.n_mem⟩

end Calculations

section Ports

variable {gtx2 tx : Bool} {w w' : UInt32 → UInt32} {d d' : Drp} {table : List (UInt32 × UInt32)} {reg drpPort : UInt32}

lemma cpllDecode_congr (h : ∀ u ∈ cpllFields gtx2, w u.1 = w' u.1) : cpllDecode gtx2 w = cpllDecode gtx2 w' := by
  cases gtx2 with
  | true =>
    have hword : w CPLL_REFCLK_DIV_M_ADDR = w' CPLL_REFCLK_DIV_M_ADDR := h _ (List.mem_cons_self ..)
    simp only [cpllDecode, if_true, hword]
  | false =>
    have hfirst : w 0x28 = w' 0x28 := h (0x28, 0xff80) (by simp [cpllFields])
    have hsecond : w 0x2a = w' 0x2a := h (0x2a, 0xf800) (by simp [cpllFields])
    simp only [cpllDecode, Bool.false_eq_true, if_false, hfirst, hsecond]

lemma outDivDecode_congr (h : ∀ u ∈ outDivFields gtx2 tx, w u.1 = w' u.1) :
    outDivDecode gtx2 tx w = outDivDecode gtx2 tx w' := by
  cases gtx2 with
  | true => rfl
  | false =>
    cases tx with
    | true =>
      have hword : w 0x7c = w' 0x7c := h _ (List.mem_cons_self ..)
      simp only [outDivDecode, Bool.false_eq_true, if_false, if_true, hword]
    | false =>
      have hword : w 0x63 = w' 0x63 := h _ (List.mem_cons_self ..)
      simp only [outDivDecode, Bool.false_eq_true, if_false, hword]

lemma port_eq_of_lookup (h : d.KeepsOutside (portFields drpPort table) d') (hreg : reg &&& 0xFFF = reg)
    (hnone : table.lookup reg = none) : d.port drpPort reg = d'.port drpPort reg := by
  refine (Keeps.eq h ?_).symm
  unfold portFields drpKey
  rw [hreg, hnone]
  exact ite_self _

lemma Adxcvr.common_eq_of_channel {i : UInt32} (hi : i.toNat < 256)
    (h : d.KeepsOutside (portFields (ADXCVR_DRP_PORT_CHANNEL i) table) d') :
    d'.port (ADXCVR_DRP_PORT_COMMON i) = d.port (ADXCVR_DRP_PORT_COMMON i) := by
  funext reg
  apply Keeps.eq h
  rw [Adxcvr.common_key hi]
  unfold portFields
  rw [decide_eq_false (Adxcvr.channel_port hi).1, if_neg]
  exact fun hkey => Bool.noConfusion hkey.1

end Ports

namespace Adxcvr

variable {x : Adxcvr} {conf : XcvrConfig} {outDiv : UInt32} {i : UInt32} {d d' : Drp}

/-- The fields of a channel that are written after its PLL, and after its output divider. -/
def tailFields (gtx2 tx : Bool) : List (UInt32 × UInt32) := clk25Fields gtx2 tx ++ if tx then [] else cdrFields gtx2

def restFields (gtx2 tx : Bool) : List (UInt32 × UInt32) := outDivFields gtx2 tx ++ tailFields gtx2 tx

/-- What a configuration has to be for it to be written and read. -/
def Calculated (x : Adxcvr) : XcvrConfig → Prop
  | .cpll _ => x.cpllEnable = true
  | .qpll conf => x.cpllEnable = false ∧ (conf.band = 0 ∨ conf.band = 1) ∧
    (x.xlxXcvr.gtx2 = false → conf.fbDiv ∈ N_gth34)

/-- The PLL of lane `i` is decoded as its configuration, without a band unless it is a GTX2. -/
def PllSet (x : Adxcvr) (conf : XcvrConfig) (i : UInt32) (d : Drp) : Prop :=
  match conf with
  | .cpll conf => cpllDecode x.xlxXcvr.gtx2 (d.port (ADXCVR_DRP_PORT_CHANNEL i)) = conf
  | .qpll conf => i % 4 = 0 → ∀ conf', qpllDecode x.xlxXcvr.gtx2 conf' (d.port (ADXCVR_DRP_PORT_COMMON i)) =
    if x.xlxXcvr.gtx2 then conf else { conf with band := 0 }

def OutDivSet (x : Adxcvr) (outDiv i : UInt32) (d : Drp) : Prop :=
  outDivDecode x.xlxXcvr.gtx2 x.txEnable (d.port (ADXCVR_DRP_PORT_CHANNEL i)) =
    if x.xlxXcvr.gtx2 then 1 else outDiv

lemma calcConfig_calculated {rate parentRate : UInt32} (h : x.calcConfig rate parentRate = some (conf, outDiv)) :
    outDiv ∈ outDivs ∧ x.Calculated conf := by
  unfold calcConfig at h
  split_ifs at h with hcpll
  · obtain ⟨c, hc, heq⟩ := Option.map_eq_some_iff.mp h
    obtain ⟨rfl, rfl⟩ := Prod.mk.inj heq
    exact ⟨calcCpllConfig_outDiv hc, hcpll⟩
  · obtain ⟨c, hc, heq⟩ := Option.map_eq_some_iff.mp h
    obtain ⟨rfl, rfl⟩ := Prod.mk.inj heq
    obtain ⟨hdiv, hband, hfb⟩ := calcQpllConfig_fields hc
    exact ⟨hdiv, Bool.eq_false_iff.mpr hcpll, hband, hfb⟩

/-- The writes after the output divider. -/
def setTail (x : Adxcvr) (rate outDiv clk25Div i : UInt32) : Fallible Drp Unit :=
  if x.txEnable then xilinxXcvrWriteTxClk25Div x.xlxXcvr (ADXCVR_DRP_PORT_CHANNEL i) clk25Div
  else do
    xilinxXcvrConfigureCdr x.xlxXcvr (ADXCVR_DRP_PORT_CHANNEL i) rate outDiv x.lpmEnable
    xilinxXcvrWriteRxClk25Div x.xlxXcvr (ADXCVR_DRP_PORT_CHANNEL i) clk25Div

lemma portFields_mono {drpPort : UInt32} {big table : List (UInt32 × UInt32)}
    (h : ∀ u ∈ table, big.lookup u.1 = some u.2) (hmove : d.KeepsOutside (portFields drpPort table) d') :
    d.KeepsOutside (portFields drpPort big) d' := by
  apply Keeps.mono hmove
  intro k
  unfold portFields
  split_ifs
  · exact lookup_and h k.reg
  · exact UInt32.and_zero

lemma moves_setTail (rate outDiv clk25Div i : UInt32) :
    Moves (Drp.KeepsOutside (portFields (ADXCVR_DRP_PORT_CHANNEL i) (tailFields x.xlxXcvr.gtx2 x.txEnable)))
      (x.setTail rate outDiv clk25Div i) := by
  have hclk : ∀ g tx, ∀ u ∈ clk25Fields g tx, (tailFields g tx).lookup u.1 = some u.2 := by decide
  have hcdr : ∀ g, ∀ u ∈ cdrFields g, (tailFields g false).lookup u.1 = some u.2 := by decide
  unfold setTail
  split_ifs with htx
  · rw [htx]
    exact fun d => portFields_mono (hclk _ true) (moves_writeTxClk25 clk25Div d)
  · rw [Bool.eq_false_iff.mpr htx]
    apply moves_bind
    · exact fun d => portFields_mono (hcdr _) (moves_configureCdr rate outDiv x.lpmEnable d)
    · exact fun _ d => portFields_mono (hclk _ false) (moves_writeRxClk25 clk25Div d)

/-- The writes after the PLL. -/
def setRest (x : Adxcvr) (rate outDiv clk25Div i : UInt32) : Fallible Drp Unit := do
  xilinxXcvrWriteOutDiv x.xlxXcvr (ADXCVR_DRP_PORT_CHANNEL i) (if x.txEnable then -1 else outDiv.toInt32)
    (if x.txEnable then outDiv.toInt32 else -1)
  x.setTail rate outDiv clk25Div i

lemma moves_setRest {rate clk25Div : UInt32} (h : outDiv ∈ outDivs) (i : UInt32) :
    Moves (Drp.KeepsOutside (portFields (ADXCVR_DRP_PORT_CHANNEL i) (restFields x.xlxXcvr.gtx2 x.txEnable)))
      (x.setRest rate outDiv clk25Div i) := by
  have hout : ∀ g tx, ∀ u ∈ outDivFields g tx, (restFields g tx).lookup u.1 = some u.2 := by decide
  have htail : ∀ g tx, ∀ u ∈ tailFields g tx, (restFields g tx).lookup u.1 = some u.2 := by decide
  unfold setRest
  apply moves_bind
  · exact fun d => portFields_mono (hout _ _) (moves_writeOutDiv h x.txEnable d)
  · exact fun _ d => portFields_mono (htail _ _) (moves_setTail rate outDiv clk25Div i d)

lemma setLane_eq (rate outDiv clk25Div i : UInt32) : x.setLane rate conf outDiv clk25Div i =
    (x.writeConfig conf i >>= fun _ => x.setRest rate outDiv clk25Div i) := rfl

lemma ensures_setRest_outDiv {rate clk25Div : UInt32} (h : outDiv ∈ outDivs) :
    Ensures (x.setRest rate outDiv clk25Div i) d fun _ => x.OutDivSet outDiv i := by
  have hnone : ∀ g tx, ∀ u ∈ outDivFields g tx, u.1 &&& 0xFFF = u.1 ∧ (tailFields g tx).lookup u.1 = none := by decide
  refine Ensures.bind_moves (ensures_writeOutDiv h x.txEnable) (fun _ => moves_setTail rate outDiv clk25Div i) ?_
  intro s t hset hmove
  refine (outDivDecode_congr ?_).symm.trans hset
  intro u hu
  exact port_eq_of_lookup hmove (hnone _ _ u hu).1 (hnone _ _ u hu).2

lemma ensures_writeConfig (hconf : x.Calculated conf) : Ensures (x.writeConfig conf i) d fun _ => x.PllSet conf i := by
  cases conf with
  | cpll conf => exact ensures_cpllWrite conf
  | qpll conf =>
    obtain ⟨-, hband, hfb⟩ := hconf
    dsimp only [writeConfig]
    split_ifs with hfour
    · intro a t hrun _ conf'
      exact ensures_qpllWrite conf' hband hfb a t hrun
    · exact fun _ _ _ hmul => absurd hmul hfour

lemma ensures_setLane {rate clk25Div : UInt32} (hi : i.toNat < 256) (hdiv : outDiv ∈ outDivs)
    (hconf : x.Calculated conf) : Ensures (x.setLane rate conf outDiv clk25Div i) d fun _ d' =>
      x.PllSet conf i d' ∧ x.OutDivSet outDiv i d' := by
  have hnone : ∀ g tx, ∀ u ∈ cpllFields g, u.1 &&& 0xFFF = u.1 ∧ (restFields g tx).lookup u.1 = none := by decide
  have hpll : Ensures (x.setLane rate conf outDiv clk25Div i) d fun _ => x.PllSet conf i := by
    rw [setLane_eq]
    refine Ensures.bind_moves (ensures_writeConfig hconf) (fun _ => moves_setRest hdiv i) ?_
    intro s t hset hmove
    cases conf with
    | cpll conf =>
      refine (cpllDecode_congr ?_).symm.trans hset
      intro u hu
      exact port_eq_of_lookup hmove (hnone _ x.txEnable u hu).1 (hnone _ _ u hu).2
    | qpll conf =>
      intro hfour conf'
      rw [common_eq_of_channel hi hmove]
      exact hset hfour conf'
  have hout : Ensures (x.setLane rate conf outDiv clk25Div i) d fun _ => x.OutDivSet outDiv i := by
    rw [setLane_eq]
    apply Ensures.bind
    exact fun _ _ _ => ensures_setRest_outDiv hdiv
  exact fun a t hrun => ⟨hpll a t hrun, hout a t hrun⟩

/-- A lane writes its own fields, and every fourth one those of its common block. -/
lemma moves_setLane {rate clk25Div : UInt32} {lo top : ℕ} (hi : i.toNat < 256) (hlo : lo ≤ i.toNat)
    (htop : i.toNat < top) (hdiv : outDiv ∈ outDivs) (hconf : x.Calculated conf) :
    Moves (Drp.KeepsOutside (x.writtenFields lo top)) (x.setLane rate conf outDiv clk25Div i) := by
  have hcpll : ∀ g tx, ∀ u ∈ cpllFields g, (channelFields g true tx).lookup u.1 = some u.2 := by decide
  have hqpll : ∀ g, ∀ u ∈ qpllFields g, (commonFields g false).lookup u.1 = some u.2 := by decide
  have hrest : ∀ g cpll tx, ∀ u ∈ restFields g tx, (channelFields g cpll tx).lookup u.1 = some u.2 := by decide
  rw [setLane_eq]
  apply moves_bind
  · intro d
    cases conf with
    | cpll conf =>
      apply channel_mono hi hlo htop
      · rw [show x.cpllEnable = true from hconf]
        exact hcpll _ _
      · exact moves_cpllWrite conf d
    | qpll conf =>
      obtain ⟨hcommon, -, hfb⟩ := hconf
      dsimp only [writeConfig]
      split_ifs with hfour
      · apply common_mono hi hlo htop hfour
        · rw [hcommon]
          exact hqpll _
        · exact moves_qpllWrite hfb d
      · exact Drp.KeepsOutside.refl _ _
  · exact fun _ d => channel_mono hi hlo htop (hrest _ _ _) (moves_setRest hdiv i d)

lemma toNat_lane {n : ℕ} (h : n < 256) : (UInt32.ofNat n).toNat = n :=
  UInt32.toNat_ofNat_of_lt' (h.trans (by decide))

lemma moves_setLanes {rate clk25Div : UInt32} {lo top : ℕ} (hdiv : outDiv ∈ outDivs) (hconf : x.Calculated conf)
    (htop : top ≤ 256) (n i : ℕ) (hlo : lo ≤ i) (hle : i + n ≤ top) :
    Moves (Drp.KeepsOutside (x.writtenFields lo top)) (x.setLanes rate conf outDiv clk25Div n i) := by
  induction n generalizing i with
  | zero => exact fun d => Drp.KeepsOutside.refl _ _
  | succ n ih =>
    have hlane : (UInt32.ofNat i).toNat = i := toNat_lane (by lia)
    apply moves_bind
    · apply moves_setLane _ _ _ hdiv hconf
      · lia
      · lia
      · lia
    · intro _
      exact ih (i + 1) (by lia) (by lia)

/-- The lanes that are done stay as they are while those that follow are set. -/
lemma ensures_setLanes {rate clk25Div : UInt32} (hdiv : outDiv ∈ outDivs) (hconf : x.Calculated conf) (n i : ℕ)
    (hle : i + n ≤ 256) : Ensures (x.setLanes rate conf outDiv clk25Div n i) d fun _ d' =>
      ∀ j : UInt32, i ≤ j.toNat → j.toNat < i + n → x.PllSet conf j d' ∧ x.OutDivSet outDiv j d' := by
  induction n generalizing i d with
  | zero =>
    intro _ d' _ j hij hjn
    omega
  | succ n ih =>
    have hlane : (UInt32.ofNat i).toNat = i := toNat_lane (by lia)
    apply Ensures.bind
    intro _ t hfirst _ d' hrest j hij hjn
    by_cases hj : j.toNat = i
    · obtain rfl : j = UInt32.ofNat i := UInt32.toNat_inj.mp (hj.trans hlane.symm)
      obtain ⟨hpll, hout⟩ := ensures_setLane (by lia) hdiv hconf _ t hfirst
      have hmove := (moves_setLanes hdiv hconf (Nat.le_refl 256) n (i + 1) (Nat.le_refl _) (by lia)).ensures t _ d' hrest
      obtain ⟨hchannel, hcommon⟩ := @keeps_lane x (UInt32.ofNat i) _ _ _ _ hmove (by lia) (by omega)
      unfold OutDivSet PllSet at *
      rw [hchannel, hcommon]
      exact ⟨hpll, hout⟩
    · exact ih (i + 1) (by lia) _ d' hrest j (by lia) (by lia)

/-- The PLL of lane `i` is read as its configuration, with the port answering. -/
def PllReads (x : Adxcvr) (conf : XcvrConfig) (i : UInt32) (d : Drp) : Prop :=
  match conf with
  | .cpll conf => (xilinxXcvrCpllReadConfig x.xlxXcvr (ADXCVR_DRP_PORT_CHANNEL i) d.answering).1 = .ok conf
  | .qpll conf => ∀ conf', (xilinxXcvrQpllReadConfig x.xlxXcvr (ADXCVR_DRP_PORT_COMMON (i - i % 4)) conf'
    d.answering).1 = .ok conf

/-- What the accesses read after a rate has been set, and what they leave alone. The port answers while the
registers are read. -/
structure ReadsBack (x : Adxcvr) (conf : XcvrConfig) (outDiv : UInt32) (d d' : Drp) : Prop where
  pll : ∀ i : UInt32, i.toNat < x.numLanes.toNat → x.PllReads conf i d'
  outDiv : ∀ i : UInt32, i.toNat < x.numLanes.toNat →
    (xilinxXcvrReadOutDiv x.xlxXcvr (ADXCVR_DRP_PORT_CHANNEL i) x.txEnable d'.answering).1 = .ok outDiv
  others : d.KeepsOutside (x.writtenFields 0 x.numLanes.toNat) d'

/-- The configurations that there is a reader for. -/
def Readable (x : Adxcvr) (conf : XcvrConfig) (outDiv : UInt32) : Prop :=
  (x.xlxXcvr.type = .S7_GTX2 → outDiv = 1) ∧
    (x.xlxXcvr.type ≠ .S7_GTX2 → ∀ c, conf = .qpll c → c.band = 0)

lemma common_lane (i : UInt32) : (i - i % 4) % 4 = 0 ∧ (i - i % 4).toNat ≤ i.toNat := by
  have hsub : (i - i % 4).toNat = i.toNat - i.toNat % 4 := Word.toNat_sub_of_le (by
    rw [UInt32.toNat_mod]
    exact Nat.mod_le _ _)
  constructor
  · apply UInt32.toNat_inj.mp
    rw [UInt32.toNat_mod, hsub]
    change (i.toNat - i.toNat % 4) % 4 = 0
    lia
  · lia

lemma ensures_clkSetRate {rate parentRate : UInt32} (hcalc : x.calcConfig rate parentRate = some (conf, outDiv)) :
    Ensures (adxcvrClkSetRate x rate parentRate) d fun _ d' =>
      (∀ i : UInt32, i.toNat < x.numLanes.toNat → x.PllSet conf i d' ∧ x.OutDivSet outDiv i d') ∧
        d.KeepsOutside (x.writtenFields 0 x.numLanes.toNat) d' := by
  have hlanes : x.numLanes.toNat < 256 := x.numLanes.toNat_lt
  obtain ⟨hdiv, hconf⟩ := calcConfig_calculated hcalc
  unfold adxcvrClkSetRate
  rw [hcalc]
  apply Ensures.bind
  intro u t hset
  apply Ensures.pure
  constructor
  · intro i hi
    exact ensures_setLanes hdiv hconf x.numLanes.toNat 0 (by lia) u t hset i (Nat.zero_le _) (by omega)
  · refine (moves_setLanes hdiv hconf ?_ x.numLanes.toNat 0 (Nat.le_refl _) ?_).ensures d u t hset
    · omega
    · omega

lemma pllRead_iff {i : UInt32} (h : x.PllSet conf (i - i % 4) d) (h' : x.PllSet conf i d) :
    x.PllReads conf i d ↔ (x.xlxXcvr.type ≠ .S7_GTX2 → ∀ c, conf = .qpll c → c.band = 0) := by
  cases conf with
  | cpll conf =>
    constructor
    · intro _ _ c hc
      cases hc
    · intro _
      exact cpllReadConfig_eq.trans (congrArg Except.ok h')
  | qpll conf =>
    have hset := h (common_lane i).1
    rcases gtx2_cases x.xlxXcvr with ⟨htype, hgtx2⟩ | ⟨htype, hgtx2⟩
    · rw [hgtx2] at hset
      constructor
      · exact fun _ hne => absurd htype hne
      · intro _ conf'
        rw [qpllReadConfig_eq, hgtx2]
        exact congrArg Except.ok (hset conf')
    · rw [hgtx2] at hset
      constructor
      · intro hread _ c hc
        have hsame := hread conf
        rw [qpllReadConfig_eq, hgtx2, hset conf] at hsame
        rw [← XcvrConfig.qpll.inj hc]
        exact (congrArg XilinxXcvrQpllConfig.band (Except.ok.inj hsame)).symm
      · intro hband conf'
        rw [qpllReadConfig_eq, hgtx2, hset conf']
        apply congrArg Except.ok
        rw [if_neg Bool.false_ne_true, ← hband htype conf rfl]

lemma outDivRead_iff {i : UInt32} (h : x.OutDivSet outDiv i d) :
    (xilinxXcvrReadOutDiv x.xlxXcvr (ADXCVR_DRP_PORT_CHANNEL i) x.txEnable d.answering).1 = .ok outDiv ↔
      (x.xlxXcvr.type = .S7_GTX2 → outDiv = 1) := by
  rw [readOutDiv_eq, show outDivDecode _ _ _ = _ from h]
  rcases gtx2_cases x.xlxXcvr with ⟨htype, hgtx2⟩ | ⟨htype, hgtx2⟩
  · rw [hgtx2]
    constructor
    · exact fun hread _ => (Except.ok.inj hread).symm
    · exact fun hone => congrArg Except.ok (hone htype).symm
  · rw [hgtx2]
    constructor
    · exact fun _ heq => absurd heq htype
    · exact fun _ => rfl

end Adxcvr

open Adxcvr

/-- The configuration and the output divider that were calculated are read back, and all bits outside of the
written fields are as they were, if and only if there is a reader for them. -/
theorem clkSetRate_readsBack_iff {x x' : Adxcvr} {rate parentRate outDiv : UInt32} {conf : XcvrConfig} {d d' : Drp}
    (hcalc : x.calcConfig rate parentRate = some (conf, outDiv))
    (hrun : adxcvrClkSetRate x rate parentRate d = (.ok x', d')) :
    x.ReadsBack conf outDiv d d' ↔ x.numLanes = 0 ∨ x.Readable conf outDiv := by
  obtain ⟨hset, hothers⟩ := ensures_clkSetRate hcalc x' d' hrun
  have hpll : ∀ i : UInt32, i.toNat < x.numLanes.toNat → x.PllSet conf (i - i % 4) d' ∧ x.PllSet conf i d' := by
    intro i hi
    exact ⟨(hset _ ((common_lane i).2.trans_lt hi)).1, (hset i hi).1⟩
  constructor
  · intro hread
    by_cases hzero : x.numLanes = 0
    · exact Or.inl hzero
    · have hpos : (0 : UInt32).toNat < x.numLanes.toNat := Nat.pos_of_ne_zero fun h => hzero (UInt8.toNat_inj.mp h)
      right
      constructor
      · exact (outDivRead_iff (hset 0 hpos).2).mp (hread.outDiv 0 hpos)
      · exact (pllRead_iff (hpll 0 hpos).1 (hpll 0 hpos).2).mp (hread.pll 0 hpos)
  · intro hcase
    have hreadable : ∀ i : UInt32, i.toNat < x.numLanes.toNat → x.Readable conf outDiv := by
      intro i hi
      rcases hcase with hzero | hreadable
      · rw [hzero] at hi
        exact absurd hi (Nat.not_lt_zero _)
      · exact hreadable
    constructor
    · intro i hi
      exact (pllRead_iff (hpll i hi).1 (hpll i hi).2).mpr (hreadable i hi).2
    · intro i hi
      exact (outDivRead_iff (hset i hi).2).mpr (hreadable i hi).1
    · exact hothers

/-- A GTX2 lane for transmission with the PLL of its channel. -/
def gtx2Lane : Adxcvr where
  cpllEnable := true
  txEnable := true
  lpmEnable := true
  numLanes := 1
  laneRateKhz := 0
  xlxXcvr := ⟨.S7_GTX2, .PM_200, ENC_8B10B, 0x100000, 20, 3, 1000⟩

/-- All registers are 0, and every access is done in time. -/
def clearedDrp : Drp := ⟨fun _ => 0, fun _ => .done, 0⟩

theorem clkSetRate_readsBack_at : gtx2Lane.ReadsBack (.cpll ⟨1, 5, 2⟩) 1 clearedDrp
    (adxcvrClkSetRate gtx2Lane 5000000 250000 clearedDrp).2 := by
  have hcalc : gtx2Lane.calcConfig 5000000 250000 = some (.cpll ⟨1, 5, 2⟩, 1) := rfl
  have hrun : adxcvrClkSetRate gtx2Lane 5000000 250000 clearedDrp =
      (.ok { gtx2Lane with laneRateKhz := 5000000 }, (adxcvrClkSetRate gtx2Lane 5000000 250000 clearedDrp).2) := rfl
  apply (clkSetRate_readsBack_iff hcalc hrun).mpr
  exact Or.inr ⟨fun _ => rfl, fun hne => absurd rfl hne⟩

/-- With an output divider of 2, the divider is read as 1. -/
theorem outDiv_not_readBack : ∃ d', adxcvrClkSetRate gtx2Lane 2500000 250000 clearedDrp =
      (.ok { gtx2Lane with laneRateKhz := 2500000 }, d') ∧
    gtx2Lane.calcConfig 2500000 250000 = some (.cpll ⟨1, 5, 2⟩, 2) ∧
    ¬gtx2Lane.ReadsBack (.cpll ⟨1, 5, 2⟩) 2 clearedDrp d' := by
  refine ⟨_, rfl, rfl, ?_⟩
  intro hread
  have hone := hread.outDiv 0 (by decide)
  rw [readOutDiv_eq] at hone
  exact absurd (Except.ok.inj hone) (by decide)

end NoOS
