import NoOS.Drivers.AxiAdxcvr

/-!
# The configuration that is read back

The PLL of every lane is read back as it was set, but for the band of a common block that has none. The output
divider of a GTX2 is read from the return code of the access, so that it is always 1.
-/

namespace NoOS
open RegisterFile Fallible

section Readers

variable {xcvr : XilinxXcvr} {drpPort : UInt32} {d : Drp} {tx : Bool}

/-- The registers of a port. -/
def Drp.port (d : Drp) (drpPort reg : UInt32) : UInt32 := d.word (drpKey drpPort reg)

def cpllDecode (gtx2 : Bool) (w : UInt32 → UInt32) : XilinxXcvrCpllConfig :=
  if gtx2 then
    ⟨if w CPLL_REFCLK_DIV_M_ADDR &&& CPLL_REFCLK_DIV_M_MASK ≠ 0 then 1 else 2,
      cpllReadN1 (w CPLL_REFCLK_DIV_M_ADDR), cpllReadN2 (w CPLL_REFCLK_DIV_M_ADDR &&& CPLL_FBDIV_N2_MASK)⟩
  else
    ⟨if w 0x2a &&& 0xf800 ≠ 0 then 1 else 2, cpllReadN1 (w 0x28), cpllReadN2 ((w 0x28 >>> 8) &&& 0xff)⟩

def qpllDecode (gtx2 : Bool) (conf : XilinxXcvrQpllConfig) (w : UInt32 → UInt32) : XilinxXcvrQpllConfig :=
  if gtx2 then
    ⟨qpllReadRefclk conf.refclkDiv ((w QPLL_CFG1_ADDR &&& QPLL_REFCLK_DIV_M_MASK) >>> QPLL_REFCLK_DIV_M_OFFSET),
      (gtx2FbDiv.find? fun n => n.2 = w QPLL_FBDIV_N_ADDR &&& QPLL_FBDIV_N_MASK).elim conf.fbDiv Prod.fst,
      if w QPLL_CFG0_ADDR &&& QPLL_CFG0_LOWBAND_MASK ≠ 0 then 0 else 1⟩
  else
    ⟨qpllReadRefclk 5 ((w (QPLL_REFCLK_DIV 0) >>> 7) &&& 0x1f), (w (QPLL_FBDIV 0) &&& 0xff) + 2, 0⟩

def outDivDecode (gtx2 tx : Bool) (w : UInt32 → UInt32) : UInt32 :=
  if gtx2 then 1 else if tx then (1 : UInt32) <<< ((w 0x7c >>> 8) &&& 7) else (1 : UInt32) <<< (w 0x63 &&& 7)

lemma gtx2_cases (xcvr : XilinxXcvr) : xcvr.type = .S7_GTX2 ∧ xcvr.gtx2 = true ∨
    ¬xcvr.type = .S7_GTX2 ∧ xcvr.gtx2 = false := by
  by_cases htype : xcvr.type = .S7_GTX2
  · exact Or.inl ⟨htype, decide_eq_true htype⟩
  · exact Or.inr ⟨htype, decide_eq_false htype⟩

lemma cpllReadConfig_eq : (xilinxXcvrCpllReadConfig xcvr drpPort d.answering).1 =
    .ok (cpllDecode xcvr.gtx2 (d.port drpPort)) := by
  rcases gtx2_cases xcvr with ⟨htype, hgtx2⟩ | ⟨htype, hgtx2⟩
  · rw [hgtx2, xilinxXcvrCpllReadConfig, if_pos htype]
    rfl
  · rw [hgtx2, xilinxXcvrCpllReadConfig, if_neg htype]
    rfl

lemma qpllReadConfig_eq (conf : XilinxXcvrQpllConfig) :
    (xilinxXcvrQpllReadConfig xcvr drpPort conf d.answering).1 =
      .ok (qpllDecode xcvr.gtx2 conf (d.port drpPort)) := by
  rcases gtx2_cases xcvr with ⟨htype, hgtx2⟩ | ⟨htype, hgtx2⟩
  · rw [hgtx2, xilinxXcvrQpllReadConfig, if_pos htype]
    rfl
  · rw [hgtx2, xilinxXcvrQpllReadConfig, if_neg htype]
    rfl

lemma readOutDiv_eq : (xilinxXcvrReadOutDiv xcvr drpPort tx d.answering).1 =
    .ok (outDivDecode xcvr.gtx2 tx (d.port drpPort)) := by
  rcases gtx2_cases xcvr with ⟨htype, hgtx2⟩ | ⟨htype, hgtx2⟩
  · rw [hgtx2, xilinxXcvrReadOutDiv, if_pos htype]
    cases tx <;> rfl
  · rw [hgtx2, xilinxXcvrReadOutDiv, if_neg htype]
    cases tx <;> rfl

end Readers

section Writers

variable {xcvr : XilinxXcvr} {drpPort : UInt32} {d : Drp} {tx : Bool}

lemma shiftRight_and (x f k : UInt32) : (x >>> k) &&& (f >>> k) = (x &&& f) >>> k := by
  apply UInt32.toNat_inj.mp
  rw [UInt32.toNat_and, UInt32.toNat_shiftRight, UInt32.toNat_shiftRight, UInt32.toNat_shiftRight,
    UInt32.toNat_and, Nat.shiftRight_and_distrib]

lemma gtx2Cpll_decode {conf : XilinxXcvrCpllConfig} {n1 n2 refclk : UInt32} {w : UInt32 → UInt32}
    (hn1 : cpllWriteN1 conf.fbDivN1 = some n1) (hn2 : cpllWriteN2 conf.fbDivN2 = some n2)
    (hrefclk : gtx2CpllRefclk conf.refclkDiv = some refclk)
    (hw : w CPLL_REFCLK_DIV_M_ADDR &&& (CPLL_REFCLK_DIV_M_MASK ||| CPLL_FB_DIV_45_N1_MASK ||| CPLL_FBDIV_N2_MASK) =
      n1 ||| n2 ||| refclk) : cpllDecode true w = conf := by
  have hM := and_sub (f := CPLL_REFCLK_DIV_M_MASK) hw (by decide)
  have hN1 := and_sub (f := CPLL_FB_DIV_45_N1_MASK) hw (by decide)
  have hN2 := and_sub (f := CPLL_FBDIV_N2_MASK) hw (by decide)
  obtain ⟨refclkDiv, fbDivN1, fbDivN2⟩ := conf
  dsimp only at hn1 hn2 hrefclk
  unfold cpllDecode cpllReadN1
  rw [if_pos rfl, hM, hN1, hN2]
  rcases cpllWriteN1_field hn1 with ⟨rfl, rfl⟩ | ⟨rfl, rfl⟩ <;>
  rcases cpllWriteN2_field hn2 with ⟨rfl, rfl⟩ | ⟨rfl, rfl⟩ | ⟨rfl, rfl⟩ | ⟨rfl, rfl⟩ | ⟨rfl, rfl⟩ <;>
  rcases gtx2CpllRefclk_field hrefclk with ⟨rfl, rfl⟩ | ⟨rfl, rfl⟩ <;>
  rfl

lemma gth34Cpll_decode {conf : XilinxXcvrCpllConfig} {n1 n2 refclk : UInt32} {w : UInt32 → UInt32}
    (hn1 : cpllWriteN1 conf.fbDivN1 = some n1) (hn2 : cpllWriteN2 conf.fbDivN2 = some n2)
    (hrefclk : gth34CpllRefclk conf.refclkDiv = some refclk)
    (hw : w 0x28 &&& (0xff80 : UInt32) = (n2 <<< 8) ||| n1)
    (hw' : w 0x2a &&& (0xf800 : UInt32) = refclk <<< 11) : cpllDecode false w = conf := by
  have hN1 := and_sub (f := CPLL_FB_DIV_45_N1_MASK) hw (by decide)
  have hN2 := and_sub (f := 0xff00) hw (by decide)
  have hshift : w 0x28 >>> 8 &&& (0xff : UInt32) = (w 0x28 &&& (0xff00 : UInt32)) >>> 8 :=
    shiftRight_and (w 0x28) 0xff00 8
  obtain ⟨refclkDiv, fbDivN1, fbDivN2⟩ := conf
  dsimp only at hn1 hn2 hrefclk
  unfold cpllDecode cpllReadN1
  rw [if_neg Bool.false_ne_true, hw', hN1, hshift, hN2]
  rcases cpllWriteN1_field hn1 with ⟨rfl, rfl⟩ | ⟨rfl, rfl⟩ <;>
  rcases cpllWriteN2_field hn2 with ⟨rfl, rfl⟩ | ⟨rfl, rfl⟩ | ⟨rfl, rfl⟩ | ⟨rfl, rfl⟩ | ⟨rfl, rfl⟩ <;>
  rcases gth34CpllRefclk_field hrefclk with ⟨rfl, rfl⟩ | ⟨rfl, rfl⟩ <;>
  rfl

/-- A field that an update has set stays while another register is updated. -/
lemma ensures_update_of_ne {reg reg' mask' val' f v : UInt32} (hne : reg &&& 0xFFF ≠ reg' &&& 0xFFF)
    (h : d.port drpPort reg &&& f = v) :
    Ensures (xilinxXcvrDrpUpdate drpPort reg' mask' val') d fun _ d' => d'.port drpPort reg &&& f = v := by
  intro a d' hrun
  have hkey : drpKey drpPort reg ≠ drpKey drpPort reg' := fun hkey => hne (congrArg DrpKey.reg hkey)
  have hword : d'.port drpPort reg = d.port drpPort reg := by
    rcases @drpUpdate_cases d drpPort reg' mask' val' with hcase | ⟨hcase, -⟩ <;>
    rw [hrun] at hcase <;>
    dsimp only at hcase
    · rw [Drp.port, hcase, Function.update_of_ne hkey]
      rfl
    · rw [Drp.port, hcase]
      rfl
  rw [hword]
  exact h

lemma ensures_cpllWrite (conf : XilinxXcvrCpllConfig) :
    Ensures (xilinxXcvrCpllWriteConfig xcvr drpPort conf) d fun _ d' =>
      cpllDecode xcvr.gtx2 (d'.port drpPort) = conf := by
  rcases gtx2_cases xcvr with ⟨htype, hgtx2⟩ | ⟨htype, hgtx2⟩
  · rw [hgtx2, xilinxXcvrCpllWriteConfig, if_pos htype]
    unfold xilinxXcvrGtx2CpllWriteConfig
    apply ensures_orFail_bind
    intro n1 hn1
    apply ensures_orFail_bind
    intro n2 hn2
    apply ensures_orFail_bind
    intro refclk hrefclk
    refine Ensures.mono (ensures_update (by decide) (gtx2Cpll_field hn1 hn2 hrefclk)) ?_
    intro _ d' hword
    exact gtx2Cpll_decode hn1 hn2 hrefclk hword
  · rw [hgtx2, xilinxXcvrCpllWriteConfig, if_neg htype]
    unfold xilinxXcvrGth34CpllWriteConfig
    apply ensures_orFail_bind
    intro n2 hn2
    apply ensures_orFail_bind
    intro n1 hn1
    refine Ensures.bind_of (ensures_update (by decide) (gth34Cpll_field hn1 hn2)) ?_
    intro _ t hfirst
    apply ensures_orFail_bind
    intro refclk hrefclk a d' hrun
    have hsecond := ensures_update (by decide) (gth34Refclk_field hrefclk) a d' hrun
    have hstays := ensures_update_of_ne (by decide) hfirst a d' hrun
    exact gth34Cpll_decode hn1 hn2 hrefclk hstays hsecond

lemma gtx2Qpll_decode {conf conf' : XilinxXcvrQpllConfig} {refclk fbdiv : UInt32} {w : UInt32 → UInt32}
    (hband : conf.band = 0 ∨ conf.band = 1) (hrefclk : qpllRefclk conf.refclkDiv = some refclk)
    (hfbdiv : (gtx2FbDiv.find? fun n => n.1 = conf.fbDiv).map Prod.snd = some fbdiv)
    (hw : w QPLL_CFG0_ADDR &&& QPLL_CFG0_LOWBAND_MASK = if conf.band ≠ 0 then 0 else QPLL_CFG0_LOWBAND_MASK)
    (hw' : w QPLL_CFG1_ADDR &&& QPLL_REFCLK_DIV_M_MASK = QPLL_REFCLK_DIV_M refclk)
    (hw'' : w QPLL_FBDIV_N_ADDR &&& QPLL_FBDIV_N_MASK = fbdiv) : qpllDecode true conf' w = conf := by
  obtain ⟨refclkDiv, fbDiv, band⟩ := conf
  dsimp only at hband hrefclk hfbdiv hw
  have hfields : ∀ n ∈ gtx2FbDiv, gtx2FbDiv.find? (fun p => p.2 = n.2) = some n := by decide
  obtain ⟨n, hfind, rfl⟩ := Option.map_eq_some_iff.mp hfbdiv
  have hn : n.1 = fbDiv := by simpa using List.find?_some hfind
  unfold qpllDecode
  rw [if_pos rfl, hw, hw', hw'', hfields n (List.mem_of_find?_eq_some hfind), Option.elim_some, hn]
  rcases qpllRefclk_field hrefclk with ⟨rfl, rfl⟩ | ⟨rfl, rfl⟩ | ⟨rfl, rfl⟩ | ⟨rfl, rfl⟩ <;>
  rcases hband with rfl | rfl <;>
  rfl

lemma gth34Qpll_decode {conf conf' : XilinxXcvrQpllConfig} {refclk : UInt32} {w : UInt32 → UInt32}
    (hconf : conf.fbDiv ∈ N_gth34) (hrefclk : qpllRefclk conf.refclkDiv = some refclk)
    (hw : w (QPLL_FBDIV 0) &&& (0xff : UInt32) = conf.fbDiv - 2)
    (hw' : w (QPLL_REFCLK_DIV 0) &&& (0xf80 : UInt32) = refclk <<< 7) :
    qpllDecode false conf' w = { conf with band := 0 } := by
  have hshift : w (QPLL_REFCLK_DIV 0) >>> 7 &&& (0x1f : UInt32) =
      (w (QPLL_REFCLK_DIV 0) &&& (0xf80 : UInt32)) >>> 7 := shiftRight_and (w (QPLL_REFCLK_DIV 0)) 0xf80 7
  have hadd : ∀ n : UInt32, n - 2 + 2 = n := fun n => UInt32.sub_add_cancel n 2
  obtain ⟨refclkDiv, fbDiv, band⟩ := conf
  dsimp only at hrefclk hw
  unfold qpllDecode
  rw [if_neg Bool.false_ne_true, hw, hshift, hw', hadd]
  rcases qpllRefclk_field hrefclk with ⟨rfl, rfl⟩ | ⟨rfl, rfl⟩ | ⟨rfl, rfl⟩ | ⟨rfl, rfl⟩ <;> rfl

lemma ensures_qpllWrite {conf : XilinxXcvrQpllConfig} (conf' : XilinxXcvrQpllConfig)
    (hband : conf.band = 0 ∨ conf.band = 1) (hconf : xcvr.gtx2 = false → conf.fbDiv ∈ N_gth34) :
    Ensures (xilinxXcvrQpllWriteConfig xcvr drpPort conf) d fun _ d' =>
      qpllDecode xcvr.gtx2 conf' (d'.port drpPort) = if xcvr.gtx2 then conf else { conf with band := 0 } := by
  rcases gtx2_cases xcvr with ⟨htype, hgtx2⟩ | ⟨htype, hgtx2⟩
  · rw [hgtx2, xilinxXcvrQpllWriteConfig, if_pos htype]
    unfold xilinxXcvrGtx2QpllWriteConfig
    apply ensures_orFail_bind
    intro cfg1 hcfg1
    obtain ⟨refclk, hrefclk, rfl⟩ := Option.map_eq_some_iff.mp hcfg1
    apply ensures_orFail_bind
    intro fbdiv hfbdiv
    refine Ensures.bind_of (ensures_update (by decide) (by split_ifs <;> rfl)) ?_
    intro _ d₁ hcfg0
    refine Ensures.bind ?_
    intro _ d₂ hrun₂
    have hcfg0 := ensures_update_of_ne (by decide) hcfg0 _ d₂ hrun₂
    have hcfg1 := ensures_update (by decide) (qpllRefclk_shift hrefclk).2 _ d₂ hrun₂
    refine Ensures.bind ?_
    intro _ d₃ hrun₃
    have hcfg0 := ensures_update_of_ne (by decide) hcfg0 _ d₃ hrun₃
    have hcfg1 := ensures_update_of_ne (by decide) hcfg1 _ d₃ hrun₃
    have hfb := ensures_update (by decide) (gtx2FbDiv_field hfbdiv) _ d₃ hrun₃
    intro _ d₄ hrun₄
    have hcfg0 := ensures_update_of_ne (by decide) hcfg0 _ d₄ hrun₄
    have hcfg1 := ensures_update_of_ne (by decide) hcfg1 _ d₄ hrun₄
    have hfb := ensures_update_of_ne (by decide) hfb _ d₄ hrun₄
    exact gtx2Qpll_decode hband hrefclk hfbdiv hcfg0 hcfg1 hfb
  · rw [hgtx2, xilinxXcvrQpllWriteConfig, if_neg htype]
    unfold xilinxXcvrGth34QpllWriteConfig
    apply ensures_orFail_bind
    intro refclk hrefclk
    refine Ensures.bind_of (ensures_update (by decide) (qpllFbDiv_field (hconf hgtx2))) ?_
    intro _ d₁ hfb a d₂ hrun
    have hsecond := ensures_update (by decide) (qpllRefclk_shift hrefclk).1 a d₂ hrun
    have hstays := ensures_update_of_ne (by decide) hfb a d₂ hrun
    exact gth34Qpll_decode (hconf hgtx2) hrefclk hstays hsecond

lemma outDiv_decode {outDiv : UInt32} (h : outDiv ∈ outDivs) {w : UInt32 → UInt32}
    (hw : w (outDivField xcvr.gtx2 tx).1 &&& (outDivField xcvr.gtx2 tx).2.1 =
      xilinxXcvrOutDivToVal outDiv <<< (outDivField xcvr.gtx2 tx).2.2) :
    outDivDecode xcvr.gtx2 tx w = if xcvr.gtx2 then 1 else outDiv := by
  rcases gtx2_cases xcvr with ⟨-, hgtx2⟩ | ⟨-, hgtx2⟩
  · rw [hgtx2]
    rfl
  · rw [hgtx2] at hw ⊢
    have hdecode : ∀ n ∈ outDivs, (1 : UInt32) <<< ((xilinxXcvrOutDivToVal n <<< (8 : UInt32)) >>> (8 : UInt32)) = n ∧
        (1 : UInt32) <<< (xilinxXcvrOutDivToVal n <<< (0 : UInt32)) = n := by decide
    cases tx with
    | true =>
      have hshift : w 0x7c >>> 8 &&& (7 : UInt32) = (w 0x7c &&& (0x700 : UInt32)) >>> 8 :=
        shiftRight_and (w 0x7c) 0x700 8
      change (1 : UInt32) <<< (w 0x7c >>> (8 : UInt32) &&& (7 : UInt32)) = outDiv
      rw [hshift]
      exact (congrArg (fun v => (1 : UInt32) <<< (v >>> (8 : UInt32))) hw).trans (hdecode outDiv h).1
    | false => exact (congrArg (fun v => (1 : UInt32) <<< v) hw).trans (hdecode outDiv h).2

lemma ensures_writeOutDiv {outDiv : UInt32} (h : outDiv ∈ outDivs) (tx : Bool) :
    Ensures (xilinxXcvrWriteOutDiv xcvr drpPort (if tx then -1 else outDiv.toInt32)
      (if tx then outDiv.toInt32 else -1)) d fun _ d' =>
        outDivDecode xcvr.gtx2 tx (d'.port drpPort) = if xcvr.gtx2 then 1 else outDiv := by
  rw [writeOutDiv_eq h]
  refine Ensures.mono (ensures_update ?_ (outDivToVal_shift outDiv xcvr.gtx2 tx)) ?_
  · cases xcvr.gtx2 <;> cases tx <;> rfl
  · intro _ d' hword
    exact outDiv_decode h hword

end Writers

namespace Adxcvr

def commonFields (gtx2 cpll : Bool) : List (UInt32 × UInt32) := if cpll then [] else qpllFields gtx2

def channelFields (gtx2 cpll tx : Bool) : List (UInt32 × UInt32) :=
  (if cpll then cpllFields gtx2 else []) ++ outDivFields gtx2 tx ++ clk25Fields gtx2 tx ++
    if tx then [] else cdrFields gtx2

/-- The fields that are written for the lanes from `lo` up to `top`. -/
def writtenFields (x : Adxcvr) (lo top : ℕ) (k : DrpKey) : UInt32 :=
  if lo ≤ k.sel.toNat ∧ k.sel.toNat < top ∧ (k.common = true → k.sel % 4 = 0) then
    ((if k.common then commonFields x.xlxXcvr.gtx2 x.cpllEnable
      else channelFields x.xlxXcvr.gtx2 x.cpllEnable x.txEnable).lookup k.reg).getD 0
  else 0

variable {x : Adxcvr} {i : UInt32} {lo top : ℕ} {reg : UInt32} {d d' : Drp}

lemma channel_port (hi : i.toNat < 256) :
    ¬ADXCVR_DRP_PORT_CHANNEL i < ADXCVR_DRP_PORT_CHANNEL 0 ∧ ADXCVR_DRP_PORT_CHANNEL i &&& 0xFF = i := by
  have hadd : (0x100 + i : UInt32).toNat = 256 + i.toNat := Word.toNat_add_of_lt (by
    change 256 + i.toNat < 2 ^ 32
    lia)
  constructor
  · rw [UInt32.lt_iff_toNat_lt]
    change ¬(0x100 + i : UInt32).toNat < 256
    lia
  · apply UInt32.toNat_inj.mp
    rw [UInt32.toNat_and, ADXCVR_DRP_PORT_CHANNEL, hadd]
    refine (Nat.and_two_pow_sub_one_eq_mod (256 + i.toNat) 8).trans ?_
    lia

lemma common_port (hi : i.toNat < 256) :
    ADXCVR_DRP_PORT_COMMON i < ADXCVR_DRP_PORT_CHANNEL 0 ∧ ADXCVR_DRP_PORT_COMMON i &&& 0xFF = i := by
  constructor
  · rw [UInt32.lt_iff_toNat_lt]
    exact hi
  · apply UInt32.toNat_inj.mp
    rw [UInt32.toNat_and]
    refine (Nat.and_two_pow_sub_one_eq_mod i.toNat 8).trans ?_
    lia

lemma channel_key (hi : i.toNat < 256) :
    drpKey (ADXCVR_DRP_PORT_CHANNEL i) reg = ⟨false, i, reg &&& 0xFFF⟩ := by
  obtain ⟨hlt, hsel⟩ := channel_port hi
  rw [drpKey, decide_eq_false hlt, hsel]

lemma common_key (hi : i.toNat < 256) :
    drpKey (ADXCVR_DRP_PORT_COMMON i) reg = ⟨true, i, reg &&& 0xFFF⟩ := by
  obtain ⟨hlt, hsel⟩ := common_port hi
  rw [drpKey, decide_eq_true hlt, hsel]

lemma lookup_and {big table : List (UInt32 × UInt32)} (h : ∀ u ∈ table, big.lookup u.1 = some u.2) (reg : UInt32) :
    (big.lookup reg).getD 0 &&& (table.lookup reg).getD 0 = (table.lookup reg).getD 0 := by
  cases hlookup : table.lookup reg with
  | none => exact UInt32.and_zero
  | some mask =>
    obtain ⟨l₁, l₂, rfl, -⟩ := List.lookup_eq_some_iff.mp hlookup
    rw [h (reg, mask) (by simp)]
    exact UInt32.and_self

lemma channel_mono {table : List (UInt32 × UInt32)} (hi : i.toNat < 256) (hlo : lo ≤ i.toNat) (htop : i.toNat < top)
    (h : ∀ u ∈ table, (channelFields x.xlxXcvr.gtx2 x.cpllEnable x.txEnable).lookup u.1 = some u.2)
    (hmove : d.KeepsOutside (portFields (ADXCVR_DRP_PORT_CHANNEL i) table) d') :
    d.KeepsOutside (x.writtenFields lo top) d' := by
  apply Keeps.mono hmove
  intro k
  obtain ⟨hport, hsel⟩ := channel_port hi
  unfold portFields writtenFields
  rw [decide_eq_false hport, hsel]
  split_ifs with hrange hcommon hkey hkey hkey
  · exact absurd hkey.1 (by rw [hcommon]; exact Bool.noConfusion)
  · exact UInt32.and_zero
  · exact lookup_and h k.reg
  · exact UInt32.and_zero
  · exact absurd ⟨by rw [hkey.2]; exact hlo, by rw [hkey.2]; exact htop, fun hc => by rw [hkey.1] at hc; cases hc⟩ hrange
  · exact UInt32.and_zero

lemma common_mono {table : List (UInt32 × UInt32)} (hi : i.toNat < 256) (hlo : lo ≤ i.toNat) (htop : i.toNat < top)
    (hfour : i % 4 = 0) (h : ∀ u ∈ table, (commonFields x.xlxXcvr.gtx2 x.cpllEnable).lookup u.1 = some u.2)
    (hmove : d.KeepsOutside (portFields (ADXCVR_DRP_PORT_COMMON i) table) d') :
    d.KeepsOutside (x.writtenFields lo top) d' := by
  apply Keeps.mono hmove
  intro k
  obtain ⟨hport, hsel⟩ := common_port hi
  unfold portFields writtenFields
  rw [decide_eq_true hport, hsel]
  split_ifs with hrange hcommon hkey hkey hkey
  · exact lookup_and h k.reg
  · exact UInt32.and_zero
  · exact absurd hkey.1 hcommon
  · exact UInt32.and_zero
  · exact absurd ⟨by rw [hkey.2]; exact hlo, by rw [hkey.2]; exact htop, fun _ => by rw [hkey.2]; exact hfour⟩ hrange
  · exact UInt32.and_zero

lemma keeps_lane (h : d.KeepsOutside (x.writtenFields lo top) d') (hi : i.toNat < 256) (hlo : i.toNat < lo) :
    d'.port (ADXCVR_DRP_PORT_CHANNEL i) = d.port (ADXCVR_DRP_PORT_CHANNEL i) ∧
      d'.port (ADXCVR_DRP_PORT_COMMON i) = d.port (ADXCVR_DRP_PORT_COMMON i) := by
  have hnone : ∀ k : DrpKey, k.sel = i → x.writtenFields lo top k = 0 := by
    intro k hk
    unfold writtenFields
    rw [if_neg]
    rintro ⟨hle, -⟩
    rw [hk] at hle
    omega
  constructor
  · funext reg
    apply Keeps.eq h
    rw [channel_key hi]
    exact hnone _ rfl
  · funext reg
    apply Keeps.eq h
    rw [common_key hi]
    exact hnone _ rfl

end Adxcvr

end NoOS
