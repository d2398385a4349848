import NoOS.Drivers.XilinxTransceiver
import NoOS.Lib.Word

/-!
# The transceivers of `axi_adxcvr.c`

A rate is set lane by lane: the PLL of the lane, or that of the common block of four lanes, then the output
divider, the clock recovery and the divider for the 25 MHz clock.
-/

namespace NoOS

structure Adxcvr where
  cpllEnable : Bool
  txEnable : Bool
  lpmEnable : Bool
  /-- Eight bits of the synthesis register -/
  numLanes : UInt8
  laneRateKhz : UInt32
  xlxXcvr : XilinxXcvr

inductive XcvrConfig
  | cpll (conf : XilinxXcvrCpllConfig)
  | qpll (conf : XilinxXcvrQpllConfig)

/-- The configuration and the output divider for a rate. -/
def Adxcvr.calcConfig (x : Adxcvr) (rate parentRate : UInt32) : Option (XcvrConfig × UInt32) :=
  if x.cpllEnable then
    (xilinxXcvrCalcCpllConfig x.xlxXcvr parentRate rate).map fun c => (.cpll c.1, c.2)
  else (xilinxXcvrCalcQpllConfig x.xlxXcvr parentRate rate).map fun c => (.qpll c.1, c.2)

/-- The PLL of lane `i`. -/
def Adxcvr.writeConfig (x : Adxcvr) (conf : XcvrConfig) (i : UInt32) : Fallible Drp Unit :=
  match conf with
  | .cpll conf => xilinxXcvrCpllWriteConfig x.xlxXcvr (ADXCVR_DRP_PORT_CHANNEL i) conf
  | .qpll conf =>
    if i % 4 = 0 then xilinxXcvrQpllWriteConfig x.xlxXcvr (ADXCVR_DRP_PORT_COMMON i) conf else pure ()

/-- One pass of the loop over the lanes. -/
def Adxcvr.setLane (x : Adxcvr) (rate : UInt32) (conf : XcvrConfig) (outDiv clk25Div i : UInt32) :
    Fallible Drp Unit := do
  x.writeConfig conf i
  xilinxXcvrWriteOutDiv x.xlxXcvr (ADXCVR_DRP_PORT_CHANNEL i) (if x.txEnable then -1 else outDiv.toInt32)
    (if x.txEnable then outDiv.toInt32 else -1)
  if x.txEnable then xilinxXcvrWriteTxClk25Div x.xlxXcvr (ADXCVR_DRP_PORT_CHANNEL i) clk25Div
  else do
    xilinxXcvrConfigureCdr x.xlxXcvr (ADXCVR_DRP_PORT_CHANNEL i) rate outDiv x.lpmEnable
    xilinxXcvrWriteRxClk25Div x.xlxXcvr (ADXCVR_DRP_PORT_CHANNEL i) clk25Div

/-- The loop for the lanes from `i` on, of which there are `n`. -/
def Adxcvr.setLanes (x : Adxcvr) (rate : UInt32) (conf : XcvrConfig) (outDiv clk25Div : UInt32) :
    ℕ → ℕ → Fallible Drp Unit
  | 0, _ => pure ()
  | n + 1, i => do
    x.setLane rate conf outDiv clk25Div (UInt32.ofNat i)
    x.setLanes rate conf outDiv clk25Div n (i + 1)

def adxcvrClkSetRate (x : Adxcvr) (rate parentRate : UInt32) : Fallible Drp Adxcvr :=
  let clk25Div := divRoundClosest parentRate 25000
  match x.calcConfig rate parentRate with
  | none => Fallible.fail FAILURE
  | some (conf, outDiv) => do
    x.setLanes rate conf outDiv clk25Div x.numLanes.toNat 0
    return { x with laneRateKhz := rate }

end NoOS

/-!
## The fields that a rate is written into

An update sets a field of a DRP register, if it returns no error, and leaves all other bits alone in any case.
-/

namespace NoOS
open RegisterFile Fallible

/-- A register as it is read. -/
def Drp.word (d : Drp) (k : DrpKey) : UInt32 := (d.regs k).toUInt32

/-- The port answers from now on. -/
def Drp.answering (d : Drp) : Drp := { d with fate := fun _ => .done }

/-- The bits outside of the fields are as they were. -/
def Drp.KeepsOutside (fields : DrpKey → UInt32) (d d' : Drp) : Prop := Keeps fields d.word d'.word

section Ports

variable {d d' : Drp} {fields : DrpKey → UInt32} {drpPort reg mask val : UInt32}

lemma Drp.KeepsOutside.refl (fields : DrpKey → UInt32) (d : Drp) : d.KeepsOutside fields d := Keeps.refl _ _

lemma Drp.KeepsOutside.trans {d'' : Drp} (h : d.KeepsOutside fields d') (h' : d'.KeepsOutside fields d'') :
    d.KeepsOutside fields d'' := Keeps.trans h h'

lemma moves_bind {α β : Type} {x : Fallible Drp α} {f : α → Fallible Drp β}
    (hx : Moves (Drp.KeepsOutside fields) x) (hf : ∀ a, Moves (Drp.KeepsOutside fields) (f a)) :
    Moves (Drp.KeepsOutside fields) (x >>= f) :=
  Moves.bind (fun _ _ _ => Drp.KeepsOutside.trans) hx hf

lemma word_and (k : DrpKey) : d.word k &&& 0xffff = d.word k := by
  apply UInt32.toNat_inj.mp
  have hlt := (d.regs k).toNat_lt
  rw [UInt32.toNat_and, Drp.word, UInt16.toNat_toUInt32]
  exact (Nat.and_two_pow_sub_one_eq_mod _ 16).trans (Nat.mod_eq_of_lt hlt)

lemma toUInt16_toUInt32 (x : UInt32) : x.toUInt16.toUInt32 = x &&& 0xffff := by
  apply UInt32.toNat_inj.mp
  rw [UInt32.toNat_and, UInt16.toNat_toUInt32, UInt32.toNat_toUInt16]
  exact (Nat.and_two_pow_sub_one_eq_mod _ 16).symm

lemma drpRead_regs : (xilinxXcvrDrpRead drpPort reg d).2.regs = d.regs := by
  unfold xilinxXcvrDrpRead adxcvrDrpRead
  split_ifs <;> rfl

lemma drpRead_ok {v : UInt32} (h : xilinxXcvrDrpRead drpPort reg d = (.ok v, d')) :
    v = d.word (drpKey drpPort reg) ∧ d'.regs = d.regs := by
  have hregs := @drpRead_regs d drpPort reg
  rw [h] at hregs
  unfold xilinxXcvrDrpRead adxcvrDrpRead at h
  split_ifs at h
  · exact ⟨(Except.ok.inj (Prod.mk.inj h).1).symm, hregs⟩
  · exact absurd (Prod.mk.inj h).1 nofun

/-- A write has been done, or has been lost and returns an error. -/
lemma drpWrite_cases : (xilinxXcvrDrpWrite drpPort reg val d).2.word =
      Function.update d.word (drpKey drpPort reg) (val &&& 0xffff) ∨
    (xilinxXcvrDrpWrite drpPort reg val d).2.word = d.word ∧
      ∃ e, (xilinxXcvrDrpWrite drpPort reg val d).1 = .error e := by
  have hword : ∀ t : Drp, t.regs = Function.update d.regs (drpKey drpPort reg) val.toUInt16 →
      t.word = Function.update d.word (drpKey drpPort reg) (val &&& 0xffff) := by
    intro t ht
    funext k
    rw [Drp.word, ht, ← toUInt16_toUInt32]
    by_cases hk : k = drpKey drpPort reg
    · rw [hk, Function.update_self, Function.update_self]
    · rw [Function.update_of_ne hk, Function.update_of_ne hk]
      rfl
  unfold xilinxXcvrDrpWrite
  cases hfate : d.fate d.accesses with
  | done =>
    have hrun : adxcvrDrpWrite drpPort reg val d =
        (.ok (), { d.next with regs := Function.update d.regs (drpKey drpPort reg) val.toUInt16 }) := by
      unfold adxcvrDrpWrite
      rw [hfate]
    left
    rw [bind_ok hrun]
    exact hword _ drpRead_regs
  | lost =>
    have hrun : adxcvrDrpWrite drpPort reg val d = (.error FAILURE, d.next) := by
      unfold adxcvrDrpWrite
      rw [hfate]
    right
    rw [bind_error hrun]
    exact ⟨rfl, FAILURE, rfl⟩
  | late =>
    have hrun : adxcvrDrpWrite drpPort reg val d =
        (.error FAILURE, { d.next with regs := Function.update d.regs (drpKey drpPort reg) val.toUInt16 }) := by
      unfold adxcvrDrpWrite
      rw [hfate]
    left
    rw [bind_error hrun]
    exact hword _ rfl

lemma drpUpdate_cases : (xilinxXcvrDrpUpdate drpPort reg mask val d).2.word = Function.update d.word
      (drpKey drpPort reg) ((val ||| (d.word (drpKey drpPort reg) &&& ~~~mask)) &&& 0xffff) ∨
    (xilinxXcvrDrpUpdate drpPort reg mask val d).2.word = d.word ∧
      ∃ e, (xilinxXcvrDrpUpdate drpPort reg mask val d).1 = .error e := by
  unfold xilinxXcvrDrpUpdate
  rcases hread : xilinxXcvrDrpRead drpPort reg d with ⟨e | v, t⟩
  · have hregs := @drpRead_regs d drpPort reg
    rw [hread] at hregs
    right
    rw [bind_error hread]
    exact ⟨funext fun k => congrArg (fun r => (r k).toUInt32) hregs, e, rfl⟩
  · obtain ⟨rfl, hregs⟩ := drpRead_ok hread
    have hword : t.word = d.word := funext fun k => congrArg (fun r => (r k).toUInt32) hregs
    rw [bind_ok hread, ← hword]
    exact drpWrite_cases

lemma updated_and_not (k : DrpKey) (hval : mask &&& val = val) :
    ((val ||| (d.word k &&& ~~~mask)) &&& 0xffff) &&& ~~~mask = d.word k &&& ~~~mask := by
  have hword := word_and (d := d) k
  apply ext_bits
  intro i hi
  have hbit := congrArg (fun x : UInt32 => x.toBitVec[i]) hval
  have hword := congrArg (fun x : UInt32 => x.toBitVec[i]) hword
  simp only [UInt32.toBitVec_and, UInt32.toBitVec_or, UInt32.toBitVec_not, BitVec.getElem_and,
    BitVec.getElem_or, BitVec.getElem_not] at hbit hword ⊢
  grind

lemma updated_and (k : DrpKey) (hmask : 0xffff &&& mask = mask) (hval : mask &&& val = val) :
    ((val ||| (d.word k &&& ~~~mask)) &&& 0xffff) &&& mask = val := by
  rw [UInt32.and_assoc, hmask, UInt32.or_comm, update_and (UInt32.and_self)]
  rw [UInt32.and_comm, hval]

lemma moves_update (hval : mask &&& val = val) (hfield : fields (drpKey drpPort reg) &&& mask = mask) :
    Moves (Drp.KeepsOutside fields) (xilinxXcvrDrpUpdate drpPort reg mask val) := by
  intro d
  rcases @drpUpdate_cases d drpPort reg mask val with h | ⟨h, -⟩
  · rw [Drp.KeepsOutside, h]
    apply Keeps.write
    exact and_not_mono hfield (updated_and_not _ hval)
  · rw [Drp.KeepsOutside, h]
    exact Keeps.refl _ _

lemma ensures_update (hmask : 0xffff &&& mask = mask) (hval : mask &&& val = val) :
    Ensures (xilinxXcvrDrpUpdate drpPort reg mask val) d fun _ d' =>
      d'.word (drpKey drpPort reg) &&& mask = val := by
  intro a d' hrun
  rcases @drpUpdate_cases d drpPort reg mask val with h | ⟨-, e, h⟩
  · rw [hrun] at h
    dsimp only at h
    rw [h, Function.update_self]
    exact updated_and _ hmask hval
  · rw [hrun] at h
    exact absurd h nofun

lemma moves_write (hfield : fields (drpKey drpPort reg) = 0xffff) :
    Moves (Drp.KeepsOutside fields) (xilinxXcvrDrpWrite drpPort reg val) := by
  intro d
  rcases @drpWrite_cases d drpPort reg val with h | ⟨h, -⟩
  · rw [Drp.KeepsOutside, h]
    apply Keeps.write
    have hnone : (0xffff : UInt32) &&& ~~~(0xffff : UInt32) = 0 := by decide
    rw [hfield, ← word_and, UInt32.and_assoc, UInt32.and_assoc, hnone]
    simp
  · rw [Drp.KeepsOutside, h]
    exact Keeps.refl _ _

lemma moves_orFail_bind {α β : Type} {o : Option α} {f : α → Fallible Drp β}
    (h : ∀ a, o = some a → Moves (Drp.KeepsOutside fields) (f a)) :
    Moves (Drp.KeepsOutside fields) (orFail o >>= f) := by
  cases o with
  | none => exact fun d => Drp.KeepsOutside.refl _ _
  | some a => exact h a rfl

lemma ensures_orFail_bind {α β : Type} {o : Option α} {f : α → Fallible Drp β} {post : β → Drp → Prop}
    (h : ∀ a, o = some a → Ensures (f a) d post) : Ensures (orFail o >>= f) d post := by
  cases o with
  | none => exact fun b d' hrun => absurd (Prod.mk.inj hrun).1 nofun
  | some a => exact h a rfl

end Ports

/-- The fields of a table at a port. -/
def portFields (drpPort : UInt32) (table : List (UInt32 × UInt32)) (k : DrpKey) : UInt32 :=
  if k.common = decide (drpPort < ADXCVR_DRP_PORT_CHANNEL 0) ∧ k.sel = drpPort &&& 0xFF then
    (table.lookup k.reg).getD 0
  else 0

def cpllFields (gtx2 : Bool) : List (UInt32 × UInt32) :=
  if gtx2 then [(CPLL_REFCLK_DIV_M_ADDR, CPLL_REFCLK_DIV_M_MASK ||| CPLL_FB_DIV_45_N1_MASK ||| CPLL_FBDIV_N2_MASK)]
  else [(0x28, 0xff80), (0x2a, 0xf800)]

def qpllFields (gtx2 : Bool) : List (UInt32 × UInt32) :=
  if gtx2 then [(QPLL_CFG0_ADDR, QPLL_CFG0_LOWBAND_MASK), (QPLL_CFG1_ADDR, QPLL_REFCLK_DIV_M_MASK),
    (QPLL_FBDIV_N_ADDR, QPLL_FBDIV_N_MASK), (QPLL_FBDIV_RATIO_ADDR, QPLL_FBDIV_RATIO_MASK)]
  else [(QPLL_FBDIV 0, 0xff), (QPLL_REFCLK_DIV 0, 0xf80)]

/-- The output divider of one direction. -/
def outDivFields (gtx2 tx : Bool) : List (UInt32 × UInt32) :=
  if gtx2 then [(OUT_DIV_ADDR, if tx then 0x70 else 0x07)] else if tx then [(0x7c, 0x700)] else [(0x63, 0x7)]

def clk25Fields (gtx2 tx : Bool) : List (UInt32 × UInt32) :=
  if gtx2 then if tx then [(TX_CLK25_DIV, TX_CLK25_DIV_MASK)] else [(RX_CLK25_DIV, RX_CLK25_DIV_MASK)]
  else if tx then [(0x7a, 0xf800)] else [(0x6d, 0xf8)]

def cdrFields (gtx2 : Bool) : List (UInt32 × UInt32) :=
  if gtx2 then [(RXCDR_CFG0_ADDR, 0xffff), (RXCDR_CFG1_ADDR, 0xffff), (RXCDR_CFG2_ADDR, 0xffff),
    (RXCDR_CFG3_ADDR, 0xffff), (RXCDR_CFG4_ADDR, RXCDR_CFG4_MASK)]
  else []

def XilinxXcvr.gtx2 (xcvr : XilinxXcvr) : Bool := xcvr.type = .S7_GTX2

section Tables

variable {fields : DrpKey → UInt32} {drpPort reg mask val : UInt32} {table : List (UInt32 × UInt32)} {d : Drp}
  {xcvr : XilinxXcvr}

lemma portFields_key (hreg : reg &&& 0xFFF = reg) (h : table.lookup reg = some mask) :
    portFields drpPort table (drpKey drpPort reg) = mask := by
  unfold portFields drpKey
  rw [if_pos ⟨rfl, rfl⟩, hreg, h]
  rfl

lemma moves_table_update (hreg : reg &&& 0xFFF = reg) (h : table.lookup reg = some mask)
    (hval : mask &&& val = val) :
    Moves (Drp.KeepsOutside (portFields drpPort table)) (xilinxXcvrDrpUpdate drpPort reg mask val) := by
  apply moves_update hval
  rw [portFields_key hreg h, UInt32.and_self]

lemma moves_table_write (hreg : reg &&& 0xFFF = reg) (h : table.lookup reg = some 0xffff) :
    Moves (Drp.KeepsOutside (portFields drpPort table)) (xilinxXcvrDrpWrite drpPort reg val) :=
  moves_write (portFields_key hreg h)

lemma cpllWriteN1_field {n v : UInt32} (h : cpllWriteN1 n = some v) : n = 4 ∧ v = 0 ∨ n = 5 ∧ v = 0x80 := by
  unfold cpllWriteN1 at h
  split_ifs at h <;> simp_all [CPLL_FB_DIV_45_N1_MASK]

lemma cpllWriteN2_field {n v : UInt32} (h : cpllWriteN2 n = some v) :
    n = 1 ∧ v = 0x10 ∨ n = 2 ∧ v = 0 ∨ n = 3 ∧ v = 1 ∨ n = 4 ∧ v = 2 ∨ n = 5 ∧ v = 3 := by
  unfold cpllWriteN2 at h
  split_ifs at h <;> simp_all

lemma gtx2CpllRefclk_field {n v : UInt32} (h : gtx2CpllRefclk n = some v) :
    n = 1 ∧ v = 0x1f00 ∨ n = 2 ∧ v = 0 := by
  unfold gtx2CpllRefclk at h
  split_ifs at h <;> simp_all [CPLL_REFCLK_DIV_M_MASK]

lemma gth34CpllRefclk_field {n v : UInt32} (h : gth34CpllRefclk n = some v) : n = 1 ∧ v = 16 ∨ n = 2 ∧ v = 0 := by
  unfold gth34CpllRefclk at h
  split_ifs at h <;> simp_all

lemma qpllRefclk_field {n v : UInt32} (h : qpllRefclk n = some v) :
    n = 1 ∧ v = 16 ∨ n = 2 ∧ v = 0 ∨ n = 3 ∧ v = 1 ∨ n = 4 ∧ v = 2 := by
  unfold qpllRefclk at h
  split_ifs at h <;> simp_all

lemma outDivToVal_field (n : UInt32) : xilinxXcvrOutDivToVal n = 0 ∨ xilinxXcvrOutDivToVal n = 1 ∨
    xilinxXcvrOutDivToVal n = 2 ∨ xilinxXcvrOutDivToVal n = 3 ∨ xilinxXcvrOutDivToVal n = 4 := by
  unfold xilinxXcvrOutDivToVal
  split_ifs <;> simp

lemma gtx2Cpll_field {conf : XilinxXcvrCpllConfig} {n1 n2 refclk : UInt32} (hn1 : cpllWriteN1 conf.fbDivN1 = some n1)
    (hn2 : cpllWriteN2 conf.fbDivN2 = some n2) (hrefclk : gtx2CpllRefclk conf.refclkDiv = some refclk) :
    (CPLL_REFCLK_DIV_M_MASK ||| CPLL_FB_DIV_45_N1_MASK ||| CPLL_FBDIV_N2_MASK) &&& (n1 ||| n2 ||| refclk) =
      n1 ||| n2 ||| refclk := by
  rcases cpllWriteN1_field hn1 with ⟨-, rfl⟩ | ⟨-, rfl⟩ <;>
  rcases cpllWriteN2_field hn2 with ⟨-, rfl⟩ | ⟨-, rfl⟩ | ⟨-, rfl⟩ | ⟨-, rfl⟩ | ⟨-, rfl⟩ <;>
  rcases gtx2CpllRefclk_field hrefclk with ⟨-, rfl⟩ | ⟨-, rfl⟩ <;>
  rfl

lemma gth34Cpll_field {conf : XilinxXcvrCpllConfig} {n1 n2 : UInt32} (hn1 : cpllWriteN1 conf.fbDivN1 = some n1)
    (hn2 : cpllWriteN2 conf.fbDivN2 = some n2) : (0xff80 : UInt32) &&& ((n2 <<< 8) ||| n1) = (n2 <<< 8) ||| n1 := by
  rcases cpllWriteN1_field hn1 with ⟨-, rfl⟩ | ⟨-, rfl⟩ <;>
  rcases cpllWriteN2_field hn2 with ⟨-, rfl⟩ | ⟨-, rfl⟩ | ⟨-, rfl⟩ | ⟨-, rfl⟩ | ⟨-, rfl⟩ <;>
  rfl

lemma gth34Refclk_field {n v : UInt32} (h : gth34CpllRefclk n = some v) :
    (0xf800 : UInt32) &&& (v <<< 11) = v <<< 11 := by
  rcases gth34CpllRefclk_field h with ⟨-, rfl⟩ | ⟨-, rfl⟩ <;> rfl

/-- The field of the reference divider of a common block, which is within five bits. -/
lemma qpllRefclk_shift {n v : UInt32} (h : qpllRefclk n = some v) :
    (0xf80 : UInt32) &&& (v <<< 7) = v <<< 7 ∧ QPLL_REFCLK_DIV_M_MASK &&& QPLL_REFCLK_DIV_M v = QPLL_REFCLK_DIV_M v := by
  rcases qpllRefclk_field h with ⟨-, rfl⟩ | ⟨-, rfl⟩ | ⟨-, rfl⟩ | ⟨-, rfl⟩ <;> exact ⟨rfl, rfl⟩

lemma moves_cpllWrite (conf : XilinxXcvrCpllConfig) :
    Moves (Drp.KeepsOutside (portFields drpPort (cpllFields xcvr.gtx2)))
      (xilinxXcvrCpllWriteConfig xcvr drpPort conf) := by
  unfold xilinxXcvrCpllWriteConfig XilinxXcvr.gtx2
  split_ifs with hgtx2
  · rw [decide_eq_true hgtx2]
    unfold xilinxXcvrGtx2CpllWriteConfig
    apply moves_orFail_bind
    intro n1 hn1
    apply moves_orFail_bind
    intro n2 hn2
    apply moves_orFail_bind
    intro refclk hrefclk
    exact moves_table_update (by decide) (by decide) (gtx2Cpll_field hn1 hn2 hrefclk)
  · rw [decide_eq_false hgtx2]
    unfold xilinxXcvrGth34CpllWriteConfig
    apply moves_orFail_bind
    intro n2 hn2
    apply moves_orFail_bind
    intro n1 hn1
    apply moves_bind
    · exact moves_table_update (by decide) (by decide) (gth34Cpll_field hn1 hn2)
    · intro _
      apply moves_orFail_bind
      intro val hval
      exact moves_table_update (by decide) (by decide) (gth34Refclk_field hval)

lemma qpllFbDiv_field {n : UInt32} (h : n ∈ N_gth34) : (0xff : UInt32) &&& (n - 2) = n - 2 := by
  revert n
  decide

lemma gtx2FbDiv_field {n v : UInt32} (h : (gtx2FbDiv.find? fun p => p.1 = n).map Prod.snd = some v) :
    QPLL_FBDIV_N_MASK &&& v = v := by
  obtain ⟨p, hp, rfl⟩ := Option.map_eq_some_iff.mp h
  have hfields : ∀ p ∈ gtx2FbDiv, QPLL_FBDIV_N_MASK &&& p.2 = p.2 := by decide
  exact hfields p (List.mem_of_find?_eq_some hp)

lemma moves_qpllWrite {conf : XilinxXcvrQpllConfig} (hconf : xcvr.gtx2 = false → conf.fbDiv ∈ N_gth34) :
    Moves (Drp.KeepsOutside (portFields drpPort (qpllFields xcvr.gtx2)))
      (xilinxXcvrQpllWriteConfig xcvr drpPort conf) := by
  unfold xilinxXcvrQpllWriteConfig
  split_ifs with hgtx2
  · obtain htype : xcvr.gtx2 = true := decide_eq_true hgtx2
    rw [htype]
    unfold xilinxXcvrGtx2QpllWriteConfig
    apply moves_orFail_bind
    intro cfg1 hcfg1
    obtain ⟨refclk, hrefclk, rfl⟩ := Option.map_eq_some_iff.mp hcfg1
    apply moves_orFail_bind
    intro fbdiv hfbdiv
    apply moves_bind
    · apply moves_table_update (by decide) (by decide)
      split_ifs <;> rfl
    · intro _
      apply moves_bind
      · exact moves_table_update (by decide) (by decide) (qpllRefclk_shift hrefclk).2
      · intro _
        apply moves_bind
        · apply moves_table_update (by decide) (by decide)
          exact gtx2FbDiv_field hfbdiv
        · intro _
          apply moves_table_update (by decide) (by decide)
          split_ifs <;> rfl
  · obtain htype : xcvr.gtx2 = false := decide_eq_false hgtx2
    rw [htype]
    unfold xilinxXcvrGth34QpllWriteConfig
    apply moves_orFail_bind
    intro refclk hrefclk
    apply moves_bind
    · apply moves_table_update (by decide) (by decide)
      exact qpllFbDiv_field (hconf htype)
    · intro _
      exact moves_table_update (by decide) (by decide) (qpllRefclk_shift hrefclk).1

/-- The output dividers of the calculations. -/
def outDivs : List UInt32 := [1, 2, 4, 8, 16]

/-- The address, the mask and the offset of the output divider. -/
def outDivField (gtx2 tx : Bool) : UInt32 × UInt32 × UInt32 :=
  if gtx2 then if tx then (OUT_DIV_ADDR, 0x70, OUT_DIV_TX_OFFSET) else (OUT_DIV_ADDR, 0x07, OUT_DIV_RX_OFFSET)
  else if tx then (0x7c, 0x700, 8) else (0x63, 0x7, 0)

lemma writeOutDiv_eq {outDiv : UInt32} (h : outDiv ∈ outDivs) (tx : Bool) :
    xilinxXcvrWriteOutDiv xcvr drpPort (if tx then -1 else outDiv.toInt32) (if tx then outDiv.toInt32 else -1) =
      xilinxXcvrDrpUpdate drpPort (outDivField xcvr.gtx2 tx).1 (outDivField xcvr.gtx2 tx).2.1
        (xilinxXcvrOutDivToVal outDiv <<< (outDivField xcvr.gtx2 tx).2.2) := by
  have hnonneg : outDiv.toInt32 ≥ 0 ∧ outDiv.toInt32.toUInt32 = outDiv := by
    revert outDiv
    decide
  have hneg : ¬(-1 : Int32) ≥ 0 := by decide
  unfold xilinxXcvrWriteOutDiv
  split_ifs with hgtx2 htx htx
  · obtain htype : xcvr.gtx2 = true := decide_eq_true hgtx2
    rw [htype, htx]
    unfold xilinxXcvrGtx2WriteOutDiv
    rw [if_pos hnonneg.1, if_neg hneg, hnonneg.2]
    dsimp only
    rw [UInt32.or_zero, UInt32.or_zero]
    rfl
  · obtain htype : xcvr.gtx2 = true := decide_eq_true hgtx2
    rw [htype, Bool.eq_false_iff.mpr htx]
    unfold xilinxXcvrGtx2WriteOutDiv
    rw [if_pos hnonneg.1, if_neg hneg, hnonneg.2]
    dsimp only
    rw [UInt32.zero_or, UInt32.zero_or]
    rfl
  · obtain htype : xcvr.gtx2 = false := decide_eq_false hgtx2
    rw [htype, htx]
    unfold xilinxXcvrGth34WriteOutDiv writeOutDiv
    rw [if_pos hnonneg.1, if_neg hneg, hnonneg.2]
    rfl
  · obtain htype : xcvr.gtx2 = false := decide_eq_false hgtx2
    rw [htype, Bool.eq_false_iff.mpr htx]
    unfold xilinxXcvrGth34WriteOutDiv writeOutDiv
    rw [if_pos hnonneg.1, if_neg hneg, hnonneg.2]
    exact bind_pure_unit

lemma outDivToVal_shift (outDiv : UInt32) (gtx2 tx : Bool) : (outDivField gtx2 tx).2.1 &&&
      (xilinxXcvrOutDivToVal outDiv <<< (outDivField gtx2 tx).2.2) =
    xilinxXcvrOutDivToVal outDiv <<< (outDivField gtx2 tx).2.2 := by
  rcases outDivToVal_field outDiv with h | h | h | h | h <;>
  · rw [h]
    revert gtx2 tx
    decide

lemma moves_writeOutDiv {outDiv : UInt32} (h : outDiv ∈ outDivs) (tx : Bool) :
    Moves (Drp.KeepsOutside (portFields drpPort (outDivFields xcvr.gtx2 tx))) (xilinxXcvrWriteOutDiv xcvr drpPort
      (if tx then -1 else outDiv.toInt32) (if tx then outDiv.toInt32 else -1)) := by
  rw [writeOutDiv_eq h]
  apply moves_table_update
  · cases xcvr.gtx2 <;> cases tx <;> rfl
  · cases xcvr.gtx2 <;> cases tx <;> rfl
  · exact outDivToVal_shift outDiv xcvr.gtx2 tx

lemma moves_writeClk25 {reg mask offset div : UInt32} {table : List (UInt32 × UInt32)}
    (hreg : reg &&& 0xFFF = reg) (h : table.lookup reg = some mask)
    (hval : ∀ n : Fin 32, mask &&& (UInt32.ofNat n.val <<< offset) = UInt32.ofNat n.val <<< offset) :
    Moves (Drp.KeepsOutside (portFields drpPort table)) (writeClk25Div drpPort reg mask offset div) := by
  unfold writeClk25Div
  split_ifs with hdiv
  · exact fun d => Drp.KeepsOutside.refl _ _
  · apply moves_table_update hreg h
    obtain ⟨hzero, hle⟩ := not_or.mp hdiv
    rw [gt_iff_lt, UInt32.lt_iff_toNat_lt, Nat.not_lt] at hle
    have hle : div.toNat ≤ 32 := hle
    have hpred := Word.toNat_sub_one_add_one hzero
    have hself := hval ⟨(div - 1).toNat, by lia⟩
    rwa [UInt32.ofNat_toNat] at hself

lemma moves_writeTxClk25 (div : UInt32) :
    Moves (Drp.KeepsOutside (portFields drpPort (clk25Fields xcvr.gtx2 true)))
      (xilinxXcvrWriteTxClk25Div xcvr drpPort div) := by
  unfold xilinxXcvrWriteTxClk25Div XilinxXcvr.gtx2
  split_ifs with hgtx2
  · rw [decide_eq_true hgtx2]
    exact moves_writeClk25 (by decide) (by decide) (by decide)
  · rw [decide_eq_false hgtx2]
    exact moves_writeClk25 (by decide) (by decide) (by decide)

lemma moves_writeRxClk25 (div : UInt32) :
    Moves (Drp.KeepsOutside (portFields drpPort (clk25Fields xcvr.gtx2 false)))
      (xilinxXcvrWriteRxClk25Div xcvr drpPort div) := by
  unfold xilinxXcvrWriteRxClk25Div XilinxXcvr.gtx2
  split_ifs with hgtx2
  · rw [decide_eq_true hgtx2]
    exact moves_writeClk25 (by decide) (by decide) (by decide)
  · rw [decide_eq_false hgtx2]
    exact moves_writeClk25 (by decide) (by decide) (by decide)

lemma moves_configureCdr (laneRate outDiv : UInt32) (lpmEnable : Bool) :
    Moves (Drp.KeepsOutside (portFields drpPort (cdrFields xcvr.gtx2)))
      (xilinxXcvrConfigureCdr xcvr drpPort laneRate outDiv lpmEnable) := by
  unfold xilinxXcvrConfigureCdr XilinxXcvr.gtx2
  split_ifs with hgtx2
  · rw [decide_eq_true hgtx2]
    unfold xilinxXcvrGtx2ConfigureCdr
    apply moves_orFail_bind
    intro cfg1 _
    apply moves_bind (Moves.ignore (moves_table_write (by decide) (by decide)))
    intro _
    apply moves_bind (Moves.ignore (moves_table_write (by decide) (by decide)))
    intro _
    apply moves_bind (Moves.ignore (moves_table_write (by decide) (by decide)))
    intro _
    apply moves_bind (Moves.ignore (moves_table_write (by decide) (by decide)))
    intro _
    apply Moves.ignore
    apply moves_table_update (by decide) (by decide)
    split_ifs <;> rfl
  · exact fun d => Drp.KeepsOutside.refl _ _

end Tables

end NoOS
