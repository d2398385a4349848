import Mathlib.Data.Int.Bitwise
import Mathlib.Data.UInt
import Mathlib.Logic.Function.Basic
import NoOS.Drivers.Ad9361FirLines

/-!
# Loading a filter file

`ad9361_parse_fir` hands the coefficients of a filter file to `ad9361_load_fir_filter_coef`, for the transmit filter and
for the receive filter, and its path clocks to `ad9361_validate_enable_fir`, which divides by two of them.
-/

namespace NoOS
open Scanf

def FirChip.REG_TX_ENABLE_FILTER_CTRL : ℕ := 0x002
def FirChip.REG_RX_ENABLE_FILTER_CTRL : ℕ := 0x003
def REG_TX_FILTER_COEF_ADDR : ℕ := 0x060
def REG_TX_FILTER_COEF_WRITE_DATA_1 : ℕ := 0x061
def REG_TX_FILTER_COEF_WRITE_DATA_2 : ℕ := 0x062
def REG_TX_FILTER_COEF_READ_DATA_2 : ℕ := 0x064
def REG_TX_FILTER_CONF : ℕ := 0x065
def REG_RX_FILTER_COEF_ADDR : ℕ := 0x0F0
def REG_RX_FILTER_GAIN : ℕ := 0x0F6

def TX_FIR_GAIN_6DB : BitVec 8 := 1
def FIR_START_CLK : BitVec 8 := 1 <<< 1
def FIR_WRITE : BitVec 8 := 1 <<< 2
def FIR_SELECT (x : BitVec 8) : BitVec 8 := (x &&& 0x3) <<< 3
def FIR_NUM_TAPS (x : BitVec 8) : BitVec 8 := (x &&& 0x7) <<< 5

inductive FirDest
  | tx1
  | tx2
  | tx1tx2
  | rx1
  | rx2
  | rx1rx2
deriving DecidableEq

def FIR_IS_RX : ℤ := 0x80

def FirDest.val : FirDest → BitVec 8
  | .tx1 => 0x01
  | .tx2 => 0x02
  | .tx1tx2 => 0x03
  | .rx1 => 0x81
  | .rx2 => 0x82
  | .rx1rx2 => 0x83

/-- `dest & FIR_IS_RX` -/
def FirDest.isRx (dest : FirDest) : Bool := dest.val.getLsbD 7

/-- `switch (tx)` -/
def txDest (tx : ℤ) : Option FirDest :=
  if tx = 1 then some .tx1 else if tx = 2 then some .tx2 else if tx = 3 then some .tx1tx2 else none

/-- `switch (rx | FIR_IS_RX)` -/
def rxDest (rx : ℤ) : Option FirDest :=
  let dest := Int.lor rx FIR_IS_RX
  if dest = 0x81 then some .rx1 else if dest = 0x82 then some .rx2 else if dest = 0x83 then some .rx1rx2 else none

/-- The registers, and the coefficients of the transmit or receive filters by channel and tap. -/
structure FirChip where
  regs : ℕ → BitVec 8
  taps : Bool → ℕ → ℕ → BitVec 16

/-- `offs` -/
def firOffs (rx : Bool) : ℕ := if rx then REG_RX_FILTER_COEF_ADDR - REG_TX_FILTER_COEF_ADDR else 0

namespace FirChip

/-- A write to the configuration with `FIR_WRITE` stores the written data at the written address, in the filters of the
selected channels. -/
def spiWrite (c : FirChip) (reg : ℕ) (val : BitVec 8) : FirChip :=
  let regs := Function.update c.regs reg val
  { regs := regs
    taps := fun rx ch k =>
      if reg = REG_TX_FILTER_CONF + firOffs rx ∧ val &&& FIR_WRITE ≠ 0 ∧ ch < 2 ∧ val.getLsbD (3 + ch) ∧
          k = (regs (REG_TX_FILTER_COEF_ADDR + firOffs rx)).toNat then
        regs (REG_TX_FILTER_COEF_WRITE_DATA_2 + firOffs rx) ++ regs (REG_TX_FILTER_COEF_WRITE_DATA_1 + firOffs rx)
      else c.taps rx ch k }

/-- `ad9361_spi_writef` with a mask from bit 0 on -/
def spiWritef (c : FirChip) (reg : ℕ) (mask val : BitVec 8) : FirChip :=
  c.spiWrite reg (c.regs reg &&& ~~~mask ||| val &&& mask)

/-- The `k`-th coefficient -/
def writeTap (c : FirChip) (offs : ℕ) (conf : BitVec 8) (k : ℕ) (coef : BitVec 16) : FirChip :=
  let c := c.spiWrite (REG_TX_FILTER_COEF_ADDR + offs) (BitVec.ofNat 8 k)
  let c := c.spiWrite (REG_TX_FILTER_COEF_WRITE_DATA_1 + offs) ((coef &&& 0xFF).setWidth 8)
  let c := c.spiWrite (REG_TX_FILTER_COEF_WRITE_DATA_2 + offs) ((coef.sshiftRight 8).setWidth 8)
  let c := c.spiWrite (REG_TX_FILTER_CONF + offs) (conf ||| FIR_WRITE)
  let c := c.spiWrite (REG_TX_FILTER_COEF_READ_DATA_2 + offs) 0
  c.spiWrite (REG_TX_FILTER_COEF_READ_DATA_2 + offs) 0

/-- The loop over the coefficients from the `k`-th on. -/
def writeTaps (c : FirChip) (offs : ℕ) (conf : BitVec 8) (k : ℕ) : List (BitVec 16) → FirChip
  | [] => c
  | coef :: coefs => (c.writeTap offs conf k coef).writeTaps offs conf (k + 1) coefs

/-- `TX_FIR_ENABLE_INTERPOLATION(~0)` or `RX_FIR_ENABLE_DECIMATION(~0)` -/
def FIR_ENABLE : BitVec 8 := 0x3

/-- `fir_conf` with the bit of the gain -/
def firConf (gain : BitVec 8) (dest : FirDest) (ntaps : ℕ) : BitVec 8 :=
  gain ||| (FIR_NUM_TAPS (BitVec.ofNat 8 (ntaps / 16 - 1)) ||| FIR_SELECT dest.val ||| FIR_START_CLK)

/-- What `ad9361_load_fir_filter_coef` writes, with the interpolation or decimation of the phy. -/
def loadCoefs (c : FirChip) (dest : FirDest) (gainDb : ℤ) (rate : UInt8) (coef : List (BitVec 16)) : FirChip :=
  let offs := firOffs dest.isRx
  let ctrl := if dest.isRx then REG_RX_ENABLE_FILTER_CTRL else REG_TX_ENABLE_FILTER_CTRL
  let c := if dest.isRx then
      c.spiWrite REG_RX_FILTER_GAIN (BitVec.ofInt 8 (3 - (gainDb + 12).tdiv 6) &&& 0x3)
    else c
  let firEnable := c.regs ctrl &&& FIR_ENABLE
  let c := c.spiWritef ctrl FIR_ENABLE (if rate = 4 then 3 else rate.toBitVec)
  let conf := firConf (if ¬dest.isRx ∧ gainDb = -6 then TX_FIR_GAIN_6DB else 0) dest coef.length
  let c := c.spiWrite (REG_TX_FILTER_CONF + offs) conf
  let c := c.writeTaps offs conf 0 coef
  let c := c.spiWrite (REG_TX_FILTER_CONF + offs) conf
  let c := c.spiWrite (REG_TX_FILTER_CONF + offs) (conf &&& ~~~FIR_START_CLK)
  c.spiWritef ctrl FIR_ENABLE firEnable

end FirChip

/-- The fields of the phy that loading a filter file writes. -/
structure FirPhy where
  filtValid : Bool
  filtRxPathClks : PathClks
  filtTxPathClks : PathClks
  filtRxBwHz : UInt32
  filtTxBwHz : UInt32
  txFirInt : UInt8
  txFirNtaps : UInt8
  rxFirDec : UInt8
  rxFirNtaps : UInt8

structure FirResult where
  ret : ℤ
  phy : FirPhy
  chip : FirChip

namespace FirResult

/-- `ad9361_load_fir_filter_coef`, where reading the coefficients back has the result `verify`: 0 without `DEBUG`. -/
def loadFirFilterCoef (r : FirResult) (dest : FirDest) (gainDb : ℤ) (coef : List (BitVec 16)) (verify : ℤ) :
    FirResult :=
  if coef.length = 0 ∨ 128 < coef.length ∨ coef.length % 16 ≠ 0 then { r with ret := -EINVAL }
  else
    let ntaps := UInt8.ofNat coef.length
    { ret := verify
      phy := if dest.isRx then { r.phy with rxFirNtaps := ntaps } else { r.phy with txFirNtaps := ntaps }
      chip := r.chip.loadCoefs dest gainDb (if dest.isRx then r.phy.rxFirDec else r.phy.txFirInt) coef }

def loadTx (r : FirResult) (s : FirParse) (verify : ℤ) : FirResult :=
  match txDest s.tx.dest with
  | some dest =>
    { r with phy := { r.phy with txFirInt := UInt8.ofInt s.tx.rate } }.loadFirFilterCoef dest s.tx.gain
      (s.coef.map Prod.fst) verify
  | none => { r with ret := -EINVAL }

def loadRx (r : FirResult) (s : FirParse) (verify : ℤ) : FirResult :=
  match rxDest s.rx.dest with
  | some dest =>
    { r with phy := { r.phy with rxFirDec := UInt8.ofInt s.rx.rate } }.loadFirFilterCoef dest s.rx.gain
      (s.coef.map Prod.snd) verify
  | none => { r with ret := -EINVAL }

end FirResult

/-- The variables of the parser before the first line. -/
def FirPhy.start (phy : FirPhy) : FirParse where
  tx := ⟨-1, 0, 0⟩
  rx := ⟨-1, 0, 0⟩
  rtx := ⟨-1, phy.filtTxPathClks⟩
  rrx := ⟨-1, phy.filtRxPathClks⟩
  filtRxBwHz := 0
  filtTxBwHz := 0
  coef := []

/-- A `uint32_t` that is returned as an `int32_t`. -/
def sizeRet (size : ℕ) : ℤ := (BitVec.ofNat 32 size).toInt

/-- The loads after the last line. -/
def FirParse.finish (s : FirParse) (phy : FirPhy) (chip : FirChip) (size : ℕ) (verifyTx verifyRx : ℤ) : FirResult :=
  let phy := { phy with
    filtValid := false, filtRxBwHz := s.filtRxBwHz, filtTxBwHz := s.filtTxBwHz
    filtRxPathClks := s.rrx.clks, filtTxPathClks := s.rtx.clks }
  let r := ((FirResult.mk 0 phy chip).loadTx s verifyTx).loadRx s verifyRx
  if r.ret < 0 then r
  else { r with ret := sizeRet size, phy := { r.phy with filtValid := Int.lor s.rrx.mark s.rtx.mark = 0 } }

/-- `ad9361_parse_fir` of a buffer, with the byte behind it. -/
def parseFir (phy : FirPhy) (chip : FirChip) (data : List Char) (next : Char) (verifyTx verifyRx : ℤ) :
    Except FirFault FirResult :=
  (phy.start.parseLines (data ++ [next])).map fun s => s.finish phy chip data.length verifyTx verifyRx

/-- What the validation reads beside the path clocks. The filters may be changed and bypassed at any time. -/
structure FirSettings where
  bypassTxFir : Bool
  bypassRxFir : Bool
  txFirInt : UInt8
  txFirNtaps : UInt8
  rxFirDec : UInt8
  rxFirNtaps : UInt8

/-- Nothing for a division by zero. -/
def checkedDiv (a b : UInt32) : Option UInt32 := if b = 0 then none else some (a / b)

/-- An interpolation or decimation that the filters do not have, or too many taps. -/
def FirSettings.Refused (cfg : FirSettings) : Prop :=
  (¬cfg.bypassTxFir ∧ ¬(cfg.txFirInt = 1 ∨ cfg.txFirInt = 2 ∨ cfg.txFirInt = 4)) ∨
  (¬cfg.bypassTxFir ∧ cfg.txFirInt = 1 ∧ 64 < cfg.txFirNtaps) ∨
  (¬cfg.bypassRxFir ∧ ¬(cfg.rxFirDec = 1 ∨ cfg.rxFirDec = 2 ∨ cfg.rxFirDec = 4))

instance (cfg : FirSettings) : Decidable cfg.Refused := inferInstanceAs (Decidable (_ ∨ _ ∨ _))

/-- The path clocks of the receiver and the transmitter: those of the file, or those that the clock chain is calculated
to have. -/
def FirPhy.pathClks (phy : FirPhy) (cfg : FirSettings) (chain : Except ℤ (PathClks × PathClks)) :
    Except ℤ (PathClks × PathClks) :=
  if ¬phy.filtValid ∨ cfg.bypassRxFir ∨ cfg.bypassTxFir then chain else .ok (phy.filtRxPathClks, phy.filtTxPathClks)

local instance neZeroClks : NeZero 6 := ⟨by decide⟩

/-- The taps that there is time for between two samples. -/
def FirSettings.checkTaps (cfg : FirSettings) (rx tx : PathClks) : Option (Except ℤ (PathClks × PathClks)) := do
  let txMax ← if cfg.bypassTxFir then some 0 else (· * 16) <$> checkedDiv (tx 1) (tx 5)
  if ¬cfg.bypassTxFir ∧ txMax < cfg.txFirNtaps.toUInt32 then return .error (-EINVAL)
  let rxMax ← if cfg.bypassRxFir then some 0 else (· * 16) <$> checkedDiv (rx 1 / if rx 1 = rx 2 then 1 else 2) (rx 5)
  if ¬cfg.bypassRxFir ∧ rxMax < cfg.rxFirNtaps.toUInt32 then return .error (-EINVAL)
  return .ok (rx, tx)

/-- `ad9361_validate_enable_fir` up to the clocks that it sets: nothing for a division by zero, and an error when the
filter is refused. -/
def validateEnableFir (phy : FirPhy) (cfg : FirSettings) (chain : Except ℤ (PathClks × PathClks)) :
    Option (Except ℤ (PathClks × PathClks)) :=
  if cfg.Refused then some (.error (-EINVAL))
  else
    match phy.pathClks cfg chain with
    | .error e => some (.error e)
    | .ok (rx, tx) => cfg.checkTaps rx tx

/-- The clocks that the chain is calculated to have leave no rate at zero. -/
def ChainRuns (chain : Except ℤ (PathClks × PathClks)) : Prop := ∀ clks, chain = .ok clks → clks.1 5 ≠ 0 ∧ clks.2 5 ≠ 0

variable {phy : FirPhy} {cfg : FirSettings} {chain : Except ℤ (PathClks × PathClks)}

lemma checkedDiv_of_ne {a b : UInt32} (h : b ≠ 0) : checkedDiv a b = some (a / b) := if_neg h

lemma FirSettings.checkTaps_isSome {rx tx : PathClks} (hrx : rx 5 ≠ 0) (htx : tx 5 ≠ 0) :
    cfg.checkTaps rx tx ≠ none := by
  simp only [checkTaps, checkedDiv_of_ne hrx, checkedDiv_of_ne htx]
  cases cfg.bypassTxFir <;> cases cfg.bypassRxFir <;> simp <;> split_ifs <;> simp

lemma validate_isSome
    (h : ∀ clks, phy.pathClks cfg chain = .ok clks → clks.1 5 ≠ 0 ∧ clks.2 5 ≠ 0) :
    validateEnableFir phy cfg chain ≠ none := by
  rw [validateEnableFir]
  split_ifs
  · exact Option.some_ne_none _
  · split
    · exact Option.some_ne_none _
    · rename_i rx tx hclks
      have hne := h (rx, tx) hclks
      exact cfg.checkTaps_isSome hne.1 hne.2

/-- The clocks of the file are divided by exactly when they are valid. -/
lemma validate_safe_iff :
    (∀ cfg chain, ChainRuns chain → validateEnableFir phy cfg chain ≠ none) ↔
      (phy.filtValid = true → phy.filtTxPathClks 5 ≠ 0 ∧ phy.filtRxPathClks 5 ≠ 0) := by
  constructor
  · intro h hvalid
    have hrun := h ⟨false, false, 2, 0, 2, 0⟩ (.error 0) (fun _ h => by cases h)
    have htx : phy.filtTxPathClks 5 ≠ 0 := by
      intro hzero
      refine hrun ?_
      simp [validateEnableFir, FirSettings.Refused, FirPhy.pathClks, FirSettings.checkTaps, hvalid, hzero, checkedDiv]
    refine ⟨htx, fun hzero => hrun ?_⟩
    simp [validateEnableFir, FirSettings.Refused, FirPhy.pathClks, FirSettings.checkTaps, hvalid, hzero, htx,
      checkedDiv]
  · intro h cfg chain hchain
    refine validate_isSome fun clks hclks => ?_
    rw [FirPhy.pathClks] at hclks
    split_ifs at hclks with hcalc
    · exact hchain clks hclks
    · obtain rfl := Except.ok.inj hclks
      have hvalid : phy.filtValid = true := by
        by_contra hinvalid
        exact hcalc (.inl hinvalid)
      exact (h hvalid).symm

def pathOf (vs : List ℤ) : PathClks := fun n => UInt32.ofInt (vs.getD n 0)

/-- The clocks of the first complete path line. -/
def firstPath (k : FirLine) (lines : List (List Char)) : Option PathClks :=
  lines.findSome? fun line => if (k.read line).length = 6 then some (pathOf (k.read line)) else none

/-- The destination of the first line that begins as one for the receive filter and names one that is not negative. -/
def firstRx (lines : List (List Char)) : Option ℤ :=
  (lines.filterMap fun line => (FirLine.rx.read line).head?).find? (0 ≤ ·)

variable {lines : List (List Char)} {s : FirParse} {p : FirPath} {k : FirLine}

lemma PathClks.store_complete {vs : List ℤ} (clks : PathClks) (h : vs.length = 6) : clks.store vs = pathOf vs := by
  funext n
  have hn : n.val < vs.length := by lia
  simp [store, pathOf, hn]

lemma foldl_tryPath_of_nonneg (hp : 0 ≤ p.mark) :
    lines.foldl (fun p line => (p.tryPath (k.read line)).1) p = p := by
  induction lines with
  | nil => rfl
  | cons line lines ih =>
    have htry : (p.tryPath (k.read line)).1 = p := by rw [FirPath.tryPath, if_neg (Int.not_lt.mpr hp)]
    rw [List.foldl_cons, htry]
    exact ih

lemma foldl_tryPath (hp : p.mark < 0) :
    let q := lines.foldl (fun p line => (p.tryPath (k.read line)).1) p
    q.mark < 0 ∧ firstPath k lines = none ∨ ∃ clks, firstPath k lines = some clks ∧ q = ⟨0, clks⟩ := by
  induction lines generalizing p with
  | nil => exact .inl ⟨hp, rfl⟩
  | cons line lines ih =>
    simp only [List.foldl_cons, firstPath, List.findSome?_cons]
    by_cases hlen : (k.read line).length = 6
    · refine .inr ⟨pathOf (k.read line), by rw [if_pos hlen], ?_⟩
      have htry : (p.tryPath (k.read line)).1 = ⟨0, pathOf (k.read line)⟩ := by
        rw [FirPath.tryPath, if_pos hp, if_pos hlen, PathClks.store_complete _ hlen]
      rw [htry]
      exact foldl_tryPath_of_nonneg (le_refl _)
    · have htry : (p.tryPath (k.read line)).1.mark < 0 := by simp [FirPath.tryPath, hp, hlen]
      rw [if_neg hlen]
      exact ih htry

lemma foldl_rtx (lines : List (List Char)) (s : FirParse) :
    (lines.foldl FirParse.next s).rtx = lines.foldl (fun p line => (p.tryPath (FirLine.rtx.read line)).1) s.rtx := by
  induction lines generalizing s with
  | nil => rfl
  | cons line lines ih => exact ih (s.next line)

lemma foldl_rrx (lines : List (List Char)) (s : FirParse) :
    (lines.foldl FirParse.next s).rrx = lines.foldl (fun p line => (p.tryPath (FirLine.rrx.read line)).1) s.rrx := by
  induction lines generalizing s with
  | nil => rfl
  | cons line lines ih => exact ih (s.next line)

lemma foldl_coef (lines : List (List Char)) (s : FirParse) :
    (lines.foldl FirParse.next s).coef = s.coef ++ lines.flatMap lineCoefs := by
  induction lines generalizing s with
  | nil => simp
  | cons line lines ih =>
    rw [List.foldl_cons, ih, List.flatMap_cons, ← List.append_assoc]
    rfl

lemma rxDest_of_neg {z : ℤ} (h : z < 0) : rxDest z = none := by
  cases z with
  | ofNat n => exact absurd h (by simp)
  | negSucc n =>
    have hlt : Int.lor (Int.negSucc n) FIR_IS_RX < 0 := Int.negSucc_lt_zero _
    rw [rxDest, if_neg (by omega), if_neg (by omega), if_neg (by omega)]

lemma foldl_rx_of_nonneg (hs : 0 ≤ s.rx.dest) : (lines.foldl FirParse.next s).rx = s.rx := by
  induction lines generalizing s with
  | nil => rfl
  | cons line lines ih =>
    have hrx : (s.next line).rx = s.rx := if_neg (Int.not_lt.mpr hs)
    rw [List.foldl_cons, ih (by rw [hrx]; exact hs), hrx]

lemma foldl_rx (hs : s.rx.dest < 0) :
    rxDest (lines.foldl FirParse.next s).rx.dest = (firstRx lines).bind rxDest := by
  induction lines generalizing s with
  | nil => exact rxDest_of_neg hs
  | cons line lines ih =>
    have hnext : (s.next line).rx = s.rx.store (FirLine.rx.read line) := if_pos hs
    rw [List.foldl_cons, firstRx, List.filterMap_cons]
    cases hread : FirLine.rx.read line with
    | nil =>
      refine ih ?_
      rw [hnext, hread]
      exact hs
    | cons v vs =>
      have hdest : (s.next line).rx.dest = v := by rw [hnext, hread]; rfl
      by_cases hv : 0 ≤ v
      · rw [foldl_rx_of_nonneg (by rw [hdest]; exact hv), hdest]
        simp [hv]
      · have hfirst := ih (s := s.next line) (by rw [hdest]; omega)
        simpa [hv, firstRx] using hfirst

lemma marked_start (phy : FirPhy) : phy.start.Marked := ⟨fun _ => rfl, fun _ => rfl⟩

lemma marked_foldl (hs : s.Marked) (lines : List (List Char)) : (lines.foldl FirParse.next s).Marked := by
  induction lines generalizing s with
  | nil => exact hs
  | cons line lines ih => exact ih (s.marked_next line)

lemma parseFir_ok {chip : FirChip} {data : List Char} {next : Char} {verifyTx verifyRx : ℤ} {r : FirResult} :
    parseFir phy chip data next verifyTx verifyRx = .ok r ↔
      Terminated data next ∧ ((fileLines data).flatMap lineCoefs).length ≤ 128 ∧
        r = ((fileLines data).foldl FirParse.next phy.start).finish phy chip data.length verifyTx verifyRx := by
  have hrun : ∀ s, phy.start.parseLines (data ++ [next]) = .ok s ↔ Terminated data next ∧
      phy.start.Fits (fileLines data) ∧ s = (fileLines data).foldl FirParse.next phy.start :=
    fun s => FirParse.parseLines_eq_ok (marked_start phy) (Nat.zero_le _)
  have hfits : phy.start.Fits (fileLines data) ↔ ((fileLines data).flatMap lineCoefs).length ≤ 128 := by
    simp [FirParse.Fits, FirPhy.start]
  rw [parseFir]
  constructor
  · intro h
    cases hparse : phy.start.parseLines (data ++ [next]) with
    | error e => simp [hparse, Except.map] at h
    | ok s =>
      obtain ⟨hend, hcoef, rfl⟩ := (hrun s).mp hparse
      rw [hparse] at h
      exact ⟨hend, hfits.mp hcoef, (Except.ok.inj h).symm⟩
  · rintro ⟨hend, hcoef, rfl⟩
    rw [(hrun _).mpr ⟨hend, hfits.mpr hcoef, rfl⟩]
    rfl

/-- A number of taps that is loaded. -/
def TapsFit (n : ℕ) : Prop := n ≠ 0 ∧ n ≤ 128 ∧ n % 16 = 0

instance (n : ℕ) : Decidable (TapsFit n) := inferInstanceAs (Decidable (_ ∧ _ ∧ _))

namespace FirResult

variable {r : FirResult} {dest : FirDest} {gainDb verify : ℤ} {coef : List (BitVec 16)}

lemma loadFirFilterCoef_of_fit (h : TapsFit coef.length) :
    r.loadFirFilterCoef dest gainDb coef verify =
      { ret := verify
        phy := if dest.isRx then { r.phy with rxFirNtaps := UInt8.ofNat coef.length }
          else { r.phy with txFirNtaps := UInt8.ofNat coef.length }
        chip := r.chip.loadCoefs dest gainDb (if dest.isRx then r.phy.rxFirDec else r.phy.txFirInt) coef } := by
  have hn : ¬(coef.length = 0 ∨ 128 < coef.length ∨ coef.length % 16 ≠ 0) := by
    unfold TapsFit at h
    lia
  rw [loadFirFilterCoef, if_neg hn]

lemma loadFirFilterCoef_of_not_fit (h : ¬TapsFit coef.length) :
    r.loadFirFilterCoef dest gainDb coef verify = { r with ret := -EINVAL } := by
  have hn : coef.length = 0 ∨ 128 < coef.length ∨ coef.length % 16 ≠ 0 := by
    unfold TapsFit at h
    lia
  rw [loadFirFilterCoef, if_pos hn]

lemma loadFirFilterCoef_ret (r : FirResult) (dest : FirDest) (gainDb verify : ℤ) (coef : List (BitVec 16)) :
    (r.loadFirFilterCoef dest gainDb coef verify).ret = if TapsFit coef.length then verify else -EINVAL := by
  split_ifs with h
  · rw [loadFirFilterCoef_of_fit h]
  · rw [loadFirFilterCoef_of_not_fit h]

/-- Loading a filter writes neither the path clocks nor the bandwidths. -/
lemma loadFirFilterCoef_clks (r : FirResult) (dest : FirDest) (gainDb verify : ℤ) (coef : List (BitVec 16)) :
    (r.loadFirFilterCoef dest gainDb coef verify).phy.filtTxPathClks = r.phy.filtTxPathClks ∧
    (r.loadFirFilterCoef dest gainDb coef verify).phy.filtRxPathClks = r.phy.filtRxPathClks := by
  unfold loadFirFilterCoef
  split_ifs <;> exact ⟨rfl, rfl⟩

lemma loadTx_clks (r : FirResult) (s : FirParse) (verify : ℤ) :
    (r.loadTx s verify).phy.filtTxPathClks = r.phy.filtTxPathClks ∧
    (r.loadTx s verify).phy.filtRxPathClks = r.phy.filtRxPathClks := by
  unfold loadTx
  split
  · exact loadFirFilterCoef_clks _ _ _ _ _
  · exact ⟨rfl, rfl⟩

lemma loadRx_clks (r : FirResult) (s : FirParse) (verify : ℤ) :
    (r.loadRx s verify).phy.filtTxPathClks = r.phy.filtTxPathClks ∧
    (r.loadRx s verify).phy.filtRxPathClks = r.phy.filtRxPathClks := by
  unfold loadRx
  split
  · exact loadFirFilterCoef_clks _ _ _ _ _
  · exact ⟨rfl, rfl⟩

lemma loadRx_ret (r : FirResult) (s : FirParse) (verify : ℤ) :
    0 ≤ (r.loadRx s verify).ret ↔ rxDest s.rx.dest ≠ none ∧ TapsFit s.coef.length ∧ 0 ≤ verify := by
  have hpos : 0 < EINVAL := by decide
  unfold loadRx
  split
  · rename_i dest hdest
    rw [loadFirFilterCoef_ret, List.length_map]
    split_ifs with h <;> simp [h, hdest, hpos]
  · rename_i hdest
    simp [hdest, hpos]

end FirResult

lemma finish_success {chip : FirChip} {size : ℕ} {verifyTx verifyRx : ℤ}
    (h : rxDest s.rx.dest ≠ none ∧ TapsFit s.coef.length ∧ 0 ≤ verifyRx) :
    (s.finish phy chip size verifyTx verifyRx).phy.filtValid = decide (Int.lor s.rrx.mark s.rtx.mark = 0) ∧
    (s.finish phy chip size verifyTx verifyRx).phy.filtTxPathClks = s.rtx.clks ∧
    (s.finish phy chip size verifyTx verifyRx).phy.filtRxPathClks = s.rrx.clks := by
  rw [FirParse.finish]
  dsimp only
  rw [if_neg (Int.not_lt.mpr ((FirResult.loadRx_ret _ s verifyRx).mpr h))]
  refine ⟨rfl, ?_, ?_⟩
  · exact (FirResult.loadRx_clks _ _ _).1.trans (FirResult.loadTx_clks _ _ _).1
  · exact (FirResult.loadRx_clks _ _ _).2.trans (FirResult.loadTx_clks _ _ _).2

lemma finish_ret (s : FirParse) (phy : FirPhy) (chip : FirChip) (size : ℕ) (verifyTx verifyRx : ℤ) :
    0 ≤ (s.finish phy chip size verifyTx verifyRx).ret ↔
      (rxDest s.rx.dest ≠ none ∧ TapsFit s.coef.length ∧ 0 ≤ verifyRx) ∧ 0 ≤ sizeRet size := by
  rw [← FirResult.loadRx_ret, FirParse.finish]
  dsimp only
  split_ifs with hret
  · constructor
    · exact fun h => absurd h (Int.not_le.mpr hret)
    · exact fun h => absurd h.1 (Int.not_le.mpr hret)
  · exact ⟨fun h => ⟨Int.not_lt.mp hret, h⟩, fun h => h.2⟩

/-- The file loads the receive filter, and the size that is returned is no error. -/
def LoadsRx (data : List Char) (verifyRx : ℤ) : Prop :=
  ((firstRx (fileLines data)).bind rxDest ≠ none ∧ TapsFit ((fileLines data).flatMap lineCoefs).length ∧
    0 ≤ verifyRx) ∧ 0 ≤ sizeRet data.length

instance (data : List Char) (verifyRx : ℤ) : Decidable (LoadsRx data verifyRx) :=
  inferInstanceAs (Decidable ((_ ∧ _ ∧ _) ∧ _))

/-- A buffer that ends, with at most 128 coefficients, and without a sample clock at zero. -/
structure SafeBuffer (data : List Char) (next : Char) (verifyRx : ℤ) : Prop where
  ends : Terminated data next
  coefs : ((fileLines data).flatMap lineCoefs).length ≤ 128
  clks : LoadsRx data verifyRx → ∀ tx rx, firstPath .rtx (fileLines data) = some tx →
    firstPath .rrx (fileLines data) = some rx → tx 5 ≠ 0 ∧ rx 5 ≠ 0

/-- The buffer and the arrays are kept to, and the validation after a successful parse divides by no zero, whatever
the filters are set to then. -/
def ParsesSafely (phy : FirPhy) (chip : FirChip) (data : List Char) (next : Char) (verifyTx verifyRx : ℤ) : Prop :=
  ∃ r, parseFir phy chip data next verifyTx verifyRx = .ok r ∧
    (0 ≤ r.ret → ∀ cfg chain, ChainRuns chain → validateEnableFir r.phy cfg chain ≠ none)

lemma marks_iff (lines : List (List Char)) (phy : FirPhy) :
    Int.lor (lines.foldl FirParse.next phy.start).rrx.mark (lines.foldl FirParse.next phy.start).rtx.mark = 0 ↔
      (firstPath .rtx lines).isSome ∧ (firstPath .rrx lines).isSome := by
  have hmarked := marked_foldl (marked_start phy) lines
  have hside : ∀ {q : FirPath} {k : FirLine}, q.Marked →
      (q.mark < 0 ∧ firstPath k lines = none ∨ ∃ clks, firstPath k lines = some clks ∧ q = ⟨0, clks⟩) →
        q.mark = if (firstPath k lines).isSome then 0 else -1 := by
    rintro q k hq (⟨hlt, hnone⟩ | ⟨clks, hsome, rfl⟩)
    · simp [hnone, hq hlt]
    · simp [hsome]
  have hneg : (-1 : ℤ) < 0 := by decide
  have hrtx := @foldl_tryPath lines phy.start.rtx .rtx hneg
  have hrrx := @foldl_tryPath lines phy.start.rrx .rrx hneg
  rw [← foldl_rtx] at hrtx
  rw [← foldl_rrx] at hrrx
  rw [hside hmarked.rtx hrtx, hside hmarked.rrx hrrx]
  cases (firstPath .rtx lines).isSome <;> cases (firstPath .rrx lines).isSome <;> decide

lemma foldl_clks (hp : p.mark < 0) {clks : PathClks} (h : firstPath k lines = some clks) :
    (lines.foldl (fun p line => (p.tryPath (k.read line)).1) p).clks = clks := by
  obtain ⟨-, hnone⟩ | ⟨clks', hsome, heq⟩ := @foldl_tryPath lines p k hp
  · rw [h] at hnone
    cases hnone
  · rw [heq, ← Option.some.inj (h.symm.trans hsome)]

lemma path_lines (lines : List (List Char)) (phy : FirPhy) :
    let s := lines.foldl FirParse.next phy.start
    (Int.lor s.rrx.mark s.rtx.mark = 0 → s.rtx.clks 5 ≠ 0 ∧ s.rrx.clks 5 ≠ 0) ↔
      ∀ tx rx, firstPath .rtx lines = some tx → firstPath .rrx lines = some rx → tx 5 ≠ 0 ∧ rx 5 ≠ 0 := by
  intro s
  have hneg : (-1 : ℤ) < 0 := by decide
  have hmarks : Int.lor s.rrx.mark s.rtx.mark = 0 ↔ _ := marks_iff lines phy
  have hclks : ∀ {tx rx}, firstPath .rtx lines = some tx → firstPath .rrx lines = some rx →
      s.rtx.clks = tx ∧ s.rrx.clks = rx := by
    intro tx rx htx hrx
    constructor
    · rw [foldl_rtx]
      exact foldl_clks (p := phy.start.rtx) hneg htx
    · rw [foldl_rrx]
      exact foldl_clks (p := phy.start.rrx) hneg hrx
  rw [hmarks]
  constructor
  · intro h tx rx htx hrx
    obtain ⟨rfl, rfl⟩ := hclks htx hrx
    exact h ⟨by rw [htx]; rfl, by rw [hrx]; rfl⟩
  · rintro h ⟨htx, hrx⟩
    obtain ⟨tx, htx⟩ := Option.isSome_iff_exists.mp htx
    obtain ⟨rx, hrx⟩ := Option.isSome_iff_exists.mp hrx
    obtain ⟨rfl, rfl⟩ := hclks htx hrx
    exact h _ _ htx hrx

lemma finish_loads (data : List Char) (phy : FirPhy) (chip : FirChip) (verifyTx verifyRx : ℤ) :
    0 ≤ (((fileLines data).foldl FirParse.next phy.start).finish phy chip data.length verifyTx verifyRx).ret ↔
      LoadsRx data verifyRx := by
  have hneg : (-1 : ℤ) < 0 := by decide
  have hcoef : phy.start.coef = [] := rfl
  rw [finish_ret, LoadsRx, foldl_coef, foldl_rx (s := phy.start) hneg, hcoef, List.nil_append]

/-- The validation after it divides by the sample clocks of the path lines. -/
lemma finish_divides {data : List Char} {phy : FirPhy} {chip : FirChip} {verifyTx verifyRx : ℤ}
    (h : LoadsRx data verifyRx) :
    (∀ cfg chain, ChainRuns chain →
        validateEnableFir (((fileLines data).foldl FirParse.next phy.start).finish phy chip data.length verifyTx
          verifyRx).phy cfg chain ≠ none) ↔
      ∀ tx rx, firstPath .rtx (fileLines data) = some tx → firstPath .rrx (fileLines data) = some rx →
        tx 5 ≠ 0 ∧ rx 5 ≠ 0 := by
  have hret := (finish_loads data phy chip verifyTx verifyRx).mpr h
  obtain ⟨hvalid, htx, hrx⟩ := @finish_success phy _ chip data.length verifyTx verifyRx
    ((finish_ret _ _ _ _ _ _).mp hret).1
  rw [validate_safe_iff, hvalid, htx, hrx, decide_eq_true_iff]
  exact path_lines (fileLines data) phy

lemma safeBuffer_of_parsesSafely {phy : FirPhy} {chip : FirChip} {data : List Char} {next : Char}
    {verifyTx verifyRx : ℤ} (h : ParsesSafely phy chip data next verifyTx verifyRx) : SafeBuffer data next verifyRx := by
  obtain ⟨r, hr, hdiv⟩ := h
  obtain ⟨hend, hle, rfl⟩ := parseFir_ok.mp hr
  exact ⟨hend, hle, fun hloads => (finish_divides hloads).mp (hdiv ((finish_loads _ _ _ _ _).mpr hloads))⟩

/-- Parsing is safe exactly for a safe buffer. -/
theorem parseFir_safe_iff (phy : FirPhy) (chip : FirChip) (data : List Char) (next : Char) (verifyTx verifyRx : ℤ) :
    ParsesSafely phy chip data next verifyTx verifyRx ↔ SafeBuffer data next verifyRx := by
  constructor
  · exact safeBuffer_of_parsesSafely
  · intro h
    refine ⟨_, parseFir_ok.mpr ⟨h.ends, h.coefs, rfl⟩, fun hsuccess => ?_⟩
    have hloads := (finish_loads data phy chip verifyTx verifyRx).mp hsuccess
    exact (finish_divides hloads).mpr (h.clks hloads)

def FirPhy.cleared : FirPhy := ⟨false, fun _ => 0, fun _ => 0, 0, 0, 0, 0, 0, 0⟩

def FirChip.cleared : FirChip := ⟨fun _ => 0, fun _ _ _ => 0⟩

/-- A filter file with a transmit and a receive path that have a sample clock of 0 -/
def zeroClockFile : List Char :=
  "TX 3 GAIN 0 INT 2\nRX 3 GAIN 0 DEC 2\nRTX 8 8 4 2 1 0\nRRX 8 8 4 2 1 0\n".toList ++
    (List.replicate 16 ['1', '\n']).flatten

/-- More than 128 coefficients, a sample clock of 0, and a last line without an end. -/
theorem not_parseFir_safe :
    ¬ParsesSafely .cleared .cleared (List.replicate 129 ['1', '\n']).flatten NUL 0 0 ∧
    ¬ParsesSafely .cleared .cleared zeroClockFile NUL 0 0 ∧
    ¬ParsesSafely .cleared .cleared ['1'] '2' 0 0 := by
  refine ⟨fun h => ?_, fun h => ?_, fun h => ?_⟩
  · exact absurd (safeBuffer_of_parsesSafely h).coefs (by decide +kernel)
  · have hloads : LoadsRx zeroClockFile 0 := by decide
    have htx : (firstPath .rtx (fileLines zeroClockFile)).map (· 5) = some 0 := by decide
    have hrx : (firstPath .rrx (fileLines zeroClockFile)).map (· 5) = some 0 := by decide
    obtain ⟨tx, htx, hzero⟩ := Option.map_eq_some_iff.mp htx
    obtain ⟨rx, hrx, -⟩ := Option.map_eq_some_iff.mp hrx
    exact ((safeBuffer_of_parsesSafely h).clks hloads tx rx htx hrx).1 hzero
  · exact absurd (safeBuffer_of_parsesSafely h).ends (by decide)

end NoOS
