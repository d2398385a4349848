import Mathlib.Tactic.IntervalCases
import NoOS.Drivers.Ad9361ParseFir

/-!
# The order of the lines of a filter file

A filter file that is complete loads both filters, in whatever order its lines are, unless something stands between the
transmit line and the receive line after it.
-/

namespace NoOS
open Scanf

namespace FirChip

variable {c : FirChip} {reg : ℕ} {val conf : BitVec 8} {rx rx' : Bool} {ch i k : ℕ} {coef : BitVec 16}

lemma firOffs_inj : firOffs rx = firOffs rx' ↔ rx = rx' := by
  cases rx <;> cases rx' <;> decide

lemma spiWrite_regs_self (c : FirChip) (reg : ℕ) (val : BitVec 8) : (c.spiWrite reg val).regs reg = val :=
  Function.update_self ..

lemma spiWrite_regs_of_ne {reg' : ℕ} (h : reg' ≠ reg) : (c.spiWrite reg val).regs reg' = c.regs reg' :=
  Function.update_of_ne h ..

lemma spiWrite_taps (h : ∀ rx, reg = REG_TX_FILTER_CONF + firOffs rx → val &&& FIR_WRITE = 0) :
    (c.spiWrite reg val).taps = c.taps := by
  funext rx ch k
  refine if_neg fun hwrite => ?_
  exact hwrite.2.1 (h rx hwrite.1)

lemma bytes_append (coef : BitVec 16) :
    (coef.sshiftRight 8).setWidth 8 ++ (coef &&& 0xFF).setWidth 8 = coef := by
  ext j hj
  rw [BitVec.getElem_append]
  split_ifs with hlow
  · have hmask : (255 : BitVec 16).getLsbD j = true := by interval_cases j <;> rfl
    rw [BitVec.getElem_setWidth, BitVec.getLsbD_and, hmask, Bool.and_true, BitVec.getLsbD_eq_getElem]
  · have hsum : 8 + (j - 8) = j := by lia
    rw [BitVec.getElem_setWidth, BitVec.getLsbD_sshiftRight]
    simp only [hsum, show ¬16 ≤ j - 8 by lia, decide_false, Bool.not_false, Bool.true_and, if_pos hj]
    rw [BitVec.getLsbD_eq_getElem]

lemma select_of_write (hch : ch < 2) : (conf ||| FIR_WRITE).getLsbD (3 + ch) = conf.getLsbD (3 + ch) := by
  rw [BitVec.getLsbD_or]
  have hbit : FIR_WRITE.getLsbD (3 + ch) = false := by interval_cases ch <;> rfl
  rw [hbit, Bool.or_false]

lemma write_ne_zero (conf : BitVec 8) : (conf ||| FIR_WRITE) &&& FIR_WRITE ≠ 0 := by
  intro h
  have hbit := congrArg (fun x : BitVec 8 => x.getLsbD 2) h
  simp [FIR_WRITE] at hbit

/-- The registers of a filter are apart, and those of the filters from each other. -/
lemma reg_ne {a b : ℕ} (h : a ≠ b) (ha : 0x60 ≤ a ∧ a ≤ 0x65) (hb : 0x60 ≤ b ∧ b ≤ 0x65) :
    a + firOffs rx ≠ b + firOffs rx' := by
  cases rx <;> cases rx' <;> simp [firOffs, REG_RX_FILTER_COEF_ADDR, REG_TX_FILTER_COEF_ADDR] <;> lia

lemma spiWrite_conf_taps :
    (c.spiWrite (REG_TX_FILTER_CONF + firOffs rx) (conf ||| FIR_WRITE)).taps rx' ch i =
      if rx' = rx ∧ ch < 2 ∧ conf.getLsbD (3 + ch) ∧ i = (c.regs (REG_TX_FILTER_COEF_ADDR + firOffs rx)).toNat then
        c.regs (REG_TX_FILTER_COEF_WRITE_DATA_2 + firOffs rx) ++ c.regs (REG_TX_FILTER_COEF_WRITE_DATA_1 + firOffs rx)
      else c.taps rx' ch i := by
  have hkeep : ∀ reg, reg ≠ REG_TX_FILTER_CONF → 0x60 ≤ reg ∧ reg ≤ 0x65 →
      Function.update c.regs (REG_TX_FILTER_CONF + firOffs rx) (conf ||| FIR_WRITE) (reg + firOffs rx) =
        c.regs (reg + firOffs rx) :=
    fun reg hne hle => Function.update_of_ne (reg_ne hne hle (by decide)) ..
  by_cases hrx : rx' = rx
  · subst hrx
    simp only [spiWrite, hkeep _ (show REG_TX_FILTER_COEF_ADDR ≠ REG_TX_FILTER_CONF by decide) (by decide),
      hkeep _ (show REG_TX_FILTER_COEF_WRITE_DATA_1 ≠ REG_TX_FILTER_CONF by decide) (by decide),
      hkeep _ (show REG_TX_FILTER_COEF_WRITE_DATA_2 ≠ REG_TX_FILTER_CONF by decide) (by decide), true_and,
      eq_true (write_ne_zero conf)]
    by_cases hch : ch < 2
    · simp only [hch, select_of_write hch, true_and]
    · simp [hch]
  · have hother : ¬rx = rx' := fun h => hrx h.symm
    simp [spiWrite, firOffs_inj, hrx, hother]

lemma writeTap_taps (hk : k < 256) :
    (c.writeTap (firOffs rx) conf k coef).taps rx' ch i =
      if rx' = rx ∧ ch < 2 ∧ conf.getLsbD (3 + ch) ∧ i = k then coef else c.taps rx' ch i := by
  have hother : ∀ {reg}, reg ≠ REG_TX_FILTER_CONF → 0x60 ≤ reg ∧ reg ≤ 0x65 → ∀ (c : FirChip) val,
      (c.spiWrite (reg + firOffs rx) val).taps = c.taps :=
    fun hne hle c val => spiWrite_taps fun rx' heq => absurd heq (reg_ne hne hle (by decide))
  rw [writeTap, hother (by decide) (by decide), hother (by decide) (by decide), spiWrite_conf_taps,
    spiWrite_regs_self, spiWrite_regs_of_ne (reg_ne (by decide) (by decide) (by decide)),
    spiWrite_regs_of_ne (reg_ne (by decide) (by decide) (by decide)), spiWrite_regs_self,
    spiWrite_regs_of_ne (reg_ne (by decide) (by decide) (by decide)), spiWrite_regs_self, bytes_append,
    hother (by decide) (by decide), hother (by decide) (by decide), hother (by decide) (by decide),
    BitVec.toNat_ofNat, Nat.mod_eq_of_lt hk]

lemma writeTaps_taps {coefs : List (BitVec 16)} (hk : k + coefs.length ≤ 256) :
    (c.writeTaps (firOffs rx) conf k coefs).taps rx' ch i =
      if rx' = rx ∧ ch < 2 ∧ conf.getLsbD (3 + ch) ∧ k ≤ i ∧ i < k + coefs.length then coefs.getD (i - k) 0
      else c.taps rx' ch i := by
  induction coefs generalizing c k with
  | nil =>
    rw [writeTaps, if_neg]
    simp only [List.length_nil]
    lia
  | cons coef coefs ih =>
    rw [List.length_cons] at hk ⊢
    rw [writeTaps, ih (by lia), writeTap_taps (by lia)]
    by_cases hsel : rx' = rx ∧ ch < 2 ∧ conf.getLsbD (3 + ch)
    · simp only [hsel, true_and]
      by_cases hik : i = k
      · subst hik
        simp
      · by_cases hlt : k < i
        · have hsub : i - k = i - (k + 1) + 1 := by lia
          simp only [hsub, List.getD_cons_succ]
          split_ifs <;> first | rfl | lia
        · rw [if_neg (by omega), if_neg hik, if_neg (by lia)]
    · rw [if_neg (fun h => hsel ⟨h.1, h.2.1, h.2.2.1⟩), if_neg (fun h => hsel ⟨h.1, h.2.1, h.2.2.1⟩),
        if_neg (fun h => hsel ⟨h.1, h.2.1, h.2.2.1⟩)]

/-- The registers of a filter -/
def InBank (rx : Bool) (reg : ℕ) : Prop := ∃ r, (0x60 ≤ r ∧ r ≤ 0x65) ∧ reg = r + firOffs rx

lemma writeTaps_regs {coefs : List (BitVec 16)} (h : ¬InBank rx reg) :
    (c.writeTaps (firOffs rx) conf k coefs).regs reg = c.regs reg := by
  have hne : ∀ r, 0x60 ≤ r ∧ r ≤ 0x65 → reg ≠ r + firOffs rx := fun r hr heq => h ⟨r, hr, heq⟩
  induction coefs generalizing c k with
  | nil => rfl
  | cons coef coefs ih =>
    rw [writeTaps, ih, writeTap, spiWrite_regs_of_ne (hne _ (by decide)), spiWrite_regs_of_ne (hne _ (by decide)),
      spiWrite_regs_of_ne (hne _ (by decide)), spiWrite_regs_of_ne (hne _ (by decide)),
      spiWrite_regs_of_ne (hne _ (by decide)), spiWrite_regs_of_ne (hne _ (by decide))]

/-- The fields of the configuration, of which one is the clock that the load stops again. -/
structure ConfHolds (conf gain : BitVec 8) (dest : FirDest) (ntaps : ℕ) : Prop where
  gain : conf &&& TX_FIR_GAIN_6DB = gain
  write : conf &&& FIR_WRITE = 0
  select : conf &&& FIR_SELECT 3 = FIR_SELECT dest.val
  ntaps : (((conf &&& FIR_NUM_TAPS 7) >>> 5).toNat + 1) * 16 = ntaps
  channels : ∀ ch < 2, conf.getLsbD (3 + ch) = dest.val.getLsbD ch

lemma firConf_holds {gain : BitVec 8} (hgain : gain = 0 ∨ gain = TX_FIR_GAIN_6DB) (dest : FirDest) {n : ℕ}
    (h : TapsFit n) : ConfHolds (firConf gain dest n) gain dest n ∧
      ConfHolds (firConf gain dest n &&& ~~~FIR_START_CLK) gain dest n := by
  obtain ⟨hpos, hle, hmod⟩ := h
  obtain ⟨m, rfl⟩ := Nat.dvd_of_mod_eq_zero hmod
  have hm : 0 < m ∧ m ≤ 8 := by lia
  obtain ⟨hm, hm'⟩ := hm
  obtain rfl | rfl := hgain <;> interval_cases m <;> cases dest <;>
    exact ⟨⟨by decide, by decide, by decide, by decide, by decide⟩, ⟨by decide, by decide, by decide, by decide, by decide⟩⟩

lemma spiWritef_taps {mask : BitVec 8} (h : ∀ rx, reg ≠ REG_TX_FILTER_CONF + firOffs rx) :
    (c.spiWritef reg mask val).taps = c.taps := spiWrite_taps fun rx heq => absurd heq (h rx)

lemma spiWritef_regs {mask : BitVec 8} {reg' : ℕ} (h : reg' ≠ reg) : (c.spiWritef reg mask val).regs reg' = c.regs reg' :=
  spiWrite_regs_of_ne h

/-- The register of the interpolation or the decimation -/
def firCtrl (rx : Bool) : ℕ := if rx then REG_RX_ENABLE_FILTER_CTRL else REG_TX_ENABLE_FILTER_CTRL

lemma firCtrl_ne (rx rx' : Bool) {r : ℕ} (hr : 0x60 ≤ r ∧ r ≤ 0x65) : firCtrl rx ≠ r + firOffs rx' := by
  cases rx <;> cases rx' <;>
    simp [firCtrl, firOffs, REG_RX_ENABLE_FILTER_CTRL, REG_TX_ENABLE_FILTER_CTRL, REG_RX_FILTER_COEF_ADDR,
      REG_TX_FILTER_COEF_ADDR] <;> lia

lemma gainReg_ne (rx : Bool) {r : ℕ} (hr : 0x60 ≤ r ∧ r ≤ 0x65) : REG_RX_FILTER_GAIN ≠ r + firOffs rx := by
  cases rx <;> simp [firOffs, REG_RX_FILTER_GAIN, REG_RX_FILTER_COEF_ADDR, REG_TX_FILTER_COEF_ADDR] <;> lia

/-- The chip before the configuration is written. -/
def gainWritten (c : FirChip) (dest : FirDest) (gainDb : ℤ) : FirChip :=
  if dest.isRx then c.spiWrite REG_RX_FILTER_GAIN (BitVec.ofInt 8 (3 - (gainDb + 12).tdiv 6) &&& 0x3) else c

lemma loadCoefs_eq (c : FirChip) (dest : FirDest) (gainDb : ℤ) (rate : UInt8) (coef : List (BitVec 16)) :
    ∃ val val' : BitVec 8, c.loadCoefs dest gainDb rate coef =
      let conf := firConf (if ¬dest.isRx ∧ gainDb = -6 then TX_FIR_GAIN_6DB else 0) dest coef.length
      (((((((c.gainWritten dest gainDb).spiWritef (firCtrl dest.isRx) FIR_ENABLE val).spiWrite
        (REG_TX_FILTER_CONF + firOffs dest.isRx) conf).writeTaps (firOffs dest.isRx) conf 0 coef).spiWrite
        (REG_TX_FILTER_CONF + firOffs dest.isRx) conf).spiWrite (REG_TX_FILTER_CONF + firOffs dest.isRx)
        (conf &&& ~~~FIR_START_CLK)).spiWritef (firCtrl dest.isRx) FIR_ENABLE val') := ⟨_, _, rfl⟩

variable {dest : FirDest} {gainDb : ℤ} {rate : UInt8} {coefs : List (BitVec 16)}

lemma gainWritten_taps (c : FirChip) (dest : FirDest) (gainDb : ℤ) : (c.gainWritten dest gainDb).taps = c.taps := by
  unfold gainWritten
  split_ifs
  · exact spiWrite_taps fun rx heq => absurd heq (gainReg_ne rx (by decide))
  · rfl

lemma gainWritten_regs (h : dest.isRx → reg ≠ REG_RX_FILTER_GAIN) :
    (c.gainWritten dest gainDb).regs reg = c.regs reg := by
  unfold gainWritten
  split_ifs with hrx
  · exact spiWrite_regs_of_ne (h hrx)
  · rfl

lemma firGain_cases (P : Prop) [Decidable P] :
    (if P then TX_FIR_GAIN_6DB else 0) = 0 ∨ (if P then TX_FIR_GAIN_6DB else 0) = TX_FIR_GAIN_6DB := by
  split_ifs
  · exact .inr rfl
  · exact .inl rfl

/-- The coefficients are stored in the selected channels, and nothing else is. -/
lemma loadCoefs_taps (h : TapsFit coefs.length) :
    (c.loadCoefs dest gainDb rate coefs).taps rx ch i =
      if rx = dest.isRx ∧ ch < 2 ∧ dest.val.getLsbD ch ∧ i < coefs.length then coefs.getD i 0 else c.taps rx ch i := by
  obtain ⟨val, val', heq⟩ := c.loadCoefs_eq dest gainDb rate coefs
  obtain ⟨hconf, hstop⟩ := firConf_holds (firGain_cases (¬dest.isRx ∧ gainDb = -6)) dest h
  have hctrl : ∀ rx, firCtrl dest.isRx ≠ REG_TX_FILTER_CONF + firOffs rx := fun rx => firCtrl_ne _ rx (by decide)
  have hlen := h.2.1
  rw [heq]
  dsimp only
  rw [spiWritef_taps hctrl, spiWrite_taps fun _ _ => hstop.write, spiWrite_taps fun _ _ => hconf.write,
    writeTaps_taps (by omega), spiWrite_taps fun _ _ => hconf.write, spiWritef_taps hctrl, gainWritten_taps]
  by_cases hch : ch < 2
  · simp only [hconf.channels ch hch, Nat.zero_le, true_and, Nat.zero_add, Nat.sub_zero]
  · simp [hch]

lemma loadCoefs_conf :
    (c.loadCoefs dest gainDb rate coefs).regs (REG_TX_FILTER_CONF + firOffs dest.isRx) =
      firConf (if ¬dest.isRx ∧ gainDb = -6 then TX_FIR_GAIN_6DB else 0) dest coefs.length &&& ~~~FIR_START_CLK := by
  obtain ⟨val, val', heq⟩ := c.loadCoefs_eq dest gainDb rate coefs
  rw [heq]
  dsimp only
  rw [spiWritef_regs (firCtrl_ne _ _ (by decide)).symm, spiWrite_regs_self]

lemma loadCoefs_regs (hctrl : reg ≠ firCtrl dest.isRx) (hbank : ¬InBank dest.isRx reg) :
    (c.loadCoefs dest gainDb rate coefs).regs reg = (c.gainWritten dest gainDb).regs reg := by
  obtain ⟨val, val', heq⟩ := c.loadCoefs_eq dest gainDb rate coefs
  have hconf : reg ≠ REG_TX_FILTER_CONF + firOffs dest.isRx := fun h => hbank ⟨_, by decide, h⟩
  rw [heq]
  dsimp only
  rw [spiWritef_regs hctrl, spiWrite_regs_of_ne hconf, spiWrite_regs_of_ne hconf, writeTaps_regs hbank,
    spiWrite_regs_of_ne hconf, spiWritef_regs hctrl]

end FirChip

/-- A filter as the chip holds it, with the gain and the number of taps as the driver reads them. -/
structure FirChip.Loaded (c : FirChip) (dest : FirDest) (gainDb : ℤ) (coefs : List (BitVec 16)) : Prop where
  taps : ∀ ch < 2, dest.val.getLsbD ch → ∀ k (h : k < coefs.length), c.taps dest.isRx ch k = coefs[k]
  select : c.regs (REG_TX_FILTER_CONF + firOffs dest.isRx) &&& FIR_SELECT 3 = FIR_SELECT dest.val
  ntaps : (((c.regs (REG_TX_FILTER_CONF + firOffs dest.isRx) &&& FIR_NUM_TAPS 7) >>> 5).toNat + 1) * 16 = coefs.length
  gain : gainDb = if dest.isRx then -6 * ((c.regs REG_RX_FILTER_GAIN &&& 3).toNat : ℤ) + 6
    else -6 * ((c.regs (REG_TX_FILTER_CONF + firOffs dest.isRx) &&& TX_FIR_GAIN_6DB).toNat : ℤ)

/-- A gain that the filter has. -/
def GainFits (rx : Bool) (gainDb : ℤ) : Prop :=
  if rx then gainDb ∈ [6, 0, -6, -12] else gainDb ∈ [0, -6]

namespace FirChip

variable {c : FirChip} {dest rd : FirDest} {gainDb gainDb' : ℤ} {rate : UInt8} {coefs coefs' : List (BitVec 16)}

lemma loadCoefs_gain (hrx : dest.isRx = true) (hgain : GainFits true gainDb) :
    gainDb = -6 * (((c.loadCoefs dest gainDb rate coefs).regs REG_RX_FILTER_GAIN &&& 3).toNat : ℤ) + 6 := by
  have hbank : ¬InBank dest.isRx REG_RX_FILTER_GAIN := fun ⟨r, hr, h⟩ => gainReg_ne _ hr h
  have hctrl : REG_RX_FILTER_GAIN ≠ firCtrl dest.isRx := by rw [hrx]; decide
  rw [loadCoefs_regs hctrl hbank, gainWritten, if_pos hrx, spiWrite_regs_self]
  simp only [GainFits, if_true, List.mem_cons, List.not_mem_nil, or_false] at hgain
  obtain rfl | rfl | rfl | rfl := hgain <;> decide

lemma loadCoefs_loaded (h : TapsFit coefs.length) (hgain : GainFits dest.isRx gainDb) :
    (c.loadCoefs dest gainDb rate coefs).Loaded dest gainDb coefs := by
  obtain ⟨-, hstop⟩ := firConf_holds (firGain_cases (¬dest.isRx ∧ gainDb = -6)) dest h
  constructor
  · intro ch hch hsel k hk
    rw [loadCoefs_taps h, if_pos ⟨rfl, hch, hsel, hk⟩, List.getD_eq_getElem _ _ hk]
  · rw [loadCoefs_conf]
    exact hstop.select
  · rw [loadCoefs_conf]
    exact hstop.ntaps
  · rw [loadCoefs_conf, hstop.gain]
    cases hrx : dest.isRx with
    | true =>
      rw [if_pos rfl]
      rw [hrx] at hgain
      exact loadCoefs_gain hrx hgain
    | false =>
      rw [hrx] at hgain
      simp only [GainFits, Bool.false_eq_true, if_false, List.mem_cons, List.not_mem_nil, or_false] at hgain
      rw [if_neg Bool.false_ne_true]
      obtain rfl | rfl := hgain <;> decide

/-- Loading a receive filter leaves the configuration of the transmit filter. -/
lemma loadCoefs_txConf (hdest : dest.isRx = false) (hrd : rd.isRx = true) :
    (c.loadCoefs rd gainDb rate coefs).regs (REG_TX_FILTER_CONF + firOffs dest.isRx) =
      c.regs (REG_TX_FILTER_CONF + firOffs dest.isRx) := by
  have hbank : ¬InBank rd.isRx (REG_TX_FILTER_CONF + firOffs dest.isRx) := by
    rw [hdest, hrd]
    rintro ⟨r, hr, heq⟩
    simp only [REG_TX_FILTER_CONF, firOffs, Bool.false_eq_true, if_false, if_true, REG_RX_FILTER_COEF_ADDR,
      REG_TX_FILTER_COEF_ADDR] at heq
    lia
  rw [loadCoefs_regs (firCtrl_ne _ _ (by decide)).symm hbank,
    gainWritten_regs fun _ => (gainReg_ne dest.isRx (by decide)).symm]

lemma Loaded.loadRx (h : c.Loaded dest gainDb coefs) (hdest : dest.isRx = false) (hrd : rd.isRx = true)
    (hfit : TapsFit coefs'.length) : (c.loadCoefs rd gainDb' rate coefs').Loaded dest gainDb coefs := by
  have hconf := @loadCoefs_txConf c dest rd gainDb' rate coefs' hdest hrd
  constructor
  · intro ch hch hsel k hk
    rw [loadCoefs_taps hfit, if_neg (by rw [hdest, hrd]; simp)]
    exact h.taps ch hch hsel k hk
  · rw [hconf]
    exact h.select
  · rw [hconf]
    exact h.ntaps
  · have hgain := h.gain
    rw [hdest, if_neg Bool.false_ne_true] at hgain ⊢
    rw [hdest] at hconf
    rw [hconf]
    exact hgain

end FirChip

/-- What a line for the transmit or the receive filter has. -/
def FirLine.headerOf (k : FirLine) (line : List Char) : Option FirHeader :=
  match k.read line with
  | [dest, gain, rate] => some ⟨dest, gain, rate⟩
  | _ => none

/-- All numbers of the format are on the line, or the one coefficient for both filters. -/
def FirLine.Complete (k : FirLine) (line : List Char) : Prop :=
  (k.read line).length = conversions k.format ∨ k = .coef ∧ (k.read line).length = 1

instance (k : FirLine) (line : List Char) : Decidable (k.Complete line) := inferInstanceAs (Decidable (_ ∨ _))

/-- A complete filter file: comments and whole lines, one for each filter, and 16 to 128 coefficients. -/
structure FilterFile (lines : List (List Char)) (tx rx : FirHeader) (txTo rxTo : FirDest) : Prop where
  whole : ∀ line ∈ lines, IsComment line ∨ ∃ k : FirLine, k.Complete line
  oneTx : lines.filterMap FirLine.tx.headerOf = [tx]
  oneRx : lines.filterMap FirLine.rx.headerOf = [rx]
  coefs : TapsFit (lines.countP (FirLine.coef.Complete ·))
  toTx : txDest tx.dest = some txTo
  toRx : rxDest rx.dest = some rxTo
  txGain : GainFits false tx.gain
  rxGain : GainFits true rx.gain
  txInt : tx.rate ∈ [1, 2, 4]
  rxDec : rx.rate ∈ [1, 2, 4]

/-- The lines after the one for the transmit filter. -/
def afterTx (lines : List (List Char)) : List (List Char) := (lines.dropWhile (¬FirLine.tx.Complete ·)).tail

/-- Only comments stand between the line for the transmit filter and one for the receive filter after it. -/
def TxKept (lines : List (List Char)) : Prop :=
  (∃ line ∈ afterTx lines, FirLine.rx.Complete line) →
    ∀ line ∈ (afterTx lines).takeWhile (¬FirLine.rx.Complete ·), IsComment line

/-- The file is loaded as it lists the filters, whatever was loaded before. -/
def LoadsAsListed (data : List Char) (next : Char) (tx rx : FirHeader) (txTo rxTo : FirDest) (verifyTx verifyRx : ℤ) :
    Prop :=
  ∀ phy chip, ∃ r, parseFir phy chip data next verifyTx verifyRx = .ok r ∧
    r.chip.Loaded txTo tx.gain (((fileLines data).flatMap lineCoefs).map Prod.fst) ∧
    r.chip.Loaded rxTo rx.gain (((fileLines data).flatMap lineCoefs).map Prod.snd) ∧
    (r.phy.txFirInt.toNat : ℤ) = tx.rate ∧ (r.phy.rxFirDec.toNat : ℤ) = rx.rate ∧
    (0 ≤ verifyTx → 0 ≤ verifyRx →
      (r.phy.filtValid = true ↔ (∃ line ∈ fileLines data, FirLine.rtx.Complete line) ∧
        ∃ line ∈ fileLines data, FirLine.rrx.Complete line)) ∧
    (verifyTx < 0 ∨ verifyRx < 0 → r.ret < 0)

variable {data : List Char} {lines A B C : List (List Char)} {line t r : List Char} {tx rx : FirHeader}
  {txTo rxTo : FirDest} {s : FirParse} {k : FirLine} {next : Char} {verifyTx verifyRx : ℤ}

lemma headerOf_eq_some {h : FirHeader} (hk : k.headerOf line = some h) : k.read line = [h.dest, h.gain, h.rate] := by
  unfold FirLine.headerOf at hk
  split at hk
  · rename_i heq
    rw [heq, ← Option.some.inj hk]
  · cases hk

lemma headerOf_eq_none (hk : k = .tx ∨ k = .rx) (h : IsComment line ∨ ∃ k : FirLine, k.Complete line)
    (hnone : k.headerOf line = none) : k.read line = [] := by
  have hlen : (k.read line).length ≠ 3 := by
    intro hlen
    obtain ⟨a, b, c, habc⟩ := List.length_eq_three.mp hlen
    simp [FirLine.headerOf, habc] at hnone
  obtain hcomment | ⟨k', hk'⟩ := h
  · exact FirLine.read_comment hcomment k
  · by_contra hread
    have hpos : k'.read line ≠ [] := by
      rw [← List.length_pos_iff]
      have hconv : 0 < conversions k'.format := by cases k' <;> decide
      obtain h | ⟨-, h⟩ := hk' <;> lia
    obtain rfl := FirLine.read_exclusive hread hpos
    obtain h | ⟨rfl, -⟩ := hk'
    · obtain rfl | rfl := hk <;> exact hlen h
    · obtain h | h := hk <;> cases h

/-- A line that is neither for the transmit nor for the receive filter -/
def Other (line : List Char) : Prop := FirLine.tx.read line = [] ∧ FirLine.rx.read line = []

lemma next_other_rx (h : Other line) : (s.next line).rx = s.rx := by
  simp [FirParse.next, h.2]

lemma next_other_tx (h : Other line) :
    (s.next line).tx = if IsComment line then s.tx else s.tx.nextTx s.rx [] [] := by
  simp [FirParse.next, h.1, h.2]

lemma foldl_other_rx (h : ∀ line ∈ lines, Other line) : (lines.foldl FirParse.next s).rx = s.rx := by
  induction lines generalizing s with
  | nil => rfl
  | cons line lines ih =>
    rw [List.foldl_cons, ih fun l hl => h l (List.mem_cons_of_mem line hl), next_other_rx (h line List.mem_cons_self)]

lemma foldl_other_neg (h : ∀ line ∈ lines, Other line) (hs : s.tx.dest < 0) :
    (lines.foldl FirParse.next s).tx.dest < 0 := by
  induction lines generalizing s with
  | nil => exact hs
  | cons line lines ih =>
    refine ih (fun l hl => h l (List.mem_cons_of_mem line hl)) ?_
    rw [next_other_tx (h line List.mem_cons_self)]
    split_ifs
    · exact hs
    · simp [FirHeader.nextTx, hs]

/-- A transmit line is kept over comments, and over anything after the receive line. -/
lemma foldl_other_kept (h : ∀ line ∈ lines, Other line) (hs : 0 ≤ s.tx.dest)
    (hkept : 0 ≤ s.rx.dest ∨ ∀ line ∈ lines, IsComment line) : (lines.foldl FirParse.next s).tx = s.tx := by
  induction lines generalizing s with
  | nil => rfl
  | cons line lines ih =>
    have hother := h line List.mem_cons_self
    have htx : (s.next line).tx = s.tx := by
      rw [next_other_tx hother]
      obtain hrx | hcomment := hkept
      · simp [FirHeader.nextTx, Int.not_lt.mpr hs, Int.not_lt.mpr hrx]
      · rw [if_pos (hcomment line List.mem_cons_self)]
    rw [List.foldl_cons, ih (fun l hl => h l (List.mem_cons_of_mem line hl)) (by rw [htx]; exact hs), htx]
    rw [next_other_rx hother]
    exact hkept.imp_right fun hall l hl => hall l (List.mem_cons_of_mem line hl)

lemma foldl_other_lost (h : ∀ line ∈ lines, Other line) (hrx : s.rx.dest < 0)
    (hline : ∃ line ∈ lines, ¬IsComment line) : (lines.foldl FirParse.next s).tx.dest < 0 := by
  induction lines generalizing s with
  | nil =>
    obtain ⟨line, hmem, -⟩ := hline
    exact absurd hmem List.not_mem_nil
  | cons line lines ih =>
    have hother := h line List.mem_cons_self
    have hrest := fun l hl => h l (List.mem_cons_of_mem line hl)
    by_cases hcomment : IsComment line
    · refine ih hrest (by rw [next_other_rx hother]; exact hrx) ?_
      obtain ⟨l, hl, hne⟩ := hline
      obtain rfl | hl := List.mem_cons.mp hl
      · exact absurd hcomment hne
      · exact ⟨l, hl, hne⟩
    · rw [List.foldl_cons]
      refine foldl_other_neg hrest ?_
      rw [next_other_tx hother, if_neg hcomment]
      unfold FirHeader.nextTx
      split_ifs <;> simp_all

/-- The lines of a filter file around the two for the filters. -/
structure FirSplit (A B C : List (List Char)) : Prop where
  before : ∀ line ∈ A, Other line
  between : ∀ line ∈ B, Other line
  after : ∀ line ∈ C, Other line

lemma other_of_none (hfile : ∀ line ∈ lines, IsComment line ∨ ∃ k : FirLine, k.Complete line)
    (htx : lines.filterMap FirLine.tx.headerOf = []) (hrx : lines.filterMap FirLine.rx.headerOf = []) :
    ∀ line ∈ lines, Other line := fun line hmem =>
  ⟨headerOf_eq_none (.inl rfl) (hfile line hmem) (List.filterMap_eq_nil_iff.mp htx line hmem),
    headerOf_eq_none (.inr rfl) (hfile line hmem) (List.filterMap_eq_nil_iff.mp hrx line hmem)⟩

lemma headerOf_rx_of_tx (h : FirLine.tx.headerOf t = some tx) : FirLine.rx.headerOf t = none := by
  have hread : FirLine.rx.read t = [] := by
    by_contra hrx
    have htx : FirLine.tx.read t ≠ [] := by rw [headerOf_eq_some h]; simp
    cases FirLine.read_exclusive hrx htx
  rw [FirLine.headerOf, hread]

/-- The transmit line stands before the receive line or after it. -/
lemma FilterFile.split (h : FilterFile lines tx rx txTo rxTo) :
    ∃ A B C t r, FirLine.tx.headerOf t = some tx ∧ FirLine.rx.headerOf r = some rx ∧ FirSplit A B C ∧
      (lines = A ++ t :: (B ++ r :: C) ∨ lines = A ++ r :: (B ++ t :: C)) := by
  obtain ⟨L, t, R, rfl, hL, ht, hR⟩ := List.filterMap_eq_cons_iff.mp h.oneTx
  have hLnil := List.filterMap_eq_nil_iff.mpr hL
  have hone := h.oneRx
  have hwhole := h.whole
  rw [List.filterMap_append, List.filterMap_cons_none (headerOf_rx_of_tx ht)] at hone
  obtain ⟨hLrx, hRrx⟩ | ⟨hLrx, hRrx⟩ := List.append_eq_singleton_iff.mp hone
  · obtain ⟨B, r, C, rfl, hB, hr, hC⟩ := List.filterMap_eq_cons_iff.mp hRrx
    rw [List.filterMap_append, List.append_eq_nil_iff] at hR
    have hRtail := (List.filterMap_eq_nil_iff.mp hR.2)
    refine ⟨L, B, C, t, r, ht, hr, ⟨?_, ?_, ?_⟩, .inl rfl⟩
    · exact other_of_none (fun l hl => hwhole l (by simp [hl])) hLnil hLrx
    · exact other_of_none (fun l hl => hwhole l (by simp [hl])) hR.1 (List.filterMap_eq_nil_iff.mpr hB)
    · exact other_of_none (fun l hl => hwhole l (by simp [hl]))
        (List.filterMap_eq_nil_iff.mpr fun l hl => hRtail l (List.mem_cons_of_mem r hl)) hC
  · obtain ⟨A, r, B, rfl, hA, hr, hB⟩ := List.filterMap_eq_cons_iff.mp hLrx
    rw [List.filterMap_append, List.append_eq_nil_iff] at hLnil
    have hLtail := (List.filterMap_eq_nil_iff.mp hLnil.2)
    refine ⟨A, B, R, t, r, ht, hr, ⟨?_, ?_, ?_⟩, .inr (by simp)⟩
    · exact other_of_none (fun l hl => hwhole l (by simp [hl])) hLnil.1 (List.filterMap_eq_nil_iff.mpr hA)
    · exact other_of_none (fun l hl => hwhole l (by simp [hl]))
        (List.filterMap_eq_nil_iff.mpr fun l hl => hLtail l (List.mem_cons_of_mem r hl)) hB
    · exact other_of_none (fun l hl => hwhole l (by simp [hl])) hR hRrx

lemma complete_tx_iff : FirLine.tx.Complete line ↔ (FirLine.tx.read line).length = 3 := by
  simp only [FirLine.Complete, reduceCtorEq, false_and, or_false]
  exact Iff.rfl

lemma complete_rx_iff : FirLine.rx.Complete line ↔ (FirLine.rx.read line).length = 3 := by
  simp only [FirLine.Complete, reduceCtorEq, false_and, or_false]
  exact Iff.rfl

lemma Other.not_tx (h : Other line) : ¬FirLine.tx.Complete line := by
  rw [complete_tx_iff, h.1]
  decide

lemma Other.not_rx (h : Other line) : ¬FirLine.rx.Complete line := by
  rw [complete_rx_iff, h.2]
  decide

lemma tx_line (ht : FirLine.tx.headerOf t = some tx) :
    FirLine.tx.Complete t ∧ ¬FirLine.rx.Complete t ∧ FirLine.rx.read t = [] ∧ ¬IsComment t := by
  have hread := headerOf_eq_some ht
  have hne : FirLine.tx.read t ≠ [] := by simp [hread]
  have hrx : FirLine.rx.read t = [] := by
    by_contra h
    cases FirLine.read_exclusive h hne
  refine ⟨?_, ?_, hrx, fun hcomment => hne (FirLine.read_comment hcomment _)⟩
  · rw [complete_tx_iff, hread]
    rfl
  · rw [complete_rx_iff, hrx]
    decide

lemma rx_line (hr : FirLine.rx.headerOf r = some rx) :
    FirLine.rx.Complete r ∧ ¬FirLine.tx.Complete r ∧ FirLine.tx.read r = [] ∧ ¬IsComment r := by
  have hread := headerOf_eq_some hr
  have hne : FirLine.rx.read r ≠ [] := by simp [hread]
  have htx : FirLine.tx.read r = [] := by
    by_contra h
    cases FirLine.read_exclusive h hne
  refine ⟨?_, ?_, htx, fun hcomment => hne (FirLine.read_comment hcomment _)⟩
  · rw [complete_rx_iff, hread]
    rfl
  · rw [complete_tx_iff, htx]
    decide

lemma next_tx_line (ht : FirLine.tx.headerOf t = some tx) (hs : s.tx.dest < 0) :
    (s.next t).tx = tx ∧ (s.next t).rx = s.rx := by
  obtain ⟨-, -, hrx, hcomment⟩ := tx_line ht
  have hread := headerOf_eq_some ht
  simp [FirParse.next, FirHeader.nextTx, FirHeader.store, hcomment, hread, hs, hrx]

lemma next_rx_line (hr : FirLine.rx.headerOf r = some rx) (hs : s.rx.dest < 0) :
    (s.next r).rx = rx ∧ (0 ≤ s.tx.dest → (s.next r).tx = s.tx) ∧ (s.tx.dest < 0 → (s.next r).tx.dest < 0) := by
  obtain ⟨-, -, htx, hcomment⟩ := rx_line hr
  have hread := headerOf_eq_some hr
  refine ⟨?_, fun h => ?_, fun h => ?_⟩
  · simp [FirParse.next, FirHeader.store, hread, hs]
  · simp [FirParse.next, FirHeader.nextTx, hcomment, hread, htx, Int.not_lt.mpr h]
  · simp [FirParse.next, FirHeader.nextTx, hcomment, htx, h]

/-- The transmit line first: it lasts up to the receive line over comments only. -/
lemma foldl_tx_first (ht : FirLine.tx.headerOf t = some tx) (hr : FirLine.rx.headerOf r = some rx) (hs : FirSplit A B C)
    (htx : 0 ≤ tx.dest) (hrx : 0 ≤ rx.dest) (hstart : s.tx.dest < 0 ∧ s.rx.dest < 0) :
    let q := (A ++ t :: (B ++ r :: C)).foldl FirParse.next s
    q.rx = rx ∧ ((∀ line ∈ B, IsComment line) → q.tx = tx) ∧ ((¬∀ line ∈ B, IsComment line) → q.tx.dest < 0) := by
  intro q
  set a := A.foldl FirParse.next s
  have ha : a.tx.dest < 0 ∧ a.rx.dest < 0 :=
    ⟨foldl_other_neg hs.before hstart.1, by rw [foldl_other_rx hs.before]; exact hstart.2⟩
  obtain ⟨htx', hrx'⟩ := next_tx_line ht ha.1
  set b := B.foldl FirParse.next (a.next t) with hb
  have hbrx : b.rx = a.rx := by rw [hb, foldl_other_rx hs.between, hrx']
  obtain ⟨hr', hkeep, hlost⟩ := next_rx_line (s := b) hr (by rw [hbrx]; exact ha.2)
  have hq : q = C.foldl FirParse.next (b.next r) := by simp [q, a, hb, List.foldl_append]
  refine ⟨?_, fun hall => ?_, fun hne => ?_⟩
  · rw [hq, foldl_other_rx hs.after, hr']
  · have hbtx : b.tx = tx := by
      rw [hb, foldl_other_kept hs.between (by rw [htx']; exact htx) (.inr hall), htx']
    have hntx : (b.next r).tx = tx := by rw [hkeep (by rw [hbtx]; exact htx), hbtx]
    rw [hq, foldl_other_kept hs.after (by rw [hntx]; exact htx) (.inl (by rw [hr']; exact hrx)), hntx]
  · push Not at hne
    have hbneg : b.tx.dest < 0 := foldl_other_lost hs.between (by rw [hrx']; exact ha.2) hne
    rw [hq]
    exact foldl_other_neg hs.after (hlost hbneg)

lemma foldl_rx_first (ht : FirLine.tx.headerOf t = some tx) (hr : FirLine.rx.headerOf r = some rx) (hs : FirSplit A B C)
    (htx : 0 ≤ tx.dest) (hrx : 0 ≤ rx.dest) (hstart : s.tx.dest < 0 ∧ s.rx.dest < 0) :
    let q := (A ++ r :: (B ++ t :: C)).foldl FirParse.next s
    q.rx = rx ∧ q.tx = tx := by
  intro q
  set a := A.foldl FirParse.next s
  have ha : a.tx.dest < 0 ∧ a.rx.dest < 0 :=
    ⟨foldl_other_neg hs.before hstart.1, by rw [foldl_other_rx hs.before]; exact hstart.2⟩
  obtain ⟨hr', -, hlost⟩ := next_rx_line hr ha.2
  set b := B.foldl FirParse.next (a.next r) with hb
  have hbrx : b.rx = rx := by rw [hb, foldl_other_rx hs.between, hr']
  obtain ⟨htx', hrx'⟩ := next_tx_line (s := b) ht (foldl_other_neg hs.between (hlost ha.1))
  have hq : q = C.foldl FirParse.next (b.next t) := by simp [q, a, hb, List.foldl_append]
  constructor
  · rw [hq, foldl_other_rx hs.after, hrx', hbrx]
  · rw [hq, foldl_other_kept hs.after (by rw [htx']; exact htx) (.inl (by rw [hrx', hbrx]; exact hrx)), htx']

lemma afterTx_of_split {L R : List (List Char)} (ht : FirLine.tx.Complete t)
    (hL : ∀ line ∈ L, ¬FirLine.tx.Complete line) : afterTx (L ++ t :: R) = R := by
  rw [afterTx, List.dropWhile_append_of_pos (by simpa using hL), List.dropWhile_cons_of_neg (by simpa using ht)]
  rfl

lemma txKept_tx_first (ht : FirLine.tx.headerOf t = some tx) (hr : FirLine.rx.headerOf r = some rx)
    (hs : FirSplit A B C) : TxKept (A ++ t :: (B ++ r :: C)) ↔ ∀ line ∈ B, IsComment line := by
  have hafter : afterTx (A ++ t :: (B ++ r :: C)) = B ++ r :: C :=
    afterTx_of_split (tx_line ht).1 fun line hl => (hs.before line hl).not_tx
  have htake : (B ++ r :: C).takeWhile (¬FirLine.rx.Complete ·) = B := by
    rw [List.takeWhile_append_of_pos fun line hl => decide_eq_true (hs.between line hl).not_rx,
      List.takeWhile_cons_of_neg (by simpa using (rx_line hr).1), List.append_nil]
  rw [TxKept, hafter, htake]
  exact ⟨fun h => h ⟨r, by simp, (rx_line hr).1⟩, fun h _ => h⟩

lemma txKept_rx_first (ht : FirLine.tx.headerOf t = some tx) (hr : FirLine.rx.headerOf r = some rx)
    (hs : FirSplit A B C) : TxKept (A ++ r :: (B ++ t :: C)) := by
  have hafter : afterTx (A ++ r :: (B ++ t :: C)) = C := by
    rw [← List.cons_append, ← List.append_assoc]
    refine afterTx_of_split (tx_line ht).1 fun line hl => ?_
    obtain hA | hB := List.mem_append.mp hl
    · exact (hs.before line hA).not_tx
    · obtain rfl | hB := List.mem_cons.mp hB
      · exact (rx_line hr).2.1
      · exact (hs.between line hB).not_tx
  rw [TxKept, hafter]
  rintro ⟨line, hmem, hrx⟩
  exact absurd hrx (hs.after line hmem).not_rx

lemma nonneg_of_txDest {z : ℤ} (h : txDest z = some txTo) : 0 ≤ z := by
  unfold txDest at h
  split_ifs at h <;> lia

lemma nonneg_of_rxDest {z : ℤ} (h : rxDest z = some rxTo) : 0 ≤ z := by
  by_contra hneg
  rw [rxDest_of_neg (Int.not_le.mp hneg)] at h
  cases h

lemma FilterFile.foldl_next (h : FilterFile lines tx rx txTo rxTo) (hs : s.tx.dest < 0 ∧ s.rx.dest < 0) :
    let q := lines.foldl FirParse.next s
    q.rx = rx ∧ (TxKept lines → q.tx = tx) ∧ (¬TxKept lines → q.tx.dest < 0) := by
  obtain ⟨A, B, C, t, r, ht, hr, hsplit, rfl | rfl⟩ := h.split
  · rw [txKept_tx_first ht hr hsplit]
    exact foldl_tx_first ht hr hsplit (nonneg_of_txDest h.toTx) (nonneg_of_rxDest h.toRx) hs
  · obtain ⟨hrx, htx⟩ :=
      foldl_rx_first ht hr hsplit (nonneg_of_txDest h.toTx) (nonneg_of_rxDest h.toRx) hs
    exact ⟨hrx, fun _ => htx, fun hne => absurd (txKept_rx_first ht hr hsplit) hne⟩

lemma lineCoefs_length_eq (line : List Char) :
    (lineCoefs line).length = if FirLine.coef.Complete line then 1 else 0 := by
  have hle := FirLine.length_read_le .coef line
  have hconv : conversions FirLine.coef.format = 2 := by decide
  simp only [FirLine.Complete, hconv, true_and, lineCoefs] at hle ⊢
  generalize FirLine.coef.read line = vals at hle ⊢
  rcases vals with _ | ⟨a, _ | ⟨b, _ | ⟨c, l⟩⟩⟩
  · rfl
  · rfl
  · rfl
  · rw [List.length_cons, List.length_cons, List.length_cons] at hle
    lia

lemma coefs_length (lines : List (List Char)) :
    (lines.flatMap lineCoefs).length = lines.countP (FirLine.coef.Complete ·) := by
  induction lines with
  | nil => rfl
  | cons line lines ih =>
    rw [List.flatMap_cons, List.length_append, ih, lineCoefs_length_eq, List.countP_cons, Nat.add_comm]
    simp

lemma firstPath_isSome (hk : k = .rtx ∨ k = .rrx) :
    (firstPath k lines).isSome ↔ ∃ line ∈ lines, k.Complete line := by
  have hconv : conversions k.format = 6 := by obtain rfl | rfl := hk <;> decide
  have hcoef : k ≠ .coef := by obtain rfl | rfl := hk <;> decide
  simp only [firstPath, List.isSome_findSome?, List.any_eq_true, FirLine.Complete, hconv, hcoef, false_and, or_false]
  constructor
  · rintro ⟨line, hmem, h⟩
    refine ⟨line, hmem, ?_⟩
    by_contra hlen
    simp [hlen] at h
  · rintro ⟨line, hmem, h⟩
    exact ⟨line, hmem, by simp [h]⟩

lemma isRx_of_txDest {z : ℤ} (h : txDest z = some txTo) : txTo.isRx = false ∧ FIR_SELECT txTo.val ≠ 0 := by
  unfold txDest at h
  split_ifs at h <;> obtain rfl := Option.some.inj h <;> decide

lemma isRx_of_rxDest {z : ℤ} (h : rxDest z = some rxTo) : rxTo.isRx = true := by
  simp only [rxDest] at h
  split_ifs at h <;> obtain rfl := Option.some.inj h <;> decide

lemma finish_fields (s : FirParse) (phy : FirPhy) (chip : FirChip) (size : ℕ) (verifyTx verifyRx : ℤ) :
    let r := s.finish phy chip size verifyTx verifyRx
    let phy' := { phy with
      filtValid := false, filtRxBwHz := s.filtRxBwHz, filtTxBwHz := s.filtTxBwHz
      filtRxPathClks := s.rrx.clks, filtTxPathClks := s.rtx.clks }
    let r' := ((FirResult.mk 0 phy' chip).loadTx s verifyTx).loadRx s verifyRx
    r.chip = r'.chip ∧ r.phy.txFirInt = r'.phy.txFirInt ∧ r.phy.rxFirDec = r'.phy.rxFirDec := by
  intro r phy' r'
  simp only [r, r', phy', FirParse.finish]
  split_ifs <;> exact ⟨rfl, rfl, rfl⟩

lemma loadRx_eq {res : FirResult} (hrx : rxDest s.rx.dest = some rxTo) (hfit : TapsFit s.coef.length) :
    (res.loadRx s verifyRx).chip =
      res.chip.loadCoefs rxTo s.rx.gain (UInt8.ofInt s.rx.rate) (s.coef.map Prod.snd) ∧
    (res.loadRx s verifyRx).phy.rxFirDec = UInt8.ofInt s.rx.rate ∧
    (res.loadRx s verifyRx).phy.txFirInt = res.phy.txFirInt := by
  have hlen : TapsFit (s.coef.map Prod.snd).length := by rwa [List.length_map]
  rw [FirResult.loadRx, hrx]
  dsimp only
  rw [FirResult.loadFirFilterCoef_of_fit hlen, if_pos (isRx_of_rxDest hrx), if_pos (isRx_of_rxDest hrx)]
  exact ⟨rfl, rfl, rfl⟩

lemma loadTx_eq {res : FirResult} (htx : txDest s.tx.dest = some txTo) (hfit : TapsFit s.coef.length) :
    (res.loadTx s verifyTx).chip =
      res.chip.loadCoefs txTo s.tx.gain (UInt8.ofInt s.tx.rate) (s.coef.map Prod.fst) ∧
    (res.loadTx s verifyTx).phy.txFirInt = UInt8.ofInt s.tx.rate := by
  have hlen : TapsFit (s.coef.map Prod.fst).length := by rwa [List.length_map]
  have hrx := (isRx_of_txDest htx).1
  rw [FirResult.loadTx, htx]
  dsimp only
  rw [FirResult.loadFirFilterCoef_of_fit hlen, hrx]
  exact ⟨rfl, rfl⟩

lemma loadTx_none {res : FirResult} (htx : s.tx.dest < 0) : (res.loadTx s verifyTx).chip = res.chip := by
  have hnone : txDest s.tx.dest = none := by
    rw [txDest, if_neg (by omega), if_neg (by omega), if_neg (by omega)]
  rw [FirResult.loadTx, hnone]

lemma rate_toNat {z : ℤ} (h : z ∈ [1, 2, 4]) : ((UInt8.ofInt z).toNat : ℤ) = z := by
  simp only [List.mem_cons, List.not_mem_nil, or_false] at h
  obtain rfl | rfl | rfl := h <;> rfl

/-- A complete file is parsed, and returns an error for the receive filter only, or for its size. -/
lemma FilterFile.parse (hend : Terminated data next) (h : FilterFile (fileLines data) tx rx txTo rxTo) (phy : FirPhy)
    (chip : FirChip) (verifyTx verifyRx : ℤ) :
    let s := (fileLines data).foldl FirParse.next phy.start
    let r := s.finish phy chip data.length verifyTx verifyRx
    parseFir phy chip data next verifyTx verifyRx = .ok r ∧ s.rx = rx ∧ TapsFit s.coef.length ∧
      s.coef = (fileLines data).flatMap lineCoefs ∧ (0 ≤ r.ret ↔ 0 ≤ verifyRx ∧ 0 ≤ sizeRet data.length) ∧
      (0 ≤ verifyRx → (r.phy.filtValid = true ↔ (∃ line ∈ fileLines data, FirLine.rtx.Complete line) ∧
        ∃ line ∈ fileLines data, FirLine.rrx.Complete line)) := by
  intro s r
  have hneg : (-1 : ℤ) < 0 := by decide
  have hcoef : s.coef = (fileLines data).flatMap lineCoefs := foldl_coef _ phy.start
  have hfit : TapsFit s.coef.length := by
    rw [hcoef, coefs_length]
    exact h.coefs
  obtain ⟨hrx, -, -⟩ := h.foldl_next (s := phy.start) ⟨hneg, hneg⟩
  have hdest : rxDest s.rx.dest = some rxTo := by
    rw [hrx]
    exact h.toRx
  refine ⟨parseFir_ok.mpr ⟨hend, ?_, rfl⟩, hrx, hfit, hcoef, ?_, fun hverify => ?_⟩
  · rw [← hcoef]
    exact hfit.2.1
  · rw [finish_ret, hdest]
    simp [hfit]
  · obtain ⟨hvalid, -, -⟩ := @finish_success phy s chip data.length verifyTx verifyRx
      ⟨by rw [hdest]; exact Option.some_ne_none _, hfit, hverify⟩
    rw [hvalid, decide_eq_true_iff, marks_iff, firstPath_isSome (.inl rfl), firstPath_isSome (.inr rfl)]

lemma FilterFile.loaded (hend : Terminated data next) (h : FilterFile (fileLines data) tx rx txTo rxTo)
    (hkept : TxKept (fileLines data)) (phy : FirPhy) (chip : FirChip) (verifyTx verifyRx : ℤ) :
    let r := ((fileLines data).foldl FirParse.next phy.start).finish phy chip data.length verifyTx verifyRx
    r.chip.Loaded txTo tx.gain (((fileLines data).flatMap lineCoefs).map Prod.fst) ∧
    r.chip.Loaded rxTo rx.gain (((fileLines data).flatMap lineCoefs).map Prod.snd) ∧
    (r.phy.txFirInt.toNat : ℤ) = tx.rate ∧ (r.phy.rxFirDec.toNat : ℤ) = rx.rate := by
  intro r
  have hneg : (-1 : ℤ) < 0 := by decide
  obtain ⟨-, hrx, hfit, hcoef, -, -⟩ := h.parse hend phy chip verifyTx verifyRx
  obtain ⟨-, htx, -⟩ := h.foldl_next (s := phy.start) ⟨hneg, hneg⟩
  replace htx := htx hkept
  obtain ⟨hchip, hint, hdec⟩ := finish_fields ((fileLines data).foldl FirParse.next phy.start) phy chip data.length
    verifyTx verifyRx
  have htxDest := h.toTx
  have hrxDest := h.toRx
  rw [← htx] at htxDest
  rw [← hrx] at hrxDest
  have hgain : GainFits txTo.isRx tx.gain := by
    rw [(isRx_of_txDest h.toTx).1]
    exact h.txGain
  have hgain' : GainFits rxTo.isRx rx.gain := by
    rw [isRx_of_rxDest h.toRx]
    exact h.rxGain
  have hfst : TapsFit (((fileLines data).flatMap lineCoefs).map Prod.fst).length := by
    rw [List.length_map, ← hcoef]
    exact hfit
  have hsnd : TapsFit (((fileLines data).flatMap lineCoefs).map Prod.snd).length := by
    rw [List.length_map, ← hcoef]
    exact hfit
  rw [(loadRx_eq hrxDest hfit).1, (loadTx_eq htxDest hfit).1, htx, hrx, hcoef] at hchip
  rw [(loadRx_eq hrxDest hfit).2.2, (loadTx_eq htxDest hfit).2, htx] at hint
  rw [(loadRx_eq hrxDest hfit).2.1, hrx] at hdec
  refine ⟨?_, ?_, ?_, ?_⟩
  · rw [hchip]
    exact (FirChip.loadCoefs_loaded hfst hgain).loadRx (isRx_of_txDest h.toTx).1 (isRx_of_rxDest h.toRx) hsnd
  · rw [hchip]
    exact FirChip.loadCoefs_loaded hsnd hgain'
  · rw [hint]
    exact rate_toNat h.txInt
  · rw [hdec]
    exact rate_toNat h.rxDec

lemma FilterFile.lost (hend : Terminated data next) (h : FilterFile (fileLines data) tx rx txTo rxTo)
    (hlost : ¬TxKept (fileLines data)) (verifyTx verifyRx : ℤ) :
    ¬(((fileLines data).foldl FirParse.next FirPhy.cleared.start).finish .cleared .cleared data.length verifyTx
      verifyRx).chip.Loaded txTo tx.gain (((fileLines data).flatMap lineCoefs).map Prod.fst) := by
  intro hloaded
  have hneg : (-1 : ℤ) < 0 := by decide
  obtain ⟨-, hrx, hfit, -, -, -⟩ := h.parse hend .cleared .cleared verifyTx verifyRx
  obtain ⟨-, -, htx⟩ := h.foldl_next (s := FirPhy.cleared.start) ⟨hneg, hneg⟩
  obtain ⟨hchip, -, -⟩ := finish_fields ((fileLines data).foldl FirParse.next FirPhy.cleared.start) .cleared .cleared
    data.length verifyTx verifyRx
  have hrxDest := h.toRx
  rw [← hrx] at hrxDest
  rw [(loadRx_eq hrxDest hfit).1, loadTx_none (htx hlost)] at hchip
  have hselect := hloaded.select
  rw [hchip, FirChip.loadCoefs_txConf (isRx_of_txDest h.toTx).1 (isRx_of_rxDest h.toRx)] at hselect
  change 0#8 &&& FIR_SELECT 3 = FIR_SELECT txTo.val at hselect
  rw [BitVec.zero_and] at hselect
  exact (isRx_of_txDest h.toTx).2 hselect.symm

lemma FilterFile.of_loads (hend : Terminated data next) (h : FilterFile (fileLines data) tx rx txTo rxTo)
    (hright : LoadsAsListed data next tx rx txTo rxTo verifyTx verifyRx) :
    TxKept (fileLines data) ∧ (0 ≤ verifyTx ∨ verifyRx < 0 ∨ sizeRet data.length < 0) := by
  obtain ⟨r, hr, htx, -, -, -, -, hfail⟩ := hright .cleared .cleared
  obtain ⟨hparse, -, -, -, hret, -⟩ := h.parse hend .cleared .cleared verifyTx verifyRx
  obtain rfl := Except.ok.inj (hparse.symm.trans hr)
  constructor
  · by_contra hlost
    exact h.lost hend hlost verifyTx verifyRx htx
  · by_contra hne
    push Not at hne
    have hneg := hfail (.inl hne.1)
    exact absurd (hret.mpr hne.2) (Int.not_le.mpr hneg)

/-- A filter file with its lines for the filters, and 16 coefficients -/
def firText (header : String) : List Char := header.toList ++ (List.replicate 16 ['1', '\n']).flatten

def plainFile : List Char := firText "TX 3 GAIN 0 INT 2\nRX 3 GAIN 0 DEC 2\n"

/-- A path line between the lines for the filters -/
def pathFile : List Char := firText "TX 3 GAIN 0 INT 2\nRTX 8 8 4 2 1 1\nRX 3 GAIN 0 DEC 2\n"

lemma filterFile_of_decide (hwhole : ∀ line ∈ lines, IsComment line ∨
      ∃ k ∈ [FirLine.tx, .rx, .rtx, .rrx, .bwrx, .bwtx, .coef], k.Complete line)
    (htx : lines.filterMap FirLine.tx.headerOf = [⟨3, 0, 2⟩]) (hrx : lines.filterMap FirLine.rx.headerOf = [⟨3, 0, 2⟩])
    (hcoef : TapsFit (lines.countP (FirLine.coef.Complete ·))) :
    FilterFile lines ⟨3, 0, 2⟩ ⟨3, 0, 2⟩ .tx1tx2 .rx1rx2 :=
  ⟨fun line hmem => (hwhole line hmem).imp_right fun ⟨k, _, hk⟩ => ⟨k, hk⟩, htx, hrx, hcoef, by decide, by decide,
    by simp [GainFits], by simp [GainFits], by decide, by decide⟩

lemma plainFile_filterFile : FilterFile (fileLines plainFile) ⟨3, 0, 2⟩ ⟨3, 0, 2⟩ .tx1tx2 .rx1rx2 :=
  filterFile_of_decide (by decide) (by decide) (by decide) (by decide)

lemma pathFile_filterFile : FilterFile (fileLines pathFile) ⟨3, 0, 2⟩ ⟨3, 0, 2⟩ .tx1tx2 .rx1rx2 :=
  filterFile_of_decide (by decide) (by decide) (by decide) (by decide)

end NoOS
