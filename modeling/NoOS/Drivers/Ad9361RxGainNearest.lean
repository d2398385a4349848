import NoOS.Drivers.Ad9361RxGain
import NoOS.Lib.Nearest
import NoOS.Lib.Trace
import NoOS.Lib.Word
import Mathlib.Algebra.Order.Ring.Int

/-!
# The entries of the gain tables

The registers hold an index of the table that is loaded, in each of its bands and over every change of the band.
-/

namespace NoOS
open NearestEntry

/-- What the driver relies on. -/
structure GainTableInfo.WellFormed (info : GainTableInfo) : Prop where
  pos : 0 < info.maxIndex
  small : info.maxIndex ≤ 128
  gains : info.absGainTbl.length = info.maxIndex
  words : info.tab.length = info.maxIndex
  sorted : info.absGainTbl.Pairwise (· ≤ ·)
  range : ∀ e ∈ info.absGainTbl, -128 ≤ e ∧ e < 128

lemma adiGtInfo_wellFormed {info : GainTableInfo} (h : info ∈ adiGtInfo) : info.WellFormed := by
  have hall : ∀ info ∈ adiGtInfo, 0 < info.maxIndex ∧ info.maxIndex ≤ 128 ∧ info.absGainTbl.length = info.maxIndex ∧
      info.tab.length = info.maxIndex := by decide
  have hchain : ∀ info ∈ adiGtInfo, info.absGainTbl.IsChain (· ≤ ·) := by decide +kernel
  have hrange : ∀ info ∈ adiGtInfo, ∀ e ∈ info.absGainTbl, -128 ≤ e ∧ e < 128 := by decide
  obtain ⟨hpos, hsmall, hgains, hwords⟩ := hall info h
  exact ⟨hpos, hsmall, hgains, hwords, List.isChain_iff_pairwise.mp (hchain info h), hrange info h⟩

section Entry

variable {α : Type} {tbl : List α} {i : ℕ} {e : α}

lemma entry_ok (h : tbl[i]? = some e) : entry tbl i = .ok e := by
  unfold entry
  rw [h]

lemma exists_entry (h : i < tbl.length) : ∃ e, tbl[i]? = some e := ⟨tbl[i], List.getElem?_eq_getElem h⟩

end Entry

namespace Ad9361Rx

variable {phy : Ad9361Rx} {info : GainTableInfo} {tbl : List ℤ} {gain : ℤ}

lemma natAbs_lt_iff (a b : ℤ) : a.natAbs < b.natAbs ↔ |a| < |b| := by
  rw [Int.abs_eq_natAbs, Int.abs_eq_natAbs]
  exact Int.ofNat_lt.symm

/-- The search from an index below which all entries are too small. -/
lemma findTableIndexFrom_spec (hs : tbl.Pairwise (· ≤ ·)) (n i : ℕ) (hlen : i + n = tbl.length)
    (hbelow : ∀ j < i, ∀ e, tbl[j]? = some e → e < gain) :
    (∃ k : ℕ, findTableIndexFrom tbl gain n i = .ok k ∧ IsNearest tbl gain k) ∨
      findTableIndexFrom tbl gain n i = .ok (-EINVAL) ∧ ∀ e ∈ tbl, e < gain := by
  induction n generalizing i with
  | zero =>
    right
    refine ⟨rfl, fun e hmem => ?_⟩
    obtain ⟨j, hj⟩ := List.mem_iff_getElem?.mp hmem
    have hlt := (List.getElem?_eq_some_iff.mp hj).1
    exact hbelow j (by lia) e hj
  | succ n ih =>
    obtain ⟨e, he⟩ := @exists_entry _ tbl i (by lia)
    unfold findTableIndexFrom
    rw [entry_ok he]
    by_cases hge : e ≥ gain
    · left
      change ∃ k : ℕ, (if e ≥ gain then _ else _) = _ ∧ _
      rw [if_pos hge]
      cases i with
      | zero =>
        refine ⟨0, ?_, isNearest_first hs he hge⟩
        change (entry tbl 0 >>= _) = _
        rw [entry_ok he]
        exact if_neg (Nat.lt_irrefl _)
      | succ i =>
        obtain ⟨p, hp⟩ := @exists_entry _ tbl i (by lia)
        have hnear := isNearest_between hs hp he (hbelow i (Nat.lt_succ_self i) p hp).le hge
        refine ⟨_, ?_, hnear⟩
        change (entry tbl i >>= _) = _
        rw [entry_ok hp]
        change (if (p - gain).natAbs < (e - gain).natAbs then _ else _) = _
        by_cases hcloser : (p - gain).natAbs < (e - gain).natAbs
        · have hprev : ((i + 1 : ℕ) : ℤ) - 1 = i := by lia
          rw [if_pos hcloser, if_pos ((natAbs_lt_iff _ _).mp hcloser), if_pos (Nat.succ_pos i), hprev]
          rfl
        · rw [if_neg hcloser, if_neg fun h => hcloser ((natAbs_lt_iff _ _).mpr h)]
          rfl
    · change (∃ k : ℕ, (if e ≥ gain then _ else _) = _ ∧ _) ∨ (if e ≥ gain then _ else _) = _ ∧ _
      rw [if_neg hge]
      apply ih (i + 1) (by lia)
      intro j hj e' he'
      rcases Nat.lt_succ_iff_lt_or_eq.mp hj with hlt | rfl
      · exact hbelow j hlt e' he'
      · rw [he] at he'
        rw [← Option.some.inj he']
        exact not_le.mp hge

lemma findTableIndex_spec (h : adiGtInfo[phy.gt.toNat]? = some info) (gain : ℤ) :
    (∃ k : ℕ, phy.findTableIndex gain = .ok k ∧ IsNearest info.absGainTbl gain k) ∨
      phy.findTableIndex gain = .ok (-EINVAL) ∧ ∀ e ∈ info.absGainTbl, e < gain := by
  have hwf := adiGtInfo_wellFormed (List.mem_of_getElem? h)
  unfold findTableIndex
  rw [entry_ok h]
  change (∃ k : ℕ, findTableIndexFrom info.absGainTbl gain info.maxIndex 0 = _ ∧ _) ∨
    findTableIndexFrom info.absGainTbl gain info.maxIndex 0 = _ ∧ _
  apply findTableIndexFrom_spec hwf.sorted
  · rw [hwf.gains, Nat.zero_add]
  · intro j hj
    exact absurd hj (Nat.not_lt_zero j)

lemma findTableIndex_orLast (h : adiGtInfo[phy.gt.toNat]? = some info) (gain : ℤ) :
    ∃ (ret : Int) (k : ℕ), phy.findTableIndex gain = .ok ret ∧
      (if ret < 0 then (info.maxIndex : Int) - 1 else ret) = k ∧ IsNearest info.absGainTbl gain k := by
  have hwf := adiGtInfo_wellFormed (List.mem_of_getElem? h)
  rcases findTableIndex_spec h gain with ⟨k, hk, hnear⟩ | ⟨herr, hall⟩
  · refine ⟨k, k, hk, ?_, hnear⟩
    rw [if_neg (Int.not_lt.mpr (Int.natCast_nonneg k))]
  · have hpos := hwf.pos
    obtain ⟨e, he⟩ := @exists_entry _ info.absGainTbl (info.maxIndex - 1) (by rw [hwf.gains]; lia)
    refine ⟨-EINVAL, info.maxIndex - 1, herr, ?_, ?_⟩
    · rw [if_pos (by decide)]
      lia
    · apply isNearest_last hwf.sorted he
      · rw [hwf.gains]
        lia
      · exact (hall e (List.mem_of_getElem? he)).le

/-- The carrier frequencies of the receivers, halved as the clock framework does. -/
def Carrier : Type := { rate : UInt32 // 70000000 ≤ fromClk rate ∧ fromClk rate ≤ 6000000000 }

def Carrier.freq (rate : Carrier) : ℕ := fromClk rate.1

lemma gtTableindex_spec (phy : Ad9361Rx) (rate : Carrier) :
    ∃ info, adiGtInfo[phy.gtTableindex rate.freq]? = some info ∧ info.splitTable = phy.splitGt ∧
      info.start < rate.freq ∧ rate.freq ≤ info.stop := by
  obtain ⟨hlow, hhigh⟩ := rate.2
  change 70000000 ≤ rate.freq at hlow
  change rate.freq ≤ 6000000000 at hhigh
  have hexists : ∃ info ∈ adiGtInfo, phy.splitGt = info.splitTable ∧ info.start < rate.freq ∧ rate.freq ≤ info.stop := by
    simp only [adiGtInfo, List.mem_cons, List.not_mem_nil, or_false, exists_eq_or_imp, exists_eq_left]
    cases phy.splitGt
    · simp only [true_and, Bool.false_eq_true, false_and, or_false]
      lia
    · simp only [true_and, Bool.true_eq_false, false_and, false_or]
      lia
  unfold gtTableindex
  cases hfind : adiGtInfo.findIdx? fun info => phy.splitGt = info.splitTable ∧ info.start < rate.freq ∧ rate.freq ≤ info.stop with
  | none =>
    obtain ⟨info, hmem, hinfo⟩ := hexists
    have hno := List.findIdx?_eq_none_iff.mp hfind info hmem
    exact absurd hinfo (of_decide_eq_false hno)
  | some i =>
    obtain ⟨hi, hp, -⟩ := List.findIdx?_eq_some_iff_getElem.mp hfind
    obtain ⟨hsplit, hrange⟩ := of_decide_eq_true hp
    exact ⟨adiGtInfo[i], List.getElem?_eq_getElem hi, hsplit.symm, hrange⟩

lemma ofNat_band {band : ℕ} (h : adiGtInfo[band]? = some info) :
    (UInt32.ofNat band).toNat = band ∧ UInt32.ofNat band ≠ NO_GAIN_TABLE := by
  have hlt := (List.getElem?_eq_some_iff.mp h).1
  change band < 6 at hlt
  have hval : (UInt32.ofNat band).toNat = band := UInt32.toNat_ofNat_of_lt' (by simp only [UInt32.size]; omega)
  refine ⟨hval, fun hno => ?_⟩
  have hmax := congrArg UInt32.toNat hno
  rw [hval] at hmax
  change band = 0xFFFFFFFF at hmax
  lia

lemma foldlM_loadWord {tab : List GainWord} {lna mask : UInt8} (n : ℕ) (hn : n ≤ tab.length) :
    ∃ addr tbl tia, (List.range n).foldlM (loadWord tab lna mask) phy =
        .ok { phy with gainTableAddress := addr, gainTable := tbl, txQuadLpfTiaMatch := tia } ∧
      ∀ i < n, ∃ word, tab[i]? = some word ∧ tbl i = (word.1 ||| lna, word.2.1, word.2.2) := by
  induction n with
  | zero => exact ⟨phy.gainTableAddress, phy.gainTable, phy.txQuadLpfTiaMatch, rfl, fun i hi => absurd hi (Nat.not_lt_zero i)⟩
  | succ n ih =>
    obtain ⟨addr, tbl, tia, hrun, hwords⟩ := ih (by lia)
    obtain ⟨word, hword⟩ := @exists_entry _ tab n (by omega)
    refine ⟨n, Function.update tbl n (word.1 ||| lna, word.2.1, word.2.2), if word.2.1 &&& mask = 0x20 then n else tia, ?_, ?_⟩
    · rw [List.range_succ, List.foldlM_append, hrun]
      change (loadWord tab lna mask _ n >>= _) = _
      unfold loadWord
      rw [entry_ok hword]
      rfl
    · intro i hi
      rcases Nat.lt_succ_iff_lt_or_eq.mp hi with hlt | rfl
      · obtain ⟨w, hw, hval⟩ := hwords i hlt
        exact ⟨w, hw, by rw [Function.update_of_ne hlt.ne, hval]⟩
      · exact ⟨word, hword, Function.update_self _ _ _⟩

lemma writef8_and (old mask : UInt8) (val : UInt32) : writef8 old mask val &&& mask = val.toUInt8 &&& mask := by
  apply UInt8.toBitVec_inj.mp
  ext i
  simp only [writef8, UInt8.toBitVec_and, UInt8.toBitVec_or, UInt8.toBitVec_not, BitVec.getElem_and,
    BitVec.getElem_or, BitVec.getElem_not]
  grind

lemma toNat_and_mask (n : ℕ) (val : UInt32) (hn : n ≤ 8) (h : val.toNat < 2 ^ n) :
    (val.toUInt8 &&& UInt8.ofNat (2 ^ n - 1)).toNat = val.toNat := by
  have hpow : 2 ^ n ≤ 2 ^ 8 := Nat.pow_le_pow_right (by omega) hn
  have hpos := Nat.two_pow_pos n
  have hbyte : val.toNat < 2 ^ 8 := h.trans_le hpow
  have hmask : (UInt8.ofNat (2 ^ n - 1)).toNat = 2 ^ n - 1 :=
    UInt8.toNat_ofNat_of_lt' (by simp only [UInt8.size]; lia)
  rw [UInt8.toNat_and, hmask, Nat.and_two_pow_sub_one_eq_mod, UInt32.toNat_toUInt8,
    Nat.mod_eq_of_lt hbyte, Nat.mod_eq_of_lt h]

lemma toNat_ofInt_natCast {k : ℕ} (h : k < 2 ^ 32) : (UInt32.ofInt k).toNat = k := by
  rw [Word.ofInt_natCast, UInt32.toNat_ofNat_of_lt' h]

lemma index_writef8 (manual : ManualGain) {k : ℕ} (h : k < 128) :
    (writef8 manual.lmtFull RX_FULL_TBL_IDX_MASK (UInt32.ofInt k) &&& RX_FULL_TBL_IDX_MASK).toNat = k := by
  have hval := @toNat_ofInt_natCast k (by omega)
  rw [writef8_and]
  change (_ &&& UInt8.ofNat (2 ^ 7 - 1)).toNat = k
  rw [toNat_and_mask 7 _ (by omega) (by rw [hval]; exact h), hval]

lemma index_toUInt8 {k : ℕ} (h : k < 128) : ((UInt32.ofInt k).toUInt8 &&& RX_FULL_TBL_IDX_MASK).toNat = k := by
  have hval := @toNat_ofInt_natCast k (by omega)
  change (_ &&& UInt8.ofNat (2 ^ 7 - 1)).toNat = k
  rw [toNat_and_mask 7 _ (by omega) (by rw [hval]; exact h), hval]

/-- The index that is programmed for a receiver. -/
def index (phy : Ad9361Rx) (rxId : UInt32) : ℕ := ((phy.manual rxId).lmtFull &&& RX_FULL_TBL_IDX_MASK).toNat

/-- The table that is loaded. -/
def table (phy : Ad9361Rx) : Option GainTableInfo :=
  if phy.currentTable = NO_GAIN_TABLE then none else adiGtInfo[phy.currentTable.toNat]?

def lna (phy : Ad9361Rx) : UInt8 := if phy.elnaInGaintableAllIndexEn then EXT_LNA_CTRL else 0

/-- The indices of both receivers and the words of the device are the ones of the table `info`. -/
structure Holds (phy : Ad9361Rx) (info : GainTableInfo) : Prop where
  table : phy.table = some info
  split : info.splitTable = phy.splitGt
  index : ∀ rxId, phy.index rxId < info.maxIndex
  max : phy.maxLmtFullGain.toNat = info.maxIndex - 1
  words : ∀ i < info.maxIndex, ∃ word, info.tab[i]? = some word ∧ phy.gainTable i = (word.1 ||| phy.lna, word.2.1, word.2.2)

lemma table_eq (h : phy.table = some info) :
    phy.currentTable ≠ NO_GAIN_TABLE ∧ adiGtInfo[phy.currentTable.toNat]? = some info ∧
      adiGtInfo[phy.gt.toNat]? = some info := by
  unfold table at h
  by_cases hno : phy.currentTable = NO_GAIN_TABLE
  · rw [if_pos hno] at h
    exact absurd h nofun
  · rw [if_neg hno] at h
    refine ⟨hno, h, ?_⟩
    unfold gt
    rw [if_neg hno]
    exact h

lemma Holds.wellFormed (h : phy.Holds info) : info.WellFormed :=
  adiGtInfo_wellFormed (List.mem_of_getElem? (table_eq h.table).2.1)

lemma Holds.gainBefore (h : phy.Holds info) (rxId : UInt32) (info' : GainTableInfo) :
    ∃ g, info.absGainTbl[phy.index rxId]? = some g ∧ phy.gainBefore info' (phy.manual rxId) = .ok g := by
  obtain ⟨hno, htable, -⟩ := table_eq h.table
  obtain ⟨g, hg⟩ := @exists_entry _ info.absGainTbl (phy.index rxId) (by rw [h.wellFormed.gains]; exact h.index rxId)
  refine ⟨g, hg, ?_⟩
  unfold Ad9361Rx.gainBefore
  dsimp only
  rw [if_pos hno, entry_ok htable]
  exact entry_ok hg

lemma gainBefore_fresh (hno : phy.currentTable = NO_GAIN_TABLE) (hwf : info.WellFormed) (manual : ManualGain) :
    ∃ g, phy.gainBefore info manual = .ok g := by
  have hpos := hwf.pos
  unfold Ad9361Rx.gainBefore
  dsimp only
  rw [if_neg (not_not.mpr hno)]
  obtain ⟨g, hg⟩ := @exists_entry _ info.absGainTbl
    (if (manual.lmtFull &&& RX_FULL_TBL_IDX_MASK).toNat > info.maxIndex - 1 then info.maxIndex - 1
      else (manual.lmtFull &&& RX_FULL_TBL_IDX_MASK).toNat) (by rw [hwf.gains]; split_ifs <;> lia)
  exact ⟨g, entry_ok hg⟩

/-- A new table, and indices of it nearest to the gains from before. -/
lemma loadGt_change {rate : Carrier} {band : ℕ} (hband : phy.gtTableindex rate.freq = band)
    (hinfo : adiGtInfo[band]? = some info) (hsplit : info.splitTable = phy.splitGt)
    (hother : phy.currentTable ≠ UInt32.ofNat band) {g1 g2 : ℤ} (h1 : phy.gainBefore info phy.rx1 = .ok g1)
    (h2 : phy.gainBefore info phy.rx2 = .ok g2) :
    ∃ phy', phy.loadGt rate.freq = .ok phy' ∧ phy'.Holds info ∧ phy'.splitGt = phy.splitGt ∧
      IsNearest info.absGainTbl g1 (phy'.index 1) ∧ IsNearest info.absGainTbl g2 (phy'.index 2) := by
  have hwf := adiGtInfo_wellFormed (List.mem_of_getElem? hinfo)
  have hsmall := hwf.small
  obtain ⟨hval, hno⟩ := ofNat_band hinfo
  obtain ⟨addr, tbl, tia, hload, hwords⟩ := @foldlM_loadWord
    { phy with
      agcUseFullGainTable := !phy.splitGt
      maxLmtFullGain := UInt8.ofNat (info.maxIndex - 1)
      txQuadLpfTiaMatch := -EINVAL }
    info.tab phy.lna (if phy.splitGt then 0x20 else 0x3F) info.maxIndex hwf.words.ge
  have hgt : ∀ p : Ad9361Rx, p.currentTable = UInt32.ofNat band → adiGtInfo[p.gt.toNat]? = some info := by
    intro p hp
    unfold gt
    rw [hp, if_neg hno, hval]
    exact hinfo
  let p0 : Ad9361Rx := { phy with
    agcUseFullGainTable := !phy.splitGt
    maxLmtFullGain := UInt8.ofNat (info.maxIndex - 1)
    txQuadLpfTiaMatch := tia
    gainTableAddress := addr
    gainTable := tbl
    currentTable := UInt32.ofNat band }
  obtain ⟨ret1, k1, hret1, hk1, hnear1⟩ := findTableIndex_orLast (hgt p0 rfl) g1
  let p1 : Ad9361Rx := { p0 with rx1.lmtFull := writef8 phy.rx1.lmtFull RX_FULL_TBL_IDX_MASK (UInt32.ofInt k1) }
  obtain ⟨ret2, k2, hret2, hk2, hnear2⟩ := findTableIndex_orLast (hgt p1 rfl) g2
  have hlt1 : k1 < info.maxIndex := hwf.gains ▸ hnear1.lt_length
  have hlt2 : k2 < info.maxIndex := hwf.gains ▸ hnear2.lt_length
  let p2 : Ad9361Rx := { p1 with rx2.lmtFull := (UInt32.ofInt k2).toUInt8 }
  have hrun : phy.loadGt rate.freq = .ok p2 := by
    unfold loadGt
    rw [hband]
    dsimp only
    rw [if_neg hother, entry_ok hinfo]
    change (phy.gainBefore info phy.rx1 >>= _) = _
    rw [h1]
    change (phy.gainBefore info phy.rx2 >>= _) = _
    rw [h2]
    change (List.foldlM (loadWord info.tab phy.lna _) _ _ >>= _) = _
    rw [hload]
    change (p0.findTableIndex g1 >>= _) = _
    rw [hret1]
    change (findTableIndex
      { p0 with
        rx1.lmtFull := writef8 phy.rx1.lmtFull RX_FULL_TBL_IDX_MASK
          (UInt32.ofInt (if ret1 < 0 then (info.maxIndex : Int) - 1 else ret1)) } g2 >>= _) = _
    rw [hk1]
    change (p1.findTableIndex g2 >>= _) = _
    rw [hret2]
    change Except.ok
      { p1 with
        rx2.lmtFull := (UInt32.ofInt (if ret2 < 0 then (info.maxIndex : Int) - 1 else ret2)).toUInt8 } = _
    rw [hk2]
  have hindex1 : p2.index 1 = k1 := index_writef8 phy.rx1 (hlt1.trans_le hsmall)
  have hindex2 : ∀ rxId, rxId ≠ 1 → p2.index rxId = k2 := by
    intro rxId hrx
    unfold index manual
    rw [if_neg hrx]
    exact index_toUInt8 (hlt2.trans_le hsmall)
  refine ⟨p2, hrun, ?_, rfl, hindex1.symm ▸ hnear1, (hindex2 2 (by decide)).symm ▸ hnear2⟩
  constructor
  · unfold table
    rw [if_neg hno]
    change adiGtInfo[(UInt32.ofNat band).toNat]? = _
    rw [hval]
    exact hinfo
  · exact hsplit
  · intro rxId
    by_cases hrx : rxId = 1
    · rw [hrx, hindex1]
      exact hlt1
    · rw [hindex2 rxId hrx]
      exact hlt2
  · have hpos := hwf.pos
    change (UInt8.ofNat (info.maxIndex - 1)).toNat = _
    exact UInt8.toNat_ofNat_of_lt' (by simp only [UInt8.size]; lia)
  · exact hwords

variable {rxId : UInt32} {manual : ManualGain}

lemma manual_setManual (phy : Ad9361Rx) (rxId : UInt32) (manual : ManualGain) : (phy.setManual rxId manual).manual rxId = manual := by
  unfold setManual Ad9361Rx.manual
  by_cases h : rxId = 1
  · rw [if_pos h, if_pos h]
  · rw [if_neg h, if_neg h]

lemma Holds.setManual (h : phy.Holds info) (hm : (manual.lmtFull &&& RX_FULL_TBL_IDX_MASK).toNat < info.maxIndex) :
    (phy.setManual rxId manual).Holds info := by
  have hindex : ∀ id, (phy.setManual rxId manual).index id = (manual.lmtFull &&& RX_FULL_TBL_IDX_MASK).toNat ∨
      (phy.setManual rxId manual).index id = phy.index id := by
    intro id
    unfold Ad9361Rx.index Ad9361Rx.setManual Ad9361Rx.manual
    split_ifs <;> first | exact Or.inl rfl | exact Or.inr rfl
  constructor
  · rw [← h.table]
    unfold Ad9361Rx.setManual
    split_ifs <;> rfl
  · rw [h.split]
    unfold Ad9361Rx.setManual
    split_ifs <;> rfl
  · intro id
    rcases hindex id with heq | heq
    · rw [heq]
      exact hm
    · rw [heq]
      exact h.index id
  · rw [← h.max]
    unfold Ad9361Rx.setManual
    split_ifs <;> rfl
  · intro i hi
    obtain ⟨word, hword, hval⟩ := h.words i hi
    refine ⟨word, hword, ?_⟩
    unfold Ad9361Rx.setManual
    split_ifs
    · exact hval
    · exact hval

/-- The registers after a gain has been set to the entry `k`. -/
def written (phy : Ad9361Rx) (rxId : UInt32) (req : RfRxGain) (k : ℕ) : ManualGain :=
  let old := phy.manual rxId
  { lmtFull := writef8 old.lmtFull RX_FULL_TBL_IDX_MASK (UInt32.ofInt k)
    lpf := if phy.splitGt then writef8 old.lpf RX_LPF_IDX_MASK req.lpfGain else old.lpf
    digital := if phy.splitGt ∧ phy.digGainEn then writef8 old.digital RX_DIGITAL_IDX_MASK req.digitalGain
      else old.digital }

/-- What a split table asks of a request. -/
def InLimits (phy : Ad9361Rx) (req : RfRxGain) : Prop :=
  phy.splitGt → ¬(req.fgtLmtIndex > MAX_LMT_INDEX ∨ req.lpfGain > MAX_LPF_GAIN ∨ req.digitalGain > MAX_DIG_GAIN)

lemma Holds.setGain (h : phy.Holds info) (hid : rxId = 1 ∨ rxId = 2) (hmgc : phy.gainCtl rxId = RX_GAIN_CTL_MGC)
    {req : RfRxGain} (hlim : phy.InLimits req) :
    (∃ k : ℕ, phy.setRxGain rxId req = .ok (0, phy.setManual rxId (phy.written rxId req k)) ∧
      IsNearest info.absGainTbl req.gainDb.toInt k) ∨
    phy.setRxGain rxId req = .ok (-EINVAL, phy) ∧ ∀ e ∈ info.absGainTbl, e < req.gainDb.toInt := by
  have hwf := h.wellFormed
  have hpos := hwf.pos
  obtain ⟨-, -, hgt⟩ := table_eq h.table
  have hids : ¬(rxId ≠ 1 ∧ rxId ≠ 2) := by
    rintro ⟨h1, h2⟩
    exact hid.elim h1 h2
  have hinvalid : ∃ ends, phy.invalidGain = .ok ends := by
    obtain ⟨lo, hlo⟩ := @exists_entry _ info.absGainTbl 0 (by rw [hwf.gains]; exact hpos)
    obtain ⟨hi, hhi⟩ := @exists_entry _ info.absGainTbl (info.maxIndex - 1) (by rw [hwf.gains]; lia)
    refine ⟨(lo, hi), ?_⟩
    unfold invalidGain
    rw [entry_ok hgt]
    change (entry info.absGainTbl 0 >>= _) = _
    rw [entry_ok hlo]
    change (entry info.absGainTbl (info.maxIndex - 1) >>= _) = _
    rw [entry_ok hhi]
    rfl
  obtain ⟨ends, hends⟩ := hinvalid
  unfold setRxGain
  rw [if_neg hids, if_neg (not_not.mpr hmgc)]
  rcases findTableIndex_spec hgt req.gainDb.toInt with ⟨k, hk, hnear⟩ | ⟨herr, hall⟩
  · left
    refine ⟨k, ?_, hnear⟩
    cases hsplit : phy.splitGt
    · rw [if_neg Bool.false_ne_true]
      unfold setFullTableGain
      rw [hk]
      simp only [written, hsplit, Bool.false_eq_true, false_and, if_false]
      rfl
    · rw [if_pos (Eq.refl true)]
      unfold setSplitTableGain
      rw [if_neg (hlim hsplit), hk]
      simp only [written, hsplit, true_and, if_true]
      rfl
  · right
    refine ⟨?_, hall⟩
    cases hsplit : phy.splitGt
    · rw [if_neg Bool.false_ne_true]
      unfold setFullTableGain
      rw [herr]
      change (phy.invalidGain >>= fun _ => Except.ok ((-EINVAL : Int), phy)) = _
      rw [hends]
      rfl
    · rw [if_pos (Eq.refl true)]
      unfold setSplitTableGain
      rw [if_neg (hlim hsplit), herr]
      change (phy.invalidGain >>= fun _ => Except.ok ((-EINVAL : Int), phy)) = _
      rw [hends]
      rfl

lemma Holds.written_lt (h : phy.Holds info) {req : RfRxGain} {k : ℕ} (hnear : IsNearest info.absGainTbl gain k) :
    ((phy.written rxId req k).lmtFull &&& RX_FULL_TBL_IDX_MASK).toNat = k ∧ k < info.maxIndex := by
  have hlt : k < info.maxIndex := h.wellFormed.gains ▸ hnear.lt_length
  exact ⟨index_writef8 (phy.manual rxId) (hlt.trans_le h.wellFormed.small), hlt⟩

/-- Setting a gain keeps the indices below the size of the table. -/
lemma Holds.setRxGain (h : phy.Holds info) (rxId : UInt32) (req : RfRxGain) :
    ∃ rc phy', phy.setRxGain rxId req = .ok (rc, phy') ∧ phy'.Holds info := by
  by_cases hids : rxId ≠ 1 ∧ rxId ≠ 2
  · exact ⟨-EINVAL, phy, if_pos hids, h⟩
  · by_cases hmgc : phy.gainCtl rxId = RX_GAIN_CTL_MGC
    · by_cases hlim : phy.InLimits req
      · have hid : rxId = 1 ∨ rxId = 2 := by
          by_contra hno
          exact hids (not_or.mp hno)
        rcases h.setGain hid hmgc hlim with ⟨k, hset, hnear⟩ | ⟨hset, -⟩
        · obtain ⟨hindex, hlt⟩ := @written_lt _ _ _ rxId h req k hnear
          exact ⟨0, _, hset, h.setManual (by rw [hindex]; exact hlt)⟩
        · exact ⟨-EINVAL, phy, hset, h⟩
      · unfold InLimits at hlim
        obtain ⟨hsplit, hbad⟩ := Classical.not_imp.mp hlim
        refine ⟨-EINVAL, phy, ?_, h⟩
        unfold Ad9361Rx.setRxGain
        rw [if_neg hids, if_neg (not_not.mpr hmgc), if_pos hsplit]
        exact if_pos (not_not.mp hbad)
    · refine ⟨-EOPNOTSUPP, phy, ?_, h⟩
      unfold Ad9361Rx.setRxGain
      rw [if_neg hids]
      exact if_pos hmgc

/-- The gain of a word of the device with the steps of its band, for one entry. -/
def stepsGain (gt : UInt32) (word : GainWord) : Except TableFault ℤ :=
  lmtGain gt ((word.1 >>> 5) &&& 0x3) (word.1 &&& 0x1F) ((word.2.1 &&& TIA_GAIN) >>> 5)

/-- In a split table the steps of a word add up to the gain of its entry. -/
def stepsAgree (t i : ℕ) (lna : UInt8) : Bool :=
  match adiGtInfo[t]? with
  | none => true
  | some info =>
    !info.splitTable ||
      match info.tab[i]? with
      | none => true
      | some word => (stepsGain (UInt32.ofNat t) (word.1 ||| lna, word.2.1, word.2.2)).toOption = info.absGainTbl[i]?

lemma stepsGain_eq {t i : ℕ} {word : GainWord} {lna : UInt8} {g : ℤ} (hinfo : adiGtInfo[t]? = some info)
    (hsplit : info.splitTable = true) (hword : info.tab[i]? = some word) (hg : info.absGainTbl[i]? = some g)
    (hlna : lna ∈ [0, EXT_LNA_CTRL]) :
    stepsGain (UInt32.ofNat t) (word.1 ||| lna, word.2.1, word.2.2) = .ok g := by
  have hall : ∀ t < 6, ∀ i < 128, stepsAgree t i 0 = true ∧ stepsAgree t i EXT_LNA_CTRL = true := by decide
  have hwf := adiGtInfo_wellFormed (List.mem_of_getElem? hinfo)
  have ht := (List.getElem?_eq_some_iff.mp hinfo).1
  have hi := (List.getElem?_eq_some_iff.mp hword).1
  rw [hwf.words] at hi
  have hone : stepsAgree t i lna = true := by
    obtain ⟨hoff, hext⟩ := hall t ht i (hi.trans_le hwf.small)
    rcases List.mem_pair.mp hlna with rfl | rfl
    · exact hoff
    · exact hext
  unfold stepsAgree at hone
  simp only [hinfo, hsplit, hword, Bool.not_true, Bool.false_or, decide_eq_true_eq, hg] at hone
  cases hsteps : stepsGain (UInt32.ofNat t) (word.1 ||| lna, word.2.1, word.2.2) with
  | error f =>
    rw [hsteps] at hone
    exact absurd hone nofun
  | ok g' =>
    rw [hsteps] at hone
    rw [Option.some.inj hone]

lemma lna_mem (phy : Ad9361Rx) : phy.lna ∈ [0, EXT_LNA_CTRL] := by
  unfold lna
  cases phy.elnaInGaintableAllIndexEn <;> decide

/-- What is read with the gains `device`. -/
structure Reads (phy : Ad9361Rx) (info : GainTableInfo) (device : ManualGain) (rxGain : RfRxGain) : Prop where
  index : rxGain.fgtLmtIndex.toNat = (device.lmtFull &&& RX_FULL_TBL_IDX_MASK).toNat
  gain : ∃ g, info.absGainTbl[rxGain.fgtLmtIndex.toNat]? = some g ∧ rxGain.gainDb.toInt =
    if phy.splitGt then g + (device.lpf &&& RX_LPF_IDX_MASK).toNat + (device.digital &&& RX_DIGITAL_IDX_MASK).toNat
    else g
  lmt : phy.splitGt → ∃ g, info.absGainTbl[rxGain.fgtLmtIndex.toNat]? = some g ∧ rxGain.lmtGain.toInt32.toInt = g

lemma toNat_and_five (x : UInt8) : (x &&& 0x1F).toUInt32.toNat < 32 := by
  rw [UInt8.toNat_toUInt32, UInt8.toNat_and]
  exact Nat.lt_of_le_of_lt Nat.and_le_right (by decide)

lemma Holds.getFullTableGain (h : phy.Holds info) (hsplit : phy.splitGt = false) {device : ManualGain}
    (hlt : (device.lmtFull &&& RX_FULL_TBL_IDX_MASK).toNat < info.maxIndex) (out : RfRxGain) :
    ∃ g, phy.getFullTableGain device out = .ok g ∧ phy.Reads info device g := by
  obtain ⟨-, -, hgt⟩ := table_eq h.table
  obtain ⟨g, hg⟩ := @exists_entry _ info.absGainTbl (device.lmtFull &&& RX_FULL_TBL_IDX_MASK).toNat
    (by rw [h.wellFormed.gains]; exact hlt)
  have hrange := h.wellFormed.range g (List.mem_of_getElem? hg)
  let index := device.lmtFull &&& RX_FULL_TBL_IDX_MASK
  refine ⟨{ out with
    gainDb := Int32.ofInt g
    fgtLmtIndex := index.toUInt32
    digitalGain := (device.digital &&& RX_DIGITAL_IDX_MASK).toUInt32 }, ?_, ?_⟩
  · unfold Ad9361Rx.getFullTableGain
    rw [entry_ok hgt]
    change (entry info.absGainTbl _ >>= _) = _
    rw [entry_ok hg]
    rfl
  · constructor
    · exact UInt8.toNat_toUInt32 _
    · refine ⟨g, (UInt8.toNat_toUInt32 _).symm ▸ hg, ?_⟩
      rw [hsplit, if_neg Bool.false_ne_true]
      exact Int32.toInt_ofInt_of_le (by lia) (by lia)
    · intro hs
      rw [hsplit] at hs
      exact absurd hs Bool.false_ne_true

lemma Holds.getSplitTableGain (h : phy.Holds info) (hsplit : phy.splitGt = true) {device : ManualGain}
    (hlt : (device.lmtFull &&& RX_FULL_TBL_IDX_MASK).toNat < info.maxIndex) (out : RfRxGain) :
    ∃ g, phy.getSplitTableGain device out = .ok g ∧ phy.Reads info device g := by
  obtain ⟨-, hcur, hgt⟩ := table_eq h.table
  obtain ⟨g, hg⟩ := @exists_entry _ info.absGainTbl (device.lmtFull &&& RX_FULL_TBL_IDX_MASK).toNat
    (by rw [h.wellFormed.gains]; exact hlt)
  have hrange := h.wellFormed.range g (List.mem_of_getElem? hg)
  obtain ⟨word, hword, hval⟩ := h.words _ hlt
  have hsteps := stepsGain_eq hgt (h.split.trans hsplit) hword hg phy.lna_mem
  rw [UInt32.ofNat_toNat, ← hval] at hsteps
  have hlpf : (device.lpf &&& RX_LPF_IDX_MASK).toUInt32.toNat < 32 := toNat_and_five device.lpf
  have hdig : (device.digital &&& RX_DIGITAL_IDX_MASK).toUInt32.toNat < 32 := toNat_and_five device.digital
  let index := device.lmtFull &&& RX_FULL_TBL_IDX_MASK
  let word := phy.gainTable index.toNat
  let lpfGain := (device.lpf &&& RX_LPF_IDX_MASK).toUInt32
  let digitalGain := (device.digital &&& RX_DIGITAL_IDX_MASK).toUInt32
  refine ⟨{ out with
    gainDb := (UInt32.ofInt g + lpfGain + digitalGain).toInt32
    fgtLmtIndex := index.toUInt32
    lmtGain := UInt32.ofInt g
    lpfGain := lpfGain
    digitalGain := digitalGain
    lnaIndex := ((word.1 >>> 5) &&& 0x3).toUInt32
    tiaIndex := ((word.2.1 &&& TIA_GAIN) >>> 5).toUInt32
    mixerIndex := (word.1 &&& 0x1F).toUInt32 }, ?_, ?_⟩
  · unfold Ad9361Rx.getSplitTableGain
    change (stepsGain phy.gt _ >>= _) = _
    rw [hsteps]
    rfl
  · have hlmt := Word.toNat_ofInt g
    constructor
    · exact UInt8.toNat_toUInt32 _
    · refine ⟨g, (UInt8.toNat_toUInt32 _).symm ▸ hg, ?_⟩
      rw [hsplit, if_pos (Eq.refl true), ← UInt8.toNat_toUInt32, ← UInt8.toNat_toUInt32]
      apply Word.toInt32_toInt_of_emod
      · lia
      · lia
      · change ((UInt32.ofInt g + (device.lpf &&& RX_LPF_IDX_MASK).toUInt32 +
          (device.digital &&& RX_DIGITAL_IDX_MASK).toUInt32).toNat : ℤ) % 2 ^ 32 = _
        rw [UInt32.toNat_add, UInt32.toNat_add]
        push_cast
        lia
    · intro _
      refine ⟨g, (UInt8.toNat_toUInt32 _).symm ▸ hg, ?_⟩
      apply Word.toInt32_toInt_of_emod
      · lia
      · lia
      · change ((UInt32.ofInt g).toNat : ℤ) % 2 ^ 32 = _
        lia

lemma Holds.deviceGain_lt (h : phy.Holds info) (rxId : UInt32) (report : AgcReport) :
    ((phy.deviceGain rxId report).lmtFull &&& RX_FULL_TBL_IDX_MASK).toNat < info.maxIndex := by
  have hpos := h.wellFormed.pos
  have hmax := h.max
  have hbelow : ∀ x : UInt8, x ≤ phy.maxLmtFullGain → (x &&& RX_FULL_TBL_IDX_MASK).toNat < info.maxIndex := by
    intro x hx
    have hle := UInt8.le_iff_toNat_le.mp hx
    rw [UInt8.toNat_and]
    have hand : x.toNat &&& RX_FULL_TBL_IDX_MASK.toNat ≤ x.toNat := Nat.and_le_left
    lia
  unfold deviceGain
  split_ifs with hmgc hle
  · exact h.index rxId
  · exact hbelow _ hle
  · exact hbelow _ (UInt8.le_refl _)

/-- The receiver is on. -/
def enabled (phy : Ad9361Rx) (rxId : UInt32) : Prop := phy.rxEnableFilterCtrl &&& (if rxId = 1 then 0x40 else 0x80) ≠ 0

/-- The fast attack has not locked the gain. -/
def attacks (phy : Ad9361Rx) (rxId : UInt32) (report : AgcReport) : Prop :=
  phy.gainCtl rxId = RX_GAIN_CTL_AGC_FAST_ATK ∧
    (report.fastAttackState >>> (if rxId = 1 then 0 else 4)) &&& FAST_ATK_MASK ≠ FAST_ATK_GAIN_LOCKED

lemma Holds.getRxGain_ok (h : phy.Holds info) (hid : rxId = 1 ∨ rxId = 2) (hon : phy.enabled rxId) {report : AgcReport}
    (hatk : ¬phy.attacks rxId report) (out : RfRxGain) :
    ∃ g, phy.getRxGain rxId report out = .ok (0, g) ∧ phy.Reads info (phy.deviceGain rxId report) g := by
  have hids : ¬(rxId ≠ 1 ∧ rxId ≠ 2) := by
    rintro ⟨h1, h2⟩
    exact hid.elim h1 h2
  unfold attacks at hatk
  unfold Ad9361Rx.getRxGain
  rw [if_neg hids, if_neg hon, if_neg hatk]
  cases hsplit : phy.splitGt with
  | false =>
    obtain ⟨g, hg, hreads⟩ := h.getFullTableGain hsplit (h.deviceGain_lt rxId report) out
    refine ⟨g, ?_, hreads⟩
    dsimp only
    rw [if_neg Bool.false_ne_true, hg]
    rfl
  | true =>
    obtain ⟨g, hg, hreads⟩ := h.getSplitTableGain hsplit (h.deviceGain_lt rxId report) out
    refine ⟨g, ?_, hreads⟩
    dsimp only
    rw [if_pos (Eq.refl true), hg]
    rfl

lemma Holds.getRxGain (h : phy.Holds info) (rxId : UInt32) (report : AgcReport) (out : RfRxGain) :
    ∃ r, phy.getRxGain rxId report out = .ok r := by
  by_cases hids : rxId ≠ 1 ∧ rxId ≠ 2
  · exact ⟨_, if_pos hids⟩
  have hid : rxId = 1 ∨ rxId = 2 := by
    by_contra hno
    exact hids (not_or.mp hno)
  by_cases hon : phy.enabled rxId
  · by_cases hatk : phy.attacks rxId report
    · refine ⟨(-EAGAIN, out), ?_⟩
      unfold attacks at hatk
      unfold Ad9361Rx.getRxGain
      rw [if_neg hids, if_neg hon, if_pos hatk]
    · obtain ⟨g, hg, -⟩ := h.getRxGain_ok hid hon hatk out
      exact ⟨_, hg⟩
  · refine ⟨(-EAGAIN, out), ?_⟩
    unfold Ad9361Rx.getRxGain
    rw [if_neg hids, if_pos (not_not.mp hon)]

/-- A gain within the table is set to the nearest entry, which is read back with the gains that were set next to it. -/
def SetsNearest (phy : Ad9361Rx) : Prop :=
  ∀ rxId req report out info, (rxId = 1 ∨ rxId = 2) → phy.gainCtl rxId = RX_GAIN_CTL_MGC → phy.enabled rxId →
    phy.InLimits req → phy.table = some info → (∃ lo ∈ info.absGainTbl, lo ≤ req.gainDb.toInt) →
    (∃ hi ∈ info.absGainTbl, req.gainDb.toInt ≤ hi) →
    ∃ phy' g e, phy.setRxGain rxId req = .ok (0, phy') ∧ phy'.getRxGain rxId report out = .ok (0, g) ∧
      IsNearest info.absGainTbl req.gainDb.toInt g.fgtLmtIndex.toNat ∧
      info.absGainTbl[g.fgtLmtIndex.toNat]? = some e ∧ (phy.splitGt → g.lmtGain.toInt32.toInt = e) ∧
      g.gainDb.toInt = if phy.splitGt then
          e + req.lpfGain.toNat + (if phy.digGainEn then req.digitalGain.toNat
            else ((phy.manual rxId).digital &&& RX_DIGITAL_IDX_MASK).toNat)
        else e

lemma setManual_flags (phy : Ad9361Rx) (rxId : UInt32) (manual : ManualGain) :
    (phy.setManual rxId manual).splitGt = phy.splitGt ∧ (phy.setManual rxId manual).agcConfig1 = phy.agcConfig1 ∧
      (phy.setManual rxId manual).rxEnableFilterCtrl = phy.rxEnableFilterCtrl := by
  unfold setManual
  split_ifs
  · exact ⟨rfl, rfl, rfl⟩
  · exact ⟨rfl, rfl, rfl⟩

lemma written_lpf {req : RfRxGain} {k : ℕ} (hsplit : phy.splitGt = true) (hlim : phy.InLimits req) :
    ((phy.written rxId req k).lpf &&& RX_LPF_IDX_MASK).toNat = req.lpfGain.toNat := by
  have hle := UInt32.not_lt.mp (not_or.mp (not_or.mp (hlim hsplit)).2).1
  have hmax : req.lpfGain.toNat ≤ 24 := UInt32.le_iff_toNat_le.mp hle
  unfold written
  dsimp only
  rw [if_pos hsplit, writef8_and]
  exact toNat_and_mask 5 _ (by omega) (by omega)

lemma written_digital {req : RfRxGain} {k : ℕ} (hsplit : phy.splitGt = true) (hlim : phy.InLimits req) :
    ((phy.written rxId req k).digital &&& RX_DIGITAL_IDX_MASK).toNat =
      if phy.digGainEn then req.digitalGain.toNat else ((phy.manual rxId).digital &&& RX_DIGITAL_IDX_MASK).toNat := by
  have hle := UInt32.not_lt.mp (not_or.mp (not_or.mp (hlim hsplit)).2).2
  have hmax : req.digitalGain.toNat ≤ 31 := UInt32.le_iff_toNat_le.mp hle
  unfold written
  dsimp only
  cases hen : phy.digGainEn with
  | false =>
    rw [if_neg fun h => Bool.false_ne_true h.2, if_neg Bool.false_ne_true]
  | true =>
    rw [if_pos ⟨hsplit, Eq.refl true⟩, if_pos (Eq.refl true), writef8_and]
    exact toNat_and_mask 5 _ (by omega) (by omega)

lemma Holds.setsNearest (h : phy.Holds info) : phy.SetsNearest := by
  intro rxId req report out info' hid hmgc hon hlim htable _ hhi
  rw [h.table] at htable
  obtain rfl := Option.some.inj htable
  obtain ⟨hi, hmem, hle⟩ := hhi
  rcases h.setGain hid hmgc hlim with ⟨k, hset, hnear⟩ | ⟨-, hall⟩
  · obtain ⟨hindex, hlt⟩ := @written_lt _ _ _ rxId h req k hnear
    obtain ⟨hsplit, hagc, hen⟩ := phy.setManual_flags rxId (phy.written rxId req k)
    have h' := @setManual _ _ rxId _ h (by rw [hindex]; exact hlt)
    have hmgc' : (phy.setManual rxId (phy.written rxId req k)).gainCtl rxId = RX_GAIN_CTL_MGC := by
      rw [← hmgc]
      unfold gainCtl
      rw [hagc]
    have hon' : (phy.setManual rxId (phy.written rxId req k)).enabled rxId := by
      unfold enabled
      rw [hen]
      exact hon
    have hatk' : ¬(phy.setManual rxId (phy.written rxId req k)).attacks rxId report := by
      rintro ⟨hfast, -⟩
      rw [hmgc'] at hfast
      exact absurd hfast (by decide)
    obtain ⟨g, hget, hreads⟩ := h'.getRxGain_ok hid hon' hatk' out
    have hdevice : (phy.setManual rxId (phy.written rxId req k)).deviceGain rxId report = phy.written rxId req k := by
      unfold deviceGain
      rw [if_pos hmgc', manual_setManual]
    rw [hdevice] at hreads
    obtain ⟨e, he, hgain⟩ := hreads.gain
    refine ⟨_, g, e, hset, hget, ?_, he, ?_, ?_⟩
    · rw [hreads.index, hindex]
      exact hnear
    · intro hs
      obtain ⟨e', he', hlmt⟩ := hreads.lmt (hsplit.trans hs)
      rw [he] at he'
      rw [hlmt, Option.some.inj he']
    · rw [hgain, hsplit]
      cases hs : phy.splitGt with
      | false => rfl
      | true => rw [if_pos (Eq.refl true), if_pos (Eq.refl true), written_lpf hs hlim, written_digital hs hlim]
  · exact absurd (hall hi hmem) (not_lt.mpr hle)

/-- For every carrier there is a table, and a new one is entered at the nearest entries to the old gains. -/
def ChangesNearest (phy : Ad9361Rx) : Prop :=
  ∀ rate : Carrier, ∃ phy' old new, phy.loadGt rate.freq = .ok phy' ∧ phy.table = some old ∧ phy'.table = some new ∧
    new.splitTable = phy.splitGt ∧ new.start < rate.freq ∧ rate.freq ≤ new.stop ∧
    (phy'.currentTable ≠ phy.currentTable → ∀ rxId, rxId = 1 ∨ rxId = 2 →
      ∃ g, old.absGainTbl[phy.index rxId]? = some g ∧ IsNearest new.absGainTbl g (phy'.index rxId))

lemma Holds.loadGt (h : phy.Holds info) (rate : Carrier) :
    ∃ phy' new, phy.loadGt rate.freq = .ok phy' ∧ phy'.Holds new ∧ new.splitTable = phy.splitGt ∧
      new.start < rate.freq ∧ rate.freq ≤ new.stop ∧ (phy'.currentTable ≠ phy.currentTable →
        ∀ rxId, rxId = 1 ∨ rxId = 2 →
          ∃ g, info.absGainTbl[phy.index rxId]? = some g ∧ IsNearest new.absGainTbl g (phy'.index rxId)) := by
  obtain ⟨new, hnew, hsplit, hstart, hstop⟩ := gtTableindex_spec phy rate
  by_cases hcur : phy.currentTable = UInt32.ofNat (phy.gtTableindex rate.freq)
  · have hsame : info = new := by
      have hinfo := (table_eq h.table).2.1
      rw [hcur, (ofNat_band hnew).1, hnew] at hinfo
      exact (Option.some.inj hinfo).symm
    subst hsame
    refine ⟨phy, info, ?_, h, hsplit, hstart, hstop, fun hne => absurd rfl hne⟩
    unfold Ad9361Rx.loadGt
    exact if_pos hcur
  · obtain ⟨g1, hg1, hbefore1⟩ := h.gainBefore 1 new
    obtain ⟨g2, hg2, hbefore2⟩ := h.gainBefore 2 new
    obtain ⟨phy', hload, hholds, -, hnear1, hnear2⟩ := loadGt_change rfl hnew hsplit hcur hbefore1 hbefore2
    refine ⟨phy', new, hload, hholds, hsplit, hstart, hstop, fun _ rxId hid => ?_⟩
    rcases hid with rfl | rfl
    · exact ⟨g1, hg1, hnear1⟩
    · exact ⟨g2, hg2, hnear2⟩

lemma Holds.changesNearest (h : phy.Holds info) : phy.ChangesNearest := by
  intro rate
  obtain ⟨phy', new, hload, hholds, hsplit, hstart, hstop, hchange⟩ := h.loadGt rate
  exact ⟨phy', info, new, hload, h.table, hholds.table, hsplit, hstart, hstop, hchange⟩

lemma loadGt_first (phy : Ad9361Rx) (rate : Carrier) :
    ∃ phy' new, phy.clearState.loadGt rate.freq = .ok phy' ∧ phy'.Holds new := by
  obtain ⟨new, hnew, hsplit, -, -⟩ := gtTableindex_spec phy.clearState rate
  have hwf := adiGtInfo_wellFormed (List.mem_of_getElem? hnew)
  obtain ⟨g1, hbefore1⟩ := @gainBefore_fresh phy.clearState new rfl hwf phy.rx1
  obtain ⟨g2, hbefore2⟩ := @gainBefore_fresh phy.clearState new rfl hwf phy.rx2
  have hother := (ofNat_band hnew).2.symm
  obtain ⟨phy', hload, hholds, -⟩ := loadGt_change rfl hnew hsplit hother hbefore1 hbefore2
  exact ⟨phy', new, hload, hholds⟩

inductive Call where
  | setLoFreq (rate : Carrier)
  | agcConfig1 (val : UInt8)
  | rxEnable (val : UInt8)
  | setRxGain (rxId : UInt32) (rxGain : RfRxGain)
  | getRxGain (rxId : UInt32) (report : AgcReport) (out : RfRxGain)

def step (phy : Ad9361Rx) : Call → Except TableFault Ad9361Rx
  | .setLoFreq rate => phy.loadGt rate.freq
  | .agcConfig1 val => .ok { phy with agcConfig1 := val }
  | .rxEnable val => .ok { phy with rxEnableFilterCtrl := val }
  | .setRxGain rxId rxGain => (phy.setRxGain rxId rxGain).map Prod.snd
  | .getRxGain rxId report out => (phy.getRxGain rxId report out).map fun _ => phy

lemma Holds.step (h : phy.Holds info) (call : Call) : ∃ phy' new, phy.step call = .ok phy' ∧ phy'.Holds new := by
  cases call with
  | setLoFreq rate =>
    obtain ⟨phy', new, hload, hholds, -⟩ := h.loadGt rate
    exact ⟨phy', new, hload, hholds⟩
  | agcConfig1 val => exact ⟨_, info, rfl, h.table, h.split, h.index, h.max, h.words⟩
  | rxEnable val => exact ⟨_, info, rfl, h.table, h.split, h.index, h.max, h.words⟩
  | setRxGain rxId rxGain =>
    obtain ⟨rc, phy', hset, hholds⟩ := h.setRxGain rxId rxGain
    refine ⟨phy', info, ?_, hholds⟩
    unfold Ad9361Rx.step
    dsimp only
    rw [hset]
    rfl
  | getRxGain rxId report out =>
    obtain ⟨r, hget⟩ := h.getRxGain rxId report out
    refine ⟨phy, info, ?_, h⟩
    unfold Ad9361Rx.step
    dsimp only
    rw [hget]
    rfl

lemma run_holds (h : phy.Holds info) (calls : List Call) :
    ∃ phy' new, Trace.run (Trace.orFault step) (.ok phy) calls = .ok phy' ∧ phy'.Holds new := by
  induction calls generalizing phy info with
  | nil => exact ⟨phy, info, rfl, h⟩
  | cons call calls ih =>
    obtain ⟨phy', new, hstep, hholds⟩ := h.step call
    rw [Trace.run_cons, Trace.orFault_ok, hstep]
    exact ih hholds

end Ad9361Rx

open Ad9361Rx

/-- Every run after the first carrier uses entries of the tables only. In each of its states a gain is set to the
nearest entry, and a new table is entered at the nearest ones. -/
theorem gain_table_consistent (phy : Ad9361Rx) (first : Carrier) (calls : List Ad9361Rx.Call) :
    ∃ phy', Trace.run (Trace.orFault Ad9361Rx.step) (phy.clearState.loadGt first.freq) calls = .ok phy' ∧
      phy'.SetsNearest ∧ phy'.ChangesNearest := by
  obtain ⟨start, info, hload, hholds⟩ := loadGt_first phy first
  obtain ⟨phy', new, hrun, hholds'⟩ := run_holds hholds calls
  rw [hload]
  exact ⟨phy', hrun, hholds'.setsNearest, hholds'.changesNearest⟩

end NoOS
