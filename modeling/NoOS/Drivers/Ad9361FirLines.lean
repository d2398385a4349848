import Mathlib.Data.BitVec
import NoOS.Errno
import NoOS.Lib.Scanf

/-!
# The filter files of the AD9361

`ad9361_parse_fir` tries the formats of a filter file on each line, one after the other, until one of them fits. What
a scan has stored before it fails stays stored.
-/

namespace NoOS
open Scanf

/-- The formats in the order in which a line is tried. -/
inductive FirLine
  | tx
  | rx
  | rtx
  | rrx
  | bwrx
  | bwtx
  | coef
deriving DecidableEq

def uints : ℕ → List Directive
  | 0 => []
  | n + 1 => .space :: .uint :: uints n

/-- The text that a line of the format begins with. -/
def FirLine.lead : FirLine → List Char
  | .tx => ['T', 'X']
  | .rx => ['R', 'X']
  | .rtx => ['R', 'T', 'X']
  | .rrx => ['R', 'R', 'X']
  | .bwrx => ['B', 'W', 'R', 'X']
  | .bwtx => ['B', 'W', 'T', 'X']
  | .coef => []

/-- The format after that text. -/
def FirLine.tail : FirLine → List Directive
  | .tx => [.space, .int, .space] ++ literal "GAIN" ++ [.space, .int, .space] ++ literal "INT" ++ [.space, .int]
  | .rx => [.space, .int, .space] ++ literal "GAIN" ++ [.space, .int, .space] ++ literal "DEC" ++ [.space, .int]
  | .rtx | .rrx => uints 6
  | .bwrx | .bwtx => [.space, .int]
  | .coef => [.int, .lit ',', .int]

def FirLine.format (k : FirLine) : List Directive := k.lead.map .lit ++ k.tail

/-- The numbers that the format stores of a line. -/
def FirLine.read (k : FirLine) (line : List Char) : List ℤ := scan k.format line

/-- `line[0] == '#'` -/
def IsComment (line : List Char) : Prop := line.head? = some '#'

instance (line : List Char) : Decidable (IsComment line) := inferInstanceAs (Decidable (_ = _))

/-- A path clock for each of `BBPLL_FREQ`, `ADC_FREQ`, `R2_FREQ`, `R1_FREQ`, `CLKRF_FREQ` and `RX_SAMPL_FREQ`, or their
names on the transmit side. -/
abbrev PathClks := Fin 6 → UInt32

/-- The clocks that a scan has stored over the ones before it. -/
def PathClks.store (clks : PathClks) (vs : List ℤ) : PathClks := fun n => (vs[n.val]?.map UInt32.ofInt).getD (clks n)

/-- `tx`, `tx_gain` and `tx_int`, or `rx`, `rx_gain` and `rx_dec` -/
structure FirHeader where
  dest : ℤ
  gain : ℤ
  rate : ℤ
deriving DecidableEq

def FirHeader.store (h : FirHeader) (vs : List ℤ) : FirHeader := ⟨vs.getD 0 h.dest, vs.getD 1 h.gain, vs.getD 2 h.rate⟩

/-- `rtx` and `filt_tx_path_clks`, or `rrx` and `filt_rx_path_clks` -/
structure FirPath where
  mark : ℤ
  clks : PathClks

/-- What the parser has read so far: its variables, and the fields of the phy that it writes on its way. -/
structure FirParse where
  tx : FirHeader
  rx : FirHeader
  rtx : FirPath
  rrx : FirPath
  filtRxBwHz : UInt32
  filtTxBwHz : UInt32
  /-- `coef_tx` and `coef_rx` up to `i` -/
  coef : List (BitVec 16 × BitVec 16)

inductive FirFault
  /-- A byte behind the terminator is read. -/
  | read
  /-- A coefficient is stored behind the arrays. -/
  | store
deriving DecidableEq

def FirPath.tryPath (p : FirPath) (vs : List ℤ) : FirPath × Bool :=
  if p.mark < 0 then
    if vs.length = 6 then (⟨0, p.clks.store vs⟩, true) else (⟨-1, p.clks.store vs⟩, false)
  else (p, false)

def tryBw (bw : UInt32) (vs : List ℤ) : UInt32 × Bool :=
  if bw = 0 then
    match vs with
    | [v] => (UInt32.ofInt v, true)
    | _ => (0, false)
  else (bw, false)

namespace FirParse

def tryTx (s : FirParse) (line : List Char) : FirParse × Bool :=
  if s.tx.dest < 0 then
    let vs := FirLine.tx.read line
    if vs.length = 3 then ({ s with tx := s.tx.store vs }, true)
    else ({ s with tx := { s.tx.store vs with dest := -1 } }, false)
  else (s, false)

/-- A line that does not fit resets the transmit filter and leaves what is stored of the receive filter. -/
def tryRx (s : FirParse) (line : List Char) : FirParse × Bool :=
  if s.rx.dest < 0 then
    let vs := FirLine.rx.read line
    if vs.length = 3 then ({ s with rx := s.rx.store vs }, true)
    else ({ s with rx := s.rx.store vs, tx := { s.tx with dest := -1 } }, false)
  else (s, false)

def tryRtx (s : FirParse) (line : List Char) : FirParse × Bool :=
  let (p, hit) := s.rtx.tryPath (FirLine.rtx.read line)
  ({ s with rtx := p }, hit)

def tryRrx (s : FirParse) (line : List Char) : FirParse × Bool :=
  let (p, hit) := s.rrx.tryPath (FirLine.rrx.read line)
  ({ s with rrx := p }, hit)

def tryBwrx (s : FirParse) (line : List Char) : FirParse × Bool :=
  let (bw, hit) := tryBw s.filtRxBwHz (FirLine.bwrx.read line)
  ({ s with filtRxBwHz := bw }, hit)

def tryBwtx (s : FirParse) (line : List Char) : FirParse × Bool :=
  let (bw, hit) := tryBw s.filtTxBwHz (FirLine.bwtx.read line)
  ({ s with filtTxBwHz := bw }, hit)

end FirParse

/-- The coefficients of a line: one number for both filters, or one for each. -/
def coefsOf : List ℤ → List (BitVec 16 × BitVec 16)
  | [txc] => [(BitVec.ofInt 16 txc, BitVec.ofInt 16 txc)]
  | [txc, rxc] => [(BitVec.ofInt 16 txc, BitVec.ofInt 16 rxc)]
  | _ => []

namespace FirParse

def tryCoef (s : FirParse) (line : List Char) : Except FirFault FirParse :=
  match coefsOf (FirLine.coef.read line) with
  | [] => .ok s
  | cs => if s.coef.length < 128 then .ok { s with coef := s.coef ++ cs } else .error .store

/-- The formats are tried up to the first `continue`. -/
def tryAll (s : FirParse) (line : List Char) : List (FirParse → List Char → FirParse × Bool) → FirParse × Bool
  | [] => (s, false)
  | tryLine :: rest =>
    match tryLine s line with
    | (s, true) => (s, true)
    | (s, false) => tryAll s line rest

/-- The body of the loop. -/
def parseLine (s : FirParse) (line : List Char) : Except FirFault FirParse :=
  if IsComment line then .ok s
  else
    match s.tryAll line [tryTx, tryRx, tryRtx, tryRrx, tryBwrx, tryBwtx] with
    | (s, true) => .ok s
    | (s, false) => s.tryCoef line

end FirParse

/-- The loop over the lines, with the memory from `ptr` on up to the byte after the buffer. -/
def FirParse.parseLines (s : FirParse) (text : List Char) : Except FirFault FirParse :=
  match _h : strsep text with
  | none => .error .read
  | some (line, ptr) =>
    -- `line >= data + size`
    if text.length ≤ 1 then .ok s
    else do
      let s ← s.parseLine line
      match _hp : ptr with
      | none => .ok s
      | some rest => s.parseLines rest
termination_by text.length
decreasing_by exact strsep_length (_hp ▸ _h)

variable {line : List Char} {k k' : FirLine} {s : FirParse}

lemma FirLine.prefix_lead (h : k.read line ≠ []) : k.lead <+: line := lead_of_scan h

lemma FirLine.read_head (h : FirLine.coef.read line ≠ []) :
    ∃ c, line.head? = some c ∧ c ≠ '#' ∧ c ≠ 'T' ∧ c ≠ 'R' ∧ c ≠ 'B' := by
  obtain ⟨c, hc, hstart⟩ := numeral_head (mt scan_int_eq_nil.mpr h)
  refine ⟨c, hc, ?_⟩
  constructor
  · rintro rfl
    revert hstart
    decide
  refine ⟨?_, ?_, ?_⟩ <;>
  · rintro rfl
    revert hstart
    decide

lemma FirLine.head_of_lead (hk : k ≠ .coef) (h : k.lead <+: line) :
    line.head? = some 'T' ∨ line.head? = some 'R' ∨ line.head? = some 'B' := by
  obtain ⟨rest, rfl⟩ := h
  cases k with
  | tx => exact .inl rfl
  | rx => exact .inr (.inl rfl)
  | rtx => exact .inr (.inl rfl)
  | rrx => exact .inr (.inl rfl)
  | bwrx => exact .inr (.inr rfl)
  | bwtx => exact .inr (.inr rfl)
  | coef => exact absurd rfl hk

lemma FirLine.read_exclusive (h : k.read line ≠ []) (h' : k'.read line ≠ []) : k = k' := by
  have hcoef : ∀ k : FirLine, k.read line ≠ [] → FirLine.coef.read line ≠ [] → k = .coef := by
    intro k hk hcoef
    by_contra hne
    obtain ⟨c, hc, -, hT, hR, hB⟩ := read_head hcoef
    have hhead := head_of_lead hne (prefix_lead hk)
    rw [hc] at hhead
    simp [hT, hR, hB] at hhead
  by_cases hk : k = .coef
  · subst hk
    exact (hcoef k' h' h).symm
  by_cases hk' : k' = .coef
  · subst hk'
    exact absurd (hcoef k h h') hk
  have hleads : ∀ k k' : FirLine, k ≠ .coef → k' ≠ .coef → k.lead <+: k'.lead ∨ k'.lead <+: k.lead → k = k' := by
    intro k k'
    cases k <;> cases k' <;> decide
  have hor := List.prefix_or_prefix_of_prefix (prefix_lead h) (prefix_lead h')
  exact hleads k k' hk hk' hor

lemma FirLine.read_comment (hline : IsComment line) (k : FirLine) : k.read line = [] := by
  by_contra h
  rw [IsComment] at hline
  by_cases hk : k = .coef
  · subst hk
    obtain ⟨c, hc, hne, -⟩ := read_head h
    rw [hline] at hc
    exact hne (Option.some.inj hc).symm
  · have hhead := head_of_lead hk (prefix_lead h)
    rw [hline] at hhead
    revert hhead
    decide

lemma FirLine.length_read_le (k : FirLine) (line : List Char) :
    (k.read line).length ≤ conversions k.format := length_scan_le _ _

/-- The coefficients of a line. -/
def lineCoefs (line : List Char) : List (BitVec 16 × BitVec 16) := coefsOf (FirLine.coef.read line)

/-- The transmit filter after a line with the numbers `txs` and `rxs`. -/
def FirHeader.nextTx (h rx : FirHeader) (txs rxs : List ℤ) : FirHeader :=
  if h.dest < 0 ∧ txs.length = 3 then h.store txs
  else if h.dest < 0 then { h.store txs with dest := -1 }
  else if rx.dest < 0 ∧ rxs.length ≠ 3 then { h with dest := -1 }
  else h

/-- The variables after a line whose coefficients fit in the arrays. -/
def FirParse.next (s : FirParse) (line : List Char) : FirParse where
  tx := if IsComment line then s.tx else s.tx.nextTx s.rx (FirLine.tx.read line) (FirLine.rx.read line)
  rx := if s.rx.dest < 0 then s.rx.store (FirLine.rx.read line) else s.rx
  rtx := (s.rtx.tryPath (FirLine.rtx.read line)).1
  rrx := (s.rrx.tryPath (FirLine.rrx.read line)).1
  filtRxBwHz := (tryBw s.filtRxBwHz (FirLine.bwrx.read line)).1
  filtTxBwHz := (tryBw s.filtTxBwHz (FirLine.bwtx.read line)).1
  coef := s.coef ++ lineCoefs line

/-- A path line is marked by -1 until it is complete. -/
def FirPath.Marked (p : FirPath) : Prop := p.mark < 0 → p.mark = -1

lemma FirPath.marked_tryPath (p : FirPath) (vs : List ℤ) : (p.tryPath vs).1.Marked := by
  rw [tryPath]
  split_ifs with hneg hlen
  · exact fun h => absurd h (by simp)
  · exact fun _ => rfl
  · exact fun h => absurd h hneg

@[simp] lemma PathClks.store_nil (clks : PathClks) : clks.store [] = clks := rfl

@[simp] lemma FirHeader.store_nil (h : FirHeader) : h.store [] = h := rfl

lemma FirPath.tryPath_nil {p : FirPath} (h : p.Marked) : p.tryPath [] = (p, false) := by
  by_cases hneg : p.mark < 0
  · simp [tryPath, ← h hneg]
  · rw [tryPath, if_neg hneg]

@[simp] lemma tryBw_nil (bw : UInt32) : tryBw bw [] = (bw, false) := by
  unfold tryBw
  split_ifs with hzero
  · exact congrArg (·, false) hzero.symm
  · rfl

namespace FirParse

structure Marked (s : FirParse) : Prop where
  rtx : s.rtx.Marked
  rrx : s.rrx.Marked

lemma marked_next (s : FirParse) (line : List Char) : (s.next line).Marked :=
  ⟨s.rtx.marked_tryPath _, s.rrx.marked_tryPath _⟩

lemma parseLine_comment (hs : s.Marked) (hline : IsComment line) : s.parseLine line = .ok (s.next line) := by
  have hread := FirLine.read_comment hline
  rw [parseLine, if_pos hline]
  simp [FirParse.next, hline, hread, lineCoefs, coefsOf, FirPath.tryPath_nil hs.rtx, FirPath.tryPath_nil hs.rrx]

/-- Nothing is read of the line by a format but `k`. -/
def Only (k : FirLine) (line : List Char) : Prop := ∀ k' : FirLine, k' ≠ k → k'.read line = []

lemma tryAll_miss {fs : List (FirParse → List Char → FirParse × Bool)} (h : ∀ f ∈ fs, f s line = (s, false)) :
    s.tryAll line fs = (s, false) := by
  induction fs with
  | nil => rfl
  | cons f fs ih =>
    rw [tryAll, h f List.mem_cons_self]
    exact ih fun g hg => h g (List.mem_cons_of_mem f hg)

/-- Of tries that leave the state alone but one, the result is that one's. -/
lemma tryAll_single {before after : List (FirParse → List Char → FirParse × Bool)}
    {tryLine : FirParse → List Char → FirParse × Bool} (hbefore : ∀ f ∈ before, f s line = (s, false))
    (hafter : ∀ f ∈ after, f (tryLine s line).1 line = ((tryLine s line).1, false)) :
    (s.tryAll line (before ++ tryLine :: after)).1 = (tryLine s line).1 := by
  induction before with
  | nil =>
    rw [List.nil_append, tryAll]
    split
    · rename_i heq
      rw [heq]
    · rename_i heq
      rw [heq] at hafter ⊢
      rw [tryAll_miss hafter]
  | cons f before ih =>
    rw [List.cons_append, tryAll, hbefore f List.mem_cons_self]
    exact ih fun g hg => hbefore g (List.mem_cons_of_mem f hg)

lemma tryRtx_miss (hs : s.Marked) (h : FirLine.rtx.read line = []) : s.tryRtx line = (s, false) := by
  rw [tryRtx, h, FirPath.tryPath_nil hs.rtx]

lemma tryRrx_miss (hs : s.Marked) (h : FirLine.rrx.read line = []) : s.tryRrx line = (s, false) := by
  rw [tryRrx, h, FirPath.tryPath_nil hs.rrx]

lemma tryBwrx_miss (h : FirLine.bwrx.read line = []) : s.tryBwrx line = (s, false) := by
  rw [tryBwrx, h, tryBw_nil]

lemma tryBwtx_miss (h : FirLine.bwtx.read line = []) : s.tryBwtx line = (s, false) := by
  rw [tryBwtx, h, tryBw_nil]

lemma tryRest_miss (hs : s.Marked) (hrtx : FirLine.rtx.read line = []) (hrrx : FirLine.rrx.read line = [])
    (hbwrx : FirLine.bwrx.read line = []) (hbwtx : FirLine.bwtx.read line = []) :
    ∀ f ∈ [tryRtx, tryRrx, tryBwrx, tryBwtx], f s line = (s, false) := by
  simp [tryRtx_miss hs hrtx, tryRrx_miss hs hrrx, tryBwrx_miss hbwrx, tryBwtx_miss hbwtx]

lemma marked_tryRx (hs : s.Marked) (line : List Char) : (s.tryRx line).1.Marked := by
  unfold tryRx
  dsimp only
  split_ifs
  exacts [⟨hs.rtx, hs.rrx⟩, ⟨hs.rtx, hs.rrx⟩, hs]

/-- The variables after the formats before the coefficients. -/
def header (s : FirParse) (line : List Char) : FirParse := { s.next line with coef := s.coef }

/-- A line that is neither for the transmit nor for the receive filter resets the destinations. -/
def slip (s : FirParse) : FirParse := { s with tx := s.tx.nextTx s.rx [] [] }

lemma tryAll_slip {rest : List (FirParse → List Char → FirParse × Bool)} (htx : FirLine.tx.read line = [])
    (hrx : FirLine.rx.read line = []) : s.tryAll line (tryTx :: tryRx :: rest) = s.slip.tryAll line rest := by
  have htry : s.tryTx line = ({ s with tx := if s.tx.dest < 0 then { s.tx with dest := -1 } else s.tx }, false) := by
    rw [tryTx, htx]
    split_ifs <;> simp_all
  rw [tryAll, htry]
  dsimp only
  rw [tryAll, tryRx, hrx]
  by_cases htxneg : s.tx.dest < 0 <;> by_cases hrxneg : s.rx.dest < 0 <;>
    simp [htxneg, hrxneg, slip, FirHeader.nextTx]

lemma tryAll_other (hs : s.Marked) (hline : ¬IsComment line) (hk : k ≠ .tx ∧ k ≠ .rx) (h : Only k line) :
    (s.tryAll line [tryTx, tryRx, tryRtx, tryRrx, tryBwrx, tryBwtx]).1 = s.header line := by
  have htx := h .tx hk.1.symm
  have hrx := h .rx hk.2.symm
  have hslip : s.slip.Marked := ⟨hs.rtx, hs.rrx⟩
  rw [tryAll_slip htx hrx]
  have hsingle : ∀ before tryLine after, (∀ f ∈ before, f s.slip line = (s.slip, false)) →
      (∀ f ∈ after, f (tryLine s.slip line).1 line = ((tryLine s.slip line).1, false)) →
      (s.slip.tryAll line (before ++ tryLine :: after)).1 = (tryLine s.slip line).1 :=
    fun before tryLine after => tryAll_single
  cases k with
  | tx => exact absurd rfl hk.1
  | rx => exact absurd rfl hk.2
  | rtx =>
    have hrrx := h .rrx (by decide)
    have hbwrx := h .bwrx (by decide)
    have hbwtx := h .bwtx (by decide)
    refine (hsingle [] tryRtx [tryRrx, tryBwrx, tryBwtx] (by simp) ?_).trans ?_
    · have hmarked : (s.slip.tryRtx line).1.Marked := ⟨s.slip.rtx.marked_tryPath _, hs.rrx⟩
      simp [tryRrx_miss hmarked hrrx, tryBwrx_miss hbwrx, tryBwtx_miss hbwtx]
    · simp [tryRtx, header, FirParse.next, slip, hline, htx, hrx, hrrx, hbwrx, hbwtx, FirPath.tryPath_nil hs.rrx]
  | rrx =>
    have hrtx := h .rtx (by decide)
    have hbwrx := h .bwrx (by decide)
    have hbwtx := h .bwtx (by decide)
    refine (hsingle [tryRtx] tryRrx [tryBwrx, tryBwtx] ?_ ?_).trans ?_
    · simp [tryRtx_miss hslip hrtx]
    · simp [tryBwrx_miss hbwrx, tryBwtx_miss hbwtx]
    · simp [tryRrx, header, FirParse.next, slip, hline, htx, hrx, hrtx, hbwrx, hbwtx, FirPath.tryPath_nil hs.rtx]
  | bwrx =>
    have hrtx := h .rtx (by decide)
    have hrrx := h .rrx (by decide)
    have hbwtx := h .bwtx (by decide)
    refine (hsingle [tryRtx, tryRrx] tryBwrx [tryBwtx] ?_ ?_).trans ?_
    · simp [tryRtx_miss hslip hrtx, tryRrx_miss hslip hrrx]
    · simp [tryBwtx_miss hbwtx]
    · simp [tryBwrx, header, FirParse.next, slip, hline, htx, hrx, hrtx, hrrx, hbwtx, FirPath.tryPath_nil hs.rtx,
        FirPath.tryPath_nil hs.rrx]
  | bwtx =>
    have hrtx := h .rtx (by decide)
    have hrrx := h .rrx (by decide)
    have hbwrx := h .bwrx (by decide)
    refine (hsingle [tryRtx, tryRrx, tryBwrx] tryBwtx [] ?_ (by simp)).trans ?_
    · simp [tryRtx_miss hslip hrtx, tryRrx_miss hslip hrrx, tryBwrx_miss hbwrx]
    · simp [tryBwtx, header, FirParse.next, slip, hline, htx, hrx, hrtx, hrrx, hbwrx, FirPath.tryPath_nil hs.rtx,
        FirPath.tryPath_nil hs.rrx]
  | coef =>
    have hrtx := h .rtx (by decide)
    have hrrx := h .rrx (by decide)
    have hbwrx := h .bwrx (by decide)
    have hbwtx := h .bwtx (by decide)
    refine (hsingle [tryRtx, tryRrx, tryBwrx] tryBwtx [] ?_ (by simp)).trans ?_
    · simp [tryRtx_miss hslip hrtx, tryRrx_miss hslip hrrx, tryBwrx_miss hbwrx]
    · rw [tryBwtx_miss hbwtx]
      simp [header, FirParse.next, slip, hline, htx, hrx, hrtx, hrrx, hbwrx, hbwtx, FirPath.tryPath_nil hs.rtx,
        FirPath.tryPath_nil hs.rrx]

lemma tryAll_tx (hs : s.Marked) (hline : ¬IsComment line) (h : Only .tx line) :
    (s.tryAll line [tryTx, tryRx, tryRtx, tryRrx, tryBwrx, tryBwtx]).1 = s.header line := by
  have hrx := h .rx (by decide)
  have hrtx := h .rtx (by decide)
  have hrrx := h .rrx (by decide)
  have hbwrx := h .bwrx (by decide)
  have hbwtx := h .bwtx (by decide)
  by_cases hhit : s.tx.dest < 0 ∧ (FirLine.tx.read line).length = 3
  · have htry : s.tryTx line = ({ s with tx := s.tx.store (FirLine.tx.read line) }, true) := by
      simp [tryTx, hhit]
    rw [tryAll, htry]
    simp [header, FirParse.next, FirHeader.nextTx, hline, hhit, hrx, hrtx, hrrx, hbwrx, hbwtx,
      FirPath.tryPath_nil hs.rtx, FirPath.tryPath_nil hs.rrx]
  · have htry : s.tryTx line =
        ({ s with tx := if s.tx.dest < 0 then { s.tx.store (FirLine.tx.read line) with dest := -1 } else s.tx },
          false) := by
      rw [tryTx]
      split_ifs <;> simp_all
    have hreset : ∀ s : FirParse, s.tryRx line =
        ({ s with tx := if s.rx.dest < 0 then { s.tx with dest := -1 } else s.tx }, false) := by
      intro s
      rw [tryRx, hrx]
      split_ifs <;> simp_all
    rw [tryAll, htry]
    dsimp only
    rw [tryAll, hreset]
    dsimp only
    rw [tryAll_miss (tryRest_miss ?_ hrtx hrrx hbwrx hbwtx)]
    · simp only [header, FirParse.next, FirHeader.nextTx, if_neg hline, if_neg hhit, hrx, hrtx, hrrx, hbwrx, hbwtx,
        FirPath.tryPath_nil hs.rtx, FirPath.tryPath_nil hs.rrx]
      by_cases htxneg : s.tx.dest < 0 <;> by_cases hrxneg : s.rx.dest < 0 <;> simp [htxneg, hrxneg]
    · exact ⟨hs.rtx, hs.rrx⟩

lemma tryAll_rx (hs : s.Marked) (hline : ¬IsComment line) (h : Only .rx line) :
    (s.tryAll line [tryTx, tryRx, tryRtx, tryRrx, tryBwrx, tryBwtx]).1 = s.header line := by
  have htx := h .tx (by decide)
  have hrtx := h .rtx (by decide)
  have hrrx := h .rrx (by decide)
  have hbwrx := h .bwrx (by decide)
  have hbwtx := h .bwtx (by decide)
  have htry : s.tryTx line = ({ s with tx := if s.tx.dest < 0 then { s.tx with dest := -1 } else s.tx }, false) := by
    rw [tryTx, htx]
    split_ifs <;> simp_all
  rw [tryAll, htry]
  dsimp only
  refine (@tryAll_single _ _ [] _ _ (by simp) (tryRest_miss ?_ hrtx hrrx hbwrx hbwtx)).trans ?_
  · refine marked_tryRx ?_ line
    exact ⟨hs.rtx, hs.rrx⟩
  · simp only [tryRx, header, FirParse.next, FirHeader.nextTx, if_neg hline, htx, hrtx, hrrx, hbwrx, hbwtx,
      FirPath.tryPath_nil hs.rtx, FirPath.tryPath_nil hs.rrx]
    by_cases htxneg : s.tx.dest < 0 <;> by_cases hrxneg : s.rx.dest < 0 <;>
      by_cases hlen : (FirLine.rx.read line).length = 3 <;> simp [htxneg, hrxneg, hlen]
lemma tryAll_fst (hs : s.Marked) (hline : ¬IsComment line) :
    (s.tryAll line [tryTx, tryRx, tryRtx, tryRrx, tryBwrx, tryBwtx]).1 = s.header line := by
  have honly : ∃ k, Only k line := by
    by_cases hall : ∀ k : FirLine, k.read line = []
    · exact ⟨.coef, fun k _ => hall k⟩
    · push Not at hall
      obtain ⟨k, hk⟩ := hall
      refine ⟨k, fun k' hne => ?_⟩
      by_contra hk'
      exact hne (FirLine.read_exclusive hk' hk)
  obtain ⟨k, hk⟩ := honly
  by_cases htx : k = .tx
  · subst htx
    exact tryAll_tx hs hline hk
  by_cases hrx : k = .rx
  · subst hrx
    exact tryAll_rx hs hline hk
  exact tryAll_other hs hline ⟨htx, hrx⟩ hk

lemma read_of_hit (hs : s.Marked)
    (h : (s.tryAll line [tryTx, tryRx, tryRtx, tryRrx, tryBwrx, tryBwtx]).2 = true) :
    FirLine.coef.read line = [] := by
  by_contra hcoef
  have hnil : ∀ k : FirLine, k ≠ .coef → k.read line = [] := by
    intro k hk
    by_contra hread
    exact hk (FirLine.read_exclusive hread hcoef)
  rw [tryAll_slip (hnil .tx (by decide)) (hnil .rx (by decide)), tryAll_miss] at h
  · exact Bool.false_ne_true h
  · exact tryRest_miss ⟨hs.rtx, hs.rrx⟩ (hnil .rtx (by decide)) (hnil .rrx (by decide)) (hnil .bwrx (by decide))
      (hnil .bwtx (by decide))

/-- What a line does: its coefficients are stored, or the arrays are full. -/
theorem parseLine_eq (hs : s.Marked) (line : List Char) :
    s.parseLine line =
      if lineCoefs line ≠ [] ∧ 128 ≤ s.coef.length then .error .store else .ok (s.next line) := by
  by_cases hline : IsComment line
  · rw [parseLine_comment hs hline, if_neg]
    rw [lineCoefs, FirLine.read_comment hline]
    exact fun h => h.1 rfl
  have hfst := tryAll_fst hs hline
  have hhit := @read_of_hit line _ hs
  rw [parseLine, if_neg hline]
  generalize s.tryAll line [tryTx, tryRx, tryRtx, tryRrx, tryBwrx, tryBwtx] = r at hfst hhit
  obtain ⟨r, hit⟩ := r
  obtain rfl : r = s.header line := hfst
  cases hit with
  | true =>
    have hnil : lineCoefs line = [] := by rw [lineCoefs, hhit rfl]; rfl
    simp [header, FirParse.next, hnil]
  | false =>
    change (s.header line).tryCoef line = _
    rw [tryCoef, ← lineCoefs]
    cases hcoef : lineCoefs line with
    | nil => simp [header, FirParse.next, hcoef]
    | cons c cs =>
      by_cases hlt : s.coef.length < 128
      · simp [header, FirParse.next, hcoef, hlt]
      · simp [header, hlt, Nat.not_lt.mp hlt]

variable {text rest data : List Char} {ptr : Option (List Char)} {next : Char}

lemma parseLines_read (h : strsep text = none) : s.parseLines text = .error .read := by
  rw [parseLines]
  split
  · rfl
  · rename_i heq
    rw [h] at heq
    cases heq

lemma parseLines_break (h : strsep text = some (line, ptr)) (hlen : text.length ≤ 1) :
    s.parseLines text = .ok s := by
  rw [parseLines]
  split
  · rename_i heq
    rw [h] at heq
    cases heq
  · rw [if_pos hlen]

lemma parseLines_end (h : strsep text = some (line, none)) (hlen : 1 < text.length) :
    s.parseLines text = s.parseLine line := by
  rw [parseLines]
  split
  · rename_i heq
    rw [h] at heq
    cases heq
  · rename_i heq
    rw [h] at heq
    cases heq
    rw [if_neg (Nat.not_le.mpr hlen)]
    cases s.parseLine line <;> rfl

lemma parseLines_next (h : strsep text = some (line, some rest)) (hlen : 1 < text.length) :
    s.parseLines text = (s.parseLine line).bind (·.parseLines rest) := by
  rw [parseLines]
  split
  · rename_i heq
    rw [h] at heq
    cases heq
  · rename_i heq
    rw [h] at heq
    cases heq
    rw [if_neg (Nat.not_le.mpr hlen)]
    rfl

/-- The coefficients of some lines fit in the arrays. -/
def Fits (s : FirParse) (lines : List (List Char)) : Prop := s.coef.length + (lines.flatMap lineCoefs).length ≤ 128

lemma lineCoefs_length (line : List Char) : (lineCoefs line).length ≤ 1 := by
  rw [lineCoefs]
  unfold coefsOf
  split <;> simp

lemma fits_cons {lines : List (List Char)} :
    s.Fits (line :: lines) ↔ s.Fits [line] ∧ (s.next line).Fits lines := by
  simp only [Fits, List.flatMap_cons, List.flatMap_nil, List.append_nil, List.length_append, FirParse.next]
  lia

lemma parseLine_eq_ok (hs : s.Marked) (hle : s.coef.length ≤ 128) {s' : FirParse} :
    s.parseLine line = .ok s' ↔ s.Fits [line] ∧ s' = s.next line := by
  have hlen := lineCoefs_length line
  have hfits : s.Fits [line] ↔ ¬(lineCoefs line ≠ [] ∧ 128 ≤ s.coef.length) := by
    simp only [Fits, List.flatMap_cons, List.flatMap_nil, List.append_nil, ← List.length_pos_iff]
    lia
  rw [parseLine_eq hs, hfits]
  split_ifs with h
  · simp [h]
  · simp [h, eq_comm]

lemma parseLines_plain (hs : s.Marked) (hle : s.coef.length ≤ 128) (hw : Plain data) {s' : FirParse} :
    s.parseLines (data ++ [next]) = .ok s' ↔
      Terminated data next ∧ s.Fits (fileLines data) ∧ s' = (fileLines data).foldl FirParse.next s := by
  rw [terminated_plain hw, fileLines_plain hw]
  by_cases hnil : data = []
  · subst hnil
    by_cases hend : next = NUL ∨ next = '\n'
    · have hbreak : ∃ ptr, strsep ([] ++ [next]) = some ([], ptr) := by
        rcases hend with rfl | rfl
        · exact ⟨none, rfl⟩
        · exact ⟨some [], rfl⟩
      obtain ⟨ptr, hbreak⟩ := hbreak
      rw [parseLines_break hbreak (by simp)]
      simp [hend, Fits, hle, eq_comm]
    · push Not at hend
      have hread : strsep ([] ++ [next]) = none := by simp [strsep, hend.1, hend.2]
      rw [parseLines_read hread]
      simp [hend.1, hend.2]
  · have hpos := List.length_pos_iff.mpr hnil
    have hlong : 1 < (data ++ [next]).length := by simp; omega
    by_cases hnul : next = NUL
    · subst hnul
      rw [parseLines_end (strsep_nul hw []) hlong, if_neg hnil, parseLine_eq_ok hs hle]
      simp
    by_cases hnl : next = '\n'
    · -- the line is read, and then the byte behind it
      subst hnl
      rw [parseLines_next (strsep_line hw []) hlong]
      have hread : ∀ s : FirParse, s.parseLines [] = .error .read := fun s => parseLines_read rfl
      simp only [hread, hnul, hnil, and_false, or_self, false_and, iff_false]
      cases s.parseLine data <;> simp [Except.bind]
    · have hread : strsep (data ++ [next]) = none := by simp [strsep_append hw, strsep, hnul, hnl]
      rw [parseLines_read hread]
      simp [hnul, hnl]

/-- The parser succeeds on a text that ends and whose coefficients fit, after all of its lines. -/
theorem parseLines_eq_ok (hs : s.Marked) (hle : s.coef.length ≤ 128) {s' : FirParse} :
    s.parseLines (data ++ [next]) = .ok s' ↔
      Terminated data next ∧ s.Fits (fileLines data) ∧ s' = (fileLines data).foldl FirParse.next s := by
  induction hn : data.length using Nat.strongRecOn generalizing s data with
  | ind n ih =>
    subst hn
    obtain hw | ⟨w, c, rest, hw, rfl | rfl, rfl⟩ := plain_cases data
    · exact parseLines_plain hs hle hw
    · rw [List.append_assoc, List.cons_append, parseLines_end (strsep_nul hw _) (by simp; lia), fileLines_nul hw,
        parseLine_eq_ok hs hle]
      simp [Terminated]
    · rw [List.append_assoc, List.cons_append, parseLines_next (strsep_line hw _) (by simp; lia), fileLines_line hw,
        terminated_line hw, fits_cons]
      by_cases hfits : s.Fits [w]
      · have hle' : (s.next w).coef.length ≤ 128 := by simpa [Fits, FirParse.next] using hfits
        have hrest := ih rest.length (by simp; omega) (marked_next s w) hle' rfl
        rw [(parseLine_eq_ok hs hle).mpr ⟨hfits, rfl⟩]
        simpa [Except.bind, hfits] using hrest
      · cases hline : s.parseLine w with
        | error e => simp [Except.bind, hfits]
        | ok s₁ => exact absurd ((parseLine_eq_ok hs hle).mp hline).1 hfits

end FirParse

end NoOS
