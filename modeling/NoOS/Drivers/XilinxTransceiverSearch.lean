import NoOS.Drivers.XilinxTransceiver
import NoOS.Lib.PllDividers

/-!
# The search for the dividers of a lane rate

The quotients that the searches compare are truncated, and so is the VCO that they test, which changes nothing: the
reference is fast enough, and none of the limits can be missed by a fraction. The products for the VCO may wrap,
and then dividers are accepted that have the VCO far out of its range.
-/

namespace NoOS
open PllDividers RegisterFile

section Cpll

variable (xcvr : XilinxXcvr) (refclkKhz laneRateKhz : UInt32)

def cpllVcoMin : UInt32 := if xcvr.type = .S7_GTX2 then 1600000 else 2000000

def cpllVcoMax : UInt32 :=
  let vcoMax := if xcvr.type = .S7_GTX2 then 3300000 else 6250000
  if xcvrVersionMajor xcvr.version > 0x10 then xilinxXcvrSetupCpllVcoRange xcvr vcoMax else vcoMax

/-- A configuration and an output divider that the loops come to -/
structure CpllOffered (c : XilinxXcvrCpllConfig × UInt32) : Prop where
  m_mem : c.1.refclkDiv ∈ ([1, 2] : List UInt32)
  d_mem : c.2 ∈ ([1, 2, 4, 8] : List UInt32)
  n1_mem : c.1.fbDivN1 ∈ ([5, 4] : List UInt32)
  n2_mem : c.1.fbDivN2 ∈ ([5, 4, 3, 2, 1] : List UInt32)

/-- The tests of the loops -/
structure CpllAccepts (c : XilinxXcvrCpllConfig × UInt32) : Prop extends CpllOffered c where
  vco_ge : cpllVcoMin xcvr ≤ refclkKhz * c.1.fbDivN1 * c.1.fbDivN2 / c.1.refclkDiv
  vco_le : refclkKhz * c.1.fbDivN1 * c.1.fbDivN2 / c.1.refclkDiv ≤ cpllVcoMax xcvr
  rate : refclkKhz / c.1.refclkDiv / c.2 = laneRateKhz / (2 * c.1.fbDivN1 * c.1.fbDivN2)

def cpllDividers (c : XilinxXcvrCpllConfig × UInt32) : PllDividers where
  m := c.1.refclkDiv.toNat
  n := c.1.fbDivN1.toNat * c.1.fbDivN2.toNat
  d := c.2.toNat

/-- The dividers are offered, and the VCO is in its range. -/
def CpllLegal (c : XilinxXcvrCpllConfig × UInt32) : Prop :=
  CpllOffered c ∧ (cpllDividers c).InRange (cpllVcoMin xcvr).toNat (cpllVcoMax xcvr).toNat refclkKhz.toNat

/-- The lane rate is exactly twice the VCO divided by the output divider. -/
def CpllGives (c : XilinxXcvrCpllConfig × UInt32) : Prop :=
  (cpllDividers c).Gives 2 refclkKhz.toNat laneRateKhz.toNat

variable {xcvr refclkKhz laneRateKhz} {c : XilinxXcvrCpllConfig × UInt32}

lemma calcCpllConfig_eq : xilinxXcvrCalcCpllConfig xcvr refclkKhz laneRateKhz =
    [1, 2].findSome? fun m => [1, 2, 4, 8].findSome? fun d => [5, 4].findSome? fun n1 =>
      [5, 4, 3, 2, 1].findSome? fun n2 =>
        if refclkKhz * n1 * n2 / m > cpllVcoMax xcvr ∨ refclkKhz * n1 * n2 / m < cpllVcoMin xcvr then none
        else if refclkKhz / m / d = laneRateKhz / (2 * n1 * n2) then some (⟨m, n1, n2⟩, d)
        else none := rfl

lemma cpllAccepts_of_eq_some (h : xilinxXcvrCalcCpllConfig xcvr refclkKhz laneRateKhz = some c) :
    CpllAccepts xcvr refclkKhz laneRateKhz c := by
  rw [calcCpllConfig_eq] at h
  obtain ⟨m, hm, h⟩ := List.exists_of_findSome?_eq_some h
  obtain ⟨d, hd, h⟩ := List.exists_of_findSome?_eq_some h
  obtain ⟨n1, hn1, h⟩ := List.exists_of_findSome?_eq_some h
  obtain ⟨n2, hn2, h⟩ := List.exists_of_findSome?_eq_some h
  split_ifs at h with hout hrate
  obtain rfl := Option.some.inj h
  obtain ⟨hhigh, hlow⟩ := not_or.mp hout
  exact ⟨⟨hm, hd, hn1, hn2⟩, UInt32.not_lt.mp hlow, UInt32.not_lt.mp hhigh, hrate⟩

lemma CpllAccepts.ne_none (h : CpllAccepts xcvr refclkKhz laneRateKhz c) :
    xilinxXcvrCalcCpllConfig xcvr refclkKhz laneRateKhz ≠ none := by
  intro hnone
  rw [calcCpllConfig_eq] at hnone
  have hnone := List.findSome?_eq_none_iff.mp hnone _ h.m_mem
  have hnone := List.findSome?_eq_none_iff.mp hnone _ h.d_mem
  have hnone := List.findSome?_eq_none_iff.mp hnone _ h.n1_mem
  have hnone := List.findSome?_eq_none_iff.mp hnone _ h.n2_mem
  rw [if_neg (not_or.mpr ⟨UInt32.not_lt.mpr h.vco_le, UInt32.not_lt.mpr h.vco_ge⟩), if_pos h.rate] at hnone
  exact Option.some_ne_none _ hnone

lemma le_cpllVcoMin : 1600000 ≤ (cpllVcoMin xcvr).toNat := by
  rw [cpllVcoMin]
  split_ifs <;> decide

lemma cpllVcoMax_mem : cpllVcoMax xcvr ∈ ([3300000, 4250000, 6250000] : List UInt32) := by
  unfold cpllVcoMax xilinxXcvrSetupCpllVcoRange
  split_ifs <;> decide

lemma CpllOffered.bounds (h : CpllOffered c) : 1 ≤ (cpllDividers c).m ∧ (cpllDividers c).m ≤ 2 ∧
    4 ≤ (cpllDividers c).n ∧ (cpllDividers c).n ≤ 25 ∧ 1 ≤ (cpllDividers c).d ∧ (cpllDividers c).d ≤ 8 := by
  have hm : ∀ m ∈ ([1, 2] : List UInt32), 1 ≤ m.toNat ∧ m.toNat ≤ 2 := by decide
  have hd : ∀ d ∈ ([1, 2, 4, 8] : List UInt32), 1 ≤ d.toNat ∧ d.toNat ≤ 8 := by decide
  have hn : ∀ n1 ∈ ([5, 4] : List UInt32), ∀ n2 ∈ ([5, 4, 3, 2, 1] : List UInt32),
      4 ≤ n1.toNat * n2.toNat ∧ n1.toNat * n2.toNat ≤ 25 := by decide
  obtain ⟨hn4, hn25⟩ := hn _ h.n1_mem _ h.n2_mem
  exact ⟨(hm _ h.m_mem).1, (hm _ h.m_mem).2, hn4, hn25, (hd _ h.d_mem).1, (hd _ h.d_mem).2⟩

lemma CpllOffered.positive (h : CpllOffered c) : (cpllDividers c).Positive := by
  obtain ⟨hm, -, hn, -, hd, -⟩ := h.bounds
  exact ⟨hm, Nat.lt_of_lt_of_le (by decide) hn, hd⟩

lemma CpllOffered.sharp (h : CpllOffered c) : (cpllDividers c).Sharp (cpllVcoMax xcvr).toNat := by
  have hsharp : ∀ high ∈ ([3300000, 4250000, 6250000] : List UInt32), ∀ m ∈ ([1, 2] : List UInt32),
      ∀ n1 ∈ ([5, 4] : List UInt32), ∀ n2 ∈ ([5, 4, 3, 2, 1] : List UInt32),
      Sharp high.toNat ⟨m.toNat, n1.toNat * n2.toNat, 0⟩ := by decide
  exact hsharp _ cpllVcoMax_mem _ h.m_mem _ h.n1_mem _ h.n2_mem

lemma toNat_cpllVco (hfits : refclkKhz.toNat * (cpllDividers c).n < 2 ^ 32) :
    (refclkKhz * c.1.fbDivN1 * c.1.fbDivN2 / c.1.refclkDiv).toNat =
      refclkKhz.toNat * (cpllDividers c).n / (cpllDividers c).m := by
  rw [UInt32.toNat_div, UInt32.toNat_mul, UInt32.toNat_mul, Nat.mod_mul_mod, Nat.mul_assoc]
  exact congrArg (· / _) (Nat.mod_eq_of_lt hfits)

lemma CpllOffered.rate_iff (h : CpllOffered c) :
    refclkKhz / c.1.refclkDiv / c.2 = laneRateKhz / (2 * c.1.fbDivN1 * c.1.fbDivN2) ↔
      (cpllDividers c).Agrees 2 refclkKhz.toNat laneRateKhz.toNat := by
  have hn := h.bounds.2.2.2.1
  have htwo : (2 : UInt32).toNat = 2 := rfl
  have hmul : (2 * c.1.fbDivN1 * c.1.fbDivN2).toNat = 2 * (cpllDividers c).n := by
    change _ = 2 * (c.1.fbDivN1.toNat * c.1.fbDivN2.toNat)
    rw [UInt32.toNat_mul, UInt32.toNat_mul, Nat.mod_mul_mod, Nat.mul_assoc, htwo]
    exact Nat.mod_eq_of_lt (by change 2 * (cpllDividers c).n < _; lia)
  rw [← UInt32.toNat_inj, UInt32.toNat_div, UInt32.toNat_div, UInt32.toNat_div, hmul]
  rfl

lemma CpllLegal.fits {c' : XilinxXcvrCpllConfig × UInt32} (h : CpllLegal xcvr refclkKhz c') (hc : CpllOffered c) :
    refclkKhz.toNat * (cpllDividers c).n < 2 ^ 32 := by
  obtain ⟨hoffered, hrange⟩ := h
  obtain ⟨hm, hm2, hn4, -⟩ := hoffered.bounds
  have hle := ((inRange_iff hm).mp hrange).2
  have hhigh : (cpllVcoMax xcvr).toNat ≤ 6250000 := by
    have hmax : ∀ high ∈ ([3300000, 4250000, 6250000] : List UInt32), high.toNat ≤ 6250000 := by decide
    exact hmax _ cpllVcoMax_mem
  have hmul : refclkKhz.toNat * 4 ≤ 6250000 * 2 := by
    calc refclkKhz.toNat * 4 ≤ refclkKhz.toNat * (cpllDividers c').n := Nat.mul_le_mul_left _ hn4
      _ ≤ (cpllVcoMax xcvr).toNat * (cpllDividers c').m := hle
      _ ≤ 6250000 * 2 := Nat.mul_le_mul hhigh hm2
  calc refclkKhz.toNat * (cpllDividers c).n ≤ 3125000 * 25 := Nat.mul_le_mul (by lia) hc.bounds.2.2.2.1
    _ < 2 ^ 32 := by decide

lemma CpllOffered.accepts_iff (h : CpllOffered c) (hfits : refclkKhz.toNat * (cpllDividers c).n < 2 ^ 32) :
    CpllAccepts xcvr refclkKhz laneRateKhz c ↔ CpllLegal xcvr refclkKhz c ∧
      (cpllDividers c).Agrees 2 refclkKhz.toNat laneRateKhz.toNat := by
  have hsharp : (cpllDividers c).Sharp (cpllVcoMax xcvr).toNat := h.sharp
  have hiff := @Sharp.truncated_iff _ (cpllVcoMin xcvr).toNat _ refclkKhz.toNat hsharp h.positive.m_pos
  rw [← toNat_cpllVco hfits, ← UInt32.le_iff_toNat_le, ← UInt32.le_iff_toNat_le] at hiff
  constructor
  · intro hc
    exact ⟨⟨h, hiff.mp ⟨hc.vco_ge, hc.vco_le⟩⟩, h.rate_iff.mp hc.rate⟩
  · rintro ⟨⟨-, hrange⟩, hrate⟩
    obtain ⟨hlow, hhigh⟩ := hiff.mpr hrange
    exact ⟨h, hlow, hhigh, h.rate_iff.mpr hrate⟩

lemma CpllLegal.gives {c' : XilinxXcvrCpllConfig × UInt32} (h : CpllLegal xcvr refclkKhz c)
    (hgives : CpllGives refclkKhz laneRateKhz c) (hc' : CpllAccepts xcvr refclkKhz laneRateKhz c') :
    CpllGives refclkKhz laneRateKhz c' := by
  have hoffered' := hc'.toCpllOffered
  obtain ⟨⟨-, hrange⟩, hagrees⟩ := (hoffered'.accepts_iff (h.fits hoffered')).mp hc'
  obtain ⟨hm, hm2, hn4, hn25, hd, hd8⟩ := h.1.bounds
  obtain ⟨hm', hm2', hn4', hn25', hd', hd8'⟩ := hoffered'.bounds
  have hdvd : ∀ d ∈ ([1, 2, 4, 8] : List UInt32), ∀ d' ∈ ([1, 2, 4, 8] : List UInt32),
      d.toNat ∣ d'.toNat ∨ d'.toNat ∣ d.toNat := by decide
  have hlow := ((inRange_iff hm').mp hrange).1
  have hfast : 64000 * (cpllDividers c').m ≤ refclkKhz.toNat := by
    have hmin : 1600000 * (cpllDividers c').m ≤ (cpllVcoMin xcvr).toNat * (cpllDividers c').m :=
      Nat.mul_le_mul_right _ le_cpllVcoMin
    have hmul : refclkKhz.toNat * (cpllDividers c').n ≤ refclkKhz.toNat * 25 := Nat.mul_le_mul_left _ hn25'
    lia
  apply hagrees.gives hgives hoffered'.positive h.1.positive (by decide) (hdvd _ h.1.d_mem _ hoffered'.d_mem)
  calc 2 * (cpllDividers c').n * (cpllDividers c').m * (cpllDividers c).m * max (cpllDividers c).d (cpllDividers c').d
      ≤ 2 * 25 * (cpllDividers c').m * 2 * 8 := by gcongr; exact max_le hd8 hd8'
    _ ≤ refclkKhz.toNat := by lia

theorem cpllCorrect_iff : Correct (CpllLegal xcvr refclkKhz) (CpllGives refclkKhz laneRateKhz)
    (xilinxXcvrCalcCpllConfig xcvr refclkKhz laneRateKhz) ↔
      ∀ c, CpllAccepts xcvr refclkKhz laneRateKhz c → refclkKhz.toNat * (cpllDividers c).n < 2 ^ 32 := by
  apply correct_iff
  · exact fun c => cpllAccepts_of_eq_some
  · exact fun c => CpllAccepts.ne_none
  · exact fun c hc hfits => ((hc.toCpllOffered.accepts_iff hfits).mp hc).1
  · exact fun c c' hc hc' => hc'.fits hc.toCpllOffered
  · intro c hc hgives
    have hagrees := Gives.agrees hgives hc.1.positive (by decide)
    exact ⟨c, (hc.1.accepts_iff (hc.fits hc.1)).mpr ⟨hc, hagrees⟩⟩
  · exact fun c c' hc hgives hc' => hc.gives hgives hc'

end Cpll

section Qpll

variable (xcvr : XilinxXcvr) (refclkKhz laneRateKhz : UInt32)

/-- The feedback dividers of the type -/
def qpllN : List UInt32 := if xcvr.type = .S7_GTX2 then N_gtx2 else N_gth34

def qpllVcoRange : QpllVcoRange :=
  let r : QpllVcoRange := if xcvr.type = .S7_GTX2 then ⟨5930000, 8000000, 9800000, 12500000⟩
    else ⟨9800000, 16375000, 9800000, 16375000⟩
  if xcvrVersionMajor xcvr.version > 0x10 then xilinxXcvrSetupQpllVcoRange xcvr r else r

structure QpllOffered (c : XilinxXcvrQpllConfig × UInt32) : Prop where
  m_mem : c.1.refclkDiv ∈ ([1, 2, 3, 4] : List UInt32)
  d_mem : c.2 ∈ ([1, 2, 4, 8, 16] : List UInt32)
  n_mem : c.1.fbDiv ∈ qpllN xcvr

structure QpllAccepts (c : XilinxXcvrQpllConfig × UInt32) : Prop extends QpllOffered xcvr c where
  band : (qpllVcoRange xcvr).band (refclkKhz * c.1.fbDiv / c.1.refclkDiv) = some c.1.band
  rate : refclkKhz / c.1.refclkDiv / c.2 = laneRateKhz / c.1.fbDiv

def qpllDividers (c : XilinxXcvrQpllConfig × UInt32) : PllDividers where
  m := c.1.refclkDiv.toNat
  n := c.1.fbDiv.toNat
  d := c.2.toNat

/-- The dividers are offered, and the VCO is in the range of the band. -/
def QpllLegal (c : XilinxXcvrQpllConfig × UInt32) : Prop :=
  QpllOffered xcvr c ∧
    (c.1.band = 1 ∧ (qpllDividers c).InRange (qpllVcoRange xcvr).vco1Min.toNat (qpllVcoRange xcvr).vco1Max.toNat
      refclkKhz.toNat ∨
    c.1.band = 0 ∧ (qpllDividers c).InRange (qpllVcoRange xcvr).vco0Min.toNat (qpllVcoRange xcvr).vco0Max.toNat
      refclkKhz.toNat)

/-- The lane rate is exactly the VCO divided by the output divider. -/
def QpllGives (c : XilinxXcvrQpllConfig × UInt32) : Prop :=
  (qpllDividers c).Gives 1 refclkKhz.toNat laneRateKhz.toNat

variable {xcvr refclkKhz laneRateKhz} {c : XilinxXcvrQpllConfig × UInt32}

lemma calcQpllConfig_eq : xilinxXcvrCalcQpllConfig xcvr refclkKhz laneRateKhz =
    [1, 2, 3, 4].findSome? fun m => [1, 2, 4, 8, 16].findSome? fun d => (qpllN xcvr).findSome? fun n =>
      ((qpllVcoRange xcvr).band (refclkKhz * n / m)).bind fun band =>
        if refclkKhz / m / d = laneRateKhz / n then some (⟨m, n, band⟩, d) else none := by
  unfold xilinxXcvrCalcQpllConfig qpllN qpllVcoRange
  split_ifs <;> rfl

lemma qpllAccepts_of_eq_some (h : xilinxXcvrCalcQpllConfig xcvr refclkKhz laneRateKhz = some c) :
    QpllAccepts xcvr refclkKhz laneRateKhz c := by
  rw [calcQpllConfig_eq] at h
  obtain ⟨m, hm, h⟩ := List.exists_of_findSome?_eq_some h
  obtain ⟨d, hd, h⟩ := List.exists_of_findSome?_eq_some h
  obtain ⟨n, hn, h⟩ := List.exists_of_findSome?_eq_some h
  obtain ⟨band, hband, h⟩ := Option.bind_eq_some_iff.mp h
  split_ifs at h with hrate
  obtain rfl := Option.some.inj h
  exact ⟨⟨hm, hd, hn⟩, hband, hrate⟩

lemma QpllAccepts.ne_none (h : QpllAccepts xcvr refclkKhz laneRateKhz c) :
    xilinxXcvrCalcQpllConfig xcvr refclkKhz laneRateKhz ≠ none := by
  intro hnone
  rw [calcQpllConfig_eq] at hnone
  have hnone := List.findSome?_eq_none_iff.mp hnone _ h.m_mem
  have hnone := List.findSome?_eq_none_iff.mp hnone _ h.d_mem
  have hnone := List.findSome?_eq_none_iff.mp hnone _ h.n_mem
  rw [h.band, Option.bind_some, if_pos h.rate] at hnone
  exact Option.some_ne_none _ hnone

/-- The upper limits that there are -/
def qpllLimits : List UInt32 := [6600000, 8000000, 10312500, 12500000, 13000000, 16375000]

lemma qpllVcoRange_limits : 5930000 ≤ (qpllVcoRange xcvr).vco0Min.toNat ∧ 5930000 ≤ (qpllVcoRange xcvr).vco1Min.toNat ∧
    (qpllVcoRange xcvr).vco0Max ∈ qpllLimits ∧ (qpllVcoRange xcvr).vco1Max ∈ qpllLimits := by
  unfold qpllVcoRange xilinxXcvrSetupQpllVcoRange
  dsimp only
  split_ifs <;> decide

lemma mem_N_gth34 {n : UInt32} (h : n ∈ qpllN xcvr) : n ∈ N_gth34 := by
  rw [qpllN] at h
  split_ifs at h
  · have hsubset : N_gtx2 ⊆ N_gth34 := by decide
    exact hsubset h
  · exact h

lemma QpllOffered.bounds (h : QpllOffered xcvr c) : 1 ≤ (qpllDividers c).m ∧ (qpllDividers c).m ≤ 4 ∧
    16 ≤ (qpllDividers c).n ∧ (qpllDividers c).n ≤ 160 ∧ 1 ≤ (qpllDividers c).d ∧ (qpllDividers c).d ≤ 16 := by
  have hm : ∀ m ∈ ([1, 2, 3, 4] : List UInt32), 1 ≤ m.toNat ∧ m.toNat ≤ 4 := by decide
  have hd : ∀ d ∈ ([1, 2, 4, 8, 16] : List UInt32), 1 ≤ d.toNat ∧ d.toNat ≤ 16 := by decide
  have hn : ∀ n ∈ N_gth34, 16 ≤ n.toNat ∧ n.toNat ≤ 160 := by decide
  obtain ⟨hn16, hn160⟩ := hn _ (mem_N_gth34 h.n_mem)
  exact ⟨(hm _ h.m_mem).1, (hm _ h.m_mem).2, hn16, hn160, (hd _ h.d_mem).1, (hd _ h.d_mem).2⟩

lemma QpllOffered.positive (h : QpllOffered xcvr c) : (qpllDividers c).Positive := by
  obtain ⟨hm, -, hn, -, hd, -⟩ := h.bounds
  exact ⟨hm, Nat.lt_of_lt_of_le (by decide) hn, hd⟩

lemma QpllOffered.sharp (h : QpllOffered xcvr c) {high : UInt32} (hhigh : high ∈ qpllLimits) :
    (qpllDividers c).Sharp high.toNat := by
  have hsharp : ∀ high ∈ qpllLimits, ∀ m ∈ ([1, 2, 3, 4] : List UInt32), ∀ n ∈ N_gth34,
      Sharp high.toNat ⟨m.toNat, n.toNat, 0⟩ := by decide
  exact hsharp _ hhigh _ h.m_mem _ (mem_N_gth34 h.n_mem)

lemma toNat_qpllVco (hfits : refclkKhz.toNat * (qpllDividers c).n < 2 ^ 32) :
    (refclkKhz * c.1.fbDiv / c.1.refclkDiv).toNat =
      refclkKhz.toNat * (qpllDividers c).n / (qpllDividers c).m := by
  rw [UInt32.toNat_div, UInt32.toNat_mul]
  exact congrArg (· / _) (Nat.mod_eq_of_lt hfits)

lemma qpll_rate_iff : refclkKhz / c.1.refclkDiv / c.2 = laneRateKhz / c.1.fbDiv ↔
    (qpllDividers c).Agrees 1 refclkKhz.toNat laneRateKhz.toNat := by
  rw [← UInt32.toNat_inj, UInt32.toNat_div, UInt32.toNat_div, UInt32.toNat_div, PllDividers.Agrees, Nat.one_mul]
  rfl

lemma QpllVcoRange.band_cases {r : QpllVcoRange} {v band : UInt32} (h : r.band v = some band) :
    band = 1 ∧ r.vco1Min.toNat ≤ v.toNat ∧ v.toNat ≤ r.vco1Max.toNat ∨
      band = 0 ∧ r.vco0Min.toNat ≤ v.toNat ∧ v.toNat ≤ r.vco0Max.toNat := by
  unfold QpllVcoRange.band at h
  split_ifs at h with hone hzero
  · exact Or.inl ⟨(Option.some.inj h).symm, UInt32.le_iff_toNat_le.mp hone.1, UInt32.le_iff_toNat_le.mp hone.2⟩
  · exact Or.inr ⟨(Option.some.inj h).symm, UInt32.le_iff_toNat_le.mp hzero.1, UInt32.le_iff_toNat_le.mp hzero.2⟩

lemma QpllVcoRange.exists_band {r : QpllVcoRange} {v : UInt32}
    (h : r.vco1Min.toNat ≤ v.toNat ∧ v.toNat ≤ r.vco1Max.toNat ∨
      r.vco0Min.toNat ≤ v.toNat ∧ v.toNat ≤ r.vco0Max.toNat) :
    ∃ band, r.band v = some band := by
  simp only [← UInt32.le_iff_toNat_le] at h
  unfold QpllVcoRange.band
  by_cases hone : v ≥ r.vco1Min ∧ v ≤ r.vco1Max
  · exact ⟨1, if_pos hone⟩
  · exact ⟨0, by rw [if_neg hone, if_pos (h.resolve_left hone)]⟩

section Ranges

variable (h : QpllOffered xcvr c) (hfits : refclkKhz.toNat * (qpllDividers c).n < 2 ^ 32)
include h hfits

lemma QpllOffered.vco1_iff : (qpllVcoRange xcvr).vco1Min.toNat ≤ (refclkKhz * c.1.fbDiv / c.1.refclkDiv).toNat ∧
      (refclkKhz * c.1.fbDiv / c.1.refclkDiv).toNat ≤ (qpllVcoRange xcvr).vco1Max.toNat ↔
    (qpllDividers c).InRange (qpllVcoRange xcvr).vco1Min.toNat (qpllVcoRange xcvr).vco1Max.toNat refclkKhz.toNat := by
  rw [toNat_qpllVco hfits]
  exact (h.sharp qpllVcoRange_limits.2.2.2).truncated_iff h.positive.m_pos

lemma QpllOffered.vco0_iff : (qpllVcoRange xcvr).vco0Min.toNat ≤ (refclkKhz * c.1.fbDiv / c.1.refclkDiv).toNat ∧
      (refclkKhz * c.1.fbDiv / c.1.refclkDiv).toNat ≤ (qpllVcoRange xcvr).vco0Max.toNat ↔
    (qpllDividers c).InRange (qpllVcoRange xcvr).vco0Min.toNat (qpllVcoRange xcvr).vco0Max.toNat refclkKhz.toNat := by
  rw [toNat_qpllVco hfits]
  exact (h.sharp qpllVcoRange_limits.2.2.1).truncated_iff h.positive.m_pos

lemma QpllAccepts.legal (hc : QpllAccepts xcvr refclkKhz laneRateKhz c) : QpllLegal xcvr refclkKhz c := by
  refine ⟨h, ?_⟩
  rcases QpllVcoRange.band_cases hc.band with ⟨hband, hrange⟩ | ⟨hband, hrange⟩
  · exact Or.inl ⟨hband, (h.vco1_iff hfits).mp hrange⟩
  · exact Or.inr ⟨hband, (h.vco0_iff hfits).mp hrange⟩

end Ranges

lemma QpllLegal.limits (h : QpllLegal xcvr refclkKhz c) :
    5930000 * (qpllDividers c).m ≤ refclkKhz.toNat * (qpllDividers c).n ∧
      refclkKhz.toNat * (qpllDividers c).n ≤ 16375000 * (qpllDividers c).m := by
  obtain ⟨hoffered, hband⟩ := h
  obtain ⟨hmin0, hmin1, hmax0, hmax1⟩ := @qpllVcoRange_limits xcvr
  have hmax : ∀ high ∈ qpllLimits, high.toNat ≤ 16375000 := by decide
  have hm := hoffered.positive.m_pos
  rcases hband with ⟨-, hrange⟩ | ⟨-, hrange⟩
  · obtain ⟨hlow, hhigh⟩ := (inRange_iff hm).mp hrange
    exact ⟨(Nat.mul_le_mul_right _ hmin1).trans hlow, hhigh.trans (Nat.mul_le_mul_right _ (hmax _ hmax1))⟩
  · obtain ⟨hlow, hhigh⟩ := (inRange_iff hm).mp hrange
    exact ⟨(Nat.mul_le_mul_right _ hmin0).trans hlow, hhigh.trans (Nat.mul_le_mul_right _ (hmax _ hmax0))⟩

lemma QpllLegal.fits {c' : XilinxXcvrQpllConfig × UInt32} (h : QpllLegal xcvr refclkKhz c')
    (hc : QpllOffered xcvr c) : refclkKhz.toNat * (qpllDividers c).n < 2 ^ 32 := by
  obtain ⟨-, hm4, hn16, -⟩ := h.1.bounds
  have hmul : refclkKhz.toNat * 16 ≤ 16375000 * 4 := by
    calc refclkKhz.toNat * 16 ≤ refclkKhz.toNat * (qpllDividers c').n := Nat.mul_le_mul_left _ hn16
      _ ≤ 16375000 * (qpllDividers c').m := h.limits.2
      _ ≤ 16375000 * 4 := Nat.mul_le_mul_left _ hm4
  calc refclkKhz.toNat * (qpllDividers c).n ≤ 4093750 * 160 := Nat.mul_le_mul (by lia) hc.bounds.2.2.2.1
    _ < 2 ^ 32 := by decide

lemma QpllLegal.gives {c' : XilinxXcvrQpllConfig × UInt32} (h : QpllLegal xcvr refclkKhz c)
    (hgives : QpllGives refclkKhz laneRateKhz c) (hc' : QpllAccepts xcvr refclkKhz laneRateKhz c') :
    QpllGives refclkKhz laneRateKhz c' := by
  have hoffered' := hc'.toQpllOffered
  have hlegal' := QpllAccepts.legal hoffered' (h.fits hoffered') hc'
  obtain ⟨hm, hm4, hn16, hn160, hd, hd16⟩ := h.1.bounds
  obtain ⟨hm', hm4', hn16', hn160', hd', hd16'⟩ := hoffered'.bounds
  have hdvd : ∀ d ∈ ([1, 2, 4, 8, 16] : List UInt32), ∀ d' ∈ ([1, 2, 4, 8, 16] : List UInt32),
      d.toNat ∣ d'.toNat ∨ d'.toNat ∣ d.toNat := by decide
  have hfast : 37000 * (qpllDividers c').m ≤ refclkKhz.toNat := by
    have hlow := hlegal'.limits.1
    have hmul : refclkKhz.toNat * (qpllDividers c').n ≤ refclkKhz.toNat * 160 := Nat.mul_le_mul_left _ hn160'
    lia
  apply (qpll_rate_iff.mp hc'.rate).gives hgives hoffered'.positive h.1.positive (by decide)
    (hdvd _ h.1.d_mem _ hoffered'.d_mem)
  calc 1 * (qpllDividers c').n * (qpllDividers c').m * (qpllDividers c).m * max (qpllDividers c).d (qpllDividers c').d
      ≤ 1 * 160 * (qpllDividers c').m * 4 * 16 := by gcongr; exact max_le hd16 hd16'
    _ ≤ refclkKhz.toNat := by lia

theorem qpllCorrect_iff : Correct (QpllLegal xcvr refclkKhz) (QpllGives refclkKhz laneRateKhz)
    (xilinxXcvrCalcQpllConfig xcvr refclkKhz laneRateKhz) ↔
      ∀ c, QpllAccepts xcvr refclkKhz laneRateKhz c → refclkKhz.toNat * (qpllDividers c).n < 2 ^ 32 := by
  apply correct_iff
  · exact fun c => qpllAccepts_of_eq_some
  · exact fun c => QpllAccepts.ne_none
  · exact fun c hc hfits => QpllAccepts.legal hc.toQpllOffered hfits hc
  · exact fun c c' hc hc' => hc'.fits hc.toQpllOffered
  · intro c hc hgives
    have hfits := hc.fits hc.1
    have hrange := hc.2.imp (fun hband => (hc.1.vco1_iff hfits).mpr hband.2) fun hband =>
      (hc.1.vco0_iff hfits).mpr hband.2
    obtain ⟨band, hband⟩ := QpllVcoRange.exists_band hrange
    -- A VCO that is in both ranges gets band 1.
    refine ⟨(⟨c.1.refclkDiv, c.1.fbDiv, band⟩, c.2), ⟨hc.1.m_mem, hc.1.d_mem, hc.1.n_mem⟩, hband, ?_⟩
    exact qpll_rate_iff.mpr (Gives.agrees hgives hc.1.positive (by decide))
  · exact fun c c' hc hgives hc' => hc.gives hgives hc'

end Qpll

/-- Both searches keep the VCO in the selected range and find the lane rate where it can be had, if and only if no
dividers whose product wraps pass their tests. -/
theorem xilinxXcvrCalcConfig_correct_iff (xcvr : XilinxXcvr) (refclkKhz laneRateKhz : UInt32) :
    (Correct (CpllLegal xcvr refclkKhz) (CpllGives refclkKhz laneRateKhz)
        (xilinxXcvrCalcCpllConfig xcvr refclkKhz laneRateKhz) ↔
      ∀ c, CpllAccepts xcvr refclkKhz laneRateKhz c → refclkKhz.toNat * (cpllDividers c).n < 2 ^ 32) ∧
    (Correct (QpllLegal xcvr refclkKhz) (QpllGives refclkKhz laneRateKhz)
        (xilinxXcvrCalcQpllConfig xcvr refclkKhz laneRateKhz) ↔
      ∀ c, QpllAccepts xcvr refclkKhz laneRateKhz c → refclkKhz.toNat * (qpllDividers c).n < 2 ^ 32) :=
  ⟨cpllCorrect_iff, qpllCorrect_iff⟩

/-- Both searches are correct for references up to 26.8 GHz. -/
theorem xilinxXcvrCalcConfig_correct {xcvr : XilinxXcvr} {refclkKhz laneRateKhz : UInt32}
    (h : refclkKhz.toNat ≤ 26843545) :
    Correct (CpllLegal xcvr refclkKhz) (CpllGives refclkKhz laneRateKhz)
        (xilinxXcvrCalcCpllConfig xcvr refclkKhz laneRateKhz) ∧
      Correct (QpllLegal xcvr refclkKhz) (QpllGives refclkKhz laneRateKhz)
        (xilinxXcvrCalcQpllConfig xcvr refclkKhz laneRateKhz) := by
  constructor
  · apply cpllCorrect_iff.mpr
    intro c hc
    have hmul := Nat.mul_le_mul h hc.bounds.2.2.2.1
    omega
  · apply qpllCorrect_iff.mpr
    intro c hc
    have hmul := Nat.mul_le_mul h hc.bounds.2.2.2.1
    omega

/-- A reference of 172 GHz -/
theorem not_xilinxXcvrCalcConfig_correct : ∃ xcvr,
    ¬Correct (CpllLegal xcvr 172000000) (CpllGives 172000000 1075000000)
        (xilinxXcvrCalcCpllConfig xcvr 172000000 1075000000) ∧
      ¬Correct (QpllLegal xcvr 172000000) (QpllGives 172000000 1075000000)
        (xilinxXcvrCalcQpllConfig xcvr 172000000 1075000000) := by
  refine ⟨⟨.S7_GTX2, .PM_200, ENC_8B10B, 0x110000, 20, 0, 1000⟩, fun h => ?_, fun h => ?_⟩
  · have hrange := (h.legal (⟨2, 5, 5⟩, 4) (by decide)).2
    have hhigh := ((inRange_iff (by decide)).mp hrange).2
    exact absurd hhigh (by decide)
  · have hband := (h.legal (⟨2, 100, 1⟩, 8) (by decide)).2
    have hrange := (hband.resolve_right fun hzero => absurd hzero.1 (by decide)).2
    have hhigh := ((inRange_iff (by decide)).mp hrange).2
    exact absurd hhigh (by decide)

end NoOS
