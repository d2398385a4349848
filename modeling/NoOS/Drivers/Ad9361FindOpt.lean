import Mathlib.Data.Option.Basic
import NoOS.Errno
import NoOS.Lib.LongestRun
import NoOS.Lib.Word

/-!
# The best delay of the AD9361

`ad9361_find_opt` looks for the first longest run of zero bytes, and the middle of it is programmed. The interface
tuning calls it for 16 delays, and the search of the phase of the transmit calibration for 32 phases written down twice.
The index is an `int32_t` and the size a `uint32_t`, so that the index overflows for arrays from `2 ^ 31` bytes on.
-/

namespace NoOS
open LongestRun

/-- `x++`, unless it overflows. -/
def incr (x : Int32) : Option Int32 := if x = Int32.maxValue then none else some (x + 1)

structure OptSearch where
  cnt : Int32
  maxCnt : Int32
  start : Int32
  maxStart : Int32
deriving DecidableEq

/-- What is done with a run when it is over. -/
def OptSearch.close (s : OptSearch) : OptSearch :=
  if s.cnt > s.maxCnt then { s with maxCnt := s.cnt, maxStart := s.start } else s

def findOptStep (s : OptSearch) (i : Int32) (b : UInt8) : Option OptSearch :=
  if b = 0 then
    (incr s.cnt).map fun cnt => { s with cnt, start := if s.start = -1 then i else s.start }
  else some { s.close with start := -1, cnt := 0 }

/-- The loop from the index `i` on, unless `i` or `cnt` overflows. -/
def findOptLoop : List UInt8 → Int32 → OptSearch → Option OptSearch
  | [], _, s => some s
  | b :: field, i, s => do
    let s ← findOptStep s i b
    let i ← incr i
    findOptLoop field i s

/-- `ad9361_find_opt` with what it returns and `*ret_start`. -/
def ad9361FindOpt (field : List UInt8) : Option (Int32 × UInt32) :=
  (findOptLoop field 0 ⟨0, 0, -1, 0⟩).map fun s => (s.close.maxCnt, s.close.maxStart.toUInt32)

/-- The delays of clock and data that `ad9361_dig_tune_delay` programs for its two fields. -/
def digTuneDelays (field₀ field₁ : List UInt8) : Option (Except Int (UInt32 × UInt32)) := do
  let (ret₀, s₀) ← ad9361FindOpt field₀
  let (ret₁, s₁) ← ad9361FindOpt field₁
  let c₀ := ret₀.toUInt32
  let c₁ := ret₁.toUInt32
  if c₀ = 0 ∧ c₁ = 0 then some (.error (- EIO))
  else if c₁ > c₀ then some (.ok (s₁ + c₁ / 2, 0))
  else some (.ok (0, s₀ + c₀ / 2))

def TX1_LO_CONV : UInt8 := (1 : UInt8) <<< 1
def TX1_SSB_CONV : UInt8 := (1 : UInt8) <<< 0

/-- The byte of a phase in the search: 0 if the calibration has converged. -/
def phaseField (val : UInt8) : UInt8 :=
  if val &&& TX1_LO_CONV ≠ 0 ∧ val &&& TX1_SSB_CONV ≠ 0 then 0 else 1

/-- The phase that `ad9361_tx_quad_phase_search` keeps and calibrates with in the end, for the results of the 32
calibrations before. -/
def txQuadPhaseSearch (calib : ℕ → Except Int UInt8) : Option (Except Int UInt32) :=
  match (List.range 32).mapM calib with
  | .error ret => some (.error ret)
  | .ok vals =>
    let field := vals.map phaseField
    (ad9361FindOpt (field ++ field)).map fun (ret, start) => .ok ((start + (ret / 2).toUInt32) &&& 0x1F)

namespace OptSearch

variable {k n m : ℕ}

lemma ofNat_lt_iff (hk : k < 2 ^ 31) (hn : n < 2 ^ 31) : Int32.ofNat k < Int32.ofNat n ↔ k < n := by
  rw [Int32.lt_iff_toInt_lt, Int32.toInt_ofNat_of_lt hk, Int32.toInt_ofNat_of_lt hn, Int.ofNat_lt]

lemma incr_ofNat (hk : k + 1 < 2 ^ 31) : incr (Int32.ofNat k) = some (Int32.ofNat (k + 1)) := by
  have hne : Int32.ofNat k ≠ Int32.maxValue := by
    intro heq
    have hint := congrArg Int32.toInt heq
    rw [Int32.toInt_ofNat_of_lt (by lia), Int32.toInt_maxValue] at hint
    omega
  rw [incr, if_neg hne, Int32.ofNat_add]
  rfl

lemma incr_last : incr (Int32.ofNat (2 ^ 31 - 1)) = none := by decide

lemma ofNat_ne_neg_one (hk : k < 2 ^ 31) : Int32.ofNat k ≠ -1 := by
  intro heq
  have hint := congrArg Int32.toInt heq
  rw [Int32.toInt_ofNat_of_lt hk] at hint
  exact absurd hint (by change (k : ℤ) ≠ -1; lia)

/-- The loop at index `k` stands for the runs of the places that have been read. -/
def Holds (p : ℕ → Prop) (k : ℕ) (s : OptSearch) : Prop :=
  ∃ c st n, Scanned p k c st n ∧ st < 2 ^ 31 ∧ n < 2 ^ 31 ∧
    s = ⟨Int32.ofNat c, Int32.ofNat n, if c = 0 then -1 else Int32.ofNat (k - c), Int32.ofNat st⟩

variable {p : ℕ → Prop} {s : OptSearch} {b : UInt8} {field rest : List UInt8}

lemma Holds.start : Holds p 0 ⟨0, 0, -1, 0⟩ := ⟨0, 0, 0, Scanned.start, by decide, by decide, rfl⟩

lemma close_eq {c st n : ℕ} {start : Int32} (hc : c < 2 ^ 31) (hn : n < 2 ^ 31) :
    close ⟨Int32.ofNat c, Int32.ofNat n, start, Int32.ofNat st⟩ =
      ⟨Int32.ofNat c, Int32.ofNat (if n < c then c else n), start, if n < c then start else Int32.ofNat st⟩ := by
  rw [close]
  dsimp only
  split_ifs with hcode hlt hlt
  · rfl
  · exact absurd ((ofNat_lt_iff hn hc).mp hcode) hlt
  · exact absurd ((ofNat_lt_iff hn hc).mpr hlt) hcode
  · rfl

lemma Holds.close_eq (h : Holds p k s) (hk : k < 2 ^ 31) : ∃ st n, IsFirstLongest p k st n ∧ st < 2 ^ 31 ∧ n < 2 ^ 31 ∧
    s.close.maxCnt = Int32.ofNat n ∧ s.close.maxStart = Int32.ofNat st := by
  obtain ⟨c, st, n, hscan, hst, hn, rfl⟩ := h
  have hle := hscan.tail.le
  have hc : c < 2 ^ 31 := hle.trans_lt hk
  refine ⟨_, _, hscan.close, ?_, ?_, ?_, ?_⟩
  · split_ifs
    · lia
    · exact hst
  · split_ifs
    · exact hc
    · exact hn
  · rw [OptSearch.close_eq hc hn]
  · rw [OptSearch.close_eq hc hn]
    split_ifs with hlt hzero
    · lia
    · rfl
    · rfl
    · rfl

lemma Holds.zero (h : Holds p k s) (hk : k + 1 < 2 ^ 31) (hp : p k) :
    ∃ t, findOptStep s (Int32.ofNat k) 0 = some t ∧ Holds p (k + 1) t := by
  obtain ⟨c, st, n, hscan, hst, hn, rfl⟩ := h
  have hle := hscan.tail.le
  refine ⟨_, ?_, c + 1, st, n, hscan.pass hp, hst, hn, rfl⟩
  rw [findOptStep, if_pos rfl, incr_ofNat (by lia), Option.map_some, Nat.add_sub_add_right,
    if_neg (Nat.succ_ne_zero c)]
  by_cases hzero : c = 0
  · rw [if_pos hzero, if_pos rfl, hzero, Nat.sub_zero]
  · rw [if_neg hzero, if_neg (ofNat_ne_neg_one (by lia))]

lemma Holds.nonzero (h : Holds p k s) (hk : k < 2 ^ 31) (hb : b ≠ 0) (hp : ¬p k) :
    ∃ t, findOptStep s (Int32.ofNat k) b = some t ∧ Holds p (k + 1) t := by
  obtain ⟨st, n, hbest, hst, hn, hcnt, hstart⟩ := h.close_eq hk
  refine ⟨_, by rw [findOptStep, if_neg hb], 0, st, n, ⟨IsTail.fail hp, hbest.fail hp⟩, hst, hn, ?_⟩
  dsimp only
  rw [hcnt, hstart]
  rfl

lemma findOptLoop_holds {pre : List UInt8} (hfield : field = pre ++ rest) (hlen : field.length < 2 ^ 31)
    (h : Holds (fun i => field[i]? = some 0) pre.length s) :
    ∃ t, findOptLoop rest (Int32.ofNat pre.length) s = some t ∧ Holds (fun i => field[i]? = some 0) field.length t := by
  induction rest generalizing pre s with
  | nil =>
    rw [List.append_nil] at hfield
    exact ⟨s, rfl, hfield ▸ h⟩
  | cons b rest ih =>
    have hsize : field.length = pre.length + 1 + rest.length := by
      rw [hfield, List.length_append, List.length_cons]
      lia
    have hget : field[pre.length]? = some b := by rw [hfield, List.getElem?_append_right le_rfl, Nat.sub_self]; rfl
    have hnext : field = (pre ++ [b]) ++ rest := by rw [hfield, List.append_cons]
    have hpre : pre.length + 1 = (pre ++ [b]).length := by rw [List.length_append, List.length_singleton]
    obtain ⟨t, ht, hholds⟩ : ∃ t, findOptStep s (Int32.ofNat pre.length) b = some t ∧
        Holds (fun i => field[i]? = some 0) (pre.length + 1) t := by
      by_cases hb : b = 0
      · subst hb
        exact h.zero (by lia) hget
      · exact h.nonzero (by lia) hb (by rw [hget, Option.some_inj]; exact hb)
    rw [hpre] at hholds
    obtain ⟨u, hu, hend⟩ := ih hnext hholds
    refine ⟨u, ?_, hend⟩
    rw [findOptLoop, ht, Option.bind_eq_bind, Option.bind_some, incr_ofNat (by lia), Option.bind_eq_bind,
      Option.bind_some, hpre]
    exact hu

lemma findOptLoop_none (hk : k < 2 ^ 31) (hlen : 2 ^ 31 ≤ k + field.length) : findOptLoop field (Int32.ofNat k) s = none := by
  induction field generalizing k s with
  | nil =>
    rw [List.length_nil] at hlen
    omega
  | cons b field ih =>
    rw [List.length_cons] at hlen
    rw [findOptLoop, Option.bind_eq_bind, Option.bind_eq_none_iff]
    intro t _
    rw [Option.bind_eq_bind, Option.bind_eq_none_iff]
    intro i hi
    rcases Nat.lt_or_ge (k + 1) (2 ^ 31) with hlt | hge
    · rw [incr_ofNat hlt, Option.some_inj] at hi
      rw [← hi]
      exact ih hlt (by lia)
    · have hlast : k = 2 ^ 31 - 1 := by lia
      rw [hlast, incr_last] at hi
      cases hi

/-- The count and the start are those of the first longest run of zeros, and the middle of a run lies in it. -/
def Right (field : List UInt8) : Prop :=
  ∃ cnt start, ad9361FindOpt field = some (cnt, start) ∧ 0 ≤ cnt ∧
    IsFirstLongest (fun i => field[i]? = some 0) field.length start.toNat cnt.toInt.toNat ∧
    (cnt ≠ 0 → start.toNat ≤ (start + cnt.toUInt32 / 2).toNat ∧
      (start + cnt.toUInt32 / 2).toNat < start.toNat + cnt.toInt.toNat)

lemma findOpt_eq (hlen : field.length < 2 ^ 31) : ∃ st n, IsFirstLongest (fun i => field[i]? = some 0) field.length st n ∧
    st < 2 ^ 31 ∧ n < 2 ^ 31 ∧ ad9361FindOpt field = some (Int32.ofNat n, UInt32.ofNat st) := by
  obtain ⟨s, hs, hholds⟩ := @findOptLoop_holds _ field field [] rfl hlen Holds.start
  obtain ⟨st, n, hbest, hst, hn, hcnt, hstart⟩ := hholds.close_eq hlen
  have hloop : findOptLoop field 0 ⟨0, 0, -1, 0⟩ = some s := hs
  refine ⟨st, n, hbest, hst, hn, ?_⟩
  rw [ad9361FindOpt, hloop, Option.map_some, hcnt, hstart]
  rfl

lemma toNat_middle {st n : ℕ} (hst : st < 2 ^ 31) (hn : n < 2 ^ 31) :
    (UInt32.ofNat st + UInt32.ofNat n / 2).toNat = st + n / 2 := by
  have hstart : (UInt32.ofNat st).toNat = st := UInt32.toNat_ofNat_of_lt' (hst.trans (by decide))
  have hhalf : (UInt32.ofNat n / 2).toNat = n / 2 := by
    rw [UInt32.toNat_div, UInt32.toNat_ofNat_of_lt' (hn.trans (by decide))]
    rfl
  rw [Word.toNat_add_of_lt (by rw [hstart, hhalf]; lia), hstart, hhalf]

lemma toUInt32_ofNat (n : ℕ) : (Int32.ofNat n).toUInt32 = UInt32.ofNat n := rfl

lemma right_of_lt (hlen : field.length < 2 ^ 31) : Right field := by
  obtain ⟨st, n, hbest, hst, hn, hcode⟩ := findOpt_eq hlen
  have hstart : (UInt32.ofNat st).toNat = st := UInt32.toNat_ofNat_of_lt' (hst.trans (by decide))
  refine ⟨_, _, hcode, ?_, ?_, fun hne => ?_⟩
  · rw [Int32.le_iff_toInt_le, Int32.toInt_ofNat_of_lt hn]
    exact Int.natCast_nonneg n
  · rw [hstart, Int32.toInt_ofNat_of_lt hn]
    exact hbest
  · have hpos : 0 < n := Nat.pos_of_ne_zero fun hzero => hne (by rw [hzero]; rfl)
    rw [toUInt32_ofNat, toNat_middle hst hn, hstart, Int32.toInt_ofNat_of_lt hn, Int.toNat_natCast]
    lia

lemma not_right_of_le (hlen : 2 ^ 31 ≤ field.length) : ¬Right field := by
  rintro ⟨cnt, start, hcode, -⟩
  have hnone : findOptLoop field 0 ⟨0, 0, -1, 0⟩ = none := @findOptLoop_none 0 _ field (by decide) (by omega)
  rw [ad9361FindOpt, hnone] at hcode
  cases hcode

/-- The tuning fails if no delay has worked, and programs one that has otherwise. -/
def TuneRight (field₀ field₁ : List UInt8) : Prop :=
  (digTuneDelays field₀ field₁ = some (.error (- EIO)) ∧ 0 ∉ field₀ ∧ 0 ∉ field₁) ∨
  ∃ delay, (digTuneDelays field₀ field₁ = some (.ok (0, delay)) ∧ field₀[delay.toNat]? = some 0) ∨
    (digTuneDelays field₀ field₁ = some (.ok (delay, 0)) ∧ field₁[delay.toNat]? = some 0)

lemma not_mem_of_zero {st : ℕ} (h : IsFirstLongest (fun i => field[i]? = some 0) field.length st 0) : 0 ∉ field := by
  intro hmem
  obtain ⟨i, hi⟩ := List.mem_iff_getElem?.mp hmem
  exact absurd (h.pos (List.getElem?_eq_some_iff.mp hi).1 hi) (lt_irrefl 0)

lemma tuneRight_of_lt {field₀ field₁ : List UInt8} (h₀ : field₀.length < 2 ^ 31) (h₁ : field₁.length < 2 ^ 31) :
    TuneRight field₀ field₁ := by
  obtain ⟨s₀, n₀, hbest₀, hs₀, hn₀, hcode₀⟩ := findOpt_eq h₀
  obtain ⟨s₁, n₁, hbest₁, hs₁, hn₁, hcode₁⟩ := findOpt_eq h₁
  have hword : ∀ n < 2 ^ 31, (UInt32.ofNat n).toNat = n := fun n hn => UInt32.toNat_ofNat_of_lt' (hn.trans (by decide))
  have hzero : ∀ n < 2 ^ 31, UInt32.ofNat n = 0 ↔ n = 0 := by
    intro n hn
    rw [← UInt32.toNat_inj, hword n hn]
    rfl
  have hgt : UInt32.ofNat n₁ > UInt32.ofNat n₀ ↔ n₀ < n₁ := by
    rw [gt_iff_lt, UInt32.lt_iff_toNat_lt, hword n₀ hn₀, hword n₁ hn₁]
  have heq : digTuneDelays field₀ field₁ =
      if n₀ = 0 ∧ n₁ = 0 then some (.error (- EIO))
      else if n₀ < n₁ then some (.ok (UInt32.ofNat s₁ + UInt32.ofNat n₁ / 2, 0))
      else some (.ok (0, UInt32.ofNat s₀ + UInt32.ofNat n₀ / 2)) := by
    rw [digTuneDelays, hcode₀, hcode₁]
    simp only [Option.bind_eq_bind, Option.bind_some, toUInt32_ofNat, hzero n₀ hn₀, hzero n₁ hn₁, hgt]
  rw [TuneRight, heq]
  split_ifs with hnone hlt
  · refine Or.inl ⟨rfl, not_mem_of_zero (hnone.1 ▸ hbest₀), not_mem_of_zero (hnone.2 ▸ hbest₁)⟩
  · refine Or.inr ⟨_, Or.inr ⟨rfl, ?_⟩⟩
    rw [toNat_middle hs₁ hn₁]
    exact hbest₁.middle (Nat.zero_lt_of_lt hlt)
  · refine Or.inr ⟨_, Or.inl ⟨rfl, ?_⟩⟩
    rw [toNat_middle hs₀ hn₀]
    exact hbest₀.middle (by lia)

/-- The transmitter's calibration has converged for the carrier and for the side band. -/
def Converged (val : UInt8) : Prop := val &&& TX1_LO_CONV ≠ 0 ∧ val &&& TX1_SSB_CONV ≠ 0

/-- With results for all phases the phase that is kept is in a longest arc of the converged ones, if there are any. -/
def PhaseRight (calib : ℕ → Except Int UInt8) : Prop :=
  ∀ vals : ℕ → UInt8, (∀ i < 32, calib i = .ok (vals i)) → (∃ i < 32, Converged (vals i)) →
    ∃ phase, txQuadPhaseSearch calib = some (.ok phase) ∧ InLongestArc (fun i => Converged (vals i)) 32 phase.toNat

variable {calib : ℕ → Except Int UInt8} {vals : ℕ → UInt8}

lemma phaseField_eq_zero (val : UInt8) : phaseField val = 0 ↔ Converged val := by
  rw [phaseField]
  split_ifs with hconv
  · exact iff_of_true rfl hconv
  · exact iff_of_false (by decide) hconv

lemma mapM_calib {l : List ℕ} (h : ∀ i ∈ l, calib i = .ok (vals i)) : l.mapM calib = .ok (l.map vals) := by
  induction l with
  | nil => rfl
  | cons i l ih =>
    rw [List.mapM_cons, h i List.mem_cons_self, ih fun j hj => h j (List.mem_cons_of_mem i hj)]
    rfl

lemma field_getElem?_iff {i : ℕ} (hi : i < 2 * 32) :
    ((((List.range 32).map vals).map phaseField) ++ (((List.range 32).map vals).map phaseField))[i]? = some 0 ↔
      Converged (vals (i % 32)) := by
  have hcell : ∀ j < 32, (((List.range 32).map vals).map phaseField)[j]? = some 0 ↔ Converged (vals j) := by
    intro j hj
    rw [List.getElem?_map, List.getElem?_map, List.getElem?_range hj, Option.map_some, Option.map_some, Option.some_inj]
    exact phaseField_eq_zero _
  have hlen : (((List.range 32).map vals).map phaseField).length = 32 := by
    rw [List.length_map, List.length_map, List.length_range]
  rcases Nat.lt_or_ge i 32 with hlt | hge
  · rw [List.getElem?_append_left (by rwa [hlen]), hcell i hlt, Nat.mod_eq_of_lt hlt]
  · have hmod : i % 32 = i - 32 := by lia
    rw [List.getElem?_append_right (by rwa [hlen]), hlen, hcell (i - 32) (by lia), hmod]

lemma half_eq : ∀ n < 65, (Int32.ofNat n / 2).toUInt32 = UInt32.ofNat n / 2 := by decide

lemma phaseRight (calib : ℕ → Except Int UInt8) : PhaseRight calib := by
  intro vals hvals hconv
  obtain ⟨i, hi, hp⟩ := hconv
  have hmap : (List.range 32).mapM calib = .ok ((List.range 32).map vals) :=
    mapM_calib fun i hi => hvals i (List.mem_range.mp hi)
  let field := ((List.range 32).map vals).map phaseField
  have hlen : (field ++ field).length = 2 * 32 := by
    rw [List.length_append, List.length_map, List.length_map, List.length_range]
  obtain ⟨st, n, hbest, hst, hn, hcode⟩ := @findOpt_eq (field ++ field) (by rw [hlen]; decide)
  rw [hlen] at hbest
  have hcircle := hbest.congr fun i hi => field_getElem?_iff hi
  have hpos := hcircle.pos (i := i) (by lia) (by rwa [Nat.mod_eq_of_lt hi])
  refine ⟨_, by rw [txQuadPhaseSearch, hmap]; dsimp only; rw [hcode, Option.map_some], ?_⟩
  have hend := hcircle.run.le
  have hphase : ((UInt32.ofNat st + (Int32.ofNat n / 2).toUInt32) &&& 0x1F).toNat = (st + n / 2) % 32 := by
    have hhalf : (Int32.ofNat n / 2).toUInt32 = UInt32.ofNat n / 2 := half_eq n (by lia)
    rw [hhalf, UInt32.toNat_and, toNat_middle hst hn]
    exact Nat.and_two_pow_sub_one_eq_mod _ 5
  rw [hphase]
  exact hcircle.inLongestArc hpos

end OptSearch

open OptSearch

/-- The result is right exactly for arrays of less than `2 ^ 31` bytes, and so the phase is right for every calibration
and the delays of the interface for every pair of fields. -/
theorem findOpt_right_iff (field : List UInt8) (calib : ℕ → Except Int UInt8) :
    (OptSearch.Right field ↔ field.length < 2 ^ 31) ∧ PhaseRight calib ∧
      ∀ field₀ field₁ : List UInt8, field₀.length = 16 → field₁.length = 16 → TuneRight field₀ field₁ := by
  refine ⟨⟨fun h => ?_, right_of_lt⟩, phaseRight calib, fun field₀ field₁ h₀ h₁ => ?_⟩
  · by_contra hge
    exact not_right_of_le (Nat.le_of_not_lt hge) h
  · exact tuneRight_of_lt (by omega) (by omega)

/-- With `2 ^ 31` zeros the index overflows. -/
theorem not_findOpt_right : ¬∀ field : List UInt8, field.length < 2 ^ 32 → OptSearch.Right field := by
  intro h
  have hlen : (List.replicate (2 ^ 31) (0 : UInt8)).length = 2 ^ 31 := List.length_replicate
  exact not_right_of_le hlen.ge (h _ (by rw [hlen]; decide))

end NoOS
