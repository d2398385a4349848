import NoOS.Drivers.AxiAdcCore
import NoOS.Lib.LongestRun

/-!
# The delay that `axi_adc_delay_calibrate` picks

The loop over the taps keeps where a run of passing taps begins and where one ends, and clears both as soon as it knows
both. A run that begins after other failing taps than the one that ended a run before is met with its end still known,
so that its first tap is dropped and a run of one tap is skipped. The taps of skipped runs count for the next one.
-/

namespace NoOS
open LongestRun

/-- What the loop knows between two taps. -/
inductive TapMode
  | clean
  | valid (start : ℕ)
  | invalid (start : ℕ)
deriving DecidableEq, Repr

/-- An interval as it is stored. -/
structure TapInterval where
  startValid : ℕ
  startInvalid : ℕ
  cnt : ℕ
deriving DecidableEq, Repr

/-- After a passing tap. Both a start and an end are cleared. -/
def TapMode.pass (val : ℕ) : TapMode → TapMode
  | clean => valid val
  | valid start => valid start
  | invalid _ => clean

/-- The loop with as many intervals as there are. -/
structure TapScan where
  mode : TapMode
  stored : List TapInterval
  pending : ℕ
deriving DecidableEq, Repr

namespace TapScan

def valid (a : TapScan) (val : ℕ) : TapScan :=
  { a with mode := a.mode.pass val, pending := a.pending + 1 }

def ends (a : TapScan) (val : ℕ) : TapScan :=
  match a.mode with
  | .clean => { a with mode := .invalid val }
  | .valid start => ⟨.clean, a.stored ++ [⟨start, val, a.pending⟩], 0⟩
  | .invalid start => { a with mode := .invalid start }

def step (pass : ℕ → Bool) (a : TapScan) (val : ℕ) : TapScan :=
  let a := if pass val then a.valid val else a
  if pass val = false ∨ val = 32 - 1 then a.ends val else a

/-- The passing taps from the last interval on are counted for one more. -/
def Fits (a : TapScan) : Prop := a.stored.length + min a.pending 1 ≤ 5

instance (a : TapScan) : Decidable a.Fits := inferInstanceAs (Decidable (_ ≤ 5))

variable {a : TapScan} {pass : ℕ → Bool} {val : ℕ}

lemma fits_ends (h : 0 < a.pending) : (a.ends val).Fits ↔ a.Fits := by
  obtain ⟨mode, stored, pending⟩ := a
  cases mode with
  | clean => exact Iff.rfl
  | valid start =>
    change (stored ++ [_]).length + min 0 1 ≤ 5 ↔ stored.length + min pending 1 ≤ 5
    change 0 < pending at h
    rw [List.length_append, List.length_singleton]
    lia
  | invalid start => exact Iff.rfl

lemma Fits.of_ends (h : (a.ends val).Fits) : a.Fits := by
  obtain ⟨mode, stored, pending⟩ := a
  cases mode with
  | clean => exact h
  | valid start =>
    change (stored ++ [_]).length + min 0 1 ≤ 5 at h
    rw [List.length_append, List.length_singleton] at h
    change stored.length + min pending 1 ≤ 5
    lia
  | invalid start => exact h

lemma Fits.of_valid (h : (a.valid val).Fits) : a.Fits := by
  change a.stored.length + min (a.pending + 1) 1 ≤ 5 at h
  change a.stored.length + min a.pending 1 ≤ 5
  lia

lemma step_of_fail (h : pass val = false) : a.step pass val = a.ends val := by
  rw [step, h, if_neg Bool.false_ne_true, if_pos (Or.inl rfl)]

lemma step_of_pass (h : pass val = true) :
    a.step pass val = if val = 32 - 1 then (a.valid val).ends val else a.valid val := by
  rw [step, h, if_pos rfl]
  simp only [Bool.true_eq_false, false_or]

lemma Fits.of_step (h : (a.step pass val).Fits) : a.Fits := by
  cases hpass : pass val with
  | false =>
    rw [step_of_fail hpass] at h
    exact h.of_ends
  | true =>
    rw [step_of_pass hpass] at h
    split_ifs at h
    · exact h.of_ends.of_valid
    · exact h.of_valid

/-- The loop from `pos` on. -/
def run (pass : ℕ → Bool) (a : TapScan) (pos k : ℕ) : TapScan := (List.range' pos k).foldl (step pass) a

lemma run_succ {pos k : ℕ} : a.run pass pos (k + 1) = (a.step pass pos).run pass (pos + 1) k := rfl

lemma Fits.of_run {pos k : ℕ} (h : (a.run pass pos k).Fits) : a.Fits := by
  induction k generalizing a pos with
  | zero => exact h
  | succ k ih =>
    rw [run_succ] at h
    exact (ih h).of_step

end TapScan

section Arrays

variable {l l' : List ℕ} {i j x : ℕ}

lemma arraySet_of_lt (h : i < l.length) : arraySet l i x = some (l.set i x) := if_pos h

lemma arraySet_of_le (h : l.length ≤ i) : arraySet l i x = none := if_neg (Nat.not_lt.mpr h)

lemma getD_set (h : i < l.length) : (l.set i x).getD j 0 = if j = i then x else l.getD j 0 := by
  rw [List.getD_eq_getElem?_getD, List.getD_eq_getElem?_getD, List.getElem?_set]
  by_cases hj : j = i
  · rw [if_pos hj, if_pos hj.symm, if_pos (hj ▸ h)]
    rfl
  · rw [if_neg hj, if_neg (Ne.symm hj)]

lemma getD_append_singleton : (l ++ [x]).getD j 0 = if j = l.length then x else l.getD j 0 := by
  rw [List.getD_eq_getElem?_getD, List.getD_eq_getElem?_getD]
  rcases Nat.lt_trichotomy j l.length with hlt | rfl | hgt
  · rw [if_neg (by omega), List.getElem?_append_left hlt]
  · rw [if_pos rfl, List.getElem?_concat_length]
    rfl
  · rw [if_neg (by omega), List.getElem?_eq_none (by rw [List.length_append, List.length_singleton]; omega),
      List.getElem?_eq_none (by omega)]

end Arrays

/-- The variables of the loop and the places of its arrays. -/
structure DelayScan.Refines (s : DelayScan) (a : TapScan) : Prop where
  fits : a.Fits
  mode : (s.startValidDelay, s.startInvalidDelay) = match a.mode with
    | .clean => (32, 32)
    | .valid start => (start, 32)
    | .invalid start => (32, start)
  mode_lt : ∀ start, a.mode = .valid start ∨ a.mode = .invalid start → start < 32
  counted : ∀ start, a.mode = .valid start → 0 < a.pending
  interval : s.interval = a.stored.length
  lengths : s.validRange.length = 5 ∧ s.invalidRange.length = 5 ∧ s.cntValid.length = 5
  validRange : ∀ i, s.validRange.getD i 0 = (a.stored.map TapInterval.startValid).getD i 0
  invalidRange : ∀ i, s.invalidRange.getD i 0 = (a.stored.map TapInterval.startInvalid).getD i 0
  cntValid : ∀ i, s.cntValid.getD i 0 = (a.stored.map TapInterval.cnt ++ [a.pending]).getD i 0

namespace DelayScan

variable {s : DelayScan} {a : TapScan} {val : ℕ}

lemma Refines.start :
    Refines ⟨32, 32, 0, List.replicate 5 0, List.replicate 5 0, List.replicate 5 0⟩ ⟨.clean, [], 0⟩ := by
  have hzero : ∀ i, (List.replicate 5 0).getD i 0 = 0 := by
    intro i
    rw [List.getD_eq_getElem?_getD, List.getElem?_replicate]
    split_ifs <;> rfl
  refine ⟨by decide, rfl, fun start h => absurd h (by simp), fun start h => absurd h nofun, rfl, ⟨rfl, rfl, rfl⟩, hzero,
    hzero, fun i => ?_⟩
  rw [hzero]
  cases i <;> rfl

lemma Refines.valid (h : s.Refines a) (hval : val < 32) :
    if (a.valid val).Fits then ∃ s', s.valid val = some s' ∧ s'.Refines (a.valid val) else s.valid val = none := by
  obtain ⟨hfits, hmode, hlt, hpos, hinterval, ⟨hl1, hl2, hl3⟩, hvalid, hinvalid, hcnt⟩ := h
  have hfits' : (a.valid val).Fits ↔ a.stored.length < 5 := by
    change a.stored.length + min (a.pending + 1) 1 ≤ 5 ↔ _
    lia
  by_cases hroom : a.stored.length < 5
  · have hcnt' : ∀ i, (s.cntValid.set s.interval (s.cntValid.getD s.interval 0 + 1)).getD i 0 =
        (a.stored.map TapInterval.cnt ++ [a.pending + 1]).getD i 0 := by
      intro i
      rw [getD_set (by lia), hcnt, hcnt, getD_append_singleton, getD_append_singleton, getD_append_singleton,
        List.length_map, hinterval, if_pos rfl]
      split_ifs <;> rfl
    rw [if_pos (hfits'.mpr hroom), DelayScan.valid, arraySet_of_lt (by lia)]
    refine ⟨_, rfl, hfits'.mpr hroom, ?_, ?_, fun _ _ => Nat.succ_pos _, hinterval,
      ⟨hl1, hl2, by rw [List.length_set]; exact hl3⟩, hvalid, hinvalid, hcnt'⟩
    · cases hm : a.mode with
      | clean =>
        rw [hm] at hmode
        obtain ⟨hsv, hsi⟩ := Prod.mk.inj hmode
        simp [TapScan.valid, TapMode.pass, hm, hsv, hsi]
      | valid start =>
        rw [hm] at hmode
        have hstart := hlt start (Or.inl hm)
        obtain ⟨hsv, hsi⟩ := Prod.mk.inj hmode
        simp [TapScan.valid, TapMode.pass, hm, hsv, hsi, hstart.ne]
      | invalid start =>
        rw [hm] at hmode
        have hstart := hlt start (Or.inr hm)
        obtain ⟨hsv, hsi⟩ := Prod.mk.inj hmode
        simp [TapScan.valid, TapMode.pass, hm, hsv, hsi, hstart.ne, hval.ne]
    · intro start hstart
      cases hm : a.mode with
      | clean =>
        simp [TapScan.valid, TapMode.pass, hm] at hstart
        lia
      | valid start' =>
        simp [TapScan.valid, TapMode.pass, hm] at hstart
        exact hlt start (Or.inl (hstart ▸ hm))
      | invalid start' => simp [TapScan.valid, TapMode.pass, hm] at hstart
  · rw [if_neg (mt hfits'.mp hroom), DelayScan.valid, arraySet_of_le (by lia)]
    rfl

/-- The end of a run is stored in the place where its taps have been counted. -/
lemma Refines.ends (h : s.Refines a) (hval : val < 32) : ∃ s', s.ends val = some s' ∧ s'.Refines (a.ends val) := by
  obtain ⟨hfits, hmode, hlt, hpos, hinterval, ⟨hl1, hl2, hl3⟩, hvalid, hinvalid, hcnt⟩ := h
  obtain ⟨mode, stored, pending⟩ := a
  change s.interval = stored.length at hinterval
  change ∀ i, s.cntValid.getD i 0 = (stored.map TapInterval.cnt ++ [pending]).getD i 0 at hcnt
  cases mode with
  | clean =>
    obtain ⟨hsv, hsi⟩ := Prod.mk.inj hmode
    have hends : s.ends val = some { s with startInvalidDelay := val } := by
      rw [DelayScan.ends, hsv, hsi]
      rfl
    refine ⟨_, hends, hfits, by rw [hsv]; rfl, ?_, ?_, hinterval, ⟨hl1, hl2, hl3⟩, hvalid, hinvalid, hcnt⟩
    · rintro start (hstart | hstart)
      · exact absurd hstart nofun
      · obtain rfl := TapMode.invalid.inj hstart
        exact hval
    · exact fun start hstart => absurd hstart nofun
  | valid start =>
    obtain ⟨hsv, hsi⟩ := Prod.mk.inj hmode
    have hstart := hlt start (Or.inl rfl)
    have hcount := hpos start rfl
    have hroom : stored.length < 5 := by
      change stored.length + min pending 1 ≤ 5 at hfits
      change 0 < pending at hcount
      lia
    have hends : s.ends val = some ⟨32, 32, s.interval + 1, s.validRange.set s.interval start,
        s.invalidRange.set s.interval val, s.cntValid⟩ := by
      rw [DelayScan.ends, hsv, hsi]
      rw [if_pos rfl, if_pos ⟨hstart.ne, hval.ne⟩, arraySet_of_lt (by lia), arraySet_of_lt (by lia)]
      rfl
    let new : TapInterval := ⟨start, val, pending⟩
    have hlength : (stored ++ [new]).length = stored.length + 1 := by
      rw [List.length_append, List.length_singleton]
    have hnext : ∀ {l : List ℕ} {f : TapInterval → ℕ} {x : ℕ}, l.length = 5 →
        (∀ i, l.getD i 0 = (stored.map f).getD i 0) → f new = x → ∀ i, (l.set s.interval x).getD i 0 = ((stored ++ [new]).map f).getD i 0 := by
      intro l f x hlen hl hx i
      rw [getD_set (by lia), hl, List.map_append, List.map_singleton, getD_append_singleton, List.length_map, hinterval,
        hx]
    refine ⟨_, hends, ?_, rfl, ?_, ?_, ?_, ⟨?_, ?_, hl3⟩, hnext hl1 hvalid rfl, hnext hl2 hinvalid rfl, ?_⟩
    · change (stored ++ [new]).length + min 0 1 ≤ 5
      rw [hlength]
      lia
    · rintro start' (hstart' | hstart')
      · exact absurd hstart' nofun
      · exact absurd hstart' nofun
    · exact fun start' hstart' => absurd hstart' nofun
    · change s.interval + 1 = (stored ++ [new]).length
      rw [hlength, hinterval]
    · rw [List.length_set]
      exact hl1
    · rw [List.length_set]
      exact hl2
    · intro i
      change _ = ((stored ++ [new]).map TapInterval.cnt ++ [0]).getD i 0
      rw [hcnt, List.map_append, List.map_singleton, getD_append_singleton, getD_append_singleton, getD_append_singleton]
      have hlen : (stored.map TapInterval.cnt ++ [new.cnt]).length = (stored.map TapInterval.cnt).length + 1 := by
        rw [List.length_append, List.length_singleton]
      rw [hlen]
      split_ifs with hlast hnew
      · lia
      · rfl
      · rw [List.getD_eq_getElem?_getD, List.getElem?_eq_none (by lia)]
        rfl
      · rfl
  | invalid start =>
    obtain ⟨hsv, hsi⟩ := Prod.mk.inj hmode
    have hstart := hlt start (Or.inr rfl)
    have hends : s.ends val = some s := by
      rw [DelayScan.ends, hsv, hsi]
      rw [if_neg fun hboth => hboth.1 rfl, if_neg hstart.ne, ← hsi]
      exact congrArg some (by rw [← hsv])
    exact ⟨s, hends, hfits, hmode, hlt, hpos, hinterval, ⟨hl1, hl2, hl3⟩, hvalid, hinvalid, hcnt⟩

variable {pass : ℕ → Bool} {errField : List Bool}

lemma Refines.step (h : s.Refines a) (hval : val < 32) (herr : errField.getD val false = !pass val) :
    if (a.step pass val).Fits then ∃ s', s.step errField val = some s' ∧ s'.Refines (a.step pass val)
    else s.step errField val = none := by
  rw [DelayScan.step, herr]
  cases hpass : pass val with
  | false =>
    obtain ⟨s', hends, hrefines⟩ := h.ends hval
    rw [TapScan.step_of_fail hpass, if_pos hrefines.fits]
    exact ⟨s', hends, hrefines⟩
  | true =>
    have hvalid := h.valid hval
    have hpending : 0 < (a.valid val).pending := Nat.succ_pos _
    rw [TapScan.step_of_pass hpass]
    simp only [Bool.not_true, Bool.false_eq_true, if_false, false_or]
    by_cases hroom : (a.valid val).Fits
    · rw [if_pos hroom] at hvalid
      obtain ⟨s₁, hs₁, hrefines⟩ := hvalid
      rw [hs₁]
      by_cases hlast : val = 32 - 1
      · rw [if_pos hlast, if_pos ((TapScan.fits_ends hpending).mpr hroom)]
        obtain ⟨s₂, hs₂, hrefines₂⟩ := hrefines.ends hval
        exact ⟨s₂, (if_pos hlast).trans hs₂, hrefines₂⟩
      · rw [if_neg hlast, if_pos hroom]
        exact ⟨s₁, if_neg hlast, hrefines⟩
    · rw [if_neg hroom] at hvalid
      rw [hvalid]
      by_cases hlast : val = 32 - 1
      · rw [if_pos hlast, if_neg (mt (TapScan.fits_ends hpending).mp hroom)]
        rfl
      · rw [if_neg hlast, if_neg hroom]
        rfl

/-- The loop runs over the arrays as soon as more than five intervals are counted. -/
lemma Refines.run {pos k : ℕ} (h : s.Refines a) (hk : pos + k ≤ 32)
    (herr : ∀ val < 32, errField.getD val false = !pass val) :
    if (a.run pass pos k).Fits then
      ∃ s', (List.range' pos k).foldlM (DelayScan.step errField) s = some s' ∧ s'.Refines (a.run pass pos k)
    else (List.range' pos k).foldlM (DelayScan.step errField) s = none := by
  induction k generalizing s a pos with
  | zero =>
    change if a.Fits then _ else _
    rw [if_pos h.fits]
    exact ⟨s, rfl, h⟩
  | succ k ih =>
    have hstep := h.step (by lia) (herr pos (by lia))
    rw [TapScan.run_succ, List.range'_succ, List.foldlM_cons]
    by_cases hfits : (a.step pass pos).Fits
    · rw [if_pos hfits] at hstep
      obtain ⟨s', hs', hrefines⟩ := hstep
      rw [hs']
      exact ih hrefines (by lia)
    · rw [if_neg hfits] at hstep
      rw [if_neg fun hrun => hfits hrun.of_run, hstep]
      rfl

end DelayScan

/-- A run that is stored, with the taps of the skipped runs before it. -/
structure TapGroup where
  singles : ℕ
  start : ℕ
  length : ℕ
  full : Bool
deriving DecidableEq, Repr

namespace TapGroup

def cnt (g : TapGroup) : ℕ := g.singles + g.length

/-- Without its first tap unless it is met in full, and with the last of all taps taken for a failing one -/
def interval (g : TapGroup) : TapInterval :=
  ⟨if g.full then g.start else g.start + 1, if g.start + g.length = 32 then 31 else g.start + g.length, g.cnt⟩

end TapGroup

/-- The stored runs, and the taps of the skipped runs behind the last one. A run is met in full if it starts at `free`,
the first tap of all or the next but one behind a stored run. Otherwise a run of one tap is skipped. -/
def tapGroups : Option ℕ → ℕ → List (ℕ × ℕ) → List TapGroup × ℕ
  | _, singles, [] => ([], singles)
  | free, singles, (s, n) :: runs =>
    if free = some s ∨ 2 ≤ n then
      let (groups, rest) := tapGroups (some (s + n + 1)) 0 runs
      (⟨singles, s, n, free = some s⟩ :: groups, rest)
    else tapGroups none (singles + 1) runs

namespace TapScan

/-- What the variables say of the run that reaches `pos`. -/
def Meets (free : Option ℕ) (singles pos : ℕ) (a : TapScan) : Option ℕ → Prop
  | none => a.pending = singles ∧
      ((a.mode = .clean ∧ free = some pos) ∨ (∃ i, a.mode = .invalid i) ∧ ∀ f, free = some f → f < pos)
  | some s => s < pos ∧ a.pending = singles + (pos - s) ∧
      a.mode = if free = some s then .valid s else if pos = s + 1 then .clean else .valid (s + 1)

variable {a : TapScan} {pass : ℕ → Bool} {free start : Option ℕ} {singles pos k s : ℕ}

lemma Meets.valid (h : Meets free singles pos a start) :
    Meets free singles (pos + 1) (a.valid pos) (some (start.getD pos)) := by
  cases start with
  | none =>
    obtain ⟨hpending, hmode⟩ := h
    refine ⟨Nat.lt_succ_self pos, ?_, ?_⟩
    · change a.pending + 1 = singles + (pos + 1 - pos)
      lia
    · change a.mode.pass pos = if free = some pos then _ else if pos + 1 = pos + 1 then _ else _
      rcases hmode with ⟨hclean, hfree⟩ | ⟨⟨i, hinvalid⟩, hfree⟩
      · rw [hclean, if_pos hfree]
        rfl
      · rw [hinvalid, if_neg fun hpos => Nat.lt_irrefl pos (hfree pos hpos), if_pos rfl]
        rfl
  | some s =>
    obtain ⟨hlt, hpending, hmode⟩ := h
    refine ⟨Nat.lt_succ_of_lt hlt, ?_, ?_⟩
    · change a.pending + 1 = singles + (pos + 1 - s)
      lia
    · change a.mode.pass pos = if free = some s then _ else if pos + 1 = s + 1 then _ else _
      rw [if_neg (by lia : ¬pos + 1 = s + 1), hmode]
      split_ifs with hfull hone
      · rfl
      · rw [hone]
        rfl
      · rfl

/-- A run that is met in full, or has another tap behind its first one, is stored where it ends. -/
lemma Meets.store (h : Meets free singles pos a (some s)) (hrun : free = some s ∨ 2 ≤ pos - s) (val : ℕ)
    (hval : val = if pos = 32 then 31 else pos) :
    a.ends val = ⟨.clean, a.stored ++ [TapGroup.interval ⟨singles, s, pos - s, free = some s⟩], 0⟩ := by
  obtain ⟨hlt, hpending, hmode⟩ := h
  have hend : s + (pos - s) = pos := by lia
  have hstart : a.mode = .valid (if free = some s then s else s + 1) := by
    rw [hmode]
    split_ifs with hfull hone
    · rfl
    · rcases hrun with hfull' | hlong
      · exact absurd hfull' hfull
      · lia
    · rfl
  rw [ends, hstart]
  simp only [TapGroup.interval, TapGroup.cnt, hend, hval, hpending, decide_eq_true_eq]

lemma Meets.skip (h : Meets free singles pos a (some s)) (hrun : ¬(free = some s ∨ 2 ≤ pos - s)) (val : ℕ) :
    a.ends val = { a with mode := .invalid val } ∧ a.pending = singles + 1 := by
  obtain ⟨hlt, hpending, hmode⟩ := h
  obtain ⟨hfull, hshort⟩ := not_or.mp hrun
  rw [if_neg hfull, if_pos (by lia)] at hmode
  exact ⟨by rw [ends, hmode], by lia⟩

/-- The intervals are those of the stored runs. -/
theorem Meets.run (h : Meets free singles pos a start) (hk : pos + k = 32) (hstart : k = 0 → start = none) :
    (a.run pass pos k).stored =
        a.stored ++ (tapGroups free singles (runs pass start pos k)).1.map TapGroup.interval ∧
      (a.run pass pos k).pending = (tapGroups free singles (runs pass start pos k)).2 := by
  induction k generalizing a pos start free singles with
  | zero =>
    obtain rfl := hstart rfl
    exact ⟨(List.append_nil _).symm, h.1⟩
  | succ k ih =>
    rw [run_succ, runs]
    cases hpass : pass pos with
    | false =>
      rw [step_of_fail hpass, if_neg Bool.false_ne_true]
      cases start with
      | none =>
        obtain ⟨hpending, hmode⟩ := h
        have hends : ∃ i, a.ends pos = { a with mode := .invalid i } := by
          rcases hmode with ⟨hclean, -⟩ | ⟨⟨i, hinvalid⟩, -⟩
          · exact ⟨pos, by rw [ends, hclean]⟩
          · exact ⟨i, by rw [ends, hinvalid]⟩
        have hfree : ∀ f, free = some f → f < pos + 1 := by
          intro f hf
          rcases hmode with ⟨-, hpos⟩ | ⟨-, hlt⟩
          · rw [hpos] at hf
            exact (Option.some.inj hf).symm.le.trans_lt (Nat.lt_succ_self pos)
          · exact Nat.lt_succ_of_lt (hlt f hf)
        obtain ⟨i, hends⟩ := hends
        rw [hends]
        have hnext : Meets free singles (pos + 1) { a with mode := .invalid i } none :=
          ⟨hpending, Or.inr ⟨⟨i, rfl⟩, hfree⟩⟩
        exact ih hnext (by lia) fun _ => rfl
      | some s =>
        change _ = a.stored ++ (tapGroups free singles ((s, pos - s) :: _)).1.map TapGroup.interval ∧
          _ = (tapGroups free singles ((s, pos - s) :: _)).2
        have hend : s + (pos - s) + 1 = pos + 1 := by
          have hlt := h.1
          lia
        rw [tapGroups]
        by_cases hrun : free = some s ∨ 2 ≤ pos - s
        · have hnext : Meets (some (pos + 1)) 0 (pos + 1)
              ⟨.clean, a.stored ++ [TapGroup.interval ⟨singles, s, pos - s, free = some s⟩], 0⟩ none :=
            ⟨rfl, Or.inl ⟨rfl, rfl⟩⟩
          obtain ⟨hstored, hpending⟩ := ih hnext (by lia) fun _ => rfl
          rw [h.store hrun pos (if_neg (by lia)).symm, if_pos hrun, hend, hstored, hpending, List.append_assoc]
          exact ⟨rfl, rfl⟩
        · obtain ⟨hends, hpending⟩ := h.skip hrun pos
          have hnext : Meets none (singles + 1) (pos + 1) { a with mode := .invalid pos } none :=
            ⟨hpending, Or.inr ⟨⟨pos, rfl⟩, fun f hf => absurd hf (Option.some_ne_none f).symm⟩⟩
          rw [hends, if_neg hrun]
          exact ih hnext (by lia) fun _ => rfl
    | true =>
      rw [step_of_pass hpass, if_pos rfl]
      have hvalid := h.valid
      rcases Nat.eq_zero_or_pos k with rfl | hpos
      · obtain rfl : pos = 31 := by lia
        change ((a.valid 31).ends 31).stored = a.stored ++
            (tapGroups free singles [(start.getD 31, 32 - start.getD 31)]).1.map TapGroup.interval ∧
          ((a.valid 31).ends 31).pending = (tapGroups free singles [(start.getD 31, 32 - start.getD 31)]).2
        rw [tapGroups]
        by_cases hrun : free = some (start.getD 31) ∨ 2 ≤ 32 - start.getD 31
        · rw [hvalid.store hrun 31 rfl, if_pos hrun]
          exact ⟨rfl, rfl⟩
        · obtain ⟨hends, hpending⟩ := hvalid.skip hrun 31
          rw [hends, if_neg hrun]
          exact ⟨(List.append_nil _).symm, hpending⟩
      · rw [if_neg (by lia)]
        exact ih hvalid (by lia) fun hzero => absurd hzero hpos.ne'

end TapScan

/-- The first place with the greatest number. -/
structure IsFirstMost (c : ℕ → ℕ) (i : ℕ) : Prop where
  most : ∀ j, c j ≤ c i
  first : ∀ j < i, c j < c i

lemma IsFirstMost.unique {c : ℕ → ℕ} {i j : ℕ} (h : IsFirstMost c i) (h' : IsFirstMost c j) : i = j := by
  rcases Nat.lt_trichotomy i j with hlt | rfl | hgt
  · exact absurd (h'.first i hlt) (Nat.not_lt.mpr (h.most j))
  · rfl
  · exact absurd (h.first j hgt) (Nat.not_lt.mpr (h'.most i))

lemma maxInterval_spec {l : List ℕ} (hpos : ∃ j < 5, 0 < l.getD j 0) (hzero : ∀ j, 5 ≤ j → l.getD j 0 = 0) :
    IsFirstMost (fun j => l.getD j 0) (maxInterval l) := by
  have hscan : ∀ n, let r := (List.range n).foldl (fun (s : ℕ × ℕ) val =>
      if l.getD val 0 > s.1 then (l.getD val 0, val) else s) (0, 0)
      (∀ j < n, l.getD j 0 ≤ r.1) ∧ ((r.1 = 0) ∨ (l.getD r.2 0 = r.1 ∧ ∀ j < r.2, l.getD j 0 < r.1)) := by
    intro n
    induction n with
    | zero => exact ⟨fun j hj => absurd hj (Nat.not_lt_zero j), Or.inl rfl⟩
    | succ n ih =>
      rw [List.range_succ, List.foldl_append]
      obtain ⟨hmost, hbest⟩ := ih
      generalize (List.range n).foldl _ _ = r at hmost hbest
      dsimp only [List.foldl_cons, List.foldl_nil]
      split_ifs with hnew
      · refine ⟨fun j hj => ?_, Or.inr ⟨rfl, fun j hj => (hmost j hj).trans_lt hnew⟩⟩
        rcases Nat.lt_succ_iff_lt_or_eq.mp hj with hlt | rfl
        · exact (hmost j hlt).trans hnew.le
        · exact Nat.le_refl _
      · refine ⟨fun j hj => ?_, hbest⟩
        rcases Nat.lt_succ_iff_lt_or_eq.mp hj with hlt | rfl
        · exact hmost j hlt
        · exact Nat.not_lt.mp hnew
  obtain ⟨hmost, hbest⟩ := hscan 5
  obtain ⟨j, hj, hcount⟩ := hpos
  rcases hbest with hnone | ⟨hval, hfirst⟩
  · have hle := hmost j hj
    lia
  · refine ⟨fun j' => ?_, fun j' hj' => ?_⟩
    · dsimp only [maxInterval]
      rw [hval]
      rcases Nat.lt_or_ge j' 5 with hlt | hge
      · exact hmost j' hlt
      · rw [hzero j' hge]
        exact Nat.zero_le _
    · dsimp only [maxInterval]
      rw [hval]
      exact hfirst j' hj'

section Groups

variable {free : Option ℕ} {singles s n : ℕ} {l : List (ℕ × ℕ)} {g : TapGroup}

lemma tapGroups_store (h : free = some s ∨ 2 ≤ n) : tapGroups free singles ((s, n) :: l) =
    (⟨singles, s, n, free = some s⟩ :: (tapGroups (some (s + n + 1)) 0 l).1,
      (tapGroups (some (s + n + 1)) 0 l).2) := by
  rw [tapGroups, if_pos h]

lemma tapGroups_skip (h : ¬(free = some s ∨ 2 ≤ n)) :
    tapGroups free singles ((s, n) :: l) = tapGroups none (singles + 1) l := by
  rw [tapGroups, if_neg h]

lemma mem_of_mem_tapGroups (hg : g ∈ (tapGroups free singles l).1) : (g.start, g.length) ∈ l := by
  induction l generalizing free singles with
  | nil => exact absurd hg List.not_mem_nil
  | cons r l ih =>
    obtain ⟨s, n⟩ := r
    by_cases h : free = some s ∨ 2 ≤ n
    · rw [tapGroups_store h] at hg
      rcases List.mem_cons.mp hg with rfl | hlater
      · exact List.mem_cons_self
      · exact List.mem_cons_of_mem _ (ih hlater)
    · rw [tapGroups_skip h] at hg
      exact List.mem_cons_of_mem _ (ih hg)

lemma tapGroups_counted (h : 0 < singles ∨ l ≠ []) :
    (tapGroups free singles l).1 ≠ [] ∨ 0 < (tapGroups free singles l).2 := by
  induction l generalizing free singles with
  | nil => exact Or.inr (h.resolve_right fun hne => hne rfl)
  | cons r l ih =>
    obtain ⟨s, n⟩ := r
    by_cases hrun : free = some s ∨ 2 ≤ n
    · rw [tapGroups_store hrun]
      exact Or.inl (List.cons_ne_nil _ _)
    · rw [tapGroups_skip hrun]
      exact ih (Or.inl (Nat.succ_pos _))

/-- The middle is right for a run that is met in full unless it ends with the last tap and starts at an odd one, and for
another run if it has an odd number of taps or ends with the last one. -/
def TapGroup.Middle (g : TapGroup) : Prop :=
  if g.full then g.start + g.length ≠ 32 ∨ g.start % 2 = 0 else g.start + g.length = 32 ∨ g.length % 2 = 1

/-- The delay for an interval -/
def TapInterval.delay (v : TapInterval) : ℕ := (v.startValid + v.startInvalid - 1) / 2

/-- The middle tap of a run -/
def middleTap (s n : ℕ) : ℕ := (s + (s + n - 1)) / 2

lemma middleTap_mem {s n : ℕ} (h : 0 < n) : s ≤ middleTap s n ∧ middleTap s n < s + n := by
  unfold middleTap
  lia

lemma middleTap_lt {p : ℕ → Prop} {len s n : ℕ} (h : IsLongest p len s n) : middleTap s n < len :=
  (middleTap_mem h.pos).2.trans_le h.run.le

lemma TapGroup.delay_eq_middleTap_iff (hpos : 0 < g.length) :
    g.interval.delay = middleTap g.start g.length ↔ g.Middle := by
  unfold TapInterval.delay middleTap TapGroup.Middle
  simp only [TapGroup.interval]
  split_ifs <;> lia

/-- The delay for an interval is in its run unless the run is the last tap alone, and then it is the tap before. -/
lemma TapGroup.delay_mem (hpos : 0 < g.length) :
    (g.start ≤ g.interval.delay ∧ g.interval.delay < g.start + g.length) ∨
      (0 < g.start ∧ g.interval.delay = g.start - 1) := by
  unfold TapInterval.delay
  simp only [TapGroup.interval]
  split_ifs <;> lia

end Groups

section Pick

variable {pass : ℕ → Bool} {g : TapGroup} {i : ℕ}

/-- The delay for an interval is right if and only if its run is a longest one and its middle is right. -/
lemma TapGroup.delay_longest_iff (hg : (g.start, g.length) ∈ runs pass none 0 32) :
    (∃ s n, IsLongest (fun tap => pass tap = true) 32 s n ∧ g.interval.delay = middleTap s n) ↔
      (∀ r ∈ runs pass none 0 32, r.2 ≤ g.length) ∧ g.Middle := by
  have hmax (r : ℕ × ℕ) (hr : r ∈ runs pass none 0 32) : IsMaxRun (fun tap => pass tap = true) 32 r.1 r.2 :=
    Reaches.zero.isMaxRun hr
  have hrun := hmax _ hg
  constructor
  · rintro ⟨s, n, hlongest, hdelay⟩
    obtain ⟨hmem, hall⟩ := isLongest_iff.mp hlongest
    obtain ⟨hfirst, hlast⟩ := middleTap_mem hlongest.pos
    rw [← hdelay] at hfirst hlast
    rcases delay_mem hrun.pos with ⟨hin, hin'⟩ | ⟨hstart, hbefore⟩
    · obtain ⟨hs, hn⟩ := hrun.unique (hmax _ hmem) hin hin' hfirst hlast
      change g.start = s at hs
      change g.length = n at hn
      rw [← hs, ← hn] at hdelay
      exact ⟨hn ▸ hall, (delay_eq_middleTap_iff hrun.pos).mp hdelay⟩
    · rw [hbefore] at hfirst hlast
      exact absurd (hlongest.run.all _ hfirst hlast) (hrun.before hstart)
  · rintro ⟨hall, hmiddle⟩
    exact ⟨g.start, g.length, isLongest_iff.mpr ⟨hg, hall⟩, (delay_eq_middleTap_iff hrun.pos).mpr hmiddle⟩

/-- The first tap is the middle of a run of at most two taps that starts with it. -/
lemma zero_longest_iff : (∃ s n, IsLongest (fun tap => pass tap = true) 32 s n ∧ 0 = middleTap s n) ↔
    ∃ n ≤ 2, (0, n) ∈ runs pass none 0 32 ∧ ∀ r ∈ runs pass none 0 32, r.2 ≤ n := by
  constructor
  · rintro ⟨s, n, hlongest, hzero⟩
    have hpos := hlongest.pos
    unfold middleTap at hzero
    obtain rfl : s = 0 := by lia
    exact ⟨n, by lia, isLongest_iff.mp hlongest⟩
  · rintro ⟨n, hn, hmem⟩
    refine ⟨0, n, isLongest_iff.mpr hmem, ?_⟩
    unfold middleTap
    lia

/-- The taps that are counted for an interval, or for none behind the last one -/
def tapCount (l : List (ℕ × ℕ)) (j : ℕ) : ℕ :=
  ((tapGroups (some 0) 0 l).1.map TapGroup.cnt ++ [(tapGroups (some 0) 0 l).2]).getD j 0

/-- There are places for the intervals, and the first of those with the most taps has a longest run and its middle, or
no run, where the first tap is the middle of a longest one. -/
def PicksMiddle (l : List (ℕ × ℕ)) : Prop :=
  (tapGroups (some 0) 0 l).1.length + min (tapGroups (some 0) 0 l).2 1 ≤ 5 ∧
    ∃ i, IsFirstMost (tapCount l) i ∧
      match (tapGroups (some 0) 0 l).1[i]? with
      | some g => (∀ r ∈ l, r.2 ≤ g.length) ∧ g.Middle
      | none => ∃ n ≤ 2, (0, n) ∈ l ∧ ∀ r ∈ l, r.2 ≤ n

/-- The delay for the interval at `i` -/
def groupDelay (l : List (ℕ × ℕ)) (i : ℕ) : ℕ :=
  match (tapGroups (some 0) 0 l).1[i]? with
  | some g => g.interval.delay
  | none => 0

lemma tapCount_pos {l : List (ℕ × ℕ)} (hne : l ≠ []) (hpos : ∀ r ∈ l, 0 < r.2) : 0 < tapCount l 0 := by
  rw [tapCount]
  cases hgroups : (tapGroups (some 0) 0 l).1 with
  | nil => exact (tapGroups_counted (Or.inr hne)).resolve_left fun h => h hgroups
  | cons g gs =>
    have hmem : g ∈ (tapGroups (some 0) 0 l).1 := by
      rw [hgroups]
      exact List.mem_cons_self
    have hlength : 0 < g.length := hpos _ (mem_of_mem_tapGroups hmem)
    change 0 < g.singles + g.length
    lia

lemma groupDelay_eq (l : List (ℕ × ℕ)) (i : ℕ) :
    ((((tapGroups (some 0) 0 l).1.map TapGroup.interval).map TapInterval.startValid).getD i 0 +
      (((tapGroups (some 0) 0 l).1.map TapGroup.interval).map TapInterval.startInvalid).getD i 0 - 1) / 2 =
    groupDelay l i := by
  rw [List.getD_eq_getElem?_getD, List.getD_eq_getElem?_getD, List.map_map, List.map_map, List.getElem?_map,
    List.getElem?_map, groupDelay]
  cases (tapGroups (some 0) 0 l).1[i]? with
  | none => rfl
  | some g => rfl

lemma calibratedDelay_spec {errField : List Bool} (herr : ∀ tap < 32, errField.getD tap false = !pass tap)
    (hne : runs pass none 0 32 ≠ []) :
    if (tapGroups (some 0) 0 (runs pass none 0 32)).1.length + min (tapGroups (some 0) 0 (runs pass none 0 32)).2 1 ≤ 5
    then ∃ i, IsFirstMost (tapCount (runs pass none 0 32)) i ∧
      calibratedDelay errField = some (UInt32.ofNat (groupDelay (runs pass none 0 32) i))
    else calibratedDelay errField = none := by
  have hmeets : TapScan.Meets (some 0) 0 0 ⟨.clean, [], 0⟩ none := ⟨rfl, Or.inl ⟨rfl, rfl⟩⟩
  have hrun : (TapScan.run pass ⟨.clean, [], 0⟩ 0 32).stored = _ ∧ _ :=
    hmeets.run rfl fun h => absurd h (by decide)
  have hscan := DelayScan.Refines.start.run (by decide : 0 + 32 ≤ 32) herr
  obtain ⟨hstored, hpending⟩ := hrun
  rw [List.nil_append] at hstored
  generalize TapScan.run pass ⟨.clean, [], 0⟩ 0 32 = a at hstored hpending hscan
  generalize hl : runs pass none 0 32 = l at hne hstored hpending ⊢
  have hfits : a.Fits ↔ (tapGroups (some 0) 0 l).1.length + min (tapGroups (some 0) 0 l).2 1 ≤ 5 := by
    rw [TapScan.Fits, hstored, hpending, List.length_map]
  rw [calibratedDelay, List.range_eq_range']
  by_cases h : a.Fits
  · rw [if_pos h] at hscan
    rw [if_pos (hfits.mp h)]
    obtain ⟨s, hs, hrefines⟩ := hscan
    have hcount : ∀ j, s.cntValid.getD j 0 = tapCount l j := by
      intro j
      rw [hrefines.cntValid, hstored, hpending, List.map_map]
      rfl
    have hlengths : ∀ r ∈ l, 0 < r.2 := by
      intro r hr
      rw [← hl] at hr
      exact (Reaches.zero.isMaxRun hr).pos
    have hfirst : IsFirstMost (fun j => s.cntValid.getD j 0) (maxInterval s.cntValid) := by
      apply maxInterval_spec
      · exact ⟨0, by decide, (tapCount_pos hne hlengths).trans_eq (hcount 0).symm⟩
      · intro j hj
        rw [List.getD_eq_getElem?_getD, List.getElem?_eq_none (by rw [hrefines.lengths.2.2]; exact hj)]
        rfl
    rw [funext hcount] at hfirst
    refine ⟨_, hfirst, ?_⟩
    rw [hs, ← groupDelay_eq, ← hstored, ← hrefines.validRange, ← hrefines.invalidRange]
    rfl
  · rw [if_neg h] at hscan
    rw [if_neg (mt hfits.mpr h), hscan]
    rfl

end Pick

section Calibrate

variable {adc : AxiAdc} {noOfLanes sel : UInt32} {status : ℕ → ℕ → UInt32}

/-- The monitors report no error with the delay `tap`. -/
def tapPasses (adc : AxiAdc) (sel : UInt32) (status : ℕ → ℕ → UInt32) (tap : ℕ) : Bool :=
  decide ((axiAdcPnMon adc sel (status tap)).1 = 0)

/-- The core and the failures after the first loop -/
def tapScan (adc : AxiAdc) (noOfLanes sel : UInt32) (status : ℕ → ℕ → UInt32) : AxiAdc × List Bool :=
  Passes.run (calibratePass noOfLanes sel status) 32 (adc, [])

lemma axiAdcDelaySet_numChannels (adc : AxiAdc) (noOfLanes delay : UInt32) :
    (axiAdcDelaySet adc noOfLanes delay).numChannels = adc.numChannels := by
  unfold axiAdcDelaySet
  dsimp only
  split_ifs <;> rfl

/-- The result of the monitors depends on the number of channels and on what the core reports of them. -/
lemma axiAdcPnMon_congr {adc' : AxiAdc} (h : adc'.numChannels = adc.numChannels) (report : ℕ → UInt32) :
    (axiAdcPnMon adc' sel report).1 = (axiAdcPnMon adc sel report).1 := by
  change (if ∀ ch < adc'.numChannels.toNat, report ch = 0 then SUCCESS else FAILURE) = _
  rw [h]
  rfl

lemma calibratePass_run (n : ℕ) :
    (Passes.run (calibratePass noOfLanes sel status) n (adc, [])).1.numChannels = adc.numChannels ∧
      (Passes.run (calibratePass noOfLanes sel status) n (adc, [])).2 =
        (List.range n).map fun tap => !tapPasses adc sel status tap := by
  induction n with
  | zero => exact ⟨rfl, rfl⟩
  | succ n ih =>
    obtain ⟨hchannels, herr⟩ := ih
    rw [Passes.run_succ]
    generalize Passes.run (calibratePass noOfLanes sel status) n (adc, []) = s at hchannels herr
    have hset := (axiAdcDelaySet_numChannels s.1 noOfLanes (UInt32.ofNat n)).trans hchannels
    constructor
    · exact hset
    · change s.2 ++ [decide ((axiAdcPnMon (axiAdcDelaySet s.1 noOfLanes (UInt32.ofNat n)) sel (status n)).1 ≠ 0)] = _
      rw [axiAdcPnMon_congr hset, herr, List.range_succ, List.map_append, List.map_singleton, tapPasses, ← decide_not]

lemma tapScan_getD {tap : ℕ} (h : tap < 32) :
    (tapScan adc noOfLanes sel status).2.getD tap false = !tapPasses adc sel status tap := by
  rw [tapScan, (calibratePass_run 32).2, List.getD_eq_getElem?_getD, List.getElem?_map, List.getElem?_range h]
  rfl

/-- The call succeeds if a tap passes, and then sets the middle tap of a longest run, which passes as well. -/
structure Calibrates (adc : AxiAdc) (noOfLanes sel : UInt32) (status : ℕ → ℕ → UInt32) (ret : Int) (adc' : AxiAdc) :
    Prop where
  success : ret = SUCCESS ↔ ∃ tap < 32, tapPasses adc sel status tap = true
  tap : ret = SUCCESS → ∃ s n, IsLongest (fun tap => tapPasses adc sel status tap = true) 32 s n ∧
    tapPasses adc sel status (middleTap s n) = true ∧
    calibratedDelay (tapScan adc noOfLanes sel status).2 = some (UInt32.ofNat (middleTap s n)) ∧
    adc' = axiAdcDelaySet (tapScan adc noOfLanes sel status).1 noOfLanes (UInt32.ofNat (middleTap s n))

lemma runs_eq_nil_iff {pass : ℕ → Bool} : runs pass none 0 32 = [] ↔ ¬∃ tap < 32, pass tap = true := by
  constructor
  · rintro hnil ⟨tap, hlt, hpass⟩
    obtain ⟨r, hr, -⟩ := @exists_mem_runs tap pass none 0 32 (Nat.zero_le tap) (by omega) fun _ => hpass
    rw [hnil] at hr
    exact List.not_mem_nil hr
  · intro hnone
    cases hruns : runs pass none 0 32 with
    | nil => rfl
    | cons r l =>
      have hmem : r ∈ runs pass none 0 32 := by
        rw [hruns]
        exact List.mem_cons_self
      have hrun : IsMaxRun (fun tap => pass tap = true) 32 r.1 r.2 := Reaches.zero.isMaxRun hmem
      have hle := hrun.run.le
      have hpos := hrun.pos
      exact absurd ⟨r.1, by lia, hrun.run.all _ (Nat.le_refl _) (by omega)⟩ hnone

lemma groupDelay_lt {pass : ℕ → Bool} (i : ℕ) : groupDelay (runs pass none 0 32) i < 32 := by
  unfold groupDelay
  cases hg : (tapGroups (some 0) 0 (runs pass none 0 32)).1[i]? with
  | none => exact Nat.zero_lt_succ 31
  | some g =>
    have hmax : IsMaxRun (fun tap => pass tap = true) 32 g.start g.length :=
      Reaches.zero.isMaxRun (mem_of_mem_tapGroups (List.mem_of_getElem? hg))
    have hle := hmax.run.le
    change g.interval.delay < 32
    rcases TapGroup.delay_mem hmax.pos with ⟨-, hlt⟩ | ⟨hpos, hbefore⟩
    · lia
    · lia

lemma groupDelay_longest_iff {pass : ℕ → Bool} (i : ℕ) :
    (∃ s n, IsLongest (fun tap => pass tap = true) 32 s n ∧ groupDelay (runs pass none 0 32) i = middleTap s n) ↔
      match (tapGroups (some 0) 0 (runs pass none 0 32)).1[i]? with
      | some g => (∀ r ∈ runs pass none 0 32, r.2 ≤ g.length) ∧ g.Middle
      | none => ∃ n ≤ 2, (0, n) ∈ runs pass none 0 32 ∧ ∀ r ∈ runs pass none 0 32, r.2 ≤ n := by
  unfold groupDelay
  cases hg : (tapGroups (some 0) 0 (runs pass none 0 32)).1[i]? with
  | none => exact zero_longest_iff
  | some g => exact TapGroup.delay_longest_iff (mem_of_mem_tapGroups (List.mem_of_getElem? hg))

lemma ofNat_tap_inj {a b : ℕ} (ha : a < 32) (hb : b < 32) (h : UInt32.ofNat a = UInt32.ofNat b) : a = b := by
  have hnat := congrArg UInt32.toNat h
  rwa [UInt32.toNat_ofNat_of_lt' (ha.trans (by decide)), UInt32.toNat_ofNat_of_lt' (hb.trans (by decide))] at hnat

/-- A middle tap is picked if and only if no tap passes or the runs are grouped so that it is. -/
theorem calibrates_iff (adc : AxiAdc) (noOfLanes sel : UInt32) (status : ℕ → ℕ → UInt32) :
    (∃ ret adc', axiAdcDelayCalibrate adc noOfLanes sel status = some (ret, adc') ∧
        Calibrates adc noOfLanes sel status ret adc') ↔
      runs (tapPasses adc sel status) none 0 32 = [] ∨ PicksMiddle (runs (tapPasses adc sel status) none 0 32) := by
  have hcall : axiAdcDelayCalibrate adc noOfLanes sel status =
      if ∀ err ∈ (tapScan adc noOfLanes sel status).2, err = true then
        some (FAILURE, axiAdcDelaySet (tapScan adc noOfLanes sel status).1 noOfLanes 0)
      else (calibratedDelay (tapScan adc noOfLanes sel status).2).map fun delay =>
        (SUCCESS, axiAdcDelaySet (tapScan adc noOfLanes sel status).1 noOfLanes delay) := rfl
  have hall : (∀ err ∈ (tapScan adc noOfLanes sel status).2, err = true) ↔
      runs (tapPasses adc sel status) none 0 32 = [] := by
    rw [runs_eq_nil_iff, tapScan, (calibratePass_run 32).2]
    simp
  rw [hcall]
  by_cases hnone : runs (tapPasses adc sel status) none 0 32 = []
  · rw [if_pos (hall.mpr hnone)]
    have hfail : ¬(FAILURE : Int) = SUCCESS := by decide
    have hcal := iff_of_false hfail (runs_eq_nil_iff.mp hnone)
    exact iff_of_true ⟨_, _, rfl, ⟨hcal, fun h => absurd h hfail⟩⟩ (Or.inl hnone)
  · rw [if_neg (mt hall.mp hnone), or_iff_right hnone]
    have hpasses := not_not.mp (mt runs_eq_nil_iff.mpr hnone)
    have hspec := calibratedDelay_spec (fun tap h => @tapScan_getD adc noOfLanes sel status tap h) hnone
    by_cases hfits : (tapGroups (some 0) 0 (runs (tapPasses adc sel status) none 0 32)).1.length +
        min (tapGroups (some 0) 0 (runs (tapPasses adc sel status) none 0 32)).2 1 ≤ 5
    · rw [if_pos hfits] at hspec
      obtain ⟨i, hfirst, hdelay⟩ := hspec
      have hright := @groupDelay_longest_iff (tapPasses adc sel status) i
      rw [hdelay, Option.map_some]
      constructor
      · rintro ⟨ret, adc', hsome, hcal⟩
        obtain ⟨rfl, rfl⟩ := Prod.mk.inj (Option.some.inj hsome)
        obtain ⟨s, n, hlongest, -, hmiddle, -⟩ := hcal.tap rfl
        rw [hdelay] at hmiddle
        refine ⟨hfits, i, hfirst, hright.mp ⟨s, n, hlongest, ?_⟩⟩
        exact ofNat_tap_inj (groupDelay_lt i) (middleTap_lt hlongest) (Option.some.inj hmiddle)
      · rintro ⟨-, i', hfirst', hpick⟩
        obtain rfl := hfirst.unique hfirst'
        obtain ⟨s, n, hlongest, hmiddle⟩ := hright.mpr hpick
        obtain ⟨hle, hlt⟩ := middleTap_mem hlongest.pos
        have hpass := hlongest.run.all _ hle hlt
        refine ⟨_, _, rfl, ⟨iff_of_true rfl hpasses, fun _ => ⟨s, n, hlongest, hpass, ?_, ?_⟩⟩⟩
        · rw [hdelay, hmiddle]
        · rw [hmiddle]
    · rw [if_neg hfits] at hspec
      rw [hspec]
      apply iff_of_false
      · rintro ⟨ret, adc', hsome, -⟩
        exact absurd hsome nofun
      · exact fun h => hfits h.1

/-- If every other tap passes then none of the runs is stored, and the first tap is set, which fails. -/
theorem not_calibrates : ¬∀ (adc : AxiAdc) (noOfLanes sel : UInt32) (status : ℕ → ℕ → UInt32), ∃ ret adc',
    axiAdcDelayCalibrate adc noOfLanes sel status = some (ret, adc') ∧
      Calibrates adc noOfLanes sel status ret adc' := by
  intro h
  obtain ⟨ret, adc', -, hcal⟩ := h ⟨1, 0, fun _ => 0xA0000⟩ 1 0 fun tap _ => if tap % 2 = 1 then 0 else 1
  obtain ⟨s, n, hlongest, hpasses, hdelay, -⟩ := hcal.tap (hcal.success.mpr ⟨1, by decide, by decide⟩)
  rw [tapScan, (calibratePass_run 32).2] at hdelay
  have hzero : UInt32.ofNat 0 = UInt32.ofNat (middleTap s n) := by
    apply Option.some.inj
    rw [← hdelay]
    decide
  rw [← ofNat_tap_inj (by decide) (middleTap_lt hlongest) hzero] at hpasses
  revert hpasses
  decide

end Calibrate

end NoOS
