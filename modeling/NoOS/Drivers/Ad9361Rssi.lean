import Mathlib.Tactic.IntervalCases
import Mathlib.Tactic.Linarith
import NoOS.Lib.GreedyPowers
import NoOS.Util.Util

/-!
# The RSSI measurement of the AD9361

A measurement is made of up to four durations that are powers of two, with a weight for each of them. The weights
are rounded, and the last one takes what the others leave of 255.
-/

namespace NoOS
open GreedyPowers

def REG_MEASURE_DURATION_01 : UInt32 := 0x150
def REG_MEASURE_DURATION_23 : UInt32 := 0x151
def REG_RSSI_WEIGHT_0 : UInt32 := 0x152
def REG_RSSI_WEIGHT_1 : UInt32 := 0x153
def REG_RSSI_WEIGHT_2 : UInt32 := 0x154
def REG_RSSI_WEIGHT_3 : UInt32 := 0x155
def REG_RSSI_DELAY : UInt32 := 0x156
def REG_RSSI_WAIT_TIME : UInt32 := 0x157
def REG_RSSI_CONFIG : UInt32 := 0x158
def START_RSSI_MEAS : UInt32 := 0x20
def DEFAULT_RSSI_MEAS_MODE : UInt32 := 0x1
def RSSI_MODE_SELECT (x : UInt32) : UInt32 := (x &&& 0x7) <<< 2
def RSSI_MAX_WEIGHT : UInt32 := 255

inductive RssiRestartMode
  | agcInFastAttackModeLocksTheGain
  | enAgcPinIsPulledHigh
  | entersRxMode
  | gainChangeOccurs
  | spiWriteToRegister
  | gainChangeOccursOrEnAgcPinPulledHigh
deriving DecidableEq

def RssiRestartMode.toWord : RssiRestartMode → UInt32
  | .agcInFastAttackModeLocksTheGain => 0
  | .enAgcPinIsPulledHigh => 1
  | .entersRxMode => 2
  | .gainChangeOccurs => 3
  | .spiWriteToRegister => 4
  | .gainChangeOccursOrEnAgcPinPulledHigh => 5

structure RssiControl where
  restartMode : RssiRestartMode
  /-- The default unit is time, in us. -/
  rssiUnitIsRxSamples : Bool
  rssiDelay : UInt32
  rssiWait : UInt32
  rssiDuration : UInt32

structure RssiLoop where
  /-- `dur_buf[0]` to `dur_buf[j - 1]` -/
  durBuf : List ℕ
  totalDur : UInt32
  /-- `rssi_duration`, which is signed -/
  duration : ℤ

/-- The `for` loop, which ends with the first power that is not above the duration. -/
def RssiLoop.pass (s : RssiLoop) : RssiLoop :=
  match (List.range 15).reverse.find? fun i => 0 < s.duration ∧ s.duration ≥ 2 ^ i with
  | none => s
  | some i => ⟨s.durBuf ++ [i], s.totalDur + (1 : UInt32) <<< UInt32.ofNat i, s.duration - 2 ^ i⟩

/-- The `do` loop with `n` passes. -/
def rssiLoop : ℕ → RssiLoop → Option RssiLoop
  | 0, _ => none
  | n + 1, s =>
    let s := s.pass
    if s.durBuf.length < 4 ∧ 0 < s.duration then rssiLoop n s else some s

/-- The weights, unless `weight[j - 1]` is outside of the array. -/
def rssiWeights (durBuf : List ℕ) (totalDur : UInt32) : Option (List UInt32) :=
  let weight := durBuf.map fun i => divRoundClosest (RSSI_MAX_WEIGHT * (1 : UInt32) <<< UInt32.ofNat i) totalDur
  if durBuf = [] then none
  else
    let val := weight.sum - 0xFF
    some (weight.dropLast ++ [weight.getLastD 0 - val] ++ List.replicate (4 - durBuf.length) 0)

/-- What is programmed. -/
structure RssiProgram where
  durBuf : List ℕ
  weight : List UInt32
  rssiDelay : UInt32
  rssiWait : UInt32
  config : UInt32

namespace RssiProgram

/-- `dur_buf[k]`, which is 0 from the start. -/
def dur (p : RssiProgram) (k : ℕ) : UInt32 := UInt32.ofNat (p.durBuf.getD k 0)

/-- The calls of `ad9361_spi_write`. -/
def writes (p : RssiProgram) : List (UInt32 × UInt32) :=
  [(REG_MEASURE_DURATION_01, (p.dur 1 <<< 4) ||| p.dur 0), (REG_MEASURE_DURATION_23, (p.dur 3 <<< 4) ||| p.dur 2),
    (REG_RSSI_WEIGHT_0, p.weight.getD 0 0), (REG_RSSI_WEIGHT_1, p.weight.getD 1 0),
    (REG_RSSI_WEIGHT_2, p.weight.getD 2 0), (REG_RSSI_WEIGHT_3, p.weight.getD 3 0),
    (REG_RSSI_DELAY, p.rssiDelay), (REG_RSSI_WAIT_TIME, p.rssiWait), (REG_RSSI_CONFIG, p.config)]

end RssiProgram

/-- The samples for a setting of the control. -/
def RssiControl.samples (ctrl : RssiControl) (rxSamplClk val : UInt32) : UInt32 :=
  if ctrl.rssiUnitIsRxSamples then val
  else
    let rate := divRoundClosest rxSamplClk 1000
    divRoundClosest (val * rate) 1000

/-- `ad9361_rssi_setup` with at most `n` passes of the loop. An update of samples has nothing to program. -/
def ad9361RssiSetup (n : ℕ) (ctrl : RssiControl) (rxSamplClk : UInt32) (isUpdate : Bool) : Option (Option RssiProgram) :=
  if ctrl.rssiUnitIsRxSamples ∧ isUpdate then some none
  else do
    let rssiDelay := if ctrl.restartMode = .enAgcPinIsPulledHigh then 0 else ctrl.samples rxSamplClk ctrl.rssiDelay
    let rssiWait := ctrl.samples rxSamplClk ctrl.rssiWait
    let rssiDuration := ctrl.samples rxSamplClk ctrl.rssiDuration
    let s ← rssiLoop n ⟨[], 0, rssiDuration.toInt32.toInt⟩
    let weight ← rssiWeights s.durBuf s.totalDur
    let temp := RSSI_MODE_SELECT ctrl.restartMode.toWord
    let temp := if ctrl.restartMode = .spiWriteToRegister then temp ||| START_RSSI_MEAS else temp
    let temp := if s.duration = 0 ∧ s.durBuf.length = 1 then temp ||| DEFAULT_RSSI_MEAS_MODE else temp
    some (some ⟨s.durBuf, weight, clamp (rssiDelay / 8) 0 255, clamp (rssiWait / 4) 0 255, temp⟩)

/-- The requested number of samples, with an unlimited precision of the products. -/
def RssiControl.requested (ctrl : RssiControl) (rxSamplClk : UInt32) : ℕ :=
  if ctrl.rssiUnitIsRxSamples then ctrl.rssiDuration.toNat
  else (ctrl.rssiDuration.toNat * ((rxSamplClk.toNat + 500) / 1000) + 500) / 1000

/-- Twice the distance of a weight from the share of its duration, in parts of the sum `total`. -/
def weightError (total i : ℕ) (weight : UInt32) : ℤ := |2 * (255 * 2 ^ i - weight.toNat * total : ℤ)|

/-- The durations are the best ones for `n` samples, and the weights are their shares of 255. -/
structure RssiProgram.Right (p : RssiProgram) (n : ℕ) : Prop where
  durations : p.durBuf = greedy 14 4 n
  greatest : IsGreatest {s | Reaches 14 4 s ∧ s ≤ n} (total p.durBuf)
  length : p.weight.length = 4
  fit : ∀ w ∈ p.weight, w.toNat ≤ 255
  sum : (p.weight.map UInt32.toNat).sum = 255
  close : ∀ k i w, p.durBuf[k]? = some i → p.weight[k]? = some w →
    weightError (total p.durBuf) i w ≤ if k + 1 = p.durBuf.length then 4 * total p.durBuf else total p.durBuf
  unused : ∀ k w, p.durBuf.length ≤ k → p.weight[k]? = some w → w = 0

/-- The sums of four powers for which the first three weights are rounded to 256 together. -/
def roundedAbove : List ℕ :=
  [1289, 2577, 2578, 3081, 4289, 5153, 5154, 5156, 6161, 6162, 8577, 8578, 9473, 10305, 10306, 10308, 10312, 12321, 12322,
    12324, 17153, 17154, 17156, 17665, 18945, 18946, 20609, 20610, 20612, 20616, 20624, 24641, 24642, 24644, 24648, 33025,
    33026, 33281, 33282, 33284, 33288, 33793, 33794, 33796, 33800, 33808, 33824]

/-- The number of samples is positive and signed, no product has wrapped below four of the largest durations, and the
sum of the durations for it is none of the exceptions. -/
structure RssiControl.Measurable (ctrl : RssiControl) (rxSamplClk : UInt32) : Prop where
  pos : 0 < (ctrl.samples rxSamplClk ctrl.rssiDuration).toNat
  signed : (ctrl.samples rxSamplClk ctrl.rssiDuration).toNat < 2 ^ 31
  exact : (ctrl.samples rxSamplClk ctrl.rssiDuration).toNat = ctrl.requested rxSamplClk ∨
    4 * 2 ^ 14 ≤ (ctrl.samples rxSamplClk ctrl.rssiDuration).toNat
  rounded : total (greedy 14 4 (ctrl.samples rxSamplClk ctrl.rssiDuration).toNat) ∉ roundedAbove

variable {top k n i r t : ℕ} {c init : List ℕ} {s : RssiLoop} {ctrl : RssiControl} {rxSamplClk : UInt32}

lemma toNat_power (hi : i ≤ 14) : ((1 : UInt32) <<< UInt32.ofNat i).toNat = 2 ^ i := by
  have hsmall : i < 32 := by omega
  have hpow : 2 ^ i < 2 ^ 32 := Nat.pow_lt_pow_right (by decide) hsmall
  rw [UInt32.toNat_shiftLeft, UInt32.toNat_ofNat_of_lt' (hsmall.trans (by decide)), Nat.mod_eq_of_lt hsmall,
    Nat.shiftLeft_eq]
  change 1 * 2 ^ i % 2 ^ 32 = 2 ^ i
  rw [Nat.one_mul, Nat.mod_eq_of_lt hpow]

lemma power_eq (hi : i ≤ 14) : (1 : UInt32) <<< UInt32.ofNat i = UInt32.ofNat (2 ^ i) := by
  apply UInt32.toNat_inj.mp
  rw [toNat_power hi, UInt32.toNat_ofNat_of_lt' ((Nat.pow_le_pow_right (by decide) hi).trans_lt (by decide))]

lemma pass_of_nonpos (h : s.duration ≤ 0) : s.pass = s := by
  have hnone : ((List.range 15).reverse.find? fun i => 0 < s.duration ∧ s.duration ≥ 2 ^ i) = none := by
    rw [List.find?_eq_none]
    intro i _
    rw [decide_eq_true_iff]
    omega
  rw [RssiLoop.pass, hnone]

lemma pass_of_pos (hr : s.duration = r) (hpos : r ≠ 0) : s.pass = ⟨s.durBuf ++ [min 14 r.log2],
    s.totalDur + UInt32.ofNat (2 ^ min 14 r.log2), ((r - 2 ^ min 14 r.log2 : ℕ) : ℤ)⟩ := by
  have hfits := (@largest_spec 14 r hpos).1
  have hfind : ((List.range 15).reverse.find? fun i => 0 < s.duration ∧ s.duration ≥ 2 ^ i) = some (min 14 r.log2) := by
    rw [← @find_largest 14 r hpos]
    congr 1
    funext i
    rw [decide_eq_decide, hr]
    constructor
    · rintro ⟨-, hle⟩
      exact_mod_cast hle
    · intro hle
      exact ⟨by lia, by exact_mod_cast hle⟩
  rw [RssiLoop.pass, hfind]
  dsimp only
  rw [power_eq (min_le_left _ _), hr]
  congr 1
  push_cast [Nat.cast_sub hfits]
  rfl

lemma rssiLoop_of_nat (hr : s.duration = r) (hlen : s.durBuf.length + (k + 1) = 4) (hk : k + 1 ≤ n) :
    rssiLoop n s = some ⟨s.durBuf ++ greedy 14 (k + 1) r, s.totalDur + UInt32.ofNat (total (greedy 14 (k + 1) r)),
      ((r - total (greedy 14 (k + 1) r) : ℕ) : ℤ)⟩ := by
  induction n generalizing k r s with
  | zero => exact absurd hk (Nat.not_succ_le_zero k)
  | succ n ih =>
    rw [rssiLoop]
    by_cases hpos : r = 0
    · have hdone : s.duration = 0 := by rw [hr, hpos, Nat.cast_zero]
      have hend : ¬(s.durBuf.length < 4 ∧ 0 < s.duration) := fun hc => hc.2.ne' hdone
      rw [pass_of_nonpos hdone.le, if_neg hend, hpos, greedy_zero, List.append_nil, total_nil, Nat.sub_self,
        Nat.cast_zero, ← hdone]
      exact congrArg some (congrArg (RssiLoop.mk s.durBuf · s.duration) (UInt32.add_zero _).symm)
    · rw [pass_of_pos hr hpos, greedy, if_neg hpos]
      rw [total_cons, UInt32.ofNat_add, ← UInt32.add_assoc, ← Nat.sub_sub]
      generalize r - 2 ^ min 14 r.log2 = rest
      rw [List.append_cons s.durBuf _ (greedy 14 k rest)]
      dsimp only
      split_ifs with hmore
      · rw [List.length_append, List.length_singleton] at hmore
        obtain ⟨j, rfl⟩ : ∃ j, k = j + 1 := ⟨k - 1, by lia⟩
        exact ih rfl (by rw [List.length_append, List.length_singleton]; lia) (by lia)
      · have hempty : greedy 14 k rest = [] := by
          rw [List.length_append, List.length_singleton] at hmore
          rcases Nat.eq_zero_or_pos rest with hzero | hrestpos
          · rw [hzero, greedy_zero]
          · have hk0 : k = 0 := by lia
            rw [hk0, greedy]
        rw [hempty, List.append_nil, total_nil, Nat.sub_zero]
        exact congrArg some (congrArg (RssiLoop.mk _ · _) (UInt32.add_zero _).symm)

/-- There is no duration when the number of samples is not positive. -/
lemma rssiLoop_of_nonpos (h : s.duration ≤ 0) : rssiLoop (n + 1) s = some s := by
  have hend : ¬(s.durBuf.length < 4 ∧ 0 < s.duration) := fun hc => h.not_gt hc.2
  rw [rssiLoop, pass_of_nonpos h, if_neg hend]

/-- The weight of a duration before the correction. -/
def share (t i : ℕ) : ℕ := (255 * 2 ^ i + t / 2) / t

/-- The weights for the durations `init` and one more. -/
def sharesOf (t : ℕ) (init : List ℕ) : List UInt32 :=
  init.map (fun i => UInt32.ofNat (share t i)) ++ [255 - UInt32.ofNat (init.map (share t)).sum] ++
    List.replicate (3 - init.length) 0

lemma share_le (ht : 2 ^ i ≤ t) : share t i ≤ 255 := by
  have hpos : 0 < t := (Nat.two_pow_pos i).trans_le ht
  rw [share, ← Nat.lt_succ_iff, Nat.div_lt_iff_lt_mul hpos]
  lia

lemma share_close (ht : 0 < t) : |2 * (255 * 2 ^ i - share t i * t : ℤ)| ≤ t := by
  have hdiv := Nat.div_add_mod (255 * 2 ^ i + t / 2) t
  have hmod := Nat.mod_lt (255 * 2 ^ i + t / 2) ht
  change t * share t i + _ = _ at hdiv
  rw [Nat.mul_comm] at hdiv
  have hcast : ((share t i * t : ℕ) : ℤ) + ((255 * 2 ^ i + t / 2) % t : ℕ) = 255 * 2 ^ i + ((t / 2 : ℕ) : ℤ) := by
    exact_mod_cast hdiv
  rw [Nat.cast_mul] at hcast
  rw [abs_le]
  lia

lemma shares_close (ht : 0 < t) (c : List ℕ) :
    |2 * (255 * total c - (c.map (share t)).sum * t : ℤ)| ≤ c.length * t := by
  induction c with
  | nil => simp
  | cons i c ih =>
    have hone := @share_close i t ht
    rw [abs_le] at ih hone ⊢
    rw [total_cons, List.map_cons, List.sum_cons, List.length_cons]
    generalize (c.map (share t)).sum = m at ih ⊢
    push_cast
    constructor
    · linarith only [ih.1, hone.1]
    · linarith only [ih.2, hone.2]

lemma toNat_weight (hi : 2 ^ i ≤ t) (ht : t ≤ 4 * 2 ^ 14) (h14 : i ≤ 14) :
    divRoundClosest (RSSI_MAX_WEIGHT * (1 : UInt32) <<< UInt32.ofNat i) (UInt32.ofNat t) = UInt32.ofNat (share t i) := by
  have hpow : 2 ^ i ≤ 2 ^ 14 := Nat.pow_le_pow_right (by decide) h14
  have hmul : (RSSI_MAX_WEIGHT * (1 : UInt32) <<< UInt32.ofNat i).toNat = 255 * 2 ^ i := by
    rw [UInt32.toNat_mul, toNat_power h14]
    exact Nat.mod_eq_of_lt (by change 255 * 2 ^ i < _; lia)
  have htot : (UInt32.ofNat t).toNat = t := UInt32.toNat_ofNat_of_lt' (ht.trans_lt (by decide))
  apply UInt32.toNat_inj.mp
  rw [toNat_divRoundClosest (by rw [hmul, htot]; lia), hmul, htot,
    UInt32.toNat_ofNat_of_lt' ((share_le hi).trans_lt (by decide))]
  rfl

lemma rssiWeights_append (hle : ∀ j ∈ init ++ [i], 2 ^ j ≤ t ∧ j ≤ 14) (ht : t ≤ 4 * 2 ^ 14) :
    rssiWeights (init ++ [i]) (UInt32.ofNat t) = some (sharesOf t init) := by
  have hweight : (init ++ [i]).map (fun j => divRoundClosest (RSSI_MAX_WEIGHT * (1 : UInt32) <<< UInt32.ofNat j)
      (UInt32.ofNat t)) = init.map (fun j => UInt32.ofNat (share t j)) ++ [UInt32.ofNat (share t i)] := by
    rw [← List.map_singleton (f := fun j => UInt32.ofNat (share t j)), ← List.map_append]
    exact List.map_congr_left fun j hj => toNat_weight (hle j hj).1 ht (hle j hj).2
  have hsum : (init.map (fun j => UInt32.ofNat (share t j))).sum = UInt32.ofNat (init.map (share t)).sum := by
    clear hle hweight
    induction init with
    | nil => rfl
    | cons j c ih => rw [List.map_cons, List.sum_cons, ih, List.map_cons, List.sum_cons, UInt32.ofNat_add]
  rw [rssiWeights, hweight]
  dsimp only
  rw [if_neg (List.append_ne_nil_of_right_ne_nil _ (List.cons_ne_nil _ _)), List.dropLast_concat, List.sum_append,
    List.getLastD_concat, List.sum_singleton, hsum, List.length_append, List.length_singleton, sharesOf]
  have hlast : UInt32.ofNat (share t i) - (UInt32.ofNat (init.map (share t)).sum + UInt32.ofNat (share t i) - 0xFF) =
      255 - UInt32.ofNat (init.map (share t)).sum := by
    grind
  rw [hlast, Nat.add_sub_add_right 3 1]

lemma toNat_rest {m : ℕ} (h : m ≤ 255) : (255 - UInt32.ofNat m : UInt32).toNat = 255 - m := by
  have hm : (UInt32.ofNat m).toNat = m := UInt32.toNat_ofNat_of_lt' (h.trans_lt (by decide))
  rw [Word.toNat_sub_of_le (by rw [hm]; exact h), hm]
  rfl

lemma toNat_rest_of_lt {m : ℕ} (h : 255 < m) (hm : m ≤ 765) : 255 < (255 - UInt32.ofNat m : UInt32).toNat := by
  have hnat : (UInt32.ofNat m).toNat = m := UInt32.toNat_ofNat_of_lt' (hm.trans_lt (by decide))
  rw [UInt32.toNat_sub, hnat]
  change 255 < (2 ^ 32 - m + 255) % 2 ^ 32
  lia

lemma sum_share_le (hle : ∀ j ∈ init, 2 ^ j ≤ t) : (init.map (share t)).sum ≤ init.length * 255 := by
  rw [← List.length_map (share t), ← smul_eq_mul]
  refine List.sum_le_card_nsmul _ _ fun x hx => ?_
  obtain ⟨j, hj, rfl⟩ := List.mem_map.mp hx
  exact share_le (hle j hj)

lemma sharesOf_fit_iff (hle : ∀ j ∈ init, 2 ^ j ≤ t) (hlen : init.length ≤ 3) :
    (∀ w ∈ sharesOf t init, w.toNat ≤ 255) ↔ (init.map (share t)).sum ≤ 255 := by
  constructor
  · intro h
    have hlast := h (255 - UInt32.ofNat (init.map (share t)).sum) (by simp [sharesOf])
    by_contra hlt
    have hsum := sum_share_le hle
    exact (toNat_rest_of_lt (Nat.lt_of_not_le hlt) (by lia)).not_ge hlast
  · intro h w hw
    rw [sharesOf, List.mem_append, List.mem_append, List.mem_map, List.mem_singleton, List.mem_replicate] at hw
    rcases hw with (⟨j, hj, rfl⟩ | rfl) | ⟨-, rfl⟩
    · rw [UInt32.toNat_ofNat_of_lt' ((share_le (hle j hj)).trans_lt (by decide))]
      exact share_le (hle j hj)
    · rw [toNat_rest h]
      exact Nat.sub_le _ _
    · exact Nat.zero_le _

lemma sum_sharesOf (h : (init.map (share t)).sum ≤ 255) (hle : ∀ j ∈ init, 2 ^ j ≤ t) :
    ((sharesOf t init).map UInt32.toNat).sum = 255 := by
  have hshares : (init.map fun i => (UInt32.ofNat (share t i)).toNat) = init.map (share t) :=
    List.map_congr_left fun j hj => UInt32.toNat_ofNat_of_lt' ((share_le (hle j hj)).trans_lt (by decide))
  rw [sharesOf, List.map_append, List.map_append, List.map_map, List.map_singleton, toNat_rest h, List.map_replicate,
    List.sum_append, List.sum_append, List.sum_singleton, List.sum_replicate]
  change (init.map fun i => (UInt32.ofNat (share t i)).toNat).sum + _ + _ = _
  rw [hshares]
  change _ + _ + (3 - init.length) * 0 = _
  lia

/-- The durations before the last one are rounded by at most a half, the last one takes their errors. -/
lemma sharesOf_close (htot : total (init ++ [i]) = t) (hlen : init.length ≤ 3) (h : (init.map (share t)).sum ≤ 255)
    {j l : ℕ} {w : UInt32} (hj : (init ++ [i])[l]? = some j) (hw : (sharesOf t init)[l]? = some w) :
    weightError t j w ≤ if l + 1 = (init ++ [i]).length then 4 * t else t := by
  have htot' := htot
  rw [total_concat] at htot'
  have hpos : 0 < t := (Nat.two_pow_pos i).trans_le (htot' ▸ Nat.le_add_left _ _)
  have hinit : ∀ j ∈ init, 2 ^ j ≤ t := fun j hj => htot ▸ pow_le_total (List.mem_append_left _ hj)
  rw [weightError, List.length_append, List.length_singleton]
  by_cases hl : l < init.length
  · rw [List.getElem?_append_left hl] at hj
    rw [sharesOf, List.append_assoc, List.getElem?_append_left (by rwa [List.length_map]), List.getElem?_map, hj] at hw
    obtain rfl := Option.some.inj hw
    rw [if_neg (by lia), UInt32.toNat_ofNat_of_lt' ((share_le (hinit j (List.mem_of_getElem? hj))).trans_lt (by decide))]
    exact share_close hpos
  · have hlast : l = init.length := by
      have hin := (List.getElem?_eq_some_iff.mp hj).1
      rw [List.length_append, List.length_singleton] at hin
      lia
    rw [hlast, List.getElem?_concat_length] at hj
    obtain rfl := Option.some.inj hj
    rw [sharesOf, hlast, List.append_assoc, List.getElem?_append_right (by rw [List.length_map]), List.length_map,
      Nat.sub_self] at hw
    obtain rfl := Option.some.inj hw
    rw [if_pos (by rw [hlast]), toNat_rest h]
    have hclose := shares_close hpos init
    have hcount : (init.length : ℤ) * t ≤ 3 * t := mul_le_mul_of_nonneg_right (by exact_mod_cast hlen) (Nat.cast_nonneg t)
    have hnonneg : (0 : ℤ) ≤ t := Nat.cast_nonneg t
    have htotal : (total init : ℤ) = t - 2 ^ i := by
      rw [← htot']
      push_cast
      exact (add_sub_cancel_right _ _).symm
    rw [htotal, abs_le] at hclose
    generalize (init.map (share t)).sum = m at hclose h ⊢
    rw [Nat.cast_sub h, Nat.cast_mul, abs_le]
    push_cast
    constructor
    · linarith only [hclose.2, hcount, hnonneg]
    · linarith only [hclose.1, hcount, hnonneg]

/-- What can be after `i` in a list of the powers. -/
def followers (i : ℕ) : List ℕ := List.range (if i = 14 then 15 else i)

/-- `p` holds of `c` and at most `k` more powers, of which the first one is from `next`. -/
def allAfter (p : List ℕ → Bool) : ℕ → List ℕ → List ℕ → Bool
  | 0, c, _ => p c
  | k + 1, c, next => p c && next.all fun i => allAfter p k (c ++ [i]) (followers i)

/-- Where the first weights do not fit into 255, the sum is an exception. -/
def roundedLow (c : List ℕ) : Bool :=
  Nat.ble (c.dropLast.map (share (total c))).sum 255 || roundedAbove.any (Nat.beq (total c))

lemma roundedLow_all : allAfter roundedLow 4 [] (List.range 15) = true := by
  have hfirst : ∀ i < 15, allAfter roundedLow 3 [i] (followers i) = true := by
    intro i hi
    interval_cases i <;> decide +kernel
  refine (Bool.and_eq_true _ _).mpr ⟨by decide, List.all_eq_true.mpr fun i hi => ?_⟩
  exact hfirst i (List.mem_range.mp hi)

lemma roundedAbove_high : ∀ x ∈ roundedAbove, ¬((greedy 14 4 x).dropLast.map (share (total (greedy 14 4 x)))).sum ≤ 255 := by
  decide

lemma allAfter_self {p : List ℕ → Bool} {next : List ℕ} (h : allAfter p k c next = true) : p c = true := by
  cases k with
  | zero => exact h
  | succ k => exact ((Bool.and_eq_true _ _).mp h).1

lemma allAfter_append {p : List ℕ → Bool} {next : List ℕ} (h : allAfter p k c next = true) {d : List ℕ}
    (hlen : d.length ≤ k) (hnext : ∀ i ∈ d.head?, i ∈ next) (hle : ∀ i ∈ d, i ≤ 14)
    (hd : d.IsChain fun i j => j < i ∨ i = 14) : p (c ++ d) = true := by
  induction k generalizing c d next with
  | zero =>
    rw [List.length_eq_zero_iff.mp (Nat.le_zero.mp hlen), List.append_nil]
    exact h
  | succ k ih =>
    cases d with
    | nil =>
      rw [List.append_nil]
      exact allAfter_self h
    | cons i d =>
      have hall := List.all_eq_true.mp ((Bool.and_eq_true _ _).mp h).2 i (hnext i rfl)
      rw [List.append_cons]
      rw [List.isChain_cons] at hd
      refine ih hall (Nat.succ_le_succ_iff.mp hlen) (fun j hj => ?_) (fun j hj => hle j (List.mem_cons_of_mem _ hj)) hd.2
      have hj14 := hle j (List.mem_cons_of_mem _ (List.mem_of_mem_head? hj))
      rw [followers, List.mem_range]
      rcases hd.1 j hj with hlt | htop
      · split_ifs <;> omega
      · rw [if_pos htop]
        omega

lemma shares_le_iff : ((greedy 14 4 r).dropLast.map (share (total (greedy 14 4 r)))).sum ≤ 255 ↔
    total (greedy 14 4 r) ∉ roundedAbove := by
  constructor
  · intro hle hmem
    have hhigh := roundedAbove_high _ hmem
    rw [greedy_total_greedy] at hhigh
    exact hhigh hle
  · intro hmem
    have hall := allAfter_append roundedLow_all (@greedy_length_le 14 4 r)
      (fun i hi => List.mem_range.mpr (Nat.lt_succ_iff.mpr (greedy_mem_le (List.mem_of_mem_head? hi))))
      (fun i => greedy_mem_le) greedy_chain
    rw [List.nil_append, roundedLow, Bool.or_eq_true, Nat.ble_eq, List.any_eq_true] at hall
    rcases hall with hle | ⟨x, hx, heq⟩
    · exact hle
    · rw [Nat.eq_of_beq_eq_true heq] at hmem
      exact absurd hx hmem

lemma samples_eq : (ctrl.samples rxSamplClk ctrl.rssiDuration).toNat = ctrl.requested rxSamplClk ∨
    (ctrl.samples rxSamplClk ctrl.rssiDuration).toNat = 0 ∨ 4 * 2 ^ 14 ≤ ctrl.requested rxSamplClk := by
  rw [RssiControl.samples, RssiControl.requested]
  split_ifs with hunit
  · exact Or.inl rfl
  · have hround : ∀ x : UInt32, (divRoundClosest x 1000).toNat = (x.toNat + 500) % 2 ^ 32 / 1000 := fun x => rfl
    have hclk := rxSamplClk.toNat_lt
    dsimp only
    rw [hround, UInt32.toNat_mul, hround]
    by_cases hwrap : rxSamplClk.toNat + 500 < 2 ^ 32
    · rw [Nat.mod_eq_of_lt hwrap]
      generalize ctrl.rssiDuration.toNat * ((rxSamplClk.toNat + 500) / 1000) = product
      by_cases hproduct : product + 500 < 2 ^ 32
      · left
        rw [Nat.mod_eq_of_lt (a := product) (by lia), Nat.mod_eq_of_lt hproduct]
      · right; right
        lia
    · have hrate : (rxSamplClk.toNat + 500) % 2 ^ 32 / 1000 = 0 := by lia
      rw [hrate, Nat.mul_zero]
      exact Or.inr (Or.inl rfl)

lemma greedy_eq_iff (hpos : 0 < (ctrl.samples rxSamplClk ctrl.rssiDuration).toNat) :
    greedy 14 4 (ctrl.samples rxSamplClk ctrl.rssiDuration).toNat = greedy 14 4 (ctrl.requested rxSamplClk) ↔
      (ctrl.samples rxSamplClk ctrl.rssiDuration).toNat = ctrl.requested rxSamplClk ∨
        4 * 2 ^ 14 ≤ (ctrl.samples rxSamplClk ctrl.rssiDuration).toNat := by
  rcases @samples_eq ctrl rxSamplClk with heq | hzero | hlarge
  · rw [heq]
    exact iff_of_true rfl (Or.inl rfl)
  · exact absurd hzero hpos.ne'
  · rw [greedy_of_le hlarge]
    constructor
    · intro h
      right
      have hle := @total_greedy_le 14 4 (ctrl.samples rxSamplClk ctrl.rssiDuration).toNat
      rwa [h, total_replicate] at hle
    · rintro (heq | hle)
      · rw [heq, greedy_of_le hlarge]
      · exact greedy_of_le hle

lemma total_greedy_le_four : total (greedy 14 4 r) ≤ 4 * 2 ^ 14 :=
  (total_le fun _ => greedy_mem_le).trans (Nat.mul_le_mul_right _ greedy_length_le)

lemma greedy_concat (hr : r ≠ 0) : ∃ init i, greedy 14 4 r = init ++ [i] ∧ init.length ≤ 3 := by
  have hlen := @greedy_length_le 14 4 r
  rcases (greedy 14 4 r).eq_nil_or_concat with hnil | ⟨init, i, hconcat⟩
  · rw [greedy, if_neg hr] at hnil
    exact absurd hnil (List.cons_ne_nil _ _)
  · rw [List.concat_eq_append] at hconcat
    rw [hconcat, List.length_append, List.length_singleton] at hlen
    exact ⟨init, i, hconcat, Nat.le_of_succ_le_succ hlen⟩

/-- The program for the durations is right exactly when they are those for the requested number. -/
lemma rssiProgram_right_iff {p : RssiProgram} (hr : r ≠ 0) (hdur : p.durBuf = greedy 14 4 r)
    (hweight : p.weight = sharesOf (total (greedy 14 4 r)) (greedy 14 4 r).dropLast) :
    p.Right n ↔ greedy 14 4 r = greedy 14 4 n ∧ total (greedy 14 4 r) ∉ roundedAbove := by
  have hshares := @shares_le_iff r
  have hgreatest := @total_greedy_isGreatest 14 4 n
  obtain ⟨init, i, hconcat, hlen⟩ := greedy_concat hr
  have hle : ∀ j ∈ init, 2 ^ j ≤ total (greedy 14 4 r) := fun j hj =>
    pow_le_total (hconcat ▸ List.mem_append_left [i] hj)
  rw [← hshares, hconcat, List.dropLast_concat]
  rw [hconcat] at hdur hweight hle
  rw [List.dropLast_concat] at hweight
  constructor
  · intro h
    have hfit := h.fit
    rw [hweight] at hfit
    exact ⟨hdur ▸ h.durations, (sharesOf_fit_iff hle hlen).mp hfit⟩
  · rintro ⟨hsame, hsum⟩
    constructor
    · rw [hdur, hsame]
    · rw [hdur, hsame]
      exact hgreatest
    · rw [hweight, sharesOf, List.length_append, List.length_append, List.length_map, List.length_singleton,
        List.length_replicate]
      lia
    · rw [hweight]
      exact (sharesOf_fit_iff hle hlen).mpr hsum
    · rw [hweight]
      exact sum_sharesOf hsum hle
    · intro l j w hj hw
      rw [hdur] at hj ⊢
      rw [hweight] at hw
      exact sharesOf_close rfl hlen hsum hj hw
    · intro l w hl hw
      rw [hdur, List.length_append, List.length_singleton] at hl
      rw [hweight, sharesOf, List.getElem?_append_right (by simpa using hl)] at hw
      exact List.eq_of_mem_replicate (List.mem_of_getElem? hw)

lemma ad9361RssiSetup_of_pos {isUpdate : Bool} (hup : ¬(ctrl.rssiUnitIsRxSamples ∧ isUpdate))
    (hpos : 0 < (ctrl.samples rxSamplClk ctrl.rssiDuration).toNat)
    (hsigned : (ctrl.samples rxSamplClk ctrl.rssiDuration).toNat < 2 ^ 31) :
    ∃ p : RssiProgram, ad9361RssiSetup (n + 4) ctrl rxSamplClk isUpdate = some (some p) ∧
      p.durBuf = greedy 14 4 (ctrl.samples rxSamplClk ctrl.rssiDuration).toNat ∧
      p.weight = sharesOf (total p.durBuf) p.durBuf.dropLast := by
  obtain ⟨init, i, hconcat, -⟩ := greedy_concat hpos.ne'
  have hloop := rssiLoop_of_nat (n := n + 4) (k := 3)
    (s := ⟨[], 0, (ctrl.samples rxSamplClk ctrl.rssiDuration).toInt32.toInt⟩) (Word.toInt32_toInt hsigned) rfl
    (Nat.le_add_left 4 n)
  have hle : ∀ j ∈ init ++ [i], 2 ^ j ≤ total (init ++ [i]) ∧ j ≤ 14 := fun j hj =>
    ⟨pow_le_total hj, greedy_mem_le (hconcat ▸ hj)⟩
  have hweight := rssiWeights_append hle (hconcat ▸ total_greedy_le_four)
  rw [hconcat, List.nil_append, UInt32.zero_add] at hloop
  rw [hconcat, ad9361RssiSetup, if_neg hup]
  dsimp only
  rw [hloop, Option.bind_eq_bind, Option.bind_some, hweight, Option.bind_eq_bind, Option.bind_some]
  refine ⟨_, rfl, rfl, ?_⟩
  rw [List.dropLast_concat]

lemma ad9361RssiSetup_of_nonpos {isUpdate : Bool} (hup : ¬(ctrl.rssiUnitIsRxSamples ∧ isUpdate))
    (h : ¬(0 < (ctrl.samples rxSamplClk ctrl.rssiDuration).toNat ∧
      (ctrl.samples rxSamplClk ctrl.rssiDuration).toNat < 2 ^ 31)) :
    ad9361RssiSetup (n + 4) ctrl rxSamplClk isUpdate = none := by
  have hnonpos : (ctrl.samples rxSamplClk ctrl.rssiDuration).toInt32.toInt ≤ 0 := by
    by_cases hzero : (ctrl.samples rxSamplClk ctrl.rssiDuration).toNat = 0
    · rw [Word.toInt32_toInt (by omega), hzero, Nat.cast_zero]
    · exact (Int32.lt_iff_toInt_lt.mp (Word.toInt32_neg.mpr (by lia))).le
  rw [ad9361RssiSetup, if_neg hup]
  dsimp only
  rw [rssiLoop_of_nonpos hnonpos]
  rfl

lemma RssiProgram.Right.toNat_dur_lt {p : RssiProgram} (h : p.Right r) (k : ℕ) : (p.dur k).toNat < 2 ^ 4 := by
  rw [RssiProgram.dur, h.durations, List.getD_eq_getElem?_getD]
  cases hget : (greedy 14 4 r)[k]? with
  | none => decide
  | some i =>
    have hle : i ≤ 14 := greedy_mem_le (List.mem_of_getElem? hget)
    rw [Option.getD_some, UInt32.toNat_ofNat_of_lt' (hle.trans_lt (by decide))]
    lia

lemma toNat_nibbles_lt {a b : UInt32} (ha : a.toNat < 2 ^ 4) (hb : b.toNat < 2 ^ 4) :
    ((a <<< 4) ||| b).toNat < 2 ^ 8 := by
  rw [UInt32.toNat_or, UInt32.toNat_shiftLeft]
  refine Nat.or_lt_two_pow ?_ (hb.trans (by decide))
  change (a.toNat <<< 4) % 2 ^ 32 < 2 ^ 8
  rw [Nat.shiftLeft_eq]
  lia

lemma toNat_clamp_lt (x : UInt32) : (clamp x 0 255).toNat < 2 ^ 8 := by
  rw [clamp, UInt32.toNat_max, UInt32.toNat_min]
  exact max_lt ((Nat.min_le_right _ _).trans_lt (by decide)) (by decide)

lemma RssiProgram.Right.toNat_weight_lt {p : RssiProgram} (h : p.Right r) (k : ℕ) :
    (p.weight.getD k 0).toNat < 2 ^ 8 := by
  rw [List.getD_eq_getElem?_getD]
  cases hget : p.weight[k]? with
  | none => decide
  | some w => exact Nat.lt_succ_of_le (h.fit w (List.mem_of_getElem? hget))

/-- Every value that is written fits its register. -/
theorem RssiProgram.Right.writes_fit {isUpdate : Bool} {p : RssiProgram} (h : p.Right r)
    (hsetup : ad9361RssiSetup n ctrl rxSamplClk isUpdate = some (some p)) : ∀ w ∈ p.writes, w.2.toNat < 2 ^ 8 := by
  have hnibbles := fun j k => toNat_nibbles_lt (h.toNat_dur_lt j) (h.toNat_dur_lt k)
  have hweight := h.toNat_weight_lt
  unfold ad9361RssiSetup at hsetup
  split at hsetup
  · cases Option.some.inj hsetup
  · obtain ⟨s, -, hsetup⟩ := Option.bind_eq_some_iff.mp hsetup
    obtain ⟨weight, -, hsetup⟩ := Option.bind_eq_some_iff.mp hsetup
    obtain rfl := Option.some.inj (Option.some.inj hsetup)
    rw [RssiProgram.writes]
    simp only [List.forall_mem_cons, List.not_mem_nil, false_imp_iff, implies_true, and_true]
    refine ⟨hnibbles 1 0, hnibbles 3 2, hweight 0, hweight 1, hweight 2, hweight 3, toNat_clamp_lt _, toNat_clamp_lt _, ?_⟩
    cases ctrl.restartMode <;> split_ifs <;> decide

/-- An update of samples programs nothing, and nothing is programmed when an entry outside of the weights is corrected. -/
def RssiOutcomeRight : Option (Option RssiProgram) → ℕ → Prop
  | none, _ => False
  | some none, _ => True
  | some (some p), n => p.Right n

/-- The setup is right exactly for an update that does nothing and for what can be measured. -/
theorem ad9361RssiSetup_right_iff (n : ℕ) (ctrl : RssiControl) (rxSamplClk : UInt32) (isUpdate : Bool) :
    RssiOutcomeRight (ad9361RssiSetup (n + 4) ctrl rxSamplClk isUpdate) (ctrl.requested rxSamplClk) ↔
      (ctrl.rssiUnitIsRxSamples ∧ isUpdate) ∨ ctrl.Measurable rxSamplClk := by
  by_cases hup : ctrl.rssiUnitIsRxSamples ∧ isUpdate
  · rw [ad9361RssiSetup, if_pos hup]
    exact iff_of_true trivial (Or.inl hup)
  · by_cases h : 0 < (ctrl.samples rxSamplClk ctrl.rssiDuration).toNat ∧
        (ctrl.samples rxSamplClk ctrl.rssiDuration).toNat < 2 ^ 31
    · obtain ⟨p, hsetup, hdur, hweight⟩ := @ad9361RssiSetup_of_pos n ctrl rxSamplClk isUpdate hup h.1 h.2
      rw [hdur] at hweight
      rw [hsetup]
      change p.Right _ ↔ _
      rw [rssiProgram_right_iff h.1.ne' hdur hweight, greedy_eq_iff h.1]
      constructor
      · exact fun ⟨hexact, hrounded⟩ => Or.inr ⟨h.1, h.2, hexact, hrounded⟩
      · rintro (hc | hm)
        · exact absurd hc hup
        · exact ⟨hm.exact, hm.rounded⟩
    · rw [ad9361RssiSetup_of_nonpos hup h]
      refine iff_of_false id ?_
      rintro (hc | hm)
      · exact hup hc
      · exact h ⟨hm.pos, hm.signed⟩

/-- For 1289 samples the fourth weight is -1. -/
theorem not_ad9361RssiSetup_right : ¬∀ (n : ℕ) (ctrl : RssiControl) (rxSamplClk : UInt32) (isUpdate : Bool),
    RssiOutcomeRight (ad9361RssiSetup (n + 4) ctrl rxSamplClk isUpdate) (ctrl.requested rxSamplClk) := by
  intro h
  have hsetup : ad9361RssiSetup 4 ⟨.gainChangeOccurs, true, 0, 0, 1289⟩ 30720000 false =
      some (some ⟨[10, 8, 3, 0], [203, 51, 2, 0xFFFFFFFF], 0, 0, RSSI_MODE_SELECT 3⟩) := by rfl
  have hright := h 0 ⟨.gainChangeOccurs, true, 0, 0, 1289⟩ 30720000 false
  rw [Nat.zero_add, hsetup] at hright
  exact absurd (hright.fit 0xFFFFFFFF (by decide)) (by decide)

end NoOS
