import Mathlib.Algebra.Group.Action.Defs
import Mathlib.Algebra.Order.Ring.GeomSum
import Mathlib.Data.List.Chain
import Mathlib.Data.Multiset.Count
import Mathlib.Data.Nat.Log
import Mathlib.Tactic.Common

/-!
# Sums of few powers of two

A number is approximated from below by at most `k` powers of two, none of which is above `2 ^ top`. To take the
largest power each time is optimal, since two equal powers are one power that is larger.
-/

namespace GreedyPowers

/-- The exponents that are chosen greedily. -/
def greedy (top : ℕ) : ℕ → ℕ → List ℕ
  | 0, _ => []
  | k + 1, n => if n = 0 then [] else min top n.log2 :: greedy top k (n - 2 ^ min top n.log2)

/-- The sum of the powers. -/
def total (c : List ℕ) : ℕ := (c.map (2 ^ ·)).sum

variable {top k n i x : ℕ} {c : List ℕ}

@[simp] lemma total_nil : total [] = 0 := rfl

@[simp] lemma total_cons : total (i :: c) = 2 ^ i + total c := rfl

lemma total_concat : total (c ++ [i]) = total c + 2 ^ i := by
  rw [total, List.map_append, List.sum_append]
  rfl

lemma pow_le_total (h : i ∈ c) : 2 ^ i ≤ total c :=
  List.single_le_sum (fun _ _ => Nat.zero_le _) _ (List.mem_map_of_mem h)

lemma total_le (h : ∀ i ∈ c, i ≤ top) : total c ≤ c.length * 2 ^ top := by
  rw [total, ← List.length_map (2 ^ ·), ← smul_eq_mul]
  refine List.sum_le_card_nsmul _ _ fun x hx => ?_
  obtain ⟨i, hi, rfl⟩ := List.mem_map.mp hx
  exact Nat.pow_le_pow_right (by decide) (h i hi)

lemma greedy_zero : greedy top k 0 = [] := by
  cases k with
  | zero => rfl
  | succ k => rw [greedy, if_pos rfl]

lemma greedy_length_le : (greedy top k n).length ≤ k := by
  induction k generalizing n with
  | zero => exact Nat.le_refl 0
  | succ k ih =>
    rw [greedy]
    split_ifs
    · exact Nat.zero_le _
    · exact Nat.succ_le_succ ih

lemma greedy_mem_le (h : i ∈ greedy top k n) : i ≤ top := by
  induction k generalizing n with
  | zero => exact absurd h List.not_mem_nil
  | succ k ih =>
    rw [greedy] at h
    split_ifs at h
    · exact absurd h List.not_mem_nil
    · rcases List.mem_cons.mp h with rfl | h
      · exact min_le_left _ _
      · exact ih h

lemma largest_spec (hn : n ≠ 0) : 2 ^ min top n.log2 ≤ n ∧ (min top n.log2 = top ∨ n < 2 ^ (min top n.log2 + 1)) := by
  have hle : 2 ^ n.log2 ≤ n := Nat.log2_self_le hn
  constructor
  · exact (Nat.pow_le_pow_right (by decide) (min_le_right _ _)).trans hle
  · rcases le_total top n.log2 with h | h
    · exact Or.inl (min_eq_left h)
    · rw [min_eq_right h]
      exact Or.inr Nat.lt_log2_self

lemma total_greedy_le : total (greedy top k n) ≤ n := by
  induction k generalizing n with
  | zero => exact Nat.zero_le n
  | succ k ih =>
    rw [greedy]
    split_ifs with hn
    · exact Nat.zero_le n
    · have hfits := (@largest_spec top n hn).1
      have hrest := @ih (n - 2 ^ min top n.log2)
      rw [total_cons]
      lia

lemma greedy_total_greedy : greedy top k (total (greedy top k n)) = greedy top k n := by
  induction k generalizing n with
  | zero => rfl
  | succ k ih =>
    by_cases hn : n = 0
    · rw [hn, greedy_zero, total_nil, greedy_zero]
    · obtain ⟨hfits, htop⟩ := @largest_spec top n hn
      have hrest := @total_greedy_le top k (n - 2 ^ min top n.log2)
      have hle := min_le_left top n.log2
      have hstep : greedy top (k + 1) n = min top n.log2 :: greedy top k (n - 2 ^ min top n.log2) := by rw [greedy, if_neg hn]
      rw [hstep, total_cons]
      generalize min top n.log2 = i at hfits htop hrest hle ⊢
      have hpos := Nat.two_pow_pos i
      have hlog : min top (2 ^ i + total (greedy top k (n - 2 ^ i))).log2 = i := by
        have hge : i ≤ (2 ^ i + total (greedy top k (n - 2 ^ i))).log2 :=
          (Nat.le_log2 (by lia)).mpr (Nat.le_add_right _ _)
        rcases htop with rfl | hlt
        · exact min_eq_left hge
        · have hbelow : (2 ^ i + total (greedy top k (n - 2 ^ i))).log2 < i + 1 := (Nat.log2_lt (by lia)).mpr (by lia)
          lia
      rw [greedy, if_neg (by lia), hlog, Nat.add_sub_cancel_left, ih]

lemma greedy_chain : (greedy top k n).IsChain fun i j => j < i ∨ i = top := by
  induction k generalizing n with
  | zero => exact List.IsChain.nil
  | succ k ih =>
    rw [greedy]
    split_ifs with hn
    · exact List.IsChain.nil
    · rw [List.isChain_cons]
      refine ⟨fun j hj => ?_, ih⟩
      obtain ⟨hfits, htop⟩ := @largest_spec top n hn
      rcases htop with heq | hlt
      · exact Or.inr heq
      · left
        cases k with
        | zero => exact absurd hj nofun
        | succ k =>
          rw [greedy] at hj
          split_ifs at hj with hrest
          · exact absurd hj nofun
          · obtain rfl := Option.some.inj hj
            have hnext := (@largest_spec top (n - 2 ^ min top n.log2) hrest).1
            rw [pow_succ] at hlt
            exact (Nat.pow_lt_pow_iff_right (by decide : 1 < 2)).mp (hnext.trans_lt (by lia))

lemma find_largest (hn : n ≠ 0) : ((List.range (top + 1)).reverse.find? fun i => 2 ^ i ≤ n) = some (min top n.log2) := by
  induction top with
  | zero =>
    have hone : 1 ≤ n := Nat.one_le_iff_ne_zero.mpr hn
    simp [hone]
  | succ top ih =>
    rw [List.range_succ, List.reverse_append, List.reverse_singleton, List.singleton_append, List.find?_cons]
    by_cases h : 2 ^ (top + 1) ≤ n
    · rw [decide_eq_true h, min_eq_left ((Nat.le_log2 hn).mpr h)]
    · have hlog : n.log2 < top + 1 := Nat.lt_of_not_le fun hle => h ((Nat.le_log2 hn).mp hle)
      rw [decide_eq_false h, min_eq_right hlog.le]
      exact ih.trans (congrArg some (min_eq_right (Nat.lt_succ_iff.mp hlog)))

/-- With enough left for all of them, every power is the largest. -/
lemma greedy_of_le (h : k * 2 ^ top ≤ n) : greedy top k n = List.replicate k top := by
  induction k generalizing n with
  | zero => rfl
  | succ k ih =>
    have hpos : 0 < 2 ^ top := Nat.two_pow_pos top
    rw [Nat.succ_mul] at h
    have hn : n ≠ 0 := by lia
    have hlog : top ≤ n.log2 := (Nat.le_log2 hn).mpr (by lia)
    rw [greedy, if_neg hn, min_eq_left hlog, ih (by lia), List.replicate_succ]

lemma total_replicate : total (List.replicate k top) = k * 2 ^ top := by
  rw [total, List.map_replicate, List.sum_replicate, smul_eq_mul]

/-- The number is a sum of at most `k` of the powers. -/
def Reaches (top k n : ℕ) : Prop := ∃ c : Multiset ℕ, c.card ≤ k ∧ (∀ i ∈ c, i ≤ top) ∧ (c.map (2 ^ ·)).sum = n

/-- Equal powers are merged, as long as the larger one is allowed. -/
lemma exists_merged (c : Multiset ℕ) (hc : ∀ i ∈ c, i ≤ top) : ∃ d : Multiset ℕ, d.card ≤ c.card ∧
    (∀ i ∈ d, i ≤ top) ∧ (d.map (2 ^ ·)).sum = (c.map (2 ^ ·)).sum ∧ ∀ i < top, d.count i ≤ 1 := by
  induction hcard : c.card using Nat.strong_induction_on generalizing c with
  | h m ih =>
    by_cases hall : ∀ i < top, c.count i ≤ 1
    · exact ⟨c, hcard.le, hc, rfl, hall⟩
    · push Not at hall
      obtain ⟨i, hi, hcount⟩ := hall
      obtain ⟨e, rfl⟩ := Multiset.le_iff_exists_add.mp (Multiset.le_count_iff_replicate_le.mp hcount)
      have hmem : ∀ j ∈ (i + 1) ::ₘ e, j ≤ top := by
        intro j hj
        rcases Multiset.mem_cons.mp hj with rfl | hj
        · exact hi
        · exact hc j (Multiset.mem_add.mpr (Or.inr hj))
      have hsmaller : ((i + 1) ::ₘ e).card < m := by
        rw [Multiset.card_add, Multiset.card_replicate] at hcard
        rw [Multiset.card_cons]
        lia
      obtain ⟨d, hdcard, hd, hsum, honce⟩ := ih _ hsmaller _ hmem rfl
      refine ⟨d, by lia, hd, hsum.trans ?_, honce⟩
      rw [Multiset.map_cons, Multiset.sum_cons, Multiset.map_add, Multiset.sum_add, Multiset.map_replicate,
        Multiset.sum_replicate, pow_succ, smul_eq_mul, Nat.mul_comm]

/-- Different powers that are all smaller do not add up to a power. -/
lemma sum_lt_of_once (c : Multiset ℕ) (hlt : ∀ j ∈ c, j < i) (honce : ∀ j < i, c.count j ≤ 1) :
    (c.map (2 ^ ·)).sum < 2 ^ i := by
  have hnodup : c.Nodup := by
    rw [Multiset.nodup_iff_count_le_one]
    intro j
    by_cases hj : j ∈ c
    · exact honce j (hlt j hj)
    · rw [Multiset.count_eq_zero_of_notMem hj]
      exact Nat.zero_le 1
  exact Nat.geomSum_lt (s := ⟨c, hnodup⟩) (Nat.le_refl 2) hlt

/-- The largest power that fits can be one of the powers of a sum. -/
lemma Reaches.sub (h : Reaches top (k + 1) n) (hi : i ≤ top) (hle : 2 ^ i ≤ n) (htop : i = top ∨ n < 2 ^ (i + 1)) :
    Reaches top k (n - 2 ^ i) := by
  obtain ⟨c, hcard, hc, rfl⟩ := h
  obtain ⟨d, hdcard, hd, hsum, honce⟩ := exists_merged c hc
  have hbound : ∀ j ∈ d, j ≤ i := by
    rcases htop with rfl | hlt
    · exact hd
    · intro j hj
      have hone : 2 ^ j ≤ (d.map (2 ^ ·)).sum := Multiset.single_le_sum (fun _ _ => Nat.zero_le _) _
        (Multiset.mem_map_of_mem _ hj)
      rw [hsum] at hone
      exact Nat.lt_succ_iff.mp ((Nat.pow_lt_pow_iff_right (by decide)).mp (hone.trans_lt hlt))
  have hmem : i ∈ d := by
    by_contra hnot
    have hlt : ∀ j ∈ d, j < i := fun j hj => lt_of_le_of_ne (hbound j hj) fun heq => hnot (heq ▸ hj)
    have hsmall := sum_lt_of_once d hlt fun j hj => honce j (hj.trans_le hi)
    lia
  obtain ⟨e, rfl⟩ := Multiset.exists_cons_of_mem hmem
  refine ⟨e, ?_, fun j hj => hd j (Multiset.mem_cons_of_mem hj), ?_⟩
  · rw [Multiset.card_cons] at hdcard
    lia
  · rw [← hsum, Multiset.map_cons, Multiset.sum_cons, Nat.add_sub_cancel_left]

lemma reaches_greedy : Reaches top k (total (greedy top k n)) :=
  ⟨greedy top k n, greedy_length_le, fun _ => greedy_mem_le, rfl⟩

/-- No sum of at most `k` powers is closer from below. -/
theorem total_greedy_isGreatest : IsGreatest {s | Reaches top k s ∧ s ≤ n} (total (greedy top k n)) := by
  refine ⟨⟨reaches_greedy, total_greedy_le⟩, ?_⟩
  rintro s ⟨hreach, hle⟩
  induction k generalizing n s with
  | zero =>
    obtain ⟨c, hcard, -, rfl⟩ := hreach
    rw [Multiset.card_eq_zero.mp (Nat.le_zero.mp hcard)]
    exact Nat.zero_le _
  | succ k ih =>
    rw [greedy]
    split_ifs with hn
    · rw [hn] at hle
      exact hle
    · obtain ⟨hfits, htop⟩ := @largest_spec top n hn
      rw [total_cons]
      by_cases hs : 2 ^ min top n.log2 ≤ s
      · have hrest := hreach.sub (min_le_left _ _) hs (htop.imp_right hle.trans_lt)
        have hsub := ih hrest (Nat.sub_le_sub_right hle _)
        lia
      · lia

end GreedyPowers
