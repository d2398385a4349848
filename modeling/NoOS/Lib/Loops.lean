import Mathlib.Data.List.Range
import Mathlib.Data.Nat.Basic
import Mathlib.Data.UInt
import Mathlib.Tactic.Common

/-!
# Loops with a cell for each pass

A loop runs through the numbers below `n`. Where each pass changes its own cell alone, every cell is as one pass
leaves it, and a cell that no pass changes is as it was.
-/

namespace Passes

variable {σ β : Type*} {pass : σ → ℕ → σ} {n : ℕ} {s : σ}

/-- The state after `n` passes. -/
def run (pass : σ → ℕ → σ) (n : ℕ) (s : σ) : σ := (List.range n).foldl pass s

@[simp] lemma run_zero : run pass 0 s = s := rfl

lemma run_succ : run pass (n + 1) s = pass (run pass n s) n := by
  rw [run, List.range_succ, List.foldl_append]
  rfl

lemma run_induction {P : σ → Prop} (hs : P s) (h : ∀ t i, P t → P (pass t i)) : P (run pass n s) := by
  induction n with
  | zero => exact hs
  | succ n ih =>
    rw [run_succ]
    exact h _ n ih

lemma run_keeps (look : σ → β) (h : ∀ t i, i < n → look (pass t i) = look t) : look (run pass n s) = look s := by
  induction n with
  | zero => rfl
  | succ n ih =>
    rw [run_succ, h _ n (Nat.lt_succ_self n)]
    exact ih fun t i hi => h t i (Nat.lt_succ_of_lt hi)

lemma run_cell (cell : σ → ℕ → β) (f : ℕ → β → β) (hself : ∀ t i, i < n → cell (pass t i) i = f i (cell t i))
    (hother : ∀ t i j, i < n → j < n → j ≠ i → cell (pass t i) j = cell t j) {j : ℕ} (hj : j < n) :
    cell (run pass n s) j = f j (cell s j) := by
  suffices h : ∀ k ≤ n, cell (run pass k s) j = if j < k then f j (cell s j) else cell s j by
    rw [h n (Nat.le_refl n), if_pos hj]
  intro k hk
  induction k with
  | zero => rfl
  | succ k ih =>
    rw [run_succ]
    by_cases hjk : j = k
    · subst hjk
      rw [hself _ _ hj, ih (by omega), if_neg (Nat.lt_irrefl j), if_pos (Nat.lt_succ_self j)]
    · rw [hother _ k j (by omega) hj hjk, ih (by omega)]
      by_cases hlt : j < k
      · rw [if_pos hlt, if_pos (Nat.lt_succ_of_lt hlt)]
      · rw [if_neg hlt, if_neg (by lia)]

/-- What every pass establishes, and none destroys, holds after any pass. -/
lemma run_last {P : σ → Prop} (h : ∀ t i, P (pass t i)) (hpos : 0 < n) : P (run pass n s) := by
  cases n with
  | zero => exact absurd hpos (Nat.lt_irrefl 0)
  | succ n =>
    rw [run_succ]
    exact h _ n

end Passes

/-!
## Loops with counted passes

A loop that may not end is run for a number of passes, and has a result of its own where they do not suffice. A state
leads to another one if the loop gets from the one to the other in some passes, and it ends with a result if it has
that result as soon as there are enough of them.
-/

namespace Fuel

variable {σ ρ : Type*} {out : ρ} {f : ℕ → σ → ρ} {s t u : σ} {r r' : ρ} {n : ℕ}

/-- The loop gets from one state to another, and does not end before. -/
def Leads (out : ρ) (f : ℕ → σ → ρ) (s t : σ) : Prop := ∃ k, (∀ m < k, f m s = out) ∧ ∀ n, f (n + k) s = f n t

/-- The loop has the result if it has enough passes, and none with fewer. -/
def Ends (out : ρ) (f : ℕ → σ → ρ) (s : σ) (r : ρ) : Prop := ∃ k, (∀ m < k, f m s = out) ∧ ∀ n, f (n + k) s = r

section Passes

variable {g : ℕ → ρ}

lemma passes_one (hout : f 0 s = out) (h : ∀ n, f (n + 1) s = g n) :
    ∃ k, (∀ m < k, f m s = out) ∧ ∀ n, f (n + k) s = g n := by
  refine ⟨1, fun m hm => ?_, h⟩
  rwa [Nat.lt_one_iff.mp hm]

lemma Leads.append (hs : Leads out f s t) (ht : ∃ k, (∀ m < k, f m t = out) ∧ ∀ n, f (n + k) t = g n) :
    ∃ k, (∀ m < k, f m s = out) ∧ ∀ n, f (n + k) s = g n := by
  obtain ⟨k, hearly, hlate⟩ := hs
  obtain ⟨l, hearly', hlate'⟩ := ht
  refine ⟨l + k, fun m hm => ?_, fun n => ?_⟩
  · by_cases h : m < k
    · exact hearly m h
    · have hnext := hlate (m - k)
      rw [Nat.sub_add_cancel (Nat.le_of_not_lt h)] at hnext
      rw [hnext]
      exact hearly' _ (by lia)
  · rw [← Nat.add_assoc, hlate, hlate']

end Passes

lemma Leads.refl (s : σ) : Leads out f s s := ⟨0, fun m hm => absurd hm (Nat.not_lt_zero m), fun _ => rfl⟩

lemma Leads.step (hout : f 0 s = out) (h : ∀ n, f (n + 1) s = f n t) : Leads out f s t := passes_one hout h

lemma Leads.trans (hs : Leads out f s t) (ht : Leads out f t u) : Leads out f s u := hs.append ht

lemma Ends.step (hout : f 0 s = out) (h : ∀ n, f (n + 1) s = r) : Ends out f s r := passes_one hout h

lemma Leads.ends (hs : Leads out f s t) (ht : Ends out f t r) : Ends out f s r := hs.append ht

/-- A result, however many passes it took, is the one that the loop ends with. -/
theorem Ends.eq (h : Ends out f s r) (hr : f n s = r') (hne : r' ≠ out) : r' = r := by
  obtain ⟨k, hearly, hlate⟩ := h
  by_cases hn : n < k
  · exact absurd (hr.symm.trans (hearly n hn)) hne
  · have hnext := hlate (n - k)
    rw [Nat.sub_add_cancel (Nat.le_of_not_lt hn), hr] at hnext
    exact hnext

lemma Ends.exists (h : Ends out f s r) : ∃ n, f n s = r := by
  obtain ⟨k, -, hlate⟩ := h
  exact ⟨0 + k, hlate 0⟩

end Fuel

/-!
## Loops that count down

Two loops that poll a state until it is no longer busy or an unsigned counter is used up. The
counter is decremented where it is tested, so it wraps around when it is used up.
-/

namespace Countdown

variable {σ φ : Type*} (busy : σ → Bool) (tick : σ → Except φ σ)

/-- `while (timeout--)` around a test and a delay. -/
def preTest : ℕ → σ → Except φ (UInt32 × σ)
  | 0, s => .ok (0 - 1, s)
  | timeout + 1, s =>
    if busy s then
      match tick s with
      | .error f => .error f
      | .ok s => preTest timeout s
    else .ok (UInt32.ofNat timeout, s)

/-- A test and a delay before `while (timeout--)`. -/
def postTest (timeout : ℕ) (s : σ) : Except φ (UInt32 × σ) :=
  if busy s then
    match tick s with
    | .error f => .error f
    | .ok s =>
      match timeout with
      | 0 => .ok (0 - 1, s)
      | timeout + 1 => postTest timeout s
  else .ok (UInt32.ofNat timeout, s)

/-- `k` polls in a row find the state busy, and the next one is in `t`. -/
inductive BusyFor : ℕ → σ → σ → Prop
  | zero (s : σ) : BusyFor 0 s s
  | succ {k : ℕ} {s s' t : σ} (hbusy : busy s = true) (htick : tick s = .ok s')
      (h : BusyFor k s' t) : BusyFor (k + 1) s t

variable {busy tick} {s s' t t' : σ} {j k n : ℕ} {timeout : UInt32}

namespace BusyFor

lemma unique (h : BusyFor busy tick k s t) (h' : BusyFor busy tick k s t') : t = t' := by
  induction h with
  | zero s =>
    cases h'
    rfl
  | succ hbusy htick _ ih =>
    cases h' with
    | succ _ htick' h' =>
      obtain rfl := Except.ok.inj (htick.symm.trans htick')
      exact ih h'

lemma busy_of_lt (h : BusyFor busy tick k s t) (h' : BusyFor busy tick j s t') (hlt : j < k) :
    busy t' = true := by
  induction h' generalizing k with
  | zero s =>
    cases h with
    | zero => exact absurd hlt (Nat.lt_irrefl 0)
    | succ hbusy _ _ => exact hbusy
  | succ _ htick' _ ih =>
    cases h with
    | zero => exact absurd hlt (Nat.not_lt_zero _)
    | succ _ htick h =>
      obtain rfl := Except.ok.inj (htick.symm.trans htick')
      exact ih h (Nat.lt_of_succ_lt_succ hlt)

lemma eq_of_idle (h : BusyFor busy tick k s t) (h' : BusyFor busy tick j s t')
    (ht : busy t = false) (ht' : busy t' = false) : j = k ∧ t' = t := by
  rcases Nat.lt_trichotomy j k with hlt | rfl | hgt
  · rw [h.busy_of_lt h' hlt] at ht'
    cases ht'
  · exact ⟨rfl, h'.unique h⟩
  · rw [h'.busy_of_lt h hgt] at ht
    cases ht

lemma preserves {P : σ → Prop} (h : BusyFor busy tick k s t) (hs : P s)
    (hstep : ∀ s s', P s → tick s = .ok s' → P s') : P t := by
  induction h with
  | zero => exact hs
  | succ _ htick _ ih => exact ih (hstep _ _ hs htick)

lemma stuck (hbusy : busy s = true) (htick : tick s = .ok s) (k : ℕ) : BusyFor busy tick k s s := by
  induction k with
  | zero => exact .zero s
  | succ k ih => exact .succ hbusy htick ih

end BusyFor

/-- The event is seen in one of `n` polls, or in none. -/
theorem preTest_ok (h : preTest busy tick n s = .ok (timeout, t)) :
    (∃ k, k < n ∧ BusyFor busy tick k s t ∧ busy t = false ∧ timeout = UInt32.ofNat (n - 1 - k)) ∨
      BusyFor busy tick n s t ∧ timeout = 0 - 1 := by
  induction n generalizing s with
  | zero =>
    obtain ⟨rfl, rfl⟩ := Prod.mk.inj (Except.ok.inj h)
    exact .inr ⟨.zero s, rfl⟩
  | succ n ih =>
    rw [preTest] at h
    split at h
    next hbusy =>
      split at h
      · cases h
      next s' htick =>
        rcases ih h with ⟨k, hk, hfor, hidle, rfl⟩ | ⟨hfor, rfl⟩
        · exact .inl ⟨k + 1, Nat.succ_lt_succ hk, .succ hbusy htick hfor, hidle, by
            rw [show n + 1 - 1 - (k + 1) = n - 1 - k by lia]⟩
        · exact .inr ⟨.succ hbusy htick hfor, rfl⟩
    next hidle =>
      obtain ⟨rfl, rfl⟩ := Prod.mk.inj (Except.ok.inj h)
      exact .inl ⟨0, Nat.succ_pos n, .zero s, Bool.not_eq_true _ ▸ hidle, rfl⟩

/-- The event is seen in one of `n + 1` polls, or in none. -/
theorem postTest_ok (h : postTest busy tick n s = .ok (timeout, t)) :
    (∃ k, k ≤ n ∧ BusyFor busy tick k s t ∧ busy t = false ∧ timeout = UInt32.ofNat (n - k)) ∨
      BusyFor busy tick (n + 1) s t ∧ timeout = 0 - 1 := by
  induction n generalizing s with
  | zero =>
    rw [postTest] at h
    split at h
    next hbusy =>
      split at h
      · cases h
      next s' htick =>
        obtain ⟨rfl, rfl⟩ := Prod.mk.inj (Except.ok.inj h)
        exact .inr ⟨.succ hbusy htick (.zero s'), rfl⟩
    next hidle =>
      obtain ⟨rfl, rfl⟩ := Prod.mk.inj (Except.ok.inj h)
      exact .inl ⟨0, Nat.le_refl 0, .zero s, Bool.not_eq_true _ ▸ hidle, rfl⟩
  | succ n ih =>
    rw [postTest] at h
    split at h
    next hbusy =>
      split at h
      · cases h
      next s' htick =>
        rcases ih h with ⟨k, hk, hfor, hidle, rfl⟩ | ⟨hfor, rfl⟩
        · exact .inl ⟨k + 1, Nat.succ_le_succ hk, .succ hbusy htick hfor, hidle, by
            rw [Nat.add_sub_add_right]⟩
        · exact .inr ⟨.succ hbusy htick hfor, rfl⟩
    next hidle =>
      obtain ⟨rfl, rfl⟩ := Prod.mk.inj (Except.ok.inj h)
      exact .inl ⟨0, Nat.zero_le _, .zero s, Bool.not_eq_true _ ▸ hidle, rfl⟩

lemma postTest_stuck (hbusy : busy s = true) (htick : tick s = .ok s) (n : ℕ) :
    postTest busy tick n s = .ok (0 - 1, s) := by
  induction n with
  | zero => rw [postTest, if_pos hbusy, htick]
  | succ n ih =>
    rw [postTest, if_pos hbusy, htick]
    exact ih

lemma ofNat_eq_zero (hn : n < 2 ^ 32) : UInt32.ofNat n = 0 ↔ n = 0 := by
  rw [← UInt32.toNat_inj, UInt32.toNat_ofNat_of_lt' hn]
  rfl

end Countdown

/-!
## Polls with answers

A loop that asks until it has an answer or its budget is used up.
-/

namespace Polling

variable {β : Type*} (answer : ℕ → Option β)

/-- The loop from poll `n` on: how many polls there have been then, and the answer. -/
def poll : ℕ → ℕ → ℕ × Option β
  | 0, n => (n, none)
  | budget + 1, n =>
    match answer n with
    | some r => (n + 1, some r)
    | none => poll budget (n + 1)

variable {answer} {budget n m : ℕ} {r : β}

lemma poll_some (h : answer n = some r) : poll answer (budget + 1) n = (n + 1, some r) := by rw [poll, h]

lemma poll_none (h : answer n = none) : poll answer (budget + 1) n = poll answer budget (n + 1) := by rw [poll, h]

lemma poll_le (budget n : ℕ) : (poll answer budget n).1 ≤ n + budget := by
  induction budget generalizing n with
  | zero => exact Nat.le_refl n
  | succ budget ih =>
    cases h : answer n with
    | some r =>
      rw [poll_some h]
      lia
    | none =>
      rw [poll_none h]
      have hle := ih (n + 1)
      lia

/-- An answer comes from the last poll, and the ones before it have none. -/
theorem answer_of_poll (h : poll answer budget n = (m, some r)) :
    ∃ k, m = k + 1 ∧ n ≤ k ∧ answer k = some r ∧ ∀ i, n ≤ i → i < k → answer i = none := by
  induction budget generalizing n with
  | zero => exact absurd (Prod.mk.inj h).2 nofun
  | succ budget ih =>
    cases hn : answer n with
    | some r' =>
      rw [poll_some hn] at h
      obtain ⟨rfl, hr⟩ := Prod.mk.inj h
      exact ⟨n, rfl, Nat.le_refl n, hn.trans hr, fun i hi hlt => absurd hlt (Nat.not_lt.mpr hi)⟩
    | none =>
      rw [poll_none hn] at h
      obtain ⟨k, hm, hk, hans, hbefore⟩ := ih h
      refine ⟨k, hm, Nat.le_of_succ_le hk, hans, fun i hi hlt => ?_⟩
      rcases Nat.eq_or_lt_of_le hi with rfl | hlt'
      · exact hn
      · exact hbefore i hlt' hlt

/-- Without an answer all polls have been made, and none had one. -/
theorem none_of_poll (h : poll answer budget n = (m, none)) : m = n + budget ∧ ∀ i, n ≤ i → i < m → answer i = none := by
  induction budget generalizing n with
  | zero =>
    obtain ⟨rfl, -⟩ := Prod.mk.inj h
    exact ⟨rfl, fun i hi hlt => absurd hlt (Nat.not_lt.mpr hi)⟩
  | succ budget ih =>
    cases hn : answer n with
    | some r =>
      rw [poll_some hn] at h
      exact absurd (Prod.mk.inj h).2 nofun
    | none =>
      rw [poll_none hn] at h
      obtain ⟨hm, hall⟩ := ih h
      refine ⟨by lia, fun i hi hlt => ?_⟩
      rcases Nat.eq_or_lt_of_le hi with rfl | hlt'
      · exact hn
      · exact hall i hlt' hlt

end Polling
