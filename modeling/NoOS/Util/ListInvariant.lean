import Mathlib.Data.Fintype.Card
import NoOS.Util.ListSequence

/-!
# The elements of a list

`update_links` and `update_desc` find out from the pointers which end of the list changes.
Linking or unlinking an element between two parts of the list, each possibly empty, keeps
the links, both ends and the counter in step.
-/

namespace NoOS
open DoublyLinked

variable {w N : ℕ}

/-- The nodes `ns` are linked both ways in this order; they are distinct, and all that is
allocated. The counter has 32 bits. -/
structure PrivListDesc.Linked (cmp : BitVec w → BitVec w → Int32) (list : PrivListDesc w N)
    (ns : List (ElemAddr N × BitVec w)) : Prop where
  comparator : list.comparator = cmp
  chain : Chain list.heap none ns none
  nodup : (addrs ns).Nodup
  owned : ∀ a, list.heap a ≠ none → a ∈ addrs ns
  first : list.first = headOr ns none
  last : list.last = lastOr ns none
  count : list.nbElements = UInt32.ofNat ns.length

/-- The elements of the list are the nodes `ns`, linked both ways in this order; they are
distinct, and all that is allocated. -/
structure PrivListDesc.Represents (cmp : BitVec w → BitVec w → Int32) (list : PrivListDesc w N)
    (ns : List (ElemAddr N × BitVec w)) : Prop where
  comparator : list.comparator = cmp
  chain : Chain list.heap none ns none
  nodup : (addrs ns).Nodup
  owned : ∀ a, list.heap a ≠ none → a ∈ addrs ns
  first : list.first = headOr ns none
  last : list.last = lastOr ns none
  count : list.nbElements.toNat = ns.length

/-- Following `next` from `first` visits `nbElements` distinct elements and ends at `last`,
and following `prev` from `last` visits them in the reverse order. -/
def PrivListDesc.WellLinked (list : PrivListDesc w N) : Prop :=
  let elems := visit list.heap true list.nbElements.toNat list.first
  elems.length = list.nbElements.toNat ∧ elems.Nodup ∧ elems.getLast? = list.last ∧
    walkBy list.heap true list.nbElements.toNat list.first = some none ∧
    visit list.heap false list.nbElements.toNat list.last = elems.reverse ∧
    (list.first = none ↔ list.nbElements = 0) ∧ (list.last = none ↔ list.nbElements = 0)

variable {cmp : BitVec w → BitVec w → Int32} {list : PrivListDesc w N}
  {xs ys ns : List (ElemAddr N × BitVec w)} {a : ElemAddr N} {d : BitVec w}

lemma lastOr_some (ys : List (ElemAddr N × BitVec w)) (a : ElemAddr N) :
    lastOr ys (some a) = if ys = [] then some a else lastOr ys none := by
  cases ys with
  | nil => rfl
  | cons y ys => rfl

lemma createElement_grants {heap : ListHeap w N} {mem : ElemPtr N} (h : grants heap mem = true) :
    ∃ a, heap a = none ∧ ∀ data prev next, createElement heap data prev next mem =
      some (a, Function.update heap a (some ⟨data, prev, next⟩)) := by
  cases mem with
  | none => simp [grants] at h
  | some a =>
    have ha : heap a = none := by simpa [grants] using h
    exact ⟨a, ha, by simp [createElement, ha]⟩

lemma createElement_null {heap : ListHeap w N} {mem : ElemPtr N} (h : grants heap mem = false)
    (data : BitVec w) (prev next : ElemPtr N) : createElement heap data prev next mem = none := by
  cases mem with
  | none => rfl
  | some a =>
    have ha : (heap a).isNone = false := by simpa [grants] using h
    simp [createElement, ha]

lemma free_some {heap : ListHeap w N} {e : Node (ElemAddr N) (BitVec w)} (h : heap a = some e) :
    free heap (some a) = some (Function.update heap a none) := by
  simp [free, h]

lemma updateLinks_none (heap : ListHeap w N) (prev next : ElemPtr N) :
    updateLinks heap prev none next = (setNext heap prev next).bind fun heap =>
      setPrev heap next prev := rfl

lemma length_le_of_nodup (h : (addrs ns).Nodup) : ns.length ≤ N := by
  have hcard := h.length_le_card
  rwa [addrs, List.length_map, Fintype.card_fin] at hcard

namespace PrivListDesc.Represents

lemma count_eq_zero (h : list.Represents cmp ns) : list.nbElements = 0 ↔ ns = [] := by
  rw [← UInt32.toNat_inj, h.count]
  exact List.length_eq_zero_iff

lemma wellLinked (h : list.Represents cmp ns) : list.WellLinked := by
  have hvisit := h.chain.visit_next
  have hback := h.chain.visit_prev
  have hwalk := h.chain.walkBy ns.length
  rw [← h.count, ← h.first] at hvisit hwalk
  rw [← h.count, ← h.last] at hback
  unfold WellLinked
  rw [hvisit, hback, hwalk, h.count, h.first, h.last, h.count_eq_zero, headOr_eq_none,
    lastOr_eq_none, lastOr_eq_getLast?]
  exact ⟨List.length_map _, h.nodup, rfl, by simp, rfl, Iff.rfl, Iff.rfl⟩

end PrivListDesc.Represents

namespace PrivListDesc.Linked

lemma toNat_count (h : list.Linked cmp ns) (hlen : ns.length < 2 ^ 32) : list.nbElements.toNat = ns.length := by
  rw [h.count, UInt32.toNat_ofNat_of_lt' hlen]

lemma represents (h : list.Linked cmp ns) (hlen : ns.length < 2 ^ 32) : list.Represents cmp ns :=
  ⟨h.comparator, h.chain, h.nodup, h.owned, h.first, h.last, h.toNat_count hlen⟩

lemma count_eq_zero (h : list.Linked cmp ns) (hlen : ns.length < 2 ^ 32) : list.nbElements = 0 ↔ ns = [] :=
  (h.represents hlen).count_eq_zero

lemma length_lt (h : list.Linked cmp ns) (hN : N < 2 ^ 32) : ns.length < 2 ^ 32 :=
  (length_le_of_nodup h.nodup).trans_lt hN

lemma fresh (h : list.Linked cmp ns) (ha : list.heap a = none) : a ∉ addrs ns :=
  fun hmem => h.chain.alloc hmem ha

lemma setIt (h : list.Linked cmp ns) (it : ElemPtr N) :
    ({ list with lIt := it } : PrivListDesc w N).Linked cmp ns :=
  ⟨h.comparator, h.chain, h.nodup, h.owned, h.first, h.last, h.count⟩

lemma first_iff (h : list.Linked cmp (xs ++ (a, d) :: ys)) : some a = list.first ↔ xs = [] := by
  rw [h.first]
  cases xs with
  | nil => simp
  | cons x xs =>
    have hnd := h.nodup
    simp only [addrs_append, addrs_cons, List.cons_append, List.nodup_cons, List.mem_append,
      List.mem_cons] at hnd
    simp only [headOr_cons, List.cons_append, Option.some.injEq, reduceCtorEq, iff_false]
    intro hc
    exact hnd.1 (.inr (.inl hc.symm))

lemma last_iff (h : list.Linked cmp (xs ++ (a, d) :: ys)) : some a = list.last ↔ ys = [] := by
  rw [h.last, lastOr_append, lastOr_cons, lastOr_some]
  by_cases hys : ys = []
  · simp [hys]
  · simp only [hys, if_false, iff_false]
    intro hc
    have hnd := h.nodup
    simp only [addrs_append, addrs_cons, List.nodup_append, List.nodup_cons] at hnd
    exact hnd.2.1.1 (lastOr_mem hc.symm)

lemma not_mem_rest (h : list.Linked cmp (xs ++ (a, d) :: ys)) : a ∉ addrs (xs ++ ys) := by
  have hnd := h.nodup
  rw [addrs_append, addrs_cons] at hnd
  rw [addrs_append]
  exact (List.nodup_cons.mp (List.nodup_middle.mp hnd)).1

lemma link (h : list.Linked cmp (xs ++ ys)) (ha : list.heap a = none) (d : BitVec w) :
    ∃ heap', updateLinks (Function.update list.heap a (some ⟨d, lastOr xs none, headOr ys none⟩))
        (lastOr xs none) (some a) (headOr ys none) = some heap' ∧
      ∀ list' : PrivListDesc w N, list'.heap = heap' → list'.comparator = cmp →
        list'.first = headOr (xs ++ (a, d) :: ys) none →
        list'.last = lastOr (xs ++ (a, d) :: ys) none →
        list'.nbElements = list.nbElements + 1 → list'.Linked cmp (xs ++ (a, d) :: ys) := by
  have hfresh := h.fresh ha
  obtain ⟨hx, hy⟩ := chain_append.mp h.chain
  have hother : ∀ b ∈ addrs (xs ++ ys), Function.update list.heap a
      (some ⟨d, lastOr xs none, headOr ys none⟩) b = list.heap b := by
    intro b hb
    apply Function.update_of_ne
    rintro rfl
    exact hfresh hb
  rw [addrs_append] at hother
  have hx' := hx.congr fun b hb => hother b (List.mem_append_left _ hb)
  have hy' := hy.congr fun b hb => hother b (List.mem_append_right _ hb)
  obtain ⟨mid, heap', hmid, hheap, hcx, hcy, hmida, hwithin⟩ :=
    hx'.relink hy' h.nodup (some a) (some a)
  have hmid' := hmida a hfresh
  have hheap' := hwithin.1 a hfresh
  rw [Function.update_self] at hmid' hheap'
  have hnodup : (addrs (xs ++ (a, d) :: ys)).Nodup := by
    rw [addrs_append, addrs_cons]
    apply List.nodup_middle.mpr
    rw [List.nodup_cons, ← addrs_append]
    exact ⟨hfresh, h.nodup⟩
  refine ⟨heap', ?_, ?_⟩
  · have hprev := setPrev_same hmid'
    have hnext := setNext_same hmid'
    simp only at hprev hnext
    simp [updateLinks, hmid, hprev, hnext, hheap]
  · intro list' hl hcmp hfirst hlast hcount
    refine ⟨hcmp, ?_, hnodup, ?_, hfirst, hlast, ?_⟩
    · rw [hl, chain_append]
      exact ⟨hcx, hheap', hcy⟩
    · intro b hb
      rw [hl] at hb
      by_cases hba : b = a
      · simp [hba]
      · rw [Ne, hwithin.2, Function.update_of_ne hba] at hb
        have hmem := h.owned b hb
        simp only [addrs_append, addrs_cons, List.mem_append, List.mem_cons] at hmem ⊢
        tauto
    · have hlen : (xs ++ (a, d) :: ys).length = (xs ++ ys).length + 1 := by
        rw [List.length_append, List.length_append, List.length_cons, Nat.add_assoc]
      rw [hcount, h.count, hlen, UInt32.ofNat_add]
      rfl

/-- Unlinking and freeing an element in between two parts of the list. -/
lemma unlink (h : list.Linked cmp (xs ++ (a, d) :: ys)) :
    list.heap a = some ⟨d, lastOr xs none, headOr ys none⟩ ∧
    ∃ heap', updateLinks list.heap (lastOr xs none) none (headOr ys none) = some heap' ∧
      heap' a = some ⟨d, lastOr xs none, headOr ys none⟩ ∧
      ∀ list' : PrivListDesc w N, list'.heap = Function.update heap' a none →
        list'.comparator = cmp → list'.first = headOr (xs ++ ys) none →
        list'.last = lastOr (xs ++ ys) none →
        list'.nbElements = list.nbElements - 1 → list'.Linked cmp (xs ++ ys) := by
  obtain ⟨hx, ha, hy⟩ := chain_append.mp h.chain
  have hmiddle := h.nodup
  rw [addrs_append, addrs_cons] at hmiddle
  obtain ⟨hnot, hnodup⟩ := List.nodup_cons.mp (List.nodup_middle.mp hmiddle)
  rw [← addrs_append] at hnot hnodup
  obtain ⟨mid, heap', hmid, hheap, hcx, hcy, -, hwithin⟩ :=
    hx.relink hy hnodup (headOr ys none) (lastOr xs none)
  refine ⟨ha, heap', ?_, ?_, ?_⟩
  · rw [updateLinks_none, hmid]
    exact hheap
  · rw [hwithin.1 a hnot]
    exact ha
  · intro list' hl hcmp hfirst hlast hcount
    have hother : ∀ b ∈ addrs (xs ++ ys), list'.heap b = heap' b := by
      intro b hb
      rw [hl]
      apply Function.update_of_ne
      rintro rfl
      exact hnot hb
    refine ⟨hcmp, ?_, hnodup, ?_, hfirst, hlast, ?_⟩
    · exact (chain_append.mpr ⟨hcx, hcy⟩).congr hother
    · intro b hb
      have hba : b ≠ a := by
        rintro rfl
        rw [hl, Function.update_self] at hb
        exact hb rfl
      rw [hl, Function.update_of_ne hba, Ne, hwithin.2] at hb
      have hmem := h.owned b hb
      simp only [addrs_append, addrs_cons, List.mem_append, List.mem_cons] at hmem ⊢
      tauto
    · have hlen : (xs ++ (a, d) :: ys).length = (xs ++ ys).length + 1 := by
        rw [List.length_append, List.length_append, List.length_cons, Nat.add_assoc]
      rw [hcount, h.count, hlen, UInt32.ofNat_add]
      exact UInt32.add_sub_cancel _ _

lemma updateDesc_removeFirst (h : list.Linked cmp ((a, d) :: ns)) (heap : ListHeap w N) :
    ({ list with heap := heap } : PrivListDesc w N).updateDesc (headOr ns none) list.last =
      { list with heap := heap, first := headOr ns none, last := lastOr ns none } := by
  have hne : headOr ns none ≠ list.first := by
    intro hc
    rw [h.first] at hc
    exact (List.nodup_cons.mp h.nodup).1 (headOr_mem hc)
  have hlast := h.last
  rw [lastOr_cons, lastOr_some] at hlast
  unfold updateDesc
  rw [if_neg hne]
  by_cases hns : ns = []
  · simp [hns]
  · rw [if_neg hns] at hlast
    simp [hns, hlast, headOr_eq_none, lastOr_eq_none]

lemma updateDesc_removeLast (h : list.Linked cmp (xs ++ [(a, d)])) (heap : ListHeap w N) :
    ({ list with heap := heap } : PrivListDesc w N).updateDesc list.first (lastOr xs none) =
      { list with heap := heap, first := headOr xs none, last := lastOr xs none } := by
  have hfirst := h.first
  unfold updateDesc
  rw [if_pos rfl]
  cases xs with
  | nil => simp
  | cons x xs =>
    have hne : lastOr xs (some x.1) ≠ none := by
      rw [← lastOr_cons x xs none]
      exact fun hc => by simpa using lastOr_eq_none.mp hc
    simp only [List.cons_append, headOr_cons] at hfirst
    simp [hfirst, hne]

/-- `update_desc` in `iterator_get`, for an element at either end or in the middle. -/
lemma updateDesc_get (h : list.Linked cmp (xs ++ (a, d) :: ys)) (heap : ListHeap w N) :
    (if some a = list.first then
      ({ list with heap := heap } : PrivListDesc w N).updateDesc (headOr ys none) list.last
    else if some a = list.last then
      ({ list with heap := heap } : PrivListDesc w N).updateDesc list.first (lastOr xs none)
    else { list with heap := heap }) =
      { list with heap := heap, first := headOr (xs ++ ys) none, last := lastOr (xs ++ ys) none } := by
  by_cases hxs : xs = []
  · rw [if_pos (h.first_iff.mpr hxs)]
    subst hxs
    exact h.updateDesc_removeFirst heap
  · rw [if_neg (fun hc => hxs (h.first_iff.mp hc))]
    by_cases hys : ys = []
    · rw [if_pos (h.last_iff.mpr hys)]
      subst hys
      rw [List.append_nil]
      exact h.updateDesc_removeLast heap
    · rw [if_neg (fun hc => hys (h.last_iff.mp hc))]
      have hfirst := h.first
      have hlast := h.last
      obtain ⟨x, xs, rfl⟩ := List.exists_cons_of_ne_nil hxs
      obtain ⟨y, ys, rfl⟩ := List.exists_cons_of_ne_nil hys
      simp only [List.cons_append, headOr_cons, lastOr_cons, lastOr_append] at hfirst hlast ⊢
      rw [← hfirst, ← hlast]

lemma walk (h : list.Linked cmp ns) (stop : BitVec w → Bool) :
    walkTo list.heap stop N list.first =
      some (headOr (ns.dropWhile fun n => !stop n.2) none) := by
  rw [h.first]
  exact h.chain.walkTo stop (length_le_of_nodup h.nodup)

/-- The nodes before the first one that satisfies `hit`, and the rest. -/
lemma split (h : list.Linked cmp ns) (hit : BitVec w → Bool) :
    ∃ xs ys, ns = xs ++ ys ∧ walkTo list.heap hit N list.first = some (headOr ys none) ∧
      datas xs = (datas ns).takeWhile (fun d => !hit d) ∧
      datas ys = (datas ns).dropWhile (fun d => !hit d) := by
  refine ⟨ns.takeWhile fun n => !hit n.2, ns.dropWhile fun n => !hit n.2,
    List.takeWhile_append_dropWhile.symm, h.walk hit, ?_, ?_⟩
  · unfold datas
    rw [List.takeWhile_map]
    rfl
  · unfold datas
    rw [List.dropWhile_map]
    rfl

end PrivListDesc.Linked

end NoOS
