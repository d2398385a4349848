import NoOS.Util.ListIterator

/-!
# Calls with an index

An index is passed to `iterator_move` as a signed number. From 2^31 on it is negative, and there is nothing
before the first element; but the least number is not moved by at all. An empty list takes an item at any index.
-/

namespace NoOS
open DoublyLinked Word

variable {w N : ℕ}

/-- The calls with an index act on its element and fail if there is none. -/
structure PrivListDesc.RespectsIdx (cmp : BitVec w → BitVec w → Int32) (list : PrivListDesc w N)
    (ds : List (BitVec w)) (idx : UInt32) (data : BitVec w) (mem : ElemPtr N) : Prop where
  get : Refines cmp (listGetIdx list idx) (seqGet (ds[idx.toNat]?.map fun d => (d, ds.eraseIdx idx.toNat)) ds)
  edit : Refines cmp (listEditIdx list data idx) (seqAdd (idx.toNat < ds.length) (ds.set idx.toNat data) ds)
  read : Refines cmp (listReadIdx list idx) (seqRead ds[idx.toNat]? ds)
  add : Refines cmp (listAddIdx list data idx mem)
    (seqAdd (grants list.heap mem && idx.toNat ≤ ds.length) (ds.insertIdx idx.toNat data) ds)

namespace PrivListDesc.Linked

variable {cmp : BitVec w → BitVec w → Int32} {list : PrivListDesc w N} {xs ys ns : List (ElemAddr N × BitVec w)}
  {a : ElemAddr N} {d data : BitVec w} {idx : UInt32} {mem : ElemPtr N}

lemma walkBy_first (h : list.Linked cmp ns) (hn : ns.length < 2 ^ 31) (hidx : ns = [] ∨ idx ≠ 2 ^ 31) :
    walkBy list.heap (¬idx.toInt32 < 0) idx.toInt32.abs.toInt.toNat list.first =
      some (headOr (ns.drop idx.toNat) none) := by
  rw [h.first]
  cases ns with
  | nil =>
    rw [List.drop_nil]
    exact Iterator.walkBy_none _ _ _
  | cons n ns =>
    by_cases hsmall : idx.toNat < 2 ^ 31
    · obtain ⟨hneg, habs⟩ := toInt32_abs hsmall
      rw [habs, decide_eq_true hneg]
      exact h.chain.walkBy idx.toNat
    · have hne : idx.toNat ≠ 2 ^ 31 := fun hc => hidx.resolve_left (List.cons_ne_nil _ _) (UInt32.toNat_inj.mp hc)
      have hneg : idx.toInt32 < 0 := toInt32_neg.mpr (not_lt.mp hsmall)
      have hmin : idx.toInt32 ≠ Int32.minValue := by
        intro hc
        apply hne
        have hbits := congrArg (fun i : Int32 => i.toBitVec.toNat) hc
        exact hbits
      have hlt := idx.toNat_lt
      have habs : idx.toInt32.toInt.natAbs = (2 ^ 32 - idx.toNat - 1) + 1 := by
        change idx.toBitVec.toInt.natAbs = _
        rw [BitVec.toInt_eq_toNat_cond, UInt32.toNat_toBitVec]
        split
        · lia
        · lia
      have hdrop : (n :: ns).drop idx.toNat = [] := List.drop_eq_nil_of_le (by lia)
      rw [toNat_abs hmin, habs, hdrop, decide_eq_false (not_not.mpr hneg), headOr_cons, walkBy, h.chain.1]
      exact Iterator.walkBy_none _ _ _

lemma iteratorMove_first (h : list.Linked cmp ns) (hn : ns.length < 2 ^ 31) (hidx : ns = [] ∨ idx ≠ 2 ^ 31) :
    iteratorMove list list.first idx.toInt32 =
      some (if idx.toNat < ns.length then (SUCCESS, headOr (ns.drop idx.toNat) none) else (FAILURE, list.first)) := by
  rw [iteratorMove, h.walkBy_first hn hidx]
  by_cases hlt : idx.toNat < ns.length
  · rw [List.drop_eq_getElem_cons hlt, if_pos hlt]
    rfl
  · rw [List.drop_eq_nil_of_le (not_lt.mp hlt), if_neg hlt]
    rfl

lemma iteratorMove_far (h : list.Linked cmp ns) (hn : ns.length < 2 ^ 31) (hidx : ns = [] ∨ idx ≠ 2 ^ 31)
    (hfar : ns.length ≤ idx.toNat) : iteratorMove list list.first idx.toInt32 = some (FAILURE, list.first) := by
  rw [h.iteratorMove_first hn hidx, if_neg (not_lt.mpr hfar)]

/-- An element with `xs` before it has the index of their number. -/
lemma iteratorMove_near (h : list.Linked cmp (xs ++ (a, d) :: ys)) (hn : (xs ++ (a, d) :: ys).length < 2 ^ 31)
    (hidx : idx.toNat = xs.length) : iteratorMove list list.first idx.toInt32 = some (SUCCESS, some a) := by
  have hlt : idx.toNat < (xs ++ (a, d) :: ys).length := by
    rw [hidx, List.length_append, List.length_cons]
    lia
  have hne : idx ≠ 2 ^ 31 := by
    rintro rfl
    exact absurd (hlt.trans hn) (by decide)
  rw [h.iteratorMove_first hn (.inr hne), if_pos hlt, hidx, List.drop_left, headOr_cons]

lemma getIdx (h : list.Linked cmp ns) (hn : ns.length < 2 ^ 31) (hidx : ns = [] ∨ idx ≠ 2 ^ 31) :
    Refines cmp (listGetIdx list idx)
      (seqGet ((datas ns)[idx.toNat]?.map fun d => (d, (datas ns).eraseIdx idx.toNat)) (datas ns)) := by
  have hlen : (datas ns).length = ns.length := List.length_map _
  by_cases hfar : ns.length ≤ idx.toNat
  · rw [List.getElem?_eq_none (by lia)]
    refine ⟨{ list with lIt := list.first }, ns, ?_, h.setIt _, rfl⟩
    rw [listGetIdx, h.iteratorMove_far hn hidx hfar]
    rfl
  · obtain ⟨xs, a, d, ys, rfl, hxs⟩ := exists_split (not_le.mp hfar)
    obtain ⟨list', hget, hlinked⟩ := (h.setIt (some a)).iteratorGet
    have hpos : idx.toNat = (datas xs).length := by rw [← hxs, datas, List.length_map]
    refine ⟨{ list' with lIt := headOr ys none }, xs ++ ys, ?_, hlinked.setIt _, ?_⟩
    · rw [listGetIdx, h.iteratorMove_near hn hxs.symm, datas_append, datas_cons, hpos]
      simp [hget, seqGet]
    · rw [datas_append, datas_append, datas_cons, hpos]
      simp [seqGet, List.eraseIdx_append_of_length_le]

lemma editIdx (h : list.Linked cmp ns) (hn : ns.length < 2 ^ 31) (hidx : ns = [] ∨ idx ≠ 2 ^ 31) :
    Refines cmp (listEditIdx list data idx)
      (seqAdd (idx.toNat < (datas ns).length) ((datas ns).set idx.toNat data) (datas ns)) := by
  have hlen : (datas ns).length = ns.length := List.length_map _
  by_cases hfar : ns.length ≤ idx.toNat
  · rw [decide_eq_false (by lia)]
    refine ⟨{ list with lIt := list.first }, ns, ?_, h.setIt _, rfl⟩
    rw [listEditIdx, h.iteratorMove_far hn hidx hfar]
    rfl
  · obtain ⟨xs, a, d, ys, rfl, hxs⟩ := exists_split (not_le.mp hfar)
    obtain ⟨list', hedit, hlinked⟩ := (h.setIt (some a)).iteratorEdit data
    have hpos : idx.toNat = (datas xs).length := by rw [← hxs, datas, List.length_map]
    rw [decide_eq_true (by lia)]
    refine ⟨list', xs ++ (a, data) :: ys, ?_, hlinked, ?_⟩
    · rw [listEditIdx, h.iteratorMove_near hn hxs.symm]
      simp [hedit, seqAdd]
    · rw [datas_append, datas_append, datas_cons, datas_cons, hpos]
      simp [seqAdd]

lemma listAddIdx_first (h : list.Linked cmp ns) (hn : ns.length < 2 ^ 31) (hidx : ns = [] ∨ idx = 0) :
    listAddIdx list data idx mem = listAddFirst list data mem := by
  have hcount := h.count_eq_zero (by omega)
  rw [listAddIdx, if_pos (hidx.imp_left hcount.mpr)]

lemma listAddIdx_other (h : list.Linked cmp ns) (hn : ns.length < 2 ^ 31) (hne : ns ≠ []) (hzero : idx ≠ 0) :
    listAddIdx list data idx mem = if ns.length = idx.toNat then listAddLast list data mem
      else (iteratorMove list list.first idx.toInt32).bind fun r =>
        if r.1 ≠ SUCCESS then some (FAILURE, { list with lIt := r.2 })
        else iteratorInsert { list with lIt := r.2 } r.2 data false mem := by
  have hcount := h.count_eq_zero (by omega)
  have hnat : list.nbElements = idx ↔ ns.length = idx.toNat := by
    rw [← UInt32.toNat_inj, h.toNat_count (by omega)]
  rw [listAddIdx, if_neg (not_or.mpr ⟨fun hc => hne (hcount.mp hc), hzero⟩)]
  exact ite_congr (propext hnat) (fun _ => rfl) fun _ => rfl

lemma addIdx (h : list.Linked cmp ns) (hn : ns.length < 2 ^ 31)
    (hempty : ns = [] → idx = 0 ∨ grants list.heap mem = false) (hmin : ns ≠ [] → idx ≠ 2 ^ 31) :
    Refines cmp (listAddIdx list data idx mem)
      (seqAdd (grants list.heap mem && idx.toNat ≤ (datas ns).length) ((datas ns).insertIdx idx.toNat data)
        (datas ns)) := by
  have hlen : (datas ns).length = ns.length := List.length_map _
  by_cases hzero : idx = 0
  · subst hzero
    have hle : decide ((0 : UInt32).toNat ≤ (datas ns).length) = true := decide_eq_true (Nat.zero_le _)
    rw [h.listAddIdx_first hn (.inr rfl), hle, Bool.and_true]
    exact h.addFirst
  by_cases hne : ns = []
  · have hadd : Refines cmp (listAddFirst list data mem) _ := h.addFirst
    rw [(hempty hne).resolve_left hzero] at hadd ⊢
    rw [h.listAddIdx_first hn (.inl hne)]
    exact hadd
  rw [h.listAddIdx_other hn hne hzero]
  rcases lt_trichotomy ns.length idx.toNat with hlt | heq | hgt
  · rw [if_neg hlt.ne, h.iteratorMove_far hn (.inr (hmin hne)) hlt.le, decide_eq_false (by lia), Bool.and_false]
    exact ⟨{ list with lIt := list.first }, ns, rfl, h.setIt _, rfl⟩
  · rw [if_pos heq, decide_eq_true (by lia), Bool.and_true, ← heq, ← hlen, List.insertIdx_length_self]
    exact h.addLast data mem
  · obtain ⟨xs, a, d, ys, rfl, hxs⟩ := exists_split hgt
    have hpos : idx.toNat = (datas xs).length := by rw [← hxs, datas, List.length_map]
    have hins := (h.setIt (some a)).insertBefore data mem
    rw [if_neg hgt.ne', h.iteratorMove_near hn hxs.symm, decide_eq_true (by lia), Bool.and_true, hpos,
      datas_append, datas_cons]
    rw [datas_append, datas_cons] at hins
    have hinsert : (datas xs ++ d :: datas ys).insertIdx (datas xs).length data =
        datas xs ++ data :: d :: datas ys := List.modifyTailIdx_add (List.cons data) 0 (datas xs) (d :: datas ys)
    rw [hinsert]
    exact hins

/-- The calls with an index respect it if and only if the list is empty and 0 is the index of the call (or
there is no memory), or it has elements and the index is not 2^31. -/
theorem respectsIdx_iff (h : list.Linked cmp ns) (hn : ns.length < 2 ^ 31) (idx : UInt32) (data : BitVec w)
    (mem : ElemPtr N) : list.RespectsIdx cmp (datas ns) idx data mem ↔
      (ns = [] → idx = 0 ∨ grants list.heap mem = false) ∧ (ns ≠ [] → idx ≠ 2 ^ 31) := by
  constructor
  · intro hresp
    constructor
    · rintro rfl
      by_contra hbad
      rw [not_or, Bool.not_eq_false] at hbad
      have hpos : ¬idx.toNat ≤ 0 := fun hc => hbad.1 (UInt32.toNat_inj.mp (Nat.le_zero.mp hc))
      have hadd := hresp.add
      rw [h.listAddIdx_first hn (.inl rfl), datas_nil, List.length_nil, decide_eq_false hpos, Bool.and_false] at hadd
      have hfirst : Refines cmp (listAddFirst list data mem) _ := h.addFirst
      rw [hbad.2] at hfirst
      exact absurd (hadd.ret_unique hfirst) (by decide : FAILURE ≠ SUCCESS)
    · rintro hne rfl
      obtain ⟨⟨a, d⟩, rest, rfl⟩ := List.exists_cons_of_ne_nil hne
      have hlen : (datas ((a, d) :: rest)).length = ((a, d) :: rest).length := List.length_map _
      have hfar : (datas ((a, d) :: rest))[(2 ^ 31 : UInt32).toNat]? = none :=
        List.getElem?_eq_none (by rw [hlen]; exact hn.le)
      have hmove : iteratorMove list list.first (2 ^ 31 : UInt32).toInt32 = some (SUCCESS, some a) := by
        rw [h.first]
        rfl
      have hstart : ({ list with lIt := some a } : PrivListDesc w N).Linked cmp ([] ++ (a, d) :: rest) := h.setIt _
      obtain ⟨list', hget, hlinked⟩ := hstart.iteratorGet
      have hsome : Refines cmp (listGetIdx list (2 ^ 31)) ((SUCCESS, d), datas rest) := by
        refine ⟨{ list' with lIt := headOr rest none }, rest, ?_, hlinked.setIt _, rfl⟩
        rw [listGetIdx, hmove]
        simp [hget]
      have hnone := hresp.get
      rw [hfar] at hnone
      exact absurd (congrArg Prod.fst (hnone.ret_unique hsome)) (by decide : FAILURE ≠ SUCCESS)
  · rintro ⟨hempty, hmin⟩
    have hidx : ns = [] ∨ idx ≠ 2 ^ 31 := or_iff_not_imp_left.mpr hmin
    exact ⟨h.getIdx hn hidx, h.editIdx hn hidx, h.readIdx hn.le idx, h.addIdx hn hempty hmin⟩

theorem respectsIdx_two : twoItems.RespectsIdx defaultComparator [1, 2] 1 7 (some ⟨2, by decide⟩) :=
  (twoItems_linked.respectsIdx_iff (by decide) 1 7 (some ⟨2, by decide⟩)).mpr (by decide)

/-- The index 2^31 takes the first element out. -/
theorem not_respectsIdx : ¬∀ (list : PrivListDesc 32) (ns : List (ElemAddr × BitVec 32)) (idx : UInt32)
    (data : BitVec 32) (mem : ElemPtr), list.Linked defaultComparator ns → ns.length < 2 ^ 31 →
    list.RespectsIdx defaultComparator (datas ns) idx data mem := by
  intro h
  obtain ⟨list', ns, hresult, -⟩ := (h twoItems _ (2 ^ 31) 0 none twoItems_linked (by decide)).get
  have hret : (listGetIdx twoItems (2 ^ 31)).map (fun r => r.1.1) = some SUCCESS := by decide
  rw [hresult] at hret
  exact absurd (Option.some.inj hret : FAILURE = SUCCESS) (by decide)

end PrivListDesc.Linked

end NoOS
