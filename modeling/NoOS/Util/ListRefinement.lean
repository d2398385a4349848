import NoOS.Lib.Trace
import NoOS.Lib.Word
import NoOS.Util.ListInvariant

/-!
# The list represents a sequence

Every call finds the place of the change, links or unlinks one element there, and so acts
on the sequence of the list as it should.
-/

namespace NoOS
open DoublyLinked Word

variable {w N : ℕ} {cmp : BitVec w → BitVec w → Int32} {list : PrivListDesc w N}
  {xs ys ns : List (ElemAddr N × BitVec w)} {a : ElemAddr N} {d data : BitVec w} {mem : ElemPtr N}

/-- The call returns as expected and leaves a list for the expected sequence. -/
def Refines {ρ : Type*} (cmp : BitVec w → BitVec w → Int32) (result : Option (ρ × PrivListDesc w N))
    (expected : ρ × List (BitVec w)) : Prop :=
  ∃ list' ns, result = some (expected.1, list') ∧ list'.Linked cmp ns ∧ datas ns = expected.2

lemma Refines.ret_unique {ρ : Type*} {result : Option (ρ × PrivListDesc w N)} {e e' : ρ × List (BitVec w)}
    (h : Refines cmp result e) (h' : Refines cmp result e') : e.1 = e'.1 := by
  obtain ⟨list, -, hr, -⟩ := h
  obtain ⟨list', -, hr', -⟩ := h'
  rw [hr, Option.some.injEq, Prod.mk.injEq] at hr'
  exact hr'.1

/-- A new element is linked between `xs` and `ys` if there is memory for it. -/
def Inserts (cmp : BitVec w → BitVec w → Int32) (list : PrivListDesc w N) (granted : Bool)
    (xs ys : List (ElemAddr N × BitVec w)) (data : BitVec w) (result : Option (Int × PrivListDesc w N)) : Prop :=
  if granted then ∃ b list', result = some (SUCCESS, list') ∧ list'.Linked cmp (xs ++ (b, data) :: ys)
  else result = some (FAILURE, list)

lemma Inserts.refines {granted : Bool} {result : Option (Int × PrivListDesc w N)}
    (hins : Inserts cmp list granted xs ys data result) (h : list.Linked cmp (xs ++ ys)) :
    Refines cmp result (seqAdd granted (datas xs ++ data :: datas ys) (datas (xs ++ ys))) := by
  cases granted with
  | false => exact ⟨list, xs ++ ys, hins, h, rfl⟩
  | true =>
    obtain ⟨b, list', hresult, hlinked⟩ := hins
    exact ⟨list', _, hresult, hlinked, datas_append _ _⟩

lemma of_dropWhile_nil {δ : Type*} {hit : δ → Bool} {ds : List δ}
    (h : ds.dropWhile (fun d => !hit d) = []) : ds.find? hit = none ∧ ds.any hit = false := by
  induction ds with
  | nil => simp
  | cons e ds ih =>
    cases he : hit e with
    | true => simp [he] at h
    | false =>
      simp only [List.dropWhile_cons, he, Bool.not_false, if_true] at h
      rw [List.find?_cons_of_neg (by simp [he]), List.any_cons, he, Bool.false_or]
      exact ih h

lemma of_dropWhile_cons {δ : Type*} {hit : δ → Bool} {ds : List δ} {d : δ} {rest : List δ}
    (h : ds.dropWhile (fun d => !hit d) = d :: rest) :
    ds.find? hit = some d ∧ ds.any hit = true ∧
      ds.eraseP hit = ds.takeWhile (fun d => !hit d) ++ rest := by
  induction ds with
  | nil => simp at h
  | cons e ds ih =>
    cases he : hit e with
    | true =>
      simp only [List.dropWhile_cons, he, Bool.not_true, Bool.false_eq_true, if_false,
        List.cons.injEq] at h
      obtain ⟨rfl, rfl⟩ := h
      simp [he]
    | false =>
      simp only [List.dropWhile_cons, he, Bool.not_false, if_true] at h
      obtain ⟨hfind, hany, herase⟩ := ih h
      rw [List.find?_cons_of_neg (by simp [he]), List.any_cons, he, Bool.false_or]
      exact ⟨hfind, hany, by simp [he, herase]⟩

namespace PrivListDesc.Linked

lemma insertsFirst (h : list.Linked cmp ns) :
    Inserts cmp list (grants list.heap mem) [] ns data (listAddFirst list data mem) := by
  cases hg : grants list.heap mem with
  | false => simp [Inserts, listAddFirst, createElement_null hg]
  | true =>
    obtain ⟨a, ha, hcreate⟩ := createElement_grants hg
    have h' : list.Linked cmp ([] ++ ns) := h
    obtain ⟨heap', hlinks, hrep⟩ := h'.link ha data
    have hne : some a ≠ list.first := by
      intro hc
      rw [h.first] at hc
      exact h.fresh ha (headOr_mem hc.symm)
    rw [← h.first] at hlinks
    simp only [lastOr_nil] at hlinks
    refine ⟨a, _, ?_, hrep (({ list with heap := heap' }).updateDesc (some a) list.last).incr ?_ ?_ ?_ ?_ ?_⟩
    · simp [listAddFirst, hcreate, hlinks]
    · simp [updateDesc, incr, hne]
    · simp [updateDesc, incr, hne, h.comparator]
    · simp [updateDesc, incr, hne]
    · simp [updateDesc, incr, hne, h.last, lastOr_eq_none, lastOr_some]
    · simp [updateDesc, incr, hne]

lemma insertsLast (h : list.Linked cmp ns) :
    Inserts cmp list (grants list.heap mem) ns [] data (listAddLast list data mem) := by
  cases hg : grants list.heap mem with
  | false => simp [Inserts, listAddLast, createElement_null hg]
  | true =>
    obtain ⟨a, ha, hcreate⟩ := createElement_grants hg
    have h' : list.Linked cmp (ns ++ []) := by rwa [List.append_nil]
    obtain ⟨heap', hlinks, hrep⟩ := h'.link ha data
    rw [← h.last] at hlinks
    simp only [headOr_nil] at hlinks
    refine ⟨a, _, ?_, hrep (({ list with heap := heap' }).updateDesc list.first (some a)).incr ?_ ?_ ?_ ?_ ?_⟩
    · simp [listAddLast, hcreate, hlinks]
    · simp [updateDesc, incr]
    · simp [updateDesc, incr, h.comparator]
    · cases ns with
      | nil => simp [updateDesc, incr, h.first]
      | cons n ns => simp [updateDesc, incr, h.first]
    · simp [updateDesc, incr]
    · simp [updateDesc, incr]

lemma link_middle (h : list.Linked cmp (xs ++ ys)) (ha : list.heap a = none) (hx : xs ≠ []) (hy : ys ≠ [])
    (data : BitVec w) :
    ∃ heap', updateLinks (Function.update list.heap a (some ⟨data, lastOr xs none, headOr ys none⟩))
        (lastOr xs none) (some a) (headOr ys none) = some heap' ∧
      (({ list with heap := heap' } : PrivListDesc w N).incr).Linked cmp (xs ++ (a, data) :: ys) := by
  obtain ⟨heap', hlinks, hrep⟩ := h.link ha data
  refine ⟨heap', hlinks, hrep ({ list with heap := heap' } : PrivListDesc w N).incr rfl h.comparator ?_ ?_ rfl⟩
  · obtain ⟨x, xs, rfl⟩ := List.exists_cons_of_ne_nil hx
    exact h.first
  · obtain ⟨y, ys, rfl⟩ := List.exists_cons_of_ne_nil hy
    simpa [incr] using h.last

lemma insertsBefore (h : list.Linked cmp (xs ++ (a, d) :: ys)) :
    Inserts cmp list (grants list.heap mem) xs ((a, d) :: ys) data (iteratorInsert list (some a) data false mem) := by
  by_cases hx : xs = []
  · subst hx
    have hfirst := h.first_iff.mpr rfl
    rw [iteratorInsert, if_neg (by simp), if_pos ⟨by simp, hfirst⟩]
    exact h.insertsFirst
  · have hfirst : some a ≠ list.first := fun hc => hx (h.first_iff.mp hc)
    obtain ⟨-, ha, -⟩ := chain_append.mp h.chain
    rw [iteratorInsert, if_neg (by simp), if_neg (fun hc => hfirst hc.2)]
    cases hg : grants list.heap mem with
    | false => simp [Inserts, fetch, ha, createElement_null hg]
    | true =>
      obtain ⟨b, hb, hcreate⟩ := createElement_grants hg
      obtain ⟨heap', hlinks, hlinked⟩ := h.link_middle hb hx (List.cons_ne_nil _ _) data
      simp only [headOr_cons] at hlinks
      exact ⟨b, _, by simp [fetch, ha, hcreate, hlinks], hlinked⟩

lemma insertsAfter (h : list.Linked cmp (xs ++ (a, d) :: ys)) :
    Inserts cmp list (grants list.heap mem) (xs ++ [(a, d)]) ys data (iteratorInsert list (some a) data true mem) := by
  by_cases hy : ys = []
  · subst hy
    have hlast := h.last_iff.mpr rfl
    rw [iteratorInsert, if_pos ⟨rfl, hlast⟩]
    exact h.insertsLast
  · have hlast : some a ≠ list.last := fun hc => hy (h.last_iff.mp hc)
    obtain ⟨-, ha, -⟩ := chain_append.mp h.chain
    rw [iteratorInsert, if_neg (fun hc => hlast hc.2), if_neg (by simp)]
    cases hg : grants list.heap mem with
    | false => simp [Inserts, fetch, ha, createElement_null hg]
    | true =>
      obtain ⟨b, hb, hcreate⟩ := createElement_grants hg
      rw [List.append_cons] at h
      obtain ⟨heap', hlinks, hlinked⟩ := h.link_middle hb (by simp) hy data
      simp only [lastOr_append, lastOr_cons, lastOr_nil] at hlinks
      exact ⟨b, _, by simp [fetch, ha, hcreate, hlinks], hlinked⟩

lemma addFirst (h : list.Linked cmp ns) :
    Refines cmp (listAddFirst list data mem) (seqAdd (grants list.heap mem) (data :: datas ns) (datas ns)) :=
  h.insertsFirst.refines h

lemma addLast (h : list.Linked cmp ns) (data : BitVec w) (mem : ElemPtr N) :
    Refines cmp (listAddLast list data mem)
      (seqAdd (grants list.heap mem) (datas ns ++ [data]) (datas ns)) := by
  have hadd : Inserts cmp list (grants list.heap mem) ns [] data (listAddLast list data mem) := h.insertsLast
  have href := hadd.refines (by rwa [List.append_nil])
  rwa [List.append_nil] at href

lemma insertBefore (h : list.Linked cmp (xs ++ (a, d) :: ys)) (data : BitVec w) (mem : ElemPtr N) :
    Refines cmp (iteratorInsert list (some a) data false mem)
      (seqAdd (grants list.heap mem) (datas xs ++ data :: d :: datas ys)
        (datas (xs ++ (a, d) :: ys))) :=
  h.insertsBefore.refines h

lemma addFind (h : list.Linked cmp ns) :
    Refines cmp (listAddFind list data mem)
      (seqAdd (grants list.heap mem) (insertWhere (fun d => 0 < cmp d data) data (datas ns))
        (datas ns)) := by
  have hcmp := h.comparator
  subst hcmp
  obtain ⟨xs, ys, rfl, hwalk, hxs, hys⟩ := h.split fun d => 0 < list.comparator d data
  rw [insertWhere, ← hxs, ← hys, listAddFind, hwalk]
  cases ys with
  | nil =>
    rw [List.append_nil] at h ⊢
    have hadd := (h.setIt list.last).addLast data mem
    simpa [iteratorInsert] using hadd
  | cons n ys =>
    have hins := (h.setIt (some n.1)).insertBefore data mem
    simpa using hins

lemma getFirst_cons (h : list.Linked cmp ((a, d) :: ns)) (hcount : list.nbElements ≠ 0) :
    Refines cmp (listGetFirst list) ((SUCCESS, d), datas ns) := by
  have h' : list.Linked cmp ([] ++ (a, d) :: ns) := h
  obtain ⟨ha, heap', hlinks, ha', hrep⟩ := h'.unlink
  have hfirst : list.first = some a := h.first
  have hdesc := h.updateDesc_removeFirst heap'
  have hread : fetch list.heap list.first = some ⟨d, none, headOr ns none⟩ := by
    rw [hfirst]
    exact ha
  have hread' : fetch heap' list.first = some ⟨d, none, headOr ns none⟩ := by
    rw [hfirst]
    exact ha'
  have hfree : free heap' list.first = some (Function.update heap' a none) := by
    rw [hfirst]
    exact free_some ha'
  simp only [lastOr_nil] at hlinks
  refine ⟨_, ns, ?_, hrep ({ ({ list with
    heap := heap', first := headOr ns none, last := lastOr ns none } : PrivListDesc w N).decr with
    heap := Function.update heap' a none }) rfl h.comparator rfl rfl rfl, rfl⟩
  simp [listGetFirst, hcount, hread, hlinks, hread', hfree, hdesc]

lemma getFirst (h : list.Linked cmp ns) (hlen : ns.length < 2 ^ 32) :
    Refines cmp (listGetFirst list)
      (seqGet ((datas ns).head?.map fun d => (d, (datas ns).tail)) (datas ns)) := by
  cases ns with
  | nil => exact ⟨list, [], by simp [listGetFirst, h.count_eq_zero hlen, seqGet], h, rfl⟩
  | cons n ns =>
    have hcount : list.nbElements ≠ 0 := fun hc => by simpa using (h.count_eq_zero hlen).mp hc
    exact h.getFirst_cons hcount

lemma getLast_concat (h : list.Linked cmp (xs ++ [(a, d)])) (hcount : list.nbElements ≠ 0) :
    Refines cmp (listGetLast list) ((SUCCESS, d), datas xs) := by
  obtain ⟨ha, heap', hlinks, ha', hrep⟩ := unlink h
  have hlast : list.last = some a := by simpa using h.last
  have hdesc := h.updateDesc_removeLast heap'
  have hread : fetch list.heap list.last = some ⟨d, lastOr xs none, none⟩ := by
    rw [hlast]
    exact ha
  have hread' : fetch heap' list.last = some ⟨d, lastOr xs none, none⟩ := by
    rw [hlast]
    exact ha'
  have hfree : free heap' list.last = some (Function.update heap' a none) := by
    rw [hlast]
    exact free_some ha'
  simp only [headOr_nil, List.append_nil] at hlinks hrep
  refine ⟨_, xs, ?_, hrep ({ ({ list with
    heap := heap', first := headOr xs none, last := lastOr xs none } : PrivListDesc w N).decr with
    heap := Function.update heap' a none }) rfl h.comparator rfl rfl rfl, rfl⟩
  simp [listGetLast, hcount, hread, hlinks, hread', hfree, hdesc]

lemma getLast (h : list.Linked cmp ns) (hlen : ns.length < 2 ^ 32) :
    Refines cmp (listGetLast list)
      (seqGet ((datas ns).getLast?.map fun d => (d, (datas ns).dropLast)) (datas ns)) := by
  rcases List.eq_nil_or_concat ns with rfl | ⟨xs, ⟨a, d⟩, rfl⟩
  · exact ⟨list, [], by simp [listGetLast, h.count_eq_zero hlen, seqGet], h, rfl⟩
  · have hcount : list.nbElements ≠ 0 := fun hc => by simpa using (h.count_eq_zero hlen).mp hc
    rw [List.concat_eq_append] at h ⊢
    simpa [seqGet] using h.getLast_concat hcount

lemma iteratorGet (h : list.Linked cmp (xs ++ (a, d) :: ys)) :
    ∃ list', NoOS.iteratorGet list (some a) = some (SUCCESS, some d, headOr ys none, list') ∧
      list'.Linked cmp (xs ++ ys) := by
  obtain ⟨ha, heap', hlinks, ha', hrep⟩ := unlink h
  have hdesc := h.updateDesc_get heap'
  have hlast : some a ≠ lastOr (xs ++ ys) none := fun hc => h.not_mem_rest (lastOr_mem hc.symm)
  refine ⟨_, ?_, hrep ({ ({ list with
    heap := heap'
    first := headOr (xs ++ ys) none
    last := lastOr (xs ++ ys) none } : PrivListDesc w N).decr with
    heap := Function.update heap' a none }) rfl h.comparator rfl rfl rfl⟩
  have hread : fetch list.heap (some a) = some ⟨d, lastOr xs none, headOr ys none⟩ := ha
  have hread' : fetch heap' (some a) = some ⟨d, lastOr xs none, headOr ys none⟩ := ha'
  simp only [NoOS.iteratorGet, Option.isNone_some, Bool.false_eq_true, if_false, hread, hlinks,
    hread', Option.bind_eq_bind, Option.bind_some, hdesc, decr, if_neg hlast, free_some ha']

lemma iteratorFind (h : list.Linked cmp ns) (key : BitVec w) :
    ∃ xs ys, ns = xs ++ ys ∧
      datas xs = (datas ns).takeWhile (fun d => !decide (0 = cmp d key)) ∧
      datas ys = (datas ns).dropWhile (fun d => !decide (0 = cmp d key)) ∧
      ∀ it, NoOS.iteratorFind list it key =
        if ys = [] then some (FAILURE, it) else some (SUCCESS, headOr ys none) := by
  have hcmp := h.comparator
  subst hcmp
  obtain ⟨xs, ys, hns, hwalk, hxs, hys⟩ := h.split fun d => 0 = list.comparator d key
  refine ⟨xs, ys, hns, hxs, hys, fun it => ?_⟩
  rw [NoOS.iteratorFind, hwalk]
  cases ys with
  | nil => simp
  | cons n ys => simp

lemma getFind (h : list.Linked cmp ns) (key : BitVec w) :
    Refines cmp (listGetFind list key)
      (seqGet (((datas ns).find? fun d => 0 = cmp d key).map
        fun d => (d, (datas ns).eraseP fun d => 0 = cmp d key)) (datas ns)) := by
  obtain ⟨xs, ys, hns, hxs, hys, hfind⟩ := h.iteratorFind key
  cases ys with
  | nil =>
    obtain ⟨hnone, -⟩ := of_dropWhile_nil hys.symm
    rw [hnone]
    refine ⟨{ list with lIt := list.first }, ns, ?_, h.setIt _, rfl⟩
    simp [listGetFind, hfind, seqGet, SUCCESS, FAILURE]
  | cons n ys =>
    obtain ⟨hsome, -, herase⟩ := of_dropWhile_cons hys.symm
    rw [hsome, herase, ← hxs]
    subst hns
    obtain ⟨list', hget, hrep⟩ := (h.setIt (some n.1)).iteratorGet
    refine ⟨{ list' with lIt := headOr ys none }, xs ++ ys, ?_, hrep.setIt _, datas_append _ _⟩
    simp [listGetFind, hfind, hget, seqGet]

lemma iteratorRead (h : list.Linked cmp (xs ++ (a, d) :: ys)) :
    NoOS.iteratorRead list (some a) = some (SUCCESS, some d) := by
  obtain ⟨-, ha, -⟩ := chain_append.mp h.chain
  simp [NoOS.iteratorRead, fetch, ha]

lemma readFind (h : list.Linked cmp ns) (key : BitVec w) :
    Refines cmp (listReadFind list key)
      (seqRead ((datas ns).find? fun d => 0 = cmp d key) (datas ns)) := by
  obtain ⟨xs, ys, hns, hxs, hys, hfind⟩ := h.iteratorFind key
  cases ys with
  | nil =>
    obtain ⟨hnone, -⟩ := of_dropWhile_nil hys.symm
    rw [hnone]
    refine ⟨{ list with lIt := list.first }, ns, ?_, h.setIt _, rfl⟩
    simp [listReadFind, hfind, seqRead, seqGet, SUCCESS, FAILURE]
  | cons n ys =>
    obtain ⟨hsome, -⟩ := of_dropWhile_cons hys.symm
    rw [hsome]
    refine ⟨{ list with lIt := some n.1 }, ns, ?_, h.setIt _, rfl⟩
    subst hns
    have hread := (h.setIt (some n.1)).iteratorRead
    simp [listReadFind, hfind, hread, seqRead, seqGet]

lemma iteratorEdit (h : list.Linked cmp (xs ++ (a, d) :: ys)) (new : BitVec w) :
    ∃ list', NoOS.iteratorEdit list (some a) new = some (SUCCESS, list') ∧
      list'.Linked cmp (xs ++ (a, new) :: ys) := by
  obtain ⟨hx, ha, hy⟩ := chain_append.mp h.chain
  have hnot := h.not_mem_rest
  rw [addrs_append, List.mem_append, not_or] at hnot
  obtain ⟨heap', hheap⟩ : ∃ heap', heap' = Function.update list.heap a
      (some ⟨new, lastOr xs none, headOr ys none⟩) := ⟨_, rfl⟩
  have hself : heap' a = some ⟨new, lastOr xs none, headOr ys none⟩ := by
    rw [hheap, Function.update_self]
  have hother : ∀ b, b ≠ a → heap' b = list.heap b := by
    intro b hb
    rw [hheap, Function.update_of_ne hb]
  refine ⟨{ list with heap := heap' }, ?_, h.comparator, ?_, ?_, ?_, ?_, ?_, ?_⟩
  · simp [NoOS.iteratorEdit, ha, hheap]
  · refine chain_append.mpr ⟨hx.congr ?_, hself, hy.congr ?_⟩
    · intro b hb
      apply hother
      rintro rfl
      exact hnot.1 hb
    · intro b hb
      apply hother
      rintro rfl
      exact hnot.2 hb
  · simpa using h.nodup
  · intro b hb
    by_cases hba : b = a
    · simp [hba]
    · have hold : list.heap b ≠ none := hother b hba ▸ hb
      simpa using h.owned b hold
  · simpa using h.first
  · simpa using h.last
  · simpa using h.count

lemma editFind (h : list.Linked cmp ns) (new key : BitVec w) :
    Refines cmp (listEditFind list new key)
      (seqAdd ((datas ns).any fun d => 0 = cmp d key)
        (editWhere (fun d => 0 = cmp d key) new (datas ns)) (datas ns)) := by
  obtain ⟨xs, ys, hns, hxs, hys, hfind⟩ := h.iteratorFind key
  cases ys with
  | nil =>
    obtain ⟨-, hany⟩ := of_dropWhile_nil hys.symm
    rw [hany]
    refine ⟨{ list with lIt := list.first }, ns, ?_, h.setIt _, rfl⟩
    simp [listEditFind, hfind, seqAdd, SUCCESS, FAILURE]
  | cons n ys =>
    obtain ⟨-, hany, -⟩ := of_dropWhile_cons hys.symm
    rw [hany, editWhere, ← hxs, ← hys]
    subst hns
    obtain ⟨list', hedit, hrep⟩ := (h.setIt (some n.1)).iteratorEdit new
    refine ⟨list', xs ++ (n.1, new) :: ys, ?_, hrep, by simp [seqAdd]⟩
    simp [listEditFind, hfind, hedit, seqAdd]

lemma readFirst (h : list.Linked cmp ns) :
    Refines cmp (listReadFirst list) (seqRead (datas ns).head? (datas ns)) := by
  refine ⟨list, ns, ?_, h, by cases ns <;> rfl⟩
  cases ns with
  | nil => simp [listReadFirst, h.first, seqRead, seqGet]
  | cons n ns => simp [listReadFirst, h.first, fetch, h.chain.1, seqRead, seqGet]

lemma readLast (h : list.Linked cmp ns) :
    Refines cmp (listReadLast list) (seqRead (datas ns).getLast? (datas ns)) := by
  rcases List.eq_nil_or_concat ns with rfl | ⟨xs, n, rfl⟩
  · exact ⟨list, [], by simp [listReadLast, h.last, seqRead, seqGet], h, rfl⟩
  · rw [List.concat_eq_append] at h ⊢
    obtain ⟨-, hn, -⟩ := chain_append.mp h.chain
    refine ⟨list, _, ?_, h, by simp [seqRead, seqGet]⟩
    simp [listReadLast, h.last, fetch, hn, seqRead, seqGet]

lemma readIdx (h : list.Linked cmp ns) (hlen : ns.length ≤ 2 ^ 31) (idx : UInt32) :
    Refines cmp (listReadIdx list idx) (seqRead (datas ns)[idx.toNat]? (datas ns)) := by
  have hcount := h.toNat_count (by omega)
  by_cases hidx : idx ≥ list.nbElements
  · have hnone : (datas ns)[idx.toNat]? = none := by
      rw [ge_iff_le, UInt32.le_iff_toNat_le, hcount] at hidx
      simpa [datas] using hidx
    rw [hnone]
    exact ⟨list, ns, by simp [listReadIdx, hidx, seqRead, seqGet], h, rfl⟩
  · have hlt : idx.toNat < ns.length := by
      rw [ge_iff_le, UInt32.le_iff_toNat_le, hcount] at hidx
      lia
    obtain ⟨hneg, habs⟩ := toInt32_abs (a := idx) (by lia)
    obtain ⟨a, d, hn⟩ : ∃ a d, ns[idx.toNat] = (a, d) := ⟨_, _, rfl⟩
    have hdrop : ns.drop idx.toNat = (a, d) :: ns.drop (idx.toNat + 1) := by
      rw [List.drop_eq_getElem_cons hlt, hn]
    have hsome : (datas ns)[idx.toNat]? = some d := by
      simp [datas, List.getElem?_eq_getElem hlt, hn]
    have hmove : iteratorMove list list.first idx.toInt32 = some (SUCCESS, some a) := by
      have hwalk := h.chain.walkBy idx.toNat
      rw [hdrop, headOr_cons] at hwalk
      simp [iteratorMove, hneg, habs, h.first, hwalk]
    have hsplit : ns = ns.take idx.toNat ++ (a, d) :: ns.drop (idx.toNat + 1) := by
      rw [← hdrop, List.take_append_drop]
    have hread := (h.setIt (some a))
    rw [hsplit] at hread
    rw [hsome]
    refine ⟨{ list with lIt := some a }, ns, ?_, h.setIt _, rfl⟩
    simp [listReadIdx, hidx, hmove, hread.iteratorRead, seqRead, seqGet]

end PrivListDesc.Linked

namespace ListDesc

/-- The list stands for a sequence, and every call acts on it as stated; a call that returns
FAILURE leaves it alone. -/
def Behaves (type : AdapterType) (cmp : BitVec w → BitVec w → Int32) (l : ListDesc w N) : Prop :=
  l.privDesc.WellLinked ∧ ∃ ns, l.privDesc.Represents cmp ns ∧ ∀ c : ListCall w N,
    ∃ reply l' ns', l.step c = some (reply, l') ∧ l'.privDesc.Represents cmp ns' ∧
      (reply, datas ns') = c.effect type cmp (grants l.privDesc.heap) (datas ns) ∧
      (reply.ret = FAILURE → datas ns' = datas ns)

variable {type : AdapterType} {l : ListDesc w N}

lemma put_refines {r : Option (Int × PrivListDesc w N)} {e : Int × List (BitVec w)}
    (h : Refines cmp r e) :
    ∃ reply l' ns', l.put r = some (reply, l') ∧ l'.adapter = l.adapter ∧
      l'.privDesc.Linked cmp ns' ∧ (reply, datas ns') = ListCall.plainEffect.put e := by
  obtain ⟨list', ns', hr, hrep, hdatas⟩ := h
  exact ⟨_, { l with privDesc := list' }, ns', by rw [put, hr]; rfl, rfl, hrep, by rw [hdatas]; rfl⟩

lemma get_refines {r : Option (Fetched w N)} {e : (Int × BitVec w) × List (BitVec w)}
    (h : Refines cmp r e) :
    ∃ reply l' ns', l.get r = some (reply, l') ∧ l'.adapter = l.adapter ∧
      l'.privDesc.Linked cmp ns' ∧ (reply, datas ns') = ListCall.plainEffect.get e := by
  obtain ⟨list', ns', hr, hrep, hdatas⟩ := h
  exact ⟨_, { l with privDesc := list' }, ns', by rw [get, hr]; rfl, rfl, hrep, by rw [hdatas]; rfl⟩

/-- A call on a list that stands for a sequence. -/
theorem step_refines (hN : N ≤ 2 ^ 31) (hl : l.adapter = setAdapter type) (h : l.privDesc.Linked cmp ns)
    (c : ListCall w N) :
    ∃ reply l' ns', l.step c = some (reply, l') ∧ l'.adapter = l.adapter ∧
      l'.privDesc.Linked cmp ns' ∧
      (reply, datas ns') = c.effect type cmp (grants l.privDesc.heap) (datas ns) := by
  have hlen : ns.length ≤ 2 ^ 31 := (length_le_of_nodup h.nodup).trans hN
  rw [step_plain hl, ListCall.effect]
  have hplain := ListCall.plain_plain type c
  generalize c.plain type = p at hplain
  cases p with
  | addFirst data mem => exact put_refines h.addFirst
  | addLast data mem => exact put_refines (h.addLast data mem)
  | addFind data mem => exact put_refines h.addFind
  | getFirst => exact get_refines (h.getFirst (by omega))
  | getLast => exact get_refines (h.getLast (by omega))
  | getFind key => exact get_refines (h.getFind key)
  | editFind new key => exact put_refines (h.editFind new key)
  | readFirst => exact get_refines h.readFirst
  | readLast => exact get_refines h.readLast
  | readIdx idx => exact get_refines (h.readIdx hlen idx)
  | readFind key => exact get_refines (h.readFind key)
  | push data mem => cases type <;> simp [ListCall.plain] at hplain
  | pop => cases type <;> simp [ListCall.plain] at hplain
  | topNext => cases type <;> simp [ListCall.plain] at hplain
  | back => cases type <;> simp [ListCall.plain] at hplain

lemma run_linked (hN : N ≤ 2 ^ 31) (hl : l.adapter = setAdapter type) (h : l.privDesc.Linked cmp ns)
    (calls : List (ListCall w N)) :
    ∃ l' ns', Trace.run stepState (some l) calls = some l' ∧ l'.adapter = setAdapter type ∧
      l'.privDesc.Linked cmp ns' := by
  induction calls generalizing l ns with
  | nil => exact ⟨l, ns, rfl, hl, h⟩
  | cons c calls ih =>
    obtain ⟨reply, l', ns', hstep, hl', h', -⟩ := step_refines hN hl h c
    have hstate : stepState (some l) c = some l' := by simp [stepState, hstep]
    rw [Trace.run_cons, hstate]
    exact ih (hl'.trans hl) h'

lemma behaves (hN : N ≤ 2 ^ 31) (hl : l.adapter = setAdapter type) (h : l.privDesc.Linked cmp ns) :
    l.Behaves type cmp := by
  have hlt : N < 2 ^ 32 := by omega
  have hrep := h.represents (h.length_lt hlt)
  refine ⟨hrep.wellLinked, ns, hrep, fun c => ?_⟩
  obtain ⟨reply, l', ns', hstep, -, h', heffect⟩ := step_refines hN hl h c
  refine ⟨reply, l', ns', hstep, h'.represents (h'.length_lt hlt), heffect, fun hfail => ?_⟩
  have hret : (c.effect type cmp (grants l.privDesc.heap) (datas ns)).1.ret = FAILURE := by
    rwa [← heffect]
  rw [← ListCall.effect_failure hret, ← heffect]

end ListDesc

lemma listInit_linked {type : AdapterType} {comparator : Option (BitVec w → BitVec w → Int32)} {mem : ListAlloc}
    {desc : ListDesc w N} (hinit : listInit type comparator mem = (SUCCESS, some desc)) :
    desc.adapter = setAdapter type ∧ desc.privDesc.Linked (comparator.getD defaultComparator) [] := by
  have hdesc : desc = {
      adapter := setAdapter type
      privDesc := {
        heap := fun _ => none
        comparator := comparator.getD defaultComparator } } := by
    unfold listInit at hinit
    split at hinit
    · simp at hinit
    · split at hinit
      · simp at hinit
      · simpa using hinit.symm
  rw [hdesc]
  exact ⟨rfl, rfl, trivial, List.nodup_nil, fun a ha => absurd rfl ha, rfl, rfl, rfl⟩

/-- After any calls on a new list nothing has gone wrong, the list stands for a sequence, and
every further call acts on that sequence as stated. -/
theorem list_represents_sequence {type : AdapterType}
    {comparator : Option (BitVec w → BitVec w → Int32)} {mem : ListAlloc} {desc : ListDesc w}
    (hinit : listInit type comparator mem = (SUCCESS, some desc)) (calls : List (ListCall w)) :
    ∃ l, Trace.run ListDesc.stepState (some desc) calls = some l ∧
      l.Behaves type (comparator.getD defaultComparator) := by
  obtain ⟨hadapter, hempty⟩ := listInit_linked hinit
  obtain ⟨l, ns, hrun, hl, h⟩ := ListDesc.run_linked (by decide) hadapter hempty calls
  exact ⟨l, hrun, ListDesc.behaves (by decide) hl h⟩

theorem list_represents_sequence_priority :
    ∃ l : ListDesc 32, Trace.run ListDesc.stepState (listInit .listPriorityList none {}).2
        [.push 5#32 (some ⟨0, by decide⟩), .push 3 (some ⟨1, by decide⟩), .push 4 none, .pop] = some l ∧
      l.Behaves .listPriorityList defaultComparator :=
  @list_represents_sequence 32 .listPriorityList none {} _ rfl _

/-- The list of 1 and 2 -/
def twoItems : PrivListDesc 32 where
  heap a := if a = ⟨0, by decide⟩ then some ⟨1, none, some ⟨1, by decide⟩⟩
    else if a = ⟨1, by decide⟩ then some ⟨2, some ⟨0, by decide⟩, none⟩ else none
  first := some ⟨0, by decide⟩
  last := some ⟨1, by decide⟩
  nbElements := 2
  comparator := defaultComparator

lemma twoItems_linked : twoItems.Linked defaultComparator [(⟨0, by decide⟩, 1), (⟨1, by decide⟩, 2)] := by
  refine ⟨rfl, ⟨rfl, rfl, trivial⟩, by decide, fun a ha => ?_, rfl, rfl, rfl⟩
  by_contra hmem
  rw [addrs_cons, addrs_cons, addrs_nil, List.mem_cons, List.mem_singleton, not_or] at hmem
  exact ha ((if_neg hmem.1).trans (if_neg hmem.2))

end NoOS
