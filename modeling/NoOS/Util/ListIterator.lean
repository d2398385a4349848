import NoOS.Lib.Cursor
import NoOS.Util.ListRefinement

/-!
# An iterator is a cursor

The calls through one iterator move a cursor on the sequence of the list, except where the iterator has no
element to work with, takes out the last one, or is to move by the least number.
-/

namespace NoOS
open DoublyLinked Word

variable {w N : ℕ}

/-- `struct iterator`, with the list it belongs to -/
structure Iterator (w : ℕ) (N : ℕ := maxElems) where
  list : PrivListDesc w N
  elem : ElemPtr N

/-- `mem` is what `calloc` returns during the call. -/
inductive IteratorCall (w : ℕ) (N : ℕ := maxElems)
  | move (idx : Int32)
  | find (cmpData : BitVec w)
  | insert (data : BitVec w) (after : Bool) (mem : ElemPtr N)
  | get
  | edit (newData : BitVec w)
  | read

namespace Iterator

def step (it : Iterator w N) : IteratorCall w N → Option (ListReply w × Iterator w N)
  | .move idx => (iteratorMove it.list it.elem idx).map fun r => (⟨r.1, none⟩, { it with elem := r.2 })
  | .find cmpData => (iteratorFind it.list it.elem cmpData).map fun r => (⟨r.1, none⟩, { it with elem := r.2 })
  | .insert data after mem =>
    (iteratorInsert it.list it.elem data after mem).map fun r => (⟨r.1, none⟩, { it with list := r.2 })
  | .get => (iteratorGet it.list it.elem).map fun r => (⟨r.1, r.2.1⟩, ⟨r.2.2.2, r.2.2.1⟩)
  | .edit newData => (iteratorEdit it.list it.elem newData).map fun r => (⟨r.1, none⟩, { it with list := r.2 })
  | .read => (iteratorRead it.list it.elem).map fun r => (⟨r.1, r.2⟩, it)

/-- The iterator is at the element of the cursor, and the list stands for the sequence. -/
def Stands (cmp : BitVec w → BitVec w → Int32) (it : Iterator w N) : Cursor (BitVec w) → Prop
  | .off items => it.elem = none ∧ ∃ ns, it.list.Linked cmp ns ∧ datas ns = items
  | .on before d after => ∃ xs a ys, it.elem = some a ∧ it.list.Linked cmp (xs ++ (a, d) :: ys) ∧
      datas xs = before ∧ datas ys = after

/-- What the call needs to do as a cursor does -/
def Kept (it : Iterator w N) : IteratorCall w N → Prop
  | .move idx => idx ≠ Int32.minValue ∨ it.elem = none
  | .insert _ _ _ => it.elem ≠ none ∨ it.list.first = none
  | .get => it.elem ≠ it.list.last ∨ it.elem = it.list.first
  | .edit _ => it.elem ≠ none
  | _ => True

end Iterator

/-- The effect of a call on a cursor. A call that returns FAILURE leaves it alone. -/
def IteratorCall.effect (cmp : BitVec w → BitVec w → Int32) (granted : ElemPtr N → Bool) (c : Cursor (BitVec w)) :
    IteratorCall w N → ListReply w × Cursor (BitVec w)
  | .move idx => done (c.move idx.toInt)
  | .find key => done (c.find fun d => 0 = cmp d key)
  | .insert data after mem => done (if granted mem then c.insert after data else none)
  | .get => took (c.get)
  | .edit data => done (c.edit data)
  | .read => took (c.item?.map fun d => (d, c))
where
  done : Option (Cursor (BitVec w)) → ListReply w × Cursor (BitVec w)
    | none => (⟨FAILURE, none⟩, c)
    | some c' => (⟨SUCCESS, none⟩, c')
  took : Option (BitVec w × Cursor (BitVec w)) → ListReply w × Cursor (BitVec w)
    | none => (⟨FAILURE, none⟩, c)
    | some (d, c') => (⟨SUCCESS, some d⟩, c')

/-- A failing call leaves the cursor and the sequence alone. -/
theorem IteratorCall.effect_failure {cmp : BitVec w → BitVec w → Int32} {granted : ElemPtr N → Bool}
    {c : Cursor (BitVec w)} {call : IteratorCall w N} (h : (call.effect cmp granted c).1.ret = FAILURE) :
    (call.effect cmp granted c).2 = c := by
  have hdone : ∀ r, (effect.done c r).1.ret = FAILURE → (effect.done c r).2 = c := by
    intro r hr
    cases r with
    | none => rfl
    | some c' => exact absurd hr.symm (by decide : FAILURE ≠ SUCCESS)
  have htook : ∀ r, (effect.took c r).1.ret = FAILURE → (effect.took c r).2 = c := by
    intro r hr
    cases r with
    | none => rfl
    | some r => exact absurd hr.symm (by decide : FAILURE ≠ SUCCESS)
  cases call with
  | move idx => exact hdone _ h
  | find key => exact hdone _ h
  | insert data after mem => exact hdone _ h
  | get => exact htook _ h
  | edit data => exact hdone _ h
  | read => exact htook _ h

/-- Moving, searching and reading leave the sequence alone. -/
theorem IteratorCall.items_effect (cmp : BitVec w → BitVec w → Int32) (granted : ElemPtr N → Bool)
    (c : Cursor (BitVec w)) (idx : Int32) (key : BitVec w) :
    ((IteratorCall.move idx).effect cmp granted c).2.items = c.items ∧
      ((IteratorCall.find key).effect cmp granted c).2.items = c.items ∧
        (IteratorCall.read.effect cmp granted c).2.items = c.items := by
  refine ⟨?_, ?_, ?_⟩
  · rw [effect]
    cases h : c.move idx.toInt with
    | none => rfl
    | some c' => exact Cursor.items_move h
  · rw [effect]
    cases h : c.find fun d => 0 = cmp d key with
    | none => rfl
    | some c' => exact Cursor.items_find h
  · rw [effect]
    cases c with
    | off items => rfl
    | on before d after => rfl

/-- A removal takes out the element of the cursor, which is at none only if the sequence has become empty. -/
theorem IteratorCall.items_effect_get (cmp : BitVec w → BitVec w → Int32) (granted : ElemPtr N → Bool)
    (before after : List (BitVec w)) (d : BitVec w) :
    (IteratorCall.get.effect cmp granted (.on before d after)).1 = ⟨SUCCESS, some d⟩ ∧
      (IteratorCall.get.effect cmp granted (.on before d after)).2.items = before ++ after ∧
        ((IteratorCall.get.effect cmp granted (.on before d after)).2.item? = none ↔ before ++ after = []) := by
  rw [effect]
  cases h : (Cursor.on before d after).get with
  | none =>
    cases after with
    | nil => exact absurd h (Option.some_ne_none _)
    | cons next after => exact absurd h (Option.some_ne_none _)
  | some taken =>
    obtain ⟨e, c'⟩ := taken
    obtain ⟨rfl, hitems, hitem⟩ := Cursor.items_get h
    exact ⟨rfl, hitems, hitem⟩

namespace Iterator

variable {cmp : BitVec w → BitVec w → Int32} {it it' : Iterator w N} {c c' : Cursor (BitVec w)}
  {list : PrivListDesc w N} {xs ys ns : List (ElemAddr N × BitVec w)} {a : ElemAddr N} {d data : BitVec w}

lemma stands_place (h : list.Linked cmp ns) (i : ℕ) :
    (headOr (ns.drop i) none = none ∧ Cursor.place (datas ns) i = none) ∨
      ∃ a c, headOr (ns.drop i) none = some a ∧ Cursor.place (datas ns) i = some c ∧ Stands cmp ⟨list, some a⟩ c := by
  have hmap : (datas ns).drop i = datas (ns.drop i) := by rw [datas, datas, List.map_drop]
  rw [Cursor.place, hmap]
  cases hdrop : ns.drop i with
  | nil => exact .inl ⟨rfl, rfl⟩
  | cons n ys =>
    obtain ⟨a, d⟩ := n
    refine .inr ⟨a, _, rfl, rfl, ns.take i, a, ys, rfl, ?_, ?_, rfl⟩
    · rwa [← hdrop, List.take_append_drop]
    · rw [datas, datas, List.map_take]

lemma linked_unique (hx : list.Linked cmp xs) (hy : list.Linked cmp ys) : xs = ys :=
  hx.chain.unique hy.chain (by rw [← hx.first, hy.first])

lemma Stands.unique (h : Stands cmp it c) (h' : Stands cmp it c') : c = c' := by
  cases c with
  | off items =>
    obtain ⟨hnone, ns, hns, rfl⟩ := h
    cases c' with
    | off items' =>
      obtain ⟨-, ms, hms, rfl⟩ := h'
      rw [linked_unique hns hms]
    | on before d after =>
      obtain ⟨xs, a, ys, hsome, -⟩ := h'
      rw [hnone] at hsome
      exact absurd hsome (Option.some_ne_none a).symm
  | on before d after =>
    obtain ⟨xs, a, ys, hsome, hns, rfl, rfl⟩ := h
    cases c' with
    | off items' =>
      rw [h'.1] at hsome
      exact absurd hsome (Option.some_ne_none a).symm
    | on before' d' after' =>
      obtain ⟨xs', a', ys', hsome', hms, rfl, rfl⟩ := h'
      obtain rfl : a = a' := Option.some.inj (hsome.symm.trans hsome')
      have hx := hns.not_mem_rest
      have hx' := hms.not_mem_rest
      rw [addrs_append, List.mem_append, not_or] at hx hx'
      obtain ⟨rfl, rfl, rfl⟩ := split_unique (linked_unique hns hms) hx.1 hx'.1
      rfl

/-- The call does what it does to the cursor. -/
def Agrees (cmp : BitVec w → BitVec w → Int32) (it : Iterator w N) (c : Cursor (BitVec w))
    (call : IteratorCall w N) : Prop :=
  ∃ reply it', it.step call = some (reply, it') ∧ reply = (call.effect cmp (grants it.list.heap) c).1 ∧
    Stands cmp it' (call.effect cmp (grants it.list.heap) c).2

/-- A walk ends where the cursor ends. -/
def Lands (cmp : BitVec w → BitVec w → Int32) (list : PrivListDesc w N) (p : ElemPtr N)
    (r : Option (Cursor (BitVec w))) : Prop :=
  p = none ∧ r = none ∨ ∃ a c, p = some a ∧ r = some c ∧ Stands cmp ⟨list, some a⟩ c

lemma agrees_of_lands {call : IteratorCall w N} {p : ElemPtr N} {r : Option (Cursor (BitVec w))}
    (h : Stands cmp it c) (hlands : Lands cmp it.list p r)
    (hstep : it.step call =
      some (if p.isSome then (⟨SUCCESS, none⟩, { it with elem := p }) else (⟨FAILURE, none⟩, it)))
    (heffect : call.effect cmp (grants it.list.heap) c = IteratorCall.effect.done c r) : Agrees cmp it c call := by
  obtain ⟨rfl, rfl⟩ | ⟨a, c', rfl, rfl, hstands⟩ := hlands
  · exact ⟨_, it, hstep, by rw [heffect]; rfl, by rw [heffect]; exact h⟩
  · exact ⟨_, _, hstep, by rw [heffect]; rfl, by rw [heffect]; exact hstands⟩

lemma lands_drop (h : list.Linked cmp ns) (i : ℕ) :
    Lands cmp list (headOr (ns.drop i) none) (Cursor.place (datas ns) i) := stands_place h i

/-- The list of an iterator stands for the sequence of the cursor. -/
lemma Stands.linked (h : Stands cmp it c) : ∃ ns, it.list.Linked cmp ns ∧ datas ns = c.items := by
  cases c with
  | off items => exact h.2
  | on before d after =>
    obtain ⟨xs, a, ys, -, hns, rfl, rfl⟩ := h
    exact ⟨_, hns, datas_append _ _⟩

lemma agrees_find (h : Stands cmp it c) (key : BitVec w) : Agrees cmp it c (.find key) := by
  obtain ⟨ns, hns, hitems⟩ := h.linked
  obtain ⟨xs, ys, rfl, hxs, -, hfind⟩ := hns.iteratorFind key
  have hlands := lands_drop hns xs.length
  rw [List.drop_left] at hlands
  refine agrees_of_lands h hlands ?_ ?_
  · rw [step, hfind]
    cases ys with
    | nil => rfl
    | cons n ys => rfl
  · have hlen : xs.length = (datas xs).length := (List.length_map _).symm
    rw [IteratorCall.effect, Cursor.find, ← hitems, hlen, hxs]

lemma walkBy_none (heap : ListHeap w N) (forward : Bool) (n : ℕ) : walkBy heap forward n none = some none := by
  cases n with
  | zero => rfl
  | succ n => rfl

lemma step_move {idx : Int32} {p : ElemPtr N}
    (hwalk : walkBy it.list.heap (¬idx < 0) idx.abs.toInt.toNat it.elem = some p) :
    it.step (.move idx) =
      some (if p.isSome then (⟨SUCCESS, none⟩, { it with elem := p }) else (⟨FAILURE, none⟩, it)) := by
  rw [step, iteratorMove, hwalk]
  cases p with
  | none => rfl
  | some a => rfl

lemma lands_walk (h : list.Linked cmp (xs ++ (a, d) :: ys)) {idx : Int32} (hidx : idx ≠ Int32.minValue) :
    ∃ p, walkBy list.heap (¬idx < 0) idx.abs.toInt.toNat (some a) = some p ∧
      Lands cmp list p ((Cursor.on (datas xs) d (datas ys)).move idx.toInt) := by
  have hlen : (datas xs).length = xs.length := List.length_map _
  have hitems : datas xs ++ d :: datas ys = datas (xs ++ (a, d) :: ys) := by rw [datas_append, datas_cons]
  have hsign : idx < 0 ↔ idx.toInt < 0 := Int32.lt_iff_toInt_lt
  rw [toNat_abs hidx, Cursor.move, hlen, hitems]
  by_cases hneg : idx.toInt < 0
  · have hchain := (chain_append.mp (List.append_cons xs (a, d) ys ▸ h.chain)).1
    have hwalk := hchain.walkBack idx.toInt.natAbs
    rw [lastOr_append, lastOr_cons, lastOr_nil, List.length_append, List.length_singleton] at hwalk
    refine ⟨_, by simpa [hsign, hneg] using hwalk, ?_⟩
    by_cases hfar : xs.length < idx.toInt.natAbs
    · rw [if_neg (by lia), Nat.sub_eq_zero_of_le hfar, List.take_zero, lastOr_nil]
      exact .inl ⟨rfl, rfl⟩
    · have hstart : xs.length + 1 - idx.toInt.natAbs = xs.length - idx.toInt.natAbs + 1 := by lia
      have htarget : ((xs.length : ℤ) + idx.toInt).toNat = xs.length - idx.toInt.natAbs := by lia
      have hle : xs.length - idx.toInt.natAbs ≤ (xs ++ [(a, d)]).length := by
        rw [List.length_append]
        lia
      have hlands := lands_drop h (xs.length - idx.toInt.natAbs)
      rw [List.append_cons, List.drop_append_of_le_length hle, headOr_append] at hlands
      cases hdrop : (xs ++ [(a, d)]).drop (xs.length - idx.toInt.natAbs) with
      | nil =>
        rw [List.drop_eq_nil_iff, List.length_append, List.length_singleton] at hdrop
        lia
      | cons n rest =>
        rw [hdrop, headOr_cons] at hlands
        rw [if_pos (by lia), htarget, hstart, lastOr_take hdrop, List.append_cons]
        exact hlands
  · have hwalk := (chain_append.mp h.chain).2.walkBy idx.toInt.natAbs
    have htarget : ((xs.length : ℤ) + idx.toInt).toNat = xs.length + idx.toInt.natAbs := by lia
    have hlands := lands_drop h (xs.length + idx.toInt.natAbs)
    rw [List.drop_append, List.drop_of_length_le (Nat.le_add_right _ _), List.nil_append, Nat.add_sub_cancel_left]
      at hlands
    rw [headOr_cons] at hwalk
    rw [if_pos (by lia), htarget]
    exact ⟨_, by simpa [hsign, hneg] using hwalk, hlands⟩

lemma agrees_move_iff (h : Stands cmp it c) (idx : Int32) : Agrees cmp it c (.move idx) ↔ it.Kept (.move idx) := by
  cases c with
  | off items =>
    have hnone := h.1
    refine iff_of_true ?_ (.inr hnone)
    have hwalk := walkBy_none it.list.heap (¬idx < 0) idx.abs.toInt.toNat
    rw [← hnone] at hwalk
    exact agrees_of_lands h (.inl ⟨hnone, rfl⟩) (step_move hwalk) rfl
  | on before d after =>
    obtain ⟨xs, a, ys, hsome, hns, rfl, rfl⟩ := id h
    constructor
    · rintro ⟨reply, it', hstep, hreply, hstands⟩
      refine .inl ?_
      rintro rfl
      have hwalk : walkBy it.list.heap (¬Int32.minValue < 0) Int32.minValue.abs.toInt.toNat it.elem = some (some a) := by
        rw [hsome]
        rfl
      rw [step_move hwalk, ← hsome, Option.some.injEq, if_pos (by rw [hsome]; rfl), Prod.mk.injEq] at hstep
      obtain ⟨rfl, rfl⟩ := hstep
      have hself := h.unique hstands
      rw [IteratorCall.effect] at hreply hself
      cases hmove : (Cursor.on (datas xs) d (datas ys)).move Int32.minValue.toInt with
      | none =>
        rw [hmove] at hreply
        exact absurd (congrArg ListReply.ret hreply) (by decide : SUCCESS ≠ FAILURE)
      | some c' =>
        rw [hmove] at hself
        exact Cursor.move_ne_self (by decide) (hmove.trans (congrArg some hself.symm))
    · intro hidx
      have hne := hidx.resolve_right (by rw [hsome]; exact Option.some_ne_none a)
      obtain ⟨p, hwalk, hlands⟩ := lands_walk hns hne
      rw [← hsome] at hwalk
      exact agrees_of_lands h hlands (step_move hwalk) rfl

lemma agrees_read (h : Stands cmp it c) : Agrees cmp it c .read := by
  cases c with
  | off items =>
    refine ⟨_, it, ?_, rfl, h⟩
    rw [step, iteratorRead, h.1]
    rfl
  | on before d after =>
    obtain ⟨xs, a, ys, hsome, hns, -, -⟩ := id h
    refine ⟨_, it, ?_, rfl, h⟩
    rw [step, hsome, hns.iteratorRead]
    rfl

lemma agrees_edit_iff (h : Stands cmp it c) (new : BitVec w) :
    Agrees cmp it c (.edit new) ↔ it.Kept (.edit new) := by
  cases c with
  | off items =>
    refine iff_of_false ?_ fun hc => hc h.1
    rintro ⟨reply, it', hstep, -⟩
    rw [step, h.1] at hstep
    exact absurd hstep.symm (Option.some_ne_none _)
  | on before d after =>
    obtain ⟨xs, a, ys, hsome, hns, rfl, rfl⟩ := id h
    refine iff_of_true ?_ (by rw [Kept, hsome]; exact Option.some_ne_none a)
    obtain ⟨list', hedit, hlinked⟩ := hns.iteratorEdit new
    refine ⟨_, { it with list := list' }, ?_, rfl, xs, a, ys, hsome, hlinked, rfl, rfl⟩
    rw [step, hsome, hedit]
    rfl

lemma agrees_of_inserts {mem : ElemPtr N} {after : Bool} (h : Stands cmp it c)
    (hins : Inserts cmp it.list (grants it.list.heap mem) xs ys data
      (iteratorInsert it.list it.elem data after mem))
    (hinsert : c.insert after data = some c')
    (hstands : ∀ b list', PrivListDesc.Linked cmp list' (xs ++ (b, data) :: ys) →
      Stands cmp { it with list := list' } c') : Agrees cmp it c (.insert data after mem) := by
  rw [Agrees, IteratorCall.effect, step]
  cases hg : grants it.list.heap mem with
  | false =>
    rw [hg] at hins
    exact ⟨_, it, by rw [hins]; rfl, rfl, h⟩
  | true =>
    rw [hg] at hins
    obtain ⟨b, list', hresult, hlinked⟩ := hins
    rw [if_pos rfl, hinsert]
    exact ⟨_, _, by rw [hresult]; rfl, rfl, hstands b list' hlinked⟩

lemma insert_none (h : list.Linked cmp ns) (hfirst : list.first ≠ none) (data : BitVec w) (after : Bool)
    (mem : ElemPtr N) : iteratorInsert list none data after mem = none := by
  have hlast : list.last ≠ none := by
    rw [h.first, Ne, headOr_eq_none] at hfirst
    rw [h.last]
    exact fun hc => hfirst (lastOr_eq_none.mp hc)
  rw [iteratorInsert, if_neg fun hc => hlast hc.2.symm, if_neg fun hc => hfirst hc.2.symm]
  rfl

lemma agrees_insert_iff (h : Stands cmp it c) (data : BitVec w) (after : Bool) (mem : ElemPtr N) :
    Agrees cmp it c (.insert data after mem) ↔ it.Kept (.insert data after mem) := by
  cases c with
  | off items =>
    obtain ⟨hnone, ns, hns, rfl⟩ := id h
    cases ns with
    | nil =>
      refine iff_of_true ?_ (.inr hns.first)
      have hfirst : it.elem = it.list.first := by rw [hnone, hns.first, headOr_nil]
      have hlast : it.elem = it.list.last := by rw [hnone, hns.last, lastOr_nil]
      have hins : Inserts cmp it.list (grants it.list.heap mem) [] [] data
          (iteratorInsert it.list it.elem data after mem) := by
        cases after with
        | false =>
          rw [iteratorInsert, if_neg (by simp), if_pos ⟨by simp, hfirst⟩]
          exact hns.insertsFirst
        | true =>
          rw [iteratorInsert, if_pos ⟨rfl, hlast⟩]
          exact hns.insertsLast
      exact agrees_of_inserts h hins rfl fun b list' hlinked => ⟨hnone, _, hlinked, rfl⟩
    | cons n ns =>
      have hfirst : it.list.first ≠ none := by
        rw [hns.first]
        exact Option.some_ne_none _
      refine iff_of_false ?_ fun hc => hc.elim (· hnone) hfirst
      rintro ⟨reply, it', hstep, -⟩
      rw [step, hnone, insert_none hns hfirst] at hstep
      exact absurd hstep.symm (Option.some_ne_none _)
  | on before d rest =>
    obtain ⟨xs, a, ys, hsome, hns, rfl, rfl⟩ := id h
    refine iff_of_true ?_ (.inl (by rw [hsome]; exact Option.some_ne_none a))
    cases after with
    | false =>
      refine agrees_of_inserts h (by rw [hsome]; exact hns.insertsBefore) rfl fun b list' hlinked => ?_
      refine ⟨xs ++ [(b, data)], a, ys, hsome, by rwa [← List.append_cons], ?_, rfl⟩
      rw [datas_append, datas_cons, datas_nil]
    | true =>
      refine agrees_of_inserts h (by rw [hsome]; exact hns.insertsAfter) rfl fun b list' hlinked => ?_
      exact ⟨xs, a, (b, data) :: ys, hsome, by rwa [List.append_cons], rfl, rfl⟩

lemma agrees_get_iff (h : Stands cmp it c) : Agrees cmp it c .get ↔ it.Kept .get := by
  cases c with
  | off items =>
    obtain ⟨hnone, ns, hns, rfl⟩ := id h
    constructor
    · intro _
      rw [Kept, hnone, hns.first, hns.last]
      cases ns with
      | nil => exact .inr rfl
      | cons n ns => exact .inl fun hc => List.cons_ne_nil _ _ (lastOr_eq_none.mp hc.symm)
    · intro _
      have hget : iteratorGet it.list it.elem = some (FAILURE, none, it.elem, it.list) := by
        rw [hnone]
        rfl
      exact ⟨_, it, by rw [step, hget]; rfl, rfl, h⟩
  | on before d after =>
    obtain ⟨xs, a, ys, hsome, hns, rfl, rfl⟩ := id h
    obtain ⟨list', hget, hlinked⟩ := hns.iteratorGet
    have hstep : it.step .get = some (⟨SUCCESS, some d⟩, ⟨list', headOr ys none⟩) := by
      rw [step, hsome, hget]
      rfl
    cases ys with
    | cons n ys =>
      obtain ⟨b, e⟩ := n
      refine iff_of_true ?_ (.inl ?_)
      · exact ⟨_, _, hstep, rfl, xs, b, ys, rfl, hlinked, rfl, rfl⟩
      · rw [hsome]
        exact fun hc => List.cons_ne_nil _ _ (hns.last_iff.mp hc)
    | nil =>
      have hkept : it.Kept .get ↔ xs = [] := by
        rw [Kept, hsome, ← hns.first_iff, or_iff_right (not_not.mpr (hns.last_iff.mpr rfl))]
      rw [hkept]
      constructor
      · rintro ⟨reply, it', hstep', -, hstands⟩
        by_contra hne
        obtain ⟨zs, ⟨b, e⟩, rfl⟩ := List.eq_nil_or_concat xs |>.resolve_left hne
        rw [hstep, Option.some.injEq, Prod.mk.injEq] at hstep'
        obtain ⟨-, rfl⟩ := hstep'
        change Stands cmp _ (Cursor.atLast (datas (zs.concat (b, e)))) at hstands
        rw [List.concat_eq_append, datas_append, datas_cons, datas_nil, Cursor.atLast_concat] at hstands
        obtain ⟨-, c, -, hsome', -⟩ := hstands
        exact absurd hsome'.symm (Option.some_ne_none c)
      · rintro rfl
        exact ⟨_, _, hstep, rfl, rfl, _, hlinked, rfl⟩

/-- Every call agrees with the cursor if and only if it is kept. -/
theorem agrees_iff (h : Stands cmp it c) (call : IteratorCall w N) : Agrees cmp it c call ↔ it.Kept call := by
  cases call with
  | move idx => exact agrees_move_iff h idx
  | find key => exact iff_of_true (agrees_find h key) trivial
  | insert data after mem => exact agrees_insert_iff h data after mem
  | get => exact agrees_get_iff h
  | edit new => exact agrees_edit_iff h new
  | read => exact iff_of_true (agrees_read h) trivial

end Iterator

/-- An iterator, unless a call has gone wrong, and the cursor beside it -/
structure IteratorRun (w : ℕ) (N : ℕ := maxElems) where
  iter : Option (Iterator w N)
  cursor : Cursor (BitVec w)

namespace IteratorRun

def step (cmp : BitVec w → BitVec w → Int32) (s : IteratorRun w N) (call : IteratorCall w N) : IteratorRun w N :=
  match s.iter with
  | none => s
  | some it => ⟨(it.step call).map Prod.snd, (call.effect cmp (grants it.list.heap) s.cursor).2⟩

/-- The call does what it does to the cursor. -/
def Agrees (cmp : BitVec w → BitVec w → Int32) (s : IteratorRun w N) (call : IteratorCall w N) : Prop :=
  match s.iter with
  | none => False
  | some it => it.Agrees cmp s.cursor call

def Kept (s : IteratorRun w N) (call : IteratorCall w N) : Prop :=
  match s.iter with
  | none => True
  | some it => it.Kept call

instance (it : Iterator w N) : (call : IteratorCall w N) → Decidable (it.Kept call)
  | .move _ => inferInstanceAs (Decidable (_ ∨ _))
  | .find _ => .isTrue trivial
  | .insert _ _ _ => inferInstanceAs (Decidable (_ ∨ _))
  | .get => inferInstanceAs (Decidable (_ ∨ _))
  | .edit _ => inferInstanceAs (Decidable (_ ≠ _))
  | .read => .isTrue trivial

instance : (s : IteratorRun w N) → (call : IteratorCall w N) → Decidable (s.Kept call)
  | ⟨none, _⟩, _ => .isTrue trivial
  | ⟨some it, _⟩, call => inferInstanceAs (Decidable (it.Kept call))

/-- The cursor at either end -/
def opened (list : PrivListDesc w N) (elem : ElemPtr N) (start : Bool) (items : List (BitVec w)) : IteratorRun w N :=
  ⟨some ⟨list, elem⟩, if start then Cursor.atFirst items else Cursor.atLast items⟩

def Stands (cmp : BitVec w → BitVec w → Int32) (s : IteratorRun w N) : Prop :=
  ∃ it, s.iter = some it ∧ it.Stands cmp s.cursor

variable {cmp : BitVec w → BitVec w → Int32} {s : IteratorRun w N} {call : IteratorCall w N}

lemma Stands.agrees_iff (h : s.Stands cmp) : s.Agrees cmp call ↔ s.Kept call := by
  obtain ⟨it, hiter, hstands⟩ := h
  rw [Agrees, Kept, hiter]
  exact Iterator.agrees_iff hstands call

lemma Stands.step (h : s.Stands cmp) (hkept : s.Kept call) : (s.step cmp call).Stands cmp := by
  have hagrees := h.agrees_iff.mpr hkept
  obtain ⟨it, hiter, -⟩ := h
  rw [Agrees, hiter] at hagrees
  obtain ⟨reply, it', hstep, -, hstands⟩ := hagrees
  rw [IteratorRun.step, hiter]
  exact ⟨it', congrArg (Option.map Prod.snd) hstep, hstands⟩

lemma stands_opened {list list' : PrivListDesc w N} {ns : List (ElemAddr N × BitVec w)} {elem : ElemPtr N}
    {start granted : Bool} (h : list.Linked cmp ns)
    (hinit : iteratorInit list start granted = (SUCCESS, some elem, list')) :
    (opened list' elem start (datas ns)).Stands cmp := by
  cases granted with
  | false => exact absurd (congrArg Prod.fst hinit) (by decide : FAILURE ≠ SUCCESS)
  | true =>
    obtain ⟨-, helem, hlist⟩ : SUCCESS = SUCCESS ∧ (if start then list.first else list.last) = elem ∧
        { list with nbIterators := list.nbIterators + 1 } = list' := by
      simpa [iteratorInit] using hinit
    have hlinked : list'.Linked cmp ns := by
      rw [← hlist]
      exact ⟨h.comparator, h.chain, h.nodup, h.owned, h.first, h.last, h.count⟩
    refine ⟨_, rfl, ?_⟩
    cases start with
    | true =>
      obtain rfl : list.first = elem := helem
      rw [h.first]
      cases ns with
      | nil => exact ⟨rfl, [], hlinked, rfl⟩
      | cons n ns => exact ⟨[], n.1, ns, rfl, hlinked, rfl, rfl⟩
    | false =>
      obtain rfl : list.last = elem := helem
      rw [h.last]
      rcases List.eq_nil_or_concat ns with rfl | ⟨xs, n, rfl⟩
      · exact ⟨rfl, [], hlinked, rfl⟩
      · rw [List.concat_eq_append] at hlinked ⊢
        rw [opened, if_neg (by decide), datas_append, datas_cons, datas_nil, Cursor.atLast_concat, lastOr_append]
        exact ⟨xs, n.1, [], rfl, hlinked, rfl, rfl⟩

end IteratorRun

/-- The calls through a new iterator do what they do to a cursor if and only if every one is kept. -/
theorem iterator_cursor_iff {cmp : BitVec w → BitVec w → Int32} {list list' : PrivListDesc w N}
    {ns : List (ElemAddr N × BitVec w)} {elem : ElemPtr N} {start granted : Bool} (h : list.Linked cmp ns)
    (hinit : iteratorInit list start granted = (SUCCESS, some elem, list')) (calls : List (IteratorCall w N)) :
    Trace.Guarded (IteratorRun.step cmp) (IteratorRun.Agrees cmp)
        (IteratorRun.opened list' elem start (datas ns)) calls ↔
      Trace.Guarded (IteratorRun.step cmp) IteratorRun.Kept
        (IteratorRun.opened list' elem start (datas ns)) calls :=
  Trace.guarded_iff_guarded (Q := IteratorRun.Stands cmp) (IteratorRun.stands_opened h hinit)
    (fun _ _ hs hkept => hs.step hkept) fun _ _ hs => hs.agrees_iff

/-- From the first of two items to the second one, which gets a neighbour and a new value, and back -/
theorem iterator_cursor_iff_two : Trace.Guarded (IteratorRun.step defaultComparator) (IteratorRun.Agrees defaultComparator)
    (IteratorRun.opened { twoItems with nbIterators := 1 } (some ⟨0, by decide⟩) true [1, 2])
    [.move 1, .insert 5 true (some ⟨2, by decide⟩), .edit 7, .move (-1), .get, .find 5] :=
  (@iterator_cursor_iff 32 maxElems _ twoItems _ _ _ true true twoItems_linked rfl _).mpr (by decide)

/-- The last of two items is taken out, and the iterator is at no element. -/
theorem not_iterator_cursor : ¬∀ (list list' : PrivListDesc 32) (ns : List (ElemAddr × BitVec 32)) (elem : ElemPtr)
    (start granted : Bool), list.Linked defaultComparator ns →
    iteratorInit list start granted = (SUCCESS, some elem, list') → ∀ calls : List (IteratorCall 32),
      Trace.Guarded (IteratorRun.step defaultComparator) (IteratorRun.Agrees defaultComparator)
        (IteratorRun.opened list' elem start (datas ns)) calls := by
  intro h
  have hinit : iteratorInit twoItems false true =
      (SUCCESS, some (some ⟨1, by decide⟩), { twoItems with nbIterators := 1 }) := rfl
  have hguarded := h twoItems _ _ _ false true twoItems_linked hinit [.get]
  have hstands := IteratorRun.stands_opened twoItems_linked hinit
  have hkept := hstands.agrees_iff.mp (Trace.guarded_cons.mp hguarded).1
  exact absurd hkept (by decide)

end NoOS
