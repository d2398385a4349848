import NoOS.Util.ListIterator

/-!
# A list with its iterators

All calls of the list and of its iterators, in any order. They return from every state, except where one of them
takes for granted that there is an element.
-/

namespace NoOS
open DoublyLinked

variable {w N : ℕ}

/-- A list, unless it has been removed, and its iterators, by the variables that hold them -/
structure ListSystem (w : ℕ) (N : ℕ := maxElems) where
  desc : Option (ListDesc w N)
  iterators : ℕ → Option (ElemPtr N) := fun _ => none

/-- `mem` and `granted` are what `calloc` does during the call. -/
inductive ApiCall (w : ℕ) (N : ℕ := maxElems)
  | list (c : ListCall w N)
  | addIdx (data : BitVec w) (idx : UInt32) (mem : ElemPtr N)
  | editFirst (newData : BitVec w)
  | editLast (newData : BitVec w)
  | editIdx (newData : BitVec w) (idx : UInt32)
  | getIdx (idx : UInt32)
  | getSize
  | swap (newData : BitVec w)
  | remove
  | iteratorInit (i : ℕ) (start granted : Bool)
  | iteratorRemove (i : ℕ)
  | iterator (i : ℕ) (c : IteratorCall w N)

/-- NULL, or an element of the list -/
def PrivListDesc.Holds (list : PrivListDesc w N) (p : ElemPtr N) : Prop := p = none ∨ fetch list.heap p ≠ none

/-- The call has an element to work with. -/
def Iterator.HasElem (it : Iterator w N) : IteratorCall w N → Prop
  | .insert _ _ _ => it.elem ≠ none ∨ it.list.first = none
  | .edit _ => it.elem ≠ none
  | _ => True

namespace ListSystem

def keep (s : ListSystem w N) (r : Option (ListReply w × ListDesc w N)) : Option (ListReply w × ListSystem w N) :=
  r.map fun r => (r.1, { s with desc := some r.2 })

/-- The return code of a call, and the list and its iterators afterwards -/
def stepOn (s : ListSystem w N) (l : ListDesc w N) : ApiCall w N → Option (ListReply w × ListSystem w N)
  | .list c => s.keep (l.step c)
  | .addIdx data idx mem => s.keep (l.put (listAddIdx l.privDesc data idx mem))
  | .editFirst newData => s.keep (l.put (listEditFirst l.privDesc newData))
  | .editLast newData => s.keep (l.put (listEditLast l.privDesc newData))
  | .editIdx newData idx => s.keep (l.put (listEditIdx l.privDesc newData idx))
  | .getIdx idx => s.keep (l.get (listGetIdx l.privDesc idx))
  | .getSize => some (⟨(listGetSize l.privDesc).1, none⟩, s)
  | .swap newData => s.keep (l.put (l.adapter.swap l.privDesc newData))
  | .remove => (listRemove l).map fun r => (⟨r.1, none⟩, { s with desc := r.2 })
  | .iteratorInit i start granted =>
    let (ret, it, list) := NoOS.iteratorInit l.privDesc start granted
    some (⟨ret, none⟩, {
      desc := some { l with privDesc := list }
      iterators := if it.isSome then Function.update s.iterators i it else s.iterators })
  | .iteratorRemove i =>
    let (ret, list) := NoOS.iteratorRemove l.privDesc
    some (⟨ret, none⟩, {
      desc := some { l with privDesc := list }
      iterators := Function.update s.iterators i none })
  | .iterator i c => do
    let elem ← s.iterators i
    let (reply, it) ← (⟨l.privDesc, elem⟩ : Iterator w N).step c
    some (reply, {
      desc := some { l with privDesc := it.list }
      iterators := Function.update s.iterators i (some it.elem) })

def step (s : ListSystem w N) (c : ApiCall w N) : Option (ListReply w × ListSystem w N) := s.desc.bind (s.stepOn · c)

/-- The list has not been removed, and the iterator of the call exists. Its element has not been taken out by
another call. -/
def ValidOn (s : ListSystem w N) (l : ListDesc w N) : ApiCall w N → Prop
  | .iteratorRemove i => s.iterators i ≠ none
  | .iterator i _ => ∃ elem ∈ s.iterators i, l.privDesc.Holds elem
  | _ => True

/-- What the call takes for granted -/
def KeptOn (s : ListSystem w N) (l : ListDesc w N) : ApiCall w N → Prop
  | .editFirst _ => l.privDesc.first ≠ none
  | .editLast _ => l.privDesc.first ≠ none
  | .swap _ => l.privDesc.first ≠ none
  | .iterator i c => ∀ elem ∈ s.iterators i, (⟨l.privDesc, elem⟩ : Iterator w N).HasElem c
  | _ => True

end ListSystem

/-- The call returns SUCCESS or FAILURE and leaves a list. -/
def Returns {ρ : Type*} (cmp : BitVec w → BitVec w → Int32) (ret : ρ → Int) (r : Option (ρ × PrivListDesc w N)) :
    Prop :=
  ∃ x list' ns, r = some (x, list') ∧ (ret x = SUCCESS ∨ ret x = FAILURE) ∧ PrivListDesc.Linked cmp list' ns

variable {cmp : BitVec w → BitVec w → Int32} {list : PrivListDesc w N} {ns : List (ElemAddr N × BitVec w)}
  {p : ElemPtr N} {a : ElemAddr N}

lemma Refines.returns {ρ : Type*} {ret : ρ → Int} {r : Option (ρ × PrivListDesc w N)} {e : ρ × List (BitVec w)}
    (h : Refines cmp r e) (hret : ret e.1 = SUCCESS ∨ ret e.1 = FAILURE) : Returns cmp ret r := by
  obtain ⟨list', ns, hr, hlinked, -⟩ := h
  exact ⟨e.1, list', ns, hr, hret, hlinked⟩

lemma seqAdd_code {δ : Type*} (granted : Bool) (new ds : List δ) :
    (seqAdd granted new ds).1 = SUCCESS ∨ (seqAdd granted new ds).1 = FAILURE := by
  cases granted with
  | true => exact .inl rfl
  | false => exact .inr rfl

lemma seqGet_code {δ : Type*} [Zero δ] (taken : Option (δ × List δ)) (ds : List δ) :
    (seqGet taken ds).1.1 = SUCCESS ∨ (seqGet taken ds).1.1 = FAILURE := by
  cases taken with
  | none => exact .inr rfl
  | some t => exact .inl rfl

namespace PrivListDesc.Linked

lemma exists_at (h : list.Linked cmp ns) (ha : fetch list.heap (some a) ≠ none) :
    ∃ xs d ys, ns = xs ++ (a, d) :: ys := by
  obtain ⟨⟨a, d⟩, hmem, rfl⟩ := List.mem_map.mp (h.owned a ha)
  obtain ⟨xs, ys, hns⟩ := List.append_of_mem hmem
  exact ⟨xs, d, ys, hns⟩

lemma holds_of_mem (h : list.Linked cmp ns) (hp : ∀ a, p = some a → a ∈ addrs ns) : list.Holds p := by
  cases p with
  | none => exact .inl rfl
  | some a => exact .inr (h.chain.alloc (hp a rfl))

lemma holds_first (h : list.Linked cmp ns) : list.Holds list.first :=
  h.holds_of_mem fun _ ha => headOr_mem (h.first ▸ ha)

lemma walkBy_holds (h : list.Linked cmp ns) (forward : Bool) (n : ℕ) (hp : list.Holds p) :
    ∃ q, walkBy list.heap forward n p = some q ∧ list.Holds q := by
  induction n generalizing p with
  | zero => exact ⟨p, rfl, hp⟩
  | succ n ih =>
    cases p with
    | none => exact ⟨none, rfl, .inl rfl⟩
    | some a =>
      obtain ⟨xs, d, ys, rfl⟩ := h.exists_at (hp.resolve_left (Option.some_ne_none a))
      obtain ⟨-, ha, -⟩ := chain_append.mp h.chain
      have hnext : list.Holds (headOr ys none) := by
        refine h.holds_of_mem fun b hb => ?_
        rw [addrs_append, addrs_cons]
        exact List.mem_append_right _ (List.mem_cons_of_mem a (headOr_mem hb))
      have hprev : list.Holds (lastOr xs none) := by
        refine h.holds_of_mem fun b hb => ?_
        rw [addrs_append]
        exact List.mem_append_left _ (lastOr_mem hb)
      cases forward with
      | true =>
        obtain ⟨q, hwalk, hq⟩ := ih hnext
        exact ⟨q, by simpa [walkBy, ha] using hwalk, hq⟩
      | false =>
        obtain ⟨q, hwalk, hq⟩ := ih hprev
        exact ⟨q, by simpa [walkBy, ha] using hwalk, hq⟩

lemma iteratorMove_holds (h : list.Linked cmp ns) (hp : list.Holds p) (idx : Int32) :
    iteratorMove list p idx = some (FAILURE, p) ∨
      ∃ a, fetch list.heap (some a) ≠ none ∧ iteratorMove list p idx = some (SUCCESS, some a) := by
  obtain ⟨q, hwalk, hq⟩ := h.walkBy_holds (¬idx < 0) idx.abs.toInt.toNat hp
  rw [iteratorMove, hwalk]
  cases q with
  | none => exact .inl rfl
  | some a => exact .inr ⟨a, hq.resolve_left (Option.some_ne_none a), rfl⟩

lemma getFirst_returns (h : list.Linked cmp ns) : Returns cmp Prod.fst (listGetFirst list) := by
  by_cases hcount : list.nbElements = 0
  · exact ⟨(FAILURE, 0), list, ns, by rw [listGetFirst, if_pos hcount], .inr rfl, h⟩
  · cases ns with
    | nil => exact absurd h.count hcount
    | cons n ns => exact (h.getFirst_cons hcount).returns (.inl rfl)

lemma getLast_returns (h : list.Linked cmp ns) : Returns cmp Prod.fst (listGetLast list) := by
  by_cases hcount : list.nbElements = 0
  · exact ⟨(FAILURE, 0), list, ns, by rw [listGetLast, if_pos hcount], .inr rfl, h⟩
  · rcases List.eq_nil_or_concat ns with rfl | ⟨xs, ⟨a, d⟩, rfl⟩
    · exact absurd h.count hcount
    · rw [List.concat_eq_append] at h
      exact (h.getLast_concat hcount).returns (.inl rfl)

lemma readIdx_returns (h : list.Linked cmp ns) (idx : UInt32) : Returns cmp Prod.fst (listReadIdx list idx) := by
  by_cases hidx : idx ≥ list.nbElements
  · exact ⟨(FAILURE, 0), list, ns, by rw [listReadIdx, if_pos hidx], .inr rfl, h⟩
  · rw [listReadIdx, if_neg hidx]
    obtain hmove | ⟨a, ha, hmove⟩ := h.iteratorMove_holds h.holds_first idx.toInt32
    · exact ⟨(FAILURE, 0), _, ns, by rw [hmove]; rfl, .inr rfl, h.setIt list.first⟩
    · obtain ⟨xs, d, ys, rfl⟩ := h.exists_at ha
      have hread := (h.setIt (some a)).iteratorRead
      exact ⟨(SUCCESS, d), _, _, by simp [hmove, hread], .inl rfl, h.setIt (some a)⟩

lemma getIdx_returns (h : list.Linked cmp ns) (idx : UInt32) : Returns cmp Prod.fst (listGetIdx list idx) := by
  rw [listGetIdx]
  obtain hmove | ⟨a, ha, hmove⟩ := h.iteratorMove_holds h.holds_first idx.toInt32
  · exact ⟨(FAILURE, 0), _, ns, by rw [hmove]; rfl, .inr rfl, h.setIt list.first⟩
  · obtain ⟨xs, d, ys, rfl⟩ := h.exists_at ha
    obtain ⟨list', hget, hlinked⟩ := (h.setIt (some a)).iteratorGet
    exact ⟨(SUCCESS, d), _, _, by simp [hmove, hget], .inl rfl, hlinked.setIt (headOr ys none)⟩

lemma editIdx_returns (h : list.Linked cmp ns) (new : BitVec w) (idx : UInt32) :
    Returns cmp id (listEditIdx list new idx) := by
  rw [listEditIdx]
  obtain hmove | ⟨a, ha, hmove⟩ := h.iteratorMove_holds h.holds_first idx.toInt32
  · exact ⟨FAILURE, _, ns, by rw [hmove]; rfl, .inr rfl, h.setIt list.first⟩
  · obtain ⟨xs, d, ys, rfl⟩ := h.exists_at ha
    obtain ⟨list', hedit, hlinked⟩ := (h.setIt (some a)).iteratorEdit new
    exact ⟨SUCCESS, _, _, by simp [hmove, hedit], .inl rfl, hlinked⟩

lemma addIdx_returns (h : list.Linked cmp ns) (data : BitVec w) (idx : UInt32) (mem : ElemPtr N) :
    Returns cmp id (listAddIdx list data idx mem) := by
  unfold listAddIdx
  split
  · exact h.addFirst.returns (seqAdd_code _ _ _)
  · split
    · exact (h.addLast data mem).returns (seqAdd_code _ _ _)
    · obtain hmove | ⟨a, ha, hmove⟩ := h.iteratorMove_holds h.holds_first idx.toInt32
      · exact ⟨FAILURE, _, ns, by rw [hmove]; rfl, .inr rfl, h.setIt list.first⟩
      · obtain ⟨xs, d, ys, rfl⟩ := h.exists_at ha
        have hins : Returns cmp id _ := ((h.setIt (some a)).insertBefore data mem).returns (seqAdd_code _ _ _)
        simpa [hmove] using hins

lemma editFirst_returns (h : list.Linked cmp ns) (hfirst : list.first ≠ none) (new : BitVec w) :
    Returns cmp id (listEditFirst list new) := by
  cases ns with
  | nil => exact absurd h.first hfirst
  | cons n ns =>
    have h' : list.Linked cmp ([] ++ (n.1, n.2) :: ns) := h
    obtain ⟨list', hedit, hlinked⟩ := h'.iteratorEdit new
    rw [listEditFirst, h.first]
    exact ⟨SUCCESS, list', _, hedit, .inl rfl, hlinked⟩

lemma editLast_returns (h : list.Linked cmp ns) (hfirst : list.first ≠ none) (new : BitVec w) :
    Returns cmp id (listEditLast list new) := by
  rcases List.eq_nil_or_concat ns with rfl | ⟨xs, ⟨a, d⟩, rfl⟩
  · exact absurd h.first hfirst
  · rw [List.concat_eq_append] at h
    obtain ⟨list', hedit, hlinked⟩ := h.iteratorEdit new
    rw [listEditLast, h.last, lastOr_append]
    exact ⟨SUCCESS, list', _, hedit, .inl rfl, hlinked⟩

lemma edit_none (h : list.Linked cmp ns) (hfirst : list.first = none) (new : BitVec w) :
    listEditFirst list new = none ∧ listEditLast list new = none := by
  have hlast : list.last = none := by
    rw [h.first, headOr_eq_none] at hfirst
    rw [h.last, hfirst, lastOr_nil]
  rw [listEditFirst, listEditLast, hfirst, hlast]
  exact ⟨rfl, rfl⟩

lemma removeElements_returns (h : list.Linked cmp ns) {fuel : ℕ} (hfuel : ns.length < fuel) :
    ∃ list', removeElements fuel list = some list' := by
  induction fuel generalizing list ns with
  | zero => exact absurd hfuel (Nat.not_lt_zero _)
  | succ fuel ih =>
    by_cases hcount : list.nbElements = 0
    · exact ⟨list, by simp [removeElements, listGetFirst, hcount, FAILURE, SUCCESS]⟩
    · cases ns with
      | nil => exact absurd h.count hcount
      | cons n ns =>
        obtain ⟨list', ns', hget, hlinked, hdatas⟩ := h.getFirst_cons hcount
        have hlen : ns'.length = ns.length := by simpa [datas] using congrArg List.length hdatas
        obtain ⟨list'', hrest⟩ := ih hlinked (by rw [hlen]; exact Nat.lt_of_succ_lt_succ hfuel)
        exact ⟨list'', by simp [removeElements, hget, hrest]⟩

end PrivListDesc.Linked

namespace ListDesc

variable {type : AdapterType} {l : ListDesc w N}

/-- The call returns SUCCESS or FAILURE and leaves a list. -/
def Answers (type : AdapterType) (cmp : BitVec w → BitVec w → Int32) (r : Option (ListReply w × ListDesc w N)) :
    Prop :=
  ∃ reply l' ns, r = some (reply, l') ∧ (reply.ret = SUCCESS ∨ reply.ret = FAILURE) ∧
    l'.adapter = setAdapter type ∧ l'.privDesc.Linked cmp ns

lemma put_answers (hl : l.adapter = setAdapter type) {r : Option (Int × PrivListDesc w N)} (h : Returns cmp id r) :
    Answers type cmp (l.put r) := by
  obtain ⟨ret, list', ns, rfl, hret, hlinked⟩ := h
  exact ⟨_, _, ns, rfl, hret, hl, hlinked⟩

lemma get_answers (hl : l.adapter = setAdapter type) {r : Option (Fetched w N)} (h : Returns cmp Prod.fst r) :
    Answers type cmp (l.get r) := by
  obtain ⟨ret, list', ns, rfl, hret, hlinked⟩ := h
  exact ⟨_, _, ns, rfl, hret, hl, hlinked⟩

lemma step_answers (hl : l.adapter = setAdapter type) {ns : List (ElemAddr N × BitVec w)}
    (h : l.privDesc.Linked cmp ns) (c : ListCall w N) : Answers type cmp (l.step c) := by
  rw [step_plain hl]
  have hplain := ListCall.plain_plain type c
  generalize c.plain type = p at hplain
  cases p with
  | addFirst data mem => exact put_answers hl (h.addFirst.returns (seqAdd_code _ _ _))
  | addLast data mem => exact put_answers hl ((h.addLast data mem).returns (seqAdd_code _ _ _))
  | addFind data mem => exact put_answers hl (h.addFind.returns (seqAdd_code _ _ _))
  | getFirst => exact get_answers hl h.getFirst_returns
  | getLast => exact get_answers hl h.getLast_returns
  | getFind key => exact get_answers hl ((h.getFind key).returns (seqGet_code _ _))
  | editFind new key => exact put_answers hl ((h.editFind new key).returns (seqAdd_code _ _ _))
  | readFirst => exact get_answers hl (h.readFirst.returns (seqGet_code _ _))
  | readLast => exact get_answers hl (h.readLast.returns (seqGet_code _ _))
  | readIdx idx => exact get_answers hl (h.readIdx_returns idx)
  | readFind key => exact get_answers hl ((h.readFind key).returns (seqGet_code _ _))
  | push data mem => cases type <;> simp [ListCall.plain] at hplain
  | pop => cases type <;> simp [ListCall.plain] at hplain
  | topNext => cases type <;> simp [ListCall.plain] at hplain
  | back => cases type <;> simp [ListCall.plain] at hplain

end ListDesc

namespace Iterator

variable {it : Iterator w N}

lemma effect_code (granted : ElemPtr N → Bool) (c : Cursor (BitVec w)) (call : IteratorCall w N) :
    (call.effect cmp granted c).1.ret = SUCCESS ∨ (call.effect cmp granted c).1.ret = FAILURE := by
  have hdone : ∀ r, (IteratorCall.effect.done c r).1.ret = SUCCESS ∨
      (IteratorCall.effect.done c r).1.ret = FAILURE := by
    intro r
    cases r with
    | none => exact .inr rfl
    | some c' => exact .inl rfl
  have htook : ∀ r, (IteratorCall.effect.took c r).1.ret = SUCCESS ∨
      (IteratorCall.effect.took c r).1.ret = FAILURE := by
    intro r
    cases r with
    | none => exact .inr rfl
    | some r => exact .inl rfl
  cases call with
  | move idx => exact hdone _
  | find key => exact hdone _
  | insert data after mem => exact hdone _
  | get => exact htook _
  | edit data => exact hdone _
  | read => exact htook _

/-- An iterator with an element of the list, or with none, is somewhere. -/
lemma exists_stands (h : it.list.Linked cmp ns) (hp : it.list.Holds it.elem) : ∃ c, Stands cmp it c := by
  cases helem : it.elem with
  | none => exact ⟨.off (datas ns), helem, ns, h, rfl⟩
  | some a =>
    rw [helem] at hp
    obtain ⟨xs, d, ys, rfl⟩ := h.exists_at (hp.resolve_left (Option.some_ne_none a))
    exact ⟨.on (datas xs) d (datas ys), xs, a, ys, helem, h, rfl, rfl⟩

/-- The call returns SUCCESS or FAILURE and leaves a list. -/
def Answers (cmp : BitVec w → BitVec w → Int32) (r : Option (ListReply w × Iterator w N)) : Prop :=
  ∃ reply it' ns, r = some (reply, it') ∧ (reply.ret = SUCCESS ∨ reply.ret = FAILURE) ∧ it'.list.Linked cmp ns

lemma Agrees.answers {c : Cursor (BitVec w)} {call : IteratorCall w N} (h : Agrees cmp it c call) :
    Answers cmp (it.step call) := by
  obtain ⟨reply, it', hstep, rfl, hstands⟩ := h
  obtain ⟨ns, hlinked, -⟩ := hstands.linked
  exact ⟨_, it', ns, hstep, effect_code _ c call, hlinked⟩

/-- A call that has an element to work with answers, also where it does not do what a cursor does. -/
lemma step_answers (h : it.list.Linked cmp ns) (hp : it.list.Holds it.elem) {call : IteratorCall w N}
    (hcall : it.HasElem call) : Answers cmp (it.step call) := by
  obtain ⟨c, hstands⟩ := exists_stands h hp
  cases call with
  | move idx =>
    rw [step]
    obtain hmove | ⟨a, -, hmove⟩ := h.iteratorMove_holds hp idx
    · exact ⟨⟨FAILURE, none⟩, _, ns, by rw [hmove]; rfl, .inr rfl, h⟩
    · exact ⟨⟨SUCCESS, none⟩, ⟨it.list, some a⟩, ns, by rw [hmove]; rfl, .inl rfl, h⟩
  | get =>
    cases helem : it.elem with
    | none => exact ⟨⟨FAILURE, none⟩, ⟨it.list, none⟩, ns, by rw [step, helem]; rfl, .inr rfl, h⟩
    | some a =>
      rw [helem] at hp
      obtain ⟨xs, d, ys, rfl⟩ := h.exists_at (hp.resolve_left (Option.some_ne_none a))
      obtain ⟨list', hget, hlinked⟩ := h.iteratorGet
      exact ⟨⟨SUCCESS, some d⟩, _, _, by rw [step, helem, hget]; rfl, .inl rfl, hlinked⟩
  | find key => exact (agrees_find hstands key).answers
  | read => exact (agrees_read hstands).answers
  | insert data after mem => exact ((agrees_insert_iff hstands data after mem).mpr hcall).answers
  | edit new => exact ((agrees_edit_iff hstands new).mpr hcall).answers

lemma step_none (h : it.list.Linked cmp ns) {call : IteratorCall w N} (hcall : ¬it.HasElem call) :
    it.step call = none := by
  cases call with
  | insert data after mem =>
    obtain ⟨helem, hfirst⟩ := not_or.mp hcall
    rw [step, not_not.mp helem, insert_none h hfirst]
    rfl
  | edit new =>
    have helem : it.elem = none := not_not.mp hcall
    rw [step, helem]
    rfl
  | move idx => exact absurd trivial hcall
  | get => exact absurd trivial hcall
  | find key => exact absurd trivial hcall
  | read => exact absurd trivial hcall

end Iterator

namespace ListSystem

/-- The list, if there is one, is linked. -/
def Sound (type : AdapterType) (cmp : BitVec w → BitVec w → Int32) (s : ListSystem w N) : Prop :=
  ∀ l, s.desc = some l → l.adapter = setAdapter type ∧ ∃ ns, l.privDesc.Linked cmp ns

/-- The call returns SUCCESS or FAILURE and keeps the list sound. -/
def Answers (type : AdapterType) (cmp : BitVec w → BitVec w → Int32) (r : Option (ListReply w × ListSystem w N)) :
    Prop :=
  ∃ reply s, r = some (reply, s) ∧ (reply.ret = SUCCESS ∨ reply.ret = FAILURE) ∧ s.Sound type cmp

variable {type : AdapterType} {s : ListSystem w N} {l : ListDesc w N} {c : ApiCall w N}

lemma sound_some (hl : l.adapter = setAdapter type) (h : l.privDesc.Linked cmp ns)
    (iterators : ℕ → Option (ElemPtr N)) : Sound type cmp ⟨some l, iterators⟩ := by
  intro l' hl'
  obtain rfl : l = l' := Option.some.inj hl'
  exact ⟨hl, ns, h⟩

lemma keep_answers {r : Option (ListReply w × ListDesc w N)} (h : ListDesc.Answers type cmp r) :
    Answers type cmp (s.keep r) := by
  obtain ⟨reply, l', ns, rfl, hret, hl', hlinked⟩ := h
  exact ⟨reply, _, rfl, hret, sound_some hl' hlinked _⟩

lemma setNb_sound (hl : l.adapter = setAdapter type) (h : l.privDesc.Linked cmp ns) (nb : UInt32)
    (iterators : ℕ → Option (ElemPtr N)) :
    Sound type cmp ⟨some { l with privDesc := { l.privDesc with nbIterators := nb } }, iterators⟩ := by
  intro l' hl'
  obtain rfl := Option.some.inj hl'
  exact ⟨hl, ns, h.comparator, h.chain, h.nodup, h.owned, h.first, h.last, h.count⟩

lemma swap_answers (hl : l.adapter = setAdapter type) (h : l.privDesc.Linked cmp ns) (hfirst : l.privDesc.first ≠ none)
    (new : BitVec w) : ListDesc.Answers type cmp (l.put (l.adapter.swap l.privDesc new)) := by
  refine ListDesc.put_answers hl ?_
  rw [hl]
  cases type with
  | listDefault => exact h.editLast_returns hfirst new
  | listStack => exact h.editLast_returns hfirst new
  | listQueue => exact h.editFirst_returns hfirst new
  | listPriorityList => exact h.editFirst_returns hfirst new

lemma swap_none (hl : l.adapter = setAdapter type) (h : l.privDesc.Linked cmp ns) (hfirst : l.privDesc.first = none)
    (new : BitVec w) : l.adapter.swap l.privDesc new = none := by
  obtain ⟨heditFirst, heditLast⟩ := h.edit_none hfirst new
  rw [hl]
  cases type with
  | listDefault => exact heditLast
  | listStack => exact heditLast
  | listQueue => exact heditFirst
  | listPriorityList => exact heditFirst

lemma remove_answers (hl : l.adapter = setAdapter type) (h : l.privDesc.Linked cmp ns) :
    Answers type cmp (s.stepOn l .remove) := by
  rw [stepOn, listRemove]
  split
  · exact ⟨⟨FAILURE, none⟩, _, rfl, .inr rfl, sound_some hl h _⟩
  · obtain ⟨list', hremove⟩ := h.removeElements_returns (Nat.lt_succ_of_le (length_le_of_nodup h.nodup))
    refine ⟨⟨SUCCESS, none⟩, { s with desc := none }, by rw [hremove]; rfl, .inl rfl, ?_⟩
    exact fun l' hl' => absurd hl'.symm (Option.some_ne_none l')

lemma iteratorInit_answers (hl : l.adapter = setAdapter type) (h : l.privDesc.Linked cmp ns) (i : ℕ)
    (start granted : Bool) : Answers type cmp (s.stepOn l (.iteratorInit i start granted)) := by
  cases granted with
  | false => exact ⟨⟨FAILURE, none⟩, _, rfl, .inr rfl, sound_some hl h _⟩
  | true => exact ⟨⟨SUCCESS, none⟩, _, rfl, .inl rfl, setNb_sound hl h _ _⟩

lemma stepOn_answers (hl : l.adapter = setAdapter type) (h : l.privDesc.Linked cmp ns) (hsound : s.Sound type cmp)
    (hvalid : s.ValidOn l c) (hkept : s.KeptOn l c) : Answers type cmp (s.stepOn l c) := by
  cases c with
  | list c => exact keep_answers (ListDesc.step_answers hl h c)
  | addIdx data idx mem => exact keep_answers (ListDesc.put_answers hl (h.addIdx_returns data idx mem))
  | editFirst new => exact keep_answers (ListDesc.put_answers hl (h.editFirst_returns hkept new))
  | editLast new => exact keep_answers (ListDesc.put_answers hl (h.editLast_returns hkept new))
  | editIdx new idx => exact keep_answers (ListDesc.put_answers hl (h.editIdx_returns new idx))
  | getIdx idx => exact keep_answers (ListDesc.get_answers hl (h.getIdx_returns idx))
  | getSize => exact ⟨_, s, rfl, .inl rfl, hsound⟩
  | swap new => exact keep_answers (swap_answers hl h hkept new)
  | remove => exact remove_answers hl h
  | iteratorInit i start granted => exact iteratorInit_answers hl h i start granted
  | iteratorRemove i => exact ⟨⟨SUCCESS, none⟩, _, rfl, .inl rfl, setNb_sound hl h _ _⟩
  | iterator i c =>
    obtain ⟨elem, hmem, hholds⟩ := hvalid
    have helem : s.iterators i = some elem := hmem
    have hanswers : Iterator.Answers cmp ((⟨l.privDesc, elem⟩ : Iterator w N).step c) :=
      Iterator.step_answers h hholds (hkept elem hmem)
    obtain ⟨reply, it, ns', hstep, hret, hlinked⟩ := hanswers
    have hsome : Sound type cmp ⟨some { l with privDesc := it.list }, Function.update s.iterators i (some it.elem)⟩ :=
      sound_some (l := { l with privDesc := it.list }) hl hlinked _
    refine ⟨reply, _, ?_, hret, hsome⟩
    rw [stepOn, helem]
    simp only [Option.bind_eq_bind, Option.bind_some, hstep]

lemma stepOn_none (hl : l.adapter = setAdapter type) (h : l.privDesc.Linked cmp ns) (hkept : ¬s.KeptOn l c) :
    s.stepOn l c = none := by
  cases c with
  | editFirst new => rw [stepOn, (h.edit_none (not_not.mp hkept) new).1]; rfl
  | editLast new => rw [stepOn, (h.edit_none (not_not.mp hkept) new).2]; rfl
  | swap new => rw [stepOn, swap_none hl h (not_not.mp hkept) new]; rfl
  | iterator i c =>
    simp only [KeptOn, not_forall] at hkept
    obtain ⟨elem, hmem, hnot⟩ := hkept
    have helem : s.iterators i = some elem := hmem
    have hstep : (⟨l.privDesc, elem⟩ : Iterator w N).step c = none := Iterator.step_none h hnot
    rw [stepOn, helem]
    simp only [Option.bind_eq_bind, Option.bind_some, hstep, Option.bind_none]
  | _ => exact absurd trivial hkept

end ListSystem

/-- A list with its iterators, unless a call has gone wrong -/
abbrev ListRun (w : ℕ) (N : ℕ := maxElems) := Option (ListSystem w N)

namespace ListRun

def step (s : ListRun w N) (c : ApiCall w N) : ListRun w N := s.bind fun s => (s.step c).map Prod.snd

/-- The descriptors of the call are valid. -/
def Valid : ListRun w N → ApiCall w N → Prop
  | some ⟨some l, iterators⟩, c => ListSystem.ValidOn ⟨some l, iterators⟩ l c
  | some ⟨none, _⟩, _ => False
  | none, _ => True

/-- The call returns SUCCESS or FAILURE, without following NULL. -/
def Returns (s : ListRun w N) (c : ApiCall w N) : Prop :=
  ∃ reply s', s.bind (·.step c) = some (reply, s') ∧ (reply.ret = SUCCESS ∨ reply.ret = FAILURE)

def Kept : ListRun w N → ApiCall w N → Prop
  | some ⟨some l, iterators⟩, c => ListSystem.KeptOn ⟨some l, iterators⟩ l c
  | _, _ => True

/-- No call has gone wrong. -/
def Sound (type : AdapterType) (cmp : BitVec w → BitVec w → Int32) (s : ListRun w N) : Prop :=
  ∃ t, s = some t ∧ t.Sound type cmp

variable {type : AdapterType} {s : ListRun w N} {c : ApiCall w N}

lemma Sound.answers (h : s.Sound type cmp) (hvalid : s.Valid c) (hkept : s.Kept c) :
    ListSystem.Answers type cmp (s.bind (·.step c)) := by
  obtain ⟨⟨desc, iterators⟩, rfl, hsound⟩ := h
  cases desc with
  | none => exact hvalid.elim
  | some l =>
    obtain ⟨hl, ns, hlinked⟩ := hsound l rfl
    exact ListSystem.stepOn_answers hl hlinked hsound hvalid hkept

lemma Sound.returns_iff (h : s.Sound type cmp) (hvalid : s.Valid c) : s.Returns c ↔ s.Kept c := by
  constructor
  · rintro ⟨reply, s', hstep, -⟩
    obtain ⟨⟨desc, iterators⟩, rfl, hsound⟩ := h
    cases desc with
    | none => exact hvalid.elim
    | some l =>
      obtain ⟨hl, ns, hlinked⟩ := hsound l rfl
      by_contra hnot
      have hnone := ListSystem.stepOn_none (s := ⟨some l, iterators⟩) hl hlinked hnot
      exact absurd (hnone.symm.trans hstep) (Option.some_ne_none _).symm
  · intro hkept
    obtain ⟨reply, t, hstep, hret, -⟩ := h.answers hvalid hkept
    exact ⟨reply, t, hstep, hret⟩

lemma Sound.step (h : s.Sound type cmp) (hvalid : s.Valid c) (hkept : s.Kept c) : (s.step c).Sound type cmp := by
  obtain ⟨reply, t, hstep, -, hsound⟩ := h.answers hvalid hkept
  refine ⟨t, ?_, hsound⟩
  obtain ⟨t', rfl, -⟩ := h
  exact congrArg (Option.map Prod.snd) hstep

instance (list : PrivListDesc w N) (p : ElemPtr N) : Decidable (list.Holds p) :=
  inferInstanceAs (Decidable (p = none ∨ fetch list.heap p ≠ none))

instance (it : Iterator w N) : (c : IteratorCall w N) → Decidable (it.HasElem c)
  | .insert _ _ _ => inferInstanceAs (Decidable (_ ∨ _))
  | .edit _ => inferInstanceAs (Decidable (_ ≠ _))
  | .move _ => .isTrue trivial
  | .find _ => .isTrue trivial
  | .get => .isTrue trivial
  | .read => .isTrue trivial

instance (t : ListSystem w N) (l : ListDesc w N) : (c : ApiCall w N) → Decidable (t.ValidOn l c)
  | .iteratorRemove i => inferInstanceAs (Decidable (t.iterators i ≠ none))
  | .iterator i _ => Option.decidableExistsMem (t.iterators i)
  | .list _ | .addIdx _ _ _ | .editFirst _ | .editLast _ | .editIdx _ _ | .getIdx _ | .getSize | .swap _ | .remove
  | .iteratorInit _ _ _ => .isTrue trivial

instance (t : ListSystem w N) (l : ListDesc w N) : (c : ApiCall w N) → Decidable (t.KeptOn l c)
  | .editFirst _ | .editLast _ | .swap _ => inferInstanceAs (Decidable (l.privDesc.first ≠ none))
  | .iterator i _ => Option.decidableForallMem (t.iterators i)
  | .list _ | .addIdx _ _ _ | .editIdx _ _ | .getIdx _ | .getSize | .remove | .iteratorInit _ _ _
  | .iteratorRemove _ => .isTrue trivial

instance : (s : ListRun w N) → (c : ApiCall w N) → Decidable (s.Valid c)
  | some ⟨some _, _⟩, _ => inferInstanceAs (Decidable (ListSystem.ValidOn _ _ _))
  | some ⟨none, _⟩, _ => .isFalse not_false
  | none, _ => .isTrue trivial

instance : (s : ListRun w N) → (c : ApiCall w N) → Decidable (s.Kept c)
  | some ⟨some _, _⟩, _ => inferInstanceAs (Decidable (ListSystem.KeptOn _ _ _))
  | some ⟨none, _⟩, _ => .isTrue trivial
  | none, _ => .isTrue trivial

end ListRun

/-- The calls on a new list and its iterators, with valid descriptors, all return SUCCESS or FAILURE if and only if
each of them has the element that it takes for granted. -/
theorem list_calls_return_iff {type : AdapterType} {comparator : Option (BitVec w → BitVec w → Int32)}
    {mem : ListAlloc} {desc : ListDesc w N} (hinit : listInit type comparator mem = (SUCCESS, some desc))
    {calls : List (ApiCall w N)}
    (hvalid : Trace.Guarded ListRun.step ListRun.Valid (some { desc := some desc }) calls) :
    Trace.Guarded ListRun.step ListRun.Returns (some { desc := some desc }) calls ↔
      Trace.Guarded ListRun.step ListRun.Kept (some { desc := some desc }) calls := by
  obtain ⟨hadapter, hempty⟩ := listInit_linked hinit
  have hstart : ListRun.Sound type (comparator.getD defaultComparator) (some { desc := some desc }) :=
    ⟨_, rfl, ListSystem.sound_some hadapter hempty _⟩
  have hboth : Trace.Guarded ListRun.step (fun s c => s.Valid c ∧ s.Returns c) (some { desc := some desc }) calls ↔
      Trace.Guarded ListRun.step (fun s c => s.Valid c ∧ s.Kept c) (some { desc := some desc }) calls :=
    Trace.guarded_iff_guarded hstart (fun s c hs hc => hs.step hc.1 hc.2) fun s c hs => and_congr_right hs.returns_iff
  rwa [Trace.guarded_and, Trace.guarded_and, and_iff_right hvalid, and_iff_right hvalid] at hboth

/-- An iterator that was opened on an empty list, found an item and took it out, and the removal of both -/
theorem list_calls_return_queue : ∃ desc : ListDesc 32, listInit .listQueue none {} = (SUCCESS, some desc) ∧
    Trace.Guarded ListRun.step ListRun.Returns (some { desc := some desc })
      [.iteratorInit 0 true true, .iterator 0 .read, .iterator 0 (.insert 4 true (some ⟨0, by decide⟩)),
        .swap 5, .iterator 0 (.find 5), .iterator 0 .get, .iterator 0 .get, .remove, .iteratorRemove 0, .remove] :=
  ⟨_, rfl, (@list_calls_return_iff 32 maxElems .listQueue none {} _ rfl _ (by decide)).mpr (by decide)⟩

/-- The element at the head of an empty list is edited. -/
theorem not_list_calls_return : ¬∀ (desc : ListDesc 32) (calls : List (ApiCall 32)),
    listInit .listQueue none {} = (SUCCESS, some desc) →
    Trace.Guarded ListRun.step ListRun.Valid (some { desc := some desc }) calls →
    Trace.Guarded ListRun.step ListRun.Returns (some { desc := some desc }) calls := by
  intro h
  have hreturns := h _ [.editFirst 1] rfl (by decide)
  obtain ⟨reply, s', hstep, -⟩ := (Trace.guarded_cons.mp hreturns).1
  exact absurd hstep.symm (Option.some_ne_none _)

end NoOS
