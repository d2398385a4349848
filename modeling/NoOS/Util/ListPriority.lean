import NoOS.Lib.StableInsert
import NoOS.Util.ListRefinement

/-!
# Priority lists

`list_add_find` inserts an item behind everything that is not greater. With a comparator that is a total preorder
a list of type LIST_PRIORITY_LIST stays in order, `pop` takes a least item and equal items leave in the order they
came.
-/

namespace NoOS
open DoublyLinked StableInsert

variable {w N : ℕ}

/-- `data1` does not compare greater than `data2`. -/
def LeBy (cmp : BitVec w → BitVec w → Int32) (data1 data2 : BitVec w) : Prop := cmp data1 data2 ≤ 0

instance (cmp : BitVec w → BitVec w → Int32) : DecidableRel (LeBy cmp) :=
  fun data1 data2 => inferInstanceAs (Decidable (cmp data1 data2 ≤ 0))

/-- The comparator orders all data. -/
structure TotalPreorder (cmp : BitVec w → BitVec w → Int32) : Prop where
  total : ∀ a b, LeBy cmp a b ∨ LeBy cmp b a
  trans : ∀ a b c, LeBy cmp a b → LeBy cmp b c → LeBy cmp a c

/-- The documented results, -1, 0 and 1, for data with keys -/
def compareKeys (key : BitVec w → ℕ) (data1 data2 : BitVec w) : Int32 :=
  if key data1 < key data2 then -1 else if key data1 = key data2 then 0 else 1

lemma leBy_compareKeys {key : BitVec w → ℕ} {a b : BitVec w} : LeBy (compareKeys key) a b ↔ key a ≤ key b := by
  unfold LeBy compareKeys
  rcases lt_trichotomy (key a) (key b) with hlt | heq | hgt
  · rw [if_pos hlt]
    exact iff_of_true (by decide) hlt.le
  · rw [if_neg heq.not_lt, if_pos heq]
    exact iff_of_true (by decide) heq.le
  · rw [if_neg hgt.not_gt, if_neg hgt.ne']
    exact iff_of_false (by decide) (not_le.mpr hgt)

/-- A comparator that returns what it should is a total preorder. -/
lemma totalPreorder_compareKeys (key : BitVec w → ℕ) : TotalPreorder (compareKeys key) where
  total a b := by
    rw [leBy_compareKeys, leBy_compareKeys]
    exact le_total _ _
  trans a b c := by
    rw [leBy_compareKeys, leBy_compareKeys, leBy_compareKeys]
    exact le_trans

inductive PriorityCall (w : ℕ) (N : ℕ := maxElems)
  | push (data : BitVec w) (mem : ElemPtr N)
  | pop

namespace PriorityCall

def toListCall : PriorityCall w N → ListCall w N
  | .push data mem => .push data mem
  | .pop => .pop

/-- The item that a call adds -/
def pushed (reply : ListReply w) : PriorityCall w N → List (BitVec w)
  | .push data _ => if reply.ret = SUCCESS then [data] else []
  | .pop => []

/-- The item that a call takes out -/
def popped (reply : ListReply w) : PriorityCall w N → List (BitVec w)
  | .push _ _ => []
  | .pop => if reply.ret = SUCCESS then reply.data.toList else []

end PriorityCall

/-- A priority list, unless a call has gone wrong, with all the items it was given and all it has given back -/
structure PriorityRun (w : ℕ) (N : ℕ := maxElems) where
  list : Option (ListDesc w N)
  pushed : List (BitVec w) := []
  popped : List (BitVec w) := []

def PriorityRun.step (s : PriorityRun w N) (c : PriorityCall w N) : PriorityRun w N :=
  match s.list.bind (·.step c.toListCall) with
  | none => { s with list := none }
  | some (reply, l) => ⟨some l, s.pushed ++ c.pushed reply, s.popped ++ c.popped reply⟩

/-- The list holds the items that remain. `pop` takes a least one of them, and `back` reads a greatest one. -/
structure ListDesc.ServesLeast (cmp : BitVec w → BitVec w → Int32) (l : ListDesc w N) (remaining : List (BitVec w)) :
    Prop where
  represents : ∃ ns, l.privDesc.Represents cmp ns ∧ datas ns = remaining
  push : ∀ data mem, ∃ l', l.step (.push data mem) =
    some (⟨if grants l.privDesc.heap mem then SUCCESS else FAILURE, none⟩, l')
  pop : ∃ reply l', l.step .pop = some (reply, l') ∧ if remaining = [] then reply.ret = FAILURE
    else ∃ d ∈ remaining, reply = ⟨SUCCESS, some d⟩ ∧ ∀ e ∈ remaining, LeBy cmp d e
  back : ∃ reply l', l.step .back = some (reply, l') ∧ if remaining = [] then reply.ret = FAILURE
    else ∃ d ∈ remaining, reply = ⟨SUCCESS, some d⟩ ∧ ∀ e ∈ remaining, LeBy cmp e d

/-- Of the items pushed, those that remain are on the list; the others have been popped, and of the items that
compare equal to any one the first ones. -/
def PriorityRun.Serves (cmp : BitVec w → BitVec w → Int32) (s : PriorityRun w N) : Prop :=
  ∃ l remaining, s.list = some l ∧ l.ServesLeast cmp remaining ∧ s.pushed.Perm (s.popped ++ remaining) ∧
    ∀ v, (s.popped ++ remaining).filter (fun e => Alike (LeBy cmp) v e) =
      s.pushed.filter (fun e => Alike (LeBy cmp) v e)

variable {cmp : BitVec w → BitVec w → Int32} {l l' : ListDesc w N} {ns : List (ElemAddr N × BitVec w)}

lemma insertWhere_eq (d : BitVec w) (ds : List (BitVec w)) :
    insertWhere (fun e => 0 < cmp e d) d ds = insertBehind (LeBy cmp) d ds := by
  have hgreater : (fun e => !decide (0 < cmp e d)) = fun e => decide (LeBy cmp e d) := by
    funext e
    rw [← decide_not]
    exact decide_eq_decide.mpr Int32.not_lt
  rw [insertWhere, insertBehind_eq, hgreater]

namespace ListDesc

lemma step_push (hN : N ≤ 2 ^ 31) (hl : l.adapter = setAdapter .listPriorityList) (h : l.privDesc.Linked cmp ns)
    (data : BitVec w) (mem : ElemPtr N) :
    ∃ l' ns', l.step (.push data mem) =
        some (⟨if grants l.privDesc.heap mem then SUCCESS else FAILURE, none⟩, l') ∧
      l'.adapter = l.adapter ∧ l'.privDesc.Linked cmp ns' ∧
      datas ns' = if grants l.privDesc.heap mem then insertBehind (LeBy cmp) data (datas ns) else datas ns := by
  obtain ⟨reply, l', ns', hstep, hl', h', heffect⟩ := step_refines hN hl h (.push data mem)
  have hpush : (reply, datas ns') = ListCall.plainEffect.put
      (seqAdd (grants l.privDesc.heap mem) (insertBehind (LeBy cmp) data (datas ns)) (datas ns)) := by
    rw [heffect, ← insertWhere_eq]
    rfl
  refine ⟨l', ns', ?_, hl', h', ?_⟩
  · rw [hstep, (Prod.mk.inj hpush).1]
    cases grants l.privDesc.heap mem with
    | true => rfl
    | false => rfl
  · rw [(Prod.mk.inj hpush).2]
    cases grants l.privDesc.heap mem with
    | true => rfl
    | false => rfl

lemma step_pop (hN : N ≤ 2 ^ 31) (hl : l.adapter = setAdapter .listPriorityList) (h : l.privDesc.Linked cmp ns) :
    ∃ reply l' ns', l.step .pop = some (reply, l') ∧ l'.adapter = l.adapter ∧ l'.privDesc.Linked cmp ns' ∧
      match datas ns with
      | [] => reply = ⟨FAILURE, some 0⟩ ∧ datas ns' = []
      | d :: rest => reply = ⟨SUCCESS, some d⟩ ∧ datas ns' = rest := by
  obtain ⟨reply, l', ns', hstep, hl', h', heffect⟩ := step_refines hN hl h .pop
  refine ⟨reply, l', ns', hstep, hl', h', ?_⟩
  cases hds : datas ns with
  | nil =>
    rw [hds] at heffect
    exact Prod.mk.inj heffect
  | cons d rest =>
    rw [hds] at heffect
    exact Prod.mk.inj heffect

lemma step_back (hN : N ≤ 2 ^ 31) (hl : l.adapter = setAdapter .listPriorityList) (h : l.privDesc.Linked cmp ns) :
    ∃ reply l', l.step .back = some (reply, l') ∧
      match (datas ns).getLast? with
      | none => reply = ⟨FAILURE, some 0⟩
      | some d => reply = ⟨SUCCESS, some d⟩ := by
  obtain ⟨reply, l', ns', hstep, -, -, heffect⟩ := step_refines hN hl h .back
  have hback : (reply, datas ns') = ListCall.plainEffect.get (seqRead (datas ns).getLast? (datas ns)) := heffect
  refine ⟨reply, l', hstep, ?_⟩
  cases hlast : (datas ns).getLast? with
  | none =>
    rw [hlast] at hback
    exact (Prod.mk.inj hback).1
  | some d =>
    rw [hlast] at hback
    exact (Prod.mk.inj hback).1

end ListDesc

namespace PriorityRun

/-- The items on the list are the remaining ones of an ordered history. -/
def Ordered (cmp : BitVec w → BitVec w → Int32) (s : PriorityRun w N) : Prop :=
  ∃ l ns, s.list = some l ∧ l.adapter = setAdapter .listPriorityList ∧ l.privDesc.Linked cmp ns ∧
    History.Ordered (LeBy cmp) ⟨s.pushed, s.popped, datas ns⟩

variable {s : PriorityRun w N} {c : PriorityCall w N} {reply : ListReply w}

lemma step_some (hlist : s.list = some l) (hstep : l.step c.toListCall = some (reply, l')) :
    s.step c = ⟨some l', s.pushed ++ c.pushed reply, s.popped ++ c.popped reply⟩ := by
  rw [step, hlist, Option.bind_some, hstep]

lemma Ordered.step [Std.Total (LeBy cmp)] [IsTrans (BitVec w) (LeBy cmp)] (hN : N ≤ 2 ^ 31) (h : s.Ordered cmp)
    (c : PriorityCall w N) : (s.step c).Ordered cmp := by
  obtain ⟨l, ns, hlist, hl, hlinked, hist⟩ := h
  cases c with
  | push data mem =>
    obtain ⟨l', ns', hstep, hl', hlinked', hdatas⟩ := ListDesc.step_push hN hl hlinked data mem
    rw [step_some (c := .push data mem) hlist hstep]
    refine ⟨l', ns', rfl, hl'.trans hl, hlinked', ?_⟩
    rw [hdatas]
    cases grants l.privDesc.heap mem with
    | true =>
      have hpushed := hist.push data
      rwa [← List.append_nil s.popped] at hpushed
    | false =>
      rw [← List.append_nil s.pushed, ← List.append_nil s.popped] at hist
      exact hist
  | pop =>
    obtain ⟨reply, l', ns', hstep, hl', hlinked', hpop⟩ := ListDesc.step_pop hN hl hlinked
    rw [step_some (c := .pop) hlist hstep]
    refine ⟨l', ns', rfl, hl'.trans hl, hlinked', ?_⟩
    cases hds : datas ns with
    | nil =>
      rw [hds] at hpop hist
      obtain ⟨rfl, hempty⟩ := hpop
      rw [← List.append_nil s.pushed, ← List.append_nil s.popped] at hist
      rw [hempty]
      exact hist
    | cons d rest =>
      rw [hds] at hpop hist
      obtain ⟨rfl, hrest⟩ := hpop
      have hpopped := hist.pop
      rw [← List.append_nil s.pushed] at hpopped
      rw [hrest]
      exact hpopped

lemma Ordered.serves [Std.Total (LeBy cmp)] (hN : N ≤ 2 ^ 31) (h : s.Ordered cmp) : s.Serves cmp := by
  obtain ⟨l, ns, hlist, hl, hlinked, hist⟩ := h
  have hlen : ns.length < 2 ^ 32 := hlinked.length_lt (by omega)
  refine ⟨l, datas ns, hlist, ⟨⟨ns, hlinked.represents hlen, rfl⟩, fun data mem => ?_, ?_, ?_⟩, hist.conserved,
    hist.fifo⟩
  · obtain ⟨l', _, hstep, _⟩ := ListDesc.step_push hN hl hlinked data mem
    exact ⟨l', hstep⟩
  · obtain ⟨reply, l', _, hstep, _, _, hpop⟩ := ListDesc.step_pop hN hl hlinked
    refine ⟨reply, l', hstep, ?_⟩
    cases hds : datas ns with
    | nil =>
      rw [hds] at hpop
      rw [if_pos rfl, hpop.1]
    | cons d rest =>
      rw [hds] at hpop hist
      rw [if_neg (List.cons_ne_nil d rest)]
      exact ⟨d, List.mem_cons_self, hpop.1, fun e he => hist.head_le rfl he⟩
  · obtain ⟨reply, l', hstep, hback⟩ := ListDesc.step_back hN hl hlinked
    refine ⟨reply, l', hstep, ?_⟩
    cases hlast : (datas ns).getLast? with
    | none =>
      rw [hlast] at hback
      rw [if_pos (List.getLast?_eq_none_iff.mp hlast), hback]
    | some d =>
      rw [hlast] at hback
      have hmem := List.mem_of_getLast? hlast
      rw [if_neg (List.ne_nil_of_mem hmem)]
      exact ⟨d, hmem, hback, fun e he => hist.le_getLast hlast he⟩

end PriorityRun

/-- In every state of every run of `push` and `pop` calls on a new priority list, `pop` takes a least item,
`back` reads a greatest one, and the items that compare equal have left in the order they came. -/
theorem priority_list_serves {cmp : BitVec w → BitVec w → Int32} (hcmp : TotalPreorder cmp) {mem : ListAlloc}
    {desc : ListDesc w} (hinit : listInit .listPriorityList (some cmp) mem = (SUCCESS, some desc))
    (calls : List (PriorityCall w)) :
    Trace.Always PriorityRun.step (PriorityRun.Serves cmp) { list := some desc } calls := by
  have htotal : Std.Total (LeBy cmp) := ⟨hcmp.total⟩
  have htrans : IsTrans (BitVec w) (LeBy cmp) := ⟨hcmp.trans⟩
  obtain ⟨hadapter, hempty⟩ := listInit_linked hinit
  have hstart : PriorityRun.Ordered cmp { list := some desc } :=
    ⟨desc, [], rfl, hadapter, hempty, History.ordered_nil⟩
  intro pre _
  exact (Trace.run_induction hstart fun _ c h => h.step (by decide) c).serves (by decide)

/-- Items of the same tens -/
theorem priority_list_serves_tens :
    TotalPreorder (compareKeys fun d : BitVec 32 => d.toNat / 10) ∧
      Trace.Always PriorityRun.step (PriorityRun.Serves (compareKeys fun d : BitVec 32 => d.toNat / 10))
        ({ list := (listInit .listPriorityList (some (compareKeys fun d => d.toNat / 10)) {}).2 } : PriorityRun 32)
        [.push 31 (some ⟨0, by decide⟩), .push 15 (some ⟨1, by decide⟩), .push 12 (some ⟨2, by decide⟩), .pop, .pop] :=
  ⟨totalPreorder_compareKeys _, @priority_list_serves 32 _ (totalPreorder_compareKeys _) {} _ rfl _⟩

end NoOS
