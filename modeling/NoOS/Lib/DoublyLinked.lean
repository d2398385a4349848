import Mathlib.Data.List.Induction
import Mathlib.Data.List.Nodup
import Mathlib.Logic.Function.Basic

/-!
# Doubly linked chains in a heap

A chain is a list of nodes, each with its address, whose links lead from one to the next
and back. Chains split and join at any node, and a store outside of a chain leaves it alone.
-/

namespace DoublyLinked

variable {α δ : Type*}

structure Node (α δ : Type*) where
  data : δ
  prev : Option α
  next : Option α
deriving DecidableEq

abbrev Heap (α δ : Type*) := α → Option (Node α δ)

/-- The address of the first node, or `next` if there is none. -/
def headOr : List (α × δ) → Option α → Option α
  | [], next => next
  | (a, _) :: _, _ => some a

/-- The address of the last node, or `prev` if there is none. -/
def lastOr : List (α × δ) → Option α → Option α
  | [], prev => prev
  | (a, _) :: ns, _ => lastOr ns (some a)

/-- The nodes `ns` are linked in this order, between the links `prev` and `next`. -/
def Chain (heap : Heap α δ) : Option α → List (α × δ) → Option α → Prop
  | _, [], _ => True
  | prev, (a, d) :: ns, next =>
    heap a = some ⟨d, prev, headOr ns next⟩ ∧ Chain heap (some a) ns next

def addrs (ns : List (α × δ)) : List α := ns.map Prod.fst

def datas (ns : List (α × δ)) : List δ := ns.map Prod.snd

@[simp] lemma addrs_append (xs ys : List (α × δ)) : addrs (xs ++ ys) = addrs xs ++ addrs ys :=
  List.map_append

@[simp] lemma addrs_cons (n : α × δ) (ns : List (α × δ)) : addrs (n :: ns) = n.1 :: addrs ns := rfl

@[simp] lemma addrs_nil : addrs ([] : List (α × δ)) = [] := rfl

@[simp] lemma datas_append (xs ys : List (α × δ)) : datas (xs ++ ys) = datas xs ++ datas ys :=
  List.map_append

@[simp] lemma datas_cons (n : α × δ) (ns : List (α × δ)) : datas (n :: ns) = n.2 :: datas ns := rfl

@[simp] lemma datas_nil : datas ([] : List (α × δ)) = [] := rfl

variable {heap heap' : Heap α δ} {prev next q : Option α} {xs ys ns : List (α × δ)} {a : α} {d : δ} {n : ℕ}

@[simp] lemma headOr_nil (next : Option α) : headOr ([] : List (α × δ)) next = next := rfl

@[simp] lemma headOr_cons (n : α × δ) (ns : List (α × δ)) (next : Option α) :
    headOr (n :: ns) next = some n.1 := rfl

@[simp] lemma lastOr_nil (prev : Option α) : lastOr ([] : List (α × δ)) prev = prev := rfl

@[simp] lemma lastOr_cons (n : α × δ) (ns : List (α × δ)) (prev : Option α) :
    lastOr (n :: ns) prev = lastOr ns (some n.1) := rfl

@[simp] lemma headOr_append : headOr (xs ++ ys) next = headOr xs (headOr ys next) := by
  cases xs with
  | nil => rfl
  | cons x xs => rfl

@[simp] lemma lastOr_append : lastOr (xs ++ ys) prev = lastOr ys (lastOr xs prev) := by
  induction xs generalizing prev with
  | nil => rfl
  | cons x xs ih => exact ih

lemma lastOr_mem (h : lastOr ns none = some a) : a ∈ addrs ns := by
  rcases List.eq_nil_or_concat ns with rfl | ⟨xs, x, rfl⟩
  · simp at h
  · simp only [List.concat_eq_append, lastOr_append, lastOr_cons, lastOr_nil,
      Option.some.injEq] at h
    simp [← h]

lemma headOr_mem (h : headOr ns none = some a) : a ∈ addrs ns := by
  cases ns with
  | nil => simp at h
  | cons x xs =>
    simp only [headOr_cons, Option.some.injEq] at h
    simp [← h]

lemma headOr_eq_none : headOr ns none = none ↔ ns = [] := by
  cases ns with
  | nil => simp
  | cons x xs => simp

lemma lastOr_eq_none : lastOr ns none = none ↔ ns = [] := by
  rcases List.eq_nil_or_concat ns with rfl | ⟨xs, x, rfl⟩
  · simp
  · simp

lemma lastOr_eq_getLast? : lastOr ns none = (addrs ns).getLast? := by
  rcases List.eq_nil_or_concat ns with rfl | ⟨xs, x, rfl⟩
  · rfl
  · simp

lemma exists_split (h : n < ns.length) : ∃ xs a d ys, ns = xs ++ (a, d) :: ys ∧ xs.length = n := by
  refine ⟨ns.take n, ns[n].1, ns[n].2, ns.drop (n + 1), ?_, List.length_take_of_le (Nat.le_of_lt h)⟩
  change ns = ns.take n ++ ns[n] :: ns.drop (n + 1)
  rw [← List.drop_eq_getElem_cons h, List.take_append_drop]

/-- A node is in one place of a list whose addresses are distinct. -/
lemma split_unique {xs' ys' : List (α × δ)} {d' : δ} (h : xs ++ (a, d) :: ys = xs' ++ (a, d') :: ys')
    (hx : a ∉ addrs xs) (hx' : a ∉ addrs xs') : xs = xs' ∧ d = d' ∧ ys = ys' := by
  induction xs generalizing xs' with
  | nil =>
    cases xs' with
    | nil => simpa using h
    | cons x' xs' =>
      rw [List.nil_append, List.cons_append, List.cons.injEq] at h
      exact absurd (List.mem_cons.mpr (.inl (congrArg Prod.fst h.1))) hx'
  | cons x xs ih =>
    cases xs' with
    | nil =>
      rw [List.nil_append, List.cons_append, List.cons.injEq] at h
      exact absurd (List.mem_cons.mpr (.inl (congrArg Prod.fst h.1).symm)) hx
    | cons x' xs' =>
      rw [List.cons_append, List.cons_append, List.cons.injEq] at h
      rw [addrs_cons, List.mem_cons, not_or] at hx hx'
      obtain ⟨rfl, hrest⟩ := ih h.2 hx.2 hx'.2
      exact ⟨by rw [h.1], hrest⟩

lemma chain_append :
    Chain heap prev (xs ++ ys) next ↔
      Chain heap prev xs (headOr ys next) ∧ Chain heap (lastOr xs prev) ys next := by
  induction xs generalizing prev with
  | nil => simp [Chain]
  | cons x xs ih => simp only [List.cons_append, Chain, headOr_append, lastOr_cons, ih, and_assoc]

lemma Chain.congr (h : Chain heap prev ns next) (heq : ∀ a ∈ addrs ns, heap' a = heap a) :
    Chain heap' prev ns next := by
  induction ns generalizing prev with
  | nil => trivial
  | cons n ns ih =>
    refine ⟨?_, ih h.2 fun a ha => heq a (List.mem_cons_of_mem _ ha)⟩
    rw [heq n.1 List.mem_cons_self]
    exact h.1

lemma Chain.alloc (h : Chain heap prev ns next) (ha : a ∈ addrs ns) : heap a ≠ none := by
  induction ns generalizing prev with
  | nil => simp at ha
  | cons n ns ih =>
    rcases List.mem_cons.mp ha with rfl | ha
    · rw [h.1]
      exact Option.some_ne_none _
    · exact ih h.2 ha

/-- Follows the links from `p` to the first node whose data stops the walk. There is no
result if it meets a node that is not in the heap, or goes on for more than `fuel` nodes. -/
def walkTo (heap : Heap α δ) (stop : δ → Bool) : ℕ → Option α → Option (Option α)
  | _, none => some none
  | 0, some _ => none
  | fuel + 1, some a =>
    match heap a with
    | none => none
    | some e => if stop e.data then some (some a) else walkTo heap stop fuel e.next

/-- A walk along a chain stops at the first node that satisfies `stop`. -/
lemma Chain.walkTo (h : Chain heap prev ns none) (stop : δ → Bool) {fuel : ℕ}
    (hf : ns.length ≤ fuel) :
    walkTo heap stop fuel (headOr ns none) =
      some (headOr (ns.dropWhile fun n => !stop n.2) none) := by
  induction ns generalizing prev fuel with
  | nil => simp [DoublyLinked.walkTo]
  | cons n ns ih =>
    obtain ⟨a, d⟩ := n
    obtain ⟨ha, hns⟩ := h
    cases fuel with
    | zero => simp at hf
    | succ fuel =>
      rw [headOr_cons, DoublyLinked.walkTo, ha]
      by_cases hs : stop d = true
      · simp [hs]
      · simp only [hs, List.dropWhile_cons]
        exact ih hns (Nat.le_of_succ_le_succ hf)

/-- Follows up to `n` links from `p`, forward or backward. -/
def walkBy (heap : Heap α δ) (forward : Bool) : ℕ → Option α → Option (Option α)
  | 0, p => some p
  | _ + 1, none => some none
  | n + 1, some a =>
    match heap a with
    | none => none
    | some e => walkBy heap forward n (if forward then e.next else e.prev)

lemma Chain.walkBy (h : Chain heap prev ns none) (n : ℕ) :
    walkBy heap true n (headOr ns none) = some (headOr (ns.drop n) none) := by
  induction n generalizing prev ns with
  | zero => rfl
  | succ n ih =>
    cases ns with
    | nil => rfl
    | cons m ns =>
      obtain ⟨ha, hns⟩ := h
      rw [headOr_cons, DoublyLinked.walkBy, ha]
      exact ih hns

/-- `n` links back from the end of a chain lead to its node `n` from the end. -/
lemma Chain.walkBack (h : Chain heap none ns next) (n : ℕ) :
    DoublyLinked.walkBy heap false n (lastOr ns none) = some (lastOr (ns.take (ns.length - n)) none) := by
  induction n generalizing ns next with
  | zero => rw [Nat.sub_zero, List.take_length, DoublyLinked.walkBy]
  | succ n ih =>
    rcases List.eq_nil_or_concat ns with rfl | ⟨xs, ⟨a, d⟩, rfl⟩
    · rw [List.take_nil]
      rfl
    · rw [List.concat_eq_append] at h ⊢
      obtain ⟨hxs, ha, -⟩ := chain_append.mp h
      have htake : (xs ++ [(a, d)]).take ((xs ++ [(a, d)]).length - (n + 1)) = xs.take (xs.length - n) := by
        rw [List.length_append, List.length_singleton, Nat.add_sub_add_right]
        exact List.take_append_of_le_length (Nat.sub_le _ _)
      rw [htake, lastOr_append, lastOr_cons, lastOr_nil, DoublyLinked.walkBy, ha]
      exact ih hxs

lemma lastOr_take (h : ns.drop n = (a, d) :: xs) : lastOr (ns.take (n + 1)) none = some a := by
  have htake : ns.take (n + 1) = ns.take n ++ [(a, d)] := by
    have hnode : ns[n]? = some (a, d) := by rw [← List.head?_drop, h, List.head?_cons]
    rw [List.take_add_one, hnode, Option.toList_some]
  rw [htake, lastOr_append, lastOr_cons, lastOr_nil]

lemma Chain.unique (hx : Chain heap prev xs none) (hy : Chain heap prev ys none)
    (hhead : headOr xs none = headOr ys none) : xs = ys := by
  induction xs generalizing prev ys with
  | nil => exact (headOr_eq_none.mp hhead.symm).symm
  | cons x xs ih =>
    cases ys with
    | nil => exact absurd (headOr_eq_none.mp hhead) (List.cons_ne_nil _ _)
    | cons y ys =>
      obtain ⟨a, d⟩ := x
      obtain ⟨b, e⟩ := y
      obtain rfl : a = b := Option.some.inj hhead
      obtain ⟨ha, hxs⟩ := hx
      obtain ⟨hb, hys⟩ := hy
      rw [ha, Option.some.injEq, Node.mk.injEq] at hb
      obtain ⟨rfl, -, hnext⟩ := hb
      rw [ih hxs hys hnext]

/-- The nodes that `n` links from `p` visit. -/
def visit (heap : Heap α δ) (forward : Bool) : ℕ → Option α → List α
  | 0, _ => []
  | _ + 1, none => []
  | n + 1, some a =>
    a :: match heap a with
      | none => []
      | some e => visit heap forward n (if forward then e.next else e.prev)

lemma Chain.visit_next (h : Chain heap prev ns none) :
    visit heap true ns.length (headOr ns none) = addrs ns := by
  induction ns generalizing prev with
  | nil => rfl
  | cons n ns ih =>
    obtain ⟨ha, hns⟩ := h
    change n.1 :: (match heap n.1 with
      | none => []
      | some e => visit heap true ns.length e.next) = _
    rw [ha, addrs_cons]
    exact congrArg (n.1 :: ·) (ih hns)

/-- Following `prev` visits the nodes of a chain in the reverse order. -/
lemma Chain.visit_prev (h : Chain heap none ns next) :
    visit heap false ns.length (lastOr ns none) = (addrs ns).reverse := by
  induction ns using List.reverseRecOn generalizing next with
  | nil => rfl
  | append_singleton ns n ih =>
    obtain ⟨hns, ha, -⟩ := chain_append.mp h
    simp only [List.length_append, List.length_singleton, lastOr_append, lastOr_cons, lastOr_nil,
      visit]
    rw [ha, addrs_append, List.reverse_append]
    exact congrArg (n.1 :: ·) (ih hns)

variable [DecidableEq α]

/-- `p->next = q` if `p` is a node, which must be in the heap. -/
def setNext (heap : Heap α δ) (p q : Option α) : Option (Heap α δ) :=
  match p with
  | none => some heap
  | some a => (heap a).map fun e => Function.update heap a (some { e with next := q })

/-- `p->prev = q` if `p` is a node, which must be in the heap. -/
def setPrev (heap : Heap α δ) (p q : Option α) : Option (Heap α δ) :=
  match p with
  | none => some heap
  | some a => (heap a).map fun e => Function.update heap a (some { e with prev := q })

lemma setNext_same {e : Node α δ} (h : heap a = some e) :
    setNext heap (some a) e.next = some heap := by
  simp only [setNext, h, Option.map_some, Option.some.injEq]
  rw [← h]
  exact Function.update_eq_self a heap

lemma setPrev_same {e : Node α δ} (h : heap a = some e) :
    setPrev heap (some a) e.prev = some heap := by
  simp only [setPrev, h, Option.map_some, Option.some.injEq]
  rw [← h]
  exact Function.update_eq_self a heap

/-- The stores from `heap` to `heap'` are at nodes of `ns` and free none. -/
def Within (ns : List (α × δ)) (heap heap' : Heap α δ) : Prop :=
  (∀ a, a ∉ addrs ns → heap' a = heap a) ∧ ∀ a, heap' a = none ↔ heap a = none

omit [DecidableEq α] in
lemma Within.refl (ns : List (α × δ)) (heap : Heap α δ) : Within ns heap heap :=
  ⟨fun _ _ => rfl, fun _ => Iff.rfl⟩

lemma within_update {e : Node α δ} (ha : a ∈ addrs ns) (hne : heap a ≠ none) :
    Within ns heap (Function.update heap a (some e)) := by
  constructor
  · intro b hb
    apply Function.update_of_ne
    rintro rfl
    exact hb ha
  · intro b
    by_cases hb : b = a
    · subst hb
      simp [hne]
    · rw [Function.update_of_ne hb]

lemma Chain.setNext (h : Chain heap none ns next) (hd : (addrs ns).Nodup) (q : Option α) :
    ∃ heap', setNext heap (lastOr ns none) q = some heap' ∧ Chain heap' none ns q ∧
      Within ns heap heap' := by
  rcases List.eq_nil_or_concat ns with rfl | ⟨xs, ⟨a, d⟩, rfl⟩
  · exact ⟨heap, rfl, trivial, Within.refl _ _⟩
  · rw [List.concat_eq_append] at h hd ⊢
    obtain ⟨hxs, ha, -⟩ := chain_append.mp h
    have hnot : a ∉ addrs xs := by
      intro hmem
      rw [addrs_append, List.nodup_append] at hd
      exact hd.2.2 a hmem a (by simp) rfl
    refine ⟨Function.update heap a (some ⟨d, lastOr xs none, q⟩), ?_, ?_, ?_⟩
    · simp [DoublyLinked.setNext, ha]
    · rw [chain_append]
      refine ⟨hxs.congr fun b hb => ?_, by simp, trivial⟩
      apply Function.update_of_ne
      rintro rfl
      exact hnot hb
    · apply within_update
      · simp
      · simp [ha]

lemma Chain.setPrev (h : Chain heap prev ns none) (hd : (addrs ns).Nodup) (q : Option α) :
    ∃ heap', setPrev heap (headOr ns none) q = some heap' ∧ Chain heap' q ns none ∧
      Within ns heap heap' := by
  cases ns with
  | nil => exact ⟨heap, rfl, trivial, Within.refl _ _⟩
  | cons n ns =>
    obtain ⟨a, d⟩ := n
    obtain ⟨ha, hns⟩ := h
    refine ⟨Function.update heap a (some ⟨d, q, headOr ns none⟩), ?_, ⟨?_, ?_⟩, ?_⟩
    · simp [DoublyLinked.setPrev, ha]
    · simp
    · apply hns.congr
      intro b hb
      apply Function.update_of_ne
      rintro rfl
      exact (List.nodup_cons.mp hd).1 hb
    · apply within_update
      · simp
      · simp [ha]

lemma Chain.relink (hx : Chain heap none xs next) (hy : Chain heap prev ys none)
    (hd : (addrs (xs ++ ys)).Nodup) (q r : Option α) :
    ∃ mid heap', DoublyLinked.setNext heap (lastOr xs none) q = some mid ∧
      DoublyLinked.setPrev mid (headOr ys none) r = some heap' ∧
      Chain heap' none xs q ∧ Chain heap' r ys none ∧
      (∀ a, a ∉ addrs (xs ++ ys) → mid a = heap a) ∧ Within (xs ++ ys) heap heap' := by
  rw [addrs_append, List.nodup_append] at hd
  obtain ⟨hdx, hdy, hdisj⟩ := hd
  obtain ⟨mid, hmid, hx', hwx⟩ := hx.setNext hdx q
  have hy' : Chain mid prev ys none :=
    hy.congr fun a ha => hwx.1 a fun hax => hdisj a hax a ha rfl
  obtain ⟨heap', hheap, hy'', hwy⟩ := hy'.setPrev hdy r
  refine ⟨mid, heap', hmid, hheap, ?_, hy'', ?_, ?_, ?_⟩
  · exact hx'.congr fun a ha => hwy.1 a fun hay => hdisj a ha a hay rfl
  · intro a ha
    rw [addrs_append, List.mem_append, not_or] at ha
    exact hwx.1 a ha.1
  · intro a ha
    rw [addrs_append, List.mem_append, not_or] at ha
    rw [hwy.1 a ha.2, hwx.1 a ha.1]
  · intro a
    rw [hwy.2, hwx.2]

end DoublyLinked
