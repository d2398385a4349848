import NoOS.Util.ListPriority

/-!
# The default comparator

`default_comparator` truncates the difference of two pointers to 32 bits. Its sign is right only where the
difference is small, modulo 2^32.
-/

namespace NoOS
open DoublyLinked StableInsert

variable {w N : ℕ}

lemma toInt_defaultComparator (hw : 32 ≤ w) (a b : BitVec w) :
    (defaultComparator a b).toInt = ((a - b).toNat : ℤ).bmod (2 ^ 32) := by
  rw [defaultComparator, Int32.toInt_ofInt, BitVec.toInt_eq_toNat_bmod]
  exact Int.bmod_bmod_of_dvd (pow_dvd_pow 2 hw)

lemma toNat_sub_mod (hw : 32 ≤ w) {a b : BitVec w} (h : a.toNat ≤ b.toNat) :
    ((a - b).toNat + (b.toNat - a.toNat)) % 2 ^ 32 = 0 := by
  obtain ⟨k, hk⟩ : 2 ^ 32 ∣ 2 ^ w := pow_dvd_pow 2 hw
  have hb := b.isLt
  rw [BitVec.toNat_sub]
  rcases h.eq_or_lt with heq | hlt
  · have hself : 2 ^ w - b.toNat + a.toNat = 2 ^ w := by lia
    rw [hself, Nat.mod_self, heq, Nat.sub_self]
    rfl
  · have hsub : (2 ^ w - b.toNat + a.toNat) % 2 ^ w = 2 ^ w - b.toNat + a.toNat := Nat.mod_eq_of_lt (by lia)
    have hsum : 2 ^ w - b.toNat + a.toNat + (b.toNat - a.toNat) = 2 ^ w := by lia
    rw [hsub, hsum, hk, Nat.mul_mod_right]

lemma toNat_sub_ge {a b : BitVec w} (h : b.toNat ≤ a.toNat) : (a - b).toNat = a.toNat - b.toNat :=
  BitVec.toNat_sub_of_le (BitVec.le_def.mpr h)

section Signs

variable {a b : BitVec w}

lemma defaultComparator_eq_zero (hw : 32 ≤ w) :
    0 = defaultComparator a b ↔ a.toNat % 2 ^ 32 = b.toNat % 2 ^ 32 := by
  have hint := toInt_defaultComparator hw a b
  have hzero : 0 = defaultComparator a b ↔ (defaultComparator a b).toInt = 0 := by
    rw [← Int32.toInt_inj, eq_comm]
    rfl
  rw [hzero, hint, Int.bmod_def]
  rcases le_total b.toNat a.toNat with hle | hle
  · rw [toNat_sub_ge hle]
    split
    · lia
    · lia
  · have hmod := toNat_sub_mod hw hle
    split
    · lia
    · lia

lemma defaultComparator_pos_of_gt (hw : 32 ≤ w) (h : b.toNat < a.toNat) :
    0 < defaultComparator a b ↔ 0 < (a.toNat - b.toNat) % 2 ^ 32 ∧ (a.toNat - b.toNat) % 2 ^ 32 < 2 ^ 31 := by
  rw [Int32.lt_iff_toInt_lt, toInt_defaultComparator hw, toNat_sub_ge h.le, Int.bmod_def]
  change (0 : ℤ) < _ ↔ _
  split
  · lia
  · lia

lemma defaultComparator_pos_of_lt (hw : 32 ≤ w) (h : a.toNat < b.toNat) :
    0 < defaultComparator a b ↔ 2 ^ 31 < (b.toNat - a.toNat) % 2 ^ 32 := by
  have hmod := toNat_sub_mod hw h.le
  rw [Int32.lt_iff_toInt_lt, toInt_defaultComparator hw, Int.bmod_def]
  change (0 : ℤ) < _ ↔ _
  split
  · lia
  · lia

/-- The comparator compares two pointers as it should. -/
structure ComparesRight (a b : BitVec w) : Prop where
  neg : defaultComparator a b < 0 ↔ a.toNat < b.toNat
  zero : 0 = defaultComparator a b ↔ a = b
  pos : 0 < defaultComparator a b ↔ b.toNat < a.toNat

lemma Int32.neg_iff (i : Int32) : i < 0 ↔ ¬(0 = i ∨ 0 < i) := by
  rw [← Int32.toInt_inj, Int32.lt_iff_toInt_lt, Int32.lt_iff_toInt_lt]
  change i.toInt < 0 ↔ ¬((0 : ℤ) = i.toInt ∨ (0 : ℤ) < i.toInt)
  lia

/-- The greater one is greater by a number that is not 0 and below 2^31, modulo 2^32; the second one also by 2^31. -/
def ClosePair (a b : BitVec w) : Prop :=
  (b.toNat < a.toNat → 0 < (a.toNat - b.toNat) % 2 ^ 32 ∧ (a.toNat - b.toNat) % 2 ^ 32 < 2 ^ 31) ∧
    (a.toNat < b.toNat → 0 < (b.toNat - a.toNat) % 2 ^ 32 ∧ (b.toNat - a.toNat) % 2 ^ 32 ≤ 2 ^ 31)

theorem comparesRight_iff (hw : 32 ≤ w) : ComparesRight a b ↔ ClosePair a b := by
  have hzero := defaultComparator_eq_zero (a := a) (b := b) hw
  have hneg := Int32.neg_iff (defaultComparator a b)
  rcases lt_trichotomy a.toNat b.toNat with hlt | heq | hgt
  · have hpos := defaultComparator_pos_of_lt hw hlt
    have hne : a ≠ b := fun hc => hlt.ne (congrArg BitVec.toNat hc)
    rw [hzero, hpos] at hneg
    constructor
    · intro h
      have hless := hneg.mp (h.neg.mpr hlt)
      exact ⟨fun hc => absurd hc (by lia), fun _ => by lia⟩
    · rintro ⟨-, h⟩
      have hsmall := h hlt
      exact ⟨iff_of_true (hneg.mpr (by lia)) hlt, iff_of_false (fun hc => by have := hzero.mp hc; lia) hne,
        iff_of_false (fun hc => by have := hpos.mp hc; lia) (by lia)⟩
  · obtain rfl : a = b := BitVec.eq_of_toNat_eq heq
    have hself : 0 = defaultComparator a a := hzero.mpr rfl
    refine iff_of_true ⟨?_, iff_of_true hself rfl, ?_⟩
      ⟨fun hc => absurd hc (lt_irrefl _), fun hc => absurd hc (lt_irrefl _)⟩
    · rw [← hself]
      exact iff_of_false (by decide) (lt_irrefl _)
    · rw [← hself]
      exact iff_of_false (by decide) (lt_irrefl _)
  · have hpos := defaultComparator_pos_of_gt hw hgt
    have hne : a ≠ b := fun hc => hgt.ne' (congrArg BitVec.toNat hc)
    rw [hzero, hpos] at hneg
    constructor
    · intro h
      exact ⟨fun _ => hpos.mp (h.pos.mpr hgt), fun hc => absurd hc (by omega)⟩
    · rintro ⟨h, -⟩
      have hsmall := h hgt
      exact ⟨iff_of_false (fun hc => hneg.mp hc (.inr hsmall)) (by lia),
        iff_of_false (fun hc => by have := hzero.mp hc; lia) hne, iff_of_true (hpos.mpr hsmall) hgt⟩

end Signs

/-- A search comes back with the key or with nothing. -/
structure FindsOnly (list : PrivListDesc w N) (key : BitVec w) : Prop where
  read : ∃ reply list', listReadFind list key = some (reply, list') ∧ (reply.1 = SUCCESS → reply.2 = key)
  get : ∃ reply list', listGetFind list key = some (reply, list') ∧ (reply.1 = SUCCESS → reply.2 = key)

variable {list : PrivListDesc w N} {ns : List (ElemAddr N × BitVec w)} {key : BitVec w}

/-- The first item that agrees with the key modulo 2^32, if there is one, is the key. -/
def FirstIsKey (ds : List (BitVec w)) (key : BitVec w) : Prop :=
  ∀ d, ds.find? (fun e => e.toNat % 2 ^ 32 = key.toNat % 2 ^ 32) = some d → d = key

theorem findsOnly_iff (hw : 32 ≤ w) (h : list.Linked defaultComparator ns) :
    FindsOnly list key ↔ FirstIsKey (datas ns) key := by
  have hhit : (fun e => decide (e.toNat % 2 ^ 32 = key.toNat % 2 ^ 32)) =
      fun e => decide (0 = defaultComparator e key) := by
    funext e
    exact decide_eq_decide.mpr (defaultComparator_eq_zero hw).symm
  obtain ⟨list₁, -, hread, -⟩ := h.readFind key
  obtain ⟨list₂, -, hget, -⟩ := h.getFind key
  rw [FirstIsKey, hhit]
  cases hfind : (datas ns).find? fun e => decide (0 = defaultComparator e key) with
  | none =>
    rw [hfind] at hread hget
    refine iff_of_true ⟨⟨_, _, hread, fun hc => ?_⟩, ⟨_, _, hget, fun hc => ?_⟩⟩
      fun d hd => absurd hd.symm (Option.some_ne_none d)
    · exact absurd hc (by decide : FAILURE ≠ SUCCESS)
    · exact absurd hc (by decide : FAILURE ≠ SUCCESS)
  | some d =>
    rw [hfind] at hread hget
    constructor
    · rintro ⟨⟨reply, list', hread', hkey⟩, -⟩ e he
      obtain rfl : d = e := Option.some.inj he
      rw [hread, Option.some.injEq, Prod.mk.injEq] at hread'
      obtain ⟨rfl, -⟩ := hread'
      exact hkey rfl
    · intro hd
      obtain rfl := hd d rfl
      exact ⟨⟨_, _, hread, fun _ => rfl⟩, ⟨_, _, hget, fun _ => rfl⟩⟩

/-- All that `pop` returns until it fails -/
def popUntilEmpty : ℕ → ListDesc w N → Option (List (BitVec w))
  | 0, _ => none
  | fuel + 1, l => do
    let (reply, l) ← l.step .pop
    if reply.ret = SUCCESS then (popUntilEmpty fuel l).map (reply.data.toList ++ ·) else some []

/-- The values come out in ascending order. -/
def PopsAscending (l : ListDesc w N) (xs : List (BitVec w)) : Prop :=
  ∃ out, popUntilEmpty (N + 1) l = some out ∧ out.Perm xs ∧ out.Pairwise fun a b => a.toNat ≤ b.toNat

/-- Each value is by at most 2^31 greater, modulo 2^32, than every lesser value before it, and less than the least
greater one by a number that is not 0 and below 2^31, modulo 2^32. -/
def CloseTogether (xs : List (BitVec w)) : Prop :=
  ∀ pre d, pre ++ [d] <+: xs →
    (∀ e ∈ pre, e.toNat < d.toNat → (d.toNat - e.toNat) % 2 ^ 32 ≤ 2 ^ 31) ∧
      ∀ s ∈ pre, d.toNat < s.toNat → (∀ e ∈ pre, d.toNat < e.toNat → s.toNat ≤ e.toNat) →
        0 < (s.toNat - d.toNat) % 2 ^ 32 ∧ (s.toNat - d.toNat) % 2 ^ 32 < 2 ^ 31

lemma placed_iff (hw : 32 ≤ w) (pre : List (BitVec w)) (d : BitVec w) :
    Placed (LeBy defaultComparator) BitVec.toNat pre d ↔
      (∀ e ∈ pre, e.toNat < d.toNat → (d.toNat - e.toNat) % 2 ^ 32 ≤ 2 ^ 31) ∧
        ∀ s ∈ pre, d.toNat < s.toNat → (∀ e ∈ pre, d.toNat < e.toNat → s.toNat ≤ e.toNat) →
          0 < (s.toNat - d.toNat) % 2 ^ 32 ∧ (s.toNat - d.toNat) % 2 ^ 32 < 2 ^ 31 := by
  have hle : ∀ a b : BitVec w, LeBy defaultComparator a b ↔ ¬0 < defaultComparator a b :=
    fun a b => Int32.not_lt.symm
  refine and_congr (forall₂_congr fun e _ => forall_congr' fun hlt => ?_)
    (forall₂_congr fun s _ => forall_congr' fun hlt => forall_congr' fun _ => ?_)
  · rw [hle, defaultComparator_pos_of_lt hw hlt, not_lt]
  · rw [hle, not_not, defaultComparator_pos_of_gt hw hlt]

variable {cmp : BitVec w → BitVec w → Int32} {l : ListDesc w N}

lemma popUntilEmpty_eq (hN : N ≤ 2 ^ 31) (hl : l.adapter = setAdapter .listPriorityList)
    (h : l.privDesc.Linked cmp ns) {fuel : ℕ} (hfuel : ns.length < fuel) :
    popUntilEmpty fuel l = some (datas ns) := by
  induction fuel generalizing l ns with
  | zero => exact absurd hfuel (Nat.not_lt_zero _)
  | succ fuel ih =>
    obtain ⟨reply, l', ns', hstep, hl', h', hpop⟩ := ListDesc.step_pop hN hl h
    rw [popUntilEmpty, hstep]
    cases ns with
    | nil =>
      obtain ⟨rfl, -⟩ := hpop
      rfl
    | cons n ns =>
      obtain ⟨rfl, hrest⟩ := hpop
      have hlen : ns'.length = ns.length := by
        have hlengths := congrArg List.length hrest
        simpa only [datas, List.length_map] using hlengths
      have hagain := ih (hl'.trans hl) h' (by rw [hlen]; exact Nat.lt_of_succ_lt_succ hfuel)
      simp only [Option.bind_eq_bind, Option.bind_some, if_true, hagain, hrest]
      rfl

/-- The list holds what has been pushed, inserted one after another. -/
def PriorityRun.Inserted (cmp : BitVec w → BitVec w → Int32) (s : PriorityRun w N) : Prop :=
  ∃ l ns, s.list = some l ∧ l.adapter = setAdapter .listPriorityList ∧ l.privDesc.Linked cmp ns ∧
    datas ns = insertAll (LeBy cmp) s.pushed

lemma PriorityRun.Inserted.push {s : PriorityRun w N} (hN : N ≤ 2 ^ 31) (h : s.Inserted cmp) (data : BitVec w)
    (mem : ElemPtr N) : (s.step (.push data mem)).Inserted cmp := by
  obtain ⟨l, ns, hlist, hl, hlinked, hdatas⟩ := h
  obtain ⟨l', ns', hstep, hl', hlinked', hdatas'⟩ := ListDesc.step_push hN hl hlinked data mem
  rw [step_some (c := .push data mem) hlist hstep]
  refine ⟨l', ns', rfl, hl'.trans hl, hlinked', ?_⟩
  rw [hdatas', hdatas]
  cases grants l.privDesc.heap mem with
  | true => exact (insertAll_concat _ _).symm
  | false => exact congrArg (insertAll (LeBy cmp)) (List.append_nil s.pushed).symm

lemma PriorityRun.Inserted.run {s : PriorityRun w N} (hN : N ≤ 2 ^ 31) (h : s.Inserted cmp)
    (items : List (BitVec w × ElemPtr N)) :
    (Trace.run PriorityRun.step s (items.map fun i => .push i.1 i.2)).Inserted cmp := by
  induction items generalizing s with
  | nil => exact h
  | cons i items ih => exact ih (h.push hN i.1 i.2)

/-- What is pushed on a new list comes out in ascending order if and only if it is close together. -/
theorem popsAscending_iff (hw : 32 ≤ w) (hN : N ≤ 2 ^ 31) {mem : ListAlloc} {desc l : ListDesc w N}
    {xs : List (BitVec w)} {items : List (BitVec w × ElemPtr N)}
    (hinit : listInit .listPriorityList none mem = (SUCCESS, some desc))
    (hrun : Trace.run PriorityRun.step { list := some desc } (items.map fun i => .push i.1 i.2) = ⟨some l, xs, []⟩) :
    PopsAscending l xs ↔ CloseTogether xs := by
  obtain ⟨hadapter, hempty⟩ := listInit_linked hinit
  have hstart : PriorityRun.Inserted defaultComparator { list := some desc } := ⟨desc, [], rfl, hadapter, hempty, rfl⟩
  have hinserted := hstart.run hN items
  rw [hrun] at hinserted
  obtain ⟨l', ns, hlist, hl, hlinked, hdatas⟩ := hinserted
  obtain rfl : l = l' := Option.some.inj hlist
  have hpops : popUntilEmpty (N + 1) l = some (insertAll (LeBy defaultComparator) xs) := by
    rw [popUntilEmpty_eq hN hl hlinked (Nat.lt_succ_of_le (length_le_of_nodup hlinked.nodup)), hdatas]
  have hself : ∀ d : BitVec w, LeBy defaultComparator d d := by
    intro d
    have hzero : 0 = defaultComparator d d := (defaultComparator_eq_zero hw).mpr rfl
    rw [LeBy, ← hzero]
    decide
  have hsorted := pairwise_insertAll_iff (fun _ _ => BitVec.eq_of_toNat_eq) hself xs
  calc PopsAscending l xs
      ↔ (insertAll (LeBy defaultComparator) xs).Pairwise (fun a b => a.toNat ≤ b.toNat) := by
        rw [PopsAscending, hpops]
        constructor
        · rintro ⟨out, hout, -, hpair⟩
          rwa [Option.some.inj hout]
        · intro hpair
          exact ⟨_, rfl, perm_insertAll xs, hpair⟩
    _ ↔ ∀ pre d, pre ++ [d] <+: xs → Placed (LeBy defaultComparator) BitVec.toNat pre d := hsorted
    _ ↔ CloseTogether xs := forall₂_congr fun pre d => imp_congr_right fun _ => placed_iff hw pre d

/-- With the comparator NULL, values pushed on a priority list come out in ascending order if and only if they are
close together; a search in any list comes back with the key only if and only if the first item it takes for the
key is the key; and the comparator is right if and only if its arguments are close. -/
theorem default_order_iff (hw : 32 ≤ w) {mem : ListAlloc} {desc l : ListDesc w} {xs : List (BitVec w)}
    {items : List (BitVec w × ElemPtr)} {list : PrivListDesc w} {ns : List (ElemAddr × BitVec w)}
    (hinit : listInit .listPriorityList none mem = (SUCCESS, some desc))
    (hrun : Trace.run PriorityRun.step { list := some desc } (items.map fun i => .push i.1 i.2) = ⟨some l, xs, []⟩)
    (hlist : list.Linked defaultComparator ns) (key a b : BitVec w) :
    (PopsAscending l xs ↔ CloseTogether xs) ∧ (FindsOnly list key ↔ FirstIsKey (datas ns) key) ∧
      (ComparesRight a b ↔ ClosePair a b) :=
  ⟨popsAscending_iff hw (by decide) hinit hrun, findsOnly_iff hw hlist, comparesRight_iff hw⟩

theorem default_order_iff_two : ∃ l : ListDesc 32,
    (PopsAscending l [5, 3] ↔ CloseTogether [5#32, 3]) ∧ (FindsOnly twoItems 2 ↔ FirstIsKey [1#32, 2] 2) ∧
      (ComparesRight 7#32 8 ↔ ClosePair 7#32 8) :=
  ⟨_, @default_order_iff 32 (by decide) {} _ _ [5, 3] [(5, some ⟨0, by decide⟩), (3, some ⟨1, by decide⟩)] twoItems _
    rfl rfl twoItems_linked 2 7 8⟩

/-- The values 1 and 0x80000002 come out in the wrong order. -/
theorem not_default_order : ¬∀ (mem : ListAlloc) (desc l : ListDesc 32) (xs : List (BitVec 32))
    (items : List (BitVec 32 × ElemPtr)), listInit .listPriorityList none mem = (SUCCESS, some desc) →
    Trace.run PriorityRun.step { list := some desc } (items.map fun i => .push i.1 i.2) = ⟨some l, xs, []⟩ →
    PopsAscending l xs := by
  intro h
  obtain ⟨desc, l, hinit, hrun⟩ : ∃ desc l : ListDesc 32, listInit .listPriorityList none {} = (SUCCESS, some desc) ∧
      Trace.run PriorityRun.step { list := some desc } ([(1#32, some ⟨0, by decide⟩),
        (0x80000002#32, some ⟨1, by decide⟩)].map fun i => .push i.1 i.2) = ⟨some l, [1, 0x80000002], []⟩ :=
    ⟨_, _, rfl, rfl⟩
  have hclose := (popsAscending_iff (by decide) (by decide) hinit hrun).mp (h {} desc l _ _ hinit hrun)
  have hgap := (hclose [1] 0x80000002 (List.prefix_refl _)).1 1 List.mem_cons_self (by decide)
  exact absurd hgap (by decide)

end NoOS
