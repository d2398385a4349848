import NoOS.Util.List

/-!
# Calls on a list and what they mean for the sequence

A list stands for a finite sequence of data. The effect of a call on the sequence is stated
here without pointers; the adapter functions are the calls that their type selects.
-/

namespace NoOS
open DoublyLinked

variable {δ : Type*} {w N : ℕ}

/-- The sequence with `d` before the first element that satisfies `stop`. -/
def insertWhere (stop : δ → Bool) (d : δ) (ds : List δ) : List δ :=
  ds.takeWhile (fun e => !stop e) ++ d :: ds.dropWhile (fun e => !stop e)

/-- The sequence with the first element that satisfies `hit` replaced. -/
def editWhere (hit : δ → Bool) (d : δ) (ds : List δ) : List δ :=
  ds.takeWhile (fun e => !hit e) ++ d :: (ds.dropWhile (fun e => !hit e)).tail

/-- An addition succeeds if there is memory. -/
def seqAdd (granted : Bool) (new ds : List δ) : Int × List δ :=
  if granted then (SUCCESS, new) else (FAILURE, ds)

/-- The removal of an element that may not exist. -/
def seqGet [Zero δ] (taken : Option (δ × List δ)) (ds : List δ) : (Int × δ) × List δ :=
  match taken with
  | none => ((FAILURE, 0), ds)
  | some (d, rest) => ((SUCCESS, d), rest)

def seqRead [Zero δ] (d : Option δ) (ds : List δ) : (Int × δ) × List δ :=
  seqGet (d.map fun d => (d, ds)) ds

/-- `mem` is what `calloc` returns during the call. -/
inductive ListCall (w : ℕ) (N : ℕ := maxElems)
  | addFirst (data : BitVec w) (mem : ElemPtr N)
  | addLast (data : BitVec w) (mem : ElemPtr N)
  | addFind (data : BitVec w) (mem : ElemPtr N)
  | getFirst
  | getLast
  | getFind (cmpData : BitVec w)
  | editFind (newData cmpData : BitVec w)
  | readFirst
  | readLast
  | readIdx (idx : UInt32)
  | readFind (cmpData : BitVec w)
  | push (data : BitVec w) (mem : ElemPtr N)
  | pop
  | topNext
  | back

/-- The return code of a call, and `*data` for a call that has it. -/
structure ListReply (w : ℕ) where
  ret : Int
  data : Option (BitVec w)
deriving DecidableEq

namespace ListDesc

def put (l : ListDesc w N) (r : Option (Int × PrivListDesc w N)) : Option (ListReply w × ListDesc w N) :=
  r.map fun r => (⟨r.1, none⟩, { l with privDesc := r.2 })

def get (l : ListDesc w N) (r : Option (Fetched w N)) : Option (ListReply w × ListDesc w N) :=
  r.map fun r => (⟨r.1.1, some r.1.2⟩, { l with privDesc := r.2 })

def step (l : ListDesc w N) : ListCall w N → Option (ListReply w × ListDesc w N)
  | .addFirst data mem => l.put (listAddFirst l.privDesc data mem)
  | .addLast data mem => l.put (listAddLast l.privDesc data mem)
  | .addFind data mem => l.put (listAddFind l.privDesc data mem)
  | .getFirst => l.get (listGetFirst l.privDesc)
  | .getLast => l.get (listGetLast l.privDesc)
  | .getFind cmpData => l.get (listGetFind l.privDesc cmpData)
  | .editFind newData cmpData => l.put (listEditFind l.privDesc newData cmpData)
  | .readFirst => l.get (listReadFirst l.privDesc)
  | .readLast => l.get (listReadLast l.privDesc)
  | .readIdx idx => l.get (listReadIdx l.privDesc idx)
  | .readFind cmpData => l.get (listReadFind l.privDesc cmpData)
  | .push data mem => l.put (l.adapter.push l.privDesc data mem)
  | .pop => l.get (l.adapter.pop l.privDesc)
  | .topNext => l.get (l.adapter.topNext l.privDesc)
  | .back => l.get (l.adapter.back l.privDesc)

/-- The list after a call, unless the call or one before it has gone wrong. -/
def stepState (l : Option (ListDesc w N)) (c : ListCall w N) : Option (ListDesc w N) :=
  l.bind fun l => (l.step c).map Prod.snd

end ListDesc

/-- The call that an adapter function stands for. -/
def ListCall.plain (type : AdapterType) : ListCall w N → ListCall w N
  | .push data mem => if type = .listPriorityList then .addFind data mem else .addLast data mem
  | .pop => if type = .listQueue ∨ type = .listPriorityList then .getFirst else .getLast
  | .topNext => if type = .listQueue ∨ type = .listPriorityList then .readFirst else .readLast
  | .back => if type = .listQueue ∨ type = .listPriorityList then .readLast else .readFirst
  | c => c

lemma ListCall.plain_plain (type : AdapterType) (c : ListCall w N) :
    (c.plain type).plain type = c.plain type := by
  cases c with
  | push data mem => cases type <;> simp [plain]
  | pop => cases type <;> simp [plain]
  | topNext => cases type <;> simp [plain]
  | back => cases type <;> simp [plain]
  | _ => rfl

lemma ListDesc.step_plain {l : ListDesc w N} {type : AdapterType} (h : l.adapter = setAdapter type)
    (c : ListCall w N) : l.step c = l.step (c.plain type) := by
  cases c with
  | push data mem => cases type <;> simp [step, h, setAdapter, ListCall.plain]
  | pop => cases type <;> simp [step, h, setAdapter, ListCall.plain]
  | topNext => cases type <;> simp [step, h, setAdapter, ListCall.plain]
  | back => cases type <;> simp [step, h, setAdapter, ListCall.plain]
  | _ => rfl

/-- Whether `calloc` gives memory for an element. -/
def grants (heap : ListHeap w N) (mem : ElemPtr N) : Bool := mem.any fun a => (heap a).isNone

/-- The effect of a call other than an adapter function on the sequence `ds`. -/
def ListCall.plainEffect (cmp : BitVec w → BitVec w → Int32) (granted : ElemPtr N → Bool)
    (ds : List (BitVec w)) : ListCall w N → ListReply w × List (BitVec w)
  | .addFirst data mem => put (seqAdd (granted mem) (data :: ds) ds)
  | .addLast data mem => put (seqAdd (granted mem) (ds ++ [data]) ds)
  | .addFind data mem => put (seqAdd (granted mem) (insertWhere (fun d => 0 < cmp d data) data ds) ds)
  | .getFirst => get (seqGet (ds.head?.map fun d => (d, ds.tail)) ds)
  | .getLast => get (seqGet (ds.getLast?.map fun d => (d, ds.dropLast)) ds)
  | .getFind key =>
    get (seqGet ((ds.find? fun d => 0 = cmp d key).map
      fun d => (d, ds.eraseP fun d => 0 = cmp d key)) ds)
  | .editFind data key =>
    put (seqAdd (ds.any fun d => 0 = cmp d key) (editWhere (fun d => 0 = cmp d key) data ds) ds)
  | .readFirst => get (seqRead ds.head? ds)
  | .readLast => get (seqRead ds.getLast? ds)
  | .readIdx idx => get (seqRead ds[idx.toNat]? ds)
  | .readFind key => get (seqRead (ds.find? fun d => 0 = cmp d key) ds)
  | _ => (⟨FAILURE, none⟩, ds)
where
  put (r : Int × List (BitVec w)) : ListReply w × List (BitVec w) := (⟨r.1, none⟩, r.2)
  get (r : (Int × BitVec w) × List (BitVec w)) : ListReply w × List (BitVec w) :=
    (⟨r.1.1, some r.1.2⟩, r.2)

/-- The effect of a call on the sequence of a list of the given type. -/
def ListCall.effect (type : AdapterType) (cmp : BitVec w → BitVec w → Int32)
    (granted : ElemPtr N → Bool) (c : ListCall w N) (ds : List (BitVec w)) :
    ListReply w × List (BitVec w) :=
  (c.plain type).plainEffect cmp granted ds

lemma seqAdd_failure {granted : Bool} {new ds : List δ} (h : (seqAdd granted new ds).1 = FAILURE) :
    (seqAdd granted new ds).2 = ds := by
  cases granted with
  | false => rfl
  | true => simp [seqAdd, SUCCESS, FAILURE] at h

lemma seqGet_failure [Zero δ] {taken : Option (δ × List δ)} {ds : List δ}
    (h : (seqGet taken ds).1.1 = FAILURE) : (seqGet taken ds).2 = ds := by
  cases taken with
  | none => rfl
  | some t => simp [seqGet, SUCCESS, FAILURE] at h

lemma ListCall.effect_failure {type : AdapterType} {cmp : BitVec w → BitVec w → Int32}
    {granted : ElemPtr N → Bool} {c : ListCall w N} {ds : List (BitVec w)}
    (h : (c.effect type cmp granted ds).1.ret = FAILURE) :
    (c.effect type cmp granted ds).2 = ds := by
  unfold effect at h ⊢
  generalize c.plain type = p at h ⊢
  cases p with
  | addFirst => exact seqAdd_failure h
  | addLast => exact seqAdd_failure h
  | addFind => exact seqAdd_failure h
  | editFind => exact seqAdd_failure h
  | getFirst => exact seqGet_failure h
  | getLast => exact seqGet_failure h
  | getFind => exact seqGet_failure h
  | readFirst => exact seqGet_failure h
  | readLast => exact seqGet_failure h
  | readIdx => exact seqGet_failure h
  | readFind => exact seqGet_failure h
  | _ => rfl

end NoOS
