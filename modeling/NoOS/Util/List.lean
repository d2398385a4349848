import Mathlib.Data.UInt
import NoOS.Errno
import NoOS.Lib.DoublyLinked

/-!
# Doubly linked list

Translation of `util/list.c`. Functions that follow pointers have no result (`none`) when
they read or write an element that is NULL or not allocated, or loop for ever. Descriptors
and the pointers to results are never NULL. Data are words of `w` bits.
-/

namespace NoOS
open DoublyLinked

/-- An element takes 12 bytes of a 32-bit target, so at most this many exist at a time. -/
abbrev maxElems : ℕ := 2 ^ 32 / 12

/-- The addresses of a target where up to `N` elements exist at a time. -/
abbrev ElemAddr (N : ℕ := maxElems) := Fin N

/-- `none` is NULL. -/
abbrev ElemPtr (N : ℕ := maxElems) := Option (ElemAddr N)

abbrev ListHeap (w : ℕ) (N : ℕ := maxElems) := Heap (ElemAddr N) (BitVec w)

/-- `struct _list_desc`, with the heap that holds its elements; `lIt` is `l_it.elem`. -/
structure PrivListDesc (w : ℕ) (N : ℕ := maxElems) where
  heap : ListHeap w N
  first : ElemPtr N := none
  last : ElemPtr N := none
  nbElements : UInt32 := 0
  comparator : BitVec w → BitVec w → Int32
  nbIterators : UInt32 := 0
  lIt : ElemPtr N := none

variable {w N : ℕ}

/-- `(int32_t)(data1 - data2)` -/
def defaultComparator (data1 data2 : BitVec w) : Int32 := Int32.ofInt (data1 - data2).toInt

/-- The fields of `*p`. -/
def fetch (heap : ListHeap w N) (p : ElemPtr N) : Option (Node (ElemAddr N) (BitVec w)) := p.bind heap

def free (heap : ListHeap w N) : ElemPtr N → Option (ListHeap w N)
  | none => some heap
  | some a => (heap a).map fun _ => Function.update heap a none

/-- `mem` is what `calloc` returns; an address in use is not accepted and counts as NULL. -/
def createElement (heap : ListHeap w N) (data : BitVec w) (prev next mem : ElemPtr N) :
    Option (ElemAddr N × ListHeap w N) :=
  match mem with
  | none => none
  | some elem =>
    if (heap elem).isNone then
      some (elem, Function.update heap elem (some ⟨data, prev, next⟩))
    else none

/-- Updates the necesary link on the list elements to add or remove one -/
def updateLinks (heap : ListHeap w N) (prev elem next : ElemPtr N) : Option (ListHeap w N) := do
  let heap ← setNext heap prev (if elem.isSome then elem else next)
  let heap ← setPrev heap elem prev
  let heap ← setNext heap elem next
  setPrev heap next (if elem.isSome then elem else prev)

namespace PrivListDesc

/-- Update according to modification the list descriptor -/
def updateDesc (list : PrivListDesc w N) (newFirst newLast : ElemPtr N) : PrivListDesc w N :=
  if newFirst = list.first then
    { list with
      last := newLast
      first := if newFirst = none ∨ newLast = none then newLast else list.first }
  else
    { list with
      first := newFirst
      last := if newLast = none ∨ newFirst = none then newFirst else list.last }

/-- `nb_elements++` -/
def incr (list : PrivListDesc w N) : PrivListDesc w N :=
  { list with nbElements := list.nbElements + 1 }

/-- `nb_elements--` -/
def decr (list : PrivListDesc w N) : PrivListDesc w N :=
  { list with nbElements := list.nbElements - 1 }

end PrivListDesc

def listAddFirst (list : PrivListDesc w N) (data : BitVec w) (mem : ElemPtr N) :
    Option (Int × PrivListDesc w N) :=
  match createElement list.heap data none list.first mem with
  | none => some (FAILURE, list)
  | some (elem, heap) => do
    let heap ← updateLinks heap none (some elem) list.first
    some (SUCCESS, (({ list with heap := heap }).updateDesc (some elem) list.last).incr)

def listAddLast (list : PrivListDesc w N) (data : BitVec w) (mem : ElemPtr N) :
    Option (Int × PrivListDesc w N) :=
  match createElement list.heap data list.last none mem with
  | none => some (FAILURE, list)
  | some (elem, heap) => do
    let heap ← updateLinks heap list.last (some elem) none
    some (SUCCESS, (({ list with heap := heap }).updateDesc list.first (some elem)).incr)

def listGetSize (list : PrivListDesc w N) : Int × UInt32 := (SUCCESS, list.nbElements)

/-! ### Iterators

An iterator is passed as the element it stands at. -/

/-- Create a new iterator, if `calloc` gives memory for it. -/
def iteratorInit (list : PrivListDesc w N) (start granted : Bool) : Int × Option (ElemPtr N) × PrivListDesc w N :=
  if !granted then (FAILURE, none, list)
  else (SUCCESS, some (if start then list.first else list.last), { list with nbIterators := list.nbIterators + 1 })

/-- Remove the created iterator. -/
def iteratorRemove (list : PrivListDesc w N) : Int × PrivListDesc w N :=
  (SUCCESS, { list with nbIterators := list.nbIterators - 1 })

/-- Place the iterator where cmp_data if found. -/
def iteratorFind (list : PrivListDesc w N) (it : ElemPtr N) (cmpData : BitVec w) :
    Option (Int × ElemPtr N) := do
  let elem ← walkTo list.heap (fun d => 0 = list.comparator d cmpData) N list.first
  if elem.isSome then some (SUCCESS, elem) else some (FAILURE, it)

/-- Move the position of the iteration through the list. -/
def iteratorMove (list : PrivListDesc w N) (it : ElemPtr N) (idx : Int32) :
    Option (Int × ElemPtr N) := do
  let elem ← walkBy list.heap (¬idx < 0) idx.abs.toInt.toNat it
  if elem.isSome then some (SUCCESS, elem) else some (FAILURE, it)

/-- Replace the data at the current position. -/
def iteratorEdit (list : PrivListDesc w N) (it : ElemPtr N) (newData : BitVec w) :
    Option (Int × PrivListDesc w N) := do
  let a ← it
  let elem ← list.heap a
  some (SUCCESS,
    { list with heap := Function.update list.heap a (some { elem with data := newData }) })

/-- Read and remove the data at the current position: the return code, `*data` where it is
stored, and the new position. -/
def iteratorGet (list : PrivListDesc w N) (it : ElemPtr N) :
    Option (Int × Option (BitVec w) × ElemPtr N × PrivListDesc w N) :=
  if it.isNone then some (FAILURE, none, it, list)
  else do
    let elem ← fetch list.heap it
    let heap ← updateLinks list.heap elem.prev none elem.next
    let elem ← fetch heap it
    let list := { list with heap := heap }
    let list :=
      if it = list.first then list.updateDesc elem.next list.last
      else if it = list.last then list.updateDesc list.first elem.prev
      else list
    let list := list.decr
    let next := if it = list.last then elem.prev else elem.next
    let heap ← free list.heap it
    some (SUCCESS, some elem.data, next, { list with heap := heap })

/-- Read the data at the current position. -/
def iteratorRead (list : PrivListDesc w N) (it : ElemPtr N) : Option (Int × Option (BitVec w)) :=
  if it.isNone then some (FAILURE, none)
  else do
    let elem ← fetch list.heap it
    some (SUCCESS, some elem.data)

/-- Insert an item in the list, after or before the current position. -/
def iteratorInsert (list : PrivListDesc w N) (it : ElemPtr N) (data : BitVec w) (after : Bool)
    (mem : ElemPtr N) : Option (Int × PrivListDesc w N) :=
  if after ∧ it = list.last then listAddLast list data mem
  else if ¬after ∧ it = list.first then listAddFirst list data mem
  else do
    let cur ← fetch list.heap it
    match createElement list.heap data (if after then it else cur.prev)
      (if after then cur.next else it) mem with
    | none => some (FAILURE, list)
    | some (elem, heap) =>
      let new ← heap elem
      let heap ← updateLinks heap new.prev (some elem) new.next
      some (SUCCESS, ({ list with heap := heap }).incr)

/-- Add element in ascending order. -/
def listAddFind (list : PrivListDesc w N) (data : BitVec w) (mem : ElemPtr N) :
    Option (Int × PrivListDesc w N) := do
  let elem ← walkTo list.heap (fun d => 0 < list.comparator d data) N list.first
  if elem.isNone then iteratorInsert { list with lIt := list.last } list.last data true mem
  else iteratorInsert { list with lIt := elem } elem data false mem

/-- Add element at the specified idx. -/
def listAddIdx (list : PrivListDesc w N) (data : BitVec w) (idx : UInt32) (mem : ElemPtr N) :
    Option (Int × PrivListDesc w N) :=
  if list.nbElements = 0 ∨ idx = 0 then listAddFirst list data mem
  else if list.nbElements = idx then listAddLast list data mem
  else do
    let (ret, it) ← iteratorMove list list.first idx.toInt32
    let list := { list with lIt := it }
    if ret ≠ SUCCESS then some (FAILURE, list) else iteratorInsert list it data false mem

def listEditFirst (list : PrivListDesc w N) (newData : BitVec w) : Option (Int × PrivListDesc w N) :=
  iteratorEdit list list.first newData

def listEditLast (list : PrivListDesc w N) (newData : BitVec w) : Option (Int × PrivListDesc w N) :=
  iteratorEdit list list.last newData

/-- Edit the element at the specified idx. -/
def listEditIdx (list : PrivListDesc w N) (newData : BitVec w) (idx : UInt32) : Option (Int × PrivListDesc w N) := do
  let (ret, it) ← iteratorMove list list.first idx.toInt32
  let list := { list with lIt := it }
  if ret ≠ SUCCESS then some (FAILURE, list) else iteratorEdit list it newData

/-- Edit the element which match with cmp_data. -/
def listEditFind (list : PrivListDesc w N) (newData cmpData : BitVec w) :
    Option (Int × PrivListDesc w N) := do
  let (ret, it) ← iteratorFind list list.first cmpData
  let list := { list with lIt := it }
  if ret ≠ SUCCESS then some (FAILURE, list) else iteratorEdit list it newData

/-- The return code, `*data` and the list after the call. -/
abbrev Fetched (w : ℕ) (N : ℕ := maxElems) := (Int × BitVec w) × PrivListDesc w N

def listReadFirst (list : PrivListDesc w N) : Option (Fetched w N) :=
  if list.first.isNone then some ((FAILURE, 0), list)
  else do
    let elem ← fetch list.heap list.first
    some ((SUCCESS, elem.data), list)

def listReadLast (list : PrivListDesc w N) : Option (Fetched w N) :=
  if list.last.isNone then some ((FAILURE, 0), list)
  else do
    let elem ← fetch list.heap list.last
    some ((SUCCESS, elem.data), list)

def listReadIdx (list : PrivListDesc w N) (idx : UInt32) : Option (Fetched w N) :=
  if idx ≥ list.nbElements then some ((FAILURE, 0), list)
  else do
    let (ret, it) ← iteratorMove list list.first idx.toInt32
    let list := { list with lIt := it }
    if ret ≠ SUCCESS then some ((FAILURE, 0), list)
    else
      let (ret, data) ← iteratorRead list it
      some ((ret, data.getD 0), list)

/-- Read the element which match with cmp_data. -/
def listReadFind (list : PrivListDesc w N) (cmpData : BitVec w) : Option (Fetched w N) := do
  let (ret, it) ← iteratorFind list list.first cmpData
  let list := { list with lIt := it }
  if ret ≠ SUCCESS then some ((FAILURE, 0), list)
  else
    let (ret, data) ← iteratorRead list it
    some ((ret, data.getD 0), list)

/-- Read and delete the first element of the list. -/
def listGetFirst (list : PrivListDesc w N) : Option (Fetched w N) :=
  if list.nbElements = 0 then some ((FAILURE, 0), list)
  else do
    let elem ← fetch list.heap list.first
    let heap ← updateLinks list.heap elem.prev none elem.next
    let new := (({ list with heap := heap }).updateDesc elem.next list.last).decr
    let elem ← fetch heap list.first
    let heap ← free heap list.first
    some ((SUCCESS, elem.data), { new with heap := heap })

/-- Read and delete the last element of the list. -/
def listGetLast (list : PrivListDesc w N) : Option (Fetched w N) :=
  if list.nbElements = 0 then some ((FAILURE, 0), list)
  else do
    let elem ← fetch list.heap list.last
    let heap ← updateLinks list.heap elem.prev none elem.next
    let new := (({ list with heap := heap }).updateDesc list.first elem.prev).decr
    let elem ← fetch heap list.last
    let heap ← free heap list.last
    some ((SUCCESS, elem.data), { new with heap := heap })

/-- Read and delete the element at idx. -/
def listGetIdx (list : PrivListDesc w N) (idx : UInt32) : Option (Fetched w N) := do
  let (ret, it) ← iteratorMove list list.first idx.toInt32
  let list := { list with lIt := it }
  if ret ≠ SUCCESS then some ((FAILURE, 0), list)
  else
    let (ret, data, it, list) ← iteratorGet list it
    some ((ret, data.getD 0), { list with lIt := it })

/-- Read and delete the element which match with cmp_data. -/
def listGetFind (list : PrivListDesc w N) (cmpData : BitVec w) : Option (Fetched w N) := do
  let (ret, it) ← iteratorFind list list.first cmpData
  let list := { list with lIt := it }
  if ret ≠ SUCCESS then some ((FAILURE, 0), list)
  else
    let (ret, data, it, list) ← iteratorGet list it
    some ((ret, data.getD 0), { list with lIt := it })

inductive AdapterType
  | listDefault
  | listQueue
  | listStack
  | listPriorityList
deriving DecidableEq, Repr

/-- The function pointers of `struct list_desc`. -/
structure ListAdapter (w : ℕ) (N : ℕ := maxElems) where
  push : PrivListDesc w N → BitVec w → ElemPtr N → Option (Int × PrivListDesc w N)
  pop : PrivListDesc w N → Option (Fetched w N)
  topNext : PrivListDesc w N → Option (Fetched w N)
  back : PrivListDesc w N → Option (Fetched w N)
  swap : PrivListDesc w N → BitVec w → Option (Int × PrivListDesc w N)

/-- Set the adapter functions acording to the adapter type -/
def setAdapter : AdapterType → ListAdapter w N
  | .listPriorityList => ⟨listAddFind, listGetFirst, listReadFirst, listReadLast, listEditFirst⟩
  | .listQueue => ⟨listAddLast, listGetFirst, listReadFirst, listReadLast, listEditFirst⟩
  | .listDefault | .listStack =>
    ⟨listAddLast, listGetLast, listReadLast, listReadFirst, listEditLast⟩

structure ListDesc (w : ℕ) (N : ℕ := maxElems) where
  adapter : ListAdapter w N
  privDesc : PrivListDesc w N

/-- Whether the two `calloc` calls of `list_init` give memory. -/
structure ListAlloc where
  desc : Bool := true
  list : Bool := true

def listInit (type : AdapterType) (comparator : Option (BitVec w → BitVec w → Int32))
    (mem : ListAlloc) : Int × Option (ListDesc w N) :=
  if !mem.desc then (FAILURE, none)
  else if !mem.list then (FAILURE, none)
  else (SUCCESS, some {
    adapter := setAdapter type
    privDesc := { heap := fun _ => none, comparator := comparator.getD defaultComparator } })

/-- The loop that removes all the elements, with the number of calls that it may take. -/
def removeElements : ℕ → PrivListDesc w N → Option (PrivListDesc w N)
  | 0, _ => none
  | fuel + 1, list => do
    let (reply, list) ← listGetFirst list
    if reply.1 = SUCCESS then removeElements fuel list else some list

/-- Remove the created list, unless it has iterators. -/
def listRemove (l : ListDesc w N) : Option (Int × Option (ListDesc w N)) :=
  if l.privDesc.nbIterators ≠ 0 then some (FAILURE, some l)
  else do
    let _ ← removeElements (N + 1) l.privDesc
    some (SUCCESS, none)

end NoOS
