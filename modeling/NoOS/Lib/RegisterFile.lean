import Mathlib.Data.UInt
import Mathlib.Logic.Function.Basic
import Mathlib.Tactic.Common

/-!
# Register files

Registers of some fields each. A write or an update of a register keeps the bits outside of the fields that
it is for, and so does a sequence of them.
-/

namespace RegisterFile

section Word

variable {a b mask val f small : UInt32}

lemma ext_bits (h : ∀ k (hk : k < 32), a.toBitVec[k] = b.toBitVec[k]) : a = b := by
  apply UInt32.toBitVec_inj.mp
  ext k hk
  exact h k hk

lemma update_and (h : mask &&& f = f) : ((a &&& ~~~mask) ||| val) &&& f = val &&& f := by
  apply ext_bits
  intro k hk
  have hbit := congrArg (fun x : UInt32 => x.toBitVec[k]) h
  simp only [UInt32.toBitVec_and, UInt32.toBitVec_or, UInt32.toBitVec_not, BitVec.getElem_and,
    BitVec.getElem_or, BitVec.getElem_not] at hbit ⊢
  grind

lemma update_and_not (h : mask &&& val = val) : ((a &&& ~~~mask) ||| val) &&& ~~~mask = a &&& ~~~mask := by
  apply ext_bits
  intro k hk
  have hbit := congrArg (fun x : UInt32 => x.toBitVec[k]) h
  simp only [UInt32.toBitVec_and, UInt32.toBitVec_or, UInt32.toBitVec_not, BitVec.getElem_and,
    BitVec.getElem_or, BitVec.getElem_not] at hbit ⊢
  grind

/-- The bits outside of a larger field are outside of a smaller one. -/
lemma and_not_mono (hsub : mask &&& small = small) (h : a &&& ~~~small = b &&& ~~~small) :
    a &&& ~~~mask = b &&& ~~~mask := by
  apply ext_bits
  intro k hk
  have hbit := congrArg (fun x : UInt32 => x.toBitVec[k]) hsub
  have hsame := congrArg (fun x : UInt32 => x.toBitVec[k]) h
  simp only [UInt32.toBitVec_and, UInt32.toBitVec_not, BitVec.getElem_and, BitVec.getElem_not] at hbit hsame ⊢
  grind

lemma and_sub (h : a &&& mask = b) (hsub : mask &&& f = f) : a &&& f = b &&& f := by
  rw [← h, UInt32.and_assoc, hsub]

lemma and_eq_of_disjoint (h : a &&& ~~~mask = b &&& ~~~mask) (hdisjoint : mask &&& f = 0) :
    a &&& f = b &&& f := by
  apply ext_bits
  intro k hk
  have hsame := congrArg (fun x : UInt32 => x.toBitVec[k]) h
  have hbit := congrArg (fun x : UInt32 => x.toBitVec[k]) hdisjoint
  have hzero : (0 : UInt32).toBitVec[k] = false := BitVec.getElem_zero hk
  simp only [UInt32.toBitVec_and, UInt32.toBitVec_not, BitVec.getElem_and, BitVec.getElem_not, hzero]
    at hbit hsame ⊢
  grind

end Word

-- All words of a type with finitely many of them would be tried otherwise.
scoped instance (priority := high) decidableForallMem {α : Type*} {p : α → Prop} [DecidablePred p] (l : List α) :
    Decidable (∀ a ∈ l, p a) := List.decidableBAll p l

variable {ι : Type*} {fields fields' r s t : ι → UInt32} {i j : ι} {a mask val : UInt32}

/-- The bits outside of the fields are as they were. -/
def Keeps (fields r s : ι → UInt32) : Prop := ∀ i, s i &&& ~~~fields i = r i &&& ~~~fields i

lemma Keeps.refl (fields r : ι → UInt32) : Keeps fields r r := fun _ => rfl

lemma Keeps.trans (h : Keeps fields r s) (h' : Keeps fields s t) : Keeps fields r t :=
  fun i => (h' i).trans (h i)

lemma Keeps.mono (h : Keeps fields' r s) (hsub : ∀ i, fields i &&& fields' i = fields' i) :
    Keeps fields r s := fun i => and_not_mono (hsub i) (h i)

lemma Keeps.eq (h : Keeps fields r s) (hi : fields i = 0) : s i = r i := by
  have hsame := h i
  rw [hi] at hsame
  simpa using hsame

variable [DecidableEq ι]

/-- The read-modify-write of a register. -/
def update (r : ι → UInt32) (i : ι) (mask val : UInt32) : ι → UInt32 :=
  Function.update r i ((r i &&& ~~~mask) ||| val)

@[simp] lemma update_self : update r i mask val i = (r i &&& ~~~mask) ||| val := Function.update_self ..

@[simp] lemma update_of_ne (h : j ≠ i) : update r i mask val j = r j := Function.update_of_ne h ..

/-- A write keeps what is outside of the fields if its word does. -/
lemma Keeps.write (h : a &&& ~~~fields i = r i &&& ~~~fields i) : Keeps fields r (Function.update r i a) := by
  intro j
  by_cases hj : j = i
  · subst hj
    rw [Function.update_self]
    exact h
  · rw [Function.update_of_ne hj]

lemma keeps_write (hi : fields i = 0xffffffff) : Keeps fields r (Function.update r i a) := by
  have hnone : ~~~(0xffffffff : UInt32) = 0 := by decide
  apply Keeps.write
  rw [hi, hnone, UInt32.and_zero, UInt32.and_zero]

lemma keeps_update (hval : mask &&& val = val) (hsub : fields i &&& mask = mask) :
    Keeps fields r (update r i mask val) := by
  apply Keeps.write
  apply and_not_mono hsub
  exact update_and_not hval

end RegisterFile
