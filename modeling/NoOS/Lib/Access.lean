import Mathlib.Tactic.Common

/-!
# Programs that access a device

A program is the tree of its accesses: what it does next depends on the answer to the last
one. Between two accesses anything may happen to the device, so that a program is run one
access at a time.
-/

namespace Access

/-- A program with accesses `ω`, answers `ρ` and result `α`. -/
inductive Prog (ω ρ α : Type)
  | ret (a : α)
  | op (o : ω) (k : ρ → Prog ω ρ α)
  /-- The access is repeated while its answer satisfies `again`. -/
  | poll (o : ω) (again : ρ → Bool) (k : ρ → Prog ω ρ α)

namespace Prog

variable {ω ρ α β σ : Type}

def bind (f : α → Prog ω ρ β) : Prog ω ρ α → Prog ω ρ β
  | ret a => f a
  | op o k => op o fun r => (k r).bind f
  | poll o again k => poll o again fun r => (k r).bind f

instance : Monad (Prog ω ρ) where
  pure := ret
  bind p f := p.bind f

/-- One access, whose answer is the result. -/
def access (o : ω) : Prog ω ρ ρ := op o ret

/-- One access whose answer is not used. -/
def access_ (o : ω) : Prog ω ρ Unit := op o fun _ => ret ()

def repeatWhile (o : ω) (again : ρ → Bool) : Prog ω ρ ρ := poll o again ret

@[simp] lemma pure_eq (a : α) : (pure a : Prog ω ρ α) = ret a := rfl

@[simp] lemma ret_bind (a : α) (f : α → Prog ω ρ β) : ret a >>= f = f a := rfl

@[simp] lemma op_bind (o : ω) (k : ρ → Prog ω ρ α) (f : α → Prog ω ρ β) :
    op o k >>= f = op o fun r => k r >>= f := rfl

@[simp] lemma poll_bind (o : ω) (again : ρ → Bool) (k : ρ → Prog ω ρ α) (f : α → Prog ω ρ β) :
    poll o again k >>= f = poll o again fun r => k r >>= f := rfl

lemma bind_ret (p : Prog ω ρ α) : p >>= ret = p := by
  induction p with
  | ret a => rfl
  | op o k ih => exact congrArg (op o) (funext ih)
  | poll o again k ih => exact congrArg (poll o again) (funext ih)

lemma bind_bind {γ : Type} (p : Prog ω ρ α) (f : α → Prog ω ρ β) (g : β → Prog ω ρ γ) :
    p >>= f >>= g = p >>= fun a => f a >>= g := by
  induction p with
  | ret a => rfl
  | op o k ih => exact congrArg (op o) (funext ih)
  | poll o again k ih => exact congrArg (poll o again) (funext ih)

instance : LawfulMonad (Prog ω ρ) :=
  LawfulMonad.mk' _ bind_ret (fun _ _ => rfl) bind_bind

section Run

variable (answer : σ → ω → ρ × σ) (s : σ)

/-- The next access. -/
def step : Prog ω ρ α → Prog ω ρ α × σ
  | ret a => (ret a, s)
  | op o k => (k (answer s o).1, (answer s o).2)
  | poll o again k =>
    (if again (answer s o).1 then poll o again k else k (answer s o).1, (answer s o).2)

/-- A run that nothing interrupts, unless the program has to wait. -/
def exec (s : σ) : Prog ω ρ α → Option (α × σ)
  | ret a => some (a, s)
  | op o k => (k (answer s o).1).exec (answer s o).2
  | poll o again k =>
    if again (answer s o).1 then none else (k (answer s o).1).exec (answer s o).2

lemma exec_bind (p : Prog ω ρ α) (f : α → Prog ω ρ β) :
    (p >>= f).exec answer s =
      (p.exec answer s).bind fun r => (f r.1).exec answer r.2 := by
  induction p generalizing s with
  | ret a => rfl
  | op o k ih => simp only [op_bind, exec, ih]
  | poll o again k ih =>
    simp only [poll_bind, exec, ih]
    split <;> rfl

/-- The run ends, with a result and a state that satisfy `post`. -/
def Yields (p : Prog ω ρ α) (s : σ) (post : α → σ → Prop) : Prop :=
  ∃ a s', p.exec answer s = some (a, s') ∧ post a s'

variable {answer s} {p : Prog ω ρ α} {post : α → σ → Prop}

lemma Yields.ret {a : α} (h : post a s) : (Prog.ret a : Prog ω ρ α).Yields answer s post :=
  ⟨a, s, rfl, h⟩

lemma Yields.op {o : ω} {k : ρ → Prog ω ρ α}
    (h : (k (answer s o).1).Yields answer (answer s o).2 post) :
    (Prog.op o k).Yields answer s post := h

lemma Yields.mono {post' : α → σ → Prop} (h : p.Yields answer s post)
    (himp : ∀ a s', post a s' → post' a s') : p.Yields answer s post' := by
  obtain ⟨a, s', hexec, hpost⟩ := h
  exact ⟨a, s', hexec, himp a s' hpost⟩

lemma Yields.bind {f : α → Prog ω ρ β} {post : β → σ → Prop}
    (h : p.Yields answer s fun a s' => (f a).Yields answer s' post) :
    (p >>= f).Yields answer s post := by
  obtain ⟨a, s', hexec, b, s'', hexec', hpost⟩ := h
  refine ⟨b, s'', ?_, hpost⟩
  rw [exec_bind, hexec]
  exact hexec'

lemma Yields.bind_of {f : α → Prog ω ρ β} {post : α → σ → Prop} {post' : β → σ → Prop}
    (h : p.Yields answer s post)
    (hf : ∀ a s', post a s' → (f a).Yields answer s' post') :
    (p >>= f).Yields answer s post' := Yields.bind (h.mono hf)

lemma Yields.of_exec {a : α} {s' : σ} (h : p.Yields answer s post)
    (hexec : p.exec answer s = some (a, s')) : post a s' := by
  obtain ⟨b, t, hexec', hpost⟩ := h
  obtain ⟨rfl, rfl⟩ := Prod.mk.inj (Option.some.inj (hexec'.symm.trans hexec))
  exact hpost

end Run

/-- Every access satisfies `P`, whatever is answered. -/
def Only (P : ω → Prop) : Prog ω ρ α → Prop
  | ret _ => True
  | op o k => P o ∧ ∀ r, (k r).Only P
  | poll o _ k => P o ∧ ∀ r, (k r).Only P

/-- Unless an answer satisfies `seen`, the result satisfies `post`. After such an answer all
accesses satisfy `P`. -/
def Unseen (seen : ω → ρ → Prop) (P : ω → Prop) (post : α → Prop) : Prog ω ρ α → Prop
  | ret a => post a
  | op o k => ∀ r, seen o r ∧ (k r).Only P ∨ (k r).Unseen seen P post
  | poll o _ k => ∀ r, seen o r ∧ (k r).Only P ∨ (k r).Unseen seen P post

/-- The access that a program does next. -/
def next : Prog ω ρ α → Option ω
  | ret _ => none
  | op o _ => some o
  | poll o _ _ => some o

variable {answer : σ → ω → ρ × σ} {s : σ} {p : Prog ω ρ α} {P : ω → Prop}
  {seen : ω → ρ → Prop} {post : α → Prop} {o : ω}

lemma step_snd (h : p.next = some o) : (p.step answer s).2 = (answer s o).2 := by
  cases p with
  | ret a => cases h
  | op o' k =>
    obtain rfl := Option.some.inj h
    rfl
  | poll o' again k =>
    obtain rfl := Option.some.inj h
    rfl

lemma Only.next (h : p.Only P) (ho : p.next = some o) : P o := by
  cases p with
  | ret a => cases ho
  | op o' k =>
    obtain rfl := Option.some.inj ho
    exact h.1
  | poll o' again k =>
    obtain rfl := Option.some.inj ho
    exact h.1

lemma Only.step (h : p.Only P) : (p.step answer s).1.Only P := by
  cases p with
  | ret a => exact h
  | op o k => exact h.2 _
  | poll o again k =>
    simp only [Prog.step]
    split
    · exact h
    · exact h.2 _

/-- The answer that is looked for comes with the next access or it does not. -/
lemma Unseen.step (h : p.Unseen seen P post) :
    (p.step answer s).1.Unseen seen P post ∨
      ∃ o, p.next = some o ∧ seen o (answer s o).1 ∧ (p.step answer s).1.Only P := by
  cases p with
  | ret a => exact Or.inl h
  | op o k =>
    rcases h (answer s o).1 with ⟨hseen, honly⟩ | hk
    · exact Or.inr ⟨o, rfl, hseen, honly⟩
    · exact Or.inl hk
  | poll o again k =>
    simp only [Prog.step]
    split
    · exact Or.inl h
    · rcases h (answer s o).1 with ⟨hseen, honly⟩ | hk
      · exact Or.inr ⟨o, rfl, hseen, honly⟩
      · exact Or.inl hk

/-- What a program does before the part that looks for the answer. -/
lemma unseen_bind (q : Prog ω ρ β) {f : β → Prog ω ρ α} (h : ∀ b, (f b).Unseen seen P post) :
    (q >>= f).Unseen seen P post := by
  induction q with
  | ret b => exact h b
  | op o k ih => exact fun r => Or.inr (ih r)
  | poll o again k ih => exact fun r => Or.inr (ih r)

end Prog

end Access
