import Mathlib.Tactic.Common

/-!
# Programs that may return an error code

A program on a state returns a value, or a code at which its callers stop. What it has done to the state by
then stays.
-/

/-- A program with states `σ` and values `α`. -/
def Fallible (σ α : Type) : Type := σ → Except Int α × σ

namespace Fallible

variable {σ α β : Type}

instance : Monad (Fallible σ) where
  pure a := fun s => (.ok a, s)
  bind x f := fun s =>
    match x s with
    | (.ok a, s) => f a s
    | (.error e, s) => (.error e, s)

def fail (e : Int) : Fallible σ α := fun s => (.error e, s)

/-- A program whose code is not looked at. -/
def ignore (x : Fallible σ α) : Fallible σ Unit := fun s => (.ok (), (x s).2)

variable {x : Fallible σ α} {f : α → Fallible σ β} {s s' : σ} {a : α} {post post' : α → σ → Prop} {e : Int}

lemma bind_ok (h : x s = (.ok a, s')) : (x >>= f) s = f a s' := by
  change (match x s with | (.ok a, s) => f a s | (.error e, s) => (.error e, s)) = _
  rw [h]

lemma bind_error (h : x s = (.error e, s')) : (x >>= f) s = (.error e, s') := by
  change (match x s with | (.ok a, s) => f a s | (.error e, s) => (.error e, s)) = _
  rw [h]

lemma bind_pure_unit {x : Fallible σ Unit} : (x >>= fun _ => Pure.pure ()) = x := by
  funext s
  rcases hx : x s with ⟨e | a, t⟩
  · exact bind_error hx
  · exact bind_ok hx

/-- If the program returns a value, it and the state satisfy `post`. -/
def Ensures (x : Fallible σ α) (s : σ) (post : α → σ → Prop) : Prop := ∀ a s', x s = (.ok a, s') → post a s'

lemma Ensures.pure (h : post a s) : Ensures (Pure.pure a : Fallible σ α) s post := by
  intro b s' hrun
  obtain ⟨hval, rfl⟩ := Prod.mk.inj hrun
  rwa [← Except.ok.inj hval]

lemma Ensures.mono (h : Ensures x s post) (himp : ∀ a s', post a s' → post' a s') : Ensures x s post' :=
  fun a s' hrun => himp a s' (h a s' hrun)

lemma Ensures.bind {post : β → σ → Prop} (h : Ensures x s fun a s' => Ensures (f a) s' post) :
    Ensures (x >>= f) s post := by
  intro b s' hrun
  rcases hx : x s with ⟨_ | a, t⟩
  · rw [bind_error hx] at hrun
    exact absurd (Prod.mk.inj hrun).1 nofun
  · rw [bind_ok hx] at hrun
    exact h a t hx b s' hrun

lemma Ensures.bind_of {post' : β → σ → Prop} (h : Ensures x s post)
    (hf : ∀ a s', post a s' → Ensures (f a) s' post') : Ensures (x >>= f) s post' := Ensures.bind (h.mono hf)

/-- A program whose code is not looked at ensures what it does in any case. -/
lemma Ensures.ignore {post : σ → Prop} (h : post (x s).2) : Ensures (ignore x) s fun _ => post := by
  intro b s' hrun
  rwa [← (Prod.mk.inj hrun).2]

/-- Whatever the program returns, its states before and after are related. -/
def Moves (r : σ → σ → Prop) (x : Fallible σ α) : Prop := ∀ s, r s (x s).2

variable {r : σ → σ → Prop}

lemma Moves.pure (hrefl : ∀ s, r s s) : Moves r (Pure.pure a : Fallible σ α) := hrefl

lemma Moves.fail (hrefl : ∀ s, r s s) : Moves r (Fallible.fail e : Fallible σ α) := hrefl

lemma Moves.bind (htrans : ∀ s t u, r s t → r t u → r s u) (hx : Moves r x) (hf : ∀ a, Moves r (f a)) :
    Moves r (x >>= f) := by
  intro s
  rcases hrun : x s with ⟨e | a, t⟩
  · rw [bind_error hrun]
    have hfirst := hx s
    rwa [hrun] at hfirst
  · rw [bind_ok hrun]
    have hfirst := hx s
    rw [hrun] at hfirst
    exact htrans s t _ hfirst (hf a t)

lemma Moves.ignore (hx : Moves r x) : Moves r (Fallible.ignore x) := hx

lemma Moves.ensures (hx : Moves r x) (s : σ) : Ensures x s fun _ => r s := by
  intro a s' hrun
  have hany := hx s
  rwa [hrun] at hany

/-- What a part of a program ensures stays if the rest does not touch it. -/
lemma Ensures.bind_moves {post : σ → Prop} (hx : Ensures x s fun _ => post) (hf : ∀ a, Moves r (f a))
    (hstays : ∀ s t, post s → r s t → post t) : Ensures (x >>= f) s fun _ => post := by
  apply Ensures.bind
  intro a t hrun b u hrest
  exact hstays t u (hx a t hrun) ((hf a).ensures t b u hrest)

lemma Ensures.reach (inv : σ → Prop) {post : β → σ → Prop} (h : Ensures x s fun _ => inv)
    (hf : ∀ a t, inv t → Ensures (f a) t post) : Ensures (x >>= f) s post := Ensures.bind_of h hf

lemma Ensures.after {inv : σ → Prop} {post : β → σ → Prop} (hx : Moves (fun s t => inv s → inv t) x) (hs : inv s)
    (hf : ∀ a t, inv t → Ensures (f a) t post) : Ensures (x >>= f) s post :=
  Ensures.bind_of (hx.ensures s) fun a t h => hf a t (h hs)

end Fallible
