import Mathlib.Data.List.Basic
import Mathlib.Data.List.Infix
import Mathlib.Tactic.Common

/-!
# Runs of a step function

A system takes one event after another. The run lemmas below lift what a single step
preserves to every state that a whole run visits.
-/

namespace Trace

variable {σ ε : Type*} (step : σ → ε → σ)

/-- The state after the events `es`. -/
def run (s : σ) (es : List ε) : σ := es.foldl step s

@[simp] lemma run_nil (s : σ) : run step s [] = s := rfl

@[simp] lemma run_cons (s : σ) (e : ε) (es : List ε) :
    run step s (e :: es) = run step (step s e) es := rfl

lemma run_append (s : σ) (es fs : List ε) :
    run step s (es ++ fs) = run step (run step s es) fs := List.foldl_append

lemma run_concat (s : σ) (es : List ε) (e : ε) :
    run step s (es ++ [e]) = step (run step s es) e := by
  rw [run_append, run_cons, run_nil]

/-- Every state visited by the run, first and last included, satisfies `P`. -/
def Always (P : σ → Prop) (s : σ) (es : List ε) : Prop :=
  ∀ pre, pre <+: es → P (run step s pre)

/-- Every event of the run occurs in a state that allows it. -/
def Guarded (ok : σ → ε → Prop) (s : σ) (es : List ε) : Prop :=
  ∀ pre e, pre ++ [e] <+: es → ok (run step s pre) e

variable {step} {P Q : σ → Prop} {ok : σ → ε → Prop} {s : σ} {e : ε} {es : List ε}

lemma Always.last (h : Always step P s es) : P (run step s es) := h es (List.prefix_refl es)

lemma Always.first (h : Always step P s es) : P s := h [] List.nil_prefix

lemma Always.mono (h : Always step P s es) (hPQ : ∀ t, P t → Q t) : Always step Q s es :=
  fun pre hpre => hPQ _ (h pre hpre)

lemma always_nil : Always step P s [] ↔ P s := by
  constructor
  · exact Always.first
  · intro h pre hpre
    rw [List.prefix_nil.mp hpre]
    exact h

lemma always_cons : Always step P s (e :: es) ↔ P s ∧ Always step P (step s e) es := by
  constructor
  · intro h
    exact ⟨h.first, fun pre hpre => h (e :: pre) (List.cons_prefix_cons.mpr ⟨rfl, hpre⟩)⟩
  · rintro ⟨hs, h⟩ pre hpre
    cases pre with
    | nil => exact hs
    | cons a pre =>
      obtain ⟨rfl, hrest⟩ := List.cons_prefix_cons.mp hpre
      exact h pre hrest

lemma always_append {fs : List ε} :
    Always step P s (es ++ fs) ↔ Always step P s es ∧ Always step P (run step s es) fs := by
  induction es generalizing s with
  | nil =>
    rw [List.nil_append, always_nil, run_nil]
    exact ⟨fun h => ⟨h.first, h⟩, And.right⟩
  | cons e es ih => rw [List.cons_append, always_cons, always_cons, ih, run_cons, and_assoc]

lemma guarded_nil : Guarded step ok s [] := by
  intro pre e hpre
  simp at hpre

lemma guarded_cons : Guarded step ok s (e :: es) ↔ ok s e ∧ Guarded step ok (step s e) es := by
  constructor
  · intro h
    refine ⟨h [] e (by simp), fun pre f hpre => ?_⟩
    exact h (e :: pre) f (List.cons_prefix_cons.mpr ⟨rfl, hpre⟩)
  · rintro ⟨hs, h⟩ pre f hpre
    cases pre with
    | nil =>
      obtain ⟨rfl, -⟩ := List.cons_prefix_cons.mp hpre
      exact hs
    | cons a pre =>
      obtain ⟨rfl, hrest⟩ := List.cons_prefix_cons.mp hpre
      exact h pre f hrest

lemma guarded_and {ok' : σ → ε → Prop} :
    Guarded step (fun s e => ok s e ∧ ok' s e) s es ↔ Guarded step ok s es ∧ Guarded step ok' s es := by
  constructor
  · intro h
    exact ⟨fun pre e hpre => (h pre e hpre).1, fun pre e hpre => (h pre e hpre).2⟩
  · rintro ⟨h, h'⟩ pre e hpre
    exact ⟨h pre e hpre, h' pre e hpre⟩

instance decidableAlways [DecidablePred P] (s : σ) : (es : List ε) → Decidable (Always step P s es)
  | [] => decidable_of_iff _ always_nil.symm
  | e :: es =>
    have := decidableAlways (step s e) es
    decidable_of_iff _ always_cons.symm

instance decidableGuarded [∀ s e, Decidable (ok s e)] (s : σ) :
    (es : List ε) → Decidable (Guarded step ok s es)
  | [] => .isTrue guarded_nil
  | e :: es =>
    have := decidableGuarded (step s e) es
    decidable_of_iff _ guarded_cons.symm

/-- An invariant of every step holds at the end of a run. -/
theorem run_induction (hs : P s) (hstep : ∀ t e, P t → P (step t e)) : P (run step s es) := by
  induction es generalizing s with
  | nil => exact hs
  | cons e es ih => exact ih (hstep s e hs)

/-- A change of the state that the steps and their guards do not see. -/
lemma Guarded.map (hg : Guarded step ok s es) (f : σ → σ)
    (hstep : ∀ t e, step (f t) e = f (step t e)) (hok : ∀ t e, ok t e → ok (f t) e) :
    Guarded step ok (f s) es := by
  induction es generalizing s with
  | nil => exact guarded_nil
  | cons e es ih =>
    obtain ⟨he, hes⟩ := guarded_cons.mp hg
    rw [guarded_cons, hstep]
    exact ⟨hok s e he, ih hes⟩

/-- An invariant that guarded steps preserve holds in every state of a guarded run. -/
theorem Guarded.always (hg : Guarded step ok s es) (hs : P s)
    (hstep : ∀ t e, P t → ok t e → P (step t e)) : Always step P s es := by
  induction es generalizing s with
  | nil => exact always_nil.mpr hs
  | cons e es ih =>
    obtain ⟨he, hes⟩ := guarded_cons.mp hg
    exact always_cons.mpr ⟨hs, ih hes (hstep s e hs he)⟩

/-- An invariant that every step into a state satisfying `P` preserves. -/
theorem Always.strengthen (hP : Always step P s es) (hs : Q s)
    (hstep : ∀ t e, Q t → P t → P (step t e) → Q (step t e)) : Always step Q s es := by
  induction es generalizing s with
  | nil => exact always_nil.mpr hs
  | cons e es ih =>
    obtain ⟨hPs, hPes⟩ := always_cons.mp hP
    exact always_cons.mpr ⟨hs, ih hPes (hstep s e hs hPs hPes.first)⟩

/-- The states of a run satisfy `P` if and only if its events are allowed, where the allowed
events are the ones that keep an invariant which implies `P`. -/
theorem always_iff_guarded (hs : Q s) (hQ : ∀ t, Q t → P t)
    (hok : ∀ t e, Q t → ok t e → Q (step t e)) (hbad : ∀ t e, Q t → P (step t e) → ok t e) :
    Always step P s es ↔ Guarded step ok s es := by
  induction es generalizing s with
  | nil => exact ⟨fun _ => guarded_nil, fun _ => always_nil.mpr (hQ s hs)⟩
  | cons e es ih =>
    rw [always_cons, guarded_cons]
    constructor
    · rintro ⟨-, h⟩
      have he := hbad s e hs h.first
      exact ⟨he, (ih (hok s e hs he)).mp h⟩
    · rintro ⟨he, h⟩
      exact ⟨hQ s hs, (ih (hok s e hs he)).mpr h⟩

/-- Conditions that agree under an invariant of the allowed steps allow the same runs. -/
theorem guarded_iff_guarded {ok' : σ → ε → Prop} (hs : Q s)
    (hstep : ∀ t e, Q t → ok' t e → Q (step t e)) (hok : ∀ t e, Q t → (ok t e ↔ ok' t e)) :
    Guarded step ok s es ↔ Guarded step ok' s es := by
  induction es generalizing s with
  | nil => exact iff_of_true guarded_nil guarded_nil
  | cons e es ih =>
    rw [guarded_cons, guarded_cons, hok s e hs]
    exact and_congr_right fun he => ih (hstep s e hs he)

/-- Conditions that agree under an invariant of the steps allow the same runs. -/
theorem guarded_congr {ok' : σ → ε → Prop} (hs : Q s) (hstep : ∀ t e, Q t → Q (step t e))
    (hok : ∀ t e, Q t → (ok t e ↔ ok' t e)) : Guarded step ok s es ↔ Guarded step ok' s es :=
  guarded_iff_guarded hs (fun t e ht _ => hstep t e ht) hok

section Faults

variable {φ : Type*} (faulty : σ → ε → Except φ σ)

/-- A fault ends the run. -/
def orFault (r : Except φ σ) (e : ε) : Except φ σ := r.bind fun s => faulty s e

/-- `P` before any fault, and a fault satisfies `F`. -/
def Unless (F : φ → Prop) (P : σ → Prop) : Except φ σ → Prop
  | .ok s => P s
  | .error f => F f

/-- What is asked of the events until there is a fault. -/
def untilFault (ok : σ → ε → Prop) (r : Except φ σ) (e : ε) : Prop :=
  Unless (fun _ => True) (fun s => ok s e) r

@[simp] lemma orFault_ok (s : σ) (e : ε) : orFault faulty (.ok s) e = faulty s e := rfl

@[simp] lemma orFault_error (f : φ) (e : ε) : orFault faulty (.error f) e = .error f := rfl

instance (F : φ → Prop) (P : σ → Prop) [DecidablePred F] [DecidablePred P] :
    DecidablePred (Unless F P)
  | .ok s => inferInstanceAs (Decidable (P s))
  | .error f => inferInstanceAs (Decidable (F f))

instance [∀ s e, Decidable (ok s e)] (r : Except φ σ) (e : ε) : Decidable (untilFault ok r e) :=
  inferInstanceAs (Decidable (Unless _ _ r))

variable {faulty} {F : φ → Prop}

/-- An invariant of guarded steps whose faults all satisfy `F`. -/
theorem Guarded.unless (hg : Guarded (orFault faulty) (untilFault ok) (.ok s) es) (hs : P s)
    (hstep : ∀ t e, P t → ok t e → Unless F P (faulty t e)) :
    Always (orFault faulty) (Unless F P) (.ok s) es := by
  refine hg.always (P := Unless F P) hs ?_
  intro r e hr he
  cases r with
  | ok t => exact hstep t e hr he
  | error f => exact hr

end Faults

end Trace
