import Mathlib.Data.UInt
import Mathlib.Tactic.Common

/-!
# Unsigned arithmetic that is watched

A computation on unsigned words divides by zero, or it has a value and the exact products on the
way, of which a word may keep the lower bits only.
-/

inductive Arith (α : Type)
  | byZero
  | val (a : α) (products : List ℕ)

namespace Arith

variable {α β : Type}

def log (products : List ℕ) : Arith α → Arith α
  | byZero => byZero
  | val a later => val a (products ++ later)

def bind (f : α → Arith β) : Arith α → Arith β
  | byZero => byZero
  | val a products => log products (f a)

instance : Monad Arith where
  pure a := val a []
  bind x f := bind f x

def div (a b : UInt32) : Arith UInt32 := if b = 0 then byZero else val (a / b) []

def mul (a b : UInt32) : Arith UInt32 := val (a * b) [a.toNat * b.toNat]

def div64 (a b : UInt64) : Arith UInt64 := if b = 0 then byZero else val (a / b) []

def mod64 (a b : UInt64) : Arith UInt64 := if b = 0 then byZero else val (a % b) []

def mul64 (a b : UInt64) : Arith UInt64 := val (a * b) [a.toNat * b.toNat]

/-- The value alone. -/
def value : Arith α → Option α
  | byZero => none
  | val a _ => some a

/-- No product needs more than `w` bits. -/
def Fits (w : ℕ) : Arith α → Prop
  | byZero => True
  | val _ products => ∀ p ∈ products, p < 2 ^ w

variable {w : ℕ} {a b : UInt32} {x : Arith α} {f : α → Arith β}

@[simp] lemma value_pure (c : α) : (pure c : Arith α).value = some c := rfl

@[simp] lemma value_mul : (mul a b).value = some (a * b) := rfl

lemma value_div (h : b ≠ 0) : (div a b).value = some (a / b) := by
  rw [div, if_neg h]
  rfl

lemma value_log (l : List ℕ) : (log l x).value = x.value := by
  cases x <;> rfl

@[simp] lemma value_bind : (x >>= f).value = x.value.bind fun c => (f c).value := by
  cases x with
  | byZero => rfl
  | val c l => exact value_log l

lemma value_eq_none : x.value = none ↔ x = byZero := by
  cases x with
  | byZero => exact iff_of_true rfl rfl
  | val c l => exact iff_of_false (Option.some_ne_none c) nofun

lemma fits_pure (c : α) : (pure c : Arith α).Fits w := fun _ hp => absurd hp List.not_mem_nil

lemma fits_div : (div a b).Fits w := by
  unfold div
  split
  · trivial
  · exact fun _ hp => absurd hp List.not_mem_nil

lemma fits_mul : (mul a b).Fits w ↔ a.toNat * b.toNat < 2 ^ w := by
  constructor
  · intro h
    exact h _ (List.mem_singleton_self _)
  · intro h p hp
    rwa [List.mem_singleton.mp hp]

lemma fits_bind (hvalue : (x >>= f).value ≠ none) :
    (x >>= f).Fits w ↔ x.Fits w ∧ ∀ c, x.value = some c → (f c).Fits w := by
  cases x with
  | byZero => exact absurd rfl hvalue
  | val c l =>
    change (log l (f c)).value ≠ none at hvalue
    change (log l (f c)).Fits w ↔ (∀ p ∈ l, p < 2 ^ w) ∧ ∀ d, some c = some d → (f d).Fits w
    rw [value_log] at hvalue
    rcases hf : f c with _ | ⟨d, l'⟩
    · rw [hf] at hvalue
      exact absurd rfl hvalue
    · constructor
      · intro h
        refine ⟨fun p hp => h p (List.mem_append_left _ hp), ?_⟩
        intro d hd
        obtain rfl := Option.some.inj hd
        rw [hf]
        exact fun p hp => h p (List.mem_append_right _ hp)
      · rintro ⟨hl, hrest⟩ p hp
        have hlater := hrest c rfl
        rw [hf] at hlater
        rcases List.mem_append.mp hp with hp | hp
        · exact hl p hp
        · exact hlater p hp

lemma fits_div_bind {f : UInt32 → Arith β} (hf : ∀ c, (f c).Fits w) : (div a b >>= f).Fits w := by
  unfold div
  split
  · trivial
  · change (log [] (f (a / b))).Fits w
    cases hval : f (a / b) with
    | byZero => trivial
    | val d l =>
      have hfits := hf (a / b)
      rwa [hval] at hfits

/-- The value is `a`, and all products fit if and only if `φ`. -/
structure Gives (w : ℕ) (x : Arith α) (c : α) (φ : Prop) : Prop where
  value : x.value = some c
  fits : x.Fits w ↔ φ

/-- Something is divided by zero. -/
def Fails (x : Arith α) : Prop := x.value = none

variable {c : α} {d : β} {φ ψ : Prop}

lemma Gives.pure : Gives w (Pure.pure c : Arith α) c True :=
  ⟨rfl, iff_of_true (fits_pure c) trivial⟩

lemma Gives.div (h : b ≠ 0) : Gives w (Arith.div a b) (a / b) True :=
  ⟨value_div h, iff_of_true fits_div trivial⟩

lemma Gives.mul : Gives w (Arith.mul a b) (a * b) (a.toNat * b.toNat < 2 ^ w) :=
  ⟨rfl, fits_mul⟩

section Wide

variable {a b : UInt64}

lemma Gives.div64 (h : b ≠ 0) : Gives w (Arith.div64 a b) (a / b) True := by
  rw [Arith.div64, if_neg h]
  exact Gives.pure

lemma Gives.mod64 (h : b ≠ 0) : Gives w (Arith.mod64 a b) (a % b) True := by
  rw [Arith.mod64, if_neg h]
  exact Gives.pure

lemma Gives.mul64 : Gives w (Arith.mul64 a b) (a * b) (a.toNat * b.toNat < 2 ^ w) := by
  refine ⟨rfl, fun h => h _ (List.mem_singleton_self _), fun h p hp => ?_⟩
  rwa [List.mem_singleton.mp hp]

end Wide

lemma Gives.bind (hx : Gives w x c φ) (hf : Gives w (f c) d ψ) : Gives w (x >>= f) d (φ ∧ ψ) := by
  have hvalue : (x >>= f).value = some d := by
    rw [value_bind, hx.value]
    exact hf.value
  refine ⟨hvalue, ?_⟩
  rw [fits_bind (by rw [hvalue]; exact Option.some_ne_none d), hx.fits, ← hf.fits, hx.value]
  simp only [Option.some.injEq, forall_eq']

lemma Gives.rest (hx : Gives w x c True) :
    (x >>= f).value = (f c).value ∧ ((f c).Fits w → (x >>= f).Fits w) := by
  have hvalue : (x >>= f).value = (f c).value := by
    rw [value_bind, hx.value]
    rfl
  refine ⟨hvalue, fun hf => ?_⟩
  by_cases hnone : (x >>= f).value = none
  · rw [value_eq_none.mp hnone]
    trivial
  · rw [fits_bind hnone]
    refine ⟨hx.fits.mpr trivial, fun d hd => ?_⟩
    obtain rfl := Option.some.inj (hx.value.symm.trans hd)
    exact hf

lemma Gives.congr (hx : Gives w x c φ) (h : φ ↔ ψ) : Gives w x c ψ := ⟨hx.value, hx.fits.trans h⟩

lemma fails_div : (div a 0).Fails := rfl

lemma Fails.bind (hx : x.Fails) : (x >>= f).Fails := by
  rw [Fails, value_bind, hx]
  rfl

lemma Gives.bind_fails (hx : Gives w x c φ) (hf : (f c).Fails) : (x >>= f).Fails := by
  rw [Fails, value_bind, hx.value]
  exact hf

end Arith
