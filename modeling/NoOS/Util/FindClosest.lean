import Mathlib.Algebra.Order.Ring.Int
import NoOS.Lib.Nearest
import NoOS.Lib.Word

/-!
# The closest element of an array

`find_closest` subtracts in 32 bits before it takes the absolute value, so that an element that is `2 ^ 31` away or more
looks nearer than it is. The place is right as long as no such element looks nearer than the nearest one.
-/

namespace NoOS
open FirstLeast

/-- The loop of `find_closest` from the index `i` on. -/
def findClosestFrom (val : Int32) : List Int32 → UInt32 → Int32 → UInt32 → UInt32
  | [], _, _, ret => ret
  | a :: array, i, diff, ret =>
    if (a - val).abs < diff then findClosestFrom val array (i + 1) (a - val).abs i
    else findClosestFrom val array (i + 1) diff ret

/-- Without an `array[0]` the function reads outside the array. -/
def findClosest (val : Int32) : List Int32 → Option UInt32
  | [] => none
  | a :: array => some (findClosestFrom val array 1 (a - val).abs 0)

namespace FindClosest

/-- `|a - val|` in integers -/
def dist (val a : Int32) : ℤ := |a.toInt - val.toInt|

/-- What `abs` makes of a distance after a subtraction in 32 bits. -/
def wrapped (d : ℤ) : ℤ := if d < 2 ^ 31 then d else if d = 2 ^ 31 then -2 ^ 31 else 2 ^ 32 - d

/-- With a nearest element less than `2 ^ 31` away, no element is `2 ^ 31` away or so far that its distance wraps to
less, and one that wraps to the same distance comes later. A nearest element that is `2 ^ 31` away wraps to the least
number, and with one further away than that all elements must be equally far. -/
def WrapHarmless (val : Int32) (array : List Int32) : Prop :=
  ∀ a ∈ array, (∀ b ∈ array, dist val a ≤ dist val b) →
    if dist val a < 2 ^ 31 then
      ∀ (j : ℕ) b, array[j]? = some b → dist val b ≠ 2 ^ 31 ∧ dist val b ≤ 2 ^ 32 - dist val a ∧
        (dist val b = 2 ^ 32 - dist val a → ∃ i < j, ∃ a', array[i]? = some a' ∧ dist val a' = dist val a)
    else dist val a = 2 ^ 31 ∨ ∀ b ∈ array, dist val b = dist val a

variable {val a b : Int32} {array : List Int32}

lemma abs_toInt (x : Int32) : x.abs.toInt = if x.toInt = -2 ^ 31 then -2 ^ 31 else |x.toInt| := by
  split_ifs with hmin
  · have hx : x = Int32.minValue := Int32.toInt_inj.mp hmin
    rw [hx]
    rfl
  · have hne : x.toBitVec ≠ BitVec.intMin 32 := fun hc => hmin (congrArg BitVec.toInt hc)
    change x.toBitVec.abs.toInt = |x.toBitVec.toInt|
    rw [BitVec.toInt_abs_eq_natAbs, if_neg hne, Int.natCast_natAbs]

lemma sub_toInt_cases : (a - val).toInt = a.toInt - val.toInt ∨ (a - val).toInt = a.toInt - val.toInt - 2 ^ 32 ∨
    (a - val).toInt = a.toInt - val.toInt + 2 ^ 32 := by
  have hle := a.le_toInt
  have hlt := a.toInt_lt
  have hle' := val.le_toInt
  have hlt' := val.toInt_lt
  rw [Int32.toInt_sub, Int.bmod_def]
  split_ifs <;> lia

lemma dist_nonneg : 0 ≤ dist val a := abs_nonneg _

lemma dist_lt : dist val a < 2 ^ 32 := by
  have hle := a.le_toInt
  have hlt := a.toInt_lt
  have hle' := val.le_toInt
  have hlt' := val.toInt_lt
  rw [dist, abs_lt]
  lia

lemma abs_sub_toInt : (a - val).abs.toInt = wrapped (dist val a) := by
  have hle := (a - val).le_toInt
  have hlt := (a - val).toInt_lt
  have hsub := @sub_toInt_cases val a
  have hbound := @dist_lt val a
  rw [dist] at hbound
  rw [abs_toInt, wrapped, dist]
  rcases abs_cases (a.toInt - val.toInt) with hd | hd
  · rcases abs_cases (a - val).toInt with hw | hw
    · rw [hd.1, hw.1]
      split_ifs <;> lia
    · rw [hd.1, hw.1]
      split_ifs <;> lia
  · rcases abs_cases (a - val).toInt with hw | hw
    · rw [hd.1, hw.1]
      split_ifs <;> lia
    · rw [hd.1, hw.1]
      split_ifs <;> lia

lemma findClosestFrom_eq {i ret : ℕ} : findClosestFrom val array (UInt32.ofNat i) (a - val).abs (UInt32.ofNat ret) =
    UInt32.ofNat (scanFrom (fun b => wrapped (dist val b)) array i (wrapped (dist val a)) ret) := by
  induction array generalizing i a ret with
  | nil => rfl
  | cons b array ih =>
    have hlt : (b - val).abs < (a - val).abs ↔ wrapped (dist val b) < wrapped (dist val a) := by
      rw [Int32.lt_iff_toInt_lt, abs_sub_toInt, abs_sub_toInt]
    have hnext : UInt32.ofNat i + 1 = UInt32.ofNat (i + 1) := (UInt32.ofNat_add i 1).symm
    rw [findClosestFrom, scanFrom, hnext]
    split_ifs with hcode hkey hkey
    · exact ih
    · exact absurd (hlt.mp hcode) hkey
    · exact absurd (hlt.mpr hkey) hcode
    · exact ih

/-- The code returns the first place where the wrapped distance is least. -/
lemma findClosest_eq (val : Int32) (hne : array ≠ []) (hlen : array.length < 2 ^ 32) : ∃ r, findClosest val array = some r ∧
    IsFirstLeast (fun b => wrapped (dist val b)) array r.toNat := by
  cases array with
  | nil => exact absurd rfl hne
  | cons a array =>
    have hfirst : IsFirstLeast (fun b => wrapped (dist val b)) (a :: array) _ := isFirstLeast_scan
    have hlt := hfirst.lt_length
    refine ⟨_, rfl, ?_⟩
    have hcode : findClosestFrom val array 1 (a - val).abs 0 = _ := @findClosestFrom_eq val a array 1 0
    rw [hcode, UInt32.toNat_ofNat_of_lt' (hlt.trans hlen)]
    exact hfirst

lemma wrapped_near {d : ℤ} (h : d < 2 ^ 31) : wrapped d = d := if_pos h

lemma wrapped_far {d : ℤ} (h : 2 ^ 31 < d) : wrapped d = 2 ^ 32 - d := by
  rw [wrapped, if_neg (not_lt.mpr h.le), if_neg h.ne']

lemma harmless_of_isFirstLeast {i : ℕ} (hcode : IsFirstLeast (fun b => wrapped (dist val b)) array i)
    (h : IsFirstLeast (dist val) array i) : WrapHarmless val array := by
  obtain ⟨a₀, ha₀, hdist⟩ := h
  obtain ⟨a₁, ha₁, hwrap⟩ := hcode
  rw [ha₀, Option.some_inj] at ha₁
  subst ha₁
  intro a ha hleast
  have heq : dist val a = dist val a₀ := by
    obtain ⟨j, hj⟩ := List.mem_iff_getElem?.mp ha
    exact le_antisymm (hleast a₀ (List.mem_of_getElem? ha₀)) (hdist j a hj).1
  rw [heq]
  have hnonneg := @dist_nonneg val a₀
  split_ifs with hnear
  · intro j b hb
    have hw := hwrap j b hb
    dsimp only at hw
    rw [wrapped_near hnear] at hw
    have hne : dist val b ≠ 2 ^ 31 := by
      intro hmid
      rw [hmid] at hw
      have hneg : (wrapped (2 ^ 31) : ℤ) = -2 ^ 31 := rfl
      lia
    have hd := hdist j b hb
    rcases lt_or_gt_of_ne hne with hlow | hhigh
    · exact ⟨hne, by lia, fun heq => by lia⟩
    · rw [wrapped_far hhigh] at hw
      refine ⟨hne, by lia, fun heq => ⟨i, ?_, a₀, ha₀, rfl⟩⟩
      -- its distance wraps to the least one, so it does not come first, and it is another element
      have hle : i ≤ j := Nat.le_of_not_lt fun hlt => by have := hw.2 hlt; lia
      refine lt_of_le_of_ne hle fun hij => ?_
      rw [← hij, ha₀, Option.some_inj] at hb
      rw [hb] at hnear
      omega
  · by_cases hmid : dist val a₀ = 2 ^ 31
    · exact Or.inl hmid
    · refine Or.inr fun b hb => ?_
      obtain ⟨j, hj⟩ := List.mem_iff_getElem?.mp hb
      have hd := (hdist j b hj).1
      have hw := (hwrap j b hj).1
      dsimp only at hw
      rw [wrapped_far (by lia), wrapped_far (by lia)] at hw
      lia

lemma isFirstLeast_of_harmless {i : ℕ} (h : WrapHarmless val array) (hdist : IsFirstLeast (dist val) array i) :
    IsFirstLeast (fun b => wrapped (dist val b)) array i := by
  obtain ⟨a, ha, hleast⟩ := hdist
  refine ⟨a, ha, fun j b hb => ?_⟩
  have hd := hleast j b hb
  have hcond := h a (List.mem_of_getElem? ha) fun b hb => by
    obtain ⟨j, hj⟩ := List.mem_iff_getElem?.mp hb
    exact (hleast j b hj).1
  dsimp only
  split_ifs at hcond with hnear
  · obtain ⟨hne, hle, hlater⟩ := hcond j b hb
    rw [wrapped_near hnear]
    rcases lt_or_gt_of_ne hne with hlow | hhigh
    · rw [wrapped_near hlow]
      exact hd
    · rw [wrapped_far hhigh]
      refine ⟨by lia, fun hj => lt_of_le_of_ne (by lia) fun heq => ?_⟩
      obtain ⟨k, hk, a', ha', heq'⟩ := hlater (by lia)
      have hearly := (hleast k a' ha').2 (hk.trans hj)
      lia
  · have hneg : (wrapped (2 ^ 31) : ℤ) = -2 ^ 31 := rfl
    rcases hcond with hmid | hall
    · rw [hmid, hneg]
      rw [hmid] at hd
      have hlt := @dist_lt val b
      rcases hd.1.eq_or_lt with heq | hfar
      · rw [← heq, hneg]
        exact ⟨le_rfl, fun hj => by have := hd.2 hj; omega⟩
      · rw [wrapped_far hfar]
        lia
    · have heq := hall b (List.mem_of_getElem? hb)
      rw [heq]
      exact ⟨le_rfl, fun hj => by have := hd.2 hj; omega⟩

/-- The place is the first one where `|array[i] - val|` is least. -/
def Right (val : Int32) (array : List Int32) : Prop :=
  ∃ r, findClosest val array = some r ∧ IsFirstLeast (dist val) array r.toNat

end FindClosest

open FindClosest

/-- The place is right exactly for the arrays where the distances that wrap do no harm. -/
theorem findClosest_right_iff (val : Int32) (array : List Int32) (hne : array ≠ []) (hlen : array.length < 2 ^ 32) :
    Right val array ↔ WrapHarmless val array := by
  obtain ⟨r, hr, hcode⟩ := findClosest_eq val hne hlen
  constructor
  · rintro ⟨r', hr', hright⟩
    rw [hr, Option.some_inj] at hr'
    subst hr'
    exact harmless_of_isFirstLeast hcode hright
  · intro hharmless
    obtain ⟨i, hi⟩ : ∃ i, IsFirstLeast (dist val) array i := exists_isFirstLeast hne
    have heq := hcode.unique (isFirstLeast_of_harmless hharmless hi)
    exact ⟨r, hr, heq ▸ hi⟩

/-- A charge pump current between two entries -/
theorem findClosest_right_pair : Right 5 [3, 6] ↔ WrapHarmless 5 [3, 6] :=
  findClosest_right_iff 5 [3, 6] (by decide) (by decide)

/-- From -1 the largest number is `2 ^ 31` away, and it looks nearer than 0. -/
theorem not_findClosest_right : ¬∀ (val : Int32) (array : List Int32), array ≠ [] → array.length < 2 ^ 32 →
    Right val array := by
  intro h
  obtain ⟨r, hr, hright⟩ := h (-1) [0, 2147483647] (by decide) (by decide)
  have hcode : findClosest (-1) [0, 2147483647] = some 1 := by decide
  rw [hcode, Option.some_inj] at hr
  subst hr
  obtain ⟨a, ha, hleast⟩ := hright
  have heq : (2147483647 : Int32) = a := Option.some_inj.mp ha
  subst heq
  exact absurd (hleast 0 0 rfl).1 (by decide)

end NoOS
