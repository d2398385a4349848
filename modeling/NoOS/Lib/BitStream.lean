import Mathlib.Algebra.Order.Group.Nat
import Mathlib.Data.List.Basic
import Mathlib.Data.Nat.Bitwise
import Mathlib.Data.UInt
import Mathlib.Tactic.Common
import Mathlib.Tactic.Ring

/-!
# Numbers in a stream of bits

Numbers stand one after the other, each with its most significant bit first, and need not begin at a byte. Shifts,
masks and a bitwise or of the bytes that a number touches give the number again.
-/

namespace BitStream

/-- The lowest `n` bits of a number. -/
def bits : ℕ → ℕ → List Bool
  | 0, _ => []
  | n + 1, v => v.testBit n :: bits n v

def value : List Bool → ℕ
  | [] => 0
  | b :: bs => b.toNat * 2 ^ bs.length + value bs

/-- The number in the `n` bits from `offset` on. -/
def slice (bs : List Bool) (offset n : ℕ) : ℕ := value ((bs.drop offset).take n)

def bitsOf (data : List UInt8) : List Bool := data.flatMap fun b => bits 8 b.toNat

/-- The stream in bytes. -/
def bytes (bs : List Bool) : List UInt8 := (List.range (bs.length / 8)).map fun k => UInt8.ofNat (slice bs (8 * k) 8)

variable {bs cs : List Bool} {offset m n k v : ℕ} {data : List UInt8}

lemma length_bits : (bits n v).length = n := by
  induction n with
  | zero => rfl
  | succ n ih => rw [bits, List.length_cons, ih]

lemma getElem?_bits {i : ℕ} (hi : i < n) : (bits n v)[i]? = some (v.testBit (n - 1 - i)) := by
  induction n generalizing i with
  | zero => exact absurd hi (Nat.not_lt_zero i)
  | succ n ih =>
    rw [bits]
    cases i with
    | zero => rfl
    | succ i => rw [List.getElem?_cons_succ, ih (by lia), show n + 1 - 1 - (i + 1) = n - 1 - i by lia]

lemma value_append : value (bs ++ cs) = value bs * 2 ^ cs.length + value cs := by
  induction bs with
  | nil => simp [value]
  | cons b bs ih =>
    rw [List.cons_append, value, value, ih, List.length_append, Nat.pow_add]
    ring

lemma value_lt : value bs < 2 ^ bs.length := by
  induction bs with
  | nil => exact Nat.one_pos
  | cons b bs ih =>
    have hb : b.toNat * 2 ^ bs.length ≤ 1 * 2 ^ bs.length := Nat.mul_le_mul_right _ b.toNat_le
    rw [value, List.length_cons, Nat.pow_succ]
    lia

lemma value_bits : value (bits n v) = v % 2 ^ n := by
  induction n with
  | zero => rw [bits, value, Nat.pow_zero, Nat.mod_one]
  | succ n ih => rw [bits, value, length_bits, ih, Nat.toNat_testBit, Nat.mod_pow_succ, Nat.mul_comm, Nat.add_comm]

lemma slice_lt : slice bs offset n < 2 ^ n := by
  have hlt := @value_lt ((bs.drop offset).take n)
  exact hlt.trans_le (Nat.pow_le_pow_right (by decide) (List.length_take_le _ _))

lemma slice_add (h : offset + (m + n) ≤ bs.length) :
    slice bs offset (m + n) = slice bs offset m * 2 ^ n + slice bs (offset + m) n := by
  have hlen : (((bs.drop offset).drop m).take n).length = n := by
    rw [List.length_take, List.length_drop, List.length_drop]
    lia
  rw [slice, List.take_add, value_append, hlen, List.drop_drop]
  rfl

lemma slice_flatMap {α : Type} {f : α → List Bool} (hf : ∀ a, (f a).length = n) (l : List α) {i : ℕ}
    (hi : i < l.length) : slice (l.flatMap f) (n * i) n = value (f (l.get ⟨i, hi⟩)) := by
  induction l generalizing i with
  | nil => exact absurd hi (Nat.not_lt_zero i)
  | cons a l ih =>
    rw [List.flatMap_cons]
    cases i with
    | zero =>
      rw [Nat.mul_zero, slice, List.drop_zero, List.take_left' (hf a)]
      rfl
    | succ i =>
      have hdrop : (f a ++ l.flatMap f).drop (n * (i + 1)) = (l.flatMap f).drop (n * i) := by
        rw [Nat.mul_succ, Nat.add_comm, ← List.drop_drop, List.drop_left' (hf a)]
      rw [slice, hdrop]
      exact ih (Nat.lt_of_succ_lt_succ hi)

lemma length_bytes : (bytes bs).length = bs.length / 8 := by rw [bytes, List.length_map, List.length_range]

lemma getD_bytes (hk : 8 * k + 8 ≤ bs.length) (b : UInt8) : ((bytes bs).getD k b).toNat = slice bs (8 * k) 8 := by
  have hlt : k < bs.length / 8 := by lia
  rw [bytes, List.getD_eq_getElem?_getD, List.getElem?_map, List.getElem?_range hlt]
  exact UInt8.toNat_ofNat_of_lt' slice_lt

lemma length_bitsOf : (bitsOf data).length = 8 * data.length := by
  induction data with
  | nil => rfl
  | cons b data ih =>
    change (bits 8 b.toNat ++ bitsOf data).length = _
    rw [List.length_append, length_bits, ih, List.length_cons, Nat.mul_succ, Nat.add_comm]

lemma bits_inj {a b : UInt8} (h : bits 8 a.toNat = bits 8 b.toNat) : a = b := by
  have hval := congrArg value h
  rw [value_bits, value_bits, Nat.mod_eq_of_lt a.toNat_lt, Nat.mod_eq_of_lt b.toNat_lt] at hval
  exact UInt8.toNat_inj.mp hval

lemma bitsOf_inj {data' : List UInt8} (h : bitsOf data = bitsOf data') : data = data' := by
  induction data generalizing data' with
  | nil =>
    have hlen := congrArg List.length h
    rw [length_bitsOf, length_bitsOf, List.length_nil] at hlen
    exact (List.length_eq_zero_iff.mp (by lia)).symm
  | cons b data ih =>
    cases data' with
    | nil => exact absurd h nofun
    | cons b' data' =>
      obtain ⟨hhead, htail⟩ := List.append_inj h (length_bits.trans length_bits.symm)
      rw [bits_inj hhead, ih htail]

/-- The word holds the slice, moved up by `k` bits. -/
def Holds (bs : List Bool) (offset n k : ℕ) (w : UInt32) : Prop := w.toNat = slice bs offset n * 2 ^ k

variable {x y : UInt32} {b : UInt8}

lemma Holds.byte (h : b.toNat = slice bs offset 8) : Holds bs offset 8 0 b.toUInt32 := by
  rw [Holds, UInt8.toNat_toUInt32, h, Nat.pow_zero, Nat.mul_one]

lemma Holds.low (n : ℕ) (h : b.toNat = slice bs offset 8) (hsum : m + n = 8) (hlen : offset + 8 ≤ bs.length) :
    Holds bs (offset + m) n 0 (b &&& UInt8.ofNat (2 ^ n - 1)).toUInt32 := by
  have hpow : 2 ^ n ≤ 2 ^ 8 := Nat.pow_le_pow_right (by decide) (by lia)
  have hmask : (UInt8.ofNat (2 ^ n - 1)).toNat = 2 ^ n - 1 :=
    UInt8.toNat_ofNat_of_lt' (by simp only [UInt8.size]; lia)
  rw [← hsum] at h hlen
  rw [Holds, UInt8.toNat_toUInt32, UInt8.toNat_and, hmask, Nat.and_two_pow_sub_one_eq_mod, h, slice_add hlen,
    Nat.mul_add_mod_self_right, Nat.mod_eq_of_lt slice_lt, Nat.pow_zero, Nat.mul_one]

lemma Holds.high (n : ℕ) (h : b.toNat = slice bs offset 8) (hsum : m + n = 8) (hlen : offset + 8 ≤ bs.length) :
    Holds bs offset m 0 (b.toUInt32 >>> UInt32.ofNat n) := by
  have hmod : (UInt32.ofNat n).toNat % 32 = n := by
    rw [UInt32.toNat_ofNat_of_lt' (by simp only [UInt32.size]; lia), Nat.mod_eq_of_lt (by lia)]
  rw [← hsum] at h hlen
  rw [Holds, UInt32.toNat_shiftRight, hmod, UInt8.toNat_toUInt32, h, slice_add hlen, Nat.shiftRight_eq_div_pow,
    Nat.pow_zero, Nat.mul_one, Nat.mul_comm, Nat.mul_add_div (Nat.two_pow_pos n), Nat.div_eq_of_lt slice_lt,
    Nat.add_zero]

lemma Holds.shift (k : ℕ) (h : Holds bs offset n 0 x) (hk : k < 32) (hlen : n + k ≤ 32) :
    Holds bs offset n k (x <<< UInt32.ofNat k) := by
  have hmod : (UInt32.ofNat k).toNat % 32 = k := by
    rw [UInt32.toNat_ofNat_of_lt' (hk.trans (by decide)), Nat.mod_eq_of_lt hk]
  have hlt : slice bs offset n * 2 ^ k < 2 ^ 32 := by
    calc slice bs offset n * 2 ^ k < 2 ^ n * 2 ^ k := Nat.mul_lt_mul_of_pos_right slice_lt (Nat.two_pow_pos k)
      _ = 2 ^ (n + k) := (Nat.pow_add 2 n k).symm
      _ ≤ 2 ^ 32 := Nat.pow_le_pow_right (by decide) hlen
  rw [Holds, UInt32.toNat_shiftLeft, hmod, h, Nat.pow_zero, Nat.mul_one, Nat.shiftLeft_eq, Nat.mod_eq_of_lt hlt]

lemma Holds.or {k' l offset' : ℕ} (hx : Holds bs offset m k' x) (hy : Holds bs offset' n k y) (hk : k' = n + k)
    (hnext : offset' = offset + m) (hsum : l = m + n) (hlen : offset + l ≤ bs.length) :
    Holds bs offset l k (x ||| y) := by
  subst hk hnext hsum
  have hlt : slice bs (offset + m) n * 2 ^ k < 2 ^ (n + k) := by
    rw [Nat.pow_add]
    exact Nat.mul_lt_mul_of_pos_right slice_lt (Nat.two_pow_pos k)
  rw [Holds, UInt32.toNat_or, hx, hy, slice_add hlen, Nat.mul_comm _ (2 ^ (n + k)),
    ← Nat.two_pow_add_eq_or_of_lt hlt, Nat.pow_add]
  ring

lemma Holds.eq_ofNat (h : Holds bs offset n 0 x) : x = UInt32.ofNat (slice bs offset n) := by
  rw [Holds, Nat.pow_zero, Nat.mul_one] at h
  rw [← h, UInt32.ofNat_toNat]

end BitStream
