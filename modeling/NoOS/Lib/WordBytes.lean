import NoOS.Lib.PackedWord

/-!
# Bytes in words

Words of `k` bytes hold a sequence of bytes, the most significant one of each word first. The bytes are put in
one after the other.
-/

namespace WordBytes

open PackedWord

/-- A byte shifted to its place. -/
def put (s : ℕ) (b : UInt8) : UInt32 := b.toUInt32 <<< UInt32.ofNat s

def get (s : ℕ) (w : UInt32) : UInt8 := (w >>> UInt32.ofNat s).toUInt8

/-- Where byte `i` of a sequence is in its word -/
def place (k i : ℕ) : ℕ := 8 * (k - 1 - i % k)

def load (k : ℕ) (ws : List UInt32) (i : ℕ) : UInt8 := get (place k i) (ws.getD (i / k) 0)

def store (k : ℕ) (ws : List UInt32) (i : ℕ) (b : UInt8) : List UInt32 :=
  ws.set (i / k) (ws.getD (i / k) 0 ||| put (place k i) b)

/-- The bytes of one word -/
def bytes (k : ℕ) (w : UInt32) : List UInt8 := (List.range k).map fun j => get (8 * (k - 1 - j)) w

variable {k s t i j m : ℕ} {a b : UInt8} {w : UInt32} {ws : List UInt32} {data : List UInt8}

lemma get_eq_unpack : get s w = (unpack s 8 w).toUInt8 := by
  apply UInt8.toNat_inj.mp
  rw [get, unpack, UInt32.toNat_toUInt8, UInt32.toNat_toUInt8, UInt32.toNat_and]
  change _ = (_ &&& (2 ^ 8 - 1)) % 256
  rw [Nat.and_two_pow_sub_one_eq_mod, Nat.mod_mod]

lemma fits (hs : s + 8 ≤ 32) : Slot.Fits ⟨s, 8, b.toUInt32⟩ := by
  have hval : b.toUInt32.toNat < 2 ^ 8 := by
    rw [UInt8.toNat_toUInt32]
    exact b.toNat_lt
  have hwidth : 8 < 32 := by decide
  have hoffset : s < 32 := by omega
  exact ⟨hval, hwidth, hs, hoffset⟩

lemma toUInt8_or (v : UInt32) : (w ||| v).toUInt8 = w.toUInt8 ||| v.toUInt8 := by
  apply UInt8.toNat_inj.mp
  rw [UInt32.toNat_toUInt8, UInt32.toNat_or, UInt8.toNat_or, UInt32.toNat_toUInt8, UInt32.toNat_toUInt8]
  exact Nat.or_mod_two_pow (n := 8)

lemma get_or_put_self (hs : s + 8 ≤ 32) : get s (w ||| put s b) = get s w ||| b := by
  have hself : unpack s 8 (put s b) = b.toUInt32 := unpack_shift_self (f := ⟨s, 8, b.toUInt32⟩) (fits hs)
  rw [get_eq_unpack, unpack_or, toUInt8_or, hself, ← get_eq_unpack, UInt8.toUInt8_toUInt32]

lemma get_or_put_apart (hs : s + 8 ≤ 32) (ht : t + 8 ≤ 32) (hapart : Apart t 8 s 8) :
    get t (w ||| put s b) = get t w := by
  have hoffset : t < 32 := by lia
  have hzero : unpack t 8 (put s b) = 0 :=
    unpack_shift_apart (f := ⟨s, 8, b.toUInt32⟩) (fits hs) hoffset (by decide) hapart
  rw [get_eq_unpack, unpack_or, hzero, UInt32.or_zero, ← get_eq_unpack]

lemma place_le (hk : k ≤ 4) : place k i + 8 ≤ 32 := by
  rcases k.eq_zero_or_pos with rfl | hpos
  · simp [place]
  · rw [place]
    lia

lemma place_apart (hij : i % k ≠ j % k) (hpos : 0 < k) : Apart (place k j) 8 (place k i) 8 := by
  have hi := Nat.mod_lt i hpos
  have hj := Nat.mod_lt j hpos
  rw [Apart, place, place]
  lia

@[simp] lemma length_store : (store k ws i b).length = ws.length := List.length_set ..

lemma load_zeros (n : ℕ) : load k (List.replicate n 0) i = 0 := by
  have hword : (List.replicate n (0 : UInt32)).getD (i / k) 0 = 0 := by
    rw [List.getD_eq_getElem?_getD, List.getElem?_replicate]
    split <;> rfl
  rw [load, hword, get, UInt32.zero_shiftRight]
  rfl

lemma load_store_self (hk : k ≤ 4) (hi : i / k < ws.length) :
    load k (store k ws i b) i = load k ws i ||| b := by
  rw [load, store, List.getD_eq_getElem?_getD, List.getElem?_set_self hi, Option.getD_some,
    get_or_put_self (place_le hk)]
  rfl

lemma load_store_ne (hk : k ≤ 4) (hpos : 0 < k) (hij : i ≠ j) :
    load k (store k ws i b) j = load k ws j := by
  by_cases hword : i / k = j / k
  · by_cases hlt : i / k < ws.length
    · have hmod : i % k ≠ j % k := by
        intro hmod
        apply hij
        rw [← Nat.div_add_mod i k, ← Nat.div_add_mod j k, hword, hmod]
      rw [load, store, ← hword, List.getD_eq_getElem?_getD, List.getElem?_set_self hlt, Option.getD_some,
        get_or_put_apart (place_le hk) (place_le hk) (place_apart hmod hpos), load, ← hword]
    · rw [store, List.set_eq_of_length_le (Nat.le_of_not_lt hlt)]
  · rw [load, store, List.getD_eq_getElem?_getD, List.getElem?_set_ne hword, ← List.getD_eq_getElem?_getD]
    rfl

/-- The words hold the first `m` bytes of a sequence and nothing else. -/
structure Holds (k m : ℕ) (data : List UInt8) (ws : List UInt32) : Prop where
  load_eq : ∀ i, load k ws i = if i < m then data.getD i 0 else 0
  lt : ∀ w ∈ ws, w.toNat < 2 ^ (8 * k)

lemma holds_zeros (n : ℕ) : Holds k 0 data (List.replicate n 0) := by
  constructor
  · intro i
    rw [load_zeros, if_neg (Nat.not_lt_zero i)]
  · intro w hw
    rw [List.eq_of_mem_replicate hw]
    exact Nat.two_pow_pos _

lemma put_lt (hk : k ≤ 4) (hpos : 0 < k) : (put (place k i) b).toNat < 2 ^ (8 * k) := by
  have hle := place_le (i := i) hk
  have hplace : place k i + 8 ≤ 8 * k := by
    rw [place]
    lia
  have hb := b.toNat_lt
  rw [put, UInt32.toNat_shiftLeft, toNat_ofNat_mod (by omega), UInt8.toNat_toUInt32, Nat.shiftLeft_eq]
  calc b.toNat * 2 ^ place k i % 2 ^ 32 ≤ b.toNat * 2 ^ place k i := Nat.mod_le _ _
    _ < 2 ^ 8 * 2 ^ place k i := Nat.mul_lt_mul_of_pos_right hb (Nat.two_pow_pos _)
    _ = 2 ^ (place k i + 8) := by rw [← Nat.pow_add, Nat.add_comm]
    _ ≤ 2 ^ (8 * k) := Nat.pow_le_pow_right (by decide) hplace

lemma Holds.store (h : Holds k m data ws) (hk : k ≤ 4) (hpos : 0 < k) (hm : m / k < ws.length) :
    Holds k (m + 1) data (store k ws m (data.getD m 0)) := by
  constructor
  · intro i
    by_cases hi : i = m
    · subst hi
      rw [load_store_self hk hm, h.load_eq, if_neg (Nat.lt_irrefl i), if_pos (Nat.lt_succ_self i), UInt8.zero_or]
    · rw [load_store_ne hk hpos (Ne.symm hi), h.load_eq]
      by_cases hlt : i < m
      · rw [if_pos hlt, if_pos (hlt.trans (Nat.lt_succ_self m))]
      · rw [if_neg hlt, if_neg (by lia)]
  · intro w hw
    rcases List.mem_or_eq_of_mem_set hw with hmem | rfl
    · exact h.lt w hmem
    · have hold : (ws.getD (m / k) 0).toNat < 2 ^ (8 * k) := by
        rw [List.getD_eq_getElem _ _ hm]
        exact h.lt _ (List.getElem_mem hm)
      rw [UInt32.toNat_or]
      exact Nat.or_lt_two_pow hold (put_lt hk hpos)

lemma bytes_getElem (hpos : 0 < k) (hj : j < k) :
    get (8 * (k - 1 - j)) (ws.getD i 0) = load k ws (k * i + j) := by
  have hdiv : (k * i + j) / k = i := by rw [Nat.mul_add_div hpos, Nat.div_eq_of_lt hj, Nat.add_zero]
  have hmod : (k * i + j) % k = j := by rw [Nat.mul_add_mod, Nat.mod_eq_of_lt hj]
  rw [load, place, hdiv, hmod]

lemma flatMap_bytes (hpos : 0 < k) (ws : List UInt32) :
    ws.flatMap (bytes k) = (List.range (k * ws.length)).map (load k ws) := by
  induction ws using List.reverseRecOn with
  | nil => rfl
  | append_singleton ws w ih =>
    have hold : (List.range (k * ws.length)).map (load k (ws ++ [w])) = (List.range (k * ws.length)).map (load k ws) := by
      apply List.map_congr_left
      intro i hi
      have hlt : i / k < ws.length := Nat.div_lt_of_lt_mul (List.mem_range.mp hi)
      rw [load, load, List.getD_append _ _ _ _ hlt]
    have hnew : bytes k w = (List.range k).map fun j => load k (ws ++ [w]) (k * ws.length + j) := by
      apply List.map_congr_left
      intro j hj
      rw [← bytes_getElem hpos (List.mem_range.mp hj), List.getD_append_right _ _ _ _ (Nat.le_refl _), Nat.sub_self]
      rfl
    rw [List.flatMap_append, ih, List.length_append, List.length_singleton, Nat.mul_add, Nat.mul_one, List.range_add,
      List.map_append, hold, List.map_map, List.flatMap_cons, List.flatMap_nil, List.append_nil, hnew]
    rfl

/-- The words contain the bytes and are filled with zeros. -/
theorem Holds.bytes_eq (h : Holds k data.length data ws) (hpos : 0 < k) (hlen : data.length ≤ k * ws.length) :
    ws.flatMap (bytes k) = data ++ List.replicate (k * ws.length - data.length) 0 := by
  rw [flatMap_bytes hpos]
  apply List.ext_getElem
  · simp [Nat.add_sub_cancel' hlen]
  · intro i h₁ h₂
    rw [List.getElem_map, List.getElem_range, h.load_eq]
    by_cases hi : i < data.length
    · rw [if_pos hi, List.getElem_append_left hi, List.getD_eq_getElem _ _ hi]
    · rw [if_neg hi, List.getElem_append_right (Nat.le_of_not_lt hi), List.getElem_replicate]

end WordBytes
