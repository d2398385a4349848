import NoOS.Drivers.SpiEngine
import Mathlib.Algebra.Order.Floor.Div

/-!
# The loops over the bytes of a message

Up to 255 bytes are packed into words and unpacked again. A counter of 8 bits never reaches a larger bound.
-/

namespace NoOS.SpiEngine

open WordBytes

/-- The words of the engine have `k` bytes. -/
structure WordOf (e : SpiEngine) (k : ℕ) : Prop where
  dataWidth : e.dataWidth.toNat = 8 * k
  pos : 0 < k
  le : k ≤ 4

variable {e : SpiEngine} {k m fuel : ℕ} {n : UInt16} {i : UInt8} {data : List UInt8} {ws : List UInt32}

lemma WordOf.lenght (h : e.WordOf k) : e.getWordLenght.toNat = k := by
  rw [getWordLenght, UInt8.toNat_div, h.dataWidth]
  exact Nat.mul_div_cancel_left k (by decide)

lemma WordOf.index (h : e.WordOf k) : (i / e.getWordLenght).toNat = i.toNat / k := by
  rw [UInt8.toNat_div, h.lenght]

lemma WordOf.shift_eq (h : e.WordOf k) : e.shift i = place k i.toNat := by
  have hlt := Nat.mod_lt i.toNat h.pos
  rw [shift, UInt8.toNat_mod, h.lenght, h.dataWidth, place]
  lia

lemma toNat_wordsNumber (hlen : e.getWordLenght.toNat = k) (hpos : 0 < k) (b : UInt8) :
    (e.getWordsNumber b).toNat = b.toNat ⌈/⌉ k := by
  have hb := b.toNat_lt
  rw [getWordLenght] at hlen
  have hdiv := Nat.div_add_mod b.toNat k
  have hmod := Nat.mod_lt b.toNat hpos
  have hrem : b % (e.dataWidth / 8) ≠ 0 ↔ b.toNat % k ≠ 0 := by
    rw [Ne, ← UInt8.toNat_inj, UInt8.toNat_mod, hlen]
    rfl
  rw [getWordsNumber, Nat.ceilDiv_eq_add_pred_div]
  by_cases hzero : b.toNat % k = 0
  · have heq : b.toNat + k - 1 = k * (b.toNat / k) + (k - 1) := by lia
    rw [if_neg (fun hne => hrem.mp hne hzero), UInt8.toNat_div, hlen, heq, Nat.mul_add_div hpos,
      Nat.div_eq_of_lt (Nat.sub_lt hpos Nat.one_pos), Nat.add_zero]
  · have heq : b.toNat + k - 1 = k * (b.toNat / k + 1) + (b.toNat % k - 1) := by
      rw [Nat.mul_add]
      lia
    have hle : b.toNat / k < 255 := by
      have hk : 2 ≤ k := by
        by_contra hlt
        obtain rfl : k = 1 := by lia
        exact hzero (Nat.mod_one _)
      have hhalf : b.toNat / k ≤ b.toNat / 2 := Nat.div_le_div_left hk Nat.two_pos
      lia
    rw [if_pos (hrem.mpr hzero), UInt8.toNat_add, UInt8.toNat_div, hlen, heq, Nat.mul_add_div hpos,
      Nat.div_eq_of_lt (a := b.toNat % k - 1) (by lia)]
    change (b.toNat / k + 1) % 2 ^ 8 = _
    rw [Nat.mod_eq_of_lt (by lia), Nat.add_zero]

lemma WordOf.wordsNumber (h : e.WordOf k) (b : UInt8) : (e.getWordsNumber b).toNat = b.toNat ⌈/⌉ k :=
  toNat_wordsNumber h.lenght h.pos b

lemma le_mul_wordsNumber (hpos : 0 < k) : m ≤ k * (m ⌈/⌉ k) := by
  have hle : m ⌈/⌉ k ≤ m ⌈/⌉ k := le_rfl
  rwa [ceilDiv_le_iff_le_smul hpos, smul_eq_mul] at hle

lemma index_lt_wordsNumber (hpos : 0 < k) {i : ℕ} (hi : i < m) : i / k < m ⌈/⌉ k := by
  rw [Nat.div_lt_iff_lt_mul hpos, Nat.mul_comm]
  exact hi.trans_le (le_mul_wordsNumber hpos)

lemma toNat_succ (hi : i.toNat < n.toNat) (hn : n.toNat ≤ 255) : (i + 1).toNat = i.toNat + 1 := by
  rw [UInt8.toNat_add]
  exact Nat.mod_eq_of_lt (by change i.toNat + 1 < _; lia)

lemma toUInt16_lt : i.toUInt16 < n ↔ i.toNat < n.toNat := by
  rw [UInt16.lt_iff_toNat_lt, UInt8.toNat_toUInt16]

lemma packLoop_ok (h : e.WordOf k) (hn : n.toNat ≤ 255) (hdata : data.length = n.toNat)
    (hlen : ws.length = n.toNat ⌈/⌉ k) (hi : i.toNat ≤ n.toNat) (hfuel : n.toNat - i.toNat < fuel)
    (hws : Holds k i.toNat data ws) :
    ∃ tx, e.packLoop data n fuel i ws = .ok tx ∧ tx.length = ws.length ∧ Holds k n.toNat data tx := by
  induction fuel generalizing i ws with
  | zero => exact absurd hfuel (Nat.not_lt_zero _)
  | succ fuel ih =>
    rw [packLoop]
    by_cases hlt : i.toNat < n.toNat
    · have hword : i.toNat / k < ws.length := by
        rw [hlen]
        exact index_lt_wordsNumber h.pos hlt
      have hbyte : i.toNat < data.length := by rwa [hdata]
      have hsucc := toNat_succ hlt hn
      have hnext : Holds k (i + 1).toNat data (store k ws i.toNat (data.getD i.toNat 0)) := by
        rw [hsucc]
        exact hws.store h.le h.pos hword
      obtain ⟨tx, hrun, htx, hholds⟩ := ih (by rw [length_store, hlen]) (by lia) (by lia) hnext
      refine ⟨tx, ?_, by rw [htx, length_store], hholds⟩
      rw [if_pos (toUInt16_lt.mpr hlt), h.index, List.getElem?_eq_getElem hword, List.getElem?_eq_getElem hbyte, ← hrun,
        store, List.getD_eq_getElem _ _ hword, List.getD_eq_getElem _ _ hbyte, put, h.shift_eq]
    · have heq : i.toNat = n.toNat := by lia
      rw [if_neg (fun hle => hlt (toUInt16_lt.mp hle))]
      exact ⟨ws, rfl, rfl, heq ▸ hws⟩

lemma unpackLoop_ok (h : e.WordOf k) (hn : n.toNat ≤ 255) (hdata : data.length = n.toNat)
    (hlen : ws.length = n.toNat ⌈/⌉ k) (hi : i.toNat ≤ n.toNat) (hfuel : n.toNat - i.toNat < fuel) :
    e.unpackLoop ws n fuel i data = .ok (data.take i.toNat ++
      (List.range (n.toNat - i.toNat)).map fun j => load k ws (i.toNat + j)) := by
  induction fuel generalizing i data with
  | zero => exact absurd hfuel (Nat.not_lt_zero _)
  | succ fuel ih =>
    rw [unpackLoop]
    by_cases hlt : i.toNat < n.toNat
    · have hword : i.toNat / k < ws.length := by
        rw [hlen]
        exact index_lt_wordsNumber h.pos hlt
      have hbyte : i.toNat < data.length := by rwa [hdata]
      have hsucc := toNat_succ hlt hn
      have hleft : n.toNat - i.toNat = n.toNat - (i.toNat + 1) + 1 := by lia
      have htake : (data.set i.toNat (load k ws i.toNat)).take (i.toNat + 1) =
          data.take i.toNat ++ [load k ws i.toNat] := by
        rw [List.take_succ_eq_append_getElem (by rwa [List.length_set]), List.getElem_set_self,
          List.take_set_of_le (Nat.le_refl _)]
      have hbyte' : (ws[i.toNat / k] >>> UInt32.ofNat (e.shift i)).toUInt8 = load k ws i.toNat := by
        rw [load, List.getD_eq_getElem _ _ hword, WordBytes.get, h.shift_eq]
      rw [if_pos (toUInt16_lt.mpr hlt), h.index, List.getElem?_eq_getElem hword, List.getElem?_eq_getElem hbyte]
      dsimp only
      rw [hbyte', ih (by rw [List.length_set, hdata]) (by lia) (by lia), hsucc, htake, hleft, List.range_succ_eq_map,
        List.map_cons, List.map_map, List.append_assoc, List.singleton_append]
      have hshift : ((fun j => load k ws (i.toNat + j)) ∘ Nat.succ) = fun j => load k ws (i.toNat + 1 + j) := by
        funext j
        rw [Function.comp_apply, Nat.succ_eq_add_one, Nat.add_right_comm, Nat.add_assoc]
      rw [hshift]
      rfl
    · have heq : i.toNat = n.toNat := by lia
      rw [if_neg (fun hle => hlt (toUInt16_lt.mp hle)), heq, Nat.sub_self, ← hdata, List.take_length, List.range_zero,
        List.map_nil, List.append_nil]

lemma packLoop_not_ok (hn : 256 ≤ n.toNat) {tx : List UInt32} : e.packLoop data n fuel i ws ≠ .ok tx := by
  induction fuel generalizing i ws with
  | zero =>
    rw [packLoop]
    exact fun h => nomatch h
  | succ fuel ih =>
    have hlt : i.toNat < n.toNat := i.toNat_lt.trans_le hn
    rw [packLoop, if_pos (toUInt16_lt.mpr hlt)]
    split
    · exact ih
    · exact fun h => nomatch h

end NoOS.SpiEngine
