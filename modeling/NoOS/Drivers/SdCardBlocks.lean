import NoOS.Drivers.SdCard
import NoOS.Lib.BlockRange

/-!
# Blocks and offsets of the SD card driver

The index arithmetic of the driver, in words of 64, 32 and 16 bits, does not wrap where it
matters: on a card of at most 1 TB it computes the blocks of a range of bytes, also of an empty
one.
-/

namespace NoOS
open BlockRange

variable {address len x : UInt64} {i : ℕ}

lemma SdDesc.toNat_memorySize (desc : SdDesc) :
    desc.memorySize.toNat ≤ 2 ^ 40 ∧ desc.memorySize.toNat % 512 = 0 := by
  obtain ⟨cSize, hlt, heq⟩ := desc.size_eq
  rw [heq]
  lia

lemma SdDesc.add_le_of_not_refuses {desc : SdDesc} (h : ¬desc.Refuses address len) :
    address.toNat + len.toNat ≤ desc.memorySize.toNat := by
  obtain ⟨haddr, hlen, hsum⟩ : ¬_ ∧ ¬_ ∧ ¬_ := by simpa only [SdDesc.Refuses, not_or] using h
  obtain ⟨hmem, -⟩ := desc.toNat_memorySize
  rw [gt_iff_lt, UInt64.lt_iff_toNat_lt] at haddr hlen hsum
  rw [UInt64.toNat_add] at hsum
  lia

lemma toNat_and_addr : (x &&& MASK_ADDR_IN_BLOCK).toNat = x.toNat % 512 :=
  Nat.and_two_pow_sub_one_eq_mod x.toNat 9

lemma toNat_and_block : (x &&& MASK_BLOCK_NUMBER).toNat = 512 * (x.toNat / 512) := by
  have hdisjoint : (x &&& MASK_BLOCK_NUMBER).toBitVec &&& (x &&& MASK_ADDR_IN_BLOCK).toBitVec = 0 := by
    ext k
    simp only [MASK_BLOCK_NUMBER, UInt64.toBitVec_and, UInt64.toBitVec_not, BitVec.getElem_and,
      BitVec.getElem_not]
    grind
  have hor : (x &&& MASK_BLOCK_NUMBER).toBitVec ||| (x &&& MASK_ADDR_IN_BLOCK).toBitVec =
      x.toBitVec := by
    ext k
    simp only [MASK_BLOCK_NUMBER, UInt64.toBitVec_and, UInt64.toBitVec_not, BitVec.getElem_and,
      BitVec.getElem_or, BitVec.getElem_not]
    grind
  have hsum := BitVec.toNat_add_of_and_eq_zero hdisjoint
  rw [BitVec.add_eq_or_of_and_eq_zero _ _ hdisjoint, hor] at hsum
  have haddr := toNat_and_addr (x := x)
  simp only [UInt64.toNat_toBitVec] at hsum
  lia

lemma toNat_shiftRight : (x >>> 9).toNat = x.toNat / 512 := by
  rw [UInt64.toNat_shiftRight]
  exact Nat.shiftRight_eq_div_pow _ 9

/-- The last byte of the range, which is the one before it when the range is empty. -/
lemma toNat_last :
    (address + len - 1).toNat = (address.toNat + len.toNat + (2 ^ 64 - 1)) % 2 ^ 64 := by
  rw [UInt64.toNat_sub, UInt64.toNat_add]
  change (2 ^ 64 - 1 + _) % 2 ^ 64 = _
  lia

/-- The difference of two block numbers in the arithmetic of the driver. -/
lemma wrapped_blocks {p q : ℕ} (hle : q ≤ p + 1) (hnear : p ≤ q + 2 ^ 31) (hq : q ≤ 2 ^ 40) :
    ((2 ^ 64 - q + p) % 2 ^ 64 + 1) % 2 ^ 64 % 2 ^ 32 = p + 1 - q := by
  obtain ⟨d, hd⟩ := Nat.exists_eq_add_of_le hle
  have hsum : 2 ^ 64 - q + p + 1 = d + 2 ^ 64 := by lia
  rw [Nat.mod_add_mod, hsum, Nat.add_mod_right, Nat.mod_eq_of_lt (by lia), Nat.mod_eq_of_lt (by lia)]
  lia

lemma toNat_getNbOfBlocks (h : address.toNat + len.toNat ≤ 2 ^ 40) :
    (getNbOfBlocks address len).toNat = count 512 address.toNat len.toNat := by
  have hlast := @toNat_last address len
  rw [getNbOfBlocks, UInt64.toNat_toUInt32, UInt64.toNat_add, UInt64.toNat_sub, toNat_shiftRight,
    toNat_shiftRight, hlast, count]
  change ((2 ^ 64 - _ + _) % 2 ^ 64 + 1) % 2 ^ 64 % 2 ^ 32 = _
  rcases Nat.eq_zero_or_pos (address.toNat + len.toNat) with hnone | hpos
  · obtain ⟨ha, hl⟩ := Nat.add_eq_zero_iff.mp hnone
    rw [ha, hl]
    rfl
  · have hend : (address.toNat + len.toNat + (2 ^ 64 - 1)) % 2 ^ 64 = address.toNat + len.toNat - 1 := by lia
    rw [hend, wrapped_blocks (by lia) (by lia) (by lia)]
    split_ifs with hlen hzero
    · lia
    · lia
    · lia

lemma toNat_buffFirstIdx (i : ℕ) : (buffFirstIdx address i).toNat = first 512 address.toNat i := by
  unfold buffFirstIdx first
  split
  · rw [UInt64.toNat_toUInt16, toNat_and_addr]
    lia
  · rfl

/-- The block index of the driver's comparison with the last block. -/
lemma toNat_getNbOfBlocks_sub_one (h : address.toNat + len.toNat ≤ 2 ^ 40)
    (hi : i < count 512 address.toNat len.toNat) :
    (getNbOfBlocks address len - 1).toNat = count 512 address.toNat len.toNat - 1 := by
  have hnb := toNat_getNbOfBlocks h
  rw [UInt32.toNat_sub_of_le _ _ (UInt32.le_iff_toNat_le.mpr _), hnb]
  · rfl
  · rw [hnb]
    exact Nat.one_le_of_lt hi

/-- The last byte of the range ends its part of the last block, also when that part is empty. -/
lemma toNat_last_mod (h : address.toNat + len.toNat ≤ 2 ^ 40)
    (hi : i + 1 = count 512 address.toNat len.toNat) :
    (address + len - 1).toNat % 512 + 1 =
      first 512 address.toNat i + size 512 address.toNat len.toNat i := by
  have hend := @toNat_last address len
  have hadd := add_before (a := address.toNat) (i := i) (by decide : 0 < 512)
  have hsum := before_last (by decide : 0 < 512) hi
  rcases Nat.eq_zero_or_pos len.toNat with hzero | hpos
  · have hi' := hi
    rw [count, if_pos hzero] at hi'
    split at hi'
    · lia
    · obtain rfl : i = 0 := by lia
      rw [first, if_pos rfl]
      lia
  · have hlast := last_eq (B := 512) (a := address.toNat) hpos.ne'
    obtain rfl : i = count 512 address.toNat len.toNat - 1 := by lia
    have hmod : (address + len - 1).toNat = address.toNat + len.toNat - 1 := by
      rw [hend]
      lia
    rw [hmod]
    lia

lemma toNat_buffCopyLen (h : address.toNat + len.toNat ≤ 2 ^ 40)
    (hi : i < count 512 address.toNat len.toNat) :
    (buffCopyLen address len i).toNat = size 512 address.toNat len.toNat i := by
  have hfirst := @toNat_buffFirstIdx address i
  have hle := size_add_first_le (by decide) hi
  rw [buffCopyLen, toNat_getNbOfBlocks_sub_one h hi]
  split_ifs with hlast
  · have hend := toNat_last_mod h (by lia : i + 1 = count 512 address.toNat len.toNat)
    rw [UInt64.toNat_toUInt16, UInt64.toNat_add, UInt64.toNat_sub, toNat_and_addr,
      UInt16.toNat_toUInt64, hfirst]
    change ((2 ^ 64 - _ + _) % 2 ^ 64 + 1) % 2 ^ 64 % 2 ^ 16 = _
    omega
  · rw [size, if_neg (by lia), UInt16.toNat_sub_of_le _ _ (UInt16.le_iff_toNat_le.mpr _), hfirst]
    · rfl
    · rw [hfirst]
      change _ ≤ 512
      lia

lemma readsFirst_iff :
    ReadsFirst address len ↔ address.toNat % 512 ≠ 0 ∨ len.toNat < 512 := by
  have hand := toNat_and_addr (x := address)
  have hzero : address &&& MASK_ADDR_IN_BLOCK = 0 ↔ address.toNat % 512 = 0 := by
    rw [← hand]
    exact UInt64.toNat_inj.symm
  have hlen : len < 512 ↔ len.toNat < 512 := UInt64.lt_iff_toNat_lt
  rw [ReadsFirst, Ne, hzero, hlen]
  tauto

/-- The last block is read when it is not the first one and some of it is not written. -/
lemma readsLast_iff (h : address.toNat + len.toNat ≤ 2 ^ 40) :
    ReadsLast address len ↔ 1 < count 512 address.toNat len.toNat ∧
      (address.toNat + len.toNat) % 512 ≠ 0 := by
  have hend := @toNat_last address len
  have hblock : (address + len - 1) &&& MASK_BLOCK_NUMBER = address &&& MASK_BLOCK_NUMBER ↔
      (address + len - 1).toNat / 512 = address.toNat / 512 := by
    rw [← UInt64.toNat_inj, toNat_and_block, toNat_and_block]
    lia
  have hmask : (address + len - 1) &&& MASK_ADDR_IN_BLOCK = MASK_ADDR_IN_BLOCK ↔
      (address + len - 1).toNat % 512 = 511 := by
    rw [← UInt64.toNat_inj, toNat_and_addr]
    exact Iff.rfl
  rw [ReadsLast, Ne, Ne, hblock, hmask, hend, count]
  rcases Nat.eq_zero_or_pos (address.toNat + len.toNat) with hzero | hpos
  · rw [hzero, if_pos (by lia)]
    split <;> lia
  · have hmod : (address.toNat + len.toNat + (2 ^ 64 - 1)) % 2 ^ 64 =
        address.toNat + len.toNat - 1 := by
      lia
    rw [hmod]
    split_ifs <;> lia

end NoOS
