import NoOS.Drivers.Ad9528Port

/-!
# Registers of several bytes in the AD9528, the AD9523 and the AD9517

The encoded address of a register holds its length above bit 16 and the address of its last byte below. A byte is moved by
a transfer of three bytes, the upper bytes of the value first. The device is a map from addresses of 12 bits to bytes.
-/

namespace NoOS

namespace ClockTransfers
open Ad9528

abbrev Mem : Type := UInt32 → UInt8

/-- The three bytes of a transfer. -/
structure Buf where
  buf0 : UInt8
  buf1 : UInt8
  buf2 : UInt8

/-- The address that the device sees. -/
def Buf.addr (b : Buf) : UInt32 := ((b.buf0 &&& 0x0F).toUInt32 <<< 8) ||| b.buf1.toUInt32

/-- The third byte after `spi_write_and_read`, and the device. The top bit of the first byte is set for a read, and every
transfer succeeds. -/
def spiWriteAndRead (b : Buf) (mem : Mem) : UInt8 × Mem :=
  if b.buf0 &&& 0x80 ≠ 0 then (mem b.addr, mem) else (b.buf2, Function.update mem b.addr b.buf2)

/-! ### Loops that decrement the encoded address

The index is a byte and the length is taken from the address again in every pass. -/

lemma toNat_pred_lt {regAddr : UInt32} {index : UInt8} (h : index.toUInt32 < AD9528_TRANSF_LEN regAddr) :
    (regAddr - 1).toNat < regAddr.toNat := by
  have hne : regAddr ≠ 0 := by
    rintro rfl
    exact absurd (UInt32.lt_iff_toNat_lt.mp h) (Nat.not_lt_zero _)
  have hsub := Word.toNat_sub_one_add_one hne
  omega

/-- `for(index = 0; index < TRANSF_LEN(reg_addr); index++)` of a read, with `*reg_data`. -/
def readLoop (regAddr : UInt32) (index : UInt8) (regData : UInt32) (mem : Mem) : UInt32 × Mem :=
  if index.toUInt32 < AD9528_TRANSF_LEN regAddr then
    let r := spiWriteAndRead ⟨(0x80 : UInt8) ||| (regAddr >>> 8).toUInt8, (regAddr &&& 0xFF).toUInt8, 0x00⟩ mem
    readLoop (regAddr - 1) (index + 1) ((regData <<< 8) ||| r.1.toUInt32) r.2
  else (regData, mem)
termination_by regAddr.toNat
decreasing_by exact toNat_pred_lt ‹_›

/-- The loop of a write. -/
def writeLoop (regAddr : UInt32) (index : UInt8) (regData : UInt32) (mem : Mem) : Mem :=
  if index.toUInt32 < AD9528_TRANSF_LEN regAddr then
    let r := spiWriteAndRead ⟨(regAddr >>> 8).toUInt8, (regAddr &&& 0xFF).toUInt8,
      ((regData >>> ((AD9528_TRANSF_LEN regAddr - index.toUInt32 - 1) * 8)) &&& 0xFF).toUInt8⟩ mem
    writeLoop (regAddr - 1) (index + 1) regData r.2
  else mem
termination_by regAddr.toNat
decreasing_by exact toNat_pred_lt ‹_›

/-! ### Loops with an address of their own

They are not left for lengths from 256 on, since the index is a byte. With `k` passes left the shift is by `k - 1`
bytes. -/

def readPasses : (k : ℕ) → (regAddress regValue : UInt32) → Mem → UInt32 × Mem
  | 0, _, regValue, mem => (regValue, mem)
  | k + 1, regAddress, regValue, mem =>
    let r := spiWriteAndRead ⟨((regAddress &&& 0xFF00) >>> 8).toUInt8, (regAddress &&& 0x00FF).toUInt8, 0⟩ mem
    readPasses k (regAddress - 1) ((regValue <<< 8) ||| r.1.toUInt32) r.2

def writePasses : (k : ℕ) → (regAddress : UInt16) → (regVal : UInt16) → Mem → Mem
  | 0, _, _, mem => mem
  | k + 1, regAddress, regVal, mem =>
    let regValue := ((regVal.toUInt32 >>> UInt32.ofNat (8 * k)) &&& 0xFF).toUInt8
    let r := spiWriteAndRead ⟨((regAddress &&& 0xFF00) >>> 8).toUInt8, (regAddress &&& 0x00FF).toUInt8, regValue⟩ mem
    writePasses k (regAddress - 1) regVal r.2

end ClockTransfers
open ClockTransfers

/-- The transfer of `ad9528_spi_read`. -/
def ad9528SpiReadBuf (regAddr : UInt32) : Buf := ⟨(0x80 : UInt8) ||| (regAddr >>> 8).toUInt8, (regAddr &&& 0xFF).toUInt8, 0x00⟩

/-- The transfer of `ad9528_spi_write`, where the cast comes before the shift. -/
def ad9528SpiWriteBuf (regAddr regData : UInt32) : Buf :=
  ⟨(regAddr.toUInt8.toUInt32 >>> 8).toUInt8, (regAddr.toUInt8.toUInt32 &&& 0xFF).toUInt8, regData.toUInt8⟩

/-- The result variable is set to 0 first. -/
def ad9528SpiReadN (regAddr _regData : UInt32) (mem : Mem) : UInt32 × Mem := readLoop regAddr 0 0 mem
def ad9528SpiWriteN (regAddr regData : UInt32) (mem : Mem) : Mem := writeLoop regAddr 0 regData mem
def ad9523SpiRead (regAddr _regData : UInt32) (mem : Mem) : UInt32 × Mem := readLoop regAddr 0 0 mem
def ad9523SpiWrite (regAddr regData : UInt32) (mem : Mem) : Mem := writeLoop regAddr 0 regData mem

def AD9517_READ : UInt32 := (1 : UInt32) <<< 15
def AD9517_WRITE : UInt32 := (0 : UInt32) <<< 15
def AD9517_ADDR (x : UInt32) : UInt32 := x &&& 0x3FF
def AD9517_TRANSF_LEN (x : UInt32) : UInt32 := x >>> 16

/-- The result variable is not set before the first byte is joined to it. -/
def ad9517Read (regAddr regValue : UInt32) (mem : Mem) : UInt32 × Mem :=
  readPasses (AD9517_TRANSF_LEN regAddr).toNat (AD9517_READ + AD9517_ADDR regAddr) regValue mem

def ad9517Write (regAddr : UInt32) (regVal : UInt16) (mem : Mem) : Mem :=
  writePasses (AD9517_TRANSF_LEN regAddr).toNat (AD9517_WRITE + AD9517_ADDR regAddr).toUInt16 regVal mem

namespace ClockTransfers
open Ad9528

/-- The encoded address of the register with `n` bytes from the address `x` on. -/
def encode (n : ℕ) (x : UInt32) : UInt32 := (UInt32.ofNat n <<< 16) ||| (x + UInt32.ofNat (n - 1))

example (x : UInt32) : encode 1 x = AD9528_1B x ∧ encode 2 x = AD9528_2B x ∧ encode 3 x = AD9528_3B x ∧
    encode 4 x = AD9528_4B x := ⟨rfl, rfl, rfl, rfl⟩

/-- The device with the register of `n` bytes from `x` on set to `v`, the upper byte at the highest address. -/
def withRegister (n x v : ℕ) (mem : Mem) : Mem :=
  fun a => if x ≤ a.toNat ∧ a.toNat < x + n then UInt8.ofNat (v / 256 ^ (a.toNat - x)) else mem a

/-- A write of a value that fits sets the bytes of the register and no others, and a read returns it, whatever the result
variable held before. -/
structure RoundTrip (n x v : ℕ) (write : Mem → Mem) (read : Mem → UInt32 × Mem) : Prop where
  stored : ∀ mem, write mem = withRegister n x v mem
  same : ∀ mem, read (write mem) = (UInt32.ofNat v, write mem)

variable {n k X v : ℕ} {r x data acc : UInt32} {index : UInt8} {mem : Mem}

lemma toNat_addr (b : Buf) : b.addr.toNat = b.buf0.toNat % 16 * 256 + b.buf1.toNat := by
  have hb := b.buf1.toNat_lt
  have hshift : (8 : UInt32).toNat % 32 = 8 := rfl
  have hmask : (b.buf0 &&& 0x0F).toNat = b.buf0.toNat % 16 := by
    rw [UInt8.toNat_and]
    exact Nat.and_two_pow_sub_one_eq_mod _ 4
  have hmod : (b.buf0.toNat % 16) <<< 8 % 2 ^ 32 = (b.buf0.toNat % 16) <<< 8 := by
    rw [Nat.shiftLeft_eq]
    lia
  rw [Buf.addr, UInt32.toNat_or, UInt32.toNat_shiftLeft, hshift, UInt8.toNat_toUInt32, UInt8.toNat_toUInt32, hmask, hmod,
    ← Nat.shiftLeft_add_eq_or_of_lt (by omega), Nat.shiftLeft_eq]

lemma toNat_high (r : UInt32) : (r >>> 8).toUInt8.toNat = r.toNat / 256 % 256 := by
  rw [UInt32.toNat_toUInt8, UInt32.toNat_shiftRight, Nat.shiftRight_eq_div_pow]
  rfl

lemma toNat_low (r : UInt32) : (r &&& 0xFF).toUInt8.toNat = r.toNat % 256 := by
  rw [UInt32.toNat_toUInt8, UInt32.toNat_and]
  have hmask : r.toNat &&& 255 = r.toNat % 256 := Nat.and_two_pow_sub_one_eq_mod _ 8
  change (r.toNat &&& 255) % 256 = _
  rw [hmask, Nat.mod_mod]

lemma read_low (b : UInt8) : ((0x80 : UInt8) ||| b).toNat % 16 = b.toNat % 16 := by
  have hmask : ∀ a : UInt8, a.toNat % 16 = (a &&& 0x0F).toNat := by
    intro a
    rw [UInt8.toNat_and]
    exact (Nat.and_two_pow_sub_one_eq_mod _ 4).symm
  rw [hmask, hmask]
  congr 1
  apply UInt8.toNat_inj.mp
  rw [UInt8.toNat_and, UInt8.toNat_or, UInt8.toNat_and, Nat.and_or_distrib_right]
  exact Nat.zero_or _

lemma write_bit {b : UInt8} (h : b.toNat < 128) : ¬b &&& 0x80 ≠ 0 := by
  have hbit : b.toNat &&& 2 ^ 7 = 0 := by
    rw [Nat.and_two_pow, Nat.testBit_lt_two_pow h]
    rfl
  rw [not_not]
  exact UInt8.toNat_inj.mp hbit

lemma toNat_transfLen (r : UInt32) : (AD9528_TRANSF_LEN r).toNat = r.toNat / 65536 := by
  rw [AD9528_TRANSF_LEN, UInt32.toNat_shiftRight, Nat.shiftRight_eq_div_pow]
  rfl

lemma toNat_encode (hn : n ≤ 4) (hpos : 1 ≤ n) (hx : x.toNat + n ≤ 4096) : (encode n x).toNat + 1 = n * 65536 + x.toNat + n := by
  have hlen : (UInt32.ofNat n).toNat = n := UInt32.toNat_ofNat_of_lt' (lt_of_le_of_lt hn (by decide))
  have hlast : (UInt32.ofNat (n - 1)).toNat = n - 1 := UInt32.toNat_ofNat_of_lt' (lt_of_le_of_lt (by omega : n - 1 ≤ 4) (by decide))
  have hsum : (x + UInt32.ofNat (n - 1)).toNat = x.toNat + (n - 1) := by
    rw [Word.toNat_add_of_lt (by rw [hlast]; omega), hlast]
  have hshift : (16 : UInt32).toNat % 32 = 16 := rfl
  have hmod : n <<< 16 % 2 ^ 32 = n <<< 16 := by
    rw [Nat.shiftLeft_eq]
    lia
  rw [encode, UInt32.toNat_or, UInt32.toNat_shiftLeft, hshift, hlen, hsum, hmod, ← Nat.shiftLeft_add_eq_or_of_lt (by omega),
    Nat.shiftLeft_eq]
  lia

/-- The addresses of `k` bytes from `X` on, the highest one first. -/
def cells (X : ℕ) : ℕ → List UInt32
  | 0 => []
  | k + 1 => UInt32.ofNat (X + k) :: cells X k

lemma length_cells (X k : ℕ) : (cells X k).length = k := by
  induction k with
  | zero => rfl
  | succ k ih => rw [cells, List.length_cons, ih]

lemma mem_cells (hX : X + k ≤ 4096) : r ∈ cells X k ↔ X ≤ r.toNat ∧ r.toNat < X + k := by
  induction k with
  | zero =>
    rw [cells]
    exact iff_of_false List.not_mem_nil (by omega)
  | succ k ih =>
    have hcell : (UInt32.ofNat (X + k)).toNat = X + k := UInt32.toNat_ofNat_of_lt' (by change X + k < 2 ^ 32; omega)
    rw [cells, List.mem_cons, ih (by omega), ← UInt32.toNat_inj, hcell]
    lia

lemma nodup_cells (hX : X + k ≤ 4096) : (cells X k).Nodup := by
  induction k with
  | zero => exact List.nodup_nil
  | succ k ih =>
    have hcell : (UInt32.ofNat (X + k)).toNat = X + k := UInt32.toNat_ofNat_of_lt' (by change X + k < 2 ^ 32; omega)
    refine List.nodup_cons.mpr ⟨fun hmem => ?_, ih (by omega)⟩
    have hlt := ((mem_cells (by omega)).mp hmem).2
    omega

lemma store_cells (hk : k ≤ 4) (hX : X + k ≤ 4096) : store data (cells X k) mem = withRegister k X data.toNat mem := by
  induction k generalizing mem with
  | zero =>
    funext a
    rw [withRegister, if_neg (by omega)]
    rfl
  | succ k ih =>
    have hcell : (UInt32.ofNat (X + k)).toNat = X + k := UInt32.toNat_ofNat_of_lt' (by change X + k < 2 ^ 32; omega)
    rw [cells, store, ih (by omega) (by omega)]
    funext a
    rw [withRegister, withRegister, length_cells]
    by_cases hlow : X ≤ a.toNat ∧ a.toNat < X + k
    · rw [if_pos hlow, if_pos (by omega)]
    · rw [if_neg hlow]
      by_cases htop : a.toNat = X + k
      · have ha : a = UInt32.ofNat (X + k) := UInt32.toNat_inj.mp (htop.trans hcell.symm)
        rw [if_pos (by omega), ha, Function.update_self, hcell, Nat.add_sub_cancel_left]
        apply UInt8.toNat_inj.mp
        rw [toNat_byte (by omega), UInt8.toNat_ofNat']
      · have ha : a ≠ UInt32.ofNat (X + k) := fun ha => htop (by rw [ha, hcell])
        rw [if_neg (by omega), Function.update_of_ne ha]

/-- The transfer of an encoded or plain address goes to its lower 12 bits. -/
lemma addr_of (hX : X < 4096) (hr : r.toNat % 4096 = X) (b0 b1 b2 : UInt8) (h0 : b0.toNat % 16 = r.toNat / 256 % 16)
    (h1 : b1.toNat = r.toNat % 256) : Buf.addr ⟨b0, b1, b2⟩ = UInt32.ofNat X := by
  apply UInt32.toNat_inj.mp
  rw [toNat_addr, UInt32.toNat_ofNat_of_lt' (by change X < 2 ^ 32; omega)]
  dsimp only
  lia

lemma transfer_read (hX : X < 4096) (hr : r.toNat % 4096 = X) :
    spiWriteAndRead ⟨(0x80 : UInt8) ||| (r >>> 8).toUInt8, (r &&& 0xFF).toUInt8, 0x00⟩ mem =
      (mem (UInt32.ofNat X), mem) := by
  rw [spiWriteAndRead, if_pos (read_bit _), addr_of hX hr _ _ _ _ (toNat_low r)]
  rw [read_low, toNat_high]
  lia

lemma transfer_write (hX : X < 4096) (hr : r.toNat % 65536 = X) (b : UInt8) :
    (spiWriteAndRead ⟨(r >>> 8).toUInt8, (r &&& 0xFF).toUInt8, b⟩ mem).2 = Function.update mem (UInt32.ofNat X) b := by
  have hbit : ¬(r >>> 8).toUInt8 &&& 0x80 ≠ 0 := write_bit (by rw [toNat_high]; omega)
  rw [spiWriteAndRead, if_neg hbit, addr_of hX (r := r) (by lia) _ _ _ _ (toNat_low r)]
  rw [toNat_high]
  lia

/-- The condition of the loops for an address that the loop meets. -/
lemma loop_cond (hX : X + n ≤ 4096) (hr : r.toNat + 1 = n * 65536 + X + k) (hi : index.toNat + k = n) :
    index.toUInt32 < AD9528_TRANSF_LEN r ↔ 0 < k := by
  rw [UInt32.lt_iff_toNat_lt, toNat_transfLen, UInt8.toNat_toUInt32]
  lia

lemma readLoop_eq (hn : n ≤ 4) (hX : X + n ≤ 4096) (hk : k ≤ n) (hr : r.toNat + 1 = n * 65536 + X + k)
    (hi : index.toNat + k = n) : readLoop r index data mem = (word mem (cells X k) data, mem) := by
  induction k generalizing r index data with
  | zero =>
    have hend := mt (loop_cond hX hr hi).mp (lt_irrefl 0)
    rw [readLoop, if_neg hend]
    rfl
  | succ k ih =>
    have hgo := (loop_cond hX hr hi).mpr (Nat.succ_pos k)
    have hpred : (r - 1).toNat + 1 = r.toNat := Word.toNat_sub_one_add_one (Word.ne_zero_of_pos (by omega))
    have hnext : (index + 1).toNat = index.toNat + 1 := by
      have hone : (1 : UInt8).toNat = 1 := rfl
      rw [UInt8.toNat_add, hone]
      lia
    rw [readLoop, if_pos hgo]
    dsimp only
    rw [transfer_read (X := X + k) (by lia) (by lia), ih (by omega) (by omega) (by omega)]
    rfl

lemma writeLoop_eq (hn : n ≤ 4) (hX : X + n ≤ 4096) (hk : k ≤ n) (hr : r.toNat + 1 = n * 65536 + X + k)
    (hi : index.toNat + k = n) : writeLoop r index data mem = store data (cells X k) mem := by
  induction k generalizing r index mem with
  | zero =>
    have hend := mt (loop_cond hX hr hi).mp (lt_irrefl 0)
    rw [writeLoop, if_neg hend]
    rfl
  | succ k ih =>
    have hgo := (loop_cond hX hr hi).mpr (Nat.succ_pos k)
    have hpred : (r - 1).toNat + 1 = r.toNat := Word.toNat_sub_one_add_one (Word.ne_zero_of_pos (by omega))
    have hnext : (index + 1).toNat = index.toNat + 1 := by
      have hone : (1 : UInt8).toNat = 1 := rfl
      rw [UInt8.toNat_add, hone]
      lia
    have hshift : (AD9528_TRANSF_LEN r - index.toUInt32 - 1) * 8 = UInt32.ofNat (8 * k) := by
      have hone : (1 : UInt32).toNat = 1 := rfl
      have height : (8 : UInt32).toNat = 8 := rfl
      have hlen : (AD9528_TRANSF_LEN r).toNat = n := by
        rw [toNat_transfLen]
        lia
      have hleft : (AD9528_TRANSF_LEN r - index.toUInt32).toNat = k + 1 := by
        rw [Word.toNat_sub_of_le (by rw [hlen, UInt8.toNat_toUInt32]; omega), hlen, UInt8.toNat_toUInt32]
        lia
      have hrest : (AD9528_TRANSF_LEN r - index.toUInt32 - 1).toNat = k := by
        rw [Word.toNat_sub_of_le (by rw [hleft, hone]; lia), hleft, hone, Nat.add_sub_cancel]
      apply UInt32.toNat_inj.mp
      rw [UInt32.toNat_mul, hrest, height, UInt32.toNat_ofNat', Nat.mul_comm]
    rw [writeLoop, if_pos hgo]
    dsimp only
    rw [hshift, transfer_write (X := X + k) (by lia) (by lia), ih (by omega) (by omega) (by omega), cells, store,
      length_cells]

/-- A value that fits comes back, joined to what the result variable held. -/
lemma word_store (hk : k ≤ 4) (hX : X + k ≤ 4096) (hv : data.toNat < 256 ^ k) :
    (word (store data (cells X k) mem) (cells X k) acc).toNat = (acc.toNat * 256 ^ k + data.toNat) % 2 ^ 32 := by
  rw [toNat_word_store (nodup_cells hX) (by rwa [length_cells]), length_cells, Nat.mod_eq_of_lt hv]

variable {w : UInt16} {val : UInt16}

lemma read_bit_of_le {b : UInt8} (h : 128 ≤ b.toNat) : b &&& 0x80 ≠ 0 := by
  have hlt := b.toNat_lt
  intro hzero
  have hbit : b.toNat &&& 2 ^ 7 = 0 := by
    have hnat := congrArg UInt8.toNat hzero
    rwa [UInt8.toNat_and] at hnat
  have htest : b.toNat.testBit 7 = true := by
    rw [Nat.testBit_eq_decide_div_mod_eq, decide_eq_true_eq]
    omega
  rw [Nat.and_two_pow, htest] at hbit
  exact absurd hbit (by decide)

lemma toNat_high_masked (r : UInt32) : ((r &&& 0xFF00) >>> 8).toUInt8.toNat = r.toNat / 256 % 256 := by
  have hshift : (8 : UInt32).toNat % 32 = 8 := rfl
  have hmask : ((0xFF00 : UInt32).toNat >>> 8) = 2 ^ 8 - 1 := rfl
  rw [UInt32.toNat_toUInt8, UInt32.toNat_shiftRight, hshift, UInt32.toNat_and, Nat.shiftRight_and_distrib, hmask,
    Nat.and_two_pow_sub_one_eq_mod, Nat.shiftRight_eq_div_pow]
  exact Nat.mod_mod _ _

lemma toNat_high16 (w : UInt16) : ((w &&& 0xFF00) >>> 8).toUInt8.toNat = w.toNat / 256 := by
  have hlt := w.toNat_lt
  have hshift : (8 : UInt16).toNat % 16 = 8 := rfl
  have hmask : ((0xFF00 : UInt16).toNat >>> 8) = 2 ^ 8 - 1 := rfl
  rw [UInt16.toNat_toUInt8, UInt16.toNat_shiftRight, hshift, UInt16.toNat_and, Nat.shiftRight_and_distrib, hmask,
    Nat.and_two_pow_sub_one_eq_mod, Nat.shiftRight_eq_div_pow]
  lia

lemma toNat_low16 (w : UInt16) : (w &&& 0x00FF).toUInt8.toNat = w.toNat % 256 := by
  have hmask : (0x00FF : UInt16).toNat = 2 ^ 8 - 1 := rfl
  rw [UInt16.toNat_toUInt8, UInt16.toNat_and, hmask, Nat.and_two_pow_sub_one_eq_mod]
  exact Nat.mod_mod _ _

lemma readPasses_eq (hX : X + k ≤ 1024) (hr : r.toNat + 1 = 32768 + X + k) :
    readPasses k r acc mem = (word mem (cells X k) acc, mem) := by
  induction k generalizing r acc with
  | zero => rfl
  | succ k ih =>
    have hpred : (r - 1).toNat + 1 = r.toNat := Word.toNat_sub_one_add_one (Word.ne_zero_of_pos (by omega))
    have hread : spiWriteAndRead ⟨((r &&& 0xFF00) >>> 8).toUInt8, (r &&& 0x00FF).toUInt8, 0⟩ mem =
        (mem (UInt32.ofNat (X + k)), mem) := by
      have hbit : ((r &&& 0xFF00) >>> 8).toUInt8 &&& 0x80 ≠ 0 := read_bit_of_le (by rw [toNat_high_masked]; lia)
      rw [spiWriteAndRead, if_pos hbit, addr_of (X := X + k) (by omega) (r := r) (by lia) _ _ _ _ (toNat_low r)]
      rw [toNat_high_masked]
      lia
    rw [readPasses]
    rw [hread, ih (by omega) (by omega)]
    rfl

lemma writePasses_eq (hX : X + k ≤ 1024) (hw : w.toNat + 1 = X + k ∨ k = 0) :
    writePasses k w val mem = store val.toUInt32 (cells X k) mem := by
  induction k generalizing w mem with
  | zero => rfl
  | succ k ih =>
    have hone : (1 : UInt16).toNat = 1 := rfl
    have hpred : (w - 1).toNat + 1 = X + k ∨ k = 0 := by
      rcases Nat.eq_zero_or_pos k with hk | hk
      · exact Or.inr hk
      · left
        rw [UInt16.toNat_sub_of_le _ _ (UInt16.le_iff_toNat_le.mpr (by rw [hone]; omega)), hone]
        lia
    have hwrite : ∀ b, (spiWriteAndRead ⟨((w &&& 0xFF00) >>> 8).toUInt8, (w &&& 0x00FF).toUInt8, b⟩ mem).2 =
        Function.update mem (UInt32.ofNat (X + k)) b := by
      intro b
      have hbit : ¬((w &&& 0xFF00) >>> 8).toUInt8 &&& 0x80 ≠ 0 := write_bit (by rw [toNat_high16]; lia)
      have hword : w.toUInt32.toNat = w.toNat := UInt16.toNat_toUInt32 w
      rw [spiWriteAndRead, if_neg hbit, addr_of (X := X + k) (by omega) (r := w.toUInt32) (by lia) _ _ _ _ _]
      · rw [toNat_high16, hword]
      · rw [toNat_low16, hword]
    rw [writePasses]
    rw [hwrite, ih (by omega) hpred, cells, store, length_cells]

lemma writePasses_above {a : UInt32} (ha : 1024 ≤ a.toNat) (hk : k ≤ 2) (hw : w.toNat < 1024 ∨ 32768 + k ≤ w.toNat) :
    writePasses k w val mem a = mem a := by
  induction k generalizing w mem with
  | zero => rfl
  | succ k ih =>
    have hone : (1 : UInt16).toNat = 1 := rfl
    have hlt := w.toNat_lt
    have hnext : (w - 1).toNat < 1024 ∨ 32768 + k ≤ (w - 1).toNat := by
      rw [UInt16.toNat_sub, hone]
      lia
    have hsame : ∀ b, (spiWriteAndRead ⟨((w &&& 0xFF00) >>> 8).toUInt8, (w &&& 0x00FF).toUInt8, b⟩ mem).2 a = mem a := by
      intro b
      rw [spiWriteAndRead]
      split_ifs with hbit
      · rfl
      · have hsmall : w.toNat < 1024 := by
          by_contra hge
          exact hbit (read_bit_of_le (by rw [toNat_high16]; lia))
        refine Function.update_of_ne (fun heq => ?_) _ _
        have haddr := toNat_addr ⟨((w &&& 0xFF00) >>> 8).toUInt8, (w &&& 0x00FF).toUInt8, b⟩
        rw [← heq] at haddr
        dsimp only at haddr
        rw [toNat_high16, toNat_low16] at haddr
        lia
    rw [writePasses]
    rw [ih (by omega) hnext, hsame]

section Registers

variable (hpos : 1 ≤ n) (hn : n ≤ 4) (hx : x.toNat + n ≤ 4096)
include hpos hn hx

lemma roundTrip_loops (hv : v < 256 ^ n) : RoundTrip n x.toNat v (writeLoop (encode n x) 0 (UInt32.ofNat v))
    (readLoop (encode n x) 0 0) := by
  have hfit : 256 ^ n ≤ 2 ^ 32 := by
    rw [show 256 = 2 ^ 8 from rfl, ← Nat.pow_mul]
    exact Nat.pow_le_pow_right (by decide) (by omega)
  have hval : (UInt32.ofNat v).toNat = v := UInt32.toNat_ofNat_of_lt' (hv.trans_le hfit)
  have hreg := toNat_encode hn hpos hx
  have hzero : (0 : UInt8).toNat + n = n := Nat.zero_add n
  constructor
  · intro mem
    rw [writeLoop_eq hn hx le_rfl hreg hzero, store_cells hn hx, hval]
  · intro mem
    rw [readLoop_eq hn hx le_rfl hreg hzero, writeLoop_eq hn hx le_rfl hreg hzero]
    congr 1
    apply UInt32.toNat_inj.mp
    have hacc : (0 : UInt32).toNat = 0 := rfl
    rw [word_store hn hx (by rwa [hval]), hval, hacc, Nat.zero_mul, Nat.zero_add, Nat.mod_eq_of_lt (hv.trans_le hfit)]

lemma toNat_transfLen_encode : (encode n x >>> 16).toNat = n := by
  have hreg := toNat_encode hn hpos hx
  have hlen := toNat_transfLen (encode n x)
  rw [AD9528_TRANSF_LEN] at hlen
  lia

lemma toNat_addr_encode : (AD9517_ADDR (encode n x)).toNat = (x.toNat + n - 1) % 1024 := by
  have hreg := toNat_encode hn hpos hx
  have hmask : (0x3FF : UInt32).toNat = 2 ^ 10 - 1 := rfl
  rw [AD9517_ADDR, UInt32.toNat_and, hmask, Nat.and_two_pow_sub_one_eq_mod]
  lia

lemma ad9517Read_eq (acc : UInt32) (hx' : x.toNat + n ≤ 1024) :
    ad9517Read (encode n x) acc mem = (word mem (cells x.toNat n) acc, mem) := by
  have haddr := toNat_addr_encode hpos hn hx
  have hbit : AD9517_READ.toNat = 32768 := rfl
  have hstart : (AD9517_READ + AD9517_ADDR (encode n x)).toNat = 32768 + (x.toNat + n - 1) := by
    rw [Word.toNat_add_of_lt (by rw [hbit, haddr]; omega), hbit, haddr]
    lia
  rw [ad9517Read, AD9517_TRANSF_LEN, toNat_transfLen_encode hpos hn hx, readPasses_eq hx' (by lia)]

lemma toNat_start : ((AD9517_WRITE + AD9517_ADDR (encode n x)).toUInt16).toNat = (x.toNat + n - 1) % 1024 := by
  have haddr := toNat_addr_encode hpos hn hx
  have hbit : AD9517_WRITE.toNat = 0 := rfl
  rw [UInt32.toNat_toUInt16, Word.toNat_add_of_lt (by rw [hbit, haddr]; omega), hbit, haddr]
  lia

lemma ad9517Write_eq (val : UInt16) (hx' : x.toNat + n ≤ 1024) :
    ad9517Write (encode n x) val mem = store val.toUInt32 (cells x.toNat n) mem := by
  have hstart := toNat_start hpos hn hx
  rw [ad9517Write, AD9517_TRANSF_LEN, toNat_transfLen_encode hpos hn hx, writePasses_eq hx' (by lia)]

/-- The register must be in the ten bits that are sent, and the old value must be shifted out. -/
lemma ad9517_iff (htwo : n ≤ 2) (old : UInt32) :
    (∀ v < 256 ^ n, RoundTrip n x.toNat v (ad9517Write (encode n x) (UInt16.ofNat v)) (ad9517Read (encode n x) old)) ↔
      x.toNat + n ≤ 0x400 ∧ old.toNat * 256 ^ n % 2 ^ 32 = 0 := by
  have hfit : 256 ^ n ≤ 2 ^ 16 := by
    rw [show 256 = 2 ^ 8 from rfl, ← Nat.pow_mul]
    exact Nat.pow_le_pow_right (by decide) (by omega)
  have hval : ∀ v < 256 ^ n, (UInt16.ofNat v).toUInt32.toNat = v := fun v hv => by
    rw [UInt16.toNat_toUInt32, UInt16.toNat_ofNat_of_lt' (hv.trans_le hfit)]
  have hval32 : ∀ v < 256 ^ n, (UInt32.ofNat v).toNat = v :=
    fun v hv => UInt32.toNat_ofNat_of_lt' ((hv.trans_le hfit).trans (by decide))
  have hpow : 0 < 256 ^ n := Nat.pow_pos (by decide)
  constructor
  · intro h
    have hten : x.toNat + n ≤ 1024 := by
      by_contra hout
      have hstored := congrFun ((h (256 ^ n - 1) (by omega)).stored fun _ => 0) (UInt32.ofNat (x.toNat + n - 1))
      have hcell : (UInt32.ofNat (x.toNat + n - 1)).toNat = x.toNat + n - 1 :=
        UInt32.toNat_ofNat_of_lt' (by change _ < 2 ^ 32; omega)
      have hstart := toNat_start hpos hn hx
      rw [ad9517Write, AD9517_TRANSF_LEN, toNat_transfLen_encode hpos hn hx,
        writePasses_above (by rw [hcell]; omega) htwo (by omega), withRegister, hcell, if_pos (by lia)] at hstored
      have htop : (256 ^ n - 1) / 256 ^ (x.toNat + n - 1 - x.toNat) = 255 := by
        rw [show x.toNat + n - 1 - x.toNat = n - 1 by lia]
        rcases (by omega : n = 1 ∨ n = 2) with rfl | rfl
        · rfl
        · rfl
      rw [htop] at hstored
      exact absurd hstored (by decide)
    refine ⟨hten, ?_⟩
    have hsame := congrArg Prod.fst ((h 0 hpow).same fun _ => 0)
    rw [ad9517Read_eq hpos hn hx old hten, ad9517Write_eq hpos hn hx _ hten] at hsame
    have hnat := congrArg UInt32.toNat hsame
    rw [word_store hn hx (by rwa [hval 0 hpow]), hval 0 hpow, Nat.add_zero] at hnat
    exact hnat
  · rintro ⟨hten, hold⟩ v hv
    constructor
    · intro mem
      rw [ad9517Write_eq hpos hn hx _ hten, store_cells hn hx, hval v hv]
    · intro mem
      rw [ad9517Read_eq hpos hn hx old hten, ad9517Write_eq hpos hn hx _ hten]
      congr 1
      apply UInt32.toNat_inj.mp
      rw [word_store hn hx (by rwa [hval v hv]), hval v hv, hval32 v hv, Nat.add_mod, hold, Nat.zero_add, Nat.mod_mod,
        Nat.mod_eq_of_lt ((hv.trans_le hfit).trans (by decide))]

end Registers

/-- The cast of `ad9528_spi_write` cuts the address off after its lower byte. -/
lemma ad9528_addr_iff (addr data : UInt32) :
    (ad9528SpiWriteBuf addr data).addr = (ad9528SpiReadBuf addr).addr ↔ addr.toNat % 4096 < 256 := by
  have hread : (ad9528SpiReadBuf addr).addr.toNat = addr.toNat / 256 % 16 * 256 + addr.toNat % 256 := by
    rw [ad9528SpiReadBuf, toNat_addr]
    dsimp only
    rw [read_low, toNat_high, toNat_low]
    lia
  have hbyte : addr.toUInt8.toUInt32.toNat = addr.toNat % 256 := by rw [UInt8.toNat_toUInt32, UInt32.toNat_toUInt8]
  have hwrite : (ad9528SpiWriteBuf addr data).addr.toNat = addr.toNat % 256 := by
    rw [ad9528SpiWriteBuf, toNat_addr]
    dsimp only
    rw [toNat_high, toNat_low, hbyte]
    lia
  rw [← UInt32.toNat_inj, hread, hwrite]
  lia

end ClockTransfers

/-- Registers of the AD9528 and the AD9523 always come back. Those of the AD9517 do if their address is in the ten bits
that are sent and the shifts take the old value out of the result variable. The single-byte functions of the AD9528 meet
at the addresses below 256 only. -/
theorem clockTransfers_iff (n : ℕ) (hpos : 1 ≤ n) (hn : n ≤ 4) (x : UInt32) (hx : x.toNat + n ≤ 4096) (old addr data : UInt32) :
    (∀ v < 256 ^ n, RoundTrip n x.toNat v (ad9528SpiWriteN (encode n x) (UInt32.ofNat v)) (ad9528SpiReadN (encode n x) old)) ∧
    (∀ v < 256 ^ n, RoundTrip n x.toNat v (ad9523SpiWrite (encode n x) (UInt32.ofNat v)) (ad9523SpiRead (encode n x) old)) ∧
    (n ≤ 2 → ((∀ v < 256 ^ n,
        RoundTrip n x.toNat v (ad9517Write (encode n x) (UInt16.ofNat v)) (ad9517Read (encode n x) old)) ↔
      x.toNat + n ≤ 0x400 ∧ old.toNat * 256 ^ n % 2 ^ 32 = 0)) ∧
    ((ad9528SpiWriteBuf addr data).addr = (ad9528SpiReadBuf addr).addr ↔ addr.toNat % 4096 < 256) :=
  ⟨fun _ hv => roundTrip_loops hpos hn hx hv, fun _ hv => roundTrip_loops hpos hn hx hv,
    fun htwo => ad9517_iff hpos hn hx htwo old, ad9528_addr_iff addr data⟩

/-- The B counter of the AD9517 with a result variable that is 0 -/
theorem clockTransfers_b_counter : RoundTrip 2 0x014 0x1FFF (ad9517Write (encode 2 0x014) (UInt16.ofNat 0x1FFF))
    (ad9517Read (encode 2 0x014) 0) :=
  ((clockTransfers_iff 2 (by decide) (by decide) 0x014 (by decide) 0 0 0).2.2.1 (by decide)).mpr ⟨by decide, by decide⟩
    0x1FFF (by decide)

/-- The power-down register of the AD9528 is at 0x500, and the single-byte write goes to 0. A result variable that holds 1
before it is read into stays in the upper byte. -/
theorem not_clockTransfers : ¬(∀ addr data : UInt32, addr.toNat < 4096 →
      (ad9528SpiWriteBuf addr data).addr = (ad9528SpiReadBuf addr).addr) ∧
    ¬∀ old : UInt32, ∀ v < 256 ^ 1,
      RoundTrip 1 0x010 v (ad9517Write (encode 1 0x010) (UInt16.ofNat v)) (ad9517Read (encode 1 0x010) old) := by
  constructor
  · intro h
    exact absurd (h 0x500 0 (by decide)) (by decide)
  · intro h
    have hold := ((ad9517_iff (x := 0x010) (by decide) (by decide) (by decide) (by decide) 1).mp (h 1)).2
    exact absurd hold (by decide)

end NoOS
