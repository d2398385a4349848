import NoOS.Drivers.Ad9528
import NoOS.Lib.PackedWord
import NoOS.Lib.RegisterFile
import Mathlib.Data.Nat.ModEq
import Mathlib.Tactic.Ring

/-!
# The multi-byte registers of the AD9528

A write that succeeds puts its bytes into the registers that the addresses name, and a read puts them together again,
the upper byte first.
-/

namespace NoOS
open Fallible
open scoped RegisterFile

namespace Ad9528

/-- The registers that the bytes of an address are for. -/
def wire (a : UInt32) : UInt32 := regOf (a >>> 8).toUInt8 (a &&& 0xFF).toUInt8

def regsOf (regAddr : UInt32) : List UInt32 := (byteAddrs regAddr).map wire

/-- The word in the registers `rs`, joined to the bytes before. -/
def word (regs : UInt32 → UInt8) : List UInt32 → UInt32 → UInt32
  | [], data => data
  | r :: rs, data => word regs rs ((data <<< 8) ||| (regs r).toUInt32)

/-- The registers after the bytes of `data` are written to `rs`. -/
def store (data : UInt32) : List UInt32 → (UInt32 → UInt8) → UInt32 → UInt8
  | [], regs => regs
  | r :: rs, regs =>
    store data rs (Function.update regs r ((data >>> UInt32.ofNat (8 * rs.length)) &&& 0xFF).toUInt8)

variable {regs regs' : UInt32 → UInt8} {rs : List UInt32} {data acc a : UInt32}

lemma word_congr (h : ∀ r ∈ rs, regs r = regs' r) : word regs rs acc = word regs' rs acc := by
  induction rs generalizing acc with
  | nil => rfl
  | cons r rs ih =>
    rw [word, word, h r (List.mem_cons_self ..)]
    exact ih fun q hq => h q (List.mem_cons_of_mem r hq)

lemma store_of_not_mem {r : UInt32} (h : r ∉ rs) : store data rs regs r = regs r := by
  induction rs generalizing regs with
  | nil => rfl
  | cons q rs ih =>
    rw [List.mem_cons, not_or] at h
    rw [store, ih h.2, Function.update_of_ne h.1]

lemma toNat_join (acc : UInt32) (b : UInt8) :
    ((acc <<< 8) ||| b.toUInt32).toNat = (acc.toNat * 256 + b.toNat) % 2 ^ 32 := by
  have hb := b.toNat_lt
  have hshift : ((8 : UInt32).toNat % 32) = 8 := rfl
  rw [UInt32.toNat_or, UInt32.toNat_shiftLeft, hshift, UInt8.toNat_toUInt32, Nat.shiftLeft_eq]
  have hmod : acc.toNat * 2 ^ 8 % 2 ^ 32 = (acc.toNat % 2 ^ 24) <<< 8 := by
    rw [Nat.shiftLeft_eq]
    lia
  rw [hmod, ← Nat.shiftLeft_add_eq_or_of_lt (by omega), Nat.shiftLeft_eq]
  lia

lemma toNat_byte {k : ℕ} (hk : k < 4) (data : UInt32) :
    ((data >>> UInt32.ofNat (8 * k)) &&& 0xFF).toUInt8.toNat = data.toNat / 256 ^ k % 256 := by
  have hshift : (UInt32.ofNat (8 * k)).toNat % 32 = 8 * k := PackedWord.toNat_ofNat_mod (by lia)
  have hmask : (0xFF : UInt32).toNat = 2 ^ 8 - 1 := rfl
  rw [UInt32.toNat_toUInt8, UInt32.toNat_and, UInt32.toNat_shiftRight, hshift, hmask,
    Nat.and_two_pow_sub_one_eq_mod, Nat.shiftRight_eq_div_pow, Nat.pow_mul]
  exact Nat.mod_mod _ _

lemma toNat_word_store (hrs : rs.Nodup) (hlen : rs.length ≤ 4) (acc : UInt32) :
    (word (store data rs regs) rs acc).toNat =
      (acc.toNat * 256 ^ rs.length + data.toNat % 256 ^ rs.length) % 2 ^ 32 := by
  induction rs generalizing regs acc with
  | nil =>
    have hacc := acc.toNat_lt
    simp only [word, List.length_nil, Nat.pow_zero, Nat.mod_one]
    lia
  | cons r rs ih =>
    obtain ⟨hr, hrs⟩ := List.nodup_cons.mp hrs
    have hlen' : rs.length < 4 := hlen
    have hsucc : data.toNat % 256 ^ (rs.length + 1) =
        data.toNat % 256 ^ rs.length + 256 ^ rs.length * (data.toNat / 256 ^ rs.length % 256) := Nat.mod_pow_succ
    rw [word, store, store_of_not_mem hr, Function.update_self, ih hrs hlen'.le, toNat_join, toNat_byte hlen',
      List.length_cons, hsucc]
    generalize data.toNat / 256 ^ rs.length % 256 = b
    generalize data.toNat % 256 ^ rs.length = low
    have hmod : (acc.toNat * 256 + b) % 2 ^ 32 * 256 ^ rs.length ≡ (acc.toNat * 256 + b) * 256 ^ rs.length [MOD 2 ^ 32] :=
      (Nat.mod_modEq _ _).mul_right _
    have hsplit : (acc.toNat * 256 + b) * 256 ^ rs.length + low =
        acc.toNat * 256 ^ (rs.length + 1) + (low + 256 ^ rs.length * b) := by ring
    rw [← hsplit]
    exact hmod.add_right low

section Transfer

variable {s : Ad9528} {buf0 buf1 buf2 : UInt8}

/-- What a transfer leaves apart from the registers. -/
structure Same (s t : Ad9528) : Prop where
  pdata : t.pdata = s.pdata
  vcoOutFreq : t.vcoOutFreq = s.vcoOutFreq
  byZero : t.byZero = s.byZero

lemma Same.refl (s : Ad9528) : Same s s := ⟨rfl, rfl, rfl⟩

lemma Same.trans {s t u : Ad9528} (h : Same s t) (h' : Same t u) : Same s u :=
  ⟨h'.pdata.trans h.pdata, h'.vcoOutFreq.trans h.vcoOutFreq, h'.byZero.trans h.byZero⟩

lemma same_spiWriteAndRead : Same s (spiWriteAndRead buf0 buf1 buf2 s).2.2 := by
  unfold spiWriteAndRead
  dsimp only
  split
  · exact ⟨rfl, rfl, rfl⟩
  · split
    · exact ⟨rfl, rfl, rfl⟩
    · exact ⟨rfl, rfl, rfl⟩

lemma read_bit (b : UInt8) : ((0x80 : UInt8) ||| b) &&& 0x80 ≠ 0 := by
  intro h
  have hbit := congrArg (fun x : UInt8 => x.toBitVec[7]) h
  simp at hbit

lemma regOf_read (b buf1 : UInt8) : regOf ((0x80 : UInt8) ||| b) buf1 = regOf b buf1 := by
  have hand : ((0x80 : UInt8) ||| b) &&& 0x7F = b &&& 0x7F := by
    apply UInt8.toNat_inj.mp
    rw [UInt8.toNat_and, UInt8.toNat_or, UInt8.toNat_and, Nat.and_or_distrib_right]
    exact Nat.zero_or _
  rw [regOf, regOf, hand]

lemma regs_read (b : UInt8) : (spiWriteAndRead ((0x80 : UInt8) ||| b) buf1 buf2 s).2.2.regs = s.regs := by
  unfold spiWriteAndRead
  dsimp only
  split
  · rfl
  · rw [if_pos (read_bit b)]

lemma read_of_nonneg {a : UInt32} (h : ¬(spiWriteAndRead ((0x80 : UInt8) ||| (a >>> 8).toUInt8) (a &&& 0xFF).toUInt8 buf2 s).1 < 0)
    (hstatus : wire a ≠ 0x508 ∧ wire a ≠ 0x509) :
    (spiWriteAndRead ((0x80 : UInt8) ||| (a >>> 8).toUInt8) (a &&& 0xFF).toUInt8 buf2 s).2.1 = s.regs (wire a) := by
  unfold spiWriteAndRead at h ⊢
  dsimp only at h ⊢
  split
  · rename_i hneg
    rw [if_pos hneg] at h
    exact absurd hneg h
  · rw [if_pos (read_bit _), regOf_read]
    change s.answer (wire a) = _
    rw [answer, if_neg (not_or.mpr hstatus)]

lemma regs_write_of_ne {r : UInt32} (h : r ≠ regOf buf0 buf1) :
    (spiWriteAndRead buf0 buf1 buf2 s).2.2.regs r = s.regs r := by
  unfold spiWriteAndRead
  dsimp only
  split
  · rfl
  · split
    · rfl
    · exact Function.update_of_ne h _ _

lemma regs_write (h : ¬(spiWriteAndRead buf0 buf1 buf2 s).1 < 0) (hwrite : buf0 &&& 0x80 = 0) :
    (spiWriteAndRead buf0 buf1 buf2 s).2.2.regs = Function.update s.regs (regOf buf0 buf1) buf2 := by
  unfold spiWriteAndRead at h ⊢
  dsimp only at h ⊢
  split
  · rename_i hneg
    rw [if_pos hneg] at h
    exact absurd hneg h
  · rw [if_neg (not_not.mpr hwrite)]

end Transfer

section Loops

lemma or_neg {a b : Int32} : a ||| b < 0 ↔ a < 0 ∨ b < 0 := by
  have hneg : ∀ x : Int32, x < 0 ↔ x.toBitVec.msb = true := by
    intro x
    rw [Int32.lt_iff_toInt_lt, BitVec.msb_eq_toInt]
    change x.toInt < 0 ↔ decide (x.toInt < 0) = true
    rw [decide_eq_true_eq]
  rw [hneg, hneg, hneg, Int32.toBitVec_or, BitVec.msb_or, Bool.or_eq_true]

lemma readBytes_spec (as : List UInt32) (ret : Int32) (data : UInt32) (s : Ad9528) :
    Same s (readBytes as ret data s).2.2 ∧ (readBytes as ret data s).2.2.regs = s.regs ∧
    (¬(readBytes as ret data s).1 < 0 → ¬ret < 0 ∧ ((∀ a ∈ as, wire a ≠ 0x508 ∧ wire a ≠ 0x509) →
      (readBytes as ret data s).2.1 = word s.regs (as.map wire) data)) := by
  induction as generalizing ret data s with
  | nil => exact ⟨Same.refl s, rfl, fun h => ⟨h, fun _ => rfl⟩⟩
  | cons a as ih =>
    obtain ⟨hsame, hregs, hval⟩ := ih
      (ret ||| (spiWriteAndRead ((0x80 : UInt8) ||| (a >>> 8).toUInt8) (a &&& 0xFF).toUInt8 0x00 s).1)
      ((data <<< 8) |||
        (spiWriteAndRead ((0x80 : UInt8) ||| (a >>> 8).toUInt8) (a &&& 0xFF).toUInt8 0x00 s).2.1.toUInt32)
      (spiWriteAndRead ((0x80 : UInt8) ||| (a >>> 8).toUInt8) (a &&& 0xFF).toUInt8 0x00 s).2.2
    rw [readBytes]
    refine ⟨same_spiWriteAndRead.trans hsame, hregs.trans (regs_read _), fun h => ?_⟩
    obtain ⟨hret, hword⟩ := hval h
    rw [or_neg, not_or] at hret
    refine ⟨hret.1, fun hstatus => ?_⟩
    rw [hword fun b hb => hstatus b (List.mem_cons_of_mem a hb), regs_read,
      read_of_nonneg hret.2 (hstatus a (List.mem_cons_self ..))]
    rfl

lemma writeBytes_spec (data : UInt32) (as : List UInt32) (ret : Int32) (s : Ad9528) :
    Same s (writeBytes data as ret s).2 ∧
    (∀ r ∉ as.map wire, (writeBytes data as ret s).2.regs r = s.regs r) ∧
    (¬(writeBytes data as ret s).1 < 0 → ¬ret < 0 ∧ ((∀ a ∈ as, (a >>> 8).toUInt8 &&& 0x80 = 0) →
      (writeBytes data as ret s).2.regs = store data (as.map wire) s.regs)) := by
  induction as generalizing ret s with
  | nil => exact ⟨Same.refl s, fun _ _ => rfl, fun h => ⟨h, fun _ => rfl⟩⟩
  | cons a as ih =>
    obtain ⟨hsame, hregs, hval⟩ := ih
      (ret ||| (spiWriteAndRead (a >>> 8).toUInt8 (a &&& 0xFF).toUInt8
        ((data >>> UInt32.ofNat (8 * as.length)) &&& 0xFF).toUInt8 s).1)
      (spiWriteAndRead (a >>> 8).toUInt8 (a &&& 0xFF).toUInt8
        ((data >>> UInt32.ofNat (8 * as.length)) &&& 0xFF).toUInt8 s).2.2
    rw [writeBytes]
    refine ⟨same_spiWriteAndRead.trans hsame, fun r hr => ?_, fun h => ?_⟩
    · rw [List.map_cons, List.mem_cons, not_or] at hr
      rw [hregs r hr.2, regs_write_of_ne hr.1]
    · obtain ⟨hret, hstore⟩ := hval h
      rw [or_neg, not_or] at hret
      refine ⟨hret.1, fun hwrite => ?_⟩
      rw [hstore fun b hb => hwrite b (List.mem_cons_of_mem a hb),
        regs_write hret.2 (hwrite a (List.mem_cons_self ..)), List.map_cons, store, List.length_map]
      rfl

end Loops

/-- The registers in `P` stay, whatever is returned. -/
structure Keeps (P : UInt32 → Prop) (s t : Ad9528) : Prop extends Same s t where
  regs : ∀ r, P r → t.regs r = s.regs r

variable {P : UInt32 → Prop} {s t : Ad9528} {regAddr mask value : UInt32}

lemma Keeps.refl (P : UInt32 → Prop) (s : Ad9528) : Keeps P s s := ⟨Same.refl s, fun _ _ => rfl⟩

lemma Keeps.trans {u : Ad9528} (h : Keeps P s t) (h' : Keeps P t u) : Keeps P s u :=
  ⟨h.toSame.trans h'.toSame, fun r hr => (h'.regs r hr).trans (h.regs r hr)⟩

lemma Keeps.mono {Q : UInt32 → Prop} (h : Keeps Q s t) (hPQ : ∀ r, P r → Q r) : Keeps P s t :=
  ⟨h.toSame, fun r hr => h.regs r (hPQ r hr)⟩

lemma moves_bind {α β : Type} {x : Fallible Ad9528 α} {f : α → Fallible Ad9528 β} (hx : Moves (Keeps P) x)
    (hf : ∀ a, Moves (Keeps P) (f a)) : Moves (Keeps P) (x >>= f) := Moves.bind (fun _ _ _ => Keeps.trans) hx hf

lemma moves_spiReadN : Moves (Keeps P) (spiReadN regAddr) := by
  intro s
  obtain ⟨hsame, hregs, -⟩ := readBytes_spec (byteAddrs regAddr) 0 0 s
  have hkeeps : Keeps P s (readBytes (byteAddrs regAddr) 0 0 s).2.2 := ⟨hsame, fun r _ => congrFun hregs r⟩
  unfold spiReadN
  dsimp only
  split
  · exact hkeeps
  · exact hkeeps

lemma moves_spiWriteN (h : ∀ r ∈ regsOf regAddr, ¬P r) : Moves (Keeps P) (spiWriteN regAddr value) := by
  intro s
  obtain ⟨hsame, hregs, -⟩ := writeBytes_spec value (byteAddrs regAddr) 0 s
  have hkeeps : Keeps P s (writeBytes value (byteAddrs regAddr) 0 s).2 :=
    ⟨hsame, fun r hr => hregs r fun hmem => h r hmem hr⟩
  unfold spiWriteN
  dsimp only
  split
  · exact hkeeps
  · exact hkeeps

lemma moves_writeAll {ws : List (UInt32 × UInt32)} (h : ∀ w ∈ ws, ∀ r ∈ regsOf w.1, ¬P r) :
    Moves (Keeps P) (writeAll ws) := by
  induction ws with
  | nil => exact Moves.pure (Keeps.refl P)
  | cons w ws ih =>
    exact moves_bind (moves_spiWriteN (h w (List.mem_cons_self ..))) fun _ =>
      ih fun v hv => h v (List.mem_cons_of_mem w hv)

lemma ensures_spiReadN (hstatus : ∀ r ∈ regsOf regAddr, r ≠ 0x508 ∧ r ≠ 0x509) :
    Ensures (spiReadN regAddr) s fun v t => v = word s.regs (regsOf regAddr) 0 ∧ Same s t ∧ t.regs = s.regs := by
  intro v t hrun
  obtain ⟨hsame, hregs, hval⟩ := readBytes_spec (byteAddrs regAddr) 0 0 s
  unfold spiReadN at hrun
  dsimp only at hrun
  split at hrun
  · exact absurd (Prod.mk.inj hrun).1 nofun
  · rename_i hnonneg
    obtain ⟨hv, rfl⟩ := Prod.mk.inj hrun
    obtain rfl := Except.ok.inj hv
    exact ⟨(hval hnonneg).2 fun a ha => hstatus _ (List.mem_map_of_mem ha), hsame, hregs⟩

/-- The address has the bit for a write in all its bytes. -/
def Writable (regAddr : UInt32) : Prop := ∀ a ∈ byteAddrs regAddr, (a >>> 8).toUInt8 &&& 0x80 = 0

lemma ensures_spiWriteN (hwrite : Writable regAddr) :
    Ensures (spiWriteN regAddr value) s fun _ t => Same s t ∧ t.regs = store value (regsOf regAddr) s.regs := by
  intro v t hrun
  obtain ⟨hsame, -, hval⟩ := writeBytes_spec value (byteAddrs regAddr) 0 s
  unfold spiWriteN at hrun
  dsimp only at hrun
  split at hrun
  · exact absurd (Prod.mk.inj hrun).1 nofun
  · rename_i hnonneg
    obtain ⟨-, rfl⟩ := Prod.mk.inj hrun
    exact ⟨hsame, (hval hnonneg).2 hwrite⟩

lemma moves_poll (timeout : ℕ) : Moves (Keeps P) (poll regAddr mask value timeout) := by
  induction timeout with
  | zero => exact Moves.fail (Keeps.refl P)
  | succ timeout ih =>
    apply moves_bind moves_spiReadN
    intro regData
    split
    · exact Moves.pure (Keeps.refl P)
    · exact ih

lemma moves_polled : Moves (Keeps P) (polled regAddr mask value) := fun s => moves_poll 100 s

/-- The word of an output. -/
def outWord (regs : UInt32 → UInt8) (n : UInt8) : UInt32 := word regs (regsOf (AD9528_CHANNEL_OUTPUT n.toUInt32)) 0

/-- The K divider in the registers. -/
def kWord (regs : UInt32 → UInt8) : UInt32 := word regs (regsOf AD9528_SYSREF_K_DIVIDER) 0

/-- The registers from the outputs on. -/
def IsOutput (r : UInt32) : Prop := 0x300 ≤ r ∧ r < 0x32A

def IsKDivider (r : UInt32) : Prop := r ∈ regsOf AD9528_SYSREF_K_DIVIDER

instance decidableIsOutput : DecidablePred IsOutput := fun _ => inferInstanceAs (Decidable (_ ∧ _))

instance decidableIsKDivider : DecidablePred IsKDivider := fun _ => inferInstanceAs (Decidable (_ ∈ _))

variable {n m : UInt8}

lemma toUInt32_eq (n : UInt8) : n.toUInt32 = UInt32.ofNat n.toNat := by
  apply UInt32.toNat_inj.mp
  rw [UInt8.toNat_toUInt32, UInt32.toNat_ofNat_of_lt' (n.toNat_lt.trans (by decide))]

lemma regsOf_output (hn : n < AD9528_NUM_CHAN) : regsOf (AD9528_CHANNEL_OUTPUT n.toUInt32) =
    [UInt32.ofNat (0x302 + 3 * n.toNat), UInt32.ofNat (0x301 + 3 * n.toNat), UInt32.ofNat (0x300 + 3 * n.toNat)] := by
  have hall : ∀ k : Fin 14, regsOf (AD9528_CHANNEL_OUTPUT (UInt32.ofNat k)) =
      [UInt32.ofNat (0x302 + 3 * k), UInt32.ofNat (0x301 + 3 * k), UInt32.ofNat (0x300 + 3 * k)] := by decide
  rw [toUInt32_eq]
  exact hall ⟨n.toNat, UInt8.lt_iff_toNat_lt.mp hn⟩

lemma writable_output (hn : n < AD9528_NUM_CHAN) : Writable (AD9528_CHANNEL_OUTPUT n.toUInt32) := by
  have hall : ∀ k : Fin 14, Writable (AD9528_CHANNEL_OUTPUT (UInt32.ofNat k)) := by
    unfold Writable
    decide
  rw [toUInt32_eq]
  exact hall ⟨n.toNat, UInt8.lt_iff_toNat_lt.mp hn⟩

end Ad9528

end NoOS
