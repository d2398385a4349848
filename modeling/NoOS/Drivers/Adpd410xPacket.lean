import Mathlib.Data.Nat.Bitwise
import Mathlib.Data.UInt
import NoOS.Errno
import NoOS.Lib.Fallible
import NoOS.Lib.Loops

/-!
# The data packets of the ADPD410x

A packet has the signals of all time slots, one after the other, and those of both channels for a slot with two. The sizes of
the signals are in fields of three bits. The loop over the slots has no case for sizes above 4, and it does not go on from a
slot with a size of 0.
-/

namespace NoOS
open Fuel

def BITM_DATA1_A_SIGNAL_SIZE : UInt16 := 0x0007
def BITP_OPMODE_TIMESLOT_EN : UInt16 := 8
def BITM_OPMODE_TIMESLOT_EN : UInt16 := 0x0f00
def BITM_TS_CTRL_A_CH2_EN : UInt16 := 0x4000

/-- The registers of the device, with those of the slots by their number. -/
structure Adpd410x where
  opmode : UInt16
  tsCtrl : ℕ → UInt16
  data1 : ℕ → UInt16
  /-- The words of the FIFO, the first one first -/
  fifo : ℕ → UInt16
  /-- The code of every register read -/
  code : ℕ → Int

namespace Adpd410x

/-- How many registers have been read, and how many words have left the FIFO. -/
structure Port where
  reads : ℕ
  popped : ℕ

variable (dev : Adpd410x)

def regRead (value : UInt16) : Fallible Port UInt16 := fun s =>
  let ret := dev.code s.reads
  let s := { s with reads := s.reads + 1 }
  if ret ≠ SUCCESS then (.error ret, s) else (.ok value, s)

/-- A read of `ADPD410X_REG_FIFO_DATA`, which takes a word out. -/
def fifoRead : Fallible Port UInt16 := fun s =>
  let ret := dev.code s.reads
  let s := { s with reads := s.reads + 1 }
  if ret ≠ SUCCESS then (.error ret, s) else (.ok (dev.fifo s.popped), { s with popped := s.popped + 1 })

/-- The slots from `i` on in `dual_chan`. -/
def readDualChan : (k i : ℕ) → UInt16 → Fallible Port UInt16
  | 0, _, dualChan => pure dualChan
  | k + 1, i, dualChan => do
    let tempData ← dev.regRead (dev.tsCtrl i)
    readDualChan k (i + 1) (if tempData &&& BITM_TS_CTRL_A_CH2_EN ≠ 0 then dualChan ||| (1 <<< UInt16.ofNat i) else dualChan)

/-- The slots from `i` on in `slot_bytecount_tab`. -/
def readTab : (k i : ℕ) → Fallible Port (List UInt8)
  | 0, _ => pure []
  | k + 1, i => do
    let tempData ← dev.regRead (dev.data1 i)
    let tab ← readTab k (i + 1)
    pure ((tempData &&& BITM_DATA1_A_SIGNAL_SIZE).toUInt8 :: tab)

/-- The next words of the FIFO in `data_buff`. -/
def readBuff : (k : ℕ) → Fallible Port (List UInt16)
  | 0 => pure []
  | k + 1 => do
    let w ← dev.fifoRead
    let buff ← readBuff k
    pure (w :: buff)

end Adpd410x

namespace Adpd410xPacket
open Adpd410x

def isDual (dualChan : UInt16) (i : ℕ) : Bool := dualChan &&& (1 <<< UInt16.ofNat i) ≠ 0

/-- `expect_byte_count` for the slots from `i` on -/
def expectByteCount (dualChan : UInt16) : (i : ℕ) → List UInt8 → ℕ
  | _, [] => 0
  | i, n :: tab => n.toNat + (if isDual dualChan i then n.toNat else 0) + expectByteCount dualChan (i + 1) tab

/-- The bytes of `data_byte_buff`. -/
def byteBuff (buff : List UInt16) : List UInt8 :=
  buff.flatMap fun w : UInt16 => [((w &&& 0xff00) >>> 8).toUInt8, (w &&& 0xff).toUInt8]

/-- What the call has stored. -/
abbrev Data : Type := ℕ → Option UInt32

/-- The variables of the loop over the slots. -/
structure State where
  i : ℕ
  gotOne : Bool
  j : ℕ
  sampleIndex : ℕ
  data : Data

/-- The value of a signal of `n` bytes from `j` on, unless a byte is outside. No case stores one of another size. -/
def signal (bytes : List UInt8) (j : ℕ) : (n : ℕ) → Option (Option UInt32 × ℕ)
  | 1 => do
    let b₀ ← bytes[j]?
    some (some b₀.toUInt32, j + 1)
  | 2 => do
    let b₀ ← bytes[j]?
    let b₁ ← bytes[j + 1]?
    some (some ((b₀.toUInt32 <<< 8) ||| b₁.toUInt32), j + 2)
  | 3 => do
    let b₀ ← bytes[j]?
    let b₁ ← bytes[j + 1]?
    let b₂ ← bytes[j + 2]?
    some (some ((b₀.toUInt32 <<< 8) ||| b₁.toUInt32 ||| (b₂.toUInt32 <<< 16)), j + 3)
  | 4 => do
    let b₀ ← bytes[j]?
    let b₁ ← bytes[j + 1]?
    let b₂ ← bytes[j + 2]?
    let b₃ ← bytes[j + 3]?
    some (some ((b₀.toUInt32 <<< 8) ||| b₁.toUInt32 ||| (b₂.toUInt32 <<< 24) ||| (b₃.toUInt32 <<< 16)), j + 4)
  | _ => some (none, j)

variable (tab : List UInt8) (dualChan : UInt16) (bytes : List UInt8)

/-- The body of the loop, unless it reads outside an array. -/
def unpackStep (s : State) : Option State := do
  let n ← tab[s.i]?
  if n = 0 then some s
  else
    let (value, j) ← signal bytes s.j n.toNat
    let data := match value with
      | none => s.data
      | some v => Function.update s.data s.sampleIndex (some v)
    let again := isDual dualChan s.i && !s.gotOne
    some { i := if again then s.i else s.i + 1, gotOne := again, j, sampleIndex := s.sampleIndex + 1, data }

/-- `do {..} while(i < no_slots)`, with a bound on the passes: `some none` after a read outside an array. -/
def unpackLoop : ℕ → State → Option (Option Data)
  | 0, _ => none
  | fuel + 1, s =>
    match unpackStep tab dualChan bytes s with
    | none => some none
    | some s => if s.i < tab.length then unpackLoop fuel s else some (some s.data)

end Adpd410xPacket

namespace Adpd410x
open Adpd410xPacket

variable (dev : Adpd410x)

/-- The part of `adpd410x_get_data_packet` before the loop: the sizes and the bytes. The allocations succeed. There are no
more than 112 words, so that the index of 8 bits does not overflow. -/
def readPacket (noSlots : ℕ) (dualChan : UInt16) : Fallible Port (List UInt8 × List UInt8) := do
  let tab ← dev.readTab noSlots 0
  let expect := expectByteCount dualChan 0 tab
  let expect := if expect % 2 ≠ 0 then expect + 1 else expect
  let buff ← dev.readBuff (expect / 2)
  pure (tab, byteBuff buff)

/-- The number of slots and the mask of those with two channels. -/
def readHeader : Fallible Port (ℕ × UInt16) := do
  let tempData ← dev.regRead dev.opmode
  let tsNo := ((tempData &&& BITM_OPMODE_TIMESLOT_EN) >>> BITP_OPMODE_TIMESLOT_EN).toUInt8 + 1
  let dualChan ← dev.readDualChan tsNo.toNat 0 0
  pure (tsNo.toNat, dualChan)

/-- The reads of `adpd410x_get_data` and of the packet. -/
def readAll : Fallible Port (List UInt8 × UInt16 × List UInt8) := do
  let (tsNo, dualChan) ← dev.readHeader
  let (tab, bytes) ← dev.readPacket tsNo dualChan
  pure (tab, dualChan, bytes)

/-- `adpd410x_get_data` with a bound on the passes of its last loop. A success has what has been stored, or nothing if an
array has been read outside. -/
def getData (fuel : ℕ) (s : Port) : Option (Except Int (Option Data)) × Port :=
  match dev.readAll s with
  | (.error ret, s) => (some (.error ret), s)
  | (.ok (tab, dualChan, bytes), s) => ((unpackLoop tab dualChan bytes fuel ⟨0, false, 0, 0, fun _ => none⟩).map .ok, s)

def noSlots : ℕ := ((dev.opmode &&& BITM_OPMODE_TIMESLOT_EN) >>> BITP_OPMODE_TIMESLOT_EN).toNat + 1

def signalSize (i : ℕ) : ℕ := (dev.data1 i &&& BITM_DATA1_A_SIGNAL_SIZE).toNat

/-- The sizes of the signals of the slots from `i` on, for each channel. -/
def entriesFrom (k i : ℕ) : List ℕ :=
  match k with
  | 0 => []
  | k + 1 => List.replicate (if dev.tsCtrl i &&& BITM_TS_CTRL_A_CH2_EN ≠ 0 then 2 else 1) (dev.signalSize i) ++
      entriesFrom k (i + 1)

/-- The signals of the packet. Slots with a size of 0 have none. -/
def entries : List ℕ := (dev.entriesFrom dev.noSlots 0).filter (· ≠ 0)

def fifoByte (j : ℕ) : ℕ :=
  if j % 2 = 0 then (dev.fifo (j / 2)).toNat / 256 else (dev.fifo (j / 2)).toNat % 256

end Adpd410x

namespace Adpd410xPacket
open Adpd410x

/-- The value of a signal of `n` bytes `b`. -/
def assemble (n : ℕ) (b : ℕ → ℕ) : ℕ :=
  match n with
  | 1 => b 0
  | 2 => b 0 * 256 + b 1
  | 3 => b 2 * 65536 + (b 0 * 256 + b 1)
  | _ => (b 2 * 256 + b 3) * 65536 + (b 0 * 256 + b 1)

/-- Every signal is stored, one of up to 4 bytes as it is made of its own bytes of the packet, and nothing else is. -/
structure Stored (dev : Adpd410x) (data : Data) : Prop where
  all : ∀ k n, dev.entries[k]? = some n → ∃ v, data k = some v ∧
    (n ≤ 4 → v.toNat = assemble n fun t => dev.fifoByte ((dev.entries.take k).sum + t))
  only : ∀ k, dev.entries.length ≤ k → data k = none

/-- The call ends without a read outside an array, and on success the words of the packet have left the FIFO and all
signals are stored. -/
def Right (dev : Adpd410x) : Prop :=
  ∃ fuel result s, dev.getData fuel ⟨0, 0⟩ = (some result, s) ∧
    match result with
    | .error _ => True
    | .ok none => False
    | .ok (some data) => s.popped = (dev.entries.sum + 1) / 2 ∧ Stored dev data

section Loop

variable {tab pre rest : List UInt8} {dualChan : UInt16} {bytes : List UInt8} {s t : State} {n : UInt8} {k j : ℕ} {data : Data}

/-- The byte at `j`. -/
def byteAt (bytes : List UInt8) (j : ℕ) : ℕ := (bytes.getD j 0).toNat

lemma getElem?_of_lt (h : j < bytes.length) : ∃ b, bytes[j]? = some b ∧ b.toNat = byteAt bytes j := by
  refine ⟨bytes[j], List.getElem?_eq_getElem h, ?_⟩
  rw [byteAt, List.getD_eq_getElem?_getD, List.getElem?_eq_getElem h]
  rfl

lemma toNat_pair (b₀ b₁ : UInt8) : ((b₀.toUInt32 <<< 8) ||| b₁.toUInt32).toNat = b₀.toNat * 256 + b₁.toNat := by
  have h₀ := b₀.toNat_lt
  have h₁ := b₁.toNat_lt
  have hshift : (8 : UInt32).toNat % 32 = 8 := rfl
  have hmod : b₀.toNat <<< 8 % 2 ^ 32 = b₀.toNat <<< 8 := by
    rw [Nat.shiftLeft_eq]
    lia
  rw [UInt32.toNat_or, UInt32.toNat_shiftLeft, hshift, UInt8.toNat_toUInt32, UInt8.toNat_toUInt32, hmod,
    ← Nat.shiftLeft_add_eq_or_of_lt (by omega), Nat.shiftLeft_eq]

/-- The upper half of a word is joined to a lower half of 16 bits. -/
lemma toNat_or_high {low high : UInt32} {h : ℕ} (hlow : low.toNat < 2 ^ 16) (hhigh : high.toNat = h <<< 16) :
    (low ||| high).toNat = h * 65536 + low.toNat := by
  rw [UInt32.toNat_or, hhigh, Nat.or_comm, ← Nat.shiftLeft_add_eq_or_of_lt (by omega), Nat.shiftLeft_eq]

lemma toNat_third (b : UInt8) : (b.toUInt32 <<< 16).toNat = b.toNat <<< 16 := by
  have hb := b.toNat_lt
  have hshift : (16 : UInt32).toNat % 32 = 16 := rfl
  rw [UInt32.toNat_shiftLeft, hshift, UInt8.toNat_toUInt32, Nat.shiftLeft_eq]
  lia

lemma toNat_upper (b₂ b₃ : UInt8) : ((b₂.toUInt32 <<< 24) ||| (b₃.toUInt32 <<< 16)).toNat =
    (b₂.toNat * 256 + b₃.toNat) <<< 16 := by
  have h₂ := b₂.toNat_lt
  have h₃ := b₃.toNat_lt
  have hshift : (24 : UInt32).toNat % 32 = 24 := rfl
  have hfirst : (b₂.toUInt32 <<< 24).toNat = b₂.toNat <<< 24 := by
    rw [UInt32.toNat_shiftLeft, hshift, UInt8.toNat_toUInt32, Nat.shiftLeft_eq]
    lia
  rw [UInt32.toNat_or, toNat_third, hfirst, ← Nat.shiftLeft_add_eq_or_of_lt (by rw [Nat.shiftLeft_eq]; lia),
    Nat.shiftLeft_eq, Nat.shiftLeft_eq, Nat.shiftLeft_eq]
  lia

lemma signal_eq {n : ℕ} (hpos : 1 ≤ n) (hn : n ≤ 4) (hend : j + n ≤ bytes.length) :
    ∃ v, signal bytes j n = some (some v, j + n) ∧ v.toNat = assemble n fun t => byteAt bytes (j + t) := by
  have hbyte : ∀ t < n, ∃ b, bytes[j + t]? = some b ∧ b.toNat = byteAt bytes (j + t) := fun t ht =>
    getElem?_of_lt (by lia)
  obtain ⟨b₀, h₀, hv₀⟩ := hbyte 0 hpos
  rw [Nat.add_zero] at h₀
  rcases (by lia : n = 1 ∨ n = 2 ∨ n = 3 ∨ n = 4) with rfl | rfl | rfl | rfl
  · refine ⟨b₀.toUInt32, by rw [signal, h₀]; rfl, ?_⟩
    rw [assemble, UInt8.toNat_toUInt32, hv₀]
  · obtain ⟨b₁, h₁, hv₁⟩ := hbyte 1 (by decide)
    refine ⟨_, by rw [signal, h₀, h₁]; rfl, ?_⟩
    rw [assemble, toNat_pair, hv₀, hv₁]
  · obtain ⟨b₁, h₁, hv₁⟩ := hbyte 1 (by decide)
    obtain ⟨b₂, h₂, hv₂⟩ := hbyte 2 (by decide)
    refine ⟨_, by rw [signal, h₀, h₁, h₂]; rfl, ?_⟩
    have hpair := toNat_pair b₀ b₁
    have hl₀ := b₀.toNat_lt
    have hl₁ := b₁.toNat_lt
    rw [assemble, toNat_or_high (by rw [hpair]; lia) (toNat_third b₂), hpair, hv₀, hv₁, hv₂]
  · obtain ⟨b₁, h₁, hv₁⟩ := hbyte 1 (by decide)
    obtain ⟨b₂, h₂, hv₂⟩ := hbyte 2 (by decide)
    obtain ⟨b₃, h₃, hv₃⟩ := hbyte 3 (by decide)
    refine ⟨_, by rw [signal, h₀, h₁, h₂, h₃]; rfl, ?_⟩
    have hpair := toNat_pair b₀ b₁
    have hl₀ := b₀.toNat_lt
    have hl₁ := b₁.toNat_lt
    rw [UInt32.or_assoc, toNat_or_high (by rw [hpair]; lia) (toNat_upper b₂ b₃), hpair, hv₀, hv₁, hv₂, hv₃]
    rfl

lemma signal_above {n : ℕ} (hn : 4 < n) : signal bytes j n = some (none, j) := by
  match n with
  | n + 5 => rfl

/-- The sizes of the signals, for each channel of the slots from `i` on. -/
def slotEntries (dualChan : UInt16) : (i : ℕ) → List UInt8 → List ℕ
  | _, [] => []
  | i, n :: tab => List.replicate (if isDual dualChan i then 2 else 1) n.toNat ++ slotEntries dualChan (i + 1) tab

/-- The bytes that the loop has gone on by, after the signals of the sizes `p`. -/
def consumed (p : List ℕ) : ℕ := (p.filter (· ≤ 4)).sum

lemma consumed_append (p q : List ℕ) : consumed (p ++ q) = consumed p + consumed q := by
  rw [consumed, List.filter_append, List.sum_append]
  rfl

lemma consumed_cons (n : ℕ) (p : List ℕ) : consumed (n :: p) = (if n ≤ 4 then n else 0) + consumed p := by
  rw [consumed, List.filter_cons]
  split_ifs with h h' h'
  · rfl
  · exact absurd (of_decide_eq_true h) h'
  · exact absurd (decide_eq_true h') h
  · exact (Nat.zero_add _).symm

/-- Signals of up to 4 bytes are stored, and longer ones are not. -/
structure Filled (bytes : List UInt8) (p : List ℕ) (data : Data) : Prop where
  short : ∀ k n, p[k]? = some n → n ≤ 4 → ∃ v, data k = some v ∧
    v.toNat = assemble n fun t => byteAt bytes (consumed (p.take k) + t)
  long : ∀ k n, p[k]? = some n → 4 < n → data k = none
  only : ∀ k, p.length ≤ k → data k = none

variable {p : List ℕ} {m : ℕ}

lemma Filled.short_step (h : Filled bytes p data) (hm : m ≤ 4) {v : UInt32}
    (hv : v.toNat = assemble m fun t => byteAt bytes (consumed p + t)) :
    Filled bytes (p ++ [m]) (Function.update data p.length (some v)) := by
  constructor
  · intro k n hk hn
    rcases Nat.lt_trichotomy k p.length with hlt | rfl | hgt
    · rw [List.getElem?_append_left hlt] at hk
      rw [Function.update_of_ne hlt.ne, List.take_append_of_le_length hlt.le]
      exact h.short k n hk hn
    · rw [List.getElem?_concat_length, Option.some_inj] at hk
      rw [Function.update_self, List.take_left' rfl, ← hk]
      exact ⟨v, rfl, hv⟩
    · rw [List.getElem?_eq_none (by rw [List.length_append, List.length_singleton]; lia)] at hk
      cases hk
  · intro k n hk hn
    rcases Nat.lt_trichotomy k p.length with hlt | rfl | hgt
    · rw [List.getElem?_append_left hlt] at hk
      rw [Function.update_of_ne hlt.ne]
      exact h.long k n hk hn
    · rw [List.getElem?_concat_length, Option.some_inj] at hk
      lia
    · rw [List.getElem?_eq_none (by rw [List.length_append, List.length_singleton]; lia)] at hk
      cases hk
  · intro k hk
    rw [List.length_append, List.length_singleton] at hk
    rw [Function.update_of_ne (by omega)]
    exact h.only k (by lia)

lemma Filled.long_step (h : Filled bytes p data) (hm : 4 < m) : Filled bytes (p ++ [m]) data := by
  constructor
  · intro k n hk hn
    rcases Nat.lt_trichotomy k p.length with hlt | rfl | hgt
    · rw [List.getElem?_append_left hlt] at hk
      rw [List.take_append_of_le_length hlt.le]
      exact h.short k n hk hn
    · rw [List.getElem?_concat_length, Option.some_inj] at hk
      lia
    · rw [List.getElem?_eq_none (by rw [List.length_append, List.length_singleton]; lia)] at hk
      cases hk
  · intro k n hk hn
    rcases Nat.lt_or_ge k p.length with hlt | hge
    · rw [List.getElem?_append_left hlt] at hk
      exact h.long k n hk hn
    · exact h.only k hge
  · intro k hk
    rw [List.length_append, List.length_singleton] at hk
    exact h.only k (by omega)

/-- The variables of the loop after the signals of the sizes `p`. -/
structure At (bytes : List UInt8) (p : List ℕ) (s : State) : Prop where
  sampleIndex : s.sampleIndex = p.length
  j : s.j = consumed p
  filled : Filled bytes p s.data

lemma unpackStep_at (dualChan : UInt16) (h : At bytes p s) (hslot : tab[s.i]? = some n) (hn : n ≠ 0)
    (hend : consumed (p ++ [n.toNat]) ≤ bytes.length) :
    ∃ t, unpackStep tab dualChan bytes s = some t ∧ At bytes (p ++ [n.toNat]) t ∧
      t.gotOne = (isDual dualChan s.i && !s.gotOne) ∧
      t.i = if isDual dualChan s.i && !s.gotOne then s.i else s.i + 1 := by
  have hpos : 1 ≤ n.toNat := Nat.pos_of_ne_zero fun hzero => hn (UInt8.toNat_inj.mp hzero)
  have hlen : s.sampleIndex + 1 = (p ++ [n.toNat]).length := by rw [h.sampleIndex, List.length_append, List.length_singleton]
  have hnil : consumed [] = 0 := rfl
  rw [consumed_append, consumed_cons, hnil] at hend
  by_cases hshort : n.toNat ≤ 4
  · rw [if_pos hshort] at hend
    obtain ⟨v, hv, hval⟩ := signal_eq (j := s.j) hpos hshort (by rw [h.j]; omega)
    refine ⟨_, by rw [unpackStep, hslot, Option.bind_eq_bind, Option.bind_some, if_neg hn, hv]; rfl, ⟨hlen, ?_, ?_⟩, rfl, rfl⟩
    · rw [consumed_append, consumed_cons, hnil, if_pos hshort, ← h.j]
      rfl
    · rw [h.j] at hval
      dsimp only
      rw [h.sampleIndex]
      exact h.filled.short_step hshort hval
  · have hlong : 4 < n.toNat := Nat.lt_of_not_le hshort
    refine ⟨_, by rw [unpackStep, hslot, Option.bind_eq_bind, Option.bind_some, if_neg hn, signal_above hlong]; rfl,
      ⟨hlen, ?_, ?_⟩, rfl, rfl⟩
    · rw [consumed_append, consumed_cons, hnil, if_neg hshort, ← h.j]
      rfl
    · exact h.filled.long_step hlong

lemma unpackLoop_leads (h : unpackStep tab dualChan bytes s = some t) (hi : t.i < tab.length) :
    Leads none (unpackLoop tab dualChan bytes) s t := by
  refine Leads.step rfl fun fuel => ?_
  rw [unpackLoop, h]
  exact if_pos hi

lemma unpackLoop_ends (h : unpackStep tab dualChan bytes s = some t) (hi : ¬t.i < tab.length) :
    Ends none (unpackLoop tab dualChan bytes) s (some (some t.data)) := by
  refine Ends.step rfl fun fuel => ?_
  rw [unpackLoop, h]
  exact if_neg hi

/-- Without a slot of size 0 the loop ends with all signals. -/
theorem unpack_ends (htab : tab = pre ++ rest) (hne : rest ≠ []) (hsize : ∀ n ∈ rest, n ≠ 0) (hi : s.i = pre.length)
    (hone : s.gotOne = false) (h : At bytes p s)
    (hend : consumed (p ++ slotEntries dualChan pre.length rest) ≤ bytes.length) :
    ∃ data, Ends none (unpackLoop tab dualChan bytes) s (some (some data)) ∧
      Filled bytes (p ++ slotEntries dualChan pre.length rest) data := by
  induction rest generalizing pre p s with
  | nil => exact absurd rfl hne
  | cons n rest ih =>
    have hn := hsize n List.mem_cons_self
    have hslot : tab[pre.length]? = some n := by
      rw [htab, List.getElem?_append_right le_rfl, Nat.sub_self]
      rfl
    have hlen : tab.length = pre.length + (rest.length + 1) := by rw [htab, List.length_append, List.length_cons]
    have hpre : pre.length + 1 = (pre ++ [n]).length := by rw [List.length_append, List.length_singleton]
    -- the pass after which the next slot comes
    have hlast : ∀ (s t : State) (q : List ℕ), unpackStep tab dualChan bytes s = some t → t.i = pre.length + 1 →
        t.gotOne = false → At bytes q t → consumed (q ++ slotEntries dualChan (pre.length + 1) rest) ≤ bytes.length →
        ∃ data, Ends none (unpackLoop tab dualChan bytes) s (some (some data)) ∧
          Filled bytes (q ++ slotEntries dualChan (pre.length + 1) rest) data := by
      intro s t q hstep hi hone hat hend
      by_cases hnil : rest = []
      · refine ⟨t.data, unpackLoop_ends hstep ?_, ?_⟩
        · rw [hi, hlen, hnil, List.length_nil]
          lia
        · rw [hnil, slotEntries, List.append_nil]
          exact hat.filled
      · have hrest := List.length_pos_iff.mpr hnil
        rw [hpre] at hend ⊢
        obtain ⟨data, hends, hfilled⟩ := ih (by rw [htab, List.append_cons]) hnil
          (fun m hm => hsize m (List.mem_cons_of_mem n hm)) (hi.trans hpre) hone hat hend
        exact ⟨data, (unpackLoop_leads hstep (by lia)).ends hends, hfilled⟩
    rw [slotEntries] at hend ⊢
    by_cases hdual : isDual dualChan pre.length = true
    · rw [if_pos hdual] at hend ⊢
      have hsplit : p ++ (List.replicate 2 n.toNat ++ slotEntries dualChan (pre.length + 1) rest) =
          p ++ [n.toNat] ++ [n.toNat] ++ slotEntries dualChan (pre.length + 1) rest := by
        rw [List.append_assoc, List.append_assoc]
        rfl
      rw [hsplit] at hend ⊢
      have hfits := hend
      rw [consumed_append] at hfits
      have hfirst := (Nat.le_add_right _ _).trans hfits
      rw [consumed_append] at hfirst
      obtain ⟨t, ht, hat, hone', hi'⟩ := unpackStep_at dualChan h (by rw [hi]; exact hslot) hn
        ((Nat.le_add_right _ _).trans hfirst)
      rw [hi, hdual, hone] at hone' hi'
      have hit : t.i = pre.length := hi'
      have hgot : t.gotOne = true := hone'
      obtain ⟨u, hu, hau, hone'', hi''⟩ := unpackStep_at dualChan hat (by rw [hit]; exact hslot) hn
        ((Nat.le_add_right _ _).trans hfits)
      rw [hit, hdual, hgot] at hone'' hi''
      obtain ⟨data, hends, hfilled⟩ := hlast t u _ hu hi'' hone'' hau hend
      exact ⟨data, (unpackLoop_leads ht (by lia)).ends hends, hfilled⟩
    · rw [if_neg hdual] at hend ⊢
      have hsplit : p ++ (List.replicate 1 n.toNat ++ slotEntries dualChan (pre.length + 1) rest) =
          p ++ [n.toNat] ++ slotEntries dualChan (pre.length + 1) rest := by
        rw [List.append_assoc]
        rfl
      rw [hsplit] at hend ⊢
      have hfits := hend
      rw [consumed_append] at hfits
      obtain ⟨t, ht, hat, hone', hi'⟩ := unpackStep_at dualChan h (by rw [hi]; exact hslot) hn
        ((Nat.le_add_right _ _).trans hfits)
      rw [hi, Bool.eq_false_iff.mpr hdual] at hone' hi'
      exact hlast s t _ ht hi' hone' hat hend

lemma unpackStep_zero (h : tab[s.i]? = some 0) : unpackStep tab dualChan bytes s = some s := by
  rw [unpackStep, h]
  rfl

/-- A pass over a slot with a size stays in the slot or goes on to the next one. -/
lemma unpackStep_i (h : unpackStep tab dualChan bytes s = some t) (hslot : tab[s.i]? = some n) (hn : n ≠ 0) :
    t.i = s.i ∨ t.i = s.i + 1 := by
  rw [unpackStep, hslot, Option.bind_eq_bind, Option.bind_some, if_neg hn, Option.bind_eq_bind, Option.bind_eq_some_iff] at h
  obtain ⟨r, -, ht⟩ := h
  have hi := congrArg State.i (Option.some_inj.mp ht)
  dsimp only at hi
  rw [← hi]
  split_ifs
  · exact Or.inl rfl
  · exact Or.inr rfl

/-- A loop that ends has not met a slot of size 0. -/
theorem ne_zero_of_unpackLoop {fuel m : ℕ} (h : unpackLoop tab dualChan bytes fuel s = some (some data)) (hs : s.i ≤ m)
    (hm : tab[m]? = some n) : n ≠ 0 := by
  induction fuel generalizing s m n with
  | zero => cases h
  | succ fuel ih =>
    have hlen : m < tab.length := (List.getElem?_eq_some_iff.mp hm).1
    have hslot : tab[s.i]? = some tab[s.i] := List.getElem?_eq_getElem (by lia)
    rw [unpackLoop] at h
    by_cases hzero : tab[s.i] = 0
    · rw [hzero] at hslot
      rw [unpackStep_zero hslot] at h
      dsimp only at h
      rw [if_pos (by lia)] at h
      exact absurd rfl (ih h le_rfl hslot)
    · cases hstep : unpackStep tab dualChan bytes s with
      | none =>
        rw [hstep] at h
        cases h
      | some t =>
        rw [hstep] at h
        dsimp only at h
        have hnext := unpackStep_i hstep hslot hzero
        rcases Nat.eq_or_lt_of_le hs with heq | hlt
        · rw [← heq, hslot, Option.some_inj] at hm
          rwa [← hm]
        · rw [if_pos (by lia)] at h
          exact ih h (by lia) hm

end Loop

section Reads

variable {dev : Adpd410x} {s : Port} {dualChan : UInt16} {i k m : ℕ}

lemma isDual_eq (hm : m < 16) : isDual dualChan m = dualChan.toNat.testBit m := by
  have hshift : (UInt16.ofNat m).toNat % 16 = m := by
    rw [UInt16.toNat_ofNat']
    lia
  have hone : ((1 : UInt16) <<< UInt16.ofNat m).toNat = 2 ^ m := by
    have hlt : 2 ^ m < 2 ^ 16 := Nat.pow_lt_pow_right (by decide) hm
    have h1 : (1 : UInt16).toNat = 1 := rfl
    rw [UInt16.toNat_shiftLeft, hshift, h1, Nat.one_shiftLeft, Nat.mod_eq_of_lt hlt]
  rw [isDual]
  cases hbit : dualChan.toNat.testBit m with
  | false =>
    have hzero : (dualChan &&& (1 <<< UInt16.ofNat m)) = 0 := by
      apply UInt16.toNat_inj.mp
      rw [UInt16.toNat_and, hone, Nat.and_two_pow, hbit]
      exact Nat.zero_mul _
    rw [hzero]
    rfl
  | true =>
    have hne : (dualChan &&& (1 <<< UInt16.ofNat m)) ≠ 0 := by
      intro hzero
      have hnat := congrArg UInt16.toNat hzero
      rw [UInt16.toNat_and, hone, Nat.and_two_pow, hbit, Bool.toNat_true, Nat.one_mul] at hnat
      exact absurd hnat (Nat.two_pow_pos m).ne'
    exact decide_eq_true hne

lemma isDual_or (hi : i < 16) (hm : m < 16) :
    isDual (dualChan ||| (1 <<< UInt16.ofNat i)) m = (isDual dualChan m || decide (i = m)) := by
  have hshift : (UInt16.ofNat i).toNat % 16 = i := by
    rw [UInt16.toNat_ofNat']
    lia
  have hlt : 2 ^ i < 2 ^ 16 := Nat.pow_lt_pow_right (by decide) hi
  have h1 : (1 : UInt16).toNat = 1 := rfl
  rw [isDual_eq hm, isDual_eq hm, UInt16.toNat_or, UInt16.toNat_shiftLeft, hshift, h1, Nat.one_shiftLeft,
    Nat.mod_eq_of_lt hlt, Nat.testBit_or, Nat.testBit_two_pow]

lemma ensures_regRead (value : UInt16) : Fallible.Ensures (dev.regRead value) s fun a t => a = value ∧ t.popped = s.popped := by
  intro a t hrun
  rw [regRead] at hrun
  split_ifs at hrun with hcode
  · exact absurd (Prod.mk.inj hrun).1 nofun
  · obtain ⟨hval, rfl⟩ := Prod.mk.inj hrun
    exact ⟨(Except.ok.inj hval).symm, rfl⟩

lemma ensures_fifoRead : Fallible.Ensures dev.fifoRead s fun a t => a = dev.fifo s.popped ∧ t.popped = s.popped + 1 := by
  intro a t hrun
  rw [fifoRead] at hrun
  dsimp only at hrun
  split_ifs at hrun with hcode
  · exact absurd (Prod.mk.inj hrun).1 nofun
  · obtain ⟨hval, rfl⟩ := Prod.mk.inj hrun
    exact ⟨(Except.ok.inj hval).symm, rfl⟩

/-- Whether the slot has a second channel. -/
def ch2 (dev : Adpd410x) (i : ℕ) : Bool := dev.tsCtrl i &&& BITM_TS_CTRL_A_CH2_EN ≠ 0

lemma ensures_readDualChan (hk : i + k ≤ 16) : Fallible.Ensures (dev.readDualChan k i dualChan) s fun d t =>
    t.popped = s.popped ∧ ∀ m < 16, isDual d m = (isDual dualChan m || (decide (i ≤ m ∧ m < i + k) && ch2 dev m)) := by
  induction k generalizing i dualChan s with
  | zero =>
    refine Fallible.Ensures.pure ⟨rfl, fun m _ => ?_⟩
    have hnone : ¬(i ≤ m ∧ m < i + 0) := by lia
    rw [decide_eq_false hnone, Bool.false_and, Bool.or_false]
  | succ k ih =>
    rw [readDualChan]
    refine Fallible.Ensures.bind_of (ensures_regRead _) fun tempData t ht => ?_
    refine (ih (by lia)).mono fun d u hu => ⟨hu.1.trans ht.2, fun m hm => ?_⟩
    rw [hu.2 m hm, ht.1]
    have hch : dev.tsCtrl i &&& BITM_TS_CTRL_A_CH2_EN ≠ 0 ↔ ch2 dev i = true := decide_eq_true_iff.symm
    have hrange : (decide (i ≤ m ∧ m < i + (k + 1)) && ch2 dev m) =
        ((decide (i = m) && ch2 dev i) || (decide (i + 1 ≤ m ∧ m < i + 1 + k) && ch2 dev m)) := by
      by_cases heq : i = m
      · subst heq
        have hin : i ≤ i ∧ i < i + (k + 1) := by lia
        have hout : ¬(i + 1 ≤ i ∧ i < i + 1 + k) := by omega
        rw [decide_eq_true hin, decide_eq_false hout, decide_eq_true rfl, Bool.false_and, Bool.or_false]
      · have hsame : (i ≤ m ∧ m < i + (k + 1)) ↔ (i + 1 ≤ m ∧ m < i + 1 + k) := by lia
        rw [decide_eq_false heq, Bool.false_and, Bool.false_or, decide_eq_decide.mpr hsame]
    rw [hrange]
    split_ifs with hset
    · rw [isDual_or (by lia) hm, hch.mp hset, Bool.and_true, Bool.or_assoc]
    · rw [Bool.eq_false_iff.mpr (mt hch.mpr hset), Bool.and_false, Bool.false_or]

lemma ensures_readTab : Fallible.Ensures (dev.readTab k i) s fun tab t =>
    t.popped = s.popped ∧ tab = (List.range' i k).map fun i => (dev.data1 i &&& BITM_DATA1_A_SIGNAL_SIZE).toUInt8 := by
  induction k generalizing i s with
  | zero => exact Fallible.Ensures.pure ⟨rfl, rfl⟩
  | succ k ih =>
    rw [readTab]
    refine Fallible.Ensures.bind_of (ensures_regRead _) fun tempData t ht => ?_
    refine Fallible.Ensures.bind_of ih fun tab u hu => Fallible.Ensures.pure ⟨hu.1.trans ht.2, ?_⟩
    rw [ht.1, hu.2, List.range'_succ, List.map_cons]

lemma ensures_readBuff : Fallible.Ensures (dev.readBuff k) s fun buff t =>
    t.popped = s.popped + k ∧ buff = (List.range' s.popped k).map dev.fifo := by
  induction k generalizing s with
  | zero => exact Fallible.Ensures.pure ⟨rfl, rfl⟩
  | succ k ih =>
    rw [readBuff]
    refine Fallible.Ensures.bind_of ensures_fifoRead fun w t ht => ?_
    refine Fallible.Ensures.bind_of ih fun buff u hu => Fallible.Ensures.pure ⟨?_, ?_⟩
    · rw [hu.1, ht.2]
      lia
    · rw [ht.1, hu.2, ht.2, List.range'_succ, List.map_cons]

/-- The program returns a value from every state. -/
def Succeeds {σ α : Type} (x : Fallible σ α) : Prop := ∀ s, ∃ a t, x s = (.ok a, t)

lemma Succeeds.bind {σ α β : Type} {x : Fallible σ α} {f : α → Fallible σ β} (hx : Succeeds x) (hf : ∀ a, Succeeds (f a)) :
    Succeeds (x >>= f) := by
  intro s
  obtain ⟨a, t, hrun⟩ := hx s
  rw [Fallible.bind_ok hrun]
  exact hf a t

lemma Succeeds.pure {σ α : Type} (a : α) : Succeeds (Pure.pure a : Fallible σ α) := fun s => ⟨a, s, rfl⟩

section Succeeds

variable (hcode : ∀ n, dev.code n = SUCCESS)
include hcode

lemma succeeds_regRead (value : UInt16) : Succeeds (dev.regRead value) :=
  fun s => ⟨value, _, if_neg (not_not.mpr (hcode s.reads))⟩

lemma succeeds_fifoRead : Succeeds dev.fifoRead := fun s => ⟨dev.fifo s.popped, _, if_neg (not_not.mpr (hcode s.reads))⟩

lemma succeeds_readDualChan (k i : ℕ) (dualChan : UInt16) : Succeeds (dev.readDualChan k i dualChan) := by
  induction k generalizing i dualChan with
  | zero => exact Succeeds.pure dualChan
  | succ k ih => exact (succeeds_regRead hcode _).bind fun _ => ih _ _

lemma succeeds_readTab (k i : ℕ) : Succeeds (dev.readTab k i) := by
  induction k generalizing i with
  | zero => exact Succeeds.pure []
  | succ k ih => exact (succeeds_regRead hcode _).bind fun _ => (ih _).bind fun _ => Succeeds.pure _

lemma succeeds_readBuff (k : ℕ) : Succeeds (dev.readBuff k) := by
  induction k with
  | zero => exact Succeeds.pure []
  | succ k ih => exact (succeeds_fifoRead hcode).bind fun _ => ih.bind fun _ => Succeeds.pure _

lemma succeeds_readAll : Succeeds dev.readAll :=
  ((succeeds_regRead hcode _).bind fun _ => (succeeds_readDualChan hcode _ _ _).bind fun _ => Succeeds.pure _).bind fun _ =>
    ((succeeds_readTab hcode _ _).bind fun _ => (succeeds_readBuff hcode _).bind fun _ => Succeeds.pure _).bind fun _ =>
      Succeeds.pure _

end Succeeds

variable {tab : List UInt8}

lemma expectByteCount_eq : expectByteCount dualChan i tab = (slotEntries dualChan i tab).sum := by
  induction tab generalizing i with
  | nil => rfl
  | cons n tab ih =>
    rw [expectByteCount, slotEntries, List.sum_append, ih]
    split_ifs
    · rfl
    · rfl

lemma toNat_size (dev : Adpd410x) (i : ℕ) :
    (dev.data1 i &&& BITM_DATA1_A_SIGNAL_SIZE).toUInt8.toNat = dev.signalSize i := by
  have hmask : BITM_DATA1_A_SIGNAL_SIZE.toNat = 2 ^ 3 - 1 := rfl
  have hlt : dev.signalSize i < 8 := by
    rw [signalSize, UInt16.toNat_and, hmask, Nat.and_two_pow_sub_one_eq_mod]
    lia
  rw [UInt16.toNat_toUInt8]
  exact Nat.mod_eq_of_lt (by rw [signalSize] at hlt; omega)

lemma slotEntries_eq (hdual : ∀ m, i ≤ m → m < i + k → isDual dualChan m = ch2 dev m) :
    slotEntries dualChan i ((List.range' i k).map fun i => (dev.data1 i &&& BITM_DATA1_A_SIGNAL_SIZE).toUInt8) =
      dev.entriesFrom k i := by
  induction k generalizing i with
  | zero => rfl
  | succ k ih =>
    have hch : isDual dualChan i = true ↔ dev.tsCtrl i &&& BITM_TS_CTRL_A_CH2_EN ≠ 0 := by
      rw [hdual i le_rfl (by omega)]
      exact decide_eq_true_iff
    rw [List.range'_succ, List.map_cons, slotEntries, entriesFrom, toNat_size, ih fun m hm hm' => hdual m (by omega) (by lia)]
    split_ifs with h h' h'
    · rfl
    · exact absurd (hch.mp h) h'
    · exact absurd (hch.mpr h') h
    · rfl

lemma byteBuff_cons (w : UInt16) (buff : List UInt16) :
    byteBuff (w :: buff) = ((w &&& 0xff00) >>> 8).toUInt8 :: (w &&& 0xff).toUInt8 :: byteBuff buff := rfl

lemma length_byteBuff (buff : List UInt16) : (byteBuff buff).length = 2 * buff.length := by
  induction buff with
  | nil => rfl
  | cons w buff ih =>
    rw [byteBuff_cons, List.length_cons, List.length_cons, List.length_cons, ih]
    lia

lemma toNat_bytes (w : UInt16) : ((w &&& 0xff00) >>> 8).toUInt8.toNat = w.toNat / 256 ∧ (w &&& 0xff).toUInt8.toNat = w.toNat % 256 := by
  have hlt := w.toNat_lt
  have hshift : (8 : UInt16).toNat % 16 = 8 := rfl
  have hhigh : ((0xff00 : UInt16).toNat >>> 8) = 2 ^ 8 - 1 := rfl
  have hlow : (0xff : UInt16).toNat = 2 ^ 8 - 1 := rfl
  constructor
  · rw [UInt16.toNat_toUInt8, UInt16.toNat_shiftRight, hshift, UInt16.toNat_and, Nat.shiftRight_and_distrib, hhigh,
      Nat.and_two_pow_sub_one_eq_mod, Nat.shiftRight_eq_div_pow]
    lia
  · rw [UInt16.toNat_toUInt8, UInt16.toNat_and, hlow, Nat.and_two_pow_sub_one_eq_mod]
    exact Nat.mod_mod _ _

lemma byteAt_byteBuff (f : ℕ → UInt16) (i k j : ℕ) (hj : j < 2 * k) : byteAt (byteBuff ((List.range' i k).map f)) j =
    if j % 2 = 0 then (f (i + j / 2)).toNat / 256 else (f (i + j / 2)).toNat % 256 := by
  induction k generalizing i j with
  | zero => omega
  | succ k ih =>
    rw [List.range'_succ, List.map_cons, byteBuff_cons]
    match j with
    | 0 => exact (toNat_bytes (f i)).1
    | 1 => exact (toNat_bytes (f i)).2
    | j + 2 =>
      have hnext := ih (i + 1) j (by lia)
      have hword : i + (j + 2) / 2 = i + 1 + j / 2 := by lia
      rw [Nat.add_mod_right, hword]
      exact hnext

/-- What is known after the reads. -/
structure ReadAll (dev : Adpd410x) (tab : List UInt8) (dualChan : UInt16) (bytes : List UInt8) (s : Port) : Prop where
  tab_eq : tab = (List.range' 0 dev.noSlots).map fun i => (dev.data1 i &&& BITM_DATA1_A_SIGNAL_SIZE).toUInt8
  slots : slotEntries dualChan 0 tab = dev.entriesFrom dev.noSlots 0
  popped : s.popped = ((dev.entriesFrom dev.noSlots 0).sum + 1) / 2
  length : bytes.length = 2 * (((dev.entriesFrom dev.noSlots 0).sum + 1) / 2)
  byte : ∀ j < bytes.length, byteAt bytes j = dev.fifoByte j

lemma noSlots_le (dev : Adpd410x) : dev.noSlots ≤ 16 := by
  have hshift : BITP_OPMODE_TIMESLOT_EN.toNat % 16 = 8 := rfl
  have hmask : (BITM_OPMODE_TIMESLOT_EN.toNat >>> 8) = 2 ^ 4 - 1 := rfl
  rw [noSlots, UInt16.toNat_shiftRight, hshift, UInt16.toNat_and, Nat.shiftRight_and_distrib, hmask,
    Nat.and_two_pow_sub_one_eq_mod]
  lia

lemma ensures_readAll : Fallible.Ensures dev.readAll ⟨0, 0⟩ fun r t => ReadAll dev r.1 r.2.1 r.2.2 t := by
  have hslots := noSlots_le dev
  have hcount : (((dev.opmode &&& BITM_OPMODE_TIMESLOT_EN) >>> BITP_OPMODE_TIMESLOT_EN).toUInt8 + 1).toNat = dev.noSlots := by
    rw [noSlots] at hslots ⊢
    rw [UInt8.toNat_add, UInt16.toNat_toUInt8]
    have hone : (1 : UInt8).toNat = 1 := rfl
    rw [hone]
    lia
  have hheader : Fallible.Ensures dev.readHeader ⟨0, 0⟩ fun r t => t.popped = 0 ∧ r.1 = dev.noSlots ∧
      ∀ m < 16, isDual r.2 m = (decide (m < dev.noSlots) && ch2 dev m) := by
    refine Fallible.Ensures.bind_of (ensures_regRead _) fun tempData t ht => ?_
    rw [ht.1]
    dsimp only
    rw [hcount]
    refine Fallible.Ensures.bind_of (ensures_readDualChan (by lia)) fun dualChan u hu => ?_
    refine Fallible.Ensures.pure ⟨hu.1.trans ht.2, rfl, fun m hm => ?_⟩
    have hzero : isDual 0 m = false := by
      rw [isDual_eq hm]
      exact Nat.zero_testBit m
    rw [hu.2 m hm, hzero, Bool.false_or, Nat.zero_add]
    simp only [Nat.zero_le, true_and]
  refine Fallible.Ensures.bind_of hheader fun r t ht => ?_
  obtain ⟨tsNo, dualChan⟩ := r
  obtain ⟨hpop, rfl, hdual⟩ := ht
  have hpacket : Fallible.Ensures (dev.readPacket dev.noSlots dualChan) t fun r u => ReadAll dev r.1 dualChan r.2 u := by
    refine Fallible.Ensures.bind_of ensures_readTab fun tab u hu => ?_
    have hentries : slotEntries dualChan 0 tab = dev.entriesFrom dev.noSlots 0 := by
      rw [hu.2]
      refine slotEntries_eq fun m _ hm => ?_
      rw [hdual m (by lia), decide_eq_true (by lia), Bool.true_and]
    have hwords : (if expectByteCount dualChan 0 tab % 2 ≠ 0 then expectByteCount dualChan 0 tab + 1
        else expectByteCount dualChan 0 tab) / 2 = ((dev.entriesFrom dev.noSlots 0).sum + 1) / 2 := by
      rw [expectByteCount_eq, hentries]
      split_ifs with hodd <;> lia
    dsimp only
    rw [hwords]
    refine Fallible.Ensures.bind_of ensures_readBuff fun buff v hv => Fallible.Ensures.pure ?_
    have hstart : u.popped = 0 := hu.1.trans hpop
    rw [hstart] at hv
    have hlen : (byteBuff buff).length = 2 * (((dev.entriesFrom dev.noSlots 0).sum + 1) / 2) := by
      rw [length_byteBuff, hv.2, List.length_map, List.length_range']
    refine ⟨hu.2, hentries, by rw [hv.1, Nat.zero_add], hlen, fun j hj => ?_⟩
    rw [hlen] at hj
    dsimp only
    rw [hv.2, byteAt_byteBuff _ _ _ _ hj, fifoByte, Nat.zero_add]
  refine Fallible.Ensures.bind_of hpacket fun r u hu => Fallible.Ensures.pure hu

end Reads

variable {dev : Adpd410x} {tab : List UInt8} {dualChan : UInt16} {bytes : List UInt8} {s : Port} {data : Data} {fuel k n : ℕ}

/-- Every slot has a signal of 1 to 4 bytes. -/
def SizesHandled (dev : Adpd410x) : Prop := ∀ i < dev.noSlots, 1 ≤ dev.signalSize i ∧ dev.signalSize i ≤ 4

lemma mem_entriesFrom {i : ℕ} : n ∈ dev.entriesFrom k i ↔ ∃ m, i ≤ m ∧ m < i + k ∧ dev.signalSize m = n := by
  induction k generalizing i with
  | zero =>
    rw [entriesFrom]
    exact iff_of_false List.not_mem_nil fun ⟨m, h, h', _⟩ => by lia
  | succ k ih =>
    have hone : ∀ c, c ≠ 0 → (n ∈ List.replicate c (dev.signalSize i) ↔ dev.signalSize i = n) := fun c hc => by
      rw [List.mem_replicate]
      exact ⟨fun h => h.2.symm, fun h => ⟨hc, h.symm⟩⟩
    rw [entriesFrom, List.mem_append, hone _ (by split_ifs <;> decide), ih]
    constructor
    · rintro (h | ⟨m, h, h', h''⟩)
      · exact ⟨i, le_rfl, by omega, h⟩
      · exact ⟨m, by omega, by lia, h''⟩
    · rintro ⟨m, h, h', h''⟩
      rcases Nat.eq_or_lt_of_le h with rfl | hlt
      · exact Or.inl h''
      · exact Or.inr ⟨m, hlt, by lia, h''⟩

lemma sum_filter_ne_zero (l : List ℕ) : (l.filter (· ≠ 0)).sum = l.sum := by
  induction l with
  | nil => rfl
  | cons n l ih =>
    rw [List.filter_cons, List.sum_cons]
    split_ifs with h
    · rw [List.sum_cons, ih]
    · have hzero : n = 0 := by
        by_contra hne
        exact h (decide_eq_true hne)
      rw [ih, hzero, Nat.zero_add]

lemma consumed_le (l : List ℕ) : consumed l ≤ l.sum := by
  induction l with
  | nil => exact Nat.le_refl 0
  | cons n l ih =>
    rw [consumed_cons, List.sum_cons]
    split_ifs <;> lia

lemma consumed_eq {l : List ℕ} (h : ∀ n ∈ l, n ≤ 4) : consumed l = l.sum := by
  rw [consumed, List.filter_eq_self.mpr fun n hn => decide_eq_true (h n hn)]

lemma assemble_congr {f g : ℕ → ℕ} (hpos : 1 ≤ n) (hn : n ≤ 4) (h : ∀ t < n, f t = g t) : assemble n f = assemble n g := by
  rcases (by lia : n = 1 ∨ n = 2 ∨ n = 3 ∨ n = 4) with rfl | rfl | rfl | rfl
  · exact h 0 (by decide)
  · change f 0 * 256 + f 1 = g 0 * 256 + g 1
    rw [h 0 (by decide), h 1 (by decide)]
  · change f 2 * 65536 + (f 0 * 256 + f 1) = g 2 * 65536 + (g 0 * 256 + g 1)
    rw [h 0 (by decide), h 1 (by decide), h 2 (by decide)]
  · change (f 2 * 256 + f 3) * 65536 + (f 0 * 256 + f 1) = (g 2 * 256 + g 3) * 65536 + (g 0 * 256 + g 1)
    rw [h 0 (by decide), h 1 (by decide), h 2 (by decide), h 3 (by decide)]

/-- Without a slot of size 0 the loop ends with the signals that it has a case for. -/
lemma ReadAll.ends (h : ReadAll dev tab dualChan bytes s) (hne : ∀ i < dev.noSlots, dev.signalSize i ≠ 0) :
    ∃ data, Ends none (unpackLoop tab dualChan bytes) ⟨0, false, 0, 0, fun _ => none⟩ (some (some data)) ∧
      Filled bytes (dev.entriesFrom dev.noSlots 0) data := by
  have hsize : ∀ n ∈ tab, n ≠ 0 := by
    rw [h.tab_eq]
    intro n hn hzero
    obtain ⟨i, hi, rfl⟩ := List.mem_map.mp hn
    have hnat := congrArg UInt8.toNat hzero
    rw [toNat_size] at hnat
    exact hne i (by have := (List.mem_range'_1.mp hi).2; lia) hnat
  have htab : tab ≠ [] := by
    intro hnil
    have hlen := congrArg List.length (h.tab_eq.symm.trans hnil)
    rw [List.length_map, List.length_range', noSlots] at hlen
    exact absurd hlen (Nat.succ_ne_zero _)
  have hstart : At bytes [] ⟨0, false, 0, 0, fun _ => none⟩ :=
    ⟨rfl, rfl, fun _ _ hk => absurd hk nofun, fun _ _ hk => absurd hk nofun, fun _ _ => rfl⟩
  have hend : consumed ([] ++ slotEntries dualChan 0 tab) ≤ bytes.length := by
    have hle := consumed_le (dev.entriesFrom dev.noSlots 0)
    rw [List.nil_append, h.slots, h.length]
    lia
  obtain ⟨data, hends, hfilled⟩ := @unpack_ends tab [] tab dualChan bytes _ [] rfl htab hsize rfl rfl hstart hend
  rw [List.nil_append, List.length_nil, h.slots] at hfilled
  exact ⟨data, hends, hfilled⟩

lemma SizesHandled.entries_eq (h : SizesHandled dev) : dev.entries = dev.entriesFrom dev.noSlots 0 := by
  refine List.filter_eq_self.mpr fun n hn => decide_eq_true ?_
  obtain ⟨m, -, hm, rfl⟩ := mem_entriesFrom.mp hn
  have hpos := (h m (by lia)).1
  omega

lemma SizesHandled.stored (hsizes : SizesHandled dev) (h : ReadAll dev tab dualChan bytes s)
    (hfilled : Filled bytes (dev.entriesFrom dev.noSlots 0) data) : Stored dev data := by
  have hmem : ∀ n ∈ dev.entriesFrom dev.noSlots 0, 1 ≤ n ∧ n ≤ 4 := by
    intro n hn
    obtain ⟨m, -, hm, rfl⟩ := mem_entriesFrom.mp hn
    exact hsizes m (by lia)
  constructor
  · intro k n hk
    rw [hsizes.entries_eq] at hk ⊢
    have hn := hmem n (List.mem_of_getElem? hk)
    obtain ⟨v, hv, hval⟩ := hfilled.short k n hk hn.2
    refine ⟨v, hv, fun _ => hval.trans (assemble_congr hn.1 hn.2 fun t ht => ?_)⟩
    rw [consumed_eq fun m hm => (hmem m (List.mem_of_mem_take hm)).2]
    apply h.byte
    have hlt : k < (dev.entriesFrom dev.noSlots 0).length := (List.getElem?_eq_some_iff.mp hk).1
    have hget : (dev.entriesFrom dev.noSlots 0)[k] = n := (List.getElem?_eq_some_iff.mp hk).2
    have hsplit : (dev.entriesFrom dev.noSlots 0).sum =
        ((dev.entriesFrom dev.noSlots 0).take k).sum + ((dev.entriesFrom dev.noSlots 0).drop k).sum := by
      rw [← List.sum_append, List.take_append_drop]
    rw [List.drop_eq_getElem_cons hlt, hget, List.sum_cons] at hsplit
    rw [h.length]
    lia
  · intro k hk
    rw [hsizes.entries_eq] at hk
    exact hfilled.only k hk

lemma right_of_sizesHandled (hsizes : SizesHandled dev) : Right dev := by
  rcases hrun : dev.readAll ⟨0, 0⟩ with ⟨ret | ⟨tab, dualChan, bytes⟩, s⟩
  · refine ⟨0, .error ret, s, ?_, trivial⟩
    rw [getData, hrun]
  · have hread := ensures_readAll _ _ hrun
    obtain ⟨data, hends, hfilled⟩ := hread.ends fun i hi => by have := (hsizes i hi).1; omega
    obtain ⟨fuel, hfuel⟩ := hends.exists
    refine ⟨fuel, .ok (some data), s, ?_, ?_, hsizes.stored hread hfilled⟩
    · rw [getData, hrun]
      dsimp only
      rw [hfuel, Option.map_some]
    · rw [Adpd410x.entries, sum_filter_ne_zero]
      exact hread.popped

/-- Where all registers are read, a slot without a signal keeps the loop from ending, and a signal of more than 4 bytes is
not stored. -/
lemma sizesHandled_of_right (hcode : ∀ n, dev.code n = SUCCESS) (h : Right dev) : SizesHandled dev := by
  obtain ⟨fuel, result, s, hget, hresult⟩ := h
  obtain ⟨⟨tab, dualChan, bytes⟩, t, hrun⟩ := succeeds_readAll hcode ⟨0, 0⟩
  have hread : ReadAll dev tab dualChan bytes t := ensures_readAll _ _ hrun
  rw [getData, hrun] at hget
  obtain ⟨hloop, rfl⟩ := Prod.mk.inj hget
  rw [Option.map_eq_some_iff] at hloop
  obtain ⟨r, hloop, rfl⟩ := hloop
  cases r with
  | none => exact absurd hresult id
  | some data =>
    have hne : ∀ i < dev.noSlots, dev.signalSize i ≠ 0 := by
      intro i hi hzero
      have hslot : tab[i]? = some (dev.data1 i &&& BITM_DATA1_A_SIGNAL_SIZE).toUInt8 := by
        rw [hread.tab_eq, List.getElem?_map, List.getElem?_range' hi, Option.map_some, Nat.one_mul, Nat.zero_add]
      refine ne_zero_of_unpackLoop hloop (Nat.zero_le i) hslot (UInt8.toNat_inj.mp ?_)
      rw [toNat_size, hzero]
      rfl
    obtain ⟨data', hends, hfilled⟩ := hread.ends hne
    have hsame := hends.eq hloop nofun
    rw [Option.some_inj, Option.some_inj] at hsame
    subst hsame
    refine fun i hi => ⟨Nat.one_le_iff_ne_zero.mpr (hne i hi), ?_⟩
    by_contra hlong
    have hmem : dev.signalSize i ∈ dev.entriesFrom dev.noSlots 0 := mem_entriesFrom.mpr ⟨i, by lia, by lia, rfl⟩
    have hentries : dev.entries = dev.entriesFrom dev.noSlots 0 := by
      refine List.filter_eq_self.mpr fun n hn => decide_eq_true ?_
      obtain ⟨m, -, hm, rfl⟩ := mem_entriesFrom.mp hn
      exact hne m (by lia)
    obtain ⟨k, hk⟩ := List.mem_iff_getElem?.mp hmem
    obtain ⟨v, hv, -⟩ := hresult.2.all k _ (hentries ▸ hk)
    rw [hfilled.long k _ hk (Nat.lt_of_not_le hlong)] at hv
    cases hv

end Adpd410xPacket

open Adpd410xPacket

/-- Where all registers are read, a packet is right exactly if every slot has a signal of 1 to 4 bytes, and then it is so
whatever register read fails. -/
theorem adpd410x_right_iff (dev : Adpd410x) :
    ((∀ n, dev.code n = SUCCESS) → (Adpd410xPacket.Right dev ↔ SizesHandled dev)) ∧
      (SizesHandled dev → Adpd410xPacket.Right dev) :=
  ⟨fun hcode => ⟨sizesHandled_of_right hcode, right_of_sizesHandled⟩, right_of_sizesHandled⟩

/-- A single slot that is not used -/
theorem not_adpd410x_right : ¬∀ dev : Adpd410x, dev.noSlots ≤ 12 → (∀ n, dev.code n = SUCCESS) → Adpd410xPacket.Right dev := by
  intro h
  have hslot := sizesHandled_of_right (fun _ => rfl)
    (h ⟨0, fun _ => 0, fun _ => 0, fun _ => 0, fun _ => SUCCESS⟩ (by decide) fun _ => rfl) 0 (by decide)
  exact absurd hslot.1 (by decide)

end NoOS
