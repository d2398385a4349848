import NoOS.Lib.Trace
import NoOS.Util.CircularBufferPosition

/-!
# Histories of a circular buffer

The calls of one writer and one reader, each atomic, with the bytes they have committed and
handed out so far. A device may store into the region of a started write at any time. A
blocking call is observed after some number of polls, whether or not it has returned.
-/

namespace NoOS
open RingWindow Word

/-- A buffer with the bytes of all ended writes and all ended reads. -/
structure CbHistory where
  desc : CircularBuffer
  committed : List UInt8 := []
  handed : List UInt8 := []
deriving DecidableEq

namespace CbHistory

def prepareWrite (s : CbHistory) (size : UInt32) : CbHistory :=
  { s with desc := (cbPrepareAsyncWrite s.desc size).desc }

/-- Stores bytes into the region of the started write, from its byte `k` on. -/
def fill (s : CbHistory) (k : ℕ) (data : List UInt8) : CbHistory :=
  if k + data.length ≤ s.desc.write.asyncSize.toNat then
    { s with desc := s.desc.store (s.desc.write.idx.toNat + k) data }
  else s

/-- The region of the started write is committed as it is. -/
def endWrite (s : CbHistory) : CbHistory :=
  { s with
    desc := (cbEndAsyncWrite s.desc).2
    committed := s.committed ++ s.desc.bytes (s.desc.write.idx, s.desc.write.asyncSize) }

def prepareRead (s : CbHistory) (size : UInt32) : CbHistory :=
  { s with desc := (cbPrepareAsyncRead s.desc size).desc }

/-- The region of the started read counts as handed out. -/
def endRead (s : CbHistory) : CbHistory :=
  { s with
    desc := (cbEndAsyncRead s.desc).2
    handed := s.handed ++ s.desc.bytes (s.desc.read.idx, s.desc.read.asyncSize) }

end CbHistory

inductive CbCall
  | write (polls : ℕ) (data : { d : List UInt8 // d.length < 2 ^ 32 })
  | read (polls : ℕ) (size : UInt32)
  | prepareAsyncWrite (size : UInt32)
  | fill (k : ℕ) (b : UInt8)
  | endAsyncWrite
  | prepareAsyncRead (size : UInt32)
  | endAsyncRead

def CbHistory.step (s : CbHistory) : CbCall → CbHistory
  | .write polls data =>
    let r := cbWrite polls s.desc data.val (UInt32.ofNat data.val.length)
    { s with desc := r.desc, committed := s.committed ++ data.val.take r.i.toNat }
  | .read polls size =>
    let r := cbRead polls s.desc size
    { s with desc := r.desc, handed := s.handed ++ r.data }
  | .prepareAsyncWrite size => s.prepareWrite size
  | .fill k b => s.fill k [b]
  | .endAsyncWrite => s.endWrite
  | .prepareAsyncRead size => s.prepareRead size
  | .endAsyncRead => s.endRead

/-- The pointers stand at the ends of the committed and of the handed out bytes. -/
structure CbHistory.Counts (n : ℕ) (s : CbHistory) : Prop where
  size : s.desc.size.toNat = n
  len : s.desc.buff.length = n
  write : s.desc.write.At n s.committed.length
  read : s.desc.read.At n s.handed.length
  ahead : s.handed.length + s.desc.read.asyncSize.toNat ≤ s.committed.length

variable {n : ℕ} {s : CbHistory}

lemma cbInit_success {size : UInt32} {mem : CbAlloc} {desc : CircularBuffer}
    (h : cbInit size mem = (SUCCESS, some desc)) :
    0 < size.toNat ∧ desc = { size := size, buff := List.replicate size.toNat 0 } := by
  unfold cbInit at h
  split at h
  · simp at h
  · rename_i h0
    have hpos : size.toNat ≠ 0 := fun hz => h0 (UInt32.toNat_inj.mp (by simpa using hz))
    split at h
    · simp at h
    · split at h
      · simp at h
      · simp only [Prod.mk.injEq, Option.some.injEq, true_and] at h
        exact ⟨by lia, h.symm⟩

namespace CbHistory

lemma Counts.init {size : UInt32} :
    Counts size.toNat { desc := { size := size, buff := List.replicate size.toNat 0 } } where
  size := rfl
  len := List.length_replicate
  write := CbPtr.at_zero
  read := CbPtr.at_zero
  ahead := by simp

lemma prepareWrite_started (hst : s.desc.write.asyncStarted = true) (size : UInt32) :
    s.prepareWrite size = s := by
  simp [prepareWrite, cbPrepareAsyncWrite, cbPrepareAsyncOperation, CircularBuffer.ptr, hst]

lemma prepareWrite_idle (hst : s.desc.write.asyncStarted = false) (size : UInt32) :
    s.prepareWrite size = { s with desc := { s.desc with write := { s.desc.write with
      asyncSize := min size (s.desc.size - s.desc.write.idx), asyncStarted := true } } } := by
  simp [prepareWrite, cbPrepareAsyncWrite, cbPrepareAsyncOperation, reserve, CircularBuffer.ptr,
    CircularBuffer.setPtr, hst]

lemma Counts.prepareWrite (h : Counts n s) (hn : 0 < n) (size : UInt32) :
    Counts n (s.prepareWrite size) := by
  cases hst : s.desc.write.asyncStarted with
  | true => rwa [prepareWrite_started hst]
  | false =>
    rw [prepareWrite_idle hst]
    exact ⟨h.size, h.len, h.write.start h.size hn size, h.read, h.ahead⟩

lemma Counts.store (h : Counts n s) {off : ℕ} {data : List UInt8} (hoff : off + data.length ≤ n) :
    Counts n { s with desc := s.desc.store off data } := by
  refine ⟨h.size, ?_, h.write, h.read, h.ahead⟩
  change (splice s.desc.buff off data).length = n
  rw [splice_length (by rw [h.len]; exact hoff), h.len]

lemma Counts.fill (h : Counts n s) (k : ℕ) (data : List UInt8) : Counts n (s.fill k data) := by
  unfold CbHistory.fill
  split
  · apply h.store
    have hi := h.write.idx
    have hf := h.write.fits
    lia
  · exact h

/-- The region of a pointer has as many bytes as its transaction. -/
lemma Counts.bytes_length (h : Counts n s) {p : CbPtr} {pos : ℕ} (hp : p.At n pos) :
    (s.desc.bytes (p.idx, p.asyncSize)).length = p.asyncSize.toNat := by
  unfold CircularBuffer.bytes
  apply slice_length
  have hf := hp.fits
  have hi := hp.idx
  have hl := h.len
  simp only
  lia

lemma Counts.bytes_idle (h : Counts n s) {p : CbPtr} {pos : ℕ} (hp : p.At n pos)
    (hst : p.asyncStarted = false) : s.desc.bytes (p.idx, p.asyncSize) = [] := by
  apply List.eq_nil_of_length_eq_zero
  rw [h.bytes_length hp, hp.idle hst]
  rfl

lemma Counts.endWrite_idle (h : Counts n s) (hst : s.desc.write.asyncStarted = false) :
    s.endWrite = s := by
  have hb := h.bytes_idle h.write hst
  unfold CbHistory.endWrite
  simp [hb, cbEndAsyncWrite, cbEndAsyncOperation, CircularBuffer.ptr, hst]

lemma endWrite_started (hst : s.desc.write.asyncStarted = true) :
    s.endWrite = { s with
      desc := { s.desc with write := s.desc.write.finish s.desc.size }
      committed := s.committed ++ s.desc.bytes (s.desc.write.idx, s.desc.write.asyncSize) } := by
  simp [endWrite, cbEndAsyncWrite, cbEndAsyncOperation, CircularBuffer.ptr,
    CircularBuffer.setPtr, hst]

lemma Counts.endWrite (h : Counts n s) (hn : 0 < n) : Counts n s.endWrite := by
  cases hst : s.desc.write.asyncStarted with
  | false => rwa [h.endWrite_idle hst]
  | true =>
    rw [endWrite_started hst]
    have hlen := h.bytes_length h.write
    refine ⟨h.size, h.len, ?_, h.read, ?_⟩
    · rw [List.length_append, hlen]
      exact h.write.finish h.size hn
    · rw [List.length_append]
      exact h.ahead.trans (Nat.le_add_right _ _)

lemma prepareRead_started (hst : s.desc.read.asyncStarted = true) (size : UInt32) :
    s.prepareRead size = s := by
  simp [prepareRead, cbPrepareAsyncRead, cbPrepareAsyncOperation, CircularBuffer.ptr, hst]

/-- Without an overrun a read is refused on an empty buffer and else reserves unread bytes. -/
lemma Counts.prepareAsyncRead_idle (h : Counts n s) (hn : 0 < n)
    (hlap : s.committed.length ≤ s.handed.length + n) (hst : s.desc.read.asyncStarted = false)
    (size : UInt32) :
    ∃ a : UInt32, a.toNat = min size.toNat (s.committed.length - s.handed.length) ∧
      cbPrepareAsyncRead s.desc size =
        if a = 0 then ⟨-EAGAIN, s.desc, none⟩ else reserve s.desc a SUCCESS true := by
  have hle : s.handed.length ≤ s.committed.length := (Nat.le_add_right _ _).trans h.ahead
  obtain ⟨v, hv, hval⟩ := cbSize_of_le h.size hn h.write h.read hle hlap
  refine ⟨min size v, by rw [UInt32.toNat_min, hval], ?_⟩
  simp [cbPrepareAsyncRead, cbPrepareAsyncOperation, CircularBuffer.ptr, hst, hv, SUCCESS, EOVERRUN]

lemma Counts.prepareRead (h : Counts n s) (hn : 0 < n)
    (hlap : s.committed.length ≤ s.handed.length + n) (size : UInt32) :
    Counts n (s.prepareRead size) := by
  cases hst : s.desc.read.asyncStarted with
  | true => rwa [prepareRead_started hst]
  | false =>
    obtain ⟨a, ha, hp⟩ := h.prepareAsyncRead_idle hn hlap hst size
    unfold CbHistory.prepareRead
    rw [hp]
    by_cases h0 : a = 0
    · rwa [if_pos h0]
    · rw [if_neg h0]
      refine ⟨h.size, h.len, h.write, h.read.start h.size hn a, ?_⟩
      change s.handed.length + (min a (s.desc.size - s.desc.read.idx)).toNat ≤ s.committed.length
      rw [h.read.reserved h.size hn]
      have hle : s.handed.length ≤ s.committed.length := (Nat.le_add_right _ _).trans h.ahead
      lia

lemma Counts.endRead_idle (h : Counts n s) (hst : s.desc.read.asyncStarted = false) :
    s.endRead = s := by
  have hb := h.bytes_idle h.read hst
  unfold CbHistory.endRead
  simp [hb, cbEndAsyncRead, cbEndAsyncOperation, CircularBuffer.ptr, hst]

lemma endRead_started (hst : s.desc.read.asyncStarted = true) :
    s.endRead = { s with
      desc := { s.desc with read := s.desc.read.finish s.desc.size }
      handed := s.handed ++ s.desc.bytes (s.desc.read.idx, s.desc.read.asyncSize) } := by
  simp [endRead, cbEndAsyncRead, cbEndAsyncOperation, CircularBuffer.ptr,
    CircularBuffer.setPtr, hst]

lemma Counts.endRead (h : Counts n s) (hn : 0 < n) : Counts n s.endRead := by
  cases hst : s.desc.read.asyncStarted with
  | false => rwa [h.endRead_idle hst]
  | true =>
    rw [endRead_started hst]
    have hlen := h.bytes_length h.read
    refine ⟨h.size, h.len, h.write, ?_, ?_⟩
    · rw [List.length_append, hlen]
      exact h.read.finish h.size hn
    · rw [List.length_append, hlen]
      exact h.ahead

/-- A whole write of a piece: what one poll of `cb_write` does. -/
def put (s : CbHistory) (size : UInt32) (data : List UInt8) : CbHistory :=
  ((s.prepareWrite size).fill 0 data).endWrite

/-- A whole read of a piece: what one poll of `cb_read` does. -/
def get (s : CbHistory) (size : UInt32) : CbHistory := (s.prepareRead size).endRead

lemma Counts.put (h : Counts n s) (hn : 0 < n) (size : UInt32) (data : List UInt8) :
    Counts n (s.put size data) :=
  ((h.prepareWrite hn size).fill 0 data).endWrite hn

lemma Counts.get (h : Counts n s) (hn : 0 < n)
    (hlap : s.committed.length ≤ s.handed.length + n) (size : UInt32) : Counts n (s.get size) :=
  (h.prepareRead hn hlap size).endRead hn

lemma Counts.put_idle (h : Counts n s) (hst : s.desc.write.asyncStarted = false) (size : UInt32)
    (data : List UInt8) (hn : 0 < n)
    (hdata : data.length = (min size (s.desc.size - s.desc.write.idx)).toNat) :
    s.put size data = { s with
      desc := { s.desc with
        buff := splice s.desc.buff s.desc.write.idx.toNat data
        write := ({ s.desc.write with
          asyncSize := min size (s.desc.size - s.desc.write.idx)
          asyncStarted := true } : CbPtr).finish s.desc.size }
      committed := s.committed ++ data } := by
  have hfits := (h.write.start h.size hn size).fits
  have hlen := h.len
  have hidx := h.write.idx
  have hroom : s.desc.write.idx.toNat + data.length ≤ s.desc.buff.length := by
    simp only at hfits
    lia
  have hslice := slice_splice hroom
  rw [hdata] at hslice
  unfold CbHistory.put
  rw [prepareWrite_idle hst, CbHistory.fill]
  simp only [Nat.zero_add, hdata, Nat.le_refl, if_true, Nat.add_zero]
  rw [endWrite_started rfl]
  simp only [CircularBuffer.bytes, CircularBuffer.store, hslice]

end CbHistory

section Polls

variable {base handed committed src : List UInt8} {size : UInt32} {st : CbOperation}

/-- The history during a `cb_write` of `src` that started with `base` committed. -/
def CbOperation.writing (base handed src : List UInt8) (st : CbOperation) : CbHistory :=
  ⟨st.desc, base ++ src.take st.i.toNat, handed⟩

/-- The history during a `cb_read` that started with `handed` handed out. -/
def CbOperation.reading (committed handed : List UInt8) (st : CbOperation) : CbHistory :=
  ⟨st.desc, committed, handed ++ st.data⟩

lemma write_poll_started (hst : st.desc.write.asyncStarted = true) :
    cbOperationPoll src size false st = st := by
  simp [cbOperationPoll, cbPrepareAsyncOperation, CircularBuffer.ptr, hst]

lemma write_poll_idle (hst : st.desc.write.asyncStarted = false) :
    cbOperationPoll src size false st =
      let a := min (size - st.i) (st.desc.size - st.desc.write.idx)
      { desc := { st.desc with
          buff := splice st.desc.buff st.desc.write.idx.toNat (slice src st.i.toNat a.toNat)
          write := ({ st.desc.write with asyncSize := a, asyncStarted := true } : CbPtr).finish
            st.desc.size }
        i := st.i + a
        stickyOverrun := st.stickyOverrun
        data := st.data } := by
  simp [cbOperationPoll, cbPrepareAsyncOperation, reserve, CircularBuffer.ptr,
    CircularBuffer.setPtr, CircularBuffer.store, cbEndAsyncOperation, hst, SUCCESS, EOVERRUN]

/-- A poll of `cb_write` on an idle write pointer puts one piece. -/
lemma write_poll_put (h : CbHistory.Counts n (st.writing base handed src)) (hn : 0 < n)
    (hsrc : src.length = size.toNat) (hi : st.i.toNat ≤ size.toNat)
    (hst : st.desc.write.asyncStarted = false) :
    ∃ a : UInt32,
      a.toNat = min (size.toNat - st.i.toNat)
        (n - (base ++ src.take st.i.toNat).length % n) ∧
      (cbOperationPoll src size false st).i.toNat = st.i.toNat + a.toNat ∧
      (cbOperationPoll src size false st).desc.write.asyncStarted = false ∧
      (cbOperationPoll src size false st).desc.read = st.desc.read ∧
      (cbOperationPoll src size false st).writing base handed src =
        (st.writing base handed src).put (size - st.i) (slice src st.i.toNat a.toNat) := by
  have hat : st.desc.write.At n (base ++ src.take st.i.toNat).length := h.write
  have hs : st.desc.size.toNat = n := h.size
  have ha := hat.reserved hs hn (size - st.i)
  rw [toNat_sub_of_le hi] at ha
  have hsz := size.toNat_lt
  have hpiece : (slice src st.i.toNat
      (min (size - st.i) (st.desc.size - st.desc.write.idx)).toNat).length =
      (min (size - st.i) (st.desc.size - st.desc.write.idx)).toNat := by
    rw [slice_length (by lia)]
  have hnew : (st.i + min (size - st.i) (st.desc.size - st.desc.write.idx)).toNat =
      st.i.toNat + (min (size - st.i) (st.desc.size - st.desc.write.idx)).toNat :=
    toNat_add_of_lt (by lia)
  refine ⟨min (size - st.i) (st.desc.size - st.desc.write.idx), ha, ?_, ?_, ?_, ?_⟩
  · rw [write_poll_idle hst]
    exact hnew
  · rw [write_poll_idle hst]
    rfl
  · rw [write_poll_idle hst]
  · rw [h.put_idle hst _ _ hn hpiece, write_poll_idle hst]
    simp only [CbOperation.writing, hnew]
    rw [List.append_assoc, List.take_add]
    rfl

lemma read_poll_started (hst : st.desc.read.asyncStarted = true) :
    cbOperationPoll src size true st = st := by
  simp [cbOperationPoll, cbPrepareAsyncOperation, CircularBuffer.ptr, hst]

variable (src) in
/-- A poll of `cb_read` on an idle read pointer finds nothing or gets one piece. -/
lemma read_poll_get (h : CbHistory.Counts n (st.reading committed handed)) (hn : 0 < n)
    (hlap : committed.length ≤ (handed ++ st.data).length + n) (hi : st.i.toNat ≤ size.toNat)
    (hst : st.desc.read.asyncStarted = false) :
    ∃ a : UInt32,
      a.toNat = min (size.toNat - st.i.toNat) (committed.length - (handed ++ st.data).length) ∧
      (a = 0 → cbOperationPoll src size true st = st) ∧
      (a ≠ 0 →
        (cbOperationPoll src size true st).i.toNat =
          st.i.toNat + min a.toNat (n - (handed ++ st.data).length % n) ∧
        (cbOperationPoll src size true st).desc.read.asyncStarted = false ∧
        (cbOperationPoll src size true st).desc.write = st.desc.write ∧
        (cbOperationPoll src size true st).stickyOverrun = st.stickyOverrun ∧
        (cbOperationPoll src size true st).data.length =
          st.data.length + min a.toNat (n - (handed ++ st.data).length % n) ∧
        (cbOperationPoll src size true st).reading committed handed =
          (st.reading committed handed).get (size - st.i)) := by
  have hat : st.desc.read.At n (handed ++ st.data).length := h.read
  have hs : st.desc.size.toNat = n := h.size
  obtain ⟨a, ha, hp⟩ := h.prepareAsyncRead_idle hn hlap hst (size - st.i)
  rw [toNat_sub_of_le hi] at ha
  have hres := hat.reserved hs hn a
  have hsz := size.toNat_lt
  refine ⟨a, ha, fun h0 => ?_, fun h0 => ?_⟩
  · have hnone : cbPrepareAsyncOperation st.desc (size - st.i) true =
        ⟨-EAGAIN, st.desc, none⟩ := hp.trans (if_pos h0)
    simp only [cbOperationPoll, hnone]
  · have hsome : cbPrepareAsyncOperation st.desc (size - st.i) true =
        reserve st.desc a SUCCESS true := hp.trans (if_neg h0)
    have hpoll : cbOperationPoll src size true st =
        { desc := { st.desc with
            read := ({ st.desc.read with
              asyncSize := min a (st.desc.size - st.desc.read.idx)
              asyncStarted := true } : CbPtr).finish st.desc.size }
          i := st.i + min a (st.desc.size - st.desc.read.idx)
          stickyOverrun := st.stickyOverrun
          data := st.data ++
            st.desc.bytes (st.desc.read.idx, min a (st.desc.size - st.desc.read.idx)) } := by
      simp only [cbOperationPoll, hsome]
      simp [reserve, CircularBuffer.ptr, CircularBuffer.setPtr, CircularBuffer.bytes,
        cbEndAsyncOperation, SUCCESS, EOVERRUN]
    rw [hpoll]
    refine ⟨?_, rfl, rfl, rfl, ?_, ?_⟩
    · rw [toNat_add_of_lt (by lia), hres]
    · have hbytes := h.bytes_length (hat.start hs hn a)
      simp only [CbOperation.reading] at hbytes
      rw [List.length_append, hbytes, hres]
    · unfold CbHistory.get CbHistory.prepareRead
      rw [hp, if_neg h0, CbHistory.endRead_started rfl]
      simp only [CbOperation.reading, List.append_assoc]
      rfl

lemma cbOperationLoop_succ (isRead : Bool) (polls : ℕ) :
    cbOperationLoop src size isRead (polls + 1) st =
      if st.i < size then
        cbOperationLoop src size isRead polls (cbOperationPoll src size isRead st)
      else st := rfl

/-- What the pieces of a `cb_write` preserve, the whole call preserves. -/
lemma write_loop_induct {P : CbHistory → Prop} (hn : 0 < n) (hsrc : src.length = size.toNat)
    (hP : ∀ t req data, t.Counts n → P t → P (t.put req data)) (polls : ℕ)
    (h : CbHistory.Counts n (st.writing base handed src)) (hi : st.i.toNat ≤ size.toNat)
    (hst : P (st.writing base handed src)) :
    CbHistory.Counts n ((cbOperationLoop src size false polls st).writing base handed src) ∧
      P ((cbOperationLoop src size false polls st).writing base handed src) := by
  induction polls generalizing st with
  | zero => exact ⟨h, hst⟩
  | succ polls ih =>
    rw [cbOperationLoop_succ]
    split
    · cases hstart : st.desc.write.asyncStarted with
      | true =>
        rw [write_poll_started hstart]
        exact ih h hi hst
      | false =>
        obtain ⟨a, ha, hnew, -, -, hput⟩ := write_poll_put h hn hsrc hi hstart
        refine ih (hput ▸ h.put hn _ _) (by lia) ?_
        rw [hput]
        exact hP _ _ _ h hst
    · exact ⟨h, hst⟩

lemma CbHistory.get_lap {s : CbHistory}
    (hlap : s.committed.length ≤ s.handed.length + n) (req : UInt32) :
    (s.get req).committed.length ≤ (s.get req).handed.length + n := by
  refine hlap.trans (Nat.add_le_add_right ?_ n)
  change s.handed.length ≤ (s.handed ++ _).length
  rw [List.length_append]
  exact Nat.le_add_right _ _

variable (src) in
/-- What the pieces of a `cb_read` preserve, the whole call preserves. -/
lemma read_loop_induct {P : CbHistory → Prop} (hn : 0 < n)
    (hP : ∀ t req, t.Counts n → t.committed.length ≤ t.handed.length + n → P t → P (t.get req))
    (polls : ℕ) (h : CbHistory.Counts n (st.reading committed handed))
    (hlap : committed.length ≤ (handed ++ st.data).length + n) (hi : st.i.toNat ≤ size.toNat)
    (hst : P (st.reading committed handed)) :
    CbHistory.Counts n ((cbOperationLoop src size true polls st).reading committed handed) ∧
      P ((cbOperationLoop src size true polls st).reading committed handed) := by
  induction polls generalizing st with
  | zero => exact ⟨h, hst⟩
  | succ polls ih =>
    rw [cbOperationLoop_succ]
    split
    · cases hstart : st.desc.read.asyncStarted with
      | true =>
        rw [read_poll_started hstart]
        exact ih h hlap hi hst
      | false =>
        obtain ⟨a, ha, hzero, hsome⟩ := read_poll_get src h hn hlap hi hstart
        by_cases h0 : a = 0
        · rw [hzero h0]
          exact ih h hlap hi hst
        · obtain ⟨hnew, -, -, -, -, hget⟩ := hsome h0
          have hlap' := CbHistory.get_lap (s := st.reading committed handed) hlap (size - st.i)
          rw [← hget] at hlap'
          refine ih (hget ▸ h.get hn hlap _) hlap' (by lia) ?_
          rw [hget]
          exact hP _ _ h hlap hst
    · exact ⟨h, hst⟩

/-- An idle `cb_write` is done after as many polls as it has bytes. -/
lemma write_loop_done (hn : 0 < n) (hsrc : src.length = size.toNat) (polls : ℕ)
    (h : CbHistory.Counts n (st.writing base handed src)) (hi : st.i.toNat ≤ size.toNat)
    (hst : st.desc.write.asyncStarted = false) (hpolls : size.toNat ≤ st.i.toNat + polls) :
    (cbOperationLoop src size false polls st).i = size ∧
      (cbOperationLoop src size false polls st).desc.write.asyncStarted = false ∧
      (cbOperationLoop src size false polls st).desc.read = st.desc.read := by
  induction polls generalizing st with
  | zero => exact ⟨UInt32.toNat_inj.mp (by change st.i.toNat = _; lia), hst, rfl⟩
  | succ polls ih =>
    rw [cbOperationLoop_succ]
    split
    · rename_i hlt
      rw [UInt32.lt_iff_toNat_lt] at hlt
      obtain ⟨a, ha, hnew, hidle, hread, hput⟩ := write_poll_put h hn hsrc hi hst
      have hmod := Nat.mod_lt (base ++ src.take st.i.toNat).length hn
      have hnext := ih (hput ▸ h.put hn _ _) (by lia) hidle (by lia)
      rwa [hread] at hnext
    · rename_i hge
      rw [UInt32.lt_iff_toNat_lt] at hge
      exact ⟨UInt32.toNat_inj.mp (by lia), hst, rfl⟩

variable (src) in
/-- An idle `cb_read` of unread bytes is done after as many polls as it has bytes. -/
lemma read_loop_done (hn : 0 < n) (polls : ℕ)
    (h : CbHistory.Counts n (st.reading committed handed))
    (hlap : committed.length ≤ (handed ++ st.data).length + n) (hi : st.i.toNat ≤ size.toNat)
    (hst : st.desc.read.asyncStarted = false)
    (hav : size.toNat + (handed ++ st.data).length ≤ st.i.toNat + committed.length)
    (hpolls : size.toNat ≤ st.i.toNat + polls) :
    (cbOperationLoop src size true polls st).i = size ∧
      (cbOperationLoop src size true polls st).desc.read.asyncStarted = false ∧
      (cbOperationLoop src size true polls st).desc.write = st.desc.write ∧
      (cbOperationLoop src size true polls st).stickyOverrun = st.stickyOverrun ∧
      (cbOperationLoop src size true polls st).data.length + st.i.toNat =
        st.data.length + size.toNat := by
  induction polls generalizing st with
  | zero =>
    have he : st.i = size := UInt32.toNat_inj.mp (by lia)
    refine ⟨he, hst, rfl, rfl, ?_⟩
    change st.data.length + _ = _
    rw [he]
  | succ polls ih =>
    rw [cbOperationLoop_succ]
    split
    · rename_i hlt
      rw [UInt32.lt_iff_toNat_lt] at hlt
      obtain ⟨a, ha, -, hsome⟩ := read_poll_get src h hn hlap hi hst
      have hmod := Nat.mod_lt (handed ++ st.data).length hn
      have h0 : a ≠ 0 := fun hz => by rw [hz, UInt32.toNat_zero] at ha; lia
      obtain ⟨hnew, hidle, hwrite, hsticky, hdata, hget⟩ := hsome h0
      have hlap' := CbHistory.get_lap (s := st.reading committed handed) hlap (size - st.i)
      rw [← hget] at hlap'
      simp only [List.length_append] at hav hnew hdata ha hmod
      have hav' : size.toNat + (handed ++ (cbOperationPoll src size true st).data).length ≤
          (cbOperationPoll src size true st).i.toNat + committed.length := by
        rw [List.length_append]
        lia
      have hnext := ih (hget ▸ h.get hn hlap _) hlap' (by lia) hidle hav' (by lia)
      rw [hwrite, hsticky] at hnext
      refine ⟨hnext.1, hnext.2.1, hnext.2.2.1, hnext.2.2.2.1, ?_⟩
      have hlen := hnext.2.2.2.2
      lia
    · rename_i hge
      rw [UInt32.lt_iff_toNat_lt] at hge
      have he : st.i = size := UInt32.toNat_inj.mp (by lia)
      exact ⟨he, hst, rfl, rfl, by rw [he]⟩

lemma write_poll_sticky : (cbOperationPoll src size false st).stickyOverrun = st.stickyOverrun := by
  cases hst : st.desc.write.asyncStarted with
  | true => rw [write_poll_started hst]
  | false => rw [write_poll_idle hst]

/-- A `cb_write` never moves more than its bytes, and sees no overrun. -/
lemma write_loop_moved (hn : 0 < n) (hsrc : src.length = size.toNat) (polls : ℕ)
    (h : CbHistory.Counts n (st.writing base handed src)) (hi : st.i.toNat ≤ size.toNat) :
    (cbOperationLoop src size false polls st).i.toNat ≤ size.toNat ∧
      (cbOperationLoop src size false polls st).stickyOverrun = st.stickyOverrun := by
  induction polls generalizing st with
  | zero => exact ⟨hi, rfl⟩
  | succ polls ih =>
    rw [cbOperationLoop_succ]
    split
    · cases hstart : st.desc.write.asyncStarted with
      | true =>
        rw [write_poll_started hstart]
        exact ih h hi
      | false =>
        obtain ⟨a, ha, hnew, -, -, hput⟩ := write_poll_put h hn hsrc hi hstart
        obtain ⟨hle, hsticky⟩ := ih (hput ▸ h.put hn _ _) (by lia)
        exact ⟨hle, hsticky.trans write_poll_sticky⟩
    · exact ⟨hi, rfl⟩

variable (src) in
/-- The bytes that a `cb_read` has copied out are those that it has counted, and it sees no overrun. -/
lemma read_loop_moved (hn : 0 < n) (polls : ℕ) (h : CbHistory.Counts n (st.reading committed handed))
    (hlap : committed.length ≤ (handed ++ st.data).length + n) (hi : st.i.toNat ≤ size.toNat)
    (hdata : st.data.length = st.i.toNat) :
    (cbOperationLoop src size true polls st).i.toNat ≤ size.toNat ∧
      (cbOperationLoop src size true polls st).stickyOverrun = st.stickyOverrun ∧
      (cbOperationLoop src size true polls st).data.length = (cbOperationLoop src size true polls st).i.toNat := by
  induction polls generalizing st with
  | zero => exact ⟨hi, rfl, hdata⟩
  | succ polls ih =>
    rw [cbOperationLoop_succ]
    split
    · cases hstart : st.desc.read.asyncStarted with
      | true =>
        rw [read_poll_started hstart]
        exact ih h hlap hi hdata
      | false =>
        obtain ⟨a, ha, hzero, hsome⟩ := read_poll_get src h hn hlap hi hstart
        by_cases h0 : a = 0
        · rw [hzero h0]
          exact ih h hlap hi hdata
        · obtain ⟨hnew, -, -, hsticky, hcopied, hget⟩ := hsome h0
          have hlap' := CbHistory.get_lap (s := st.reading committed handed) hlap (size - st.i)
          rw [← hget] at hlap'
          rw [← hsticky]
          exact ih (hget ▸ h.get hn hlap _) hlap' (by lia) (by lia)
    · exact ⟨hi, rfl, hdata⟩

end Polls

namespace CbHistory

/-- The start of the loop of `cb_operation`. -/
def start (s : CbHistory) : CbOperation := { desc := s.desc }

lemma writing_start (src : List UInt8) : s.start.writing s.committed s.handed src = s := by
  simp [start, CbOperation.writing]

lemma reading_start : s.start.reading s.committed s.handed = s := by
  simp [start, CbOperation.reading]

lemma step_write (polls : ℕ) (data : { d : List UInt8 // d.length < 2 ^ 32 }) :
    s.step (.write polls data) =
      if UInt32.ofNat data.val.length = 0 then s
      else (cbOperationLoop data.val (UInt32.ofNat data.val.length) false polls s.start).writing
        s.committed s.handed data.val := by
  simp only [step, cbWrite, cbOperation]
  split
  · simp
  · rfl

lemma step_read (polls : ℕ) (size : UInt32) :
    s.step (.read polls size) =
      if size = 0 then s
      else (cbOperationLoop [] size true polls s.start).reading s.committed s.handed := by
  simp only [step, cbRead, cbOperation]
  split
  · simp
  · rfl

lemma Counts.cbWrite (h : Counts n s) (hn : 0 < n) (polls : ℕ)
    (data : { d : List UInt8 // d.length < 2 ^ 32 }) : Counts n (s.step (.write polls data)) := by
  have hlen : data.val.length = (UInt32.ofNat data.val.length).toNat :=
    (UInt32.toNat_ofNat_of_lt' data.property).symm
  rw [step_write]
  split
  · exact h
  · exact (write_loop_induct (P := fun _ => True) hn hlen (fun _ _ _ _ _ => trivial) polls
      (by rwa [writing_start]) (Nat.zero_le _) trivial).1

lemma Counts.cbRead (h : Counts n s) (hn : 0 < n)
    (hlap : s.committed.length ≤ s.handed.length + n) (polls : ℕ) (size : UInt32) :
    Counts n (s.step (.read polls size)) := by
  rw [step_read]
  split
  · exact h
  · exact (read_loop_induct [] (P := fun _ => True) hn (fun _ _ _ _ _ => trivial) polls
      (by rwa [reading_start]) (by simpa [start] using hlap) (Nat.zero_le _) trivial).1

/-- Every call keeps the pointers in step with the bytes moved, if there is no overrun. -/
theorem Counts.step (h : Counts n s) (hn : 0 < n)
    (hlap : s.committed.length ≤ s.handed.length + n) (c : CbCall) : Counts n (s.step c) := by
  cases c with
  | write polls data => exact h.cbWrite hn polls data
  | read polls size => exact h.cbRead hn hlap polls size
  | prepareAsyncWrite size => exact h.prepareWrite hn size
  | fill k b => exact h.fill k [b]
  | endAsyncWrite => exact h.endWrite hn
  | prepareAsyncRead size => exact h.prepareRead hn hlap size
  | endAsyncRead => exact h.endRead hn

end CbHistory

end NoOS
