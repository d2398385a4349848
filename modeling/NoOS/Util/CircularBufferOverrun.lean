import NoOS.Util.CircularBufferFifo

/-!
# Overruns of the circular buffer

A writer that never waits may lap the reader. `cb_size` infers an overrun from "at least one
spin" and a comparison of the indices, so it sees exactly the overruns after which the write
index is past the read index. Those are reported and the read resumes at the oldest byte.
-/

namespace NoOS
open RingWindow Word

/-- A buffer with the stream written so far and the position of the next byte to read. -/
structure CbStream where
  desc : CircularBuffer
  written : List UInt8 := []
  consumed : ℕ := 0
deriving DecidableEq

inductive CbStreamCall
  | write (data : { d : List UInt8 // d.length < 2 ^ 32 })
  | read (size : UInt32)

namespace CbStream

/-- The bytes written since the last byte consumed. -/
def lag (s : CbStream) : ℕ := s.written.length - s.consumed

/-- The position of the oldest byte that is neither consumed nor overwritten. -/
def oldest (s : CbStream) : ℕ := max s.consumed (s.written.length - s.desc.size.toNat)

def step (s : CbStream) : CbStreamCall → CbStream
  | .write data =>
    { s with
      desc := (cbWrite data.val.length s.desc data.val (UInt32.ofNat data.val.length)).desc
      written := s.written ++ data.val }
  | .read size =>
    { s with
      desc := (cbRead size.toNat s.desc size).desc
      consumed := if size = 0 then s.consumed else s.oldest + size.toNat }

/-- `cb_size` reports an overrun or the number of unread bytes. -/
def SizeOk (s : CbStream) : Prop :=
  cbSize s.desc =
    if s.desc.size.toNat < s.lag then (-EOVERRUN, s.desc.size)
    else (SUCCESS, UInt32.ofNat s.lag)

instance (s : CbStream) : Decidable s.SizeOk := inferInstanceAs (Decidable (_ = _))

/-- A `cb_read` of bytes that are there returns, reports an overrun and delivers the bytes
from the oldest one on. -/
def ReadOk (s : CbStream) : Prop :=
  ∀ size : UInt32, size ≠ 0 → s.oldest + size.toNat ≤ s.written.length →
    (cbRead size.toNat s.desc size).ret =
        some (if s.desc.size.toNat < s.lag then -EOVERRUN else SUCCESS) ∧
      (cbRead size.toNat s.desc size).data = slice s.written s.oldest size.toNat

/-- Between a write position `w` and a read position `r` there is no overrun, or one that the
indices show: the write index is past the read index (or, after a multiple of `2 ^ 32` laps,
behind it), and the fill level fits in 32 bits. -/
def Shows (n w r : ℕ) : Prop :=
  w - r ≤ n ∨
    if 0 < (w / n - r / n) % 2 ^ 32 then r % n < w % n ∧ n + (w % n - r % n) < 2 ^ 32
    else w % n < r % n ∧ n + (r % n - w % n) < 2 ^ 32

instance (n w r : ℕ) : Decidable (Shows n w r) := inferInstanceAs (Decidable (_ ∨ _))

def OverrunShows (s : CbStream) : Prop := Shows s.desc.size.toNat s.written.length s.consumed

instance (s : CbStream) : Decidable s.OverrunShows := inferInstanceAs (Decidable (Shows _ _ _))

/-- Reads ask for bytes that are there (else they never return), and not while there is an
overrun that does not show. -/
def Allowed (s : CbStream) : CbStreamCall → Prop
  | .write _ => True
  | .read size => s.oldest + size.toNat ≤ s.written.length ∧ s.OverrunShows

instance (s : CbStream) : (c : CbStreamCall) → Decidable (s.Allowed c)
  | .write _ => .isTrue trivial
  | .read _ => inferInstanceAs (Decidable (_ ∧ _))

/-- The history whose reads have ended at the next byte to read. -/
def history (s : CbStream) : CbHistory :=
  { desc := s.desc, committed := s.written, handed := s.written.take s.consumed }

/-- The buffer holds the end of the stream and both pointers are idle at their positions. -/
structure Tracked (n : ℕ) (s : CbStream) : Prop where
  fifo : s.history.Fifo n
  consumed : s.consumed ≤ s.written.length
  writeIdle : s.desc.write.asyncStarted = false
  readIdle : s.desc.read.asyncStarted = false

variable {n : ℕ} {s : CbStream}

lemma Tracked.handed (h : s.Tracked n) : s.history.handed.length = s.consumed := by
  change (s.written.take s.consumed).length = _
  rw [List.length_take, Nat.min_eq_left h.consumed]

lemma Tracked.size (h : s.Tracked n) : s.desc.size.toNat = n := h.fifo.size

lemma Tracked.write_at (h : s.Tracked n) : s.desc.write.At n s.written.length := h.fifo.write

lemma Tracked.read_at (h : s.Tracked n) : s.desc.read.At n s.consumed := by
  have hr : s.desc.read.At n s.history.handed.length := h.fifo.read
  rwa [h.handed] at hr

lemma Tracked.init {size : UInt32} :
    Tracked size.toNat { desc := { size := size, buff := List.replicate size.toNat 0 } } where
  fifo := CbHistory.Fifo.init
  consumed := Nat.le_refl _
  writeIdle := rfl
  readIdle := rfl

lemma Tracked.sizeOk_of_le (h : s.Tracked n) (hn : 0 < n) (hlag : s.lag ≤ n) : s.SizeOk := by
  have hle := h.consumed
  have hlag' : s.written.length - s.consumed ≤ n := hlag
  obtain ⟨v, hv, hval⟩ := cbSize_of_le h.size hn h.write_at h.read_at hle (by lia)
  rw [SizeOk, if_neg (by rw [h.size]; omega), hv]
  congr 1
  exact UInt32.toNat_inj.mp (by
    rw [hval, UInt32.toNat_ofNat_of_lt']
    · rfl
    · have hlt := s.desc.size.toNat_lt
      have hs := h.size
      change s.lag < 2 ^ 32
      lia)

/-- With more than a lap in between, `cb_size` reports an overrun exactly if it shows. -/
lemma Tracked.sizeOk_iff (h : s.Tracked n) (hn : 0 < n) (hlag : n < s.lag) :
    s.SizeOk ↔ s.OverrunShows := by
  have hle := h.consumed
  have hs := h.size
  have hlt := s.desc.size.toNat_lt
  have hlag' : n < s.written.length - s.consumed := hlag
  have hwm := Nat.mod_lt s.written.length hn
  have hrm := Nat.mod_lt s.consumed hn
  have hval := unread_of_at hs h.write_at h.read_at hle
  have hshow : s.OverrunShows ↔ s.desc.size.toNat < (unread s.desc.size
      (nbSpins s.desc.write.spinCount s.desc.read.spinCount) s.desc.write.idx
      s.desc.read.idx).toNat := by
    rw [OverrunShows, Shows, hs, hval]
    split
    · omega
    · omega
  rw [hshow, SizeOk, if_pos (by lia), cbSize]
  constructor
  · intro heq
    by_contra hno
    rw [clampSize_of_le (by lia)] at heq
    simp [SUCCESS, EOVERRUN] at heq
  · exact clampSize_of_lt

lemma Tracked.write (h : s.Tracked n) (hn : 0 < n) (data : { d : List UInt8 // d.length < 2 ^ 32 }) :
    (s.step (.write data)).Tracked n := by
  have hfifo := h.fifo.cbWrite hn data.val.length data
  have hlen : data.val.length = (UInt32.ofNat data.val.length).toNat :=
    (UInt32.toNat_ofNat_of_lt' data.property).symm
  have hhanded : (s.written ++ data.val).take s.consumed = s.written.take s.consumed :=
    List.take_append_of_le_length h.consumed
  rw [CbHistory.step_write] at hfifo
  by_cases h0 : UInt32.ofNat data.val.length = 0
  · rw [if_pos h0] at hfifo
    have hnil : data.val = [] := List.eq_nil_of_length_eq_zero (by rw [hlen, h0]; rfl)
    have hstep : s.step (.write data) = s := by
      simp [step, cbWrite, cbOperation, hnil]
    rwa [hstep]
  · rw [if_neg h0] at hfifo
    obtain ⟨hi, hidle, hread⟩ := write_loop_done hn hlen data.val.length
      ((CbHistory.writing_start (s := s.history) data.val).symm ▸ h.fifo.toCounts)
      (Nat.zero_le _) h.writeIdle (by rw [← hlen]; exact Nat.le_add_left _ _)
    have hdesc : (s.step (.write data)).desc = (cbOperationLoop data.val
        (UInt32.ofNat data.val.length) false data.val.length s.history.start).desc := by
      simp only [step, cbWrite, cbOperation, if_neg h0]
      rfl
    refine ⟨?_, ?_, by rw [hdesc]; exact hidle, ?_⟩
    · unfold CbOperation.writing at hfifo
      rw [hi, ← hlen, List.take_length] at hfifo
      change CbHistory.Fifo n ⟨_, s.written ++ data.val, (s.written ++ data.val).take s.consumed⟩
      rw [hdesc, hhanded]
      exact hfifo
    · change s.consumed ≤ (s.written ++ data.val).length
      rw [List.length_append]
      exact h.consumed.trans (Nat.le_add_right _ _)
    · rw [hdesc, hread]
      exact h.readIdle

/-- The rest of a `cb_read` whose bytes are there delivers the bytes that come next. -/
lemma read_loop_slice (st : CbOperation) (size : UInt32) {committed handed : List UInt8} {polls : ℕ}
    (hn : 0 < n) (hf : (st.reading committed handed).Fifo n)
    (hroom : (st.reading committed handed).Room n) (hdata : st.data.length = st.i.toNat)
    (hi : st.i.toNat ≤ size.toNat) (hst : st.desc.read.asyncStarted = false)
    (hav : handed.length + size.toNat ≤ committed.length) (hpolls : size.toNat ≤ st.i.toNat + polls) :
    let f := cbOperationLoop [] size true polls st
    f.i = size ∧ f.stickyOverrun = st.stickyOverrun ∧ f.data = slice committed handed.length size.toNat ∧
      f.desc.read.asyncStarted = false ∧ f.desc.write = st.desc.write ∧
      CbHistory.Fifo n ⟨f.desc, committed, committed.take (handed.length + size.toNat)⟩ := by
  intro f
  have hlen : (handed ++ st.data).length = handed.length + st.i.toNat := by
    rw [List.length_append, hdata]
  obtain ⟨hfi, hidle, hwrite, hsticky, hflen⟩ := read_loop_done [] hn polls hf.toCounts
    hroom.lap hi hst (by lia) hpolls
  have hfifo := (read_loop_induct [] (P := fun t => CbHistory.Fifo n t ∧ t.Room n) hn
    (fun t req _ _ ht => ht.1.get hn ht.2 req) polls hf.toCounts hroom.lap hi ⟨hf, hroom⟩).2.1
  have hflen' : f.data.length = size.toNat := by
    change f.data.length + _ = _ at hflen
    lia
  have hhanded : handed ++ f.data = committed.take (handed.length + size.toNat) := by
    have := hfifo.handed
    simp only [CbOperation.reading, List.length_append] at this
    rwa [hflen'] at this
  refine ⟨hfi, hsticky, ?_, hidle, hwrite, ?_⟩
  · have hdrop := congrArg (List.drop handed.length) hhanded
    rw [List.drop_left, List.drop_take, Nat.add_sub_cancel_left] at hdrop
    exact hdrop
  · rw [← hhanded]
    exact hfifo

lemma oldest_of_le (hlag : s.lag ≤ s.desc.size.toNat) : s.oldest = s.consumed := by
  unfold lag at hlag
  unfold oldest
  lia

lemma oldest_of_lt (hlag : s.desc.size.toNat < s.lag) :
    s.oldest = s.written.length - s.desc.size.toNat := by
  unfold lag at hlag
  unfold oldest
  lia

/-- The read pointer that `cb_prepare_async_read` sets after an overrun. -/
lemma Tracked.skip (h : s.Tracked n) (hn : 0 < n) (hlag : n < s.lag) :
    CbHistory.Fifo n ⟨skipOverrun s.desc, s.written, s.written.take (s.written.length - n)⟩ ∧
      CbHistory.Room n ⟨skipOverrun s.desc, s.written, s.written.take (s.written.length - n)⟩ := by
  have hlag' : n < s.written.length - s.consumed := hlag
  have hat := h.write_at
  have hra := h.read_at
  have hz : s.desc.write.asyncSize.toNat = 0 := by rw [hat.idle h.writeIdle]; rfl
  have hzr : s.desc.read.asyncSize.toNat = 0 := by rw [hra.idle h.readIdle]; rfl
  have hlen : (s.written.take (s.written.length - n)).length = s.written.length - n := by
    rw [List.length_take, Nat.min_eq_left (Nat.sub_le _ _)]
  have hmod := Nat.mod_lt s.written.length hn
  have hdiv : s.written.length / n = (s.written.length - n) / n + 1 := by
    exact Nat.div_eq_sub_div hn (by lia)
  have hread : (skipOverrun s.desc).read.At n (s.written.length - n) := by
    refine ⟨?_, ?_, hra.idle, ?_⟩
    · simp only [skipOverrun]
      rw [hat.idx, ← Nat.mod_eq_sub_mod (by lia)]
    · simp only [skipOverrun, UInt32.toNat_sub, hat.spin, hdiv, UInt32.toNat_one]
      lia
    · simp only [skipOverrun, hzr, Nat.add_zero]
      exact (Nat.mod_lt _ hn).le
  refine ⟨⟨⟨h.size, h.fifo.len, hat, by rw [hlen]; exact hread, ?_⟩, h.fifo.holds, ?_⟩, ?_⟩
  · simp only [skipOverrun, hzr, hlen]
    lia
  · simp only [hlen]
  · unfold CbHistory.Room
    simp only [skipOverrun, hz, hlen]
    lia

/-- The first poll of a `cb_read` after an overrun is one with the read pointer updated. -/
lemma overrun_poll (st : CbOperation) (size : UInt32) (hst : st.desc.read.asyncStarted = false)
    (hover : cbSize st.desc = (-EOVERRUN, st.desc.size))
    (hskip : cbSize (skipOverrun st.desc) = (SUCCESS, st.desc.size))
    (hsize : min (size - st.i) st.desc.size ≠ 0) :
    cbOperationPoll [] size true st =
      cbOperationPoll [] size true
        { st with desc := skipOverrun st.desc, stickyOverrun := true } := by
  have hst' : (skipOverrun st.desc).read.asyncStarted = false := hst
  have hfst : cbPrepareAsyncOperation st.desc (size - st.i) true =
      reserve (skipOverrun st.desc) (min (size - st.i) st.desc.size) (-EOVERRUN) true := by
    simp [cbPrepareAsyncOperation, CircularBuffer.ptr, hst, hover, hsize]
  have hsnd : cbPrepareAsyncOperation (skipOverrun st.desc) (size - st.i) true =
      reserve (skipOverrun st.desc) (min (size - st.i) st.desc.size) SUCCESS true := by
    simp [cbPrepareAsyncOperation, CircularBuffer.ptr, hst', hskip, hsize, SUCCESS, EOVERRUN]
  simp only [cbOperationPoll, hfst, hsnd]
  simp [reserve]

/-- The loop of a `cb_read` delivers from the oldest byte on and remembers an overrun. -/
lemma Tracked.read_loop (h : s.Tracked n) (hn : 0 < n) (hshow : s.OverrunShows) {size : UInt32}
    (h0 : size ≠ 0) (hav : s.oldest + size.toNat ≤ s.written.length) :
    let f := cbOperationLoop [] size true size.toNat { desc := s.desc }
    f.i = size ∧ f.stickyOverrun = decide (n < s.lag) ∧
      f.data = slice s.written s.oldest size.toNat ∧
      f.desc.read.asyncStarted = false ∧ f.desc.write = s.desc.write ∧
      CbHistory.Fifo n ⟨f.desc, s.written, s.written.take (s.oldest + size.toNat)⟩ := by
  have hz : s.desc.write.asyncSize.toNat = 0 := by rw [h.write_at.idle h.writeIdle]; rfl
  have hsz : size.toNat ≠ 0 := fun hc => h0 (UInt32.toNat_inj.mp hc)
  by_cases hlag : n < s.lag
  · obtain ⟨hfifo, hroom⟩ := h.skip hn hlag
    have hlen : (s.written.take (s.written.length - n)).length = s.written.length - n := by
      rw [List.length_take, Nat.min_eq_left (Nat.sub_le _ _)]
    have hold : s.oldest = s.written.length - n := by
      rw [oldest_of_lt (by rwa [h.size]), h.size]
    have hover : cbSize s.desc = (-EOVERRUN, s.desc.size) := by
      have hok := (h.sizeOk_iff hn hlag).mpr hshow
      rwa [SizeOk, if_pos (by rwa [h.size])] at hok
    have hskip : cbSize (skipOverrun s.desc) = (SUCCESS, s.desc.size) := by
      obtain ⟨v, hv, hval⟩ := cbSize_of_le hfifo.size hn hfifo.write hfifo.read
        ((Nat.le_add_right _ _).trans hfifo.ahead) hroom.lap
      have hvs : v = s.desc.size := UInt32.toNat_inj.mp (by
        have hlag' : n < s.written.length - s.consumed := hlag
        simp only [hlen] at hval
        rw [hval, h.size]
        lia)
      rw [hv, hvs]
    have hfirst : cbOperationLoop [] size true size.toNat { desc := s.desc } =
        cbOperationLoop [] size true size.toNat
          { desc := skipOverrun s.desc, stickyOverrun := true } := by
      obtain ⟨polls, hpolls⟩ := Nat.exists_eq_succ_of_ne_zero hsz
      have hmin : min (size - 0) s.desc.size ≠ 0 := by
        intro hc
        have hs := h.size
        have hc' := congrArg UInt32.toNat hc
        simp only [UInt32.toNat_min, UInt32.sub_zero, UInt32.toNat_zero] at hc'
        lia
      have hlt : (0 : UInt32) < size := by
        rw [UInt32.lt_iff_toNat_lt, UInt32.toNat_zero]
        lia
      rw [hpolls, Nat.succ_eq_add_one, cbOperationLoop_succ, cbOperationLoop_succ,
        overrun_poll { desc := s.desc } size h.readIdle hover hskip hmin]
      simp only [if_pos hlt]
    rw [hold] at hav
    rw [hfirst, hold]
    have hloop := read_loop_slice { desc := skipOverrun s.desc, stickyOverrun := true } size hn
      (by simpa [CbOperation.reading] using hfifo)
      (by simpa [CbOperation.reading] using hroom) rfl (Nat.zero_le _) h.readIdle
      (by rw [hlen]; exact hav) (Nat.le_add_left size.toNat 0)
    rw [hlen] at hloop
    simpa [hlag, skipOverrun] using hloop
  · have hle := h.consumed
    have hlag' : ¬n < s.written.length - s.consumed := hlag
    have hold : s.oldest = s.consumed := oldest_of_le (by rw [h.size]; lia)
    have hroom : s.history.Room n := by
      unfold CbHistory.Room
      rw [h.handed]
      simp only [history, hz]
      lia
    have hlen : (s.written.take s.consumed).length = s.consumed := h.handed
    rw [hold] at hav ⊢
    have hloop := read_loop_slice { desc := s.desc } size hn
      (by simpa [CbOperation.reading, history] using h.fifo)
      (by simpa [CbOperation.reading, history] using hroom)
      rfl (Nat.zero_le _) h.readIdle (by rw [hlen]; exact hav)
      (Nat.le_add_left size.toNat 0)
    rw [hlen] at hloop
    simpa [hlag] using hloop

lemma Tracked.readOk (h : s.Tracked n) (hn : 0 < n) (hshow : s.OverrunShows) : s.ReadOk := by
  intro size h0 hav
  obtain ⟨hi, hsticky, hdata, -⟩ := h.read_loop hn hshow h0 hav
  refine ⟨?_, ?_⟩
  · simp only [cbRead, cbOperation, if_neg h0, hi, hsticky, UInt32.lt_irrefl, if_false, h.size]
    by_cases hlag : n < s.lag
    · simp [hlag]
    · simp [hlag]
  · simp only [cbRead, cbOperation, if_neg h0, hdata]

lemma Tracked.read (h : s.Tracked n) (hn : 0 < n) {size : UInt32} (hok : s.Allowed (.read size)) :
    (s.step (.read size)).Tracked n := by
  obtain ⟨hav, hshow⟩ := hok
  by_cases h0 : size = 0
  · have hstep : s.step (.read size) = s := by simp [step, cbRead, cbOperation, h0]
    rwa [hstep]
  · obtain ⟨-, -, -, hidle, hwrite, hfifo⟩ := h.read_loop hn hshow h0 hav
    have hstep : s.step (.read size) =
        { desc := (cbOperationLoop [] size true size.toNat { desc := s.desc }).desc
          written := s.written
          consumed := s.oldest + size.toNat } := by
      simp [step, cbRead, cbOperation, h0]
    rw [hstep]
    exact ⟨hfifo, hav, by simp only [hwrite]; exact h.writeIdle, hidle⟩

/-- Every allowed call keeps the buffer the end of the stream. -/
theorem Tracked.step (h : s.Tracked n) (hn : 0 < n) (c : CbStreamCall) (hok : s.Allowed c) :
    (s.step c).Tracked n := by
  cases c with
  | write data => exact h.write hn data
  | read size => exact h.read hn hok

end CbStream

/-- After any calls, `cb_size` and the next `cb_read` tell an overrun exactly when more than
the buffer size was written since the last byte consumed, and the read delivers the oldest
surviving bytes, if and only if there is no overrun or one that the indices show. -/
theorem circular_buffer_overrun {size : UInt32} {mem : CbAlloc} {desc : CircularBuffer}
    (hinit : cbInit size mem = (SUCCESS, some desc)) (calls : List CbStreamCall)
    (hcalls : Trace.Guarded CbStream.step CbStream.Allowed { desc := desc } calls) :
    let s := Trace.run CbStream.step { desc := desc } calls
    s.SizeOk ∧ s.ReadOk ↔ s.OverrunShows := by
  obtain ⟨hn, rfl⟩ := cbInit_success hinit
  intro s
  have h : s.Tracked size.toNat :=
    (hcalls.always CbStream.Tracked.init (fun t c ht hc => ht.step hn c hc)).last
  constructor
  · rintro ⟨hsize, -⟩
    by_cases hlag : size.toNat < s.lag
    · exact (h.sizeOk_iff hn hlag).mp hsize
    · refine Or.inl ?_
      rw [h.size]
      exact Nat.le_of_not_lt hlag
  · intro hshow
    refine ⟨?_, h.readOk hn hshow⟩
    by_cases hlag : size.toNat < s.lag
    · exact (h.sizeOk_iff hn hlag).mpr hshow
    · exact h.sizeOk_of_le hn (Nat.le_of_not_lt hlag)

/-- Six bytes written to a buffer of four, two read back, two more written. -/
theorem circular_buffer_overrun_shown :
    let s := Trace.run CbStream.step { desc := { size := 4, buff := [0, 0, 0, 0] } }
      [.write ⟨[1, 2, 3, 4, 5, 6], by decide⟩, .read 2, .write ⟨[7, 8], by decide⟩]
    s.SizeOk ∧ s.ReadOk ↔ s.OverrunShows :=
  circular_buffer_overrun (by decide : cbInit 4 {} = _) _ (by decide)

/-- Two laps written to a buffer of four: `cb_size` sees four bytes and no overrun. -/
theorem circular_buffer_overrun_two_laps :
    let desc : CircularBuffer := { size := 4, buff := [0, 0, 0, 0] }
    let s := Trace.run CbStream.step { desc := desc }
      [.write ⟨[1, 2, 3, 4, 5, 6, 7, 8], by decide⟩]
    cbInit 4 {} = (SUCCESS, some desc) ∧ s.desc.size.toNat < s.lag ∧
      cbSize s.desc = (SUCCESS, 4) ∧ ¬s.SizeOk := by
  decide

end NoOS
