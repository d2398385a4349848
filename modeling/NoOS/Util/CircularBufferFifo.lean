import NoOS.Util.CircularBufferRun

/-!
# The circular buffer is a FIFO

As long as writes never get more than the buffer size ahead of the ended reads, the ring
holds the committed bytes that are still unread, so reads hand out a prefix of what was
committed and `cb_size` is the number of bytes in between.
-/

namespace NoOS
open RingWindow

variable {n : ℕ} {s : CbHistory}

namespace CbHistory

/-- Bytes written or reserved by a started write are at most `n` ahead of the ended reads. -/
def Room (n : ℕ) (s : CbHistory) : Prop :=
  s.committed.length + s.desc.write.asyncSize.toNat ≤ s.handed.length + n

instance : DecidablePred (Room n) := fun _ => Nat.decLe _ _

lemma Room.lap (h : Room n s) : s.committed.length ≤ s.handed.length + n :=
  (Nat.le_add_right _ _).trans h

/-- The ring holds the last committed bytes, as far as a started write leaves them alone. -/
structure Fifo (n : ℕ) (s : CbHistory) : Prop extends Counts n s where
  holds : Holds n s.desc.buff s.committed
    (s.committed.length + s.desc.write.asyncSize.toNat - n) s.committed.length
  handed : s.handed = s.committed.take s.handed.length

lemma Fifo.init {size : UInt32} :
    Fifo size.toNat { desc := { size := size, buff := List.replicate size.toNat 0 } } where
  toCounts := Counts.init
  holds := holds_empty (by simp)
  handed := by simp

lemma Fifo.prepareWrite (h : Fifo n s) (hn : 0 < n) (size : UInt32) : Fifo n (s.prepareWrite size) := by
  cases hst : s.desc.write.asyncStarted with
  | true => rwa [prepareWrite_started hst]
  | false =>
    have hc := h.toCounts.prepareWrite hn size
    rw [prepareWrite_idle hst] at hc ⊢
    refine ⟨hc, h.holds.mono ?_ (Nat.le_refl _), h.handed⟩
    rw [h.write.idle hst]
    simp only [UInt32.toNat_zero]
    lia

lemma Fifo.fill (h : Fifo n s) (k : ℕ) (data : List UInt8) : Fifo n (s.fill k data) := by
  have hc := h.toCounts.fill k data
  unfold CbHistory.fill at hc ⊢
  by_cases hk : k + data.length ≤ s.desc.write.asyncSize.toNat
  · rw [if_pos hk] at hc ⊢
    refine ⟨hc, ?_, h.handed⟩
    cases data with
    | nil => simpa [CircularBuffer.store] using h.holds
    | cons b data =>
      have hf := h.write.fits
      have hlt : s.committed.length % n + k < n := by
        rw [List.length_cons] at hk
        lia
      have hoff : s.desc.write.idx.toNat + k = (s.committed.length + k) % n := by
        rw [h.write.idx, (Lap.advance_inside hlt).1]
      simp only [CircularBuffer.store, hoff]
      apply h.holds.splice h.len (Nat.le_add_right _ _)
      · rw [(Lap.advance_inside hlt).1]
        lia
      · lia
  · rwa [if_neg hk]

lemma Fifo.endWrite (h : Fifo n s) (hn : 0 < n) : Fifo n s.endWrite := by
  have hc := h.toCounts.endWrite hn
  cases hst : s.desc.write.asyncStarted with
  | false => rwa [h.endWrite_idle hst]
  | true =>
    have hlen := h.bytes_length h.write
    have hext := h.holds.extend rfl h.write.fits
    rw [endWrite_started hst] at hc ⊢
    refine ⟨hc, ?_, ?_⟩
    · simp only [List.length_append, hlen, CbPtr.finish, UInt32.toNat_zero, Nat.add_zero]
      rw [← h.write.idx] at hext
      exact hext
    · have hle : s.handed.length ≤ s.committed.length := (Nat.le_add_right _ _).trans h.ahead
      rw [List.take_append_of_le_length hle]
      exact h.handed

lemma Fifo.prepareRead (h : Fifo n s) (hn : 0 < n)
    (hlap : s.committed.length ≤ s.handed.length + n) (size : UInt32) :
    Fifo n (s.prepareRead size) := by
  have hc := h.toCounts.prepareRead hn hlap size
  cases hst : s.desc.read.asyncStarted with
  | true => rwa [prepareRead_started hst]
  | false =>
    obtain ⟨a, -, hp⟩ := h.prepareAsyncRead_idle hn hlap hst size
    unfold CbHistory.prepareRead at hc ⊢
    rw [hp] at hc ⊢
    by_cases h0 : a = 0
    · rwa [if_pos h0]
    · rw [if_neg h0] at hc ⊢
      exact ⟨hc, h.holds, h.handed⟩

/-- The region of a started read holds the committed bytes that come next. -/
lemma Fifo.region (h : Fifo n s) (hroom : s.Room n) :
    s.handed ++ s.desc.bytes (s.desc.read.idx, s.desc.read.asyncSize) =
      s.committed.take (s.handed.length + s.desc.read.asyncSize.toNat) := by
  have hlo : s.committed.length + s.desc.write.asyncSize.toNat - n ≤ s.handed.length := by
    have hr : _ ≤ _ := hroom
    lia
  have hslice := h.holds.slice_eq hlo h.ahead h.read.fits
  rw [← h.read.idx] at hslice
  unfold CircularBuffer.bytes
  rw [hslice, List.take_add, ← h.handed]
  rfl

lemma Fifo.endRead (h : Fifo n s) (hn : 0 < n) (hroom : s.Room n) : Fifo n s.endRead := by
  have hc := h.toCounts.endRead hn
  cases hst : s.desc.read.asyncStarted with
  | false => rwa [h.endRead_idle hst]
  | true =>
    have hreg := h.region hroom
    have hlen := h.bytes_length h.read
    rw [endRead_started hst] at hc ⊢
    refine ⟨hc, h.holds, ?_⟩
    rw [List.length_append, hlen]
    exact hreg

lemma Fifo.put (h : Fifo n s) (hn : 0 < n) (size : UInt32) (data : List UInt8) :
    Fifo n (s.put size data) :=
  ((h.prepareWrite hn size).fill 0 data).endWrite hn

lemma prepareRead_write (size : UInt32) : (s.prepareRead size).desc.write = s.desc.write := by
  unfold prepareRead cbPrepareAsyncRead cbPrepareAsyncOperation
  simp only [if_true]
  split
  · rfl
  · split <;> split <;> rfl

lemma endRead_write : s.endRead.desc.write = s.desc.write := by
  simp only [endRead, cbEndAsyncRead, cbEndAsyncOperation]
  split <;> rfl

lemma Fifo.get (h : Fifo n s) (hn : 0 < n) (hroom : s.Room n) (size : UInt32) :
    Fifo n (s.get size) ∧ (s.get size).Room n := by
  have hprep : (s.prepareRead size).Room n := by
    unfold Room
    rw [prepareRead_write]
    exact hroom
  refine ⟨(h.prepareRead hn hroom.lap size).endRead hn hprep, ?_⟩
  unfold Room CbHistory.get
  rw [endRead_write]
  refine hprep.trans (Nat.add_le_add_right ?_ n)
  change (s.prepareRead size).handed.length ≤ ((s.prepareRead size).handed ++ _).length
  rw [List.length_append]
  exact Nat.le_add_right _ _

lemma Fifo.cbWrite (h : Fifo n s) (hn : 0 < n) (polls : ℕ)
    (data : { d : List UInt8 // d.length < 2 ^ 32 }) : Fifo n (s.step (.write polls data)) := by
  have hlen : data.val.length = (UInt32.ofNat data.val.length).toNat :=
    (UInt32.toNat_ofNat_of_lt' data.property).symm
  rw [step_write]
  split
  · exact h
  · exact (write_loop_induct hn hlen (fun t req d _ ht => ht.put hn req d) polls
      (by rw [writing_start]; exact h.toCounts) (Nat.zero_le _) (by rwa [writing_start])).2

lemma Fifo.cbRead (h : Fifo n s) (hn : 0 < n) (hroom : s.Room n) (polls : ℕ) (size : UInt32) :
    Fifo n (s.step (.read polls size)) := by
  rw [step_read]
  split
  · exact h
  · exact (read_loop_induct [] (P := fun t => Fifo n t ∧ t.Room n) hn
      (fun t req _ _ ht => ht.1.get hn ht.2 req) polls (by rw [reading_start]; exact h.toCounts)
      (by simpa [start] using hroom.lap) (Nat.zero_le _) (by rw [reading_start]; exact ⟨h, hroom⟩)).2.1

/-- Every call that starts with room keeps the buffer a FIFO. -/
theorem Fifo.step (h : Fifo n s) (hn : 0 < n) (hroom : s.Room n) (c : CbCall) : Fifo n (s.step c) := by
  cases c with
  | write polls data => exact h.cbWrite hn polls data
  | read polls size => exact h.cbRead hn hroom polls size
  | prepareAsyncWrite size => exact h.prepareWrite hn size
  | fill k b => exact h.fill k [b]
  | endAsyncWrite => exact h.endWrite hn
  | prepareAsyncRead size => exact h.prepareRead hn hroom.lap size
  | endAsyncRead => exact h.endRead hn hroom

/-- What a call has done when it returns: no byte is left out, and without an overrun. A blocking call returns at
the latest after as many polls as it has bytes if its pointer is idle and, for a read, these bytes are there. -/
def Completes (s : CbHistory) : CbCall → Prop
  | .write polls data =>
    let r := cbWrite polls s.desc data.val (UInt32.ofNat data.val.length)
    (r.ret ≠ none ∨ s.desc.write.asyncStarted = false ∧ data.val.length ≤ polls) →
      r.ret = some (if data.val = [] then -EINVAL else SUCCESS) ∧
        (s.step (.write polls data)).committed = s.committed ++ data.val
  | .read polls size =>
    let r := cbRead polls s.desc size
    (r.ret ≠ none ∨ s.desc.read.asyncStarted = false ∧
        s.handed.length + size.toNat ≤ s.committed.length ∧ size.toNat ≤ polls) →
      r.ret = some (if size = 0 then -EINVAL else SUCCESS) ∧ r.data.length = size.toNat ∧
        s.handed ++ r.data <+: s.committed
  | _ => True

lemma cbOperation_ret {src : List UInt8} {size : UInt32} {isRead : Bool} {polls : ℕ} (hne : size ≠ 0)
    (hsticky : (cbOperationLoop src size isRead polls s.start).stickyOverrun = false) :
    (cbOperation polls s.desc src size isRead).ret =
      if (cbOperationLoop src size isRead polls s.start).i < size then none else some SUCCESS := by
  rw [cbOperation, if_neg hne]
  change (if _ then none else if (cbOperationLoop src size isRead polls s.start).stickyOverrun = true then _ else _) = _
  rw [hsticky]
  rfl

lemma Fifo.completes_write (h : Fifo n s) (hn : 0 < n) (polls : ℕ) (data : { d : List UInt8 // d.length < 2 ^ 32 }) :
    s.Completes (.write polls data) := by
  have hlen : data.val.length = (UInt32.ofNat data.val.length).toNat :=
    (UInt32.toNat_ofNat_of_lt' data.property).symm
  have hcounts : CbHistory.Counts n (s.start.writing s.committed s.handed data.val) := by
    rw [writing_start]
    exact h.toCounts
  intro hret
  by_cases hempty : data.val = []
  · refine ⟨?_, ?_⟩
    · simp [NoOS.cbWrite, cbOperation, hempty]
    · rw [step_write, hempty]
      simp
  · have hne : UInt32.ofNat data.val.length ≠ 0 := by
      intro hzero
      rw [hzero, UInt32.toNat_zero] at hlen
      exact hempty (List.eq_nil_of_length_eq_zero hlen)
    obtain ⟨hle, hsticky⟩ := write_loop_moved hn hlen polls hcounts (Nat.zero_le _)
    have hr := cbOperation_ret hne hsticky
    have hdone : ¬(cbOperationLoop data.val (UInt32.ofNat data.val.length) false polls s.start).i <
        UInt32.ofNat data.val.length := by
      rcases hret with hret | ⟨hidle, hpolls⟩
      · intro hlt
        exact hret (hr.trans (if_pos hlt))
      · obtain ⟨hi, -, -⟩ := write_loop_done hn hlen polls hcounts (Nat.zero_le _) hidle
          (by rw [← hlen]; exact hpolls.trans (Nat.le_add_left _ _))
        rw [hi]
        exact UInt32.lt_irrefl _
    refine ⟨?_, ?_⟩
    · rw [if_neg hempty]
      exact hr.trans (if_neg hdone)
    · rw [step_write, if_neg hne]
      rw [UInt32.lt_iff_toNat_lt] at hdone
      simp only [CbOperation.writing]
      rw [List.take_of_length_le (by lia)]

lemma Fifo.completes_read (h : Fifo n s) (hn : 0 < n) (hroom : s.Room n) (polls : ℕ) (size : UInt32) :
    s.Completes (.read polls size) := by
  have hcounts : CbHistory.Counts n (s.start.reading s.committed s.handed) := by
    rw [reading_start]
    exact h.toCounts
  have hlap : s.committed.length ≤ (s.handed ++ s.start.data).length + n := by
    simpa [start] using hroom.lap
  intro hret
  by_cases hzero : size = 0
  · have hr : NoOS.cbRead polls s.desc size = ⟨some (-EINVAL), s.desc, 0, []⟩ := if_pos hzero
    rw [hr, if_pos hzero, hzero, List.append_nil, h.handed]
    exact ⟨rfl, rfl, List.take_prefix _ _⟩
  · obtain ⟨hle, hsticky, hcopied⟩ := read_loop_moved [] hn polls hcounts hlap (Nat.zero_le _) rfl
    have hr := cbOperation_ret hzero hsticky
    have hdata : (NoOS.cbRead polls s.desc size).data = (cbOperationLoop [] size true polls s.start).data := by
      rw [NoOS.cbRead, cbOperation, if_neg hzero]
      rfl
    have hdone : ¬(cbOperationLoop [] size true polls s.start).i < size := by
      rcases hret with hret | ⟨hidle, hthere, hpolls⟩
      · intro hlt
        exact hret (hr.trans (if_pos hlt))
      · obtain ⟨hi, -, -⟩ := read_loop_done [] hn polls hcounts hlap (Nat.zero_le _) hidle
          (by simpa [start, Nat.add_comm] using hthere) (by simpa [start] using hpolls)
        rw [hi]
        exact UInt32.lt_irrefl _
    refine ⟨?_, ?_, ?_⟩
    · rw [if_neg hzero]
      exact hr.trans (if_neg hdone)
    · rw [UInt32.lt_iff_toNat_lt] at hdone
      rw [hdata, hcopied]
      exact le_antisymm hle (not_lt.mp hdone)
    · have hafter := h.cbRead hn hroom polls size
      have hcommitted : (s.step (.read polls size)).committed = s.committed := rfl
      have hhanded : (s.step (.read polls size)).handed = s.handed ++ (NoOS.cbRead polls s.desc size).data := rfl
      have htake := hafter.handed
      rw [hcommitted, hhanded] at htake
      rw [htake]
      exact List.take_prefix _ _

lemma Fifo.completes (h : Fifo n s) (hn : 0 < n) (hroom : s.Room n) (c : CbCall) : s.Completes c := by
  cases c with
  | write polls data => exact h.completes_write hn polls data
  | read polls size => exact h.completes_read hn hroom polls size
  | prepareAsyncWrite _ | fill _ _ | endAsyncWrite | prepareAsyncRead _ | endAsyncRead => exact trivial

end CbHistory

end NoOS
