import NoOS.Network.Wifi
import NoOS.Util.CircularBufferOverrun

/-!
# Receiving from a socket

`wifi_socket_recv` reads at most what `cb_size` says, but does not look at its return code.
The interrupts write the buffer between the calls, in transactions that may still be going on
when bytes are received.
-/

namespace NoOS
open RingWindow Word

/-- What a call has done: the code if it has returned, the buffer and the copied bytes. -/
structure SocketRecv where
  ret : Option ℤ
  desc : CircularBuffer
  data : List UInt8 := []

/-- `wifi_socket_recv` of a socket with the buffer `desc`. Without a buffer, `available_size` is
not set. -/
def wifiSocketRecvData (wifi : WifiDesc) (sockId : SocketId) (desc : CircularBuffer)
    (unset size : UInt32) : SocketRecv :=
  if size = 0 ∨ wifi.server.id = some sockId then { ret := some (-EINVAL), desc := desc }
  else if wifi.state sockId ≠ .connected then { ret := some (-ENOTCONN), desc := desc }
  else if wifi.cb sockId = none then
    { ret := some (if unset = 0 then -EAGAIN else -EINVAL), desc := desc }
  else
    let availableSize := (cbSize desc).2
    if availableSize = 0 then { ret := some (-EAGAIN), desc := desc }
    else
      let size := min availableSize size
      let r := cbRead size.toNat desc size
      { ret := r.ret.map fun ret => if isErrValue ret then ret else size.toInt32.toInt
        desc := r.desc
        data := r.data }

/-- A buffer with the stream written so far, the position of the next byte to read, and the
bytes that the started write has stored. -/
structure SocketStream where
  desc : CircularBuffer
  written : List UInt8 := []
  consumed : ℕ := 0
  filled : ℕ := 0

inductive SocketEvent
  | prepareWrite (size : UInt32)
  | fill (b : UInt8)
  | endWrite
  | recv (wifi : WifiDesc) (sockId : SocketId) (unset size : UInt32)

namespace SocketStream

/-- The position of the oldest byte that is neither consumed nor overwritten. -/
def oldest (s : SocketStream) : ℕ :=
  max s.consumed (s.written.length + s.filled - s.desc.size.toNat)

def history (s : SocketStream) : CbHistory :=
  { desc := s.desc, committed := s.written, handed := s.written.take s.consumed }

def step (s : SocketStream) : SocketEvent → SocketStream
  | .prepareWrite size => { s with desc := (s.history.prepareWrite size).desc }
  | .fill b =>
    if s.filled < s.desc.write.asyncSize.toNat then
      { s with desc := (s.history.fill s.filled [b]).desc, filled := s.filled + 1 }
    else s
  | .endWrite =>
    { s with desc := s.history.endWrite.desc, written := s.history.endWrite.committed, filled := 0 }
  | .recv wifi sockId unset size =>
    let r := wifiSocketRecvData wifi sockId s.desc unset size
    { s with
      desc := r.desc
      consumed := if r.data = [] then s.consumed else s.oldest + r.data.length }

/-- An error consumes nothing, and else the bytes from the oldest one on are copied and
consumed. -/
structure RecvRight (s : SocketStream) (r : SocketRecv) : Prop where
  returns : r.ret.isSome = true
  error : ∀ ret ∈ r.ret, ret < 0 → r.data = [] ∧ r.desc = s.desc
  data : ∀ ret ∈ r.ret, 0 ≤ ret → s.oldest + ret.toNat ≤ s.written.length ∧
    r.data = slice s.written s.oldest ret.toNat ∧
    r.desc.read.At s.desc.size.toNat (s.oldest + ret.toNat)

def Right (s : SocketStream) : SocketEvent → Prop
  | .recv wifi sockId unset size => s.RecvRight (wifiSocketRecvData wifi sockId s.desc unset size)
  | _ => True

/-- No unread byte has been overwritten, up to multiples of `2 ^ 32` laps. -/
def CaughtUp (s : SocketStream) : Prop :=
  (s.oldest - s.consumed) % (s.desc.size.toNat * 2 ^ 32) = 0

/-- Nothing can be received, or less than `2 ^ 31` bytes of a buffer without an overrun. -/
def Allowed (s : SocketStream) : SocketEvent → Prop
  | .recv wifi sockId _ size =>
    size = 0 ∨ wifi.server.id = some sockId ∨ wifi.state sockId ≠ .connected ∨
      wifi.cb sockId = none ∨ (cbSize s.desc).2 = 0 ∨
      s.CaughtUp ∧ (min (cbSize s.desc).2 size).toNat < 2 ^ 31
  | _ => True

instance (s : SocketStream) : (e : SocketEvent) → Decidable (s.Allowed e)
  | .prepareWrite _ | .fill _ | .endWrite => .isTrue trivial
  | .recv _ _ _ _ => by
    unfold Allowed CaughtUp
    infer_instance

/-- The buffer holds the end of the stream, as far as the started write has left it alone. -/
structure Valid (n : ℕ) (s : SocketStream) : Prop where
  counts : s.history.Counts n
  consumed : s.consumed ≤ s.written.length
  readIdle : s.desc.read.asyncStarted = false
  filled : s.filled ≤ s.desc.write.asyncSize.toNat
  holds : Holds n s.desc.buff s.written (s.written.length + s.filled - n) s.written.length

variable {n : ℕ} {s : SocketStream}

lemma Valid.handed (h : s.Valid n) : s.history.handed.length = s.consumed := by
  change (s.written.take s.consumed).length = _
  rw [List.length_take, Nat.min_eq_left h.consumed]

lemma Valid.size (h : s.Valid n) : s.desc.size.toNat = n := h.counts.size

lemma Valid.write_at (h : s.Valid n) : s.desc.write.At n s.written.length := h.counts.write

lemma Valid.read_at (h : s.Valid n) : s.desc.read.At n s.consumed := by
  have hr : s.desc.read.At n s.history.handed.length := h.counts.read
  rwa [h.handed] at hr

lemma Valid.init {size : UInt32} :
    Valid size.toNat { desc := { size := size, buff := List.replicate size.toNat 0 } } where
  counts := CbHistory.Counts.init
  consumed := Nat.le_refl _
  readIdle := rfl
  filled := Nat.le_refl _
  holds := holds_empty (by simp)

lemma Valid.filled_idle (h : s.Valid n) (hst : s.desc.write.asyncStarted = false) : s.filled = 0 := by
  have hle := h.filled
  rw [h.write_at.idle hst] at hle
  exact Nat.le_zero.mp hle

lemma Valid.prepareWrite (h : s.Valid n) (hn : 0 < n) (size : UInt32) :
    (s.step (.prepareWrite size)).Valid n := by
  have hc := h.counts.prepareWrite hn size
  cases hst : s.desc.write.asyncStarted with
  | true =>
    rw [CbHistory.prepareWrite_started hst] at hc
    have hstep : s.step (.prepareWrite size) = s := by
      simp only [step, CbHistory.prepareWrite_started (s := s.history) hst]
      rfl
    rwa [hstep]
  | false =>
    have hfilled := h.filled_idle hst
    have hdesc := CbHistory.prepareWrite_idle (s := s.history) hst size
    rw [hdesc] at hc
    simp only [step, hdesc]
    exact ⟨hc, h.consumed, h.readIdle, hfilled ▸ Nat.zero_le _, h.holds⟩

lemma Valid.fill (h : s.Valid n) (b : UInt8) : (s.step (.fill b)).Valid n := by
  by_cases hlt : s.filled < s.desc.write.asyncSize.toNat
  swap
  · have hstep : s.step (.fill b) = s := if_neg hlt
    rwa [hstep]
  have hstep : s.step (.fill b) = { s with
      desc := s.desc.store (s.desc.write.idx.toNat + s.filled) [b], filled := s.filled + 1 } := by
    have hfill : s.history.fill s.filled [b] = { s.history with
        desc := s.desc.store (s.desc.write.idx.toNat + s.filled) [b] } := if_pos hlt
    simp only [step, if_pos hlt, hfill]
  have hf := h.write_at.fits
  have hroom : s.written.length % n + s.filled < n := by lia
  have hoff : s.desc.write.idx.toNat + s.filled = (s.written.length + s.filled) % n := by
    rw [h.write_at.idx, (Lap.advance_inside hroom).1]
  rw [hstep]
  refine ⟨h.counts.store ?_, h.consumed, h.readIdle, hlt, ?_⟩
  · rw [h.write_at.idx]
    exact hroom
  · have hless : Holds n s.desc.buff s.written (s.written.length + (s.filled + 1) - n)
        s.written.length := h.holds.mono (by lia) (Nat.le_refl _)
    simp only [CircularBuffer.store, hoff]
    refine hless.splice h.counts.len (Nat.le_add_right _ _) ?_ ?_
    · rw [(Lap.advance_inside hroom).1]
      exact hroom
    · rw [List.length_singleton]
      lia

lemma Valid.endWrite (h : s.Valid n) (hn : 0 < n) : (s.step .endWrite).Valid n := by
  have hc := h.counts.endWrite hn
  cases hst : s.desc.write.asyncStarted with
  | false =>
    have hsame := h.counts.endWrite_idle hst
    have hstep : s.step .endWrite = s := by
      simp only [step, hsame, ← h.filled_idle hst]
      rfl
    rwa [hstep]
  | true =>
    have hlen := h.counts.bytes_length h.write_at
    have hless : Holds n s.desc.buff s.written
        (s.written.length + s.desc.write.asyncSize.toNat - n) s.written.length :=
      h.holds.mono (Nat.sub_le_sub_right (Nat.add_le_add_left h.filled _) n) (Nat.le_refl _)
    have hext := hless.extend rfl h.write_at.fits
    have hend := CbHistory.endWrite_started (s := s.history) hst
    have htake : s.history.endWrite.committed.take s.consumed = s.written.take s.consumed :=
      List.take_append_of_le_length h.consumed
    have hhistory : (s.step .endWrite).history = ⟨s.history.endWrite.desc,
        s.history.endWrite.committed, s.history.endWrite.committed.take s.consumed⟩ := rfl
    rw [htake] at hhistory
    refine ⟨hhistory ▸ hc, ?_, ?_, Nat.zero_le _, ?_⟩
    · change _ ≤ (s.written ++ _).length
      rw [List.length_append]
      exact h.consumed.trans (Nat.le_add_right _ _)
    · simp only [step, hend]
      exact h.readIdle
    · have hlen' : (s.written ++ s.history.desc.bytes (s.desc.write.idx, s.desc.write.asyncSize)).length =
          s.written.length + s.desc.write.asyncSize.toNat := by
        rw [List.length_append]
        exact congrArg _ hlen
      simp only [step, hend]
      rw [← h.write_at.idx] at hext
      refine (hext.mono ?_ ?_)
      · exact Nat.sub_le_sub_right hlen'.ge n
      · exact hlen'.le

end SocketStream

section Positions

variable {n r r' : ℕ} {p : CbPtr}

lemma CbPtr.At.congr (h : p.At n r) (hn : 0 < n) (hle : r ≤ r') (hmod : (r' - r) % (n * 2 ^ 32) = 0) :
    p.At n r' := by
  obtain ⟨t, ht⟩ := Nat.dvd_of_mod_eq_zero hmod
  have hr' : r' = r + n * (2 ^ 32 * t) := by
    rw [← Nat.mul_assoc, ← ht]
    lia
  have hidx : r' % n = r % n := by rw [hr', Nat.add_mul_mod_self_left]
  have hspin : r' / n % 2 ^ 32 = r / n % 2 ^ 32 := by
    rw [hr', Nat.add_mul_div_left _ _ hn, Nat.add_mul_mod_self_left]
  exact ⟨h.idx.trans hidx.symm, h.spin.trans hspin.symm, h.idle, hidx ▸ h.fits⟩

lemma CbPtr.At.laps (h : p.At n r) (h' : p.At n r') (hle : r ≤ r') : (r' - r) % (n * 2 ^ 32) = 0 := by
  have hidx : r % n = r' % n := h.idx.symm.trans h'.idx
  have hspin : r / n % 2 ^ 32 = r' / n % 2 ^ 32 := h.spin.symm.trans h'.spin
  have hlaps : r' - r = n * (r' / n - r / n) := by
    have hdist := Lap.sub_eq (n := n) hle
    lia
  have hmod : (r' / n - r / n) % 2 ^ 32 = 0 := by
    have hdiv : r / n ≤ r' / n := Nat.div_le_div_right hle
    lia
  rw [hlaps, Nat.mul_mod_mul_left, hmod, Nat.mul_zero]

end Positions

section Reads

variable {n c w : ℕ} {size : UInt32} {st : CbOperation}

lemma read_poll_idle (hst : st.desc.read.asyncStarted = false) :
    cbOperationPoll [] size true st =
      let d := if (cbSize st.desc).1 = -EOVERRUN then skipOverrun st.desc else st.desc
      let req := min (size - st.i) (cbSize st.desc).2
      let a := min req (d.size - d.read.idx)
      if req = 0 then { st with desc := d }
      else
        { desc := { d with
            read := CbPtr.finish { d.read with asyncSize := a, asyncStarted := true } d.size }
          i := st.i + a
          stickyOverrun := st.stickyOverrun || (cbSize st.desc).1 = -EOVERRUN
          data := st.data ++ d.bytes (d.read.idx, a) } := by
  unfold cbOperationPoll cbPrepareAsyncOperation
  simp only [CircularBuffer.ptr, if_true, hst, Bool.false_eq_true, if_false]
  split
  next hnone =>
    split at hnone
    next hreq => simp only [if_pos hreq]
    · cases hnone
  next region hsome =>
    split at hsome
    · cases hsome
    next hreq =>
      obtain rfl := Option.some.inj hsome
      simp only [if_neg hreq]
      simp only [reserve, CircularBuffer.ptr, CircularBuffer.setPtr, CircularBuffer.bytes,
        cbEndAsyncOperation, if_true, Bool.not_true, Bool.false_eq_true, if_false]

lemma read_poll_frame : (cbOperationPoll [] size true st).desc.size = st.desc.size ∧
    (cbOperationPoll [] size true st).desc.buff = st.desc.buff ∧
    (cbOperationPoll [] size true st).desc.write = st.desc.write := by
  cases hst : st.desc.read.asyncStarted with
  | true =>
    rw [read_poll_started hst]
    exact ⟨rfl, rfl, rfl⟩
  | false =>
    rw [read_poll_idle hst]
    dsimp only
    split_ifs
    · exact ⟨rfl, rfl, rfl⟩
    · exact ⟨rfl, rfl, rfl⟩
    · exact ⟨rfl, rfl, rfl⟩
    · exact ⟨rfl, rfl, rfl⟩

lemma read_loop_frame (polls : ℕ) :
    (cbOperationLoop [] size true polls st).desc.size = st.desc.size ∧
      (cbOperationLoop [] size true polls st).desc.buff = st.desc.buff ∧
      (cbOperationLoop [] size true polls st).desc.write = st.desc.write := by
  induction polls generalizing st with
  | zero => exact ⟨rfl, rfl, rfl⟩
  | succ polls ih =>
    rw [cbOperationLoop_succ]
    split
    · obtain ⟨hsize, hbuff, hwrite⟩ := @ih (cbOperationPoll [] size true st)
      obtain ⟨hsize', hbuff', hwrite'⟩ := @read_poll_frame size st
      exact ⟨hsize.trans hsize', hbuff.trans hbuff', hwrite.trans hwrite'⟩
    · exact ⟨rfl, rfl, rfl⟩

/-- The size of the started write. -/
def CircularBuffer.setWriteSize (a : UInt32) (desc : CircularBuffer) : CircularBuffer :=
  { desc with write := { desc.write with asyncSize := a } }

def CbOperation.setWriteSize (a : UInt32) (st : CbOperation) : CbOperation :=
  { st with desc := st.desc.setWriteSize a }

lemma read_poll_setWriteSize (a : UInt32) : cbOperationPoll [] size true (st.setWriteSize a) =
    (cbOperationPoll [] size true st).setWriteSize a := by
  cases hst : st.desc.read.asyncStarted with
  | true =>
    have hst' : (st.setWriteSize a).desc.read.asyncStarted = true := hst
    rw [read_poll_started hst, read_poll_started hst']
  | false =>
    have hst' : (st.setWriteSize a).desc.read.asyncStarted = false := hst
    have hsize : cbSize (st.setWriteSize a).desc = cbSize st.desc := rfl
    have hi : (st.setWriteSize a).i = st.i := rfl
    rw [read_poll_idle hst, read_poll_idle hst', hsize, hi]
    dsimp only
    by_cases hover : (cbSize st.desc).1 = -EOVERRUN
    · rw [if_pos hover, if_pos hover]
      split_ifs
      · rfl
      · rfl
    · rw [if_neg hover, if_neg hover]
      split_ifs
      · rfl
      · rfl

lemma read_loop_setWriteSize (a : UInt32) (polls : ℕ) :
    cbOperationLoop [] size true polls (st.setWriteSize a) =
      (cbOperationLoop [] size true polls st).setWriteSize a := by
  induction polls generalizing st with
  | zero => rfl
  | succ polls ih =>
    rw [cbOperationLoop_succ, cbOperationLoop_succ, read_poll_setWriteSize, ih]
    exact (apply_ite (CbOperation.setWriteSize a) _ _ _).symm

/-- Without a reported overrun the read pointer moves by what has been read. -/
structure CbOperation.Moves (n : ℕ) (size : UInt32) (c : ℕ) (st : CbOperation) : Prop where
  capacity : st.desc.size.toNat = n
  idle : st.desc.read.asyncStarted = false
  bound : st.i.toNat ≤ size.toNat
  read : st.stickyOverrun = false → st.desc.read.At n (c + st.i.toNat)

lemma cbSize_overrun {desc : CircularBuffer} (h : (cbSize desc).1 = -EOVERRUN) :
    (cbSize desc).2 = desc.size := by
  unfold cbSize clampSize at h ⊢
  split at h
  next hlt => rw [if_pos hlt]
  · cases h

lemma CbOperation.Moves.poll (h : st.Moves n size c) (hn : 0 < n) (hi : st.i < size) :
    (cbOperationPoll [] size true st).Moves n size c ∧
      st.data <+: (cbOperationPoll [] size true st).data := by
  have hlt := UInt32.lt_iff_toNat_lt.mp hi
  have hleft : (size - st.i).toNat = size.toNat - st.i.toNat := toNat_sub_of_le h.bound
  rw [read_poll_idle h.idle]
  dsimp only
  set d := if (cbSize st.desc).1 = -EOVERRUN then skipOverrun st.desc else st.desc with hd
  have hsize : d.size.toNat = n := by
    rw [hd]
    split
    · exact h.capacity
    · exact h.capacity
  split
  next hreq =>
    have hno : (cbSize st.desc).1 ≠ -EOVERRUN := by
      intro hover
      have hreq' := congrArg UInt32.toNat hreq
      have hs := h.capacity
      rw [UInt32.toNat_min, cbSize_overrun hover, hleft, UInt32.toNat_zero] at hreq'
      lia
    rw [hd, if_neg hno]
    exact ⟨h, List.prefix_refl _⟩
  next hreq =>
    set a := min (min (size - st.i) (cbSize st.desc).2) (d.size - d.read.idx) with ha
    have hle : a.toNat ≤ size.toNat - st.i.toNat := by
      rw [ha, UInt32.toNat_min, UInt32.toNat_min, hleft]
      lia
    have hnext : (st.i + a).toNat = st.i.toNat + a.toNat := by
      have hsz := size.toNat_lt
      exact toNat_add_of_lt (by lia)
    refine ⟨⟨hsize, rfl, ?_, ?_⟩, List.prefix_append _ _⟩
    · rw [hnext]
      lia
    · intro hsticky
      obtain ⟨hbefore, hno⟩ := Bool.or_eq_false_iff.mp hsticky
      have hsame : d = st.desc := if_neg (of_decide_eq_false hno)
      have hat := ((h.read hbefore).start h.capacity hn (min (size - st.i) (cbSize st.desc).2)).finish
        h.capacity hn
      rw [hnext, ← Nat.add_assoc, ha, hsame]
      exact hat

lemma CbOperation.Moves.loop (h : st.Moves n size c) (hn : 0 < n) (polls : ℕ) :
    (cbOperationLoop [] size true polls st).Moves n size c ∧
      st.data <+: (cbOperationLoop [] size true polls st).data := by
  induction polls generalizing st with
  | zero => exact ⟨h, List.prefix_refl _⟩
  | succ polls ih =>
    rw [cbOperationLoop_succ]
    split
    next hi =>
      obtain ⟨hmoves, hdata⟩ := h.poll hn hi
      obtain ⟨hlast, hdata'⟩ := ih hmoves
      exact ⟨hlast, hdata.trans hdata'⟩
    · exact ⟨h, List.prefix_refl _⟩

end Reads

namespace SocketStream

variable {n : ℕ} {s : SocketStream}

lemma Valid.first_poll (h : s.Valid n) (hn : 0 < n) {size : UInt32} (h0 : size ≠ 0)
    (hav : (cbSize s.desc).2 ≠ 0) :
    (cbOperationPoll [] size true { desc := s.desc }).data ≠ [] := by
  have hs := h.size
  have hlen : s.desc.buff.length = n := h.counts.len
  rw [read_poll_idle h.readIdle]
  dsimp only
  set d := if (cbSize s.desc).1 = -EOVERRUN then skipOverrun s.desc else s.desc with hd
  have hpos : d.read.idx.toNat < n ∧ d.size.toNat = n ∧ d.buff.length = n := by
    have hw := h.write_at.idx
    have hr := h.read_at.idx
    have hwm := Nat.mod_lt s.written.length hn
    have hrm := Nat.mod_lt s.consumed hn
    rw [hd]
    split
    · exact ⟨by rw [← hw] at hwm; exact hwm, hs, hlen⟩
    · exact ⟨by rw [← hr] at hrm; exact hrm, hs, hlen⟩
  obtain ⟨hidx, hsize, hbuff⟩ := hpos
  have hreq : min (size - 0) (cbSize s.desc).2 ≠ 0 := by
    intro hc
    have hc' := congrArg UInt32.toNat hc
    rw [UInt32.toNat_min, UInt32.sub_zero, UInt32.toNat_zero] at hc'
    have hz : size.toNat ≠ 0 := fun hz => h0 (UInt32.toNat_inj.mp hz)
    have hz' : (cbSize s.desc).2.toNat ≠ 0 := fun hz => hav (UInt32.toNat_inj.mp hz)
    lia
  rw [if_neg hreq]
  set a := min (min (size - 0) (cbSize s.desc).2) (d.size - d.read.idx) with ha
  have hroom : (d.size - d.read.idx).toNat = n - d.read.idx.toNat := by
    rw [toNat_sub_of_le (by lia), hsize]
  have hbytes : (d.bytes (d.read.idx, a)).length = a.toNat := by
    refine slice_length ?_
    have hle : a.toNat ≤ (d.size - d.read.idx).toNat := by
      rw [ha, UInt32.toNat_min]
      exact Nat.min_le_right _ _
    dsimp only
    lia
  have hapos : a.toNat ≠ 0 := by
    have hreq' : (min (size - 0) (cbSize s.desc).2).toNat ≠ 0 := fun hz =>
      hreq (UInt32.toNat_inj.mp hz)
    rw [ha, UInt32.toNat_min]
    lia
  intro hnil
  rw [List.append_eq_nil_iff] at hnil
  rw [hnil.2] at hbytes
  exact hapos hbytes.symm

lemma Valid.oldest_eq (h : s.Valid n) : s.oldest = max s.consumed (s.written.length + s.filled - n) := by
  rw [oldest, h.size]

lemma Valid.oldest_le (h : s.Valid n) : s.oldest ≤ s.written.length := by
  have hfits := h.write_at.fits
  have hfilled := h.filled
  have hle := h.consumed
  rw [h.oldest_eq]
  lia

lemma Valid.oldest_at (h : s.Valid n) (hn : 0 < n) (hc : s.CaughtUp) : s.desc.read.At n s.oldest := by
  refine h.read_at.congr hn (Nat.le_max_left _ _) ?_
  rw [CaughtUp, h.size] at hc
  exact hc

/-- Without an overrun the buffer is one whose started write has the size of what it has stored. -/
lemma Valid.fifo (h : s.Valid n) (hn : 0 < n) (hc : s.CaughtUp) :
    let t : CbHistory := ⟨s.desc.setWriteSize (UInt32.ofNat s.filled), s.written,
      s.written.take s.oldest⟩
    t.Fifo n ∧ t.Room n := by
  have hle := h.oldest_le
  have hfits := h.write_at.fits
  have hfilled := h.filled
  have hlen : (s.written.take s.oldest).length = s.oldest := by
    rw [List.length_take, Nat.min_eq_left hle]
  have hval : (UInt32.ofNat s.filled).toNat = s.filled :=
    UInt32.toNat_ofNat_of_lt' (hfilled.trans_lt s.desc.write.asyncSize.toNat_lt)
  have hread : s.desc.read.At n (s.written.take s.oldest).length := hlen.symm ▸ h.oldest_at hn hc
  have hwrite : (s.desc.setWriteSize (UInt32.ofNat s.filled)).write.At n s.written.length := by
    refine ⟨h.write_at.idx, h.write_at.spin, fun hst => ?_, ?_⟩
    · change UInt32.ofNat s.filled = 0
      rw [h.filled_idle hst]
      rfl
    · change s.written.length % n + (UInt32.ofNat s.filled).toNat ≤ n
      lia
  have hidle : s.desc.read.asyncSize.toNat = 0 := by
    rw [h.read_at.idle h.readIdle]
    rfl
  refine ⟨⟨⟨h.size, h.counts.len, hwrite, hread, ?_⟩, ?_, ?_⟩, ?_⟩
  · change (s.written.take s.oldest).length + s.desc.read.asyncSize.toNat ≤ s.written.length
    lia
  · change Holds n s.desc.buff s.written
      (s.written.length + (UInt32.ofNat s.filled).toNat - n) s.written.length
    rw [hval]
    exact h.holds
  · simp only [hlen]
  · change s.written.length + (UInt32.ofNat s.filled).toNat ≤ (s.written.take s.oldest).length + n
    rw [hval, hlen, h.oldest_eq]
    lia

lemma Valid.cbSize_eq (h : s.Valid n) (hn : 0 < n) (hc : s.CaughtUp) :
    (cbSize s.desc).2.toNat = s.written.length - s.oldest := by
  have hlap : s.written.length ≤ s.oldest + n := by
    rw [h.oldest_eq]
    lia
  obtain ⟨size, hsize, hval⟩ := cbSize_of_le h.size hn h.write_at (h.oldest_at hn hc) h.oldest_le hlap
  rw [hsize]
  exact hval

lemma Valid.read (h : s.Valid n) (hn : 0 < n) (hc : s.CaughtUp) {k : UInt32} (h0 : k ≠ 0)
    (hk : s.oldest + k.toNat ≤ s.written.length) :
    (cbRead k.toNat s.desc k).ret = some SUCCESS ∧
      (cbRead k.toNat s.desc k).data = slice s.written s.oldest k.toNat ∧
      (cbRead k.toNat s.desc k).desc.read.At n (s.oldest + k.toNat) ∧
      Valid n { s with desc := (cbRead k.toNat s.desc k).desc, consumed := s.oldest + k.toNat } := by
  obtain ⟨hfifo, hroom⟩ := h.fifo hn hc
  have hlen : (s.written.take s.oldest).length = s.oldest := by
    rw [List.length_take, Nat.min_eq_left h.oldest_le]
  have hreading : (CbOperation.setWriteSize (UInt32.ofNat s.filled) { desc := s.desc }).reading
      s.written (s.written.take s.oldest) = ⟨s.desc.setWriteSize (UInt32.ofNat s.filled), s.written,
        s.written.take s.oldest⟩ := by
    simp only [CbOperation.reading, CbOperation.setWriteSize, List.append_nil]
  obtain ⟨hi, hsticky, hdata, hidle, -, hlast⟩ := CbStream.read_loop_slice
    (CbOperation.setWriteSize (UInt32.ofNat s.filled) { desc := s.desc }) k hn (hreading ▸ hfifo)
    (hreading ▸ hroom) rfl (Nat.zero_le _) h.readIdle (hlen.symm ▸ hk) (Nat.le_add_left k.toNat 0)
  rw [read_loop_setWriteSize] at hi hsticky hdata hidle hlast
  rw [hlen] at hdata hlast
  obtain ⟨hsize, hbuff, hwrite⟩ := @read_loop_frame k { desc := s.desc } k.toNat
  have hpos : (s.written.take (s.oldest + k.toNat)).length = s.oldest + k.toNat := by
    rw [List.length_take, Nat.min_eq_left hk]
  have hread := hlast.read
  rw [hpos] at hread
  have hi' : (cbOperationLoop [] k true k.toNat { desc := s.desc }).i = k := hi
  have hsticky' : (cbOperationLoop [] k true k.toNat { desc := s.desc }).stickyOverrun = false := hsticky
  have heq : cbRead k.toNat s.desc k =
      ⟨some SUCCESS, (cbOperationLoop [] k true k.toNat { desc := s.desc }).desc, k,
        slice s.written s.oldest k.toNat⟩ := by
    rw [cbRead, cbOperation, if_neg h0, ← hdata]
    simp only [hi', hsticky', UInt32.lt_irrefl, if_false, Bool.false_eq_true]
    rfl
  rw [heq]
  refine ⟨rfl, rfl, hread, ⟨⟨?_, ?_, ?_, ?_, ?_⟩, hk, hidle, ?_, ?_⟩⟩
  · exact (congrArg UInt32.toNat hsize).trans h.size
  · exact (congrArg List.length hbuff).trans h.counts.len
  · exact hwrite ▸ h.write_at
  · exact hlast.read
  · exact hlast.ahead
  · exact hwrite ▸ h.filled
  · exact hbuff ▸ h.holds

lemma Valid.caughtUp_of_right (h : s.Valid n) (hn : 0 < n) {k : UInt32} (h0 : k ≠ 0)
    (hav : (cbSize s.desc).2 ≠ 0)
    (hright : s.RecvRight ⟨(cbRead k.toNat s.desc k).ret.map fun ret =>
      if isErrValue ret then ret else k.toInt32.toInt, (cbRead k.toNat s.desc k).desc,
      (cbRead k.toNat s.desc k).data⟩) : s.CaughtUp ∧ k.toNat < 2 ^ 31 := by
  have hstart : CbOperation.Moves n k s.consumed { desc := s.desc } :=
    ⟨h.size, h.readIdle, Nat.zero_le _, fun _ => h.read_at⟩
  obtain ⟨hmoves, -⟩ := hstart.loop hn k.toNat
  have hdata : (cbOperationLoop [] k true k.toNat { desc := s.desc }).data ≠ [] := by
    have hpos : k.toNat ≠ 0 := fun hz => h0 (UInt32.toNat_inj.mp hz)
    obtain ⟨polls, hpolls⟩ := Nat.exists_eq_succ_of_ne_zero hpos
    have hlt : (0 : UInt32) < k := UInt32.lt_iff_toNat_lt.mpr (Nat.pos_of_ne_zero hpos)
    rw [hpolls, Nat.succ_eq_add_one, cbOperationLoop_succ, if_pos hlt]
    intro hnil
    have hprefix := ((hstart.poll hn hlt).1.loop hn polls).2
    rw [hnil, List.prefix_nil] at hprefix
    exact h.first_poll hn h0 hav hprefix
  rw [cbRead, cbOperation, if_neg h0] at hright
  obtain ⟨hreturns, herror, hbytes⟩ := hright
  dsimp only at hreturns herror hbytes
  have hdone : ¬(cbOperationLoop [] k true k.toNat { desc := s.desc }).i < k := by
    intro hlt
    rw [if_pos hlt] at hreturns
    cases hreturns
  have hi : (cbOperationLoop [] k true k.toNat { desc := s.desc }).i.toNat = k.toNat :=
    Nat.le_antisymm hmoves.bound (Nat.le_of_not_lt fun hlt => hdone (UInt32.lt_iff_toNat_lt.mpr hlt))
  rw [if_neg hdone] at herror hbytes
  cases hsticky : (cbOperationLoop [] k true k.toNat { desc := s.desc }).stickyOverrun with
  | true =>
    rw [hsticky] at herror
    have hneg : (-EOVERRUN : ℤ) < 0 := by decide
    exact absurd (herror _ rfl hneg).1 hdata
  | false =>
    rw [hsticky] at herror hbytes
    have hsmall : k.toNat < 2 ^ 31 := by
      by_contra hbig
      have hneg := toInt32_neg.mpr (Nat.le_of_not_lt hbig)
      exact hdata (herror _ rfl (Int32.lt_iff_toInt_lt.mp hneg)).1
    have hval : k.toInt32.toInt = k.toNat := toInt32_toInt hsmall
    obtain ⟨-, -, hat⟩ := hbytes k.toInt32.toInt rfl (hval ▸ Int.natCast_nonneg _)
    have hread := hmoves.read hsticky
    rw [hval, Int.toNat_natCast, h.size] at hat
    rw [hi] at hread
    have hlaps := hread.laps hat (Nat.add_le_add_right (Nat.le_max_left _ _) _)
    rw [Nat.add_sub_add_right] at hlaps
    refine ⟨?_, hsmall⟩
    rw [CaughtUp, h.size]
    exact hlaps

/-- A call that cannot receive anything. -/
def Refused (s : SocketStream) (wifi : WifiDesc) (sockId : SocketId) (size : UInt32) : Prop :=
  size = 0 ∨ wifi.server.id = some sockId ∨ wifi.state sockId ≠ .connected ∨
    wifi.cb sockId = none ∨ (cbSize s.desc).2 = 0

section Recv

variable {wifi : WifiDesc} {sockId : SocketId} {unset size : UInt32}

lemma recv_refused (h : s.Refused wifi sockId size) :
    ∃ ret, ret < 0 ∧ wifiSocketRecvData wifi sockId s.desc unset size =
      { ret := some ret, desc := s.desc } := by
  unfold wifiSocketRecvData
  by_cases hargs : size = 0 ∨ wifi.server.id = some sockId
  · exact ⟨-EINVAL, by decide, if_pos hargs⟩
  rw [if_neg hargs]
  by_cases hstate : wifi.state sockId ≠ .connected
  · exact ⟨-ENOTCONN, by decide, if_pos hstate⟩
  rw [if_neg hstate]
  by_cases hcb : wifi.cb sockId = none
  · rw [if_pos hcb]
    split
    · exact ⟨-EAGAIN, by decide, rfl⟩
    · exact ⟨-EINVAL, by decide, rfl⟩
  rw [if_neg hcb]
  have havail : (cbSize s.desc).2 = 0 := by
    rcases h with h | h | h | h | h
    · exact absurd (.inl h) hargs
    · exact absurd (.inr h) hargs
    · exact absurd h hstate
    · exact absurd h hcb
    · exact h
  exact ⟨-EAGAIN, by decide, if_pos havail⟩

lemma recv_live (h : ¬s.Refused wifi sockId size) :
    let k := min (cbSize s.desc).2 size
    k ≠ 0 ∧ (cbSize s.desc).2 ≠ 0 ∧ wifiSocketRecvData wifi sockId s.desc unset size =
      ⟨(cbRead k.toNat s.desc k).ret.map fun ret => if isErrValue ret then ret else k.toInt32.toInt,
        (cbRead k.toNat s.desc k).desc, (cbRead k.toNat s.desc k).data⟩ := by
  simp only [Refused, not_or] at h
  obtain ⟨hsize, hserver, hstate, hcb, havail⟩ := h
  refine ⟨?_, havail, ?_⟩
  · intro hz
    have hz' := congrArg UInt32.toNat hz
    rw [UInt32.toNat_min, UInt32.toNat_zero] at hz'
    have hsize' : size.toNat ≠ 0 := fun hc => hsize (UInt32.toNat_inj.mp hc)
    have havail' : (cbSize s.desc).2.toNat ≠ 0 := fun hc => havail (UInt32.toNat_inj.mp hc)
    lia
  · unfold wifiSocketRecvData
    rw [if_neg (not_or.mpr ⟨hsize, hserver⟩), if_neg hstate, if_neg hcb]
    exact if_neg havail

lemma Valid.recv_read (h : s.Valid n) (hn : 0 < n) (hlive : ¬s.Refused wifi sockId size)
    (hc : s.CaughtUp) (hsmall : (min (cbSize s.desc).2 size).toNat < 2 ^ 31) :
    s.RecvRight (wifiSocketRecvData wifi sockId s.desc unset size) ∧
      (s.step (.recv wifi sockId unset size)).Valid n := by
  obtain ⟨h0, -, hrun⟩ := @recv_live s wifi sockId unset size hlive
  set k := min (cbSize s.desc).2 size with hk
  have hroom : s.oldest + k.toNat ≤ s.written.length := by
    have hle := h.oldest_le
    have hval := h.cbSize_eq hn hc
    rw [hk, UInt32.toNat_min]
    lia
  obtain ⟨hret, hdata, hat, hvalid⟩ := h.read hn hc h0 hroom
  have hcode : (if isErrValue SUCCESS = true then SUCCESS else k.toInt32.toInt) = k.toNat := by
    rw [if_neg (by decide), toInt32_toInt hsmall]
  rw [hret, Option.map_some, hcode] at hrun
  have hlen : (cbRead k.toNat s.desc k).data.length = k.toNat := by
    rw [hdata]
    exact slice_length hroom
  constructor
  · rw [hrun]
    refine ⟨rfl, ?_, ?_⟩
    · intro ret hmem hneg
      obtain rfl := Option.some.inj hmem
      exact absurd hneg (Int.not_lt.mpr (Int.natCast_nonneg _))
    · intro ret hmem _
      obtain rfl := Option.some.inj hmem
      rw [Int.toNat_natCast, h.size]
      refine ⟨hroom, ?_, ?_⟩
      · dsimp only
        rw [hdata]
      · dsimp only
        exact hat
  · have hnonempty : (cbRead k.toNat s.desc k).data ≠ [] := by
      intro hnil
      rw [hnil] at hlen
      exact h0 (UInt32.toNat_inj.mp hlen.symm)
    simp only [step, hrun, if_neg hnonempty, hlen]
    exact hvalid

lemma Valid.recv_iff (h : s.Valid n) (hn : 0 < n) :
    s.Right (.recv wifi sockId unset size) ↔ s.Allowed (.recv wifi sockId unset size) := by
  have hsplit : s.Allowed (.recv wifi sockId unset size) ↔ s.Refused wifi sockId size ∨
      s.CaughtUp ∧ (min (cbSize s.desc).2 size).toNat < 2 ^ 31 := by
    simp only [Allowed, Refused, or_assoc]
  rw [hsplit]
  by_cases hrefused : s.Refused wifi sockId size
  · refine iff_of_true ?_ (.inl hrefused)
    obtain ⟨ret, hneg, hrun⟩ := @recv_refused s wifi sockId unset size hrefused
    rw [Right, hrun]
    refine ⟨rfl, fun _ _ _ => ⟨rfl, rfl⟩, fun code hmem hpos => ?_⟩
    obtain rfl := Option.some.inj hmem
    exact absurd hneg (Int.not_lt.mpr hpos)
  · obtain ⟨h0, hav, hrun⟩ := @recv_live s wifi sockId unset size hrefused
    constructor
    · intro hright
      rw [Right, hrun] at hright
      exact .inr (h.caughtUp_of_right hn h0 hav hright)
    · rintro (hno | ⟨hc, hsmall⟩)
      · exact absurd hno hrefused
      · exact (h.recv_read hn hrefused hc hsmall).1

end Recv

lemma Valid.right_iff (h : s.Valid n) (hn : 0 < n) (e : SocketEvent) : s.Right e ↔ s.Allowed e := by
  cases e with
  | recv wifi sockId unset size => exact h.recv_iff hn
  | _ => exact Iff.rfl

theorem Valid.step (h : s.Valid n) (hn : 0 < n) (e : SocketEvent) (hok : s.Allowed e) :
    (s.step e).Valid n := by
  cases e with
  | prepareWrite size => exact h.prepareWrite hn size
  | fill b => exact h.fill b
  | endWrite => exact h.endWrite hn
  | recv wifi sockId unset size =>
    by_cases hrefused : s.Refused wifi sockId size
    · obtain ⟨ret, -, hrun⟩ := @recv_refused s wifi sockId unset size hrefused
      have hstep : s.step (.recv wifi sockId unset size) = s := by
        simp only [SocketStream.step, hrun]
        rfl
      rwa [hstep]
    · have hc : s.CaughtUp ∧ (min (cbSize s.desc).2 size).toNat < 2 ^ 31 := by
        simp only [Refused, not_or] at hrefused
        rcases hok with hno | hno | hno | hno | hno | hc
        · exact absurd hno hrefused.1
        · exact absurd hno hrefused.2.1
        · exact absurd hno hrefused.2.2.1
        · exact absurd hno hrefused.2.2.2.1
        · exact absurd hno hrefused.2.2.2.2
        · exact hc
      exact (h.recv_read hn hrefused hc.1 hc.2).2

end SocketStream

/-- In every run the calls are right if and only if each of them is allowed. -/
theorem wifi_socket_recv_iff {size : UInt32} {mem : CbAlloc} {desc : CircularBuffer}
    (hinit : cbInit size mem = (SUCCESS, some desc)) (events : List SocketEvent) :
    Trace.Guarded SocketStream.step SocketStream.Right { desc := desc } events ↔
      Trace.Guarded SocketStream.step SocketStream.Allowed { desc := desc } events := by
  obtain ⟨hn, rfl⟩ := cbInit_success hinit
  exact Trace.guarded_iff_guarded (Q := SocketStream.Valid size.toNat) SocketStream.Valid.init
    (fun s e hs he => hs.step hn e he) fun s e hs => hs.right_iff hn e

/-- The interrupts write a payload. -/
def payloadEvents (data : List UInt8) : List SocketEvent :=
  .prepareWrite (UInt32.ofNat data.length) :: data.map .fill ++ [.endWrite]

/-- A socket that is connected. -/
def connectedSocket : WifiDesc where
  cb := fun _ => some 0
  state := fun _ => .connected

/-- Three bytes are received while a fourth is written. -/
theorem wifi_socket_recv_three :
    Trace.Guarded SocketStream.step SocketStream.Right { desc := { size := 4, buff := [0, 0, 0, 0] } }
      (payloadEvents [1, 2, 3] ++ [.prepareWrite 1, .fill 4, .recv connectedSocket 0 0 8]) :=
  (wifi_socket_recv_iff (by decide : cbInit 4 {} = _) _).mpr (by decide)

/-- With six bytes in a buffer of four, -EOVERRUN is returned and the bytes are consumed. -/
theorem wifi_socket_recv_overrun : ¬Trace.Guarded SocketStream.step SocketStream.Right
    { desc := { size := 4, buff := [0, 0, 0, 0] } }
      (payloadEvents [1, 2, 3, 4] ++ payloadEvents [5, 6] ++ [.recv connectedSocket 0 0 4]) := by
  intro h
  have hright := h _ _ (List.prefix_refl _)
  have hdata := (hright.error (-EOVERRUN) (by decide) (by decide)).1
  exact absurd hdata (by decide)

end NoOS
