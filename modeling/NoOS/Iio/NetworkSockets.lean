import NoOS.Iio.NetworkLink

/-!
# Sockets of the network link

The sockets in the queue are all different, none of them is the socket of the step, and all of
them are there, as long as the queue has no overrun that `cb_size` does not see. An error of
`socket_recv` overwrites the first byte that has been read.
-/

namespace NoOS
open RingWindow Word CbStream

lemma sockOfBytes_sockBytes (sock : UInt32) : sockOfBytes (sockBytes sock) = sock := by
  apply UInt32.toNat_inj.mp
  have hlt := sock.toNat_lt
  simp only [sockOfBytes, sockBytes, List.range_succ, List.range_zero, List.nil_append,
    List.map_cons, List.map_nil, List.cons_append, List.foldr_cons, List.foldr_nil,
    UInt8.toNat_ofNat', UInt32.toNat_ofNat']
  lia

/-- The bytes of a list of pointers. -/
def queueBytes (socks : List UInt32) : List UInt8 := socks.flatMap sockBytes

lemma length_queueBytes (socks : List UInt32) : (queueBytes socks).length = 4 * socks.length := by
  simp [queueBytes, List.length_flatMap, Nat.mul_comm]

lemma queueBytes_drop (socks : List UInt32) (k : ℕ) :
    (queueBytes socks).drop (4 * k) = queueBytes (socks.drop k) := by
  induction k generalizing socks with
  | zero => rfl
  | succ k ih =>
    cases socks with
    | nil => simp [queueBytes]
    | cons sock socks =>
      have hsplit : queueBytes (sock :: socks) = sockBytes sock ++ queueBytes socks := rfl
      rw [hsplit, Nat.mul_succ, Nat.add_comm, ← List.drop_drop, List.drop_left' (length_sockBytes sock), ih]
      rfl

lemma slice_queueBytes {socks rest : List UInt32} {sock : UInt32} {k : ℕ}
    (h : socks.drop k = sock :: rest) : slice (queueBytes socks) (4 * k) 4 = sockBytes sock := by
  rw [slice, queueBytes_drop, h]
  exact List.take_left' (length_sockBytes sock)

lemma write_loop_sticky {src : List UInt8} {size : UInt32} {st : CbOperation} (polls : ℕ) :
    (cbOperationLoop src size false polls st).stickyOverrun = st.stickyOverrun := by
  induction polls generalizing st with
  | zero => rfl
  | succ polls ih =>
    rw [cbOperationLoop_succ]
    split
    · rw [ih]
      cases hst : st.desc.write.asyncStarted with
      | true => rw [write_poll_started hst]
      | false => rw [write_poll_idle hst]
    · rfl

lemma CbStream.Tracked.write_ret {s : CbStream} {n : ℕ} (h : s.Tracked n) (hn : 0 < n)
    {data : List UInt8} {size : UInt32} (h0 : size ≠ 0) (hlen : data.length = size.toNat) :
    (cbWrite size.toNat s.desc data size).ret = some SUCCESS := by
  obtain ⟨hi, -, -⟩ := write_loop_done hn hlen size.toNat
    ((CbHistory.writing_start (s := s.history) data).symm ▸ h.fifo.toCounts) (Nat.zero_le _)
    h.writeIdle (Nat.le_add_left _ _)
  have hi' : (cbOperationLoop data size false size.toNat { desc := s.desc }).i = size := hi
  have hsticky := @write_loop_sticky data size { desc := s.desc } size.toNat
  rw [cbWrite, cbOperation, if_neg h0]
  dsimp only
  rw [hi', hsticky, if_neg (UInt32.lt_irrefl _)]
  rfl

namespace IioNetwork

variable {s s' : IioNetwork} {socks : List UInt32} {c : ℕ} {sock : UInt32}

/-- The position in `socks` of the next socket that can be taken. -/
def next (socks : List UInt32) (c : ℕ) : ℕ := max c (socks.length - MAX_SOCKET_TO_HANDLE)

/-- The sockets that can still be taken. -/
def queue (socks : List UInt32) (c : ℕ) : List UInt32 := socks.drop (next socks c)

/-- All sockets `socks` have been pushed, and `c` of them are behind the read pointer. -/
structure Pushed (s : IioNetwork) (socks : List UInt32) (c : ℕ) : Prop where
  tracked : s.sockets.Tracked 16
  written : s.sockets.written = queueBytes socks
  consumed : s.sockets.consumed = 4 * c

lemma Pushed.length (h : s.Pushed socks c) : s.sockets.written.length = 4 * socks.length := by
  rw [h.written, length_queueBytes]

lemma Pushed.oldest (h : s.Pushed socks c) : s.sockets.oldest = 4 * next socks c := by
  rw [CbStream.oldest, h.tracked.size, h.length, h.consumed, next, MAX_SOCKET_TO_HANDLE]
  lia

lemma Pushed.push (h : s.Pushed socks c) (hlive : sock ∈ s.live) :
    ∃ sockets, s.pushSock sock = .ok (SUCCESS, { s with sockets := sockets }) ∧
      Pushed { s with sockets := sockets } (socks ++ [sock]) c := by
  have hret := h.tracked.write_ret (by decide) (by decide : (4 : UInt32) ≠ 0) (length_sockBytes sock)
  refine ⟨s.sockets.step (.write ⟨sockBytes sock, by simp⟩), ?_, ?_, ?_, h.consumed⟩
  · have haccess : s.access sock = .ok () := if_pos (.inr hlive)
    have hret' : (cbWrite 4 s.sockets.desc (sockBytes sock) 4).ret = some SUCCESS := hret
    simp only [pushSock, haccess, hret']
  · exact h.tracked.write (by decide) _
  · change s.sockets.written ++ sockBytes sock = _
    rw [h.written, queueBytes, queueBytes, List.flatMap_append]
    simp

/-- A socket is taken from a queue without an overrun that does not show. -/
lemma Pushed.pop (h : s.Pushed socks c) {rest : List UInt32} (hq : queue socks c = sock :: rest)
    (hshow : s.sockets.OverrunShows) :
    ∃ ret sockets, s.popSock = .ok (ret, { s with sockets := sockets, currentSock := sock }) ∧
      (ret = SUCCESS ∨ ret = -EOVERRUN) ∧
      Pushed { s with sockets := sockets, currentSock := sock } socks (next socks c + 1) := by
  have hdrop : socks.drop (next socks c) = sock :: rest := hq
  have hlen := congrArg List.length hdrop
  rw [List.length_drop, List.length_cons] at hlen
  have hav : s.sockets.oldest + (4 : UInt32).toNat ≤ s.sockets.written.length := by
    rw [h.oldest, h.length]
    change _ + 4 ≤ _
    lia
  obtain ⟨hret, hdata⟩ := h.tracked.readOk (by decide) hshow 4 (by decide) hav
  have hbytes : (cbRead 4 s.sockets.desc 4).data = sockBytes sock := by
    have hslice := hdata
    rw [h.oldest, h.written] at hslice
    exact hslice.trans (slice_queueBytes hdrop)
  refine ⟨if s.sockets.desc.size.toNat < s.sockets.lag then -EOVERRUN else SUCCESS,
    s.sockets.step (.read 4), ?_, ?_, ?_, h.written, ?_⟩
  · have hret' : (cbRead 4 s.sockets.desc 4).ret =
        some (if s.sockets.desc.size.toNat < s.sockets.lag then -EOVERRUN else SUCCESS) := hret
    simp only [popSock, hret', hbytes, sockOfBytes_sockBytes]
  · split
    · exact .inr rfl
    · exact .inl rfl
  · exact h.tracked.read (by decide) ⟨hav, hshow⟩
  · change (if (4 : UInt32) = 0 then s.sockets.consumed else s.sockets.oldest + 4) = _
    rw [if_neg (by decide), h.oldest, Nat.mul_succ]

lemma Pushed.nbActiveSockets_iff (h : s.Pushed socks c) (hshow : s.sockets.OverrunShows) :
    s.nbActiveSockets = 0 ↔ s.sockets.written.length = s.sockets.consumed := by
  have hle := h.tracked.consumed
  have hlen := h.length
  have hc := h.consumed
  have hsize := h.tracked.size
  have hzero : s.nbActiveSockets = 0 ↔ (cbSize s.sockets.desc).2.toNat / 4 = 0 := by
    rw [nbActiveSockets, ← UInt32.toNat_inj, UInt32.toNat_div]
    rfl
  rw [hzero]
  by_cases hlag : 16 < s.sockets.lag
  · have hok := (h.tracked.sizeOk_iff (by decide) hlag).mpr hshow
    rw [SizeOk, if_pos (hsize.symm ▸ hlag)] at hok
    rw [hok]
    change s.sockets.desc.size.toNat / 4 = 0 ↔ _
    rw [CbStream.lag] at hlag
    rw [hsize]
    lia
  · have hok := h.tracked.sizeOk_of_le (by decide) (Nat.le_of_not_lt hlag)
    rw [SizeOk, if_neg (hsize.symm ▸ hlag)] at hok
    rw [hok]
    change (UInt32.ofNat s.sockets.lag).toNat / 4 = 0 ↔ _
    rw [UInt32.toNat_ofNat_of_lt' ((Nat.le_of_not_lt hlag).trans_lt (by decide))]
    rw [CbStream.lag] at hlag ⊢
    lia

/-- The sockets of the queue and of the step are different and have not been removed. -/
structure Sockets (s : IioNetwork) (socks : List UInt32) (c : ℕ) : Prop extends Pushed s socks c where
  nodup : (queue socks c).Nodup
  queued : ∀ x ∈ queue socks c, x ∈ s.live ∧ x ≠ s.currentSock
  current : s.currentSock = 0 ∨ s.currentSock = DISCONNECTED ∨ s.currentSock ∈ s.live
  valid : ∀ x ∈ s.live, x ≠ 0 ∧ x ≠ DISCONNECTED

lemma Pushed.count_le (h : s.Pushed socks c) : c ≤ socks.length := by
  have hle := h.tracked.consumed
  rw [h.consumed, h.length] at hle
  lia

lemma queue_push (hc : c ≤ socks.length) : (queue (socks ++ [sock]) c).Sublist (queue socks c ++ [sock]) := by
  have hle : next socks c ≤ socks.length := by
    rw [next]
    lia
  have hsplit : next (socks ++ [sock]) c = next socks c + (next (socks ++ [sock]) c - next socks c) := by
    rw [next, next, List.length_append]
    lia
  rw [queue, queue, hsplit, ← List.drop_drop, List.drop_append_of_le_length hle]
  exact List.drop_sublist _ _

lemma queue_pop {rest : List UInt32} (hq : queue socks c = sock :: rest) :
    queue socks (next socks c + 1) = rest := by
  have hnext : next socks (next socks c + 1) = next socks c + 1 := by
    rw [next, next]
    lia
  rw [queue, hnext, ← List.drop_drop]
  change ((queue socks c).drop 1) = rest
  rw [hq]
  rfl

/-- Each time that the queue is asked for a socket, an overrun shows. -/
def AcceptsShow (w r : ℕ) : List AcceptResult → Prop
  | [] => True
  | .error code :: accepts => code = -EAGAIN → Shows 16 w r ∧ (w = r → AcceptsShow w r accepts)
  | .client _ :: accepts => AcceptsShow (w + 4) r accepts

instance decidableAcceptsShow (w r : ℕ) : (accepts : List AcceptResult) → Decidable (AcceptsShow w r accepts)
  | [] => .isTrue trivial
  | .error _ :: accepts =>
    have := decidableAcceptsShow w r accepts
    inferInstanceAs (Decidable (_ → _))
  | .client _ :: accepts => decidableAcceptsShow (w + 4) r accepts

lemma Sockets.accept (h : s.Sockets socks c) (hcur : s.currentSock = 0) (hsock : sock ≠ 0)
    (hsock' : sock ≠ DISCONNECTED) (hnew : sock ∉ s.live) :
    ∃ sockets, pushSock { s with live := insert sock s.live } sock =
        .ok (SUCCESS, { s with sockets := sockets, live := insert sock s.live }) ∧
      Sockets { s with sockets := sockets, live := insert sock s.live } (socks ++ [sock]) c := by
  have hpushed : Pushed { s with live := insert sock s.live } socks c := ⟨h.tracked, h.written, h.consumed⟩
  obtain ⟨sockets, hrun, hnext⟩ := hpushed.push (Finset.mem_insert_self sock s.live)
  have hsub := @queue_push socks c sock h.count_le
  have hout : sock ∉ queue socks c := fun hmem => hnew (h.queued sock hmem).1
  refine ⟨sockets, hrun, hnext, hsub.nodup ?_, ?_, .inl hcur, ?_⟩
  · rw [List.nodup_append]
    refine ⟨h.nodup, List.nodup_singleton sock, ?_⟩
    intro x hx y hy hxy
    rw [List.mem_singleton.mp hy] at hxy
    exact hout (hxy ▸ hx)
  · intro x hx
    rcases List.mem_append.mp (hsub.subset hx) with hx | hx
    · exact ⟨Finset.mem_insert_of_mem (h.queued x hx).1, (h.queued x hx).2⟩
    · rw [List.mem_singleton.mp hx]
      exact ⟨Finset.mem_insert_self _ _, fun heq => hsock (heq.trans hcur)⟩
  · intro x hx
    rcases Finset.mem_insert.mp hx with rfl | hx
    · exact ⟨hsock, hsock'⟩
    · exact h.valid x hx

/-- What `_get_next_socket` leaves: a socket, or an error and none. -/
def Chosen (r : Except NetFault (ℤ × IioNetwork)) : Prop :=
  match r with
  | .error f => f = .waiting
  | .ok (ret, s) => (∃ socks c, s.Sockets socks c) ∧
      (isErrValue ret = false → s.currentSock ∈ s.live)

lemma Sockets.getNextSocket {accepts : List AcceptResult} (h : s.Sockets socks c) (hcur : s.currentSock = 0)
    (hshow : AcceptsShow s.sockets.written.length s.sockets.consumed accepts) :
    Chosen (IioNetwork.getNextSocket accepts s) := by
  induction accepts generalizing s socks with
  | nil => rfl
  | cons accept accepts ih =>
    cases accept with
    | error code =>
      rw [IioNetwork.getNextSocket]
      by_cases hagain : (code : ℤ) = -EAGAIN
      swap
      · rw [if_neg hagain]
        refine ⟨⟨socks, c, h⟩, fun hok => ?_⟩
        have hneg : isErrValue code = true := decide_eq_true code.property
        rw [hneg] at hok
        cases hok
      rw [if_pos hagain]
      obtain ⟨hover, hrest⟩ := hshow hagain
      have hover' : s.sockets.OverrunShows := by
        rw [OverrunShows, h.tracked.size]
        exact hover
      have hiff := h.nbActiveSockets_iff hover'
      by_cases hzero : s.nbActiveSockets = 0
      · rw [if_pos hzero]
        exact ih h hcur (hrest (hiff.mp hzero))
      rw [if_neg hzero]
      have hne : queue socks c ≠ [] := by
        intro hnil
        have hlen := congrArg List.length hnil
        have hle := h.count_le
        rw [queue, List.length_drop, List.length_nil, next, MAX_SOCKET_TO_HANDLE] at hlen
        refine hzero (hiff.mpr ?_)
        rw [h.length, h.consumed]
        lia
      obtain ⟨sock, rest, hq⟩ := List.exists_cons_of_ne_nil hne
      obtain ⟨ret, sockets, hrun, hret, hnext⟩ := h.pop hq hover'
      have hq' := queue_pop hq
      have hnodup := h.nodup
      rw [hq, List.nodup_cons] at hnodup
      obtain ⟨hlive, -⟩ := h.queued sock (hq ▸ List.mem_cons_self)
      have hqueued : ∀ x ∈ rest, x ∈ s.live := fun x hx =>
        (h.queued x (hq ▸ List.mem_cons_of_mem _ hx)).1
      simp only [hrun]
      rcases hret with rfl | rfl
      · refine ⟨⟨socks, next socks c + 1, hnext, ?_, ?_, .inr (.inr hlive), h.valid⟩, fun _ => hlive⟩
        · rw [hq']
          exact hnodup.2
        · intro x hx
          rw [hq'] at hx
          refine ⟨hqueued x hx, ?_⟩
          rintro rfl
          exact hnodup.1 hx
      · refine ⟨⟨socks, next socks c + 1, ⟨hnext.tracked, hnext.written, hnext.consumed⟩, ?_, ?_,
          .inl rfl, h.valid⟩, fun hok => absurd hok (by decide)⟩
        · rw [hq']
          exact hnodup.2
        · intro x hx
          rw [hq'] at hx
          exact ⟨hqueued x hx, (h.valid x (hqueued x hx)).1⟩
    | client sock =>
      rw [IioNetwork.getNextSocket]
      by_cases hbad : sock = 0 ∨ sock = DISCONNECTED ∨ sock ∈ s.live
      · rw [if_pos hbad]
        exact ⟨⟨socks, c, h⟩, fun hok => absurd hok (by decide)⟩
      rw [if_neg hbad]
      simp only [not_or] at hbad
      obtain ⟨sockets, hrun, hnext⟩ := h.accept hcur hbad.1 hbad.2.1 hbad.2.2
      simp only [hrun]
      refine ih hnext hcur ?_
      have hw : sockets.written.length = s.sockets.written.length + 4 := by
        have hnew := hnext.length
        rw [h.length, hnew, List.length_append]
        rfl
      have hr : sockets.consumed = s.sockets.consumed := hnext.consumed.trans h.consumed.symm
      change AcceptsShow sockets.written.length sockets.consumed accepts
      rw [hw, hr]
      exact hshow

/-- The code that ends a call comes before any byte, or after a first byte '*'. -/
def NoLateError (left : ℕ) (first : Option UInt8) : List RecvResult → Prop
  | [] => True
  | .error _ :: _ => ∀ b ∈ first, b = 42
  | .data b more :: recvs =>
    more.length + 1 < left → NoLateError (left - (more.length + 1)) (first.or (some b)) recvs

instance decidableNoLateError (left : ℕ) (first : Option UInt8) :
    (recvs : List RecvResult) → Decidable (NoLateError left first recvs)
  | [] => .isTrue trivial
  | .error _ :: _ => inferInstanceAs (Decidable (∀ b ∈ first, b = 42))
  | .data b more :: recvs =>
    have := decidableNoLateError (left - (more.length + 1)) (first.or (some b)) recvs
    inferInstanceAs (Decidable (_ → _))

/-- What the loop has received is at the start of the buffer. -/
structure ReadLoop.Filled (len : UInt32) (l : ReadLoop) : Prop where
  count : l.received.length = l.i.toNat
  bound : l.i.toNat ≤ len.toNat
  room : len.toNat ≤ l.buf.length
  bytes : l.buf.take l.i.toNat = l.received

lemma take_splice {buf bytes : List UInt8} {i : ℕ} (h : i + bytes.length ≤ buf.length) :
    (splice buf i bytes).take (i + bytes.length) = buf.take i ++ bytes := by
  rw [splice]
  refine List.take_left' ?_
  rw [List.length_append, List.length_take, Nat.min_eq_left (by lia)]

/-- The bytes of a `socket_recv` follow those that have been received. -/
lemma ReadLoop.Filled.data {len : UInt32} {l : ReadLoop} (h : l.Filled len) {bytes : List UInt8}
    (hlen : bytes.length ≤ len.toNat - l.i.toNat) : ReadLoop.Filled len
      { ret := bytes.length
        i := l.i + UInt32.ofNat bytes.length
        buf := splice l.buf l.i.toNat bytes
        received := l.received ++ bytes } := by
  have hcount := h.count
  have hbound := h.bound
  have hroom := h.room
  have hlt := len.toNat_lt
  have hnew : (l.i + UInt32.ofNat bytes.length).toNat = l.i.toNat + bytes.length := by
    rw [toNat_add_of_lt, UInt32.toNat_ofNat_of_lt' (by change _ < 2 ^ 32; lia)]
    rw [UInt32.toNat_ofNat_of_lt' (by change _ < 2 ^ 32; lia)]
    lia
  refine ⟨?_, ?_, ?_, ?_⟩
  · dsimp only
    rw [hnew, List.length_append, hcount]
  · dsimp only
    lia
  · dsimp only
    rw [splice_length (by lia)]
    exact hroom
  · dsimp only
    rw [hnew, take_splice (by lia), h.bytes]

lemma take_set_zero {buf received : List UInt8} {i : ℕ} (h : buf.take i = received) (hi : i ≤ buf.length) :
    (buf.set 0 42).take i = received ↔ ∀ b ∈ received.head?, b = 42 := by
  cases buf with
  | nil =>
    obtain rfl : i = 0 := Nat.le_zero.mp hi
    rw [← h]
    simp
  | cons a buf =>
    cases i with
    | zero =>
      rw [← h]
      simp
    | succ i =>
      rw [← h]
      simp [eq_comm]

/-- What the loop returns is at the start of the buffer if and only if there is no late error. -/
theorem recvLoop_filled_iff {len : UInt32} {recvs : List RecvResult} {l l' : ReadLoop}
    (h : l.Filled len) (hrun : s.recvLoop len recvs l = .ok l') :
    l'.received.length = l'.i.toNat ∧ (l'.buf.take l'.i.toNat = l'.received ↔
      NoLateError (len.toNat - l.i.toNat) l.received.head? recvs) := by
  induction recvs generalizing l with
  | nil => cases hrun
  | cons recv recvs ih =>
    cases recv with
    | error code =>
      rw [recvLoop] at hrun
      split at hrun
      · cases hrun
      · obtain rfl := Except.ok.inj hrun
        exact ⟨h.count, take_set_zero h.bytes (h.bound.trans h.room)⟩
    | data first more =>
      rw [recvLoop] at hrun
      split at hrun
      · cases hrun
      have hleft : (len - l.i).toNat = len.toNat - l.i.toNat := toNat_sub_of_le h.bound
      have hlen : ((first :: more).take (len - l.i).toNat).length =
          min (len.toNat - l.i.toNat) (more.length + 1) := by
        rw [List.length_take, hleft, List.length_cons]
      have hnext := h.data (hlen.trans_le (Nat.min_le_left _ _))
      have hbound := h.bound
      have hi : (l.i + UInt32.ofNat ((first :: more).take (len - l.i).toNat).length).toNat =
          l.i.toNat + min (len.toNat - l.i.toNat) (more.length + 1) := by
        have hcount := hnext.count
        rw [List.length_append, h.count, hlen] at hcount
        rw [hlen]
        exact hcount.symm
      dsimp only at hrun
      split at hrun
      next hlt =>
        rw [UInt32.lt_iff_toNat_lt, hi] at hlt
        obtain ⟨hcount, hiff⟩ := ih hnext hrun
        refine ⟨hcount, hiff.trans ?_⟩
        have hall : more.length + 1 < len.toNat - l.i.toNat := by lia
        have hsize : (first :: more).length ≤ (len - l.i).toNat := by
          rw [hleft]
          exact hall.le
        have hbytes : (first :: more).take (len - l.i).toNat = first :: more :=
          List.take_of_length_le hsize
        have hrest : len.toNat - (l.i.toNat + min (len.toNat - l.i.toNat) (more.length + 1)) =
            len.toNat - l.i.toNat - (more.length + 1) := by lia
        dsimp only
        rw [NoLateError, hi, hrest, hbytes, List.head?_append]
        exact ⟨fun hclean _ => hclean, fun hclean => hclean hall⟩
      next hge =>
        rw [UInt32.lt_iff_toNat_lt, hi] at hge
        obtain rfl := Except.ok.inj hrun
        refine ⟨hnext.count, iff_of_true hnext.bytes fun hmore => ?_⟩
        lia

lemma recvLoop_error {len : UInt32} {recvs : List RecvResult} {l : ReadLoop} {f : NetFault}
    (hlive : s.currentSock ∈ s.live) (hrun : s.recvLoop len recvs l = .error f) : f = .waiting := by
  have haccess : s.access s.currentSock = .ok () := if_pos (.inr hlive)
  induction recvs generalizing l with
  | nil => exact (Except.error.inj hrun).symm
  | cons recv recvs ih =>
    cases recv with
    | error code =>
      simp only [recvLoop, haccess] at hrun
      cases hrun
    | data first more =>
      simp only [recvLoop, haccess] at hrun
      split at hrun
      · exact ih hrun
      · cases hrun

/-- What is read is what has been received, and a socket that is not connected is removed. -/
structure ReadRight (s : IioNetwork) (c : ReadCall) : Prop where
  data : ∀ r s', s.networkRead c = .ok (r, s') → 0 < r.ret →
    r.received.length = r.ret.toNat ∧ r.buf.take r.ret.toNat = r.received
  removed : ∀ r s', s.networkRead c = .ok (r, s') → r.code = -ENOTCONN →
    r.sock ∉ s'.live ∧ s'.currentSock = DISCONNECTED

/-- No call uses, pushes or removes a socket that is not there. -/
structure Right (s : IioNetwork) (e : NetEvent) : Prop where
  fault : ∀ f, s.event e = .error f → f = .waiting
  read : ∀ c, e = .read c → s.ReadRight c

/-- No error follows the first of several pieces, no overrun of the queue is missed, and nothing
is written to a socket that has been removed. -/
def Allowed (s : IioNetwork) : NetEvent → Prop
  | .step => True
  | .read c => s.currentSock = DISCONNECTED ∨
      (s.currentSock = 0 → AcceptsShow s.sockets.written.length s.sockets.consumed c.accepts) ∧
        NoLateError c.len.toNat none c.recvs
  | .write => s.currentSock ≠ DISCONNECTED

instance (s : IioNetwork) : (e : NetEvent) → Decidable (s.Allowed e)
  | .step => .isTrue trivial
  | .read _ => inferInstanceAs (Decidable (_ ∨ _))
  | .write => inferInstanceAs (Decidable (_ ≠ _))

def Valid (s : IioNetwork) : Prop := ∃ socks c, s.Sockets socks c

lemma Sockets.iioStep (h : s.Sockets socks c) : ∃ s', s.iioStep = .ok (SUCCESS, s') ∧ s'.Valid := by
  rw [IioNetwork.iioStep]
  split
  next hcur =>
    have hlive : s.currentSock ∈ s.live := by
      rcases h.current with h0 | h1 | hlive
      · exact absurd h0 hcur.1
      · exact absurd h1 hcur.2
      · exact hlive
    obtain ⟨sockets, hrun, hnext⟩ := h.push hlive
    have hsub := @queue_push socks c s.currentSock h.count_le
    rw [hrun]
    refine ⟨_, rfl, socks ++ [s.currentSock], c, ⟨hnext.tracked, hnext.written, hnext.consumed⟩,
      hsub.nodup ?_, ?_, .inl rfl, h.valid⟩
    · rw [List.nodup_append]
      refine ⟨h.nodup, List.nodup_singleton _, ?_⟩
      intro x hx y hy hxy
      rw [List.mem_singleton.mp hy] at hxy
      exact (h.queued x hx).2 hxy
    · intro x hx
      rcases List.mem_append.mp (hsub.subset hx) with hx | hx
      · exact ⟨(h.queued x hx).1, (h.valid x (h.queued x hx).1).1⟩
      · rw [List.mem_singleton.mp hx]
        exact ⟨hlive, hcur.1⟩
  · refine ⟨_, rfl, socks, c, ⟨h.tracked, h.written, h.consumed⟩, h.nodup, ?_, .inl rfl, h.valid⟩
    intro x hx
    exact ⟨(h.queued x hx).1, (h.valid x (h.queued x hx).1).1⟩

lemma Sockets.chooseSocket {accepts : List AcceptResult} (h : s.Sockets socks c)
    (hcur : s.currentSock ≠ DISCONNECTED)
    (hshow : s.currentSock = 0 → AcceptsShow s.sockets.written.length s.sockets.consumed accepts) :
    Chosen (s.chooseSocket accepts) := by
  rw [IioNetwork.chooseSocket]
  split
  next h0 => exact h.getNextSocket h0 (hshow h0)
  next h0 =>
    refine ⟨⟨socks, c, h⟩, fun _ => ?_⟩
    rcases h.current with h0' | h1 | hlive
    · exact absurd h0' h0
    · exact absurd h1 hcur
    · exact hlive

/-- A socket that is not connected is removed from no place but the step. -/
lemma Sockets.remove (h : s.Sockets socks c) :
    Sockets { s with live := s.live.erase s.currentSock, currentSock := DISCONNECTED } socks c := by
  refine ⟨⟨h.tracked, h.written, h.consumed⟩, h.nodup, ?_, .inr (.inl rfl), ?_⟩
  · intro x hx
    obtain ⟨hlive, hne⟩ := h.queued x hx
    exact ⟨Finset.mem_erase.mpr ⟨hne, hlive⟩, (h.valid x hlive).2⟩
  · exact fun x hx => h.valid x (Finset.mem_of_mem_erase hx)

/-- What `network_read` leaves. -/
def ReadSpec (r : Except NetFault (ReadResult × IioNetwork)) : Prop :=
  match r with
  | .error f => f = .waiting
  | .ok (r, s') => s'.Valid ∧
      (0 < r.ret → r.received.length = r.ret.toNat ∧ r.buf.take r.ret.toNat = r.received) ∧
      (r.code = -ENOTCONN → r.sock ∉ s'.live ∧ s'.currentSock = DISCONNECTED)

lemma readSpec_refused {ret : ℤ} {buf : List UInt8} (h : s.Valid) (hret : ret < 0) :
    ReadSpec (.ok ({ ret := ret, buf := buf }, s)) :=
  ⟨h, fun hpos => absurd hret (Int.not_lt.mpr hpos.le), nofun⟩

lemma ret_pos {i : UInt32} (h : 0 < i.toInt32.toInt) : i.toInt32.toInt = i.toNat := by
  refine toInt32_toInt ?_
  by_contra hbig
  have hneg := Int32.lt_iff_toInt_lt.mp (toInt32_neg.mpr (Nat.le_of_not_lt hbig))
  exact absurd h (Int.not_lt.mpr hneg.le)

lemma Sockets.networkRead {call : ReadCall} (h : s.Sockets socks c) (hok : s.Allowed (.read call)) :
    ReadSpec (s.networkRead call) := by
  rw [IioNetwork.networkRead]
  split
  · exact readSpec_refused ⟨socks, c, h⟩ (by decide)
  next hcur =>
  rcases hok with hno | ⟨hshow, hclean⟩
  · exact absurd hno hcur
  have hchosen := h.chooseSocket hcur hshow
  split
  next f hrun =>
    rw [hrun] at hchosen
    exact hchosen
  next ret s₁ hrun =>
  rw [hrun] at hchosen
  obtain ⟨⟨socks₁, c₁, h₁⟩, hlive⟩ := hchosen
  split
  next hret => exact readSpec_refused ⟨socks₁, c₁, h₁⟩ (of_decide_eq_true hret)
  next hret =>
  have hlive₁ := hlive (Bool.not_eq_true _ ▸ hret)
  split
  next f hloop => exact recvLoop_error hlive₁ hloop
  next l hloop =>
  have hfilled : ReadLoop.Filled call.len { buf := call.buf } :=
    ⟨rfl, Nat.zero_le _, call.room, rfl⟩
  obtain ⟨hcount, hiff⟩ := recvLoop_filled_iff hfilled hloop
  have hdata : 0 < l.i.toInt32.toInt → l.received.length = l.i.toInt32.toInt.toNat ∧
      l.buf.take l.i.toInt32.toInt.toNat = l.received := by
    intro hpos
    rw [ret_pos hpos, Int.toNat_natCast]
    exact ⟨hcount, hiff.mpr hclean⟩
  dsimp only
  split
  next hnotconn =>
    have haccess : s₁.access s₁.currentSock = .ok () := if_pos (.inr hlive₁)
    rw [haccess]
    exact ⟨⟨socks₁, c₁, h₁.remove⟩, hdata, fun _ => ⟨Finset.notMem_erase _ _, rfl⟩⟩
  next hcode => exact ⟨⟨socks₁, c₁, h₁⟩, hdata, fun hc => absurd hc hcode⟩

lemma Valid.right {e : NetEvent} (h : s.Valid) (hok : s.Allowed e) : s.Right e := by
  obtain ⟨socks, c, h⟩ := h
  cases e with
  | step =>
    obtain ⟨s', hrun, -⟩ := h.iioStep
    refine ⟨fun f hf => ?_, nofun⟩
    rw [IioNetwork.event, hrun] at hf
    cases hf
  | write =>
    have haccess : s.access s.currentSock = .ok () := by
      rcases h.current with h0 | h1 | hlive
      · exact if_pos (.inl h0)
      · exact absurd h1 hok
      · exact if_pos (.inr hlive)
    refine ⟨fun f hf => ?_, nofun⟩
    rw [IioNetwork.event, haccess] at hf
    cases hf
  | read call =>
    have hspec := h.networkRead hok
    constructor
    · intro f hf
      rw [IioNetwork.event] at hf
      cases hrun : s.networkRead call with
      | error g =>
        rw [hrun] at hf hspec
        exact (Except.error.inj hf).symm.trans hspec
      | ok r =>
        rw [hrun] at hf
        cases hf
    · intro call' heq
      obtain rfl := NetEvent.read.inj heq
      constructor
      · intro r s' hrun
        rw [hrun] at hspec
        exact hspec.2.1
      · intro r s' hrun
        rw [hrun] at hspec
        exact hspec.2.2

lemma Valid.event {e : NetEvent} (h : s.Valid) (hok : s.Allowed e) :
    Trace.Unless (fun f => f = .waiting) Valid (s.event e) := by
  obtain ⟨socks, c, h⟩ := h
  cases e with
  | step =>
    obtain ⟨s', hrun, hnext⟩ := h.iioStep
    rw [IioNetwork.event, hrun]
    exact hnext
  | write =>
    have hright := Valid.right ⟨socks, c, h⟩ hok
    cases hrun : s.access s.currentSock with
    | error f =>
      have hf : s.event .write = .error f := by rw [IioNetwork.event, hrun]; rfl
      rw [hf]
      exact hright.fault f hf
    | ok u =>
      rw [IioNetwork.event, hrun]
      exact ⟨socks, c, h⟩
  | read call =>
    have hspec := h.networkRead hok
    rw [IioNetwork.event]
    cases hrun : s.networkRead call with
    | error f =>
      rw [hrun] at hspec
      exact hspec
    | ok r =>
      rw [hrun] at hspec
      exact hspec.1

lemma valid_init {desc : CircularBuffer} {mem : CbAlloc}
    (hinit : cbInit 16 mem = (SUCCESS, some desc)) : Valid { sockets := { desc := desc } } := by
  obtain ⟨-, rfl⟩ := cbInit_success hinit
  have htracked := @CbStream.Tracked.init 16
  exact ⟨[], 0, ⟨htracked, rfl, rfl⟩, List.nodup_nil, nofun, .inl rfl, nofun⟩

end IioNetwork

/-- In every run whose events are allowed every event is right. -/
theorem network_read_right {desc : CircularBuffer} {mem : CbAlloc}
    (hinit : cbInit 16 mem = (SUCCESS, some desc)) (events : List NetEvent)
    (hok : Trace.Guarded (Trace.orFault IioNetwork.event) (Trace.untilFault IioNetwork.Allowed)
      (.ok { sockets := { desc := desc } }) events) :
    Trace.Guarded (Trace.orFault IioNetwork.event) (Trace.untilFault IioNetwork.Right)
      (.ok { sockets := { desc := desc } }) events := by
  have hvalid := hok.unless (F := fun f => f = .waiting) (IioNetwork.valid_init hinit)
    fun s e hs he => hs.event he
  intro pre e hpre
  have hbefore := hvalid pre ((List.prefix_append pre [e]).trans hpre)
  have hallowed := hok pre e hpre
  cases hrun : Trace.run (Trace.orFault IioNetwork.event) (.ok { sockets := { desc := desc } }) pre with
  | error f => trivial
  | ok s =>
    rw [hrun] at hbefore hallowed
    exact hbefore.right hallowed

/-- A queue of four sockets. -/
def emptyQueue : CircularBuffer := { size := 16, buff := List.replicate 16 0 }

lemma eagain_neg : -EAGAIN < 0 := by decide

/-- A client sends four bytes in two pieces and closes. -/
def clientRun : List NetEvent :=
  [.step,
    .read { buf := [0, 0, 0, 0], len := 4, room := by decide
            accepts := [.client 100, .error ⟨-EAGAIN, eagain_neg⟩]
            recvs := [.data 1 [2], .data 3 [4]] },
    .write, .step,
    .read { buf := [0, 0, 0, 0], len := 4, room := by decide
            accepts := [.error ⟨-EAGAIN, eagain_neg⟩], recvs := [.error ⟨-ENOTCONN, by decide⟩] },
    .step]

/-- The socket comes back from the queue and is removed once. -/
theorem network_read_right_client : Trace.Guarded (Trace.orFault IioNetwork.event)
    (Trace.untilFault IioNetwork.Right) (.ok { sockets := { desc := emptyQueue } }) clientRun :=
  network_read_right (by decide : cbInit 16 {} = (SUCCESS, some emptyQueue)) clientRun
    (by decide +kernel)

/-- Three bytes arrive, and then nothing. -/
def partialRead : IioNetwork.ReadCall where
  buf := [0, 0, 0, 0]
  len := 4
  room := by decide
  accepts := [.client 100, .error ⟨-EAGAIN, eagain_neg⟩]
  recvs := [.data 1 [2, 3], .error ⟨-EAGAIN, eagain_neg⟩]

/-- The first of the three bytes that are returned is '*'. -/
theorem network_read_marker :
    ¬IioNetwork.Right { sockets := { desc := emptyQueue } } (.read partialRead) := by
  intro h
  have hresult : ((IioNetwork.networkRead { sockets := { desc := emptyQueue } } partialRead).toOption.map
      fun r => (r.1.ret, r.1.buf, r.1.received)) = some (3, [42, 2, 3, 0], [1, 2, 3]) := by
    decide +kernel
  cases hrun : IioNetwork.networkRead { sockets := { desc := emptyQueue } } partialRead with
  | error f =>
    rw [hrun] at hresult
    cases hresult
  | ok r =>
    rw [hrun] at hresult
    obtain ⟨hret, hresult⟩ := Prod.mk.inj (Option.some.inj hresult)
    obtain ⟨hbuf, hreceived⟩ := Prod.mk.inj hresult
    have hpos : 0 < r.1.ret := hret ▸ by decide
    have hdata := ((h.read partialRead rfl).data r.1 r.2 hrun hpos).2
    rw [hret, hbuf, hreceived] at hdata
    exact absurd hdata (by decide)

end NoOS
