import NoOS.Lib.Trace
import NoOS.Network.AtParserStep
import NoOS.Util.CircularBufferPosition

/-!
# The payload of a frame

The bytes of a payload go to the buffer of the connection in as many reads as it takes, or
one by one to nowhere. Either way the parser then reads responses again, where it stopped.
-/

namespace NoOS
open Word

/-- Nobody else writes to the buffer, and the writer stands at a position of it. -/
structure CircularBuffer.Writable (cb : CircularBuffer) : Prop where
  size : 0 < cb.size.toNat
  position : ∃ pos, cb.write.At cb.size.toNat pos

/-- What the matchers and the result are made of. -/
structure AtDesc.SameReader (desc desc' : AtDesc) : Prop where
  multipleConections : desc'.multipleConections = desc.multipleConections
  result : desc'.result = desc.result
  errors : desc'.errors = desc.errors
  asyncIdx : desc'.asyncIdx = desc.asyncIdx
  ipdIdx : desc'.ipdIdx = desc.ipdIdx
  ipdLen : desc'.ipdLen = desc.ipdLen

lemma AtDesc.SameReader.refl (desc : AtDesc) : desc.SameReader desc := ⟨rfl, rfl, rfl, rfl, rfl, rfl⟩

lemma AtDesc.SameReader.trans {d d' d'' : AtDesc} (h : d.SameReader d') (h' : d'.SameReader d'') :
    d.SameReader d'' :=
  ⟨h'.multipleConections.trans h.multipleConections, h'.result.trans h.result,
    h'.errors.trans h.errors, h'.asyncIdx.trans h.asyncIdx, h'.ipdIdx.trans h.ipdIdx,
    h'.ipdLen.trans h.ipdLen⟩

/-- The buffers that the connections refer to exist, and can be written to. -/
structure BuffersOk (cbs : List CircularBuffer) (conn : Fin MAX_CONNECTIONS → ConnectionDesc) :
    Prop where
  writable : ∀ cb ∈ cbs, cb.Writable
  refs : ∀ i r, (conn i).cbuff = some r → r < cbs.length

/-- The parser waits for a byte of a response, and no payload is written. -/
structure AtSystem.Listening (s : AtSystem) : Prop where
  operation : s.desc.callbackOperation = .readingResponses
  uartDst : s.uartDst = .readCh
  uartLen : s.uartLen = 1
  buffers : BuffersOk s.cbs s.desc.conn
  idle : ∀ cb ∈ s.cbs, cb.write.asyncStarted = false

/-- The parser has `m` more bytes of a payload to read. -/
structure AtSystem.Delivering (s : AtSystem) (id : Fin MAX_CONNECTIONS) (m : ℕ) : Prop where
  operation : s.desc.callbackOperation = .readingPayload
  current : connIndex s.desc.currentConn = .ok id
  pending : s.uartLen.toNat + (s.desc.conn id).toRead.toNat = m
  reading : 0 < s.uartLen.toNat
  buffers : BuffersOk s.cbs s.desc.conn
  /-- Only the buffer of the connection is written. -/
  started : ∀ (j : ℕ) (cb : CircularBuffer), s.cbs[j]? = some cb → cb.write.asyncStarted = true →
    (s.desc.conn id).cbuff = some j

/-- The bytes of a stream, each with the buffer that the application has for a connection
that starts there. -/
def feed (stream : List (UInt8 × Option CbRef)) : List AtEvent :=
  stream.map fun p => .receive p.1 p.2

variable {s s' : AtSystem} {ch : UInt8} {newCb : Option CbRef} {id : Fin MAX_CONNECTIONS} {m : ℕ}
  {cb : CircularBuffer}

lemma cbEndAsyncWrite_started (hst : cb.write.asyncStarted = true) :
    (cbEndAsyncWrite cb).2 = { cb with write := cb.write.finish cb.size } := by
  simp [cbEndAsyncWrite, cbEndAsyncOperation, CircularBuffer.ptr, CircularBuffer.setPtr, hst]

lemma cbEndAsyncWrite_idle (hst : cb.write.asyncStarted = false) : (cbEndAsyncWrite cb).2 = cb := by
  simp [cbEndAsyncWrite, cbEndAsyncOperation, CircularBuffer.ptr, hst]

lemma CircularBuffer.Writable.endAsyncWrite (h : cb.Writable) :
    (cbEndAsyncWrite cb).2.Writable ∧ (cbEndAsyncWrite cb).2.write.asyncStarted = false := by
  cases hst : cb.write.asyncStarted with
  | false =>
    rw [cbEndAsyncWrite_idle hst]
    exact ⟨h, hst⟩
  | true =>
    rw [cbEndAsyncWrite_started hst]
    obtain ⟨pos, hpos⟩ := h.position
    exact ⟨⟨h.size, _, hpos.finish rfl h.size⟩, rfl⟩

lemma CircularBuffer.Writable.prepareAsyncWrite (h : cb.Writable)
    (hidle : cb.write.asyncStarted = false) {size : UInt32} (hsize : 0 < size.toNat) :
    ∃ off len, (cbPrepareAsyncWrite cb size).region = some (off, len) ∧ 0 < len.toNat ∧
      len.toNat ≤ size.toNat ∧ (cbPrepareAsyncWrite cb size).desc.Writable := by
  have hprep : cbPrepareAsyncWrite cb size =
      { ret := SUCCESS
        desc := { cb with write := { cb.write with
          asyncSize := min size (cb.size - cb.write.idx), asyncStarted := true } }
        region := some (cb.write.idx, min size (cb.size - cb.write.idx)) } := by
    simp [cbPrepareAsyncWrite, cbPrepareAsyncOperation, reserve, CircularBuffer.ptr,
      CircularBuffer.setPtr, hidle]
  obtain ⟨pos, hat⟩ := h.position
  have hlen := hat.reserved rfl h.size size
  have hmod := Nat.mod_lt pos h.size
  rw [hprep]
  refine ⟨_, _, rfl, ?_, ?_, ⟨h.size, pos, hat.start rfl h.size size⟩⟩
  · rw [hlen]
    lia
  · rw [hlen]
    lia

lemma BuffersOk.set {cbs : List CircularBuffer} {conn : Fin MAX_CONNECTIONS → ConnectionDesc}
    (h : BuffersOk cbs conn) (r : CbRef) (hcb : cb.Writable) : BuffersOk (cbs.set r cb) conn := by
  constructor
  · intro c hc
    rcases List.mem_or_eq_of_mem_set hc with hc | rfl
    · exact h.writable c hc
    · exact hcb
  · intro i j hj
    rw [List.length_set]
    exact h.refs i j hj

lemma BuffersOk.update {cbs : List CircularBuffer} {conn : Fin MAX_CONNECTIONS → ConnectionDesc}
    (h : BuffersOk cbs conn) (id : Fin MAX_CONNECTIONS) {c : ConnectionDesc}
    (hc : ∀ r, c.cbuff = some r → r < cbs.length) : BuffersOk cbs (Function.update conn id c) := by
  refine ⟨h.writable, fun i r hr => ?_⟩
  by_cases hi : i = id
  · subst hi
    rw [Function.update_self] at hr
    exact hc r hr
  · rw [Function.update_of_ne hi] at hr
    exact h.refs i r hr

lemma notifyConnection_toRead (conn : ConnectionDesc) (isNew : Bool) (newCb : Option CbRef) :
    (notifyConnection conn isNew newCb).toRead = conn.toRead := by
  unfold notifyConnection
  split
  · rfl
  · rfl

lemma notifyConnection_cbuff {conn : ConnectionDesc} (isNew : Bool) {n : ℕ}
    (hconn : ∀ r, conn.cbuff = some r → r < n) (hnew : ∀ r, newCb = some r → r < n) :
    ∀ r, (notifyConnection conn isNew newCb).cbuff = some r → r < n := by
  unfold notifyConnection
  split
  · exact hnew
  · exact hconn

/-- A read for a connection takes as much as its buffer has in one piece, or one byte. -/
lemma startConnRead_delivering {isNew : Bool} (hbuf : BuffersOk s.cbs s.desc.conn)
    (hidle : ∀ cb ∈ s.cbs, cb.write.asyncStarted = false)
    (hop : s.desc.callbackOperation = .readingPayload)
    (hcur : connIndex s.desc.currentConn = .ok id) (hread : 0 < (s.desc.conn id).toRead.toNat)
    (hnew : ∀ r, newCb = some r → r < s.cbs.length) :
    ∃ s', startConnRead s isNew newCb = .ok s' ∧ s.desc.SameReader s'.desc ∧
      s'.cbs.length = s.cbs.length ∧ s'.Delivering id (s.desc.conn id).toRead.toNat := by
  have hrefs := notifyConnection_cbuff isNew (hbuf.refs id) hnew
  have htoRead := notifyConnection_toRead (s.desc.conn id) isNew newCb
  unfold startConnRead
  rw [hcur]
  simp only
  generalize hconn : notifyConnection (s.desc.conn id) isNew newCb = conn at hrefs htoRead
  rw [← htoRead] at hread ⊢
  cases hcb : conn.cbuff with
  | none =>
    refine ⟨_, rfl, ⟨rfl, rfl, rfl, rfl, rfl, rfl⟩, rfl, hop, hcur, ?_, Nat.one_pos, ?_, ?_⟩
    · simp only [dummyRead, uartReadNonblocking, AtDesc.setConn, Function.update_self]
      have hone : (1 : UInt32).toNat ≤ conn.toRead.toNat := hread
      rw [toNat_sub_of_le hone, UInt32.toNat_one]
      lia
    · exact hbuf.update id hrefs
    · intro j cb hj hst
      exact absurd (hidle cb (List.mem_of_getElem? hj)) (by simp [hst])
  | some r =>
    have hr := hrefs r hcb
    obtain ⟨cb, hget⟩ : ∃ cb, s.cbs[r]? = some cb := ⟨_, List.getElem?_eq_getElem hr⟩
    have hmem := List.mem_of_getElem? hget
    obtain ⟨off, len, hregion, hpos, hle, hcb'⟩ :=
      (hbuf.writable cb hmem).prepareAsyncWrite (hidle cb hmem) hread
    simp only [hget, isErrValueU32_eq, Bool.false_eq_true, if_false, hregion]
    refine ⟨_, rfl, ⟨rfl, rfl, rfl, rfl, rfl, rfl⟩, List.length_set, hop, hcur, ?_, hpos, ?_, ?_⟩
    · simp only [uartReadNonblocking, AtDesc.setConn, Function.update_self]
      rw [toNat_sub_of_le hle]
      lia
    · exact (hbuf.update id fun j hj => hrefs j (hcb.trans hj)).set r hcb'
    · intro j cb' hj hst
      simp only [AtDesc.setConn, Function.update_self]
      by_cases hjr : j = r
      · rw [hjr]
      · simp only at hj
        rw [List.getElem?_set_ne (Ne.symm hjr)] at hj
        exact absurd (hidle cb' (List.mem_of_getElem? hj)) (by simp [hst])

lemma endConnRead_idle (hbuf : BuffersOk s.cbs s.desc.conn)
    (hcur : connIndex s.desc.currentConn = .ok id)
    (hstarted : ∀ (j : ℕ) (cb : CircularBuffer), s.cbs[j]? = some cb → cb.write.asyncStarted = true →
      (s.desc.conn id).cbuff = some j) :
    ∃ cbs, endConnRead s = .ok { s with cbs := cbs } ∧ cbs.length = s.cbs.length ∧
      BuffersOk cbs s.desc.conn ∧ ∀ cb ∈ cbs, cb.write.asyncStarted = false := by
  unfold endConnRead
  rw [hcur]
  simp only
  cases hcb : (s.desc.conn id).cbuff with
  | none =>
    refine ⟨s.cbs, rfl, rfl, hbuf, fun cb hmem => ?_⟩
    obtain ⟨j, hj⟩ := List.mem_iff_getElem?.mp hmem
    by_contra hst
    exact absurd (hstarted j cb hj (by simpa using hst)) (by simp [hcb])
  | some r =>
    have hr := hbuf.refs id r hcb
    obtain ⟨cb, hget⟩ : ∃ cb, s.cbs[r]? = some cb := ⟨_, List.getElem?_eq_getElem hr⟩
    obtain ⟨hcb', hst'⟩ := (hbuf.writable cb (List.mem_of_getElem? hget)).endAsyncWrite
    simp only [hget]
    refine ⟨_, rfl, List.length_set, hbuf.set r hcb', fun c hmem => ?_⟩
    obtain ⟨j, hj⟩ := List.mem_iff_getElem?.mp hmem
    by_cases hjr : j = r
    · subst hjr
      rw [List.getElem?_set_self hr, Option.some.injEq] at hj
      exact hj ▸ hst'
    · rw [List.getElem?_set_ne (Ne.symm hjr)] at hj
      by_contra hst
      have := hstarted j c hj (by simpa using hst)
      rw [hcb, Option.some.injEq] at this
      exact hjr this.symm

lemma uartStore_get {j : ℕ} {cb' : CircularBuffer} (h : (uartStore s ch).cbs[j]? = some cb') :
    ∃ cb, s.cbs[j]? = some cb ∧ cb'.size = cb.size ∧ cb'.write = cb.write := by
  unfold uartStore at h
  split at h
  · exact ⟨cb', h, rfl, rfl⟩
  · simp only [List.getElem?_modify, Option.map_eq_map, Option.map_eq_some_iff] at h
    obtain ⟨cb, hcb, rfl⟩ := h
    refine ⟨cb, hcb, ?_⟩
    split
    · exact ⟨rfl, rfl⟩
    · exact ⟨rfl, rfl⟩

lemma uartStore_cbs_length (s : AtSystem) (ch : UInt8) : (uartStore s ch).cbs.length = s.cbs.length := by
  unfold uartStore
  split
  · rfl
  · simp

lemma uartStore_buffers (ch : UInt8) (h : BuffersOk s.cbs s.desc.conn) :
    BuffersOk (uartStore s ch).cbs s.desc.conn := by
  constructor
  · intro cb' hmem
    obtain ⟨j, hj⟩ := List.mem_iff_getElem?.mp hmem
    obtain ⟨cb, hcb, hsize, hwrite⟩ := uartStore_get hj
    have := h.writable cb (List.mem_of_getElem? hcb)
    constructor
    · rw [hsize]
      exact this.size
    · rw [hsize, hwrite]
      exact this.position
  · rw [uartStore_cbs_length]
    exact h.refs

lemma AtSystem.Delivering.step (h : s.Delivering id (m + 1)) (ch : UInt8) (newCb : Option CbRef) :
    ∃ s', uartReceive s ch newCb = .ok s' ∧ s.desc.SameReader s'.desc ∧
      s'.cbs.length = s.cbs.length ∧ (m = 0 → s'.Listening) ∧ (0 < m → s'.Delivering id m) := by
  have hdesc := uartStore_desc s ch
  have hlen := uartStore_len s ch
  have hlength := uartStore_cbs_length s ch
  have hbuf := uartStore_buffers ch h.buffers
  have hpending := h.pending
  have hreading : (1 : UInt32).toNat ≤ s.uartLen.toNat := h.reading
  have hsub := toNat_sub_of_le hreading
  rw [UInt32.toNat_one] at hsub
  have hconn : (uartStore s ch).desc.conn = s.desc.conn := by
    rw [hdesc]
  have hcur : connIndex (uartStore s ch).desc.currentConn = .ok id := by
    rw [hdesc]
    exact h.current
  have hsame : s.desc.SameReader (uartStore s ch).desc := by
    rw [hdesc]
    exact ⟨rfl, rfl, rfl, rfl, rfl, rfl⟩
  have hop : (uartStore s ch).desc.callbackOperation = .readingPayload := by
    rw [hdesc]
    exact h.operation
  have hstarted : ∀ (j : ℕ) (cb : CircularBuffer), (uartStore s ch).cbs[j]? = some cb →
      cb.write.asyncStarted = true → ((uartStore s ch).desc.conn id).cbuff = some j := by
    intro j cb' hj hst
    obtain ⟨cb, hcb, -, hwrite⟩ := uartStore_get hj
    rw [hconn]
    exact h.started j cb hcb (hwrite ▸ hst)
  rw [← hconn] at hbuf
  unfold uartReceive
  split
  · rename_i hzero
    -- the read is complete: all that is pending is what is left to read
    have hzero' := congrArg UInt32.toNat hzero
    rw [hlen, hsub, UInt32.toNat_zero] at hzero'
    obtain ⟨cbs, hend, hcbs, hbuf', hidle⟩ := endConnRead_idle hbuf hcur hstarted
    have htoRead : ((uartStore s ch).desc.conn id).toRead.toNat = m := by
      rw [hconn]
      rw [UInt32.toNat_one] at hreading
      lia
    simp only [atCallback, hop, readingPayload, hend, hcur]
    split
    · rename_i hdone
      rw [hdone, UInt32.toNat_zero] at htoRead
      exact ⟨_, rfl, hsame.trans ⟨rfl, rfl, rfl, rfl, rfl, rfl⟩, hcbs.trans hlength,
        fun _ => ⟨rfl, rfl, rfl, hbuf', hidle⟩, fun hm => absurd htoRead (Nat.ne_of_lt hm)⟩
    · rename_i hmore
      have hm : 0 < m := by
        rw [← htoRead]
        apply Nat.pos_of_ne_zero
        intro hno
        exact hmore (UInt32.toNat_inj.mp hno)
      have hread : 0 < ((uartStore s ch).desc.conn id).toRead.toNat := htoRead.symm ▸ hm
      obtain ⟨s', hs', hsame', hlength', hdel⟩ :=
        @startConnRead_delivering { uartStore s ch with cbs := cbs } none id false hbuf' hidle hop hcur
          hread (by simp)
      rw [htoRead] at hdel
      exact ⟨s', hs', hsame.trans hsame', hlength'.trans (hcbs.trans hlength), by lia,
        fun _ => hdel⟩
  · rename_i hmore
    have hmore' : (uartStore s ch).uartLen.toNat ≠ 0 := fun hno => hmore (UInt32.toNat_inj.mp hno)
    rw [hlen, hsub] at hmore'
    have hdel : (uartStore s ch).Delivering id m := by
      refine ⟨hop, hcur, ?_, ?_, hbuf, hstarted⟩
      · rw [hlen, hsub, hconn]
        lia
      · rw [hlen, hsub]
        lia
    exact ⟨_, rfl, hsame, hlength, by lia, fun _ => hdel⟩

/-- The bytes of a payload, whatever they are, are followed by a response again. -/
theorem AtSystem.Delivering.run {payload : List (UInt8 × Option CbRef)} (hpos : payload ≠ [])
    (h : s.Delivering id payload.length) :
    ∃ s', Trace.run (Trace.orFault AtSystem.step) (.ok s) (feed payload) = .ok s' ∧
      s.desc.SameReader s'.desc ∧ s'.cbs.length = s.cbs.length ∧ s'.Listening := by
  induction payload generalizing s with
  | nil => exact absurd rfl hpos
  | cons p payload ih =>
    obtain ⟨s', hs', hsame, hlength, hlast, hmore⟩ := h.step p.1 p.2
    have hrun : Trace.run (Trace.orFault AtSystem.step) (.ok s) (feed (p :: payload)) =
        Trace.run (Trace.orFault AtSystem.step) (.ok s') (feed payload) := by
      rw [feed, List.map_cons, Trace.run_cons, Trace.orFault_ok, AtSystem.step, hs']
      rfl
    rw [hrun]
    cases payload with
    | nil => exact ⟨s', rfl, hsame, hlength, hlast rfl⟩
    | cons q payload =>
      obtain ⟨s'', hs'', hsame', hlength', hlisten⟩ := ih (by simp) (hmore (by simp))
      exact ⟨s'', hs'', hsame.trans hsame', hlength'.trans hlength, hlisten⟩

end NoOS
