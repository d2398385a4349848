import NoOS.Network.AtParserPayload
import NoOS.Util.CircularBufferRun

/-!
# The bytes of a payload

After the ':' of a header the bytes of the payload go to the buffer of the connection, in pieces up to the end of the
buffer. Each piece is a transaction of the circular buffer.
-/

namespace NoOS
open RingWindow Word

/-- A call of the writer that moves data by itself. -/
def CbCall.Writes : CbCall → Prop
  | .prepareAsyncWrite _ | .fill _ _ | .endAsyncWrite => True
  | .write _ _ | .read _ _ | .prepareAsyncRead _ | .endAsyncRead => False

namespace CbHistory

/-- The write pointer stands at the end of what has been committed. -/
structure Written (n : ℕ) (h : CbHistory) : Prop where
  size : h.desc.size.toNat = n
  len : h.desc.buff.length = n
  write : h.desc.write.At n h.committed.length

/-- What the writer gets to by transactions. -/
def Transacts (h h' : CbHistory) : Prop := ∃ calls, (∀ call ∈ calls, CbCall.Writes call) ∧ Trace.run step h calls = h'

variable {n : ℕ} {h h' h'' : CbHistory}

lemma Transacts.refl (h : CbHistory) : h.Transacts h := ⟨[], by simp, rfl⟩

lemma Transacts.call (ht : h.Transacts h') {c : CbCall} (hc : c.Writes) : h.Transacts (h'.step c) := by
  obtain ⟨calls, hall, rfl⟩ := ht
  refine ⟨calls ++ [c], fun call hcall => ?_, Trace.run_concat _ _ _ _⟩
  rcases List.mem_append.mp hcall with hcall | hcall
  · exact hall call hcall
  · rw [List.mem_singleton.mp hcall]
    exact hc

lemma Transacts.fill (h : CbHistory) (k : ℕ) (ch : UInt8) : h.Transacts (h.fill k [ch]) :=
  (refl h).call (c := .fill _ ch) trivial

/-- A transaction of which `stored` is in the buffer. -/
structure Filling (n : ℕ) (h : CbHistory) (stored : List UInt8) : Prop where
  written : h.Written n
  started : h.desc.write.asyncStarted = true
  room : stored.length ≤ h.desc.write.asyncSize.toNat
  bytes : slice h.desc.buff h.desc.write.idx.toNat stored.length = stored

lemma Written.start (hw : h.Written n) (hn : 0 < n) (hidle : h.desc.write.asyncStarted = false) (size : UInt32) :
    Filling n (h.prepareWrite size) [] := by
  rw [prepareWrite_idle hidle]
  exact ⟨⟨hw.size, hw.len, hw.write.start hw.size hn size⟩, rfl, Nat.zero_le _, by simp [slice]⟩

lemma Filling.fits {stored : List UInt8} (hf : h.Filling n stored) (hmore : stored.length < h.desc.write.asyncSize.toNat) :
    h.desc.write.idx.toNat + stored.length + 1 ≤ h.desc.buff.length := by
  have hfits := hf.written.write.fits
  have hidx := hf.written.write.idx
  have hlen := hf.written.len
  lia

lemma Filling.store {stored : List UInt8} (hf : h.Filling n stored)
    (hmore : stored.length < h.desc.write.asyncSize.toNat) (b : UInt8) :
    h.fill stored.length [b] = { h with desc := h.desc.store (h.desc.write.idx.toNat + stored.length) [b] } ∧
      Filling n (h.fill stored.length [b]) (stored ++ [b]) := by
  have hfill : h.fill stored.length [b] =
      { h with desc := h.desc.store (h.desc.write.idx.toNat + stored.length) [b] } := if_pos hmore
  have hfits := hf.fits hmore
  rw [hfill]
  refine ⟨rfl, ⟨hf.written.size, ?_, hf.written.write⟩, hf.started, ?_, ?_⟩
  · change (splice h.desc.buff _ [b]).length = n
    rw [splice_length (by simpa using hfits)]
    exact hf.written.len
  · rw [List.length_append]
    exact hmore
  · change slice (splice h.desc.buff (h.desc.write.idx.toNat + stored.length) [b]) h.desc.write.idx.toNat _ = _
    apply List.ext_getElem?
    intro i
    have hbytes := congrArg (fun l => l[i]?) hf.bytes
    simp only [slice_getElem?] at hbytes
    rw [slice_getElem?, splice_getElem? (by simpa using hfits), List.length_append, List.length_singleton]
    rcases Nat.lt_trichotomy i stored.length with hlt | rfl | hgt
    · rw [if_pos (by lia), if_neg (by lia), List.getElem?_append_left hlt, ← hbytes, if_pos hlt]
    · rw [if_pos (by omega), if_pos (by simp), List.getElem?_append_right (Nat.le_refl _)]
      simp
    · rw [if_neg (by lia), List.getElem?_eq_none (by simp; lia)]

lemma Filling.finish {stored : List UInt8} (hf : h.Filling n stored) (hn : 0 < n)
    (hfull : h.desc.write.asyncSize.toNat = stored.length) :
    h.endWrite = { h with
      desc := { h.desc with write := h.desc.write.finish h.desc.size }
      committed := h.committed ++ stored } ∧ h.endWrite.Written n := by
  have hend : h.endWrite = { h with
      desc := { h.desc with write := h.desc.write.finish h.desc.size }
      committed := h.committed ++ stored } := by
    rw [endWrite_started hf.started, CircularBuffer.bytes, hfull, hf.bytes]
  rw [hend]
  refine ⟨rfl, hf.written.size, hf.written.len, ?_⟩
  rw [List.length_append, ← hfull]
  exact hf.written.write.finish hf.written.size hn

end CbHistory

variable {s s' : AtSystem} {ch : UInt8} {newCb : Option CbRef} {id : Fin MAX_CONNECTIONS} {n m : ℕ} {r : CbRef}
  {cbs : List CircularBuffer} {h : CbHistory} {stored : List UInt8}

/-- The parser has `m` more bytes of a payload to read, and `stored` in the transaction of the buffer `r`. -/
structure AtSystem.Fills (s : AtSystem) (cbs : List CircularBuffer) (id : Fin MAX_CONNECTIONS) (r : CbRef)
    (h : CbHistory) (stored : List UInt8) (n m : ℕ) : Prop where
  operation : s.desc.callbackOperation = .readingPayload
  current : connIndex s.desc.currentConn = .ok id
  cbuff : (s.desc.conn id).cbuff = some r
  exists_buffer : r < cbs.length
  cbs : s.cbs = cbs.set r h.desc
  filling : h.Filling n stored
  dst : s.uartDst = .circular r (h.desc.write.idx + UInt32.ofNat stored.length)
  pending : stored.length + s.uartLen.toNat = h.desc.write.asyncSize.toNat
  reading : 0 < s.uartLen.toNat
  left : s.uartLen.toNat + (s.desc.conn id).toRead.toNat = m

/-- The parser has `m` more bytes of a payload to read, and nowhere to put them. -/
structure AtSystem.Discards (s : AtSystem) (cbs : List CircularBuffer) (id : Fin MAX_CONNECTIONS) (m : ℕ) : Prop where
  operation : s.desc.callbackOperation = .readingPayload
  current : connIndex s.desc.currentConn = .ok id
  cbuff : (s.desc.conn id).cbuff = none
  cbs : s.cbs = cbs
  dst : s.uartDst = .readCh
  reading : s.uartLen = 1
  left : 1 + (s.desc.conn id).toRead.toNat = m

/-- The next byte is one of a response. -/
structure AtSystem.Resumes (s : AtSystem) : Prop where
  operation : s.desc.callbackOperation = .readingResponses
  dst : s.uartDst = .readCh
  reading : s.uartLen = 1

lemma interprets_readingPayload (h : s.desc.callbackOperation = .readingPayload) (ch : UInt8) : s.interprets ch = none := by
  apply if_neg
  rw [h]
  rintro ⟨-, hc | hc⟩
  · exact absurd hc nofun
  · exact absurd hc nofun

lemma startConnRead_fills {isNew : Bool} (hop : s.desc.callbackOperation = .readingPayload)
    (hcur : connIndex s.desc.currentConn = .ok id)
    (hcb : (notifyConnection (s.desc.conn id) isNew newCb).cbuff = some r) (hget : s.cbs[r]? = some h.desc)
    (hw : h.Written n) (hn : 0 < n) (hidle : h.desc.write.asyncStarted = false)
    (hread : 0 < (s.desc.conn id).toRead.toNat) :
    ∃ s', startConnRead s isNew newCb = .ok s' ∧
      s'.Fills s.cbs id r (h.prepareWrite (s.desc.conn id).toRead) [] n (s.desc.conn id).toRead.toNat := by
  have htoRead := notifyConnection_toRead (s.desc.conn id) isNew newCb
  have hfill := hw.start hn hidle (s.desc.conn id).toRead
  have hlen := hw.write.reserved hw.size hn (s.desc.conn id).toRead
  have hmod := Nat.mod_lt h.committed.length hn
  have hprep : cbPrepareAsyncWrite h.desc (s.desc.conn id).toRead =
      { ret := SUCCESS
        desc := (h.prepareWrite (s.desc.conn id).toRead).desc
        region := some (h.desc.write.idx, min (s.desc.conn id).toRead (h.desc.size - h.desc.write.idx)) } := by
    rw [CbHistory.prepareWrite_idle hidle]
    simp [cbPrepareAsyncWrite, cbPrepareAsyncOperation, reserve, CircularBuffer.ptr, CircularBuffer.setPtr, hidle]
  have hsize : (h.prepareWrite (s.desc.conn id).toRead).desc.write.asyncSize =
      min (s.desc.conn id).toRead (h.desc.size - h.desc.write.idx) := by
    rw [CbHistory.prepareWrite_idle hidle]
  have hidx : (h.prepareWrite (s.desc.conn id).toRead).desc.write.idx = h.desc.write.idx := by
    rw [CbHistory.prepareWrite_idle hidle]
  unfold startConnRead
  rw [hcur]
  dsimp only
  generalize hconn : notifyConnection (s.desc.conn id) isNew newCb = conn at hcb htoRead
  rw [hcb]
  dsimp only
  rw [hget]
  dsimp only
  rw [htoRead, hprep]
  simp only [isErrValueU32_eq, Bool.false_eq_true, if_false]
  refine ⟨_, rfl, hop, hcur, ?_, (List.getElem?_eq_some_iff.mp hget).1, rfl, hfill, ?_, ?_, ?_, ?_⟩
  · simp only [AtDesc.setConn, Function.update_self]
  · rw [hidx]
    simp [uartReadNonblocking]
  · rw [hsize]
    simp [uartReadNonblocking]
  · simp only [uartReadNonblocking]
    rw [hlen]
    lia
  · simp only [uartReadNonblocking, AtDesc.setConn, Function.update_self]
    rw [toNat_sub_of_le (by rw [hlen]; lia), hlen]
    lia

lemma startConnRead_discards {isNew : Bool} (hop : s.desc.callbackOperation = .readingPayload)
    (hcur : connIndex s.desc.currentConn = .ok id)
    (hcb : (notifyConnection (s.desc.conn id) isNew newCb).cbuff = none)
    (hread : 0 < (s.desc.conn id).toRead.toNat) :
    ∃ s', startConnRead s isNew newCb = .ok s' ∧ s'.Discards s.cbs id (s.desc.conn id).toRead.toNat := by
  have htoRead := notifyConnection_toRead (s.desc.conn id) isNew newCb
  have hone : (1 : UInt32).toNat ≤ (s.desc.conn id).toRead.toNat := hread
  unfold startConnRead
  rw [hcur]
  dsimp only
  generalize hconn : notifyConnection (s.desc.conn id) isNew newCb = conn at hcb htoRead
  rw [hcb]
  refine ⟨_, rfl, hop, hcur, ?_, rfl, rfl, rfl, ?_⟩
  · simp only [dummyRead, uartReadNonblocking, AtDesc.setConn, Function.update_self]
    exact hcb
  · simp only [dummyRead, uartReadNonblocking, AtDesc.setConn, Function.update_self]
    rw [htoRead, toNat_sub_of_le hone, UInt32.toNat_one]
    lia

lemma atCallback_readingPayload (h : s.desc.callbackOperation = .readingPayload) :
    atCallback s .readDone newCb = readingPayload s := by
  unfold atCallback
  dsimp only
  rw [h]

/-- The state behind the store of a byte of a payload. -/
def AtSystem.filled (s : AtSystem) (cbs : List CircularBuffer) (r : CbRef) (h : CbHistory) (k : ℕ) (ch : UInt8) : AtSystem :=
  { s with
    uartLen := s.uartLen - 1
    uartDst := .circular r (h.desc.write.idx + UInt32.ofNat k + 1)
    cbs := cbs.set r (h.fill k [ch]).desc }

namespace AtSystem.Fills

lemma more (hs : s.Fills cbs id r h stored n m) : stored.length < h.desc.write.asyncSize.toNat := by
  have hreading := hs.reading
  have hpending := hs.pending
  lia

lemma toNat_left (hs : s.Fills cbs id r h stored n m) : (s.uartLen - 1).toNat = s.uartLen.toNat - 1 :=
  @toNat_sub_of_le _ 1 hs.reading

lemma store (hs : s.Fills cbs id r h stored n m) (ch : UInt8) : uartStore s ch = s.filled cbs r h stored.length ch := by
  have hfits := hs.filling.fits hs.more
  have hlt := h.desc.size.toNat_lt
  have hsize := hs.filling.written.size
  have hlen := hs.filling.written.len
  have hoff : (h.desc.write.idx + UInt32.ofNat stored.length).toNat = h.desc.write.idx.toNat + stored.length := by
    rw [UInt32.toNat_add, UInt32.toNat_ofNat']
    lia
  have hcbs : s.cbs.modify r (fun cb => cb.store (h.desc.write.idx + UInt32.ofNat stored.length).toNat [ch]) =
      cbs.set r (h.fill stored.length [ch]).desc := by
    rw [hs.cbs, (hs.filling.store hs.more ch).1, hoff]
    apply List.ext_getElem?
    intro i
    rw [List.getElem?_modify]
    by_cases hi : r = i
    · subst hi
      rw [List.getElem?_set_self hs.exists_buffer, List.getElem?_set_self hs.exists_buffer]
      simp
    · rw [List.getElem?_set_ne hi, List.getElem?_set_ne hi]
      simp [hi]
  unfold uartStore
  rw [hs.dst]
  dsimp only
  rw [hcbs]
  rfl

/-- The transaction goes on. -/
lemma goesOn (hs : s.Fills cbs id r h stored n (m + 1)) (ch : UInt8) (hmore : s.uartLen - 1 ≠ 0) :
    (s.filled cbs r h stored.length ch).Fills cbs id r (h.fill stored.length [ch]) (stored ++ [ch]) n m := by
  obtain ⟨hfill, hfilling⟩ := hs.filling.store hs.more ch
  have hleft := hs.left
  have hpending := hs.pending
  have hreading := hs.reading
  have hsub := hs.toNat_left
  have hsome : s.uartLen.toNat - 1 ≠ 0 := fun hno => hmore (UInt32.toNat_inj.mp (hsub.trans hno))
  refine ⟨hs.operation, hs.current, hs.cbuff, hs.exists_buffer, rfl, hfilling, ?_, ?_, ?_, ?_⟩
  · rw [hfill]
    unfold filled
    dsimp only
    rw [List.length_append, List.length_singleton, UInt32.ofNat_add, UInt32.add_assoc]
    rfl
  · rw [hfill, List.length_append, List.length_singleton]
    change _ + (s.uartLen - 1).toNat = h.desc.write.asyncSize.toNat
    lia
  · change 0 < (s.uartLen - 1).toNat
    lia
  · change (s.uartLen - 1).toNat + (s.desc.conn id).toRead.toNat = m
    lia

/-- The transaction is full, and its end commits it. -/
lemma ends (hs : s.Fills cbs id r h stored n m) (hn : 0 < n) (ch : UInt8) (hlast : s.uartLen - 1 = 0) :
    (h.fill stored.length [ch]).endWrite.Written n ∧
      (h.fill stored.length [ch]).endWrite.committed = h.committed ++ stored ++ [ch] ∧
      (h.fill stored.length [ch]).endWrite.handed = h.handed ∧
      (h.fill stored.length [ch]).endWrite.desc.write.asyncStarted = false := by
  obtain ⟨hfill, hfilling⟩ := hs.filling.store hs.more ch
  have hpending := hs.pending
  have hreading := hs.reading
  have hnone : s.uartLen.toNat - 1 = 0 := by
    rw [← hs.toNat_left, hlast]
    rfl
  have hasync : (h.fill stored.length [ch]).desc.write.asyncSize.toNat = (stored ++ [ch]).length := by
    rw [hfill, List.length_append, List.length_singleton]
    change h.desc.write.asyncSize.toNat = _
    lia
  obtain ⟨hend, hwritten⟩ := hfilling.finish hn hasync
  refine ⟨hwritten, ?_, ?_, ?_⟩
  · rw [hend, hfill, List.append_assoc]
  · rw [hend, hfill]
  · rw [hend]
    rfl

lemma endConnRead_filled (hs : s.Fills cbs id r h stored n m) (ch : UInt8) :
    endConnRead (s.filled cbs r h stored.length ch) = .ok { s.filled cbs r h stored.length ch with
      cbs := cbs.set r (h.fill stored.length [ch]).endWrite.desc } := by
  have hget : (cbs.set r (h.fill stored.length [ch]).desc)[r]? = some (h.fill stored.length [ch]).desc :=
    List.getElem?_set_self hs.exists_buffer
  unfold endConnRead filled
  dsimp only
  rw [hs.current]
  dsimp only
  rw [hs.cbuff]
  dsimp only
  rw [hget]
  dsimp only
  rw [List.set_set]
  rfl

/-- Behind a full transaction the payload is complete, or another transaction starts. -/
lemma readingPayload_filled (hs : s.Fills cbs id r h stored n (m + 1)) (hn : 0 < n) (ch : UInt8)
    (hlast : s.uartLen - 1 = 0) :
    ∃ s' h', readingPayload (s.filled cbs r h stored.length ch) = .ok s' ∧ h.Transacts h' ∧ h'.handed = h.handed ∧
      (m = 0 → s'.Resumes ∧ s'.cbs = cbs.set r h'.desc ∧ h'.Written n ∧ h'.desc.write.asyncStarted = false ∧
        h'.committed = h.committed ++ stored ++ [ch]) ∧
      (0 < m → ∃ stored', s'.Fills cbs id r h' stored' n m ∧
        h'.committed ++ stored' = h.committed ++ stored ++ [ch]) := by
  obtain ⟨hwritten, hcommitted, hhanded, hidle⟩ := hs.ends hn ch hlast
  have hcall : h.Transacts (h.fill stored.length [ch]).endWrite :=
    (CbHistory.Transacts.fill h stored.length ch).call (c := .endAsyncWrite) trivial
  have hleft := hs.left
  have hreading := hs.reading
  have hnone : s.uartLen.toNat - 1 = 0 := by
    rw [← hs.toNat_left, hlast]
    rfl
  unfold readingPayload
  rw [hs.endConnRead_filled ch]
  unfold filled
  dsimp only
  rw [hs.current]
  dsimp only
  by_cases hdone : (s.desc.conn id).toRead = 0
  · rw [if_pos hdone]
    rw [hdone, UInt32.toNat_zero] at hleft
    exact ⟨_, _, rfl, hcall, hhanded, fun _ => ⟨⟨rfl, rfl, rfl⟩, rfl, hwritten, hidle, hcommitted⟩, by lia⟩
  · rw [if_neg hdone]
    have hpos : 0 < (s.desc.conn id).toRead.toNat := Nat.pos_of_ne_zero fun hno => hdone (UInt32.toNat_inj.mp hno)
    obtain ⟨s', hs', hfills⟩ := @startConnRead_fills { s.filled cbs r h stored.length ch with
        cbs := cbs.set r (h.fill stored.length [ch]).endWrite.desc } none id n r
      (h.fill stored.length [ch]).endWrite false hs.operation hs.current hs.cbuff
      (List.getElem?_set_self hs.exists_buffer) hwritten hn hidle hpos
    have hrest : (s.desc.conn id).toRead.toNat = m := by lia
    have hfills : s'.Fills (cbs.set r (h.fill stored.length [ch]).endWrite.desc) id r
        ((h.fill stored.length [ch]).endWrite.prepareWrite (s.desc.conn id).toRead) [] n m := hrest ▸ hfills
    refine ⟨s', _, hs', hcall.call (c := .prepareAsyncWrite (s.desc.conn id).toRead) trivial, ?_, by lia,
      fun _ => ⟨[], ?_, ?_⟩⟩
    · change (CbHistory.prepareWrite (h.fill stored.length [ch]).endWrite _).handed = _
      rw [CbHistory.prepareWrite_idle hidle]
      exact hhanded
    · refine ⟨hfills.operation, hfills.current, hfills.cbuff, hs.exists_buffer, ?_, hfills.filling, hfills.dst,
        hfills.pending, hfills.reading, hfills.left⟩
      rw [hfills.cbs, List.set_set]
      rfl
    · change (CbHistory.prepareWrite (h.fill stored.length [ch]).endWrite _).committed ++ [] = _
      rw [CbHistory.prepareWrite_idle hidle, List.append_nil]
      exact hcommitted

lemma step (hs : s.Fills cbs id r h stored n (m + 1)) (hn : 0 < n) (ch : UInt8) (newCb : Option CbRef) :
    ∃ s' h', uartReceive s ch newCb = .ok s' ∧ h.Transacts h' ∧ h'.handed = h.handed ∧
      (m = 0 → s'.Resumes ∧ s'.cbs = cbs.set r h'.desc ∧ h'.Written n ∧ h'.desc.write.asyncStarted = false ∧
        h'.committed = h.committed ++ stored ++ [ch]) ∧
      (0 < m → ∃ stored', s'.Fills cbs id r h' stored' n m ∧
        h'.committed ++ stored' = h.committed ++ stored ++ [ch]) := by
  have huartLen : (s.filled cbs r h stored.length ch).uartLen = s.uartLen - 1 := rfl
  unfold uartReceive
  rw [hs.store, huartLen]
  by_cases hlast : s.uartLen - 1 = 0
  · have hop : (s.filled cbs r h stored.length ch).desc.callbackOperation = .readingPayload := hs.operation
    rw [if_pos hlast, atCallback_readingPayload hop]
    exact hs.readingPayload_filled hn ch hlast
  · rw [if_neg hlast]
    have hleft := hs.left
    have hreading := hs.reading
    have hsome : s.uartLen.toNat - 1 ≠ 0 := fun hno => hlast (UInt32.toNat_inj.mp (hs.toNat_left.trans hno))
    refine ⟨_, _, rfl, .fill h stored.length ch, ?_, by lia, fun _ => ⟨stored ++ [ch], hs.goesOn ch hlast, ?_⟩⟩
    · rw [(hs.filling.store hs.more ch).1]
    · rw [(hs.filling.store hs.more ch).1, List.append_assoc]

end AtSystem.Fills

lemma AtSystem.Discards.step (hs : s.Discards cbs id (m + 1)) (ch : UInt8) (newCb : Option CbRef) :
    ∃ s', uartReceive s ch newCb = .ok s' ∧ (m = 0 → s'.Resumes ∧ s'.cbs = cbs) ∧ (0 < m → s'.Discards cbs id m) := by
  have hleft := hs.left
  have hstore : uartStore s ch = { s with uartLen := 0, desc := { s.desc with readCh := ch } } := by
    unfold uartStore
    rw [hs.dst]
    dsimp only
    rw [hs.reading]
    rfl
  have hend : endConnRead { s with uartLen := 0, desc := { s.desc with readCh := ch } } =
      .ok { s with uartLen := 0, desc := { s.desc with readCh := ch } } := by
    unfold endConnRead
    dsimp only
    rw [hs.current]
    dsimp only
    rw [hs.cbuff]
  unfold uartReceive
  rw [hstore]
  dsimp only
  rw [if_pos rfl, atCallback_readingPayload]
  swap
  · exact hs.operation
  unfold readingPayload
  rw [hend]
  dsimp only
  rw [hs.current]
  dsimp only
  by_cases hdone : (s.desc.conn id).toRead = 0
  · rw [if_pos hdone]
    rw [hdone, UInt32.toNat_zero] at hleft
    exact ⟨_, rfl, fun _ => ⟨⟨rfl, rfl, rfl⟩, hs.cbs⟩, by lia⟩
  · rw [if_neg hdone]
    have hpos : 0 < (s.desc.conn id).toRead.toNat := by
      apply Nat.pos_of_ne_zero
      intro hno
      exact hdone (UInt32.toNat_inj.mp hno)
    obtain ⟨s', hs', hdis⟩ := @startConnRead_discards { s with
        uartLen := 0
        desc := { s.desc with readCh := ch } } none id false hs.operation hs.current hs.cbuff hpos
    have hrest : (s.desc.conn id).toRead.toNat = m := by lia
    rw [hrest] at hdis
    refine ⟨s', hs', by lia, fun _ => ?_⟩
    rw [← hs.cbs]
    exact hdis

/-- None of the bytes is taken for one of a response. -/
def AtSystem.Consumes (s : AtSystem) (payload : List (UInt8 × Option CbRef)) : Prop :=
  Trace.Always (Trace.orFault AtSystem.step) (Trace.Unless (fun _ => False) fun t => ∀ ch, t.interprets ch = none)
    (.ok s) (feed payload.dropLast)

lemma AtSystem.Consumes.single (hop : s.desc.callbackOperation = .readingPayload) (p : UInt8 × Option CbRef) :
    s.Consumes [p] := Trace.always_nil.mpr (interprets_readingPayload hop)

lemma AtSystem.Consumes.cons (hop : s.desc.callbackOperation = .readingPayload) {p q : UInt8 × Option CbRef}
    {payload : List (UInt8 × Option CbRef)} (hs : uartReceive s p.1 p.2 = .ok s') (hc : s'.Consumes (q :: payload)) :
    s.Consumes (p :: q :: payload) := by
  unfold AtSystem.Consumes
  rw [List.dropLast_cons_of_ne_nil (List.cons_ne_nil q payload), feed, List.map_cons, Trace.always_cons,
    Trace.orFault_ok, AtSystem.step, hs]
  exact ⟨interprets_readingPayload hop, hc⟩

lemma run_feed_cons {p : UInt8 × Option CbRef} (payload : List (UInt8 × Option CbRef))
    (hs : uartReceive s p.1 p.2 = .ok s') : Trace.run (Trace.orFault AtSystem.step) (.ok s) (feed (p :: payload)) =
      Trace.run (Trace.orFault AtSystem.step) (.ok s') (feed payload) := by
  rw [feed, List.map_cons, Trace.run_cons, Trace.orFault_ok, AtSystem.step, hs]
  rfl

lemma AtSystem.Discards.run {payload : List (UInt8 × Option CbRef)} (hne : payload ≠ [])
    (hs : s.Discards cbs id payload.length) : s.Consumes payload ∧ ∃ s',
      Trace.run (Trace.orFault AtSystem.step) (.ok s) (feed payload) = .ok s' ∧ s'.Resumes ∧ s'.cbs = cbs := by
  induction payload generalizing s with
  | nil => exact absurd rfl hne
  | cons p payload ih =>
    obtain ⟨s', hs', hlast, hmore⟩ := hs.step p.1 p.2
    rw [run_feed_cons payload hs']
    cases payload with
    | nil =>
      obtain ⟨hres, hcbs⟩ := hlast rfl
      exact ⟨.single hs.operation p, s', rfl, hres, hcbs⟩
    | cons q payload =>
      obtain ⟨hc, hrun⟩ := ih (List.cons_ne_nil _ _) (hmore (Nat.succ_pos _))
      exact ⟨.cons hs.operation hs' hc, hrun⟩

lemma CbHistory.Transacts.trans {h h' h'' : CbHistory} (ht : h.Transacts h') (ht' : h'.Transacts h'') :
    h.Transacts h'' := by
  obtain ⟨calls, hall, rfl⟩ := ht
  obtain ⟨calls', hall', rfl⟩ := ht'
  refine ⟨calls ++ calls', fun call hcall => ?_, Trace.run_append _ _ _ _⟩
  rcases List.mem_append.mp hcall with hcall | hcall
  · exact hall call hcall
  · exact hall' call hcall

lemma AtSystem.Fills.run {payload : List (UInt8 × Option CbRef)} (hne : payload ≠ []) (hn : 0 < n)
    (hs : s.Fills cbs id r h stored n payload.length) : s.Consumes payload ∧ ∃ s' h',
      Trace.run (Trace.orFault AtSystem.step) (.ok s) (feed payload) = .ok s' ∧ s'.Resumes ∧ h.Transacts h' ∧
        s'.cbs = cbs.set r h'.desc ∧ h'.Written n ∧ h'.desc.write.asyncStarted = false ∧ h'.handed = h.handed ∧
        h'.committed = h.committed ++ stored ++ payload.map Prod.fst := by
  induction payload generalizing s h stored with
  | nil => exact absurd rfl hne
  | cons p payload ih =>
    obtain ⟨s', h', hs', ht, hhanded, hlast, hmore⟩ := hs.step hn p.1 p.2
    rw [run_feed_cons payload hs']
    cases payload with
    | nil =>
      obtain ⟨hres, hcbs, hw, hidle, hcommitted⟩ := hlast rfl
      exact ⟨.single hs.operation p, s', h', rfl, hres, ht, hcbs, hw, hidle, hhanded, hcommitted⟩
    | cons q payload =>
      obtain ⟨stored', hfills, hbytes⟩ := hmore (Nat.succ_pos _)
      obtain ⟨hc, s'', h'', hrun, hres, ht', hcbs, hw, hidle, hhanded', hcommitted⟩ := ih (List.cons_ne_nil _ _) hfills
      refine ⟨.cons hs.operation hs' hc, s'', h'', hrun, hres, ht.trans ht', hcbs, hw, hidle, hhanded'.trans hhanded, ?_⟩
      rw [hcommitted, hbytes, List.append_assoc _ [p.1]]
      rfl

/-- The next byte is read into the variable for a byte of a response. -/
structure AtSystem.Hears (s : AtSystem) : Prop where
  operation : s.desc.callbackOperation = .readingResponses ∨ s.desc.callbackOperation = .waitingSend
  dst : s.uartDst = .readCh
  reading : s.uartLen = 1

lemma isPayloadMessage_hit {desc d : AtDesc} (hd : isPayloadMessage desc ch = .ok (true, d)) :
    ∃ id, connIndex d.currentConn = .ok id ∧ 0 < (d.conn id).toRead.toNat := by
  have hmiss : ∀ {e : AtDesc}, Except.ok (false, e) = (Except.ok (true, d) : Except AtFault _) → False := by
    intro e he
    exact Bool.false_ne_true (Prod.mk.inj (Except.ok.inj he)).1
  unfold isPayloadMessage at hd
  split at hd
  · split at hd
    · exact absurd hd nofun
    · exact (hmiss hd).elim
    · exact (hmiss hd).elim
  · split at hd
    · split at hd
      · exact (hmiss hd).elim
      · exact (hmiss hd).elim
    · split at hd
      · exact (hmiss hd).elim
      · exact (hmiss hd).elim
    · split at hd
      · split at hd
        · rename_i hend
          split at hd
          · exact absurd hd nofun
          · rename_i id hid
            obtain rfl := (Prod.mk.inj (Except.ok.inj hd)).2
            refine ⟨id, hid, ?_⟩
            simp only [AtDesc.resetIpd, AtDesc.setResultLen, AtDesc.setConn, Function.update_self]
            exact UInt32.lt_iff_toNat_lt.mp hend.2
        · exact (hmiss hd).elim
      · exact (hmiss hd).elim
    · exact (hmiss hd).elim

lemma AtSystem.Hears.receive (hs : s.Hears) (ch : UInt8) (newCb : Option CbRef) : uartReceive s ch newCb =
    readingResponses { s with uartLen := 0, desc := { s.desc with readCh := ch } } newCb := by
  have hstore : uartStore s ch = { s with uartLen := 0, desc := { s.desc with readCh := ch } } := by
    unfold uartStore
    rw [hs.dst]
    dsimp only
    rw [hs.reading]
    rfl
  unfold uartReceive
  rw [hstore]
  dsimp only
  rw [if_pos rfl]
  unfold atCallback
  dsimp only
  rcases hs.operation with hop | hop
  · simp only [hop]
  · simp only [hop]

/-- After the ':' of a frame exactly the bytes of its payload are consumed. They are committed to the buffer of the
connection in their order, or discarded if there is none, and the next byte is one of a response again. -/
theorem payload_delivered (hs : s.Hears) {d : AtDesc}
    (hhit : isPayloadMessage { s.desc with readCh := ch } ch = .ok (true, d)) (hid : connIndex d.currentConn = .ok id)
    {payload : List (UInt8 × Option CbRef)} (hlen : payload.length = (d.conn id).toRead.toNat)
    (hbuf : ∀ r, (notifyConnection (d.conn id) true newCb).cbuff = some r →
      s.cbs[r]? = some h.desc ∧ h.Written n ∧ 0 < n ∧ h.desc.write.asyncStarted = false) :
    ∃ s0 s', uartReceive s ch newCb = .ok s0 ∧ s0.Consumes payload ∧
      Trace.run (Trace.orFault AtSystem.step) (.ok s0) (feed payload) = .ok s' ∧ s'.Resumes ∧
      ((notifyConnection (d.conn id) true newCb).cbuff = none → s'.cbs = s.cbs) ∧
      ∀ r, (notifyConnection (d.conn id) true newCb).cbuff = some r → ∃ h', h.Transacts h' ∧
        s'.cbs = s.cbs.set r h'.desc ∧ h'.Written n ∧ h'.desc.write.asyncStarted = false ∧ h'.handed = h.handed ∧
        h'.committed = h.committed ++ payload.map Prod.fst := by
  obtain ⟨id', hid', hpos⟩ := isPayloadMessage_hit hhit
  rw [hid, Except.ok.injEq] at hid'
  subst hid'
  have hne : payload ≠ [] := by
    rintro rfl
    rw [List.length_nil] at hlen
    omega
  have hread : readingResponses { s with uartLen := 0, desc := { s.desc with readCh := ch } } newCb =
      startConnRead { s with uartLen := 0, desc := { d with callbackOperation := .readingPayload } } true newCb := by
    unfold readingResponses
    rw [hhit]
  rw [hs.receive, hread]
  cases hcb : (notifyConnection (d.conn id) true newCb).cbuff with
  | none =>
    obtain ⟨s0, hs0, hdis⟩ := @startConnRead_discards
      { s with uartLen := 0, desc := { d with callbackOperation := .readingPayload } } newCb id true rfl hid hcb hpos
    change s0.Discards s.cbs id (d.conn id).toRead.toNat at hdis
    rw [← hlen] at hdis
    obtain ⟨hc, s', hrun, hres, hcbs⟩ := hdis.run hne
    exact ⟨s0, s', hs0, hc, hrun, hres, fun _ => hcbs, nofun⟩
  | some r =>
    obtain ⟨hget, hw, hn, hidle⟩ := hbuf r hcb
    obtain ⟨s0, hs0, hfills⟩ := @startConnRead_fills
      { s with uartLen := 0, desc := { d with callbackOperation := .readingPayload } } newCb id n r h true rfl hid hcb
      hget hw hn hidle hpos
    change s0.Fills s.cbs id r (h.prepareWrite (d.conn id).toRead) [] n (d.conn id).toRead.toNat at hfills
    rw [← hlen] at hfills
    obtain ⟨hc, s', h', hrun, hres, ht, hcbs, hw', hidle', hhanded, hcommitted⟩ := hfills.run hne hn
    refine ⟨s0, s', hs0, hc, hrun, hres, nofun, fun r' hr' => ?_⟩
    obtain rfl := Option.some.inj hr'
    have hstart := (CbHistory.Transacts.refl h).call (c := .prepareAsyncWrite (d.conn id).toRead) trivial
    refine ⟨h', hstart.trans ht, hcbs, hw', hidle', hhanded.trans ?_, hcommitted.trans ?_⟩
    · rw [CbHistory.prepareWrite_idle hidle]
    · rw [CbHistory.prepareWrite_idle hidle, List.append_nil]

/-- A header for three bytes on connection 1, whose buffer has two. -/
def frameForTwo : AtSystem :=
  { desc := { multipleConections := true, currentConn := 1, ipdIdx := 10, ipdStat := .readingLen, ipdLen := 3,
              conn := fun _ => { cbuff := some 0, active := true } }
    cbs := [{ size := 2, buff := [0, 0] }] }

theorem payload_delivered_two : ∃ s0 s' h', uartReceive frameForTwo 58 none = .ok s0 ∧
    s0.Consumes ([97, 98, 99].map fun ch => (ch, none)) ∧
    Trace.run (Trace.orFault AtSystem.step) (.ok s0) (feed ([97, 98, 99].map fun ch => (ch, none))) = .ok s' ∧ s'.Resumes ∧
    s'.cbs = frameForTwo.cbs.set 0 (CbHistory.desc h') ∧ h'.committed = [97, 98, 99] := by
  have hw : CbHistory.Written 2 ⟨{ size := 2, buff := [0, 0] }, [], []⟩ := ⟨rfl, rfl, CbPtr.at_zero⟩
  obtain ⟨s0, s', hs0, hc, hrun, hres, -, hsome⟩ := @payload_delivered frameForTwo 58 none ⟨1, by decide⟩ 2
    ⟨{ size := 2, buff := [0, 0] }, [], []⟩ ⟨.inl rfl, rfl, rfl⟩ _ rfl rfl ([97, 98, 99].map fun ch => (ch, none)) rfl
    fun r hr => by
      obtain rfl := Option.some.inj hr
      exact ⟨rfl, hw, by decide, rfl⟩
  obtain ⟨h', -, hcbs, -, -, -, hcommitted⟩ := hsome 0 rfl
  exact ⟨s0, s', h', hs0, hc, hrun, hres, hcbs, hcommitted⟩

end NoOS
