import NoOS.Lib.Trace
import NoOS.Network.AtParserStep

/-!
# The index of the current connection

`current_conn` comes from the id digit of a header, from a closed connection, or is the one
left over in single mode, and is -1 after a payload. The literal '4' and the two ways to use
a leftover -1 are the only ways out of the table.
-/

namespace NoOS

/-- A payload header has been read beyond its connection id, or has none. -/
def AtDesc.InHeader (desc : AtDesc) : Prop :=
  ¬desc.ipdIdx < 7 ∧ (desc.ipdStat = .waitingComma ∨ desc.ipdStat = .readingLen)

instance (desc : AtDesc) : Decidable desc.InHeader := inferInstanceAs (Decidable (_ ∧ _))

structure AtDesc.ConnOk (desc : AtDesc) : Prop where
  low : -1 ≤ desc.currentConn
  high : desc.currentConn < 4
  header : desc.InHeader → 0 ≤ desc.currentConn
  payload : desc.callbackOperation = .readingPayload → 0 ≤ desc.currentConn ∧ ¬desc.InHeader

/-- The byte is not a '4' in the place of a connection id, and does not complete the start of
a header in single mode while there is no current connection. -/
def AtDesc.ConnAccepts (desc : AtDesc) (ch : UInt8) : Prop :=
  ¬(¬desc.ipdIdx < 7 ∧ desc.ipdStat = .raedingConn ∧ ch = 52) ∧
    ¬(desc.ipdIdx = 6 ∧ ch = 44 ∧ desc.multipleConections = false ∧ desc.currentConn = -1)

instance (desc : AtDesc) (ch : UInt8) : Decidable (desc.ConnAccepts ch) :=
  inferInstanceAs (Decidable (_ ∧ _))

/-- A reset ends with a current connection, and not inside a header. -/
def AtSystem.ConnAllowed (s : AtSystem) : AtEvent → Prop
  | .receive ch _ => (s.interprets ch).all fun c => s.desc.ConnAccepts c
  | .resetDone => s.desc.currentConn ≠ -1 ∧ ¬s.desc.InHeader
  | _ => True

instance (s : AtSystem) : (e : AtEvent) → Decidable (s.ConnAllowed e)
  | .receive _ _ => inferInstanceAs (Decidable (_ = true))
  | .resetDone => inferInstanceAs (Decidable (_ ∧ _))
  | .uartError | .setMultiple _ | .resetModule | .waitSend | .clearResult | .clearErrors
  | .startWait | .pollWait | .endWait => .isTrue trivial

variable {desc desc' : AtDesc} {s s' : AtSystem} {ch : UInt8} {newCb : Option CbRef}

lemma AtDesc.ConnOk.resetIpd (h : desc.ConnOk) : desc.resetIpd.ConnOk ∧ ¬desc.resetIpd.InHeader := by
  have hno : ¬desc.resetIpd.InHeader := fun hc => hc.1 (by simp [AtDesc.resetIpd])
  exact ⟨⟨h.low, h.high, fun hc => absurd hc hno, fun hop => ⟨(h.payload hop).1, hno⟩⟩, hno⟩

/-- A byte of a response keeps the current connection in range, and is only taken for the end
of a header if there is a current connection. -/
lemma isPayloadMessage_conn (h : desc.ConnOk) (hop : desc.callbackOperation ≠ .readingPayload)
    (hch : desc.ConnAccepts ch) :
    Trace.Unless (· ≠ .connIndex)
      (fun r => r.2.ConnOk ∧ r.2.callbackOperation = desc.callbackOperation ∧
        (r.1 = true → 0 ≤ r.2.currentConn ∧ ¬r.2.InHeader))
      (isPayloadMessage desc ch) := by
  have hlow := h.low
  have hhigh := h.high
  unfold isPayloadMessage
  split
  · rename_i hidx
    have hidx' : desc.ipdIdx.toNat < 7 := UInt8.lt_iff_toNat_lt.mp hidx
    split
    · rename_i f hm
      rw [(matchMessage_error hm).1]
      simp [Trace.Unless]
    · rename_i idx hm
      obtain ⟨hget, rfl, hlen⟩ := matchMessage_hit hm
      have h6 : desc.ipdIdx = 6 := by
        apply UInt8.toNat_inj.mp
        have h7 : (desc.ipdIdx + 1).toNat = 7 := hlen
        rw [UInt8.toNat_add] at h7
        simp only [UInt8.toNat_one] at h7
        simp
        lia
      have h44 : ch = 44 := by
        rw [h6] at hget
        simpa [atIpd] using hget.symm
      refine ⟨⟨hlow, hhigh, ?_, fun hc => absurd hc hop⟩, rfl, by simp⟩
      rintro ⟨-, hstat⟩
      cases hmul : desc.multipleConections with
      | true => simp [hmul] at hstat
      | false =>
        have hne : desc.currentConn ≠ -1 := fun hc => hch.2 ⟨h6, h44, hmul, hc⟩
        simp only
        lia
    · rename_i idx hm
      have hmiss := (matchMessage_miss hm hidx' (by decide) (by decide)).1
      refine ⟨⟨hlow, hhigh, ?_, fun hc => absurd hc hop⟩, rfl, by simp⟩
      rintro ⟨hge, -⟩
      exact absurd (UInt8.lt_iff_toNat_lt.mpr hmiss) hge
  · rename_i hidx
    have hreset := h.resetIpd.1
    split
    · rename_i hstat
      split
      · exact ⟨hreset, rfl, by simp⟩
      · rename_i hdigit
        have h52 : ch ≠ 52 := fun hc => hch.1 ⟨hidx, hstat, hc⟩
        have h52' : ch.toNat ≠ 52 := fun hc => h52 (UInt8.toNat_inj.mp hc)
        rw [not_or, UInt8.lt_iff_toNat_lt, gt_iff_lt, UInt8.lt_iff_toNat_lt] at hdigit
        simp only [UInt8.reduceToNat] at hdigit
        refine ⟨⟨?_, ?_, fun _ => ?_, fun hc => absurd hc hop⟩, rfl, by simp⟩
        · simp only
          lia
        · simp only
          lia
        · simp only
          lia
    · rename_i hstat
      have hcc := h.header ⟨hidx, .inl hstat⟩
      split
      · exact ⟨hreset, rfl, by simp⟩
      · exact ⟨⟨hlow, hhigh, fun _ => hcc, fun hc => absurd hc hop⟩, rfl, by simp⟩
    · rename_i hstat
      have hcc := h.header ⟨hidx, .inr hstat⟩
      split
      · split
        · obtain ⟨i, hi, -⟩ := connIndex_of_le hcc hhigh
          rw [hi]
          refine ⟨⟨hlow, hhigh, fun _ => hcc, fun hc => absurd hc hop⟩, rfl, fun _ => ⟨hcc, ?_⟩⟩
          exact fun hc => hc.1 (by simp [AtDesc.resetIpd])
        · exact ⟨hreset, rfl, by simp⟩
      · exact ⟨⟨hlow, hhigh, fun _ => hcc, fun hc => absurd hc hop⟩, rfl, by simp⟩
    · exact ⟨hreset, rfl, by simp⟩

lemma AtDesc.ConnOk.sameIpd (h : desc.ConnOk) (hop : desc.callbackOperation ≠ .readingPayload)
    (hs : desc.SameIpd desc') : desc'.ConnOk := by
  have hin : desc'.InHeader → desc.InHeader := by
    unfold InHeader
    rw [hs.ipdIdx, hs.ipdStat]
    exact id
  have hlow := h.low
  have hhigh := h.high
  refine ⟨?_, ?_, ?_, ?_⟩
  · rcases hs.currentConn with hc | hc
    · lia
    · omega
  · rcases hs.currentConn with hc | hc
    · lia
    · omega
  · intro hc
    have hheader := h.header (hin hc)
    rcases hs.currentConn with hc | hc
    · lia
    · omega
  · intro hc
    rw [hs.callbackOperation] at hc
    exact absurd hc hop

lemma AtDesc.ConnOk.setConn (h : desc.ConnOk) (i : Fin MAX_CONNECTIONS) (conn : ConnectionDesc) :
    (desc.setConn i conn).ConnOk :=
  ⟨h.low, h.high, h.header, h.payload⟩

lemma startConnRead_conn {isNew : Bool} (h : s.desc.ConnOk) (h0 : 0 ≤ s.desc.currentConn) :
    Trace.Unless (· ≠ .connIndex) (fun s' => s'.desc.ConnOk) (startConnRead s isNew newCb) := by
  obtain ⟨i, hi, -⟩ := connIndex_of_le h0 h.high
  cases hs : startConnRead s isNew newCb with
  | ok s' =>
    obtain ⟨j, conn, -, hdesc, -⟩ := startConnRead_ok hs
    change s'.desc.ConnOk
    rw [hdesc]
    exact h.setConn j conn
  | error f =>
    rcases startConnRead_error hs with hf | rfl | rfl
    · simp [hi] at hf
    · simp [Trace.Unless]
    · simp [Trace.Unless]

lemma readingResponses_conn (h : s.desc.ConnOk) (hop : s.desc.callbackOperation ≠ .readingPayload)
    (hch : s.desc.ConnAccepts s.desc.readCh) :
    Trace.Unless (· ≠ .connIndex) (fun s' => s'.desc.ConnOk) (readingResponses s newCb) := by
  have hipd := isPayloadMessage_conn h hop hch
  unfold readingResponses
  split
  · rename_i f hf
    rw [hf] at hipd
    exact hipd
  · rename_i desc hd
    rw [hd] at hipd
    obtain ⟨hok, -, hcc⟩ := hipd
    apply startConnRead_conn
    · exact ⟨hok.low, hok.high, hok.header, fun _ => hcc rfl⟩
    · exact (hcc rfl).1
  · rename_i desc hd
    rw [hd] at hipd
    obtain ⟨hok, hopd, -⟩ := hipd
    have hok : desc.ConnOk := hok
    have hop' : desc.callbackOperation ≠ .readingPayload := by
      change desc.callbackOperation = _ at hopd
      rwa [hopd]
    split
    · exact ⟨hok.low, hok.high, hok.header, by simp [readNextChar, uartReadNonblocking]⟩
    · split
      · exact ⟨hok.low, hok.high, hok.header, fun hc => absurd hc hop'⟩
      · split
        · rename_i f hf
          rcases isAsyncMessages_error hf with rfl | rfl
          · simp [Trace.Unless]
          · simp [Trace.Unless]
        · rename_i desc' hd'
          exact hok.sameIpd hop' (isAsyncMessages_sameIpd hd')
        · rename_i desc' hd'
          have hok' := hok.sameIpd hop' (isAsyncMessages_sameIpd hd')
          split
          · rename_i f hf
            rw [AtDesc.append_error hf]
            simp [Trace.Unless]
          · rename_i desc'' hd''
            obtain ⟨-, rfl⟩ := AtDesc.append_ok hd''
            exact ⟨hok'.low, hok'.high, hok'.header, hok'.payload⟩

lemma readingPayload_conn (h : s.desc.ConnOk) (hop : s.desc.callbackOperation = .readingPayload) :
    Trace.Unless (· ≠ .connIndex) (fun s' => s'.desc.ConnOk) (readingPayload s) := by
  obtain ⟨h0, hno⟩ := h.payload hop
  obtain ⟨i, hi, -⟩ := connIndex_of_le h0 h.high
  unfold readingPayload
  split
  · rename_i f hf
    rcases endConnRead_error hf with hc | rfl
    · simp [hi] at hc
    · simp [Trace.Unless]
  · rename_i s' hs
    have hdesc := (endConnRead_ok hs).1
    rw [hdesc, hi]
    simp only
    split
    · exact ⟨Int.le_refl _, (by decide : (-1 : Int) < 4), fun hc => absurd hc hno,
        by simp [readNextChar, uartReadNonblocking]⟩
    · rw [← hdesc] at h h0
      exact startConnRead_conn h h0

lemma resettingModule_conn (h : s.desc.ConnOk)
    (hop : s.desc.callbackOperation = .resettingModule) :
    Trace.Unless (· ≠ .connIndex) (fun s' => s'.desc.ConnOk) (resettingModule s) := by
  unfold resettingModule
  split
  · rename_i f hf
    rw [(matchMessage_error hf).1]
    simp [Trace.Unless]
  · rename_i hit idx hm
    refine ⟨h.low, h.high, h.header, ?_⟩
    intro hc
    cases hit with
    | true => simp [readNextChar, uartReadNonblocking] at hc
    | false => simp [readNextChar, uartReadNonblocking, hop] at hc

lemma uartReceive_conn (h : s.desc.ConnOk) (hok : s.ConnAllowed (.receive ch newCb)) :
    Trace.Unless (· ≠ .connIndex) (fun s' => s'.desc.ConnOk) (uartReceive s ch newCb) := by
  have hdesc := uartStore_desc s ch
  have hlen := uartStore_len s ch
  have hstore : (uartStore s ch).desc.ConnOk := by
    rw [hdesc]
    exact ⟨h.low, h.high, h.header, h.payload⟩
  have hop : (uartStore s ch).desc.callbackOperation = s.desc.callbackOperation := by
    rw [hdesc]
  unfold uartReceive
  split
  · rename_i hzero
    rw [hlen] at hzero
    have hone : s.uartLen = 1 := by
      have := congrArg (· + 1) hzero
      simpa using this
    -- in both modes that read responses, the byte stored is the one the condition is about
    have hread : s.desc.callbackOperation = .readingResponses ∨
        s.desc.callbackOperation = .waitingSend →
        Trace.Unless (· ≠ .connIndex) (fun s' => s'.desc.ConnOk)
          (readingResponses (uartStore s ch) newCb) := by
      intro hmode
      have hacc : s.desc.ConnAccepts (if s.uartDst = .readCh then ch else s.desc.readCh) := by
        simpa [AtSystem.ConnAllowed, AtSystem.interprets, hone, hmode] using hok
      apply readingResponses_conn hstore
      · rw [hop]
        rcases hmode with hm | hm
        · simp [hm]
        · simp [hm]
      · rw [hdesc]
        exact hacc
    unfold atCallback
    simp only [hop]
    cases hm : s.desc.callbackOperation with
    | resettingModule => exact resettingModule_conn hstore (hop.trans hm)
    | waitingSend => exact hread (.inr hm)
    | readingResponses => exact hread (.inl hm)
    | readingPayload => exact readingPayload_conn hstore (hop.trans hm)
  · exact hstore

/-- Every allowed event keeps the current connection in range. -/
theorem step_conn (h : s.desc.ConnOk) {e : AtEvent} (hok : s.ConnAllowed e) :
    Trace.Unless (· ≠ .connIndex) (fun s' => s'.desc.ConnOk) (s.step e) := by
  cases e with
  | receive ch newCb => exact uartReceive_conn h hok
  | uartError => exact ⟨h.low, h.high, h.header, h.payload⟩
  | setMultiple b => exact ⟨h.low, h.high, h.header, h.payload⟩
  | resetModule => exact ⟨h.low, h.high, h.header, by simp⟩
  | resetDone =>
    refine ⟨h.low, h.high, h.header, fun _ => ⟨?_, hok.2⟩⟩
    have hlow := h.low
    have hne := hok.1
    simp only
    lia
  | waitSend => exact ⟨h.low, h.high, h.header, by simp⟩
  | clearResult => exact ⟨h.low, h.high, h.header, h.payload⟩
  | clearErrors => exact ⟨h.low, h.high, h.header, h.payload⟩
  | startWait =>
    simp only [AtSystem.step]
    split
    · exact h
    · exact h
  | pollWait =>
    simp only [AtSystem.step]
    split
    · rename_i i _
      cases hs : pollResponse s ⟨i, none⟩ with
      | ok s' =>
        rcases pollResponse_ok hs with rfl | ⟨c, hit, idxs, -, -, rfl⟩
        · exact h
        · exact ⟨h.low, h.high, h.header, h.payload⟩
      | error f =>
        rcases pollResponse_error hs with rfl | ⟨rfl, -⟩
        · simp [Trace.Unless]
        · simp [Trace.Unless]
    · exact h
  | endWait =>
    simp only [AtSystem.step]
    split
    · exact ⟨h.low, h.high, h.header, h.payload⟩
    · exact h

/-- In a run from a new parser whose events are all allowed, no connection outside of the
table is accessed. -/
theorem at_parser_conn_index {cbs : List CircularBuffer} (events : List AtEvent)
    (hok : Trace.Guarded (Trace.orFault AtSystem.step) (Trace.untilFault AtSystem.ConnAllowed)
      (.ok { cbs := cbs }) events) :
    Trace.Always (Trace.orFault AtSystem.step) (fun r => r ≠ .error .connIndex)
      (.ok { cbs := cbs }) events := by
  have hinit : ({ cbs := cbs } : AtSystem).desc.ConnOk :=
    ⟨(by decide : (-1 : Int) ≤ 0), (by decide : (0 : Int) < 4),
      fun _ => (Int.le_refl 0 : (0 : Int) ≤ 0), by simp⟩
  refine (hok.unless hinit fun s e hs he => step_conn hs he).mono ?_
  rintro r hr rfl
  exact hr rfl

/-- Multiple mode, `"\r\n+IPD,3,2:ab"` and `"3,CLOSED\r\n"`. -/
theorem at_parser_conn_index_frame :
    Trace.Always (Trace.orFault AtSystem.step) (fun r => r ≠ .error .connIndex) (.ok {})
      (.setMultiple true :: receives [13, 10, 43, 73, 80, 68, 44, 51, 44, 50, 58, 97, 98, 51, 44,
        67, 76, 79, 83, 69, 68, 13, 10]) :=
  at_parser_conn_index _ (by decide +kernel)

/-- Multiple mode and `"\r\n+IPD,4,5:"`: the length is stored in `conn[4]`. -/
theorem at_parser_conn_index_four :
    Trace.run (Trace.orFault AtSystem.step) (.ok {})
      (.setMultiple true :: receives [13, 10, 43, 73, 80, 68, 44, 52, 44, 53, 58]) =
        .error .connIndex := by
  rfl

end NoOS
