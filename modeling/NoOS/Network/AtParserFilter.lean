import NoOS.Network.AtParserFrame

/-!
# What the parser leaves of a response

The module sends text, asynchronous messages and payload frames, one after the other. Every
frame is taken out of the result and every asynchronous message is noticed; what the parser
then removes is not what it has appended.
-/

namespace NoOS
open PrefixMatcher

/-- What the module sends in multiple mode. -/
inductive AtSegment
  | text (ch : UInt8)
  /-- The text `"CLOSED\r\n"`, which is no message without an id -/
  | closedText
  | closed (id : Fin MAX_CONNECTIONS)
  | wifiDisconnect
  | wifiGotIp
  | frame (id : Fin MAX_CONNECTIONS) (payload : List UInt8)

namespace AtSegment

def bytes : AtSegment → List UInt8
  | text ch => [ch]
  | closedText => closedMsg
  | closed id => [digit id, 44] ++ closedMsg
  | wifiDisconnect => wifiDisconnectMsg
  | wifiGotIp => wifiGotIpMsg
  | frame id payload => frameBytes id payload

/-- The bytes that belong to the response. -/
def response : AtSegment → List UInt8
  | text ch => [ch]
  | closedText => closedMsg
  | _ => []

/-- Neither an asynchronous message nor the text of one. -/
def Plain : AtSegment → Prop
  | text _ | frame _ _ => True
  | closedText | closed _ | wifiDisconnect | wifiGotIp => False

/-- The bytes since the last frame. -/
def after (vis : List UInt8) : AtSegment → List UInt8
  | frame _ _ => []
  | seg => vis ++ seg.bytes

/-- A segment that does not spell a message together with the bytes before it. -/
def Fits (vis : List UInt8) : AtSegment → Prop
  | text ch => ∀ msg ∈ atIpd :: asyncMsgs, ¬msg <:+ vis ++ [ch]
  | closedText => ∀ id : Fin MAX_CONNECTIONS, ¬[digit id, 44] <:+ vis
  | closed _ | wifiDisconnect | wifiGotIp => True
  | frame _ payload =>
    payload ≠ [] ∧ payload.length < 2 ^ 32 ∧ ∀ msg ∈ asyncMsgs, ¬msg <:+ vis ++ [13, 10]

instance (vis : List UInt8) : (seg : AtSegment) → Decidable (seg.Fits vis)
  | text _ => inferInstanceAs (Decidable (∀ _ ∈ _, _))
  | closedText => inferInstanceAs (Decidable (∀ _ : Fin MAX_CONNECTIONS, _))
  | closed _ | wifiDisconnect | wifiGotIp => .isTrue trivial
  | frame _ _ => inferInstanceAs (Decidable (_ ∧ _ ∧ _))

end AtSegment

/-- Every message stands in a segment of its own. -/
def Separated : List UInt8 → List AtSegment → Prop
  | _, [] => True
  | vis, seg :: segs => seg.Fits vis ∧ Separated (seg.after vis) segs

instance decidableSeparated (vis : List UInt8) :
    (segs : List AtSegment) → Decidable (Separated vis segs)
  | [] => .isTrue trivial
  | seg :: segs =>
    have := decidableSeparated (seg.after vis) segs
    inferInstanceAs (Decidable (_ ∧ _))

/-- Every matcher can recognise its message. -/
structure AtSystem.Ready (s : AtSystem) : Prop where
  operation : s.desc.callbackOperation = .readingResponses
  ipdIdx : s.desc.ipdIdx < 7
  async : List.Forall₂ (fun msg idx => idx.toNat < msg.length) asyncMsgs s.desc.asyncIdx

/-- What a segment adds to the result `acc`, as the parser has it. -/
def AtSegment.Leaves (acc acc' : List UInt8) : AtSegment → Prop
  | text ch => acc' = acc ++ [ch]
  | closedText => acc' = acc ∨ acc' = acc.take (acc.length - 2) ++ [10]
  | closed _ => acc' = acc ++ [10]
  | wifiDisconnect => acc' = acc ++ wifiDisconnectMsg.dropLast
  | wifiGotIp => acc' = acc ++ wifiGotIpMsg.dropLast
  | frame _ _ => acc' = acc

variable {msg seen vis acc : List UInt8} {idx ch : UInt8} {desc d : AtDesc} {s s' : AtSystem}
  {newCb : Option CbRef} {n : ℕ}

variable {stream : List (UInt8 × Option CbRef)} {k len : ℕ} {id : Fin MAX_CONNECTIONS}

lemma matchFirst_miss {msgs : List (List UInt8)} {idxs idxs' : List UInt8} {idx' : UInt8} {i : Option ℕ}
    (hmsg : matchMessage msg idx ch = .ok (false, idx'))
    (hrest : matchFirst msgs idxs ch = .ok (i, idxs')) :
    matchFirst (msg :: msgs) (idx :: idxs) ch = .ok (i.map (· + 1), idx' :: idxs') := by
  unfold matchFirst
  simp only [hmsg, hrest]

/-- The matcher of CLOSED stands behind the NUL of its message. -/
structure AtSystem.Stuck (s : AtSystem) (acc vis : List UInt8) : Prop where
  listening : s.Listening
  multiple : s.desc.multipleConections = true
  result : s.desc.ResultIs acc
  async : s.desc.asyncIdx.head? = some 9
  seeks : s.desc.Seeks vis

lemma AtSystem.Reads.nul (h : s.Reads n acc seen vis) (hseen : closedMsg <:+ seen)
    (newCb : Option CbRef) :
    ∃ s', uartReceive s 0 newCb = .ok s' ∧ (s'.NoOverflow → s'.Stuck (acc ++ [0]) (vis ++ [0])) := by
  have hseek : AtDesc.Seeks { s.desc with readCh := 0 } vis := ⟨h.seeks.idx, h.seeks.tracks, h.seeks.len⟩
  obtain ⟨d, hpay, hmiss, -⟩ := hseek.byte h.holds.multiple 0
  have hd := hmiss (not_suffix_of_getLast (by decide) (by decide))
  have hsame := isPayloadMessage_false hpay
  rcases Nat.lt_or_eq_of_le h.holds.result.le with hlt | hfull
  · have hasync := h.holds.async
    unfold asyncMsgs at hasync
    obtain ⟨idx, idxs, hidx, hidxs, heq⟩ := List.forall₂_cons_left_iff.mp hasync
    have height : idx = 8 := UInt8.toNat_inj.mp (hidx.eq_length_iff.mpr hseen)
    subst height
    -- the other messages have not just ended
    have hothers : ∀ msg ∈ [wifiDisconnectMsg, wifiGotIpMsg], ¬msg <:+ seen := by
      have hne : ∀ msg ∈ [wifiDisconnectMsg, wifiGotIpMsg], msg ∈ asyncMsgs ∧ msg ≠ closedMsg := by decide
      intro msg hmsg hs
      exact (hne msg hmsg).2 (h.ended msg (hne msg hmsg).1 hs)
    obtain ⟨idxs', hrest, -⟩ := @matchFirst_tracks seen 0 _ _ (by decide) hidxs fun _ => hothers
    have hnone : ([wifiDisconnectMsg, wifiGotIpMsg].findIdx? fun msg => decide (msg <:+ seen ++ [0])) =
        none := by
      have hlast : ∀ msg ∈ [wifiDisconnectMsg, wifiGotIpMsg], msg.getLast? ≠ some 0 ∧ msg ≠ [] := by decide
      rw [List.findIdx?_eq_none_iff]
      intro msg hmsg
      exact decide_eq_false (not_suffix_of_getLast (hlast msg hmsg).1 (hlast msg hmsg).2)
    rw [hnone] at hrest
    have hmatch := matchFirst_miss (show matchMessage closedMsg 8 0 = .ok (false, 9) by decide) hrest
    have hasync' : isAsyncMessages d 0 = .ok (false, { d with asyncIdx := 9 :: idxs' }) := by
      unfold isAsyncMessages asyncMsgs
      rw [hsame.asyncIdx]
      simp only [heq, hmatch, Option.map_none]
    have hresult : AtDesc.ResultIs { d with asyncIdx := 9 :: idxs' } acc :=
      h.holds.result.congr hsame.result
    obtain ⟨result, happ, hresult'⟩ := hresult.append hlt 0
    rw [h.holds.receive_async hpay hlt hasync', happ]
    refine ⟨_, rfl, fun _ => ⟨?_, hsame.multipleConections.trans h.holds.multiple, hresult', rfl,
      ⟨hd.idx, hd.tracks, hd.len⟩⟩⟩
    apply h.holds.listening.next
    · exact hsame.callbackOperation.trans h.holds.listening.operation
    · intro i r hr
      exact h.holds.listening.buffers.refs i r (hsame.conn ▸ hr)
  · obtain ⟨s', hs', hover⟩ := h.holds.listening.receive_full newCb h.holds.result hpay hfull
    exact ⟨s', hs', fun hno => absurd hno hover⟩

/-- The byte after that reads past the message, unless the result overflows. -/
lemma AtSystem.Stuck.receive (h : s.Stuck acc vis) (ch : UInt8) (newCb : Option CbRef) :
    uartReceive s ch newCb = .error .messageIndex ∨
      ∃ s', uartReceive s ch newCb = .ok s' ∧ ¬s'.NoOverflow := by
  have hseek : AtDesc.Seeks { s.desc with readCh := ch } vis := ⟨h.seeks.idx, h.seeks.tracks, h.seeks.len⟩
  obtain ⟨d, hpay, -, -⟩ := hseek.byte h.multiple ch
  have hsame := isPayloadMessage_false hpay
  rcases Nat.lt_or_eq_of_le h.result.le with hlt | hfull
  · left
    obtain ⟨idxs, hidxs⟩ : ∃ idxs, s.desc.asyncIdx = 9 :: idxs := List.head?_eq_some_iff.mp h.async
    have hasync : isAsyncMessages d ch = .error .messageIndex := by
      unfold isAsyncMessages
      rw [hsame.asyncIdx]
      simp only [hidxs]
      rfl
    have hop := hsame.callbackOperation
    simp only [h.listening.operation] at hop
    have hnot : ¬RESULT_BUFF_LEN ≤ acc.length := Nat.not_le_of_lt hlt
    rw [h.listening.receive]
    simp only [readingResponses, hpay, hop, hsame.result, h.result.len, reduceCtorEq, and_false, if_false,
      ge_iff_le, hnot, hsame.readCh, hasync]
  · exact .inr (h.listening.receive_full newCb h.result hpay hfull)

lemma run_error (f : AtFault) (events : List AtEvent) :
    Trace.run (Trace.orFault AtSystem.step) (.error f) events = .error f := by
  induction events with
  | nil => rfl
  | cons e events ih => exact ih

lemma AtSystem.Stuck.not_ready (h : s.Stuck acc vis)
    (hspace : Trace.Always (Trace.orFault AtSystem.step)
      (Trace.Unless (fun _ => True) AtSystem.NoOverflow) (.ok s) (feed stream))
    (hrun : Trace.run (Trace.orFault AtSystem.step) (.ok s) (feed stream) = .ok s') : ¬s'.Ready := by
  cases stream with
  | nil =>
    rintro ⟨-, -, hasync⟩
    simp only [feed, List.map_nil, Trace.run_nil, Except.ok.injEq] at hrun
    subst hrun
    obtain ⟨idxs, hidxs⟩ : ∃ idxs, s.desc.asyncIdx = 9 :: idxs := List.head?_eq_some_iff.mp h.async
    rw [hidxs] at hasync
    unfold asyncMsgs at hasync
    exact absurd (List.forall₂_cons.mp hasync).1 (by decide)
  | cons p stream =>
    exfalso
    rw [feed, List.map_cons] at hrun hspace
    rw [Trace.run_cons] at hrun
    obtain ⟨-, hspace⟩ := Trace.always_cons.mp hspace
    rcases h.receive p.1 p.2 with herr | ⟨s'', hs'', hover⟩
    · rw [Trace.orFault_ok, AtSystem.step, herr, run_error] at hrun
      simp at hrun
    · rw [Trace.orFault_ok, AtSystem.step, hs''] at hspace
      exact hover hspace.first

/-- A segment is read as a whole. Only after a CLOSED message does a matcher stand at its end. -/
lemma AtSystem.Reads.segment (h : s.Reads n acc seen vis) {seg : AtSegment} (hfits : seg.Fits vis)
    (hbytes : stream.map Prod.fst = seg.bytes) (hnew : ∀ p ∈ stream, ∀ r, p.2 = some r → r < n)
    (hnul : seg = .text 0 → ¬closedMsg <:+ seen) :
    s.Yields stream fun s' => ∃ acc' seen', s'.Reads n acc' seen' (seg.after vis) ∧
      seg.Leaves acc acc' ∧ (seg.Plain → ¬closedMsg <:+ seen') := by
  cases seg with
  | text ch =>
    obtain ⟨p, rfl, hp⟩ := List.map_eq_singleton_iff.mp hbytes
    subst hp
    apply AtSystem.Yields.receive
    have hends : p.1 = 0 → ∀ msg ∈ asyncMsgs, ¬msg <:+ seen := by
      intro hzero msg hmsg hs
      exact hnul (by rw [hzero]) (h.ended msg hmsg hs ▸ hs)
    obtain ⟨s', hs', hres⟩ := h.quiet p.2 hfits hends
    refine ⟨s', hs', fun hno => ⟨_, _, hres hno, rfl, fun _ hs => ?_⟩⟩
    exact hfits closedMsg (by decide) (hs.trans (hres hno).suffix)
  | closedText =>
    apply (h.closedMsg_run hbytes).mono
    rintro s' ⟨acc', seen', hreads, hacc⟩
    refine ⟨acc', seen', hreads, ?_, fun hplain => hplain.elim⟩
    rcases hacc with ⟨hacc, -⟩ | hacc
    · exact .inl hacc
    · exact .inr hacc
  | closed id =>
    apply (h.closed_run id hbytes).mono
    rintro s' ⟨seen', hreads⟩
    exact ⟨_, seen', hreads, rfl, fun hplain => hplain.elim⟩
  | wifiDisconnect =>
    apply (h.wifi_run (.inl rfl) hbytes).mono
    intro s' hreads
    exact ⟨_, _, hreads, rfl, fun hplain => hplain.elim⟩
  | wifiGotIp =>
    apply (h.wifi_run (.inr rfl) hbytes).mono
    intro s' hreads
    exact ⟨_, _, hreads, rfl, fun hplain => hplain.elim⟩
  | frame id payload =>
    apply (h.frame_run hfits.1 hfits.2.1 hfits.2.2 hbytes hnew).mono
    intro s' hreads
    exact ⟨_, _, hreads, rfl, fun _ => by decide⟩

/-- What the segments make of the result, one after the other. -/
def LeavesAll : List UInt8 → List AtSegment → List UInt8 → Prop
  | acc, [], acc' => acc' = acc
  | acc, seg :: segs, acc' => ∃ mid, seg.Leaves acc mid ∧ LeavesAll mid segs acc'

/-- The parser reads all segments, or a NUL has followed a CLOSED message. -/
theorem AtSystem.Reads.segments {segs : List AtSegment} (h : s.Reads n acc seen vis)
    (hsep : Separated vis segs) (hbytes : stream.map Prod.fst = segs.flatMap AtSegment.bytes)
    (hnew : ∀ p ∈ stream, ∀ r, p.2 = some r → r < n)
    (hspace : Trace.Always (Trace.orFault AtSystem.step)
      (Trace.Unless (fun _ => True) AtSystem.NoOverflow) (.ok s) (feed stream)) :
    (∃ s' acc' seen' vis', Trace.run (Trace.orFault AtSystem.step) (.ok s) (feed stream) = .ok s' ∧
      s'.Reads n acc' seen' vis' ∧ LeavesAll acc segs acc' ∧
      (closedMsg <:+ seen' → closedMsg <:+ seen ∨ ∃ seg ∈ segs, ¬seg.Plain)) ∨
    ((closedMsg <:+ seen ∨ ∃ seg ∈ segs, ¬seg.Plain) ∧
      ∀ s', Trace.run (Trace.orFault AtSystem.step) (.ok s) (feed stream) = .ok s' → ¬s'.Ready) := by
  induction segs generalizing s acc seen vis stream with
  | nil =>
    rw [List.flatMap_nil, List.map_eq_nil_iff] at hbytes
    subst hbytes
    exact .inl ⟨s, acc, seen, vis, rfl, h, rfl, .inl⟩
  | cons seg segs ih =>
    obtain ⟨hfits, hsep⟩ := hsep
    rw [List.flatMap_cons] at hbytes
    obtain ⟨first, rest, rfl, hfirst, hrest⟩ := List.map_eq_append_iff.mp hbytes
    rw [feed, List.map_append, Trace.always_append] at hspace
    by_cases hnul : seg = .text 0 → ¬closedMsg <:+ seen
    · obtain ⟨s', hs', acc', seen', hreads, hleaves, hplain⟩ :=
        h.segment hfits hfirst (fun p hp => hnew p (by simp [hp])) hnul hspace.1
      have hsplit (t : AtSystem) : Trace.run (Trace.orFault AtSystem.step) (.ok s) (feed (first ++ rest)) = .ok t ↔
          Trace.run (Trace.orFault AtSystem.step) (.ok s') (feed rest) = .ok t := by
        rw [feed, List.map_append, Trace.run_append]
        rw [feed] at hs'
        rw [hs']
        rfl
      have hspace' := hspace.2
      rw [feed] at hs'
      rw [hs'] at hspace'
      -- a CLOSED message that has just ended is one of the segments
      have hclosed : closedMsg <:+ seen' ∨ (∃ seg ∈ segs, ¬seg.Plain) →
          closedMsg <:+ seen ∨ ∃ seg' ∈ seg :: segs, ¬seg'.Plain := by
        rintro (hs | ⟨seg', hmem, hno⟩)
        · exact .inr ⟨seg, by simp, fun hp => hplain hp hs⟩
        · exact .inr ⟨seg', by simp [hmem], hno⟩
      rcases ih hreads hsep hrest (fun p hp => hnew p (by simp [hp])) hspace' with
        ⟨s'', acc'', seen'', vis'', hrun, hreads', hleaves', hends⟩ | ⟨hcause, hnot⟩
      · exact .inl ⟨s'', acc'', seen'', vis'', (hsplit s'').mpr hrun, hreads', ⟨acc', hleaves, hleaves'⟩,
          fun hs => hclosed (hends hs)⟩
      · exact .inr ⟨hclosed hcause, fun t ht => hnot t ((hsplit t).mp ht)⟩
    · right
      obtain ⟨rfl, hseen⟩ := Classical.not_imp.mp hnul
      rw [not_not] at hseen
      refine ⟨.inl hseen, fun t ht => ?_⟩
      obtain ⟨p, rfl, hp⟩ := List.map_eq_singleton_iff.mp hfirst
      obtain ⟨s', hs', hres⟩ := h.nul hseen p.2
      have hstep : Trace.run (Trace.orFault AtSystem.step) (.ok s) (feed [p]) = .ok s' := by
        rw [← hs', ← hp]
        rfl
      rw [feed] at hstep
      have hspace₁ := hspace.1.last
      have hspace₂ := hspace.2
      rw [hstep] at hspace₁ hspace₂
      rw [feed, List.map_append, Trace.run_append, hstep] at ht
      exact (hres hspace₁).not_ready hspace₂ ht

variable {acc' : List UInt8} {seg : AtSegment} {segs : List AtSegment}

/-- The letter 'L' is only in the text, and is lost with the text of a CLOSED message. -/
lemma AtSegment.Leaves.count (h : seg.Leaves acc acc') :
    acc'.count 76 ≤ acc.count 76 + seg.response.count 76 ∧
      (seg = .closedText → acc'.count 76 < acc.count 76 + seg.response.count 76) := by
  have hone : closedMsg.count 76 = 1 := by decide
  cases seg with
  | text ch =>
    rw [show acc' = acc ++ [ch] from h, List.count_append]
    exact ⟨Nat.le_refl _, by simp⟩
  | closedText =>
    have hle : acc'.count 76 ≤ acc.count 76 := by
      rcases h with rfl | rfl
      · exact Nat.le_refl _
      · rw [List.count_append]
        exact (List.take_sublist _ _).count_le _
    rw [response, hone]
    exact ⟨by lia, fun _ => by omega⟩
  | closed id =>
    rw [show acc' = acc ++ [10] from h, List.count_append]
    exact ⟨Nat.le_refl _, by simp⟩
  | wifiDisconnect =>
    rw [show acc' = acc ++ wifiDisconnectMsg.dropLast from h, List.count_append]
    exact ⟨Nat.le_refl _, by simp⟩
  | wifiGotIp =>
    rw [show acc' = acc ++ wifiGotIpMsg.dropLast from h, List.count_append]
    exact ⟨Nat.le_refl _, by simp⟩
  | frame id payload =>
    rw [show acc' = acc from h]
    exact ⟨Nat.le_refl _, by simp⟩

/-- Everything else only adds to the result, and a message more than nothing. -/
lemma AtSegment.Leaves.length (h : seg.Leaves acc acc') (hno : seg ≠ .closedText) :
    acc.length + seg.response.length ≤ acc'.length ∧
      (¬seg.Plain → acc.length + seg.response.length < acc'.length) ∧
      (seg.Plain → acc' = acc ++ seg.response) := by
  cases seg with
  | text ch =>
    rw [show acc' = acc ++ [ch] from h, List.length_append]
    exact ⟨Nat.le_refl _, fun hp => absurd trivial hp, fun _ => rfl⟩
  | closedText => exact absurd rfl hno
  | closed id =>
    rw [show acc' = acc ++ [10] from h, List.length_append]
    exact ⟨Nat.le_succ _, fun _ => Nat.lt_succ_self _, fun hp => hp.elim⟩
  | wifiDisconnect =>
    rw [show acc' = acc ++ wifiDisconnectMsg.dropLast from h, List.length_append]
    exact ⟨Nat.le_add_right _ _, fun _ => Nat.lt_add_of_pos_right (by decide), fun hp => hp.elim⟩
  | wifiGotIp =>
    rw [show acc' = acc ++ wifiGotIpMsg.dropLast from h, List.length_append]
    exact ⟨Nat.le_add_right _ _, fun _ => Nat.lt_add_of_pos_right (by decide), fun hp => hp.elim⟩
  | frame id payload =>
    rw [show acc' = acc from h]
    exact ⟨Nat.le_refl _, fun hp => absurd trivial hp, fun _ => (List.append_nil _).symm⟩

lemma LeavesAll.count (h : LeavesAll acc segs acc') :
    acc'.count 76 ≤ acc.count 76 + (segs.flatMap AtSegment.response).count 76 ∧
      (.closedText ∈ segs → acc'.count 76 < acc.count 76 + (segs.flatMap AtSegment.response).count 76) := by
  induction segs generalizing acc with
  | nil =>
    rw [show acc' = acc from h]
    exact ⟨Nat.le_refl _, by simp⟩
  | cons seg segs ih =>
    obtain ⟨mid, hseg, hsegs⟩ := h
    obtain ⟨hle, hlt⟩ := ih hsegs
    obtain ⟨hle', hlt'⟩ := hseg.count
    rw [List.flatMap_cons, List.count_append]
    refine ⟨by lia, fun hmem => ?_⟩
    rcases List.mem_cons.mp hmem with heq | hmem
    · have := hlt' heq.symm
      lia
    · have := hlt hmem
      lia

lemma LeavesAll.length (h : LeavesAll acc segs acc') (hno : .closedText ∉ segs) :
    acc.length + (segs.flatMap AtSegment.response).length ≤ acc'.length ∧
      ((∃ seg ∈ segs, ¬seg.Plain) →
        acc.length + (segs.flatMap AtSegment.response).length < acc'.length) ∧
      ((∀ seg ∈ segs, seg.Plain) → acc' = acc ++ segs.flatMap AtSegment.response) := by
  induction segs generalizing acc with
  | nil =>
    rw [show acc' = acc from h]
    simp
  | cons seg segs ih =>
    obtain ⟨mid, hseg, hsegs⟩ := h
    rw [List.mem_cons, not_or] at hno
    obtain ⟨hle, hlt, heq⟩ := ih hsegs hno.2
    obtain ⟨hle', hlt', heq'⟩ := hseg.length (Ne.symm hno.1)
    rw [List.flatMap_cons, List.length_append]
    refine ⟨by lia, ?_, fun hall => ?_⟩
    · rintro ⟨seg', hmem, hmess⟩
      rcases List.mem_cons.mp hmem with rfl | hmem
      · have := hlt' hmess
        lia
      · have := hlt ⟨seg', hmem, hmess⟩
        lia
    · rw [heq fun seg' hmem => hall seg' (by simp [hmem]), heq' (hall seg (by simp)), List.append_assoc]

lemma AtDesc.ResultIs.unique (h : desc.ResultIs acc) (h' : desc.ResultIs acc') : acc = acc' := by
  rw [← h.bytes, ← h'.bytes, ← h.len, ← h'.len]

lemma tracks_lt {msgs : List (List UInt8)} {idxs : List UInt8} (hmsgs : ∀ msg ∈ msgs, ¬msg <:+ seen)
    (h : List.Forall₂ (fun msg idx => Tracks msg idx.toNat seen) msgs idxs) :
    List.Forall₂ (fun msg idx => idx.toNat < msg.length) msgs idxs := by
  induction h with
  | nil => exact .nil
  | @cons msg idx msgs idxs hidx _ ih =>
    refine .cons ?_ (ih fun m hm => hmsgs m (by simp [hm]))
    have hne : idx.toNat ≠ msg.length := fun hc => hmsgs msg (by simp) (hidx.eq_length_iff.mp hc)
    exact Nat.lt_of_le_of_ne hidx.le hne

lemma AtSystem.Reads.ready (h : s.Reads n acc seen vis) (hno : ¬closedMsg <:+ seen) : s.Ready := by
  have hended : ∀ msg ∈ asyncMsgs, ¬msg <:+ seen := fun msg hmsg hs => hno (h.ended msg hmsg hs ▸ hs)
  exact ⟨h.holds.listening.operation, h.seeks.idx, tracks_lt hended h.holds.async⟩

/-- A parser in multiple mode with an empty result, at the start of a stream. -/
structure AtSystem.Fresh (s : AtSystem) : Prop where
  listening : s.Listening
  multiple : s.desc.multipleConections = true
  buff : s.desc.result.buff.length = RESULT_BUFF_LEN
  len : s.desc.result.len = 0
  asyncIdx : s.desc.asyncIdx = [0, 0, 0]
  ipdIdx : s.desc.ipdIdx = 0
  ipdLen : s.desc.ipdLen = 0

lemma AtSystem.Fresh.reads (h : s.Fresh) : s.Reads s.cbs.length [] [] [] := by
  refine ⟨⟨h.listening, rfl, h.multiple, ⟨h.buff, ?_, rfl⟩, ?_⟩, List.nil_suffix, by decide, ?_⟩
  · rw [h.len]
    rfl
  · rw [h.asyncIdx]
    exact .cons (.nil _) (.cons (.nil _) (.cons (.nil _) .nil))
  · refine ⟨?_, ?_, h.ipdLen⟩
    · rw [h.ipdIdx]
      decide
    · rw [h.ipdIdx]
      exact .nil _

/-- As long as the result does not overflow, it holds the text of the response and the parser
is ready for the next message, exactly if the module sends no asynchronous message and the
text does not spell one. -/
theorem at_response_filtering (hs : s.Fresh) (hsep : Separated [] segs)
    (hbytes : stream.map Prod.fst = segs.flatMap AtSegment.bytes)
    (hnew : ∀ p ∈ stream, ∀ r, p.2 = some r → r < s.cbs.length)
    (hspace : Trace.Always (Trace.orFault AtSystem.step)
      (Trace.Unless (fun _ => True) AtSystem.NoOverflow) (.ok s) (feed stream)) :
    (∃ s', Trace.run (Trace.orFault AtSystem.step) (.ok s) (feed stream) = .ok s' ∧
      s'.desc.ResultIs (segs.flatMap AtSegment.response) ∧ s'.Ready) ↔ ∀ seg ∈ segs, seg.Plain := by
  have hread := hs.reads.segments hsep hbytes hnew hspace
  constructor
  · rintro ⟨s', hrun, hresult, hready⟩
    rcases hread with ⟨s'', acc', seen', vis', hrun', hreads, hleaves, -⟩ | ⟨-, hnot⟩
    · rw [hrun, Except.ok.injEq] at hrun'
      subst hrun'
      obtain rfl := hresult.unique hreads.holds.result
      by_contra hmess
      have hmess : ∃ seg ∈ segs, ¬seg.Plain := by simpa using hmess
      by_cases hno : .closedText ∈ segs
      · have := hleaves.count.2 hno
        simp at this
      · have := (hleaves.length hno).2.1 hmess
        simp at this
    · exact absurd hready (hnot s' hrun)
  · intro hplain
    have hnone : ¬(closedMsg <:+ [] ∨ ∃ seg ∈ segs, ¬seg.Plain) := by
      rintro (hs | ⟨seg, hmem, hno⟩)
      · exact absurd hs (by decide)
      · exact hno (hplain seg hmem)
    rcases hread with ⟨s', acc', seen', vis', hrun, hreads, hleaves, hends⟩ | ⟨hcause, -⟩
    · have hno : .closedText ∉ segs := fun hmem => hplain _ hmem
      have hacc := (hleaves.length hno).2.2 hplain
      rw [List.nil_append] at hacc
      subst hacc
      exact ⟨s', hrun, hreads.holds.result, hreads.ready fun hs => hnone (hends hs)⟩
    · exact absurd hcause hnone

/-- `"o"`, `"\r\n+IPD,1,2:ab"` and `"k"`; the payload goes to a buffer of one byte. -/
theorem at_response_filtering_frame :
    (∃ s', Trace.run (Trace.orFault AtSystem.step)
        (.ok { desc := { multipleConections := true }, cbs := [{ size := 1, buff := [0] }] })
        (feed ([111, 13, 10, 43, 73, 80, 68, 44, 49, 44, 50, 58, 97, 98, 107].map fun ch => (ch, some 0))) =
          .ok s' ∧
      s'.desc.ResultIs [111, 107] ∧ s'.Ready) ↔
    ∀ seg ∈ [AtSegment.text 111, .frame ⟨1, by decide⟩ [97, 98], .text 107], seg.Plain := by
  apply @at_response_filtering _ _ [AtSegment.text 111, .frame ⟨1, by decide⟩ [97, 98], .text 107]
  · refine ⟨⟨rfl, rfl, rfl, ⟨?_, ?_⟩, ?_⟩, rfl, List.length_replicate, rfl, rfl, rfl, rfl⟩
    · simp only [List.mem_singleton, forall_eq]
      exact ⟨by decide, 0, CbPtr.at_zero⟩
    · simp
    · simp
  · decide
  · simp [AtSegment.bytes, frameBytes, decimal, atIpd, digit]
  · simp
  · decide +kernel

/-- `"x0,CLOSED\r\n"` in multiple mode leaves `"x\n"`. -/
theorem at_response_filtering_closed :
    ¬∃ s', Trace.run (Trace.orFault AtSystem.step) (.ok { desc := { multipleConections := true } })
        (receives [120, 48, 44, 67, 76, 79, 83, 69, 68, 13, 10]) = .ok s' ∧
      s'.desc.ResultIs [120] ∧ s'.Ready := by
  rintro ⟨s', hrun, hresult, -⟩
  obtain ⟨s, hs, hlen⟩ : ∃ s, Trace.run (Trace.orFault AtSystem.step)
      (.ok { desc := { multipleConections := true } })
      (receives [120, 48, 44, 67, 76, 79, 83, 69, 68, 13, 10]) = .ok s ∧ s.desc.result.len = 2 :=
    ⟨_, rfl, rfl⟩
  rw [hs, Except.ok.injEq] at hrun
  subst hrun
  have := hresult.len
  rw [hlen] at this
  exact absurd this (by decide)

end NoOS
