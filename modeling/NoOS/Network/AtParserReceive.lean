import NoOS.Lib.PrefixMatcher
import NoOS.Network.AtParserPayload

/-!
# What a byte does to the result

The matchers of the parser are exact. A byte that ends no message is appended to the result;
the last byte of an asynchronous message takes back some of what has been appended.
-/

namespace NoOS
open PrefixMatcher Word

def digit (n : ℕ) : UInt8 := 48 + UInt8.ofNat n

/-- `desc->result` holds these bytes. -/
structure AtDesc.ResultIs (desc : AtDesc) (acc : List UInt8) : Prop where
  buff : desc.result.buff.length = RESULT_BUFF_LEN
  len : desc.result.len.toNat = acc.length
  bytes : desc.result.buff.take acc.length = acc

/-- The overflow of the result has not been reported. -/
def AtSystem.NoOverflow (s : AtSystem) : Prop := s.desc.errors &&& AT_ERROR_INTERNAL_BUFFER_OVERFLOW = 0

instance : DecidablePred AtSystem.NoOverflow := fun s =>
  inferInstanceAs (Decidable (s.desc.errors &&& AT_ERROR_INTERNAL_BUFFER_OVERFLOW = 0))

variable {msg seen vis acc : List UInt8} {idx ch : UInt8} {desc d : AtDesc} {s s' : AtSystem}
  {newCb : Option CbRef} {n : ℕ}

lemma matchMessage_tracks (hmsg : Restartable msg idx.toNat) (hone : 1 < msg.length) (hlen : msg.length < 255)
    (h : Tracks msg idx.toNat seen) (hnul : ch = 0 → ¬msg <:+ seen) :
    ∃ idx', matchMessage msg idx ch = .ok (decide (msg <:+ seen ++ [ch]), idx') ∧
      Tracks msg idx'.toNat (seen ++ [ch]) := by
  have hle := h.le
  -- behind the message there is a NUL, which is not received there
  have hget : (msg ++ [0])[idx.toNat]? = some ch ↔ msg[idx.toNat]? = some ch := by
    rcases Nat.lt_or_eq_of_le hle with hlt | heq
    · rw [List.getElem?_append_left hlt]
    · rw [heq, List.getElem?_append_right (Nat.le_refl _)]
      have hch : ch ≠ 0 := fun hc => hnul hc (h.eq_length_iff.mp heq)
      simp [Ne.symm hch]
  obtain ⟨c, hc⟩ : ∃ c, (msg ++ [0])[idx.toNat]? = some c :=
    ⟨_, List.getElem?_eq_getElem (by simp; omega)⟩
  unfold matchMessage
  simp only [hc]
  rw [hc, Option.some.injEq] at hget
  by_cases hch : ch = c
  · have hnext := h.extend (hget.mp hch.symm)
    have hidx : (idx + 1).toNat = idx.toNat + 1 := by
      rw [UInt8.toNat_add, UInt8.toNat_one]
      lia
    rw [← hidx] at hnext
    refine ⟨idx + 1, ?_, hnext⟩
    rw [if_pos hch]
    simp only [hnext.eq_length_iff]
  · have hnext := h.restart hmsg fun hc' => hch (hget.mpr hc').symm
    have hmiss : ¬msg <:+ seen ++ [ch] := by
      rw [← hnext.eq_length_iff]
      split
      · omega
      · omega
    rw [if_neg hch, decide_eq_false hmiss]
    split
    · rename_i hhead
      rw [if_pos hhead] at hnext
      exact ⟨1, rfl, hnext⟩
    · rename_i hhead
      rw [if_neg hhead] at hnext
      exact ⟨0, rfl, hnext⟩

/-- The loop over the messages stops at the first one that ends here. -/
lemma matchFirst_restarts {msgs : List (List UInt8)} {idxs : List UInt8}
    (hmsgs : ∀ msg ∈ msgs, (∀ idx, Tracks msg idx seen → Restartable msg idx) ∧ 1 < msg.length ∧
      msg.length < 255)
    (h : List.Forall₂ (fun msg idx => Tracks msg idx.toNat seen) msgs idxs)
    (hnul : ch = 0 → ∀ msg ∈ msgs, ¬msg <:+ seen) :
    ∃ idxs', matchFirst msgs idxs ch =
        .ok (msgs.findIdx? fun msg => decide (msg <:+ seen ++ [ch]), idxs') ∧
      ((∀ msg ∈ msgs, ¬msg <:+ seen ++ [ch]) →
        List.Forall₂ (fun msg idx => Tracks msg idx.toNat (seen ++ [ch])) msgs idxs') := by
  induction h with
  | nil => exact ⟨[], rfl, fun _ => .nil⟩
  | @cons msg idx msgs idxs hidx _ ih =>
    obtain ⟨hhead, hone, hlen⟩ := hmsgs msg (by simp)
    obtain ⟨idx', hmatch, htrack⟩ := matchMessage_tracks (hhead _ hidx) hone hlen hidx
      fun hc => hnul hc msg (by simp)
    obtain ⟨idxs', hrest, htracks⟩ := ih (fun m hm => hmsgs m (by simp [hm]))
      fun hc m hm => hnul hc m (by simp [hm])
    unfold matchFirst
    rw [hmatch, List.findIdx?_cons]
    by_cases hhit : msg <:+ seen ++ [ch]
    · simp only [hhit, decide_true, if_true]
      exact ⟨_, rfl, fun hno => absurd hhit (hno msg (by simp))⟩
    · simp only [hhit, decide_false, hrest]
      refine ⟨_, rfl, fun hno => .cons htrack (htracks fun m hm => hno m (by simp [hm]))⟩

lemma matchFirst_tracks {msgs : List (List UInt8)} {idxs : List UInt8}
    (hmsgs : ∀ msg ∈ msgs, HeadUnique msg ∧ 1 < msg.length ∧ msg.length < 255)
    (h : List.Forall₂ (fun msg idx => Tracks msg idx.toNat seen) msgs idxs)
    (hnul : ch = 0 → ∀ msg ∈ msgs, ¬msg <:+ seen) :
    ∃ idxs', matchFirst msgs idxs ch =
        .ok (msgs.findIdx? fun msg => decide (msg <:+ seen ++ [ch]), idxs') ∧
      ((∀ msg ∈ msgs, ¬msg <:+ seen ++ [ch]) →
        List.Forall₂ (fun msg idx => Tracks msg idx.toNat (seen ++ [ch])) msgs idxs') := by
  refine matchFirst_restarts (fun msg hmsg => ?_) h hnul
  obtain ⟨hhead, hsizes⟩ := hmsgs msg hmsg
  exact ⟨fun idx htracks => hhead.restartable htracks.le, hsizes⟩

lemma AtDesc.ResultIs.le (h : desc.ResultIs acc) : acc.length ≤ RESULT_BUFF_LEN := by
  have hlen := congrArg List.length h.bytes
  rw [List.length_take, h.buff] at hlen
  lia

lemma AtDesc.ResultIs.congr (h : desc.ResultIs acc) (hresult : d.result = desc.result) :
    d.ResultIs acc :=
  ⟨hresult ▸ h.buff, hresult ▸ h.len, hresult ▸ h.bytes⟩

lemma AtDesc.ResultIs.append (h : desc.ResultIs acc) (hlt : acc.length < RESULT_BUFF_LEN)
    (ch : UInt8) :
    ∃ result, desc.append ch = .ok { desc with result := result } ∧
      AtDesc.ResultIs { desc with result := result } (acc ++ [ch]) := by
  unfold AtDesc.append
  rw [h.len, if_pos hlt]
  refine ⟨_, rfl, ?_, ?_, ?_⟩
  · rw [List.length_set]
    exact h.buff
  · unfold RESULT_BUFF_LEN at hlt
    rw [List.length_append, List.length_singleton, toNat_add_of_lt, h.len, UInt32.toNat_one]
    rw [h.len, UInt32.toNat_one]
    omega
  · rw [List.length_append, List.length_singleton, List.take_add_one, List.take_set_of_le (Nat.le_refl _),
      h.bytes, List.getElem?_set_self (by rw [h.buff]; exact hlt), Option.toList_some]

lemma AtDesc.ResultIs.cut {rest : List UInt8} (h : desc.ResultIs (acc ++ rest)) {k : UInt32}
    (hk : k.toNat = rest.length) : (desc.setResultLen (desc.result.len - k)).ResultIs acc := by
  have hlen := h.len
  rw [List.length_append] at hlen
  refine ⟨h.buff, ?_, ?_⟩
  · simp only [AtDesc.setResultLen]
    rw [toNat_sub_of_le (by lia)]
    lia
  · have := congrArg (List.take acc.length) h.bytes
    rwa [List.take_take, List.length_append, Nat.min_eq_left (Nat.le_add_right _ _),
      List.take_left'  rfl] at this

/-- The parser listens with the result `acc`; the matchers of the asynchronous messages have
seen `seen`. -/
structure AtSystem.Holds (s : AtSystem) (n : ℕ) (acc seen : List UInt8) : Prop where
  listening : s.Listening
  cbs : s.cbs.length = n
  multiple : s.desc.multipleConections = true
  result : s.desc.ResultIs acc
  async : List.Forall₂ (fun msg idx => Tracks msg idx.toNat seen) asyncMsgs s.desc.asyncIdx

/-- What a byte that does not end a header leaves to the rest of the interrupt. -/
structure AtDesc.SameResult (desc d : AtDesc) : Prop where
  multipleConections : d.multipleConections = desc.multipleConections
  conn : d.conn = desc.conn
  callbackOperation : d.callbackOperation = desc.callbackOperation
  readCh : d.readCh = desc.readCh
  result : d.result = desc.result
  errors : d.errors = desc.errors
  asyncIdx : d.asyncIdx = desc.asyncIdx

lemma isPayloadMessage_false (h : isPayloadMessage desc ch = .ok (false, d)) : desc.SameResult d := by
  unfold isPayloadMessage at h
  split at h
  · split at h
    · simp at h
    · simp only [Except.ok.injEq, Prod.mk.injEq] at h
      exact h.2 ▸ ⟨rfl, rfl, rfl, rfl, rfl, rfl, rfl⟩
    · simp only [Except.ok.injEq, Prod.mk.injEq] at h
      exact h.2 ▸ ⟨rfl, rfl, rfl, rfl, rfl, rfl, rfl⟩
  · split at h
    · split at h
      · simp only [Except.ok.injEq, Prod.mk.injEq] at h
        exact h.2 ▸ ⟨rfl, rfl, rfl, rfl, rfl, rfl, rfl⟩
      · simp only [Except.ok.injEq, Prod.mk.injEq] at h
        exact h.2 ▸ ⟨rfl, rfl, rfl, rfl, rfl, rfl, rfl⟩
    · split at h
      · simp only [Except.ok.injEq, Prod.mk.injEq] at h
        exact h.2 ▸ ⟨rfl, rfl, rfl, rfl, rfl, rfl, rfl⟩
      · simp only [Except.ok.injEq, Prod.mk.injEq] at h
        exact h.2 ▸ ⟨rfl, rfl, rfl, rfl, rfl, rfl, rfl⟩
    · split at h
      · split at h
        · split at h
          · simp at h
          · simp at h
        · simp only [Except.ok.injEq, Prod.mk.injEq] at h
          exact h.2 ▸ ⟨rfl, rfl, rfl, rfl, rfl, rfl, rfl⟩
      · simp only [Except.ok.injEq, Prod.mk.injEq] at h
        exact h.2 ▸ ⟨rfl, rfl, rfl, rfl, rfl, rfl, rfl⟩
    · simp only [Except.ok.injEq, Prod.mk.injEq] at h
      exact h.2 ▸ ⟨rfl, rfl, rfl, rfl, rfl, rfl, rfl⟩

lemma AtSystem.Listening.store (h : s.Listening) (ch : UInt8) :
    uartStore s ch = { s with uartLen := 0, desc := { s.desc with readCh := ch } } := by
  unfold uartStore
  rw [h.uartDst, h.uartLen]
  rfl

lemma AtSystem.Listening.receive (h : s.Listening) (ch : UInt8) (newCb : Option CbRef) :
    uartReceive s ch newCb =
      readingResponses { s with uartLen := 0, desc := { s.desc with readCh := ch } } newCb := by
  unfold uartReceive
  rw [h.store, if_pos rfl]
  simp only [atCallback, h.operation]

lemma AtSystem.Listening.next (h : s.Listening) (hop : d.callbackOperation = .readingResponses)
    (hrefs : ∀ i r, (d.conn i).cbuff = some r → r < s.cbs.length) :
    (readNextChar { s with uartLen := 0, desc := { s.desc with readCh := ch } } d).Listening :=
  ⟨hop, rfl, rfl, ⟨h.buffers.writable, hrefs⟩, h.idle⟩

lemma overflow_reported (errors : UInt32) :
    (errors ||| AT_ERROR_INTERNAL_BUFFER_OVERFLOW) &&& AT_ERROR_INTERNAL_BUFFER_OVERFLOW ≠ 0 := by
  intro h
  have hbit := congrArg (fun e => e.toBitVec.getLsbD 4) h
  simp [AT_ERROR_INTERNAL_BUFFER_OVERFLOW] at hbit

lemma AtSystem.Listening.receive_full (h : s.Listening) (newCb : Option CbRef) (hresult : s.desc.ResultIs acc)
    (hpay : isPayloadMessage { s.desc with readCh := ch } ch = .ok (false, d))
    (hfull : acc.length = RESULT_BUFF_LEN) :
    ∃ s', uartReceive s ch newCb = .ok s' ∧ ¬s'.NoOverflow := by
  have hsame := isPayloadMessage_false hpay
  have hop := hsame.callbackOperation
  simp only [h.operation] at hop
  rw [h.receive]
  simp only [readingResponses, hpay, hop, hsame.result, hresult.len, hfull, reduceCtorEq, and_false, if_false,
    ge_iff_le, Nat.le_refl, if_true]
  exact ⟨_, rfl, overflow_reported _⟩

lemma AtSystem.Holds.receive_async {r : Bool} {d' : AtDesc} (h : s.Holds n acc seen)
    (hpay : isPayloadMessage { s.desc with readCh := ch } ch = .ok (false, d))
    (hlt : acc.length < RESULT_BUFF_LEN) (hasync : isAsyncMessages d ch = .ok (r, d')) :
    uartReceive s ch newCb =
      if r then .ok (readNextChar { s with uartLen := 0, desc := { s.desc with readCh := ch } } d')
      else (d'.append ch).map
        (readNextChar { s with uartLen := 0, desc := { s.desc with readCh := ch } }) := by
  have hsame := isPayloadMessage_false hpay
  have hop := hsame.callbackOperation
  simp only [h.listening.operation] at hop
  have hch : d'.readCh = ch := (isAsyncMessages_sameIpd hasync).readCh.trans hsame.readCh
  have hnot : ¬RESULT_BUFF_LEN ≤ acc.length := Nat.not_le_of_lt hlt
  rw [h.listening.receive]
  simp only [readingResponses, hpay, hop, hsame.result, h.result.len, reduceCtorEq, and_false, if_false,
    ge_iff_le, hnot, hsame.readCh, hasync]
  cases r with
  | true => rfl
  | false =>
    simp only [hch, Bool.false_eq_true, if_false]
    cases d'.append ch with
    | error f => rfl
    | ok d'' => rfl

lemma asyncMsgs_spec : ∀ msg ∈ asyncMsgs, HeadUnique msg ∧ 1 < msg.length ∧ msg.length < 255 := by
  decide

lemma AtSystem.Holds.receive_quiet (h : s.Holds n acc seen) (newCb : Option CbRef)
    (hpay : isPayloadMessage { s.desc with readCh := ch } ch = .ok (false, d))
    (hquiet : ∀ msg ∈ asyncMsgs, ¬msg <:+ seen ++ [ch])
    (hnul : ch = 0 → ∀ msg ∈ asyncMsgs, ¬msg <:+ seen) :
    ∃ s', uartReceive s ch newCb = .ok s' ∧ (s'.NoOverflow → s'.Holds n (acc ++ [ch]) (seen ++ [ch]) ∧
      s'.desc.ipdIdx = d.ipdIdx ∧ s'.desc.ipdStat = d.ipdStat ∧ s'.desc.ipdLen = d.ipdLen ∧
      s'.desc.currentConn = d.currentConn) := by
  have hsame := isPayloadMessage_false hpay
  rcases Nat.lt_or_eq_of_le h.result.le with hlt | hfull
  · obtain ⟨idxs, hmatch, htracks⟩ := matchFirst_tracks asyncMsgs_spec h.async hnul
    have hnone : (asyncMsgs.findIdx? fun msg => decide (msg <:+ seen ++ [ch])) = none := by
      rw [List.findIdx?_eq_none_iff]
      intro msg hmsg
      exact decide_eq_false (hquiet msg hmsg)
    rw [hnone] at hmatch
    have hasync : isAsyncMessages d ch = .ok (false, { d with asyncIdx := idxs }) := by
      unfold isAsyncMessages
      rw [hsame.asyncIdx]
      simp only [hmatch]
    have hresult : AtDesc.ResultIs { d with asyncIdx := idxs } acc := h.result.congr hsame.result
    obtain ⟨result, happ, hresult'⟩ := hresult.append hlt ch
    rw [h.receive_async hpay hlt hasync, happ]
    refine ⟨_, rfl, fun _ => ⟨⟨?_, h.cbs, ?_, hresult', htracks hquiet⟩, rfl, rfl, rfl, rfl⟩⟩
    · apply h.listening.next
      · exact hsame.callbackOperation.trans h.listening.operation
      · simp only [hsame.conn]
        exact h.listening.buffers.refs
    · exact hsame.multipleConections.trans h.multiple
  · obtain ⟨s', hs', hover⟩ := h.listening.receive_full newCb h.result hpay hfull
    exact ⟨s', hs', fun hno => absurd hno hover⟩

/-- After the start of a CLOSED message the other matchers stand at their beginning. -/
lemma tracks_zero_of_closed (hmsg : msg = wifiDisconnectMsg ∨ msg = wifiGotIpMsg)
    (h : Tracks msg idx.toNat (seen ++ closedMsg.dropLast)) : idx = 0 := by
  have hzero : idx.toNat = 0 := by
    apply h.eq_zero
    rcases hmsg with rfl | rfl
    · have hall : ∀ k ∈ List.range 18, 0 < k → ¬wifiDisconnectMsg.take k <:+ closedMsg.dropLast ∧
          ¬closedMsg.dropLast <:+ wifiDisconnectMsg.take k := by decide
      exact fun k hk hle => hall k (List.mem_range.mpr (Nat.lt_succ_of_le hle)) hk
    · have hall : ∀ k ∈ List.range 14, 0 < k → ¬wifiGotIpMsg.take k <:+ closedMsg.dropLast ∧
          ¬closedMsg.dropLast <:+ wifiGotIpMsg.take k := by decide
      exact fun k hk hle => hall k (List.mem_range.mpr (Nat.lt_succ_of_le hle)) hk
  exact UInt8.toNat_inj.mp hzero

lemma tracks_closed_zero :
    Tracks wifiDisconnectMsg (0 : UInt8).toNat closedMsg ∧ Tracks wifiGotIpMsg (0 : UInt8).toNat closedMsg := by
  have hdis : ∀ k ∈ List.range 18, wifiDisconnectMsg.take k <:+ closedMsg → k ≤ 0 := by decide
  have hgot : ∀ k ∈ List.range 14, wifiGotIpMsg.take k <:+ closedMsg → k ≤ 0 := by decide
  exact ⟨⟨Nat.zero_le _, by simp, fun k hk => hdis k (List.mem_range.mpr (Nat.lt_succ_of_le hk))⟩,
    ⟨Nat.zero_le _, by simp, fun k hk => hgot k (List.mem_range.mpr (Nat.lt_succ_of_le hk))⟩⟩

lemma AtDesc.ResultIs.getElem? (h : desc.ResultIs acc) {k : ℕ} (hk : k < acc.length) :
    desc.result.buff[k]? = acc[k]? := by
  have := congrArg (fun l => l[k]?) h.bytes
  rwa [List.getElem?_take_of_lt hk] at this

lemma digit_id (i : Fin MAX_CONNECTIONS) : 48 ≤ digit i ∧ digit i ≤ 51 := by
  revert i
  decide

/-- What is looked up in front of a CLOSED message: the last byte but one of the result. -/
lemma closedConnId_cut (h : desc.ResultIs acc) (hmul : desc.multipleConections = true) :
    ∃ id d, closedConnId desc = .ok (id, d) ∧
      ((id = -1 ∧ d = desc ∧ ∀ b (i : Fin MAX_CONNECTIONS), acc ≠ b ++ [digit i, 44]) ∨
        (0 ≤ id ∧ id < 4 ∧ d = desc.setResultLen (desc.result.len - 2) ∧
          d.ResultIs (acc.take (acc.length - 2)))) := by
  have hle := h.le
  have hlen := h.len
  have hneg := @sub_toInt32_neg desc.result.len 2 (by unfold RESULT_BUFF_LEN at hle; lia) (by decide)
  rw [hlen, show (2 : UInt32).toNat = 2 from rfl] at hneg
  unfold closedConnId
  rw [if_pos hmul]
  by_cases hshort : acc.length < 2
  · simp only [hneg.mpr hshort, if_true]
    refine ⟨_, _, rfl, .inl ⟨rfl, rfl, fun b i hb => ?_⟩⟩
    have hb := congrArg List.length hb
    rw [List.length_append] at hb
    simp only [List.length_cons, List.length_nil] at hb
    lia
  · have hj : (desc.result.len - 2).toNat = acc.length - 2 := by
      rw [toNat_sub_of_le (hlen ▸ Nat.le_of_not_lt hshort), hlen]
      rfl
    obtain ⟨c, hc⟩ : ∃ c, acc[acc.length - 2]? = some c :=
      ⟨_, List.getElem?_eq_getElem (by lia)⟩
    have hget := h.getElem? (show acc.length - 2 < acc.length by lia)
    simp only [mt hneg.mp hshort, if_false, hj, hget, hc]
    by_cases hdigit : 48 ≤ c ∧ c ≤ 51
    · rw [if_pos hdigit]
      rw [UInt8.le_iff_toNat_le, UInt8.le_iff_toNat_le] at hdigit
      have hlow : 48 ≤ c.toNat := hdigit.1
      have hhigh : c.toNat ≤ 51 := hdigit.2
      refine ⟨_, _, rfl, .inr ⟨by lia, by lia, rfl, ?_⟩⟩
      have hsplit : desc.ResultIs (acc.take (acc.length - 2) ++ acc.drop (acc.length - 2)) := by
        rwa [List.take_append_drop]
      apply hsplit.cut
      rw [List.length_drop]
      exact (Nat.sub_sub_self (Nat.le_of_not_lt hshort)).symm
    · rw [if_neg hdigit]
      refine ⟨_, _, rfl, .inl ⟨rfl, rfl, ?_⟩⟩
      rintro b i rfl
      rw [List.length_append, List.getElem?_append_right (by simp)] at hc
      simp only [List.length_cons, List.length_nil, Nat.add_sub_cancel, Nat.sub_self,
        List.getElem?_cons_zero, Option.some.injEq] at hc
      exact hdigit (hc ▸ digit_id i)

/-- The last byte of a CLOSED message leaves its matcher behind it, and the other two at their beginning. -/
lemma AtSystem.Holds.async_closed (h : s.Holds n acc seen) (hseen : closedMsg <:+ seen ++ [10]) :
    ∃ idxs, matchFirst asyncMsgs s.desc.asyncIdx 10 = .ok (some 0, idxs) ∧
      List.Forall₂ (fun msg idx => Tracks msg idx.toNat closedMsg) asyncMsgs idxs := by
  obtain ⟨idxs, hmatch, -⟩ := @matchFirst_tracks _ 10 _ _ asyncMsgs_spec h.async fun hc => absurd hc (by decide)
  have hzero : (asyncMsgs.findIdx? fun msg => decide (msg <:+ seen ++ [10])) = some 0 := by
    unfold asyncMsgs
    rw [List.findIdx?_cons, decide_eq_true hseen]
    rfl
  rw [hzero] at hmatch
  obtain ⟨idx, idx', rest, hidx, hidx', hhit⟩ := matchFirst_zero hmatch
  obtain ⟨-, -, hlast⟩ := matchMessage_hit hhit
  obtain ⟨x, hx⟩ := hseen
  have hsplit : x ++ closedMsg.dropLast = seen := by
    refine (List.append_inj' (?_ : x ++ closedMsg.dropLast ++ [10] = seen ++ [10]) rfl).1
    rw [List.append_assoc]
    exact hx
  have hasync := h.async
  rw [hidx, ← hsplit] at hasync
  unfold asyncMsgs at hasync
  obtain ⟨i, js, hi, hjs, rfl⟩ := List.forall₂_cons_left_iff.mp (List.forall₂_cons.mp hasync).2
  obtain ⟨j, ks, hj, hks, rfl⟩ := List.forall₂_cons_left_iff.mp hjs
  rw [List.forall₂_nil_left_iff.mp hks, tracks_zero_of_closed (.inl rfl) hi, tracks_zero_of_closed (.inr rfl) hj] at hidx'
  refine ⟨idxs, hmatch, ?_⟩
  rw [hidx']
  refine .cons ?_ (.cons tracks_closed_zero.1 (.cons tracks_closed_zero.2 .nil))
  rw [hlast]
  exact .full _

/-- The last byte of a CLOSED message. With an id its line end stays in the result, and its
matcher where it is. -/
lemma AtSystem.Holds.receive_closed (h : s.Holds n (acc ++ closedMsg.dropLast) seen)
    (newCb : Option CbRef)
    (hpay : isPayloadMessage { s.desc with readCh := 10 } 10 = .ok (false, d))
    (hseen : closedMsg <:+ seen ++ [10]) :
    ∃ s', uartReceive s 10 newCb = .ok s' ∧ (s'.NoOverflow → ∃ acc' seen', s'.Holds n acc' seen' ∧
      seen' <:+ closedMsg ∧ s'.desc.ipdIdx = d.ipdIdx ∧ s'.desc.ipdLen = d.ipdLen ∧
      (acc' = acc ∧ (∀ b (i : Fin MAX_CONNECTIONS), acc ≠ b ++ [digit i, 44]) ∨
        acc' = acc.take (acc.length - 2) ++ [10])) := by
  have hsame := isPayloadMessage_false hpay
  rcases Nat.lt_or_eq_of_le h.result.le with hlt | hfull
  · obtain ⟨idxs, hmatch, hclosed⟩ := h.async_closed hseen
    have hfull : AtDesc.ResultIs { d with asyncIdx := idxs } (acc ++ closedMsg.dropLast) :=
      h.result.congr hsame.result
    have hcut := hfull.cut (show (UInt32.ofNat closedMsg.length - 1).toNat = _ from rfl)
    obtain ⟨id, d', hid, hcases⟩ := closedConnId_cut hcut (hsame.multipleConections.trans h.multiple)
    rcases hcases with ⟨rfl, rfl, hno⟩ | ⟨hlow, hhigh, rfl, hresult⟩
    · have hasync : isAsyncMessages d 10 = .ok (true, { AtDesc.setResultLen { d with asyncIdx := idxs }
          (d.result.len - (UInt32.ofNat closedMsg.length - 1)) with asyncIdx := [0, 0, 0] }) := by
        unfold isAsyncMessages
        rw [hsame.asyncIdx]
        simp only [hmatch, checkConnId, hid]
        rfl
      rw [h.receive_async hpay hlt hasync]
      refine ⟨_, rfl, fun _ => ⟨acc, [], ⟨?_, h.cbs, ?_, hcut.congr rfl, ?_⟩, List.nil_suffix, rfl, rfl,
        .inl ⟨rfl, hno⟩⟩⟩
      · apply h.listening.next
        · exact hsame.callbackOperation.trans h.listening.operation
        · intro i r hr
          exact h.listening.buffers.refs i r (hsame.conn ▸ hr)
      · exact hsame.multipleConections.trans h.multiple
      · exact .cons (.nil _) (.cons (.nil _) (.cons (.nil _) .nil))
    · obtain ⟨i, hi, -⟩ := connIndex_of_le hlow hhigh
      obtain ⟨d', hasync, hd⟩ : ∃ d', isAsyncMessages d 10 = .ok (false, d') ∧
          d' = { AtDesc.setConn (AtDesc.setResultLen { d with asyncIdx := idxs }
            (d.result.len - (UInt32.ofNat closedMsg.length - 1) - 2)) i
            { d.conn i with active := false, cbuff := none } with currentConn := id } := by
        refine ⟨_, ?_, rfl⟩
        unfold isAsyncMessages
        rw [hsame.asyncIdx]
        simp only [hmatch, checkConnId, hid, hlow, hhigh, and_self, if_true, hi]
        rfl
      have hresult' : d'.ResultIs (acc.take (acc.length - 2)) := hresult.congr (by rw [hd]; rfl)
      have hspace : (acc.take (acc.length - 2)).length < RESULT_BUFF_LEN := by
        rw [List.length_append] at hlt
        rw [List.length_take]
        lia
      obtain ⟨result, happ, hresult''⟩ := hresult'.append hspace 10
      rw [h.receive_async hpay hlt hasync, happ]
      subst hd
      refine ⟨_, rfl, fun _ => ⟨_, closedMsg, ⟨?_, h.cbs, ?_, hresult'', ?_⟩, List.suffix_refl _, rfl, rfl,
        .inr rfl⟩⟩
      · apply h.listening.next
        · exact hsame.callbackOperation.trans h.listening.operation
        · intro j r hr
          simp only [AtDesc.setConn, AtDesc.setResultLen] at hr
          by_cases hj : j = i
          · subst hj
            rw [Function.update_self] at hr
            simp at hr
          · rw [Function.update_of_ne hj, hsame.conn] at hr
            exact h.listening.buffers.refs j r hr
      · exact hsame.multipleConections.trans h.multiple
      · exact hclosed
  · obtain ⟨s', hs', hover⟩ := h.listening.receive_full newCb h.result hpay hfull
    exact ⟨s', hs', fun hno => absurd hno hover⟩

lemma not_suffix_of_suffix {msg' : List UInt8} (h : msg <:+ seen) (hno : ¬msg' <:+ msg)
    (hno' : ¬msg <:+ msg') : ¬msg' <:+ seen := by
  intro h'
  rcases List.suffix_or_suffix_of_suffix h' h with hs | hs
  · exact hno hs
  · exact hno' hs

/-- The last byte of a WIFI message is dropped, and nothing else. -/
lemma AtSystem.Holds.receive_wifi (h : s.Holds n acc seen) (newCb : Option CbRef)
    (hpay : isPayloadMessage { s.desc with readCh := 10 } 10 = .ok (false, d))
    (hmsg : msg = wifiDisconnectMsg ∨ msg = wifiGotIpMsg) (hseen : msg <:+ seen ++ [10]) :
    ∃ s', uartReceive s 10 newCb = .ok s' ∧ (s'.NoOverflow → s'.Holds n acc [] ∧
      s'.desc.ipdIdx = d.ipdIdx ∧ s'.desc.ipdLen = d.ipdLen) := by
  have hsame := isPayloadMessage_false hpay
  rcases Nat.lt_or_eq_of_le h.result.le with hlt | hfull
  · obtain ⟨idxs, hmatch, -⟩ := @matchFirst_tracks _ 10 _ _ asyncMsgs_spec h.async
      fun hc => absurd hc (by decide)
    obtain ⟨b, hasync⟩ : ∃ b, isAsyncMessages d 10 =
        .ok (true, { d with isWifiConnected := b, asyncIdx := [0, 0, 0] }) := by
      unfold isAsyncMessages
      rw [hsame.asyncIdx]
      simp only [hmatch]
      rcases hmsg with rfl | rfl
      · have hfind : (asyncMsgs.findIdx? fun msg => decide (msg <:+ seen ++ [10])) = some 1 := by
          unfold asyncMsgs
          rw [List.findIdx?_cons, List.findIdx?_cons, decide_eq_true hseen,
            decide_eq_false (not_suffix_of_suffix hseen (by decide) (by decide))]
          rfl
        rw [hfind]
        exact ⟨_, rfl⟩
      · have hfind : (asyncMsgs.findIdx? fun msg => decide (msg <:+ seen ++ [10])) = some 2 := by
          unfold asyncMsgs
          rw [List.findIdx?_cons, List.findIdx?_cons, List.findIdx?_cons, decide_eq_true hseen,
            decide_eq_false (not_suffix_of_suffix hseen (by decide) (by decide)),
            decide_eq_false (not_suffix_of_suffix hseen (by decide) (by decide))]
          rfl
        rw [hfind]
        exact ⟨_, rfl⟩
    rw [h.receive_async hpay hlt hasync]
    refine ⟨_, rfl, fun _ => ⟨⟨?_, h.cbs, ?_, h.result.congr hsame.result, ?_⟩, rfl, rfl⟩⟩
    · apply h.listening.next
      · exact hsame.callbackOperation.trans h.listening.operation
      · intro i r hr
        exact h.listening.buffers.refs i r (hsame.conn ▸ hr)
    · exact hsame.multipleConections.trans h.multiple
    · exact .cons (.nil _) (.cons (.nil _) (.cons (.nil _) .nil))
  · obtain ⟨s', hs', hover⟩ := h.listening.receive_full newCb h.result hpay hfull
    exact ⟨s', hs', fun hno => absurd hno hover⟩

/-- Before a header, the matcher of its start has seen `vis`. -/
structure AtDesc.Seeks (desc : AtDesc) (vis : List UInt8) : Prop where
  idx : desc.ipdIdx < 7
  tracks : Tracks atIpd desc.ipdIdx.toNat vis
  len : desc.ipdLen = 0

lemma AtDesc.Seeks.byte (h : desc.Seeks vis) (hmul : desc.multipleConections = true) (ch : UInt8) :
    ∃ d, isPayloadMessage desc ch = .ok (false, d) ∧ (¬atIpd <:+ vis ++ [ch] → d.Seeks (vis ++ [ch])) ∧
      (atIpd <:+ vis ++ [ch] → d.ipdIdx = 7 ∧ d.ipdStat = .raedingConn ∧ d.ipdLen = 0) := by
  have hlt : desc.ipdIdx.toNat < atIpd.length := UInt8.lt_iff_toNat_lt.mp h.idx
  obtain ⟨idx, hmatch, htrack⟩ := @matchMessage_tracks _ _ _ ch (HeadUnique.restartable (by decide) h.tracks.le) (by decide)
    (by decide) h.tracks
    fun _ hc => absurd (h.tracks.eq_length_iff.mpr hc) (Nat.ne_of_lt hlt)
  unfold isPayloadMessage
  rw [if_pos h.idx, hmatch]
  by_cases hhit : atIpd <:+ vis ++ [ch]
  · simp only [hhit, decide_true, hmul, if_true]
    refine ⟨_, rfl, fun hno => absurd trivial hno, fun _ => ⟨?_, rfl, h.len⟩⟩
    exact UInt8.toNat_inj.mp (htrack.eq_length_iff.mpr hhit)
  · simp only [hhit, decide_false]
    refine ⟨_, rfl, fun _ => ⟨?_, htrack, h.len⟩, fun hc => hc.elim⟩
    have hle := htrack.le
    have hne : idx.toNat ≠ atIpd.length := fun hc => hhit (htrack.eq_length_iff.mp hc)
    exact UInt8.lt_iff_toNat_lt.mpr (Nat.lt_of_le_of_ne hle hne)

end NoOS
