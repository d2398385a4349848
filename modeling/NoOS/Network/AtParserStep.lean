import NoOS.Network.AtParser

/-!
# What the functions of the AT parser can do

Inversion lemmas for the matchers and for the two checks that a byte of a response goes
through: which faults are possible, and which parts of the descriptor change.
-/

namespace NoOS

/-- The byte that the next interrupt takes for a byte of a response, if any. -/
def AtSystem.interprets (s : AtSystem) (ch : UInt8) : Option UInt8 :=
  if s.uartLen = 1 ∧ (s.desc.callbackOperation = .readingResponses ∨
      s.desc.callbackOperation = .waitingSend) then
    some (if s.uartDst = .readCh then ch else s.desc.readCh)
  else none

variable {msg : List UInt8} {idx ch : UInt8} {desc desc' : AtDesc} {hit : Bool} {s s' : AtSystem}

/-- A matcher goes on, starts again at the first byte, or starts again. -/
lemma matchMessage_ok {idx' : UInt8} (h : matchMessage msg idx ch = .ok (hit, idx')) :
    (msg ++ [0])[idx.toNat]? = some ch ∧ idx' = idx + 1 ∧ hit = decide (idx'.toNat = msg.length) ∨
      (msg ++ [0])[idx.toNat]? ≠ some ch ∧ hit = false ∧
        (msg.head? = some ch ∧ idx' = 1 ∨ msg.head? ≠ some ch ∧ idx' = 0) := by
  unfold matchMessage at h
  split at h
  · simp at h
  · rename_i c hc
    by_cases hch : ch = c
    · subst hch
      simp only [if_true, Except.ok.injEq, Prod.mk.injEq] at h
      obtain ⟨rfl, rfl⟩ := h
      exact .inl ⟨hc, rfl, rfl⟩
    · right
      refine ⟨by simpa [hc] using Ne.symm hch, ?_⟩
      simp only [hch, if_false] at h
      split at h
      · rename_i hhead
        simp only [Except.ok.injEq, Prod.mk.injEq] at h
        exact ⟨h.1.symm, .inl ⟨hhead, h.2.symm⟩⟩
      · rename_i hhead
        simp only [Except.ok.injEq, Prod.mk.injEq] at h
        exact ⟨h.1.symm, .inr ⟨hhead, h.2.symm⟩⟩

lemma matchMessage_error {f : AtFault} (h : matchMessage msg idx ch = .error f) :
    f = .messageIndex ∧ msg.length < idx.toNat := by
  unfold matchMessage at h
  split at h
  · rename_i hnone
    simp only [List.getElem?_eq_none_iff, List.length_append, List.length_singleton] at hnone
    simp only [Except.error.injEq] at h
    exact ⟨h.symm, by omega⟩
  · split at h
    · simp at h
    · split at h
      · simp at h
      · simp at h

lemma matchMessage_hit {idx' : UInt8} (h : matchMessage msg idx ch = .ok (true, idx')) :
    (msg ++ [0])[idx.toNat]? = some ch ∧ idx' = idx + 1 ∧ idx'.toNat = msg.length := by
  rcases matchMessage_ok h with ⟨hch, hidx, hhit⟩ | ⟨-, hhit, -⟩
  · exact ⟨hch, hidx, of_decide_eq_true hhit.symm⟩
  · simp at hhit

lemma matchMessage_miss {idx' : UInt8} (h : matchMessage msg idx ch = .ok (false, idx'))
    (hidx : idx.toNat < msg.length) (hone : 1 < msg.length) (hlen : msg.length < 256) :
    idx'.toNat < msg.length ∧ idx'.toNat ≤ idx.toNat + 1 := by
  rcases matchMessage_ok h with ⟨-, rfl, hhit⟩ | ⟨-, -, ⟨-, rfl⟩ | ⟨-, rfl⟩⟩
  · have hne : (idx + 1).toNat ≠ msg.length := of_decide_eq_false hhit.symm
    rw [UInt8.toNat_add] at hne ⊢
    simp only [UInt8.toNat_one] at hne ⊢
    lia
  · simp only [UInt8.toNat_one]
    omega
  · simp only [UInt8.toNat_zero]
    omega

lemma matchFirst_error {msgs : List (List UInt8)} {idxs : List UInt8} {f : AtFault}
    (h : matchFirst msgs idxs ch = .error f) : f = .messageIndex := by
  induction msgs generalizing idxs with
  | nil => simp [matchFirst] at h
  | cons msg msgs ih =>
    cases idxs with
    | nil => simp [matchFirst] at h
    | cons idx idxs =>
      simp only [matchFirst] at h
      split at h
      · rename_i hm
        simp only [Except.error.injEq] at h
        exact h ▸ (matchMessage_error hm).1
      · simp at h
      · split at h
        · rename_i hrest
          simp only [Except.error.injEq] at h
          subst h
          exact ih hrest
        · simp at h

lemma matchFirst_zero {msgs : List (List UInt8)} {idxs idxs' : List UInt8}
    (h : matchFirst (msg :: msgs) idxs ch = .ok (some 0, idxs')) :
    ∃ idx idx' rest, idxs = idx :: rest ∧ idxs' = idx' :: rest ∧
      matchMessage msg idx ch = .ok (true, idx') := by
  cases idxs with
  | nil => simp [matchFirst] at h
  | cons idx rest =>
    simp only [matchFirst] at h
    split at h
    · simp at h
    · rename_i idx' hm
      simp only [Except.ok.injEq, Prod.mk.injEq] at h
      exact ⟨idx, idx', rest, rfl, h.2.symm, hm⟩
    · split at h
      · simp at h
      · simp at h

lemma connIndex_of_le {id : Int} (h0 : 0 ≤ id) (h4 : id < 4) :
    ∃ i : Fin MAX_CONNECTIONS, connIndex id = .ok i ∧ (i.val : Int) = id := by
  refine ⟨⟨id.toNat, by unfold MAX_CONNECTIONS; lia⟩, ?_, ?_⟩
  · rw [connIndex, dif_pos ⟨h0, h4⟩]
  · exact Int.toNat_of_nonneg h0

lemma connIndex_error {id : Int} {f : AtFault} (h : connIndex id = .error f) : f = .connIndex := by
  unfold connIndex at h
  split at h
  · simp at h
  · simpa using h.symm

/-- The parts of the descriptor that `is_payload_message` does not touch. -/
structure AtDesc.SameBesideIpd (desc desc' : AtDesc) : Prop where
  callbackOperation : desc'.callbackOperation = desc.callbackOperation
  multipleConections : desc'.multipleConections = desc.multipleConections
  readyIdx : desc'.readyIdx = desc.readyIdx
  asyncIdx : desc'.asyncIdx = desc.asyncIdx
  respIdx : desc'.respIdx = desc.respIdx
  errors : desc'.errors = desc.errors
  readCh : desc'.readCh = desc.readCh
  buff : desc'.result.buff = desc.result.buff

lemma isPayloadMessage_same (h : isPayloadMessage desc ch = .ok (hit, desc')) : desc.SameBesideIpd desc' := by
  have hret : ∀ {hit' d}, Except.ok (ε := AtFault) (hit', d) = .ok (hit, desc') → desc.SameBesideIpd d →
      desc.SameBesideIpd desc' := by
    intro hit' d h hd
    obtain ⟨-, rfl⟩ := Prod.mk.inj (Except.ok.inj h)
    exact hd
  have hreset : desc.SameBesideIpd desc.resetIpd := ⟨rfl, rfl, rfl, rfl, rfl, rfl, rfl, rfl⟩
  unfold isPayloadMessage at h
  split at h
  · split at h
    · cases h
    · exact hret h ⟨rfl, rfl, rfl, rfl, rfl, rfl, rfl, rfl⟩
    · exact hret h ⟨rfl, rfl, rfl, rfl, rfl, rfl, rfl, rfl⟩
  · split at h
    · split at h
      · exact hret h hreset
      · exact hret h ⟨rfl, rfl, rfl, rfl, rfl, rfl, rfl, rfl⟩
    · split at h
      · exact hret h hreset
      · exact hret h ⟨rfl, rfl, rfl, rfl, rfl, rfl, rfl, rfl⟩
    · split at h
      · split at h
        · split at h
          · cases h
          · exact hret h ⟨rfl, rfl, rfl, rfl, rfl, rfl, rfl, rfl⟩
        · exact hret h hreset
      · exact hret h ⟨rfl, rfl, rfl, rfl, rfl, rfl, rfl, rfl⟩
    · exact hret h hreset

/-- The parts of the descriptor that `is_async_messages` does not touch. -/
structure AtDesc.SameIpd (desc desc' : AtDesc) : Prop where
  ipdIdx : desc'.ipdIdx = desc.ipdIdx
  ipdStat : desc'.ipdStat = desc.ipdStat
  ipdLen : desc'.ipdLen = desc.ipdLen
  callbackOperation : desc'.callbackOperation = desc.callbackOperation
  multipleConections : desc'.multipleConections = desc.multipleConections
  readyIdx : desc'.readyIdx = desc.readyIdx
  respIdx : desc'.respIdx = desc.respIdx
  errors : desc'.errors = desc.errors
  readCh : desc'.readCh = desc.readCh
  buff : desc'.result.buff = desc.result.buff
  currentConn : desc'.currentConn = desc.currentConn ∨ 0 ≤ desc'.currentConn ∧ desc'.currentConn < 4

lemma AtDesc.SameIpd.refl (desc : AtDesc) : desc.SameIpd desc :=
  ⟨rfl, rfl, rfl, rfl, rfl, rfl, rfl, rfl, rfl, rfl, .inl rfl⟩

lemma closedConnId_ok {id : Int} (h : closedConnId desc = .ok (id, desc')) :
    desc' = desc ∨ desc' = desc.setResultLen (desc.result.len - 2) ∧ 0 ≤ id ∧ id < 4 ∧
      ¬(desc.result.len - 2).toInt32 < 0 := by
  unfold closedConnId at h
  split at h
  · simp only at h
    split at h
    · simp only [Except.ok.injEq, Prod.mk.injEq] at h
      exact .inl h.2.symm
    · rename_i hj
      split at h
      · simp at h
      · rename_i c hc
        split at h
        · rename_i hdigit
          simp only [Except.ok.injEq, Prod.mk.injEq] at h
          obtain ⟨rfl, rfl⟩ := h
          rw [UInt8.le_iff_toNat_le, UInt8.le_iff_toNat_le] at hdigit
          refine .inr ⟨rfl, ?_, ?_, hj⟩
          · have := hdigit.1
            simp at this
            omega
          · have := hdigit.2
            simp at this
            omega
        · simp only [Except.ok.injEq, Prod.mk.injEq] at h
          exact .inl h.2.symm
  · simp only [Except.ok.injEq, Prod.mk.injEq] at h
    exact .inl h.2.symm

lemma closedConnId_error {f : AtFault} (h : closedConnId desc = .error f) : f = .resultIndex := by
  unfold closedConnId at h
  split at h
  · simp only at h
    split at h
    · simp at h
    · split at h
      · simpa using h.symm
      · split at h
        · simp at h
        · simp at h
  · simp at h

lemma checkConnId_sameIpd {i : ℕ} {r : Bool} (h : checkConnId desc msg i = .ok (r, desc')) :
    desc.SameIpd desc' := by
  unfold checkConnId at h
  simp only at h
  split at h
  · simp at h
  · rename_i id mid hid
    have hmid : (desc.setResultLen (desc.result.len - (UInt32.ofNat msg.length - 1))).SameIpd mid := by
      rcases closedConnId_ok hid with rfl | ⟨rfl, -⟩
      · exact .refl _
      · exact ⟨rfl, rfl, rfl, rfl, rfl, rfl, rfl, rfl, rfl, rfl, .inl rfl⟩
    split at h
    · rename_i hin
      split at h
      · simp at h
      · simp only [Except.ok.injEq, Prod.mk.injEq] at h
        obtain ⟨-, rfl⟩ := h
        exact ⟨hmid.ipdIdx, hmid.ipdStat, hmid.ipdLen, hmid.callbackOperation,
          hmid.multipleConections, hmid.readyIdx, hmid.respIdx, hmid.errors, hmid.readCh, hmid.buff,
          .inr hin⟩
    · simp only [Except.ok.injEq, Prod.mk.injEq] at h
      obtain ⟨-, rfl⟩ := h
      exact ⟨hmid.ipdIdx, hmid.ipdStat, hmid.ipdLen, hmid.callbackOperation,
        hmid.multipleConections, hmid.readyIdx, hmid.respIdx, hmid.errors, hmid.readCh, hmid.buff,
        hmid.currentConn⟩

lemma isAsyncMessages_sameIpd {r : Bool} (h : isAsyncMessages desc ch = .ok (r, desc')) :
    desc.SameIpd desc' := by
  unfold isAsyncMessages at h
  split at h
  · simp at h
  · simp only at h
    split at h
    · split at h
      · simp at h
      · rename_i mid hcheck
        have hmid := checkConnId_sameIpd hcheck
        simp only [Except.ok.injEq, Prod.mk.injEq] at h
        obtain ⟨-, rfl⟩ := h
        exact ⟨hmid.ipdIdx, hmid.ipdStat, hmid.ipdLen, hmid.callbackOperation,
          hmid.multipleConections, hmid.readyIdx, hmid.respIdx, hmid.errors, hmid.readCh, hmid.buff,
          hmid.currentConn⟩
      · rename_i mid hcheck
        have hmid := checkConnId_sameIpd hcheck
        simp only [Except.ok.injEq, Prod.mk.injEq] at h
        obtain ⟨-, rfl⟩ := h
        exact ⟨hmid.ipdIdx, hmid.ipdStat, hmid.ipdLen, hmid.callbackOperation,
          hmid.multipleConections, hmid.readyIdx, hmid.respIdx, hmid.errors, hmid.readCh, hmid.buff,
          hmid.currentConn⟩
    all_goals
      simp only [Except.ok.injEq, Prod.mk.injEq] at h
      obtain ⟨-, rfl⟩ := h
      exact ⟨rfl, rfl, rfl, rfl, rfl, rfl, rfl, rfl, rfl, rfl, .inl rfl⟩

lemma checkConnId_error {i : ℕ} {f : AtFault} (h : checkConnId desc msg i = .error f) :
    f = .resultIndex := by
  unfold checkConnId at h
  simp only at h
  split at h
  · rename_i hid
    simp only [Except.error.injEq] at h
    exact h ▸ closedConnId_error hid
  · split at h
    · rename_i hin
      obtain ⟨j, hj, -⟩ := connIndex_of_le hin.1 hin.2
      rw [hj] at h
      simp at h
    · simp at h

lemma isAsyncMessages_error {f : AtFault} (h : isAsyncMessages desc ch = .error f) :
    f = .messageIndex ∨ f = .resultIndex := by
  unfold isAsyncMessages at h
  split at h
  · rename_i hm
    simp only [Except.error.injEq] at h
    exact .inl (h ▸ matchFirst_error hm)
  · simp only at h
    split at h
    · split at h
      · rename_i hc
        simp only [Except.error.injEq] at h
        exact .inr (h ▸ checkConnId_error hc)
      · simp at h
      · simp at h
    all_goals simp at h

lemma AtDesc.append_ok (h : desc.append ch = .ok desc') :
    desc.result.len.toNat < 500 ∧ desc' = { desc with result := {
      buff := desc.result.buff.set desc.result.len.toNat ch
      len := desc.result.len + 1 } } := by
  unfold append at h
  split at h
  · rename_i hlt
    simp only [Except.ok.injEq] at h
    exact ⟨hlt, h.symm⟩
  · simp at h

lemma AtDesc.append_error {f : AtFault} (h : desc.append ch = .error f) : f = .resultIndex := by
  unfold append at h
  split at h
  · simp at h
  · simpa using h.symm

/-- A read for the current connection changes only its entry in the table. -/
lemma startConnRead_ok {isNew : Bool} {newCb : Option CbRef}
    (h : startConnRead s isNew newCb = .ok s') :
    ∃ i conn, connIndex s.desc.currentConn = .ok i ∧ s'.desc = s.desc.setConn i conn ∧
      s'.wait = s.wait := by
  unfold startConnRead at h
  split at h
  · simp at h
  · rename_i i hi
    simp only at h
    split at h
    · simp only [Except.ok.injEq] at h
      subst h
      exact ⟨i, _, hi, rfl, rfl⟩
    · split at h
      · simp at h
      · simp only [isErrValueU32_eq, Bool.false_eq_true, if_false] at h
        split at h
        · simp at h
        · simp only [Except.ok.injEq] at h
          subst h
          exact ⟨i, _, hi, rfl, rfl⟩

lemma startConnRead_error {isNew : Bool} {newCb : Option CbRef} {f : AtFault}
    (h : startConnRead s isNew newCb = .error f) :
    connIndex s.desc.currentConn = .error f ∨ f = .dangling ∨ f = .unset := by
  unfold startConnRead at h
  split at h
  · rename_i hi
    simp only [Except.error.injEq] at h
    exact .inl (h ▸ hi)
  · simp only at h
    split at h
    · simp at h
    · split at h
      · simp only [Except.error.injEq] at h
        exact .inr (.inl h.symm)
      · simp only [isErrValueU32_eq, Bool.false_eq_true, if_false] at h
        split at h
        · simp only [Except.error.injEq] at h
          exact .inr (.inr h.symm)
        · simp at h

lemma endConnRead_ok (h : endConnRead s = .ok s') :
    s'.desc = s.desc ∧ s'.wait = s.wait ∧ s'.uartDst = s.uartDst ∧ s'.uartLen = s.uartLen := by
  unfold endConnRead at h
  split at h
  · simp at h
  · split at h
    · simp only [Except.ok.injEq] at h
      subst h
      exact ⟨rfl, rfl, rfl, rfl⟩
    · split at h
      · simp at h
      · simp only [Except.ok.injEq] at h
        subst h
        exact ⟨rfl, rfl, rfl, rfl⟩

lemma endConnRead_error {f : AtFault} (h : endConnRead s = .error f) :
    connIndex s.desc.currentConn = .error f ∨ f = .dangling := by
  unfold endConnRead at h
  split at h
  · rename_i hi
    simp only [Except.error.injEq] at h
    exact .inl (h ▸ hi)
  · split at h
    · simp at h
    · split at h
      · simp only [Except.error.injEq] at h
        exact .inr h.symm
      · simp at h

lemma uartStore_desc (s : AtSystem) (ch : UInt8) :
    (uartStore s ch).desc =
      { s.desc with readCh := if s.uartDst = .readCh then ch else s.desc.readCh } := by
  unfold uartStore
  split
  · rename_i hd
    simp [hd]
  · rename_i hd
    simp [hd]

lemma uartStore_len (s : AtSystem) (ch : UInt8) : (uartStore s ch).uartLen = s.uartLen - 1 := by
  unfold uartStore
  split
  · rfl
  · rfl

lemma uartStore_wait (s : AtSystem) (ch : UInt8) : (uartStore s ch).wait = s.wait := by
  unfold uartStore
  split
  · rfl
  · rfl

lemma pollResponse_ok {w : WaitForResponse} (h : pollResponse s w = .ok s') :
    s' = s ∨ ∃ c hit idxs, w.i < s.desc.result.len ∧ matchFirst responses s.desc.respIdx c =
      .ok (hit, idxs) ∧ s' = { s with
        desc := { s.desc with respIdx := idxs }, wait := some ⟨w.i + 1, hit⟩ } := by
  unfold pollResponse at h
  split at h
  · rename_i hlt
    split at h
    · simp at h
    · rename_i c _
      split at h
      · simp at h
      · rename_i hit idxs hm
        simp only [Except.ok.injEq] at h
        exact .inr ⟨c, hit, idxs, hlt, hm, h.symm⟩
  · simp only [Except.ok.injEq] at h
    exact .inl h.symm

lemma pollResponse_error {w : WaitForResponse} {f : AtFault} (h : pollResponse s w = .error f) :
    f = .messageIndex ∨ f = .resultIndex ∧ w.i < s.desc.result.len ∧
      s.desc.result.buff.length ≤ w.i.toNat := by
  unfold pollResponse at h
  split at h
  · rename_i hlt
    split at h
    · rename_i hnone
      simp only [Except.error.injEq] at h
      exact .inr ⟨h.symm, hlt, List.getElem?_eq_none_iff.mp hnone⟩
    · split at h
      · rename_i hm
        simp only [Except.error.injEq] at h
        exact .inl (h ▸ matchFirst_error hm)
      · simp at h
  · simp at h

end NoOS
