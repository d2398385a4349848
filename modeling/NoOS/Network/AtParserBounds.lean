import NoOS.Lib.Trace
import NoOS.Network.AtParserStep
import NoOS.Lib.Word

/-!
# The bounds of the response buffer and of the matchers

The parser takes the bytes of a header, of a CLOSED message and of a response off the result
by their number, long after it has appended them. A monitor beside the parser remembers
whether some of them are gone by then; if not, the length never underflows.
-/

namespace NoOS
open Word

/-- The length of the result and the indices of the matchers, as far as they are used. -/
structure AtDesc.Bounded (desc : AtDesc) : Prop where
  buff : desc.result.buff.length = RESULT_BUFF_LEN
  len : desc.result.len.toNat ≤ RESULT_BUFF_LEN
  ready : desc.readyIdx.toNat ≤ readyMsg.length
  async : List.Forall₂ (fun msg idx => idx.toNat ≤ msg.length) asyncMsgs desc.asyncIdx
  resp : List.Forall₂ (fun msg idx => idx.toNat ≤ msg.length) responses desc.respIdx

def AtFault.OutOfBounds (f : AtFault) : Prop := f = .messageIndex ∨ f = .resultIndex

/-- The parser, and whether a byte counted by `ipd_idx` or by `async_idx[0]` is not in the
result any more. -/
structure AtMonitor where
  sys : AtSystem := {}
  ipdLost : Bool := false
  closedLost : Bool := false
deriving DecidableEq

/-- A step that appends a byte keeps what is counted, and a matcher that starts again counts
that byte only; another change of the result or of the index loses what is counted. -/
def lost (len len' : UInt32) (idx idx' : UInt8) (old : Bool) : Bool :=
  if len' = len ∧ idx' = idx then old
  else if len' = len + 1 then old && decide (1 < idx')
  else decide (0 < idx')

def AtDesc.closedIdx (desc : AtDesc) : UInt8 := desc.asyncIdx.getD 0 0

def AtMonitor.next (m : AtMonitor) (sys : AtSystem) : AtMonitor where
  sys := sys
  ipdLost := lost m.sys.desc.result.len sys.desc.result.len m.sys.desc.ipdIdx sys.desc.ipdIdx m.ipdLost
  closedLost := lost m.sys.desc.result.len sys.desc.result.len m.sys.desc.closedIdx sys.desc.closedIdx
    m.closedLost

def AtMonitor.step (m : AtMonitor) (e : AtEvent) : Except AtFault AtMonitor :=
  (m.sys.step e).map m.next

/-- The byte ends a payload header. -/
def AtDesc.EndsHeader (desc : AtDesc) (ch : UInt8) : Prop :=
  ¬desc.ipdIdx < 7 ∧ desc.ipdStat = .readingLen ∧ ch = 58 ∧ desc.ipdLen > 0

instance (desc : AtDesc) (ch : UInt8) : Decidable (desc.EndsHeader ch) :=
  inferInstanceAs (Decidable (_ ∧ _))

/-- No counted byte is lost when a header or a CLOSED message ends, and a NUL does not come
while a matcher stands at the end of its message. -/
def AtMonitor.Accepts (m : AtMonitor) (ch : UInt8) : Prop :=
  (m.sys.desc.EndsHeader ch → m.ipdLost = false) ∧
    (m.sys.desc.result.len.toNat < RESULT_BUFF_LEN →
      (m.sys.desc.closedIdx = 7 ∧ ch = 10 → m.closedLost = false) ∧
        (ch = 0 → List.Forall₂ (fun msg idx => idx.toNat < msg.length) asyncMsgs m.sys.desc.asyncIdx))

instance (m : AtMonitor) (ch : UInt8) : Decidable (m.Accepts ch) :=
  inferInstanceAs (Decidable (_ ∧ _))

/-- The byte that the next interrupt matches with the ready message, if any. -/
def AtSystem.resets (s : AtSystem) (ch : UInt8) : Option UInt8 :=
  if s.uartLen = 1 ∧ s.desc.callbackOperation = .resettingModule then
    some (if s.uartDst = .readCh then ch else s.desc.readCh)
  else none

/-- Moreover a matched response is still in the result when it is cut off. -/
def AtMonitor.Allowed (m : AtMonitor) : AtEvent → Prop
  | .receive ch _ =>
    ((m.sys.interprets ch).all fun c => m.Accepts c) ∧
      (m.sys.resets ch = some 0 → m.sys.desc.readyIdx.toNat < readyMsg.length)
  | .endWait => m.sys.wait.all fun w => w.hit.isNone ∨ w.i ≤ m.sys.desc.result.len
  | _ => True

instance (m : AtMonitor) : (e : AtEvent) → Decidable (m.Allowed e)
  | .receive _ _ => inferInstanceAs (Decidable (_ ∧ _))
  | .endWait => inferInstanceAs (Decidable (_ = true))
  | .uartError | .setMultiple _ | .resetModule | .resetDone | .waitSend | .clearResult
  | .clearErrors | .startWait | .pollWait => .isTrue trivial

variable {msg : List UInt8} {idx ch : UInt8} {desc desc' : AtDesc} {s s' : AtSystem}
  {newCb : Option CbRef}

/-- What the monitor does not report as lost is still counted by the length. -/
lemma lost_sound {len len' : UInt32} {idx idx' : UInt8} {old : Bool}
    (hold : old = false → idx.toNat ≤ len.toNat) (hlen : len.toNat ≤ RESULT_BUFF_LEN)
    (hidx : idx'.toNat ≤ idx.toNat + 1) (h : lost len len' idx idx' old = false) :
    idx'.toNat ≤ len'.toNat := by
  unfold lost at h
  unfold RESULT_BUFF_LEN at hlen
  split at h
  · rename_i hsame
    rw [hsame.1, hsame.2]
    exact hold h
  · split at h
    · rename_i hnext
      have hlen' : len'.toNat = len.toNat + 1 := by
        rw [hnext, UInt32.toNat_add, UInt32.toNat_one]
        lia
      rw [hlen']
      cases old with
      | false =>
        have := hold rfl
        lia
      | true =>
        have hone : ¬1 < idx' := by simpa using h
        rw [UInt8.lt_iff_toNat_lt, UInt8.toNat_one] at hone
        lia
    · have hzero : ¬0 < idx' := by simpa using h
      rw [UInt8.lt_iff_toNat_lt, UInt8.toNat_zero] at hzero
      lia

lemma matchMessage_bounds (hidx : idx.toNat ≤ msg.length) (hone : 1 < msg.length)
    (hlen : msg.length < 255) (hnul : ch = 0 → idx.toNat < msg.length) :
    Trace.Unless (fun _ => False)
      (fun r => r.2.toNat ≤ msg.length ∧ r.2.toNat ≤ idx.toNat + 1 ∧
        (r.1 = false → r.2.toNat < msg.length)) (matchMessage msg idx ch) := by
  cases hm : matchMessage msg idx ch with
  | error f =>
    have := (matchMessage_error hm).2
    exact absurd this (by omega)
  | ok r =>
    obtain ⟨hit, idx'⟩ := r
    rcases matchMessage_ok hm with ⟨hch, rfl, hhit⟩ | ⟨-, hhit, ⟨-, rfl⟩ | ⟨-, rfl⟩⟩
    · have hlt : idx.toNat < msg.length := by
        by_contra hge
        have hidx' : idx.toNat = msg.length := by lia
        rw [hidx'] at hch
        exact absurd (hnul (by simpa using hch.symm)) (by omega)
      have hsucc : (idx + 1).toNat = idx.toNat + 1 := by
        rw [UInt8.toNat_add, UInt8.toNat_one]
        lia
      simp only [Trace.Unless]
      refine ⟨by lia, by lia, fun hmiss => ?_⟩
      have hne : (idx + 1).toNat ≠ msg.length := by
        simpa using hhit.symm.trans hmiss
      lia
    · simp only [Trace.Unless, UInt8.toNat_one]
      lia
    · simp only [Trace.Unless, UInt8.toNat_zero]
      lia

lemma matchFirst_bounds {msgs : List (List UInt8)} {idxs : List UInt8}
    (hidxs : List.Forall₂ (fun msg idx => idx.toNat ≤ msg.length) msgs idxs)
    (hlen : ∀ msg ∈ msgs, 1 < msg.length ∧ msg.length < 255)
    (hnul : ch = 0 → List.Forall₂ (fun msg idx => idx.toNat < msg.length) msgs idxs) :
    Trace.Unless (fun _ => False)
      (fun r => List.Forall₂ (fun msg idx => idx.toNat ≤ msg.length) msgs r.2 ∧
        List.Forall₂ (fun idx idx' => idx'.toNat ≤ idx.toNat + 1) idxs r.2 ∧
        (r.1 = none → List.Forall₂ (fun msg idx => idx.toNat < msg.length) msgs r.2))
      (matchFirst msgs idxs ch) := by
  induction hidxs with
  | nil => exact ⟨.nil, .nil, fun _ => .nil⟩
  | @cons msg idx msgs idxs hidx hrest ih =>
    have hmsg := hlen msg (by simp)
    have hm := matchMessage_bounds hidx hmsg.1 hmsg.2 fun h => (List.forall₂_cons.mp (hnul h)).1
    have hms := ih (fun msg hmem => hlen msg (by simp [hmem]))
      fun h => (List.forall₂_cons.mp (hnul h)).2
    simp only [matchFirst]
    cases hmatch : matchMessage msg idx ch with
    | error f =>
      rw [hmatch] at hm
      exact hm.elim
    | ok r =>
      obtain ⟨hit, idx'⟩ := r
      rw [hmatch] at hm
      cases hit with
      | true =>
        -- the messages after the first match keep their indices
        have hsame : List.Forall₂ (fun idx idx' : UInt8 => idx'.toNat ≤ idx.toNat + 1) idxs idxs :=
          List.forall₂_same.mpr fun idx _ => Nat.le_succ _
        exact ⟨.cons hm.1 hrest, .cons hm.2.1 hsame, by simp⟩
      | false =>
        simp only
        cases hnext : matchFirst msgs idxs ch with
        | error f =>
          rw [hnext] at hms
          exact hms.elim
        | ok r =>
          obtain ⟨i, idxs'⟩ := r
          rw [hnext] at hms
          refine ⟨.cons hm.1 hms.1, .cons hm.2.1 hms.2.1, fun hnone => ?_⟩
          exact .cons (hm.2.2 rfl) (hms.2.2 (by simpa using hnone))

/-- A byte, as it is read, leaves the bounds and lets the matchers count at most one more. -/
structure AtDesc.Advances (desc desc' : AtDesc) : Prop where
  bounded : desc'.Bounded
  ipdIdx : desc'.ipdIdx.toNat ≤ desc.ipdIdx.toNat + 1
  closedIdx : desc'.closedIdx.toNat ≤ desc.closedIdx.toNat + 1
  respIdx : desc'.respIdx = desc.respIdx

/-- The bytes counted by the matchers are there when they are taken off the result. -/
structure AtDesc.Takes (desc : AtDesc) (ch : UInt8) : Prop where
  header : desc.EndsHeader ch → desc.ipdIdx.toNat ≤ desc.result.len.toNat
  closed : desc.result.len.toNat < RESULT_BUFF_LEN → desc.closedIdx = 7 → ch = 10 →
    7 ≤ desc.result.len.toNat
  nul : desc.result.len.toNat < RESULT_BUFF_LEN → ch = 0 →
    List.Forall₂ (fun msg idx => idx.toNat < msg.length) asyncMsgs desc.asyncIdx

lemma AtDesc.Bounded.advances (h : desc.Bounded) : desc.Advances desc :=
  ⟨h, Nat.le_succ _, Nat.le_succ _, rfl⟩

lemma UInt8.toNat_succ_le (idx : UInt8) : (idx + 1).toNat ≤ idx.toNat + 1 := by
  rw [UInt8.toNat_add, UInt8.toNat_one]
  exact Nat.mod_le _ _

lemma isPayloadMessage_bounds (h : desc.Bounded)
    (hheader : desc.EndsHeader ch → desc.ipdIdx.toNat ≤ desc.result.len.toNat) :
    Trace.Unless (fun f => ¬f.OutOfBounds)
      (fun r => desc.Advances r.2 ∧ (r.1 = false → r.2.result = desc.result ∧
        r.2.asyncIdx = desc.asyncIdx ∧ r.2.readCh = desc.readCh)) (isPayloadMessage desc ch) := by
  have hreset : desc.Advances desc.resetIpd :=
    ⟨⟨h.buff, h.len, h.ready, h.async, h.resp⟩, Nat.zero_le _, Nat.le_succ _, rfl⟩
  unfold isPayloadMessage
  split
  · rename_i hidx
    have hlt : desc.ipdIdx.toNat < atIpd.length := UInt8.lt_iff_toNat_lt.mp hidx
    have hm := matchMessage_bounds hlt.le (by decide) (by decide) fun _ : ch = 0 => hlt
    cases hmatch : matchMessage atIpd desc.ipdIdx ch with
    | error f =>
      rw [hmatch] at hm
      exact hm.elim
    | ok r =>
      obtain ⟨hit, idx⟩ := r
      rw [hmatch] at hm
      cases hit with
      | true =>
        exact ⟨⟨⟨h.buff, h.len, h.ready, h.async, h.resp⟩, hm.2.1, Nat.le_succ _, rfl⟩,
          fun _ => ⟨rfl, rfl, rfl⟩⟩
      | false =>
        exact ⟨⟨⟨h.buff, h.len, h.ready, h.async, h.resp⟩, hm.2.1, Nat.le_succ _, rfl⟩,
          fun _ => ⟨rfl, rfl, rfl⟩⟩
  · rename_i hidx
    have hsucc := UInt8.toNat_succ_le desc.ipdIdx
    split
    · split
      · exact ⟨hreset, fun _ => ⟨rfl, rfl, rfl⟩⟩
      · exact ⟨⟨⟨h.buff, h.len, h.ready, h.async, h.resp⟩, hsucc, Nat.le_succ _, rfl⟩,
          fun _ => ⟨rfl, rfl, rfl⟩⟩
    · split
      · exact ⟨hreset, fun _ => ⟨rfl, rfl, rfl⟩⟩
      · exact ⟨⟨⟨h.buff, h.len, h.ready, h.async, h.resp⟩, hsucc, Nat.le_succ _, rfl⟩,
          fun _ => ⟨rfl, rfl, rfl⟩⟩
    · rename_i hstat
      split
      · split
        · rename_i hend
          split
          · rename_i f hf
            rw [connIndex_error hf]
            simp [Trace.Unless, AtFault.OutOfBounds]
          · have hle := hheader ⟨hidx, hstat, hend⟩
            have hlen := h.len
            have hsub : (desc.result.len - desc.ipdIdx.toUInt32).toNat ≤ RESULT_BUFF_LEN := by
              rw [toNat_sub_of_le (by simpa using hle)]
              lia
            exact ⟨⟨⟨h.buff, hsub, h.ready, h.async, h.resp⟩, Nat.zero_le _, Nat.le_succ _, rfl⟩,
              by simp⟩
        · exact ⟨hreset, fun _ => ⟨rfl, rfl, rfl⟩⟩
      · exact ⟨⟨⟨h.buff, h.len, h.ready, h.async, h.resp⟩, hsucc, Nat.le_succ _, rfl⟩,
          fun _ => ⟨rfl, rfl, rfl⟩⟩
    · exact ⟨hreset, fun _ => ⟨rfl, rfl, rfl⟩⟩

/-- The id in front of a CLOSED message is looked up inside of the result. -/
lemma closedConnId_bounds (hbuff : desc.result.buff.length = RESULT_BUFF_LEN)
    (hlen : desc.result.len.toNat ≤ RESULT_BUFF_LEN) :
    Trace.Unless (fun _ => False) (fun r => r.2.result.len.toNat ≤ desc.result.len.toNat)
      (closedConnId desc) := by
  have hsub (hj : ¬(desc.result.len - 2).toInt32 < 0) :
      2 ≤ desc.result.len.toNat ∧ (desc.result.len - 2).toNat = desc.result.len.toNat - 2 := by
    unfold RESULT_BUFF_LEN at hlen
    rw [sub_toInt32_neg (by omega) (by decide)] at hj
    exact ⟨Nat.le_of_not_lt hj, toNat_sub_of_le (Nat.le_of_not_lt hj)⟩
  cases hid : closedConnId desc with
  | error f =>
    unfold closedConnId at hid
    split at hid
    · simp only at hid
      split at hid
      · simp at hid
      · rename_i hj
        split at hid
        · rename_i hnone
          have hlow := List.getElem?_eq_none_iff.mp hnone
          rw [hbuff, (hsub hj).2] at hlow
          exact absurd hlow (by have := (hsub hj).1; lia)
        · split at hid
          · simp at hid
          · simp at hid
    · simp at hid
  | ok r =>
    obtain ⟨id, desc'⟩ := r
    rcases closedConnId_ok hid with rfl | ⟨rfl, -, -, hj⟩
    · exact Nat.le_refl _
    · simp only [Trace.Unless, AtDesc.setResultLen, (hsub hj).2]
      lia

lemma checkConnId_bounds (hbuff : desc.result.buff.length = RESULT_BUFF_LEN)
    (hlen : desc.result.len.toNat ≤ RESULT_BUFF_LEN) (hle : 7 ≤ desc.result.len.toNat) :
    Trace.Unless (fun _ => False)
      (fun r => r.2.result.len.toNat ≤ desc.result.len.toNat ∧
        (r.1 = true → r.2.asyncIdx = desc.asyncIdx)) (checkConnId desc closedMsg 0) := by
  have hcut : (desc.result.len - (UInt32.ofNat closedMsg.length - 1)).toNat =
      desc.result.len.toNat - 7 :=
    toNat_sub_of_le (by exact hle)
  have hid := @closedConnId_bounds
    (desc.setResultLen (desc.result.len - (UInt32.ofNat closedMsg.length - 1))) hbuff
    (by simp only [AtDesc.setResultLen, hcut]; lia)
  unfold checkConnId
  simp only
  cases hc : closedConnId
      (desc.setResultLen (desc.result.len - (UInt32.ofNat closedMsg.length - 1))) with
  | error f =>
    rw [hc] at hid
    exact hid.elim
  | ok r =>
    obtain ⟨id, mid⟩ := r
    rw [hc] at hid
    have hmid : mid.result.len.toNat ≤ desc.result.len.toNat := by
      apply Nat.le_trans hid
      simp only [AtDesc.setResultLen, hcut]
      lia
    simp only
    split
    · rename_i hin
      obtain ⟨i, hi, -⟩ := connIndex_of_le hin.1 hin.2
      rw [hi]
      refine ⟨hmid, fun _ => ?_⟩
      rcases closedConnId_ok hc with rfl | ⟨rfl, -⟩
      · rfl
      · rfl
    · exact ⟨hmid, by simp⟩

/-- The byte that ends a CLOSED message, and the place of its matcher in front of it. -/
lemma closed_hit {idxs : List UInt8} (h : matchFirst asyncMsgs desc.asyncIdx ch = .ok (some 0, idxs)) :
    desc.closedIdx = 7 ∧ ch = 10 := by
  obtain ⟨idx, idx', rest, hidx, -, hhit⟩ := matchFirst_zero h
  obtain ⟨hch, hnext, hlast⟩ := matchMessage_hit hhit
  have hseven : idx.toNat = 7 := by
    have hsum := UInt8.toNat_add idx 1
    rw [← hnext, UInt8.toNat_one, show idx'.toNat = 8 from hlast] at hsum
    have := idx.toNat_lt
    lia
  constructor
  · unfold AtDesc.closedIdx
    rw [hidx, ← UInt8.toNat_inj]
    exact hseven
  · rw [hseven] at hch
    simpa [closedMsg] using hch.symm

/-- After a byte of the result, the matchers stand inside of their messages. -/
lemma isAsyncMessages_bounds (h : desc.Bounded) (hlt : desc.result.len.toNat < RESULT_BUFF_LEN)
    (hclosed : desc.closedIdx = 7 → ch = 10 → 7 ≤ desc.result.len.toNat)
    (hnul : ch = 0 → List.Forall₂ (fun msg idx => idx.toNat < msg.length) asyncMsgs desc.asyncIdx) :
    Trace.Unless (fun _ => False)
      (fun r => desc.Advances r.2 ∧ r.2.result.len.toNat < RESULT_BUFF_LEN)
      (isAsyncMessages desc ch) := by
  have hfirst := matchFirst_bounds h.async (by decide) hnul
  have hzero : List.Forall₂ (fun (msg : List UInt8) (idx : UInt8) => idx.toNat ≤ msg.length)
      asyncMsgs [0, 0, 0] := by
    unfold asyncMsgs
    simp
  unfold isAsyncMessages
  cases hm : matchFirst asyncMsgs desc.asyncIdx ch with
  | error f =>
    rw [hm] at hfirst
    exact hfirst.elim
  | ok r =>
    obtain ⟨i, idxs⟩ := r
    rw [hm] at hfirst
    obtain ⟨hbound, hsucc, -⟩ := hfirst
    have hclosedIdx : (idxs.getD 0 0).toNat ≤ desc.closedIdx.toNat + 1 := by
      unfold AtDesc.closedIdx
      generalize desc.asyncIdx = old at hsucc
      cases hsucc with
      | nil => exact Nat.zero_le _
      | cons hle _ => exact hle
    have hidxs : desc.Advances { desc with asyncIdx := idxs } :=
      ⟨⟨h.buff, h.len, h.ready, hbound, h.resp⟩, Nat.le_succ _, hclosedIdx, rfl⟩
    simp only
    split
    · -- CLOSED: seven bytes of it and its id are taken off
      obtain ⟨hidx7, hten⟩ := closed_hit hm
      have hcheck := @checkConnId_bounds { desc with asyncIdx := idxs } h.buff h.len
        (hclosed hidx7 hten)
      cases hc : checkConnId { desc with asyncIdx := idxs } closedMsg 0 with
      | error f =>
        rw [hc] at hcheck
        exact hcheck.elim
      | ok r =>
        obtain ⟨r, mid⟩ := r
        rw [hc] at hcheck
        have hmid := checkConnId_sameIpd hc
        have hlen : mid.result.len.toNat < RESULT_BUFF_LEN := Nat.lt_of_le_of_lt hcheck.1 hlt
        have hbuff : mid.result.buff.length = RESULT_BUFF_LEN := by
          rw [hmid.buff]
          exact h.buff
        have hready : mid.readyIdx.toNat ≤ readyMsg.length := by
          rw [hmid.readyIdx]
          exact h.ready
        have hresp : List.Forall₂ (fun msg idx => idx.toNat ≤ msg.length) responses mid.respIdx := by
          rw [hmid.respIdx]
          exact h.resp
        have hipd : mid.ipdIdx.toNat ≤ desc.ipdIdx.toNat + 1 := by
          rw [hmid.ipdIdx]
          exact Nat.le_succ _
        cases r with
        | true =>
          have hasync := hcheck.2 rfl
          refine ⟨⟨⟨hbuff, hlen.le, hready, ?_, hresp⟩, hipd, ?_, hmid.respIdx⟩, hlen⟩
          · rw [hasync]
            exact hbound
          · unfold AtDesc.closedIdx
            rw [hasync]
            exact hclosedIdx
        | false =>
          exact ⟨⟨⟨hbuff, hlen.le, hready, hzero, hresp⟩, hipd, Nat.zero_le _, hmid.respIdx⟩, hlen⟩
    · exact ⟨⟨⟨h.buff, h.len, h.ready, hzero, h.resp⟩, Nat.le_succ _, Nat.zero_le _, rfl⟩, hlt⟩
    · exact ⟨⟨⟨h.buff, h.len, h.ready, hzero, h.resp⟩, Nat.le_succ _, Nat.zero_le _, rfl⟩, hlt⟩
    · exact ⟨hidxs, hlt⟩

lemma AtDesc.Advances.setConn (h : desc.Advances desc') (i : Fin MAX_CONNECTIONS)
    (conn : ConnectionDesc) : desc.Advances (desc'.setConn i conn) :=
  ⟨⟨h.bounded.buff, h.bounded.len, h.bounded.ready, h.bounded.async, h.bounded.resp⟩,
    h.ipdIdx, h.closedIdx, h.respIdx⟩

lemma AtDesc.Advances.append (h : desc.Advances desc')
    (hlt : desc'.result.len.toNat < RESULT_BUFF_LEN) (ch : UInt8) :
    Trace.Unless (fun _ => False) (fun d => desc.Advances d) (desc'.append ch) := by
  unfold AtDesc.append
  rw [if_pos hlt]
  refine ⟨⟨?_, ?_, h.bounded.ready, h.bounded.async, h.bounded.resp⟩, h.ipdIdx, h.closedIdx, h.respIdx⟩
  · rw [List.length_set]
    exact h.bounded.buff
  · have : (desc'.result.len + 1).toNat = desc'.result.len.toNat + 1 := by
      unfold RESULT_BUFF_LEN at hlt
      rw [UInt32.toNat_add, UInt32.toNat_one]
      lia
    simp only [this]
    lia

lemma startConnRead_bounds (h : desc.Advances s.desc) (isNew : Bool) (newCb : Option CbRef) :
    Trace.Unless (fun f => ¬f.OutOfBounds)
      (fun s' => desc.Advances s'.desc ∧ s'.wait = s.wait) (startConnRead s isNew newCb) := by
  cases hs : startConnRead s isNew newCb with
  | error f =>
    rcases startConnRead_error hs with hf | rfl | rfl
    · rw [connIndex_error hf]
      simp [Trace.Unless, AtFault.OutOfBounds]
    · simp [Trace.Unless, AtFault.OutOfBounds]
    · simp [Trace.Unless, AtFault.OutOfBounds]
  | ok s' =>
    obtain ⟨i, conn, -, hdesc, hwait⟩ := startConnRead_ok hs
    refine ⟨?_, hwait⟩
    rw [hdesc]
    exact h.setConn i conn

lemma readingResponses_bounds (h : s.desc.Bounded) (htake : s.desc.Takes s.desc.readCh) :
    Trace.Unless (fun f => ¬f.OutOfBounds)
      (fun s' => s.desc.Advances s'.desc ∧ s'.wait = s.wait) (readingResponses s newCb) := by
  have hpay := isPayloadMessage_bounds h htake.header
  unfold readingResponses
  cases hp : isPayloadMessage s.desc s.desc.readCh with
  | error f =>
    rw [hp] at hpay
    exact hpay
  | ok r =>
    obtain ⟨new, desc⟩ := r
    rw [hp] at hpay
    obtain ⟨hadv, hsame⟩ := hpay
    have hb := hadv.bounded
    cases new with
    | true =>
      apply startConnRead_bounds (s := { s with
        desc := { desc with callbackOperation := .readingPayload } })
      exact ⟨⟨hb.buff, hb.len, hb.ready, hb.async, hb.resp⟩, hadv.ipdIdx, hadv.closedIdx, hadv.respIdx⟩
    | false =>
      obtain ⟨hresult, hasync, hreadCh⟩ := hsame rfl
      have hclosedIdx : desc.closedIdx = s.desc.closedIdx := by
        unfold AtDesc.closedIdx
        rw [hasync]
      simp only
      split
      · exact ⟨⟨⟨hb.buff, hb.len, hb.ready, hb.async, hb.resp⟩, hadv.ipdIdx, hadv.closedIdx,
          hadv.respIdx⟩, rfl⟩
      · split
        · exact ⟨⟨⟨hb.buff, Nat.zero_le _, hb.ready, hb.async, hb.resp⟩, hadv.ipdIdx, hadv.closedIdx,
            hadv.respIdx⟩, rfl⟩
        · rename_i hlt
          have hlt := Nat.lt_of_not_le hlt
          have htaken := @isAsyncMessages_bounds desc.readCh desc hb hlt
            (by
              rw [hclosedIdx, hreadCh, hresult]
              exact htake.closed (hresult ▸ hlt))
            (by
              rw [hreadCh, hasync]
              exact htake.nul (hresult ▸ hlt))
          cases ha : isAsyncMessages desc desc.readCh with
          | error f =>
            rw [ha] at htaken
            exact htaken.elim
          | ok r =>
            obtain ⟨async, desc'⟩ := r
            rw [ha] at htaken
            obtain ⟨hadv', hlt'⟩ := htaken
            have hadv'' : s.desc.Advances desc' := by
              refine ⟨hadv'.bounded, ?_, ?_, hadv'.respIdx.trans hadv.respIdx⟩
              · rw [(isAsyncMessages_sameIpd ha).ipdIdx]
                exact hadv.ipdIdx
              · rw [← hclosedIdx]
                exact hadv'.closedIdx
            cases async with
            | true => exact ⟨hadv'', rfl⟩
            | false =>
              have happ := hadv''.append hlt' desc'.readCh
              simp only
              cases hc : desc'.append desc'.readCh with
              | error f =>
                rw [hc] at happ
                exact happ.elim
              | ok desc'' =>
                rw [hc] at happ
                exact ⟨happ, rfl⟩

lemma readingPayload_bounds (h : s.desc.Bounded) :
    Trace.Unless (fun f => ¬f.OutOfBounds)
      (fun s' => s.desc.Advances s'.desc ∧ s'.wait = s.wait) (readingPayload s) := by
  unfold readingPayload
  cases he : endConnRead s with
  | error f =>
    rcases endConnRead_error he with hf | rfl
    · rw [connIndex_error hf]
      simp [Trace.Unless, AtFault.OutOfBounds]
    · simp [Trace.Unless, AtFault.OutOfBounds]
  | ok s' =>
    obtain ⟨hdesc, hwait, -, -⟩ := endConnRead_ok he
    simp only [hdesc]
    split
    · rename_i f hf
      rw [connIndex_error hf]
      simp [Trace.Unless, AtFault.OutOfBounds]
    · split
      · exact ⟨⟨⟨h.buff, h.len, h.ready, h.async, h.resp⟩, Nat.le_succ _, Nat.le_succ _, rfl⟩, hwait⟩
      · have hstart := startConnRead_bounds (show s.desc.Advances s'.desc by
          rw [hdesc]
          exact h.advances) false none
        rw [hwait] at hstart
        exact hstart

lemma resettingModule_bounds (h : s.desc.Bounded)
    (hnul : s.desc.readCh = 0 → s.desc.readyIdx.toNat < readyMsg.length) :
    Trace.Unless (fun f => ¬f.OutOfBounds)
      (fun s' => s.desc.Advances s'.desc ∧ s'.wait = s.wait) (resettingModule s) := by
  have hm := matchMessage_bounds h.ready (by decide) (by decide) hnul
  unfold resettingModule
  cases hr : matchMessage readyMsg s.desc.readyIdx s.desc.readCh with
  | error f =>
    rw [hr] at hm
    exact hm.elim
  | ok r =>
    rw [hr] at hm
    exact ⟨⟨⟨h.buff, h.len, hm.1, h.async, h.resp⟩, Nat.le_succ _, Nat.le_succ _, rfl⟩, rfl⟩

/-- What a byte meets when its interrupt comes. -/
structure AtSystem.Takes (s : AtSystem) (ch : UInt8) : Prop where
  response : ∀ c, s.interprets ch = some c → s.desc.Takes c
  reset : s.resets ch = some 0 → s.desc.readyIdx.toNat < readyMsg.length

lemma uartReceive_bounds (h : s.desc.Bounded) (htake : s.Takes ch) (newCb : Option CbRef) :
    Trace.Unless (fun f => ¬f.OutOfBounds)
      (fun s' => s.desc.Advances s'.desc ∧ s'.wait = s.wait) (uartReceive s ch newCb) := by
  have hdesc := uartStore_desc s ch
  have hwait := uartStore_wait s ch
  have hstore : (uartStore s ch).desc.Bounded := by
    rw [hdesc]
    exact ⟨h.buff, h.len, h.ready, h.async, h.resp⟩
  -- the byte that the UART stores is all that differs between the two descriptors
  have hback {r : Except AtFault AtSystem} (hr : Trace.Unless (fun f => ¬f.OutOfBounds)
      (fun s' => (uartStore s ch).desc.Advances s'.desc ∧ s'.wait = (uartStore s ch).wait) r) :
      Trace.Unless (fun f => ¬f.OutOfBounds)
        (fun s' => s.desc.Advances s'.desc ∧ s'.wait = s.wait) r := by
    cases r with
    | error f => exact hr
    | ok s' =>
      obtain ⟨hadv, hw⟩ := hr
      rw [hdesc] at hadv
      exact ⟨⟨hadv.bounded, hadv.ipdIdx, hadv.closedIdx, hadv.respIdx⟩, hw.trans hwait⟩
  unfold uartReceive
  split
  · rename_i hzero
    rw [uartStore_len] at hzero
    have hone : s.uartLen = 1 := by
      have := congrArg (· + 1) hzero
      simpa using this
    have hop : (uartStore s ch).desc.callbackOperation = s.desc.callbackOperation := by
      rw [hdesc]
    have hread (hmode : s.desc.callbackOperation = .readingResponses ∨
        s.desc.callbackOperation = .waitingSend) :
        Trace.Unless (fun f => ¬f.OutOfBounds)
          (fun s' => s.desc.Advances s'.desc ∧ s'.wait = s.wait)
          (readingResponses (uartStore s ch) newCb) := by
      have hinterprets := htake.response (if s.uartDst = .readCh then ch else s.desc.readCh)
        (by rw [AtSystem.interprets, if_pos ⟨hone, hmode⟩])
      apply hback (readingResponses_bounds hstore _)
      rw [hdesc]
      exact ⟨hinterprets.header, hinterprets.closed, hinterprets.nul⟩
    unfold atCallback
    simp only [hop]
    cases hm : s.desc.callbackOperation with
    | resettingModule =>
      apply hback (resettingModule_bounds hstore _)
      rw [hdesc]
      intro hnul
      apply htake.reset
      rw [AtSystem.resets, if_pos ⟨hone, hm⟩]
      exact congrArg some hnul
    | waitingSend => exact hread (.inr hm)
    | readingResponses => exact hread (.inl hm)
    | readingPayload => exact hback (readingPayload_bounds hstore)
  · exact hback ⟨hstore.advances, rfl⟩

/-- The response matchers have only seen the bytes that `wait_for_response` has looked at. -/
structure AtSystem.WaitOk (s : AtSystem) (w : WaitForResponse) : Prop where
  i : w.i.toNat ≤ RESULT_BUFF_LEN
  seen : ∀ idx ∈ s.desc.respIdx, idx.toNat ≤ w.i.toNat
  search : w.hit = none →
    List.Forall₂ (fun msg idx => idx.toNat < msg.length) responses s.desc.respIdx

structure AtMonitor.Inv (m : AtMonitor) : Prop where
  bounded : m.sys.desc.Bounded
  ipd : m.ipdLost = false → m.sys.desc.ipdIdx.toNat ≤ m.sys.desc.result.len.toNat
  closed : m.closedLost = false → m.sys.desc.closedIdx.toNat ≤ m.sys.desc.result.len.toNat
  idle : m.sys.wait = none → m.sys.desc.respIdx = [0, 0, 0, 0]
  wait : ∀ w, m.sys.wait = some w → m.sys.WaitOk w

variable {m : AtMonitor}

lemma AtMonitor.Inv.next (h : m.Inv) (hbounded : s.desc.Bounded)
    (hipd : s.desc.ipdIdx.toNat ≤ m.sys.desc.ipdIdx.toNat + 1)
    (hclosed : s.desc.closedIdx.toNat ≤ m.sys.desc.closedIdx.toNat + 1)
    (hidle : s.wait = none → s.desc.respIdx = [0, 0, 0, 0])
    (hwait : ∀ w, s.wait = some w → s.WaitOk w) : (m.next s).Inv :=
  ⟨hbounded, lost_sound h.ipd h.bounded.len hipd, lost_sound h.closed h.bounded.len hclosed,
    hidle, hwait⟩

lemma AtMonitor.Inv.advance (h : m.Inv) (hadv : m.sys.desc.Advances s.desc)
    (hwait : s.wait = m.sys.wait) : (m.next s).Inv := by
  apply h.next hadv.bounded hadv.ipdIdx hadv.closedIdx
  · intro hnone
    rw [hadv.respIdx]
    exact h.idle (hwait ▸ hnone)
  · intro w hw
    have hok := h.wait w (hwait ▸ hw)
    refine ⟨hok.i, ?_, ?_⟩
    · rw [hadv.respIdx]
      exact hok.seen
    · rw [hadv.respIdx]
      exact hok.search

lemma seen_succ {old new : List UInt8} {n : ℕ} (h : ∀ idx ∈ old, idx.toNat ≤ n)
    (hsucc : List.Forall₂ (fun idx idx' : UInt8 => idx'.toNat ≤ idx.toNat + 1) old new) :
    ∀ idx ∈ new, idx.toNat ≤ n + 1 := by
  induction hsucc with
  | nil => simp
  | @cons idx idx' old new hle _ ih =>
    intro i hi
    rcases List.mem_cons.mp hi with rfl | hi
    · have := h idx (by simp)
      lia
    · exact ih (fun j hj => h j (by simp [hj])) i hi

lemma pollResponse_inv (h : m.Inv) {i : UInt32} (hw : m.sys.wait = some ⟨i, none⟩) :
    Trace.Unless (fun f => ¬f.OutOfBounds) (fun s' => (m.next s').Inv)
      (pollResponse m.sys ⟨i, none⟩) := by
  have hok := h.wait _ hw
  have hb := h.bounded
  have hstrict := hok.search rfl
  unfold pollResponse
  split
  · rename_i hlt
    rw [UInt32.lt_iff_toNat_lt] at hlt
    simp only at hlt
    have hlen := hb.len
    split
    · rename_i hnone
      have hlow := List.getElem?_eq_none_iff.mp hnone
      rw [hb.buff] at hlow
      exact absurd hlow (by simp only; lia)
    · rename_i c _
      have hfirst := matchFirst_bounds hb.resp (by decide) fun _ : c = 0 => hstrict
      cases hm : matchFirst responses m.sys.desc.respIdx c with
      | error f =>
        rw [hm] at hfirst
        exact hfirst.elim
      | ok r =>
        obtain ⟨hit, idxs⟩ := r
        rw [hm] at hfirst
        obtain ⟨hresp, hsucc, hsearch⟩ := hfirst
        have hi : (i + 1).toNat = i.toNat + 1 := by
          unfold RESULT_BUFF_LEN at hlen
          rw [UInt32.toNat_add, UInt32.toNat_one]
          lia
        simp only [Trace.Unless]
        apply h.next
        · exact ⟨hb.buff, hb.len, hb.ready, hb.async, hresp⟩
        · exact Nat.le_succ _
        · exact Nat.le_succ _
        · simp
        · intro w hw'
          simp only [Option.some.injEq] at hw'
          subst hw'
          refine ⟨?_, ?_, hsearch⟩
          · simp only [hi]
            lia
          · simp only [hi]
            exact seen_succ hok.seen hsucc
  · exact h.next hb (Nat.le_succ _) (Nat.le_succ _) h.idle h.wait

lemma endResponse_inv (h : m.Inv) {w : WaitForResponse} (hw : m.sys.wait = some w)
    (hcut : w.hit.isNone ∨ w.i ≤ m.sys.desc.result.len) : (m.next (endResponse m.sys w)).Inv := by
  have hb := h.bounded
  have hle : ((w.hit.map fun j => m.sys.desc.respIdx.getD j 0).getD 0).toNat ≤
      m.sys.desc.result.len.toNat := by
    cases hhit : w.hit with
    | none => exact Nat.zero_le _
    | some j =>
      have hi : w.i.toNat ≤ m.sys.desc.result.len.toNat := by
        rcases hcut with hnone | hi
        · simp [hhit] at hnone
        · exact UInt32.le_iff_toNat_le.mp hi
      simp only [Option.map_some, Option.getD_some, List.getD_eq_getElem?_getD]
      cases hj : m.sys.desc.respIdx[j]? with
      | none => exact Nat.zero_le _
      | some idx =>
        have := (h.wait w hw).seen idx (List.mem_of_getElem? hj)
        simp only [Option.getD_some]
        lia
  have hlen := hb.len
  apply h.next
  · refine ⟨hb.buff, ?_, hb.ready, hb.async, by unfold responses endResponse; simp⟩
    simp only [endResponse, AtDesc.setResultLen]
    rw [toNat_sub_of_le (by simpa using hle)]
    lia
  · exact Nat.le_succ _
  · exact Nat.le_succ _
  · exact fun _ => rfl
  · simp [endResponse]

/-- A byte that the monitor accepts finds everything it takes off the result. -/
lemma AtMonitor.Inv.takes (h : m.Inv) (hok : m.Allowed (.receive ch newCb)) : m.sys.Takes ch := by
  constructor
  · intro c hc
    have hacc : m.Accepts c := by
      have := hok.1
      rw [hc] at this
      simpa using this
    refine ⟨fun hend => h.ipd (hacc.1 hend), fun hlt hseven hten => ?_, fun hlt => (hacc.2 hlt).2⟩
    have := h.closed ((hacc.2 hlt).1 ⟨hseven, hten⟩)
    rw [hseven] at this
    exact this
  · exact hok.2

/-- Every allowed event keeps the bounds. -/
theorem AtMonitor.step_inv (h : m.Inv) {e : AtEvent} (hok : m.Allowed e) :
    Trace.Unless (fun f => ¬f.OutOfBounds) AtMonitor.Inv (m.step e) := by
  have hb := h.bounded
  have hstep : Trace.Unless (fun f => ¬f.OutOfBounds) (fun s' => (m.next s').Inv)
      (m.sys.step e) := by
    cases e with
    | receive ch newCb =>
      have hbounds := uartReceive_bounds hb (h.takes hok) newCb
      simp only [AtSystem.step]
      cases hr : uartReceive m.sys ch newCb with
      | error f =>
        rw [hr] at hbounds
        exact hbounds
      | ok s' =>
        rw [hr] at hbounds
        exact h.advance hbounds.1 hbounds.2
    | uartError | setMultiple | resetModule | resetDone | waitSend | clearErrors =>
      exact h.advance ⟨⟨hb.buff, hb.len, hb.ready, hb.async, hb.resp⟩, Nat.le_succ _, Nat.le_succ _,
        rfl⟩ rfl
    | clearResult =>
      exact h.advance ⟨⟨hb.buff, Nat.zero_le _, hb.ready, hb.async, hb.resp⟩, Nat.le_succ _,
        Nat.le_succ _, rfl⟩ rfl
    | startWait =>
      simp only [AtSystem.step]
      split
      · rename_i hnone
        have hidle := h.idle (by simpa using hnone)
        simp only [Trace.Unless]
        apply h.next
        · exact ⟨hb.buff, hb.len, hb.ready, hb.async, hb.resp⟩
        · exact Nat.le_succ _
        · exact Nat.le_succ _
        · simp
        · intro w hw
          simp only [Option.some.injEq] at hw
          subst hw
          -- the matchers of a new wait stand at the start of their messages
          refine ⟨Nat.zero_le _, ?_, fun _ => ?_⟩
          · simp [hidle]
          · simp only [hidle]
            unfold responses
            simp
      · exact h.next hb (Nat.le_succ _) (Nat.le_succ _) h.idle h.wait
    | pollWait =>
      simp only [AtSystem.step]
      split
      · rename_i i hw
        exact pollResponse_inv h hw
      · exact h.next hb (Nat.le_succ _) (Nat.le_succ _) h.idle h.wait
    | endWait =>
      simp only [AtSystem.step]
      split
      · rename_i w hw
        apply endResponse_inv h hw
        have hcut : (m.sys.wait.all fun w => w.hit.isNone ∨ w.i ≤ m.sys.desc.result.len) = true := hok
        rw [hw] at hcut
        simpa using hcut
      · exact h.next hb (Nat.le_succ _) (Nat.le_succ _) h.idle h.wait
  unfold AtMonitor.step
  cases hr : m.sys.step e with
  | error f =>
    rw [hr] at hstep
    exact hstep
  | ok s' =>
    rw [hr] at hstep
    exact hstep

lemma AtMonitor.run_sys (events : List AtEvent) (r : Except AtFault AtMonitor) :
    Trace.run (Trace.orFault AtSystem.step) (r.map AtMonitor.sys) events =
      (Trace.run (Trace.orFault AtMonitor.step) r events).map AtMonitor.sys := by
  induction events generalizing r with
  | nil => rfl
  | cons e events ih =>
    rw [Trace.run_cons, Trace.run_cons, ← ih]
    congr 1
    cases r with
    | error f => rfl
    | ok m =>
      simp only [Except.map, Trace.orFault_ok, AtMonitor.step]
      cases m.sys.step e with
      | error f => rfl
      | ok s' => rfl

lemma AtDesc.bounded_init : ({} : AtDesc).Bounded := by
  refine ⟨List.length_replicate, Nat.zero_le _, Nat.zero_le _, ?_, ?_⟩
  · unfold asyncMsgs
    simp
  · unfold responses
    simp

/-- In a run from a new parser whose events are all allowed, the length of the result stays
within its buffer and every message is indexed within its length. -/
theorem at_parser_bounds {cbs : List CircularBuffer} (events : List AtEvent)
    (hok : Trace.Guarded (Trace.orFault AtMonitor.step) (Trace.untilFault AtMonitor.Allowed)
      (.ok { sys := { cbs := cbs } }) events) :
    Trace.Always (Trace.orFault AtSystem.step)
      (Trace.Unless (fun f => ¬f.OutOfBounds) fun s => s.desc.Bounded) (.ok { cbs := cbs }) events := by
  have hinit : ({ sys := { cbs := cbs } } : AtMonitor).Inv :=
    ⟨AtDesc.bounded_init, fun _ => Nat.zero_le _, fun _ => Nat.zero_le _, fun _ => rfl, by simp⟩
  have hrun := hok.unless hinit fun t e ht he => AtMonitor.step_inv ht he
  intro pre hpre
  have hinv := hrun pre hpre
  rw [show (Except.ok { cbs := cbs } : Except AtFault AtSystem) =
    (Except.ok ({ sys := { cbs := cbs } } : AtMonitor)).map AtMonitor.sys from rfl, AtMonitor.run_sys]
  cases hr : Trace.run (Trace.orFault AtMonitor.step) (.ok { sys := { cbs := cbs } }) pre with
  | error f =>
    rw [hr] at hinv
    exact hinv
  | ok t =>
    rw [hr] at hinv
    exact hinv.bounded

/-- Multiple mode, `"\r\n+IPD,3,2:ab"` and `"3,CLOSED\r\n"` while a command waits for
`"\r\nOK\r\n"`. -/
theorem at_parser_bounds_command :
    Trace.Always (Trace.orFault AtSystem.step)
      (Trace.Unless (fun f => ¬f.OutOfBounds) fun s => s.desc.Bounded) (.ok {})
      (.setMultiple true :: .startWait :: receives [13, 10, 43, 73, 80, 68, 44, 51, 44, 50, 58, 97, 98,
        51, 44, 67, 76, 79, 83, 69, 68, 13, 10, 13, 10, 79, 75, 13, 10] ++
        List.replicate 7 .pollWait ++ [.endWait, .clearResult]) :=
  at_parser_bounds _ (by decide +kernel)

/-- Multiple mode, `"0,CLOSED\r\n+IPD,0,5:"`: the line end of the CLOSED message is also the
start of the header, but is not in the result any more when the header is taken off. -/
theorem at_parser_bounds_closed_header :
    ¬Trace.Always (Trace.orFault AtSystem.step)
      (Trace.Unless (fun f => ¬f.OutOfBounds) fun s => s.desc.Bounded) (.ok {})
      (.setMultiple true :: receives [48, 44, 67, 76, 79, 83, 69, 68, 13, 10, 43, 73, 80, 68, 44, 48,
        44, 53, 58]) := by
  intro h
  have hlast := h.last
  obtain ⟨s, hs, hlen⟩ : ∃ s, Trace.run (Trace.orFault AtSystem.step) (.ok {})
      (.setMultiple true :: receives [48, 44, 67, 76, 79, 83, 69, 68, 13, 10, 43, 73, 80, 68, 44, 48,
        44, 53, 58]) = .ok s ∧ s.desc.result.len = 4294967295 := ⟨_, rfl, rfl⟩
  rw [hs] at hlast
  have hbound := hlast.len
  rw [hlen] at hbound
  exact absurd hbound (by decide)

end NoOS
