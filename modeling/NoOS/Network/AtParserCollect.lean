import NoOS.Network.AtRunCmdStatus

/-!
# What the result keeps of the bytes received

A byte is appended to the result, or the result falls behind the bytes received. It does not
catch up again.
-/

namespace NoOS

/-- What a byte does to the result: there is a cut, and a byte may be appended behind it. -/
inductive AtBuff.Next (b : AtBuff) : AtBuff → Prop
  | clear : Next b { b with len := 0 }
  | cut (k : UInt32) (hk : k.toNat ≤ 255) : Next b { b with len := b.len - k }
  | append (k : UInt32) (ch : UInt8) (hk : k.toNat ≤ 255)
      (hlt : (b.len - k).toNat < RESULT_BUFF_LEN) :
      Next b { buff := b.buff.set (b.len - k).toNat ch, len := b.len - k + 1 }

/-- `k` bytes have been appended to `c`. -/
structure AtBuff.Grown (c : List UInt8) (k : ℕ) (b : AtBuff) : Prop where
  buff : b.buff.length = RESULT_BUFF_LEN
  le : b.len.toNat ≤ RESULT_BUFF_LEN
  len : b.len.toNat = c.length + k
  keeps : c <+: b.buff.take b.len.toNat

/-- There are less than `k` bytes behind `c`, or the length has wrapped around. -/
structure AtBuff.Short (c : List UInt8) (k : ℕ) (b : AtBuff) : Prop where
  buff : b.buff.length = RESULT_BUFF_LEN
  len : b.len.toNat < c.length + k ∨ 2 ^ 32 ≤ b.len.toNat + 255 * k

variable {b b' : AtBuff} {c c' : List UInt8} {k k' : ℕ} {ch : UInt8} {desc desc' : AtDesc}
  {s s' : AtSystem} {newCb : Option CbRef}

lemma AtBuff.Next.refl (b : AtBuff) : b.Next b := by
  have hnext := AtBuff.Next.cut (b := b) 0 (by decide)
  rwa [UInt32.sub_zero] at hnext

lemma AtBuff.Next.buff_length (h : b.Next b') : b'.buff.length = b.buff.length := by
  cases h with
  | clear | cut => rfl
  | append k ch => exact List.length_set

lemma AtBuff.Short.next (hb : b.Short c k) (h : b.Next b') : b'.Short c (k + 1) := by
  refine ⟨h.buff_length.trans hb.buff, ?_⟩
  have hlen := hb.len
  have hlt := b.len.toNat_lt
  cases h with
  | clear =>
    left
    rw [UInt32.toNat_zero]
    lia
  | cut j hj =>
    dsimp only
    rw [UInt32.toNat_sub]
    lia
  | append j ch hj hfit =>
    unfold RESULT_BUFF_LEN at hfit
    dsimp only
    rw [UInt32.toNat_sub] at hfit
    rw [UInt32.toNat_add, UInt32.toNat_sub, UInt32.toNat_one]
    lia

lemma AtBuff.Grown.next (hb : b.Grown c k) (h : b.Next b') : b'.Grown c (k + 1) ∨ b'.Short c (k + 1) := by
  have hbuff := h.buff_length.trans hb.buff
  have hlen := hb.len
  have hlt := b.len.toNat_lt
  cases h with
  | clear =>
    refine .inr ⟨hbuff, .inl ?_⟩
    rw [UInt32.toNat_zero]
    lia
  | cut j hj =>
    refine .inr ⟨hbuff, ?_⟩
    dsimp only
    rw [UInt32.toNat_sub]
    lia
  | append j ch hj hfit =>
    by_cases hzero : j = 0
    · subst hzero
      rw [UInt32.sub_zero] at hfit hbuff ⊢
      have hnext : (b.len + 1).toNat = b.len.toNat + 1 := by
        unfold RESULT_BUFF_LEN at hfit
        rw [UInt32.toNat_add, UInt32.toNat_one]
        lia
      refine .inl ⟨hbuff, ?_, ?_, ?_⟩
      · dsimp only
        lia
      · dsimp only
        lia
      · dsimp only
        rw [hnext, List.take_add_one, List.take_set_of_le (Nat.le_refl _)]
        exact hb.keeps.trans (List.prefix_append _ _)
    · have hpos : j.toNat ≠ 0 := fun h0 => hzero (UInt32.toNat_inj.mp h0)
      unfold RESULT_BUFF_LEN at hfit
      rw [UInt32.toNat_sub] at hfit
      refine .inr ⟨hbuff, ?_⟩
      dsimp only
      rw [UInt32.toNat_add, UInt32.toNat_sub, UInt32.toNat_one]
      lia

lemma AtBuff.Grown.refl (hbuff : b.buff.length = RESULT_BUFF_LEN) (hle : b.len.toNat ≤ RESULT_BUFF_LEN) :
    b.Grown (b.buff.take b.len.toNat) 0 := by
  refine ⟨hbuff, hle, ?_, List.prefix_refl _⟩
  rw [List.length_take, hbuff, Nat.min_eq_left hle, Nat.add_zero]

lemma AtBuff.Grown.trans (h : b.Grown c k) (h' : b'.Grown (b.buff.take b.len.toNat) k') :
    b'.Grown c (k + k') := by
  have hlen := h.len
  have hlen' := h'.len
  rw [List.length_take, h.buff, Nat.min_eq_left h.le] at hlen'
  exact ⟨h'.buff, h'.le, by lia, h.keeps.trans h'.keeps⟩

lemma AtBuff.Grown.trans_short (h : b.Grown c k) (h' : b'.Short (b.buff.take b.len.toNat) k') :
    b'.Short c (k + k') := by
  have hlen := h.len
  have hlen' := h'.len
  rw [List.length_take, h.buff, Nat.min_eq_left h.le] at hlen'
  exact ⟨h'.buff, by lia⟩

lemma closedConnId_cut_le {id : Int} (h : closedConnId desc = .ok (id, desc')) :
    ∃ k : UInt32, k.toNat ≤ 2 ∧ desc'.result = { desc.result with len := desc.result.len - k } := by
  rcases closedConnId_ok h with rfl | ⟨rfl, -⟩
  · exact ⟨0, by decide, by rw [UInt32.sub_zero]⟩
  · exact ⟨2, by decide, rfl⟩

lemma checkConnId_cut {msgIdx : ℕ} {r : Bool} (h : checkConnId desc closedMsg msgIdx = .ok (r, desc')) :
    ∃ k : UInt32, k.toNat ≤ 255 ∧ desc'.result = { desc.result with len := desc.result.len - k } := by
  unfold checkConnId at h
  dsimp only at h
  split at h
  · cases h
  next id d hid =>
    obtain ⟨k, hk, hcut⟩ := closedConnId_cut_le hid
    have hsum : (7 + k).toNat ≤ 255 := by
      have hseven : (7 : UInt32).toNat = 7 := rfl
      rw [UInt32.toNat_add]
      lia
    have hresult : d.result = { desc.result with len := desc.result.len - (7 + k) } := by
      rw [hcut]
      have hsub : desc.result.len - 7 - k = desc.result.len - (7 + k) := by grind
      rw [← hsub]
      rfl
    split at h
    · split at h
      · cases h
      · obtain ⟨-, rfl⟩ := Prod.mk.inj (Except.ok.inj h)
        exact ⟨7 + k, hsum, hresult⟩
    · obtain ⟨-, rfl⟩ := Prod.mk.inj (Except.ok.inj h)
      exact ⟨7 + k, hsum, hresult⟩

lemma isAsyncMessages_cut {r : Bool} (h : isAsyncMessages desc ch = .ok (r, desc')) :
    ∃ k : UInt32, k.toNat ≤ 255 ∧ desc'.result = { desc.result with len := desc.result.len - k } := by
  have hnone : ∃ k : UInt32, k.toNat ≤ 255 ∧
      desc.result = { desc.result with len := desc.result.len - k } :=
    ⟨0, by decide, by rw [UInt32.sub_zero]⟩
  unfold isAsyncMessages at h
  split at h
  · cases h
  · dsimp only at h
    split at h
    · split at h
      · cases h
      next d hd =>
        obtain ⟨k, hk, hcut⟩ := checkConnId_cut hd
        obtain ⟨-, rfl⟩ := Prod.mk.inj (Except.ok.inj h)
        exact ⟨k, hk, hcut⟩
      next d hd =>
        obtain ⟨k, hk, hcut⟩ := checkConnId_cut hd
        obtain ⟨-, rfl⟩ := Prod.mk.inj (Except.ok.inj h)
        exact ⟨k, hk, hcut⟩
    all_goals
      obtain ⟨-, rfl⟩ := Prod.mk.inj (Except.ok.inj h)
      exact hnone

lemma isPayloadMessage_cut (h : isPayloadMessage desc ch = .ok (true, desc')) :
    ∃ k : UInt32, k.toNat ≤ 255 ∧ desc'.result = { desc.result with len := desc.result.len - k } := by
  unfold isPayloadMessage at h
  split at h
  · split at h <;> cases h
  · split at h
    · split at h <;> cases h
    · split at h <;> cases h
    · split at h
      · split at h
        · split at h
          · cases h
          · obtain ⟨-, rfl⟩ := Prod.mk.inj (Except.ok.inj h)
            refine ⟨desc.ipdIdx.toUInt32, ?_, rfl⟩
            have hlt := desc.ipdIdx.toNat_lt
            rw [UInt8.toNat_toUInt32]
            omega
        · cases h
      · cases h
    · cases h

lemma startConnRead_result {isNew : Bool} (h : startConnRead s isNew newCb = .ok s') :
    s'.desc.result = s.desc.result := by
  obtain ⟨i, conn, -, hdesc, -⟩ := startConnRead_ok h
  rw [hdesc]
  rfl

lemma readingResponses_next (h : readingResponses s newCb = .ok s') :
    s.desc.result.Next s'.desc.result := by
  unfold readingResponses at h
  split at h
  · cases h
  next d hpay =>
    obtain ⟨k, hk, hcut⟩ := isPayloadMessage_cut hpay
    rw [startConnRead_result h]
    exact hcut ▸ .cut k hk
  next d hpay =>
    have hsame := (isPayloadMessage_false hpay).result
    rw [← hsame]
    split at h
    · obtain rfl := Except.ok.inj h
      exact .refl _
    split at h
    · obtain rfl := Except.ok.inj h
      exact .clear
    split at h
    · cases h
    next d' hasync =>
      obtain ⟨k, hk, hcut⟩ := isAsyncMessages_cut hasync
      obtain rfl := Except.ok.inj h
      exact (congrArg _ hcut).mpr (.cut k hk)
    next d' hasync =>
      obtain ⟨k, hk, hcut⟩ := isAsyncMessages_cut hasync
      split at h
      · cases h
      next d'' happend =>
        obtain ⟨hlt, rfl⟩ := AtDesc.append_ok happend
        obtain rfl := Except.ok.inj h
        change d.result.Next { buff := d'.result.buff.set d'.result.len.toNat d'.readCh, len := d'.result.len + 1 }
        rw [hcut] at hlt ⊢
        exact .append k _ hk hlt

lemma readingPayload_result (h : readingPayload s = .ok s') : s'.desc.result = s.desc.result := by
  unfold readingPayload at h
  split at h
  · cases h
  next s₁ hend =>
    have hdesc := (endConnRead_ok hend).1
    split at h
    · cases h
    · split at h
      · obtain rfl := Except.ok.inj h
        rw [← hdesc]
        rfl
      · rw [startConnRead_result h, hdesc]

lemma uartReceive_next (h : uartReceive s ch newCb = .ok s') : s.desc.result.Next s'.desc.result := by
  have hdesc := uartStore_desc s ch
  have hresult : (uartStore s ch).desc.result = s.desc.result := by rw [hdesc]
  rw [← hresult]
  unfold uartReceive at h
  split at h
  · simp only [atCallback] at h
    split at h
    · unfold resettingModule at h
      split at h
      · cases h
      · obtain rfl := Except.ok.inj h
        exact .refl _
    · exact readingResponses_next h
    · exact readingResponses_next h
    · rw [readingPayload_result h]
      exact .refl _
  · obtain rfl := Except.ok.inj h
    exact .refl _

lemma uartError_result (h : s.step .uartError = .ok s') : s'.desc.result = s.desc.result := by
  obtain rfl := Except.ok.inj h
  rfl

/-- The loop of `wait_for_response` stands where it was. -/
structure AtSystem.SamePoll (s s' : AtSystem) : Prop where
  wait : s'.wait = s.wait
  respIdx : s'.desc.respIdx = s.desc.respIdx

lemma startConnRead_samePoll {isNew : Bool} (h : startConnRead s isNew newCb = .ok s') : s.SamePoll s' := by
  obtain ⟨i, conn, -, hdesc, hwait⟩ := startConnRead_ok h
  exact ⟨hwait, hdesc ▸ rfl⟩

lemma readingResponses_samePoll (h : readingResponses s newCb = .ok s') : s.SamePoll s' := by
  unfold readingResponses at h
  split at h
  · cases h
  next d hpay =>
    have hread := startConnRead_samePoll h
    exact ⟨hread.wait, hread.respIdx.trans (isPayloadMessage_same hpay).respIdx⟩
  next d hpay =>
    have hresp := (isPayloadMessage_same hpay).respIdx
    split at h
    · obtain rfl := Except.ok.inj h
      exact ⟨rfl, hresp⟩
    split at h
    · obtain rfl := Except.ok.inj h
      exact ⟨rfl, hresp⟩
    split at h
    · cases h
    next d' hasync =>
      obtain rfl := Except.ok.inj h
      exact ⟨rfl, (isAsyncMessages_sameIpd hasync).respIdx.trans hresp⟩
    next d' hasync =>
      split at h
      · cases h
      next d'' happend =>
        obtain ⟨-, rfl⟩ := AtDesc.append_ok happend
        obtain rfl := Except.ok.inj h
        exact ⟨rfl, (isAsyncMessages_sameIpd hasync).respIdx.trans hresp⟩

lemma readingPayload_samePoll (h : readingPayload s = .ok s') : s.SamePoll s' := by
  unfold readingPayload at h
  split at h
  · cases h
  next s₁ hend =>
    obtain ⟨hdesc, hwait, -⟩ := endConnRead_ok hend
    split at h
    · cases h
    · split at h
      · obtain rfl := Except.ok.inj h
        exact ⟨hwait, hdesc ▸ rfl⟩
      · have hread := startConnRead_samePoll h
        exact ⟨hread.wait.trans hwait, hread.respIdx.trans (hdesc ▸ rfl)⟩

lemma uartReceive_samePoll (h : uartReceive s ch newCb = .ok s') : s.SamePoll s' := by
  have hstore : s.SamePoll (uartStore s ch) := by
    refine ⟨uartStore_wait s ch, ?_⟩
    rw [uartStore_desc]
  have hcallback : (uartStore s ch).SamePoll s' := by
    unfold uartReceive at h
    split at h
    · simp only [atCallback] at h
      split at h
      · unfold resettingModule at h
        split at h
        · cases h
        · obtain rfl := Except.ok.inj h
          exact ⟨rfl, rfl⟩
      · exact readingResponses_samePoll h
      · exact readingResponses_samePoll h
      · exact readingPayload_samePoll h
    · obtain rfl := Except.ok.inj h
      exact ⟨rfl, rfl⟩
  exact ⟨hcallback.wait.trans hstore.wait, hcallback.respIdx.trans hstore.respIdx⟩

namespace AtDriver

/-- The bytes in the result. -/
def collected (d : AtDriver) : List UInt8 := d.desc.result.buff.take d.desc.result.len.toNat

/-- Everything received since `e` has been appended to the result. -/
def Level (e d : AtDriver) : Prop :=
  ∃ bytes, d.received = e.received ++ bytes ∧ d.desc.result.Grown e.collected bytes.length

/-- Not everything received since `e` is in the result. -/
def Behind (e d : AtDriver) : Prop :=
  ∃ bytes, d.received = e.received ++ bytes ∧ d.desc.result.Short e.collected bytes.length

variable {e d d' : AtDriver}

lemma Level.refl (hbuff : d.desc.result.buff.length = RESULT_BUFF_LEN)
    (hle : d.desc.result.len.toNat ≤ RESULT_BUFF_LEN) : d.Level d :=
  ⟨[], (List.append_nil _).symm, .refl hbuff hle⟩

lemma Level.trans (h : e.Level d) (h' : d.Level d') : e.Level d' := by
  obtain ⟨bytes, hrec, hgrown⟩ := h
  obtain ⟨bytes', hrec', hgrown'⟩ := h'
  refine ⟨bytes ++ bytes', ?_, ?_⟩
  · rw [hrec', hrec, List.append_assoc]
  · rw [List.length_append]
    exact hgrown.trans hgrown'

lemma Level.trans_behind (h : e.Level d) (h' : d.Behind d') : e.Behind d' := by
  obtain ⟨bytes, hrec, hgrown⟩ := h
  obtain ⟨bytes', hrec', hshort⟩ := h'
  refine ⟨bytes ++ bytes', ?_, ?_⟩
  · rw [hrec', hrec, List.append_assoc]
  · rw [List.length_append]
    exact hgrown.trans_short hshort

/-- An interrupt receives a byte, or nothing happens to the result. -/
lemma interrupt_next {irq : AtIrq} (h : d.interrupt irq = .ok d') :
    (∃ ch, d'.received = d.received ++ [ch] ∧ d.desc.result.Next d'.desc.result) ∨
      d'.received = d.received ∧ d'.desc.result = d.desc.result := by
  unfold interrupt at h
  split at h
  · cases h
  next d₁ hstep =>
    obtain ⟨sys, hsys, rfl⟩ := step_ok hstep
    obtain rfl := Except.ok.inj h
    cases irq with
    | receive ch newCb => exact .inl ⟨ch, rfl, uartReceive_next hsys⟩
    | error => exact .inr ⟨rfl, uartError_result hsys⟩

lemma interrupt_samePoll {irq : AtIrq} (h : d.interrupt irq = .ok d') : d.sys.SamePoll d'.sys := by
  unfold interrupt at h
  split at h
  · cases h
  next d₁ hstep =>
    obtain ⟨sys, hsys, rfl⟩ := step_ok hstep
    obtain rfl := Except.ok.inj h
    cases irq with
    | receive ch newCb => exact uartReceive_samePoll hsys
    | error =>
      obtain rfl := Except.ok.inj hsys
      exact ⟨rfl, rfl⟩

lemma Behind.interrupt {irq : AtIrq} (hd : e.Behind d) (h : d.interrupt irq = .ok d') : e.Behind d' := by
  obtain ⟨bytes, hrec, hshort⟩ := hd
  rcases interrupt_next h with ⟨ch, hrec', hnext⟩ | ⟨hrec', hsame⟩
  · refine ⟨bytes ++ [ch], ?_, ?_⟩
    · rw [hrec', hrec, List.append_assoc]
    · rw [List.length_append]
      exact hshort.next hnext
  · exact ⟨bytes, hrec'.trans hrec, hsame ▸ hshort⟩

lemma Level.interrupt {irq : AtIrq} (hd : e.Level d) (h : d.interrupt irq = .ok d') :
    e.Level d' ∨ e.Behind d' := by
  obtain ⟨bytes, hrec, hgrown⟩ := hd
  rcases interrupt_next h with ⟨ch, hrec', hnext⟩ | ⟨hrec', hsame⟩
  · have hmore : d'.received = e.received ++ (bytes ++ [ch]) := by
      rw [hrec', hrec, List.append_assoc]
    refine (hgrown.next hnext).imp (fun hgrown' => ⟨bytes ++ [ch], hmore, ?_⟩)
      fun hshort => ⟨bytes ++ [ch], hmore, ?_⟩
    · rwa [List.length_append]
    · rwa [List.length_append]
  · exact .inl ⟨bytes, hrec'.trans hrec, hsame ▸ hgrown⟩

lemma interrupts_preserve {P : AtDriver → Prop} {irqs : List AtIrq}
    (hP : ∀ d d' irq, P d → d.interrupt irq = .ok d' → P d') (hd : P d)
    (h : d.interrupts irqs = .ok d') : P d' := by
  induction irqs generalizing d with
  | nil =>
    obtain rfl := Except.ok.inj h
    exact hd
  | cons irq irqs ih =>
    rw [interrupts] at h
    split at h
    · cases h
    next d₁ hirq => exact ih (hP d d₁ irq hd hirq) h

lemma mdelay_preserve {P : AtDriver → Prop} (hP : ∀ d d' irq, P d → d.interrupt irq = .ok d' → P d')
    (harrivals : ∀ d irqs, P d → P { d with arrivals := irqs }) (hd : P d) (h : d.mdelay = .ok d') :
    P d' := by
  unfold mdelay at h
  split at h
  · obtain rfl := Except.ok.inj h
    exact hd
  next irqs arrivals _ => exact interrupts_preserve hP (harrivals d arrivals hd) h

lemma level_or_behind {irq : AtIrq} (hd : e.Level d ∨ e.Behind d) (h : d.interrupt irq = .ok d') :
    e.Level d' ∨ e.Behind d' :=
  hd.elim (fun hd => hd.interrupt h) fun hd => .inr (hd.interrupt h)

lemma Level.interrupts {irqs : List AtIrq} (hd : e.Level d) (h : d.interrupts irqs = .ok d') :
    e.Level d' ∨ e.Behind d' :=
  interrupts_preserve (fun _ _ _ hd h => level_or_behind hd h) (.inl hd) h

end AtDriver

end NoOS
