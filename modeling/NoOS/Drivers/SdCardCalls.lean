import NoOS.Drivers.SdCardTransfers

/-!
# Commands and single blocks on the SD card
-/

namespace NoOS
open Access SdCard

namespace SdCard

variable {fates : Fates} {card : SdCard}

/-- While the card says nothing, nothing happens. The card of the specification says something
at the first attempt. -/
lemma yields_attempts (n : ℕ) (d : UInt8) (hasked : Asked card.phase)
    (hstay : card.phase.reply 0xFF = card.phase) (hspeaks : card.phase.byte ≠ 0xFF) :
    (waitForResponse n d).Yields (answer fates) card fun r card' =>
      Reads card card' ∧ (r.ret = SUCCESS ∧ card'.phase = card.phase.reply (r.data 0) ∧
          card'.events = card.events ∧
          (IdealFrom fates card.time → r.data 0 = card.phase.byte) ∨
        r.ret = FAILURE ∧ (n ≠ 0 → ¬IdealFrom fates card.time)) := by
  induction n generalizing d card with
  | zero => exact Prog.Yields.ret ⟨.refl, Or.inr ⟨rfl, fun h => absurd rfl h⟩⟩
  | succ n ih =>
    rw [waitForResponse]
    apply (yields_reply _ hasked).bind_of
    rintro r card' ⟨hreads, ⟨hret, hphase, hevents, hideal⟩ | ⟨hret, hbad⟩⟩
    · rw [if_neg (not_not_intro hret)]
      split_ifs with hdata
      · exact Prog.Yields.ret ⟨hreads, Or.inl ⟨rfl, hphase, hevents, hideal⟩⟩
      · have hsilent : r.data 0 = 0xFF := not_not.mp hdata
        have hbad : ¬IdealFrom fates card.time := fun h => hspeaks ((hideal h).symm.trans hsilent)
        have hsame : card'.phase = card.phase := by
          rw [hphase, hsilent, hstay]
        rw [← hsame] at hasked hstay hspeaks
        apply (ih _ hasked hstay hspeaks).mono
        rintro r' card'' ⟨hreads', ⟨hret', hphase', hevents', -⟩ | ⟨hret', -⟩⟩
        · rw [hsame] at hphase'
          exact ⟨hreads.trans hreads', Or.inl ⟨hret', hphase', hevents'.trans hevents,
            fun h => absurd h hbad⟩⟩
        · exact ⟨hreads.trans hreads', Or.inr ⟨hret', fun _ => hbad⟩⟩
    · rw [hret, if_pos (by decide)]
      exact Prog.Yields.ret ⟨hreads, Or.inr ⟨rfl, fun _ => hbad⟩⟩

lemma yields_waitForResponse (d : UInt8) (hasked : Asked card.phase)
    (hstay : card.phase.reply 0xFF = card.phase) (hspeaks : card.phase.byte ≠ 0xFF) :
    (waitForResponse WAIT_ATTEMPTS d).Yields (answer fates) card fun r card' =>
      Reads card card' ∧ Reports fates card.time r.ret
        (card'.phase = card.phase.reply (r.data 0) ∧ card'.events = card.events ∧
          (IdealFrom fates card.time → r.data 0 = card.phase.byte)) := by
  apply (yields_attempts WAIT_ATTEMPTS d hasked hstay hspeaks).mono
  rintro r card' ⟨hreads, ⟨hret, hgood⟩ | ⟨hret, hbad⟩⟩
  · exact ⟨hreads, Or.inl ⟨hret, hgood⟩⟩
  · exact ⟨hreads, Or.inr ⟨hret, hbad (by decide)⟩⟩

lemma yields_busyAttempts (n : ℕ) {t : SdTask} (hphase : card.phase = .busy t) :
    (waitUntilNotBusy n).Yields (answer fates) card fun ret card' =>
      Reads card card' ∧ (ret = SUCCESS ∧ card'.phase = t.next ∧ card'.events = card.events ∨
        ret = FAILURE ∧ (n ≠ 0 → ¬IdealFrom fates card.time)) := by
  induction n generalizing card with
  | zero => exact Prog.Yields.ret ⟨.refl, Or.inr ⟨rfl, fun h => absurd rfl h⟩⟩
  | succ n ih =>
    have hasked : Asked card.phase := by
      rw [hphase]
      trivial
    rw [waitUntilNotBusy]
    apply (yields_reply _ hasked).bind_of
    rintro r card' ⟨hreads, ⟨hret, hreply, hevents, hideal⟩ | ⟨hret, hbad⟩⟩
    · rw [hphase] at hreply hideal
      rw [if_neg (not_not_intro hret)]
      split_ifs with hdata
      · rw [SdPhase.reply, if_neg hdata] at hreply
        exact Prog.Yields.ret ⟨hreads, Or.inl ⟨rfl, hreply, hevents⟩⟩
      · have hbusy : r.data 0 = 0 := not_not.mp hdata
        have hbad : ¬IdealFrom fates card.time := by
          intro h
          rw [hideal h] at hbusy
          exact absurd hbusy (by decide : (0xFF : UInt8) ≠ 0)
        rw [SdPhase.reply, if_pos hbusy] at hreply
        apply (ih hreply).mono
        rintro ret card'' ⟨hreads', ⟨hret', hphase', hevents'⟩ | ⟨hret', -⟩⟩
        · exact ⟨hreads.trans hreads', Or.inl ⟨hret', hphase', hevents'.trans hevents⟩⟩
        · exact ⟨hreads.trans hreads', Or.inr ⟨hret', fun _ => hbad⟩⟩
    · rw [hret, if_pos (by decide)]
      exact Prog.Yields.ret ⟨hreads, Or.inr ⟨rfl, fun _ => hbad⟩⟩

lemma yields_waitUntilNotBusy {t : SdTask} (hphase : card.phase = .busy t) :
    (waitUntilNotBusy WAIT_ATTEMPTS).Yields (answer fates) card fun ret card' =>
      Reads card card' ∧ Reports fates card.time ret
        (card'.phase = t.next ∧ card'.events = card.events) := by
  apply (yields_busyAttempts WAIT_ATTEMPTS hphase).mono
  rintro ret card' ⟨hreads, ⟨hret, hgood⟩ | ⟨hret, hbad⟩⟩
  · exact ⟨hreads, Or.inl ⟨hret, hgood⟩⟩
  · exact ⟨hreads, Or.inr ⟨hret, hbad (by decide)⟩⟩

lemma yields_sendCommand {cmd : UInt8} (arg : UInt32) (response : Buffer)
    (hcmd : cmd &&& ~~~BIT_APPLICATION_CMD = cmd) (happ : cmd &&& BIT_APPLICATION_CMD = 0) :
    (sendCommand cmd arg R1_LEN response).Yields (answer fates) card fun r card' =>
      Reads card card' ∧ Reports fates card.time r.ret
        (card'.phase = (SdPhase.response (.ofCommand cmd arg.toNat)).reply (r.data 0) ∧
          card'.events = card.events ++ [.command cmd arg.toNat] ∧
          (IdealFrom fates card.time → r.data 0 = R1_READY_STATE)) := by
  rw [sendCommand, if_neg (not_not_intro happ), sendFrame]
  apply (yields_command arg hcmd).bind_of
  rintro r card' ⟨hreads, ⟨hret, hphase, hevents⟩ | ⟨hret, hbad⟩⟩
  · rw [if_neg (not_not_intro hret)]
    have hasked : Asked card'.phase ∧ card'.phase.reply 0xFF = card'.phase ∧
        card'.phase.byte ≠ 0xFF := by
      rw [hphase]
      exact ⟨trivial, rfl, (by decide : R1_READY_STATE ≠ 0xFF)⟩
    apply (yields_waitForResponse _ hasked.1 hasked.2.1 hasked.2.2).bind_of
    rintro r' card'' ⟨hreads', ⟨hret', hreply, hevents', hideal⟩ | ⟨hret', hbad⟩⟩
    · rw [if_neg (not_not_intro hret'), if_neg (by decide)]
      rw [hphase] at hreply hideal
      refine Prog.Yields.ret ⟨hreads.trans hreads', Or.inl ⟨rfl, hreply, ?_, ?_⟩⟩
      · rw [hevents', hevents]
      · exact fun h => hideal (h.mono hreads.time)
    · rw [hret', if_pos (by decide)]
      exact Prog.Yields.ret ⟨hreads.trans hreads', Reports.fail hbad hreads.time⟩
  · rw [hret, if_pos (by decide)]
    exact Prog.Yields.ret ⟨hreads, Or.inr ⟨rfl, hbad⟩⟩

lemma yields_readBlock {data : Buffer} {pos : ℕ} {response : Buffer} {multi : Bool} {b : ℕ}
    (hphase : card.phase = .token (.read multi b)) :
    (readBlock data pos response).Yields (answer fates) card fun r card' =>
      Reads card card' ∧ Reports fates card.time r.ret
        (card'.phase = (SdTask.read multi b).next ∧
          card'.events = card.events ++ [.readBlock b] ∧
          r.data = memcpy data pos card.mem (DATA_BLOCK_LEN * b) DATA_BLOCK_LEN) := by
  have hasked : Asked card.phase ∧ card.phase.reply 0xFF = card.phase ∧
      card.phase.byte ≠ 0xFF := by
    rw [hphase]
    exact ⟨trivial, rfl, (by decide : START_1_BLOCK_TOKEN ≠ 0xFF)⟩
  rw [readBlock]
  apply (yields_waitForResponse _ hasked.1 hasked.2.1 hasked.2.2).bind_of
  rintro r card₁ ⟨hreads₁, ⟨hret, hreply, hevents₁, hideal⟩ | ⟨hret, hbad⟩⟩
  · rw [hphase] at hreply hideal
    rw [if_neg (not_not_intro hret)]
    split_ifs with herror htoken
    · apply Prog.Yields.ret
      refine ⟨hreads₁, Or.inr ⟨rfl, fun h => ?_⟩⟩
      rw [hideal h] at herror
      exact absurd herror (by decide : START_1_BLOCK_TOKEN &&& MASK_ERROR_TOKEN ≠ 0)
    · exact Prog.Yields.ret ⟨hreads₁, Or.inr ⟨rfl, fun h => htoken (hideal h)⟩⟩
    · rw [not_not.mp htoken] at hreply
      apply (yields_dataIn hreply).bind_of
      rintro r₂ card₂ ⟨hreads₂, ⟨hret₂, hphase₂, hevents₂, hdata⟩ | ⟨hret₂, hbad⟩⟩
      · rw [if_neg (not_not_intro hret₂)]
        apply (yields_crcIn hphase₂).bind_of
        rintro r₃ card₃ ⟨hreads₃, ⟨hret₃, hphase₃, hevents₃⟩ | ⟨hret₃, hbad⟩⟩
        · rw [if_neg (not_not_intro hret₃)]
          refine Prog.Yields.ret ⟨(hreads₁.trans hreads₂).trans hreads₃,
            Or.inl ⟨rfl, hphase₃, ?_, ?_⟩⟩
          · rw [hevents₃, hevents₂, hevents₁]
          · funext k
            simp only [memcpy, hdata, hreads₁.mem, Nat.zero_add]
        · rw [hret₃, if_pos (by decide)]
          exact Prog.Yields.ret ⟨(hreads₁.trans hreads₂).trans hreads₃,
            Reports.fail hbad (hreads₁.time.trans hreads₂.time)⟩
      · rw [hret₂, if_pos (by decide)]
        exact Prog.Yields.ret ⟨hreads₁.trans hreads₂, Reports.fail hbad hreads₁.time⟩
  · rw [hret, if_pos (by decide)]
    exact Prog.Yields.ret ⟨hreads₁, Or.inr ⟨rfl, hbad⟩⟩

/-- Whatever fails, the only data that the card is given are those of the block. -/
lemma yields_writeBlock {data : Buffer} {pos : ℕ} {nb : UInt32} {response : Buffer} {b : ℕ}
    (hphase : card.phase = .token (.write (nb ≠ 1) b)) :
    (writeBlock data pos nb response).Yields (answer fates) card fun r card' =>
      card.time ≤ card'.time ∧
      (card'.sent = card.sent ∨ card'.sent = card.sent ++ [(b, fun k => data (pos + k))]) ∧
      Reports fates card.time r.ret
        (card'.phase = (SdTask.write (nb ≠ 1) b).next ∧
          card'.events =
            card.events ++ [.startToken (SdTask.startToken (nb ≠ 1)), .writtenBlock b] ∧
          card'.mem = memcpy card.mem (DATA_BLOCK_LEN * b) data pos DATA_BLOCK_LEN ∧
          ∀ k, k < pos ∨ pos + DATA_BLOCK_LEN ≤ k → r.data k = data k) := by
  have htoken : (if nb = 1 then START_1_BLOCK_TOKEN else START_N_BLOCK_TOKEN) =
      SdTask.startToken (nb ≠ 1) := by
    by_cases hnb : nb = 1
    · simp [hnb, SdTask.startToken]
    · simp [hnb, SdTask.startToken]
  rw [writeBlock]
  apply (yields_startToken hphase htoken).bind_of
  rintro r₁ card₁ ⟨hreads₁, ⟨hret₁, hphase₁, hevents₁⟩ | ⟨hret₁, hbad⟩⟩
  · rw [if_neg (not_not_intro hret₁)]
    apply (yields_dataOut _ hphase₁).bind_of
    rintro r₂ card₂ ⟨⟨hsent₂, htime₂⟩, hreport₂⟩
    rw [hreads₁.sent] at hsent₂
    have htime := hreads₁.time.trans htime₂
    rcases hreport₂ with ⟨hret₂, hphase₂, hevents₂, hmem₂⟩ | ⟨hret₂, hbad⟩
    · rw [if_neg (not_not_intro hret₂)]
      apply (yields_crcOut hphase₂).bind_of
      rintro r₃ card₃ ⟨hreads₃, hreport₃⟩
      have htime₃ := htime.trans hreads₃.time
      rw [← hreads₃.sent] at hsent₂
      rcases hreport₃ with ⟨hret₃, hphase₃, hevents₃⟩ | ⟨hret₃, hbad⟩
      · have hasked : Asked card₃.phase ∧ card₃.phase.reply 0xFF = card₃.phase ∧
            card₃.phase.byte ≠ 0xFF := by
          rw [hphase₃]
          exact ⟨trivial, rfl, (by decide : (0x05 : UInt8) ≠ 0xFF)⟩
        rw [if_neg (not_not_intro hret₃)]
        apply (yields_waitForResponse _ hasked.1 hasked.2.1 hasked.2.2).bind_of
        rintro r₄ card₄ ⟨hreads₄, hreport₄⟩
        have htime₄ := htime₃.trans hreads₄.time
        rw [← hreads₄.sent] at hsent₂
        rcases hreport₄ with ⟨hret₄, hreply₄, hevents₄, hideal⟩ | ⟨hret₄, hbad⟩
        · rw [if_neg (not_not_intro hret₄)]
          rw [hphase₃] at hreply₄ hideal
          split_ifs with haccepted
          · apply Prog.Yields.ret
            refine ⟨htime₄, Or.inr hsent₂, Reports.fail (fun h => haccepted ?_) htime₃⟩
            rw [hideal h]
            exact (by decide : (0x05 : UInt8) &&& MASK_RESPONSE_TOKEN = 0x4)
          · have hbyte := not_not.mp haccepted
            have hspeaks : r₄.data 0 ≠ 0xFF := by
              intro h
              rw [h] at hbyte
              exact absurd hbyte (by decide)
            rw [SdPhase.reply, if_neg hspeaks, if_pos hbyte] at hreply₄
            apply (yields_waitUntilNotBusy hreply₄).bind_of
            rintro ret card₅ ⟨hreads₅, hreport₅⟩
            have htime₅ := htime₄.trans hreads₅.time
            rw [← hreads₅.sent] at hsent₂
            rcases hreport₅ with ⟨hret₅, hphase₅, hevents₅⟩ | ⟨hret₅, hbad⟩
            · rw [if_neg (not_not_intro hret₅)]
              apply Prog.Yields.ret
              refine ⟨htime₅, Or.inr hsent₂, Or.inl ⟨rfl, hphase₅, ?_, ?_, ?_⟩⟩
              · rw [hevents₅, hevents₄, hevents₃, hevents₂, hevents₁, htoken, List.append_assoc]
                rfl
              · rw [hreads₅.mem, hreads₄.mem, hreads₃.mem, hmem₂, hreads₁.mem]
                funext k
                simp only [memcpy, Nat.zero_add]
              · intro k hk
                exact if_neg (by lia)
            · rw [hret₅, if_pos (by decide)]
              exact Prog.Yields.ret ⟨htime₅, Or.inr hsent₂, Reports.fail hbad htime₄⟩
        · rw [hret₄, if_pos (by decide)]
          exact Prog.Yields.ret ⟨htime₄, Or.inr hsent₂, Reports.fail hbad htime₃⟩
      · rw [hret₃, if_pos (by decide)]
        exact Prog.Yields.ret ⟨htime₃, Or.inr hsent₂, Reports.fail hbad htime⟩
    · rw [hret₂, if_pos (by decide)]
      exact Prog.Yields.ret ⟨htime, Or.inr hsent₂, Reports.fail hbad hreads₁.time⟩
  · rw [hret₁, if_pos (by decide)]
    exact Prog.Yields.ret ⟨hreads₁.time, Or.inl hreads₁.sent, Or.inr ⟨rfl, hbad⟩⟩

end SdCard

end NoOS
