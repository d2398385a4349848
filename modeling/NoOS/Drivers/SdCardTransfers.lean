import NoOS.Drivers.SdCardSpi

/-!
# What the transfers of the driver do

Each function of the driver either succeeds, and then the card was used as the function says, or
it fails, and then the card was not that of the specification.
-/

namespace NoOS
open Access SdCard

namespace SdCard

/-- The card after transfers in which it was given no data. -/
structure Reads (card card' : SdCard) : Prop where
  mem : card'.mem = card.mem
  sent : card'.sent = card.sent
  time : card.time ≤ card'.time

/-- A return code. Where it says success, `good` holds. -/
def Reports (fates : Fates) (t : ℕ) (ret : Int) (good : Prop) : Prop :=
  ret = SUCCESS ∧ good ∨ ret = FAILURE ∧ ¬IdealFrom fates t

variable {fates : Fates} {card card' card'' : SdCard} {t t' : ℕ} {ret : Int} {good good' : Prop}

lemma Reads.refl : Reads card card := ⟨rfl, rfl, le_rfl⟩

lemma Reads.trans (h : Reads card card') (h' : Reads card' card'') : Reads card card'' :=
  ⟨h'.mem.trans h.mem, h'.sent.trans h.sent, h.time.trans h'.time⟩

lemma Reports.fail (h : ¬IdealFrom fates t') (ht : t ≤ t') : Reports fates t FAILURE good :=
  Or.inr ⟨rfl, fun hideal => h (hideal.mono ht)⟩

lemma Reports.imp (h : Reports fates t ret good) (ht : t' ≤ t) (himp : good → good') :
    Reports fates t' ret good' := by
  rcases h with ⟨hret, hgood⟩ | ⟨hret, hfates⟩
  · exact Or.inl ⟨hret, himp hgood⟩
  · exact Or.inr ⟨hret, fun hideal => hfates (hideal.mono ht)⟩

lemma not_idealFrom (h : (fates card.time card.phase).ok = false) :
    ¬IdealFrom fates card.time := by
  intro hideal
  rw [hideal card.time le_rfl] at h
  cases h

lemma putOnBus_eq {x : SpiXfer}
    (h : x.len = DATA_BLOCK_LEN → ∀ multi b, card.phase ≠ .data (.write multi b)) :
    putOnBus x card = card := by
  unfold putOnBus
  split
  · rename_i hphase
    split
    · rename_i hlen
      exact absurd hphase (h hlen _ _)
    · rfl
  · rfl

lemma yields_transfer {out : Buffer} {n : ℕ} {good : IoResult → SdCard → Prop}
    (hbus : n = DATA_BLOCK_LEN → ∀ multi b, card.phase ≠ .data (.write multi b))
    (h : (fates card.time card.phase).ok = true →
      Reads card (answer fates card ⟨out, n⟩).2 ∧ (answer fates card ⟨out, n⟩).1.ret = SUCCESS ∧
        good (answer fates card ⟨out, n⟩).1 (answer fates card ⟨out, n⟩).2) :
    (spiWriteAndRead out n).Yields (answer fates) card fun r card' =>
      Reads card card' ∧ Reports fates card.time r.ret (good r card') := by
  apply Prog.Yields.op
  apply Prog.Yields.ret
  rcases hok : (fates card.time card.phase).ok
  · have hanswer : answer fates card ⟨out, n⟩ =
        (⟨FAILURE, (fates card.time card.phase).noise⟩, { card with time := card.time + 1 }) := by
      rw [answer, transfer, hok, putOnBus_eq hbus]
      rfl
    rw [hanswer]
    exact ⟨⟨rfl, rfl, Nat.le_succ _⟩, Or.inr ⟨rfl, not_idealFrom hok⟩⟩
  · obtain ⟨hreads, hret, hgood⟩ := h hok
    exact ⟨hreads, Or.inl ⟨hret, hgood⟩⟩

lemma answer_of_ok {out : Buffer} {n : ℕ} (hok : (fates card.time card.phase).ok = true)
    (hbus : n = DATA_BLOCK_LEN → ∀ multi b, card.phase ≠ .data (.write multi b))
    (hn : n ≠ CMD_LEN) :
    answer fates card ⟨out, n⟩ =
      let r := exchange (fates card.time card.phase).noise ⟨out, n⟩
        { card with time := card.time + 1 } card.phase
      (⟨SUCCESS, r.1⟩, r.2) := by
  rw [answer, transfer, hok, putOnBus_eq hbus]
  exact (if_pos rfl).trans (if_neg hn)

lemma frameArg_cmdFrame (cmd : UInt8) (arg : UInt32) :
    frameArg (cmdFrame cmd arg) = arg.toNat := by
  have hshift : ∀ k : UInt32, (arg >>> k).toUInt8.toNat = arg.toNat >>> (k.toNat % 32) % 2 ^ 8 := by
    intro k
    rw [UInt32.toNat_toUInt8, UInt32.toNat_shiftRight]
  have hlt := arg.toNat_lt
  simp only [frameArg, cmdFrame, hshift, UInt32.toNat_toUInt8, Nat.shiftRight_eq_div_pow]
  change ((arg.toNat / 2 ^ 24 % 2 ^ 8 * 256 + arg.toNat / 2 ^ 16 % 2 ^ 8) * 256 +
    arg.toNat / 2 ^ 8 % 2 ^ 8) * 256 + arg.toNat % 2 ^ 8 = arg.toNat
  lia

lemma yields_command {cmd : UInt8} (arg : UInt32) (hcmd : cmd &&& ~~~BIT_APPLICATION_CMD = cmd) :
    (spiWriteAndRead (cmdFrame cmd arg) CMD_LEN).Yields (answer fates) card fun r card' =>
      Reads card card' ∧ Reports fates card.time r.ret
        (card'.phase = .response (.ofCommand cmd arg.toNat) ∧
          card'.events = card.events ++ [.command cmd arg.toNat]) := by
  apply yields_transfer (fun h => absurd h (by decide))
  intro hok
  have hanswer : answer fates card ⟨cmdFrame cmd arg, CMD_LEN⟩ =
      (⟨SUCCESS, (fates card.time card.phase).noise⟩,
        command ⟨cmdFrame cmd arg, CMD_LEN⟩ { card with time := card.time + 1 }) := by
    have hlen : CMD_LEN ≠ DATA_BLOCK_LEN := by decide
    rw [answer, transfer, hok, putOnBus_eq (fun h => absurd h hlen)]
    rfl
  have hout : (⟨cmdFrame cmd arg, CMD_LEN⟩ : SpiXfer).out 1 = cmd := hcmd
  rw [hanswer, command, frameArg_cmdFrame, hout]
  exact ⟨⟨rfl, rfl, Nat.le_succ _⟩, rfl, rfl, rfl⟩

/-- The card is asked for a byte. -/
def Asked : SdPhase → Prop
  | .response _ | .token (.read _ _) | .dataResponse _ | .busy _ => True
  | _ => False

lemma yields_reply (out : Buffer) (h : Asked card.phase) :
    (spiWriteAndRead out 1).Yields (answer fates) card fun r card' =>
      Reads card card' ∧ Reports fates card.time r.ret
        (card'.phase = card.phase.reply (r.data 0) ∧ card'.events = card.events ∧
          (IdealFrom fates card.time → r.data 0 = card.phase.byte)) := by
  apply yields_transfer (fun h => absurd h (by decide))
  intro hok
  have hexchange : ∀ noise, exchange noise ⟨out, 1⟩ { card with time := card.time + 1 } card.phase =
      (noise, { card with time := card.time + 1, phase := card.phase.reply (noise 0) }) := by
    intro noise
    revert h
    cases card.phase with
    | token t => cases t <;> simp [Asked, exchange]
    | _ => simp [Asked, exchange]
  rw [answer_of_ok hok (fun h => absurd h (by decide)) (by decide), hexchange]
  refine ⟨⟨rfl, rfl, Nat.le_succ _⟩, rfl, rfl, rfl, ?_⟩
  intro hideal
  change (fates card.time card.phase).noise 0 = _
  rw [hideal card.time le_rfl]
  rfl

lemma yields_startToken {token : UInt8} {multi : Bool} {b : ℕ}
    (hphase : card.phase = .token (.write multi b)) (htoken : token = SdTask.startToken multi) :
    (spiWriteAndRead (filled token) 1).Yields (answer fates) card fun r card' =>
      Reads card card' ∧ Reports fates card.time r.ret
        (card'.phase = .data (.write multi b) ∧
          card'.events = card.events ++ [.startToken token]) := by
  apply yields_transfer (fun h => absurd h (by decide))
  intro hok
  rw [answer_of_ok hok (fun h => absurd h (by decide)) (by decide), hphase, exchange,
    if_pos ⟨rfl, htoken⟩]
  exact ⟨⟨rfl, rfl, Nat.le_succ _⟩, rfl, rfl, rfl⟩

lemma yields_stopToken {b : ℕ} (hphase : card.phase = .token (.write true b)) :
    (spiWriteAndRead (fun k => if k = 0 then STOP_TRANSMISSION_TOKEN else 0xFF) 2).Yields
      (answer fates) card fun r card' =>
        Reads card card' ∧ Reports fates card.time r.ret
          (card'.phase = .busy .control ∧ card'.events = card.events ++ [.stopToken]) := by
  apply yields_transfer (fun h => absurd h (by decide))
  intro hok
  rw [answer_of_ok hok (fun h => absurd h (by decide)) (by decide), hphase]
  exact ⟨⟨rfl, rfl, Nat.le_succ _⟩, rfl, rfl, rfl⟩

lemma yields_dataIn {multi : Bool} {b : ℕ} (hphase : card.phase = .data (.read multi b)) :
    (spiWriteAndRead (filled 0xFF) DATA_BLOCK_LEN).Yields (answer fates) card fun r card' =>
      Reads card card' ∧ Reports fates card.time r.ret
        (card'.phase = .crc (.read multi b) ∧ card'.events = card.events ++ [.readBlock b] ∧
          ∀ k, r.data k = card.mem (DATA_BLOCK_LEN * b + k)) := by
  have hbus : DATA_BLOCK_LEN = DATA_BLOCK_LEN → ∀ multi b, card.phase ≠ .data (.write multi b) := by
    intro _ multi b
    rw [hphase]
    simp
  apply yields_transfer hbus
  intro hok
  rw [answer_of_ok hok hbus (by decide), hphase]
  exact ⟨⟨rfl, rfl, Nat.le_succ _⟩, rfl, rfl, rfl, fun k => rfl⟩

lemma yields_crcIn {multi : Bool} {b : ℕ} (hphase : card.phase = .crc (.read multi b)) :
    (spiWriteAndRead (filled 0xFF) CRC_LEN).Yields (answer fates) card fun r card' =>
      Reads card card' ∧ Reports fates card.time r.ret
        (card'.phase = (SdTask.read multi b).next ∧ card'.events = card.events) := by
  apply yields_transfer (fun h => absurd h (by decide))
  intro hok
  rw [answer_of_ok hok (fun h => absurd h (by decide)) (by decide), hphase]
  exact ⟨⟨rfl, rfl, Nat.le_succ _⟩, rfl, rfl, rfl⟩

lemma yields_crcOut {multi : Bool} {b : ℕ} (hphase : card.phase = .crc (.write multi b)) :
    (spiWriteAndRead (filled 0xFF) CRC_LEN).Yields (answer fates) card fun r card' =>
      Reads card card' ∧ Reports fates card.time r.ret
        (card'.phase = .dataResponse (.write multi b) ∧ card'.events = card.events) := by
  apply yields_transfer (fun h => absurd h (by decide))
  intro hok
  rw [answer_of_ok hok (fun h => absurd h (by decide)) (by decide), hphase]
  exact ⟨⟨rfl, rfl, Nat.le_succ _⟩, rfl, rfl, rfl⟩

/-- The card after a transfer of data, which it stores when the transfer succeeds. -/
structure Given (b : ℕ) (block : Buffer) (card card' : SdCard) : Prop where
  sent : card'.sent = card.sent ++ [(b, block)]
  time : card.time ≤ card'.time

lemma yields_dataOut {multi : Bool} {b : ℕ} (block : Buffer)
    (hphase : card.phase = .data (.write multi b)) :
    (spiWriteAndRead block DATA_BLOCK_LEN).Yields (answer fates) card fun r card' =>
      Given b block card card' ∧ Reports fates card.time r.ret
        (card'.phase = .crc (.write multi b) ∧ card'.events = card.events ++ [.writtenBlock b] ∧
          card'.mem = memcpy card.mem (DATA_BLOCK_LEN * b) block 0 DATA_BLOCK_LEN) := by
  apply Prog.Yields.op
  apply Prog.Yields.ret
  have hbus : putOnBus ⟨block, DATA_BLOCK_LEN⟩ { card with time := card.time + 1 } =
      { card with time := card.time + 1, sent := card.sent ++ [(b, block)] } := by
    simp only [putOnBus, hphase, if_true]
  rcases hok : (fates card.time card.phase).ok
  · have hanswer : answer fates card ⟨block, DATA_BLOCK_LEN⟩ =
        (⟨FAILURE, (fates card.time card.phase).noise⟩,
          { card with time := card.time + 1, sent := card.sent ++ [(b, block)] }) := by
      rw [answer, transfer, hok, hbus]
      rfl
    rw [hanswer]
    exact ⟨⟨rfl, Nat.le_succ _⟩, Or.inr ⟨rfl, not_idealFrom hok⟩⟩
  · have hanswer : answer fates card ⟨block, DATA_BLOCK_LEN⟩ =
        (⟨SUCCESS, (fates card.time card.phase).noise⟩,
          { card with
            time := card.time + 1, sent := card.sent ++ [(b, block)]
            phase := .crc (.write multi b), events := card.events ++ [.writtenBlock b]
            mem := memcpy card.mem (DATA_BLOCK_LEN * b) block 0 DATA_BLOCK_LEN }) := by
      rw [answer, transfer, hok, hbus]
      simp only [hphase, exchange, if_true]
      rfl
    rw [hanswer]
    exact ⟨⟨rfl, Nat.le_succ _⟩, Or.inl ⟨rfl, rfl, rfl, rfl⟩⟩

end SdCard

end NoOS
