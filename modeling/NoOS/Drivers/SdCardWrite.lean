import NoOS.Drivers.SdCardRead

/-!
# Writing to the SD card

When the buffers of the blocks that are partly written hold what the card holds, every block that
the card is given is that of the memory as it is meant to be.
-/

namespace NoOS
open Access SdCard BlockRange

/-- The memory after the write. -/
def rewritten (mem data : Buffer) (address len : ℕ) : Buffer := memcpy mem address data 0 len

/-- A block that the card is given is block `b` of `mem`. -/
def BlockOf (mem : Buffer) (b : ℕ) (block : Buffer) : Prop :=
  ∀ k < 512, block k = mem (512 * b + k)

/-- The buffer for block `i` of the write. -/
def buffOf (firstBlock lastBlock : Buffer) (i : ℕ) : Buffer := if i = 0 then firstBlock else lastBlock

/-- The buffers of the blocks that are partly written hold what the card holds. -/
def Filled (mem firstBlock lastBlock : Buffer) (a l : ℕ) : Prop :=
  ∀ i < count 512 a l, ¬(first 512 a i = 0 ∧ size 512 a l i = 512) →
    BlockOf mem (a / 512 + i) (buffOf firstBlock lastBlock i)

section Content

variable {mem data : Buffer} {a l i : ℕ}

/-- The bytes of the range are copied into a buffer that holds the block. -/
lemma blockOf_memcpy {buff data' : Buffer} (hi : i < count 512 a l)
    (hbuff : BlockOf mem (a / 512 + i) buff)
    (hdata : ∀ k, before 512 a i ≤ k → data' k = data k) :
    BlockOf (rewritten mem data a l) (a / 512 + i)
      (memcpy buff (first 512 a i) data' (before 512 a i) (size 512 a l i)) := by
  intro k hk
  have hiff := mem_range_iff (l := l) (by decide) hi hk
  have hadd := add_before (a := a) (i := i) (by decide : 0 < 512)
  by_cases hin : first 512 a i ≤ k ∧ k < first 512 a i + size 512 a l i
  · have hidx : 0 + (512 * (a / 512 + i) + k - a) = before 512 a i + (k - first 512 a i) := by lia
    simp only [rewritten, memcpy, if_pos hin, if_pos (hiff.mpr hin), hidx]
    exact hdata _ (Nat.le_add_right _ _)
  · simp only [rewritten, memcpy, if_neg hin, if_neg (mt hiff.mp hin)]
    exact hbuff k hk

lemma blockOf_data {data' : Buffer} (hi : i < count 512 a l)
    (hwhole : first 512 a i = 0 ∧ size 512 a l i = 512)
    (hdata : ∀ k, before 512 a i ≤ k → data' k = data k) :
    BlockOf (rewritten mem data a l) (a / 512 + i) (fun k => data' (before 512 a i + k)) := by
  have hcopy := @blockOf_memcpy mem data a l i (fun k => mem (512 * (a / 512 + i) + k)) data' hi
    (fun k _ => rfl) hdata
  intro k hk
  rw [← hcopy k hk, hwhole.1, hwhole.2]
  exact (if_pos (by lia)).symm

lemma rewritten_step {mem' block : Buffer} {pos : ℕ}
    (hmem : ∀ x, mem' x = if x < 512 * (a / 512 + i) then rewritten mem data a l x else mem x)
    (hblock : BlockOf (rewritten mem data a l) (a / 512 + i) (fun k => block (pos + k))) (x : ℕ) :
    memcpy mem' (512 * (a / 512 + i)) block pos 512 x =
      if x < 512 * (a / 512 + (i + 1)) then rewritten mem data a l x else mem x := by
  by_cases hlow : x < 512 * (a / 512 + i)
  · rw [memcpy, if_neg (by lia), hmem, if_pos hlow, if_pos (by lia)]
  · by_cases hhigh : x < 512 * (a / 512 + (i + 1))
    · have hk := hblock (x - 512 * (a / 512 + i)) (by lia)
      have hx : 512 * (a / 512 + i) + (x - 512 * (a / 512 + i)) = x := by lia
      rw [hx] at hk
      rw [memcpy, if_pos (by lia), if_pos hhigh]
      exact hk
    · rw [memcpy, if_neg (by lia), hmem, if_neg hlow, if_neg hhigh]

lemma rewritten_start (x : ℕ) :
    mem x = if x < 512 * (a / 512 + 0) then rewritten mem data a l x else mem x := by
  split
  · exact (if_neg (by lia)).symm
  · rfl

lemma rewritten_end (x : ℕ) :
    (if x < 512 * (a / 512 + count 512 a l) then rewritten mem data a l x else mem x) =
      rewritten mem data a l x := by
  split
  · rfl
  · refine (if_neg fun h => ?_).symm
    have hl := add_le_count (a := a) (l := l) (by decide : 0 < 512)
    lia

end Content

namespace SdCard

section Blocks

variable (fates : Fates) (address len : UInt64) (mem data firstBlock lastBlock : Buffer)

/-- Every block that the card was given is one of the memory as it is meant to be. -/
def SentRight (card : SdCard) : Prop :=
  Filled mem firstBlock lastBlock address.toNat len.toNat → ∀ p ∈ card.sent,
    BlockOf (rewritten mem data address.toNat len.toNat) p.1 p.2

/-- The memory `mem` was rewritten in the blocks before block `i`. -/
structure WrittenTo (i : ℕ) (card : SdCard) : Prop where
  phase : card.phase = SdPhase.before .write (count 512 address.toNat len.toNat ≠ 1) (address.toNat / 512) i
  memory : Filled mem firstBlock lastBlock address.toNat len.toNat → ∀ x, card.mem x =
    if x < 512 * (address.toNat / 512 + i) then rewritten mem data address.toNat len.toNat x else mem x
  sent : SentRight address len mem data firstBlock lastBlock card

/-- The `m` blocks from block `i` on are written, or the write fails. -/
def WritesFrom (i m : ℕ) (card : SdCard) (ret : Int) (card' : SdCard) : Prop :=
  card.time ≤ card'.time ∧ SentRight address len mem data firstBlock lastBlock card' ∧
    Reports fates card.time ret
      (card'.phase = SdPhase.before .write (count 512 address.toNat len.toNat ≠ 1)
        (address.toNat / 512) (count 512 address.toNat len.toNat) ∧
      card'.events = card.events ++ (List.range' i m).flatMap (fun j =>
        [.startToken (SdTask.startToken (count 512 address.toNat len.toNat ≠ 1)),
          .writtenBlock (address.toNat / 512 + j)]) ∧
      (Filled mem firstBlock lastBlock address.toNat len.toNat →
        card'.mem = rewritten mem data address.toNat len.toNat))

end Blocks

variable {fates : Fates} {card : SdCard} {address len : UInt64} {mem data firstBlock lastBlock response : Buffer}
  {i m : ℕ}

/-- One block from `block + pos`, and then the blocks behind it. -/
lemma yields_thenBlocks (h : address.toNat + len.toNat ≤ 2 ^ 40) (hi : i < count 512 address.toNat len.toNat)
    (hcard : WrittenTo address len mem data firstBlock lastBlock i card) {block : Buffer} {pos : ℕ}
    {next : IoResult → SdProg Int}
    (hblock : Filled mem firstBlock lastBlock address.toNat len.toNat →
      BlockOf (rewritten mem data address.toNat len.toNat) (address.toNat / 512 + i) (fun k => block (pos + k)))
    (hnext : ∀ (r : IoResult) (card₁ : SdCard), (∀ k, k < pos ∨ pos + 512 ≤ k → r.data k = block k) →
      WrittenTo address len mem data firstBlock lastBlock (i + 1) card₁ →
      (next r).Yields (answer fates) card₁ (WritesFrom fates address len mem data firstBlock lastBlock (i + 1) m card₁)) :
    (do
      let r ← writeBlock block pos (getNbOfBlocks address len) response
      if r.ret ≠ SUCCESS then return FAILURE
      next r : SdProg Int).Yields (answer fates) card
        (WritesFrom fates address len mem data firstBlock lastBlock i (m + 1) card) := by
  obtain ⟨hphase, hmem, hsent⟩ := hcard
  have hmulti := multi_eq h
  rw [before_of_lt hi, ← hmulti] at hphase
  apply (yields_writeBlock hphase).bind_of
  rintro r card₁ ⟨htime₁, hsent₁, hreport₁⟩
  have hright : SentRight address len mem data firstBlock lastBlock card₁ := by
    intro hfilled p hp
    rcases hsent₁ with heq | heq
    · exact hsent hfilled p (heq ▸ hp)
    · rw [heq, List.mem_append, List.mem_singleton] at hp
      rcases hp with hp | rfl
      · exact hsent hfilled p hp
      · exact hblock hfilled
  rcases hreport₁ with ⟨hret, hphase₁, hevents₁, hmem₁, hdata⟩ | ⟨hret, hbad⟩
  · rw [if_neg (not_not_intro hret)]
    rw [hmulti] at hphase₁ hevents₁
    rw [write_next] at hphase₁
    apply (hnext r card₁ hdata ⟨hphase₁, fun hfilled x => ?_, hright⟩).mono
    · rintro ret card' ⟨htime, hall, hreport⟩
      refine ⟨htime₁.trans htime, hall, hreport.imp htime₁ ?_⟩
      rintro ⟨hphase', hevents', hmem'⟩
      refine ⟨hphase', ?_, hmem'⟩
      rw [hevents', hevents₁, List.range'_succ, List.flatMap_cons, List.append_assoc]
    · rw [hmem₁]
      exact rewritten_step (hmem hfilled) (hblock hfilled) x
  · rw [hret, if_pos (by decide)]
    exact Prog.Yields.ret ⟨htime₁, hright, Or.inr ⟨rfl, hbad⟩⟩

/-- The loop of `write_multiple_blocks` before block `i`. -/
lemma yields_writeBlocks (h : address.toNat + len.toNat ≤ 2 ^ 40) (m : ℕ) {i : ℕ} {data' : Buffer}
    (hm : i + m = count 512 address.toNat len.toNat)
    (hdata : ∀ k, upto 512 address.toNat len.toNat i ≤ k → data' k = data k)
    (hcard : WrittenTo address len mem data firstBlock lastBlock i card) :
    (writeBlocks address len response firstBlock lastBlock (List.range' i m)
      (upto 512 address.toNat len.toNat i) data').Yields (answer fates) card
        (WritesFrom fates address len mem data firstBlock lastBlock i m card) := by
  induction m generalizing i card data' with
  | zero =>
    obtain rfl : i = count 512 address.toNat len.toNat := hm
    refine Prog.Yields.ret ⟨le_rfl, hcard.sent, Or.inl ⟨rfl, hcard.phase, (List.append_nil _).symm, ?_⟩⟩
    intro hfilled
    funext x
    rw [hcard.memory hfilled x, rewritten_end]
  | succ m ih =>
    have hi : i < count 512 address.toNat len.toNat := by lia
    have hB : 0 < 512 := by decide
    have hnext := upto_succ hB hi
    rw [upto_of_lt hB hi] at hdata ⊢
    rw [List.range'_succ, writeBlocks]
    simp only [toNat_buffFirstIdx, toNat_buffCopyLen h hi]
    rw [hnext]
    have hkeep : ∀ k, upto 512 address.toNat len.toNat (i + 1) ≤ k → data' k = data k :=
      fun k hk => hdata k ((Nat.le_add_right _ _).trans (hnext.trans_le hk))
    have hpart : ∀ buff, (Filled mem firstBlock lastBlock address.toNat len.toNat →
          BlockOf mem (address.toNat / 512 + i) buff) →
        Filled mem firstBlock lastBlock address.toNat len.toNat →
        BlockOf (rewritten mem data address.toNat len.toNat) (address.toNat / 512 + i)
          (fun k => memcpy buff (first 512 address.toNat i) data' (before 512 address.toNat i)
            (size 512 address.toNat len.toNat i) (0 + k)) := by
      intro buff hbuff hfilled k hk
      exact (congrArg _ (Nat.zero_add k)).trans (blockOf_memcpy hi (hbuff hfilled) hdata k hk)
    split_ifs with hwhole hfirst
    · refine yields_thenBlocks h hi hcard (fun _ => blockOf_data hi hwhole hdata)
        fun r card₁ hr hcard₁ => ih (by lia) (fun k hk => ?_) hcard₁
      have hsize : size 512 address.toNat len.toNat i = 512 := hwhole.2
      rw [hr k (Or.inr (by lia))]
      exact hkeep k hk
    · refine yields_thenBlocks h hi hcard (hpart firstBlock fun hfilled => ?_)
        fun _ _ _ hcard₁ => ih (by lia) hkeep hcard₁
      have hbuff := hfilled i hi hwhole
      rwa [buffOf, if_pos hfirst] at hbuff
    · have hzero : first 512 address.toNat i = 0 := if_neg hfirst
      rw [hzero] at hpart
      refine yields_thenBlocks h hi hcard (hpart lastBlock fun hfilled => ?_)
        fun _ _ _ hcard₁ => ih (by lia) hkeep hcard₁
      have hbuff := hfilled i hi hwhole
      rwa [buffOf, if_neg hfirst] at hbuff

/-- The block of `x` is read into a buffer of the stack, if it is needed. -/
def readIf (needed : Prop) [Decidable needed] (desc : SdDesc) (stack : SdStack) (block : Buffer)
    (x : UInt64) : SdProg IoResult :=
  if needed then sdRead desc stack block (x &&& MASK_BLOCK_NUMBER) 512 else return ⟨SUCCESS, block⟩

/-- What `sd_write` reads, with the return codes, which it does not look at. -/
def readBacks (desc : SdDesc) (stack : SdStack) (address len : UInt64) :
    SdProg (IoResult × IoResult) := do
  let f ← readIf (ReadsFirst address len) desc stack stack.firstBlock address
  let l ← readIf (ReadsLast address len) desc stack stack.lastBlock (address + len - 1)
  return (f, l)

/-- The write after the two blocks are read. -/
def sdWriteRest (stack : SdStack) (firstBlock lastBlock data : Buffer) (address len : UInt64) :
    SdProg Int := do
  let nb := getNbOfBlocks address len
  let cmd := if nb = 1 then CMD 24 else CMD 25
  let r ← sendCommand cmd (address >>> 9).toUInt32 R1_LEN stack.response
  if r.ret ≠ SUCCESS then return FAILURE
  if r.data 0 ≠ R1_READY_STATE then return FAILURE
  let ret ← writeBlocks address len stack.response firstBlock lastBlock (List.range nb.toNat) 0 data
  if ret ≠ SUCCESS then return FAILURE
  if nb ≠ 1 then
    let r ← spiWriteAndRead (fun k => if k = 0 then STOP_TRANSMISSION_TOKEN else 0xFF) 2
    if r.ret ≠ SUCCESS then return FAILURE
    let ret ← waitUntilNotBusy WAIT_ATTEMPTS
    if ret ≠ SUCCESS then return FAILURE
    return SUCCESS
  return SUCCESS

lemma sdWrite_eq {desc : SdDesc} (h : ¬desc.Refuses address len) (stack : SdStack)
    (data : Buffer) :
    sdWrite desc stack data address len = readBacks desc stack address len >>= fun r =>
      sdWriteRest stack r.1.data r.2.data data address len := by
  rw [sdWrite, if_neg h, readBacks]
  by_cases hfirst : ReadsFirst address len
  · by_cases hlast : ReadsLast address len
    · simp only [if_pos hfirst, if_pos hlast, readIf, readBack, bind_assoc, pure_bind]
      rfl
    · simp only [if_pos hfirst, if_neg hlast, readIf, readBack, bind_assoc, pure_bind]
      rfl
  · by_cases hlast : ReadsLast address len
    · simp only [if_neg hfirst, if_pos hlast, readIf, readBack, bind_assoc, pure_bind]
      rfl
    · simp only [if_neg hfirst, if_neg hlast, readIf, pure_bind]
      rfl

/-- What the card sees of a write of `n` blocks from block `b`, after the blocks were read. -/
def writeTranscript (b n : ℕ) : List SdEvent :=
  if n = 1 then [.command (CMD 24) b, .startToken START_1_BLOCK_TOKEN, .writtenBlock b]
  else .command (CMD 25) b ::
    (List.range n).flatMap (fun i => [.startToken START_N_BLOCK_TOKEN, .writtenBlock (b + i)]) ++
    [.stopToken]

def writeCmd (n : ℕ) : UInt8 := if n = 1 then CMD 24 else CMD 25

lemma writeCmd_start (b n : ℕ) :
    (SdPhase.response (.ofCommand (writeCmd n) b)).reply R1_READY_STATE =
      SdPhase.before .write (n ≠ 1) b 0 := by
  by_cases hn : n = 1
  · rw [writeCmd, if_pos hn]
    simp only [hn]
    rfl
  · rw [writeCmd, if_neg hn, SdPhase.before, if_pos (Or.inl (decide_eq_true hn)),
      decide_eq_true hn]
    rfl

/-- The end of a write of several blocks. -/
lemma yields_writeEnd {b : ℕ} (hphase : card.phase = .token (.write true b)) :
    (do
      let r ← spiWriteAndRead (fun k => if k = 0 then STOP_TRANSMISSION_TOKEN else 0xFF) 2
      if r.ret ≠ SUCCESS then return FAILURE
      let ret ← waitUntilNotBusy WAIT_ATTEMPTS
      if ret ≠ SUCCESS then return FAILURE
      return SUCCESS : SdProg Int).Yields (answer fates) card fun ret card' =>
        Reads card card' ∧ Reports fates card.time ret
          (card'.phase = .idle ∧ card'.events = card.events ++ [.stopToken]) := by
  apply (yields_stopToken hphase).bind_of
  rintro r card₁ ⟨hreads₁, ⟨hret₁, hphase₁, hevents₁⟩ | ⟨hret₁, hbad⟩⟩
  · rw [if_neg (not_not_intro hret₁)]
    apply (yields_waitUntilNotBusy hphase₁).bind_of
    rintro ret card₂ ⟨hreads₂, ⟨hret₂, hphase₂, hevents₂⟩ | ⟨hret₂, hbad⟩⟩
    · rw [if_neg (not_not_intro hret₂)]
      exact Prog.Yields.ret ⟨hreads₁.trans hreads₂, Or.inl ⟨rfl, hphase₂, hevents₂.trans hevents₁⟩⟩
    · rw [hret₂, if_pos (by decide)]
      exact Prog.Yields.ret ⟨hreads₁.trans hreads₂, Reports.fail hbad hreads₁.time⟩
  · rw [hret₁, if_pos (by decide)]
    exact Prog.Yields.ret ⟨hreads₁, Or.inr ⟨rfl, hbad⟩⟩

lemma yields_sdWriteRest (h : address.toNat + len.toNat ≤ 2 ^ 40) {stack : SdStack}
    {firstBlock lastBlock data : Buffer}
    (hsent : Filled card.mem firstBlock lastBlock address.toNat len.toNat → ∀ p ∈ card.sent,
      BlockOf (rewritten card.mem data address.toNat len.toNat) p.1 p.2) :
    (sdWriteRest stack firstBlock lastBlock data address len).Yields (answer fates) card
      fun ret card' =>
        (Filled card.mem firstBlock lastBlock address.toNat len.toNat → ∀ p ∈ card'.sent,
          BlockOf (rewritten card.mem data address.toNat len.toNat) p.1 p.2) ∧
        Reports fates card.time ret
          (card'.phase = .idle ∧
          card'.events = card.events ++
            writeTranscript (address.toNat / 512) (count 512 address.toNat len.toNat) ∧
          (Filled card.mem firstBlock lastBlock address.toNat len.toNat →
            card'.mem = rewritten card.mem data address.toNat len.toNat)) := by
  have hnb := toNat_getNbOfBlocks h
  have hone : getNbOfBlocks address len = 1 ↔ count 512 address.toNat len.toNat = 1 := by
    rw [← hnb]
    exact UInt32.toNat_inj.symm
  have hcmd : (if getNbOfBlocks address len = 1 then CMD 24 else CMD 25) =
      writeCmd (count 512 address.toNat len.toNat) := by
    simp only [hone, writeCmd]
  have hcmds : ∀ n, writeCmd n &&& ~~~BIT_APPLICATION_CMD = writeCmd n ∧
      writeCmd n &&& BIT_APPLICATION_CMD = 0 := by
    intro n
    unfold writeCmd
    split <;> decide
  rw [sdWriteRest]
  simp only [hcmd]
  apply (yields_sendCommand _ _ (hcmds _).1 (hcmds _).2).bind_of
  rintro r card₁ ⟨hreads₁, ⟨hret₁, hphase₁, hevents₁, hideal₁⟩ | ⟨hret₁, hbad⟩⟩
  · have hsent₁ := hsent
    rw [← hreads₁.sent] at hsent₁
    rw [if_neg (not_not_intro hret₁)]
    by_cases hready : r.data 0 = R1_READY_STATE
    · rw [hready, writeCmd_start, toNat_arg h] at hphase₁
      rw [toNat_arg h] at hevents₁
      have hzero : upto 512 address.toNat len.toNat 0 = 0 := Nat.min_eq_right (Nat.zero_le _)
      have hstart : WrittenTo address len card.mem data firstBlock lastBlock 0 card₁ :=
        ⟨hphase₁, fun _ x => (congrFun hreads₁.mem x).trans (rewritten_start x), hsent₁⟩
      have hblocks := @yields_writeBlocks fates card₁ address len card.mem data firstBlock lastBlock stack.response h _ 0
        data (Nat.zero_add _) (fun _ _ => rfl) hstart
      have hrange : List.range' 0 (count 512 address.toNat len.toNat) =
          List.range (getNbOfBlocks address len).toNat := by
        rw [hnb, List.range_eq_range']
      rw [hzero, hrange] at hblocks
      rw [if_neg (not_not_intro hready)]
      apply hblocks.bind_of
      rintro ret card₂ ⟨htime₂, hsent₂, ⟨hret₂, hphase₂, hevents₂, hmem₂⟩ | ⟨hret₂, hbad⟩⟩
      · unfold SentRight at hsent₂
        rw [hevents₁, hrange, hnb] at hevents₂
        rw [if_neg (not_not_intro hret₂)]
        by_cases hmulti : count 512 address.toNat len.toNat = 1
        · rw [if_neg (not_not_intro (hone.mpr hmulti))]
          refine Prog.Yields.ret ⟨hsent₂, Or.inl ⟨rfl, ?_, ?_, hmem₂⟩⟩
          · rw [hphase₂, hmulti]
            rfl
          · rw [hevents₂, writeTranscript, writeCmd, hmulti, List.append_assoc]
            rfl
        · have htoken : card₂.phase = .token (.write true
              (address.toNat / 512 + count 512 address.toNat len.toNat)) := by
            rw [hphase₂, SdPhase.before, decide_eq_true hmulti, if_pos (Or.inl rfl)]
          rw [if_pos (fun h => hmulti (hone.mp h))]
          apply (yields_writeEnd htoken).mono
          rintro ret' card₃ ⟨hreads₃, hreport₃⟩
          refine ⟨hreads₃.sent ▸ hsent₂, hreport₃.imp (hreads₁.time.trans htime₂) ?_⟩
          rintro ⟨hphase₃, hevents₃⟩
          refine ⟨hphase₃, ?_, fun hfilled => hreads₃.mem.trans (hmem₂ hfilled)⟩
          rw [hevents₃, hevents₂, writeTranscript, writeCmd, if_neg hmulti, if_neg hmulti, decide_eq_true hmulti]
          simp only [List.append_assoc, List.cons_append, List.nil_append]
          rfl
      · rw [hret₂, if_pos (by decide)]
        exact Prog.Yields.ret ⟨hsent₂, Reports.fail hbad hreads₁.time⟩
    · rw [if_pos hready]
      exact Prog.Yields.ret ⟨hsent₁, Or.inr ⟨rfl, fun hi => hready (hideal₁ hi)⟩⟩
  · rw [hret₁, if_pos (by decide)]
    rw [← hreads₁.sent] at hsent
    exact Prog.Yields.ret ⟨hsent, Or.inr ⟨rfl, hbad⟩⟩

/-- What the card sees of reading a block before it is written. -/
def backTranscript (desc : SdDesc) (x : UInt64) : List SdEvent :=
  if desc.Refuses (x &&& MASK_BLOCK_NUMBER) 512 then [] else readTranscript (x.toNat / 512) 1

lemma yields_readBack (desc : SdDesc) (stack : SdStack) (block : Buffer) (x : UInt64) :
    (sdRead desc stack block (x &&& MASK_BLOCK_NUMBER) 512).Yields (answer fates) card
      fun r card' =>
        Reads card card' ∧ (r.ret = SUCCESS → BlockOf card.mem (x.toNat / 512) r.data) ∧
          (IdealFrom fates card.time → card'.events = card.events ++ backTranscript desc x ∧
            (¬desc.Refuses (x &&& MASK_BLOCK_NUMBER) 512 → r.ret = SUCCESS)) := by
  by_cases hrefuses : desc.Refuses (x &&& MASK_BLOCK_NUMBER) 512
  · rw [sdRead, if_pos hrefuses]
    refine Prog.Yields.ret ⟨.refl, fun h => absurd h (by decide : FAILURE ≠ SUCCESS), fun _ => ⟨?_, fun h => ?_⟩⟩
    · rw [backTranscript, if_pos hrefuses, List.append_nil]
    · exact absurd hrefuses h
  · have hcount : count 512 (512 * (x.toNat / 512)) 512 = 1 := by
      rw [count, if_neg (by decide)]
      lia
    have hdiv : 512 * (x.toNat / 512) / 512 = x.toNat / 512 := by lia
    have hread := @yields_sdRead fates card _ _ desc hrefuses stack block
    rw [toNat_and_block] at hread
    change Prog.Yields _ _ _ (fun r card' => Reads card card' ∧ Reports _ _ _ (_ ∧
      _ = _ ++ readTranscript _ (count 512 _ 512) ∧ _ = memcpy _ 0 _ _ 512)) at hread
    rw [hcount, hdiv] at hread
    apply hread.mono
    rintro r card' ⟨hreads, ⟨hret, -, hevents, hdata⟩ | ⟨hret, hbad⟩⟩
    · refine ⟨hreads, fun _ k hk => ?_, fun _ => ⟨?_, fun _ => hret⟩⟩
      · rw [hdata]
        exact if_pos ⟨Nat.zero_le _, by omega⟩
      · rw [hevents, backTranscript, if_neg hrefuses]
    · refine ⟨hreads, fun h => ?_, fun hideal => absurd hideal hbad⟩
      rw [hret] at h
      exact absurd h (by decide)

lemma yields_readIf (needed : Prop) [Decidable needed] (desc : SdDesc) (stack : SdStack)
    (block : Buffer) (x : UInt64) :
    (readIf needed desc stack block x).Yields (answer fates) card fun r card' =>
      Reads card card' ∧
        (needed → r.ret = SUCCESS → BlockOf card.mem (x.toNat / 512) r.data) ∧
        (IdealFrom fates card.time →
          card'.events = card.events ++ (if needed then backTranscript desc x else []) ∧
          (needed → ¬desc.Refuses (x &&& MASK_BLOCK_NUMBER) 512 → r.ret = SUCCESS)) := by
  unfold readIf
  split_ifs with hneeded
  · apply (yields_readBack desc stack block x).mono
    rintro r card' ⟨hreads, hblock, hideal⟩
    exact ⟨hreads, fun _ => hblock, fun h => ⟨(hideal h).1, fun _ => (hideal h).2⟩⟩
  · exact Prog.Yields.ret ⟨.refl, fun h => absurd h hneeded,
      fun _ => ⟨(List.append_nil _).symm, fun h => absurd h hneeded⟩⟩

/-- The blocks that are partly written are those that are read before. -/
lemma filled_of_blocks (h : address.toNat + len.toNat ≤ 2 ^ 40) {mem firstBlock lastBlock : Buffer}
    (hfirst : count 512 address.toNat len.toNat ≠ 0 → ReadsFirst address len →
      BlockOf mem (address.toNat / 512) firstBlock)
    (hlast : ReadsLast address len → BlockOf mem ((address + len - 1).toNat / 512) lastBlock) :
    Filled mem firstBlock lastBlock address.toNat len.toNat := by
  intro i hi hpart
  have hB : 0 < 512 := by decide
  have hle := size_add_first_le (l := len.toNat) hB hi
  by_cases hzero : i = 0
  · subst hzero
    rw [buffOf, if_pos rfl]
    refine hfirst (by omega) (readsFirst_iff.mpr ?_)
    by_contra hnot
    have hstart : first 512 address.toNat 0 = address.toNat % 512 := rfl
    have hbefore : before 512 address.toNat 0 = 0 := rfl
    rw [size, hstart, hbefore] at hpart hle
    split_ifs at hpart hle <;> lia
  · have hstart : first 512 address.toNat i = 0 := if_neg hzero
    have hend : i + 1 = count 512 address.toNat len.toNat := by
      by_contra hne
      rw [size, if_neg hne, hstart] at hpart
      exact hpart ⟨rfl, rfl⟩
    have hl : len.toNat ≠ 0 := by
      intro hl
      rw [count, if_pos hl] at hend
      split at hend <;> lia
    have hadd := add_before (a := address.toNat) (i := i) hB
    have hsum := before_last hB hend
    have hlast' := last_eq (B := 512) (a := address.toNat) hl
    have hi' : count 512 address.toNat len.toNat - 1 = i := by lia
    have hword : (address + len - 1).toNat = address.toNat + len.toNat - 1 := by
      rw [toNat_last]
      lia
    have hblock : (address + len - 1).toNat / 512 = address.toNat / 512 + i := by
      rw [hi'] at hlast'
      lia
    rw [buffOf, if_neg hzero, ← hblock]
    refine hlast ((readsLast_iff h).mpr ⟨by lia, ?_⟩)
    rw [hi'] at hlast'
    lia

/-- The transcripts of the blocks that are read. -/
def backTranscripts (desc : SdDesc) (address len : UInt64) : List SdEvent :=
  (if ReadsFirst address len then backTranscript desc address else []) ++
    (if ReadsLast address len then backTranscript desc (address + len - 1) else [])

/-- When both reads succeed, or on the card of the specification, the buffers are filled. There
only the read of a block behind the card, of which nothing is written, does not succeed. -/
lemma yields_readBacks {desc : SdDesc} (h : ¬desc.Refuses address len) (stack : SdStack) :
    (readBacks desc stack address len).Yields (answer fates) card fun r card' =>
      Reads card card' ∧
      (r.1.ret = SUCCESS ∧ r.2.ret = SUCCESS ∨ IdealFrom fates card.time →
        Filled card.mem r.1.data r.2.data address.toNat len.toNat) ∧
      (IdealFrom fates card.time →
        card'.events = card.events ++ backTranscripts desc address len) := by
  have hrange := SdDesc.add_le_of_not_refuses h
  obtain ⟨hmem, hmod⟩ := desc.toNat_memorySize
  have hcard := hrange.trans hmem
  -- a block of which something is written lies on the card
  have haccepts : ∀ x : UInt64, x.toNat < desc.memorySize.toNat →
      ¬desc.Refuses (x &&& MASK_BLOCK_NUMBER) 512 := by
    intro x hx hrefuses
    have hblock := toNat_and_block (x := x)
    have hlen : (512 : UInt64).toNat = 512 := rfl
    rcases hrefuses with hgt | hgt | hgt
    · rw [gt_iff_lt, UInt64.lt_iff_toNat_lt] at hgt
      lia
    · rw [gt_iff_lt, UInt64.lt_iff_toNat_lt] at hgt
      lia
    · rw [gt_iff_lt, UInt64.lt_iff_toNat_lt, UInt64.toNat_add] at hgt
      lia
  have hword := @toNat_last address len
  rw [readBacks]
  apply (yields_readIf (ReadsFirst address len) desc stack stack.firstBlock address).bind_of
  rintro f card₁ ⟨hreads₁, hblock₁, hideal₁⟩
  apply (yields_readIf (ReadsLast address len) desc stack stack.lastBlock _).bind_of
  rintro l card₂ ⟨hreads₂, hblock₂, hideal₂⟩
  refine Prog.Yields.ret ⟨hreads₁.trans hreads₂, fun hor => ?_, fun hideal => ?_⟩
  · refine filled_of_blocks hcard (fun hcount hneeds => ?_) fun hneeds => ?_
    · apply hblock₁ hneeds
      rcases hor with hret | hideal
      · exact hret.1
      · refine (hideal₁ hideal).2 hneeds (haccepts address ?_)
        rw [count] at hcount
        split_ifs at hcount with hl hz
        · omega
        · lia
        · lia
    · rw [← hreads₁.mem]
      apply hblock₂ hneeds
      rcases hor with hret | hideal
      · exact hret.2
      · refine (hideal₂ (hideal.mono hreads₁.time)).2 hneeds (haccepts _ ?_)
        have hlast := (readsLast_iff hcard).mp hneeds
        rw [count] at hlast
        split_ifs at hlast with hl hz
        · omega
        · omega
        · lia
  · rw [(hideal₂ (hideal.mono hreads₁.time)).1, (hideal₁ hideal).1, backTranscripts,
      List.append_assoc]

end SdCard

end NoOS
