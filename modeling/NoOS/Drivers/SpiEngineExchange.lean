import NoOS.Drivers.SpiEnginePacking

/-!
# What a message sends and receives

The words written to the FIFOs in a call, and the words that are asked for between the chip selects.
-/

namespace NoOS.SpiEngine

open WordBytes

def isAssert (cmd : UInt32) : Bool := (cmd >>> 12) &&& 0x0F = SPI_ENGINE_INST_ASSERT

/-- The commands between chip select `n` and the next one -/
def afterAssert : ℕ → List UInt32 → List UInt32
  | _, [] => []
  | 0, cmd :: cmds => if isAssert cmd then [] else cmd :: afterAssert 0 cmds
  | n + 1, cmd :: cmds => if isAssert cmd then afterAssert n cmds else afterAssert (n + 1) cmds

/-- The words of a transfer in both directions. Their number is zero based. -/
def wordsRequested (cmd : UInt32) : Option ℕ :=
  if cmd >>> 8 = SPI_ENGINE_INSTRUCTION_TRANSFER_RW then some ((cmd &&& 0xFF).toNat + 1) else none

def written (reg : UInt32) (writes : List (UInt32 × UInt32)) : List UInt32 :=
  writes.filterMap fun w => if w.1 = reg then some w.2 else none

/-- A call writes `new` and leaves `data'` in the buffer. -/
structure Exchange (e : SpiEngine) (data : List UInt8) (n : UInt16) (new : List (UInt32 × UInt32))
    (data' : List UInt8) : Prop where
  requested : (afterAssert 2 (written SPI_ENGINE_REG_CMD_FIFO new)).map wordsRequested =
    if n = 0 then [] else [some (n.toNat ⌈/⌉ (e.dataWidth.toNat / 8))]
  sent : (written SPI_ENGINE_REG_SDO_DATA_FIFO new).length = n.toNat ⌈/⌉ (e.dataWidth.toNat / 8)
  bytes : (written SPI_ENGINE_REG_SDO_DATA_FIFO new).flatMap (bytes (e.dataWidth.toNat / 8)) =
    data ++ List.replicate (e.dataWidth.toNat / 8 * (n.toNat ⌈/⌉ (e.dataWidth.toNat / 8)) - n.toNat) 0
  width : ∀ w ∈ written SPI_ENGINE_REG_SDO_DATA_FIFO new, w.toNat < 2 ^ e.dataWidth.toNat
  loopBack : (∀ i < n.toNat ⌈/⌉ (e.dataWidth.toNat / 8),
    e.sdi (e.taken + i) = (written SPI_ENGINE_REG_SDO_DATA_FIFO new).getD i 0) → data' = data

/-- The call ends, and the bytes are exchanged as they should be. -/
def Exchanges (e : SpiEngine) (data : List UInt8) (n : UInt16) : Prop :=
  ∃ fuel e' data' new, e.writeAndRead fuel data n = .ok (e', data') ∧ e'.writes = e.writes ++ new ∧
    e.Exchange data n new data'

variable {e e' : SpiEngine} {k fuel : ℕ} {n : UInt16} {cmd : UInt32} {data data' : List UInt8}
  {pre post tx : List UInt32}

/-- Words are written to the command FIFO. -/
def after (e : SpiEngine) (cmds : List UInt32) (len : UInt8) : SpiEngine :=
  { e with writes := e.writes ++ cmds.map (Prod.mk SPI_ENGINE_REG_CMD_FIFO), offloadTxLen := len }

lemma after_after (cmds cmds' : List UInt32) (len len' : UInt8) :
    (e.after cmds len).after cmds' len' = e.after (cmds ++ cmds') len' := by
  simp only [after, List.map_append, List.append_assoc]

lemma writeCmdReg_eq (hoff : e.offloadConfig = OFFLOAD_DISABLED) : e.writeCmdReg cmd = e.after [cmd] e.offloadTxLen := by
  rw [writeCmdReg, hoff, if_neg (by decide)]
  rfl

lemma testBit_config (inst arg1 arg2 : UInt32) (h : inst = SPI_ENGINE_INST_CONFIG ∨ inst = SPI_ENGINE_INST_MISC) :
    (spiEngineCmd inst arg1 arg2).toNat.testBit 13 = true := by
  have hinst : ((inst &&& 0x03) <<< 12).toNat.testBit 13 = true := by
    rcases h with rfl | rfl
    · decide
    · decide
  rw [spiEngineCmd, UInt32.toNat_or, UInt32.toNat_or, Nat.testBit_or, Nat.testBit_or, hinst]
  rfl

lemma testBit_instruction (h : cmd.toNat.testBit 13 = true) : ((cmd >>> 12) &&& 0x0F).toNat.testBit 1 = true := by
  rw [UInt32.toNat_and, Nat.testBit_and, UInt32.toNat_shiftRight]
  change ((cmd.toNat >>> 12).testBit 1 && true) = true
  rw [Nat.testBit_shiftRight, h, Bool.and_true]

lemma isAssert_of_testBit (h : cmd.toNat.testBit 13 = true) : isAssert cmd = false := by
  have hbit := testBit_instruction h
  apply decide_eq_false
  intro heq
  rw [heq] at hbit
  exact absurd hbit (by decide)

/-- A configuration, also one that the clock divider has overwritten, is no chip select and no transfer. -/
lemma writeCmd_quiet (hoff : e.offloadConfig = OFFLOAD_DISABLED) (h : cmd.toNat.testBit 13 = true) :
    ∃ cmds, e.writeCmd cmd = e.after cmds e.offloadTxLen ∧ ∀ c ∈ cmds, isAssert c = false := by
  have hbit := testBit_instruction h
  have hnil : e = e.after [] e.offloadTxLen := by
    rw [after, List.map_nil, List.append_nil]
  have htransfer : (cmd >>> 12) &&& 0x0F ≠ SPI_ENGINE_INST_TRANSFER := by
    intro heq
    rw [heq] at hbit
    exact absurd hbit (by decide)
  have hassert : (cmd >>> 12) &&& 0x0F ≠ SPI_ENGINE_INST_ASSERT := by
    intro heq
    rw [heq] at hbit
    exact absurd hbit (by decide)
  have hsame : ∃ cmds, e.writeCmdReg cmd = e.after cmds e.offloadTxLen ∧ ∀ c ∈ cmds, isAssert c = false :=
    ⟨[cmd], writeCmdReg_eq hoff, fun c hc => by rw [List.mem_singleton.mp hc, isAssert_of_testBit h]⟩
  have hnone : ∃ cmds, e = e.after cmds e.offloadTxLen ∧ ∀ c ∈ cmds, isAssert c = false :=
    ⟨[], hnil, fun c hc => absurd hc List.not_mem_nil⟩
  rw [writeCmd, if_neg htransfer, if_neg hassert]
  split
  · split
    · exact hsame
    · split
      · refine ⟨_, writeCmdReg_eq hoff, fun c hc => ?_⟩
        rw [List.mem_singleton.mp hc]
        exact isAssert_of_testBit (testBit_config _ _ _ (Or.inr rfl))
      · exact hnone
  · split
    · exact hsame
    · exact hnone

lemma isAssert_assert (cs mask : UInt8) :
    isAssert (spiEngineCmd SPI_ENGINE_INST_ASSERT cs.toUInt32 mask.toUInt32) = true := by
  have hmask : mask.toNat >>> 12 = 0 := by
    rw [Nat.shiftRight_eq_div_pow]
    exact Nat.div_eq_of_lt (mask.toNat_lt.trans (by decide))
  have hcs : ((cs.toUInt32 &&& 0x03) <<< 8).toNat >>> 12 = 0 := by
    have hle : (cs.toUInt32 &&& 0x03).toNat ≤ 3 := by
      rw [UInt32.toNat_and]
      exact Nat.and_le_right
    rw [UInt32.toNat_shiftLeft, Nat.shiftRight_eq_div_pow]
    change (cs.toUInt32 &&& 0x03).toNat <<< 8 % 2 ^ 32 / 2 ^ 12 = 0
    rw [Nat.shiftLeft_eq]
    lia
  apply decide_eq_true
  apply UInt32.toNat_inj.mp
  rw [spiEngineCmd, UInt32.toNat_and, UInt32.toNat_shiftRight, UInt32.toNat_or, UInt32.toNat_or, UInt8.toNat_toUInt32]
  change ((4096 ||| ((cs.toUInt32 &&& 0x03) <<< 8).toNat ||| mask.toNat) >>> 12) &&& 15 = 1
  rw [Nat.shiftRight_or_distrib, Nat.shiftRight_or_distrib, hcs, hmask]
  rfl

lemma writeCmd_csHigh (hoff : e.offloadConfig = OFFLOAD_DISABLED) :
    ∃ c, e.writeCmd CS_HIGH = e.after [c] e.offloadTxLen ∧ isAssert c = true :=
  ⟨_, writeCmdReg_eq hoff, isAssert_assert e.csDelay 0xFF⟩

lemma writeCmd_csLow (hoff : e.offloadConfig = OFFLOAD_DISABLED) :
    ∃ c, e.writeCmd CS_LOW = e.after [c] e.offloadTxLen ∧ isAssert c = true :=
  ⟨_, writeCmdReg_eq hoff, isAssert_assert e.csDelay _⟩

/-- The word for the transfer -/
def transferWord (e : SpiEngine) (n : UInt16) : UInt32 :=
  spiEngineCmd SPI_ENGINE_INST_TRANSFER 3 ((e.getWordsNumber n.toUInt8).toUInt32 - 1)

lemma writeReadCmd_fields : ∀ m : Fin 256, (writeReadCmd (UInt16.ofNat m) >>> 12) &&& 0x0F = SPI_ENGINE_INST_TRANSFER ∧
    ((writeReadCmd (UInt16.ofNat m) >>> 8) &&& 0x0F).toUInt8 = 3 ∧
    (writeReadCmd (UInt16.ofNat m) &&& 0xFF).toUInt8 = (UInt16.ofNat m).toUInt8 := by
  decide +kernel

lemma writeCmd_transfer (hoff : e.offloadConfig = OFFLOAD_DISABLED) (hn : n.toNat ≤ 255) :
    ∃ len, e.writeCmd (writeReadCmd n) = e.after [e.transferWord n] len := by
  have hfields := writeReadCmd_fields ⟨n.toNat, by omega⟩
  rw [UInt16.ofNat_toNat] at hfields
  obtain ⟨hinst, hmod, hparam⟩ := hfields
  refine ⟨e.offloadTxLen + e.getWordsNumber n.toUInt8, ?_⟩
  rw [writeCmd, if_pos hinst, hmod, hparam, transfer]
  exact writeCmdReg_eq hoff

lemma wordsRequested_transfer : ∀ w : Fin 256, 0 < w.val →
    wordsRequested (spiEngineCmd SPI_ENGINE_INST_TRANSFER 3 ((UInt8.ofNat w).toUInt32 - 1)) = some w.val := by
  decide +kernel

lemma isAssert_transfer : ∀ w : Fin 256,
    isAssert (spiEngineCmd SPI_ENGINE_INST_TRANSFER 3 ((UInt8.ofNat w).toUInt32 - 1)) = false := by
  decide +kernel

lemma isAssert_transferWord : isAssert (e.transferWord n) = false := by
  have h := isAssert_transfer ⟨(e.getWordsNumber n.toUInt8).toNat, UInt8.toNat_lt _⟩
  rwa [UInt8.ofNat_toNat] at h

lemma afterAssert_append {m : ℕ} (hpre : ∀ c ∈ pre, isAssert c = false) (cmds : List UInt32) :
    afterAssert (m + 1) (pre ++ cmds) = afterAssert (m + 1) cmds := by
  induction pre with
  | nil => rfl
  | cons c pre ih =>
    have hc : isAssert c ≠ true := by
      rw [hpre c (List.mem_cons_self ..)]
      exact Bool.false_ne_true
    rw [List.cons_append, afterAssert, if_neg hc]
    exact ih fun d hd => hpre d (List.mem_cons_of_mem c hd)

/-- The queue leaves words in the FIFO, of which those behind chip select `m` are `ws`. -/
def Selects (m : ℕ) (q : List UInt32) (e : SpiEngine) (ws : List UInt32) : Prop :=
  ∃ cmds len, q.foldl writeCmd e = e.after cmds len ∧ afterAssert m cmds = ws

/-- The offload is off, and words are as wide as in `e`. -/
structure Passive (e d : SpiEngine) : Prop where
  off : d.offloadConfig = OFFLOAD_DISABLED
  dataWidth : d.dataWidth = e.dataWidth

variable {d : SpiEngine} {m : ℕ} {q ws : List UInt32} {c : UInt32} {len : UInt8}

lemma Passive.after (h : e.Passive d) (cmds : List UInt32) (len : UInt8) : e.Passive (d.after cmds len) :=
  ⟨h.off, h.dataWidth⟩

lemma Passive.transferWord (h : e.Passive d) : d.transferWord n = e.transferWord n := by
  rw [SpiEngine.transferWord, getWordsNumber, h.dataWidth]
  rfl

lemma Passive.quiet (hd : e.Passive d) (hbit : cmd.toNat.testBit 13 = true)
    (h : ∀ d', e.Passive d' → Selects (m + 1) q d' ws) : Selects (m + 1) (cmd :: q) d ws := by
  obtain ⟨pre, hpre, hquiet⟩ := writeCmd_quiet hd.off hbit
  obtain ⟨cmds, len, hrun, hws⟩ := h _ (hd.after pre d.offloadTxLen)
  refine ⟨pre ++ cmds, len, ?_, ?_⟩
  · rw [List.foldl_cons, hpre, hrun, after_after]
  · rw [afterAssert_append hquiet, hws]

lemma Passive.select (hd : e.Passive d) (hcmd : ∃ c, d.writeCmd cmd = d.after [c] d.offloadTxLen ∧ isAssert c = true)
    (h : ∀ d', e.Passive d' → Selects m q d' ws) : Selects (m + 1) (cmd :: q) d ws := by
  obtain ⟨c, hwrite, hc⟩ := hcmd
  obtain ⟨cmds, len, hrun, hws⟩ := h _ (hd.after [c] d.offloadTxLen)
  refine ⟨c :: cmds, len, ?_, ?_⟩
  · rw [List.foldl_cons, hwrite, hrun, after_after]
    rfl
  · rw [afterAssert, if_pos hc, hws]

lemma Passive.transfer (hd : e.Passive d) (hn : n.toNat ≤ 255)
    (h : ∀ d', e.Passive d' → Selects 0 q d' ws) : Selects 0 (writeReadCmd n :: q) d (e.transferWord n :: ws) := by
  obtain ⟨len, hwrite⟩ := writeCmd_transfer hd.off hn
  obtain ⟨cmds, len', hrun, hws⟩ := h _ (hd.after [d.transferWord n] len)
  have hne : isAssert (e.transferWord n) ≠ true := by
    rw [isAssert_transferWord]
    exact Bool.false_ne_true
  rw [hd.transferWord] at hwrite hrun
  refine ⟨e.transferWord n :: cmds, len', ?_, ?_⟩
  · rw [List.foldl_cons, hwrite, hrun, after_after]
    rfl
  · rw [afterAssert, if_neg hne, hws]

lemma Passive.deselect (hd : e.Passive d) (hcmd : ∃ c, d.writeCmd cmd = d.after [c] d.offloadTxLen ∧ isAssert c = true)
    (h : ∀ d', e.Passive d' → Selects m q d' ws) : Selects 0 (cmd :: q) d [] := by
  obtain ⟨c, hwrite, hc⟩ := hcmd
  obtain ⟨cmds, len, hrun, -⟩ := h _ (hd.after [c] d.offloadTxLen)
  refine ⟨c :: cmds, len, ?_, ?_⟩
  · rw [List.foldl_cons, hwrite, hrun, after_after]
    rfl
  · rw [afterAssert, if_pos hc]

lemma selects_nil : Selects m [] e [] := by
  refine ⟨[], e.offloadTxLen, ?_, ?_⟩
  · rw [after, List.map_nil, List.append_nil]
    rfl
  · cases m <;> rfl

def message (n : UInt16) : List UInt32 := [CS_HIGH, CS_LOW, writeReadCmd n, CS_HIGH]

/-- The transfer is the only command between the second and the third chip select. -/
lemma selects_message (hoff : e.offloadConfig = OFFLOAD_DISABLED) (hn : n.toNat ≤ 255) :
    Selects 2 (e.compileMessage (message n)) e [e.transferWord n] := by
  have he : e.Passive e := ⟨hoff, rfl⟩
  have hsync : ∀ d, e.Passive d →
      Selects 1 [spiEngineCmd SPI_ENGINE_INST_MISC SPI_ENGINE_MISC_SYNC e.syncId.toUInt32] d [] :=
    fun d hd => hd.quiet (testBit_config _ _ _ (Or.inr rfl)) fun d _ => selects_nil
  refine he.quiet (testBit_config _ _ _ (Or.inl rfl)) fun d hd => ?_
  refine hd.quiet (testBit_config _ _ _ (Or.inl rfl)) fun d hd => ?_
  refine hd.quiet (testBit_config _ _ _ (Or.inl rfl)) fun d hd => ?_
  refine hd.select (writeCmd_csHigh hd.off) fun d hd => ?_
  refine hd.select (writeCmd_csLow hd.off) fun d hd => ?_
  refine hd.transfer hn fun d hd => ?_
  exact hd.deselect (writeCmd_csHigh hd.off) hsync

lemma waitSync_ok {j : ℕ} (h : e.sync (e.polls + j) = e.syncId.toUInt32) :
    ∃ p, ∀ fuel, j < fuel → waitSync fuel e = .ok { e with polls := p } := by
  induction j generalizing e with
  | zero =>
    refine ⟨e.polls + 1, fun fuel hfuel => ?_⟩
    obtain ⟨f, rfl⟩ := Nat.exists_eq_succ_of_ne_zero (Nat.ne_zero_of_lt hfuel)
    have hnow : e.sync e.polls = e.syncId.toUInt32 := h
    rw [waitSync, if_neg (not_not_intro hnow)]
  | succ j ih =>
    by_cases hnow : e.sync e.polls = e.syncId.toUInt32
    · refine ⟨e.polls + 1, fun fuel hfuel => ?_⟩
      obtain ⟨f, rfl⟩ := Nat.exists_eq_succ_of_ne_zero (Nat.ne_zero_of_lt hfuel)
      rw [waitSync, if_neg (not_not_intro hnow)]
    · have hnext : e.sync (e.polls + 1 + j) = e.syncId.toUInt32 := by rwa [Nat.add_assoc, Nat.add_comm 1 j]
      obtain ⟨p, hp⟩ := ih (e := { e with polls := e.polls + 1 }) hnext
      refine ⟨p, fun fuel hfuel => ?_⟩
      obtain ⟨f, rfl⟩ := Nat.exists_eq_succ_of_ne_zero (Nat.ne_zero_of_lt hfuel)
      rw [waitSync, if_pos hnow]
      exact hp f (Nat.lt_of_succ_lt_succ hfuel)

lemma waitSync_eq (h : waitSync fuel e = .ok e') : ∃ p, e' = { e with polls := p } := by
  induction fuel generalizing e with
  | zero =>
    rw [waitSync] at h
    exact nomatch h
  | succ fuel ih =>
    rw [waitSync] at h
    split at h
    · obtain ⟨p, hp⟩ := ih h
      exact ⟨p, hp⟩
    · exact ⟨_, (Except.ok.inj h).symm⟩

/-- Words for the SDO FIFO -/
def shifted (e : SpiEngine) (tx : List UInt32) : SpiEngine :=
  { e with writes := e.writes ++ tx.map (Prod.mk SPI_ENGINE_REG_SDO_DATA_FIFO) }

lemma foldl_write (tx : List UInt32) :
    tx.foldl (fun e w => e.write SPI_ENGINE_REG_SDO_DATA_FIFO w) e = e.shifted tx := by
  induction tx generalizing e with
  | nil =>
    rw [shifted, List.map_nil, List.append_nil]
    rfl
  | cons w tx ih =>
    rw [List.foldl_cons, ih, shifted, shifted, write, List.map_cons, List.append_assoc]
    rfl

/-- The descriptor when the message is built -/
def started (e : SpiEngine) : SpiEngine :=
  { e with offloadConfig := OFFLOAD_DISABLED }.write SPI_ENGINE_REG_OFFLOAD_CTRL 0

/-- The words received in a call -/
def received (e : SpiEngine) (words : ℕ) : List UInt32 := (List.range words).map fun i => e.sdi (e.taken + i)

/-- The words before packing -/
def zeros (e : SpiEngine) (n : UInt16) : List UInt32 := List.replicate (e.getWordsNumber n.toUInt8).toNat 0

lemma transferMessage_eq (hoff : e.offloadConfig = OFFLOAD_DISABLED) {cmds rx : List UInt32}
    (hcmds : (e.compileMessage q).foldl writeCmd e = e.after cmds len) :
    transferMessage fuel e q tx rx = (waitSync fuel ((e.after cmds len).shifted tx)).bind fun e' =>
      .ok ({ e' with syncId := e'.syncId + 1, taken := e'.taken + rx.length },
        (List.range rx.length).map fun i => e'.sdi (e'.taken + i)) := by
  have hnot : ¬(e.offloadConfig &&& OFFLOAD_TX_EN ≠ 0 ∨ e.offloadConfig &&& OFFLOAD_RX_EN ≠ 0) := by
    rw [hoff]
    decide
  rw [transferMessage]
  dsimp only
  rw [hcmds, if_neg hnot, foldl_write]
  rfl

lemma written_map (reg : UInt32) (ws : List UInt32) : written reg (ws.map (Prod.mk reg)) = ws := by
  rw [written, List.filterMap_map]
  have hall : ((fun w : UInt32 × UInt32 => if w.1 = reg then some w.2 else none) ∘ Prod.mk reg) = some := by
    funext w
    exact if_pos rfl
  rw [hall, List.filterMap_some]

lemma written_map_ne {reg other : UInt32} (h : other ≠ reg) (ws : List UInt32) :
    written reg (ws.map (Prod.mk other)) = [] := by
  rw [written, List.filterMap_map]
  have hnone : ((fun w : UInt32 × UInt32 => if w.1 = reg then some w.2 else none) ∘ Prod.mk other) =
      fun _ => none := by
    funext w
    exact if_neg h
  rw [hnone, List.filterMap_none]

lemma written_append (reg : UInt32) (ws ws' : List (UInt32 × UInt32)) :
    written reg (ws ++ ws') = written reg ws ++ written reg ws' := List.filterMap_append

/-- The writes of a call -/
def callWrites (cmds tx : List UInt32) : List (UInt32 × UInt32) :=
  (SPI_ENGINE_REG_OFFLOAD_CTRL, 0) :: (cmds.map (Prod.mk SPI_ENGINE_REG_CMD_FIFO) ++
    tx.map (Prod.mk SPI_ENGINE_REG_SDO_DATA_FIFO))

lemma written_callWrites (reg : UInt32) (hreg : SPI_ENGINE_REG_OFFLOAD_CTRL ≠ reg) (cmds tx : List UInt32) :
    written reg (callWrites cmds tx) = written reg (cmds.map (Prod.mk SPI_ENGINE_REG_CMD_FIFO)) ++
      written reg (tx.map (Prod.mk SPI_ENGINE_REG_SDO_DATA_FIFO)) := by
  rw [← written_append, callWrites]
  exact List.filterMap_cons_none (if_neg hreg)

lemma written_cmdFifo (cmds tx : List UInt32) : written SPI_ENGINE_REG_CMD_FIFO (callWrites cmds tx) = cmds := by
  rw [written_callWrites _ (by decide), written_map, written_map_ne (by decide), List.append_nil]

lemma written_sdoFifo (cmds tx : List UInt32) : written SPI_ENGINE_REG_SDO_DATA_FIFO (callWrites cmds tx) = tx := by
  rw [written_callWrites _ (by decide), written_map, written_map_ne (by decide), List.nil_append]

lemma writeAndRead_eq : writeAndRead fuel e data n =
    (e.started.packLoop data n fuel 0 (e.zeros n)).bind fun tx =>
      (transferMessage fuel e.started (message n) tx (e.zeros n)).bind fun r =>
        (r.1.unpackLoop r.2 n fuel 0 data).bind fun data => .ok (r.1, data) := rfl

/-- What a call that ends has done: the bytes are packed, the words are written, and those received are unpacked. -/
lemma writeAndRead_inv {cmds : List UInt32}
    (hcmds : (e.started.compileMessage (message n)).foldl writeCmd e.started = e.started.after cmds len)
    (h : writeAndRead fuel e data n = .ok (e', data')) : ∃ (tx : List UInt32) (d : SpiEngine),
      e.started.packLoop data n fuel 0 (e.zeros n) = .ok tx ∧ e'.writes = e.writes ++ callWrites cmds tx ∧
        d.dataWidth = e.dataWidth ∧ d.unpackLoop (e.received (e.zeros n).length) n fuel 0 data = .ok data' := by
  rw [writeAndRead_eq] at h
  cases htx : e.started.packLoop data n fuel 0 (e.zeros n) with
  | error f =>
    rw [htx] at h
    exact nomatch h
  | ok tx =>
    rw [htx] at h
    change ((transferMessage fuel e.started (message n) tx (e.zeros n)).bind _) = _ at h
    rw [transferMessage_eq rfl hcmds] at h
    cases hwait : waitSync fuel ((e.started.after cmds len).shifted tx) with
    | error f =>
      rw [hwait] at h
      exact nomatch h
    | ok d =>
      obtain ⟨p, rfl⟩ := waitSync_eq hwait
      rw [hwait] at h
      dsimp only [Except.bind] at h
      split at h
      · exact nomatch h
      · rename_i data'' hunpack
        obtain ⟨rfl, rfl⟩ := Prod.mk.inj (Except.ok.inj h)
        refine ⟨tx, _, rfl, ?_, ?_, hunpack⟩
        · simp only [shifted, after, started, write, callWrites, List.append_assoc, List.cons_append, List.nil_append]
        · rfl

lemma WordOf.congr (h : e.WordOf k) (hd : d.dataWidth = e.dataWidth) : d.WordOf k := ⟨hd ▸ h.dataWidth, h.pos, h.le⟩

lemma WordOf.started (h : e.WordOf k) : e.started.WordOf k := h.congr rfl

lemma WordOf.length_zeros (h : e.WordOf k) (hn : n.toNat ≤ 255) : (e.zeros n).length = n.toNat ⌈/⌉ k := by
  rw [zeros, List.length_replicate, h.wordsNumber, UInt16.toNat_toUInt8, Nat.mod_eq_of_lt (by omega)]

lemma writeAndRead_ends (h : e.WordOf k) (hn : n.toNat ≤ 255) (hdata : data.length = n.toNat)
    (hsync : ∃ j, e.sync (e.polls + j) = e.syncId.toUInt32) :
    ∃ fuel r, n.toNat < fuel ∧ writeAndRead fuel e data n = .ok r := by
  obtain ⟨j, hj⟩ := hsync
  obtain ⟨cmds, len, hcmds, -⟩ := selects_message (e := e.started) rfl hn
  have hfuel : n.toNat - (0 : UInt8).toNat < n.toNat + 1 + j := by
    change n.toNat - 0 < _
    lia
  have hzeros := h.length_zeros hn
  obtain ⟨tx, htx, -, -⟩ := packLoop_ok h.started hn hdata hzeros (Nat.zero_le _) hfuel (holds_zeros _)
  obtain ⟨p, hp⟩ := waitSync_ok (e := (e.started.after cmds len).shifted tx) hj
  have hwait := hp (n.toNat + 1 + j) (by lia)
  have hrx : (e.received (e.zeros n).length).length = n.toNat ⌈/⌉ k := by
    rw [received, List.length_map, List.length_range, hzeros]
  have hmessage : ∃ d, transferMessage (n.toNat + 1 + j) e.started (message n) tx (e.zeros n) =
      .ok (d, e.received (e.zeros n).length) ∧ d.dataWidth = e.dataWidth := by
    rw [transferMessage_eq rfl hcmds, hwait]
    exact ⟨_, rfl, rfl⟩
  obtain ⟨d, hmessage, hd⟩ := hmessage
  obtain ⟨data', hunpack⟩ : ∃ data', d.unpackLoop (e.received (e.zeros n).length) n (n.toNat + 1 + j) 0 data = .ok data' :=
    ⟨_, unpackLoop_ok (h.congr hd) hn hdata hrx (Nat.zero_le _) hfuel⟩
  refine ⟨n.toNat + 1 + j, (d, data'), by lia, ?_⟩
  rw [writeAndRead_eq, htx]
  change (transferMessage _ e.started (message n) tx (e.zeros n)).bind _ = _
  rw [hmessage]
  change (d.unpackLoop (e.received (e.zeros n).length) n _ 0 data).bind _ = _
  rw [hunpack]
  rfl

lemma writeAndRead_spec (h : e.WordOf k) (hn : n.toNat ≤ 255) (hdata : data.length = n.toNat)
    (hfuel : n.toNat < fuel) (hrun : writeAndRead fuel e data n = .ok (e', data')) : ∃ cmds tx,
      e'.writes = e.writes ++ callWrites cmds tx ∧ afterAssert 2 cmds = [e.transferWord n] ∧
        tx.length = n.toNat ⌈/⌉ k ∧ Holds k data.length data tx ∧
        data' = (List.range n.toNat).map (load k (e.received (n.toNat ⌈/⌉ k))) := by
  obtain ⟨cmds, len, hcmds, hselect⟩ := selects_message (e := e.started) rfl hn
  obtain ⟨tx, d, hpack, hwrites, hd, hunpack⟩ := writeAndRead_inv hcmds hrun
  have hzeros := h.length_zeros hn
  have hrx : (e.received (e.zeros n).length).length = n.toNat ⌈/⌉ k := by
    rw [received, List.length_map, List.length_range, hzeros]
  have hstart : n.toNat - (0 : UInt8).toNat < fuel := hfuel
  obtain ⟨tx', hpack', hlen, hholds⟩ := packLoop_ok h.started hn hdata hzeros (Nat.zero_le _) hstart (holds_zeros _)
  obtain rfl : tx = tx' := Except.ok.inj (hpack.symm.trans hpack')
  refine ⟨cmds, tx, hwrites, hselect, hlen.trans hzeros, hdata ▸ hholds, ?_⟩
  rw [unpackLoop_ok (h.congr hd) hn hdata hrx (Nat.zero_le _) hstart, hzeros] at hunpack
  rw [← Except.ok.inj hunpack]
  simp

lemma wordOf_of_mem (hwidth : e.dataWidth ∈ [8, 16, 24, 32]) : e.WordOf (e.dataWidth.toNat / 8) := by
  have hcases : e.dataWidth = 8 ∨ e.dataWidth = 16 ∨ e.dataWidth = 24 ∨ e.dataWidth = 32 := by simpa using hwidth
  rcases hcases with h | h | h | h <;> exact ⟨by rw [h]; decide, by rw [h]; decide, by rw [h]; decide⟩

lemma writeAndRead_not_ok (hn : 256 ≤ n.toNat) {r : SpiEngine × List UInt8} : writeAndRead fuel e data n ≠ .ok r := by
  rw [writeAndRead_eq]
  cases hpack : e.started.packLoop data n fuel 0 (e.zeros n) with
  | error f => exact fun h => nomatch h
  | ok tx => exact absurd hpack (packLoop_not_ok hn)

lemma wordsRequested_transferWord (h : e.WordOf k) (hpos : 0 < n.toNat) (hn : n.toNat ≤ 255) :
    wordsRequested (e.transferWord n) = some (n.toNat ⌈/⌉ k) := by
  have hwords : (e.getWordsNumber n.toUInt8).toNat = n.toNat ⌈/⌉ k := by
    rw [h.wordsNumber, UInt16.toNat_toUInt8, Nat.mod_eq_of_lt (by omega)]
  have hne : 0 < n.toNat ⌈/⌉ k := by
    rw [Nat.pos_iff_ne_zero]
    intro hzero
    have hle := le_mul_wordsNumber (m := n.toNat) h.pos
    rw [hzero] at hle
    lia
  have hsome : 0 < (e.getWordsNumber n.toUInt8).toNat := by rwa [hwords]
  have hrequest := wordsRequested_transfer ⟨(e.getWordsNumber n.toUInt8).toNat, UInt8.toNat_lt _⟩ hsome
  rw [UInt8.ofNat_toNat] at hrequest
  rw [transferWord, ← hwords]
  exact hrequest

lemma unpacked_eq (hholds : Holds k data.length data tx) (hpos : 0 < k)
    (hloop : ∀ i < data.length ⌈/⌉ k, e.sdi (e.taken + i) = tx.getD i 0) :
    (List.range data.length).map (load k (e.received (data.length ⌈/⌉ k))) = data := by
  apply List.ext_getElem
  · simp
  · intro i h₁ h₂
    have hword : i / k < data.length ⌈/⌉ k := index_lt_wordsNumber hpos h₂
    have hload := hholds.load_eq i
    rw [if_pos h₂, List.getD_eq_getElem _ _ h₂] at hload
    rw [List.getElem_map, List.getElem_range, ← hload, load, load, received, List.getD_eq_getElem _ _ (by simpa using hword),
      List.getElem_map, List.getElem_range, hloop _ hword]

/-- For widths of 8, 16, 24 and 32 bits and a core that reports the end of a transfer at last, a message is exchanged as
it should be if it has between 1 and 255 bytes, and in no other case. -/
theorem exchanges_iff (hwidth : e.dataWidth ∈ [8, 16, 24, 32]) (hdata : data.length = n.toNat)
    (hsync : ∃ j, e.sync (e.polls + j) = e.syncId.toUInt32) :
    e.Exchanges data n ↔ 1 ≤ n.toNat ∧ n.toNat ≤ 255 := by
  have h := wordOf_of_mem hwidth
  constructor
  · rintro ⟨fuel, e', data', new, hrun, hwrites, hexchange⟩
    have hle : n.toNat ≤ 255 := by
      by_contra hlarge
      exact writeAndRead_not_ok (by omega) hrun
    refine ⟨?_, hle⟩
    by_contra hzero
    have hn : n = 0 := UInt16.toNat_inj.mp (Nat.lt_one_iff.mp (Nat.lt_of_not_le hzero))
    have hfuel : n.toNat < fuel := by
      subst hn
      rcases fuel.eq_zero_or_pos with rfl | hpos
      · exact nomatch hrun
      · exact hpos
    obtain ⟨cmds, tx, hwrites', hselect, -⟩ := writeAndRead_spec h hle hdata hfuel hrun
    obtain rfl := List.append_cancel_left (hwrites.symm.trans hwrites')
    have hrequested := hexchange.requested
    rw [written_cmdFifo, hselect, if_pos hn] at hrequested
    exact absurd hrequested (List.cons_ne_nil _ _)
  · rintro ⟨hpos, hle⟩
    obtain ⟨fuel, ⟨e', data'⟩, hfuel, hrun⟩ := writeAndRead_ends h hle hdata hsync
    obtain ⟨cmds, tx, hwrites, hselect, hlen, hholds, hreceived⟩ := writeAndRead_spec h hle hdata hfuel hrun
    have hne : n ≠ 0 := by
      rintro rfl
      exact absurd hpos (by decide)
    refine ⟨fuel, e', data', callWrites cmds tx, hrun, hwrites, ?_, ?_, ?_, ?_, ?_⟩
    · rw [written_cmdFifo, hselect, if_neg hne, List.map_singleton, wordsRequested_transferWord h hpos hle]
    · rw [written_sdoFifo, hlen]
    · have hbytes := hholds.bytes_eq h.pos (by rw [hlen, hdata]; exact le_mul_wordsNumber h.pos)
      rwa [hlen, hdata, ← written_sdoFifo cmds tx] at hbytes
    · rw [written_sdoFifo, h.dataWidth]
      exact hholds.lt
    · intro hloop
      rw [written_sdoFifo, ← hdata] at hloop
      rw [hreceived, ← hdata]
      exact unpacked_eq hholds h.pos hloop

/-- Three bytes in words of 16 bits -/
theorem exchanges_three :
    Exchanges ⟨1000000, 0, 0, 0, 0, 0, 4, 16, 1, [], fun _ => 1, 0, fun _ => 0, 0⟩ [0x12, 0x34, 0x56] 3 :=
  (exchanges_iff (by decide) rfl ⟨0, rfl⟩).mpr ⟨by decide, by decide⟩

/-- With 256 bytes the message is never sent. -/
theorem not_exchanges : ¬∀ (e : SpiEngine) (data : List UInt8) (n : UInt16), e.dataWidth ∈ [8, 16, 24, 32] →
    data.length = n.toNat → (∃ j, e.sync (e.polls + j) = e.syncId.toUInt32) → e.Exchanges data n := by
  intro h
  obtain ⟨fuel, e', data', new, hrun, -⟩ :=
    h ⟨1000000, 0, 0, 0, 0, 0, 4, 8, 1, [], fun _ => 1, 0, fun _ => 0, 0⟩ (List.replicate 256 0x5A) 256 (by decide)
      (List.length_replicate ..) ⟨0, rfl⟩
  exact writeAndRead_not_ok (by decide) hrun

end NoOS.SpiEngine
