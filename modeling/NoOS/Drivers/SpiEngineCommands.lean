import NoOS.Drivers.SpiEngineExchange
import NoOS.Lib.BitField

/-!
# The command words of a message

The engine reads an instruction of two bits, a field of two bits and an argument of eight bits from a
command word. The driver puts the parts together without a mask for the argument.
-/

namespace NoOS.SpiEngine

/-- `spi_engine_set_speed`, which `spi_engine_init` repeats, unless it divides by zero -/
def setSpeed (e : SpiEngine) (refClkHz speedHz : UInt32) : Option SpiEngine :=
  if 2 * speedHz = 0 then none else some { e with clkDiv := refClkHz / (2 * speedHz) - 1 }

/-- What the engine finds in a command word: bits 13:12, 9:8 and 7:0 -/
structure Instruction where
  opcode : ℕ
  field : ℕ
  arg : ℕ
deriving DecidableEq

def decode (w : UInt32) : Instruction := ⟨w.toNat / 2 ^ 12 % 4, w.toNat / 2 ^ 8 % 4, w.toNat % 2 ^ 8⟩

/-- The port for command words -/
def commandPort (e : SpiEngine) : UInt32 :=
  if e.offloadConfig &&& (OFFLOAD_TX_EN ||| OFFLOAD_RX_EN) ≠ 0 then SPI_ENGINE_REG_OFFLOAD_CMD_MEM
  else SPI_ENGINE_REG_CMD_FIFO

/-- The length of a pause in periods of the SPI clock -/
def sleepTicks (e : SpiEngine) (ns : ℕ) : ℕ :=
  e.maxSpeedHz.toNat / 1000000 * ns / 1000 / ((e.clkDiv.toNat + 1) * 2)

/-- The instruction that a queued command asks for. Numbers of words and ticks are zero based. -/
def Requests (e : SpiEngine) (cmd : UInt32) (i : Instruction) : Prop :=
  let modifier := cmd.toNat / 2 ^ 8 % 16
  let parameter := cmd.toNat % 2 ^ 8
  match cmd.toNat / 2 ^ 12 % 16 with
  | 0 => i.opcode = 0 ∧ i.field = modifier ∧ i.arg + 1 = parameter ⌈/⌉ (e.dataWidth.toNat / 8)
  | 1 => i.opcode = 1 ∧ i.field = e.csDelay.toNat ∧
    (parameter = 0xFF ∧ i.arg = 0xFF ∨ parameter = 0 ∧ i.arg + 2 ^ e.chipSelect.toNat = 0xFF)
  | 2 => i = ⟨2, modifier, parameter⟩
  | 3 => modifier = 0 ∧ i = ⟨3, 0, parameter⟩ ∨
    modifier = 1 ∧ i.opcode = 3 ∧ i.field = 1 ∧ i.arg + 1 = e.sleepTicks parameter
  | _ => False

/-- What a message asks for: the configuration, its commands and a sync -/
def requests (e : SpiEngine) (cmds : List UInt32) : List (Instruction → Prop) :=
  (· = ⟨2, 1, e.mode.toNat⟩) :: (· = ⟨2, 2, e.dataWidth.toNat⟩) :: (· = ⟨2, 0, e.clkDiv.toNat⟩) ::
    (cmds.map e.Requests ++ [(· = ⟨3, 0, e.syncId.toNat⟩)])

/-- Each command becomes one word, which the engine reads as it is meant, in this order. -/
def Encodes (e : SpiEngine) (cmds : List UInt32) : Prop :=
  ∃ words, ((e.compileMessage cmds).foldl writeCmd e).writes = e.writes ++ words.map (Prod.mk e.commandPort) ∧
    List.Forall₂ (fun request w => request (decode w)) (e.requests cmds) words

/-- A queued command that fits into a word -/
def Encodable (e : SpiEngine) (cmd : UInt32) : Prop :=
  let modifier := cmd.toNat / 2 ^ 8 % 16
  let parameter := cmd.toNat % 2 ^ 8
  match cmd.toNat / 2 ^ 12 % 16 with
  | 0 => modifier < 4 ∧ 8 ≤ e.dataWidth.toNat ∧ parameter ≠ 0
  | 1 => e.csDelay.toNat < 4 ∧ (parameter = 0xFF ∨ parameter = 0)
  | 2 => modifier < 4
  | 3 => modifier = 0 ∨ modifier = 1 ∧ 1 ≤ e.sleepTicks parameter ∧ e.sleepTicks parameter ≤ 256
  | _ => False

/-- The words that a command becomes -/
def wordsOf (e : SpiEngine) (cmd : UInt32) : List UInt32 :=
  let engineCommand := (cmd >>> 12) &&& 0x0F
  let modifier := (cmd >>> 8) &&& 0x0F
  let parameter := cmd &&& 0xFF
  if engineCommand = SPI_ENGINE_INST_TRANSFER then
    [spiEngineCmd SPI_ENGINE_INST_TRANSFER modifier.toUInt8.toUInt32
      ((e.getWordsNumber parameter.toUInt8).toUInt32 - 1)]
  else if engineCommand = SPI_ENGINE_INST_ASSERT then
    if parameter = 0xFF then [spiEngineCmd SPI_ENGINE_INST_ASSERT e.csDelay.toUInt32 0xFF]
    else if parameter = 0x00 then
      [spiEngineCmd SPI_ENGINE_INST_ASSERT e.csDelay.toUInt32
        (0xFF ^^^ ((1 : UInt32) <<< e.chipSelect.toUInt32).toUInt8).toUInt32]
    else []
  else if engineCommand = SPI_ENGINE_INST_SYNC_SLEEP then
    if modifier = 0x00 then [cmd]
    else if modifier = 0x01 then
      [spiEngineCmd SPI_ENGINE_INST_MISC SPI_ENGINE_MISC_SLEEP (e.getSleepDiv parameter)]
    else []
  else if engineCommand = SPI_ENGINE_INST_CONFIG then [cmd]
  else []

/-- Words are written to the port for commands. -/
def emit (e : SpiEngine) (words : List UInt32) (len : UInt8) : SpiEngine :=
  { e with writes := e.writes ++ words.map (Prod.mk e.commandPort), offloadTxLen := len }

variable {e : SpiEngine} {cmd : UInt32} {cmds words : List UInt32}

lemma emit_emit (words words' : List UInt32) (len len' : UInt8) :
    (e.emit words len).emit words' len' = e.emit (words ++ words') len' := by
  have hport : (e.emit words len).commandPort = e.commandPort := rfl
  simp only [emit, List.map_append, List.append_assoc]
  rfl

lemma emit_nil : e.emit [] e.offloadTxLen = e := by
  rw [emit, List.map_nil, List.append_nil]

lemma writeCmdReg_emit (w : UInt32) : e.writeCmdReg w = e.emit [w] e.offloadTxLen := by
  unfold writeCmdReg emit commandPort
  split
  · rfl
  · rfl

lemma writeCmd_emit (e : SpiEngine) (cmd : UInt32) :
    ∃ len, e.writeCmd cmd = e.emit (e.wordsOf cmd) len := by
  unfold writeCmd wordsOf
  dsimp only
  split
  · exact ⟨_, writeCmdReg_emit _⟩
  · split
    · split
      · exact ⟨_, writeCmdReg_emit _⟩
      · split
        · exact ⟨_, writeCmdReg_emit _⟩
        · exact ⟨_, emit_nil.symm⟩
    · split
      · split
        · exact ⟨_, writeCmdReg_emit _⟩
        · split
          · exact ⟨_, writeCmdReg_emit _⟩
          · exact ⟨_, emit_nil.symm⟩
      · split
        · exact ⟨_, writeCmdReg_emit _⟩
        · exact ⟨_, emit_nil.symm⟩

lemma foldl_writeCmd (e : SpiEngine) (cmds : List UInt32) :
    ∃ len, cmds.foldl writeCmd e = e.emit (cmds.flatMap e.wordsOf) len := by
  induction cmds generalizing e with
  | nil => exact ⟨_, emit_nil.symm⟩
  | cons cmd cmds ih =>
    obtain ⟨len, hcmd⟩ := e.writeCmd_emit cmd
    obtain ⟨len', hrest⟩ := ih (e.emit (e.wordsOf cmd) len)
    refine ⟨len', ?_⟩
    rw [List.foldl_cons, hcmd, hrest, List.flatMap_cons, ← emit_emit (e.wordsOf cmd) _ len len']
    rfl

lemma length_wordsOf (e : SpiEngine) (cmd : UInt32) : (e.wordsOf cmd).length ≤ 1 := by
  unfold wordsOf
  dsimp only
  split_ifs <;> simp

lemma length_flatMap_wordsOf (e : SpiEngine) (cmds : List UInt32) :
    (cmds.flatMap e.wordsOf).length ≤ cmds.length := by
  induction cmds with
  | nil => exact le_rfl
  | cons cmd cmds ih =>
    have hone := length_wordsOf e cmd
    rw [List.flatMap_cons, List.length_append, List.length_cons]
    lia

lemma forall₂_of_flatMap (hwords : cmds.flatMap e.wordsOf = words) (hlen : words.length = cmds.length) :
    List.Forall₂ (fun cmd w => e.wordsOf cmd = [w]) cmds words := by
  induction cmds generalizing words with
  | nil =>
    obtain rfl := List.length_eq_zero_iff.mp hlen
    exact .nil
  | cons cmd cmds ih =>
    have hle := e.length_flatMap_wordsOf cmds
    rw [List.flatMap_cons] at hwords
    cases hcmd : e.wordsOf cmd with
    | nil =>
      rw [hcmd, List.nil_append] at hwords
      rw [← hwords, List.length_cons] at hlen
      omega
    | cons w ws =>
      have hone := length_wordsOf e cmd
      rw [hcmd, List.length_cons] at hone
      obtain rfl : ws = [] := List.length_eq_zero_iff.mp (by lia)
      rw [hcmd, List.singleton_append] at hwords
      subst hwords
      exact .cons hcmd (ih rfl (by simpa using hlen))

lemma flatMap_of_forall₂ (h : List.Forall₂ (fun cmd w => e.wordsOf cmd = [w]) cmds words) :
    cmds.flatMap e.wordsOf = words := by
  induction h with
  | nil => rfl
  | cons hcmd _ ih => rw [List.flatMap_cons, hcmd, ih, List.singleton_append]

/-- The command becomes one word, which is read as it is meant. -/
def Yields (e : SpiEngine) (request : Instruction → Prop) (cmd : UInt32) : Prop :=
  ∃ w, e.wordsOf cmd = [w] ∧ request (decode w)

lemma encodes_iff (cmds : List UInt32) :
    e.Encodes cmds ↔ List.Forall₂ e.Yields (e.requests cmds) (e.compileMessage cmds) := by
  obtain ⟨len, hrun⟩ := e.foldl_writeCmd (e.compileMessage cmds)
  have hlen : (e.requests cmds).length = (e.compileMessage cmds).length := by
    simp [requests, compileMessage]
  rw [Encodes, hrun]
  constructor
  · rintro ⟨words, hwrites, hall⟩
    have hmap := List.append_cancel_left hwrites
    have hflat : (e.compileMessage cmds).flatMap e.wordsOf = words :=
      List.map_injective_iff.mpr (Prod.mk_right_injective _) hmap
    have hone := forall₂_of_flatMap hflat (hall.length_eq.symm.trans hlen)
    refine List.forall₂_iff_get.mpr ⟨hlen, fun i h₁ h₂ => ?_⟩
    have hi : i < words.length := by rwa [← hall.length_eq]
    exact ⟨words.get ⟨i, hi⟩, (List.forall₂_iff_get.mp hone).2 i h₂ hi,
      (List.forall₂_iff_get.mp hall).2 i h₁ hi⟩
  · intro hall
    obtain ⟨words, hreq, hone⟩ : ∃ words, List.Forall₂ (fun request w => request (decode w)) (e.requests cmds) words ∧
        List.Forall₂ (fun cmd w => e.wordsOf cmd = [w]) (e.compileMessage cmds) words := by
      clear hrun hlen
      generalize e.requests cmds = rs at hall
      generalize e.compileMessage cmds = q at hall
      induction hall with
      | nil => exact ⟨[], .nil, .nil⟩
      | cons hyields _ ih =>
        obtain ⟨w, hword, hread⟩ := hyields
        obtain ⟨words, hreq, hone⟩ := ih
        exact ⟨w :: words, .cons hread hreq, .cons hword hone⟩
    refine ⟨words, ?_, hreq⟩
    rw [flatMap_of_forall₂ hone]
    rfl

lemma forall₂_append_iff {requests : List (Instruction → Prop)} (hlen : requests.length = cmds.length)
    {request : Instruction → Prop} :
    List.Forall₂ e.Yields (requests ++ [request]) (cmds ++ [cmd]) ↔
      List.Forall₂ e.Yields requests cmds ∧ e.Yields request cmd := by
  induction requests generalizing cmds with
  | nil =>
    obtain rfl := List.length_eq_zero_iff.mp hlen.symm
    simp
  | cons r rs ih =>
    cases cmds with
    | nil => simp at hlen
    | cons c cs =>
      simp only [List.cons_append, List.forall₂_cons, ih (by simpa using hlen), and_assoc]

section Fields

variable {inst arg1 arg2 : UInt32}

lemma toNat_and_three (w : UInt32) : (w &&& 0x03).toNat = w.toNat % 4 :=
  Nat.and_two_pow_sub_one_eq_mod w.toNat 2

lemma toNat_spiEngineCmd (h : arg2.toNat < 2 ^ 8) : (spiEngineCmd inst arg1 arg2).toNat =
    inst.toNat % 4 * 2 ^ 12 + (arg1.toNat % 4 * 2 ^ 8 + arg2.toNat) := by
  have hlow := BitField.toNat_or_shiftLeft 8 arg2 (arg1 &&& 0x03) (by decide) h
    (by rw [toNat_and_three]; lia)
  rw [toNat_and_three] at hlow
  have hall := BitField.toNat_or_shiftLeft 12 ((arg1 &&& 0x03) <<< UInt32.ofNat 8 ||| arg2) (inst &&& 0x03)
    (by decide) (by rw [hlow]; lia) (by rw [toNat_and_three]; lia)
  rw [hlow, toNat_and_three] at hall
  rw [spiEngineCmd, UInt32.or_assoc]
  exact hall

lemma decode_spiEngineCmd (h : arg2.toNat < 2 ^ 8) :
    decode (spiEngineCmd inst arg1 arg2) = ⟨inst.toNat % 4, arg1.toNat % 4, arg2.toNat⟩ := by
  rw [decode, toNat_spiEngineCmd h, Instruction.mk.injEq]
  lia

lemma engineCommand_eq (cmd : UInt32) : (cmd >>> 12) &&& 0x0F = UInt32.ofNat (cmd.toNat / 2 ^ 12 % 16) := by
  apply UInt32.toNat_inj.mp
  rw [UInt32.toNat_and, UInt32.toNat_shiftRight, UInt32.toNat_ofNat_of_lt' (by simp only [UInt32.size]; lia)]
  change (cmd.toNat >>> 12) &&& 15 = _
  rw [Nat.shiftRight_eq_div_pow]
  exact Nat.and_two_pow_sub_one_eq_mod _ 4

lemma modifier_eq (cmd : UInt32) : (cmd >>> 8) &&& 0x0F = UInt32.ofNat (cmd.toNat / 2 ^ 8 % 16) := by
  apply UInt32.toNat_inj.mp
  rw [UInt32.toNat_and, UInt32.toNat_shiftRight, UInt32.toNat_ofNat_of_lt' (by simp only [UInt32.size]; lia)]
  change (cmd.toNat >>> 8) &&& 15 = _
  rw [Nat.shiftRight_eq_div_pow]
  exact Nat.and_two_pow_sub_one_eq_mod _ 4

lemma parameter_eq (cmd : UInt32) : cmd &&& 0xFF = UInt32.ofNat (cmd.toNat % 2 ^ 8) := by
  apply UInt32.toNat_inj.mp
  rw [UInt32.toNat_and, UInt32.toNat_ofNat_of_lt' (by simp only [UInt32.size]; lia)]
  exact Nat.and_two_pow_sub_one_eq_mod _ 8

lemma ofNat_eq_iff {n m : ℕ} (hn : n < 2 ^ 32) (hm : m < 2 ^ 32) : UInt32.ofNat n = UInt32.ofNat m ↔ n = m := by
  rw [← UInt32.toNat_inj, UInt32.toNat_ofNat_of_lt' hn, UInt32.toNat_ofNat_of_lt' hm]

end Fields

section Kinds

variable {i m p : ℕ}

lemma wordsOf_eq (hi : cmd.toNat / 2 ^ 12 % 16 = i) (hm : cmd.toNat / 2 ^ 8 % 16 = m) (hp : cmd.toNat % 2 ^ 8 = p) :
    e.wordsOf cmd =
      if i = 0 then
        [spiEngineCmd 0 (UInt32.ofNat m).toUInt8.toUInt32 ((e.getWordsNumber (UInt32.ofNat p).toUInt8).toUInt32 - 1)]
      else if i = 1 then
        if p = 0xFF then [spiEngineCmd 1 e.csDelay.toUInt32 0xFF]
        else if p = 0 then
          [spiEngineCmd 1 e.csDelay.toUInt32 (0xFF ^^^ ((1 : UInt32) <<< e.chipSelect.toUInt32).toUInt8).toUInt32]
        else []
      else if i = 3 then
        if m = 0 then [cmd] else if m = 1 then [spiEngineCmd 3 1 (e.getSleepDiv (UInt32.ofNat p))] else []
      else if i = 2 then [cmd]
      else [] := by
  have hi' : ∀ n < 16, UInt32.ofNat i = UInt32.ofNat n ↔ i = n := fun n hn => ofNat_eq_iff (by lia) (by lia)
  have hm' : ∀ n < 16, UInt32.ofNat m = UInt32.ofNat n ↔ m = n := fun n hn => ofNat_eq_iff (by lia) (by lia)
  have hp' : ∀ n < 256, UInt32.ofNat p = UInt32.ofNat n ↔ p = n := fun n hn => ofNat_eq_iff (by lia) (by lia)
  unfold wordsOf
  dsimp only
  rw [engineCommand_eq, modifier_eq, parameter_eq, hi, hm, hp]
  exact ite_congr (propext (hi' 0 (by decide))) (fun _ => rfl) fun _ =>
    ite_congr (propext (hi' 1 (by decide)))
      (fun _ => ite_congr (propext (hp' 0xFF (by decide))) (fun _ => rfl) fun _ =>
        ite_congr (propext (hp' 0 (by decide))) (fun _ => rfl) fun _ => rfl) fun _ =>
      ite_congr (propext (hi' 3 (by decide)))
        (fun _ => ite_congr (propext (hm' 0 (by decide))) (fun _ => rfl) fun _ =>
          ite_congr (propext (hm' 1 (by decide))) (fun _ => rfl) fun _ => rfl) fun _ =>
        ite_congr (propext (hi' 2 (by decide))) (fun _ => rfl) fun _ => rfl

lemma yields_of_singleton {request : Instruction → Prop} {w : UInt32} (h : e.wordsOf cmd = [w]) :
    e.Yields request cmd ↔ request (decode w) := by
  constructor
  · rintro ⟨w', hw, hreq⟩
    rw [h, List.singleton_inj] at hw
    rwa [hw]
  · exact fun hreq => ⟨w, h, hreq⟩

lemma not_yields_of_nil {request : Instruction → Prop} (h : e.wordsOf cmd = []) : ¬e.Yields request cmd := by
  rintro ⟨w, hw, -⟩
  rw [h] at hw
  exact absurd hw (List.cons_ne_nil _ _).symm

lemma yields_config (r v : UInt32) (hr : r.toNat < 4) :
    e.Yields (· = ⟨2, r.toNat, v.toNat⟩) (spiEngineCmd SPI_ENGINE_INST_CONFIG r v) ↔ v.toNat < 2 ^ 8 := by
  constructor
  · rintro ⟨w, -, hw⟩
    have harg : w.toNat % 2 ^ 8 = v.toNat := congrArg Instruction.arg hw
    lia
  · intro hv
    have hnat : (spiEngineCmd SPI_ENGINE_INST_CONFIG r v).toNat = 2 * 2 ^ 12 + (r.toNat % 4 * 2 ^ 8 + v.toNat) :=
      toNat_spiEngineCmd hv
    have hinst : (spiEngineCmd SPI_ENGINE_INST_CONFIG r v).toNat / 2 ^ 12 % 16 = 2 := by lia
    have hword := wordsOf_eq (e := e) hinst rfl rfl
    rw [yields_of_singleton hword, decode_spiEngineCmd hv, Nat.mod_eq_of_lt hr]
    rfl

lemma yields_sync (id : UInt8) : e.Yields (· = ⟨3, 0, id.toNat⟩)
    (spiEngineCmd SPI_ENGINE_INST_MISC SPI_ENGINE_MISC_SYNC id.toUInt32) := by
  have hid : id.toUInt32.toNat < 2 ^ 8 := by
    rw [UInt8.toNat_toUInt32]
    exact id.toNat_lt
  have hnat : (spiEngineCmd SPI_ENGINE_INST_MISC SPI_ENGINE_MISC_SYNC id.toUInt32).toNat =
      3 * 2 ^ 12 + (0 * 2 ^ 8 + id.toUInt32.toNat) := toNat_spiEngineCmd hid
  have hinst : (spiEngineCmd SPI_ENGINE_INST_MISC SPI_ENGINE_MISC_SYNC id.toUInt32).toNat / 2 ^ 12 % 16 = 3 := by
    lia
  have hzero : (spiEngineCmd SPI_ENGINE_INST_MISC SPI_ENGINE_MISC_SYNC id.toUInt32).toNat / 2 ^ 8 % 16 = 0 := by
    lia
  have hword := wordsOf_eq (e := e) hinst hzero rfl
  rw [yields_of_singleton hword, decode_spiEngineCmd hid, UInt8.toNat_toUInt32]
  rfl

lemma toNat_parameter (hp : p < 2 ^ 8) : (UInt32.ofNat p).toUInt8.toNat = p := by
  rw [UInt32.toNat_toUInt8, UInt32.toNat_ofNat_of_lt' (by simp only [UInt32.size]; omega), Nat.mod_eq_of_lt hp]

lemma field_lt (w : UInt32) : (decode w).field < 4 := Nat.mod_lt _ (by decide)

lemma arg_lt (w : UInt32) : (decode w).arg < 2 ^ 8 := Nat.mod_lt _ (by decide)

lemma decode_pred {inst arg1 n : UInt32} (hpos : 1 ≤ n.toNat) (hle : n.toNat ≤ 256) :
    decode (spiEngineCmd inst arg1 (n - 1)) = ⟨inst.toNat % 4, arg1.toNat % 4, n.toNat - 1⟩ := by
  have hpred : (n - 1).toNat = n.toNat - 1 := UInt32.toNat_sub_of_le n 1 (UInt32.le_iff_toNat_le.mpr hpos)
  rw [decode_spiEngineCmd (by lia), hpred]

lemma decode_eq (hi : cmd.toNat / 2 ^ 12 % 16 = i) (hm : cmd.toNat / 2 ^ 8 % 16 = m) (hp : cmd.toNat % 2 ^ 8 = p) :
    decode cmd = ⟨i % 4, m % 4, p⟩ := by
  rw [decode, Instruction.mk.injEq]
  lia

lemma toNat_mask (hcs : e.chipSelect.toNat < 8) :
    (0xFF ^^^ ((1 : UInt32) <<< e.chipSelect.toUInt32).toUInt8).toUInt32.toNat + 2 ^ e.chipSelect.toNat = 0xFF := by
  have hall : ∀ c < 8, (0xFF ^^^ ((1 : UInt32) <<< (UInt8.ofNat c).toUInt32).toUInt8).toUInt32.toNat + 2 ^ c = 0xFF := by
    decide
  have hc := hall e.chipSelect.toNat hcs
  rwa [UInt8.ofNat_toNat] at hc

lemma yields_transfer (hi : cmd.toNat / 2 ^ 12 % 16 = 0) (hm : cmd.toNat / 2 ^ 8 % 16 = m) (hp : cmd.toNat % 2 ^ 8 = p) :
    e.Yields (fun i => i.opcode = 0 ∧ i.field = m ∧ i.arg + 1 = p ⌈/⌉ (e.dataWidth.toNat / 8)) cmd ↔
      m < 4 ∧ 8 ≤ e.dataWidth.toNat ∧ p ≠ 0 := by
  have hlen : e.getWordLenght.toNat = e.dataWidth.toNat / 8 := by
    rw [getWordLenght, UInt8.toNat_div]
    rfl
  rw [yields_of_singleton (wordsOf_eq hi hm hp)]
  constructor
  · rintro ⟨-, hfield, harg⟩
    have hlt := field_lt (spiEngineCmd 0 (UInt32.ofNat m).toUInt8.toUInt32
      ((e.getWordsNumber (UInt32.ofNat p).toUInt8).toUInt32 - 1))
    refine ⟨by lia, ?_, ?_⟩
    · by_contra hsmall
      rw [Nat.div_eq_of_lt (by lia), Nat.ceilDiv_eq_add_pred_div, Nat.div_zero] at harg
      lia
    · rintro rfl
      rw [zero_ceilDiv] at harg
      lia
  · rintro ⟨hm4, hwidth, hp0⟩
    have hk : 0 < e.dataWidth.toNat / 8 := by lia
    have hwords : (e.getWordsNumber (UInt32.ofNat p).toUInt8).toUInt32.toNat = p ⌈/⌉ (e.dataWidth.toNat / 8) := by
      rw [UInt8.toNat_toUInt32, toNat_wordsNumber hlen hk, toNat_parameter (by lia)]
    have hpos : 1 ≤ p ⌈/⌉ (e.dataWidth.toNat / 8) := by
      have hle := le_mul_wordsNumber (m := p) hk
      by_contra hzero
      rw [Nat.lt_one_iff.mp (not_le.mp hzero)] at hle
      lia
    have hle : p ⌈/⌉ (e.dataWidth.toNat / 8) ≤ 256 := by
      rw [ceilDiv_le_iff_le_smul hk, smul_eq_mul]
      have hmul := Nat.mul_le_mul_right 256 hk
      lia
    have hmod : (UInt32.ofNat m).toUInt8.toUInt32.toNat = m := by
      rw [UInt8.toNat_toUInt32, toNat_parameter (by lia)]
    rw [decode_pred (by lia) (by lia), hwords, hmod]
    exact ⟨rfl, Nat.mod_eq_of_lt hm4, Nat.sub_add_cancel hpos⟩

lemma yields_assert (hcs : e.chipSelect.toNat < 8) (hi : cmd.toNat / 2 ^ 12 % 16 = 1)
    (hp : cmd.toNat % 2 ^ 8 = p) :
    e.Yields (fun i => i.opcode = 1 ∧ i.field = e.csDelay.toNat ∧
        (p = 0xFF ∧ i.arg = 0xFF ∨ p = 0 ∧ i.arg + 2 ^ e.chipSelect.toNat = 0xFF)) cmd ↔
      e.csDelay.toNat < 4 ∧ (p = 0xFF ∨ p = 0) := by
  have hword := wordsOf_eq (e := e) hi rfl hp
  rw [if_neg (by decide), if_pos rfl] at hword
  have hdelay : e.csDelay.toUInt32.toNat = e.csDelay.toNat := UInt8.toNat_toUInt32 _
  have hmask := toNat_mask hcs
  constructor
  · rintro ⟨w, -, -, hfield, hcase⟩
    have hlt := field_lt w
    exact ⟨by lia, hcase.imp And.left And.left⟩
  · rintro ⟨hlt, rfl | rfl⟩
    · rw [if_pos rfl] at hword
      rw [yields_of_singleton hword, decode_spiEngineCmd (by decide), hdelay]
      exact ⟨rfl, Nat.mod_eq_of_lt hlt, .inl ⟨rfl, rfl⟩⟩
    · rw [if_neg (by decide), if_pos rfl] at hword
      rw [yields_of_singleton hword, decode_spiEngineCmd (Nat.lt_succ_of_le (Nat.le.intro hmask)), hdelay]
      exact ⟨rfl, Nat.mod_eq_of_lt hlt, .inr ⟨rfl, hmask⟩⟩

lemma toNat_getSleepDiv (hclk : e.clkDiv.toNat < 256) (hp : p < 2 ^ 8) : ∃ n : UInt32,
    e.getSleepDiv (UInt32.ofNat p) = n - 1 ∧ n.toNat = e.sleepTicks p := by
  refine ⟨_, rfl, ?_⟩
  have hmega : e.maxSpeedHz.toNat / 1000000 ≤ 4294 := by
    have hmax := e.maxSpeedHz.toNat_lt
    lia
  have hprod : e.maxSpeedHz.toNat / 1000000 * p ≤ 4294 * 255 := Nat.mul_le_mul hmega (by omega)
  have hdiv : ((e.clkDiv + 1) * 2).toNat = (e.clkDiv.toNat + 1) * 2 := by
    rw [UInt32.toNat_mul, UInt32.toNat_add]
    change (e.clkDiv.toNat + 1) % 2 ^ 32 * 2 % 2 ^ 32 = _
    rw [Nat.mod_eq_of_lt (a := e.clkDiv.toNat + 1) (by lia), Nat.mod_eq_of_lt (by lia)]
  rw [UInt32.toNat_div, UInt32.toNat_div, UInt32.toNat_mul, UInt32.toNat_div, hdiv,
    UInt32.toNat_ofNat_of_lt' (by simp only [UInt32.size]; lia)]
  change e.maxSpeedHz.toNat / 1000000 * p % 2 ^ 32 / 1000 / _ = _
  rw [Nat.mod_eq_of_lt (by lia), sleepTicks]

lemma yields_misc (hclk : e.clkDiv.toNat < 256) (hi : cmd.toNat / 2 ^ 12 % 16 = 3)
    (hm : cmd.toNat / 2 ^ 8 % 16 = m) (hp : cmd.toNat % 2 ^ 8 = p) :
    e.Yields (fun i => m = 0 ∧ i = ⟨3, 0, p⟩ ∨
        m = 1 ∧ i.opcode = 3 ∧ i.field = 1 ∧ i.arg + 1 = e.sleepTicks p) cmd ↔
      m = 0 ∨ m = 1 ∧ 1 ≤ e.sleepTicks p ∧ e.sleepTicks p ≤ 256 := by
  have hword := wordsOf_eq (e := e) hi hm hp
  rw [if_neg (by decide), if_neg (by decide), if_pos rfl] at hword
  constructor
  · rintro ⟨w, -, ⟨hzero, -⟩ | ⟨hone, -, -, harg⟩⟩
    · exact .inl hzero
    · have hlt := arg_lt w
      exact .inr ⟨hone, by lia, by lia⟩
  · rintro (rfl | ⟨rfl, hpos, hle⟩)
    · rw [if_pos rfl] at hword
      rw [yields_of_singleton hword, decode_eq hi hm hp]
      exact .inl ⟨rfl, rfl⟩
    · obtain ⟨n, hdiv, hn⟩ := toNat_getSleepDiv hclk (p := p) (by lia)
      rw [if_neg (by decide), if_pos rfl, hdiv] at hword
      rw [yields_of_singleton hword, decode_pred (by lia) (by lia), hn]
      exact .inr ⟨rfl, rfl, rfl, Nat.sub_add_cancel hpos⟩

lemma yields_iff (hcs : e.chipSelect.toNat < 8) (hclk : e.clkDiv.toNat < 256) :
    e.Yields (e.Requests cmd) cmd ↔ e.Encodable cmd := by
  unfold Requests Encodable
  dsimp only
  generalize hi : cmd.toNat / 2 ^ 12 % 16 = i
  generalize hm : cmd.toNat / 2 ^ 8 % 16 = m
  generalize hp : cmd.toNat % 2 ^ 8 = p
  match i with
  | 0 => exact yields_transfer hi hm hp
  | 1 => exact yields_assert hcs hi hp
  | 2 =>
    have hword := wordsOf_eq (e := e) hi hm hp
    rw [if_neg (by decide), if_neg (by decide), if_neg (by decide), if_pos rfl] at hword
    change e.Yields (· = ⟨2, m, p⟩) cmd ↔ m < 4
    rw [yields_of_singleton hword, decode_eq hi hm hp, Instruction.mk.injEq]
    lia
  | 3 => exact yields_misc hclk hi hm hp
  | n + 4 =>
    have hword := wordsOf_eq (e := e) hi hm hp
    rw [if_neg (by lia), if_neg (by lia), if_neg (by lia), if_neg (by lia)] at hword
    exact iff_of_false (not_yields_of_nil hword) id

end Kinds

lemma compileMessage_eq (cmds : List UInt32) : e.compileMessage cmds =
    spiEngineCmd SPI_ENGINE_INST_CONFIG SPI_ENGINE_CMD_REG_CONFIG e.mode ::
      spiEngineCmd SPI_ENGINE_INST_CONFIG SPI_ENGINE_CMD_DATA_TRANSFER_LEN e.dataWidth.toUInt32 ::
        spiEngineCmd SPI_ENGINE_INST_CONFIG SPI_ENGINE_CMD_REG_CLK_DIV e.clkDiv ::
          (cmds ++ [spiEngineCmd SPI_ENGINE_INST_MISC SPI_ENGINE_MISC_SYNC e.syncId.toUInt32]) := rfl

lemma encodes_iff_forall (cmds : List UInt32) : e.Encodes cmds ↔
    e.mode.toNat < 2 ^ 8 ∧ e.clkDiv.toNat < 2 ^ 8 ∧ ∀ cmd ∈ cmds, e.Yields (e.Requests cmd) cmd := by
  have hwidth : e.dataWidth.toUInt32.toNat < 2 ^ 8 := by
    rw [UInt8.toNat_toUInt32]
    exact e.dataWidth.toNat_lt
  have hmode := e.yields_config SPI_ENGINE_CMD_REG_CONFIG e.mode (by decide)
  have hlen := (e.yields_config SPI_ENGINE_CMD_DATA_TRANSFER_LEN e.dataWidth.toUInt32 (by decide)).mpr hwidth
  have hdiv := e.yields_config SPI_ENGINE_CMD_REG_CLK_DIV e.clkDiv (by decide)
  rw [UInt8.toNat_toUInt32] at hlen
  rw [encodes_iff]
  constructor
  · intro h
    rw [requests, compileMessage_eq, List.forall₂_cons, List.forall₂_cons, List.forall₂_cons,
      forall₂_append_iff (List.length_map _), List.forall₂_map_left_iff, List.forall₂_same] at h
    obtain ⟨hm, -, hd, hcmds, -⟩ := h
    exact ⟨hmode.mp hm, hdiv.mp hd, hcmds⟩
  · rintro ⟨hm, hd, hcmds⟩
    have hall : List.Forall₂ e.Yields (cmds.map e.Requests) cmds := by
      rw [List.forall₂_map_left_iff, List.forall₂_same]
      exact hcmds
    exact .cons (hmode.mpr hm) (.cons hlen (.cons (hdiv.mpr hd)
      ((forall₂_append_iff (List.length_map _)).mpr ⟨hall, e.yields_sync e.syncId⟩)))

lemma setSpeed_spec {e₀ : SpiEngine} {refClkHz speedHz : UInt32} (hset : e₀.setSpeed refClkHz speedHz = some e) :
    (2 * speedHz).toNat ≠ 0 ∧ e.clkDiv = refClkHz / (2 * speedHz) - 1 := by
  rw [setSpeed] at hset
  by_cases hzero : 2 * speedHz = 0
  · rw [if_pos hzero] at hset
    exact absurd hset.symm (Option.some_ne_none _)
  · rw [if_neg hzero, Option.some.injEq] at hset
    exact ⟨fun h => hzero (UInt32.toNat_inj.mp h), by rw [← hset]⟩

/-- The divider has 8 bits if the clocks are at a ratio of at least 1 and below 257. -/
lemma clkDiv_lt_iff {e₀ : SpiEngine} {refClkHz speedHz : UInt32} (hset : e₀.setSpeed refClkHz speedHz = some e) :
    e.clkDiv.toNat < 2 ^ 8 ↔
      (2 * speedHz).toNat ≤ refClkHz.toNat ∧ refClkHz.toNat < 257 * (2 * speedHz).toNat := by
  obtain ⟨hne, hdiv⟩ := setSpeed_spec hset
  have hpos := Nat.pos_of_ne_zero hne
  have hq : (refClkHz / (2 * speedHz)).toNat = refClkHz.toNat / (2 * speedHz).toNat := UInt32.toNat_div _ _
  rw [hdiv]
  by_cases hslow : refClkHz.toNat < (2 * speedHz).toNat
  · have hzero : refClkHz / (2 * speedHz) = 0 := by
      apply UInt32.toNat_inj.mp
      rw [hq]
      exact Nat.div_eq_of_lt hslow
    rw [hzero]
    exact iff_of_false (by decide) fun h => absurd h.1 (not_le.mpr hslow)
  · have hone : 1 ≤ refClkHz.toNat / (2 * speedHz).toNat := (Nat.le_div_iff_mul_le hpos).mpr (by lia)
    have hpred : (refClkHz / (2 * speedHz) - 1).toNat = refClkHz.toNat / (2 * speedHz).toNat - 1 := by
      rw [← hq]
      exact UInt32.toNat_sub_of_le _ 1 (UInt32.le_iff_toNat_le.mpr (by rwa [hq]))
    have hlt : refClkHz.toNat / (2 * speedHz).toNat < 257 ↔ refClkHz.toNat < 257 * (2 * speedHz).toNat :=
      Nat.div_lt_iff_lt_mul hpos
    rw [hpred, ← hlt]
    lia

/-- A message is encoded as it is meant if and only if the divider, the mode and each command fit into their
words. -/
theorem compileMessage_encodes_iff (e₀ e : SpiEngine) (refClkHz speedHz : UInt32) (cmds : List UInt32)
    (hset : e₀.setSpeed refClkHz speedHz = some e) (hcs : e.chipSelect.toNat < 8) :
    e.Encodes cmds ↔
      ((2 * speedHz).toNat ≤ refClkHz.toNat ∧ refClkHz.toNat < 257 * (2 * speedHz).toNat) ∧
        e.mode.toNat < 2 ^ 8 ∧ ∀ cmd ∈ cmds, e.Encodable cmd := by
  rw [encodes_iff_forall, ← clkDiv_lt_iff hset]
  constructor
  · rintro ⟨hmode, hdiv, hall⟩
    exact ⟨hdiv, hmode, fun cmd hcmd => (yields_iff hcs hdiv).mp (hall cmd hcmd)⟩
  · rintro ⟨hdiv, hmode, hall⟩
    exact ⟨hmode, hdiv, fun cmd hcmd => (yields_iff hcs hdiv).mpr (hall cmd hcmd)⟩

/-- A descriptor that `spi_engine_init` leaves for words of 8 bits and chip select 0 -/
def fresh : SpiEngine where
  maxSpeedHz := 1000000
  chipSelect := 0
  mode := 0
  offloadConfig := OFFLOAD_DISABLED
  offloadTxLen := 0
  csDelay := 0
  clkDiv := 0
  dataWidth := 8
  syncId := 0
  writes := []
  sync := fun _ => 0
  polls := 0
  sdi := fun _ => 0
  taken := 0

/-- Both sides hold for a message that writes and reads 4 bytes at 1 MHz. -/
theorem compileMessage_encodes_iff_fresh :
    (({ fresh with clkDiv := 49 } : SpiEngine).Encodes [CS_HIGH, CS_LOW, writeReadCmd 4, CS_HIGH] ↔
      ((2 * (1000000 : UInt32)).toNat ≤ (100000000 : UInt32).toNat ∧
          (100000000 : UInt32).toNat < 257 * (2 * (1000000 : UInt32)).toNat) ∧
        (0 : UInt32).toNat < 2 ^ 8 ∧
          ∀ cmd ∈ [CS_HIGH, CS_LOW, writeReadCmd 4, CS_HIGH],
            ({ fresh with clkDiv := 49 } : SpiEngine).Encodable cmd) :=
  compileMessage_encodes_iff fresh { fresh with clkDiv := 49 } 100000000 1000000
    [CS_HIGH, CS_LOW, writeReadCmd 4, CS_HIGH] rfl (by decide)

/-- A divider of 499 reaches into the field of the register. -/
theorem not_compileMessage_encodes : ¬∀ (e₀ e : SpiEngine) (refClkHz speedHz : UInt32) (cmds : List UInt32),
    e₀.setSpeed refClkHz speedHz = some e → e.chipSelect.toNat < 8 → e.Encodes cmds := by
  intro h
  have henc := h fresh { fresh with clkDiv := 499 } 100000000 100000 [] rfl (by decide)
  have hdiv := ((encodes_iff_forall []).mp henc).2.1
  exact absurd hdiv (by decide)

end NoOS.SpiEngine
