import NoOS.Network.AtCommand

/-!
# The text of an AT command

The text of the parameters is the one of a list of plain and quoted fields, which can be read
back. Whether the command fits in `cmd_buff` depends on the characters that are escaped.
-/

namespace NoOS
open QuotedFields

def readDigits (acc : ℕ) : List UInt8 → Option ℕ
  | [] => some acc
  | ch :: str => if 48 ≤ ch ∧ ch ≤ 57 then readDigits (10 * acc + (ch.toNat - 48)) str else none

/-- A decimal number with an optional sign. -/
def readNumber (str : List UInt8) : Option Int32 :=
  if str.head? = some 45 then (readDigits 0 str.tail).map fun n : ℕ => Int32.ofInt (-n)
  else (readDigits 0 str).map fun n : ℕ => Int32.ofInt n

lemma byte_of_isDigit {c : Char} (h : c.isDigit = true) :
    48 ≤ UInt8.ofNat c.toNat ∧ UInt8.ofNat c.toNat ≤ 57 ∧ (UInt8.ofNat c.toNat).toNat = c.toNat := by
  simp only [Char.isDigit, Bool.and_eq_true, decide_eq_true_eq] at h
  have h0 : 48 ≤ c.toNat := h.1
  have h9 : c.toNat ≤ 57 := h.2
  have hval : (UInt8.ofNat c.toNat).toNat = c.toNat := UInt8.toNat_ofNat_of_lt' (by
    change c.toNat < 256
    omega)
  rw [UInt8.le_iff_toNat_le, UInt8.le_iff_toNat_le, hval]
  exact ⟨h0, h9, rfl⟩

lemma readDigits_eq {ds : List Char} (h : ∀ c ∈ ds, c.isDigit = true) (acc : ℕ) :
    readDigits acc (ds.map fun c => UInt8.ofNat c.toNat) = some (Nat.ofDigitChars 10 ds acc) := by
  induction ds generalizing acc with
  | nil => rfl
  | cons c cs ih =>
    obtain ⟨h0, h9, hval⟩ := byte_of_isDigit (h c List.mem_cons_self)
    rw [List.map_cons, readDigits, if_pos ⟨h0, h9⟩, hval,
      ih fun d hd => h d (List.mem_cons_of_mem c hd), Nat.ofDigitChars_cons]
    rfl

lemma readDigits_toDigits (n : ℕ) :
    readDigits 0 ((Nat.toDigits 10 n).map fun c => UInt8.ofNat c.toNat) = some n := by
  rw [readDigits_eq fun c hc => Numeral.isDigit_toDigits hc, Nat.ofDigitChars_ten_toDigits]

lemma mem_itoa {ch : UInt8} {nb : Int32} (h : ch ∈ itoa nb) : ch = 45 ∨ 48 ≤ ch ∧ ch ≤ 57 := by
  obtain ⟨c, hc, rfl⟩ := List.mem_map.mp h
  unfold Numeral.decimal at hc
  split at hc
  · rcases List.mem_cons.mp hc with rfl | hc
    · exact .inl rfl
    · obtain ⟨h0, h9, -⟩ := byte_of_isDigit (Numeral.isDigit_toDigits hc)
      exact .inr ⟨h0, h9⟩
  · obtain ⟨h0, h9, -⟩ := byte_of_isDigit (Numeral.isDigit_toDigits hc)
    exact .inr ⟨h0, h9⟩

lemma itoa_ne_nil (nb : Int32) : itoa nb ≠ [] := by
  unfold itoa Numeral.decimal
  split
  · exact List.cons_ne_nil _ _
  · simp [Nat.toDigits_ne_nil]

lemma readNumber_itoa (nb : Int32) : readNumber (itoa nb) = some nb := by
  unfold readNumber itoa Numeral.decimal
  split
  next hneg =>
    have hminus : UInt8.ofNat '-'.toNat = 45 := rfl
    rw [List.map_cons, hminus, List.head?_cons, if_pos rfl, List.tail_cons, readDigits_toDigits,
      Option.map_some, show -((nb.toInt.natAbs : ℕ) : ℤ) = nb.toInt by lia, Int32.ofInt_toInt]
  next hneg =>
    have hhead : ((Nat.toDigits 10 nb.toInt.natAbs).map fun c => UInt8.ofNat c.toNat).head? ≠
        some 45 := by
      intro h
      rw [List.head?_map, Option.map_eq_some_iff] at h
      obtain ⟨c, hc, hbyte⟩ := h
      obtain ⟨h0, -, -⟩ :=
        byte_of_isDigit (Numeral.isDigit_toDigits (List.mem_of_mem_head? hc))
      rw [hbyte] at h0
      exact absurd h0 (by decide)
    rw [if_neg hhead, readDigits_toDigits, Option.map_some,
      show ((nb.toInt.natAbs : ℕ) : ℤ) = nb.toInt by lia, Int32.ofInt_toInt]

/-- Comma separated, with strings in double quotes. -/
def atFormat : Format UInt8 where
  quote := 34
  sep := 44
  esc := 92
  escaped := isEscaped
  escaped_quote := by decide
  escaped_esc := by decide
  quote_ne_esc := by decide

def atNumbers : Plain atFormat Int32 where
  print := itoa
  parse := readNumber
  parse_print := readNumber_itoa
  print_ne_nil := itoa_ne_nil
  sep_notMem := by
    intro nb h
    rcases mem_itoa h with h | h
    · exact absurd h (by decide)
    · exact absurd h (by decide)
  quote_notMem := by
    intro nb h
    rcases mem_itoa h with h | h
    · exact absurd h (by decide)
    · exact absurd h (by decide)

variable {dest : List UInt8}

lemma escapeParam_eq (str : List UInt8) : escapeParam dest str = dest ++ escape atFormat str := by
  induction str generalizing dest with
  | nil => exact (List.append_nil dest).symm
  | cons ch str ih =>
    rw [escapeParam, ih, escape, escape, List.flatMap_cons]
    change _ = dest ++ ((if isEscaped ch then [92, ch] else [ch]) ++ _)
    cases isEscaped ch <;> simp

lemma setParam_eq (arg : AtArg) : setParam dest arg = dest ++ arg.encode atNumbers := by
  cases arg with
  | plain nb => rfl
  | quoted str =>
    rw [setParam, escapeParam_eq, Field.encode]
    simp [atFormat]

lemma setParams_eq (args : List AtArg) : setParams dest args = dest ++ encode atNumbers args := by
  induction args generalizing dest with
  | nil => exact (List.append_nil dest).symm
  | cons arg args ih =>
    cases args with
    | nil => exact setParam_eq arg
    | cons arg' args =>
      have hencode : encode atNumbers (arg :: arg' :: args) =
          arg.encode atNumbers ++ [44] ++ encode atNumbers (arg' :: args) := by
        rw [List.append_assoc]
        rfl
      rw [hencode, ← List.append_assoc, ← List.append_assoc, ← setParam_eq]
      exact ih

/-- The bytes of an argument: an escaped character takes two. -/
def argWidth : AtArg → ℕ
  | .plain nb => (itoa nb).length
  | .quoted str => str.length + str.countP isEscaped + 2

/-- The bytes of the arguments and of the commas between them. -/
def argsWidth (args : List AtArg) : ℕ := (args.map argWidth).sum + (args.length - 1)

lemma length_encode (args : List AtArg) : (encode atNumbers args).length = argsWidth args := by
  have harg : ∀ arg : AtArg, (arg.encode atNumbers).length = argWidth arg := by
    intro arg
    cases arg with
    | plain nb => rfl
    | quoted str =>
      rw [Field.encode, List.length_cons, List.length_append, length_escape, List.length_singleton]
      rfl
  induction args with
  | nil => rfl
  | cons arg args ih =>
    cases args with
    | nil => simp [encode, argsWidth, harg]
    | cons arg' args =>
      simp only [encode, argsWidth, List.length_append, List.length_cons, List.map_cons,
        List.sum_cons, harg] at ih ⊢
      lia

section Commands

variable (desc : AtDesc) (type : Fin MAX_CONNECTIONS → SocketType) (cmd : AtCmdId)
  (op : CmdOperation) (param : Option InParam)

/-- The command is in the buffer, and the text behind its `=` stands for its parameters. -/
def BuildsRight : Prop :=
  ∃ text, buildCmd desc type cmd op param = .ok text ∧ text.length ≤ CMD_BUFF_LEN ∧
    (op = .atSetOp → ∀ p ∈ param, ∃ params args, cmdParams desc type cmd p = .ok args ∧
      text = PUI8 "AT" ++ (gMap cmd).cmd ++ [61] ++ params ++ [13, 10] ∧
      decode atNumbers params = some args)

/-- What is sent with the parameters has room in the buffer. -/
def ParamsFit : Prop :=
  op = .atSetOp → ∀ p ∈ param, ∃ args, cmdParams desc type cmd p = .ok args ∧
    2 + (gMap cmd).cmd.length + 1 + argsWidth args + 2 ≤ CMD_BUFF_LEN

end Commands

variable {desc : AtDesc} {type : Fin MAX_CONNECTIONS → SocketType} {cmd : AtCmdId}
  {op : CmdOperation} {param : Option InParam} {p : InParam}

lemma length_name (cmd : AtCmdId) : (gMap cmd).cmd.length ≤ 10 := by
  cases cmd <;> decide

lemma buildCmd_set : buildCmd desc type cmd .atSetOp (some p) =
    (cmdParams desc type cmd p).map fun args =>
      PUI8 "AT" ++ (gMap cmd).cmd ++ [61] ++ encode atNumbers args ++ [13, 10] := by
  simp only [buildCmd, concatCmdParam]
  cases cmdParams desc type cmd p with
  | error f => rfl
  | ok args => simp only [Except.map, setParams_eq]

lemma length_set (args : List AtArg) :
    (PUI8 "AT" ++ (gMap cmd).cmd ++ [61] ++ encode atNumbers args ++ [13, 10]).length =
      2 + (gMap cmd).cmd.length + 1 + argsWidth args + 2 := by
  have hat : (PUI8 "AT").length = 2 := rfl
  simp only [List.length_append, hat, length_encode, List.length_cons, List.length_nil]

lemma buildCmd_short (h : op = .atSetOp → param = none) :
    ∃ text, buildCmd desc type cmd op param = .ok text ∧ text.length ≤ CMD_BUFF_LEN := by
  have hname := length_name cmd
  have hat : (PUI8 "AT").length = 2 := rfl
  cases op with
  | atTestOp => exact ⟨_, rfl, by simp only [List.length_append, hat, CMD_BUFF_LEN]; simp; omega⟩
  | atQueryOp => exact ⟨_, rfl, by simp only [List.length_append, hat, CMD_BUFF_LEN]; simp; omega⟩
  | atExecuteOp => exact ⟨_, rfl, by simp only [List.length_append, hat, CMD_BUFF_LEN]; simp; omega⟩
  | atSetOp =>
    rw [h rfl]
    exact ⟨_, rfl, by simp only [List.length_append, hat, CMD_BUFF_LEN]; simp; omega⟩

/-- A command is built as it should be if and only if it fits with its parameters. -/
theorem buildCmd_right_iff :
    BuildsRight desc type cmd op param ↔ ParamsFit desc type cmd op param := by
  by_cases hset : op = .atSetOp ∧ param.isSome = true
  · obtain ⟨rfl, hparam⟩ := hset
    obtain ⟨p, rfl⟩ := Option.isSome_iff_exists.mp hparam
    constructor
    · rintro ⟨text, htext, hlen, -⟩ - q hq
      obtain rfl := Option.some.inj hq
      rw [buildCmd_set] at htext
      cases hargs : cmdParams desc type cmd p with
      | error f =>
        rw [hargs] at htext
        cases htext
      | ok args =>
        rw [hargs] at htext
        obtain rfl := Except.ok.inj htext
        exact ⟨args, rfl, length_set args ▸ hlen⟩
    · intro hfit
      obtain ⟨args, hargs, hlen⟩ := hfit rfl p rfl
      refine ⟨_, by rw [buildCmd_set, hargs]; rfl, (length_set args).trans_le hlen, ?_⟩
      rintro - q hq
      obtain rfl := Option.some.inj hq
      exact ⟨_, args, hargs, rfl, decode_encode args⟩
  · have hnone : op = .atSetOp → param = none := by
      intro hop
      cases param with
      | none => rfl
      | some p => exact absurd ⟨hop, rfl⟩ hset
    obtain ⟨text, htext, hlen⟩ := @buildCmd_short desc type cmd op param hnone
    constructor
    · intro _ hop q hq
      rw [hnone hop] at hq
      cases hq
    · intro _
      refine ⟨text, htext, hlen, ?_⟩
      intro hop q hq
      rw [hnone hop] at hq
      cases hq

/-- 32 and 64 bytes of credentials have room if none of them is escaped. -/
theorem network_fits {p : InParam} (hssid : p.ssid.length ≤ 32) (hpwd : p.pwd.length ≤ 64)
    (hs : ∀ ch ∈ p.ssid, isEscaped ch = false) (hp : ∀ ch ∈ p.pwd, isEscaped ch = false) :
    ParamsFit desc type .atConnectNetwork .atSetOp (some p) := by
  rintro - q hq
  obtain rfl := Option.some.inj hq
  have hname : (gMap .atConnectNetwork).cmd.length = 6 := by decide
  have hcount : ∀ str : List UInt8, (∀ ch ∈ str, isEscaped ch = false) → str.countP isEscaped = 0 := by
    intro str h
    rw [List.countP_eq_zero]
    intro ch hch
    simp [h ch hch]
  refine ⟨[fmtS p.ssid, fmtS p.pwd], rfl, ?_⟩
  simp only [hname, argsWidth, fmtS, argWidth, hcount _ hs, hcount _ hp, List.map_cons, List.map_nil,
    List.sum_cons, List.sum_nil, List.length_cons, List.length_nil, CMD_BUFF_LEN]
  lia

/-- Credentials of quotes take two bytes for each. -/
theorem network_overflows : ¬BuildsRight {} (fun _ => .socketTcp) .atConnectNetwork .atSetOp
    (some { ssid := List.replicate 32 34, pwd := List.replicate 64 34 }) := by
  rintro ⟨text, htext, hlen, -⟩
  have hlong : (buildCmd {} (fun _ => .socketTcp) .atConnectNetwork .atSetOp
      (some { ssid := List.replicate 32 34, pwd := List.replicate 64 34 })).toOption.map
        List.length = some 208 := by
    decide +kernel
  rw [htext, Except.toOption, Option.map_some, Option.some.injEq] at hlong
  exact absurd hlen (by rw [hlong]; decide)

end NoOS
