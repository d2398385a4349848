import NoOS.Drivers.SdCard

/-!
# The card behind the SPI channel

A card is its memory and the transfer that it expects next. Each transfer has a fate: whether
it succeeds, and what is received where the card has something to say. The card of the
specification is the one whose fates are `SdPhase.fate`.
-/

namespace NoOS

/-- What the card does after a command, with the block that is next. -/
inductive SdTask
  | read (multi : Bool) (block : ℕ)
  | write (multi : Bool) (block : ℕ)
  | control
  deriving DecidableEq

inductive SdPhase
  | idle
  | response (t : SdTask)
  | token (t : SdTask)
  | data (t : SdTask)
  | crc (t : SdTask)
  | dataResponse (t : SdTask)
  | busy (t : SdTask)
  deriving DecidableEq

namespace SdTask

def ofCommand (cmd : UInt8) (arg : ℕ) : SdTask :=
  if cmd = CMD 17 then read false arg
  else if cmd = CMD 18 then read true arg
  else if cmd = CMD 24 then write false arg
  else if cmd = CMD 25 then write true arg
  else control

/-- After the command was accepted. -/
def start : SdTask → SdPhase
  | control => .idle
  | t => .token t

/-- After a block was transferred. -/
def next : SdTask → SdPhase
  | read true b => .token (read true (b + 1))
  | write true b => .token (write true (b + 1))
  | _ => .idle

def startToken (multi : Bool) : UInt8 :=
  if multi then START_N_BLOCK_TOKEN else START_1_BLOCK_TOKEN

end SdTask

/-- The card has said `byte`. -/
def SdPhase.reply (byte : UInt8) : SdPhase → SdPhase
  | response t => if byte = 0xFF then response t else if byte = R1_READY_STATE then t.start else idle
  | token t => if byte = 0xFF then token t else if byte = START_1_BLOCK_TOKEN then data t else idle
  | dataResponse t =>
    if byte = 0xFF then dataResponse t else if byte &&& MASK_RESPONSE_TOKEN = 0x4 then busy t else idle
  | busy t => if byte = 0 then busy t else t.next
  | p => p

structure Fate where
  ok : Bool
  noise : Buffer

/-- What the card says when all is well. -/
def SdPhase.byte : SdPhase → UInt8
  | response _ => R1_READY_STATE
  | token _ => START_1_BLOCK_TOKEN
  | dataResponse _ => 0x05
  | _ => 0xFF

def SdPhase.fate (p : SdPhase) : Fate := ⟨true, filled p.byte⟩

inductive SdEvent
  | command (cmd : UInt8) (arg : ℕ)
  | startToken (token : UInt8)
  | stopToken
  | readBlock (block : ℕ)
  | writtenBlock (block : ℕ)
  deriving DecidableEq

structure SdCard where
  mem : Buffer
  phase : SdPhase
  /-- The number of transfers so far. -/
  time : ℕ
  events : List SdEvent
  /-- The data blocks that were put on the bus, also in a transfer that failed. -/
  sent : List (ℕ × Buffer)

namespace SdCard

def inserted (mem : Buffer) : SdCard := ⟨mem, .idle, 0, [], []⟩

def frameArg (out : Buffer) : ℕ :=
  (((out 2).toNat * 256 + (out 3).toNat) * 256 + (out 4).toNat) * 256 + (out 5).toNat

/-- A transfer that succeeds, in the phase `p`. -/
def exchange (noise : Buffer) (x : SpiXfer) (card : SdCard) : SdPhase → Buffer × SdCard
  | .token (.write multi b) =>
    if x.len = 1 ∧ x.out 0 = SdTask.startToken multi then
      (noise, { card with
        phase := .data (.write multi b), events := card.events ++ [.startToken (x.out 0)] })
    else if x.len = 2 ∧ x.out 0 = STOP_TRANSMISSION_TOKEN then
      (noise, { card with phase := .busy .control, events := card.events ++ [.stopToken] })
    else (noise, card)
  | .data (.read multi b) =>
    if x.len = DATA_BLOCK_LEN then
      (fun k => card.mem (DATA_BLOCK_LEN * b + k), { card with
        phase := .crc (.read multi b), events := card.events ++ [.readBlock b] })
    else (noise, card)
  | .data (.write multi b) =>
    if x.len = DATA_BLOCK_LEN then
      (noise, { card with
        phase := .crc (.write multi b), events := card.events ++ [.writtenBlock b],
        mem := memcpy card.mem (DATA_BLOCK_LEN * b) x.out 0 DATA_BLOCK_LEN })
    else (noise, card)
  | .crc (.write multi b) =>
    if x.len = CRC_LEN then (noise, { card with phase := .dataResponse (.write multi b) })
    else (noise, card)
  | .crc t => if x.len = CRC_LEN then (noise, { card with phase := t.next }) else (noise, card)
  | p => if x.len = 1 then (noise, { card with phase := p.reply (noise 0) }) else (noise, card)

/-- A command is understood in every phase. -/
def command (x : SpiXfer) (card : SdCard) : SdCard := { card with
  phase := .response (.ofCommand (x.out 1) (frameArg x.out)),
  events := card.events ++ [.command (x.out 1) (frameArg x.out)] }

def putOnBus (x : SpiXfer) (card : SdCard) : SdCard :=
  match card.phase with
  | .data (.write _ b) =>
    if x.len = DATA_BLOCK_LEN then { card with sent := card.sent ++ [(b, x.out)] } else card
  | _ => card

def transfer (f : Fate) (x : SpiXfer) (card : SdCard) : IoResult × SdCard :=
  let card := putOnBus x { card with time := card.time + 1 }
  if f.ok then
    if x.len = CMD_LEN then (⟨SUCCESS, f.noise⟩, command x card)
    else
      let r := exchange f.noise x card card.phase
      (⟨SUCCESS, r.1⟩, r.2)
  else (⟨FAILURE, f.noise⟩, card)

/-- The fate of a transfer depends on its number and on the phase of the card. -/
abbrev Fates := ℕ → SdPhase → Fate

def answer (fates : Fates) (card : SdCard) (x : SpiXfer) : IoResult × SdCard :=
  transfer (fates card.time card.phase) x card

/-- From its transfer `t` on the card is that of the specification. -/
def IdealFrom (fates : Fates) (t : ℕ) : Prop := ∀ t', t ≤ t' → ∀ p, fates t' p = p.fate

variable {fates : Fates} {t t' : ℕ}

lemma IdealFrom.mono (h : IdealFrom fates t) (ht : t ≤ t') : IdealFrom fates t' :=
  fun n hn p => h n (ht.trans hn) p

end SdCard

end NoOS
