import NoOS.Errno
import NoOS.Lib.Access
import Mathlib.Data.UInt

/-!
# The SD card driver `sd.c`

Reading and writing bytes of a card behind an SPI channel. Memory that is not initialised is a
parameter, and an SPI transfer replaces the bytes that it sends by the ones that it receives.
-/

namespace NoOS
open Access

def BIT_APPLICATION_CMD : UInt8 := 0x80
def CMD (x : UInt8) : UInt8 := x + 64
def WAIT_RESP_TIMEOUT : ℕ := 1000
def R1_READY_STATE : UInt8 := 0x00
def R1_IDLE_STATE : UInt8 := 0x01
def R1_LEN : ℕ := 1
def CRC_LEN : ℕ := 2
def CMD_LEN : ℕ := 8
def STUFF_ARG : UInt32 := 0

abbrev DATA_BLOCK_LEN : ℕ := 512
def MASK_ADDR_IN_BLOCK : UInt64 := 511
def MASK_BLOCK_NUMBER : UInt64 := ~~~MASK_ADDR_IN_BLOCK

def START_1_BLOCK_TOKEN : UInt8 := 0xFE
def START_N_BLOCK_TOKEN : UInt8 := 0xFC
def STOP_TRANSMISSION_TOKEN : UInt8 := 0xFD
def MASK_RESPONSE_TOKEN : UInt8 := 0x0E
def MASK_ERROR_TOKEN : UInt8 := 0xF0

abbrev Buffer := ℕ → UInt8

/-- `memcpy(dst + d, src + s, n)` -/
def memcpy (dst : Buffer) (d : ℕ) (src : Buffer) (s n : ℕ) : Buffer := fun k =>
  if d ≤ k ∧ k < d + n then src (s + (k - d)) else dst k

/-- The bytes that a call of `spi_write_and_read` sends. -/
structure SpiXfer where
  out : Buffer
  len : ℕ

/-- A return code and the contents of a buffer. -/
structure IoResult where
  ret : Int
  data : Buffer

abbrev SdProg := Prog SpiXfer IoResult

def spiWriteAndRead (buf : Buffer) (n : ℕ) : SdProg IoResult := Prog.access ⟨buf, n⟩

def filled (b : UInt8) : Buffer := fun _ => b

/-- What the stack holds before it is written to. -/
structure SdStack where
  response : Buffer
  buff : Buffer
  firstBlock : Buffer
  lastBlock : Buffer

/-- `wait_for_response` with `n` more attempts, where the byte is `data` before. -/
def waitForResponse : ℕ → UInt8 → SdProg IoResult
  | 0, data => return ⟨FAILURE, filled data⟩
  | n + 1, data => do
    let r ← spiWriteAndRead (filled data) 1
    if r.ret ≠ SUCCESS then return ⟨FAILURE, r.data⟩
    if r.data 0 ≠ 0xFF then return ⟨SUCCESS, r.data⟩
    waitForResponse n (r.data 0)

/-- `wait_until_not_busy` with `n` more attempts -/
def waitUntilNotBusy : ℕ → SdProg Int
  | 0 => return FAILURE
  | n + 1 => do
    let r ← spiWriteAndRead (filled 0xFF) 1
    if r.ret ≠ SUCCESS then return FAILURE
    if r.data 0 ≠ 0 then return SUCCESS
    waitUntilNotBusy n

/-- The number of attempts of both loops. -/
def WAIT_ATTEMPTS : ℕ := WAIT_RESP_TIMEOUT + 1

/-- The eight bytes of a command. -/
def cmdFrame (cmd : UInt8) (arg : UInt32) : Buffer
  | 1 => cmd &&& ~~~BIT_APPLICATION_CMD
  | 2 => (arg >>> 24).toUInt8
  | 3 => (arg >>> 16).toUInt8
  | 4 => (arg >>> 8).toUInt8
  | 5 => arg.toUInt8
  | 6 => if cmd = CMD 0 then 0x95 else if cmd = CMD 8 then 0x87 else 0xFF
  | _ => 0xFF

/-- The part of `send_command` after the CMD55 of an application command. -/
def sendFrame (cmd : UInt8) (arg : UInt32) (responseLen : ℕ) (response : Buffer) :
    SdProg IoResult := do
  let r ← spiWriteAndRead (cmdFrame cmd arg) CMD_LEN
  if r.ret ≠ SUCCESS then return ⟨FAILURE, response⟩
  let r ← waitForResponse WAIT_ATTEMPTS (response 0)
  let response := memcpy response 0 r.data 0 1
  if r.ret ≠ SUCCESS then return ⟨FAILURE, response⟩
  if responseLen - 1 > 0 then
    let r ← spiWriteAndRead (filled 0xFF) (responseLen - 1)
    let response := memcpy response 1 r.data 0 (responseLen - 1)
    if r.ret ≠ SUCCESS then return ⟨FAILURE, response⟩
    return ⟨SUCCESS, response⟩
  return ⟨SUCCESS, response⟩

def sendCommand (cmd : UInt8) (arg : UInt32) (responseLen : ℕ) (response : Buffer) :
    SdProg IoResult := do
  if cmd &&& BIT_APPLICATION_CMD ≠ 0 then
    let r ← sendFrame (CMD 55) STUFF_ARG R1_LEN response
    if r.ret ≠ SUCCESS then return ⟨FAILURE, response⟩
    if r.data 0 ≠ R1_IDLE_STATE then return ⟨FAILURE, response⟩
    sendFrame cmd arg responseLen response
  else
    sendFrame cmd arg responseLen response

/-- `read_block` into `data + pos` -/
def readBlock (data : Buffer) (pos : ℕ) (response : Buffer) : SdProg IoResult := do
  let r ← waitForResponse WAIT_ATTEMPTS (response 0)
  if r.ret ≠ SUCCESS then return ⟨FAILURE, data⟩
  if r.data 0 &&& MASK_ERROR_TOKEN = 0 then return ⟨FAILURE, data⟩
  if r.data 0 ≠ START_1_BLOCK_TOKEN then return ⟨FAILURE, data⟩
  let r ← spiWriteAndRead (filled 0xFF) DATA_BLOCK_LEN
  let data := memcpy data pos r.data 0 DATA_BLOCK_LEN
  if r.ret ≠ SUCCESS then return ⟨FAILURE, data⟩
  let r ← spiWriteAndRead (filled 0xFF) CRC_LEN
  if r.ret ≠ SUCCESS then return ⟨FAILURE, data⟩
  return ⟨SUCCESS, data⟩

/-- `write_block` from `data + pos` -/
def writeBlock (data : Buffer) (pos : ℕ) (nbOfBlocks : UInt32) (response : Buffer) :
    SdProg IoResult := do
  let token := if nbOfBlocks = 1 then START_1_BLOCK_TOKEN else START_N_BLOCK_TOKEN
  let r ← spiWriteAndRead (filled token) 1
  if r.ret ≠ SUCCESS then return ⟨FAILURE, data⟩
  let r ← spiWriteAndRead (fun k => data (pos + k)) DATA_BLOCK_LEN
  let data := memcpy data pos r.data 0 DATA_BLOCK_LEN
  if r.ret ≠ SUCCESS then return ⟨FAILURE, data⟩
  let r ← spiWriteAndRead (filled 0xFF) CRC_LEN
  if r.ret ≠ SUCCESS then return ⟨FAILURE, data⟩
  let r ← waitForResponse WAIT_ATTEMPTS (response 0)
  if r.ret ≠ SUCCESS then return ⟨FAILURE, data⟩
  if r.data 0 &&& MASK_RESPONSE_TOKEN ≠ 0x4 then return ⟨FAILURE, data⟩
  let ret ← waitUntilNotBusy WAIT_ATTEMPTS
  if ret ≠ SUCCESS then return ⟨FAILURE, data⟩
  return ⟨SUCCESS, data⟩

def getNbOfBlocks (address len : UInt64) : UInt32 :=
  (((address + len - 1) >>> 9) - (address >>> 9) + 1).toUInt32

/-- `buff_first_idx` of block `i` -/
def buffFirstIdx (addr : UInt64) (i : ℕ) : UInt16 :=
  if i = 0 then (addr &&& MASK_ADDR_IN_BLOCK).toUInt16 else 0

/-- `buff_copy_len` of block `i` -/
def buffCopyLen (addr len : UInt64) (i : ℕ) : UInt16 :=
  if i = (getNbOfBlocks addr len - 1).toNat then
    (((addr + len - 1) &&& MASK_ADDR_IN_BLOCK) - (buffFirstIdx addr i).toUInt64 + 1).toUInt16
  else 512 - buffFirstIdx addr i

/-- The loop of `read_multiple_blocks`, from the index and the number of bytes before it. -/
def readBlocks (addr len : UInt64) (response : Buffer) :
    List ℕ → ℕ → Buffer → Buffer → SdProg IoResult
  | [], _, data, _ => return ⟨SUCCESS, data⟩
  | i :: is, dataIdx, data, buff => do
    let first := (buffFirstIdx addr i).toNat
    let copyLen := (buffCopyLen addr len i).toNat
    if first = 0 ∧ copyLen = DATA_BLOCK_LEN then
      let r ← readBlock data dataIdx response
      if r.ret ≠ SUCCESS then return ⟨FAILURE, r.data⟩
      readBlocks addr len response is (dataIdx + copyLen) r.data buff
    else
      let r ← readBlock buff 0 response
      if r.ret ≠ SUCCESS then return ⟨FAILURE, data⟩
      readBlocks addr len response is (dataIdx + copyLen)
        (memcpy data dataIdx r.data first copyLen) r.data

/-- The loop of `write_multiple_blocks` -/
def writeBlocks (addr len : UInt64) (response firstBlock lastBlock : Buffer) :
    List ℕ → ℕ → Buffer → SdProg Int
  | [], _, _ => return SUCCESS
  | i :: is, dataIdx, data => do
    let first := (buffFirstIdx addr i).toNat
    let copyLen := (buffCopyLen addr len i).toNat
    let nb := getNbOfBlocks addr len
    if first = 0 ∧ copyLen = DATA_BLOCK_LEN then
      let r ← writeBlock data dataIdx nb response
      if r.ret ≠ SUCCESS then return FAILURE
      writeBlocks addr len response firstBlock lastBlock is (dataIdx + copyLen) r.data
    else
      let block := if i = 0 then memcpy firstBlock first data dataIdx copyLen
        else memcpy lastBlock 0 data dataIdx copyLen
      let r ← writeBlock block 0 nb response
      if r.ret ≠ SUCCESS then return FAILURE
      writeBlocks addr len response firstBlock lastBlock is (dataIdx + copyLen) data

structure SdDesc where
  memorySize : UInt64
  /-- `sd_init` computes the size from 21 bits of the CSD register. -/
  size_eq : ∃ cSize < 2 ^ 21, memorySize.toNat = (cSize + 1) * 2 ^ 19

/-- The range check of both functions. -/
def SdDesc.Refuses (desc : SdDesc) (address len : UInt64) : Prop :=
  address > desc.memorySize ∨ len > desc.memorySize ∨ address + len > desc.memorySize

instance (desc : SdDesc) (address len : UInt64) : Decidable (desc.Refuses address len) :=
  inferInstanceAs (Decidable (_ ∨ _))

def sdRead (desc : SdDesc) (stack : SdStack) (data : Buffer) (address len : UInt64) :
    SdProg IoResult := do
  if desc.Refuses address len then return ⟨FAILURE, data⟩
  let nb := getNbOfBlocks address len
  let cmd := if nb = 1 then CMD 17 else CMD 18
  let r ← sendCommand cmd (address >>> 9).toUInt32 R1_LEN stack.response
  if r.ret ≠ SUCCESS then return ⟨FAILURE, data⟩
  if r.data 0 ≠ R1_READY_STATE then return ⟨FAILURE, data⟩
  let s ← readBlocks address len stack.response (List.range nb.toNat) 0 data stack.buff
  if s.ret ≠ SUCCESS then return ⟨FAILURE, s.data⟩
  if nb ≠ 1 then
    let r ← sendCommand (CMD 12) STUFF_ARG R1_LEN r.data
    if r.ret ≠ SUCCESS then return ⟨FAILURE, s.data⟩
    if r.data 0 ≠ R1_READY_STATE then return ⟨FAILURE, s.data⟩
    return ⟨SUCCESS, s.data⟩
  return ⟨SUCCESS, s.data⟩

/-- Whether the first block is read before it is written. -/
def ReadsFirst (address len : UInt64) : Prop :=
  address &&& MASK_ADDR_IN_BLOCK ≠ 0 ∨
    (address &&& MASK_ADDR_IN_BLOCK = 0 ∧ len < 512)

/-- Whether the last block is read before it is written. -/
def ReadsLast (address len : UInt64) : Prop :=
  (address + len - 1) &&& MASK_BLOCK_NUMBER ≠ address &&& MASK_BLOCK_NUMBER ∧
    (address + len - 1) &&& MASK_ADDR_IN_BLOCK ≠ MASK_ADDR_IN_BLOCK

instance (address len : UInt64) : Decidable (ReadsFirst address len) :=
  inferInstanceAs (Decidable (_ ∨ _))

instance (address len : UInt64) : Decidable (ReadsLast address len) :=
  inferInstanceAs (Decidable (_ ∧ _))

/-- A block is read into a buffer of the stack. The return code is not looked at. -/
def readBack (desc : SdDesc) (stack : SdStack) (block : Buffer) (address : UInt64) :
    SdProg Buffer := do
  let r ← sdRead desc stack block (address &&& MASK_BLOCK_NUMBER) 512
  return r.data

def sdWrite (desc : SdDesc) (stack : SdStack) (data : Buffer) (address len : UInt64) :
    SdProg Int := do
  if desc.Refuses address len then return FAILURE
  let firstBlock ←
    if ReadsFirst address len then readBack desc stack stack.firstBlock address
    else pure stack.firstBlock
  let lastBlock ←
    if ReadsLast address len then readBack desc stack stack.lastBlock (address + len - 1)
    else pure stack.lastBlock
  let nb := getNbOfBlocks address len
  let cmd := if nb = 1 then CMD 24 else CMD 25
  let r ← sendCommand cmd (address >>> 9).toUInt32 R1_LEN stack.response
  if r.ret ≠ SUCCESS then return FAILURE
  if r.data 0 ≠ R1_READY_STATE then return FAILURE
  let ret ← writeBlocks address len stack.response firstBlock lastBlock (List.range nb.toNat) 0 data
  if ret ≠ SUCCESS then return FAILURE
  if nb ≠ 1 then
    let r ← spiWriteAndRead (fun k => if k = 0 then STOP_TRANSMISSION_TOKEN else 0xFF) 2
    if r.ret ≠ SUCCESS then return FAILURE
    let ret ← waitUntilNotBusy WAIT_ATTEMPTS
    if ret ≠ SUCCESS then return FAILURE
    return SUCCESS
  return SUCCESS

end NoOS
