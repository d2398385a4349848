import NoOS.Lib.WordBytes

/-!
# The SPI engine of `spi_engine.c`

A message is compiled into a queue of commands, which an interpreter turns into words for the command FIFO.
The words of the data go through the SDO and SDI FIFOs.
-/

namespace NoOS

def SPI_ENGINE_REG_CMD_FIFO : UInt32 := 0xE0
def SPI_ENGINE_REG_SDO_DATA_FIFO : UInt32 := 0xE4
def SPI_ENGINE_REG_OFFLOAD_CTRL : UInt32 := 0x100
def SPI_ENGINE_REG_OFFLOAD_CMD_MEM : UInt32 := 0x110
def SPI_ENGINE_REG_OFFLOAD_SDO_MEM : UInt32 := 0x114

def OFFLOAD_DISABLED : UInt8 := 0x00
def OFFLOAD_TX_EN : UInt8 := 0x01
def OFFLOAD_RX_EN : UInt8 := 0x02

def SPI_ENGINE_INST_TRANSFER : UInt32 := 0x00
def SPI_ENGINE_INST_ASSERT : UInt32 := 0x01
def SPI_ENGINE_INST_CONFIG : UInt32 := 0x02
def SPI_ENGINE_INST_MISC : UInt32 := 0x03
def SPI_ENGINE_INST_SYNC_SLEEP : UInt32 := 0x03
def SPI_ENGINE_CMD_REG_CLK_DIV : UInt32 := 0x00
def SPI_ENGINE_CMD_REG_CONFIG : UInt32 := 0x01
def SPI_ENGINE_CMD_DATA_TRANSFER_LEN : UInt32 := 0x02
def SPI_ENGINE_MISC_SYNC : UInt32 := 0x00
def SPI_ENGINE_MISC_SLEEP : UInt32 := 0x01
def SPI_ENGINE_INSTRUCTION_TRANSFER_RW : UInt32 := 0x03

/-- `SPI_ENGINE_CMD`, whose last argument is not masked -/
def spiEngineCmd (inst arg1 arg2 : UInt32) : UInt32 := ((inst &&& 0x03) <<< 12) ||| ((arg1 &&& 0x03) <<< 8) ||| arg2

def CS_HIGH : UInt32 := spiEngineCmd SPI_ENGINE_INST_ASSERT 0x03 0xFF
def CS_LOW : UInt32 := spiEngineCmd SPI_ENGINE_INST_ASSERT 0x03 0x00

/-- `WRITE_READ` -/
def writeReadCmd (noBytes : UInt16) : UInt32 :=
  (SPI_ENGINE_INST_TRANSFER <<< 12) ||| (SPI_ENGINE_INSTRUCTION_TRANSFER_RW <<< 8) ||| noBytes.toUInt32

/-- The descriptors of the SPI interface and of the engine, and what the core answers. -/
structure SpiEngine where
  maxSpeedHz : UInt32
  chipSelect : UInt8
  mode : UInt32
  offloadConfig : UInt8
  offloadTxLen : UInt8
  csDelay : UInt8
  clkDiv : UInt32
  dataWidth : UInt8
  /-- `_sync_id` -/
  syncId : UInt8
  /-- The registers written so far -/
  writes : List (UInt32 × UInt32)
  /-- What `SPI_ENGINE_REG_SYNC_ID` reads, from the first poll on -/
  sync : ℕ → UInt32
  polls : ℕ
  /-- The words of the SDI FIFO, from the first one on -/
  sdi : ℕ → UInt32
  taken : ℕ

/-- An access behind a buffer, or a loop that has not ended. -/
inductive SpiFault where
  | outOfBounds
  | running
  deriving DecidableEq

namespace SpiEngine

def write (e : SpiEngine) (regAddr regData : UInt32) : SpiEngine := { e with writes := e.writes ++ [(regAddr, regData)] }

def getWordsNumber (e : SpiEngine) (bytesNumber : UInt8) : UInt8 :=
  let xferWordLen := e.dataWidth / 8
  let wordsNumber := bytesNumber / xferWordLen
  if bytesNumber % xferWordLen ≠ 0 then wordsNumber + 1 else wordsNumber

def getWordLenght (e : SpiEngine) : UInt8 := e.dataWidth / 8

def getSleepDiv (e : SpiEngine) (sleepTimeNs : UInt32) : UInt32 :=
  (e.maxSpeedHz / 1000000 * sleepTimeNs / 1000) / ((e.clkDiv + 1) * 2) - 1

def writeCmdReg (e : SpiEngine) (cmd : UInt32) : SpiEngine :=
  if e.offloadConfig &&& (OFFLOAD_TX_EN ||| OFFLOAD_RX_EN) ≠ 0 then e.write SPI_ENGINE_REG_OFFLOAD_CMD_MEM cmd
  else e.write SPI_ENGINE_REG_CMD_FIFO cmd

def transfer (e : SpiEngine) (readWrite bytesNumber : UInt8) : SpiEngine :=
  let wordsNumber := e.getWordsNumber bytesNumber
  { e with offloadTxLen := e.offloadTxLen + wordsNumber }.writeCmdReg
    -- the number of words is zero based, and the difference is an `int`
    (spiEngineCmd SPI_ENGINE_INST_TRANSFER readWrite.toUInt32 (wordsNumber.toUInt32 - 1))

def setCs (e : SpiEngine) (assert : Bool) : SpiEngine :=
  let mask : UInt8 := if assert then 0xFF else 0xFF ^^^ ((1 : UInt32) <<< e.chipSelect.toUInt32).toUInt8
  e.writeCmdReg (spiEngineCmd SPI_ENGINE_INST_ASSERT e.csDelay.toUInt32 mask.toUInt32)

def genSleepNs (e : SpiEngine) (sleepTimeNs : UInt32) : SpiEngine :=
  e.writeCmdReg (spiEngineCmd SPI_ENGINE_INST_MISC SPI_ENGINE_MISC_SLEEP (e.getSleepDiv sleepTimeNs))

/-- `spi_engine_write_cmd`, whose result nobody looks at -/
def writeCmd (e : SpiEngine) (cmd : UInt32) : SpiEngine :=
  let engineCommand := (cmd >>> 12) &&& 0x0F
  let modifier := (cmd >>> 8) &&& 0x0F
  let parameter := cmd &&& 0xFF
  if engineCommand = SPI_ENGINE_INST_TRANSFER then e.transfer modifier.toUInt8 parameter.toUInt8
  else if engineCommand = SPI_ENGINE_INST_ASSERT then
    if parameter = 0xFF then e.setCs true else if parameter = 0x00 then e.setCs false else e
  else if engineCommand = SPI_ENGINE_INST_SYNC_SLEEP then
    if modifier = 0x00 then e.writeCmdReg cmd else if modifier = 0x01 then e.genSleepNs parameter else e
  else if engineCommand = SPI_ENGINE_INST_CONFIG then e.writeCmdReg cmd
  else e

/-- The queue of commands; memory does not run out. -/
def compileMessage (e : SpiEngine) (cmds : List UInt32) : List UInt32 :=
  let cmds := spiEngineCmd SPI_ENGINE_INST_CONFIG SPI_ENGINE_CMD_REG_CLK_DIV e.clkDiv :: cmds
  let cmds := spiEngineCmd SPI_ENGINE_INST_CONFIG SPI_ENGINE_CMD_DATA_TRANSFER_LEN e.dataWidth.toUInt32 :: cmds
  let cmds := spiEngineCmd SPI_ENGINE_INST_CONFIG SPI_ENGINE_CMD_REG_CONFIG e.mode :: cmds
  cmds ++ [spiEngineCmd SPI_ENGINE_INST_MISC SPI_ENGINE_MISC_SYNC e.syncId.toUInt32]

/-- The loop that waits for the end of the transfer. -/
def waitSync : ℕ → SpiEngine → Except SpiFault SpiEngine
  | 0, _ => .error .running
  | fuel + 1, e =>
    let read := { e with polls := e.polls + 1 }
    if e.sync e.polls ≠ e.syncId.toUInt32 then waitSync fuel read else .ok read

/-- `spi_engine_transfer_message`, with the words received -/
def transferMessage (fuel : ℕ) (e : SpiEngine) (cmds txBuf rxBuf : List UInt32) :
    Except SpiFault (SpiEngine × List UInt32) := do
  let cmds := e.compileMessage cmds
  let offloadEn := e.offloadConfig &&& OFFLOAD_TX_EN ≠ 0 ∨ e.offloadConfig &&& OFFLOAD_RX_EN ≠ 0
  let e := cmds.foldl writeCmd e
  if offloadEn then
    if e.offloadTxLen.toNat ≤ txBuf.length then
      return ((txBuf.take e.offloadTxLen.toNat).foldl (fun e w => e.write SPI_ENGINE_REG_OFFLOAD_SDO_MEM w) e, rxBuf)
    else throw .outOfBounds
  else
    let e := txBuf.foldl (fun e w => e.write SPI_ENGINE_REG_SDO_DATA_FIFO w) e
    let e ← waitSync fuel e
    let rx := (List.range rxBuf.length).map fun i => e.sdi (e.taken + i)
    return ({ e with syncId := e.syncId + 1, taken := e.taken + rxBuf.length }, rx)

/-- The shift of byte `i` -/
def shift (e : SpiEngine) (i : UInt8) : ℕ := e.dataWidth.toNat - ((i % e.getWordLenght).toNat + 1) * 8

/-- The loop that packs the bytes. Its counter has 8 bits, its bound 16. -/
def packLoop (e : SpiEngine) (data : List UInt8) (bytesNumber : UInt16) :
    ℕ → UInt8 → List UInt32 → Except SpiFault (List UInt32)
  | 0, _, _ => .error .running
  | fuel + 1, i, txBuf =>
    if i.toUInt16 < bytesNumber then
      match txBuf[(i / e.getWordLenght).toNat]?, data[i.toNat]? with
      | some word, some byte =>
        packLoop e data bytesNumber fuel (i + 1)
          (txBuf.set (i / e.getWordLenght).toNat (word ||| byte.toUInt32 <<< UInt32.ofNat (e.shift i)))
      | _, _ => .error .outOfBounds
    else .ok txBuf

/-- The loop that unpacks the words received. -/
def unpackLoop (e : SpiEngine) (rxBuf : List UInt32) (bytesNumber : UInt16) :
    ℕ → UInt8 → List UInt8 → Except SpiFault (List UInt8)
  | 0, _, _ => .error .running
  | fuel + 1, i, data =>
    if i.toUInt16 < bytesNumber then
      match rxBuf[(i / e.getWordLenght).toNat]?, data[i.toNat]? with
      | some word, some _ =>
        unpackLoop e rxBuf bytesNumber fuel (i + 1)
          (data.set i.toNat (word >>> UInt32.ofNat (e.shift i)).toUInt8)
      | _, _ => .error .outOfBounds
    else .ok data

/-- `spi_engine_write_and_read`, which returns `SUCCESS` when it returns -/
def writeAndRead (fuel : ℕ) (e : SpiEngine) (data : List UInt8) (bytesNumber : UInt16) :
    Except SpiFault (SpiEngine × List UInt8) := do
  let e := { e with offloadConfig := OFFLOAD_DISABLED }.write SPI_ENGINE_REG_OFFLOAD_CTRL 0
  let wordsNumber := e.getWordsNumber bytesNumber.toUInt8
  let zeros := List.replicate wordsNumber.toNat (0 : UInt32)
  let cmds := [CS_HIGH, CS_LOW, writeReadCmd bytesNumber, CS_HIGH]
  let txBuf ← e.packLoop data bytesNumber fuel 0 zeros
  let (e, rxBuf) ← e.transferMessage fuel cmds txBuf zeros
  let data ← e.unpackLoop rxBuf bytesNumber fuel 0 data
  return (e, data)

end SpiEngine

end NoOS
