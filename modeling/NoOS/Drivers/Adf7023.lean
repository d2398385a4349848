import Mathlib.Data.List.Range
import Mathlib.Logic.Function.Basic
import NoOS.Lib.Trace

/-!
# The packets of the transceiver `adf7023.c`

Two chips face each other over an ideal link. A chip keeps the packet it sends, or the one it has received, in the
addresses 0x10 to 0xFF of its RAM; it follows a command before it gives the next status word. The SPI and GPIO
calls return nothing that the driver looks at.
-/

namespace NoOS

def SPI_MEM_WR : UInt8 := 0x18
def SPI_MEM_RD : UInt8 := 0x38
def FW_STATE_PHY_ON : UInt8 := 0x12
def FW_STATE_PHY_RX : UInt8 := 0x13
def FW_STATE_PHY_TX : UInt8 := 0x14
def MCR_REG_INTERRUPT_SOURCE_0 : UInt32 := 0x336
def BBRAM_INTERRUPT_MASK_0_INTERRUPT_TX_EOF : UInt8 := 0x10
def BBRAM_INTERRUPT_MASK_0_INTERRUPT_CRC_CORRECT : UInt8 := 0x4

inductive Adf7023Fault
  /-- An access outside of the packet area. -/
  | ramAddress
  /-- `data++` beyond the buffer of the caller -/
  | packetIndex
  /-- A loop that waits for a flag which nothing raises. -/
  | hang
deriving DecidableEq, Repr

/-- The chip, and from the settings of the driver the one that a packet carries. -/
structure Adf7023Dev where
  addressMatchOffset : UInt8
  fwState : UInt8
  /-- The packet area by its addresses -/
  ram : ℕ → UInt8
  interruptSource0 : UInt8

/-- The address of 11 bits that the chip takes from the first two bytes of a memory access. -/
def memAddress (command address : UInt8) : ℕ := (command &&& 0x7).toNat * 256 + address.toNat

/-- The first byte of a memory access. -/
def memCommand (access : UInt8) (address : UInt32) : UInt8 := access ||| ((address &&& 0x700) >>> (8 : UInt32)).toUInt8

def inPacketArea (a : ℕ) : Prop := 0x10 ≤ a ∧ a < 0x100

instance : DecidablePred inPacketArea := fun _ => inferInstanceAs (Decidable (_ ∧ _))

namespace Adf7023Dev

/-- A byte for the address `a`; ones clear the flags of an interrupt register. -/
def store (dev : Adf7023Dev) (a : ℕ) (b : UInt8) : Except Adf7023Fault Adf7023Dev :=
  if a = MCR_REG_INTERRUPT_SOURCE_0.toNat then .ok { dev with interruptSource0 := dev.interruptSource0 &&& ~~~b }
  else if inPacketArea a then .ok { dev with ram := Function.update dev.ram a b }
  else .error .ramAddress

def load (dev : Adf7023Dev) (a : ℕ) : Except Adf7023Fault UInt8 :=
  if a = MCR_REG_INTERRUPT_SOURCE_0.toNat then .ok dev.interruptSource0
  else if inPacketArea a then .ok (dev.ram a)
  else .error .ramAddress

/-- The chip counts the address up after each byte. -/
def storeFrom (dev : Adf7023Dev) : ℕ → List UInt8 → Except Adf7023Fault Adf7023Dev
  | _, [] => .ok dev
  | a, b :: bs => do
    let dev ← dev.store a b
    dev.storeFrom (a + 1) bs

/-- `n` passes of the loop, with what is left of the buffer of the caller. -/
def loadFrom (dev : Adf7023Dev) : ℕ → ℕ → List UInt8 → Except Adf7023Fault (List UInt8)
  | _, 0, data => .ok data
  | a, n + 1, data => do
    let b ← dev.load a
    match data with
    | [] => .error .packetIndex
    | _ :: data =>
      let data ← dev.loadFrom (a + 1) n data
      pure (b :: data)

/-- `length` is the number of the bytes in `data`. -/
def setRam (dev : Adf7023Dev) (address : UInt32) (data : List UInt8) : Except Adf7023Fault Adf7023Dev :=
  dev.storeFrom (memAddress (memCommand SPI_MEM_WR address) (address &&& 0xFF).toUInt8) data

/-- The buffer of the caller afterwards. -/
def getRam (dev : Adf7023Dev) (address length : UInt32) (data : List UInt8) : Except Adf7023Fault (List UInt8) :=
  dev.loadFrom (memAddress (memCommand SPI_MEM_RD address) (address &&& 0xFF).toUInt8) length.toNat data

/-- The loop for the status word ends with its first pass. -/
def setFwState (dev : Adf7023Dev) (fwState : UInt8) : Adf7023Dev := { dev with fwState := fwState }

def raise (dev : Adf7023Dev) (flag : UInt8) : Adf7023Dev :=
  { dev with interruptSource0 := dev.interruptSource0 ||| flag }

def Pending (dev : Adf7023Dev) (flag : UInt8) : Prop := dev.interruptSource0 &&& flag ≠ 0

instance (dev : Adf7023Dev) (flag : UInt8) : Decidable (dev.Pending flag) := inferInstanceAs (Decidable (_ ≠ _))

end Adf7023Dev

/-- Two chips, and the transmission under way: who sends it, and how many reads of an interrupt register it
outlasts. -/
structure Adf7023Link where
  dev : Bool → Adf7023Dev
  underWay : Option (Bool × ℕ)

namespace Adf7023Link

def setDev (l : Adf7023Link) (side : Bool) (dev : Adf7023Dev) : Adf7023Link :=
  { l with dev := Function.update l.dev side dev }

/-- The chip `side` has received a packet. -/
def arrive (l : Adf7023Link) (side : Bool) (ram : ℕ → UInt8) : Adf7023Link :=
  l.setDev side ({ l.dev side with ram := ram }.raise BBRAM_INTERRUPT_MASK_0_INTERRUPT_CRC_CORRECT)

/-- The transmission of `sender` completes. -/
def complete (l : Adf7023Link) (sender : Bool) : Adf7023Link :=
  ({ l with underWay := none }.setDev sender
    ((l.dev sender).raise BBRAM_INTERRUPT_MASK_0_INTERRUPT_TX_EOF)).arrive (!sender) (l.dev sender).ram

/-- What happens on the air until the next read of an interrupt register. -/
def elapse (l : Adf7023Link) : Adf7023Link :=
  match l.underWay with
  | none => l
  | some (sender, 0) => l.complete sender
  | some (sender, n + 1) => { l with underWay := some (sender, n) }

/-- The loop that reads the interrupt register until it has one of the flags; `fuel` bounds its passes. -/
def awaitFlag (side : Bool) (flag : UInt8) : ℕ → Adf7023Link → Except Adf7023Fault (UInt8 × Adf7023Link)
  | 0, _ => .error .hang
  | fuel + 1, l => do
    let l := l.elapse
    let interruptReg ← (l.dev side).getRam MCR_REG_INTERRUPT_SOURCE_0 1 [0]
    let interruptReg := interruptReg.headD 0
    if interruptReg &&& flag ≠ 0 then pure (interruptReg, l) else awaitFlag side flag fuel l

/-- The reads after which a flag can no longer be raised. -/
def passes (l : Adf7023Link) : ℕ := l.underWay.elim 1 fun u => u.2 + 1

/-- The bytes that were received are in the buffer `packet` of the caller. -/
def receivePacket (l : Adf7023Link) (side : Bool) (packet : List UInt8) :
    Except Adf7023Fault (List UInt8 × UInt8 × Adf7023Link) := do
  let l := l.setDev side (((l.dev side).setFwState FW_STATE_PHY_ON).setFwState FW_STATE_PHY_RX)
  let (interruptReg, l) ← awaitFlag side BBRAM_INTERRUPT_MASK_0_INTERRUPT_CRC_CORRECT l.passes l
  let dev ← (l.dev side).setRam MCR_REG_INTERRUPT_SOURCE_0 [interruptReg]
  let length ← dev.getRam 0x10 1 [0]
  let length := length.headD 0
  let packet ← dev.getRam 0x12 (length.toUInt32 - 2) packet
  pure (packet, length, l.setDev side dev)

/-- `wait` is the number of reads which the transmission outlasts. -/
def transmitPacket (l : Adf7023Link) (side : Bool) (packet : List UInt8) (wait : ℕ) :
    Except Adf7023Fault Adf7023Link := do
  let dev := l.dev side
  let dev ← dev.setRam 0x10 [2 + UInt8.ofNat packet.length, dev.addressMatchOffset]
  let dev ← dev.setRam 0x12 packet
  let dev := (dev.setFwState FW_STATE_PHY_ON).setFwState FW_STATE_PHY_TX
  let l := { l.setDev side dev with underWay := some (side, wait) }
  let (_, l) ← awaitFlag side BBRAM_INTERRUPT_MASK_0_INTERRUPT_TX_EOF l.passes l
  pure l

end Adf7023Link

end NoOS
