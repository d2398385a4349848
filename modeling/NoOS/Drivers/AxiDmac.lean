import NoOS.Errno
import NoOS.Lib.Access
import NoOS.Lib.Trace
import Mathlib.Data.UInt

/-!
# The DMA controller of `axi_dmac.c`

The driver structure, the core that it programs, and the functions of the driver. The main
program runs one access at a time, and the interrupt handler runs between any two of its
accesses. Each burst of the core raises one start-of-transfer and one end-of-transfer
interrupt, in the order of the queue.
-/

namespace NoOS
open Access

def AXI_DMAC_IRQ_SOT : UInt32 := 1
def AXI_DMAC_IRQ_EOT : UInt32 := 2
def AXI_DMAC_CTRL_ENABLE : UInt32 := 1
def DMA_CYCLIC : UInt32 := 1
def DMA_LAST : UInt32 := 2

inductive DmacReg
  | irqMask | irqPending | ctrl | transferId | startTransfer | flags | destAddress | srcAddress
  | xLength | yLength | destStride | srcStride | transferDone
deriving DecidableEq, Repr

inductive DmaDirection
  | dmaDevToMem | dmaMemToDev
deriving DecidableEq, Repr

structure AxiDmaTransfer where
  size : UInt32 := 0
  address : UInt32 := 0
  sizeDone : UInt32 := 0
  transferDone : Bool
deriving DecidableEq, Repr

structure AxiDmac where
  direction : DmaDirection
  flags : UInt32
  transferMaxSize : UInt32
  bigTransfer : AxiDmaTransfer
deriving DecidableEq, Repr

/-- What `axi_dmac_init` allocates: `maxLength` is what X_LENGTH holds after it was written
with ones, and `transfer_done` is whatever the memory held. -/
def axiDmacInit (direction : DmaDirection) (flags maxLength : UInt32) (uninit : Bool) : AxiDmac where
  direction := direction
  flags := flags
  transferMaxSize := maxLength
  bigTransfer := { transferDone := uninit }

def axiDmacIsTransferReady (dmac : AxiDmac) : Int × Bool := (SUCCESS, dmac.bigTransfer.transferDone)

/-- The registers of a transfer when it was started. -/
structure Burst where
  destAddress : UInt32
  srcAddress : UInt32
  xLength : UInt32
deriving DecidableEq, Repr

/-- The address on the side of the memory. -/
def Burst.address (b : Burst) : DmaDirection → UInt32
  | .dmaDevToMem => b.destAddress
  | .dmaMemToDev => b.srcAddress

structure DmacCore where
  regs : DmacReg → UInt32
  /-- The bursts held are dropped when the core is disabled. -/
  drops : Bool
  /-- All bursts that were started -/
  bursts : List Burst
  /-- The number of bursts that wait for their start of transfer -/
  queued : ℕ
  /-- The number of bursts between their start and their end of transfer -/
  running : ℕ

namespace DmacCore

/-- The core after a reset -/
def reset (regs : DmacReg → UInt32) (drops : Bool) : DmacCore where
  regs := regs
  drops := drops
  bursts := []
  queued := 0
  running := 0

/-- Whether the next burst of the queue starts, where `regVal` asks for it. -/
def raisesSot (core : DmacCore) (regVal : UInt32) : Bool :=
  decide (regVal &&& AXI_DMAC_IRQ_SOT ≠ 0 ∧ 0 < core.queued)

/-- Whether the oldest burst ends, which may have started just now. -/
def raisesEot (core : DmacCore) (regVal : UInt32) : Bool :=
  decide (regVal &&& AXI_DMAC_IRQ_EOT ≠ 0 ∧ (core.raisesSot regVal = true ∨ 0 < core.running))

/-- The interrupts of `regVal` that the core can raise. -/
def pending (core : DmacCore) (regVal : UInt32) : UInt32 :=
  (bif core.raisesSot regVal then AXI_DMAC_IRQ_SOT else 0) |||
    (bif core.raisesEot regVal then AXI_DMAC_IRQ_EOT else 0)

/-- The interrupts of `regVal` are taken. -/
def acknowledge (core : DmacCore) (regVal : UInt32) : DmacCore :=
  { core with
    queued := core.queued - (core.raisesSot regVal).toNat
    running := core.running + (core.raisesSot regVal).toNat - (core.raisesEot regVal).toNat }

def start (core : DmacCore) : DmacCore :=
  { core with
    bursts := core.bursts ++
      [⟨core.regs .destAddress, core.regs .srcAddress, core.regs .xLength⟩]
    queued := core.queued + 1 }

def disable (core : DmacCore) : DmacCore :=
  if core.drops then { core with queued := 0, running := 0 } else core

def write (core : DmacCore) (reg : DmacReg) (data : UInt32) : DmacCore :=
  match reg with
  | .irqPending => core.acknowledge data
  | .startTransfer => if data &&& 1 ≠ 0 then core.start else core
  | .ctrl =>
    let core := { core with regs := Function.update core.regs .ctrl data }
    if data &&& AXI_DMAC_CTRL_ENABLE ≠ 0 then core else core.disable
  | reg => { core with regs := Function.update core.regs reg data }

/-- Registers that the core changes hold an arbitrary `value`. -/
def read (core : DmacCore) (reg : DmacReg) (value : UInt32) : UInt32 :=
  match reg with
  | .irqPending => core.pending value
  | .startTransfer | .transferId | .transferDone => value
  | reg => core.regs reg

variable {core : DmacCore} {regVal : UInt32}

lemma pending_sot : core.pending regVal &&& AXI_DMAC_IRQ_SOT ≠ 0 ↔ core.raisesSot regVal = true := by
  unfold pending
  cases core.raisesSot regVal <;> cases core.raisesEot regVal <;> decide

lemma pending_eot : core.pending regVal &&& AXI_DMAC_IRQ_EOT ≠ 0 ↔ core.raisesEot regVal = true := by
  unfold pending
  cases core.raisesSot regVal <;> cases core.raisesEot regVal <;> decide

lemma raisesSot_iff : core.raisesSot regVal = true ↔ regVal &&& AXI_DMAC_IRQ_SOT ≠ 0 ∧ 0 < core.queued :=
  decide_eq_true_iff

lemma raisesEot_iff : core.raisesEot regVal = true ↔
    regVal &&& AXI_DMAC_IRQ_EOT ≠ 0 ∧ (core.raisesSot regVal = true ∨ 0 < core.running) :=
  decide_eq_true_iff

@[simp] lemma raisesSot_pending : core.raisesSot (core.pending regVal) = core.raisesSot regVal := by
  rw [Bool.eq_iff_iff, raisesSot_iff, pending_sot, and_iff_left_iff_imp]
  exact fun h => (raisesSot_iff.mp h).2

@[simp] lemma raisesEot_pending : core.raisesEot (core.pending regVal) = core.raisesEot regVal := by
  rw [Bool.eq_iff_iff, raisesEot_iff, pending_eot, raisesSot_pending, and_iff_left_iff_imp]
  exact fun h => (raisesEot_iff.mp h).2

end DmacCore

structure Dma where
  dmac : AxiDmac
  core : DmacCore

namespace Dma

def write (d : Dma) (reg : DmacReg) (data : UInt32) : Dma := { d with core := d.core.write reg data }

/-- The `switch` over the direction. -/
def writeAddress (d : Dma) (address : UInt32) : Dma :=
  match d.dmac.direction with
  | .dmaDevToMem => (d.write .destAddress address).write .destStride 0
  | .dmaMemToDev => (d.write .srcAddress address).write .srcStride 0

/-- The length of the next burst of a big transfer. -/
def burstSize (dmac : AxiDmac) : UInt32 :=
  let remainingSize := dmac.bigTransfer.size - dmac.bigTransfer.sizeDone
  if remainingSize ≤ dmac.transferMaxSize then remainingSize else dmac.transferMaxSize

/-- The current transfer was started and a new one is queued. -/
def queueBurst (d : Dma) : Dma :=
  let burst := burstSize d.dmac
  let big := { d.dmac.bigTransfer with
    sizeDone := d.dmac.bigTransfer.sizeDone + burst
    address := d.dmac.bigTransfer.address + burst }
  let d := ({ d with dmac.bigTransfer := big } : Dma).writeAddress big.address
  ((d.write .xLength burst).write .yLength 0).write .startTransfer 1

/-- `axi_dmac_default_isr`, where the pending interrupts are read as `regVal`. -/
def axiDmacDefaultIsr (d : Dma) (regVal : UInt32) : Dma :=
  let d := d.write .irqPending regVal
  let d := if regVal &&& AXI_DMAC_IRQ_SOT ≠ 0 ∧ d.dmac.bigTransfer.size ≠ 0 then d.queueBurst else d
  if regVal &&& AXI_DMAC_IRQ_EOT ≠ 0 then
    { d with dmac.bigTransfer := { transferDone := true } }
  else d

/-- The core raises interrupts of `regVal`, and the handler runs. -/
def interrupt (d : Dma) (regVal : UInt32) : Dma := d.axiDmacDefaultIsr (d.core.pending regVal)

/-! What an interrupt does, field by field. -/

variable {d : Dma} {regVal : UInt32}

lemma queueBurst_dmac : d.queueBurst.dmac = { d.dmac with
    bigTransfer.sizeDone := d.dmac.bigTransfer.sizeDone + burstSize d.dmac
    bigTransfer.address := d.dmac.bigTransfer.address + burstSize d.dmac } := by
  obtain ⟨⟨direction, _, _, _⟩, _⟩ := d
  cases direction <;> rfl

lemma queueBurst_bursts : ∃ b : Burst, d.queueBurst.core.bursts = d.core.bursts ++ [b] ∧
    b.address d.dmac.direction = d.dmac.bigTransfer.address + burstSize d.dmac ∧
    b.xLength = burstSize d.dmac := by
  obtain ⟨⟨direction, _, _, _⟩, _⟩ := d
  cases direction with
  | dmaDevToMem => exact ⟨_, rfl, rfl, rfl⟩
  | dmaMemToDev => exact ⟨_, rfl, rfl, rfl⟩

lemma queueBurst_queued : d.queueBurst.core.queued = d.core.queued + 1 := by
  obtain ⟨⟨direction, _, _, _⟩, _⟩ := d
  cases direction <;> rfl

lemma queueBurst_running : d.queueBurst.core.running = d.core.running := by
  obtain ⟨⟨direction, _, _, _⟩, _⟩ := d
  cases direction <;> rfl

/-- Whether the handler queues a burst. -/
def queues (d : Dma) (regVal : UInt32) : Bool :=
  d.core.raisesSot regVal && decide (d.dmac.bigTransfer.size ≠ 0)

/-- The interrupts are taken, a burst is queued, and the transfer is over. -/
lemma interrupt_eq : d.interrupt regVal =
    let taken : Dma := { d with core := d.core.acknowledge regVal }
    let d' := bif d.queues regVal then taken.queueBurst else taken
    bif d.core.raisesEot regVal then
      { d' with dmac.bigTransfer := { transferDone := true } }
    else d' := by
  have hack : d.write .irqPending (d.core.pending regVal) =
      { d with core := d.core.acknowledge regVal } := by
    simp only [write, DmacCore.write, DmacCore.acknowledge, DmacCore.raisesSot_pending,
      DmacCore.raisesEot_pending]
  simp only [interrupt, axiDmacDefaultIsr, hack, DmacCore.pending_sot, DmacCore.pending_eot,
    queues]
  cases d.core.raisesSot regVal <;> cases d.core.raisesEot regVal <;>
    by_cases hsize : d.dmac.bigTransfer.size = 0 <;> simp [hsize]

lemma interrupt_append (d : Dma) (regVal : UInt32) :
    ∃ t, (d.interrupt regVal).core.bursts = d.core.bursts ++ t := by
  have hqueue : ∀ e : Dma, ∃ t, e.queueBurst.core.bursts = e.core.bursts ++ t := by
    intro e
    obtain ⟨b, hb, -⟩ := queueBurst_bursts (d := e)
    exact ⟨[b], hb⟩
  rw [interrupt_eq]
  cases d.queues regVal <;> cases d.core.raisesEot regVal
  · exact ⟨[], (List.append_nil _).symm⟩
  · exact ⟨[], (List.append_nil _).symm⟩
  · exact hqueue _
  · exact hqueue _

end Dma

inductive DmacOp
  | read (reg : DmacReg)
  | write (reg : DmacReg) (data : UInt32)
  | storeAddress (address : UInt32)
  | storeSize (size : UInt32)
  | storeSizeDone (sizeDone : UInt32)
  | loadDone
deriving DecidableEq

/-- The value that was read, and `transfer_done` at the time. -/
structure DmacAnswer where
  value : UInt32
  transferDone : Bool

/-- One access, where a register that the core changes is read as `value`. -/
def Dma.answer (value : UInt32) (d : Dma) (o : DmacOp) : DmacAnswer × Dma :=
  match o with
  | .read reg => (⟨d.core.read reg value, d.dmac.bigTransfer.transferDone⟩, d)
  | .write reg data => (⟨0, d.dmac.bigTransfer.transferDone⟩, d.write reg data)
  | .storeAddress address =>
    (⟨0, d.dmac.bigTransfer.transferDone⟩, { d with dmac.bigTransfer.address := address })
  | .storeSize size =>
    (⟨0, d.dmac.bigTransfer.transferDone⟩, { d with dmac.bigTransfer.size := size })
  | .storeSizeDone sizeDone =>
    (⟨0, d.dmac.bigTransfer.transferDone⟩, { d with dmac.bigTransfer.sizeDone := sizeDone })
  | .loadDone => (⟨0, d.dmac.bigTransfer.transferDone⟩, d)

abbrev DmacProg := Prog DmacOp DmacAnswer

def axiDmacRead (reg : DmacReg) : DmacProg UInt32 := do return (← Prog.access (.read reg)).value

def axiDmacWrite (reg : DmacReg) (data : UInt32) : DmacProg Unit := Prog.access_ (.write reg data)

/-- The `switch` over the direction. -/
def setAddress (direction : DmaDirection) (address : UInt32) : DmacProg Unit :=
  match direction with
  | .dmaDevToMem => do
    axiDmacWrite .destAddress address
    axiDmacWrite .destStride 0
  | .dmaMemToDev => do
    axiDmacWrite .srcAddress address
    axiDmacWrite .srcStride 0

def setBigTransfer (address size sizeDone : UInt32) : DmacProg Unit := do
  Prog.access_ (.storeAddress address)
  Prog.access_ (.storeSize size)
  Prog.access_ (.storeSizeDone sizeDone)

def startTransfer (flags xLength : UInt32) : DmacProg Unit := do
  axiDmacWrite .xLength xLength
  axiDmacWrite .yLength 0
  axiDmacWrite .flags flags
  axiDmacWrite .startTransfer 1

def axiDmacEnable : DmacProg Unit := do
  axiDmacWrite .ctrl 0
  axiDmacWrite .ctrl AXI_DMAC_CTRL_ENABLE
  axiDmacWrite .irqMask 0

/-- The part of a non-blocking transfer that needs the core enabled. -/
def axiDmacSubmit (dmac : AxiDmac) (address size : UInt32) : DmacProg Int := do
  let regVal ← axiDmacRead .startTransfer
  if regVal &&& 1 ≠ 0 then return FAILURE
  setAddress dmac.direction address
  if size - 1 > dmac.transferMaxSize then
    setBigTransfer address (size - 1) dmac.transferMaxSize
    startTransfer dmac.flags dmac.transferMaxSize
  else
    startTransfer dmac.flags (size - 1)
  return SUCCESS

def axiDmacTransferNonblocking (dmac : AxiDmac) (address size : UInt32) : DmacProg Int := do
  if size = 0 then return SUCCESS -- nothing to do
  let regVal ← axiDmacRead .ctrl
  if regVal &&& AXI_DMAC_CTRL_ENABLE = 0 then axiDmacEnable
  axiDmacSubmit dmac address size

/-- The loop over `transfer_done` of a big transfer: the timeout after `n` more loads. -/
def waitTransferDone : ℕ → DmacProg Int
  | 0 => return FAILURE
  | n + 1 => do
    if (← Prog.access .loadDone).transferDone then
      setBigTransfer 0 0 0
      return SUCCESS
    waitTransferDone n

/-- The loops over the registers of a small transfer. In the second one `transfer_done` is
loaded together with the register, which is read as anything in each iteration. -/
def waitRegisters (transferId : UInt32) : DmacProg Int := do
  let _ ← Prog.repeatWhile (.read .startTransfer) fun r => r.value == 1
  let all := AXI_DMAC_IRQ_SOT ||| AXI_DMAC_IRQ_EOT
  let regVal ← Prog.repeatWhile (.read .irqPending) fun r => r.value != all && !r.transferDone
  if regVal.value ≠ all then axiDmacWrite .irqPending regVal.value
  let bit := (1 : UInt32) <<< transferId
  let _ ← Prog.repeatWhile (.read .transferDone) fun r => r.value &&& bit != bit
  return SUCCESS

def axiDmacTransfer (dmac : AxiDmac) (address size : UInt32) : DmacProg Int := do
  if size = 0 then return SUCCESS -- nothing to do
  axiDmacEnable
  let transferId ← axiDmacRead .transferId
  let regVal ← axiDmacRead .irqPending
  axiDmacWrite .irqPending regVal
  setAddress dmac.direction address
  if size - 1 > dmac.transferMaxSize then
    setBigTransfer address (size - 1) dmac.transferMaxSize
    startTransfer dmac.flags dmac.transferMaxSize
    waitTransferDone 0xFFFFFFFF
  else
    startTransfer dmac.flags (size - 1)
    if dmac.flags &&& DMA_CYCLIC ≠ 0 then return SUCCESS
    waitRegisters transferId

end NoOS
