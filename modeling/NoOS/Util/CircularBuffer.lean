import NoOS.Errno
import NoOS.Lib.RingWindow

/-!
# Circular buffer

Translation of `util/circular_buffer.c`. The descriptor pointers of the public functions
are never NULL here, and the addresses they hand out are offsets into the buffer.
-/

namespace NoOS
open RingWindow

/-- Circular buffer pointer -/
structure CbPtr where
  idx : UInt32 := 0
  /-- Counts the number of times idx exceeds the linear buffer -/
  spinCount : UInt32 := 0
  asyncStarted : Bool := false
  /-- Number of bytes to update after an async transaction is finished -/
  asyncSize : UInt32 := 0
deriving DecidableEq, Repr

structure CircularBuffer where
  size : UInt32
  buff : List UInt8
  write : CbPtr := {}
  read : CbPtr := {}
deriving DecidableEq, Repr

namespace CircularBuffer

/-- The pointer selected by `is_read`. -/
def ptr (desc : CircularBuffer) (isRead : Bool) : CbPtr :=
  if isRead then desc.read else desc.write

def setPtr (desc : CircularBuffer) (isRead : Bool) (p : CbPtr) : CircularBuffer :=
  if isRead then { desc with read := p } else { desc with write := p }

end CircularBuffer

/-- Whether the two `calloc` calls of `cb_init` give memory. -/
structure CbAlloc where
  desc : Bool := true
  buff : Bool := true
deriving DecidableEq, Repr

/-- The return code and the descriptor that the caller may use. -/
def cbInit (buffSize : UInt32) (mem : CbAlloc) : Int × Option CircularBuffer :=
  if buffSize = 0 then (-EINVAL, none)
  else if !mem.desc then (-ENOMEM, none)
  else if !mem.buff then (-ENOMEM, none)
  else (SUCCESS, some { size := buffSize, buff := List.replicate buffSize.toNat 0 })

/-- The spins between two spin counts, with the wrap of the write count. -/
def nbSpins (writeSpin readSpin : UInt32) : UInt32 :=
  if writeSpin > readSpin then writeSpin - readSpin
  else 0xFFFFFFFF - readSpin + writeSpin + 1

/-- The unread bytes according to the spins and the two indices. -/
def unread (size spins writeIdx readIdx : UInt32) : UInt32 :=
  if spins > 0 then size + writeIdx - readIdx else writeIdx - readIdx

/-- The end of `cb_size`: the return code and `*size`. -/
def clampSize (descSize size : UInt32) : Int × UInt32 :=
  if size > descSize then (-EOVERRUN, descSize) else (SUCCESS, size)

/-- Get the number of elements in the buffer -/
def cbSize (desc : CircularBuffer) : Int × UInt32 :=
  clampSize desc.size (unread desc.size (nbSpins desc.write.spinCount desc.read.spinCount)
    desc.write.idx desc.read.idx)

/-- What `cb_prepare_async_operation` returns; `region` is the offset of `*buff` and the
value of `*raw_size_available` where these are set. -/
structure Prepared where
  ret : Int
  desc : CircularBuffer
  region : Option (UInt32 × UInt32)
deriving DecidableEq, Repr

/-- Update the read pointer after an overrun. -/
def skipOverrun (desc : CircularBuffer) : CircularBuffer :=
  { desc with read := { desc.read with
      spinCount := desc.write.spinCount - 1
      idx := desc.write.idx } }

/-- The tail of `cb_prepare_async_operation`: reserves up to the end of the buffer. -/
def reserve (desc : CircularBuffer) (requestedSize : UInt32) (ret : Int) (isRead : Bool) :
    Prepared :=
  let p := desc.ptr isRead
  let asyncSize := min requestedSize (desc.size - p.idx)
  { ret := ret
    desc := desc.setPtr isRead { p with asyncSize := asyncSize, asyncStarted := true }
    region := some (p.idx, asyncSize) }

def cbPrepareAsyncOperation (desc : CircularBuffer) (requestedSize : UInt32) (isRead : Bool) :
    Prepared :=
  if (desc.ptr isRead).asyncStarted then ⟨-EBUSY, desc, none⟩
  else if isRead then
    let (ret, availableSize) := cbSize desc
    let desc := if ret = -EOVERRUN then skipOverrun desc else desc
    let requestedSize := min requestedSize availableSize
    if requestedSize = 0 then ⟨-EAGAIN, desc, none⟩
    else reserve desc requestedSize ret isRead
  else reserve desc requestedSize SUCCESS isRead

/-- The pointer after the end of its transaction. -/
def CbPtr.finish (p : CbPtr) (size : UInt32) : CbPtr :=
  let newVal := p.idx + p.asyncSize
  { idx := if newVal ≥ size then newVal % size else newVal
    spinCount := if newVal ≥ size then p.spinCount + 1 else p.spinCount
    asyncStarted := false
    asyncSize := 0 }

def cbEndAsyncOperation (desc : CircularBuffer) (isRead : Bool) : Int × CircularBuffer :=
  let p := desc.ptr isRead
  if !p.asyncStarted then (FAILURE, desc)
  else (SUCCESS, desc.setPtr isRead (p.finish desc.size))

/-- Get the inside raw buffer to write to. -/
def cbPrepareAsyncWrite (desc : CircularBuffer) (sizeToWrite : UInt32) : Prepared :=
  cbPrepareAsyncOperation desc sizeToWrite false

/-- Get the inside raw buffer to read from. -/
def cbPrepareAsyncRead (desc : CircularBuffer) (sizeToRead : UInt32) : Prepared :=
  cbPrepareAsyncOperation desc sizeToRead true

def cbEndAsyncWrite (desc : CircularBuffer) : Int × CircularBuffer :=
  cbEndAsyncOperation desc false

def cbEndAsyncRead (desc : CircularBuffer) : Int × CircularBuffer :=
  cbEndAsyncOperation desc true

/-- The bytes at an offset of the buffer. -/
def CircularBuffer.bytes (desc : CircularBuffer) (region : UInt32 × UInt32) : List UInt8 :=
  slice desc.buff region.1.toNat region.2.toNat

/-- Stores bytes at an offset of the buffer. -/
def CircularBuffer.store (desc : CircularBuffer) (off : ℕ) (data : List UInt8) :
    CircularBuffer :=
  { desc with buff := splice desc.buff off data }

/-- The locals of `cb_operation`; `data` is what a read has copied out. -/
structure CbOperation where
  desc : CircularBuffer
  i : UInt32 := 0
  stickyOverrun : Bool := false
  data : List UInt8 := []
deriving DecidableEq, Repr

/-- One call of `cb_prepare_async_operation` in the loops of `cb_operation`. A busy or
empty buffer is asked again; otherwise the bytes are copied and the transaction ended. -/
def cbOperationPoll (src : List UInt8) (size : UInt32) (isRead : Bool) (st : CbOperation) :
    CbOperation :=
  let p := cbPrepareAsyncOperation st.desc (size - st.i) isRead
  match p.region with
  | none => { st with desc := p.desc }
  | some region =>
    let desc :=
      if isRead then p.desc
      else p.desc.store region.1.toNat (slice src st.i.toNat region.2.toNat)
    { desc := (cbEndAsyncOperation desc isRead).2
      i := st.i + region.2
      stickyOverrun := st.stickyOverrun || p.ret = -EOVERRUN
      data := if isRead then st.data ++ p.desc.bytes region else st.data }

/-- The state of `cb_operation` after at most `polls` polls. -/
def cbOperationLoop (src : List UInt8) (size : UInt32) (isRead : Bool) :
    ℕ → CbOperation → CbOperation
  | 0, st => st
  | polls + 1, st =>
    if st.i < size then cbOperationLoop src size isRead polls (cbOperationPoll src size isRead st)
    else st

/-- What a blocking call has done after some polls: its return code if it has returned, and
the number of bytes it has moved. -/
structure Blocking where
  ret : Option Int
  desc : CircularBuffer
  i : UInt32
  data : List UInt8
deriving DecidableEq, Repr

def cbOperation (polls : ℕ) (desc : CircularBuffer) (src : List UInt8) (size : UInt32)
    (isRead : Bool) : Blocking :=
  if size = 0 then ⟨some (-EINVAL), desc, 0, []⟩
  else
    let st := cbOperationLoop src size isRead polls { desc := desc }
    { ret :=
        if st.i < size then none else if st.stickyOverrun then some (-EOVERRUN) else some SUCCESS
      desc := st.desc
      i := st.i
      data := st.data }

/-- Write data to the buffer (Blocking) -/
def cbWrite (polls : ℕ) (desc : CircularBuffer) (data : List UInt8) (size : UInt32) : Blocking :=
  cbOperation polls desc data size false

/-- Read data from the buffer (Blocking) -/
def cbRead (polls : ℕ) (desc : CircularBuffer) (size : UInt32) : Blocking :=
  cbOperation polls desc [] size true

end NoOS
