import NoOS.Errno
import NoOS.Lib.BitField
import NoOS.Lib.Trace

/-!
# Transfers of samples

Translation of the calls of `iio/iio.c` that open and close a registered device and transfer its samples. The number
of samples is computed from the mask of open channels.
-/

namespace NoOS

/-- The fields of an `iio_interface` and of its device that transfers use. -/
structure IioTransfer where
  /-- `scan_type->storagebits` of the channels, `num_ch` of them -/
  storagebits : List UInt8
  hasReadDev : Bool
  hasWriteDev : Bool
  /-- `size` of the buffers, if there are any -/
  readBuffer : Option UInt32
  writeBuffer : Option UInt32
  chMask : UInt32

inductive TransferFault where
  | undefinedShift
  | outOfBounds
  | divisionByZero
  deriving DecidableEq

/-- The variables of the loop in `bytes_to_samples` -/
structure ActiveScan where
  firstCh : UInt32
  firstChFound : Bool
  nbActiveCh : UInt32

/-- What the loop does for a bit that is set -/
def ActiveScan.count (a : ActiveScan) : ActiveScan :=
  { firstCh := if !a.firstChFound then a.firstCh else a.firstCh + 1
    firstChFound := true
    nbActiveCh := a.nbActiveCh + 1 }

namespace IioTransfer

/-- `iio_open_dev`; `prepared` is the result of `prepare_transfer`, if there is one. -/
def openDev (x : IioTransfer) (mask : UInt32) (prepared : Option Int) : Except TransferFault (Int × IioTransfer) :=
  if x.storagebits.length = 0 ∨ 32 < x.storagebits.length then .error .undefinedShift
  else
    let chMask := (0xFFFFFFFF : UInt32) >>> UInt32.ofNat (32 - x.storagebits.length)
    if mask &&& ~~~chMask ≠ 0 then .ok (-ENOENT, x)
    else .ok (prepared.getD SUCCESS, { x with chMask := mask })

/-- `iio_close_dev`; `ended` is the result of `end_transfer`, if there is one. -/
def closeDev (x : IioTransfer) (ended : Option Int) : Int × IioTransfer := (ended.getD SUCCESS, { x with chMask := 0 })

def bytesToSamples (x : IioTransfer) (bytes : UInt32) : Except TransferFault UInt32 :=
  let scan := SetBits.walk ActiveScan.count 32 x.chMask ⟨0, false, 0⟩
  match x.storagebits[scan.firstCh.toNat]? with
  | none => .error .outOfBounds
  | some storagebits =>
    let bytesPerSample := storagebits.toUInt32 / 8
    if bytesPerSample = 0 ∨ scan.nbActiveCh = 0 then .error .divisionByZero
    else .ok (bytes / bytesPerSample / scan.nbActiveCh)

/-- The result of a transfer, and how many samples the device is asked for. -/
def transfer (x : IioTransfer) (buffer : Option UInt32) (hasDev : Bool) (ret : Int) (bytesCount : UInt32) :
    Except TransferFault (Int × Option UInt32) :=
  match buffer with
  | some size =>
    if !hasDev then .ok (-ENOENT, none)
    else if bytesCount > size then .ok (-ENOMEM, none)
    else (x.bytesToSamples bytesCount).map fun samples => (if ret < 0 then ret else bytesCount.toNat, some samples)
  | none => .ok (-ENOENT, none)

/-- `ret` is the result of `read_dev`. -/
def iioTransferDevToMem (x : IioTransfer) (ret : Int) (bytesCount : UInt32) : Except TransferFault (Int × Option UInt32) :=
  x.transfer x.readBuffer x.hasReadDev ret bytesCount

/-- `ret` is the result of `write_dev`. -/
def iioTransferMemToDev (x : IioTransfer) (ret : Int) (bytesCount : UInt32) : Except TransferFault (Int × Option UInt32) :=
  x.transfer x.writeBuffer x.hasWriteDev ret bytesCount

end IioTransfer

/-- The calls for a device, with what its functions return -/
inductive TransferCall where
  | openDev (mask : UInt32) (prepared : Option Int)
  | closeDev (ended : Option Int)
  | devToMem (ret : Int) (bytesCount : UInt32)
  | memToDev (ret : Int) (bytesCount : UInt32)

namespace IioTransfer

def step (x : IioTransfer) : TransferCall → Except TransferFault IioTransfer
  | .openDev mask prepared => (x.openDev mask prepared).map Prod.snd
  | .closeDev ended => .ok (x.closeDev ended).2
  | .devToMem ret bytesCount => (x.iioTransferDevToMem ret bytesCount).map fun _ => x
  | .memToDev ret bytesCount => (x.iioTransferMemToDev ret bytesCount).map fun _ => x

/-- The open channels, the one with the lowest number first -/
def active (x : IioTransfer) : List ℕ := SetBits.setBits 32 x.chMask.toNat

/-- The bytes of a sample of channel `ch` -/
def sampleSize (x : IioTransfer) (ch : ℕ) : ℕ := (x.storagebits.getD ch 0).toNat / 8

/-- The bytes of a sample of the open channel with the lowest number -/
def firstSize (x : IioTransfer) : ℕ := x.sampleSize (x.active.headD 0)

/-- There are open channels, and bytes are divided by their number and the size of a sample. -/
def Counts (x : IioTransfer) : Prop :=
  x.active ≠ [] ∧ ∀ bytes, ∃ samples, x.bytesToSamples bytes = .ok samples ∧
    samples.toNat = bytes.toNat / (x.firstSize * x.active.length)

/-- A transfer that the device is asked for is counted as it should be and stays inside of the buffer. -/
def TransferRight (x : IioTransfer) (buffer : Option UInt32) (hasDev : Bool) (ret : Int) (bytesCount : UInt32) : Prop :=
  ∀ size ∈ buffer, hasDev = true → bytesCount ≤ size → x.Counts ∧
    ∃ r samples, x.transfer buffer hasDev ret bytesCount = .ok (r, some samples) ∧
      samples.toNat * x.firstSize * x.active.length ≤ size.toNat

def Right (x : IioTransfer) : TransferCall → Prop
  | .openDev mask prepared => ∃ r, x.openDev mask prepared = .ok r
  | .closeDev _ => True
  | .devToMem ret bytesCount => x.TransferRight x.readBuffer x.hasReadDev ret bytesCount
  | .memToDev ret bytesCount => x.TransferRight x.writeBuffer x.hasWriteDev ret bytesCount

/-- The sample sizes of the channel that is looked at and of the first open one are the same. -/
def Uniform (x : IioTransfer) : Prop :=
  x.active ≠ [] ∧ x.sampleSize (x.active.length - 1) = x.firstSize

def Transfers (buffer : Option UInt32) (hasDev : Bool) (bytesCount : UInt32) : Prop :=
  ∃ size ∈ buffer, hasDev = true ∧ bytesCount ≤ size

def Sound (x : IioTransfer) : TransferCall → Prop
  | .openDev _ _ => 1 ≤ x.storagebits.length ∧ x.storagebits.length ≤ 32
  | .closeDev _ => True
  | .devToMem _ bytesCount => Transfers x.readBuffer x.hasReadDev bytesCount → x.Uniform
  | .memToDev _ bytesCount => Transfers x.writeBuffer x.hasWriteDev bytesCount → x.Uniform

end IioTransfer

end NoOS
