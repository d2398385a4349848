import Mathlib.Data.List.Range
import NoOS.Errno
import NoOS.Lib.Trace

/-!
# The FIFO of the accelerometer `adxl372.c`

The FIFO holds the samples of the three axes in turn, as words of two bytes. A transfer succeeds with the code 0 or
fails with a negative one; a failed transfer leaves the FIFO alone.
-/

namespace NoOS

inductive Adxl372Fault
  /-- `buf[i]` in `adxl372_get_fifo_xyz_data` -/
  | bufIndex
  /-- `samples++` beyond the array of the caller -/
  | samplesIndex
  /-- `memset` of `count - 1` bytes in `adxl372_i2c_reg_read_multiple` -/
  | memsetLength
deriving DecidableEq, Repr

inductive CommType
  | spi
  | i2c
deriving DecidableEq, Repr

inductive FifoMode
  | bypassed
  | streamed
  | triggered
  | oldSaved
deriving DecidableEq, Repr

structure Adxl372XyzAccelData where
  x : UInt16
  y : UInt16
  z : UInt16
deriving DecidableEq, Repr

structure Adxl372Dev where
  commType : CommType
  fifoMode : FifoMode
deriving DecidableEq, Repr

def fifoRdy (status1 : UInt8) : Bool := (status1 >>> 1) &&& 0x1 ≠ 0
def fifoFull (status1 : UInt8) : Bool := (status1 >>> 2) &&& 0x1 ≠ 0
def fifoOvr (status1 : UInt8) : Bool := (status1 >>> 3) &&& 0x1 ≠ 0

/-- What a transfer returns. -/
abbrev BusCode := { code : Int // code ≤ 0 }

/-- The transfers of a call of `reg_read_multiple`; over SPI there is only the second one. -/
structure BusCodes where
  write : BusCode
  read : BusCode
deriving DecidableEq

def BusCodes.Succeed (bus : BusCodes) (comm : CommType) : Prop := bus.read.1 = 0 ∧ (comm = .i2c → bus.write.1 = 0)

instance (bus : BusCodes) (comm : CommType) : Decidable (bus.Succeed comm) := inferInstanceAs (Decidable (_ ∧ _))

/-- The code, and the bytes that are stored into `reg_data`. -/
def readRegMultiple (comm : CommType) (bus : BusCodes) (count : UInt16) (bytes : List UInt8) :
    Except Adxl372Fault (Int × List UInt8) :=
  if count > 512 then .ok (FAILURE, [])
  else
    match comm with
    | .spi => .ok (bus.read.1, if bus.read.1 < 0 then [] else bytes.take count.toNat)
    | .i2c =>
      if count = 0 then .error .memsetLength
      else if bus.write.1 < 0 then .ok (bus.write.1, [])
      else .ok (bus.read.1, if bus.read.1 < 0 then [] else bytes.take count.toNat)

/-- The FIFO data register gives the high byte of a sample first. -/
def sampleBytes (samples : List UInt16) : List UInt8 := samples.flatMap fun w : UInt16 => [(w >>> (8 : UInt16)).toUInt8, w.toUInt8]

/-- The number of samples in the registers FIFO_ENTRIES_2 and FIFO_ENTRIES_1. -/
def entriesBytes (fifo : List UInt16) : List UInt8 := [UInt8.ofNat (fifo.length / 256), UInt8.ofNat fifo.length]

/-- A call of `adxl372_service_fifo_ev` as its surroundings have it; `junk` is what `buf` holds before. -/
structure ServiceCall where
  status1 : UInt8
  status2 : UInt8
  statusBus : BusCodes
  dataBus : BusCodes
  junk : { buf : List UInt8 // buf.length = 1024 }

/-- The code, `*fifo_entries`, the sets that are stored into `fifo_data`, and the FIFO after the call. -/
structure ServiceResult where
  ret : Int
  fifoEntries : UInt16
  fifoData : List Adxl372XyzAccelData
  fifo : List UInt16
deriving DecidableEq

/-- `(buf[i] << 4) | (buf[i + 1] >> 4)` -/
def axisAt (buf : List UInt8) (i : ℕ) : Except Adxl372Fault UInt16 :=
  match buf[i]?, buf[i + 1]? with
  | some hi, some lo => .ok ((hi.toUInt16 <<< (4 : UInt16)) ||| (lo >>> (4 : UInt8)).toUInt16)
  | _, _ => .error .bufIndex

/-- The set from byte `i` on. -/
def setAt (buf : List UInt8) (i : ℕ) : Except Adxl372Fault Adxl372XyzAccelData := do
  let x ← axisAt buf i
  let y ← axisAt buf (i + 2)
  let z ← axisAt buf (i + 4)
  pure ⟨x, y, z⟩

/-- The loop over `i`, which steps by 6 until `n`; `fuel` bounds its passes, and `k` counts the sets. -/
def decodeFrom (buf : List UInt8) (n : ℕ) : ℕ → ℕ → ℕ → Except Adxl372Fault (List Adxl372XyzAccelData)
  | 0, _, _ => .ok []
  | fuel + 1, i, k =>
    if i < n then
      match setAt buf i with
      | .error f => .error f
      | .ok set =>
        if k < 170 then
          match decodeFrom buf n fuel (i + 6) (k + 1) with
          | .error f => .error f
          | .ok sets => .ok (set :: sets)
        else .error .samplesIndex
    else .ok []

namespace Adxl372Dev

/-- The code, the sets, and the FIFO. -/
def getFifoXyzData (dev : Adxl372Dev) (fifo : List UInt16) (c : ServiceCall) (cnt : UInt16) :
    Except Adxl372Fault (Int × List Adxl372XyzAccelData × List UInt16) :=
  if cnt > 512 then .ok (-1, [], fifo)
  else
    match readRegMultiple dev.commType c.dataBus (cnt * 2) (sampleBytes fifo) with
    | .error f => .error f
    | .ok (ret, bytes) =>
      if ret < 0 then .ok (ret, [], fifo)
      else
        match decodeFrom (bytes ++ c.junk.1.drop bytes.length) (cnt * 2).toNat (cnt * 2).toNat 0 0 with
        | .error f => .error f
        | .ok sets => .ok (ret, sets, fifo.drop ((cnt * 2).toNat / 2))

/-- The code, STATUS1 and `*fifo_entries`. -/
def getStatus (dev : Adxl372Dev) (fifo : List UInt16) (c : ServiceCall) :
    Except Adxl372Fault (Int × Option (UInt8 × UInt16)) :=
  match readRegMultiple dev.commType c.statusBus 4 ([c.status1, c.status2] ++ entriesBytes fifo) with
  | .error f => .error f
  | .ok (ret, [s1, _, hi, lo]) => .ok (ret, some (s1, ((hi &&& 0x3).toUInt16 <<< 8) ||| lo.toUInt16))
  | .ok (ret, _) => .ok (ret, none)

def serviceFifoEv (dev : Adxl372Dev) (fifo : List UInt16) (c : ServiceCall) (fifoEntries : UInt16) :
    Except Adxl372Fault ServiceResult :=
  match dev.getStatus fifo c with
  | .error f => .error f
  | .ok (ret, none) => .ok ⟨ret, fifoEntries, [], fifo⟩
  | .ok (ret, some (status1, fifoEntries)) =>
    if ret ≠ 0 then .ok ⟨ret, fifoEntries, [], fifo⟩
    else if fifoOvr status1 then .ok ⟨-1, fifoEntries, [], fifo⟩
    else if dev.fifoMode ≠ .bypassed ∧ (fifoRdy status1 ∨ fifoFull status1) then
      match dev.getFifoXyzData fifo c (fifoEntries - 3) with
      | .error f => .error f
      | .ok (ret, sets, fifo) => .ok ⟨ret, fifoEntries - 3, sets, fifo⟩
    else .ok ⟨ret, fifoEntries, [], fifo⟩

end Adxl372Dev

end NoOS
