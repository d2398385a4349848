import NoOS.Errno
import NoOS.Util.Crc16

/-!
# The samples of the converter `ad7606.c`

A frame has a sample of each channel, most significant bit first and back to back, and then their checksum if the
interface is checked. `spi_write_and_read` is a parameter: it returns a code and the bytes that it has received.
-/

namespace NoOS

inductive Ad7606DeviceId
  | ID_AD7605_4
  | ID_AD7606_4
  | ID_AD7606_6
  | ID_AD7606_8
  | ID_AD7606B
  | ID_AD7606C_16
  | ID_AD7606C_18
  | ID_AD7608
  | ID_AD7609
deriving DecidableEq, Repr

structure Ad7606ChipInfo where
  numChannels : ℕ
  bits : ℕ

open Ad7606DeviceId in
def ad7606ChipInfoTbl : Ad7606DeviceId → Ad7606ChipInfo
  | ID_AD7605_4 => ⟨4, 16⟩
  | ID_AD7606_4 => ⟨4, 16⟩
  | ID_AD7606_6 => ⟨6, 16⟩
  | ID_AD7606_8 => ⟨8, 16⟩
  | ID_AD7606B => ⟨8, 16⟩
  | ID_AD7606C_16 => ⟨8, 16⟩
  | ID_AD7606C_18 => ⟨8, 18⟩
  | ID_AD7608 => ⟨8, 18⟩
  | ID_AD7609 => ⟨8, 18⟩

/-- The switches that a read of samples looks at, and the buffer of the transfers. -/
structure Ad7606Dev where
  deviceId : Ad7606DeviceId
  statusHeader : Bool
  intCrcErrEn : Bool
  data : ℕ → UInt8

/-- The table that `ad7606_init` fills. -/
def ad7606Crc16 : ℕ → UInt16 := crc16PopulateMsb 0x755B

/-- Four samples of 18 bits in nine bytes. -/
def cpy18b32bStep (psrc : ℕ → UInt8) (pdst : ℕ → UInt32) (n : ℕ) : ℕ → UInt32 :=
  let i := 9 * n
  let j := 4 * (i / 9)
  let pdst := Function.update pdst (j + 0) ((psrc (i + 0) &&& 0xff).toUInt32 <<< 10 ||| (psrc (i + 1)).toUInt32 <<< 2
    ||| (psrc (i + 2)).toUInt32 >>> 6)
  let pdst := Function.update pdst (j + 1) ((psrc (i + 2) &&& 0x3f).toUInt32 <<< 12 ||| (psrc (i + 3)).toUInt32 <<< 4
    ||| (psrc (i + 4)).toUInt32 >>> 4)
  let pdst := Function.update pdst (j + 2) ((psrc (i + 4) &&& 0x0f).toUInt32 <<< 14 ||| (psrc (i + 5)).toUInt32 <<< 6
    ||| (psrc (i + 6)).toUInt32 >>> 2)
  Function.update pdst (j + 3) ((psrc (i + 6) &&& 0x03).toUInt32 <<< 16 ||| (psrc (i + 7)).toUInt32 <<< 8
    ||| (psrc (i + 8)).toUInt32 >>> 0)

/-- The loop over `srcsz` bytes in steps of nine. -/
def cpy18b32b (psrc : ℕ → UInt8) (srcsz : ℕ) (pdst : ℕ → UInt32) : Int × (ℕ → UInt32) :=
  if srcsz % 9 ≠ 0 then (-EINVAL, pdst)
  else (SUCCESS, (List.range (srcsz / 9)).foldl (cpy18b32bStep psrc) pdst)

/-- Four samples of 26 bits in thirteen bytes. -/
def cpy26b32bStep (psrc : ℕ → UInt8) (pdst : ℕ → UInt32) (n : ℕ) : ℕ → UInt32 :=
  let i := 13 * n
  let j := 4 * (i / 13)
  let pdst := Function.update pdst (j + 0) ((psrc (i + 0) &&& 0xff).toUInt32 <<< 18 ||| (psrc (i + 1)).toUInt32 <<< 10
    ||| (psrc (i + 2)).toUInt32 <<< 2 ||| (psrc (i + 3)).toUInt32 >>> 6)
  let pdst := Function.update pdst (j + 1) ((psrc (i + 3) &&& 0x3f).toUInt32 <<< 20 ||| (psrc (i + 4)).toUInt32 <<< 12
    ||| (psrc (i + 5)).toUInt32 <<< 4 ||| (psrc (i + 6)).toUInt32 >>> 4)
  let pdst := Function.update pdst (j + 2) ((psrc (i + 6) &&& 0x0f).toUInt32 <<< 22 ||| (psrc (i + 7)).toUInt32 <<< 14
    ||| (psrc (i + 8)).toUInt32 <<< 6 ||| (psrc (i + 9)).toUInt32 >>> 2)
  Function.update pdst (j + 3) ((psrc (i + 9) &&& 0x03).toUInt32 <<< 24 ||| (psrc (i + 10)).toUInt32 <<< 16
    ||| (psrc (i + 11)).toUInt32 <<< 8 ||| (psrc (i + 12)).toUInt32 >>> 0)

def cpy26b32b (psrc : ℕ → UInt8) (srcsz : ℕ) (pdst : ℕ → UInt32) : Int × (ℕ → UInt32) :=
  if srcsz % 13 ≠ 0 then (-EINVAL, pdst)
  else (SUCCESS, (List.range (srcsz / 13)).foldl (cpy26b32bStep psrc) pdst)

/-- One pass of the loop for samples of 16 bits. -/
def ad7606Sample16 (dev : Ad7606Dev) (data : ℕ → UInt32) (i : ℕ) : ℕ → UInt32 :=
  if dev.statusHeader then
    let data := Function.update data i ((dev.data (i * 3)).toUInt32 <<< 16)
    let data := Function.update data i (data i ||| (dev.data (i * 3 + 1)).toUInt32 <<< 8)
    Function.update data i (data i ||| (dev.data (i * 3 + 2)).toUInt32)
  else
    let data := Function.update data i ((dev.data (i * 2)).toUInt32 <<< 8)
    Function.update data i (data i ||| (dev.data (i * 2 + 1)).toUInt32)

/-- What a read has asked for and returned, with the buffer of the caller. -/
structure Ad7606Read where
  requested : ℕ
  ret : Int
  dev : Ad7606Dev
  data : ℕ → UInt32

/-- The bytes of the samples. -/
def ad7606SampleBytes (dev : Ad7606Dev) : ℕ :=
  (ad7606ChipInfoTbl dev.deviceId).numChannels *
    ((ad7606ChipInfoTbl dev.deviceId).bits + if dev.statusHeader then 8 else 0) / 8

/-- The samples out of the buffer `dev.data`. -/
def ad7606Unpack (dev : Ad7606Dev) (sz : ℕ) (ret : Int) (data : ℕ → UInt32) : Int × (ℕ → UInt32) :=
  let info := ad7606ChipInfoTbl dev.deviceId
  if info.bits = 18 then if dev.statusHeader then cpy26b32b dev.data sz data else cpy18b32b dev.data sz data
  else if info.bits = 16 then (ret, (List.range info.numChannels).foldl (ad7606Sample16 dev) data)
  else (-ENOTSUP, data)

/-- The buffer with some bytes at its start. -/
def Ad7606Dev.fill (dev : Ad7606Dev) (bytes : List UInt8) : Ad7606Dev :=
  { dev with data := fun i => bytes.getD i (dev.data i) }

def ad7606SpiDataRead (spiWriteAndRead : List UInt8 → Int × List UInt8) (dev : Ad7606Dev) (data : ℕ → UInt32) :
    Ad7606Read :=
  let sz := ad7606SampleBytes dev
  let sz := if dev.intCrcErrEn then sz + 2 else sz
  let dev := dev.fill (List.replicate sz 0)
  let (ret, received) := spiWriteAndRead ((List.range sz).map dev.data)
  let dev := dev.fill (received.take sz)
  if ret < 0 then ⟨sz, ret, dev, data⟩
  else if dev.intCrcErrEn then
    let crc := crc16 ad7606Crc16 ((List.range (sz - 2)).map dev.data) 0
    let icrc := (dev.data (sz - 2)).toUInt16 <<< 8 ||| (dev.data (sz - 2 + 1)).toUInt16
    if icrc ≠ crc then ⟨sz, -EBADMSG, dev, data⟩
    else
      let (ret, data) := ad7606Unpack dev (sz - 2) ret data
      ⟨sz, ret, dev, data⟩
  else
    let (ret, data) := ad7606Unpack dev sz ret data
    ⟨sz, ret, dev, data⟩

end NoOS
