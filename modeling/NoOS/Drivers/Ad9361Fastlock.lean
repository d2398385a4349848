import NoOS.Drivers.Ad9361Ensm
import Mathlib.Logic.Function.Basic
import Mathlib.Data.List.Range

/-!
# The fastlock profiles of the AD9361

Each synthesizer has a memory for the settings of eight profiles. It is written through a port of four registers,
which takes the byte in the data register when its control register is written with the write bit. The transfers
succeed, the delays are left out.
-/

namespace NoOS

def REG_RFPLL_DIVIDERS : UInt32 := 0x005
def REG_RX_INTEGER_BYTE_0 : UInt32 := 0x231
def REG_RX_INTEGER_BYTE_1 : UInt32 := 0x232
def REG_RX_FRACT_BYTE_0 : UInt32 := 0x233
def REG_RX_FRACT_BYTE_1 : UInt32 := 0x234
def REG_RX_FRACT_BYTE_2 : UInt32 := 0x235
def REG_RX_FORCE_ALC : UInt32 := 0x236
def REG_RX_FORCE_VCO_TUNE_0 : UInt32 := 0x237
def REG_RX_FORCE_VCO_TUNE_1 : UInt32 := 0x238
def REG_RX_ALC_VARACTOR : UInt32 := 0x239
def REG_RX_CP_CURRENT : UInt32 := 0x23B
def REG_RX_LOOP_FILTER_1 : UInt32 := 0x23E
def REG_RX_LOOP_FILTER_2 : UInt32 := 0x23F
def REG_RX_LOOP_FILTER_3 : UInt32 := 0x240
def REG_RX_VCO_BIAS_1 : UInt32 := 0x242
def REG_RX_VCO_VARACTOR_CTRL_0 : UInt32 := 0x250
def REG_RX_VCO_VARACTOR_CTRL_1 : UInt32 := 0x251
def REG_RX_FAST_LOCK_SETUP : UInt32 := 0x25A
def REG_RX_FAST_LOCK_SETUP_INIT_DELAY : UInt32 := 0x25B
def REG_RX_FAST_LOCK_PROGRAM_ADDR : UInt32 := 0x25C
def REG_RX_FAST_LOCK_PROGRAM_DATA : UInt32 := 0x25D
def REG_RX_FAST_LOCK_PROGRAM_READ : UInt32 := 0x25E
def REG_RX_FAST_LOCK_PROGRAM_CTRL : UInt32 := 0x25F
def REG_TX_FAST_LOCK_SETUP : UInt32 := 0x29A

def RX_FAST_LOCK_PROFILE_PIN_SELECT : UInt8 := 0x2
def RX_FAST_LOCK_MODE_ENABLE : UInt8 := 0x1
def RX_FAST_LOCK_PROGRAM_WRITE : UInt8 := 0x2
def RX_FAST_LOCK_PROGRAM_CLOCK_ENABLE : UInt8 := 0x1
def RX_FAST_LOCK_CONFIG_WORD_NUM : ℕ := 16
def RX_SYNTH_READY_MASK : UInt8 := 0x2
def TX_SYNTH_READY_MASK : UInt8 := 0x1
def FASTLOOK_INIT : UInt8 := 1
def RFPLL_MODULUS : UInt64 := 8388593

abbrev Profile := Fin 8

/-- The distance of the registers of a side from the ones of the receiver. -/
def fastlockOffs (tx : Bool) : UInt32 := if tx then REG_TX_FAST_LOCK_SETUP - REG_RX_FAST_LOCK_SETUP else 0

/-- `RX_FAST_LOCK_PROFILE_ADDR` and `RX_FAST_LOCK_PROFILE_WORD`. -/
def profileAddr (profile : Profile) (word : ℕ) : UInt8 :=
  ((UInt8.ofNat profile &&& 0x7) <<< 4) ||| (UInt8.ofNat word &&& 0xF)

/-- `RX_FAST_LOCK_PROFILE`. -/
def profileSetup (profile : Profile) : UInt8 := (UInt8.ofNat profile &&& 0x7) <<< 5

structure FastlockDevice where
  regs : UInt32 → UInt8
  /-- The memories of the profiles of both sides by the address of a word -/
  mem : Bool → UInt8 → UInt8

namespace FastlockDevice

def write (dev : FastlockDevice) (reg : UInt32) (val : UInt8) : FastlockDevice where
  regs := Function.update dev.regs reg val
  mem := fun tx =>
    if reg = REG_RX_FAST_LOCK_PROGRAM_CTRL + fastlockOffs tx ∧ val &&& RX_FAST_LOCK_PROGRAM_WRITE ≠ 0 then
      Function.update (dev.mem tx) (dev.regs (REG_RX_FAST_LOCK_PROGRAM_ADDR + fastlockOffs tx))
        (dev.regs (REG_RX_FAST_LOCK_PROGRAM_DATA + fastlockOffs tx))
    else dev.mem tx

/-- The read register of a port shows the word at its address. -/
def read (dev : FastlockDevice) (reg : UInt32) : UInt8 :=
  if reg = REG_RX_FAST_LOCK_PROGRAM_READ + fastlockOffs false then
    dev.mem false (dev.regs (REG_RX_FAST_LOCK_PROGRAM_ADDR + fastlockOffs false))
  else if reg = REG_RX_FAST_LOCK_PROGRAM_READ + fastlockOffs true then
    dev.mem true (dev.regs (REG_RX_FAST_LOCK_PROGRAM_ADDR + fastlockOffs true))
  else dev.regs reg

/-- Consecutive bytes, to registers with descending addresses. -/
def writem (dev : FastlockDevice) (reg : UInt32) : List UInt8 → FastlockDevice
  | [] => dev
  | b :: bs => (dev.write reg b).writem (reg - 1) bs

/-- The bits of a mask whose lowest bit is `offset`. -/
def readf (dev : FastlockDevice) (reg : UInt32) (mask offset : UInt8) : UInt8 := (dev.read reg &&& mask) >>> offset

def writef (dev : FastlockDevice) (reg : UInt32) (mask offset val : UInt8) : FastlockDevice :=
  dev.write reg ((dev.read reg &&& ~~~mask) ||| ((val <<< offset) &&& mask))

def fastlockReadval (dev : FastlockDevice) (tx : Bool) (profile : Profile) (word : ℕ) : UInt8 × FastlockDevice :=
  let dev := dev.write (REG_RX_FAST_LOCK_PROGRAM_ADDR + fastlockOffs tx) (profileAddr profile word)
  (dev.read (REG_RX_FAST_LOCK_PROGRAM_READ + fastlockOffs tx), dev)

def fastlockWriteval (dev : FastlockDevice) (tx : Bool) (profile : Profile) (word : ℕ) (val : UInt8) (last : Bool) :
    FastlockDevice :=
  let dev := dev.write (REG_RX_FAST_LOCK_PROGRAM_ADDR + fastlockOffs tx) (profileAddr profile word)
  let dev := dev.write (REG_RX_FAST_LOCK_PROGRAM_DATA + fastlockOffs tx) val
  let dev := dev.write (REG_RX_FAST_LOCK_PROGRAM_CTRL + fastlockOffs tx)
    (RX_FAST_LOCK_PROGRAM_WRITE ||| RX_FAST_LOCK_PROGRAM_CLOCK_ENABLE)
  if last then dev.write (REG_RX_FAST_LOCK_PROGRAM_CTRL + fastlockOffs tx) 0 else dev

/-- The transfers of `ad9361_fastlock_load`. Each of them takes the word before and sets up the next one. -/
def loadWords (dev : FastlockDevice) (tx : Bool) (profile : Profile) (values : ℕ → UInt8) : FastlockDevice :=
  let dev := dev.writem (REG_RX_FAST_LOCK_PROGRAM_DATA + fastlockOffs tx) [values 0, profileAddr profile 0]
  let dev := (List.range (RX_FAST_LOCK_CONFIG_WORD_NUM - 1)).foldl (fun dev i =>
    dev.writem (REG_RX_FAST_LOCK_PROGRAM_CTRL + fastlockOffs tx)
      [RX_FAST_LOCK_PROGRAM_WRITE ||| RX_FAST_LOCK_PROGRAM_CLOCK_ENABLE, 0, values (i + 1),
        profileAddr profile (i + 1)]) dev
  let dev := dev.write (REG_RX_FAST_LOCK_PROGRAM_CTRL + fastlockOffs tx)
    (RX_FAST_LOCK_PROGRAM_WRITE ||| RX_FAST_LOCK_PROGRAM_CLOCK_ENABLE)
  dev.write (REG_RX_FAST_LOCK_PROGRAM_CTRL + fastlockOffs tx) 0

def trxVcoCalControl (dev : FastlockDevice) (tx enable : Bool) : FastlockDevice :=
  dev.writef (if tx then REG_TX_PFD_CONFIG else REG_RX_PFD_CONFIG) BYPASS_LD_SYNTH.toUInt8 0 (if enable then 0 else 1)

/-- `RX_VCO_DIVIDER` and `TX_VCO_DIVIDER`. -/
def vcoDivider (dev : FastlockDevice) (tx : Bool) : UInt8 :=
  if tx then dev.readf REG_RFPLL_DIVIDERS 0xF0 4 else dev.readf REG_RFPLL_DIVIDERS 0xF 0

/-- The words of the profile that `ad9361_fastlock_store` makes of the registers. -/
def storeWords (dev : FastlockDevice) (tx : Bool) : ℕ → UInt8
  | 0 => dev.read (REG_RX_INTEGER_BYTE_0 + fastlockOffs tx)
  | 1 => dev.read (REG_RX_INTEGER_BYTE_1 + fastlockOffs tx)
  | 2 => dev.read (REG_RX_FRACT_BYTE_0 + fastlockOffs tx)
  | 3 => dev.read (REG_RX_FRACT_BYTE_1 + fastlockOffs tx)
  | 4 => dev.read (REG_RX_FRACT_BYTE_2 + fastlockOffs tx)
  | 5 => (dev.readf (REG_RX_VCO_BIAS_1 + fastlockOffs tx) 0x7 0 <<< 4) |||
      dev.readf (REG_RX_ALC_VARACTOR + fastlockOffs tx) 0xF 0
  | 6 => (dev.readf (REG_RX_VCO_BIAS_1 + fastlockOffs tx) 0x18 3 <<< 3) |||
      dev.readf (REG_RX_CP_CURRENT + fastlockOffs tx) 0x3F 0
  | 7 => dev.readf (REG_RX_CP_CURRENT + fastlockOffs tx) 0x3F 0
  | 8 => let x := dev.readf (REG_RX_LOOP_FILTER_3 + fastlockOffs tx) 0xF 0; (x <<< 4) ||| x
  | 9 => let x := dev.readf (REG_RX_LOOP_FILTER_2 + fastlockOffs tx) 0xF 0; (x <<< 4) ||| x
  | 10 => (dev.readf (REG_RX_LOOP_FILTER_1 + fastlockOffs tx) 0xF 0 <<< 4) |||
      dev.readf (REG_RX_LOOP_FILTER_1 + fastlockOffs tx) 0xF0 4
  | 11 => let x := dev.readf (REG_RX_LOOP_FILTER_2 + fastlockOffs tx) 0xF0 4; (x <<< 4) ||| x
  | 12 => (dev.readf (REG_RX_VCO_VARACTOR_CTRL_0 + fastlockOffs tx) 0x70 4 <<< 4) ||| dev.vcoDivider tx
  | 13 => (dev.readf (REG_RX_FORCE_VCO_TUNE_1 + fastlockOffs tx) 0x78 3 <<< 4) |||
      dev.readf (REG_RX_VCO_VARACTOR_CTRL_1 + fastlockOffs tx) 0xF 0
  | 14 => dev.read (REG_RX_FORCE_VCO_TUNE_0 + fastlockOffs tx)
  | _ => (dev.readf (REG_RX_FORCE_ALC + fastlockOffs tx) 0x7F 0 <<< 1) |||
      dev.readf (REG_RX_FORCE_VCO_TUNE_1 + fastlockOffs tx) 0x1 0

end FastlockDevice

structure FastlockEntry where
  flags : UInt8
  alcOrig : UInt8
  alcWritten : UInt8

structure Fastlock where
  dev : FastlockDevice
  entry : Bool → Profile → FastlockEntry
  /-- The profile that is in use, which the source counts from 1 -/
  currentProfile : Bool → Option Profile
  fastlockDelayNs : Bool → UInt32
  trxFastlockPinctrlEn : Bool → Bool

/-- The dividers of a synthesizer. -/
structure RfpllDividers where
  integer : UInt64
  fract : UInt64
  vcoDiv : UInt64
deriving DecidableEq

/-- The dividers in the five bytes from the fraction down, and the one of the VCO. -/
def RfpllDividers.ofBytes (b0 b1 b2 b3 b4 vcoDiv : UInt8) : RfpllDividers where
  fract := ((b0 &&& 0x7F).toUInt64 <<< 16) ||| (b1.toUInt64 <<< 8) ||| b2.toUInt64
  integer := ((b3 &&& 0x7).toUInt64 <<< 8) ||| b4.toUInt64
  vcoDiv := vcoDiv.toUInt64

def calcRfpllIntFreq (parentRate : UInt64) (d : RfpllDividers) : UInt64 :=
  (parentRate * d.fract / RFPLL_MODULUS + parentRate * d.integer) >>> (d.vcoDiv + 1)

namespace Fastlock

def setEntry (phy : Fastlock) (tx : Bool) (profile : Profile) (e : FastlockEntry) : Fastlock :=
  { phy with entry := Function.update phy.entry tx (Function.update (phy.entry tx) profile e) }

def load (phy : Fastlock) (tx : Bool) (profile : Profile) (values : ℕ → UInt8) : Fastlock :=
  { phy with dev := phy.dev.loadWords tx profile values }.setEntry tx profile
    { flags := FASTLOOK_INIT, alcOrig := values 15, alcWritten := values 15 }

def store (phy : Fastlock) (tx : Bool) (profile : Profile) : Fastlock := phy.load tx profile (phy.dev.storeWords tx)

/-- `ad9361_fastlock_prepare` for a profile and for none. -/
def prepare (phy : Fastlock) (tx : Bool) (profile : Option Profile) : Fastlock :=
  let offs := fastlockOffs tx
  let (readyMask, readyShift) := if tx then (TX_SYNTH_READY_MASK, 0) else (RX_SYNTH_READY_MASK, 1)
  match profile, phy.currentProfile tx with
  | some profile, none =>
    let dev := phy.dev.write (REG_RX_FAST_LOCK_SETUP_INIT_DELAY + offs) (phy.fastlockDelayNs tx / 250).toUInt8
    let dev := dev.write (REG_RX_FAST_LOCK_SETUP + offs) (profileSetup profile ||| RX_FAST_LOCK_MODE_ENABLE)
    let dev := dev.write (REG_RX_FAST_LOCK_PROGRAM_CTRL + offs) 0
    let dev := dev.writef REG_ENSM_CONFIG_2 readyMask readyShift 1
    { phy with dev := dev.trxVcoCalControl tx false }
  | none, some _ =>
    let dev := phy.dev.write (REG_RX_FAST_LOCK_SETUP + offs) 0
    let dev := dev.writef (REG_RX_FORCE_ALC + offs) 0x80 7 1
    let dev := dev.writef (REG_RX_FORCE_VCO_TUNE_1 + offs) 0x1 0 1
    let dev := dev.writef (REG_RX_FORCE_ALC + offs) 0x80 7 0
    let dev := dev.writef (REG_RX_FORCE_VCO_TUNE_1 + offs) 0x1 0 0
    let dev := dev.trxVcoCalControl tx true
    { phy with
      dev := dev.writef REG_ENSM_CONFIG_2 readyMask readyShift 0
      currentProfile := Function.update phy.currentProfile tx none }
  | _, _ => phy

/-- The ALC word that the driver takes for the active one. -/
def currAlc (phy : Fastlock) (tx : Bool) : UInt8 :=
  match phy.currentProfile tx with
  | none => phy.dev.readf (REG_RX_FORCE_ALC + fastlockOffs tx) 0x7F 0 <<< 1
  | some profile => (phy.entry tx profile).alcWritten

/-- The workaround for a profile with the ALC word that is active. -/
def changeAlc (phy : Fastlock) (tx : Bool) (profile : Profile) : Fastlock :=
  let e := phy.entry tx profile
  if phy.currAlc tx >>> 1 = e.alcWritten >>> 1 then
    let alcWritten := if e.alcOrig >>> 1 = e.alcWritten >>> 1 then e.alcWritten + 2 else e.alcOrig
    { phy with dev := phy.dev.fastlockWriteval tx profile 0xF alcWritten true }.setEntry tx profile
      { e with alcWritten := alcWritten }
  else phy

def fastlockRecall (phy : Fastlock) (tx : Bool) (profile : Profile) : Int × Fastlock :=
  if (phy.entry tx profile).flags ≠ FASTLOOK_INIT then (-EINVAL, phy)
  else
    let phy := (phy.changeAlc tx profile).prepare tx (some profile)
    (0, { phy with
      dev := phy.dev.write (REG_RX_FAST_LOCK_SETUP + fastlockOffs tx)
        (profileSetup profile ||| (if phy.trxFastlockPinctrlEn tx then RX_FAST_LOCK_PROFILE_PIN_SELECT else 0) |||
          RX_FAST_LOCK_MODE_ENABLE)
      currentProfile := Function.update phy.currentProfile tx (some profile) })

/-- The reads of `n` words from `word` on. -/
def saveFrom (dev : FastlockDevice) (tx : Bool) (profile : Profile) : ℕ → ℕ → List UInt8 × FastlockDevice
  | 0, _ => ([], dev)
  | n + 1, word =>
    let (b, dev) := dev.fastlockReadval tx profile word
    let (bs, dev) := saveFrom dev tx profile n (word + 1)
    (b :: bs, dev)

def save (phy : Fastlock) (tx : Bool) (profile : Profile) : List UInt8 × Fastlock :=
  let (values, dev) := saveFrom phy.dev tx profile RX_FAST_LOCK_CONFIG_WORD_NUM 0
  (values, { phy with dev := dev })

/-- The dividers that `ad9361_rfpll_int_recalc_rate` reads. -/
def readDividers (phy : Fastlock) (tx : Bool) : RfpllDividers × FastlockDevice :=
  match phy.currentProfile tx with
  | some profile =>
    let (b0, dev) := phy.dev.fastlockReadval tx profile 4
    let (b1, dev) := dev.fastlockReadval tx profile 3
    let (b2, dev) := dev.fastlockReadval tx profile 2
    let (b3, dev) := dev.fastlockReadval tx profile 1
    let (b4, dev) := dev.fastlockReadval tx profile 0
    let (vcoDiv, dev) := dev.fastlockReadval tx profile 12
    (.ofBytes b0 b1 b2 b3 b4 (vcoDiv &&& 0xF), dev)
  | none =>
    let reg := REG_RX_FRACT_BYTE_2 + fastlockOffs tx
    (.ofBytes (phy.dev.read reg) (phy.dev.read (reg - 1)) (phy.dev.read (reg - 2)) (phy.dev.read (reg - 3))
      (phy.dev.read (reg - 4)) (phy.dev.vcoDivider tx), phy.dev)

def rfpllIntRecalcRate (phy : Fastlock) (tx : Bool) (parentRate : UInt32) : UInt32 × Fastlock :=
  let (dividers, dev) := phy.readDividers tx
  ((calcRfpllIntFreq parentRate.toUInt64 dividers >>> 1).toUInt32, { phy with dev := dev })

end Fastlock

end NoOS
