import Mathlib.Data.UInt
import NoOS.Errno

/-!
# The transmitters of `axi_jesd204_tx.c`

A register is written without an error, so that a function is given by its return code and its writes. Sums and
shifts of bytes are those of an `int`: less 1, a 0 is all ones, and stays so when it is shifted.
-/

namespace NoOS

/-- The encoders of the transmitters, and those of the receivers. -/
inductive Jesd204Encoder
  | UNKNOWN
  | B8B10
  | B64B66
  | MAX
  deriving DecidableEq

structure Jesd204TxConfig where
  deviceId : UInt8
  bankId : UInt8
  laneId : UInt8
  lanesPerDevice : UInt8
  octetsPerFrame : UInt8
  framesPerMultiframe : UInt8
  convertersPerDevice : UInt8
  resolution : UInt8
  bitsPerSample : UInt8
  samplesPerFrame : UInt8
  jesdVersion : UInt8
  subclassVersion : UInt8
  controlBitsPerSample : UInt8
  version : UInt32
  enableScrambling : Bool
  highDensity : Bool

structure AxiJesd204Tx where
  numLanes : UInt32
  dataPathWidth : UInt32
  tplDataPathWidth : UInt32
  /-- `config.version`, of the core -/
  version : UInt32
  encoder : Jesd204Encoder

/-- The registers that are written, with their values. -/
abbrev RegWrites := List (UInt32 × UInt32)

def JESD204_TX_REG_SYSREF_CONF : UInt32 := 0x100
def JESD204_TX_REG_SYSREF_CONF_SYSREF_DISABLE : UInt32 := 1
def JESD204_TX_REG_CONF0 : UInt32 := 0x210
def JESD204_TX_REG_LINK_CONF4 : UInt32 := 0x21C
def JESD204_TX_REG_ILAS (x y : UInt32) : UInt32 := (x * 32 + y * 4) + 0x310
def ADI_AXI_PCORE_VER (major minor patch : UInt32) : UInt32 := (major <<< 16) ||| (minor <<< 8) ||| patch

/-- A division, `none` by 0. -/
def cDiv (a b : UInt32) : Option UInt32 := if b = 0 then none else some (a / b)
def cMod (a b : UInt32) : Option UInt32 := if b = 0 then none else some (a % b)

/-- A byte less 1, as it is used for many fields. -/
def lessOne (x : UInt8) : UInt32 := x.toUInt32 - 1

def axiJesd204TxCalcIlasChksum (config : Jesd204TxConfig) : UInt32 :=
  let chksum := config.deviceId.toUInt32
  let chksum := chksum + config.bankId.toUInt32
  let chksum := chksum + config.laneId.toUInt32
  let chksum := chksum + lessOne config.lanesPerDevice
  let chksum := chksum + config.enableScrambling.toUInt32
  let chksum := chksum + lessOne config.octetsPerFrame
  let chksum := chksum + lessOne config.framesPerMultiframe
  let chksum := chksum + lessOne config.convertersPerDevice
  let chksum := chksum + config.controlBitsPerSample.toUInt32
  let chksum := chksum + lessOne config.resolution
  let chksum := chksum + lessOne config.bitsPerSample
  let chksum := chksum + config.subclassVersion.toUInt32
  let chksum := chksum + lessOne config.samplesPerFrame
  let chksum := chksum + config.jesdVersion.toUInt32
  let chksum := chksum + config.highDensity.toUInt32
  chksum &&& 0xff

/-- The word `i` of the sequence. -/
def ilasWord (config : Jesd204TxConfig) (i : UInt32) : UInt32 :=
  if i = 0 then
    (config.deviceId.toUInt32 <<< 8) ||| (config.bankId.toUInt32 <<< 24)
  else if i = 1 then
    config.laneId.toUInt32 ||| (lessOne config.lanesPerDevice <<< 8) ||| (config.enableScrambling.toUInt32 <<< 15) |||
      (lessOne config.octetsPerFrame <<< 16) ||| (lessOne config.framesPerMultiframe <<< 24)
  else if i = 2 then
    lessOne config.convertersPerDevice ||| (lessOne config.resolution <<< 8) |||
      (config.controlBitsPerSample.toUInt32 <<< 14) ||| (lessOne config.bitsPerSample <<< 16) |||
      (config.subclassVersion.toUInt32 <<< 21) ||| (lessOne config.samplesPerFrame <<< 24) |||
      (config.jesdVersion.toUInt32 <<< 29)
  else
    (config.highDensity.toUInt32 <<< 7) ||| (axiJesd204TxCalcIlasChksum config <<< 24)

/-- The lane is stored in the configuration before its words are written. -/
def axiJesd204TxSetLaneIlas (config : Jesd204TxConfig) (lane : UInt32) : RegWrites :=
  let config := { config with laneId := lane.toUInt8 }
  [0, 1, 2, 3].map fun i => (JESD204_TX_REG_ILAS lane i, ilasWord config i)

/-- The return code and the writes, `none` if something is divided by 0. -/
def axiJesd204TxApplyConfig (jesd : AxiJesd204Tx) (config : Jesd204TxConfig) : Option (Int × RegWrites) :=
  let octetsPerMultiframe := config.framesPerMultiframe.toUInt32 * config.octetsPerFrame.toUInt32
  let multiframeAlign := jesd.dataPathWidth
  if jesd.encoder = .B64B66 ∧ octetsPerMultiframe % 256 ≠ 0 then some (FAILURE, [])
  else (cMod octetsPerMultiframe multiframeAlign).bind fun rest =>
    if rest ≠ 0 then some (FAILURE, [])
    else
      let val := (octetsPerMultiframe - 1 : UInt32) ||| (lessOne config.octetsPerFrame <<< 16)
      let sysref := if config.subclassVersion = 0 then
        [(JESD204_TX_REG_SYSREF_CONF, JESD204_TX_REG_SYSREF_CONF_SYSREF_DISABLE)] else []
      let beats := if jesd.version ≥ ADI_AXI_PCORE_VER 1 6 97 then
          (cDiv octetsPerMultiframe jesd.tplDataPathWidth).map fun q : UInt32 => [(JESD204_TX_REG_LINK_CONF4, q - 1)]
        else some []
      let ilas := if jesd.encoder = .B8B10 then
        (List.range jesd.numLanes.toNat).flatMap fun lane => axiJesd204TxSetLaneIlas config (UInt32.ofNat lane) else []
      beats.map fun beats => (SUCCESS, sysref ++ (JESD204_TX_REG_CONF0, val) :: beats ++ ilas)

end NoOS

/-!
## The receivers of `axi_jesd204_rx.c`
-/

namespace NoOS

structure Jesd204RxConfig where
  octetsPerFrame : UInt8
  framesPerMultiframe : UInt8
  subclassVersion : UInt8

structure AxiJesd204Rx where
  version : UInt32
  dataPathWidth : UInt32
  tplDataPathWidth : UInt32
  encoder : Jesd204Encoder

def JESD204_RX_REG_SYSREF_CONF : UInt32 := 0x100
def JESD204_RX_REG_SYSREF_CONF_SYSREF_DISABLE : UInt32 := 1
def JESD204_RX_REG_LINK_CONF0 : UInt32 := 0x210
def JESD204_RX_REG_LINK_CONF4 : UInt32 := 0x21C
def JESD204_RX_REG_LINK_CONF2 : UInt32 := 0x240
def JESD204_RX_LINK_CONF2_BUFFER_EARLY_RELEASE : UInt32 := 0x10000

/-- What is printed of the sequence that a lane has received. -/
@[ext] structure LaneInfo where
  DID : UInt32
  BID : UInt32
  LID : UInt32
  L : UInt32
  SCR : UInt32
  F : UInt32
  K : UInt32
  M : UInt32
  N : UInt32
  CS : UInt32
  N' : UInt32
  S : UInt32
  HD : UInt32
  FCHK : UInt32
  CF : UInt32
  ADJCNT : UInt32
  PHADJ : UInt32
  ADJDIR : UInt32
  JESDV : UInt32
  SUBCLASS : UInt32
  deriving DecidableEq

/-- The part of `axi_jesd204_rx_laneinfo_8b10b_read` after the state of the lane, on the words it has read. -/
def axiJesd204RxLaneinfo8b10bRead (val : UInt32 → UInt32) : LaneInfo where
  DID := (val 0 >>> 16) &&& 0xff
  BID := (val 0 >>> 24) &&& 0xf
  LID := (val 1 >>> 0) &&& 0x1f
  L := ((val 1 >>> 8) &&& 0x1f) + 1
  SCR := (val 1 >>> 15) &&& 0x1
  F := ((val 1 >>> 16) &&& 0xff) + 1
  K := ((val 1 >>> 24) &&& 0x1f) + 1
  M := ((val 2 >>> 0) &&& 0xff) + 1
  N := ((val 2 >>> 8) &&& 0x1f) + 1
  CS := (val 2 >>> 14) &&& 0x3
  N' := ((val 2 >>> 16) &&& 0x1f) + 1
  S := ((val 2 >>> 24) &&& 0x1f) + 1
  HD := (val 3 >>> 7) &&& 0x1
  FCHK := (val 3 >>> 24) &&& 0xff
  CF := (val 3 >>> 0) &&& 0x1f
  ADJCNT := (val 0 >>> 28) &&& 0xff
  PHADJ := (val 1 >>> 5) &&& 0x1
  ADJDIR := (val 1 >>> 6) &&& 0x1
  JESDV := (val 2 >>> 29) &&& 0x7
  SUBCLASS := (val 2 >>> 21) &&& 0x7

def axiJesd204RxApplyConfig (jesd : AxiJesd204Rx) (config : Jesd204RxConfig) : Option (Int × RegWrites) :=
  let octetsPerMultiframe := config.framesPerMultiframe.toUInt32 * config.octetsPerFrame.toUInt32
  let multiframeAlign := jesd.dataPathWidth
  if jesd.encoder = .B64B66 ∧ octetsPerMultiframe % 256 ≠ 0 then some (FAILURE, [])
  else (cMod octetsPerMultiframe multiframeAlign).bind fun rest =>
    if rest ≠ 0 then some (FAILURE, [])
    else
      let val := (octetsPerMultiframe - 1 : UInt32) ||| (lessOne config.octetsPerFrame <<< 16)
      let beats := if jesd.version ≥ ADI_AXI_PCORE_VER 1 7 97 then
          (cDiv octetsPerMultiframe jesd.tplDataPathWidth).map fun q : UInt32 => [(JESD204_RX_REG_LINK_CONF4, q - 1)]
        else some []
      let subclass := if config.subclassVersion = 0 then
        [(JESD204_RX_REG_SYSREF_CONF, JESD204_RX_REG_SYSREF_CONF_SYSREF_DISABLE),
          (JESD204_RX_REG_LINK_CONF2, JESD204_RX_LINK_CONF2_BUFFER_EARLY_RELEASE)] else []
      beats.map fun beats => (SUCCESS, (JESD204_RX_REG_LINK_CONF0, val) :: beats ++ subclass)

end NoOS
