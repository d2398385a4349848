import NoOS.Errno
import NoOS.Lib.BitField
import NoOS.Lib.Word
import Mathlib.Data.Int.Bitwise
import Mathlib.Data.List.Range

/-!
# The attenuation of the transmitters of the AD9361

`ad9361_tx_mute` and the tunings of the digital interface that use it. Of a tuning the calls are left out that touch
neither the attenuation nor the way through the code: the modes of the state machine, the delays and the registers
of the AXI core. The transfers succeed.
-/

namespace NoOS

def MAX_TX_ATTENUATION_DB : UInt32 := 89750

def BE_VERBOSE : UInt32 := 1
def SKIP_STORE_RESULT : UInt32 := 16
def RESTORE_DEFAULT : UInt32 := 32

/-- The registers from `REG_TX1_ATTEN_1` and from `REG_TX2_ATTEN_1` on, and the saved values of the driver. -/
structure TxAtten where
  tx1 : UInt8 × UInt8
  tx2 : UInt8 × UInt8
  immediatelyUpdateTpcAtten : Bool
  tx1AttenCached : UInt32
  tx2AttenCached : UInt32
deriving DecidableEq

namespace TxAtten

def setTxAtten (phy : TxAtten) (attenMdb : UInt32) (tx1 tx2 immed : Bool) : Int × TxAtten :=
  if attenMdb > MAX_TX_ATTENUATION_DB then (-EINVAL, phy)
  else
    let attenMdb := attenMdb / 250
    let buf := ((attenMdb >>> 8).toUInt8, (attenMdb &&& 0xFF).toUInt8)
    (0, { phy with
      tx1 := if tx1 then buf else phy.tx1
      tx2 := if tx2 then buf else phy.tx2
      immediatelyUpdateTpcAtten := immed })

def getTxAtten (phy : TxAtten) (txNum : UInt32) : UInt32 :=
  let buf := if txNum = 1 then phy.tx1 else phy.tx2
  ((buf.1.toUInt32 <<< 8) ||| buf.2.toUInt32) * 250

def txMute (phy : TxAtten) (state : UInt32) : Int × TxAtten :=
  if state ≠ 0 then
    let phy := { phy with tx1AttenCached := phy.getTxAtten 1, tx2AttenCached := phy.getTxAtten 2 }
    phy.setTxAtten 89750 true true true
  else if phy.tx1AttenCached = phy.tx2AttenCached then phy.setTxAtten phy.tx1AttenCached true true true
  else
    let (ret, phy) := phy.setTxAtten phy.tx1AttenCached true false true
    let (ret', phy) := phy.setTxAtten phy.tx2AttenCached false true true
    (Int.lor ret ret', phy)

end TxAtten

structure FindOpt where
  start : Int
  cnt : ℕ
  maxCnt : ℕ
  maxStart : Int

namespace FindOpt

def first : FindOpt := ⟨-1, 0, 0, 0⟩

/-- The end of a run of zeros. -/
def close (s : FindOpt) : FindOpt := if s.cnt > s.maxCnt then { s with maxCnt := s.cnt, maxStart := s.start } else s

def next (field : ℕ → UInt8) (s : FindOpt) (i : ℕ) : FindOpt :=
  if field i = 0 then { s with start := if s.start = -1 then i else s.start, cnt := s.cnt + 1 }
  else { s.close with start := -1, cnt := 0 }

end FindOpt

/-- The length and the start of the longest run of zeros. -/
def findOpt (field : ℕ → UInt8) (size : ℕ) : ℕ × Int :=
  let s := ((List.range size).foldl (FindOpt.next field) FindOpt.first).close
  (s.maxCnt, s.maxStart)

/-- The results of the PN checks by the row and by the delay in it. -/
abbrev PnField := ℕ → ℕ → UInt8

/-- What a tuning finds in `phy` and in its platform data. -/
structure TuneSetup where
  adcConv : Bool
  digInterfaceTuneSkipmode : UInt8
  digInterfaceTuneFirDisable : Bool
  bypassTxFir : Bool
  bypassRxFir : Bool

/-- What the hardware answers to a tuning: the PN checks by direction and rate, and whether the clocks of the rate
are set. The tuning at the end of a set clock chain has PN checks of its own. -/
structure TuneAnswers where
  checkPn : Bool → ℕ → PnField
  clockChain : Bool → ℕ → Option (Bool → PnField)

namespace TxAtten

/-- The rounds over the rates, with the clock chain as an argument. -/
def digTuneDelay (phy : TxAtten) (setTrxClockChainFreq : ℕ → TxAtten → TxAtten) (checkPn : ℕ → PnField)
    (maxFreq : UInt32) : Int × TxAtten :=
  let round := fun (s : TxAtten × PnField) r =>
    (if maxFreq ≠ 0 then setTrxClockChainFreq r s.1 else s.1, fun i j => s.2 i j ||| checkPn r i j)
  let (phy, field) := (List.range (if maxFreq ≠ 0 then 3 else 1)).foldl round (phy, fun _ _ => 0)
  let c0 := (findOpt (field 0) 16).1
  let c1 := (findOpt (field 1) 16).1
  (if c0 = 0 ∧ c1 = 0 then - EIO else 0, phy)

/-- `ad9361_dig_tune` with the clock chain as an argument, for both directions. -/
def digTuneWith (setTrxClockChainFreq : Bool → ℕ → TxAtten → TxAtten) (setup : TuneSetup)
    (checkPn : Bool → ℕ → PnField) (maxFreq flags : UInt32) (phy : TxAtten) : Int × TxAtten :=
  if setup.adcConv = false then (-ENODEV, phy)
  else if setup.digInterfaceTuneSkipmode = 2 ∨ flags &&& RESTORE_DEFAULT ≠ 0 then (0, (phy.txMute 0).2)
  else
    let phy := (phy.txMute 1).2
    let (ret, phy) := phy.digTuneDelay (setTrxClockChainFreq false) (checkPn false) maxFreq
    let (ret, phy) :=
      if ret = 0 ∧ setup.digInterfaceTuneSkipmode = 0 then
        phy.digTuneDelay (setTrxClockChainFreq true) (checkPn true) maxFreq
      else (ret, phy)
    (if maxFreq = 0 then 0 else ret, (phy.txMute 0).2)

/-- The tuning at the end of `ad9361_set_trx_clock_chain`, which comes without a maximum and so sets no clocks. -/
def setTrxClockChainFreq (setup : TuneSetup) (chain : Option (Bool → PnField)) (phy : TxAtten) : TxAtten :=
  match chain with
  | none => phy
  | some checkPn =>
    if setup.digInterfaceTuneFirDisable = false ∧ ¬(setup.bypassTxFir ∧ setup.bypassRxFir) then
      (digTuneWith (fun _ _ => id) setup (fun tx _ => checkPn tx) 0 SKIP_STORE_RESULT phy).2
    else phy

def digTune (phy : TxAtten) (setup : TuneSetup) (answers : TuneAnswers) (maxFreq flags : UInt32) : Int × TxAtten :=
  digTuneWith (fun tx r => setTrxClockChainFreq setup (answers.clockChain tx r)) setup answers.checkPn maxFreq flags phy

def digInterfaceTimingAnalysis (phy : TxAtten) : TxAtten := ((phy.txMute 1).2.txMute 0).2

end TxAtten

end NoOS
