import Mathlib.Data.Fintype.Pi
import NoOS.Errno
import NoOS.Util.CircularBuffer

/-!
# AT parser

Translation of the interrupt side of `network/wifi/at_parser.c`, and of what
`at_run_cmd` changes in the descriptor while the interrupts go on. A fault is an access that
C leaves undefined: an index outside of its array, or the use of an unset variable.
-/

namespace NoOS

inductive AtFault
  /-- `conn[id]` with no such connection -/
  | connIndex
  /-- `msg->buff[idx]` past the NUL of the message -/
  | messageIndex
  /-- `result.buff[i]` past the end of the buffer -/
  | resultIndex
  /-- `buff` and `available_len` in `start_conn_read`, after `cb_prepare_async_write` failed -/
  | unset
  /-- a circular buffer that does not exist -/
  | dangling
deriving DecidableEq, Repr

def MAX_CONNECTIONS : ℕ := 4
def RESULT_BUFF_LEN : ℕ := 500
def AT_ERROR_UART : UInt32 := 0x4
def AT_ERROR_INTERNAL_BUFFER_OVERFLOW : UInt32 := 0x10

/-- `struct circular_buffer *`, where it is not NULL. -/
abbrev CbRef := ℕ

structure ConnectionDesc where
  cbuff : Option CbRef := none
  /-- Pending bytes for reading -/
  toRead : UInt32 := 0
  active : Bool := false
deriving DecidableEq, Repr

inductive CallbackOperation
  | readingResponses
  | readingPayload
  | resettingModule
  | waitingSend
deriving DecidableEq, Repr

inductive IpdStat
  | notMatch
  | raedingConn
  | waitingComma
  | readingLen
deriving DecidableEq, Repr

structure AtBuff where
  buff : List UInt8 := List.replicate RESULT_BUFF_LEN 0
  len : UInt32 := 0
deriving DecidableEq, Repr

structure AtDesc where
  conn : Fin MAX_CONNECTIONS → ConnectionDesc := fun _ => {}
  /-- Id of active connection or -1 if non is active -/
  currentConn : Int := 0
  multipleConections : Bool := false
  result : AtBuff := {}
  readCh : UInt8 := 0
  errors : UInt32 := 0
  isWifiConnected : Bool := false
  callbackOperation : CallbackOperation := .readingResponses
  readyIdx : UInt8 := 0
  asyncIdx : List UInt8 := [0, 0, 0]
  respIdx : List UInt8 := [0, 0, 0, 0]
  ipdIdx : UInt8 := 0
  ipdStat : IpdStat := .notMatch
  ipdLen : UInt32 := 0
deriving DecidableEq

/-- `"\r\n+IPD,"` -/
def atIpd : List UInt8 := [13, 10, 43, 73, 80, 68, 44]

/-- `"CLOSED\r\n"` -/
def closedMsg : List UInt8 := [67, 76, 79, 83, 69, 68, 13, 10]

/-- `"WIFI DISCONNECT\r\n"` -/
def wifiDisconnectMsg : List UInt8 :=
  [87, 73, 70, 73, 32, 68, 73, 83, 67, 79, 78, 78, 69, 67, 84, 13, 10]

/-- `"WIFI GOT IP\r\n"` -/
def wifiGotIpMsg : List UInt8 := [87, 73, 70, 73, 32, 71, 79, 84, 32, 73, 80, 13, 10]

def asyncMsgs : List (List UInt8) := [closedMsg, wifiDisconnectMsg, wifiGotIpMsg]

/-- `"ready\r\n"` -/
def readyMsg : List UInt8 := [114, 101, 97, 100, 121, 13, 10]

/-- `"\r\nERROR\r\n"`, `"\r\nFAIL\r\n"`, `"\r\nOK\r\n"` and `"\r\nSEND OK\r\n"` -/
def responses : List (List UInt8) :=
  [[13, 10, 69, 82, 82, 79, 82, 13, 10], [13, 10, 70, 65, 73, 76, 13, 10],
    [13, 10, 79, 75, 13, 10], [13, 10, 83, 69, 78, 68, 32, 79, 75, 13, 10]]

/-- Increment idx if current ch match in msg[idx] and return true if idx == len. The message
is a string literal, so its byte at `len` is NUL. -/
def matchMessage (msg : List UInt8) (idx ch : UInt8) : Except AtFault (Bool × UInt8) :=
  match (msg ++ [0])[idx.toNat]? with
  | none => .error .messageIndex
  | some c =>
    if ch = c then .ok (decide ((idx + 1).toNat = msg.length), idx + 1)
    else if msg.head? = some ch then .ok (false, 1)
    else .ok (false, 0)

/-- The loops over the messages of a table, which end at the first match. -/
def matchFirst : List (List UInt8) → List UInt8 → UInt8 → Except AtFault (Option ℕ × List UInt8)
  | msg :: msgs, idx :: idxs, ch =>
    match matchMessage msg idx ch with
    | .error f => .error f
    | .ok (true, idx) => .ok (some 0, idx :: idxs)
    | .ok (false, idx) =>
      match matchFirst msgs idxs ch with
      | .error f => .error f
      | .ok (i, idxs) => .ok (i.map (· + 1), idx :: idxs)
  | _, idxs, _ => .ok (none, idxs)

/-- The index of `conn[id]`. -/
def connIndex (id : Int) : Except AtFault (Fin MAX_CONNECTIONS) :=
  if h : 0 ≤ id ∧ id < 4 then .ok ⟨id.toNat, by unfold MAX_CONNECTIONS; lia⟩
  else .error .connIndex

namespace AtDesc

def resetIpd (desc : AtDesc) : AtDesc :=
  { desc with ipdIdx := 0, ipdLen := 0, ipdStat := .notMatch }

def setResultLen (desc : AtDesc) (len : UInt32) : AtDesc :=
  { desc with result := { desc.result with len := len } }

def setConn (desc : AtDesc) (id : Fin MAX_CONNECTIONS) (conn : ConnectionDesc) : AtDesc :=
  { desc with conn := Function.update desc.conn id conn }

/-- `result.buff[result.len++] = ch` -/
def append (desc : AtDesc) (ch : UInt8) : Except AtFault AtDesc :=
  if desc.result.len.toNat < RESULT_BUFF_LEN then
    .ok { desc with result := {
      buff := desc.result.buff.set desc.result.len.toNat ch
      len := desc.result.len + 1 } }
  else .error .resultIndex

end AtDesc

/-- Check if new payload message have been received and set the payload size in to_read if
so. -/
def isPayloadMessage (desc : AtDesc) (ch : UInt8) : Except AtFault (Bool × AtDesc) :=
  if desc.ipdIdx < 7 then
    match matchMessage atIpd desc.ipdIdx ch with
    | .error f => .error f
    | .ok (true, idx) =>
      .ok (false, { desc with
        ipdIdx := idx
        ipdStat := if desc.multipleConections then .raedingConn else .readingLen })
    | .ok (false, idx) => .ok (false, { desc with ipdIdx := idx })
  else
    match desc.ipdStat with
    | .raedingConn =>
      -- '0' to '4'
      if ch < 48 ∨ ch > 52 then .ok (false, desc.resetIpd)
      else
        .ok (false, { desc with
          currentConn := (ch.toNat : Int) - 48
          ipdStat := .waitingComma
          ipdIdx := desc.ipdIdx + 1 })
    | .waitingComma =>
      if ch ≠ 44 then .ok (false, desc.resetIpd)
      else .ok (false, { desc with ipdStat := .readingLen, ipdIdx := desc.ipdIdx + 1 })
    | .readingLen =>
      -- '0' to '9', then ':'
      if ch < 48 ∨ ch > 57 then
        if ch = 58 ∧ desc.ipdLen > 0 then
          match connIndex desc.currentConn with
          | .error f => .error f
          | .ok id =>
            let desc := desc.setConn id { desc.conn id with toRead := desc.ipdLen }
            .ok (true, (desc.setResultLen (desc.result.len - desc.ipdIdx.toUInt32)).resetIpd)
        else .ok (false, desc.resetIpd)
      else
        .ok (false, { desc with
          ipdLen := desc.ipdLen * 10 + (ch.toUInt32 - 48)
          ipdIdx := desc.ipdIdx + 1 })
    | .notMatch => .ok (false, desc.resetIpd)

/-- The id of the closed connection, or -1: in multiple mode it is read, and then removed, in
front of the message. -/
def closedConnId (desc : AtDesc) : Except AtFault (Int × AtDesc) :=
  if desc.multipleConections then
    let j := desc.result.len - 2
    if j.toInt32 < 0 then .ok (-1, desc)
    else
      match desc.result.buff[j.toNat]? with
      | none => .error .resultIndex
      | some c =>
        -- '0' to '3'
        if 48 ≤ c ∧ c ≤ 51 then .ok ((c.toNat : Int) - 48, desc.setResultLen j)
        else .ok (-1, desc)
  else .ok (0, desc)

def checkConnId (desc : AtDesc) (msg : List UInt8) (msgIdx : ℕ) : Except AtFault (Bool × AtDesc) :=
  -- Get the connection number of the closed connection
  let desc := desc.setResultLen (desc.result.len - (UInt32.ofNat msg.length - 1))
  match closedConnId desc with
  | .error f => .error f
  | .ok (id, desc) =>
    if 0 ≤ id ∧ id < 4 then
      match connIndex id with
      | .error f => .error f
      | .ok i =>
        .ok (true, { desc.setConn i { desc.conn i with active := false, cbuff := none } with
          currentConn := id })
    else .ok (false, { desc with asyncIdx := desc.asyncIdx.set msgIdx 0 })

/-- Check if an asynchronous messages was sent by the module and update desc -/
def isAsyncMessages (desc : AtDesc) (ch : UInt8) : Except AtFault (Bool × AtDesc) :=
  match matchFirst asyncMsgs desc.asyncIdx ch with
  | .error f => .error f
  | .ok (i, idxs) =>
    let desc := { desc with asyncIdx := idxs }
    match i with
    | some 0 =>
      match checkConnId desc closedMsg 0 with
      | .error f => .error f
      | .ok (true, desc) => .ok (false, desc)
      | .ok (false, desc) => .ok (true, { desc with asyncIdx := [0, 0, 0] })
    | some 1 => .ok (true, { desc with isWifiConnected := false, asyncIdx := [0, 0, 0] })
    | some 2 => .ok (true, { desc with isWifiConnected := true, asyncIdx := [0, 0, 0] })
    | _ => .ok (false, desc)

/-- Where a pending `uart_read_nonblocking` stores. -/
inductive UartDst
  | readCh
  | circular (cbuff : CbRef) (off : UInt32)
deriving DecidableEq, Repr

/-- The local variables of `wait_for_response`; `hit` is the `j` of a match. -/
structure WaitForResponse where
  i : UInt32 := 0
  hit : Option ℕ := none
deriving DecidableEq, Repr

/-- The parser, its pending UART read, the circular buffers of the application and the command
thread. -/
structure AtSystem where
  desc : AtDesc := {}
  uartDst : UartDst := .readCh
  uartLen : UInt32 := 1
  cbs : List CircularBuffer := []
  wait : Option WaitForResponse := none
deriving DecidableEq

def uartReadNonblocking (s : AtSystem) (dst : UartDst) (len : UInt32) : AtSystem :=
  { s with uartDst := dst, uartLen := len }

/-- Mark the circular buffer transaction as ended -/
def endConnRead (s : AtSystem) : Except AtFault AtSystem :=
  match connIndex s.desc.currentConn with
  | .error f => .error f
  | .ok id =>
    match (s.desc.conn id).cbuff with
    | none => .ok s
    | some r =>
      match s.cbs[r]? with
      | none => .error .dangling
      | some cb => .ok { s with cbs := s.cbs.set r (cbEndAsyncWrite cb).2 }

/-- Data from uart is discarded because an error occured or there is no buffer available -/
def dummyRead (s : AtSystem) (id : Fin MAX_CONNECTIONS) (conn : ConnectionDesc) : AtSystem :=
  { uartReadNonblocking s .readCh 1 with
    desc := s.desc.setConn id { conn with toRead := conn.toRead - 1 } }

/-- Notify that a new connection has started; `newCb` is what the application stores in
`*cb`. -/
def notifyConnection (conn : ConnectionDesc) (isNewMessage : Bool) (newCb : Option CbRef) :
    ConnectionDesc :=
  if isNewMessage ∧ ¬conn.active then { conn with cbuff := newCb, active := newCb.isSome } else conn

/-- Start new read operation -/
def startConnRead (s : AtSystem) (isNewMessage : Bool) (newCb : Option CbRef) :
    Except AtFault AtSystem :=
  match connIndex s.desc.currentConn with
  | .error f => .error f
  | .ok id =>
    let conn := notifyConnection (s.desc.conn id) isNewMessage newCb
    match conn.cbuff with
    | none => .ok (dummyRead s id conn)
    | some r =>
      match s.cbs[r]? with
      | none => .error .dangling
      | some cb =>
        let p := cbPrepareAsyncWrite cb conn.toRead
        if isErrValueU32 p.ret then .ok (dummyRead s id conn)
        else
          match p.region with
          | none => .error .unset
          | some (off, availableLen) =>
            .ok { uartReadNonblocking s (.circular r off) availableLen with
              desc := s.desc.setConn id { conn with toRead := conn.toRead - availableLen }
              cbs := s.cbs.set r p.desc }

inductive UartIrq
  | readDone
  | error
deriving DecidableEq, Repr

/-- The end of `at_callback`: submit buffer to read the next char. -/
def readNextChar (s : AtSystem) (desc : AtDesc) : AtSystem :=
  uartReadNonblocking { s with desc := desc } .readCh 1

/-- `IRQ_READ_DONE` while the responses of the module are read. -/
def readingResponses (s : AtSystem) (newCb : Option CbRef) : Except AtFault AtSystem :=
  match isPayloadMessage s.desc s.desc.readCh with
  | .error f => .error f
  | .ok (true, desc) =>
    startConnRead { s with desc := { desc with callbackOperation := .readingPayload } } true newCb
  | .ok (false, desc) =>
    -- '>'
    if desc.readCh = 62 ∧ desc.callbackOperation = .waitingSend then
      .ok (readNextChar s { desc with callbackOperation := .readingResponses })
    else if desc.result.len.toNat ≥ RESULT_BUFF_LEN then
      .ok (readNextChar s ({ desc with
        errors := desc.errors ||| AT_ERROR_INTERNAL_BUFFER_OVERFLOW }.setResultLen 0))
    else
      match isAsyncMessages desc desc.readCh with
      | .error f => .error f
      | .ok (true, desc) => .ok (readNextChar s desc)
      | .ok (false, desc) =>
        match desc.append desc.readCh with
        | .error f => .error f
        | .ok desc => .ok (readNextChar s desc)

/-- `IRQ_READ_DONE` while a payload is received. -/
def readingPayload (s : AtSystem) : Except AtFault AtSystem :=
  match endConnRead s with
  | .error f => .error f
  | .ok s =>
    match connIndex s.desc.currentConn with
    | .error f => .error f
    | .ok id =>
      if (s.desc.conn id).toRead = 0 then
        .ok (readNextChar s { s.desc with callbackOperation := .readingResponses, currentConn := -1 })
      else startConnRead s false none

def resettingModule (s : AtSystem) : Except AtFault AtSystem :=
  match matchMessage readyMsg s.desc.readyIdx s.desc.readCh with
  | .error f => .error f
  | .ok (hit, idx) =>
    .ok (readNextChar s { s.desc with
      readyIdx := idx
      callbackOperation := if hit then .readingResponses else s.desc.callbackOperation })

/-- Handle the uart events -/
def atCallback (s : AtSystem) (event : UartIrq) (newCb : Option CbRef) : Except AtFault AtSystem :=
  match event with
  | .readDone =>
    match s.desc.callbackOperation with
    | .resettingModule => resettingModule s
    | .waitingSend | .readingResponses => readingResponses s newCb
    | .readingPayload => readingPayload s
  | .error =>
    .ok (readNextChar s { s.desc with
      errors :=
        if s.desc.callbackOperation ≠ .resettingModule then s.desc.errors ||| AT_ERROR_UART
        else s.desc.errors })

/-- The UART stores the next byte of the module for the pending read. -/
def uartStore (s : AtSystem) (ch : UInt8) : AtSystem :=
  match s.uartDst with
  | .readCh => { s with uartLen := s.uartLen - 1, desc := { s.desc with readCh := ch } }
  | .circular r off =>
    { s with
      uartLen := s.uartLen - 1
      uartDst := .circular r (off + 1)
      cbs := s.cbs.modify r fun cb => cb.store off.toNat [ch] }

/-- A byte from the module; the last one of the pending read raises the interrupt. -/
def uartReceive (s : AtSystem) (ch : UInt8) (newCb : Option CbRef) : Except AtFault AtSystem :=
  if (uartStore s ch).uartLen = 0 then atCallback (uartStore s ch) .readDone newCb
  else .ok (uartStore s ch)

/-- One iteration of the loop of `wait_for_response`. -/
def pollResponse (s : AtSystem) (w : WaitForResponse) : Except AtFault AtSystem :=
  if w.i < s.desc.result.len then
    match s.desc.result.buff[w.i.toNat]? with
    | none => .error .resultIndex
    | some ch =>
      match matchFirst responses s.desc.respIdx ch with
      | .error f => .error f
      | .ok (hit, idxs) =>
        .ok { s with desc := { s.desc with respIdx := idxs }, wait := some ⟨w.i + 1, hit⟩ }
  else .ok s

/-- The end of `wait_for_response`: after a match, the response is cut off the result. -/
def endResponse (s : AtSystem) (w : WaitForResponse) : AtSystem :=
  let cut := (w.hit.map fun j => s.desc.respIdx.getD j 0).getD 0
  { s with
    desc := { s.desc.setResultLen (s.desc.result.len - cut.toUInt32) with respIdx := [0, 0, 0, 0] }
    wait := none }

inductive AtEvent
  /-- A byte from the module -/
  | receive (ch : UInt8) (newCb : Option CbRef)
  /-- `IRQ_ERROR` -/
  | uartError
  /-- `multiple_conections = conn_type` -/
  | setMultiple (conections : Bool)
  /-- `callback_operation = RESETTING_MODULE` -/
  | resetModule
  /-- `callback_operation = READING_PAYLOAD`, at the end of the reset -/
  | resetDone
  /-- `callback_operation = WAITING_SEND` -/
  | waitSend
  /-- `result.len = 0` -/
  | clearResult
  /-- `errors = 0` -/
  | clearErrors
  | startWait
  | pollWait
  | endWait
deriving DecidableEq, Repr

def AtSystem.step (s : AtSystem) : AtEvent → Except AtFault AtSystem
  | .receive ch newCb => uartReceive s ch newCb
  | .uartError => atCallback s .error none
  | .setMultiple b => .ok { s with desc := { s.desc with multipleConections := b } }
  | .resetModule => .ok { s with desc := { s.desc with callbackOperation := .resettingModule } }
  | .resetDone => .ok { s with desc := { s.desc with callbackOperation := .readingPayload } }
  | .waitSend => .ok { s with desc := { s.desc with callbackOperation := .waitingSend } }
  | .clearResult => .ok { s with desc := s.desc.setResultLen 0 }
  | .clearErrors => .ok { s with desc := { s.desc with errors := 0 } }
  | .startWait => .ok (if s.wait.isNone then { s with wait := some {} } else s)
  | .pollWait =>
    match s.wait with
    | some ⟨i, none⟩ => pollResponse s ⟨i, none⟩
    | _ => .ok s
  | .endWait =>
    match s.wait with
    | some w => .ok (endResponse s w)
    | none => .ok s

/-- Bytes that the application answers with no buffer for a new connection. -/
def receives (chs : List UInt8) : List AtEvent := chs.map fun ch => .receive ch none

end NoOS
