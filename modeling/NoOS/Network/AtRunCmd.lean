import NoOS.Lib.Loops
import NoOS.Network.AtCommand
import NoOS.Network.AtParserStep

/-!
# Running an AT command

Translation of `wait_for_response`, `send_cmd`, `handle_special` and `at_run_cmd` in
`network/wifi/at_parser.c`. The interrupts of the UART arrive while the command thread waits in
`mdelay` or in `uart_write`, and between the statements that use the result.
-/

namespace NoOS

def MODULE_TIMEOUT : ℕ := 20000

/-- An interrupt of the UART. -/
inductive AtIrq
  | receive (ch : UInt8) (newCb : Option CbRef)
  | error
deriving DecidableEq, Repr

def AtIrq.event : AtIrq → AtEvent
  | .receive ch newCb => .receive ch newCb
  | .error => .uartError

/-- The interrupts of a wait outside of its delays: in front of the cut and behind it. -/
structure WaitIrqs where
  cut : List AtIrq := []
  done : List AtIrq := []

/-- The interrupts of a command outside of its delays: in its waits, and in front of the copy of the
result, of its length, of clearing it, and of the errors. -/
structure CallIrqs where
  header : WaitIrqs := {}
  wait : WaitIrqs := {}
  copy : List AtIrq := []
  length : List AtIrq := []
  clear : List AtIrq := []
  errors : List AtIrq := []

/-- What is undefined in C: a fault of the callback or of its data, a connection id of the
caller without a connection, and a NULL parameter that is read. -/
inductive AtRunFault
  | callback (fault : AtFault)
  | connId
  | nullParam
deriving DecidableEq, Repr

/-- The parser with what belongs to the command thread. The interrupts of each delay to come
are given; none arrive after them. The last two fields are not in the code: whether the '>' for
AT_SEND has been read, and the bytes that have been received. -/
structure AtDriver where
  sys : AtSystem := {}
  /-- Type of connection -/
  connType : Fin MAX_CONNECTIONS → SocketType := fun _ => .socketTcp
  cmd : List UInt8 := []
  appResultBuff : List UInt8 := []
  /-- The length of the last output -/
  outLen : UInt32 := 0
  arrivals : List (List AtIrq) := []
  /-- The calls of `uart_write` -/
  written : List (List UInt8) := []
  prompted : Bool := false
  received : List UInt8 := []

abbrev AtRunResult := Except AtRunFault (ℤ × AtDriver)

namespace AtDriver

def desc (d : AtDriver) : AtDesc := d.sys.desc

/-- A step of the parser; a '>' of an earlier AT_SEND does not count. -/
def step (d : AtDriver) (e : AtEvent) : Except AtRunFault AtDriver :=
  match d.sys.step e with
  | .error f => .error (.callback f)
  | .ok sys => .ok { d with sys := sys, prompted := if e = .waitSend then false else d.prompted }

def interrupt (d : AtDriver) (irq : AtIrq) : Except AtRunFault AtDriver :=
  match d.step irq.event with
  | .error f => .error f
  | .ok d' =>
    .ok { d' with
      prompted := d.prompted || (d.desc.callbackOperation = .waitingSend &&
        d'.desc.callbackOperation = .readingResponses)
      received :=
        match irq with
        | .receive ch _ => d.received ++ [ch]
        | .error => d.received }

def interrupts (d : AtDriver) : List AtIrq → Except AtRunFault AtDriver
  | [] => .ok d
  | irq :: irqs =>
    match d.interrupt irq with
    | .error f => .error f
    | .ok d => interrupts d irqs

/-- `mdelay(1)` -/
def mdelay (d : AtDriver) : Except AtRunFault AtDriver :=
  match d.arrivals with
  | [] => .ok d
  | irqs :: arrivals => interrupts { d with arrivals := arrivals } irqs

def uartWrite (d : AtDriver) (data : List UInt8) : Except AtRunFault AtDriver :=
  mdelay { d with written := d.written ++ [data] }

/-- The loop of `wait_for_response`; the result is the index of the response. -/
def pollResponses : ℕ → AtDriver → Except AtRunFault (Option ℕ × AtDriver)
  | 0, d => .ok (none, d)
  | timeout + 1, d => do
    let d ← d.step .pollWait
    match d.sys.wait.bind WaitForResponse.hit with
    | some j => .ok (some j, d)
    | none =>
      let d ← d.mdelay
      pollResponses timeout d

/-- Wait the response for the last command for MODULE_TIMEOUT milliseconds -/
def waitForResponse (d : AtDriver) (late : WaitIrqs := {}) : AtRunResult := do
  let d ← d.step .startWait
  let (hit, d) ← pollResponses MODULE_TIMEOUT d
  let d ← d.interrupts late.cut
  let d ← d.step .endWait
  let d ← d.interrupts late.done
  match hit with
  | some 2 | some 3 => .ok (SUCCESS, d)
  | _ => .ok (FAILURE, d)

/-- What the loops wait for is still to come. -/
def awaitsPrompt (d : AtDriver) : Bool := d.desc.callbackOperation = .waitingSend
def awaitsDisconnect (d : AtDriver) : Bool := d.desc.isWifiConnected
def awaitsReady (d : AtDriver) : Bool := d.desc.callbackOperation = .resettingModule

/-- AT_SEND up to the loop that waits for '>'. -/
def sendHeader (d : AtDriver) (late : WaitIrqs := {}) : AtRunResult := do
  let d ← d.step .waitSend
  -- Waiting for ok
  d.waitForResponse late

/-- Send what is in desc->cmd over the UART and handle special case of AT_SEND -/
def sendCmd (d : AtDriver) (cmd : AtCmdId) (inParam : Option InParam) (late : CallIrqs := {}) :
    AtRunResult := do
  let d ← d.uartWrite d.cmd
  if cmd = .atSend then
    let (ret, d) ← d.sendHeader late.header
    if ret ≠ SUCCESS then .ok (FAILURE, d)
    else
      -- Wait until '>' is received
      let (timeout, d) ← Countdown.preTest awaitsPrompt mdelay MODULE_TIMEOUT d
      if timeout = 0 then .ok (FAILURE, d)
      else
        match inParam with
        | none => .error .nullParam
        | some param =>
          -- Write payload
          let d ← d.uartWrite param.sendData.data
          d.waitForResponse late.wait
  else if cmd = .atDisconnectNetwork ∧ d.desc.isWifiConnected = true then
    -- Wait for WIFI_DISCONNECT
    let (timeout, d) ← Countdown.postTest awaitsDisconnect mdelay MODULE_TIMEOUT d
    if timeout = 0 then .ok (FAILURE, d) else .ok (SUCCESS, d)
  else d.waitForResponse late.wait

/-- Send ATE0 command to stop echo -/
def stopEcho (d : AtDriver) : AtRunResult := do
  let d ← d.uartWrite (PUI8 "ATE0" ++ [13, 10])
  let (ret, d) ← d.waitForResponse
  if ret ≠ SUCCESS then .ok (FAILURE, d)
  else
    let d ← d.step .clearResult
    .ok (SUCCESS, d)

/-- The `memcpy` into `app_result_buff`, which has RESULT_BUFF_LEN bytes. -/
def copyResult (d : AtDriver) : AtDriver :=
  { d with appResultBuff :=
      (d.desc.result.buff.take d.desc.result.len.toNat ++
        d.appResultBuff.drop d.desc.result.len.toNat).take RESULT_BUFF_LEN }

def parseResult (d : AtDriver) (late : CallIrqs := {}) : Except AtRunFault AtDriver := do
  let d ← d.interrupts late.copy
  let d ← d.copyResult.interrupts late.length
  let d ← { d with outLen := d.desc.result.len }.interrupts late.clear
  d.step .clearResult

/-- The bytes of the output parameter -/
def output (d : AtDriver) : List UInt8 := d.appResultBuff.take d.outLen.toNat

/-- Update driver status according with commands -/
def updateStatus (d : AtDriver) (cmd : AtCmdId) (op : CmdOperation) (param : Option InParam) :
    Except AtRunFault AtDriver :=
  match cmd, op, param with
  | .atSetConnectionType, _, none => .error .nullParam
  | .atSetConnectionType, _, some param => d.step (.setMultiple (param.word ≠ 0))
  | .atStartConnection, .atSetOp, none => .error .nullParam
  | .atStartConnection, .atSetOp, some param =>
    match connIndex (if d.desc.multipleConections then param.word.toNat else 0) with
    | .error _ => .error .connId
    | .ok id => .ok { d with connType := Function.update d.connType id param.connection.soketType }
  | _, _, _ => .ok d

/-- Fill the output parameter, or clear the result. -/
def takeResult (d : AtDriver) (param : Option InParam) (late : CallIrqs := {}) :
    Except AtRunFault AtDriver :=
  if param.isSome then d.parseResult late
  else do
    let d ← d.interrupts late.clear
    d.step .clearResult

/-- The result is taken, and the errors of the parser are returned. -/
def fillOutput (d : AtDriver) (param : Option InParam) (late : CallIrqs := {}) : AtRunResult := do
  let d ← d.takeResult param late
  let d ← d.interrupts late.errors
  if d.desc.errors ≠ 0 then
    let ret := d.desc.errors.toInt32
    let d ← d.step .clearErrors
    .ok ((-ret).toInt, d)
  else .ok (SUCCESS, d)

/-- The end of `at_run_cmd`, from `send_cmd` on. -/
def finishCmd (d : AtDriver) (cmd : AtCmdId) (op : CmdOperation) (param : Option InParam)
    (late : CallIrqs := {}) : AtRunResult := do
  let (ret, d) ← d.sendCmd cmd param late
  if isErrValue ret then .ok (ret, d)
  else
    let d ← d.updateStatus cmd op param
    d.fillOutput param late

/-- `at_run_cmd` with the function that it calls for AT_RESET and AT_DEEP_SLEEP. -/
def atRunCmdWith (handleSpecial : AtDriver → AtCmdId → AtRunResult) (d : AtDriver) (cmd : AtCmdId)
    (op : CmdOperation) (param : Option InParam) (late : CallIrqs := {}) : AtRunResult :=
  if cmd = .atSetTransportMode then .ok (FAILURE, d)
  else if op ∉ (gMap cmd).type then .ok (FAILURE, d)
  else
    match buildCmd d.desc d.connType cmd op param with
    | .error _ => .error .connId
    | .ok text =>
      let d := { d with cmd := text }
      if cmd = .atDeepSleep ∨ cmd = .atReset then handleSpecial d cmd
      else d.finishCmd cmd op param late

/-- Handle special cases; no output is filled. -/
def handleSpecial (d : AtDriver) (cmd : AtCmdId) : AtRunResult :=
  match cmd with
  | .atReset => do
    let d ← d.step .resetModule
    let d ← d.uartWrite d.cmd
    -- Wait for "ready" message
    let (timeout, d) ← Countdown.postTest awaitsReady mdelay MODULE_TIMEOUT d
    if timeout = 0 then .ok (FAILURE, d)
    else
      let d ← d.step .resetDone
      let d ← d.step .clearResult
      let (ret, d) ← d.stopEcho
      if ret ≠ SUCCESS then .ok (FAILURE, d)
      else
        -- this command is not one of the special ones
        let (_, d) ← atRunCmdWith (fun d _ => .ok (FAILURE, d)) d .atDisconnectNetwork .atExecuteOp none
        .ok (SUCCESS, d)
  | _ => .ok (FAILURE, d)

def atRunCmd (d : AtDriver) (cmd : AtCmdId) (op : CmdOperation) (param : Option InParam)
    (late : CallIrqs := {}) : AtRunResult :=
  atRunCmdWith handleSpecial d cmd op param late

end AtDriver

end NoOS
