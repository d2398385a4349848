import NoOS.Lib.Numeral
import NoOS.Lib.QuotedFields
import NoOS.Network.AtParser

/-!
# AT commands

Translation of `set_params`, `concat_cmd_param` and `build_cmd` in `network/wifi/at_parser.c`.
What is written to `cmd_buff` is the list of its bytes, whether or not they fit.
-/

namespace NoOS
open QuotedFields

def CMD_BUFF_LEN : ℕ := 120

/-- `(uint8_t *)` of a string literal. -/
def PUI8 (s : String) : List UInt8 := s.toList.map fun c => UInt8.ofNat c.toNat

inductive CmdOperation
  | atTestOp
  | atQueryOp
  | atSetOp
  | atExecuteOp
deriving DecidableEq, Repr

inductive AtCmdId
  | atAttention
  | atReset
  | atDeepSleep
  | atGetVersion
  | atSetOperationMode
  | atConnectNetwork
  | atGetAvailableNetworks
  | atDisconnectNetwork
  | atSetAccessPoint
  | atGetConnectedIps
  | atGetStatus
  | atStartConnection
  | atSend
  | atStopConnection
  | atGetIp
  | atSetConnectionType
  | atSetServer
  | atSetTransportMode
  | atSetClientTimeout
  | atPing
deriving DecidableEq, Repr

/-- Command descriptor; `type` has the operations of the command. -/
structure CmdDesc where
  cmd : List UInt8
  type : List CmdOperation

def gMap : AtCmdId → CmdDesc
  | .atAttention => ⟨PUI8 "", [.atExecuteOp]⟩
  | .atReset => ⟨PUI8 "+RST", [.atExecuteOp]⟩
  | .atDeepSleep => ⟨PUI8 "+GSLP", [.atSetOp]⟩
  | .atGetVersion => ⟨PUI8 "+GMR", [.atExecuteOp]⟩
  | .atSetOperationMode => ⟨PUI8 "+CWMODE", [.atQueryOp, .atSetOp, .atTestOp]⟩
  | .atConnectNetwork => ⟨PUI8 "+CWJAP", [.atQueryOp, .atSetOp]⟩
  | .atGetAvailableNetworks => ⟨PUI8 "+CWLAP", [.atExecuteOp]⟩
  | .atDisconnectNetwork => ⟨PUI8 "+CWQAP", [.atExecuteOp]⟩
  | .atSetAccessPoint => ⟨PUI8 "+CWSAP", [.atQueryOp, .atSetOp]⟩
  | .atGetConnectedIps => ⟨PUI8 "+CWLIF", [.atExecuteOp]⟩
  | .atGetStatus => ⟨PUI8 "+CIPSTATUS", [.atExecuteOp]⟩
  | .atStartConnection => ⟨PUI8 "+CIPSTART", [.atTestOp, .atSetOp]⟩
  | .atSend => ⟨PUI8 "+CIPSEND", [.atSetOp]⟩
  | .atStopConnection => ⟨PUI8 "+CIPCLOSE", [.atExecuteOp, .atSetOp]⟩
  | .atGetIp => ⟨PUI8 "+CIFSR", [.atExecuteOp]⟩
  | .atSetConnectionType => ⟨PUI8 "+CIPMUX", [.atQueryOp, .atSetOp]⟩
  | .atSetServer => ⟨PUI8 "+CIPSERVER", [.atSetOp]⟩
  | .atSetTransportMode => ⟨PUI8 "+CIPMODE", [.atQueryOp, .atSetOp]⟩
  | .atSetClientTimeout => ⟨PUI8 "+CIPSTO", [.atQueryOp, .atSetOp]⟩
  | .atPing => ⟨PUI8 "+PING", [.atSetOp]⟩

inductive SocketType
  | socketTcp
  | socketUdp
deriving DecidableEq, Repr

/-- The bytes of `connection` and of `send_data` behind their `id`. -/
structure CipstartParam where
  soketType : SocketType := .socketTcp
  addr : List UInt8 := []
  port : UInt16 := 0
  localPort : UInt16 := 0
  udpMode : UInt32 := 0

structure CipsendParam where
  data : List UInt8 := []
  remoteIp : List UInt8 := []
  remotePort : UInt16 := 0

/-- What the members of `union in_param` read. The first word of the union is
`deep_sleep_time_ms`, `wifi_mode`, `connection.id`, `send_data.id`, `conn_id`, `conn_type`,
`server.action` and `timeout`. -/
structure InParam where
  word : UInt32 := 0
  /-- `network` and `ap` -/
  ssid : List UInt8 := []
  pwd : List UInt8 := []
  chId : UInt32 := 0
  encription : UInt32 := 0
  connection : CipstartParam := {}
  sendData : CipsendParam := {}
  /-- `server.port` -/
  port : UInt16 := 0
  pingIp : List UInt8 := []

def CREATE_SERVER : UInt32 := 1

/-- An argument of `set_params`: `d`, or `s`. -/
abbrev AtArg := Field UInt8 Int32

/-- `itoa(nb, buff, 10)` -/
def itoa (nb : Int32) : List UInt8 := (Numeral.decimal nb.toInt).map fun c => UInt8.ofNat c.toNat

/-- '"', ',' and '\\' -/
def isEscaped (ch : UInt8) : Bool := ch = 34 || ch = 44 || ch = 92

/-- Escape character -/
def escapeParam (dest : List UInt8) : List UInt8 → List UInt8
  | [] => dest
  | ch :: str => escapeParam ((if isEscaped ch then dest ++ [92] else dest) ++ [ch]) str

def setParam (dest : List UInt8) : AtArg → List UInt8
  | .plain nb => dest ++ itoa nb
  | .quoted str => escapeParam (dest ++ [34]) str ++ [34]

/-- The parameters are separated by , and the strings are rounded by '"' and escaped. -/
def setParams (dest : List UInt8) : List AtArg → List UInt8
  | [] => dest
  | [arg] => setParam dest arg
  | arg :: args => setParams (setParam dest arg ++ [44]) args

def fmtD (n : UInt32) : AtArg := .plain n.toInt32

def fmtS (s : List UInt8) : AtArg := .quoted s

/-- The arguments that `concat_cmd_param` passes on; `type` is `conn[].type`. -/
def cmdParams (desc : AtDesc) (type : Fin MAX_CONNECTIONS → SocketType) (cmd : AtCmdId)
    (param : InParam) : Except AtFault (List AtArg) :=
  let connection := param.connection
  let sendData := param.sendData
  let id := fmtD param.word
  let port := fmtD connection.port.toUInt32
  let localPort := fmtD connection.localPort.toUInt32
  let len := fmtD (UInt32.ofNat sendData.data.length)
  match cmd with
  | .atDeepSleep => .ok [fmtD param.word]
  | .atSetOperationMode => .ok [fmtD param.word]
  | .atConnectNetwork => .ok [fmtS param.ssid, fmtS param.pwd]
  | .atSetAccessPoint =>
    .ok [fmtS param.ssid, fmtS param.pwd, fmtD param.chId, fmtD param.encription]
  | .atStartConnection =>
    if connection.soketType = .socketTcp then
      let aux := fmtS (PUI8 "TCP")
      if desc.multipleConections then .ok [id, aux, fmtS connection.addr, port]
      else .ok [aux, fmtS connection.addr, port]
    else
      let aux := fmtS (PUI8 "UDP")
      if desc.multipleConections then
        .ok [id, aux, fmtS connection.addr, port, localPort, fmtD connection.udpMode]
      else .ok [aux, fmtS connection.addr, port, localPort, fmtD connection.udpMode]
  | .atSend =>
    match connIndex (if desc.multipleConections then param.word.toNat else 0) with
    | .error f => .error f
    | .ok connId =>
      let remotePort := fmtD sendData.remotePort.toUInt32
      if type connId = .socketTcp then
        if desc.multipleConections then .ok [id, len] else .ok [len]
      else
        if desc.multipleConections then .ok [id, len, fmtS sendData.remoteIp, remotePort]
        else .ok [len, fmtS sendData.remoteIp, remotePort]
  | .atStopConnection => .ok [fmtD param.word]
  | .atSetConnectionType => .ok [fmtD param.word]
  | .atSetServer =>
    if param.word = CREATE_SERVER then .ok [fmtD param.word, fmtD param.port.toUInt32]
    else .ok [fmtD param.word]
  | .atSetTransportMode => .ok [fmtD param.word]
  | .atSetClientTimeout => .ok [fmtD param.word]
  | .atPing => .ok [fmtS param.pingIp]
  | _ => .ok []

/-- Concatenate command parameters to desc->cmd -/
def concatCmdParam (dest : List UInt8) (desc : AtDesc) (type : Fin MAX_CONNECTIONS → SocketType)
    (cmd : AtCmdId) (param : InParam) : Except AtFault (List UInt8) :=
  (cmdParams desc type cmd param).map (setParams dest)

/-- The format of the command will be: AT[CMD][OP]<parmas>\r\n -/
def buildCmd (desc : AtDesc) (type : Fin MAX_CONNECTIONS → SocketType) (cmd : AtCmdId)
    (op : CmdOperation) (param : Option InParam) : Except AtFault (List UInt8) :=
  let dest := PUI8 "AT" ++ (gMap cmd).cmd
  let dest : Except AtFault (List UInt8) :=
    match op, param with
    | .atQueryOp, _ => .ok (dest ++ [63])
    | .atTestOp, _ => .ok (dest ++ [61, 63])
    | .atSetOp, some param => concatCmdParam (dest ++ [61]) desc type cmd param
    | _, _ => .ok dest
  dest.map (· ++ [13, 10])

end NoOS
