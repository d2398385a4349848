import Mathlib.Data.Finset.Erase
import Mathlib.Data.Finset.Insert
import NoOS.Lib.Trace
import NoOS.Lib.Word
import NoOS.Network.AtParser

/-!
# Wifi sockets

Translation of the socket functions of `network/wifi/wifi.c`. A call with a NULL argument or
a socket id out of range is refused at once, so ids are in range here. Interrupts come
between the calls and while `at_run_cmd` waits for the module, and what the module answers
is arbitrary: the parameters of a command are left out.
-/

namespace NoOS

abbrev NB_SOCKETS : ℕ := MAX_CONNECTIONS + 1
abbrev NB_CLI_SOCKETS : ℕ := MAX_CONNECTIONS
def MAX_CIPSEND_DATA : UInt32 := 2048

instance : NeZero NB_SOCKETS := ⟨by decide⟩
instance : NeZero NB_CLI_SOCKETS := ⟨by decide⟩

abbrev SocketId := Fin NB_SOCKETS
abbrev ConnId := Fin NB_CLI_SOCKETS

inductive SocketState
  /-- The socket structure is unused -/
  | unused
  /-- Socket is waiting for accept -/
  | waitingAccept
  /-- Socket structure have been initialized -/
  | disconnected
  /-- Socket connected to a server or to a client -/
  | connected
  /-- State of server socket when it listen to new connections -/
  | listening
deriving DecidableEq, Repr

/-- What `at_parser` reports to the connection callback. -/
inductive ConnEvent
  /-- `AT_NEW_CONNECTION` -/
  | new (connId : ConnId)
  /-- `AT_CLOSED_CONNECTION` -/
  | closed (connId : ConnId)
deriving DecidableEq, Repr

/-- One call of `at_run_cmd`: the connection events while it waits, and its return code. -/
structure AtCmd where
  events : List ConnEvent := []
  ret : Int := SUCCESS
deriving DecidableEq, Repr

/-- The buffers from `cb_init`. An address is never used again. -/
structure CbHeap where
  next : CbRef := 0
  live : Finset CbRef := ∅
  /-- An address that is not live has been passed to `cb_remove`. -/
  invalidFree : Bool := false
deriving DecidableEq

structure ServerDesc where
  /-- Server id, where it is not `INVALID_ID` -/
  id : Option SocketId := none
  /-- `client_ids[0]` to `client_ids[back_log_clients - 1]` -/
  clientIds : List SocketId := []
deriving DecidableEq, Repr

/-- The descriptor, with one function for each field of its array `sockets`. The last four
fields are the world around it. -/
structure WifiDesc where
  cb : SocketId → Option CbRef := fun _ => none
  cbSize : SocketId → UInt32 := fun _ => 0
  /-- Connection id, where it is not `INVALID_ID` -/
  connId : SocketId → Option ConnId := fun _ => some 0
  state : SocketId → SocketState := fun _ => .unused
  server : ServerDesc := {}
  connIdToSockId : ConnId → Option SocketId := fun _ => none
  heap : CbHeap := {}
  /-- What the next calls of `at_run_cmd` meet; after these, no event and no error. -/
  cmds : List AtCmd := []
  /-- What the next calls of `cb_init` meet; after these, enough memory. -/
  allocs : List CbAlloc := []
  /-- The recursion of `wifi_socket_close` has gone beyond the stack. -/
  stackOverflow : Bool := false

namespace WifiDesc

@[simp] def setState (desc : WifiDesc) (id : SocketId) (state : SocketState) : WifiDesc :=
  { desc with state := Function.update desc.state id state }

@[simp] def setCb (desc : WifiDesc) (id : SocketId) (cb : Option CbRef) : WifiDesc :=
  { desc with cb := Function.update desc.cb id cb }

/-- What the next call of `cb_init` meets. -/
def nextAlloc (desc : WifiDesc) : CbAlloc := desc.allocs.headD {}

/-- What the next call of `at_run_cmd` meets. -/
def nextCmd (desc : WifiDesc) : AtCmd := desc.cmds.headD {}

/-- `cb_init(&desc->sockets[id].cb, buff_size)` -/
def cbInit (desc : WifiDesc) (id : SocketId) (buffSize : UInt32) : Int × WifiDesc :=
  let mem := desc.nextAlloc
  let addr := desc.heap.next
  let desc := { desc with allocs := desc.allocs.tail }
  match NoOS.cbInit buffSize mem with
  | (ret, some _) =>
    (ret, { desc.setCb id (some addr) with
      heap := { desc.heap with next := addr + 1, live := insert addr desc.heap.live } })
  | (ret, none) =>
    -- without memory for the bytes, the caller keeps the address of the descriptor freed
    if buffSize ≠ 0 ∧ mem.desc then
      (ret, { desc.setCb id (some addr) with heap := { desc.heap with next := addr + 1 } })
    else (ret, desc)

/-- `cb_remove(cb)` -/
def cbRemove (desc : WifiDesc) (cb : Option CbRef) : WifiDesc :=
  match cb with
  | none => desc
  | some addr =>
    if addr ∈ desc.heap.live then
      { desc with heap := { desc.heap with live := desc.heap.live.erase addr } }
    else { desc with heap := { desc.heap with invalidFree := true } }

end WifiDesc

/-- The loops over `sockets` that end at the first one in a state. -/
def WifiDesc.firstIn (desc : WifiDesc) (state : SocketState) : Option SocketId :=
  (List.finRange NB_SOCKETS).find? fun i => desc.state i = state

/-- Returns the index of a socket in SOCKET_UNUSED state -/
def wifiGetUnusedSocket (desc : WifiDesc) : Except Int (SocketId × WifiDesc) :=
  match desc.firstIn .unused with
  | some i => .ok (i, desc.setState i .disconnected)
  | none => .error (-EMLINK)

/-- Marks the socket at the index id as SOCKET_UNUSED -/
def wifiReleaseSocket (desc : WifiDesc) (id : SocketId) : WifiDesc := desc.setState id .unused

/-- Set the socket connection ID with an ID that is not used yet -/
def wifiGetUnusedConn (desc : WifiDesc) (sockId : SocketId) : Int × WifiDesc :=
  match (List.finRange NB_CLI_SOCKETS).find? fun i => desc.connIdToSockId i = none with
  | some i =>
    (SUCCESS, { desc with
      connIdToSockId := Function.update desc.connIdToSockId i (some sockId)
      connId := Function.update desc.connId sockId (some i) })
  | none => (-EMLINK, desc)

/-- Unset the socket connection ID and mark it as available -/
def wifiReleaseConn (desc : WifiDesc) (sockId : SocketId) : WifiDesc :=
  match desc.connId sockId with
  | none => desc
  | some connId =>
    { desc with
      connId := Function.update desc.connId sockId none
      connIdToSockId := Function.update desc.connIdToSockId connId none }

/-- The client whom `_get_initialized_client_id` finds. -/
def WifiDesc.initializedClient (desc : WifiDesc) : Option SocketId :=
  desc.server.clientIds.find? fun id => desc.state id = .disconnected

def getInitializedClientId (desc : WifiDesc) : Option SocketId × WifiDesc :=
  match desc.initializedClient with
  | some id => (some id, desc.setState id .waitingAccept)
  | none => (none, desc)

/-- The value of `*cb`, where the callback sets it, and the descriptor. -/
def wifiConnectionCallback (desc : WifiDesc) : ConnEvent → Option CbRef × WifiDesc
  | .new connId =>
    match desc.connIdToSockId connId with
    | some sockId => (desc.cb sockId, desc)
    | none =>
      match getInitializedClientId desc with
      | (none, desc) => (none, desc)
      | (some sockId, desc) =>
        (desc.cb sockId, { desc with
          connIdToSockId := Function.update desc.connIdToSockId connId (some sockId)
          connId := Function.update desc.connId sockId (some connId)
          state := Function.update desc.state sockId .waitingAccept })
  | .closed connId =>
    match desc.connIdToSockId connId with
    | some sockId => (none, wifiReleaseConn (desc.setState sockId .disconnected) sockId)
    | none => (none, desc)

/-- An interrupt with a connection event. -/
def WifiDesc.interrupt (desc : WifiDesc) (e : ConnEvent) : WifiDesc :=
  (wifiConnectionCallback desc e).2

def atRunCmd (desc : WifiDesc) : Int × WifiDesc :=
  (desc.nextCmd.ret,
    Trace.run WifiDesc.interrupt { desc with cmds := desc.cmds.tail } desc.nextCmd.events)

/-- The state after `wifi_init`, during which no socket is in use. -/
def wifiInit : WifiDesc := {}

/-- The return code or `*sock_id`. -/
def wifiSocketOpen (desc : WifiDesc) (buffSize : UInt32) : Except Int SocketId × WifiDesc :=
  match wifiGetUnusedSocket desc with
  | .error ret => (.error ret, desc)
  | .ok (id, desc) =>
    let (ret, desc) := desc.cbInit id buffSize
    if isErrValue ret then (.error ret, wifiReleaseSocket desc id)
    else (.ok id, { desc with cbSize := Function.update desc.cbSize id buffSize })

def isServerSocket (desc : WifiDesc) (sockId : SocketId) : Bool :=
  decide (sockId ∈ desc.server.clientIds)

/-- `_remove_server_back_log`, with the `wifi_socket_close` that it calls. -/
def removeServerBackLog (close : WifiDesc → SocketId → Int × WifiDesc) (desc : WifiDesc) :
    WifiDesc :=
  desc.server.clientIds.foldl (fun desc id => (close (desc.cbRemove (desc.cb id)) id).2) desc

def wifiSocketDisconnect (close : WifiDesc → SocketId → Int × WifiDesc) (desc : WifiDesc)
    (sockId : SocketId) : Int × WifiDesc :=
  if desc.state sockId = .unused then (-ENOENT, desc)
  -- A socket can be disconnected by the peer
  else if desc.state sockId = .disconnected then (SUCCESS, desc)
  else if desc.server.id = some sockId then
    let (ret, desc) := atRunCmd desc
    if isErrValueU32 ret then (ret, desc)
    else
      let desc := removeServerBackLog close desc
      let desc := { desc with server := { desc.server with id := none } }
      (SUCCESS, desc.setState sockId .disconnected)
  else
    let (ret, desc) := atRunCmd desc
    if isErrValueU32 ret then (ret, desc)
    else (SUCCESS, (wifiReleaseConn desc sockId).setState sockId .disconnected)

/-- The loop of `wifi_socket_close` over the clients of the server. -/
def releaseClients (desc : WifiDesc) : WifiDesc :=
  desc.server.clientIds.foldl
    (fun desc id => wifiReleaseSocket (desc.cbRemove (desc.cb id)) id) desc

/-- The end of `wifi_socket_close`, for a socket that is disconnected. -/
def wifiSocketRemove (desc : WifiDesc) (sockId : SocketId) : WifiDesc :=
  let desc :=
    if !isServerSocket desc sockId then (desc.cbRemove (desc.cb sockId)).setCb sockId none
    else if desc.server.id = some sockId then releaseClients desc
    else desc
  wifiReleaseSocket desc sockId

/-- The first argument bounds the depth of the recursion through
`_remove_server_back_log`. -/
def wifiSocketClose : ℕ → WifiDesc → SocketId → Int × WifiDesc
  | 0, desc, _ => (FAILURE, { desc with stackOverflow := true })
  | depth + 1, desc, sockId =>
    if desc.state sockId = .unused then (SUCCESS, desc)
    else
      let (ret, desc) := wifiSocketDisconnect (wifiSocketClose depth) desc sockId
      if isErrValue ret then (ret, desc)
      else (SUCCESS, wifiSocketRemove desc sockId)

def wifiSocketConnect (desc : WifiDesc) (sockId : SocketId) : Int × WifiDesc :=
  if desc.server.id = some sockId then (FAILURE, desc)
  else if desc.state sockId = .unused then (-ENOENT, desc)
  else if desc.state sockId = .connected then (-EISCONN, desc)
  else
    let (ret, desc) := wifiGetUnusedConn desc sockId
    if isErrValueU32 ret then (ret, desc)
    else
      let (ret, desc) := atRunCmd desc
      if isErrValueU32 ret then (ret, wifiReleaseConn desc sockId)
      else (SUCCESS, desc.setState sockId .connected)

lemma sendLoop_decreases {size i : UInt32} (h : i + min (size - i) MAX_CIPSEND_DATA < size) :
    (size - (i + min (size - i) MAX_CIPSEND_DATA)).toNat < (size - i).toNat := by
  have hmin : (min (size - i) MAX_CIPSEND_DATA).toNat = min (size - i).toNat 2048 :=
    UInt32.toNat_min ..
  have hle : (min (size - i) MAX_CIPSEND_DATA).toNat ≤ (size - i).toNat := by lia
  have hpos : (size - i).toNat ≠ 0 := by
    intro hc
    have hi : size - i = 0 := UInt32.toNat_inj.mp hc
    have hi' : i = size := by
      have := congrArg (· + i) hi
      simpa using this.symm
    simp only [hi', UInt32.sub_self, UInt32.lt_iff_toNat_lt] at h
    change (size + 0).toNat < size.toNat at h
    simp at h
  rw [← sub_sub, Word.toNat_sub_of_le hle]
  lia

/-- The loop of `wifi_socket_send`, from the offset `i` on. -/
def sendLoop (desc : WifiDesc) (size i : UInt32) : Int × WifiDesc :=
  let toSend := min (size - i) MAX_CIPSEND_DATA
  let (ret, desc) := atRunCmd desc
  if isErrValueU32 ret then (ret, desc)
  else if i + toSend < size then sendLoop desc size (i + toSend)
  else (size.toInt32.toInt, desc)
termination_by (size - i).toNat
decreasing_by exact sendLoop_decreases ‹_›

def wifiSocketSend (desc : WifiDesc) (sockId : SocketId) (size : UInt32) : Int × WifiDesc :=
  if desc.server.id = some sockId then (-EINVAL, desc)
  else if desc.state sockId ≠ .connected then (-ENOTCONN, desc)
  else sendLoop desc size 0

def wifiSocketBind (desc : WifiDesc) (sockId : SocketId) : Int × WifiDesc :=
  if desc.server.id ≠ none then (-EMLINK, desc)
  else if desc.state sockId = .unused then (-ENODEV, desc)
  -- Configure current socket as server
  else (SUCCESS, { desc with server := { desc.server with id := some sockId } })

/-- `client_ids[back_log_clients++] = id`, after `state = SOCKET_DISCONNECTED` -/
def WifiDesc.addClient (desc : WifiDesc) (id : SocketId) : WifiDesc :=
  { desc.setState id .disconnected with
    server := { desc.server with clientIds := desc.server.clientIds ++ [id] } }

/-- The loop of `wifi_socket_listen` over the clients that are still to be opened. -/
def listenLoop (depth : ℕ) (sockId : SocketId) : ℕ → WifiDesc → Int × WifiDesc
  | 0, desc => (SUCCESS, desc)
  | n + 1, desc =>
    match wifiSocketOpen desc (desc.cbSize sockId) with
    | (.error ret, desc) => (ret, desc)
    | (.ok id, desc) =>
      if desc.server.clientIds = [] ∧ desc.cb sockId ≠ none then
        let desc := (desc.setCb id (desc.cb sockId)).setCb sockId none
        listenLoop depth sockId n (desc.addClient id)
      else
        let (ret, desc) := desc.cbInit id (desc.cbSize sockId)
        if isErrValue ret then (ret, (wifiSocketClose depth desc id).2)
        else listenLoop depth sockId n (desc.addClient id)

/-- The number of clients that `wifi_socket_listen` opens. -/
def nbClients (backLog : UInt32) : ℕ :=
  if backLog = 0 then MAX_CONNECTIONS else min backLog.toNat MAX_CONNECTIONS

def wifiSocketListen (depth : ℕ) (desc : WifiDesc) (sockId : SocketId) (backLog : UInt32) :
    Int × WifiDesc :=
  -- Socket bind must be done befor listen
  if desc.server.id ≠ some sockId then (-ENOTCONN, desc)
  else
    let desc := { desc with server := { desc.server with clientIds := [] } }
    let (ret, desc) := listenLoop depth sockId (nbClients backLog) desc
    if isErrValue ret then (ret, removeServerBackLog (wifiSocketClose depth) desc)
    else
      let (ret, desc) := atRunCmd desc
      if isErrValue ret then (ret, removeServerBackLog (wifiSocketClose depth) desc)
      else (SUCCESS, desc.setState sockId .listening)

/-- The return code or `*client_socket_id`. -/
def wifiSocketAccept (desc : WifiDesc) (sockId : SocketId) : Except Int SocketId × WifiDesc :=
  if desc.server.id ≠ some sockId then (.error (-EINVAL), desc)
  -- Bind should be called first
  else if desc.state sockId ≠ .listening then (.error (-ENOTCONN), desc)
  else
    match desc.firstIn .waitingAccept with
    | some i => (.ok i, desc.setState i .connected)
    | none => (.error (-EAGAIN), desc)

inductive WifiCall
  | open (buffSize : UInt32)
  | close (sockId : SocketId)
  | connect (sockId : SocketId)
  | disconnect (sockId : SocketId)
  | send (sockId : SocketId) (size : UInt32)
  | recv (sockId : SocketId) (size : UInt32)
  | bind (sockId : SocketId)
  | listen (sockId : SocketId) (backLog : UInt32)
  | accept (sockId : SocketId)
deriving DecidableEq, Repr

/-- A call, with what its commands and allocations meet, or an interrupt between calls. -/
inductive WifiEvent
  | call (c : WifiCall) (cmds : List AtCmd) (allocs : List CbAlloc)
  | interrupt (e : ConnEvent)
deriving DecidableEq, Repr

/-- What a call leaves of the descriptor. `recv` only reads it. -/
def WifiDesc.run (depth : ℕ) (desc : WifiDesc) : WifiCall → WifiDesc
  | .open buffSize => (wifiSocketOpen desc buffSize).2
  | .close sockId => (wifiSocketClose depth desc sockId).2
  | .connect sockId => (wifiSocketConnect desc sockId).2
  | .disconnect sockId => (wifiSocketDisconnect (wifiSocketClose depth) desc sockId).2
  | .send sockId size => (wifiSocketSend desc sockId size).2
  | .recv _ _ => desc
  | .bind sockId => (wifiSocketBind desc sockId).2
  | .listen sockId backLog => (wifiSocketListen depth desc sockId backLog).2
  | .accept sockId => (wifiSocketAccept desc sockId).2

/-- One event, where `wifi_socket_close` may call itself `depth` deep. -/
def WifiDesc.step (depth : ℕ) (desc : WifiDesc) : WifiEvent → WifiDesc
  | .call c cmds allocs => { desc with cmds := cmds, allocs := allocs }.run depth c
  | .interrupt e => desc.interrupt e

end NoOS
