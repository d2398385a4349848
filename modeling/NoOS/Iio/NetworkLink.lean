import NoOS.Lib.Trace
import NoOS.Util.CircularBufferOverrun

/-!
# The network link of the IIO daemon

Translation of `_get_next_socket`, `network_read` and the use of the sockets in `iio_step` and
`iio_phy_write` of `iio/iio.c`. The sockets that wait for their turn are in a circular buffer of
pointers; a pointer of -1 stands for a socket that has been disconnected in this step.
-/

namespace NoOS
open RingWindow Word

def MAX_SOCKET_TO_HANDLE : ℕ := 4

/-- The bytes of a pointer in memory. -/
def sockBytes (sock : UInt32) : List UInt8 :=
  (List.range 4).map fun i => UInt8.ofNat (sock.toNat / 256 ^ i)

@[simp] lemma length_sockBytes (sock : UInt32) : (sockBytes sock).length = 4 := by
  simp [sockBytes]

def sockOfBytes (bytes : List UInt8) : UInt32 :=
  UInt32.ofNat (bytes.foldr (fun b n => b.toNat + 256 * n) 0)

/-- The fields of `iio_desc` that belong to the network, with the bytes that have been pushed so
far. The last field is not in the code: the sockets that are accepted and not removed. -/
structure IioNetwork where
  /-- FIFO for socket descriptors -/
  sockets : CbStream
  /-- Client socket active during an iio_step; NULL is 0. -/
  currentSock : UInt32 := 0
  live : Finset UInt32 := ∅

/-- A call has not returned, or a socket is used that is not there. -/
inductive NetFault
  | waiting
  | invalidSocket
deriving DecidableEq, Repr

/-- What a call of `socket_accept` meets: a client for which `calloc` finds the address, or an
error. -/
inductive AcceptResult
  | client (sock : UInt32)
  | error (code : { c : ℤ // c < 0 })
deriving DecidableEq

/-- What a call of `socket_recv` meets: bytes that have arrived, or an error. -/
inductive RecvResult
  | data (first : UInt8) (more : List UInt8)
  | error (code : { c : ℤ // c < 0 })
deriving DecidableEq

/-- (void *)-1 -/
def DISCONNECTED : UInt32 := 0xFFFFFFFF

namespace IioNetwork

/-- An access to a socket; NULL is refused by the socket layer. -/
def access (s : IioNetwork) (sock : UInt32) : Except NetFault Unit :=
  if sock = 0 ∨ sock ∈ s.live then .ok () else .error .invalidSocket

def popSock (s : IioNetwork) : Except NetFault (ℤ × IioNetwork) :=
  let r := cbRead 4 s.sockets.desc 4
  match r.ret with
  | none => .error .waiting
  | some ret =>
    .ok (ret, { s with sockets := s.sockets.step (.read 4), currentSock := sockOfBytes r.data })

def pushSock (s : IioNetwork) (sock : UInt32) : Except NetFault (ℤ × IioNetwork) :=
  match s.access sock with
  | .error f => .error f
  | .ok () =>
    match (cbWrite 4 s.sockets.desc (sockBytes sock) 4).ret with
    | none => .error .waiting
    | some ret =>
      .ok (ret, { s with sockets := s.sockets.step (.write ⟨sockBytes sock, by simp⟩) })

def nbActiveSockets (s : IioNetwork) : UInt32 := (cbSize s.sockets.desc).2 / 4

/-- Blocking until new socket available. -/
def getNextSocket : List AcceptResult → IioNetwork → Except NetFault (ℤ × IioNetwork)
  | [], _ => .error .waiting
  | .error code :: accepts, s =>
    if code = -EAGAIN then
      -- Wait until a connection exists
      if s.nbActiveSockets = 0 then getNextSocket accepts s
      else
        match s.popSock with
        | .error f => .error f
        | .ok (ret, s) =>
          if isErrValue ret then .ok (ret, { s with currentSock := 0 }) else .ok (SUCCESS, s)
    else .ok (code, s)
  | .client sock :: accepts, s =>
    -- an address that is not free stands for a lack of memory
    if sock = 0 ∨ sock = DISCONNECTED ∨ sock ∈ s.live then .ok (-ENOMEM, s)
    else
      -- Add socket to queue
      match pushSock { s with live := insert sock s.live } sock with
      | .error f => .error f
      | .ok (ret, s) => if isErrValue ret then .ok (ret, s) else getNextSocket accepts s

/-- The locals of the loop of `network_read`, and what has been received. -/
structure ReadLoop where
  ret : ℤ := SUCCESS
  i : UInt32 := 0
  buf : List UInt8
  received : List UInt8 := []

/-- The loop of `network_read`. -/
def recvLoop (s : IioNetwork) (len : UInt32) : List RecvResult → ReadLoop → Except NetFault ReadLoop
  | [], _ => .error .waiting
  | .error code :: _, l =>
    match s.access s.currentSock with
    | .error f => .error f
    | .ok () => .ok { l with ret := code, buf := l.buf.set 0 42 }
  | .data first more :: recvs, l =>
    match s.access s.currentSock with
    | .error f => .error f
    | .ok () =>
      let bytes := (first :: more).take (len - l.i).toNat
      let l :=
        { ret := bytes.length
          i := l.i + UInt32.ofNat bytes.length
          buf := splice l.buf l.i.toNat bytes
          received := l.received ++ bytes }
      if l.i < len then recvLoop s len recvs l else .ok l

/-- A call of `network_read` with what its calls of the socket layer meet. -/
structure ReadCall where
  buf : List UInt8
  len : UInt32
  room : len.toNat ≤ buf.length
  accepts : List AcceptResult
  recvs : List RecvResult

/-- The result of `network_read`, the socket and the last code of `socket_recv`. -/
structure ReadResult where
  ret : ℤ
  buf : List UInt8
  received : List UInt8 := []
  sock : UInt32 := 0
  code : ℤ := SUCCESS

/-- The socket of the step, which is taken from the queue first if there is none. -/
def chooseSocket (s : IioNetwork) (accepts : List AcceptResult) : Except NetFault (ℤ × IioNetwork) :=
  if s.currentSock = 0 then getNextSocket accepts s else .ok (SUCCESS, s)

def networkRead (s : IioNetwork) (c : ReadCall) : Except NetFault (ReadResult × IioNetwork) :=
  if s.currentSock = DISCONNECTED then .ok ({ ret := -1, buf := c.buf }, s)
  else
    match s.chooseSocket c.accepts with
    | .error f => .error f
    | .ok (ret, s) =>
      if isErrValue ret then .ok ({ ret := ret, buf := c.buf }, s)
      else
        match s.recvLoop c.len c.recvs { buf := c.buf } with
        | .error f => .error f
        | .ok l =>
          let r : ReadResult :=
            { ret := l.i.toInt32.toInt, buf := l.buf, received := l.received
              sock := s.currentSock, code := l.ret }
          if l.ret = -ENOTCONN then
            match s.access s.currentSock with
            | .error f => .error f
            | .ok () =>
              .ok (r, { s with live := s.live.erase s.currentSock, currentSock := DISCONNECTED })
          else .ok (r, s)

/-- Execute an iio step, up to `tinyiiod_read_command`. -/
def iioStep (s : IioNetwork) : Except NetFault (ℤ × IioNetwork) :=
  if s.currentSock ≠ 0 ∧ s.currentSock ≠ DISCONNECTED then
    match s.pushSock s.currentSock with
    | .error f => .error f
    | .ok (ret, s) => if isErrValue ret then .ok (ret, s) else .ok (SUCCESS, { s with currentSock := 0 })
  else .ok (SUCCESS, { s with currentSock := 0 })

end IioNetwork

/-- What the daemon calls: `iio_step`, and in a step the reads and writes of `libtinyiiod`. -/
inductive NetEvent
  | step
  | read (c : IioNetwork.ReadCall)
  | write

def IioNetwork.event (s : IioNetwork) : NetEvent → Except NetFault IioNetwork
  | .step => s.iioStep.map Prod.snd
  | .read c => (s.networkRead c).map Prod.snd
  | .write => (s.access s.currentSock).map fun _ => s

end NoOS
