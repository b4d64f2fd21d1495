import Fiberuv.Foundation.Operation
import Fiberuv.Foundation.Framing
import Fiberuv.Io.Socket

/-! # The closures of the loop's operations

What the operations hand to `invoke_on_loop`, statement by statement as far as it decides
whether the operation suspends: the guards, the libuv calls that can refuse to start, the
promises, and the waits. The same closure runs inline in a fiber of the loop's thread and
inside `drain_loop_tasks` when another thread posts it.

Paths, flags, offsets, descriptors, ports and time limits only reach libuv or the fiber
scheduler and are left out. Results of callbacks are the values of the promises.
-/

namespace Fiberuv.EventLoop

open Foundation
open Io.Socket (SocketType socketClosed listenTcpOnly bindFirst tcpNotConnected udpNotConnected
  udpNotInitialized sendToUdpOnly acceptListening recvFromUdpOnly)

abbrev SocketId := Nat

def uvEexist : Int := -17
def uvEnoent : Int := -2

/-- The libuv calls whose result code an operation tests before it waits or returns. -/
inductive Request where
  | fsOpen
  | fsClose
  | fsRead
  | fsWrite
  | fsMkdir
  | fsRmdir
  | fsUnlink
  | pollInit
  | pollStart
  | timerInit
  | timerStart
  | periodicInit
  | periodicStart
  | getaddrinfo
  | serverInit
  | ip4Addr
  | tcpBind
  | listen
  | readStart
  | write
  | udpInit
  | udpBind
  | udpSend
  | udpRecvStart
  deriving DecidableEq

/-- The site `uv_error` names when the call is refused. -/
def Request.site : Request → String
  | fsOpen => "uv_fs_open(start)"
  | fsClose => "uv_fs_close(start)"
  | fsRead => "uv_fs_read(start)"
  | fsWrite => "uv_fs_write(start)"
  | fsMkdir => "uv_fs_mkdir(start)"
  | fsRmdir => "uv_fs_rmdir(start)"
  | fsUnlink => "uv_fs_unlink(start)"
  | pollInit => "uv_poll_init_socket"
  | pollStart => "uv_poll_start"
  | timerInit => "uv_timer_init"
  | timerStart => "uv_timer_start"
  | periodicInit => "uv_timer_init(periodic)"
  | periodicStart => "uv_timer_start(periodic)"
  | getaddrinfo => "uv_getaddrinfo(start)"
  | serverInit => "uv_tcp_init(server)"
  | ip4Addr => "uv_ip4_addr"
  | tcpBind => "uv_tcp_bind"
  | listen => "uv_listen"
  | readStart => "uv_read_start"
  | write => "uv_write(start)"
  | udpInit => "uv_udp_init"
  | udpBind => "uv_udp_bind"
  | udpSend => "uv_udp_send(start)"
  | udpRecvStart => "uv_udp_recv_start"

/-- `uv_ip4_addr` is tested against zero, every other call for a negative result. -/
def Request.refused (request : Request) (code : Int) : Bool :=
  if request = .ip4Addr then code != 0 else code < 0

/-- The result codes libuv gives in one segment, and the error each refusal throws. -/
def refusal (codes : Request → Int) (request : Request) : Option Error :=
  if request.refused (codes request) then some (.uv request.site (codes request)) else none

/-- Who can set the promise behind a wait. -/
inductive Promise where
  /-- Only callbacks of libuv. -/
  | completion
  /-- An entry of `accept_waiters`, set by a callback or by `begin_close`. -/
  | acceptWaiter (socket : SocketId)
  deriving DecidableEq

structure ServerFields where
  listening : Bool := false
  closing : Bool := false
  accepted : Nat := 0

structure ConnectionFields where
  closed : Bool := false
  eof : Bool := false
  pendingRead : Bool := false
  buffered : Nat := 0

structure UdpFields where
  closed : Bool := false
  bound : Bool := false
  pendingRecv : Bool := false
  buffered : Nat := 0

/-- The fields of its file or socket that an operation reads. -/
structure Fields where
  alive : Bool := true
  /-- `closed` of `File::Impl` or of `Socket::Impl`. -/
  closed : Bool := false
  fd : Int := 0
  type : SocketType := .tcp
  listening : Bool := false
  hasLocal : Bool := false
  hasPeer : Bool := false
  tcpServer : Option ServerFields := none
  tcpConn : Option ConnectionFields := none
  udp : Option UdpFields := none
  /-- `make_sockaddr` accepts the address of the call. -/
  addressValid : Bool := true
  /-- The handle still holds the pending read, receive or accept of this call. -/
  registered : Bool := true

abbrev Operation := Foundation.Operation Fields Request SocketId Promise Error
abbrev Wait := Foundation.Wait Fields Request SocketId Promise Error
abbrev Stop := Foundation.Stop Fields Request SocketId Promise Error
abbrev Segment := Foundation.Segment Fields Request SocketId Promise Error

open Foundation.Operation

/-- Throw unless the query holds. -/
def ensure (query : Fields → Bool) (error : Error) (next : Operation) : Operation :=
  .test query next (.throws error)

def ensureLoopAlive (next : Operation) : Operation := ensure Fields.alive loopNotAlive next

/-- A promise, a request whose callback sets it, and `future.get()`. -/
def await (request : Request) (next : Int → Operation) : Operation :=
  .renew (.start request (.get .completion next))

/-! ## Files -/

def fsOpen (next : Int → Operation) : Operation := await .fsOpen next

def fsClose (next : Operation) : Operation := await .fsClose fun _ => next

def fsReadAt : Operation := await .fsRead fun _ => .ret

def fsWriteAt (data : Bytes) : Operation :=
  if data.isEmpty then .ret else await .fsWrite fun _ => .ret

/-- `File::close`. -/
def fileClose : Operation :=
  .test Fields.closed .ret (.test (fun fields => 0 ≤ fields.fd) (fsClose .ret) .ret)

/-- The tail of `create_directory`, `remove_directory` and `remove_file`. -/
def tolerate (site : String) (tolerated : Int) (result : Int) : Operation :=
  if 0 ≤ result then .ret
  else if result = tolerated then .ret
  else .throws (.uv site result)

def createDirectory : Operation := await .fsMkdir (tolerate "uv_fs_mkdir" uvEexist)

def removeDirectory : Operation := await .fsRmdir (tolerate "uv_fs_rmdir" uvEnoent)

def removeFile : Operation := await .fsUnlink (tolerate "uv_fs_unlink" uvEnoent)

def createFile : Operation := fsOpen fun _ => fsClose .ret

def waitFd : Operation :=
  .renew (.start .pollInit (.start .pollStart (.get .completion fun _ => .ret)))

/-- The timer is one of libuv as well, so `get` and not the scheduler ends this wait. -/
def waitFdFor : Operation :=
  .renew (.start .pollInit (.start .timerInit (.start .pollStart (.start .timerStart
    (.get .completion fun _ => .ret)))))

/-! ## TCP -/

def connectionClosed (fields : Fields) : Bool := fields.tcpConn.any ConnectionFields.closed

/-- The guards `connection_read` and `connection_read_for` share, up to `uv_read_start`. -/
def connectionReadStart (next : Operation) : Operation :=
  ensure (fun fields => !connectionClosed fields) (.runtime "connection is closed")
    (ensureLoopAlive
      (.test (fun fields => fields.tcpConn.any fun conn => conn.buffered != 0) .ret
        (.test (fun fields => fields.tcpConn.any ConnectionFields.eof) .ret
          (ensure (fun fields => !fields.tcpConn.any ConnectionFields.pendingRead)
            (.runtime "another read is already pending")
            (.renew (.start .readStart next))))))

def connectionRead : Operation := connectionReadStart (.get .completion fun _ => .ret)

/-- The second look a timed receive takes at its future when its entry is gone. -/
def recheck (promise : Promise) : Operation :=
  .test Fields.registered .ret (.waitFor promise (fun _ => .ret) .ret)

def connectionReadFor : Operation :=
  connectionReadStart (.waitFor .completion (fun _ => .ret) (recheck .completion))

def connectionWrite (payload : Bytes) : Operation :=
  ensure (fun fields => !connectionClosed fields) (.runtime "connection is closed")
    (ensureLoopAlive (if payload.isEmpty then .ret else await .write fun _ => .ret))

/-- `TcpConnection::close`: `start_close` sets the promise itself when the connection is
closed or the loop gone. -/
def connectionClose (next : Operation) : Operation :=
  .renew (.test (fun fields => connectionClosed fields || !fields.alive)
    (.setValue (.get .completion fun _ => next)) (.get .completion fun _ => next))

def clientConnect : Operation := ensureLoopAlive (await .getaddrinfo fun _ => .ret)

def clientConnectFor : Operation :=
  ensureLoopAlive (.renew (.start .getaddrinfo
    (.waitFor .completion (fun _ => .ret) (.waitFor .completion (fun _ => .ret) .ret))))

def serverListen : Operation :=
  ensureLoopAlive (.test (fun fields => fields.tcpServer.any ServerFields.listening) .ret
    (.start .serverInit (.start .ip4Addr (.start .tcpBind (.start .listen .ret)))))

/-- The guards `TcpServer::accept` and `accept_for` share. -/
def serverAcceptStart (next : Operation) : Operation :=
  ensureLoopAlive
    (ensure (fun fields => fields.tcpServer.any ServerFields.listening)
      (.runtime "TcpServer is not listening")
      (ensure (fun fields => !fields.tcpServer.any ServerFields.closing)
        (.runtime "TcpServer is closed")
        (.test (fun fields => fields.tcpServer.any fun server => server.accepted != 0) .ret
          (.renew next))))

def serverAccept (socket : SocketId) : Operation :=
  serverAcceptStart (.get (.acceptWaiter socket) fun _ => .ret)

def serverAcceptFor (socket : SocketId) : Operation :=
  serverAcceptStart
    (.waitFor (.acceptWaiter socket) (fun _ => .ret) (recheck (.acceptWaiter socket)))

/-- `TcpServer::close`: `begin_close` fails the accept waiters and does not wait. -/
def serverClose (socket : SocketId) (next : Operation) : Operation :=
  .test (fun fields => fields.tcpServer.any ServerFields.closing) next (.signal socket next)

/-! ## UDP -/

def udpClosed (fields : Fields) : Bool := fields.udp.any UdpFields.closed

def invalidUdp : Error := .runtime "invalid udp socket"

def udpBind : Operation :=
  ensure (fun fields => !udpClosed fields) invalidUdp
    (ensureLoopAlive (.test (fun fields => fields.udp.any UdpFields.bound) .ret
      (ensure Fields.addressValid (.runtime "invalid udp bind address")
        (.start .udpBind .ret))))

def udpSendTo (payload : Bytes) : Operation :=
  ensure (fun fields => !udpClosed fields) invalidUdp
    (ensureLoopAlive (if payload.isEmpty then .ret else
      ensure Fields.addressValid (.runtime "invalid udp destination address")
        (await .udpSend fun _ => .ret)))

/-- The guards `UdpSocket::recv_from` and `recv_from_for` share, up to
`uv_udp_recv_start`. -/
def udpRecvStart (next : Operation) : Operation :=
  ensure (fun fields => !udpClosed fields) invalidUdp
    (ensureLoopAlive
      (.test (fun fields => fields.udp.any fun udp => udp.buffered != 0) .ret
        (ensure (fun fields => !fields.udp.any UdpFields.pendingRecv)
          (.runtime "another udp recv is already pending")
          (.renew (.start .udpRecvStart next)))))

def udpRecvFrom : Operation := udpRecvStart (.get .completion fun _ => .ret)

def udpRecvFromFor : Operation :=
  udpRecvStart (.waitFor .completion (fun _ => .ret) (recheck .completion))

/-- `UdpSocket::close`. -/
def udpClose (next : Operation) : Operation :=
  .test Fields.alive
    (.renew (.test udpClosed
      (.setValue (.get .completion fun _ => next)) (.get .completion fun _ => next)))
    next

/-! ## Sockets -/

def isTcp (fields : Fields) : Bool := fields.type = .tcp

def hasUdp (fields : Fields) : Bool := fields.udp.isSome

/-- Make the UDP socket if there is none. -/
def emplaceUdp (next : Operation) : Operation := .test hasUdp next (.start .udpInit next)

def bind : Operation :=
  .test Fields.closed (.throws socketClosed) (.test isTcp .ret (emplaceUdp udpBind))

def listen : Operation :=
  ensure isTcp listenTcpOnly (ensure Fields.hasLocal bindFirst serverListen)

def acceptable (fields : Fields) : Bool :=
  isTcp fields && fields.listening && fields.tcpServer.isSome

def accept (socket : SocketId) : Operation :=
  ensure acceptable (acceptListening false) (serverAccept socket)

def acceptFor (socket : SocketId) : Operation :=
  ensure acceptable (acceptListening true) (serverAcceptFor socket)

def connect : Operation :=
  .test Fields.closed (.throws socketClosed) (.test isTcp clientConnect (emplaceUdp .ret))

def connectFor : Operation :=
  .test Fields.closed (.throws socketClosed) (.test isTcp clientConnectFor (emplaceUdp .ret))

def send (data : Bytes) : Operation :=
  .test isTcp
    (ensure (fun fields => fields.tcpConn.isSome) tcpNotConnected (connectionWrite data))
    (ensure (fun fields => hasUdp fields && fields.hasPeer) udpNotConnected (udpSendTo data))

def recv : Operation :=
  .test isTcp
    (ensure (fun fields => fields.tcpConn.isSome) tcpNotConnected connectionRead)
    (ensure hasUdp udpNotInitialized udpRecvFrom)

def recvFor : Operation :=
  .test isTcp
    (ensure (fun fields => fields.tcpConn.isSome) tcpNotConnected connectionReadFor)
    (ensure hasUdp udpNotInitialized udpRecvFromFor)

def sendTo (data : Bytes) : Operation :=
  ensure (fun fields => !isTcp fields) sendToUdpOnly (emplaceUdp (udpSendTo data))

def recvFrom : Operation :=
  ensure (fun fields => !isTcp fields && hasUdp fields) (recvFromUdpOnly false) udpRecvFrom

def recvFromFor : Operation :=
  ensure (fun fields => !isTcp fields && hasUdp fields) (recvFromUdpOnly true) udpRecvFromFor

/-- `Socket::close`. Resetting a slot runs the destructor of what it holds, which closes
once more. -/
def socketClose (socket : SocketId) : Operation :=
  .test Fields.closed .ret
    (.test (fun fields => fields.tcpConn.isSome)
      (connectionClose (connectionClose closeServer)) closeServer)
where
  closeServer : Operation :=
    .test (fun fields => fields.tcpServer.isSome) (serverClose socket closeUdp) closeUdp
  closeUdp : Operation := .test hasUdp (udpClose (udpClose .ret)) .ret

/-- `~Socket::Impl`, the last member first. Nobody else has the socket, so nobody waits in its
`accept`, and the destructor of `tcp_server` signals to nobody. -/
def socketDestructor : Operation := .test hasUdp (udpClose closeConnection) closeConnection
where
  closeConnection : Operation :=
    .test (fun fields => fields.tcpConn.isSome) (connectionClose .ret) .ret

/-! ## Process channels and periodic tasks -/

def fsWriteOnce (size : Nat) : Operation :=
  if size = 0 then .ret else await .fsWrite fun _ => .ret

def fsReadOnce (size : Nat) : Operation :=
  if size = 0 then .ret else await .fsRead fun _ => .ret

def fsCloseOnce : Operation := await .fsClose fun _ => .ret

def startPeriodicOnLoop : Operation :=
  ensureLoopAlive (.start .periodicInit (.start .periodicStart .ret))

end Fiberuv.EventLoop
