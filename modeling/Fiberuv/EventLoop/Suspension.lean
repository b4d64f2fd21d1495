import Fiberuv.EventLoop.Operations

/-! # Which calls wait for libuv

The calls that threads post to a loop, and the exact condition under which the closure of
a call stops in a wait that only a libuv callback can end. The condition reads the
arguments of the call, the fields of its file or socket, and whether libuv accepts the
requests; it does not run the closure.
-/

namespace Fiberuv.EventLoop

open Foundation Foundation.Operation

/-- What is posted to a loop: the closures of `invoke_on_loop`, those of periodic tasks,
and the results of `run_blocking`. A process channel posts one closure for each chunk. -/
inductive Call where
  | fileOpen
  | readAt
  | writeAt (data : Bytes)
  | fileClose
  | createDirectory
  | removeDirectory
  | createFile
  | removeFile
  | waitFd
  | waitFdFor
  | bind
  | listen
  | accept (socket : SocketId)
  | acceptFor (socket : SocketId)
  | connect
  | connectFor
  | send (data : Bytes)
  | recv
  | recvFor
  | sendTo (data : Bytes)
  | recvFrom
  | recvFromFor
  | socketClose (socket : SocketId)
  | channelWrite (size : Nat)
  | channelRead (size : Nat)
  | channelClose
  | every
  | stopPeriodic
  | blockingResult

namespace Call

def closure : Call → Operation
  | fileOpen => fsOpen fun _ => .ret
  | readAt => fsReadAt
  | writeAt data => fsWriteAt data
  | fileClose => EventLoop.fileClose
  | createDirectory => EventLoop.createDirectory
  | removeDirectory => EventLoop.removeDirectory
  | createFile => EventLoop.createFile
  | removeFile => EventLoop.removeFile
  | waitFd => EventLoop.waitFd
  | waitFdFor => EventLoop.waitFdFor
  | bind => EventLoop.bind
  | listen => EventLoop.listen
  | accept socket => EventLoop.accept socket
  | acceptFor socket => EventLoop.acceptFor socket
  | connect => EventLoop.connect
  | connectFor => EventLoop.connectFor
  | send data => EventLoop.send data
  | recv => EventLoop.recv
  | recvFor => EventLoop.recvFor
  | sendTo data => EventLoop.sendTo data
  | recvFrom => EventLoop.recvFrom
  | recvFromFor => EventLoop.recvFromFor
  | socketClose socket => EventLoop.socketClose socket
  | channelWrite size => fsWriteOnce size
  | channelRead size => fsReadOnce size
  | channelClose => fsCloseOnce
  | every => startPeriodicOnLoop
  -- `uv_timer_stop` and `uv_close` without a wait; `promise->set_value` of a fiber's promise.
  | stopPeriodic => .ret
  | blockingResult => .ret

/-- The closure has captured the `Impl` of a socket, which it keeps until it is destroyed.
(Destroying the `Impl` of a file closes nothing.) -/
def keepsSocket : Call → Bool
  | bind | listen | accept _ | acceptFor _ | connect | connectFor | send _ | recv | recvFor
  | sendTo _ | recvFrom | recvFromFor | socketClose _ => true
  | _ => false

/-- What the destruction of the closure runs when nobody else has its socket any more. -/
def destructor (call : Call) : Operation :=
  if call.keepsSocket then socketDestructor else .ret

end Call

/-- libuv accepts the request. -/
def Started (codes : Request → Int) (request : Request) : Prop :=
  refusal codes request = none

namespace Fields

/-- A TCP receive on these fields has nothing to return and nothing to refuse. -/
def ConnectionEmpty (fields : Fields) : Prop :=
  ∃ conn ∈ fields.tcpConn, conn.closed = false ∧ conn.buffered = 0 ∧ conn.eof = false ∧
    conn.pendingRead = false

def UdpEmpty (fields : Fields) : Prop :=
  ∃ udp ∈ fields.udp, udp.closed = false ∧ udp.buffered = 0 ∧ udp.pendingRecv = false

def ConnectionOpen (fields : Fields) : Prop :=
  ∃ conn ∈ fields.tcpConn, conn.closed = false

def UdpOpen (fields : Fields) : Prop :=
  ∃ udp ∈ fields.udp, udp.closed = false

end Fields

/-- The call has something to wait for that only a callback of libuv delivers. -/
def Call.NeedsCompletion (fields : Fields) (codes : Request → Int) : Call → Prop
  | fileOpen => Started codes .fsOpen
  | readAt => Started codes .fsRead
  | writeAt data => data ≠ [] ∧ Started codes .fsWrite
  | fileClose => fields.closed = false ∧ 0 ≤ fields.fd ∧ Started codes .fsClose
  | createDirectory => Started codes .fsMkdir
  | removeDirectory => Started codes .fsRmdir
  | createFile => Started codes .fsOpen
  | removeFile => Started codes .fsUnlink
  | waitFd => Started codes .pollInit ∧ Started codes .pollStart
  | waitFdFor =>
      Started codes .pollInit ∧ Started codes .timerInit ∧ Started codes .pollStart ∧
        Started codes .timerStart
  | bind => False
  | listen => False
  | accept _ => False
  | acceptFor _ => False
  | connect =>
      fields.closed = false ∧ fields.type = .tcp ∧ fields.alive ∧ Started codes .getaddrinfo
  | connectFor =>
      fields.closed = false ∧ fields.type = .tcp ∧ fields.alive ∧ Started codes .getaddrinfo
  | send data =>
      data ≠ [] ∧ fields.alive ∧
        match fields.type with
        | .tcp => fields.ConnectionOpen ∧ Started codes .write
        | .udp => fields.UdpOpen ∧ fields.hasPeer ∧ fields.addressValid ∧ Started codes .udpSend
  | recv => Receives
  | recvFor => Receives
  | sendTo data =>
      data ≠ [] ∧ fields.alive ∧ fields.type = .udp ∧ fields.addressValid ∧
        (fields.UdpOpen ∨ fields.udp = none ∧ Started codes .udpInit) ∧ Started codes .udpSend
  | recvFrom =>
      fields.alive ∧ fields.type = .udp ∧ fields.UdpEmpty ∧ Started codes .udpRecvStart
  | recvFromFor =>
      fields.alive ∧ fields.type = .udp ∧ fields.UdpEmpty ∧ Started codes .udpRecvStart
  | socketClose _ =>
      fields.closed = false ∧ fields.alive ∧ (fields.ConnectionOpen ∨ fields.UdpOpen)
  | channelWrite size => size ≠ 0 ∧ Started codes .fsWrite
  | channelRead size => size ≠ 0 ∧ Started codes .fsRead
  | channelClose => Started codes .fsClose
  | every => False
  | stopPeriodic => False
  | blockingResult => False
where
  /-- `Socket::recv` and `recv_for`. -/
  Receives : Prop :=
    fields.alive ∧
      match fields.type with
      | .tcp => fields.ConnectionEmpty ∧ Started codes .readStart
      | .udp => fields.UdpEmpty ∧ Started codes .udpRecvStart

/-- The call has a socket that is still open, so that closing it takes a completion. -/
def Call.LeavesOpen (fields : Fields) (call : Call) : Prop :=
  call.keepsSocket = true ∧ fields.alive ∧ (fields.ConnectionOpen ∨ fields.UdpOpen)

/-- The segment that starts here stops in a wait only libuv can end. -/
abbrev Blocks (operation : Operation) (fields : Fields) (codes : Request → Int)
    (cell : Option (Except Error Int)) : Prop :=
  (operation.exec fields (refusal codes) cell).stop.Awaits (· = .completion)

section

variable {fields : Fields} {codes : Request → Int} {cell : Option (Except Error Int)}

@[simp] theorem blocks_ensure (query : Fields → Bool) (error : Error) (next : Operation) :
    Blocks (ensure query error next) fields codes cell ↔
      query fields = true ∧ Blocks next fields codes cell := by
  simp [ensure]

@[simp] theorem blocks_ensureLoopAlive (next : Operation) :
    Blocks (ensureLoopAlive next) fields codes cell ↔
      fields.alive = true ∧ Blocks next fields codes cell := by
  simp [ensureLoopAlive]

@[simp] theorem blocks_await (request : Request) (next : Int → Operation) :
    Blocks (await request next) fields codes cell ↔ Started codes request := by
  simp [await, Started]

theorem blocks_connectionReadStart {next : Operation} (hnext : Blocks next fields codes none)
    (hconn : fields.tcpConn.isSome) :
    Blocks (connectionReadStart next) fields codes cell ↔
      fields.alive ∧ fields.ConnectionEmpty ∧ Started codes .readStart := by
  obtain ⟨conn, hconn⟩ := Option.isSome_iff_exists.mp hconn
  have hcount : (conn.buffered != 0) = false ↔ conn.buffered = 0 := by simp
  simp only [connectionReadStart, connectionClosed, Fields.ConnectionEmpty, Started, hconn,
    blocks_ensure, blocks_ensureLoopAlive, awaits_test, awaits_ret, awaits_renew, awaits_start,
    Option.any_some, Option.mem_some_iff, exists_eq_left', hcount, hnext, and_true, and_false,
    false_or, Bool.not_eq_true']
  tauto

theorem blocks_udpRecvStart {next : Operation} (hnext : Blocks next fields codes none)
    (hudp : hasUdp fields) :
    Blocks (udpRecvStart next) fields codes cell ↔
      fields.alive ∧ fields.UdpEmpty ∧ Started codes .udpRecvStart := by
  obtain ⟨udp, hudp⟩ := Option.isSome_iff_exists.mp hudp
  have hcount : (udp.buffered != 0) = false ↔ udp.buffered = 0 := by simp
  simp only [udpRecvStart, udpClosed, Fields.UdpEmpty, Started, hudp,
    blocks_ensure, blocks_ensureLoopAlive, awaits_test, awaits_ret, awaits_renew, awaits_start,
    Option.any_some, Option.mem_some_iff, exists_eq_left', hcount, hnext, and_true, and_false,
    false_or, Bool.not_eq_true']
  tauto

theorem blocks_connectionWrite (payload : Bytes) :
    Blocks (connectionWrite payload) fields codes cell ↔
      connectionClosed fields = false ∧ fields.alive ∧ payload ≠ [] ∧ Started codes .write := by
  cases payload <;> simp [connectionWrite]

theorem blocks_udpSendTo (payload : Bytes) :
    Blocks (udpSendTo payload) fields codes cell ↔
      udpClosed fields = false ∧ fields.alive ∧ payload ≠ [] ∧ fields.addressValid ∧
        Started codes .udpSend := by
  cases payload <;> simp [udpSendTo]

/-- Closing an open connection waits; otherwise the operation goes on at once. -/
theorem blocks_connectionClose (next : Operation) :
    Blocks (connectionClose next) fields codes cell ↔
      (connectionClosed fields = false ∧ fields.alive) ∨
        ((connectionClosed fields ∨ fields.alive = false) ∧
          Blocks next fields codes (some (.ok 0))) := by
  simp only [connectionClose, awaits_renew, awaits_test, awaits_setValue, awaits_get_ok,
    awaits_get, Bool.or_eq_true, Bool.or_eq_false_iff, Bool.not_eq_true', Bool.not_eq_false',
    and_true]
  tauto

theorem blocks_udpClose (next : Operation) :
    Blocks (udpClose next) fields codes cell ↔
      (udpClosed fields = false ∧ fields.alive) ∨
        (udpClosed fields ∧ fields.alive ∧ Blocks next fields codes (some (.ok 0))) ∨
        (fields.alive = false ∧ Blocks next fields codes cell) := by
  simp only [udpClose, awaits_renew, awaits_test, awaits_setValue, awaits_get_ok, awaits_get,
    and_true]
  tauto

theorem blocks_closeUdp :
    Blocks socketClose.closeUdp fields codes cell ↔ fields.alive ∧ fields.UdpOpen := by
  cases hudp : fields.udp with
  | none => simp [socketClose.closeUdp, hasUdp, Fields.UdpOpen, hudp]
  | some udp =>
      cases halive : fields.alive <;>
        simp [socketClose.closeUdp, blocks_udpClose, udpClosed, hasUdp, Fields.UdpOpen, hudp,
          halive]

theorem blocks_closeServer (socket : SocketId) :
    Blocks (socketClose.closeServer socket) fields codes cell ↔
      fields.alive ∧ fields.UdpOpen :=
  awaits_test_of_iff
    (awaits_test_of_iff blocks_closeUdp ((awaits_signal _ _).trans blocks_closeUdp))
    blocks_closeUdp

theorem blocks_socketClose (socket : SocketId) :
    Blocks (socketClose socket) fields codes cell ↔
      fields.closed = false ∧ fields.alive ∧ (fields.ConnectionOpen ∨ fields.UdpOpen) := by
  simp only [socketClose, awaits_test, awaits_ret, blocks_connectionClose, blocks_closeServer]
  cases hconn : fields.tcpConn with
  | none => simp [Fields.ConnectionOpen, hconn]
  | some conn =>
      cases halive : fields.alive <;> cases hclosed : conn.closed <;>
        simp [connectionClosed, Fields.ConnectionOpen, hconn, hclosed]

theorem blocks_closeConnection :
    Blocks socketDestructor.closeConnection fields codes cell ↔
      fields.alive ∧ fields.ConnectionOpen := by
  cases hconn : fields.tcpConn with
  | none => simp [socketDestructor.closeConnection, Fields.ConnectionOpen, hconn]
  | some conn =>
      cases halive : fields.alive <;>
        simp [socketDestructor.closeConnection, blocks_connectionClose, connectionClosed,
          Fields.ConnectionOpen, hconn, halive]

theorem blocks_socketDestructor :
    Blocks socketDestructor fields codes cell ↔
      fields.alive ∧ (fields.ConnectionOpen ∨ fields.UdpOpen) := by
  simp only [socketDestructor, awaits_test, blocks_udpClose, blocks_closeConnection]
  cases hudp : fields.udp with
  | none => simp [hasUdp, Fields.UdpOpen, hudp]
  | some udp =>
      cases halive : fields.alive <;> cases hclosed : udp.closed <;>
        simp [hasUdp, udpClosed, Fields.UdpOpen, hudp, hclosed]

/-- `Socket::recv` and `recv_for`, which differ in how they wait. -/
theorem blocks_receive {nextRead nextRecv : Operation} (hread : Blocks nextRead fields codes none)
    (hrecv : Blocks nextRecv fields codes none) :
    Blocks (.test isTcp
        (ensure (fun fields => fields.tcpConn.isSome) Io.Socket.tcpNotConnected
          (connectionReadStart nextRead))
        (ensure hasUdp Io.Socket.udpNotInitialized (udpRecvStart nextRecv))) fields codes cell ↔
      Call.NeedsCompletion.Receives fields codes := by
  cases htype : fields.type with
  | tcp =>
      simp only [awaits_test, isTcp, htype, decide_true, true_and, Bool.true_eq_false, false_and,
        or_false, blocks_ensure, Call.NeedsCompletion.Receives]
      obtain hconn | ⟨conn, hconn⟩ := Option.eq_none_or_eq_some fields.tcpConn
      · simp [hconn, Fields.ConnectionEmpty]
      · simp [blocks_connectionReadStart hread, hconn]
  | udp =>
      simp only [awaits_test, isTcp, htype, reduceCtorEq, decide_false, Bool.false_eq_true,
        false_and, true_and, false_or, blocks_ensure, Call.NeedsCompletion.Receives]
      obtain hudp | ⟨udp, hudp⟩ := Option.eq_none_or_eq_some fields.udp
      · simp [hudp, hasUdp, Fields.UdpEmpty]
      · simp [blocks_udpRecvStart hrecv, hudp, hasUdp]

/-- `Socket::recv_from` and `recv_from_for`. -/
theorem blocks_receiveFrom {error : Error} {next : Operation}
    (hnext : Blocks next fields codes none) :
    Blocks (ensure (fun fields => !isTcp fields && hasUdp fields) error (udpRecvStart next))
        fields codes cell ↔
      fields.alive ∧ fields.type = .udp ∧ fields.UdpEmpty ∧ Started codes .udpRecvStart := by
  obtain hudp | ⟨udp, hudp⟩ := Option.eq_none_or_eq_some fields.udp
  · simp [hudp, hasUdp, Fields.UdpEmpty]
  · cases htype : fields.type <;>
      simp [blocks_udpRecvStart hnext, hudp, hasUdp, isTcp, htype]

theorem blocks_send (data : Bytes) :
    Blocks (send data) fields codes cell ↔ (Call.send data).NeedsCompletion fields codes := by
  cases htype : fields.type with
  | tcp =>
      obtain hconn | ⟨conn, hconn⟩ := Option.eq_none_or_eq_some fields.tcpConn <;>
        simp [send, blocks_connectionWrite, connectionClosed, isTcp, Call.NeedsCompletion,
          Fields.ConnectionOpen, htype, hconn]
      tauto
  | udp =>
      obtain hudp | ⟨udp, hudp⟩ := Option.eq_none_or_eq_some fields.udp <;>
        simp [send, blocks_udpSendTo, udpClosed, isTcp, hasUdp, Call.NeedsCompletion,
          Fields.UdpOpen, htype, hudp]
      tauto

theorem blocks_sendTo (data : Bytes) :
    Blocks (sendTo data) fields codes cell ↔
      (Call.sendTo data).NeedsCompletion fields codes := by
  cases htype : fields.type with
  | tcp => simp [sendTo, isTcp, Call.NeedsCompletion, htype]
  | udp =>
      obtain hudp | ⟨udp, hudp⟩ := Option.eq_none_or_eq_some fields.udp <;>
        simp [sendTo, emplaceUdp, blocks_udpSendTo, udpClosed, isTcp, hasUdp,
          Call.NeedsCompletion, Fields.UdpOpen, Started, htype, hudp] <;>
        tauto

/-- The closure of a call stops in a wait only libuv can end exactly when the call needs a
completion. -/
theorem Call.blocks_iff (call : Call) :
    Blocks call.closure fields codes cell ↔ call.NeedsCompletion fields codes := by
  cases call with
  | fileOpen => simp [closure, NeedsCompletion, fsOpen]
  | readAt => simp [closure, NeedsCompletion, fsReadAt]
  | writeAt data => cases data <;> simp [closure, NeedsCompletion, fsWriteAt]
  | fileClose => simp [closure, NeedsCompletion, EventLoop.fileClose, fsClose]
  | createDirectory => simp [closure, NeedsCompletion, EventLoop.createDirectory]
  | removeDirectory => simp [closure, NeedsCompletion, EventLoop.removeDirectory]
  | createFile => simp [closure, NeedsCompletion, EventLoop.createFile, fsOpen]
  | removeFile => simp [closure, NeedsCompletion, EventLoop.removeFile]
  | waitFd => simp [closure, NeedsCompletion, EventLoop.waitFd, Started]
  | waitFdFor => simp [closure, NeedsCompletion, EventLoop.waitFdFor, Started]
  | bind => simp [closure, NeedsCompletion, EventLoop.bind, emplaceUdp, udpBind]
  | listen => simp [closure, NeedsCompletion, EventLoop.listen, serverListen]
  | accept socket =>
      simp [closure, NeedsCompletion, EventLoop.accept, serverAccept, serverAcceptStart]
  | acceptFor socket =>
      simp [closure, NeedsCompletion, EventLoop.acceptFor, serverAcceptFor, serverAcceptStart]
  | connect =>
      simp [closure, NeedsCompletion, EventLoop.connect, clientConnect, emplaceUdp, isTcp]
  | connectFor =>
      simp [closure, NeedsCompletion, EventLoop.connectFor, clientConnectFor, emplaceUdp, isTcp,
        Started]
  | send data => exact blocks_send data
  | recv => exact blocks_receive rfl rfl
  | recvFor => exact blocks_receive rfl rfl
  | sendTo data => exact blocks_sendTo data
  | recvFrom => exact blocks_receiveFrom rfl
  | recvFromFor => exact blocks_receiveFrom rfl
  | socketClose socket => exact blocks_socketClose socket
  | channelWrite size => cases size <;> simp [closure, NeedsCompletion, fsWriteOnce]
  | channelRead size => cases size <;> simp [closure, NeedsCompletion, fsReadOnce]
  | channelClose => simp [closure, NeedsCompletion, fsCloseOnce]
  | every => simp [closure, NeedsCompletion, startPeriodicOnLoop]
  | stopPeriodic => simp [closure, NeedsCompletion]
  | blockingResult => simp [closure, NeedsCompletion]

/-- The destruction of the closure stops in a wait only libuv can end exactly when the call
leaves its socket open. -/
theorem Call.blocks_destructor_iff (call : Call) :
    Blocks call.destructor fields codes cell ↔ call.LeavesOpen fields := by
  unfold destructor LeavesOpen
  split
  next hkeeps => simp [blocks_socketDestructor, hkeeps]
  next hnot => simp [hnot]

end

@[simp] theorem avoids_ensure {bad : Promise → Prop} (query : Fields → Bool) (error : Error)
    (next : Operation) : (ensure query error next).Avoids bad ↔ next.Avoids bad := by
  simp [ensure, Avoids]

@[simp] theorem avoids_ensureLoopAlive {bad : Promise → Prop} (next : Operation) :
    (ensureLoopAlive next).Avoids bad ↔ next.Avoids bad := by
  simp [ensureLoopAlive]

@[simp] theorem avoids_await (request : Request) (next : Int → Operation) :
    (await request next).Avoids (· ≠ .completion) ↔
      ∀ value, (next value).Avoids (· ≠ .completion) := by
  simp [await, Avoids]

end Fiberuv.EventLoop
