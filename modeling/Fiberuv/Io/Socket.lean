import Fiberuv.Foundation.Machine
import Fiberuv.Uv

/-! # The unified socket

`Socket::Impl` with the fibers that call its operations. The code between two
suspension points is one step. An operation either ends in its first step or leaves its
fiber waiting for a future; `close` has up to four such points, because the destructor
of a `TcpConnection` or `UdpSocket` that is not closed waits as well.

The label says how the libuv calls of a step end. Resetting an `std::optional` empties
it first and then destroys what it held.
-/

namespace Fiberuv.Io.Socket

open Foundation

abbrev FiberId := Nat
abbrev HandleId := Nat

inductive SocketType where
  | tcp
  | udp
  deriving DecidableEq

structure Endpoint where
  host : String
  port : Int
  deriving DecidableEq

/-- The `closing` and `closed` flags of a `ConnectionState` or `UdpState`. -/
inductive Handle where
  | opened
  | closing
  | closed
  deriving DecidableEq

/-- `TcpServer::Impl::listening`. -/
structure Server where
  listening : Bool := false

inductive Op where
  | bind (localEndpoint : Endpoint)
  | listen (backlog : Int)
  | accept (timed : Bool)
  | connect (timed : Bool) (remote : Endpoint)
  | send
  | recv (timed : Bool)
  | sendTo (remote : Endpoint)
  | recvFrom (timed : Bool)
  | close

/-- What a fiber waits for inside an operation. -/
inductive Wait where
  | accept (timed : Bool)
  | connect (timed : Bool) (remote : Endpoint)
  | send
  | recv (timed setsPeer : Bool)
  /-- `tcp_conn->close()` in `close`. -/
  | closeConn (handle : HandleId)
  /-- The destructor in `tcp_conn.reset()`. -/
  | destroyConn (handle : HandleId)
  | closeUdp (handle : HandleId)
  | destroyUdp (handle : HandleId)

inductive Frame where
  | idle
  | waiting (wait : Wait)
  | returned
  | threw (error : Error)

/-- How the libuv part of a step ends. -/
inductive Choice where
  /-- A sub-handle cannot be made. -/
  | refused (error : Error)
  | failed (error : Error)
  | completed (sender : Endpoint)
  | suspended
  | expired

structure State where
  type : SocketType
  closed : Bool := false
  listening : Bool := false
  localEndpoint : Option Endpoint := none
  peer : Option Endpoint := none
  tcpServer : Option Server := none
  tcpConn : Option HandleId := none
  udp : Option HandleId := none
  alive : Bool := true
  handle : HandleId → Handle := fun _ => .opened
  /-- The first handle that has not been made. -/
  fresh : HandleId := 0
  frame : FiberId → Frame := fun _ => .idle

def socketClosed : Error := .runtime "socket is closed"
def listenTcpOnly : Error := .runtime "listen is only valid for TCP sockets"
def bindFirst : Error := .runtime "bind() must be called before listen()"
def tcpNotConnected : Error := .runtime "TCP socket is not connected"
def udpNotConnected : Error := .runtime "UDP socket is not connected"
def udpNotInitialized : Error := .runtime "UDP socket is not initialized"
def sendToUdpOnly : Error := .runtime "send_to() is only valid for UDP sockets"

def acceptListening : Bool → Error
  | false => .runtime "accept() requires a listening TCP socket"
  | true => .runtime "accept_for() requires a listening TCP socket"

def recvFromUdpOnly : Bool → Error
  | false => .runtime "recv_from() is only valid for UDP sockets"
  | true => .runtime "recv_from_for() is only valid for UDP sockets"

namespace State

def setFrame (state : State) (id : FiberId) (frame : Frame) : State :=
  { state with frame := Function.update state.frame id frame }

def setHandle (state : State) (handle : HandleId) (status : Handle) : State :=
  { state with handle := Function.update state.handle handle status }

/-- Make the UDP socket if there is none. -/
def ensureUdp (state : State) : State :=
  match state.udp with
  | some _ => state
  | none => { state with udp := some state.fresh, fresh := state.fresh + 1 }

/-- The rest of an operation that only calls libuv and waits. It can fail or have its
result at once; a time limit passes only while it waits. -/
def await (state : State) (id : FiberId) (wait : Wait) : Choice → State
  | .refused error => state.setFrame id (.threw error)
  | .failed error => state.setFrame id (.threw error)
  | .completed _ => state.setFrame id .returned
  | .suspended => state.setFrame id (.waiting wait)
  | .expired => state.setFrame id (.waiting wait)

def bind (state : State) (id : FiberId) (localEndpoint : Endpoint) (choice : Choice) : State :=
  if state.closed then state.setFrame id (.threw socketClosed)
  else if state.type = .tcp then
    { state with localEndpoint := some localEndpoint }.setFrame id .returned
  else
    match choice with
    | .refused error => state.setFrame id (.threw error)
    -- The UDP socket is kept although binding it failed.
    | .failed error => state.ensureUdp.setFrame id (.threw error)
    | _ => { state.ensureUdp with localEndpoint := some localEndpoint }.setFrame id .returned

/-- `listen` once its checks have passed; `closed` is not one of them. A server that
listens already is left as it is. -/
def listenTcp (state : State) (id : FiberId) (choice : Choice) : State :=
  if state.tcpServer.any Server.listening then
    { state with listening := true }.setFrame id .returned
  else
    match choice with
    -- The server is stored before it is asked to listen, and stays when that fails.
    | .refused error => { state with tcpServer := some ⟨false⟩ }.setFrame id (.threw error)
    | .failed error => { state with tcpServer := some ⟨false⟩ }.setFrame id (.threw error)
    | _ => { state with tcpServer := some ⟨true⟩, listening := true }.setFrame id .returned

def listen (state : State) (id : FiberId) (choice : Choice) : State :=
  if state.type ≠ .tcp then state.setFrame id (.threw listenTcpOnly)
  else if state.localEndpoint = none then state.setFrame id (.threw bindFirst)
  else state.listenTcp id choice

def accept (state : State) (id : FiberId) (timed : Bool) (choice : Choice) : State :=
  if state.type ≠ .tcp ∨ ¬ state.listening ∨ state.tcpServer.isNone then
    state.setFrame id (.threw (acceptListening timed))
  else state.await id (.accept timed) choice

/-- `TcpClient::connect` waits for the resolver unless it cannot start. -/
def awaitConnect (state : State) (id : FiberId) (timed : Bool) (remote : Endpoint) :
    Choice → State
  | .completed _ => state.setFrame id (.waiting (.connect timed remote))
  | choice => state.await id (.connect timed remote) choice

def connect (state : State) (id : FiberId) (timed : Bool) (remote : Endpoint) (choice : Choice) :
    State :=
  if state.closed then state.setFrame id (.threw socketClosed)
  else if state.type = .tcp then state.awaitConnect id timed remote choice
  else
    match choice with
    | .refused error => state.setFrame id (.threw error)
    | _ => { state.ensureUdp with peer := some remote }.setFrame id .returned

def send (state : State) (id : FiberId) (choice : Choice) : State :=
  if state.type = .tcp then
    if state.tcpConn = none then state.setFrame id (.threw tcpNotConnected)
    else state.await id .send choice
  else if state.udp = none ∨ state.peer = none then state.setFrame id (.threw udpNotConnected)
  else state.await id .send choice

/-- A receive has got its data, and a datagram also its sender. -/
def received (state : State) (id : FiberId) (setsPeer : Bool) (sender : Endpoint) : State :=
  if setsPeer then { state with peer := some sender }.setFrame id .returned
  else state.setFrame id .returned

def awaitRecv (state : State) (id : FiberId) (timed setsPeer : Bool) : Choice → State
  | .completed sender => state.received id setsPeer sender
  | choice => state.await id (.recv timed setsPeer) choice

def recv (state : State) (id : FiberId) (timed : Bool) (choice : Choice) : State :=
  if state.type = .tcp then
    if state.tcpConn = none then state.setFrame id (.threw tcpNotConnected)
    else state.awaitRecv id timed false choice
  else if state.udp = none then state.setFrame id (.threw udpNotInitialized)
  else state.awaitRecv id timed true choice

/-- `send_to` does not test `closed` either. -/
def sendTo (state : State) (id : FiberId) (choice : Choice) : State :=
  if state.type ≠ .udp then state.setFrame id (.threw sendToUdpOnly)
  else
    match choice with
    | .refused error => state.setFrame id (.threw error)
    | _ => state.ensureUdp.await id .send choice

def recvFrom (state : State) (id : FiberId) (timed : Bool) (choice : Choice) : State :=
  if state.type ≠ .udp ∨ state.udp = none then
    state.setFrame id (.threw (recvFromUdpOnly timed))
  else state.awaitRecv id timed false choice

/-- Close a connection or UDP socket: go on if it is closed or the loop is dead, and
wait for the close callback otherwise. -/
def awaitClosed (state : State) (id : FiberId) (handle : HandleId) (wait : Wait)
    (rest : State → State) : State :=
  if state.handle handle = .closed ∨ ¬ state.alive then rest (state.setHandle handle .closed)
  else (state.setHandle handle .closing).setFrame id (.waiting wait)

def closeFinish (state : State) (id : FiberId) : State :=
  { state with closed := true, listening := false }.setFrame id .returned

/-- `udp.reset()` and the rest of `close`. -/
def resetUdp (state : State) (id : FiberId) : State :=
  match state.udp with
  | none => state.closeFinish id
  | some handle =>
      { state with udp := none }.awaitClosed id handle (.destroyUdp handle) (·.closeFinish id)

def closeUdp (state : State) (id : FiberId) : State :=
  match state.udp with
  | none => state.closeFinish id
  | some handle => state.awaitClosed id handle (.closeUdp handle) (·.resetUdp id)

/-- `tcp_server->close()` and `tcp_server.reset()`, which do not wait, and the rest. -/
def closeServer (state : State) (id : FiberId) : State :=
  { state with tcpServer := none }.closeUdp id

/-- `tcp_conn.reset()` and the rest of `close`. -/
def resetConn (state : State) (id : FiberId) : State :=
  match state.tcpConn with
  | none => state.closeServer id
  | some handle =>
      { state with tcpConn := none }.awaitClosed id handle (.destroyConn handle) (·.closeServer id)

def closeConn (state : State) (id : FiberId) : State :=
  match state.tcpConn with
  | none => state.closeServer id
  | some handle => state.awaitClosed id handle (.closeConn handle) (·.resetConn id)

/-- On a dead loop nothing waits and everything is dropped at once. -/
def closeDead (state : State) (id : FiberId) : State :=
  { state with
    closed := true
    listening := false
    tcpConn := none
    tcpServer := none
    udp := none }.setFrame id .returned

def close (state : State) (id : FiberId) : State :=
  if !state.alive then state.closeDead id
  else if state.closed then state.setFrame id .returned
  else state.closeConn id

/-- `ensure_loop_alive` before the operation proper. -/
def whileAlive (state : State) (id : FiberId) (body : State → State) : State :=
  if !state.alive then state.setFrame id (.threw loopNotAlive) else body state

/-- An operation up to its first suspension point. All of them but `close` require the
loop to be alive. -/
def begin (state : State) (id : FiberId) (choice : Choice) : Op → State
  | .bind localEndpoint => state.whileAlive id (·.bind id localEndpoint choice)
  | .listen _ => state.whileAlive id (·.listen id choice)
  | .accept timed => state.whileAlive id (·.accept id timed choice)
  | .connect timed remote => state.whileAlive id (·.connect id timed remote choice)
  | .send => state.whileAlive id (·.send id choice)
  | .recv timed => state.whileAlive id (·.recv id timed choice)
  | .sendTo _ => state.whileAlive id (·.sendTo id choice)
  | .recvFrom timed => state.whileAlive id (·.recvFrom id timed choice)
  | .close => state.close id

/-- `connect` after its wait: `closed` is not tested again. -/
def connected (state : State) (id : FiberId) (remote : Endpoint) : State :=
  { state with
    tcpConn := some state.fresh
    fresh := state.fresh + 1
    peer := some remote }.setFrame id .returned

/-- The end of a wait: its result, an error, or its time limit if it has one. -/
def settle (state : State) (id : FiberId) (timed : Bool) (done : Endpoint → State) :
    Choice → Option State
  | .completed sender => some (done sender)
  | .failed error => some (state.setFrame id (.threw error))
  | .expired => if timed then some (state.setFrame id .returned) else none
  | .refused _ => none
  | .suspended => none

/-- An operation from one suspension point to the next. -/
def resume (state : State) (id : FiberId) (choice : Choice) : Wait → Option State
  | .accept timed => state.settle id timed (fun _ => state.setFrame id .returned) choice
  | .connect timed remote => state.settle id timed (fun _ => state.connected id remote) choice
  | .send => state.settle id false (fun _ => state.setFrame id .returned) choice
  | .recv timed setsPeer => state.settle id timed (state.received id setsPeer) choice
  | .closeConn handle =>
      if state.handle handle = .closed then some (state.resetConn id) else none
  | .destroyConn handle =>
      if state.handle handle = .closed then some (state.closeServer id) else none
  | .closeUdp handle =>
      if state.handle handle = .closed then some (state.resetUdp id) else none
  | .destroyUdp handle =>
      if state.handle handle = .closed then some (state.closeFinish id) else none

end State

inductive Action where
  | begin (id : FiberId) (op : Op) (choice : Choice)
  | resume (id : FiberId) (choice : Choice)
  /-- The close callback of a handle. -/
  | onClosed (handle : HandleId)
  | endLoop

def step (state : State) : Action → Option State
  | .begin id op choice =>
      match state.frame id with
      | .waiting _ => none
      | _ => some (state.begin id choice op)
  | .resume id choice =>
      match state.frame id with
      | .waiting wait => state.resume id choice wait
      | _ => none
  | .onClosed handle =>
      if state.handle handle = .closing then some (state.setHandle handle .closed) else none
  | .endLoop => some { state with alive := false }

def machine : Machine State Action where
  step := step

/-- The ways a socket is made: `Socket::tcp`, `Socket::udp`, and the child `accept`
makes. -/
inductive Origin where
  | tcp
  | udp
  | accepted

def initial : Origin → State
  | .tcp => { type := .tcp }
  | .udp => { type := .udp, udp := some 0, fresh := 1 }
  | .accepted => { type := .tcp, tcpConn := some 0, fresh := 1 }

/-- A call of `close` is in progress. -/
def Frame.closing : Frame → Bool
  | .waiting (.closeConn _) => true
  | .waiting (.destroyConn _) => true
  | .waiting (.closeUdp _) => true
  | .waiting (.destroyUdp _) => true
  | _ => false

/-- A closed socket that no one is closing has no sub-handle and does not listen. -/
def StaysClosed (state : State) : Prop :=
  state.closed = true → (∀ id, (state.frame id).closing = false) →
    state.tcpConn = none ∧ state.tcpServer.isNone ∧ state.udp = none ∧ state.listening = false

def somewhere : Endpoint := ⟨"127.0.0.1", 9000⟩

/-- A `connect` is under way when the socket is closed. -/
def closedWhileConnecting : List Action :=
  [.begin 0 (.connect false somewhere) .suspended, .begin 1 .close .suspended,
    .resume 0 (.completed somewhere)]

theorem reopened_closedWhileConnecting :
    ¬ ∀ (origin : Origin) (state : State), machine.Reachable (initial origin) state →
      StaysClosed state := by
  intro hall
  have hstays := hall .tcp _ ⟨closedWhileConnecting, rfl⟩ rfl (by
    rintro (_ | _ | id) <;> rfl)
  exact nomatch hstays.1

end Fiberuv.Io.Socket
