import Fiberuv.Foundation.Rendezvous
import Fiberuv.Tcp.Connection

/-! # The TCP server

`TcpServer::Impl` with the handles that share it, the fibers that accept from it, and the
connections it makes. A label is one stretch of code between two waits on a future, or one
callback of libuv.

Each call has an identifier, and the promise that an accepting call registers has the
identifier of that call. A connection is the number of its `create_connection`. Nobody but
the server holds a connection that waits in `accepted_connections`, so nothing happens to
it there except that the loop ends.
-/

namespace Fiberuv.Tcp.Server

open Foundation

abbrev ConnectionId := Nat
abbrev HandleId := Nat

def notInitialized : Error := .runtime "TcpServer is not initialized"
def notListening : Error := .runtime "TcpServer is not listening"
def tcpServerClosed : Error := .runtime "TcpServer is closed"
def serverIsClosed : Error := .runtime "server is closed"

/-- A call of `listen`, `accept` or, when `timed`, `accept_for` through some handle. -/
inductive Call where
  | idle
  | listened (result : Except Error Unit)
  | waiting (timed : Bool) (handle : HandleId)
  | returned (result : Except Error (Option ConnectionId))

/-- The history fields `arrived`, `registered`, `handed`, `dropped` and `failed` are read by
no operation. -/
structure State where
  serverInitialized : Bool := false
  listening : Bool := false
  closing : Bool := false
  serverClosed : Bool := false
  acceptedConnections : List ConnectionId := []
  acceptWaiters : List CallId := []
  keepalive : Bool := false
  alive : Bool := true
  /-- `uv_is_closing` of the listening handle. -/
  uvClosing : Bool := false
  /-- libuv still has to call `on_server_closed`. -/
  closeCallback : Bool := false
  /-- The `TcpServer` objects whose `impl_` is this state. -/
  handle : HandleId → Bool := fun id => id = 0
  call : CallId → Call := fun _ => .idle
  promise : CallId → Option (Except Error ConnectionId) := fun _ => none
  connection : ConnectionId → Tcp.State := fun _ => {}
  /-- The first connection that has not been made. -/
  fresh : ConnectionId := 0
  /-- A promise was set twice, or a null `impl_` was dereferenced. -/
  fault : Bool := false
  /-- The connections for which `uv_accept` succeeded. -/
  arrived : List ConnectionId := []
  registered : List CallId := []
  handed : List (CallId × ConnectionId) := []
  /-- The queued connections that `begin_close` has passed to `start_close`. -/
  dropped : List ConnectionId := []
  /-- The waiters whose promise `fail_accept_waiters` has set. -/
  failed : List CallId := []

/-- What the libuv calls of `listen` return. -/
structure ListenResults where
  init : Int
  addr : Int
  bind : Int
  listen : Int

inductive Action where
  | listen (call : CallId) (handle : HandleId) (results : ListenResults)
  | accept (call : CallId) (handle : HandleId)
  | acceptFor (call : CallId) (handle : HandleId)
  | resume (call : CallId) (expired : Bool)
  | onConnection (status createRc acceptRc : Int)
  /-- `TcpServer::close`, which is also the destructor. -/
  | close (handle : HandleId)
  | copy (source target : HandleId)
  | onServerClosed
  /-- A step of a connection that has left the server. -/
  | connection (id : ConnectionId) (action : Tcp.Action)
  /-- `~EventLoop` clears the lifetime flag. -/
  | endLoop
  /-- `~EventLoop` closes the handles that are left, without a callback. -/
  | walk

namespace State

def setCall (state : State) (call : CallId) (position : Call) : State :=
  { state with call := Function.update state.call call position }

/-- `set_value` and `set_exception`: a promise that is set already throws. -/
def setPromise (state : State) (call : CallId) (outcome : Except Error ConnectionId) : State :=
  match state.promise call with
  | none => { state with promise := Function.update state.promise call (some outcome) }
  | some _ => { state with fault := true }

def setConnection (state : State) (id : ConnectionId) (connection : Tcp.State) : State :=
  { state with connection := Function.update state.connection id connection }

/-- The loop of `fail_accept_waiters`, over the waiters that are left. -/
def failAcceptWaiters (error : Error) : List CallId → State → State
  | [], state => { state with acceptWaiters := [] }
  | waiter :: rest, state =>
      failAcceptWaiters error rest
        ({ state with acceptWaiters := rest, failed := state.failed ++ [waiter] }.setPromise waiter
          (.error error))

def dispatchAccepted (state : State) (id : ConnectionId) : State :=
  let state := { state with arrived := state.arrived ++ [id] }
  match state.acceptWaiters with
  | waiter :: rest =>
      { state with acceptWaiters := rest, handed := state.handed ++ [(waiter, id)] }.setPromise
        waiter (.ok id)
  | [] => { state with acceptedConnections := state.acceptedConnections ++ [id] }

/-- `create_connection`, when `uv_tcp_init` succeeds. -/
def createConnection (state : State) : State :=
  { state with fresh := state.fresh + 1 }.setConnection state.fresh { alive := state.alive }

def onConnection (state : State) (status createRc acceptRc : Int) : State :=
  if status < 0 || state.closing then state
  -- An exception of `create_connection` is swallowed.
  else if createRc < 0 then state
  else
    let created := state.createConnection
    if acceptRc < 0 then
      created.setConnection state.fresh ((created.connection state.fresh).startClose none)
    else created.dispatchAccepted state.fresh

/-- The loop of `begin_close` over the connections that are left. -/
def closeAccepted : List ConnectionId → State → State
  | [], state => { state with acceptedConnections := [] }
  | front :: rest, state =>
      closeAccepted rest
        ({ state with
          acceptedConnections := rest
          dropped := state.dropped ++ [front] }.setConnection front
            ((state.connection front).startClose none))

/-- The end of `begin_close`: the listening handle. -/
def closeServer (state : State) : State :=
  if state.serverInitialized && state.alive then
    if !state.uvClosing then { state with uvClosing := true, closeCallback := true }
    else { state with serverClosed := true, keepalive := false }
  else { state with serverClosed := true, keepalive := false }

def beginClose (state : State) : State :=
  if state.closing then state
  else
    let failed := failAcceptWaiters serverIsClosed state.acceptWaiters
      { state with closing := true }
    (closeAccepted failed.acceptedConnections failed).closeServer

def close (state : State) (handle : HandleId) : State :=
  if !state.handle handle then state
  else { state.beginClose with handle := Function.update state.beginClose.handle handle false }

def onServerClosed (state : State) : State :=
  let failed := failAcceptWaiters serverIsClosed state.acceptWaiters
    { state with serverClosed := true, closeCallback := false }
  if failed.closing then { failed with keepalive := false } else failed

def listen (state : State) (call : CallId) (handle : HandleId) (results : ListenResults) :
    State :=
  if !state.handle handle then state.setCall call (.listened (.error notInitialized))
  else if !state.alive then state.setCall call (.listened (.error loopNotAlive))
  else if state.listening then state.setCall call (.listened (.ok ()))
  else if results.init < 0 then
    state.setCall call (.listened (.error (.uv "uv_tcp_init(server)" results.init)))
  else
    let state := { state with serverInitialized := true }
    if results.addr ≠ 0 then
      state.setCall call (.listened (.error (.uv "uv_ip4_addr" results.addr)))
    else if results.bind < 0 then
      state.setCall call (.listened (.error (.uv "uv_tcp_bind" results.bind)))
    else if results.listen < 0 then
      state.setCall call (.listened (.error (.uv "uv_listen" results.listen)))
    else { state with listening := true, keepalive := true }.setCall call (.listened (.ok ()))

/-- The front of `accepted_connections` goes to this call. -/
def popFront (state : State) (call : CallId) (front : ConnectionId) (rest : List ConnectionId) :
    State :=
  { state with
    acceptedConnections := rest
    handed := state.handed ++ [(call, front)] }.setCall call (.returned (.ok (some front)))

/-- `accept_waiters.push_back(promise)`, and the wait for its future. -/
def register (state : State) (call : CallId) (timed : Bool) (handle : HandleId) : State :=
  { state with
    acceptWaiters := state.acceptWaiters ++ [call]
    registered := state.registered ++ [call] }.setCall call (.waiting timed handle)

/-- The common part of `accept` and `accept_for`, up to the wait. -/
def acceptOrWait (state : State) (call : CallId) (timed : Bool) (handle : HandleId) : State :=
  if !state.handle handle then state.setCall call (.returned (.error notInitialized))
  else if !state.alive then state.setCall call (.returned (.error loopNotAlive))
  else if !state.listening then state.setCall call (.returned (.error notListening))
  else if state.closing then state.setCall call (.returned (.error tcpServerClosed))
  else
    match state.acceptedConnections with
    | front :: rest => state.popFront call front rest
    | [] => state.register call timed handle

def accept (state : State) (call : CallId) (handle : HandleId) : State :=
  state.acceptOrWait call false handle

def acceptFor (state : State) (call : CallId) (handle : HandleId) : State :=
  state.acceptOrWait call true handle

/-- `future.get()` on a promise that is set. -/
def collect (state : State) (call : CallId) (outcome : Except Error ConnectionId) : State :=
  state.setCall call (.returned (outcome.map some))

/-- `accept_for` after its `wait_for` has timed out. -/
def acceptTimedOut (state : State) (call : CallId) (handle : HandleId) : State :=
  if !state.handle handle then { state with fault := true }
  else if call ∈ state.acceptWaiters then
    { state with acceptWaiters := state.acceptWaiters.erase call }.setCall call
      (.returned (.ok none))
  else
    match state.promise call with
    | some outcome => state.collect call outcome
    | none => state.setCall call (.returned (.ok none))

/-- `wait_for` tests the future again before it reports a timeout. -/
def resume (state : State) (call : CallId) (expired : Bool) : Option State :=
  match state.call call with
  | .waiting timed handle =>
      match state.promise call with
      | some outcome => some (state.collect call outcome)
      | none => if timed && expired then some (state.acceptTimedOut call handle) else none
  | _ => none

/-- `impl_` of the target shares the state if the one of the source does. -/
def copy (state : State) (source target : HandleId) : State :=
  { state with handle := Function.update state.handle target (state.handle source) }

def endLoop (state : State) : State :=
  { state with
    alive := false
    connection := fun id => { state.connection id with alive := false } }

def walk (state : State) : State :=
  { state with
    uvClosing := true
    connection := fun id =>
      if (state.connection id).uvClosing then state.connection id
      else (state.connection id).uvClose }

/-- The owner of a connection acts on it, or libuv does; the end of the loop is no step of
one connection. -/
def connectionStep (state : State) (id : ConnectionId) : Tcp.Action → Option State
  | .endLoop => none
  | .walk => none
  | action =>
      if id < state.fresh ∧ id ∉ state.acceptedConnections then
        ((state.connection id).step action).map (state.setConnection id)
      else none

def step (state : State) (action : Action) : Option State :=
  if state.fault then none
  else match action with
    | .listen call handle results =>
        match state.call call with
        | .idle => some (state.listen call handle results)
        | _ => none
    | .accept call handle =>
        match state.call call with
        | .idle => some (state.accept call handle)
        | _ => none
    | .acceptFor call handle =>
        match state.call call with
        | .idle => some (state.acceptFor call handle)
        | _ => none
    | .resume call expired => state.resume call expired
    | .onConnection status createRc acceptRc =>
        if state.listening then some (state.onConnection status createRc acceptRc) else none
    | .close handle => some (state.close handle)
    | .copy source target => if state.handle target then none else some (state.copy source target)
    | .onServerClosed => if state.closeCallback then some state.onServerClosed else none
    | .connection id action => state.connectionStep id action
    | .endLoop => some state.endLoop
    | .walk => if state.alive then none else some state.walk

end State

def machine : Machine State Action where
  step := State.step

/-- A server that one handle has just constructed. -/
def initial : State := {}

/-- What a call of `accept` or `accept_for` comes to up to its wait. -/
inductive AcceptEffect (state : State) (call : CallId) (timed : Bool) (handle : HandleId) :
    State → Prop where
  | threw (error : Error) :
      AcceptEffect state call timed handle (state.setCall call (.returned (.error error)))
  | popped {front rest} (hqueue : state.acceptedConnections = front :: rest) :
      AcceptEffect state call timed handle (state.popFront call front rest)
  | registered (hhandle : state.handle handle = true) (hopen : state.closing = false)
      (hqueue : state.acceptedConnections = []) :
      AcceptEffect state call timed handle (state.register call timed handle)

theorem acceptOrWait_effect (state : State) (call : CallId) (timed : Bool) (handle : HandleId) :
    AcceptEffect state call timed handle (state.acceptOrWait call timed handle) := by
  unfold State.acceptOrWait
  split
  · exact .threw _
  next hhandle =>
    split
    · exact .threw _
    split
    · exact .threw _
    split
    · exact .threw _
    next hopen =>
      split
      next hqueue => exact .popped hqueue
      next hqueue => exact .registered (by simpa using hhandle) (by simpa using hopen) hqueue

end Fiberuv.Tcp.Server
