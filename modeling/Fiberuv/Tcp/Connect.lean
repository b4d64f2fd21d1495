import Fiberuv.Tcp.Release

/-! # One attempt to connect

`TcpClient::connect` and `connect_for` with the `ConnectRequestState` they allocate. Two
requests follow each other, the name resolution and the connect, and whichever callback
ends the attempt sets the promise and deletes the state. The fiber that waits does not own
the state; `connect_for` writes to it after its timeout.

`connect_for` waits twice, the second time with a zero limit. Both waits let other fibers
and callbacks run, and both test the future once more before they report a timeout.
-/

namespace Fiberuv.Tcp.Connect

open Foundation

def connectTimeout : Error := .runtime "tcp connect timeout"

inductive Request where
  | unused
  | pending
  | done
  deriving DecidableEq

/-- The calling fiber. A result `true` is a `TcpConnection`, `false` is `nullopt`. -/
inductive Fiber where
  | idle
  | waiting (again : Bool)
  | returned (result : Except Error Bool)

/-- `finishes`, `frees`, `promiseSets` and `addrinfos` count what the callbacks do; no step
reads `finishes`, `promiseSets` or `addrinfos`. -/
structure State where
  /-- `connect_for`. -/
  timed : Bool := false
  fiber : Fiber := .idle
  resolver : Request := .unused
  connectReq : Request := .unused
  /-- The `ConnectionState` of this attempt, which outlives the `ConnectRequestState`. -/
  connection : Option Tcp.State := none
  timedOut : Bool := false
  finished : Bool := false
  promise : Option (Except Error Unit) := none
  alive : Bool := true
  finishes : Nat := 0
  /-- How often the `ConnectRequestState` was deleted. -/
  frees : Nat := 0
  promiseSets : Nat := 0
  /-- The results of the resolver that have not been freed. -/
  addrinfos : Nat := 0
  /-- The state was used after it was deleted, or an exception left a callback. -/
  fault : Bool := false

inductive Action where
  | start (timed : Bool) (rc : Int)
  | resume (expired : Bool)
  | onResolved (status : Int) (res : Bool) (createRc connectRc : Int)
  | onConnected (status : Int)
  /-- A step of the connection: by its owner, or when libuv has closed it. -/
  | connection (action : Tcp.Action)
  /-- `~EventLoop` clears the lifetime flag. -/
  | endLoop
  /-- `~EventLoop` closes the handles that are left, without a callback. -/
  | walk

namespace State

/-- `delete state`. -/
def delete (state : State) : State :=
  { state with frees := state.frees + 1 }

def setPromise (state : State) (outcome : Except Error Unit) : State :=
  match state.promise with
  | none => { state with promise := some outcome, promiseSets := state.promiseSets + 1 }
  | some _ => { state with fault := true }

/-- `begin_connect_finish`, which only the first caller passes. -/
def beginConnectFinish (state : State) : Option State :=
  if state.finished then none
  else some { state with finished := true, finishes := state.finishes + 1 }

/-- `if (state->connection) start_close(state->connection, nullptr)`. -/
def closeConnection (state : State) : State :=
  { state with connection := state.connection.map (·.startClose none) }

def finishConnectSuccess (state : State) : State :=
  match state.beginConnectFinish with
  | none => state
  | some state =>
      if state.timedOut then
        let state := state.closeConnection
        -- Here an exception of `set_exception` is caught.
        match state.promise with
        | none => (state.setPromise (.error connectTimeout)).delete
        | some _ => state.delete
      else (state.setPromise (.ok ())).delete

def finishConnectError (state : State) (error : Error) : State :=
  match state.beginConnectFinish with
  | none => state
  | some state => (state.closeConnection.setPromise (.error error)).delete

def onConnected (state : State) (status : Int) : State :=
  if state.timedOut then state.finishConnectError connectTimeout
  else if status < 0 then state.finishConnectError (.uv "uv_tcp_connect" status)
  else state.finishConnectSuccess

/-- `uv_freeaddrinfo(res)`. -/
def freeAddrinfo (state : State) (res : Bool) : State :=
  if res then { state with addrinfos := state.addrinfos - 1 } else state

/-- `on_resolved` once there is a connection. -/
def startConnect (state : State) (connectRc : Int) : State :=
  if state.timedOut then (state.freeAddrinfo true).finishConnectError connectTimeout
  else if connectRc < 0 then
    (state.freeAddrinfo true).finishConnectError (.uv "uv_tcp_connect(start)" connectRc)
  else { state with connectReq := .pending }.freeAddrinfo true

def onResolved (state : State) (status : Int) (res : Bool) (createRc connectRc : Int) : State :=
  if state.timedOut then (state.freeAddrinfo res).finishConnectError connectTimeout
  else if status < 0 || !res then
    (state.freeAddrinfo res).finishConnectError (.uv "uv_getaddrinfo" status)
  else if createRc < 0 then
    (state.freeAddrinfo true).finishConnectError (.uv "uv_tcp_init" createRc)
  else { state with connection := some { alive := state.alive } }.startConnect connectRc

/-- A callback or the timed-out fiber dereferences the state. -/
def deref (state : State) (code : State → State) : State :=
  if state.frees = 0 then code state else { state with fault := true }

/-- The first part of `connect` and `connect_for`. -/
def start (state : State) (timed : Bool) (rc : Int) : State :=
  if !state.alive then { state with fiber := .returned (.error loopNotAlive) }
  else if rc < 0 then
    { state.delete with fiber := .returned (.error (.uv "uv_getaddrinfo(start)" rc)) }
  else { state with timed := timed, resolver := .pending, fiber := .waiting false }

/-- The end of `connect_for`. `uv_cancel` at most brings the resolver's callback forward,
and it refuses a connect request. -/
def giveUp (state : State) : State :=
  { { state with timedOut := true }.closeConnection with fiber := .returned (.ok false) }

def resume (state : State) (expired : Bool) : Option State :=
  match state.fiber with
  | .waiting again =>
      match state.promise with
      | some (.ok ()) => some { state with fiber := .returned (.ok true) }
      | some (.error error) => some { state with fiber := .returned (.error error) }
      | none =>
          if state.timed && expired then
            if again then some (state.deref giveUp) else some { state with fiber := .waiting true }
          else none
  | _ => none

/-- Whoever was returned the connection acts on it; nobody else does, apart from libuv when
it has closed the socket. -/
def connectionStep (state : State) (connection : Tcp.State) (action : Tcp.Action) :
    Option State :=
  match state.fiber, action with
  | _, .endLoop => none
  | _, .walk => none
  | .returned (.ok true), action =>
      (connection.step action).map fun next => { state with connection := some next }
  | _, .onConnectionClosed =>
      (connection.step .onConnectionClosed).map fun next => { state with connection := some next }
  | _, _ => none

def endLoop (state : State) : State :=
  { state with
    alive := false
    connection := state.connection.map fun connection => { connection with alive := false } }

def walk (state : State) : State :=
  { state with
    connection := state.connection.map fun connection =>
      if connection.uvClosing then connection else connection.uvClose }

def step (state : State) : Action → Option State
  | .start timed rc =>
      match state.fiber with
      | .idle => some (state.start timed rc)
      | _ => none
  | .resume expired => state.resume expired
  | .onResolved status res createRc connectRc =>
      if state.resolver = .pending then
        some ({ state with
          resolver := .done
          addrinfos := state.addrinfos + if res then 1 else 0 }.deref
            (·.onResolved status res createRc connectRc))
      else none
  | .onConnected status =>
      if state.connectReq = .pending then
        some ({ state with connectReq := .done }.deref (·.onConnected status))
      else none
  | .connection action => state.connection.bind (state.connectionStep · action)
  | .endLoop => some state.endLoop
  | .walk => if state.alive then none else some state.walk

end State

def machine : Machine State Action where
  step := State.step

def initial : State := {}

end Fiberuv.Tcp.Connect
