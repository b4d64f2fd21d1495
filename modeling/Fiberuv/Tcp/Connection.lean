import Fiberuv.Foundation.Framing
import Fiberuv.Foundation.Machine
import Fiberuv.Uv

/-! # A TCP connection

`ConnectionState` with the fibers that read from it and close it, and the callbacks of
its socket. Fibers and callbacks share one thread and switch only at waits on a future,
so each label is one stretch of code between two such points.

`read` is the code of `connection_read` or `connection_read_for` up to its wait,
`resume` the code after it. The last thing `wait_for` does is to test the future again:
a promise that was set while the fiber was on its way back counts as ready. The label
supplies what the code does not choose: the result of `uv_read_start`, the address of a
new `PendingRead` (which can be the one of a deleted record), whether a timer expired,
and what libuv passes to its callbacks. Writes leave the state as it is: `connectionWrite`
is the code up to the wait for `on_write_done`.

libuv calls `on_connection_read` only between `uv_read_start` and `uv_read_stop` or
`uv_close`, and a closing handle does not start reading.
-/

namespace Fiberuv.Tcp

open Foundation

abbrev CallId := Nat
abbrev CloseId := Nat

def connectionClosed : Error := .runtime "connection is closed"
def closedWhileReading : Error := .runtime "connection closed"
def readPending : Error := .runtime "another read is already pending"

/-- The `PendingRead` record: where it is, and the call whose promise it holds. -/
structure PendingRead where
  address : Nat
  call : CallId
  deriving DecidableEq

/-- A call of `connection_read`, or of `connection_read_for` when `timed`. While it
waits it remembers the address of its record, and its promise may have been set. -/
inductive Call where
  | idle
  | waiting (timed : Bool) (address : Nat) (promise : Option (Except Error Bytes))
  | returned (result : Except Error (Option Bytes))

/-- The string the call has returned, a fulfilled promise counting as returned. -/
def Call.value : Call → Option Bytes
  | .waiting _ _ (some (.ok bytes)) => some bytes
  | .returned (.ok (some bytes)) => some bytes
  | _ => none

/-- A call of `connection_write`: it is over, or waits for a request with this buffer. -/
inductive Write where
  | returned (outcome : Except Error Unit)
  | waiting (buffer : Bytes)

/-- A call of `TcpConnection::close`. -/
inductive Closer where
  | idle
  | waiting
  | signalled
  | returned

structure State where
  initialized : Bool := true
  closing : Bool := false
  closed : Bool := false
  eof : Bool := false
  pendingRead : Option PendingRead := none
  bufferedReads : List Bytes := []
  closeWaiters : List CloseId := []
  /-- `is_loop_alive(loop_lifetime)`. -/
  alive : Bool := true
  /-- libuv may call `on_connection_read`. -/
  reading : Bool := false
  /-- `uv_is_closing` of the socket. -/
  uvClosing : Bool := false
  /-- libuv still has to call `on_connection_closed`. -/
  closeCallback : Bool := false
  call : CallId → Call := fun _ => .idle
  closer : CloseId → Closer := fun _ => .idle
  /-- The strings returned so far, in the order in which they were. -/
  log : List (CallId × Bytes) := []
  /-- The chunks libuv has delivered, in order. -/
  delivered : List Bytes := []

inductive Action where
  | read (id : CallId) (timed : Bool) (address : Nat) (rc : Int)
  | resume (id : CallId) (expired : Bool)
  | onConnectionRead (nread : Int) (bytes : Bytes)
  /-- `start_close`, with the promise of a `close` call or without one. -/
  | startClose (promise : Option CloseId)
  | onConnectionClosed
  | closeResume (id : CloseId)
  /-- `~EventLoop` clears the lifetime flag. -/
  | endLoop
  /-- `~EventLoop` closes the handles that are left, without a callback. -/
  | walk

namespace State

def setCall (state : State) (id : CallId) (call : Call) : State :=
  { state with call := Function.update state.call id call }

def throws (state : State) (id : CallId) (error : Error) : State :=
  state.setCall id (.returned (.error error))

/-- The call returns a string without waiting. -/
def returns (state : State) (id : CallId) (bytes : Bytes) : State :=
  { state.setCall id (.returned (.ok (some bytes))) with log := state.log ++ [(id, bytes)] }

/-- The common part of `connection_read` and `connection_read_for`. -/
def read (state : State) (id : CallId) (timed : Bool) (address : Nat) (rc : Int) : State :=
  if !state.initialized || state.closed then state.throws id connectionClosed
  else if !state.alive then state.throws id loopNotAlive
  else
    match state.bufferedReads with
    | out :: rest => { state with bufferedReads := rest }.returns id out
    | [] =>
        if state.eof then state.returns id []
        else
          match state.pendingRead with
          | some _ => state.throws id readPending
          | none =>
              if rc < 0 then state.throws id (.uv "uv_read_start" rc)
              else
                { state.setCall id (.waiting timed address none) with
                  pendingRead := some ⟨address, id⟩
                  -- A handle that is being closed delivers nothing.
                  reading := !state.uvClosing }

/-- `set_value` or `set_exception` on the promise of a pending read. -/
def fulfil (state : State) (id : CallId) (outcome : Except Error Bytes) : State :=
  let state := match state.call id with
    | .waiting timed address _ => state.setCall id (.waiting timed address (some outcome))
    | _ => state
  match outcome with
  | .ok bytes => { state with log := state.log ++ [(id, bytes)] }
  | .error _ => state

/-- `finish_read_success` and `finish_read_error`. -/
def finishRead (state : State) (outcome : Except Error Bytes) : State :=
  match state.pendingRead with
  | none => state
  | some pending => { state with pendingRead := none }.fulfil pending.call outcome

/-- A chunk goes to the pending read, or to the buffer. -/
def deliver (state : State) (bytes : Bytes) : State :=
  match state.pendingRead with
  | some _ => state.finishRead (.ok bytes)
  | none => { state with bufferedReads := state.bufferedReads ++ [bytes] }

def onConnectionRead (state : State) (nread : Int) (bytes : Bytes) : State :=
  if 0 < nread then
    { state with reading := false, delivered := state.delivered ++ [bytes] }.deliver bytes
  else if nread = uvEof then { state with eof := true, reading := false }.finishRead (.ok [])
  else if nread < 0 then
    { state with reading := false }.finishRead (.error (.uv "uv_read_start(read)" nread))
  else state

/-- The end of a read that waited without a limit. -/
def resumeRead (state : State) (id : CallId) : Except Error Bytes → State
  | .ok bytes => state.setCall id (.returned (.ok (some bytes)))
  | .error error => state.throws id error

/-- `connection_read_for` after its `wait_for` has timed out. -/
def readTimedOut (state : State) (id : CallId) (address : Nat)
    (promise : Option (Except Error Bytes)) : State :=
  if state.pendingRead.map PendingRead.address = some address then
    { state.setCall id (.returned (.ok none)) with pendingRead := none, reading := false }
  else
    match promise with
    | some outcome => state.resumeRead id outcome
    | none => state.setCall id (.returned (.ok none))

def resume (state : State) (id : CallId) (expired : Bool) : Option State :=
  match state.call id with
  | .waiting _ _ (some outcome) => some (state.resumeRead id outcome)
  | .waiting true address none =>
      if expired then some (state.readTimedOut id address none) else none
  | _ => none

/-- `connection_write` up to its wait, with the result of `uv_write`. -/
def connectionWrite (state : State) (payload : Bytes) (rc : Int) : Write :=
  if !state.initialized || state.closed then .returned (.error connectionClosed)
  else if !state.alive then .returned (.error loopNotAlive)
  else if payload = [] then .returned (.ok ())
  else if rc < 0 then .returned (.error (.uv "uv_write(start)" rc))
  else .waiting (bufInit payload)

def signal (state : State) (waiters : List CloseId) : State :=
  { state with closer := fun id => if id ∈ waiters then .signalled else state.closer id }

/-- What `on_connection_closed` and `start_close` on a dead loop have in common. -/
def finishClose (state : State) : State :=
  let after := { state with closed := true, closing := false }.finishRead
    (.error closedWhileReading)
  { after.signal after.closeWaiters with closeWaiters := [] }

def uvClose (state : State) : State :=
  { state with uvClosing := true, reading := false }

def startClose (state : State) (promise : Option CloseId) : State :=
  if !state.initialized || state.closed then state.signal promise.toList
  else
    let queued := { state with closeWaiters := state.closeWaiters ++ promise.toList }
    if !state.alive then queued.finishClose
    else if state.closing then queued
    -- Somebody else closes the handle, so `on_connection_closed` will not be called.
    else if state.uvClosing then { queued with closing := true }
    else { queued.uvClose with closing := true, closeCallback := true }

def step (state : State) : Action → Option State
  | .read id timed address rc =>
      match state.call id with
      | .idle => some (state.read id timed address rc)
      | _ => none
  | .resume id expired => state.resume id expired
  | .onConnectionRead nread bytes =>
      if state.reading ∧ (0 < nread → bytes.length = nread.toNat) then
        some (state.onConnectionRead nread bytes)
      else none
  | .startClose none => some (state.startClose none)
  | .startClose (some id) =>
      match state.closer id with
      | .idle =>
          some ({ state with closer := Function.update state.closer id .waiting }.startClose
            (some id))
      | _ => none
  | .onConnectionClosed =>
      if state.closeCallback then some { state.finishClose with closeCallback := false } else none
  | .closeResume id =>
      match state.closer id with
      | .signalled => some { state with closer := Function.update state.closer id .returned }
      | _ => none
  | .endLoop => some { state with alive := false }
  | .walk =>
      if state.alive then none
      else if state.uvClosing then some state else some state.uvClose

end State

/-- The outcome of a write whose request ended with this status. -/
def onWriteDone (status : Int) : Except Error Unit :=
  if status < 0 then .error (.uv "uv_write" status) else .ok ()

def machine : Machine State Action where
  step := State.step

def initial : State := {}

/-- What a call of `read` comes to up to its wait. -/
inductive ReadEffect (state : State) (id : CallId) (timed : Bool) (address : Nat) :
    State → Prop where
  | threw (error : Error) : ReadEffect state id timed address (state.throws id error)
  | buffered {out rest} (hopen : state.closed = false)
      (hbuffered : state.bufferedReads = out :: rest) :
      ReadEffect state id timed address ({ state with bufferedReads := rest }.returns id out)
  | ended (heof : state.eof = true) : ReadEffect state id timed address (state.returns id [])
  | waits (hopen : state.closed = false) (hbuffered : state.bufferedReads = [])
      (heof : state.eof = false) (hnone : state.pendingRead = none) :
      ReadEffect state id timed address
        { state.setCall id (.waiting timed address none) with
          pendingRead := some ⟨address, id⟩
          reading := !state.uvClosing }

theorem read_effect (state : State) (id : CallId) (timed : Bool) (address : Nat) (rc : Int) :
    ReadEffect state id timed address (state.read id timed address rc) := by
  unfold State.read
  split
  · exact .threw _
  next hvalid =>
    have hopen : state.closed = false := by
      simp only [Bool.or_eq_true, not_or, Bool.not_eq_true] at hvalid
      exact hvalid.2
    split
    · exact .threw _
    split
    next hbuffered => exact .buffered hopen hbuffered
    next hbuffered =>
      split
      next heof => exact .ended heof
      next heof =>
        split
        · exact .threw _
        next hnone =>
          split
          · exact .threw _
          · exact .waits hopen hbuffered (by simpa using heof) hnone

end Fiberuv.Tcp
