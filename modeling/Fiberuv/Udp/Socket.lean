import Fiberuv.Foundation.Framing
import Fiberuv.Foundation.Machine
import Fiberuv.Uv

/-! # A UDP socket

`UdpState` with the fibers that receive from it and close it, and the callbacks of its
handle. Fibers and callbacks share one thread and switch only at waits on a future, so
each label is one stretch of code between two such points.

`recv` is the code of `recv_from` or `recv_from_for` up to its wait, `resume` the code
after it; `close` is `UdpSocket::close` up to its wait, if it comes to one. The label
supplies what the code does not choose: the result of `uv_udp_recv_start`, the address of
a new `PendingRecv`, whether a timer expired, and what libuv passes to its callbacks.
Sends leave the state as it is: `sendTo` is the code up to the wait for `on_udp_send`.

libuv calls `on_udp_recv` only between `uv_udp_recv_start` and `uv_udp_recv_stop` or
`uv_close`.
-/

namespace Fiberuv.Udp

open Foundation

abbrev CallId := Nat
abbrev CloseId := Nat

def invalidSocket : Error := .runtime "invalid udp socket"
def recvPending : Error := .runtime "another udp recv is already pending"
def invalidDestination : Error := .runtime "invalid udp destination address"
def socketClosed : Error := .runtime "udp socket closed"

structure UdpPacket where
  data : Bytes
  host : String := ""
  port : Nat := 0
  deriving DecidableEq

/-- A `sockaddr`: its family, the text `uv_ip4_name` or `uv_ip6_name` gives for it unless
it fails, and the two bytes of its port in network order. -/
inductive SockAddr where
  | inet (name : Option String) (high low : UInt8)
  | inet6 (name : Option String) (high low : UInt8)
  | other
  deriving DecidableEq

/-- `from_network_u16`. -/
def fromNetworkU16 (high low : UInt8) : Nat := high.toNat * 256 + low.toNat

def packetFromSockaddr (addr : Option SockAddr) (data : Bytes) : Except Error UdpPacket :=
  match addr with
  | none => .ok { data }
  | some (.inet none _ _) => .error (.runtime "uv_ip4_name failed")
  | some (.inet (some host) high low) => .ok { data, host, port := fromNetworkU16 high low }
  | some (.inet6 none _ _) => .error (.runtime "uv_ip6_name failed")
  | some (.inet6 (some host) high low) => .ok { data, host, port := fromNetworkU16 high low }
  | some .other => .error (.runtime "Unsupported sockaddr family for UDP packet")

/-- The `PendingRecv` record: where it is, and the call whose promise it holds. -/
structure PendingRecv where
  address : Nat
  call : CallId
  deriving DecidableEq

/-- A call of `recv_from`, or of `recv_from_for` when `timed`. -/
inductive Call where
  | idle
  | waiting (timed : Bool) (address : Nat) (promise : Option (Except Error UdpPacket))
  | returned (result : Except Error (Option UdpPacket))

/-- A call of `send_to`: it is over, or waits for a request with this buffer. -/
inductive Send where
  | returned (outcome : Except Error Unit)
  | waiting (buffer : Bytes)

/-- A call of `UdpSocket::close`. -/
inductive Closer where
  | idle
  | waiting
  | signalled
  | returned
  deriving DecidableEq

structure State where
  initialized : Bool := true
  closing : Bool := false
  closed : Bool := false
  pendingRecv : Option PendingRecv := none
  bufferedPackets : List UdpPacket := []
  closeWaiters : List CloseId := []
  /-- The state holds a pointer to itself. -/
  keepalive : Bool := true
  /-- `is_loop_alive(loop_lifetime)`. -/
  alive : Bool := true
  /-- libuv may call `on_udp_recv`. -/
  receiving : Bool := false
  /-- `uv_is_closing` of the handle. -/
  uvClosing : Bool := false
  /-- libuv still has to call `on_udp_closed`. -/
  closeCallback : Bool := false
  call : CallId → Call := fun _ => .idle
  closer : CloseId → Closer := fun _ => .idle
  /-- How often the promise of a call has been set. -/
  recvSets : CallId → Nat := fun _ => 0
  closeSets : CloseId → Nat := fun _ => 0

inductive Action where
  | recv (id : CallId) (timed : Bool) (address : Nat) (rc : Int)
  | resume (id : CallId) (expired : Bool)
  | onUdpRecv (nread : Int) (bytes : Bytes) (addr : Option SockAddr)
  | close (id : CloseId)
  | closeResume (id : CloseId)
  | onUdpClosed
  /-- `~EventLoop` clears the lifetime flag. -/
  | endLoop
  /-- `~EventLoop` closes the handles that are left, without a callback. -/
  | walk

namespace State

def setCall (state : State) (id : CallId) (call : Call) : State :=
  { state with call := Function.update state.call id call }

def setCloser (state : State) (id : CloseId) (closer : Closer) : State :=
  { state with closer := Function.update state.closer id closer }

def throws (state : State) (id : CallId) (error : Error) : State :=
  state.setCall id (.returned (.error error))

/-- The common part of `recv_from` and `recv_from_for`. -/
def recv (state : State) (id : CallId) (timed : Bool) (address : Nat) (rc : Int) : State :=
  if !state.initialized || state.closed then state.throws id invalidSocket
  else if !state.alive then state.throws id loopNotAlive
  else
    match state.bufferedPackets with
    | out :: rest =>
        { state with bufferedPackets := rest }.setCall id (.returned (.ok (some out)))
    | [] =>
        match state.pendingRecv with
        | some _ => state.throws id recvPending
        | none =>
            if rc < 0 then state.throws id (.uv "uv_udp_recv_start" rc)
            else
              { state.setCall id (.waiting timed address none) with
                pendingRecv := some ⟨address, id⟩
                -- A handle that is being closed delivers nothing.
                receiving := !state.uvClosing }

/-- `set_value` or `set_exception` on the promise of a receive. -/
def fulfil (state : State) (id : CallId) (outcome : Except Error UdpPacket) : State :=
  { state with
    recvSets := Function.update state.recvSets id (state.recvSets id + 1)
    call := match state.call id with
      | .waiting timed address _ =>
          Function.update state.call id (.waiting timed address (some outcome))
      | _ => state.call }

/-- `finish_recv_success` and `finish_recv_error`. -/
def finishRecv (state : State) (outcome : Except Error UdpPacket) : State :=
  match state.pendingRecv with
  | none => state
  | some pending => { state with pendingRecv := none }.fulfil pending.call outcome

/-- A packet goes to the pending receive, or to the buffer. -/
def deliver (state : State) (packet : UdpPacket) : State :=
  match state.pendingRecv with
  | some _ => state.finishRecv (.ok packet)
  | none => { state with bufferedPackets := state.bufferedPackets ++ [packet] }

def onUdpRecv (state : State) (nread : Int) (bytes : Bytes) (addr : Option SockAddr) : State :=
  if nread = 0 ∧ addr = none then state
  else if nread < 0 then
    { state with receiving := false }.finishRecv (.error (.uv "uv_udp_recv_start" nread))
  else
    match packetFromSockaddr addr bytes with
    | .error error => { state with receiving := false }.finishRecv (.error error)
    | .ok packet => { state with receiving := false }.deliver packet

/-- The end of a receive whose promise was set. -/
def resumeRecv (state : State) (id : CallId) : Except Error UdpPacket → State
  | .ok packet => state.setCall id (.returned (.ok (some packet)))
  | .error error => state.throws id error

/-- `recv_from_for` after its `wait_for` has timed out. -/
def recvTimedOut (state : State) (id : CallId) (address : Nat)
    (promise : Option (Except Error UdpPacket)) : State :=
  if state.pendingRecv.map PendingRecv.address = some address then
    { state.setCall id (.returned (.ok none)) with pendingRecv := none, receiving := false }
  else
    match promise with
    | some outcome => state.resumeRecv id outcome
    | none => state.setCall id (.returned (.ok none))

def resume (state : State) (id : CallId) (expired : Bool) : Option State :=
  match state.call id with
  | .waiting _ _ (some outcome) => some (state.resumeRecv id outcome)
  | .waiting true address none =>
      if expired then some (state.recvTimedOut id address none) else none
  | _ => none

/-- `send_to` up to its wait. The label says whether `make_sockaddr` can parse the
destination, and what `uv_udp_send` returns. -/
def sendTo (state : State) (parsed : Bool) (payload : Bytes) (rc : Int) : Send :=
  if !state.initialized || state.closed then .returned (.error invalidSocket)
  else if !state.alive then .returned (.error loopNotAlive)
  else if payload = [] then .returned (.ok ())
  else if !parsed then .returned (.error invalidDestination)
  else if rc < 0 then .returned (.error (.uv "uv_udp_send(start)" rc))
  else .waiting (bufInit payload)

/-- `set_value` on the promises of these close calls. -/
def signal (state : State) (waiters : List CloseId) : State :=
  { state with
    closer := fun id => if id ∈ waiters then .signalled else state.closer id
    closeSets := fun id => state.closeSets id + waiters.count id }

/-- The part that all three pieces of closing code have in common. -/
def failPending (state : State) : State :=
  { state with closed := true, closing := false }.finishRecv (.error socketClosed)

/-- What `on_udp_closed` and `start_udp_close` on a dead loop have in common. -/
def finishClose (state : State) : State :=
  let failed := state.failPending
  { failed.signal failed.closeWaiters with closeWaiters := [], keepalive := false }

def uvClose (state : State) : State :=
  { state with uvClosing := true, receiving := false }

def startUdpClose (state : State) (promise : Option CloseId) : State :=
  if !state.initialized || state.closed then state.signal promise.toList
  else
    let queued := { state with closeWaiters := state.closeWaiters ++ promise.toList }
    if !state.alive then queued.finishClose
    else if state.closing then queued
    -- Somebody else closes the handle, so `on_udp_closed` will not be called.
    else if state.uvClosing then { queued with closing := true }
    else { queued.uvClose with closing := true, closeCallback := true }

/-- `UdpSocket::close`, which has clean-up code of its own for a dead loop. -/
def close (state : State) (id : CloseId) : State :=
  if !state.alive then state.failPending.setCloser id .returned
  else (state.setCloser id .waiting).startUdpClose (some id)

def step (state : State) : Action → Option State
  | .recv id timed address rc =>
      match state.call id with
      | .idle => some (state.recv id timed address rc)
      | _ => none
  | .resume id expired => state.resume id expired
  | .onUdpRecv nread bytes addr =>
      if state.receiving ∧ (0 ≤ nread → bytes.length = nread.toNat) then
        some (state.onUdpRecv nread bytes addr)
      else none
  | .close id => if state.closer id = .idle then some (state.close id) else none
  | .closeResume id =>
      if state.closer id = .signalled then some (state.setCloser id .returned) else none
  | .onUdpClosed =>
      if state.closeCallback then some { state.finishClose with closeCallback := false } else none
  | .endLoop => some { state with alive := false }
  | .walk =>
      if state.alive then none
      else if state.uvClosing then some state else some state.uvClose

end State

/-- The outcome of a send whose request ended with this status. -/
def onUdpSend (status : Int) : Except Error Unit :=
  if status < 0 then .error (.uv "uv_udp_send" status) else .ok ()

def machine : Machine State Action where
  step := State.step

def initial : State := {}

/-- What a call of `recv` comes to up to its wait. -/
inductive RecvEffect (state : State) (id : CallId) (timed : Bool) (address : Nat) :
    State → Prop where
  | threw (error : Error) : RecvEffect state id timed address (state.throws id error)
  | buffered {out rest} (hbuffered : state.bufferedPackets = out :: rest) :
      RecvEffect state id timed address
        ({ state with bufferedPackets := rest }.setCall id (.returned (.ok (some out))))
  | waits (hopen : state.closed = false) (hnone : state.pendingRecv = none) :
      RecvEffect state id timed address
        { state.setCall id (.waiting timed address none) with
          pendingRecv := some ⟨address, id⟩
          receiving := !state.uvClosing }

theorem recv_effect (state : State) (id : CallId) (timed : Bool) (address : Nat) (rc : Int) :
    RecvEffect state id timed address (state.recv id timed address rc) := by
  unfold State.recv
  split
  · exact .threw _
  next hvalid =>
    have hopen : state.closed = false := by
      simp only [Bool.or_eq_true, not_or, Bool.not_eq_true] at hvalid
      exact hvalid.2
    split
    · exact .threw _
    split
    next hbuffered => exact .buffered hbuffered
    next =>
      split
      · exact .threw _
      next hnone =>
        split
        · exact .threw _
        · exact .waits hopen hnone

end Fiberuv.Udp
