import Fiberuv.Foundation.Outbox
import Fiberuv.Tcp.CloseEvents
import Fiberuv.Tcp.ReadStream

/-! # The two ends of a TCP connection

Two connections joined by the network, with the writes of the fibers at both ends. A write
hands its buffer to `uv_write` and waits for `on_write_done`. libuv writes the requests in
the order of the calls, as much at a time as the kernel takes; what is left when the socket
is closed it cancels, and it calls `on_connection_closed` after the callbacks of the writes.

The network carries what the kernel has taken to the other end, in order. It reports the end
of the stream when the other socket is closed and everything has arrived. A connection that
is reset may lose what is under way, and ends with an error.
-/

namespace Fiberuv.Tcp.Link

open Foundation

abbrev WriteId := Nat

def uvEcanceled : Int := -125

/-- A call of `TcpConnection::write`. While it waits its promise may have been set. -/
inductive WriteCall where
  | idle
  | waiting (payload : Bytes) (promise : Option (Except Error Unit))
  | returned (payload : Bytes) (outcome : Except Error Unit)

/-- One end: its connection, the writes of its fibers and their requests. -/
structure Side where
  conn : Tcp.State := {}
  writes : WriteId → WriteCall := fun _ => .idle
  outbox : Outbox WriteId UInt8 := {}
  /-- The requests that have ended, with their status, before `on_write_done`. -/
  finished : List (WriteId × Int) := []

inductive End where
  | near
  | far
  deriving DecidableEq

def End.other : End → End
  | .near => .far
  | .far => .near

structure State where
  side : End → Side := fun _ => {}
  /-- What the kernel of an end has taken and the other end has not read. -/
  wire : End → Bytes := fun _ => []
  reset : Bool := false

inductive Action where
  /-- A read, a close or a callback of the connection. -/
  | conn (place : End) (action : Tcp.Action)
  | write (place : End) (id : WriteId) (payload : Bytes) (rc : Int)
  /-- The kernel takes this many more bytes of the first request. -/
  | transmit (place : End) (count : Nat)
  /-- libuv has written all of the first request. -/
  | complete (place : End)
  /-- The kernel refuses the first request. -/
  | refuse (place : End) (code : Int)
  /-- libuv cancels the requests of a socket that is being closed. -/
  | cancel (place : End)
  | onWriteDone (place : End)
  | resumeWrite (place : End) (id : WriteId)
  /-- The connection is reset; this much of what is under way still arrives. -/
  | reset (kept : End → Nat)

namespace Side

/-- `connection_write` up to its wait. `uv_write` refuses a socket that is being closed. -/
def write (side : Side) (id : WriteId) (payload : Bytes) (rc : Int) : Option Side :=
  match side.writes id with
  | .idle =>
      match side.conn.connectionWrite payload rc with
      | .returned outcome =>
          some { side with writes := Function.update side.writes id (.returned payload outcome) }
      | .waiting buffer =>
          if side.conn.uvClosing then none
          else some { side with
            writes := Function.update side.writes id (.waiting payload none)
            outbox := side.outbox.accept id buffer }
  | _ => none

def complete (side : Side) : Option Side :=
  if side.conn.uvClosing then none
  else side.outbox.complete.map fun ended =>
    { side with outbox := ended.2, finished := side.finished ++ [(ended.1, 0)] }

def refuse (side : Side) (code : Int) : Option Side :=
  if side.conn.uvClosing || 0 ≤ code then none
  else side.outbox.refuse.map fun ended =>
    { side with outbox := ended.2, finished := side.finished ++ [(ended.1, code)] }

def cancel (side : Side) : Option Side :=
  if side.conn.uvClosing then
    some { side with
      outbox := side.outbox.clear
      finished := side.finished ++ side.outbox.queue.map fun request => (request.1, uvEcanceled) }
  else none

/-- `set_value` or `set_exception` on the promise of a write. -/
def fulfil (side : Side) (id : WriteId) (outcome : Except Error Unit) : Side :=
  match side.writes id with
  | .waiting payload _ =>
      { side with writes := Function.update side.writes id (.waiting payload (some outcome)) }
  | _ => side

def onWriteDone (side : Side) : Option Side :=
  match side.finished with
  | [] => none
  | (id, status) :: rest => some ({ side with finished := rest }.fulfil id (Tcp.onWriteDone status))

def resumeWrite (side : Side) (id : WriteId) : Option Side :=
  match side.writes id with
  | .waiting payload (some outcome) =>
      some { side with writes := Function.update side.writes id (.returned payload outcome) }
  | _ => none

end Side

namespace State

def setSide (state : State) (place : End) (side : Side) : State :=
  { state with side := Function.update state.side place side }

/-- What the network and libuv can bring about at this end now. -/
def permits (state : State) (place : End) : Tcp.Action → Bool
  | .onConnectionRead nread bytes =>
      if 0 < nread then bytes.isPrefixOf (state.wire place.other)
      else if nread = uvEof then
        (state.wire place.other).isEmpty && (state.side place.other).conn.uvClosing && !state.reset
      else true
  | .onConnectionClosed =>
      (state.side place).outbox.queue.isEmpty && (state.side place).finished.isEmpty
  | _ => true

/-- The bytes a callback passes on. -/
def chunk : Tcp.Action → Bytes
  | .onConnectionRead nread bytes => if 0 < nread then bytes else []
  | _ => []

def conn (state : State) (place : End) (action : Tcp.Action) : Option State :=
  if state.permits place action then
    ((state.side place).conn.step action).map fun conn =>
      { state.setSide place { state.side place with conn } with
        wire := Function.update state.wire place.other
          ((state.wire place.other).drop (chunk action).length) }
  else none

def transmit (state : State) (place : End) (count : Nat) : Option State :=
  let side := state.side place
  if side.conn.uvClosing then none
  else (side.outbox.transmit count).map fun outbox =>
    { state.setSide place { side with outbox } with
      wire := if state.reset then state.wire
        else Function.update state.wire place
          (state.wire place ++ outbox.sent.drop side.outbox.sent.length) }

end State

def step (state : State) : Action → Option State
  | .conn place action => state.conn place action
  | .write place id payload rc =>
      ((state.side place).write id payload rc).map (state.setSide place)
  | .transmit place count => state.transmit place count
  | .complete place => (state.side place).complete.map (state.setSide place)
  | .refuse place code => ((state.side place).refuse code).map (state.setSide place)
  | .cancel place => (state.side place).cancel.map (state.setSide place)
  | .onWriteDone place => (state.side place).onWriteDone.map (state.setSide place)
  | .resumeWrite place id => ((state.side place).resumeWrite id).map (state.setSide place)
  | .reset kept =>
      some { state with reset := true, wire := fun place => (state.wire place).take (kept place) }

def machine : Machine State Action := ⟨step⟩

def initial : State := {}

end Fiberuv.Tcp.Link
