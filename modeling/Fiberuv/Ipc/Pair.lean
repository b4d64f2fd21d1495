import Fiberuv.Foundation.Machine
import Fiberuv.Ipc.Transfer

/-! # The two endpoints of `ProcessChannel::pair`

`pair` makes two pipes and gives each endpoint the write end of one and the read end
of the other. A pipe is a FIFO of bytes with room for `capacity` of them. On each
endpoint the sends of a list of payloads are made one after another, and so are the
receives, while the two directions proceed independently. `close` comes after the
sends of its endpoint and not during one of its receives; it closes the read
descriptor first and then the write descriptor.

The label chooses how many bytes a request transfers and when it is interrupted.
-/

namespace Fiberuv.Ipc

open Foundation

inductive Side where
  | a
  | b
  deriving DecidableEq

def Side.other : Side → Side
  | .a => .b
  | .b => .a

/-- How far an endpoint is closed. -/
inductive Phase where
  | opened
  | readClosed
  | closed
  deriving DecidableEq

def Phase.valid (phase : Phase) : Bool :=
  phase == .opened

/-- A call of `send_blob` with an outstanding write request. -/
structure Sending where
  payload : Payload
  part : Part
  offset : Nat

def Sending.state (sending : Sending) : SendState :=
  .writing sending.part sending.offset

/-- The bytes the outstanding request offers to the kernel. -/
def Sending.offered (sending : Sending) : Bytes :=
  ((sending.payload.part sending.part).drop sending.offset).take
    (chunk (sending.payload.part sending.part).length sending.offset)

theorem Sending.offered_take (sending : Sending) {count : Nat}
    (hcount : count ≤ sending.offered.length) :
    sending.offered.take count = (sending.state.unsent sending.payload).take count := by
  obtain ⟨payload, part, offset⟩ := sending
  simp only [Sending.offered, List.length_take, List.length_drop] at hcount
  simp only [Sending.offered, Sending.state, List.take_take]
  rw [Nat.min_eq_left (by omega)]
  cases part with
  | length =>
      rw [SendState.unsent, List.take_append_of_le_length]
      · rfl
      · simpa [Payload.part] using Nat.le_trans hcount (Nat.min_le_right _ _)
  | payload => rfl

/-- A request that writes some of the bytes it offers leaves the others unsent. -/
theorem Sending.wrote (sending : Sending) {count : Nat} (hpos : 0 < count)
    (hoffered : count ≤ sending.offered.length) :
    sending.offered.take count ++
        (sendBlobNext sending.payload sending.part sending.offset (.result count)).unsent
          sending.payload = sending.state.unsent sending.payload ∧
      (sendBlobNext sending.payload sending.part sending.offset (.result count)).Healthy
        sending.payload := by
  have hchunk : count ≤ chunk (sending.payload.part sending.part).length sending.offset := by
    refine Nat.le_trans hoffered ?_
    simp [Sending.offered]
  obtain ⟨hunsent, hhealthy⟩ := sendBlobNext_wrote sending.payload hpos hchunk
  refine ⟨?_, hhealthy⟩
  rw [hunsent, sending.offered_take hoffered]
  exact List.take_append_drop count _

/-- One of the two pipes, with the calls on its two ends. -/
structure Direction where
  outbox : List Payload
  sending : Option Sending := none
  sent : List (Except Error Bool) := []
  pipe : Bytes := []
  inbox : List RecvCall
  receiving : Option (RecvCall × RecvState) := none
  received : List (Except Error (Option Bytes)) := []

inductive Move where
  | send
  | wrote (count : Nat)
  | writeRetry (code : Int)
  | writeRefused
  | recv
  | read (count : Nat)
  | readRetry (code : Int)
  | readEnd

/-- The moves that only have a request submitted again. -/
def Move.retries : Move → Bool
  | .writeRetry _ => true
  | .readRetry _ => true
  | _ => false

/-- The room in a pipe, and the sizes a payload vector can be allocated with. -/
structure Host where
  capacity : Nat
  memory : Nat → Bool

namespace Direction

/-- Keep a send that waits for its next request, record one that has ended. -/
def settleSend (direction : Direction) (payload : Payload) : SendState → Direction
  | .writing part offset => { direction with sending := some ⟨payload, part, offset⟩ }
  | .finished result => { direction with sending := none, sent := direction.sent ++ [result] }

def settleRecv (direction : Direction) (call : RecvCall) : RecvState → Direction
  | .finished result =>
      { direction with receiving := none, received := direction.received ++ [call.unpack result] }
  | state => { direction with receiving := some (call, state) }

variable (host : Host)

/-- Bytes the kernel takes from a write request when the reading end is open. -/
def wrote (direction : Direction) (sending : Sending) (count : Nat) : Option Direction :=
  if 0 < count ∧ count ≤ sending.offered.length ∧
      direction.pipe.length + count ≤ host.capacity then
    some ({ direction with pipe := direction.pipe ++ sending.offered.take count }.settleSend
      sending.payload (sendBlobNext sending.payload sending.part sending.offset (.result count)))
  else none

def read (direction : Direction) (call : RecvCall) (state : RecvState) (count : Nat) :
    Option Direction :=
  match state.request with
  | none => none
  | some (size, offset) =>
      if 0 < count ∧ count ≤ chunk size offset ∧ count ≤ direction.pipe.length then
        some ({ direction with pipe := direction.pipe.drop count }.settleRecv call
          (recvBlobNext host.memory (direction.pipe.take count) (.result count) state))
      else none

/-- A step of this direction, given how far its two endpoints are closed. -/
def step (sender receiver : Phase) (direction : Direction) : Move → Option Direction
  | .send =>
      match direction.sending, direction.outbox with
      | none, payload :: rest =>
          some ({ direction with outbox := rest }.settleSend payload
            (sendBlob sender.valid payload))
      | _, _ => none
  | .wrote count =>
      match direction.sending with
      | some sending => if receiver.valid then direction.wrote host sending count else none
      | none => none
  | .writeRetry code =>
      match direction.sending with
      | some sending =>
          if Retry code then
            some (direction.settleSend sending.payload
              (sendBlobNext sending.payload sending.part sending.offset (.result code)))
          else none
      | none => none
  | .writeRefused =>
      match direction.sending with
      | some sending =>
          if receiver.valid then none
          else some (direction.settleSend sending.payload
            (sendBlobNext sending.payload sending.part sending.offset (.result uvEpipe)))
      | none => none
  | .recv =>
      match direction.receiving, direction.inbox with
      | none, call :: rest =>
          some ({ direction with inbox := rest }.settleRecv call (recvBlob receiver.valid))
      | _, _ => none
  | .read count =>
      match direction.receiving with
      | some (call, state) => direction.read host call state count
      | none => none
  | .readRetry code =>
      match direction.receiving with
      | some (call, state) =>
          if Retry code then
            some (direction.settleRecv call (recvBlobNext host.memory [] (.result code) state))
          else none
      | none => none
  | .readEnd =>
      match direction.receiving with
      | some (call, state) =>
          if direction.pipe = [] ∧ sender = .closed then
            some (direction.settleRecv call (recvBlobNext host.memory [] (.result 0) state))
          else none
      | none => none

/-- What one step of a direction can do, with the conditions under which it does. -/
inductive Effect (sender receiver : Phase) (direction : Direction) : Move → Direction → Prop where
  | send {payload : Payload} {rest : List Payload} (hidle : direction.sending = none)
      (houtbox : direction.outbox = payload :: rest) :
      Effect sender receiver direction .send ({ direction with outbox := rest }.settleSend payload
        (sendBlob sender.valid payload))
  | wrote {sending : Sending} {count : Nat} (hsending : direction.sending = some sending)
      (hvalid : receiver.valid = true) (hpos : 0 < count)
      (hoffered : count ≤ sending.offered.length)
      (hroom : direction.pipe.length + count ≤ host.capacity) :
      Effect sender receiver direction (.wrote count)
        ({ direction with pipe := direction.pipe ++ sending.offered.take count }.settleSend
          sending.payload
          (sendBlobNext sending.payload sending.part sending.offset (.result count)))
  | writeRetry (code : Int) : Effect sender receiver direction (.writeRetry code) direction
  | writeRefused {sending : Sending} (hsending : direction.sending = some sending)
      (hinvalid : receiver.valid = false) :
      Effect sender receiver direction .writeRefused
        (direction.settleSend sending.payload (.finished (.ok false)))
  | recv {call : RecvCall} {rest : List RecvCall} (hidle : direction.receiving = none)
      (hinbox : direction.inbox = call :: rest) :
      Effect sender receiver direction .recv
        ({ direction with inbox := rest }.settleRecv call (recvBlob receiver.valid))
  | read {call : RecvCall} {state : RecvState} {count size offset : Nat}
      (hreceiving : direction.receiving = some (call, state))
      (hrequest : state.request = some (size, offset)) (hpos : 0 < count)
      (hchunk : count ≤ chunk size offset) (hpipe : count ≤ direction.pipe.length) :
      Effect sender receiver direction (.read count)
        ({ direction with pipe := direction.pipe.drop count }.settleRecv call
          (recvBlobNext host.memory (direction.pipe.take count) (.result count) state))
  | readRetry {call : RecvCall} {state : RecvState} (code : Int)
      (hreceiving : direction.receiving = some (call, state)) :
      Effect sender receiver direction (.readRetry code) (direction.settleRecv call state)
  | readEnd {call : RecvCall} {state : RecvState}
      (hreceiving : direction.receiving = some (call, state)) (hempty : direction.pipe = [])
      (hclosed : sender = .closed) :
      Effect sender receiver direction .readEnd
        (direction.settleRecv call (recvBlobNext host.memory [] (.result 0) state))

variable {host} {sender receiver : Phase} {direction next : Direction} {move : Move}

/-- Every step has one of these effects. -/
theorem step_effect (hstep : direction.step host sender receiver move = some next) :
    direction.Effect host sender receiver move next := by
  cases move with
  | send =>
      simp only [step] at hstep
      split at hstep
      next payload rest hidle houtbox =>
          obtain rfl := Option.some.inj hstep
          exact .send hidle houtbox
      next => exact absurd hstep (by simp)
  | wrote count =>
      simp only [step] at hstep
      split at hstep
      next sending hsending =>
          split at hstep
          next hvalid =>
              rw [wrote] at hstep
              split at hstep
              next hguard =>
                  obtain ⟨hpos, hoffered, hroom⟩ := hguard
                  obtain rfl := Option.some.inj hstep
                  exact .wrote hsending hvalid hpos hoffered hroom
              next => exact absurd hstep (by simp)
          next => exact absurd hstep (by simp)
      next => exact absurd hstep (by simp)
  | writeRetry code =>
      simp only [step] at hstep
      split at hstep
      next sending hsending =>
          split at hstep
          next hretry =>
              rw [sendBlobNext_retry _ hretry] at hstep
              obtain rfl := Option.some.inj hstep
              have hsame : direction.settleSend sending.payload
                  (.writing sending.part sending.offset) = direction := by
                simp only [settleSend]
                rw [← hsending]
              rw [hsame]
              exact .writeRetry code
          next => exact absurd hstep (by simp)
      next => exact absurd hstep (by simp)
  | writeRefused =>
      simp only [step] at hstep
      split at hstep
      next sending hsending =>
          split at hstep
          next => exact absurd hstep (by simp)
          next hinvalid =>
              -- `UV_EPIPE` makes `write_exact` return false, in the length and in the payload.
              have hrefused : sendBlobNext sending.payload sending.part sending.offset
                  (.result uvEpipe) = .finished (.ok false) := by
                cases sending.part <;> rfl
              rw [hrefused] at hstep
              obtain rfl := Option.some.inj hstep
              exact .writeRefused hsending (by simpa using hinvalid)
      next => exact absurd hstep (by simp)
  | recv =>
      simp only [step] at hstep
      split at hstep
      next call rest hidle hinbox =>
          obtain rfl := Option.some.inj hstep
          exact .recv hidle hinbox
      next => exact absurd hstep (by simp)
  | read count =>
      simp only [step] at hstep
      split at hstep
      next call state hreceiving =>
          rw [read] at hstep
          split at hstep
          next => exact absurd hstep (by simp)
          next size offset hrequest =>
              split at hstep
              next hguard =>
                  obtain ⟨hpos, hchunk, hpipe⟩ := hguard
                  obtain rfl := Option.some.inj hstep
                  exact .read hreceiving hrequest hpos hchunk hpipe
              next => exact absurd hstep (by simp)
      next => exact absurd hstep (by simp)
  | readRetry code =>
      simp only [step] at hstep
      split at hstep
      next call state hreceiving =>
          split at hstep
          next hretry =>
              rw [recvBlobNext_retry _ hretry] at hstep
              obtain rfl := Option.some.inj hstep
              exact .readRetry code hreceiving
          next => exact absurd hstep (by simp)
      next => exact absurd hstep (by simp)
  | readEnd =>
      simp only [step] at hstep
      split at hstep
      next call state hreceiving =>
          split at hstep
          next hguard =>
              obtain rfl := Option.some.inj hstep
              exact .readEnd hreceiving hguard.1 hguard.2
          next => exact absurd hstep (by simp)
      next => exact absurd hstep (by simp)

end Direction

structure Pair where
  /-- The pipe this side writes to. -/
  direction : Side → Direction
  phase : Side → Phase := fun _ => .opened

inductive Label where
  | move (side : Side) (move : Move)
  /-- `close` clears the members and closes the read descriptor. -/
  | close (side : Side)
  | closeWrite (side : Side)

namespace Pair

variable (host : Host)

def setDirection (pair : Pair) (side : Side) (direction : Direction) : Pair :=
  { pair with direction := Function.update pair.direction side direction }

def setPhase (pair : Pair) (side : Side) (phase : Phase) : Pair :=
  { pair with phase := Function.update pair.phase side phase }

def step (pair : Pair) : Label → Option Pair
  | .move side move =>
      ((pair.direction side).step host (pair.phase side) (pair.phase side.other) move).map
        (pair.setDirection side)
  | .close side =>
      if pair.phase side = .opened ∧ (pair.direction side).outbox = [] ∧
          (pair.direction side).sending.isNone ∧ (pair.direction side.other).receiving.isNone then
        some (pair.setPhase side .readClosed)
      else none
  | .closeWrite side =>
      if pair.phase side = .readClosed then some (pair.setPhase side .closed) else none

end Pair

def machine (host : Host) : Machine Pair Label where
  step := Pair.step host

/-- A new pair: what each side is going to send, and the receives the other side is
going to make of it. -/
def initial (payloads : Side → List Payload) (calls : Side → List RecvCall) : Pair where
  direction := fun side => { outbox := payloads side, inbox := calls side }

end Fiberuv.Ipc
