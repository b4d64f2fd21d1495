import Fiberuv.Ipc.Pair

/-! # One process channel and whatever is at its other end

The two directions of a channel with arbitrary results of their requests: any split of the
bytes, any error, any end of file, and a payload vector that cannot be allocated. The bytes
to be read are given, nothing is assumed about who wrote them. In each direction the calls
are made one after another.

Every call that ends is recorded with the bytes that had been written or consumed on its
descriptor by then.
-/

namespace Fiberuv.Ipc

open Foundation

/-- The outcome transfers no bytes. -/
def Outcome.idle : Outcome → Bool
  | .notStarted _ => true
  | .result value => decide (value ≤ 0)

/-- The request is submitted again. -/
def Outcome.retries : Outcome → Bool
  | .notStarted _ => false
  | .result value => decide (Retry value)

theorem Outcome.retry_of_retries {outcome : Outcome} (hretries : outcome.retries = true) :
    ∃ code, outcome = .result code ∧ Retry code := by
  cases outcome with
  | notStarted rc => simp [Outcome.retries] at hretries
  | result code => exact ⟨code, rfl, by simpa [Outcome.retries] using hretries⟩

/-- The request fails for good. -/
theorem Outcome.failed_cases {outcome : Outcome} (hidle : outcome.idle = true)
    (hretries : outcome.retries = false) :
    (∃ rc, outcome = .notStarted rc) ∨ ∃ code, outcome = .result code ∧ ¬ 0 < code ∧
      ¬ (code = uvEintr ∨ code = uvEagain) := by
  cases outcome with
  | notStarted rc => exact .inl ⟨rc, rfl⟩
  | result code =>
      have hcode : ¬ 0 < code := by simpa [Outcome.idle] using hidle
      have hretry : ¬ Retry code := by simpa [Outcome.retries] using hretries
      exact .inr ⟨code, rfl, hcode, hretry⟩

structure Sender where
  outbox : List Payload
  sending : Option Sending := none
  written : Bytes := []
  sent : List (Except Error Bool × Bytes) := []

inductive WriteMove where
  | send
  | wrote (count : Nat)
  /-- The outstanding request ends without having written anything. -/
  | fails (outcome : Outcome)

namespace Sender

def settle (sender : Sender) (payload : Payload) : SendState → Sender
  | .writing part offset => { sender with sending := some ⟨payload, part, offset⟩ }
  | .finished result =>
      { sender with sending := none, sent := sender.sent ++ [(result, sender.written)] }

def step (sender : Sender) : WriteMove → Option Sender
  | .send =>
      match sender.sending, sender.outbox with
      | none, payload :: rest =>
          some ({ sender with outbox := rest }.settle payload (sendBlob true payload))
      | _, _ => none
  | .wrote count =>
      match sender.sending with
      | some sending =>
          if 0 < count ∧ count ≤ sending.offered.length then
            some ({ sender with written := sender.written ++ sending.offered.take count }.settle
              sending.payload
              (sendBlobNext sending.payload sending.part sending.offset (.result count)))
          else none
      | none => none
  | .fails outcome =>
      match sender.sending with
      | some sending =>
          if outcome.idle then
            some (sender.settle sending.payload
              (sendBlobNext sending.payload sending.part sending.offset outcome))
          else none
      | none => none

end Sender

structure Receiver where
  /-- What is still to come on the descriptor, up to the end of file. -/
  unread : Bytes
  inbox : List RecvCall
  receiving : Option (RecvCall × RecvState) := none
  consumed : Bytes := []
  received : List (Except Error (Option Bytes) × Bytes) := []

inductive ReadMove where
  | recv
  /-- The request reads so many bytes; if they complete a length field, the payload vector
  can be allocated or not. -/
  | read (count : Nat) (allocates : Bool)
  | fails (outcome : Outcome)

namespace Receiver

def settle (receiver : Receiver) (call : RecvCall) : RecvState → Receiver
  | .finished result =>
      { receiver with
        receiving := none
        received := receiver.received ++ [(call.unpack result, receiver.consumed)] }
  | state => { receiver with receiving := some (call, state) }

/-- The bytes a read of this size takes off the descriptor. -/
def advance (receiver : Receiver) (count : Nat) : Receiver :=
  { receiver with
    unread := receiver.unread.drop count
    consumed := receiver.consumed ++ receiver.unread.take count }

def step (receiver : Receiver) : ReadMove → Option Receiver
  | .recv =>
      match receiver.receiving, receiver.inbox with
      | none, call :: rest => some ({ receiver with inbox := rest }.settle call (recvBlob true))
      | _, _ => none
  | .read count allocates =>
      match receiver.receiving with
      | some (call, state) =>
          match state.request with
          | none => none
          | some (size, offset) =>
              if 0 < count ∧ count ≤ chunk size offset ∧ count ≤ receiver.unread.length then
                some ((receiver.advance count).settle call
                  (recvBlobNext (fun _ => allocates) (receiver.unread.take count) (.result count)
                    state))
              else none
      | none => none
  | .fails outcome =>
      match receiver.receiving with
      | some (call, state) =>
          if outcome.idle then
            some (receiver.settle call (recvBlobNext (fun _ => true) [] outcome state))
          else none
      | none => none

/-- What one step of the receiving direction can do. -/
inductive Effect (receiver : Receiver) : ReadMove → Receiver → Prop where
  | recv {call : RecvCall} {rest : List RecvCall} (hidle : receiver.receiving = none)
      (hinbox : receiver.inbox = call :: rest) :
      Effect receiver .recv { receiver with inbox := rest, receiving := some (call, .length []) }
  | read {call : RecvCall} {state : RecvState} {count size offset : Nat} {allocates : Bool}
      (hreceiving : receiver.receiving = some (call, state))
      (hrequest : state.request = some (size, offset)) (hpos : 0 < count)
      (hchunk : count ≤ size - offset) (hunread : count ≤ receiver.unread.length) :
      Effect receiver (.read count allocates) ((receiver.advance count).settle call
        (recvBlobNext (fun _ => allocates) (receiver.unread.take count) (.result count) state))
  | fails {call : RecvCall} {state : RecvState} {outcome : Outcome}
      (hreceiving : receiver.receiving = some (call, state)) (hidle : outcome.idle = true) :
      Effect receiver (.fails outcome)
        (receiver.settle call (recvBlobNext (fun _ => true) [] outcome state))

variable {receiver next : Receiver} {move : ReadMove}

theorem step_effect (hstep : receiver.step move = some next) : receiver.Effect move next := by
  cases move with
  | recv =>
      simp only [step] at hstep
      split at hstep
      next call rest hidle hinbox =>
          obtain rfl := Option.some.inj hstep
          exact .recv hidle hinbox
      next => exact absurd hstep (by simp)
  | read count allocates =>
      simp only [step] at hstep
      split at hstep
      next call state hreceiving =>
          split at hstep
          next => exact absurd hstep (by simp)
          next size offset hrequest =>
              simp only [Option.ite_none_right_eq_some, Option.some.injEq] at hstep
              obtain ⟨⟨hpos, hchunk, hunread⟩, rfl⟩ := hstep
              exact .read hreceiving hrequest hpos (Nat.le_trans hchunk (Nat.min_le_right _ _))
                hunread
      next => exact absurd hstep (by simp)
  | fails outcome =>
      simp only [step] at hstep
      split at hstep
      next call state hreceiving =>
          simp only [Option.ite_none_right_eq_some, Option.some.injEq] at hstep
          obtain ⟨hidle, rfl⟩ := hstep
          exact .fails hreceiving hidle
      next => exact absurd hstep (by simp)

end Receiver

/-- The receiving direction by itself. -/
def receiving : Machine Receiver ReadMove where
  step := Receiver.step

/-- The calls that are going to be made on a descriptor with these bytes. -/
def Receiver.start (bytes : Bytes) (calls : List RecvCall) : Receiver where
  unread := bytes
  inbox := calls

structure Channel where
  sender : Sender
  receiver : Receiver

inductive ChannelMove where
  | write (move : WriteMove)
  | read (move : ReadMove)

def Channel.step (channel : Channel) : ChannelMove → Option Channel
  | .write move => (channel.sender.step move).map fun sender => { channel with sender := sender }
  | .read move =>
      (channel.receiver.step move).map fun receiver => { channel with receiver := receiver }

def channel : Machine Channel ChannelMove where
  step := Channel.step

def Channel.start (payloads : List Payload) (bytes : Bytes) (calls : List RecvCall) : Channel where
  sender := { outbox := payloads }
  receiver := Receiver.start bytes calls

end Fiberuv.Ipc
