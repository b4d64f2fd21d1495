import Fiberuv.Foundation.Machine

/-! # The cross-thread message queue

`MessageQueue<T>` serves any number of senders and receivers on any threads and
fibers. One step is one block protected by `mutex_`, one `set_value` of a promise
after the lock is released, one readiness test of a future, or one notification.
The condition variable `recv_cv_` is the list of threads parked on it: a thread
leaves that list when it is notified or wakes up spuriously, and then tests its
predicate again under the lock.

Every call has an identifier, and the promise registered by a receive call has
the identifier of that call. A message is a value together with the send call it
was given to, which tells equal values apart and is read by no operation.
-/

namespace Fiberuv.MessageQueue

open Foundation

abbrev CallId := Nat

/-- A value together with the send call that it was given to. -/
structure Message (α : Type) where
  sender : CallId
  value : α
  deriving DecidableEq

/-- Where one call stands between its steps. -/
inductive Call (α : Type) where
  | idle
  /-- `send_payload` took this waiter and released the lock; `set_value` is next. -/
  | handingOff (message : Message α) (waiter : CallId)
  | sent (message : Message α) (accepted : Bool)
  /-- `set_value` found the promise satisfied, and its exception left `send`. -/
  | sendThrew (message : Message α)
  /-- `recv` in `future.get()`. -/
  | recvWaiting
  /-- `recv_for` in its first `future.wait_for`. -/
  | recvForWaiting
  /-- The first `wait_for` reported a timeout; the look-up under the lock is next. -/
  | recvForExpired
  /-- The look-up did not find the promise; the second, zero `wait_for` is next. -/
  | recvForRechecking
  /-- Inside `recv_cv_.wait`, or `wait_for` when `timed`. -/
  | blocked (timed : Bool)
  | received (result : Option (Message α))
  /-- `close` after its critical section: `notify_all`, then the waiters in turn. -/
  | closing (notified : Bool) (waiters : List CallId)
  | closeDone
  deriving DecidableEq

namespace Call

variable {α : Type}

/-- The call has started and has not returned. -/
def inProgress : Call α → Bool
  | .idle | .sent _ _ | .sendThrew _ | .received _ | .closeDone => false
  | _ => true

/-- The call has not started, or is parked on `recv_cv_`: it owns no promise. -/
def outside : Call α → Bool
  | .idle | .blocked _ => true
  | _ => false

/-- A `recv` or `recv_for` whose promise may still be in `fiber_waiters_`. -/
def registrable : Call α → Bool
  | .recvWaiting | .recvForWaiting | .recvForExpired => true
  | _ => false

/-- A `recv` or `recv_for` that registered a promise and has not returned. -/
def awaits : Call α → Bool
  | .recvWaiting | .recvForWaiting | .recvForExpired | .recvForRechecking => true
  | _ => false

end Call

/-- The queue, its wait sets, and the position of every call. `accepted` and
`assigned` record the critical sections that accepted a message or bound one to a
receive call; no step reads them. -/
structure State (α : Type) where
  queue : List (Message α) := []
  closed : Bool := false
  fiberWaiters : List CallId := []
  promise : CallId → Option (Option (Message α)) := fun _ => none
  parked : List CallId := []
  calls : CallId → Call α := fun _ => .idle
  /-- An exception left the `noexcept` function `close`. -/
  terminated : Bool := false
  accepted : List (Message α) := []
  assigned : List (CallId × Message α) := []

/-- One step of one call. `woken` is the parked thread that `notify_one` picks. -/
inductive Action (α : Type) where
  | send (call : CallId) (value : α) (woken : Option CallId)
  | sendSetValue (call : CallId)
  | recv (call : CallId)
  | recvGet (call : CallId)
  | recvFor (call : CallId)
  | recvForWait (call : CallId)
  | recvForLookup (call : CallId)
  | recvForZeroWait (call : CallId)
  | recvBlocking (call : CallId)
  | recvBlockingFor (call : CallId)
  | blockedWake (call : CallId)
  | blockedTimeout (call : CallId)
  | tryRecv (call : CallId)
  | close (call : CallId)
  | closeNotifyAll (call : CallId)
  | closeSetValue (call : CallId)

/-- The call that takes the step. -/
def Action.call {α : Type} : Action α → CallId
  | .send call _ _ | .sendSetValue call | .recv call | .recvGet call | .recvFor call
  | .recvForWait call | .recvForLookup call | .recvForZeroWait call | .recvBlocking call
  | .recvBlockingFor call | .blockedWake call | .blockedTimeout call | .tryRecv call
  | .close call | .closeNotifyAll call | .closeSetValue call => call

namespace State

variable {α : Type}

def become (state : State α) (call : CallId) (position : Call α) : State α :=
  { state with calls := Function.update state.calls call position }

/-- `pop_front_unlocked`, with the popped message as the result of this call. -/
def popFrontUnlocked (state : State α) (call : CallId) (front : Message α)
    (rest : List (Message α)) : State α :=
  { state with queue := rest, assigned := state.assigned ++ [(call, front)] }.become call
    (.received (some front))

/-- The critical section that `recv` and `recv_for` share: take the front, report
the closed queue, or register a promise. -/
def takeOrRegister (state : State α) (call : CallId) (waiting : Call α) : State α :=
  match state.queue with
  | front :: rest => state.popFrontUnlocked call front rest
  | [] =>
      if state.closed then state.become call (.received none)
      else { state with fiberWaiters := state.fiberWaiters ++ [call] }.become call waiting

def recv (state : State α) (call : CallId) : State α :=
  state.takeOrRegister call .recvWaiting

def recvFor (state : State α) (call : CallId) : State α :=
  state.takeOrRegister call .recvForWaiting

/-- The second critical section of `recv_for`, after its timeout. -/
def recvForLookup (state : State α) (call : CallId) : State α :=
  if call ∈ state.fiberWaiters then
    { state with fiberWaiters := state.fiberWaiters.erase call }.become call (.received none)
  -- A sender or `close` has taken the promise; the call tests it once more, outside the lock.
  else state.become call .recvForRechecking

/-- `recv_cv_.wait(lock, predicate)` up to its return or its next park, and the
rest of the receive under the same lock. -/
def takeOrPark (state : State α) (call : CallId) (timed : Bool) : State α :=
  match state.queue with
  | front :: rest => state.popFrontUnlocked call front rest
  | [] =>
      if state.closed then state.become call (.received none)
      else { state with parked := state.parked ++ [call] }.become call (.blocked timed)

def recvBlocking (state : State α) (call : CallId) : State α :=
  state.takeOrPark call false

def recvBlockingFor (state : State α) (call : CallId) : State α :=
  state.takeOrPark call true

/-- The last predicate test of `wait_for` after its deadline; also `try_recv`. -/
def takeOrNull (state : State α) (call : CallId) : State α :=
  match state.queue with
  | front :: rest => state.popFrontUnlocked call front rest
  | [] => state.become call (.received none)

def tryRecv (state : State α) (call : CallId) : State α :=
  state.takeOrNull call

def unpark (state : State α) (call : CallId) : State α :=
  { state with parked := state.parked.erase call }

/-- `recv_cv_.notify_one()`: wakes a parked thread whenever there is one. -/
def notifyOne (state : State α) : Option CallId → Option (State α)
  | none => if state.parked = [] then some state else none
  | some woken => if woken ∈ state.parked then some (state.unpark woken) else none

/-- Take the first waiter out of `fiber_waiters_` for this message. -/
def bindWaiter (state : State α) (waiter : CallId) (rest : List CallId) (message : Message α) :
    State α :=
  { state with
    fiberWaiters := rest
    accepted := state.accepted ++ [message]
    assigned := state.assigned ++ [(waiter, message)] }

/-- `queue_.push_back(std::move(*payload))`. -/
def pushBack (state : State α) (message : Message α) : State α :=
  { state with queue := state.queue ++ [message], accepted := state.accepted ++ [message] }

/-- The critical section of `send_payload`. -/
def sendPayload (state : State α) (call : CallId) (value : α) (woken : Option CallId) :
    Option (State α) :=
  let message : Message α := ⟨call, value⟩
  if state.closed then some (state.become call (.sent message false))
  else match state.fiberWaiters with
    -- The waiter leaves the list here; its promise is set after the lock is released.
    | waiter :: rest =>
        some ((state.bindWaiter waiter rest message).become call (.handingOff message waiter))
    | [] => ((state.pushBack message).notifyOne woken).map
        (State.become · call (.sent message true))

def fulfil (state : State α) (waiter : CallId) (result : Option (Message α)) : State α :=
  { state with promise := Function.update state.promise waiter (some result) }

/-- `waiter->set_value(std::move(payload))` after the lock. -/
def sendSetValue (state : State α) (call : CallId) (message : Message α) (waiter : CallId) :
    State α :=
  match state.promise waiter with
  | none => (state.fulfil waiter (some message)).become call (.sent message true)
  | some _ => state.become call (.sendThrew message)

/-- The critical section of `close`. -/
def close (state : State α) (call : CallId) : State α :=
  if state.closed then state.become call .closeDone
  else { state with closed := true, fiberWaiters := [] }.become call
    (.closing false state.fiberWaiters)

/-- One iteration of the loop of `close` over its local list. -/
def closeSetValue (state : State α) (call : CallId) : List CallId → State α
  | [] => state.become call .closeDone
  | waiter :: rest =>
      match state.promise waiter with
      | none => (state.fulfil waiter none).become call (.closing true rest)
      | some _ => { state with terminated := true }

/-- The step an action takes from the position of its call. A `wait_for` step
without a set promise is the expiry of its timeout. -/
def step (state : State α) (action : Action α) : Option (State α) :=
  if state.terminated then none
  else match action, state.calls action.call with
    | .send call value woken, .idle => state.sendPayload call value woken
    | .sendSetValue call, .handingOff message waiter =>
        some (state.sendSetValue call message waiter)
    | .recv call, .idle => some (state.recv call)
    | .recvGet call, .recvWaiting =>
        (state.promise call).map fun result => state.become call (.received result)
    | .recvFor call, .idle => some (state.recvFor call)
    | .recvForWait call, .recvForWaiting =>
        some (state.become call (match state.promise call with
          | some result => .received result
          | none => .recvForExpired))
    | .recvForLookup call, .recvForExpired => some (state.recvForLookup call)
    -- A zero wait on a promise that is not set yet counts as the timeout.
    | .recvForZeroWait call, .recvForRechecking =>
        some (state.become call (.received ((state.promise call).getD none)))
    | .recvBlocking call, .idle => some (state.recvBlocking call)
    | .recvBlockingFor call, .idle => some (state.recvBlockingFor call)
    | .blockedWake call, .blocked timed => some ((state.unpark call).takeOrPark call timed)
    | .blockedTimeout call, .blocked true => some ((state.unpark call).takeOrNull call)
    | .tryRecv call, .idle => some (state.tryRecv call)
    | .close call, .idle => some (state.close call)
    | .closeNotifyAll call, .closing false waiters =>
        some ({ state with parked := [] }.become call (.closing true waiters))
    | .closeSetValue call, .closing true waiters => some (state.closeSetValue call waiters)
    | _, _ => none

end State

/-- The queue under any interleaving of its calls. -/
def machine (α : Type) : Machine (State α) (Action α) where
  step := State.step

/-- A freshly constructed queue, before any call. -/
def initial (α : Type) : State α := {}

end Fiberuv.MessageQueue
