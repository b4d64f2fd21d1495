import Fiberuv.Foundation.Machine

/-! # Task scopes

The shared state of one `TaskScope`: the atomic counter of its active tasks, the
cancellation flag and the first exception, and the two condition variables. A task
changes the counter without holding either mutex and notifies both variables when
it was the last one. `join` waits on `cv` when it runs on the loop and on `std_cv`
otherwise; the second wait also ends when the loop is gone.

One step is one atomic operation, one block protected by `mutex`, one notification,
or one of the three parts of a wait on `std_cv`: taking `std_mutex`, testing the
predicate, and the atomic release and park. A notification wakes only the joiners
that are parked when it is executed.
-/

namespace Fiberuv.TaskScope

open Foundation

abbrev TaskId := Nat
abbrev JoinId := Nat

/-- An exception thrown by a task, named by a number. -/
abbrev Exn := Nat

/-- Where one `spawn` call and the task it creates stand. -/
inductive Task where
  | unborn
  /-- `active` was incremented; the fiber is not created yet. -/
  | admitted
  /-- `loop->spawn` threw after the increment. -/
  | rejected
  | running
  /-- The callable returned, or its exception was recorded. -/
  | finishing
  /-- `active.fetch_sub` returned 1; `cv.notify_all` is next. -/
  | last
  /-- `cv` was notified; `std_cv.notify_all` is next. -/
  | cvNotified
  | done
  deriving DecidableEq

/-- Where one `join` call stands. -/
inductive Joiner where
  | idle
  /-- On the loop: before the predicate test of `cv.wait`. -/
  | fiberTesting
  | fiberParked
  /-- Off the loop: `std_mutex` is to be taken, for the first time or after a wake-up. -/
  | locking
  /-- Holds `std_mutex` and is about to test the predicate. -/
  | testing
  /-- Found the predicate false and is about to release `std_mutex` and park. -/
  | leaving
  | parked
  /-- Found the predicate true and still holds `std_mutex`. -/
  | passed
  /-- About to read `first_exception`. -/
  | reporting
  | returned (thrown : Option Exn)
  deriving DecidableEq

structure State where
  active : Nat := 0
  cancelRequested : Bool := false
  firstException : Option Exn := none
  stdMutex : Option JoinId := none
  /-- `is_loop_alive(loop_lifetime)`. -/
  alive : Bool := true
  tasks : TaskId → Task := fun _ => .unborn
  joiners : JoinId → Joiner := fun _ => .idle

inductive Action where
  | spawnCount (task : TaskId)
  | spawnFiber (task : TaskId)
  | spawnThrow (task : TaskId)
  | taskReturn (task : TaskId)
  | taskThrow (task : TaskId) (exn : Exn)
  | taskFetchSub (task : TaskId)
  | taskNotifyCv (task : TaskId)
  | taskNotifyStdCv (task : TaskId)
  | requestCancel
  | join (joiner : JoinId) (onLoop : Bool)
  | joinFiberTest (joiner : JoinId)
  | joinLock (joiner : JoinId)
  | joinTest (joiner : JoinId)
  | joinPark (joiner : JoinId)
  /-- A spurious wake-up. -/
  | joinWake (joiner : JoinId)
  | joinUnlock (joiner : JoinId)
  | joinReport (joiner : JoinId)
  /-- `~EventLoop` clears the lifetime flag; it notifies nobody. -/
  | destroyLoop

namespace State

def setTask (state : State) (task : TaskId) (position : Task) : State :=
  { state with tasks := Function.update state.tasks task position }

def setJoiner (state : State) (joiner : JoinId) (position : Joiner) : State :=
  { state with joiners := Function.update state.joiners joiner position }

/-- The `catch (...)` block of the spawned fiber. -/
def recordException (state : State) (exn : Exn) : State :=
  { state with
    firstException := state.firstException.or (some exn)
    cancelRequested := true }

/-- `active.fetch_sub(1)` and the test whether this was the last task. -/
def fetchSub (state : State) (task : TaskId) : State :=
  { state with active := state.active - 1 }.setTask task
    (if state.active = 1 then .last else .done)

/-- `cv.notify_all()`. -/
def notifyCv (state : State) : State :=
  { state with joiners := fun joiner =>
      if state.joiners joiner = .fiberParked then .fiberTesting else state.joiners joiner }

/-- `std_cv.notify_all()`: every parked joiner goes back to `std_mutex`. -/
def notifyStdCv (state : State) : State :=
  { state with joiners := fun joiner =>
      if state.joiners joiner = .parked then .locking else state.joiners joiner }

/-- The predicate of the wait on `std_cv`. -/
def waitOver (state : State) : Bool :=
  state.active == 0 || !state.alive

/-- `join` up to its wait. A loop that is gone ends the call at once. -/
def join (state : State) (joiner : JoinId) (onLoop : Bool) : State :=
  state.setJoiner joiner
    (if !state.alive then .returned none else if onLoop then .fiberTesting else .locking)

/-- After the wait on `std_cv`: give up on a loop that died with active tasks. -/
def joinUnlock (state : State) (joiner : JoinId) : State :=
  { state with stdMutex := none }.setJoiner joiner
    -- A recorded exception is not rethrown on this path.
    (if !state.alive && 0 < state.active then .returned none else .reporting)

def stepTask (state : State) : Action → Option State
  | .spawnCount task =>
      if state.tasks task = .unborn then
        some ({ state with active := state.active + 1 }.setTask task .admitted)
      else none
  | .spawnFiber task =>
      if state.tasks task = .admitted then some (state.setTask task .running) else none
  | .spawnThrow task =>
      if state.tasks task = .admitted then some (state.setTask task .rejected) else none
  | .taskReturn task =>
      if state.tasks task = .running then some (state.setTask task .finishing) else none
  | .taskThrow task exn =>
      if state.tasks task = .running then
        some ((state.recordException exn).setTask task .finishing)
      else none
  | .taskFetchSub task =>
      if state.tasks task = .finishing then some (state.fetchSub task) else none
  | .taskNotifyCv task =>
      if state.tasks task = .last then some (state.notifyCv.setTask task .cvNotified) else none
  | .taskNotifyStdCv task =>
      if state.tasks task = .cvNotified then some (state.notifyStdCv.setTask task .done) else none
  | _ => none

def stepJoin (state : State) : Action → Option State
  | .join joiner onLoop =>
      if state.joiners joiner = .idle then some (state.join joiner onLoop) else none
  | .joinFiberTest joiner =>
      if state.joiners joiner = .fiberTesting then
        some (state.setJoiner joiner (if state.active = 0 then .reporting else .fiberParked))
      else none
  | .joinLock joiner =>
      if state.joiners joiner = .locking ∧ state.stdMutex = none then
        some ({ state with stdMutex := some joiner }.setJoiner joiner .testing)
      else none
  | .joinTest joiner =>
      if state.joiners joiner = .testing then
        some (state.setJoiner joiner (if state.waitOver then .passed else .leaving))
      else none
  | .joinPark joiner =>
      if state.joiners joiner = .leaving then
        some ({ state with stdMutex := none }.setJoiner joiner .parked)
      else none
  | .joinWake joiner =>
      if state.joiners joiner = .parked then some (state.setJoiner joiner .locking) else none
  | .joinUnlock joiner =>
      if state.joiners joiner = .passed then some (state.joinUnlock joiner) else none
  | .joinReport joiner =>
      if state.joiners joiner = .reporting then
        some (state.setJoiner joiner (.returned state.firstException))
      else none
  | _ => none

def step (state : State) (action : Action) : Option State :=
  match action with
  | .requestCancel => some { state with cancelRequested := true }
  | .destroyLoop => some { state with alive := false }
  | .spawnCount _ | .spawnFiber _ | .spawnThrow _ | .taskReturn _ | .taskThrow _ _
  | .taskFetchSub _ | .taskNotifyCv _ | .taskNotifyStdCv _ => state.stepTask action
  | _ => state.stepJoin action

end State

/-- One scope under any interleaving of its tasks, its joiners and `~EventLoop`. -/
def machine : Machine State Action where
  step := State.step

/-- A freshly constructed scope. -/
def initial : State := {}

end Fiberuv.TaskScope
