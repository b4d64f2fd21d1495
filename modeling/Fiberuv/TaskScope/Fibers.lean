import Fiberuv.TaskScope.Model
import Fiberuv.Foundation.Census

/-! # The tasks of a scope as fibers of its loop

`TaskScope::spawn` makes the task, increments `active` and hands a wrapper to
`EventLoop::spawn`, which makes a copy of it, increments `active_fibers_` and creates the
fiber. Either call can throw at each of these points. The body of the fiber records the
first exception of the scope and the cancellation under `mutex`, decrements `active`,
notifies, and at last decrements `active_fibers_`. Fibers that `EventLoop::spawn` creates
outside the scope only have the last part.

One step is one atomic operation, one access under `mutex`, one notification, or one part
of a wait. Whether a spawn comes from a task of the scope is part of the label.
-/

namespace Fiberuv.TaskScope.Fibers

open Foundation

abbrev FiberId := Nat

/-- A fiber of the scope, or any other fiber of the loop. -/
inductive Kind where
  | task
  | plain
  deriving DecidableEq

/-- Where one spawn and the fiber it creates stand. -/
inductive Fiber where
  | absent
  /-- The spawn threw before it counted anything. -/
  | refused
  /-- `active` was incremented; `EventLoop::spawn` has not counted the fiber. -/
  | admitted
  /-- `active_fibers_` was incremented; the fiber is not created. -/
  | counted (kind : Kind)
  /-- `EventLoop::spawn` threw before it counted the fiber of an admitted task. -/
  | lostTask
  /-- The creation of the fiber threw. -/
  | lost (kind : Kind)
  | running (kind : Kind)
  /-- The task threw; `mutex` is to be taken. -/
  | caught (exn : Exn)
  /-- Holds `mutex` and is about to write `first_exception`. -/
  | recording (exn : Exn)
  /-- Holds `mutex` and is about to set `cancel_requested`. -/
  | marking
  | unlocking
  /-- The task returned, or its failure is recorded; `active.fetch_sub` is next. -/
  | finishing
  /-- `fetch_sub` returned 1; `cv.notify_all` is next. -/
  | last
  | cvNotified
  /-- `active_fibers_.fetch_sub` is next. -/
  | leaving
  | done
  deriving DecidableEq

/-- Where one `join` stands. -/
inductive Joiner where
  | idle
  /-- On the loop: `mutex` is to be taken, for the first time or after a wake-up. -/
  | fiberLocking
  | fiberTesting
  | fiberParked
  /-- Found the predicate true and still holds `mutex`. -/
  | fiberPassed
  /-- Off the loop: `std_mutex` is to be taken, for the first time or after a wake-up. -/
  | locking
  | testing
  /-- Found the predicate false and is about to release `std_mutex` and park. -/
  | leaving
  | parked
  /-- Found the predicate true and still holds `std_mutex`. -/
  | passed
  /-- About to read `first_exception`. -/
  | reporting
  | returned (thrown : Option Exn)
  deriving DecidableEq

/-- Who holds `mutex`. -/
inductive Holder where
  | fiber (id : FiberId)
  | joiner (id : JoinId)
  deriving DecidableEq

/-- Who calls `TaskScope::spawn`. -/
inductive Spawner where
  /-- The owner of the scope, or other code that is not a task of it. -/
  | outside
  | task (id : FiberId)
  deriving DecidableEq

structure State where
  active : Nat := 0
  activeFibers : Nat := 0
  cancelRequested : Bool := false
  firstException : Option Exn := none
  mutex : Option Holder := none
  stdMutex : Option JoinId := none
  /-- `is_loop_alive(loop_lifetime)`. -/
  alive : Bool := true
  fibers : FiberId → Fiber := fun _ => .absent
  joiners : JoinId → Joiner := fun _ => .idle
  unhandledExceptionCount : Nat := 0
  /-- The tasks of the scope that threw, in that order. -/
  threw : List (FiberId × Exn) := []
  /-- The failures in the order in which the tasks recorded them. -/
  failures : List (FiberId × Exn) := []

inductive Action where
  /-- The construction of the task throws, in either `spawn`. -/
  | refuse (id : FiberId)
  /-- `TaskScope::spawn` up to the increment of `active`. -/
  | accept (spawner : Spawner) (id : FiberId)
  /-- `EventLoop::spawn` of an admitted task throws before the increment. -/
  | closureThrow (id : FiberId)
  /-- `EventLoop::spawn` of an admitted task up to the increment of `active_fibers_`. -/
  | count (id : FiberId)
  /-- `EventLoop::spawn` outside the scope, up to the increment. -/
  | countPlain (id : FiberId)
  | create (id : FiberId)
  | fiberThrow (id : FiberId)
  | taskReturn (id : FiberId)
  | taskThrow (id : FiberId) (exn : Exn)
  | lockMutex (id : FiberId)
  | record (id : FiberId)
  | mark (id : FiberId)
  | unlockMutex (id : FiberId)
  | fetchSub (id : FiberId)
  | notifyCv (id : FiberId)
  | notifyStdCv (id : FiberId)
  /-- The function of a fiber outside the scope ends, `threw` if it is reported. -/
  | plainEnd (id : FiberId) (threw : Bool)
  | fiberDone (id : FiberId)
  | requestCancel
  | join (joiner : JoinId) (onLoop : Bool)
  | joinFiberLock (joiner : JoinId)
  | joinFiberTest (joiner : JoinId)
  | joinFiberUnlock (joiner : JoinId)
  | joinLock (joiner : JoinId)
  | joinTest (joiner : JoinId)
  | joinPark (joiner : JoinId)
  /-- A spurious wake-up. -/
  | joinWake (joiner : JoinId)
  | joinUnlock (joiner : JoinId)
  | joinReport (joiner : JoinId)
  /-- `~EventLoop` clears the lifetime flag. -/
  | destroyLoop

namespace State

def setFiber (state : State) (id : FiberId) (position : Fiber) : State :=
  { state with fibers := Function.update state.fibers id position }

def setJoiner (state : State) (joiner : JoinId) (position : Joiner) : State :=
  { state with joiners := Function.update state.joiners joiner position }

/-- A spawn by a task needs a running task. -/
def canSpawn (state : State) : Spawner → Bool
  | .outside => true
  | .task id => decide (state.fibers id = .running .task)

/-- `cv.notify_all()`. -/
def notifyCv (state : State) : State :=
  { state with joiners := fun joiner =>
      if state.joiners joiner = .fiberParked then .fiberLocking else state.joiners joiner }

/-- `std_cv.notify_all()`. -/
def notifyStdCv (state : State) : State :=
  { state with joiners := fun joiner =>
      if state.joiners joiner = .parked then .locking else state.joiners joiner }

/-- The predicate of the wait on `std_cv`. -/
def waitOver (state : State) : Bool :=
  state.active == 0 || !state.alive

def stepSpawn (state : State) : Action → Option State
  | .refuse id => if state.fibers id = .absent then some (state.setFiber id .refused) else none
  | .accept spawner id =>
      if state.fibers id = .absent ∧ state.canSpawn spawner then
        some ({ state with active := state.active + 1 }.setFiber id .admitted)
      else none
  | .closureThrow id =>
      if state.fibers id = .admitted then some (state.setFiber id .lostTask) else none
  | .count id =>
      if state.fibers id = .admitted then
        some ({ state with activeFibers := state.activeFibers + 1 }.setFiber id (.counted .task))
      else none
  | .countPlain id =>
      if state.fibers id = .absent then
        some ({ state with activeFibers := state.activeFibers + 1 }.setFiber id (.counted .plain))
      else none
  | .create id =>
      match state.fibers id with
      | .counted kind => some (state.setFiber id (.running kind))
      | _ => none
  | .fiberThrow id =>
      match state.fibers id with
      | .counted kind => some (state.setFiber id (.lost kind))
      | _ => none
  | _ => none

def stepFiber (state : State) : Action → Option State
  | .taskReturn id =>
      if state.fibers id = .running .task then some (state.setFiber id .finishing) else none
  | .taskThrow id exn =>
      if state.fibers id = .running .task then
        some ({ state with threw := state.threw ++ [(id, exn)] }.setFiber id (.caught exn))
      else none
  | .lockMutex id =>
      match state.fibers id with
      | .caught exn =>
          if state.mutex = none then
            some ({ state with mutex := some (.fiber id) }.setFiber id (.recording exn))
          else none
      | _ => none
  | .record id =>
      match state.fibers id with
      | .recording exn =>
          some ({ state with
            firstException := state.firstException.or (some exn)
            failures := state.failures ++ [(id, exn)] }.setFiber id .marking)
      | _ => none
  | .mark id =>
      if state.fibers id = .marking then
        some ({ state with cancelRequested := true }.setFiber id .unlocking)
      else none
  | .unlockMutex id =>
      if state.fibers id = .unlocking then
        some ({ state with mutex := none }.setFiber id .finishing)
      else none
  | .fetchSub id =>
      if state.fibers id = .finishing then
        some ({ state with active := state.active - 1 }.setFiber id
          (if state.active = 1 then .last else .leaving))
      else none
  | .notifyCv id =>
      if state.fibers id = .last then some (state.notifyCv.setFiber id .cvNotified) else none
  | .notifyStdCv id =>
      if state.fibers id = .cvNotified then some (state.notifyStdCv.setFiber id .leaving) else none
  | .plainEnd id threw =>
      if state.fibers id = .running .plain then
        some ({ state with
          unhandledExceptionCount := state.unhandledExceptionCount + threw.toNat }.setFiber id
            .leaving)
      else none
  | .fiberDone id =>
      if state.fibers id = .leaving then
        some ({ state with activeFibers := state.activeFibers - 1 }.setFiber id .done)
      else none
  | _ => none

def stepJoin (state : State) : Action → Option State
  | .join joiner onLoop =>
      if state.joiners joiner = .idle then
        -- A loop that is gone ends the call at once.
        some (state.setJoiner joiner
          (if !state.alive then .returned none else if onLoop then .fiberLocking else .locking))
      else none
  | .joinFiberLock joiner =>
      if state.joiners joiner = .fiberLocking ∧ state.mutex = none then
        some ({ state with mutex := some (.joiner joiner) }.setJoiner joiner .fiberTesting)
      else none
  | .joinFiberTest joiner =>
      if state.joiners joiner = .fiberTesting then
        if state.active = 0 then some (state.setJoiner joiner .fiberPassed)
        else some ({ state with mutex := none }.setJoiner joiner .fiberParked)
      else none
  | .joinFiberUnlock joiner =>
      if state.joiners joiner = .fiberPassed then
        some ({ state with mutex := none }.setJoiner joiner .reporting)
      else none
  | .joinLock joiner =>
      if state.joiners joiner = .locking ∧ state.stdMutex = none then
        some ({ state with stdMutex := some joiner }.setJoiner joiner .testing)
      else none
  | .joinTest joiner =>
      if state.joiners joiner = .testing then
        some (state.setJoiner joiner (if state.waitOver then .passed else .leaving))
      else none
  | .joinPark joiner =>
      if state.joiners joiner = .leaving then
        some ({ state with stdMutex := none }.setJoiner joiner .parked)
      else none
  | .joinWake joiner =>
      match state.joiners joiner with
      | .fiberParked => some (state.setJoiner joiner .fiberLocking)
      | .parked => some (state.setJoiner joiner .locking)
      | _ => none
  | .joinUnlock joiner =>
      if state.joiners joiner = .passed then
        -- A recorded exception is not rethrown when the loop died with active tasks.
        some ({ state with stdMutex := none }.setJoiner joiner
          (if !state.alive && 0 < state.active then .returned none else .reporting))
      else none
  | .joinReport joiner =>
      if state.joiners joiner = .reporting ∧ state.mutex = none then
        some (state.setJoiner joiner (.returned state.firstException))
      else none
  | _ => none

def step (state : State) (action : Action) : Option State :=
  match action with
  | .requestCancel => some { state with cancelRequested := true }
  | .destroyLoop => some { state with alive := false }
  | .refuse _ | .accept _ _ | .closureThrow _ | .count _ | .countPlain _ | .create _
  | .fiberThrow _ => state.stepSpawn action
  | .taskReturn _ | .taskThrow _ _ | .lockMutex _ | .record _ | .mark _ | .unlockMutex _
  | .fetchSub _ | .notifyCv _ | .notifyStdCv _ | .plainEnd _ _ | .fiberDone _ =>
      state.stepFiber action
  | _ => state.stepJoin action

end State

/-- One scope and its loop under any interleaving of spawns, fibers, joiners and
`~EventLoop`. -/
def machine : Machine State Action := ⟨State.step⟩

def initial : State := {}

/-- What one step can do. The steps of joiners touch nothing but joiners and mutexes. -/
inductive Move (state : State) : Action → State → Prop where
  | refuse (id : FiberId) (hfiber : state.fibers id = .absent) :
      Move state (.refuse id) (state.setFiber id .refused)
  | accept (spawner : Spawner) (id : FiberId) (hfiber : state.fibers id = .absent)
      (hspawner : state.canSpawn spawner = true) :
      Move state (.accept spawner id)
        ({ state with active := state.active + 1 }.setFiber id .admitted)
  | closureThrow (id : FiberId) (hfiber : state.fibers id = .admitted) :
      Move state (.closureThrow id) (state.setFiber id .lostTask)
  | count (id : FiberId) (hfiber : state.fibers id = .admitted) :
      Move state (.count id)
        ({ state with activeFibers := state.activeFibers + 1 }.setFiber id (.counted .task))
  | countPlain (id : FiberId) (hfiber : state.fibers id = .absent) :
      Move state (.countPlain id)
        ({ state with activeFibers := state.activeFibers + 1 }.setFiber id (.counted .plain))
  | create (id : FiberId) (kind : Kind) (hfiber : state.fibers id = .counted kind) :
      Move state (.create id) (state.setFiber id (.running kind))
  | fiberThrow (id : FiberId) (kind : Kind) (hfiber : state.fibers id = .counted kind) :
      Move state (.fiberThrow id) (state.setFiber id (.lost kind))
  | taskReturn (id : FiberId) (hfiber : state.fibers id = .running .task) :
      Move state (.taskReturn id) (state.setFiber id .finishing)
  | taskThrow (id : FiberId) (exn : Exn) (hfiber : state.fibers id = .running .task) :
      Move state (.taskThrow id exn)
        ({ state with threw := state.threw ++ [(id, exn)] }.setFiber id (.caught exn))
  | lockMutex (id : FiberId) (exn : Exn) (hfiber : state.fibers id = .caught exn)
      (hfree : state.mutex = none) :
      Move state (.lockMutex id)
        ({ state with mutex := some (.fiber id) }.setFiber id (.recording exn))
  | record (id : FiberId) (exn : Exn) (hfiber : state.fibers id = .recording exn) :
      Move state (.record id) ({ state with
        firstException := state.firstException.or (some exn)
        failures := state.failures ++ [(id, exn)] }.setFiber id .marking)
  | mark (id : FiberId) (hfiber : state.fibers id = .marking) :
      Move state (.mark id) ({ state with cancelRequested := true }.setFiber id .unlocking)
  | unlockMutex (id : FiberId) (hfiber : state.fibers id = .unlocking) :
      Move state (.unlockMutex id) ({ state with mutex := none }.setFiber id .finishing)
  | fetchSub (id : FiberId) (hfiber : state.fibers id = .finishing) :
      Move state (.fetchSub id) ({ state with active := state.active - 1 }.setFiber id
        (if state.active = 1 then .last else .leaving))
  | notifyCv (id : FiberId) (hfiber : state.fibers id = .last) :
      Move state (.notifyCv id) (state.notifyCv.setFiber id .cvNotified)
  | notifyStdCv (id : FiberId) (hfiber : state.fibers id = .cvNotified) :
      Move state (.notifyStdCv id) (state.notifyStdCv.setFiber id .leaving)
  | plainEnd (id : FiberId) (threw : Bool) (hfiber : state.fibers id = .running .plain) :
      Move state (.plainEnd id threw) ({ state with
        unhandledExceptionCount := state.unhandledExceptionCount + threw.toNat }.setFiber id
          .leaving)
  | fiberDone (id : FiberId) (hfiber : state.fibers id = .leaving) :
      Move state (.fiberDone id)
        ({ state with activeFibers := state.activeFibers - 1 }.setFiber id .done)
  | requestCancel : Move state .requestCancel { state with cancelRequested := true }
  | destroyLoop : Move state .destroyLoop { state with alive := false }
  | joins {action : Action} (next : State) (hstep : state.stepJoin action = some next)
      (hnext : next = { state with
        joiners := next.joiners
        mutex := next.mutex
        stdMutex := next.stdMutex }) : Move state action next

theorem stepJoin_frame {state next : State} {action : Action}
    (hstep : state.stepJoin action = some next) : next = { state with
      joiners := next.joiners
      mutex := next.mutex
      stdMutex := next.stdMutex } := by
  cases action <;> simp only [State.stepJoin] at hstep
  case joinWake => split at hstep <;> cases hstep <;> rfl
  case joinFiberTest =>
    split at hstep
    · split at hstep <;> cases hstep <;> rfl
    · cases hstep
  all_goals first
    | cases hstep
    | simp only [Option.ite_none_right_eq_some, Option.some.injEq] at hstep
      obtain ⟨_, rfl⟩ := hstep
      rfl

theorem stepSpawn_move {state next : State} {action : Action}
    (hstep : state.stepSpawn action = some next) : Move state action next := by
  cases action with
  | refuse id =>
      simp only [State.stepSpawn, Option.ite_none_right_eq_some, Option.some.injEq] at hstep
      obtain ⟨hfiber, rfl⟩ := hstep
      exact .refuse id hfiber
  | accept spawner id =>
      simp only [State.stepSpawn, Option.ite_none_right_eq_some, Option.some.injEq] at hstep
      obtain ⟨⟨hfiber, hspawner⟩, rfl⟩ := hstep
      exact .accept spawner id hfiber hspawner
  | closureThrow id =>
      simp only [State.stepSpawn, Option.ite_none_right_eq_some, Option.some.injEq] at hstep
      obtain ⟨hfiber, rfl⟩ := hstep
      exact .closureThrow id hfiber
  | count id =>
      simp only [State.stepSpawn, Option.ite_none_right_eq_some, Option.some.injEq] at hstep
      obtain ⟨hfiber, rfl⟩ := hstep
      exact .count id hfiber
  | countPlain id =>
      simp only [State.stepSpawn, Option.ite_none_right_eq_some, Option.some.injEq] at hstep
      obtain ⟨hfiber, rfl⟩ := hstep
      exact .countPlain id hfiber
  | create id =>
      simp only [State.stepSpawn] at hstep
      split at hstep
      next kind hfiber =>
        cases hstep
        exact .create id kind hfiber
      · cases hstep
  | fiberThrow id =>
      simp only [State.stepSpawn] at hstep
      split at hstep
      next kind hfiber =>
        cases hstep
        exact .fiberThrow id kind hfiber
      · cases hstep
  | _ => cases hstep

theorem stepFiber_move {state next : State} {action : Action}
    (hstep : state.stepFiber action = some next) : Move state action next := by
  cases action with
  | taskReturn id =>
      simp only [State.stepFiber, Option.ite_none_right_eq_some, Option.some.injEq] at hstep
      obtain ⟨hfiber, rfl⟩ := hstep
      exact .taskReturn id hfiber
  | taskThrow id exn =>
      simp only [State.stepFiber, Option.ite_none_right_eq_some, Option.some.injEq] at hstep
      obtain ⟨hfiber, rfl⟩ := hstep
      exact .taskThrow id exn hfiber
  | lockMutex id =>
      simp only [State.stepFiber] at hstep
      split at hstep
      next exn hfiber =>
        simp only [Option.ite_none_right_eq_some, Option.some.injEq] at hstep
        obtain ⟨hfree, rfl⟩ := hstep
        exact .lockMutex id exn hfiber hfree
      · cases hstep
  | record id =>
      simp only [State.stepFiber] at hstep
      split at hstep
      next exn hfiber =>
        cases hstep
        exact .record id exn hfiber
      · cases hstep
  | mark id =>
      simp only [State.stepFiber, Option.ite_none_right_eq_some, Option.some.injEq] at hstep
      obtain ⟨hfiber, rfl⟩ := hstep
      exact .mark id hfiber
  | unlockMutex id =>
      simp only [State.stepFiber, Option.ite_none_right_eq_some, Option.some.injEq] at hstep
      obtain ⟨hfiber, rfl⟩ := hstep
      exact .unlockMutex id hfiber
  | fetchSub id =>
      simp only [State.stepFiber, Option.ite_none_right_eq_some, Option.some.injEq] at hstep
      obtain ⟨hfiber, rfl⟩ := hstep
      exact .fetchSub id hfiber
  | notifyCv id =>
      simp only [State.stepFiber, Option.ite_none_right_eq_some, Option.some.injEq] at hstep
      obtain ⟨hfiber, rfl⟩ := hstep
      exact .notifyCv id hfiber
  | notifyStdCv id =>
      simp only [State.stepFiber, Option.ite_none_right_eq_some, Option.some.injEq] at hstep
      obtain ⟨hfiber, rfl⟩ := hstep
      exact .notifyStdCv id hfiber
  | plainEnd id threw =>
      simp only [State.stepFiber, Option.ite_none_right_eq_some, Option.some.injEq] at hstep
      obtain ⟨hfiber, rfl⟩ := hstep
      exact .plainEnd id threw hfiber
  | fiberDone id =>
      simp only [State.stepFiber, Option.ite_none_right_eq_some, Option.some.injEq] at hstep
      obtain ⟨hfiber, rfl⟩ := hstep
      exact .fiberDone id hfiber
  | _ => cases hstep

/-- Every step is one of the moves. -/
theorem step_move {state next : State} {action : Action}
    (hstep : machine.step state action = some next) : Move state action next := by
  simp only [machine, State.step] at hstep
  split at hstep
  · cases hstep
    exact .requestCancel
  · cases hstep
    exact .destroyLoop
  iterate 7 exact stepSpawn_move hstep
  iterate 11 exact stepFiber_move hstep
  exact .joins next hstep (stepJoin_frame hstep)

end Fiberuv.TaskScope.Fibers
