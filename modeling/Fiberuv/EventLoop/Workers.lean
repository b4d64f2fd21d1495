import Fiberuv.Foundation.Machine

/-! # The pool of blocking workers

`run_blocking` counts itself in `pending_blocking_`, pushes its job under
`blocking_mutex_` and calls `notify_one` after releasing it. A worker waits on
`blocking_cv_` until there is a job or the pool is stopping, takes the first job and
runs it without the mutex; the job posts the completion of its call to the loop and
decrements `pending_blocking_`. `stop_workers` sets `workers_stopping_` under the
mutex, notifies every worker and joins them in order.

One step is one critical section of `blocking_mutex_` by a caller, one notification, or
one part of a worker's loop: taking the mutex, testing the predicate of the wait, the
atomic release and park, the exit or the removal of a job, and the three parts of a job.
Moving a result and posting a completion do not throw, and a task ends.
-/

namespace Fiberuv.EventLoop.Workers

open Foundation

universe u

/-- A job, named by the call of `run_blocking` that made it. -/
abbrev JobId := Nat

/-- An exception, named by a number. -/
abbrev Exn := Nat

/-- How the task of a job ends. -/
inductive Outcome (Value : Type u) where
  | returned (value : Value)
  | threw (exn : Exn)
  deriving DecidableEq

/-- Where one worker stands. Inside its wait it remembers whether a notification was
what woke it. -/
inductive Worker (Value : Type u) where
  /-- Is about to take `blocking_mutex_`, for the first time or after a wake-up. -/
  | acquiring (notified : Bool)
  /-- Holds the mutex and is about to test the predicate of the wait. -/
  | testing (notified : Bool)
  /-- Found the predicate false and is about to release the mutex and park. -/
  | leaving
  | parked
  /-- Found the predicate true and still holds the mutex. -/
  | passed (notified : Bool)
  /-- Took a job and released the mutex. -/
  | holding (job : JobId)
  /-- The task has ended and its completion is to be posted. -/
  | ran (job : JobId) (outcome : Outcome Value)
  /-- The completion is posted and `pending_blocking_` is to be decremented. -/
  | posted (job : JobId)
  | exited

/-- Where the call of `stop_workers` stands. -/
inductive Stopper where
  | idle
  /-- The flag is set and `notify_all` is next. -/
  | notifying
  /-- The first `joined` workers were joined. -/
  | joining (joined : Nat)
  | returned
  deriving DecidableEq

/-- A task was run to its end. -/
structure Execution (size : Nat) (Value : Type u) where
  worker : Fin size
  job : JobId
  outcome : Outcome Value

/-- A loop task that sets the promise of a call. -/
structure Completion (Value : Type u) where
  job : JobId
  outcome : Outcome Value

/-- A pool of `size` workers and its callers. -/
structure State (size : Nat) (Value : Type u) where
  blockingJobs : List JobId := []
  workersStopping : Bool := false
  /-- The worker that holds `blocking_mutex_`. -/
  mutex : Option (Fin size) := none
  pendingBlocking : Nat := 0
  workers : Fin size → Worker Value := fun _ => .acquiring false
  stopper : Stopper := .idle
  /-- Every call of `run_blocking` so far. -/
  calls : List JobId := []
  /-- The calls that are counted and have not pushed their job. -/
  counted : List JobId := []
  /-- The calls that have pushed their job and still have to call `notify_one`. -/
  notifying : List JobId := []
  /-- The jobs pushed while `workers_stopping_` was not set. -/
  inTime : List JobId := []
  executions : List (Execution size Value) := []
  completions : List (Completion Value) := []
  /-- The jobs that have executed their `fetch_sub`. -/
  discounted : List JobId := []
  /-- `front` and `pop_front` were called on an empty deque. -/
  poppedEmpty : Bool := false

inductive Action (size : Nat) (Value : Type u) where
  | call (job : JobId)
  | push (job : JobId)
  /-- `notify_one`, which wakes the named worker, or nobody if none is parked. -/
  | notifyOne (job : JobId) (woken : Option (Fin size))
  | lock (worker : Fin size)
  | test (worker : Fin size)
  | park (worker : Fin size)
  /-- A spurious wake-up. -/
  | wake (worker : Fin size)
  /-- The worker leaves its wait: it returns, or takes a job. -/
  | take (worker : Fin size)
  | runTask (worker : Fin size) (outcome : Outcome Value)
  | post (worker : Fin size)
  | discount (worker : Fin size)
  | stopWorkers
  | stopNotify
  | stopJoin

def Worker.isParked {Value : Type u} : Worker Value → Bool
  | .parked => true
  | _ => false

def Worker.isExited {Value : Type u} : Worker Value → Bool
  | .exited => true
  | _ => false

namespace State

variable {size : Nat} {Value : Type u}

def setWorker (state : State size Value) (worker : Fin size) (position : Worker Value) :
    State size Value :=
  { state with workers := Function.update state.workers worker position }

/-- `run_blocking` up to the increment of `pending_blocking_`. -/
def call (state : State size Value) (job : JobId) : State size Value :=
  { state with
    calls := job :: state.calls
    counted := job :: state.counted
    pendingBlocking := state.pendingBlocking + 1 }

/-- The critical section of `run_blocking`. -/
def push (state : State size Value) (job : JobId) : State size Value :=
  { state with
    counted := state.counted.erase job
    blockingJobs := state.blockingJobs ++ [job]
    notifying := job :: state.notifying
    inTime := if state.workersStopping then state.inTime else job :: state.inTime }

/-- The call has made its notification and waits for its future. -/
def notified (state : State size Value) (job : JobId) : State size Value :=
  { state with notifying := state.notifying.erase job }

/-- `notify_one()` wakes one parked worker, any of them. -/
def notifyOne (state : State size Value) (job : JobId) : Option (Fin size) →
    Option (State size Value)
  | some worker =>
      if (state.workers worker).isParked then
        some ((state.notified job).setWorker worker (.acquiring true))
      else none
  | none =>
      if ∀ worker, (state.workers worker).isParked = false then some (state.notified job)
      else none

/-- `notify_all()`. -/
def notifyAll (state : State size Value) : State size Value :=
  { state with workers := fun worker =>
      if (state.workers worker).isParked then .acquiring true else state.workers worker }

/-- The predicate of the wait on `blocking_cv_`. -/
def waitOver (state : State size Value) : Bool :=
  state.workersStopping || !state.blockingJobs.isEmpty

/-- What a worker does after its wait, up to the release of the mutex. -/
def take (state : State size Value) (worker : Fin size) : State size Value :=
  let unlocked := { state with mutex := none }
  if state.workersStopping && state.blockingJobs.isEmpty then
    unlocked.setWorker worker .exited
  else
    match state.blockingJobs with
    | [] => { unlocked with poppedEmpty := true }
    | job :: rest => { unlocked with blockingJobs := rest }.setWorker worker (.holding job)

/-- A step of the loop of one worker. -/
def stepWorker (state : State size Value) : Action size Value → Option (State size Value)
  | .lock worker =>
      match state.workers worker with
      | .acquiring notified =>
          if state.mutex.isNone then
            some ({ state with mutex := some worker }.setWorker worker (.testing notified))
          else none
      | _ => none
  | .test worker =>
      match state.workers worker with
      | .testing notified =>
          some (state.setWorker worker (if state.waitOver then .passed notified else .leaving))
      | _ => none
  | .park worker =>
      match state.workers worker with
      | .leaving => some ({ state with mutex := none }.setWorker worker .parked)
      | _ => none
  | .wake worker =>
      match state.workers worker with
      | .parked => some (state.setWorker worker (.acquiring false))
      | _ => none
  | .take worker =>
      match state.workers worker with
      | .passed _ => some (state.take worker)
      | _ => none
  | .runTask worker outcome =>
      match state.workers worker with
      | .holding job =>
          some ({ state with executions := ⟨worker, job, outcome⟩ :: state.executions }.setWorker
            worker (.ran job outcome))
      | _ => none
  | .post worker =>
      match state.workers worker with
      | .ran job outcome =>
          some ({ state with completions := ⟨job, outcome⟩ :: state.completions }.setWorker
            worker (.posted job))
      | _ => none
  | .discount worker =>
      match state.workers worker with
      | .posted job =>
          some ({ state with
            pendingBlocking := state.pendingBlocking - 1
            discounted := job :: state.discounted }.setWorker worker (.acquiring false))
      | _ => none
  | _ => none

/-- A step of `stop_workers`. -/
def stepStop (state : State size Value) : Action size Value → Option (State size Value)
  | .stopWorkers =>
      if state.stopper = .idle ∧ state.mutex.isNone then
        some { state with workersStopping := true, stopper := .notifying }
      else none
  | .stopNotify =>
      if state.stopper = .notifying then some { state.notifyAll with stopper := .joining 0 }
      else none
  | .stopJoin =>
      match state.stopper with
      | .joining joined =>
          if hjoined : joined < size then
            if (state.workers ⟨joined, hjoined⟩).isExited then
              some { state with stopper := .joining (joined + 1) }
            else none
          else some { state with stopper := .returned }
      | _ => none
  | _ => none

def step (state : State size Value) (action : Action size Value) : Option (State size Value) :=
  match action with
  | .call job => if job ∉ state.calls then some (state.call job) else none
  | .push job =>
      if job ∈ state.counted ∧ state.mutex.isNone then some (state.push job) else none
  | .notifyOne job woken => if job ∈ state.notifying then state.notifyOne job woken else none
  | .stopWorkers | .stopNotify | .stopJoin => state.stepStop action
  | _ => state.stepWorker action

end State

/-- A pool of `size` workers under any interleaving of its workers, of any number of
`run_blocking` calls and of `stop_workers`. -/
def machine (size : Nat) (Value : Type u) : Machine (State size Value) (Action size Value) where
  step := State.step

/-- The pool after `start_workers`. -/
def initial (size : Nat) (Value : Type u) : State size Value := {}

/-- The number of workers the constructor of `EventLoop` starts, with
`hardware_concurrency()` for the second argument. -/
def workerCount (blockingThreads hardware : Nat) : Nat :=
  if blockingThreads = 0 then max 1 (if hardware = 0 then 4 else hardware) else blockingThreads

theorem workerCount_pos (blockingThreads hardware : Nat) :
    0 < workerCount blockingThreads hardware := by
  unfold workerCount
  split <;> omega

variable {size : Nat} {Value : Type u}

/-- What one step can do. -/
inductive Move (state : State size Value) : Action size Value → State size Value → Prop where
  | call (job : JobId) (hfresh : job ∉ state.calls) : Move state (.call job) (state.call job)
  | push (job : JobId) (hjob : job ∈ state.counted) (hfree : state.mutex = none) :
      Move state (.push job) (state.push job)
  | notifyOne (job : JobId) (worker : Fin size) (hjob : job ∈ state.notifying)
      (hparked : state.workers worker = .parked) :
      Move state (.notifyOne job (some worker))
        ((state.notified job).setWorker worker (.acquiring true))
  | notifyNobody (job : JobId) (hjob : job ∈ state.notifying)
      (hnobody : ∀ worker, state.workers worker ≠ .parked) :
      Move state (.notifyOne job none) (state.notified job)
  | lock (worker : Fin size) (notified : Bool)
      (hworker : state.workers worker = .acquiring notified) (hfree : state.mutex = none) :
      Move state (.lock worker)
        ({ state with mutex := some worker }.setWorker worker (.testing notified))
  | pass (worker : Fin size) (notified : Bool)
      (hworker : state.workers worker = .testing notified) (hover : state.waitOver = true) :
      Move state (.test worker) (state.setWorker worker (.passed notified))
  | leave (worker : Fin size) (notified : Bool)
      (hworker : state.workers worker = .testing notified) (hover : state.waitOver = false) :
      Move state (.test worker) (state.setWorker worker .leaving)
  | park (worker : Fin size) (hworker : state.workers worker = .leaving) :
      Move state (.park worker) ({ state with mutex := none }.setWorker worker .parked)
  | wake (worker : Fin size) (hworker : state.workers worker = .parked) :
      Move state (.wake worker) (state.setWorker worker (.acquiring false))
  | exit (worker : Fin size) (notified : Bool)
      (hworker : state.workers worker = .passed notified)
      (hstopping : state.workersStopping = true) (hempty : state.blockingJobs = []) :
      Move state (.take worker) ({ state with mutex := none }.setWorker worker .exited)
  | pop (worker : Fin size) (notified : Bool) (job : JobId) (rest : List JobId)
      (hworker : state.workers worker = .passed notified)
      (hjobs : state.blockingJobs = job :: rest) :
      Move state (.take worker) ({ state with mutex := none, blockingJobs := rest }.setWorker worker
        (.holding job))
  | popEmpty (worker : Fin size) (notified : Bool)
      (hworker : state.workers worker = .passed notified)
      (hover : state.waitOver = false) :
      Move state (.take worker) { state with mutex := none, poppedEmpty := true }
  | runTask (worker : Fin size) (job : JobId) (outcome : Outcome Value)
      (hworker : state.workers worker = .holding job) :
      Move state (.runTask worker outcome)
        ({ state with executions := ⟨worker, job, outcome⟩ :: state.executions }.setWorker
          worker (.ran job outcome))
  | post (worker : Fin size) (job : JobId) (outcome : Outcome Value)
      (hworker : state.workers worker = .ran job outcome) :
      Move state (.post worker)
        ({ state with completions := ⟨job, outcome⟩ :: state.completions }.setWorker
          worker (.posted job))
  | discount (worker : Fin size) (job : JobId) (hworker : state.workers worker = .posted job) :
      Move state (.discount worker) ({ state with
        pendingBlocking := state.pendingBlocking - 1
        discounted := job :: state.discounted }.setWorker worker (.acquiring false))
  | stopWorkers (hidle : state.stopper = .idle) (hfree : state.mutex = none) :
      Move state .stopWorkers { state with workersStopping := true, stopper := .notifying }
  | stopNotify (hnotifying : state.stopper = .notifying) :
      Move state .stopNotify { state.notifyAll with stopper := .joining 0 }
  | stopJoin (worker : Fin size) (hjoining : state.stopper = .joining worker)
      (hexited : state.workers worker = .exited) :
      Move state .stopJoin { state with stopper := .joining (worker + 1) }
  | stopReturn (joined : Nat) (hjoining : state.stopper = .joining joined)
      (hall : size ≤ joined) : Move state .stopJoin { state with stopper := .returned }

theorem isParked_iff {position : Worker Value} :
    position.isParked = true ↔ position = .parked := by
  cases position <;> simp [Worker.isParked]

theorem isExited_iff {position : Worker Value} :
    position.isExited = true ↔ position = .exited := by
  cases position <;> simp [Worker.isExited]

theorem waitOver_eq_false {state : State size Value} :
    state.waitOver = false ↔ state.workersStopping = false ∧ state.blockingJobs = [] := by
  simp [State.waitOver]

theorem take_move {state : State size Value} {worker : Fin size} {notified : Bool}
    (hworker : state.workers worker = .passed notified) :
    Move state (.take worker) (state.take worker) := by
  simp only [State.take]
  split
  next hexit =>
    simp only [Bool.and_eq_true, List.isEmpty_iff] at hexit
    exact .exit worker notified hworker hexit.1 hexit.2
  next hstay =>
    split
    next hjobs =>
      simp only [hjobs, List.isEmpty_nil, Bool.and_true, Bool.not_eq_true] at hstay
      exact .popEmpty worker notified hworker (waitOver_eq_false.mpr ⟨hstay, hjobs⟩)
    next job rest hjobs => exact .pop worker notified job rest hworker hjobs

theorem stepWorker_move {state next : State size Value} {action : Action size Value}
    (hstep : state.stepWorker action = some next) : Move state action next := by
  cases action with
  | lock worker =>
      simp only [State.stepWorker] at hstep
      split at hstep
      next notified hworker =>
        simp only [Option.isNone_iff_eq_none, Option.ite_none_right_eq_some,
          Option.some.injEq] at hstep
        obtain ⟨hfree, rfl⟩ := hstep
        exact .lock worker notified hworker hfree
      next => cases hstep
  | test worker =>
      simp only [State.stepWorker] at hstep
      split at hstep
      next notified hworker =>
        cases hstep
        split
        next hover => exact .pass worker notified hworker hover
        next hover => exact .leave worker notified hworker (Bool.not_eq_true _ ▸ hover)
      next => cases hstep
  | park worker =>
      simp only [State.stepWorker] at hstep
      split at hstep
      next hworker =>
        cases hstep
        exact .park worker hworker
      next => cases hstep
  | wake worker =>
      simp only [State.stepWorker] at hstep
      split at hstep
      next hworker =>
        cases hstep
        exact .wake worker hworker
      next => cases hstep
  | take worker =>
      simp only [State.stepWorker] at hstep
      split at hstep
      next notified hworker =>
        cases hstep
        exact take_move hworker
      next => cases hstep
  | runTask worker outcome =>
      simp only [State.stepWorker] at hstep
      split at hstep
      next job hworker =>
        cases hstep
        exact .runTask worker job outcome hworker
      next => cases hstep
  | post worker =>
      simp only [State.stepWorker] at hstep
      split at hstep
      next job outcome hworker =>
        cases hstep
        exact .post worker job outcome hworker
      next => cases hstep
  | discount worker =>
      simp only [State.stepWorker] at hstep
      split at hstep
      next job hworker =>
        cases hstep
        exact .discount worker job hworker
      next => cases hstep
  | _ => cases hstep

theorem stepStop_move {state next : State size Value} {action : Action size Value}
    (hstep : state.stepStop action = some next) : Move state action next := by
  cases action with
  | stopWorkers =>
      simp only [State.stepStop, Option.isNone_iff_eq_none, Option.ite_none_right_eq_some,
        Option.some.injEq] at hstep
      obtain ⟨⟨hidle, hfree⟩, rfl⟩ := hstep
      exact .stopWorkers hidle hfree
  | stopNotify =>
      simp only [State.stepStop, Option.ite_none_right_eq_some, Option.some.injEq] at hstep
      obtain ⟨hnotifying, rfl⟩ := hstep
      exact .stopNotify hnotifying
  | stopJoin =>
      simp only [State.stepStop] at hstep
      split at hstep
      next joined hjoining =>
        split at hstep
        next hjoined =>
          simp only [Option.ite_none_right_eq_some, Option.some.injEq] at hstep
          obtain ⟨hexited, rfl⟩ := hstep
          exact .stopJoin ⟨joined, hjoined⟩ hjoining (isExited_iff.mp hexited)
        next hall =>
          cases hstep
          exact .stopReturn joined hjoining (Nat.not_lt.mp hall)
      next => cases hstep
  | _ => cases hstep

/-- Every step of the pool is one of the moves. -/
theorem step_move {state next : State size Value} {action : Action size Value}
    (hstep : (machine size Value).step state action = some next) : Move state action next := by
  simp only [machine, State.step] at hstep
  split at hstep
  · simp only [Option.ite_none_right_eq_some, Option.some.injEq] at hstep
    obtain ⟨hfresh, rfl⟩ := hstep
    exact .call _ hfresh
  · simp only [Option.isNone_iff_eq_none, Option.ite_none_right_eq_some,
      Option.some.injEq] at hstep
    obtain ⟨⟨hjob, hfree⟩, rfl⟩ := hstep
    exact .push _ hjob hfree
  next job woken =>
    simp only [Option.ite_none_right_eq_some] at hstep
    obtain ⟨hjob, hstep⟩ := hstep
    cases woken with
    | some worker =>
        simp only [State.notifyOne, Option.ite_none_right_eq_some, Option.some.injEq] at hstep
        obtain ⟨hparked, rfl⟩ := hstep
        exact .notifyOne job worker hjob (isParked_iff.mp hparked)
    | none =>
        simp only [State.notifyOne, Option.ite_none_right_eq_some, Option.some.injEq] at hstep
        obtain ⟨hnobody, rfl⟩ := hstep
        refine .notifyNobody job hjob fun worker hparked => ?_
        simpa [hparked, Worker.isParked] using hnobody worker
  iterate 3 exact stepStop_move hstep
  exact stepWorker_move hstep

end Fiberuv.EventLoop.Workers
