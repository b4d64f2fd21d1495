import Fiberuv.Foundation.Machine

/-! # The idle exit of a loop

One iteration of `EventLoop::run` and everything its idle test reads: the two counters,
`loop_tasks_`, and `uv_loop_alive`, which counts the handles and requests of the loop.
The constructor registers `async_` with the loop; it stays active and referenced until
`~EventLoop` closes it, since nothing calls `uv_unref`.

The driver makes the steps of `run`. Fibers, workers, other threads and callbacks make the
others, at any time: they count fibers and blocking jobs, post loop tasks, and open,
change and close handles of their own.
-/

namespace Fiberuv.EventLoop.IdleExit

open Foundation

structure Handle where
  active : Bool
  referenced : Bool
  closing : Bool
  deriving DecidableEq

/-- The handle counts for `uv_loop_alive`. -/
def Handle.keepsAlive (handle : Handle) : Bool :=
  handle.closing || handle.active && handle.referenced

/-- An async handle after `uv_async_init`. -/
def Handle.async : Handle := { active := true, referenced := true, closing := false }

/-- The two ways out of the loop of `run`. -/
inductive Exit where
  | stopped
  | idle
  deriving DecidableEq

/-- Where the main fiber stands in `run`. -/
inductive Driver where
  | outside
  | top
  | polling
  | draining
  | yielded
  | testing
  | exited (exit : Exit)
  deriving DecidableEq

structure State where
  stopping : Bool := false
  activeFibers : Nat := 0
  pendingBlocking : Nat := 0
  /-- The number of functions in `loop_tasks_`. -/
  loopTasks : Nat := 0
  async : Handle := .async
  /-- The handles of the loop other than `async_`. -/
  handles : List Handle := []
  activeRequests : Nat := 0
  driver : Driver := .outside
  deriving DecidableEq

inductive Action where
  | run
  /-- The test of `stopping_`. -/
  | turn
  /-- `uv_run` returns. -/
  | polled
  /-- `drain_loop_tasks` returns. -/
  | drained
  /-- `this_fiber::yield` returns. -/
  | resumed
  | test
  | stop
  | takeTask
  | post
  | spawn
  | fiberDone
  | runBlocking
  | blockingDone
  | openHandle (handle : Handle)
  /-- A handle is started, stopped, referenced, unreferenced or closed. -/
  | changeHandle (index : Nat) (handle : Handle)
  /-- The close callback of a handle was called. -/
  | dropHandle (index : Nat)
  | startRequest
  | finishRequest

namespace State

def uvLoopAlive (state : State) : Bool :=
  state.async.keepsAlive || state.handles.any Handle.keepsAlive || decide (0 < state.activeRequests)

/-- `idle` of `EventLoop::run`. -/
def idle (state : State) : Bool :=
  !state.uvLoopAlive && state.activeFibers == 0 && state.pendingBlocking == 0 &&
    state.loopTasks == 0

def stepDriver (state : State) : Action → Option State
  | .run =>
      match state.driver with
      | .outside | .exited _ => some { state with driver := .top }
      | _ => none
  | .turn =>
      if state.driver = .top then
        some { state with driver := if state.stopping then .exited .stopped else .polling }
      else none
  | .polled => if state.driver = .polling then some { state with driver := .draining } else none
  | .drained =>
      if state.driver = .draining ∧ state.loopTasks = 0 then some { state with driver := .yielded }
      else none
  | .resumed => if state.driver = .yielded then some { state with driver := .testing } else none
  | .test =>
      if state.driver = .testing then
        some { state with driver := if state.idle then .exited .idle else .top }
      else none
  | _ => none

def stepOther (state : State) : Action → Option State
  | .stop => some { state with stopping := true }
  | .takeTask =>
      if 0 < state.loopTasks then some { state with loopTasks := state.loopTasks - 1 } else none
  | .post => some { state with loopTasks := state.loopTasks + 1 }
  | .spawn => some { state with activeFibers := state.activeFibers + 1 }
  | .fiberDone =>
      if 0 < state.activeFibers then some { state with activeFibers := state.activeFibers - 1 }
      else none
  | .runBlocking => some { state with pendingBlocking := state.pendingBlocking + 1 }
  | .blockingDone =>
      if 0 < state.pendingBlocking then
        some { state with pendingBlocking := state.pendingBlocking - 1 }
      else none
  | .openHandle handle => some { state with handles := state.handles ++ [handle] }
  | .changeHandle index handle => some { state with handles := state.handles.set index handle }
  | .dropHandle index => some { state with handles := state.handles.eraseIdx index }
  | .startRequest => some { state with activeRequests := state.activeRequests + 1 }
  | .finishRequest =>
      if 0 < state.activeRequests then
        some { state with activeRequests := state.activeRequests - 1 }
      else none
  | _ => none

def step (state : State) (action : Action) : Option State :=
  match action with
  | .run | .turn | .polled | .drained | .resumed | .test => state.stepDriver action
  | _ => state.stepOther action

end State

def machine : Machine State Action := ⟨State.step⟩

/-- A constructed loop. -/
def initial : State := {}

/-- Nothing is left to do and nothing is registered with the loop besides `async_`. -/
structure Quiescent (state : State) : Prop where
  fibers : state.activeFibers = 0
  blocking : state.pendingBlocking = 0
  tasks : state.loopTasks = 0
  handles : state.handles = []
  requests : state.activeRequests = 0

/-- The steps of the driver that are left in its current iteration. -/
def Driver.rest : Driver → List Action
  | .top => [.turn, .polled, .drained, .resumed, .test]
  | .polling => [.polled, .drained, .resumed, .test]
  | .draining => [.drained, .resumed, .test]
  | .yielded => [.resumed, .test]
  | .testing => [.test]
  | .outside | .exited _ => []

/-- The current iteration of `run` ends through its idle exit. -/
def EndsIdle (state : State) : Prop :=
  state.driver.rest ≠ [] ∧
    ∃ next, machine.run state.driver.rest state = some next ∧ next.driver = .exited .idle

theorem idle_of_quiescent {state : State} (hquiet : Quiescent state) :
    state.idle = !state.async.keepsAlive := by
  obtain ⟨hfibers, hblocking, htasks, hhandles, hrequests⟩ := hquiet
  simp [State.idle, State.uvLoopAlive, hfibers, hblocking, htasks, hhandles, hrequests]

/-- In a quiescent state the rest of the iteration comes down to the idle test. -/
theorem run_rest {state : State} (hquiet : Quiescent state)
    (hiteration : state.driver.rest ≠ []) (hgoes : state.driver = .top → state.stopping = false) :
    machine.run state.driver.rest state =
      some { state with driver := if state.idle then .exited .idle else .top } := by
  have htasks := hquiet.tasks
  cases hdriver : state.driver with
  | outside => simp [hdriver, Driver.rest] at hiteration
  | exited exit => simp [hdriver, Driver.rest] at hiteration
  | top =>
      simp [Driver.rest, machine, State.step, State.stepDriver, State.idle, State.uvLoopAlive,
        hdriver, hgoes hdriver, htasks]
  | polling | draining | yielded | testing =>
      simp [Driver.rest, machine, State.step, State.stepDriver, State.idle, State.uvLoopAlive,
        hdriver, htasks]

/-- In a quiescent state that nobody has stopped, the iteration ends through the idle exit
exactly when `async_` does not count for `uv_loop_alive`. -/
theorem endsIdle_iff {state : State} (hquiet : Quiescent state)
    (hiteration : state.driver.rest ≠ []) (hgoes : state.driver = .top → state.stopping = false) :
    EndsIdle state ↔ state.async.keepsAlive = false := by
  have hrun := run_rest hquiet hiteration hgoes
  rw [idle_of_quiescent hquiet] at hrun
  simp only [EndsIdle, hrun, ne_eq, hiteration, not_false_eq_true, true_and,
    Option.some.injEq, exists_eq_left']
  cases state.async.keepsAlive <;> simp

/-- A stop noticed at the top of the loop is not an idle exit. -/
theorem not_endsIdle_of_stopped {state : State} (hdriver : state.driver = .top)
    (hstop : state.stopping = true) : ¬ EndsIdle state := by
  rintro ⟨_, next, hrun, _⟩
  simp [hdriver, Driver.rest, machine, State.step, State.stepDriver, hstop] at hrun

theorem step_async {state next : State} {action : Action}
    (hstep : machine.step state action = some next) : next.async = state.async := by
  simp only [machine, State.step] at hstep
  cases action <;> simp only [State.stepDriver, State.stepOther] at hstep
  case run => split at hstep <;> cases hstep <;> rfl
  all_goals first
    | cases hstep; rfl
    | simp only [Option.ite_none_right_eq_some, Option.some.injEq] at hstep
      rw [← hstep.2]

/-- Nothing but the constructor and the destructor touches `async_`. -/
theorem reachable_async {state : State} (hreach : machine.Reachable initial state) :
    state.async = .async := by
  have hkeep : ∀ before action after, before.async = .async →
      machine.step before action = some after → after.async = .async :=
    fun _ _ _ hasync hstep => (step_async hstep).trans hasync
  exact Machine.reachable_invariant hkeep rfl hreach

/-- The loop never stops when idle: `uv_loop_alive` counts its own wake-up handle, so the
idle exit is not taken in any quiescent state. -/
theorem not_endsIdle (state : State) (hreach : machine.Reachable initial state)
    (hquiet : Quiescent state) : ¬ EndsIdle state := by
  intro hends
  by_cases hgoes : state.driver = .top → state.stopping = false
  · have hdead := (endsIdle_iff hquiet hends.1 hgoes).mp hends
    rw [reachable_async hreach] at hdead
    cases hdead
  · simp only [not_forall, Bool.not_eq_false] at hgoes
    obtain ⟨hdriver, hstop⟩ := hgoes
    exact not_endsIdle_of_stopped hdriver hstop hends

/-- One fiber has run and finished, and the loop is back in its next iteration. -/
def finishedFiber : List Action :=
  [.post, .run, .turn, .takeTask, .spawn, .polled, .drained, .fiberDone, .resumed, .test, .turn,
    .polled, .drained, .resumed]

theorem not_endsIdle_finishedFiber :
    ∃ state, machine.run finishedFiber initial = some state ∧ Quiescent state ∧
      state.driver = .testing ∧ ¬ EndsIdle state :=
  have hquiet : Quiescent { driver := .testing } := ⟨rfl, rfl, rfl, rfl, rfl⟩
  ⟨_, rfl, hquiet, rfl, not_endsIdle _ ⟨finishedFiber, rfl⟩ hquiet⟩

/-- After its only fiber has finished, the loop does not leave `run`. -/
theorem idle_loop_stays :
    ¬ ∀ state, machine.Reachable initial state → Quiescent state → state.driver.rest ≠ [] →
      state.stopping = false → EndsIdle state := by
  intro hendsIdle
  obtain ⟨_, next, hrun, hidle⟩ := hendsIdle { driver := .testing } ⟨finishedFiber, rfl⟩
    ⟨rfl, rfl, rfl, rfl, rfl⟩ (by decide) rfl
  have hnext : next = { driver := .top } := (Option.some.inj hrun).symm
  rw [hnext] at hidle
  cases hidle

end Fiberuv.EventLoop.IdleExit
