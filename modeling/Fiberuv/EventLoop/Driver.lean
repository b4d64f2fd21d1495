import Fiberuv.EventLoop.Suspension
import Fiberuv.Foundation.Machine

/-! # The driver of a loop

`EventLoop::run` with the fibers of its thread and any number of other threads. The main
fiber is the driver: it alone calls `uv_run`, so callbacks of libuv run only while it
polls. Fibers of the thread run only while the driver yields or is suspended. Other
threads post their calls and block; the driver runs the closures in `drain_loop_tasks`,
which it calls from the async callback and once more after `uv_run`, and destroys each of
them when it has run. By then the thread that posted it may have gone on and dropped its
socket; the destruction of the closure then closes the socket.

The label of a step that runs code carries the fields this code reads and the result
codes libuv gives it.
-/

namespace Fiberuv.EventLoop

open Foundation

abbrev FiberId := Nat
abbrev ThreadId := Nat

/-- The places of a running loop that call `drain_loop_tasks`. -/
inductive Site where
  | asyncCallback
  | run

structure Posted where
  caller : ThreadId
  call : Call

/-- What the driver is in the middle of in `drain_loop_tasks`. -/
inductive Work where
  | call (posted : Posted)
  /-- The destructors that the end of the closure's life has set off. -/
  | destruction

/-- Where the main fiber stands in `EventLoop::run`. -/
inductive Driver where
  | top
  | polling
  | draining (site : Site)
  | suspended (site : Site) (work : Work) (wait : Wait)
  /-- The closure has run, and is about to be destroyed. -/
  | releasing (site : Site) (posted : Posted)
  | yielded
  | idleTest
  | exited

inductive Context where
  | driver
  | fiber (id : FiberId)
  deriving DecidableEq

inductive Thread where
  | running
  | blocked
  | returned
  | threw (error : Error)

structure State where
  stopping : Bool := false
  loopTasks : List Posted := []
  driver : Driver := .top
  /-- The wait a fiber is suspended in. -/
  fiber : FiberId → Option Wait := fun _ => none
  thread : ThreadId → Thread := fun _ => .running
  /-- The promise of the operation a context runs. -/
  cell : Context → Option (Except Error Int) := fun _ => none

inductive Action where
  | post (caller : ThreadId) (call : Call)
  | stop
  /-- The test of `stopping_` at the top of the loop. -/
  | turn
  /-- A callback of libuv sets the promise of a context. -/
  | complete (context : Context) (result : Except Error Int)
  | asyncCallback
  | pollDone
  | take (fields : Fields) (codes : Request → Int)
  /-- The closure is destroyed. `last` says whether nobody else has its socket by then. -/
  | release (last : Bool) (fields : Fields) (codes : Request → Int)
  | drained
  | wakeDriver (fields : Fields) (codes : Request → Int)
  | expireDriver (fields : Fields) (codes : Request → Int)
  | yieldDone
  /-- `busy` is the part of the idle test that is not about `loop_tasks_`. -/
  | idle (busy : Bool)
  | call (id : FiberId) (call : Call) (fields : Fields) (codes : Request → Int)
  | wake (id : FiberId) (fields : Fields) (codes : Request → Int)
  | expire (id : FiberId) (fields : Fields) (codes : Request → Int)

/-- Posted without a future the poster waits for. -/
def Call.detached : Call → Bool
  | .stopPeriodic => true
  | .blockingResult => true
  | _ => false

/-- Fibers of the thread run while the main fiber is not running. -/
def Driver.letsFibersRun : Driver → Bool
  | .suspended _ _ _ => true
  | .yielded => true
  | _ => false

def serverClosed : Error := .runtime "server is closed"

namespace State

def waiting (state : State) : Context → Option Wait
  | .driver =>
      match state.driver with
      | .suspended _ _ wait => some wait
      | _ => none
  | .fiber id => state.fiber id

/-- `fail_accept_waiters`. -/
def failAcceptWaiters (state : State) (socket : SocketId) : State :=
  { state with
    cell := fun context =>
      if (state.waiting context).any (fun wait => wait.promise = .acceptWaiter socket) &&
          (state.cell context).isNone then
        some (.error serverClosed)
      else state.cell context }

def post (state : State) (caller : ThreadId) (call : Call) : State :=
  { state with
    loopTasks := state.loopTasks ++ [{ caller, call }]
    thread := if call.detached then state.thread else
      Function.update state.thread caller .blocked }

/-- The closure of `invoke_on_loop` hands its result to the calling thread. -/
def resolve (state : State) (posted : Posted) (result : Thread) : State :=
  { state with
    thread := if posted.call.detached then state.thread else
      Function.update state.thread posted.caller result }

/-- The driver is done with its work. A call hands its result over before the closure is
destroyed; exceptions do not leave a destructor. -/
def conclude (state : State) (site : Site) (work : Work) (result : Thread) : State :=
  match work with
  | .call posted => { state.resolve posted result with driver := .releasing site posted }
  | .destruction => { state with driver := .draining site }

/-- The driver has worked to the end or to the next wait. -/
def driverStops (state : State) (site : Site) (work : Work) (segment : Segment) : State :=
  let state := segment.signals.foldl failAcceptWaiters
    { state with
      driver := .draining site
      cell := Function.update state.cell .driver segment.cell }
  match segment.stop with
  | .returned => state.conclude site work .returned
  | .threw error => state.conclude site work (.threw error)
  | .suspended wait => { state with driver := .suspended site work wait }

/-- A fiber has run its operation to its end or its next wait. -/
def fiberStops (state : State) (id : FiberId) (segment : Segment) : State :=
  let state := segment.signals.foldl failAcceptWaiters
    { state with
      fiber := Function.update state.fiber id none
      cell := Function.update state.cell (.fiber id) segment.cell }
  match segment.stop with
  | .returned => state
  | .threw _ => state
  | .suspended wait => { state with fiber := Function.update state.fiber id (some wait) }

end State

open State in
def step (state : State) : Action → Option State
  | .post caller call =>
      match state.thread caller with
      | .blocked => none
      | _ => some (state.post caller call)
  | .stop => some { state with stopping := true }
  | .turn =>
      match state.driver with
      | .top => some { state with driver := if state.stopping then .exited else .polling }
      | _ => none
  | .complete context result =>
      match state.driver with
      -- Callbacks run inside `uv_run` only.
      | .polling =>
          if (state.waiting context).isSome && (state.cell context).isNone then
            some { state with cell := Function.update state.cell context (some result) }
          else none
      | _ => none
  | .asyncCallback =>
      match state.driver with
      | .polling => some { state with driver := .draining .asyncCallback }
      | _ => none
  | .pollDone =>
      match state.driver with
      | .polling => some { state with driver := .draining .run }
      | _ => none
  | .take fields codes =>
      match state.driver with
      | .draining site =>
          match state.loopTasks with
          | posted :: rest =>
              some ({ state with loopTasks := rest }.driverStops site (.call posted)
                (posted.call.closure.exec fields (refusal codes) none))
          | [] => none
      | _ => none
  | .release last fields codes =>
      match state.driver with
      | .releasing site posted =>
          if last then
            some (state.driverStops site .destruction
              (posted.call.destructor.exec fields (refusal codes) none))
          else some { state with driver := .draining site }
      | _ => none
  | .drained =>
      match state.driver with
      | .draining site =>
          match state.loopTasks with
          | [] =>
              match site with
              -- The async callback returns into `uv_run`; in `run` the yield follows.
              | .asyncCallback => some { state with driver := .polling }
              | .run => some { state with driver := .yielded }
          | _ :: _ => none
      | _ => none
  | .wakeDriver fields codes =>
      match state.driver with
      | .suspended site work wait =>
          (state.cell .driver).map fun result =>
            state.driverStops site work (wait.resume fields (refusal codes) result)
      | _ => none
  | .expireDriver fields codes =>
      match state.driver with
      | .suspended site work wait =>
          wait.expired.map fun expired =>
            state.driverStops site work
              (expired.exec fields (refusal codes) (state.cell .driver))
      | _ => none
  | .yieldDone =>
      match state.driver with
      | .yielded => some { state with driver := .idleTest }
      | _ => none
  | .idle busy =>
      match state.driver with
      | .idleTest =>
          some { state with
            driver := if !busy && state.loopTasks.isEmpty then .exited else .top }
      | _ => none
  | .call id call fields codes =>
      if state.driver.letsFibersRun && (state.fiber id).isNone then
        some (state.fiberStops id (call.closure.exec fields (refusal codes) none))
      else none
  | .wake id fields codes =>
      if state.driver.letsFibersRun then
        (state.fiber id).bind fun wait =>
          (state.cell (.fiber id)).map fun result =>
            state.fiberStops id (wait.resume fields (refusal codes) result)
      else none
  | .expire id fields codes =>
      if state.driver.letsFibersRun then
        (state.fiber id).bind fun wait =>
          wait.expired.map fun expired =>
            state.fiberStops id (expired.exec fields (refusal codes) (state.cell (.fiber id)))
      else none

def machine : Machine State Action := ⟨step⟩

/-- The driver is suspended inside `drain_loop_tasks`, in a posted closure or its destruction,
on a future whose promise only a callback of libuv can set. -/
def State.DriverAwaitsCompletion (state : State) : Prop :=
  ∃ site work wait, state.driver = .suspended site work wait ∧ wait.promise = .completion

namespace State

/-- `begin_close` moves neither the driver nor its promise, unless the driver is one of the
accept waiters. -/
theorem foldl_failAcceptWaiters (sockets : List SocketId) (state : State) :
    (sockets.foldl failAcceptWaiters state).driver = state.driver ∧
      (sockets.foldl failAcceptWaiters state).loopTasks = state.loopTasks ∧
      (∀ wait ∈ state.waiting .driver, wait.promise = .completion →
        (sockets.foldl failAcceptWaiters state).cell .driver = state.cell .driver) := by
  induction sockets generalizing state with
  | nil => exact ⟨rfl, rfl, fun _ _ _ => rfl⟩
  | cons socket rest ih =>
      obtain ⟨hdriver, htasks, hcell⟩ := ih (state.failAcceptWaiters socket)
      refine ⟨hdriver, htasks, fun wait hwait hpromise => ?_⟩
      rw [List.foldl_cons, hcell wait hwait hpromise]
      rw [Option.mem_def] at hwait
      simp [failAcceptWaiters, hwait, hpromise]

theorem fiberStops_driver (state : State) (id : FiberId) (segment : Segment) :
    (state.fiberStops id segment).driver = state.driver := by
  unfold fiberStops
  split <;> exact (foldl_failAcceptWaiters _ _).1

theorem fiberStops_cell {state : State} {wait : Wait} (id : FiberId) (segment : Segment)
    (hwait : wait ∈ state.waiting .driver) (hpromise : wait.promise = .completion) :
    (state.fiberStops id segment).cell .driver = state.cell .driver := by
  unfold fiberStops
  split <;> exact (foldl_failAcceptWaiters _ _).2.2 wait hwait hpromise

end State

/-- How the driver goes on in `run` from a place outside the closures. -/
inductive Advances (state : State) : Action → Driver → Prop where
  | stops (hdriver : state.driver = .top) (hstopping : state.stopping = true) :
      Advances state .turn .exited
  | polls (hdriver : state.driver = .top) (hstopping : state.stopping = false) :
      Advances state .turn .polling
  | calledBack (hdriver : state.driver = .polling) :
      Advances state .asyncCallback (.draining .asyncCallback)
  | polled (hdriver : state.driver = .polling) : Advances state .pollDone (.draining .run)
  | releases {site : Site} {posted : Posted} {fields : Fields} {codes : Request → Int}
      (hdriver : state.driver = .releasing site posted) :
      Advances state (.release false fields codes) (.draining site)
  | returns (hdriver : state.driver = .draining .asyncCallback) (htasks : state.loopTasks = []) :
      Advances state .drained .polling
  | yields (hdriver : state.driver = .draining .run) (htasks : state.loopTasks = []) :
      Advances state .drained .yielded
  | yielded (hdriver : state.driver = .yielded) : Advances state .yieldDone .idleTest
  | idles (hdriver : state.driver = .idleTest) (htasks : state.loopTasks = []) :
      Advances state (.idle false) .exited
  | busy {busy : Bool} (hdriver : state.driver = .idleTest)
      (hbusy : busy = true ∨ state.loopTasks ≠ []) : Advances state (.idle busy) .top

/-- The step runs code of the fiber. -/
def Action.runsFiber (id : FiberId) : Action → Prop
  | .call other _ _ _ => other = id
  | .wake other _ _ => other = id
  | .expire other _ _ => other = id
  | _ => False

/-- Everything one step can do. -/
inductive Effect (state : State) (action : Action) (next : State) : Prop where
  | posts {caller : ThreadId} {call : Call} (haction : action = .post caller call)
      (hfree : state.thread caller ≠ .blocked) (hnext : next = state.post caller call)
  | stops (haction : action = .stop) (hnext : next = { state with stopping := true })
  | completes {context : Context} {result : Except Error Int}
      (haction : action = .complete context result) (hdriver : state.driver = .polling)
      (hnext : next = { state with cell := Function.update state.cell context (some result) })
  | advances {driver : Driver} (hadvances : Advances state action driver)
      (hnext : next = { state with driver })
  | takes {fields : Fields} {codes : Request → Int} {site : Site} {posted : Posted}
      {rest : List Posted} (haction : action = .take fields codes)
      (hdriver : state.driver = .draining site) (htasks : state.loopTasks = posted :: rest)
      (hnext : next = { state with loopTasks := rest }.driverStops site (.call posted)
        (posted.call.closure.exec fields (refusal codes) none))
  | destroys {fields : Fields} {codes : Request → Int} {site : Site} {posted : Posted}
      (haction : action = .release true fields codes)
      (hdriver : state.driver = .releasing site posted)
      (hnext : next = state.driverStops site .destruction
        (posted.call.destructor.exec fields (refusal codes) none))
  | wakes {fields : Fields} {codes : Request → Int} {site : Site} {work : Work} {wait : Wait}
      {result : Except Error Int} (haction : action = .wakeDriver fields codes)
      (hdriver : state.driver = .suspended site work wait)
      (hresult : state.cell .driver = some result)
      (hnext : next = state.driverStops site work (wait.resume fields (refusal codes) result))
  | expires {fields : Fields} {codes : Request → Int} {site : Site} {work : Work} {wait : Wait}
      {rest : Operation} (haction : action = .expireDriver fields codes)
      (hdriver : state.driver = .suspended site work wait) (hrest : wait.expired = some rest)
      (hnext : next = state.driverStops site work
        (rest.exec fields (refusal codes) (state.cell .driver)))
  | fiber {id : FiberId} {segment : Segment} (haction : action.runsFiber id)
      (hlets : state.driver.letsFibersRun = true) (hnext : next = state.fiberStops id segment)

theorem step_effect {state next : State} {action : Action}
    (hstep : step state action = some next) : Effect state action next := by
  cases action with
  | post caller call =>
      simp only [step] at hstep
      split at hstep
      · cases hstep
      next hfree => exact .posts rfl hfree (Option.some.inj hstep).symm
  | stop => exact .stops rfl (Option.some.inj hstep).symm
  | turn =>
      simp only [step] at hstep
      split at hstep
      next hdriver =>
        have hnext := (Option.some.inj hstep).symm
        by_cases hstopping : state.stopping = true
        · rw [if_pos hstopping] at hnext
          exact .advances (.stops hdriver hstopping) hnext
        · rw [if_neg hstopping] at hnext
          exact .advances (.polls hdriver (Bool.eq_false_of_not_eq_true hstopping)) hnext
      next => cases hstep
  | complete context result =>
      simp only [step] at hstep
      split at hstep
      next hdriver =>
        obtain ⟨-, hnext⟩ := Option.ite_none_right_eq_some.mp hstep
        exact .completes rfl hdriver (Option.some.inj hnext).symm
      next => cases hstep
  | asyncCallback =>
      simp only [step] at hstep
      split at hstep
      next hdriver => exact .advances (.calledBack hdriver) (Option.some.inj hstep).symm
      next => cases hstep
  | pollDone =>
      simp only [step] at hstep
      split at hstep
      next hdriver => exact .advances (.polled hdriver) (Option.some.inj hstep).symm
      next => cases hstep
  | take fields codes =>
      simp only [step] at hstep
      split at hstep
      next site hdriver =>
        split at hstep
        next posted rest htasks => exact .takes rfl hdriver htasks (Option.some.inj hstep).symm
        next => cases hstep
      next => cases hstep
  | release last fields codes =>
      simp only [step] at hstep
      split at hstep
      next site posted hdriver =>
        split at hstep
        next hlast => exact .destroys (by rw [hlast]) hdriver (Option.some.inj hstep).symm
        next hlast =>
          obtain rfl := Bool.eq_false_of_not_eq_true hlast
          exact .advances (.releases hdriver) (Option.some.inj hstep).symm
      next => cases hstep
  | drained =>
      simp only [step] at hstep
      split at hstep
      next site hdriver =>
        split at hstep
        next htasks =>
          cases site with
          | asyncCallback =>
              exact .advances (.returns hdriver htasks) (Option.some.inj hstep).symm
          | run => exact .advances (.yields hdriver htasks) (Option.some.inj hstep).symm
        next => cases hstep
      next => cases hstep
  | wakeDriver fields codes =>
      simp only [step] at hstep
      split at hstep
      next site work wait hdriver =>
        obtain ⟨result, hresult, hnext⟩ := Option.map_eq_some_iff.mp hstep
        exact .wakes rfl hdriver hresult hnext.symm
      next => cases hstep
  | expireDriver fields codes =>
      simp only [step] at hstep
      split at hstep
      next site work wait hdriver =>
        obtain ⟨rest, hrest, hnext⟩ := Option.map_eq_some_iff.mp hstep
        exact .expires rfl hdriver hrest hnext.symm
      next => cases hstep
  | yieldDone =>
      simp only [step] at hstep
      split at hstep
      next hdriver => exact .advances (.yielded hdriver) (Option.some.inj hstep).symm
      next => cases hstep
  | idle busy =>
      simp only [step] at hstep
      split at hstep
      next hdriver =>
        have hnext := (Option.some.inj hstep).symm
        -- The rest of the idle test, and then `loop_tasks_`.
        cases busy with
        | true => exact .advances (.busy hdriver (.inl rfl)) hnext
        | false =>
            cases htasks : state.loopTasks with
            | nil => exact .advances (.idles hdriver htasks) (by simpa [htasks] using hnext)
            | cons posted rest =>
                exact .advances (.busy hdriver (.inr (by simp [htasks])))
                  (by simpa [htasks] using hnext)
      next => cases hstep
  | call id call fields codes =>
      simp only [step, Option.ite_none_right_eq_some, Bool.and_eq_true] at hstep
      exact .fiber rfl hstep.1.1 (Option.some.inj hstep.2).symm
  | wake id fields codes | expire id fields codes =>
      simp only [step, Option.ite_none_right_eq_some, Option.bind_eq_some_iff,
        Option.map_eq_some_iff] at hstep
      obtain ⟨hlets, _, _, _, _, hnext⟩ := hstep
      exact .fiber rfl hlets hnext.symm

/-- The code a suspended operation goes on with, at its value or at its time limit. -/
inductive Continues (wait : Wait) (segment : Segment) : Prop where
  | resumed (fields : Fields) (codes : Request → Int) (result : Except Error Int)
      (hsegment : segment = wait.resume fields (refusal codes) result)
  | expired (fields : Fields) (codes : Request → Int) (cell : Option (Except Error Int))
      (rest : Operation) (hrest : rest ∈ wait.expired)
      (hsegment : segment = rest.exec fields (refusal codes) cell)

/-- What one step can do to the driver. -/
inductive Moves (state : State) (action : Action) (next : State) : Prop where
  /-- A step of another thread, of a fiber, or of a callback. -/
  | stays (hdriver : next.driver = state.driver)
      (hcell : ∀ wait ∈ state.waiting .driver, wait.promise = .completion →
        next.cell .driver = state.cell .driver)
  /-- The driver goes on in `run`, outside any posted closure. -/
  | runs (hbefore : state.waiting .driver = none) (hafter : next.waiting .driver = none)
  | takes {fields : Fields} {codes : Request → Int} {site : Site} {posted : Posted}
      {rest : List Posted} (haction : action = .take fields codes)
      (hdriver : state.driver = .draining site) (htasks : state.loopTasks = posted :: rest)
      (hnext : next = { state with loopTasks := rest }.driverStops site (.call posted)
        (posted.call.closure.exec fields (refusal codes) none))
  /-- The closure is destroyed, and with it the socket it has captured. -/
  | destroys {fields : Fields} {codes : Request → Int} {site : Site} {posted : Posted}
      (haction : action = .release true fields codes)
      (hdriver : state.driver = .releasing site posted)
      (hnext : next = state.driverStops site .destruction
        (posted.call.destructor.exec fields (refusal codes) none))
  | resumes {site : Site} {work : Work} {wait : Wait} {segment : Segment}
      (hdriver : state.driver = .suspended site work wait)
      (hready : state.cell .driver ≠ none ∨ wait.expired ≠ none)
      (hsegment : Continues wait segment) (hnext : next = state.driverStops site work segment)

/-- The places between which the driver advances are outside the closures. -/
theorem Advances.waiting_eq_none {state : State} {action : Action} {driver : Driver}
    (hadvances : Advances state action driver) :
    state.waiting .driver = none ∧ { state with driver }.waiting .driver = none := by
  cases hadvances <;> simp [State.waiting, *]

/-- Every step is one of these moves. -/
theorem step_moves {state next : State} {action : Action} (hstep : step state action = some next) :
    Moves state action next := by
  cases step_effect hstep with
  | posts _ _ hnext | stops _ hnext =>
      subst hnext
      exact .stays rfl fun _ _ _ => rfl
  | completes _ hdriver hnext =>
      subst hnext
      -- The driver polls, so it is not the context that waits.
      exact .stays rfl fun wait hwait _ => absurd hwait (by simp [State.waiting, hdriver])
  | advances hadvances hnext =>
      subst hnext
      exact .runs hadvances.waiting_eq_none.1 hadvances.waiting_eq_none.2
  | takes haction hdriver htasks hnext => exact .takes haction hdriver htasks hnext
  | destroys haction hdriver hnext => exact .destroys haction hdriver hnext
  | wakes _ hdriver hresult hnext =>
      exact .resumes hdriver (.inl (by simp [hresult])) (.resumed _ _ _ rfl) hnext
  | expires _ hdriver hrest hnext =>
      exact .resumes hdriver (.inr (by simp [hrest])) (.expired _ _ _ _ hrest rfl) hnext
  | fiber _ _ hnext =>
      subst hnext
      exact .stays (state.fiberStops_driver _ _) fun _ => State.fiberStops_cell _ _

/-- After its segment the driver is suspended where the segment stopped, or nowhere. -/
theorem State.driverStops_waiting (state : State) (site : Site) (work : Work)
    (segment : Segment) (wait : Wait) :
    wait ∈ (state.driverStops site work segment).waiting .driver ↔
      segment.stop = .suspended wait := by
  cases hstop : segment.stop with
  | returned => cases work <;> simp [driverStops, hstop, conclude, waiting]
  | threw error => cases work <;> simp [driverStops, hstop, conclude, waiting]
  | suspended other => simp [driverStops, hstop, waiting]

theorem State.driverAwaitsCompletion_iff (state : State) :
    state.DriverAwaitsCompletion ↔
      ∃ wait ∈ state.waiting .driver, wait.promise = .completion := by
  constructor
  · rintro ⟨site, work, wait, hdriver, hpromise⟩
    exact ⟨wait, by simp [waiting, hdriver], hpromise⟩
  · rintro ⟨wait, hwait, hpromise⟩
    simp only [waiting] at hwait
    split at hwait
    next site work other hdriver =>
      obtain rfl := Option.some.inj hwait
      exact ⟨site, work, other, hdriver, hpromise⟩
    · exact absurd hwait (by simp)

def accepted : Request → Int := fun _ => 0

/-- Taking a call leaves the driver waiting for libuv exactly when the call needs a
completion. -/
theorem take_awaits_iff {state next : State} {site : Site} {posted : Posted}
    {rest : List Posted} {fields : Fields} {codes : Request → Int}
    (hdriver : state.driver = .draining site) (htasks : state.loopTasks = posted :: rest)
    (hstep : step state (.take fields codes) = some next) :
    next.DriverAwaitsCompletion ↔ posted.call.NeedsCompletion fields codes := by
  simp only [step, hdriver, htasks, Option.some.injEq] at hstep
  have hblocks : Blocks posted.call.closure fields codes none ↔ _ := posted.call.blocks_iff
  rw [← hstep, State.driverAwaitsCompletion_iff, ← hblocks, Blocks, Stop.awaits_iff]
  simp only [State.driverStops_waiting]

/-- Destroying a closure that nobody shares its socket with leaves the driver waiting for libuv
exactly when the call leaves the socket open. -/
theorem release_awaits_iff {state next : State} {site : Site} {posted : Posted}
    {fields : Fields} {codes : Request → Int} (hdriver : state.driver = .releasing site posted)
    (hstep : step state (.release true fields codes) = some next) :
    next.DriverAwaitsCompletion ↔ posted.call.LeavesOpen fields := by
  simp only [step, hdriver, if_true, Option.some.injEq] at hstep
  have hblocks : Blocks posted.call.destructor fields codes none ↔ _ :=
    posted.call.blocks_destructor_iff
  rw [← hstep, State.driverAwaitsCompletion_iff, ← hblocks, Blocks, Stop.awaits_iff]
  simp only [State.driverStops_waiting]

/-- The driver is in `future.get()` of a promise that is not set and that only a callback
can set. -/
def Stuck (state : State) : Prop :=
  ∃ wait ∈ state.waiting .driver,
    wait.promise = .completion ∧ wait.expired = none ∧ state.cell .driver = none

theorem stuck_step {state next : State} {action : Action} (hstuck : Stuck state)
    (hstep : step state action = some next) : next.driver = state.driver ∧ Stuck next := by
  obtain ⟨wait, hwait, hpromise, hexpired, hcell⟩ := hstuck
  cases step_moves hstep with
  | stays hdriver hsame =>
      refine ⟨hdriver, wait, ?_, hpromise, hexpired, ?_⟩
      · simpa only [State.waiting, hdriver] using hwait
      · rw [hsame wait hwait hpromise, hcell]
  | runs hbefore _ => exact absurd hwait (by simp [hbefore])
  | takes _ hdriver _ _ => exact absurd hwait (by simp [State.waiting, hdriver])
  | destroys _ hdriver _ => exact absurd hwait (by simp [State.waiting, hdriver])
  | resumes hdriver hready _ _ =>
      -- Going on takes a set promise or a time limit, and there is neither.
      simp only [State.waiting, hdriver, Option.mem_some_iff] at hwait
      subst hwait
      simp [hcell, hexpired] at hready

/-- A driver that waits without a time limit for a completion of libuv waits forever,
whatever the other threads and fibers do. -/
theorem driver_stuck_forever {state final : State} (hstuck : Stuck state)
    (actions : List Action) (hrun : machine.run actions state = some final) :
    final.driver = state.driver := by
  induction actions generalizing state with
  | nil =>
      obtain rfl := Option.some.inj hrun
      rfl
  | cons action rest ih =>
      obtain ⟨next, hstep, hrest⟩ := Option.bind_eq_some_iff.mp hrun
      obtain ⟨hdriver, hnext⟩ := stuck_step hstuck hstep
      rw [ih hnext hrest, hdriver]

end Fiberuv.EventLoop
