import Fiberuv.EventLoop.Driver
import Fiberuv.Foundation.Register

/-! # Posted calls are served in order

A thread outside the loop hands its closure to `post_to_loop` and blocks on a future;
`drain_loop_tasks` runs the closures in the driver. The driver holds at most one closure,
which it may carry through a suspension, and everything behind it stays in `loop_tasks_`.
The life of the calls is written down as events: a call is posted, taken and ended. What
the driver does to destroy a closure comes after the end of the call.
-/

namespace Fiberuv.EventLoop.Calls

open Foundation

inductive Event where
  | posted (posted : Posted)
  | taken (posted : Posted)
  /-- The closure ends, and its promise gets this result. -/
  | ended (posted : Posted) (result : Thread)

namespace Event

def post : Event → Option Posted
  | .posted closure => some closure
  | _ => none

def start : Event → Option Posted
  | .taken closure => some closure
  | _ => none

def finish : Event → Option Posted
  | .ended closure _ => some closure
  | _ => none

end Event

/-- The thread waits for the closure. -/
def waits (caller : ThreadId) (posted : Posted) : Bool :=
  posted.caller == caller && !posted.call.detached

/-- What an event makes of the thread. -/
def settles (caller : ThreadId) : Event → Option Thread
  | .posted posted => if waits caller posted then some .blocked else none
  | .taken _ => none
  | .ended posted result => if waits caller posted then some result else none

/-- The result of a closure that has come to its end. -/
def outcome (segment : Segment) : Option Thread :=
  match segment.stop with
  | .returned => some .returned
  | .threw error => some (.threw error)
  | .suspended _ => none

def ending (posted : Posted) (segment : Segment) : List Event :=
  (outcome segment).toList.map (.ended posted)

/-- The end of what the driver is in the middle of. -/
def Work.ending (work : Work) (segment : Segment) : List Event :=
  match work with
  | .call posted => Calls.ending posted segment
  | .destruction => []

def emits (state : State) : Action → List Event
  | .post caller call => [.posted ⟨caller, call⟩]
  | .take fields codes =>
      match state.loopTasks with
      | posted :: _ =>
          .taken posted :: ending posted (posted.call.closure.exec fields (refusal codes) none)
      | [] => []
  | .wakeDriver fields codes =>
      match state.driver, state.cell .driver with
      | .suspended _ work wait, some result =>
          Work.ending work (wait.resume fields (refusal codes) result)
      | _, _ => []
  | .expireDriver fields codes =>
      match state.driver with
      | .suspended _ work wait =>
          match wait.expired with
          | some expired =>
              Work.ending work (expired.exec fields (refusal codes) (state.cell .driver))
          | none => []
      | _ => []
  | _ => []

/-- The closure the driver is in the middle of. -/
def inHand : Driver → List Posted
  | .suspended _ (.call posted) _ => [posted]
  | _ => []

/-- What the events so far say about the closures in `loop_tasks_`, the one in the driver's
hand, and the threads. -/
structure Books (tasks hand : List Posted) (thread : ThreadId → Thread) (seen : List Event) :
    Prop where
  inOrder : seen.filterMap Event.post = seen.filterMap Event.start ++ tasks
  oneByOne : seen.filterMap Event.start = seen.filterMap Event.finish ++ hand
  answered : ∀ caller, thread caller = (held (settles caller) seen).getD .running
  waiting : ∀ caller, thread caller = .blocked ∧ (hand ++ tasks).countP (waits caller) = 1 ∨
    thread caller ≠ .blocked ∧ (hand ++ tasks).countP (waits caller) = 0

/-- The thread that waits for the closure changes, and no other. -/
def settled (thread : ThreadId → Thread) (posted : Posted) (after : Thread) (caller : ThreadId) :
    Thread :=
  if waits caller posted then after else thread caller

variable {state next : State}

/-- What `begin_close` signals is no call and no thread. -/
theorem foldl_failAcceptWaiters_thread (sockets : List SocketId) (state : State) :
    (sockets.foldl State.failAcceptWaiters state).thread = state.thread := by
  induction sockets generalizing state with
  | nil => rfl
  | cons socket rest ih => exact ih (state.failAcceptWaiters socket)

theorem resolve_thread (state : State) (posted : Posted) (result : Thread) :
    (state.resolve posted result).thread = settled state.thread posted result := by
  funext caller
  cases hdetached : posted.call.detached with
  | true => simp [State.resolve, settled, waits, hdetached]
  | false =>
      by_cases hcaller : posted.caller = caller
      · simp [State.resolve, settled, waits, hdetached, hcaller]
      · simp [State.resolve, settled, waits, hdetached, hcaller, Ne.symm hcaller]

theorem post_thread (state : State) (posted : Posted) :
    (state.post posted.caller posted.call).thread = settled state.thread posted .blocked := by
  funext caller
  cases hdetached : posted.call.detached with
  | true => simp [State.post, settled, waits, hdetached]
  | false =>
      by_cases hcaller : posted.caller = caller
      · simp [State.post, settled, waits, hdetached, hcaller]
      · simp [State.post, settled, waits, hdetached, hcaller, Ne.symm hcaller]

theorem fiberStops_calls (state : State) (id : FiberId) (segment : Segment) :
    (state.fiberStops id segment).loopTasks = state.loopTasks ∧
      (state.fiberStops id segment).thread = state.thread := by
  unfold State.fiberStops
  split <;> exact ⟨(State.foldl_failAcceptWaiters _ _).2.1, foldl_failAcceptWaiters_thread _ _⟩

/-- The driver puts a closure down that has ended, and keeps one that waits. -/
theorem driverStops_calls (state : State) (site : Site) (posted : Posted) (segment : Segment) :
    (state.driverStops site (.call posted) segment).loopTasks = state.loopTasks ∧
      ((outcome segment = none ∧
          inHand (state.driverStops site (.call posted) segment).driver = [posted] ∧
          (state.driverStops site (.call posted) segment).thread = state.thread) ∨
        ∃ result, outcome segment = some result ∧ result ≠ .blocked ∧
          inHand (state.driverStops site (.call posted) segment).driver = [] ∧
          (state.driverStops site (.call posted) segment).thread =
            settled state.thread posted result) := by
  obtain ⟨-, htasks, -⟩ := State.foldl_failAcceptWaiters segment.signals { state with
    driver := .draining site
    cell := Function.update state.cell .driver segment.cell }
  have hthread := foldl_failAcceptWaiters_thread segment.signals { state with
    driver := .draining site
    cell := Function.update state.cell .driver segment.cell }
  cases hstop : segment.stop with
  | returned =>
      refine ⟨by simp [State.driverStops, hstop, State.conclude, State.resolve, htasks],
        .inr ⟨.returned, ?_⟩⟩
      refine ⟨by simp [outcome, hstop], by simp, ?_, ?_⟩
      · simp [State.driverStops, hstop, State.conclude, inHand]
      · simp only [State.driverStops, hstop, State.conclude, resolve_thread, hthread]
  | threw error =>
      refine ⟨by simp [State.driverStops, hstop, State.conclude, State.resolve, htasks],
        .inr ⟨.threw error, ?_⟩⟩
      refine ⟨by simp [outcome, hstop], by simp, ?_, ?_⟩
      · simp [State.driverStops, hstop, State.conclude, inHand]
      · simp only [State.driverStops, hstop, State.conclude, resolve_thread, hthread]
  | suspended wait =>
      refine ⟨by simp [State.driverStops, hstop, htasks], .inl ?_⟩
      simp [outcome, State.driverStops, hstop, inHand, hthread]

/-- Destructors are no call's. -/
theorem driverStops_destruction (state : State) (site : Site) (segment : Segment) :
    (state.driverStops site .destruction segment).loopTasks = state.loopTasks ∧
      inHand (state.driverStops site .destruction segment).driver = [] ∧
      (state.driverStops site .destruction segment).thread = state.thread := by
  obtain ⟨-, htasks, -⟩ := State.foldl_failAcceptWaiters segment.signals { state with
    driver := .draining site
    cell := Function.update state.cell .driver segment.cell }
  have hthread := foldl_failAcceptWaiters_thread segment.signals { state with
    driver := .draining site
    cell := Function.update state.cell .driver segment.cell }
  cases hstop : segment.stop with
  | returned => simp [State.driverStops, hstop, State.conclude, htasks, hthread, inHand]
  | threw error => simp [State.driverStops, hstop, State.conclude, htasks, hthread, inHand]
  | suspended wait => simp [State.driverStops, hstop, htasks, hthread, inHand]

/-- What one step can do to the calls. -/
inductive Moves (state : State) (action : Action) (next : State) : Prop where
  /-- A step of a fiber, of a callback, or of the driver between two closures. -/
  | passes (hemits : emits state action = []) (htasks : next.loopTasks = state.loopTasks)
      (hhand : inHand next.driver = inHand state.driver) (hthread : next.thread = state.thread)
  | posts (posted : Posted) (haction : action = .post posted.caller posted.call)
      (hfree : state.thread posted.caller ≠ .blocked)
      (hnext : next = state.post posted.caller posted.call)
  | takes (site : Site) (posted : Posted) (rest : List Posted) (segment : Segment)
      (hemits : emits state action = .taken posted :: ending posted segment)
      (hhand : inHand state.driver = []) (htasks : state.loopTasks = posted :: rest)
      (hnext : next = { state with loopTasks := rest }.driverStops site (.call posted) segment)
  | resumes (site : Site) (posted : Posted) (segment : Segment)
      (hemits : emits state action = ending posted segment)
      (hhand : inHand state.driver = [posted])
      (hnext : next = state.driverStops site (.call posted) segment)

/-- The driver goes on with what it is in the middle of. -/
theorem moves_resumes {action : Action} {site : Site} {work : Work} {wait : Wait}
    {segment : Segment} (hdriver : state.driver = .suspended site work wait)
    (hemits : emits state action = Work.ending work segment)
    (hnext : next = state.driverStops site work segment) : Moves state action next := by
  cases work with
  | call posted => exact .resumes site posted segment hemits (by simp [hdriver, inHand]) hnext
  | destruction =>
      subst hnext
      obtain ⟨htasks, hhand, hthread⟩ := driverStops_destruction state site segment
      exact .passes hemits htasks (by rw [hhand, hdriver]; rfl) hthread

/-- The driver advances with empty hands. -/
theorem inHand_of_advances {action : Action} {driver : Driver}
    (hadvances : Advances state action driver) : inHand driver = inHand state.driver := by
  cases hadvances <;> simp [inHand, *]

theorem emits_of_advances {action : Action} {driver : Driver}
    (hadvances : Advances state action driver) : emits state action = [] := by
  cases hadvances <;> rfl

theorem emits_of_runsFiber {action : Action} {id : FiberId} (haction : action.runsFiber id) :
    emits state action = [] := by
  cases action with
  | call | wake | expire => rfl
  | _ => cases haction

theorem step_moves {action : Action} (hstep : step state action = some next) :
    Moves state action next := by
  cases step_effect hstep with
  | @posts caller call haction hfree hnext => exact .posts ⟨caller, call⟩ haction hfree hnext
  | stops haction hnext | completes haction _ hnext =>
      subst haction hnext
      exact .passes rfl rfl rfl rfl
  | advances hadvances hnext =>
      subst hnext
      exact .passes (emits_of_advances hadvances) rfl (inHand_of_advances hadvances) rfl
  | takes haction hdriver htasks hnext =>
      subst haction
      exact .takes _ _ _ _ (by simp [emits, htasks]) (by simp [hdriver, inHand]) htasks hnext
  | @destroys _ _ site posted haction hdriver hnext =>
      subst haction hnext
      obtain ⟨htasks, hhand, hthread⟩ := driverStops_destruction state site _
      exact .passes rfl htasks (by rw [hhand, hdriver]; rfl) hthread
  | wakes haction hdriver hresult hnext =>
      subst haction
      exact moves_resumes hdriver (by simp [emits, hdriver, hresult]) hnext
  | expires haction hdriver hrest hnext =>
      subst haction
      exact moves_resumes hdriver (by simp [emits, hdriver, hrest]) hnext
  | @fiber id segment haction _ hnext =>
      subst hnext
      obtain ⟨htasks, hthread⟩ := fiberStops_calls state id segment
      exact .passes (emits_of_runsFiber haction) htasks (by rw [State.fiberStops_driver]) hthread

section Books

variable {tasks hand rest : List Posted} {thread : ThreadId → Thread} {seen : List Event}
  {posted : Posted}

theorem books_initial : Books [] [] (fun _ => .running) [] :=
  ⟨rfl, rfl, fun _ => rfl, fun _ => .inr ⟨by simp, rfl⟩⟩

/-- A call is put behind the others. -/
theorem Books.post (hbooks : Books tasks hand thread seen)
    (hfree : thread posted.caller ≠ .blocked) :
    Books (tasks ++ [posted]) hand (settled thread posted .blocked) (seen ++ [.posted posted]) := by
  refine ⟨?_, ?_, fun caller => ?_, fun caller => ?_⟩
  · simp [List.filterMap_cons, Event.post, Event.start, hbooks.inOrder]
  · simp [List.filterMap_cons, Event.start, Event.finish, hbooks.oneByOne]
  · rw [held_snoc, settles, settled]
    cases hwaits : waits caller posted with
    | true => simp
    | false => simpa using hbooks.answered caller
  · rw [← List.append_assoc, List.countP_append, List.countP_singleton, settled]
    cases hwaits : waits caller posted with
    | true =>
        obtain rfl : posted.caller = caller := by
          simp only [waits, Bool.and_eq_true, beq_iff_eq] at hwaits
          exact hwaits.1
        have hnone := (hbooks.waiting posted.caller).resolve_left fun hblocked => hfree hblocked.1
        exact .inl ⟨rfl, by simp [hnone.2]⟩
    | false => simpa using hbooks.waiting caller

/-- The first of the closures is taken into an empty hand. -/
theorem Books.take (hbooks : Books (posted :: rest) [] thread seen) :
    Books rest [posted] thread (seen ++ [.taken posted]) := by
  refine ⟨?_, ?_, fun caller => ?_, fun caller => ?_⟩
  · simp [List.filterMap_cons, Event.post, Event.start, hbooks.inOrder]
  · simp [List.filterMap_cons, Event.start, Event.finish, hbooks.oneByOne]
  · rw [held_snoc, settles, Option.none_or]
    exact hbooks.answered caller
  · exact hbooks.waiting caller

/-- The closure in hand ends, and the thread that waits for it goes on. -/
theorem Books.finish (hbooks : Books tasks [posted] thread seen) {result : Thread}
    (hresult : result ≠ .blocked) :
    Books tasks [] (settled thread posted result) (seen ++ [.ended posted result]) := by
  refine ⟨?_, ?_, fun caller => ?_, fun caller => ?_⟩
  · simp [List.filterMap_cons, Event.post, Event.start, hbooks.inOrder]
  · simp [List.filterMap_cons, Event.start, Event.finish, hbooks.oneByOne]
  · rw [held_snoc, settles, settled]
    cases hwaits : waits caller posted with
    | true => simp
    | false => simpa using hbooks.answered caller
  · have hwaiting := hbooks.waiting caller
    rw [List.singleton_append, List.countP_cons] at hwaiting
    rw [List.nil_append, settled]
    cases hwaits : waits caller posted with
    | true =>
        -- It was the only call of this thread.
        rw [hwaits, if_pos rfl] at hwaiting
        exact .inr ⟨by simpa using hresult, by omega⟩
    | false => simpa [hwaits] using hwaiting

end Books

def Served (state : State) (seen : List Event) : Prop :=
  Books state.loopTasks (inHand state.driver) state.thread seen

/-- The driver runs the closure it has in hand to its end or its next wait. -/
theorem Books.driverStops {state : State} {posted : Posted} {seen : List Event}
    (hbooks : Books state.loopTasks [posted] state.thread seen) (site : Site) (segment : Segment) :
    Served (state.driverStops site (.call posted) segment) (seen ++ ending posted segment) := by
  obtain ⟨htasks, hstops⟩ := driverStops_calls state site posted segment
  rw [Served, htasks]
  obtain ⟨houtcome, hhand, hthread⟩ | ⟨result, houtcome, hresult, hhand, hthread⟩ := hstops
  · rw [hhand, hthread]
    simpa [ending, houtcome] using hbooks
  · rw [hhand, hthread]
    simpa [ending, houtcome] using hbooks.finish hresult

theorem served_step (state : State) (seen : List Event) (action : Action) (next : State)
    (hserved : Served state seen) (hstep : step state action = some next) :
    Served next (seen ++ emits state action) := by
  cases step_moves hstep with
  | passes hemits htasks hhand hthread =>
      rw [hemits, List.append_nil, Served, htasks, hhand, hthread]
      exact hserved
  | posts posted haction hfree hnext =>
      subst haction hnext
      rw [emits, Served, post_thread]
      exact Books.post hserved hfree
  | takes site posted rest segment hemits hhand htasks hnext =>
      subst hnext
      rw [Served, hhand, htasks] at hserved
      rw [hemits, List.append_cons]
      exact Books.driverStops hserved.take site segment
  | resumes site posted segment hemits hhand hnext =>
      subst hnext
      rw [Served, hhand] at hserved
      rw [hemits]
      exact Books.driverStops hserved site segment

/-- The calls that other threads post are taken in the order of their posting, one only when
the one before has ended, and end in that order. A thread is blocked exactly while a call it
waits for has not ended, and it has no second such call; otherwise it stands where its last
own call has left it. -/
theorem calls_served_in_order (actions : List Action) (state : State)
    (hrun : machine.run actions {} = some state) :
    let seen := machine.trace emits actions {}
    seen.filterMap Event.post = seen.filterMap Event.start ++ state.loopTasks ∧
      seen.filterMap Event.start = seen.filterMap Event.finish ++ inHand state.driver ∧
      (∀ caller, state.thread caller = (held (settles caller) seen).getD .running) ∧
      ∀ caller, state.thread caller = .blocked ∧
          (inHand state.driver ++ state.loopTasks).countP (waits caller) = 1 ∨
        state.thread caller ≠ .blocked ∧
          (inHand state.driver ++ state.loopTasks).countP (waits caller) = 0 := by
  have hserved : Served state ([] ++ machine.trace emits actions {}) :=
    Machine.run_trace served_step actions {} state [] books_initial hrun
  exact ⟨hserved.inOrder, hserved.oneByOne, hserved.answered, hserved.waiting⟩

/-- A read is posted behind a bind and a stop of a periodic task; the driver is still in the
read when a fourth call comes. -/
def readBehindBind : List Action :=
  [.post 0 .bind, .post 1 .stopPeriodic, .post 1 .readAt, .turn, .asyncCallback,
    .take {} accepted, .release false {} accepted, .take {} accepted, .release true {} accepted,
    .take {} accepted, .post 0 .createFile]

theorem calls_served_in_order_readBehindBind :
    ∃ state, machine.run readBehindBind {} = some state ∧
      state.loopTasks = [⟨0, .createFile⟩] ∧ inHand state.driver = [⟨1, .readAt⟩] ∧
      state.thread 1 = .blocked := by
  refine ⟨_, rfl, rfl, rfl, ?_⟩
  obtain ⟨-, -, -, hwaiting⟩ := calls_served_in_order readBehindBind _ rfl
  rcases hwaiting 1 with hblocked | hfree
  · exact hblocked.1
  · exact absurd hfree.2 (by decide)

end Fiberuv.EventLoop.Calls
