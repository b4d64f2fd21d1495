import Fiberuv.Foundation.Census
import Fiberuv.Foundation.Machine
import Fiberuv.Foundation.Register

/-! # Spawned fibers and their unhandled exceptions

`spawn` counts a fiber in `active_fibers_` and starts it; when the construction of the fiber
throws, the caller gets the exception and the count stays. An exception that leaves the task
of a fiber is reported: one critical section counts it, stores it and copies the handler,
which is called after the lock is released unless it is empty, and whose own exceptions are
swallowed. The fiber takes itself off `active_fibers_` last. Handlers are set, and the last
exception is taken, by anybody at any time, from within a handler too.
-/

namespace Fiberuv.EventLoop.Unhandled

open Foundation

abbrev FiberId := Nat

/-- An exception, named by a number. -/
abbrev Exn := Nat

/-- A handler that is not empty, named by a number. -/
abbrev HandlerId := Nat

/-- The handler that the constructor of `EventLoop` sets. -/
def defaultHandler : HandlerId := 0

/-- How the task of a fiber has ended; an exception was reported to the handler of that
moment. -/
inductive Ending where
  | returned
  | threw (exn : Exn) (handler : Option HandlerId)
  deriving DecidableEq

/-- Where a spawned fiber stands. -/
inductive Fiber where
  | absent
  /-- Counted, but its construction threw. -/
  | lost
  | running
  /-- Has caught the exception; the critical section of the report is next. -/
  | caught (exn : Exn)
  /-- Has released the lock, with a copy of the handler. -/
  | reporting (exn : Exn) (handler : Option HandlerId)
  /-- The decrement of `active_fibers_` is next. -/
  | leaving (ending : Ending)
  | done (ending : Ending)
  deriving DecidableEq

structure State where
  activeFibers : Nat := 0
  unhandledExceptionCount : Nat := 0
  lastUnhandledException : Option Exn := none
  unhandledExceptionHandler : Option HandlerId := some defaultHandler
  fibers : FiberId → Fiber := fun _ => .absent

inductive Action where
  | spawn (fiber : FiberId)
  /-- `spawn`, with a throw of the construction of the fiber. -/
  | fiberThrow (fiber : FiberId)
  /-- The task returns, or an exception leaves it. -/
  | finish (fiber : FiberId) (thrown : Option Exn)
  /-- The critical section of `report_unhandled_exception`. -/
  | report (fiber : FiberId)
  /-- Its call of the handler, if there is one. -/
  | callHandler (fiber : FiberId)
  | leave (fiber : FiberId)
  | setUnhandledExceptionHandler (handler : Option HandlerId)
  | takeLastUnhandledException
  deriving DecidableEq

/-- What becomes of exceptions and handlers in a run. -/
inductive Event where
  | constructed
  | threw (fiber : FiberId) (exn : Exn)
  | reported (fiber : FiberId) (exn : Exn) (handler : Option HandlerId)
  | handled (fiber : FiberId) (exn : Exn) (handler : HandlerId)
  | handlerSet (handler : Option HandlerId)
  | taken (exn : Option Exn)
  deriving DecidableEq

/-- `active_fibers_` counts it. -/
def Fiber.isCounted : Fiber → Bool
  | .absent | .done _ => false
  | _ => true

namespace State

def setFiber (state : State) (fiber : FiberId) (position : Fiber) : State :=
  { state with fibers := Function.update state.fibers fiber position }

def spawn (state : State) (fiber : FiberId) : State :=
  { state with activeFibers := state.activeFibers + 1 }.setFiber fiber .running

def fiberThrow (state : State) (fiber : FiberId) : State :=
  { state with activeFibers := state.activeFibers + 1 }.setFiber fiber .lost

def finish (state : State) (fiber : FiberId) : Option Exn → State
  | none => state.setFiber fiber (.leaving .returned)
  | some exn => state.setFiber fiber (.caught exn)

def report (state : State) (fiber : FiberId) (exn : Exn) : State :=
  { state with
    unhandledExceptionCount := state.unhandledExceptionCount + 1
    lastUnhandledException := some exn }.setFiber fiber
    (.reporting exn state.unhandledExceptionHandler)

def leave (state : State) (fiber : FiberId) (ending : Ending) : State :=
  { state with activeFibers := state.activeFibers - 1 }.setFiber fiber (.done ending)

def step (state : State) : Action → Option State
  | .spawn fiber =>
      match state.fibers fiber with
      | .absent => some (state.spawn fiber)
      | _ => none
  | .fiberThrow fiber =>
      match state.fibers fiber with
      | .absent => some (state.fiberThrow fiber)
      | _ => none
  | .finish fiber thrown =>
      match state.fibers fiber with
      | .running => some (state.finish fiber thrown)
      | _ => none
  | .report fiber =>
      match state.fibers fiber with
      | .caught exn => some (state.report fiber exn)
      | _ => none
  | .callHandler fiber =>
      match state.fibers fiber with
      | .reporting exn handler => some (state.setFiber fiber (.leaving (.threw exn handler)))
      | _ => none
  | .leave fiber =>
      match state.fibers fiber with
      | .leaving ending => some (state.leave fiber ending)
      | _ => none
  | .setUnhandledExceptionHandler handler =>
      some { state with unhandledExceptionHandler := handler }
  | .takeLastUnhandledException => some { state with lastUnhandledException := none }

/-- What a step adds to the history. -/
def emits (state : State) : Action → List Event
  | .finish fiber (some exn) => [.threw fiber exn]
  | .report fiber =>
      match state.fibers fiber with
      | .caught exn => [.reported fiber exn state.unhandledExceptionHandler]
      | _ => []
  | .callHandler fiber =>
      match state.fibers fiber with
      | .reporting exn (some handler) => [.handled fiber exn handler]
      | _ => []
  | .setUnhandledExceptionHandler handler => [.handlerSet handler]
  | .takeLastUnhandledException => [.taken state.lastUnhandledException]
  | _ => []

end State

def machine : Machine State Action where
  step := State.step

/-- The loop after its constructor. -/
def initial : State := {}

def history (actions : List Action) : List Event :=
  .constructed :: machine.trace State.emits actions initial

namespace Event

def isOf (fiber : FiberId) : Event → Bool
  | .threw other _ | .reported other _ _ | .handled other _ _ => other == fiber
  | _ => false

def isReport : Event → Bool
  | .reported _ _ _ => true
  | _ => false

/-- The handler an event sets. -/
def setsHandler : Event → Option (Option HandlerId)
  | .constructed => some (some defaultHandler)
  | .handlerSet handler => some handler
  | _ => none

/-- The handler a report copies. -/
def copiesHandler : Event → Option (Option HandlerId)
  | .reported _ _ handler => some handler
  | _ => none

/-- What an event leaves in `last_unhandled_exception_`. -/
def setsLast : Event → Option (Option Exn)
  | .constructed | .taken _ => some none
  | .reported _ exn _ => some (some exn)
  | _ => none

def takesLast : Event → Option (Option Exn)
  | .taken exn => some exn
  | _ => none

end Event

/-- What a fiber whose task has ended so has left in the history. -/
def Ending.story (fiber : FiberId) : Ending → List Event
  | .returned => []
  | .threw exn none => [.threw fiber exn, .reported fiber exn none]
  | .threw exn (some handler) =>
      [.threw fiber exn, .reported fiber exn (some handler), .handled fiber exn handler]

/-- What a fiber has left in the history so far. -/
def Fiber.story (fiber : FiberId) : Fiber → List Event
  | .absent | .lost | .running => []
  | .caught exn => [.threw fiber exn]
  | .reporting exn handler => [.threw fiber exn, .reported fiber exn handler]
  | .leaving ending | .done ending => ending.story fiber

/-- Every fiber has told its story, and the counters count. -/
structure Told (state : State) (events : List Event) : Prop where
  fibers : ∀ fiber, events.filter (Event.isOf fiber) = (state.fibers fiber).story fiber
  active : CountedBy state.activeFibers state.fibers Fiber.isCounted
  count : state.unhandledExceptionCount = events.countP Event.isReport

/-- The handler and the last exception are the ones set last, whoever looks at them. -/
structure Kept (state : State) (events : List Event) : Prop where
  handler : held Event.setsHandler events = some state.unhandledExceptionHandler
  copied : ReadsLast Event.setsHandler Event.copiesHandler events
  last : held Event.setsLast events = some state.lastUnhandledException
  taken : ReadsLast Event.setsLast Event.takesLast events

theorem told_initial : Told initial [.constructed] where
  fibers _ := rfl
  active := countedBy_zero fun _ => rfl
  count := rfl

theorem kept_initial : Kept initial [.constructed] where
  handler := rfl
  copied := readsLast_nil.snoc fun _ hreads => by cases hreads
  last := rfl
  taken := readsLast_nil.snoc fun _ hreads => by cases hreads

section Steps

variable {state base next : State} {events : List Event} {action : Action}

/-- A fiber comes to a new position, with the events of its own. -/
theorem Told.move (htold : Told state events) {fiber : FiberId} {position : Fiber}
    {emitted : List Event} (hfibers : base.fibers = state.fibers)
    (hstory : position.story fiber = (state.fibers fiber).story fiber ++ emitted)
    (hown : ∀ event ∈ emitted, event.isOf fiber = true)
    (hactive : base.activeFibers =
      state.activeFibers + position.isCounted.toNat - (state.fibers fiber).isCounted.toNat)
    (hcount : base.unhandledExceptionCount =
      state.unhandledExceptionCount + emitted.countP Event.isReport) :
    Told (base.setFiber fiber position) (events ++ emitted) where
  fibers other := by
    simp only [State.setFiber, hfibers]
    rw [List.filter_append, htold.fibers other]
    obtain rfl | hne := eq_or_ne other fiber
    · rw [Function.update_self, hstory, List.filter_eq_self.mpr hown]
    · have hnone : emitted.filter (Event.isOf other) = [] := by
        refine List.filter_eq_nil_iff.mpr fun event hevent hother => ?_
        have hmine := hown event hevent
        cases event <;> simp_all [Event.isOf]
      rw [Function.update_of_ne hne, hnone, List.append_nil]
  active := by
    simp only [State.setFiber, hfibers, hactive]
    exact htold.active.update fiber position
  count := by
    rw [List.countP_append, ← htold.count]
    exact hcount

/-- An event of nobody's. -/
theorem Told.other (htold : Told state events) {event : Event}
    (hbase : base.fibers = state.fibers ∧ base.activeFibers = state.activeFibers ∧
      base.unhandledExceptionCount = state.unhandledExceptionCount)
    (hevent : (∀ fiber, event.isOf fiber = false) ∧ event.isReport = false) :
    Told base (events ++ [event]) where
  fibers fiber := by
    rw [List.filter_append, htold.fibers fiber, hbase.1]
    simp [hevent.1 fiber]
  active := by
    rw [hbase.1, hbase.2.1]
    exact htold.active
  count := by
    rw [List.countP_append, ← htold.count, hbase.2.2]
    simp [hevent.2]

theorem step_told (htold : Told state events) (hstep : machine.step state action = some next) :
    Told next (events ++ state.emits action) := by
  cases action with
  | spawn fiber | fiberThrow fiber =>
      simp only [machine, State.step] at hstep
      split at hstep
      next hfiber =>
        cases hstep
        exact htold.move rfl (by rw [hfiber]; rfl) (by simp [State.emits])
          (by rw [hfiber]; rfl) rfl
      next => cases hstep
  | finish fiber thrown =>
      simp only [machine, State.step] at hstep
      split at hstep
      next hfiber =>
        cases hstep
        have hactive : state.activeFibers = state.activeFibers + 1 - 1 := rfl
        cases thrown with
        | none =>
            exact htold.move rfl (by rw [hfiber]; rfl) (by simp [State.emits])
              (by rw [hfiber]; exact hactive) rfl
        | some exn =>
            exact htold.move rfl (by rw [hfiber]; rfl) (by simp [State.emits, Event.isOf])
              (by rw [hfiber]; exact hactive) rfl
      next => cases hstep
  | report fiber =>
      simp only [machine, State.step] at hstep
      split at hstep
      next exn hfiber =>
        cases hstep
        simp only [State.emits, hfiber]
        exact htold.move rfl (by rw [hfiber]; rfl) (by simp [Event.isOf])
          (by rw [hfiber]; rfl) rfl
      next => cases hstep
  | callHandler fiber =>
      simp only [machine, State.step] at hstep
      split at hstep
      next exn handler hfiber =>
        cases hstep
        simp only [State.emits, hfiber]
        cases handler with
        | none => exact htold.move rfl (by rw [hfiber]; rfl) (by simp) (by rw [hfiber]; rfl) rfl
        | some handler =>
            exact htold.move rfl (by rw [hfiber]; rfl) (by simp [Event.isOf])
              (by rw [hfiber]; rfl) rfl
      next => cases hstep
  | leave fiber =>
      simp only [machine, State.step] at hstep
      split at hstep
      next ending hfiber =>
        cases hstep
        exact htold.move rfl (by rw [hfiber]; exact (List.append_nil _).symm)
          (by simp [State.emits]) (by rw [hfiber]; rfl) rfl
      next => cases hstep
  | setUnhandledExceptionHandler handler =>
      cases hstep
      exact htold.other ⟨rfl, rfl, rfl⟩ ⟨fun _ => rfl, rfl⟩
  | takeLastUnhandledException =>
      cases hstep
      exact htold.other ⟨rfl, rfl, rfl⟩ ⟨fun _ => rfl, rfl⟩

theorem Kept.quiet (hkept : Kept state events)
    (hhandler : base.unhandledExceptionHandler = state.unhandledExceptionHandler)
    (hlast : base.lastUnhandledException = state.lastUnhandledException) :
    Kept base (events ++ []) := by
  rw [List.append_nil]
  exact ⟨hhandler ▸ hkept.handler, hkept.copied, hlast ▸ hkept.last, hkept.taken⟩

/-- An event that looks at what is there, and says what it leaves. -/
theorem Kept.event (hkept : Kept state events) {event : Event}
    (hhandler : event.setsHandler.or (some state.unhandledExceptionHandler) =
      some base.unhandledExceptionHandler)
    (hcopied : event.copiesHandler = none ∨
      event.copiesHandler = some state.unhandledExceptionHandler)
    (hlast : event.setsLast.or (some state.lastUnhandledException) =
      some base.lastUnhandledException)
    (htaken : event.takesLast = none ∨ event.takesLast = some state.lastUnhandledException) :
    Kept base (events ++ [event]) where
  handler := by rw [held_snoc, hkept.handler, hhandler]
  copied := hkept.copied.snoc fun handler hcopies => by
    rcases hcopied with hnone | hsome
    · simp [hnone] at hcopies
    · rw [hkept.handler, ← hsome, hcopies]
  last := by rw [held_snoc, hkept.last, hlast]
  taken := hkept.taken.snoc fun exn htakes => by
    rcases htaken with hnone | hsome
    · simp [hnone] at htakes
    · rw [hkept.last, ← hsome, htakes]

theorem step_kept (hkept : Kept state events) (hstep : machine.step state action = some next) :
    Kept next (events ++ state.emits action) := by
  cases action with
  | spawn fiber | fiberThrow fiber =>
      simp only [machine, State.step] at hstep
      split at hstep
      next => cases hstep; exact hkept.quiet rfl rfl
      next => cases hstep
  | finish fiber thrown =>
      simp only [machine, State.step] at hstep
      split at hstep
      next =>
        cases hstep
        cases thrown with
        | none => exact hkept.quiet rfl rfl
        | some exn => exact hkept.event rfl (.inl rfl) rfl (.inl rfl)
      next => cases hstep
  | report fiber =>
      simp only [machine, State.step] at hstep
      split at hstep
      next exn hfiber =>
        cases hstep
        simp only [State.emits, hfiber]
        exact hkept.event rfl (.inr rfl) rfl (.inl rfl)
      next => cases hstep
  | callHandler fiber =>
      simp only [machine, State.step] at hstep
      split at hstep
      next exn handler hfiber =>
        cases hstep
        simp only [State.emits, hfiber]
        cases handler with
        | none => exact hkept.quiet rfl rfl
        | some handler => exact hkept.event rfl (.inl rfl) rfl (.inl rfl)
      next => cases hstep
  | leave fiber =>
      simp only [machine, State.step] at hstep
      split at hstep
      next => cases hstep; exact hkept.quiet rfl rfl
      next => cases hstep
  | setUnhandledExceptionHandler handler =>
      cases hstep
      exact hkept.event rfl (.inl rfl) rfl (.inl rfl)
  | takeLastUnhandledException =>
      cases hstep
      exact hkept.event rfl (.inl rfl) rfl (.inr rfl)

end Steps

/-- Once its fiber is done, an exception has been reported to the handler of that moment, and
the handler has been called. -/
theorem Told.handled {state : State} {events : List Event} (htold : Told state events)
    {fiber : FiberId} {ending : Ending} (hdone : state.fibers fiber = .done ending) {exn : Exn}
    (hthrew : .threw fiber exn ∈ events) :
    ∃ handler, .reported fiber exn handler ∈ events ∧
      ∀ called, handler = some called → .handled fiber exn called ∈ events := by
  have hstory : ∀ {event : Event}, event.isOf fiber = true →
      (event ∈ events ↔ event ∈ ending.story fiber) := by
    intro event hown
    have hfiltered := htold.fibers fiber
    rw [hdone] at hfiltered
    rw [show ending.story fiber = _ from hfiltered.symm, List.mem_filter, and_iff_left hown]
  rw [hstory (by simp [Event.isOf])] at hthrew
  cases ending with
  | returned => cases hthrew
  | threw thrown handler =>
      obtain rfl : exn = thrown := by cases handler <;> simpa [Ending.story] using hthrew
      refine ⟨handler, (hstory (by simp [Event.isOf])).mpr ?_, fun called hcalled => ?_⟩
      · cases handler <;> simp [Ending.story]
      · subst hcalled
        exact (hstory (by simp [Event.isOf])).mpr (by simp [Ending.story])

/-- What is promised of the exceptions that leave the tasks of spawned fibers. -/
structure Reported (state : State) (events : List Event) : Prop where
  /-- A fiber throws, reports and calls the handler once, in this order. -/
  stories : ∀ fiber, events.filter (Event.isOf fiber) = (state.fibers fiber).story fiber
  counted : state.unhandledExceptionCount = events.countP Event.isReport
  /-- The handler called is the one that was set last when the exception was reported. -/
  handlers : ReadsLast Event.setsHandler Event.copiesHandler events
  /-- What is taken is the exception reported last, if it has not been taken before. -/
  taken : ReadsLast Event.setsLast Event.takesLast events
  /-- The counter counts the fibers that are not done, and the spawns whose construction threw
  for good. -/
  active : state.activeFibers = census state.fibers fun position => position.isCounted = true
  /-- A loop that finds no active fiber has had every exception reported and handled. -/
  idle : state.activeFibers = 0 → ∀ fiber exn, .threw fiber exn ∈ events →
    ∃ handler, .reported fiber exn handler ∈ events ∧
      ∀ called, handler = some called → .handled fiber exn called ∈ events

/-- In every interleaving of the fibers and of those who set handlers and take exceptions, each
exception that leaves a task is counted and handled once, by the handler of its moment,
before the loop can find its fiber gone. -/
theorem exceptions_reported (actions : List Action) (state : State)
    (hrun : machine.run actions initial = some state) : Reported state (history actions) := by
  have htold : Told state (history actions) :=
    Machine.run_trace (fun _ _ _ _ => step_told) actions initial state
      [Event.constructed] told_initial hrun
  have hkept : Kept state (history actions) :=
    Machine.run_trace (fun _ _ _ _ => step_kept) actions initial state
      [Event.constructed] kept_initial hrun
  refine ⟨htold.fibers, htold.count, hkept.copied, hkept.taken, htold.active.eq, ?_⟩
  intro hzero fiber exn hthrew
  have hinactive : (state.fibers fiber).isCounted = false := by
    by_contra hactive
    have hpos := htold.active.pos (Bool.not_eq_false _ ▸ hactive)
    omega
  cases hfiber : state.fibers fiber with
  | done ending => exact htold.handled hfiber hthrew
  | absent =>
      have hown : .threw fiber exn ∈ (history actions).filter (Event.isOf fiber) :=
        List.mem_filter.mpr ⟨hthrew, by simp [Event.isOf]⟩
      rw [htold.fibers fiber, hfiber] at hown
      cases hown
  | _ => simp [hfiber, Fiber.isCounted] at hinactive

/-- Two fibers throw. The handler is exchanged between the report of the first one and its
call, and each of the two handlers gets one exception. -/
def exchangedHandler : List Action :=
  [.spawn 1, .spawn 2, .finish 1 (some 7), .report 1, .setUnhandledExceptionHandler (some 3),
    .takeLastUnhandledException, .finish 2 (some 8), .report 2, .callHandler 2, .callHandler 1,
    .leave 1, .leave 2, .takeLastUnhandledException, .takeLastUnhandledException]

theorem exceptions_reported_exchangedHandler :
    ∃ state, machine.run exchangedHandler initial = some state ∧ state.activeFibers = 0 ∧
      history exchangedHandler = [.constructed, .threw 1 7, .reported 1 7 (some defaultHandler),
        .handlerSet (some 3), .taken (some 7), .threw 2 8, .reported 2 8 (some 3), .handled 2 8 3,
        .handled 1 7 defaultHandler, .taken (some 8), .taken none] ∧
      ∃ handler, .reported 1 7 handler ∈ history exchangedHandler ∧
        ∀ called, handler = some called → .handled 1 7 called ∈ history exchangedHandler :=
  ⟨_, rfl, rfl, rfl, (exceptions_reported exchangedHandler _ rfl).idle rfl 1 7 (by decide)⟩

end Fiberuv.EventLoop.Unhandled
