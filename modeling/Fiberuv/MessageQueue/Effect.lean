import Fiberuv.MessageQueue.Model

/-! # What one step of the queue can do

`step_effect` inverts the step function once: each constructor of `Effect` is one
branch of the source, with the position of the acting call and the tests that led
to it. Every later invariant is a case analysis over these branches.
-/

namespace Fiberuv.MessageQueue

variable {α : Type}

namespace State

@[simp] theorem become_calls (state : State α) (call other : CallId) (position : Call α) :
    (state.become call position).calls other =
      if other = call then position else state.calls other := by
  simp [become, Function.update_apply]

theorem become_calls_self (state : State α) (call : CallId) (position : Call α) :
    (state.become call position).calls call = position := by
  rw [become_calls, if_pos rfl]

theorem become_calls_of_ne {call other : CallId} (hne : other ≠ call) (state : State α)
    (position : Call α) : (state.become call position).calls other = state.calls other := by
  rw [become_calls, if_neg hne]

@[simp] theorem become_queue (state : State α) (call : CallId) (position : Call α) :
    (state.become call position).queue = state.queue := rfl

@[simp] theorem become_closed (state : State α) (call : CallId) (position : Call α) :
    (state.become call position).closed = state.closed := rfl

@[simp] theorem become_fiberWaiters (state : State α) (call : CallId) (position : Call α) :
    (state.become call position).fiberWaiters = state.fiberWaiters := rfl

@[simp] theorem become_promise (state : State α) (call : CallId) (position : Call α) :
    (state.become call position).promise = state.promise := rfl

@[simp] theorem become_accepted (state : State α) (call : CallId) (position : Call α) :
    (state.become call position).accepted = state.accepted := rfl

@[simp] theorem become_assigned (state : State α) (call : CallId) (position : Call α) :
    (state.become call position).assigned = state.assigned := rfl

@[simp] theorem fulfil_promise (state : State α) (waiter other : CallId)
    (result : Option (Message α)) :
    (state.fulfil waiter result).promise other =
      if other = waiter then some result else state.promise other := by
  simp [fulfil, Function.update_apply]

@[simp] theorem fulfil_calls (state : State α) (waiter : CallId) (result : Option (Message α)) :
    (state.fulfil waiter result).calls = state.calls := rfl

/-- A notification changes nothing but the set of parked threads. -/
theorem notifyOne_parked {state notified : State α} {woken : Option CallId}
    (hnotify : state.notifyOne woken = some notified) :
    ∃ parked, notified = { state with parked := parked } := by
  cases woken with
  | none =>
      simp only [notifyOne, Option.ite_none_right_eq_some, Option.some.injEq] at hnotify
      exact ⟨state.parked, hnotify.2.symm⟩
  | some woken =>
      simp only [notifyOne, Option.ite_none_right_eq_some, Option.some.injEq] at hnotify
      exact ⟨state.parked.erase woken, hnotify.2.symm⟩

end State

/-- A receive call enters its critical section: for the first time, or again after
it was parked on `recv_cv_`. -/
inductive Enters (state : State α) (call : CallId) : State α → Prop where
  | start (hidle : state.calls call = .idle) : Enters state call state
  | again (timed : Bool) (hblocked : state.calls call = .blocked timed) :
      Enters state call (state.unpark call)

/-- The branches of the step function. -/
inductive Effect (state : State α) : Action α → State α → Prop where
  | refuse {call value woken} (hidle : state.calls call = .idle) (hclosed : state.closed = true) :
      Effect state (.send call value woken) (state.become call (.sent ⟨call, value⟩ false))
  | bind {call value woken waiter rest} (hidle : state.calls call = .idle)
      (hopen : state.closed = false) (hwaiters : state.fiberWaiters = waiter :: rest) :
      Effect state (.send call value woken)
        ((state.bindWaiter waiter rest ⟨call, value⟩).become call
          (.handingOff ⟨call, value⟩ waiter))
  | enqueue {call value woken notified} (hidle : state.calls call = .idle)
      (hopen : state.closed = false) (hwaiters : state.fiberWaiters = [])
      (hnotify : (state.pushBack ⟨call, value⟩).notifyOne woken = some notified) :
      Effect state (.send call value woken) (notified.become call (.sent ⟨call, value⟩ true))
  | fulfil {call message waiter} (hhand : state.calls call = .handingOff message waiter)
      (hunset : state.promise waiter = none) :
      Effect state (.sendSetValue call)
        ((state.fulfil waiter (some message)).become call (.sent message true))
  | satisfied {call message waiter result} (hhand : state.calls call = .handingOff message waiter)
      (hset : state.promise waiter = some result) :
      Effect state (.sendSetValue call) (state.become call (.sendThrew message))
  | take {action call base front rest} (henter : Enters state call base)
      (hqueue : state.queue = front :: rest) :
      Effect state action (base.popFrontUnlocked call front rest)
  | empty {action call base} (henter : Enters state call base) (hqueue : state.queue = []) :
      Effect state action (base.become call (.received none))
  | register {action call} (waiting : Call α) (hidle : state.calls call = .idle)
      (hwaiting : waiting = .recvWaiting ∨ waiting = .recvForWaiting)
      (hqueue : state.queue = []) (hopen : state.closed = false) :
      Effect state action
        ({ state with fiberWaiters := state.fiberWaiters ++ [call] }.become call waiting)
  | park {action call base} (timed : Bool) (henter : Enters state call base)
      (hqueue : state.queue = []) (hopen : state.closed = false) :
      Effect state action
        ({ base with parked := base.parked ++ [call] }.become call (.blocked timed))
  | ready {action call result} (hawaits : (state.calls call).awaits = true)
      (hset : state.promise call = some result) :
      Effect state action (state.become call (.received result))
  | expire {action call} (hwaiting : state.calls call = .recvForWaiting)
      (hunset : state.promise call = none) :
      Effect state action (state.become call .recvForExpired)
  | withdraw {action call} (hexpired : state.calls call = .recvForExpired)
      (hmem : call ∈ state.fiberWaiters) :
      Effect state action
        ({ state with fiberWaiters := state.fiberWaiters.erase call }.become call
          (.received none))
  | missing {action call} (hexpired : state.calls call = .recvForExpired)
      (hmem : call ∉ state.fiberWaiters) :
      Effect state action (state.become call .recvForRechecking)
  | abandon {call} (hrecheck : state.calls call = .recvForRechecking)
      (hunset : state.promise call = none) :
      Effect state (.recvForZeroWait call) (state.become call (.received none))
  | closeAgain {action call} (hidle : state.calls call = .idle) (hclosed : state.closed = true) :
      Effect state action (state.become call .closeDone)
  | beginClose {action call} (hidle : state.calls call = .idle) (hopen : state.closed = false) :
      Effect state action
        ({ state with closed := true, fiberWaiters := [] }.become call
          (.closing false state.fiberWaiters))
  | notifyAll {action call waiters} (hclosing : state.calls call = .closing false waiters) :
      Effect state action ({ state with parked := [] }.become call (.closing true waiters))
  | release {action call waiter rest}
      (hclosing : state.calls call = .closing true (waiter :: rest))
      (hunset : state.promise waiter = none) :
      Effect state action
        ((state.fulfil waiter none).become call (.closing true rest))
  | terminate {action call waiter rest result}
      (hclosing : state.calls call = .closing true (waiter :: rest))
      (hset : state.promise waiter = some result) :
      Effect state action { state with terminated := true }
  | closeReturn {action call} (hclosing : state.calls call = .closing true []) :
      Effect state action (state.become call .closeDone)

/-! ## One lemma per function of the source -/

theorem sendPayload_effect {state next : State α} {call : CallId} {value : α}
    {woken : Option CallId} (hidle : state.calls call = .idle)
    (hsend : state.sendPayload call value woken = some next) :
    Effect state (.send call value woken) next := by
  unfold State.sendPayload at hsend
  split at hsend
  next hclosed =>
    cases hsend
    exact .refuse hidle hclosed
  next hopen =>
    rw [Bool.not_eq_true] at hopen
    split at hsend
    next waiter rest hwaiters =>
      cases hsend
      exact .bind hidle hopen hwaiters
    next hwaiters =>
      obtain ⟨notified, hnotify, rfl⟩ := Option.map_eq_some_iff.mp hsend
      exact .enqueue hidle hopen hwaiters hnotify

theorem sendSetValue_effect (state : State α) {call waiter : CallId} {message : Message α}
    (hhand : state.calls call = .handingOff message waiter) :
    Effect state (.sendSetValue call) (state.sendSetValue call message waiter) := by
  unfold State.sendSetValue
  split
  next hunset => exact .fulfil hhand hunset
  next result hset => exact .satisfied hhand hset

theorem takeOrRegister_effect (state : State α) (action : Action α) {call : CallId}
    (waiting : Call α) (hidle : state.calls call = .idle)
    (hwaiting : waiting = .recvWaiting ∨ waiting = .recvForWaiting) :
    Effect state action (state.takeOrRegister call waiting) := by
  unfold State.takeOrRegister
  split
  next front rest hqueue => exact .take (.start hidle) hqueue
  next hqueue =>
    split
    next => exact .empty (.start hidle) hqueue
    next hopen => exact .register waiting hidle hwaiting hqueue (Bool.not_eq_true _ ▸ hopen)

/-- Entering changes nothing but the set of parked threads. -/
theorem Enters.parked {state base : State α} {call : CallId} (henter : Enters state call base) :
    ∃ parked, base = { state with parked := parked } := by
  cases henter with
  | start hidle => exact ⟨state.parked, rfl⟩
  | again timed hblocked => exact ⟨(state.unpark call).parked, rfl⟩

theorem Enters.queue {state base : State α} {call : CallId} (henter : Enters state call base) :
    base.queue = state.queue := by
  obtain ⟨parked, rfl⟩ := henter.parked
  rfl

theorem Enters.closed {state base : State α} {call : CallId} (henter : Enters state call base) :
    base.closed = state.closed := by
  obtain ⟨parked, rfl⟩ := henter.parked
  rfl

theorem takeOrPark_effect {state base : State α} (action : Action α) {call : CallId}
    (timed : Bool) (henter : Enters state call base) :
    Effect state action (base.takeOrPark call timed) := by
  unfold State.takeOrPark
  split
  next front rest hqueue => exact .take henter (henter.queue ▸ hqueue)
  next hqueue =>
    rw [henter.queue] at hqueue
    split
    next => exact .empty henter hqueue
    next hopen =>
      rw [henter.closed, Bool.not_eq_true] at hopen
      exact .park timed henter hqueue hopen

theorem takeOrNull_effect {state base : State α} (action : Action α) {call : CallId}
    (henter : Enters state call base) : Effect state action (base.takeOrNull call) := by
  unfold State.takeOrNull
  split
  next front rest hqueue => exact .take henter (henter.queue ▸ hqueue)
  next hqueue => exact .empty henter (henter.queue ▸ hqueue)

theorem recvForLookup_effect (state : State α) (action : Action α) {call : CallId}
    (hexpired : state.calls call = .recvForExpired) :
    Effect state action (state.recvForLookup call) := by
  unfold State.recvForLookup
  split
  next hmem => exact .withdraw hexpired hmem
  next hmem => exact .missing hexpired hmem

theorem close_effect (state : State α) (action : Action α) {call : CallId}
    (hidle : state.calls call = .idle) : Effect state action (state.close call) := by
  unfold State.close
  split
  next hclosed => exact .closeAgain hidle hclosed
  next hopen => exact .beginClose hidle (Bool.not_eq_true _ ▸ hopen)

theorem closeSetValue_effect (state : State α) (action : Action α) {call : CallId}
    {waiters : List CallId} (hclosing : state.calls call = .closing true waiters) :
    Effect state action (state.closeSetValue call waiters) := by
  cases waiters with
  | nil => exact .closeReturn hclosing
  | cons waiter rest =>
      unfold State.closeSetValue
      dsimp only
      split
      next hunset => exact .release hclosing hunset
      next result hset => exact .terminate hclosing hset

/-- Every step of the machine is one of the listed branches. -/
theorem step_effect {state next : State α} {action : Action α}
    (hstep : state.step action = some next) : Effect state action next := by
  unfold State.step at hstep
  split at hstep
  · cases hstep
  split at hstep
  all_goals rename_i hcall
  case h_1 => exact sendPayload_effect hcall hstep
  case h_2 => cases hstep; exact sendSetValue_effect state hcall
  case h_3 => cases hstep; exact takeOrRegister_effect state _ _ hcall (.inl rfl)
  case h_4 =>
    obtain ⟨result, hset, rfl⟩ := Option.map_eq_some_iff.mp hstep
    exact .ready (hcall ▸ rfl) hset
  case h_5 => cases hstep; exact takeOrRegister_effect state _ _ hcall (.inr rfl)
  case h_6 =>
    cases hstep
    split
    next result hset => exact .ready (hcall ▸ rfl) hset
    next hunset => exact .expire hcall hunset
  case h_7 => cases hstep; exact recvForLookup_effect state _ hcall
  case h_8 call =>
    cases hstep
    cases hpromise : state.promise call with
    | none => exact .abandon hcall hpromise
    | some result => exact .ready (hcall ▸ rfl) hpromise
  case h_9 => cases hstep; exact takeOrPark_effect _ _ (.start hcall)
  case h_10 => cases hstep; exact takeOrPark_effect _ _ (.start hcall)
  case h_11 timed => cases hstep; exact takeOrPark_effect _ _ (.again timed hcall)
  case h_12 => cases hstep; exact takeOrNull_effect _ (.again true hcall)
  case h_13 => cases hstep; exact takeOrNull_effect _ (.start hcall)
  case h_14 => cases hstep; exact close_effect state _ hcall
  case h_15 => cases hstep; exact .notifyAll hcall
  case h_16 => cases hstep; exact closeSetValue_effect state _ hcall
  case h_17 => cases hstep

end Fiberuv.MessageQueue
