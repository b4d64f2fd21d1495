import Fiberuv.EventLoop.HeapState
import Fiberuv.Foundation.Agenda

/-! # Sleeping

`sleep_for` on the fibers of one loop. A call starts a timer and waits for its promise;
the callback of the timer sets the promise and closes the timer, and the close callback
deletes the state. Timers are relative to the time the loop has cached, which lags behind
the clock until libuv updates it. A promise that is set makes the fiber that waits for it
ready.

Which of its timers libuv fires, and when, and which of the ready fibers the scheduler
resumes, is said by the labels. Times are in milliseconds. The sum of the cached time and a
delay fits the 64 bits of libuv.
-/

namespace Fiberuv.EventLoop.Sleep

open Foundation
open HeapState

abbrev SleepId := Nat

structure SleepState where
  timer : Handle := .raw
  deriving DecidableEq

/-- A call of `sleep_for`. -/
abbrev Sleeper := Call SleepState Unit

/-- The result codes of `uv_timer_init` and `uv_timer_start`. -/
structure Codes where
  init : Int
  start : Int

/-- The error `sleep_for` throws before it waits. -/
def Codes.refusal (codes : Codes) : Option Error :=
  if codes.init < 0 then some (.uv "uv_timer_init" codes.init)
  else if codes.start < 0 then some (.uv "uv_timer_start" codes.start)
  else none

/-- A negative delay counts as zero. -/
def timeout (delay : Int) : Nat := if delay < 0 then 0 else delay.toNat

namespace Sleeper

def closeTimer (call : Sleeper) : Sleeper :=
  match call.fields.timer.uvClose with
  | .ok timer => { call with fields := { timer := timer } }
  | .error fault => call.fail fault

/-- `sleep_for` up to its wait. -/
def sleepFor (call : Sleeper) (codes : Codes) : Sleeper :=
  let created : Sleeper := { call with memory := .live }
  if codes.init < 0 then
    { created.delete with caller := .refused (.uv "uv_timer_init" codes.init) }
  else
    let opened : Sleeper := { created with fields := { timer := .idle } }
    if codes.start < 0 then
      { closeTimer opened with caller := .refused (.uv "uv_timer_start" codes.start) }
    else
      { opened with
        caller := .waiting
        fields := { timer := .active } }

/-- `on_sleep_timer`; libuv has stopped the timer before it calls back. -/
def onSleepTimer (call : Sleeper) : Sleeper :=
  let settled : Sleeper := call.settle (.ok ())
  closeTimer { settled with fields := { timer := settled.fields.timer.stop } }

def timerClosed (call : Sleeper) (callback : Bool) : Sleeper :=
  let closed : Sleeper := { call with fields := { timer := .closed } }
  if callback then closed.callback Call.delete else closed

def walk (call : Sleeper) : Sleeper :=
  { call with fields := { timer := call.fields.timer.walk } }

end Sleeper

structure State where
  /-- The clock, which is not before the time the loop has cached. -/
  now : Nat := 0
  /-- The timers of the loop and its cached time. -/
  timers : Agenda SleepId := {}
  sleepers : SleepId → Sleeper := fun _ => { fields := {} }
  /-- The fibers that can be resumed, in the order in which they became ready. -/
  ready : List SleepId := []
  /-- The calls that have returned, in that order; recorded and read by no step. -/
  returned : List SleepId := []
  /-- The timers that the walk has closed; recorded as well. -/
  abandoned : List (Entry SleepId) := []

inductive Action where
  /-- Time passes. -/
  | elapse (duration : Nat)
  /-- `uv_update_time`. -/
  | updateTime
  | sleepFor (id : SleepId) (delay : Int) (codes : Codes)
  /-- libuv calls back for this timer. -/
  | expire (timer : Entry SleepId)
  | timerClosed (id : SleepId)
  /-- The scheduler resumes a ready fiber. -/
  | resume (id : SleepId)
  /-- `uv_walk` in `~EventLoop`. -/
  | walk

namespace State

def setSleeper (state : State) (id : SleepId) (call : Sleeper) : State :=
  { state with sleepers := Function.update state.sleepers id call }

/-- `sleep_for`, with the timer it starts unless it is refused. -/
def sleepFor (state : State) (id : SleepId) (delay : Int) (codes : Codes) : State :=
  { state with
    timers := if codes.refusal = none then state.timers.add (timeout delay) id
      else state.timers }.setSleeper id (Sleeper.sleepFor (state.sleepers id) codes)

/-- A callback that reaches the state of the call. A fiber whose promise it sets becomes
ready. -/
def callback (state : State) (id : SleepId) (body : Sleeper → Sleeper) : State :=
  let before : Sleeper := state.sleepers id
  let after : Sleeper := before.callback body
  { state with
    ready := if before.promise.isNone ∧ after.promise.isSome ∧ after.caller = Caller.waiting then
      state.ready ++ [id] else state.ready }.setSleeper id after

def walk (state : State) : State :=
  { state with
    timers := state.timers.clear
    abandoned := state.abandoned ++ state.timers.pending
    sleepers := fun id => Sleeper.walk (state.sleepers id) }

def step (state : State) : Action → Option State
  | .elapse duration => some { state with now := state.now + duration }
  | .updateTime => some { state with timers := state.timers.advance state.now }
  | .sleepFor id delay codes =>
      if (state.sleepers id).caller = .idle then some (state.sleepFor id delay codes) else none
  | .expire timer =>
      if timer ∈ state.timers.pending then
        some ({ state with timers := state.timers.fire timer }.callback timer.item
          Sleeper.onSleepTimer)
      else none
  | .timerClosed id =>
      match (state.sleepers id).fields.timer with
      | .closing callback =>
          some (state.setSleeper id (Sleeper.timerClosed (state.sleepers id) callback))
      | _ => none
  | .resume id =>
      if id ∈ state.ready then
        (state.sleepers id).resume.map fun call =>
          { state with
            ready := state.ready.erase id
            returned := state.returned ++ [id] }.setSleeper id call
      else none
  | .walk => some state.walk

end State

/-- Any number of sleeping fibers on one loop. -/
def machine : Machine State Action where
  step := State.step

def initial : State := {}

end Fiberuv.EventLoop.Sleep
