import Fiberuv.EventLoop.HeapState
import Fiberuv.Foundation.Decision

/-! # Waiting for a descriptor

`wait_fd` and `wait_fd_for`, on the loop. The first waits for one poll event; the second
for a poll event or the end of its time, whichever comes first. Either allocates a state
with its handles, starts them and waits for a promise that a callback sets. The callback
that decides also closes the handles, and the close callbacks delete the state.

One step is one call up to its wait, one callback, one resumption of a fiber, or the walk
of `~EventLoop` over the handles of the loop. The labels carry the result codes of libuv
and the status of the poll events. The descriptor, the event mask and the time limit only
reach libuv and are left out.
-/

namespace Fiberuv.Io.PollWait

open Foundation
open EventLoop.HeapState

abbrev CallId := Nat

structure PollWaitState where
  poll : Handle := .raw
  completed : Bool := false
  deriving DecidableEq

structure PollWaitForState where
  poll : Handle := .raw
  timer : Handle := .raw
  completed : Bool := false
  pendingClose : Nat := 0
  deriving DecidableEq

/-- A call of `wait_fd`. -/
abbrev Wait := Call PollWaitState Unit

/-- A call of `wait_fd_for`. -/
abbrev WaitFor := Call PollWaitForState Bool

/-- The result codes of the libuv calls of `wait_fd`, in their order. -/
structure Codes where
  initPoll : Int
  startPoll : Int

/-- Those of `wait_fd_for`. -/
structure CodesFor where
  initPoll : Int
  initTimer : Int
  startPoll : Int
  startTimer : Int

/-- The error `wait_fd` throws before it waits. -/
def Codes.refusal (codes : Codes) : Option Error :=
  if codes.initPoll < 0 then some (.uv "uv_poll_init_socket" codes.initPoll)
  else if codes.startPoll < 0 then some (.uv "uv_poll_start" codes.startPoll)
  else none

/-- The error `wait_fd_for` throws before it waits. -/
def CodesFor.refusal (codes : CodesFor) : Option Error :=
  if codes.initPoll < 0 then some (.uv "uv_poll_init_socket" codes.initPoll)
  else if codes.initTimer < 0 then some (.uv "uv_timer_init" codes.initTimer)
  else if codes.startPoll < 0 then some (.uv "uv_poll_start" codes.startPoll)
  else if codes.startTimer < 0 then some (.uv "uv_timer_start" codes.startTimer)
  else none

namespace Wait

/-- `uv_close` of the poll handle. -/
def closePoll (call : Wait) : Wait :=
  match call.fields.poll.uvClose with
  | .ok poll => { call with fields := { call.fields with poll := poll } }
  | .error fault => call.fail fault

/-- `wait_fd` up to its wait. -/
def waitFd (call : Wait) (codes : Codes) : Wait :=
  let created : Wait := { call with memory := .live }
  if codes.initPoll < 0 then
    { created.delete with caller := .refused (.uv "uv_poll_init_socket" codes.initPoll) }
  else
    let opened : Wait := { created with fields := { created.fields with poll := .idle } }
    if codes.startPoll < 0 then
      { closePoll opened with caller := .refused (.uv "uv_poll_start" codes.startPoll) }
    else
      { opened with
        caller := .waiting
        fields := { opened.fields with poll := .active } }

/-- What `on_poll_event` reports for a status. -/
def eventResult (status : Int) : Except Error Unit :=
  if status < 0 then .error (.uv "uv_poll_start" status) else .ok ()

/-- `on_poll_event`. -/
def onPollEvent (call : Wait) (status : Int) : Wait :=
  if call.fields.completed then call
  else
    let marked : Wait := { call with fields := { call.fields with completed := true } }
    let settled : Wait := marked.settle (eventResult status)
    closePoll { settled with fields := { settled.fields with poll := settled.fields.poll.stop } }

/-- libuv closes the poll handle and calls `on_poll_closed`. -/
def pollClosed (call : Wait) (callback : Bool) : Wait :=
  let closed : Wait := { call with fields := { call.fields with poll := .closed } }
  if callback then closed.callback Call.delete else closed

def walk (call : Wait) : Wait :=
  { call with fields := { call.fields with poll := call.fields.poll.walk } }

end Wait

namespace WaitFor

def closePoll (call : WaitFor) : WaitFor :=
  match call.fields.poll.uvClose with
  | .ok poll => { call with fields := { call.fields with poll := poll } }
  | .error fault => call.fail fault

def closeTimer (call : WaitFor) : WaitFor :=
  match call.fields.timer.uvClose with
  | .ok timer => { call with fields := { call.fields with timer := timer } }
  | .error fault => call.fail fault

def countClose (call : WaitFor) : WaitFor :=
  { call with fields := { call.fields with pendingClose := call.fields.pendingClose + 1 } }

/-- `close_poll_wait_for_handles`. -/
def closePollWaitForHandles (call : WaitFor) : WaitFor :=
  let reset : WaitFor := { call with fields := { call.fields with pendingClose := 0 } }
  let first : WaitFor :=
    if reset.fields.poll.isClosing then reset else closePoll (countClose reset)
  let second : WaitFor :=
    if first.fields.timer.isClosing then first else closeTimer (countClose first)
  if second.fields.pendingClose = 0 then second.delete else second

/-- `finish_poll_wait_for`. -/
def finishPollWaitFor (call : WaitFor) (result : Except Error Bool) : WaitFor :=
  if call.fields.completed then call
  else
    let marked : WaitFor := { call with fields := { call.fields with completed := true } }
    let settled : WaitFor := marked.settle result
    closePollWaitForHandles
      { settled with
        fields := { settled.fields with
          poll := settled.fields.poll.stop
          timer := settled.fields.timer.stop } }

/-- What `on_poll_event_for` reports for a status. -/
def eventResult (status : Int) : Except Error Bool :=
  if status < 0 then .error (.uv "uv_poll_start" status) else .ok true

/-- `on_poll_event_for`. -/
def onPollEventFor (call : WaitFor) (status : Int) : WaitFor :=
  call.callback fun call => finishPollWaitFor call (eventResult status)

/-- `on_poll_timeout_for`; libuv has stopped the timer before it calls back. -/
def onPollTimeoutFor (call : WaitFor) : WaitFor :=
  let stopped : WaitFor :=
    { call with fields := { call.fields with timer := call.fields.timer.stop } }
  stopped.callback fun call => finishPollWaitFor call (.ok false)

/-- `on_poll_wait_for_closed`. -/
def onPollWaitForClosed (call : WaitFor) : WaitFor :=
  let counted : WaitFor :=
    if 0 < call.fields.pendingClose then
      { call with fields := { call.fields with pendingClose := call.fields.pendingClose - 1 } }
    else call
  if counted.fields.pendingClose = 0 then counted.delete else counted

def pollClosed (call : WaitFor) (callback : Bool) : WaitFor :=
  let closed : WaitFor := { call with fields := { call.fields with poll := .closed } }
  if callback then closed.callback onPollWaitForClosed else closed

def timerClosed (call : WaitFor) (callback : Bool) : WaitFor :=
  let closed : WaitFor := { call with fields := { call.fields with timer := .closed } }
  if callback then closed.callback onPollWaitForClosed else closed

/-- `wait_fd_for` up to its wait. -/
def waitFdFor (call : WaitFor) (codes : CodesFor) : WaitFor :=
  let created : WaitFor := { call with memory := .live }
  if codes.initPoll < 0 then
    { created.delete with caller := .refused (.uv "uv_poll_init_socket" codes.initPoll) }
  else
    let opened : WaitFor := { created with fields := { created.fields with poll := .idle } }
    if codes.initTimer < 0 then
      -- The timer is closed along with the poll handle although libuv does not know it.
      { closePollWaitForHandles opened with
        caller := .refused (.uv "uv_timer_init" codes.initTimer) }
    else
      let timed : WaitFor := { opened with fields := { opened.fields with timer := .idle } }
      if codes.startPoll < 0 then
        { closePollWaitForHandles timed with
          caller := .refused (.uv "uv_poll_start" codes.startPoll) }
      else
        let polling : WaitFor := { timed with fields := { timed.fields with poll := .active } }
        if codes.startTimer < 0 then
          let stopped : WaitFor :=
            { polling with fields := { polling.fields with poll := polling.fields.poll.stop } }
          { closePollWaitForHandles stopped with
            caller := .refused (.uv "uv_timer_start" codes.startTimer) }
        else
          { polling with
            caller := .waiting
            fields := { polling.fields with timer := .active } }

def walk (call : WaitFor) : WaitFor :=
  { call with
    fields := { call.fields with
      poll := call.fields.poll.walk
      timer := call.fields.timer.walk } }

end WaitFor

structure State where
  waits : CallId → Wait := fun _ => { fields := {} }
  timedWaits : CallId → WaitFor := fun _ => { fields := {} }

inductive Action where
  | waitFd (id : CallId) (codes : Codes)
  | pollEvent (id : CallId) (status : Int)
  | pollClosed (id : CallId)
  | resume (id : CallId)
  | waitFdFor (id : CallId) (codes : CodesFor)
  | pollEventFor (id : CallId) (status : Int)
  | pollTimeoutFor (id : CallId)
  | pollClosedFor (id : CallId)
  | timerClosedFor (id : CallId)
  | resumeFor (id : CallId)
  /-- `uv_walk` in `~EventLoop`. -/
  | walk

/-- The call of `wait_fd` that the step is a step of. -/
def Action.waitId : Action → Option CallId
  | .waitFd id _ | .pollEvent id _ | .pollClosed id | .resume id => some id
  | _ => none

/-- The call of `wait_fd_for` that the step is a step of. -/
def Action.timedWaitId : Action → Option CallId
  | .waitFdFor id _ | .pollEventFor id _ | .pollTimeoutFor id => some id
  | .pollClosedFor id | .timerClosedFor id | .resumeFor id => some id
  | _ => none

namespace State

def setWait (state : State) (id : CallId) (call : Wait) : State :=
  { state with waits := Function.update state.waits id call }

def setTimedWait (state : State) (id : CallId) (call : WaitFor) : State :=
  { state with timedWaits := Function.update state.timedWaits id call }

def stepWait (state : State) : Action → Option State
  | .waitFd id codes =>
      if (state.waits id).caller = .idle then
        some (state.setWait id (Wait.waitFd (state.waits id) codes))
      else none
  | .pollEvent id status =>
      if (state.waits id).fields.poll = .active then
        some (state.setWait id
          ((state.waits id).callback fun call => Wait.onPollEvent call status))
      else none
  | .pollClosed id =>
      match (state.waits id).fields.poll with
      | .closing callback => some (state.setWait id (Wait.pollClosed (state.waits id) callback))
      | _ => none
  | .resume id => (state.waits id).resume.map (state.setWait id)
  | _ => none

/-- After a fault nothing happens to the call any more. -/
def stepTimedWait (state : State) : Action → Option State
  | .waitFdFor id codes =>
      if (state.timedWaits id).caller = .idle then
        some (state.setTimedWait id (WaitFor.waitFdFor (state.timedWaits id) codes))
      else none
  | .pollEventFor id status =>
      if (state.timedWaits id).fields.poll = .active then
        some (state.setTimedWait id (WaitFor.onPollEventFor (state.timedWaits id) status))
      else none
  | .pollTimeoutFor id =>
      if (state.timedWaits id).fields.timer = .active then
        some (state.setTimedWait id (WaitFor.onPollTimeoutFor (state.timedWaits id)))
      else none
  | .pollClosedFor id =>
      match (state.timedWaits id).fault, (state.timedWaits id).fields.poll with
      | none, .closing callback =>
          some (state.setTimedWait id (WaitFor.pollClosed (state.timedWaits id) callback))
      | _, _ => none
  | .timerClosedFor id =>
      match (state.timedWaits id).fault, (state.timedWaits id).fields.timer with
      | none, .closing callback =>
          some (state.setTimedWait id (WaitFor.timerClosed (state.timedWaits id) callback))
      | _, _ => none
  | .resumeFor id => (state.timedWaits id).resume.map (state.setTimedWait id)
  | _ => none

def walk (state : State) : State where
  waits := fun id => Wait.walk (state.waits id)
  timedWaits := fun id => WaitFor.walk (state.timedWaits id)

def step (state : State) (action : Action) : Option State :=
  match action with
  | .waitFd _ _ | .pollEvent _ _ | .pollClosed _ | .resume _ => state.stepWait action
  | .walk => some state.walk
  | _ => state.stepTimedWait action

end State

/-- Any number of waits on one loop. -/
def machine : Machine State Action where
  step := State.step

def initial : State := {}

end Fiberuv.Io.PollWait
