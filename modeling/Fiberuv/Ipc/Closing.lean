import Fiberuv.Foundation.Machine
import Fiberuv.Foundation.RequestLog
import Fiberuv.Ipc.Transfer

/-! # Closing a process channel under a call

The members of a `ProcessChannel`, any number of calls of `send_blob` and `recv_blob` on it,
and any number of calls of `close` and of the move assignment, which closes first. A step is
the code between two waits for a request.

`write_exact` and `read_exact` get the loop and the descriptor as arguments and keep them
for all their requests. `send_blob` and `recv_blob` read the members again when they go on
from the length field to the payload.

A descriptor is a number that the system has not given to two open files, here told apart
for ever; a negative one is none. What is moved into the channel belonged to another one.
-/

namespace Fiberuv.Ipc.Closing

open Foundation

abbrev CallId := Nat
abbrev CloserId := Nat
abbrev Fd := Int

/-- `loop_ != nullptr`, `read_fd_` and `write_fd_`. -/
structure Members where
  loop : Bool := false
  readFd : Fd := -1
  writeFd : Fd := -1

/-- A call in progress keeps the descriptor of its loop. Whether the members have been cleared
or replaced since it started is recorded for the statements only. -/
inductive Call where
  | idle
  | sending (payload : Payload) (part : Part) (offset : Nat) (fd : Fd) (overtaken : Bool)
  | receiving (state : RecvState) (fd : Fd) (overtaken : Bool)
  | sent (result : Except Error Bool) (overtaken : Bool)
  | received (result : Except Error (Option Bytes)) (overtaken : Bool)

/-- A call of `close`, or of the move assignment. -/
inductive Closer where
  | idle
  /-- `uv_fs_close` of the read descriptor is outstanding. -/
  | closingRead (assigns : Bool) (readFd writeFd : Fd)
  | closingWrite (assigns : Bool)
  | done

structure State where
  members : Members
  alive : Bool := true
  call : CallId → Call := fun _ => .idle
  closer : CloserId → Closer := fun _ => .idle
  /-- A null `loop_` was dereferenced. -/
  fault : Bool := false
  submitted : List (Submission Fd) := []
  /-- The descriptors that are or were members. -/
  owned : List Fd := []

/-- The results of `uv_fs_close`, and what the move assignment finds in the other channel
when it gets there. -/
structure Environment where
  readRc : Int
  writeRc : Int
  incoming : Members

inductive Action where
  | send (id : CallId) (payload : Payload)
  | wrote (id : CallId) (outcome : Outcome)
  | recv (id : CallId)
  | read (id : CallId) (bytes : Bytes) (outcome : Outcome) (allocates : Bool)
  | close (id : CloserId) (environment : Environment)
  | assign (id : CloserId) (environment : Environment)
  /-- The outstanding `uv_fs_close` has completed. -/
  | closed (id : CloserId) (environment : Environment)
  /-- `~EventLoop` clears the lifetime flag. -/
  | endLoop

/-- A call that is in progress is overtaken. -/
def Call.overtake : Call → Call
  | .sending payload part offset fd _ => .sending payload part offset fd true
  | .receiving state fd _ => .receiving state fd true
  | call => call

namespace State

def setCall (state : State) (id : CallId) (call : Call) : State :=
  { state with call := Function.update state.call id call }

def setCloser (state : State) (id : CloserId) (closer : Closer) : State :=
  { state with closer := Function.update state.closer id closer }

def submit (state : State) (submission : Submission Fd) : State :=
  { state with submitted := state.submitted ++ [submission] }

/-- The test at the start of `send_blob` and `recv_blob`. -/
def valid (state : State) : Bool :=
  state.alive && state.members.loop && !decide (state.members.readFd < 0) &&
    !decide (state.members.writeFd < 0)

/-- A write request of this call. -/
def submitWrite (state : State) (id : CallId) (payload : Payload) (part : Part) (offset : Nat)
    (fd : Fd) (overtaken : Bool) : State :=
  (state.submit (.transfer fd)).setCall id (.sending payload part offset fd overtaken)

def submitRead (state : State) (id : CallId) (recv : RecvState) (fd : Fd) (overtaken : Bool) :
    State :=
  (state.submit (.transfer fd)).setCall id (.receiving recv fd overtaken)

def send (state : State) (id : CallId) (payload : Payload) : State :=
  match sendBlob state.valid payload with
  | .writing part offset =>
      state.submitWrite id payload part offset state.members.writeFd false
  | .finished result => state.setCall id (.sent result false)

/-- `send_blob` when the request of its loop has completed. -/
def wrote (state : State) (id : CallId) (payload : Payload) (part : Part) (offset : Nat) (fd : Fd)
    (overtaken : Bool) (outcome : Outcome) : State :=
  match sendBlobNext payload part offset outcome with
  | .finished result => state.setCall id (.sent result overtaken)
  | .writing next nextOffset =>
      if next = part then state.submitWrite id payload next nextOffset fd overtaken
      -- The second `write_exact` is called with `*loop_` and `write_fd_`.
      else if !state.members.loop then { state with fault := true }
      else state.submitWrite id payload next nextOffset state.members.writeFd overtaken

def recv (state : State) (id : CallId) : State :=
  match recvBlob state.valid with
  | .finished result => state.setCall id (.received result false)
  | next => state.submitRead id next state.members.readFd false

/-- The two buffers of `recv_blob`. -/
def samePart : RecvState → RecvState → Bool
  | .length _, .length _ => true
  | .payload _ _, .payload _ _ => true
  | _, _ => false

/-- `recv_blob` from one of its states to the next one. -/
def proceed (state : State) (id : CallId) (before : RecvState) (fd : Fd) (overtaken : Bool) :
    RecvState → State
  | .finished result => state.setCall id (.received result overtaken)
  | next =>
      if samePart before next then state.submitRead id next fd overtaken
      -- The second `read_exact` is called with `*loop_` and `read_fd_`.
      else if !state.members.loop then { state with fault := true }
      else state.submitRead id next state.members.readFd overtaken

def read (state : State) (id : CallId) (before : RecvState) (fd : Fd) (overtaken : Bool)
    (bytes : Bytes) (outcome : Outcome) (allocates : Bool) : State :=
  state.proceed id before fd overtaken (recvBlobNext (fun _ => allocates) bytes outcome before)

/-- The end of `close`, and the rest of the move assignment. -/
def finishClose (state : State) (id : CloserId) (assigns : Bool) (incoming : Members) : State :=
  if assigns then
    { state with
      members := incoming
      call := fun id => (state.call id).overtake
      owned := state.owned ++ [incoming.readFd, incoming.writeFd] }.setCloser id .done
  else state.setCloser id .done

/-- `close_fd_best_effort` of the write descriptor, unless it is the read descriptor. -/
def closeWrite (state : State) (id : CloserId) (assigns : Bool) (readFd writeFd : Fd)
    (environment : Environment) : State :=
  if 0 ≤ writeFd ∧ writeFd ≠ readFd ∧ 0 ≤ environment.writeRc then
    (state.submit (.close writeFd)).setCloser id (.closingWrite assigns)
  else state.finishClose id assigns environment.incoming

def closeRead (state : State) (id : CloserId) (assigns : Bool) (readFd writeFd : Fd)
    (environment : Environment) : State :=
  if 0 ≤ readFd ∧ 0 ≤ environment.readRc then
    (state.submit (.close readFd)).setCloser id (.closingRead assigns readFd writeFd)
  else state.closeWrite id assigns readFd writeFd environment

/-- `close_fd_with_temp_loop`, which runs a loop of its own to the end. -/
def closeNow (state : State) (fd : Fd) (rc : Int) : State :=
  if 0 ≤ fd ∧ 0 ≤ rc then state.submit (.close fd) else state

def closeBothNow (state : State) (readFd writeFd : Fd) (environment : Environment) : State :=
  let state := state.closeNow readFd environment.readRc
  if writeFd ≠ readFd then state.closeNow writeFd environment.writeRc else state

/-- The first part of `close`: the members are cleared before anything else. -/
def close (state : State) (id : CloserId) (assigns : Bool) (environment : Environment) : State :=
  let members := state.members
  let cleared := { state with
    members := {}
    call := fun id => (state.call id).overtake }
  if members.loop && state.alive then
    cleared.closeRead id assigns members.readFd members.writeFd environment
  else
    (cleared.closeBothNow members.readFd members.writeFd environment).finishClose id assigns
      environment.incoming

/-- The bytes and the result of a read request belong together. -/
def consistent (bytes : Bytes) (outcome : Outcome) : Bool :=
  match outcome with
  | .notStarted _ => bytes.isEmpty
  | .result value => if 0 < value then bytes.length == value.toNat else bytes.isEmpty

/-- What another channel owns is not a descriptor of this one. -/
def foreign (state : State) (incoming : Members) : Bool :=
  (decide (incoming.readFd < 0) || !decide (incoming.readFd ∈ state.owned)) &&
    (decide (incoming.writeFd < 0) || !decide (incoming.writeFd ∈ state.owned))

def step (state : State) (action : Action) : Option State :=
  if state.fault then none
  else match action with
    | .send id payload =>
        match state.call id with
        | .idle => some (state.send id payload)
        | _ => none
    | .wrote id outcome =>
        match state.call id with
        | .sending payload part offset fd overtaken =>
            some (state.wrote id payload part offset fd overtaken outcome)
        | _ => none
    | .recv id =>
        match state.call id with
        | .idle => some (state.recv id)
        | _ => none
    | .read id bytes outcome allocates =>
        match state.call id with
        | .receiving before fd overtaken =>
            if consistent bytes outcome then
              some (state.read id before fd overtaken bytes outcome allocates)
            else none
        | _ => none
    | .close id environment =>
        match state.closer id with
        | .idle => some (state.close id false environment)
        | _ => none
    | .assign id environment =>
        match state.closer id with
        | .idle =>
            if state.foreign environment.incoming then some (state.close id true environment)
            else none
        | _ => none
    | .closed id environment =>
        if state.foreign environment.incoming then
          match state.closer id with
          | .closingRead assigns readFd writeFd =>
              some (state.closeWrite id assigns readFd writeFd environment)
          | .closingWrite assigns => some (state.finishClose id assigns environment.incoming)
          | _ => none
        else none
    | .endLoop => some { state with alive := false }

end State

def machine : Machine State Action where
  step := State.step

/-- A channel with these members. -/
def initial (members : Members) : State where
  members := members
  owned := [members.readFd, members.writeFd]

end Fiberuv.Ipc.Closing
