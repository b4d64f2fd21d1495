import Fiberuv.Foundation.Machine
import Fiberuv.Foundation.Tenure
import Fiberuv.Uv

/-! # Process channels as owners of descriptors

The objects of `ProcessChannel` and the event loops they refer to, and the operations that
make channels, move them, close them and destroy them, one after the other. A loop can be
destroyed between any two of them; `pair` and `adopt` take a reference to one that exists.

A descriptor is a number that the system may give out again when it is no longer open. The
log says which descriptors have been opened or adopted and which ones libuv was asked to
close, in order.
-/

namespace Fiberuv.Ipc.Channels

open Foundation

abbrev LoopId := Nat
abbrev ObjectId := Nat
abbrev Fd := Int
abbrev Log := List (Access Fd)

/-- The results of `uv_loop_init`, if a temporary loop is used, and of `uv_fs_close`. -/
structure Posting where
  initRc : Int
  closeRc : Int

/-- The results for `read_fd` and for `write_fd`. -/
structure Postings where
  read : Posting
  write : Posting

/-- The request is posted to the loop. Its own result is ignored. -/
def closeFdBestEffort (fd : Fd) (posting : Posting) : Log :=
  if fd < 0 then []
  else if posting.closeRc < 0 then []
  else [.release fd]

def closeFdWithTempLoop (fd : Fd) (posting : Posting) : Log :=
  if fd < 0 then []
  else if posting.initRc ≠ 0 then []
  else if posting.closeRc < 0 then []
  else [.release fd]

/-- A default-constructed channel has no loop and no descriptors. -/
structure ProcessChannel where
  loop : Option LoopId := none
  loopLifetime : Option LoopId := none
  readFd : Fd := -1
  writeFd : Fd := -1

/-- What `uv_pipe` has returned. -/
structure Pipe where
  rc : Int
  readEnd : Fd
  writeEnd : Fd

namespace Pipe

def ends (pipe : Pipe) : List Fd := [pipe.readEnd, pipe.writeEnd]

/-- If there is a pipe, its two descriptors are none of the open ones. -/
def opens (pipe : Pipe) (opened : Finset Fd) : Bool :=
  decide (pipe.rc < 0) || (decide (0 ≤ pipe.readEnd) && decide (0 ≤ pipe.writeEnd) &&
    decide pipe.ends.Nodup && decide (∀ fd ∈ pipe.ends, fd ∉ opened))

end Pipe

/-- `is_loop_alive`. -/
def isLoopAlive (alive : LoopId → Bool) : Option LoopId → Bool
  | none => false
  | some loop => alive loop

namespace ProcessChannel

/-- The private constructor. -/
def construct (loop : LoopId) (readFd writeFd : Fd) : ProcessChannel :=
  ⟨some loop, some loop, readFd, writeFd⟩

/-- The move constructor: the new channel, and what it leaves of the other one. -/
def move (other : ProcessChannel) : ProcessChannel × ProcessChannel :=
  (⟨other.loop, other.loopLifetime, other.readFd, other.writeFd⟩, ⟨none, none, -1, -1⟩)

def valid (channel : ProcessChannel) (alive : LoopId → Bool) : Bool :=
  channel.loop.isSome && isLoopAlive alive channel.loopLifetime && decide (0 ≤ channel.readFd) &&
    decide (0 ≤ channel.writeFd)

/-- Both descriptors, or the one that is both. -/
def closeFds (channel : ProcessChannel) (closeFd : Fd → Posting → Log) (postings : Postings) :
    Log :=
  closeFd channel.readFd postings.read ++
    if 0 ≤ channel.writeFd ∧ channel.writeFd ≠ channel.readFd then
      closeFd channel.writeFd postings.write
    else []

/-- The requests that `close` makes. -/
def requests (channel : ProcessChannel) (alive : LoopId → Bool) (postings : Postings) : Log :=
  match channel.loop with
  | none => channel.closeFds closeFdWithTempLoop postings
  | some _ =>
      if isLoopAlive alive channel.loopLifetime then channel.closeFds closeFdBestEffort postings
      else channel.closeFds closeFdWithTempLoop postings

/-- `close` uses `*loop` although the loop has been destroyed. -/
def strays (channel : ProcessChannel) (alive : LoopId → Bool) : Bool :=
  match channel.loop with
  | none => false
  | some loop => isLoopAlive alive channel.loopLifetime && !alive loop

/-- The members after `close`. -/
def cleared (channel : ProcessChannel) : ProcessChannel :=
  { channel with loop := none, readFd := -1, writeFd := -1 }

def adopt (loop : LoopId) (readFd writeFd : Fd) : Except Error ProcessChannel :=
  if readFd < 0 ∨ writeFd < 0 then
    .error (.runtime "ipc::ProcessChannel::adopt requires valid read/write fds")
  else .ok (construct loop readFd writeFd)

/-- The descriptors of the channel. -/
def owned (channel : ProcessChannel) : Finset Fd :=
  ({channel.readFd, channel.writeFd} : Finset Fd).filter (0 ≤ ·)

end ProcessChannel

structure State where
  /-- The channels within their lifetime. -/
  object : ObjectId → Option ProcessChannel := fun _ => none
  alive : LoopId → Bool := fun _ => true
  log : Log := []
  /-- A destroyed loop was used. -/
  fault : Bool := false

inductive Action where
  | defaultConstruct (target : ObjectId)
  /-- The two elements of the pair are constructed at `first` and `second`. -/
  | pair (loop : LoopId) (first second : ObjectId) (ab ba : Pipe) (postings : Postings)
  | adopt (target : ObjectId) (loop : LoopId) (readFd writeFd : Fd)
  | moveConstruct (target source : ObjectId)
  | moveAssign (target source : ObjectId) (postings : Postings)
  | close (target : ObjectId) (postings : Postings)
  | destroy (target : ObjectId) (postings : Postings)
  /-- `~EventLoop`. -/
  | endLoop (loop : LoopId)

namespace State

def put (state : State) (id : ObjectId) (object : Option ProcessChannel) : State :=
  { state with object := Function.update state.object id object }

def append (state : State) (log : Log) : State := { state with log := state.log ++ log }

/-- What a channel owns. -/
def owns (state : State) (id : ObjectId) : Finset Fd :=
  match state.object id with
  | none => ∅
  | some channel => channel.owned

def valid (state : State) (id : ObjectId) : Bool :=
  match state.object id with
  | none => false
  | some channel => channel.valid state.alive

/-- The descriptors that have been opened or adopted and whose close has not been
submitted. -/
def opened (state : State) : Finset Fd := heldAfter ∅ state.log

/-- `close`, but for the members of the channel. -/
def closing (state : State) (channel : ProcessChannel) (postings : Postings) : State :=
  { state.append (channel.requests state.alive postings) with
    fault := state.fault || channel.strays state.alive }

/-- `ProcessChannel::pair`, with the destructors of `endpoint_b` and `endpoint_a`. -/
def pair (state : State) (loop : LoopId) (ab ba : Pipe) (postings : Postings) :
    Except Error (ProcessChannel × ProcessChannel) × State :=
  if ab.rc < 0 then (.error (.uv "uv_pipe(A->B)" ab.rc), state)
  else
    let state := state.append (ab.ends.map .acquire)
    if ba.rc < 0 then
      (.error (.uv "uv_pipe(B->A)" ba.rc),
        (state.append (closeFdBestEffort ab.readEnd postings.read)).append
          (closeFdBestEffort ab.writeEnd postings.write))
    else
      let state := state.append (ba.ends.map .acquire)
      let (first, endpointA) := (ProcessChannel.construct loop ba.readEnd ab.writeEnd).move
      let (second, endpointB) := (ProcessChannel.construct loop ab.readEnd ba.writeEnd).move
      (.ok (first, second), (state.closing endpointB postings).closing endpointA postings)

def stepPair (state : State) (loop : LoopId) (first second : ObjectId) (ab ba : Pipe)
    (postings : Postings) : State :=
  match state.pair loop ab ba postings with
  | (.error _, next) => next
  | (.ok (channelA, channelB), next) => (next.put first (some channelA)).put second (some channelB)

def stepAdopt (state : State) (target : ObjectId) (loop : LoopId) (readFd writeFd : Fd) : State :=
  match ProcessChannel.adopt loop readFd writeFd with
  | .error _ => state
  | .ok channel => (state.append ([readFd, writeFd].dedup.map .acquire)).put target (some channel)

/-- `operator=`, when the channels are not the same one. -/
def moveAssign (state : State) (target source : ObjectId) (channel other : ProcessChannel)
    (postings : Postings) : State :=
  let (assigned, left) := other.move
  ((state.closing channel postings).put target (some assigned)).put source (some left)

def step (state : State) (action : Action) : Option State :=
  if state.fault then none
  else match action with
    | .defaultConstruct target =>
        match state.object target with
        | none => some (state.put target (some {}))
        | some _ => none
    | .pair loop first second ab ba postings =>
        if state.alive loop ∧ first ≠ second ∧ (state.object first).isNone ∧
            (state.object second).isNone ∧ ab.opens state.opened ∧
              (ab.rc < 0 ∨ ba.opens (state.opened ∪ ab.ends.toFinset)) then
          some (state.stepPair loop first second ab ba postings)
        else none
    | .adopt target loop readFd writeFd =>
        if state.alive loop ∧ (state.object target).isNone then
          some (state.stepAdopt target loop readFd writeFd)
        else none
    | .moveConstruct target source =>
        match state.object target, state.object source with
        | none, some other =>
            let (moved, left) := other.move
            some ((state.put target (some moved)).put source (some left))
        | _, _ => none
    | .moveAssign target source postings =>
        match state.object target, state.object source with
        | some channel, some other =>
            if target = source then some state
            else some (state.moveAssign target source channel other postings)
        | _, _ => none
    | .close target postings =>
        match state.object target with
        | none => none
        | some channel => some ((state.closing channel postings).put target (some channel.cleared))
    | .destroy target postings =>
        match state.object target with
        | none => none
        | some channel => some ((state.closing channel postings).put target none)
    | .endLoop loop => some { state with alive := Function.update state.alive loop false }

end State

def machine : Machine State Action where
  step := State.step

def initial : State := {}

end Fiberuv.Ipc.Channels
