import Fiberuv.Foundation.Regions
import Fiberuv.Io.WriteAt

/-! # A file that several callers read and write

Any number of callers of `read_at` and `write_at` on one file that was not opened for
appending. The thread pool serves a request at some point after it was submitted and before
its callback; a write goes on with the rest of its data from its callback. A request may be
served in part, or fail.
-/

namespace Fiberuv.Io.SharedFile

open Foundation
open Io.FileCursor (overwrite)
open Io.FileRequests (FsRead FsWrite WriteAt fsReadAt fsWriteAt onFsWrite toPosition
  toPosition_of_lt offset_add_toNat)

abbrev CallId := Nat

/-- A call; while its request is under way it may have been served. -/
inductive Call where
  | idle
  | writing (state : FsWrite) (served : Option Int)
  | wrote (data : Bytes) (offset : UInt64) (outcome : Except Error Nat)
  | reading (state : FsRead) (served : Option (Except Int Bytes))
  | read (offset : UInt64) (outcome : Except Error Bytes)

structure State where
  contents : Bytes
  /-- The position of the descriptor, for requests with a negative offset. -/
  position : Nat := 0
  call : CallId → Call := fun _ => .idle

inductive Action where
  | writeAt (id : CallId) (data : Bytes) (offset : UInt64) (rc : Int)
  | readAt (id : CallId) (size : Nat) (offset : UInt64) (rc : Int)
  /-- The kernel serves the request of a call with this result. -/
  | serve (id : CallId) (result : Int)
  /-- The callback; `rc` is for the next request of a write. -/
  | complete (id : CallId) (rc : Int)

/-- The call an action is a step of. -/
def Action.id : Action → CallId
  | .writeAt id _ _ _ => id
  | .readAt id _ _ _ => id
  | .serve id _ => id
  | .complete id _ => id

namespace State

def setCall (state : State) (id : CallId) (call : Call) : State :=
  { state with call := Function.update state.call id call }

/-- A write goes on with its next request, or is over. -/
def goOn (state : State) (id : CallId) (data : Bytes) (offset : UInt64) : WriteAt → State
  | .pending write => state.setCall id (.writing write none)
  | .returned outcome => state.setCall id (.wrote data offset outcome)

def readAt (state : State) (id : CallId) (size : Nat) (offset : UInt64) (rc : Int) : State :=
  match fsReadAt size offset rc with
  | .ok read => state.setCall id (.reading read none)
  | .error error => state.setCall id (.read offset (.error error))

/-- Where the kernel starts to serve a request. -/
def place (state : State) (position : Int) : Nat :=
  if position < 0 then state.position else position.toNat

/-- A request with a negative offset moves the position of the descriptor. -/
def moved (state : State) (position : Int) (stop : Nat) : State :=
  { state with position := if position < 0 then stop else state.position }

/-- The file after a write; a write of no bytes leaves it as it is. -/
def write (state : State) (start : Nat) (bytes : Bytes) : State :=
  { state with
    contents := if bytes = [] then state.contents else overwrite state.contents start bytes }

/-- The kernel writes a beginning of the buffer, or fails. -/
def serveWrite (state : State) (id : CallId) (write : FsWrite) (result : Int) : Option State :=
  if result < 0 then some (state.setCall id (.writing write (some result)))
  else
    let request := write.request
    let start := state.place request.position
    if result ≤ request.buffer.length ∧ start + result < 2 ^ 63 then
      let bytes := request.buffer.take result.toNat
      some (((state.write start bytes).moved request.position (start + bytes.length)).setCall id
        (.writing write (some result)))
    else none

/-- The kernel reads some of what is there, or fails. -/
def serveRead (state : State) (id : CallId) (read : FsRead) (result : Int) : Option State :=
  if result < 0 then some (state.setCall id (.reading read (some (.error result))))
  else
    let start := state.place read.position
    let there := state.contents.drop start
    if result ≤ read.length ∧ result ≤ there.length ∧
        (result = 0 → read.length = 0 ∨ there = []) then
      some ((state.moved read.position (start + result.toNat)).setCall id
        (.reading read (some (.ok (there.take result.toNat)))))
    else none

/-- `on_fs_read` with the buffer. -/
def onFsRead : Except Int Bytes → Except Error Bytes
  | .ok bytes => .ok bytes
  | .error code => .error (.uv "uv_fs_read" code)

def step (state : State) : Action → Option State
  | .writeAt id data offset rc =>
      match state.call id with
      | .idle => some (state.goOn id data offset (fsWriteAt data offset rc))
      | _ => none
  | .readAt id size offset rc =>
      match state.call id with
      | .idle => some (state.readAt id size offset rc)
      | _ => none
  | .serve id result =>
      match state.call id with
      | .writing write none => state.serveWrite id write result
      | .reading read none => state.serveRead id read result
      | _ => none
  | .complete id rc =>
      match state.call id with
      | .writing write (some result) =>
          some (state.goOn id write.data write.baseOffset (onFsWrite write result rc))
      | .reading read (some served) =>
          some (state.setCall id (.read read.offset (onFsRead served)))
      | _ => none

end State

def machine : Machine State Action where
  step := State.step

/-- An open file with these contents. -/
def opened (contents : Bytes) : State where
  contents := contents

/-- What a call writes, and where. -/
def Call.target : Call → Option (Nat × Bytes)
  | .writing write _ => some (write.baseOffset.toNat, write.data)
  | .wrote data offset _ => some (offset.toNat, data)
  | _ => none

/-- Every write goes to a region of its own, within the range of an `int64_t`. -/
def OwnRegion (state : State) : Action → Prop
  | .writeAt _ data offset _ => offset.toNat + data.length < 2 ^ 63 ∧
      ∀ other place bytes, (state.call other).target = some (place, bytes) →
        Apart offset.toNat data.length place bytes.length
  | _ => True

end Fiberuv.Io.SharedFile
