import Fiberuv.Foundation.Framing
import Fiberuv.Foundation.Machine
import Fiberuv.Uv

/-! # The callback chains of `read_file` and `write_file`

Both operations open the file, transfer it request by request, and close it. Each request
is submitted by the callback of the one before, and all of them share one state that the
last callback deletes. A label is one callback of libuv, with the result of its request
and the results of the submissions that it may come to make.

The two chains differ in their names for errors, in what a transfer moves, and in two
tests: a read of zero bytes is the end of the file, and a write asks before each request
whether it has written everything. `Chain` has these differences, and the functions of
both chains are the same functions of it.
-/

namespace Fiberuv.FileIo

open Foundation

/-- `static_cast<int>`. -/
def asInt (number : Int) : Int := number.bmod (2 ^ 32)

/-- What the states of the two chains do not have in common. -/
structure Chain (Work Value : Type) where
  openStart : String
  openSite : String
  transferStart : String
  transferSite : String
  closeSite : String
  /-- Nothing is left to submit. -/
  done : Work → Bool
  /-- A transfer of zero bytes ends the chain without an error. -/
  zeroEnds : Bool
  /-- What a transfer of this many bytes does, with the buffer of the request. -/
  advance : Work → Nat → Bytes → Work
  value : Work → Value

/-- The requests of a state, by their callback. -/
inductive Request where
  | opening
  | transfer
  | closing
  deriving DecidableEq

/-- The history fields `opened`, `closeCalls` and `errors` are read by no operation. -/
structure State (Work Value : Type) where
  work : Work
  file : Int := -1
  error : Option Error := none
  called : Bool := false
  /-- The exception of the call when the open request did not start. -/
  thrown : Option Error := none
  promise : Option (Except Error Value) := none
  /-- The requests libuv still has to call back for. -/
  pending : List Request := []
  /-- How often the promise has been set and the state deleted. -/
  promiseSets : Nat := 0
  frees : Nat := 0
  /-- The state was used after it had been deleted. -/
  fault : Bool := false
  /-- The open request has succeeded. -/
  opened : Bool := false
  /-- How often `uv_fs_close` has been called. -/
  closeCalls : Nat := 0
  /-- The errors that have occurred, in order. -/
  errors : List Error := []

/-- What submissions return, if the callback comes to make them. -/
structure Starts where
  transfer : Int
  close : Int

inductive Action where
  /-- The call itself, with the result of submitting the open request. -/
  | call (rc : Int)
  | onOpen (result : Int) (starts : Starts)
  | onTransfer (result : Int) (buffer : Bytes) (starts : Starts)
  | onClose (result : Int)

namespace State

variable {Work Value : Type} (chain : Chain Work Value)

/-- Every function reads the state first. -/
def use (state : State Work Value) : State Work Value :=
  if state.frees = 0 then state else { state with fault := true }

/-- `state->error = ...`. -/
def fail (state : State Work Value) (error : Error) : State Work Value :=
  { state with error := some error, errors := state.errors ++ [error] }

/-- `state->error = ...` unless there is an error already. -/
def failFirst (state : State Work Value) (error : Error) : State Work Value :=
  { state with error := state.error.or (some error), errors := state.errors ++ [error] }

def submit (state : State Work Value) (request : Request) : State Work Value :=
  { state with pending := state.pending ++ [request] }

/-- `finalize_read` and `finalize_write`. -/
def finalize (state : State Work Value) : State Work Value :=
  let state := state.use
  { state with
    promise := match state.error with
      | some error => some (.error error)
      | none => some (.ok (chain.value state.work))
    promiseSets := state.promiseSets + 1
    frees := state.frees + 1 }

/-- `on_read_close` and `on_write_close`. -/
def onClose (state : State Work Value) (result : Int) : State Work Value :=
  let state := state.use
  if result < 0 then (state.failFirst (.uv chain.closeSite (asInt result))).finalize chain
  else state.finalize chain

/-- `close_read_file` and `close_write_file`. -/
def closeFile (state : State Work Value) (rc : Int) : State Work Value :=
  let state := state.use
  if state.file < 0 then state.finalize chain
  else
    let state := { state with closeCalls := state.closeCalls + 1 }
    if rc < 0 then (state.failFirst (.uv chain.closeSite rc)).finalize chain
    else state.submit .closing

/-- `read_next_chunk` and `write_next_chunk`. -/
def nextChunk (state : State Work Value) (starts : Starts) : State Work Value :=
  let state := state.use
  if chain.done state.work then state.closeFile chain starts.close
  else if starts.transfer < 0 then
    (state.fail (.uv chain.transferStart starts.transfer)).closeFile chain starts.close
  else state.submit .transfer

/-- `on_file_read` and `on_file_write`. -/
def onTransfer (state : State Work Value) (result : Int) (buffer : Bytes) (starts : Starts) :
    State Work Value :=
  let state := state.use
  if 0 < result then
    { state with work := chain.advance state.work result.toNat buffer }.nextChunk chain starts
  else if chain.zeroEnds ∧ result = 0 then state.closeFile chain starts.close
  else (state.fail (.uv chain.transferSite (asInt result))).closeFile chain starts.close

/-- `on_file_open_for_read` and `on_file_open_for_write`. -/
def onOpen (state : State Work Value) (result : Int) (starts : Starts) : State Work Value :=
  let state := state.use
  if asInt result < 0 then
    (state.fail (.uv chain.openSite (asInt result))).closeFile chain starts.close
  else { state with file := asInt result, opened := true }.nextChunk chain starts

/-- `read_file` and `write_file` up to the wait for the promise. -/
def call (state : State Work Value) (rc : Int) : State Work Value :=
  if rc < 0 then
    { state with
      called := true
      frees := state.frees + 1
      thrown := some (.uv chain.openStart rc)
      errors := state.errors ++ [.uv chain.openStart rc] }
  else { state.submit .opening with called := true }

/-- libuv calls back for a request, which is then no longer pending. -/
def callback (state : State Work Value) (request : Request)
    (code : State Work Value → State Work Value) : Option (State Work Value) :=
  if request ∈ state.pending then
    some (code { state with pending := state.pending.erase request })
  else none

def step (state : State Work Value) : Action → Option (State Work Value)
  | .call rc => if state.called then none else some (state.call chain rc)
  | .onOpen result starts => state.callback .opening fun state => state.onOpen chain result starts
  | .onTransfer result buffer starts =>
      state.callback .transfer fun state => state.onTransfer chain result buffer starts
  | .onClose result => state.callback .closing fun state => state.onClose chain result

end State

/-- The chain as a machine. -/
def Chain.machine {Work Value : Type} (chain : Chain Work Value) :
    Machine (State Work Value) Action where
  step := State.step chain

section Read

/-- The part of `ReadFileState` that only reading has. -/
structure ReadFileState where
  offset : Nat := 0
  out : Bytes := []

/-- The differences of `read_file`. -/
def reading : Chain ReadFileState Bytes where
  openStart := "uv_fs_open(read/start)"
  openSite := "uv_fs_open(read)"
  transferStart := "uv_fs_read(start)"
  transferSite := "uv_fs_read"
  closeSite := "uv_fs_close(read)"
  done _ := false
  zeroEnds := true
  advance work count buffer :=
    { offset := (work.offset + count) % 2 ^ 64, out := work.out ++ buffer.take count }
  value := ReadFileState.out

abbrev ReadState := State ReadFileState Bytes

def finalizeRead (state : ReadState) : ReadState := state.finalize reading

def onReadClose (state : ReadState) (result : Int) : ReadState := state.onClose reading result

def closeReadFile (state : ReadState) (rc : Int) : ReadState := state.closeFile reading rc

def readNextChunk (state : ReadState) (starts : Starts) : ReadState :=
  state.nextChunk reading starts

def onFileRead (state : ReadState) (result : Int) (buffer : Bytes) (starts : Starts) :
    ReadState :=
  state.onTransfer reading result buffer starts

def onFileOpenForRead (state : ReadState) (result : Int) (starts : Starts) : ReadState :=
  state.onOpen reading result starts

def readFile (state : ReadState) (rc : Int) : ReadState := state.call reading rc

def readMachine : Machine ReadState Action where
  step state
    | .call rc => if state.called then none else some (readFile state rc)
    | .onOpen result starts =>
        state.callback .opening fun state => onFileOpenForRead state result starts
    | .onTransfer result buffer starts =>
        state.callback .transfer fun state => onFileRead state result buffer starts
    | .onClose result => state.callback .closing fun state => onReadClose state result

/-- The state that `read_file` makes. -/
def readInitial : ReadState := { work := {} }

theorem readMachine_eq : readMachine = reading.machine := rfl

end Read

section Write

/-- The part of `WriteFileState` that only writing has. -/
structure WriteFileState where
  data : Bytes
  offset : Nat := 0
  append : Bool

/-- The differences of `write_file`. -/
def writing : Chain WriteFileState Unit where
  openStart := "uv_fs_open(write/start)"
  openSite := "uv_fs_open(write)"
  transferStart := "uv_fs_write(start)"
  transferSite := "uv_fs_write"
  closeSite := "uv_fs_close(write)"
  done work := work.data.length ≤ work.offset
  zeroEnds := false
  advance work count _ := { work with offset := (work.offset + count) % 2 ^ 64 }
  value _ := ()

abbrev WriteState := State WriteFileState Unit

def finalizeWrite (state : WriteState) : WriteState := state.finalize writing

def onWriteClose (state : WriteState) (result : Int) : WriteState := state.onClose writing result

def closeWriteFile (state : WriteState) (rc : Int) : WriteState := state.closeFile writing rc

def writeNextChunk (state : WriteState) (starts : Starts) : WriteState :=
  state.nextChunk writing starts

def onFileWrite (state : WriteState) (result : Int) (buffer : Bytes) (starts : Starts) :
    WriteState :=
  state.onTransfer writing result buffer starts

def onFileOpenForWrite (state : WriteState) (result : Int) (starts : Starts) : WriteState :=
  state.onOpen writing result starts

def writeFile (state : WriteState) (rc : Int) : WriteState := state.call writing rc

def writeMachine : Machine WriteState Action where
  step state
    | .call rc => if state.called then none else some (writeFile state rc)
    | .onOpen result starts =>
        state.callback .opening fun state => onFileOpenForWrite state result starts
    | .onTransfer result buffer starts =>
        state.callback .transfer fun state => onFileWrite state result buffer starts
    | .onClose result => state.callback .closing fun state => onWriteClose state result

/-- The state that `write_file` makes. -/
def writeInitial (data : Bytes) (append : Bool) : WriteState := { work := { data, append } }

theorem writeMachine_eq : writeMachine = writing.machine := rfl

end Write

end Fiberuv.FileIo
