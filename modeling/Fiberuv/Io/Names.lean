import Fiberuv.EventLoop.Operations
import Fiberuv.Foundation.Linearizing
import Fiberuv.Foundation.Machine

/-! # Directories and files by name

Any number of calls of `create_directory`, `remove_directory`, `create_file` and
`remove_file` in fibers of the loop. The kernel serves the requests that are under way one at
a time and in whatever order; `Kernel` says what it can do with the file system, and which
result it can give. A closed descriptor is given up whatever its closing reports.
-/

namespace Fiberuv.Io.Names

open Foundation Foundation.Linearizing
open EventLoop (uvEexist uvEnoent)

abbrev CallId := Nat
abbrev Path := String
abbrev Fd := Int

def uvFsOWronly : Nat := 0o1
def uvFsOCreat : Nat := 0o100
def uvFsOTrunc : Nat := 0o1000

/-- What libuv is asked to do with a name. -/
inductive NameRequest where
  | mkdir (path : Path) (mode : Nat)
  | rmdir (path : Path)
  | unlink (path : Path)
  | openFile (path : Path) (flags mode : Nat)
  deriving DecidableEq

/-- The site `uv_error` names when libuv does not take the request. -/
def NameRequest.startSite : NameRequest → String
  | mkdir _ _ => "uv_fs_mkdir(start)"
  | rmdir _ => "uv_fs_rmdir(start)"
  | unlink _ => "uv_fs_unlink(start)"
  | openFile _ _ _ => "uv_fs_open(start)"

/-- The descriptor that a request with this result has made. -/
def NameRequest.made (request : NameRequest) (result : Int) : Option Fd :=
  match request with
  | openFile _ _ _ => if 0 ≤ result then some result else none
  | _ => none

/-- What the kernel can do with the names of the file system: from which to which, for what
request and with what result. -/
structure Kernel (Disk : Type) where
  serves : Disk → NameRequest → Int → Disk → Bool

inductive Operation where
  | createDirectory (path : Path) (mode : Nat)
  | removeDirectory (path : Path)
  | createFile (path : Path) (truncate : Bool)
  | removeFile (path : Path)
  deriving DecidableEq

/-- The flags of `create_file`. -/
def createFlags (truncate : Bool) : Nat :=
  let flags := uvFsOWronly ||| uvFsOCreat
  if truncate then flags ||| uvFsOTrunc else flags

def Operation.request : Operation → NameRequest
  | createDirectory path mode => .mkdir path mode
  | removeDirectory path => .rmdir path
  | createFile path truncate => .openFile path (createFlags truncate) 0o644
  | removeFile path => .unlink path

/-- `on_fs_open`: what the promise gets. -/
def onFsOpen (result : Int) : Except Error Fd :=
  if result < 0 then .error (.uv "uv_fs_open" result) else .ok result

/-- `on_fs_close`. -/
def onFsClose (result : Int) : Except Error Unit :=
  if result < 0 then .error (.uv "uv_fs_close" result) else .ok ()

/-- `on_fs_simple`. -/
def onFsSimple (result : Int) : Except Error Int := .ok result

/-- The callback of the request on the name. -/
def Operation.callback (op : Operation) (result : Int) : Except Error Int :=
  match op with
  | createFile _ _ => onFsOpen result
  | _ => onFsSimple result

/-- The tail of `create_directory`, `remove_directory` and `remove_file`. -/
def tolerate (site : String) (tolerated : Int) (result : Int) : Except Error Bool :=
  if 0 ≤ result then .ok true
  else if result = tolerated then .ok false
  else .error (.uv site result)

def createDirectory (result : Int) : Except Error Bool :=
  tolerate "uv_fs_mkdir" uvEexist result

def removeDirectory (result : Int) : Except Error Bool :=
  tolerate "uv_fs_rmdir" uvEnoent result

def removeFile (result : Int) : Except Error Bool :=
  tolerate "uv_fs_unlink" uvEnoent result

inductive Call where
  | idle
  /-- The request on the name is under way; it may have been served. -/
  | naming (op : Operation) (served : Option Int)
  /-- The promise of the request is set. -/
  | named (op : Operation) (promise : Except Error Int)
  /-- `create_file` closes the descriptor it has made. -/
  | closing (path : Path) (truncate : Bool) (fd : Fd) (served : Option Int)
  | closed (path : Path) (truncate : Bool) (promise : Except Error Unit)
  | returned (answer : Except Error Bool)
  /-- `create_file` has thrown, because libuv did not take the request to close. -/
  | unclosed (fd : Fd) (code : Int)

structure State (Disk : Type) where
  disk : Disk
  /-- The descriptors that are open in the process. -/
  descriptors : List Fd
  call : CallId → Call := fun _ => .idle

/-- `rc` is what libuv returns for the request that the step makes, if it makes one. -/
inductive Action (Disk : Type) where
  | call (id : CallId) (op : Operation) (rc : Int)
  /-- The kernel serves the request on the name. -/
  | serve (id : CallId) (result : Int) (disk : Disk)
  /-- The kernel closes the descriptor. -/
  | serveClose (id : CallId) (result : Int)
  | callback (id : CallId)
  /-- The fiber goes on after its wait. -/
  | resume (id : CallId) (rc : Int)

variable {Disk : Type}

/-- The call an action is a step of. -/
def Action.id : Action Disk → CallId
  | .call id _ _ => id
  | .serve id _ _ => id
  | .serveClose id _ => id
  | .callback id => id
  | .resume id _ => id

namespace State

def setCall (state : State Disk) (id : CallId) (call : Call) : State Disk :=
  { state with call := Function.update state.call id call }

/-- The closure of an operation, up to its first wait. -/
def start (state : State Disk) (id : CallId) (op : Operation) (rc : Int) : State Disk :=
  if rc < 0 then state.setCall id (.returned (.error (.uv op.request.startSite rc)))
  else state.setCall id (.naming op none)

/-- `fs_close` in `create_file`, up to its wait. -/
def fsClose (state : State Disk) (id : CallId) (path : Path) (truncate : Bool) (fd : Fd)
    (rc : Int) : State Disk :=
  if rc < 0 then state.setCall id (.unclosed fd rc)
  else state.setCall id (.closing path truncate fd none)

/-- What the closure does with the value of its first wait. -/
def goOn (state : State Disk) (id : CallId) (op : Operation) (value rc : Int) : State Disk :=
  match op with
  | .createDirectory _ _ => state.setCall id (.returned (createDirectory value))
  | .removeDirectory _ => state.setCall id (.returned (removeDirectory value))
  | .createFile path truncate => state.fsClose id path truncate value rc
  | .removeFile _ => state.setCall id (.returned (removeFile value))

/-- The kernel serves a request. A new descriptor is one that is not in use. -/
def serveName (kernel : Kernel Disk) (state : State Disk) (id : CallId) (op : Operation)
    (result : Int) (disk : Disk) : Option (State Disk) :=
  if kernel.serves state.disk op.request result disk = true ∧
      ∀ fd ∈ op.request.made result, fd ∉ state.descriptors then
    let descriptors := (op.request.made result).toList ++ state.descriptors
    some ({ state with disk, descriptors }.setCall id (.naming op (some result)))
  else none

def step (kernel : Kernel Disk) (state : State Disk) : Action Disk → Option (State Disk)
  | .call id op rc =>
      match state.call id with
      | .idle => some (state.start id op rc)
      | _ => none
  | .serve id result disk =>
      match state.call id with
      | .naming op none => state.serveName kernel id op result disk
      | _ => none
  | .serveClose id result =>
      match state.call id with
      | .closing path truncate fd none =>
          some ({ state with descriptors := state.descriptors.erase fd }.setCall id
            (.closing path truncate fd (some result)))
      | _ => none
  | .callback id =>
      match state.call id with
      | .naming op (some result) => some (state.setCall id (.named op (op.callback result)))
      | .closing path truncate _ (some result) =>
          some (state.setCall id (.closed path truncate (onFsClose result)))
      | _ => none
  | .resume id rc =>
      match state.call id with
      | .named _ (.error error) => some (state.setCall id (.returned (.error error)))
      | .named op (.ok value) => some (state.goOn id op value rc)
      | .closed _ _ (.error error) => some (state.setCall id (.returned (.error error)))
      | .closed _ _ (.ok ()) => some (state.setCall id (.returned (.ok true)))
      | _ => none

end State

def machine (kernel : Kernel Disk) : Machine (State Disk) (Action Disk) where
  step := State.step kernel

/-- Nothing has been called. -/
def fresh (disk : Disk) (descriptors : List Fd) : State Disk where
  disk := disk
  descriptors := descriptors

inductive Kind where
  | directory
  | file
  deriving DecidableEq

/-- The names in one directory, with what they stand for. -/
abbrev Listing := List (Path × Kind)

def uvEnotdir : Int := -20
def uvEisdir : Int := -21

/-- Make a name that is not there. -/
def made (disk : Listing) (path : Path) (kind : Kind) : Listing := (path, kind) :: disk

def removed (disk : Listing) (path : Path) : Listing := disk.filter (·.1 ≠ path)

/-- What a request does in a directory that has only files and empty directories, or the error
it gets. -/
def effect (disk : Listing) : NameRequest → Except Int Listing
  | .mkdir path _ =>
      match disk.lookup path with
      | none => .ok (made disk path .directory)
      | some _ => .error uvEexist
  | .rmdir path =>
      match disk.lookup path with
      | none => .error uvEnoent
      | some .directory => .ok (removed disk path)
      | some .file => .error uvEnotdir
  | .unlink path =>
      match disk.lookup path with
      | none => .error uvEnoent
      | some .directory => .error uvEisdir
      | some .file => .ok (removed disk path)
  | .openFile path _ _ =>
      match disk.lookup path with
      | none => .ok (made disk path .file)
      | some .directory => .error uvEisdir
      | some .file => .ok disk

/-- The kernel as far as such a directory goes. Where nothing stands against a request, it can
fail for another reason. -/
def oneDirectory : Kernel Listing where
  serves disk request result next :=
    match effect disk request with
    | .ok after =>
        if 0 ≤ result then next = after
        else next = disk ∧ result ≠ uvEexist ∧ result ≠ uvEnoent
    | .error code => next = disk ∧ result = code

end Fiberuv.Io.Names
