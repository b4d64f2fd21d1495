import Fiberuv.Foundation.Framing
import Fiberuv.Foundation.Machine
import Fiberuv.Foundation.Records
import Fiberuv.Uv

/-! # The cursor of a file

`read_some` and `write_some` load the cursor in one critical section of the mutex,
transfer bytes at that offset, and advance the cursor in a second critical section.
`seek` and `tell` are one critical section each. The file is open and its loop alive;
copies of the `File` share the cursor and the mutex.

A transfer is one or several kernel requests, each of which moves as many bytes as the
label says. The offset is passed as a signed 64-bit number, and a negative one stands
for the position of the descriptor. Lengths of buffers are passed as 32-bit numbers.
The length of a file stays below `2 ^ 63`.
-/

namespace Fiberuv.Io.FileCursor

open Foundation

abbrev CallId := Nat

/-- The operations on the cursor. -/
inductive Op where
  | readSome (size : Nat)
  | writeSome (data : Bytes)
  | seek (offset : Nat)
  | tell

/-- What an operation returns, with the offset it loaded. -/
inductive Result where
  | read (offset : Nat) (bytes : Bytes)
  | wrote (offset : Nat) (data : Bytes)
  | sought
  | told (cursor : Nat)
  | threw (error : Error)

/-- A call: its transfer is under way, or has ended with the cursor not yet advanced,
or the call has returned. -/
inductive Call where
  | idle
  | reading (size offset : Nat)
  | read (size offset : Nat) (bytes : Bytes)
  | writing (data : Bytes) (offset written : Nat)
  | wrote (data : Bytes) (offset : Nat)
  | done (op : Op) (result : Result)

/-- The call has loaded the cursor and may still advance it. -/
def Call.busy : Call → Bool
  | .idle => false
  | .reading _ _ => true
  | .read _ _ _ => true
  | .writing _ _ _ => true
  | .wrote _ _ => true
  | .done _ _ => false

structure State where
  contents : Bytes
  /-- The position of the descriptor, for requests without an offset. -/
  position : Nat := 0
  cursor : Nat := 0
  call : CallId → Call := fun _ => .idle

inductive Action where
  | readSome (id : CallId) (size : Nat)
  | writeSome (id : CallId) (data : Bytes)
  | seek (id : CallId) (offset : Nat)
  | tell (id : CallId)
  /-- The kernel has read this many bytes. -/
  | transferIn (id : CallId) (count : Nat)
  /-- The kernel has written this many bytes. -/
  | transferOut (id : CallId) (count : Nat)
  /-- The request does not start or completes with an error. -/
  | fail (id : CallId) (error : Error)
  | advance (id : CallId)

/-- `uv_buf_init` takes the length as an `unsigned int`. -/
def bufLength (size : Nat) : Nat :=
  size % 2 ^ 32

/-- The offset is not negative as an `int64_t`. -/
def positioned (offset : Nat) : Bool :=
  offset < 2 ^ 63

/-- The file after a write, with zeros between its old end and the place. -/
def overwrite (contents : Bytes) (place : Nat) (bytes : Bytes) : Bytes :=
  contents.take place ++ List.replicate (place - contents.length) 0 ++ bytes ++
    contents.drop (place + bytes.length)

namespace State

variable (append : Bool)

def setCall (state : State) (id : CallId) (call : Call) : State :=
  { state with call := Function.update state.call id call }

/-- The cursor is an `std::uint64_t`. -/
def addCursor (state : State) (count : Nat) : State :=
  { state with cursor := (state.cursor + count) % 2 ^ 64 }

/-- The position of the descriptor after a request at this offset that ended here. -/
def positionAfter (state : State) (offset stop : Nat) : Nat :=
  if positioned offset then state.position else stop

/-- Where a read request at this offset starts. -/
def readPlace (state : State) (offset : Nat) : Nat :=
  if positioned offset then offset else state.position

/-- Where a write request at this offset starts; `O_APPEND` always writes at the end. -/
def writePlace (state : State) (offset : Nat) : Nat :=
  if append then state.contents.length
  else if positioned offset then offset
  else state.position

/-- `on_fs_read` with this many bytes. -/
def transferIn (state : State) (id : CallId) (size offset count : Nat) : Option State :=
  let place := state.readPlace offset
  if count ≤ bufLength size ∧ count ≤ state.contents.length - place then
    some ({ state with position := state.positionAfter offset (place + count) }.setCall id
      (.read size offset ((state.contents.drop place).take count)))
  else none

/-- `on_fs_write` when this many bytes of the data have been written. -/
def onFsWrite (data : Bytes) (offset written : Nat) : Call :=
  if data.length ≤ written then .wrote data offset else .writing data offset written

/-- The file after these bytes have been written by a request at this offset. -/
def write (state : State) (offset : Nat) (bytes : Bytes) : State :=
  let place := state.writePlace append offset
  { state with
    position := state.positionAfter offset (place + bytes.length)
    contents := overwrite state.contents place bytes }

/-- The request for the rest of the data has written this many bytes. -/
def transferOut (state : State) (id : CallId) (data : Bytes) (offset written count : Nat) :
    Option State :=
  let target := (offset + written) % 2 ^ 64
  if count ≤ bufLength (data.length - written) ∧
      state.writePlace append target + count < 2 ^ 63 then
    some ((state.write append target ((data.drop written).take count)).setCall id
      (onFsWrite data offset (written + count)))
  else none

def step (state : State) : Action → Option State
  | .readSome id size =>
      match state.call id with
      | .idle => some (state.setCall id (.reading size state.cursor))
      | _ => none
  | .writeSome id data =>
      match state.call id with
      | .idle =>
          if data = [] then some (state.setCall id (.wrote data state.cursor))
          else some (state.setCall id (.writing data state.cursor 0))
      | _ => none
  | .seek id offset =>
      match state.call id with
      | .idle =>
          if offset < 2 ^ 64 then
            some ({ state with cursor := offset }.setCall id (.done (.seek offset) .sought))
          else none
      | _ => none
  | .tell id =>
      match state.call id with
      | .idle => some (state.setCall id (.done .tell (.told state.cursor)))
      | _ => none
  | .transferIn id count =>
      match state.call id with
      | .reading size offset => state.transferIn id size offset count
      | _ => none
  | .transferOut id count =>
      match state.call id with
      | .writing data offset written => state.transferOut append id data offset written count
      | _ => none
  | .fail id error =>
      match state.call id with
      | .reading size _ => some (state.setCall id (.done (.readSome size) (.threw error)))
      | .writing data _ _ => some (state.setCall id (.done (.writeSome data) (.threw error)))
      | _ => none
  | .advance id =>
      match state.call id with
      | .read size offset bytes =>
          some ((state.addCursor bytes.length).setCall id
            (.done (.readSome size) (.read offset bytes)))
      | .wrote data offset =>
          some ((state.addCursor data.length).setCall id
            (.done (.writeSome data) (.wrote offset data)))
      | _ => none

end State

/-- An open file: the flag `O_APPEND` and what it contains. -/
structure File where
  append : Bool
  contents : Bytes
  fits : contents.length < 2 ^ 63

def machine (file : File) : Machine State Action where
  step := State.step file.append

def initial (file : File) : State where
  contents := file.contents

/-- No call is in progress. -/
def Quiet (state : State) : Prop :=
  ∀ id, (state.call id).busy = false

/-- The calls are made one at a time. -/
def Alone (state : State) : Action → Prop
  | .readSome _ _ => Quiet state
  | .writeSome _ _ => Quiet state
  | .seek _ _ => Quiet state
  | .tell _ => Quiet state
  | _ => True

/-- Some sequential execution ends in this state: with these calls and results, this
content and this cursor. -/
def Linearizable (file : File) (state : State) : Prop :=
  ∃ run, (machine file).Meets Alone run (initial file) ∧
    (machine file).run run (initial file) = some state

/-- The bytes of the file a completed transfer was about: its offset and its length. -/
def Call.span : Call → Option (Nat × Nat)
  | .done _ (.read offset bytes) => some (offset, bytes.length)
  | .done _ (.wrote offset data) => some (offset, data.length)
  | _ => none

/-- No call of `seek` has been made. -/
def SeekFree (state : State) : Prop :=
  ∀ id offset, state.call id ≠ .done (.seek offset) .sought

/-- Two completed transfers have no byte in common. -/
def Disjoint (state : State) : Prop :=
  ∀ first second left right, first ≠ second → (state.call first).span = some left →
    (state.call second).span = some right →
    left.1 + left.2 ≤ right.1 ∨ right.1 + right.2 ≤ left.1

/-- The completed transfers follow one another up to the cursor. -/
def Tiles : Nat → List (Nat × Nat) → Nat → Prop
  | start, [], stop => start = stop
  | start, (offset, length) :: rest, stop => offset = start ∧ Tiles (start + length) rest stop

/-- The completed transfers cover the file from its start to the cursor, without a gap
and within the file. -/
def Gapless (state : State) : Prop :=
  (∃ order, Records (fun id => (state.call id).span) order ∧
    Tiles 0 (order.map Prod.snd) state.cursor) ∧ state.cursor ≤ state.contents.length

/-- What every completed `write_some` has written is still there. -/
def Intact (state : State) : Prop :=
  ∀ id op offset data, state.call id = .done op (.wrote offset data) →
    (state.contents.drop offset).take data.length = data

/-- The calls on the cursor behave as if made one after another; without `seek` their
transfers are disjoint and consecutive, and no write has overwritten another. -/
def Consistent (file : File) (state : State) : Prop :=
  Linearizable file state ∧
    (SeekFree state → Disjoint state ∧ Gapless state ∧ (file.append = false → Intact state))

/-- A file of eight bytes. -/
def eightBytes : File where
  append := false
  contents := [97, 98, 99, 100, 101, 102, 103, 104]
  fits := by decide

/-- Two reads of four bytes, the second of which loads the cursor before the first has
advanced it. -/
def overlapping : List Action :=
  [.readSome 0 4, .readSome 1 4, .transferIn 0 4, .transferIn 1 4, .advance 0, .advance 1]

theorem same_bytes_overlapping :
    ¬ ∀ (file : File) (state : State), (machine file).Reachable (initial file) state →
      Quiet state → Consistent file state := by
  intro hall
  obtain ⟨-, hseekFree⟩ := hall eightBytes _ ⟨overlapping, rfl⟩ (by
    rintro (_ | _ | id) <;> rfl)
  obtain ⟨hdisjoint, -⟩ := hseekFree (by
    rintro (_ | _ | id) offset <;> exact nofun)
  have hoverlap := hdisjoint 0 1 (0, 4) (0, 4) (by decide) rfl rfl
  simp at hoverlap

end Fiberuv.Io.FileCursor
