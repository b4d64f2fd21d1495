import Fiberuv.Io.FileCursor

/-! # Positioned requests of a file

`fs_read_at` makes one request. `fs_write_at` makes one as well, and `on_fs_write` makes
another one for as long as a part of the data is left, whatever the request before it
reports as written. An offset is an `std::uint64_t` and is passed on as an `int64_t`; the
length of a buffer is passed on as an `unsigned int`. Allocations succeed.
-/

namespace Fiberuv.Io.FileRequests

open Foundation
open Io.FileCursor (bufLength)

/-- `static_cast<int64_t>(offset)`. -/
def toPosition (offset : UInt64) : Int := offset.toInt64.toInt

/-- What libuv is asked to transfer: the position, and the bytes of the buffer. -/
structure Request where
  position : Int
  buffer : Bytes

/-- `FsWriteState` while its request is under way: a part of the data is left. -/
structure FsWrite where
  baseOffset : UInt64
  data : Bytes
  written : Nat
  more : written < data.length

namespace FsWrite

/-- The number of bytes still to be written. -/
def remaining (state : FsWrite) : Nat := state.data.length - state.written

def offset (state : FsWrite) : UInt64 := state.baseOffset + .ofNat state.written

def request (state : FsWrite) : Request where
  position := toPosition state.offset
  buffer := bufInit (state.data.drop state.written)

end FsWrite

/-- A call of `fs_write_at`. -/
inductive WriteAt where
  | pending (state : FsWrite)
  | returned (outcome : Except Error Nat)

/-- `uv_fs_write`, which reports with `rc` whether it takes the request. -/
def submitWrite (state : FsWrite) (rc : Int) : WriteAt :=
  if rc < 0 then .returned (.error (.uv "uv_fs_write(start)" rc)) else .pending state

/-- `fs_write_at` up to its wait. -/
def fsWriteAt (data : Bytes) (offset : UInt64) (rc : Int) : WriteAt :=
  if hmore : 0 < data.length then submitWrite ⟨offset, data, 0, hmore⟩ rc
  else .returned (.ok 0)

/-- `on_fs_write` with the result of the request; `rc` is for the next request. -/
def onFsWrite (state : FsWrite) (result rc : Int) : WriteAt :=
  if result < 0 then .returned (.error (.uv "uv_fs_write" result))
  else
    let written := state.written + result.toNat
    if hmore : written < state.data.length then
      submitWrite ⟨state.baseOffset, state.data, written, hmore⟩ rc
    else .returned (.ok written)

/-- `FsReadState`: the buffer has room for `size` bytes. -/
structure FsRead where
  offset : UInt64
  size : Nat

namespace FsRead

def position (state : FsRead) : Int := toPosition state.offset

/-- The length of the buffer as libuv gets it. -/
def length (state : FsRead) : Nat := bufLength state.size

end FsRead

/-- `fs_read_at` up to its wait. -/
def fsReadAt (size : Nat) (offset : UInt64) (rc : Int) : Except Error FsRead :=
  if rc < 0 then .error (.uv "uv_fs_read(start)" rc) else .ok ⟨offset, size⟩

/-- `on_fs_read`: the number of bytes of the string that is returned. -/
def onFsRead (result : Int) : Except Error Nat :=
  if result < 0 then .error (.uv "uv_fs_read" result) else .ok result.toNat

/-- What the kernel goes by when it serves a request: the length of the file and the
position of the descriptor, both of which it keeps in an `int64_t`. -/
structure Kernel where
  length : Nat
  position : Nat
  length_lt : length < 2 ^ 63
  position_lt : position < 2 ^ 63

namespace Kernel

/-- Where a read request starts. A negative position stands for that of the descriptor. -/
def readPlace (kernel : Kernel) (position : Int) : Nat :=
  if position < 0 then kernel.position else position.toNat

/-- Where a write request starts; `O_APPEND` always writes at the end. -/
def writePlace (kernel : Kernel) (append : Bool) (position : Int) : Nat :=
  if append then kernel.length else kernel.readPlace position

/-- The kernel can answer a read request with this result: an error, or a number of bytes
that are there, and none only where it must. -/
def Reads (kernel : Kernel) (state : FsRead) (result : Int) : Prop :=
  0 ≤ result → result ≤ state.length ∧
    result ≤ (kernel.length - kernel.readPlace state.position : Nat) ∧
    (result = 0 → state.length = 0 ∨ kernel.length ≤ kernel.readPlace state.position)

/-- The kernel can answer a write request with this result: an error, or the number of
bytes of the buffer it has written. -/
def Writes (kernel : Kernel) (append : Bool) (request : Request) (result : Int) : Prop :=
  0 ≤ result → result ≤ request.buffer.length ∧
    kernel.writePlace append request.position + result < 2 ^ 63

instance (kernel : Kernel) (state : FsRead) (result : Int) :
    Decidable (kernel.Reads state result) :=
  inferInstanceAs (Decidable (_ → _))

instance (kernel : Kernel) (append : Bool) (request : Request) (result : Int) :
    Decidable (kernel.Writes append request result) :=
  inferInstanceAs (Decidable (_ → _))

end Kernel

theorem toPosition_eq (offset : UInt64) :
    toPosition offset = if offset.toNat < 2 ^ 63 then (offset.toNat : Int)
      else offset.toNat - 2 ^ 64 := by
  change offset.toInt64.toBitVec.toInt = _
  rw [BitVec.toInt_eq_toNat_cond]
  have hbits : offset.toInt64.toBitVec.toNat = offset.toNat := rfl
  rw [hbits]
  split <;> split <;> omega

theorem toPosition_of_lt {offset : UInt64} (hoffset : offset.toNat < 2 ^ 63) :
    toPosition offset = offset.toNat := by
  rw [toPosition_eq, if_pos hoffset]

theorem readPlace_lt (kernel : Kernel) (offset : UInt64) :
    kernel.readPlace (toPosition offset) < 2 ^ 63 := by
  have hkernel := kernel.position_lt
  have hoffset := offset.toNat_lt
  rw [toPosition_eq, Kernel.readPlace]
  split <;> split <;> omega

theorem readPlace_of_lt (kernel : Kernel) {offset : UInt64} (hoffset : offset.toNat < 2 ^ 63) :
    kernel.readPlace (toPosition offset) = offset.toNat := by
  rw [toPosition_of_lt hoffset]
  exact if_neg (by omega)

/-- An offset with a number of bytes added to it, as long as nothing wraps. -/
theorem offset_add_toNat {offset : UInt64} {count : Nat} (hsum : offset.toNat + count < 2 ^ 64) :
    (offset + .ofNat count).toNat = offset.toNat + count := by
  rw [UInt64.toNat_add, UInt64.toNat_ofNat', Nat.mod_eq_of_lt (by omega : count < 2 ^ 64),
    Nat.mod_eq_of_lt hsum]

end Fiberuv.Io.FileRequests
