import Mathlib.Data.Int.Notation
import Fiberuv.Foundation.Framing

/-! # Result codes, errors and buffers

The libuv result codes the library tests for, the exceptions it throws, and the buffers it
passes to libuv.
-/

namespace Fiberuv

open Foundation

def uvEof : Int := -4095
def uvEpipe : Int := -32
def uvEconnreset : Int := -104
def uvEintr : Int := -4
def uvEagain : Int := -11

/-- The exceptions of the library. `uv_error` appends `uv_strerror` of the code to the
site. -/
inductive Error where
  | uv (site : String) (code : Int)
  | runtime (text : String)
  | badAlloc
  /-- `std::length_error`. -/
  | lengthError
  deriving DecidableEq, Repr

/-- `ensure_loop_alive`. -/
def loopNotAlive : Error := .runtime "event loop is not alive"

/-- `uv_buf_init` of these bytes with their length, which it takes as an `unsigned int`. -/
def bufInit (bytes : Bytes) : Bytes := bytes.take (bytes.length % 2 ^ 32)

theorem bufInit_length (bytes : Bytes) : (bufInit bytes).length = bytes.length % 2 ^ 32 := by
  rw [bufInit, List.length_take]
  exact Nat.min_eq_left (Nat.mod_le _ _)

/-- The buffer has all of the bytes unless their length does not fit. -/
theorem bufInit_eq_iff (bytes : Bytes) : bufInit bytes = bytes ↔ bytes.length < 2 ^ 32 := by
  constructor
  · intro hsame
    have hlength := bufInit_length bytes
    rw [hsame] at hlength
    omega
  · intro hlength
    rw [bufInit, Nat.mod_eq_of_lt hlength, List.take_length]

end Fiberuv
