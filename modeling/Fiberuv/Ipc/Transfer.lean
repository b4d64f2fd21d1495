import Fiberuv.Foundation.Framing
import Fiberuv.Uv

/-! # The transfer loops of the process channel

`write_exact` and `read_exact` cut a buffer into chunks of at most 64 KiB, submit one
request for each chunk and wait for its result. Between two requests all they
remember is the offset, so each loop is given here as what it does with the result of
the request at an offset: go on with the next request, return, or throw.

`send_blob` and `recv_blob` run these loops over the length field and then over the
payload. Their states are the points where a request is outstanding. The length field
is the object representation of a `std::uint64_t`, little-endian on the supported
hosts.
-/

namespace Fiberuv.Ipc

open Foundation

def invalidChannel : Error := .runtime "invalid ipc process channel"
def payloadTooLarge : Error := .runtime "ipc send_blob payload too large"
def frameTooLarge : Error := .runtime "ipc recv frame too large"
def truncatedPayload : Error := .runtime "ipc recv truncated payload"
def sizeMismatch : Error := .runtime "ipc recv<T>: payload size mismatch"

/-- How `fs_write_once` or `fs_read_once` ends: libuv does not take the request, or
its callback reports a result. -/
inductive Outcome where
  | notStarted (rc : Int)
  | result (value : Int)
  deriving DecidableEq

/-- Where a transfer loop stands after the result of a request. -/
inductive Progress where
  | running (offset : Nat)
  | returned (value : Bool)
  | threw (error : Error)
  deriving DecidableEq

def kChunkBytes : Nat := 64 * 1024

/-- The size of the request at an offset. -/
def chunk (size offset : Nat) : Nat :=
  min kChunkBytes (size - offset)

/-- The loop test `offset < size`. -/
def enterLoop (size offset : Nat) : Progress :=
  if offset < size then .running offset else .returned true

def writeExactNext (size offset : Nat) : Outcome → Progress
  | .notStarted rc => .threw (.uv "uv_fs_write(start)" rc)
  | .result wrote =>
      if 0 < wrote then enterLoop size (offset + wrote.toNat)
      else if wrote = 0 ∨ wrote = uvEpipe ∨ wrote = uvEconnreset ∨ wrote = uvEof then
        .returned false
      else if wrote = uvEintr ∨ wrote = uvEagain then .running offset
      else .threw (.uv "uv_fs_write" wrote)

def readExactNext (allowEofAtStart : Bool) (size offset : Nat) : Outcome → Progress
  | .notStarted rc => .threw (.uv "uv_fs_read(start)" rc)
  | .result nread =>
      if 0 < nread then enterLoop size (offset + nread.toNat)
      else if nread = 0 ∨ nread = uvEof then
        if allowEofAtStart ∧ offset = 0 then .returned false else .threw truncatedPayload
      else if nread = uvEintr ∨ nread = uvEagain then .running offset
      else .threw (.uv "uv_fs_read" nread)

theorem writeExactNext_wrote (size offset count : Nat) (hcount : 0 < count) :
    writeExactNext size offset (.result count) = enterLoop size (offset + count) := by
  simp [writeExactNext, hcount]

theorem readExactNext_read (allow : Bool) (size offset count : Nat) (hcount : 0 < count) :
    readExactNext allow size offset (.result count) = enterLoop size (offset + count) := by
  simp [readExactNext, hcount]

/-- The results after which both loops submit the same request again. -/
def Retry (code : Int) : Prop :=
  code = uvEintr ∨ code = uvEagain

instance (code : Int) : Decidable (Retry code) :=
  inferInstanceAs (Decidable (_ ∨ _))

theorem writeExactNext_retry (size offset : Nat) {code : Int} (hcode : Retry code) :
    writeExactNext size offset (.result code) = .running offset := by
  obtain rfl | rfl := hcode <;> rfl

theorem readExactNext_retry (allow : Bool) (size offset : Nat) {code : Int}
    (hcode : Retry code) :
    readExactNext allow size offset (.result code) = .running offset := by
  obtain rfl | rfl := hcode <;> rfl

/-- A buffer of at most `std::size_t` many bytes, as `send_stream` takes it and as
`send<T>` sees its value. -/
structure Payload where
  bytes : Bytes
  fits : bytes.length < 2 ^ 64

def Payload.ofByte (byte : UInt8) : Payload where
  bytes := [byte]
  fits := by simp

/-- The stream of a list of payloads, with its 8-byte length fields. -/
def stream (payloads : List Payload) : Bytes :=
  wire 8 (payloads.map Payload.bytes)

@[simp] theorem stream_nil : stream [] = [] := rfl

@[simp] theorem stream_cons (payload : Payload) (rest : List Payload) :
    stream (payload :: rest) = frame 8 payload.bytes ++ stream rest := rfl

theorem stream_eq_nil {payloads : List Payload} (hstream : stream payloads = []) :
    payloads = [] := by
  cases payloads with
  | nil => rfl
  | cons payload rest =>
      have := congrArg List.length hstream
      simp [frame] at this

/-- The length field at the front of a stream belongs to its first payload. -/
theorem stream_length_field {payloads : List Payload} {field suffix : Bytes}
    (hstream : stream payloads = field ++ suffix) (hfield : field.length = 8) :
    ∃ payload rest, payloads = payload :: rest ∧ field = leEncode 8 payload.bytes.length ∧
      leDecode field = payload.bytes.length ∧ suffix = payload.bytes ++ stream rest := by
  obtain ⟨bytes, rest, hmap, hlength, hsuffix⟩ :=
    payload_of_length_field hstream hfield (by decide)
  obtain ⟨payload, rest, rfl, rfl, rfl⟩ := List.map_eq_cons_iff.mp hmap
  refine ⟨payload, rest, rfl, hlength, ?_, hsuffix⟩
  rw [hlength, leDecode_leEncode]
  simpa using payload.fits

/-- The buffer of the frame that is being written. -/
inductive Part where
  | length
  | payload
  deriving DecidableEq

def Payload.part (payload : Payload) : Part → Bytes
  | .length => leEncode 8 payload.bytes.length
  | .payload => payload.bytes

/-- A call of `send_blob`: a write request is outstanding, or the call has ended. -/
inductive SendState where
  | writing (part : Part) (offset : Nat)
  | finished (result : Except Error Bool)

/-- What `send_blob` does when `write_exact` has gone on, returned or thrown. -/
def sendAfter (payload : Payload) : Part → Progress → SendState
  | part, .running offset => .writing part offset
  | _, .threw error => .finished (.error error)
  | _, .returned false => .finished (.ok false)
  | .length, .returned true =>
      if payload.bytes.length = 0 then .finished (.ok true) else .writing .payload 0
  | .payload, .returned true => .finished (.ok true)

/-- The start of `send_blob`, up to its first request. -/
def sendBlob (valid : Bool) (payload : Payload) : SendState :=
  if !valid then .finished (.error invalidChannel)
  else if payload.bytes.length > 2 ^ 64 - 1 then .finished (.error payloadTooLarge)
  else sendAfter payload .length (enterLoop 8 0)

/-- `send_blob` from the outcome of one write request to the next one. -/
def sendBlobNext (payload : Payload) (part : Part) (offset : Nat) (outcome : Outcome) :
    SendState :=
  sendAfter payload part (writeExactNext (payload.part part).length offset outcome)

/-- A call of `recv_blob`: a read request for the length field or for the payload is
outstanding, with the bytes read so far, or the call has ended. -/
inductive RecvState where
  | length (got : Bytes)
  | payload (size : Nat) (got : Bytes)
  | finished (result : Except Error (Option Bytes))

/-- What the constructor of a `std::vector` of this many bytes throws when it fails: above its
`max_size` it does not get to the allocation. -/
def vectorError (size : Nat) : Error :=
  if size > 2 ^ 63 - 1 then .lengthError else .badAlloc

/-- The rest of `recv_blob` after the length field: allocate, and read unless the
payload is empty. The first test never holds for a 64-bit `std::size_t`. -/
def recvPayload (memory : Nat → Bool) (size : Nat) : RecvState :=
  if size > 2 ^ 64 - 1 then .finished (.error frameTooLarge)
  else if !memory size then .finished (.error (vectorError size))
  else if size = 0 then .finished (.ok (some []))
  else .payload size []

/-- The start of `recv_blob`, up to its first request. -/
def recvBlob (valid : Bool) : RecvState :=
  if !valid then .finished (.error invalidChannel) else .length []

/-- `recv_blob` from the outcome of one read request, which stored `bytes` at the
offset, to the next one. What `read_exact` returns for the payload is not looked at;
the part of the vector that was not read would still be zero. -/
def recvBlobNext (memory : Nat → Bool) (bytes : Bytes) (outcome : Outcome) :
    RecvState → RecvState
  | .length got =>
      match readExactNext true 8 got.length outcome with
      | .running _ => .length (got ++ bytes)
      | .returned true => recvPayload memory (leDecode (got ++ bytes))
      | .returned false => .finished (.ok none)
      | .threw error => .finished (.error error)
  | .payload size got =>
      match readExactNext false size got.length outcome with
      | .running _ => .payload size (got ++ bytes)
      | .returned _ =>
          .finished (.ok (some ((got ++ bytes) ++
            List.replicate (size - (got ++ bytes).length) 0)))
      | .threw error => .finished (.error error)
  | .finished result => .finished result

/-- The receive operations: `recv_stream`, and `recv<T>` for a `T` of the given size. -/
inductive RecvCall where
  | stream
  | typed (size : Nat)
  deriving DecidableEq

/-- What the receive operation makes of the frame `recv_blob` returned. -/
def RecvCall.unpack : RecvCall → Except Error (Option Bytes) → Except Error (Option Bytes)
  | .stream, result => result
  | .typed _, .error error => .error error
  | .typed _, .ok none => .ok none
  | .typed size, .ok (some frame) =>
      if frame.length ≠ size then .error sizeMismatch else .ok (some frame)

/-- The operation can return this payload: `recv<T>` asks for exactly `sizeof(T)` bytes. -/
def RecvCall.Accepts (payload : Payload) : RecvCall → Prop
  | .stream => True
  | .typed size => payload.bytes.length = size

theorem RecvCall.unpack_none (call : RecvCall) : call.unpack (.ok none) = .ok none := by
  cases call <;> rfl

theorem RecvCall.unpack_some {call : RecvCall} {payload : Payload}
    (haccepts : call.Accepts payload) :
    call.unpack (.ok (some payload.bytes)) = .ok (some payload.bytes) := by
  cases call with
  | stream => rfl
  | typed size =>
      have hsize : payload.bytes.length = size := haccepts
      simp [unpack, hsize]

section Send

variable (payload : Payload)

/-- The bytes of the frame that the call still has to write. -/
def SendState.unsent : SendState → Bytes
  | .writing .length offset => (leEncode 8 payload.bytes.length).drop offset ++ payload.bytes
  | .writing .payload offset => payload.bytes.drop offset
  | .finished _ => []

/-- A request is outstanding only for a nonempty chunk, and the call has not failed. -/
def SendState.Healthy : SendState → Prop
  | .writing part offset => offset < (payload.part part).length
  | .finished result => result = .ok true

theorem sendBlob_valid : sendBlob true payload = .writing .length 0 := by
  have := payload.fits
  rw [sendBlob, if_neg (by simp), if_neg (by omega)]
  rfl

theorem sendAfter_enterLoop {part : Part} {offset : Nat}
    (hoffset : offset ≤ (payload.part part).length) :
    (sendAfter payload part (enterLoop (payload.part part).length offset)).unsent payload =
        (SendState.writing part offset).unsent payload ∧
      (sendAfter payload part (enterLoop (payload.part part).length offset)).Healthy payload := by
  rw [enterLoop]
  split
  next hmore => exact ⟨rfl, hmore⟩
  next hdone =>
      cases part with
      | length =>
          have hlength : offset = 8 := by
            simp only [Payload.part, leEncode_length] at hoffset hdone
            omega
          simp only [sendAfter]
          split
          next hempty =>
              have hnil : payload.bytes = [] := List.eq_nil_of_length_eq_zero hempty
              simp [SendState.unsent, SendState.Healthy, hnil, hlength]
          next hne =>
              simp only [SendState.unsent, SendState.Healthy, Payload.part]
              refine ⟨?_, Nat.pos_of_ne_zero hne⟩
              have hwritten : (leEncode 8 payload.bytes.length).drop offset = [] :=
                List.drop_eq_nil_of_le (by simp [hlength])
              simp [hwritten]
      | payload =>
          have hlength : payload.bytes.length ≤ offset := by
            simpa [Payload.part] using hdone
          simp [sendAfter, SendState.unsent, SendState.Healthy,
            List.drop_eq_nil_of_le hlength]

/-- A request that wrote some bytes takes exactly these off the unsent part. -/
theorem sendBlobNext_wrote {part : Part} {offset count : Nat} (hcount : 0 < count)
    (hchunk : count ≤ chunk (payload.part part).length offset) :
    (sendBlobNext payload part offset (.result count)).unsent payload =
        ((SendState.writing part offset).unsent payload).drop count ∧
      (sendBlobNext payload part offset (.result count)).Healthy payload := by
  have hbound : offset + count ≤ (payload.part part).length := by
    have := Nat.le_trans hchunk (Nat.min_le_right _ _)
    omega
  rw [sendBlobNext, writeExactNext_wrote _ _ _ hcount]
  obtain ⟨hunsent, hhealthy⟩ := sendAfter_enterLoop payload hbound
  refine ⟨hunsent.trans ?_, hhealthy⟩
  cases part with
  | length =>
      simp only [Payload.part, leEncode_length] at hbound
      simp only [SendState.unsent]
      rw [List.drop_append_of_le_length (by simp; omega), List.drop_drop]
  | payload => simp only [SendState.unsent, List.drop_drop]

theorem sendBlobNext_retry {part : Part} {offset : Nat} {code : Int} (hcode : Retry code) :
    sendBlobNext payload part offset (.result code) = .writing part offset := by
  rw [sendBlobNext, writeExactNext_retry _ _ hcode]
  rfl

end Send

section Receive

variable (memory : Nat → Bool)

/-- The bytes of the current frame that the call has taken off the stream. -/
def RecvState.held : RecvState → Bytes
  | .length got => got
  | .payload size got => leEncode 8 size ++ got
  | .finished _ => []

/-- The size and the offset of the outstanding request. -/
def RecvState.request : RecvState → Option (Nat × Nat)
  | .length got => some (8, got.length)
  | .payload size got => some (size, got.length)
  | .finished _ => none

theorem recvBlobNext_retry {code : Int} (hcode : Retry code) (state : RecvState) :
    recvBlobNext memory [] (.result code) state = state := by
  cases state with
  | length got => simp [recvBlobNext, readExactNext_retry _ _ _ hcode]
  | payload size got => simp [recvBlobNext, readExactNext_retry _ _ _ hcode]
  | finished result => rfl

/-- Bytes read into the length field: it stays incomplete, or it names the size. -/
theorem recvBlobNext_length (got bytes : Bytes) (hbytes : 0 < bytes.length) :
    recvBlobNext memory bytes (.result bytes.length) (.length got) =
      if (got ++ bytes).length < 8 then .length (got ++ bytes)
      else recvPayload memory (leDecode (got ++ bytes)) := by
  by_cases hmore : got.length + bytes.length < 8
  · simp [recvBlobNext, readExactNext_read _ _ _ _ hbytes, enterLoop, hmore]
  · simp [recvBlobNext, readExactNext_read _ _ _ _ hbytes, enterLoop, hmore]

/-- Bytes read into the payload: it stays incomplete, or it is returned. -/
theorem recvBlobNext_payload (size : Nat) (got bytes : Bytes) (hbytes : 0 < bytes.length) :
    recvBlobNext memory bytes (.result bytes.length) (.payload size got) =
      if (got ++ bytes).length < size then .payload size (got ++ bytes)
      else .finished (.ok (some (got ++ bytes))) := by
  by_cases hmore : got.length + bytes.length < size
  · simp [recvBlobNext, readExactNext_read _ _ _ _ hbytes, enterLoop, hmore]
  · have hfull : size - (got.length + bytes.length) = 0 := by omega
    simp [recvBlobNext, readExactNext_read _ _ _ _ hbytes, enterLoop, hmore, hfull]

end Receive

end Fiberuv.Ipc
