import Fiberuv.Io.FileRequests
import Fiberuv.Tcp.Connection
import Fiberuv.Udp.Socket

/-! # Lengths that are narrowed

`TcpConnection::write`, `UdpSocket::send_to` and `File::read_at` take a length as a
`std::size_t` and make one request with the length as an `unsigned int`. The write and the
send report success once libuv has sent the buffer it was given; the read reports what it
has got. A length from `2 ^ 32` on is therefore cut without an error.
-/

namespace Fiberuv.Io.Lengths

open Foundation
open Io.FileCursor (bufLength)
open Io.FileRequests (FsRead Kernel fsReadAt onFsRead readPlace_of_lt)

/-- What a call has given to libuv, if it made a request, and how it ended. -/
structure Sent where
  buffer : Option Bytes
  outcome : Except Error Unit

/-- A call that returns normally has given all of its payload to libuv. -/
def Sent.Whole (sent : Sent) (payload : Bytes) : Prop :=
  sent.outcome = .ok () → sent.buffer.getD [] = payload

/-- `TcpConnection::write`, with the result of `uv_write` and the status of its request. -/
def tcpWrite (impl : Option Tcp.State) (payload : Bytes) (rc status : Int) : Sent :=
  match impl with
  | none => ⟨none, .error (.runtime "invalid connection")⟩
  | some state =>
      match state.connectionWrite payload rc with
      | .returned outcome => ⟨none, outcome⟩
      | .waiting buffer => ⟨some buffer, Tcp.onWriteDone status⟩

/-- `UdpSocket::send_to`, with whether its destination could be parsed, the result of
`uv_udp_send` and the status of its request. -/
def udpSendTo (impl : Option Udp.State) (parsed : Bool) (payload : Bytes) (rc status : Int) :
    Sent :=
  match impl with
  | none => ⟨none, .error Udp.invalidSocket⟩
  | some state =>
      match state.sendTo parsed payload rc with
      | .returned outcome => ⟨none, outcome⟩
      | .waiting buffer => ⟨some buffer, Udp.onUdpSend status⟩

/-- The fields of `File::Impl` that `read_at` tests. -/
structure FileImpl where
  closed : Bool
  alive : Bool

/-- `File::read_at`, with the result of `uv_fs_read` and of its request: the length of the
string that is returned. -/
def readAt (impl : Option FileImpl) (size : Nat) (offset : UInt64) (rc result : Int) :
    Except Error Nat :=
  match impl with
  | none => .error (.runtime "invalid file")
  | some file =>
      if file.closed then .error (.runtime "invalid file")
      else if !file.alive then .error loopNotAlive
      else (fsReadAt size offset rc).bind fun _ => onFsRead result

/-- An empty string is returned only for the size zero or where the file has ended. -/
def EmptyAtEnd (outcome : Except Error Nat) (size : Nat) (offset : UInt64) (kernel : Kernel) :
    Prop :=
  outcome = .ok 0 → size = 0 ∨ kernel.length ≤ offset.toNat

/-- The connection can be written to. -/
def WritableConnection (impl : Option Tcp.State) : Prop :=
  ∃ state, impl = some state ∧ (!state.initialized || state.closed) = false ∧
    (!state.alive) = false

/-- The socket can be sent from. -/
def SendingSocket (impl : Option Udp.State) : Prop :=
  ∃ state, impl = some state ∧ (!state.initialized || state.closed) = false ∧
    (!state.alive) = false

/-- The file can be read. -/
def ReadableFile (impl : Option FileImpl) : Prop :=
  ∃ file, impl = some file ∧ file.closed = false ∧ (!file.alive) = false

/-- How a call with a single request can go: it throws, it has nothing to send, or it
hands libuv the buffer and returns. -/
inductive Course (payload : Bytes) (goes : Prop) : Sent → Prop where
  | threw (error : Error) (buffer : Option Bytes) (hstops : ¬ goes) :
      Course payload goes ⟨buffer, .error error⟩
  | nothing (hempty : payload = []) : Course payload goes ⟨none, .ok ()⟩
  | sent (hgoes : goes) : Course payload goes ⟨some (bufInit payload), .ok ()⟩

/-- Such a call gives libuv all of its payload exactly when the length fits or it throws. -/
theorem Course.whole_iff {payload : Bytes} {goes : Prop} {sent : Sent}
    (hcourse : Course payload goes sent) :
    sent.Whole payload ↔ payload.length < 2 ^ 32 ∨ ¬ goes := by
  cases hcourse with
  | threw error buffer hstops => simp [Sent.Whole, hstops]
  | nothing hempty => simp [Sent.Whole, hempty]
  | sent hgoes => simp [Sent.Whole, bufInit_eq_iff, hgoes]

theorem tcpWrite_course (impl : Option Tcp.State) (payload : Bytes) (rc status : Int) :
    Course payload (WritableConnection impl ∧ 0 ≤ rc ∧ 0 ≤ status)
      (tcpWrite impl payload rc status) := by
  cases impl with
  | none => exact .threw _ _ (by simp [WritableConnection])
  | some state =>
      simp only [tcpWrite, Tcp.State.connectionWrite, WritableConnection, Option.some.injEq,
        exists_eq_left']
      by_cases hinvalid : (!state.initialized || state.closed) = true
      · simp only [hinvalid, if_true]
        exact .threw _ _ (by simp)
      by_cases hdead : (!state.alive) = true
      · simp only [hinvalid, hdead, if_true]
        exact .threw _ _ (by simp)
      by_cases hempty : payload = []
      · simp only [hinvalid, hdead, hempty, if_true]
        exact .nothing rfl
      by_cases hrc : rc < 0
      · simp only [hinvalid, hdead, hempty, hrc, if_true, if_false]
        exact .threw _ _ (by omega)
      by_cases hstatus : status < 0
      · simp only [hinvalid, hdead, hempty, hrc, Tcp.onWriteDone, hstatus, if_true, if_false]
        exact .threw _ _ (by omega)
      · simp only [hinvalid, hdead, hempty, hrc, Tcp.onWriteDone, hstatus, if_false]
        exact .sent ⟨⟨by simp, by simp⟩, by omega, by omega⟩

theorem udpSendTo_course (impl : Option Udp.State) (parsed : Bool) (payload : Bytes)
    (rc status : Int) :
    Course payload (SendingSocket impl ∧ parsed = true ∧ 0 ≤ rc ∧ 0 ≤ status)
      (udpSendTo impl parsed payload rc status) := by
  cases impl with
  | none => exact .threw _ _ (by simp [SendingSocket])
  | some state =>
      simp only [udpSendTo, Udp.State.sendTo, SendingSocket, Option.some.injEq, exists_eq_left']
      by_cases hinvalid : (!state.initialized || state.closed) = true
      · simp only [hinvalid, if_true]
        exact .threw _ _ (by simp)
      by_cases hdead : (!state.alive) = true
      · simp only [hinvalid, hdead, if_true]
        exact .threw _ _ (by simp)
      by_cases hempty : payload = []
      · simp only [hinvalid, hdead, hempty, if_true]
        exact .nothing rfl
      cases parsed with
      | false =>
          simp only [hinvalid, hdead, hempty, Bool.not_false, if_true, if_false]
          exact .threw _ _ (by simp)
      | true =>
          by_cases hrc : rc < 0
          · simp only [hinvalid, hdead, hempty, hrc, Bool.not_true, if_true, if_false]
            exact .threw _ _ (by omega)
          by_cases hstatus : status < 0
          · simp only [hinvalid, hdead, hempty, hrc, Bool.not_true, Udp.onUdpSend, hstatus,
              if_true, if_false]
            exact .threw _ _ (by omega)
          · simp only [hinvalid, hdead, hempty, hrc, Bool.not_true, Udp.onUdpSend, hstatus,
              if_false]
            exact .sent ⟨⟨by simp, by simp⟩, trivial, by omega, by omega⟩

/-- A read throws, or returns as many bytes as its request has got. -/
theorem readAt_course (impl : Option FileImpl) (size : Nat) (offset : UInt64) (rc result : Int) :
    (¬ (ReadableFile impl ∧ 0 ≤ rc) ∧ ∃ error, readAt impl size offset rc result = .error error) ∨
      (ReadableFile impl ∧ 0 ≤ rc) ∧ readAt impl size offset rc result = onFsRead result := by
  cases impl with
  | none => exact .inl ⟨by simp [ReadableFile], _, rfl⟩
  | some file =>
      simp only [readAt, ReadableFile, Option.some.injEq, exists_eq_left']
      by_cases hclosed : file.closed = true
      · exact .inl ⟨by simp [hclosed], _, if_pos hclosed⟩
      by_cases hdead : (!file.alive) = true
      · exact .inl ⟨by simp [hdead], _, by rw [if_neg hclosed, if_pos hdead]⟩
      by_cases hrc : rc < 0
      · refine .inl ⟨by omega, .uv "uv_fs_read(start)" rc, ?_⟩
        rw [if_neg hclosed, if_neg hdead, fsReadAt, if_pos hrc]
        rfl
      · refine .inr ⟨⟨⟨by simpa using hclosed, by simpa using hdead⟩, by omega⟩, ?_⟩
        rw [if_neg hclosed, if_neg hdead, fsReadAt, if_neg hrc]
        rfl

theorem readAt_empty_iff (impl : Option FileImpl) (size : Nat) (offset : UInt64)
    (rc result : Int) :
    readAt impl size offset rc result = .ok 0 ↔ ReadableFile impl ∧ 0 ≤ rc ∧ result = 0 := by
  rw [← and_assoc]
  obtain ⟨hstops, error, herror⟩ | ⟨hgoes, hread⟩ := readAt_course impl size offset rc result
  · simp [herror, hstops]
  · rw [hread, onFsRead]
    split
    next hfailed =>
      have hnonzero : result ≠ 0 := by omega
      simp [hnonzero]
    next hnonneg =>
      have hnone : result.toNat = 0 ↔ result = 0 := by omega
      rw [Except.ok.injEq, hnone]
      exact (and_iff_right hgoes).symm

/-- An empty string means the end of the file exactly when the narrowed size asked for a
byte, or nothing was there to be read, or the read failed. -/
theorem readAt_emptyAtEnd_iff (impl : Option FileImpl) (size : Nat) (offset : UInt64)
    (kernel : Kernel) (rc result : Int) (hreads : kernel.Reads ⟨offset, size⟩ result) :
    EmptyAtEnd (readAt impl size offset rc result) size offset kernel ↔
      (¬ 2 ^ 32 ∣ size ∨ size = 0 ∨ kernel.length ≤ offset.toNat) ∨
        ¬ (ReadableFile impl ∧ 0 ≤ rc ∧ 0 ≤ result) := by
  rw [EmptyAtEnd, readAt_empty_iff]
  constructor
  · intro hempty
    by_cases hread : ReadableFile impl ∧ 0 ≤ rc ∧ 0 ≤ result
    · refine .inl (or_iff_not_imp_left.mpr fun hdvd => ?_)
      obtain ⟨hfile, hrc, hresult⟩ := hread
      -- The narrowed size is zero, so there is nothing the kernel could have read.
      have hlength : bufLength size = 0 := Nat.mod_eq_zero_of_dvd (not_not.mp hdvd)
      have hzero : result = 0 := by
        have hle : result ≤ (bufLength size : Nat) := (hreads hresult).1
        omega
      exact hempty ⟨hfile, hrc, hzero⟩
    · exact .inr hread
  · rintro hcondition ⟨hfile, hrc, rfl⟩
    rcases hcondition with (hdvd | hsize | hend) | hfailed
    · obtain ⟨-, -, hnone⟩ := hreads le_rfl
      rcases hnone rfl with hlength | hplace
      · exact absurd (Nat.dvd_of_mod_eq_zero hlength) hdvd
      · right
        by_cases hoffset : offset.toNat < 2 ^ 63
        · rwa [FsRead.position, readPlace_of_lt kernel hoffset] at hplace
        · have hkernel := kernel.length_lt
          omega
    · exact .inl hsize
    · exact .inr hend
    · exact absurd ⟨hfile, hrc, le_rfl⟩ hfailed

/-- Exactly when no length is cut: a write or a send has less than `2 ^ 32` bytes, and the
size of a read that finds something is no multiple of `2 ^ 32`, unless the call throws. -/
theorem lengths_kept_iff (connection : Option Tcp.State) (socket : Option Udp.State)
    (file : Option FileImpl) (payload : Bytes) (parsed : Bool) (size : Nat) (offset : UInt64)
    (kernel : Kernel) (rc status result : Int) :
    ((tcpWrite connection payload rc status).Whole payload ↔
      payload.length < 2 ^ 32 ∨ ¬ (WritableConnection connection ∧ 0 ≤ rc ∧ 0 ≤ status)) ∧
    ((udpSendTo socket parsed payload rc status).Whole payload ↔
      payload.length < 2 ^ 32 ∨
        ¬ (SendingSocket socket ∧ parsed = true ∧ 0 ≤ rc ∧ 0 ≤ status)) ∧
    (kernel.Reads ⟨offset, size⟩ result →
      (EmptyAtEnd (readAt file size offset rc result) size offset kernel ↔
        (¬ 2 ^ 32 ∣ size ∨ size = 0 ∨ kernel.length ≤ offset.toNat) ∨
          ¬ (ReadableFile file ∧ 0 ≤ rc ∧ 0 ≤ result))) :=
  ⟨(tcpWrite_course connection payload rc status).whole_iff,
    (udpSendTo_course socket parsed payload rc status).whole_iff,
    readAt_emptyAtEnd_iff file size offset kernel rc result⟩

/-- A file of four bytes. -/
def fourBytes : Kernel := ⟨4, 0, by decide, by decide⟩

/-- Three bytes are written to a connection and sent from a socket, and a read gets the last two
bytes of a file. -/
theorem lengths_kept_short :
    (tcpWrite (some {}) [1, 2, 3] 0 0).Whole [1, 2, 3] ∧
      (udpSendTo (some {}) true [1, 2, 3] 0 0).Whole [1, 2, 3] ∧
      EmptyAtEnd (readAt (some ⟨false, true⟩) 8 2 0 2) 8 2 fourBytes := by
  obtain ⟨htcp, hudp, hread⟩ :=
    lengths_kept_iff (some {}) (some {}) (some ⟨false, true⟩) [1, 2, 3] true 8 2 fourBytes 0 0 2
  refine ⟨htcp.mpr (.inl (by decide)), hudp.mpr (.inl (by decide)), ?_⟩
  exact (hread (by decide)).mpr (.inl (.inl (by decide)))

/-- One byte too many: libuv gets a buffer of one byte, or none. -/
theorem lengths_cut :
    ¬ (∀ impl payload rc status, (tcpWrite impl payload rc status).Whole payload) ∧
    ¬ (∀ impl parsed payload rc status, (udpSendTo impl parsed payload rc status).Whole payload) ∧
    ¬ ∀ impl size offset (kernel : Kernel) rc result, kernel.Reads ⟨offset, size⟩ result →
      EmptyAtEnd (readAt impl size offset rc result) size offset kernel := by
  have hlong : ¬ (List.replicate (2 ^ 32 + 1) (0 : UInt8)).length < 2 ^ 32 := by
    rw [List.length_replicate]
    decide
  refine ⟨fun hall => ?_, fun hall => ?_, fun hall => ?_⟩
  · have hwhole := hall (some {}) (List.replicate (2 ^ 32 + 1) 0) 0 0
    rcases (tcpWrite_course _ _ _ _).whole_iff.mp hwhole with hshort | hfailed
    · exact hlong hshort
    · exact hfailed ⟨⟨_, rfl, rfl, rfl⟩, le_rfl, le_rfl⟩
  · have hwhole := hall (some {}) true (List.replicate (2 ^ 32 + 1) 0) 0 0
    rcases (udpSendTo_course _ _ _ _ _).whole_iff.mp hwhole with hshort | hfailed
    · exact hlong hshort
    · exact hfailed ⟨⟨_, rfl, rfl, rfl⟩, rfl, le_rfl, le_rfl⟩
  · have hempty := hall (some ⟨false, true⟩) (2 ^ 32) 0 fourBytes 0 0 (by decide) rfl
    exact absurd hempty (by decide)

end Fiberuv.Io.Lengths
