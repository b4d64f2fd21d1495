import Fiberuv.Io.FileRequests

/-! # How long `write_at` goes on

The chain of requests that a call of `write_at` makes, against any sequence of results. A
completion that reports no byte is followed by the same request again, so the chain ends
when every completion makes progress, and an answer of zero bytes is what it takes to keep
it going.
-/

namespace Fiberuv.Io.FileRequests

open Foundation

/-- What the operating system reports for one request, and whether libuv takes the next
one. -/
structure Answer where
  result : Int
  rc : Int

/-- A call of `write_at`, with what libuv returns for its first request. -/
structure WriteCall where
  data : Bytes
  offset : UInt64
  rc : Int

namespace WriteCall

variable (call : WriteCall) (answers : Nat → Answer)

/-- The call after this many completions. -/
def after : Nat → WriteAt
  | 0 => fsWriteAt call.data call.offset call.rc
  | count + 1 =>
      match after count with
      | .pending state => onFsWrite state (answers count).result (answers count).rc
      | .returned outcome => .returned outcome

/-- Every result is an error or at most the length submitted. -/
def Answered : Prop :=
  ∀ count state, call.after answers count = .pending state →
    (answers count).result ≤ state.request.buffer.length

def Terminates : Prop :=
  ∃ count outcome, call.after answers count = .returned outcome

/-- Each completion finishes with the length of the data, reports an error, or lowers the
number of bytes still to be written. -/
def Progresses : Prop :=
  ∀ count state, call.after answers count = .pending state →
    call.after answers (count + 1) = .returned (.ok call.data.length) ∨
    (∃ error, call.after answers (count + 1) = .returned (.error error)) ∨
    ∃ next, call.after answers (count + 1) = .pending next ∧ next.remaining < state.remaining

/-- No completion reports zero bytes and is followed by another request. -/
def Moving : Prop :=
  ∀ count state, call.after answers count = .pending state → (answers count).result = 0 →
    (answers count).rc < 0

end WriteCall

section Completion

theorem submitWrite_pending {state next : FsWrite} {rc : Int}
    (hsubmit : submitWrite state rc = .pending next) : next = state := by
  unfold submitWrite at hsubmit
  split at hsubmit
  · cases hsubmit
  · exact (WriteAt.pending.inj hsubmit).symm

theorem fsWriteAt_pending {data : Bytes} {offset : UInt64} {rc : Int} {state : FsWrite}
    (hstart : fsWriteAt data offset rc = .pending state) :
    state.data = data ∧ state.baseOffset = offset ∧ state.written = 0 := by
  unfold fsWriteAt at hstart
  split at hstart
  · rw [submitWrite_pending hstart]
    exact ⟨rfl, rfl, rfl⟩
  · cases hstart

/-- The next request is for the rest of the same data. -/
theorem onFsWrite_pending {state next : FsWrite} {result rc : Int}
    (hnext : onFsWrite state result rc = .pending next) :
    0 ≤ result ∧ next.data = state.data ∧ next.baseOffset = state.baseOffset ∧
      next.written = state.written + result.toNat := by
  unfold onFsWrite at hnext
  split at hnext
  · cases hnext
  next hresult =>
    refine ⟨by omega, ?_⟩
    dsimp only at hnext
    split at hnext
    · rw [submitWrite_pending hnext]
      exact ⟨rfl, rfl, rfl⟩
    · cases hnext

/-- A call returns a number only when it has written at least the data. -/
theorem onFsWrite_ok {state : FsWrite} {result rc : Int} {count : Nat}
    (hok : onFsWrite state result rc = .returned (.ok count)) :
    0 ≤ result ∧ count = state.written + result.toNat ∧ state.data.length ≤ count := by
  unfold onFsWrite at hok
  split at hok
  · cases hok
  next hresult =>
    refine ⟨by omega, ?_⟩
    dsimp only at hok
    split at hok
    · unfold submitWrite at hok
      split at hok <;> cases hok
    next hmore =>
      obtain rfl := Except.ok.inj (WriteAt.returned.inj hok)
      exact ⟨rfl, by omega⟩

theorem request_length_le (state : FsWrite) :
    state.request.buffer.length ≤ state.remaining := by
  rw [FsWrite.request, bufInit_length, List.length_drop]
  exact Nat.mod_le _ _

/-- A completion that reports no byte leaves the call where it was. -/
theorem onFsWrite_zero (state : FsWrite) {rc : Int} (hrc : 0 ≤ rc) :
    onFsWrite state 0 rc = .pending state := by
  have hmore := state.more
  simp [onFsWrite, submitWrite, hmore, hrc]

/-- What one completion does unless it reports no byte. -/
theorem onFsWrite_progress (state : FsWrite) {result rc : Int}
    (hresult : result ≤ state.request.buffer.length) (hmoving : result = 0 → rc < 0) :
    onFsWrite state result rc = .returned (.ok state.data.length) ∨
      (∃ error, onFsWrite state result rc = .returned (.error error)) ∨
      ∃ next, onFsWrite state result rc = .pending next ∧ next.remaining < state.remaining := by
  have hmore := state.more
  have hrequest := request_length_le state
  cases hafter : onFsWrite state result rc with
  | returned outcome =>
      cases outcome with
      | error error => exact .inr (.inl ⟨error, rfl⟩)
      | ok count =>
          obtain ⟨hnonneg, hcount, hdone⟩ := onFsWrite_ok hafter
          unfold FsWrite.remaining at hrequest
          have hall : count = state.data.length := by omega
          exact .inl (hall ▸ rfl)
  | pending next =>
      refine .inr (.inr ⟨next, rfl, ?_⟩)
      obtain ⟨hnonneg, hdata, -, hwritten⟩ := onFsWrite_pending hafter
      have hpositive : result ≠ 0 := by
        rintro rfl
        have hrc := hmoving rfl
        have hrejected :
            onFsWrite state 0 rc = .returned (.error (.uv "uv_fs_write(start)" rc)) := by
          simp [onFsWrite, submitWrite, hmore, hrc]
        rw [hrejected] at hafter
        cases hafter
      rw [FsWrite.remaining, FsWrite.remaining, hdata, hwritten]
      omega

end Completion

namespace WriteCall

variable {call : WriteCall} {answers : Nat → Answer}

theorem after_data {count : Nat} {state : FsWrite}
    (hpending : call.after answers count = .pending state) : state.data = call.data := by
  induction count generalizing state with
  | zero => exact (fsWriteAt_pending hpending).1
  | succ count ih =>
      rw [after] at hpending
      split at hpending
      next before hbefore =>
        rw [(onFsWrite_pending hpending).2.1]
        exact ih hbefore
      · cases hpending

/-- The number of bytes left cannot fall for ever. -/
theorem terminates_of_progresses (hprogresses : call.Progresses answers) :
    call.Terminates answers := by
  have hends : ∀ bound count state, call.after answers count = .pending state →
      state.remaining < bound → call.Terminates answers := by
    intro bound
    induction bound with
    | zero => exact fun _ _ _ hbound => absurd hbound (Nat.not_lt_zero _)
    | succ bound ih =>
        intro count state hpending hbound
        obtain hok | ⟨error, herror⟩ | ⟨next, hnext, hless⟩ := hprogresses count state hpending
        · exact ⟨count + 1, _, hok⟩
        · exact ⟨count + 1, _, herror⟩
        · exact ih (count + 1) next hnext (by omega)
  cases hstart : call.after answers 0 with
  | returned outcome => exact ⟨0, outcome, hstart⟩
  | pending state => exact hends _ 0 state hstart (Nat.lt_succ_self _)

theorem progresses_of_moving (hanswered : call.Answered answers)
    (hmoving : call.Moving answers) : call.Progresses answers := by
  intro count state hpending
  have hstep := onFsWrite_progress state (hanswered count state hpending)
    (hmoving count state hpending)
  rw [after_data hpending] at hstep
  simpa only [after, hpending] using hstep

theorem moving_of_progresses (hprogresses : call.Progresses answers) : call.Moving answers := by
  intro count state hpending hzero
  by_contra hrc
  have hsame : call.after answers (count + 1) = .pending state := by
    simp only [after, hpending, hzero]
    exact onFsWrite_zero state (by omega)
  obtain hok | ⟨error, herror⟩ | ⟨next, hnext, hless⟩ := hprogresses count state hpending
  · rw [hsame] at hok
    cases hok
  · rw [hsame] at herror
    cases herror
  · rw [hsame] at hnext
    obtain rfl := WriteAt.pending.inj hnext
    omega

end WriteCall

/-- A call of `write_at` ends, with progress at every completion, exactly when none of its
requests is answered with zero bytes and followed by another one. -/
theorem write_at_ends_iff (call : WriteCall) (answers : Nat → Answer)
    (hanswered : call.Answered answers) :
    call.Terminates answers ∧ call.Progresses answers ↔ call.Moving answers := by
  constructor
  · rintro ⟨-, hprogresses⟩
    exact WriteCall.moving_of_progresses hprogresses
  · intro hmoving
    have hprogresses := WriteCall.progresses_of_moving hanswered hmoving
    exact ⟨WriteCall.terminates_of_progresses hprogresses, hprogresses⟩

/-- Two bytes, written one at a time. -/
def twoBytes : WriteCall := ⟨[104, 105], 0, 0⟩

theorem write_at_ends_oneByOne :
    (twoBytes.Terminates (fun _ => ⟨1, 0⟩) ∧ twoBytes.Progresses fun _ => ⟨1, 0⟩) ∧
      twoBytes.after (fun _ => ⟨1, 0⟩) 2 = .returned (.ok 2) := by
  refine ⟨(write_at_ends_iff twoBytes (fun _ => ⟨1, 0⟩) ?_).mpr ?_, rfl⟩
  · intro count state hpending
    match count with
    | 0 => cases hpending; decide
    | 1 => cases hpending; decide
    | count + 2 =>
        have hreturned : ∀ more, twoBytes.after (fun _ => ⟨1, 0⟩) (more + 2) =
            .returned (.ok 2) := by
          intro more
          induction more with
          | zero => rfl
          | succ more ih => rw [WriteCall.after, ih]
        rw [hreturned] at hpending
        cases hpending
  · exact fun _ _ _ hzero => absurd hzero one_ne_zero

/-- The operating system writes nothing, again and again. -/
theorem write_at_never_ends :
    ¬ ∀ (call : WriteCall) (answers : Nat → Answer), call.Answered answers →
      call.Terminates answers ∧ call.Progresses answers := by
  intro hall
  have hsame : ∀ count, twoBytes.after (fun _ => ⟨0, 0⟩) count =
      .pending ⟨0, [104, 105], 0, by decide⟩ := by
    intro count
    induction count with
    | zero => rfl
    | succ count ih =>
        rw [WriteCall.after, ih]
        rfl
  have hanswered : twoBytes.Answered fun _ => ⟨0, 0⟩ :=
    fun _ state _ => Int.natCast_nonneg state.request.buffer.length
  obtain ⟨⟨count, outcome, hreturned⟩, -⟩ := hall twoBytes (fun _ => ⟨0, 0⟩) hanswered
  rw [hsame] at hreturned
  cases hreturned

end Fiberuv.Io.FileRequests
