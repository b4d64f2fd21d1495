import Fiberuv.Foundation.Machine
import Fiberuv.Io.WriteAt

/-! # Where the transfers of a file go

`read_at` and `write_at` with an offset of their caller, `read_some` and `write_some` with
the cursor, and `seek`, by any number of callers of one open file. Between its requests a
call may be overtaken by others, so the kernel may find any length of the file and any
position of the descriptor when it serves a request; the label says what it finds.

Every request that completes leaves a part behind: how far the call had come, what the
kernel went by, and how many bytes it moved. A request that libuv refuses or that fails is
the last one of its call and leaves its code.
-/

namespace Fiberuv.Io.FileRequests

open Foundation

abbrev CallId := Nat

/-- One completed request of a call. -/
structure Part where
  written : Nat
  kernel : Kernel
  count : Nat

/-- A call of `read_at` or `write_at` that has returned or thrown. -/
structure Transfer where
  write : Bool
  offset : UInt64
  parts : List Part
  /-- The code of the request that was refused or failed. -/
  failed : Option Int
  outcome : Except Error Nat

/-- A call made by somebody, or by `read_some` or `write_some` with the cursor. -/
inductive Origin where
  | caller
  | cursor
  deriving DecidableEq

inductive Call where
  | idle
  | reading (origin : Origin) (state : FsRead)
  | writing (origin : Origin) (state : FsWrite) (parts : List Part)
  | ended (origin : Origin) (transfer : Transfer)
  /-- `read_some` or `write_some` has moved the cursor as well. -/
  | advanced (transfer : Transfer)

structure State where
  cursor : UInt64 := 0
  call : CallId → Call := fun _ => .idle

/-- The label of a call gives the result of submitting its first request, and that of a
completion what the kernel finds and reports and the result of submitting the next one. -/
inductive Action where
  | readAt (id : CallId) (size : Nat) (offset : UInt64) (rc : Int)
  | writeAt (id : CallId) (data : Bytes) (offset : UInt64) (rc : Int)
  | readSome (id : CallId) (size : Nat) (rc : Int)
  | writeSome (id : CallId) (data : Bytes) (rc : Int)
  | seek (offset : UInt64)
  | complete (id : CallId) (kernel : Kernel) (result rc : Int)
  | advance (id : CallId)

/-- The transfer of a call that is over. -/
def Call.transfer : Call → Option Transfer
  | .ended _ transfer => some transfer
  | .advanced transfer => some transfer
  | _ => none

/-- The code of a request that was refused or failed. -/
def failure (code : Int) : Option Int := if code < 0 then some code else none

/-- The same of the first request of a write, if one is made. -/
def startFailure (data : Bytes) (rc : Int) : Option Int :=
  if 0 < data.length then failure rc else none

/-- The same of the request that completes and of the next one, if one is made. -/
def nextFailure (write : FsWrite) (result rc : Int) : Option Int :=
  (failure result).or
    (if write.written + result.toNat < write.data.length then failure rc else none)

namespace State

def setCall (state : State) (id : CallId) (call : Call) : State :=
  { state with call := Function.update state.call id call }

def startRead (state : State) (id : CallId) (origin : Origin) (size : Nat) (offset : UInt64)
    (rc : Int) : State :=
  match fsReadAt size offset rc with
  | .ok read => state.setCall id (.reading origin read)
  | .error error => state.setCall id (.ended origin ⟨false, offset, [], failure rc, .error error⟩)

/-- A write goes on with its next request, or is over. -/
def goOn (state : State) (id : CallId) (origin : Origin) (offset : UInt64) (parts : List Part)
    (failed : Option Int) : WriteAt → State
  | .pending write => state.setCall id (.writing origin write parts)
  | .returned outcome => state.setCall id (.ended origin ⟨true, offset, parts, failed, outcome⟩)

def startWrite (state : State) (id : CallId) (origin : Origin) (data : Bytes) (offset : UInt64)
    (rc : Int) : State :=
  state.goOn id origin offset [] (startFailure data rc) (fsWriteAt data offset rc)

/-- The parts of a call after one more request, unless it failed. -/
def moved (parts : List Part) (written : Nat) (kernel : Kernel) (result : Int) : List Part :=
  if result < 0 then parts else parts ++ [⟨written, kernel, result.toNat⟩]

def complete (state : State) (append : Bool) (id : CallId) (kernel : Kernel) (result rc : Int) :
    Option State :=
  match state.call id with
  | .reading origin read =>
      if kernel.Reads read result then
        some (state.setCall id (.ended origin
          ⟨false, read.offset, moved [] 0 kernel result, failure result, onFsRead result⟩))
      else none
  | .writing origin write parts =>
      if kernel.Writes append write.request result then
        some (state.goOn id origin write.baseOffset (moved parts write.written kernel result)
          (nextFailure write result rc) (onFsWrite write result rc))
      else none
  | _ => none

/-- The cursor is moved by the number of bytes, unless the transfer failed. -/
def advance (state : State) (id : CallId) : Option State :=
  match state.call id with
  | .ended .cursor transfer =>
      match transfer.outcome with
      | .ok count =>
          some ({ state with cursor := state.cursor + UInt64.ofNat count }.setCall id
            (.advanced transfer))
      | .error _ => none
  | _ => none

def step (append : Bool) (state : State) : Action → Option State
  | .readAt id size offset rc =>
      match state.call id with
      | .idle => some (state.startRead id .caller size offset rc)
      | _ => none
  | .writeAt id data offset rc =>
      match state.call id with
      | .idle => some (state.startWrite id .caller data offset rc)
      | _ => none
  | .readSome id size rc =>
      match state.call id with
      | .idle => some (state.startRead id .cursor size state.cursor rc)
      | _ => none
  | .writeSome id data rc =>
      match state.call id with
      | .idle => some (state.startWrite id .cursor data state.cursor rc)
      | _ => none
  | .seek offset => some { state with cursor := offset }
  | .complete id kernel result rc => state.complete append id kernel result rc
  | .advance id => state.advance id

end State

/-- The calls on a file that was opened with or without `O_APPEND`. -/
def addressing (append : Bool) : Machine State Action where
  step := State.step append

/-- An open file that has not been used. -/
def fresh : State := {}

/-- Where the kernel starts to serve a part of a transfer with this offset. -/
def Part.place (part : Part) (append : Bool) (offset : UInt64) : Nat :=
  part.kernel.writePlace append (toPosition (offset + .ofNat part.written))

namespace Transfer

variable (append : Bool) (transfer : Transfer)

/-- Only writes go by `O_APPEND`. -/
def appends : Bool := append && transfer.write

/-- The positions in the file of the bytes moved, in order. -/
def positions : List Nat :=
  transfer.parts.flatMap fun part =>
    List.range' (part.place (transfer.appends append) transfer.offset) part.count

/-- A transfer that returns normally has moved the bytes from its offset on and no others,
and neither its offset nor the offset of any of its requests was out of the range of an
`int64_t`. -/
def Exact : Prop :=
  ∀ count, transfer.outcome = .ok count →
    transfer.positions append = List.range' transfer.offset.toNat count ∧
    transfer.offset.toNat < 2 ^ 63 ∧
    ∀ part ∈ transfer.parts, transfer.offset.toNat + part.written < 2 ^ 63

/-- The offset is in the range of an `int64_t`, and a file opened for appending ended where
each part belongs; or a request of the transfer was refused or failed. -/
def Addressed : Prop :=
  transfer.failed.isSome ∨
    transfer.offset.toNat < 2 ^ 63 ∧
      (transfer.appends append = true → ∀ part ∈ transfer.parts, 0 < part.count →
        part.kernel.length = transfer.offset.toNat + part.written)

end Transfer

section Chain

variable {append : Bool} {offset : UInt64}

/-- The parts continue one another, and each ends within the range of an `int64_t`. -/
def Chained (append : Bool) (offset : UInt64) : Nat → List Part → Nat → Prop
  | start, [], stop => start = stop
  | start, part :: rest, stop => part.written = start ∧
      part.place append offset + part.count < 2 ^ 63 ∧
      Chained append offset (start + part.count) rest stop

theorem Chained.snoc {start stop : Nat} {parts : List Part} {part : Part}
    (hchained : Chained append offset start parts stop) (hwritten : part.written = stop)
    (hplace : part.place append offset + part.count < 2 ^ 63) :
    Chained append offset start (parts ++ [part]) (stop + part.count) := by
  induction parts generalizing start with
  | nil =>
      obtain rfl : start = stop := hchained
      exact ⟨hwritten, hplace, rfl⟩
  | cons head rest ih => exact ⟨hchained.1, hchained.2.1, ih hchained.2.2⟩

theorem Chained.le {start stop : Nat} {parts : List Part}
    (hchained : Chained append offset start parts stop) : start ≤ stop := by
  induction parts generalizing start with
  | nil => exact Nat.le_of_eq hchained
  | cons part rest ih => exact Nat.le_trans (Nat.le_add_right _ _) (ih hchained.2.2)

/-- Each part that moves a byte starts where it belongs. -/
def InPlace (append : Bool) (offset : UInt64) (parts : List Part) : Prop :=
  ∀ part ∈ parts, 0 < part.count → part.place append offset = offset.toNat + part.written

/-- The positions are consecutive exactly when every part is in place. -/
theorem Chained.positions_iff {start stop : Nat} {parts : List Part}
    (hchained : Chained append offset start parts stop) :
    (parts.flatMap fun part => List.range' (part.place append offset) part.count) =
      List.range' (offset.toNat + start) (stop - start) ↔ InPlace append offset parts := by
  induction parts generalizing start with
  | nil =>
      obtain rfl : start = stop := hchained
      simp [InPlace]
  | cons part rest ih =>
      obtain ⟨rfl, -, hrest⟩ := hchained
      have hle := hrest.le
      have hsplit : List.range' (offset.toNat + part.written) (stop - part.written) =
          List.range' (offset.toNat + part.written) part.count ++
            List.range' (offset.toNat + (part.written + part.count))
              (stop - (part.written + part.count)) := by
        rw [← Nat.add_assoc, List.range'_append_1]
        congr 1
        omega
      have hhead : List.range' (part.place append offset) part.count =
          List.range' (offset.toNat + part.written) part.count ↔
            (0 < part.count → part.place append offset = offset.toNat + part.written) := by
        cases part.count with
        | zero => simp
        | succ count =>
            constructor
            · intro hsame _
              rw [List.range'_succ, List.range'_succ] at hsame
              exact (List.cons.inj hsame).1
            · intro hplace
              rw [hplace (Nat.succ_pos _)]
      rw [List.flatMap_cons, hsplit, InPlace, List.forall_mem_cons]
      constructor
      · intro hsame
        obtain ⟨hfirst, hlater⟩ := List.append_inj hsame (by simp)
        exact ⟨hhead.mp hfirst, (ih hrest).mp hlater⟩
      · rintro ⟨hfirst, hlater⟩
        rw [hhead.mpr hfirst, (ih hrest).mpr hlater]

/-- Without `O_APPEND` a chain from an offset in range never leaves the range. -/
theorem Chained.inRange {start stop : Nat} {parts : List Part}
    (hchained : Chained append offset start parts stop)
    (hstart : offset.toNat + start < 2 ^ 63)
    (hplace : append = true → InPlace append offset parts) :
    InPlace append offset parts ∧ ∀ part ∈ parts, offset.toNat + part.written < 2 ^ 63 := by
  induction parts generalizing start with
  | nil => simp [InPlace]
  | cons part rest ih =>
      obtain ⟨rfl, hpart, hrest⟩ := hchained
      have hhere : 0 < part.count →
          part.place append offset = offset.toNat + part.written := by
        cases append with
        | true => exact hplace rfl part List.mem_cons_self
        | false =>
            intro _
            have hsum := offset_add_toNat (by omega : offset.toNat + part.written < 2 ^ 64)
            change part.kernel.readPlace _ = _
            rw [readPlace_of_lt part.kernel (by omega), hsum]
      have hnext : offset.toNat + (part.written + part.count) < 2 ^ 63 := by
        rcases Nat.eq_zero_or_pos part.count with hzero | hpositive
        · omega
        · have hplaced := hhere hpositive
          omega
      obtain ⟨hlater, hrange⟩ := ih hrest hnext
        fun happend later hmem => hplace happend later (List.mem_cons_of_mem _ hmem)
      exact ⟨List.forall_mem_cons.mpr ⟨hhere, hlater⟩, List.forall_mem_cons.mpr ⟨hstart, hrange⟩⟩

end Chain

/-- The parts of a transfer that returned normally make up what it returned, and one whose
request failed throws. -/
structure Transfer.Sound (append : Bool) (transfer : Transfer) : Prop where
  chained : ∀ count, transfer.outcome = .ok count →
    Chained (transfer.appends append) transfer.offset 0 transfer.parts count
  failed : transfer.failed.isSome ↔ ∃ error, transfer.outcome = .error error

theorem Transfer.Sound.exact_iff {append : Bool} {transfer : Transfer}
    (hsound : transfer.Sound append) : transfer.Exact append ↔ transfer.Addressed append := by
  cases houtcome : transfer.outcome with
  | error error =>
      refine iff_of_true (fun count hok => ?_) (.inl (hsound.failed.mpr ⟨error, houtcome⟩))
      rw [houtcome] at hok
      cases hok
  | ok count =>
      have hchained := hsound.chained count houtcome
      have hpositions := hchained.positions_iff
      rw [Nat.add_zero, Nat.sub_zero] at hpositions
      have hplace : transfer.appends append = true → ∀ part : Part,
          part.place (transfer.appends append) transfer.offset = part.kernel.length := by
        intro happends part
        rw [happends]
        rfl
      constructor
      · intro hexact
        obtain ⟨hsame, hoffset, -⟩ := hexact count houtcome
        refine .inr ⟨hoffset, fun happends part hmem hcount => ?_⟩
        rw [← hplace happends]
        exact hpositions.mp hsame part hmem hcount
      · rintro (hfailed | ⟨hoffset, hends⟩) returned hreturned
        · obtain ⟨error, herror⟩ := hsound.failed.mp hfailed
          rw [herror] at hreturned
          cases hreturned
        · obtain rfl : count = returned := Except.ok.inj (houtcome.symm.trans hreturned)
          obtain ⟨hin, hrange⟩ := hchained.inRange (by omega) fun happends part hmem hcount =>
            (hplace happends part).trans (hends happends part hmem hcount)
          exact ⟨hpositions.mpr hin, hoffset, hrange⟩

theorem failure_isSome (code : Int) : (failure code).isSome ↔ code < 0 := by
  unfold failure
  split <;> simp [*]

theorem fsWriteAt_failed {data : Bytes} {offset : UInt64} {rc : Int} {outcome : Except Error Nat}
    (hstart : fsWriteAt data offset rc = .returned outcome) :
    (startFailure data rc).isSome ↔ ∃ error, outcome = .error error := by
  unfold fsWriteAt submitWrite at hstart
  unfold startFailure
  split at hstart
  next hmore =>
    rw [if_pos hmore, failure_isSome]
    split at hstart
    next hrefused =>
      obtain rfl := WriteAt.returned.inj hstart
      simp [hrefused]
    · cases hstart
  next hnone =>
    obtain rfl := WriteAt.returned.inj hstart
    simp [hnone]

theorem onFsWrite_failed {write : FsWrite} {result rc : Int} {outcome : Except Error Nat}
    (hnext : onFsWrite write result rc = .returned outcome) :
    (nextFailure write result rc).isSome ↔ ∃ error, outcome = .error error := by
  unfold onFsWrite submitWrite at hnext
  unfold nextFailure
  rw [Option.isSome_or, Bool.or_eq_true, failure_isSome]
  split at hnext
  next hresult =>
    obtain rfl := WriteAt.returned.inj hnext
    simp [hresult]
  next hresult =>
    dsimp only at hnext
    split at hnext
    next hmore =>
      rw [if_pos hmore, failure_isSome]
      split at hnext
      next hrefused =>
        obtain rfl := WriteAt.returned.inj hnext
        simp [hrefused]
      · cases hnext
    next hnone =>
      obtain rfl := WriteAt.returned.inj hnext
      simp [hresult, hnone]

/-- What is known of a call. -/
def Call.Sound (append : Bool) : Call → Prop
  | .writing _ write parts => Chained append write.baseOffset 0 parts write.written
  | .ended _ transfer => transfer.Sound append
  | .advanced transfer => transfer.Sound append
  | _ => True

def Sound (append : Bool) (state : State) : Prop :=
  ∀ id, (state.call id).Sound append

section Steps

variable {append : Bool} {state : State}

theorem Sound.setCall (hsound : Sound append state) {id : CallId} {call : Call}
    (hcall : call.Sound append) : Sound append (state.setCall id call) := by
  intro other
  by_cases heq : other = id
  · subst heq
    simpa [State.setCall] using hcall
  · simpa [State.setCall, heq] using hsound other

theorem Sound.startRead (hsound : Sound append state) (id : CallId) (origin : Origin)
    (size : Nat) (offset : UInt64) (rc : Int) :
    Sound append (state.startRead id origin size offset rc) := by
  unfold State.startRead
  split
  · exact hsound.setCall trivial
  next error hrefused =>
    have hnegative : rc < 0 := by
      unfold fsReadAt at hrefused
      split at hrefused
      · assumption
      · cases hrefused
    refine hsound.setCall ⟨fun count hok => ?_, ?_⟩
    · cases hok
    · simpa [failure_isSome] using hnegative

theorem Sound.startWrite (hsound : Sound append state) (id : CallId) (origin : Origin)
    (data : Bytes) (offset : UInt64) (rc : Int) :
    Sound append (state.startWrite id origin data offset rc) := by
  unfold State.startWrite
  cases hstart : fsWriteAt data offset rc with
  | pending write =>
      refine hsound.setCall ?_
      exact (fsWriteAt_pending hstart).2.2.symm
  | returned outcome =>
      refine hsound.setCall ⟨fun count hok => ?_, fsWriteAt_failed hstart⟩
      rw [fsWriteAt] at hstart
      split at hstart
      · unfold submitWrite at hstart
        split at hstart
        · obtain rfl := WriteAt.returned.inj hstart
          cases hok
        · cases hstart
      · obtain rfl := WriteAt.returned.inj hstart
        exact Except.ok.inj hok

/-- A read is one part. -/
theorem read_sound (read : FsRead) {kernel : Kernel} {result : Int}
    (hreads : kernel.Reads read result) :
    Transfer.Sound append
      ⟨false, read.offset, State.moved [] 0 kernel result, failure result, onFsRead result⟩ := by
  have hfailed : (failure result).isSome ↔ ∃ error, onFsRead result = .error error := by
    rw [failure_isSome, onFsRead]
    split <;> simp [*]
  refine ⟨fun count hok => ?_, hfailed⟩
  simp only [onFsRead] at hok
  split at hok
  · cases hok
  next hnonneg =>
    obtain rfl := Except.ok.inj hok
    obtain ⟨-, hthere, -⟩ := hreads (by omega)
    have hplace := readPlace_lt kernel read.offset
    have hlength := kernel.length_lt
    have hstart : Part.place ⟨0, kernel, result.toNat⟩ false read.offset =
        kernel.readPlace (toPosition read.offset) := by
      simp [Part.place, Kernel.writePlace]
    simp only [State.moved, hnonneg, if_false, List.nil_append, Transfer.appends, Bool.and_false]
    refine ⟨rfl, ?_, Nat.zero_add _⟩
    rw [hstart]
    change result ≤ (kernel.length - kernel.readPlace (toPosition read.offset) : Nat) at hthere
    dsimp only
    omega

/-- A completion of a write adds a part to its chain, unless it failed. -/
theorem write_chained {write : FsWrite} {parts : List Part} {kernel : Kernel} {result : Int}
    (hchained : Chained append write.baseOffset 0 parts write.written) (hnonneg : 0 ≤ result)
    (hwrites : kernel.Writes append write.request result) :
    Chained append write.baseOffset 0 (State.moved parts write.written kernel result)
      (write.written + result.toNat) := by
  obtain ⟨-, hplace⟩ := hwrites hnonneg
  rw [State.moved, if_neg (by omega)]
  refine hchained.snoc rfl ?_
  change kernel.writePlace append write.request.position + result.toNat < 2 ^ 63
  omega

theorem Sound.complete {next : State} (hsound : Sound append state) {id : CallId}
    {kernel : Kernel} {result rc : Int}
    (hcomplete : state.complete append id kernel result rc = some next) : Sound append next := by
  unfold State.complete at hcomplete
  split at hcomplete
  next origin read hcall =>
    simp only [Option.ite_none_right_eq_some, Option.some.injEq] at hcomplete
    obtain ⟨hreads, rfl⟩ := hcomplete
    exact hsound.setCall (read_sound read hreads)
  next origin write parts hcall =>
    simp only [Option.ite_none_right_eq_some, Option.some.injEq] at hcomplete
    obtain ⟨hwrites, rfl⟩ := hcomplete
    have hchained : Chained append write.baseOffset 0 parts write.written := by
      have hbefore := hsound id
      rwa [hcall] at hbefore
    cases hafter : onFsWrite write result rc with
    | pending later =>
        obtain ⟨hnonneg, -, hoffset, hwritten⟩ := onFsWrite_pending hafter
        apply hsound.setCall
        rw [Call.Sound, hoffset, hwritten]
        exact write_chained hchained hnonneg hwrites
    | returned outcome =>
        refine hsound.setCall ⟨fun count hok => ?_, onFsWrite_failed hafter⟩
        obtain rfl : outcome = .ok count := hok
        obtain ⟨hnonneg, rfl, -⟩ := onFsWrite_ok hafter
        simpa [Transfer.appends] using write_chained hchained hnonneg hwrites
  · cases hcomplete

theorem Sound.advance {next : State} (hsound : Sound append state) {id : CallId}
    (hadvance : state.advance id = some next) : Sound append next := by
  unfold State.advance at hadvance
  split at hadvance
  next transfer hcall =>
    split at hadvance
    next count houtcome =>
      obtain rfl := Option.some.inj hadvance
      have hbefore := hsound id
      rw [hcall] at hbefore
      have hmoved : Sound append { state with cursor := state.cursor + UInt64.ofNat count } :=
        hsound
      exact hmoved.setCall hbefore
    · cases hadvance
  · cases hadvance

theorem Sound.step {next : State} {action : Action} (hsound : Sound append state)
    (hstep : state.step append action = some next) : Sound append next := by
  cases action with
  | readAt id size offset rc =>
      simp only [State.step] at hstep
      split at hstep
      · obtain rfl := Option.some.inj hstep
        exact hsound.startRead id .caller size offset rc
      · cases hstep
  | writeAt id data offset rc =>
      simp only [State.step] at hstep
      split at hstep
      · obtain rfl := Option.some.inj hstep
        exact hsound.startWrite id .caller data offset rc
      · cases hstep
  | readSome id size rc =>
      simp only [State.step] at hstep
      split at hstep
      · obtain rfl := Option.some.inj hstep
        exact hsound.startRead id .cursor size state.cursor rc
      · cases hstep
  | writeSome id data rc =>
      simp only [State.step] at hstep
      split at hstep
      · obtain rfl := Option.some.inj hstep
        exact hsound.startWrite id .cursor data state.cursor rc
      · cases hstep
  | seek offset =>
      obtain rfl := Option.some.inj hstep
      exact hsound
  | complete id kernel result rc => exact hsound.complete hstep
  | advance id => exact hsound.advance hstep

end Steps

/-- Whatever is done with a file, a transfer that is over has gone to its offset, or has
thrown, exactly when its offset is in the range of an `int64_t` and a file opened for
appending ended where it should, or one of its requests was refused or failed. -/
theorem transfers_exact_iff (append : Bool) (state : State)
    (hreach : (addressing append).Reachable fresh state) (id : CallId) (transfer : Transfer)
    (hover : (state.call id).transfer = some transfer) :
    transfer.Exact append ↔ transfer.Addressed append := by
  have hfresh : Sound append fresh := fun _ => trivial
  have hsound : Sound append state :=
    Machine.reachable_invariant (fun _ _ _ hinv hstep => hinv.step hstep) hfresh hreach
  apply Transfer.Sound.exact_iff
  have hcall := hsound id
  unfold Call.transfer at hover
  split at hover
  next origin ended hended =>
    obtain rfl := Option.some.inj hover
    rwa [hended] at hcall
  next advanced hadvanced =>
    obtain rfl := Option.some.inj hover
    rwa [hadvanced] at hcall
  · cases hover

/-- A descriptor at its third byte, in a file of eight bytes. -/
def eightLong : Kernel := ⟨8, 3, by decide, by decide⟩

/-- A write of four bytes at the cursor, in two parts. -/
def soughtAndWritten : List Action :=
  [.seek 2, .writeSome 0 [1, 2, 3, 4] 0, .complete 0 eightLong 3 0, .complete 0 eightLong 1 0,
    .advance 0]

theorem transfers_exact_soughtAndWritten :
    (⟨true, 2, [⟨0, eightLong, 3⟩, ⟨3, eightLong, 1⟩], none, .ok 4⟩ : Transfer).Exact false := by
  refine (transfers_exact_iff false _ ⟨soughtAndWritten, rfl⟩ 0 _ rfl).mpr (.inr ⟨by decide, ?_⟩)
  exact fun happends => nomatch happends

/-- An offset that stands for the position of the descriptor. -/
def soughtTooFar : List Action :=
  [.seek 0x8000000000000000, .readSome 0 1 0, .complete 0 eightLong 1 0]

theorem transfer_elsewhere_soughtTooFar :
    ¬ ∀ (append : Bool) (state : State), (addressing append).Reachable fresh state →
      ∀ id transfer, (state.call id).transfer = some transfer → transfer.Exact append := by
  intro hexact
  obtain ⟨hsame, -, -⟩ := hexact false _ ⟨soughtTooFar, rfl⟩ 0 _ rfl 1 rfl
  exact absurd hsame (by decide)

end Fiberuv.Io.FileRequests
