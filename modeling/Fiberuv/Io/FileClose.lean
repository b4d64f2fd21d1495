import Fiberuv.Foundation.Machine
import Fiberuv.Foundation.RequestLog
import Fiberuv.Io.FileCursor

/-! # Closing a file

Any number of calls of `close`, `read_at`, `write_at`, `read_some` and `write_some` on files
that share one `Impl`. A call made on the loop goes on to its request at once; a call made on
another thread tests the flags there and posts its closure to the loop.

`File::close` sets `fd` and `closed` when its request has completed and the waiting fiber has
been resumed. `on_fs_write` submits the rest of the data itself, on the descriptor that
`fs_write_at` saved.
-/

namespace Fiberuv.Io.FileClose

open Foundation

abbrev CallId := Nat
abbrev Fd := Int

inductive Op where
  | close
  | readAt (size offset : Nat)
  | writeAt (data : Bytes) (offset : Nat)
  | readSome (size : Nat)
  | writeSome (data : Bytes)

/-- The closures that `invoke_on_loop` runs. -/
inductive Job where
  | close
  | read (size offset : Nat)
  | write (data : Bytes) (offset : Nat)

inductive Result where
  | closed
  | read (bytes : Bytes)
  | wrote (count : Nat)
  | threw (error : Error)

/-- A call. `read_some` and `write_some` advance the cursor at their end. -/
inductive Call where
  | idle
  | posted (job : Job) (advances : Bool)
  | closing
  | reading (size offset : Nat) (advances : Bool)
  | writing (file : Fd) (data : Bytes) (offset written : Nat) (advances : Bool)
  /-- The promise is set, the waiting fiber not yet resumed. -/
  | ended (result : Result) (advances : Bool)
  | done (result : Result)

inductive Place where
  | onLoop
  | elsewhere

structure State where
  fd : Fd
  closed : Bool := false
  cursor : Nat := 0
  /-- The lifetime flag of the loop. -/
  alive : Bool := true
  call : CallId → Call := fun _ => .idle
  submitted : List (Submission Fd) := []

/-- `rc` is what libuv returns for the request that the step makes, if it makes one. -/
inductive Action where
  | call (id : CallId) (op : Op) (place : Place) (rc : Int)
  /-- The loop runs the posted closure. -/
  | run (id : CallId) (rc : Int)
  /-- The outstanding request has completed. -/
  | closed (id : CallId)
  | read (id : CallId) (bytes : Bytes)
  | wrote (id : CallId) (count : Nat) (rc : Int)
  | failed (id : CallId) (code : Int)
  | resume (id : CallId)
  /-- `~EventLoop` clears the lifetime flag. -/
  | endLoop

namespace State

def setCall (state : State) (id : CallId) (call : Call) : State :=
  { state with call := Function.update state.call id call }

def submit (state : State) (submission : Submission Fd) : State :=
  { state with submitted := state.submitted ++ [submission] }

def finish (state : State) (id : CallId) (result : Result) : State :=
  state.setCall id (.done result)

/-- `fd` and `closed` after the descriptor has been given up. -/
def mark (state : State) : State :=
  { state with fd := -1, closed := true }

/-- The closure of an operation. -/
def job (state : State) : Op → Job
  | .close => .close
  | .readAt size offset => .read size offset
  | .writeAt data offset => .write data offset
  | .readSome size => .read size state.cursor
  | .writeSome data => .write data state.cursor

def advances : Op → Bool
  | .readSome _ => true
  | .writeSome _ => true
  | _ => false

/-- The closure of `File::close`, up to its wait in `fs_close`. -/
def runClose (state : State) (id : CallId) (rc : Int) : State :=
  if state.closed then state.finish id .closed
  else if 0 ≤ state.fd then
    if rc < 0 then state.finish id (.threw (.uv "uv_fs_close(start)" rc))
    else (state.submit (.close state.fd)).setCall id .closing
  else { state with closed := true }.finish id .closed

def fsReadAt (state : State) (id : CallId) (size offset : Nat) (advances : Bool) (rc : Int) :
    State :=
  if rc < 0 then state.finish id (.threw (.uv "uv_fs_read(start)" rc))
  else (state.submit (.transfer state.fd)).setCall id (.reading size offset advances)

def fsWriteAt (state : State) (id : CallId) (data : Bytes) (offset : Nat) (advances : Bool)
    (rc : Int) : State :=
  if data = [] then state.finish id (.wrote 0)
  else if rc < 0 then state.finish id (.threw (.uv "uv_fs_write(start)" rc))
  else
    (state.submit (.transfer state.fd)).setCall id (.writing state.fd data offset 0 advances)

def runJob (state : State) (id : CallId) (advances : Bool) (rc : Int) : Job → State
  | .close => state.runClose id rc
  | .read size offset => state.fsReadAt id size offset advances rc
  | .write data offset => state.fsWriteAt id data offset advances rc

/-- The tests that every operation starts with, and `invoke_on_loop`. -/
def start (state : State) (id : CallId) (op : Op) (place : Place) (rc : Int) : State :=
  if state.closed then
    match op with
    | .close => state.finish id .closed
    | _ => state.finish id (.threw (.runtime "invalid file"))
  else if !state.alive then
    match op with
    | .close => state.mark.finish id .closed
    | _ => state.finish id (.threw loopNotAlive)
  else
    match place with
    | .onLoop => state.runJob id (advances op) rc (state.job op)
    | .elsewhere => state.setCall id (.posted (state.job op) (advances op))

/-- `on_fs_write` when the request has written this many bytes. -/
def onFsWrite (state : State) (id : CallId) (file : Fd) (data : Bytes) (offset written : Nat)
    (advances : Bool) (rc : Int) : State :=
  if data.length ≤ written then state.setCall id (.ended (.wrote written) advances)
  else if rc < 0 then
    state.setCall id (.ended (.threw (.uv "uv_fs_write(start)" rc)) advances)
  else
    (state.submit (.transfer file)).setCall id (.writing file data offset written advances)

/-- The site in the error of a request that was outstanding. -/
def site : Call → Option (String × Bool)
  | .closing => some ("uv_fs_close", false)
  | .reading _ _ advances => some ("uv_fs_read", advances)
  | .writing _ _ _ _ advances => some ("uv_fs_write", advances)
  | _ => none

/-- The cursor is an `std::uint64_t`. -/
def addCursor (state : State) (advances : Bool) (count : Nat) : State :=
  if advances then { state with cursor := (state.cursor + count) % 2 ^ 64 } else state

/-- The rest of the call, after its wait. -/
def resume (state : State) (id : CallId) (advances : Bool) (result : Result) : State :=
  match result with
  | .closed => state.mark.finish id .closed
  | .read bytes => (state.addCursor advances bytes.length).finish id (.read bytes)
  | .wrote count => (state.addCursor advances count).finish id (.wrote count)
  | .threw error => state.finish id (.threw error)

def step (state : State) : Action → Option State
  | .call id op place rc =>
      match state.call id with
      | .idle => some (state.start id op place rc)
      | _ => none
  | .run id rc =>
      match state.call id with
      | .posted job advances => some (state.runJob id advances rc job)
      | _ => none
  | .closed id =>
      match state.call id with
      | .closing => some (state.setCall id (.ended .closed false))
      | _ => none
  | .read id bytes =>
      match state.call id with
      | .reading size _ advances =>
          if bytes.length ≤ FileCursor.bufLength size then
            some (state.setCall id (.ended (.read bytes) advances))
          else none
      | _ => none
  | .wrote id count rc =>
      match state.call id with
      | .writing file data offset written advances =>
          if count ≤ FileCursor.bufLength (data.length - written) then
            some (state.onFsWrite id file data offset (written + count) advances rc)
          else none
      | _ => none
  | .failed id code =>
      match site (state.call id) with
      | some (name, advances) =>
          if code < 0 then
            some (state.setCall id (.ended (.threw (.uv name code)) advances))
          else none
      | none => none
  | .resume id =>
      match state.call id with
      | .ended result advances => some (state.resume id advances result)
      | _ => none
  | .endLoop => some { state with alive := false }

end State

def machine : Machine State Action where
  step := State.step

/-- A file on the descriptor that `fs_open` returned. -/
def initial (file : Nat) : State where
  fd := file

/-- The descriptor is closed at most once, and not used after that. -/
structure Safe (file : Nat) (state : State) : Prop where
  once : state.submitted.count (.close file) ≤ 1
  quiet : QuietAfterClose state.submitted

/-- `uv_fs_close` was submitted, and `closed` does not say so. -/
def State.Unmarked (file : Nat) (state : State) : Prop :=
  .close (file : Fd) ∈ state.submitted ∧ state.closed = false

/-- Whether the closure asks for a request. -/
def Job.requests : Job → Bool
  | .close => true
  | .read _ _ => true
  | .write data _ => !data.isEmpty

/-- Between the submission of `uv_fs_close` and the setting of `closed` no closure makes a
request, and no write goes on after the submission. -/
def Timely (file : Nat) (state : State) : Action → Prop
  | .call _ op .onLoop rc =>
      state.Unmarked file → state.alive = true → (state.job op).requests = true → rc < 0
  | .run id rc =>
      state.Unmarked file → ∀ job advances, state.call id = .posted job advances →
        job.requests = true → rc < 0
  | .wrote id count rc =>
      .close (file : Fd) ∈ state.submitted → ∀ data offset written advances,
        state.call id = .writing file data offset written advances →
          data.length ≤ written + count ∨ rc < 0
  | _ => True

section Sound

variable {file : Nat} {state next : State} {action : Action}

/-- What holds in every state of a run that meets the condition. -/
structure Sound (file : Nat) (state : State) : Prop extends Safe file state where
  fd : state.fd = if state.closed then -1 else (file : Fd)
  own : ∀ fd : Fd, .close fd ∈ state.submitted → fd = file

theorem sound_initial (file : Nat) : Sound file (initial file) where
  once := by simp [initial]
  quiet := quietAfterClose_nil
  fd := rfl
  own := by simp [initial]

/-- The steps that submit nothing, and leave the flags. -/
theorem Sound.setCall (hsound : Sound file state) (id : CallId) (call : Call) :
    Sound file (state.setCall id call) :=
  { hsound with }

theorem Sound.finish (hsound : Sound file state) (id : CallId) (result : Result) :
    Sound file (state.finish id result) :=
  hsound.setCall id _

theorem Sound.mark (hsound : Sound file state) : Sound file state.mark :=
  { hsound with fd := rfl }

theorem Sound.addCursor (hsound : Sound file state) (advances : Bool) (count : Nat) :
    Sound file (state.addCursor advances count) := by
  unfold State.addCursor
  split
  · exact { hsound with }
  · exact hsound

theorem Sound.transfer (hsound : Sound file state) {fd : Fd}
    (hopen : fd = file → .close (file : Fd) ∉ state.submitted) :
    Sound file (state.submit (.transfer fd)) where
  once := by simpa [State.submit] using hsound.once
  quiet := by
    refine hsound.quiet.transfer fun hclose => ?_
    obtain rfl := hsound.own fd hclose
    exact hopen rfl hclose
  fd := hsound.fd
  own := by simpa [State.submit] using hsound.own

theorem Sound.close (hsound : Sound file state)
    (hopen : .close (file : Fd) ∉ state.submitted) :
    Sound file (state.submit (.close file)) where
  once := by simp [State.submit, List.count_eq_zero.mpr hopen]
  quiet := hsound.quiet.close _
  fd := hsound.fd
  own := by
    intro fd hclose
    simp only [State.submit, List.mem_append, List.mem_singleton, Submission.close.injEq]
      at hclose
    exact hclose.elim (hsound.own fd) fun hfd => hfd

/-- A request on the current descriptor is one on the file only while `closed` is false. -/
theorem Sound.not_closed (hsound : Sound file state) (hfd : state.fd = file) :
    state.closed = false := by
  have hcases := hsound.fd
  split at hcases
  next =>
    have hnegative : (file : Int) = -1 := hfd.symm.trans hcases
    omega
  next hclosed => simpa using hclosed

theorem Sound.transfer_fd (hsound : Sound file state) (htimely : ¬ state.Unmarked file) :
    Sound file (state.submit (.transfer state.fd)) :=
  hsound.transfer fun hfd hclose => htimely ⟨hclose, hsound.not_closed hfd⟩

theorem Sound.runClose (hsound : Sound file state) (id : CallId) {rc : Int}
    (htimely : state.Unmarked file → rc < 0) : Sound file (state.runClose id rc) := by
  have hcases := hsound.fd
  unfold State.runClose
  split
  next => exact hsound.finish id _
  next hclosed =>
    rw [if_neg hclosed] at hcases
    split
    next =>
      split
      next => exact hsound.finish id _
      next hrc =>
        rw [hcases]
        refine (hsound.close fun hclose => ?_).setCall id _
        exact hrc (htimely ⟨hclose, by simpa using hclosed⟩)
    next hfd => exact absurd (hcases ▸ Int.natCast_nonneg file) hfd

theorem Sound.fsReadAt (hsound : Sound file state) (id : CallId) (size offset : Nat)
    (advances : Bool) {rc : Int} (htimely : state.Unmarked file → rc < 0) :
    Sound file (state.fsReadAt id size offset advances rc) := by
  unfold State.fsReadAt
  split
  next => exact hsound.finish id _
  next hrc => exact (hsound.transfer_fd fun hunmarked => hrc (htimely hunmarked)).setCall id _

theorem Sound.fsWriteAt (hsound : Sound file state) (id : CallId) {data : Bytes} (offset : Nat)
    (advances : Bool) {rc : Int} (htimely : state.Unmarked file → data ≠ [] → rc < 0) :
    Sound file (state.fsWriteAt id data offset advances rc) := by
  unfold State.fsWriteAt
  split
  next => exact hsound.finish id _
  next hdata =>
    split
    next => exact hsound.finish id _
    next hrc =>
      exact (hsound.transfer_fd fun hunmarked => hrc (htimely hunmarked hdata)).setCall id _

theorem Sound.runJob (hsound : Sound file state) (id : CallId) (advances : Bool) {rc : Int}
    {job : Job} (htimely : state.Unmarked file → job.requests = true → rc < 0) :
    Sound file (state.runJob id advances rc job) := by
  cases job with
  | close => exact hsound.runClose id fun hunmarked => htimely hunmarked rfl
  | read size offset =>
      exact hsound.fsReadAt id size offset advances fun hunmarked => htimely hunmarked rfl
  | write data offset =>
      refine hsound.fsWriteAt id offset advances fun hunmarked hdata => htimely hunmarked ?_
      simpa [Job.requests] using hdata

theorem Sound.start (hsound : Sound file state) (id : CallId) (op : Op) {place : Place} {rc : Int}
    (htimely : Timely file state (.call id op place rc)) :
    Sound file (state.start id op place rc) := by
  unfold State.start
  split
  next => split <;> exact hsound.finish id _
  next =>
    split
    next =>
      split
      · exact hsound.mark.finish id _
      · exact hsound.finish id _
    next halive =>
      cases place with
      | onLoop =>
          exact hsound.runJob id _ fun hunmarked => htimely hunmarked (by simpa using halive)
      | elsewhere => exact hsound.setCall id _

theorem Sound.onFsWrite (hsound : Sound file state) (id : CallId) {fd : Fd} {data : Bytes}
    (offset : Nat) {written : Nat} (advances : Bool) {rc : Int}
    (htimely : fd = file → .close (file : Fd) ∈ state.submitted →
      data.length ≤ written ∨ rc < 0) :
    Sound file (state.onFsWrite id fd data offset written advances rc) := by
  unfold State.onFsWrite
  split
  next => exact hsound.setCall id _
  next hpartial =>
    split
    next => exact hsound.setCall id _
    next hrc =>
      refine (hsound.transfer fun hfd hclose => ?_).setCall id _
      exact (htimely hfd hclose).elim hpartial hrc

theorem Sound.resume (hsound : Sound file state) (id : CallId) (advances : Bool)
    (result : Result) : Sound file (state.resume id advances result) := by
  cases result with
  | closed => exact hsound.mark.finish id _
  | read bytes => exact (hsound.addCursor advances bytes.length).finish id _
  | wrote count => exact (hsound.addCursor advances count).finish id _
  | threw error => exact hsound.finish id _

theorem step_sound (hsound : Sound file state) (htimely : Timely file state action)
    (hstep : machine.step state action = some next) : Sound file next := by
  simp only [machine] at hstep
  cases action with
  | call id op place rc =>
      simp only [State.step] at hstep
      split at hstep <;> cases hstep
      exact hsound.start id op htimely
  | run id rc =>
      simp only [State.step] at hstep
      split at hstep
      next job advances hcall =>
        cases hstep
        exact hsound.runJob id advances fun hunmarked => htimely hunmarked job advances hcall
      next => cases hstep
  | closed id =>
      simp only [State.step] at hstep
      split at hstep <;> cases hstep
      exact hsound.setCall id _
  | read id bytes =>
      simp only [State.step] at hstep
      split at hstep
      · simp only [Option.ite_none_right_eq_some, Option.some.injEq] at hstep
        exact hstep.2 ▸ hsound.setCall id _
      · cases hstep
  | wrote id count rc =>
      simp only [State.step] at hstep
      split at hstep
      next fd data offset written advances hcall =>
        simp only [Option.ite_none_right_eq_some, Option.some.injEq] at hstep
        refine hstep.2 ▸ hsound.onFsWrite id offset advances fun hfd hclose => ?_
        exact htimely hclose data offset written advances (hfd ▸ hcall)
      next => cases hstep
  | failed id code =>
      simp only [State.step] at hstep
      split at hstep
      · simp only [Option.ite_none_right_eq_some, Option.some.injEq] at hstep
        exact hstep.2 ▸ hsound.setCall id _
      · cases hstep
  | resume id =>
      simp only [State.step] at hstep
      split at hstep <;> cases hstep
      exact hsound.resume id _ _
  | endLoop =>
      cases hstep
      exact { hsound with }

end Sound

/-- In every run in which no request is made between the submission of `uv_fs_close` and the
setting of `closed`, and no write goes on after the submission, the descriptor is closed at
most once and not used afterwards. -/
theorem safe_of_unhurried (file : Nat) (actions : List Action) (state : State)
    (hmeets : machine.Meets (Timely file) actions (initial file))
    (hrun : machine.run actions (initial file) = some state) : Safe file state := by
  have hsound : Sound file state :=
    Machine.run_invariant (fun _ _ _ hsound htimely hstep => step_sound hsound htimely hstep)
      actions (initial file) state (sound_initial file) hmeets hrun
  exact hsound.toSafe

/-- A file is closed while a read of it is outstanding; it is closed and read again later. -/
def closedDuringRead : List Action :=
  [.call 0 (.readSome 4) .onLoop 0, .call 1 .close .onLoop 0, .read 0 [97, 98], .closed 1,
    .resume 1, .resume 0, .call 2 .close .onLoop 0, .call 3 (.readAt 4 0) .elsewhere 0]

theorem safe_closedDuringRead :
    ∃ state, machine.run closedDuringRead (initial 5) = some state ∧
      state.call 0 = .done (.read [97, 98]) ∧
      state.call 3 = .done (.threw (.runtime "invalid file")) ∧
      state.submitted = [.transfer 5, .close 5] ∧ Safe 5 state := by
  have hmeets : machine.Meets (Timely 5) closedDuringRead (initial 5) := by
    refine Machine.meets_cons ?_ rfl (Machine.meets_cons ?_ rfl
      (Machine.meets_cons trivial rfl (Machine.meets_cons trivial rfl
        (Machine.meets_cons trivial rfl (Machine.meets_cons trivial rfl
          (Machine.meets_cons ?_ rfl (Machine.meets_cons trivial rfl trivial)))))))
    · rintro ⟨hclose, -⟩
      cases hclose
    · rintro ⟨hclose, -⟩
      revert hclose
      decide
    · rintro ⟨-, hclosed⟩
      cases hclosed
  exact ⟨_, rfl, rfl, rfl, rfl, safe_of_unhurried 5 _ _ hmeets rfl⟩

/-- Two fibers close the file, the second one before the request of the first one has
completed. -/
def closedTwice : List Action :=
  [.call 0 .close .onLoop 0, .call 1 .close .onLoop 0]

theorem unsafe_closedTwice :
    ¬ ∀ (file : Nat) (actions : List Action) (state : State),
      machine.run actions (initial file) = some state → Safe file state := by
  intro halwaysSafe
  have hsafe := halwaysSafe 5 closedTwice _ rfl
  exact absurd hsafe.once (by decide)

end Fiberuv.Io.FileClose
