import Mathlib.Data.List.Basic
import Fiberuv.Foundation.Machine

/-! # Embedded handles and the end of the loop

`ConnectionState` and `PeriodicTask::Impl` contain a libuv handle and hold themselves through
`keepalive` from its initialisation on. The close callbacks clear `keepalive`, and so do the
branches of `start_close` and `PeriodicTask::stop` for a loop that is not alive.

`~EventLoop` clears the lifetime flag, joins the workers, closes the handles that are left
without a callback, runs the loop until nothing is left, and runs the posted closures. Calls
of `close` and `stop` come from any thread at any time; a call reads the flag in one step and
goes on in another. What the closing of a connection means for its pending read and for the
calls that wait for it is not part of this model.
-/

namespace Fiberuv.EventLoop.Teardown

open Foundation

abbrev CallId := Nat

/-- What libuv knows about a handle. `uv_close` is called with the callback of the library, or
by the destructor of the loop without one. -/
inductive Registration where
  | absent
  | opened
  | closing (callback : Bool)
  | finished
  deriving DecidableEq

/-- Initialised, and not yet completely closed. -/
def Registration.registered : Registration → Bool
  | .opened => true
  | .closing _ => true
  | _ => false

/-- `uv_is_closing`. -/
def Registration.isClosing : Registration → Bool
  | .closing _ => true
  | .finished => true
  | _ => false

/-- Between `uv_close` and the end of the closing. -/
def Registration.inClosing : Registration → Bool
  | .closing _ => true
  | _ => false

/-- `ConnectionState`. -/
structure Connection where
  handle : Registration
  initialized : Bool
  closing : Bool
  closed : Bool
  keepalive : Bool
  deriving DecidableEq

/-- `PeriodicTask::Impl`. -/
structure Periodic where
  handle : Registration
  initialized : Bool
  active : Bool
  stopping : Bool
  keepalive : Bool
  deriving DecidableEq

/-- Where `~EventLoop` is. The flag is true while it has not been called. -/
inductive Phase where
  | running
  | flagCleared
  | workersJoined
  | walked
  /-- `uv_run` has returned for the last time. -/
  | ran
  deriving DecidableEq

/-- A call between its reading of the flag and the rest. -/
inductive Call where
  | idle
  | closing (connection : Nat) (alive : Bool)
  | stopping (timer : Nat) (alive : Bool)

structure State where
  phase : Phase := .running
  connections : List Connection := []
  timers : List Periodic := []
  call : CallId → Call := fun _ => .idle
  /-- The stops that were posted to the loop. -/
  posted : List Nat := []

inductive Action where
  | createConnection (initRc : Int)
  | startPeriodic (initRc startRc : Int)
  | enterClose (id : CallId) (connection : Nat)
  | enterStop (id : CallId) (timer : Nat)
  | goOn (id : CallId)
  | stopOnLoop (timer : Nat)
  /-- The loop runs a posted stop; whether its weak pointer could be locked. -/
  | runPosted (locked : Bool)
  /-- libuv finishes the closing and calls the callback, if there is one. -/
  | finishConnection (connection : Nat)
  | finishTimer (timer : Nat)
  | clearFlag
  | joinWorkers
  | walk
  | returnRun

namespace Connection

/-- `create_connection`. -/
def create : Connection where
  handle := .opened
  initialized := true
  closing := false
  closed := false
  keepalive := true

def onConnectionClosed (connection : Connection) : Connection :=
  { connection with closed := true, closing := false, keepalive := false }

/-- The first test of `start_close`. -/
def closes (connection : Connection) : Bool :=
  connection.initialized && !connection.closed

/-- The rest of `start_close`, with what it has read from the flag. -/
def startClose (connection : Connection) (alive : Bool) : Connection :=
  if !alive then { connection with closed := true, closing := false, keepalive := false }
  else if connection.closing then connection
  else if connection.handle.isClosing then { connection with closing := true }
  else { connection with closing := true, handle := .closing true }

def finish (connection : Connection) (callback : Bool) : Connection :=
  let finished := { connection with handle := .finished }
  if callback then finished.onConnectionClosed else finished

/-- `uv_walk` closes what is not closing. -/
def walk (connection : Connection) : Connection :=
  match connection.handle with
  | .opened => { connection with handle := .closing false }
  | _ => connection

end Connection

namespace Periodic

/-- `start_periodic_on_loop` on a live loop. When the timer cannot be started, the handle is
closed with the callback. -/
def start (initRc startRc : Int) : Periodic :=
  if initRc < 0 then
    { handle := .absent, initialized := false, active := false, stopping := false,
      keepalive := false }
  else if startRc < 0 then
    { handle := .closing true, initialized := false, active := false, stopping := false,
      keepalive := true }
  else
    { handle := .opened, initialized := true, active := true, stopping := false,
      keepalive := true }

/-- `on_periodic_timer_closed`, and the branch of `stop` for a loop that is not alive. -/
def onPeriodicTimerClosed (timer : Periodic) : Periodic :=
  { timer with active := false, stopping := false, keepalive := false }

def stopPeriodicOnLoop (timer : Periodic) : Periodic :=
  if !timer.initialized then timer
  else if timer.stopping then timer
  else if timer.handle.isClosing then { timer with stopping := true }.onPeriodicTimerClosed
  else { timer with stopping := true, handle := .closing true }

def finish (timer : Periodic) (callback : Bool) : Periodic :=
  let finished := { timer with handle := .finished }
  if callback then finished.onPeriodicTimerClosed else finished

def walk (timer : Periodic) : Periodic :=
  match timer.handle with
  | .opened => { timer with handle := .closing false }
  | _ => timer

end Periodic

namespace State

def alive (state : State) : Bool :=
  state.phase == .running

def setCall (state : State) (id : CallId) (call : Call) : State :=
  { state with call := Function.update state.call id call }

def setConnection (state : State) (index : Nat) (connection : Connection) : State :=
  { state with connections := state.connections.set index connection }

def setTimer (state : State) (index : Nat) (timer : Periodic) : State :=
  { state with timers := state.timers.set index timer }

def enterClose (state : State) (id : CallId) (index : Nat) : Option State :=
  match state.call id, state.connections[index]? with
  | .idle, some connection =>
      if connection.closes then some (state.setCall id (.closing index state.alive))
      else some state
  | _, _ => none

/-- There is an object to be stopped only for a timer that was started. -/
def enterStop (state : State) (id : CallId) (index : Nat) : Option State :=
  match state.call id, state.timers[index]? with
  | .idle, some timer =>
      if timer.initialized then some (state.setCall id (.stopping index state.alive)) else none
  | _, _ => none

def goOn (state : State) (id : CallId) : Option State :=
  match state.call id with
  | .idle => none
  | .closing index alive =>
      (state.connections[index]?).map fun connection =>
        (state.setConnection index (connection.startClose alive)).setCall id .idle
  | .stopping index true =>
      some ({ state with posted := state.posted ++ [index] }.setCall id .idle)
  | .stopping index false =>
      (state.timers[index]?).map fun timer =>
        (state.setTimer index timer.onPeriodicTimerClosed).setCall id .idle

/-- `stop` on the loop, which is then not being destroyed. -/
def stopOnLoop (state : State) (index : Nat) : Option State :=
  if state.phase = .running then
    (state.timers[index]?).map fun timer => state.setTimer index timer.stopPeriodicOnLoop
  else none

/-- `drain_loop_tasks` runs in `EventLoop::run` and at the end of `~EventLoop`. A state that
holds itself is there to be locked. -/
def runPosted (state : State) (locked : Bool) : Option State :=
  if state.phase = .running ∨ state.phase = .ran then
    match state.posted with
    | [] => none
    | index :: rest =>
        match state.timers[index]? with
        | none => none
        | some timer =>
            if locked then
              some ({ state with posted := rest }.setTimer index timer.stopPeriodicOnLoop)
            else if timer.keepalive then none
            else some { state with posted := rest }
  else none

/-- The closing is finished in `uv_run`. -/
def finishConnection (state : State) (index : Nat) : Option State :=
  if state.phase = .running ∨ state.phase = .walked then
    match state.connections[index]? with
    | none => none
    | some connection =>
        match connection.handle with
        | .closing callback => some (state.setConnection index (connection.finish callback))
        | _ => none
  else none

def finishTimer (state : State) (index : Nat) : Option State :=
  if state.phase = .running ∨ state.phase = .walked then
    match state.timers[index]? with
    | none => none
    | some timer =>
        match timer.handle with
        | .closing callback => some (state.setTimer index (timer.finish callback))
        | _ => none
  else none

def walk (state : State) : State :=
  { state with
    phase := .walked
    connections := state.connections.map Connection.walk
    timers := state.timers.map Periodic.walk }

/-- `uv_run` returns zero only when no handle is closing. -/
def quiet (state : State) : Bool :=
  state.connections.all (fun connection => !connection.handle.inClosing) &&
    state.timers.all (fun timer => !timer.handle.inClosing)

def step (state : State) : Action → Option State
  | .createConnection initRc =>
      if initRc < 0 then some state
      else some { state with connections := state.connections ++ [Connection.create] }
  | .startPeriodic initRc startRc =>
      if state.alive then
        some { state with timers := state.timers ++ [Periodic.start initRc startRc] }
      else some state
  | .enterClose id index => state.enterClose id index
  | .enterStop id index => state.enterStop id index
  | .goOn id => state.goOn id
  | .stopOnLoop index => state.stopOnLoop index
  | .runPosted locked => state.runPosted locked
  | .finishConnection index => state.finishConnection index
  | .finishTimer index => state.finishTimer index
  | .clearFlag =>
      if state.phase = .running then some { state with phase := .flagCleared } else none
  | .joinWorkers =>
      if state.phase = .flagCleared then some { state with phase := .workersJoined } else none
  | .walk => if state.phase = .workersJoined then some state.walk else none
  | .returnRun =>
      if state.phase = .walked ∧ state.quiet then some { state with phase := .ran } else none

end State

def machine : Machine State Action where
  step := State.step

/-- As long as libuv knows the handle, the state with it is held. -/
structure Kept (state : State) : Prop where
  connections : ∀ connection ∈ state.connections, connection.handle.registered = true →
    connection.keepalive = true
  timers : ∀ timer ∈ state.timers, timer.handle.registered = true → timer.keepalive = true

/-- A call that has found the flag cleared goes on only after libuv has finished the closing of
the handle. -/
def Timely (state : State) : Action → Prop
  | .goOn id =>
      match state.call id with
      | .closing index false => ∀ connection, state.connections[index]? = some connection →
          connection.handle.registered = false
      | .stopping index false => ∀ timer, state.timers[index]? = some timer →
          timer.handle.registered = false
      | _ => True
  | _ => True

section Sound

/-- A connection that libuv knows holds itself. -/
structure Connection.Sound (connection : Connection) : Prop where
  kept : connection.handle.registered = true → connection.keepalive = true
  present : connection.handle ≠ .absent

/-- A timer that is closed with the callback is marked; only the destructor of the loop closes
one without it, and waits for that. -/
structure Periodic.Sound (phase : Phase) (timer : Periodic) : Prop where
  kept : timer.handle.registered = true → timer.keepalive = true
  present : timer.initialized = true → timer.handle ≠ .absent
  marked : timer.initialized = true → timer.handle = .closing true → timer.stopping = true
  walked : timer.handle = .closing false → phase = .walked

structure Sound (state : State) : Prop where
  connections : ∀ connection ∈ state.connections, connection.Sound
  timers : ∀ timer ∈ state.timers, timer.Sound state.phase

theorem Sound.toKept {state : State} (hsound : Sound state) : Kept state where
  connections connection hconnection := (hsound.connections connection hconnection).kept
  timers timer htimer := (hsound.timers timer htimer).kept

/-- A handle that is not closing is open. -/
theorem Registration.registered_of_open {handle : Registration} (hopen : ¬ handle.isClosing = true)
    (hpresent : handle ≠ .absent) : handle.registered = true := by
  cases handle with
  | absent => exact absurd rfl hpresent
  | opened => rfl
  | closing callback => rfl
  | finished => exact absurd rfl hopen

section Connection

variable {connection : Connection}

theorem Connection.sound_create : Connection.create.Sound where
  kept _ := rfl
  present := nofun

theorem Connection.Sound.startClose (hsound : connection.Sound) {alive : Bool}
    (htimely : alive = false → connection.handle.registered = false) :
    (connection.startClose alive).Sound := by
  unfold Connection.startClose
  split
  next halive =>
    refine ⟨fun hregistered => ?_, hsound.present⟩
    cases (htimely (by simpa using halive)).symm.trans hregistered
  split
  · exact hsound
  split
  · exact ⟨hsound.kept, hsound.present⟩
  next hopen =>
    have hregistered := Registration.registered_of_open hopen hsound.present
    exact ⟨fun _ => hsound.kept hregistered, nofun⟩

theorem Connection.finish_sound (connection : Connection) (callback : Bool) :
    (connection.finish callback).Sound := by
  cases callback with
  | false => exact ⟨nofun, nofun⟩
  | true => exact ⟨nofun, nofun⟩

theorem Connection.Sound.walk (hsound : connection.Sound) : connection.walk.Sound := by
  unfold Connection.walk
  split
  next hopened => exact ⟨fun _ => hsound.kept (by rw [hopened]; rfl), nofun⟩
  next => exact hsound

end Connection

section Periodic

variable {timer : Periodic} {phase : Phase}

theorem Periodic.start_sound (phase : Phase) (initRc startRc : Int) :
    (Periodic.start initRc startRc).Sound phase := by
  unfold Periodic.start
  split
  · exact ⟨nofun, nofun, nofun, nofun⟩
  split
  · exact ⟨fun _ => rfl, nofun, nofun, nofun⟩
  · exact ⟨fun _ => rfl, nofun, nofun, nofun⟩

/-- Without a registered handle the timer may let go of itself. -/
theorem Periodic.Sound.letGo (hsound : timer.Sound phase)
    (hgone : timer.handle.registered = false) : timer.onPeriodicTimerClosed.Sound phase where
  kept hregistered := nomatch hgone.symm.trans hregistered
  present := hsound.present
  marked _ hclosing := by
    rw [show timer.handle = .closing true from hclosing] at hgone
    cases hgone
  walked := hsound.walked

/-- The posted closures do not run while handles are closed by the destructor. -/
theorem Periodic.Sound.stopPeriodicOnLoop (hsound : timer.Sound phase) (hphase : phase ≠ .walked) :
    (timer.stopPeriodicOnLoop).Sound phase := by
  unfold Periodic.stopPeriodicOnLoop
  split
  · exact hsound
  next hinitialized =>
    have hinit : timer.initialized = true := by simpa using hinitialized
    split
    · exact hsound
    next hstopping =>
      split
      next hclosing =>
        have hgone : timer.handle.registered = false := by
          cases hhandle : timer.handle with
          | absent => rfl
          | opened => simp [hhandle, Registration.isClosing] at hclosing
          | closing callback =>
              cases callback with
              | false => exact absurd (hsound.walked hhandle) hphase
              | true => exact absurd (hsound.marked hinit hhandle) hstopping
          | finished => rfl
        exact (hsound.letGo hgone : timer.onPeriodicTimerClosed.Sound phase)
      next hopen =>
        have hregistered := Registration.registered_of_open hopen (hsound.present hinit)
        exact ⟨fun _ => hsound.kept hregistered, nofun, fun _ _ => rfl, nofun⟩

theorem Periodic.finish_sound (timer : Periodic) (callback : Bool) (phase : Phase) :
    (timer.finish callback).Sound phase := by
  cases callback with
  | false => exact ⟨nofun, nofun, nofun, nofun⟩
  | true => exact ⟨nofun, nofun, nofun, nofun⟩

theorem Periodic.Sound.walk (hsound : timer.Sound phase) : timer.walk.Sound .walked := by
  unfold Periodic.walk
  split
  next hopened =>
    exact ⟨fun _ => hsound.kept (by rw [hopened]; rfl), nofun, nofun, fun _ => rfl⟩
  next => exact ⟨hsound.kept, hsound.present, hsound.marked, fun _ => rfl⟩

/-- The destructor goes on when no handle is in closing. -/
theorem Periodic.Sound.advance (hsound : timer.Sound phase) (after : Phase)
    (hquiet : timer.handle ≠ .closing false) : timer.Sound after where
  kept := hsound.kept
  present := hsound.present
  marked := hsound.marked
  walked hclosing := absurd hclosing hquiet

end Periodic

variable {state next : State} {action : Action}

theorem sound_initial : Sound {} where
  connections := nofun
  timers := nofun

theorem Sound.setCall (hsound : Sound state) (id : CallId) (call : Call) :
    Sound (state.setCall id call) :=
  { hsound with }

theorem Sound.setPosted (hsound : Sound state) (posted : List Nat) :
    Sound { state with posted := posted } :=
  { hsound with }

theorem Sound.setConnection (hsound : Sound state) (index : Nat) {connection : Connection}
    (hconnection : connection.Sound) : Sound (state.setConnection index connection) where
  connections other hother := by
    rcases List.mem_or_eq_of_mem_set hother with hold | rfl
    · exact hsound.connections other hold
    · exact hconnection
  timers := hsound.timers

theorem Sound.setTimer (hsound : Sound state) (index : Nat) {timer : Periodic}
    (htimer : timer.Sound state.phase) : Sound (state.setTimer index timer) where
  connections := hsound.connections
  timers other hother := by
    rcases List.mem_or_eq_of_mem_set hother with hold | rfl
    · exact hsound.timers other hold
    · exact htimer

/-- The destructor of the loop goes from one phase to the next without a handle that it has
closed and not waited for. -/
theorem Sound.setPhase (hsound : Sound state) (phase : Phase)
    (hquiet : ∀ timer ∈ state.timers, timer.handle ≠ .closing false) :
    Sound { state with phase := phase } where
  connections := hsound.connections
  timers timer htimer := (hsound.timers timer htimer).advance phase (hquiet timer htimer)

theorem Sound.not_walked (hsound : Sound state) (hphase : state.phase ≠ .walked) :
    ∀ timer ∈ state.timers, timer.handle ≠ .closing false :=
  fun timer htimer hclosing => hphase ((hsound.timers timer htimer).walked hclosing)

theorem Sound.goOn (hsound : Sound state) {id : CallId} (htimely : Timely state (.goOn id))
    (hstep : state.goOn id = some next) : Sound next := by
  unfold State.goOn at hstep
  simp only [Timely] at htimely
  split at hstep
  next => cases hstep
  next index alive hcall =>
    simp only [Option.map_eq_some_iff] at hstep
    obtain ⟨connection, hconnection, rfl⟩ := hstep
    refine (hsound.setConnection index ?_).setCall id .idle
    refine (hsound.connections connection (List.mem_of_getElem? hconnection)).startClose ?_
    rintro rfl
    rw [hcall] at htimely
    exact htimely connection hconnection
  next index hcall =>
    cases hstep
    exact (hsound.setPosted _).setCall id .idle
  next index hcall =>
    simp only [Option.map_eq_some_iff] at hstep
    obtain ⟨timer, htimer, rfl⟩ := hstep
    rw [hcall] at htimely
    have hgone := htimely timer htimer
    have hold := hsound.timers timer (List.mem_of_getElem? htimer)
    exact (hsound.setTimer index (hold.letGo hgone)).setCall id .idle

theorem Sound.runPosted (hsound : Sound state) {locked : Bool}
    (hstep : state.runPosted locked = some next) : Sound next := by
  unfold State.runPosted at hstep
  simp only [Option.ite_none_right_eq_some] at hstep
  obtain ⟨hphase, hstep⟩ := hstep
  have hnotWalked : state.phase ≠ .walked := by
    rcases hphase with hphase | hphase <;> rw [hphase] <;> exact nofun
  split at hstep
  next => cases hstep
  next index rest hposted =>
    split at hstep
    next => cases hstep
    next timer htimer =>
      split at hstep
      next =>
        cases hstep
        have hold := hsound.timers timer (List.mem_of_getElem? htimer)
        exact (hsound.setPosted rest).setTimer index (hold.stopPeriodicOnLoop hnotWalked)
      next =>
        simp only [Option.ite_none_left_eq_some, Option.some.injEq] at hstep
        exact hstep.2 ▸ hsound.setPosted rest

theorem quiet_timers (hquiet : state.quiet = true) :
    ∀ timer ∈ state.timers, timer.handle ≠ .closing false := by
  simp only [State.quiet, Bool.and_eq_true, List.all_eq_true] at hquiet
  intro timer htimer hclosing
  have hnot := hquiet.2 timer htimer
  simp [hclosing, Registration.inClosing] at hnot

theorem Sound.walk (hsound : Sound state) : Sound state.walk where
  connections := by
    simp only [State.walk, List.mem_map, forall_exists_index, and_imp]
    rintro _ connection hconnection rfl
    exact (hsound.connections connection hconnection).walk
  timers := by
    simp only [State.walk, List.mem_map, forall_exists_index, and_imp]
    rintro _ timer htimer rfl
    exact (hsound.timers timer htimer).walk

theorem step_sound (hsound : Sound state) (htimely : Timely state action)
    (hstep : machine.step state action = some next) : Sound next := by
  change state.step action = some next at hstep
  cases action with
  | createConnection initRc =>
      simp only [State.step] at hstep
      split at hstep <;> cases hstep
      · exact hsound
      · refine ⟨fun connection hconnection => ?_, hsound.timers⟩
        rcases List.mem_append.mp hconnection with hold | hnew
        · exact hsound.connections connection hold
        · exact List.mem_singleton.mp hnew ▸ Connection.sound_create
  | startPeriodic initRc startRc =>
      simp only [State.step] at hstep
      split at hstep <;> cases hstep
      · refine ⟨hsound.connections, fun timer htimer => ?_⟩
        rcases List.mem_append.mp htimer with hold | hnew
        · exact hsound.timers timer hold
        · exact List.mem_singleton.mp hnew ▸ Periodic.start_sound state.phase initRc startRc
      · exact hsound
  | enterClose id index =>
      simp only [State.step, State.enterClose] at hstep
      split at hstep
      · split at hstep <;> cases hstep
        · exact hsound.setCall id _
        · exact hsound
      · cases hstep
  | enterStop id index =>
      simp only [State.step, State.enterStop] at hstep
      split at hstep
      · simp only [Option.ite_none_right_eq_some, Option.some.injEq] at hstep
        exact hstep.2 ▸ hsound.setCall id _
      · cases hstep
  -- The one step at which the dead-loop branch drops a keepalive.
  | goOn id => exact hsound.goOn htimely hstep
  | stopOnLoop index =>
      simp only [State.step, State.stopOnLoop, Option.ite_none_right_eq_some,
        Option.map_eq_some_iff] at hstep
      obtain ⟨hphase, timer, htimer, rfl⟩ := hstep
      have hold := hsound.timers timer (List.mem_of_getElem? htimer)
      exact hsound.setTimer index (hold.stopPeriodicOnLoop (by rw [hphase]; exact nofun))
  | runPosted locked => exact hsound.runPosted hstep
  | finishConnection index =>
      simp only [State.step, State.finishConnection, Option.ite_none_right_eq_some] at hstep
      obtain ⟨-, hstep⟩ := hstep
      split at hstep
      · cases hstep
      · split at hstep <;> cases hstep
        exact hsound.setConnection index (Connection.finish_sound _ _)
  | finishTimer index =>
      simp only [State.step, State.finishTimer, Option.ite_none_right_eq_some] at hstep
      obtain ⟨-, hstep⟩ := hstep
      split at hstep
      · cases hstep
      · split at hstep <;> cases hstep
        exact hsound.setTimer index (Periodic.finish_sound _ _ _)
  | clearFlag =>
      simp only [State.step, Option.ite_none_right_eq_some, Option.some.injEq] at hstep
      obtain ⟨hphase, rfl⟩ := hstep
      exact hsound.setPhase _ (hsound.not_walked (by rw [hphase]; exact nofun))
  | joinWorkers =>
      simp only [State.step, Option.ite_none_right_eq_some, Option.some.injEq] at hstep
      obtain ⟨hphase, rfl⟩ := hstep
      exact hsound.setPhase _ (hsound.not_walked (by rw [hphase]; exact nofun))
  | walk =>
      simp only [State.step, Option.ite_none_right_eq_some, Option.some.injEq] at hstep
      exact hstep.2 ▸ hsound.walk
  | returnRun =>
      simp only [State.step, Option.ite_none_right_eq_some, Option.some.injEq] at hstep
      obtain ⟨⟨-, hquiet⟩, rfl⟩ := hstep
      exact hsound.setPhase _ (quiet_timers hquiet)

end Sound

/-- In every run in which the calls that have found the flag cleared wait until libuv has
finished the closing, the states with a registered handle are held. -/
theorem kept_of_timely (actions : List Action) (state : State)
    (hmeets : machine.Meets Timely actions {}) (hrun : machine.run actions {} = some state) :
    Kept state := by
  have hsound : Sound state :=
    Machine.run_invariant (fun _ _ _ hsound htimely hstep => step_sound hsound htimely hstep)
      actions {} state sound_initial hmeets hrun
  exact hsound.toKept

/-- A stop is posted by another thread, then the loop is destroyed; the connection is closed
when its handle is gone. -/
def closedAfterwards : List Action :=
  [.createConnection 0, .startPeriodic 0 0, .enterStop 0 0, .goOn 0, .clearFlag, .joinWorkers,
    .walk, .finishConnection 0, .finishTimer 0, .returnRun, .runPosted true, .enterClose 1 0,
    .goOn 1]

theorem kept_closedAfterwards :
    ∃ state, machine.run closedAfterwards {} = some state ∧
      state.connections.map Connection.keepalive = [false] ∧
      state.timers.map Periodic.keepalive = [false] ∧ Kept state := by
  have hmeets : machine.Meets Timely closedAfterwards {} := by
    refine Machine.meets_cons trivial rfl (Machine.meets_cons trivial rfl
      (Machine.meets_cons trivial rfl (Machine.meets_cons trivial rfl
      (Machine.meets_cons trivial rfl (Machine.meets_cons trivial rfl
      (Machine.meets_cons trivial rfl (Machine.meets_cons trivial rfl
      (Machine.meets_cons trivial rfl (Machine.meets_cons trivial rfl
      (Machine.meets_cons trivial rfl (Machine.meets_cons trivial rfl
      (Machine.meets_cons ?_ rfl trivial))))))))))))
    rintro connection ⟨⟩
    rfl
  exact ⟨_, rfl, rfl, rfl, kept_of_timely _ _ hmeets rfl⟩

/-- A job of a worker destroys a connection after the flag has been cleared. -/
def closedByWorker : List Action :=
  [.createConnection 0, .clearFlag, .enterClose 0 0, .goOn 0]

theorem dropped_closedByWorker :
    ¬ ∀ (actions : List Action) (state : State), machine.run actions {} = some state →
      Kept state := by
  intro halwaysKept
  have hkept := halwaysKept closedByWorker _ rfl
  cases hkept.connections _ List.mem_cons_self rfl

end Fiberuv.EventLoop.Teardown
