import Fiberuv.Foundation.Machine

/-! # Periodic tasks

`PeriodicTask::Impl` with its timer, from `every` to the close callback of the timer, on a
loop that stays alive. The interval of the caller is a number of milliseconds: the overloads
for other durations and callables select themselves again without end, and no call of them
compiles. The interval is clamped and is then both the first delay and the repeat value;
libuv re-arms a timer before it calls it back unless the repeat value is zero.

Stops come from the loop, from other threads and from the destructor. On the loop
`stop_periodic_on_loop` runs at once; elsewhere it is posted to the loop, with a weak
pointer to the `Impl`. Moving another task over the object releases the `Impl` without a
stop.
-/

namespace Fiberuv.EventLoop.Periodic

open Foundation

/-- The test that every function on the way makes again. -/
def clamp (interval : Int) : Int := if interval < 0 then 0 else interval

/-- The repeat value given to `uv_timer_start`: clamped by `every` and again by
`start_periodic_on_loop`. -/
def repeatValue (interval : Int) : Nat := (clamp (clamp interval)).toNat

structure State where
  /-- `every` has been called. -/
  started : Bool := false
  /-- A `PeriodicTask` object refers to the `Impl`. -/
  owned : Bool := false
  initialized : Bool := false
  active : Bool := false
  stopping : Bool := false
  keepalive : Bool := false
  /-- The timer is going to fire. -/
  armed : Bool := false
  /-- `uv_is_closing` of the timer. -/
  uvClosing : Bool := false
  /-- libuv still has to call `on_periodic_timer_closed`. -/
  closeCallback : Bool := false
  /-- The stops of other threads that are in `loop_tasks_`. -/
  posted : Nat := 0
  /-- `stop_periodic_on_loop` has stopped the timer; recorded and read by no step. -/
  stopped : Bool := false
  /-- How often `uv_close` was called; recorded as well. -/
  closes : Nat := 0
  /-- The runs spawned after the timer was stopped; recorded as well. -/
  late : Nat := 0

inductive Action where
  /-- `every`, with the results of `uv_timer_init` and `uv_timer_start`. -/
  | every (initRc startRc : Int)
  /-- The timer fires; the label says whether a fiber can be spawned. -/
  | expire (spawned : Bool)
  /-- `PeriodicTask::stop` on the loop. -/
  | stop
  /-- `PeriodicTask::stop` on another thread. -/
  | stopElsewhere
  /-- The destructor on the loop. -/
  | destroy
  /-- The destructor on another thread. -/
  | destroyElsewhere
  /-- Another task is moved over the object. -/
  | overwrite
  /-- The loop runs a stop that was posted to it. -/
  | runStop
  | onPeriodicTimerClosed

namespace State

def uvClose (state : State) : State :=
  { state with
    armed := false
    uvClosing := true
    closeCallback := true
    closes := state.closes + 1 }

def onPeriodicTimerClosed (state : State) : State :=
  { state with active := false, stopping := false, keepalive := false, closeCallback := false }

def stopPeriodicOnLoop (state : State) : State :=
  if !state.initialized then state
  else if state.stopping then state
  else if state.uvClosing then
    { state with active := false, stopping := false, keepalive := false }
  else { state with stopping := true, stopped := true }.uvClose

/-- `on_periodic_timer`; an exception of `spawn` is swallowed. -/
def onPeriodicTimer (state : State) (spawned : Bool) : State :=
  if !state.active || state.stopping then state
  else if spawned && state.stopped then { state with late := state.late + 1 }
  else state

/-- `start_periodic_on_loop`. The object exists only when it returns. -/
def startPeriodicOnLoop (state : State) (initRc startRc : Int) : State :=
  if initRc < 0 then { state with started := true }
  else if startRc < 0 then { state with started := true, keepalive := true }.uvClose
  else
    { state with
      started := true
      owned := true
      initialized := true
      active := true
      keepalive := true
      armed := true }

/-- The part of `stop` on another thread. -/
def post (state : State) : State := { state with posted := state.posted + 1 }

def release (state : State) : State := { state with owned := false }

/-- The timer fires: libuv stops it, re-arms it unless it does not repeat, and calls
back. -/
def expire (state : State) (interval : Int) (spawned : Bool) : State :=
  { state with armed := decide (0 < repeatValue interval) }.onPeriodicTimer spawned

def step (interval : Int) (state : State) : Action → Option State
  | .every initRc startRc =>
      if state.started then none else some (state.startPeriodicOnLoop initRc startRc)
  | .expire spawned => if state.armed then some (state.expire interval spawned) else none
  | .stop => if state.owned then some state.stopPeriodicOnLoop else none
  | .stopElsewhere => if state.owned then some state.post else none
  | .destroy => if state.owned then some state.stopPeriodicOnLoop.release else none
  | .destroyElsewhere => if state.owned then some state.post.release else none
  | .overwrite => if state.owned then some state.release else none
  | .runStop =>
      if 0 < state.posted then
        let taken := { state with posted := state.posted - 1 }
        -- The weak pointer is empty once neither an object nor the timer holds the `Impl`.
        some (if state.owned || state.keepalive then taken.stopPeriodicOnLoop else taken)
      else none
  | .onPeriodicTimerClosed =>
      if state.closeCallback then some state.onPeriodicTimerClosed else none

end State

/-- A task with this interval, in milliseconds. -/
def machine (interval : Int) : Machine State Action where
  step := State.step interval

def initial : State := {}

/-- An active task that no stop has reached is armed; a stopped one spawns no more runs and
has closed its timer once. -/
structure Proper (state : State) : Prop where
  armed : state.active = true → state.stopped = false → state.armed = true
  silent : state.late = 0
  closedOnce : state.closes ≤ 1 ∧ (state.stopped = true → state.closes = 1)

/-- The timer fires only if it repeats. -/
def Repeats (interval : Int) (_ : State) : Action → Prop
  | .expire _ => 1 ≤ interval
  | _ => True

/-- Only an interval of at least a millisecond is a timer that repeats. -/
theorem repeatValue_pos_iff (interval : Int) : 0 < repeatValue interval ↔ 1 ≤ interval := by
  have hclamp : ∀ given : Int, 1 ≤ clamp given ↔ 1 ≤ given := by
    intro given
    unfold clamp
    split <;> omega
  rw [repeatValue, Int.lt_toNat]
  exact (hclamp (clamp interval)).trans (hclamp interval)

/-- What holds of a task whatever its interval is: a timer that is armed belongs to a task
that runs, and `uv_close` is called once. -/
structure Sound (state : State) : Prop where
  armed : state.armed = true → state.initialized = true ∧ state.uvClosing = false
  running : state.initialized = true → state.uvClosing = false →
    state.active = true ∧ state.stopping = false ∧ state.stopped = false
  active : state.active = true → state.initialized = true
  closing : state.closes = if state.uvClosing then 1 else 0
  stopped : state.stopped = true → state.uvClosing = true
  callback : state.closeCallback = true → state.uvClosing = true
  fresh : state.started = false →
    state.initialized = false ∧ state.uvClosing = false ∧ state.stopping = false
  silent : state.late = 0

variable {state next : State} {interval : Int}

theorem sound_initial : Sound initial := by
  constructor <;> simp [initial]

/-- The object and the posted stops do not matter. -/
theorem Sound.bookkeeping (hsound : Sound state) (owned : Bool) (posted : Nat) :
    Sound { state with owned := owned, posted := posted } :=
  ⟨hsound.armed, hsound.running, hsound.active, hsound.closing, hsound.stopped, hsound.callback,
    hsound.fresh, hsound.silent⟩

theorem Sound.stopPeriodicOnLoop (hsound : Sound state) : Sound state.stopPeriodicOnLoop := by
  unfold State.stopPeriodicOnLoop
  split
  · exact hsound
  next hinitialized =>
    have hbegun : state.started ≠ false := by
      intro hstarted
      have hfresh := (hsound.fresh hstarted).1
      simp [hfresh] at hinitialized
    split
    · exact hsound
    split
    next huv =>
      refine ⟨hsound.armed, ?_, by simp, hsound.closing, hsound.stopped, hsound.callback, ?_,
        hsound.silent⟩
      · simp [huv]
      · exact fun hstarted => absurd hstarted hbegun
    next huv =>
      rw [Bool.not_eq_true] at huv
      have hcloses := hsound.closing
      rw [huv] at hcloses
      refine ⟨by simp [State.uvClose], by simp [State.uvClose], hsound.active, ?_,
        by simp [State.uvClose], by simp [State.uvClose], ?_, hsound.silent⟩
      · simp [State.uvClose, hcloses]
      · exact fun hstarted => absurd hstarted hbegun

theorem Sound.startPeriodicOnLoop (hsound : Sound state) (hstarted : state.started = false)
    (initRc startRc : Int) : Sound (state.startPeriodicOnLoop initRc startRc) := by
  obtain ⟨-, huv, hstopping⟩ := hsound.fresh hstarted
  have hcloses := hsound.closing
  rw [huv] at hcloses
  have hunstopped : state.stopped = false := by
    rw [Bool.eq_false_iff]
    intro hstopped
    have hclosing := hsound.stopped hstopped
    simp [huv] at hclosing
  unfold State.startPeriodicOnLoop
  split
  · exact ⟨hsound.armed, hsound.running, hsound.active, hsound.closing, hsound.stopped,
      hsound.callback, by simp, hsound.silent⟩
  split
  · exact ⟨by simp [State.uvClose], by simp [State.uvClose], hsound.active,
      by simp [State.uvClose, hcloses], by simp [State.uvClose], by simp [State.uvClose],
      by simp [State.uvClose], hsound.silent⟩
  · exact ⟨fun _ => ⟨rfl, huv⟩, fun _ _ => ⟨rfl, hstopping, hunstopped⟩, fun _ => rfl,
      hsound.closing, hsound.stopped, hsound.callback, by simp, hsound.silent⟩

theorem Sound.onPeriodicTimerClosed (hsound : Sound state)
    (hcallback : state.closeCallback = true) : Sound state.onPeriodicTimerClosed := by
  have huv := hsound.callback hcallback
  refine ⟨hsound.armed, ?_, nofun, hsound.closing, hsound.stopped, nofun, ?_, hsound.silent⟩
  · simp [State.onPeriodicTimerClosed, huv]
  · intro hstarted
    have hfresh := (hsound.fresh hstarted).2.1
    simp [huv] at hfresh

/-- A timer that fires belongs to a task that runs, so the callback is not a late one. -/
theorem expire_eq (hsound : Sound state) (harmed : state.armed = true) (spawned : Bool) :
    state.expire interval spawned = { state with armed := decide (1 ≤ interval) } := by
  obtain ⟨hinitialized, huv⟩ := hsound.armed harmed
  obtain ⟨hactive, hstopping, hstopped⟩ := hsound.running hinitialized huv
  simp [State.expire, State.onPeriodicTimer, hactive, hstopping, hstopped, repeatValue_pos_iff]

/-- What one step can do. -/
inductive Move (interval : Int) (state : State) : Action → State → Prop where
  | every (initRc startRc : Int) (hstarted : state.started = false) :
      Move interval state (.every initRc startRc) (state.startPeriodicOnLoop initRc startRc)
  | expire (spawned : Bool) (harmed : state.armed = true) :
      Move interval state (.expire spawned) (state.expire interval spawned)
  /-- A stop is carried out, at once or when the loop runs it. -/
  | stops (action : Action) (owned : Bool) (posted : Nat) (hquiet : Repeats interval state action) :
      Move interval state action
        { state with owned := owned, posted := posted }.stopPeriodicOnLoop
  /-- Only the object or the posted stops change. -/
  | books (action : Action) (owned : Bool) (posted : Nat) (hquiet : Repeats interval state action) :
      Move interval state action { state with owned := owned, posted := posted }
  | closed (hcallback : state.closeCallback = true) :
      Move interval state .onPeriodicTimerClosed state.onPeriodicTimerClosed

/-- Releasing the object and stopping are independent. -/
theorem stopPeriodicOnLoop_release (state : State) :
    state.stopPeriodicOnLoop.release =
      { state with owned := false, posted := state.posted }.stopPeriodicOnLoop := by
  obtain ⟨_, _, initialized, _, stopping, _, _, uvClosing, _, _, _, _, _⟩ := state
  cases initialized <;> cases stopping <;> cases uvClosing <;> rfl

theorem step_move {action : Action} (hstep : state.step interval action = some next) :
    Move interval state action next := by
  cases action with
  | every initRc startRc =>
      simp only [State.step] at hstep
      split at hstep
      · cases hstep
      next hstarted =>
        cases hstep
        exact .every initRc startRc (by simpa using hstarted)
  | expire spawned =>
      simp only [State.step, Option.ite_none_right_eq_some, Option.some.injEq] at hstep
      obtain ⟨harmed, rfl⟩ := hstep
      exact .expire spawned harmed
  | stop =>
      simp only [State.step, Option.ite_none_right_eq_some, Option.some.injEq] at hstep
      obtain ⟨-, rfl⟩ := hstep
      exact .stops _ state.owned state.posted trivial
  | stopElsewhere =>
      simp only [State.step, Option.ite_none_right_eq_some, Option.some.injEq] at hstep
      obtain ⟨-, rfl⟩ := hstep
      exact .books _ state.owned (state.posted + 1) trivial
  | destroy =>
      simp only [State.step, Option.ite_none_right_eq_some, Option.some.injEq] at hstep
      obtain ⟨-, rfl⟩ := hstep
      rw [stopPeriodicOnLoop_release]
      exact .stops _ false state.posted trivial
  | destroyElsewhere =>
      simp only [State.step, Option.ite_none_right_eq_some, Option.some.injEq] at hstep
      obtain ⟨-, rfl⟩ := hstep
      exact .books _ false (state.posted + 1) trivial
  | overwrite =>
      simp only [State.step, Option.ite_none_right_eq_some, Option.some.injEq] at hstep
      obtain ⟨-, rfl⟩ := hstep
      exact .books _ false state.posted trivial
  | runStop =>
      simp only [State.step, Option.ite_none_right_eq_some, Option.some.injEq] at hstep
      obtain ⟨-, rfl⟩ := hstep
      split
      · exact .stops _ state.owned (state.posted - 1) trivial
      · exact .books _ state.owned (state.posted - 1) trivial
  | onPeriodicTimerClosed =>
      simp only [State.step, Option.ite_none_right_eq_some, Option.some.injEq] at hstep
      obtain ⟨hcallback, rfl⟩ := hstep
      exact .closed hcallback

theorem Sound.step {action : Action} (hsound : Sound state)
    (hstep : state.step interval action = some next) : Sound next := by
  cases step_move hstep with
  | every initRc startRc hstarted => exact hsound.startPeriodicOnLoop hstarted initRc startRc
  | expire spawned harmed =>
      rw [expire_eq hsound harmed]
      exact ⟨fun _ => hsound.armed harmed, hsound.running, hsound.active, hsound.closing,
        hsound.stopped, hsound.callback, hsound.fresh, hsound.silent⟩
  | stops _ owned posted => exact (hsound.bookkeeping owned posted).stopPeriodicOnLoop
  | books _ owned posted => exact hsound.bookkeeping owned posted
  | closed hcallback => exact hsound.onPeriodicTimerClosed hcallback

/-- An active task that no stop has reached is armed. -/
def Armed (state : State) : Prop :=
  state.active = true → state.stopped = false → state.armed = true

theorem Armed.step {action : Action} (hsound : Sound state) (harmed : Armed state)
    (hrepeats : Repeats interval state action)
    (hstep : state.step interval action = some next) : Armed next := by
  cases step_move hstep with
  | every initRc startRc hstarted =>
      have hidle : state.active = false := by
        rw [Bool.eq_false_iff]
        intro hactive
        have hbegun := hsound.active hactive
        simp [(hsound.fresh hstarted).1] at hbegun
      unfold State.startPeriodicOnLoop
      split
      · simp [Armed, hidle]
      split
      · simp [Armed, State.uvClose, hidle]
      · simp [Armed]
  | expire spawned hfires =>
      rw [expire_eq hsound hfires]
      exact fun _ _ => decide_eq_true hrepeats
  | stops _ owned posted =>
      unfold State.stopPeriodicOnLoop
      split
      · exact harmed
      split
      · exact harmed
      split
      · simp [Armed]
      · simp [Armed, State.uvClose]
  | books _ owned posted => exact harmed
  | closed hcallback => simp [Armed, State.onPeriodicTimerClosed]

/-- A timer that does not repeat leaves an active task unarmed. -/
theorem not_proper_of_expired {action : Action} (hsound : Sound state)
    (hrepeats : ¬ Repeats interval state action)
    (hstep : state.step interval action = some next) : ¬ Proper next := by
  intro hproper
  cases step_move hstep with
  | every => exact hrepeats trivial
  | expire spawned harmed =>
      obtain ⟨hinitialized, huv⟩ := hsound.armed harmed
      obtain ⟨hactive, -, hstopped⟩ := hsound.running hinitialized huv
      have hagain := hproper.armed
      rw [expire_eq hsound harmed] at hagain
      have hone : 1 ≤ interval := of_decide_eq_true (hagain hactive hstopped)
      exact hrepeats hone
  | stops _ owned posted hquiet => exact hrepeats hquiet
  | books _ owned posted hquiet => exact hrepeats hquiet
  | closed => exact hrepeats trivial

theorem Sound.proper (hsound : Sound state) (harmed : Armed state) : Proper state := by
  refine ⟨harmed, hsound.silent, ?_, ?_⟩
  · rw [hsound.closing]
    split <;> omega
  · intro hstopped
    rw [hsound.closing, hsound.stopped hstopped]
    rfl

/-- Whatever stops it and in whatever order, a periodic task stays armed while it is active
and is stopped for good afterwards, exactly when its timer does not fire or its interval is
at least a millisecond. -/
theorem stays_armed_iff (interval : Int) (run : List Action) (final : State)
    (hrun : (machine interval).run run initial = some final) :
    (∀ before after state, run = before ++ after →
      (machine interval).run before initial = some state → Proper state) ↔
      (machine interval).Meets (Repeats interval) run initial := by
  have harmed : Armed initial := fun hactive => nomatch hactive
  exact Machine.along_run_iff_meets (fun _ _ _ hsound hstep => hsound.step hstep)
    (fun _ _ _ hsound harmed hrepeats hstep => harmed.step hsound hrepeats hstep)
    (fun _ hsound harmed => hsound.proper harmed)
    (fun _ _ _ hsound hrepeats hstep => not_proper_of_expired hsound hrepeats hstep)
    sound_initial harmed hrun

/-- Two ticks, a stop from another thread, one on the loop and the destructor. -/
def tickedAndStopped : List Action :=
  [.every 0 0, .expire true, .expire true, .stopElsewhere, .stop, .runStop,
    .onPeriodicTimerClosed, .destroy]

theorem stays_armed_tickedAndStopped :
    ∃ final, (machine 200).run tickedAndStopped initial = some final ∧
      ∀ before after state, tickedAndStopped = before ++ after →
        (machine 200).run before initial = some state → Proper state := by
  refine ⟨_, rfl, (stays_armed_iff 200 tickedAndStopped _ rfl).mpr ?_⟩
  refine Machine.meets_cons trivial rfl ?_
  have hrepeats : (1 : Int) ≤ 200 := by decide
  iterate 2 refine Machine.meets_cons hrepeats rfl ?_
  iterate 4 refine Machine.meets_cons trivial rfl ?_
  exact Machine.meets_cons trivial rfl trivial

/-- `std::chrono::milliseconds(0)`: the task fires once and stays active without firing
again. -/
theorem disarmed_zeroInterval :
    ¬ ∀ (interval : Int) (state : State), (machine interval).Reachable initial state →
      Proper state := by
  intro hproper
  have hfired := hproper 0 _ ⟨[.every 0 0, .expire true], rfl⟩
  have hagain := hfired.armed rfl rfl
  exact absurd hagain (by decide)

end Fiberuv.EventLoop.Periodic
