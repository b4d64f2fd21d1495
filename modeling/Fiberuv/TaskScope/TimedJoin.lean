import Fiberuv.Foundation.Decision
import Fiberuv.TaskScope.Outcome

/-! # `join_for`

`join_for` is `join` with a time limit on its wait: the same mutexes, the same predicates
and the same report at the end. When the time is over the wait ends as after any wake-up,
the predicate is tested once more, and a scope that is still busy makes the call return
`false`. Calls of `join` and of `join_for` share their identifiers.
-/

namespace Fiberuv.TaskScope.Fibers.TimedJoin

open Foundation

/-- What one call of `join_for` ends with. -/
inductive Answer where
  /-- It returns `false`. -/
  | gaveUp
  /-- It returns `true`, or rethrows the exception. -/
  | reported (thrown : Option Exn)
  deriving DecidableEq

inductive Timed where
  /-- Not a call of `join_for`. -/
  | absent
  /-- Before the answer; the time may be over. -/
  | waiting (expired : Bool)
  | answered (answer : Answer)
  deriving DecidableEq

structure State where
  scope : Fibers.State := {}
  timed : JoinId → Timed := fun _ => .absent

inductive Action where
  /-- A step of a task, of the owner, of the loop or of a `join`. -/
  | scope (action : Fibers.Action)
  | joinFor (joiner : JoinId) (onLoop : Bool)
  /-- A step that `join_for` shares with `join`. -/
  | wait (action : Fibers.Action)
  /-- The time is over while the caller is parked. -/
  | expire (joiner : JoinId)

/-- The call that makes the step, when it is a step of a wait. -/
def waiter : Fibers.Action → Option JoinId
  | .joinFiberLock joiner | .joinFiberTest joiner | .joinFiberUnlock joiner => some joiner
  | .joinLock joiner | .joinTest joiner | .joinPark joiner | .joinWake joiner => some joiner
  | .joinUnlock joiner | .joinReport joiner => some joiner
  | _ => none

/-- The call that makes the step. -/
def caller : Fibers.Action → Option JoinId
  | .join joiner _ => some joiner
  | action => waiter action

/-- The spawn does not come from a task of the scope. -/
def Action.fromOutside : Action → Bool
  | .scope action => action.fromOutside
  | _ => false

namespace State

def setTimed (state : State) (joiner : JoinId) (timed : Timed) (scope : Fibers.State) : State where
  scope := scope
  timed := Function.update state.timed joiner timed

/-- The step tests the predicate of the wait, and finds it false. -/
def testFails (state : State) : Fibers.Action → Bool
  | .joinFiberTest joiner =>
      decide (state.scope.joiners joiner = .fiberTesting) && decide (state.scope.active ≠ 0)
  | .joinTest joiner =>
      decide (state.scope.joiners joiner = .testing) && !state.scope.waitOver
  | _ => false

/-- `wait_for` returns the predicate, which is false: the lock is released and the call
returns. -/
def giveUp (state : State) (joiner : JoinId) : Fibers.Action → State
  | .joinFiberTest _ => state.setTimed joiner (.answered .gaveUp)
      ({ state.scope with mutex := none }.setJoiner joiner .idle)
  | _ => state.setTimed joiner (.answered .gaveUp)
      ({ state.scope with stdMutex := none }.setJoiner joiner .idle)

/-- What the call has come to, by what `join` would have come to. -/
def after (expired : Bool) (action : Fibers.Action) (position : Joiner) : Timed :=
  match action, position with
  -- The loop is gone and tasks are left.
  | .joinUnlock _, .returned _ => .answered .gaveUp
  | .joinReport _, .returned thrown => .answered (.reported thrown)
  | _, _ => .waiting expired

/-- `join_for` up to its wait. A loop that is gone ends the call at once. -/
def entered (state : State) : Timed :=
  if state.scope.alive then .waiting false
  else if state.scope.active = 0 then .answered (.reported none)
  else .answered .gaveUp

def step (state : State) : Action → Option State
  | .scope action =>
      if (caller action).all fun joiner => state.timed joiner = .absent then
        (Fibers.machine.step state.scope action).map fun scope => { state with scope := scope }
      else none
  | .joinFor joiner onLoop =>
      if state.timed joiner = .absent then
        (Fibers.machine.step state.scope (.join joiner onLoop)).map
          (state.setTimed joiner state.entered)
      else none
  | .wait action =>
      match waiter action with
      | none => none
      | some joiner =>
          match state.timed joiner with
          | .waiting expired =>
              if expired && state.testFails action then some (state.giveUp joiner action)
              else
                (Fibers.machine.step state.scope action).map fun scope =>
                  state.setTimed joiner (after expired action (scope.joiners joiner)) scope
          | _ => none
  | .expire joiner =>
      if state.timed joiner = .waiting false then
        (Fibers.machine.step state.scope (.joinWake joiner)).map
          (state.setTimed joiner (.waiting true))
      else none

end State

/-- One scope with any number of calls of `join` and `join_for`. -/
def machine : Machine State Action where
  step := State.step

def initial : State := {}

/-- What a step does to the scope: a step of it, or the end of a call that gives up. -/
inductive Moves (state : State) : Action → State → Prop where
  | scope (action : Fibers.Action) (scope : Fibers.State)
      (hstep : Fibers.machine.step state.scope action = some scope) :
      Moves state (.scope action) { state with scope := scope }
  | enter (joiner : JoinId) (onLoop : Bool) (scope : Fibers.State)
      (habsent : state.timed joiner = .absent)
      (hstep : Fibers.machine.step state.scope (.join joiner onLoop) = some scope) :
      Moves state (.joinFor joiner onLoop) (state.setTimed joiner state.entered scope)
  | wait (action : Fibers.Action) (joiner : JoinId) (expired : Bool) (scope : Fibers.State)
      (hwaiter : waiter action = some joiner) (hwaiting : state.timed joiner = .waiting expired)
      (hstep : Fibers.machine.step state.scope action = some scope) :
      Moves state (.wait action)
        (state.setTimed joiner (State.after expired action (scope.joiners joiner)) scope)
  | giveUp (action : Fibers.Action) (joiner : JoinId) (hwaiter : waiter action = some joiner)
      (hwaiting : state.timed joiner = .waiting true) (hfails : state.testFails action = true) :
      Moves state (.wait action) (state.giveUp joiner action)
  | expire (joiner : JoinId) (scope : Fibers.State)
      (hwaiting : state.timed joiner = .waiting false)
      (hstep : Fibers.machine.step state.scope (.joinWake joiner) = some scope) :
      Moves state (.expire joiner) (state.setTimed joiner (.waiting true) scope)

variable {state next : State} {action : Action} {joiner : JoinId}

theorem step_moves (hstep : machine.step state action = some next) : Moves state action next := by
  cases action with
  | scope action =>
      simp only [machine, State.step, Option.ite_none_right_eq_some,
        Option.map_eq_some_iff] at hstep
      obtain ⟨-, scope, hscope, rfl⟩ := hstep
      exact .scope action scope hscope
  | joinFor joiner onLoop =>
      simp only [machine, State.step, Option.ite_none_right_eq_some,
        Option.map_eq_some_iff] at hstep
      obtain ⟨habsent, scope, hscope, rfl⟩ := hstep
      exact .enter joiner onLoop scope habsent hscope
  | wait action =>
      simp only [machine, State.step] at hstep
      split at hstep
      · cases hstep
      next joiner hwaiter =>
        split at hstep
        next expired hwaiting =>
          split at hstep
          next hboth =>
            cases hstep
            rw [Bool.and_eq_true] at hboth
            obtain ⟨rfl, hfails⟩ := hboth
            exact .giveUp action joiner hwaiter hwaiting hfails
          next hnot =>
            rw [Option.map_eq_some_iff] at hstep
            obtain ⟨scope, hscope, rfl⟩ := hstep
            exact .wait action joiner expired scope hwaiter hwaiting hscope
        · cases hstep
  | expire joiner =>
      simp only [machine, State.step, Option.ite_none_right_eq_some,
        Option.map_eq_some_iff] at hstep
      obtain ⟨hwaiting, scope, hscope, rfl⟩ := hstep
      exact .expire joiner scope hwaiting hscope

/-- Giving up releases a mutex and takes the call out of the scope. -/
theorem giveUp_eq (state : State) (joiner : JoinId) (action : Fibers.Action) :
    ∃ mutex stdMutex, state.giveUp joiner action = state.setTimed joiner (.answered .gaveUp)
      ({ state.scope with mutex := mutex, stdMutex := stdMutex }.setJoiner joiner .idle) := by
  unfold State.giveUp
  split
  · exact ⟨none, state.scope.stdMutex, rfl⟩
  · exact ⟨state.scope.mutex, none, rfl⟩

theorem recording_leave {scope : Fibers.State} (hrecording : Recording scope)
    (mutex : Option Holder) (stdMutex : Option JoinId) (joiner : JoinId) :
    Recording ({ scope with mutex := mutex, stdMutex := stdMutex }.setJoiner joiner .idle) := by
  refine ⟨hrecording.first, hrecording.pending, hrecording.thrown, hrecording.cancelled, ?_⟩
  intro other exn hother
  by_cases heq : other = joiner
  · subst heq
    simp [Fibers.State.setJoiner] at hother
  · refine hrecording.agreed other exn ?_
    simpa [Fibers.State.setJoiner, heq] using hother

/-- What the scope keeps, whoever waits for it. -/
structure Sound (state : State) : Prop where
  balanced : Balanced state.scope
  recording : Recording state.scope

theorem Sound.scopeStep (hsound : Sound state) {action : Fibers.Action} {scope : Fibers.State}
    (hstep : Fibers.machine.step state.scope action = some scope) :
    Balanced scope ∧ Recording scope :=
  ⟨step_balanced hsound.balanced hstep, move_recording hsound.recording (step_move hstep)⟩

theorem step_sound (hsound : Sound state) (hstep : machine.step state action = some next) :
    Sound next := by
  cases step_moves hstep with
  | scope _ _ hscope => exact ⟨(hsound.scopeStep hscope).1, (hsound.scopeStep hscope).2⟩
  | enter _ _ _ _ hscope => exact ⟨(hsound.scopeStep hscope).1, (hsound.scopeStep hscope).2⟩
  | wait _ _ _ _ _ _ hscope => exact ⟨(hsound.scopeStep hscope).1, (hsound.scopeStep hscope).2⟩
  | giveUp action joiner =>
      obtain ⟨mutex, stdMutex, hgiveUp⟩ := giveUp_eq state joiner action
      rw [hgiveUp]
      exact ⟨⟨hsound.balanced.active, hsound.balanced.activeFibers⟩,
        recording_leave hsound.recording mutex stdMutex joiner⟩
  | expire _ _ _ hscope => exact ⟨(hsound.scopeStep hscope).1, (hsound.scopeStep hscope).2⟩

theorem initial_sound : Sound initial :=
  ⟨initial_balanced, initial_recording⟩

theorem step_alive (hstep : machine.step state action = some next)
    (halive : next.scope.alive = true) : state.scope.alive = true := by
  cases step_moves hstep with
  | scope _ _ hscope => exact move_alive (step_move hscope) halive
  | enter _ _ _ _ hscope => exact move_alive (step_move hscope) halive
  | wait _ _ _ _ _ _ hscope => exact move_alive (step_move hscope) halive
  | giveUp action joiner =>
      obtain ⟨mutex, stdMutex, hgiveUp⟩ := giveUp_eq state joiner action
      rw [hgiveUp] at halive
      exact halive
  | expire _ _ _ hscope => exact move_alive (step_move hscope) halive

/-- A call of `join_for` that was made after the owner had stopped spawning. -/
structure Follows (joiner : JoinId) (state : State) : Prop where
  joined : Joined joiner state.scope
  answer : state.scope.alive = true → ∀ thrown, state.timed joiner = .answered (.reported thrown) →
    Quiet state.scope ∧ thrown = state.scope.firstException
  /-- It is not a call of `join`. -/
  present : state.timed joiner ≠ .absent

/-- A step of the scope keeps the answer. -/
theorem Follows.scopeStep (hfollows : Follows joiner state) {action : Fibers.Action}
    {scope : Fibers.State} (hstep : Fibers.machine.step state.scope action = some scope)
    (hinside : action.fromOutside = false) :
    Follows joiner { state with scope := scope } := by
  refine ⟨step_joined hfollows.joined hinside hstep, fun halive thrown hold => ?_,
    hfollows.present⟩
  have hmove := step_move hstep
  obtain ⟨hquiet, hthrown⟩ := hfollows.answer (move_alive hmove halive) thrown hold
  obtain ⟨hstill, hsame⟩ := hquiet.move hmove hinside
  exact ⟨hstill, hthrown.trans hsame.symm⟩

/-- A new answer is what `join` would have returned. -/
theorem Follows.setTimed (hfollows : Follows joiner state) {target : JoinId} {timed : Timed}
    (hpresent : timed ≠ .absent) (htimed : joiner = target → ∀ thrown,
      timed = .answered (.reported thrown) → state.scope.joiners joiner = .returned thrown) :
    Follows joiner (state.setTimed target timed state.scope) := by
  by_cases heq : joiner = target
  · have hnew : (state.setTimed target timed state.scope).timed joiner = timed := by
      simp [State.setTimed, heq]
    refine ⟨hfollows.joined, fun halive thrown hanswer => ?_, by rwa [hnew]⟩
    have hreturned := htimed heq thrown (hnew.symm.trans hanswer)
    have hpassed : (state.scope.joiners joiner).hasPassed = true := by rw [hreturned]; rfl
    exact ⟨hfollows.joined.quiet halive hpassed,
      hfollows.joined.result halive thrown hreturned⟩
  · have hold : (state.setTimed target timed state.scope).timed joiner = state.timed joiner := by
      simp [State.setTimed, heq]
    exact ⟨hfollows.joined, fun halive thrown hanswer =>
      hfollows.answer halive thrown (hold.symm.trans hanswer), by rw [hold]; exact hfollows.present⟩

theorem waiter_inside {action : Fibers.Action} (hwaiter : waiter action = some joiner) :
    action.fromOutside = false := by
  cases action <;> first | rfl | cases hwaiter

theorem after_ne_absent (expired : Bool) (action : Fibers.Action) (position : Joiner) :
    State.after expired action position ≠ .absent := by
  unfold State.after
  split <;> exact nofun

theorem after_reported {expired : Bool} {action : Fibers.Action} {position : Joiner}
    {thrown : Option Exn}
    (hafter : State.after expired action position = .answered (.reported thrown)) :
    position = .returned thrown := by
  unfold State.after at hafter
  split at hafter
  · cases hafter
  · simpa using hafter
  · cases hafter

/-- A call that gives up releases its mutex and nothing else. -/
theorem Follows.leave (hfollows : Follows joiner state) (target : JoinId)
    (mutex : Option Holder) (stdMutex : Option JoinId) :
    Follows joiner { state with
      scope := { state.scope with
        mutex := mutex
        stdMutex := stdMutex }.setJoiner target .idle } := by
  obtain ⟨⟨hbalanced, hquiet, hresult⟩, hanswer, hpresent⟩ := hfollows
  refine ⟨⟨⟨hbalanced.active, hbalanced.activeFibers⟩, fun halive hpassed => ?_,
    fun halive result hreturned => ?_⟩, hanswer, hpresent⟩
  all_goals by_cases heq : joiner = target
  · simp [Fibers.State.setJoiner, heq, Joiner.hasPassed] at hpassed
  · exact hquiet halive (by simpa [Fibers.State.setJoiner, heq] using hpassed)
  · simp [Fibers.State.setJoiner, heq] at hreturned
  · exact hresult halive result (by simpa [Fibers.State.setJoiner, heq] using hreturned)

theorem step_follows (hfollows : Follows joiner state) (hinside : action.fromOutside = false)
    (hstep : machine.step state action = some next) : Follows joiner next := by
  cases step_moves hstep with
  | scope action scope hscope => exact hfollows.scopeStep hscope hinside
  | enter other onLoop scope habsent hscope =>
      refine (hfollows.scopeStep hscope rfl).setTimed ?_ fun heq => ?_
      · unfold State.entered
        split_ifs <;> exact nofun
      · exact absurd (heq ▸ habsent) hfollows.present
  | wait action other expired scope hwaiter hwaiting hscope =>
      refine (hfollows.scopeStep hscope (waiter_inside hwaiter)).setTimed
        (after_ne_absent _ _ _) fun heq thrown hanswer => ?_
      rw [heq]
      exact after_reported hanswer
  | giveUp action other hwaiter hwaiting hfails =>
      obtain ⟨mutex, stdMutex, hgiveUp⟩ := giveUp_eq state other action
      rw [hgiveUp]
      exact (hfollows.leave other mutex stdMutex).setTimed nofun fun _ _ => nofun
  | expire other scope hwaiting hscope =>
      exact (hfollows.scopeStep hscope rfl).setTimed nofun fun _ _ => nofun

/-- A call on a live loop begins with its wait. -/
theorem enter_follows (hsound : Sound state) {onLoop : Bool}
    (hstep : machine.step state (.joinFor joiner onLoop) = some next) :
    next.scope.alive = true → Follows joiner next := by
  intro halive
  have hbefore := step_alive hstep halive
  cases step_moves hstep with
  | enter _ _ scope habsent hscope =>
      refine ⟨join_joined hsound.balanced hscope, fun _ thrown hanswer => ?_, ?_⟩
      · simp [State.setTimed, State.entered, hbefore] at hanswer
      · simp [State.setTimed, State.entered, hbefore]

theorem not_quiet_of_active {scope : Fibers.State} (hbalanced : Balanced scope)
    (hactive : scope.active ≠ 0) : ¬ Quiet scope := by
  intro hquiet
  refine hactive (hbalanced.active.eq.trans (census_of_nobody fun id => ?_))
  simp [hquiet id]

theorem active_of_testFails {action : Fibers.Action} (hfails : state.testFails action = true) :
    state.scope.active ≠ 0 := by
  unfold State.testFails at hfails
  split at hfails
  · simpa using (Bool.and_eq_true_iff.mp hfails).2
  · have hwait := (Bool.and_eq_true_iff.mp hfails).2
    simp only [Fibers.State.waitOver, Bool.not_eq_true', Bool.or_eq_false_iff, beq_eq_false_iff_ne]
      at hwait
    exact hwait.1
  · cases hfails

/-- While the loop is alive, a step of the wait does not end in `false`. -/
theorem after_ne_gaveUp {expired : Bool} {action : Fibers.Action} {scope : Fibers.State}
    (hwaiter : waiter action = some joiner) (halive : state.scope.alive = true)
    (hscope : Fibers.machine.step state.scope action = some scope) :
    State.after expired action (scope.joiners joiner) ≠ .answered .gaveUp := by
  intro hafter
  unfold State.after at hafter
  split at hafter
  next other result hreturned =>
    obtain rfl : other = joiner := by simpa [waiter] using hwaiter
    simp only [Fibers.machine, Fibers.State.step, Fibers.State.stepJoin,
      Option.ite_none_right_eq_some, Option.some.injEq] at hscope
    obtain ⟨-, rfl⟩ := hscope
    simp [Fibers.State.setJoiner, halive] at hreturned
  · cases hafter
  · cases hafter

/-- A call gives up only after its time is over, with a task of the scope unfinished or lost. -/
theorem gaveUp_of_step (hsound : Sound state) (hstep : machine.step state action = some next)
    (halive : state.scope.alive = true) (hbefore : state.timed joiner ≠ .answered .gaveUp)
    (hafter : next.timed joiner = .answered .gaveUp) :
    state.timed joiner = .waiting true ∧ ¬ Quiet state.scope := by
  have hself : ∀ {target timed scope}, (state.setTimed target timed scope).timed joiner =
      .answered .gaveUp → joiner = target ∧ timed = .answered .gaveUp := by
    intro target timed scope hset
    by_cases heq : joiner = target
    · exact ⟨heq, by simpa [State.setTimed, heq] using hset⟩
    · exact absurd (by simpa [State.setTimed, heq] using hset) hbefore
  cases step_moves hstep with
  | scope => exact absurd hafter hbefore
  | enter =>
      obtain ⟨-, hentered⟩ := hself hafter
      simp [State.entered, halive] at hentered
  | wait _ _ _ _ hwaiter _ hscope =>
      obtain ⟨rfl, hgaveUp⟩ := hself hafter
      exact absurd hgaveUp (after_ne_gaveUp hwaiter halive hscope)
  | giveUp action other hwaiter hwaiting hfails =>
      obtain ⟨mutex, stdMutex, hgiveUp⟩ := giveUp_eq state other action
      rw [hgiveUp] at hafter
      obtain ⟨rfl, -⟩ := hself hafter
      exact ⟨hwaiting, not_quiet_of_active hsound.balanced (active_of_testFails hfails)⟩
  | expire =>
      obtain ⟨-, hwaiting⟩ := hself hafter
      cases hwaiting

/-- A loop that is alive at the end of a run was alive all along. -/
theorem run_alive {actions : List Action} (hrun : machine.run actions state = some next)
    (halive : next.scope.alive = true) : state.scope.alive = true := by
  by_contra hdead
  have hstays : ∀ state action next, ¬ state.scope.alive = true → True →
      machine.step state action = some next → ¬ next.scope.alive = true :=
    fun _ _ _ hdead _ hstep hnext => hdead (step_alive hstep hnext)
  exact Machine.run_invariant hstays actions state next hdead (Machine.meets_true _ _) hrun halive

theorem reachable_sound (hreach : machine.Reachable initial state) : Sound state :=
  Machine.reachable_invariant (fun _ _ _ => step_sound) initial_sound hreach

/-- A `join_for` that was made after the owner had stopped spawning, on a loop that is still
alive: when it reported, the scope is finished and the report is its outcome; when it gave
up, its time was over and at that moment a task of the scope was unfinished, or a spawn had
thrown after it had counted its task. -/
theorem join_for_reports_outcome (actions : List Action) (state : State)
    (hrun : machine.run actions initial = some state) (halive : state.scope.alive = true)
    (before after : List Action) (joiner : JoinId) (onLoop : Bool)
    (hsplit : actions = before ++ .joinFor joiner onLoop :: after)
    (hinside : ∀ action ∈ after, action.fromOutside = false) :
    (∀ thrown, state.timed joiner = .answered (.reported thrown) →
      Reports state.scope thrown) ∧
      (state.timed joiner = .answered .gaveUp → ∃ first rest middle, after = first ++ rest ∧
        machine.run (before ++ .joinFor joiner onLoop :: first) initial = some middle ∧
        middle.timed joiner = .waiting true ∧ ¬ Quiet middle.scope) := by
  have hrecording := (reachable_sound ⟨actions, hrun⟩).recording
  rw [hsplit, Machine.run_append, Option.bind_eq_some_iff] at hrun
  obtain ⟨called, hcalled, hrun⟩ := hrun
  rw [Machine.run_cons, Option.bind_eq_some_iff] at hrun
  obtain ⟨entered, henter, hafter⟩ := hrun
  have hstart := enter_follows (reachable_sound ⟨before, hcalled⟩) henter
    (run_alive hafter halive)
  have hmeets : machine.Meets (fun _ action => action.fromOutside = false) after entered := by
    rw [Machine.meets_iff_forall]
    intro first action rest _ hafter _
    exact hinside action (by simp [hafter])
  have hfollows : Follows joiner state :=
    Machine.run_invariant (fun _ _ _ => step_follows) after entered state hstart hmeets hafter
  constructor
  · intro thrown hanswer
    obtain ⟨hquiet, hthrown⟩ := hfollows.answer halive thrown hanswer
    rw [hthrown]
    exact hrecording.reports hquiet
  · intro hgaveUp
    have hwaiting : ¬ entered.timed joiner = .answered .gaveUp := by
      cases step_moves henter with
      | enter _ _ scope habsent hscope =>
          simp [State.setTimed, State.entered, step_alive henter (run_alive hafter halive)]
    obtain ⟨first, action, rest, middle, later, rfl, hfirst, hcross, hnot, hyes⟩ :=
      Machine.run_crossing (fun state => state.timed joiner = .answered .gaveUp) after entered
        state hwaiting hgaveUp hafter
    have hmiddle : machine.run (before ++ .joinFor joiner onLoop :: first) initial =
        some middle := by
      rw [Machine.run_append, hcalled, Option.bind_some, Machine.run_cons, henter,
        Option.bind_some, hfirst]
    have hrest : machine.run (action :: rest) middle = some state := by
      rwa [Machine.run_append, hfirst, Option.bind_some] at hafter
    exact ⟨first, action :: rest, middle, rfl, hmiddle,
      gaveUp_of_step (reachable_sound ⟨_, hmiddle⟩) hcross (run_alive hrest halive) hnot hyes⟩

/-- One task throws. The first call gives up before that, the second one reports it. -/
def impatient : List Action :=
  [.scope (.accept .outside 0), .scope (.count 0), .scope (.create 0),
    .joinFor 1 false, .wait (.joinLock 1), .wait (.joinTest 1), .wait (.joinPark 1), .expire 1,
    .joinFor 2 true, .wait (.joinFiberLock 2), .wait (.joinFiberTest 2), .wait (.joinLock 1),
    .wait (.joinTest 1), .scope (.taskThrow 0 8), .scope (.lockMutex 0), .scope (.record 0),
    .scope (.mark 0), .scope (.unlockMutex 0), .scope (.fetchSub 0), .scope (.notifyCv 0),
    .wait (.joinFiberLock 2), .wait (.joinFiberTest 2), .wait (.joinFiberUnlock 2),
    .wait (.joinReport 2)]

theorem join_for_reports_impatient :
    ∃ state, machine.run impatient initial = some state ∧
      state.timed 1 = .answered .gaveUp ∧ state.timed 2 = .answered (.reported (some 8)) ∧
      Reports state.scope (some 8) := by
  refine ⟨_, rfl, rfl, rfl, (join_for_reports_outcome impatient _ rfl rfl (impatient.take 8)
    (impatient.drop 9) 2 true rfl (by decide)).1 (some 8) rfl⟩

end Fiberuv.TaskScope.Fibers.TimedJoin
