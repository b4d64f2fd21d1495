import Fiberuv.TaskScope.TimedJoin

/-! # Stop tokens

A token refers to the shared state of its scope weakly. `stop_requested` locks the weak
pointer; without a state it answers `true`, and otherwise it reads the cancellation. The
state is owned by the scope object, by the closure of every task from the spawn to the end
of its fiber, by every `join` and `join_for` in progress, and by tokens that have locked
it.
-/

namespace Fiberuv.TaskScope.Fibers.Tokens

open Foundation
open TimedJoin (caller waiter)

abbrev AskId := Nat

/-- Where one call of `stop_requested` stands. -/
inductive Ask where
  | idle
  /-- Owns the state and is about to read `cancel_requested`. -/
  | locked
  /-- Is about to let go of the state. -/
  | leaving
  | answered
  deriving DecidableEq

structure State where
  scope : TimedJoin.State := {}
  /-- The `TaskScope` object refers to the state. -/
  object : Bool := true
  /-- The closure of this spawn owns the state. -/
  closures : FiberId → Bool := fun _ => false
  asks : AskId → Ask := fun _ => .idle
  closureRefs : Nat := 0
  joinRefs : Nat := 0
  askRefs : Nat := 0
  /-- What the calls of `stop_requested` answered, in the order in which they read it. -/
  answers : List Bool := []

inductive Action where
  | scope (action : TimedJoin.Action)
  /-- The last part of `~TaskScope`, or another scope is moved over the object. -/
  | release
  /-- A call of `stop_requested` locks the weak pointer; the label names the task that makes
  the call, if one does. -/
  | lock (ask : AskId) (asker : Option FiberId)
  | load (ask : AskId)
  | unlock (ask : AskId)

/-- A spawn owns the state from its admission until it throws or its fiber ends. -/
def closure : TimedJoin.Action → Option (FiberId × Bool)
  | .scope (.accept _ id) => some (id, true)
  | .scope (.closureThrow id) | .scope (.fiberThrow id) | .scope (.fiberDone id) =>
      some (id, false)
  | _ => none

/-- The call of `join` or `join_for` that makes the step. -/
def joining : TimedJoin.Action → Option JoinId
  | .scope action => caller action
  | .joinFor joiner _ | .expire joiner => some joiner
  | .wait action => waiter action

/-- The step uses the `TaskScope` object. -/
def usesObject : TimedJoin.Action → Bool
  | .scope (.accept _ _) | .scope .requestCancel => true
  | .scope (.join _ _) | .joinFor _ _ => true
  | _ => false

/-- A call of `join` in progress owns the state. -/
def holds : Joiner → Bool
  | .idle | .returned _ => false
  | _ => true

def Ask.holds : Ask → Bool
  | .locked | .leaving => true
  | _ => false

namespace State

/-- `use_count` of the shared state. -/
def useCount (state : State) : Nat :=
  state.object.toNat + state.closureRefs + state.joinRefs + state.askRefs

def cancelRequested (state : State) : Bool := state.scope.scope.cancelRequested

def setAsk (state : State) (ask : AskId) (position : Ask) : State :=
  { state with
    asks := Function.update state.asks ask position
    askRefs := state.askRefs + position.holds.toNat - (state.asks ask).holds.toNat }

/-- The closures that own the state after a step. -/
def trackClosure (state : State) : Option (FiberId × Bool) → State
  | none => state
  | some (id, owns) =>
      { state with
        closures := Function.update state.closures id owns
        closureRefs := state.closureRefs + owns.toNat - (state.closures id).toNat }

/-- The calls of `join` that own the state after a step. -/
def trackJoin (state : State) (joiner : Option JoinId) (scope : TimedJoin.State) : State :=
  { state with
    scope := scope
    joinRefs := match joiner with
      | none => state.joinRefs
      | some joiner => state.joinRefs + (holds (scope.scope.joiners joiner)).toNat -
          (holds (state.scope.scope.joiners joiner)).toNat }

/-- A call made by a task needs a running task. -/
def canAsk (state : State) : Option FiberId → Bool
  | none => true
  | some id => decide (state.scope.scope.fibers id = .running .task)

/-- `weak_ptr::lock`. -/
def lock (state : State) (ask : AskId) : State :=
  if state.useCount = 0 then
    { state with answers := state.answers ++ [true] }.setAsk ask .answered
  else state.setAsk ask .locked

def step (state : State) : Action → Option State
  | .scope action =>
      if usesObject action && !state.object then none
      else
        (TimedJoin.machine.step state.scope action).map fun scope =>
          (state.trackClosure (closure action)).trackJoin (joining action) scope
  | .release => if state.object then some { state with object := false } else none
  | .lock ask asker =>
      if state.asks ask = .idle ∧ state.canAsk asker then some (state.lock ask) else none
  | .load ask =>
      if state.asks ask = .locked then
        some ({ state with answers := state.answers ++ [state.cancelRequested] }.setAsk ask
          .leaving)
      else none
  | .unlock ask =>
      if state.asks ask = .leaving then some (state.setAsk ask .answered) else none

end State

/-- One scope with any number of tokens and of calls of `stop_requested`. -/
def machine : Machine State Action where
  step := State.step

def initial : State := {}

/-- A step of a `join` moves the call that makes it, and one that does not begin a call moves
a call in progress. -/
theorem stepJoin_who {state next : Fibers.State} {action : Fibers.Action}
    (hstep : state.stepJoin action = some next) :
    ∃ who position, caller action = some who ∧
      next.joiners = Function.update state.joiners who position ∧
      ((∃ onLoop, action = .join who onLoop) ∨ holds (state.joiners who) = true) := by
  cases action <;> simp only [Fibers.State.stepJoin] at hstep
  case join who onLoop =>
    simp only [Option.ite_none_right_eq_some, Option.some.injEq] at hstep
    obtain ⟨_, rfl⟩ := hstep
    exact ⟨who, _, rfl, rfl, .inl ⟨onLoop, rfl⟩⟩
  case joinWake who =>
    split at hstep
    next hparked =>
      cases hstep
      exact ⟨who, _, rfl, rfl, .inr (by rw [hparked]; rfl)⟩
    next hparked =>
      cases hstep
      exact ⟨who, _, rfl, rfl, .inr (by rw [hparked]; rfl)⟩
    · cases hstep
  case joinFiberTest who =>
    split at hstep
    next htesting =>
      split at hstep <;> cases hstep <;>
        exact ⟨who, _, rfl, rfl, .inr (by rw [htesting]; rfl)⟩
    · cases hstep
  case joinFiberLock who | joinLock who | joinReport who =>
    simp only [Option.ite_none_right_eq_some, Option.some.injEq] at hstep
    obtain ⟨⟨hposition, _⟩, rfl⟩ := hstep
    exact ⟨who, _, rfl, rfl, .inr (by rw [hposition]; rfl)⟩
  case joinFiberUnlock who | joinTest who | joinPark who | joinUnlock who =>
    simp only [Option.ite_none_right_eq_some, Option.some.injEq] at hstep
    obtain ⟨hposition, rfl⟩ := hstep
    exact ⟨who, _, rfl, rfl, .inr (by rw [hposition]; rfl)⟩
  all_goals cases hstep

/-- Steps of others leave a call in progress in progress. -/
theorem move_holds {state next : Fibers.State} {action : Fibers.Action}
    (hmove : Move state action next) :
    state.stepJoin action = some next ∨ caller action = none ∧
      ∀ joiner, holds (next.joiners joiner) = holds (state.joiners joiner) := by
  cases hmove with
  | joins _ hstep _ => exact .inl hstep
  | notifyCv id hfiber =>
      refine .inr ⟨rfl, fun joiner => ?_⟩
      simp only [Fibers.State.setFiber, Fibers.State.notifyCv]
      split_ifs with hparked
      · rw [hparked]
        rfl
      · rfl
  | notifyStdCv id hfiber =>
      refine .inr ⟨rfl, fun joiner => ?_⟩
      simp only [Fibers.State.setFiber, Fibers.State.notifyStdCv]
      split_ifs with hparked
      · rw [hparked]
        rfl
      · rfl
  | _ => exact .inr ⟨rfl, fun _ => rfl⟩

/-- What a step does to the calls in progress. -/
inductive JoinStep (scope next : TimedJoin.State) (action : TimedJoin.Action) : Prop where
  | moves (who : JoinId) (position : Joiner) (hjoining : joining action = some who)
      (hjoiners : next.scope.joiners = Function.update scope.scope.joiners who position)
      (hbegun : usesObject action = true ∨ holds (scope.scope.joiners who) = true)
  | stays (hjoining : joining action = none)
      (hsame : ∀ joiner, holds (next.scope.joiners joiner) = holds (scope.scope.joiners joiner))

theorem joinStep {scope next : TimedJoin.State} {action : TimedJoin.Action}
    (hstep : TimedJoin.machine.step scope action = some next) : JoinStep scope next action := by
  have hshared : ∀ {inner joiner after}, waiter inner = some joiner →
      Fibers.machine.step scope.scope inner = some after →
      ∃ position, after.joiners = Function.update scope.scope.joiners joiner position ∧
        holds (scope.scope.joiners joiner) = true := by
    intro inner joiner after hwaiter hinner
    have hcaller : caller inner = some joiner := by
      cases inner <;> first | exact hwaiter | cases hwaiter
    rcases move_holds (step_move hinner) with hjoin | ⟨hnone, _⟩
    · obtain ⟨who, position, hwho, hjoiners, hbegun⟩ := stepJoin_who hjoin
      obtain rfl : who = joiner := by simpa [hwho] using hcaller
      refine ⟨position, hjoiners, hbegun.resolve_left ?_⟩
      rintro ⟨onLoop, rfl⟩
      cases hwaiter
    · simp [hnone] at hcaller
  cases TimedJoin.step_moves hstep with
  | scope inner after hinner =>
      rcases move_holds (step_move hinner) with hjoin | ⟨hnone, hsame⟩
      · obtain ⟨who, position, hwho, hjoiners, hbegun⟩ := stepJoin_who hjoin
        refine .moves who position hwho hjoiners (hbegun.imp_left ?_)
        rintro ⟨onLoop, rfl⟩
        rfl
      · exact .stays hnone hsame
  | enter joiner onLoop after _ hinner =>
      rcases move_holds (step_move hinner) with hjoin | ⟨hnone, _⟩
      · obtain ⟨who, position, hwho, hjoiners, -⟩ := stepJoin_who hjoin
        exact .moves who position hwho hjoiners (.inl rfl)
      · cases hnone
  | wait inner joiner expired after hwaiter _ hinner =>
      obtain ⟨position, hjoiners, hholds⟩ := hshared hwaiter hinner
      exact .moves joiner position hwaiter hjoiners (.inr hholds)
  | giveUp inner joiner hwaiter _ hfails =>
      obtain ⟨mutex, stdMutex, hgiveUp⟩ := TimedJoin.giveUp_eq scope joiner inner
      refine .moves joiner .idle hwaiter (by rw [hgiveUp]; rfl) (.inr ?_)
      unfold TimedJoin.State.testFails at hfails
      split at hfails
      · obtain rfl : _ = joiner := by simpa [waiter] using hwaiter
        rw [of_decide_eq_true (Bool.and_eq_true_iff.mp hfails).1]
        rfl
      · obtain rfl : _ = joiner := by simpa [waiter] using hwaiter
        rw [of_decide_eq_true (Bool.and_eq_true_iff.mp hfails).1]
        rfl
      · cases hfails
  | expire joiner after _ hinner =>
      have hwaiter : waiter (.joinWake joiner) = some joiner := rfl
      obtain ⟨position, hjoiners, hholds⟩ := hshared hwaiter hinner
      exact .moves joiner position rfl hjoiners (.inr hholds)

/-- The closure of a spawn at this position owns the state. -/
def ofTask : Fiber → Bool
  | .admitted | .counted .task | .running .task => true
  | .caught _ | .recording _ | .marking | .unlocking | .finishing | .last | .cvNotified => true
  | _ => false

/-- A spawn whose closure owns the state has just been admitted, or owned it before. -/
theorem move_ofTask {state next : Fibers.State} {action : Fibers.Action}
    (hmove : Move state action next) (id : FiberId) (hafter : ofTask (next.fibers id) = true) :
    closure (.scope action) = some (id, true) ∨
      ofTask (state.fibers id) = true ∧ closure (.scope action) ≠ some (id, false) := by
  -- A fiber whose new position owns the state owned it at the old one, the target included.
  have hset : ∀ {base : Fibers.State} {target : FiberId} {before position : Fiber},
      base.fibers = state.fibers → state.fibers target = before →
      ofTask position = false ∨ ofTask before = true →
      ofTask ((base.setFiber target position).fibers id) = true →
      ofTask (state.fibers id) = true ∧ (id = target → ofTask position = true) := by
    intro base target before position hfibers hbefore hposition hof
    by_cases heq : id = target
    · have hnow : ofTask position = true := by simpa [Fibers.State.setFiber, heq] using hof
      exact ⟨by rw [heq, hbefore]; exact hposition.resolve_left (by simp [hnow]), fun _ => hnow⟩
    · exact ⟨by simpa [Fibers.State.setFiber, heq, hfibers] using hof, fun heq' => absurd heq' heq⟩
  cases hmove with
  | accept spawner target hfiber =>
      by_cases heq : id = target
      · exact .inl (by rw [heq]; rfl)
      · refine .inr ⟨?_, fun hclosure => heq ?_⟩
        · simpa [Fibers.State.setFiber, heq] using hafter
        · simp [closure] at hclosure
  | closureThrow target hfiber =>
      obtain ⟨hof, htarget⟩ := hset rfl hfiber (.inl rfl) hafter
      exact .inr ⟨hof, fun hclosure => by
        have heq : target = id := by simpa [closure] using hclosure
        cases htarget heq.symm⟩
  | fiberThrow target kind hfiber =>
      obtain ⟨hof, htarget⟩ := hset rfl hfiber (.inl rfl) hafter
      exact .inr ⟨hof, fun hclosure => by
        have heq : target = id := by simpa [closure] using hclosure
        cases htarget heq.symm⟩
  | fiberDone target hfiber =>
      obtain ⟨hof, htarget⟩ := hset rfl hfiber (.inl rfl) hafter
      exact .inr ⟨hof, fun hclosure => by
        have heq : target = id := by simpa [closure] using hclosure
        cases htarget heq.symm⟩
  | fetchSub target hfiber =>
      exact .inr ⟨(hset rfl hfiber (.inr rfl) hafter).1, by simp [closure]⟩
  | create target kind hfiber =>
      cases kind with
      | task => exact .inr ⟨(hset rfl hfiber (.inr rfl) hafter).1, by simp [closure]⟩
      | plain => exact .inr ⟨(hset rfl hfiber (.inl rfl) hafter).1, by simp [closure]⟩
  | refuse target hfiber | countPlain target hfiber =>
      exact .inr ⟨(hset rfl hfiber (.inl rfl) hafter).1, by simp [closure]⟩
  | notifyStdCv target hfiber =>
      exact .inr ⟨(hset rfl hfiber (.inl rfl) hafter).1, by simp [closure]⟩
  | plainEnd target threw hfiber =>
      exact .inr ⟨(hset rfl hfiber (.inl rfl) hafter).1, by simp [closure]⟩
  | count target hfiber | taskReturn target hfiber | mark target hfiber
  | unlockMutex target hfiber | notifyCv target hfiber =>
      exact .inr ⟨(hset rfl hfiber (.inr rfl) hafter).1, by simp [closure]⟩
  | taskThrow target exn hfiber | record target exn hfiber =>
      exact .inr ⟨(hset rfl hfiber (.inr rfl) hafter).1, by simp [closure]⟩
  | lockMutex target exn hfiber _ =>
      exact .inr ⟨(hset rfl hfiber (.inr rfl) hafter).1, by simp [closure]⟩
  | requestCancel => exact .inr ⟨hafter, by simp [closure]⟩
  | destroyLoop => exact .inr ⟨hafter, by simp [closure]⟩
  | joins _ hstep hnext =>
      refine .inr ⟨by rw [hnext] at hafter; exact hafter, ?_⟩
      cases action <;> first | cases hstep | simp [closure]

theorem step_ofTask {scope next : TimedJoin.State} {action : TimedJoin.Action}
    (hstep : TimedJoin.machine.step scope action = some next) (id : FiberId)
    (hafter : ofTask (next.scope.fibers id) = true) :
    closure action = some (id, true) ∨
      ofTask (scope.scope.fibers id) = true ∧ closure action ≠ some (id, false) := by
  have hquiet : ∀ {inner after}, Fibers.machine.step scope.scope inner = some after →
      closure (.scope inner) = none → ofTask (after.fibers id) = true →
      ofTask (scope.scope.fibers id) = true := by
    intro inner after hinner hnone hof
    rcases move_ofTask (step_move hinner) id hof with hnew | hold
    · cases hnone.symm.trans hnew
    · exact hold.1
  cases TimedJoin.step_moves hstep with
  | scope inner after hinner => exact move_ofTask (step_move hinner) id hafter
  | enter _ _ after _ hinner => exact .inr ⟨hquiet hinner rfl hafter, by simp [closure]⟩
  | wait inner _ _ after hwaiter _ hinner =>
      refine .inr ⟨hquiet hinner ?_ hafter, by simp [closure]⟩
      cases inner <;> first | rfl | cases hwaiter
  | giveUp inner joiner _ _ _ =>
      obtain ⟨mutex, stdMutex, hgiveUp⟩ := TimedJoin.giveUp_eq scope joiner inner
      rw [hgiveUp] at hafter
      exact .inr ⟨hafter, by simp [closure]⟩
  | expire _ after _ hinner => exact .inr ⟨hquiet hinner rfl hafter, by simp [closure]⟩

end Fiberuv.TaskScope.Fibers.Tokens
