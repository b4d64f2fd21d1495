import Fiberuv.EventLoop.Calls

/-! # Calls on a loop that has left `run`

Between the return of `EventLoop::run` and the start of `~EventLoop` nobody drains
`loop_tasks_`, but the lifetime flag that calls test is cleared only by the destructor. A
call that is posted in that period waits for a task nobody runs, and so does a call that
was posted between the last drain of `run` and its test of `stopping_`.
-/

namespace Fiberuv.EventLoop.LateCalls

open Foundation

/-- The history field `undrained` is read by no operation. -/
structure State where
  loop : EventLoop.State := {}
  /-- The lifetime flag, which `~EventLoop` clears first. -/
  alive : Bool := true
  /-- The callers of the calls made after `run` and before `~EventLoop`. -/
  late : List ThreadId := []
  /-- The calls posted since a drain last came to its end. -/
  undrained : List Posted := []

inductive Action where
  /-- A thread that does not run the loop makes a call. -/
  | call (caller : ThreadId) (call : Call)
  /-- A step of the loop, its fibers, its callbacks or `stop`. -/
  | loop (action : EventLoop.Action)
  /-- `~EventLoop` starts. -/
  | destroy

/-- `run` has returned. -/
def hasReturned : Driver → Bool
  | .exited => true
  | _ => false

/-- What a step of the loop leaves of the calls posted since a drain. -/
def leftBy (action : EventLoop.Action) (undrained : List Posted) : List Posted :=
  match action with
  | .drained => []
  | _ => undrained

/-- Only the part of a life before `~EventLoop` is modelled: there is no step after it. -/
def step (state : State) (action : Action) : Option State :=
  if state.alive then
    match action with
    | .call caller call =>
        -- The test of the lifetime flag passes and the call is posted.
        (EventLoop.step state.loop (.post caller call)).map fun loop =>
          { state with
            loop
            late := if hasReturned state.loop.driver && !call.detached then caller :: state.late
              else state.late
            undrained := state.undrained ++ [{ caller, call }] }
    | .loop (.post _ _) => none
    | .loop action =>
        (EventLoop.step state.loop action).map fun loop =>
          { state with loop, undrained := leftBy action state.undrained }
    | .destroy =>
        if hasReturned state.loop.driver then some { state with alive := false } else none
  else none

def machine : Machine State Action := ⟨step⟩

def initial : State := {}

/-- The caller waits for a posted task that has not been executed. -/
def Waiting (state : State) (posted : Posted) : Prop :=
  posted ∈ state.loop.loopTasks ∧ posted.call.detached = false ∧
    state.loop.thread posted.caller = .blocked

/-- After `run` and before `~EventLoop` nobody waits for a task that was not executed, and
the calls made in that period have thrown. -/
structure NobodyLeft (state : State) : Prop where
  served : hasReturned state.loop.driver = true → state.alive = true →
    ∀ posted, ¬ Waiting state posted
  thrown : ∀ caller ∈ state.late, ∃ error, state.loop.thread caller = .threw error

/-- `run` notices the stop only when no call that waits was posted after its last drain, and
no such call is made after `run` has returned. -/
def Served (state : State) : Action → Prop
  | .call _ call => call.detached = true ∨ hasReturned state.loop.driver = false
  | .loop .turn =>
      state.loop.stopping = true → ∀ posted ∈ state.undrained, posted.call.detached = true
  | _ => True

/-- The driver is in `drain_loop_tasks`. -/
def drains : Driver → Bool
  | .draining _ => true
  | .suspended _ _ _ => true
  | .releasing _ _ => true
  | _ => false

/-- Inside a posted closure the driver has not left the drain. -/
theorem driverStops_drains (state : EventLoop.State) (site : Site) (work : Work)
    (segment : Segment) : drains (state.driverStops site work segment).driver = true := by
  cases hstop : segment.stop with
  | returned | threw error =>
      cases work <;>
        simp [EventLoop.State.driverStops, hstop, EventLoop.State.conclude, drains]
  | suspended wait => simp [EventLoop.State.driverStops, hstop, drains]

theorem driverStops_hasReturned (state : EventLoop.State) (site : Site) (work : Work)
    (segment : Segment) : hasReturned (state.driverStops site work segment).driver = false := by
  have hdrains := driverStops_drains state site work segment
  cases hdriver : (state.driverStops site work segment).driver <;>
    simp [hdriver, drains, hasReturned] at hdrains ⊢

/-- A fiber runs while the driver is suspended or has yielded. -/
theorem fiberStops_hasReturned {state : EventLoop.State} (id : FiberId) (segment : Segment)
    (hlets : state.driver.letsFibersRun = true) :
    hasReturned (state.fiberStops id segment).driver = false := by
  rw [EventLoop.State.fiberStops_driver]
  cases hdriver : state.driver <;> simp [hdriver, Driver.letsFibersRun, hasReturned] at hlets ⊢

/-- The driver leaves `run` on a stop or with an empty queue, and outside `run` only the
stop flag changes. -/
theorem step_hasReturned {state next : EventLoop.State} {action : EventLoop.Action}
    (hstep : EventLoop.step state action = some next) (hreturned : hasReturned next.driver = true)
    (haction : ∀ caller call, action ≠ .post caller call) :
    next.loopTasks = state.loopTasks ∧ next.thread = state.thread ∧
      (hasReturned state.driver = true ∨ action = .turn ∧ state.stopping = true ∨
        state.loopTasks = []) := by
  cases step_effect hstep with
  | posts hposts => exact absurd hposts (haction _ _)
  | stops _ hnext =>
      subst hnext
      exact ⟨rfl, rfl, .inl hreturned⟩
  | completes _ hdriver hnext =>
      subst hnext
      exact ⟨rfl, rfl, .inl hreturned⟩
  | advances hadvances hnext =>
      subst hnext
      refine ⟨rfl, rfl, .inr ?_⟩
      cases hadvances with
      | stops _ hstopping => exact .inl ⟨rfl, hstopping⟩
      | idles _ htasks => exact .inr htasks
      | _ => cases hreturned
  | takes _ _ _ hnext | destroys _ _ hnext | wakes _ _ _ hnext | expires _ _ _ hnext =>
      simp [hnext, driverStops_hasReturned] at hreturned
  | fiber _ hlets hnext => simp [hnext, fiberStops_hasReturned _ _ hlets] at hreturned

/-- The driver leaves a drain only when nothing is left in `loop_tasks_`. -/
theorem step_drains {state next : EventLoop.State} {action : EventLoop.Action}
    (hstep : EventLoop.step state action = some next) (hbefore : drains state.driver = true)
    (hafter : drains next.driver = false) : action = .drained ∧ state.loopTasks = [] := by
  cases step_effect hstep with
  | posts _ _ hnext | stops _ hnext | completes _ _ hnext =>
      subst hnext
      exact absurd (hbefore.symm.trans hafter) (by simp)
  | advances hadvances hnext =>
      subst hnext
      cases hadvances with
      | returns _ htasks | yields _ htasks => exact ⟨rfl, htasks⟩
      | releases => cases hafter
      | stops hdriver | polls hdriver | calledBack hdriver | polled hdriver | yielded hdriver
      | idles hdriver | busy hdriver =>
          rw [hdriver] at hbefore
          cases hbefore
  | takes _ _ _ hnext | destroys _ _ hnext | wakes _ _ _ hnext | expires _ _ _ hnext =>
      simp [hnext, driverStops_drains] at hafter
  | fiber _ _ hnext =>
      rw [hnext, EventLoop.State.fiberStops_driver, hbefore] at hafter
      cases hafter

theorem post_eq {state next : EventLoop.State} {caller : ThreadId} {call : Call}
    (hstep : EventLoop.step state (.post caller call) = some next) :
    next = state.post caller call := by
  cases step_effect hstep with
  | posts hposts _ hnext =>
      cases hposts
      exact hnext
  | advances hadvances => cases hadvances
  | fiber hfiber => cases hfiber
  | _ haction => cases haction

/-- A step of the loop that is not a post leaves the calls of the other threads alone. -/
theorem loop_step {state next : State} {action : EventLoop.Action}
    (hstep : machine.step state (.loop action) = some next) :
    state.alive = true ∧ EventLoop.step state.loop action = some next.loop ∧
      next.alive = state.alive ∧ next.late = state.late ∧
      next.undrained = leftBy action state.undrained ∧
      ∀ caller call, action ≠ .post caller call := by
  simp only [machine, step, Option.ite_none_right_eq_some] at hstep
  obtain ⟨halive, hstep⟩ := hstep
  split at hstep
  next heq => cases heq
  next => cases hstep
  next other hother heq =>
    cases heq
    simp only [Option.map_eq_some_iff] at hstep
    obtain ⟨loop, hloop, rfl⟩ := hstep
    exact ⟨halive, hloop, rfl, rfl, rfl, fun caller call heq => hother caller call (by rw [heq])⟩
  next heq => cases heq

theorem call_step {state next : State} {caller : ThreadId} {call : Call}
    (hstep : machine.step state (.call caller call) = some next) :
    EventLoop.step state.loop (.post caller call) = some (state.loop.post caller call) ∧
      next = { state with
        loop := state.loop.post caller call
        late := if hasReturned state.loop.driver && !call.detached then caller :: state.late
          else state.late
        undrained := state.undrained ++ [{ caller, call }] } := by
  simp only [machine, step, Option.ite_none_right_eq_some, Option.map_eq_some_iff] at hstep
  obtain ⟨_, loop, hpost, rfl⟩ := hstep
  obtain rfl := post_eq hpost
  exact ⟨hpost, rfl⟩

/-- What every step keeps: outside the drains `loop_tasks_` has what was posted since the last
one, and whoever posted a call of these that he waits for is blocked. -/
structure Facts (state : State) : Prop where
  undrained : drains state.loop.driver = false → state.loop.loopTasks = state.undrained
  books : ∃ seen, Calls.Served state.loop seen

theorem Facts.waiting {state : State} (hfacts : Facts state) {posted : Posted}
    (hmem : posted ∈ state.loop.loopTasks) (hwaits : posted.call.detached = false) :
    Waiting state posted := by
  obtain ⟨seen, hbooks⟩ := hfacts.books
  refine ⟨hmem, hwaits, ?_⟩
  rcases hbooks.waiting posted.caller with hblocked | hfree
  · exact hblocked.1
  · have hcounted : Calls.waits posted.caller posted = true := by simp [Calls.waits, hwaits]
    have hnone := List.countP_eq_zero.mp hfree.2 posted (List.mem_append_right _ hmem)
    exact absurd hcounted hnone

/-- `run` tests `stopping_` outside the drains, and exits if it is set. -/
theorem turn_exits {state next : EventLoop.State}
    (hstep : EventLoop.step state .turn = some next) : drains state.driver = false ∧
      (state.stopping = true → next = { state with driver := .exited }) := by
  cases step_effect hstep with
  | advances hadvances hnext =>
      cases hadvances with
      | stops hdriver => exact ⟨by rw [hdriver]; rfl, fun _ => hnext⟩
      | polls hdriver hgoes =>
          exact ⟨by rw [hdriver]; rfl, fun hstops => absurd hstops (by simp [hgoes])⟩
  | fiber hfiber => cases hfiber
  | _ haction => cases haction

/-- What comes to its end is a drain. -/
theorem drained_drains {state next : EventLoop.State}
    (hstep : EventLoop.step state .drained = some next) : drains state.driver = true := by
  cases step_effect hstep with
  | advances hadvances =>
      cases hadvances with
      | returns hdriver | yields hdriver => rw [hdriver]; rfl
  | fiber hfiber => cases hfiber
  | _ haction => cases haction

/-- Steps other than posts leave `loop_tasks_` alone outside the drains. -/
theorem loopTasks_eq {state next : EventLoop.State} {action : EventLoop.Action}
    (hstep : EventLoop.step state action = some next)
    (hother : ∀ caller call, action ≠ .post caller call) (hafter : drains next.driver = false) :
    next.loopTasks = state.loopTasks := by
  cases Calls.step_moves hstep with
  | passes _ htasks _ _ => exact htasks
  | posts posted haction _ _ => exact absurd haction (hother posted.caller posted.call)
  | takes site posted rest segment _ _ _ hnext =>
      subst hnext
      simp [driverStops_drains] at hafter
  | resumes site posted segment _ _ hnext =>
      subst hnext
      simp [driverStops_drains] at hafter

theorem facts_step {state next : State} {action : Action} (hfacts : Facts state)
    (hstep : machine.step state action = some next) : Facts next := by
  obtain ⟨seen, hbooks⟩ := hfacts.books
  cases action with
  | call caller call =>
      obtain ⟨hpost, rfl⟩ := call_step hstep
      refine ⟨fun hafter => ?_, _, Calls.served_step _ seen _ _ hbooks hpost⟩
      exact congrArg (· ++ [{ caller, call }]) (hfacts.undrained hafter)
  | loop action =>
      obtain ⟨-, hloop, -, -, hundrained, hother⟩ := loop_step hstep
      refine ⟨fun hafter => ?_, _, Calls.served_step _ seen _ _ hbooks hloop⟩
      rw [loopTasks_eq hloop hother hafter, hundrained]
      cases hbefore : drains state.loop.driver with
      | true =>
          obtain ⟨rfl, hempty⟩ := step_drains hloop hbefore hafter
          exact hempty
      | false =>
          rw [hfacts.undrained hbefore]
          cases action with
          | drained =>
              rw [drained_drains hloop] at hbefore
              cases hbefore
          | _ => rfl
  | destroy =>
      simp only [machine, step, Option.ite_none_right_eq_some, Option.some.injEq] at hstep
      obtain ⟨_, _, rfl⟩ := hstep
      exact ⟨hfacts.undrained, seen, hbooks⟩

/-- What the served steps keep: no call is late, and the loop leaves nobody behind. -/
structure Tidy (state : State) : Prop where
  late : state.late = []
  served : hasReturned state.loop.driver = true → ∀ posted, ¬ Waiting state posted

theorem step_tidy {state next : State} {action : Action} (hfacts : Facts state)
    (htidy : Tidy state) (hserved : Served state action)
    (hstep : machine.step state action = some next) : Tidy next := by
  cases action with
  | call caller call =>
      obtain ⟨-, rfl⟩ := call_step hstep
      rcases hserved with hdetached | hrunning
      · refine ⟨by simp [hdetached, htidy.late], ?_⟩
        rintro hreturned posted ⟨hmem, hwaits, hblocked⟩
        simp only [EventLoop.State.post, hdetached, if_true, List.mem_append,
          List.mem_singleton] at hmem hblocked
        rcases hmem with hmem | rfl
        · exact htidy.served hreturned posted ⟨hmem, hwaits, hblocked⟩
        · simp [hdetached] at hwaits
      · refine ⟨by simp [hrunning, htidy.late], fun hreturned => ?_⟩
        simp only [EventLoop.State.post, hrunning] at hreturned
        cases hreturned
  | loop action =>
      obtain ⟨_, hloop, _, hlate, _, hother⟩ := loop_step hstep
      refine ⟨hlate.trans htidy.late, ?_⟩
      rintro hreturned posted ⟨hmem, hwaits, hblocked⟩
      obtain ⟨htasks, hthread, hwhy⟩ := step_hasReturned hloop hreturned hother
      rw [htasks] at hmem
      rw [hthread] at hblocked
      rcases hwhy with hbefore | ⟨rfl, hstop⟩ | hempty
      · exact htidy.served hbefore posted ⟨hmem, hwaits, hblocked⟩
      · rw [hfacts.undrained (turn_exits hloop).1] at hmem
        exact absurd (hserved hstop posted hmem) (by simp [hwaits])
      · simp [hempty] at hmem
  | destroy =>
      simp only [machine, step, Option.ite_none_right_eq_some, Option.some.injEq] at hstep
      obtain ⟨_, _, rfl⟩ := hstep
      exact ⟨htidy.late, htidy.served⟩

theorem Tidy.nobodyLeft {state : State} (htidy : Tidy state) : NobodyLeft state :=
  ⟨fun hreturned _ => htidy.served hreturned, fun caller hlate => by simp [htidy.late] at hlate⟩

/-- A step that is not served leaves somebody behind at once. -/
theorem not_nobodyLeft_of_not_served {state next : State} {action : Action} (hfacts : Facts state)
    (hnot : ¬ Served state action) (hstep : machine.step state action = some next) :
    ¬ NobodyLeft next := by
  intro hleft
  cases action with
  | call caller call =>
      simp only [Served, not_or, Bool.not_eq_true, Bool.not_eq_false] at hnot
      obtain ⟨hwaits, hreturned⟩ := hnot
      obtain ⟨-, rfl⟩ := call_step hstep
      obtain ⟨error, hthrew⟩ := hleft.thrown caller (by simp [hreturned, hwaits])
      simp [EventLoop.State.post, hwaits] at hthrew
  | loop action =>
      cases action with
      | turn =>
          simp only [Served, not_forall, Bool.not_eq_true] at hnot
          obtain ⟨hstop, posted, hmem, hwaits⟩ := hnot
          obtain ⟨halive, hloop, hsame, _⟩ := loop_step hstep
          obtain ⟨houtside, hexits⟩ := turn_exits hloop
          rw [← hfacts.undrained houtside] at hmem
          have hwaiting := hfacts.waiting hmem hwaits
          have hnext := hexits hstop
          refine hleft.served (by rw [hnext]; rfl) (hsame.trans halive) posted ?_
          rw [Waiting, hnext]
          exact hwaiting
      | _ => exact hnot trivial
  | destroy => exact hnot trivial

/-- Along a run nobody is left waiting on a loop that has left `run` exactly when all its
steps are served. -/
theorem nobodyLeft_iff_served (actions : List Action) (final : State)
    (hrun : machine.run actions initial = some final) :
    (∀ before after state, actions = before ++ after → machine.run before initial = some state →
      NobodyLeft state) ↔ machine.Meets Served actions initial := by
  have hfacts : Facts initial := ⟨fun _ => rfl, [], Calls.books_initial⟩
  have htidy : Tidy initial := ⟨rfl, fun hreturned => by cases hreturned⟩
  exact Machine.along_run_iff_meets (fun _ _ _ => facts_step) (fun _ _ _ => step_tidy)
    (fun _ _ htidy => htidy.nobodyLeft) (fun _ _ _ => not_nobodyLeft_of_not_served) hfacts htidy
    hrun

/-- A call is drained, and the loop is stopped in its next iteration. -/
def stoppedAfterDrain : List Action :=
  [.loop .turn, .call 0 .bind, .loop .asyncCallback, .loop (.take {} accepted),
    .loop (.release false {} accepted), .loop .drained, .loop .pollDone, .loop .drained,
    .loop .yieldDone, .loop .stop, .loop (.idle true), .loop .turn]

theorem nobodyLeft_stoppedAfterDrain :
    ∃ final, machine.run stoppedAfterDrain initial = some final ∧
      hasReturned final.loop.driver = true ∧
      ∀ before after state, stoppedAfterDrain = before ++ after →
        machine.run before initial = some state → NobodyLeft state := by
  refine ⟨_, rfl, rfl, (nobodyLeft_iff_served stoppedAfterDrain _ rfl).mpr ?_⟩
  have hnone : ∀ posted ∈ ([] : List Posted), posted.call.detached = true :=
    fun _ hmem => absurd hmem List.not_mem_nil
  refine Machine.meets_cons (fun _ => hnone) rfl ?_
  refine Machine.meets_cons (Or.inr rfl) rfl ?_
  iterate 9 refine Machine.meets_cons trivial rfl ?_
  exact Machine.meets_cons (fun _ => hnone) rfl trivial

/-- A thread posts a read after the last drain of `run`, and waits for good. -/
theorem left_waiting_after_lastDrain :
    ¬ ∀ state, machine.Reachable initial state → NobodyLeft state := by
  intro hnobodyLeft
  have hleft := hnobodyLeft _ ⟨[.loop .turn, .loop .pollDone, .loop .drained, .loop .yieldDone,
    .call 0 .readAt, .loop .stop, .loop (.idle true), .loop .turn], rfl⟩
  exact hleft.served rfl rfl ⟨0, .readAt⟩ ⟨List.mem_singleton.mpr rfl, rfl, rfl⟩

end Fiberuv.EventLoop.LateCalls
