import Fiberuv.Foundation.Machine

/-! # Where spawned tasks run

`EventLoop::spawn` constructs the fiber on the calling thread, and a detached fiber
is enqueued on, and only ever runs on, the thread that constructed it. The loop that
was named in the call plays no part in that. `TaskScope::join` on a thread that is
not inside `run()` of the scope's loop blocks the whole thread, so the fibers in its
own ready queue do not run any more.

Threads, loops and scopes are unbounded. A thread can be inside `run()` of several
loops at once, one nested in the other; `tls_current_loop` is the innermost one.
-/

namespace Fiberuv.TaskScope.Placement

open Foundation

abbrev ThreadId := Nat
abbrev LoopId := Nat
abbrev ScopeId := Nat

/-- Which thread runs each loop, and which loop each scope was made for. -/
structure Layout where
  home : LoopId → ThreadId
  loopOf : ScopeId → LoopId

/-- A spawned task: the loop it was spawned on, and its scope if it has one. -/
structure Task where
  loop : LoopId
  scope : Option ScopeId
  deriving DecidableEq

structure State where
  /-- The loops whose `run()` the thread is inside; `tls_current_loop` is the head. -/
  inside : ThreadId → List LoopId := fun _ => []
  /-- Tasks in the ready queue of the thread that have not started. -/
  ready : ThreadId → List Task := fun _ => []
  /-- Tasks that have started on the thread and not finished. -/
  started : ThreadId → List Task := fun _ => []
  active : ScopeId → Nat := fun _ => 0
  alive : LoopId → Bool := fun _ => true
  /-- The scope on whose `std_cv` the thread is parked in `join`. -/
  parked : ThreadId → Option ScopeId := fun _ => none
  /-- Every task so far, with the thread whose ready queue it was put in. -/
  placements : List (ThreadId × Task) := []

inductive Action where
  | enterRun (loop : LoopId)
  | leaveRun (loop : LoopId)
  | spawn (thread : ThreadId) (loop : LoopId)
  | scopeSpawn (thread : ThreadId) (scope : ScopeId)
  /-- The scheduler of the thread resumes its first unstarted fiber. -/
  | startTask (thread : ThreadId)
  | finishTask (thread : ThreadId) (task : Task)
  | join (thread : ThreadId) (scope : ScopeId)
  /-- A wake-up of `std_cv`, notified or spurious. -/
  | wake (thread : ThreadId)
  | destroyLoop (loop : LoopId)

variable (layout : Layout)

namespace State

/-- `CurrentLoopGuard` sets and restores `tls_current_loop`. -/
def setInside (state : State) (thread : ThreadId) (loops : List LoopId) : State :=
  { state with inside := Function.update state.inside thread loops }

/-- `ffiber(...).detach()` on this thread. -/
def enqueue (state : State) (thread : ThreadId) (task : Task) : State :=
  { state with
    ready := Function.update state.ready thread (state.ready thread ++ [task])
    placements := state.placements ++ [(thread, task)] }

def spawn (state : State) (thread : ThreadId) (loop : LoopId) : State :=
  state.enqueue thread ⟨loop, none⟩

/-- `TaskScope::spawn` counts the task and calls `spawn` of its loop. -/
def scopeSpawn (state : State) (thread : ThreadId) (scope : ScopeId) : State :=
  { state with active := Function.update state.active scope (state.active scope + 1) }.enqueue
    thread ⟨layout.loopOf scope, some scope⟩

/-- The call of `join` blocks its thread: the loop is alive, the thread is not inside
its `run()`, and a task is active. -/
def parks (state : State) (thread : ThreadId) (scope : ScopeId) : Bool :=
  state.alive (layout.loopOf scope) && (state.inside thread).head? != some (layout.loopOf scope) &&
    state.active scope != 0

def join (state : State) (thread : ThreadId) (scope : ScopeId) : State :=
  if state.parks layout thread scope then
    { state with parked := Function.update state.parked thread (some scope) }
  else state

def startTask (state : State) (thread : ThreadId) (task : Task) (rest : List Task) : State :=
  { state with
    ready := Function.update state.ready thread rest
    started := Function.update state.started thread (state.started thread ++ [task]) }

/-- The end of a task: it leaves its thread and its scope counts it off. -/
def finishTask (state : State) (thread : ThreadId) (task : Task) : State :=
  { state with
    started := Function.update state.started thread ((state.started thread).erase task)
    active := match task.scope with
      | none => state.active
      | some scope => Function.update state.active scope (state.active scope - 1) }

/-- Code runs on a thread only while the thread is not parked. -/
def step (state : State) : Action → Option State
  | .enterRun loop =>
      if state.parked (layout.home loop) = none then
        some (state.setInside (layout.home loop) (loop :: state.inside (layout.home loop)))
      else none
  | .leaveRun loop =>
      if state.parked (layout.home loop) = none ∧
          (state.inside (layout.home loop)).head? = some loop then
        some (state.setInside (layout.home loop) (state.inside (layout.home loop)).tail)
      else none
  | .spawn thread loop =>
      if state.parked thread = none then some (state.spawn thread loop) else none
  | .scopeSpawn thread scope =>
      if state.parked thread = none then some (state.scopeSpawn layout thread scope) else none
  | .startTask thread =>
      match state.parked thread, state.ready thread with
      | none, task :: rest => some (state.startTask thread task rest)
      | _, _ => none
  | .finishTask thread task =>
      if state.parked thread = none ∧ task ∈ state.started thread then
        some (state.finishTask thread task)
      else none
  | .join thread scope =>
      if state.parked thread = none then some (state.join layout thread scope) else none
  | .wake thread =>
      if state.parked thread = none then none
      else some { state with parked := Function.update state.parked thread none }
  | .destroyLoop loop =>
      some { state with alive := Function.update state.alive loop false }

end State

def machine : Machine State Action where
  step := State.step layout

def initial : State := {}

/-- Every task was put in the ready queue of the thread that runs its loop. -/
def WellPlaced (state : State) : Prop :=
  ∀ thread task, (thread, task) ∈ state.placements → thread = layout.home task.loop

/-- The thread is parked in `join` of a scope that has an unstarted task in the ready
queue of that same thread. -/
def Stranded (state : State) (thread : ThreadId) : Prop :=
  ∃ scope, state.parked thread = some scope ∧
    ∃ task ∈ state.ready thread, task.scope = some scope

/-- Tasks are spawned on the thread of their loop, and no `join` blocks the thread that runs
the loop of its scope. -/
def AtHome (state : State) : Action → Prop
  | .spawn thread loop => thread = layout.home loop
  | .scopeSpawn thread scope => thread = layout.home (layout.loopOf scope)
  | .join thread scope => state.parks layout thread scope = true →
      thread ≠ layout.home (layout.loopOf scope)
  | _ => True

/-- What a step does to the placements: nothing, or one spawn adds one. -/
theorem step_placements {state next : State} {action : Action}
    (hstep : state.step layout action = some next) :
    next.placements = state.placements ∨
      (∃ thread loop, action = .spawn thread loop ∧
        next.placements = state.placements ++ [(thread, ⟨loop, none⟩)]) ∨
      ∃ thread scope, action = .scopeSpawn thread scope ∧
        next.placements = state.placements ++ [(thread, ⟨layout.loopOf scope, some scope⟩)] := by
  cases action with
  | spawn thread loop =>
      simp only [State.step, Option.ite_none_right_eq_some, Option.some.injEq] at hstep
      exact .inr (.inl ⟨thread, loop, rfl, hstep.2 ▸ rfl⟩)
  | scopeSpawn thread scope =>
      simp only [State.step, Option.ite_none_right_eq_some, Option.some.injEq] at hstep
      exact .inr (.inr ⟨thread, scope, rfl, hstep.2 ▸ rfl⟩)
  | startTask thread =>
      unfold State.step at hstep
      dsimp only at hstep
      split at hstep
      · exact .inl (Option.some.inj hstep ▸ rfl)
      · cases hstep
  | join thread scope =>
      simp only [State.step, Option.ite_none_right_eq_some, Option.some.injEq] at hstep
      left
      rw [← hstep.2, State.join]
      split <;> rfl
  | wake thread =>
      simp only [State.step, Option.ite_none_left_eq_some, Option.some.injEq] at hstep
      exact .inl (hstep.2 ▸ rfl)
  | destroyLoop loop =>
      simp only [State.step, Option.some.injEq] at hstep
      exact .inl (hstep ▸ rfl)
  | enterRun loop | leaveRun loop | finishTask thread task =>
      simp only [State.step, Option.ite_none_right_eq_some, Option.some.injEq] at hstep
      exact .inl (hstep.2 ▸ rfl)

theorem step_wellPlaced {state next : State} {action : Action} (hplaced : WellPlaced layout state)
    (hhome : AtHome layout state action) (hstep : state.step layout action = some next) :
    WellPlaced layout next := by
  intro thread task hmem
  obtain hsame | ⟨caller, loop, rfl, hnext⟩ | ⟨caller, scope, rfl, hnext⟩ :=
    step_placements layout hstep
  · exact hplaced thread task (hsame ▸ hmem)
  all_goals
    rw [hnext, List.mem_append, List.mem_singleton] at hmem
    rcases hmem with hold | hnew
    · exact hplaced thread task hold
    · obtain ⟨rfl, rfl⟩ := Prod.mk.inj hnew
      exact hhome

/-- What a step does to a parked thread: it was parked before with the same ready
queue, or it parks now in a `join` that leaves its ready queue alone. -/
theorem step_parked {state next : State} {action : Action}
    (hstep : state.step layout action = some next) {thread : ThreadId} {scope : ScopeId}
    (hparked : next.parked thread = some scope) :
    next.ready thread = state.ready thread ∧
      (state.parked thread = some scope ∨
        action = .join thread scope ∧ state.parks layout thread scope = true) := by
  cases action with
  | spawn caller loop =>
      simp only [State.step, Option.ite_none_right_eq_some, Option.some.injEq] at hstep
      obtain ⟨hfree, rfl⟩ := hstep
      have hne : thread ≠ caller := by
        rintro rfl
        simp [State.spawn, State.enqueue, hfree] at hparked
      exact ⟨by simp [State.spawn, State.enqueue, hne], .inl hparked⟩
  | scopeSpawn caller other =>
      simp only [State.step, Option.ite_none_right_eq_some, Option.some.injEq] at hstep
      obtain ⟨hfree, rfl⟩ := hstep
      have hne : thread ≠ caller := by
        rintro rfl
        simp [State.scopeSpawn, State.enqueue, hfree] at hparked
      exact ⟨by simp [State.scopeSpawn, State.enqueue, hne], .inl hparked⟩
  | startTask caller =>
      unfold State.step at hstep
      dsimp only at hstep
      split at hstep
      next task rest hfree hready =>
        cases hstep
        have hne : thread ≠ caller := by
          rintro rfl
          simp [State.startTask, hfree] at hparked
        exact ⟨by simp [State.startTask, hne], .inl hparked⟩
      next => cases hstep
  | join caller other =>
      simp only [State.step, Option.ite_none_right_eq_some, Option.some.injEq] at hstep
      obtain ⟨hfree, rfl⟩ := hstep
      -- The one step that parks a thread; it parks in the scope it names.
      unfold State.join at hparked ⊢
      split at hparked
      next hparks =>
        rw [if_pos hparks]
        refine ⟨rfl, ?_⟩
        by_cases heq : thread = caller
        · subst thread
          simp only [Function.update_self, Option.some.injEq] at hparked
          exact .inr ⟨by rw [hparked], hparked ▸ hparks⟩
        · simp only [Function.update_of_ne heq] at hparked
          exact .inl hparked
      next hparks =>
        rw [if_neg hparks]
        exact ⟨rfl, .inl hparked⟩
  | wake caller =>
      simp only [State.step, Option.ite_none_left_eq_some, Option.some.injEq] at hstep
      obtain ⟨_, rfl⟩ := hstep
      have hne : thread ≠ caller := by
        rintro rfl
        simp at hparked
      exact ⟨rfl, .inl (by simpa [hne] using hparked)⟩
  | destroyLoop loop =>
      simp only [State.step, Option.some.injEq] at hstep
      subst next
      exact ⟨rfl, .inl hparked⟩
  | enterRun loop | leaveRun loop | finishTask caller task =>
      simp only [State.step, Option.ite_none_right_eq_some, Option.some.injEq] at hstep
      obtain ⟨_, rfl⟩ := hstep
      exact ⟨rfl, .inl hparked⟩

/-- A task in a ready queue was there before the step, or is put there by it. -/
theorem step_ready {state next : State} {action : Action}
    (hstep : state.step layout action = some next) {thread : ThreadId} {task : Task}
    (hready : task ∈ next.ready thread) :
    task ∈ state.ready thread ∨ (thread, task) ∈ next.placements := by
  have henqueue : ∀ (base : State) caller spawned,
      task ∈ (base.enqueue caller spawned).ready thread →
      task ∈ base.ready thread ∨ (thread, task) ∈ (base.enqueue caller spawned).placements := by
    intro base caller spawned hmem
    by_cases heq : thread = caller
    · subst heq
      have hcases : task ∈ base.ready thread ∨ task = spawned := by
        simpa [State.enqueue] using hmem
      rcases hcases with hold | rfl
      · exact .inl hold
      · exact .inr (List.mem_append_right _ (List.mem_singleton.mpr rfl))
    · exact .inl (by simpa [State.enqueue, heq] using hmem)
  cases action with
  | spawn caller loop =>
      simp only [State.step, Option.ite_none_right_eq_some, Option.some.injEq] at hstep
      obtain ⟨-, rfl⟩ := hstep
      exact henqueue state caller _ hready
  | scopeSpawn caller scope =>
      simp only [State.step, Option.ite_none_right_eq_some, Option.some.injEq] at hstep
      obtain ⟨-, rfl⟩ := hstep
      exact henqueue _ caller _ hready
  | startTask caller =>
      unfold State.step at hstep
      dsimp only at hstep
      split at hstep
      next first rest hfree hqueue =>
        cases hstep
        left
        by_cases heq : thread = caller
        · subst heq
          rw [hqueue]
          exact List.mem_cons_of_mem _ (by simpa [State.startTask] using hready)
        · simpa [State.startTask, heq] using hready
      next => cases hstep
  | join caller scope =>
      simp only [State.step, Option.ite_none_right_eq_some, Option.some.injEq] at hstep
      obtain ⟨-, rfl⟩ := hstep
      left
      unfold State.join at hready
      split at hready <;> exact hready
  | wake caller =>
      simp only [State.step, Option.ite_none_left_eq_some, Option.some.injEq] at hstep
      obtain ⟨-, rfl⟩ := hstep
      exact .inl hready
  | destroyLoop loop =>
      simp only [State.step, Option.some.injEq] at hstep
      subst next
      exact .inl hready
  | enterRun loop | leaveRun loop | finishTask caller finished =>
      simp only [State.step, Option.ite_none_right_eq_some, Option.some.injEq] at hstep
      obtain ⟨-, rfl⟩ := hstep
      exact .inl hready

/-- What every run keeps: the ready queues have tasks that were put there, and the tasks of a
scope are on the loop of the scope. -/
structure Queued (state : State) : Prop where
  ready : ∀ thread, ∀ task ∈ state.ready thread, (thread, task) ∈ state.placements
  sameLoop : ∀ thread task, (thread, task) ∈ state.placements → ∀ scope,
    task.scope = some scope → task.loop = layout.loopOf scope

theorem step_queued {state next : State} {action : Action} (hqueued : Queued layout state)
    (hstep : state.step layout action = some next) : Queued layout next := by
  have hplacements := step_placements layout hstep
  have hgrows : ∀ placement ∈ state.placements, placement ∈ next.placements := by
    intro placement hmem
    obtain hsame | ⟨_, _, -, hnext⟩ | ⟨_, _, -, hnext⟩ := hplacements
    · exact hsame ▸ hmem
    · exact hnext ▸ List.mem_append_left _ hmem
    · exact hnext ▸ List.mem_append_left _ hmem
  constructor
  · intro thread task hmem
    rcases step_ready layout hstep hmem with hold | hnew
    · exact hgrows _ (hqueued.ready thread task hold)
    · exact hnew
  · intro thread task hmem scope hscope
    obtain hsame | ⟨_, _, -, hnext⟩ | ⟨_, _, -, hnext⟩ := hplacements
    · exact hqueued.sameLoop thread task (hsame ▸ hmem) scope hscope
    all_goals
      rw [hnext, List.mem_append, List.mem_singleton] at hmem
      rcases hmem with hold | hnew
      · exact hqueued.sameLoop thread task hold scope hscope
      · obtain ⟨-, rfl⟩ := Prod.mk.inj hnew
        cases hscope <;> rfl

/-- A thread that is parked in `join` does not run the loop of the scope. -/
def ParkedElsewhere (state : State) : Prop :=
  ∀ thread scope, state.parked thread = some scope → thread ≠ layout.home (layout.loopOf scope)

theorem step_parkedElsewhere {state next : State} {action : Action}
    (helsewhere : ParkedElsewhere layout state) (hhome : AtHome layout state action)
    (hstep : state.step layout action = some next) : ParkedElsewhere layout next := by
  intro thread scope hparked
  obtain ⟨-, hbefore | ⟨rfl, hparks⟩⟩ := step_parked layout hstep hparked
  · exact helsewhere thread scope hbefore
  · exact hhome hparks

/-- Where every task is placed with its loop, a thread that waits elsewhere has none of the
tasks it waits for. -/
theorem WellPlaced.not_stranded {state : State} (hplaced : WellPlaced layout state)
    (hqueued : Queued layout state) (helsewhere : ParkedElsewhere layout state)
    (thread : ThreadId) : ¬ Stranded state thread := by
  rintro ⟨scope, hparked, task, hready, hscope⟩
  have hput := hqueued.ready thread task hready
  have hhome := hplaced thread task hput
  rw [hqueued.sameLoop thread task hput scope hscope] at hhome
  exact helsewhere thread scope hparked hhome

/-- As long as tasks are spawned at home and no `join` blocks the thread that runs the loop of
its scope, every task is in the ready queue of its loop's thread and nobody is stranded. -/
theorem placed_of_atHome (actions : List Action) (state : State)
    (hmeets : (machine layout).Meets (AtHome layout) actions initial)
    (hrun : (machine layout).run actions initial = some state) :
    WellPlaced layout state ∧ ∀ thread, ¬ Stranded state thread := by
  have hkeep : ∀ before action next,
      WellPlaced layout before ∧ Queued layout before ∧ ParkedElsewhere layout before →
      AtHome layout before action → (machine layout).step before action = some next →
      WellPlaced layout next ∧ Queued layout next ∧ ParkedElsewhere layout next := by
    intro before action next ⟨hplaced, hqueued, helsewhere⟩ hhome hstep
    exact ⟨step_wellPlaced layout hplaced hhome hstep, step_queued layout hqueued hstep,
      step_parkedElsewhere layout helsewhere hhome hstep⟩
  have hstart : WellPlaced layout initial ∧ Queued layout initial ∧
      ParkedElsewhere layout initial := by
    refine ⟨fun _ _ hmem => ?_, ⟨fun _ _ hmem => ?_, fun _ _ hmem => ?_⟩, fun _ _ hparked => ?_⟩
    · cases hmem
    · cases hmem
    · cases hmem
    · cases hparked
  obtain ⟨hplaced, hqueued, helsewhere⟩ :=
    Machine.run_invariant hkeep actions initial state hstart hmeets hrun
  exact ⟨hplaced, hplaced.not_stranded layout hqueued helsewhere⟩

/-- Thread 0 runs the only loop. -/
def oneLoop : Layout where
  home _ := 0
  loopOf _ := 0

/-- A task spawned by a fiber of the loop, joined by another thread and by a fiber. -/
def joinedFromOutside : List Action :=
  [.enterRun 0, .scopeSpawn 0 0, .join 1 0, .join 0 0, .startTask 0]

theorem placed_joinedFromOutside :
    ∃ state, (machine oneLoop).run joinedFromOutside initial = some state ∧
      state.parked 1 = some 0 ∧
      WellPlaced oneLoop state ∧ ∀ thread, ¬ Stranded state thread := by
  refine ⟨_, rfl, rfl, placed_of_atHome oneLoop joinedFromOutside _ ?_ rfl⟩
  refine Machine.meets_cons trivial rfl (Machine.meets_cons rfl rfl
    (Machine.meets_cons ?_ rfl (Machine.meets_cons ?_ rfl
      (Machine.meets_cons trivial rfl trivial))))
  · exact fun _ => Nat.one_ne_zero
  · exact fun hparks => absurd hparks (by decide)

/-- A thread outside the loop that spawns into a scope and joins it blocks on a task
that sits in its own ready queue. -/
theorem stranded_spawnedOutside :
    ¬ ∀ state, (machine oneLoop).Reachable initial state →
      WellPlaced oneLoop state ∧ ∀ thread, ¬ Stranded state thread := by
  intro hplaced
  have hstranded := (hplaced _ ⟨[.enterRun 0, .scopeSpawn 1 0, .join 1 0], rfl⟩).2 1
  exact hstranded ⟨0, rfl, ⟨0, some 0⟩, List.mem_singleton.mpr rfl, rfl⟩

end Fiberuv.TaskScope.Placement
