import Fiberuv.EventLoop.BlockingJobs

/-! # `run_blocking` from the call to the return

A job of the pool posts the outcome of its task to `loop_tasks_`. The loop runs the tasks
of that queue in order, and this one sets the promise of the call, which then returns from
`future.get()`. The other tasks of the queue have no access to these promises and are left
out.
-/

namespace Fiberuv.EventLoop.RunBlocking

open Foundation Workers

universe u

/-- The pool, the loop and the calls of `run_blocking`. `settled` are the tasks that the loop
has run; no step reads them. -/
structure State (size : Nat) (Value : Type u) where
  pool : Workers.State size Value := {}
  loopTasks : List (Completion Value) := []
  promise : JobId → Option (Outcome Value) := fun _ => none
  /-- A task found its promise satisfied, and the exception left `drain_loop_tasks`. -/
  threw : Bool := false
  /-- How the calls have returned from `future.get()`. -/
  ended : JobId → Option (Outcome Value) := fun _ => none
  settled : List (Completion Value) := []

inductive Action (size : Nat) (Value : Type u) where
  | pool (action : Workers.Action size Value)
  /-- One round of the loop of `drain_loop_tasks`. -/
  | drain
  | get (job : JobId)

variable {size : Nat} {Value : Type u}

/-- What a step of the pool posts to the loop. -/
def posts (pool : Workers.State size Value) : Workers.Action size Value → List (Completion Value)
  | .post worker =>
      match pool.workers worker with
      | .ran job outcome => [⟨job, outcome⟩]
      | _ => []
  | _ => []

namespace State

/-- The loop runs the first of its tasks. -/
def settle (state : State size Value) (completion : Completion Value)
    (rest : List (Completion Value)) : State size Value :=
  match state.promise completion.job with
  | none =>
      { state with
        loopTasks := rest
        promise := Function.update state.promise completion.job (some completion.outcome)
        settled := state.settled ++ [completion] }
  | some _ => { state with loopTasks := rest, threw := true }

/-- The call has pushed its job and made its notification. -/
def inGet (state : State size Value) (job : JobId) : Bool :=
  job ∈ state.pool.calls ∧ job ∉ state.pool.counted ∧ job ∉ state.pool.notifying ∧
    (state.ended job).isNone

def step (state : State size Value) : Action size Value → Option (State size Value)
  | .pool action => (state.pool.step action).map fun pool =>
      { state with pool := pool, loopTasks := state.loopTasks ++ posts state.pool action }
  | .drain =>
      match state.loopTasks with
      | [] => none
      | completion :: rest => some (state.settle completion rest)
  | .get job =>
      if state.inGet job then
        (state.promise job).map fun outcome =>
          { state with ended := Function.update state.ended job (some outcome) }
      else none

/-- One worker has run the job once, with this outcome. -/
def RanWith (state : State size Value) (job : JobId) (outcome : Outcome Value) : Prop :=
  ∃ worker, state.pool.executionsOf job = [⟨worker, job, outcome⟩]

end State

def machine (size : Nat) (Value : Type u) : Machine (State size Value) (Action size Value) where
  step := State.step

def initial (size : Nat) (Value : Type u) : State size Value := {}

/-- New calls and spurious wake-ups. -/
def Action.isExternal : Action size Value → Bool
  | .pool action => action.isExternal
  | _ => false

/-- Nothing can happen any more, new calls and spurious wake-ups apart. -/
def AtRest (state : State size Value) : Prop :=
  ∀ action, (state.step action).isSome = true → action.isExternal = true

/-- A step of the pool adds to its completions what it posts. -/
theorem completions_of_step {pool next : Workers.State size Value}
    {action : Workers.Action size Value}
    (hstep : (Workers.machine size Value).step pool action = some next) :
    next.completions.reverse = pool.completions.reverse ++ posts pool action := by
  cases step_move hstep with
  | post worker job outcome hworker => simp [posts, hworker, Workers.State.setWorker]
  | _ => simp [posts, Workers.State.setWorker, Workers.State.call, Workers.State.push,
      Workers.State.notified, Workers.State.notifyAll]

/-- A posted completion has the outcome of the one execution of its job. -/
theorem ranWith_of_completion {state : State size Value} (htraced : Traced state.pool)
    {job : JobId} {outcome : Outcome Value} (hmem : ⟨job, outcome⟩ ∈ state.pool.completions) :
    state.RanWith job outcome := by
  obtain ⟨stage, -, hlogged, -⟩ := htraced
  have hposted : ⟨job, outcome⟩ ∈ state.pool.completions.filter fun done => done.job == job :=
    List.mem_filter.mpr ⟨hmem, beq_self_eq_true job⟩
  rw [hlogged.completions] at hposted
  have hexecutions := hlogged.executions job
  cases hstage : stage job with
  | posted worker given | finished worker given =>
      simp only [hstage, Stage.completions, List.mem_singleton, Completion.mk.injEq,
        true_and] at hposted
      rw [hstage, ← hposted] at hexecutions
      exact ⟨worker, hexecutions⟩
  | _ => simp [hstage, Stage.completions] at hposted

/-- What every reachable state satisfies. -/
structure Sound (state : State size Value) : Prop where
  pool : Workers.Invariant state.pool
  inOrder : state.pool.completions.reverse = state.settled ++ state.loopTasks
  set : ∀ job outcome, state.promise job = some outcome ↔ ⟨job, outcome⟩ ∈ state.settled
  ended : ∀ job outcome, state.ended job = some outcome → state.promise job = some outcome
  threw : state.threw = false

theorem sound_initial : Sound (initial size Value) where
  pool := initial_invariant
  inOrder := rfl
  set := by simp [initial]
  ended := by simp [initial]
  threw := rfl

theorem settle_of_unset {state : State size Value} {completion : Completion Value}
    {rest : List (Completion Value)} (hunset : state.promise completion.job = none) :
    state.settle completion rest = { state with
      loopTasks := rest
      promise := Function.update state.promise completion.job (some completion.outcome)
      settled := state.settled ++ [completion] } := by
  rw [State.settle, hunset]

namespace Sound

variable {state : State size Value}

theorem drain (hsound : Sound state) {completion : Completion Value}
    {rest : List (Completion Value)} (htasks : state.loopTasks = completion :: rest) :
    Sound (state.settle completion rest) := by
  have hnodup := hsound.pool.traced.completions_nodup
  rw [← List.nodup_reverse, ← List.map_reverse, hsound.inOrder, htasks, List.map_append,
    List.map_cons, List.nodup_append'] at hnodup
  have hfirst : ∀ outcome, ⟨completion.job, outcome⟩ ∉ state.settled := fun outcome hmem =>
    hnodup.2.2 (List.mem_map_of_mem hmem) List.mem_cons_self
  have hunset : state.promise completion.job = none :=
    Option.eq_none_iff_forall_ne_some.mpr fun outcome hset =>
      hfirst outcome ((hsound.set _ _).mp hset)
  rw [settle_of_unset hunset]
  refine ⟨hsound.pool, ?_, fun job outcome => ?_, fun job outcome hended => ?_, hsound.threw⟩
  · rw [hsound.inOrder, htasks, List.append_cons]
  · dsimp only
    obtain rfl | hne := eq_or_ne job completion.job
    · rw [Function.update_self, List.mem_append, or_iff_right (hfirst outcome),
        List.mem_singleton, Option.some.injEq]
      constructor
      · rintro rfl
        rfl
      · exact fun heq => congrArg Completion.outcome heq.symm
    · rw [Function.update_of_ne hne, hsound.set, List.mem_append, or_iff_left]
      rintro hlast
      rw [List.mem_singleton] at hlast
      exact hne (congrArg Completion.job hlast)
  · have hset := hsound.ended job outcome hended
    have hne : job ≠ completion.job := by
      rintro rfl
      rw [hunset] at hset
      cases hset
    exact (Function.update_of_ne hne _ _).trans hset

theorem get (hsound : Sound state) {job : JobId} {outcome : Outcome Value}
    (hset : state.promise job = some outcome) :
    Sound { state with ended := Function.update state.ended job (some outcome) } := by
  refine ⟨hsound.pool, hsound.inOrder, hsound.set, fun other given hended => ?_, hsound.threw⟩
  dsimp only at hended ⊢
  obtain rfl | hne := eq_or_ne other job
  · rw [Function.update_self, Option.some.injEq] at hended
    exact hended ▸ hset
  · rw [Function.update_of_ne hne] at hended
    exact hsound.ended other given hended

end Sound

theorem step_sound {state next : State size Value} {action : Action size Value}
    (hsound : Sound state) (hstep : (machine size Value).step state action = some next) :
    Sound next := by
  cases action with
  | pool action =>
      obtain ⟨pool, hpool, rfl⟩ := Option.map_eq_some_iff.mp hstep
      refine ⟨step_invariant hsound.pool hpool, ?_, hsound.set, hsound.ended, hsound.threw⟩
      rw [completions_of_step hpool, hsound.inOrder, List.append_assoc]
  | drain =>
      simp only [machine, State.step] at hstep
      split at hstep
      next => cases hstep
      next completion rest htasks =>
        cases hstep
        exact hsound.drain htasks
  | get job =>
      simp only [machine, State.step] at hstep
      split at hstep
      next =>
        obtain ⟨outcome, hset, rfl⟩ := Option.map_eq_some_iff.mp hstep
        exact hsound.get hset
      next => cases hstep

namespace Sound

variable {state : State size Value}

/-- When the loop has run its tasks, every promise with a posted completion is set. -/
theorem set_of_posted (hsound : Sound state) (htasks : state.loopTasks = []) {job : JobId}
    {outcome : Outcome Value} (hposted : ⟨job, outcome⟩ ∈ state.pool.completions) :
    state.promise job = some outcome := by
  rw [hsound.set, ← List.append_nil state.settled, ← htasks, ← hsound.inOrder]
  exact List.mem_reverse.mpr hposted

theorem ranWith (hsound : Sound state) {job : JobId} {outcome : Outcome Value}
    (hset : state.promise job = some outcome) : state.RanWith job outcome := by
  refine ranWith_of_completion hsound.pool.traced ?_
  rw [← List.mem_reverse, hsound.inOrder]
  exact List.mem_append_left _ ((hsound.set job outcome).mp hset)

/-- A job that ran has its promise set once the loop has run its tasks. -/
theorem set_of_ranOnce (hsound : Sound state) (htasks : state.loopTasks = []) {job : JobId}
    (hran : RanOnce state.pool job) : ∃ outcome, state.promise job = some outcome := by
  obtain ⟨worker, outcome, -, hcompletions, -⟩ := hran
  have hmem : ⟨job, outcome⟩ ∈ state.pool.completionsOf job := by
    rw [hcompletions]
    exact List.mem_singleton_self _
  exact ⟨outcome, hsound.set_of_posted htasks (List.mem_of_mem_filter hmem)⟩

end Sound

/-- What is promised of a call of `run_blocking`. -/
structure Returns (state : State size Value) : Prop where
  /-- It returns what its own task returned, or throws what it threw; the task ran once. -/
  own : ∀ job outcome, state.ended job = some outcome → state.RanWith job outcome
  /-- No promise is set twice. -/
  once : state.threw = false
  /-- The promises are set in the order in which the jobs posted their completions. -/
  inOrder : state.pool.completions.reverse = state.settled ++ state.loopTasks
  /-- When the loop finds itself idle, no call so far waits for its promise. -/
  idle : state.pool.pendingBlocking = 0 → state.loopTasks = [] → ∀ job ∈ state.pool.calls,
    ∃ outcome, state.promise job = some outcome ∧ state.RanWith job outcome
  /-- Nor when the destructor has joined the workers and run the last tasks. -/
  destroyed : state.pool.stopper = .returned → state.loopTasks = [] →
    ∀ job ∈ state.pool.inTime,
      ∃ outcome, state.promise job = some outcome ∧ state.RanWith job outcome
  /-- Things do not come to rest before all calls have returned. -/
  progress : AtRest state → ∀ job ∈ state.pool.inTime,
    ∃ outcome, state.ended job = some outcome ∧ state.RanWith job outcome

theorem AtRest.pool {state : State size Value} (hrest : AtRest state) : Stuck state.pool := by
  intro action hsome
  refine hrest (.pool action) ?_
  rwa [State.step, Option.isSome_map]

theorem AtRest.loopTasks {state : State size Value} (hrest : AtRest state) :
    state.loopTasks = [] := by
  cases htasks : state.loopTasks with
  | nil => rfl
  | cons completion rest =>
      have hexternal := hrest .drain (by simp [State.step, htasks])
      cases hexternal

/-- A call whose job was pushed has nothing left to do but to get its result. -/
theorem AtRest.ended {state : State size Value} (hrest : AtRest state) (hsound : Sound state)
    {job : JobId} {outcome : Outcome Value} (hjob : job ∈ state.pool.inTime)
    (hset : state.promise job = some outcome) : state.ended job = some outcome := by
  obtain ⟨stage, hplaced, -, htimely⟩ := hsound.pool.traced
  obtain ⟨hcalled, hpushed⟩ := htimely.pushed job hjob
  cases hended : state.ended job with
  | some given => exact (hsound.ended job given hended).symm.trans hset
  | none =>
      have hinGet : state.inGet job = true := by
        simp only [State.inGet, decide_eq_true_eq]
        refine ⟨(hplaced.calls job).mpr hcalled, ?_, ?_, by rw [hended]; rfl⟩
        · exact fun hcounted => hpushed ((hplaced.counted job).mp hcounted)
        · rw [hrest.pool.notifying_nil]
          exact List.not_mem_nil
      have hexternal := hrest (.get job) (by simp [State.step, hinGet, hset])
      cases hexternal

theorem Sound.returns {state : State size Value} (hsound : Sound state) (hsize : 0 < size) :
    Returns state where
  own job outcome hended := hsound.ranWith (hsound.ended job outcome hended)
  once := hsound.threw
  inOrder := hsound.inOrder
  idle hzero htasks job hjob := by
    obtain ⟨outcome, hposted⟩ := hsound.pool.completed hzero hjob
    have hset := hsound.set_of_posted htasks hposted
    exact ⟨outcome, hset, hsound.ranWith hset⟩
  destroyed hreturned htasks job hjob := by
    have hran := (hsound.pool.runsOnce hsize).beforeReturn hreturned job hjob
    obtain ⟨outcome, hset⟩ := hsound.set_of_ranOnce htasks hran
    exact ⟨outcome, hset, hsound.ranWith hset⟩
  progress hrest job hjob := by
    have hran := hrest.pool.ranOnce hsound.pool hsize job hjob
    obtain ⟨outcome, hset⟩ := hsound.set_of_ranOnce hrest.loopTasks hran
    exact ⟨outcome, hrest.ended hsound hjob hset, hsound.ranWith hset⟩

/-- In every interleaving of the pool, the loop and the callers, for any number of each: a
call of `run_blocking` ends with the outcome of the one execution of its own task, its
promise is set once, and it is not left waiting, by an idle loop or by the destructor. -/
theorem runBlocking_returns (blockingThreads hardware : Nat)
    (state : State (workerCount blockingThreads hardware) Value)
    (hreach : (machine _ Value).Reachable (initial _ Value) state) : Returns state :=
  (Machine.reachable_invariant (fun _ _ _ => step_sound) sound_initial hreach).returns
    (workerCount_pos blockingThreads hardware)

/-- Two calls that the same one of three workers serves, one of which throws; the second job
has not decremented `pending_blocking_` when the promise of its call is set. -/
def twoCalls : List (Action 3 Nat) :=
  [.pool (.call 3), .pool (.call 4), .pool (.push 4), .pool (.notifyOne 4 none),
    .pool (.push 3), .pool (.lock 0), .pool (.test 0), .pool (.take 0),
    .pool (.runTask 0 (.threw 9)), .pool (.post 0), .pool (.discount 0), .pool (.lock 0),
    .pool (.test 0), .pool (.take 0), .pool (.runTask 0 (.returned 5)), .pool (.post 0), .drain,
    .drain, .get 4, .pool (.notifyOne 3 none), .get 3]

theorem runBlocking_returns_twoCalls :
    ∃ state, (machine 3 Nat).run twoCalls (initial 3 Nat) = some state ∧
      state.settled = [⟨4, .threw 9⟩, ⟨3, .returned 5⟩] ∧ state.ended 3 = some (.returned 5) ∧
      state.RanWith 3 (.returned 5) :=
  ⟨_, rfl, rfl, rfl, (runBlocking_returns 3 0 _ ⟨twoCalls, rfl⟩).own 3 _ rfl⟩

end Fiberuv.EventLoop.RunBlocking
