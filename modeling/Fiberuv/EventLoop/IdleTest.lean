import Fiberuv.EventLoop.JobStages

/-! # The idle test and blocking jobs

`run` computes `idle` with four reads in a row: `uv_loop_alive`, `active_fibers_`,
`pending_blocking_`, and `loop_tasks_` under its mutex. In between, the workers and the
callers of `run_blocking` take any of their steps. A worker posts the completion of a job
before it decrements `pending_blocking_`, and the test reads `pending_blocking_` before
`loop_tasks_`: a job the counter no longer counts is in the queue or out of it, and the
driver, which alone takes tasks out, executes what it took before it tests again.

The driver is the main fiber of the loop. `drain_loop_tasks` runs in the callback of
`async_`, inside `uv_run`, and after it. Any thread may post tasks of another kind, and
`uv_loop_alive` returns what the label says.
-/

namespace Fiberuv.EventLoop.IdleTest

open Foundation Workers

universe u

/-- A function in `loop_tasks_`: the completion of a blocking job, or anything else. -/
inductive Task (Value : Type u) where
  | completion (done : Completion Value)
  | other

def Task.completions {Value : Type u} : Task Value → List (Completion Value)
  | .completion done => [done]
  | .other => []

/-- Who called `drain_loop_tasks`. -/
inductive Site where
  | callback
  | run

/-- Where the driver stands in `run`. The last read of the idle test and a true `idle`
remember the calls of `run_blocking` that had counted themselves when `pending_blocking_`
was read. -/
inductive Driver (Value : Type u) where
  | outside
  | top
  | polling
  | draining (site : Site)
  | executing (site : Site) (task : Task Value)
  | yielded
  | readAlive
  | readFibers
  | readBlocking
  | readTasks (counted : List JobId)
  | idle (counted : List JobId)
  | stopped
  /-- A task threw, and the exception has left `run`. -/
  | threw

structure State (size : Nat) (Value : Type u) where
  pool : Workers.State size Value := {}
  loopTasks : List (Task Value) := []
  activeFibers : Nat := 0
  stopping : Bool := false
  driver : Driver Value := .outside
  /-- The promises of the calls of `run_blocking`. -/
  promise : JobId → Option (Outcome Value) := fun _ => none
  /-- The completions the driver has executed. -/
  executed : List (Completion Value) := []

inductive Action (size : Nat) (Value : Type u) where
  | run
  /-- The test of `stopping_`. -/
  | turn
  /-- libuv calls the callback of `async_`. -/
  | onAsync
  /-- `uv_run` returns. -/
  | polled
  /-- `drain_loop_tasks` takes a task, or finds none and returns. -/
  | take
  /-- The task is called; one that is no completion may throw. -/
  | execute (throws : Bool)
  /-- `this_fiber::yield` returns. -/
  | resumed
  | readAlive (alive : Bool)
  | readFibers
  | readBlocking
  | readTasks
  /-- A step of a worker, of a call of `run_blocking` or of `stop_workers`. -/
  | pool (action : Workers.Action size Value)
  | post
  | spawn
  | fiberDone
  | stop

namespace State

variable {size : Nat} {Value : Type u}

/-- What this step of the pool gives to `post_to_loop`. -/
def posts (state : State size Value) : Workers.Action size Value → List (Task Value)
  | .post worker =>
      match state.pool.workers worker with
      | .ran job outcome => [.completion ⟨job, outcome⟩]
      | _ => []
  | _ => []

/-- The driver goes on after `drain_loop_tasks`. -/
def drained : Site → Driver Value
  | .callback => .polling
  | .run => .yielded

/-- The call of a task. Setting a promise twice throws. -/
def execute (state : State size Value) (site : Site) (throws : Bool) :
    Task Value → State size Value
  | .other => { state with driver := if throws then .threw else .draining site }
  | .completion done =>
      match state.promise done.job with
      | none =>
          { state with
            driver := .draining site
            promise := Function.update state.promise done.job (some done.outcome)
            executed := done :: state.executed }
      | some _ => { state with driver := .threw }

/-- A step of `run` up to its idle test. -/
def stepDriver (state : State size Value) : Action size Value → Option (State size Value)
  | .run =>
      match state.driver with
      | .outside | .idle _ | .stopped | .threw => some { state with driver := .top }
      | _ => none
  | .turn =>
      match state.driver with
      | .top => some { state with driver := if state.stopping then .stopped else .polling }
      | _ => none
  | .onAsync =>
      match state.driver with
      | .polling => some { state with driver := .draining .callback }
      | _ => none
  | .polled =>
      match state.driver with
      | .polling => some { state with driver := .draining .run }
      | _ => none
  | .take =>
      match state.driver with
      | .draining site =>
          match state.loopTasks with
          | [] => some { state with driver := drained site }
          | task :: rest => some { state with loopTasks := rest, driver := .executing site task }
      | _ => none
  | .execute throws =>
      match state.driver with
      | .executing site task => some (state.execute site throws task)
      | _ => none
  | .resumed =>
      match state.driver with
      | .yielded => some { state with driver := .readAlive }
      | _ => none
  | _ => none

/-- A read of the idle test. `&&` ends the test at the first one that is false. -/
def stepTest (state : State size Value) : Action size Value → Option (State size Value)
  | .readAlive alive =>
      match state.driver with
      | .readAlive => some { state with driver := if alive then .top else .readFibers }
      | _ => none
  | .readFibers =>
      match state.driver with
      | .readFibers =>
          some { state with driver := if state.activeFibers = 0 then .readBlocking else .top }
      | _ => none
  | .readBlocking =>
      match state.driver with
      | .readBlocking =>
          some { state with
            driver := if state.pool.pendingBlocking = 0 then .readTasks state.pool.calls else .top }
      | _ => none
  | .readTasks =>
      match state.driver with
      | .readTasks counted =>
          some { state with driver := if state.loopTasks.isEmpty then .idle counted else .top }
      | _ => none
  | _ => none

/-- A step of another thread or of a fiber. -/
def stepOther (state : State size Value) : Action size Value → Option (State size Value)
  | .pool action =>
      (state.pool.step action).map fun pool =>
        { state with pool, loopTasks := state.loopTasks ++ state.posts action }
  | .post => some { state with loopTasks := state.loopTasks ++ [.other] }
  | .spawn => some { state with activeFibers := state.activeFibers + 1 }
  | .fiberDone =>
      if 0 < state.activeFibers then some { state with activeFibers := state.activeFibers - 1 }
      else none
  | .stop => some { state with stopping := true }
  | _ => none

def step (state : State size Value) (action : Action size Value) : Option (State size Value) :=
  match action with
  | .run | .turn | .onAsync | .polled | .take | .execute _ | .resumed => state.stepDriver action
  | .readAlive _ | .readFibers | .readBlocking | .readTasks => state.stepTest action
  | _ => state.stepOther action

end State

/-- A loop with `size` workers, under any interleaving of its driver, its workers, the calls
of `run_blocking` and everybody who posts tasks. -/
def machine (size : Nat) (Value : Type u) : Machine (State size Value) (Action size Value) where
  step := State.step

def initial (size : Nat) (Value : Type u) : State size Value := {}

variable {size : Nat} {Value : Type u} {state next : State size Value}

/-- The completion in the hands of the driver, which has taken it and not called it yet. -/
def Driver.hand : Driver Value → List (Completion Value)
  | .executing _ task => task.completions
  | _ => []

/-- The completions that were posted and not executed. -/
def State.undone (state : State size Value) : List (Completion Value) :=
  state.loopTasks.flatMap Task.completions ++ state.driver.hand

/-- What the reads of the idle test have established about the calls counted before. -/
def State.Told (state : State size Value) : Driver Value → Prop
  | .readTasks counted => ∀ job ∈ counted, ∃ outcome, ⟨job, outcome⟩ ∈ state.pool.completions
  | .idle counted => ∀ job ∈ counted, ∃ outcome, ⟨job, outcome⟩ ∈ state.executed
  | _ => True

/-- What holds of the loop at every point. -/
structure Sound (state : State size Value) : Prop where
  pool : Workers.Invariant state.pool
  accounted : (state.undone ++ state.executed).Perm state.pool.completions
  promised : ∀ done ∈ state.executed, state.promise done.job = some done.outcome
  executed : ∀ job, state.promise job ≠ none → ∃ done ∈ state.executed, done.job = job
  told : state.Told state.driver

/-- A step of the driver that executes nothing. -/
theorem Sound.redirect (hsound : Sound state) (hpool : next.pool = state.pool)
    (hpromise : next.promise = state.promise) (hexecuted : next.executed = state.executed)
    (hundone : next.undone.Perm state.undone) (htold : next.Told next.driver) : Sound next := by
  refine ⟨hpool ▸ hsound.pool, ?_, ?_, ?_, htold⟩
  · rw [hexecuted, hpool]
    exact (hundone.append_right _).trans hsound.accounted
  · rw [hexecuted, hpromise]
    exact hsound.promised
  · rw [hexecuted, hpromise]
    exact hsound.executed

/-- The promise of a completion that is not executed is not set. -/
theorem Sound.promise_none (hsound : Sound state) {done : Completion Value}
    (hundone : done ∈ state.undone) : state.promise done.job = none := by
  by_contra hset
  obtain ⟨other, hother, hjob⟩ := hsound.executed done.job hset
  have hnodup := (hsound.accounted.map Completion.job).nodup_iff.mpr
    hsound.pool.traced.completions_nodup
  rw [List.map_append, List.nodup_append] at hnodup
  exact hnodup.2.2 _ (List.mem_map_of_mem hundone) _ (List.mem_map_of_mem hother) hjob.symm

/-- A completion is executed: it sets the promise of its call. -/
theorem Sound.execute (hsound : Sound state) {site : Site} {task : Task Value} (throws : Bool)
    (hdriver : state.driver = .executing site task) : Sound (state.execute site throws task) := by
  have hundone : state.undone = state.loopTasks.flatMap Task.completions ++ task.completions := by
    rw [State.undone, hdriver, Driver.hand]
  cases task with
  | other =>
      refine hsound.redirect rfl rfl rfl ?_ ?_
      · rw [hundone]
        cases throws <;> exact List.Perm.refl _
      · cases throws <;> trivial
  | completion done =>
      have hmem : done ∈ state.undone := by
        rw [hundone]
        simp [Task.completions]
      have hnone := hsound.promise_none hmem
      simp only [State.execute, hnone]
      refine ⟨hsound.pool, ?_, ?_, ?_, trivial⟩
      · refine List.Perm.trans ?_ hsound.accounted
        rw [hundone]
        simp [State.undone, Driver.hand, Task.completions]
      · intro other hother
        by_cases hjob : other.job = done.job
        · obtain rfl | hearlier := List.mem_cons.mp hother
          · simp
          · rw [← hjob, hsound.promised other hearlier] at hnone
            cases hnone
        · obtain rfl | hearlier := List.mem_cons.mp hother
          · exact absurd rfl hjob
          · simpa [Function.update_of_ne hjob] using hsound.promised other hearlier
      · intro job hset
        by_cases hjob : job = done.job
        · exact ⟨done, List.mem_cons_self, hjob.symm⟩
        · obtain ⟨other, hother, hsame⟩ := hsound.executed job (by simpa [hjob] using hset)
          exact ⟨other, List.mem_cons_of_mem _ hother, hsame⟩

/-- The driver moves on with nothing in its hands. -/
theorem Sound.moveOn (hsound : Sound state) {after : Driver Value}
    (hbefore : state.driver.hand = []) (hafter : after.hand = []) (htold : state.Told after) :
    Sound { state with driver := after } := by
  refine hsound.redirect rfl rfl rfl ?_ htold
  rw [State.undone, State.undone, hbefore, hafter]

theorem stepDriver_sound {action : Action size Value} (hsound : Sound state)
    (hstep : state.stepDriver action = some next) : Sound next := by
  cases action with
  | run =>
      simp only [State.stepDriver] at hstep
      split at hstep
      case h_5 => cases hstep
      all_goals
        next hdriver =>
          obtain rfl := Option.some.inj hstep
          exact hsound.moveOn (by rw [hdriver]; rfl) rfl trivial
  | turn =>
      simp only [State.stepDriver] at hstep
      split at hstep
      next hdriver =>
        obtain rfl := Option.some.inj hstep
        apply hsound.moveOn (by rw [hdriver]; rfl)
        · split <;> rfl
        · split <;> trivial
      next => cases hstep
  | onAsync | polled | resumed =>
      simp only [State.stepDriver] at hstep
      split at hstep
      next hdriver =>
        obtain rfl := Option.some.inj hstep
        exact hsound.moveOn (by rw [hdriver]; rfl) rfl trivial
      next => cases hstep
  | take =>
      simp only [State.stepDriver] at hstep
      split at hstep
      next site hdriver =>
        split at hstep
        next =>
          obtain rfl := Option.some.inj hstep
          apply hsound.moveOn (by rw [hdriver]; rfl)
          · cases site <;> rfl
          · cases site <;> trivial
        next task rest htasks =>
          obtain rfl := Option.some.inj hstep
          refine hsound.redirect rfl rfl rfl ?_ trivial
          simpa [State.undone, htasks, hdriver, Driver.hand] using List.perm_append_comm
      next => cases hstep
  | execute throws =>
      simp only [State.stepDriver] at hstep
      split at hstep
      next site task hdriver =>
        obtain rfl := Option.some.inj hstep
        exact hsound.execute throws hdriver
      next => cases hstep
  | _ => cases hstep

/-- With `loop_tasks_` empty and nothing in the hands of the driver, what was posted has
been executed. -/
theorem Sound.executed_of_empty (hsound : Sound state) (hempty : state.loopTasks = [])
    (hhand : state.driver.hand = []) {done : Completion Value}
    (hposted : done ∈ state.pool.completions) : done ∈ state.executed := by
  have hplaces := hsound.accounted.mem_iff.mpr hposted
  rwa [State.undone, hempty, hhand, List.flatMap_nil, List.nil_append, List.nil_append] at hplaces

/-- The read of `pending_blocking_` tells that the completions were posted, the read of
`loop_tasks_` that they were executed. -/
theorem stepTest_sound {action : Action size Value} (hsound : Sound state)
    (hstep : state.stepTest action = some next) : Sound next := by
  cases action with
  | readAlive _ | readFibers =>
      simp only [State.stepTest] at hstep
      split at hstep
      next hdriver =>
        obtain rfl := Option.some.inj hstep
        apply hsound.moveOn (by rw [hdriver]; rfl)
        · split <;> rfl
        · split <;> trivial
      next => cases hstep
  | readBlocking =>
      simp only [State.stepTest] at hstep
      split at hstep
      next hdriver =>
        obtain rfl := Option.some.inj hstep
        apply hsound.moveOn (by rw [hdriver]; rfl)
        · split <;> rfl
        · split
          next hzero => exact fun job hjob => hsound.pool.completed hzero hjob
          next => trivial
      next => cases hstep
  | readTasks =>
      simp only [State.stepTest] at hstep
      split at hstep
      next counted hdriver =>
        obtain rfl := Option.some.inj hstep
        have hhand : state.driver.hand = [] := by
          rw [hdriver]
          rfl
        have htold := hsound.told
        rw [hdriver] at htold
        apply hsound.moveOn hhand
        · split <;> rfl
        · split
          next hempty =>
            intro job hjob
            obtain ⟨outcome, hposted⟩ := htold job hjob
            exact ⟨outcome, hsound.executed_of_empty (List.isEmpty_iff.mp hempty) hhand hposted⟩
          next => trivial
      next => cases hstep
  | _ => cases hstep

/-- A step of the pool adds to the completions what it posts. -/
theorem pool_completions {action : Workers.Action size Value} {pool : Workers.State size Value}
    (hstep : state.pool.step action = some pool) :
    pool.completions = (state.posts action).flatMap Task.completions ++ state.pool.completions := by
  cases step_move hstep with
  | post worker job outcome hworker =>
      simp [State.posts, hworker, Workers.State.setWorker, Task.completions]
  | _ => rfl

theorem State.Told.grow {driver : Driver Value} (htold : state.Told driver)
    (hcompletions : state.pool.completions ⊆ next.pool.completions)
    (hexecuted : next.executed = state.executed) : next.Told driver := by
  cases driver with
  | readTasks counted => exact fun job hjob => (htold job hjob).imp fun _ => @hcompletions _
  | idle counted => exact fun job hjob => hexecuted ▸ htold job hjob
  | _ => trivial

theorem stepOther_sound {action : Action size Value} (hsound : Sound state)
    (hstep : state.stepOther action = some next) : Sound next := by
  cases action with
  | pool action =>
      simp only [State.stepOther, Option.map_eq_some_iff] at hstep
      obtain ⟨pool, hpool, rfl⟩ := hstep
      have hcompletions := pool_completions hpool
      refine ⟨step_invariant hsound.pool hpool, ?_, hsound.promised, hsound.executed,
        hsound.told.grow ?_ rfl⟩
      · have haccounted := hsound.accounted
        simp only [State.undone, List.append_assoc, List.flatMap_append] at haccounted ⊢
        rw [hcompletions]
        exact (List.perm_append_comm_assoc ..).trans (haccounted.append_left _)
      · rw [hcompletions]
        exact List.subset_append_right _ _
  | post =>
      obtain rfl := Option.some.inj hstep
      refine hsound.redirect rfl rfl rfl ?_ hsound.told
      simp [State.undone, Task.completions]
  | spawn =>
      obtain rfl := Option.some.inj hstep
      exact hsound.redirect rfl rfl rfl (List.Perm.refl _) hsound.told
  | stop =>
      obtain rfl := Option.some.inj hstep
      exact hsound.redirect rfl rfl rfl (List.Perm.refl _) hsound.told
  | fiberDone =>
      simp only [State.stepOther, Option.ite_none_right_eq_some, Option.some.injEq] at hstep
      obtain ⟨-, rfl⟩ := hstep
      exact hsound.redirect rfl rfl rfl (List.Perm.refl _) hsound.told
  | _ => cases hstep

theorem step_sound {action : Action size Value} (hsound : Sound state)
    (hstep : (machine size Value).step state action = some next) : Sound next := by
  simp only [machine, State.step] at hstep
  split at hstep
  iterate 7 exact stepDriver_sound hsound hstep
  iterate 4 exact stepTest_sound hsound hstep
  exact stepOther_sound hsound hstep

theorem sound_initial : Sound (initial size Value) where
  pool := initial_invariant
  accounted := List.Perm.refl _
  promised := nofun
  executed := nofun
  told := trivial

/-- When `idle` is computed true, the completion of every blocking job that was counted
before the read of `pending_blocking_` has been executed, and its promise is set. -/
theorem idle_overlooks_nothing (size : Nat) (Value : Type u) (state : State size Value)
    (counted : List JobId)
    (hreach : (machine size Value).Reachable (initial size Value) state)
    (hidle : state.driver = .idle counted) :
    ∀ job ∈ counted, ∃ outcome, ⟨job, outcome⟩ ∈ state.executed ∧
      state.promise job = some outcome := by
  have hsound : Sound state :=
    Machine.reachable_invariant (fun _ _ _ => step_sound) sound_initial hreach
  have htold := hsound.told
  rw [hidle] at htold
  intro job hjob
  obtain ⟨outcome, hexecuted⟩ := htold job hjob
  exact ⟨outcome, hexecuted, hsound.promised ⟨job, outcome⟩ hexecuted⟩

/-- Two jobs of one worker; the second is discounted while the driver is in its test. -/
def discountedLate : List (Action 2 Nat) :=
  [.run, .turn, .pool (.call 0), .pool (.call 1), .pool (.push 0), .pool (.push 1),
    .pool (.lock 0), .pool (.test 0), .pool (.take 0), .pool (.runTask 0 (.returned 7)),
    .pool (.post 0), .onAsync, .take, .execute false, .pool (.discount 0), .take, .post,
    .pool (.lock 0), .pool (.test 0), .pool (.take 0), .pool (.runTask 0 (.threw 3)),
    .pool (.post 0), .polled, .take, .execute false, .take, .execute false, .take, .resumed,
    .readAlive false, .readFibers, .pool (.discount 0), .readBlocking, .pool (.call 2), .readTasks]

theorem idle_overlooks_discountedLate :
    ∃ state, (machine 2 Nat).run discountedLate (initial 2 Nat) = some state ∧
      state.driver = .idle [1, 0] ∧
      ∀ job ∈ [1, 0], ∃ outcome, ⟨job, outcome⟩ ∈ state.executed ∧
        state.promise job = some outcome :=
  ⟨_, rfl, rfl, idle_overlooks_nothing 2 Nat _ [1, 0] ⟨discountedLate, rfl⟩ rfl⟩

end Fiberuv.EventLoop.IdleTest
