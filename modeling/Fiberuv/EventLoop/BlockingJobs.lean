import Fiberuv.EventLoop.JobStages

/-! # Blocking jobs run exactly once

A pool at rest has only parked and returned workers, so every job pushed before the pool
began to stop has gone through all its stages. The pool does come to rest: apart from new
calls and spurious wake-ups, every step lowers a measure of the work that is left.
-/

namespace Fiberuv.EventLoop.Workers

open Foundation

universe u

variable {size : Nat} {Value : Type u}

/-- The executions of one job. -/
def State.executionsOf (state : State size Value) (job : JobId) : List (Execution size Value) :=
  state.executions.filter fun execution => execution.job == job

/-- The completions posted for one job. -/
def State.completionsOf (state : State size Value) (job : JobId) : List (Completion Value) :=
  state.completions.filter fun completion => completion.job == job

/-- One worker executed the job once, and the job posted one completion, with its own
outcome, and decremented `pending_blocking_` once. -/
def RanOnce (state : State size Value) (job : JobId) : Prop :=
  ∃ worker outcome, state.executionsOf job = [⟨worker, job, outcome⟩] ∧
    state.completionsOf job = [⟨job, outcome⟩] ∧ state.discounted.count job = 1

/-- New calls and spurious wake-ups, which the pool does not owe anybody. -/
def Action.isExternal : Action size Value → Bool
  | .call _ | .wake _ => true
  | _ => false

/-- Nothing can happen any more, new calls and spurious wake-ups apart. -/
def Stuck (state : State size Value) : Prop :=
  ∀ action, (state.step action).isSome = true → action.isExternal = true

/-- What is promised of blocking jobs. -/
structure RunsOnce (state : State size Value) : Prop where
  /-- No job is executed twice. -/
  once : ∀ execution ∈ state.executions, state.executionsOf execution.job = [execution]
  /-- An executed job goes on to post its own outcome once and to decrement once. -/
  accounted : ∀ execution ∈ state.executions,
    state.workers execution.worker = .ran execution.job execution.outcome ∧
        state.completionsOf execution.job = [] ∧ state.discounted.count execution.job = 0 ∨
      state.workers execution.worker = .posted execution.job ∧
        state.completionsOf execution.job = [⟨execution.job, execution.outcome⟩] ∧
        state.discounted.count execution.job = 0 ∨
      RanOnce state execution.job
  unexecuted : ∀ job, state.executionsOf job = [] →
    state.completionsOf job = [] ∧ state.discounted.count job = 0
  balanced : state.pendingBlocking + state.discounted.length = state.calls.length
  beforeReturn : state.stopper = .returned → ∀ job ∈ state.inTime, RanOnce state job
  neverPopsEmpty : state.poppedEmpty = false
  noLostWakeup : ¬ LostWakeup state
  /-- The pool gets there: it cannot come to rest before. -/
  progress : Stuck state → (∀ job ∈ state.inTime, RanOnce state job) ∧
    (state.stopper = .idle ∨ state.stopper = .returned)

theorem ranOnce_of_finished {state : State size Value} {stage : JobId → Stage size Value}
    (hlogged : Logged state stage) {job : JobId} {worker : Fin size} {outcome : Outcome Value}
    (hstage : stage job = .finished worker outcome) : RanOnce state job := by
  refine ⟨worker, outcome, ?_, ?_, ?_⟩
  · rw [State.executionsOf, hlogged.executions, hstage]
    rfl
  · rw [State.completionsOf, hlogged.completions, hstage]
    rfl
  · rw [hlogged.discounted, hstage]
    rfl

/-- A job pushed in time that no worker has and that is not in the deque is finished. -/
theorem ranOnce_of_quiet {state : State size Value} (htraced : Traced state)
    (hfree : ∀ worker, (state.workers worker).job = none)
    (hdrained : state.blockingJobs = [] ∨ ∃ worker, state.workers worker = .exited) :
    ∀ job ∈ state.inTime, RanOnce state job := by
  obtain ⟨stage, hplaced, hlogged, htimely⟩ := htraced
  intro job hjob
  have hnowhere : (stage job).place job = none := by
    by_contra hsome
    obtain ⟨⟨worker, position⟩, hplace⟩ := Option.ne_none_iff_exists'.mp hsome
    have hworker := hfree worker
    rw [hplaced.placed job worker position hplace, place_job hplace] at hworker
    cases hworker
  have hpushed := htimely.pushed job hjob
  have hqueued : stage job ≠ .queued := by
    rcases hdrained with hempty | ⟨worker, hexited⟩
    · intro hqueued
      simpa [hempty] using (hplaced.queued job).mpr hqueued
    · exact htimely.drained worker hexited job hjob
  cases hstage : stage job with
  | finished worker outcome => exact ranOnce_of_finished hlogged hstage
  | _ => simp_all [Stage.place]

theorem accounted_of_logged {state : State size Value} {stage : JobId → Stage size Value}
    (hplaced : Placed state stage) (hlogged : Logged state stage)
    {execution : Execution size Value} (hmem : execution ∈ state.executions) :
    state.executionsOf execution.job = [execution] ∧
      (state.workers execution.worker = .ran execution.job execution.outcome ∧
          state.completionsOf execution.job = [] ∧ state.discounted.count execution.job = 0 ∨
        state.workers execution.worker = .posted execution.job ∧
          state.completionsOf execution.job = [⟨execution.job, execution.outcome⟩] ∧
          state.discounted.count execution.job = 0 ∨
        RanOnce state execution.job) := by
  have hfilter : execution ∈ state.executionsOf execution.job := by
    simpa [State.executionsOf] using hmem
  have hexecutions := hlogged.executions execution.job
  have hcompletions := hlogged.completions execution.job
  have hdiscounted := hlogged.discounted execution.job
  have hplace := hplaced.placed execution.job
  rw [State.executionsOf, hexecutions] at hfilter
  rw [State.executionsOf, State.completionsOf, hexecutions, hcompletions, hdiscounted]
  cases hstage : stage execution.job with
  | ran worker outcome =>
      simp only [hstage, Stage.executions, List.mem_singleton] at hfilter
      rw [hstage] at hplace
      refine ⟨by rw [hfilter]; rfl, Or.inl ⟨?_, rfl, rfl⟩⟩
      rw [hplace execution.worker (.ran execution.job execution.outcome) (by rw [hfilter]; rfl)]
  | posted worker outcome =>
      simp only [hstage, Stage.executions, List.mem_singleton] at hfilter
      rw [hstage] at hplace
      refine ⟨by rw [hfilter]; rfl, Or.inr (Or.inl ⟨?_, ?_, rfl⟩)⟩
      · rw [hplace execution.worker (.posted execution.job) (by rw [hfilter]; rfl)]
      · rw [hfilter]
        rfl
  | finished worker outcome =>
      simp only [hstage, Stage.executions, List.mem_singleton] at hfilter
      exact ⟨by rw [hfilter]; rfl, Or.inr (Or.inr (ranOnce_of_finished hlogged hstage))⟩
  | _ => simp [hstage, Stage.executions] at hfilter

theorem Stuck.mutex_free {state : State size Value} (hstuck : Stuck state)
    (hsound : Sound state) : state.mutex = none := by
  cases hmutex : state.mutex with
  | none => rfl
  | some worker =>
      exfalso
      have hfits := hsound.fits worker
      cases hworker : state.workers worker with
      | testing notified =>
          have hstep := hstuck (.test worker) (by simp [State.step, State.stepWorker, hworker])
          cases hstep
      | leaving =>
          have hstep := hstuck (.park worker) (by simp [State.step, State.stepWorker, hworker])
          cases hstep
      | passed notified =>
          have hstep := hstuck (.take worker) (by simp [State.step, State.stepWorker, hworker])
          cases hstep
      | _ => simp_all [Worker.Fits]

/-- In a pool at rest every worker is parked or has returned. -/
theorem Stuck.workers_quiet {state : State size Value} (hstuck : Stuck state)
    (hsound : Sound state) (worker : Fin size) :
    state.workers worker = .parked ∨ state.workers worker = .exited := by
  have hfree := hstuck.mutex_free hsound
  have hfits := hsound.fits worker
  cases hworker : state.workers worker with
  | parked => exact Or.inl rfl
  | exited => exact Or.inr rfl
  | acquiring notified =>
      have hstep := hstuck (.lock worker) (by simp [State.step, State.stepWorker, hworker, hfree])
      cases hstep
  | holding job =>
      have hstep := hstuck (.runTask worker (.threw 0))
        (by simp [State.step, State.stepWorker, hworker])
      cases hstep
  | ran job outcome =>
      have hstep := hstuck (.post worker) (by simp [State.step, State.stepWorker, hworker])
      cases hstep
  | posted job =>
      have hstep := hstuck (.discount worker) (by simp [State.step, State.stepWorker, hworker])
      cases hstep
  | _ => simp_all [Worker.Fits]

theorem Stuck.notifying_nil {state : State size Value} (hstuck : Stuck state) :
    state.notifying = [] := by
  cases hnotifying : state.notifying with
  | nil => rfl
  | cons job rest =>
      have hjob : job ∈ state.notifying := by simp [hnotifying]
      by_cases hparked : ∃ worker, state.workers worker = .parked
      · obtain ⟨worker, hworker⟩ := hparked
        have hstep := hstuck (.notifyOne job (some worker))
          (by simp [State.step, State.notifyOne, hjob, hworker, Worker.isParked])
        cases hstep
      · have hnobody : ∀ worker, (state.workers worker).isParked = false := by
          intro worker
          rw [← Bool.not_eq_true, isParked_iff]
          exact fun hworker => hparked ⟨worker, hworker⟩
        have hstep := hstuck (.notifyOne job none)
          (by simp [State.step, hjob, State.notifyOne, hnobody])
        cases hstep

/-- In a pool at rest `stop_workers` was not called, or has returned. -/
theorem Stuck.stopper_quiet {state : State size Value} (hstuck : Stuck state)
    (hsound : Sound state) : state.stopper = .idle ∨ state.stopper = .returned := by
  cases hstopper : state.stopper with
  | idle => exact Or.inl rfl
  | returned => exact Or.inr rfl
  | notifying =>
      have hstep := hstuck .stopNotify (by simp [State.step, State.stepStop, hstopper])
      cases hstep
  | joining joined =>
      by_cases hjoined : joined < size
      · have hexited : state.workers ⟨joined, hjoined⟩ = .exited := by
          rcases hstuck.workers_quiet hsound ⟨joined, hjoined⟩ with hparked | hexited
          · have hfits := hsound.fits ⟨joined, hjoined⟩
            rw [hparked] at hfits
            simpa [hstopper, Stopper.hasNotified] using hfits.2
          · exact hexited
        have hstep := hstuck .stopJoin
          (by simp [State.step, State.stepStop, hstopper, hjoined, hexited, Worker.isExited])
        cases hstep
      · have hstep := hstuck .stopJoin
          (by simp [State.step, State.stepStop, hstopper, hjoined])
        cases hstep

/-- A pool with a worker does not come to rest before the jobs pushed in time have run. -/
theorem Stuck.ranOnce {state : State size Value} (hstuck : Stuck state) (hinv : Invariant state)
    (hsize : 0 < size) : ∀ job ∈ state.inTime, RanOnce state job := by
  refine ranOnce_of_quiet hinv.traced (fun worker => ?_) ?_
  · rcases hstuck.workers_quiet hinv.sound worker with hworker | hworker <;> rw [hworker] <;> rfl
  · rcases hstuck.workers_quiet hinv.sound ⟨0, hsize⟩ with hparked | hexited
    · -- The parked worker would have been woken for a job.
      by_cases hexited : ∃ worker, state.workers worker = .exited
      · exact Or.inr hexited
      refine Or.inl (by_contra fun hjobs => noLostWakeup_of_covered hinv.covered ?_)
      refine ⟨⟨_, hparked⟩, hjobs, fun worker => ?_, hstuck.notifying_nil, ?_⟩
      · rcases hstuck.workers_quiet hinv.sound worker with hworker | hworker <;>
          rw [hworker] <;> rfl
      · rcases hstuck.stopper_quiet hinv.sound with hstopper | hstopper <;> simp [hstopper]
    · exact Or.inr ⟨_, hexited⟩

theorem Invariant.runsOnce {state : State size Value} (hinv : Invariant state)
    (hsize : 0 < size) : RunsOnce state := by
  obtain ⟨stage, hplaced, hlogged, htimely⟩ := hinv.traced
  refine ⟨?_, ?_, ?_, hinv.balanced, ?_, hinv.sound.popped,
    noLostWakeup_of_covered hinv.covered, ?_⟩
  · exact fun execution hmem => (accounted_of_logged hplaced hlogged hmem).1
  · exact fun execution hmem => (accounted_of_logged hplaced hlogged hmem).2
  · intro job hnone
    rw [State.executionsOf, hlogged.executions] at hnone
    rw [State.completionsOf, hlogged.completions, hlogged.discounted]
    cases hstage : stage job <;> simp_all [Stage.executions, Stage.completions, Stage.discounts]
  · intro hreturned
    have hexited : ∀ worker, state.workers worker = .exited := by
      intro worker
      refine hinv.sound.joined worker ?_
      rw [hreturned]
      exact worker.isLt
    refine ranOnce_of_quiet hinv.traced (fun worker => ?_) (Or.inr ⟨⟨0, hsize⟩, hexited _⟩)
    rw [hexited worker]
    rfl
  · exact fun hstuck => ⟨hstuck.ranOnce hinv hsize, hstuck.stopper_quiet hinv.sound⟩

/-- How many more steps a worker can take before it parks or returns. -/
def Worker.weight : Worker Value → Nat
  | .parked | .exited => 0
  | .leaving => 1
  | .passed _ => 2
  | .testing _ => 3
  | .acquiring _ => 4
  | .posted _ => 5
  | .ran _ _ => 6
  | .holding _ => 7

/-- How many more steps `stop_workers` can cause. -/
def Stopper.weight (size : Nat) : Stopper → Nat
  | .idle => 5 * size + 3
  | .notifying => 5 * size + 2
  | .joining joined => size - joined + 1
  | .returned => 0

/-- A bound on the steps that are left when there are no new calls and no spurious
wake-ups. -/
def State.measure (state : State size Value) : Nat :=
  tally state.workers Worker.weight + state.stopper.weight size +
    6 * state.blockingJobs.length + 5 * state.notifying.length + 12 * state.counted.length

/-- A step of one worker to a lighter position. -/
theorem measure_setWorker_lt {state base : State size Value} {worker : Fin size}
    {before position : Worker Value} (hbefore : base.workers worker = before)
    (hbase : base.measure + position.weight < state.measure + before.weight) :
    (base.setWorker worker position).measure < state.measure := by
  have htally : tally (Function.update base.workers worker position) Worker.weight +
      (base.workers worker).weight = tally base.workers Worker.weight + position.weight :=
    tally_update Worker.weight
  rw [hbefore] at htally
  simp only [State.measure, State.setWorker] at hbase ⊢
  omega

/-- `notify_all` causes at most four steps of each worker. -/
theorem tally_notifyAll_le (state : State size Value) :
    tally state.notifyAll.workers Worker.weight ≤
      tally state.workers Worker.weight + 4 * size := by
  have heach : ∀ worker, (state.notifyAll.workers worker).weight ≤
      (state.workers worker).weight + 4 := by
    intro worker
    simp only [State.notifyAll]
    split
    · simp [Worker.weight]
    · omega
  simpa only [Fintype.card_fin] using tally_le heach

theorem move_measure_lt {state next : State size Value} {action : Action size Value}
    (hsound : Sound state) (hmove : Move state action next)
    (hinternal : action.isExternal = false) : next.measure < state.measure := by
  cases hmove with
  | call job hfresh => cases hinternal
  | wake worker hworker => cases hinternal
  | push job hjob hfree =>
      have hfewer := List.length_erase_of_mem hjob
      have hpositive := List.length_pos_of_mem hjob
      simp only [State.measure, State.push, List.length_append, List.length_cons, List.length_nil]
      omega
  | notifyOne job worker hjob hparked =>
      have hfewer := List.length_erase_of_mem hjob
      have hpositive := List.length_pos_of_mem hjob
      refine measure_setWorker_lt hparked ?_
      simp only [State.measure, State.notified, Worker.weight]
      omega
  | notifyNobody job hjob hnobody =>
      have hfewer := List.length_erase_of_mem hjob
      have hpositive := List.length_pos_of_mem hjob
      simp only [State.measure, State.notified]
      omega
  | pop worker notified job rest hworker hjobs =>
      refine measure_setWorker_lt hworker ?_
      simp only [State.measure, hjobs, List.length_cons, Worker.weight]
      omega
  | popEmpty worker notified hworker hover =>
      have hfits := hsound.fits_of_eq hworker
      simp [hfits.2] at hover
  | lock worker notified hworker hfree =>
      exact measure_setWorker_lt hworker (Nat.add_lt_add_left (by simp [Worker.weight]) _)
  | pass worker notified hworker hover | leave worker notified hworker hover =>
      exact measure_setWorker_lt hworker (Nat.add_lt_add_left (by simp [Worker.weight]) _)
  | park worker hworker =>
      exact measure_setWorker_lt hworker (Nat.add_lt_add_left (by simp [Worker.weight]) _)
  | exit worker notified hworker hstopping hempty =>
      exact measure_setWorker_lt hworker (Nat.add_lt_add_left (by simp [Worker.weight]) _)
  | runTask worker job outcome hworker | post worker job outcome hworker =>
      exact measure_setWorker_lt hworker (Nat.add_lt_add_left (by simp [Worker.weight]) _)
  | discount worker job hworker =>
      exact measure_setWorker_lt hworker (Nat.add_lt_add_left (by simp [Worker.weight]) _)
  | stopWorkers hidle hfree =>
      simp only [State.measure, hidle, Stopper.weight]
      omega
  | stopNotify hnotifying =>
      have hcost := tally_notifyAll_le state
      simp only [State.measure, State.notifyAll, hnotifying, Stopper.weight] at hcost ⊢
      omega
  | stopJoin worker hjoining hexited =>
      have hlt := worker.isLt
      simp only [State.measure, hjoining, Stopper.weight]
      omega
  | stopReturn joined hjoining hall =>
      simp only [State.measure, hjoining, Stopper.weight]
      omega

theorem move_measure_le {state next : State size Value} {action : Action size Value}
    (hmove : Move state action next) (hexternal : action.isExternal = true) :
    next.measure ≤ state.measure + 12 := by
  cases hmove with
  | call job hfresh =>
      simp only [State.measure, State.call, List.length_cons]
      omega
  | wake worker hworker =>
      have htally : tally (Function.update state.workers worker (.acquiring false)) Worker.weight +
          (state.workers worker).weight = tally state.workers Worker.weight + 4 :=
        tally_update Worker.weight
      simp only [State.measure, State.setWorker]
      omega
  | _ => cases hexternal

/-- A run is finite up to new calls and spurious wake-ups: its other steps are bounded by
their number and by the size of the pool. -/
theorem internal_steps_le (actions : List (Action size Value)) (state : State size Value)
    (hrun : (machine size Value).run actions (initial size Value) = some state) :
    actions.countP (fun action => !action.isExternal) ≤
      9 * size + 3 + 12 * actions.countP (fun action => action.isExternal) := by
  have hlower : ∀ (before : State size Value) action after, Invariant before →
      (!action.isExternal) = true → (machine size Value).step before action = some after →
      after.measure < before.measure := by
    intro before action after hinv hinternal hstep
    exact move_measure_lt hinv.sound (step_move hstep) (by simpa using hinternal)
  have hraise : ∀ (before : State size Value) action after, Invariant before →
      (!action.isExternal) = false → (machine size Value).step before action = some after →
      after.measure ≤ before.measure + 12 := by
    intro before action after _ hexternal hstep
    exact move_measure_le (step_move hstep) (by simpa using hexternal)
  have hbound := Machine.run_amortized (fun _ _ _ => step_invariant) hlower hraise actions
    (initial size Value) state initial_invariant hrun
  have hinitial : (initial size Value).measure = 9 * size + 3 := by
    simp only [State.measure, initial, tally_const, Fintype.card_fin, Worker.weight,
      Stopper.weight, List.length_nil]
    omega
  rw [hinitial] at hbound
  simp only [Bool.not_not] at hbound
  omega

/-- Every blocking job pushed before `stop_workers` sets its flag runs exactly once, for
any number of workers and callers and in every interleaving. -/
theorem blockingJobs_runOnce (blockingThreads hardware : Nat)
    (state : State (workerCount blockingThreads hardware) Value)
    (hreach : (machine _ Value).Reachable (initial _ Value) state) : RunsOnce state :=
  (reachable_invariant hreach).runsOnce (workerCount_pos blockingThreads hardware)

/-- One worker is parked when a call pushes its job, runs it and returns after
`stop_workers` was called. -/
def stoppedRun : List (Action 1 Nat) :=
  [.lock 0, .test 0, .park 0, .call 7, .push 7, .stopWorkers, .notifyOne 7 (some 0), .lock 0,
    .test 0, .take 0, .stopNotify, .runTask 0 (.returned 5), .post 0, .discount 0, .lock 0,
    .test 0, .take 0, .stopJoin, .stopJoin]

theorem blockingJobs_runOnce_stopped :
    ∃ state, (machine 1 Nat).run stoppedRun (initial 1 Nat) = some state ∧
      state.stopper = .returned ∧ 7 ∈ state.inTime ∧ RunsOnce state :=
  ⟨_, rfl, rfl, by decide, blockingJobs_runOnce 1 0 _ ⟨stoppedRun, rfl⟩⟩

end Fiberuv.EventLoop.Workers
