import Fiberuv.EventLoop.WorkerWakeups

/-! # The stages of a blocking job

Every job is traced through its stages: called, queued, held by one worker, run, posted
and discounted. The trace is what relates the calls, the deque, the workers and the logs
of executions and completions. A job in the deque when the pool begins to stop is taken
by a worker before any of them returns.
-/

namespace Fiberuv.EventLoop.Workers

open Foundation

universe u

variable {size : Nat} {Value : Type u}

/-- How far a job has come. -/
inductive Stage (size : Nat) (Value : Type u) where
  | absent
  | counted
  | queued
  | held (worker : Fin size)
  | ran (worker : Fin size) (outcome : Outcome Value)
  | posted (worker : Fin size) (outcome : Outcome Value)
  | finished (worker : Fin size) (outcome : Outcome Value)

namespace Stage

/-- The executions a job at this stage has had. -/
def executions (job : JobId) : Stage size Value → List (Execution size Value)
  | .ran worker outcome | .posted worker outcome | .finished worker outcome =>
      [⟨worker, job, outcome⟩]
  | _ => []

/-- The completions a job at this stage has posted. -/
def completions (job : JobId) : Stage size Value → List (Completion Value)
  | .posted _ outcome | .finished _ outcome => [⟨job, outcome⟩]
  | _ => []

/-- The worker that has a job at this stage, and its position. -/
def place (job : JobId) : Stage size Value → Option (Fin size × Worker Value)
  | .held worker => some (worker, .holding job)
  | .ran worker outcome => some (worker, .ran job outcome)
  | .posted worker _ => some (worker, .posted job)
  | _ => none

/-- A worker has taken the job. -/
def isTaken : Stage size Value → Bool
  | .absent | .counted | .queued => false
  | _ => true

/-- How often a job at this stage has decremented `pending_blocking_`. -/
def discounts : Stage size Value → Nat
  | .finished _ _ => 1
  | _ => 0

end Stage

def Worker.job : Worker Value → Option JobId
  | .holding job | .ran job _ | .posted job => some job
  | _ => none

theorem place_job {job : JobId} {stage : Stage size Value} {worker : Fin size}
    {position : Worker Value} (hplace : stage.place job = some (worker, position)) :
    position.job = some job := by
  cases stage <;> simp only [Stage.place, Option.some.injEq, Prod.mk.injEq, reduceCtorEq] at hplace
  all_goals rw [← hplace.2]; rfl

/-- The stages of the jobs agree with the calls, the deque and the workers. -/
structure Placed (state : State size Value) (stage : JobId → Stage size Value) : Prop where
  calls : ∀ job, job ∈ state.calls ↔ stage job ≠ .absent
  counted : ∀ job, job ∈ state.counted ↔ stage job = .counted
  counted_nodup : state.counted.Nodup
  queued : ∀ job, job ∈ state.blockingJobs ↔ stage job = .queued
  queued_nodup : state.blockingJobs.Nodup
  placed : ∀ job worker position, (stage job).place job = some (worker, position) →
    state.workers worker = position
  busy : ∀ job worker, (state.workers worker).job = some job →
    ∃ position, (stage job).place job = some (worker, position)

/-- The stages of the jobs agree with what they have left behind. -/
structure Logged (state : State size Value) (stage : JobId → Stage size Value) : Prop where
  executions : ∀ job, state.executions.filter (fun execution => execution.job == job) =
    (stage job).executions job
  completions : ∀ job, state.completions.filter (fun completion => completion.job == job) =
    (stage job).completions job
  discounted : ∀ job, state.discounted.count job = (stage job).discounts

/-- Jobs pushed in time are past their call, and past the deque once a worker has
returned. -/
structure Timely (state : State size Value) (stage : JobId → Stage size Value) : Prop where
  pushed : ∀ job ∈ state.inTime, stage job ≠ .absent ∧ stage job ≠ .counted
  drained : ∀ worker, state.workers worker = .exited → ∀ job ∈ state.inTime, stage job ≠ .queued

theorem Placed.frame {state next : State size Value} {stage : JobId → Stage size Value}
    (hplaced : Placed state stage) (hcalls : next.calls = state.calls)
    (hcounted : next.counted = state.counted) (hjobs : next.blockingJobs = state.blockingJobs)
    (hworkers : ∀ worker, next.workers worker = state.workers worker ∨
      (next.workers worker).job = none ∧ (state.workers worker).job = none) :
    Placed next stage := by
  refine ⟨hcalls ▸ hplaced.calls, hcounted ▸ hplaced.counted, hcounted ▸ hplaced.counted_nodup,
    hjobs ▸ hplaced.queued, hjobs ▸ hplaced.queued_nodup, ?_, ?_⟩
  · intro job worker position hplace
    have hbefore := hplaced.placed job worker position hplace
    rcases hworkers worker with hsame | ⟨_, hfree⟩
    · exact hsame.trans hbefore
    · rw [hbefore, place_job hplace] at hfree
      cases hfree
  · intro job worker hjob
    rcases hworkers worker with hsame | ⟨hfree, _⟩
    · exact hplaced.busy job worker (hsame ▸ hjob)
    · simp [hfree] at hjob

/-- The worker that has a job says at which stage it is. -/
theorem Placed.place_eq {state : State size Value} {stage : JobId → Stage size Value}
    (hplaced : Placed state stage) {job : JobId} {worker : Fin size}
    (hjob : (state.workers worker).job = some job) :
    (stage job).place job = some (worker, state.workers worker) := by
  obtain ⟨position, hplace⟩ := hplaced.busy job worker hjob
  rw [hplace, hplaced.placed job worker position hplace]

/-- A worker takes a job, or takes the job it has one stage further. -/
theorem Placed.handOver {state base : State size Value} {stage : JobId → Stage size Value}
    (hplaced : Placed state stage) {job : JobId} {worker : Fin size} {position : Worker Value}
    {reached : Stage size Value} (hcalls : base.calls = state.calls)
    (hcounted : base.counted = state.counted) (hworkers : base.workers = state.workers)
    (hjobs : ∀ other, other ∈ base.blockingJobs ↔ other ∈ state.blockingJobs ∧ other ≠ job)
    (hnodup : base.blockingJobs.Nodup)
    (hbefore : stage job = .queued ∧ (state.workers worker).job = none ∨
      (state.workers worker).job = some job)
    (htaken : reached.isTaken = true)
    (hreached : reached.place job = some (worker, position) ∨
      reached.place job = none ∧ position.job = none) :
    Placed (base.setWorker worker position) (Function.update stage job reached) := by
  have hknown : stage job ≠ .absent ∧ stage job ≠ .counted := by
    rcases hbefore with ⟨hqueued, _⟩ | hjob
    · simp [hqueued]
    · have hplace := hplaced.place_eq hjob
      constructor <;> intro hstage <;> simp [hstage, Stage.place] at hplace
  -- Nobody but this worker has the job.
  have halone : ∀ other, (state.workers other).job = some job → other = worker := by
    intro other hother
    have hplace := hplaced.place_eq hother
    rcases hbefore with ⟨hqueued, _⟩ | hjob
    · simp [hqueued, Stage.place] at hplace
    · rw [hplaced.place_eq hjob] at hplace
      simp only [Option.some.injEq, Prod.mk.injEq] at hplace
      exact hplace.1.symm
  refine ⟨?_, ?_, hcounted ▸ hplaced.counted_nodup, ?_, hnodup, ?_, ?_⟩
  · intro other
    by_cases heq : other = job
    · subst other
      have hne : reached ≠ .absent := fun heq => by simp [heq, Stage.isTaken] at htaken
      simpa [State.setWorker, hcalls, hplaced.calls job, hknown.1] using hne
    · simpa [State.setWorker, hcalls, heq] using hplaced.calls other
  · intro other
    by_cases heq : other = job
    · subst other
      have hne : reached ≠ .counted := fun heq => by simp [heq, Stage.isTaken] at htaken
      simpa [State.setWorker, hcounted, hplaced.counted job, hknown.2] using hne
    · simpa [State.setWorker, hcounted, heq] using hplaced.counted other
  · intro other
    by_cases heq : other = job
    · subst other
      have hne : reached ≠ .queued := fun heq => by simp [heq, Stage.isTaken] at htaken
      simpa [State.setWorker, hjobs job] using hne
    · simpa [State.setWorker, hjobs other, heq] using hplaced.queued other
  · intro other holder held hplace
    by_cases heq : other = job
    · subst other
      rw [Function.update_self] at hplace
      rcases hreached with hsome | ⟨hnone, _⟩
      · rw [hsome] at hplace
        simp only [Option.some.injEq, Prod.mk.injEq] at hplace
        obtain ⟨rfl, rfl⟩ := hplace
        simp [State.setWorker]
      · simp [hnone] at hplace
    · rw [Function.update_of_ne heq] at hplace
      have hholder := hplaced.placed other holder held hplace
      have hjob := place_job hplace
      have hne : holder ≠ worker := by
        intro hsame
        rw [← hsame, hholder, hjob] at hbefore
        rcases hbefore with ⟨_, hnone⟩ | hsome
        · cases hnone
        · exact heq (Option.some.inj hsome)
      simpa [State.setWorker, hne, hworkers] using hholder
  · intro other holder hholder
    by_cases hsame : holder = worker
    · subst holder
      simp only [State.setWorker, Function.update_self] at hholder
      rcases hreached with hsome | ⟨_, hfree⟩
      · have hjob := place_job hsome
        rw [hholder] at hjob
        obtain rfl := Option.some.inj hjob
        exact ⟨position, by simpa using hsome⟩
      · simp [hfree] at hholder
    · simp only [State.setWorker, Function.update_of_ne hsame, hworkers] at hholder
      have hne : other ≠ job := fun heq => hsame (halone holder (heq ▸ hholder))
      rw [Function.update_of_ne hne]
      exact hplaced.busy other holder hholder

/-- There are stages that account for every job. -/
def Traced (state : State size Value) : Prop :=
  ∃ stage, Placed state stage ∧ Logged state stage ∧ Timely state stage

/-- What the stages of the jobs are read off, apart from the workers. -/
def State.records (state : State size Value) :=
  (state.calls, state.counted, state.blockingJobs, state.inTime, state.executions,
    state.completions, state.discounted)

/-- A step that leaves the records and the workers with jobs alone. -/
theorem Traced.frame {state next : State size Value} (htraced : Traced state)
    (hrecords : next.records = state.records)
    (hworkers : ∀ worker, next.workers worker = state.workers worker ∨
      (next.workers worker).job = none ∧ (state.workers worker).job = none)
    (hexited : ∀ worker, next.workers worker = .exited →
      state.workers worker = .exited ∨ state.blockingJobs = []) : Traced next := by
  obtain ⟨stage, hplaced, hlogged, htimely⟩ := htraced
  simp only [State.records, Prod.mk.injEq] at hrecords
  obtain ⟨hcalls, hcounted, hjobs, hinTime, hexecutions, hcompletions, hdiscounted⟩ := hrecords
  refine ⟨stage, hplaced.frame hcalls hcounted hjobs hworkers, ?_, hinTime ▸ htimely.pushed, ?_⟩
  · exact ⟨hexecutions ▸ hlogged.executions, hcompletions ▸ hlogged.completions,
      hdiscounted ▸ hlogged.discounted⟩
  · intro worker hworker job hjob hqueued
    rw [hinTime] at hjob
    rcases hexited worker hworker with hearlier | hempty
    · exact htimely.drained worker hearlier job hjob hqueued
    · simpa [hempty] using (hplaced.queued job).mpr hqueued

/-- A step of one worker from a position without a job to another such position. -/
theorem Traced.setWorker {state base : State size Value} (htraced : Traced state)
    {worker : Fin size} {position : Worker Value} (hrecords : base.records = state.records)
    (hworkers : base.workers = state.workers) (hposition : position.job = none)
    (hbefore : (state.workers worker).job = none)
    (hexit : position = .exited → state.blockingJobs = []) :
    Traced (base.setWorker worker position) := by
  refine htraced.frame hrecords ?_ ?_
  · intro other
    by_cases heq : other = worker
    · subst other
      exact Or.inr ⟨by simpa [State.setWorker] using hposition, hbefore⟩
    · exact Or.inl (by simp [State.setWorker, heq, hworkers])
  · intro other hother
    simp only [State.setWorker, hworkers] at hother
    by_cases heq : other = worker
    · subst other
      exact Or.inr (hexit (by simpa using hother))
    · exact Or.inl (by simpa [heq] using hother)

theorem call_traced {state : State size Value} (htraced : Traced state) {job : JobId}
    (hfresh : job ∉ state.calls) : Traced (state.call job) := by
  obtain ⟨stage, hplaced, hlogged, htimely⟩ := htraced
  have habsent : stage job = .absent := by simpa [hplaced.calls job] using hfresh
  refine ⟨Function.update stage job .counted, ?_, ?_, ?_⟩
  · obtain ⟨calls, counted, counted_nodup, queued, queued_nodup, placed, busy⟩ := hplaced
    constructor <;> simp only [State.call] <;> grind [Stage.place]
  · obtain ⟨executions, completions, discounted⟩ := hlogged
    constructor <;> simp only [State.call] <;>
      grind [Stage.executions, Stage.completions, Stage.discounts]
  · obtain ⟨pushed, drained⟩ := htimely
    constructor <;> simp only [State.call] <;> grind

theorem push_traced {state : State size Value} (hsound : Sound state) (htraced : Traced state)
    {job : JobId} (hjob : job ∈ state.counted) : Traced (state.push job) := by
  obtain ⟨stage, hplaced, hlogged, htimely⟩ := htraced
  have hcounted : stage job = .counted := (hplaced.counted job).mp hjob
  refine ⟨Function.update stage job .queued, ?_, ?_, ?_⟩
  · obtain ⟨calls, counted, counted_nodup, queued, queued_nodup, placed, busy⟩ := hplaced
    constructor <;> simp only [State.push] <;> grind [List.Nodup.mem_erase_iff, Stage.place]
  · obtain ⟨executions, completions, discounted⟩ := hlogged
    constructor <;> simp only [State.push] <;>
      grind [Stage.executions, Stage.completions, Stage.discounts]
  · -- Once a worker has returned the pool is stopping and the job is late.
    have hexited : ∀ worker, state.workers worker = .exited → state.workersStopping = true := by
      intro worker hworker
      have hfits := hsound.fits_of_eq hworker
      exact hfits.2
    obtain ⟨pushed, drained⟩ := htimely
    constructor <;> simp only [State.push] <;> grind

/-- A worker takes a job, or takes the job it has one stage further, and logs it. -/
theorem Traced.handOver {state base : State size Value} {stage : JobId → Stage size Value}
    (hplaced : Placed state stage) (htimely : Timely state stage) {job : JobId}
    {worker : Fin size} {position : Worker Value} (reached : Stage size Value)
    (hcalls : base.calls = state.calls) (hcounted : base.counted = state.counted)
    (hworkers : base.workers = state.workers) (hinTime : base.inTime = state.inTime)
    (hjobs : ∀ other, other ∈ base.blockingJobs ↔ other ∈ state.blockingJobs ∧ other ≠ job)
    (hnodup : base.blockingJobs.Nodup)
    (hbefore : stage job = .queued ∧ (state.workers worker).job = none ∨
      (state.workers worker).job = some job)
    (htaken : reached.isTaken = true)
    (hreached : reached.place job = some (worker, position) ∨
      reached.place job = none ∧ position.job = none)
    (hposition : position ≠ .exited)
    (hlogged : Logged base (Function.update stage job reached)) :
    Traced (base.setWorker worker position) := by
  refine ⟨Function.update stage job reached, ?_, ⟨hlogged.executions, hlogged.completions,
    hlogged.discounted⟩, ?_⟩
  · exact hplaced.handOver hcalls hcounted hworkers hjobs hnodup hbefore htaken hreached
  · obtain ⟨pushed, drained⟩ := htimely
    constructor <;> simp only [State.setWorker, hworkers, hinTime] <;> grind [Stage.isTaken]

theorem pop_traced {state : State size Value} (htraced : Traced state) {worker : Fin size}
    {notified : Bool} {job : JobId} {rest : List JobId}
    (hworker : state.workers worker = .passed notified)
    (hjobs : state.blockingJobs = job :: rest) :
    Traced ({ state with mutex := none, blockingJobs := rest }.setWorker worker
      (.holding job)) := by
  obtain ⟨stage, hplaced, hlogged, htimely⟩ := htraced
  have hqueued : stage job = .queued := (hplaced.queued job).mp (by simp [hjobs])
  have hnodup : (job :: rest).Nodup := hjobs ▸ hplaced.queued_nodup
  refine Traced.handOver hplaced htimely (.held worker) rfl rfl rfl rfl ?_
    hnodup.of_cons (Or.inl ⟨hqueued, by rw [hworker]; rfl⟩) rfl (Or.inl rfl) (by simp) ?_
  · intro other
    have hnot := (List.nodup_cons.mp hnodup).1
    grind
  · obtain ⟨executions, completions, discounted⟩ := hlogged
    constructor <;> grind [Stage.executions, Stage.completions, Stage.discounts]

/-- A worker takes the job it has one stage further and logs it. -/
theorem Traced.advance {state base : State size Value} {stage : JobId → Stage size Value}
    (hplaced : Placed state stage) (htimely : Timely state stage) {job : JobId}
    {worker : Fin size} {position : Worker Value} (reached : Stage size Value)
    (hcalls : base.calls = state.calls) (hcounted : base.counted = state.counted)
    (hworkers : base.workers = state.workers) (hinTime : base.inTime = state.inTime)
    (hjobs : base.blockingJobs = state.blockingJobs)
    (hbefore : (state.workers worker).job = some job) (htaken : reached.isTaken = true)
    (hreached : reached.place job = some (worker, position) ∨
      reached.place job = none ∧ position.job = none)
    (hposition : position ≠ .exited)
    (hlogged : Logged base (Function.update stage job reached)) :
    Traced (base.setWorker worker position) := by
  have hnot : job ∉ state.blockingJobs := by
    intro hjob
    have hplace := hplaced.place_eq hbefore
    simp [(hplaced.queued job).mp hjob, Stage.place] at hplace
  refine Traced.handOver hplaced htimely reached hcalls hcounted hworkers hinTime ?_
    (hjobs ▸ hplaced.queued_nodup) (Or.inr hbefore) htaken hreached hposition hlogged
  intro other
  rw [hjobs]
  exact ⟨fun hother => ⟨hother, fun heq => hnot (heq ▸ hother)⟩, And.left⟩

theorem runTask_traced {state : State size Value} (htraced : Traced state) {worker : Fin size}
    {job : JobId} {outcome : Outcome Value} (hworker : state.workers worker = .holding job) :
    Traced ({ state with executions := ⟨worker, job, outcome⟩ :: state.executions }.setWorker
      worker (.ran job outcome)) := by
  obtain ⟨stage, hplaced, hlogged, htimely⟩ := htraced
  have hjob : (state.workers worker).job = some job := by rw [hworker]; rfl
  have hstage : stage job = .held worker := by
    have hplace := hplaced.place_eq hjob
    rw [hworker] at hplace
    cases hstage : stage job <;> simp_all [Stage.place]
  refine Traced.advance hplaced htimely (.ran worker outcome) rfl rfl rfl rfl rfl hjob
    rfl (Or.inl rfl) (by simp) ?_
  obtain ⟨executions, completions, discounted⟩ := hlogged
  constructor <;> grind [Stage.executions, Stage.completions, Stage.discounts]

theorem post_traced {state : State size Value} (htraced : Traced state) {worker : Fin size}
    {job : JobId} {outcome : Outcome Value} (hworker : state.workers worker = .ran job outcome) :
    Traced ({ state with completions := ⟨job, outcome⟩ :: state.completions }.setWorker
      worker (.posted job)) := by
  obtain ⟨stage, hplaced, hlogged, htimely⟩ := htraced
  have hjob : (state.workers worker).job = some job := by rw [hworker]; rfl
  have hstage : stage job = .ran worker outcome := by
    have hplace := hplaced.place_eq hjob
    rw [hworker] at hplace
    cases hstage : stage job <;> simp_all [Stage.place]
  refine Traced.advance hplaced htimely (.posted worker outcome) rfl rfl rfl rfl rfl
    hjob rfl (Or.inl rfl) (by simp) ?_
  obtain ⟨executions, completions, discounted⟩ := hlogged
  constructor <;> grind [Stage.executions, Stage.completions, Stage.discounts]

theorem discount_traced {state : State size Value} (htraced : Traced state) {worker : Fin size}
    {job : JobId} (hworker : state.workers worker = .posted job) :
    Traced ({ state with
      pendingBlocking := state.pendingBlocking - 1
      discounted := job :: state.discounted }.setWorker worker (.acquiring false)) := by
  obtain ⟨stage, hplaced, hlogged, htimely⟩ := htraced
  have hjob : (state.workers worker).job = some job := by rw [hworker]; rfl
  obtain ⟨outcome, hstage⟩ : ∃ outcome, stage job = .posted worker outcome := by
    have hplace := hplaced.place_eq hjob
    rw [hworker] at hplace
    cases hstage : stage job <;> simp_all [Stage.place]
  refine Traced.advance hplaced htimely (.finished worker outcome) rfl rfl rfl rfl rfl
    hjob rfl (Or.inr ⟨rfl, rfl⟩) (by simp) ?_
  obtain ⟨executions, completions, discounted⟩ := hlogged
  constructor <;> grind [Stage.executions, Stage.completions, Stage.discounts]

theorem move_traced {state next : State size Value} {action : Action size Value}
    (hsound : Sound state) (htraced : Traced state) (hmove : Move state action next) :
    Traced next := by
  cases hmove with
  | call job hfresh => exact call_traced htraced hfresh
  | push job hjob hfree => exact push_traced hsound htraced hjob
  | notifyOne job worker hjob hparked =>
      exact htraced.setWorker rfl rfl rfl (by rw [hparked]; rfl) (by simp)
  | notifyNobody job hjob hnobody =>
      exact htraced.frame rfl (fun _ => Or.inl rfl) (fun _ => Or.inl)
  | lock worker notified hworker hfree | pass worker notified hworker hover
  | leave worker notified hworker hover =>
      exact htraced.setWorker rfl rfl rfl (by rw [hworker]; rfl) (by simp)
  | park worker hworker | wake worker hworker =>
      exact htraced.setWorker rfl rfl rfl (by rw [hworker]; rfl) (by simp)
  | exit worker notified hworker hstopping hempty =>
      exact htraced.setWorker rfl rfl rfl (by rw [hworker]; rfl) (fun _ => hempty)
  | pop worker notified job rest hworker hjobs => exact pop_traced htraced hworker hjobs
  | popEmpty worker notified hworker hover =>
      exact htraced.frame rfl (fun _ => Or.inl rfl) (fun _ => Or.inl)
  | runTask worker job outcome hworker => exact runTask_traced htraced hworker
  | post worker job outcome hworker => exact post_traced htraced hworker
  | discount worker job hworker => exact discount_traced htraced hworker
  | stopWorkers hidle hfree =>
      exact htraced.frame rfl (fun _ => Or.inl rfl) (fun _ => Or.inl)
  | stopNotify hnotifying =>
      refine htraced.frame rfl (fun worker => ?_) (fun worker hexited => Or.inl ?_)
      · by_cases hparked : state.workers worker = .parked
        · exact Or.inr (by simp [State.notifyAll, hparked, Worker.isParked, Worker.job])
        · exact Or.inl (by simp [State.notifyAll, isParked_iff, hparked])
      · by_cases hparked : state.workers worker = .parked
        · simp [State.notifyAll, hparked, Worker.isParked] at hexited
        · simpa [State.notifyAll, isParked_iff, hparked] using hexited
  | stopJoin worker hjoining hexited =>
      exact htraced.frame rfl (fun _ => Or.inl rfl) (fun _ => Or.inl)
  | stopReturn joined hjoining hall =>
      exact htraced.frame rfl (fun _ => Or.inl rfl) (fun _ => Or.inl)

/-- `pending_blocking_` is the number of calls whose job has not decremented it. -/
def Balanced (state : State size Value) : Prop :=
  state.pendingBlocking + state.discounted.length = state.calls.length

theorem Logged.discounted_nodup {state : State size Value} {stage : JobId → Stage size Value}
    (hlogged : Logged state stage) : state.discounted.Nodup := by
  refine List.nodup_iff_count_le_one.mpr fun job => ?_
  rw [hlogged.discounted job]
  cases stage job <;> simp [Stage.discounts]

/-- A job that has decremented `pending_blocking_` is finished. -/
theorem Logged.finished {state : State size Value} {stage : JobId → Stage size Value}
    (hlogged : Logged state stage) {job : JobId} (hjob : job ∈ state.discounted) :
    ∃ worker outcome, stage job = .finished worker outcome := by
  have hcount := hlogged.discounted job
  have hpositive := List.count_pos_iff.mpr hjob
  cases hstage : stage job with
  | finished worker outcome => exact ⟨worker, outcome, rfl⟩
  | _ =>
      simp only [hstage, Stage.discounts] at hcount
      omega

theorem discounted_subset {state : State size Value} {stage : JobId → Stage size Value}
    (hplaced : Placed state stage) (hlogged : Logged state stage) :
    state.discounted ⊆ state.calls := by
  intro job hjob
  obtain ⟨worker, outcome, hfinished⟩ := hlogged.finished hjob
  rw [hplaced.calls job, hfinished]
  exact nofun

/-- There is a call for every job at a worker, besides those already discounted. -/
theorem Traced.discounted_lt {state : State size Value} (htraced : Traced state)
    {worker : Fin size} {job : JobId} (hworker : state.workers worker = .posted job) :
    state.discounted.length < state.calls.length := by
  obtain ⟨stage, hplaced, hlogged, _⟩ := htraced
  have hplace : (stage job).place job = some (worker, state.workers worker) :=
    hplaced.place_eq (by rw [hworker]; rfl)
  have hfresh : job ∉ state.discounted := by
    intro hmem
    obtain ⟨_, _, hfinished⟩ := hlogged.finished hmem
    rw [hfinished] at hplace
    cases hplace
  have hcalled : job ∈ state.calls := by
    rw [hplaced.calls job]
    intro habsent
    rw [habsent] at hplace
    cases hplace
  have hnodup : (job :: state.discounted).Nodup :=
    List.nodup_cons.mpr ⟨hfresh, hlogged.discounted_nodup⟩
  have hsubset : job :: state.discounted ⊆ state.calls :=
    List.cons_subset.mpr ⟨hcalled, discounted_subset hplaced hlogged⟩
  exact (List.subperm_of_subset hnodup hsubset).length_le

/-- No job posts two completions. -/
theorem Traced.completions_nodup {state : State size Value} (htraced : Traced state) :
    (state.completions.map Completion.job).Nodup := by
  obtain ⟨stage, -, hlogged, -⟩ := htraced
  refine List.nodup_iff_count_le_one.mpr fun job => ?_
  rw [List.count_eq_countP, List.countP_map, List.countP_eq_length_filter]
  have hcompletions := congrArg List.length (hlogged.completions job)
  refine hcompletions.trans_le ?_
  cases stage job <;> simp [Stage.completions]

theorem move_balanced {state next : State size Value} {action : Action size Value}
    (htraced : Traced state) (hbalanced : Balanced state) (hmove : Move state action next) :
    Balanced next := by
  cases hmove with
  | call job hfresh =>
      simp only [Balanced, State.call, List.length_cons] at hbalanced ⊢
      omega
  | discount worker job hworker =>
      have hlt := htraced.discounted_lt hworker
      simp only [Balanced, State.setWorker, List.length_cons] at hbalanced ⊢
      omega
  | _ => exact hbalanced

/-- The invariant of the pool. -/
structure Invariant (state : State size Value) : Prop where
  sound : Sound state
  covered : Covered state
  traced : Traced state
  balanced : Balanced state

/-- When `pending_blocking_` is zero, every call so far has its completion posted. -/
theorem Invariant.completed {state : State size Value} (hinv : Invariant state)
    (hzero : state.pendingBlocking = 0) {job : JobId} (hjob : job ∈ state.calls) :
    ∃ outcome, ⟨job, outcome⟩ ∈ state.completions := by
  obtain ⟨stage, hplaced, hlogged, -⟩ := hinv.traced
  have hlength : state.calls.length ≤ state.discounted.length := by
    have hbalanced := hinv.balanced
    rw [Balanced, hzero, Nat.zero_add] at hbalanced
    exact hbalanced.ge
  have hall : state.discounted.Perm state.calls :=
    (List.subperm_of_subset hlogged.discounted_nodup
      (discounted_subset hplaced hlogged)).perm_of_length_le hlength
  obtain ⟨worker, outcome, hfinished⟩ := hlogged.finished (hall.mem_iff.mpr hjob)
  have hposted := hlogged.completions job
  rw [hfinished, Stage.completions] at hposted
  have hmem : ⟨job, outcome⟩ ∈ state.completions.filter (fun done => done.job == job) := by
    rw [hposted]
    exact List.mem_singleton_self _
  exact ⟨outcome, List.mem_of_mem_filter hmem⟩

theorem step_invariant {state next : State size Value} {action : Action size Value}
    (hinv : Invariant state) (hstep : (machine size Value).step state action = some next) :
    Invariant next := by
  have hmove := step_move hstep
  exact ⟨move_sound hinv.sound hmove, move_covered hinv.sound hinv.covered hmove,
    move_traced hinv.sound hinv.traced hmove, move_balanced hinv.traced hinv.balanced hmove⟩

theorem initial_invariant : Invariant (initial size Value) where
  sound := ⟨fun _ => by simp [initial, Worker.Fits], by simp [initial], by simp [initial,
    Stopper.joined], rfl⟩
  covered := covered_of_empty rfl
  traced := by
    refine ⟨fun _ => .absent, ⟨?_, ?_, ?_, ?_, ?_, ?_, ?_⟩, ⟨?_, ?_, ?_⟩, ?_, ?_⟩ <;>
      simp [initial, Stage.place, Worker.job, Stage.executions, Stage.completions, Stage.discounts]
  balanced := rfl

theorem reachable_invariant {state : State size Value}
    (hreach : (machine size Value).Reachable (initial size Value) state) : Invariant state :=
  Machine.reachable_invariant (fun _ _ _ => step_invariant) initial_invariant hreach

end Fiberuv.EventLoop.Workers
