import Fiberuv.TaskScope.Model

/-! # Wake-ups of a joiner off the loop

`active` is decremented, and the lifetime flag cleared, without holding `std_mutex`,
so both can happen between a joiner's predicate test and its park. The notification
of that moment finds nobody parked and the joiner sleeps on a predicate that is
already true; `~EventLoop` does not notify at all. `Timely` says which steps do
that, and without them no wake-up is missed.
-/

namespace Fiberuv.TaskScope

open Foundation

/-- The task has decremented `active` to zero and will still notify `std_cv`. -/
def Task.notifies : Task → Bool
  | .last | .cvNotified => true
  | _ => false

/-- The joiner found the predicate false and has not been woken since. -/
def Joiner.committed : Joiner → Bool
  | .leaving | .parked => true
  | _ => false

/-- A joiner is parked although its predicate is true, and no notification of
`std_cv` is still to be executed. -/
def MissedWakeup (state : State) (joiner : JoinId) : Prop :=
  state.joiners joiner = .parked ∧ state.waitOver = true ∧
    ∀ task, (state.tasks task).notifies = false

/-- A task notifies `std_cv` while a joiner is about to park on a predicate that has
become true only if another task notifies later; `~EventLoop` clears the lifetime
flag under a committed joiner only if some task notifies later. -/
def Timely (state : State) : Action → Prop
  | .taskNotifyStdCv task => state.waitOver = true → (∃ joiner, state.joiners joiner = .leaving) →
      ∃ other ≠ task, (state.tasks other).notifies = true
  | .destroyLoop => (∃ joiner, (state.joiners joiner).committed = true) →
      ∃ task, (state.tasks task).notifies = true
  | _ => True

/-- Every committed joiner whose predicate is true will be notified. -/
def Covered (state : State) : Prop :=
  state.waitOver = true → (∃ joiner, (state.joiners joiner).committed = true) →
    ∃ task, (state.tasks task).notifies = true

theorem Covered.of_frame {state next : State} (hcovered : Covered state)
    (hover : next.waitOver = true → state.waitOver = true)
    (hjoiners : ∀ joiner, (next.joiners joiner).committed = true →
      ∃ other, (state.joiners other).committed = true)
    (htasks : ∀ task, (state.tasks task).notifies = true → (next.tasks task).notifies = true) :
    Covered next := by
  intro hnext ⟨joiner, hjoiner⟩
  obtain ⟨task, htask⟩ := hcovered (hover hnext) (hjoiners joiner hjoiner)
  exact ⟨task, htasks task htask⟩

/-- Moving one task from a position with no notification to make. -/
theorem Covered.setTask {state : State} (hcovered : Covered state) {task : TaskId}
    {position : Task} (hbefore : (state.tasks task).notifies = false) :
    Covered (state.setTask task position) := by
  refine hcovered.of_frame id (fun joiner hjoiner => ⟨joiner, hjoiner⟩) ?_
  intro other hother
  have hne : other ≠ task := by
    rintro rfl
    simp [hbefore] at hother
  simpa [State.setTask, Function.update_apply, hne] using hother

/-- Moving one joiner to a position that is not committed, or was already. -/
theorem Covered.setJoiner {state : State} (hcovered : Covered state) {joiner : JoinId}
    {position : Joiner}
    (hposition : position.committed = true → (state.joiners joiner).committed = true) :
    Covered (state.setJoiner joiner position) := by
  refine hcovered.of_frame id ?_ (fun _ htask => htask)
  intro other hother
  by_cases heq : other = joiner
  · subst other
    simp only [State.setJoiner, Function.update_self] at hother
    exact ⟨joiner, hposition hother⟩
  · simp only [State.setJoiner, Function.update_of_ne heq] at hother
    exact ⟨other, hother⟩

theorem stepTask_covered {state next : State} {action : Action} (hcovered : Covered state)
    (htimely : Timely state action) (hstep : state.stepTask action = some next) :
    Covered next := by
  cases action with
  | spawnCount task =>
      simp only [State.stepTask, Option.ite_none_right_eq_some, Option.some.injEq] at hstep
      obtain ⟨hunborn, rfl⟩ := hstep
      have hcounted : Covered { state with active := state.active + 1 } := by
        refine hcovered.of_frame ?_ (fun joiner hjoiner => ⟨joiner, hjoiner⟩) (fun _ htask => htask)
        simpa [State.waitOver] using Or.inr
      exact hcounted.setTask (by simp [hunborn, Task.notifies])
  | spawnFiber task | spawnThrow task | taskReturn task =>
      simp only [State.stepTask, Option.ite_none_right_eq_some, Option.some.injEq] at hstep
      obtain ⟨hbefore, rfl⟩ := hstep
      exact hcovered.setTask (by simp [hbefore, Task.notifies])
  | taskThrow task exn =>
      simp only [State.stepTask, Option.ite_none_right_eq_some, Option.some.injEq] at hstep
      obtain ⟨hbefore, rfl⟩ := hstep
      have hrecorded : Covered (state.recordException exn) := hcovered
      exact hrecorded.setTask (by simp [State.recordException, hbefore, Task.notifies])
  | taskFetchSub task =>
      simp only [State.stepTask, Option.ite_none_right_eq_some, Option.some.injEq] at hstep
      obtain ⟨hbefore, rfl⟩ := hstep
      by_cases hlast : state.active = 1
      · intro _ _
        exact ⟨task, by simp [State.fetchSub, State.setTask, hlast, Task.notifies]⟩
      · -- Only the decrement from one makes the predicate true.
        have hcounted : Covered { state with active := state.active - 1 } := by
          refine hcovered.of_frame ?_ (fun joiner hjoiner => ⟨joiner, hjoiner⟩)
            (fun _ htask => htask)
          simp only [State.waitOver, Bool.or_eq_true, beq_iff_eq]
          exact Or.imp_left fun hzero => by omega
        exact hcounted.setTask (by simp [hbefore, Task.notifies])
  | taskNotifyCv task =>
      simp only [State.stepTask, Option.ite_none_right_eq_some, Option.some.injEq] at hstep
      obtain ⟨hbefore, rfl⟩ := hstep
      intro _ _
      exact ⟨task, by simp [State.setTask, Task.notifies]⟩
  | taskNotifyStdCv task =>
      simp only [State.stepTask, Option.ite_none_right_eq_some, Option.some.injEq] at hstep
      obtain ⟨hbefore, rfl⟩ := hstep
      intro hover ⟨joiner, hjoiner⟩
      -- Nobody is parked after the notification, so the joiner is about to park.
      have hleaving : state.joiners joiner = .leaving := by
        simp only [State.setTask, State.notifyStdCv] at hjoiner
        split at hjoiner
        · simp [Joiner.committed] at hjoiner
        next hnot =>
          cases hposition : state.joiners joiner <;>
            simp [hposition, Joiner.committed] at hjoiner hnot ⊢
      obtain ⟨other, hne, hother⟩ := htimely hover ⟨joiner, hleaving⟩
      exact ⟨other, by simpa [State.setTask, State.notifyStdCv, hne] using hother⟩
  | _ => cases hstep

theorem stepJoin_covered {state next : State} {action : Action} (hcovered : Covered state)
    (hstep : state.stepJoin action = some next) : Covered next := by
  cases action with
  | join joiner onLoop =>
      simp only [State.stepJoin, Option.ite_none_right_eq_some, Option.some.injEq] at hstep
      obtain ⟨_, rfl⟩ := hstep
      refine hcovered.setJoiner ?_
      split
      · simp [Joiner.committed]
      · split <;> simp [Joiner.committed]
  | joinFiberTest joiner =>
      simp only [State.stepJoin, Option.ite_none_right_eq_some, Option.some.injEq] at hstep
      obtain ⟨_, rfl⟩ := hstep
      refine hcovered.setJoiner ?_
      split <;> simp [Joiner.committed]
  | joinLock joiner =>
      simp only [State.stepJoin, Option.ite_none_right_eq_some, Option.some.injEq] at hstep
      obtain ⟨_, rfl⟩ := hstep
      have hlocked : Covered { state with stdMutex := some joiner } := hcovered
      exact hlocked.setJoiner (by simp [Joiner.committed])
  | joinTest joiner =>
      simp only [State.stepJoin, Option.ite_none_right_eq_some, Option.some.injEq] at hstep
      obtain ⟨_, rfl⟩ := hstep
      split
      · exact hcovered.setJoiner (by simp [Joiner.committed])
      next hover =>
        -- The predicate is false, so nothing is to be covered.
        intro hnext
        exact absurd hnext hover
  | joinPark joiner =>
      simp only [State.stepJoin, Option.ite_none_right_eq_some, Option.some.injEq] at hstep
      obtain ⟨hleaving, rfl⟩ := hstep
      have hunlocked : Covered { state with stdMutex := none } := hcovered
      exact hunlocked.setJoiner (by simp [hleaving, Joiner.committed])
  | joinWake joiner =>
      simp only [State.stepJoin, Option.ite_none_right_eq_some, Option.some.injEq] at hstep
      obtain ⟨_, rfl⟩ := hstep
      exact hcovered.setJoiner (by simp [Joiner.committed])
  | joinUnlock joiner =>
      simp only [State.stepJoin, Option.ite_none_right_eq_some, Option.some.injEq] at hstep
      obtain ⟨_, rfl⟩ := hstep
      have hunlocked : Covered { state with stdMutex := none } := hcovered
      refine hunlocked.setJoiner ?_
      split <;> simp [Joiner.committed]
  | joinReport joiner =>
      simp only [State.stepJoin, Option.ite_none_right_eq_some, Option.some.injEq] at hstep
      obtain ⟨_, rfl⟩ := hstep
      exact hcovered.setJoiner (by simp [Joiner.committed])
  | _ => cases hstep

/-- Every timely step keeps the committed joiners covered. -/
theorem step_covered {state next : State} {action : Action} (hcovered : Covered state)
    (htimely : Timely state action) (hstep : state.step action = some next) : Covered next := by
  unfold State.step at hstep
  split at hstep
  · cases hstep
    exact hcovered
  · cases hstep
    exact fun _ hjoiner => htimely hjoiner
  -- The eight actions of tasks come first, those of joiners last.
  iterate 8 exact stepTask_covered hcovered htimely hstep
  exact stepJoin_covered hcovered hstep

/-- In a run whose notifications are timely no joiner misses its wake-up. -/
theorem no_missedWakeup_of_timely (actions : List Action) (state : State)
    (hmeets : machine.Meets Timely actions initial)
    (hrun : machine.run actions initial = some state) (joiner : JoinId) :
    ¬ MissedWakeup state joiner := by
  have hinitial : Covered initial := by
    rintro _ ⟨other, hother⟩
    simp [initial, Joiner.committed] at hother
  have hcovered : Covered state :=
    Machine.run_invariant (fun _ _ _ => step_covered) actions initial state hinitial hmeets hrun
  rintro ⟨hparked, hover, hquiet⟩
  obtain ⟨task, htask⟩ := hcovered hover ⟨joiner, by simp [hparked, Joiner.committed]⟩
  simp [hquiet task] at htask

def parkedFirst : List Action :=
  [.spawnCount 0, .spawnFiber 0, .join 0 false, .joinLock 0, .joinTest 0, .joinPark 0,
    .taskReturn 0, .taskFetchSub 0, .taskNotifyCv 0, .taskNotifyStdCv 0]

/-- The last task finishes after the joiner has parked, and the joiner is woken. -/
theorem no_missedWakeup_parkedFirst :
    ∃ state, machine.run parkedFirst initial = some state ∧ state.joiners 0 = .locking ∧
      ¬ MissedWakeup state 0 := by
  refine ⟨_, rfl, rfl, no_missedWakeup_of_timely parkedFirst _ ?_ rfl 0⟩
  iterate 9 refine Machine.meets_cons trivial rfl ?_
  refine Machine.meets_cons ?_ rfl trivial
  rintro _ ⟨joiner, hleaving⟩
  rcases joiner with _ | joiner <;> cases hleaving

/-- The last task finishes between the joiner's test and its park: the joiner sleeps
for good on a predicate that is true. -/
theorem missedWakeup_testedFirst :
    ¬ ∀ state, machine.Reachable initial state → ∀ joiner, ¬ MissedWakeup state joiner := by
  intro hneverMissed
  refine hneverMissed _ ⟨[.spawnCount 0, .spawnFiber 0, .join 0 false, .joinLock 0, .joinTest 0,
    .taskReturn 0, .taskFetchSub 0, .taskNotifyCv 0, .taskNotifyStdCv 0, .joinPark 0], rfl⟩
    0 ⟨rfl, rfl, ?_⟩
  intro task
  rcases task with _ | task <;> rfl

end Fiberuv.TaskScope
