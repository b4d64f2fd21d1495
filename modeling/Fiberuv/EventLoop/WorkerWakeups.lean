import Fiberuv.EventLoop.Workers
import Fiberuv.Foundation.Census

/-! # Wake-ups of the blocking workers

A worker parks only when it found no job while holding `blocking_mutex_`, and a job is
pushed under the same mutex, so each job that meets a parked worker still has its own
notification to come or has woken a worker for itself. That is a count: while somebody
is parked there are at most as many jobs as notified workers and notifications to be
made.
-/

namespace Fiberuv.EventLoop.Workers

open Foundation

universe u

variable {size : Nat} {Value : Type u}

/-- The worker was notified and has not left its wait since. -/
def Worker.alerted : Worker Value → Bool
  | .acquiring notified | .testing notified | .passed notified => notified
  | _ => false

/-- `notify_all` has been called. -/
def Stopper.hasNotified : Stopper → Bool
  | .joining _ | .returned => true
  | _ => false

/-- How many of the `size` workers have been joined. -/
def Stopper.joined (size : Nat) : Stopper → Nat
  | .joining joined => joined
  | .returned => size
  | _ => 0

/-- What holds while a worker is at a position: it has the mutex between its acquisition
and its release, and what it found under the mutex stays true meanwhile. -/
def Worker.Fits (state : State size Value) (worker : Fin size) : Worker Value → Prop
  | .acquiring _ | .holding _ | .ran _ _ | .posted _ => state.mutex ≠ some worker
  | .testing _ => state.mutex = some worker
  | .leaving => state.mutex = some worker ∧ state.waitOver = false
  | .parked => state.mutex ≠ some worker ∧ state.stopper.hasNotified = false
  | .passed _ => state.mutex = some worker ∧ state.waitOver = true
  | .exited => state.mutex ≠ some worker ∧ state.workersStopping = true

structure Sound (state : State size Value) : Prop where
  fits : ∀ worker, (state.workers worker).Fits state worker
  stopping : state.workersStopping = true ↔ state.stopper ≠ .idle
  joined : ∀ worker : Fin size, worker < state.stopper.joined size →
    state.workers worker = .exited
  popped : state.poppedEmpty = false

theorem Sound.fits_of_eq {state : State size Value} (hsound : Sound state) {worker : Fin size}
    {position : Worker Value} (hworker : state.workers worker = position) :
    position.Fits state worker :=
  hworker ▸ hsound.fits worker

theorem Worker.Fits.frame {state next : State size Value} {worker : Fin size}
    {position : Worker Value} (hfits : position.Fits state worker)
    (hmutex : next.mutex = some worker ↔ state.mutex = some worker)
    (hover : state.mutex = some worker → next.waitOver = state.waitOver)
    (hstopping : state.workersStopping = true → next.workersStopping = true)
    (hparked : position = .parked → next.stopper.hasNotified = state.stopper.hasNotified) :
    position.Fits next worker := by
  cases position with
  | acquiring notified => exact fun hheld => hfits (hmutex.mp hheld)
  | holding job => exact fun hheld => hfits (hmutex.mp hheld)
  | ran job outcome => exact fun hheld => hfits (hmutex.mp hheld)
  | posted job => exact fun hheld => hfits (hmutex.mp hheld)
  | testing notified => exact hmutex.mpr hfits
  | leaving => exact ⟨hmutex.mpr hfits.1, (hover hfits.1).trans hfits.2⟩
  | parked => exact ⟨fun hheld => hfits.1 (hmutex.mp hheld), (hparked rfl).trans hfits.2⟩
  | passed notified => exact ⟨hmutex.mpr hfits.1, (hover hfits.1).trans hfits.2⟩
  | exited => exact ⟨fun hheld => hfits.1 (hmutex.mp hheld), hstopping hfits.2⟩

/-- A step of one worker, which changes nothing that another worker relies on. -/
theorem Sound.setWorker {state base : State size Value} (hsound : Sound state)
    {worker : Fin size} {position : Worker Value} (hworkers : base.workers = state.workers)
    (hstopper : base.stopper = state.stopper)
    (hstopping : base.workersStopping = state.workersStopping)
    (hpopped : base.poppedEmpty = state.poppedEmpty)
    (hlive : state.workers worker ≠ .exited) (hposition : position.Fits base worker)
    (hothers : ∀ other ≠ worker, (base.mutex = some other ↔ state.mutex = some other) ∧
      (state.mutex = some other → base.waitOver = state.waitOver)) :
    Sound (base.setWorker worker position) where
  fits other := by
    by_cases heq : other = worker
    · subst other
      have hself : (base.setWorker worker position).workers worker = position := by
        simp [State.setWorker]
      rw [hself]
      exact hposition.frame Iff.rfl (fun _ => rfl) id (fun _ => rfl)
    · have hother : (base.setWorker worker position).workers other = state.workers other := by
        simp [State.setWorker, heq, hworkers]
      rw [hother]
      exact (hsound.fits other).frame (hothers other heq).1 (hothers other heq).2
        (fun hset => hstopping.trans hset) (fun _ => congrArg _ hstopper)
  stopping := by
    have hboth := hsound.stopping
    rw [← hstopping, ← hstopper] at hboth
    exact hboth
  joined other hother := by
    have hexited : state.workers other = .exited :=
      hsound.joined other (by simpa [State.setWorker, hstopper] using hother)
    have hne : other ≠ worker := fun heq => hlive (heq ▸ hexited)
    simpa [State.setWorker, hne, hworkers] using hexited
  popped := hpopped.trans hsound.popped

/-- Nobody else relies on the state of a worker that holds the mutex. -/
theorem others_of_held {state base : State size Value} {worker : Fin size}
    (hheld : state.mutex = some worker) (hfree : base.mutex = none) :
    ∀ other ≠ worker, (base.mutex = some other ↔ state.mutex = some other) ∧
      (state.mutex = some other → base.waitOver = state.waitOver) := by
  intro other hne
  have hnot : state.mutex ≠ some other := by
    rw [hheld]
    exact fun heq => hne (Option.some.inj heq).symm
  exact ⟨by simp [hfree, hnot], fun hother => absurd hother hnot⟩

theorem others_refl {state base : State size Value} {worker : Fin size}
    (hmutex : base.mutex = state.mutex) (hover : base.waitOver = state.waitOver) :
    ∀ other ≠ worker, (base.mutex = some other ↔ state.mutex = some other) ∧
      (state.mutex = some other → base.waitOver = state.waitOver) :=
  fun _ _ => ⟨by rw [hmutex], fun _ => hover⟩

theorem move_sound {state next : State size Value} {action : Action size Value}
    (hsound : Sound state) (hmove : Move state action next) : Sound next := by
  cases hmove with
  | call job hfresh => exact ⟨hsound.fits, hsound.stopping, hsound.joined, hsound.popped⟩
  | notifyNobody job hjob hnobody =>
      exact ⟨hsound.fits, hsound.stopping, hsound.joined, hsound.popped⟩
  | push job hjob hfree =>
      -- Nobody holds the mutex, so nobody relies on the predicate of the wait.
      refine ⟨fun worker => ?_, hsound.stopping, hsound.joined, hsound.popped⟩
      refine (hsound.fits worker).frame Iff.rfl ?_ id (fun _ => rfl)
      intro hheld
      rw [hfree] at hheld
      cases hheld
  | notifyOne job worker hjob hparked =>
      have hfits := hsound.fits_of_eq hparked
      exact hsound.setWorker rfl rfl rfl rfl (by simp [hparked]) hfits.1 (others_refl rfl rfl)
  | lock worker notified hworker hfree =>
      refine hsound.setWorker rfl rfl rfl rfl (by simp [hworker]) rfl fun other hne => ?_
      exact ⟨by simp [hfree, Ne.symm hne], fun _ => rfl⟩
  | pass worker notified hworker hover =>
      have hfits := hsound.fits_of_eq hworker
      exact hsound.setWorker rfl rfl rfl rfl (by simp [hworker]) ⟨hfits, hover⟩
        (others_refl rfl rfl)
  | leave worker notified hworker hover =>
      have hfits := hsound.fits_of_eq hworker
      exact hsound.setWorker rfl rfl rfl rfl (by simp [hworker]) ⟨hfits, hover⟩
        (others_refl rfl rfl)
  | park worker hworker =>
      have hfits := hsound.fits_of_eq hworker
      -- The predicate was false, so `stop_workers` has not even set its flag.
      have hidle : state.stopper = .idle := by
        by_contra hcalled
        have hset := hsound.stopping.mpr hcalled
        exact absurd hfits.2 (by simp [State.waitOver, hset])
      exact hsound.setWorker rfl rfl rfl rfl (by simp [hworker])
        ⟨by simp, by simp [hidle, Stopper.hasNotified]⟩ (others_of_held hfits.1 rfl)
  | wake worker hworker =>
      have hfits := hsound.fits_of_eq hworker
      exact hsound.setWorker rfl rfl rfl rfl (by simp [hworker]) hfits.1 (others_refl rfl rfl)
  | exit worker notified hworker hstopping hempty =>
      have hfits := hsound.fits_of_eq hworker
      exact hsound.setWorker rfl rfl rfl rfl (by simp [hworker]) ⟨by simp, hstopping⟩
        (others_of_held hfits.1 rfl)
  | pop worker notified job rest hworker hjobs =>
      have hfits := hsound.fits_of_eq hworker
      exact hsound.setWorker rfl rfl rfl rfl (by simp [hworker]) (by simp [Worker.Fits])
        (others_of_held hfits.1 rfl)
  | popEmpty worker notified hworker hover =>
      have hfits := hsound.fits_of_eq hworker
      simp [hfits.2] at hover
  | runTask worker job outcome hworker =>
      have hfits := hsound.fits_of_eq hworker
      exact hsound.setWorker rfl rfl rfl rfl (by simp [hworker]) hfits (others_refl rfl rfl)
  | post worker job outcome hworker =>
      have hfits := hsound.fits_of_eq hworker
      exact hsound.setWorker rfl rfl rfl rfl (by simp [hworker]) hfits (others_refl rfl rfl)
  | discount worker job hworker =>
      have hfits := hsound.fits_of_eq hworker
      exact hsound.setWorker rfl rfl rfl rfl (by simp [hworker]) hfits (others_refl rfl rfl)
  | stopWorkers hidle hfree =>
      refine ⟨fun worker => ?_, by simp, ?_, hsound.popped⟩
      · refine (hsound.fits worker).frame Iff.rfl ?_ (fun _ => rfl) ?_
        · intro hheld
          rw [hfree] at hheld
          cases hheld
        · intro _
          rw [hidle]
          rfl
      · intro worker hjoined
        simp [Stopper.joined] at hjoined
  | stopNotify hnotifying =>
      refine ⟨fun worker => ?_, ?_, ?_, hsound.popped⟩
      · have hfits := hsound.fits worker
        by_cases hparked : state.workers worker = .parked
        · rw [hparked] at hfits
          have hwoken : state.notifyAll.workers worker = .acquiring true := by
            simp [State.notifyAll, hparked, Worker.isParked]
          rw [hwoken]
          exact hfits.1
        · have hstays : state.notifyAll.workers worker = state.workers worker := by
            simp [State.notifyAll, isParked_iff, hparked]
          rw [hstays]
          exact hfits.frame Iff.rfl (fun _ => rfl) id (fun heq => absurd heq hparked)
      · have hset := hsound.stopping.mpr (by simp [hnotifying])
        simpa [State.notifyAll] using hset
      · intro worker hjoined
        simp [Stopper.joined] at hjoined
  | stopJoin worker hjoining hexited =>
      refine ⟨fun other => ?_, ?_, ?_, hsound.popped⟩
      · refine (hsound.fits other).frame Iff.rfl (fun _ => rfl) id fun _ => ?_
        rw [hjoining]
        rfl
      · simpa using hsound.stopping.mpr (by simp [hjoining])
      · intro other hother
        simp only [Stopper.joined] at hother
        rcases Nat.lt_succ_iff_lt_or_eq.mp hother with hbefore | hlast
        · exact hsound.joined other (by simpa [hjoining, Stopper.joined] using hbefore)
        · exact Fin.ext hlast ▸ hexited
  | stopReturn joined hjoining hall =>
      refine ⟨fun other => ?_, ?_, ?_, hsound.popped⟩
      · refine (hsound.fits other).frame Iff.rfl (fun _ => rfl) id fun _ => ?_
        rw [hjoining]
        rfl
      · simpa using hsound.stopping.mpr (by simp [hjoining])
      · intro other _
        refine hsound.joined other ?_
        rw [hjoining]
        exact Nat.lt_of_lt_of_le other.isLt hall

/-- The number of notified workers that have not left their wait. -/
noncomputable def alertedWorkers (workers : Fin size → Worker Value) : Nat :=
  census workers fun position => position.alerted = true

/-- While somebody is parked, every job has a notified worker or a notification to come. -/
def Covered (state : State size Value) : Prop :=
  (∃ worker, state.workers worker = .parked) →
    state.blockingJobs.length ≤ alertedWorkers state.workers + state.notifying.length

theorem parked_of_update {places : Fin size → Worker Value} {worker : Fin size}
    {position : Worker Value} (hposition : position ≠ .parked)
    (hparked : ∃ other, Function.update places worker position other = .parked) :
    ∃ other, places other = .parked := by
  obtain ⟨other, hother⟩ := hparked
  by_cases heq : other = worker
  · subst other
    exact absurd (by simpa using hother) hposition
  · exact ⟨other, by simpa [heq] using hother⟩

/-- A step of one worker that does not concern the deque or a notification. -/
theorem Covered.setWorker {state base : State size Value} (hcovered : Covered state)
    {worker : Fin size} {position : Worker Value} (hworkers : base.workers = state.workers)
    (hjobs : base.blockingJobs = state.blockingJobs) (hnotifying : base.notifying = state.notifying)
    (halerted : position.alerted = (state.workers worker).alerted)
    (hposition : position ≠ .parked) : Covered (base.setWorker worker position) := by
  intro hparked
  simp only [State.setWorker, hworkers, hjobs, hnotifying] at hparked ⊢
  have hbefore := hcovered (parked_of_update hposition hparked)
  have hsame : alertedWorkers (Function.update state.workers worker position) =
      alertedWorkers state.workers := census_update_keep (by rw [halerted])
  rw [hsame]
  exact hbefore

theorem covered_of_empty {state : State size Value} (hempty : state.blockingJobs = []) :
    Covered state := by
  intro _
  simp [hempty]

theorem move_covered {state next : State size Value} {action : Action size Value}
    (hsound : Sound state) (hcovered : Covered state) (hmove : Move state action next) :
    Covered next := by
  cases hmove with
  | call job hfresh => exact hcovered
  | push job hjob hfree =>
      intro hparked
      have hbefore := hcovered hparked
      simp only [State.push, List.length_append, List.length_cons, List.length_nil]
      omega
  | notifyOne job worker hjob hparked =>
      intro _
      have hbefore := hcovered ⟨worker, hparked⟩
      have hmore : alertedWorkers (Function.update state.workers worker (.acquiring true)) =
          alertedWorkers state.workers + 1 :=
        census_update_enter (Set.toFinite _) (by simp [hparked, Worker.alerted]) rfl
      have hfewer := List.length_erase_of_mem hjob
      simp only [State.setWorker, State.notified]
      omega
  | notifyNobody job hjob hnobody =>
      rintro ⟨worker, hparked⟩
      exact absurd hparked (hnobody worker)
  | lock worker notified hworker hfree | pass worker notified hworker hover =>
      exact hcovered.setWorker rfl rfl rfl (by simp [hworker, Worker.alerted]) (by simp)
  | leave worker notified hworker hover =>
      exact covered_of_empty (waitOver_eq_false.mp hover).2
  | park worker hworker =>
      have hfits := hsound.fits_of_eq hworker
      exact covered_of_empty (waitOver_eq_false.mp hfits.2).2
  | wake worker hworker =>
      exact hcovered.setWorker rfl rfl rfl (by simp [hworker, Worker.alerted]) (by simp)
  | exit worker notified hworker hstopping hempty => exact covered_of_empty hempty
  | pop worker notified job rest hworker hjobs =>
      -- One job is gone, and at most one notified worker with it.
      intro hparked
      have hbefore := hcovered (parked_of_update (by simp) hparked)
      have hfewer : alertedWorkers state.workers ≤
          alertedWorkers (Function.update state.workers worker (.holding job)) + 1 :=
        census_le_update_add_one (Set.toFinite _)
      simp only [State.setWorker, hjobs, List.length_cons] at hbefore ⊢
      omega
  | popEmpty worker notified hworker hover =>
      exact covered_of_empty (waitOver_eq_false.mp hover).2
  | runTask worker job outcome hworker | post worker job outcome hworker =>
      exact hcovered.setWorker rfl rfl rfl (by simp [hworker, Worker.alerted]) (by simp)
  | discount worker job hworker =>
      exact hcovered.setWorker rfl rfl rfl (by simp [hworker, Worker.alerted]) (by simp)
  | stopWorkers hidle hfree => exact hcovered
  | stopNotify hnotifying =>
      rintro ⟨worker, hparked⟩
      by_cases hbefore : state.workers worker = .parked
      · simp [State.notifyAll, hbefore, Worker.isParked] at hparked
      · simp [State.notifyAll, isParked_iff, hbefore] at hparked
  | stopJoin worker hjoining hexited => exact hcovered
  | stopReturn joined hjoining hall => exact hcovered

/-- A worker is parked although there is a job, and nobody has been or will be notified. -/
def LostWakeup (state : State size Value) : Prop :=
  (∃ worker, state.workers worker = .parked) ∧ state.blockingJobs ≠ [] ∧
    (∀ worker, (state.workers worker).alerted = false) ∧ state.notifying = [] ∧
      state.stopper ≠ .notifying

theorem noLostWakeup_of_covered {state : State size Value} (hcovered : Covered state) :
    ¬ LostWakeup state := by
  rintro ⟨hparked, hjobs, hquiet, hnotifying, _⟩
  have hcount := hcovered hparked
  have hnobody : alertedWorkers state.workers = 0 :=
    (census_eq_zero (Set.toFinite _)).mpr fun worker => by simp [hquiet worker]
  rw [hnobody, hnotifying, List.length_nil, Nat.le_zero] at hcount
  exact hjobs (List.eq_nil_of_length_eq_zero hcount)

end Fiberuv.EventLoop.Workers
