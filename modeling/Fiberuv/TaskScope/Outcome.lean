import Fiberuv.TaskScope.Counters

/-! # What `join` reports

A task leaves `active` only after its failure is recorded, and a task of the scope that
spawns another is itself counted while it does so. Once the owner has stopped spawning,
a joiner that finds `active` zero therefore finds a scope in which nothing happens any
more, and the exception it reads is the outcome of the scope.
-/

namespace Fiberuv.TaskScope.Fibers

open Foundation

/-- The spawn does not come from a task of the scope. -/
def Action.fromOutside : Action → Bool
  | .accept .outside _ => true
  | _ => false

/-- The failure of the task is recorded: its critical section has written
`first_exception` and the cancellation. -/
def Recorded (state : State) (id : FiberId) : Prop :=
  (∃ exn, (id, exn) ∈ state.failures) ∧ state.fibers id ≠ .marking

/-- `Token::stop_requested`, for the result of locking its `weak_ptr`. -/
def stopRequested : Option State → Bool
  | none => true
  | some state => state.cancelRequested

/-- No task of the scope is being spawned, runs or records its failure, and no spawn threw after
it had counted its task. -/
def Quiet (state : State) : Prop :=
  ∀ id, (state.fibers id).holdsActive = false

/-- The outcome of the scope, as one `join` reports it. -/
structure Reports (state : State) (result : Option Exn) : Prop where
  finished : Quiet state
  normal : result = none ↔ state.threw = []
  /-- It rethrows the exception of the task that first recorded its failure. -/
  first : ∀ exn, result = some exn → ∃ id rest, state.failures = (id, exn) :: rest
  /-- Every join that rethrew, rethrew the same exception. -/
  same : ∀ joiner exn, state.joiners joiner = .returned (some exn) → result = some exn

/-- The position is inside the `catch` block, before the cancellation is set. -/
def Fiber.isFailing : Fiber → Bool
  | .caught _ | .recording _ | .marking => true
  | _ => false

/-- How the recorded failures relate to the tasks that threw. -/
structure Recording (state : State) : Prop where
  first : state.firstException = state.failures.head?.map Prod.snd
  pending : ∀ id exn, (id, exn) ∈ state.threw → (id, exn) ∈ state.failures ∨
    state.fibers id = .caught exn ∨ state.fibers id = .recording exn
  thrown : ∀ id exn, (id, exn) ∈ state.failures ∨ state.fibers id = .caught exn ∨
    state.fibers id = .recording exn → (id, exn) ∈ state.threw
  cancelled : ∀ id exn, (id, exn) ∈ state.failures → state.cancelRequested = true ∨
    state.fibers id = .marking
  agreed : ∀ joiner exn, state.joiners joiner = .returned (some exn) →
    state.firstException = some exn

/-- The joiner has found the scope finished. -/
def Joiner.hasPassed : Joiner → Bool
  | .fiberPassed | .passed | .reporting | .returned _ => true
  | _ => false

/-- The ways a joiner can go. -/
inductive Advances (state : State) : Joiner → Joiner → Prop where
  | gone (halive : state.alive = false) : Advances state .idle (.returned none)
  | fiberStart : Advances state .idle .fiberLocking
  | start : Advances state .idle .locking
  | fiberLock : Advances state .fiberLocking .fiberTesting
  | fiberPass (hzero : state.active = 0) : Advances state .fiberTesting .fiberPassed
  | fiberPark : Advances state .fiberTesting .fiberParked
  | fiberWake : Advances state .fiberParked .fiberLocking
  | fiberUnlock : Advances state .fiberPassed .reporting
  | lock : Advances state .locking .testing
  | pass (hover : state.waitOver = true) : Advances state .testing .passed
  | leave : Advances state .testing .leaving
  | park : Advances state .leaving .parked
  | wake : Advances state .parked .locking
  | unlock : Advances state .passed .reporting
  | giveUp (halive : state.alive = false) : Advances state .passed (.returned none)
  | report : Advances state .reporting (.returned state.firstException)

/-- A step of `join` moves one joiner. -/
theorem stepJoin_advances {state next : State} {action : Action}
    (hstep : state.stepJoin action = some next) :
    ∃ who position, next.joiners = Function.update state.joiners who position ∧
      Advances state (state.joiners who) position := by
  cases action with
  | join who onLoop =>
      simp only [State.stepJoin, Option.ite_none_right_eq_some, Option.some.injEq] at hstep
      obtain ⟨hidle, rfl⟩ := hstep
      refine ⟨who, _, rfl, ?_⟩
      rw [hidle]
      cases halive : state.alive
      · exact .gone halive
      · cases onLoop
        · exact .start
        · exact .fiberStart
  | joinFiberLock who =>
      simp only [State.stepJoin, Option.ite_none_right_eq_some, Option.some.injEq] at hstep
      obtain ⟨⟨hjoiner, _⟩, rfl⟩ := hstep
      exact ⟨who, _, rfl, hjoiner ▸ .fiberLock⟩
  | joinFiberTest who =>
      simp only [State.stepJoin, Option.ite_none_right_eq_some] at hstep
      obtain ⟨hjoiner, hstep⟩ := hstep
      split at hstep
      next hzero =>
        cases hstep
        exact ⟨who, _, rfl, hjoiner ▸ .fiberPass hzero⟩
      · cases hstep
        exact ⟨who, _, rfl, hjoiner ▸ .fiberPark⟩
  | joinFiberUnlock who =>
      simp only [State.stepJoin, Option.ite_none_right_eq_some, Option.some.injEq] at hstep
      obtain ⟨hjoiner, rfl⟩ := hstep
      exact ⟨who, _, rfl, hjoiner ▸ .fiberUnlock⟩
  | joinLock who =>
      simp only [State.stepJoin, Option.ite_none_right_eq_some, Option.some.injEq] at hstep
      obtain ⟨⟨hjoiner, _⟩, rfl⟩ := hstep
      exact ⟨who, _, rfl, hjoiner ▸ .lock⟩
  | joinTest who =>
      simp only [State.stepJoin, Option.ite_none_right_eq_some, Option.some.injEq] at hstep
      obtain ⟨hjoiner, rfl⟩ := hstep
      refine ⟨who, _, rfl, ?_⟩
      rw [hjoiner]
      split
      next hover => exact .pass hover
      · exact .leave
  | joinPark who =>
      simp only [State.stepJoin, Option.ite_none_right_eq_some, Option.some.injEq] at hstep
      obtain ⟨hjoiner, rfl⟩ := hstep
      exact ⟨who, _, rfl, hjoiner ▸ .park⟩
  | joinWake who =>
      simp only [State.stepJoin] at hstep
      split at hstep
      next hjoiner =>
        cases hstep
        exact ⟨who, _, rfl, hjoiner ▸ .fiberWake⟩
      next hjoiner =>
        cases hstep
        exact ⟨who, _, rfl, hjoiner ▸ .wake⟩
      · cases hstep
  | joinUnlock who =>
      simp only [State.stepJoin, Option.ite_none_right_eq_some, Option.some.injEq] at hstep
      obtain ⟨hjoiner, rfl⟩ := hstep
      refine ⟨who, _, rfl, ?_⟩
      rw [hjoiner]
      split
      next hgone =>
        -- The loop ended while the joiner was parked: it returns although tasks are left.
        simp only [Bool.and_eq_true, Bool.not_eq_true'] at hgone
        exact .giveUp hgone.1
      · exact .unlock
  | joinReport who =>
      simp only [State.stepJoin, Option.ite_none_right_eq_some, Option.some.injEq] at hstep
      obtain ⟨⟨hjoiner, _⟩, rfl⟩ := hstep
      exact ⟨who, _, rfl, hjoiner ▸ .report⟩
  | _ => cases hstep

/-- A joiner passes its wait when `active` is zero, unless the loop is gone. -/
theorem stepJoin_passed {state next : State} {action : Action} {joiner : JoinId}
    (hstep : state.stepJoin action = some next) (halive : state.alive = true)
    (hpassed : (next.joiners joiner).hasPassed = true) :
    (state.joiners joiner).hasPassed = true ∨ state.active = 0 := by
  obtain ⟨who, position, hjoiners, hadvances⟩ := stepJoin_advances hstep
  rw [hjoiners] at hpassed
  by_cases heq : joiner = who
  · subst joiner
    rw [Function.update_self] at hpassed
    generalize state.joiners who = before at hadvances ⊢
    cases hadvances with
    | gone hdead => simp [halive] at hdead
    | fiberPass hzero => exact Or.inr hzero
    | pass hover => exact Or.inr (by simpa [State.waitOver, halive] using hover)
    | fiberUnlock | unlock | giveUp | report => exact Or.inl rfl
    | _ => cases hpassed
  · rw [Function.update_of_ne heq] at hpassed
    exact Or.inl hpassed

/-- What a joiner returns is what it read, unless the loop is gone. -/
theorem stepJoin_returned {state next : State} {action : Action} {joiner : JoinId}
    {result : Option Exn} (hstep : state.stepJoin action = some next)
    (hreturned : next.joiners joiner = .returned result) :
    state.joiners joiner = .returned result ∨
      state.joiners joiner = .reporting ∧ result = state.firstException ∨
      result = none ∧ state.alive = false := by
  obtain ⟨who, position, hjoiners, hadvances⟩ := stepJoin_advances hstep
  rw [hjoiners] at hreturned
  by_cases heq : joiner = who
  · subst joiner
    rw [Function.update_self] at hreturned
    subst position
    generalize state.joiners who = before at hadvances ⊢
    cases hadvances with
    | gone hdead => exact Or.inr (Or.inr ⟨rfl, hdead⟩)
    | giveUp hdead => exact Or.inr (Or.inr ⟨rfl, hdead⟩)
    | report => exact Or.inr (Or.inl ⟨rfl, rfl⟩)
  · rw [Function.update_of_ne heq] at hreturned
    exact Or.inl hreturned

theorem notifyCv_joiners {state : State} {joiner : JoinId} {position : Joiner}
    (hjoiner : state.notifyCv.joiners joiner = position) (hpassed : position.hasPassed = true) :
    state.joiners joiner = position := by
  simp only [State.notifyCv] at hjoiner
  split at hjoiner
  · subst position
    cases hpassed
  · exact hjoiner

theorem notifyStdCv_joiners {state : State} {joiner : JoinId} {position : Joiner}
    (hjoiner : state.notifyStdCv.joiners joiner = position) (hpassed : position.hasPassed = true) :
    state.joiners joiner = position := by
  simp only [State.notifyStdCv] at hjoiner
  split at hjoiner
  · subst position
    cases hpassed
  · exact hjoiner

/-- What the tasks of the scope have thrown and recorded. -/
def State.records (state : State) :=
  (state.firstException, state.threw, state.failures, state.cancelRequested)

/-- A step of a fiber that neither is nor comes to be in its `catch` block. -/
theorem Recording.setFiber {state base : State} (hrecording : Recording state) {id : FiberId}
    {before position : Fiber} (hfiber : state.fibers id = before)
    (hbefore : before.isFailing = false) (hposition : position.isFailing = false)
    (hfibers : base.fibers = state.fibers) (hrecords : base.records = state.records)
    (hjoiners : ∀ joiner position, base.joiners joiner = position → position.hasPassed = true →
      state.joiners joiner = position) : Recording (base.setFiber id position) := by
  simp only [State.records, Prod.mk.injEq] at hrecords
  obtain ⟨hexception, hthrew, hfailures, hcancel⟩ := hrecords
  have hsame : ∀ other failing, Fiber.isFailing failing = true →
      ((base.setFiber id position).fibers other = failing ↔ state.fibers other = failing) := by
    intro other failing hfailing
    by_cases heq : other = id
    · subst other
      simp only [State.setFiber, Function.update_self, hfiber]
      exact iff_of_false (fun heq => by simp [heq, hfailing] at hposition)
        (fun heq => by simp [heq, hfailing] at hbefore)
    · simp [State.setFiber, heq, hfibers]
  refine ⟨?_, fun other exn => ?_, fun other exn => ?_, fun other exn => ?_, fun joiner exn => ?_⟩
  · exact hexception.trans (hfailures ▸ hrecording.first)
  · rw [hsame other _ rfl, hsame other _ rfl]
    exact hthrew ▸ hfailures ▸ hrecording.pending other exn
  · rw [hsame other _ rfl, hsame other _ rfl]
    exact hthrew ▸ hfailures ▸ hrecording.thrown other exn
  · rw [hsame other _ rfl]
    exact hcancel ▸ hfailures ▸ hrecording.cancelled other exn
  · intro hreturned
    exact hexception.trans (hrecording.agreed joiner exn (hjoiners joiner _ hreturned rfl))

theorem move_recording {state next : State} {action : Action} (hrecording : Recording state)
    (hmove : Move state action next) : Recording next := by
  cases hmove with
  | requestCancel =>
      exact ⟨hrecording.first, hrecording.pending, hrecording.thrown, fun _ _ _ => Or.inl rfl,
        hrecording.agreed⟩
  | destroyLoop =>
      exact ⟨hrecording.first, hrecording.pending, hrecording.thrown, hrecording.cancelled,
        hrecording.agreed⟩
  | joins _ hstep hnext =>
      refine ⟨?_, ?_, ?_, ?_, fun joiner exn hreturned => ?_⟩
      · rw [hnext]
        exact hrecording.first
      · rw [hnext]
        exact hrecording.pending
      · rw [hnext]
        exact hrecording.thrown
      · rw [hnext]
        exact hrecording.cancelled
      · have hexception : next.firstException = state.firstException := by rw [hnext]
        rw [hexception]
        rcases stepJoin_returned hstep hreturned with hbefore | ⟨_, hread⟩ | ⟨hnone, _⟩
        · exact hrecording.agreed joiner exn hbefore
        · exact hread.symm
        · cases hnone
  | taskThrow id exn hfiber =>
      obtain ⟨hfirst, hpending, hthrown, hcancelled, hagreed⟩ := hrecording
      constructor <;> simp only [State.setFiber] <;> grind
  | lockMutex id exn hfiber hfree =>
      obtain ⟨hfirst, hpending, hthrown, hcancelled, hagreed⟩ := hrecording
      constructor <;> simp only [State.setFiber] <;> grind
  | record id exn hfiber =>
      obtain ⟨hfirst, hpending, hthrown, hcancelled, hagreed⟩ := hrecording
      constructor <;> simp only [State.setFiber] <;> grind
  | mark id hfiber =>
      obtain ⟨hfirst, hpending, hthrown, hcancelled, hagreed⟩ := hrecording
      constructor <;> simp only [State.setFiber] <;> grind
  | fetchSub id hfiber =>
      split <;> exact hrecording.setFiber hfiber rfl rfl rfl rfl (fun _ _ heq _ => heq)
  | notifyCv id hfiber =>
      exact hrecording.setFiber hfiber rfl rfl rfl rfl (fun _ _ => notifyCv_joiners)
  | notifyStdCv id hfiber =>
      exact hrecording.setFiber hfiber rfl rfl rfl rfl (fun _ _ => notifyStdCv_joiners)
  | create id kind hfiber | fiberThrow id kind hfiber =>
      exact hrecording.setFiber hfiber rfl rfl rfl rfl (fun _ _ heq _ => heq)
  | accept spawner id hfiber hspawner =>
      exact hrecording.setFiber hfiber rfl rfl rfl rfl (fun _ _ heq _ => heq)
  | plainEnd id threw hfiber =>
      exact hrecording.setFiber hfiber rfl rfl rfl rfl (fun _ _ heq _ => heq)
  | refuse id hfiber | closureThrow id hfiber | count id hfiber | countPlain id hfiber
  | taskReturn id hfiber | unlockMutex id hfiber | fiberDone id hfiber =>
      exact hrecording.setFiber hfiber rfl rfl rfl rfl (fun _ _ heq _ => heq)

theorem initial_recording : Recording initial := by
  constructor <;> simp [initial]

theorem Balanced.quiet_of_zero {state : State} (hbalanced : Balanced state)
    (hzero : state.active = 0) : Quiet state := by
  have hcensus := (census_eq_zero hbalanced.active.finite).mp (hbalanced.active.eq ▸ hzero)
  exact fun id => by simpa using hcensus id

theorem Quiet.setFiber {state base : State} (hquiet : Quiet state) {id : FiberId}
    {position : Fiber} (hfibers : base.fibers = state.fibers)
    (hposition : position.holdsActive = false) : Quiet (base.setFiber id position) := by
  intro other
  by_cases heq : other = id
  · subst other
    simpa [State.setFiber] using hposition
  · simpa [State.setFiber, heq, hfibers] using hquiet other

/-- In a quiet scope nothing happens any more unless it is spawned from outside. -/
theorem Quiet.move {state next : State} {action : Action} (hquiet : Quiet state)
    (hmove : Move state action next) (hinside : action.fromOutside = false) :
    Quiet next ∧ next.firstException = state.firstException := by
  -- A position that `active` counts is not there to move from.
  have habsurd : ∀ {id position}, state.fibers id = position →
      Fiber.holdsActive position = true → False := by
    intro id position hfiber hholds
    simpa [hfiber, hholds] using hquiet id
  cases hmove with
  | accept spawner id hfiber hspawner =>
      cases spawner with
      | outside => cases hinside
      | task parent =>
          exact (habsurd (of_decide_eq_true hspawner) rfl).elim
  | closureThrow id hfiber | count id hfiber | taskReturn id hfiber =>
      exact (habsurd hfiber rfl).elim
  | mark id hfiber | unlockMutex id hfiber | fetchSub id hfiber => exact (habsurd hfiber rfl).elim
  | taskThrow id exn hfiber | record id exn hfiber => exact (habsurd hfiber rfl).elim
  | lockMutex id exn hfiber hfree => exact (habsurd hfiber rfl).elim
  | create id kind hfiber | fiberThrow id kind hfiber =>
      cases kind with
      | task => exact (habsurd hfiber rfl).elim
      | plain => exact ⟨hquiet.setFiber rfl rfl, rfl⟩
  | refuse id hfiber | countPlain id hfiber | notifyCv id hfiber | notifyStdCv id hfiber
  | fiberDone id hfiber => exact ⟨hquiet.setFiber rfl rfl, rfl⟩
  | plainEnd id threw hfiber => exact ⟨hquiet.setFiber rfl rfl, rfl⟩
  | requestCancel => exact ⟨hquiet, rfl⟩
  | destroyLoop => exact ⟨hquiet, rfl⟩
  | joins _ _ hnext =>
      rw [hnext]
      exact ⟨hquiet, rfl⟩

/-- The state of a `join` that started after the owner had stopped spawning. -/
structure Joined (joiner : JoinId) (state : State) : Prop where
  balanced : Balanced state
  quiet : state.alive = true → (state.joiners joiner).hasPassed = true → Quiet state
  result : state.alive = true → ∀ result, state.joiners joiner = .returned result →
    result = state.firstException

/-- A joiner moves only in its own steps and by notifications. -/
theorem move_joiner {state next : State} {action : Action} {joiner : JoinId}
    (hmove : Move state action next) (hpassed : (next.joiners joiner).hasPassed = true) :
    state.joiners joiner = next.joiners joiner ∨ state.stepJoin action = some next := by
  cases hmove with
  | joins _ hstep _ => exact Or.inr hstep
  | notifyCv id hfiber => exact Or.inl (notifyCv_joiners rfl hpassed)
  | notifyStdCv id hfiber => exact Or.inl (notifyStdCv_joiners rfl hpassed)
  | _ => exact Or.inl rfl

theorem move_alive {state next : State} {action : Action} (hmove : Move state action next)
    (halive : next.alive = true) : state.alive = true := by
  cases hmove with
  | joins _ _ hnext =>
      rw [hnext] at halive
      exact halive
  | destroyLoop => cases halive
  | _ => exact halive

theorem step_joined {joiner : JoinId} {state next : State} {action : Action}
    (hjoined : Joined joiner state) (hinside : action.fromOutside = false)
    (hstep : machine.step state action = some next) : Joined joiner next := by
  have hmove := step_move hstep
  have hquiet : next.alive = true → (next.joiners joiner).hasPassed = true → Quiet state := by
    intro halive hpassed
    have hbefore := move_alive hmove halive
    rcases move_joiner hmove hpassed with hsame | hjoin
    · exact hjoined.quiet hbefore (hsame ▸ hpassed)
    · rcases stepJoin_passed hjoin hbefore hpassed with hearlier | hzero
      · exact hjoined.quiet hbefore hearlier
      · exact hjoined.balanced.quiet_of_zero hzero
  refine ⟨step_balanced hjoined.balanced hstep, ?_, ?_⟩
  · exact fun halive hpassed => ((hquiet halive hpassed).move hmove hinside).1
  · intro halive result hreturned
    have hpassed : (next.joiners joiner).hasPassed = true := by rw [hreturned]; rfl
    rw [((hquiet halive hpassed).move hmove hinside).2]
    have hbefore := move_alive hmove halive
    rcases move_joiner hmove hpassed with hsame | hjoin
    · exact hjoined.result hbefore result (hsame.trans hreturned)
    · rcases stepJoin_returned hjoin hreturned with hearlier | ⟨_, hread⟩ | ⟨_, hdead⟩
      · exact hjoined.result hbefore result hearlier
      · exact hread
      · simp [hbefore] at hdead

/-- A `join` on a live loop begins with its wait. -/
theorem join_joined {joiner : JoinId} {onLoop : Bool} {state next : State}
    (hbalanced : Balanced state) (hstep : machine.step state (.join joiner onLoop) = some next) :
    Joined joiner next := by
  have hnext := step_balanced hbalanced hstep
  simp only [machine, State.step, State.stepJoin, Option.ite_none_right_eq_some,
    Option.some.injEq] at hstep
  obtain ⟨_, rfl⟩ := hstep
  have hwaiting : state.alive = true → ((state.setJoiner joiner
      (if !state.alive then .returned none else if onLoop then .fiberLocking else .locking)).joiners
        joiner).hasPassed = false := by
    intro halive
    cases onLoop <;> simp [State.setJoiner, halive, Joiner.hasPassed]
  refine ⟨hnext, fun halive hpassed => ?_, fun halive result hreturned => ?_⟩
  · rw [hwaiting halive] at hpassed
    cases hpassed
  · have hpassed := hwaiting halive
    rw [hreturned] at hpassed
    cases hpassed

theorem move_cancel {state next : State} {action : Action} (hmove : Move state action next)
    (hcancel : state.cancelRequested = true) : next.cancelRequested = true := by
  cases hmove with
  | joins _ _ hnext =>
      rw [hnext]
      exact hcancel
  | requestCancel => rfl
  | mark id hfiber => rfl
  | _ => exact hcancel

theorem run_cancel (actions : List Action) (state final : State)
    (hcancel : state.cancelRequested = true) (hrun : machine.run actions state = some final) :
    final.cancelRequested = true := by
  induction actions generalizing state with
  | nil =>
      obtain rfl := Option.some.inj hrun
      exact hcancel
  | cons action rest ih =>
      simp only [Machine.run_cons, Option.bind_eq_some_iff] at hrun
      obtain ⟨next, hstep, hrest⟩ := hrun
      exact ih next (move_cancel (step_move hstep) hcancel) hrest

theorem reachable_recording {state : State} (hreach : machine.Reachable initial state) :
    Recording state :=
  Machine.reachable_invariant
    (fun _ _ _ hrecording hstep => move_recording hrecording (step_move hstep)) initial_recording
    hreach

/-- The outcome that a quiet scope holds. -/
theorem Recording.reports {state : State} (hrecording : Recording state) (hquiet : Quiet state) :
    Reports state state.firstException := by
  refine ⟨hquiet, ?_, ?_, hrecording.agreed⟩
  · rw [hrecording.first, Option.map_eq_none_iff, List.head?_eq_none_iff]
    constructor
    · intro hnone
      refine List.eq_nil_iff_forall_not_mem.mpr fun failure hmem => ?_
      rcases hrecording.pending failure.1 failure.2 hmem with hrecorded | hcaught | hlocked
      · simp [hnone] at hrecorded
      · simpa [hcaught, Fiber.holdsActive] using hquiet failure.1
      · simpa [hlocked, Fiber.holdsActive] using hquiet failure.1
    · intro hnone
      refine List.eq_nil_iff_forall_not_mem.mpr fun failure hmem => ?_
      simpa [hnone] using hrecording.thrown failure.1 failure.2 (Or.inl hmem)
  · intro exn hexn
    rw [hrecording.first] at hexn
    cases hfailures : state.failures with
    | nil => simp [hfailures] at hexn
    | cons failure rest =>
        simp only [hfailures, List.head?_cons, Option.map_some, Option.some.injEq] at hexn
        exact ⟨failure.1, rest, by rw [← hexn]⟩

/-- A `join` that started after the owner had stopped spawning, and returned while the loop
was alive, reports exactly the outcome of the scope; and from the moment a failure is
recorded every token reports a stop. -/
theorem join_reports_outcome (actions : List Action) (state : State)
    (hrun : machine.run actions initial = some state) :
    (∀ before after middle id, actions = before ++ after →
      machine.run before initial = some middle → Recorded middle id →
        ∀ locked ∈ [none, some state], stopRequested locked = true) ∧
      ∀ before after joiner onLoop result, actions = before ++ .join joiner onLoop :: after →
        (∀ action ∈ after, action.fromOutside = false) → state.alive = true →
          state.joiners joiner = .returned result → Reports state result := by
  have hrecording := reachable_recording ⟨actions, hrun⟩
  constructor
  · intro before after middle id hsplit hmiddle hrecorded locked hlocked
    obtain ⟨⟨exn, hmem⟩, hnot⟩ := hrecorded
    have hcancel : middle.cancelRequested = true :=
      ((reachable_recording ⟨before, hmiddle⟩).cancelled id exn hmem).resolve_right hnot
    rw [hsplit, Machine.run_append, hmiddle, Option.bind_some] at hrun
    have hstop := run_cancel after middle state hcancel hrun
    rcases List.mem_pair.mp hlocked with rfl | rfl
    · rfl
    · exact hstop
  · intro before after joiner onLoop result hsplit hstopped halive hreturned
    rw [hsplit, Machine.run_append, Option.bind_eq_some_iff] at hrun
    obtain ⟨middle, hmiddle, hrun⟩ := hrun
    rw [Machine.run_cons, Option.bind_eq_some_iff] at hrun
    obtain ⟨waiting, hjoin, hafter⟩ := hrun
    have hstart : Joined joiner waiting := join_joined (reachable_balanced ⟨before, hmiddle⟩) hjoin
    have hmeets : machine.Meets (fun _ action => action.fromOutside = false) after waiting := by
      rw [Machine.meets_iff_forall]
      intro first action rest _ hafter _
      exact hstopped action (by simp [hafter])
    have hjoined : Joined joiner state :=
      Machine.run_invariant (fun _ _ _ => step_joined) after waiting state hstart hmeets hafter
    rw [hjoined.result halive result hreturned]
    exact hrecording.reports (hjoined.quiet halive (by rw [hreturned]; rfl))

/-- A task spawns another one, both throw, and a joiner off the loop returns. -/
def nestedFailures : List Action :=
  [.accept .outside 0, .count 0, .create 0, .join 7 false, .joinLock 7, .joinTest 7, .joinPark 7,
    .accept (.task 0) 1, .count 1, .create 1, .taskThrow 0 10, .taskThrow 1 11, .lockMutex 1,
    .record 1, .mark 1, .unlockMutex 1, .lockMutex 0, .record 0, .mark 0, .unlockMutex 0,
    .fetchSub 1, .fetchSub 0, .notifyCv 0, .notifyStdCv 0, .joinLock 7, .joinTest 7,
    .joinUnlock 7, .joinReport 7]

theorem join_reports_nestedFailures :
    ∃ state, machine.run nestedFailures initial = some state ∧
      state.joiners 7 = .returned (some 11) ∧ Reports state (some 11) := by
  refine ⟨_, rfl, rfl, (join_reports_outcome nestedFailures _ rfl).2 (nestedFailures.take 3)
    (nestedFailures.drop 4) 7 false (some 11) rfl (by decide) rfl rfl⟩

end Fiberuv.TaskScope.Fibers
