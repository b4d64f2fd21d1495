import Fiberuv.TaskScope.Fibers

/-! # The counters of tasks and fibers

Both `spawn` functions increment their counter before work that can throw, and only the
body of the fiber decrements it. A counter always is the census of the spawns that have
incremented it and not decremented it, so it matches the live tasks exactly when no spawn
was lost in between.
-/

namespace Fiberuv.TaskScope.Fibers

open Foundation

/-- `active` counts this spawn. -/
def Fiber.holdsActive : Fiber → Bool
  | .admitted | .counted .task | .lostTask | .lost .task | .running .task => true
  | .caught _ | .recording _ | .marking | .unlocking | .finishing => true
  | _ => false

/-- `active_fibers_` counts this spawn. -/
def Fiber.holdsFiber : Fiber → Bool
  | .counted _ | .lost _ | .running _ | .caught _ | .recording _ | .marking => true
  | .unlocking | .finishing | .last | .cvNotified | .leaving => true
  | _ => false

/-- A task of the scope that was created and has not finished. -/
def Fiber.liveTask : Fiber → Bool
  | .running .task | .caught _ | .recording _ | .marking | .unlocking | .finishing => true
  | _ => false

/-- A fiber that was created and has not finished. -/
def Fiber.liveFiber : Fiber → Bool
  | .running _ | .caught _ | .recording _ | .marking => true
  | .unlocking | .finishing | .last | .cvNotified | .leaving => true
  | _ => false

/-- The spawn has counted its task or fiber and neither created it nor thrown yet. -/
def Fiber.inSpawn : Fiber → Bool
  | .admitted | .counted _ => true
  | _ => false

/-- The spawn threw after it had counted. -/
def Fiber.isLost : Fiber → Bool
  | .lostTask | .lost _ => true
  | _ => false

/-- A spawn throws after a counter was incremented. -/
def Action.leaks : Action → Bool
  | .closureThrow _ | .fiberThrow _ => true
  | _ => false

/-- No call of `spawn` is in progress. -/
def Settled (state : State) : Prop :=
  ∀ id, (state.fibers id).inSpawn = false

/-- The counters are the numbers of live tasks and fibers. -/
structure Matches (state : State) : Prop where
  active : state.active = census state.fibers fun position => position.liveTask = true
  activeFibers : state.activeFibers = census state.fibers fun position => position.liveFiber = true

structure Balanced (state : State) : Prop where
  active : CountedBy state.active state.fibers Fiber.holdsActive
  activeFibers : CountedBy state.activeFibers state.fibers Fiber.holdsFiber

theorem Balanced.setFiber {state base : State} (hbalanced : Balanced state) {id : FiberId}
    {before position : Fiber} (hfiber : state.fibers id = before)
    (hfibers : base.fibers = state.fibers)
    (hactive : base.active =
      state.active + position.holdsActive.toNat - before.holdsActive.toNat)
    (hactiveFibers : base.activeFibers =
      state.activeFibers + position.holdsFiber.toNat - before.holdsFiber.toNat) :
    Balanced (base.setFiber id position) := by
  have hscope := hbalanced.active.update id position
  have hloop := hbalanced.activeFibers.update id position
  rw [hfiber, ← hfibers] at hscope hloop
  exact ⟨hactive ▸ hscope, hactiveFibers ▸ hloop⟩

theorem move_balanced {state next : State} {action : Action} (hbalanced : Balanced state)
    (hmove : Move state action next) : Balanced next := by
  cases hmove with
  | requestCancel => exact ⟨hbalanced.active, hbalanced.activeFibers⟩
  | destroyLoop => exact ⟨hbalanced.active, hbalanced.activeFibers⟩
  | joins _ _ hnext =>
      rw [hnext]
      exact ⟨hbalanced.active, hbalanced.activeFibers⟩
  | fetchSub id hfiber =>
      split
      · exact hbalanced.setFiber hfiber rfl rfl rfl
      · exact hbalanced.setFiber hfiber rfl rfl rfl
  | create id kind hfiber =>
      cases kind <;> exact hbalanced.setFiber hfiber rfl rfl rfl
  | fiberThrow id kind hfiber =>
      cases kind <;> exact hbalanced.setFiber hfiber rfl rfl rfl
  | accept spawner id hfiber hspawner => exact hbalanced.setFiber hfiber rfl rfl rfl
  | taskThrow id exn hfiber => exact hbalanced.setFiber hfiber rfl rfl rfl
  | lockMutex id exn hfiber hfree => exact hbalanced.setFiber hfiber rfl rfl rfl
  | record id exn hfiber => exact hbalanced.setFiber hfiber rfl rfl rfl
  | plainEnd id threw hfiber => exact hbalanced.setFiber hfiber rfl rfl rfl
  | refuse id hfiber | closureThrow id hfiber | count id hfiber | countPlain id hfiber
  | taskReturn id hfiber | mark id hfiber | unlockMutex id hfiber | notifyCv id hfiber
  | notifyStdCv id hfiber | fiberDone id hfiber => exact hbalanced.setFiber hfiber rfl rfl rfl

theorem initial_balanced : Balanced initial :=
  ⟨countedBy_zero fun _ => rfl, countedBy_zero fun _ => rfl⟩

theorem step_balanced {state next : State} {action : Action} (hbalanced : Balanced state)
    (hstep : machine.step state action = some next) : Balanced next :=
  move_balanced hbalanced (step_move hstep)

theorem reachable_balanced {state : State} (hreach : machine.Reachable initial state) :
    Balanced state :=
  Machine.reachable_invariant (fun _ _ _ => step_balanced) initial_balanced hreach

theorem lost_setFiber {state base : State} {id : FiberId} {before position : Fiber}
    (hfiber : state.fibers id = before) (hfibers : base.fibers = state.fibers)
    (hbefore : before.isLost = false) :
    (∃ other, ((base.setFiber id position).fibers other).isLost = true) ↔
      (∃ other, (state.fibers other).isLost = true) ∨ position.isLost = true := by
  constructor
  · rintro ⟨other, hother⟩
    by_cases heq : other = id
    · subst other
      exact Or.inr (by simpa [State.setFiber] using hother)
    · exact Or.inl ⟨other, by simpa [State.setFiber, heq, hfibers] using hother⟩
  · rintro (⟨other, hother⟩ | hposition)
    · have hne : other ≠ id := by
        rintro rfl
        simp [hfiber, hbefore] at hother
      exact ⟨other, by simpa [State.setFiber, hne, hfibers] using hother⟩
    · exact ⟨id, by simpa [State.setFiber] using hposition⟩

/-- A spawn is lost by the steps that leak and by no others, and stays lost. -/
theorem move_lost {state next : State} {action : Action} (hmove : Move state action next) :
    (∃ id, (next.fibers id).isLost = true) ↔
      (∃ id, (state.fibers id).isLost = true) ∨ action.leaks = true := by
  cases hmove with
  | requestCancel => simp [Action.leaks]
  | destroyLoop => simp [Action.leaks]
  | joins _ hstep hnext =>
      have hleaks : action.leaks = false := by cases action <;> first | rfl | cases hstep
      rw [hnext, hleaks]
      simp
  | fetchSub id hfiber =>
      split <;> exact lost_setFiber hfiber rfl rfl
  | create id kind hfiber | fiberThrow id kind hfiber => exact lost_setFiber hfiber rfl rfl
  | accept spawner id hfiber hspawner => exact lost_setFiber hfiber rfl rfl
  | taskThrow id exn hfiber => exact lost_setFiber hfiber rfl rfl
  | lockMutex id exn hfiber hfree => exact lost_setFiber hfiber rfl rfl
  | record id exn hfiber => exact lost_setFiber hfiber rfl rfl
  | plainEnd id threw hfiber => exact lost_setFiber hfiber rfl rfl
  | refuse id hfiber | closureThrow id hfiber | count id hfiber | countPlain id hfiber
  | taskReturn id hfiber | mark id hfiber | unlockMutex id hfiber | notifyCv id hfiber
  | notifyStdCv id hfiber | fiberDone id hfiber => exact lost_setFiber hfiber rfl rfl

theorem run_lost (actions : List Action) (state final : State)
    (hrun : machine.run actions state = some final) :
    (∃ id, (final.fibers id).isLost = true) ↔
      (∃ id, (state.fibers id).isLost = true) ∨ ∃ action ∈ actions, action.leaks = true := by
  induction actions generalizing state with
  | nil =>
      obtain rfl := Option.some.inj hrun
      simp
  | cons action rest ih =>
      simp only [Machine.run_cons, Option.bind_eq_some_iff] at hrun
      obtain ⟨next, hstep, hrest⟩ := hrun
      rw [ih next hrest, move_lost (step_move hstep), List.exists_mem_cons_iff, or_assoc]

/-- When no spawn is in progress, a counter is the number of live members exactly when it
counts no lost spawn. -/
theorem counter_eq_iff {fibers : FiberId → Fiber} {count : Nat} {holds live : Fiber → Bool}
    (hcounted : CountedBy count fibers holds)
    (hnarrow : ∀ position, live position = true → holds position = true)
    (hwide : ∀ position, holds position = true →
      live position = true ∨ position.inSpawn = true ∨ position.isLost = true)
    (hlost : ∀ position : Fiber, position.isLost = true → live position = false)
    (hsettled : ∀ id, (fibers id).inSpawn = false) :
    (count = census fibers fun position => live position = true) ↔
      ∀ id, (fibers id).isLost = true → holds (fibers id) = false := by
  constructor
  · intro hcount id hid
    by_contra hholds
    have hlt : (census fibers fun position => live position = true) <
        census fibers fun position => holds position = true :=
      census_lt hcounted.finite hnarrow (by simpa using hholds) (by simp [hlost _ hid])
    rw [← hcounted.eq, ← hcount] at hlt
    exact Nat.lt_irrefl _ hlt
  · intro hnone
    rw [hcounted.eq]
    refine census_congr fun id => ⟨fun hholds => ?_, hnarrow _⟩
    rcases hwide _ hholds with hlive | hspawn | hid
    · exact hlive
    · simp [hsettled id] at hspawn
    · simp [hnone id hid] at hholds

theorem active_eq_iff {state : State} (hbalanced : Balanced state) (hsettled : Settled state) :
    (state.active = census state.fibers fun position => position.liveTask = true) ↔
      ∀ id, (state.fibers id).isLost = true → (state.fibers id).holdsActive = false := by
  refine counter_eq_iff hbalanced.active ?_ ?_ ?_ hsettled
  · intro position hlive
    cases position with
    | running kind => cases kind <;> simp_all [Fiber.liveTask, Fiber.holdsActive]
    | _ => simp_all [Fiber.liveTask, Fiber.holdsActive]
  · intro position hholds
    cases position with
    | counted kind | lost kind | running kind =>
        cases kind <;> simp_all [Fiber.liveTask, Fiber.holdsActive, Fiber.inSpawn, Fiber.isLost]
    | _ => simp_all [Fiber.liveTask, Fiber.holdsActive, Fiber.inSpawn, Fiber.isLost]
  · intro position hlost
    cases position <;> simp_all [Fiber.liveTask, Fiber.isLost]

theorem activeFibers_eq_iff {state : State} (hbalanced : Balanced state)
    (hsettled : Settled state) :
    (state.activeFibers = census state.fibers fun position => position.liveFiber = true) ↔
      ∀ id, (state.fibers id).isLost = true → (state.fibers id).holdsFiber = false := by
  refine counter_eq_iff hbalanced.activeFibers ?_ ?_ ?_ hsettled
  · intro position hlive
    cases position <;> simp_all [Fiber.liveFiber, Fiber.holdsFiber]
  · intro position hholds
    cases position <;> simp_all [Fiber.liveFiber, Fiber.holdsFiber, Fiber.inSpawn, Fiber.isLost]
  · intro position hlost
    cases position <;> simp_all [Fiber.liveFiber, Fiber.isLost]

/-- Every lost spawn is counted by one of the counters. -/
theorem holds_of_lost {position : Fiber} (hlost : position.isLost = true) :
    position.holdsActive = true ∨ position.holdsFiber = true := by
  cases position with
  | lostTask => exact Or.inl rfl
  | lost kind => exact Or.inr rfl
  | _ => cases hlost

/-- After any run that leaves no spawn in progress, the counters match the live tasks and
fibers exactly when no spawn has thrown after it had incremented a counter. -/
theorem counters_match_iff (actions : List Action) (state : State)
    (hrun : machine.run actions initial = some state) (hsettled : Settled state) :
    Matches state ↔ ∀ action ∈ actions, action.leaks = false := by
  have hbalanced := reachable_balanced ⟨actions, hrun⟩
  have hlost := run_lost actions initial state hrun
  have hnone : (∃ id, (initial.fibers id).isLost = true) ↔ False := by
    simp [initial, Fiber.isLost]
  rw [hnone, false_or] at hlost
  constructor
  · intro hmatches action hmem
    by_contra hleaks
    obtain ⟨id, hid⟩ := hlost.mpr ⟨action, hmem, by simpa using hleaks⟩
    have hactive := (active_eq_iff hbalanced hsettled).mp hmatches.active id hid
    have hactiveFibers := (activeFibers_eq_iff hbalanced hsettled).mp hmatches.activeFibers id hid
    rcases holds_of_lost hid with hholds | hholds
    · simp [hactive] at hholds
    · simp [hactiveFibers] at hholds
  · intro hkept
    have hnobody : ∀ id, ¬ (state.fibers id).isLost = true := by
      intro id hid
      obtain ⟨action, hmem, hleaks⟩ := hlost.mp ⟨id, hid⟩
      simp [hkept action hmem] at hleaks
    exact ⟨(active_eq_iff hbalanced hsettled).mpr fun id hid => absurd hid (hnobody id),
      (activeFibers_eq_iff hbalanced hsettled).mpr fun id hid => absurd hid (hnobody id)⟩

/-- One task is refused, one is running and one has finished. -/
def mixedSpawns : List Action :=
  [.refuse 0, .accept .outside 1, .count 1, .create 1, .accept (.task 1) 2, .count 2, .create 2,
    .taskThrow 2 5, .lockMutex 2, .record 2, .mark 2, .unlockMutex 2, .fetchSub 2, .fiberDone 2]

theorem counters_match_mixedSpawns :
    ∃ state, machine.run mixedSpawns initial = some state ∧ state.active = 1 ∧ Matches state := by
  refine ⟨_, rfl, rfl, (counters_match_iff mixedSpawns _ rfl ?_).mpr (by decide)⟩
  rintro (_ | _ | _ | id) <;> rfl

/-- The creation of the fiber throws: both counters keep counting a task that was never
created. -/
theorem counters_leak_fiberThrow :
    ¬ ∀ state, machine.Reachable initial state → Settled state → Matches state := by
  intro halwaysMatch
  have hmatches := halwaysMatch _ ⟨[.accept .outside 0, .count 0, .fiberThrow 0], rfl⟩
    (by rintro (_ | id) <;> rfl)
  have hnobody := hmatches.active.trans
    (census_of_nobody (by rintro (_ | id) <;> exact Bool.false_ne_true))
  cases hnobody

end Fiberuv.TaskScope.Fibers
