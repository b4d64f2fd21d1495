import Fiberuv.TaskScope.Tokens

/-! # Stop requests are final

A token answers `true` because of a cancellation, which is never taken back, or because the
state of the scope is gone, which nobody can bring back: only owners hand out ownership. A
running task owns the state through its closure, so its own token answers from the
cancellation alone.
-/

namespace Fiberuv.TaskScope.Fibers.Tokens

open Foundation
open TimedJoin (caller waiter)

/-- The step of a scope that cancels it: a request, or a task that has thrown. -/
def raises : Fibers.Action → Bool
  | .requestCancel | .mark _ => true
  | _ => false

def Action.cancels : Action → Bool
  | .scope (.scope action) => raises action
  | _ => false

theorem move_cancelRequested {state next : Fibers.State} {action : Fibers.Action}
    (hmove : Move state action next) :
    next.cancelRequested = (state.cancelRequested || raises action) := by
  cases hmove with
  | requestCancel => simp [raises]
  | mark => simp [raises, Fibers.State.setFiber]
  | joins _ hstep hnext =>
      have hraises : raises action = false := by
        cases action <;> first | rfl | cases hstep
      rw [hnext, hraises, Bool.or_false]
  | notifyCv => simp [raises, Fibers.State.setFiber, Fibers.State.notifyCv]
  | notifyStdCv => simp [raises, Fibers.State.setFiber, Fibers.State.notifyStdCv]
  | _ => simp [raises, Fibers.State.setFiber]

theorem step_cancelRequested {scope next : TimedJoin.State} {action : TimedJoin.Action}
    (hstep : TimedJoin.machine.step scope action = some next) :
    next.scope.cancelRequested =
      (scope.scope.cancelRequested || (Action.scope action).cancels) := by
  cases TimedJoin.step_moves hstep with
  | scope inner _ hinner => exact move_cancelRequested (step_move hinner)
  | enter _ _ _ _ hinner =>
      rw [TimedJoin.State.setTimed, move_cancelRequested (step_move hinner)]
      rfl
  | wait inner _ _ _ hwaiter _ hinner =>
      have hraises : raises inner = false := by
        cases inner <;> first | rfl | cases hwaiter
      rw [TimedJoin.State.setTimed, move_cancelRequested (step_move hinner), hraises]
      rfl
  | giveUp inner joiner _ _ _ =>
      obtain ⟨mutex, stdMutex, hgiveUp⟩ := TimedJoin.giveUp_eq scope joiner inner
      rw [hgiveUp]
      simp [Action.cancels, TimedJoin.State.setTimed, Fibers.State.setJoiner]
  | expire _ _ _ hinner =>
      rw [TimedJoin.State.setTimed, move_cancelRequested (step_move hinner)]
      rfl

/-- The invariant: the counts are those of the owners, and a `true` was justified. -/
structure Sound (state : State) : Prop where
  closures : CountedBy state.closureRefs state.closures id
  joins : CountedBy state.joinRefs state.scope.scope.joiners holds
  asks : CountedBy state.askRefs state.asks Ask.holds
  owned : ∀ id, ofTask (state.scope.scope.fibers id) = true → state.closures id = true
  final : state.answers.Pairwise fun earlier later => earlier = true → later = true
  justified : true ∈ state.answers → state.cancelRequested = true ∨ state.useCount = 0

theorem initial_sound : Sound initial where
  closures := countedBy_zero fun _ => rfl
  joins := countedBy_zero fun _ => rfl
  asks := countedBy_zero fun _ => rfl
  owned := fun _ => nofun
  final := List.Pairwise.nil
  justified := nofun

variable {state next : State} {action : Action}

theorem useCount_eq_zero : state.useCount = 0 ↔
    state.object = false ∧ state.closureRefs = 0 ∧ state.joinRefs = 0 ∧ state.askRefs = 0 := by
  rw [State.useCount]
  cases state.object <;> simp
  omega

/-- What a step of the scope makes of the owners. -/
theorem scopeStep_eq {inner : TimedJoin.Action}
    (hstep : machine.step state (.scope inner) = some next) :
    (usesObject inner = true → state.object = true) ∧
      ∃ scope, TimedJoin.machine.step state.scope inner = some scope ∧
        next = (state.trackClosure (closure inner)).trackJoin (joining inner) scope := by
  simp only [machine, State.step] at hstep
  split at hstep
  · cases hstep
  next hobject =>
    rw [Option.map_eq_some_iff] at hstep
    obtain ⟨scope, hscope, rfl⟩ := hstep
    exact ⟨fun huses => by simpa [huses] using hobject, scope, hscope, rfl⟩

theorem closures_track (hclosures : CountedBy state.closureRefs state.closures id)
    (change : Option (FiberId × Bool)) :
    CountedBy (state.trackClosure change).closureRefs (state.trackClosure change).closures id := by
  cases change with
  | none => exact hclosures
  | some change => exact hclosures.update change.1 change.2

theorem trackClosure_frame (state : State) (change : Option (FiberId × Bool)) :
    state.trackClosure change = { state with
      closures := (state.trackClosure change).closures
      closureRefs := (state.trackClosure change).closureRefs } := by
  cases change <;> rfl

/-- A state that nobody owns stays so. -/
theorem gone_step (hsound : Sound state) (hgone : state.useCount = 0)
    (hstep : machine.step state action = some next) : next.useCount = 0 := by
  obtain ⟨hobject, hclosures, hjoins, hasks⟩ := useCount_eq_zero.mp hgone
  cases action with
  | scope inner =>
      obtain ⟨huses, scope, hscope, rfl⟩ := scopeStep_eq hstep
      have hunused : usesObject inner = false := by
        cases hcase : usesObject inner with
        | false => rfl
        | true => simp [huses hcase] at hobject
      have htrack : (state.trackClosure (closure inner)).closureRefs = 0 := by
        cases hclosure : closure inner with
        | none => exact hclosures
        | some change =>
            obtain ⟨target, owns⟩ := change
            cases owns with
            | false => simp [State.trackClosure, hclosures]
            | true =>
                unfold closure at hclosure
                split at hclosure <;> simp_all [usesObject]
      rw [useCount_eq_zero, trackClosure_frame]
      refine ⟨hobject, htrack, ?_, hasks⟩
      cases joinStep hscope with
      | stays hjoining => simpa [State.trackJoin, hjoining] using hjoins
      | moves who position hjoining hjoiners hbegun =>
          have hholds := hbegun.resolve_left (by simp [hunused])
          have hpos := hsound.joins.pos hholds
          omega
  | release =>
      simp only [machine, State.step, hobject] at hstep
      cases hstep
  | lock ask asker =>
      simp only [machine, State.step, Option.ite_none_right_eq_some, Option.some.injEq] at hstep
      obtain ⟨_, rfl⟩ := hstep
      rw [State.lock, if_pos hgone, useCount_eq_zero]
      exact ⟨hobject, hclosures, hjoins, by simp [State.setAsk, hasks, Ask.holds]⟩
  | load ask =>
      simp only [machine, State.step, Option.ite_none_right_eq_some, Option.some.injEq] at hstep
      have hholds : (state.asks ask).holds = true := by rw [hstep.1]; rfl
      have hpos := hsound.asks.pos hholds
      omega
  | unlock ask =>
      simp only [machine, State.step, Option.ite_none_right_eq_some, Option.some.injEq] at hstep
      have hholds : (state.asks ask).holds = true := by rw [hstep.1]; rfl
      have hpos := hsound.asks.pos hholds
      omega

theorem cancelRequested_step (hstep : machine.step state action = some next) :
    next.cancelRequested = (state.cancelRequested || action.cancels) := by
  cases action with
  | scope inner =>
      obtain ⟨-, scope, hscope, rfl⟩ := scopeStep_eq hstep
      exact step_cancelRequested hscope
  | release =>
      simp only [machine, State.step, Option.ite_none_right_eq_some, Option.some.injEq] at hstep
      obtain ⟨_, rfl⟩ := hstep
      simp [State.cancelRequested, Action.cancels]
  | lock ask asker =>
      simp only [machine, State.step, Option.ite_none_right_eq_some, Option.some.injEq] at hstep
      obtain ⟨_, rfl⟩ := hstep
      rw [State.lock]
      split <;> simp [State.cancelRequested, State.setAsk, Action.cancels]
  | load ask =>
      simp only [machine, State.step, Option.ite_none_right_eq_some, Option.some.injEq] at hstep
      obtain ⟨_, rfl⟩ := hstep
      simp [State.cancelRequested, State.setAsk, Action.cancels]
  | unlock ask =>
      simp only [machine, State.step, Option.ite_none_right_eq_some, Option.some.injEq] at hstep
      obtain ⟨_, rfl⟩ := hstep
      simp [State.cancelRequested, State.setAsk, Action.cancels]

/-- What a step adds to the answers. -/
inductive Answers (state next : State) : Prop where
  | none (hsame : next.answers = state.answers)
  | gone (hgone : state.useCount = 0) (hanswers : next.answers = state.answers ++ [true])
  | read (hanswers : next.answers = state.answers ++ [state.cancelRequested])
      (howned : state.useCount ≠ 0)

theorem step_answers (hsound : Sound state) (hstep : machine.step state action = some next) :
    Answers state next := by
  cases action with
  | scope inner =>
      obtain ⟨-, scope, -, rfl⟩ := scopeStep_eq hstep
      rw [trackClosure_frame]
      exact .none rfl
  | release =>
      simp only [machine, State.step, Option.ite_none_right_eq_some, Option.some.injEq] at hstep
      obtain ⟨_, rfl⟩ := hstep
      exact .none rfl
  | lock ask asker =>
      simp only [machine, State.step, Option.ite_none_right_eq_some, Option.some.injEq] at hstep
      obtain ⟨_, rfl⟩ := hstep
      rw [State.lock]
      split
      next hgone => exact .gone hgone rfl
      · exact .none rfl
  | load ask =>
      simp only [machine, State.step, Option.ite_none_right_eq_some, Option.some.injEq] at hstep
      obtain ⟨hlocked, rfl⟩ := hstep
      have hholds : (state.asks ask).holds = true := by rw [hlocked]; rfl
      have hpos := hsound.asks.pos hholds
      exact .read rfl fun hgone => by
        rw [useCount_eq_zero] at hgone
        omega
  | unlock ask =>
      simp only [machine, State.step, Option.ite_none_right_eq_some, Option.some.injEq] at hstep
      obtain ⟨_, rfl⟩ := hstep
      exact .none rfl

theorem step_sound (hsound : Sound state) (hstep : machine.step state action = some next) :
    Sound next := by
  have hstays : state.cancelRequested = true ∨ state.useCount = 0 →
      next.cancelRequested = true ∨ next.useCount = 0 := by
    rintro (hcancel | hgone)
    · exact .inl (by rw [cancelRequested_step hstep, hcancel, Bool.true_or])
    · exact .inr (gone_step hsound hgone hstep)
  -- A true answer is told by the flag or by the count, and neither goes back: so every
  -- later answer is true as well.
  have hanswers : (next.answers.Pairwise fun earlier later => earlier = true → later = true) ∧
      (true ∈ next.answers → next.cancelRequested = true ∨ next.useCount = 0) := by
    cases step_answers hsound hstep with
    | none hsame => exact hsame ▸ ⟨hsound.final, fun htrue => hstays (hsound.justified htrue)⟩
    | gone hgone hnew =>
        rw [hnew]
        refine ⟨List.pairwise_append.mpr ⟨hsound.final, List.pairwise_singleton .., ?_⟩,
          fun _ => hstays (.inr hgone)⟩
        simp
    | read hnew howned =>
        rw [hnew]
        have hcause : true ∈ state.answers → state.cancelRequested = true :=
          fun htrue => (hsound.justified htrue).resolve_right howned
        refine ⟨List.pairwise_append.mpr ⟨hsound.final, List.pairwise_singleton .., ?_⟩,
          fun htrue => ?_⟩
        · intro earlier hearlier later hlater htrue
          rw [List.mem_singleton.mp hlater]
          exact hcause (htrue ▸ hearlier)
        · rcases List.mem_append.mp htrue with hold | hlast
          · exact hstays (hsound.justified hold)
          · exact hstays (.inl (List.mem_singleton.mp hlast).symm)
  have hask : ∀ ask position, CountedBy (state.setAsk ask position).askRefs
      (state.setAsk ask position).asks Ask.holds :=
    fun ask position => hsound.asks.update ask position
  cases action with
  | scope inner =>
      obtain ⟨-, scope, hscope, rfl⟩ := scopeStep_eq hstep
      refine ⟨closures_track hsound.closures (closure inner), ?_, ?_, fun id hof => ?_,
        hanswers.1, hanswers.2⟩
      · rw [trackClosure_frame]
        cases joinStep hscope with
        | stays hjoining hsame =>
            simp only [State.trackJoin, hjoining]
            exact hsound.joins.congr hsame
        | moves who position hjoining hjoiners hbegun =>
            simp only [State.trackJoin, hjoining, hjoiners, Function.update_self]
            exact hsound.joins.update who position
      · rw [trackClosure_frame]
        exact hsound.asks
      · rcases step_ofTask hscope id hof with hnew | ⟨hold, hkept⟩
        · simp [State.trackJoin, State.trackClosure, hnew]
        · have howned := hsound.owned id hold
          cases hclosure : closure inner with
          | none => exact howned
          | some change =>
              obtain ⟨target, owns⟩ := change
              by_cases heq : id = target
              · subst heq
                cases owns with
                | false => exact absurd hclosure hkept
                | true => simp [State.trackJoin, State.trackClosure]
              · simpa [State.trackJoin, State.trackClosure, heq] using howned
  | release =>
      simp only [machine, State.step, Option.ite_none_right_eq_some, Option.some.injEq] at hstep
      obtain ⟨_, rfl⟩ := hstep
      exact ⟨hsound.closures, hsound.joins, hsound.asks, hsound.owned, hanswers.1, hanswers.2⟩
  | lock ask asker =>
      simp only [machine, State.step, Option.ite_none_right_eq_some, Option.some.injEq] at hstep
      obtain ⟨_, rfl⟩ := hstep
      rw [State.lock] at hanswers ⊢
      split at hanswers
      next hgone =>
        rw [if_pos hgone]
        exact ⟨hsound.closures, hsound.joins, hask ask .answered, hsound.owned, hanswers.1,
          hanswers.2⟩
      next howned =>
        rw [if_neg howned]
        exact ⟨hsound.closures, hsound.joins, hask ask .locked, hsound.owned, hanswers.1,
          hanswers.2⟩
  | load ask =>
      simp only [machine, State.step, Option.ite_none_right_eq_some, Option.some.injEq] at hstep
      obtain ⟨_, rfl⟩ := hstep
      exact ⟨hsound.closures, hsound.joins, hask ask .leaving, hsound.owned, hanswers.1,
        hanswers.2⟩
  | unlock ask =>
      simp only [machine, State.step, Option.ite_none_right_eq_some, Option.some.injEq] at hstep
      obtain ⟨_, rfl⟩ := hstep
      exact ⟨hsound.closures, hsound.joins, hask ask .answered, hsound.owned, hanswers.1,
        hanswers.2⟩

theorem reachable_sound (hreach : machine.Reachable initial state) : Sound state :=
  Machine.reachable_invariant (fun _ _ _ => step_sound) initial_sound hreach

/-- Nobody owns the state. -/
structure Unowned (state : State) : Prop where
  object : state.object = false
  closures : ∀ id, state.closures id = false
  joins : ∀ joiner, holds (state.scope.scope.joiners joiner) = false
  asks : ∀ ask, (state.asks ask).holds = false

theorem Sound.gone_iff (hsound : Sound state) : state.useCount = 0 ↔ Unowned state := by
  have hnobody : ∀ {Member Position : Type} {count : Nat} {places : Member → Position}
      {counts : Position → Bool}, CountedBy count places counts →
      (count = 0 ↔ ∀ member, counts (places member) = false) := by
    intro Member Position count places counts hcounted
    rw [hcounted.eq, census_eq_zero hcounted.finite]
    simp
  rw [useCount_eq_zero, hnobody hsound.closures, hnobody hsound.joins, hnobody hsound.asks]
  exact ⟨fun ⟨hobject, hclosures, hjoins, hasks⟩ => ⟨hobject, hclosures, hjoins, hasks⟩,
    fun hunowned => ⟨hunowned.object, hunowned.closures, hunowned.joins, hunowned.asks⟩⟩

/-- From a state in which the stop is due, every answer is `true`. -/
theorem run_heard {actions : List Action} (hsound : Sound state)
    (hdue : state.cancelRequested = true ∨ state.useCount = 0)
    (hrun : machine.run actions state = some next) :
    ∃ later, next.answers = state.answers ++ later ∧ ∀ answer ∈ later, answer = true := by
  have hstep : ∀ middle action after, (Sound middle ∧
      (middle.cancelRequested = true ∨ middle.useCount = 0) ∧
      ∃ later, middle.answers = state.answers ++ later ∧ ∀ answer ∈ later, answer = true) → True →
      machine.step middle action = some after → Sound after ∧
      (after.cancelRequested = true ∨ after.useCount = 0) ∧
      ∃ later, after.answers = state.answers ++ later ∧ ∀ answer ∈ later, answer = true := by
    rintro middle action after ⟨hmiddle, hstop, later, hanswers, hlater⟩ - hafter
    refine ⟨step_sound hmiddle hafter, ?_, ?_⟩
    · rcases hstop with hcancel | hgone
      · exact .inl (by rw [cancelRequested_step hafter, hcancel, Bool.true_or])
      · exact .inr (gone_step hmiddle hgone hafter)
    · cases step_answers hmiddle hafter with
      | none hsame => exact ⟨later, hsame.trans hanswers, hlater⟩
      | gone _ hnew =>
          refine ⟨later ++ [true], by rw [hnew, hanswers, List.append_assoc], ?_⟩
          simpa using hlater
      | read hnew howned =>
          rw [hstop.resolve_right howned] at hnew
          refine ⟨later ++ [true], by rw [hnew, hanswers, List.append_assoc], ?_⟩
          simpa using hlater
  exact (Machine.run_invariant hstep actions state next
    ⟨hsound, hdue, [], (List.append_nil _).symm, nofun⟩ (Machine.meets_true _ _) hrun).2.2

/-- Once a token has answered `true`, so do all tokens of the scope. A `true` means that the
scope was cancelled, by a request or a task that threw, or that nobody owns its state; both
are heard by every later call, and a running task never finds its own scope gone. -/
theorem stop_requests_are_final (actions : List Action) (state : State)
    (hrun : machine.run actions initial = some state) :
    (state.answers.Pairwise fun earlier later => earlier = true → later = true) ∧
      (true ∈ state.answers → actions.any Action.cancels = true ∨ Unowned state) ∧
      (∀ before after middle, actions = before ++ after →
        machine.run before initial = some middle →
        before.any Action.cancels = true ∨ Unowned middle →
        ∃ later, state.answers = middle.answers ++ later ∧ ∀ answer ∈ later, answer = true) ∧
      ∀ before after ask id middle, actions = before ++ .lock ask (some id) :: after →
        machine.run before initial = some middle → ¬ Unowned middle := by
  have hsound := reachable_sound ⟨actions, hrun⟩
  have hcancel : ∀ {labels reached}, machine.run labels initial = some reached →
      reached.cancelRequested = labels.any Action.cancels := by
    intro labels reached hreached
    have hflag := Machine.run_flag (fun _ _ _ => cancelRequested_step) labels initial reached
      hreached
    rwa [show initial.cancelRequested = false from rfl, Bool.false_or] at hflag
  refine ⟨hsound.final, fun htrue => ?_, fun before after middle hsplit hmiddle hdue => ?_,
    fun before after ask id middle hsplit hmiddle hunowned => ?_⟩
  · rw [← hcancel hrun, ← hsound.gone_iff]
    exact hsound.justified htrue
  · rw [hsplit, Machine.run_append, hmiddle, Option.bind_some] at hrun
    have hearlier := reachable_sound ⟨before, hmiddle⟩
    rw [← hcancel hmiddle, ← hearlier.gone_iff] at hdue
    exact run_heard hearlier hdue hrun
  · rw [hsplit, Machine.run_append, hmiddle, Option.bind_some, Machine.run_cons,
      Option.bind_eq_some_iff] at hrun
    obtain ⟨next, hstep, -⟩ := hrun
    simp only [machine, State.step, Option.ite_none_right_eq_some, State.canAsk,
      decide_eq_true_eq] at hstep
    have howned := (reachable_sound ⟨before, hmiddle⟩).owned id (by rw [hstep.1.2]; rfl)
    simp [hunowned.closures id] at howned

/-- A task asks before and after its scope object is gone; another token asks when nothing of
the scope is left. -/
def orphaned : List Action :=
  [.scope (.scope (.accept .outside 0)), .scope (.scope (.count 0)), .scope (.scope (.create 0)),
    .lock 0 (some 0), .load 0, .unlock 0, .release, .lock 1 (some 0), .load 1, .unlock 1,
    .scope (.scope (.taskReturn 0)), .scope (.scope (.fetchSub 0)), .scope (.scope (.notifyCv 0)),
    .scope (.scope (.notifyStdCv 0)), .scope (.scope (.fiberDone 0)), .lock 2 none]

theorem stop_requests_orphaned :
    ∃ state, machine.run orphaned initial = some state ∧
      state.answers = [false, false, true] ∧ orphaned.any Action.cancels = false ∧
      (true ∈ state.answers → orphaned.any Action.cancels = true ∨ Unowned state) :=
  ⟨_, rfl, rfl, rfl, (stop_requests_are_final orphaned _ rfl).2.1⟩

end Fiberuv.TaskScope.Fibers.Tokens
