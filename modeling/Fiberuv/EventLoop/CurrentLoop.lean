import Fiberuv.Foundation.Machine

/-! # The current loop of a thread

`run` puts its loop into `tls_current_loop` for as long as it runs: the guard remembers
what was there and puts that back, whether `run` returns or throws. A fiber of one loop can
call `run` of another one. While that call yields, further fibers of both loops go on, and
they can do the same, so that the calls of `run` on a thread need not end in the reverse
order of their beginnings.

Nothing in `run` tests whether its loop runs already, though the `uv_run` under it may not be
entered twice.
-/

namespace Fiberuv.EventLoop.CurrentLoop

open Foundation

abbrev LoopId := Nat
abbrev CallId := Nat

/-- The guard of a call of `run`. -/
structure CurrentLoopGuard where
  call : CallId
  loop : LoopId
  previous : Option LoopId
  deriving DecidableEq

/-- One thread. The guard of the latest call of `run` comes first. -/
structure State where
  tlsCurrentLoop : Option LoopId := none
  guards : List CurrentLoopGuard := []
  /-- The calls of `run` so far, which are numbered from zero. -/
  calls : Nat := 0
  deriving DecidableEq

inductive Action where
  | enterRun (loop : LoopId)
  | leaveRun (call : CallId)
  deriving DecidableEq

namespace State

/-- The loops that run on this thread. -/
def running (state : State) : List LoopId :=
  state.guards.map CurrentLoopGuard.loop

def enterRun (state : State) (loop : LoopId) : State where
  tlsCurrentLoop := some loop
  guards := ⟨state.calls, loop, state.tlsCurrentLoop⟩ :: state.guards
  calls := state.calls + 1

/-- The destructor of this guard. -/
def leaveRun (state : State) (guard : CurrentLoopGuard) : State :=
  { state with
    tlsCurrentLoop := guard.previous
    guards := state.guards.erase guard }

def step (state : State) : Action → Option State
  | .enterRun loop => some (state.enterRun loop)
  | .leaveRun call => (state.guards.find? (·.call = call)).map state.leaveRun

/-- The loop of the call of `run` that began last, of those that have not ended. -/
def innermost (state : State) : Option LoopId :=
  state.running.head?

end State

def machine : Machine State Action where
  step := State.step

def initial : State := {}

/-- What `get_current_loop` and everything that goes by it, such as `sleep_for`, `stop_loop` and
`invoke_on_loop`, takes for the current loop is the innermost one. -/
def Faithful (state : State) : Prop :=
  state.tlsCurrentLoop = state.innermost

/-- Only the innermost call of `run` ends. -/
def Nested (state : State) : Action → Prop
  | .enterRun _ => True
  | .leaveRun call => state.guards.head?.map CurrentLoopGuard.call = some call

/-- No loop is run by two calls at once. -/
def OneCallEach (state : State) : Action → Prop
  | .enterRun loop => loop ∉ state.running
  | .leaveRun _ => True

/-- Every guard remembers the loop of the guard before it. -/
def Linked : List CurrentLoopGuard → Prop
  | [] => True
  | guard :: rest => guard.previous = rest.head?.map CurrentLoopGuard.loop ∧ Linked rest

structure Sound (state : State) : Prop where
  faithful : Faithful state
  linked : Linked state.guards

theorem sound_initial : Sound initial where
  faithful := rfl
  linked := trivial

theorem innermost_eq (state : State) :
    state.innermost = state.guards.head?.map CurrentLoopGuard.loop :=
  List.head?_map

/-- A guard remembers a loop that runs below the innermost one, or none. -/
theorem Linked.previous_mem {guards : List CurrentLoopGuard} (hlinked : Linked guards)
    {guard : CurrentLoopGuard} (hguard : guard ∈ guards) :
    guard.previous = none ∨
      ∃ below ∈ guards.tail, guard.previous = some below.loop := by
  induction guards with
  | nil => cases hguard
  | cons first rest ih =>
      obtain ⟨hprevious, hrest⟩ := hlinked
      rcases List.mem_cons.mp hguard with rfl | hin
      · cases rest with
        | nil => exact .inl hprevious
        | cons below others => exact .inr ⟨below, List.mem_cons_self, hprevious⟩
      · rcases ih hrest hin with hnone | ⟨below, hbelow, hsome⟩
        · exact .inl hnone
        · exact .inr ⟨below, List.mem_of_mem_tail hbelow, hsome⟩

section Steps

variable {state next : State}

theorem step_sound {action : Action} (hsound : Sound state) (hnested : Nested state action)
    (hstep : machine.step state action = some next) : Sound next := by
  cases action with
  | enterRun loop =>
      obtain rfl := Option.some.inj hstep
      exact ⟨rfl, hsound.faithful.trans (innermost_eq state), hsound.linked⟩
  | leaveRun call =>
      obtain ⟨guard, hfind, rfl⟩ := Option.map_eq_some_iff.mp hstep
      obtain ⟨first, hfirst, rfl⟩ := Option.map_eq_some_iff.mp hnested
      obtain ⟨rest, hguards⟩ := List.head?_eq_some_iff.mp hfirst
      rw [hguards, List.find?_cons_of_pos (by simp)] at hfind
      obtain rfl := Option.some.inj hfind
      have hrest : (state.leaveRun first).guards = rest := by
        rw [State.leaveRun, hguards, List.erase_cons_head]
      have hlinked := hsound.linked
      rw [hguards] at hlinked
      refine ⟨?_, hrest ▸ hlinked.2⟩
      rw [Faithful, innermost_eq, hrest]
      exact hlinked.1

theorem step_distinct {action : Action} (hdistinct : state.running.Nodup)
    (honce : OneCallEach state action) (hstep : machine.step state action = some next) :
    next.running.Nodup := by
  cases action with
  | enterRun loop =>
      obtain rfl := Option.some.inj hstep
      exact List.nodup_cons.mpr ⟨honce, hdistinct⟩
  | leaveRun call =>
      obtain ⟨guard, -, rfl⟩ := Option.map_eq_some_iff.mp hstep
      exact hdistinct.sublist (List.erase_sublist.map _)

/-- Where no loop is run twice, a guard that is not the innermost one puts back a loop below
the innermost one, or none. -/
theorem step_unfaithful {action : Action} (hsound : Sound state)
    (hdistinct : state.running.Nodup) (hnot : ¬ Nested state action)
    (hstep : machine.step state action = some next) : ¬ Faithful next := by
  cases action with
  | enterRun loop => exact absurd trivial hnot
  | leaveRun call =>
      obtain ⟨guard, hfind, rfl⟩ := Option.map_eq_some_iff.mp hstep
      have hmem := List.mem_of_find?_eq_some hfind
      have hcall : guard.call = call := by simpa using List.find?_some hfind
      cases hguards : state.guards with
      | nil => simp [hguards] at hmem
      | cons first rest =>
          have hne : first ≠ guard := by
            rintro rfl
            simp [Nested, hguards, hcall] at hnot
          have hstays : (state.leaveRun guard).guards = first :: rest.erase guard := by
            rw [State.leaveRun, hguards, List.erase_cons_tail (by simpa using hne)]
          rw [State.running, hguards, List.map_cons, List.nodup_cons] at hdistinct
          have hlinked := hsound.linked
          rw [hguards] at hmem hlinked
          rw [Faithful, innermost_eq, hstays, State.leaveRun]
          rcases hlinked.previous_mem hmem with hnone | ⟨below, hbelow, hsome⟩
          · simp [hnone]
          · rw [hsome]
            intro heq
            have hsame : below.loop = first.loop := by simpa using heq
            exact hdistinct.1 (List.mem_map.mpr ⟨below, hbelow, hsame⟩)

end Steps

/-- All along a run of the thread the current loop is the innermost one if the calls of `run`
end in the reverse order of their beginnings; and only if they do, where no loop is run by
two calls at once. -/
theorem current_loop_innermost (actions : List Action) (final : State)
    (hrun : machine.run actions initial = some final) :
    (machine.Meets Nested actions initial →
      ∀ before after state, actions = before ++ after →
        machine.run before initial = some state → Faithful state) ∧
    (machine.Meets OneCallEach actions initial →
      (∀ before after state, actions = before ++ after →
        machine.run before initial = some state → Faithful state) →
      machine.Meets Nested actions initial) := by
  constructor
  · intro hnested before after state hsplit hbefore
    have hsound := Machine.run_invariant (fun _ _ _ => step_sound) before initial state
      sound_initial (Machine.meets_before (hsplit ▸ hnested)) hbefore
    exact hsound.faithful
  · intro honce hfaithful
    have hkept : ∀ state action next, Sound state ∧ state.running.Nodup →
        OneCallEach state action → Nested state action →
        machine.step state action = some next → Sound next ∧ next.running.Nodup := by
      rintro state action next ⟨hsound, hdistinct⟩ honce hnested hstep
      exact ⟨step_sound hsound hnested hstep, step_distinct hdistinct honce hstep⟩
    exact Machine.meets_of_along_run hkept
      (fun _ _ _ hinv _ hnot hstep => step_unfaithful hinv.1 hinv.2 hnot hstep)
      ⟨sound_initial, List.nodup_nil⟩ honce hrun hfaithful

/-- With two calls for loop 1, the guard of loop 2 puts back the innermost loop out of turn. -/
example : (machine.run [.enterRun 0, .enterRun 1, .enterRun 2, .enterRun 1, .leaveRun 2]
    initial).map (fun state => decide (state.tlsCurrentLoop = state.innermost)) = some true := by
  decide

/-- Two fibers of loop 0 run loops 1 and 2, and loop 2 is the first to stop. -/
def nestedRuns : List Action :=
  [.enterRun 0, .enterRun 1, .enterRun 2, .leaveRun 2, .leaveRun 1, .enterRun 1, .leaveRun 3]

/-- Here loop 1 is the first to stop. -/
def crossedRuns : List Action :=
  [.enterRun 0, .enterRun 1, .enterRun 2, .leaveRun 1]

theorem current_loop_innermost_nestedAndCrossed :
    (∀ before after state, nestedRuns = before ++ after →
      machine.run before initial = some state → Faithful state) ∧
    ¬ ∀ before after state, crossedRuns = before ++ after →
      machine.run before initial = some state → Faithful state := by
  constructor
  · refine (current_loop_innermost nestedRuns _ rfl).1 ?_
    iterate 3 refine Machine.meets_cons trivial rfl ?_
    iterate 2 refine Machine.meets_cons rfl rfl ?_
    exact Machine.meets_cons trivial rfl (Machine.meets_cons rfl rfl trivial)
  · intro hfaithful
    have honce : machine.Meets OneCallEach crossedRuns initial := by
      iterate 3
        refine Machine.meets_cons ?_ rfl ?_
        · change _ ∉ State.running _
          decide
      exact Machine.meets_cons trivial rfl trivial
    have hnested := (current_loop_innermost crossedRuns _ rfl).2 honce hfaithful
    have hlast : some 2 = some 1 := Machine.meets_iff_forall.mp hnested
      [.enterRun 0, .enterRun 1, .enterRun 2] (.leaveRun 1) [] _ rfl rfl
    cases hlast

end Fiberuv.EventLoop.CurrentLoop
