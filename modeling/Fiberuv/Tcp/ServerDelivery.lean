import Fiberuv.Tcp.ServerSound

/-! # Every accepted connection is delivered once

Whatever the order of callbacks, calls, timeouts and closings, a connection has one owner,
both sides are served in the order in which they came, and a server that is closed stays
empty.
-/

namespace Fiberuv.Tcp.Server

open Foundation

variable {state next : State}

/-- Where the accepted connections are, and who was served. -/
structure Delivery (state : State) : Prop where
  /-- A connection is in the queue, with one call, or closed; and in one of these only. -/
  placed : ∀ id ∈ state.arrived,
    (id ∈ state.acceptedConnections ∧ (∀ call, ¬ state.Gets call id) ∧ id ∉ state.dropped) ∨
    (id ∉ state.acceptedConnections ∧ (∃! call, state.Gets call id) ∧ id ∉ state.dropped) ∨
    (id ∉ state.acceptedConnections ∧ (∀ call, ¬ state.Gets call id) ∧ id ∈ state.dropped)
  released : ∀ id ∈ state.dropped, (state.connection id).Released
  /-- Connections leave the queue in the order of arrival. -/
  order : state.arrived =
    state.handed.map Prod.snd ++ state.dropped ++ state.acceptedConnections
  handed : ∀ call id, (call, id) ∈ state.handed ↔ state.Gets call id
  /-- The waiters that were served, then the ones that still wait. -/
  turns : ((state.handed.map Prod.fst).filter (· ∈ state.registered) ++
    state.acceptWaiters).Sublist state.registered
  apart : state.acceptedConnections = [] ∨ state.acceptWaiters = []
  /-- A call that reported its timeout has no connection and will get none. -/
  timedOut : ∀ call, state.call call = .returned (.ok none) →
    (∀ id, (call, id) ∉ state.handed) ∧ state.promise call = none ∧ call ∉ state.acceptWaiters
  failed : state.failed.Nodup ∧ ∀ call ∈ state.failed,
    state.promise call = some (.error serverIsClosed) ∧ ∀ id, (call, id) ∉ state.handed
  /-- After `begin_close` every waiter has been handed a connection, has timed out or has
  been failed. -/
  closed : state.closing = true → state.acceptedConnections = [] ∧ state.acceptWaiters = [] ∧
    ∀ call ∈ state.registered, call ∈ state.failed ∨ call ∈ state.handed.map Prod.fst ∨
      state.call call = .returned (.ok none)
  noFault : state.fault = false

theorem Sound.delivery (hsound : Sound state) : Delivery state where
  placed := by
    intro id hid
    have hdistinct : state.arrived.Nodup := hsound.orderly.distinct
    have horder : state.arrived = state.handed.map Prod.snd ++ state.dropped ++
      state.acceptedConnections := hsound.orderly.order
    rw [horder] at hid hdistinct
    obtain ⟨hfront, -, hqueue⟩ := List.nodup_append'.mp hdistinct
    obtain ⟨hhanded, -, hdropped⟩ := List.nodup_append'.mp hfront
    have hgets : ∀ call, state.Gets call id → id ∈ state.handed.map Prod.snd := fun call hcall =>
      List.mem_map.mpr ⟨(call, id), (hsound.gets call id).mpr hcall, rfl⟩
    rcases List.mem_append.mp hid with hleft | hqueued
    · rcases List.mem_append.mp hleft with hgiven | hgone
      · refine .inr (.inl ⟨hqueue hleft, ?_, hdropped hgiven⟩)
        obtain ⟨⟨call, other⟩, hmem, rfl⟩ := List.mem_map.mp hgiven
        refine ⟨call, (hsound.gets call _).mp hmem, fun another hanother => ?_⟩
        have hsame := List.inj_on_of_nodup_map hhanded ((hsound.gets another _).mpr hanother)
          hmem rfl
        exact congrArg Prod.fst hsame
      · exact .inr (.inr ⟨hqueue hleft, fun call hcall => hdropped (hgets call hcall) hgone, hgone⟩)
    · refine .inl ⟨hqueued, fun call hcall => ?_, fun hgone => ?_⟩
      · exact hqueue (List.mem_append_left _ (hgets call hcall)) hqueued
      · exact hqueue (List.mem_append_right _ hgone) hqueued
  released := hsound.released
  order := hsound.orderly.order
  handed := hsound.gets
  turns := hsound.orderly.turns
  apart := by
    by_cases hwaiters : state.acceptWaiters = []
    · exact .inr hwaiters
    · exact .inl (hsound.orderly.apart hwaiters).1
  timedOut := by
    intro call hnull
    refine ⟨fun id hmem => ?_, hsound.timedOut call hnull, fun hmem => ?_⟩
    · have hgets := (hsound.gets call id).mp hmem
      simp [State.Gets, hnull] at hgets
    · obtain ⟨timed, handle, hwaiting⟩ := hsound.waiters call hmem
      simp [hnull] at hwaiting
  failed := by
    refine ⟨hsound.failedOnce, fun call hcall => ?_⟩
    obtain ⟨-, hset, hunhanded⟩ := hsound.failed call hcall
    exact ⟨hset, fun id hmem => hunhanded (List.mem_map.mpr ⟨_, hmem, rfl⟩)⟩
  closed := by
    intro hclosing
    have hempty : state.acceptWaiters = [] := by
      by_contra hne
      exact absurd (hsound.orderly.apart hne).2 (by simp [State.rendezvous, hclosing])
    refine ⟨hsound.shut hclosing, hempty, fun call hcall => ?_⟩
    rcases hsound.accounted call hcall with hin | hrest
    · rw [hempty] at hin
      exact absurd hin List.not_mem_nil
    · exact hrest
  noFault := hsound.noFault

/-- What `begin_close` does, and that nothing undoes it. -/
structure Shutdown (state : State) : Prop where
  /-- The remaining waiters are failed, the remaining connections are closed. -/
  fails : ∀ handle next, machine.step state (.close handle) = some next →
    state.handle handle = true → state.closing = false →
      next.closing = true ∧ next.failed = state.acceptWaiters ∧
        next.dropped = state.acceptedConnections
  forGood : state.closing = true → ∀ actions later, machine.run actions state = some later →
    later.closing = true ∧ later.acceptedConnections = [] ∧ later.acceptWaiters = [] ∧
      later.failed = state.failed ∧ later.dropped = state.dropped

/-- What a step of the closed server leaves alone. -/
def Unmoved (state next : State) : Prop :=
  next.closing = state.closing ∧ next.failed = state.failed ∧ next.dropped = state.dropped

theorem listen_unmoved (state : State) (call : CallId) (handle : HandleId)
    (results : ListenResults) : Unmoved state (state.listen call handle results) := by
  unfold State.listen
  split
  · exact ⟨rfl, rfl, rfl⟩
  split
  · exact ⟨rfl, rfl, rfl⟩
  split
  · exact ⟨rfl, rfl, rfl⟩
  split
  · exact ⟨rfl, rfl, rfl⟩
  dsimp only
  split
  · exact ⟨rfl, rfl, rfl⟩
  split
  · exact ⟨rfl, rfl, rfl⟩
  split <;> exact ⟨rfl, rfl, rfl⟩

theorem acceptOrWait_unmoved (state : State) (call : CallId) (timed : Bool) (handle : HandleId) :
    Unmoved state (state.acceptOrWait call timed handle) := by
  have heffect := acceptOrWait_effect state call timed handle
  generalize state.acceptOrWait call timed handle = next at heffect ⊢
  cases heffect with
  | threw error => exact ⟨rfl, rfl, rfl⟩
  | popped hqueue => exact ⟨rfl, rfl, rfl⟩
  | registered hhandle hopen hqueue => exact ⟨rfl, rfl, rfl⟩

theorem resume_unmoved {call : CallId} {expired : Bool}
    (hresume : state.resume call expired = some next) : Unmoved state next := by
  unfold State.resume at hresume
  split at hresume
  · split at hresume
    · cases hresume
      exact ⟨rfl, rfl, rfl⟩
    · simp only [Option.ite_none_right_eq_some, Option.some.injEq] at hresume
      obtain ⟨-, rfl⟩ := hresume
      unfold State.acceptTimedOut
      split
      · exact ⟨rfl, rfl, rfl⟩
      split
      · exact ⟨rfl, rfl, rfl⟩
      split <;> exact ⟨rfl, rfl, rfl⟩
  · cases hresume

theorem connectionStep_unmoved {id : ConnectionId} {action : Tcp.Action}
    (hstep : state.connectionStep id action = some next) : Unmoved state next := by
  unfold State.connectionStep at hstep
  split at hstep
  · cases hstep
  · cases hstep
  · simp only [Option.ite_none_right_eq_some, Option.map_eq_some_iff] at hstep
    obtain ⟨-, connection, -, rfl⟩ := hstep
    exact ⟨rfl, rfl, rfl⟩

/-- The closed server stays closed, with the waiters it has failed and the connections it
has dropped. -/
theorem step_unmoved {action : Action} (hsound : Sound state) (hclosing : state.closing = true)
    (hstep : machine.step state action = some next) : Unmoved state next := by
  have hempty : state.acceptWaiters = [] := (hsound.delivery.closed hclosing).2.1
  replace hstep : state.step action = some next := hstep
  unfold State.step at hstep
  split at hstep
  · cases hstep
  cases action with
  | listen call handle results =>
      dsimp only at hstep
      split at hstep <;> cases hstep
      exact listen_unmoved state call handle results
  | accept call handle =>
      dsimp only at hstep
      split at hstep <;> cases hstep
      exact acceptOrWait_unmoved state call false handle
  | acceptFor call handle =>
      dsimp only at hstep
      split at hstep <;> cases hstep
      exact acceptOrWait_unmoved state call true handle
  | resume call expired => exact resume_unmoved hstep
  | onConnection status createRc acceptRc =>
      simp only [Option.ite_none_right_eq_some, Option.some.injEq] at hstep
      obtain ⟨-, rfl⟩ := hstep
      simp only [State.onConnection, hclosing, Bool.or_true, if_true]
      exact ⟨rfl, rfl, rfl⟩
  | close handle =>
      cases hstep
      simp only [State.close, State.beginClose, hclosing, if_true]
      split
      · exact ⟨rfl, rfl, rfl⟩
      · exact ⟨hclosing.symm, rfl, rfl⟩
  | copy source target =>
      simp only [Option.ite_none_left_eq_some, Option.some.injEq] at hstep
      obtain ⟨-, rfl⟩ := hstep
      exact ⟨rfl, rfl, rfl⟩
  | onServerClosed =>
      simp only [Option.ite_none_right_eq_some, Option.some.injEq] at hstep
      obtain ⟨-, rfl⟩ := hstep
      simp only [State.onServerClosed, hempty, State.failAcceptWaiters, hclosing, if_true]
      exact ⟨hclosing.symm, rfl, rfl⟩
  | connection id action => exact connectionStep_unmoved hstep
  | endLoop =>
      cases hstep
      exact ⟨rfl, rfl, rfl⟩
  | walk =>
      simp only [Option.ite_none_left_eq_some, Option.some.injEq] at hstep
      obtain ⟨-, rfl⟩ := hstep
      exact ⟨rfl, rfl, rfl⟩

theorem Sound.shutdown (hsound : Sound state) : Shutdown state where
  fails := by
    intro handle after hstep hhandle hopen
    have hclose : state.close handle = after := by
      simpa [machine, State.step, hsound.noFault] using hstep
    have hlists := hsound.beginClose_lists hopen
    rw [← hclose]
    simpa only [State.close, hhandle, Bool.not_true, Bool.false_eq_true, if_false] using hlists
  forGood := by
    intro hclosing actions later hrun
    have hkeep : ∀ before action after,
        (Sound before ∧ before.closing = true ∧ before.failed = state.failed ∧
          before.dropped = state.dropped) → True →
        machine.step before action = some after →
        Sound after ∧ after.closing = true ∧ after.failed = state.failed ∧
          after.dropped = state.dropped := by
      intro before action after ⟨hbefore, hshut, hfailed, hdropped⟩ _ hstep
      obtain ⟨hsame, hsameFailed, hsameDropped⟩ := step_unmoved hbefore hshut hstep
      exact ⟨step_sound hbefore hstep, hsame.trans hshut, hsameFailed.trans hfailed,
        hsameDropped.trans hdropped⟩
    obtain ⟨hlater, hshut, hfailed, hdropped⟩ :=
      Machine.run_invariant hkeep actions state later ⟨hsound, hclosing, rfl, rfl⟩
        (Machine.meets_true actions state) hrun
    obtain ⟨hqueue, hwaiters, -⟩ := hlater.delivery.closed hshut
    exact ⟨hshut, hqueue, hwaiters, hfailed, hdropped⟩

/-- In every reachable state each accepted connection has one owner, connections and waiters
have been served in order, and a closed server stays empty. -/
theorem delivery_of_run (actions : List Action) (state : State)
    (hrun : machine.run actions initial = some state) : Delivery state ∧ Shutdown state := by
  have hsound : Sound state :=
    Machine.run_invariant (fun _ _ _ hsound _ hstep => step_sound hsound hstep) actions initial
      state sound_initial (Machine.meets_true actions initial) hrun
  exact ⟨hsound.delivery, hsound.shutdown⟩

/-- One call is handed the first connection and another times out; of the next two
connections one is taken from the queue and one is dropped by `close`. -/
def servedAndClosed : List Action :=
  [.listen 0 0 ⟨0, 0, 0, 0⟩, .accept 1 0, .acceptFor 2 0, .onConnection 0 0 0, .resume 1 false,
    .resume 2 true, .onConnection 0 0 0, .onConnection 0 0 0, .acceptFor 3 0, .close 0]

theorem delivery_servedAndClosed :
    ∃ state, machine.run servedAndClosed initial = some state ∧
      state.handed = [(1, 0), (3, 1)] ∧ state.dropped = [2] ∧
      state.call 2 = .returned (.ok none) ∧ Delivery state ∧ Shutdown state := by
  have hdelivery := delivery_of_run servedAndClosed _ rfl
  exact ⟨_, rfl, rfl, rfl, rfl, hdelivery⟩

end Fiberuv.Tcp.Server
