import Fiberuv.Foundation.Rendezvous
import Fiberuv.MessageQueue.Ledger

/-! # Order of delivery and closing

The queue is a rendezvous of messages and fiber waiters: a send is an arrival, a receive
that finds a message takes it, and one that finds none registers. The threads parked on
`recv_cv_` are no waiters in this sense, since they take a message like any other receive
when they wake up. Each step of the queue is a step of the rendezvous, which gives the
order in which messages and waiters are served.

Closing keeps the messages that are left. A receive that reports `nullopt` because the
queue is closed finds nothing to take.
-/

namespace Fiberuv.MessageQueue

open Foundation

variable {α : Type}

/-- The queue as a rendezvous, given the receive calls that have registered so far. -/
def State.rendezvous (state : State α) (registered : List CallId) :
    Rendezvous (Message α) CallId where
  items := state.queue
  waiters := state.fiberWaiters
  closed := state.closed
  arrived := state.accepted
  registered := registered
  handed := state.assigned

/-- The calls that a step adds to `fiber_waiters_`. -/
def newWaiters (state next : State α) : List CallId :=
  next.fiberWaiters.filter (· ∉ state.fiberWaiters)

/-- The receive calls that register in a run, in the order in which they do. -/
def registrations (actions : List (Action α)) : List CallId :=
  (machine α).notes newWaiters actions (initial α)

theorem newWaiters_of_subset {state next : State α}
    (hsubset : next.fiberWaiters ⊆ state.fiberWaiters) : newWaiters state next = [] := by
  rw [newWaiters, List.filter_eq_nil_iff]
  intro call hcall
  simpa using hsubset hcall

theorem State.become_inside {state : State α} {call other : CallId} {position : Call α}
    (hposition : position.outside = true → (state.calls call).outside = true)
    (hinside : (state.calls other).outside = false) :
    ((state.become call position).calls other).outside = false := by
  rw [become_calls]
  split
  next heq =>
    subst other
    cases hafter : position.outside with
    | false => rfl
    | true => exact absurd (hposition hafter) (by simp [hinside])
  next => exact hinside

/-- A call that is past its first critical section does not get back there. -/
theorem Effect.inside {state next : State α} {action : Action α}
    (heffect : Effect state action next) {call : CallId}
    (hinside : (state.calls call).outside = false) : (next.calls call).outside = false := by
  cases heffect with
  | enqueue hidle hopen hwaiters hnotify =>
      obtain ⟨parked, rfl⟩ := State.notifyOne_parked hnotify
      exact State.become_inside (by simp [Call.outside]) hinside
  | take henter hqueue =>
      obtain ⟨parked, rfl⟩ := henter.parked
      exact State.become_inside (by simp [Call.outside]) hinside
  | empty henter hqueue =>
      obtain ⟨parked, rfl⟩ := henter.parked
      exact State.become_inside (by simp [Call.outside]) hinside
  | register waiting hidle hwaiting hqueue hopen =>
      exact State.become_inside (fun _ => by simp [hidle, Call.outside]) hinside
  | park timed henter hqueue hopen =>
      have houtside := henter.outside
      obtain ⟨parked, rfl⟩ := henter.parked
      exact State.become_inside (fun _ => houtside) hinside
  | terminate hclosing hset => exact hinside
  | _ => exact State.become_inside (by simp [Call.outside]) hinside

theorem rendezvous_of_subset {state next : State α} {registered : List CallId}
    (hsubset : next.fiberWaiters ⊆ state.fiberWaiters)
    (hstep : (state.rendezvous registered).Step (next.rendezvous registered)) :
    (state.rendezvous registered).Step (next.rendezvous (registered ++ newWaiters state next)) ∧
      ∀ call ∈ newWaiters state next, (next.calls call).outside = false := by
  simpa [newWaiters_of_subset hsubset] using hstep

/-- What a step adds to the waiters, and what it does to the rendezvous. -/
theorem Effect.rendezvous {state next : State α} {action : Action α}
    (heffect : Effect state action next) (hledger : Ledger state) {registered : List CallId}
    (hregistered : ∀ call ∈ registered, (state.calls call).outside = false) :
    (state.rendezvous registered).Step (next.rendezvous (registered ++ newWaiters state next)) ∧
      ∀ call ∈ newWaiters state next, (next.calls call).outside = false := by
  -- A call that enters its critical section has neither registered nor been handed anything.
  have hunregistered : ∀ call, (state.calls call).outside = true → call ∉ registered :=
    fun call houtside hmem => absurd (hregistered call hmem) (by simp [houtside])
  have hunhanded : ∀ call, (state.calls call).outside = true →
      call ∉ state.assigned.map Prod.fst := by
    intro call houtside hmem
    obtain ⟨⟨other, message⟩, hassigned, rfl⟩ := List.mem_map.mp hmem
    exact (hledger.fresh other houtside).2 message hassigned
  cases heffect with
  | bind hidle hopen hwaiters =>
      refine rendezvous_of_subset ?_ (.hand hopen hwaiters (hledger.not_accepted hidle _))
      rw [hwaiters]
      exact List.subset_cons_self _ _
  | enqueue hidle hopen hwaiters hnotify =>
      obtain ⟨parked, rfl⟩ := State.notifyOne_parked hnotify
      exact rendezvous_of_subset (List.Subset.refl _)
        (.store hopen hwaiters (hledger.not_accepted hidle _))
  | take henter hqueue =>
      have houtside := henter.outside
      obtain ⟨parked, rfl⟩ := henter.parked
      exact rendezvous_of_subset (List.Subset.refl _)
        (.take hqueue (hunregistered _ houtside) (hunhanded _ houtside))
  | empty henter hqueue =>
      obtain ⟨parked, rfl⟩ := henter.parked
      exact rendezvous_of_subset (List.Subset.refl _) .stay
  | @register _ call waiting hidle hwaiting hqueue hopen =>
      have houtside : (state.calls call).outside = true := by simp [hidle, Call.outside]
      have hnew : call ∉ state.fiberWaiters :=
        hledger.not_registered (Call.registrable_of_outside houtside)
      have hnotes : newWaiters state (({ state with
          fiberWaiters := state.fiberWaiters ++ [call] }).become call waiting) = [call] := by
        have hold : state.fiberWaiters.filter (· ∉ state.fiberWaiters) = [] := by
          simp [List.filter_eq_nil_iff]
        rw [newWaiters, State.become_fiberWaiters, List.filter_append, hold]
        simp [hnew]
      rw [hnotes]
      refine ⟨.register hopen hqueue (hunregistered _ houtside) (hunhanded _ houtside), ?_⟩
      rcases hwaiting with rfl | rfl <;> simp [Call.outside]
  | park timed henter hqueue hopen =>
      obtain ⟨parked, rfl⟩ := henter.parked
      exact rendezvous_of_subset (List.Subset.refl _) .stay
  | withdraw hexpired hmem =>
      exact rendezvous_of_subset (List.erase_subset) (.withdraw _)
  | beginClose hidle hopen =>
      exact rendezvous_of_subset (List.nil_subset _) .close
  | _ => exact rendezvous_of_subset (List.Subset.refl _) .stay

section Closing

/-- The closed queue accepts nothing, and what is bound stays bound. -/
theorem Effect.closed {state next : State α} {action : Action α}
    (heffect : Effect state action next) (hclosed : state.closed = true) :
    next.closed = true ∧ next.accepted = state.accepted ∧ state.assigned <+: next.assigned := by
  cases heffect with
  | bind hidle hopen => exact absurd hclosed (by simp [hopen])
  | enqueue hidle hopen => exact absurd hclosed (by simp [hopen])
  | take henter hqueue =>
      obtain ⟨parked, rfl⟩ := henter.parked
      exact ⟨hclosed, rfl, List.prefix_append _ _⟩
  | empty henter hqueue =>
      obtain ⟨parked, rfl⟩ := henter.parked
      exact ⟨hclosed, rfl, List.prefix_rfl⟩
  | register waiting hidle hwaiting hqueue hopen => exact absurd hclosed (by simp [hopen])
  | park timed henter hqueue hopen => exact absurd hclosed (by simp [hopen])
  | beginClose hidle hopen => exact absurd hclosed (by simp [hopen])
  | _ => exact ⟨hclosed, rfl, List.prefix_rfl⟩

/-- Whoever was released by `close`, or is about to be, was waiting for a message: there
is none. -/
structure Drained (state : State α) : Prop where
  released : ∀ call, state.promise call = some none → state.closed = true ∧ state.queue = []
  releasing : ∀ call notified waiter rest,
    state.calls call = .closing notified (waiter :: rest) → state.queue = []

theorem drained_initial : Drained (initial α) := by
  constructor <;> simp [initial]

theorem Drained.become {state : State α} (hdrained : Drained state) {call : CallId}
    {position : Call α}
    (hposition : ∀ notified waiter rest, position = .closing notified (waiter :: rest) →
      state.queue = []) : Drained (state.become call position) := by
  refine ⟨hdrained.released, fun other notified waiter rest hother => ?_⟩
  rw [State.become_calls] at hother
  split at hother
  next => exact hposition notified waiter rest hother
  next => exact hdrained.releasing other notified waiter rest hother

theorem Drained.congr {state after : State α} (hdrained : Drained state)
    (hqueue : after.queue = state.queue) (hclosed : after.closed = state.closed)
    (hpromise : after.promise = state.promise) (hcalls : after.calls = state.calls) :
    Drained after := by
  refine ⟨fun call hset => ?_, fun call notified waiter rest hcall => ?_⟩
  · rw [hqueue, hclosed]
    exact hdrained.released call (hpromise ▸ hset)
  · rw [hqueue]
    exact hdrained.releasing call notified waiter rest (hcalls ▸ hcall)

/-- As long as there are messages nobody has been released, so any state with the same
promises and closing calls will do. -/
theorem Drained.of_nonempty {state after : State α} (hdrained : Drained state)
    (hqueue : state.queue ≠ []) (hpromise : after.promise = state.promise)
    (hcalls : ∀ call notified waiters, after.calls call = .closing notified waiters →
      state.calls call = .closing notified waiters) : Drained after := by
  refine ⟨fun call hset => ?_, fun call notified waiter rest hcall => ?_⟩
  · rw [hpromise] at hset
    exact absurd (hdrained.released call hset).2 hqueue
  · exact absurd (hdrained.releasing call notified waiter rest (hcalls _ _ _ hcall)) hqueue

theorem Effect.drained {state next : State α} {action : Action α}
    (heffect : Effect state action next) (hledger : Ledger state) (hdrained : Drained state) :
    Drained next := by
  cases heffect with
  | bind hidle hopen hwaiters =>
      refine Drained.become ?_ (by simp)
      exact hdrained.congr rfl rfl rfl rfl
  | enqueue hidle hopen hwaiters hnotify =>
      obtain ⟨parked, rfl⟩ := State.notifyOne_parked hnotify
      -- Nobody has been released, because the queue is open.
      refine Drained.become ⟨fun call hset => ?_, fun call notified waiter rest hcall => ?_⟩
        (by simp)
      · exact absurd (hdrained.released call hset).1 (by simp [hopen])
      · exact absurd (hledger.closers call notified _ hcall) (by simp [hopen])
  | @fulfil call message waiter hhand hunset =>
      have hbase : Drained (state.fulfil waiter (some message)) := by
        refine ⟨fun other hset => ?_, hdrained.releasing⟩
        rw [State.fulfil_promise] at hset
        split at hset
        next => exact absurd hset (by simp)
        next => exact hdrained.released other hset
      exact hbase.become (by simp)
  | take henter hqueue =>
      have hne : state.queue ≠ [] := by simp [hqueue]
      obtain ⟨parked, rfl⟩ := henter.parked
      refine hdrained.of_nonempty hne rfl fun call notified waiters hcall => ?_
      simp only [State.popFrontUnlocked, State.become_calls] at hcall
      split at hcall
      · exact absurd hcall (by simp)
      · exact hcall
  | empty henter hqueue =>
      obtain ⟨parked, rfl⟩ := henter.parked
      refine Drained.become ?_ (by simp)
      exact hdrained.congr rfl rfl rfl rfl
  | @register _ call waiting hidle hwaiting hqueue hopen =>
      refine Drained.become ?_ (by rcases hwaiting with rfl | rfl <;> simp)
      exact hdrained.congr rfl rfl rfl rfl
  | @park _ call base timed henter hqueue hopen =>
      obtain ⟨parked, rfl⟩ := henter.parked
      refine Drained.become ?_ (by simp)
      exact hdrained.congr rfl rfl rfl rfl
  | @withdraw _ call hexpired hmem =>
      refine Drained.become ?_ (by simp)
      exact hdrained.congr rfl rfl rfl rfl
  | @beginClose _ call hidle hopen =>
      have hbase : Drained { state with closed := true, fiberWaiters := [] } :=
        ⟨fun other hset => ⟨rfl, (hdrained.released other hset).2⟩, hdrained.releasing⟩
      refine hbase.become fun notified waiter rest hposition => ?_
      obtain ⟨-, hwaiters⟩ := Call.closing.inj hposition
      exact hledger.waitersQueue (by simp [hwaiters])
  | @notifyAll _ call waiters hclosing =>
      refine Drained.become ?_ fun notified waiter rest hposition => ?_
      · exact hdrained.congr rfl rfl rfl rfl
      · obtain ⟨-, rfl⟩ := Call.closing.inj hposition
        exact hdrained.releasing call _ waiter rest hclosing
  | @release _ call waiter rest hclosing hunset =>
      have hqueue := hdrained.releasing call _ waiter rest hclosing
      have hbase : Drained (state.fulfil waiter none) := by
        refine ⟨fun other hset => ?_, hdrained.releasing⟩
        rw [State.fulfil_promise] at hset
        split at hset
        next => exact ⟨hledger.closers call _ _ hclosing, hqueue⟩
        next => exact hdrained.released other hset
      exact hbase.become fun _ _ _ _ => hqueue
  | terminate hclosing hset => exact hdrained.congr rfl rfl rfl rfl
  | _ => exact hdrained.become (by simp)

/-- A call that reports `nullopt` from a closed queue found nothing to take, unless its
timeout expired while the hand-off to it was still under way. -/
theorem Effect.reports {state next : State α} {action : Action α}
    (heffect : Effect state action next) (hledger : Ledger state) (hdrained : Drained state)
    (hclosed : state.closed = true) {call : CallId}
    (hbefore : state.calls call ≠ .received none) (hafter : next.calls call = .received none)
    (htimeout : state.promise call = none → action ≠ .recvForZeroWait call) :
    state.queue = [] := by
  cases heffect with
  | enqueue hidle hopen => exact absurd hclosed (by simp [hopen])
  | empty henter hqueue => exact hqueue
  | take henter hqueue =>
      obtain ⟨parked, rfl⟩ := henter.parked
      simp only [State.popFrontUnlocked, State.become_calls] at hafter
      split at hafter
      · exact absurd hafter (by simp)
      · exact absurd hafter hbefore
  | park timed henter hqueue hopen => exact hqueue
  | register waiting hidle hwaiting hqueue hopen => exact hqueue
  | @ready _ other result hawaits hset =>
      rw [State.become_calls] at hafter
      split at hafter
      next =>
        obtain rfl := Call.received.inj hafter
        exact (hdrained.released other hset).2
      next => exact absurd hafter hbefore
  | withdraw hexpired hmem =>
      rw [hledger.closedWaiters hclosed] at hmem
      exact absurd hmem List.not_mem_nil
  | abandon hrecheck hunset =>
      rw [State.become_calls] at hafter
      split at hafter
      next heq =>
        subst heq
        exact absurd rfl (htimeout hunset)
      next => exact absurd hafter hbefore
  | terminate hclosing hset => exact absurd hafter hbefore
  | _ =>
      rw [State.become_calls] at hafter
      split at hafter
      next => exact absurd hafter (by simp)
      next => exact absurd hafter hbefore

/-- What the closed queue does from here on. -/
structure Closing (state : State α) : Prop where
  /-- A send is refused. -/
  refuses : ∀ call value woken next, (machine α).step state (.send call value woken) = some next →
    next.calls call = .sent ⟨call, value⟩ false
  /-- In whatever comes next nothing is accepted, and what was left is handed out in order. -/
  handsOut : ∀ actions later, (machine α).run actions state = some later →
    later.closed = true ∧ later.accepted = state.accepted ∧
      ∃ handed, later.assigned = state.assigned ++ handed ∧
        state.queue = handed.map Prod.snd ++ later.queue
  /-- Only the empty queue is reported as closed. A `recv_for` whose second test finds its
  promise unset reports its timeout. -/
  reports : ∀ call action next, (machine α).step state action = some next →
    state.calls call ≠ .received none → next.calls call = .received none →
    (state.promise call = none → action ≠ .recvForZeroWait call) → state.queue = []

/-- Between a closed state and a later one, messages only leave the queue. -/
theorem handsOut_of_closed {state later : State α} {actions : List (Action α)}
    (hledger : Ledger state) (hclosed : state.closed = true)
    (hrun : (machine α).run actions state = some later) :
    later.closed = true ∧ later.accepted = state.accepted ∧
      ∃ handed, later.assigned = state.assigned ++ handed ∧
        state.queue = handed.map Prod.snd ++ later.queue := by
  have hkeep : ∀ before action next,
      (Ledger before ∧ before.closed = true ∧ before.accepted = state.accepted ∧
        state.assigned <+: before.assigned) → True →
      (machine α).step before action = some next →
      Ledger next ∧ next.closed = true ∧ next.accepted = state.accepted ∧
        state.assigned <+: next.assigned := by
    intro before action next ⟨hbefore, hshut, haccepted, hassigned⟩ _ hstep
    have heffect := step_effect hstep
    obtain ⟨hstill, hsame, hgrown⟩ := heffect.closed hshut
    exact ⟨step_ledger hbefore heffect, hstill, hsame.trans haccepted, hassigned.trans hgrown⟩
  obtain ⟨hlater, hshut, haccepted, handed, hhanded⟩ :=
    Machine.run_invariant hkeep actions state later ⟨hledger, hclosed, rfl, List.prefix_rfl⟩
      (Machine.meets_true actions state) hrun
  refine ⟨hshut, haccepted, handed, hhanded.symm, ?_⟩
  have horder := hlater.order
  rw [haccepted, hledger.order, ← hhanded, List.map_append, List.append_assoc] at horder
  exact List.append_cancel_left horder

theorem closing_of_closed {state : State α} (hledger : Ledger state) (hdrained : Drained state)
    (hclosed : state.closed = true) : Closing state where
  refuses call value woken next hstep := by
    have hsend : state.step (.send call value woken) = some next := hstep
    unfold State.step at hsend
    split at hsend
    · cases hsend
    cases hcall : state.calls call <;> simp [Action.call, hcall] at hsend
    simp only [State.sendPayload, hclosed, if_true, Option.some.injEq] at hsend
    simp [← hsend]
  handsOut actions later hrun := handsOut_of_closed hledger hclosed hrun
  reports call action next hstep hbefore hafter htimeout :=
    (step_effect hstep).reports hledger hdrained hclosed hbefore hafter htimeout

end Closing

/-- Messages are assigned in the order of acceptance, each to at most one receive call, and
fiber waiters are served in the order of registration. -/
structure Fifo (registered : List CallId) (state : State α) : Prop where
  order : state.accepted = state.assigned.map Prod.snd ++ state.queue
  distinct : state.accepted.Nodup
  /-- No receive call is bound to two messages either. -/
  once : (state.assigned.map Prod.fst).Nodup
  /-- The registered calls that were served, then the ones that still wait. -/
  turns : ((state.assigned.map Prod.fst).filter (· ∈ registered) ++ state.fiberWaiters).Sublist
    registered
  apart : state.fiberWaiters ≠ [] → state.queue = [] ∧ state.closed = false

/-- What every state satisfies together with the registrations so far. -/
structure Delivering (state : State α) (registered : List CallId) : Prop where
  ledger : Ledger state
  drained : Drained state
  orderly : (state.rendezvous registered).Orderly
  inside : ∀ call ∈ registered, (state.calls call).outside = false

theorem delivering_initial : Delivering (initial α) [] where
  ledger := ledger_initial
  drained := drained_initial
  orderly := Rendezvous.orderly_initial
  inside := by simp

theorem step_delivering {state next : State α} {action : Action α} {registered : List CallId}
    (hstate : Delivering state registered) (hstep : (machine α).step state action = some next) :
    Delivering next (registered ++ newWaiters state next) := by
  have heffect := step_effect hstep
  obtain ⟨hrendezvous, hnew⟩ := heffect.rendezvous hstate.ledger hstate.inside
  refine ⟨step_ledger hstate.ledger heffect, heffect.drained hstate.ledger hstate.drained,
    hstate.orderly.step hrendezvous, fun call hcall => ?_⟩
  rcases List.mem_append.mp hcall with hold | hregistered
  · exact heffect.inside (hstate.inside call hold)
  · exact hnew call hregistered

theorem Delivering.fifo {state : State α} {registered : List CallId}
    (hstate : Delivering state registered) : Fifo registered state where
  order := hstate.ledger.order
  distinct := hstate.ledger.distinct
  once := hstate.orderly.once
  turns := hstate.orderly.turns
  apart := hstate.orderly.apart

/-- In every reachable state messages and fiber waiters have been served in order, and a
closed queue hands out what is left before it is reported as closed. -/
theorem fifo_of_run (actions : List (Action α)) (state : State α)
    (hrun : (machine α).run actions (initial α) = some state) :
    Fifo (registrations actions) state ∧ (state.closed = true → Closing state) := by
  have hstate : Delivering state (registrations actions) :=
    Machine.run_notes (fun _ _ _ _ => step_delivering) actions _ state [] delivering_initial hrun
  exact ⟨hstate.fifo, closing_of_closed hstate.ledger hstate.drained⟩

/-- Two fibers wait, the first one withdraws, one message goes to the second, one stays in
the queue when it is closed. -/
def servedAndClosed : List (Action Nat) :=
  [.recvFor 0, .recv 1, .recvForWait 0, .recvForLookup 0, .send 2 7 none, .send 3 8 none,
    .sendSetValue 2, .close 4]

theorem fifo_servedAndClosed :
    ∃ state, (machine Nat).run servedAndClosed (initial Nat) = some state ∧
      registrations servedAndClosed = [0, 1] ∧ state.assigned = [(1, ⟨2, 7⟩)] ∧
      state.queue = [⟨3, 8⟩] ∧ Fifo (registrations servedAndClosed) state ∧ Closing state := by
  have hfifo := fifo_of_run servedAndClosed _ rfl
  exact ⟨_, rfl, by decide, rfl, rfl, hfifo.1, hfifo.2 rfl⟩

end Fiberuv.MessageQueue
