import Fiberuv.MessageQueue.Effect
import Mathlib.Data.List.Nodup

/-! # The ledger of accepted and assigned messages

The accepted messages, in the order their senders took the lock, are the assigned
ones followed by the contents of the queue. The remaining clauses tie the two lists
to the positions of the calls: who registered a promise, who holds it, and which
call a message was given to. They hold in every reachable state.
-/

namespace Fiberuv.MessageQueue

variable {α : Type}

/-- The accepted message of a send call, from its critical section on. -/
def Call.carries : Call α → Option (Message α)
  | .sent message true | .sendThrew message | .handingOff message _ => some message
  | _ => none

theorem Call.outside_of_registrable {position : Call α} (hposition : position.registrable = true) :
    position.outside = false := by
  cases position <;> simp [Call.registrable, Call.outside] at hposition ⊢

theorem Call.registrable_of_outside {position : Call α} (hposition : position.outside = true) :
    position.registrable = false := by
  cases position <;> simp [Call.registrable, Call.outside] at hposition ⊢

theorem Call.carries_of_outside {position : Call α} (hposition : position.outside = true) :
    position.carries = none := by
  cases position <;> simp [Call.carries, Call.outside] at hposition ⊢

theorem Call.carries_of_awaits {position : Call α} (hposition : position.awaits = true) :
    position.carries = none := by
  cases position <;> simp [Call.carries, Call.awaits] at hposition ⊢

/-- What every reachable state of the queue satisfies. -/
structure Ledger (state : State α) : Prop where
  order : state.accepted = state.assigned.map Prod.snd ++ state.queue
  distinct : state.accepted.Nodup
  once : ∀ call first second, (call, first) ∈ state.assigned →
    (call, second) ∈ state.assigned → first = second
  carried : ∀ message ∈ state.accepted, (state.calls message.sender).carries = some message
  own : ∀ call message, (state.calls call).carries = some message → message.sender = call
  sent : ∀ call message, state.calls call = .sent message true → message ∈ state.accepted
  handing : ∀ call message waiter, state.calls call = .handingOff message waiter →
    (waiter, message) ∈ state.assigned
  result : ∀ call message, state.calls call = .received (some message) →
    (call, message) ∈ state.assigned
  fulfilled : ∀ call message, state.promise call = some (some message) →
    (call, message) ∈ state.assigned
  registered : ∀ call ∈ state.fiberWaiters, (state.calls call).registrable = true ∧
    state.promise call = none ∧ ∀ message, (call, message) ∉ state.assigned
  waitersNodup : state.fiberWaiters.Nodup
  waitersQueue : state.fiberWaiters ≠ [] → state.queue = []
  closedWaiters : state.closed = true → state.fiberWaiters = []
  fresh : ∀ call, (state.calls call).outside = true →
    state.promise call = none ∧ ∀ message, (call, message) ∉ state.assigned
  closers : ∀ call notified waiters, state.calls call = .closing notified waiters →
    state.closed = true
  released : ∀ call notified waiters, state.calls call = .closing notified waiters →
    ∀ waiter ∈ waiters, (state.calls waiter).outside = false ∧
      ∀ message, (waiter, message) ∉ state.assigned

theorem ledger_initial : Ledger (initial α) := by
  constructor <;> simp [initial, Call.carries]

namespace Ledger

variable {state : State α}

/-- The ledger does not depend on the parked threads or on termination. -/
theorem transfer (hledger : Ledger state) (parked : List CallId) (terminated : Bool) :
    Ledger { state with parked := parked, terminated := terminated } := by
  obtain ⟨h1, h2, h3, h4, h5, h6, h7, h8, h9, h10, h11, h12, h13, h14, h15, h16⟩ := hledger
  exact ⟨h1, h2, h3, h4, h5, h6, h7, h8, h9, h10, h11, h12, h13, h14, h15, h16⟩

/-- A call that carries no accepted message can move to another such position, as
long as it stays registered if it was, and does not step back outside. -/
theorem become (hledger : Ledger state) {call : CallId} {position : Call α}
    (hcarried : (state.calls call).carries = position.carries)
    (hsent : ∀ message, position = .sent message true → message ∈ state.accepted)
    (hhanding : ∀ message waiter, position = .handingOff message waiter →
      (waiter, message) ∈ state.assigned)
    (hresult : ∀ message, position = .received (some message) →
      (call, message) ∈ state.assigned)
    (hregistered : call ∈ state.fiberWaiters → position.registrable = true)
    (houtside : position.outside = true → (state.calls call).outside = true)
    (hclosing : ∀ notified waiters, position = .closing notified waiters →
      state.closed = true ∧ ∀ waiter ∈ waiters, (state.calls waiter).outside = false ∧
        ∀ message, (waiter, message) ∉ state.assigned) :
    Ledger (state.become call position) where
  order := hledger.order
  distinct := hledger.distinct
  once := hledger.once
  carried message hmem := by
    have hbefore := hledger.carried message hmem
    rw [State.become_calls]
    split
    next heq => rwa [heq, hcarried] at hbefore
    next => exact hbefore
  own other message hother := by
    rw [State.become_calls] at hother
    split at hother
    next heq => exact heq ▸ hledger.own call message (hcarried.trans hother)
    next => exact hledger.own other message hother
  sent other message hother := by
    rw [State.become_calls] at hother
    split at hother
    next => exact hsent message hother
    next => exact hledger.sent other message hother
  handing other message waiter hother := by
    rw [State.become_calls] at hother
    split at hother
    next => exact hhanding message waiter hother
    next => exact hledger.handing other message waiter hother
  result other message hother := by
    rw [State.become_calls] at hother
    split at hother
    next heq => exact heq ▸ hresult message hother
    next => exact hledger.result other message hother
  fulfilled := hledger.fulfilled
  registered other hmem := by
    obtain ⟨hawaits, hrest⟩ := hledger.registered other hmem
    refine ⟨?_, hrest⟩
    rw [State.become_calls]
    split
    next heq => exact hregistered (heq ▸ hmem)
    next => exact hawaits
  waitersNodup := hledger.waitersNodup
  waitersQueue := hledger.waitersQueue
  closedWaiters := hledger.closedWaiters
  fresh other hother := by
    rw [State.become_calls] at hother
    split at hother
    next heq => exact heq ▸ hledger.fresh call (houtside hother)
    next => exact hledger.fresh other hother
  closers other notified waiters hother := by
    rw [State.become_calls] at hother
    split at hother
    next => exact (hclosing notified waiters hother).1
    next => exact hledger.closers other notified waiters hother
  released other notified waiters hother waiter hmem := by
    have hbefore : (state.calls waiter).outside = false ∧
        ∀ message, (waiter, message) ∉ state.assigned := by
      rw [State.become_calls] at hother
      split at hother
      next => exact (hclosing notified waiters hother).2 waiter hmem
      next => exact hledger.released other notified waiters hother waiter hmem
    refine ⟨?_, hbefore.2⟩
    rw [State.become_calls]
    split
    next heq =>
      rw [heq] at hbefore
      cases hposition : position.outside with
      | false => rfl
      | true => rw [houtside hposition] at hbefore; exact absurd hbefore.1 (by simp)
    next => exact hbefore.1

theorem not_registered (hledger : Ledger state) {call : CallId}
    (hposition : (state.calls call).registrable = false) : call ∉ state.fiberWaiters := by
  intro hmem
  have hawaits := (hledger.registered call hmem).1
  simp [hposition] at hawaits

theorem accepted_of_assigned (hledger : Ledger state) {call : CallId} {message : Message α}
    (hassigned : (call, message) ∈ state.assigned) : message ∈ state.accepted := by
  rw [hledger.order]
  exact List.mem_append_left _ (List.mem_map.mpr ⟨_, hassigned, rfl⟩)

/-- A call that something was assigned to has started and is not parked. -/
theorem inside_of_assigned (hledger : Ledger state) {call : CallId} {message : Message α}
    (hassigned : (call, message) ∈ state.assigned) : (state.calls call).outside = false := by
  by_contra houtside
  rw [Bool.not_eq_false] at houtside
  exact (hledger.fresh call houtside).2 message hassigned

/-- The messages of a call that has not sent anything are not accepted. -/
theorem not_accepted (hledger : Ledger state) {call : CallId} (hidle : state.calls call = .idle)
    (value : α) : (⟨call, value⟩ : Message α) ∉ state.accepted := by
  intro hmem
  have hcarried := hledger.carried _ hmem
  simp [Call.carries, hidle] at hcarried

theorem bind (hledger : Ledger state) {call waiter : CallId} {rest : List CallId} (value : α)
    (hidle : state.calls call = .idle) (hwaiters : state.fiberWaiters = waiter :: rest) :
    Ledger ((state.bindWaiter waiter rest ⟨call, value⟩).become call
      (.handingOff ⟨call, value⟩ waiter)) := by
  have hnew := hledger.not_accepted hidle value
  have hwaiter := hledger.registered waiter (by simp [hwaiters])
  have hqueue : state.queue = [] := hledger.waitersQueue (by simp [hwaiters])
  have hnodup := hledger.waitersNodup
  rw [hwaiters, List.nodup_cons] at hnodup
  have houtside := Call.outside_of_registrable hwaiter.1
  constructor
  all_goals simp only [State.bindWaiter, State.become_calls, State.become_queue,
    State.become_closed, State.become_fiberWaiters, State.become_promise,
    State.become_accepted, State.become_assigned]
  · simp [hledger.order, hqueue]
  · have := hledger.distinct
    grind
  · have := hledger.once
    grind
  · have := hledger.carried
    grind [Call.carries]
  · have := hledger.own
    grind [Call.carries]
  · have := hledger.sent
    grind
  · have := hledger.handing
    grind
  · have := hledger.result
    grind
  · have := hledger.fulfilled
    grind
  · have := hledger.registered
    grind [Call.registrable]
  · exact hnodup.2
  · exact fun _ => hqueue
  · have := hledger.closedWaiters
    grind
  · have := hledger.fresh
    grind [Call.outside]
  · have := hledger.closers
    grind
  · have := hledger.released
    have := hledger.closers
    have := hledger.closedWaiters
    grind [Call.outside]

theorem enqueue (hledger : Ledger state) {call : CallId} (value : α)
    (hidle : state.calls call = .idle) (hwaiters : state.fiberWaiters = []) :
    Ledger ((state.pushBack ⟨call, value⟩).become call (.sent ⟨call, value⟩ true)) := by
  have hnew := hledger.not_accepted hidle value
  constructor
  all_goals simp only [State.pushBack, State.become_calls, State.become_queue,
    State.become_closed, State.become_fiberWaiters, State.become_promise,
    State.become_accepted, State.become_assigned]
  · simp [hledger.order]
  · have := hledger.distinct
    grind
  · exact hledger.once
  · have := hledger.carried
    grind [Call.carries]
  · have := hledger.own
    grind [Call.carries]
  · have := hledger.sent
    grind
  · have := hledger.handing
    grind
  · have := hledger.result
    grind
  · exact hledger.fulfilled
  · simp [hwaiters]
  · exact hledger.waitersNodup
  · simp [hwaiters]
  · exact hledger.closedWaiters
  · have := hledger.fresh
    grind [Call.outside]
  · have := hledger.closers
    grind
  · have := hledger.released
    grind [Call.outside]

/-- Setting a promise that is neither registered nor fresh. -/
theorem setPromise (hledger : Ledger state) (waiter : CallId) (result : Option (Message α))
    (hregistered : waiter ∉ state.fiberWaiters)
    (hinside : (state.calls waiter).outside = false)
    (hassigned : ∀ message, result = some message → (waiter, message) ∈ state.assigned) :
    Ledger (state.fulfil waiter result) :=
  { hledger with
    fulfilled := by
      intro call message hset
      rw [State.fulfil_promise] at hset
      split at hset
      next heq => exact heq ▸ hassigned message (Option.some.inj hset)
      next => exact hledger.fulfilled call message hset
    registered := by
      intro call hmem
      obtain ⟨hawaits, hunset, hfree⟩ := hledger.registered call hmem
      refine ⟨hawaits, ?_, hfree⟩
      rw [State.fulfil_promise, if_neg]
      · exact hunset
      · exact fun heq => hregistered (heq ▸ hmem)
    fresh := by
      intro call houtside
      obtain ⟨hunset, hfree⟩ := hledger.fresh call houtside
      refine ⟨?_, hfree⟩
      rw [State.fulfil_promise, if_neg]
      · exact hunset
      · rintro rfl
        change (state.calls call).outside = true at houtside
        simp [hinside] at houtside }

theorem addWaiter (hledger : Ledger state) {call : CallId}
    (hawaits : (state.calls call).registrable = true) (hunset : state.promise call = none)
    (hfree : ∀ message, (call, message) ∉ state.assigned) (hnew : call ∉ state.fiberWaiters)
    (hqueue : state.queue = []) (hopen : state.closed = false) :
    Ledger { state with fiberWaiters := state.fiberWaiters ++ [call] } :=
  { hledger with
    registered := by
      intro other hmem
      rcases List.mem_append.mp hmem with hold | hlast
      · exact hledger.registered other hold
      · rw [List.mem_singleton.mp hlast]
        exact ⟨hawaits, hunset, hfree⟩
    waitersNodup := by
      have hnodup := hledger.waitersNodup
      grind
    waitersQueue := fun _ => hqueue
    closedWaiters := by simp [hopen] }

theorem eraseWaiter (hledger : Ledger state) (call : CallId) :
    Ledger { state with fiberWaiters := state.fiberWaiters.erase call } :=
  { hledger with
    registered := fun other hmem => hledger.registered other (List.mem_of_mem_erase hmem)
    waitersNodup := hledger.waitersNodup.erase call
    waitersQueue := fun hne => hledger.waitersQueue fun hempty => hne (by simp [hempty])
    closedWaiters := fun hclosed => by simp [hledger.closedWaiters hclosed] }

/-- The critical section of `close` empties `fiber_waiters_`. -/
theorem shut (hledger : Ledger state) :
    Ledger { state with closed := true, fiberWaiters := [] } :=
  { hledger with
    registered := by simp
    waitersNodup := List.nodup_nil
    waitersQueue := by simp
    closedWaiters := fun _ => rfl
    closers := fun _ _ _ _ => rfl }

/-- A receive call that owns no promise takes the front of the queue. -/
theorem take (hledger : Ledger state) {call : CallId} {front : Message α}
    {rest : List (Message α)} (houtside : (state.calls call).outside = true)
    (hqueue : state.queue = front :: rest) :
    Ledger (state.popFrontUnlocked call front rest) := by
  have hwaiters : state.fiberWaiters = [] := by
    by_contra hne
    simp [hledger.waitersQueue hne] at hqueue
  constructor
  all_goals simp only [State.popFrontUnlocked, State.become_calls, State.become_queue,
    State.become_closed, State.become_fiberWaiters, State.become_promise,
    State.become_accepted, State.become_assigned]
  · simp [hledger.order, hqueue]
  · exact hledger.distinct
  · have := hledger.once
    have := hledger.fresh call houtside
    grind
  · have hnone := Call.carries_of_outside houtside
    have := hledger.carried
    grind
  · have := hledger.own
    grind [Call.carries]
  · have := hledger.sent
    grind
  · have := hledger.handing
    grind
  · have := hledger.result
    grind
  · have := hledger.fulfilled
    grind
  · simp [hwaiters]
  · exact hledger.waitersNodup
  · simp [hwaiters]
  · exact hledger.closedWaiters
  · have := hledger.fresh
    grind [Call.outside]
  · have := hledger.closers
    grind
  · have := hledger.released
    grind [Call.outside]

end Ledger

theorem Enters.outside {state base : State α} {call : CallId} (henter : Enters state call base) :
    (state.calls call).outside = true := by
  cases henter with
  | start hidle => simp [hidle, Call.outside]
  | again timed hblocked => simp [hblocked, Call.outside]

theorem Enters.ledger {state base : State α} {call : CallId} (henter : Enters state call base)
    (hledger : Ledger state) : Ledger base ∧ (base.calls call).outside = true := by
  refine ⟨?_, ?_⟩
  · cases henter with
    | start => exact hledger
    | again => exact hledger.transfer _ _
  · have houtside := henter.outside
    cases henter <;> exact houtside

/-- Every step keeps the ledger. -/
theorem step_ledger {state next : State α} {action : Action α} (hledger : Ledger state)
    (heffect : Effect state action next) : Ledger next := by
  cases heffect with
  | refuse hidle hclosed =>
      apply hledger.become <;>
        simp [hidle, hledger.closedWaiters hclosed, Call.carries, Call.outside]
  | bind hidle hopen hwaiters => exact hledger.bind _ hidle hwaiters
  | @enqueue call value woken notified hidle hopen hwaiters hnotify =>
      obtain ⟨parked, rfl⟩ := State.notifyOne_parked hnotify
      exact (hledger.enqueue value hidle hwaiters).transfer parked _
  | @fulfil call message waiter hhand hunset =>
      -- The promise and the sender's position change in one step: first the promise, then
      -- the position, over the ledger that already has the promise set.
      have hassigned := hledger.handing call message waiter hhand
      have hpromised := hledger.setPromise waiter (some message)
        (fun hmem => (hledger.registered waiter hmem).2.2 message hassigned)
        (hledger.inside_of_assigned hassigned)
        (fun other heq => Option.some.inj heq ▸ hassigned)
      have hnot : call ∉ state.fiberWaiters :=
        hledger.not_registered (by simp [hhand, Call.registrable])
      apply hpromised.become <;> simp [hhand, hnot, Call.carries, Call.outside, State.fulfil]
      exact hledger.accepted_of_assigned hassigned
  | @satisfied call message waiter result hhand hset =>
      have hnot : call ∉ state.fiberWaiters :=
        hledger.not_registered (by simp [hhand, Call.registrable])
      apply hledger.become <;> simp [hhand, hnot, Call.carries, Call.outside]
  | take henter hqueue =>
      obtain ⟨hbase, houtside⟩ := henter.ledger hledger
      exact hbase.take houtside (henter.queue.trans hqueue)
  | @empty _ call base henter hqueue =>
      obtain ⟨hbase, houtside⟩ := henter.ledger hledger
      have hnot := hbase.not_registered (Call.registrable_of_outside houtside)
      refine hbase.become (Call.carries_of_outside houtside) ?_ ?_ ?_ ?_ ?_ ?_ <;>
        simp [hnot, Call.outside]
  | @register _ call waiting hidle hwaiting hqueue hopen =>
      have hfresh := hledger.fresh call (by simp [hidle, Call.outside])
      have hmoved : Ledger (state.become call waiting) := by
        apply hledger.become <;>
          rcases hwaiting with rfl | rfl <;>
            simp [hidle, Call.carries, Call.outside, Call.registrable]
      refine hmoved.addWaiter ?_ hfresh.1 hfresh.2 ?_ hqueue hopen
      · rcases hwaiting with rfl | rfl <;> simp [Call.registrable]
      · exact hledger.not_registered (by simp [hidle, Call.registrable])
  | @park _ call base timed henter hqueue hopen =>
      obtain ⟨hbase, houtside⟩ := henter.ledger hledger
      have hnot := hbase.not_registered (Call.registrable_of_outside houtside)
      refine (hbase.transfer _ base.terminated).become (Call.carries_of_outside houtside)
        ?_ ?_ ?_ ?_ ?_ ?_ <;> simp [hnot, houtside]
  | @ready _ call result hawaits hset =>
      -- A registered waiter has no result yet, so whoever set the promise has taken it off.
      have hregistered : call ∉ state.fiberWaiters := by
        intro hmem
        simp [(hledger.registered call hmem).2.1] at hset
      refine hledger.become (Call.carries_of_awaits hawaits) ?_ ?_ ?_ ?_ ?_ ?_ <;>
        simp [hregistered, Call.outside]
      rintro message rfl
      exact hledger.fulfilled call message hset
  | expire hwaiting hunset =>
      apply hledger.become <;> simp [hwaiting, Call.carries, Call.outside, Call.registrable]
  | @withdraw _ call hexpired hmem =>
      have herased := hledger.eraseWaiter call
      have hnot : call ∉ state.fiberWaiters.erase call := hledger.waitersNodup.not_mem_erase
      apply herased.become <;> simp [hexpired, hnot, Call.carries, Call.outside]
  | missing hexpired hmem =>
      apply hledger.become <;> simp [hexpired, hmem, Call.carries, Call.outside]
  | @abandon call hrecheck hunset =>
      have hnot : call ∉ state.fiberWaiters :=
        hledger.not_registered (by simp [hrecheck, Call.registrable])
      apply hledger.become <;> simp [hrecheck, hnot, Call.carries, Call.outside]
  | closeAgain hidle hclosed =>
      apply hledger.become <;>
        simp [hidle, hledger.closedWaiters hclosed, Call.carries, Call.outside]
  | beginClose hidle hopen =>
      apply hledger.shut.become <;> simp [hidle, Call.carries, Call.outside]
      intro waiter hmem
      obtain ⟨hposition, _, hfree⟩ := hledger.registered waiter hmem
      exact ⟨Call.outside_of_registrable hposition, hfree⟩
  | notifyAll hclosing =>
      apply (hledger.transfer _ state.terminated).become <;>
        simp [hclosing, Call.carries, Call.outside, hledger.closers _ _ _ hclosing,
          hledger.closedWaiters (hledger.closers _ _ _ hclosing)]
      exact hledger.released _ _ _ hclosing
  | @release _ call waiter rest hclosing hunset =>
      -- A waiter that the close collected was never given a message, so `none` loses nothing.
      have hclosed := hledger.closers _ _ _ hclosing
      have hheld := hledger.released _ _ _ hclosing
      have hpromised := hledger.setPromise waiter none
        (by simp [hledger.closedWaiters hclosed]) (hheld waiter (by simp)).1 (by simp)
      apply hpromised.become <;>
        simp [hclosing, Call.carries, Call.outside, State.fulfil, hclosed,
          hledger.closedWaiters hclosed]
      exact fun other hmem => hheld other (by simp [hmem])
  | terminate hclosing hset => exact hledger.transfer _ _
  | closeReturn hclosing =>
      apply hledger.become <;>
        simp [hclosing, Call.carries, Call.outside,
          hledger.closedWaiters (hledger.closers _ _ _ hclosing)]

end Fiberuv.MessageQueue
