import Fiberuv.MessageQueue.Ledger

/-! # Delivery of accepted messages

A message bound to a fiber waiter is on its way: its sender holds the promise, or
the promise is set and the receiver has not looked at it yet. `recv_for` can leave
in the meantime. Its second readiness test reports a timeout although the sender
that took its promise has not called `set_value` yet, and the message is then set
into a promise that nobody reads. Without that race every accepted message stays in
the queue or is the result of one receive call.
-/

namespace Fiberuv.MessageQueue

open Foundation

variable {α : Type}

/-- No call is in progress. -/
def Quiescent (state : State α) : Prop :=
  ∀ call, (state.calls call).inProgress = false

/-- Every message whose send returned `true` is still queued, and then no receive
returned it, or is the result of exactly one receive call. -/
def NothingLost (state : State α) : Prop :=
  ∀ message, state.calls message.sender = .sent message true →
    (message ∈ state.queue ∧ ∀ call, state.calls call ≠ .received (some message)) ∨
    (message ∉ state.queue ∧ ∃! call, state.calls call = .received (some message))

/-- The second readiness test of `recv_for` is not made while a sender that took its
promise out of `fiber_waiters_` has still to set it. -/
def Unraced (state : State α) : Action α → Prop
  | .recvForZeroWait call => ∀ sender message, state.calls sender ≠ .handingOff message call
  | _ => True

/-- The call has not returned, waits for no promise and hands off no message. -/
def Call.apart : Call α → Bool
  | .idle | .blocked _ | .closing _ _ => true
  | _ => false

theorem Call.awaits_of_registrable {position : Call α} (hposition : position.registrable = true) :
    position.awaits = true := by
  cases position <;> simp [Call.registrable, Call.awaits] at hposition ⊢

/-- A message assigned to a receive call was returned by it, or will be. -/
def OnItsWay (state : State α) (call : CallId) (message : Message α) : Prop :=
  state.calls call = .received (some message) ∨
    (state.calls call).awaits = true ∧
      (state.promise call = some (some message) ∨
        state.promise call = none ∧ state.calls message.sender = .handingOff message call)

def AllOnTheirWay (state : State α) : Prop :=
  ∀ call message, (call, message) ∈ state.assigned → OnItsWay state call message

namespace AllOnTheirWay

variable {state : State α}

/-- A call that does not hand off a message can move to a position where it still
returns, or still waits for, what is assigned to it. -/
theorem become (hway : AllOnTheirWay state) {call : CallId} {position : Call α}
    (hassigned : ∀ message, (call, message) ∈ state.assigned →
      position = .received (some message) ∨
        position.awaits = true ∧ (state.calls call).awaits = true)
    (hhand : ∀ message waiter, state.calls call ≠ .handingOff message waiter) :
    AllOnTheirWay (state.become call position) := by
  intro other message hmem
  -- The sender of `message` is not `call`, so what it still has to do is unchanged.
  have hsender : ∀ waiter, state.calls message.sender = .handingOff message waiter →
      (state.become call position).calls message.sender = .handingOff message waiter := by
    intro waiter hold
    rw [State.become_calls, if_neg]
    · exact hold
    · exact fun heq => hhand message waiter (heq ▸ hold)
  rcases hway other message hmem with hreceived | ⟨hawaits, hpending⟩
  · by_cases heq : other = call
    · subst other
      rcases hassigned message hmem with hdone | ⟨_, hwaited⟩
      · left
        simpa using hdone
      · simp [hreceived, Call.awaits] at hwaited
    · left
      simpa [heq] using hreceived
  · by_cases heq : other = call
    · subst other
      rcases hassigned message hmem with hdone | ⟨hwaits, _⟩
      · left
        simpa using hdone
      · right
        exact ⟨by simpa using hwaits, hpending.imp_right fun h => ⟨h.1, hsender call h.2⟩⟩
    · right
      exact ⟨by simpa [heq] using hawaits, hpending.imp_right fun h => ⟨h.1, hsender other h.2⟩⟩

/-- The move of a call to which nothing is assigned. -/
theorem becomeFree (hway : AllOnTheirWay state) {call : CallId} {position : Call α}
    (hfree : ∀ message, (call, message) ∉ state.assigned)
    (hhand : ∀ message waiter, state.calls call ≠ .handingOff message waiter) :
    AllOnTheirWay (state.become call position) :=
  hway.become (fun message hmem => absurd hmem (hfree message)) hhand

/-- A call that has not returned, does not wait and hands off nothing moves freely. -/
theorem becomeApart (hway : AllOnTheirWay state) {call : CallId} {position : Call α}
    (hapart : (state.calls call).apart = true) :
    AllOnTheirWay (state.become call position) := by
  refine hway.becomeFree ?_ ?_
  · intro message hassigned
    rcases hway call message hassigned with hdone | ⟨hawaits, _⟩
    · simp [hdone, Call.apart] at hapart
    · cases hcall : state.calls call <;> simp [hcall, Call.apart, Call.awaits] at hapart hawaits
  · intro message waiter hhand
    simp [hhand, Call.apart] at hapart

/-- A sender takes a registered waiter for its message. -/
theorem bind (hway : AllOnTheirWay state) {call waiter : CallId} {rest : List CallId} {value : α}
    (hidle : state.calls call = .idle) (hregistrable : (state.calls waiter).registrable = true)
    (hunset : state.promise waiter = none) :
    AllOnTheirWay ((state.bindWaiter waiter rest ⟨call, value⟩).become call
      (.handingOff ⟨call, value⟩ waiter)) := by
  have hmoved : AllOnTheirWay (state.become call (.handingOff ⟨call, value⟩ waiter)) :=
    hway.becomeApart (by simp [hidle, Call.apart])
  intro other message hmem
  rcases List.mem_append.mp hmem with hold | hnew
  · exact hmoved other message hold
  · obtain ⟨rfl, rfl⟩ := Prod.mk.inj (List.mem_singleton.mp hnew)
    have hne : other ≠ call := by
      rintro rfl
      simp [hidle, Call.registrable] at hregistrable
    refine .inr ⟨?_, .inr ⟨hunset, by simp⟩⟩
    simpa [hne, State.bindWaiter] using Call.awaits_of_registrable hregistrable

/-- The sender that holds a promise lets go of it. What is assigned to that waiter must be
in the promise by then; the other promises are as before. -/
theorem handOver (hway : AllOnTheirWay state) {base : State α} {call waiter : CallId}
    {message : Message α} {position : Call α}
    (hhand : state.calls call = .handingOff message waiter) (hcalls : base.calls = state.calls)
    (hassigned : base.assigned = state.assigned)
    (hothers : ∀ other, other ≠ waiter → base.promise other = state.promise other)
    (hsettled : ∀ another, (waiter, another) ∈ state.assigned →
      state.promise waiter = some (some another) ∨ state.promise waiter = none →
        base.promise waiter = some (some another)) :
    AllOnTheirWay (base.become call position) := by
  intro other another hmem
  rw [State.become_assigned, hassigned] at hmem
  have hkept (reader : CallId) (hne : reader ≠ call) :
      (base.become call position).calls reader = state.calls reader := by
    rw [State.become_calls_of_ne hne, hcalls]
  rcases hway other another hmem with hreceived | ⟨hawaits, hpending⟩
  · have hne : other ≠ call := by
      rintro rfl
      simp [hhand] at hreceived
    exact .inl ((hkept other hne).trans hreceived)
  · have hne : other ≠ call := by
      rintro rfl
      simp [hhand, Call.awaits] at hawaits
    refine .inr ⟨by rwa [hkept other hne], ?_⟩
    rw [State.become_promise]
    by_cases heq : other = waiter
    · subst other
      exact .inl (hsettled another hmem (hpending.imp_right And.left))
    · rw [hothers other heq]
      rcases hpending with hset | ⟨hnone, hsender⟩
      · exact .inl hset
      · -- `call` hands off to `waiter`, so it is not the sender of `another`.
        have hcall : another.sender ≠ call := by
          intro hsame
          rw [hsame, hhand] at hsender
          exact heq (Call.handingOff.inj hsender).2.symm
        exact .inr ⟨hnone, (hkept another.sender hcall).trans hsender⟩

/-- `close` sets the promise of a waiter to which nothing is assigned. -/
theorem release (hway : AllOnTheirWay state) {waiter : CallId}
    (hfree : ∀ message, (waiter, message) ∉ state.assigned) :
    AllOnTheirWay (state.fulfil waiter none) := by
  intro other message hmem
  have hne : other ≠ waiter := by
    rintro rfl
    exact hfree message hmem
  simpa [OnItsWay, State.fulfil_promise, hne] using hway other message hmem

end AllOnTheirWay

theorem Enters.onTheirWay {state base : State α} {call : CallId}
    (henter : Enters state call base) (hway : AllOnTheirWay state) :
    AllOnTheirWay base ∧ (base.calls call).apart = true := by
  cases henter with
  | start hidle => exact ⟨hway, by simp [hidle, Call.apart]⟩
  | again timed hblocked => exact ⟨hway, by simp [State.unpark, hblocked, Call.apart]⟩

/-- Without the race, every step keeps all assigned messages on their way. -/
theorem step_onTheirWay {state next : State α} {action : Action α} (hledger : Ledger state)
    (hway : AllOnTheirWay state) (hunraced : Unraced state action)
    (heffect : Effect state action next) : AllOnTheirWay next := by
  cases heffect with
  | refuse hidle hclosed => exact hway.becomeApart (by simp [hidle, Call.apart])
  | @bind call value woken waiter rest hidle hopen hwaiters =>
      obtain ⟨hregistrable, hunset, _⟩ := hledger.registered waiter (by simp [hwaiters])
      exact hway.bind hidle hregistrable hunset
  | @enqueue call value woken notified hidle hopen hwaiters hnotify =>
      obtain ⟨parked, rfl⟩ := State.notifyOne_parked hnotify
      have hmoved : AllOnTheirWay (state.become call (.sent ⟨call, value⟩ true)) :=
        hway.becomeApart (by simp [hidle, Call.apart])
      exact hmoved
  | @fulfil call message waiter hhand hunset =>
      have hassigned := hledger.handing call message waiter hhand
      refine hway.handOver hhand rfl rfl (fun other hne => by simp [hne]) ?_
      intro another hmem _
      simp [hledger.once waiter another message hmem hassigned]
  | @satisfied call message waiter result hhand hset =>
      -- A message on its way to `waiter` is in the promise already.
      refine hway.handOver hhand rfl rfl (fun _ _ => rfl) ?_
      intro another _ hpending
      exact hpending.resolve_right (by simp [hset])
  | @take _ call base front rest henter hqueue =>
      obtain ⟨hbase, hapart⟩ := henter.onTheirWay hway
      have hmoved : AllOnTheirWay (base.become call (.received (some front))) :=
        hbase.becomeApart hapart
      intro other message hmem
      rcases List.mem_append.mp hmem with hold | hnew
      · exact hmoved other message hold
      · obtain ⟨rfl, rfl⟩ := Prod.mk.inj (List.mem_singleton.mp hnew)
        exact .inl (by simp [State.popFrontUnlocked])
  | empty henter hqueue =>
      obtain ⟨hbase, hapart⟩ := henter.onTheirWay hway
      exact hbase.becomeApart hapart
  | @register _ call waiting hidle hwaiting hqueue hopen =>
      have hbase : AllOnTheirWay { state with fiberWaiters := state.fiberWaiters ++ [call] } := hway
      exact hbase.becomeApart (by simp [hidle, Call.apart])
  | @park _ call base timed henter hqueue hopen =>
      obtain ⟨hbase, hapart⟩ := henter.onTheirWay hway
      have hparked : AllOnTheirWay { base with parked := base.parked ++ [call] } := hbase
      exact hparked.becomeApart hapart
  | @ready _ call result hawaits hset =>
      refine hway.become ?_ ?_
      · intro message hassigned
        rcases hway call message hassigned with hdone | ⟨_, hpromise | ⟨hunset, _⟩⟩
        · simp [hdone, Call.awaits] at hawaits
        · rw [hset] at hpromise
          exact .inl (congrArg Call.received (Option.some.inj hpromise))
        · simp [hset] at hunset
      · intro message waiter hhand
        simp [hhand, Call.awaits] at hawaits
  | expire hwaiting hunset =>
      exact hway.become (fun _ _ => .inr (by simp [hwaiting, Call.awaits])) (by simp [hwaiting])
  | @withdraw _ call hexpired hmem =>
      have hbase : AllOnTheirWay { state with
        fiberWaiters := state.fiberWaiters.erase call } := hway
      exact hbase.becomeFree (hledger.registered call hmem).2.2 (by simp [hexpired])
  | missing hexpired hmem =>
      exact hway.become (fun _ _ => .inr (by simp [hexpired, Call.awaits])) (by simp [hexpired])
  | @abandon call hrecheck hunset =>
      -- A message bound to this call would still be with its sender, which the race rules out.
      refine hway.becomeFree ?_ (by simp [hrecheck])
      intro message hassigned
      rcases hway call message hassigned with hdone | ⟨_, hset | ⟨_, hhand⟩⟩
      · simp [hrecheck] at hdone
      · simp [hunset] at hset
      · exact hunraced message.sender message hhand
  | closeAgain hidle hclosed => exact hway.becomeApart (by simp [hidle, Call.apart])
  | beginClose hidle hopen =>
      have hbase : AllOnTheirWay { state with closed := true, fiberWaiters := [] } := hway
      exact hbase.becomeApart (by simp [hidle, Call.apart])
  | notifyAll hclosing =>
      have hbase : AllOnTheirWay { state with parked := [] } := hway
      exact hbase.becomeApart (by simp [hclosing, Call.apart])
  | @release _ call waiter rest hclosing hunset =>
      have hfree := (hledger.released _ _ _ hclosing waiter (by simp)).2
      exact (hway.release hfree).becomeApart (by simp [hclosing, Call.apart])
  | terminate hclosing hset => exact hway
  | closeReturn hclosing => exact hway.becomeApart (by simp [hclosing, Call.apart])

/-- When no call is in progress, what is on its way has arrived. -/
theorem nothingLost_of_quiescent {state : State α} (hledger : Ledger state)
    (hway : AllOnTheirWay state) (hquiet : Quiescent state) : NothingLost state := by
  intro message hsent
  have harrived : ∀ call, (call, message) ∈ state.assigned →
      state.calls call = .received (some message) := by
    intro call hassigned
    rcases hway call message hassigned with hreceived | ⟨hawaits, _⟩
    · exact hreceived
    · have hidle := hquiet call
      cases hcall : state.calls call <;> simp [hcall, Call.awaits, Call.inProgress] at hawaits hidle
  -- Assigned and queued messages are apart, so the one place of the message is the only one.
  have hdistinct := hledger.distinct
  rw [hledger.order, List.nodup_append'] at hdistinct
  have haccepted := hledger.sent _ _ hsent
  rw [hledger.order, List.mem_append] at haccepted
  rcases haccepted with hassigned | hqueued
  · right
    obtain ⟨⟨call, other⟩, hmem, rfl⟩ := List.mem_map.mp hassigned
    refine ⟨fun hqueued => hdistinct.2.2 hassigned hqueued, call, harrived call hmem, ?_⟩
    intro another hanother
    have hsame := List.inj_on_of_nodup_map hdistinct.1 (hledger.result another _ hanother) hmem rfl
    exact congrArg Prod.fst hsame
  · left
    refine ⟨hqueued, fun call hreceived => ?_⟩
    exact hdistinct.2.2 (List.mem_map.mpr ⟨_, hledger.result call message hreceived, rfl⟩) hqueued

/-- In every run without the race no accepted message is lost. -/
theorem nothingLost_of_unraced (actions : List (Action α)) (state : State α)
    (hmeets : (machine α).Meets Unraced actions (initial α))
    (hrun : (machine α).run actions (initial α) = some state)
    (hquiet : Quiescent state) : NothingLost state := by
  have hkeep : ∀ before action next, Ledger before ∧ AllOnTheirWay before →
      Unraced before action → (machine α).step before action = some next →
      Ledger next ∧ AllOnTheirWay next := by
    intro before action next ⟨hledger, hway⟩ hunraced hstep
    have heffect := step_effect hstep
    exact ⟨step_ledger hledger heffect, step_onTheirWay hledger hway hunraced heffect⟩
  have hinitial : AllOnTheirWay (initial α) := by
    intro call message hmem
    simp [initial] at hmem
  obtain ⟨hledger, hway⟩ :=
    Machine.run_invariant hkeep actions _ state ⟨ledger_initial, hinitial⟩ hmeets hrun
  exact nothingLost_of_quiescent hledger hway hquiet

/-- A `recv_for` times out while a send is under way. -/
def timedOutReceive (order : List (Action Nat)) : List (Action Nat) :=
  [.recvFor 0, .recvForWait 0, .send 1 7 none, .recvForLookup 0] ++ order

/-- When the sender is faster than the second readiness test, the message arrives. -/
theorem nothingLost_setFirst :
    ∃ state, (machine Nat).run (timedOutReceive [.sendSetValue 1, .recvForZeroWait 0])
        (initial Nat) = some state ∧
      state.calls 0 = .received (some ⟨1, 7⟩) ∧ NothingLost state := by
  refine ⟨_, rfl, rfl, nothingLost_of_unraced
    (timedOutReceive [.sendSetValue 1, .recvForZeroWait 0]) _ ?_ rfl ?_⟩
  · refine Machine.meets_cons trivial rfl (Machine.meets_cons trivial rfl
      (Machine.meets_cons trivial rfl (Machine.meets_cons trivial rfl
        (Machine.meets_cons trivial rfl (Machine.meets_cons ?_ rfl trivial)))))
    intro sender message
    rcases sender with _ | _ | sender <;> exact nofun
  · intro call
    rcases call with _ | _ | call <;> rfl

/-- When the test comes first, `send` returns `true` and nobody has the message. -/
theorem message_lost_testFirst :
    ¬ ∀ state, (machine Nat).Reachable (initial Nat) state → Quiescent state →
      NothingLost state := by
  intro hnothingLost
  have hlost := hnothingLost _ ⟨timedOutReceive [.recvForZeroWait 0, .sendSetValue 1], rfl⟩
    (by intro call; rcases call with _ | _ | call <;> rfl) ⟨1, 7⟩ rfl
  rcases hlost with ⟨hqueued, _⟩ | ⟨_, call, hreceived, _⟩
  · exact absurd hqueued List.not_mem_nil
  · rcases call with _ | _ | call <;> cases hreceived

end Fiberuv.MessageQueue
