import Fiberuv.Tcp.Release
import Fiberuv.Tcp.Server

/-! # The invariant of the TCP server

The server is a rendezvous of connections and accepting calls. A connection that arrives
goes to the first waiter or into the queue, and `begin_close` releases the waiters before
it drops the queue. The invariant ties the rendezvous to the promises and the positions of
the calls: a promise that is not set is in the deque, and the call that waits for it
reaches the server through a handle that still has its `impl_`.
-/

namespace Fiberuv.Tcp.Server

open Foundation

/-- The call has the connection: as its result, or in the promise that it waits for. -/
def State.Gets (state : State) (call : CallId) (id : ConnectionId) : Prop :=
  match state.call call with
  | .waiting _ _ => state.promise call = some (.ok id)
  | .returned (.ok (some other)) => other = id
  | _ => False

/-- The server as a rendezvous of connections and accepting calls. -/
def State.rendezvous (state : State) : Rendezvous ConnectionId CallId where
  items := state.acceptedConnections
  waiters := state.acceptWaiters
  closed := state.closing
  arrived := state.arrived
  registered := state.registered
  handed := state.handed
  dropped := state.dropped

/-- What became of a waiter: it waits, it was failed, it was handed a connection, or its
timeout passed. -/
def State.Accounted (state : State) (call : CallId) : Prop :=
  call ∈ state.acceptWaiters ∨ call ∈ state.failed ∨ call ∈ state.handed.map Prod.fst ∨
    state.call call = .returned (.ok none)

/-- What holds of the server at every point where fibers switch. -/
structure Sound (state : State) : Prop where
  orderly : state.rendezvous.Orderly
  made : ∀ id ∈ state.arrived, id < state.fresh
  initialized : ∀ id, (state.connection id).initialized = true
  /-- A queued connection is open. -/
  queued : ∀ id ∈ state.acceptedConnections,
    (state.connection id).closing = false ∧ (state.connection id).closed = false
  released : ∀ id ∈ state.dropped, (state.connection id).Released
  gets : ∀ call id, (call, id) ∈ state.handed ↔ state.Gets call id
  waiters : ∀ call ∈ state.acceptWaiters, ∃ timed handle, state.call call = .waiting timed handle
  /-- A call that waits for a promise nobody has set is in the deque, and its `impl_` is
  not null. -/
  unset : ∀ call timed handle, state.call call = .waiting timed handle →
    (state.promise call = none ↔ call ∈ state.acceptWaiters) ∧
      (state.promise call = none → state.handle handle = true)
  idle : ∀ call, state.call call = .idle → state.promise call = none ∧ call ∉ state.registered
  accounted : ∀ call ∈ state.registered, state.Accounted call
  timedOut : ∀ call, state.call call = .returned (.ok none) → state.promise call = none
  failed : ∀ call ∈ state.failed, call ∈ state.registered ∧
    state.promise call = some (.error serverIsClosed) ∧ call ∉ state.handed.map Prod.fst
  failedOnce : state.failed.Nodup
  opened : state.closing = false → state.failed = []
  shut : state.closing = true → state.acceptedConnections = []
  callback : state.closeCallback = true → state.closing = true
  noFault : state.fault = false

theorem sound_initial : Sound initial where
  orderly := Rendezvous.orderly_initial
  made := by simp [initial]
  initialized := by simp [initial]
  queued := by simp [initial]
  released := by simp [initial]
  gets := by simp [initial, State.Gets]
  waiters := by simp [initial]
  unset := by simp [initial]
  idle := by simp [initial]
  accounted := by simp [initial]
  timedOut := by simp [initial]
  failed := by simp [initial]
  failedOnce := List.nodup_nil
  opened := fun _ => rfl
  shut := fun _ => rfl
  callback := by simp [initial]
  noFault := rfl

variable {state next : State}

@[simp] theorem State.setCall_call (state : State) (call other : CallId) (position : Call) :
    (state.setCall call position).call other =
      if other = call then position else state.call other := by
  simp [State.setCall, Function.update_apply]

/-- A call with another position than the one it was given is another call. -/
theorem State.call_of_setCall {call other : CallId} {position expected : Call}
    (hother : (state.setCall call position).call other = expected) (hne : position ≠ expected) :
    other ≠ call ∧ state.call other = expected := by
  rw [State.setCall_call] at hother
  split at hother
  · exact absurd hother hne
  next hself => exact ⟨hself, hother⟩

theorem State.Accounted.imp {call : CallId} (haccounted : state.Accounted call)
    (hwaiting : call ∈ state.acceptWaiters → next.Accounted call)
    (hfailed : call ∈ state.failed → call ∈ next.failed)
    (hhanded : call ∈ state.handed.map Prod.fst → call ∈ next.handed.map Prod.fst)
    (hnull : state.call call = .returned (.ok none) → next.call call = .returned (.ok none)) :
    next.Accounted call := by
  rcases haccounted with hin | hin | hin | hin
  · exact hwaiting hin
  · exact .inr (.inl (hfailed hin))
  · exact .inr (.inr (.inl (hhanded hin)))
  · exact .inr (.inr (.inr (hnull hin)))

theorem State.setCall_gets_of_ne {call other : CallId} {position : Call} {id : ConnectionId}
    (hne : other ≠ call) : (state.setCall call position).Gets other id ↔ state.Gets other id := by
  simp only [State.Gets, State.setCall_call, if_neg hne]
  rfl

section Calls

theorem Sound.not_waiting_of_idle (hsound : Sound state) {call : CallId}
    (hidle : state.call call = .idle) : call ∉ state.acceptWaiters := by
  intro hmem
  obtain ⟨timed, handle, hwaiting⟩ := hsound.waiters call hmem
  simp [hidle] at hwaiting

theorem Sound.not_handed_of_idle (hsound : Sound state) {call : CallId}
    (hidle : state.call call = .idle) : call ∉ state.handed.map Prod.fst := by
  intro hmem
  obtain ⟨⟨other, id⟩, hhanded, rfl⟩ := List.mem_map.mp hmem
  have hgets := (hsound.gets other id).mp hhanded
  simp [State.Gets, hidle] at hgets

theorem Sound.unset_of_waiting (hsound : Sound state) {call : CallId}
    (hmem : call ∈ state.acceptWaiters) : state.promise call = none := by
  obtain ⟨timed, handle, hwaiting⟩ := hsound.waiters call hmem
  exact ((hsound.unset call timed handle hwaiting).1).mpr hmem

theorem Sound.waitersNodup (hsound : Sound state) : state.acceptWaiters.Nodup :=
  (List.nodup_append'.mp (hsound.orderly.turns.nodup hsound.orderly.registrations)).2.1

/-- A call that is not in the deque ends, with the connection that it had if any. -/
theorem Sound.setCall (hsound : Sound state) {call : CallId} {position : Call}
    (hgets : ∀ id, (state.setCall call position).Gets call id ↔ state.Gets call id)
    (hended : ∀ timed handle, position ≠ .waiting timed handle) (hstarted : position ≠ .idle)
    (hmissing : call ∉ state.acceptWaiters)
    (hbefore : state.call call ≠ .returned (.ok none))
    (hafter : position ≠ .returned (.ok none)) :
    Sound (state.setCall call position) :=
  { hsound with
    gets := by
      intro other id
      refine (hsound.gets other id).trans ?_
      by_cases hself : other = call
      · subst hself
        exact (hgets id).symm
      · exact (State.setCall_gets_of_ne hself).symm
    waiters := by
      intro other hother
      have hne : other ≠ call := fun heq => hmissing (heq ▸ hother)
      simpa [hne] using hsound.waiters other hother
    unset := by
      intro other timed handle hother
      obtain ⟨-, hold⟩ := State.call_of_setCall hother (hended timed handle)
      exact hsound.unset other timed handle hold
    idle := by
      intro other hother
      obtain ⟨-, hold⟩ := State.call_of_setCall hother hstarted
      exact hsound.idle other hold
    accounted := by
      intro other hother
      refine (hsound.accounted other hother).imp .inl (fun hin => hin) (fun hin => hin) ?_
      intro hnull
      have hne : other ≠ call := fun heq => hbefore (heq ▸ hnull)
      simpa [hne] using hnull
    timedOut := by
      intro other hother
      obtain ⟨-, hold⟩ := State.call_of_setCall hother hafter
      exact hsound.timedOut other hold }

/-- A call that is refused ends at once. -/
theorem Sound.answer (hsound : Sound state) {call : CallId} {position : Call}
    (hidle : state.call call = .idle)
    (hposition : (∃ result, position = .listened result) ∨
      ∃ error, position = .returned (.error error)) : Sound (state.setCall call position) := by
  refine hsound.setCall ?_ ?_ ?_ (hsound.not_waiting_of_idle hidle) (by simp [hidle]) ?_
  · rcases hposition with ⟨result, rfl⟩ | ⟨error, rfl⟩ <;> simp [State.Gets, hidle]
  · rcases hposition with ⟨result, rfl⟩ | ⟨error, rfl⟩ <;> simp
  · rcases hposition with ⟨result, rfl⟩ | ⟨error, rfl⟩ <;> simp
  · rcases hposition with ⟨result, rfl⟩ | ⟨error, rfl⟩ <;> simp

/-- A call whose promise is set takes what is in it. -/
theorem Sound.collect (hsound : Sound state) {call : CallId} {timed : Bool} {handle : HandleId}
    {outcome : Except Error ConnectionId} (hwaiting : state.call call = .waiting timed handle)
    (hset : state.promise call = some outcome) : Sound (state.collect call outcome) := by
  refine hsound.setCall ?_ (by simp) (by simp) ?_ (by simp [hwaiting]) ?_
  · intro id
    cases outcome <;> simp [State.Gets, hwaiting, hset, Except.map]
  · intro hmem
    have hunset := ((hsound.unset call timed handle hwaiting).1).mpr hmem
    simp [hset] at hunset
  · cases outcome <;> simp [Except.map]

theorem Sound.popFront (hsound : Sound state) {call : CallId} {front : ConnectionId}
    {rest : List ConnectionId} (hidle : state.call call = .idle)
    (hqueue : state.acceptedConnections = front :: rest) :
    Sound (state.popFront call front rest) :=
  { hsound with
    orderly := hsound.orderly.take hqueue (hsound.idle call hidle).2
      (hsound.not_handed_of_idle hidle)
    queued := fun id hid => hsound.queued id (by rw [hqueue]; exact List.mem_cons_of_mem _ hid)
    gets := by
      intro other id
      simp only [State.popFront, State.setCall, List.mem_append, List.mem_singleton,
        Prod.mk.injEq, State.Gets, Function.update_apply]
      by_cases hself : other = call
      · subst hself
        have hnone : (other, id) ∉ state.handed := by
          intro hmem
          exact hsound.not_handed_of_idle hidle (List.mem_map.mpr ⟨_, hmem, rfl⟩)
        simp [hnone, eq_comm]
      · simpa [hself, State.Gets] using hsound.gets other id
    waiters := by
      intro other hother
      have hne : other ≠ call := by
        rintro rfl
        exact hsound.not_waiting_of_idle hidle hother
      simpa [State.popFront, hne] using hsound.waiters other hother
    unset := by
      intro other timed handle hother
      obtain ⟨-, hold⟩ := State.call_of_setCall hother (by simp)
      exact hsound.unset other timed handle hold
    idle := by
      intro other hother
      obtain ⟨-, hold⟩ := State.call_of_setCall hother (by simp)
      exact hsound.idle other hold
    accounted := by
      intro other hother
      have hne : other ≠ call := by
        rintro rfl
        exact (hsound.idle other hidle).2 hother
      refine (hsound.accounted other hother).imp .inl (fun hin => hin) (fun hhanded => ?_)
        fun hnull => ?_
      · simp only [State.popFront, State.setCall, List.map_append]
        exact List.mem_append_left _ hhanded
      · simpa [State.popFront, hne] using hnull
    timedOut := by
      intro other hother
      obtain ⟨-, hold⟩ := State.call_of_setCall hother (by simp)
      exact hsound.timedOut other hold
    failed := by
      intro other hother
      have hopen : state.closing = false := by
        by_contra hclosing
        have hempty := hsound.shut (by simpa using hclosing)
        simp [hqueue] at hempty
      have hnone : other ∈ [] := hsound.opened hopen ▸ hother
      exact absurd hnone List.not_mem_nil
    shut := by
      intro hclosing
      have hempty := hsound.shut hclosing
      simp [hqueue] at hempty }

theorem Sound.register (hsound : Sound state) {call : CallId} {timed : Bool} {handle : HandleId}
    (hidle : state.call call = .idle) (hopen : state.closing = false)
    (hqueue : state.acceptedConnections = []) (hhandle : state.handle handle = true) :
    Sound (state.register call timed handle) :=
  { hsound with
    orderly := hsound.orderly.register hopen hqueue (hsound.idle call hidle).2
      (hsound.not_handed_of_idle hidle)
    gets := by
      intro other id
      refine (hsound.gets other id).trans ?_
      by_cases hself : other = call
      · subst hself
        simp [State.register, State.Gets, State.setCall, hidle, (hsound.idle other hidle).1]
      · simp [State.register, State.Gets, State.setCall, hself]
    waiters := by
      intro other hother
      by_cases hself : other = call
      · exact ⟨timed, handle, by simp [State.register, hself]⟩
      · simp only [State.register, State.setCall, List.mem_append, List.mem_singleton, hself,
          or_false] at hother
        simpa [State.register, hself] using hsound.waiters other hother
    unset := by
      intro other otherTimed otherHandle hother
      simp only [State.register, State.setCall_call] at hother
      split at hother
      next heq =>
        cases hother
        subst heq
        simp [State.register, State.setCall, (hsound.idle other hidle).1, hhandle]
      next hne =>
        simpa [State.register, State.setCall, hne] using
          hsound.unset other otherTimed otherHandle hother
    idle := by
      intro other hother
      obtain ⟨hne, hold⟩ := State.call_of_setCall hother (by simp)
      simpa [State.register, State.setCall, hne] using hsound.idle other hold
    accounted := by
      intro other hother
      by_cases hself : other = call
      · exact .inl (by simp [State.register, State.setCall, hself])
      · simp only [State.register, State.setCall, List.mem_append, List.mem_singleton, hself,
          or_false] at hother
        refine (hsound.accounted other hother).imp (fun hin => .inl (List.mem_append_left _ hin))
          (fun hin => hin) (fun hin => hin) fun hnull => ?_
        simpa [State.register, hself] using hnull
    timedOut := by
      intro other hother
      obtain ⟨-, hold⟩ := State.call_of_setCall hother (by simp)
      exact hsound.timedOut other hold
    failed := by
      intro other hother
      obtain ⟨hregistered, hset, hunhanded⟩ := hsound.failed other hother
      exact ⟨List.mem_append_left _ hregistered, hset, hunhanded⟩ }

/-- `accept_for` gives up while its promise is still in the deque. -/
theorem Sound.withdraw (hsound : Sound state) {call : CallId}
    (hmem : call ∈ state.acceptWaiters) :
    Sound ({ state with acceptWaiters := state.acceptWaiters.erase call }.setCall call
      (.returned (.ok none))) :=
  have hunhanded := hsound.orderly.not_handed_of_waiting hmem
  { hsound with
    orderly := hsound.orderly.withdraw call
    gets := by
      intro other id
      refine (hsound.gets other id).trans ?_
      by_cases hself : other = call
      · subst hself
        have hnone : ¬ state.Gets other id := fun hgets =>
          hunhanded (List.mem_map.mpr ⟨_, (hsound.gets other id).mpr hgets, rfl⟩)
        exact iff_of_false hnone (by simp [State.Gets])
      · simp [State.Gets, State.setCall, hself]
    waiters := by
      intro other hother
      have hother : other ∈ state.acceptWaiters.erase call := hother
      rw [hsound.waitersNodup.mem_erase_iff] at hother
      simpa [hother.1] using hsound.waiters other hother.2
    unset := by
      intro other timed handle hother
      obtain ⟨hne, hold⟩ := State.call_of_setCall hother (by simp)
      have hunset := hsound.unset other timed handle hold
      simpa [State.setCall, List.mem_erase_of_ne hne] using hunset
    idle := by
      intro other hother
      obtain ⟨-, hold⟩ := State.call_of_setCall hother (by simp)
      exact hsound.idle other hold
    accounted := by
      intro other hother
      by_cases hself : other = call
      · exact .inr (.inr (.inr (by simp [hself])))
      · refine (hsound.accounted other hother).imp
          (fun hin => .inl ((List.mem_erase_of_ne hself).mpr hin))
          (fun hin => hin) (fun hin => hin) fun hnull => ?_
        simpa [hself] using hnull
    timedOut := by
      intro other hother
      rw [State.setCall_call] at hother
      split at hother
      next heq =>
        subst heq
        exact hsound.unset_of_waiting hmem
      next => exact hsound.timedOut other hother }

end Calls

section Callbacks

/-- A step of a connection that is not queued, and that stays released if it was. -/
theorem Sound.setConnection (hsound : Sound state) {id : ConnectionId} {connection : Tcp.State}
    (hmissing : id ∉ state.acceptedConnections)
    (hinitialized : connection.initialized = true)
    (hreleased : id ∈ state.dropped → connection.Released) :
    Sound (state.setConnection id connection) :=
  { hsound with
    initialized := by
      intro other
      by_cases hself : other = id
      · simpa [State.setConnection, hself] using hinitialized
      · simpa [State.setConnection, hself] using hsound.initialized other
    queued := by
      intro other hother
      have hne : other ≠ id := fun heq => hmissing (heq ▸ hother)
      simpa [State.setConnection, hne] using hsound.queued other hother
    released := by
      intro other hother
      by_cases hself : other = id
      · subst hself
        simpa [State.setConnection] using hreleased hother
      · simpa [State.setConnection, hself] using hsound.released other hother }

/-- Nothing is known yet about the next connection. -/
theorem Sound.not_arrived (hsound : Sound state) : state.fresh ∉ state.arrived :=
  fun hmem => absurd (hsound.made _ hmem) (lt_irrefl _)

theorem Sound.arrived_eq (hsound : Sound state) :
    state.arrived = state.handed.map Prod.snd ++ state.dropped ++ state.acceptedConnections :=
  hsound.orderly.order

theorem Sound.not_queued (hsound : Sound state) : state.fresh ∉ state.acceptedConnections := by
  intro hmem
  refine hsound.not_arrived ?_
  rw [hsound.arrived_eq]
  exact List.mem_append_right _ hmem

theorem Sound.not_dropped (hsound : Sound state) : state.fresh ∉ state.dropped := by
  intro hmem
  refine hsound.not_arrived ?_
  rw [hsound.arrived_eq]
  exact List.mem_append_left _ (List.mem_append_right _ hmem)

theorem Sound.createConnection (hsound : Sound state) : Sound state.createConnection := by
  have hgrown : Sound { state with fresh := state.fresh + 1 } :=
    { hsound with made := fun id hid => Nat.lt_succ_of_lt (hsound.made id hid) }
  exact hgrown.setConnection hsound.not_queued rfl fun hmem => absurd hmem hsound.not_dropped

/-- A new connection that nobody knows goes to the first waiter. -/
theorem Sound.hand (hsound : Sound state) {id : ConnectionId} {waiter : CallId}
    {rest : List CallId} (hmade : id < state.fresh) (hnew : id ∉ state.arrived)
    (hwaiters : state.acceptWaiters = waiter :: rest) :
    Sound { state with
      arrived := state.arrived ++ [id]
      acceptWaiters := rest
      handed := state.handed ++ [(waiter, id)]
      promise := Function.update state.promise waiter (some (.ok id)) } := by
  have hmem : waiter ∈ state.acceptWaiters := by simp [hwaiters]
  obtain ⟨timed, handle, hwaiting⟩ := hsound.waiters waiter hmem
  have hunset := hsound.unset_of_waiting hmem
  have hopen : state.closing = false := (hsound.orderly.apart (List.ne_nil_of_mem hmem)).2
  have hnodup : (waiter :: rest).Nodup := by
    rw [← hwaiters]
    exact hsound.waitersNodup
  exact { hsound with
    orderly := hsound.orderly.hand hopen hwaiters hnew
    made := by
      intro other hother
      rcases List.mem_append.mp hother with hold | hself
      · exact hsound.made other hold
      · exact (List.mem_singleton.mp hself) ▸ hmade
    gets := by
      intro other otherId
      have hold := hsound.gets other otherId
      by_cases hself : other = waiter
      · subst hself
        simp only [State.Gets, hwaiting, hunset] at hold ⊢
        simp [hold, eq_comm]
      · simpa [State.Gets, hself] using hold
    waiters := fun other hother => hsound.waiters other (by simp [hwaiters, hother])
    unset := by
      intro other otherTimed otherHandle hother
      have hold := hsound.unset other otherTimed otherHandle hother
      by_cases hself : other = waiter
      · subst hself
        simpa using (List.nodup_cons.mp hnodup).1
      · simpa [hself, hwaiters] using hold
    idle := by
      intro other hother
      have hne : other ≠ waiter := by
        rintro rfl
        simp [hwaiting] at hother
      simpa [hne] using hsound.idle other hother
    accounted := by
      intro other hother
      by_cases hself : other = waiter
      · exact .inr (.inr (.inl (by simp [hself])))
      · refine (hsound.accounted other hother).imp (fun hin => .inl ?_) (fun hin => hin)
          (fun hhanded => ?_) fun hnull => hnull
        · simpa [hwaiters, hself] using hin
        · rw [List.map_append]
          exact List.mem_append_left _ hhanded
    timedOut := by
      intro other hother
      have hne : other ≠ waiter := by
        rintro rfl
        simp [hwaiting] at hother
      simpa [hne] using hsound.timedOut other hother
    failed := by
      intro other hother
      rw [hsound.opened hopen] at hother
      exact absurd hother List.not_mem_nil }

/-- A new connection that nobody waits for is queued. -/
theorem Sound.store (hsound : Sound state) {id : ConnectionId} (hmade : id < state.fresh)
    (hnew : id ∉ state.arrived) (hopen : state.closing = false)
    (hwaiters : state.acceptWaiters = [])
    (hconnection : (state.connection id).closing = false ∧ (state.connection id).closed = false) :
    Sound { state with
      arrived := state.arrived ++ [id]
      acceptedConnections := state.acceptedConnections ++ [id] } :=
  { hsound with
    orderly := hsound.orderly.store hopen hwaiters hnew
    made := by
      intro other hother
      rcases List.mem_append.mp hother with hold | hself
      · exact hsound.made other hold
      · exact (List.mem_singleton.mp hself) ▸ hmade
    queued := by
      intro other hother
      rcases List.mem_append.mp hother with hold | hself
      · exact hsound.queued other hold
      · exact (List.mem_singleton.mp hself) ▸ hconnection
    shut := fun hclosing => absurd hclosing (by simp [hopen]) }

theorem Sound.dispatchAccepted (hsound : Sound state) {id : ConnectionId}
    (hmade : id < state.fresh) (hnew : id ∉ state.arrived) (hopen : state.closing = false)
    (hconnection : (state.connection id).closing = false ∧ (state.connection id).closed = false) :
    Sound (state.dispatchAccepted id) := by
  unfold State.dispatchAccepted
  cases hwaiters : state.acceptWaiters with
  | nil =>
      have hstored := hsound.store hmade hnew hopen hwaiters hconnection
      simpa only [hwaiters] using hstored
  | cons waiter rest =>
      have hunset := hsound.unset_of_waiting (by rw [hwaiters]; exact List.mem_cons_self)
      have hhanded := hsound.hand hmade hnew hwaiters
      simpa only [State.setPromise, hunset] using hhanded

theorem Sound.onConnection (hsound : Sound state) (status createRc acceptRc : Int) :
    Sound (state.onConnection status createRc acceptRc) := by
  unfold State.onConnection
  split
  · exact hsound
  next hgoes =>
  split
  · exact hsound
  have hopen : state.closing = false := by
    simp only [Bool.or_eq_true, decide_eq_true_eq, not_or, Bool.not_eq_true] at hgoes
    exact hgoes.2
  have hcreated := hsound.createConnection
  have hconnection : state.createConnection.connection state.fresh = { alive := state.alive } := by
    simp [State.createConnection, State.setConnection]
  split
  · refine hcreated.setConnection hsound.not_queued ?_ fun hmem =>
      absurd hmem hsound.not_dropped
    rw [Tcp.State.startClose_initialized]
    exact hcreated.initialized _
  · exact hcreated.dispatchAccepted (Nat.lt_succ_self _) hsound.not_arrived hopen
      (by simp [hconnection])

end Callbacks

section Closing

/-- What the loop of `fail_accept_waiters` does when no promise is set yet. -/
theorem failAcceptWaiters_eq (error : Error) (waiters : List CallId) (state : State)
    (hnodup : waiters.Nodup) (hunset : ∀ call ∈ waiters, state.promise call = none) :
    State.failAcceptWaiters error waiters state = { state with
      acceptWaiters := []
      failed := state.failed ++ waiters
      promise := fun call =>
        if call ∈ waiters then some (.error error) else state.promise call } := by
  induction waiters generalizing state with
  | nil => simp [State.failAcceptWaiters]
  | cons waiter rest ih =>
      obtain ⟨hfirst, hrest⟩ := List.nodup_cons.mp hnodup
      have hhead := hunset waiter (by simp)
      rw [State.failAcceptWaiters]
      simp only [State.setPromise, hhead]
      rw [ih _ hrest]
      · simp only [List.append_assoc, List.singleton_append, List.mem_cons]
        congr 1
        funext call
        by_cases hself : call = waiter
        · simp [hself, hfirst]
        · simp [hself]
      · intro call hcall
        have hne : call ≠ waiter := fun heq => hfirst (heq ▸ hcall)
        simpa [hne] using hunset call (List.mem_cons_of_mem _ hcall)

/-- What the loop of `begin_close` does to the connections. -/
theorem closeAccepted_eq (queue : List ConnectionId) (state : State) :
    ∃ connection, State.closeAccepted queue state = { state with
        acceptedConnections := []
        dropped := state.dropped ++ queue
        connection := connection } ∧
      (∀ id, (state.connection id).initialized = true → (connection id).initialized = true) ∧
      ∀ id, (state.connection id).initialized = true →
        id ∈ queue ∨ (state.connection id).Released → (connection id).Released := by
  induction queue generalizing state with
  | nil => exact ⟨state.connection, by simp [State.closeAccepted]⟩
  | cons front rest ih =>
      obtain ⟨connection, heq, hinitialized, hreleased⟩ := ih ({ state with
        acceptedConnections := rest
        dropped := state.dropped ++ [front] }.setConnection front
          ((state.connection front).startClose none))
      refine ⟨connection, ?_, fun id hid => ?_, fun id hid hcase => ?_⟩
      · rw [State.closeAccepted, heq]
        simp [State.setConnection]
      · refine hinitialized id ?_
        by_cases hself : id = front
        · subst hself
          simpa [State.setConnection, Tcp.State.startClose_initialized] using hid
        · simpa [State.setConnection, hself] using hid
      · by_cases hself : id = front
        · subst hself
          have hclosed := Tcp.State.released_of_startClose hid none
          refine hreleased id ?_ (.inr ?_)
          · simpa [State.setConnection] using hclosed.initialized
          · simpa [State.setConnection] using hclosed
        · refine hreleased id ?_ ?_
          · simpa [State.setConnection, hself] using hid
          · simpa [State.setConnection, hself] using hcase

theorem Sound.closeServer (hsound : Sound state) (hclosing : state.closing = true) :
    Sound state.closeServer := by
  unfold State.closeServer
  split
  · split
    · exact { hsound with callback := fun _ => hclosing }
    · exact { hsound with }
  · exact { hsound with }

/-- The state in which `begin_close` gets to the listening handle. -/
def State.emptied (state : State) (connection : ConnectionId → Tcp.State) : State :=
  { state with
    closing := true
    acceptWaiters := []
    failed := state.failed ++ state.acceptWaiters
    promise := fun call =>
      if call ∈ state.acceptWaiters then some (.error serverIsClosed) else state.promise call
    acceptedConnections := []
    dropped := state.dropped ++ state.acceptedConnections
    connection := connection }

theorem Sound.beginClose_eq (hsound : Sound state) (hopen : state.closing = false) :
    ∃ connection, state.beginClose = (state.emptied connection).closeServer ∧
      (∀ id, (connection id).initialized = true) ∧
      ∀ id, id ∈ state.acceptedConnections ∨ (state.connection id).Released →
        (connection id).Released := by
  have hfailed := failAcceptWaiters_eq serverIsClosed state.acceptWaiters
    { state with closing := true } hsound.waitersNodup
    fun call hcall => hsound.unset_of_waiting hcall
  obtain ⟨connection, heq, hinitialized, hreleased⟩ := closeAccepted_eq state.acceptedConnections
    { state with
      closing := true
      acceptWaiters := []
      failed := state.failed ++ state.acceptWaiters
      promise := fun call =>
        if call ∈ state.acceptWaiters then some (.error serverIsClosed) else state.promise call }
  refine ⟨connection, ?_, fun id => hinitialized id (hsound.initialized id),
    fun id => hreleased id (hsound.initialized id)⟩
  simp only [State.beginClose, hopen, Bool.false_eq_true, if_false, hfailed, heq, State.emptied]

/-- The waiters are failed and the queue is dropped. -/
theorem Sound.beginClose (hsound : Sound state) : Sound state.beginClose := by
  cases hopen : state.closing with
  | true => simpa only [State.beginClose, hopen, if_true] using hsound
  | false =>
  obtain ⟨connection, heq, hinitialized, hreleased⟩ := hsound.beginClose_eq hopen
  rw [heq]
  refine Sound.closeServer ?_ rfl
  exact { hsound with
    orderly := hsound.orderly.close.discard rfl
    initialized := hinitialized
    queued := by simp [State.emptied]
    released := by
      intro id hid
      refine hreleased id ?_
      rcases List.mem_append.mp hid with hold | hqueued
      · exact .inr (hsound.released id hold)
      · exact .inl hqueued
    gets := by
      intro call id
      refine (hsound.gets call id).trans ?_
      by_cases hcall : call ∈ state.acceptWaiters
      · obtain ⟨timed, handle, hposition⟩ := hsound.waiters call hcall
        simp [State.Gets, State.emptied, hposition, hcall, hsound.unset_of_waiting hcall]
      · simp [State.Gets, State.emptied, hcall]
    waiters := by simp [State.emptied]
    unset := by
      intro call timed handle hposition
      have hold := hsound.unset call timed handle hposition
      by_cases hcall : call ∈ state.acceptWaiters
      · simp [State.emptied, hcall]
      · simpa [State.emptied, hcall] using hold
    idle := by
      intro call hidle
      have hmissing := hsound.not_waiting_of_idle hidle
      simpa [State.emptied, hmissing] using hsound.idle call hidle
    accounted := by
      intro call hcall
      exact (hsound.accounted call hcall).imp
        (fun hin => .inr (.inl (List.mem_append_right _ hin)))
        (fun hfailed => List.mem_append_left _ hfailed) (fun hin => hin) fun hnull => hnull
    timedOut := by
      intro call hnull
      have hmissing : call ∉ state.acceptWaiters := by
        intro hmem
        obtain ⟨timed, handle, hposition⟩ := hsound.waiters call hmem
        exact absurd (hposition.symm.trans hnull) (by simp)
      simpa [State.emptied, hmissing] using hsound.timedOut call hnull
    failed := by
      intro call hcall
      simp only [State.emptied, hsound.opened hopen, List.nil_append] at hcall
      exact ⟨hsound.orderly.registered_of_waiting hcall, by simp [State.emptied, hcall],
        hsound.orderly.not_handed_of_waiting hcall⟩
    failedOnce := by
      simp only [State.emptied, hsound.opened hopen, List.nil_append]
      exact hsound.waitersNodup
    opened := by simp [State.emptied]
    shut := by simp [State.emptied]
    callback := fun _ => rfl }

theorem closeServer_unmoved (state : State) :
    state.closeServer.closing = state.closing ∧ state.closeServer.failed = state.failed ∧
      state.closeServer.dropped = state.dropped := by
  unfold State.closeServer
  split
  · split <;> exact ⟨rfl, rfl, rfl⟩
  · exact ⟨rfl, rfl, rfl⟩

theorem Sound.beginClose_lists (hsound : Sound state) (hopen : state.closing = false) :
    state.beginClose.closing = true ∧ state.beginClose.failed = state.acceptWaiters ∧
      state.beginClose.dropped = state.acceptedConnections := by
  obtain ⟨connection, heq, -⟩ := hsound.beginClose_eq hopen
  obtain ⟨hclosing, hfailed, hdropped⟩ := closeServer_unmoved (state.emptied connection)
  have hnone : state.dropped = [] := hsound.orderly.dropped_of_open hopen
  rw [heq]
  refine ⟨hclosing, hfailed.trans ?_, hdropped.trans ?_⟩
  · simp [State.emptied, hsound.opened hopen]
  · simp [State.emptied, hnone]

theorem Sound.beginClose_closing (hsound : Sound state) : state.beginClose.closing = true := by
  cases hopen : state.closing with
  | true => simp only [State.beginClose, hopen, if_true]
  | false => exact (hsound.beginClose_lists hopen).1

theorem Sound.acceptWaiters_of_closing (hsound : Sound state) (hclosing : state.closing = true) :
    state.acceptWaiters = [] := by
  by_contra hne
  have happart := (hsound.orderly.apart hne).2
  exact absurd happart (by simp [State.rendezvous, hclosing])

theorem Sound.close (hsound : Sound state) (handle : HandleId) : Sound (state.close handle) := by
  unfold State.close
  split
  · exact hsound
  have hclosed := hsound.beginClose
  -- Nobody waits any more, so nobody needs the `impl_` that is reset.
  have hempty := hclosed.acceptWaiters_of_closing hsound.beginClose_closing
  exact { hclosed with
    unset := by
      intro call timed other hposition
      have hold := hclosed.unset call timed other hposition
      refine ⟨hold.1, fun hunset => ?_⟩
      have hmem := hold.1.mp hunset
      rw [hempty] at hmem
      exact absurd hmem List.not_mem_nil }

theorem Sound.onServerClosed (hsound : Sound state) (hcallback : state.closeCallback = true) :
    Sound state.onServerClosed := by
  have hclosing := hsound.callback hcallback
  have hempty := hsound.acceptWaiters_of_closing hclosing
  have hrest : Sound { state with
      serverClosed := true
      closeCallback := false
      keepalive := false } := { hsound with callback := by simp }
  unfold State.onServerClosed
  simpa only [hempty, State.failAcceptWaiters, hclosing, if_true] using hrest

end Closing

section Steps

theorem Sound.listen (hsound : Sound state) {call : CallId} (hidle : state.call call = .idle)
    (handle : HandleId) (results : ListenResults) :
    Sound (state.listen call handle results) := by
  have hinit : Sound { state with serverInitialized := true } := { hsound with }
  unfold State.listen
  split
  · exact hsound.answer hidle (.inl ⟨_, rfl⟩)
  split
  · exact hsound.answer hidle (.inl ⟨_, rfl⟩)
  split
  · exact hsound.answer hidle (.inl ⟨_, rfl⟩)
  split
  · exact hsound.answer hidle (.inl ⟨_, rfl⟩)
  dsimp only
  split
  · exact hinit.answer hidle (.inl ⟨_, rfl⟩)
  split
  · exact hinit.answer hidle (.inl ⟨_, rfl⟩)
  split
  · exact hinit.answer hidle (.inl ⟨_, rfl⟩)
  · have hlistening : Sound { state with
        serverInitialized := true
        listening := true
        keepalive := true } := { hsound with }
    exact hlistening.answer hidle (.inl ⟨_, rfl⟩)

theorem Sound.acceptOrWait (hsound : Sound state) {call : CallId}
    (hidle : state.call call = .idle) (timed : Bool) (handle : HandleId) :
    Sound (state.acceptOrWait call timed handle) := by
  have heffect := acceptOrWait_effect state call timed handle
  generalize state.acceptOrWait call timed handle = next at heffect ⊢
  cases heffect with
  | threw error => exact hsound.answer hidle (.inr ⟨_, rfl⟩)
  | popped hqueue => exact hsound.popFront hidle hqueue
  | registered hhandle hopen hqueue => exact hsound.register hidle hopen hqueue hhandle

/-- A call that times out still has its promise in the deque. -/
theorem Sound.resume (hsound : Sound state) {call : CallId} {expired : Bool}
    (hresume : state.resume call expired = some next) : Sound next := by
  unfold State.resume at hresume
  split at hresume
  next timed handle hwaiting =>
    obtain ⟨hdeque, hhandle⟩ := hsound.unset call timed handle hwaiting
    split at hresume
    next outcome hset =>
      cases hresume
      exact hsound.collect hwaiting hset
    next hunset =>
      simp only [Option.ite_none_right_eq_some, Option.some.injEq] at hresume
      obtain ⟨-, rfl⟩ := hresume
      have hmem := hdeque.mp hunset
      simp only [State.acceptTimedOut, hhandle hunset, hmem, Bool.not_true, Bool.false_eq_true,
        if_false, if_true]
      exact hsound.withdraw hmem
  next => cases hresume

theorem Sound.copy (hsound : Sound state) (source : HandleId) {target : HandleId}
    (htarget : state.handle target = false) : Sound (state.copy source target) :=
  { hsound with
    unset := by
      intro call timed handle hwaiting
      obtain ⟨hdeque, hhandle⟩ := hsound.unset call timed handle hwaiting
      refine ⟨hdeque, fun hunset => ?_⟩
      have hne : handle ≠ target := by
        rintro rfl
        simp [htarget] at hhandle
        exact hhandle hunset
      simpa [State.copy, hne] using hhandle hunset }

theorem Sound.connectionStep (hsound : Sound state) {id : ConnectionId} {action : Tcp.Action}
    (hstep : state.connectionStep id action = some next) : Sound next := by
  have hchange : ∀ connection, (state.connection id).step action = some connection →
      id ∉ state.acceptedConnections → Sound (state.setConnection id connection) := by
    intro connection hconnection hmissing
    obtain ⟨hinitialized, hreleased⟩ := Tcp.State.step_released hconnection
    exact hsound.setConnection hmissing (hinitialized.trans (hsound.initialized id))
      fun hmem => hreleased (hsound.released id hmem)
  unfold State.connectionStep at hstep
  split at hstep
  · cases hstep
  · cases hstep
  · simp only [Option.ite_none_right_eq_some, Option.map_eq_some_iff] at hstep
    obtain ⟨⟨-, hmissing⟩, connection, hconnection, rfl⟩ := hstep
    exact hchange connection hconnection hmissing

theorem Sound.endLoop (hsound : Sound state) : Sound state.endLoop :=
  { hsound with
    released := fun id hid =>
      ⟨(hsound.released id hid).initialized, (hsound.released id hid).shut⟩ }

theorem Sound.walk (hsound : Sound state) : Sound state.walk := by
  have hsame : ∀ id, Tcp.State.SameFlags (state.connection id) (state.walk.connection id) := by
    intro id
    simp only [State.walk]
    split <;> exact ⟨rfl, rfl, rfl⟩
  exact { hsound with
    initialized := fun id => (hsame id).1.trans (hsound.initialized id)
    queued := by
      intro id hid
      rw [(hsame id).2.1, (hsame id).2.2]
      exact hsound.queued id hid
    released := fun id hid => (hsame id).released (hsound.released id hid) }

theorem step_sound {action : Action} (hsound : Sound state)
    (hstep : machine.step state action = some next) : Sound next := by
  replace hstep : state.step action = some next := hstep
  unfold State.step at hstep
  split at hstep
  · cases hstep
  cases action with
  | listen call handle results =>
      dsimp only at hstep
      split at hstep
      next hidle =>
        cases hstep
        exact hsound.listen hidle handle results
      next => cases hstep
  | accept call handle =>
      dsimp only at hstep
      split at hstep
      next hidle =>
        cases hstep
        exact hsound.acceptOrWait hidle false handle
      next => cases hstep
  | acceptFor call handle =>
      dsimp only at hstep
      split at hstep
      next hidle =>
        cases hstep
        exact hsound.acceptOrWait hidle true handle
      next => cases hstep
  | resume call expired => exact hsound.resume hstep
  | onConnection status createRc acceptRc =>
      simp only [Option.ite_none_right_eq_some, Option.some.injEq] at hstep
      exact hstep.2 ▸ hsound.onConnection status createRc acceptRc
  | close handle =>
      cases hstep
      exact hsound.close handle
  | copy source target =>
      simp only [Option.ite_none_left_eq_some, Option.some.injEq, Bool.not_eq_true] at hstep
      exact hstep.2 ▸ hsound.copy source hstep.1
  | onServerClosed =>
      simp only [Option.ite_none_right_eq_some, Option.some.injEq] at hstep
      exact hstep.2 ▸ hsound.onServerClosed hstep.1
  | connection id action => exact hsound.connectionStep hstep
  | endLoop =>
      cases hstep
      exact hsound.endLoop
  | walk =>
      simp only [Option.ite_none_left_eq_some, Option.some.injEq] at hstep
      exact hstep.2 ▸ hsound.walk

end Steps

end Fiberuv.Tcp.Server
