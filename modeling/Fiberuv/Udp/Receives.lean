import Fiberuv.Udp.Socket

/-! # The receives of a UDP socket

The pending record belongs to the one receive whose promise is not set, and no promise is
set twice. A receive that was pending is not forgotten: its promise gets set, or it gives
up after its time.
-/

namespace Fiberuv.Udp

open Foundation

/-- How often the promise of a receive has been set, by where the call is. -/
def Call.Counted : Call → Nat → Prop
  | .idle, sets => sets = 0
  | .waiting _ _ none, sets => sets = 0
  | .waiting _ _ (some _), sets => sets = 1
  | .returned _, sets => sets ≤ 1

/-- The pending record belongs to the one receive whose promise is not set. -/
structure Receives (state : State) : Prop where
  pending : ∀ id address, state.pendingRecv = some ⟨address, id⟩ ↔
    ∃ timed, state.call id = .waiting timed address none
  counted : ∀ id, (state.call id).Counted (state.recvSets id)

/-- A receive that was pending is still pending, or its promise has been set once, or it
has given up. -/
def State.RecvOwed (state : State) (id : CallId) : Prop :=
  (∃ timed address, state.call id = .waiting timed address none) ∨ state.recvSets id = 1 ∨
    state.call id = .returned (.ok none)

theorem receives_initial : Receives initial := ⟨by simp [initial], fun _ => rfl⟩

variable {state next : State}

theorem Receives.congr (hreceives : Receives state)
    (hpending : next.pendingRecv = state.pendingRecv)
    (hcall : next.call = state.call) (hsets : next.recvSets = state.recvSets) : Receives next := by
  refine ⟨?_, ?_⟩
  · rw [hpending, hcall]
    exact hreceives.pending
  · rw [hcall, hsets]
    exact hreceives.counted

theorem recvOwed_congr {id : CallId} (howed : state.RecvOwed id) (hcall : next.call = state.call)
    (hsets : next.recvSets = state.recvSets) : next.RecvOwed id := by
  unfold State.RecvOwed
  rw [hcall, hsets]
  exact howed

/-- A call moves that is not the pending one, before or after. -/
theorem Receives.setCall (hreceives : Receives state) {id : CallId} {after : Call}
    (hbefore : ∀ timed address, state.call id ≠ .waiting timed address none)
    (hafter : ∀ timed address, after ≠ .waiting timed address none)
    (hcounted : after.Counted (state.recvSets id)) : Receives (state.setCall id after) := by
  refine ⟨fun other address => (hreceives.pending other address).trans ?_, fun other => ?_⟩
  · by_cases hself : other = id
    · subst hself
      simp [State.setCall, hbefore, hafter]
    · simp [State.setCall, hself]
  · by_cases hself : other = id
    · subst hself
      simpa [State.setCall] using hcounted
    · simpa [State.setCall, hself] using hreceives.counted other

/-- What `finish_recv_success` and `finish_recv_error` do. -/
theorem Receives.finishRecv_eq (hreceives : Receives state) (outcome : Except Error UdpPacket) :
    state.pendingRecv = none ∧ state.finishRecv outcome = state ∨
      ∃ id timed address, state.pendingRecv = some ⟨address, id⟩ ∧
        state.call id = .waiting timed address none ∧
        state.finishRecv outcome = { state with
          pendingRecv := none
          call := Function.update state.call id (.waiting timed address (some outcome))
          recvSets := Function.update state.recvSets id (state.recvSets id + 1) } := by
  cases hpending : state.pendingRecv with
  | none => exact Or.inl ⟨rfl, by simp [State.finishRecv, hpending]⟩
  | some pending =>
      obtain ⟨address, id⟩ := pending
      obtain ⟨timed, hcall⟩ := (hreceives.pending id address).mp hpending
      refine Or.inr ⟨id, timed, address, rfl, hcall, ?_⟩
      simp [State.finishRecv, hpending, State.fulfil, hcall]

theorem Receives.finishRecv (hreceives : Receives state) (outcome : Except Error UdpPacket) :
    Receives (state.finishRecv outcome) ∧ (state.finishRecv outcome).pendingRecv = none ∧
      ∀ id, state.RecvOwed id → (state.finishRecv outcome).RecvOwed id := by
  obtain ⟨hnone, heq⟩ | ⟨id, timed, address, hpending, hcall, heq⟩ :=
    hreceives.finishRecv_eq outcome
  · rw [heq]
    exact ⟨hreceives, hnone, fun _ howed => howed⟩
  have hzero : state.recvSets id = 0 := by simpa [hcall, Call.Counted] using hreceives.counted id
  rw [heq]
  refine ⟨⟨fun other place => ?_, fun other => ?_⟩, rfl, fun other howed => ?_⟩
  · by_cases hself : other = id
    · subst hself
      simp
    · have hother := hreceives.pending other place
      rw [hpending] at hother
      simpa [hself, Ne.symm hself] using hother
  · by_cases hself : other = id
    · subst hself
      simp [Call.Counted, hzero]
    · simpa [hself] using hreceives.counted other
  · by_cases hself : other = id
    · subst hself
      exact Or.inr (Or.inl (by simp [hzero]))
    · simpa [State.RecvOwed, hself] using howed

/-- Nothing is forgotten when a call moves that neither is pending nor has given up. -/
theorem recvOwed_setCall {id other : CallId} {after : Call}
    (hwaiting : ∀ timed address, state.call id ≠ .waiting timed address none)
    (hreturned : state.call id ≠ .returned (.ok none)) (howed : state.RecvOwed other) :
    (state.setCall id after).RecvOwed other := by
  by_cases hself : other = id
  · subst hself
    have hset : state.recvSets other = 1 := by
      simpa [State.RecvOwed, hwaiting, hreturned] using howed
    exact Or.inr (Or.inl hset)
  · simpa [State.RecvOwed, State.setCall, hself] using howed

theorem Receives.recv (hreceives : Receives state) {id : CallId} (hidle : state.call id = .idle)
    (timed : Bool) (address : Nat) (rc : Int) :
    Receives (state.recv id timed address rc) ∧
      ∀ other, state.RecvOwed other → (state.recv id timed address rc).RecvOwed other := by
  have hzero : state.recvSets id = 0 := by simpa [hidle, Call.Counted] using hreceives.counted id
  have hreturns : ∀ result buffered,
      Receives ({ state with bufferedPackets := buffered }.setCall id (.returned result)) := by
    intro result buffered
    have hsame : Receives { state with bufferedPackets := buffered } :=
      hreceives.congr rfl rfl rfl
    exact hsame.setCall (by simp [hidle]) (by simp) (by simp [Call.Counted, hzero])
  have howes : ∀ other after, state.RecvOwed other → (state.setCall id after).RecvOwed other :=
    fun other after => recvOwed_setCall (by simp [hidle]) (by simp [hidle])
  have heffect := recv_effect state id timed address rc
  generalize state.recv id timed address rc = next at heffect ⊢
  cases heffect with
  | threw error => exact ⟨hreturns _ _, fun other => howes other _⟩
  | buffered hbuffered => exact ⟨hreturns _ _, fun other => howes other _⟩
  | waits hopen hnone =>
      refine ⟨⟨fun other place => ?_, fun other => ?_⟩, fun other => howes other _⟩
      · by_cases hself : other = id
        · subst hself
          simp [State.setCall]
        · have hother := hreceives.pending other place
          simp only [hnone, reduceCtorEq, false_iff, not_exists] at hother
          simp [State.setCall, hself, hother, Ne.symm hself]
      · by_cases hself : other = id
        · subst hself
          simpa [State.setCall, Call.Counted] using hzero
        · simpa [State.setCall, hself] using hreceives.counted other

theorem Receives.resume (hreceives : Receives state) {id : CallId} {expired : Bool}
    (hresume : state.resume id expired = some next) :
    Receives next ∧ ∀ other, state.RecvOwed other → next.RecvOwed other := by
  unfold State.resume at hresume
  split at hresume
  next timed address outcome hcall =>
    have hone : state.recvSets id = 1 := by simpa [hcall, Call.Counted] using hreceives.counted id
    have hreturns : ∀ result, Receives (state.setCall id (.returned result)) := fun result =>
      hreceives.setCall (by simp [hcall]) (by simp) (by simp [Call.Counted, hone])
    have howes : ∀ other after, state.RecvOwed other → (state.setCall id after).RecvOwed other :=
      fun other after => recvOwed_setCall (by simp [hcall]) (by simp [hcall])
    cases hresume
    cases outcome with
    | ok packet => exact ⟨hreturns _, fun other => howes other _⟩
    | error error => exact ⟨hreturns _, fun other => howes other _⟩
  next address hcall =>
    simp only [Option.ite_none_right_eq_some, Option.some.injEq] at hresume
    obtain ⟨-, rfl⟩ := hresume
    -- The promise is unset, so this call is the pending one and its record is the one compared.
    have hpending := (hreceives.pending id address).mpr ⟨true, hcall⟩
    have hzero : state.recvSets id = 0 := by simpa [hcall, Call.Counted] using hreceives.counted id
    rw [State.recvTimedOut, if_pos (by simp [hpending])]
    refine ⟨⟨fun other place => ?_, fun other => ?_⟩, fun other howed => ?_⟩
    · by_cases hself : other = id
      · subst hself
        simp [State.setCall]
      · have hother := hreceives.pending other place
        rw [hpending] at hother
        simpa [State.setCall, hself, Ne.symm hself] using hother
    · by_cases hself : other = id
      · subst hself
        simp [State.setCall, Call.Counted, hzero]
      · simpa [State.setCall, hself] using hreceives.counted other
    · by_cases hself : other = id
      · subst hself
        exact Or.inr (Or.inr (by simp [State.setCall]))
      · simpa [State.RecvOwed, State.setCall, hself] using howed
  · cases hresume

theorem Receives.onUdpRecv (hreceives : Receives state) (nread : Int) (bytes : Bytes)
    (addr : Option SockAddr) :
    Receives (state.onUdpRecv nread bytes addr) ∧
      ∀ id, state.RecvOwed id → (state.onUdpRecv nread bytes addr).RecvOwed id := by
  have hstopped : Receives { state with receiving := false } := hreceives.congr rfl rfl rfl
  have hfinish : ∀ outcome,
      Receives ({ state with receiving := false }.finishRecv outcome) ∧
        ∀ id, state.RecvOwed id →
          ({ state with receiving := false }.finishRecv outcome).RecvOwed id :=
    fun outcome => ⟨(hstopped.finishRecv outcome).1, fun id howed =>
      (hstopped.finishRecv outcome).2.2 id (recvOwed_congr howed rfl rfl)⟩
  unfold State.onUdpRecv
  split
  · exact ⟨hreceives, fun _ howed => howed⟩
  split
  · exact hfinish _
  split
  · exact hfinish _
  unfold State.deliver
  split
  · exact hfinish _
  · exact ⟨hreceives.congr rfl rfl rfl, fun _ howed => recvOwed_congr howed rfl rfl⟩

theorem Receives.failPending (hreceives : Receives state) :
    Receives state.failPending ∧ state.failPending.pendingRecv = none ∧
      ∀ id, state.RecvOwed id → state.failPending.RecvOwed id := by
  have hmarked : Receives { state with closed := true, closing := false } :=
    hreceives.congr rfl rfl rfl
  obtain ⟨hfinished, hnone, howes⟩ := hmarked.finishRecv (.error socketClosed)
  exact ⟨hfinished, hnone, fun id howed => howes id (recvOwed_congr howed rfl rfl)⟩

theorem Receives.finishClose (hreceives : Receives state) :
    Receives state.finishClose ∧ ∀ id, state.RecvOwed id → state.finishClose.RecvOwed id :=
  ⟨hreceives.failPending.1.congr rfl rfl rfl,
    fun id howed => recvOwed_congr (hreceives.failPending.2.2 id howed) rfl rfl⟩

theorem Receives.startUdpClose (hreceives : Receives state) (promise : Option CloseId) :
    Receives (state.startUdpClose promise) ∧
      ∀ id, state.RecvOwed id → (state.startUdpClose promise).RecvOwed id := by
  have hqueued : Receives { state with closeWaiters := state.closeWaiters ++ promise.toList } :=
    hreceives.congr rfl rfl rfl
  unfold State.startUdpClose
  split
  · exact ⟨hreceives.congr rfl rfl rfl, fun _ howed => recvOwed_congr howed rfl rfl⟩
  split
  · exact ⟨hqueued.finishClose.1, fun id howed =>
      hqueued.finishClose.2 id (recvOwed_congr howed rfl rfl)⟩
  split
  · exact ⟨hqueued, fun _ howed => recvOwed_congr howed rfl rfl⟩
  split
  · exact ⟨hqueued.congr rfl rfl rfl, fun _ howed => recvOwed_congr howed rfl rfl⟩
  · exact ⟨hqueued.congr rfl rfl rfl, fun _ howed => recvOwed_congr howed rfl rfl⟩

theorem Receives.close (hreceives : Receives state) (id : CloseId) :
    Receives (state.close id) ∧
      ∀ call, state.RecvOwed call → (state.close id).RecvOwed call := by
  unfold State.close
  split
  · obtain ⟨hfailed, -, howes⟩ := hreceives.failPending
    exact ⟨hfailed.congr rfl rfl rfl, fun call howed => recvOwed_congr (howes call howed) rfl rfl⟩
  · have hcalled : Receives (state.setCloser id .waiting) := hreceives.congr rfl rfl rfl
    obtain ⟨hstarted, howes⟩ := hcalled.startUdpClose (some id)
    exact ⟨hstarted, fun call howed => howes call (recvOwed_congr howed rfl rfl)⟩

theorem Receives.step (hreceives : Receives state) {action : Action}
    (hstep : state.step action = some next) :
    Receives next ∧ ∀ id, state.RecvOwed id → next.RecvOwed id := by
  cases action with
  | recv id timed address rc =>
      simp only [State.step] at hstep
      split at hstep
      next hidle =>
        cases hstep
        exact hreceives.recv hidle timed address rc
      · cases hstep
  | resume id expired => exact hreceives.resume hstep
  | onUdpRecv nread bytes addr =>
      simp only [State.step, Option.ite_none_right_eq_some, Option.some.injEq] at hstep
      obtain ⟨-, rfl⟩ := hstep
      exact hreceives.onUdpRecv nread bytes addr
  | close id =>
      simp only [State.step, Option.ite_none_right_eq_some, Option.some.injEq] at hstep
      obtain ⟨-, rfl⟩ := hstep
      exact hreceives.close id
  | closeResume id =>
      simp only [State.step, Option.ite_none_right_eq_some, Option.some.injEq] at hstep
      obtain ⟨-, rfl⟩ := hstep
      exact ⟨hreceives.congr rfl rfl rfl, fun _ howed => recvOwed_congr howed rfl rfl⟩
  | onUdpClosed =>
      simp only [State.step, Option.ite_none_right_eq_some, Option.some.injEq] at hstep
      obtain ⟨-, rfl⟩ := hstep
      obtain ⟨hfinished, howes⟩ := hreceives.finishClose
      exact ⟨hfinished.congr rfl rfl rfl,
        fun id howed => recvOwed_congr (howes id howed) rfl rfl⟩
  | endLoop =>
      cases hstep
      exact ⟨hreceives.congr rfl rfl rfl, fun _ howed => recvOwed_congr howed rfl rfl⟩
  | walk =>
      simp only [State.step] at hstep
      split at hstep
      · cases hstep
      split at hstep
      · cases hstep
        exact ⟨hreceives, fun _ howed => howed⟩
      · cases hstep
        exact ⟨hreceives.congr rfl rfl rfl, fun _ howed => recvOwed_congr howed rfl rfl⟩

end Fiberuv.Udp
