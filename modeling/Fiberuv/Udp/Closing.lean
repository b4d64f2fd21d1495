import Fiberuv.Udp.Closers
import Fiberuv.Udp.Receives

/-! # What closing a UDP socket leaves behind

The clean-up for a dead loop is written twice. `start_udp_close` releases the waiters and
lets the state go, as the close callback does; `UdpSocket::close` only fails the pending
receive. A call of `close` therefore leaves nothing behind exactly when the loop was alive
as it was made, or there was nobody to release and nothing to let go.
-/

namespace Fiberuv.Udp

open Foundation

variable {state next : State}

/-- The call of `close` that is made in `before` has returned in `after`. -/
inductive CloseReturns (id : CloseId) (before after : State) : Prop where
  | atOnce (hcall : machine.step before (.close id) = some after)
      (hreturned : after.closer id = .returned)
  | later {called waited : State} {others : List Action}
      (hcall : machine.step before (.close id) = some called)
      (hwaits : called.closer id ≠ .returned)
      (hothers : machine.run others called = some waited)
      (hreturn : machine.step waited (.closeResume id) = some after)

/-- What a closed socket is meant to look like, with every waiter of the state in which
`close` was called set exactly once. A receive can also have given up meanwhile. -/
structure LeavesNothing (id : CloseId) (before after : State) : Prop where
  closed : after.closed = true
  closing : after.closing = false
  pending : after.pendingRecv = none
  waiters : after.closeWaiters = []
  keepalive : after.keepalive = false
  closers : ∀ other ∈ before.closeWaiters, after.closeSets other = 1
  own : before.alive = true → after.closeSets id = 1
  receive : ∀ pending ∈ before.pendingRecv, after.recvSets pending.call = 1 ∨
    after.call pending.call = .returned (.ok none)

/-- The five fields that the pieces of closing code are about. -/
def State.remains (state : State) : Bool × Bool × Option PendingRecv × List CloseId × Bool :=
  (state.closed, state.closing, state.pendingRecv, state.closeWaiters, state.keepalive)

structure Sound (state : State) : Prop where
  receives : Receives state
  closers : Closers state

theorem Sound.step (hsound : Sound state) {action : Action}
    (hstep : machine.step state action = some next) : Sound next :=
  ⟨(hsound.receives.step hstep).1, (hsound.closers.step hstep).1⟩

theorem sound_of_reachable (hreach : machine.Reachable initial state) : Sound state :=
  Machine.reachable_invariant (fun _ _ _ hsound hstep => hsound.step hstep)
    ⟨receives_initial, closers_initial⟩ hreach

/-- A later state, in which nobody who waited in `start` is forgotten. -/
structure Follows (start state : State) : Prop where
  sound : Sound state
  recv : ∀ id, start.RecvOwed id → state.RecvOwed id
  close : ∀ id, start.CloseOwed id → state.CloseOwed id

theorem Follows.step {start : State} (hfollows : Follows start state) {action : Action}
    (hstep : machine.step state action = some next) : Follows start next where
  sound := hfollows.sound.step hstep
  recv id howed := (hfollows.sound.receives.step hstep).2 id (hfollows.recv id howed)
  close id howed := (hfollows.sound.closers.step hstep).2 id (hfollows.close id howed)

theorem Follows.run {start : State} (hfollows : Follows start state) {actions : List Action}
    (hrun : machine.run actions state = some next) : Follows start next :=
  Machine.reachable_invariant (fun _ _ _ hbefore hstep => hbefore.step hstep) hfollows
    ⟨actions, hrun⟩

/-- Nobody waits any more when the lists are empty. -/
theorem Follows.leavesNothing {before after : State} {id : CloseId}
    (hfollows : Follows before after) (hbefore : Sound before) (hreleased : after.Released)
    (hown : before.alive = true → after.closeSets id = 1) : LeavesNothing id before after := by
  obtain ⟨hclosing, hpending⟩ := hfollows.sound.closers.shut hreleased.closed
  refine ⟨hreleased.closed, hclosing, hpending, hreleased.waiters, hreleased.keepalive,
    fun other hmem => ?_, hown, fun pending hmem => ?_⟩
  · have hwaited := (hbefore.closers.waiting other).mp hmem
    refine (hfollows.close other (Or.inl hwaited)).resolve_left fun hwaits => ?_
    have hlisted := (hfollows.sound.closers.waiting other).mpr hwaits
    simp [hreleased.waiters] at hlisted
  · obtain ⟨timed, hcall⟩ := (hbefore.receives.pending pending.call pending.address).mp hmem
    refine (hfollows.recv pending.call (Or.inl ⟨timed, pending.address, hcall⟩)).resolve_left ?_
    rintro ⟨timed, address, hcall⟩
    have hlisted := (hfollows.sound.receives.pending pending.call address).mpr ⟨timed, hcall⟩
    simp [hpending] at hlisted

theorem close_dead {id : CloseId} (hdead : state.alive = false) :
    state.close id = state.failPending.setCloser id .returned := by
  simp [State.close, hdead]

/-- On a live loop the call waits for its promise. -/
theorem close_alive {id : CloseId} (halive : state.alive = true) :
    (state.close id).closer id ≠ .returned := by
  have hmine : (state.setCloser id .waiting).closer id = .waiting := by simp [State.setCloser]
  simp only [State.close, halive, Bool.not_true, Bool.false_eq_true, if_false]
  unfold State.startUdpClose
  split
  · simp [State.signal]
  rw [if_neg (by simp [State.setCloser, halive])]
  split
  · simp [hmine]
  split
  · simp [hmine]
  · simp [State.uvClose, hmine]

theorem leavesNothing_of_alive {before after : State} {id : CloseId} (hbefore : Sound before)
    (hreturns : CloseReturns id before after) (halive : before.alive = true) :
    LeavesNothing id before after := by
  have hstart : Follows before before := ⟨hbefore, fun _ howed => howed, fun _ howed => howed⟩
  cases hreturns with
  | atOnce hcall hreturned =>
      simp only [machine, State.step, Option.ite_none_right_eq_some, Option.some.injEq] at hcall
      exact absurd (hcall.2 ▸ hreturned) (close_alive halive)
  | later hcall hwaits hothers hreturn =>
      have hwaited := (hstart.step hcall).run hothers
      have hafter := hwaited.step hreturn
      simp only [machine, State.step, Option.ite_none_right_eq_some, Option.some.injEq] at hreturn
      obtain ⟨hsignalled, rfl⟩ := hreturn
      have hreleased := hwaited.sound.closers.told id hsignalled
      refine hafter.leavesNothing hbefore
        ⟨hreleased.closed, hreleased.waiters, hreleased.keepalive⟩ fun _ => ?_
      simpa [State.setCloser, hsignalled, Closer.Counted] using hwaited.sound.closers.counted id

/-- On a dead loop the call returns at once and has kept the waiters and the pointer. -/
theorem close_dead_returns {before after : State} {id : CloseId}
    (hreturns : CloseReturns id before after) (hdead : before.alive = false) :
    machine.step before (.close id) = some after ∧
      after = before.failPending.setCloser id .returned := by
  cases hreturns with
  | atOnce hcall hreturned =>
      refine ⟨hcall, ?_⟩
      simp only [machine, State.step, Option.ite_none_right_eq_some, Option.some.injEq] at hcall
      rw [← hcall.2, close_dead hdead]
  | later hcall hwaits hothers hreturn =>
      simp only [machine, State.step, Option.ite_none_right_eq_some, Option.some.injEq] at hcall
      rw [← hcall.2, close_dead hdead] at hwaits
      simp [State.setCloser] at hwaits

theorem leavesNothing_iff_of_dead {before after : State} {id : CloseId} (hbefore : Sound before)
    (hreturns : CloseReturns id before after) (hdead : before.alive = false) :
    LeavesNothing id before after ↔ before.closeWaiters = [] ∧ before.keepalive = false := by
  obtain ⟨hcall, hafter⟩ := close_dead_returns hreturns hdead
  obtain ⟨call, recvSets, heq⟩ := failPending_frame before
  have hstart : Follows before before := ⟨hbefore, fun _ howed => howed, fun _ howed => howed⟩
  rw [heq] at hafter
  constructor
  · intro hleaves
    have hwaiters := hleaves.waiters
    have hkeepalive := hleaves.keepalive
    rw [hafter] at hwaiters hkeepalive
    exact ⟨hwaiters, hkeepalive⟩
  · rintro ⟨hwaiters, hkeepalive⟩
    refine (hstart.step hcall).leavesNothing hbefore ?_ (by simp [hdead])
    rw [hafter]
    exact ⟨rfl, hwaiters, hkeepalive⟩

/-- With nobody to release and nothing to let go, both pieces of code for a dead loop
leave the same. -/
theorem remains_eq_of_released {id : CloseId} (hclosers : Closers state)
    (hdead : state.alive = false) (hwaiters : state.closeWaiters = [])
    (hkeepalive : state.keepalive = false) :
    (state.close id).remains = (state.startUdpClose (some id)).remains := by
  obtain ⟨call, recvSets, heq⟩ := failPending_frame state
  have hclose : (state.close id).remains = (true, false, none, [], false) := by
    rw [close_dead hdead, heq]
    simp [State.setCloser, State.remains, hwaiters, hkeepalive]
  rw [hclose]
  unfold State.startUdpClose
  split
  next hdone =>
    have hclosed : state.closed = true := by simpa [hclosers.initialized] using hdone
    obtain ⟨hclosing, hpending⟩ := hclosers.shut hclosed
    simp [State.signal, State.remains, hclosed, hclosing, hpending, hwaiters, hkeepalive]
  · obtain ⟨call, recvSets, hqueued⟩ :=
      failPending_frame { state with closeWaiters := state.closeWaiters ++ (some id).toList }
    rw [if_pos (by simp [hdead]), State.finishClose, hqueued]
    rfl

/-- A call of `close` leaves nothing behind, and what it does on a dead loop has the
effect of `start_udp_close`, exactly when the loop was alive as the call was made or
there was no waiter and no pointer that keeps the state. -/
theorem close_leaves_nothing_iff (id : CloseId) (before after : State)
    (hreach : machine.Reachable initial before) (hreturns : CloseReturns id before after) :
    (LeavesNothing id before after ∧ (before.alive = false →
        (before.close id).remains = (before.startUdpClose (some id)).remains)) ↔
      before.alive = true ∨ before.closeWaiters = [] ∧ before.keepalive = false := by
  have hbefore := sound_of_reachable hreach
  cases halive : before.alive with
  | true =>
      simp only [true_or, iff_true]
      exact ⟨leavesNothing_of_alive hbefore hreturns halive, by simp⟩
  | false =>
      have hiff := leavesNothing_iff_of_dead hbefore hreturns halive
      simp only [Bool.false_eq_true, false_or, true_implies]
      refine ⟨fun hboth => hiff.mp hboth.1, fun hclean => ⟨hiff.mpr hclean, ?_⟩⟩
      exact remains_eq_of_released hbefore.closers halive hclean.1 hclean.2

/-- A pending receive and an earlier close that still waits. -/
def closingSocket : State := (initial.recv 0 false 64 0).close 0

/-- The socket when a second close has been called and libuv has closed the handle. -/
def closedSocket : State := { (closingSocket.close 1).finishClose with closeCallback := false }

theorem close_leaves_nothing_closingSocket :
    closingSocket.closeWaiters = [0] ∧
      LeavesNothing 1 closingSocket (closedSocket.setCloser 1 .returned) := by
  have hreach : machine.Reachable initial closingSocket := ⟨[.recv 0 false 64 0, .close 0], rfl⟩
  have hothers : machine.run [.onUdpClosed] (closingSocket.close 1) = some closedSocket := rfl
  have hreturns : CloseReturns 1 closingSocket (closedSocket.setCloser 1 .returned) :=
    .later rfl (close_alive rfl) hothers rfl
  exact ⟨rfl, ((close_leaves_nothing_iff 1 _ _ hreach hreturns).mpr (Or.inl rfl)).1⟩

/-- A socket whose loop has been destroyed. -/
def orphanedSocket : State := { initial.uvClose with alive := false }

/-- A socket that is closed after its loop has been destroyed keeps the pointer to
itself. -/
theorem close_leaves_keepalive :
    ¬ ∀ id before after, machine.Reachable initial before → CloseReturns id before after →
      LeavesNothing id before after := by
  intro hleavesNothing
  have hreach : machine.Reachable initial orphanedSocket := ⟨[.endLoop, .walk], rfl⟩
  have hreturns : CloseReturns 0 orphanedSocket (orphanedSocket.close 0) := .atOnce rfl rfl
  have hkeepalive := (hleavesNothing 0 _ _ hreach hreturns).keepalive
  cases hkeepalive

end Fiberuv.Udp
