import Fiberuv.Udp.Socket
import Mathlib.Data.List.Nodup

/-! # The close calls of a UDP socket

A call of `close` that waits is among the waiters and its promise is not set. Whoever is
told that the socket is closed finds it released, and on a live loop a closed socket is
released.
-/

namespace Fiberuv.Udp

open Foundation

def Closer.Counted : Closer → Nat → Prop
  | .idle, sets => sets = 0
  | .waiting, sets => sets = 0
  | .signalled, sets => sets = 1
  | .returned, sets => sets ≤ 1

/-- Everybody has been released and the state has been let go. -/
structure State.Released (state : State) : Prop where
  closed : state.closed = true
  waiters : state.closeWaiters = []
  keepalive : state.keepalive = false

structure Closers (state : State) : Prop where
  initialized : state.initialized = true
  waiting : ∀ id, id ∈ state.closeWaiters ↔ state.closer id = .waiting
  nodup : state.closeWaiters.Nodup
  counted : ∀ id, (state.closer id).Counted (state.closeSets id)
  shut : state.closed = true → state.closing = false ∧ state.pendingRecv = none
  closed : state.alive = true → state.closed = true → state.Released
  told : ∀ id, state.closer id = .signalled → state.Released

/-- A close that was waiting still waits, or its promise has been set once. -/
def State.CloseOwed (state : State) (id : CloseId) : Prop :=
  state.closer id = .waiting ∨ state.closeSets id = 1

theorem closers_initial : Closers initial := by
  constructor <;> simp [initial, Closer.Counted]

variable {state next : State}

/-- Settling the pending receive changes nothing else. -/
theorem finishRecv_frame (state : State) (outcome : Except Error UdpPacket) :
    ∃ call recvSets, state.finishRecv outcome =
      { state with pendingRecv := none, call, recvSets } := by
  unfold State.finishRecv
  split
  next hnone => exact ⟨state.call, state.recvSets, by rw [← hnone]⟩
  next pending hpending => exact ⟨_, _, rfl⟩

theorem failPending_frame (state : State) :
    ∃ call recvSets, state.failPending = { state with
      closed := true, closing := false, pendingRecv := none, call, recvSets } :=
  finishRecv_frame { state with closed := true, closing := false } (.error socketClosed)

/-- A step that leaves the close calls alone. -/
theorem Closers.frame (hclosers : Closers state) (hcloser : next.closer = state.closer)
    (hsets : next.closeSets = state.closeSets) (hwaiters : next.closeWaiters = state.closeWaiters)
    (hinitialized : next.initialized = state.initialized) (hclosed : next.closed = state.closed)
    (hkeepalive : next.keepalive = state.keepalive)
    (halive : next.alive = true → state.alive = true)
    (hclosing : state.closed = true → next.closing = state.closing)
    (hpending : state.closed = true → state.pendingRecv = none → next.pendingRecv = none) :
    Closers next := by
  have hreleased : state.Released → next.Released := fun hreleased =>
    ⟨hclosed.trans hreleased.closed, hwaiters.trans hreleased.waiters,
      hkeepalive.trans hreleased.keepalive⟩
  refine ⟨hinitialized.trans hclosers.initialized, ?_, hwaiters ▸ hclosers.nodup, ?_, ?_, ?_, ?_⟩
  · rw [hwaiters, hcloser]
    exact hclosers.waiting
  · rw [hcloser, hsets]
    exact hclosers.counted
  · intro hshut
    rw [hclosed] at hshut
    obtain ⟨hopen, hnone⟩ := hclosers.shut hshut
    exact ⟨(hclosing hshut).trans hopen, hpending hshut hnone⟩
  · intro hloop hshut
    rw [hclosed] at hshut
    exact hreleased (hclosers.closed (halive hloop) hshut)
  · intro id htold
    rw [hcloser] at htold
    exact hreleased (hclosers.told id htold)

theorem closeOwed_congr {id : CloseId} (howed : state.CloseOwed id)
    (hcloser : next.closer = state.closer) (hsets : next.closeSets = state.closeSets) :
    next.CloseOwed id := by
  unfold State.CloseOwed
  rw [hcloser, hsets]
  exact howed

/-- Both complete pieces of closing code release every waiter once. -/
theorem Closers.finishClose (hclosers : Closers state) :
    Closers state.finishClose ∧ ∀ id, state.CloseOwed id → state.finishClose.CloseOwed id := by
  obtain ⟨call, recvSets, heq⟩ := failPending_frame state
  have hzero : ∀ id ∈ state.closeWaiters, state.closeSets id = 0 := by
    intro id hmem
    simpa [(hclosers.waiting id).mp hmem, Closer.Counted] using hclosers.counted id
  rw [State.finishClose, heq]
  refine ⟨⟨hclosers.initialized, fun id => ?_, List.nodup_nil, fun id => ?_, fun _ => ⟨rfl, rfl⟩,
    fun _ _ => ⟨rfl, rfl, rfl⟩, fun _ _ => ⟨rfl, rfl, rfl⟩⟩, fun id howed => ?_⟩
  · by_cases hmem : id ∈ state.closeWaiters
    · simp [State.signal, hmem]
    · have hnot := (hclosers.waiting id).not.mp hmem
      simp [State.signal, hmem, hnot]
  · by_cases hmem : id ∈ state.closeWaiters
    · simp [State.signal, hmem, Closer.Counted, hzero id hmem,
        List.count_eq_one_of_mem hclosers.nodup hmem]
    · simpa [State.signal, hmem, List.count_eq_zero_of_not_mem hmem] using hclosers.counted id
  · by_cases hmem : id ∈ state.closeWaiters
    · exact Or.inr (by simp [State.signal, hzero id hmem,
        List.count_eq_one_of_mem hclosers.nodup hmem])
    · simpa [State.CloseOwed, State.signal, hmem, List.count_eq_zero_of_not_mem hmem] using howed

/-- A call that has just begun goes to the waiters of an open socket. -/
theorem Closers.queue (hclosers : Closers state) {id : CloseId} (hidle : state.closer id = .idle)
    (hopen : state.closed = false) :
    Closers { state.setCloser id .waiting with closeWaiters := state.closeWaiters ++ [id] } := by
  have hnew : id ∉ state.closeWaiters := by simp [hclosers.waiting id, hidle]
  have hzero : state.closeSets id = 0 := by
    simpa [hidle, Closer.Counted] using hclosers.counted id
  refine ⟨hclosers.initialized, fun other => ?_, ?_, fun other => ?_, ?_, ?_, ?_⟩
  · by_cases hself : other = id
    · subst hself
      simp [State.setCloser]
    · simpa [State.setCloser, hself] using hclosers.waiting other
  · exact hclosers.nodup.append (List.nodup_singleton id) (by simpa using hnew)
  · by_cases hself : other = id
    · subst hself
      simpa [State.setCloser, Closer.Counted] using hzero
    · simpa [State.setCloser, hself] using hclosers.counted other
  · intro hclosed
    simp [State.setCloser, hopen] at hclosed
  · intro _ hclosed
    simp [State.setCloser, hopen] at hclosed
  · intro other htold
    by_cases hself : other = id
    · subst hself
      simp [State.setCloser] at htold
    · have hclosed := (hclosers.told other (by simpa [State.setCloser, hself] using htold)).closed
      simp [hopen] at hclosed

theorem closeOwed_setCloser {id other : CloseId} {after : Closer}
    (hidle : state.closer id ≠ .waiting) (howed : state.CloseOwed other) :
    (state.setCloser id after).CloseOwed other := by
  by_cases hself : other = id
  · subst hself
    exact Or.inr (by simpa [State.CloseOwed, State.setCloser, hidle] using howed)
  · simpa [State.CloseOwed, State.setCloser, hself] using howed

/-- A close of a closed socket on a live loop is told at once. -/
theorem Closers.signal (hclosers : Closers state) {id : CloseId} (hidle : state.closer id = .idle)
    (hreleased : state.Released) :
    Closers ((state.setCloser id .waiting).signal [id]) ∧
      ∀ other, state.CloseOwed other →
        ((state.setCloser id .waiting).signal [id]).CloseOwed other := by
  have hzero : state.closeSets id = 0 := by
    simpa [hidle, Closer.Counted] using hclosers.counted id
  have hafter : ((state.setCloser id .waiting).signal [id]).Released :=
    ⟨hreleased.closed, hreleased.waiters, hreleased.keepalive⟩
  refine ⟨⟨hclosers.initialized, fun other => ?_, hclosers.nodup, fun other => ?_, hclosers.shut,
    fun _ _ => hafter, fun _ _ => hafter⟩, fun other howed => ?_⟩
  · by_cases hself : other = id
    · subst hself
      simp [State.signal, State.setCloser, hreleased.waiters]
    · simpa [State.signal, State.setCloser, hself] using hclosers.waiting other
  · by_cases hself : other = id
    · subst hself
      simp [State.signal, State.setCloser, Closer.Counted, hzero]
    · simpa [State.signal, State.setCloser, hself, Ne.symm hself] using hclosers.counted other
  · by_cases hself : other = id
    · subst hself
      exact Or.inr (by simp [State.signal, State.setCloser, hzero])
    · simpa [State.CloseOwed, State.signal, State.setCloser, hself, Ne.symm hself] using howed

/-- `UdpSocket::close` on a dead loop takes nobody from the waiters. -/
theorem Closers.closeDead (hclosers : Closers state) {id : CloseId}
    (hidle : state.closer id = .idle) (hdead : state.alive = false) :
    Closers (state.failPending.setCloser id .returned) ∧
      ∀ other, state.CloseOwed other →
        (state.failPending.setCloser id .returned).CloseOwed other := by
  obtain ⟨call, recvSets, heq⟩ := failPending_frame state
  have hnew : id ∉ state.closeWaiters := by simp [hclosers.waiting id, hidle]
  have hzero : state.closeSets id = 0 := by
    simpa [hidle, Closer.Counted] using hclosers.counted id
  rw [heq]
  refine ⟨⟨hclosers.initialized, fun other => ?_, hclosers.nodup, fun other => ?_,
    fun _ => ⟨rfl, rfl⟩, fun halive => ?_, fun other htold => ?_⟩, fun other howed => ?_⟩
  · by_cases hself : other = id
    · subst hself
      simpa [State.setCloser] using hnew
    · simpa [State.setCloser, hself] using hclosers.waiting other
  · by_cases hself : other = id
    · subst hself
      simp [State.setCloser, Closer.Counted, hzero]
    · simpa [State.setCloser, hself] using hclosers.counted other
  · simp [State.setCloser, hdead] at halive
  · by_cases hself : other = id
    · subst hself
      simp [State.setCloser] at htold
    · have hreleased := hclosers.told other (by simpa [State.setCloser, hself] using htold)
      exact ⟨rfl, hreleased.waiters, hreleased.keepalive⟩
  · refine closeOwed_setCloser (by simp [hidle]) ?_
    exact closeOwed_congr howed rfl rfl

theorem Closers.close (hclosers : Closers state) {id : CloseId} (hidle : state.closer id = .idle) :
    Closers (state.close id) ∧
      ∀ other, state.CloseOwed other → (state.close id).CloseOwed other := by
  unfold State.close
  split
  next hdead => exact hclosers.closeDead hidle (by simpa using hdead)
  next halive =>
    have hloop : state.alive = true := by simpa using halive
    cases hclosed : state.closed with
    | true =>
        rw [State.startUdpClose, if_pos (by simp [State.setCloser, hclosed])]
        exact hclosers.signal hidle (hclosers.closed hloop hclosed)
    | false =>
        have hqueued := hclosers.queue hidle hclosed
        have howes : ∀ other, state.CloseOwed other →
            (state.setCloser id .waiting).CloseOwed other :=
          fun other => closeOwed_setCloser (by simp [hidle])
        rw [State.startUdpClose, if_neg (by simp [State.setCloser, hclosed, hclosers.initialized]),
          if_neg (by simp [State.setCloser, hloop])]
        split
        · exact ⟨hqueued, fun other howed => closeOwed_congr (howes other howed) rfl rfl⟩
        split
        · exact ⟨hqueued.frame rfl rfl rfl rfl rfl rfl (fun halive => halive)
              (by simp [State.setCloser, hclosed]) fun _ hnone => hnone,
            fun other howed => closeOwed_congr (howes other howed) rfl rfl⟩
        · exact ⟨hqueued.frame rfl rfl rfl rfl rfl rfl (fun halive => halive)
              (by simp [State.setCloser, hclosed]) fun _ hnone => hnone,
            fun other howed => closeOwed_congr (howes other howed) rfl rfl⟩

theorem Closers.recv (hclosers : Closers state) (id : CallId) (timed : Bool) (address : Nat)
    (rc : Int) : Closers (state.recv id timed address rc) ∧
      ∀ other, state.CloseOwed other → (state.recv id timed address rc).CloseOwed other := by
  have hquiet : ∀ call bufferedPackets, Closers { state with call, bufferedPackets } :=
    fun call bufferedPackets => hclosers.frame rfl rfl rfl rfl rfl rfl (fun halive => halive)
      (fun _ => rfl) fun _ hnone => hnone
  have heffect := recv_effect state id timed address rc
  generalize state.recv id timed address rc = next at heffect ⊢
  cases heffect with
  | threw error => exact ⟨hquiet _ _, fun _ howed => closeOwed_congr howed rfl rfl⟩
  | buffered hbuffered => exact ⟨hquiet _ _, fun _ howed => closeOwed_congr howed rfl rfl⟩
  | waits hopen hnone =>
      refine ⟨hclosers.frame rfl rfl rfl rfl rfl rfl (fun halive => halive) (fun _ => rfl)
        fun hclosed => ?_, fun _ howed => closeOwed_congr howed rfl rfl⟩
      simp [hclosed] at hopen

theorem Closers.resume (hclosers : Closers state) {id : CallId} {expired : Bool}
    (hresume : state.resume id expired = some next) :
    Closers next ∧ ∀ other, state.CloseOwed other → next.CloseOwed other := by
  have hquiet : ∀ call pendingRecv receiving,
      (state.pendingRecv = none → pendingRecv = none) →
      Closers { state with call, pendingRecv, receiving } := by
    intro call pendingRecv receiving hpending
    exact hclosers.frame rfl rfl rfl rfl rfl rfl (fun halive => halive) (fun _ => rfl)
      fun _ => hpending
  unfold State.resume at hresume
  split at hresume
  next outcome hcall =>
    cases hresume
    cases outcome with
    | ok packet =>
        exact ⟨hquiet _ _ _ (fun hnone => hnone), fun _ howed => closeOwed_congr howed rfl rfl⟩
    | error error =>
        exact ⟨hquiet _ _ _ (fun hnone => hnone), fun _ howed => closeOwed_congr howed rfl rfl⟩
  · simp only [Option.ite_none_right_eq_some, Option.some.injEq] at hresume
    obtain ⟨-, rfl⟩ := hresume
    unfold State.recvTimedOut
    split
    · exact ⟨hquiet _ _ _ (fun _ => rfl), fun _ howed => closeOwed_congr howed rfl rfl⟩
    · exact ⟨hquiet _ _ _ (fun hnone => hnone), fun _ howed => closeOwed_congr howed rfl rfl⟩
  · cases hresume

theorem Closers.onUdpRecv (hclosers : Closers state) (nread : Int) (bytes : Bytes)
    (addr : Option SockAddr) : Closers (state.onUdpRecv nread bytes addr) ∧
      ∀ id, state.CloseOwed id → (state.onUdpRecv nread bytes addr).CloseOwed id := by
  have hfinish : ∀ outcome, Closers ({ state with receiving := false }.finishRecv outcome) ∧
      ∀ id, state.CloseOwed id →
        ({ state with receiving := false }.finishRecv outcome).CloseOwed id := by
    intro outcome
    obtain ⟨call, recvSets, heq⟩ := finishRecv_frame { state with receiving := false } outcome
    rw [heq]
    exact ⟨hclosers.frame rfl rfl rfl rfl rfl rfl (fun halive => halive) (fun _ => rfl)
      fun _ _ => rfl, fun _ howed => closeOwed_congr howed rfl rfl⟩
  unfold State.onUdpRecv
  split
  · exact ⟨hclosers, fun _ howed => howed⟩
  split
  · exact hfinish _
  split
  · exact hfinish _
  unfold State.deliver
  split
  · exact hfinish _
  · exact ⟨hclosers.frame rfl rfl rfl rfl rfl rfl (fun halive => halive) (fun _ => rfl)
      fun _ hnone => hnone, fun _ howed => closeOwed_congr howed rfl rfl⟩

theorem Closers.closeResume (hclosers : Closers state) {id : CloseId}
    (hsignalled : state.closer id = .signalled) :
    Closers (state.setCloser id .returned) ∧
      ∀ other, state.CloseOwed other → (state.setCloser id .returned).CloseOwed other := by
  have hone : state.closeSets id = 1 := by
    simpa [hsignalled, Closer.Counted] using hclosers.counted id
  have hnew : id ∉ state.closeWaiters := by simp [hclosers.waiting id, hsignalled]
  have hreleased := hclosers.told id hsignalled
  have hafter : (state.setCloser id .returned).Released :=
    ⟨hreleased.closed, hreleased.waiters, hreleased.keepalive⟩
  refine ⟨⟨hclosers.initialized, fun other => ?_, hclosers.nodup, fun other => ?_, hclosers.shut,
    fun _ _ => hafter, fun _ _ => hafter⟩,
    fun other => closeOwed_setCloser (by simp [hsignalled])⟩
  · by_cases hself : other = id
    · subst hself
      simpa [State.setCloser] using hnew
    · simpa [State.setCloser, hself] using hclosers.waiting other
  · by_cases hself : other = id
    · subst hself
      simp [State.setCloser, Closer.Counted, hone]
    · simpa [State.setCloser, hself] using hclosers.counted other

theorem Closers.step (hclosers : Closers state) {action : Action}
    (hstep : state.step action = some next) :
    Closers next ∧ ∀ id, state.CloseOwed id → next.CloseOwed id := by
  cases action with
  | recv id timed address rc =>
      simp only [State.step] at hstep
      split at hstep
      · cases hstep
        exact hclosers.recv id timed address rc
      · cases hstep
  | resume id expired => exact hclosers.resume hstep
  | onUdpRecv nread bytes addr =>
      simp only [State.step, Option.ite_none_right_eq_some, Option.some.injEq] at hstep
      obtain ⟨-, rfl⟩ := hstep
      exact hclosers.onUdpRecv nread bytes addr
  | close id =>
      simp only [State.step, Option.ite_none_right_eq_some, Option.some.injEq] at hstep
      obtain ⟨hidle, rfl⟩ := hstep
      exact hclosers.close hidle
  | closeResume id =>
      simp only [State.step, Option.ite_none_right_eq_some, Option.some.injEq] at hstep
      obtain ⟨hsignalled, rfl⟩ := hstep
      exact hclosers.closeResume hsignalled
  | onUdpClosed =>
      simp only [State.step, Option.ite_none_right_eq_some, Option.some.injEq] at hstep
      obtain ⟨-, rfl⟩ := hstep
      obtain ⟨hfinished, howes⟩ := hclosers.finishClose
      exact ⟨hfinished.frame rfl rfl rfl rfl rfl rfl (fun halive => halive) (fun _ => rfl)
        fun _ hnone => hnone, fun id howed => closeOwed_congr (howes id howed) rfl rfl⟩
  | endLoop =>
      cases hstep
      exact ⟨hclosers.frame rfl rfl rfl rfl rfl rfl (by simp) (fun _ => rfl)
        fun _ hnone => hnone, fun _ howed => closeOwed_congr howed rfl rfl⟩
  | walk =>
      simp only [State.step] at hstep
      split at hstep
      · cases hstep
      split at hstep
      · cases hstep
        exact ⟨hclosers, fun _ howed => howed⟩
      · cases hstep
        exact ⟨hclosers.frame rfl rfl rfl rfl rfl rfl (fun halive => halive) (fun _ => rfl)
          fun _ hnone => hnone, fun _ howed => closeOwed_congr howed rfl rfl⟩

end Fiberuv.Udp
