import Fiberuv.Tcp.CloseEvents
import Fiberuv.Tcp.ReadStream

/-! # The waiters of a closing connection

A call of `close` that waits is in the list that both releasing pieces of code empty, and
a read that waits is the pending one. So when the connection is closed nobody waits, and
nobody can come to wait again.
-/

namespace Fiberuv.Tcp

open Foundation

/-- Where the calls of `close` stand, and that a promise found set has its event. -/
structure Accounted (state : State) (seen : List Event) : Prop where
  queued : ∀ id, state.closer id = .waiting → id ∈ state.closeWaiters
  drained : state.closed = true → state.closeWaiters = []
  told : ∀ id, state.closer id = .signalled ∨ state.closer id = .returned → .setClose id ∈ seen
  answered : ∀ id timed address outcome, state.call id = .waiting timed address (some outcome) →
    .setRead id ∈ seen

variable {state next : State} {seen : List Event}

/-- A step that leaves the close calls alone and answers only the reads it has events
for. -/
theorem Accounted.frame (haccounted : Accounted state seen) {more : List Event}
    (hcloser : next.closer = state.closer) (hwaiters : next.closeWaiters = state.closeWaiters)
    (hclosed : next.closed = state.closed)
    (hanswered : ∀ id timed address outcome,
      next.call id = .waiting timed address (some outcome) →
        state.call id = .waiting timed address (some outcome) ∨ Event.setRead id ∈ more) :
    Accounted next (seen ++ more) := by
  refine ⟨?_, ?_, ?_, ?_⟩
  · rw [hcloser, hwaiters]
    exact haccounted.queued
  · rw [hclosed, hwaiters]
    exact haccounted.drained
  · intro id htold
    rw [hcloser] at htold
    exact List.mem_append_left _ (haccounted.told id htold)
  · intro id timed address outcome hcall
    rcases hanswered id timed address outcome hcall with hbefore | hnow
    · exact List.mem_append_left _ (haccounted.answered id timed address outcome hbefore)
    · exact List.mem_append_right _ hnow

theorem Accounted.finishRead (haccounted : Accounted state seen) (outcome : Except Error Bytes) :
    Accounted (state.finishRead outcome) (seen ++ state.setsPending) := by
  obtain ⟨call, log, heq, -, hother⟩ := finishRead_frame state outcome
  rw [heq]
  refine haccounted.frame rfl rfl rfl fun id timed address result hcall => ?_
  by_cases hsame : call id = state.call id
  · exact Or.inl (hsame ▸ hcall)
  · exact Or.inr (hother id hsame)

theorem Accounted.signal (haccounted : Accounted state seen) {released : List CloseId}
    (hdrained : next.closed = true → next.closeWaiters = []) (hcall : next.call = state.call)
    (hcloser : next.closer = (state.signal released).closer)
    (hqueued : ∀ id ∈ state.closeWaiters, id ∈ next.closeWaiters ∨ id ∈ released) :
    Accounted next (seen ++ released.map .setClose) := by
  refine ⟨?_, hdrained, ?_, ?_⟩
  · intro id hwaits
    simp only [hcloser, State.signal] at hwaits
    split at hwaits
    · cases hwaits
    next hnot => exact (hqueued id (haccounted.queued id hwaits)).resolve_right hnot
  · intro id htold
    simp only [hcloser, State.signal] at htold
    split at htold
    next hmem => exact List.mem_append_right _ (List.mem_map_of_mem hmem)
    · exact List.mem_append_left _ (haccounted.told id htold)
  · intro id timed address outcome hanswer
    rw [hcall] at hanswer
    exact List.mem_append_left _ (haccounted.answered id timed address outcome hanswer)

theorem Accounted.finishClose (haccounted : Accounted state seen) :
    Accounted state.finishClose
      (seen ++ (state.setsPending ++ state.closeWaiters.map .setClose)) := by
  obtain ⟨call, log, heq, -, hother⟩ :=
    finishRead_frame { state with closed := true, closing := false } (.error closedWhileReading)
  have hread : Accounted { state with pendingRead := none, call, log }
      (seen ++ state.setsPending) := by
    refine haccounted.frame rfl rfl rfl fun id timed address result hcall => ?_
    by_cases hsame : call id = state.call id
    · exact Or.inl (hsame ▸ hcall)
    · exact Or.inr (hother id hsame)
  rw [← List.append_assoc, State.finishClose, heq]
  exact hread.signal (fun _ => rfl) rfl rfl fun id hmem => Or.inr hmem

/-- `start_close` with the promise of a call that has just begun, or without one. -/
theorem Accounted.startClose (haccounted : Accounted state seen) {promise : Option CloseId}
    {closer : CloseId → Closer} (hother : ∀ id ∉ promise.toList, closer id = state.closer id)
    (hnew : ∀ id ∈ promise.toList, closer id = .waiting) :
    Accounted ({ state with closer }.startClose promise)
      (seen ++ state.emits (.startClose promise)) := by
  have hqueued : state.closed = false →
      Accounted { state with closer, closeWaiters := state.closeWaiters ++ promise.toList }
        seen := by
    intro hopen
    refine ⟨?_, fun hclosed => ?_, ?_, haccounted.answered⟩
    · intro id hwaits
      by_cases hmem : id ∈ promise.toList
      · exact List.mem_append_right _ hmem
      · exact List.mem_append_left _ (haccounted.queued id (hother id hmem ▸ hwaits))
    · simp [hopen] at hclosed
    · intro id htold
      by_cases hmem : id ∈ promise.toList
      · simp [hnew id hmem] at htold
      · exact haccounted.told id (hother id hmem ▸ htold)
  unfold State.startClose State.emits
  by_cases hdone : (!state.initialized || state.closed) = true
  · simp only [hdone, if_true]
    refine haccounted.signal haccounted.drained rfl ?_ fun id hmem => Or.inl hmem
    funext id
    by_cases hmem : id ∈ promise.toList
    · simp only [State.signal, if_pos hmem]
    · simp only [State.signal, if_neg hmem, hother id hmem]
  have hopen : state.closed = false := by
    simp only [Bool.or_eq_true, not_or, Bool.not_eq_true] at hdone
    exact hdone.2
  simp only [hdone, Bool.false_eq_true, if_false]
  by_cases hdead : (!state.alive) = true
  · simp only [hdead, if_true]
    exact (hqueued hopen).finishClose
  simp only [hdead, Bool.false_eq_true, if_false]
  have hmore : ∀ events : List Event, Accounted
      { state with closer, closeWaiters := state.closeWaiters ++ promise.toList }
      (seen ++ events) :=
    fun events => (hqueued hopen).frame rfl rfl rfl fun _ _ _ _ hcall => Or.inl hcall
  split
  · exact { hmore _ with }
  split
  · exact { hmore _ with }
  · exact { hmore _ with }

theorem Accounted.read (haccounted : Accounted state seen) (id : CallId) (timed : Bool)
    (address : Nat) (rc : Int) : Accounted (state.read id timed address rc) seen := by
  have hset : ∀ after : Call,
      (∀ timed address outcome, after ≠ .waiting timed address (some outcome)) →
      ∀ other timed address outcome,
        Function.update state.call id after other = .waiting timed address (some outcome) →
        .setRead other ∈ seen := by
    intro after hafter other timed address outcome hother
    exact haccounted.answered other timed address outcome (status_of_update (hafter _ _ _) hother).2
  have heffect := read_effect state id timed address rc
  generalize state.read id timed address rc = next at heffect ⊢
  cases heffect with
  | threw error => exact { haccounted with answered := hset _ (by simp) }
  | buffered hopen hbuffered => exact { haccounted with answered := hset _ (by simp) }
  | ended heof => exact { haccounted with answered := hset _ (by simp) }
  | waits hopen hbuffered heof hnone => exact { haccounted with answered := hset _ (by simp) }

theorem Accounted.onConnectionRead (haccounted : Accounted state seen) (nread : Int)
    (bytes : Bytes) : Accounted (state.onConnectionRead nread bytes)
      (seen ++ state.emits (.onConnectionRead nread bytes)) := by
  unfold State.onConnectionRead State.emits
  by_cases hchunk : 0 < nread
  · have hstopped : Accounted
        { state with reading := false, delivered := state.delivered ++ [bytes] } seen :=
      { haccounted with }
    simp only [hchunk, true_or, if_true]
    unfold State.deliver
    split
    · exact hstopped.finishRead (.ok bytes)
    · exact hstopped.frame rfl rfl rfl fun _ _ _ _ hcall => Or.inl hcall
  simp only [hchunk, false_or, if_false]
  by_cases heof : nread = uvEof
  · simp only [heof, true_or, if_true]
    have hended : Accounted { state with eof := true, reading := false } seen :=
      { haccounted with }
    exact hended.finishRead (.ok [])
  simp only [heof, false_or, if_false]
  by_cases herror : nread < 0
  · simp only [herror, if_true]
    have hstopped : Accounted { state with reading := false } seen := { haccounted with }
    exact hstopped.finishRead (.error (.uv "uv_read_start(read)" nread))
  · simp only [herror, if_false, List.append_nil]
    exact haccounted

theorem Accounted.step {action : Action} (haccounted : Accounted state seen)
    (hstep : state.step action = some next) : Accounted next (seen ++ state.emits action) := by
  cases action with
  | read id timed address rc =>
      simp only [State.step] at hstep
      split at hstep
      · cases hstep
        simpa [State.emits] using haccounted.read id timed address rc
      · cases hstep
  | resume id expired =>
      obtain ⟨result, pendingRead, reading, -, rfl⟩ := resume_returns hstep
      refine haccounted.frame rfl rfl rfl fun other timed address outcome hother => Or.inl ?_
      exact (status_of_update (by simp) hother).2
  | onConnectionRead nread bytes =>
      simp only [State.step, Option.ite_none_right_eq_some, Option.some.injEq] at hstep
      obtain ⟨-, rfl⟩ := hstep
      exact haccounted.onConnectionRead nread bytes
  | startClose promise =>
      cases promise with
      | none =>
          cases hstep
          exact haccounted.startClose (fun _ _ => rfl) (by simp)
      | some id =>
          simp only [State.step] at hstep
          split at hstep
          · cases hstep
            refine haccounted.startClose ?_ (by simp)
            intro other hother
            have hne : other ≠ id := by simpa using hother
            simp [hne]
          · cases hstep
  | onConnectionClosed =>
      simp only [State.step, Option.ite_none_right_eq_some, Option.some.injEq] at hstep
      obtain ⟨-, rfl⟩ := hstep
      exact { haccounted.finishClose with }
  | closeResume id =>
      simp only [State.step] at hstep
      split at hstep
      next hsignalled =>
        cases hstep
        simp only [State.emits, List.append_nil]
        refine { haccounted with queued := fun other hother => ?_, told := fun other htold => ?_ }
        · exact haccounted.queued other (status_of_update (by simp) hother).2
        · by_cases heq : other = id
          · exact haccounted.told other (heq ▸ Or.inl hsignalled)
          · exact haccounted.told other (by simpa [heq] using htold)
      · cases hstep
  | endLoop =>
      cases hstep
      exact haccounted.frame rfl rfl rfl fun _ _ _ _ hcall => Or.inl hcall
  | walk =>
      simp only [State.step] at hstep
      split at hstep
      · cases hstep
      split at hstep
      · cases hstep
        exact haccounted.frame rfl rfl rfl fun _ _ _ _ hcall => Or.inl hcall
      · cases hstep
        exact haccounted.frame rfl rfl rfl fun _ _ _ _ hcall => Or.inl hcall

/-- A connection that is closed stays closed. -/
theorem step_closed {action : Action} (hstep : state.step action = some next)
    (hclosed : state.closed = true) : next.closed = true := by
  have hdone : (!state.initialized || state.closed) = true := by simp [hclosed]
  cases action with
  | read id timed address rc =>
      simp only [State.step] at hstep
      split at hstep
      · cases hstep
        exact (State.read_sameFlags state id timed address rc).2.2.trans hclosed
      · cases hstep
  | resume id expired => exact (State.resume_sameFlags hstep).2.2.trans hclosed
  | onConnectionRead nread bytes =>
      simp only [State.step, Option.ite_none_right_eq_some, Option.some.injEq] at hstep
      obtain ⟨-, rfl⟩ := hstep
      exact (State.onConnectionRead_sameFlags state nread bytes).2.2.trans hclosed
  | startClose promise =>
      cases promise with
      | none =>
          cases hstep
          rw [State.startClose, if_pos hdone]
          exact hclosed
      | some id =>
          simp only [State.step] at hstep
          split at hstep
          · cases hstep
            rw [State.startClose, if_pos hdone]
            exact hclosed
          · cases hstep
  | onConnectionClosed =>
      simp only [State.step, Option.ite_none_right_eq_some, Option.some.injEq] at hstep
      obtain ⟨-, rfl⟩ := hstep
      exact State.finishClose_closed state
  | closeResume id =>
      simp only [State.step] at hstep
      split at hstep
      · cases hstep
        exact hclosed
      · cases hstep
  | endLoop =>
      cases hstep
      exact hclosed
  | walk =>
      simp only [State.step] at hstep
      split at hstep
      · cases hstep
      split at hstep <;> cases hstep <;> exact hclosed

/-- What holds of the state and the events so far in every run. -/
structure Settles (state : State) (seen : List Event) : Prop where
  sound : Sound state
  tally : Tally state seen
  accounted : Accounted state seen

theorem settles_initial : Settles initial [] where
  sound := sound_initial
  tally := by constructor <;> simp [initial]
  accounted := by constructor <;> simp [initial]

theorem settles_of_run {labels : List Action} {final : State}
    (hrun : machine.run labels initial = some final) :
    Settles final (machine.trace State.emits labels initial) := by
  refine Machine.run_trace ?_ labels initial final [] settles_initial hrun
  intro state seen action next hsettles hstep
  exact ⟨step_sound state action next hsettles.sound hstep, hsettles.tally.step hstep,
    hsettles.accounted.step hstep⟩

/-- Nobody is registered with the connection, and nobody waits for it. -/
structure State.Vacated (state : State) : Prop where
  pending : state.pendingRead = none
  waiters : state.closeWaiters = []
  reads : ∀ id timed address, state.call id ≠ .waiting timed address none
  closers : ∀ id, state.closer id ≠ .waiting

theorem Settles.vacated (hsettles : Settles state seen) (hclosed : state.closed = true) :
    state.Vacated := by
  have hpending := hsettles.sound.closed hclosed
  have hwaiters := hsettles.accounted.drained hclosed
  refine ⟨hpending, hwaiters, fun id timed address hcall => ?_, fun id hwaits => ?_⟩
  · have hmine := (hsettles.sound.pending id address).mpr ⟨timed, hcall⟩
    simp [hpending] at hmine
  · have hmine := hsettles.accounted.queued id hwaits
    simp [hwaiters] at hmine

/-- A close of a connection that is closed finds its promise set when it comes to wait. -/
theorem close_returns_at_once {id : CloseId} (hclosed : state.closed = true)
    (hidle : state.closer id = .idle) :
    ∃ last, machine.run [.startClose (some id), .closeResume id] state = some last ∧
      last.closer id = .returned := by
  simp [machine, State.step, hidle, State.startClose, hclosed, State.signal]

/-- Closing a connection releases every waiter once. In every run of reads, closes and
callbacks, with the loop ending at any point, no promise is set twice and the socket is
passed to `uv_close` once; a promise that is found set has its event. In a closed state
nobody is registered and nobody waits, a close returns at once, and this stays so
whatever is called later. -/
theorem close_releases_once (labels : List Action) (final : State)
    (hrun : machine.run labels initial = some final) :
    (machine.trace State.emits labels initial).Nodup ∧
      (∀ id timed address outcome, final.call id = .waiting timed address (some outcome) →
        .setRead id ∈ machine.trace State.emits labels initial) ∧
      (∀ id, final.closer id = .signalled ∨ final.closer id = .returned →
        .setClose id ∈ machine.trace State.emits labels initial) ∧
      (final.closed = true → final.Vacated ∧
        (∀ id, final.closer id = .idle →
          ∃ last, machine.run [.startClose (some id), .closeResume id] final = some last ∧
            last.closer id = .returned) ∧
        ∀ later last, machine.run later final = some last →
          last.closed = true ∧ last.Vacated) := by
  have hsettles := settles_of_run hrun
  refine ⟨hsettles.tally.nodup, hsettles.accounted.answered, hsettles.accounted.told,
    fun hclosed => ⟨hsettles.vacated hclosed, fun id hidle => close_returns_at_once hclosed hidle,
      fun later last hlater => ?_⟩⟩
  have hkeep : ∀ state action next, state.closed = true →
      machine.step state action = some next → next.closed = true :=
    fun _ _ _ hbefore hstep => step_closed hstep hbefore
  have hstays : last.closed = true :=
    Machine.reachable_invariant hkeep hclosed ⟨later, hlater⟩
  have hwhole : machine.run (labels ++ later) initial = some last := by
    rw [Machine.run_append, hrun]
    exact hlater
  exact ⟨hstays, (settles_of_run hwhole).vacated hstays⟩

/-- A pending read and three closes, the last of them after the loop has ended but before
its close callback. -/
def closedTwice : List Action :=
  [.read 0 false 64 0, .startClose (some 0), .startClose (some 1), .endLoop,
    .startClose (some 2), .onConnectionClosed]

theorem close_releases_once_closedTwice :
    ∃ final, machine.run closedTwice initial = some final ∧ final.closed = true ∧
      machine.trace State.emits closedTwice initial =
        [.uvClose, .setRead 0, .setClose 0, .setClose 1, .setClose 2] ∧
      (machine.trace State.emits closedTwice initial).Nodup ∧ final.Vacated := by
  refine ⟨_, rfl, rfl, rfl, (close_releases_once closedTwice _ rfl).1, ?_⟩
  exact ((close_releases_once closedTwice _ rfl).2.2.2 rfl).1

end Fiberuv.Tcp
