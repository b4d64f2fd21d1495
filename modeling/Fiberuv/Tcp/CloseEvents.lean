import Fiberuv.Tcp.Release
import Mathlib.Data.List.Nodup

/-! # The promises that closing a connection sets

Two pieces of code release the waiters of a connection: the close callback, and
`start_close` on a loop that is gone. Both can run for one connection, and reads are only
barred once it is closed. The promises that are set and the calls of `uv_close` are the
events of a run; none of them happens twice.
-/

namespace Fiberuv.Tcp

open Foundation

/-- What the code does to a promise or to the socket for good. -/
inductive Event where
  | setRead (id : CallId)
  | setClose (id : CloseId)
  | uvClose
  deriving DecidableEq

namespace State

/-- The promise of the pending read is set. -/
def setsPending (state : State) : List Event :=
  state.pendingRead.toList.map fun pending => .setRead pending.call

/-- The events of a step, in the branches of its code. -/
def emits (state : State) : Action → List Event
  | .onConnectionRead nread _ =>
      if 0 < nread ∨ nread = uvEof ∨ nread < 0 then state.setsPending else []
  | .startClose promise =>
      if !state.initialized || state.closed then promise.toList.map .setClose
      else if !state.alive then
        state.setsPending ++ (state.closeWaiters ++ promise.toList).map .setClose
      else if state.closing || state.uvClosing then []
      else [.uvClose]
  | .onConnectionClosed => state.setsPending ++ state.closeWaiters.map .setClose
  | .walk => if state.uvClosing then [] else [.uvClose]
  | _ => []

end State

/-- How the events so far relate to who still waits. -/
structure Tally (state : State) (seen : List Event) : Prop where
  nodup : seen.Nodup
  pending : ∀ pending ∈ state.pendingRead, Event.setRead pending.call ∉ seen
  idleRead : ∀ id, state.call id = .idle → Event.setRead id ∉ seen ∧
    ∀ pending ∈ state.pendingRead, pending.call ≠ id
  waiters : state.closeWaiters.Nodup
  waiting : ∀ id ∈ state.closeWaiters, Event.setClose id ∉ seen
  idleClose : ∀ id, state.closer id = .idle → Event.setClose id ∉ seen ∧ id ∉ state.closeWaiters
  uvClosed : Event.uvClose ∈ seen → state.uvClosing = true

variable {state next : State} {seen : List Event}

/-- A step that sets no promise, and at most gives up the pending read. -/
theorem Tally.frame (htally : Tally state seen)
    (hpending : next.pendingRead = state.pendingRead ∨ next.pendingRead = none)
    (hcall : ∀ id, next.call id = .idle → state.call id = .idle)
    (hwaiters : next.closeWaiters = state.closeWaiters)
    (hcloser : ∀ id, next.closer id = .idle → state.closer id = .idle)
    (huv : state.uvClosing = true → next.uvClosing = true) : Tally next seen := by
  have hfewer : ∀ pending ∈ next.pendingRead, pending ∈ state.pendingRead := by
    rcases hpending with hsame | hnone
    · exact hsame ▸ fun _ hmem => hmem
    · simp [hnone]
  refine ⟨htally.nodup, fun pending hmem => htally.pending pending (hfewer pending hmem), ?_,
    hwaiters ▸ htally.waiters, hwaiters ▸ htally.waiting, ?_,
    fun hmem => huv (htally.uvClosed hmem)⟩
  · intro id hidle
    obtain ⟨hunset, hother⟩ := htally.idleRead id (hcall id hidle)
    exact ⟨hunset, fun pending hmem => hother pending (hfewer pending hmem)⟩
  · intro id hidle
    rw [hwaiters]
    exact htally.idleClose id (hcloser id hidle)

/-- A step that leaves alone whatever the events are about. -/
theorem Tally.quiet (htally : Tally state seen)
    (hpending : next.pendingRead = state.pendingRead) (hcall : next.call = state.call)
    (hwaiters : next.closeWaiters = state.closeWaiters) (hcloser : next.closer = state.closer)
    (huv : next.uvClosing = state.uvClosing) : Tally next seen :=
  htally.frame (Or.inl hpending) (fun _ hidle => hcall ▸ hidle) hwaiters
    (fun _ hidle => hcloser ▸ hidle) fun hclosing => huv.trans hclosing

/-- Setting the promise of a read changes nothing but that call and the log. -/
theorem fulfil_frame (state : State) (id : CallId) (outcome : Except Error Bytes) :
    ∃ call log, state.fulfil id outcome = { state with call, log } ∧
      (∀ other, call other = .idle → state.call other = .idle) ∧
      ∀ other, call other ≠ state.call other → other = id := by
  cases hcall : state.call id with
  | waiting timed address promise =>
      refine ⟨Function.update state.call id (.waiting timed address (some outcome)),
        (state.fulfil id outcome).log, ?_, fun other hother => ?_, fun other hother => ?_⟩
      · cases outcome <;> simp [State.fulfil, hcall, State.setCall]
      · by_cases heq : other = id
        · subst other
          simp at hother
        · simpa [heq] using hother
      · by_contra hne
        simp [hne] at hother
  | idle =>
      refine ⟨state.call, (state.fulfil id outcome).log, ?_, fun _ hother => hother, by simp⟩
      cases outcome <;> simp [State.fulfil, hcall]
  | returned result =>
      refine ⟨state.call, (state.fulfil id outcome).log, ?_, fun _ hother => hother, by simp⟩
      cases outcome <;> simp [State.fulfil, hcall]

theorem finishRead_frame (state : State) (outcome : Except Error Bytes) :
    ∃ call log, state.finishRead outcome = { state with pendingRead := none, call, log } ∧
      (∀ other, call other = .idle → state.call other = .idle) ∧
      ∀ other, call other ≠ state.call other → Event.setRead other ∈ state.setsPending := by
  unfold State.finishRead
  split
  next hnone =>
    exact ⟨state.call, state.log, by rw [← hnone], fun _ hother => hother, by simp⟩
  next pending hpending =>
    obtain ⟨call, log, heq, hidle, hother⟩ :=
      fulfil_frame { state with pendingRead := none } pending.call outcome
    refine ⟨call, log, heq, hidle, fun other hchanged => ?_⟩
    simp [State.setsPending, hpending, hother other hchanged]

/-- The pending read is settled once. -/
theorem Tally.finishRead (htally : Tally state seen) (outcome : Except Error Bytes) :
    Tally (state.finishRead outcome) (seen ++ state.setsPending) := by
  obtain ⟨call, log, heq, hidle, _⟩ := finishRead_frame state outcome
  rw [heq]
  cases hpending : state.pendingRead with
  | none =>
      have hnothing : state.setsPending = [] := by simp [State.setsPending, hpending]
      rw [hnothing, List.append_nil]
      exact htally.frame (Or.inr rfl) hidle rfl (fun _ => id) id
  | some pending =>
      have hevent : state.setsPending = [.setRead pending.call] := by
        simp [State.setsPending, hpending]
      have hunset := htally.pending pending hpending
      rw [hevent]
      refine ⟨?_, by simp, ?_, htally.waiters, ?_, ?_, ?_⟩
      · exact htally.nodup.append (List.nodup_singleton _) (by simpa using hunset)
      · intro id hcall
        obtain ⟨hother, hne⟩ := htally.idleRead id (hidle id hcall)
        have hcall := hne pending hpending
        simpa [hother] using Ne.symm hcall
      · intro id hmem
        simpa using htally.waiting id hmem
      · intro id hcloser
        simpa using htally.idleClose id hcloser
      · intro hmem
        exact htally.uvClosed (by simpa using hmem)

/-- Promises of close calls are set that were not set before and that nobody keeps. -/
theorem Tally.signal (htally : Tally state seen) {released : List CloseId}
    (hnodup : released.Nodup) (hunset : ∀ id ∈ released, Event.setClose id ∉ seen)
    (hpending : next.pendingRead = state.pendingRead) (hcall : next.call = state.call)
    (hkept : next.closeWaiters.Nodup)
    (hsub : ∀ id ∈ next.closeWaiters, id ∈ state.closeWaiters ∧ id ∉ released)
    (hcloser : ∀ id, next.closer id = .idle → state.closer id = .idle ∧ id ∉ released)
    (huv : next.uvClosing = state.uvClosing) : Tally next (seen ++ released.map .setClose) := by
  have hread : ∀ id, Event.setRead id ∈ seen ++ released.map .setClose ↔
      Event.setRead id ∈ seen := by simp
  have hclose : ∀ id, Event.setClose id ∈ seen ++ released.map .setClose ↔
      Event.setClose id ∈ seen ∨ id ∈ released := by simp
  refine ⟨?_, ?_, ?_, hkept, ?_, ?_, ?_⟩
  · refine htally.nodup.append (hnodup.map fun _ _ heq => Event.setClose.inj heq) ?_
    intro event hseen hevent
    obtain ⟨id, hid, rfl⟩ := List.mem_map.mp hevent
    exact hunset id hid hseen
  · intro pending hmem
    rw [hread]
    exact htally.pending pending (hpending ▸ hmem)
  · intro id hidle
    rw [hread, hpending]
    exact htally.idleRead id (hcall ▸ hidle)
  · intro id hmem
    obtain ⟨hbefore, hnot⟩ := hsub id hmem
    rw [hclose]
    exact not_or.mpr ⟨htally.waiting id hbefore, hnot⟩
  · intro id hidle
    obtain ⟨hbefore, hnot⟩ := hcloser id hidle
    rw [hclose]
    exact ⟨not_or.mpr ⟨(htally.idleClose id hbefore).1, hnot⟩,
      fun hmem => (htally.idleClose id hbefore).2 (hsub id hmem).1⟩
  · intro hmem
    rw [huv]
    exact htally.uvClosed (by simpa using hmem)

/-- `uv_close` is called on a socket that is not closing. -/
theorem Tally.uvClose (htally : Tally state seen) (hopen : state.uvClosing = false)
    (hpending : next.pendingRead = state.pendingRead) (hcall : next.call = state.call)
    (hwaiters : next.closeWaiters = state.closeWaiters) (hcloser : next.closer = state.closer)
    (huv : next.uvClosing = true) : Tally next (seen ++ [.uvClose]) := by
  have hnot : Event.uvClose ∉ seen := fun hmem => by simpa [hopen] using htally.uvClosed hmem
  refine ⟨htally.nodup.append (List.nodup_singleton _) (by simpa using hnot), ?_, ?_,
    hwaiters ▸ htally.waiters, ?_, ?_, fun _ => huv⟩
  · intro pending hmem
    simpa using htally.pending pending (hpending ▸ hmem)
  · intro id hidle
    simpa [hpending] using htally.idleRead id (hcall ▸ hidle)
  · intro id hmem
    simpa using htally.waiting id (hwaiters ▸ hmem)
  · intro id hidle
    simpa [hwaiters] using htally.idleClose id (hcloser ▸ hidle)

/-- Both pieces of code that release the waiters settle them once. -/
theorem Tally.finishClose (htally : Tally state seen) :
    Tally state.finishClose
      (seen ++ (state.setsPending ++ state.closeWaiters.map .setClose)) := by
  have hmarked : Tally { state with closed := true, closing := false } seen :=
    htally.quiet rfl rfl rfl rfl rfl
  have hread := hmarked.finishRead (.error closedWhileReading)
  obtain ⟨call, log, heq, _⟩ :=
    finishRead_frame { state with closed := true, closing := false } (.error closedWhileReading)
  rw [heq] at hread
  rw [← List.append_assoc, State.finishClose, heq]
  refine hread.signal htally.waiters hread.waiting rfl rfl List.nodup_nil (by simp) ?_ rfl
  intro id hidle
  simp only [State.signal] at hidle
  split at hidle
  · cases hidle
  next hnot => exact ⟨hidle, hnot⟩

/-- `start_close` with the promise of a call that has just begun, or without one. -/
theorem Tally.startClose (htally : Tally state seen) {promise : Option CloseId}
    (hpromise : ∀ id ∈ promise, state.closer id = .waiting ∧ Event.setClose id ∉ seen ∧
      id ∉ state.closeWaiters) :
    Tally (state.startClose promise) (seen ++ state.emits (.startClose promise)) := by
  have hnodup : promise.toList.Nodup := by cases promise <;> simp
  have hqueued : Tally { state with closeWaiters := state.closeWaiters ++ promise.toList }
      seen := by
    refine ⟨htally.nodup, htally.pending, htally.idleRead, ?_, ?_, ?_, htally.uvClosed⟩
    · refine htally.waiters.append hnodup fun id hid hmem => ?_
      exact (hpromise id (by simpa using hmem)).2.2 hid
    · intro id hmem
      rcases List.mem_append.mp hmem with hbefore | hnew
      · exact htally.waiting id hbefore
      · exact (hpromise id (by simpa using hnew)).2.1
    · intro id hidle
      refine ⟨(htally.idleClose id hidle).1, fun hmem => ?_⟩
      rcases List.mem_append.mp hmem with hbefore | hnew
      · exact (htally.idleClose id hidle).2 hbefore
      · have hwaits := (hpromise id (by simpa using hnew)).1
        rw [hidle] at hwaits
        cases hwaits
  have hsignal : ∀ id, (state.signal promise.toList).closer id = .idle →
      state.closer id = .idle ∧ id ∉ promise.toList := by
    intro id hidle
    simp only [State.signal] at hidle
    split at hidle
    · cases hidle
    next hnot => exact ⟨hidle, hnot⟩
  unfold State.startClose State.emits
  by_cases hdone : (!state.initialized || state.closed) = true
  · simp only [hdone, if_true]
    refine htally.signal hnodup ?_ rfl rfl htally.waiters ?_ hsignal rfl
    · exact fun id hmem => (hpromise id (by simpa using hmem)).2.1
    · exact fun id hmem => ⟨hmem, fun hnew => (hpromise id (by simpa using hnew)).2.2 hmem⟩
  simp only [hdone, Bool.false_eq_true, if_false]
  by_cases hdead : (!state.alive) = true
  · simp only [hdead, if_true]
    exact hqueued.finishClose
  simp only [hdead, Bool.false_eq_true, if_false]
  by_cases hclosing : state.closing = true
  · simp only [hclosing, if_true, Bool.true_or, List.append_nil]
    exact hqueued.quiet rfl rfl rfl rfl rfl
  by_cases huv : state.uvClosing = true
  · simp only [hclosing, huv, Bool.false_eq_true, if_true, if_false, Bool.or_true, List.append_nil]
    exact hqueued.frame (Or.inl rfl) (fun _ => id) rfl (fun _ => id) fun _ => rfl
  · simp only [hclosing, huv, Bool.false_eq_true, if_false, Bool.or_self]
    exact hqueued.uvClose (Bool.eq_false_iff.mpr huv) rfl rfl rfl rfl rfl

/-- A status that the updated one does not have is had by somebody else, as before. -/
theorem status_of_update {Status : Type} {status : Nat → Status} {id other : Nat}
    {before after : Status} (hafter : after ≠ before)
    (hother : Function.update status id after other = before) :
    other ≠ id ∧ status other = before := by
  by_cases heq : other = id
  · subst heq
    exact absurd (by simpa using hother) hafter
  · exact ⟨heq, by simpa [heq] using hother⟩

theorem Tally.setCall (htally : Tally state seen) {id : CallId} {after : Call}
    (hafter : after ≠ .idle) : Tally (state.setCall id after) seen :=
  htally.frame (Or.inl rfl) (fun _ hidle => (status_of_update hafter hidle).2) rfl
    (fun _ hcloser => hcloser) fun huv => huv

theorem Tally.setCloser (htally : Tally state seen) {id : CloseId} {after : Closer}
    (hafter : after ≠ .idle) :
    Tally { state with closer := Function.update state.closer id after } seen :=
  htally.frame (Or.inl rfl) (fun _ hcall => hcall) rfl
    (fun _ hidle => (status_of_update hafter hidle).2) fun huv => huv

/-- A call of `read` registers itself only where nobody waits. -/
theorem Tally.read (htally : Tally state seen) {id : CallId} (hidle : state.call id = .idle)
    (timed : Bool) (address : Nat) (rc : Int) :
    Tally (state.read id timed address rc) seen := by
  have hthrows : ∀ error, Tally (state.throws id error) seen :=
    fun error => htally.setCall (by simp)
  have hreturns : ∀ buffered bytes,
      Tally ({ state with bufferedReads := buffered }.returns id bytes) seen :=
    fun buffered bytes => htally.frame (Or.inl rfl)
      (fun _ hother => (status_of_update (by simp) hother).2) rfl (fun _ hcloser => hcloser)
      fun huv => huv
  have heffect := read_effect state id timed address rc
  generalize state.read id timed address rc = next at heffect ⊢
  cases heffect with
  | threw error => exact hthrows error
  | buffered hopen hbuffered => exact hreturns _ _
  | ended heof => exact hreturns state.bufferedReads []
  | waits hopen hbuffered heof hnone =>
      refine ⟨htally.nodup, ?_, ?_, htally.waiters, htally.waiting, htally.idleClose,
        htally.uvClosed⟩
      · intro pending hmem
        cases hmem
        exact (htally.idleRead id hidle).1
      · intro other hother
        obtain ⟨hne, hbefore⟩ := status_of_update (by simp) hother
        refine ⟨(htally.idleRead other hbefore).1, fun pending hmem => ?_⟩
        cases hmem
        exact hne.symm

/-- A read that resumes returns, and at most gives up the pending record. -/
theorem resume_returns {id : CallId} {expired : Bool}
    (hresume : state.resume id expired = some next) :
    ∃ result pendingRead reading, (pendingRead = state.pendingRead ∨ pendingRead = none) ∧
      next = { state.setCall id (.returned result) with pendingRead, reading } := by
  unfold State.resume at hresume
  split at hresume
  next outcome hcall =>
    cases hresume
    cases outcome with
    | ok bytes => exact ⟨.ok (some bytes), _, _, Or.inl rfl, rfl⟩
    | error error => exact ⟨.error error, _, _, Or.inl rfl, rfl⟩
  · simp only [Option.ite_none_right_eq_some, Option.some.injEq] at hresume
    obtain ⟨-, rfl⟩ := hresume
    unfold State.readTimedOut
    split
    · exact ⟨.ok none, _, _, Or.inr rfl, rfl⟩
    · exact ⟨.ok none, _, _, Or.inl rfl, rfl⟩
  · cases hresume

/-- A chunk, the end of the stream or an error settles the pending read. -/
theorem Tally.onConnectionRead (htally : Tally state seen) (nread : Int) (bytes : Bytes) :
    Tally (state.onConnectionRead nread bytes)
      (seen ++ state.emits (.onConnectionRead nread bytes)) := by
  unfold State.onConnectionRead State.emits
  by_cases hchunk : 0 < nread
  · have hstopped : Tally { state with reading := false, delivered := state.delivered ++ [bytes] }
        seen := htally.quiet rfl rfl rfl rfl rfl
    simp only [hchunk, true_or, if_true]
    unfold State.deliver
    split
    · exact hstopped.finishRead (.ok bytes)
    next hnone =>
      have hnothing : state.setsPending = [] := by
        unfold State.setsPending
        rw [show state.pendingRead = none from hnone]
        rfl
      rw [hnothing, List.append_nil]
      exact hstopped.quiet rfl rfl rfl rfl rfl
  simp only [hchunk, false_or, if_false]
  by_cases heof : nread = uvEof
  · simp only [heof, true_or, if_true]
    have hended : Tally { state with eof := true, reading := false } seen :=
      htally.quiet rfl rfl rfl rfl rfl
    exact hended.finishRead (.ok [])
  simp only [heof, false_or, if_false]
  by_cases herror : nread < 0
  · simp only [herror, if_true]
    have hstopped : Tally { state with reading := false } seen :=
      htally.quiet rfl rfl rfl rfl rfl
    exact hstopped.finishRead (.error (.uv "uv_read_start(read)" nread))
  · simp only [herror, if_false, List.append_nil]
    exact htally

theorem Tally.step {action : Action} (htally : Tally state seen)
    (hstep : state.step action = some next) : Tally next (seen ++ state.emits action) := by
  cases action with
  | read id timed address rc =>
      simp only [State.step] at hstep
      split at hstep
      next hidle =>
        cases hstep
        simpa [State.emits] using htally.read hidle timed address rc
      · cases hstep
  | resume id expired =>
      obtain ⟨result, pendingRead, reading, hpending, rfl⟩ := resume_returns hstep
      simp only [State.emits, List.append_nil]
      exact htally.frame hpending (fun _ hidle => (status_of_update (by simp) hidle).2) rfl
        (fun _ hcloser => hcloser) fun huv => huv
  | onConnectionRead nread bytes =>
      simp only [State.step, Option.ite_none_right_eq_some, Option.some.injEq] at hstep
      obtain ⟨-, rfl⟩ := hstep
      exact htally.onConnectionRead nread bytes
  | startClose promise =>
      cases promise with
      | none =>
          cases hstep
          exact htally.startClose (by simp)
      | some id =>
          simp only [State.step] at hstep
          split at hstep
          next hidle =>
            cases hstep
            obtain ⟨hunset, hnobody⟩ := htally.idleClose id hidle
            refine (htally.setCloser (by simp)).startClose ?_
            intro other hother
            cases hother
            exact ⟨by simp, hunset, hnobody⟩
          · cases hstep
  | onConnectionClosed =>
      simp only [State.step, Option.ite_none_right_eq_some, Option.some.injEq] at hstep
      obtain ⟨-, rfl⟩ := hstep
      exact htally.finishClose.quiet rfl rfl rfl rfl rfl
  | closeResume id =>
      simp only [State.step] at hstep
      split at hstep
      next hsignalled =>
        cases hstep
        simp only [State.emits, List.append_nil]
        exact htally.setCloser (by simp)
      · cases hstep
  | endLoop =>
      cases hstep
      simp only [State.emits, List.append_nil]
      exact htally.quiet rfl rfl rfl rfl rfl
  | walk =>
      simp only [State.step] at hstep
      split at hstep
      · cases hstep
      split at hstep
      next huv =>
        cases hstep
        simpa [State.emits, huv] using htally
      next huv =>
        cases hstep
        simp only [State.emits, huv, Bool.false_eq_true, if_false]
        exact htally.uvClose (Bool.eq_false_iff.mpr huv) rfl rfl rfl rfl rfl

end Fiberuv.Tcp
