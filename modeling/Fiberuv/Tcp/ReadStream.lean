import Fiberuv.Foundation.Decision
import Fiberuv.Foundation.Records
import Fiberuv.Tcp.Connection

/-! # TCP reads preserve the byte stream

Reading is armed only while a read is pending, so every chunk finds a promise to go to,
and a read that times out disarms it before it gives up its record. What libuv has
delivered is therefore what the reads have returned, in the same order.
-/

namespace Fiberuv.Tcp

open Foundation

/-- The strings in the log are those the calls have returned, one for each call. -/
def Logged (call : CallId → Call) (log : List (CallId × Bytes)) : Prop :=
  Records (fun id => (call id).value) log

theorem Logged.keep {call : CallId → Call} {log : List (CallId × Bytes)} (hlogged : Logged call log)
    {id : CallId} {after : Call} (hvalue : after.value = (call id).value) :
    Logged (Function.update call id after) log := by
  refine Records.congr hlogged fun other => ?_
  by_cases hself : other = id
  · subst hself
    simp [hvalue]
  · simp [hself]

theorem Logged.record {call : CallId → Call} {log : List (CallId × Bytes)}
    (hlogged : Logged call log) {id : CallId} {after : Call} {bytes : Bytes}
    (hbefore : (call id).value = none) (hafter : after.value = some bytes) :
    Logged (Function.update call id after) (log ++ [(id, bytes)]) := by
  refine Records.snoc hlogged hbefore ?_ fun other hother => ?_
  · simp [hafter]
  · simp [hother]

/-- The strings are nonempty up to some point and empty from there on, and there is an
empty one only after the end of the stream. -/
def EndsEmpty (eof : Bool) (strings : List Bytes) : Prop :=
  ∃ data count, strings = data ++ List.replicate count [] ∧ (∀ bytes ∈ data, bytes ≠ []) ∧
    (0 < count → eof = true)

theorem EndsEmpty.data {strings : List Bytes} (hends : EndsEmpty false strings) {bytes : Bytes}
    (hne : bytes ≠ []) (eof : Bool) : EndsEmpty eof (strings ++ [bytes]) := by
  obtain ⟨data, count, rfl, hdata, hcount⟩ := hends
  have hzero : count = 0 := by simpa using hcount
  subst hzero
  refine ⟨data ++ [bytes], 0, by simp, ?_, by simp⟩
  simpa [or_imp, forall_and] using ⟨hdata, hne⟩

theorem EndsEmpty.empty {eof : Bool} {strings : List Bytes} (hends : EndsEmpty eof strings) :
    EndsEmpty true (strings ++ [[]]) := by
  obtain ⟨data, count, rfl, hdata, -⟩ := hends
  exact ⟨data, count + 1, by simp [List.replicate_succ'], hdata, fun _ => rfl⟩

/-- What holds of a connection at every point where fibers switch. -/
structure Sound (state : State) : Prop where
  initialized : state.initialized = true
  stream : (state.log.map Prod.snd).flatten ++ state.bufferedReads.flatten =
    state.delivered.flatten
  logged : Logged state.call state.log
  pending : ∀ id address, state.pendingRead = some ⟨address, id⟩ ↔
    ∃ timed, state.call id = .waiting timed address none
  fresh : state.pendingRead ≠ none → state.eof = false ∧ state.bufferedReads = []
  armed : state.reading = true → state.pendingRead ≠ none ∨ state.closed = true
  buffered : state.bufferedReads ≠ [] → state.closed = true
  empty : EndsEmpty state.eof (state.log.map Prod.snd)
  closed : state.closed = true → state.pendingRead = none

theorem sound_initial : Sound initial where
  initialized := rfl
  stream := rfl
  logged := records_nil
  pending := by simp [initial]
  fresh := by simp [initial]
  armed := by simp [initial]
  buffered := by simp [initial]
  empty := ⟨[], 0, rfl, by simp, by simp⟩
  closed := by simp [initial]

variable {state next : State}

section Read

/-- The pending read belongs to another call than one that is not waiting. -/
theorem Sound.pending_update (hsound : Sound state) {id : CallId} {after : Call}
    (hbefore : ∀ timed address, state.call id ≠ .waiting timed address none)
    (hafter : ∀ timed address, after ≠ .waiting timed address none) (other : CallId)
    (address : Nat) :
    state.pendingRead = some ⟨address, other⟩ ↔
      ∃ timed, Function.update state.call id after other = .waiting timed address none := by
  refine (hsound.pending other address).trans ?_
  by_cases hself : other = id
  · subst hself
    simp [hbefore, hafter]
  · simp [hself]

/-- A call that has not been started ends at once without a string. -/
theorem Sound.throws (hsound : Sound state) {id : CallId} {error : Error}
    (hidle : state.call id = .idle) : Sound (state.throws id error) :=
  { hsound with
    logged := hsound.logged.keep (by simp [hidle, Call.value])
    pending := hsound.pending_update (by simp [hidle]) (by simp) }

/-- After the end of the stream a call returns the empty string at once. -/
theorem Sound.returnsEmpty (hsound : Sound state) {id : CallId} (hidle : state.call id = .idle)
    (heof : state.eof = true) : Sound (state.returns id []) :=
  { hsound with
    stream := by simpa [State.returns, State.setCall] using hsound.stream
    logged := hsound.logged.record (by simp [hidle, Call.value]) rfl
    pending := hsound.pending_update (by simp [hidle]) (by simp)
    empty := by
      have hends := hsound.empty.empty
      rw [← heof] at hends
      simpa [State.returns, State.setCall] using hends }

/-- A call that finds nothing registers its record and arms reading. -/
theorem Sound.register (hsound : Sound state) {id : CallId} {timed : Bool} {address : Nat}
    {reading : Bool} (hidle : state.call id = .idle) (hnone : state.pendingRead = none)
    (heof : state.eof = false) (hbuffered : state.bufferedReads = [])
    (hclosed : state.closed = false) :
    Sound { state.setCall id (.waiting timed address none) with
      pendingRead := some ⟨address, id⟩, reading := reading } := by
  refine { hsound with
    logged := hsound.logged.keep (by simp [hidle, Call.value])
    pending := fun other place => ?_
    fresh := fun _ => ⟨heof, hbuffered⟩
    armed := fun _ => .inl (by simp)
    closed := fun hafter => absurd hafter (by simp [State.setCall, hclosed]) }
  by_cases hself : other = id
  · subst hself
    simp [State.setCall]
  · have hother := hsound.pending other place
    simp only [hnone, reduceCtorEq, false_iff, not_exists] at hother
    simp [State.setCall, hself, hother, Ne.symm hself]

theorem Sound.read (hsound : Sound state) {id : CallId} {timed : Bool} {address : Nat} {rc : Int}
    (hidle : state.call id = .idle) : Sound (state.read id timed address rc) := by
  have heffect := read_effect state id timed address rc
  generalize state.read id timed address rc = next at heffect ⊢
  cases heffect with
  | threw error => exact hsound.throws hidle
  | buffered hopen hbuffered =>
      -- Only the callbacks of a closed connection can leave a chunk without a read.
      exact absurd (hsound.buffered (by simp [hbuffered])) (by simp [hopen])
  | ended heof => exact hsound.returnsEmpty hidle heof
  | waits hopen hbuffered heof hnone => exact hsound.register hidle hnone heof hbuffered hopen

end Read

section Callbacks

theorem finishRead_none (state : State) {outcome : Except Error Bytes}
    (hnone : state.pendingRead = none) :
    state.finishRead outcome = state := by
  simp [State.finishRead, hnone]

theorem finishRead_ok (state : State) {id : CallId} {timed : Bool} {address : Nat} {bytes : Bytes}
    (hpending : state.pendingRead = some ⟨address, id⟩)
    (hcall : state.call id = .waiting timed address none) :
    state.finishRead (.ok bytes) =
      { state with
        pendingRead := none
        call := Function.update state.call id (.waiting timed address (some (.ok bytes)))
        log := state.log ++ [(id, bytes)] } := by
  simp [State.finishRead, hpending, State.fulfil, hcall, State.setCall]

theorem finishRead_error (state : State) {id : CallId} {timed : Bool} {address : Nat}
    {error : Error}
    (hpending : state.pendingRead = some ⟨address, id⟩)
    (hcall : state.call id = .waiting timed address none) :
    state.finishRead (.error error) =
      { state with
        pendingRead := none
        call := Function.update state.call id (.waiting timed address (some (.error error))) } := by
  simp [State.finishRead, hpending, State.fulfil, hcall, State.setCall]

/-- When the pending read is taken away, no call is left that waits for its promise. -/
theorem Sound.pending_fulfilled (hsound : Sound state) {id : CallId} {address : Nat} {after : Call}
    (hpending : state.pendingRead = some ⟨address, id⟩)
    (hafter : ∀ timed address, after ≠ .waiting timed address none) (other : CallId) (place : Nat) :
    none = some (PendingRead.mk place other) ↔
      ∃ timed, Function.update state.call id after other = .waiting timed place none := by
  by_cases hself : other = id
  · subst hself
    simp [hafter]
  · have hother := hsound.pending other place
    rw [hpending] at hother
    simpa [hself, Ne.symm hself] using hother

/-- A chunk, or the empty string at the end of the stream, goes to the pending read. -/
theorem Sound.finishOk (hsound : Sound state) {pending : PendingRead} {bytes : Bytes}
    {delivered : List Bytes} {eof : Bool} (hpending : state.pendingRead = some pending)
    (hdelivered : delivered.flatten = state.delivered.flatten ++ bytes)
    (heof : bytes = [] → eof = true) :
    Sound ({ state with reading := false, delivered := delivered, eof := eof }.finishRead
      (.ok bytes)) := by
  obtain ⟨address, id⟩ := pending
  obtain ⟨timed, hcall⟩ := (hsound.pending id address).mp hpending
  obtain ⟨hbefore, hbuffered⟩ := hsound.fresh (by simp [hpending])
  rw [finishRead_ok { state with reading := false, delivered := delivered, eof := eof } hpending
    hcall]
  refine { hsound with
    stream := ?_
    logged := hsound.logged.record (by simp [hcall, Call.value]) rfl
    pending := hsound.pending_fulfilled hpending (by simp)
    fresh := by simp
    armed := by simp
    empty := ?_
    closed := by simp }
  · have hstream := hsound.stream
    simp only [hbuffered, List.flatten_nil, List.append_nil] at hstream
    simp [hbuffered, hdelivered, hstream]
  · have hends := hsound.empty
    simp only [List.map_append, List.map_cons, List.map_nil]
    by_cases hempty : bytes = []
    · rw [hempty, heof hempty]
      exact hends.empty
    · rw [hbefore] at hends
      exact hends.data hempty eof

/-- An error goes to the pending read; reading is disarmed unless the connection is
closed. -/
theorem Sound.finishError (hsound : Sound state) {error : Error} {reading closed closing : Bool}
    (hreading : reading = true → closed = true) (hclosed : state.closed = true → closed = true) :
    Sound ({ state with reading := reading, closed := closed, closing := closing }.finishRead
      (.error error)) := by
  obtain hpending | ⟨⟨address, id⟩, hpending⟩ := Option.eq_none_or_eq_some state.pendingRead
  · rw [finishRead_none { state with reading := reading, closed := closed, closing := closing }
      hpending]
    exact { hsound with
      armed := fun hafter => .inr (hreading hafter)
      buffered := fun hne => hclosed (hsound.buffered hne)
      closed := fun _ => hpending }
  · obtain ⟨timed, hcall⟩ := (hsound.pending id address).mp hpending
    rw [finishRead_error { state with reading := reading, closed := closed, closing := closing }
      hpending hcall]
    exact { hsound with
      logged := hsound.logged.keep (by simp [hcall, Call.value])
      pending := hsound.pending_fulfilled hpending (by simp)
      fresh := by simp
      armed := fun hafter => .inr (hreading hafter)
      buffered := fun hne => hclosed (hsound.buffered hne)
      closed := by simp }

/-- A chunk that no read waits for, which only a closed connection can get. -/
theorem Sound.deliverBuffered (hsound : Sound state) {bytes : Bytes}
    (hpending : state.pendingRead = none) (hclosed : state.closed = true) :
    Sound ({ state with reading := false, delivered := state.delivered ++ [bytes] }.deliver
      bytes) := by
  have hdeliver : { state with reading := false, delivered := state.delivered ++ [bytes] }.deliver
      bytes = { state with
        reading := false
        delivered := state.delivered ++ [bytes]
        bufferedReads := state.bufferedReads ++ [bytes] } := by
    simp [State.deliver, hpending]
  rw [hdeliver]
  exact { hsound with
    stream := by simp [← hsound.stream]
    fresh := fun hafter => absurd hpending hafter
    armed := by simp
    buffered := fun _ => hclosed }

theorem Sound.onConnectionRead (hsound : Sound state) {nread : Int} {bytes : Bytes}
    (hreading : state.reading = true) (hbytes : 0 < nread → bytes.length = nread.toNat) :
    Sound (state.onConnectionRead nread bytes) := by
  obtain hpending | ⟨pending, hpending⟩ := Option.eq_none_or_eq_some state.pendingRead
  · have hclosed : state.closed = true := by
      simpa [hpending] using hsound.armed hreading
    rw [State.onConnectionRead]
    split
    next => exact hsound.deliverBuffered hpending hclosed
    next =>
        split
        next =>
            rw [finishRead_none { state with eof := true, reading := false } hpending]
            -- No read gets the end of the stream; it only lifts the condition on empty strings.
            obtain ⟨data, count, hlog, hdata, -⟩ := hsound.empty
            exact { hsound with
              fresh := fun hafter => absurd hpending hafter
              armed := by simp
              empty := ⟨data, count, hlog, hdata, fun _ => rfl⟩ }
        next =>
            split
            next => exact hsound.finishError (by simp) id
            next => exact hsound
  · rw [State.onConnectionRead]
    split
    next hdata =>
        have hne : bytes ≠ [] := by
          rintro rfl
          have := hbytes hdata
          simp at this
          omega
        have hdeliver :
            { state with reading := false, delivered := state.delivered ++ [bytes] }.deliver bytes =
              { state with
                reading := false
                delivered := state.delivered ++ [bytes] }.finishRead (.ok bytes) := by
          simp [State.deliver, hpending]
        rw [hdeliver]
        exact hsound.finishOk hpending (by simp) (fun hempty => absurd hempty hne)
    next =>
        split
        next => exact hsound.finishOk hpending (by simp) (by simp)
        next =>
            split
            next => exact hsound.finishError (by simp) id
            next => exact hsound

end Callbacks

section Close

theorem Sound.finishClose (hsound : Sound state) : Sound state.finishClose := by
  have hfinished : Sound ({ state with closed := true, closing := false }.finishRead
      (.error closedWhileReading)) :=
    hsound.finishError (fun _ => rfl) (fun _ => rfl)
  exact { hfinished with }

theorem Sound.uvClose (hsound : Sound state) : Sound state.uvClose :=
  { hsound with armed := by simp [State.uvClose] }

theorem Sound.startClose (hsound : Sound state) {promise : Option CloseId} :
    Sound (state.startClose promise) := by
  rw [State.startClose]
  split
  next => exact { hsound with }
  next =>
      have hqueued : Sound { state with closeWaiters := state.closeWaiters ++ promise.toList } :=
        { hsound with }
      split
      next => exact hqueued.finishClose
      next =>
          split
          next => exact hqueued
          next =>
              split
              next => exact { hqueued with }
              next => exact { hqueued.uvClose with }

end Close

section Resume

theorem Sound.resumeRead (hsound : Sound state) {id : CallId} {timed : Bool} {address : Nat}
    {outcome : Except Error Bytes} (hcall : state.call id = .waiting timed address (some outcome)) :
    Sound (state.resumeRead id outcome) := by
  cases outcome with
  | ok bytes =>
      exact { hsound with
        logged := hsound.logged.keep (by simp [hcall, Call.value])
        pending := hsound.pending_update (by simp [hcall]) (by simp) }
  | error error =>
      exact { hsound with
        logged := hsound.logged.keep (by simp [hcall, Call.value])
        pending := hsound.pending_update (by simp [hcall]) (by simp) }

/-- A read whose promise has not been set when its time is up still owns the pending
record, so it disarms reading and takes nothing. -/
theorem Sound.readTimedOut (hsound : Sound state) {id : CallId} {address : Nat}
    (hcall : state.call id = .waiting true address none) :
    Sound (state.readTimedOut id address none) := by
  -- The promise is unset, so this call is the pending one and its record is the one compared.
  have hpending := (hsound.pending id address).mpr ⟨true, hcall⟩
  rw [State.readTimedOut, if_pos (by simp [hpending])]
  exact { hsound with
    logged := hsound.logged.keep (by simp [hcall, Call.value])
    pending := hsound.pending_fulfilled hpending (by simp)
    fresh := by simp
    armed := by simp
    closed := by simp }

theorem Sound.resume (hsound : Sound state) {id : CallId} {expired : Bool}
    (hstep : state.resume id expired = some next) : Sound next := by
  rw [State.resume] at hstep
  split at hstep
  next timed address outcome hcall =>
      obtain rfl := Option.some.inj hstep
      exact hsound.resumeRead hcall
  next address hcall =>
      split at hstep
      next =>
          obtain rfl := Option.some.inj hstep
          exact hsound.readTimedOut hcall
      next => exact absurd hstep (by simp)
  next => exact absurd hstep (by simp)

end Resume

theorem step_sound (state : State) (action : Action) (next : State) (hsound : Sound state)
    (hstep : machine.step state action = some next) : Sound next := by
  cases action with
  | read id timed address rc =>
      simp only [machine, State.step] at hstep
      split at hstep
      next hidle =>
          obtain rfl := Option.some.inj hstep
          exact hsound.read hidle
      next => exact absurd hstep (by simp)
  | resume id expired => exact hsound.resume hstep
  | onConnectionRead nread bytes =>
      simp only [machine, State.step] at hstep
      split at hstep
      next hguard =>
          obtain rfl := Option.some.inj hstep
          exact hsound.onConnectionRead hguard.1 hguard.2
      next => exact absurd hstep (by simp)
  | startClose promise =>
      cases promise with
      | none =>
          obtain rfl := Option.some.inj hstep
          exact hsound.startClose
      | some id =>
          simp only [machine, State.step] at hstep
          split at hstep
          next =>
              obtain rfl := Option.some.inj hstep
              have hwaiting : Sound
                  { state with closer := Function.update state.closer id .waiting } :=
                { hsound with }
              exact hwaiting.startClose
          next => exact absurd hstep (by simp)
  | onConnectionClosed =>
      simp only [machine, State.step] at hstep
      split at hstep
      next =>
          obtain rfl := Option.some.inj hstep
          exact { hsound.finishClose with }
      next => exact absurd hstep (by simp)
  | closeResume id =>
      simp only [machine, State.step] at hstep
      split at hstep
      next =>
          obtain rfl := Option.some.inj hstep
          exact { hsound with }
      next => exact absurd hstep (by simp)
  | endLoop =>
      obtain rfl := Option.some.inj hstep
      exact { hsound with }
  | walk =>
      simp only [machine, State.step] at hstep
      split at hstep
      next => exact absurd hstep (by simp)
      next =>
          split at hstep
          next => exact Option.some.inj hstep ▸ hsound
          next => exact Option.some.inj hstep ▸ hsound.uvClose

/-- After the end of the stream every read of an open connection returns the empty
string, without waiting. -/
theorem Sound.read_eof (hsound : Sound state) (heof : state.eof = true)
    (hopen : state.closed = false) (halive : state.alive = true) (id : CallId) (timed : Bool)
    (address : Nat) (rc : Int) : state.read id timed address rc = state.returns id [] := by
  have hbuffered : state.bufferedReads = [] := by
    by_contra hne
    simp [hsound.buffered hne] at hopen
  simp [State.read, hsound.initialized, hopen, halive, hbuffered, heof]

/-- A read that finds another one pending throws, and nothing but its own result
changes. -/
theorem Sound.read_pending (hsound : Sound state) {pending : PendingRead}
    (hpending : state.pendingRead = some pending) (halive : state.alive = true) (id : CallId)
    (timed : Bool) (address : Nat) (rc : Int) :
    state.read id timed address rc = state.throws id readPending := by
  obtain ⟨heof, hbuffered⟩ := hsound.fresh (by simp [hpending])
  have hopen : state.closed = false := by
    by_contra hclosed
    simp [hsound.closed (by simpa using hclosed)] at hpending
  simp [State.read, hsound.initialized, hopen, halive, hbuffered, heof, hpending]

section EndOfStream

@[simp] theorem finishRead_eof (state : State) (outcome : Except Error Bytes) :
    (state.finishRead outcome).eof = state.eof := by
  unfold State.finishRead State.fulfil
  split
  · rfl
  · dsimp only
    split <;> split <;> rfl

@[simp] theorem startClose_eof (state : State) (promise : Option CloseId) :
    (state.startClose promise).eof = state.eof := by
  unfold State.startClose
  split
  · rfl
  dsimp only
  split
  · exact finishRead_eof _ _
  split
  · rfl
  split <;> rfl

theorem read_keeps_eof (state : State) (id : CallId) (timed : Bool) (address : Nat) (rc : Int) :
    (state.read id timed address rc).eof = state.eof := by
  have heffect := read_effect state id timed address rc
  generalize state.read id timed address rc = next at heffect ⊢
  cases heffect <;> rfl

theorem resume_keeps_eof {id : CallId} {expired : Bool}
    (hresume : state.resume id expired = some next) : next.eof = state.eof := by
  have hread : ∀ id outcome, (state.resumeRead id outcome).eof = state.eof := by
    intro id outcome
    cases outcome <;> rfl
  unfold State.resume at hresume
  split at hresume
  · exact Option.some.inj hresume ▸ hread _ _
  · simp only [Option.ite_none_right_eq_some, Option.some.injEq] at hresume
    obtain ⟨-, rfl⟩ := hresume
    unfold State.readTimedOut
    split
    · rfl
    · rfl
  · cases hresume

/-- Only a `UV_EOF` that libuv delivers sets `eof`. -/
theorem step_eof {action : Action} (hstep : machine.step state action = some next)
    (hbefore : state.eof = false) (hafter : next.eof = true) :
    ∃ bytes, action = .onConnectionRead uvEof bytes := by
  have hkept : next.eof ≠ state.eof := by simp [hbefore, hafter]
  cases action with
  | read id timed address rc =>
      simp only [machine, State.step] at hstep
      split at hstep
      · exact absurd (Option.some.inj hstep ▸ read_keeps_eof ..) hkept
      · cases hstep
  | resume id expired => exact absurd (resume_keeps_eof hstep) hkept
  | onConnectionRead nread bytes =>
      simp only [machine, State.step, Option.ite_none_right_eq_some, Option.some.injEq] at hstep
      obtain ⟨-, rfl⟩ := hstep
      unfold State.onConnectionRead at hkept
      split at hkept
      · refine absurd ?_ hkept
        unfold State.deliver
        split
        · exact finishRead_eof _ _
        · rfl
      split at hkept
      next heof => exact ⟨bytes, by rw [heof]⟩
      split at hkept
      · exact absurd (finishRead_eof _ _) hkept
      · exact absurd rfl hkept
  | startClose promise =>
      cases promise with
      | none => exact absurd (Option.some.inj hstep ▸ startClose_eof ..) hkept
      | some id =>
          simp only [machine, State.step] at hstep
          split at hstep
          · exact absurd (Option.some.inj hstep ▸ startClose_eof ..) hkept
          · cases hstep
  | onConnectionClosed =>
      simp only [machine, State.step, Option.ite_none_right_eq_some, Option.some.injEq] at hstep
      obtain ⟨-, rfl⟩ := hstep
      exact absurd (finishRead_eof _ _) hkept
  | closeResume id =>
      simp only [machine, State.step] at hstep
      split at hstep
      · exact absurd (Option.some.inj hstep ▸ rfl) hkept
      · cases hstep
  | endLoop => exact absurd (Option.some.inj hstep ▸ rfl) hkept
  | walk =>
      simp only [machine, State.step] at hstep
      split at hstep
      · cases hstep
      · split at hstep <;> exact absurd (Option.some.inj hstep ▸ rfl) hkept

theorem delivered_of_eof {run : List Action} (hrun : machine.run run initial = some state)
    (heof : state.eof = true) : ∃ bytes, .onConnectionRead uvEof bytes ∈ run := by
  obtain ⟨before, action, after, middle, later, hsplit, -, hstep, hnot, hset⟩ :=
    Machine.run_crossing (fun state : State => state.eof = true) run initial state (by decide) heof
      hrun
  obtain ⟨bytes, rfl⟩ := step_eof hstep (by simpa using hnot) hset
  exact ⟨bytes, by simp [hsplit]⟩

end EndOfStream

theorem EndsEmpty.eof_of_mem {eof : Bool} {strings : List Bytes} (hends : EndsEmpty eof strings)
    (hempty : [] ∈ strings) : eof = true := by
  obtain ⟨data, count, rfl, hdata, hcount⟩ := hends
  refine hcount (Nat.pos_of_ne_zero fun hzero => ?_)
  rw [hzero, List.replicate_zero, List.append_nil] at hempty
  exact hdata [] hempty rfl

/-- The byte stream of a connection is preserved by every run of reads, timeouts,
callbacks and closes: what the calls have returned, in order, followed by the buffer is
what libuv has delivered, and the calls have returned exactly the strings of the log.
The empty string comes only at the end of the stream, after libuv has delivered a `UV_EOF`,
and from then on every read of an open connection returns it; a read during another one
throws and changes nothing else. -/
theorem reads_preserve_stream (run : List Action) (state : State)
    (hrun : machine.run run initial = some state) :
    (state.log.map Prod.snd).flatten ++ state.bufferedReads.flatten = state.delivered.flatten ∧
      Records (fun id => (state.call id).value) state.log ∧
      EndsEmpty state.eof (state.log.map Prod.snd) ∧
      ([] ∈ state.log.map Prod.snd → ∃ bytes, .onConnectionRead uvEof bytes ∈ run) ∧
      (state.eof = true → state.closed = false → state.alive = true →
        ∀ id timed address rc, state.read id timed address rc = state.returns id []) ∧
      (∀ pending, state.pendingRead = some pending → state.alive = true →
        ∀ id timed address rc,
          state.read id timed address rc = state.throws id readPending) := by
  have hsound : Sound state := Machine.reachable_invariant step_sound sound_initial ⟨run, hrun⟩
  refine ⟨hsound.stream, hsound.logged, hsound.empty, ?_, ?_, ?_⟩
  · exact fun hempty => delivered_of_eof hrun (hsound.empty.eof_of_mem hempty)
  · exact fun heof hopen halive => hsound.read_eof heof hopen halive
  · exact fun pending hpending halive => hsound.read_pending hpending halive

/-- A read that times out, a chunk for the next one, a second read during it, and the
end of the stream. -/
def timedRun : List Action :=
  [.read 0 true 64 0, .resume 0 true, .read 1 false 64 0, .onConnectionRead 0 [],
    .read 2 false 96 0, .onConnectionRead 2 [104, 105], .resume 1 false, .read 3 true 64 0,
    .onConnectionRead uvEof [], .resume 3 true, .read 4 false 64 0]

theorem reads_preserve_stream_timedRun :
    ∃ state, machine.run timedRun initial = some state ∧
      state.log = [(1, [104, 105]), (3, []), (4, [])] ∧
      (state.log.map Prod.snd).flatten ++ state.bufferedReads.flatten =
        state.delivered.flatten :=
  ⟨_, rfl, rfl, (reads_preserve_stream timedRun _ rfl).1⟩

end Fiberuv.Tcp
