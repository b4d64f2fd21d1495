import Fiberuv.Tcp.Connection

/-! # Connections that are being closed

Once a connection has been passed to `start_close` nothing takes that back: the flags it
sets are cleared only when the close is complete.
-/

namespace Fiberuv.Tcp

open Foundation

/-- The connection has been passed to `start_close`. -/
structure State.Released (state : State) : Prop where
  initialized : state.initialized = true
  shut : state.closing = true ∨ state.closed = true

namespace State

variable {state next : State}

@[simp] theorem fulfil_initialized (state : State) (id : CallId) (outcome : Except Error Bytes) :
    (state.fulfil id outcome).initialized = state.initialized := by
  unfold fulfil
  cases outcome <;> cases state.call id <;> rfl

@[simp] theorem fulfil_closing (state : State) (id : CallId) (outcome : Except Error Bytes) :
    (state.fulfil id outcome).closing = state.closing := by
  unfold fulfil
  cases outcome <;> cases state.call id <;> rfl

@[simp] theorem fulfil_closed (state : State) (id : CallId) (outcome : Except Error Bytes) :
    (state.fulfil id outcome).closed = state.closed := by
  unfold fulfil
  cases outcome <;> cases state.call id <;> rfl

@[simp] theorem finishRead_initialized (state : State) (outcome : Except Error Bytes) :
    (state.finishRead outcome).initialized = state.initialized := by
  unfold finishRead
  cases state.pendingRead <;> simp

@[simp] theorem finishRead_closing (state : State) (outcome : Except Error Bytes) :
    (state.finishRead outcome).closing = state.closing := by
  unfold finishRead
  cases state.pendingRead <;> simp

@[simp] theorem finishRead_closed (state : State) (outcome : Except Error Bytes) :
    (state.finishRead outcome).closed = state.closed := by
  unfold finishRead
  cases state.pendingRead <;> simp

@[simp] theorem finishClose_initialized (state : State) :
    state.finishClose.initialized = state.initialized := by
  simp [finishClose, signal]

@[simp] theorem finishClose_closed (state : State) : state.finishClose.closed = true := by
  simp [finishClose, signal]

theorem startClose_initialized (state : State) (promise : Option CloseId) :
    (state.startClose promise).initialized = state.initialized := by
  unfold startClose
  split
  · rfl
  split
  · simp
  split
  · rfl
  split <;> rfl

theorem released_of_startClose (hinitialized : state.initialized = true)
    (promise : Option CloseId) : (state.startClose promise).Released := by
  refine ⟨(startClose_initialized state promise).trans hinitialized, ?_⟩
  unfold startClose
  split
  next hdone =>
    have hclosed : state.closed = true := by simpa [hinitialized] using hdone
    exact .inr hclosed
  split
  · exact .inr (by simp)
  split
  next hclosing => exact .inl hclosing
  split
  · exact .inl rfl
  · exact .inl rfl

/-- What the operations other than closing leave alone. -/
def SameFlags (state next : State) : Prop :=
  next.initialized = state.initialized ∧ next.closing = state.closing ∧
    next.closed = state.closed

theorem read_sameFlags (state : State) (id : CallId) (timed : Bool) (address : Nat) (rc : Int) :
    SameFlags state (state.read id timed address rc) := by
  have heffect := read_effect state id timed address rc
  generalize state.read id timed address rc = next at heffect ⊢
  cases heffect with
  | threw error => exact ⟨rfl, rfl, rfl⟩
  | buffered hopen hbuffered => exact ⟨rfl, rfl, rfl⟩
  | ended heof => exact ⟨rfl, rfl, rfl⟩
  | waits hopen hbuffered heof hnone => exact ⟨rfl, rfl, rfl⟩

theorem onConnectionRead_sameFlags (state : State) (nread : Int) (bytes : Bytes) :
    SameFlags state (state.onConnectionRead nread bytes) := by
  unfold onConnectionRead deliver
  split
  · split <;> simp [SameFlags]
  split
  · simp [SameFlags]
  split <;> simp [SameFlags]

theorem resumeRead_sameFlags (state : State) (id : CallId) (outcome : Except Error Bytes) :
    SameFlags state (state.resumeRead id outcome) := by
  cases outcome <;> exact ⟨rfl, rfl, rfl⟩

theorem resume_sameFlags {id : CallId} {expired : Bool}
    (hresume : state.resume id expired = some next) : SameFlags state next := by
  unfold resume at hresume
  split at hresume
  · cases hresume
    exact resumeRead_sameFlags state id _
  · simp only [Option.ite_none_right_eq_some, Option.some.injEq] at hresume
    obtain ⟨-, rfl⟩ := hresume
    unfold readTimedOut
    split <;> exact ⟨rfl, rfl, rfl⟩
  · cases hresume

theorem SameFlags.released (hsame : SameFlags state next) (hreleased : state.Released) :
    next.Released :=
  ⟨hsame.1.trans hreleased.initialized, by rw [hsame.2.1, hsame.2.2]; exact hreleased.shut⟩

/-- A connection stays initialised and, once released, it stays released. -/
theorem step_released {action : Action} (hstep : state.step action = some next) :
    next.initialized = state.initialized ∧ (state.Released → next.Released) := by
  have hsame : SameFlags state next →
      next.initialized = state.initialized ∧ (state.Released → next.Released) :=
    fun hsame => ⟨hsame.1, hsame.released⟩
  cases action with
  | read id timed address rc =>
      simp only [step] at hstep
      split at hstep
      · cases hstep
        exact hsame (read_sameFlags state id timed address rc)
      · cases hstep
  | resume id expired => exact hsame (resume_sameFlags hstep)
  | onConnectionRead nread bytes =>
      simp only [step, Option.ite_none_right_eq_some, Option.some.injEq] at hstep
      obtain ⟨-, rfl⟩ := hstep
      exact hsame (onConnectionRead_sameFlags state nread bytes)
  | startClose promise =>
      cases promise with
      | none =>
          cases hstep
          exact ⟨startClose_initialized state none,
            fun hreleased => released_of_startClose hreleased.initialized none⟩
      | some id =>
          simp only [step] at hstep
          split at hstep
          · cases hstep
            refine ⟨startClose_initialized _ _, fun hreleased => released_of_startClose ?_ _⟩
            exact hreleased.initialized
          · cases hstep
  | onConnectionClosed =>
      simp only [step, Option.ite_none_right_eq_some, Option.some.injEq] at hstep
      obtain ⟨-, rfl⟩ := hstep
      exact ⟨finishClose_initialized state, fun hreleased =>
        ⟨(finishClose_initialized state).trans hreleased.initialized, .inr (by simp)⟩⟩
  | closeResume id =>
      simp only [step] at hstep
      split at hstep
      · cases hstep
        exact hsame ⟨rfl, rfl, rfl⟩
      · cases hstep
  | endLoop =>
      cases hstep
      exact hsame ⟨rfl, rfl, rfl⟩
  | walk =>
      simp only [step] at hstep
      split at hstep
      · cases hstep
      split at hstep <;> cases hstep <;> exact hsame ⟨rfl, rfl, rfl⟩

end State

end Fiberuv.Tcp
