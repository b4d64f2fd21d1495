import Fiberuv.FileIo.Chain

/-! # The chains end cleanly

Until the state is deleted exactly one request is pending, and no request is pending
afterwards. Every function is given a state without a pending request and either submits
one or finalizes, so nothing is freed twice, used after it was freed, or closed twice.
-/

namespace Fiberuv.FileIo

open Foundation

variable {Work Value : Type} {chain : Chain Work Value} {state next : State Work Value}

/-- A state that has not been deleted, with these requests pending and this many calls of
`uv_fs_close`. -/
structure Live (state : State Work Value) (pending : List Request) (closeCalls : Nat) :
    Prop where
  called : state.called = true
  thrown : state.thrown = none
  pending : state.pending = pending
  promise : state.promise = none
  promiseSets : state.promiseSets = 0
  frees : state.frees = 0
  fault : state.fault = false
  file : 0 ≤ state.file ↔ state.opened = true
  closeCalls : state.closeCalls = closeCalls
  error : state.error = state.errors.head?

/-- What the promise is set to, given the errors that occurred. -/
def Chain.report (chain : Chain Work Value) (work : Work) : List Error → Except Error Value
  | [] => .ok (chain.value work)
  | error :: _ => .error error

/-- A state whose promise has been set and that has been deleted. -/
structure Finished (chain : Chain Work Value) (state : State Work Value) : Prop where
  called : state.called = true
  thrown : state.thrown = none
  pending : state.pending = []
  promise : state.promise = some (chain.report state.work state.errors)
  promiseSets : state.promiseSets = 1
  frees : state.frees = 1
  fault : state.fault = false
  closeCalls : state.closeCalls = if state.opened then 1 else 0

/-- A call that threw because the open request did not start. -/
structure Refused (state : State Work Value) (error : Error) : Prop where
  called : state.called = true
  thrown : state.thrown = some error
  pending : state.pending = []
  promise : state.promise = none
  promiseSets : state.promiseSets = 0
  frees : state.frees = 1
  fault : state.fault = false
  opened : state.opened = false
  closeCalls : state.closeCalls = 0
  errors : state.errors = [error]

/-- Where a chain can be. -/
inductive Stage (chain : Chain Work Value) (state : State Work Value) : Prop where
  | created (work : Work) (hstate : state = { work := work })
  | refused (error : Error) (hrefused : Refused state error)
  | opening (hlive : Live state [.opening] 0) (hopened : state.opened = false)
      (herrors : state.errors = [])
  | transfer (hlive : Live state [.transfer] 0) (hopened : state.opened = true)
      (herrors : state.errors = [])
  | closing (hlive : Live state [.closing] 1) (hopened : state.opened = true)
  | finished (hfinished : Finished chain state)

theorem Live.use {pending : List Request} {closeCalls : Nat}
    (hlive : Live state pending closeCalls) : state.use = state := by
  simp [State.use, hlive.frees]

theorem Live.finalize {closeCalls : Nat} (hlive : Live state [] closeCalls)
    (hcloses : closeCalls = if state.opened then 1 else 0) :
    Finished chain (state.finalize chain) := by
  unfold State.finalize
  rw [hlive.use]
  refine ⟨hlive.called, hlive.thrown, hlive.pending, ?_, ?_, ?_, hlive.fault,
    hlive.closeCalls.trans hcloses⟩
  · have herror := hlive.error
    cases herrors : state.errors with
    | nil => simp [herror, herrors, Chain.report]
    | cons error rest => simp [herror, herrors, Chain.report]
  · simp [hlive.promiseSets]
  · simp [hlive.frees]

/-- A further error does not replace the first one. -/
theorem Live.failFirst {closeCalls : Nat} (hlive : Live state [] closeCalls) (error : Error) :
    Live (state.failFirst error) [] closeCalls := by
  refine { hlive with error := ?_ }
  have herror := hlive.error
  cases herrors : state.errors with
  | nil => simp [State.failFirst, herror, herrors]
  | cons first rest => simp [State.failFirst, herror, herrors]

theorem Live.fail {pending : List Request} {closeCalls : Nat}
    (hlive : Live state pending closeCalls) (herrors : state.errors = []) (error : Error) :
    Live (state.fail error) pending closeCalls :=
  { hlive with error := by simp [State.fail, herrors] }

theorem Live.onClose (hlive : Live state [] 1) (hopened : state.opened = true) (result : Int) :
    Finished chain (state.onClose chain result) := by
  unfold State.onClose
  rw [hlive.use]
  dsimp only
  split
  · exact (hlive.failFirst _).finalize (by simp [State.failFirst, hopened])
  · exact hlive.finalize (by simp [hopened])

/-- `close_read_file` and `close_write_file` finalize or submit the close request. -/
theorem Live.closeFile (hlive : Live state [] 0) (rc : Int) :
    Stage chain (state.closeFile chain rc) := by
  unfold State.closeFile
  rw [hlive.use]
  dsimp only
  split
  next hfile =>
    have hopened : state.opened = false := by
      by_contra hnot
      have hpositive := hlive.file.mpr (by simpa using hnot)
      omega
    exact .finished (hlive.finalize (by simp [hopened]))
  next hfile =>
    have hopened : state.opened = true := hlive.file.mp (by omega)
    have hcalled : Live { state with closeCalls := state.closeCalls + 1 } [] 1 :=
      { hlive with closeCalls := by simp [hlive.closeCalls] }
    split
    · exact .finished ((hcalled.failFirst _).finalize (by simp [State.failFirst, hopened]))
    · exact .closing { hcalled with pending := by simp [State.submit, hlive.pending] } hopened

/-- `read_next_chunk` and `write_next_chunk`. -/
theorem Live.nextChunk (hlive : Live state [] 0) (hopened : state.opened = true)
    (herrors : state.errors = []) (starts : Starts) :
    Stage chain (state.nextChunk chain starts) := by
  unfold State.nextChunk
  rw [hlive.use]
  dsimp only
  split
  · exact hlive.closeFile starts.close
  split
  · exact (hlive.fail herrors _).closeFile starts.close
  · exact .transfer { hlive with pending := by simp [State.submit, hlive.pending] } hopened herrors

theorem Live.onTransfer (hlive : Live state [] 0) (hopened : state.opened = true)
    (herrors : state.errors = []) (result : Int) (buffer : Bytes) (starts : Starts) :
    Stage chain (state.onTransfer chain result buffer starts) := by
  unfold State.onTransfer
  rw [hlive.use]
  dsimp only
  split
  · have hadvanced : Live { state with
        work := chain.advance state.work result.toNat buffer } [] 0 := { hlive with }
    exact hadvanced.nextChunk hopened herrors starts
  split
  · exact hlive.closeFile starts.close
  · exact (hlive.fail herrors _).closeFile starts.close

theorem Live.onOpen (hlive : Live state [] 0) (herrors : state.errors = []) (result : Int)
    (starts : Starts) : Stage chain (state.onOpen chain result starts) := by
  unfold State.onOpen
  rw [hlive.use]
  dsimp only
  split
  · exact (hlive.fail herrors _).closeFile starts.close
  next hresult =>
    have hopened : Live { state with file := asInt result, opened := true } [] 0 :=
      { hlive with file := by simpa using hresult }
    exact hopened.nextChunk rfl herrors starts

theorem stage_call (chain : Chain Work Value) (work : Work) (rc : Int) :
    Stage chain (State.call chain { work := work } rc) := by
  unfold State.call
  split
  · exact .refused _ ⟨rfl, rfl, rfl, rfl, rfl, rfl, rfl, rfl, rfl, rfl⟩
  · exact .opening ⟨rfl, rfl, rfl, rfl, rfl, rfl, rfl, by simp [State.submit], rfl, rfl⟩ rfl rfl

/-- A pending request tells the stage. -/
theorem Stage.of_pending (hstage : Stage chain state) {request : Request}
    (hmem : request ∈ state.pending) :
    match request with
    | .opening => Live state [.opening] 0 ∧ state.errors = []
    | .transfer => Live state [.transfer] 0 ∧ state.opened = true ∧ state.errors = []
    | .closing => Live state [.closing] 1 ∧ state.opened = true := by
  cases hstage with
  | created work hstate => simp [hstate] at hmem
  | refused error hrefused => simp [hrefused.pending] at hmem
  | opening hlive hopened herrors =>
      obtain rfl : request = .opening := by simpa [hlive.pending] using hmem
      exact ⟨hlive, herrors⟩
  | transfer hlive hopened herrors =>
      obtain rfl : request = .transfer := by simpa [hlive.pending] using hmem
      exact ⟨hlive, hopened, herrors⟩
  | closing hlive hopened =>
      obtain rfl : request = .closing := by simpa [hlive.pending] using hmem
      exact ⟨hlive, hopened⟩
  | finished hfinished => simp [hfinished.pending] at hmem

/-- A call that has not been made has left no trace. -/
theorem Stage.of_uncalled (hstage : Stage chain state) (hfresh : ¬ state.called = true) :
    ∃ work, state = { work := work } := by
  cases hstage with
  | created work hstate => exact ⟨work, hstate⟩
  | refused error hrefused => exact absurd hrefused.called hfresh
  | opening hlive => exact absurd hlive.called hfresh
  | transfer hlive => exact absurd hlive.called hfresh
  | closing hlive => exact absurd hlive.called hfresh
  | finished hfinished => exact absurd hfinished.called hfresh

theorem Live.callback {request : Request} {closeCalls : Nat}
    (hlive : Live state [request] closeCalls) :
    Live { state with pending := state.pending.erase request } [] closeCalls :=
  { hlive with pending := by simp [hlive.pending] }

theorem Stage.step {action : Action} (hstage : Stage chain state)
    (hstep : chain.machine.step state action = some next) : Stage chain next := by
  cases action with
  | call rc =>
      simp only [Chain.machine, State.step] at hstep
      split at hstep
      · cases hstep
      next hfresh =>
        cases hstep
        obtain ⟨work, rfl⟩ := hstage.of_uncalled hfresh
        exact stage_call chain work rc
  | onOpen result starts =>
      simp only [Chain.machine, State.step, State.callback, Option.ite_none_right_eq_some,
        Option.some.injEq] at hstep
      obtain ⟨hmem, rfl⟩ := hstep
      obtain ⟨hlive, herrors⟩ := hstage.of_pending hmem
      exact hlive.callback.onOpen herrors result starts
  | onTransfer result buffer starts =>
      simp only [Chain.machine, State.step, State.callback, Option.ite_none_right_eq_some,
        Option.some.injEq] at hstep
      obtain ⟨hmem, rfl⟩ := hstep
      obtain ⟨hlive, hopened, herrors⟩ := hstage.of_pending hmem
      exact hlive.callback.onTransfer hopened herrors result buffer starts
  | onClose result =>
      simp only [Chain.machine, State.step, State.callback, Option.ite_none_right_eq_some,
        Option.some.injEq] at hstep
      obtain ⟨hmem, rfl⟩ := hstep
      obtain ⟨hlive, hopened⟩ := hstage.of_pending hmem
      exact .finished (hlive.callback.onClose hopened result)

theorem stage_of_run {labels : List Action} {work : Work}
    (hrun : chain.machine.run labels { work := work } = some state) : Stage chain state :=
  Machine.reachable_invariant (fun _ _ _ hstage hstep => hstage.step hstep)
    (Stage.created work rfl) ⟨labels, hrun⟩

/-- The call has been made and libuv owes no callback. -/
def State.Ended (state : State Work Value) : Prop :=
  state.called = true ∧ state.pending = []

/-- What is left of a chain that has ended. -/
structure EndsCleanly (chain : Chain Work Value) (state : State Work Value) : Prop where
  freed : state.frees = 1
  /-- The deleted state has not been used and nothing can happen to it any more. -/
  unused : state.fault = false ∧ ∀ action, chain.machine.step state action = none
  /-- The call threw without setting the promise, or the promise was set once, to the first
  error that occurred if there was one. -/
  reported : (∃ error, state.thrown = some error ∧ state.errors = [error] ∧
      state.promiseSets = 0 ∧ state.promise = none) ∨
    state.thrown = none ∧ state.promiseSets = 1 ∧
      state.promise = some (chain.report state.work state.errors)
  closed : state.closeCalls = if state.opened then 1 else 0

theorem State.Ended.step (hended : state.Ended) (action : Action) :
    chain.machine.step state action = none := by
  cases action with
  | call rc => simp [Chain.machine, State.step, hended.1]
  | onOpen result starts => simp [Chain.machine, State.step, State.callback, hended.2]
  | onTransfer result buffer starts => simp [Chain.machine, State.step, State.callback, hended.2]
  | onClose result => simp [Chain.machine, State.step, State.callback, hended.2]

theorem Stage.endsCleanly (hstage : Stage chain state) (hended : state.Ended) :
    EndsCleanly chain state := by
  have hpending := hended.2
  cases hstage with
  | created work hstate =>
      have hcalled := hended.1
      simp [hstate] at hcalled
  | refused error hrefused =>
      refine ⟨hrefused.frees, ⟨hrefused.fault, hended.step⟩, Or.inl ⟨error, hrefused.thrown,
        hrefused.errors, hrefused.promiseSets, hrefused.promise⟩, ?_⟩
      simp [hrefused.closeCalls, hrefused.opened]
  | opening hlive => simp [hlive.pending] at hpending
  | transfer hlive => simp [hlive.pending] at hpending
  | closing hlive => simp [hlive.pending] at hpending
  | finished hfinished =>
      exact ⟨hfinished.frees, ⟨hfinished.fault, hended.step⟩, Or.inr ⟨hfinished.thrown,
        hfinished.promiseSets, hfinished.promise⟩, hfinished.closeCalls⟩

/-- Whatever the open, transfer and close requests return, at submission or completion, a
chain of `read_file` or `write_file` that ends does so cleanly. -/
theorem file_chains_end_cleanly :
    (∀ labels final, readMachine.run labels readInitial = some final → final.Ended →
        EndsCleanly reading final) ∧
      ∀ data append labels final, writeMachine.run labels (writeInitial data append) = some final →
        final.Ended → EndsCleanly writing final := by
  rw [readMachine_eq, writeMachine_eq]
  exact ⟨fun labels final hrun => (stage_of_run hrun).endsCleanly,
    fun data append labels final hrun => (stage_of_run hrun).endsCleanly⟩

/-- A read fails after a first chunk, and so does the close. -/
def failedRead : List Action :=
  [.call 0, .onOpen 3 ⟨0, 0⟩, .onTransfer 2 [104, 105] ⟨0, 0⟩, .onTransfer (-5) [] ⟨0, 0⟩,
    .onClose (-9)]

/-- The second write request does not start, and neither does the close request. -/
def failedWrite : List Action :=
  [.call 0, .onOpen 3 ⟨0, 0⟩, .onTransfer 1 [] ⟨-12, -9⟩]

theorem file_chains_end_cleanly_failed :
    (∃ final, readMachine.run failedRead readInitial = some final ∧
        final.promise = some (.error (.uv "uv_fs_read" (-5))) ∧ EndsCleanly reading final) ∧
      ∃ final, writeMachine.run failedWrite (writeInitial [104, 105] false) = some final ∧
        final.promise = some (.error (.uv "uv_fs_write(start)" (-12))) ∧
        EndsCleanly writing final := by
  refine ⟨⟨_, rfl, rfl, ?_⟩, _, rfl, rfl, ?_⟩
  · exact file_chains_end_cleanly.1 failedRead _ rfl ⟨rfl, rfl⟩
  · exact file_chains_end_cleanly.2 [104, 105] false failedWrite _ rfl ⟨rfl, rfl⟩

end Fiberuv.FileIo
