import Fiberuv.Io.Names

/-! # Operations on names, one at a time

Whatever the order in which the kernel serves their requests, the operations answer as if
each had the file system for itself at one moment between its call and its return.
-/

namespace Fiberuv.Io.Names

open Foundation Foundation.Linearizing
open EventLoop (uvEexist uvEnoent)

variable {Disk : Type}

abbrev History := List (Event CallId Operation (Except Error Bool))

/-- The answer to a request with this result. -/
def Operation.answer : Operation → Int → Except Error Bool
  | createDirectory _ _, result => Names.createDirectory result
  | removeDirectory _, result => Names.removeDirectory result
  | createFile _ _, result => (onFsOpen result).map fun _ => true
  | removeFile _, result => Names.removeFile result

/-- What an operation does that has the file system for itself. -/
inductive Serves (kernel : Kernel Disk) :
    Disk → Operation → Except Error Bool → Disk → Prop where
  /-- libuv does not take the request. -/
  | refused (disk : Disk) (op : Operation) {rc : Int} (hrc : rc < 0) :
      Serves kernel disk op (.error (.uv op.request.startSite rc)) disk
  | served {disk next : Disk} {op : Operation} {result : Int}
      (hserves : kernel.serves disk op.request result next = true) :
      Serves kernel disk op (op.answer result) next
  /-- The file is there, but its descriptor has not been closed in good order. -/
  | unclosed {disk next : Disk} {path : Path} {truncate : Bool} {fd code : Int} {site : String}
      (hserves : kernel.serves disk (Operation.createFile path truncate).request fd next = true)
      (hfd : 0 ≤ fd) (hsite : site = "uv_fs_close(start)" ∨ site = "uv_fs_close")
      (hcode : code < 0) :
      Serves kernel disk (.createFile path truncate) (.error (.uv site code)) next

/-- What a call asks for when this is its first step. -/
def Action.request : Action Disk → Option Operation
  | .call _ op _ => some op
  | _ => none

/-- The return of a call that has come to this position. -/
def Call.ending (id : CallId) : Call → History
  | .returned answer => [.returned id answer]
  | .unclosed _ code => [.returned id (.error (.uv "uv_fs_close(start)" code))]
  | _ => []

/-- What the callers see of a step. -/
def State.seen (kernel : Kernel Disk) (state : State Disk) (action : Action Disk) : History :=
  (action.request.map (.invoked action.id)).toList ++
    match state.step kernel action with
    | some next => (next.call action.id).ending action.id
    | none => []

/-- What the callers see along a run. -/
def history (kernel : Kernel Disk) (actions : List (Action Disk)) (start : State Disk) : History :=
  (machine kernel).trace (State.seen kernel) actions start

/-- How far a call at this position is, seen from the file system. -/
def Call.Fits (stage : Stage Operation (Except Error Bool)) : Call → Prop
  | .idle => stage = .absent
  | .naming op none => stage = .invoked op
  | .naming op (some result) => stage = .served op (op.answer result)
  | .named op promise => ∃ result, promise = op.callback result ∧
      stage = .served op (op.answer result)
  | .closing path truncate _ _ => stage = .served (.createFile path truncate) (.ok true)
  | .closed path truncate promise => stage = .served (.createFile path truncate) (.ok true) ∧
      ∃ result, promise = onFsClose result
  | .returned _ => stage = .returned
  | .unclosed _ _ => stage = .returned

/-- The file system goes with an account of the history. -/
structure Sound (kernel : Kernel Disk) (disk : Disk) (state : State Disk) (history : History)
    (order : List (Served CallId Operation (Except Error Bool)))
    (stage : CallId → Stage Operation (Except Error Bool)) : Prop where
  account : Account (Serves kernel) disk history order stage state.disk
  fits : ∀ id, (state.call id).Fits (stage id)

def Accounted (kernel : Kernel Disk) (disk : Disk) (history : History) (state : State Disk) :
    Prop :=
  ∃ order stage, Sound kernel disk state history order stage

theorem onFsOpen_eq_ok {result fd : Int} (hopen : onFsOpen result = .ok fd) :
    result = fd ∧ 0 ≤ fd := by
  unfold onFsOpen at hopen
  split at hopen
  next => cases hopen
  next hnonneg =>
    obtain rfl := Except.ok.inj hopen
    exact ⟨rfl, Int.not_lt.mp hnonneg⟩

theorem onFsClose_eq_error {result : Int} {error : Error}
    (hclose : onFsClose result = .error error) : error = .uv "uv_fs_close" result ∧ result < 0 := by
  unfold onFsClose at hclose
  split at hclose
  next hneg => exact ⟨(Except.error.inj hclose).symm, hneg⟩
  next => cases hclose

/-- The exception of a callback is the answer to the request. -/
theorem Operation.answer_of_callback_error {op : Operation} {result : Int} {error : Error}
    (hcallback : .error error = op.callback result) : op.answer result = .error error := by
  cases op with
  | createFile path truncate =>
      have hopen : onFsOpen result = .error error := hcallback.symm
      rw [Operation.answer, hopen]
      rfl
  | createDirectory path mode => cases hcallback
  | removeDirectory path => cases hcallback
  | removeFile path => cases hcallback

/-- An operation that does not throw has been served by the kernel. -/
theorem Serves.kernel_of_ok {kernel : Kernel Disk} {disk next : Disk} {op : Operation}
    {value : Bool} (hserves : Serves kernel disk op (.ok value) next) :
    ∃ result, kernel.serves disk op.request result next = true ∧ op.answer result = .ok value := by
  generalize hanswer : Except.ok value = answer at hserves
  cases hserves with
  | refused => cases hanswer
  | unclosed => cases hanswer
  | @served _ _ result hkernel => exact ⟨result, hkernel, rfl⟩

/-- An operation that has changed the file system has been served by the kernel. -/
theorem Serves.kernel_of_ne {kernel : Kernel Disk} {disk next : Disk} {op : Operation}
    {answer : Except Error Bool} (hserves : Serves kernel disk op answer next)
    (hne : next ≠ disk) : ∃ result, kernel.serves disk op.request result next = true ∧
      (answer = op.answer result ∨ ∃ path truncate, op = .createFile path truncate) := by
  cases hserves with
  | refused => exact absurd rfl hne
  | @served _ _ result hkernel => exact ⟨result, hkernel, .inl rfl⟩
  | @unclosed _ path truncate fd _ _ hkernel =>
      exact ⟨fd, hkernel, .inr ⟨path, truncate, rfl⟩⟩

/-- A file that was made can also be reported with a failure to close it. -/
theorem Serves.unclosed_of_ok {kernel : Kernel Disk} {disk next : Disk} {path : Path}
    {truncate : Bool} {site : String} {code : Int}
    (hserves : Serves kernel disk (.createFile path truncate) (.ok true) next)
    (hsite : site = "uv_fs_close(start)" ∨ site = "uv_fs_close") (hcode : code < 0) :
    Serves kernel disk (.createFile path truncate) (.error (.uv site code)) next := by
  obtain ⟨result, hkernel, hanswer⟩ := hserves.kernel_of_ok
  cases hopen : onFsOpen result with
  | error error =>
      rw [Operation.answer, hopen] at hanswer
      cases hanswer
  | ok fd =>
      obtain ⟨rfl, hfd⟩ := onFsOpen_eq_ok hopen
      exact .unclosed hkernel hfd hsite hcode

section Steps

variable {kernel : Kernel Disk} {disk : Disk} {state base : State Disk} {history later : History}
  {order newOrder : List (Served CallId Operation (Except Error Bool))}
  {stage : CallId → Stage Operation (Except Error Bool)}

@[simp] theorem State.setCall_call_self (state : State Disk) (id : CallId) (call : Call) :
    (state.setCall id call).call id = call := by
  simp [State.setCall]

theorem State.setCall_call_of_ne {id other : CallId} (hne : other ≠ id) (state : State Disk)
    (call : Call) : (state.setCall id call).call other = state.call other := by
  simp [State.setCall, hne]

@[simp] theorem State.setCall_disk (state : State Disk) (id : CallId) (call : Call) :
    (state.setCall id call).disk = state.disk := rfl

theorem Sound.standing (hsound : Sound kernel disk state history order stage) {id : CallId}
    {call : Call} (hcall : state.call id = call) : call.Fits (stage id) :=
  hcall ▸ hsound.fits id

/-- One call moves, and nothing changes for the others. -/
theorem Sound.own (hsound : Sound kernel disk state history order stage) {id : CallId} {call : Call}
    {newStage : Stage Operation (Except Error Bool)}
    (haccount : Account (Serves kernel) disk later newOrder (Function.update stage id newStage)
      base.disk)
    (hfits : call.Fits newStage) (hcalls : base.call = state.call) :
    Accounted kernel disk later (base.setCall id call) := by
  refine ⟨newOrder, _, haccount, fun other => ?_⟩
  obtain rfl | hne := eq_or_ne other id
  · rw [State.setCall_call_self, Function.update_self]
    exact hfits
  · rw [State.setCall_call_of_ne hne, Function.update_of_ne hne, hcalls]
    exact hsound.fits other

/-- A call moves that has been served or not, and stays it. -/
theorem Sound.moves (hsound : Sound kernel disk state history order stage) {id : CallId}
    {call : Call} (hfits : call.Fits (stage id)) (hending : call.ending id = [])
    (hcalls : base.call = state.call) (hdisk : base.disk = state.disk) :
    Accounted kernel disk (history ++ ((base.setCall id call).call id).ending id)
      (base.setCall id call) := by
  have haccount : Account (Serves kernel) disk history order
      (Function.update stage id (stage id)) base.disk := by
    rw [Function.update_eq_self, hdisk]
    exact hsound.account
  rw [State.setCall_call_self, hending, List.append_nil]
  exact hsound.own haccount hfits hcalls

/-- A call that has been served returns. -/
theorem Sound.returns (hsound : Sound kernel disk state history order stage) {id : CallId}
    {op : Operation} {answer : Except Error Bool} (hstage : stage id = .served op answer)
    (hcalls : base.call = state.call) (hdisk : base.disk = state.disk) :
    Accounted kernel disk
      (history ++ ((base.setCall id (.returned answer)).call id).ending id)
      (base.setCall id (.returned answer)) := by
  have hreturned := hsound.account.finish hstage
  rw [← hdisk] at hreturned
  rw [State.setCall_call_self]
  exact hsound.own hreturned rfl hcalls

/-- `create_file` returns with the error of the closing. -/
theorem Sound.returnsUnclosed (hsound : Sound kernel disk state history order stage) {id : CallId}
    {path : Path} {truncate : Bool}
    (hstage : stage id = .served (.createFile path truncate) (.ok true)) {call : Call}
    {site : String} {code : Int} (hfits : call.Fits .returned)
    (hending : call.ending id = [.returned id (.error (.uv site code))])
    (hsite : site = "uv_fs_close(start)" ∨ site = "uv_fs_close") (hcode : code < 0)
    (hcalls : base.call = state.call) (hdisk : base.disk = state.disk) :
    Accounted kernel disk (history ++ ((base.setCall id call).call id).ending id)
      (base.setCall id call) := by
  obtain ⟨amended, haccount⟩ := hsound.account.amend hstage
    (fun _ _ hserves => Serves.unclosed_of_ok hserves hsite hcode)
  have hreturned := haccount.finish (Function.update_self id _ stage)
  rw [Function.update_idem, ← hdisk] at hreturned
  rw [State.setCall_call_self, hending]
  exact hsound.own hreturned hfits hcalls

theorem Sound.start (hsound : Sound kernel disk state history order stage) {id : CallId}
    (hidle : state.call id = .idle) (op : Operation) (rc : Int) :
    Accounted kernel disk
      (history ++ [.invoked id op] ++ ((state.start id op rc).call id).ending id)
      (state.start id op rc) := by
  have hbegun := hsound.account.invoke (hsound.standing hidle) op
  unfold State.start
  split
  next hrc =>
    have hreturned := hbegun.answer (Function.update_self id _ stage) (.refused state.disk op hrc)
    rw [Function.update_idem] at hreturned
    rw [State.setCall_call_self]
    exact hsound.own hreturned rfl rfl
  next =>
    rw [State.setCall_call_self]
    have hopen : Call.ending id (.naming op none) = [] := rfl
    rw [hopen, List.append_nil]
    exact hsound.own hbegun rfl rfl

/-- The moment at which an operation takes effect. -/
theorem Sound.serveName (hsound : Sound kernel disk state history order stage) {id : CallId}
    {op : Operation} (hcall : state.call id = .naming op none) {result : Int} {served : Disk}
    {next : State Disk} (hserve : state.serveName kernel id op result served = some next) :
    Accounted kernel disk (history ++ (next.call id).ending id) next := by
  unfold State.serveName at hserve
  split at hserve
  next hcan =>
    obtain rfl := Option.some.inj hserve
    rw [State.setCall_call_self]
    have hopen : Call.ending id (.naming op (some result)) = [] := rfl
    rw [hopen, List.append_nil]
    exact hsound.own (hsound.account.serve (hsound.standing hcall) (.served hcan.1)) rfl rfl
  next => cases hserve

theorem Sound.goOn (hsound : Sound kernel disk state history order stage) {id : CallId}
    {op : Operation} {value : Int} (hcall : state.call id = .named op (.ok value)) (rc : Int) :
    Accounted kernel disk (history ++ ((state.goOn id op value rc).call id).ending id)
      (state.goOn id op value rc) := by
  obtain ⟨result, hcallback, hstage⟩ := hsound.standing hcall
  cases op with
  | createDirectory path mode =>
      obtain rfl : value = result := Except.ok.inj hcallback
      exact hsound.returns hstage rfl rfl
  | removeDirectory path =>
      obtain rfl : value = result := Except.ok.inj hcallback
      exact hsound.returns hstage rfl rfl
  | removeFile path =>
      obtain rfl : value = result := Except.ok.inj hcallback
      exact hsound.returns hstage rfl rfl
  | createFile path truncate =>
      have hopen : onFsOpen result = .ok value := hcallback.symm
      have hserved : stage id = .served (.createFile path truncate) (.ok true) := by
        rw [hstage, Operation.answer, hopen]
        rfl
      simp only [State.goOn, State.fsClose]
      split
      next hrc => exact hsound.returnsUnclosed hserved rfl rfl (.inl rfl) hrc rfl rfl
      next => exact hsound.moves hserved rfl rfl rfl

theorem seen_of_step {next : State Disk} {action : Action Disk}
    (hstep : state.step kernel action = some next) :
    state.seen kernel action = (action.request.map (.invoked action.id)).toList ++
      (next.call action.id).ending action.id := by
  rw [State.seen, hstep]

theorem step_accounted {next : State Disk} {action : Action Disk}
    (haccounted : Accounted kernel disk history state)
    (hstep : (machine kernel).step state action = some next) :
    Accounted kernel disk (history ++ state.seen kernel action) next := by
  obtain ⟨order, stage, hsound⟩ := haccounted
  rw [seen_of_step hstep]
  cases action with
  | call id op rc =>
      simp only [machine, State.step] at hstep
      split at hstep
      next hidle =>
        cases hstep
        rw [← List.append_assoc]
        exact hsound.start hidle op rc
      next => cases hstep
  | serve id result served =>
      simp only [machine, State.step] at hstep
      split at hstep
      next op hcall => exact hsound.serveName hcall hstep
      next => cases hstep
  | serveClose id result =>
      simp only [machine, State.step] at hstep
      split at hstep
      next path truncate fd hcall =>
        cases hstep
        have hstage := hsound.standing hcall
        exact hsound.moves hstage rfl rfl rfl
      next => cases hstep
  | callback id =>
      simp only [machine, State.step] at hstep
      split at hstep
      next op result hcall =>
        cases hstep
        exact hsound.moves ⟨result, rfl, hsound.standing hcall⟩ rfl rfl rfl
      next path truncate fd result hcall =>
        cases hstep
        exact hsound.moves ⟨hsound.standing hcall, result, rfl⟩ rfl rfl rfl
      next => cases hstep
  | resume id rc =>
      simp only [machine, State.step] at hstep
      split at hstep
      next op error hcall =>
        cases hstep
        obtain ⟨result, hcallback, hstage⟩ := hsound.standing hcall
        rw [Operation.answer_of_callback_error hcallback] at hstage
        exact hsound.returns hstage rfl rfl
      next op value hcall =>
        cases hstep
        exact hsound.goOn hcall rc
      next path truncate error hcall =>
        cases hstep
        obtain ⟨hstage, result, hclose⟩ := hsound.standing hcall
        obtain ⟨rfl, hneg⟩ := onFsClose_eq_error hclose.symm
        exact hsound.returnsUnclosed hstage rfl rfl (.inr rfl) hneg rfl rfl
      next path truncate hcall =>
        cases hstep
        exact hsound.returns (hsound.standing hcall).1 rfl rfl
      next => cases hstep

end Steps

theorem accounted_of_run {kernel : Kernel Disk} {actions : List (Action Disk)} {disk : Disk}
    {descriptors : List Fd} {state : State Disk}
    (hrun : (machine kernel).run actions (fresh disk descriptors) = some state) :
    Accounted kernel disk (history kernel actions (fresh disk descriptors)) state := by
  have hstart : Accounted kernel disk [] (fresh disk descriptors) :=
    ⟨[], fun _ => .absent, account_start disk, fun _ => rfl⟩
  have hstep : ∀ (state : State Disk) seen action next, Accounted kernel disk seen state →
      (machine kernel).step state action = some next →
        Accounted kernel disk (seen ++ state.seen kernel action) next :=
    fun _ _ _ _ => step_accounted
  have hend := Machine.run_trace hstep actions (fresh disk descriptors) state [] hstart hrun
  exact hend

/-- The operations answer as if each had the file system for itself at one moment between its
call and its return, and leave behind what they would leave then. -/
theorem names_linearizable (kernel : Kernel Disk) (actions : List (Action Disk)) (disk : Disk)
    (descriptors : List Fd) (state : State Disk)
    (hrun : (machine kernel).run actions (fresh disk descriptors) = some state) :
    Linearizable (Serves kernel) disk (history kernel actions (fresh disk descriptors))
      state.disk := by
  obtain ⟨order, stage, hsound⟩ := accounted_of_run hrun
  exact hsound.account.linearizable

/-- Two fibers ask for the same directory, and the request of the second is served first; a
file is made although its descriptor cannot be closed. -/
def crossedRequests : List (Action Listing) :=
  [.call 0 (.createDirectory "a" 0o755) 0, .call 1 (.createDirectory "a" 0o755) 0,
    .serve 1 0 [("a", .directory)], .call 2 (.createFile "b" true) 0,
    .serve 0 uvEexist [("a", .directory)], .callback 0, .resume 0 0,
    .serve 2 5 [("b", .file), ("a", .directory)], .callback 1, .callback 2, .resume 2 (-12),
    .resume 1 0]

theorem names_linearizable_crossedRequests :
    ∃ state, (machine oneDirectory).run crossedRequests (fresh [] [0, 1, 2]) = some state ∧
      history oneDirectory crossedRequests (fresh [] [0, 1, 2]) =
        [.invoked 0 (.createDirectory "a" 0o755), .invoked 1 (.createDirectory "a" 0o755),
          .invoked 2 (.createFile "b" true), .returned 0 (.ok false),
          .returned 2 (.error (.uv "uv_fs_close(start)" (-12))), .returned 1 (.ok true)] ∧
      Linearizable (Serves oneDirectory) [] (history oneDirectory crossedRequests
        (fresh [] [0, 1, 2])) [("b", .file), ("a", .directory)] := by
  refine ⟨_, rfl, rfl, ?_⟩
  exact names_linearizable oneDirectory crossedRequests [] [0, 1, 2] _ rfl

end Fiberuv.Io.Names
