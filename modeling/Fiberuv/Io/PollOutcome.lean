import Fiberuv.Io.PollForms

/-! # What a wait for a descriptor ends with

A callback finds its call waiting and leaves it closing, so the first callback decides and
no second one comes. As long as the loop is not destroyed under a waiting call, every
state is deleted by the last of its close callbacks and by nothing else.
-/

namespace Fiberuv.Io.PollWait

open Foundation
open EventLoop.HeapState

variable {tidy : Bool} {state next : State} {action : Action}

/-- The result that a callback of this call of `wait_fd` decides. -/
def Wait.decides (id : CallId) : Action → Option (Except Error Unit)
  | .pollEvent other status => if other = id then some (Wait.eventResult status) else none
  | _ => none

/-- The result that a callback of this call of `wait_fd_for` decides. -/
def WaitFor.decides (id : CallId) : Action → Option (Except Error Bool)
  | .pollEventFor other status => if other = id then some (WaitFor.eventResult status) else none
  | .pollTimeoutFor other => if other = id then some (.ok false) else none
  | _ => none

/-- The start of this call of `wait_fd`, and whether it is refused. -/
def Wait.starts (id : CallId) : Action → Option (Option Error)
  | .waitFd other codes => if other = id then some codes.refusal else none
  | _ => none

/-- The start of this call of `wait_fd_for`, and whether it is refused. -/
def WaitFor.starts (id : CallId) : Action → Option (Option Error)
  | .waitFdFor other codes => if other = id then some codes.refusal else none
  | _ => none

theorem Wait.decides_stay {id : CallId} (hother : action.waitId ≠ some id) :
    Wait.decides id action = none ∧ Wait.starts id action = none := by
  cases action <;> simp_all [Wait.decides, Wait.starts, Action.waitId]

theorem WaitFor.decides_stay {id : CallId} (hother : action.timedWaitId ≠ some id) :
    WaitFor.decides id action = none ∧ WaitFor.starts id action = none := by
  cases action <;> simp_all [WaitFor.decides, WaitFor.starts, Action.timedWaitId]

@[simp] theorem Wait.closePoll_caller (call : Wait) :
    (Wait.closePoll call).caller = call.caller := by
  unfold Wait.closePoll
  split <;> rfl

@[simp] theorem Wait.closePoll_promise (call : Wait) :
    (Wait.closePoll call).promise = call.promise := by
  unfold Wait.closePoll
  split <;> rfl

theorem Wait.waitFd_promise (call : Wait) (codes : Codes) :
    (Wait.waitFd call codes).promise = call.promise := by
  simp only [Wait.waitFd]
  split_ifs <;> simp

theorem Wait.waitFd_begun (call : Wait) (codes : Codes) :
    (Wait.waitFd call codes).caller.begun = some codes.refusal := by
  simp only [Wait.waitFd, Codes.refusal]
  split_ifs <;> rfl

theorem Wait.onPollEvent_caller (call : Wait) (status : Int) :
    (Wait.onPollEvent call status).caller = call.caller := by
  simp only [Wait.onPollEvent]
  split_ifs <;> simp

theorem Wait.pollClosed_caller (call : Wait) (callback : Bool) :
    (Wait.pollClosed call callback).caller = call.caller := by
  simp only [Wait.pollClosed]
  split_ifs
  · exact Call.callback_caller _ Call.delete_caller
  · rfl

theorem Wait.pollClosed_promise (call : Wait) (callback : Bool) :
    (Wait.pollClosed call callback).promise = call.promise := by
  simp only [Wait.pollClosed]
  split_ifs
  · exact Call.callback_promise _ Call.delete_promise
  · rfl

/-- A poll event finds the call waiting and sets its promise. -/
theorem Wait.Form.onPollEvent_promise {call : Wait} (hform : Wait.Form tidy call)
    (hactive : call.fields.poll = .active) (status : Int) :
    call.promise = none ∧
      (call.callback fun call => Wait.onPollEvent call status).promise =
        some (Wait.eventResult status) := by
  cases hform with
  | waiting => exact ⟨rfl, rfl⟩
  | closing _ _ _ hpoll => simp [hactive] at hpoll
  | released _ _ _ hpoll => simp [hactive] at hpoll
  | abandoned pending => cases pending <;> cases hactive
  | _ => cases hactive

/-- Only the poll event of a waiting call sets its promise. -/
theorem Wait.Moves.promise {id : CallId} {before after : Wait}
    (hmoves : Wait.Moves id before action after) (hform : Wait.Form tidy before) :
    after.promise = before.promise.or (Wait.decides id action) ∧
      ((Wait.decides id action).isSome → before.promise = none) := by
  cases hmoves with
  | waitFd codes hidle => simp [Wait.decides, Wait.waitFd_promise]
  | pollEvent status hactive =>
      obtain ⟨hnone, hsome⟩ := hform.onPollEvent_promise hactive status
      simp [Wait.decides, hnone, hsome]
  | pollClosed callback hclosing => simp [Wait.decides, Wait.pollClosed_promise]
  | resume _ hresume =>
      simp [Wait.decides, Call.resume_promise hresume]
  | walk => simp [Wait.decides, Wait.walk]
  | stay _ hother => simp [(Wait.decides_stay hother).1]

/-- A call begins once, refused or not. -/
theorem Wait.Moves.begun {id : CallId} {before after : Wait}
    (hmoves : Wait.Moves id before action after) :
    after.caller.begun = before.caller.begun.or (Wait.starts id action) ∧
      ((Wait.starts id action).isSome → before.caller.begun = none) := by
  cases hmoves with
  | waitFd codes hidle => simp [Wait.starts, Wait.waitFd_begun, hidle]
  | pollEvent status hactive =>
      rw [Call.callback_caller _ fun call => Wait.onPollEvent_caller call status]
      simp [Wait.starts]
  | pollClosed callback hclosing => simp [Wait.starts, Wait.pollClosed_caller]
  | resume _ hresume =>
      obtain ⟨hcaller, -, hbegun, -⟩ := Call.resume_frame hresume
      simp [Wait.starts, hbegun, hcaller]
  | walk => simp [Wait.starts, Wait.walk]
  | stay _ hother => simp [(Wait.decides_stay hother).2]

section WaitFor

variable (call : WaitFor)

@[simp] theorem WaitFor.closePoll_caller : (WaitFor.closePoll call).caller = call.caller := by
  unfold WaitFor.closePoll
  split <;> rfl

@[simp] theorem WaitFor.closePoll_promise : (WaitFor.closePoll call).promise = call.promise := by
  unfold WaitFor.closePoll
  split <;> rfl

@[simp] theorem WaitFor.closeTimer_caller : (WaitFor.closeTimer call).caller = call.caller := by
  unfold WaitFor.closeTimer
  split <;> rfl

@[simp] theorem WaitFor.closeTimer_promise : (WaitFor.closeTimer call).promise = call.promise := by
  unfold WaitFor.closeTimer
  split <;> rfl

@[simp] theorem WaitFor.closePollWaitForHandles_caller :
    (WaitFor.closePollWaitForHandles call).caller = call.caller := by
  simp only [WaitFor.closePollWaitForHandles, WaitFor.countClose]
  split_ifs <;> simp

@[simp] theorem WaitFor.closePollWaitForHandles_promise :
    (WaitFor.closePollWaitForHandles call).promise = call.promise := by
  simp only [WaitFor.closePollWaitForHandles, WaitFor.countClose]
  split_ifs <;> simp

theorem WaitFor.waitFdFor_promise (codes : CodesFor) :
    (WaitFor.waitFdFor call codes).promise = call.promise := by
  simp only [WaitFor.waitFdFor]
  split_ifs <;> simp

theorem WaitFor.waitFdFor_begun (codes : CodesFor) :
    (WaitFor.waitFdFor call codes).caller.begun = some codes.refusal := by
  simp only [WaitFor.waitFdFor, CodesFor.refusal]
  split_ifs <;> rfl

theorem WaitFor.finishPollWaitFor_caller (result : Except Error Bool) :
    (WaitFor.finishPollWaitFor call result).caller = call.caller := by
  simp only [WaitFor.finishPollWaitFor]
  split_ifs <;> simp

theorem WaitFor.onPollWaitForClosed_caller :
    (WaitFor.onPollWaitForClosed call).caller = call.caller := by
  simp only [WaitFor.onPollWaitForClosed]
  split_ifs <;> simp

theorem WaitFor.onPollWaitForClosed_promise :
    (WaitFor.onPollWaitForClosed call).promise = call.promise := by
  simp only [WaitFor.onPollWaitForClosed]
  split_ifs <;> simp

/-- A close callback leaves the fiber and the promise alone. -/
theorem WaitFor.closed_frame (callback : Bool) :
    (WaitFor.pollClosed call callback).caller = call.caller ∧
      (WaitFor.timerClosed call callback).caller = call.caller ∧
      (WaitFor.pollClosed call callback).promise = call.promise ∧
      (WaitFor.timerClosed call callback).promise = call.promise := by
  simp only [WaitFor.pollClosed, WaitFor.timerClosed]
  split_ifs
  · refine ⟨?_, ?_, ?_, ?_⟩
    · exact Call.callback_caller _ WaitFor.onPollWaitForClosed_caller
    · exact Call.callback_caller _ WaitFor.onPollWaitForClosed_caller
    · exact Call.callback_promise _ WaitFor.onPollWaitForClosed_promise
    · exact Call.callback_promise _ WaitFor.onPollWaitForClosed_promise
  · exact ⟨rfl, rfl, rfl, rfl⟩

end WaitFor

/-- A callback of a handle that is started finds the call waiting and sets its promise. -/
theorem WaitFor.Form.event_promise {call : WaitFor} (hform : WaitFor.Form tidy call)
    (hactive : call.fields.poll = .active ∨ call.fields.timer = .active) :
    call.promise = none ∧
      (∀ status, (WaitFor.onPollEventFor call status).promise =
        some (WaitFor.eventResult status)) ∧
      (WaitFor.onPollTimeoutFor call).promise = some (.ok false) := by
  cases hform with
  | waiting => exact ⟨rfl, fun _ => rfl, rfl⟩
  | closing _ pollPending timerPending _ _ hpoll htimer =>
      cases pollPending <;> cases timerPending <;> simp [hpoll, htimer, Handle.left] at hactive
  | released _ _ _ hpoll htimer => simp [hpoll, htimer] at hactive
  | abandoned pollPending timerPending =>
      cases pollPending <;> cases timerPending <;> simp [Handle.walked] at hactive
  | faulted _ poll hpoll => simp [hpoll] at hactive
  | _ => simp at hactive

/-- Only the first callback of a waiting call sets its promise. -/
theorem WaitFor.Moves.promise {id : CallId} {before after : WaitFor}
    (hmoves : WaitFor.Moves id before action after) (hform : WaitFor.Form tidy before) :
    after.promise = before.promise.or (WaitFor.decides id action) ∧
      ((WaitFor.decides id action).isSome → before.promise = none) := by
  cases hmoves with
  | waitFdFor codes hidle => simp [WaitFor.decides, WaitFor.waitFdFor_promise]
  | pollEvent status hactive =>
      obtain ⟨hnone, hevent, -⟩ := hform.event_promise (.inl hactive)
      simp [WaitFor.decides, hnone, hevent]
  | pollTimeout hactive =>
      obtain ⟨hnone, -, htimeout⟩ := hform.event_promise (.inr hactive)
      simp [WaitFor.decides, hnone, htimeout]
  | pollClosed callback _ _ => simp [WaitFor.decides, (WaitFor.closed_frame before callback).2.2.1]
  | timerClosed callback _ _ => simp [WaitFor.decides, (WaitFor.closed_frame before callback).2.2.2]
  | resume _ hresume =>
      simp [WaitFor.decides, Call.resume_promise hresume]
  | walk => simp [WaitFor.decides, WaitFor.walk]
  | stay _ hother => simp [(WaitFor.decides_stay hother).1]

theorem WaitFor.Moves.begun {id : CallId} {before after : WaitFor}
    (hmoves : WaitFor.Moves id before action after) :
    after.caller.begun = before.caller.begun.or (WaitFor.starts id action) ∧
      ((WaitFor.starts id action).isSome → before.caller.begun = none) := by
  cases hmoves with
  | waitFdFor codes hidle => simp [WaitFor.starts, WaitFor.waitFdFor_begun, hidle]
  | pollEvent status hactive =>
      rw [WaitFor.onPollEventFor,
        Call.callback_caller _ fun call => WaitFor.finishPollWaitFor_caller call _]
      simp [WaitFor.starts]
  | pollTimeout hactive =>
      rw [WaitFor.onPollTimeoutFor,
        Call.callback_caller _ fun call => WaitFor.finishPollWaitFor_caller call _]
      simp [WaitFor.starts]
  | pollClosed callback _ _ => simp [WaitFor.starts, (WaitFor.closed_frame before callback).1]
  | timerClosed callback _ _ => simp [WaitFor.starts, (WaitFor.closed_frame before callback).2.1]
  | resume _ hresume =>
      obtain ⟨hcaller, -, hbegun, -⟩ := Call.resume_frame hresume
      simp [WaitFor.starts, hbegun, hcaller]
  | walk => simp [WaitFor.starts, WaitFor.walk]
  | stay _ hother => simp [(WaitFor.decides_stay hother).2]

theorem Wait.Form.origin {call : Wait} (hform : Wait.Form tidy call) {result : Except Error Unit}
    (hresult : call.caller.result = some result) :
    ∃ refusal, call.caller.begun = some refusal ∧
      refusal.elim call.promise (fun error => some (.error error)) = some result := by
  cases hform with
  | closing _ hover | released _ hover => exact hover.origin hresult
  | refused error => exact ⟨some error, rfl, hresult⟩
  | _ => cases hresult

theorem WaitFor.Form.origin {call : WaitFor} (hform : WaitFor.Form tidy call)
    {result : Except Error Bool} (hresult : call.caller.result = some result) :
    ∃ refusal, call.caller.begun = some refusal ∧
      refusal.elim call.promise (fun error => some (.error error)) = some result := by
  cases hform with
  | closing _ _ _ hover | released _ hover => exact hover.origin hresult
  | refused error | faulted error => exact ⟨some error, rfl, hresult⟩
  | _ => cases hresult

/-- Every call ends as the first of its callbacks decides, or with the error it was refused
with: a poll event gives `true` or the error of its status, the timer gives `false`, and the
other one comes too late. -/
theorem first_callback_decides (actions : List Action) (state : State)
    (hrun : machine.run actions initial = some state) (id : CallId) :
    Decided actions (state.waits id).caller.result (Wait.starts id) (Wait.decides id) ∧
      Decided actions (state.timedWaits id).caller.result (WaitFor.starts id)
        (WaitFor.decides id) := by
  have hkeeps : ∀ state action next, Sound false state →
      machine.step state action = some next → Sound false next :=
    fun _ _ _ hsound => step_sound hsound nofun
  constructor
  · have hpromise : machine.DecidedBy (Sound false) (fun state => (state.waits id).promise)
        (Wait.decides id) :=
      ⟨hkeeps, fun _ _ _ hsound hstep => (((step_moves hstep).1 id).promise (hsound.waits id)).1,
        fun _ _ _ hsound hstep => (((step_moves hstep).1 id).promise (hsound.waits id)).2⟩
    have hbegun : machine.DecidedBy (Sound false) (fun state => (state.waits id).caller.begun)
        (Wait.starts id) :=
      ⟨hkeeps, fun _ _ _ _ hstep => ((step_moves hstep).1 id).begun.1,
        fun _ _ _ _ hstep => ((step_moves hstep).1 id).begun.2⟩
    exact decided_of_decidedBy hpromise hbegun (fun _ hsound _ => (hsound.waits id).origin)
      initial_sound rfl rfl hrun
  · have hpromise : machine.DecidedBy (Sound false) (fun state => (state.timedWaits id).promise)
        (WaitFor.decides id) :=
      ⟨hkeeps,
        fun _ _ _ hsound hstep => (((step_moves hstep).2 id).promise (hsound.timedWaits id)).1,
        fun _ _ _ hsound hstep => (((step_moves hstep).2 id).promise (hsound.timedWaits id)).2⟩
    have hbegun : machine.DecidedBy (Sound false)
        (fun state => (state.timedWaits id).caller.begun) (WaitFor.starts id) :=
      ⟨hkeeps, fun _ _ _ _ hstep => ((step_moves hstep).2 id).begun.1,
        fun _ _ _ _ hstep => ((step_moves hstep).2 id).begun.2⟩
    exact decided_of_decidedBy hpromise hbegun (fun _ hsound _ => (hsound.timedWaits id).origin)
      initial_sound rfl rfl hrun

/-- The time of the second call ends before its descriptor is ready; the third is refused. -/
def readyAndLate : List Action :=
  [.waitFdFor 1 ⟨0, 0, 0, 0⟩, .waitFdFor 2 ⟨0, 0, 0, 0⟩, .waitFdFor 3 ⟨0, 0, -9, 0⟩,
    .pollEventFor 1 0, .pollTimeoutFor 2, .pollClosedFor 1, .resumeFor 2, .resumeFor 1,
    .timerClosedFor 1, .timerClosedFor 2]

theorem first_callback_decides_readyAndLate :
    ∃ state, machine.run readyAndLate initial = some state ∧
      (state.timedWaits 1).caller = .returned true ∧ (state.timedWaits 2).caller = .returned false ∧
      Decided readyAndLate (state.timedWaits 2).caller.result (WaitFor.starts 2)
        (WaitFor.decides 2) :=
  ⟨_, rfl, rfl, rfl, (first_callback_decides readyAndLate _ rfl 2).2⟩

/-- The state of a call, as its handles and the heap see it. -/
structure Kept (memory : Memory) (fault : Option Fault) (handles : List Handle) : Prop where
  fault : fault = none
  /-- libuv does not know a handle any more when the state is deleted. -/
  freed : memory = .freed → ∀ handle ∈ handles, handle.registered = false
  /-- A state that is not deleted waits, or has a close callback to come. -/
  live : memory = .live → (∀ handle ∈ handles, handle = .active) ∨ .closing true ∈ handles

/-- No fault has happened, no handle outlives its state, and no state is leaked. -/
structure Tidy (state : State) : Prop where
  waits : ∀ id, Kept (state.waits id).memory (state.waits id).fault [(state.waits id).fields.poll]
  timedWaits : ∀ id, Kept (state.timedWaits id).memory (state.timedWaits id).fault
    [(state.timedWaits id).fields.poll, (state.timedWaits id).fields.timer]

theorem Wait.Form.kept {call : Wait} (hform : Wait.Form true call) :
    Kept call.memory call.fault [call.fields.poll] := by
  cases hform with
  | closing _ hover hmemory hpoll => constructor <;> simp [hover.fault, hmemory, hpoll]
  | released _ hover hmemory hpoll =>
      constructor <;> simp [hover.fault, hmemory, hpoll, Handle.registered]
  | abandoned _ huntidy => cases huntidy
  | _ => constructor <;> simp [Handle.registered]

theorem WaitFor.Form.kept {call : WaitFor} (hform : WaitFor.Form true call) :
    Kept call.memory call.fault [call.fields.poll, call.fields.timer] := by
  cases hform with
  | closing _ pollPending timerPending hover hmemory hpoll htimer hpending =>
      constructor <;> simp [hover.fault, hmemory, hpoll, htimer]
      cases pollPending <;> cases timerPending <;> simp_all [Handle.left]
  | released _ hover hmemory hpoll htimer =>
      constructor <;> simp [hover.fault, hmemory, hpoll, htimer, Handle.registered]
  | abandoned _ _ huntidy => cases huntidy
  | faulted _ _ _ huntidy => cases huntidy
  | _ => constructor <;> simp [Handle.registered]

theorem Sound.toTidy (hsound : Sound true state) : Tidy state :=
  ⟨fun id => (hsound.waits id).kept, fun id => (hsound.timedWaits id).kept⟩

/-- A walk over a waiting call, or a timer that cannot be initialised, breaks what is kept. -/
theorem not_tidy_of_disorderly (hsound : Sound false state) (hdisorder : ¬ Orderly state action)
    (hstep : machine.step state action = some next) : ¬ Tidy next := by
  intro htidy
  cases action with
  | waitFdFor id codes =>
      simp only [Orderly, CodesFor.TimerInits, Classical.not_imp, not_le] at hdisorder
      simp only [machine, State.step, State.stepTimedWait, Option.ite_none_right_eq_some,
        Option.some.injEq] at hstep
      obtain ⟨hidle, rfl⟩ := hstep
      have hfault := (htidy.timedWaits id).fault
      have hform := hsound.timedWaits id
      simp only [State.setTimedWait, Function.update_self] at hfault
      generalize state.timedWaits id = call at hidle hfault hform
      cases hform with
      | fresh =>
          simp [WaitFor.waitFdFor, not_lt.mpr hdisorder.1, hdisorder.2,
            WaitFor.closePollWaitForHandles, WaitFor.countClose, WaitFor.closePoll,
            WaitFor.closeTimer, Handle.isClosing, Handle.uvClose, Call.fail] at hfault
      | closing _ _ _ hover => exact hover.begun hidle
      | released _ hover => exact hover.begun hidle
      | _ => cases hidle
  | walk =>
      cases hstep
      refine hdisorder fun id => ⟨fun hactive => ?_, fun hactive => ?_⟩
      · have hlive := (htidy.waits id).live
        have hform := hsound.waits id
        simp only [State.walk] at hlive
        generalize state.waits id = call at hactive hlive hform
        cases hform with
        | waiting => simp [Wait.walk, Handle.walk] at hlive
        | closing _ _ _ hpoll => simp [hpoll] at hactive
        | released _ _ _ hpoll => simp [hpoll] at hactive
        | abandoned pending => cases pending <;> cases hactive
        | _ => cases hactive
      · have hlive := (htidy.timedWaits id).live
        have hform := hsound.timedWaits id
        simp only [State.walk] at hlive
        generalize state.timedWaits id = call at hactive hlive hform
        cases hform with
        | waiting => simp [WaitFor.walk, Handle.walk] at hlive
        | closing _ pollPending _ _ _ hpoll =>
            cases pollPending <;> simp [hpoll, Handle.left] at hactive
        | released _ _ _ hpoll => simp [hpoll] at hactive
        | abandoned pending => cases pending <;> cases hactive
        | faulted _ poll hpoll => cases hpoll.symm.trans hactive
        | _ => cases hactive
  | _ => exact hdisorder trivial

/-- All along a run no fault happens, every state is deleted once, after libuv has let go of
its handles, and none is leaked, exactly when no timer fails to initialise and the handles are
walked only while no call waits. -/
theorem tidy_iff_orderly (actions : List Action) (final : State)
    (hrun : machine.run actions initial = some final) :
    (∀ before after state, actions = before ++ after →
      machine.run before initial = some state → Tidy state) ↔
      machine.Meets Orderly actions initial := by
  have halways : ∀ state action next, Sound false state →
      machine.step state action = some next → Sound false next :=
    fun _ _ _ hsound => step_sound hsound nofun
  have hstep : ∀ state action next, Sound false state → Sound true state →
      Orderly state action → machine.step state action = some next → Sound true next :=
    fun _ _ _ _ hsound horderly => step_sound hsound fun _ => horderly
  exact Machine.along_run_iff_meets halways hstep (fun _ _ hsound => hsound.toTidy)
    (fun _ _ _ => not_tidy_of_disorderly) initial_sound initial_sound hrun

theorem tidy_iff_orderly_readyAndLate :
    ∃ final, machine.run readyAndLate initial = some final ∧
      ∀ before after state, readyAndLate = before ++ after →
        machine.run before initial = some state → Tidy state := by
  refine ⟨_, rfl, (tidy_iff_orderly readyAndLate _ rfl).mpr ?_⟩
  rw [Machine.meets_iff_forall]
  intro before action rest middle hsplit _
  have hmem : action ∈ readyAndLate := by simp [hsplit]
  simp only [readyAndLate, List.mem_cons, List.not_mem_nil, or_false] at hmem
  rcases hmem with rfl | rfl | rfl | rfl | rfl | rfl | rfl | rfl | rfl | rfl
  iterate 3 exact fun _ => le_refl 0
  all_goals exact trivial

end Fiberuv.Io.PollWait
