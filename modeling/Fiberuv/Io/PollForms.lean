import Fiberuv.Io.PollWait

/-! # The forms of a wait for a descriptor

Every call goes through the same forms: fresh, waiting with its handles started, closing
with the number of close callbacks that are still to come, released. Two steps lead out of
these: the walk of `~EventLoop` while a call waits, and a timer that cannot be initialised,
which is closed like one that was.
-/

namespace Fiberuv.Io.PollWait

open Foundation
open EventLoop.HeapState

/-- The forms of a call of `wait_fd`; the last one only where it is allowed. -/
inductive Wait.Form (tidy : Bool) : Wait → Prop where
  | fresh : Form tidy { fields := {} }
  | refused (error : Error) :
      Form tidy { caller := .refused error, memory := .freed, fields := {} }
  | waiting : Form tidy { caller := .waiting, memory := .live, fields := { poll := .active } }
  | closing (call : Wait) (hover : call.Over) (hmemory : call.memory = .live)
      (hpoll : call.fields.poll = .closing true) : Form tidy call
  | released (call : Wait) (hover : call.Over) (hmemory : call.memory = .freed)
      (hpoll : call.fields.poll = .closed) : Form tidy call
  /-- The walk has closed the handle of a waiting call. -/
  | abandoned (pending : Bool) (huntidy : tidy = false) : Form tidy
      { caller := .waiting, memory := .live, fields := { poll := .walked pending } }

/-- The forms of a call of `wait_fd_for`; the last two only where they are allowed. -/
inductive WaitFor.Form (tidy : Bool) : WaitFor → Prop where
  | fresh : Form tidy { fields := {} }
  | refused (error : Error) :
      Form tidy { caller := .refused error, memory := .freed, fields := {} }
  | waiting : Form tidy
      { caller := .waiting, memory := .live, fields := { poll := .active, timer := .active } }
  | closing (call : WaitFor) (pollPending timerPending : Bool) (hover : call.Over)
      (hmemory : call.memory = .live)
      (hpoll : call.fields.poll = Handle.left pollPending)
      (htimer : call.fields.timer = Handle.left timerPending)
      (hpending : (pollPending || timerPending) = true)
      (hcount : call.fields.pendingClose = pollPending.toNat + timerPending.toNat) :
      Form tidy call
  | released (call : WaitFor) (hover : call.Over) (hmemory : call.memory = .freed)
      (hpoll : call.fields.poll = .closed) (htimer : call.fields.timer = .closed) :
      Form tidy call
  /-- The walk has closed the handles of a waiting call. -/
  | abandoned (pollPending timerPending : Bool) (huntidy : tidy = false) : Form tidy
      { caller := .waiting, memory := .live,
        fields := { poll := .walked pollPending, timer := .walked timerPending } }
  /-- `uv_timer_init` failed, and the timer was closed all the same. -/
  | faulted (error : Error) (poll : Handle) (hpoll : poll = .closing true)
      (huntidy : tidy = false) : Form tidy
      { caller := .refused error, memory := .live, fault := some .closesRaw,
        fields := { poll := poll, pendingClose := 2 } }

variable {tidy : Bool}

section Wait

variable {call : Wait}

theorem Wait.Form.waitFd (hform : Wait.Form tidy call) (hidle : call.caller = .idle)
    (codes : Codes) : Wait.Form tidy (Wait.waitFd call codes) := by
  cases hform with
  | fresh =>
      simp only [Wait.waitFd]
      split
      · exact .refused _
      · split
        · exact .closing _ (.refused rfl rfl) rfl rfl
        · exact .waiting
  | closing _ hover => exact absurd hidle hover.begun
  | released _ hover => exact absurd hidle hover.begun
  | _ => cases hidle

theorem Wait.Form.onPollEvent (hform : Wait.Form tidy call) (hactive : call.fields.poll = .active)
    (status : Int) : Wait.Form tidy (call.callback fun call => Wait.onPollEvent call status) := by
  cases hform with
  | waiting => exact .closing _ (.settled rfl rfl rfl) rfl rfl
  | closing _ _ _ hpoll => simp [hactive] at hpoll
  | released _ _ _ hpoll => simp [hactive] at hpoll
  | abandoned pending => cases pending <;> cases hactive
  | _ => cases hactive

theorem Wait.Form.pollClosed (hform : Wait.Form tidy call) {callback : Bool}
    (hclosing : call.fields.poll = .closing callback) :
    Wait.Form tidy (Wait.pollClosed call callback) := by
  cases hform with
  | closing _ hover hmemory hpoll =>
      obtain rfl : callback = true := by simpa [hpoll] using hclosing.symm
      refine .released _ (hover.frame ?_ ?_ ?_) ?_ ?_ <;>
        simp [Wait.pollClosed, Call.callback, Call.delete, hmemory]
  | released _ _ _ hpoll => simp [hclosing] at hpoll
  | abandoned pending huntidy =>
      cases pending with
      | false => cases hclosing
      | true =>
          obtain rfl : callback = false := by simpa [Handle.walked] using hclosing.symm
          exact .abandoned false huntidy
  | _ => cases hclosing

theorem Wait.Form.resume {next : Wait} (hform : Wait.Form tidy call)
    (hresume : call.resume = some next) : Wait.Form tidy next := by
  obtain ⟨hcaller, hpromise, -, hnext⟩ := Call.resume_frame hresume
  cases hform with
  | closing _ hover hmemory hpoll =>
      rw [hnext]
      exact .closing _ (hnext ▸ hover.resume hresume) hmemory hpoll
  | released _ hover hmemory hpoll =>
      rw [hnext]
      exact .released _ (hnext ▸ hover.resume hresume) hmemory hpoll
  | fresh | refused => cases hcaller
  | waiting | abandoned => cases hpromise

theorem Wait.Form.walk (hform : Wait.Form tidy call)
    (hquiet : tidy = true → call.fields.poll ≠ .active) : Wait.Form tidy (Wait.walk call) := by
  cases hform with
  | fresh => exact .fresh
  | refused error => exact .refused error
  | waiting =>
      cases tidy with
      | true => exact absurd rfl (hquiet rfl)
      | false => exact .abandoned true rfl
  | closing _ hover hmemory hpoll =>
      exact .closing _ (hover.frame rfl rfl rfl) hmemory (by simp [Wait.walk, hpoll, Handle.walk])
  | released _ hover hmemory hpoll =>
      exact .released _ (hover.frame rfl rfl rfl) hmemory (by simp [Wait.walk, hpoll, Handle.walk])
  | abandoned pending huntidy =>
      cases pending with
      | false => exact .abandoned false huntidy
      | true => exact .abandoned true huntidy

end Wait

section WaitFor

variable {call : WaitFor}

/-- `uv_timer_init` does not fail where `wait_fd_for` gets to it. -/
def CodesFor.TimerInits (codes : CodesFor) : Prop :=
  0 ≤ codes.initPoll → 0 ≤ codes.initTimer

theorem WaitFor.Form.waitFdFor (hform : WaitFor.Form tidy call) (hidle : call.caller = .idle)
    {codes : CodesFor} (hinits : tidy = true → codes.TimerInits) :
    WaitFor.Form tidy (WaitFor.waitFdFor call codes) := by
  cases hform with
  | fresh =>
      simp only [WaitFor.waitFdFor]
      split
      · exact .refused _
      next hpoll =>
        split
        next htimer =>
          refine .faulted _ _ rfl ?_
          by_contra hnot
          have hboth := hinits (by simpa using hnot) (by omega)
          omega
        · split
          · exact .closing _ true true (.refused rfl rfl) rfl rfl rfl rfl rfl
          · split
            · exact .closing _ true true (.refused rfl rfl) rfl rfl rfl rfl rfl
            · exact .waiting
  | closing _ _ _ hover => exact absurd hidle hover.begun
  | released _ hover => exact absurd hidle hover.begun
  | _ => cases hidle

theorem WaitFor.Form.onPollEventFor (hform : WaitFor.Form tidy call)
    (hactive : call.fields.poll = .active) (status : Int) :
    WaitFor.Form tidy (WaitFor.onPollEventFor call status) := by
  cases hform with
  | waiting => exact .closing _ true true (.settled rfl rfl rfl) rfl rfl rfl rfl rfl
  | closing _ pollPending _ _ _ hpoll =>
      cases pollPending <;> simp [hactive, Handle.left] at hpoll
  | released _ _ _ hpoll => simp [hactive] at hpoll
  | abandoned pending => cases pending <;> cases hactive
  | faulted _ poll hpoll => cases hpoll.symm.trans hactive
  | _ => cases hactive

theorem WaitFor.Form.onPollTimeoutFor (hform : WaitFor.Form tidy call)
    (hactive : call.fields.timer = .active) :
    WaitFor.Form tidy (WaitFor.onPollTimeoutFor call) := by
  cases hform with
  | waiting => exact .closing _ true true (.settled rfl rfl rfl) rfl rfl rfl rfl rfl
  | closing _ _ timerPending _ _ _ htimer =>
      cases timerPending <;> simp [hactive, Handle.left] at htimer
  | released _ _ _ _ htimer => simp [hactive] at htimer
  | abandoned _ pending => cases pending <;> cases hactive
  | _ => cases hactive

theorem WaitFor.Form.pollClosed (hform : WaitFor.Form tidy call) (hfault : call.fault = none)
    {callback : Bool} (hclosing : call.fields.poll = .closing callback) :
    WaitFor.Form tidy (WaitFor.pollClosed call callback) := by
  cases hform with
  | closing _ pollPending timerPending hover hmemory hpoll htimer hpending hcount =>
      cases pollPending with
      | false => simp [hclosing, Handle.left] at hpoll
      | true =>
          obtain rfl : callback = true := by simpa [hpoll, Handle.left] using hclosing.symm
          cases timerPending with
          | false =>
              refine .released _ (hover.frame ?_ ?_ ?_) ?_ ?_ ?_ <;>
                simp_all [WaitFor.pollClosed, Call.callback, WaitFor.onPollWaitForClosed,
                  Call.delete, Handle.left]
          | true =>
              refine .closing _ false true (hover.frame ?_ ?_ ?_) ?_ ?_ ?_ rfl ?_ <;>
                simp_all [WaitFor.pollClosed, Call.callback, WaitFor.onPollWaitForClosed,
                  Handle.left]
  | released _ _ _ hpoll => simp [hclosing] at hpoll
  | abandoned pollPending timerPending huntidy =>
      cases pollPending with
      | false => cases hclosing
      | true =>
          obtain rfl : callback = false := by simpa [Handle.walked] using hclosing.symm
          exact .abandoned false timerPending huntidy
  | faulted => cases hfault
  | _ => cases hclosing

theorem WaitFor.Form.timerClosed (hform : WaitFor.Form tidy call) (hfault : call.fault = none)
    {callback : Bool} (hclosing : call.fields.timer = .closing callback) :
    WaitFor.Form tidy (WaitFor.timerClosed call callback) := by
  cases hform with
  | closing _ pollPending timerPending hover hmemory hpoll htimer hpending hcount =>
      cases timerPending with
      | false => simp [hclosing, Handle.left] at htimer
      | true =>
          obtain rfl : callback = true := by simpa [htimer, Handle.left] using hclosing.symm
          cases pollPending with
          | false =>
              refine .released _ (hover.frame ?_ ?_ ?_) ?_ ?_ ?_ <;>
                simp_all [WaitFor.timerClosed, Call.callback, WaitFor.onPollWaitForClosed,
                  Call.delete, Handle.left]
          | true =>
              refine .closing _ true false (hover.frame ?_ ?_ ?_) ?_ ?_ ?_ rfl ?_ <;>
                simp_all [WaitFor.timerClosed, Call.callback, WaitFor.onPollWaitForClosed,
                  Handle.left]
  | released _ _ _ _ htimer => simp [hclosing] at htimer
  | abandoned pollPending timerPending huntidy =>
      cases timerPending with
      | false => cases hclosing
      | true =>
          obtain rfl : callback = false := by simpa [Handle.walked] using hclosing.symm
          exact .abandoned pollPending false huntidy
  | faulted => cases hfault
  | _ => cases hclosing

theorem WaitFor.Form.resume {next : WaitFor} (hform : WaitFor.Form tidy call)
    (hresume : call.resume = some next) : WaitFor.Form tidy next := by
  obtain ⟨hcaller, hpromise, -, hnext⟩ := Call.resume_frame hresume
  cases hform with
  | closing _ pollPending timerPending hover hmemory hpoll htimer hpending hcount =>
      rw [hnext]
      exact .closing _ pollPending timerPending (hnext ▸ hover.resume hresume) hmemory hpoll htimer
        hpending hcount
  | released _ hover hmemory hpoll htimer =>
      rw [hnext]
      exact .released _ (hnext ▸ hover.resume hresume) hmemory hpoll htimer
  | fresh | refused | faulted => cases hcaller
  | waiting | abandoned => cases hpromise

theorem WaitFor.Form.walk (hform : WaitFor.Form tidy call)
    (hquiet : tidy = true → call.fields.poll ≠ .active) :
    WaitFor.Form tidy (WaitFor.walk call) := by
  have hstays : ∀ pending, (Handle.left pending).walk = Handle.left pending := by
    intro pending
    cases pending <;> rfl
  cases hform with
  | fresh => exact .fresh
  | refused error => exact .refused error
  | waiting =>
      cases tidy with
      | true => exact absurd rfl (hquiet rfl)
      | false => exact .abandoned true true rfl
  | closing _ pollPending timerPending hover hmemory hpoll htimer hpending hcount =>
      refine .closing _ pollPending timerPending (hover.frame rfl rfl rfl) hmemory ?_ ?_ hpending
        hcount
      · simp [WaitFor.walk, hpoll, hstays]
      · simp [WaitFor.walk, htimer, hstays]
  | released _ hover hmemory hpoll htimer =>
      refine .released _ (hover.frame rfl rfl rfl) hmemory ?_ ?_
      · simp [WaitFor.walk, hpoll, Handle.walk]
      · simp [WaitFor.walk, htimer, Handle.walk]
  | abandoned pollPending timerPending huntidy =>
      have hwalked : ∀ pending, (Handle.walked pending).walk = Handle.walked pending := by
        intro pending
        cases pending <;> rfl
      simp only [WaitFor.walk, hwalked]
      exact .abandoned pollPending timerPending huntidy
  | faulted error poll hpoll huntidy => exact .faulted error _ (by rw [hpoll]; rfl) huntidy

end WaitFor

/-- What a step does to one call of `wait_fd`. -/
inductive Wait.Moves (id : CallId) (call : Wait) : Action → Wait → Prop where
  | waitFd (codes : Codes) (hidle : call.caller = .idle) :
      Moves id call (.waitFd id codes) (Wait.waitFd call codes)
  | pollEvent (status : Int) (hactive : call.fields.poll = .active) :
      Moves id call (.pollEvent id status)
        (call.callback fun call => Wait.onPollEvent call status)
  | pollClosed (callback : Bool) (hclosing : call.fields.poll = .closing callback) :
      Moves id call (.pollClosed id) (Wait.pollClosed call callback)
  | resume (next : Wait) (hresume : call.resume = some next) : Moves id call (.resume id) next
  | walk : Moves id call .walk (Wait.walk call)
  | stay (action : Action) (hother : action.waitId ≠ some id) : Moves id call action call

/-- What a step does to one call of `wait_fd_for`. -/
inductive WaitFor.Moves (id : CallId) (call : WaitFor) : Action → WaitFor → Prop where
  | waitFdFor (codes : CodesFor) (hidle : call.caller = .idle) :
      Moves id call (.waitFdFor id codes) (WaitFor.waitFdFor call codes)
  | pollEvent (status : Int) (hactive : call.fields.poll = .active) :
      Moves id call (.pollEventFor id status) (WaitFor.onPollEventFor call status)
  | pollTimeout (hactive : call.fields.timer = .active) :
      Moves id call (.pollTimeoutFor id) (WaitFor.onPollTimeoutFor call)
  | pollClosed (callback : Bool) (hfault : call.fault = none)
      (hclosing : call.fields.poll = .closing callback) :
      Moves id call (.pollClosedFor id) (WaitFor.pollClosed call callback)
  | timerClosed (callback : Bool) (hfault : call.fault = none)
      (hclosing : call.fields.timer = .closing callback) :
      Moves id call (.timerClosedFor id) (WaitFor.timerClosed call callback)
  | resume (next : WaitFor) (hresume : call.resume = some next) :
      Moves id call (.resumeFor id) next
  | walk : Moves id call .walk (WaitFor.walk call)
  | stay (action : Action) (hother : action.timedWaitId ≠ some id) : Moves id call action call

variable {state next : State} {action : Action}

theorem moves_setWait {target : CallId} {call : Wait}
    (hmoves : Wait.Moves target (state.waits target) action call)
    (htarget : action.waitId = some target) (id : CallId) :
    Wait.Moves id (state.waits id) action ((state.setWait target call).waits id) := by
  by_cases heq : id = target
  · subst heq
    simpa [State.setWait] using hmoves
  · have hsame : (state.setWait target call).waits id = state.waits id := by
      simp [State.setWait, heq]
    rw [hsame]
    exact .stay action (by simp [htarget, Ne.symm heq])

theorem moves_setTimedWait {target : CallId} {call : WaitFor}
    (hmoves : WaitFor.Moves target (state.timedWaits target) action call)
    (htarget : action.timedWaitId = some target) (id : CallId) :
    WaitFor.Moves id (state.timedWaits id) action
      ((state.setTimedWait target call).timedWaits id) := by
  by_cases heq : id = target
  · subst heq
    simpa [State.setTimedWait] using hmoves
  · have hsame : (state.setTimedWait target call).timedWaits id = state.timedWaits id := by
      simp [State.setTimedWait, heq]
    rw [hsame]
    exact .stay action (by simp [htarget, Ne.symm heq])

theorem stepWait_moves (hstep : state.stepWait action = some next) :
    (∀ id, Wait.Moves id (state.waits id) action (next.waits id)) ∧
      ∀ id, WaitFor.Moves id (state.timedWaits id) action (next.timedWaits id) := by
  cases action with
  | waitFd target codes =>
      simp only [State.stepWait, Option.ite_none_right_eq_some, Option.some.injEq] at hstep
      obtain ⟨hidle, rfl⟩ := hstep
      exact ⟨moves_setWait (.waitFd codes hidle) rfl, fun id => .stay _ nofun⟩
  | pollEvent target status =>
      simp only [State.stepWait, Option.ite_none_right_eq_some, Option.some.injEq] at hstep
      obtain ⟨hactive, rfl⟩ := hstep
      exact ⟨moves_setWait (.pollEvent status hactive) rfl, fun id => .stay _ nofun⟩
  | pollClosed target =>
      simp only [State.stepWait] at hstep
      split at hstep
      next callback hclosing =>
        cases hstep
        exact ⟨moves_setWait (.pollClosed callback hclosing) rfl, fun id => .stay _ nofun⟩
      · cases hstep
  | resume target =>
      simp only [State.stepWait, Option.map_eq_some_iff] at hstep
      obtain ⟨call, hresume, rfl⟩ := hstep
      exact ⟨moves_setWait (.resume call hresume) rfl, fun id => .stay _ nofun⟩
  | _ => cases hstep

theorem stepTimedWait_moves (hstep : state.stepTimedWait action = some next) :
    (∀ id, Wait.Moves id (state.waits id) action (next.waits id)) ∧
      ∀ id, WaitFor.Moves id (state.timedWaits id) action (next.timedWaits id) := by
  cases action with
  | waitFdFor target codes =>
      simp only [State.stepTimedWait, Option.ite_none_right_eq_some, Option.some.injEq] at hstep
      obtain ⟨hidle, rfl⟩ := hstep
      exact ⟨fun id => .stay _ nofun, moves_setTimedWait (.waitFdFor codes hidle) rfl⟩
  | pollEventFor target status =>
      simp only [State.stepTimedWait, Option.ite_none_right_eq_some, Option.some.injEq] at hstep
      obtain ⟨hactive, rfl⟩ := hstep
      exact ⟨fun id => .stay _ nofun, moves_setTimedWait (.pollEvent status hactive) rfl⟩
  | pollTimeoutFor target =>
      simp only [State.stepTimedWait, Option.ite_none_right_eq_some, Option.some.injEq] at hstep
      obtain ⟨hactive, rfl⟩ := hstep
      exact ⟨fun id => .stay _ nofun, moves_setTimedWait (.pollTimeout hactive) rfl⟩
  | pollClosedFor target =>
      simp only [State.stepTimedWait] at hstep
      split at hstep
      next callback hfault hclosing =>
        cases hstep
        exact ⟨fun id => .stay _ nofun,
          moves_setTimedWait (.pollClosed callback hfault hclosing) rfl⟩
      · cases hstep
  | timerClosedFor target =>
      simp only [State.stepTimedWait] at hstep
      split at hstep
      next callback hfault hclosing =>
        cases hstep
        exact ⟨fun id => .stay _ nofun,
          moves_setTimedWait (.timerClosed callback hfault hclosing) rfl⟩
      · cases hstep
  | resumeFor target =>
      simp only [State.stepTimedWait, Option.map_eq_some_iff] at hstep
      obtain ⟨call, hresume, rfl⟩ := hstep
      exact ⟨fun id => .stay _ nofun, moves_setTimedWait (.resume call hresume) rfl⟩
  | _ => cases hstep

/-- What a step does to every call. -/
theorem step_moves (hstep : machine.step state action = some next) :
    (∀ id, Wait.Moves id (state.waits id) action (next.waits id)) ∧
      ∀ id, WaitFor.Moves id (state.timedWaits id) action (next.timedWaits id) := by
  simp only [machine, State.step] at hstep
  split at hstep
  iterate 4 exact stepWait_moves hstep
  · cases hstep
    exact ⟨fun id => .walk, fun id => .walk⟩
  · exact stepTimedWait_moves hstep

/-- No call waits when the handles are walked, and no initialisation of a timer fails. -/
def Orderly (state : State) : Action → Prop
  | .waitFdFor _ codes => codes.TimerInits
  | .walk => ∀ id, (state.waits id).fields.poll ≠ .active ∧
      (state.timedWaits id).fields.poll ≠ .active
  | _ => True

theorem Wait.Moves.form {id : CallId} {before after : Wait}
    (hmoves : Wait.Moves id before action after) (hform : Wait.Form tidy before)
    (hquiet : tidy = true → action = .walk → before.fields.poll ≠ .active) :
    Wait.Form tidy after := by
  cases hmoves with
  | waitFd codes hidle => exact hform.waitFd hidle codes
  | pollEvent status hactive => exact hform.onPollEvent hactive status
  | pollClosed callback hclosing => exact hform.pollClosed hclosing
  | resume _ hresume => exact hform.resume hresume
  | walk => exact hform.walk fun htidy => hquiet htidy rfl
  | stay => exact hform

theorem WaitFor.Moves.form {id : CallId} {before after : WaitFor}
    (hmoves : WaitFor.Moves id before action after) (hform : WaitFor.Form tidy before)
    (hquiet : tidy = true → action = .walk → before.fields.poll ≠ .active)
    (hinits : tidy = true → ∀ codes, action = .waitFdFor id codes → codes.TimerInits) :
    WaitFor.Form tidy after := by
  cases hmoves with
  | waitFdFor codes hidle => exact hform.waitFdFor hidle fun htidy => hinits htidy codes rfl
  | pollEvent status hactive => exact hform.onPollEventFor hactive status
  | pollTimeout hactive => exact hform.onPollTimeoutFor hactive
  | pollClosed callback hfault hclosing => exact hform.pollClosed hfault hclosing
  | timerClosed callback hfault hclosing => exact hform.timerClosed hfault hclosing
  | resume _ hresume => exact hform.resume hresume
  | walk => exact hform.walk fun htidy => hquiet htidy rfl
  | stay => exact hform

/-- Every call has one of the forms. -/
structure Sound (tidy : Bool) (state : State) : Prop where
  waits : ∀ id, Wait.Form tidy (state.waits id)
  timedWaits : ∀ id, WaitFor.Form tidy (state.timedWaits id)

theorem initial_sound : Sound tidy initial :=
  ⟨fun _ => .fresh, fun _ => .fresh⟩

theorem step_sound (hsound : Sound tidy state) (horderly : tidy = true → Orderly state action)
    (hstep : machine.step state action = some next) : Sound tidy next := by
  obtain ⟨hwaits, htimedWaits⟩ := step_moves hstep
  refine ⟨fun id => (hwaits id).form (hsound.waits id) ?_,
    fun id => (htimedWaits id).form (hsound.timedWaits id) ?_ ?_⟩
  · rintro htidy rfl
    exact (horderly htidy id).1
  · rintro htidy rfl
    exact (horderly htidy id).2
  · rintro htidy codes rfl
    exact horderly htidy

end Fiberuv.Io.PollWait
