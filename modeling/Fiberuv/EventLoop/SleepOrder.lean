import Fiberuv.EventLoop.Sleep

/-! # The order in which sleepers return

The fibers whose timers have fired are those that have returned and those that are ready. So
with the order in which libuv fires timers and the order in which the scheduler resumes
fibers, sleepers return in the order of their due times, none before its own, and none is
forgotten once the loop has caught up with its timers.
-/

namespace Fiberuv.EventLoop.Sleep

open Foundation
open HeapState

/-- The forms of a call of `sleep_for`. -/
inductive Sleeper.Form : Sleeper → Prop where
  | fresh : Form { fields := {} }
  | refused (error : Error) :
      Form { caller := .refused error, memory := .freed, fields := {} }
  | waiting : Form { caller := .waiting, memory := .live, fields := { timer := .active } }
  | closing (call : Sleeper) (hover : call.Over) (hmemory : call.memory = .live)
      (htimer : call.fields.timer = .closing true) : Form call
  | released (call : Sleeper) (hover : call.Over) (hmemory : call.memory = .freed)
      (htimer : call.fields.timer = .closed) : Form call
  | abandoned (pending : Bool) :
      Form { caller := .waiting, memory := .live, fields := { timer := .walked pending } }

section Sleeper

variable {call : Sleeper}

theorem Sleeper.Form.eq_fresh (hform : Sleeper.Form call) (hidle : call.caller = .idle) :
    call = { fields := {} } := by
  cases hform with
  | fresh => rfl
  | closing _ hover => exact absurd hidle hover.begun
  | released _ hover => exact absurd hidle hover.begun
  | _ => cases hidle

theorem Sleeper.Form.eq_waiting (hform : Sleeper.Form call)
    (hactive : call.fields.timer = .active) :
    call = { caller := .waiting, memory := .live, fields := { timer := .active } } := by
  cases hform with
  | waiting => rfl
  | closing _ _ _ htimer => simp [hactive] at htimer
  | released _ _ _ htimer => simp [hactive] at htimer
  | abandoned pending => cases pending <;> cases hactive
  | _ => cases hactive

theorem Sleeper.Form.sleepFor (hform : Sleeper.Form call) (hidle : call.caller = .idle)
    (codes : Codes) : Sleeper.Form (Sleeper.sleepFor call codes) := by
  rw [hform.eq_fresh hidle]
  simp only [Sleeper.sleepFor]
  split
  · exact .refused _
  · split
    · exact .closing _ (.refused rfl rfl) rfl rfl
    · exact .waiting

theorem Sleeper.Form.onSleepTimer (hform : Sleeper.Form call)
    (hactive : call.fields.timer = .active) :
    Sleeper.Form (call.callback Sleeper.onSleepTimer) := by
  rw [hform.eq_waiting hactive]
  exact .closing _ (.settled rfl rfl rfl) rfl rfl

theorem Sleeper.Form.timerClosed (hform : Sleeper.Form call) {callback : Bool}
    (hclosing : call.fields.timer = .closing callback) :
    Sleeper.Form (Sleeper.timerClosed call callback) := by
  cases hform with
  | closing _ hover hmemory htimer =>
      obtain rfl : callback = true := by simpa [htimer] using hclosing.symm
      refine .released _ (hover.frame ?_ ?_ ?_) ?_ ?_ <;>
        simp [Sleeper.timerClosed, Call.callback, Call.delete, hmemory]
  | released _ _ _ htimer => simp [hclosing] at htimer
  | abandoned pending =>
      cases pending with
      | false => cases hclosing
      | true =>
          obtain rfl : callback = false := by simpa [Handle.walked] using hclosing.symm
          exact .abandoned false
  | _ => cases hclosing

theorem Sleeper.Form.resume {next : Sleeper} (hform : Sleeper.Form call)
    (hresume : call.resume = some next) : Sleeper.Form next := by
  obtain ⟨hcaller, hpromise, -, hnext⟩ := Call.resume_frame hresume
  cases hform with
  | closing _ hover hmemory htimer =>
      rw [hnext]
      exact .closing _ (hnext ▸ hover.resume hresume) hmemory htimer
  | released _ hover hmemory htimer =>
      rw [hnext]
      exact .released _ (hnext ▸ hover.resume hresume) hmemory htimer
  | fresh | refused => cases hcaller
  | waiting | abandoned => cases hpromise

theorem Sleeper.Form.walk (hform : Sleeper.Form call) : Sleeper.Form (Sleeper.walk call) := by
  cases hform with
  | fresh => exact .fresh
  | refused error => exact .refused error
  | waiting => exact .abandoned true
  | closing _ hover hmemory htimer =>
      refine .closing _ (hover.frame rfl rfl rfl) hmemory ?_
      simp [Sleeper.walk, htimer, Handle.walk]
  | released _ hover hmemory htimer =>
      refine .released _ (hover.frame rfl rfl rfl) hmemory ?_
      simp [Sleeper.walk, htimer, Handle.walk]
  | abandoned pending =>
      cases pending with
      | false => exact .abandoned false
      | true => exact .abandoned true

/-- A call starts its timer exactly when it is not refused. -/
theorem Sleeper.sleepFor_fresh (codes : Codes) :
    (Sleeper.sleepFor { fields := {} } codes).caller.begun = some codes.refusal ∧
      ((Sleeper.sleepFor { fields := {} } codes).fields.timer = .active ↔
        codes.refusal = none) := by
  simp only [Sleeper.sleepFor, Codes.refusal]
  split_ifs <;> simp [Caller.begun, Call.delete, Sleeper.closeTimer, Handle.uvClose]

theorem Sleeper.timerClosed_frame (call : Sleeper) (callback : Bool) :
    (Sleeper.timerClosed call callback).caller = call.caller ∧
      (Sleeper.timerClosed call callback).promise = call.promise ∧
      (Sleeper.timerClosed call callback).fields.timer = .closed := by
  simp only [Sleeper.timerClosed]
  split_ifs
  · refine ⟨Call.callback_caller _ Call.delete_caller,
      Call.callback_promise _ Call.delete_promise, ?_⟩
    simp only [Call.callback, Call.delete]
    split_ifs
    · split <;> rfl
    · rfl
  · exact ⟨rfl, rfl, rfl⟩

end Sleeper

/-- The timer a step starts. -/
def startedTimer (state : State) : Action → List (Entry SleepId)
  | .sleepFor id delay codes =>
      if codes.refusal = none then [state.timers.entry (timeout delay) id] else []
  | _ => []

/-- The timers that the calls of a run have started. -/
def startedTimers (actions : List Action) : List (Entry SleepId) :=
  machine.trace startedTimer actions initial

/-- What is relied on of libuv: of the timers that are due by the cached time it calls back
the one that is due first, ties in the order in which they were started. -/
def TimersInOrder (state : State) : Action → Prop
  | .expire timer => state.timers.Next timer
  | _ => True

/-- What is relied on of the scheduler: fibers are resumed in the order in which they became
ready. -/
def FibersInOrder (state : State) : Action → Prop
  | .resume id => state.ready.head? = some id
  | _ => True

/-- The steps that libuv and the scheduler take by themselves. -/
def Action.internal : Action → Bool
  | .expire _ | .timerClosed _ | .resume _ => true
  | _ => false

/-- Nothing can happen before time passes or someone calls. -/
def Settled (state : State) : Prop :=
  ∀ action : Action, action.internal = true → TimersInOrder state action →
    FibersInOrder state action → machine.step state action = none

/-- How one call stands to the timers of the loop and to the scheduler. -/
structure Sleeper.Fits (state : State) (id : SleepId) (call : Sleeper) : Prop where
  form : Sleeper.Form call
  armed : call.fields.timer = .active ↔ id ∈ state.timers.pending.map Entry.item
  settled : id ∈ state.timers.fired.map Entry.item → call.promise = some (.ok ())
  waits : id ∈ state.ready → call.caller = .waiting
  back : id ∈ state.returned → call.caller = .returned ()

/-- The invariant, with the timers started so far. -/
structure Sound (state : State) (started : List (Entry SleepId)) : Prop where
  fits : ∀ id, Sleeper.Fits state id (state.sleepers id)
  agenda : state.timers.Kept
  clock : state.timers.clock ≤ state.now
  queue : state.timers.fired.map Entry.item = state.returned ++ state.ready
  distinct : ((state.timers.fired ++ state.timers.pending).map Entry.item).Nodup
  history : ∀ entry, entry ∈ started ↔
    entry ∈ state.timers.fired ++ state.timers.pending ∨ entry ∈ state.abandoned

variable {state next : State} {started : List (Entry SleepId)} {id : SleepId}

theorem initial_sound : Sound initial [] where
  fits := fun _ => ⟨.fresh, by simp [initial], by simp [initial], by simp [initial],
    by simp [initial]⟩
  agenda := Agenda.kept_empty
  clock := le_refl 0
  queue := rfl
  distinct := List.nodup_nil
  history := by simp [initial]

/-- A call that has not begun has no timer. -/
theorem Sleeper.Fits.absent {call : Sleeper} (hfits : Sleeper.Fits state id call)
    (hidle : call.caller = .idle) :
    id ∉ (state.timers.fired ++ state.timers.pending).map Entry.item := by
  have hfresh := hfits.form.eq_fresh hidle
  rw [List.map_append, List.mem_append]
  rintro (hfired | hpending)
  · simpa [hfresh] using hfits.settled hfired
  · simpa [hfresh] using hfits.armed.mpr hpending

theorem Sleeper.Fits.frame {call : Sleeper} (hfits : Sleeper.Fits state id call)
    (hpending : id ∈ next.timers.pending.map Entry.item ↔
      id ∈ state.timers.pending.map Entry.item)
    (hfired : id ∈ next.timers.fired.map Entry.item → id ∈ state.timers.fired.map Entry.item)
    (hready : id ∈ next.ready → id ∈ state.ready)
    (hreturned : id ∈ next.returned → id ∈ state.returned) : Sleeper.Fits next id call :=
  ⟨hfits.form, hfits.armed.trans hpending.symm, fun hnext => hfits.settled (hfired hnext),
    fun hnext => hfits.waits (hready hnext), fun hnext => hfits.back (hreturned hnext)⟩

@[simp] theorem setSleeper_self (state : State) (id : SleepId) (call : Sleeper) :
    (state.setSleeper id call).sleepers id = call := Function.update_self ..

theorem setSleeper_of_ne (state : State) {id other : SleepId} (call : Sleeper)
    (hne : other ≠ id) : (state.setSleeper id call).sleepers other = state.sleepers other :=
  Function.update_of_ne hne ..

theorem fits_setSleeper {base : State} {call : Sleeper} (hself : Sleeper.Fits base id call)
    (hothers : ∀ other ≠ id, Sleeper.Fits base other (base.sleepers other)) (other : SleepId) :
    Sleeper.Fits (base.setSleeper id call) other ((base.setSleeper id call).sleepers other) := by
  by_cases heq : other = id
  · subst heq
    rw [setSleeper_self]
    exact ⟨hself.form, hself.armed, hself.settled, hself.waits, hself.back⟩
  · obtain ⟨hform, harmed, hsettled, hwaits, hback⟩ := hothers other heq
    rw [setSleeper_of_ne _ _ heq]
    exact ⟨hform, harmed, hsettled, hwaits, hback⟩

/-- A call whose timer the agenda does not have moves on without it. -/
theorem Sound.setSleeper (hsound : Sound state started) {call : Sleeper}
    (hfits : Sleeper.Fits state id call) : Sound (state.setSleeper id call) started :=
  ⟨fits_setSleeper hfits fun other _ => hsound.fits other, hsound.agenda, hsound.clock,
    hsound.queue, hsound.distinct, hsound.history⟩

theorem Sound.sleepFor (hsound : Sound state started) (delay : Int) (codes : Codes)
    (hidle : (state.sleepers id).caller = .idle) :
    Sound (state.sleepFor id delay codes)
      (started ++ startedTimer state (.sleepFor id delay codes)) := by
  have hfresh := (hsound.fits id).form.eq_fresh hidle
  have hform := (hsound.fits id).form.sleepFor hidle codes
  have hnew := (hsound.fits id).absent hidle
  have hstart := Sleeper.sleepFor_fresh codes
  rw [← hfresh] at hstart
  rw [List.map_append, List.mem_append, not_or] at hnew
  have hready : id ∉ state.ready := fun hmem => by
    simp [(hsound.fits id).waits hmem] at hidle
  have hreturned : id ∉ state.returned := fun hmem => by
    simp [(hsound.fits id).back hmem] at hidle
  cases hrefusal : codes.refusal with
  | some error =>
      simp only [State.sleepFor, startedTimer, hrefusal, reduceCtorEq, if_false, List.append_nil]
      refine hsound.setSleeper ⟨hform, ?_, fun hmem => absurd hmem hnew.1,
        fun hmem => absurd hmem hready, fun hmem => absurd hmem hreturned⟩
      exact iff_of_false (by simp [hstart.2, hrefusal]) hnew.2
  | none =>
      have hmem : ∀ other, other ∈ (state.timers.add (timeout delay) id).pending.map Entry.item ↔
          other ∈ state.timers.pending.map Entry.item ∨ other = id := by
        simp [Agenda.add, Agenda.entry]
      have hall : state.timers.fired ++ (state.timers.add (timeout delay) id).pending =
          (state.timers.fired ++ state.timers.pending) ++
            [state.timers.entry (timeout delay) id] := (List.append_assoc ..).symm
      simp only [State.sleepFor, startedTimer, hrefusal, if_true]
      refine ⟨fits_setSleeper ⟨hform, ?_, fun hfired => absurd hfired hnew.1,
        fun hmem => absurd hmem hready, fun hmem => absurd hmem hreturned⟩ fun other hne => ?_,
        hsound.agenda.add _ _, hsound.clock, hsound.queue, ?_, fun entry => ?_⟩
      · exact iff_of_true (hstart.2.mpr hrefusal) ((hmem id).mpr (Or.inr rfl))
      · exact (hsound.fits other).frame ((hmem other).trans (or_iff_left hne))
          (fun hold => hold) (fun hold => hold) (fun hold => hold)
      · change ((state.timers.fired ++ (state.timers.add (timeout delay) id).pending).map
          Entry.item).Nodup
        rw [hall, List.map_append, List.nodup_append]
        refine ⟨hsound.distinct, List.pairwise_singleton _ _, ?_⟩
        rintro other hother _ hitem rfl
        rw [List.mem_singleton.mp hitem, List.map_append, List.mem_append] at hother
        exact hother.elim hnew.1 hnew.2
      · change _ ↔ entry ∈ state.timers.fired ++ (state.timers.add (timeout delay) id).pending ∨ _
        rw [hall, List.mem_append, List.mem_append, hsound.history]
        exact or_right_comm

theorem Sound.expire (hsound : Sound state started) {timer : Entry SleepId}
    (hnext : state.timers.Next timer) :
    Sound ({ state with timers := state.timers.fire timer }.callback timer.item
      Sleeper.onSleepTimer) started := by
  have hperm := List.perm_cons_erase hnext.pending
  have hall : ((state.timers.fired ++ [timer]) ++ state.timers.pending.erase timer).Perm
      (state.timers.fired ++ state.timers.pending) := by
    rw [List.append_assoc]
    exact hperm.symm.append_left _
  have hdistinct := (hall.map Entry.item).nodup_iff.mpr hsound.distinct
  have hrest : timer.item ∉ (state.timers.pending.erase timer).map Entry.item := by
    rw [List.append_assoc, List.map_append, List.singleton_append, List.map_cons] at hdistinct
    exact (List.nodup_cons.mp (List.nodup_append.mp hdistinct).2.1).1
  have hactive : (state.sleepers timer.item).fields.timer = .active :=
    (hsound.fits timer.item).armed.mpr (List.mem_map_of_mem hnext.pending)
  have hform := (hsound.fits timer.item).form
  have hwaiting := hform.eq_waiting hactive
  have hnot : timer.item ∉ state.returned := fun hmem => by
    have hback := (hsound.fits timer.item).back hmem
    rw [hwaiting] at hback
    cases hback
  -- The fiber of a pending timer waits, so setting its promise makes it ready.
  have hwoken : { state with timers := state.timers.fire timer }.callback timer.item
      Sleeper.onSleepTimer =
      { state with
        timers := state.timers.fire timer
        ready := state.ready ++ [timer.item] }.setSleeper timer.item
          ((state.sleepers timer.item).callback Sleeper.onSleepTimer) := by
    simp only [State.callback]
    rw [hwaiting]
    rfl
  rw [hwoken]
  refine ⟨fits_setSleeper ?_ fun other hne => (hsound.fits other).frame ?_ ?_ ?_
    (fun hold => hold), hsound.agenda.fire hnext, hsound.clock, ?_, hdistinct, fun other => ?_⟩
  · refine ⟨hform.onSleepTimer hactive, ?_, fun _ => ?_, fun _ => ?_,
      fun hmem => absurd hmem hnot⟩ <;> rw [hwaiting]
    · exact iff_of_false (by decide) hrest
    · rfl
    · rfl
  · have hitems : other ∈ state.timers.pending.map Entry.item ↔
        other = timer.item ∨ other ∈ (state.timers.pending.erase timer).map Entry.item := by
      rw [(hperm.map Entry.item).mem_iff, List.map_cons, List.mem_cons]
    exact (hitems.trans (or_iff_right hne)).symm
  · simp [Agenda.fire, hne]
  · simp [hne]
  · simp [State.setSleeper, Agenda.fire, hsound.queue]
  · rw [hsound.history, ← hall.mem_iff]
    rfl

theorem Sound.resume (hsound : Sound state started) {call : Sleeper}
    (hfirst : state.ready.head? = some id) (hresume : (state.sleepers id).resume = some call) :
    Sound ({ state with
      ready := state.ready.erase id
      returned := state.returned ++ [id] }.setSleeper id call) started := by
  obtain ⟨rest, hready⟩ := List.head?_eq_some_iff.mp hfirst
  obtain ⟨hcaller, -, hbegun, hnext⟩ := Call.resume_frame hresume
  have hqueue := hsound.queue
  have hdistinct := hsound.distinct
  rw [hready] at hqueue
  rw [List.map_append, hqueue] at hdistinct
  have hnot : id ∉ rest := by
    have hcons := (List.nodup_append.mp (List.nodup_append.mp hdistinct).1).2.1
    exact (List.nodup_cons.mp hcons).1
  obtain ⟨hform, harmed, hsettled, -, -⟩ := hsound.fits id
  have hpromise : (state.sleepers id).promise = some (.ok ()) :=
    hsettled (hqueue ▸ List.mem_append_right _ (List.mem_cons_self ..))
  rw [hready, List.erase_cons_head]
  refine ⟨fits_setSleeper ?_ fun other hne => (hsound.fits other).frame Iff.rfl
    (fun hold => hold) ?_ ?_, hsound.agenda, hsound.clock, ?_, hsound.distinct, hsound.history⟩
  · refine ⟨hform.resume hresume, ?_, fun _ => ?_, fun hmem => absurd hmem hnot, fun _ => ?_⟩
    · rw [hnext]
      exact harmed
    · rw [Call.resume_promise hresume]
      exact hpromise
    · simp only [Call.resume, hcaller, hpromise, Option.some.injEq] at hresume
      exact hresume ▸ rfl
  · intro hmem
    rw [hready]
    exact List.mem_cons_of_mem _ hmem
  · intro hmem
    exact (List.mem_append.mp hmem).resolve_right (by simpa using hne)
  · simp [State.setSleeper, hqueue]

theorem Sound.walk (hsound : Sound state started) : Sound state.walk started := by
  refine ⟨fun id => ?_, hsound.agenda.clear, hsound.clock, hsound.queue, ?_, fun entry => ?_⟩
  · obtain ⟨hform, -, hsettled, hwaits, hback⟩ := hsound.fits id
    refine ⟨hform.walk, iff_of_false ?_ (by simp [State.walk, Agenda.clear]), hsettled, hwaits,
      hback⟩
    simp only [State.walk, Sleeper.walk]
    cases (state.sleepers id).fields.timer <;> simp [Handle.walk]
  · have hdistinct := hsound.distinct
    rw [List.map_append] at hdistinct
    simpa [State.walk, Agenda.clear] using (List.nodup_append.mp hdistinct).1
  · rw [hsound.history]
    simp only [State.walk, Agenda.clear, List.mem_append, List.append_nil]
    tauto

theorem step_sound {action : Action} (hsound : Sound state started)
    (horder : TimersInOrder state action ∧ FibersInOrder state action)
    (hstep : machine.step state action = some next) :
    Sound next (started ++ startedTimer state action) := by
  cases action with
  | elapse duration =>
      cases hstep
      simp only [startedTimer, List.append_nil]
      exact ⟨fun id => (hsound.fits id).frame Iff.rfl (fun hold => hold) (fun hold => hold)
        (fun hold => hold), hsound.agenda, hsound.clock.trans (Nat.le_add_right _ _),
        hsound.queue, hsound.distinct, hsound.history⟩
  | updateTime =>
      cases hstep
      simp only [startedTimer, List.append_nil]
      exact ⟨fun id => (hsound.fits id).frame Iff.rfl (fun hold => hold) (fun hold => hold)
        (fun hold => hold), hsound.agenda.advance state.now, max_le hsound.clock le_rfl,
        hsound.queue, hsound.distinct, hsound.history⟩
  | sleepFor id delay codes =>
      simp only [machine, State.step, Option.ite_none_right_eq_some, Option.some.injEq] at hstep
      obtain ⟨hidle, rfl⟩ := hstep
      exact hsound.sleepFor delay codes hidle
  | expire timer =>
      simp only [machine, State.step, Option.ite_none_right_eq_some, Option.some.injEq] at hstep
      obtain ⟨-, rfl⟩ := hstep
      simp only [startedTimer, List.append_nil]
      exact hsound.expire horder.1
  | timerClosed id =>
      simp only [machine, State.step] at hstep
      split at hstep
      next callback hclosing =>
        cases hstep
        simp only [startedTimer, List.append_nil]
        obtain ⟨hform, harmed, hsettled, hwaits, hback⟩ := hsound.fits id
        obtain ⟨hcaller, hpromise, htimer⟩ :=
          Sleeper.timerClosed_frame (state.sleepers id) callback
        refine hsound.setSleeper ⟨hform.timerClosed hclosing, ?_, ?_, ?_, ?_⟩
        · rw [← harmed, htimer, hclosing]
          exact iff_of_false nofun nofun
        · exact hpromise ▸ hsettled
        · exact hcaller ▸ hwaits
        · exact hcaller ▸ hback
      · cases hstep
  | resume id =>
      simp only [machine, State.step, Option.ite_none_right_eq_some,
        Option.map_eq_some_iff] at hstep
      obtain ⟨-, call, hresume, rfl⟩ := hstep
      simp only [startedTimer, List.append_nil]
      exact hsound.resume horder.2 hresume
  | walk =>
      cases hstep
      simp only [startedTimer, List.append_nil]
      exact hsound.walk

/-- Where nothing can happen any more, no fiber is ready. -/
theorem Sound.ready_eq_nil (hsound : Sound state started) (hsettled : Settled state) :
    state.ready = [] := by
  by_contra hready
  obtain ⟨id, hfirst⟩ := Option.isSome_iff_exists.mp (List.isSome_head?.mpr hready)
  have hmem : id ∈ state.ready := List.mem_of_head? hfirst
  have hfired : id ∈ state.timers.fired.map Entry.item :=
    hsound.queue ▸ List.mem_append_right _ hmem
  have hcaller := (hsound.fits id).waits hmem
  have hpromise := (hsound.fits id).settled hfired
  have hnone := hsettled (.resume id) rfl trivial hfirst
  simp [machine, State.step, hmem, Call.resume, hcaller, hpromise] at hnone

/-- Where nothing can happen any more, no timer to come is due. -/
theorem later_of_settled (hsettled : Settled state) {entry : Entry SleepId}
    (hentry : entry ∈ state.timers.pending) : state.timers.clock < entry.due := by
  by_contra hdue
  obtain ⟨first, hnext⟩ := Agenda.exists_next hentry (not_lt.mp hdue)
  have hnone := hsettled (.expire first) rfl hnext trivial
  simp [machine, State.step, hnext.pending] at hnone

/-- Where nothing can happen any more, the state of a call that has returned is deleted. -/
theorem Sound.freed_of_returned (hsound : Sound state started) (hsettled : Settled state)
    (hreturned : id ∈ state.returned) : (state.sleepers id).memory = .freed := by
  have hcaller := (hsound.fits id).back hreturned
  have hnone := hsettled (.timerClosed id) rfl trivial trivial
  generalize hcall : state.sleepers id = call at hcaller
  cases hcall ▸ (hsound.fits id).form with
  | released _ _ hmemory => exact hmemory
  | closing _ _ _ htimer => simp [machine, State.step, hcall, htimer] at hnone
  | _ => cases hcaller

/-- The sleepers return one after the other in the order of their due times, ties in the
order of their calls, and none before the time the loop had cached when it was called has
gone up by its delay. When nothing can happen any more, every sleeper that is due has
returned and its state is deleted, unless `~EventLoop` closed its timer. -/
theorem sleepers_return_in_order (actions : List Action) (state : State)
    (htimers : machine.Meets TimersInOrder actions initial)
    (hfibers : machine.Meets FibersInOrder actions initial)
    (hrun : machine.run actions initial = some state) :
    (∃ entries : List (Entry SleepId), entries.map Entry.item = state.returned ∧
      entries.Pairwise Entry.atMost ∧
      ∀ entry ∈ entries, entry ∈ startedTimers actions ∧ entry.due ≤ state.timers.clock ∧
        (state.sleepers entry.item).caller = .returned ()) ∧
      state.returned.Nodup ∧ state.timers.clock ≤ state.now ∧
      (Settled state → ∀ entry ∈ startedTimers actions, entry.due ≤ state.timers.clock →
        entry.item ∈ state.returned ∧ (state.sleepers entry.item).memory = .freed ∨
          entry ∈ state.abandoned) := by
  have hsound : Sound state (startedTimers actions) := by
    have hall := Machine.run_trace_meets (fun _ _ _ _ => step_sound) actions initial state []
      initial_sound (htimers.and hfibers) hrun
    rwa [List.nil_append] at hall
  have hreturned : (state.timers.fired.take state.returned.length).map Entry.item =
      state.returned := by
    rw [List.map_take, hsound.queue, List.take_left]
  have hdistinct := hsound.distinct
  rw [List.map_append, hsound.queue] at hdistinct
  refine ⟨⟨_, hreturned, hsound.agenda.ordered.sublist (List.take_sublist _ _),
      fun entry hentry => ?_⟩,
    (List.nodup_append.mp (List.nodup_append.mp hdistinct).1).1, hsound.clock,
    fun hsettled entry hentry hdue => ?_⟩
  · have hmem := List.mem_of_mem_take hentry
    exact ⟨(hsound.history entry).mpr (Or.inl (List.mem_append_left _ hmem)),
      hsound.agenda.reached entry hmem,
      (hsound.fits entry.item).back (hreturned ▸ List.mem_map_of_mem hentry)⟩
  · rcases (hsound.history entry).mp hentry with hmem | hlost
    · rcases List.mem_append.mp hmem with hpast | hlater
      · have hqueue := hsound.queue
        rw [hsound.ready_eq_nil hsettled, List.append_nil] at hqueue
        have hback : entry.item ∈ state.returned := hqueue ▸ List.mem_map_of_mem hpast
        exact Or.inl ⟨hback, hsound.freed_of_returned hsettled hback⟩
      · exact absurd (later_of_settled hsettled hlater) (not_lt.mpr hdue)
    · exact Or.inr hlost

/-- The second sleeper is due before the first, and a third one before both is refused. -/
def twoSleepers : List Action :=
  [.elapse 5, .sleepFor 0 30 ⟨0, 0⟩, .updateTime, .sleepFor 1 10 ⟨0, 0⟩, .sleepFor 2 1 ⟨0, -22⟩,
    .elapse 40, .updateTime, .expire ⟨15, 1, 1⟩, .expire ⟨30, 0, 0⟩, .resume 1, .timerClosed 1,
    .resume 0, .timerClosed 0]

theorem sleepers_return_twoSleepers :
    ∃ state, machine.run twoSleepers initial = some state ∧ state.returned = [1, 0] ∧
      ∃ entries : List (Entry SleepId), entries.map Entry.item = state.returned ∧
        entries.Pairwise Entry.atMost ∧
        ∀ entry ∈ entries, entry ∈ startedTimers twoSleepers ∧
          entry.due ≤ state.timers.clock ∧
          (state.sleepers entry.item).caller = .returned () := by
  have htimers : machine.Meets TimersInOrder twoSleepers initial := by
    iterate 7 refine Machine.meets_cons trivial rfl ?_
    iterate 2
      refine Machine.meets_cons ?_ rfl ?_
      · change Agenda.Next _ _
        decide
    iterate 4 refine Machine.meets_cons trivial rfl ?_
    trivial
  have hfibers : machine.Meets FibersInOrder twoSleepers initial := by
    iterate 9 refine Machine.meets_cons trivial rfl ?_
    refine Machine.meets_cons rfl rfl (Machine.meets_cons trivial rfl ?_)
    exact Machine.meets_cons rfl rfl (Machine.meets_cons trivial rfl trivial)
  exact ⟨_, rfl, rfl, (sleepers_return_in_order twoSleepers _ htimers hfibers rfl).1⟩

end Fiberuv.EventLoop.Sleep
