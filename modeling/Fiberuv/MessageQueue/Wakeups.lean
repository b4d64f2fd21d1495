import Fiberuv.MessageQueue.Effect
import Mathlib.Data.List.Perm.Basic

/-! # Wake-ups of the blocking receivers

`send` pushes a message and calls `notify_one` under the lock; `close` calls `notify_all`
after it. In between, messages can be taken by any other receive call, and a thread can
leave `recv_cv_` because of its timeout, or for no reason. It then has to get the lock
before it tests its predicate again, and until then no notification reaches it.

Beside the threads parked on `recv_cv_` the state has those that were notified and those
that left on their own, as long as they have not tested their predicate again. While a
thread is parked there are at most as many messages as notified threads.
-/

namespace Fiberuv.MessageQueue

open Foundation

variable {α : Type}

/-- The call is inside `recv_cv_.wait` or `recv_cv_.wait_for`. -/
def Call.isBlocked : Call α → Bool
  | .blocked _ => true
  | _ => false

/-- The threads that the notification of this step wakes. -/
def State.wakes (state : State α) : Action α → List CallId
  | .send _ _ woken =>
      if !state.closed && state.fiberWaiters.isEmpty then woken.toList else []
  | .closeNotifyAll _ => state.parked
  | _ => []

/-- The call that got the lock back and tests its predicate. -/
def Action.rechecks : Action α → Option CallId
  | .blockedWake call | .blockedTimeout call => some call
  | _ => none

namespace Wakeups

/-- The queue with the threads between `recv_cv_` and the lock. -/
structure State (α : Type) where
  queue : MessageQueue.State α := {}
  notified : List CallId := []
  /-- Left because of a timeout, or spuriously. -/
  awake : List CallId := []

inductive Action (α : Type) where
  /-- A parked thread leaves `recv_cv_` without a notification. -/
  | leave (call : CallId)
  | queue (action : MessageQueue.Action α)

def State.step (state : State α) : Action α → Option (State α)
  | .leave call =>
      if call ∈ state.queue.parked then
        some { state with queue := state.queue.unpark call, awake := call :: state.awake }
      else none
  | .queue action =>
      match action.rechecks with
      | some call =>
          if call ∈ state.notified ∨ call ∈ state.awake then
            (state.queue.step action).map fun queue =>
              { queue
                notified := state.notified.erase call
                awake := state.awake.erase call }
          else none
      | none =>
          (state.queue.step action).map fun queue =>
            { state with queue, notified := state.notified ++ state.queue.wakes action }

/-- The queue under any interleaving of its critical sections and notifications, with
threads that leave `recv_cv_` at any time. -/
def machine (α : Type) : Machine (State α) (Action α) where
  step := State.step

def initial (α : Type) : State α := {}

end Wakeups

/-- A step that parks nobody, wakes nobody and adds no message. -/
structure Calm (state next : State α) : Prop where
  parked : next.parked = state.parked
  queue : next.queue.length ≤ state.queue.length
  blocked : ∀ call, (next.calls call).isBlocked = (state.calls call).isBlocked
  owing : ∀ call waiters, state.calls call = .closing false waiters →
    next.calls call = .closing false waiters
  closed : next.closed = true → state.closed = true ∨
    ∃ call waiters, next.calls call = .closing false waiters

/-- What a step does to the threads on `recv_cv_`. -/
inductive Waking (state : State α) : Action α → State α → Prop where
  | calm {action next} (hcalm : Calm state next) (hwakes : state.wakes action = [])
      (hrechecks : action.rechecks = none) : Waking state action next
  /-- A message is pushed and nobody is parked. -/
  | pushAlone {call value message} (hidle : state.calls call = .idle)
      (hopen : state.closed = false) (hwakes : state.wakes (.send call value none) = [])
      (hnobody : state.parked = []) :
      Waking state (.send call value none)
        ((state.pushBack message).become call (.sent message true))
  /-- A message is pushed and one parked thread is notified. -/
  | push {call value message} (woken : CallId) (hidle : state.calls call = .idle)
      (hopen : state.closed = false)
      (hwakes : state.wakes (.send call value (some woken)) = [woken])
      (hparked : woken ∈ state.parked) :
      Waking state (.send call value (some woken))
        (((state.pushBack message).unpark woken).become call (.sent message true))
  | park {action call} (timed : Bool) (hwakes : state.wakes action = [])
      (hrechecks : action.rechecks = none) (hidle : state.calls call = .idle)
      (hqueue : state.queue = []) (hopen : state.closed = false) :
      Waking state action
        ({ state with parked := state.parked ++ [call] }.become call (.blocked timed))
  /-- A thread that was parked before tests its predicate and parks again. -/
  | parkAgain {action call} (timed : Bool) (hrechecks : action.rechecks = some call)
      (hblocked : (state.calls call).isBlocked = true) (hqueue : state.queue = [])
      (hopen : state.closed = false) :
      Waking state action ({ state.unpark call with
        parked := (state.unpark call).parked ++ [call] }.become call (.blocked timed))
  /-- It takes a message, or returns without one when there is none. -/
  | done {action call next} (hrechecks : action.rechecks = some call)
      (hblocked : (state.calls call).isBlocked = true)
      (hparked : next.parked = (state.unpark call).parked)
      (hqueue : next.queue.length ≤ state.queue.length - 1) (hclosed : next.closed = state.closed)
      (hself : (next.calls call).isBlocked = false)
      (hothers : ∀ other, other ≠ call → next.calls other = state.calls other) :
      Waking state action next
  | notifyAll {call waiters} (hclosing : state.calls call = .closing false waiters) :
      Waking state (.closeNotifyAll call)
        ({ state with parked := [] }.become call (.closing true waiters))

section Steps

variable {state next : State α} {action : Action α}

theorem calm_become {base : State α} {call : CallId} {position : Call α}
    (hcalls : base.calls = state.calls) (hparked : base.parked = state.parked)
    (hqueue : base.queue.length ≤ state.queue.length) (hclosed : base.closed = state.closed)
    (hbefore : (state.calls call).isBlocked = false) (hafter : position.isBlocked = false)
    (howing : ∀ waiters, state.calls call ≠ .closing false waiters) :
    Calm state (base.become call position) := by
  refine ⟨hparked, hqueue, fun other => ?_, fun other waiters hother => ?_, fun hnext => ?_⟩
  · rw [State.become_calls, hcalls]
    split
    next heq => rw [heq, hbefore, hafter]
    next => rfl
  · rw [State.become_calls, hcalls, if_neg]
    · exact hother
    · rintro rfl
      exact howing waiters hother
  · exact .inl (hclosed ▸ hnext)

/-- A call that has just begun ends its critical section without parking. -/
theorem calm_of_idle {base : State α} {call : CallId} {position : Call α}
    (hidle : state.calls call = .idle) (hcalls : base.calls = state.calls)
    (hparked : base.parked = state.parked) (hqueue : base.queue.length ≤ state.queue.length)
    (hclosed : base.closed = state.closed) (hafter : position.isBlocked = false) :
    Calm state (base.become call position) := by
  refine calm_become hcalls hparked hqueue hclosed ?_ hafter ?_
  · rw [hidle]
    rfl
  · rw [hidle]
    exact nofun

theorem calm_take {call : CallId} {front : Message α} {rest : List (Message α)}
    (hidle : state.calls call = .idle) (hqueue : state.queue = front :: rest) :
    Calm state (state.popFrontUnlocked call front rest) := by
  refine calm_of_idle hidle rfl rfl ?_ rfl rfl
  rw [hqueue]
  exact Nat.le_succ _

theorem takeOrRegister_calm {call : CallId} {waiting : Call α} (hidle : state.calls call = .idle)
    (hwaiting : waiting.isBlocked = false) : Calm state (state.takeOrRegister call waiting) := by
  unfold State.takeOrRegister
  split
  next hqueue => exact calm_take hidle hqueue
  next =>
    split
    next => exact calm_of_idle hidle rfl rfl (Nat.le_refl _) rfl rfl
    next => exact calm_of_idle hidle rfl rfl (Nat.le_refl _) rfl hwaiting

theorem takeOrPark_start {call : CallId} {timed : Bool} (hidle : state.calls call = .idle)
    (hwakes : state.wakes action = []) (hrechecks : action.rechecks = none) :
    Waking state action (state.takeOrPark call timed) := by
  unfold State.takeOrPark
  split
  next hqueue => exact .calm (calm_take hidle hqueue) hwakes hrechecks
  next hqueue =>
    split
    next => exact .calm (calm_of_idle hidle rfl rfl (Nat.le_refl _) rfl rfl) hwakes hrechecks
    next hopen => exact .park timed hwakes hrechecks hidle hqueue (by simpa using hopen)

/-- A thread that got the lock back returns. -/
theorem done_become {base : State α} {call : CallId} {position : Call α}
    (hrechecks : action.rechecks = some call) (hblocked : (state.calls call).isBlocked = true)
    (hcalls : base.calls = state.calls) (hparked : base.parked = (state.unpark call).parked)
    (hqueue : base.queue.length ≤ state.queue.length - 1) (hclosed : base.closed = state.closed)
    (hafter : position.isBlocked = false) : Waking state action (base.become call position) := by
  refine .done hrechecks hblocked hparked hqueue hclosed ?_ fun other hne => ?_
  · rw [State.become_calls_self]
    exact hafter
  · rw [State.become_calls_of_ne hne, hcalls]

theorem take_again {call : CallId} {front : Message α} {rest : List (Message α)}
    (hrechecks : action.rechecks = some call) (hblocked : (state.calls call).isBlocked = true)
    (hqueue : state.queue = front :: rest) :
    Waking state action ((state.unpark call).popFrontUnlocked call front rest) := by
  refine done_become hrechecks hblocked rfl rfl ?_ rfl rfl
  rw [hqueue]
  exact Nat.le_refl _

theorem return_again {call : CallId} (hrechecks : action.rechecks = some call)
    (hblocked : (state.calls call).isBlocked = true) (hqueue : state.queue = []) :
    Waking state action ((state.unpark call).become call (.received none)) := by
  refine done_become hrechecks hblocked rfl rfl ?_ rfl rfl
  simp [State.unpark, hqueue]

theorem takeOrNull_again {call : CallId} (hrechecks : action.rechecks = some call)
    (hblocked : (state.calls call).isBlocked = true) :
    Waking state action ((state.unpark call).takeOrNull call) := by
  unfold State.takeOrNull
  split
  next hqueue => exact take_again hrechecks hblocked hqueue
  next hqueue => exact return_again hrechecks hblocked hqueue

theorem takeOrPark_again {call : CallId} {timed : Bool} (hrechecks : action.rechecks = some call)
    (hblocked : (state.calls call).isBlocked = true) :
    Waking state action ((state.unpark call).takeOrPark call timed) := by
  unfold State.takeOrPark
  split
  next hqueue => exact take_again hrechecks hblocked hqueue
  next hqueue =>
    split
    next => exact return_again hrechecks hblocked hqueue
    next hopen =>
      have hopen : state.closed = false := Bool.not_eq_true _ |>.mp hopen
      exact .parkAgain timed hrechecks hblocked hqueue hopen

theorem sendPayload_waking {call : CallId} {value : α} {woken : Option CallId}
    (hidle : state.calls call = .idle)
    (hsend : state.sendPayload call value woken = some next) :
    Waking state (.send call value woken) next := by
  unfold State.sendPayload at hsend
  split at hsend
  next hclosed =>
    cases hsend
    refine .calm (calm_of_idle hidle rfl rfl (Nat.le_refl _) rfl rfl) ?_ rfl
    simp [State.wakes, hclosed]
  next hopen =>
    have hopen : state.closed = false := by simpa using hopen
    split at hsend
    next waiter rest hwaiters =>
      cases hsend
      refine .calm (calm_of_idle hidle rfl rfl (Nat.le_refl _) rfl rfl) ?_ rfl
      simp [State.wakes, hwaiters]
    next hwaiters =>
      have hwakes : state.wakes (.send call value woken) = woken.toList := by
        simp [State.wakes, hopen, hwaiters]
      obtain ⟨notified, hnotify, rfl⟩ := Option.map_eq_some_iff.mp hsend
      cases woken with
      | none =>
          simp only [State.notifyOne, Option.ite_none_right_eq_some, Option.some.injEq] at hnotify
          obtain ⟨hnobody, rfl⟩ := hnotify
          exact .pushAlone hidle hopen hwakes hnobody
      | some woken =>
          simp only [State.notifyOne, Option.ite_none_right_eq_some, Option.some.injEq] at hnotify
          obtain ⟨hparked, rfl⟩ := hnotify
          exact .push woken hidle hopen hwakes hparked

theorem close_calm {call : CallId} (hidle : state.calls call = .idle) :
    Calm state (state.close call) := by
  unfold State.close
  split
  next => exact calm_of_idle hidle rfl rfl (Nat.le_refl _) rfl rfl
  next =>
    have hcalls : Calm state (state.become call (.closing false state.fiberWaiters)) :=
      calm_of_idle hidle rfl rfl (Nat.le_refl _) rfl rfl
    refine ⟨rfl, Nat.le_refl _, hcalls.blocked, hcalls.owing, fun _ => .inr ?_⟩
    exact ⟨call, state.fiberWaiters, by rw [State.become_calls_self]⟩

theorem closeSetValue_calm {call : CallId} {waiters : List CallId}
    (hclosing : state.calls call = .closing true waiters) :
    Calm state (state.closeSetValue call waiters) := by
  have hbefore : (state.calls call).isBlocked = false := by
    rw [hclosing]
    rfl
  have howing : ∀ waiters, state.calls call ≠ .closing false waiters := by
    rw [hclosing]
    exact nofun
  cases waiters with
  | nil => exact calm_become rfl rfl (Nat.le_refl _) rfl hbefore rfl howing
  | cons waiter rest =>
      simp only [State.closeSetValue]
      split
      next => exact calm_become rfl rfl (Nat.le_refl _) rfl hbefore rfl howing
      next => exact ⟨rfl, Nat.le_refl _, fun _ => rfl, fun _ _ => id, .inl⟩

theorem sendSetValue_calm {call waiter : CallId} {message : Message α}
    (hhand : state.calls call = .handingOff message waiter) :
    Calm state (state.sendSetValue call message waiter) := by
  have hbefore : (state.calls call).isBlocked = false := by
    rw [hhand]
    rfl
  have howing : ∀ waiters, state.calls call ≠ .closing false waiters := by
    rw [hhand]
    exact nofun
  unfold State.sendSetValue
  split
  next => exact calm_become rfl rfl (Nat.le_refl _) rfl hbefore rfl howing
  next => exact calm_become rfl rfl (Nat.le_refl _) rfl hbefore rfl howing

/-- A `recv` or `recv_for` that has registered takes part in no wait on `recv_cv_`. -/
theorem calm_of_awaits {base : State α} {call : CallId} {position : Call α}
    (hawaits : (state.calls call).awaits = true) (hcalls : base.calls = state.calls)
    (hparked : base.parked = state.parked) (hqueue : base.queue = state.queue)
    (hclosed : base.closed = state.closed) (hafter : position.isBlocked = false) :
    Calm state (base.become call position) := by
  refine calm_become hcalls hparked (Nat.le_of_eq (by rw [hqueue])) hclosed ?_ hafter ?_
  · cases hcall : state.calls call <;> first | rfl | simp [hcall, Call.awaits] at hawaits
  · intro waiters hclosing
    rw [hclosing] at hawaits
    cases hawaits

theorem step_waking (hstep : state.step action = some next) : Waking state action next := by
  unfold State.step at hstep
  split at hstep
  · cases hstep
  split at hstep
  all_goals rename_i hcall
  case h_1 => exact sendPayload_waking hcall hstep
  case h_2 => cases hstep; exact .calm (sendSetValue_calm hcall) rfl rfl
  case h_3 => cases hstep; exact .calm (takeOrRegister_calm hcall rfl) rfl rfl
  case h_4 =>
    obtain ⟨result, -, rfl⟩ := Option.map_eq_some_iff.mp hstep
    exact .calm (calm_of_awaits (hcall ▸ rfl) rfl rfl rfl rfl rfl) rfl rfl
  case h_5 => cases hstep; exact .calm (takeOrRegister_calm hcall rfl) rfl rfl
  case h_6 =>
    cases hstep
    refine .calm (calm_of_awaits (hcall ▸ rfl) rfl rfl rfl rfl ?_) rfl rfl
    split <;> rfl
  case h_7 =>
    cases hstep
    unfold State.recvForLookup
    split
    next => exact .calm (calm_of_awaits (hcall ▸ rfl) rfl rfl rfl rfl rfl) rfl rfl
    next => exact .calm (calm_of_awaits (hcall ▸ rfl) rfl rfl rfl rfl rfl) rfl rfl
  case h_8 => cases hstep; exact .calm (calm_of_awaits (hcall ▸ rfl) rfl rfl rfl rfl rfl) rfl rfl
  case h_9 => cases hstep; exact takeOrPark_start hcall rfl rfl
  case h_10 => cases hstep; exact takeOrPark_start hcall rfl rfl
  case h_11 => cases hstep; exact takeOrPark_again rfl (hcall ▸ rfl)
  case h_12 => cases hstep; exact takeOrNull_again rfl (hcall ▸ rfl)
  case h_13 =>
    cases hstep
    unfold State.tryRecv State.takeOrNull
    split
    next hqueue => exact .calm (calm_take hcall hqueue) rfl rfl
    next => exact .calm (calm_of_idle hcall rfl rfl (Nat.le_refl _) rfl rfl) rfl rfl
  case h_14 => cases hstep; exact .calm (close_calm hcall) rfl rfl
  case h_15 => cases hstep; exact .notifyAll hcall
  case h_16 => cases hstep; exact .calm (closeSetValue_calm hcall) rfl rfl
  case h_17 => cases hstep

end Steps

namespace Wakeups

/-- The threads inside `recv_cv_.wait` and `wait_for`. -/
def State.waiting (state : State α) : List CallId :=
  state.queue.parked ++ (state.notified ++ state.awake)

structure Sound (state : State α) : Prop where
  nodup : state.waiting.Nodup
  blocked : ∀ call, call ∈ state.waiting ↔ (state.queue.calls call).isBlocked = true
  messages : state.queue.parked ≠ [] → state.queue.queue.length ≤ state.notified.length
  closed : state.queue.parked ≠ [] → state.queue.closed = true →
    ∃ call waiters, state.queue.calls call = .closing false waiters

theorem sound_initial : Sound (initial α) where
  nodup := List.nodup_nil
  blocked _ := ⟨nofun, nofun⟩
  messages := fun hparked => absurd rfl hparked
  closed := fun hparked => absurd rfl hparked

section Sound

variable {state next : State α} {queue : MessageQueue.State α} {call : CallId}

/-- The same threads are inside, at other places. -/
theorem Sound.rearrange (hsound : Sound state) (hperm : next.waiting.Perm state.waiting)
    (hcalls : ∀ call, (next.queue.calls call).isBlocked = (state.queue.calls call).isBlocked)
    (hmessages : next.queue.parked ≠ [] → next.queue.queue.length ≤ next.notified.length)
    (hclosed : next.queue.parked ≠ [] → next.queue.closed = true →
      ∃ call waiters, next.queue.calls call = .closing false waiters) : Sound next := by
  refine ⟨hperm.nodup_iff.mpr hsound.nodup, fun call => ?_, hmessages, hclosed⟩
  rw [hperm.mem_iff, hsound.blocked, hcalls]

/-- One of the parked threads is put elsewhere. -/
theorem perm_unpark {parked elsewhere : List CallId} (hmem : call ∈ parked) :
    (parked.erase call ++ call :: elsewhere).Perm (parked ++ elsewhere) :=
  List.perm_middle.trans ((List.perm_cons_erase hmem).symm.append_right elsewhere)

theorem Sound.leave (hsound : Sound state) (hmem : call ∈ state.queue.parked) :
    Sound { state with queue := state.queue.unpark call, awake := call :: state.awake } := by
  have hstill : (state.queue.unpark call).parked ≠ [] → state.queue.parked ≠ [] :=
    fun _ => List.ne_nil_of_mem hmem
  refine hsound.rearrange ?_ (fun _ => rfl) (fun hparked => hsound.messages (hstill hparked))
    (fun hparked => hsound.closed (hstill hparked))
  refine List.Perm.trans ?_ (perm_unpark hmem)
  exact List.perm_middle.append_left _

theorem Sound.calm (hsound : Sound state) (hcalm : Calm state.queue queue) :
    Sound { state with queue } := by
  refine hsound.rearrange ?_ hcalm.blocked ?_ ?_
  · rw [State.waiting, State.waiting, hcalm.parked]
  · rw [hcalm.parked]
    exact fun hparked => Nat.le_trans hcalm.queue (hsound.messages hparked)
  · rw [hcalm.parked]
    intro hparked hnext
    obtain hclosed | howes := hcalm.closed hnext
    · obtain ⟨closer, waiters, hcloser⟩ := hsound.closed hparked hclosed
      exact ⟨closer, waiters, hcalm.owing closer waiters hcloser⟩
    · exact howes

/-- `send` pushes a message and notifies one of the parked threads. -/
theorem Sound.push (hsound : Sound state) {woken : CallId} {message : Message α}
    (hidle : state.queue.calls call = .idle) (hopen : state.queue.closed = false)
    (hparked : woken ∈ state.queue.parked) :
    Sound { state with
      queue := ((state.queue.pushBack message).unpark woken).become call (.sent message true)
      notified := state.notified ++ [woken] } := by
  have hcalm : Calm state.queue (state.queue.become call (.sent message true)) :=
    calm_of_idle hidle rfl rfl (Nat.le_refl _) rfl rfl
  refine hsound.rearrange ?_ hcalm.blocked ?_ ?_
  · have hmoved : (state.notified ++ [woken] ++ state.awake).Perm
        (woken :: (state.notified ++ state.awake)) := by
      rw [List.append_assoc]
      exact List.perm_middle
    exact (hmoved.append_left _).trans (perm_unpark hparked)
  · intro _
    have hbefore := hsound.messages (List.ne_nil_of_mem hparked)
    simpa [MessageQueue.State.unpark, MessageQueue.State.pushBack] using hbefore
  · intro _ hclosed
    exact absurd (hopen.symm.trans hclosed) nofun

/-- A thread that found neither a message nor a closed queue parks beside the others. -/
theorem sound_of_parked {parked notified awake : List CallId} {timed : Bool}
    (hnodup : (parked ++ (notified ++ awake)).Nodup)
    (hblocked : ∀ other, other ∈ parked ++ (notified ++ awake) ↔
      other ≠ call ∧ (queue.calls other).isBlocked = true)
    (hqueue : queue.queue = []) (hopen : queue.closed = false) :
    Sound ⟨{ queue with parked := parked ++ [call] }.become call (.blocked timed),
      notified, awake⟩ := by
  have hperm : (parked ++ [call] ++ (notified ++ awake)).Perm
      (call :: (parked ++ (notified ++ awake))) := by
    rw [List.append_assoc]
    exact List.perm_middle
  have hnot : call ∉ parked ++ (notified ++ awake) := fun hmem => ((hblocked call).mp hmem).1 rfl
  refine ⟨hperm.nodup_iff.mpr (List.nodup_cons.mpr ⟨hnot, hnodup⟩), fun other => ?_, ?_, ?_⟩
  · refine hperm.mem_iff.trans ?_
    rw [List.mem_cons, hblocked, State.become_calls]
    by_cases hself : other = call
    · simp [hself, Call.isBlocked]
    · simp [hself]
  · intro _
    rw [State.become_queue, hqueue]
    exact Nat.zero_le _
  · intro _ hclosed
    exact absurd (hopen.symm.trans hclosed) nofun

theorem Sound.park (hsound : Sound state) {timed : Bool} (hidle : state.queue.calls call = .idle)
    (hqueue : state.queue.queue = []) (hopen : state.queue.closed = false) :
    Sound { state with
      queue := { state.queue with parked := state.queue.parked ++ [call] }.become call
        (.blocked timed) } := by
  refine sound_of_parked hsound.nodup (fun other => ?_) hqueue hopen
  refine (hsound.blocked other).trans ⟨fun hblocked => ⟨?_, hblocked⟩, And.right⟩
  rintro rfl
  rw [hidle] at hblocked
  cases hblocked

/-- A step that is not the return of a thread from `recv_cv_`. -/
theorem Sound.queueStep (hsound : Sound state) {action : MessageQueue.Action α}
    (hrechecks : action.rechecks = none) (hwaking : Waking state.queue action queue) :
    Sound { state with queue, notified := state.notified ++ state.queue.wakes action } := by
  cases hwaking with
  | calm hcalm hwakes _ =>
      rw [hwakes, List.append_nil]
      exact hsound.calm hcalm
  | @pushAlone call value message hidle hopen hwakes hnobody =>
      rw [hwakes, List.append_nil]
      have hcalm : Calm state.queue (state.queue.become call (.sent message true)) :=
        calm_of_idle hidle rfl rfl (Nat.le_refl _) rfl rfl
      exact hsound.rearrange (List.Perm.refl _) hcalm.blocked
        (fun hparked => absurd hnobody hparked) (fun hparked => absurd hnobody hparked)
  | push woken hidle hopen hwakes hparked =>
      rw [hwakes]
      exact hsound.push hidle hopen hparked
  | park timed hwakes _ hidle hqueue hopen =>
      rw [hwakes, List.append_nil]
      exact hsound.park hidle hqueue hopen
  | parkAgain timed hagain => rw [hrechecks] at hagain; cases hagain
  | done hagain => rw [hrechecks] at hagain; cases hagain
  | @notifyAll call waiters hclosing =>
      have hblocked (other : CallId) :
          (({ state.queue with parked := [] }.become call
            (.closing true waiters)).calls other).isBlocked =
              (state.queue.calls other).isBlocked := by
        rw [State.become_calls]
        split
        next heq =>
          rw [heq, hclosing]
          rfl
        next => rfl
      refine hsound.rearrange ?_ hblocked (fun hparked => absurd rfl hparked)
        (fun hparked => absurd rfl hparked)
      have hmoved : (state.notified ++ state.queue.parked).Perm
          (state.queue.parked ++ state.notified) := List.perm_append_comm
      have hthree := hmoved.append_right state.awake
      rwa [List.append_assoc state.queue.parked] at hthree

/-- The threads inside without this one. -/
theorem erase_waiting (hsound : Sound state) (call : CallId) :
    state.queue.parked.erase call ++ (state.notified.erase call ++ state.awake.erase call) =
      state.waiting.filter (· != call) := by
  have hnodup := hsound.nodup
  rw [State.waiting, List.nodup_append, List.nodup_append] at hnodup
  obtain ⟨hparked, ⟨hnotified, hawake, -⟩, -⟩ := hnodup
  rw [State.waiting, List.filter_append, List.filter_append, hparked.erase_eq_filter,
    hnotified.erase_eq_filter, hawake.erase_eq_filter]

theorem mem_erase_waiting (hsound : Sound state) (call other : CallId) :
    other ∈ state.queue.parked.erase call ++
        (state.notified.erase call ++ state.awake.erase call) ↔
      other ≠ call ∧ (state.queue.calls other).isBlocked = true := by
  rw [erase_waiting hsound, List.mem_filter, hsound.blocked, bne_iff_ne, and_comm]

/-- A thread gets the lock back and returns. -/
theorem Sound.finish (hsound : Sound state)
    (hblocked : (state.queue.calls call).isBlocked = true)
    (hparked : queue.parked = (state.queue.unpark call).parked)
    (hqueue : queue.queue.length ≤ state.queue.queue.length - 1)
    (hclosed : queue.closed = state.queue.closed) (hself : (queue.calls call).isBlocked = false)
    (hothers : ∀ other, other ≠ call → queue.calls other = state.queue.calls other) :
    Sound ⟨queue, state.notified.erase call, state.awake.erase call⟩ := by
  have hwaiting : State.waiting ⟨queue, state.notified.erase call, state.awake.erase call⟩ =
      state.waiting.filter (· != call) := by
    rw [← erase_waiting hsound, State.waiting, hparked]
    rfl
  have hstill : queue.parked ≠ [] → state.queue.parked ≠ [] := by
    intro hsome hnone
    rw [hparked, State.unpark, hnone] at hsome
    exact hsome rfl
  refine ⟨?_, fun other => ?_, fun hsome => ?_, fun hsome hnext => ?_⟩
  · rw [hwaiting]
    exact hsound.nodup.filter _
  · rw [hwaiting, List.mem_filter, hsound.blocked, bne_iff_ne]
    obtain rfl | hne := eq_or_ne other call
    · simp [hself]
    · simp [hne, hothers other hne]
  · have hbefore := hsound.messages (hstill hsome)
    have herase : state.notified.length - 1 ≤ (state.notified.erase call).length :=
      List.le_length_erase
    change queue.queue.length ≤ (state.notified.erase call).length
    omega
  · rw [hclosed] at hnext
    obtain ⟨closer, waiters, hcloser⟩ := hsound.closed (hstill hsome) hnext
    refine ⟨closer, waiters, ?_⟩
    rw [hothers closer, hcloser]
    rintro rfl
    rw [hcloser] at hblocked
    cases hblocked

/-- A thread gets the lock back and tests its predicate. -/
theorem Sound.recheck (hsound : Sound state) {action : MessageQueue.Action α}
    (hrechecks : action.rechecks = some call) (hwaking : Waking state.queue action queue) :
    Sound ⟨queue, state.notified.erase call, state.awake.erase call⟩ := by
  have hnodup := hsound.nodup.filter (· != call)
  rw [← erase_waiting hsound] at hnodup
  cases hwaking with
  | calm _ _ hnone => rw [hrechecks] at hnone; cases hnone
  | pushAlone => cases hrechecks
  | push => cases hrechecks
  | park _ _ hnone => rw [hrechecks] at hnone; cases hnone
  | notifyAll => cases hrechecks
  | parkAgain timed hsame hblocked hqueue hopen =>
      rw [hrechecks] at hsame
      obtain rfl := Option.some.inj hsame
      exact sound_of_parked hnodup (mem_erase_waiting hsound _) hqueue hopen
  | done hsame hblocked hparked hqueue hclosed hself hothers =>
      rw [hrechecks] at hsame
      obtain rfl := Option.some.inj hsame
      exact hsound.finish hblocked hparked hqueue hclosed hself hothers

end Sound

theorem step_sound {state next : State α} {action : Action α} (hsound : Sound state)
    (hstep : (machine α).step state action = some next) : Sound next := by
  simp only [machine] at hstep
  cases action with
  | leave call =>
      simp only [State.step, Option.ite_none_right_eq_some, Option.some.injEq] at hstep
      obtain ⟨hmem, rfl⟩ := hstep
      exact hsound.leave hmem
  | queue action =>
      simp only [State.step] at hstep
      split at hstep
      next call hrechecks =>
        simp only [Option.ite_none_right_eq_some, Option.map_eq_some_iff] at hstep
        obtain ⟨-, queue, hqueue, rfl⟩ := hstep
        exact hsound.recheck hrechecks (step_waking hqueue)
      next hrechecks =>
        obtain ⟨queue, hqueue, rfl⟩ := Option.map_eq_some_iff.mp hstep
        exact hsound.queueStep hrechecks (step_waking hqueue)

/-- A thread is parked on `recv_cv_` without a notification although a message is there for
it, or although the queue is closed and no `notify_all` is to come. -/
def Missed (state : State α) : Prop :=
  state.queue.parked ≠ [] ∧
    (state.notified.length < state.queue.queue.length ∨
      state.queue.closed = true ∧
        ∀ call waiters, state.queue.calls call ≠ .closing false waiters)

/-- The blocking receivers miss no wake-up: the threads inside the wait are listed once each,
as parked, notified or awake, and none of the parked ones is missed. -/
theorem no_missed_wakeup (state : State α) (hreach : (machine α).Reachable (initial α) state) :
    state.waiting.Nodup ∧
      (∀ call, call ∈ state.waiting ↔ (state.queue.calls call).isBlocked = true) ∧
      ¬ Missed state := by
  have hsound : Sound state :=
    Machine.reachable_invariant (fun _ _ _ => step_sound) sound_initial hreach
  refine ⟨hsound.nodup, hsound.blocked, ?_⟩
  rintro ⟨hparked, hmore | ⟨hclosed, hnone⟩⟩
  · exact absurd (hsound.messages hparked) (Nat.not_le.mpr hmore)
  · obtain ⟨call, waiters, hcloser⟩ := hsound.closed hparked hclosed
    exact hnone call waiters hcloser

/-- Three threads park. One times out, one is notified, and the first takes the message
before the notified one has the lock. -/
def stolenByTimeout : List (Action Nat) :=
  [.queue (.recvBlocking 0), .queue (.recvBlockingFor 1), .queue (.recvBlocking 2), .leave 1,
    .queue (.send 3 7 (some 0)), .queue (.blockedTimeout 1), .queue (.blockedWake 0),
    .queue (.send 4 8 (some 2)), .queue (.close 5)]

theorem no_missed_wakeup_stolenByTimeout :
    ∃ state, (machine Nat).run stolenByTimeout (initial Nat) = some state ∧
      state.queue.parked = [0] ∧ state.notified = [2] ∧ state.queue.queue = [⟨4, 8⟩] ∧
      state.waiting.Nodup ∧
      (∀ call, call ∈ state.waiting ↔ (state.queue.calls call).isBlocked = true) ∧
      ¬ Missed state :=
  ⟨_, rfl, rfl, rfl, rfl, no_missed_wakeup _ ⟨stolenByTimeout, rfl⟩⟩

end Wakeups

end Fiberuv.MessageQueue
