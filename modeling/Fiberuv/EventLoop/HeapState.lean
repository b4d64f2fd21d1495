import Fiberuv.Foundation.Decision
import Fiberuv.Uv

/-! # Calls whose state embeds handles

`sleep_for`, `wait_fd` and `wait_fd_for` allocate a state with `new`, put their handles
into it and leave it to libuv: callbacks reach it through `handle->data`, and the close
callback of the last handle deletes it. The promise is shared with the fiber that waits.

The type of the fields of the state and that of the value of the promise are parameters.
-/

namespace Fiberuv.EventLoop.HeapState

open Foundation

inductive Memory where
  | absent
  | live
  | freed
  deriving DecidableEq

/-- A handle inside the state. -/
inductive Handle where
  /-- Zeroed memory that libuv was never told of. -/
  | raw
  | idle
  /-- Started: its callback can run. -/
  | active
  /-- `uv_close` was called, by `~EventLoop` without a callback. -/
  | closing (callback : Bool)
  | closed
  deriving DecidableEq

/-- What the process does not survive. -/
inductive Fault where
  /-- `uv_close` of a handle that was never initialised. -/
  | closesRaw
  | closesTwice
  | usesFreed
  | freesTwice
  /-- The promise is already satisfied. -/
  | setsTwice
  deriving DecidableEq

inductive Caller (Value : Type) where
  | idle
  /-- A libuv call that the function makes before it waits was refused. -/
  | refused (error : Error)
  | waiting
  | returned (value : Value)
  | threw (error : Error)
  deriving DecidableEq

structure Call (Fields Value : Type) where
  caller : Caller Value := .idle
  memory : Memory := .absent
  promise : Option (Except Error Value) := none
  fault : Option Fault := none
  fields : Fields

namespace Handle

/-- `uv_is_closing`. -/
def isClosing : Handle → Bool
  | closing _ | closed => true
  | _ => false

/-- libuv may call back for the handle, or will close it. -/
def registered : Handle → Bool
  | idle | active | closing _ => true
  | _ => false

/-- `uv_poll_stop` and `uv_timer_stop`. -/
def stop : Handle → Handle
  | active => idle
  | handle => handle

def uvClose : Handle → Except Fault Handle
  | raw => .error .closesRaw
  | closing _ | closed => .error .closesTwice
  | idle | active => .ok (closing true)

/-- What the walk of `~EventLoop` does to the handle. -/
def walk : Handle → Handle
  | idle | active => closing false
  | handle => handle

/-- A handle whose close callback is still to come, or has run. -/
def left (pending : Bool) : Handle :=
  if pending then closing true else closed

/-- A handle that the walk of `~EventLoop` closed. -/
def walked (pending : Bool) : Handle :=
  if pending then closing false else closed

end Handle

/-- What the call has returned or thrown. -/
def Caller.result {Value : Type} : Caller Value → Option (Except Error Value)
  | idle | waiting => none
  | refused error | threw error => some (.error error)
  | returned value => some (.ok value)

/-- Whether the call has begun, and the error it was refused with. -/
def Caller.begun {Value : Type} : Caller Value → Option (Option Error)
  | idle => none
  | refused error => some (some error)
  | _ => some none

@[simp] theorem Caller.begun_idle {Value : Type} : (Caller.idle : Caller Value).begun = none := rfl

@[simp] theorem Caller.begun_waiting {Value : Type} :
    (Caller.waiting : Caller Value).begun = some none := rfl

namespace Call

variable {Fields Value : Type}

/-- What follows a fault is not modelled: the first one is kept. -/
def fail (call : Call Fields Value) (fault : Fault) : Call Fields Value :=
  { call with fault := call.fault.or (some fault) }

/-- `delete state`. -/
def delete (call : Call Fields Value) : Call Fields Value :=
  match call.memory with
  | .live => { call with memory := .freed }
  | _ => call.fail .freesTwice

/-- `set_value` or `set_exception` of the promise. -/
def settle (call : Call Fields Value) (result : Except Error Value) : Call Fields Value :=
  match call.promise with
  | none => { call with promise := some result }
  | some _ => call.fail .setsTwice

/-- A callback reads the state through `handle->data`. -/
def callback (call : Call Fields Value) (body : Call Fields Value → Call Fields Value) :
    Call Fields Value :=
  if call.memory = .live then body call else call.fail .usesFreed

/-- `future.get()` gives the fiber the result. -/
def resume (call : Call Fields Value) : Option (Call Fields Value) :=
  match call.caller, call.promise with
  | .waiting, some (.ok value) => some { call with caller := .returned value }
  | .waiting, some (.error error) => some { call with caller := .threw error }
  | _, _ => none

@[simp] theorem fail_caller (call : Call Fields Value) (fault : Fault) :
    (call.fail fault).caller = call.caller := rfl

@[simp] theorem fail_promise (call : Call Fields Value) (fault : Fault) :
    (call.fail fault).promise = call.promise := rfl

@[simp] theorem delete_caller (call : Call Fields Value) : call.delete.caller = call.caller := by
  unfold delete
  split <;> rfl

@[simp] theorem delete_promise (call : Call Fields Value) :
    call.delete.promise = call.promise := by
  unfold delete
  split <;> rfl

@[simp] theorem settle_caller (call : Call Fields Value) (result : Except Error Value) :
    (call.settle result).caller = call.caller := by
  unfold settle
  split <;> rfl

theorem callback_caller (call : Call Fields Value)
    {body : Call Fields Value → Call Fields Value}
    (hbody : ∀ call, (body call).caller = call.caller) :
    (call.callback body).caller = call.caller := by
  unfold callback
  split
  · exact hbody call
  · rfl

theorem callback_promise (call : Call Fields Value)
    {body : Call Fields Value → Call Fields Value}
    (hbody : ∀ call, (body call).promise = call.promise) :
    (call.callback body).promise = call.promise := by
  unfold callback
  split
  · exact hbody call
  · rfl

/-- A call that has begun, that waits only for a promise that is set, and that reports the
result of the promise unless it was refused. -/
structure Over (call : Call Fields Value) : Prop where
  begun : call.caller ≠ .idle
  set : call.caller = .waiting → call.promise.isSome
  returned : ∀ value, call.caller = .returned value → call.promise = some (.ok value)
  threw : ∀ error, call.caller = .threw error → call.promise = some (.error error)
  fault : call.fault = none

theorem Over.frame {call next : Call Fields Value} (hover : call.Over)
    (hcaller : next.caller = call.caller) (hpromise : next.promise = call.promise)
    (hfault : next.fault = call.fault) : next.Over := by
  constructor
  · exact hcaller ▸ hover.begun
  · exact hcaller ▸ hpromise ▸ hover.set
  · exact hcaller ▸ hpromise ▸ hover.returned
  · exact hcaller ▸ hpromise ▸ hover.threw
  · exact hfault.trans hover.fault

theorem Over.refused {call : Call Fields Value} {error : Error}
    (hcaller : call.caller = .refused error) (hfault : call.fault = none) : call.Over := by
  constructor <;> simp [hcaller, hfault]

theorem Over.settled {call : Call Fields Value} (hcaller : call.caller = .waiting)
    (hpromise : call.promise.isSome) (hfault : call.fault = none) : call.Over := by
  constructor <;> simp [hcaller, hpromise, hfault]

/-- What `resume` leaves as it is. -/
theorem resume_frame {call next : Call Fields Value} (hresume : call.resume = some next) :
    call.caller = .waiting ∧ call.promise.isSome ∧ next.caller.begun = some none ∧
      next = { call with caller := next.caller } := by
  simp only [resume] at hresume
  split at hresume
  next value hcaller hpromise =>
    cases hresume
    exact ⟨hcaller, by simp [hpromise], rfl, rfl⟩
  next error hcaller hpromise =>
    cases hresume
    exact ⟨hcaller, by simp [hpromise], rfl, rfl⟩
  · cases hresume

theorem resume_promise {call next : Call Fields Value} (hresume : call.resume = some next) :
    next.promise = call.promise := by
  obtain ⟨-, -, -, hnext⟩ := resume_frame hresume
  rw [hnext]

theorem Over.resume {call next : Call Fields Value} (hover : call.Over)
    (hresume : call.resume = some next) : next.Over := by
  simp only [Call.resume] at hresume
  split at hresume
  next value hcaller hpromise =>
    cases hresume
    constructor <;> simp [hpromise, hover.fault]
  next error hcaller hpromise =>
    cases hresume
    constructor <;> simp [hpromise, hover.fault]
  · cases hresume

/-- Where the result of a call comes from. -/
theorem Over.origin {call : Call Fields Value} (hover : call.Over)
    {result : Except Error Value} (hresult : call.caller.result = some result) :
    ∃ refusal, call.caller.begun = some refusal ∧
      refusal.elim call.promise (fun error => some (.error error)) = some result := by
  cases hcaller : call.caller with
  | idle | waiting => simp [hcaller, Caller.result] at hresult
  | refused error =>
      rw [hcaller] at hresult
      exact ⟨some error, rfl, hresult⟩
  | returned value =>
      rw [hcaller] at hresult
      exact ⟨none, rfl, (hover.returned value hcaller).trans hresult⟩
  | threw error =>
      rw [hcaller] at hresult
      exact ⟨none, rfl, (hover.threw error hcaller).trans hresult⟩

end Call

/-- What the labels of a run say about the result of one call: the error it was refused with,
or else the result that the first deciding label carries. -/
structure Decided {Label Value : Type} (labels : List Label)
    (result : Option (Except Error Value)) (starts : Label → Option (Option Error))
    (decides : Label → Option (Except Error Value)) : Prop where
  /-- No second label decides. -/
  once : labels.countP (fun label => (decides label).isSome) ≤ 1
  origin : ∀ value, result = some value → ∃ refusal, labels.findSome? starts = some refusal ∧
    refusal.elim (labels.findSome? decides) (fun error => some (.error error)) = some value

/-- Labels that start a call and labels that set its promise decide its result. -/
theorem decided_of_decidedBy {State Label Fields Value : Type} {machine : Machine State Label}
    {invariant : State → Prop} {call : State → Call Fields Value}
    {starts : Label → Option (Option Error)} {decides : Label → Option (Except Error Value)}
    (hpromise : machine.DecidedBy invariant (fun state => (call state).promise) decides)
    (hbegun : machine.DecidedBy invariant (fun state => (call state).caller.begun) starts)
    (horigin : ∀ state, invariant state → ∀ result, (call state).caller.result = some result →
      ∃ refusal, (call state).caller.begun = some refusal ∧
        refusal.elim (call state).promise (fun error => some (.error error)) = some result)
    {start state : State} (hstart : invariant start) (hunset : (call start).promise = none)
    (hidle : (call start).caller = .idle) {labels : List Label}
    (hrun : machine.run labels start = some state) :
    Decided labels (call state).caller.result starts decides := by
  have hcount := hpromise.once labels start state hstart hrun
  have hset := hpromise.run labels start state hstart hrun
  have hstarted := hbegun.run labels start state hstart hrun
  simp only [hunset, hidle, Caller.begun_idle, Option.none_or] at hcount hset hstarted
  refine ⟨hcount, fun value hvalue => ?_⟩
  have hinv : invariant state :=
    Machine.reachable_invariant hpromise.keeps hstart ⟨labels, hrun⟩
  obtain ⟨refusal, hrefusal, hresult⟩ := horigin state hinv value hvalue
  exact ⟨refusal, hstarted.symm.trans hrefusal, hset ▸ hresult⟩

end Fiberuv.EventLoop.HeapState
