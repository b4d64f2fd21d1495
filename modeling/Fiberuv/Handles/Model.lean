import Mathlib.Data.List.Basic
import Fiberuv.Foundation.Machine
import Fiberuv.Foundation.Ownership

/-! # Objects that own a resource

The life of the objects of `TcpConnection`, `UdpSocket`, `PeriodicTask` and `TaskScope` on a
loop that stays alive. Each holds a `std::shared_ptr` to a resource: a connection, a UDP
socket, a timer, the state of a scope. The first three keep themselves alive until libuv has
closed their handle, so that nothing is released when the last pointer goes.

Copying is defaulted for the first two classes and deleted for the others, moving is defaulted
for all four. The destructors of the first three close the resource, the one of `TaskScope`
waits for the tasks of the scope.
-/

namespace Fiberuv.Handles

open Foundation

abbrev HandleId := Nat
abbrev OperationId := Nat

/-- The classes. -/
inductive Kind where
  | tcpConnection
  | udpSocket
  | periodicTask
  | taskScope
  deriving DecidableEq

/-- What an object of the class points to. -/
structure Resource where
  kind : Kind
  id : Nat
  deriving DecidableEq

/-- An object: outside its lifetime, or with the resource of its class it points to. -/
inductive Object where
  | absent
  | live (kind : Kind) (held : Option Nat)

/-- A resource with a libuv handle: `uv_close` has not been called, or has been (or is posted to
the loop), or the close callback has run. -/
inductive Status where
  | opened
  | closing
  | closed
  deriving DecidableEq

structure State where
  object : HandleId → Object := fun _ => .absent
  /-- The operations in progress that have made a resource: connecting, accepting, `every`. -/
  pending : OperationId → Option Resource := fun _ => none
  created : List Resource := []
  status : Resource → Status := fun _ => .opened
  /-- The number of active tasks, for the scopes. -/
  active : Resource → Nat := fun _ => 0

inductive Action where
  | defaultConstruct (target : HandleId) (kind : Kind)
  | construct (target : HandleId) (kind : Kind) (id : Nat)
  | copyConstruct (target source : HandleId)
  | moveConstruct (target source : HandleId)
  | copyAssign (target source : HandleId)
  | moveAssign (target source : HandleId)
  | destroy (target : HandleId)
  /-- `close` or `stop`. -/
  | close (target : HandleId)
  | begin (operation : OperationId) (kind : Kind) (id : Nat)
  | deliver (operation : OperationId) (target : HandleId)
  | abandon (operation : OperationId)
  /-- `Socket::connect` and `Socket::connect_for` when the connection is there; `target` is
  `tcp_conn` and `temporary` the local `conn`. -/
  | connect (operation : OperationId) (target temporary : HandleId)
  | spawn (target : HandleId)
  | taskEnds (id : Nat)
  /-- libuv calls the close callback. -/
  | closed (resource : Resource)

/-- The classes with a copy constructor and a copy assignment. -/
def Kind.copyable : Kind → Bool
  | .tcpConnection => true
  | .udpSocket => true
  | .periodicTask => false
  | .taskScope => false

/-- The classes whose default constructor makes an object without a resource. -/
def Kind.defaultEmpty : Kind → Bool
  | .tcpConnection => true
  | .udpSocket => false
  | .periodicTask => true
  | .taskScope => false

/-- The resources that are made without suspending: `UdpSocket(loop)`, `TaskScope(loop)`, and
`every` on the loop. -/
def Kind.direct : Kind → Bool
  | .tcpConnection => false
  | .udpSocket => true
  | .periodicTask => true
  | .taskScope => true

/-- The resources that an operation makes before it returns the object. -/
def Kind.delayed : Kind → Bool
  | .tcpConnection => true
  | .udpSocket => false
  | .periodicTask => true
  | .taskScope => false

def Object.resource : Object → Option Resource
  | .absent => none
  | .live kind held => held.map (Resource.mk kind)

namespace State

def holds (state : State) (handle : HandleId) : Option Resource :=
  (state.object handle).resource

def put (state : State) (target : HandleId) (object : Object) : State :=
  { state with object := Function.update state.object target object }

def setPending (state : State) (operation : OperationId) (content : Option Resource) : State :=
  { state with pending := Function.update state.pending operation content }

def create (state : State) (resource : Resource) : State :=
  { state with
    created := resource :: state.created
    status := Function.update state.status resource .opened
    active := Function.update state.active resource 0 }

/-- `start_close`, `UdpSocket::close` and `PeriodicTask::stop`. -/
def startClose (state : State) (resource : Resource) : State :=
  match state.status resource with
  | .opened => { state with status := Function.update state.status resource .closing }
  | _ => state

def defaultConstruct (state : State) (target : HandleId) (kind : Kind) : Option State :=
  match state.object target with
  | .absent => if kind.defaultEmpty then some (state.put target (.live kind none)) else none
  | .live _ _ => none

def construct (state : State) (target : HandleId) (kind : Kind) (id : Nat) : Option State :=
  match state.object target with
  | .absent =>
      if kind.direct ∧ ⟨kind, id⟩ ∉ state.created then
        some ((state.create ⟨kind, id⟩).put target (.live kind (some id)))
      else none
  | .live _ _ => none

def copyConstruct (state : State) (target source : HandleId) : Option State :=
  match state.object target, state.object source with
  | .absent, .live kind held =>
      if kind.copyable then some (state.put target (.live kind held)) else none
  | _, _ => none

def moveConstruct (state : State) (target source : HandleId) : Option State :=
  match state.object target, state.object source with
  | .absent, .live kind held =>
      some ((state.put target (.live kind held)).put source (.live kind none))
  | _, _ => none

def copyAssign (state : State) (target source : HandleId) : Option State :=
  match state.object target, state.object source with
  | .live kind _, .live other held =>
      if kind = other ∧ kind.copyable then some (state.put target (.live kind held)) else none
  | _, _ => none

/-- The assignment of the pointer leaves it as it is when an object is moved to itself. -/
def moveAssign (state : State) (target source : HandleId) : Option State :=
  match state.object target, state.object source with
  | .live kind _, .live other held =>
      if kind ≠ other then none
      else if target = source then some state
      else some ((state.put target (.live kind held)).put source (.live kind none))
  | _, _ => none

/-- The destructors. The one of a scope returns when the scope has no active task. -/
def destroy (state : State) (target : HandleId) : Option State :=
  match state.object target with
  | .absent => none
  | .live _ none => some (state.put target .absent)
  | .live .taskScope (some id) =>
      if state.active ⟨.taskScope, id⟩ = 0 then some (state.put target .absent) else none
  | .live kind (some id) => some ((state.startClose ⟨kind, id⟩).put target .absent)

def close (state : State) (target : HandleId) : Option State :=
  match state.object target with
  | .absent => none
  | .live .taskScope _ => none
  | .live _ none => some state
  | .live kind (some id) => some (state.startClose ⟨kind, id⟩)

def begin (state : State) (operation : OperationId) (kind : Kind) (id : Nat) : Option State :=
  match state.pending operation with
  | none =>
      if kind.delayed ∧ ⟨kind, id⟩ ∉ state.created then
        some ((state.create ⟨kind, id⟩).setPending operation (some ⟨kind, id⟩))
      else none
  | some _ => none

/-- The operation returns an object with its resource. -/
def deliver (state : State) (operation : OperationId) (target : HandleId) : Option State :=
  match state.pending operation, state.object target with
  | some resource, .absent =>
      some ((state.put target (.live resource.kind (some resource.id))).setPending operation none)
  | _, _ => none

/-- The operation fails and closes what it has made. -/
def abandon (state : State) (operation : OperationId) : Option State :=
  match state.pending operation with
  | some resource => some ((state.startClose resource).setPending operation none)
  | none => none

/-- The assignment of `std::optional` constructs the value when there is none. -/
def store (state : State) (target source : HandleId) : Option State :=
  match state.object target with
  | .absent => state.moveConstruct target source
  | .live _ _ => state.moveAssign target source

def connect (state : State) (operation : OperationId) (target temporary : HandleId) :
    Option State :=
  if target = temporary then none
  else
    (state.deliver operation temporary).bind fun state =>
      (state.store target temporary).bind fun state => state.destroy temporary

def spawn (state : State) (target : HandleId) : Option State :=
  match state.object target with
  | .live .taskScope (some id) =>
      let scope : Resource := ⟨.taskScope, id⟩
      some { state with active := Function.update state.active scope (state.active scope + 1) }
  | _ => none

def taskEnds (state : State) (id : Nat) : Option State :=
  let scope : Resource := ⟨.taskScope, id⟩
  if 0 < state.active scope then
    some { state with active := Function.update state.active scope (state.active scope - 1) }
  else none

def closed (state : State) (resource : Resource) : Option State :=
  match state.status resource with
  | .closing => some { state with status := Function.update state.status resource .closed }
  | _ => none

def step (state : State) : Action → Option State
  | .defaultConstruct target kind => state.defaultConstruct target kind
  | .construct target kind id => state.construct target kind id
  | .copyConstruct target source => state.copyConstruct target source
  | .moveConstruct target source => state.moveConstruct target source
  | .copyAssign target source => state.copyAssign target source
  | .moveAssign target source => state.moveAssign target source
  | .destroy target => state.destroy target
  | .close target => state.close target
  | .begin operation kind id => state.begin operation kind id
  | .deliver operation target => state.deliver operation target
  | .abandon operation => state.abandon operation
  | .connect operation target temporary => state.connect operation target temporary
  | .spawn target => state.spawn target
  | .taskEnds id => state.taskEnds id
  | .closed resource => state.closed resource

@[simp] theorem holds_put (state : State) (target : HandleId) (object : Object) :
    (state.put target object).holds = Function.update state.holds target object.resource := by
  funext handle
  simp only [holds, put, Function.update_apply]
  split <;> rfl

theorem holds_of_object {state : State} {handle : HandleId} {object : Object}
    (hobject : state.object handle = object) : state.holds handle = object.resource := by
  rw [holds, hobject]

@[simp] theorem holds_setPending (state : State) (operation : OperationId)
    (content : Option Resource) : (state.setPending operation content).holds = state.holds := rfl

@[simp] theorem holds_create (state : State) (resource : Resource) :
    (state.create resource).holds = state.holds := rfl

@[simp] theorem object_startClose (state : State) (resource : Resource) :
    (state.startClose resource).object = state.object := by
  unfold startClose
  split <;> rfl

@[simp] theorem holds_startClose (state : State) (resource : Resource) :
    (state.startClose resource).holds = state.holds := by
  funext handle
  simp [holds]

@[simp] theorem pending_startClose (state : State) (resource : Resource) :
    (state.startClose resource).pending = state.pending := by
  unfold startClose
  split <;> rfl

@[simp] theorem created_startClose (state : State) (resource : Resource) :
    (state.startClose resource).created = state.created := by
  unfold startClose
  split <;> rfl

@[simp] theorem active_startClose (state : State) (resource : Resource) :
    (state.startClose resource).active = state.active := by
  unfold startClose
  split <;> rfl

theorem status_startClose (state : State) (resource : Resource) :
    (state.startClose resource).status resource ≠ .opened := by
  unfold startClose
  split
  · simp
  next hstatus => exact hstatus

theorem status_startClose_of_ne (state : State) {resource other : Resource}
    (hne : other ≠ resource) :
    (state.startClose resource).status other = state.status other := by
  unfold startClose
  split
  · simp [hne]
  · rfl

theorem startClose_put (state : State) (resource : Resource) (target : HandleId)
    (object : Object) : (state.startClose resource).put target object =
      (state.put target object).startClose resource := by
  simp only [startClose, put]
  split <;> rfl

theorem startClose_setPending (state : State) (resource : Resource) (operation : OperationId)
    (content : Option Resource) : (state.startClose resource).setPending operation content =
      (state.setPending operation content).startClose resource := by
  simp only [startClose, setPending]
  split <;> rfl

section Cases

variable {state next : State} {target source : HandleId} {operation : OperationId} {kind : Kind}
  {id : Nat}

theorem defaultConstruct_cases (hstep : state.defaultConstruct target kind = some next) :
    state.object target = .absent ∧ next = state.put target (.live kind none) := by
  unfold defaultConstruct at hstep
  split at hstep
  next htarget =>
    simp only [Option.ite_none_right_eq_some, Option.some.injEq] at hstep
    exact ⟨htarget, hstep.2.symm⟩
  next => cases hstep

theorem construct_cases (hstep : state.construct target kind id = some next) :
    state.object target = .absent ∧ ⟨kind, id⟩ ∉ state.created ∧
      next = (state.create ⟨kind, id⟩).put target (.live kind (some id)) := by
  unfold construct at hstep
  split at hstep
  next htarget =>
    simp only [Option.ite_none_right_eq_some, Option.some.injEq] at hstep
    exact ⟨htarget, hstep.1.2, hstep.2.symm⟩
  next => cases hstep

theorem copyConstruct_cases (hstep : state.copyConstruct target source = some next) :
    ∃ kind held, state.object target = .absent ∧ state.object source = .live kind held ∧
      next = state.put target (.live kind held) := by
  unfold copyConstruct at hstep
  split at hstep
  next kind held htarget hsource =>
    simp only [Option.ite_none_right_eq_some, Option.some.injEq] at hstep
    exact ⟨kind, held, htarget, hsource, hstep.2.symm⟩
  next => cases hstep

theorem moveConstruct_cases (hstep : state.moveConstruct target source = some next) :
    ∃ kind held, state.object target = .absent ∧ state.object source = .live kind held ∧
      next = (state.put target (.live kind held)).put source (.live kind none) := by
  unfold moveConstruct at hstep
  split at hstep
  next kind held htarget hsource =>
    cases hstep
    exact ⟨kind, held, htarget, hsource, rfl⟩
  next => cases hstep

theorem copyAssign_cases (hstep : state.copyAssign target source = some next) :
    ∃ kind held, state.object source = .live kind held ∧
      next = state.put target (.live kind held) := by
  unfold copyAssign at hstep
  split at hstep
  next kind old other held htarget hsource =>
    simp only [Option.ite_none_right_eq_some, Option.some.injEq] at hstep
    obtain ⟨⟨rfl, -⟩, rfl⟩ := hstep
    exact ⟨kind, held, hsource, rfl⟩
  next => cases hstep

theorem moveAssign_cases (hstep : state.moveAssign target source = some next) :
    (target = source ∧ next = state) ∨
      (target ≠ source ∧ ∃ kind old held, state.object target = .live kind old ∧
        state.object source = .live kind held ∧
        next = (state.put target (.live kind held)).put source (.live kind none)) := by
  unfold moveAssign at hstep
  split at hstep
  next kind old other held htarget hsource =>
    simp only [ne_eq, ite_not, Option.ite_none_right_eq_some] at hstep
    obtain ⟨rfl, hstep⟩ := hstep
    split at hstep
    next hself =>
      cases hstep
      exact .inl ⟨hself, rfl⟩
    next hself =>
      cases hstep
      exact .inr ⟨hself, kind, old, held, htarget, hsource, rfl⟩
  next => cases hstep

theorem destroy_cases (hstep : state.destroy target = some next) :
    (state.holds target = none ∧ next = state.put target .absent) ∨
      (∃ id, state.holds target = some ⟨.taskScope, id⟩ ∧ state.active ⟨.taskScope, id⟩ = 0 ∧
        next = state.put target .absent) ∨
      ∃ resource, state.holds target = some resource ∧ resource.kind ≠ .taskScope ∧
        next = (state.startClose resource).put target .absent := by
  unfold destroy at hstep
  split at hstep
  next => cases hstep
  next htarget =>
    cases hstep
    exact .inl ⟨holds_of_object htarget, rfl⟩
  next id htarget =>
    simp only [Option.ite_none_right_eq_some, Option.some.injEq] at hstep
    exact .inr (.inl ⟨id, holds_of_object htarget, hstep.1, hstep.2.symm⟩)
  next kind id hscope htarget =>
    cases hstep
    exact .inr (.inr ⟨⟨kind, id⟩, holds_of_object htarget, hscope, rfl⟩)

theorem destroy_empty (hholds : state.holds target = none)
    (hstep : state.destroy target = some next) : next = state.put target .absent := by
  obtain ⟨-, hnext⟩ | ⟨id, hheld, -⟩ | ⟨resource, hheld, -⟩ := destroy_cases hstep
  · exact hnext
  · cases hholds.symm.trans hheld
  · cases hholds.symm.trans hheld

theorem close_cases (hstep : state.close target = some next) :
    next = state ∨ ∃ resource, next = state.startClose resource := by
  unfold close at hstep
  split at hstep <;> cases hstep
  · exact .inl rfl
  · exact .inr ⟨_, rfl⟩

theorem begin_cases (hstep : state.begin operation kind id = some next) :
    state.pending operation = none ∧ kind.delayed = true ∧ ⟨kind, id⟩ ∉ state.created ∧
      next = (state.create ⟨kind, id⟩).setPending operation (some ⟨kind, id⟩) := by
  unfold begin at hstep
  split at hstep
  next hpending =>
    simp only [Option.ite_none_right_eq_some, Option.some.injEq] at hstep
    exact ⟨hpending, hstep.1.1, hstep.1.2, hstep.2.symm⟩
  next => cases hstep

theorem deliver_cases (hstep : state.deliver operation target = some next) :
    ∃ resource, state.pending operation = some resource ∧ state.object target = .absent ∧
      next = (state.put target (.live resource.kind (some resource.id))).setPending operation
        none := by
  unfold deliver at hstep
  split at hstep
  next resource hpending htarget =>
    cases hstep
    exact ⟨resource, hpending, htarget, rfl⟩
  next => cases hstep

theorem abandon_cases (hstep : state.abandon operation = some next) :
    ∃ resource, state.pending operation = some resource ∧
      next = (state.startClose resource).setPending operation none := by
  unfold abandon at hstep
  split at hstep
  next resource hpending =>
    cases hstep
    exact ⟨resource, hpending, rfl⟩
  next => cases hstep

theorem store_cases {kind : Kind} {held : Option Nat} (hne : target ≠ source)
    (hsource : state.object source = .live kind held)
    (hstep : state.store target source = some next) :
    next = (state.put target (.live kind held)).put source (.live kind none) := by
  unfold store at hstep
  split at hstep
  next =>
    obtain ⟨other, moved, -, hmoved, rfl⟩ := moveConstruct_cases hstep
    cases hsource.symm.trans hmoved
    rfl
  next =>
    obtain ⟨hself, -⟩ | ⟨-, other, old, moved, -, hmoved, rfl⟩ := moveAssign_cases hstep
    · exact absurd hself hne
    · cases hsource.symm.trans hmoved
      rfl

/-- The temporary of `connect` is gone afterwards, and `tcp_conn` has its connection. -/
theorem connect_cases {temporary : HandleId}
    (hstep : state.connect operation target temporary = some next) :
    ∃ resource, state.pending operation = some resource ∧
      next = (state.put target (.live resource.kind (some resource.id))).setPending operation
        none := by
  unfold connect at hstep
  simp only [Option.ite_none_left_eq_some, Option.bind_eq_some_iff] at hstep
  obtain ⟨hne, delivered, hdeliver, stored, hstore, hdestroy⟩ := hstep
  obtain ⟨resource, hpending, habsent, rfl⟩ := deliver_cases hdeliver
  refine ⟨resource, hpending, ?_⟩
  have hsource : ((state.put temporary (.live resource.kind (some resource.id))).setPending
      operation none).object temporary = .live resource.kind (some resource.id) := by
    simp [setPending, put]
  obtain rfl := store_cases hne hsource hstore
  obtain rfl := destroy_empty (by simp [Object.resource]) hdestroy
  simp only [put, setPending, State.mk.injEq, and_true]
  funext handle
  by_cases htemporary : handle = temporary
  · subst htemporary
    simp [habsent, Ne.symm hne]
  · simp [htemporary, Function.update_apply]

theorem spawn_cases (hstep : state.spawn target = some next) :
    ∃ scope, state.holds target = some scope ∧
      next = { state with
        active := Function.update state.active scope (state.active scope + 1) } := by
  unfold spawn at hstep
  split at hstep
  next id htarget =>
    cases hstep
    exact ⟨_, holds_of_object htarget, rfl⟩
  next => cases hstep

theorem taskEnds_cases (hstep : state.taskEnds id = some next) :
    0 < state.active ⟨.taskScope, id⟩ ∧
      next = { state with
        active := Function.update state.active ⟨.taskScope, id⟩
          (state.active ⟨.taskScope, id⟩ - 1) } := by
  unfold taskEnds at hstep
  simp only [Option.ite_none_right_eq_some, Option.some.injEq] at hstep
  exact ⟨hstep.1, hstep.2.symm⟩

theorem closed_cases {resource : Resource} (hstep : state.closed resource = some next) :
    state.status resource = .closing ∧
      next = { state with status := Function.update state.status resource .closed } := by
  unfold closed at hstep
  split at hstep
  next hclosing =>
    cases hstep
    exact ⟨hclosing, rfl⟩
  next => cases hstep

end Cases

end State

def machine : Machine State Action where
  step := State.step

end Fiberuv.Handles
