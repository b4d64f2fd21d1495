import Fiberuv.Handles.Model

/-! # Copies that share a connection

The destructors of `TcpConnection` and `UdpSocket` close the socket whether or not another
copy points to it. As long as only the last object with a socket is destroyed, every object
has an open one.
-/

namespace Fiberuv.Handles

open Foundation

/-- The sockets of the objects are open. -/
def AllOpen (state : State) : Prop :=
  ∀ handle resource, state.holds handle = some resource → state.status resource = .opened

/-- Nothing is closed explicitly, and an object with a resource is destroyed only when it is
the last one with it. -/
def LastDestroyed (state : State) : Action → Prop
  | .close _ => False
  | .destroy target => ∀ resource, state.holds target = some resource →
      ¬ HeldElsewhere state.holds target resource
  | _ => True

/-- What holds in every state of a run that meets the condition. A resource in the hands of an
operation is not yet in an object. -/
structure Sharing (state : State) : Prop where
  opened : AllOpen state
  created : ∀ handle resource, state.holds handle = some resource → resource ∈ state.created
  pendingOpened : ∀ operation resource, state.pending operation = some resource →
    state.status resource = .opened
  pendingCreated : ∀ operation resource, state.pending operation = some resource →
    resource ∈ state.created
  exclusive : ∀ operation resource, state.pending operation = some resource →
    ¬ Held state.holds resource
  single : ∀ operation other resource, state.pending operation = some resource →
    state.pending other = some resource → operation = other

variable {state next : State} {action : Action}

theorem sharing_initial : Sharing {} where
  opened := nofun
  created := nofun
  pendingOpened := nofun
  pendingCreated := nofun
  exclusive := nofun
  single := nofun

/-- A resource that an object may point to. -/
structure Shareable (state : State) (resource : Resource) : Prop where
  opened : state.status resource = .opened
  created : resource ∈ state.created
  notPending : ∀ operation, state.pending operation ≠ some resource

theorem Sharing.shareable (hsharing : Sharing state) {handle : HandleId} {resource : Resource}
    (hholds : state.holds handle = some resource) : Shareable state resource where
  opened := hsharing.opened handle resource hholds
  created := hsharing.created handle resource hholds
  notPending operation hpending := hsharing.exclusive operation resource hpending ⟨handle, hholds⟩

theorem Sharing.put (hsharing : Sharing state) (target : HandleId) {object : Object}
    (hobject : ∀ resource, object.resource = some resource → Shareable state resource) :
    Sharing (state.put target object) := by
  have hholds : ∀ handle resource, (state.put target object).holds handle = some resource →
      Shareable state resource := by
    intro handle resource hholds
    simp only [State.holds_put, Function.update_apply] at hholds
    split at hholds
    · exact hobject resource hholds
    · exact hsharing.shareable hholds
  exact
    { opened := fun handle resource hhandle => (hholds handle resource hhandle).opened
      created := fun handle resource hhandle => (hholds handle resource hhandle).created
      pendingOpened := hsharing.pendingOpened
      pendingCreated := hsharing.pendingCreated
      exclusive := by
        rintro operation resource hpending ⟨handle, hhandle⟩
        exact (hholds handle resource hhandle).notPending operation hpending
      single := hsharing.single }

/-- The object gets what another one points to. -/
theorem Sharing.copy (hsharing : Sharing state) (target : HandleId) {source : HandleId}
    {object : Object} (hsource : state.object source = object) :
    Sharing (state.put target object) :=
  hsharing.put target fun _ hresource =>
    hsharing.shareable ((State.holds_of_object hsource).trans hresource)

theorem Sharing.clear (hsharing : Sharing state) (target : HandleId) {object : Object}
    (hobject : object.resource = none) : Sharing (state.put target object) :=
  hsharing.put target fun _ hresource => nomatch hobject.symm.trans hresource

theorem Sharing.create (hsharing : Sharing state) {resource : Resource}
    (hfresh : resource ∉ state.created) :
    Sharing (state.create resource) ∧ Shareable (state.create resource) resource := by
  have hstatus : ∀ other, state.status other = .opened →
      (state.create resource).status other = .opened := by
    intro other hother
    simp only [State.create, Function.update_apply]
    split
    · rfl
    · exact hother
  refine ⟨?_, ?_⟩
  · exact
      { opened := fun handle other hholds => hstatus other (hsharing.opened handle other hholds)
        created := fun handle other hholds =>
          List.mem_cons_of_mem resource (hsharing.created handle other hholds)
        pendingOpened := fun operation other hpending =>
          hstatus other (hsharing.pendingOpened operation other hpending)
        pendingCreated := fun operation other hpending =>
          List.mem_cons_of_mem resource (hsharing.pendingCreated operation other hpending)
        exclusive := hsharing.exclusive
        single := hsharing.single }
  · exact
      { opened := by simp [State.create]
        created := List.mem_cons_self
        notPending := fun operation hpending =>
          hfresh (hsharing.pendingCreated operation resource hpending) }

theorem Sharing.startClose (hsharing : Sharing state) {resource : Resource}
    (hheld : ¬ Held state.holds resource)
    (hpending : ∀ operation, state.pending operation ≠ some resource) :
    Sharing (state.startClose resource) where
  opened handle other hholds := by
    rw [State.holds_startClose] at hholds
    have hne : other ≠ resource := by
      rintro rfl
      exact hheld ⟨handle, hholds⟩
    rw [State.status_startClose_of_ne state hne]
    exact hsharing.opened handle other hholds
  created := by simpa using hsharing.created
  pendingOpened operation other hother := by
    rw [State.pending_startClose] at hother
    have hne : other ≠ resource := by
      rintro rfl
      exact hpending operation hother
    rw [State.status_startClose_of_ne state hne]
    exact hsharing.pendingOpened operation other hother
  pendingCreated := by simpa using hsharing.pendingCreated
  exclusive := by simpa using hsharing.exclusive
  single := by simpa using hsharing.single

/-- The operation has ended; its resource is in no one's hands. -/
theorem Sharing.settle (hsharing : Sharing state) {operation : OperationId} {resource : Resource}
    (hpending : state.pending operation = some resource) :
    Sharing (state.setPending operation none) ∧
      Shareable (state.setPending operation none) resource ∧
      ¬ Held (state.setPending operation none).holds resource := by
  have hold : ∀ other resource, (state.setPending operation none).pending other = some resource →
      other ≠ operation ∧ state.pending other = some resource := by
    intro other resource hother
    simp only [State.setPending, Function.update_apply] at hother
    split at hother
    · cases hother
    next hne => exact ⟨hne, hother⟩
  refine ⟨?_, ?_, hsharing.exclusive operation resource hpending⟩
  · exact
      { opened := hsharing.opened
        created := hsharing.created
        pendingOpened := fun other resource hother =>
          hsharing.pendingOpened other resource (hold other resource hother).2
        pendingCreated := fun other resource hother =>
          hsharing.pendingCreated other resource (hold other resource hother).2
        exclusive := fun other resource hother =>
          hsharing.exclusive other resource (hold other resource hother).2
        single := fun first second resource hfirst hsecond =>
          hsharing.single first second resource (hold first resource hfirst).2
            (hold second resource hsecond).2 }
  · exact
      { opened := hsharing.pendingOpened operation resource hpending
        created := hsharing.pendingCreated operation resource hpending
        notPending := fun other hother =>
          (hold other resource hother).1
            (hsharing.single other operation resource (hold other resource hother).2 hpending) }

theorem Sharing.begin (hsharing : Sharing state) {operation : OperationId} {resource : Resource}
    (hshareable : Shareable state resource) (hheld : ¬ Held state.holds resource) :
    Sharing (state.setPending operation (some resource)) := by
  have hcases : ∀ other found, (state.setPending operation (some resource)).pending other =
      some found → (other = operation ∧ found = resource) ∨ state.pending other = some found := by
    intro other found hother
    simp only [State.setPending, Function.update_apply] at hother
    split at hother
    next hself => exact .inl ⟨hself, (Option.some.inj hother).symm⟩
    next => exact .inr hother
  exact
    { opened := hsharing.opened
      created := hsharing.created
      pendingOpened := by
        intro other found hother
        rcases hcases other found hother with ⟨-, rfl⟩ | hold
        · exact hshareable.opened
        · exact hsharing.pendingOpened other found hold
      pendingCreated := by
        intro other found hother
        rcases hcases other found hother with ⟨-, rfl⟩ | hold
        · exact hshareable.created
        · exact hsharing.pendingCreated other found hold
      exclusive := by
        intro other found hother
        rcases hcases other found hother with ⟨-, rfl⟩ | hold
        · exact hheld
        · exact hsharing.exclusive other found hold
      single := by
        intro first second found hfirst hsecond
        rcases hcases first found hfirst with ⟨rfl, rfl⟩ | hfirstOld
        · rcases hcases second found hsecond with ⟨rfl, -⟩ | hsecondOld
          · rfl
          · exact absurd hsecondOld (hshareable.notPending second)
        · rcases hcases second found hsecond with ⟨rfl, rfl⟩ | hsecondOld
          · exact absurd hfirstOld (hshareable.notPending first)
          · exact hsharing.single first second found hfirstOld hsecondOld }

/-- The object gets what the operation has made. -/
theorem Sharing.deliver (hsharing : Sharing state) {operation : OperationId} {resource : Resource}
    (hpending : state.pending operation = some resource) (target : HandleId) :
    Sharing ((state.put target (.live resource.kind (some resource.id))).setPending operation
      none) := by
  obtain ⟨hsettled, hshareable, -⟩ := hsharing.settle hpending
  refine hsettled.put target fun other hother => ?_
  obtain rfl : resource = other := Option.some.inj hother
  exact hshareable

/-- What the close callback is called for is not in an object. -/
theorem Sharing.closed (hsharing : Sharing state) {resource : Resource}
    (hclosing : state.status resource = .closing) :
    Sharing { state with status := Function.update state.status resource .closed } := by
  have hstatus : ∀ other, state.status other = .opened →
      Function.update state.status resource .closed other = .opened := by
    intro other hother
    have hne : other ≠ resource := by
      rintro rfl
      cases hclosing.symm.trans hother
    simpa [hne] using hother
  exact { hsharing with
    opened := fun handle other hholds => hstatus other (hsharing.opened handle other hholds)
    pendingOpened := fun operation other hpending =>
      hstatus other (hsharing.pendingOpened operation other hpending) }

/-- The last object with a resource closes it. -/
theorem Sharing.destroy (hsharing : Sharing state) {target : HandleId}
    (hlast : LastDestroyed state (.destroy target))
    (hstep : state.destroy target = some next) : Sharing next := by
  obtain ⟨-, rfl⟩ | ⟨id, -, -, rfl⟩ | ⟨resource, hheld, -, rfl⟩ := State.destroy_cases hstep
  · exact hsharing.clear target rfl
  · exact hsharing.clear target rfl
  · have hgone : ¬ Held (state.put target .absent).holds resource := by
      rw [State.holds_put, held_update_iff]
      rintro (habsent | helsewhere)
      · cases habsent
      · exact hlast resource hheld helsewhere
    rw [State.startClose_put]
    exact (hsharing.clear target rfl).startClose hgone (hsharing.shareable hheld).notPending

theorem step_sharing (hsharing : Sharing state) (hlast : LastDestroyed state action)
    (hstep : machine.step state action = some next) : Sharing next := by
  change state.step action = some next at hstep
  cases action with
  | defaultConstruct target kind =>
      obtain ⟨-, rfl⟩ := State.defaultConstruct_cases hstep
      exact hsharing.clear target rfl
  | construct target kind id =>
      obtain ⟨-, hfresh, rfl⟩ := State.construct_cases hstep
      obtain ⟨hcreated, hshareable⟩ := hsharing.create hfresh
      refine hcreated.put target fun resource hresource => ?_
      obtain rfl : ⟨kind, id⟩ = resource := Option.some.inj hresource
      exact hshareable
  | copyConstruct target source =>
      obtain ⟨kind, held, -, hsource, rfl⟩ := State.copyConstruct_cases hstep
      exact hsharing.copy target hsource
  | moveConstruct target source =>
      obtain ⟨kind, held, -, hsource, rfl⟩ := State.moveConstruct_cases hstep
      exact (hsharing.copy target hsource).clear source rfl
  | copyAssign target source =>
      obtain ⟨kind, held, hsource, rfl⟩ := State.copyAssign_cases hstep
      exact hsharing.copy target hsource
  | moveAssign target source =>
      obtain ⟨-, rfl⟩ | ⟨-, kind, old, held, -, hsource, rfl⟩ := State.moveAssign_cases hstep
      · exact hsharing
      · exact (hsharing.copy target hsource).clear source rfl
  | destroy target => exact hsharing.destroy hlast hstep
  | close target => exact hlast.elim
  | begin operation kind id =>
      obtain ⟨-, -, hfresh, rfl⟩ := State.begin_cases hstep
      obtain ⟨hcreated, hshareable⟩ := hsharing.create hfresh
      refine hcreated.begin hshareable ?_
      rintro ⟨handle, hholds⟩
      exact hfresh (hsharing.created handle _ hholds)
  | deliver operation target =>
      obtain ⟨resource, hpending, -, rfl⟩ := State.deliver_cases hstep
      exact hsharing.deliver hpending target
  | abandon operation =>
      obtain ⟨resource, hpending, rfl⟩ := State.abandon_cases hstep
      obtain ⟨hsettled, hshareable, hheld⟩ := hsharing.settle hpending
      rw [State.startClose_setPending]
      exact hsettled.startClose hheld hshareable.notPending
  | connect operation target temporary =>
      obtain ⟨resource, hpending, rfl⟩ := State.connect_cases hstep
      exact hsharing.deliver hpending target
  | spawn target =>
      obtain ⟨scope, -, rfl⟩ := State.spawn_cases hstep
      exact { hsharing with }
  | taskEnds id =>
      obtain ⟨-, rfl⟩ := State.taskEnds_cases hstep
      exact { hsharing with }
  | closed resource =>
      obtain ⟨hclosing, rfl⟩ := State.closed_cases hstep
      exact hsharing.closed hclosing

/-- In every run without explicit closing in which only the last object with a socket is
destroyed, the sockets of the objects stay open. -/
theorem allOpen_of_lastDestroyed (actions : List Action) (state : State)
    (hmeets : machine.Meets LastDestroyed actions {})
    (hrun : machine.run actions {} = some state) : AllOpen state := by
  have hsharing : Sharing state :=
    Machine.run_invariant (fun _ _ _ hsharing hlast hstep => step_sharing hsharing hlast hstep)
      actions {} state sharing_initial hmeets hrun
  exact hsharing.opened

/-- A connection is copied; the copy is moved over the original object, and then the object
with the connection is destroyed. A UDP socket stays. -/
def movedAndDestroyed : List Action :=
  [.construct 2 .udpSocket 9, .begin 0 .tcpConnection 7, .deliver 0 0, .copyConstruct 1 0,
    .moveAssign 0 1, .destroy 1, .destroy 0]

theorem allOpen_movedAndDestroyed :
    ∃ state, machine.run movedAndDestroyed {} = some state ∧
      state.status ⟨.tcpConnection, 7⟩ = .closing ∧ state.holds 2 = some ⟨.udpSocket, 9⟩ ∧
      AllOpen state := by
  have hmeets : machine.Meets LastDestroyed movedAndDestroyed {} := by
    iterate 5 refine Machine.meets_cons trivial rfl ?_
    refine Machine.meets_cons ?_ rfl (Machine.meets_cons ?_ rfl trivial)
    · intro resource hholds
      cases hholds
    · rintro resource hholds ⟨other, hne, hother⟩
      rcases other with _ | _ | _ | other
      · exact hne rfl
      · cases hother
      · rw [← hholds] at hother
        cases hother
      · cases hother
  exact ⟨_, rfl, rfl, rfl, allOpen_of_lastDestroyed _ _ hmeets rfl⟩

/-- One of two objects with a connection is destroyed, and libuv closes the connection. -/
def copyDestroyed : List Action :=
  [.begin 0 .tcpConnection 7, .deliver 0 0, .copyConstruct 1 0, .destroy 0,
    .closed ⟨.tcpConnection, 7⟩]

theorem closed_copyDestroyed :
    ¬ ∀ (actions : List Action) (state : State),
      (∀ action ∈ actions, ∀ target, action ≠ .close target) →
      machine.run actions {} = some state → AllOpen state := by
  intro halwaysOpen
  have hopen := halwaysOpen copyDestroyed _ (by simp [copyDestroyed]) rfl
  cases hopen 1 ⟨.tcpConnection, 7⟩ rfl

end Fiberuv.Handles
