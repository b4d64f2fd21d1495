import Fiberuv.Handles.Model

/-! # Overwriting an object

The defaulted assignments overwrite the pointer without closing, stopping or joining what it
pointed to. A connection, a UDP socket or a timer that was only there goes on for ever, and
the tasks of a scope go on without one that waits for them.
-/

namespace Fiberuv.Handles

open Foundation

/-- The resource needs no owner: its close has been started, or the scope has no active task. -/
def State.Released (state : State) (resource : Resource) : Prop :=
  if resource.kind = .taskScope then state.active resource = 0
  else state.status resource ≠ .opened

instance (state : State) (resource : Resource) : Decidable (state.Released resource) :=
  inferInstanceAs (Decidable (if resource.kind = .taskScope then state.active resource = 0
    else state.status resource ≠ .opened))

/-- Every resource is in an object or in the hands of an operation, or needs no owner. -/
def Accounted (state : State) : Prop :=
  ∀ resource ∈ state.created,
    Held state.holds resource ∨ Held state.pending resource ∨ state.Released resource

/-- What the object points to may be overwritten. -/
def State.Spare (state : State) (target : HandleId) : Prop :=
  ∀ resource, state.holds target = some resource →
    HeldElsewhere state.holds target resource ∨ state.Released resource

/-- An assignment from another object, also the one in `Socket::connect`, overwrites only what
is elsewhere too or needs no owner. -/
def OverwritesSpare (state : State) : Action → Prop
  | .copyAssign target source => target ≠ source → state.Spare target
  | .moveAssign target source => target ≠ source → state.Spare target
  | .connect _ target _ => state.Spare target
  | _ => True

/-- What holds in every state of a run that meets the condition. -/
structure Owned (state : State) : Prop where
  accounted : Accounted state
  pendingKind : ∀ operation resource, state.pending operation = some resource →
    resource.kind ≠ .taskScope

variable {state next : State} {action : Action}

theorem owned_initial : Owned {} where
  accounted := nofun
  pendingKind := nofun

section Released

variable {resource : Resource}

theorem released_startClose (hkind : resource.kind ≠ .taskScope) :
    (state.startClose resource).Released resource := by
  rw [State.Released, if_neg hkind]
  exact state.status_startClose resource

theorem State.Released.imp (hreleased : state.Released resource)
    (hactive : state.active resource = 0 → next.active resource = 0)
    (hstatus : state.status resource ≠ .opened → next.status resource ≠ .opened) :
    next.Released resource := by
  unfold State.Released at hreleased ⊢
  by_cases hkind : resource.kind = .taskScope
  · rw [if_pos hkind] at hreleased ⊢
    exact hactive hreleased
  · rw [if_neg hkind] at hreleased ⊢
    exact hstatus hreleased

/-- Closing takes nothing back. -/
theorem State.Released.startClose (hreleased : state.Released resource) (other : Resource) :
    (state.startClose other).Released resource := by
  refine hreleased.imp (by simp) fun hstatus => ?_
  by_cases hself : resource = other
  · subst hself
    exact state.status_startClose resource
  · rwa [state.status_startClose_of_ne hself]

theorem State.Released.closed (hreleased : state.Released resource) (other : Resource) :
    State.Released { state with status := Function.update state.status other .closed }
      resource := by
  refine hreleased.imp (fun hactive => hactive) fun hstatus => ?_
  simp only [Function.update_apply]
  split
  · simp
  · exact hstatus

theorem State.Released.setActive (hreleased : state.Released resource) {scope : Resource}
    {count : Nat} (hcount : resource = scope → state.active scope = 0 → count = 0) :
    State.Released { state with active := Function.update state.active scope count }
      resource := by
  refine hreleased.imp (fun hactive => ?_) fun hstatus => hstatus
  simp only [Function.update_apply]
  split
  next hself => exact hcount hself (hself ▸ hactive)
  next => exact hactive

theorem State.Released.create (hreleased : state.Released resource) {other : Resource}
    (hne : resource ≠ other) : (state.create other).Released resource :=
  hreleased.imp (by simp [State.create, hne]) (by simp [State.create, hne])

end Released

/-- A step that changes no pointer. -/
theorem Owned.released (howned : Owned state) (hholds : next.holds = state.holds)
    (hpending : next.pending = state.pending) (hcreated : next.created = state.created)
    (hreleased : ∀ resource, ¬ Held state.holds resource → state.Released resource →
      next.Released resource) : Owned next where
  accounted resource hresource := by
    rw [hcreated] at hresource
    rw [hholds, hpending]
    by_cases hheld : Held state.holds resource
    · exact .inl hheld
    · exact .inr ((howned.accounted resource hresource).resolve_left hheld |>.imp_right
        (hreleased resource hheld))
  pendingKind := by
    rw [hpending]
    exact howned.pendingKind

theorem Owned.startClose (howned : Owned state) (resource : Resource) :
    Owned (state.startClose resource) :=
  howned.released (by simp) (by simp) (by simp) fun _ _ hreleased =>
    hreleased.startClose resource

/-- An object may be overwritten when what it points to is in the new value, or elsewhere, or
needs no owner. -/
theorem Owned.put (howned : Owned state) (target : HandleId) {object : Object}
    (hspare : ∀ resource, state.holds target = some resource →
      object.resource = some resource ∨ HeldElsewhere state.holds target resource ∨
        state.Released resource) : Owned (state.put target object) where
  accounted resource hresource := by
    rw [State.holds_put]
    rcases howned.accounted resource hresource with hheld | hrest
    · by_cases hreleased : state.Released resource
      · exact .inr (.inr hreleased)
      · refine .inl (hheld.update _ fun htarget => ?_)
        exact (hspare resource htarget).imp_right fun helsewhere =>
          helsewhere.resolve_right hreleased
    · exact .inr hrest
  pendingKind := howned.pendingKind

/-- A new object. -/
theorem Owned.putAbsent (howned : Owned state) {target : HandleId}
    (htarget : state.object target = .absent) (object : Object) :
    Owned (state.put target object) :=
  howned.put target fun _ hholds =>
    nomatch (State.holds_of_object htarget).symm.trans hholds

theorem Owned.setPending (howned : Owned state) (operation : OperationId)
    {content : Option Resource}
    (hkind : ∀ resource, content = some resource → resource.kind ≠ .taskScope)
    (hspare : ∀ resource, state.pending operation = some resource →
      Held state.holds resource ∨ state.Released resource) :
    Owned (state.setPending operation content) where
  accounted resource hresource := by
    rcases howned.accounted resource hresource with hheld | hpending | hreleased
    · exact .inl hheld
    · by_cases hsame : state.pending operation = some resource
      · exact (hspare resource hsame).imp_right .inr
      · exact .inr (.inl (hpending.update content fun hself => absurd hself hsame))
    · exact .inr (.inr hreleased)
  pendingKind other resource hother := by
    simp only [State.setPending, Function.update_apply] at hother
    split at hother
    · exact hkind resource hother
    · exact howned.pendingKind other resource hother

theorem Owned.create (howned : Owned state) {resource : Resource}
    (hfresh : resource ∉ state.created) :
    ∀ other ∈ (state.create resource).created, other = resource ∨
      Held state.holds other ∨ Held state.pending other ∨
        (state.create resource).Released other := by
  intro other hother
  rcases List.mem_cons.mp hother with rfl | hold
  · exact .inl rfl
  · have hne : other ≠ resource := by
      rintro rfl
      exact hfresh hold
    refine .inr ((howned.accounted other hold).imp_right fun hrest => ?_)
    exact hrest.imp_right fun hreleased => hreleased.create hne

/-- A new resource goes into a new object. -/
theorem Owned.construct (howned : Owned state) {target : HandleId} {kind : Kind} {id : Nat}
    (htarget : state.object target = .absent) (hfresh : ⟨kind, id⟩ ∉ state.created) :
    Owned ((state.create ⟨kind, id⟩).put target (.live kind (some id))) where
  accounted resource hresource := by
    rw [State.holds_put, State.holds_create]
    rcases howned.create hfresh resource hresource with rfl | hheld | hrest
    · exact .inl (held_update_iff.mpr (.inl rfl))
    · refine .inl (hheld.update _ fun hholds => ?_)
      cases (State.holds_of_object htarget).symm.trans hholds
    · exact .inr hrest
  pendingKind := howned.pendingKind

/-- A new resource goes into the hands of an operation. -/
theorem Owned.begin (howned : Owned state) {operation : OperationId} {kind : Kind} {id : Nat}
    (hpending : state.pending operation = none) (hkind : kind ≠ .taskScope)
    (hfresh : ⟨kind, id⟩ ∉ state.created) :
    Owned ((state.create ⟨kind, id⟩).setPending operation (some ⟨kind, id⟩)) where
  accounted resource hresource := by
    rcases howned.create hfresh resource hresource with rfl | hheld | hpend | hreleased
    · exact .inr (.inl (held_update_iff.mpr (.inl rfl)))
    · exact .inl hheld
    · refine .inr (.inl (hpend.update _ fun hsame => ?_))
      cases hpending.symm.trans hsame
    · exact .inr (.inr hreleased)
  pendingKind other resource hother := by
    simp only [State.setPending, State.create, Function.update_apply] at hother
    split at hother
    · obtain rfl := Option.some.inj hother
      exact hkind
    · exact howned.pendingKind other resource hother

/-- The pointer is moved or copied to another object that may be overwritten. -/
theorem Owned.copy (howned : Owned state) {target source : HandleId} {object : Object}
    (hspare : target ≠ source → state.Spare target) (hsource : state.object source = object) :
    Owned (state.put target object) := by
  refine howned.put target fun resource hholds => ?_
  by_cases hself : target = source
  · subst hself
    exact .inl ((State.holds_of_object hsource).symm.trans hholds)
  · exact .inr (hspare hself resource hholds)

/-- The moved-from object is cleared after its pointer has been copied. -/
theorem Owned.move (howned : Owned state) {target source : HandleId} {kind : Kind}
    {held : Option Nat} (hne : target ≠ source) (hspare : state.Spare target)
    (hsource : state.object source = .live kind held) :
    Owned ((state.put target (.live kind held)).put source (.live kind none)) := by
  refine (howned.copy (fun _ => hspare) hsource).put source fun resource hholds => ?_
  rw [State.holds_put, Function.update_of_ne hne.symm, State.holds_of_object hsource] at hholds
  exact .inr (.inl ⟨target, hne, by simpa using hholds⟩)

theorem spare_absent {target : HandleId} (htarget : state.object target = .absent) :
    state.Spare target :=
  fun _ hholds => nomatch (State.holds_of_object htarget).symm.trans hholds

/-- The operation hands its resource to an object. -/
theorem Owned.deliver (howned : Owned state) {operation : OperationId} {resource : Resource}
    {target : HandleId} (hpending : state.pending operation = some resource)
    (hspare : state.Spare target) :
    Owned ((state.put target (.live resource.kind (some resource.id))).setPending operation
      none) := by
  have hput : Owned (state.put target (.live resource.kind (some resource.id))) :=
    howned.put target fun other hholds => .inr (hspare other hholds)
  refine hput.setPending operation nofun fun other hother => .inl ?_
  obtain rfl : resource = other := Option.some.inj (hpending.symm.trans hother)
  rw [State.holds_put]
  exact held_update_iff.mpr (.inl rfl)

theorem Owned.destroy (howned : Owned state) {target : HandleId}
    (hstep : state.destroy target = some next) : Owned next := by
  obtain ⟨hempty, rfl⟩ | ⟨id, hheld, hactive, rfl⟩ | ⟨resource, hheld, hkind, rfl⟩ :=
    State.destroy_cases hstep
  · exact howned.put target fun resource hholds => nomatch hempty.symm.trans hholds
  · refine howned.put target fun resource hholds => ?_
    obtain rfl := Option.some.inj (hheld.symm.trans hholds)
    exact .inr (.inr hactive)
  · refine (howned.startClose resource).put target fun other hholds => ?_
    rw [State.holds_startClose] at hholds
    obtain rfl : resource = other := Option.some.inj (hheld.symm.trans hholds)
    exact .inr (.inr (released_startClose hkind))

theorem step_owned (howned : Owned state) (hspare : OverwritesSpare state action)
    (hstep : machine.step state action = some next) : Owned next := by
  change state.step action = some next at hstep
  cases action with
  | defaultConstruct target kind =>
      obtain ⟨htarget, rfl⟩ := State.defaultConstruct_cases hstep
      exact howned.putAbsent htarget _
  | construct target kind id =>
      obtain ⟨htarget, hfresh, rfl⟩ := State.construct_cases hstep
      exact howned.construct htarget hfresh
  | copyConstruct target source =>
      obtain ⟨kind, held, htarget, -, rfl⟩ := State.copyConstruct_cases hstep
      exact howned.putAbsent htarget _
  | moveConstruct target source =>
      obtain ⟨kind, held, htarget, hsource, rfl⟩ := State.moveConstruct_cases hstep
      have hne : target ≠ source := by
        rintro rfl
        cases htarget.symm.trans hsource
      exact howned.move hne (spare_absent htarget) hsource
  | copyAssign target source =>
      obtain ⟨kind, held, hsource, rfl⟩ := State.copyAssign_cases hstep
      exact howned.copy hspare hsource
  | moveAssign target source =>
      obtain ⟨-, rfl⟩ | ⟨hne, kind, old, held, -, hsource, rfl⟩ := State.moveAssign_cases hstep
      · exact howned
      · -- The old resource of the target is dropped, not closed: it has to be spare.
        exact howned.move hne (hspare hne) hsource
  | destroy target => exact howned.destroy hstep
  | close target =>
      obtain rfl | ⟨resource, rfl⟩ := State.close_cases hstep
      · exact howned
      · exact howned.startClose resource
  | begin operation kind id =>
      obtain ⟨hpending, hdelayed, hfresh, rfl⟩ := State.begin_cases hstep
      refine howned.begin hpending ?_ hfresh
      rintro rfl
      cases hdelayed
  | deliver operation target =>
      obtain ⟨resource, hpending, htarget, rfl⟩ := State.deliver_cases hstep
      exact howned.deliver hpending (spare_absent htarget)
  | abandon operation =>
      obtain ⟨resource, hpending, rfl⟩ := State.abandon_cases hstep
      refine (howned.startClose resource).setPending operation nofun fun other hother => .inr ?_
      rw [State.pending_startClose] at hother
      obtain rfl : resource = other := Option.some.inj (hpending.symm.trans hother)
      exact released_startClose (howned.pendingKind operation resource hpending)
  | connect operation target temporary =>
      obtain ⟨resource, hpending, rfl⟩ := State.connect_cases hstep
      exact howned.deliver hpending hspare
  | spawn target =>
      obtain ⟨scope, hholds, rfl⟩ := State.spawn_cases hstep
      refine howned.released rfl rfl rfl fun resource hfree hreleased => ?_
      refine hreleased.setActive fun hself => ?_
      exact absurd ⟨target, hself ▸ hholds⟩ hfree
  | taskEnds id =>
      obtain ⟨-, rfl⟩ := State.taskEnds_cases hstep
      refine howned.released rfl rfl rfl fun resource _ hreleased => ?_
      exact hreleased.setActive fun _ hactive => by omega
  | closed resource =>
      obtain ⟨-, rfl⟩ := State.closed_cases hstep
      exact howned.released rfl rfl rfl fun _ _ hreleased => hreleased.closed resource

/-- In every run in which assignments overwrite only what is elsewhere too or needs no owner,
every resource is in an object or in the hands of an operation, or needs no owner. -/
theorem accounted_of_overwritesSpare (actions : List Action) (state : State)
    (hmeets : machine.Meets OverwritesSpare actions {})
    (hrun : machine.run actions {} = some state) : Accounted state := by
  have howned : Owned state :=
    Machine.run_invariant (fun _ _ _ howned hspare hstep => step_owned howned hspare hstep)
      actions {} state owned_initial hmeets hrun
  exact howned.accounted

/-- A socket is connected, its connection closed, and the socket connected again. -/
def closedAndReconnected : List Action :=
  [.begin 0 .tcpConnection 7, .connect 0 0 1, .close 0, .begin 0 .tcpConnection 8, .connect 0 0 1]

theorem accounted_closedAndReconnected :
    ∃ state, machine.run closedAndReconnected {} = some state ∧
      state.holds 0 = some ⟨.tcpConnection, 8⟩ ∧
      state.status ⟨.tcpConnection, 7⟩ = .closing ∧ Accounted state := by
  have hmeets : machine.Meets OverwritesSpare closedAndReconnected {} := by
    refine Machine.meets_cons trivial rfl (Machine.meets_cons ?_ rfl (Machine.meets_cons trivial rfl
      (Machine.meets_cons trivial rfl (Machine.meets_cons ?_ rfl trivial))))
    · exact spare_absent rfl
    · rintro resource ⟨⟩
      exact .inr (by decide)
  exact ⟨_, rfl, rfl, rfl, accounted_of_overwritesSpare _ _ hmeets rfl⟩

/-- A connected socket is connected again. -/
def reconnected : List Action :=
  [.begin 0 .tcpConnection 7, .connect 0 0 1, .begin 0 .tcpConnection 8, .connect 0 0 1]

theorem lost_reconnected :
    ¬ ∀ (actions : List Action) (state : State), machine.run actions {} = some state →
      Accounted state := by
  intro halwaysAccounted
  have haccounted := halwaysAccounted reconnected _ rfl ⟨.tcpConnection, 7⟩ (by decide)
  rcases haccounted with ⟨handle, hholds⟩ | ⟨operation, hpending⟩ | hreleased
  · rcases handle with _ | _ | handle <;> cases hholds
  · rcases operation with _ | operation <;> cases hpending
  · exact absurd hreleased (by decide)

end Fiberuv.Handles
