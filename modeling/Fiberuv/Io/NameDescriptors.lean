import Fiberuv.Foundation.Custody
import Fiberuv.Io.NameHistory

/-! # The descriptors of `create_file`

`create_file` opens a descriptor only to close it again. At every moment each open descriptor
was open before the first call, or it is in the hands of exactly one call, which is on its
way to close it or could not make the request for that.
-/

namespace Fiberuv.Io.Names

open Foundation

variable {Disk : Type}

/-- The descriptor that a call has made and not closed. -/
def Call.holds : Call → Option Fd
  | .naming op (some result) => op.request.made result
  | .named (.createFile _ _) (.ok fd) => some fd
  | .closing _ _ fd none => some fd
  | .unclosed fd _ => some fd
  | _ => none

inductive Holder where
  /-- Whoever had opened it before the first call. -/
  | outside
  | call (id : CallId)

/-- The descriptor is in these hands. -/
def HeldBy (opened : List Fd) (state : State Disk) (fd : Fd) : Holder → Prop
  | .outside => fd ∈ opened
  | .call id => (state.call id).holds = some fd

/-- Every open descriptor is in somebody's hands, and nothing else is. -/
structure Kept (opened : List Fd) (state : State Disk) : Prop where
  nodup : state.descriptors.Nodup
  custody : Custody (· ∈ state.descriptors) (HeldBy opened state)

section Steps

variable {kernel : Kernel Disk} {opened : List Fd} {state base : State Disk} {id : CallId}
  {call : Call}

theorem heldBy_setCall {fd : Fd} {holder : Holder} (hcalls : base.call = state.call)
    (hne : holder ≠ .call id) :
    HeldBy opened (base.setCall id call) fd holder ↔ HeldBy opened state fd holder := by
  cases holder with
  | outside => rfl
  | call other =>
      have hother : other ≠ id := fun hsame => hne (hsame ▸ rfl)
      simp [HeldBy, State.setCall_call_of_ne hother, hcalls]

/-- A call moves and holds what it has held. -/
theorem Kept.stay (hkept : Kept opened state) (hholds : call.holds = (state.call id).holds) :
    Kept opened (state.setCall id call) where
  nodup := hkept.nodup
  custody := by
    refine hkept.custody.stay fun fd holder => ?_
    by_cases hholder : holder = .call id
    · subst hholder
      simp [HeldBy, hholds]
    · exact heldBy_setCall rfl hholder

/-- A call gets a new descriptor. -/
theorem Kept.enter (hkept : Kept opened state) {fd : Fd} (hnone : (state.call id).holds = none)
    (hnew : fd ∉ state.descriptors) (hholds : call.holds = some fd)
    (hcalls : base.call = state.call) (hdescriptors : base.descriptors = fd :: state.descriptors) :
    Kept opened (base.setCall id call) where
  nodup := by
    have hnodup := List.nodup_cons.mpr ⟨hnew, hkept.nodup⟩
    rwa [← hdescriptors] at hnodup
  custody := by
    refine hkept.custody.enter fd (.call id) hnew (fun other holder => ?_) fun other => ?_
    · by_cases hholder : holder = .call id
      · subst hholder
        simp [HeldBy, hholds, hnone, eq_comm]
      · simp [heldBy_setCall hcalls hholder, hholder]
    · have hmem : other ∈ (base.setCall id call).descriptors ↔ other ∈ fd :: state.descriptors := by
        rw [← hdescriptors]
        rfl
      rw [hmem, List.mem_cons, or_comm]

/-- The descriptor of a call is closed. -/
theorem Kept.leave (hkept : Kept opened state) {fd : Fd} (hholds : (state.call id).holds = some fd)
    (hnone : call.holds = none) (hcalls : base.call = state.call)
    (hdescriptors : base.descriptors = state.descriptors.erase fd) :
    Kept opened (base.setCall id call) where
  nodup := by
    have hnodup := hkept.nodup.erase fd
    rwa [← hdescriptors] at hnodup
  custody := by
    have hheld : HeldBy opened state fd (.call id) := hholds
    refine hkept.custody.leave fd (fun other holder => ?_) fun other => ?_
    · by_cases hholder : holder = .call id
      · subst hholder
        simp +contextual [HeldBy, hholds, hnone, eq_comm]
      · rw [heldBy_setCall hcalls hholder]
        refine (and_iff_left_of_imp fun hother => ?_).symm
        rintro rfl
        exact hholder (hkept.custody.alone other holder _ hother hheld)
    · have hmem : other ∈ (base.setCall id call).descriptors ↔
          other ∈ state.descriptors.erase fd := by
        rw [← hdescriptors]
        rfl
      rw [hmem, hkept.nodup.mem_erase_iff, and_comm]

theorem Kept.serveName (hkept : Kept opened state) {op : Operation}
    (hcall : state.call id = .naming op none) {result : Int} {served : Disk} {next : State Disk}
    (hserve : state.serveName kernel id op result served = some next) : Kept opened next := by
  have hnone : (state.call id).holds = none := by rw [hcall]; rfl
  unfold State.serveName at hserve
  split at hserve
  next hcan =>
    obtain rfl := Option.some.inj hserve
    cases hmade : op.request.made result with
    | none =>
        have hsame : Kept opened (state.setCall id (.naming op (some result))) :=
          hkept.stay (by rw [hnone, Call.holds, hmade])
        exact ⟨hsame.nodup, hsame.custody⟩
    | some fd => exact hkept.enter hnone (hcan.2 fd hmade) hmade rfl rfl
  next => cases hserve

/-- The promise of `fs_open` has the descriptor. -/
theorem holds_named (op : Operation) (result : Int) :
    (Call.named op (op.callback result)).holds = op.request.made result := by
  cases op with
  | createFile path truncate =>
      by_cases hneg : result < 0
      · simp [Call.holds, Operation.callback, onFsOpen, hneg, NameRequest.made, Operation.request]
      · simp [Call.holds, Operation.callback, onFsOpen, hneg, NameRequest.made, Operation.request,
          Int.not_lt.mp hneg]
  | _ => rfl

theorem Kept.goOn (hkept : Kept opened state) {op : Operation} {value : Int}
    (hcall : state.call id = .named op (.ok value)) (rc : Int) :
    Kept opened (state.goOn id op value rc) := by
  cases op with
  | createFile path truncate =>
      simp only [State.goOn, State.fsClose]
      split
      next => exact hkept.stay (by rw [hcall]; rfl)
      next => exact hkept.stay (by rw [hcall]; rfl)
  | createDirectory path mode => exact hkept.stay (by rw [hcall]; rfl)
  | removeDirectory path => exact hkept.stay (by rw [hcall]; rfl)
  | removeFile path => exact hkept.stay (by rw [hcall]; rfl)

theorem step_kept {next : State Disk} {action : Action Disk} (hkept : Kept opened state)
    (hstep : (machine kernel).step state action = some next) : Kept opened next := by
  cases action with
  | call id op rc =>
      simp only [machine, State.step] at hstep
      split at hstep
      next hidle =>
        cases hstep
        unfold State.start
        split
        next => exact hkept.stay (by rw [hidle]; rfl)
        next => exact hkept.stay (by rw [hidle]; rfl)
      next => cases hstep
  | serve id result served =>
      simp only [machine, State.step] at hstep
      split at hstep
      next op hcall => exact hkept.serveName hcall hstep
      next => cases hstep
  | serveClose id result =>
      simp only [machine, State.step] at hstep
      split at hstep
      next path truncate fd hcall =>
        cases hstep
        exact hkept.leave (by rw [hcall]; rfl) rfl rfl rfl
      next => cases hstep
  | callback id =>
      simp only [machine, State.step] at hstep
      split at hstep
      next op result hcall =>
        cases hstep
        exact hkept.stay (by rw [hcall, holds_named]; rfl)
      next path truncate fd result hcall =>
        cases hstep
        exact hkept.stay (by rw [hcall]; rfl)
      next => cases hstep
  | resume id rc =>
      simp only [machine, State.step] at hstep
      split at hstep
      next op error hcall =>
        cases hstep
        exact hkept.stay (by rw [hcall]; cases op <;> rfl)
      next op value hcall =>
        cases hstep
        exact hkept.goOn hcall rc
      next path truncate error hcall =>
        cases hstep
        exact hkept.stay (by rw [hcall]; rfl)
      next path truncate hcall =>
        cases hstep
        exact hkept.stay (by rw [hcall]; rfl)
      next => cases hstep

end Steps

theorem kept_fresh (disk : Disk) {opened : List Fd} (hnodup : opened.Nodup) :
    Kept opened (fresh disk opened) where
  nodup := hnodup
  custody := by
    refine ⟨fun fd hfd => ⟨.outside, hfd⟩, fun fd first second hfirst hsecond => ?_,
      fun fd holder hholder => ?_⟩
    · cases first with
      | call id => cases hfirst
      | outside =>
          cases second with
          | call id => cases hsecond
          | outside => rfl
    · cases holder with
      | call id => cases hholder
      | outside => exact hholder

/-- At the end of a run each open descriptor was open at its beginning, or one call has it,
and no descriptor of either kind has been closed. When every call has returned and libuv has
taken all requests to close, just those are open that were open at the beginning. -/
theorem descriptors_accounted (kernel : Kernel Disk) (actions : List (Action Disk)) (disk : Disk)
    (opened : List Fd) (hnodup : opened.Nodup) (state : State Disk)
    (hrun : (machine kernel).run actions (fresh disk opened) = some state) :
    (∀ fd ∈ state.descriptors, ∃! holder, HeldBy opened state fd holder) ∧
      (∀ fd holder, HeldBy opened state fd holder → fd ∈ state.descriptors) ∧
      ((∀ id, state.call id = .idle ∨ ∃ answer, state.call id = .returned answer) →
        ∀ fd, fd ∈ state.descriptors ↔ fd ∈ opened) := by
  have hkept : Kept opened state := Machine.run_invariant
    (fun _ _ _ hkept _ hstep => step_kept hkept hstep) actions (fresh disk opened) state
    (kept_fresh disk hnodup) (Machine.meets_true actions _) hrun
  refine ⟨fun fd hfd => hkept.custody.existsUnique hfd, hkept.custody.known,
    fun hended fd => ⟨fun hfd => ?_, fun hfd => hkept.custody.known fd .outside hfd⟩⟩
  obtain ⟨holder, hholder⟩ := hkept.custody.somewhere fd hfd
  cases holder with
  | outside => exact hholder
  | call id =>
      rw [HeldBy] at hholder
      rcases hended id with hidle | ⟨answer, hreturned⟩
      · rw [hidle] at hholder
        cases hholder
      · rw [hreturned] at hholder
        cases hholder

/-- The second file gets the descriptor that the first one has given up, and keeps it. -/
def descriptorReused : List (Action Listing) :=
  [.call 0 (.createFile "a" true) 0, .call 1 (.createFile "b" false) 0,
    .serve 0 3 [("a", .file)], .callback 0, .resume 0 0, .serveClose 0 (-5),
    .serve 1 3 [("b", .file), ("a", .file)], .callback 1, .callback 0, .resume 1 (-12),
    .resume 0 0]

theorem descriptors_accounted_descriptorReused :
    ∃ state, (machine oneDirectory).run descriptorReused (fresh [] [0, 1, 2]) = some state ∧
      state.descriptors = [3, 0, 1, 2] ∧ ∃! holder, HeldBy [0, 1, 2] state 3 holder := by
  refine ⟨_, rfl, rfl, ?_⟩
  exact (descriptors_accounted oneDirectory descriptorReused [] [0, 1, 2] (by decide) _ rfl).1 3
    (by decide)

end Fiberuv.Io.Names
