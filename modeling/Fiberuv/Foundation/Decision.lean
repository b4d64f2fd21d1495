import Fiberuv.Foundation.Machine

/-! # The step that decides

A cell that is empty at first and that some labels fill. When a label fills the cell only
while it is empty and no other step touches it, a run has at most one deciding label, and
the cell holds at its end what this label decides. A flag is a cell that is only ever
raised.
-/

namespace Foundation.Machine

universe u v w

variable {State : Type u} {Label : Type v} {Value : Type w}

/-- A step fills the cell from its label, and only while it is empty. -/
structure DecidedBy (machine : Machine State Label) (invariant : State → Prop)
    (cell : State → Option Value) (decides : Label → Option Value) : Prop where
  keeps : ∀ state label next, invariant state → machine.step state label = some next →
    invariant next
  fills : ∀ state label next, invariant state → machine.step state label = some next →
    cell next = (cell state).or (decides label)
  empty : ∀ state label next, invariant state → machine.step state label = some next →
    (decides label).isSome → cell state = none

variable {machine : Machine State Label} {invariant : State → Prop} {cell : State → Option Value}
  {decides : Label → Option Value}

/-- The first label that decides fills the cell. -/
theorem DecidedBy.run (hdecided : machine.DecidedBy invariant cell decides)
    (labels : List Label) (state final : State) (hstate : invariant state)
    (hrun : machine.run labels state = some final) :
    cell final = (cell state).or (labels.findSome? decides) := by
  induction labels generalizing state with
  | nil =>
      simp only [run_nil, Option.some.injEq] at hrun
      simp [hrun]
  | cons label rest ih =>
      simp only [run_cons, Option.bind_eq_some_iff] at hrun
      obtain ⟨next, hnext, hrest⟩ := hrun
      have hfills := hdecided.fills state label next hstate hnext
      rw [ih next (hdecided.keeps state label next hstate hnext) hrest, hfills, Option.or_assoc,
        List.findSome?_cons]
      cases decides label <;> simp

/-- Once the cell is filled no label decides any more. -/
theorem DecidedBy.once (hdecided : machine.DecidedBy invariant cell decides)
    (labels : List Label) (state final : State) (hstate : invariant state)
    (hrun : machine.run labels state = some final) :
    labels.countP (fun label => (decides label).isSome) ≤ (cell state).isNone.toNat := by
  induction labels generalizing state with
  | nil => simp
  | cons label rest ih =>
      simp only [run_cons, Option.bind_eq_some_iff] at hrun
      obtain ⟨next, hnext, hrest⟩ := hrun
      have htail := ih next (hdecided.keeps state label next hstate hnext) hrest
      rw [hdecided.fills state label next hstate hnext] at htail
      cases hdecides : decides label with
      | none =>
          rw [hdecides, Option.or_none] at htail
          rwa [List.countP_cons_of_neg (by simp [hdecides])]
      | some value =>
          have hempty := hdecided.empty state label next hstate hnext (by simp [hdecides])
          rw [hempty, hdecides] at htail
          rw [List.countP_cons_of_pos (by simp [hdecides]), hempty]
          simpa using htail

/-- A flag is up exactly when it was at the start or some label of the run raised it. -/
theorem run_flag {flag : State → Bool} {raises : Label → Bool}
    (hstep : ∀ state label next, machine.step state label = some next →
      flag next = (flag state || raises label))
    (labels : List Label) (state final : State) (hrun : machine.run labels state = some final) :
    flag final = (flag state || labels.any raises) := by
  induction labels generalizing state with
  | nil =>
      simp only [run_nil, Option.some.injEq] at hrun
      simp [hrun]
  | cons label rest ih =>
      simp only [run_cons, Option.bind_eq_some_iff] at hrun
      obtain ⟨next, hnext, hrest⟩ := hrun
      rw [ih next hrest, hstep state label next hnext, List.any_cons, Bool.or_assoc]

/-- A run that comes to have a property has a step that brings it about. -/
theorem run_crossing (good : State → Prop) (labels : List Label) (state final : State)
    (hstate : ¬ good state) (hfinal : good final)
    (hrun : machine.run labels state = some final) :
    ∃ before label after middle next, labels = before ++ label :: after ∧
      machine.run before state = some middle ∧ machine.step middle label = some next ∧
      ¬ good middle ∧ good next := by
  induction labels generalizing state with
  | nil =>
      simp only [run_nil, Option.some.injEq] at hrun
      exact absurd (hrun ▸ hfinal) hstate
  | cons label rest ih =>
      simp only [run_cons, Option.bind_eq_some_iff] at hrun
      obtain ⟨next, hnext, hrest⟩ := hrun
      by_cases hgood : good next
      · exact ⟨[], label, rest, state, next, rfl, rfl, hnext, hstate, hgood⟩
      · obtain ⟨before, crossing, after, middle, later, hsplit, hbefore, hcross⟩ :=
          ih next hgood hrest
        refine ⟨label :: before, crossing, after, middle, later, by rw [hsplit]; rfl, ?_, hcross⟩
        rw [run_cons, hnext]
        exact hbefore

end Foundation.Machine
