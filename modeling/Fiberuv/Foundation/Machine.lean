import Mathlib.Data.List.Basic
import Mathlib.Logic.Function.Basic

/-! # Labelled machines and their runs

A machine is a partial step function. Every choice the machine does not make
itself (which context moves, which result a request gets, which timer expires)
is carried by the label, so a run is determined by the list of its labels.

A *restriction* on steps is a predicate on the state before the step and the
label. A run meets a restriction when every one of its steps does; with the
trivial restriction this is an arbitrary run.
-/

namespace Foundation

universe u v

/-- A partial transition function over labelled choices. -/
structure Machine (State : Type u) (Label : Type v) where
  step : State → Label → Option State

namespace Machine

variable {State : Type u} {Label : Type v}

/-- Take the labelled steps in order; the run is undefined as soon as one step is. -/
def run (machine : Machine State Label) : List Label → State → Option State
  | [], state => some state
  | label :: rest, state => (machine.step state label).bind (machine.run rest)

/-- Every step of the run of these labels is taken in a state that allows it. -/
def Meets (machine : Machine State Label) (allowed : State → Label → Prop) :
    List Label → State → Prop
  | [], _ => True
  | label :: rest, state => allowed state label ∧
      ∀ next, machine.step state label = some next → machine.Meets allowed rest next

/-- The states that some run from `start` ends in. -/
def Reachable (machine : Machine State Label) (start state : State) : Prop :=
  ∃ labels, machine.run labels start = some state

variable (machine : Machine State Label)

@[simp] theorem run_nil (state : State) : machine.run [] state = some state := rfl

@[simp] theorem run_cons (label : Label) (rest : List Label) (state : State) :
    machine.run (label :: rest) state = (machine.step state label).bind (machine.run rest) := rfl

theorem run_append (first second : List Label) (state : State) :
    machine.run (first ++ second) state = (machine.run first state).bind (machine.run second) := by
  induction first generalizing state with
  | nil => rfl
  | cons label rest ih =>
      simp only [List.cons_append, run_cons, Option.bind_assoc]
      exact Option.bind_congr fun next _ => ih next

variable {machine}

theorem meets_cons {allowed : State → Label → Prop} {label : Label} {rest : List Label}
    {state next : State} (hallowed : allowed state label)
    (hstep : machine.step state label = some next) (hrest : machine.Meets allowed rest next) :
    machine.Meets allowed (label :: rest) state := by
  refine ⟨hallowed, fun other hother => ?_⟩
  rw [hstep] at hother
  exact Option.some.inj hother ▸ hrest

theorem meets_true (labels : List Label) (state : State) :
    machine.Meets (fun _ _ => True) labels state := by
  induction labels generalizing state with
  | nil => trivial
  | cons label rest ih => exact ⟨trivial, fun next _ => ih next⟩

/-- A run meets a restriction exactly when each of its steps does, in the state the steps
before it lead to. -/
theorem meets_iff_forall {allowed : State → Label → Prop} {labels : List Label} {state : State} :
    machine.Meets allowed labels state ↔
      ∀ before label rest middle, labels = before ++ label :: rest →
        machine.run before state = some middle → allowed middle label := by
  induction labels generalizing state with
  | nil => simp [Meets]
  | cons head tail ih =>
      constructor
      · rintro ⟨hhead, htail⟩ before label rest middle hsplit hrun
        cases before with
        | nil =>
            simp only [List.nil_append, List.cons.injEq] at hsplit
            simp only [run_nil, Option.some.injEq] at hrun
            exact hsplit.1 ▸ hrun ▸ hhead
        | cons first before =>
            simp only [List.cons_append, List.cons.injEq] at hsplit
            simp only [run_cons, Option.bind_eq_some_iff] at hrun
            obtain ⟨next, hstep, hrun⟩ := hrun
            exact ih.mp (htail next (hsplit.1 ▸ hstep)) before label rest middle hsplit.2 hrun
      · intro hall
        refine ⟨hall [] head tail state rfl rfl, fun next hstep => ih.mpr ?_⟩
        intro before label rest middle hsplit hrun
        refine hall (head :: before) label rest middle (by rw [hsplit]; rfl) ?_
        rw [run_cons, hstep]
        exact hrun

/-- A run meets two restrictions together when it meets each of them. -/
theorem Meets.and {first second : State → Label → Prop} {labels : List Label} {state : State}
    (hfirst : machine.Meets first labels state) (hsecond : machine.Meets second labels state) :
    machine.Meets (fun state label => first state label ∧ second state label) labels state := by
  rw [meets_iff_forall] at hfirst hsecond ⊢
  intro before label rest middle hsplit hrun
  exact ⟨hfirst before label rest middle hsplit hrun, hsecond before label rest middle hsplit hrun⟩

/-- A predicate kept by every allowed step is kept by every run that meets the
restriction. -/
theorem run_invariant {allowed : State → Label → Prop} {invariant : State → Prop}
    (hstep : ∀ state label next, invariant state → allowed state label →
      machine.step state label = some next → invariant next)
    (labels : List Label) (state final : State) (hstate : invariant state)
    (hmeets : machine.Meets allowed labels state)
    (hrun : machine.run labels state = some final) : invariant final := by
  induction labels generalizing state with
  | nil =>
      simp only [run_nil, Option.some.injEq] at hrun
      exact hrun ▸ hstate
  | cons label rest ih =>
      simp only [run_cons, Option.bind_eq_some_iff] at hrun
      obtain ⟨next, hnext, hrest⟩ := hrun
      exact ih next (hstep state label next hstate hmeets.1 hnext) (hmeets.2 next hnext) hrest

theorem meets_before {allowed : State → Label → Prop} {before after : List Label} {state : State}
    (hmeets : machine.Meets allowed (before ++ after) state) :
    machine.Meets allowed before state := by
  rw [meets_iff_forall] at hmeets ⊢
  intro first label rest middle hsplit hmiddle
  exact hmeets first label (rest ++ after) middle (by simp [hsplit]) hmiddle

theorem meets_after {allowed : State → Label → Prop} {before after : List Label}
    {state middle : State} (hmeets : machine.Meets allowed (before ++ after) state)
    (hrun : machine.run before state = some middle) : machine.Meets allowed after middle := by
  induction before generalizing state with
  | nil =>
      simp only [run_nil, Option.some.injEq] at hrun
      exact hrun ▸ hmeets
  | cons label rest ih =>
      simp only [run_cons, Option.bind_eq_some_iff] at hrun
      obtain ⟨next, hnext, hrest⟩ := hrun
      exact ih (hmeets.2 next hnext) hrest

/-- A run along which a property holds meets a restriction, where allowed steps keep an
invariant and every other step breaks the property; both of the steps that are given. -/
theorem meets_of_along_run {given allowed : State → Label → Prop} {invariant good : State → Prop}
    (hstep : ∀ state label next, invariant state → given state label → allowed state label →
      machine.step state label = some next → invariant next)
    (hbad : ∀ state label next, invariant state → given state label → ¬ allowed state label →
      machine.step state label = some next → ¬ good next)
    {labels : List Label} {start final : State} (hstart : invariant start)
    (hgiven : machine.Meets given labels start) (hrun : machine.run labels start = some final)
    (hgood : ∀ before after state, labels = before ++ after →
      machine.run before start = some state → good state) :
    machine.Meets allowed labels start := by
  induction labels generalizing start with
  | nil => trivial
  | cons label rest ih =>
      rw [run_cons, Option.bind_eq_some_iff] at hrun
      obtain ⟨next, hnext, hrest⟩ := hrun
      have hallowed : allowed start label := by
        by_contra hnot
        refine hbad start label next hstart hgiven.1 hnot hnext (hgood [label] rest next rfl ?_)
        rw [run_cons, hnext]
        rfl
      refine meets_cons hallowed hnext (ih (hstep start label next hstart hgiven.1 hallowed hnext)
        (hgiven.2 next hnext) hrest ?_)
      intro before after state hsplit hbefore
      refine hgood (label :: before) after state (by rw [hsplit]; rfl) ?_
      rw [run_cons, hnext]
      exact hbefore

/-- A property that allowed steps keep as part of an invariant, and that the first other step
breaks, holds all along a run exactly when the run meets the restriction. -/
theorem along_run_iff_meets_of_kept {allowed : State → Label → Prop}
    {invariant good : State → Prop}
    (hstep : ∀ state label next, invariant state → allowed state label →
      machine.step state label = some next → invariant next)
    (hgood : ∀ state, invariant state → good state)
    (hbad : ∀ state label next, invariant state → ¬ allowed state label →
      machine.step state label = some next → ¬ good next)
    {labels : List Label} {start final : State} (hstart : invariant start)
    (hrun : machine.run labels start = some final) :
    (∀ before after state, labels = before ++ after → machine.run before start = some state →
      good state) ↔ machine.Meets allowed labels start := by
  constructor
  · exact meets_of_along_run (fun state label next hinv _ => hstep state label next hinv)
      (fun state label next hinv _ => hbad state label next hinv) hstart
      (meets_true labels start) hrun
  · intro hmeets before after state hsplit hbefore
    rw [hsplit] at hmeets
    exact hgood state (run_invariant hstep before start state hstart (meets_before hmeets) hbefore)

/-- With facts that every step keeps: a property that allowed steps keep as part of an
invariant, and that every other step breaks, holds all along a run exactly when the run
meets the restriction. -/
theorem along_run_iff_meets {allowed : State → Label → Prop} {always invariant good : State → Prop}
    (halways : ∀ state label next, always state → machine.step state label = some next →
      always next)
    (hstep : ∀ state label next, always state → invariant state → allowed state label →
      machine.step state label = some next → invariant next)
    (hgood : ∀ state, always state → invariant state → good state)
    (hbad : ∀ state label next, always state → ¬ allowed state label →
      machine.step state label = some next → ¬ good next)
    {labels : List Label} {start final : State} (hfacts : always start) (hstart : invariant start)
    (hrun : machine.run labels start = some final) :
    (∀ before after state, labels = before ++ after → machine.run before start = some state →
      good state) ↔ machine.Meets allowed labels start := by
  have hkept : ∀ state label next, always state ∧ invariant state → allowed state label →
      machine.step state label = some next → always next ∧ invariant next := by
    rintro state label next ⟨hfacts, hinv⟩ hallowed hnext
    exact ⟨halways state label next hfacts hnext,
      hstep state label next hfacts hinv hallowed hnext⟩
  exact along_run_iff_meets_of_kept hkept (fun state hstate => hgood state hstate.1 hstate.2)
    (fun state label next hstate => hbad state label next hstate.1) ⟨hfacts, hstart⟩ hrun

/-- The states that runs meeting the restriction end in, built step by step. -/
inductive Reaches (machine : Machine State Label) (allowed : State → Label → Prop)
    (start : State) : State → Prop where
  | refl : Reaches machine allowed start start
  | snoc {state next : State} {label : Label} (hreaches : Reaches machine allowed start state)
      (hallowed : allowed state label) (hstep : machine.step state label = some next) :
      Reaches machine allowed start next

theorem reaches_of_run {allowed : State → Label → Prop} {labels : List Label}
    {start state final : State} (hreaches : machine.Reaches allowed start state)
    (hmeets : machine.Meets allowed labels state) (hrun : machine.run labels state = some final) :
    machine.Reaches allowed start final :=
  run_invariant (fun _ _ _ hreaches hallowed hstep => hreaches.snoc hallowed hstep)
    labels state final hreaches hmeets hrun

theorem meets_append {allowed : State → Label → Prop} {first second : List Label}
    {state middle : State} (hfirst : machine.Meets allowed first state)
    (hrun : machine.run first state = some middle) (hsecond : machine.Meets allowed second middle) :
    machine.Meets allowed (first ++ second) state := by
  induction first generalizing state with
  | nil =>
      simp only [run_nil, Option.some.injEq] at hrun
      exact hrun ▸ hsecond
  | cons label rest ih =>
      simp only [run_cons, Option.bind_eq_some_iff] at hrun
      obtain ⟨next, hnext, hrest⟩ := hrun
      exact meets_cons hfirst.1 hnext (ih (hfirst.2 next hnext) hrest)

/-- Every state reached step by step is the end of a run. -/
theorem Reaches.exists_run {allowed : State → Label → Prop} {start state : State}
    (hreaches : machine.Reaches allowed start state) :
    ∃ labels, machine.Meets allowed labels start ∧ machine.run labels start = some state := by
  induction hreaches with
  | refl => exact ⟨[], trivial, rfl⟩
  | snoc _ hallowed hstep ih =>
      obtain ⟨labels, hmeets, hrun⟩ := ih
      refine ⟨labels ++ [_], meets_append hmeets hrun (meets_cons hallowed hstep trivial), ?_⟩
      simp [run_append, hrun, hstep]

/-- A predicate kept by every step holds in every reachable state. -/
theorem reachable_invariant {invariant : State → Prop}
    (hstep : ∀ state label next, invariant state →
      machine.step state label = some next → invariant next)
    {start state : State} (hstart : invariant start)
    (hreach : machine.Reachable start state) : invariant state := by
  obtain ⟨labels, hrun⟩ := hreach
  exact run_invariant (fun state label next hinv _ hnext => hstep state label next hinv hnext)
    labels start state hstart (meets_true labels start) hrun

/-- The counted steps of a run are bounded by the measure they consume, when
every counted step lowers it and no other step raises it. -/
theorem run_measure {measure : State → Nat} {counted : Label → Bool}
    (hstep : ∀ state label next, machine.step state label = some next →
      measure next + (if counted label then 1 else 0) ≤ measure state)
    (labels : List Label) (state final : State)
    (hrun : machine.run labels state = some final) :
    measure final + labels.countP counted ≤ measure state := by
  induction labels generalizing state with
  | nil =>
      simp only [run_nil, Option.some.injEq] at hrun
      simp [hrun]
  | cons label rest ih =>
      simp only [run_cons, Option.bind_eq_some_iff] at hrun
      obtain ⟨next, hnext, hrest⟩ := hrun
      have htail := ih next hrest
      have hhead := hstep state label next hnext
      rw [List.countP_cons]
      omega

/-- The counted steps of a run are bounded when every counted step lowers the measure and
every other step raises it by no more than its price. -/
theorem run_amortized {invariant : State → Prop} {measure : State → Nat} {counted : Label → Bool}
    {price : Nat}
    (hkeep : ∀ state label next, invariant state → machine.step state label = some next →
      invariant next)
    (hlower : ∀ state label next, invariant state → counted label = true →
      machine.step state label = some next → measure next < measure state)
    (hraise : ∀ state label next, invariant state → counted label = false →
      machine.step state label = some next → measure next ≤ measure state + price)
    (labels : List Label) (state final : State) (hstate : invariant state)
    (hrun : machine.run labels state = some final) :
    measure final + labels.countP counted ≤
      measure state + price * labels.countP (fun label => !counted label) := by
  induction labels generalizing state with
  | nil =>
      simp only [run_nil, Option.some.injEq] at hrun
      simp [hrun]
  | cons label rest ih =>
      simp only [run_cons, Option.bind_eq_some_iff] at hrun
      obtain ⟨next, hnext, hrest⟩ := hrun
      have htail := ih next (hkeep state label next hstate hnext) hrest
      cases hcounted : counted label with
      | true =>
          have hhead := hlower state label next hstate hcounted hnext
          rw [List.countP_cons_of_pos hcounted, List.countP_cons_of_neg (by simp [hcounted])]
          omega
      | false =>
          have hhead := hraise state label next hstate hcounted hnext
          rw [List.countP_cons_of_neg (by simp [hcounted]),
            List.countP_cons_of_pos (by simp [hcounted]), Nat.mul_succ]
          omega

/-- What an observer who sees every step notes along a run. -/
def notes {Note : Type*} (machine : Machine State Label) (note : State → State → List Note) :
    List Label → State → List Note
  | [], _ => []
  | label :: rest, state =>
      match machine.step state label with
      | none => []
      | some next => note state next ++ machine.notes note rest next

/-- A relation between the state and the notes so far that every step keeps holds at the
end of every run. -/
theorem run_notes {Note : Type*} {note : State → State → List Note}
    {invariant : State → List Note → Prop}
    (hstep : ∀ state seen label next, invariant state seen →
      machine.step state label = some next → invariant next (seen ++ note state next))
    (labels : List Label) (state final : State) (seen : List Note) (hstate : invariant state seen)
    (hrun : machine.run labels state = some final) :
    invariant final (seen ++ machine.notes note labels state) := by
  induction labels generalizing state seen with
  | nil =>
      simp only [run_nil, Option.some.injEq] at hrun
      simpa [notes, ← hrun] using hstate
  | cons label rest ih =>
      simp only [run_cons, Option.bind_eq_some_iff] at hrun
      obtain ⟨next, hnext, hrest⟩ := hrun
      have hlater := ih next (seen ++ note state next)
        (hstep state seen label next hstate hnext) hrest
      simpa [notes, hnext, List.append_assoc] using hlater

/-- The events that the steps of a run give rise to, in order. -/
def trace {Event : Type*} (machine : Machine State Label) (emits : State → Label → List Event) :
    List Label → State → List Event
  | [], _ => []
  | label :: rest, state =>
      match machine.step state label with
      | none => []
      | some next => emits state label ++ machine.trace emits rest next

/-- A relation between the state and the events so far that every step keeps holds at the
end of every run. -/
theorem run_trace {Event : Type*} {emits : State → Label → List Event}
    {invariant : State → List Event → Prop}
    (hstep : ∀ state seen label next, invariant state seen →
      machine.step state label = some next → invariant next (seen ++ emits state label))
    (labels : List Label) (state final : State) (seen : List Event)
    (hstate : invariant state seen) (hrun : machine.run labels state = some final) :
    invariant final (seen ++ machine.trace emits labels state) := by
  induction labels generalizing state seen with
  | nil =>
      simp only [run_nil, Option.some.injEq] at hrun
      simpa [trace, ← hrun] using hstate
  | cons label rest ih =>
      simp only [run_cons, Option.bind_eq_some_iff] at hrun
      obtain ⟨next, hnext, hrest⟩ := hrun
      have hlater := ih next (seen ++ emits state label)
        (hstep state seen label next hstate hnext) hrest
      simpa [trace, hnext, List.append_assoc] using hlater

/-- The same of the runs that meet a restriction. -/
theorem run_trace_meets {Event : Type*} {emits : State → Label → List Event}
    {allowed : State → Label → Prop} {invariant : State → List Event → Prop}
    (hstep : ∀ state seen label next, invariant state seen → allowed state label →
      machine.step state label = some next → invariant next (seen ++ emits state label))
    (labels : List Label) (state final : State) (seen : List Event)
    (hstate : invariant state seen) (hmeets : machine.Meets allowed labels state)
    (hrun : machine.run labels state = some final) :
    invariant final (seen ++ machine.trace emits labels state) := by
  induction labels generalizing state seen with
  | nil =>
      simp only [run_nil, Option.some.injEq] at hrun
      simpa [trace, ← hrun] using hstate
  | cons label rest ih =>
      simp only [run_cons, Option.bind_eq_some_iff] at hrun
      obtain ⟨next, hnext, hrest⟩ := hrun
      have hlater := ih next (seen ++ emits state label)
        (hstep state seen label next hstate hmeets.1 hnext) (hmeets.2 next hnext) hrest
      simpa [trace, hnext, List.append_assoc] using hlater

end Machine

end Foundation
