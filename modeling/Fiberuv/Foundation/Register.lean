import Mathlib.Data.List.Induction

/-! # A register and the log of its accesses

Some events of a log write a value and some read one. The value held after a log is the
one written last, and a log is faithful when every event that reads a value reads the one
held at that point.
-/

namespace Foundation

universe u v

variable {Event : Type u} {Value : Type v} (writes reads : Event → Option Value)

/-- The value written last. -/
def held (events : List Event) : Option Value :=
  events.foldl (fun value event => (writes event).or value) none

/-- Every event that reads a value reads the one written last before it. -/
def ReadsLast (events : List Event) : Prop :=
  ∀ before event after value, events = before ++ event :: after → reads event = some value →
    held writes before = some value

variable {writes reads}

@[simp] theorem held_nil : held writes [] = none := rfl

@[simp] theorem held_snoc (events : List Event) (event : Event) :
    held writes (events ++ [event]) = (writes event).or (held writes events) := by
  simp [held, List.foldl_append]

/-- The event that wrote the value held, and none after it. -/
theorem held_eq_some {events : List Event} {value : Value}
    (hheld : held writes events = some value) :
    ∃ first event rest, events = first ++ event :: rest ∧ writes event = some value ∧
      ∀ later ∈ rest, writes later = none := by
  induction events using List.reverseRecOn with
  | nil => cases hheld
  | append_singleton events last ih =>
      rw [held_snoc] at hheld
      cases hlast : writes last with
      | some written =>
          refine ⟨events, last, [], rfl, ?_, by simp⟩
          rwa [hlast, Option.some_or, ← hlast] at hheld
      | none =>
          rw [hlast, Option.none_or] at hheld
          obtain ⟨first, event, rest, rfl, hevent, hrest⟩ := ih hheld
          refine ⟨first, event, rest ++ [last], by simp, hevent, ?_⟩
          intro later hlater
          rcases List.mem_append.mp hlater with hbefore | hnew
          · exact hrest later hbefore
          · rwa [List.mem_singleton.mp hnew]

theorem readsLast_nil : ReadsLast writes reads [] := by
  intro before event after value hsplit
  simp at hsplit

theorem ReadsLast.snoc {events : List Event} (hlast : ReadsLast writes reads events)
    {event : Event} (hevent : ∀ value, reads event = some value →
      held writes events = some value) : ReadsLast writes reads (events ++ [event]) := by
  intro before other after value hsplit hreads
  rcases List.eq_nil_or_concat after with rfl | ⟨rest, last, rfl⟩
  · obtain ⟨rfl, heq⟩ := List.append_inj' hsplit rfl
    rw [List.cons.injEq] at heq
    exact hevent value (heq.1 ▸ hreads)
  · refine hlast before other rest value ?_ hreads
    rw [List.concat_eq_append, ← List.cons_append, ← List.append_assoc] at hsplit
    exact (List.append_inj' hsplit rfl).1

end Foundation
