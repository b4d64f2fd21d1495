import Mathlib.Logic.Function.Basic

/-! # Shared ownership

Holders that each hold at most one item, and what overwriting one of them does to the set of
items that are held.
-/

namespace Foundation

universe u v

variable {Holder : Type u} {Item : Type v}

/-- Some holder has the item. -/
def Held (holds : Holder → Option Item) (item : Item) : Prop :=
  ∃ holder, holds holder = some item

/-- A holder other than this one has the item. -/
def HeldElsewhere (holds : Holder → Option Item) (holder : Holder) (item : Item) : Prop :=
  ∃ other, other ≠ holder ∧ holds other = some item

variable [DecidableEq Holder] {holds : Holder → Option Item} {holder : Holder}
  {content : Option Item} {item : Item}

theorem held_update_iff :
    Held (Function.update holds holder content) item ↔
      content = some item ∨ HeldElsewhere holds holder item := by
  constructor
  · rintro ⟨other, hother⟩
    by_cases hself : other = holder
    · subst hself
      exact .inl (by simpa using hother)
    · exact .inr ⟨other, hself, by simpa [hself] using hother⟩
  · rintro (hcontent | ⟨other, hne, hother⟩)
    · exact ⟨holder, by simpa using hcontent⟩
    · exact ⟨other, by simpa [hne] using hother⟩

/-- Overwriting a holder loses at most the item it had. -/
theorem Held.update (hheld : Held holds item) (content : Option Item)
    (hkeep : holds holder = some item →
      content = some item ∨ HeldElsewhere holds holder item) :
    Held (Function.update holds holder content) item := by
  rw [held_update_iff]
  obtain ⟨other, hother⟩ := hheld
  by_cases hself : other = holder
  · exact hkeep (hself ▸ hother)
  · exact .inr ⟨other, hself, hother⟩

end Foundation
