import Mathlib.Data.List.Basic

/-! # Logs of requests on descriptors

What a program submits on its descriptors, in order. A descriptor is told apart from a later
one that gets the same number.
-/

namespace Foundation

universe u

inductive Submission (Descriptor : Type u) where
  | close (descriptor : Descriptor)
  /-- A read or a write. -/
  | transfer (descriptor : Descriptor)
  deriving DecidableEq

variable {Descriptor : Type u}

/-- No transfer follows the close of its descriptor. -/
def QuietAfterClose (log : List (Submission Descriptor)) : Prop :=
  ∀ descriptor before after, log = before ++ .close descriptor :: after →
    .transfer descriptor ∉ after

theorem quietAfterClose_nil : QuietAfterClose ([] : List (Submission Descriptor)) := by
  intro descriptor before after hlog
  simp at hlog

/-- Splitting a log that has grown by one submission. -/
theorem snoc_eq_split {log before after : List (Submission Descriptor)}
    {last first : Submission Descriptor} (hlog : log ++ [last] = before ++ first :: after) :
    (after = [] ∧ last = first) ∨
      ∃ rest, after = rest ++ [last] ∧ log = before ++ first :: rest := by
  rcases List.eq_nil_or_concat after with rfl | ⟨rest, final, rfl⟩
  · obtain ⟨-, hlast⟩ := List.append_inj' hlog rfl
    exact .inl ⟨rfl, List.singleton_inj.mp hlast⟩
  · rw [List.concat_eq_append] at hlog ⊢
    rw [← List.cons_append, ← List.append_assoc] at hlog
    obtain ⟨hfront, hlast⟩ := List.append_inj' hlog rfl
    exact .inr ⟨rest, by rw [List.singleton_inj.mp hlast], hfront⟩

theorem QuietAfterClose.close {log : List (Submission Descriptor)} (hquiet : QuietAfterClose log)
    (descriptor : Descriptor) : QuietAfterClose (log ++ [.close descriptor]) := by
  intro other before after hlog
  rcases snoc_eq_split hlog with ⟨rfl, -⟩ | ⟨rest, rfl, hrest⟩
  · exact List.not_mem_nil
  · simpa using hquiet other before rest hrest

theorem QuietAfterClose.transfer {log : List (Submission Descriptor)}
    (hquiet : QuietAfterClose log) {descriptor : Descriptor} (hopen : .close descriptor ∉ log) :
    QuietAfterClose (log ++ [.transfer descriptor]) := by
  intro other before after hlog
  rcases snoc_eq_split hlog with ⟨rfl, -⟩ | ⟨rest, rfl, hrest⟩
  · exact List.not_mem_nil
  · have hne : other ≠ descriptor := by
      rintro rfl
      exact hopen (by simp [hrest])
    simpa [hne] using hquiet other before rest hrest

end Foundation
