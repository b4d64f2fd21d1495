import Mathlib.Data.List.Basic

/-! # Regions of an array

An array that is written region by region. A write puts its elements where they belong and
leaves every other element alone; the array may grow, and what lies between its old end and
the region is left open. What a region holds outlives the writes to regions apart from it.
-/

namespace Foundation

universe u

variable {Elem : Type u} {array before after : List Elem} {place other : Nat}
  {elems more : List Elem}

/-- The array has these elements from this place on. -/
def Has (array : List Elem) (place : Nat) (elems : List Elem) : Prop :=
  ∀ index < elems.length, array[place + index]? = elems[index]?

/-- The array after these elements were written to this place. -/
structure Patched (before after : List Elem) (place : Nat) (elems : List Elem) : Prop where
  inside : Has after place elems
  outside : ∀ index < before.length, index < place ∨ place + elems.length ≤ index →
    after[index]? = before[index]?

/-- Two regions have no place in common. -/
def Apart (place length other count : Nat) : Prop :=
  place + length ≤ other ∨ other + count ≤ place

theorem Apart.symm {length count : Nat} (hapart : Apart place length other count) :
    Apart other count place length :=
  Or.symm hapart

theorem Apart.within {length count inner size : Nat} (hapart : Apart place length other count)
    (hinner : other ≤ inner) (hsize : inner + size ≤ other + count) :
    Apart place length inner size := by
  rcases hapart with hbefore | hbehind
  · exact .inl (by omega)
  · exact .inr (by omega)

theorem has_nil (array : List Elem) (place : Nat) : Has array place [] :=
  fun _ hindex => absurd hindex (Nat.not_lt_zero _)

theorem patched_nil (array : List Elem) (place : Nat) : Patched array array place [] :=
  ⟨has_nil array place, fun _ _ _ => rfl⟩

theorem Has.append (hhas : Has array place elems) (hmore : Has array (place + elems.length) more) :
    Has array place (elems ++ more) := by
  intro index hindex
  by_cases hfirst : index < elems.length
  · rw [List.getElem?_append_left hfirst]
    exact hhas index hfirst
  · rw [List.length_append] at hindex
    have hrest := hmore (index - elems.length) (by omega)
    rw [List.getElem?_append_right (by omega), ← hrest]
    congr 1
    omega

/-- An array that has elements reaches as far as they do. -/
theorem Has.length_le (hhas : Has array place elems) (hne : elems ≠ []) :
    place + elems.length ≤ array.length := by
  have hpositive := List.length_pos_iff.mpr hne
  have hlast := hhas (elems.length - 1) (by omega)
  rw [List.getElem?_eq_getElem (by omega : elems.length - 1 < elems.length)] at hlast
  obtain ⟨hbound, -⟩ := List.getElem?_eq_some_iff.mp hlast
  omega

/-- What a region holds outlives a write to another region. -/
theorem Has.patched (hhas : Has before place elems) (hpatched : Patched before after other more)
    (hapart : Apart place elems.length other more.length) : Has after place elems := by
  intro index hindex
  have hlength := hhas.length_le (List.ne_nil_of_length_pos (by omega))
  rw [hpatched.outside (place + index) (by omega)]
  · exact hhas index hindex
  · rcases hapart with hbefore | hbehind
    · exact .inl (by omega)
    · exact .inr (by omega)

end Foundation
