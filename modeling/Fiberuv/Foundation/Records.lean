import Mathlib.Data.List.Nodup

/-! # Logs of results

A log records, in the order in which they came, the results of a family of calls: one
entry for each call that has a result, and none for the others.
-/

namespace Foundation

universe u v

variable {Key : Type u} {Entry : Type v}

/-- The log has exactly one entry for each key that has a value. -/
def Records (value : Key → Option Entry) (log : List (Key × Entry)) : Prop :=
  (log.map Prod.fst).Nodup ∧ ∀ key entry, (key, entry) ∈ log ↔ value key = some entry

theorem records_nil : Records (fun _ : Key => (none : Option Entry)) [] := by
  simp [Records]

variable {value after : Key → Option Entry} {log : List (Key × Entry)}

theorem Records.congr (hrecords : Records value log) (hsame : ∀ key, after key = value key) :
    Records after log :=
  ⟨hrecords.1, fun key entry => by rw [hrecords.2, hsame]⟩

/-- A key that gets its value adds the entry at the end. -/
theorem Records.snoc (hrecords : Records value log) {key : Key} {entry : Entry}
    (hbefore : value key = none) (hafter : after key = some entry)
    (hother : ∀ other, other ≠ key → after other = value other) :
    Records after (log ++ [(key, entry)]) := by
  have hnew : ∀ old, (key, old) ∉ log := by
    intro old hold
    have := (hrecords.2 key old).mp hold
    simp [hbefore] at this
  refine ⟨?_, fun other old => ?_⟩
  · rw [List.map_append, List.nodup_append]
    refine ⟨hrecords.1, by simp, ?_⟩
    rintro other hother _ hkey rfl
    simp only [List.map_cons, List.map_nil, List.mem_singleton] at hkey
    obtain ⟨⟨_, old⟩, hold, rfl⟩ := List.mem_map.mp hother
    exact hnew old (hkey ▸ hold)
  · by_cases hself : other = key
    · subst hself
      simp [hnew, hafter, eq_comm]
    · simp [hself, hrecords.2, hother other hself]

end Foundation
