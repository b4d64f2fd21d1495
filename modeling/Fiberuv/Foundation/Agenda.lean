import Mathlib.Data.List.MinMax
import Mathlib.Data.Prod.Lex

/-! # Agendas

Items with due times against a clock that never goes back. An item is added with a delay
and gets the next ticket. Nothing keeps an entry from firing out of turn; but where only the
next one fires, the first by due time and then by ticket, and only once the clock has reached
its due time, the items fire in the order of their due times, none before its own, and one
can always fire as long as any is due.
-/

namespace Foundation

universe u

variable {Item : Type u}

structure Entry (Item : Type u) where
  due : Nat
  ticket : Nat
  item : Item
  deriving DecidableEq

namespace Entry

def key (entry : Entry Item) : ℕ ×ₗ ℕ := toLex (entry.due, entry.ticket)

/-- The entry comes before the other one, or they are level. -/
def atMost (first second : Entry Item) : Prop := first.key ≤ second.key

instance : DecidableRel (@atMost Item) :=
  fun first second => inferInstanceAs (Decidable (first.key ≤ second.key))

theorem atMost_iff {first second : Entry Item} : first.atMost second ↔
    first.due < second.due ∨ first.due = second.due ∧ first.ticket ≤ second.ticket :=
  Prod.Lex.le_iff

end Entry

structure Agenda (Item : Type u) where
  clock : Nat := 0
  tickets : Nat := 0
  /-- The entries to come, in the order they were added. -/
  pending : List (Entry Item) := []
  /-- The entries that have fired, in that order. -/
  fired : List (Entry Item) := []

namespace Agenda

/-- The entry of an item that is added now. -/
def entry (agenda : Agenda Item) (delay : Nat) (item : Item) : Entry Item where
  due := agenda.clock + delay
  ticket := agenda.tickets
  item := item

def add (agenda : Agenda Item) (delay : Nat) (item : Item) : Agenda Item :=
  { agenda with
    tickets := agenda.tickets + 1
    pending := agenda.pending ++ [agenda.entry delay item] }

/-- The clock is set to a time that is not before its own. -/
def advance (agenda : Agenda Item) (time : Nat) : Agenda Item :=
  { agenda with clock := max agenda.clock time }

def fire [DecidableEq Item] (agenda : Agenda Item) (entry : Entry Item) : Agenda Item :=
  { agenda with
    pending := agenda.pending.erase entry
    fired := agenda.fired ++ [entry] }

def clear (agenda : Agenda Item) : Agenda Item :=
  { agenda with pending := [] }

/-- The entry is due, and none to come is before it. -/
structure Next (agenda : Agenda Item) (entry : Entry Item) : Prop where
  pending : entry ∈ agenda.pending
  due : entry.due ≤ agenda.clock
  first : ∀ other ∈ agenda.pending, entry.atMost other

theorem next_iff {agenda : Agenda Item} {entry : Entry Item} : agenda.Next entry ↔
    entry ∈ agenda.pending ∧ entry.due ≤ agenda.clock ∧
      ∀ other ∈ agenda.pending, entry.atMost other :=
  ⟨fun hnext => ⟨hnext.pending, hnext.due, hnext.first⟩, fun hall => ⟨hall.1, hall.2.1, hall.2.2⟩⟩

instance [DecidableEq Item] (agenda : Agenda Item) (entry : Entry Item) :
    Decidable (agenda.Next entry) :=
  decidable_of_iff _ next_iff.symm

/-- The entries that fired were due and fired in order, before those to come. -/
structure Kept (agenda : Agenda Item) : Prop where
  ordered : agenda.fired.Pairwise Entry.atMost
  before : ∀ old ∈ agenda.fired, ∀ entry ∈ agenda.pending, old.atMost entry
  reached : ∀ entry ∈ agenda.fired, entry.due ≤ agenda.clock
  numbered : ∀ entry ∈ agenda.fired, entry.ticket < agenda.tickets
  coming : ∀ entry ∈ agenda.pending, entry.ticket < agenda.tickets

variable {agenda : Agenda Item}

theorem kept_empty : ({} : Agenda Item).Kept := by
  constructor <;> simp

theorem Kept.add (hkept : agenda.Kept) (delay : Nat) (item : Item) :
    (agenda.add delay item).Kept := by
  constructor
  · exact hkept.ordered
  · intro old hold entry hentry
    rcases List.mem_append.mp hentry with hpending | hnew
    · exact hkept.before old hold entry hpending
    · have hdue := hkept.reached old hold
      have hticket := hkept.numbered old hold
      rw [List.mem_singleton.mp hnew, Entry.atMost_iff]
      simp only [Agenda.entry]
      omega
  · exact hkept.reached
  · exact fun entry hentry => Nat.lt_succ_of_lt (hkept.numbered entry hentry)
  · intro entry hentry
    rcases List.mem_append.mp hentry with hpending | hnew
    · exact Nat.lt_succ_of_lt (hkept.coming entry hpending)
    · rw [List.mem_singleton.mp hnew]
      exact Nat.lt_succ_self _

theorem Kept.advance (hkept : agenda.Kept) (time : Nat) : (agenda.advance time).Kept :=
  ⟨hkept.ordered, hkept.before,
    fun entry hentry => le_trans (hkept.reached entry hentry) (le_max_left _ _),
    hkept.numbered, hkept.coming⟩

theorem Kept.fire [DecidableEq Item] (hkept : agenda.Kept) {entry : Entry Item}
    (hnext : agenda.Next entry) : (agenda.fire entry).Kept := by
  constructor
  · refine List.pairwise_append.mpr ⟨hkept.ordered, List.pairwise_singleton _ _, ?_⟩
    intro old hold new hnew
    rw [List.mem_singleton.mp hnew]
    exact hkept.before old hold entry hnext.pending
  · intro old hold other hother
    have hpending := List.mem_of_mem_erase hother
    rcases List.mem_append.mp hold with hfired | hnew
    · exact hkept.before old hfired other hpending
    · rw [List.mem_singleton.mp hnew]
      exact hnext.first other hpending
  · intro other hother
    rcases List.mem_append.mp hother with hfired | hnew
    · exact hkept.reached other hfired
    · rw [List.mem_singleton.mp hnew]
      exact hnext.due
  · intro other hother
    rcases List.mem_append.mp hother with hfired | hnew
    · exact hkept.numbered other hfired
    · rw [List.mem_singleton.mp hnew]
      exact hkept.coming entry hnext.pending
  · exact fun other hother => hkept.coming other (List.mem_of_mem_erase hother)

theorem Kept.clear (hkept : agenda.Kept) : agenda.clear.Kept := by
  refine ⟨hkept.ordered, ?_, hkept.reached, hkept.numbered, ?_⟩ <;> simp [Agenda.clear]

/-- As long as an entry to come is due, there is one that can fire. -/
theorem exists_next {entry : Entry Item} (hentry : entry ∈ agenda.pending)
    (hdue : entry.due ≤ agenda.clock) : ∃ first, agenda.Next first := by
  cases hmin : agenda.pending.argmin Entry.key with
  | none => simp [List.argmin_eq_none.mp hmin] at hentry
  | some first =>
      have hfirst : ∀ other ∈ agenda.pending, first.atMost other :=
        fun other hother => List.le_of_mem_argmin hother hmin
      refine ⟨first, List.argmin_mem hmin, ?_, hfirst⟩
      have hbefore := Entry.atMost_iff.mp (hfirst entry hentry)
      omega

end Agenda

end Foundation
