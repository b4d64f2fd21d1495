import Mathlib.Data.List.Nodup

/-! # Rendezvous of items and waiters

Items arrive and waiters register. Whichever side comes first is kept in a queue until
the other side comes, so at most one of the two queues is in use. A waiter can withdraw,
and closing releases all of them; the items that are left can then still be taken, or be
discarded.

Beside the two queues the structure records what happened: the items and the waiters in
the order in which they came, who was handed which item, and what was discarded. The
invariant `Orderly` says that both sides are served in that order and nobody twice.
-/

namespace Foundation

universe u v

structure Rendezvous (Item : Type u) (Waiter : Type v) where
  items : List Item := []
  waiters : List Waiter := []
  closed : Bool := false
  arrived : List Item := []
  registered : List Waiter := []
  handed : List (Waiter × Item) := []
  dropped : List Item := []

namespace Rendezvous

variable {Item : Type u} {Waiter : Type v} [DecidableEq Waiter]

/-- What can happen at a rendezvous. A receiver either takes an item that is there or
registers, and it does one of these once. -/
inductive Step (state : Rendezvous Item Waiter) : Rendezvous Item Waiter → Prop where
  | stay : Step state state
  /-- An arriving item goes to the first waiter. -/
  | hand {item : Item} {waiter : Waiter} {rest : List Waiter} (hopen : state.closed = false)
      (hwaiters : state.waiters = waiter :: rest) (hnew : item ∉ state.arrived) :
      Step state { state with
        waiters := rest
        arrived := state.arrived ++ [item]
        handed := state.handed ++ [(waiter, item)] }
  /-- An arriving item that nobody waits for is kept. -/
  | store {item : Item} (hopen : state.closed = false) (hwaiters : state.waiters = [])
      (hnew : item ∉ state.arrived) :
      Step state { state with
        items := state.items ++ [item]
        arrived := state.arrived ++ [item] }
  | take {item : Item} {rest : List Item} {taker : Waiter} (hitems : state.items = item :: rest)
      (hunregistered : taker ∉ state.registered) (hfirst : taker ∉ state.handed.map Prod.fst) :
      Step state { state with
        items := rest
        handed := state.handed ++ [(taker, item)] }
  | register {waiter : Waiter} (hopen : state.closed = false) (hitems : state.items = [])
      (hunregistered : waiter ∉ state.registered) (hfirst : waiter ∉ state.handed.map Prod.fst) :
      Step state { state with
        waiters := state.waiters ++ [waiter]
        registered := state.registered ++ [waiter] }
  | withdraw (waiter : Waiter) : Step state { state with waiters := state.waiters.erase waiter }
  | close : Step state { state with closed := true, waiters := [] }
  | discard (hclosed : state.closed = true) :
      Step state { state with items := [], dropped := state.dropped ++ state.items }

/-- The registered waiters that were handed an item, in the order in which they were. -/
def served (state : Rendezvous Item Waiter) : List Waiter :=
  (state.handed.map Prod.fst).filter (· ∈ state.registered)

/-- Items are handed out in the order of arrival, waiters are served in the order of
registration, and nobody is served twice. -/
structure Orderly (state : Rendezvous Item Waiter) : Prop where
  order : state.arrived = state.handed.map Prod.snd ++ state.dropped ++ state.items
  distinct : state.arrived.Nodup
  turns : (state.served ++ state.waiters).Sublist state.registered
  registrations : state.registered.Nodup
  once : (state.handed.map Prod.fst).Nodup
  apart : state.waiters ≠ [] → state.items = [] ∧ state.closed = false
  discarded : state.dropped ≠ [] → state.items = [] ∧ state.closed = true

theorem orderly_initial : Orderly ({} : Rendezvous Item Waiter) := by
  constructor <;> simp [served]

variable {state next : Rendezvous Item Waiter}

namespace Orderly

theorem registered_of_waiting (horderly : Orderly state) {waiter : Waiter}
    (hwaiting : waiter ∈ state.waiters) : waiter ∈ state.registered :=
  horderly.turns.subset (List.mem_append_right _ hwaiting)

/-- A waiter that is still in the queue has been handed nothing. -/
theorem not_handed_of_waiting (horderly : Orderly state) {waiter : Waiter}
    (hwaiting : waiter ∈ state.waiters) : waiter ∉ state.handed.map Prod.fst := by
  intro hhanded
  have hserved : waiter ∈ state.served :=
    List.mem_filter.mpr ⟨hhanded, by simpa using horderly.registered_of_waiting hwaiting⟩
  have hnodup := horderly.turns.nodup horderly.registrations
  exact (List.nodup_append'.mp hnodup).2.2 hserved hwaiting

/-- While it is open, nothing has been discarded. -/
theorem dropped_of_open (horderly : Orderly state) (hopen : state.closed = false) :
    state.dropped = [] := by
  by_contra hne
  have hclosed := (horderly.discarded hne).2
  simp [hopen] at hclosed

/-- An arriving item goes to the first waiter, whose turn it is. -/
theorem hand (horderly : Orderly state) {item : Item} {waiter : Waiter} {rest : List Waiter}
    (hopen : state.closed = false) (hwaiters : state.waiters = waiter :: rest)
    (hnew : item ∉ state.arrived) :
    Orderly { state with
      waiters := rest
      arrived := state.arrived ++ [item]
      handed := state.handed ++ [(waiter, item)] } := by
  have hwaiting : waiter ∈ state.waiters := by simp [hwaiters]
  have hitems := (horderly.apart (by simp [hwaiters])).1
  have hdropped := horderly.dropped_of_open hopen
  have hmem := horderly.registered_of_waiting hwaiting
  have hturns := horderly.turns
  rw [hwaiters] at hturns
  refine { horderly with
    order := by simp [horderly.order, hitems, hdropped]
    distinct := ?_
    turns := by simpa [served, List.filter_append, hmem] using hturns
    once := ?_
    apart := fun _ => ⟨hitems, hopen⟩ }
  · exact List.nodup_append'.mpr ⟨horderly.distinct, by simp, by simpa using hnew⟩
  · rw [List.map_append]
    exact List.nodup_append'.mpr ⟨horderly.once, by simp,
      by simpa using horderly.not_handed_of_waiting hwaiting⟩

theorem store (horderly : Orderly state) {item : Item} (hopen : state.closed = false)
    (hwaiters : state.waiters = []) (hnew : item ∉ state.arrived) :
    Orderly { state with
      items := state.items ++ [item]
      arrived := state.arrived ++ [item] } := by
  have hdropped := horderly.dropped_of_open hopen
  refine { horderly with
    order := by simp [horderly.order]
    distinct := ?_
    apart := fun hne => absurd hwaiters hne
    discarded := fun hne => absurd hdropped hne }
  exact List.nodup_append'.mpr ⟨horderly.distinct, by simp, by simpa using hnew⟩

theorem take (horderly : Orderly state) {item : Item} {rest : List Item} {taker : Waiter}
    (hitems : state.items = item :: rest) (hunregistered : taker ∉ state.registered)
    (hfirst : taker ∉ state.handed.map Prod.fst) :
    Orderly { state with
      items := rest
      handed := state.handed ++ [(taker, item)] } := by
  -- What is left to take has not been discarded, and nobody waits for it.
  have hdropped : state.dropped = [] := by
    by_contra hne
    exact absurd (horderly.discarded hne).1 (by simp [hitems])
  have hwaiters : state.waiters = [] := by
    by_contra hne
    exact absurd (horderly.apart hne).1 (by simp [hitems])
  refine { horderly with
    order := by simp [horderly.order, hitems, hdropped]
    turns := ?_
    once := ?_
    apart := fun hne => absurd hwaiters hne
    discarded := fun hne => absurd hdropped hne }
  · simpa [served, List.filter_append, hunregistered] using horderly.turns
  · rw [List.map_append]
    exact List.nodup_append'.mpr ⟨horderly.once, by simp, by simpa using hfirst⟩

theorem register (horderly : Orderly state) {waiter : Waiter} (hopen : state.closed = false)
    (hitems : state.items = []) (hunregistered : waiter ∉ state.registered)
    (hfirst : waiter ∉ state.handed.map Prod.fst) :
    Orderly { state with
      waiters := state.waiters ++ [waiter]
      registered := state.registered ++ [waiter] } := by
  -- Nobody who was handed something so far is the one that registers.
  have hserved : ({ state with
      waiters := state.waiters ++ [waiter]
      registered := state.registered ++ [waiter] } : Rendezvous Item Waiter).served =
        state.served := by
    refine List.filter_congr fun other hother => ?_
    have hne : other ≠ waiter := fun heq => hfirst (heq ▸ hother)
    simp [hne]
  refine { horderly with
    turns := ?_
    registrations := ?_
    apart := fun _ => ⟨hitems, hopen⟩ }
  · rw [hserved, ← List.append_assoc]
    exact horderly.turns.append_right [waiter]
  · exact List.nodup_append'.mpr ⟨horderly.registrations, by simp, by simpa using hunregistered⟩

theorem withdraw (horderly : Orderly state) (waiter : Waiter) :
    Orderly { state with waiters := state.waiters.erase waiter } := by
  refine { horderly with turns := ?_, apart := fun hne => horderly.apart ?_ }
  · exact (List.Sublist.append_left List.erase_sublist _).trans horderly.turns
  · rintro hempty
    simp [hempty] at hne

theorem close (horderly : Orderly state) :
    Orderly { state with closed := true, waiters := [] } := by
  refine { horderly with
    turns := ?_
    apart := by simp
    discarded := fun hne => ⟨(horderly.discarded hne).1, rfl⟩ }
  exact (List.Sublist.append_left (List.nil_sublist _) _).trans horderly.turns

theorem discard (horderly : Orderly state) (hclosed : state.closed = true) :
    Orderly { state with items := [], dropped := state.dropped ++ state.items } := by
  refine { horderly with
    order := by simp [horderly.order]
    apart := fun hne => ⟨rfl, (horderly.apart hne).2⟩
    discarded := fun _ => ⟨rfl, hclosed⟩ }

/-- Every step keeps the order. -/
theorem step (horderly : Orderly state) (hstep : Step state next) : Orderly next := by
  cases hstep with
  | stay => exact horderly
  | hand hopen hwaiters hnew => exact horderly.hand hopen hwaiters hnew
  | store hopen hwaiters hnew => exact horderly.store hopen hwaiters hnew
  | take hitems hunregistered hfirst => exact horderly.take hitems hunregistered hfirst
  | register hopen hitems hunregistered hfirst =>
      exact horderly.register hopen hitems hunregistered hfirst
  | withdraw waiter => exact horderly.withdraw waiter
  | close => exact horderly.close
  | discard hclosed => exact horderly.discard hclosed

end Orderly

end Rendezvous

end Foundation
