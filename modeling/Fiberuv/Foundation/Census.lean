import Mathlib.Algebra.Order.BigOperators.Group.Finset
import Mathlib.Data.Set.Card

/-! # Counting the members at a position

Where each member of a population stands is a function from members to positions,
and a step moves one member. The census counts the members whose position satisfies
a predicate; only finitely many may, although the population need not be finite. The
tally of a finite population adds up a weight of the positions.
-/

namespace Foundation

universe u v

variable {Member : Type u} {Position : Type v}

/-- The members whose position satisfies the predicate. -/
def standing (places : Member → Position) (counted : Position → Prop) : Set Member :=
  {member | counted (places member)}

/-- How many members stand at such a position. -/
noncomputable def census (places : Member → Position) (counted : Position → Prop) : Nat :=
  (standing places counted).ncard

variable {places : Member → Position} {counted : Position → Prop} {member : Member}
  {position : Position}

@[simp] theorem mem_standing : member ∈ standing places counted ↔ counted (places member) := Iff.rfl

theorem census_eq_zero (hfinite : (standing places counted).Finite) :
    census places counted = 0 ↔ ∀ member, ¬ counted (places member) := by
  rw [census, Set.ncard_eq_zero hfinite, Set.eq_empty_iff_forall_notMem]
  rfl

theorem standing_of_nobody (hnobody : ∀ member, ¬ counted (places member)) :
    standing places counted = ∅ :=
  Set.eq_empty_iff_forall_notMem.mpr hnobody

theorem census_of_nobody (hnobody : ∀ member, ¬ counted (places member)) :
    census places counted = 0 := by
  rw [census, standing_of_nobody hnobody, Set.ncard_empty]

/-- Two predicates that agree on the positions taken. -/
theorem census_congr {other : Position → Prop}
    (hagree : ∀ member, counted (places member) ↔ other (places member)) :
    census places counted = census places other := by
  have hsame : standing places counted = standing places other := Set.ext hagree
  rw [census, hsame, census]

/-- Somebody who counts only for the wider predicate makes the difference. -/
theorem census_lt {wider : Position → Prop} (hfinite : (standing places wider).Finite)
    (hwider : ∀ position, counted position → wider position) (hmember : wider (places member))
    (hnot : ¬ counted (places member)) : census places counted < census places wider := by
  refine Set.ncard_lt_ncard ?_ hfinite
  exact ⟨fun other hother => hwider _ hother, fun hsub => hnot (hsub hmember)⟩

/-- A counter that agrees with the census of a decidable predicate. -/
structure CountedBy (count : Nat) (places : Member → Position) (holds : Position → Bool) :
    Prop where
  finite : (standing places fun position => holds position = true).Finite
  eq : count = census places fun position => holds position = true

theorem countedBy_zero {holds : Position → Bool}
    (hnobody : ∀ member, holds (places member) = false) : CountedBy 0 places holds := by
  have hnot : ∀ member, ¬ holds (places member) = true := fun member => by simp [hnobody member]
  refine ⟨?_, (census_of_nobody hnot).symm⟩
  rw [standing_of_nobody hnot]
  exact Set.finite_empty

/-- Positions that agree on the predicate are counted alike. -/
theorem CountedBy.congr {count : Nat} {moved : Member → Position} {holds : Position → Bool}
    (hcounted : CountedBy count places holds)
    (hsame : ∀ member, holds (moved member) = holds (places member)) :
    CountedBy count moved holds := by
  have hstanding : (standing moved fun position => holds position = true) =
      standing places fun position => holds position = true :=
    Set.ext fun member => by simp [hsame member]
  exact ⟨hstanding ▸ hcounted.finite, by rw [census, hstanding, ← census, hcounted.eq]⟩

/-- Somebody is counted, so the counter is not zero. -/
theorem CountedBy.pos {count : Nat} {holds : Position → Bool}
    (hcounted : CountedBy count places holds) {member : Member}
    (hmember : holds (places member) = true) : 0 < count := by
  refine Nat.pos_of_ne_zero fun hzero => ?_
  have hcensus : census places (fun position => holds position = true) = 0 :=
    hcounted.eq.symm.trans hzero
  exact (census_eq_zero hcounted.finite).mp hcensus member hmember

/-- The weights of all members, added up. -/
def tally [Fintype Member] (places : Member → Position) (weight : Position → Nat) : Nat :=
  ∑ member, weight (places member)

theorem tally_const [Fintype Member] (weight : Position → Nat) :
    tally (fun _ : Member => position) weight = weight position * Fintype.card Member := by
  rw [tally, Finset.sum_const_nat (fun _ _ => rfl), Finset.card_univ, Nat.mul_comm]

/-- When no member gains more than `extra`, neither does the average. -/
theorem tally_le [Fintype Member] {moved : Member → Position} {weight : Position → Nat}
    {extra : Nat} (heach : ∀ member, weight (moved member) ≤ weight (places member) + extra) :
    tally moved weight ≤ tally places weight + extra * Fintype.card Member :=
  calc tally moved weight
      ≤ ∑ member, (weight (places member) + extra) :=
        Finset.sum_le_sum fun member _ => heach member
    _ = tally places weight + extra * Fintype.card Member := by
        rw [Finset.sum_add_distrib, Finset.sum_const_nat (fun _ _ => rfl), Finset.card_univ, tally,
          Nat.mul_comm]

variable [DecidableEq Member]

theorem standing_update_enter (hposition : counted position) :
    standing (Function.update places member position) counted =
      insert member (standing places counted) := by
  ext other
  by_cases heq : other = member
  · simp [heq, hposition]
  · simp [heq]

theorem standing_update_leave (hposition : ¬ counted position) :
    standing (Function.update places member position) counted =
      standing places counted \ {member} := by
  ext other
  by_cases heq : other = member
  · simp [heq, hposition]
  · simp [heq]

/-- A move between two positions that agree on the predicate. -/
theorem standing_update_keep (hposition : counted position ↔ counted (places member)) :
    standing (Function.update places member position) counted = standing places counted := by
  ext other
  by_cases heq : other = member
  · simp [heq, hposition]
  · simp [heq]

theorem standing_update_finite (hfinite : (standing places counted).Finite) :
    (standing (Function.update places member position) counted).Finite := by
  by_cases hposition : counted position
  · rw [standing_update_enter hposition]
    exact hfinite.insert member
  · rw [standing_update_leave hposition]
    exact hfinite.sdiff

theorem census_update_keep (hposition : counted position ↔ counted (places member)) :
    census (Function.update places member position) counted = census places counted := by
  rw [census, standing_update_keep hposition, census]

theorem census_update_enter (hfinite : (standing places counted).Finite)
    (hbefore : ¬ counted (places member)) (hposition : counted position) :
    census (Function.update places member position) counted = census places counted + 1 := by
  have hnot : member ∉ standing places counted := hbefore
  rw [census, standing_update_enter hposition, Set.ncard_insert_of_notMem hnot hfinite, census]

theorem census_update_leave (hfinite : (standing places counted).Finite)
    (hbefore : counted (places member)) (hposition : ¬ counted position) :
    census (Function.update places member position) counted + 1 = census places counted := by
  rw [census, standing_update_leave hposition]
  exact Set.ncard_sdiff_singleton_add_one hbefore hfinite

/-- Whoever moves, the census falls by at most one. -/
theorem census_le_update_add_one (hfinite : (standing places counted).Finite) :
    census places counted ≤ census (Function.update places member position) counted + 1 := by
  by_cases hbefore : counted (places member)
  · by_cases hposition : counted position
    · rw [census_update_keep (iff_of_true hposition hbefore)]
      omega
    · rw [census_update_leave hfinite hbefore hposition]
  · by_cases hposition : counted position
    · rw [census_update_enter hfinite hbefore hposition]
      omega
    · rw [census_update_keep (iff_of_false hposition hbefore)]
      omega

/-- A counter stays right when a move adds what the new position counts and takes off what
the old one did. -/
theorem CountedBy.update {count : Nat} {holds : Position → Bool}
    (hcounted : CountedBy count places holds) (member : Member) (position : Position) :
    CountedBy (count + (holds position).toNat - (holds (places member)).toNat)
      (Function.update places member position) holds := by
  refine ⟨standing_update_finite hcounted.finite, ?_⟩
  have hcount := hcounted.eq
  cases hbefore : holds (places member) <;> cases hafter : holds position
  · rw [census_update_keep (by simp [hbefore, hafter])]
    simpa using hcount
  · rw [census_update_enter hcounted.finite (by simp [hbefore]) hafter]
    simpa using hcount
  · have hleave := census_update_leave hcounted.finite hbefore
      (by simp [hafter] : ¬ holds position = true)
    simp only [Bool.toNat_false, Bool.toNat_true]
    omega
  · rw [census_update_keep (by simp [hbefore, hafter])]
    simpa using hcount

theorem tally_update [Fintype Member] (weight : Position → Nat) :
    tally (Function.update places member position) weight + weight (places member) =
      tally places weight + weight position := by
  have hsplit : ∀ f : Member → Position, tally f weight =
      weight (f member) + ∑ other ∈ Finset.univ.erase member, weight (f other) :=
    fun f => (Finset.add_sum_erase Finset.univ (fun other => weight (f other))
      (Finset.mem_univ member)).symm
  have hothers : ∑ other ∈ Finset.univ.erase member,
        weight (Function.update places member position other) =
      ∑ other ∈ Finset.univ.erase member, weight (places other) := by
    refine Finset.sum_congr rfl fun other hother => ?_
    rw [Function.update_of_ne (Finset.ne_of_mem_erase hother)]
  rw [hsplit, hsplit places, hothers, Function.update_self]
  omega

end Foundation
