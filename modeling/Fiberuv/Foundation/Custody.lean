import Mathlib.Logic.ExistsUnique

/-! # Custody

Items that pass from place to place. An item becomes known once, and from then on it is at
exactly one place; before, it is at none. A step moves some items, each to one place, and
leaves every other item where it is.
-/

namespace Foundation

universe u v

variable {Item : Type u} {Place : Type v}

/-- Every known item is at exactly one place, and nothing else is anywhere. -/
structure Custody (known : Item → Prop) (isAt : Item → Place → Prop) : Prop where
  somewhere : ∀ item, known item → ∃ place, isAt item place
  alone : ∀ item first second, isAt item first → isAt item second → first = second
  known : ∀ item place, isAt item place → known item

namespace Custody

variable {known knownAfter : Item → Prop} {isAt isAtAfter : Item → Place → Prop}

theorem existsUnique (hcustody : Custody known isAt) {item : Item} (hknown : known item) :
    ∃! place, isAt item place := by
  obtain ⟨place, hplace⟩ := hcustody.somewhere item hknown
  exact ⟨place, hplace, fun other hother => hcustody.alone item other place hother hplace⟩

/-- Nothing moves. -/
theorem stay (hcustody : Custody known isAt)
    (hstays : ∀ item place, isAtAfter item place ↔ isAt item place) : Custody known isAtAfter := by
  refine ⟨fun item hitem => ?_, fun item first second hfirst hsecond => ?_,
    fun item place hplace => ?_⟩
  · obtain ⟨place, hplace⟩ := hcustody.somewhere item hitem
    exact ⟨place, (hstays item place).mpr hplace⟩
  · exact hcustody.alone item first second ((hstays item first).mp hfirst)
      ((hstays item second).mp hsecond)
  · exact hcustody.known item place ((hstays item place).mp hplace)

/-- A new item is put to a place. -/
theorem enter (hcustody : Custody known isAt) (entering : Item) (target : Place)
    (hnew : ¬ known entering)
    (hafter : ∀ item place, isAtAfter item place ↔
      isAt item place ∨ item = entering ∧ place = target)
    (hknown : ∀ item, knownAfter item ↔ known item ∨ item = entering) :
    Custody knownAfter isAtAfter := by
  have hnowhere : ∀ place, ¬ isAt entering place :=
    fun place hplace => hnew (hcustody.known entering place hplace)
  constructor
  · intro item hitem
    obtain hold | rfl := (hknown item).mp hitem
    · obtain ⟨place, hplace⟩ := hcustody.somewhere item hold
      exact ⟨place, (hafter item place).mpr (.inl hplace)⟩
    · exact ⟨target, (hafter item target).mpr (.inr ⟨rfl, rfl⟩)⟩
  · intro item first second hfirst hsecond
    obtain hfirst | ⟨rfl, rfl⟩ := (hafter item first).mp hfirst <;>
      obtain hsecond | ⟨hself, rfl⟩ := (hafter _ second).mp hsecond
    · exact hcustody.alone item first second hfirst hsecond
    · exact absurd (hself ▸ hfirst) (hnowhere first)
    · exact absurd hsecond (hnowhere second)
    · rfl
  · intro item place hplace
    obtain hold | ⟨rfl, -⟩ := (hafter item place).mp hplace
    · exact (hknown item).mpr (.inl (hcustody.known item place hold))
    · exact (hknown item).mpr (.inr rfl)

/-- An item leaves for good. -/
theorem leave (hcustody : Custody known isAt) (leaving : Item)
    (hafter : ∀ item place, isAtAfter item place ↔ isAt item place ∧ item ≠ leaving)
    (hknown : ∀ item, knownAfter item ↔ known item ∧ item ≠ leaving) :
    Custody knownAfter isAtAfter := by
  constructor
  · intro item hitem
    obtain ⟨hold, hne⟩ := (hknown item).mp hitem
    obtain ⟨place, hplace⟩ := hcustody.somewhere item hold
    exact ⟨place, (hafter item place).mpr ⟨hplace, hne⟩⟩
  · intro item first second hfirst hsecond
    exact hcustody.alone item first second ((hafter item first).mp hfirst).1
      ((hafter item second).mp hsecond).1
  · intro item place hplace
    obtain ⟨hbefore, hne⟩ := (hafter item place).mp hplace
    exact (hknown item).mpr ⟨hcustody.known item place hbefore, hne⟩

/-- Some of the items at one place are moved to another, and nothing else changes. -/
theorem transfer (hcustody : Custody known isAt) (moved : Item → Prop) (source target : Place)
    (hmoved : ∀ item, moved item → isAt item source)
    (hsource : ∀ item, isAtAfter item source ↔ isAt item source ∧ ¬ moved item)
    (htarget : ∀ item, isAtAfter item target ↔ isAt item target ∨ moved item)
    (hrest : ∀ place, place ≠ source → place ≠ target → ∀ item,
      isAtAfter item place ↔ isAt item place) : Custody known isAtAfter := by
  -- What is somewhere after the step was there before, or has just come from the source.
  have horigin : ∀ item place, isAtAfter item place →
      isAt item place ∧ ¬ moved item ∨ place = target ∧ moved item := by
    intro item place hplace
    by_cases hmove : moved item
    · refine .inr ⟨Classical.byContradiction fun hne => ?_, hmove⟩
      have hleft : place ≠ source := fun heq => ((hsource item).mp (heq ▸ hplace)).2 hmove
      exact hleft (hcustody.alone item place source ((hrest place hleft hne item).mp hplace)
        (hmoved item hmove))
    · refine .inl ⟨?_, hmove⟩
      by_cases hfrom : place = source
      · subst hfrom
        exact ((hsource item).mp hplace).1
      · by_cases hto : place = target
        · subst hto
          exact ((htarget item).mp hplace).resolve_right hmove
        · exact (hrest place hfrom hto item).mp hplace
  constructor
  · intro item hitem
    by_cases hmove : moved item
    · exact ⟨target, (htarget item).mpr (.inr hmove)⟩
    · obtain ⟨place, hplace⟩ := hcustody.somewhere item hitem
      refine ⟨place, ?_⟩
      by_cases hto : place = target
      · subst hto
        exact (htarget item).mpr (.inl hplace)
      · by_cases hfrom : place = source
        · subst hfrom
          exact (hsource item).mpr ⟨hplace, hmove⟩
        · exact (hrest place hfrom hto item).mpr hplace
  · intro item first second hfirst hsecond
    obtain ⟨hfirst, hstays⟩ | ⟨rfl, hmove⟩ := horigin item first hfirst <;>
      obtain ⟨hsecond, hstays'⟩ | ⟨rfl, hmove'⟩ := horigin item second hsecond
    · exact hcustody.alone item first second hfirst hsecond
    · exact absurd hmove' hstays
    · exact absurd hmove hstays'
    · rfl
  · intro item place hplace
    obtain ⟨hbefore, -⟩ | ⟨-, hmove⟩ := horigin item place hplace
    · exact hcustody.known item place hbefore
    · exact hcustody.known item source (hmoved item hmove)

end Custody

end Foundation
