import Mathlib.Data.Finset.Basic
import Mathlib.Data.Finset.Lattice.Lemmas

/-! # Tenures

Items are acquired and released, and one that was released may be acquired again. In a
paired log nothing is acquired that is held and nothing is released that is not, so every
acquisition begins a tenure that one release ends, or that lasts.

Several holders share the items. Together they hold what the log leaves acquired, each
item at one of them.
-/

namespace Foundation

universe u v

inductive Access (Item : Type u) where
  | acquire (item : Item)
  | release (item : Item)
  deriving DecidableEq

variable {Item : Type u}

def Access.item : Access Item → Item
  | .acquire item => item
  | .release item => item

/-- No access of the item. -/
def Untouched (item : Item) (log : List (Access Item)) : Prop :=
  ∀ access ∈ log, access.item ≠ item

theorem untouched_nil (item : Item) : Untouched item [] := nofun

theorem Untouched.cons {item : Item} {access : Access Item} {log : List (Access Item)}
    (haccess : access.item ≠ item) (hlog : Untouched item log) :
    Untouched item (access :: log) :=
  List.forall_mem_cons.mpr ⟨haccess, hlog⟩

/-- The log begins with a stretch without the item, and then releases it. -/
def Released (item : Item) (log : List (Access Item)) : Prop :=
  ∃ meanwhile rest, log = meanwhile ++ .release item :: rest ∧ Untouched item meanwhile

/-- The log ends with an acquisition of the item and a stretch without it. -/
def Acquired (item : Item) (log : List (Access Item)) : Prop :=
  ∃ earlier meanwhile, log = earlier ++ .acquire item :: meanwhile ∧ Untouched item meanwhile

theorem Released.cons {item : Item} {access : Access Item} {log : List (Access Item)}
    (haccess : access.item ≠ item) (hlog : Released item log) : Released item (access :: log) := by
  obtain ⟨meanwhile, rest, rfl, huntouched⟩ := hlog
  exact ⟨access :: meanwhile, rest, rfl, huntouched.cons haccess⟩

theorem Acquired.cons {item : Item} {log : List (Access Item)} (access : Access Item)
    (hlog : Acquired item log) : Acquired item (access :: log) := by
  obtain ⟨earlier, meanwhile, rfl, huntouched⟩ := hlog
  exact ⟨access :: earlier, meanwhile, rfl, huntouched⟩

variable [DecidableEq Item]

/-- The items held after a log. -/
def heldAfter (held : Finset Item) : List (Access Item) → Finset Item
  | [] => held
  | .acquire item :: rest => heldAfter (insert item held) rest
  | .release item :: rest => heldAfter (held.erase item) rest

/-- Nothing is acquired while it is held, and only what is held is released. -/
def Paired (held : Finset Item) : List (Access Item) → Prop
  | [] => True
  | .acquire item :: rest => item ∉ held ∧ Paired (insert item held) rest
  | .release item :: rest => item ∈ held ∧ Paired (held.erase item) rest

section Logs

variable {held : Finset Item} {item : Item} {log : List (Access Item)} {items : List Item}

theorem heldAfter_append (held : Finset Item) (first second : List (Access Item)) :
    heldAfter held (first ++ second) = heldAfter (heldAfter held first) second := by
  induction first generalizing held with
  | nil => rfl
  | cons access rest ih => cases access <;> exact ih _

theorem paired_append {first second : List (Access Item)} :
    Paired held (first ++ second) ↔
      Paired held first ∧ Paired (heldAfter held first) second := by
  induction first generalizing held with
  | nil => simp [Paired, heldAfter]
  | cons access rest ih => cases access <;> simp [Paired, heldAfter, ih, and_assoc]

theorem heldAfter_acquires (held : Finset Item) (items : List Item) :
    heldAfter held (items.map .acquire) = held ∪ items.toFinset := by
  induction items generalizing held with
  | nil => simp [heldAfter]
  | cons item rest ih =>
      rw [List.map_cons, heldAfter, ih, List.toFinset_cons, Finset.insert_union,
        Finset.union_insert]

theorem heldAfter_releases (held : Finset Item) (items : List Item) :
    heldAfter held (items.map .release) = held \ items.toFinset := by
  induction items generalizing held with
  | nil => simp [heldAfter]
  | cons item rest ih =>
      rw [List.map_cons, heldAfter, ih, List.toFinset_cons, Finset.sdiff_insert,
        Finset.erase_sdiff_comm]

theorem paired_acquires (hnodup : items.Nodup) (hnew : ∀ item ∈ items, item ∉ held) :
    Paired held (items.map .acquire) := by
  induction items generalizing held with
  | nil => trivial
  | cons item rest ih =>
      obtain ⟨hitem, hrest⟩ := List.nodup_cons.mp hnodup
      obtain ⟨hnot, hnew⟩ := List.forall_mem_cons.mp hnew
      refine ⟨hnot, ih hrest fun other hother => ?_⟩
      rw [Finset.mem_insert, not_or]
      exact ⟨fun heq => hitem (heq ▸ hother), hnew other hother⟩

theorem paired_releases (hnodup : items.Nodup) (hheld : ∀ item ∈ items, item ∈ held) :
    Paired held (items.map .release) := by
  induction items generalizing held with
  | nil => trivial
  | cons item rest ih =>
      obtain ⟨hitem, hrest⟩ := List.nodup_cons.mp hnodup
      obtain ⟨hmem, hheld⟩ := List.forall_mem_cons.mp hheld
      refine ⟨hmem, ih hrest fun other hother => ?_⟩
      exact Finset.mem_erase.mpr ⟨fun heq => hitem (heq ▸ hother), hheld other hother⟩

/-- The first access of an item that is held is its release. -/
theorem Paired.untouched_or_released (hpaired : Paired held log) (hheld : item ∈ held) :
    Untouched item log ∧ item ∈ heldAfter held log ∨ Released item log := by
  induction log generalizing held with
  | nil => exact .inl ⟨untouched_nil item, hheld⟩
  | cons access rest ih =>
      cases access with
      | acquire other =>
          obtain ⟨hnot, hrest⟩ := hpaired
          have hne : other ≠ item := fun heq => hnot (heq ▸ hheld)
          obtain ⟨huntouched, hafter⟩ | hreleased := ih hrest (Finset.mem_insert_of_mem hheld)
          · exact .inl ⟨huntouched.cons hne, hafter⟩
          · exact .inr (hreleased.cons hne)
      | release other =>
          obtain ⟨-, hrest⟩ := hpaired
          by_cases heq : other = item
          · subst heq
            exact .inr ⟨[], rest, rfl, untouched_nil other⟩
          · have hstill : item ∈ held.erase other := Finset.mem_erase.mpr ⟨Ne.symm heq, hheld⟩
            obtain ⟨huntouched, hafter⟩ | hreleased := ih hrest hstill
            · exact .inl ⟨huntouched.cons heq, hafter⟩
            · exact .inr (hreleased.cons heq)

/-- The last access of an item that is held is an acquisition. -/
theorem untouched_or_acquired (hafter : item ∈ heldAfter held log) :
    Untouched item log ∧ item ∈ held ∨ Acquired item log := by
  induction log generalizing held with
  | nil => exact .inl ⟨untouched_nil item, hafter⟩
  | cons access rest ih =>
      cases access with
      | acquire other =>
          obtain ⟨huntouched, hmem⟩ | hacquired := ih hafter
          · by_cases heq : other = item
            · subst heq
              exact .inr ⟨[], rest, rfl, huntouched⟩
            · exact .inl ⟨huntouched.cons heq, Finset.mem_of_mem_insert_of_ne hmem (Ne.symm heq)⟩
          · exact .inr (hacquired.cons _)
      | release other =>
          obtain ⟨huntouched, hmem⟩ | hacquired := ih hafter
          · obtain ⟨hne, hheld⟩ := Finset.mem_erase.mp hmem
            exact .inl ⟨huntouched.cons (Ne.symm hne), hheld⟩
          · exact .inr (hacquired.cons _)

/-- What follows an acquisition: the item is not touched again and is held at the end, or
the next access is a release. -/
theorem Paired.ends {before after : List (Access Item)}
    (hpaired : Paired held (before ++ .acquire item :: after)) :
    Untouched item after ∧ item ∈ heldAfter held (before ++ .acquire item :: after) ∨
      Released item after := by
  obtain ⟨-, -, hafter⟩ := paired_append.mp hpaired
  rw [heldAfter_append]
  exact hafter.untouched_or_released (Finset.mem_insert_self _ _)

/-- What comes before a release of an item that was not held at the start. -/
theorem Paired.begins {before after : List (Access Item)}
    (hpaired : Paired held (before ++ .release item :: after)) (hstart : item ∉ held) :
    Acquired item before := by
  obtain ⟨-, hmem, -⟩ := paired_append.mp hpaired
  obtain ⟨-, hheld⟩ | hacquired := untouched_or_acquired hmem
  · exact absurd hheld hstart
  · exact hacquired

end Logs

/-- What the log leaves acquired is at the holders, each item at one of them. -/
structure SharedOut {Holder : Type v} (holds : Holder → Finset Item) (log : List (Access Item)) :
    Prop where
  paired : Paired ∅ log
  alone : ∀ item first second, item ∈ holds first → item ∈ holds second → first = second
  held : ∀ item, item ∈ heldAfter ∅ log ↔ ∃ holder, item ∈ holds holder

namespace SharedOut

variable {Holder : Type v} {holds after : Holder → Finset Item} {log : List (Access Item)}
  {items : List Item}

theorem start : SharedOut (fun _ : Holder => (∅ : Finset Item)) [] where
  paired := trivial
  alone item first second hfirst := absurd hfirst (Finset.notMem_empty item)
  held item := by simp [heldAfter]

theorem congr (hshared : SharedOut holds log) (hsame : ∀ holder, after holder = holds holder) :
    SharedOut after log := by
  rwa [funext hsame]

/-- New items, each for one holder. -/
theorem acquire (hshared : SharedOut holds log) (receiver : Item → Holder) (hnodup : items.Nodup)
    (hnew : ∀ item ∈ items, ∀ holder, item ∉ holds holder)
    (hafter : ∀ holder item, item ∈ after holder ↔
      item ∈ holds holder ∨ item ∈ items ∧ receiver item = holder) :
    SharedOut after (log ++ items.map .acquire) := by
  constructor
  · refine paired_append.mpr ⟨hshared.paired, paired_acquires hnodup fun item hitem hheld => ?_⟩
    obtain ⟨holder, hholder⟩ := (hshared.held item).mp hheld
    exact hnew item hitem holder hholder
  · intro item first second hfirst hsecond
    obtain hfirst | ⟨hitem, rfl⟩ := (hafter first item).mp hfirst <;>
      obtain hsecond | ⟨hitem', hreceiver⟩ := (hafter second item).mp hsecond
    · exact hshared.alone item first second hfirst hsecond
    · exact absurd hfirst (hnew item hitem' first)
    · exact absurd hsecond (hnew item hitem second)
    · exact hreceiver
  · intro item
    rw [heldAfter_append, heldAfter_acquires, Finset.mem_union, List.mem_toFinset, hshared.held]
    constructor
    · rintro (⟨holder, hholder⟩ | hitem)
      · exact ⟨holder, (hafter holder item).mpr (.inl hholder)⟩
      · exact ⟨receiver item, (hafter _ item).mpr (.inr ⟨hitem, rfl⟩)⟩
    · rintro ⟨holder, hholder⟩
      exact ((hafter holder item).mp hholder).imp (fun hold => ⟨holder, hold⟩) And.left

/-- A holder releases all it has. -/
theorem release (hshared : SharedOut holds log) (holder : Holder) (hnodup : items.Nodup)
    (hitems : ∀ item, item ∈ items ↔ item ∈ holds holder)
    (hself : after holder = ∅) (hothers : ∀ other, other ≠ holder → after other = holds other) :
    SharedOut after (log ++ items.map .release) := by
  have hafter : ∀ item other, item ∈ after other → other ≠ holder ∧ item ∈ holds other := by
    intro item other hmem
    by_cases heq : other = holder
    · rw [heq, hself] at hmem
      exact absurd hmem (Finset.notMem_empty item)
    · exact ⟨heq, hothers other heq ▸ hmem⟩
  constructor
  · refine paired_append.mpr ⟨hshared.paired, paired_releases hnodup fun item hitem => ?_⟩
    exact (hshared.held item).mpr ⟨holder, (hitems item).mp hitem⟩
  · intro item first second hfirst hsecond
    exact hshared.alone item first second (hafter item first hfirst).2
      (hafter item second hsecond).2
  · intro item
    rw [heldAfter_append, heldAfter_releases, Finset.mem_sdiff, List.mem_toFinset, hshared.held,
      hitems]
    constructor
    · rintro ⟨⟨other, hother⟩, hnot⟩
      have hne : other ≠ holder := fun heq => hnot (heq ▸ hother)
      exact ⟨other, hothers other hne ▸ hother⟩
    · rintro ⟨other, hother⟩
      obtain ⟨hne, hmem⟩ := hafter item other hother
      exact ⟨⟨other, hmem⟩, fun hhere => hne (hshared.alone item other holder hmem hhere)⟩

/-- All that one holder has goes to another that has nothing. -/
theorem move (hshared : SharedOut holds log) {source target : Holder}
    (hempty : holds target = ∅) (htarget : after target = holds source) (hsource : after source = ∅)
    (hothers : ∀ other, other ≠ source → other ≠ target → after other = holds other) :
    SharedOut after log := by
  -- Whoever has an item afterwards has got it from the source, or had it before.
  have horigin : ∀ item holder, item ∈ after holder →
      holder = target ∧ item ∈ holds source ∨
        holder ≠ source ∧ holder ≠ target ∧ item ∈ holds holder := by
    intro item holder hmem
    by_cases hfrom : holder = source
    · rw [hfrom, hsource] at hmem
      exact absurd hmem (Finset.notMem_empty item)
    · by_cases hto : holder = target
      · exact .inl ⟨hto, by rwa [hto, htarget] at hmem⟩
      · exact .inr ⟨hfrom, hto, by rwa [hothers holder hfrom hto] at hmem⟩
  refine ⟨hshared.paired, fun item first second hfirst hsecond => ?_, fun item => ?_⟩
  · obtain ⟨rfl, hfirst⟩ | ⟨hnot, -, hfirst⟩ := horigin item first hfirst <;>
      obtain ⟨rfl, hsecond⟩ | ⟨hnot', -, hsecond⟩ := horigin item second hsecond
    · rfl
    · exact absurd (hshared.alone item _ _ hsecond hfirst) hnot'
    · exact absurd (hshared.alone item _ _ hfirst hsecond) hnot
    · exact hshared.alone item first second hfirst hsecond
  · rw [hshared.held]
    constructor
    · rintro ⟨holder, hmem⟩
      by_cases hfrom : holder = source
      · exact ⟨target, by rw [htarget]; exact hfrom ▸ hmem⟩
      · by_cases hto : holder = target
        · rw [hto, hempty] at hmem
          exact absurd hmem (Finset.notMem_empty item)
        · exact ⟨holder, by rwa [hothers holder hfrom hto]⟩
    · rintro ⟨holder, hmem⟩
      obtain ⟨-, hmem⟩ | ⟨-, -, hmem⟩ := horigin item holder hmem
      · exact ⟨source, hmem⟩
      · exact ⟨holder, hmem⟩

/-- New items that are released before any holder gets them. -/
theorem pass (hshared : SharedOut holds log) (hnodup : items.Nodup)
    (hnew : ∀ item ∈ items, ∀ holder, item ∉ holds holder) :
    SharedOut holds (log ++ (items.map .acquire ++ items.map .release)) := by
  have hfresh : ∀ item ∈ items, item ∉ heldAfter ∅ log := by
    intro item hitem hheld
    obtain ⟨holder, hholder⟩ := (hshared.held item).mp hheld
    exact hnew item hitem holder hholder
  refine ⟨?_, hshared.alone, fun item => ?_⟩
  · refine paired_append.mpr ⟨hshared.paired, paired_append.mpr ⟨paired_acquires hnodup hfresh, ?_⟩⟩
    refine paired_releases hnodup fun item hitem => ?_
    rw [heldAfter_acquires]
    exact Finset.mem_union_right _ (List.mem_toFinset.mpr hitem)
  · rw [heldAfter_append, heldAfter_append, heldAfter_acquires, heldAfter_releases,
      Finset.mem_sdiff, Finset.mem_union, List.mem_toFinset, ← hshared.held]
    constructor
    · rintro ⟨hheld | hitem, hnot⟩
      · exact hheld
      · exact absurd hitem hnot
    · intro hheld
      exact ⟨.inl hheld, fun hitem => hfresh item hitem hheld⟩

end SharedOut

end Foundation
