import Mathlib.Data.List.Basic

/-! # An outbox

Requests that a transport takes over element by element, in the order in which they were
accepted. When the transport stops, what it has taken over is the beginning of what was
accepted, and a request that is done lies in it as a whole.
-/

namespace Foundation

universe u v

structure Outbox (Id : Type u) (Elem : Type v) where
  /-- All requests so far, in order. -/
  accepted : List (Id × List Elem) := []
  /-- The requests that were taken over completely. -/
  done : List (Id × List Elem) := []
  queue : List (Id × List Elem) := []
  /-- How much of the first request in the queue has been taken over. -/
  offset : Nat := 0
  sent : List Elem := []
  /-- The transport takes nothing any more. -/
  stopped : Bool := false

namespace Outbox

variable {Id : Type u} {Elem : Type v} {outbox next : Outbox Id Elem}

/-- What requests contain, one after the other. -/
def contents (requests : List (Id × List Elem)) : List Elem :=
  (requests.map Prod.snd).flatten

@[simp] theorem contents_nil : contents ([] : List (Id × List Elem)) = [] := rfl

@[simp] theorem contents_cons (request : Id × List Elem) (rest : List (Id × List Elem)) :
    contents (request :: rest) = request.2 ++ contents rest := rfl

@[simp] theorem contents_append (first second : List (Id × List Elem)) :
    contents (first ++ second) = contents first ++ contents second := by
  simp [contents]

def accept (outbox : Outbox Id Elem) (id : Id) (buffer : List Elem) : Outbox Id Elem :=
  { outbox with
    accepted := outbox.accepted ++ [(id, buffer)]
    queue := outbox.queue ++ [(id, buffer)] }

/-- The transport takes this many more elements of the first request. -/
def transmit (outbox : Outbox Id Elem) (count : Nat) : Option (Outbox Id Elem) :=
  match outbox.queue with
  | [] => none
  | (_, buffer) :: _ =>
      if outbox.stopped || buffer.length < outbox.offset + count then none
      else some { outbox with
        offset := outbox.offset + count
        sent := outbox.sent ++ (buffer.drop outbox.offset).take count }

/-- The first request, of which nothing is left, leaves the queue. -/
def complete (outbox : Outbox Id Elem) : Option (Id × Outbox Id Elem) :=
  match outbox.queue with
  | [] => none
  | (id, buffer) :: rest =>
      if outbox.stopped || outbox.offset != buffer.length then none
      else some (id, { outbox with
        done := outbox.done ++ [(id, buffer)]
        queue := rest
        offset := 0 })

/-- The transport refuses the rest of the first request, and everything after it. -/
def refuse (outbox : Outbox Id Elem) : Option (Id × Outbox Id Elem) :=
  match outbox.queue with
  | [] => none
  | (id, _) :: rest => some (id, { outbox with queue := rest, offset := 0, stopped := true })

/-- The transport gives all requests back. -/
def clear (outbox : Outbox Id Elem) : Outbox Id Elem :=
  { outbox with queue := [], offset := 0, stopped := true }

/-- What has been taken over of the first request. -/
def front (outbox : Outbox Id Elem) : List Elem :=
  match outbox.queue with
  | [] => []
  | (_, buffer) :: _ => buffer.take outbox.offset

theorem transmit_frame {count : Nat} (htransmit : outbox.transmit count = some next) :
    next.queue = outbox.queue ∧ next.done = outbox.done ∧ next.accepted = outbox.accepted ∧
      ∃ more, next.sent = outbox.sent ++ more := by
  unfold transmit at htransmit
  split at htransmit
  · cases htransmit
  · split at htransmit
    · cases htransmit
    · cases htransmit
      exact ⟨rfl, rfl, rfl, _, rfl⟩

theorem complete_frame {id : Id} (hcomplete : outbox.complete = some (id, next)) :
    ∃ buffer, outbox.queue = (id, buffer) :: next.queue ∧
      next.done = outbox.done ++ [(id, buffer)] ∧ next.sent = outbox.sent := by
  unfold complete at hcomplete
  split at hcomplete
  · cases hcomplete
  next first buffer rest hqueue =>
    split at hcomplete
    · cases hcomplete
    · cases hcomplete
      exact ⟨buffer, hqueue, rfl, rfl⟩

theorem refuse_frame {id : Id} (hrefuse : outbox.refuse = some (id, next)) :
    ∃ buffer, outbox.queue = (id, buffer) :: next.queue ∧ next.done = outbox.done ∧
      next.sent = outbox.sent := by
  unfold refuse at hrefuse
  split at hrefuse
  · cases hrefuse
  next first buffer rest hqueue =>
    cases hrefuse
    exact ⟨buffer, hqueue, rfl, rfl⟩

structure Sound (outbox : Outbox Id Elem) : Prop where
  going : outbox.stopped = false →
    outbox.accepted = outbox.done ++ outbox.queue ∧
      outbox.sent = contents outbox.done ++ outbox.front
  rested : outbox.queue = [] → outbox.offset = 0
  accepted : outbox.done <+: outbox.accepted
  delivered : contents outbox.done <+: outbox.sent
  ordered : outbox.sent <+: contents outbox.accepted

theorem sound_empty : Sound ({} : Outbox Id Elem) :=
  ⟨fun _ => ⟨rfl, rfl⟩, fun _ => rfl, List.prefix_refl _, List.prefix_refl _, List.prefix_refl _⟩

/-- An outbox that goes on is sound already when its books are right. -/
theorem sound_of_going (haccepted : outbox.accepted = outbox.done ++ outbox.queue)
    (hsent : outbox.sent = contents outbox.done ++ outbox.front)
    (hrested : outbox.queue = [] → outbox.offset = 0) : Sound outbox := by
  refine ⟨fun _ => ⟨haccepted, hsent⟩, hrested, ?_, ?_, ?_⟩
  · exact haccepted ▸ List.prefix_append _ _
  · exact hsent ▸ List.prefix_append _ _
  · rw [hsent, haccepted, contents_append, List.prefix_append_right_inj, front]
    split
    next hqueue => simp
    next id buffer rest hqueue =>
      rw [hqueue, contents_cons]
      exact (List.take_prefix _ _).trans (List.prefix_append _ _)

theorem Sound.accept (hsound : Sound outbox) (id : Id) (buffer : List Elem) :
    Sound (outbox.accept id buffer) := by
  have hrested : (outbox.accept id buffer).queue = [] → (outbox.accept id buffer).offset = 0 := by
    simp [Outbox.accept]
  cases hstopped : outbox.stopped with
  | false =>
      obtain ⟨haccepted, hsent⟩ := hsound.going hstopped
      refine sound_of_going ?_ ?_ hrested
      · simp [Outbox.accept, haccepted]
      · simp only [Outbox.accept, hsent, front]
        cases hqueue : outbox.queue with
        | nil => simp [hsound.rested hqueue]
        | cons first rest => simp
  | true =>
      refine ⟨fun hgoing => ?_, hrested, ?_, hsound.delivered, ?_⟩
      · simp [Outbox.accept, hstopped] at hgoing
      · exact hsound.accepted.trans (List.prefix_append _ _)
      · simp only [Outbox.accept, contents_append]
        exact hsound.ordered.trans (List.prefix_append _ _)

theorem Sound.transmit (hsound : Sound outbox) {count : Nat}
    (htransmit : outbox.transmit count = some next) : Sound next := by
  unfold Outbox.transmit at htransmit
  split at htransmit
  · cases htransmit
  next id buffer rest hqueue =>
    split at htransmit
    · cases htransmit
    next hmore =>
      simp only [Bool.or_eq_true, decide_eq_true_eq, not_or, Bool.not_eq_true] at hmore
      cases htransmit
      obtain ⟨haccepted, hsent⟩ := hsound.going hmore.1
      refine sound_of_going haccepted ?_ fun hempty => absurd hempty (by simp [hqueue])
      simp only [front, hqueue] at hsent ⊢
      rw [hsent, List.append_assoc, List.take_add]

theorem Sound.complete (hsound : Sound outbox) {id : Id}
    (hcomplete : outbox.complete = some (id, next)) : Sound next := by
  unfold Outbox.complete at hcomplete
  split at hcomplete
  · cases hcomplete
  next first buffer rest hqueue =>
    split at hcomplete
    · cases hcomplete
    next hwhole =>
      simp only [Bool.or_eq_true, bne_iff_ne, not_or, Bool.not_eq_true, not_not] at hwhole
      cases hcomplete
      obtain ⟨haccepted, hsent⟩ := hsound.going hwhole.1
      refine sound_of_going (by simp [haccepted, hqueue]) ?_ fun _ => rfl
      simp only [front, hqueue, hwhole.2, List.take_length] at hsent
      simp only [front, contents_append, hsent]
      cases rest <;> simp

theorem Sound.stop (hsound : Sound outbox) (hdone : next.done = outbox.done)
    (haccepted : next.accepted = outbox.accepted) (hsent : next.sent = outbox.sent)
    (hstopped : next.stopped = true) (hoffset : next.offset = 0) : Sound next := by
  refine ⟨fun hgoing => absurd hgoing (by simp [hstopped]), fun _ => hoffset, ?_, ?_, ?_⟩
  · rw [hdone, haccepted]
    exact hsound.accepted
  · rw [hdone, hsent]
    exact hsound.delivered
  · rw [hsent, haccepted]
    exact hsound.ordered

theorem Sound.refuse (hsound : Sound outbox) {id : Id}
    (hrefuse : outbox.refuse = some (id, next)) : Sound next := by
  unfold Outbox.refuse at hrefuse
  split at hrefuse
  · cases hrefuse
  · cases hrefuse
    exact hsound.stop rfl rfl rfl rfl rfl

theorem Sound.clear (hsound : Sound outbox) : Sound outbox.clear :=
  hsound.stop rfl rfl rfl rfl rfl

/-- A request that is done lies as a whole in what was sent, behind those accepted before
it. -/
theorem Sound.done_mem (hsound : Sound outbox) {request : Id × List Elem}
    (hmem : request ∈ outbox.done) :
    ∃ before after, outbox.accepted = before ++ request :: after ∧
      contents before ++ request.2 <+: outbox.sent := by
  obtain ⟨before, after, hdone⟩ := List.append_of_mem hmem
  obtain ⟨rest, haccepted⟩ := hsound.accepted
  refine ⟨before, after ++ rest, by rw [← haccepted, hdone]; simp, ?_⟩
  have hdelivered := hsound.delivered
  rw [hdone, contents_append, contents_cons, ← List.append_assoc] at hdelivered
  exact (List.prefix_append _ _).trans hdelivered

end Outbox

end Foundation
