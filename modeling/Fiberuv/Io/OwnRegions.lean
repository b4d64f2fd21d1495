import Fiberuv.Io.SharedFile

/-! # Writes to regions of their own

Callers that write to regions apart from each other do not disturb one another, however
their requests are cut up and served: a write that returned has its data in the file, a read
that starts after it finds the data there, and every byte outside the regions stays.
-/

namespace Fiberuv.Io.SharedFile

open Foundation
open Io.FileCursor (overwrite)
open Io.FileRequests (FsRead FsWrite WriteAt fsReadAt fsWriteAt onFsWrite toPosition
  toPosition_of_lt offset_add_toNat submitWrite fsWriteAt_pending onFsWrite_pending onFsWrite_ok
  request_length_le)

/-- The part of its data that a call has written. -/
def Call.landed : Call → Bytes
  | .writing write served => write.data.take (write.written + (served.getD 0).toNat)
  | .wrote data _ (.ok _) => data
  | _ => []

/-- What is known of a call when the file has these contents. -/
structure Call.Fits (contents : Bytes) (call : Call) : Prop where
  inRange : ∀ place bytes, call.target = some (place, bytes) → place + bytes.length < 2 ^ 63
  landed : ∀ place bytes, call.target = some (place, bytes) → Has contents place call.landed
  bounded : ∀ write result, call = .writing write (some result) →
    result ≤ write.request.buffer.length
  whole : ∀ data offset count, call = .wrote data offset (.ok count) → count = data.length

/-- Nobody writes here. -/
def Untouched (state : State) (index : Nat) : Prop :=
  ∀ id place bytes, (state.call id).target = some (place, bytes) →
    index < place ∨ place + bytes.length ≤ index

structure Sound (start : Bytes) (state : State) : Prop where
  fits : ∀ id, (state.call id).Fits state.contents
  apart : ∀ id other, id ≠ other → ∀ place bytes, (state.call id).target = some (place, bytes) →
    ∀ place' bytes', (state.call other).target = some (place', bytes') →
      Apart place bytes.length place' bytes'.length
  kept : ∀ index < start.length, Untouched state index → state.contents[index]? = start[index]?

theorem sound_opened (start : Bytes) : Sound start (opened start) where
  fits _ := by constructor <;> simp [opened, Call.target]
  apart := by simp [opened, Call.target]
  kept _ _ _ := rfl

section Overwrite

variable {contents bytes : Bytes} {place : Nat}

/-- What `pwrite` does to a file. -/
theorem overwrite_patched (contents : Bytes) (place : Nat) (bytes : Bytes) :
    Patched contents (overwrite contents place bytes) place bytes := by
  have hfront : (contents.take place ++ List.replicate (place - contents.length) 0).length =
      place := by
    simp only [List.length_append, List.length_take, List.length_replicate]
    omega
  constructor
  · intro index hindex
    rw [overwrite, List.getElem?_append_left (by simp only [List.length_append] at hfront ⊢; omega),
      List.getElem?_append_right (by omega), hfront, Nat.add_sub_cancel_left]
  · rintro index hindex (hbefore | hbehind)
    · rw [overwrite, List.append_assoc, List.append_assoc,
        List.getElem?_append_left (by rw [List.length_take]; omega), List.getElem?_take,
        if_pos hbefore]
    · rw [overwrite,
        List.getElem?_append_right (by simp only [List.length_append] at hfront ⊢; omega),
        List.getElem?_drop]
      congr 1
      simp only [List.length_append] at hfront ⊢
      omega

theorem write_patched (state : State) (place : Nat) (bytes : Bytes) :
    Patched state.contents (state.write place bytes).contents place bytes := by
  unfold State.write
  by_cases hempty : bytes = []
  · subst hempty
    exact patched_nil _ place
  · simp only [hempty, if_false]
    exact overwrite_patched state.contents place bytes

end Overwrite

variable {start : Bytes} {state next : State} {id : CallId}

section Steps

/-- A call goes on, and the file stays. -/
theorem Sound.setCall (hsound : Sound start state) {call : Call} (hfits : call.Fits state.contents)
    (hkeeps : ∀ target, (state.call id).target = some target → call.target = some target)
    (hapart : ∀ place bytes, call.target = some (place, bytes) → ∀ other, id ≠ other →
      ∀ place' bytes', (state.call other).target = some (place', bytes') →
        Apart place bytes.length place' bytes'.length) :
    Sound start (state.setCall id call) := by
  have hself : (state.setCall id call).call id = call := by simp [State.setCall]
  have hother : ∀ other, id ≠ other → (state.setCall id call).call other = state.call other :=
    fun other hne => by simp [State.setCall, hne.symm]
  refine ⟨fun other => ?_, fun first second hne => ?_, fun index hindex huntouched => ?_⟩
  · by_cases heq : id = other
    · subst heq
      rw [hself]
      exact hfits
    · rw [hother other heq]
      exact hsound.fits other
  · by_cases hfirst : id = first
    · subst hfirst
      rw [hself, hother second hne]
      exact fun place bytes htarget => hapart place bytes htarget second hne
    · rw [hother first hfirst]
      by_cases hsecond : id = second
      · subst hsecond
        rw [hself]
        exact fun place bytes htarget place' bytes' htarget' =>
          (hapart place' bytes' htarget' first hfirst place bytes htarget).symm
      · rw [hother second hsecond]
        exact hsound.apart first second hne
  · refine hsound.kept index hindex fun other place bytes htarget => ?_
    refine huntouched other place bytes ?_
    by_cases heq : id = other
    · subst heq
      rw [hself]
      exact hkeeps _ htarget
    · rwa [hother other heq]

/-- A call that has its region goes on. -/
theorem Sound.advance (hsound : Sound start state) {call : Call}
    (hfits : call.Fits state.contents) (hsame : call.target = (state.call id).target) :
    Sound start (state.setCall id call) := by
  refine hsound.setCall hfits (fun target htarget => hsame.trans htarget) ?_
  exact fun place bytes htarget other hne => hsound.apart id other hne place bytes
    (hsame.symm.trans htarget)

/-- A call that has not started yet gets a region apart from the others. -/
theorem Sound.begin (hsound : Sound start state) {call : Call} (hidle : state.call id = .idle)
    (hfits : call.Fits state.contents)
    (hapart : ∀ place bytes, call.target = some (place, bytes) → ∀ other place' bytes',
      (state.call other).target = some (place', bytes') →
        Apart place bytes.length place' bytes'.length) :
    Sound start (state.setCall id call) := by
  refine hsound.setCall hfits (fun target htarget => ?_) ?_
  · simp [hidle, Call.target] at htarget
  · exact fun place bytes htarget other _ => hapart place bytes htarget other

theorem fits_of_no_target {contents : Bytes} {call : Call} (hnone : call.target = none) :
    call.Fits contents := by
  refine ⟨by simp [hnone], by simp [hnone], ?_, ?_⟩
  · rintro write result rfl
    cases hnone
  · rintro data offset count rfl
    cases hnone

/-- What a write has come to after its first lines. -/
theorem fsWriteAt_cases (data : Bytes) (offset : UInt64) (rc : Int) :
    (∃ write, fsWriteAt data offset rc = .pending write ∧ write.data = data ∧
        write.baseOffset = offset ∧ write.written = 0) ∨
      (fsWriteAt data offset rc = .returned (.ok 0) ∧ data = []) ∨
      ∃ error, fsWriteAt data offset rc = .returned (.error error) := by
  cases hstart : fsWriteAt data offset rc with
  | pending write => exact .inl ⟨write, rfl, fsWriteAt_pending hstart⟩
  | returned outcome =>
      right
      unfold fsWriteAt at hstart
      split at hstart
      · unfold submitWrite at hstart
        split at hstart
        · exact .inr ⟨_, by rw [← WriteAt.returned.inj hstart]⟩
        · cases hstart
      next hempty =>
        refine .inl ⟨by rw [← WriteAt.returned.inj hstart], ?_⟩
        exact List.length_eq_zero_iff.mp (by omega)

theorem Sound.writeAt (hsound : Sound start state) {data : Bytes} {offset : UInt64} {rc : Int}
    (hidle : state.call id = .idle) (hown : OwnRegion state (.writeAt id data offset rc)) :
    Sound start (state.goOn id data offset (fsWriteAt data offset rc)) := by
  obtain ⟨hrange, hapart⟩ := hown
  have htarget : ∀ {call : Call}, call.target = some (offset.toNat, data) →
      (∀ place bytes, call.target = some (place, bytes) → place + bytes.length < 2 ^ 63) ∧
        ∀ place bytes, call.target = some (place, bytes) → ∀ other place' bytes',
          (state.call other).target = some (place', bytes') →
            Apart place bytes.length place' bytes'.length := by
    intro call hcall
    simp only [hcall, Option.some.injEq, Prod.mk.injEq]
    exact ⟨by rintro _ _ ⟨rfl, rfl⟩; exact hrange, by rintro _ _ ⟨rfl, rfl⟩; exact hapart⟩
  obtain ⟨write, hpending, hdata, hbase, hwritten⟩ | ⟨hreturned, hempty⟩ | ⟨error, hreturned⟩ :=
    fsWriteAt_cases data offset rc
  · obtain ⟨hin, hown⟩ := @htarget (.writing write none) (by simp [Call.target, hdata, hbase])
    rw [hpending]
    refine hsound.begin hidle ⟨hin, fun place bytes _ => ?_, by simp, by simp⟩ hown
    simpa [Call.landed, hwritten] using has_nil _ _
  · obtain ⟨hin, hown⟩ := @htarget (.wrote data offset (.ok 0)) rfl
    rw [hreturned]
    refine hsound.begin hidle ⟨hin, fun place bytes _ => ?_, by simp, ?_⟩ hown
    · simpa [Call.landed, hempty] using has_nil _ _
    · simp [hempty]
  · obtain ⟨hin, hown⟩ := @htarget (.wrote data offset (.error error)) rfl
    rw [hreturned]
    exact hsound.begin hidle ⟨hin, fun place bytes _ => has_nil _ _, by simp, by simp⟩ hown

/-- The callback of a write; what has been written stays. -/
theorem Sound.completeWrite (hsound : Sound start state) {write : FsWrite} {result : Int}
    (hcall : state.call id = .writing write (some result)) (rc : Int) :
    Sound start (state.goOn id write.data write.baseOffset (onFsWrite write result rc)) := by
  have hfits := hsound.fits id
  rw [hcall] at hfits
  have hbounded := hfits.bounded write result rfl
  cases hafter : onFsWrite write result rc with
  | pending next =>
      obtain ⟨hnonneg, hdata, hbase, hwritten⟩ := onFsWrite_pending hafter
      refine hsound.advance ⟨?_, ?_, by simp, by simp⟩ (by simp [hcall, Call.target, hdata, hbase])
      · simpa [Call.target, hdata, hbase] using hfits.inRange
      · simpa [Call.target, Call.landed, hdata, hbase, hwritten] using hfits.landed
  | returned outcome =>
      have hdone : ∀ count, outcome = .ok count →
          count = write.data.length ∧ write.written + result.toNat = write.data.length := by
        rintro count rfl
        obtain ⟨hnonneg, hcount, hall⟩ := onFsWrite_ok hafter
        have hrequest := request_length_le write
        have hmore := write.more
        unfold FsWrite.remaining at hrequest
        omega
      refine hsound.advance ⟨?_, ?_, by simp, ?_⟩ (by simp [hcall, Call.target])
      · simpa [Call.target] using hfits.inRange
      · cases outcome with
        | error error => exact fun place bytes _ => has_nil _ _
        | ok count =>
            have hlanded := hfits.landed
            simpa [Call.target, Call.landed, (hdone count rfl).2] using hlanded
      · rintro data offset count heq
        obtain ⟨rfl, -, houtcome⟩ := Call.wrote.inj heq
        exact (hdone count houtcome).1

theorem landed_length_le {call : Call} {place : Nat} {bytes : Bytes}
    (htarget : call.target = some (place, bytes)) : call.landed.length ≤ bytes.length := by
  unfold Call.target at htarget
  split at htarget
  next write served =>
    obtain ⟨-, rfl⟩ := Prod.mk.inj (Option.some.inj htarget)
    simp only [Call.landed, List.length_take]
    omega
  next data offset outcome =>
    obtain ⟨-, rfl⟩ := Prod.mk.inj (Option.some.inj htarget)
    cases outcome <;> simp [Call.landed]
  · cases htarget

/-- A write into the region of one call, behind what this call has written. -/
theorem Sound.patch (hsound : Sound start state) {after bytes data : Bytes} {place region : Nat}
    (position : Nat) (hpatched : Patched state.contents after place bytes)
    (htarget : (state.call id).target = some (region, data))
    (hbehind : region + (state.call id).landed.length ≤ place)
    (hwithin : place + bytes.length ≤ region + data.length) :
    Sound start { state with contents := after, position := position } := by
  refine ⟨fun other => ?_, hsound.apart, fun index hindex huntouched => ?_⟩
  · have hfits := hsound.fits other
    refine { hfits with landed := fun place' bytes' htarget' => ?_ }
    refine (hfits.landed place' bytes' htarget').patched hpatched ?_
    by_cases heq : id = other
    · subst heq
      obtain ⟨rfl, rfl⟩ := Prod.mk.inj (Option.some.inj (htarget.symm.trans htarget'))
      exact .inl hbehind
    · have hlength : (state.call other).landed.length ≤ bytes'.length := landed_length_le htarget'
      rcases hsound.apart id other heq region data htarget place' bytes' htarget' with h | h
      · exact .inr (by omega)
      · exact .inl (by omega)
  · have hbefore := hsound.kept index hindex huntouched
    have hthere : index < state.contents.length := by
      rw [List.getElem?_eq_getElem hindex] at hbefore
      exact (List.getElem?_eq_some_iff.mp hbefore).1
    rw [hpatched.outside index hthere ?_, hbefore]
    rcases huntouched id region data htarget with h | h
    · exact .inl (by omega)
    · exact .inr (by omega)

/-- The kernel goes to the place behind what the call has written before. -/
theorem request_place {write : FsWrite} (state : State)
    (hrange : write.baseOffset.toNat + write.data.length < 2 ^ 63) :
    state.place write.request.position = write.baseOffset.toNat + write.written := by
  have hmore := write.more
  have hsum : (write.baseOffset + .ofNat write.written).toNat =
      write.baseOffset.toNat + write.written := offset_add_toNat (by omega)
  have hposition : write.request.position = (write.baseOffset.toNat + write.written : Nat) := by
    change toPosition (write.baseOffset + .ofNat write.written) = _
    rw [toPosition_of_lt (by omega), hsum]
  rw [State.place, hposition, if_neg (by omega)]
  rfl

/-- What the kernel writes of a request is the next part of the data. -/
theorem request_take {write : FsWrite} {count : Nat}
    (hcount : count ≤ write.request.buffer.length) :
    write.request.buffer.take count = (write.data.drop write.written).take count := by
  rw [FsWrite.request, bufInit_length] at hcount
  rw [FsWrite.request, bufInit, List.take_take, Nat.min_eq_left hcount]

/-- The kernel writes into the region of the call. -/
theorem Sound.serveWrite (hsound : Sound start state) {write : FsWrite} {result : Int}
    (hcall : state.call id = .writing write none)
    (hserve : state.serveWrite id write result = some next) : Sound start next := by
  have hfits := hsound.fits id
  rw [hcall] at hfits
  have hrange := hfits.inRange _ _ rfl
  have hlanded : Has state.contents write.baseOffset.toNat (write.data.take write.written) := by
    simpa [Call.landed] using hfits.landed _ _ rfl
  unfold State.serveWrite at hserve
  split at hserve
  next hfailed =>
    cases hserve
    refine hsound.advance ⟨?_, ?_, ?_, by simp⟩ (by rw [hcall]; rfl)
    · simpa [Call.target] using hrange
    · have hzero : result.toNat = 0 := by omega
      simpa [Call.target, Call.landed, hzero] using hlanded
    · intro other code heq
      obtain ⟨rfl, hcode⟩ := Call.writing.inj heq
      obtain rfl := Option.some.inj hcode
      omega
  next hserved =>
    simp only [Option.ite_none_right_eq_some, Option.some.injEq] at hserve
    obtain ⟨⟨hresult, -⟩, rfl⟩ := hserve
    have hmore := write.more
    have hplace := request_place state hrange
    have hbytes := request_take (by omega : result.toNat ≤ write.request.buffer.length)
    generalize hnew : write.request.buffer.take result.toNat = bytes at hbytes ⊢
    rw [hplace]
    have hpatched := write_patched state (write.baseOffset.toNat + write.written) bytes
    have hlength : bytes.length ≤ write.data.length - write.written := by
      rw [hbytes, List.length_take, List.length_drop]
      omega
    have hbehind : write.baseOffset.toNat + (state.call id).landed.length ≤
        write.baseOffset.toNat + write.written := by
      simp only [hcall, Call.landed, Option.getD_none, Int.toNat_zero, Nat.add_zero,
        List.length_take]
      omega
    have hmoved : Sound start ((state.write (write.baseOffset.toNat + write.written) bytes).moved
        write.request.position (write.baseOffset.toNat + write.written + bytes.length)) :=
      hsound.patch _ hpatched (by rw [hcall]; rfl) hbehind (by omega)
    have hsame : ((state.write (write.baseOffset.toNat + write.written) bytes).moved
        write.request.position (write.baseOffset.toNat + write.written + bytes.length)).call id =
          .writing write none := hcall
    refine hmoved.advance ⟨?_, ?_, ?_, by simp⟩ (by rw [hsame]; rfl)
    · simpa [Call.target] using hrange
    · have hfitsAfter := hmoved.fits id
      rw [hsame] at hfitsAfter
      have hold := hfitsAfter.landed _ _ rfl
      simp only [Call.landed, Option.getD_none, Int.toNat_zero, Nat.add_zero] at hold
      have hfront : (write.data.take write.written).length = write.written := by
        rw [List.length_take]
        omega
      have hboth := hold.append (by rw [hfront]; exact hpatched.inside)
      have hparts : write.data.take (write.written + result.toNat) =
          write.data.take write.written ++ bytes := by
        rw [hbytes, List.take_add]
      rintro place data htarget
      obtain ⟨rfl, rfl⟩ := Prod.mk.inj (Option.some.inj htarget)
      rw [Call.landed, Option.getD_some, hparts]
      exact hboth
    · intro other code heq
      obtain ⟨rfl, hcode⟩ := Call.writing.inj heq
      obtain rfl := Option.some.inj hcode
      exact hresult

/-- A read goes on; it writes nothing. -/
theorem Sound.read (hsound : Sound start state) {call : Call} {position : Nat}
    (hbefore : (state.call id).target = none) (hnone : call.target = none) :
    Sound start ({ state with position := position }.setCall id call) := by
  have hmoved : Sound start { state with position := position } := { hsound with }
  exact hmoved.advance (fits_of_no_target hnone) (hnone.trans hbefore.symm)

theorem step_sound (action : Action) (hsound : Sound start state)
    (hown : OwnRegion state action) (hstep : state.step action = some next) :
    Sound start next := by
  cases action with
  | writeAt id data offset rc =>
      simp only [State.step] at hstep
      split at hstep
      next hidle =>
        cases hstep
        exact hsound.writeAt hidle hown
      · cases hstep
  | readAt id size offset rc =>
      simp only [State.step] at hstep
      split at hstep
      next hidle =>
        cases hstep
        unfold State.readAt
        split <;> exact hsound.read (by rw [hidle]; rfl) rfl
      · cases hstep
  | serve id result =>
      simp only [State.step] at hstep
      split at hstep
      next write hcall => exact hsound.serveWrite hcall hstep
      next read hcall =>
        unfold State.serveRead at hstep
        split at hstep
        · cases hstep
          exact hsound.read (by rw [hcall]; rfl) rfl
        · simp only [Option.ite_none_right_eq_some, Option.some.injEq] at hstep
          obtain ⟨-, rfl⟩ := hstep
          exact hsound.read (by rw [hcall]; rfl) rfl
      · cases hstep
  | complete id rc =>
      simp only [State.step] at hstep
      split at hstep
      next write result hcall =>
        cases hstep
        exact hsound.completeWrite hcall rc
      next read served hcall =>
        cases hstep
        exact hsound.read (by rw [hcall]; rfl) rfl
      · cases hstep

end Steps

/-- What was read from this place agrees with the data at the offset. -/
def Agrees (place : Nat) (bytes : Bytes) (offset : Nat) (data : Bytes) : Prop :=
  ∀ index < bytes.length, offset ≤ place + index → place + index < offset + data.length →
    bytes[index]? = data[place + index - offset]?

/-- A read from this offset, where the data has been written before. -/
def Call.Sees (call : Call) (place : UInt64) (offset : Nat) (data : Bytes) : Prop :=
  match call with
  | .reading request served => request.offset = place ∧
      ∀ bytes, served = some (.ok bytes) → Agrees place.toNat bytes offset data
  | .read _ outcome => ∀ bytes, outcome = .ok bytes → Agrees place.toNat bytes offset data
  | _ => False

section Reads

@[simp] theorem setCall_call_of_ne {other : CallId} (hne : other ≠ id) (call : Call) :
    (state.setCall id call).call other = state.call other := by
  simp [State.setCall, hne]

/-- A step of one call leaves the others where they are. -/
theorem step_other {action : Action} (hstep : state.step action = some next) {other : CallId}
    (hne : other ≠ action.id) : next.call other = state.call other := by
  cases action with
  | writeAt id data offset rc =>
      simp only [State.step] at hstep
      split at hstep
      · cases hstep
        unfold State.goOn
        split <;> exact setCall_call_of_ne hne _
      · cases hstep
  | readAt id size offset rc =>
      simp only [State.step] at hstep
      split at hstep
      · cases hstep
        unfold State.readAt
        split <;> exact setCall_call_of_ne hne _
      · cases hstep
  | serve id result =>
      simp only [State.step] at hstep
      split at hstep
      · unfold State.serveWrite at hstep
        split at hstep
        · cases hstep
          exact setCall_call_of_ne hne _
        · simp only [Option.ite_none_right_eq_some, Option.some.injEq] at hstep
          obtain ⟨-, rfl⟩ := hstep
          exact setCall_call_of_ne hne _
      · unfold State.serveRead at hstep
        split at hstep
        · cases hstep
          exact setCall_call_of_ne hne _
        · simp only [Option.ite_none_right_eq_some, Option.some.injEq] at hstep
          obtain ⟨-, rfl⟩ := hstep
          exact setCall_call_of_ne hne _
      · cases hstep
  | complete id rc =>
      simp only [State.step] at hstep
      split at hstep
      · cases hstep
        unfold State.goOn
        split <;> exact setCall_call_of_ne hne _
      · cases hstep
        exact setCall_call_of_ne hne _
      · cases hstep

/-- A write that has returned makes no more steps. -/
theorem step_wrote (action : Action) {data : Bytes} {offset : UInt64}
    {outcome : Except Error Nat} (hcall : state.call id = .wrote data offset outcome)
    (hstep : state.step action = some next) : next.call id = .wrote data offset outcome := by
  have hne : id ≠ action.id := by
    rintro rfl
    cases action <;> simp [State.step, Action.id] at hcall hstep <;> simp [hcall] at hstep
  rw [step_other hstep hne, hcall]

/-- What the kernel reads where the file has the data. -/
theorem agrees_of_has {contents data : Bytes} {place offset : Nat}
    (hhas : Has contents offset data) (count : Nat) :
    Agrees place ((contents.drop place).take count) offset data := by
  intro index hindex hfrom hto
  rw [List.length_take] at hindex
  have hbyte := hhas (place + index - offset) (by omega)
  rw [List.getElem?_take, if_pos (by omega), List.getElem?_drop, ← hbyte]
  congr 1
  omega

theorem step_sees {action : Action} {place : UInt64} {offset : Nat} {data : Bytes}
    (hplace : place.toNat < 2 ^ 63) (hhas : Has state.contents offset data)
    (hsees : (state.call id).Sees place offset data) (hstep : state.step action = some next) :
    (next.call id).Sees place offset data := by
  by_cases hself : id = action.id
  · subst hself
    cases action with
    | writeAt id data offset rc | readAt id size offset rc =>
        simp only [State.step] at hstep
        split at hstep
        next hidle =>
          simp only [Action.id, hidle] at hsees
          exact hsees.elim
        · cases hstep
    | serve id result =>
        simp only [State.step] at hstep
        split at hstep
        next write hcall =>
          simp only [Action.id, hcall] at hsees
          exact hsees.elim
        next read hcall =>
          simp only [Action.id, hcall] at hsees
          obtain ⟨rfl, -⟩ := hsees
          unfold State.serveRead at hstep
          split at hstep
          · cases hstep
            simp [State.setCall, Action.id, Call.Sees]
          · simp only [Option.ite_none_right_eq_some, Option.some.injEq] at hstep
            obtain ⟨-, rfl⟩ := hstep
            have hstart : state.place read.position = read.offset.toNat := by
              rw [State.place, FsRead.position, toPosition_of_lt hplace, if_neg (by omega)]
              rfl
            simp only [State.setCall, Action.id, Function.update_self, Call.Sees, true_and]
            intro bytes hbytes
            obtain rfl := Except.ok.inj (Option.some.inj hbytes)
            rw [hstart]
            exact agrees_of_has hhas _
        · cases hstep
    | complete id rc =>
        simp only [State.step] at hstep
        split at hstep
        next write result hcall =>
          simp only [Action.id, hcall] at hsees
          exact hsees.elim
        next read served hcall =>
          cases hstep
          simp only [Action.id, hcall] at hsees
          obtain ⟨-, hagrees⟩ := hsees
          simp only [State.setCall, Action.id, Function.update_self, Call.Sees]
          intro bytes hbytes
          refine hagrees bytes ?_
          cases served with
          | ok other => rw [Except.ok.inj hbytes]
          | error code => cases hbytes
        · cases hstep
  · rw [step_other hstep hself]
    exact hsees

/-- A read begins to see what has been written before it. -/
theorem readAt_sees (state : State) (reader : CallId) (size : Nat) (place : UInt64) (rc : Int)
    (offset : Nat) (data : Bytes) :
    ((state.readAt reader size place rc).call reader).Sees place offset data := by
  unfold State.readAt fsReadAt
  split
  next read hread =>
    split at hread
    · cases hread
    · cases hread
      simp [State.setCall, Call.Sees]
  next error hread => simp [State.setCall, Call.Sees]

end Reads

/-- Writes to regions of their own do not disturb one another. A write that returned normally
reports all of its data, and the file has the data; every other byte of the file is as before;
and a read agrees with all data that had been written when it was started. -/
theorem own_regions_undisturbed (contents : Bytes) (actions : List Action) (final : State)
    (hmeets : machine.Meets OwnRegion actions (opened contents))
    (hrun : machine.run actions (opened contents) = some final) :
    (∀ id data offset count, final.call id = .wrote data offset (.ok count) →
        count = data.length ∧ Has final.contents offset.toNat data) ∧
      (∀ index < contents.length, Untouched final index →
        final.contents[index]? = contents[index]?) ∧
      ∀ before reader size place rc after middle,
        actions = before ++ .readAt reader size place rc :: after →
        machine.run before (opened contents) = some middle → place.toNat < 2 ^ 63 →
        ∀ writer data offset count, middle.call writer = .wrote data offset (.ok count) →
        ∀ origin bytes, final.call reader = .read origin (.ok bytes) →
          Agrees place.toNat bytes offset.toNat data := by
  have hkeep : ∀ state action next, Sound contents state → OwnRegion state action →
      machine.step state action = some next → Sound contents next :=
    fun _ action _ hsound hown hstep => step_sound action hsound hown hstep
  have hlanded : ∀ {state}, Sound contents state → ∀ {id data offset count},
      state.call id = .wrote data offset (.ok count) → Has state.contents offset.toNat data := by
    intro state hsound id data offset count hcall
    have hfits := hsound.fits id
    rw [hcall] at hfits
    exact hfits.landed _ _ rfl
  have hsound := Machine.run_invariant hkeep actions _ final (sound_opened contents) hmeets hrun
  refine ⟨fun id data offset count hcall => ⟨?_, hlanded hsound hcall⟩, hsound.kept, ?_⟩
  · exact (hsound.fits id).whole data offset count hcall
  rintro before reader size place rc after middle rfl hbefore hplace writer data offset count
    hwriter origin bytes hreader
  -- The run is cut where the read starts: what it sees there agrees with the write, and
  -- no later step changes that.
  have hmiddle := Machine.run_invariant hkeep before _ middle (sound_opened contents)
    (Machine.meets_before hmeets) hbefore
  have hrest := Machine.meets_after hmeets hbefore
  rw [Machine.run_append, hbefore, Option.bind_some, Machine.run_cons,
    Option.bind_eq_some_iff] at hrun
  obtain ⟨started, hstart, hafter⟩ := hrun
  have hsees : (started.call reader).Sees place offset.toNat data := by
    simp only [machine, State.step] at hstart
    split at hstart
    · cases hstart
      exact readAt_sees middle reader size place rc offset.toNat data
    · cases hstart
  have hkeeps : ∀ state action next,
      (Sound contents state ∧ state.call writer = .wrote data offset (.ok count) ∧
        (state.call reader).Sees place offset.toNat data) → OwnRegion state action →
      machine.step state action = some next →
      Sound contents next ∧ next.call writer = .wrote data offset (.ok count) ∧
        (next.call reader).Sees place offset.toNat data := by
    rintro state action next ⟨hstate, hwrote, hreads⟩ hown hstep
    exact ⟨step_sound action hstate hown hstep, step_wrote action hwrote hstep,
      step_sees hplace (hlanded hstate hwrote) hreads hstep⟩
  have hbegun := hkeep middle _ started hmiddle hrest.1 hstart
  obtain ⟨-, -, hend⟩ := Machine.run_invariant hkeeps after started final
    ⟨hbegun, step_wrote (.readAt reader size place rc) hwriter hstart, hsees⟩
    (hrest.2 started hstart) hafter
  rw [hreader] at hend
  exact hend bytes rfl

/-- Two writers next to each other, the first served in two parts around the second, and a
read over both. -/
def interleavedWriters : List Action :=
  [.writeAt 0 [1, 2, 3] 2 0, .writeAt 1 [8, 9] 5 0, .serve 0 2, .serve 1 2, .complete 0 0,
    .complete 1 0, .serve 0 1, .complete 0 0, .readAt 2 16 1 0, .serve 2 6, .complete 2 0]

theorem own_regions_undisturbed_interleavedWriters :
    ∃ final, machine.run interleavedWriters (opened [7, 7, 7]) = some final ∧
      final.contents = [7, 7, 1, 2, 3, 8, 9] ∧ Has final.contents 2 [1, 2, 3] := by
  refine ⟨_, rfl, rfl, ((own_regions_undisturbed [7, 7, 7] interleavedWriters _ ?_ rfl).1 0
    [1, 2, 3] 2 3 rfl).2⟩
  refine Machine.meets_cons ⟨by decide, fun other place bytes htarget => by cases htarget⟩ rfl ?_
  refine Machine.meets_cons ⟨by decide, fun other place bytes htarget => ?_⟩ rfl ?_
  · change (Function.update (fun _ => Call.idle) 0 _ other).target = _ at htarget
    by_cases hother : other = 0
    · subst hother
      obtain ⟨rfl, rfl⟩ := Prod.mk.inj (Option.some.inj htarget)
      exact .inr (by decide)
    · rw [Function.update_of_ne hother] at htarget
      cases htarget
  · iterate 9 refine Machine.meets_cons trivial rfl ?_
    trivial

end Fiberuv.Io.SharedFile
