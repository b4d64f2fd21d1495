import Mathlib.Data.List.Pairwise
import Fiberuv.Io.Linearization

/-! # Transfers without `seek`

In a sequential execution without `seek` every transfer starts where the one before it
ended. The offset a call has loaded is the cursor until the call advances it, and the
cursor stays within the file, so that it never wraps and no write leaves a hole.
-/

namespace Fiberuv.Io.FileCursor

open Foundation

section Tiles

theorem Tiles.snoc {start stop : Nat} {spans : List (Nat × Nat)} (htiles : Tiles start spans stop)
    (length : Nat) : Tiles start (spans ++ [(stop, length)]) (stop + length) := by
  induction spans generalizing start with
  | nil =>
      obtain rfl : start = stop := htiles
      exact ⟨rfl, rfl⟩
  | cons span rest ih => exact ⟨htiles.1, ih htiles.2⟩

theorem Tiles.start_le {start stop : Nat} {spans : List (Nat × Nat)}
    (htiles : Tiles start spans stop) : ∀ span ∈ spans, start ≤ span.1 := by
  induction spans generalizing start with
  | nil => simp
  | cons span rest ih =>
      obtain ⟨rfl, hrest⟩ := htiles
      simp only [List.mem_cons, forall_eq_or_imp, Nat.le_refl, true_and]
      exact fun other hother => Nat.le_trans (Nat.le_add_right _ _) (ih hrest other hother)

theorem Tiles.ordered {start stop : Nat} {spans : List (Nat × Nat)}
    (htiles : Tiles start spans stop) :
    spans.Pairwise fun left right => left.1 + left.2 ≤ right.1 := by
  induction spans generalizing start with
  | nil => exact .nil
  | cons span rest ih =>
      obtain ⟨rfl, hrest⟩ := htiles
      exact .cons hrest.start_le (ih hrest)

/-- One of the two entries ends before the other one starts. -/
def Apart (left right : CallId × (Nat × Nat)) : Prop :=
  left.2.1 + left.2.2 ≤ right.2.1 ∨ right.2.1 + right.2.2 ≤ left.2.1

instance : Std.Symm Apart where
  symm _ _ := Or.symm

/-- Consecutive transfers have no byte in common. -/
theorem disjoint_of_tiles {state : State} {order : List (CallId × (Nat × Nat))}
    (hrecords : Records (fun id => (state.call id).span) order)
    (htiles : Tiles 0 (order.map Prod.snd) state.cursor) : Disjoint state := by
  intro first second left right hne hfirst hsecond
  have hapart : order.Pairwise Apart := (List.pairwise_map.mp htiles.ordered).imp Or.inl
  exact hapart.forall ((hrecords.2 first left).mpr hfirst) ((hrecords.2 second right).mpr hsecond)
    (by simp [hne])

end Tiles

section Overwrite

variable {contents bytes : Bytes} {place : Nat}

theorem overwrite_length (hplace : place ≤ contents.length) :
    (overwrite contents place bytes).length = max contents.length (place + bytes.length) := by
  simp only [overwrite, List.length_append, List.length_take, List.length_replicate,
    List.length_drop]
  omega

theorem overwrite_take (hplace : place ≤ contents.length) {stop : Nat} (hstop : stop ≤ place) :
    (overwrite contents place bytes).take stop = contents.take stop := by
  simp only [overwrite, List.append_assoc]
  rw [List.take_append_of_le_length (by simp; omega), List.take_take, Nat.min_eq_left hstop]

theorem overwrite_slice (hplace : place ≤ contents.length) :
    ((overwrite contents place bytes).drop place).take bytes.length = bytes := by
  have hzero : place - contents.length = 0 := by omega
  simp only [overwrite, hzero, List.replicate_zero, List.append_nil, List.append_assoc]
  rw [List.drop_append_of_le_length (by simp; omega), List.drop_take]
  simp

end Overwrite

/-- The file reaches over the bytes at this offset, and has them there unless it was
opened for appending. -/
def Holds (append : Bool) (contents : Bytes) (offset : Nat) (bytes : Bytes) : Prop :=
  offset + bytes.length ≤ contents.length ∧
    (append = false → (contents.drop offset).take bytes.length = bytes)

theorem Holds.overwrite {append : Bool} {contents data bytes : Bytes} {offset place : Nat}
    (hholds : Holds append contents offset data) (hbefore : offset + data.length ≤ place)
    (hplace : place ≤ contents.length) :
    Holds append (overwrite contents place bytes) offset data := by
  obtain ⟨hlength, hdata⟩ := hholds
  refine ⟨by rw [overwrite_length hplace]; omega, fun happend => ?_⟩
  rw [List.take_drop, overwrite_take hplace hbefore, ← List.take_drop]
  exact hdata happend

/-- Writing the next part of some data right after the part that is there. -/
theorem Holds.extend {append : Bool} {contents data more : Bytes} {offset place : Nat}
    (hholds : Holds append contents offset data) (hplace : place ≤ contents.length)
    (hafter : offset + data.length ≤ place)
    (hnext : append = false → place = offset + data.length) :
    Holds append (FileCursor.overwrite contents place more) offset (data ++ more) := by
  refine ⟨?_, fun happend => ?_⟩
  · rw [overwrite_length hplace, List.length_append]
    omega
  · have hkept : Holds append (FileCursor.overwrite contents place more) offset data :=
      hholds.overwrite hafter hplace
    have hsame := hkept.2 happend
    have hnew : ((FileCursor.overwrite contents place more).drop place).take more.length = more :=
      overwrite_slice hplace
    rw [hnext happend] at hsame hnew ⊢
    rw [List.length_append, List.take_add, hsame, List.drop_drop, hnew]

/-- How a call that loaded the cursor stands to it, and what a completed write has left
in the file. -/
def Call.Follows (append : Bool) (contents : Bytes) (cursor : Nat) : Call → Prop
  | .idle => True
  | .reading _ offset => offset = cursor
  | .read _ offset bytes => offset = cursor ∧ offset + bytes.length ≤ contents.length
  | .writing data offset written =>
      offset = cursor ∧ written ≤ data.length ∧ Holds append contents offset (data.take written)
  | .wrote data offset => offset = cursor ∧ Holds append contents offset data
  | .done _ (.wrote offset data) =>
      offset + data.length ≤ cursor ∧ Holds append contents offset data
  | .done _ _ => True

/-- What holds in a sequential execution without `seek`. -/
structure Tiled (append : Bool) (state : State) : Prop where
  fits : state.contents.length < 2 ^ 63
  inFile : state.cursor ≤ state.contents.length
  follows : ∀ id, (state.call id).Follows append state.contents state.cursor
  order : ∃ order, Records (fun id => (state.call id).span) order ∧
    Tiles 0 (order.map Prod.snd) state.cursor

/-- A call that is not in progress is not touched by the steps of another one. -/
theorem Call.Follows.frame {append : Bool} {contents after : Bytes} {cursor moved : Nat}
    {call : Call} (hfollows : call.Follows append contents cursor) (hbusy : call.busy = false)
    (hcursor : cursor ≤ moved)
    (hholds : ∀ offset data, offset + data.length ≤ cursor →
      Holds append contents offset data → Holds append after offset data) :
    call.Follows append after moved := by
  cases call with
  | idle => trivial
  | done op result =>
      cases result with
      | wrote offset data =>
          exact ⟨Nat.le_trans hfollows.1 hcursor, hholds offset data hfollows.1 hfollows.2⟩
      | _ => trivial
  | _ => simp [Call.busy] at hbusy

variable {file : File} {state next : State} {action : Action}

/-- The step of a call that leaves the cursor and the file as they are. -/
theorem Tiled.setCall {append : Bool} {position : Nat} (htiled : Tiled append state) {id : CallId}
    {call : Call} (hspan : call.span = (state.call id).span)
    (hcall : call.Follows append state.contents state.cursor) :
    Tiled append ({ state with position := position }.setCall id call) := by
  obtain ⟨order, hrecords, htiles⟩ := htiled.order
  refine ⟨htiled.fits, htiled.inFile, fun other => ?_, order, ?_, htiles⟩
  · by_cases hself : other = id
    · subst hself
      simpa [State.setCall] using hcall
    · simpa [State.setCall, hself] using htiled.follows other
  · refine hrecords.congr fun other => ?_
    by_cases hself : other = id
    · subst hself
      simp [State.setCall, hspan]
    · simp [State.setCall, hself]

theorem onFsWrite_span (data : Bytes) (offset written : Nat) :
    (State.onFsWrite data offset written).span = none := by
  rw [State.onFsWrite]
  split <;> rfl

/-- The call in progress writes the next part of its data. -/
theorem Tiled.transferOut {id : CallId} {data : Bytes} {offset written count target : Nat}
    (htiled : Tiled file.append state)
    (hsingle : ∀ other, other ≠ id → (state.call other).busy = false)
    (hcall : state.call id = .writing data offset written)
    (htarget : target = (offset + written) % 2 ^ 64) (hcount : count ≤ data.length - written)
    (hfits : state.writePlace file.append target + count < 2 ^ 63) :
    Tiled file.append ((state.write file.append target ((data.drop written).take count)).setCall id
      (State.onFsWrite data offset (written + count))) := by
  have hfollows := htiled.follows id
  rw [hcall] at hfollows
  obtain ⟨rfl, hwritten, hholds⟩ := hfollows
  have hlength : (data.take written).length = written := by simpa using hwritten
  have hbytes : ((data.drop written).take count).length = count := by simpa using hcount
  have hend := hholds.1
  rw [hlength] at hend
  have hfile := htiled.fits
  have hsmall : target = state.cursor + written := by
    rw [htarget, Nat.mod_eq_of_lt (by omega)]
  have hpositioned : positioned target = true := by
    simp only [positioned, decide_eq_true_eq]
    omega
  -- The request starts at the end of what has been written, or at the end of the file.
  have hplace : state.cursor + written ≤ state.writePlace file.append target ∧
      state.writePlace file.append target ≤ state.contents.length ∧
      (file.append = false → state.writePlace file.append target = state.cursor + written) := by
    cases happend : file.append <;> simp [State.writePlace, hpositioned] <;> omega
  obtain ⟨hafter, hinside, hnext⟩ := hplace
  have hkeep : ∀ start bytes, start + bytes.length ≤ state.cursor →
      Holds file.append state.contents start bytes →
      Holds file.append (overwrite state.contents (state.writePlace file.append target)
        ((data.drop written).take count)) start bytes :=
    fun start bytes hbefore hheld => hheld.overwrite (by omega) hinside
  have hown : Holds file.append (overwrite state.contents (state.writePlace file.append target)
      ((data.drop written).take count)) state.cursor (data.take (written + count)) := by
    rw [List.take_add]
    exact hholds.extend hinside (by omega) (by rw [hlength]; exact hnext)
  obtain ⟨order, hrecords, htiles⟩ := htiled.order
  refine ⟨?_, ?_, fun other => ?_, order, hrecords.congr fun other => ?_, htiles⟩
  · simp only [State.setCall, State.write]
    rw [overwrite_length hinside, hbytes]
    omega
  · simp only [State.setCall, State.write]
    rw [overwrite_length hinside]
    exact Nat.le_trans htiled.inFile (Nat.le_max_left _ _)
  · by_cases hself : other = id
    · subst hself
      simp only [State.setCall, Function.update_self, State.onFsWrite]
      split
      next hall =>
          rw [List.take_of_length_le hall] at hown
          exact ⟨rfl, hown⟩
      next hmore => exact ⟨rfl, by omega, hown⟩
    · simp only [State.setCall, Function.update_of_ne hself]
      exact (htiled.follows other).frame (hsingle other hself) (Nat.le_refl _) hkeep
  · by_cases hself : other = id
    · subst hself
      simp only [State.setCall, Function.update_self, hcall, onFsWrite_span]
      rfl
    · simp [State.setCall, hself, State.write]

/-- The call in progress advances the cursor over its transfer and returns. -/
theorem Tiled.advance {append : Bool} {id : CallId} {call : Call} {length : Nat}
    (htiled : Tiled append state)
    (hsingle : ∀ other, other ≠ id → (state.call other).busy = false)
    (hbefore : (state.call id).span = none) (hspan : call.span = some (state.cursor, length))
    (hlength : state.cursor + length ≤ state.contents.length)
    (hcall : call.Follows append state.contents (state.cursor + length)) :
    Tiled append ((state.addCursor length).setCall id call) := by
  have hfile := htiled.fits
  have hcursor : state.addCursor length = { state with cursor := state.cursor + length } := by
    rw [State.addCursor, Nat.mod_eq_of_lt (by omega)]
  rw [hcursor]
  obtain ⟨order, hrecords, htiles⟩ := htiled.order
  refine ⟨htiled.fits, hlength, fun other => ?_, order ++ [(id, (state.cursor, length))], ?_, ?_⟩
  · by_cases hself : other = id
    · subst hself
      simpa [State.setCall] using hcall
    · simp only [State.setCall, Function.update_of_ne hself]
      exact (htiled.follows other).frame (hsingle other hself) (Nat.le_add_right _ _)
        (fun _ _ _ hheld => hheld)
  · refine hrecords.snoc hbefore ?_ fun other hother => ?_
    · simp [State.setCall, hspan]
    · simp [State.setCall, hother]
  · simpa [State.setCall] using htiles.snoc length

theorem tiled_initial (file : File) : Tiled file.append (initial file) :=
  ⟨file.fits, Nat.zero_le _, fun _ => trivial, [], records_nil, rfl⟩

/-- Results are not taken back, so a history without `seek` had none before. -/
theorem SeekFree.before (hstep : (machine file).step state action = some next)
    (hseekFree : SeekFree next) : SeekFree state := by
  intro id offset hcall
  by_cases hid : id = action.id
  · subst hid
    cases step_effect hstep <;> simp_all [Action.id]
  · exact hseekFree id offset ((step_other hstep hid).trans hcall)

theorem step_tiled (hserial : Serial file state) (hseekFree : SeekFree next)
    (hstep : (machine file).step state action = some next) (htiled : Tiled file.append state) :
    Tiled file.append next := by
  -- The call whose step this is, if it is in progress, is the only one in progress.
  have hsingle : (state.call action.id).busy = true →
      ∀ other, other ≠ action.id → (state.call other).busy = false := by
    intro hbusy other hother
    by_contra hcontra
    exact hother (hserial.single (by simpa using hcontra) hbusy)
  have hloaded := htiled.follows action.id
  have hfile := htiled.fits
  cases step_effect hstep with
  | readSome hcall => exact htiled.setCall (by simp [hcall, Call.span]) rfl
  | writeNothing hcall =>
      refine htiled.setCall (by simp [hcall, Call.span]) ⟨rfl, ?_⟩
      exact ⟨by simpa using htiled.inFile, by simp⟩
  | writeSome hcall hdata =>
      refine htiled.setCall (by simp [hcall, Call.span]) ⟨rfl, Nat.zero_le _, ?_⟩
      exact ⟨by simpa using htiled.inFile, by simp⟩
  | seek hcall =>
      rename_i id offset
      exact absurd (Function.update_self ..) (hseekFree id offset)
  | tell hcall => exact htiled.setCall (by simp [hcall, Call.span]) trivial
  | transferIn hcall hcount =>
      rename_i id count size offset position
      simp only [Action.id, hcall] at hloaded
      obtain rfl : offset = state.cursor := hloaded
      have hinFile := htiled.inFile
      have hpositioned : positioned state.cursor = true := by
        simp only [positioned, decide_eq_true_eq]
        omega
      have hplace : state.readPlace state.cursor = state.cursor := if_pos hpositioned
      refine htiled.setCall (by simp [hcall, Call.span]) ⟨rfl, ?_⟩
      rw [hplace] at hcount ⊢
      simp only [List.length_take, List.length_drop]
      omega
  | transferOut hcall htarget hcount hfits =>
      exact htiled.transferOut (hsingle (by simp [Action.id, hcall, Call.busy])) hcall htarget
        hcount
        hfits
  | failRead hcall => exact htiled.setCall (by simp [hcall, Call.span]) trivial
  | failWrite hcall => exact htiled.setCall (by simp [hcall, Call.span]) trivial
  | advanceRead hcall =>
      simp only [Action.id, hcall] at hloaded
      obtain ⟨rfl, hlength⟩ := hloaded
      exact htiled.advance (hsingle (by simp [Action.id, hcall, Call.busy]))
        (by simp [hcall, Call.span]) rfl hlength trivial
  | advanceWrite hcall =>
      simp only [Action.id, hcall] at hloaded
      obtain ⟨rfl, hholds⟩ := hloaded
      exact htiled.advance (hsingle (by simp [Action.id, hcall, Call.busy]))
        (by simp [hcall, Call.span]) rfl hholds.1 ⟨Nat.le_refl _, hholds⟩

theorem Serial.tiled (hserial : Serial file state) (hseekFree : SeekFree state) :
    Tiled file.append state := by
  induction hserial with
  | refl => exact tiled_initial file
  | snoc hbefore _ hstep ih =>
      exact step_tiled hbefore hseekFree hstep (ih (hseekFree.before hstep))

/-- In every run in which no call loads or sets the cursor while another one is between
its load and its advance, the results, the content of the file and the cursor are those
of a sequential execution; and without `seek` the completed transfers are disjoint and
follow one another, and no completed write is overwritten. -/
theorem consistent_of_undisturbed (file : File) (run : List Action) (state : State)
    (hmeets : (machine file).Meets Undisturbed run (initial file))
    (hrun : (machine file).run run (initial file) = some state) : Consistent file state := by
  have hserial : Serial file state :=
    serial_of_undisturbed (Machine.reaches_of_run .refl hmeets hrun)
  refine ⟨hserial.exists_run, fun hseekFree => ?_⟩
  have htiled := hserial.tiled hseekFree
  obtain ⟨order, hrecords, htiles⟩ := htiled.order
  refine ⟨disjoint_of_tiles hrecords htiles, ⟨⟨order, hrecords, htiles⟩, htiled.inFile⟩, ?_⟩
  intro happend id op offset data hcall
  have hfollows := htiled.follows id
  rw [hcall] at hfollows
  exact hfollows.2.2 happend

/-- Two reads one after the other, with a `tell` during the first. -/
def undisturbed : List Action :=
  [.readSome 0 4, .tell 1, .transferIn 0 4, .advance 0, .readSome 2 4, .transferIn 2 3, .advance 2]

theorem consistent_undisturbed :
    ∃ state, (machine eightBytes).run undisturbed (initial eightBytes) = some state ∧
      state.call 2 = .done (.readSome 4) (.read 4 [101, 102, 103]) ∧
      Consistent eightBytes state := by
  refine ⟨_, rfl, rfl, consistent_of_undisturbed eightBytes undisturbed _ ?_ rfl⟩
  refine Machine.meets_cons (fun _ => rfl) rfl (Machine.meets_cons trivial rfl
    (Machine.meets_cons trivial rfl (Machine.meets_cons trivial rfl (Machine.meets_cons ?_ rfl
      (Machine.meets_cons trivial rfl (Machine.meets_cons trivial rfl trivial))))))
  rintro (_ | _ | id) <;> rfl

end Fiberuv.Io.FileCursor
