import Fiberuv.Io.FileCursor

/-! # When the cursor operations are linearizable

If no call loads or sets the cursor while another one is between its load and its
advance, the calls that load it are already one after another. A `tell` in between
reads the cursor the loading call has read, so it can be moved before that call: it
commutes with all its steps but the last. The run with every `tell` moved so is a
sequential execution that ends in the same state.
-/

namespace Fiberuv.Io.FileCursor

open Foundation

/-- No cursor is loaded or set while another call has loaded it and not yet returned. -/
def Undisturbed (state : State) : Action → Prop
  | .readSome _ _ => Quiet state
  | .writeSome _ _ => Quiet state
  | .seek _ _ => Quiet state
  | _ => True

/-- The call an action is a step of. -/
def Action.id : Action → CallId
  | .readSome id _ => id
  | .writeSome id _ => id
  | .seek id _ => id
  | .tell id => id
  | .transferIn id _ => id
  | .transferOut id _ => id
  | .fail id _ => id
  | .advance id => id

/-- Everything a step can do. -/
inductive Effect (append : Bool) (state : State) : Action → State → Prop where
  | readSome {id : CallId} {size : Nat} (hcall : state.call id = .idle) :
      Effect append state (.readSome id size) (state.setCall id (.reading size state.cursor))
  | writeNothing {id : CallId} (hcall : state.call id = .idle) :
      Effect append state (.writeSome id []) (state.setCall id (.wrote [] state.cursor))
  | writeSome {id : CallId} {data : Bytes} (hcall : state.call id = .idle) (hdata : data ≠ []) :
      Effect append state (.writeSome id data) (state.setCall id (.writing data state.cursor 0))
  | seek {id : CallId} {offset : Nat} (hcall : state.call id = .idle) :
      Effect append state (.seek id offset)
        ({ state with cursor := offset }.setCall id (.done (.seek offset) .sought))
  | tell {id : CallId} (hcall : state.call id = .idle) :
      Effect append state (.tell id) (state.setCall id (.done .tell (.told state.cursor)))
  | transferIn {id : CallId} {count size offset position : Nat}
      (hcall : state.call id = .reading size offset)
      (hcount : count ≤ state.contents.length - state.readPlace offset) :
      Effect append state (.transferIn id count)
        ({ state with position := position }.setCall id
          (.read size offset ((state.contents.drop (state.readPlace offset)).take count)))
  | transferOut {id : CallId} {data : Bytes} {count offset written target : Nat}
      (hcall : state.call id = .writing data offset written)
      (htarget : target = (offset + written) % 2 ^ 64) (hcount : count ≤ data.length - written)
      (hfits : state.writePlace append target + count < 2 ^ 63) :
      Effect append state (.transferOut id count)
        ((state.write append target ((data.drop written).take count)).setCall id
          (State.onFsWrite data offset (written + count)))
  | failRead {id : CallId} {size offset : Nat} {error : Error}
      (hcall : state.call id = .reading size offset) :
      Effect append state (.fail id error)
        (state.setCall id (.done (.readSome size) (.threw error)))
  | failWrite {id : CallId} {data : Bytes} {offset written : Nat} {error : Error}
      (hcall : state.call id = .writing data offset written) :
      Effect append state (.fail id error)
        (state.setCall id (.done (.writeSome data) (.threw error)))
  | advanceRead {id : CallId} {size offset : Nat} {bytes : Bytes}
      (hcall : state.call id = .read size offset bytes) :
      Effect append state (.advance id) ((state.addCursor bytes.length).setCall id
        (.done (.readSome size) (.read offset bytes)))
  | advanceWrite {id : CallId} {offset : Nat} {data : Bytes}
      (hcall : state.call id = .wrote data offset) :
      Effect append state (.advance id) ((state.addCursor data.length).setCall id
        (.done (.writeSome data) (.wrote offset data)))

variable {file : File} {state next : State} {action : Action}

theorem step_effect (hstep : (machine file).step state action = some next) :
    Effect file.append state action next := by
  cases action with
  | readSome id size =>
      simp only [machine, State.step] at hstep
      split at hstep
      next hcall =>
          obtain rfl := Option.some.inj hstep
          exact .readSome hcall
      next => exact absurd hstep (by simp)
  | writeSome id data =>
      simp only [machine, State.step] at hstep
      split at hstep
      next hcall =>
          split at hstep
          next hdata =>
              subst hdata
              obtain rfl := Option.some.inj hstep
              exact .writeNothing hcall
          next hdata =>
              obtain rfl := Option.some.inj hstep
              exact .writeSome hcall hdata
      next => exact absurd hstep (by simp)
  | seek id offset =>
      simp only [machine, State.step] at hstep
      split at hstep
      next hcall =>
          split at hstep
          next =>
              obtain rfl := Option.some.inj hstep
              exact .seek hcall
          next => exact absurd hstep (by simp)
      next => exact absurd hstep (by simp)
  | tell id =>
      simp only [machine, State.step] at hstep
      split at hstep
      next hcall =>
          obtain rfl := Option.some.inj hstep
          exact .tell hcall
      next => exact absurd hstep (by simp)
  | transferIn id count =>
      simp only [machine, State.step] at hstep
      split at hstep
      next size offset hcall =>
          simp only [State.transferIn] at hstep
          split at hstep
          next hguard =>
              obtain rfl := Option.some.inj hstep
              exact .transferIn hcall hguard.2
          next => exact absurd hstep (by simp)
      next => exact absurd hstep (by simp)
  | transferOut id count =>
      simp only [machine, State.step] at hstep
      split at hstep
      next data offset written hcall =>
          simp only [State.transferOut] at hstep
          split at hstep
          next hguard =>
              obtain rfl := Option.some.inj hstep
              exact .transferOut hcall rfl (Nat.le_trans hguard.1 (Nat.mod_le _ _)) hguard.2
          next => exact absurd hstep (by simp)
      next => exact absurd hstep (by simp)
  | fail id error =>
      simp only [machine, State.step] at hstep
      split at hstep
      next size offset hcall =>
          obtain rfl := Option.some.inj hstep
          exact .failRead hcall
      next data offset written hcall =>
          obtain rfl := Option.some.inj hstep
          exact .failWrite hcall
      next => exact absurd hstep (by simp)
  | advance id =>
      simp only [machine, State.step] at hstep
      split at hstep
      next size offset bytes hcall =>
          obtain rfl := Option.some.inj hstep
          exact .advanceRead hcall
      next data offset hcall =>
          obtain rfl := Option.some.inj hstep
          exact .advanceWrite hcall
      next => exact absurd hstep (by simp)

section Serial

/-- The actions that load the cursor. -/
def Action.loads : Action → Bool
  | .readSome _ _ => true
  | .writeSome _ _ => true
  | _ => false

/-- A step changes no call but its own. -/
theorem step_other (hstep : (machine file).step state action = some next) {id : CallId}
    (hid : id ≠ action.id) : next.call id = state.call id := by
  cases step_effect hstep <;> exact Function.update_of_ne hid _ _

/-- A call is busy only from its load on. -/
theorem step_busy (hstep : (machine file).step state action = some next) {id : CallId}
    (hbusy : (next.call id).busy = true) :
    (state.call id).busy = true ∨ id = action.id ∧ action.loads = true := by
  by_cases hid : id = action.id
  · subst hid
    cases step_effect hstep with
    | readSome hcall => exact .inr ⟨rfl, rfl⟩
    | writeNothing hcall => exact .inr ⟨rfl, rfl⟩
    | writeSome hcall hdata => exact .inr ⟨rfl, rfl⟩
    | seek hcall => simp [State.setCall, Action.id, Call.busy] at hbusy
    | tell hcall => simp [State.setCall, Action.id, Call.busy] at hbusy
    | transferIn hcall hcount => exact .inl (by simp [Action.id, hcall, Call.busy])
    | transferOut hcall htarget hcount hfits =>
        exact .inl (by simp [Action.id, hcall, Call.busy])
    | failRead hcall => simp [State.setCall, Action.id, Call.busy] at hbusy
    | failWrite hcall => simp [State.setCall, Action.id, Call.busy] at hbusy
    | advanceRead hcall => simp [State.setCall, Action.id, Call.busy] at hbusy
    | advanceWrite hcall => simp [State.setCall, Action.id, Call.busy] at hbusy
  · exact .inl (step_other hstep hid ▸ hbusy)

/-- The states of sequential executions. -/
def Serial (file : File) (state : State) : Prop :=
  (machine file).Reaches Alone (initial file) state

/-- A sequential execution has at most one call in progress. -/
theorem Serial.single (hserial : Serial file state) {first second : CallId}
    (hfirst : (state.call first).busy = true) (hsecond : (state.call second).busy = true) :
    first = second := by
  induction hserial with
  | refl => simp [initial, Call.busy] at hfirst
  | snoc _ halone hstep ih =>
      rename_i before after action _
      have hquiet : action.loads = true → Quiet before := by
        cases action <;> simp_all [Alone, Action.loads]
      have hold : ∀ {id : CallId}, (after.call id).busy = true →
          action.loads = true → id = action.id := by
        intro id hbusy hloads
        obtain hbefore | ⟨hid, -⟩ := step_busy hstep hbusy
        · simp [hquiet hloads id] at hbefore
        · exact hid
      cases hloads : action.loads with
      | true => exact (hold hfirst hloads).trans (hold hsecond hloads).symm
      | false =>
          have hkeep : ∀ {id : CallId}, (after.call id).busy = true →
              (before.call id).busy = true := by
            intro id hbusy
            obtain hbefore | ⟨-, hcontra⟩ := step_busy hstep hbusy
            · exact hbefore
            · simp [hloads] at hcontra
          exact ih (hkeep hfirst) (hkeep hsecond)

/-- A step neither looks at the other calls nor changes them. -/
theorem step_frame {id : CallId} (hid : action.id ≠ id) (call : Call) :
    (machine file).step (state.setCall id call) action =
      ((machine file).step state action).map (State.setCall · id call) := by
  have hsame : (state.setCall id call).call action.id = state.call action.id :=
    Function.update_of_ne hid _ _
  have hcomm : ∀ (other : State) (own : Call),
      (other.setCall id call).setCall action.id own =
        (other.setCall action.id own).setCall id call := by
    intro other own
    simp only [State.setCall]
    rw [Function.update_comm hid]
  -- A step tests only the call it belongs to (`hsame`) and then stores it (`hcomm`).
  cases action with
  | readSome mover size =>
      simp only [machine, State.step, Action.id] at *
      rw [hsame]
      split
      next => exact congrArg some (hcomm _ _)
      next => rfl
  | writeSome mover data =>
      simp only [machine, State.step, Action.id] at *
      rw [hsame]
      split
      next =>
          split
          next => exact congrArg some (hcomm _ _)
          next => exact congrArg some (hcomm _ _)
      next => rfl
  | seek mover offset =>
      simp only [machine, State.step, Action.id] at *
      rw [hsame]
      split
      next =>
          split
          next => exact congrArg some (hcomm { state with cursor := offset } _)
          next => rfl
      next => rfl
  | tell mover =>
      simp only [machine, State.step, Action.id] at *
      rw [hsame]
      split
      next => exact congrArg some (hcomm _ _)
      next => rfl
  | transferIn mover count =>
      simp only [machine, State.step, Action.id] at *
      rw [hsame]
      split
      next size offset hcall =>
          simp only [State.transferIn]
          split
          next hguard =>
              rw [if_pos (by exact hguard)]
              exact congrArg some (hcomm { state with
                position := state.positionAfter offset (state.readPlace offset + count) } _)
          next hguard =>
              rw [if_neg (by exact hguard)]
              rfl
      next => rfl
  | transferOut mover count =>
      simp only [machine, State.step, Action.id] at *
      rw [hsame]
      split
      next data offset written hcall =>
          simp only [State.transferOut]
          split
          next hguard =>
              rw [if_pos (by exact hguard)]
              exact congrArg some (hcomm (state.write file.append ((offset + written) % 2 ^ 64)
                ((data.drop written).take count)) _)
          next hguard =>
              rw [if_neg (by exact hguard)]
              rfl
      next => rfl
  | fail mover error =>
      simp only [machine, State.step, Action.id] at *
      rw [hsame]
      split
      next => exact congrArg some (hcomm _ _)
      next => exact congrArg some (hcomm _ _)
      next => rfl
  | advance mover =>
      simp only [machine, State.step, Action.id] at *
      rw [hsame]
      split
      next size offset bytes hcall =>
          exact congrArg some (hcomm (state.addCursor bytes.length) _)
      next data offset hcall =>
          exact congrArg some (hcomm (state.addCursor data.length) _)
      next => rfl

/-- The state after this call has been a `tell`. -/
def State.told (state : State) (id : CallId) : State :=
  state.setCall id (.done .tell (.told state.cursor))

theorem step_tell {id : CallId} (hidle : state.call id = .idle) :
    (machine file).step state (.tell id) = some (state.told id) := by
  simp [machine, State.step, hidle, State.told]

/-- In a sequential execution that is inside a call, the last step has left the cursor
alone. -/
theorem Serial.cursor_of_busy (hserial : Serial file state) (halone : Alone state action)
    (hstep : (machine file).step state action = some next) {busy : CallId}
    (hbusy : (next.call busy).busy = true) : next.cursor = state.cursor := by
  -- A call that ends is not the one still in progress, and there is only one in progress.
  have hended : (next.call action.id).busy = false → (state.call action.id).busy = true →
      next.cursor = state.cursor := by
    intro hafter hbefore
    have hne : busy ≠ action.id := by
      rintro rfl
      simp [hafter] at hbusy
    have hsame := step_other hstep hne
    rw [hsame] at hbusy
    exact absurd (hserial.single hbusy hbefore) hne
  cases step_effect hstep with
  | readSome hcall => rfl
  | writeNothing hcall => rfl
  | writeSome hcall hdata => rfl
  | seek hcall =>
      have hquiet : Quiet state := halone
      obtain hbefore | ⟨-, hcontra⟩ := step_busy hstep hbusy
      · simp [hquiet busy] at hbefore
      · simp [Action.loads] at hcontra
  | tell hcall => rfl
  | transferIn hcall hcount => rfl
  | transferOut hcall htarget hcount hfits => rfl
  | failRead hcall => rfl
  | failWrite hcall => rfl
  | advanceRead hcall =>
      exact hended (by simp [Action.id, State.setCall, Call.busy])
        (by simp [Action.id, hcall, Call.busy])
  | advanceWrite hcall =>
      exact hended (by simp [Action.id, State.setCall, Call.busy])
        (by simp [Action.id, hcall, Call.busy])

/-- No call is idle after a step of its own. -/
theorem step_own (hstep : (machine file).step state action = some next) :
    next.call action.id ≠ .idle := by
  cases step_effect hstep with
  | transferOut hcall htarget hcount hfits =>
      simp only [Action.id, State.setCall, Function.update_self, State.onFsWrite]
      split <;> simp
  | _ => simp [Action.id, State.setCall]

theorem Serial.tell (hserial : Serial file state) (hquiet : Quiet state) {id : CallId}
    (hidle : state.call id = .idle) : Serial file (state.told id) := by
  have halone : Alone state (.tell id) := hquiet
  exact hserial.snoc halone (step_tell hidle)

theorem Quiet.setDone (hquiet : Quiet state) (id : CallId) (op : Op) (result : Result) :
    Quiet (state.setCall id (.done op result)) := by
  intro other
  by_cases hself : other = id
  · subst hself
    simp [State.setCall, Call.busy]
  · simpa [State.setCall, hself] using hquiet other

theorem Alone.setDone (halone : Alone state action) (id : CallId) (op : Op) (result : Result) :
    Alone (state.setCall id (.done op result)) action := by
  cases action with
  | readSome _ _ => exact Quiet.setDone halone id op result
  | writeSome _ _ => exact Quiet.setDone halone id op result
  | seek _ _ => exact Quiet.setDone halone id op result
  | tell _ => exact Quiet.setDone halone id op result
  | _ => trivial

/-- A `tell` at any point of a sequential execution can be made before the call that is
in progress. -/
theorem Serial.told (hserial : Serial file state) {id : CallId}
    (hidle : state.call id = .idle) : Serial file (state.told id) := by
  induction hserial with
  | refl => exact Serial.tell .refl (fun _ => rfl) hidle
  | snoc hbefore halone hstep ih =>
      rename_i before after action
      by_cases hquiet : Quiet after
      · exact Serial.tell (.snoc hbefore halone hstep) hquiet hidle
      · obtain ⟨busy, hbusy⟩ : ∃ busy, (after.call busy).busy = true := by
          simpa [Quiet] using hquiet
        have hid : action.id ≠ id := by
          rintro rfl
          exact step_own hstep hidle
        have hcursor := Serial.cursor_of_busy hbefore halone hstep hbusy
        have hframe : (machine file).step (before.told id) action =
            ((machine file).step before action).map
              (State.setCall · id (.done .tell (.told before.cursor))) :=
          step_frame hid _
        rw [hstep] at hframe
        have htold : after.told id = after.setCall id (.done .tell (.told before.cursor)) := by
          rw [State.told, hcursor]
        rw [htold]
        have hidleBefore : before.call id = .idle :=
          (step_other hstep (Ne.symm hid)).symm.trans hidle
        exact .snoc (ih hidleBefore) (halone.setDone id _ _) hframe

theorem Undisturbed.alone (hallowed : Undisturbed state action)
    (htell : ∀ id, action ≠ .tell id) : Alone state action := by
  cases action with
  | tell id => exact absurd rfl (htell id)
  | _ => exact hallowed

/-- Every undisturbed run can be reordered into a sequential execution. -/
theorem serial_of_undisturbed
    (hreaches : (machine file).Reaches Undisturbed (initial file) state) :
    Serial file state := by
  induction hreaches with
  | refl => exact .refl
  | snoc _ hallowed hstep ih =>
      rename_i before after action _
      by_cases htell : ∃ id, action = .tell id
      · obtain ⟨id, rfl⟩ := htell
        cases step_effect hstep with
        | tell hcall => exact ih.told hcall
      · exact ih.snoc (hallowed.alone fun id heq => htell ⟨id, heq⟩) hstep

end Serial

end Fiberuv.Io.FileCursor
