import Fiberuv.Foundation.Records
import Fiberuv.Ipc.Pair

/-! # Several senders on one process channel

Any number of fibers call `send` or `send_stream` on one channel. Each call submits
its write requests one after another and is suspended during each of them, and nothing
in the channel keeps the requests of different calls apart. A step is one request that
has written at least one byte, or one that was interrupted.
-/

namespace Fiberuv.Ipc.ConcurrentSend

open Foundation

abbrev CallId := Nat

inductive Call where
  | idle
  | sending (sending : Sending)
  | returned (payload : Payload) (result : Except Error Bool)

/-- The payload of a call that returned true. -/
def Call.accepted : Call → Option Payload
  | .returned payload (.ok true) => some payload
  | _ => none

structure State where
  call : CallId → Call := fun _ => .idle
  /-- Everything written to `write_fd_`. -/
  written : Bytes := []

inductive Action where
  | start (id : CallId) (payload : Payload)
  | wrote (id : CallId) (count : Nat)
  | retry (id : CallId) (code : Int)

namespace State

def settle (state : State) (id : CallId) (payload : Payload) : SendState → State
  | .writing part offset =>
      { state with call := Function.update state.call id (.sending ⟨payload, part, offset⟩) }
  | .finished result =>
      { state with call := Function.update state.call id (.returned payload result) }

def wrote (state : State) (id : CallId) (sending : Sending) (count : Nat) : State :=
  { state with written := state.written ++ sending.offered.take count }.settle id sending.payload
    (sendBlobNext sending.payload sending.part sending.offset (.result count))

def step (state : State) : Action → Option State
  | .start id payload =>
      match state.call id with
      | .idle => some (state.settle id payload (sendBlob true payload))
      | _ => none
  | .wrote id count =>
      match state.call id with
      | .sending sending =>
          if 0 < count ∧ count ≤ sending.offered.length then some (state.wrote id sending count)
          else none
      | _ => none
  | .retry id code =>
      match state.call id with
      | .sending sending =>
          if Retry code then
            some (state.settle id sending.payload
              (sendBlobNext sending.payload sending.part sending.offset (.result code)))
          else none
      | _ => none

end State

def machine : Machine State Action where
  step := State.step

def initial : State := {}

/-- No call is in progress. -/
def Quiet (state : State) : Prop :=
  ∀ id sending, state.call id ≠ .sending sending

/-- The calls that returned true, each once, in some order. -/
def Framed (state : State) (order : List (CallId × Payload)) : Prop :=
  Records (fun id => (state.call id).accepted) order

/-- What has been written is the frames of the calls that returned true, each once. -/
def Atomic (state : State) : Prop :=
  ∃ order, Framed state order ∧ state.written = stream (order.map Prod.snd)

/-- Two calls, whose length fields are written before either payload. -/
def interleaved : List Action :=
  [.start 0 ⟨[10], by decide⟩, .start 1 ⟨[20], by decide⟩, .wrote 0 8, .wrote 1 8,
    .wrote 0 1, .wrote 1 1]

theorem mixed_interleaved :
    ¬ ∀ state, machine.Reachable initial state → Quiet state → Atomic state := by
  intro hall
  obtain ⟨order, ⟨-, hmem⟩, hwritten⟩ := hall _ ⟨interleaved, rfl⟩ (by
    rintro (_ | _ | id) sending <;> exact nofun)
  -- The first payload has one byte, and that byte begins the length field of the other call.
  have hstream : stream (order.map Prod.snd) = leEncode 8 1 ++ (leEncode 8 1 ++ [10, 20]) :=
    hwritten.symm
  obtain ⟨payload, rest, horder, -, hlength, hsuffix⟩ := stream_length_field hstream rfl
  obtain ⟨⟨id, other⟩, tail, rfl, rfl, rfl⟩ := List.map_eq_cons_iff.mp horder
  have hone : other.bytes.length = 1 := hlength.symm
  obtain ⟨byte, hbyte⟩ := List.length_eq_one_iff.mp hone
  rw [hbyte] at hsuffix
  have hfirst : byte = 1 := (List.cons.inj hsuffix).1.symm
  have hcall := (hmem id other).mp (by simp)
  rcases id with _ | _ | id
  · obtain rfl := Option.some.inj hcall
    simp [hfirst] at hbyte
  · obtain rfl := Option.some.inj hcall
    simp [hfirst] at hbyte
  · exact nomatch hcall

/-- Nothing of the frame has been written. -/
def Untouched (sending : Sending) : Prop :=
  sending.state = .writing .length 0

/-- A write request is carried out only when no other call has written part of its
frame and not all of it. -/
def Exclusive (state : State) : Action → Prop
  | .wrote id _ => ∀ other sending, other ≠ id → state.call other = .sending sending →
      Untouched sending
  | _ => True

theorem Untouched.unsent {sending : Sending} (huntouched : Untouched sending) :
    sending.state.unsent sending.payload = frame 8 sending.payload.bytes := by
  rw [huntouched]
  rfl

/-- A call that has written is no longer at the start of its frame. -/
theorem touched_of_wrote {sending : Sending} {count : Nat} {part : Part} {offset : Nat}
    (hpos : 0 < count) (hoffered : count ≤ sending.offered.length)
    (hnext : sendBlobNext sending.payload sending.part sending.offset (.result count) =
      .writing part offset) : ¬ Untouched ⟨sending.payload, part, offset⟩ := by
  intro huntouched
  have hunsent := (sending.wrote hpos hoffered).1
  rw [hnext] at hunsent
  have hlength := congrArg List.length hunsent
  have hfull := congrArg List.length huntouched.unsent
  simp only [Sending.state, List.length_append, List.length_take] at hlength hfull
  have hbound : ((SendState.writing sending.part sending.offset).unsent sending.payload).length ≤
      (frame 8 sending.payload.bytes).length := by
    cases sending.part with
    | length => simp [SendState.unsent, frame]
    | payload =>
        simp [SendState.unsent, frame]
        omega
  omega

/-- The bytes written are the frames of the calls that returned true, followed by the
written part of a frame that is alone in being incomplete. -/
structure Whole (order : List (CallId × Payload)) (state : State) : Prop where
  framed : Framed state order
  healthy : ∀ id sending, state.call id = .sending sending →
    sending.state.Healthy sending.payload
  between : (∀ id sending, state.call id = .sending sending → Untouched sending) →
    state.written = stream (order.map Prod.snd)
  within : ∀ id sending, state.call id = .sending sending →
    (∀ other sending, other ≠ id → state.call other = .sending sending → Untouched sending) →
    state.written ++ sending.state.unsent sending.payload =
      stream (order.map Prod.snd) ++ frame 8 sending.payload.bytes

theorem whole_initial : Whole [] initial where
  framed := records_nil
  healthy := by simp [initial]
  between := by simp [initial]
  within := by simp [initial]

variable {order : List (CallId × Payload)} {state next : State}

/-- A call that goes on keeps the order of those that have returned. -/
theorem Framed.update (hframed : Framed state order) {id : CallId} {call : Call} {written : Bytes}
    (hbefore : (state.call id).accepted = none) (hafter : call.accepted = none) :
    Framed ⟨Function.update state.call id call, written⟩ order := by
  refine Records.congr hframed fun other => ?_
  by_cases hself : other = id
  · subst hself
    simp [hbefore, hafter]
  · simp [hself]

theorem Framed.finish (hframed : Framed state order) {id : CallId} {payload : Payload}
    {written : Bytes} (hbefore : (state.call id).accepted = none) :
    Framed ⟨Function.update state.call id (.returned payload (.ok true)), written⟩
      (order ++ [(id, payload)]) := by
  refine Records.snoc hframed hbefore ?_ fun other hother => ?_
  · simp [Call.accepted]
  · simp [hother]

theorem Whole.start (hwhole : Whole order state) {id : CallId} {payload : Payload}
    (hidle : state.call id = .idle) :
    Whole order (state.settle id payload (sendBlob true payload)) := by
  rw [sendBlob_valid]
  have hkeep : ∀ {other sending}, state.call other = .sending sending → other ≠ id := by
    rintro other sending hcall rfl
    simp [hidle] at hcall
  have hold : ∀ {other sending}, state.call other = .sending sending →
      (state.settle id payload (.writing .length 0)).call other = .sending sending := by
    intro other sending hcall
    simpa [State.settle, hkeep hcall] using hcall
  have hnew : (state.settle id payload (.writing .length 0)).call id =
      .sending ⟨payload, .length, 0⟩ := by
    simp [State.settle]
  refine ⟨hwhole.framed.update (by simp [hidle, Call.accepted]) rfl, ?_, ?_, ?_⟩
  · intro other sending hcall
    by_cases hself : other = id
    · subst hself
      obtain rfl := Call.sending.inj (hnew.symm.trans hcall)
      simp [Sending.state, SendState.Healthy, Payload.part]
    · exact hwhole.healthy other sending (by simpa [State.settle, hself] using hcall)
  · intro huntouched
    exact hwhole.between fun other sending hcall => huntouched other sending (hold hcall)
  · intro other sending hcall hothers
    by_cases hself : other = id
    · subst hself
      obtain rfl := Call.sending.inj (hnew.symm.trans hcall)
      -- All other calls are at the start of their frames, so whole frames have been written.
      have hwritten := hwhole.between fun another sending hcall =>
        hothers another sending (hkeep hcall) (hold hcall)
      have huntouched : Untouched ⟨payload, .length, 0⟩ := rfl
      rw [huntouched.unsent, ← hwritten]
      rfl
    · refine hwhole.within other sending (by simpa [State.settle, hself] using hcall) ?_
      exact fun another sending hne hcall => hothers another sending hne (hold hcall)

/-- A call that writes and has more to write is the only one inside its frame. -/
theorem Whole.wroteSome (hwhole : Whole order state) {id : CallId} {payload : Payload} {part : Part}
    {offset : Nat} {written : Bytes} (hid : (state.call id).accepted = none)
    (hhealthy : (SendState.writing part offset).Healthy payload)
    (htouched : ¬ Untouched ⟨payload, part, offset⟩)
    (hwritten : written ++ (SendState.writing part offset).unsent payload =
      stream (order.map Prod.snd) ++ frame 8 payload.bytes) :
    Whole order ({ state with written := written }.settle id payload (.writing part offset)) := by
  have hnew : ({ state with written := written }.settle id payload (.writing part offset)).call
      id = .sending ⟨payload, part, offset⟩ := by
    simp [State.settle]
  refine ⟨hwhole.framed.update hid rfl, ?_, ?_, ?_⟩
  · intro other sending hcall
    by_cases hself : other = id
    · subst hself
      obtain rfl := Call.sending.inj (hnew.symm.trans hcall)
      exact hhealthy
    · exact hwhole.healthy other sending (by simpa [State.settle, hself] using hcall)
  · exact fun huntouched => absurd (huntouched _ _ hnew) htouched
  · intro other sending hcall hothers
    by_cases hself : other = id
    · subst hself
      obtain rfl := Call.sending.inj (hnew.symm.trans hcall)
      exact hwritten
    -- `id` is inside its frame, so no other call has all the rest at their start.
    · exact absurd (hothers id _ (Ne.symm hself) hnew) htouched

/-- A call that has written its whole frame adds it to those before it. -/
theorem Whole.wroteAll (hwhole : Whole order state) {id : CallId} {payload : Payload}
    {written : Bytes} (hid : (state.call id).accepted = none)
    (hothers : ∀ other sending, other ≠ id → state.call other = .sending sending →
      Untouched sending)
    (hwritten : written = stream (order.map Prod.snd) ++ frame 8 payload.bytes) :
    Whole (order ++ [(id, payload)])
      ({ state with written := written }.settle id payload (.finished (.ok true))) := by
  have hold : ∀ {other sending},
      ({ state with written := written }.settle id payload (.finished (.ok true))).call other =
        .sending sending → other ≠ id ∧ state.call other = .sending sending := by
    intro other sending hcall
    by_cases hself : other = id
    · subst hself
      simp [State.settle] at hcall
    · exact ⟨hself, by simpa [State.settle, hself] using hcall⟩
  have hstream : written = stream ((order ++ [(id, payload)]).map Prod.snd) := by
    simpa [stream, wire] using hwritten
  refine ⟨hwhole.framed.finish hid, ?_, ?_, ?_⟩
  · exact fun other sending hcall => hwhole.healthy other sending (hold hcall).2
  · exact fun _ => hstream
  · intro other sending hcall _
    obtain ⟨hne, hcall⟩ := hold hcall
    rw [(hothers other sending hne hcall).unsent, ← hstream]
    rfl

theorem Whole.wrote (hwhole : Whole order state) {id : CallId} {sending : Sending} {count : Nat}
    (hcall : state.call id = .sending sending) (hpos : 0 < count)
    (hoffered : count ≤ sending.offered.length)
    (hothers : ∀ other sending, other ≠ id → state.call other = .sending sending →
      Untouched sending) :
    ∃ order, Whole order (state.wrote id sending count) := by
  obtain ⟨hunsent, hhealthy⟩ := sending.wrote hpos hoffered
  have hwritten := hwhole.within id sending hcall hothers
  rw [← hunsent, ← List.append_assoc] at hwritten
  rw [State.wrote]
  cases hnext : sendBlobNext sending.payload sending.part sending.offset (.result count) with
  | writing part offset =>
      rw [hnext] at hhealthy hwritten
      exact ⟨order, hwhole.wroteSome (by simp [hcall, Call.accepted]) hhealthy
        (touched_of_wrote hpos hoffered hnext) hwritten⟩
  | finished result =>
      rw [hnext] at hhealthy hwritten
      obtain rfl : result = .ok true := hhealthy
      refine ⟨_, hwhole.wroteAll (by simp [hcall, Call.accepted]) hothers ?_⟩
      simpa [SendState.unsent] using hwritten

theorem step_whole (state : State) (action : Action) (next : State)
    (hwhole : ∃ order, Whole order state) (hexclusive : Exclusive state action)
    (hstep : machine.step state action = some next) : ∃ order, Whole order next := by
  obtain ⟨order, hwhole⟩ := hwhole
  cases action with
  | start id payload =>
      simp only [machine, State.step] at hstep
      split at hstep
      next hidle =>
          obtain rfl := Option.some.inj hstep
          exact ⟨order, hwhole.start hidle⟩
      next => exact absurd hstep (by simp)
  | wrote id count =>
      simp only [machine, State.step] at hstep
      split at hstep
      next sending hcall =>
          split at hstep
          next hguard =>
              obtain rfl := Option.some.inj hstep
              exact hwhole.wrote hcall hguard.1 hguard.2 hexclusive
          next => exact absurd hstep (by simp)
      next => exact absurd hstep (by simp)
  | retry id code =>
      simp only [machine, State.step] at hstep
      split at hstep
      next sending hcall =>
          split at hstep
          next hretry =>
              obtain rfl := Option.some.inj hstep
              have hsame : state.settle id sending.payload
                  (.writing sending.part sending.offset) = state := by
                simp only [State.settle]
                rw [← hcall, Function.update_eq_self]
              rw [sendBlobNext_retry _ hretry, hsame]
              exact ⟨order, hwhole⟩
          next => exact absurd hstep (by simp)
      next => exact absurd hstep (by simp)

/-- In every run in which no call writes while another one is inside its frame, once
all calls have returned the bytes written are the complete frames of the calls that
returned true, each exactly once. -/
theorem atomic_of_exclusive (run : List Action) (state : State)
    (hmeets : machine.Meets Exclusive run initial)
    (hrun : machine.run run initial = some state) (hquiet : Quiet state) : Atomic state := by
  obtain ⟨order, hwhole⟩ := Machine.run_invariant step_whole run initial state
    ⟨[], whole_initial⟩ hmeets hrun
  exact ⟨order, hwhole.framed, hwhole.between fun id sending hcall =>
    absurd hcall (hquiet id sending)⟩

/-- Two calls of which the second starts during the first, but writes after it. -/
def serialised : List Action :=
  [.start 0 ⟨[10], by decide⟩, .wrote 0 8, .start 1 ⟨[20], by decide⟩, .wrote 0 1,
    .wrote 1 8, .wrote 1 1]

theorem atomic_serialised :
    ∃ state, machine.run serialised initial = some state ∧ Quiet state ∧ Atomic state := by
  have hquiet : ∀ state, machine.run serialised initial = some state → Quiet state := by
    rintro state ⟨⟩ (_ | _ | id) sending <;> exact nofun
  refine ⟨_, rfl, hquiet _ rfl, atomic_of_exclusive serialised _ ?_ rfl (hquiet _ rfl)⟩
  refine Machine.meets_cons trivial rfl (Machine.meets_cons ?_ rfl (Machine.meets_cons trivial rfl
    (Machine.meets_cons ?_ rfl (Machine.meets_cons ?_ rfl (Machine.meets_cons ?_ rfl trivial)))))
  · rintro (_ | _ | other) sending hne hcall
    · exact absurd rfl hne
    · exact nomatch hcall
    · exact nomatch hcall
  · rintro (_ | _ | other) sending hne hcall
    · exact absurd rfl hne
    · obtain rfl := Call.sending.inj hcall
      rfl
    · exact nomatch hcall
  all_goals
    rintro (_ | _ | other) sending hne hcall
    · exact nomatch hcall
    · exact absurd rfl hne
    · exact nomatch hcall

end Fiberuv.Ipc.ConcurrentSend
