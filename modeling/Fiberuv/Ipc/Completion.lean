import Fiberuv.Ipc.RoundTrip

/-! # The calls on a pair of process channels complete

Every request that is not interrupted lowers the work a direction has left, so a run
contains only boundedly many of them. A direction in which nothing can move any more
has sent everything and received everything, up to the receives that wait for the
sender to close.
-/

namespace Fiberuv.Ipc

open Foundation

namespace Direction

variable {host : Host} {payloads : List Payload} {calls : List RecvCall}
  {sender receiver : Phase} {direction next : Direction}

/-- The bytes still to be moved, those not yet in the pipe counted twice, and the
calls still to be started and to be ended. -/
def work (direction : Direction) : Nat :=
  2 * direction.outbox.length + direction.sending.toList.length +
    2 * (direction.unsent.length + (stream direction.outbox).length) + direction.pipe.length +
    2 * direction.inbox.length + direction.receiving.toList.length

theorem work_settleSend (direction : Direction) (payload : Payload) (state : SendState) :
    (direction.settleSend payload state).work ≤
      2 * direction.outbox.length + 1 +
        2 * ((state.unsent payload).length + (stream direction.outbox).length) +
        direction.pipe.length + 2 * direction.inbox.length +
        direction.receiving.toList.length := by
  cases state with
  | writing part offset => simp [settleSend, work, unsent, Sending.state]
  | finished result => simp [settleSend, work, unsent, SendState.unsent]

theorem work_settleRecv (direction : Direction) (call : RecvCall) (state : RecvState) :
    (direction.settleRecv call state).work ≤
      2 * direction.outbox.length + direction.sending.toList.length +
        2 * (direction.unsent.length + (stream direction.outbox).length) +
        direction.pipe.length + 2 * direction.inbox.length + 1 := by
  cases state <;> simp [settleRecv, work, unsent]

theorem work_send {payload : Payload} {rest : List Payload} (hidle : direction.sending = none)
    (houtbox : direction.outbox = payload :: rest) :
    ({ direction with outbox := rest }.settleSend payload
      (sendBlob sender.valid payload)).work + 1 ≤ direction.work := by
  have hstart : ((sendBlob sender.valid payload).unsent payload).length ≤
      (frame 8 payload.bytes).length := by
    cases hvalid : sender.valid with
    | true => simp [sendBlob_valid, SendState.unsent, frame]
    | false => simp [sendBlob, SendState.unsent]
  have hsettle := work_settleSend { direction with outbox := rest } payload
    (sendBlob sender.valid payload)
  have hwork : direction.work = 2 * (rest.length + 1) +
      2 * ((frame 8 payload.bytes).length + (stream rest).length) + direction.pipe.length +
      2 * direction.inbox.length + direction.receiving.toList.length := by
    simp [work, unsent, hidle, houtbox]
  simp only at hsettle
  omega

theorem work_wrote {sending : Sending} {count : Nat} (hsending : direction.sending = some sending)
    (hpos : 0 < count) (hoffered : count ≤ sending.offered.length) :
    ({ direction with pipe := direction.pipe ++ sending.offered.take count }.settleSend
      sending.payload
      (sendBlobNext sending.payload sending.part sending.offset (.result count))).work + 1 ≤
        direction.work := by
  have hunsent := congrArg List.length (sending.wrote hpos hoffered).1
  have hsettle := work_settleSend
    { direction with pipe := direction.pipe ++ sending.offered.take count } sending.payload
    (sendBlobNext sending.payload sending.part sending.offset (.result count))
  have hwork : direction.work = 2 * direction.outbox.length + 1 +
      2 * ((sending.state.unsent sending.payload).length +
        (stream direction.outbox).length) + direction.pipe.length +
      2 * direction.inbox.length + direction.receiving.toList.length := by
    simp [work, unsent, hsending]
  simp only [List.length_append, List.length_take] at *
  omega

theorem work_recv {call : RecvCall} {rest : List RecvCall} (hidle : direction.receiving = none)
    (hinbox : direction.inbox = call :: rest) :
    ({ direction with inbox := rest }.settleRecv call (recvBlob receiver.valid)).work + 1 ≤
      direction.work := by
  have hsettle := work_settleRecv { direction with inbox := rest } call (recvBlob receiver.valid)
  have hwork : direction.work = 2 * direction.outbox.length + direction.sending.toList.length +
      2 * (direction.unsent.length + (stream direction.outbox).length) +
      direction.pipe.length + 2 * (rest.length + 1) := by
    simp [work, hidle, hinbox]
  simp only [unsent] at *
  omega

theorem work_read {call : RecvCall} {state : RecvState} {count : Nat}
    (hreceiving : direction.receiving = some (call, state)) (hpos : 0 < count)
    (hpipe : count ≤ direction.pipe.length) :
    ({ direction with pipe := direction.pipe.drop count }.settleRecv call
      (recvBlobNext host.memory (direction.pipe.take count) (.result count) state)).work + 1 ≤
        direction.work := by
  have hsettle := work_settleRecv { direction with pipe := direction.pipe.drop count } call
    (recvBlobNext host.memory (direction.pipe.take count) (.result count) state)
  have hwork : direction.work = 2 * direction.outbox.length +
      direction.sending.toList.length +
      2 * (direction.unsent.length + (stream direction.outbox).length) +
      direction.pipe.length + 2 * direction.inbox.length + 1 := by
    simp [work, hreceiving]
  simp only [List.length_drop, unsent] at *
  omega

/-- The end of the stream ends the receive, whatever it was waiting for. -/
theorem recvBlobNext_end (memory : Nat → Bool) (state : RecvState) :
    ∃ result, recvBlobNext memory [] (.result 0) state = .finished result := by
  cases state with
  | length got =>
      by_cases hstart : got.length = 0
      · exact ⟨.ok none, by simp [recvBlobNext, readExactNext, hstart]⟩
      · exact ⟨.error truncatedPayload, by simp [recvBlobNext, readExactNext, hstart]⟩
  | payload size got => exact ⟨.error truncatedPayload, rfl⟩
  | finished result => exact ⟨result, rfl⟩

/-- Every move takes work off the direction, except that an interrupted request is
submitted again. -/
theorem step_work {move : Move} (hstep : direction.step host sender receiver move = some next) :
    next.work + (if move.retries then 0 else 1) ≤ direction.work := by
  cases step_effect hstep with
  | send hidle houtbox => exact work_send hidle houtbox
  | wrote hsending _ hpos hoffered _ => exact work_wrote hsending hpos hoffered
  | writeRetry code => simp [Move.retries]
  | writeRefused hsending _ =>
      simp [settleSend, work, unsent, hsending, Move.retries]
      omega
  | recv hidle hinbox => exact work_recv hidle hinbox
  | read hreceiving _ hpos _ hpipe => exact work_read hreceiving hpos hpipe
  | readRetry code hreceiving =>
      simp only [Move.retries, if_true, Nat.add_zero]
      refine Nat.le_trans (work_settleRecv direction _ _) ?_
      simp [work, hreceiving]
  | @readEnd call state hreceiving hempty hclosed =>
      obtain ⟨result, hresult⟩ := recvBlobNext_end host.memory state
      rw [hresult]
      simp [settleRecv, work, unsent, hreceiving, Move.retries]

/-- Nothing but another try of an interrupted request can happen in this direction. -/
def Stuck (host : Host) (sender receiver : Phase) (direction : Direction) : Prop :=
  ∀ move : Move, move.retries = false → direction.step host sender receiver move = none

variable (hsound : Sound payloads calls sender direction)
  (hstuck : direction.Stuck host sender .opened)

include hsound hstuck

/-- A receive that cannot move waits at an empty pipe whose writing end is open. -/
theorem Stuck.receiving {call : RecvCall} {state : RecvState}
    (hreceiving : direction.receiving = some (call, state)) :
    direction.pipe = [] ∧ sender ≠ .closed := by
  have hempty : direction.pipe = [] := by
    by_contra hne
    have hpipe : 0 < direction.pipe.length := List.length_pos_of_ne_nil hne
    have hread := hstuck (.read 1) rfl
    obtain ⟨size, offset, hrequest, hchunk⟩ :=
      RecvState.request_of_waiting (hsound.reading call state hreceiving)
    simp [Direction.step, hreceiving, Direction.read, hrequest, hchunk] at hread
    contradiction
  -- At an empty pipe without a writer the read ends with no bytes.
  refine ⟨hempty, fun hclosed => ?_⟩
  have hend := hstuck .readEnd rfl
  simp [Direction.step, hreceiving, hempty, hclosed] at hend

omit hsound in
theorem Stuck.inbox (hidle : direction.receiving = none) : direction.inbox = [] := by
  by_contra hne
  obtain ⟨call, rest, hinbox⟩ := List.exists_cons_of_ne_nil hne
  have hrecv := hstuck .recv rfl
  simp [Direction.step, hidle, hinbox] at hrecv

/-- With enough receives to come, the pipe of a stuck direction has been emptied. -/
theorem Stuck.pipe (hcalls : payloads.length ≤ calls.length) : direction.pipe = [] := by
  cases hreceiving : direction.receiving with
  | some receiving => exact (hstuck.receiving hsound hreceiving).1
  | none =>
      have hinbox := hstuck.inbox hreceiving
      have hpending : calls.drop direction.received.length = [] := by
        simp [hsound.pending, pendingCalls, hreceiving, hinbox]
      -- There are as many calls as payloads, so with the calls used up nothing is left to arrive.
      have hdone : payloads.drop direction.received.length = [] := by
        rw [List.drop_eq_nil_iff] at hpending ⊢
        omega
      have htransit := hsound.inTransit
      rw [hdone] at htransit
      have hnil := htransit.symm
      simp only [stream_nil, List.append_eq_nil_iff] at hnil
      exact hnil.1.1.2

/-- A stuck direction has sent all payloads and has received them. -/
theorem Stuck.complete (hcapacity : 0 < host.capacity)
    (hcalls : payloads.length ≤ calls.length) :
    direction.sent.length = payloads.length ∧ payloads.length ≤ direction.received.length ∧
      (sender = .closed → direction.received.length = calls.length) := by
  have hpipe := hstuck.pipe hsound hcalls
  have hidle : direction.sending = none := by
    cases hsending : direction.sending with
    | none => rfl
    | some sending =>
        have hhealthy : sending.offset < (sending.payload.part sending.part).length :=
          hsound.writing sending hsending
        have hoffered : 1 ≤ sending.offered.length := by
          simp only [Sending.offered, List.length_take, List.length_drop, chunk, kChunkBytes]
          omega
        -- There is room for one byte, since the pipe is empty.
        have hwrote := hstuck (.wrote 1) rfl
        simp [Direction.step, hsending, Phase.valid, Direction.wrote, hpipe] at hwrote
        omega
  have houtbox : direction.outbox = [] := by
    by_contra hne
    obtain ⟨payload, rest, houtbox⟩ := List.exists_cons_of_ne_nil hne
    have hsend := hstuck .send rfl
    simp [Direction.step, hidle, houtbox] at hsend
  have hsends := hsound.sends
  refine ⟨by simpa [hidle, houtbox] using hsends, ?_, fun hclosed => ?_⟩
  · cases hreceiving : direction.receiving with
    | some receiving => exact (hsound.drained hreceiving hpipe houtbox hidle).2
    | none =>
        have hstream : stream (payloads.drop direction.received.length) = [] := by
          simpa [held, unsent, hreceiving, hpipe, hidle, houtbox] using hsound.inTransit
        exact List.drop_eq_nil_iff.mp (stream_eq_nil hstream)
  · have hnone : direction.receiving = none := by
      by_contra hsome
      obtain ⟨receiving, hreceiving⟩ := Option.ne_none_iff_exists'.mp hsome
      exact (hstuck.receiving hsound hreceiving).2 hclosed
    have hpending : calls.drop direction.received.length = [] := by
      simp [hsound.pending, pendingCalls, hnone, hstuck.inbox hnone]
    have hcount := hsound.count
    rw [List.drop_eq_nil_iff] at hpending
    omega

end Direction

/-- The steps that move a direction forward. -/
def Label.advances (side : Side) : Label → Bool
  | .move mover step => mover == side && !step.retries
  | .close _ => false
  | .closeWrite _ => false

namespace Pair

variable {host : Host} {payloads : Side → List Payload} {calls : Side → List RecvCall}
  {pair next : Pair} {side : Side}

/-- The direction from this side is sound as long as the other endpoint is open. -/
def Sound (payloads : Side → List Payload) (calls : Side → List RecvCall) (side : Side)
    (pair : Pair) : Prop :=
  pair.phase side.other = .opened →
    (pair.direction side).Sound (payloads side) (calls side) (pair.phase side)

theorem setDirection_self (pair : Pair) (side : Side) (direction : Direction) :
    (pair.setDirection side direction).direction side = direction :=
  Function.update_self ..

theorem setDirection_ne (pair : Pair) {side other : Side} (direction : Direction)
    (hother : other ≠ side) :
    (pair.setDirection side direction).direction other = pair.direction other :=
  Function.update_of_ne hother ..

/-- Closing an endpoint leaves the direction from it sound: there is nothing more to
send. -/
theorem Sound.setPhase {closing : Side} {phase : Phase} (hsound : pair.Sound payloads calls side)
    (hphase : phase ≠ .opened)
    (hidle : pair.phase closing = .opened →
      (pair.direction closing).outbox = [] ∧ (pair.direction closing).sending = none)
    (hended : pair.phase closing ≠ .closed) :
    (pair.setPhase closing phase).Sound payloads calls side := by
  intro hopen
  have hother : side.other ≠ closing := by
    rintro rfl
    simp [Pair.setPhase, hphase] at hopen
  have hbefore : pair.phase side.other = .opened := by
    simpa [Pair.setPhase, Function.update_of_ne hother] using hopen
  have hdirection := hsound hbefore
  by_cases hself : side = closing
  · subst hself
    refine { hdirection with senderOpen := fun _ => ?_, ended := fun hlength => ?_ }
    · by_cases hbefore : pair.phase side = .opened
      · exact hidle hbefore
      · exact hdirection.senderOpen hbefore
    · exact absurd (hdirection.ended hlength) hended
  · have hsame : (pair.setPhase closing phase).phase side = pair.phase side :=
      Function.update_of_ne hself ..
    rw [hsame]
    exact hdirection

theorem step_sound (hmemory : ∀ payload ∈ payloads side, host.memory payload.bytes.length)
    (hfit : Fit (calls side) (payloads side)) {label : Label}
    (hsound : pair.Sound payloads calls side) (hstep : pair.step host label = some next) :
    next.Sound payloads calls side := by
  cases label with
  | move mover move =>
      simp only [Pair.step, Option.map_eq_some_iff] at hstep
      obtain ⟨direction, hmove, rfl⟩ := hstep
      intro hafter
      have hopen : pair.phase side.other = .opened := hafter
      by_cases hself : side = mover
      · subst hself
        rw [hopen] at hmove
        rw [setDirection_self]
        exact Direction.step_sound (hsound hopen) hfit hmemory hmove
      · rw [setDirection_ne _ _ hself]
        exact hsound hopen
  | close closing =>
      simp only [Pair.step] at hstep
      split at hstep
      next hguard =>
          obtain ⟨hphase, houtbox, hsending, -⟩ := hguard
          obtain rfl := Option.some.inj hstep
          refine hsound.setPhase (by simp) (fun _ => ⟨houtbox, ?_⟩) (by simp [hphase])
          simpa using hsending
      next => exact absurd hstep (by simp)
  | closeWrite closing =>
      simp only [Pair.step] at hstep
      split at hstep
      next hphase =>
          obtain rfl := Option.some.inj hstep
          exact hsound.setPhase (by simp) (by simp [hphase]) (by simp [hphase])
      next => exact absurd hstep (by simp)

theorem step_work {label : Label} (side : Side) (hstep : pair.step host label = some next) :
    (next.direction side).work + (if label.advances side then 1 else 0) ≤
      (pair.direction side).work := by
  cases label with
  | move mover move =>
      simp only [Pair.step, Option.map_eq_some_iff] at hstep
      obtain ⟨direction, hmove, rfl⟩ := hstep
      by_cases hself : mover = side
      · subst hself
        have hwork := Direction.step_work hmove
        rw [setDirection_self]
        cases hretries : move.retries <;> simp [Label.advances, hretries] at hwork ⊢ <;> omega
      · rw [setDirection_ne _ _ (Ne.symm hself)]
        simp [Label.advances, hself]
  | close closing =>
      simp only [Pair.step] at hstep
      split at hstep
      next =>
          obtain rfl := Option.some.inj hstep
          exact Nat.le_refl _
      next => exact absurd hstep (by simp)
  | closeWrite closing =>
      simp only [Pair.step] at hstep
      split at hstep
      next =>
          obtain rfl := Option.some.inj hstep
          exact Nat.le_refl _
      next => exact absurd hstep (by simp)

end Pair

section RoundTrip

variable (host : Host) (payloads : Side → List Payload) (calls : Side → List RecvCall)

theorem run_sound {side : Side}
    (hmemory : ∀ payload ∈ payloads side, host.memory payload.bytes.length)
    (hfit : Fit (calls side) (payloads side)) {labels : List Label} {final : Pair}
    (hrun : (machine host).run labels (initial payloads calls) = some final) :
    final.Sound payloads calls side := by
  have hkeep : ∀ (pair : Pair) label next, pair.Sound payloads calls side →
      (machine host).step pair label = some next → next.Sound payloads calls side :=
    fun _ _ _ hsound hstep => Pair.step_sound hmemory hfit hsound hstep
  refine Machine.reachable_invariant hkeep ?_ ⟨labels, hrun⟩
  exact fun _ => Direction.sound_initial (payloads side) (calls side)

/-- The round trip in one direction of a pair, for every way the kernel splits the
transfers, every interleaving with the other direction and every number of
interruptions, while the receiving endpoint is open.

All sends that have ended returned true, the receives that have ended returned the
payloads in order and then `nullopt`, the latter only after the sender has closed, and
the calls do end: the number of uninterrupted steps is bounded, and where no more of
them is possible all sends have ended, every payload has been received, and after the
sender has closed every receive has ended. -/
theorem roundTrip (side : Side) (hcapacity : 0 < host.capacity)
    (hmemory : ∀ payload ∈ payloads side, host.memory payload.bytes.length)
    (hfit : Fit (calls side) (payloads side)) (labels : List Label) (final : Pair)
    (hrun : (machine host).run labels (initial payloads calls) = some final)
    (hopen : final.phase side.other = .opened) :
    (∀ result ∈ (final.direction side).sent, result = .ok true) ∧
      (final.direction side).received =
        expected (payloads side) (final.direction side).received.length ∧
      ((payloads side).length < (final.direction side).received.length →
        final.phase side = .closed) ∧
      labels.countP (Label.advances side) ≤
        2 * ((payloads side).length + (stream (payloads side)).length + (calls side).length) ∧
      ((payloads side).length ≤ (calls side).length →
        (final.direction side).Stuck host (final.phase side) (final.phase side.other) →
        (final.direction side).sent.length = (payloads side).length ∧
          (payloads side).length ≤ (final.direction side).received.length ∧
          (final.phase side = .closed →
            (final.direction side).received.length = (calls side).length)) := by
  have hsound := run_sound host payloads calls hmemory hfit hrun hopen
  refine ⟨hsound.sent, hsound.received, hsound.ended, ?_, fun hcalls hstuck => ?_⟩
  · have hlower : ∀ (pair : Pair) label next, (machine host).step pair label = some next →
        (next.direction side).work + (if label.advances side then 1 else 0) ≤
          (pair.direction side).work :=
      fun _ _ _ hstep => Pair.step_work side hstep
    have hwork : (final.direction side).work + labels.countP (Label.advances side) ≤
        ((initial payloads calls).direction side).work :=
      Machine.run_measure hlower labels _ final hrun
    have hstart : ((initial payloads calls).direction side).work =
        2 * ((payloads side).length + (stream (payloads side)).length + (calls side).length) := by
      simp [initial, Direction.work, Direction.unsent]
      ring
    omega
  · rw [hopen] at hstuck
    exact hstuck.complete hsound hcapacity hcalls

end RoundTrip

/-- Side `a` sends a value of one byte and an empty vector, side `b` one byte. -/
def demoPayloads : Side → List Payload
  | .a => [⟨[7], by decide⟩, ⟨[], by decide⟩]
  | .b => [⟨[9], by decide⟩]

def demoCalls : Side → List RecvCall
  | .a => [.typed 1, .stream, .stream]
  | .b => [.stream]

def demoHost : Host where
  capacity := 65536
  memory := fun _ => true

/-- Writes and reads split differently, both directions at once, an interruption on
each end, and then `close` on side `a`. -/
def demoRun : List Label :=
  [.move .b .recv, .move .a .send, .move .a (.wrote 3), .move .b .send,
    .move .a (.writeRetry uvEintr), .move .b (.wrote 8), .move .a .recv, .move .a (.read 2),
    .move .a (.wrote 5), .move .a (.readRetry uvEagain), .move .a (.read 6), .move .b (.read 8),
    .move .a (.wrote 1), .move .a (.read 1), .move .b (.wrote 1), .move .b (.read 1),
    .move .a .send, .move .a (.wrote 8), .close .a, .move .a .recv, .closeWrite .a,
    .move .a (.read 8), .move .a .recv, .move .a .readEnd]

theorem roundTrip_demo :
    ∃ final, (machine demoHost).run demoRun (initial demoPayloads demoCalls) = some final ∧
      (final.direction .a).received = [.ok (some [7]), .ok (some []), .ok none] ∧
      (final.direction .a).received = expected (demoPayloads .a) 3 := by
  refine ⟨_, rfl, rfl, ?_⟩
  refine (roundTrip demoHost demoPayloads demoCalls .a (by decide) (fun _ _ => rfl) ?_
    demoRun _ rfl rfl).2.1
  rintro (_ | _ | _ | i) call payload hcall hpayload <;>
    simp [demoCalls, demoPayloads] at hcall hpayload <;> subst hcall <;> subst hpayload
  · rfl
  · trivial

end Fiberuv.Ipc
