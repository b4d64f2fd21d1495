import Fiberuv.Foundation.Register
import Fiberuv.Io.Socket

/-! # Where a UDP socket sends to

`send` goes to the peer. A successful `connect` stores its argument there, and so do
`recv` and `recv_for` with the sender of the datagram they return, whichever comes last;
`recv_from` and `recv_from_for` hand the sender to their caller instead. A receive that
waits stores the sender when its fiber goes on, which may be after a later `connect`.
-/

namespace Fiberuv.Io.Socket

open Foundation

/-- What the steps of a run do with the peer. -/
inductive Event where
  /-- `connect` or `connect_for` succeeds. -/
  | connected (remote : Endpoint)
  /-- `recv` or `recv_for` returns a datagram of this sender. -/
  | heard (sender : Endpoint)
  /-- `send` hands a datagram for this destination to `UdpSocket::send_to`. -/
  | sent (destination : Endpoint)
  deriving DecidableEq

/-- The peer an event stores. -/
def Event.peer : Event → Option Endpoint
  | .connected remote => some remote
  | .heard sender => some sender
  | .sent _ => none

/-- The peer an event goes by. -/
def Event.destination : Event → Option Endpoint
  | .sent destination => some destination
  | _ => none

/-- The event of a choice that completes something. -/
def Choice.emits (event : Endpoint → Event) : Choice → List Event
  | .completed sender => [event sender]
  | _ => []

namespace State

def emitsConnect (state : State) (remote : Endpoint) : Choice → List Event
  | .refused _ => []
  | _ => if state.closed ∨ state.type = .tcp then [] else [.connected remote]

def emitsRecv (state : State) (choice : Choice) : List Event :=
  if state.type = .tcp ∨ state.udp = none then [] else choice.emits .heard

def emitsSend (state : State) : List Event :=
  if state.type = .tcp ∨ state.udp = none then [] else state.peer.toList.map .sent

/-- The events of an operation up to its first suspension point. -/
def emitsBegin (state : State) (choice : Choice) : Op → List Event
  | .connect _ remote => state.emitsConnect remote choice
  | .recv _ => state.emitsRecv choice
  | .send => state.emitsSend
  | _ => []

/-- The events of an operation that goes on. -/
def emitsResume (choice : Choice) : Wait → List Event
  | .connect _ remote => choice.emits fun _ => .connected remote
  | .recv _ true => choice.emits .heard
  | _ => []

def emits (state : State) : Action → List Event
  | .begin _ op choice => if state.alive then state.emitsBegin choice op else []
  | .resume id choice => match state.frame id with
      | .waiting wait => emitsResume choice wait
      | _ => []
  | _ => []

end State

section Steps

variable {state next : State} {id : FiberId} {choice : Choice}

/-- A step leaves the peer alone, or its one event says what has become of the peer and,
for a send, what it was. -/
inductive Agrees (state next : State) : List Event → Prop where
  | silent (hpeer : next.peer = state.peer) : Agrees state next []
  | event (event : Event) (hpeer : next.peer = event.peer.or state.peer)
      (hsent : ∀ destination, event.destination = some destination →
        state.peer = some destination) : Agrees state next [event]

theorem ensureUdp_peer (state : State) : state.ensureUdp.peer = state.peer := by
  unfold State.ensureUdp
  split <;> rfl

theorem await_peer (state : State) (id : FiberId) (wait : Wait) (choice : Choice) :
    (state.await id wait choice).peer = state.peer := by
  cases choice <;> rfl

theorem bind_peer (state : State) (id : FiberId) (localEndpoint : Endpoint) (choice : Choice) :
    (state.bind id localEndpoint choice).peer = state.peer := by
  unfold State.bind
  split
  · rfl
  split
  · rfl
  cases choice <;> first | rfl | exact ensureUdp_peer state

theorem listen_peer (state : State) (id : FiberId) (choice : Choice) :
    (state.listen id choice).peer = state.peer := by
  unfold State.listen State.listenTcp
  split
  · rfl
  split
  · rfl
  split
  · rfl
  cases choice <;> rfl

theorem accept_peer (state : State) (id : FiberId) (timed : Bool) (choice : Choice) :
    (state.accept id timed choice).peer = state.peer := by
  unfold State.accept
  split
  · rfl
  · exact await_peer state id _ choice

theorem send_peer (state : State) (id : FiberId) (choice : Choice) :
    (state.send id choice).peer = state.peer := by
  unfold State.send
  split
  · split
    · rfl
    · exact await_peer state id _ choice
  split
  · rfl
  · exact await_peer state id _ choice

theorem sendTo_peer (state : State) (id : FiberId) (choice : Choice) :
    (state.sendTo id choice).peer = state.peer := by
  unfold State.sendTo
  split
  · rfl
  split
  · rfl
  · rw [await_peer, ensureUdp_peer]

theorem recvFrom_peer (state : State) (id : FiberId) (timed : Bool) (choice : Choice) :
    (state.recvFrom id timed choice).peer = state.peer := by
  unfold State.recvFrom
  split
  · rfl
  · cases choice <;> rfl

/-- Closing leaves the peer, as long as what comes after a wait does. -/
theorem awaitClosed_peer (state : State) (id : FiberId) (handle : HandleId) (wait : Wait)
    {rest : State → State} (hrest : ∀ later : State, (rest later).peer = later.peer) :
    (state.awaitClosed id handle wait rest).peer = state.peer := by
  unfold State.awaitClosed
  split
  · exact hrest _
  · rfl

theorem resetUdp_peer (state : State) (id : FiberId) : (state.resetUdp id).peer = state.peer := by
  unfold State.resetUdp
  split
  · rfl
  · exact awaitClosed_peer _ id _ _ fun _ => rfl

theorem closeServer_peer (state : State) (id : FiberId) :
    (state.closeServer id).peer = state.peer := by
  unfold State.closeServer State.closeUdp
  split
  · rfl
  · exact awaitClosed_peer _ id _ _ fun later => resetUdp_peer later id

theorem resetConn_peer (state : State) (id : FiberId) :
    (state.resetConn id).peer = state.peer := by
  unfold State.resetConn
  split
  · exact closeServer_peer state id
  · exact awaitClosed_peer _ id _ _ fun later => closeServer_peer later id

theorem close_peer (state : State) (id : FiberId) : (state.close id).peer = state.peer := by
  unfold State.close State.closeConn
  split
  · rfl
  split
  · rfl
  split
  · exact closeServer_peer state id
  · exact awaitClosed_peer _ id _ _ fun later => resetConn_peer later id

/-- A UDP `connect` stores the peer at once; a TCP one waits first. -/
theorem connect_agrees (state : State) (id : FiberId) (timed : Bool) (remote : Endpoint)
    (choice : Choice) :
    Agrees state (state.connect id timed remote choice) (state.emitsConnect remote choice) := by
  unfold State.connect
  by_cases hclosed : state.closed = true
  · rw [if_pos hclosed]
    cases choice <;> simp only [State.emitsConnect, hclosed, true_or, if_true] <;> exact .silent rfl
  rw [if_neg hclosed]
  by_cases htype : state.type = .tcp
  · rw [if_pos htype]
    cases choice <;> simp only [State.emitsConnect, htype, or_true, if_true] <;> exact .silent rfl
  rw [if_neg htype]
  have hstored : ∀ udp fresh, Agrees state
      ({ state with udp := udp, fresh := fresh, peer := some remote }.setFrame id .returned)
      [.connected remote] :=
    fun _ _ => .event _ rfl nofun
  have hensured : Agrees state
      ({ state.ensureUdp with peer := some remote }.setFrame id .returned) [.connected remote] := by
    unfold State.ensureUdp
    split
    · exact hstored _ _
    · exact hstored _ _
  cases choice <;> simp only [State.emitsConnect, hclosed, htype, or_self, if_false,
    Bool.false_eq_true]
  case refused error => exact .silent rfl
  all_goals exact hensured

theorem recv_agrees (state : State) (id : FiberId) (timed : Bool) (choice : Choice) :
    Agrees state (state.recv id timed choice) (state.emitsRecv choice) := by
  unfold State.recv
  by_cases htype : state.type = .tcp
  · have hsilent : state.emitsRecv choice = [] := if_pos (.inl htype)
    rw [if_pos htype, hsilent]
    split
    · exact .silent rfl
    · cases choice <;> exact .silent rfl
  rw [if_neg htype]
  by_cases hudp : state.udp = none
  · have hsilent : state.emitsRecv choice = [] := if_pos (.inr hudp)
    rw [if_pos hudp, hsilent]
    exact .silent rfl
  have hheard : state.emitsRecv choice = choice.emits .heard :=
    if_neg (not_or.mpr ⟨htype, hudp⟩)
  rw [if_neg hudp, hheard]
  cases choice with
  | completed sender => exact .event _ rfl nofun
  | refused | failed | suspended | expired => exact .silent rfl

theorem send_agrees (state : State) (id : FiberId) (choice : Choice) :
    Agrees state (state.send id choice) state.emitsSend := by
  unfold State.emitsSend
  split
  · exact .silent (send_peer state id choice)
  · cases hpeer : state.peer with
    | none => exact .silent (send_peer state id choice)
    | some destination =>
        refine .event _ ?_ fun other hother => ?_
        · rw [send_peer]
          rfl
        · rw [hpeer]
          exact hother

theorem begin_agrees (state : State) (id : FiberId) (choice : Choice) (op : Op) :
    Agrees state (state.begin id choice op) (state.emits (.begin id op choice)) := by
  unfold State.emits
  by_cases halive : state.alive = true
  · simp only [halive, if_true]
    cases op with
    | bind localEndpoint =>
        simp only [State.begin, State.whileAlive, halive]
        exact .silent (bind_peer state id localEndpoint choice)
    | listen backlog =>
        simp only [State.begin, State.whileAlive, halive]
        exact .silent (listen_peer state id choice)
    | accept timed =>
        simp only [State.begin, State.whileAlive, halive]
        exact .silent (accept_peer state id timed choice)
    | connect timed remote =>
        simp only [State.begin, State.whileAlive, halive]
        exact connect_agrees state id timed remote choice
    | send =>
        simp only [State.begin, State.whileAlive, halive]
        exact send_agrees state id choice
    | recv timed =>
        simp only [State.begin, State.whileAlive, halive]
        exact recv_agrees state id timed choice
    | sendTo remote =>
        simp only [State.begin, State.whileAlive, halive]
        exact .silent (sendTo_peer state id choice)
    | recvFrom timed =>
        simp only [State.begin, State.whileAlive, halive]
        exact .silent (recvFrom_peer state id timed choice)
    | close => exact .silent (close_peer state id)
  · simp only [halive, Bool.false_eq_true, if_false]
    cases op with
    | close => exact .silent (close_peer state id)
    | _ =>
        simp only [State.begin, State.whileAlive, halive]
        exact .silent rfl

theorem settle_silent {timed : Bool} {done : Endpoint → State}
    (hdone : ∀ sender, (done sender).peer = state.peer)
    (hsettle : state.settle id timed done choice = some next) : Agrees state next [] := by
  cases choice with
  | completed sender =>
      cases hsettle
      exact .silent (hdone sender)
  | failed error =>
      cases hsettle
      exact .silent rfl
  | expired =>
      simp only [State.settle, Option.ite_none_right_eq_some, Option.some.injEq] at hsettle
      obtain ⟨-, rfl⟩ := hsettle
      exact .silent rfl
  | refused | suspended => cases hsettle

/-- A wait that stores a peer when it succeeds. -/
theorem settle_stores {timed : Bool} {done : Endpoint → State} {event : Endpoint → Event}
    (hdone : ∀ sender, Agrees state (done sender) [event sender])
    (hsettle : state.settle id timed done choice = some next) :
    Agrees state next (choice.emits event) := by
  cases choice with
  | completed sender =>
      cases hsettle
      exact hdone sender
  | failed error =>
      cases hsettle
      exact .silent rfl
  | expired =>
      simp only [State.settle, Option.ite_none_right_eq_some, Option.some.injEq] at hsettle
      obtain ⟨-, rfl⟩ := hsettle
      exact .silent rfl
  | refused | suspended => cases hsettle

theorem resume_agrees {wait : Wait} (hresume : state.resume id choice wait = some next) :
    Agrees state next (State.emitsResume choice wait) := by
  cases wait with
  | accept timed =>
      refine settle_silent ?_ hresume
      exact fun _ => rfl
  | send =>
      refine settle_silent ?_ hresume
      exact fun _ => rfl
  | connect timed remote =>
      refine settle_stores ?_ hresume
      exact fun _ => .event (.connected remote) rfl nofun
  | recv timed setsPeer =>
      cases setsPeer with
      | false =>
          refine settle_silent ?_ hresume
          exact fun _ => rfl
      | true =>
          refine settle_stores ?_ hresume
          exact fun sender => .event (.heard sender) rfl nofun
  | closeConn handle =>
      simp only [State.resume, Option.ite_none_right_eq_some, Option.some.injEq] at hresume
      obtain ⟨-, rfl⟩ := hresume
      exact .silent (resetConn_peer state id)
  | destroyConn handle =>
      simp only [State.resume, Option.ite_none_right_eq_some, Option.some.injEq] at hresume
      obtain ⟨-, rfl⟩ := hresume
      exact .silent (closeServer_peer state id)
  | closeUdp handle =>
      simp only [State.resume, Option.ite_none_right_eq_some, Option.some.injEq] at hresume
      obtain ⟨-, rfl⟩ := hresume
      exact .silent (resetUdp_peer state id)
  | destroyUdp handle =>
      simp only [State.resume, Option.ite_none_right_eq_some, Option.some.injEq] at hresume
      obtain ⟨-, rfl⟩ := hresume
      exact .silent rfl

theorem step_agrees {action : Action} (hstep : step state action = some next) :
    Agrees state next (state.emits action) := by
  cases action with
  | «begin» id op choice =>
      simp only [step] at hstep
      split at hstep
      · cases hstep
      · cases hstep
        exact begin_agrees state id choice op
  | resume id choice =>
      simp only [step] at hstep
      split at hstep
      next wait hwait =>
        simp only [State.emits, hwait]
        exact resume_agrees hstep
      · cases hstep
  | onClosed handle =>
      simp only [step, Option.ite_none_right_eq_some, Option.some.injEq] at hstep
      obtain ⟨-, rfl⟩ := hstep
      exact .silent rfl
  | endLoop =>
      cases hstep
      exact .silent rfl

end Steps

/-- The peer is what was stored last, and every send so far went where it pointed. -/
structure Tracked (state : State) (events : List Event) : Prop where
  peer : state.peer = held Event.peer events
  sends : ReadsLast Event.peer Event.destination events

theorem Tracked.step {state next : State} {events : List Event} {action : Action}
    (htracked : Tracked state events) (hstep : Socket.step state action = some next) :
    Tracked next (events ++ state.emits action) := by
  generalize hevents : state.emits action = emitted
  cases hevents ▸ step_agrees hstep with
  | silent hpeer =>
      rw [List.append_nil]
      exact ⟨hpeer.trans htracked.peer, htracked.sends⟩
  | event event hpeer hsent =>
      refine ⟨?_, htracked.sends.snoc fun destination hdestination => ?_⟩
      · rw [hpeer, htracked.peer, held_snoc]
      · rw [← htracked.peer]
        exact hsent destination hdestination

/-- Whatever fibers do with a UDP socket and whoever sends to it, every `send` goes to the
remote of the last successful `connect` or to the sender of the last datagram that `recv`
or `recv_for` returned, whichever came later. -/
theorem sends_go_to_last_peer (run : List Action) (final : State)
    (hrun : machine.run run (initial .udp) = some final) (before after : List Event)
    (destination : Endpoint)
    (hsplit : machine.trace State.emits run (initial .udp) =
      before ++ .sent destination :: after) :
    ∃ earlier event between, before = earlier ++ event :: between ∧
      event.peer = some destination ∧ ∀ later ∈ between, later.peer = none := by
  have hinitial : Tracked (initial .udp) [] := ⟨rfl, readsLast_nil⟩
  have htracked := Machine.run_trace (fun _ _ _ _ htracked hstep => htracked.step hstep)
    run (initial .udp) final [] hinitial hrun
  exact held_eq_some (htracked.sends before (.sent destination) after destination hsplit rfl)

/-- A stranger whose datagram is received. -/
def stranger : Endpoint := ⟨"127.0.0.2", 7⟩

/-- Connected, then two receives, one of each kind, with a datagram of a stranger. -/
def heardStranger : List Action :=
  [.begin 0 (.connect false somewhere) .suspended,
    .begin 1 (.recvFrom false) (.completed stranger),
    .begin 0 .send .suspended, .resume 0 (.completed somewhere),
    .begin 1 (.recv false) .suspended, .resume 1 (.completed stranger),
    .begin 0 .send .suspended]

theorem sends_go_to_heardStranger :
    ∃ earlier event between,
      [Event.connected somewhere, .sent somewhere, .heard stranger] =
        earlier ++ event :: between ∧
      event.peer = some stranger ∧ ∀ later ∈ between, later.peer = none :=
  sends_go_to_last_peer heardStranger _ rfl
    [.connected somewhere, .sent somewhere, .heard stranger] [] stranger rfl

/-- The second of the two sends goes to the stranger, although no other `connect` was
made. -/
theorem peer_replaced_heardStranger :
    ¬ ∀ (run : List Action) (final : State), machine.run run (initial .udp) = some final →
      ∀ before remote between destination after,
        machine.trace State.emits run (initial .udp) =
          before ++ .connected remote :: between ++ .sent destination :: after →
        (∀ other, .connected other ∉ between) → destination = remote := by
  intro hall
  have hsame := hall heardStranger _ rfl [] somewhere [.sent somewhere, .heard stranger] stranger
    [] rfl (by simp)
  exact absurd hsame (by decide)

end Fiberuv.Io.Socket
