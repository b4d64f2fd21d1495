import Fiberuv.Io.Socket

/-! # When a closed socket stays closed

A call of `close` clears the sub-handles one after another: the connection, the server,
the UDP socket, and last the listening flag. What it has cleared stays clear unless an
operation fills it again, which is harmless as long as some call of `close` has still to
clear it.
-/

namespace Fiberuv.Io.Socket

open Foundation

/-- What `close` clears, in this order. -/
inductive Slot where
  | conn
  | server
  | udp
  | listening

/-- The number of suspension points of `close` before the slot is cleared. -/
def Slot.rank : Slot → Nat
  | .conn => 1
  | .server => 2
  | .udp => 3
  | .listening => 4

theorem Slot.rank_injective : Function.Injective Slot.rank := by
  intro first second heq
  cases first <;> cases second <;> simp [Slot.rank] at heq ⊢

def State.fills (state : State) : Slot → Bool
  | .conn => state.tcpConn.isSome
  | .server => state.tcpServer.isSome
  | .udp => state.udp.isSome
  | .listening => state.listening

/-- How far a call of `close` has come. -/
def Frame.stage : Frame → Option Nat
  | .waiting (.closeConn _) => some 0
  | .waiting (.destroyConn _) => some 1
  | .waiting (.closeUdp _) => some 2
  | .waiting (.destroyUdp _) => some 3
  | _ => none

/-- A call of `close` that has still to clear the slot. -/
def Frame.before (slot : Slot) (frame : Frame) : Prop :=
  ∃ stage, frame.stage = some stage ∧ stage < slot.rank

/-- The slot will be cleared: the socket is not closed and no `close` has got past the
slot, or some `close` has still to get there. -/
def Pending (state : State) (slot : Slot) : Prop :=
  (state.closed = false ∧
      ∀ id stage, (state.frame id).stage = some stage → stage < slot.rank) ∨
    ∃ id, (state.frame id).before slot

/-- An operation fills a slot only while the slot is going to be cleared: `listen` that
passes its checks, `connect` when it stores its connection, and `send_to`, `bind` and
`connect` when they make a UDP socket. -/
def Timely (state : State) : Action → Prop
  | .begin _ (.listen _) _ =>
      state.alive = true → state.type = .tcp → state.localEndpoint ≠ none →
        Pending state .server
  | .begin _ (.sendTo _) _ =>
      state.alive = true → state.type = .udp → state.udp = none → Pending state .udp
  | .begin _ (.bind _) _ =>
      state.alive = true → state.type = .udp → state.closed = false → state.udp = none →
        Pending state .udp
  | .begin _ (.connect _ _) _ =>
      state.alive = true → state.type = .udp → state.closed = false → state.udp = none →
        Pending state .udp
  | .resume id (.completed _) =>
      ∀ timed remote, state.frame id = .waiting (.connect timed remote) → Pending state .conn
  | _ => True

/-- Every slot that is filled is going to be cleared. -/
def Tidy (state : State) : Prop :=
  ∀ slot, state.fills slot = true → Pending state slot

theorem tidy_initial (origin : Origin) : Tidy (initial origin) := by
  intro slot _
  refine .inl ⟨by cases origin <;> rfl, ?_⟩
  intro id stage hstage
  cases origin <;> exact nomatch hstage

variable {state after : State} {id : FiberId}

/-- A server that will be closed was told to listen, so the flag will be cleared too. -/
theorem Pending.listening (hpending : Pending state .server) : Pending state .listening := by
  obtain ⟨hclosed, hstages⟩ | ⟨id, stage, hstage, hrank⟩ := hpending
  · refine .inl ⟨hclosed, fun id stage hstage => ?_⟩
    have := hstages id stage hstage
    simp only [Slot.rank] at this ⊢
    omega
  · refine .inr ⟨id, stage, hstage, ?_⟩
    simp only [Slot.rank] at hrank ⊢
    omega

@[simp] theorem fills_setFrame (state : State) (id : FiberId) (frame : Frame) (slot : Slot) :
    (state.setFrame id frame).fills slot = state.fills slot := by
  cases slot <;> rfl

section OtherOperations

theorem stage_setFrame (state : State) {frame : Frame} (hbefore : (state.frame id).stage = none)
    (hafter : frame.stage = none) (other : FiberId) :
    ((state.setFrame id frame).frame other).stage = (state.frame other).stage := by
  by_cases hself : other = id
  · subst hself
    simp [State.setFrame, hbefore, hafter]
  · simp [State.setFrame, hself]

/-- What is pending depends on `closed` and on the stages of the calls of `close` only. -/
theorem Pending.congr {slot : Slot} (hpending : Pending state slot)
    (hclosed : after.closed = state.closed)
    (hstages : ∀ other, (after.frame other).stage = (state.frame other).stage) :
    Pending after slot := by
  obtain ⟨hopen, hall⟩ | ⟨other, stage, hstage, hrank⟩ := hpending
  · exact .inl ⟨hclosed.trans hopen, fun other stage hstage =>
      hall other stage ((hstages other).symm.trans hstage)⟩
  · exact .inr ⟨other, stage, (hstages other).trans hstage, hrank⟩

/-- What an operation other than `close` may have done up to a point: every slot it has
filled was filled before or is going to be cleared. -/
structure Allowed (state after : State) : Prop where
  closed : after.closed = state.closed
  frame : after.frame = state.frame
  fills : ∀ slot, after.fills slot = true → state.fills slot = true ∨ Pending state slot

theorem Allowed.refl (state : State) : Allowed state state :=
  ⟨rfl, rfl, fun _ hslot => .inl hslot⟩

/-- Endpoints and handles are not slots. -/
theorem Allowed.congr {other : State} (hallowed : Allowed state after)
    (hclosed : other.closed = after.closed) (hframe : other.frame = after.frame)
    (hfills : ∀ slot, other.fills slot = after.fills slot) : Allowed state other :=
  ⟨hclosed.trans hallowed.closed, hframe.trans hallowed.frame, fun slot hslot =>
    hallowed.fills slot ((hfills slot).symm.trans hslot)⟩

theorem allowed_ensureUdp (hudp : state.udp = none → Pending state .udp) :
    Allowed state state.ensureUdp := by
  rw [State.ensureUdp]
  split
  next => exact .refl state
  next hnone =>
      refine ⟨rfl, rfl, ?_⟩
      rintro (_ | _ | _ | _) hslot
      · exact .inl hslot
      · exact .inl hslot
      · exact .inr (hudp hnone)
      · exact .inl hslot

/-- `bind` and `connect` make the UDP socket only of a socket that is not closed. -/
theorem allowed_ensureUdp_of_open (hopen : ¬ state.closed = true) (htype : ¬ state.type = .tcp)
    (hudp : state.type = .udp → state.closed = false → state.udp = none → Pending state .udp) :
    Allowed state state.ensureUdp := by
  refine allowed_ensureUdp (hudp ?_ (by simpa using hopen))
  cases hcase : state.type with
  | tcp => exact absurd hcase htype
  | udp => rfl

variable (htidy : Tidy state) (hbefore : (state.frame id).stage = none)

include htidy hbefore

theorem Tidy.step {frame : Frame} (hallowed : Allowed state after) (hframe : frame.stage = none) :
    Tidy (after.setFrame id frame) := by
  intro slot hslot
  rw [fills_setFrame] at hslot
  have hpending : Pending state slot := (hallowed.fills slot hslot).elim (htidy slot) fun h => h
  refine hpending.congr hallowed.closed fun other => ?_
  rw [stage_setFrame after (by rw [hallowed.frame]; exact hbefore) hframe, hallowed.frame]

theorem Tidy.await {wait : Wait} (hallowed : Allowed state after)
    (hwait : (Frame.waiting wait).stage = none) (choice : Choice) :
    Tidy (after.await id wait choice) := by
  cases choice with
  | suspended => exact htidy.step hbefore hallowed hwait
  | expired => exact htidy.step hbefore hallowed hwait
  | _ => exact htidy.step hbefore hallowed rfl

/-- A wait that ends otherwise than with its result changes nothing but the frame. -/
theorem Tidy.settle {timed : Bool} {done : Endpoint → State} {choice : Choice}
    (hdone : ∀ sender, choice = .completed sender → Tidy (done sender))
    (hstep : state.settle id timed done choice = some after) : Tidy after := by
  cases choice with
  | completed sender =>
      obtain rfl := Option.some.inj hstep
      exact hdone sender rfl
  | failed error =>
      obtain rfl := Option.some.inj hstep
      exact htidy.step hbefore (.refl state) rfl
  | expired =>
      simp only [State.settle] at hstep
      split at hstep
      next =>
          obtain rfl := Option.some.inj hstep
          exact htidy.step hbefore (.refl state) rfl
      next => exact absurd hstep (by simp)
  | refused error => exact absurd hstep (by simp [State.settle])
  | suspended => exact absurd hstep (by simp [State.settle])

theorem Tidy.received (setsPeer : Bool) (sender : Endpoint) :
    Tidy (state.received id setsPeer sender) := by
  cases setsPeer with
  | false => exact htidy.step hbefore (.refl state) rfl
  | true =>
      refine htidy.step hbefore ((Allowed.refl state).congr rfl rfl ?_) rfl
      rintro (_ | _ | _ | _) <;> rfl

theorem Tidy.awaitRecv (timed setsPeer : Bool) (choice : Choice) :
    Tidy (state.awaitRecv id timed setsPeer choice) := by
  cases choice with
  | completed sender => exact htidy.received hbefore setsPeer sender
  | _ => exact htidy.await hbefore (.refl state) rfl _

theorem Tidy.bind (localEndpoint : Endpoint) (choice : Choice)
    (hudp : state.type = .udp → state.closed = false → state.udp = none → Pending state .udp) :
    Tidy (state.bind id localEndpoint choice) := by
  simp only [State.bind]
  split
  next => exact htidy.step hbefore (.refl state) rfl
  next hopen =>
      split
      next =>
          refine htidy.step hbefore ((Allowed.refl state).congr rfl rfl ?_) rfl
          rintro (_ | _ | _ | _) <;> rfl
      next htype =>
          have hallowed := allowed_ensureUdp_of_open hopen htype hudp
          split
          next => exact htidy.step hbefore (.refl state) rfl
          next => exact htidy.step hbefore hallowed rfl
          next =>
              refine htidy.step hbefore (hallowed.congr rfl rfl ?_) rfl
              rintro (_ | _ | _ | _) <;> rfl

theorem Tidy.connect (timed : Bool) (remote : Endpoint) (choice : Choice)
    (hudp : state.type = .udp → state.closed = false → state.udp = none → Pending state .udp) :
    Tidy (state.connect id timed remote choice) := by
  simp only [State.connect]
  split
  next => exact htidy.step hbefore (.refl state) rfl
  next hopen =>
      split
      next =>
          cases choice with
          | completed sender => exact htidy.step hbefore (.refl state) rfl
          | _ => exact htidy.await hbefore (.refl state) rfl _
      next htype =>
          have hallowed := allowed_ensureUdp_of_open hopen htype hudp
          split
          next => exact htidy.step hbefore (.refl state) rfl
          next =>
              refine htidy.step hbefore (hallowed.congr rfl rfl ?_) rfl
              rintro (_ | _ | _ | _) <;> rfl

theorem Tidy.listen (choice : Choice)
    (hserver : state.type = .tcp → state.localEndpoint ≠ none → Pending state .server) :
    Tidy (state.listen id choice) := by
  simp only [State.listen]
  split
  next => exact htidy.step hbefore (.refl state) rfl
  next htype =>
      split
      next => exact htidy.step hbefore (.refl state) rfl
      next hlocal =>
          have hpending := hserver (by simpa using htype) hlocal
          simp only [State.listenTcp]
          split
          next =>
              -- The server listens already, so only the flag is new.
              refine htidy.step hbefore ⟨rfl, rfl, ?_⟩ rfl
              rintro (_ | _ | _ | _) hslot
              · exact .inl hslot
              · exact .inl hslot
              · exact .inl hslot
              · exact .inr hpending.listening
          next =>
              split <;> refine htidy.step hbefore ⟨rfl, rfl, ?_⟩ rfl <;>
                rintro (_ | _ | _ | _) hslot
              all_goals first
                | exact .inl hslot
                | exact .inr hpending
                | exact .inr hpending.listening

theorem Tidy.sendTo (choice : Choice)
    (hudp : state.type = .udp → state.udp = none → Pending state .udp) :
    Tidy (state.sendTo id choice) := by
  simp only [State.sendTo]
  split
  next => exact htidy.step hbefore (.refl state) rfl
  next htype =>
      have hallowed : Allowed state state.ensureUdp :=
        allowed_ensureUdp (hudp (by simpa using htype))
      split
      next => exact htidy.step hbefore (.refl state) rfl
      next => exact htidy.await hbefore hallowed rfl _

theorem Tidy.accept (timed : Bool) (choice : Choice) : Tidy (state.accept id timed choice) := by
  rw [State.accept]
  split
  next => exact htidy.step hbefore (.refl state) rfl
  next => exact htidy.await hbefore (.refl state) rfl _

theorem Tidy.send (choice : Choice) : Tidy (state.send id choice) := by
  rw [State.send]
  split
  next =>
      split
      next => exact htidy.step hbefore (.refl state) rfl
      next => exact htidy.await hbefore (.refl state) rfl _
  next =>
      split
      next => exact htidy.step hbefore (.refl state) rfl
      next => exact htidy.await hbefore (.refl state) rfl _

theorem Tidy.recv (timed : Bool) (choice : Choice) : Tidy (state.recv id timed choice) := by
  rw [State.recv]
  split
  next =>
      split
      next => exact htidy.step hbefore (.refl state) rfl
      next => exact htidy.awaitRecv hbefore _ _ _
  next =>
      split
      next => exact htidy.step hbefore (.refl state) rfl
      next => exact htidy.awaitRecv hbefore _ _ _

theorem Tidy.recvFrom (timed : Bool) (choice : Choice) :
    Tidy (state.recvFrom id timed choice) := by
  rw [State.recvFrom]
  split
  next => exact htidy.step hbefore (.refl state) rfl
  next => exact htidy.awaitRecv hbefore _ _ _

theorem Tidy.connected (remote : Endpoint) (hconn : Pending state .conn) :
    Tidy (state.connected id remote) := by
  refine htidy.step hbefore ⟨rfl, rfl, ?_⟩ rfl
  rintro (_ | _ | _ | _) hslot
  · exact .inr hconn
  · exact .inl hslot
  · exact .inl hslot
  · exact .inl hslot

end OtherOperations

section Close

/-- A slot that is filled although this call of `close` is past it is left to another
call. -/
theorem Tidy.other {frame : Frame} {stage : Nat} {slot : Slot}
    (htidy : Tidy (state.setFrame id frame)) (hstage : frame.stage = some stage)
    (hslot : state.fills slot = true) (hpast : slot.rank ≤ stage) :
    ∃ other, other ≠ id ∧ (state.frame other).before slot := by
  have hself : ((state.setFrame id frame).frame id).stage = some stage := by
    simpa [State.setFrame] using hstage
  obtain ⟨-, hall⟩ | ⟨other, place, hplace, hrank⟩ := htidy slot (by simpa using hslot)
  · exact absurd (hall id stage hself) (by omega)
  · have hne : other ≠ id := by
      rintro rfl
      rw [hself] at hplace
      obtain rfl := Option.some.inj hplace
      omega
    exact ⟨other, hne, place, by simpa [State.setFrame, hne] using hplace, hrank⟩

/-- A call of `close` passes a slot that is clear by then. -/
theorem Tidy.pass {frame later : Frame} {stage : Nat} (slot : Slot)
    (htidy : Tidy (state.setFrame id frame)) (hstage : frame.stage = some stage)
    (hnext : later.stage = some slot.rank) (hrank : slot.rank = stage + 1)
    (hframe : after.frame = state.frame)
    (hfills : ∀ other, after.fills other = true → state.fills other = true)
    (hclear : after.fills slot = false) : Tidy (after.setFrame id later) := by
  intro other hother
  rw [fills_setFrame] at hother
  -- A slot ahead is left to this call, one behind it to another call of `close`.
  by_cases hahead : slot.rank < other.rank
  · exact .inr ⟨id, slot.rank, by simpa [State.setFrame] using hnext, hahead⟩
  · have hne : other ≠ slot := by
      rintro rfl
      simp [hclear] at hother
    have hpast : other.rank ≤ stage := by
      have hranks : other.rank ≠ slot.rank := fun heq => hne (Slot.rank_injective heq)
      omega
    obtain ⟨closer, hcloser, hbefore⟩ := htidy.other hstage (hfills other hother) hpast
    refine .inr ⟨closer, ?_⟩
    simpa [State.setFrame, hcloser, hframe] using hbefore

/-- A call of `close` can wait for another handle at the same stage. -/
theorem Tidy.sameStage {frame later : Frame} (htidy : Tidy (state.setFrame id frame))
    (hstage : later.stage = frame.stage) : Tidy (state.setFrame id later) := by
  intro slot hslot
  rw [fills_setFrame] at hslot
  refine (htidy slot (by rwa [fills_setFrame])).congr rfl fun other => ?_
  by_cases hself : other = id
  · subst hself
    simpa [State.setFrame] using hstage
  · simp [State.setFrame, hself]

/-- The last step of `close`. -/
theorem Tidy.closeFinish {frame : Frame} (htidy : Tidy (state.setFrame id frame))
    (hstage : frame.stage = some 3) : Tidy (state.closeFinish id) := by
  intro slot hslot
  have hbefore : ∃ other, other ≠ id ∧ (state.frame other).before slot := by
    cases slot with
    | conn => exact htidy.other hstage hslot (by decide)
    | server => exact htidy.other hstage hslot (by decide)
    | udp => exact htidy.other hstage hslot (by decide)
    | listening => simp [State.closeFinish, State.fills, State.setFrame] at hslot
  obtain ⟨other, hne, hbefore⟩ := hbefore
  refine .inr ⟨other, ?_⟩
  simpa [State.closeFinish, State.setFrame, hne] using hbefore

theorem Tidy.setHandle (htidy : Tidy state) (handle : HandleId) (status : Handle) :
    Tidy (state.setHandle handle status) := by
  intro slot hslot
  have hfills : state.fills slot = true := by
    cases slot <;> exact hslot
  exact (htidy slot hfills).congr rfl fun _ => rfl

theorem setHandle_setFrame (state : State) (handle : HandleId) (status : Handle) (id : FiberId)
    (frame : Frame) :
    (state.setHandle handle status).setFrame id frame =
      (state.setFrame id frame).setHandle handle status := rfl

/-- Waiting for a handle to close: either the call is at the stage of the wait, or it
goes on from there. -/
theorem Tidy.awaitClosed {handle : HandleId} {wait : Wait} {rest : State → State}
    (htidy : Tidy (state.setFrame id (.waiting wait)))
    (hrest : ∀ status, Tidy ((state.setHandle handle status).setFrame id (.waiting wait)) →
      Tidy (rest (state.setHandle handle status))) :
    Tidy (state.awaitClosed id handle wait rest) := by
  rw [State.awaitClosed]
  split
  next =>
      refine hrest .closed ?_
      rw [setHandle_setFrame]
      exact htidy.setHandle handle .closed
  next =>
      rw [setHandle_setFrame]
      exact htidy.setHandle handle .closing

theorem Tidy.resetUdp {handle : HandleId}
    (htidy : Tidy (state.setFrame id (.waiting (.closeUdp handle)))) :
    Tidy (state.resetUdp id) := by
  rw [State.resetUdp]
  split
  next hnone =>
      have hpast : Tidy (state.setFrame id (.waiting (.destroyUdp handle))) :=
        htidy.pass .udp rfl rfl rfl rfl (fun _ hslot => hslot) (by simp [State.fills, hnone])
      exact hpast.closeFinish rfl
  next other hsome =>
      have hpast : Tidy ({ state with udp := none }.setFrame id
          (.waiting (.destroyUdp other))) := by
        refine htidy.pass .udp rfl rfl rfl rfl ?_ rfl
        rintro (_ | _ | _ | _) hslot <;> simp_all [State.fills]
      exact hpast.awaitClosed fun status hclosed => hclosed.closeFinish rfl

theorem Tidy.closeUdp {handle : HandleId}
    (htidy : Tidy (state.setFrame id (.waiting (.closeUdp handle)))) :
    Tidy (state.closeUdp id) := by
  rw [State.closeUdp]
  split
  next hnone =>
      have hpast : Tidy (state.setFrame id (.waiting (.destroyUdp handle))) :=
        htidy.pass .udp rfl rfl rfl rfl (fun _ hslot => hslot) (by simp [State.fills, hnone])
      exact hpast.closeFinish rfl
  next other hsome =>
      have hsame : Tidy (state.setFrame id (.waiting (.closeUdp other))) := htidy.sameStage rfl
      exact hsame.awaitClosed fun status hclosed => hclosed.resetUdp

theorem Tidy.closeServer {handle : HandleId}
    (htidy : Tidy (state.setFrame id (.waiting (.destroyConn handle)))) :
    Tidy (state.closeServer id) := by
  have hpast : Tidy ({ state with tcpServer := none }.setFrame id
      (.waiting (.closeUdp handle))) := by
    refine htidy.pass .server rfl rfl rfl rfl ?_ rfl
    rintro (_ | _ | _ | _) hslot <;> simp_all [State.fills]
  exact hpast.closeUdp

theorem Tidy.resetConn {handle : HandleId}
    (htidy : Tidy (state.setFrame id (.waiting (.closeConn handle)))) :
    Tidy (state.resetConn id) := by
  rw [State.resetConn]
  split
  next hnone =>
      have hpast : Tidy (state.setFrame id (.waiting (.destroyConn handle))) :=
        htidy.pass .conn rfl rfl rfl rfl (fun _ hslot => hslot) (by simp [State.fills, hnone])
      exact hpast.closeServer
  next other hsome =>
      have hpast : Tidy ({ state with tcpConn := none }.setFrame id
          (.waiting (.destroyConn other))) := by
        refine htidy.pass .conn rfl rfl rfl rfl ?_ rfl
        rintro (_ | _ | _ | _) hslot <;> simp_all [State.fills]
      exact hpast.awaitClosed fun status hclosed => hclosed.closeServer

/-- A call of `close` that has cleared nothing yet has everything still to clear. -/
theorem tidy_closeConn (state : State) (id : FiberId) (handle : HandleId) :
    Tidy (state.setFrame id (.waiting (.closeConn handle))) := by
  intro slot _
  refine .inr ⟨id, 0, by simp [State.setFrame, Frame.stage], ?_⟩
  cases slot <;> decide

theorem Tidy.closeConn (state : State) (id : FiberId) : Tidy (state.closeConn id) := by
  rw [State.closeConn]
  split
  next hnone =>
      have hpast : Tidy (state.setFrame id (.waiting (.destroyConn 0))) :=
        (tidy_closeConn state id 0).pass .conn rfl rfl rfl rfl (fun _ hslot => hslot)
          (by simp [State.fills, hnone])
      exact hpast.closeServer
  next handle hsome =>
      exact (tidy_closeConn state id handle).awaitClosed fun status hclosed => hclosed.resetConn

theorem Tidy.close (htidy : Tidy state) (hbefore : (state.frame id).stage = none) :
    Tidy (state.close id) := by
  rw [State.close]
  split
  next =>
      intro slot hslot
      cases slot <;> simp [State.closeDead, State.fills, State.setFrame] at hslot
  next =>
      split
      next => exact htidy.step hbefore (.refl state) rfl
      next => exact .closeConn state id

end Close

theorem Tidy.whileAlive (htidy : Tidy state) (hbefore : (state.frame id).stage = none)
    {body : State → State} (hbody : state.alive = true → Tidy (body state)) :
    Tidy (state.whileAlive id body) := by
  rw [State.whileAlive]
  split
  next => exact htidy.step hbefore (.refl state) rfl
  next hdead => exact hbody (by simpa using hdead)

theorem Tidy.begin (htidy : Tidy state) (hbefore : (state.frame id).stage = none) {op : Op}
    {choice : Choice} (htimely : Timely state (.begin id op choice)) :
    Tidy (state.begin id choice op) := by
  cases op with
  | bind localEndpoint =>
      exact htidy.whileAlive hbefore fun halive => htidy.bind hbefore _ _ (htimely halive)
  | listen backlog =>
      exact htidy.whileAlive hbefore fun halive => htidy.listen hbefore _ (htimely halive)
  | accept timed => exact htidy.whileAlive hbefore fun _ => htidy.accept hbefore _ _
  | connect timed remote =>
      exact htidy.whileAlive hbefore fun halive => htidy.connect hbefore _ _ _ (htimely halive)
  | send => exact htidy.whileAlive hbefore fun _ => htidy.send hbefore _
  | recv timed => exact htidy.whileAlive hbefore fun _ => htidy.recv hbefore _ _
  | sendTo remote =>
      exact htidy.whileAlive hbefore fun halive => htidy.sendTo hbefore _ (htimely halive)
  | recvFrom timed => exact htidy.whileAlive hbefore fun _ => htidy.recvFrom hbefore _ _
  | close => exact htidy.close hbefore

theorem Tidy.current (htidy : Tidy state) {frame : Frame} (hframe : state.frame id = frame) :
    Tidy (state.setFrame id frame) := by
  rw [State.setFrame, ← hframe, Function.update_eq_self]
  exact htidy

theorem Tidy.resume (htidy : Tidy state) {choice : Choice} {wait : Wait}
    (hframe : state.frame id = .waiting wait) (htimely : Timely state (.resume id choice))
    (hstep : state.resume id choice wait = some after) : Tidy after := by
  have hcurrent := htidy.current hframe
  cases wait with
  | accept timed =>
      have hbefore : (state.frame id).stage = none := by simp [hframe, Frame.stage]
      exact htidy.settle hbefore (fun _ _ => htidy.step hbefore (.refl state) rfl) hstep
  | connect timed remote =>
      have hbefore : (state.frame id).stage = none := by simp [hframe, Frame.stage]
      refine htidy.settle hbefore ?_ hstep
      rintro sender rfl
      exact htidy.connected hbefore remote (htimely timed remote hframe)
  | send =>
      have hbefore : (state.frame id).stage = none := by simp [hframe, Frame.stage]
      exact htidy.settle hbefore (fun _ _ => htidy.step hbefore (.refl state) rfl) hstep
  | recv timed setsPeer =>
      have hbefore : (state.frame id).stage = none := by simp [hframe, Frame.stage]
      exact htidy.settle hbefore (fun sender _ => htidy.received hbefore setsPeer sender) hstep
  | closeConn handle =>
      simp only [State.resume] at hstep
      split at hstep
      next =>
          obtain rfl := Option.some.inj hstep
          exact hcurrent.resetConn
      next => exact absurd hstep (by simp)
  | destroyConn handle =>
      simp only [State.resume] at hstep
      split at hstep
      next =>
          obtain rfl := Option.some.inj hstep
          exact hcurrent.closeServer
      next => exact absurd hstep (by simp)
  | closeUdp handle =>
      simp only [State.resume] at hstep
      split at hstep
      next =>
          obtain rfl := Option.some.inj hstep
          exact hcurrent.resetUdp
      next => exact absurd hstep (by simp)
  | destroyUdp handle =>
      simp only [State.resume] at hstep
      split at hstep
      next =>
          obtain rfl := Option.some.inj hstep
          exact hcurrent.closeFinish rfl
      next => exact absurd hstep (by simp)

theorem step_tidy (state : State) (action : Action) (next : State) (htidy : Tidy state)
    (htimely : Timely state action) (hstep : machine.step state action = some next) :
    Tidy next := by
  cases action with
  | begin id op choice =>
      simp only [machine, step] at hstep
      split at hstep
      next => exact absurd hstep (by simp)
      next hframe =>
          obtain rfl := Option.some.inj hstep
          refine htidy.begin ?_ htimely
          cases hcase : state.frame id with
          | waiting wait => exact absurd hcase (hframe wait)
          | _ => rfl
  | resume id choice =>
      simp only [machine, step] at hstep
      split at hstep
      next wait hframe => exact htidy.resume hframe htimely hstep
      next => exact absurd hstep (by simp)
  | onClosed handle =>
      simp only [machine, step] at hstep
      split at hstep
      next =>
          obtain rfl := Option.some.inj hstep
          exact htidy.setHandle handle .closed
      next => exact absurd hstep (by simp)
  | endLoop =>
      obtain rfl := Option.some.inj hstep
      intro slot hslot
      have hfills : state.fills slot = true := by
        cases slot <;> exact hslot
      exact (htidy slot hfills).congr rfl fun _ => rfl

theorem Tidy.staysClosed (htidy : Tidy state) : StaysClosed state := by
  intro hclosed hquiet
  have hempty : ∀ slot, state.fills slot = false := by
    intro slot
    by_contra hslot
    obtain ⟨hopen, -⟩ | ⟨id, stage, hstage, -⟩ := htidy slot (by simpa using hslot)
    · simp [hclosed] at hopen
    · have hnone := hquiet id
      cases hframe : state.frame id with
      | waiting wait => cases wait <;> simp_all [Frame.stage, Frame.closing]
      | _ => simp [hframe, Frame.stage] at hstage
  refine ⟨?_, ?_, ?_, hempty .listening⟩
  · simpa [State.fills] using hempty .conn
  · simpa [State.fills] using hempty .server
  · simpa [State.fills] using hempty .udp

/-- In every run in which operations fill a slot only while it is going to be cleared, a
socket that is closed and not being closed has no sub-handle and does not listen. -/
theorem staysClosed_of_timely (origin : Origin) (run : List Action) (state : State)
    (hmeets : machine.Meets Timely run (initial origin))
    (hrun : machine.run run (initial origin) = some state) : StaysClosed state :=
  (Machine.run_invariant step_tidy run (initial origin) state (tidy_initial origin) hmeets
    hrun).staysClosed

/-- A server that listens and a connection, closed by one fiber while another one tries
to send. -/
def closedAfterwards : List Action :=
  [.begin 0 (.bind somewhere) .suspended, .begin 0 (.listen 16) (.completed somewhere),
    .begin 0 (.connect false somewhere) .suspended, .resume 0 (.completed somewhere),
    .begin 0 .close .suspended, .begin 1 .send .suspended, .onClosed 0,
    .resume 0 (.completed somewhere)]

theorem staysClosed_closedAfterwards :
    ∃ state, machine.run closedAfterwards (initial .tcp) = some state ∧ state.closed = true ∧
      StaysClosed state := by
  have hopen : ∀ (state : State) (slot : Slot), state.closed = false →
      (∀ id, (state.frame id).stage = none) → Pending state slot := by
    intro state slot hclosed hstages
    exact .inl ⟨hclosed, fun id stage hstage => by simp [hstages id] at hstage⟩
  refine ⟨_, rfl, rfl, staysClosed_of_timely .tcp closedAfterwards _ ?_ rfl⟩
  refine Machine.meets_cons (by simp [Timely, initial]) rfl (Machine.meets_cons ?_ rfl
    (Machine.meets_cons ?_ rfl (Machine.meets_cons ?_ rfl (Machine.meets_cons trivial rfl
      (Machine.meets_cons trivial rfl (Machine.meets_cons trivial rfl
        (Machine.meets_cons ?_ rfl trivial)))))))
  · exact fun _ _ _ => hopen _ _ rfl (by rintro (_ | id) <;> rfl)
  · exact fun _ htype => nomatch htype
  · exact fun _ _ _ => hopen _ _ rfl (by rintro (_ | id) <;> rfl)
  · exact fun _ _ hframe => nomatch hframe

end Fiberuv.Io.Socket
