import Fiberuv.Foundation.Linearizing
import Fiberuv.MessageQueue.Delivery

/-! # The queue as a channel

Seen from its callers the queue is a channel that is used by one call at a time. A send
takes effect in its critical section, and so does the receive that its message goes to, if
one waits in `fiber_waiters_`. The receives that `close` releases take effect right after
it. A `recv_for` that leaves while its message is being handed over takes effect all the
same: the channel it sees is one that loses the message.
-/

namespace Fiberuv.MessageQueue

open Foundation Foundation.Linearizing

variable {α : Type}

/-- How long a receive waits. -/
inductive Patience where
  /-- `recv` and `recv_blocking`, until there is a message or the queue is closed. -/
  | lasting
  /-- `recv_for`. -/
  | timed
  /-- `recv_blocking_for` and `try_recv`. -/
  | brief
  deriving DecidableEq

/-- Of the calls that park on `recv_cv_`. -/
def Patience.parked (timed : Bool) : Patience :=
  if timed then .brief else .lasting

/-- What a call asks for. -/
inductive Request (α : Type) where
  | send (value : α)
  | receive (patience : Patience)
  | close

inductive Answer (α : Type) where
  | sent (accepted : Bool)
  | received (value : Option α)
  | closed

structure Channel (α : Type) where
  items : List α := []
  closed : Bool := false

/-- What a channel does for one call. Only a lossy one may take a message for a `recv_for`
that has given up. -/
inductive Channel.Serves (lossy : Bool) :
    Channel α → Request α → Answer α → Channel α → Prop where
  | accept (items : List α) (value : α) :
      Serves lossy ⟨items, false⟩ (.send value) (.sent true) ⟨items ++ [value], false⟩
  | refuse (items : List α) (value : α) :
      Serves lossy ⟨items, true⟩ (.send value) (.sent false) ⟨items, true⟩
  | deliver (value : α) (rest : List α) (closed : Bool) (patience : Patience) :
      Serves lossy ⟨value :: rest, closed⟩ (.receive patience) (.received (some value))
        ⟨rest, closed⟩
  | drained (patience : Patience) :
      Serves lossy ⟨[], true⟩ (.receive patience) (.received none) ⟨[], true⟩
  | expire {patience : Patience} (hpatience : patience ≠ .lasting) (closed : Bool) :
      Serves lossy ⟨[], closed⟩ (.receive patience) (.received none) ⟨[], closed⟩
  | lose (hlossy : lossy = true) (value : α) (rest : List α) (closed : Bool) :
      Serves lossy ⟨value :: rest, closed⟩ (.receive .timed) (.received none) ⟨rest, closed⟩
  | close (items : List α) (closed : Bool) :
      Serves lossy ⟨items, closed⟩ .close .closed ⟨items, true⟩

abbrev History (α : Type) := List (Event CallId (Request α) (Answer α))

/-- What a call asks for when this is its first step. -/
def Action.request : Action α → Option (Request α)
  | .send _ value _ => some (.send value)
  | .recv _ | .recvBlocking _ => some (.receive .lasting)
  | .recvFor _ => some (.receive .timed)
  | .recvBlockingFor _ | .tryRecv _ => some (.receive .brief)
  | .close _ => some .close
  | _ => none

/-- What a call that has returned was given. -/
def Call.answer : Call α → Option (Answer α)
  | .sent _ accepted => some (.sent accepted)
  | .received result => some (.received (result.map Message.value))
  | .closeDone => some .closed
  | _ => none

/-- The return of a call that has come to this position. -/
def Call.ending (call : CallId) (position : Call α) : History α :=
  (position.answer.map (.returned call)).toList

theorem Call.ending_of_none {call : CallId} {position : Call α} (hanswer : position.answer = none) :
    position.ending call = [] := by
  rw [ending, hanswer]
  rfl

/-- What the callers see of a step: the beginning of a call, and its return. -/
def State.seen (state : State α) (action : Action α) : History α :=
  (action.request.map (.invoked action.call)).toList ++
    match state.step action with
    | some next => (next.calls action.call).ending action.call
    | none => []

theorem seen_of_step {state next : State α} {action : Action α}
    (hstep : state.step action = some next) :
    state.seen action = (action.request.map (.invoked action.call)).toList ++
      (next.calls action.call).ending action.call := by
  rw [State.seen, hstep]

/-- What its callers see of the queue along a run. -/
def history (actions : List (Action α)) : History α :=
  (machine α).trace State.seen actions (initial α)

def State.channel (state : State α) : Channel α :=
  ⟨state.queue.map Message.value, state.closed⟩

/-- The one message assigned to a receive call, if there is one. -/
def State.Due (state : State α) (call : CallId) (result : Option (Message α)) : Prop :=
  ∀ message, (call, message) ∈ state.assigned ↔ result = some message

/-- The stage of a receive call that has registered its promise. -/
def State.Registered (state : State α) (call : CallId) (patience : Patience)
    (stage : Stage (Request α) (Answer α)) : Prop :=
  call ∈ state.fiberWaiters ∧ stage = .invoked (.receive patience) ∨
    call ∉ state.fiberWaiters ∧ ∃ result, state.Due call result ∧
      stage = .served (.receive patience) (.received (result.map Message.value))

/-- How far a call at this position is, seen from the channel. -/
def State.Fits (state : State α) (call : CallId) (stage : Stage (Request α) (Answer α)) :
    Call α → Prop
  | .idle => stage = .absent
  | .handingOff message _ => stage = .served (.send message.value) (.sent true)
  | .recvWaiting => state.Registered call .lasting stage
  | .recvForWaiting | .recvForExpired | .recvForRechecking => state.Registered call .timed stage
  | .blocked timed => stage = .invoked (.receive (.parked timed))
  | .closing _ _ => stage = .served .close .closed
  | .sent _ _ | .received _ | .closeDone => stage = .returned
  | .sendThrew _ => True

/-- Nothing has changed in the lists of the queue for this call. -/
def Alike (state base : State α) (call : CallId) : Prop :=
  (call ∈ base.fiberWaiters ↔ call ∈ state.fiberWaiters) ∧
    ∀ message, (call, message) ∈ base.assigned ↔ (call, message) ∈ state.assigned

theorem Alike.fits {state base : State α} {call : CallId} (halike : Alike state base call)
    {stage : Stage (Request α) (Answer α)} {position : Call α}
    (hfits : state.Fits call stage position) : base.Fits call stage position := by
  obtain ⟨hwaiters, hassigned⟩ := halike
  cases position <;>
    first
    | exact hfits
    | simpa only [State.Fits, State.Registered, State.Due, hwaiters, hassigned] using hfits

/-- The queue goes with an account of its history. -/
structure Sound (lossy : Bool) (state : State α) (history : History α)
    (order : List (Served CallId (Request α) (Answer α)))
    (stage : CallId → Stage (Request α) (Answer α)) : Prop where
  account : Account (Channel.Serves lossy) {} history order stage state.channel
  fits : ∀ call, state.Fits call (stage call) (state.calls call)

def Accounted (lossy : Bool) (history : History α) (state : State α) : Prop :=
  ∃ order stage, Sound lossy state history order stage

theorem Sound.standing {lossy : Bool} {state : State α} {history : History α}
    {order : List (Served CallId (Request α) (Answer α))}
    {stage : CallId → Stage (Request α) (Answer α)} (hsound : Sound lossy state history order stage)
    {call : CallId} {position : Call α} (hcall : state.calls call = position) :
    state.Fits call (stage call) position :=
  hcall ▸ hsound.fits call

theorem sound_initial (lossy : Bool) :
    Sound lossy (initial α) [] [] fun _ => .absent where
  account := account_start _
  fits _ := rfl

section Steps

variable {lossy : Bool} {state base : State α} {history later : History α}
  {order newOrder : List (Served CallId (Request α) (Answer α))}
  {stage : CallId → Stage (Request α) (Answer α)}

theorem Sound.parked (hsound : Sound lossy state history order stage) (parked : List CallId) :
    Sound lossy { state with parked := parked } history order stage :=
  ⟨hsound.account, fun call => Alike.fits ⟨Iff.rfl, fun _ => Iff.rfl⟩ (hsound.fits call)⟩

/-- One call moves; nothing changes for the others. -/
theorem Sound.own (hsound : Sound lossy state history order stage) {call : CallId}
    {position : Call α} {newStage : Stage (Request α) (Answer α)}
    (haccount : Account (Channel.Serves lossy) {} later newOrder
      (Function.update stage call newStage) base.channel)
    (hfits : base.Fits call newStage position) (hcalls : base.calls = state.calls)
    (halike : ∀ other, other ≠ call → Alike state base other) :
    Accounted lossy later (base.become call position) := by
  refine ⟨newOrder, _, haccount, fun other => ?_⟩
  obtain rfl | hne := eq_or_ne other call
  · rw [State.become_calls_self, Function.update_self]
    exact Alike.fits ⟨Iff.rfl, fun _ => Iff.rfl⟩ hfits
  · rw [State.become_calls_of_ne hne, Function.update_of_ne hne, hcalls]
    obtain ⟨hwaiters, hassigned⟩ := halike other hne
    exact Alike.fits ⟨hwaiters, hassigned⟩ (hsound.fits other)

theorem alike_refl (state : State α) (call : CallId) : Alike state state call :=
  ⟨Iff.rfl, fun _ => Iff.rfl⟩

/-- The account of a call that has begun, or goes on after it was parked. -/
theorem account_begun (hsound : Sound lossy state history order stage) {call : CallId}
    {request : Request α} (hstage : stage call = .invoked request) :
    Account (Channel.Serves lossy) {} history order
      (Function.update stage call (.invoked request)) state.channel := by
  rw [← hstage, Function.update_eq_self]
  exact hsound.account

/-- The call returns without having changed the queue. -/
theorem Sound.answer (hsound : Sound lossy state history order stage) {call : CallId}
    {position : Call α} {request : Request α} {answer : Answer α}
    (hbegun : Account (Channel.Serves lossy) {} later order
      (Function.update stage call (.invoked request)) state.channel)
    (hserves : Channel.Serves lossy state.channel request answer base.channel)
    (hposition : base.Fits call .returned position) (hanswer : position.answer = some answer)
    (hcalls : base.calls = state.calls)
    (halike : ∀ other, other ≠ call → Alike state base other) :
    Accounted lossy (later ++ ((base.become call position).calls call).ending call)
      (base.become call position) := by
  have hreturned := hbegun.answer (Function.update_self call _ stage) hserves
  rw [Function.update_idem] at hreturned
  rw [State.become_calls_self, Call.ending, hanswer]
  exact hsound.own hreturned hposition hcalls halike

/-- A receive takes the front of the queue. -/
theorem Sound.take (hsound : Sound lossy state history order stage) {call : CallId}
    {patience : Patience} {front : Message α} {rest : List (Message α)}
    (hbegun : Account (Channel.Serves lossy) {} later order
      (Function.update stage call (.invoked (.receive patience))) state.channel)
    (hqueue : state.queue = front :: rest) :
    Accounted lossy
      (later ++ ((state.popFrontUnlocked call front rest).calls call).ending call)
      (state.popFrontUnlocked call front rest) := by
  refine hsound.answer hbegun ?_ rfl rfl rfl fun other hne => ⟨Iff.rfl, fun message => ?_⟩
  · rw [State.channel, hqueue]
    exact .deliver front.value (rest.map Message.value) state.closed patience
  · simp [hne]

/-- A receive finds nothing and reports that. -/
theorem Sound.nothing (hsound : Sound lossy state history order stage) {call : CallId}
    {patience : Patience}
    (hbegun : Account (Channel.Serves lossy) {} later order
      (Function.update stage call (.invoked (.receive patience))) state.channel)
    (hqueue : state.queue = []) (hmay : state.closed = true ∨ patience ≠ .lasting) :
    Accounted lossy (later ++ ((state.become call (.received none)).calls call).ending call)
      (state.become call (.received none)) := by
  refine hsound.answer hbegun ?_ rfl rfl rfl fun other _ => alike_refl state other
  rw [State.channel, hqueue]
  rcases hmay with hclosed | hpatience
  · rw [hclosed]
    exact .drained patience
  · exact .expire hpatience state.closed

theorem Sound.takeOrNull (hsound : Sound lossy state history order stage) {call : CallId}
    (hbegun : Account (Channel.Serves lossy) {} later order
      (Function.update stage call (.invoked (.receive .brief))) state.channel) :
    Accounted lossy (later ++ ((state.takeOrNull call).calls call).ending call)
      (state.takeOrNull call) := by
  unfold State.takeOrNull
  split
  next front rest hqueue => exact hsound.take hbegun hqueue
  next hqueue => exact hsound.nothing hbegun hqueue (.inr (by decide))

/-- A call that goes on without having been served. -/
theorem Sound.waits (hsound : Sound lossy state history order stage) {call : CallId}
    {position : Call α} {request : Request α}
    (hbegun : Account (Channel.Serves lossy) {} later order
      (Function.update stage call (.invoked request)) state.channel)
    (hposition : base.Fits call (.invoked request) position) (hanswer : position.answer = none)
    (hcalls : base.calls = state.calls) (hchannel : base.channel = state.channel)
    (halike : ∀ other, other ≠ call → Alike state base other) :
    Accounted lossy (later ++ ((base.become call position).calls call).ending call)
      (base.become call position) := by
  rw [State.become_calls_self, Call.ending_of_none hanswer, List.append_nil]
  rw [← hchannel] at hbegun
  exact hsound.own hbegun hposition hcalls halike

theorem Sound.takeOrPark (hsound : Sound lossy state history order stage) {call : CallId}
    {timed : Bool}
    (hbegun : Account (Channel.Serves lossy) {} later order
      (Function.update stage call (.invoked (.receive (.parked timed)))) state.channel) :
    Accounted lossy (later ++ ((state.takeOrPark call timed).calls call).ending call)
      (state.takeOrPark call timed) := by
  unfold State.takeOrPark
  split
  next front rest hqueue => exact hsound.take hbegun hqueue
  next hqueue =>
    split
    next hclosed => exact hsound.nothing hbegun hqueue (.inl hclosed)
    next =>
      exact hsound.waits hbegun rfl rfl rfl rfl fun other _ => alike_refl _ _

theorem Sound.takeOrRegister (hsound : Sound lossy state history order stage) {call : CallId}
    {patience : Patience} {waiting : Call α}
    (hbegun : Account (Channel.Serves lossy) {} later order
      (Function.update stage call (.invoked (.receive patience))) state.channel)
    (hwaiting : ∀ (base : State α) (stage : Stage (Request α) (Answer α)),
      base.Registered call patience stage → base.Fits call stage waiting)
    (hanswer : waiting.answer = none) :
    Accounted lossy (later ++ ((state.takeOrRegister call waiting).calls call).ending call)
      (state.takeOrRegister call waiting) := by
  unfold State.takeOrRegister
  split
  next front rest hqueue => exact hsound.take hbegun hqueue
  next hqueue =>
    split
    next hclosed => exact hsound.nothing hbegun hqueue (.inl hclosed)
    next =>
      refine hsound.waits hbegun (hwaiting _ _ (.inl ⟨?_, rfl⟩)) hanswer rfl rfl ?_
      · exact List.mem_append_right _ List.mem_cons_self
      · exact fun other hne => ⟨by simp [hne], fun message => Iff.rfl⟩

/-- A receive whose promise is in the list has not been served. It stays what it is until it
is, and then as long as it has not returned. -/
theorem Sound.waiting (hsound : Sound lossy state history order stage) (hledger : Ledger state)
    {call : CallId} (hmem : call ∈ state.fiberWaiters) :
    ∃ patience, stage call = .invoked (.receive patience) ∧
      ∀ (base : State α) (stage : Stage (Request α) (Answer α)),
        base.Registered call patience stage → base.Fits call stage (state.calls call) := by
  have hregistrable := (hledger.registered call hmem).1
  have hregistered : ∀ patience, state.Registered call patience (stage call) →
      stage call = .invoked (.receive patience) := by
    intro patience hregistered
    rcases hregistered with ⟨-, hstage⟩ | ⟨hnot, -⟩
    · exact hstage
    · exact absurd hmem hnot
  cases hcall : state.calls call with
  | recvWaiting =>
      exact ⟨.lasting, hregistered .lasting (hsound.standing hcall), fun _ _ hlater => hlater⟩
  | recvForWaiting =>
      exact ⟨.timed, hregistered .timed (hsound.standing hcall), fun _ _ hlater => hlater⟩
  | recvForExpired =>
      exact ⟨.timed, hregistered .timed (hsound.standing hcall), fun _ _ hlater => hlater⟩
  | _ => simp [hcall, Call.registrable] at hregistrable

/-- A send hands its message to the first waiter: both take effect. -/
theorem Sound.bindWaiter (hsound : Sound lossy state history order stage) (hledger : Ledger state)
    {call waiter : CallId} {rest : List CallId} {value : α} (hidle : state.calls call = .idle)
    (hbegun : Account (Channel.Serves lossy) {} later order
      (Function.update stage call (.invoked (.send value))) state.channel)
    (hopen : state.closed = false) (hwaiters : state.fiberWaiters = waiter :: rest) :
    Accounted lossy later ((state.bindWaiter waiter rest ⟨call, value⟩).become call
      (.handingOff ⟨call, value⟩ waiter)) := by
  have hmem : waiter ∈ state.fiberWaiters := by simp [hwaiters]
  obtain ⟨hregistrable, -, hunassigned⟩ := hledger.registered waiter hmem
  have hqueue := hledger.waitersQueue (List.ne_nil_of_mem hmem)
  have hne : waiter ≠ call := by
    rintro rfl
    simp [hidle, Call.registrable] at hregistrable
  obtain ⟨patience, hstage, hlater⟩ := hsound.waiting hledger hmem
  have hchannel : state.channel = ⟨[], false⟩ := by simp [State.channel, hqueue, hopen]
  have haccept : Channel.Serves lossy state.channel (.send value) (.sent true)
      ⟨[value], false⟩ := hchannel ▸ .accept [] value
  have hdeliver : Channel.Serves lossy ⟨[value], false⟩ (.receive patience)
      (.received (some value)) state.channel := hchannel ▸ .deliver value [] false patience
  have hsent := hbegun.serve (Function.update_self call _ stage) haccept
  rw [Function.update_idem] at hsent
  have hwaits : Function.update stage call (.served (.send value) (.sent true)) waiter =
      .invoked (.receive patience) := by
    rw [Function.update_of_ne hne, hstage]
  have hreceived := hsent.serve hwaits hdeliver
  refine ⟨_, _, hreceived, fun other => ?_⟩
  obtain rfl | hcall := eq_or_ne other call
  · rw [State.become_calls_self, Function.update_of_ne hne.symm, Function.update_self]
    rfl
  rw [State.become_calls_of_ne hcall]
  obtain rfl | hwaiter := eq_or_ne other waiter
  · rw [Function.update_self]
    have hnodup := hledger.waitersNodup
    rw [hwaiters, List.nodup_cons] at hnodup
    refine Alike.fits (alike_refl (state.bindWaiter other rest ⟨call, value⟩) other)
      (hlater _ _ (.inr ⟨hnodup.1, some ⟨call, value⟩, fun message => ?_, rfl⟩))
    simp [State.bindWaiter, hunassigned message, eq_comm]
  · rw [Function.update_of_ne hwaiter, Function.update_of_ne hcall]
    refine Alike.fits ⟨?_, fun message => ?_⟩ (hsound.fits other)
    · simp [State.bindWaiter, hwaiters, hwaiter]
    · simp [State.bindWaiter, hwaiter]

/-- The critical section of a send. -/
theorem Sound.sendPayload (hsound : Sound lossy state history order stage)
    (hledger : Ledger state) {call : CallId} {value : α} {woken : Option CallId}
    {next : State α} (hidle : state.calls call = .idle)
    (hbegun : Account (Channel.Serves lossy) {} later order
      (Function.update stage call (.invoked (.send value))) state.channel)
    (hsend : state.sendPayload call value woken = some next) :
    Accounted lossy (later ++ (next.calls call).ending call) next := by
  unfold State.sendPayload at hsend
  split at hsend
  next hclosed =>
    cases hsend
    refine hsound.answer hbegun ?_ rfl rfl rfl fun other _ => alike_refl state other
    rw [State.channel, hclosed]
    exact .refuse _ value
  next hopen =>
    rw [Bool.not_eq_true] at hopen
    have haccept : Channel.Serves lossy state.channel (.send value) (.sent true)
        (state.pushBack ⟨call, value⟩).channel := by
      simp only [State.channel, State.pushBack, hopen, List.map_append, List.map_cons,
        List.map_nil]
      exact .accept _ value
    split at hsend
    next waiter rest hwaiters =>
      cases hsend
      rw [State.become_calls_self, Call.ending_of_none rfl, List.append_nil]
      exact hsound.bindWaiter hledger hidle hbegun hopen hwaiters
    next =>
      obtain ⟨notified, hnotify, rfl⟩ := Option.map_eq_some_iff.mp hsend
      obtain ⟨parked, rfl⟩ := State.notifyOne_parked hnotify
      refine hsound.answer hbegun haccept rfl rfl rfl fun other _ => ⟨Iff.rfl, fun _ => Iff.rfl⟩

/-- A call that has been served, or waits to be, comes to another position. -/
theorem Sound.moves (hsound : Sound lossy state history order stage) {call : CallId}
    {position : Call α} (hposition : base.Fits call (stage call) position)
    (hanswer : position.answer = none) (hcalls : base.calls = state.calls)
    (hchannel : base.channel = state.channel)
    (halike : ∀ other, other ≠ call → Alike state base other) :
    Accounted lossy (history ++ ((base.become call position).calls call).ending call)
      (base.become call position) := by
  have haccount := hsound.account
  rw [← Function.update_eq_self call stage, ← hchannel] at haccount
  rw [State.become_calls_self, Call.ending_of_none hanswer, List.append_nil]
  exact hsound.own haccount hposition hcalls halike

/-- A call that has been served returns. -/
theorem Sound.returns (hsound : Sound lossy state history order stage) {call : CallId}
    {position : Call α} {request : Request α} {answer : Answer α}
    (hstage : stage call = .served request answer) (hposition : base.Fits call .returned position)
    (hanswer : position.answer = some answer) (hcalls : base.calls = state.calls)
    (hchannel : base.channel = state.channel)
    (halike : ∀ other, other ≠ call → Alike state base other) :
    Accounted lossy (history ++ ((base.become call position).calls call).ending call)
      (base.become call position) := by
  have haccount := hsound.account.finish hstage
  rw [← hchannel] at haccount
  rw [State.become_calls_self, Call.ending, hanswer]
  exact hsound.own haccount hposition hcalls halike

/-- A receive call that waits for its promise. -/
theorem Sound.awaiting (hsound : Sound lossy state history order stage) {call : CallId}
    (hawaits : (state.calls call).awaits = true) :
    ∃ patience, state.Registered call patience (stage call) := by
  cases hcall : state.calls call with
  | recvWaiting => exact ⟨.lasting, hsound.standing hcall⟩
  | recvForWaiting | recvForExpired | recvForRechecking =>
      exact ⟨.timed, hsound.standing hcall⟩
  | _ => simp [hcall, Call.awaits] at hawaits

/-- No message is assigned to a call that `close` has released. -/
def NoneDue (state : State α) : Prop :=
  ∀ call, state.promise call = some none → ∀ message, (call, message) ∉ state.assigned

theorem noneDue_initial : NoneDue (initial α) := by
  intro call hset
  cases hset

/-- The promise has what is due to the call. -/
theorem Sound.ready (hsound : Sound lossy state history order stage) (hledger : Ledger state)
    (hnone : NoneDue state) {call : CallId} {result : Option (Message α)}
    (hawaits : (state.calls call).awaits = true) (hset : state.promise call = some result) :
    Accounted lossy (history ++ ((state.become call (.received result)).calls call).ending call)
      (state.become call (.received result)) := by
  obtain ⟨patience, ⟨hmem, -⟩ | ⟨-, due, hdue, hstage⟩⟩ := hsound.awaiting hawaits
  · simp [(hledger.registered call hmem).2.1] at hset
  obtain rfl : due = result := by
    cases result with
    | none =>
        refine Option.eq_none_iff_forall_ne_some.mpr fun message hsome => ?_
        exact hnone call hset message ((hdue message).mpr hsome)
    | some message => exact (hdue message).mp (hledger.fulfilled call message hset)
  exact hsound.returns hstage rfl rfl rfl rfl fun other _ => alike_refl state other

/-- A `recv_for` whose promise is still in the list gives up. -/
theorem Sound.withdraw (hsound : Sound lossy state history order stage) (hledger : Ledger state)
    {call : CallId} (hexpired : state.calls call = .recvForExpired)
    (hmem : call ∈ state.fiberWaiters) :
    Accounted lossy (history ++ [.returned call (.received none)])
      ({ state with fiberWaiters := state.fiberWaiters.erase call }.become call
        (.received none)) := by
  rcases hsound.standing hexpired with ⟨-, hstage⟩ | ⟨hnot, -⟩
  · have hqueue := hledger.waitersQueue (List.ne_nil_of_mem hmem)
    have hserves : Channel.Serves lossy state.channel (.receive .timed) (.received none)
        state.channel := by
      rw [State.channel, hqueue]
      exact .expire (by decide) state.closed
    refine hsound.own (hsound.account.answer hstage hserves) rfl rfl fun other hne => ⟨?_, ?_⟩
    · exact List.mem_erase_of_ne hne
    · exact fun message => Iff.rfl
  · exact absurd hmem hnot

/-- A `recv_for` that tests its promise for the last time too early reports its timeout. A
message handed over to it is lost. -/
theorem Sound.abandon (hsound : Sound lossy state history order stage) (hledger : Ledger state)
    {call : CallId} (hrecheck : state.calls call = .recvForRechecking)
    (hlossless : lossy = false → ∀ message, (call, message) ∉ state.assigned) :
    Accounted lossy (history ++ ((state.become call (.received none)).calls call).ending call)
      (state.become call (.received none)) := by
  rcases hsound.standing hrecheck with ⟨hmem, -⟩ | ⟨-, due, hdue, hstage⟩
  · have hregistrable := (hledger.registered call hmem).1
    simp [hrecheck, Call.registrable] at hregistrable
  cases due with
  | none => exact hsound.returns hstage rfl rfl rfl rfl fun other _ => alike_refl state other
  | some message =>
      have hlossy : lossy = true := by
        by_contra hnot
        exact hlossless (Bool.not_eq_true _ ▸ hnot) message ((hdue message).mpr rfl)
      have hlose : ∀ before after, Channel.Serves lossy before (.receive .timed)
          (.received (some message.value)) after →
          Channel.Serves lossy before (.receive .timed) (.received none) after := by
        intro before after hserves
        cases hserves with
        | deliver => exact .lose hlossy _ _ _
      obtain ⟨amended, haccount⟩ := hsound.account.amend hstage hlose
      have hreturned := haccount.finish (Function.update_self call _ stage)
      rw [Function.update_idem] at hreturned
      rw [State.become_calls_self]
      exact hsound.own hreturned rfl rfl fun other _ => alike_refl state other

/-- The critical section of `close`: the waiters are served right after it. -/
theorem Sound.beginClose (hsound : Sound lossy state history order stage) (hledger : Ledger state)
    {call : CallId} (hidle : state.calls call = .idle)
    (hbegun : Account (Channel.Serves lossy) {} later order
      (Function.update stage call (.invoked .close)) state.channel) :
    Accounted lossy later
      ({ state with closed := true, fiberWaiters := [] }.become call
        (.closing false state.fiberWaiters)) := by
  have hne : ∀ waiter ∈ state.fiberWaiters, waiter ≠ call := by
    rintro waiter hmem rfl
    have hregistrable := (hledger.registered waiter hmem).1
    simp [hidle, Call.registrable] at hregistrable
  have hclosed := hbegun.serve (Function.update_self call _ stage)
    (.close (state.queue.map Message.value) state.closed)
  rw [Function.update_idem] at hclosed
  have hstages : ∀ waiter ∈ state.fiberWaiters,
      Function.update stage call (.served .close .closed) waiter = stage waiter :=
    fun waiter hmem => Function.update_of_ne (hne waiter hmem) _ _
  have hserves : ∀ waiter ∈ state.fiberWaiters, ∃ request,
      Function.update stage call (.served .close .closed) waiter = .invoked request ∧
        Channel.Serves lossy ⟨state.queue.map Message.value, true⟩ request (.received none)
          ⟨state.queue.map Message.value, true⟩ := by
    intro waiter hmem
    obtain ⟨patience, hstage, -⟩ := hsound.waiting hledger hmem
    rw [hstages waiter hmem, hledger.waitersQueue (List.ne_nil_of_mem hmem)]
    exact ⟨.receive patience, hstage, .drained patience⟩
  obtain ⟨served, final, haccount, hwaiters, hothers⟩ :=
    hclosed.serveEach state.fiberWaiters hledger.waitersNodup hserves
  refine ⟨served, final, haccount, fun other => ?_⟩
  obtain rfl | hcall := eq_or_ne other call
  · rw [State.become_calls_self, hothers other fun hmem => hne other hmem rfl,
      Function.update_self]
    rfl
  rw [State.become_calls_of_ne hcall]
  by_cases hmem : other ∈ state.fiberWaiters
  · obtain ⟨patience, hstage, hlater⟩ := hsound.waiting hledger hmem
    rw [hwaiters other hmem _ ((hstages other hmem).trans hstage)]
    refine hlater _ _ (.inr ⟨List.not_mem_nil, none, fun message => ?_, rfl⟩)
    simpa using (hledger.registered other hmem).2.2 message
  · rw [hothers other hmem, Function.update_of_ne hcall]
    have halike : Alike state { state with closed := true, fiberWaiters := [] } other :=
      ⟨by simp [hmem], fun message => Iff.rfl⟩
    exact halike.fits (hsound.fits other)

theorem Sound.close (hsound : Sound lossy state history order stage) (hledger : Ledger state)
    {call : CallId} (hidle : state.calls call = .idle)
    (hbegun : Account (Channel.Serves lossy) {} later order
      (Function.update stage call (.invoked .close)) state.channel) :
    Accounted lossy (later ++ ((state.close call).calls call).ending call) (state.close call) := by
  unfold State.close
  split
  next hclosed =>
    refine hsound.answer hbegun ?_ rfl rfl rfl fun other _ => alike_refl state other
    rw [State.channel, hclosed]
    exact .close _ true
  next =>
    rw [State.become_calls_self, Call.ending_of_none rfl, List.append_nil]
    exact hsound.beginClose hledger hidle hbegun

theorem Sound.sendSetValue (hsound : Sound lossy state history order stage) {call waiter : CallId}
    {message : Message α} (hhand : state.calls call = .handingOff message waiter) :
    Accounted lossy
      (history ++ ((state.sendSetValue call message waiter).calls call).ending call)
      (state.sendSetValue call message waiter) := by
  have hstage := hsound.standing hhand
  unfold State.sendSetValue
  split
  next =>
    exact hsound.returns hstage rfl rfl rfl rfl fun other _ => ⟨Iff.rfl, fun _ => Iff.rfl⟩
  next => exact hsound.moves trivial rfl rfl rfl fun other _ => alike_refl state other

theorem Sound.closeSetValue (hsound : Sound lossy state history order stage) {call : CallId}
    {waiters : List CallId} (hclosing : state.calls call = .closing true waiters) :
    Accounted lossy
      (history ++ ((state.closeSetValue call waiters).calls call).ending call)
      (state.closeSetValue call waiters) := by
  have hstage := hsound.standing hclosing
  cases waiters with
  | nil => exact hsound.returns hstage rfl rfl rfl rfl fun other _ => alike_refl state other
  | cons waiter rest =>
      simp only [State.closeSetValue]
      split
      next =>
        exact hsound.moves hstage rfl rfl rfl fun other _ => ⟨Iff.rfl, fun _ => Iff.rfl⟩
      next =>
        rw [hclosing, Call.ending_of_none rfl, List.append_nil]
        exact ⟨order, stage, hsound.account,
          fun other => Alike.fits ⟨Iff.rfl, fun _ => Iff.rfl⟩ (hsound.fits other)⟩

theorem Sound.recvForLookup (hsound : Sound lossy state history order stage)
    (hledger : Ledger state) {call : CallId} (hexpired : state.calls call = .recvForExpired) :
    Accounted lossy (history ++ ((state.recvForLookup call).calls call).ending call)
      (state.recvForLookup call) := by
  unfold State.recvForLookup
  split
  next hmem =>
    rw [State.become_calls_self]
    exact hsound.withdraw hledger hexpired hmem
  next =>
    have hstage := hsound.standing hexpired
    exact hsound.moves hstage rfl rfl rfl fun other _ => alike_refl state other

/-- A call that has not begun. -/
theorem Sound.begin (hsound : Sound lossy state history order stage) {call : CallId}
    (hidle : state.calls call = .idle) (request : Request α) :
    Account (Channel.Serves lossy) {} (history ++ [.invoked call request]) order
      (Function.update stage call (.invoked request)) state.channel := by
  exact hsound.account.invoke (hsound.standing hidle) request

theorem step_accounted {next : State α} {action : Action α}
    (haccounted : Accounted lossy history state) (hledger : Ledger state) (hnone : NoneDue state)
    (hlossless : lossy = false → AllOnTheirWay state ∧ Unraced state action)
    (hstep : state.step action = some next) :
    Accounted lossy (history ++ state.seen action) next := by
  obtain ⟨order, stage, hsound⟩ := haccounted
  rw [seen_of_step hstep]
  unfold State.step at hstep
  split at hstep
  · cases hstep
  split at hstep
  all_goals rename_i hcall
  case h_1 call value woken =>
    rw [← List.append_assoc]
    exact hsound.sendPayload hledger hcall (hsound.begin hcall _) hstep
  case h_2 => cases hstep; exact hsound.sendSetValue hcall
  case h_3 =>
    cases hstep
    rw [← List.append_assoc]
    exact hsound.takeOrRegister (hsound.begin hcall _) (fun _ _ hlater => hlater) rfl
  case h_4 =>
    obtain ⟨result, hset, rfl⟩ := Option.map_eq_some_iff.mp hstep
    exact hsound.ready hledger hnone (hcall ▸ rfl) hset
  case h_5 =>
    cases hstep
    rw [← List.append_assoc]
    exact hsound.takeOrRegister (hsound.begin hcall _) (fun _ _ hlater => hlater) rfl
  case h_6 call =>
    cases hstep
    split
    next result hset => exact hsound.ready hledger hnone (hcall ▸ rfl) hset
    next =>
      have hstage := hsound.standing hcall
      exact hsound.moves hstage rfl rfl rfl fun other _ => alike_refl state other
  case h_7 => cases hstep; exact hsound.recvForLookup hledger hcall
  case h_8 call =>
    cases hstep
    cases hset : state.promise call with
    | some result => exact hsound.ready hledger hnone (hcall ▸ rfl) hset
    | none =>
        refine hsound.abandon hledger hcall fun hnot message hassigned => ?_
        -- A message assigned to a waiter that gives up is lost only to the race, and a
        -- lossless channel has none.
        obtain ⟨hway, hunraced⟩ := hlossless hnot
        rcases hway call message hassigned with hdone | ⟨-, hpending | ⟨-, hhand⟩⟩
        · exact absurd (hcall.symm.trans hdone) (by simp)
        · simp [hset] at hpending
        · exact hunraced message.sender message hhand
  case h_9 =>
    cases hstep
    rw [← List.append_assoc]
    exact hsound.takeOrPark (hsound.begin hcall _)
  case h_10 =>
    cases hstep
    rw [← List.append_assoc]
    exact hsound.takeOrPark (hsound.begin hcall _)
  case h_11 call timed =>
    cases hstep
    exact (hsound.parked _).takeOrPark (account_begun hsound (hsound.standing hcall))
  case h_12 call =>
    cases hstep
    exact (hsound.parked _).takeOrNull (account_begun hsound (hsound.standing hcall))
  case h_13 =>
    cases hstep
    rw [← List.append_assoc]
    exact hsound.takeOrNull (hsound.begin hcall _)
  case h_14 =>
    cases hstep
    rw [← List.append_assoc]
    exact hsound.close hledger hcall (hsound.begin hcall _)
  case h_15 call waiters =>
    cases hstep
    exact (hsound.parked []).moves (hsound.standing hcall) rfl rfl rfl fun other _ =>
      alike_refl _ _
  case h_16 => cases hstep; exact hsound.closeSetValue hcall
  case h_17 => cases hstep

theorem step_noneDue {next : State α} {action : Action α} (hnone : NoneDue state)
    (hledger : Ledger state) (heffect : Effect state action next) : NoneDue next := by
  cases heffect with
  | @bind call value woken waiter rest hidle hopen hwaiters =>
      intro other hset message hmem
      rcases List.mem_append.mp hmem with hold | hnew
      · exact hnone other hset message hold
      · obtain ⟨rfl, -⟩ := Prod.mk.inj (List.mem_singleton.mp hnew)
        have hunset := (hledger.registered other (by simp [hwaiters])).2.1
        exact absurd (hunset.symm.trans hset) (by simp)
  | @take _ call base front rest henter hqueue =>
      have hunset := (hledger.fresh call henter.outside).1
      obtain ⟨parked, rfl⟩ := henter.parked
      intro other hset message hmem
      rcases List.mem_append.mp hmem with hold | hnew
      · exact hnone other hset message hold
      · obtain ⟨rfl, -⟩ := Prod.mk.inj (List.mem_singleton.mp hnew)
        exact absurd (hunset.symm.trans hset) (by simp)
  | @fulfil call message waiter hhand hunset =>
      intro other hset
      rw [State.become_promise, State.fulfil_promise] at hset
      split at hset
      next => cases hset
      next => exact hnone other hset
  | @release _ call waiter rest hclosing hunset =>
      intro other hset
      rw [State.become_promise, State.fulfil_promise] at hset
      split at hset
      next heq => exact heq ▸ (hledger.released _ _ _ hclosing waiter (by simp)).2
      next => exact hnone other hset
  | enqueue hidle hopen hwaiters hnotify =>
      obtain ⟨parked, rfl⟩ := State.notifyOne_parked hnotify
      exact hnone
  | empty henter hqueue =>
      obtain ⟨parked, rfl⟩ := henter.parked
      exact hnone
  | park timed henter hqueue hopen =>
      obtain ⟨parked, rfl⟩ := henter.parked
      exact hnone
  | _ => exact hnone

end Steps

/-- What every run keeps. A lossless account needs that no message was handed over in vain. -/
structure Explained (lossy : Bool) (state : State α) (history : History α) : Prop where
  accounted : Accounted lossy history state
  ledger : Ledger state
  noneDue : NoneDue state
  onTheirWay : lossy = false → AllOnTheirWay state

theorem step_explained {lossy : Bool} {state next : State α} {seen : History α}
    {action : Action α} (hexplained : Explained lossy state seen)
    (hrace : lossy = false → Unraced state action)
    (hstep : (machine α).step state action = some next) :
    Explained lossy next (seen ++ state.seen action) where
  accounted := step_accounted hexplained.accounted hexplained.ledger hexplained.noneDue
    (fun hlossless => ⟨hexplained.onTheirWay hlossless, hrace hlossless⟩) hstep
  ledger := step_ledger hexplained.ledger (step_effect hstep)
  noneDue := step_noneDue hexplained.noneDue hexplained.ledger (step_effect hstep)
  onTheirWay hlossless := step_onTheirWay hexplained.ledger (hexplained.onTheirWay hlossless)
    (hrace hlossless) (step_effect hstep)

theorem explained_initial (lossy : Bool) : Explained lossy (initial α) [] where
  accounted := ⟨_, _, sound_initial lossy⟩
  ledger := ledger_initial
  noneDue := noneDue_initial
  onTheirWay _ call message hmem := by cases hmem

theorem linearizable_of_run {lossy : Bool} {actions : List (Action α)} {state : State α}
    (hmeets : (machine α).Meets (fun state action => lossy = false → Unraced state action) actions
      (initial α))
    (hrun : (machine α).run actions (initial α) = some state) :
    Linearizable (Channel.Serves lossy) {} (history actions) state.channel := by
  have hexplained : Explained lossy state ([] ++ history actions) :=
    Machine.run_trace_meets (fun _ _ _ _ hstate hrace hstep => step_explained hstate hrace hstep)
      actions (initial α) state [] (explained_initial lossy) hmeets hrun
  obtain ⟨order, stage, hsound⟩ := hexplained.accounted
  exact hsound.account.linearizable

/-- The queue cannot be told from a channel that serves one call at a time, at a moment
between the invocation and the return of the call, and has at the end what is left in the
queue. The channel may lose a message to a `recv_for` that times out; it loses none if no
`recv_for` makes its last test while a sender has its promise. -/
theorem queue_linearizable (actions : List (Action α)) (state : State α)
    (hrun : (machine α).run actions (initial α) = some state) :
    Linearizable (Channel.Serves true) {} (history actions) state.channel ∧
      ((machine α).Meets Unraced actions (initial α) →
        Linearizable (Channel.Serves false) {} (history actions) state.channel) := by
  refine ⟨linearizable_of_run ?_ hrun, fun hunraced => linearizable_of_run ?_ hrun⟩
  · refine Machine.meets_iff_forall.mpr fun _ _ _ _ _ _ hlossless => ?_
    cases hlossless
  · refine Machine.meets_iff_forall.mpr fun before action rest middle hsplit hmiddle _ => ?_
    exact Machine.meets_iff_forall.mp hunraced before action rest middle hsplit hmiddle

/-- A receive waits while another one comes later and is served from the queue; the second
send overtakes the promise of the first. -/
def handedAcross : List (Action Nat) :=
  [.recv 0, .send 1 7 none, .send 2 8 none, .tryRecv 3, .close 4, .send 5 9 none,
    .closeNotifyAll 4, .closeSetValue 4, .sendSetValue 1, .recvGet 0, .recvBlocking 6]

theorem queue_linearizable_handedAcross :
    ∃ state, (machine Nat).run handedAcross (initial Nat) = some state ∧
      history handedAcross = [.invoked 0 (.receive .lasting), .invoked 1 (.send 7),
        .invoked 2 (.send 8), .returned 2 (.sent true), .invoked 3 (.receive .brief),
        .returned 3 (.received (some 8)), .invoked 4 .close, .invoked 5 (.send 9),
        .returned 5 (.sent false), .returned 4 .closed, .returned 1 (.sent true),
        .returned 0 (.received (some 7)), .invoked 6 (.receive .lasting),
        .returned 6 (.received none)] ∧
      Linearizable (Channel.Serves false) {} (history handedAcross) state.channel := by
  refine ⟨_, rfl, rfl, (queue_linearizable handedAcross _ rfl).2 ?_⟩
  iterate 11 refine Machine.meets_cons trivial rfl ?_
  trivial

end Fiberuv.MessageQueue
