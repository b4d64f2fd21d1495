import Fiberuv.Tcp.CloseEvents
import Fiberuv.Tcp.Connect
import Fiberuv.Tcp.ReadStream

/-! # Request and reply over one connection

`TcpClient::request` connects, writes the payload unless it is empty, reads once, closes the
connection and returns what it read. An exception after `connect` unwinds through
`~TcpConnection`, which closes the connection too; after a normal `close` the destructor
finds it closed.

The peer's reply is the list of chunks in which libuv will deliver it, followed by the end of
the stream. Bytes that have arrived stay with the operating system while nothing reads. The
labels carry the results of the libuv calls and the arguments of the callbacks; `connected`,
`written`, `received` and `closed` are the fiber going on after a wait.

The connection has one reader and one closer, call 0 each.
-/

namespace Fiberuv.Tcp.Request

open Foundation

/-- Where the fiber waits in `request`, with the connection once it has one. -/
inductive Fiber where
  | connecting (attempt : Connect.State)
  | writing (connection : Tcp.State) (promise : Option (Except Error Unit))
  | reading (connection : Tcp.State)
  | closing (connection : Tcp.State) (outcome : Except Error Bytes)
  | returned (outcome : Except Error Bytes)

structure State where
  fiber : Fiber
  /-- The chunks of the reply that libuv has not delivered yet. -/
  arriving : List Bytes

inductive Action where
  | start (rc : Int)
  | onResolved (status : Int) (res : Bool) (createRc connectRc : Int)
  | onConnected (status : Int)
  | connected (writeRc readRc : Int)
  | onWriteDone (status : Int)
  | written (readRc : Int)
  | onConnectionRead (nread : Int) (bytes : Bytes)
  | received
  | onConnectionClosed
  | closed

/-- `connection.close()` up to its wait. -/
def close (connection : Tcp.State) (outcome : Except Error Bytes) : Fiber :=
  .closing ({ connection with
    closer := Function.update connection.closer 0 .waiting }.startClose (some 0)) outcome

/-- The fiber goes on with what `connection.read()` returned or threw, or waits for it. -/
def afterRead (connection : Tcp.State) : Fiber :=
  match connection.call 0 with
  | .returned (.ok (some response)) => close connection (.ok response)
  | .returned (.error error) => close connection (.error error)
  | _ => .reading connection

def read (connection : Tcp.State) (readRc : Int) : Fiber :=
  afterRead (connection.read 0 false 0 readRc)

/-- `if (!payload.empty()) connection.write(payload)`, and on to the read without a wait. -/
def write (payload : Bytes) (connection : Tcp.State) (writeRc readRc : Int) : Fiber :=
  if payload = [] then read connection readRc
  else
    match connection.connectionWrite payload writeRc with
    | .returned (.ok ()) => read connection readRc
    | .returned (.error error) => close connection (.error error)
    | .waiting _ => .writing connection none

/-- `connect` threw before it made a request, or waits. -/
def afterStart (attempt : Connect.State) : Fiber :=
  match attempt.fiber with
  | .returned (.error error) => .returned (.error error)
  | _ => .connecting attempt

/-- The fiber goes on with what `connect` returned or threw. -/
def afterConnect (payload : Bytes) (attempt : Connect.State) (writeRc readRc : Int) : Fiber :=
  match attempt.fiber, attempt.connection with
  | .returned (.ok _), some connection => write payload connection writeRc readRc
  | .returned (.error error), _ => .returned (.error error)
  | _, _ => .connecting attempt

namespace State

/-- A callback of the attempt to connect. -/
def connectCallback (state : State) (action : Connect.Action) : Option State :=
  match state.fiber with
  | .connecting attempt =>
      (attempt.step action).map fun next => { state with fiber := .connecting next }
  | _ => none

/-- What libuv passes to `on_connection_read` is the next chunk, or the end after the
last one, or it says nothing of the stream. -/
def arrives (state : State) (nread : Int) (bytes : Bytes) : Bool :=
  if 0 < nread then state.arriving.head? = some bytes
  else nread ≠ uvEof || state.arriving.isEmpty

def onConnectionRead (state : State) (nread : Int) (bytes : Bytes) : Option State :=
  match state.fiber with
  | .reading connection =>
      if state.arrives nread bytes then
        (connection.step (.onConnectionRead nread bytes)).map fun next =>
          { fiber := .reading next
            arriving := if 0 < nread then state.arriving.tail else state.arriving }
      else none
  | _ => none

def step (payload : Bytes) (state : State) : Action → Option State
  | .start rc =>
      match state.fiber with
      | .connecting attempt =>
          (attempt.step (.start false rc)).map fun next => { state with fiber := afterStart next }
      | _ => none
  | .onResolved status res createRc connectRc =>
      state.connectCallback (.onResolved status res createRc connectRc)
  | .onConnected status => state.connectCallback (.onConnected status)
  | .connected writeRc readRc =>
      match state.fiber with
      | .connecting attempt =>
          (attempt.step (.resume false)).map fun next =>
            { state with fiber := afterConnect payload next writeRc readRc }
      | _ => none
  | .onWriteDone status =>
      match state.fiber with
      | .writing connection none =>
          some { state with fiber := .writing connection (some (Tcp.onWriteDone status)) }
      | _ => none
  | .written readRc =>
      match state.fiber with
      | .writing connection (some (.ok ())) => some { state with fiber := read connection readRc }
      | .writing connection (some (.error error)) =>
          some { state with fiber := close connection (.error error) }
      | _ => none
  | .onConnectionRead nread bytes => state.onConnectionRead nread bytes
  | .received =>
      match state.fiber with
      | .reading connection =>
          (connection.step (.resume 0 false)).map fun next =>
            { state with fiber := afterRead next }
      | _ => none
  | .onConnectionClosed =>
      match state.fiber with
      | .closing connection outcome =>
          (connection.step .onConnectionClosed).map fun next =>
            { state with fiber := .closing next outcome }
      | _ => none
  | .closed =>
      match state.fiber with
      | .closing connection outcome =>
          (connection.step (.closeResume 0)).map fun _ => { state with fiber := .returned outcome }
      | _ => none

end State

def machine (payload : Bytes) : Machine State Action where
  step := State.step payload

/-- The call begins; the peer will reply with these chunks. -/
def initial (chunks : List Bytes) : State := ⟨.connecting Connect.initial, chunks⟩

/-- The step reports no failure of the resolver, the operating system or the peer. -/
def Smooth : Action → Prop
  | .start rc => 0 ≤ rc
  | .onResolved status res createRc connectRc =>
      0 ≤ status ∧ res = true ∧ 0 ≤ createRc ∧ 0 ≤ connectRc
  | .onConnected status => 0 ≤ status
  | .connected writeRc readRc => 0 ≤ writeRc ∧ 0 ≤ readRc
  | .onWriteDone status => 0 ≤ status
  | .written readRc => 0 ≤ readRc
  | .onConnectionRead nread _ => 0 ≤ nread ∨ nread = uvEof
  | _ => True

/-- Some run on which nothing fails goes on to return this string. -/
def CanReturn (payload reply : Bytes) (state : State) : Prop :=
  ∃ labels final, (machine payload).Meets (fun _ action => Smooth action) labels state ∧
    (machine payload).run labels state = some final ∧ final.fiber = .returned (.ok reply)

/-- No run of `request` returns another string, and as long as nothing has failed this one
can still be returned. -/
def Returns (payload : Bytes) (chunks : List Bytes) (reply : Bytes) : Prop :=
  (∀ labels final response, (machine payload).run labels (initial chunks) = some final →
    final.fiber = .returned (.ok response) → response = reply) ∧
  ∀ labels state, (machine payload).Meets (fun _ action => Smooth action) labels
      (initial chunks) →
    (machine payload).run labels (initial chunks) = some state → CanReturn payload reply state

/-- A connection that nobody has closed, on a loop that is alive. -/
structure Open (connection : Tcp.State) : Prop where
  initialized : connection.initialized = true
  closed : connection.closed = false
  closing : connection.closing = false
  uvClosing : connection.uvClosing = false
  alive : connection.alive = true

/-- The promise of the read is set, and libuv has been told to stop. -/
structure Answered (connection : Tcp.State) (outcome : Except Error Bytes) : Prop
    extends Open connection where
  reading : connection.reading = false
  call : connection.call 0 = .waiting false 0 (some outcome)

/-- The close callback is still to come, or has signalled the close. -/
def Closing (connection : Tcp.State) : Prop :=
  (connection.closeCallback = true ∧ 0 ∈ connection.closeWaiters) ∨
    connection.closer 0 = .signalled

/-- The name is being resolved. -/
def resolving : Connect.State := { fiber := .waiting false, resolver := .pending }

/-- `uv_tcp_connect` is under way. -/
def dialling : Connect.State :=
  { fiber := .waiting false, resolver := .done, connectReq := .pending
    connection := some Tcp.initial }

/-- The promise of the attempt has the connection, and the attempt is deleted. -/
def dialled : Connect.State :=
  { fiber := .waiting false, resolver := .done, connectReq := .done
    connection := some Tcp.initial, promise := some (.ok ()), finished := true, finishes := 1
    frees := 1, promiseSets := 1 }

/-- The promise of the attempt has an exception, and no request is left. -/
structure Refused (attempt : Connect.State) (error : Error) : Prop where
  fiber : attempt.fiber = .waiting false
  promise : attempt.promise = some (.error error)
  resolver : attempt.resolver = .done
  connectReq : attempt.connectReq ≠ .pending

/-- The connection while the read waits for its first chunk. -/
def awaiting : Tcp.State :=
  { Tcp.initial.setCall 0 (.waiting false 0 none) with
    pendingRead := some ⟨0, 0⟩, reading := true }

/-- The first chunk of the reply, or nothing at its end. -/
def firstChunk (chunks : List Bytes) : Bytes := chunks.headD []

/-- The points `request` passes as long as nothing fails. -/
inductive Stage (chunks : List Bytes) : State → Prop where
  | begun : Stage chunks ⟨.connecting Connect.initial, chunks⟩
  | resolving : Stage chunks ⟨.connecting resolving, chunks⟩
  | dialling : Stage chunks ⟨.connecting dialling, chunks⟩
  | dialled : Stage chunks ⟨.connecting dialled, chunks⟩
  | writing : Stage chunks ⟨.writing Tcp.initial none, chunks⟩
  | written : Stage chunks ⟨.writing Tcp.initial (some (.ok ())), chunks⟩
  | awaiting : Stage chunks ⟨.reading awaiting, chunks⟩
  | answered {connection rest} (hanswered : Answered connection (.ok (firstChunk chunks))) :
      Stage chunks ⟨.reading connection, rest⟩
  | closing {connection rest} (hclosing : Closing connection) :
      Stage chunks ⟨.closing connection (.ok (firstChunk chunks)), rest⟩
  | returned {rest} : Stage chunks ⟨.returned (.ok (firstChunk chunks)), rest⟩

/-- An exception is on its way out of `request`. -/
inductive Failing : State → Prop where
  | connecting {attempt arriving error} (hrefused : Refused attempt error) :
      Failing ⟨.connecting attempt, arriving⟩
  | writing {connection arriving error} :
      Failing ⟨.writing connection (some (.error error)), arriving⟩
  | reading {connection arriving error} (hanswered : Answered connection (.error error)) :
      Failing ⟨.reading connection, arriving⟩
  | closing {connection arriving error} : Failing ⟨.closing connection (.error error), arriving⟩
  | returned {arriving error} : Failing ⟨.returned (.error error), arriving⟩

variable {payload : Bytes} {chunks arriving : List Bytes} {state next : State} {action : Action}

section Steps

variable {attempt : Connect.State} {connection : Tcp.State}

theorem step_connecting
    (hstep : (machine payload).step ⟨.connecting attempt, arriving⟩ action = some next) :
    (∃ rc after, action = .start rc ∧ attempt.step (.start false rc) = some after ∧
      next = ⟨afterStart after, arriving⟩) ∨
    (∃ status res createRc connectRc after, action = .onResolved status res createRc connectRc ∧
      attempt.step (.onResolved status res createRc connectRc) = some after ∧
      next = ⟨.connecting after, arriving⟩) ∨
    (∃ status after, action = .onConnected status ∧
      attempt.step (.onConnected status) = some after ∧ next = ⟨.connecting after, arriving⟩) ∨
    ∃ writeRc readRc after, action = .connected writeRc readRc ∧
      attempt.step (.resume false) = some after ∧
      next = ⟨afterConnect payload after writeRc readRc, arriving⟩ := by
  cases action <;>
    simp only [machine, State.step, State.connectCallback, State.onConnectionRead, reduceCtorEq,
      Option.map_eq_some_iff] at hstep
  case start rc =>
    obtain ⟨after, hafter, rfl⟩ := hstep
    exact .inl ⟨rc, after, rfl, hafter, rfl⟩
  case onResolved status res createRc connectRc =>
    obtain ⟨after, hafter, rfl⟩ := hstep
    exact .inr (.inl ⟨status, res, createRc, connectRc, after, rfl, hafter, rfl⟩)
  case onConnected status =>
    obtain ⟨after, hafter, rfl⟩ := hstep
    exact .inr (.inr (.inl ⟨status, after, rfl, hafter, rfl⟩))
  case connected writeRc readRc =>
    obtain ⟨after, hafter, rfl⟩ := hstep
    exact .inr (.inr (.inr ⟨writeRc, readRc, after, rfl, hafter, rfl⟩))

theorem step_writing {promise : Option (Except Error Unit)}
    (hstep : (machine payload).step ⟨.writing connection promise, arriving⟩ action = some next) :
    (∃ status, action = .onWriteDone status ∧ promise = none ∧
      next = ⟨.writing connection (some (Tcp.onWriteDone status)), arriving⟩) ∨
    (∃ readRc, action = .written readRc ∧ promise = some (.ok ()) ∧
      next = ⟨read connection readRc, arriving⟩) ∨
    ∃ readRc error, action = .written readRc ∧ promise = some (.error error) ∧
      next = ⟨close connection (.error error), arriving⟩ := by
  cases action <;>
    simp only [machine, State.step, State.connectCallback, State.onConnectionRead,
      reduceCtorEq] at hstep
  case onWriteDone status =>
    cases promise with
    | none => exact .inl ⟨status, rfl, rfl, (Option.some.inj hstep).symm⟩
    | some outcome => simp at hstep
  case written readRc =>
    match promise, hstep with
    | some (.ok ()), hstep => exact .inr (.inl ⟨readRc, rfl, rfl, (Option.some.inj hstep).symm⟩)
    | some (.error error), hstep =>
        exact .inr (.inr ⟨readRc, error, rfl, rfl, (Option.some.inj hstep).symm⟩)

theorem step_reading
    (hstep : (machine payload).step ⟨.reading connection, arriving⟩ action = some next) :
    (∃ nread bytes after, action = .onConnectionRead nread bytes ∧
      State.arrives ⟨.reading connection, arriving⟩ nread bytes = true ∧
      connection.step (.onConnectionRead nread bytes) = some after ∧
      next = ⟨.reading after, if 0 < nread then arriving.tail else arriving⟩) ∨
    ∃ after, action = .received ∧ connection.step (.resume 0 false) = some after ∧
      next = ⟨afterRead after, arriving⟩ := by
  cases action <;>
    simp only [machine, State.step, State.connectCallback, State.onConnectionRead, reduceCtorEq,
      Option.map_eq_some_iff] at hstep
  case onConnectionRead nread bytes =>
    split at hstep
    next harrives =>
      rw [Option.map_eq_some_iff] at hstep
      obtain ⟨after, hafter, rfl⟩ := hstep
      exact .inl ⟨nread, bytes, after, rfl, harrives, hafter, rfl⟩
    next => cases hstep
  case received =>
    obtain ⟨after, hafter, rfl⟩ := hstep
    exact .inr ⟨after, rfl, hafter, rfl⟩

theorem step_closing {outcome : Except Error Bytes}
    (hstep : (machine payload).step ⟨.closing connection outcome, arriving⟩ action = some next) :
    (∃ after, action = .onConnectionClosed ∧ connection.step .onConnectionClosed = some after ∧
      next = ⟨.closing after outcome, arriving⟩) ∨
    ∃ after, action = .closed ∧ connection.step (.closeResume 0) = some after ∧
      next = ⟨.returned outcome, arriving⟩ := by
  cases action <;>
    simp only [machine, State.step, State.connectCallback, State.onConnectionRead, reduceCtorEq,
      Option.map_eq_some_iff] at hstep
  case onConnectionClosed =>
    obtain ⟨after, hafter, rfl⟩ := hstep
    exact .inl ⟨after, rfl, hafter, rfl⟩
  case closed =>
    obtain ⟨after, hafter, rfl⟩ := hstep
    exact .inr ⟨after, rfl, hafter, rfl⟩

theorem step_returned {outcome : Except Error Bytes} :
    (machine payload).step ⟨.returned outcome, arriving⟩ action = none := by
  cases action <;> rfl

end Steps

/-- Closing an open connection makes libuv owe the callback that signals it. -/
theorem closing_startClose {connection : Tcp.State} (hopen : Open connection) :
    Closing ({ connection with
      closer := Function.update connection.closer 0 .waiting }.startClose (some 0)) := by
  refine Or.inl ?_
  simp [Tcp.State.startClose, Tcp.State.uvClose, hopen.initialized, hopen.closed, hopen.closing,
    hopen.uvClosing, hopen.alive]

/-- The read returns what its promise was set to, and the close begins. -/
theorem afterRead_resume {connection after : Tcp.State} {outcome : Except Error Bytes}
    (hanswered : Answered connection outcome)
    (hresume : connection.step (.resume 0 false) = some after) :
    Open after ∧ afterRead after = close after outcome := by
  have hopen := hanswered.toOpen
  simp only [Tcp.State.step, Tcp.State.resume, hanswered.call, Option.some.injEq] at hresume
  subst hresume
  cases outcome with
  | ok bytes =>
      refine ⟨⟨hopen.initialized, hopen.closed, hopen.closing, hopen.uvClosing, hopen.alive⟩, ?_⟩
      simp [afterRead, Tcp.State.resumeRead, Tcp.State.setCall]
  | error error =>
      refine ⟨⟨hopen.initialized, hopen.closed, hopen.closing, hopen.uvClosing, hopen.alive⟩, ?_⟩
      simp [afterRead, Tcp.State.resumeRead, Tcp.State.throws, Tcp.State.setCall]

theorem Answered.silent {connection : Tcp.State} {outcome : Except Error Bytes}
    (hanswered : Answered connection outcome) (nread : Int) (bytes : Bytes) :
    connection.step (.onConnectionRead nread bytes) = none := by
  simp [Tcp.State.step, hanswered.reading]

/-- An exception stays on its way until `request` throws it. -/
theorem failing_step (hfailing : Failing state)
    (hstep : (machine payload).step state action = some next) : Failing next := by
  cases hfailing with
  | connecting hrefused =>
      obtain ⟨rc, after, -, hafter, -⟩ | ⟨_, _, _, _, after, -, hafter, -⟩ |
        ⟨status, after, -, hafter, -⟩ | ⟨writeRc, readRc, after, -, hafter, rfl⟩ :=
        step_connecting hstep
      · simp [Connect.State.step, hrefused.fiber] at hafter
      · simp [Connect.State.step, hrefused.resolver] at hafter
      · simp [Connect.State.step, hrefused.connectReq] at hafter
      · simp only [Connect.State.step, Connect.State.resume, hrefused.fiber, hrefused.promise,
          Option.some.injEq] at hafter
        subst hafter
        exact .returned
  | writing =>
      obtain ⟨_, -, hpromise, -⟩ | ⟨_, -, hpromise, -⟩ | ⟨_, error, -, -, rfl⟩ :=
        step_writing hstep
      · cases hpromise
      · cases hpromise
      · exact .closing
  | reading hanswered =>
      obtain ⟨nread, bytes, after, -, -, hafter, -⟩ | ⟨after, -, hafter, rfl⟩ :=
        step_reading hstep
      · rw [hanswered.silent] at hafter
        cases hafter
      · rw [(afterRead_resume hanswered hafter).2]
        exact .closing
  | closing =>
      obtain ⟨after, -, -, rfl⟩ | ⟨after, -, -, rfl⟩ := step_closing hstep
      · exact .closing
      · exact .returned
  | returned =>
      rw [step_returned] at hstep
      cases hstep

/-- The read of a fresh connection waits for the reply, or `uv_read_start` failed. -/
theorem stage_read (readRc : Int) :
    Stage chunks ⟨read Tcp.initial readRc, chunks⟩ ∨
      readRc < 0 ∧ Failing ⟨read Tcp.initial readRc, chunks⟩ := by
  by_cases hrc : readRc < 0
  · have hread : read Tcp.initial readRc =
        close (Tcp.initial.throws 0 (.uv "uv_read_start" readRc))
          (.error (.uv "uv_read_start" readRc)) := by
      simp [read, afterRead, Tcp.State.read, Tcp.initial, hrc, Tcp.State.throws,
        Tcp.State.setCall]
    rw [hread]
    exact .inr ⟨hrc, .closing⟩
  · have hread : read Tcp.initial readRc = .reading awaiting := by
      simp [read, afterRead, Tcp.State.read, Tcp.initial, hrc, Tcp.State.setCall, awaiting]
    rw [hread]
    exact .inl .awaiting

theorem stage_write (writeRc readRc : Int) :
    Stage chunks ⟨write payload Tcp.initial writeRc readRc, chunks⟩ ∨
      (writeRc < 0 ∨ readRc < 0) ∧
        Failing ⟨write payload Tcp.initial writeRc readRc, chunks⟩ := by
  by_cases hpayload : payload = []
  · rw [write, if_pos hpayload]
    exact (stage_read readRc).imp_right fun hfailed => ⟨.inr hfailed.1, hfailed.2⟩
  · by_cases hrc : writeRc < 0
    · have hwrite : write payload Tcp.initial writeRc readRc =
          close Tcp.initial (.error (.uv "uv_write(start)" writeRc)) := by
        simp [write, hpayload, Tcp.State.connectionWrite, Tcp.initial, hrc]
      rw [hwrite]
      exact .inr ⟨.inl hrc, .closing⟩
    · have hwrite : write payload Tcp.initial writeRc readRc = .writing Tcp.initial none := by
        simp [write, hpayload, Tcp.State.connectionWrite, Tcp.initial, hrc]
      rw [hwrite]
      exact .inl .writing

/-- The callback sets the promise of the read, and nothing else of the connection. -/
theorem answered_finishRead {connection : Tcp.State} (hopen : Open connection)
    (hreading : connection.reading = false) (hpending : connection.pendingRead = some ⟨0, 0⟩)
    (hcall : connection.call 0 = .waiting false 0 none) (outcome : Except Error Bytes) :
    Answered (connection.finishRead outcome) outcome := by
  cases outcome with
  | ok bytes =>
      rw [finishRead_ok connection hpending hcall]
      exact ⟨⟨hopen.initialized, hopen.closed, hopen.closing, hopen.uvClosing, hopen.alive⟩,
        hreading, by simp⟩
  | error error =>
      rw [finishRead_error connection hpending hcall]
      exact ⟨⟨hopen.initialized, hopen.closed, hopen.closing, hopen.uvClosing, hopen.alive⟩,
        hreading, by simp⟩

/-- The first thing libuv says of the stream answers the read, unless it is an error. -/
theorem awaiting_read {after : Tcp.State} {nread : Int} {bytes : Bytes}
    (harrives : State.arrives ⟨.reading awaiting, chunks⟩ nread bytes = true)
    (hafter : awaiting.step (.onConnectionRead nread bytes) = some after) :
    Answered after (.ok (firstChunk chunks)) ∨ nread = 0 ∧ after = awaiting ∨
      (nread < 0 ∧ nread ≠ uvEof) ∧ ∃ error, Answered after (.error error) := by
  have hanswered (eof : Bool) (delivered : List Bytes) (outcome : Except Error Bytes) :
      Answered ({ awaiting with
        reading := false, eof := eof, delivered := delivered }.finishRead outcome) outcome :=
    answered_finishRead ⟨rfl, rfl, rfl, rfl, rfl⟩ rfl rfl rfl outcome
  simp only [Tcp.State.step] at hafter
  split at hafter
  next =>
    obtain rfl := Option.some.inj hafter
    rw [Tcp.State.onConnectionRead]
    split
    next hpositive =>
      simp only [State.arrives, hpositive, if_true, decide_eq_true_eq] at harrives
      have hfirst : firstChunk chunks = bytes := by
        rw [firstChunk, List.headD_eq_head?_getD, harrives, Option.getD_some]
      exact .inl (hfirst ▸ hanswered false [bytes] (.ok bytes))
    next hpositive =>
      split
      next heof =>
        have hnothing : chunks = [] := by simpa [State.arrives, heof, uvEof] using harrives
        have hfirst : firstChunk chunks = [] := by rw [hnothing, firstChunk, List.headD_nil]
        exact .inl (hfirst ▸ hanswered true [] (.ok []))
      next heof =>
        split
        next hnegative => exact .inr (.inr ⟨⟨hnegative, heof⟩, _, hanswered false [] _⟩)
        next hnegative => exact .inr (.inl ⟨by omega, rfl⟩)
  next => cases hafter

/-- The close callback signals the close. -/
theorem closing_onConnectionClosed {connection after : Tcp.State} (hclosing : Closing connection)
    (hafter : connection.step .onConnectionClosed = some after) :
    after.closer 0 = .signalled := by
  simp only [Tcp.State.step] at hafter
  split at hafter
  next =>
    obtain rfl := Option.some.inj hafter
    obtain ⟨call, log, hframe, -, -⟩ :=
      finishRead_frame { connection with closed := true, closing := false }
        (.error closedWhileReading)
    simp only [Tcp.State.finishClose, hframe, Tcp.State.signal]
    obtain ⟨-, hwaiting⟩ | hsignalled := hclosing
    · rw [if_pos hwaiting]
    · rw [hsignalled, ite_self]
  next => cases hafter

theorem refused_finishConnectError {attempt : Connect.State}
    (hfiber : attempt.fiber = .waiting false) (hresolver : attempt.resolver = .done)
    (hconnectReq : attempt.connectReq ≠ .pending) (hfinished : attempt.finished = false)
    (hpromise : attempt.promise = none) (error : Error) :
    Refused (attempt.finishConnectError error) error := by
  simp only [Connect.State.finishConnectError, Connect.State.beginConnectFinish, hfinished,
    Bool.false_eq_true, if_false, Connect.State.closeConnection, Connect.State.setPromise, hpromise,
    Connect.State.delete]
  exact ⟨hfiber, rfl, hresolver, hconnectReq⟩

theorem resolving_onResolved {after : Connect.State} {status createRc connectRc : Int} {res : Bool}
    (hafter : resolving.step (.onResolved status res createRc connectRc) = some after) :
    after = dialling ∨ ¬ Smooth (.onResolved status res createRc connectRc) ∧
      ∃ error, Refused after error := by
  simp only [resolving, Connect.State.step, if_true, Connect.State.deref, Option.some.injEq,
    Connect.State.onResolved, Bool.false_eq_true, if_false] at hafter
  subst hafter
  cases res with
  | false =>
      refine .inr ⟨by simp [Smooth], .uv "uv_getaddrinfo" status, ?_⟩
      simp only [Bool.not_false, Bool.or_true, if_true]
      exact refused_finishConnectError rfl rfl (by decide) rfl rfl _
  | true =>
      simp only [Smooth, Bool.not_true, Bool.or_false, decide_eq_true_eq, true_and, if_true,
        Connect.State.freeAddrinfo, Connect.State.startConnect, Bool.false_eq_true, if_false]
      split
      next hstatus =>
        exact .inr ⟨by omega, _, refused_finishConnectError rfl rfl (by decide) rfl rfl _⟩
      next =>
        split
        next hcreate =>
          exact .inr ⟨by omega, _, refused_finishConnectError rfl rfl (by decide) rfl rfl _⟩
        next =>
          split
          next hconnect =>
            exact .inr ⟨by omega, _, refused_finishConnectError rfl rfl (by decide) rfl rfl _⟩
          next => exact .inl rfl

theorem dialling_onConnected {after : Connect.State} {status : Int}
    (hafter : dialling.step (.onConnected status) = some after) :
    after = dialled ∨ status < 0 ∧ ∃ error, Refused after error := by
  simp only [dialling, Connect.State.step, if_true, Connect.State.deref, Option.some.injEq,
    Connect.State.onConnected, Bool.false_eq_true, if_false] at hafter
  subst hafter
  split
  next hstatus =>
    exact .inr ⟨hstatus, _, refused_finishConnectError rfl rfl (by decide) rfl rfl _⟩
  next => exact .inl rfl

/-- A step that reports no failure leads to the next point; any other step may leave an
exception on its way. -/
theorem stage_step (hstage : Stage chunks state)
    (hstep : (machine payload).step state action = some next) :
    Stage chunks next ∨ ¬ Smooth action ∧ Failing next := by
  cases hstage with
  -- Of the four ways on from a connect each point of it allows one; the others end at once.
  | begun =>
      obtain ⟨rc, after, rfl, hafter, rfl⟩ | ⟨_, _, _, _, after, -, hafter, -⟩ |
        ⟨_, after, -, hafter, -⟩ | ⟨_, _, after, -, hafter, -⟩ := step_connecting hstep
      · obtain rfl := Option.some.inj hafter
        by_cases hrc : rc < 0
        · refine .inr ⟨by simpa [Smooth] using hrc, ?_⟩
          simpa [afterStart, Connect.initial, Connect.State.start, hrc] using .returned
        · refine .inl ?_
          have hstart : afterStart (Connect.initial.start false rc) = .connecting resolving := by
            simp [afterStart, Connect.initial, Connect.State.start, hrc, resolving]
          rw [hstart]
          exact .resolving
      all_goals simp [Connect.State.step, Connect.State.resume, Connect.initial] at hafter
  | resolving =>
      obtain ⟨_, after, -, hafter, -⟩ | ⟨_, _, _, _, after, rfl, hafter, rfl⟩ |
        ⟨_, after, -, hafter, -⟩ | ⟨_, _, after, -, hafter, -⟩ := step_connecting hstep
      · simp [Connect.State.step, resolving] at hafter
      · obtain rfl | ⟨hrough, error, hrefused⟩ := resolving_onResolved hafter
        · exact .inl .dialling
        · exact .inr ⟨hrough, .connecting hrefused⟩
      · simp [Connect.State.step, resolving] at hafter
      · simp [Connect.State.step, Connect.State.resume, resolving] at hafter
  | dialling =>
      obtain ⟨_, after, -, hafter, -⟩ | ⟨_, _, _, _, after, -, hafter, -⟩ |
        ⟨_, after, rfl, hafter, rfl⟩ | ⟨_, _, after, -, hafter, -⟩ := step_connecting hstep
      · simp [Connect.State.step, dialling] at hafter
      · simp [Connect.State.step, dialling] at hafter
      · obtain rfl | ⟨hstatus, error, hrefused⟩ := dialling_onConnected hafter
        · exact .inl .dialled
        · exact .inr ⟨by simpa [Smooth] using hstatus, .connecting hrefused⟩
      · simp [Connect.State.step, Connect.State.resume, dialling] at hafter
  | dialled =>
      obtain ⟨_, after, -, hafter, -⟩ | ⟨_, _, _, _, after, -, hafter, -⟩ |
        ⟨_, after, -, hafter, -⟩ | ⟨writeRc, readRc, after, rfl, hafter, rfl⟩ :=
        step_connecting hstep
      · simp [Connect.State.step, dialled] at hafter
      · simp [Connect.State.step, dialled] at hafter
      · simp [Connect.State.step, dialled] at hafter
      · obtain rfl := Option.some.inj hafter
        obtain hstage | ⟨hrough, hfailing⟩ := stage_write writeRc readRc
        · exact .inl hstage
        · refine .inr ⟨fun hsmooth => ?_, hfailing⟩
          obtain ⟨hwrite, hread⟩ := hsmooth
          omega
  | writing =>
      obtain ⟨status, rfl, -, rfl⟩ | ⟨_, -, hpromise, -⟩ | ⟨_, _, -, hpromise, -⟩ :=
        step_writing hstep
      · rw [Tcp.onWriteDone]
        split
        next hstatus => exact .inr ⟨by simpa [Smooth] using hstatus, .writing⟩
        next => exact .inl .written
      · cases hpromise
      · cases hpromise
  | written =>
      obtain ⟨_, -, hpromise, -⟩ | ⟨readRc, rfl, -, rfl⟩ | ⟨_, _, -, hpromise, -⟩ :=
        step_writing hstep
      · cases hpromise
      · exact (stage_read readRc).imp_right fun hfailed =>
          ⟨by simpa [Smooth] using hfailed.1, hfailed.2⟩
      · cases hpromise
  | awaiting =>
      obtain ⟨nread, bytes, after, rfl, harrives, hafter, rfl⟩ | ⟨after, -, hafter, -⟩ :=
        step_reading hstep
      · obtain hanswered | ⟨rfl, rfl⟩ | ⟨⟨hnegative, heof⟩, error, hanswered⟩ :=
          awaiting_read harrives hafter
        · exact .inl (.answered hanswered)
        · exact .inl .awaiting
        · exact .inr ⟨by simp [Smooth, heof, hnegative], .reading hanswered⟩
      · simp [Tcp.State.step, Tcp.State.resume, awaiting, Tcp.State.setCall] at hafter
  | answered hanswered =>
      obtain ⟨nread, bytes, after, -, -, hafter, -⟩ | ⟨after, -, hafter, rfl⟩ :=
        step_reading hstep
      · rw [hanswered.silent] at hafter
        cases hafter
      · obtain ⟨hopen, hclose⟩ := afterRead_resume hanswered hafter
        rw [hclose]
        exact .inl (.closing (closing_startClose hopen))
  | closing hclosing =>
      obtain ⟨after, -, hafter, rfl⟩ | ⟨after, -, -, rfl⟩ := step_closing hstep
      · exact .inl (.closing (.inr (closing_onConnectionClosed hclosing hafter)))
      · exact .inl .returned
  | returned =>
      rw [step_returned] at hstep
      cases hstep

/-- A run keeps to the points of `request` until something fails. -/
theorem run_stage {labels : List Action} {final : State}
    (hrun : (machine payload).run labels (initial chunks) = some final) :
    Stage chunks final ∨ Failing final := by
  have hkept : ∀ state action next, Stage chunks state ∨ Failing state →
      (machine payload).step state action = some next → Stage chunks next ∨ Failing next := by
    rintro state action next (hstage | hfailing) hstep
    · exact (stage_step hstage hstep).imp_right And.right
    · exact .inr (failing_step hfailing hstep)
  exact Machine.reachable_invariant hkept (.inl .begun) ⟨labels, hrun⟩

theorem smooth_stage {labels : List Action} {final : State}
    (hmeets : (machine payload).Meets (fun _ action => Smooth action) labels (initial chunks))
    (hrun : (machine payload).run labels (initial chunks) = some final) : Stage chunks final := by
  refine Machine.run_invariant ?_ labels (initial chunks) final .begun hmeets hrun
  intro state action next hstage hsmooth hstep
  obtain hnext | ⟨hrough, -⟩ := stage_step hstage hstep
  · exact hnext
  · exact absurd hsmooth hrough

section Progress

variable {reply : Bytes}

theorem CanReturn.before (hnext : CanReturn payload reply next) (action : Action)
    (hstep : (machine payload).step state action = some next) (hsmooth : Smooth action) :
    CanReturn payload reply state := by
  obtain ⟨labels, final, hmeets, hrun, hfinal⟩ := hnext
  refine ⟨action :: labels, final, Machine.meets_cons hsmooth hstep hmeets, ?_, hfinal⟩
  rw [Machine.run_cons, hstep]
  exact hrun

theorem canReturn_returned (arriving : List Bytes) :
    CanReturn payload reply ⟨.returned (.ok reply), arriving⟩ :=
  ⟨[], _, trivial, rfl, rfl⟩

theorem canReturn_closing {connection : Tcp.State} (hclosing : Closing connection)
    (arriving : List Bytes) :
    CanReturn payload reply ⟨.closing connection (.ok reply), arriving⟩ := by
  have hsignalled (connection : Tcp.State) (hcloser : connection.closer 0 = .signalled) :
      CanReturn payload reply ⟨.closing connection (.ok reply), arriving⟩ := by
    refine (canReturn_returned arriving).before .closed ?_ trivial
    simp [machine, State.step, Tcp.State.step, hcloser]
  by_cases hcloser : connection.closer 0 = .signalled
  · exact hsignalled connection hcloser
  · obtain ⟨hcallback, -⟩ := hclosing.resolve_right hcloser
    have hafter : connection.step .onConnectionClosed =
        some { connection.finishClose with closeCallback := false } := by
      simp [Tcp.State.step, hcallback]
    refine (hsignalled _ (closing_onConnectionClosed hclosing hafter)).before
      .onConnectionClosed ?_ trivial
    simp only [machine, State.step, hafter, Option.map_some]

theorem canReturn_answered {connection : Tcp.State} (hanswered : Answered connection (.ok reply))
    (arriving : List Bytes) : CanReturn payload reply ⟨.reading connection, arriving⟩ := by
  have hafter : connection.step (.resume 0 false) =
      some (connection.resumeRead 0 (.ok reply)) := by
    simp [Tcp.State.step, Tcp.State.resume, hanswered.call]
  obtain ⟨hopen, hclose⟩ := afterRead_resume hanswered hafter
  refine (canReturn_closing (closing_startClose hopen) arriving).before .received ?_ trivial
  simp only [machine, State.step, hafter, Option.map_some, hclose, close]

/-- The first chunk arrives, or the end of the stream when there is none. -/
theorem canReturn_awaiting (hchunks : ∀ chunk ∈ chunks, chunk ≠ []) :
    CanReturn payload (firstChunk chunks) ⟨.reading awaiting, chunks⟩ := by
  cases chunks with
  | nil =>
      have hafter : awaiting.step (.onConnectionRead uvEof []) =
          some (awaiting.onConnectionRead uvEof []) := by
        simp [Tcp.State.step, awaiting, uvEof]
      have harrives : State.arrives ⟨.reading awaiting, []⟩ uvEof [] = true := rfl
      obtain hanswered | ⟨hzero, -⟩ | ⟨⟨-, heof⟩, -⟩ := awaiting_read harrives hafter
      · refine (canReturn_answered hanswered []).before (.onConnectionRead uvEof []) ?_ (.inr rfl)
        simp only [machine, State.step, State.onConnectionRead, harrives, if_true, hafter,
          Option.map_some, List.tail_nil, ite_self]
      · exact absurd hzero (by decide)
      · exact absurd rfl heof
  | cons chunk rest =>
      have hpositive : (0 : Int) < chunk.length :=
        Int.ofNat_lt.mpr (List.length_pos_of_ne_nil (hchunks chunk List.mem_cons_self))
      have hafter : awaiting.step (.onConnectionRead chunk.length chunk) =
          some (awaiting.onConnectionRead chunk.length chunk) := by
        simp [Tcp.State.step, awaiting]
      have harrives : State.arrives ⟨.reading awaiting, chunk :: rest⟩ chunk.length chunk =
          true := by
        rw [State.arrives, if_pos hpositive]
        exact decide_eq_true rfl
      obtain hanswered | ⟨hzero, -⟩ | ⟨⟨hnegative, -⟩, -⟩ := awaiting_read harrives hafter
      · refine (canReturn_answered hanswered rest).before (.onConnectionRead chunk.length chunk) ?_
          (.inl hpositive.le)
        simp only [machine, State.step, State.onConnectionRead, harrives, if_true, hafter,
          Option.map_some, hpositive, List.tail_cons]
      · omega
      · omega

/-- From every point that `request` passes without a failure it can go on to return the
first chunk. -/
theorem stage_canReturn (hchunks : ∀ chunk ∈ chunks, chunk ≠ []) (hstage : Stage chunks state) :
    CanReturn payload (firstChunk chunks) state := by
  have hawaiting : CanReturn payload (firstChunk chunks) ⟨.reading awaiting, chunks⟩ :=
    canReturn_awaiting hchunks
  have hwritten : CanReturn payload (firstChunk chunks)
      ⟨.writing Tcp.initial (some (.ok ())), chunks⟩ :=
    hawaiting.before (.written 0) rfl (Int.le_refl 0)
  have hwriting : CanReturn payload (firstChunk chunks) ⟨.writing Tcp.initial none, chunks⟩ :=
    hwritten.before (.onWriteDone 0) rfl (Int.le_refl 0)
  have hdialled : CanReturn payload (firstChunk chunks) ⟨.connecting dialled, chunks⟩ := by
    by_cases hpayload : payload = []
    · subst hpayload
      exact hawaiting.before (.connected 0 0) rfl ⟨Int.le_refl 0, Int.le_refl 0⟩
    · refine hwriting.before (.connected 0 0) ?_ ⟨Int.le_refl 0, Int.le_refl 0⟩
      simp [machine, State.step, Connect.State.step, Connect.State.resume, dialled, afterConnect,
        write, hpayload, Tcp.State.connectionWrite, Tcp.initial]
  have hdialling : CanReturn payload (firstChunk chunks) ⟨.connecting dialling, chunks⟩ :=
    hdialled.before (.onConnected 0) rfl (Int.le_refl 0)
  have hresolving : CanReturn payload (firstChunk chunks) ⟨.connecting resolving, chunks⟩ :=
    hdialling.before (.onResolved 0 true 0 0) rfl
      ⟨Int.le_refl 0, rfl, Int.le_refl 0, Int.le_refl 0⟩
  cases hstage with
  | begun => exact hresolving.before (.start 0) rfl (Int.le_refl 0)
  | resolving => exact hresolving
  | dialling => exact hdialling
  | dialled => exact hdialled
  | writing => exact hwriting
  | written => exact hwritten
  | awaiting => exact hawaiting
  | answered hanswered => exact canReturn_answered hanswered _
  | closing hclosing => exact canReturn_closing hclosing _
  | returned => exact canReturn_returned _

end Progress

/-- `request` returns the first chunk of the reply, whatever follows it. -/
theorem returns_firstChunk (payload : Bytes) (hchunks : ∀ chunk ∈ chunks, chunk ≠ []) :
    Returns payload chunks (firstChunk chunks) := by
  constructor
  · intro labels final response hrun hreturned
    obtain hstage | hfailing := run_stage hrun
    · cases hstage <;> cases hreturned
      rfl
    · cases hfailing <;> cases hreturned
  · intro labels state hmeets hrun
    exact stage_canReturn hchunks (smooth_stage hmeets hrun)

theorem Returns.unique {first second : Bytes} (hfirst : Returns payload chunks first)
    (hsecond : Returns payload chunks second) : first = second := by
  obtain ⟨labels, final, -, hrun, hfinal⟩ := hfirst.2 [] (initial chunks) trivial rfl
  exact hsecond.1 labels final first hrun hfinal

/-- The first chunk is all of the reply only when no second one follows. -/
theorem firstChunk_eq_flatten (hchunks : ∀ chunk ∈ chunks, chunk ≠ []) :
    firstChunk chunks = chunks.flatten ↔ chunks.length ≤ 1 := by
  match chunks with
  | [] => simp [firstChunk]
  | [chunk] => simp [firstChunk]
  | first :: second :: rest =>
      have hsecond : second ≠ [] := hchunks second (by simp)
      simp [firstChunk, hsecond]

/-- `request` returns the reply the peer wrote exactly when libuv delivers it in one piece. -/
theorem returns_reply_iff (payload : Bytes) (chunks : List Bytes)
    (hchunks : ∀ chunk ∈ chunks, chunk ≠ []) :
    Returns payload chunks chunks.flatten ↔ chunks.length ≤ 1 := by
  have hfirst := returns_firstChunk payload hchunks
  rw [← firstChunk_eq_flatten hchunks]
  constructor
  · intro hreply
    exact hfirst.unique hreply
  · intro hsame
    rwa [hsame] at hfirst

/-- A reply that arrives in one piece is returned. -/
theorem returns_reply_whole :
    (∀ chunk ∈ [[104, 105]], chunk ≠ ([] : Bytes)) ∧ Returns [1] [[104, 105]] [104, 105] :=
  ⟨by decide, (returns_reply_iff [1] [[104, 105]] (by decide)).mpr (by decide)⟩

/-- The second of two one-byte chunks comes too late. -/
def answeredInTwo : List Action :=
  [.start 0, .onResolved 0 true 0 0, .onConnected 0, .connected 0 0, .onWriteDone 0, .written 0,
    .onConnectionRead 1 [104], .received, .onConnectionClosed, .closed]

/-- The same reply in two pieces is cut after the first. -/
theorem reply_cut_answeredInTwo :
    (∀ chunk ∈ [[104], [105]], chunk ≠ ([] : Bytes)) ∧
      ((machine [1]).run answeredInTwo (initial [[104], [105]])).map State.fiber =
        some (.returned (.ok [104])) ∧
      ¬ Returns [1] [[104], [105]] [104, 105] := by
  refine ⟨by decide, rfl, fun hreturns => ?_⟩
  have hcut : [104] = ([104, 105] : Bytes) := hreturns.1 answeredInTwo _ [104] rfl rfl
  exact absurd hcut (by decide)

end Fiberuv.Tcp.Request
