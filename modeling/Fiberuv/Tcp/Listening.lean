import Fiberuv.EventLoop.Teardown
import Fiberuv.Tcp.ServerSound

/-! # The listening handle and who holds it

`listen` can fail in three places after `uv_tcp_init` has registered the handle with the
loop. It then has set `server_initialized`, but neither `listening`, which would stop a
second initialisation, nor `keepalive`, which would hold the `Impl` until libuv is done
with the handle.

The server is the one of `Tcp.Server`, with what libuv knows about its handle.
-/

namespace Fiberuv.Tcp.Listening

open Foundation
open EventLoop.Teardown (Registration)
open Server (HandleId ListenResults)

structure State where
  server : Server.State := {}
  handle : Registration := .absent

inductive Action where
  | server (action : Server.Action)
  /-- libuv finishes a closing without a callback. -/
  | finish

namespace State

/-- `listen` through this object gets to `uv_tcp_init`. -/
def appliesInit (state : State) (object : HandleId) : Bool :=
  state.server.handle object && state.server.alive && !state.server.listening

/-- What becomes of the handle in a step of the server to `next`. -/
def handleAfter (state : State) (next : Server.State) : Server.Action → Registration
  | .listen _ object results =>
      if state.appliesInit object ∧ 0 ≤ results.init then .opened else state.handle
  | .close _ => if !state.server.uvClosing && next.uvClosing then .closing true else state.handle
  | .onServerClosed => .finished
  | .walk => match state.handle with
      | .opened => .closing false
      | handle => handle
  | _ => state.handle

def step (state : State) : Action → Option State
  | .server action => (state.server.step action).map fun next =>
      { server := next, handle := state.handleAfter next action }
  | .finish => match state.handle with
      | .closing false => some { state with handle := .finished }
      | _ => none

/-- `keepalive` or a `TcpServer` object holds the `Impl`. -/
def Held (state : State) : Prop :=
  state.server.keepalive = true ∨ ∃ object, state.server.handle object = true

/-- libuv does not get to a handle whose `Impl` is gone. -/
def Safe (state : State) : Prop :=
  state.handle.registered = true → state.Held

/-- No other object shares the `Impl` with this one. -/
def Last (state : State) (object : HandleId) : Prop :=
  state.server.handle object = true ∧
    ∀ other, other ≠ object → state.server.handle other = false

end State

def machine : Machine State Action where
  step := State.step

def initial : State := {}

/-- The part of the server that decides about its handle is the same. -/
structure Quiet (server next : Server.State) : Prop where
  initialized : next.serverInitialized = server.serverInitialized
  closing : next.closing = server.closing
  keepalive : next.keepalive = server.keepalive
  alive : next.alive = server.alive
  uvClosing : next.uvClosing = server.uvClosing
  handle : next.handle = server.handle
  listening : next.listening = server.listening

section Server

variable {server next : Server.State}

theorem acceptOrWait_quiet (server : Server.State) (call : CallId) (timed : Bool)
    (object : HandleId) : Quiet server (server.acceptOrWait call timed object) := by
  have heffect := Server.acceptOrWait_effect server call timed object
  generalize server.acceptOrWait call timed object = next at heffect ⊢
  cases heffect with
  | threw error => exact ⟨rfl, rfl, rfl, rfl, rfl, rfl, rfl⟩
  | popped hqueue => exact ⟨rfl, rfl, rfl, rfl, rfl, rfl, rfl⟩
  | registered hhandle hopen hqueue => exact ⟨rfl, rfl, rfl, rfl, rfl, rfl, rfl⟩

theorem resume_quiet {call : CallId} {expired : Bool}
    (hresume : server.resume call expired = some next) : Quiet server next := by
  unfold Server.State.resume at hresume
  split at hresume
  · split at hresume
    · cases hresume
      exact ⟨rfl, rfl, rfl, rfl, rfl, rfl, rfl⟩
    · simp only [Option.ite_none_right_eq_some, Option.some.injEq] at hresume
      obtain ⟨-, rfl⟩ := hresume
      unfold Server.State.acceptTimedOut
      split
      · exact ⟨rfl, rfl, rfl, rfl, rfl, rfl, rfl⟩
      split
      · exact ⟨rfl, rfl, rfl, rfl, rfl, rfl, rfl⟩
      split
      · exact ⟨rfl, rfl, rfl, rfl, rfl, rfl, rfl⟩
      · exact ⟨rfl, rfl, rfl, rfl, rfl, rfl, rfl⟩
  · cases hresume

theorem dispatchAccepted_quiet (server : Server.State) (id : Server.ConnectionId) :
    Quiet server (server.dispatchAccepted id) := by
  unfold Server.State.dispatchAccepted Server.State.setPromise
  dsimp only
  split
  · split
    · exact ⟨rfl, rfl, rfl, rfl, rfl, rfl, rfl⟩
    · exact ⟨rfl, rfl, rfl, rfl, rfl, rfl, rfl⟩
  · exact ⟨rfl, rfl, rfl, rfl, rfl, rfl, rfl⟩

theorem onConnection_quiet (server : Server.State) (status createRc acceptRc : Int) :
    Quiet server (server.onConnection status createRc acceptRc) := by
  unfold Server.State.onConnection
  split
  · exact ⟨rfl, rfl, rfl, rfl, rfl, rfl, rfl⟩
  split
  · exact ⟨rfl, rfl, rfl, rfl, rfl, rfl, rfl⟩
  dsimp only
  split
  · exact ⟨rfl, rfl, rfl, rfl, rfl, rfl, rfl⟩
  · exact { dispatchAccepted_quiet server.createConnection server.fresh with }

theorem connectionStep_quiet {id : Server.ConnectionId} {action : Tcp.Action}
    (hstep : server.connectionStep id action = some next) : Quiet server next := by
  unfold Server.State.connectionStep at hstep
  split at hstep
  · cases hstep
  · cases hstep
  · simp only [Option.ite_none_right_eq_some, Option.map_eq_some_iff] at hstep
    obtain ⟨-, connection, -, rfl⟩ := hstep
    exact ⟨rfl, rfl, rfl, rfl, rfl, rfl, rfl⟩

/-- What `begin_close` does to the part that decides about the handle. -/
theorem beginClose_flags (hsound : Server.Sound server) :
    server.beginClose.serverInitialized = server.serverInitialized ∧
      server.beginClose.alive = server.alive ∧ server.beginClose.handle = server.handle ∧
      server.beginClose.closing = true ∧
      (server.closing = true → server.beginClose = server) ∧
      (server.closing = false →
        if server.serverInitialized && server.alive && !server.uvClosing then
          server.beginClose.uvClosing = true ∧ server.beginClose.keepalive = server.keepalive
        else
          server.beginClose.uvClosing = server.uvClosing ∧
            server.beginClose.keepalive = false) := by
  cases hclosing : server.closing with
  | true =>
      have hsame : server.beginClose = server := by simp [Server.State.beginClose, hclosing]
      rw [hsame]
      exact ⟨rfl, rfl, rfl, hclosing, fun _ => rfl, by simp⟩
  | false =>
      obtain ⟨connection, heq, -⟩ := hsound.beginClose_eq hclosing
      rw [heq]
      cases hinitialized : server.serverInitialized <;> cases halive : server.alive <;>
        cases huv : server.uvClosing <;>
        simp [Server.State.closeServer, Server.State.emptied, hinitialized, halive, huv]

theorem beginClose_listening (hsound : Server.Sound server) :
    server.beginClose.listening = server.listening := by
  cases hclosing : server.closing with
  | true => simp [Server.State.beginClose, hclosing]
  | false =>
      obtain ⟨connection, heq, -⟩ := hsound.beginClose_eq hclosing
      rw [heq, Server.State.closeServer]
      split
      · split <;> rfl
      · rfl

theorem onServerClosed_flags (hsound : Server.Sound server)
    (hcallback : server.closeCallback = true) :
    server.onServerClosed = { server with
      serverClosed := true, closeCallback := false, keepalive := false } := by
  have hclosing := hsound.callback hcallback
  have hempty := hsound.acceptWaiters_of_closing hclosing
  simp [Server.State.onServerClosed, hempty, Server.State.failAcceptWaiters, hclosing]

/-- `listen` leaves the flags of closing alone, and sets `server_initialized` when it gets
past `uv_tcp_init`. -/
theorem listen_flags (server : Server.State) (call : CallId) (object : HandleId)
    (results : ListenResults) :
    let next := server.listen call object results
    next.closing = server.closing ∧ next.alive = server.alive ∧
      next.uvClosing = server.uvClosing ∧ next.handle = server.handle ∧
      (server.keepalive = true → next.keepalive = true) ∧
      next.serverInitialized = (server.serverInitialized ||
        server.handle object && server.alive && !server.listening &&
          decide (0 ≤ results.init)) := by
  dsimp only
  unfold Server.State.listen
  split
  next hnull =>
    have hobject : server.handle object = false := by simpa using hnull
    exact ⟨rfl, rfl, rfl, rfl, id, by simp [hobject, Server.State.setCall]⟩
  next hobject =>
  split
  next hdead =>
    have halive : server.alive = false := by simpa using hdead
    exact ⟨rfl, rfl, rfl, rfl, id, by simp [halive, Server.State.setCall]⟩
  next halive =>
  split
  next hlistening => exact ⟨rfl, rfl, rfl, rfl, id, by simp [hlistening, Server.State.setCall]⟩
  next hlistening =>
  split
  next hinit =>
    exact ⟨rfl, rfl, rfl, rfl, id, by simp [hinit, Server.State.setCall]⟩
  next hinit =>
  have hpast : (server.handle object && server.alive && !server.listening &&
      decide (0 ≤ results.init)) = true := by
    have hok : 0 ≤ results.init := by omega
    simp_all
  rw [hpast, Bool.or_true]
  dsimp only
  split
  · exact ⟨rfl, rfl, rfl, rfl, id, rfl⟩
  split
  · exact ⟨rfl, rfl, rfl, rfl, id, rfl⟩
  split
  · exact ⟨rfl, rfl, rfl, rfl, id, rfl⟩
  · exact ⟨rfl, rfl, rfl, rfl, fun _ => rfl, rfl⟩

/-- `listen` sets `listening` when nothing fails after `uv_tcp_init`, and never clears it. -/
theorem listen_listening (server : Server.State) (call : CallId) (object : HandleId)
    (results : ListenResults) :
    (server.listening = true → (server.listen call object results).listening = true) ∧
      (server.handle object = true → server.alive = true → 0 ≤ results.init →
        results.addr = 0 → 0 ≤ results.bind → 0 ≤ results.listen →
        (server.listen call object results).listening = true) := by
  constructor
  · intro hlistening
    unfold Server.State.listen
    split
    · exact hlistening
    split
    · exact hlistening
    · exact hlistening
  · intro hobject halive hinit haddr hbind hlisten
    unfold Server.State.listen
    rw [if_neg (by simp [hobject]), if_neg (by simp [halive])]
    split
    next hlistening => exact hlistening
    next =>
      rw [if_neg (by omega)]
      dsimp only
      rw [if_neg (by simp [haddr]), if_neg (by omega), if_neg (by omega)]
      rfl

end Server

end Fiberuv.Tcp.Listening
