import Fiberuv.Tcp.Connect

/-! # A connect attempt ends once

An attempt goes through phases: the name is resolved, the socket is connected, and then
one callback finishes it. In the first two phases nothing has been freed or set, so the
callback that runs next, or the fiber whose timeout passes, finds the state intact; after
that no callback is left. A timeout only marks the state and starts to close the
connection, and leaves the rest to the callback that is pending.
-/

namespace Fiberuv.Tcp.Connect

open Foundation

variable {state next : State}

/-- Nothing has been finished, freed or set so far, apart from results of the resolver. -/
structure Untouched (state : State) (held : Nat) : Prop where
  finished : state.finished = false
  promise : state.promise = none
  finishes : state.finishes = 0
  frees : state.frees = 0
  promiseSets : state.promiseSets = 0
  addrinfos : state.addrinfos = held
  fault : state.fault = false

/-- The fiber waits, or it has reported its timeout. -/
def Awaited (state : State) : Prop :=
  (state.timedOut = false ∧ ∃ again, state.fiber = .waiting again) ∨
    (state.timedOut = true ∧ state.fiber = .returned (.ok false))

/-- The attempt has ended with this outcome, once. -/
structure Over (state : State) (outcome : Except Error Unit) : Prop where
  promise : state.promise = some outcome
  resolver : state.resolver = .done
  connectReq : state.connectReq ≠ .pending
  finishes : state.finishes = 1
  frees : state.frees = 1
  promiseSets : state.promiseSets = 1
  addrinfos : state.addrinfos = 0
  fault : state.fault = false

inductive Phase (state : State) : Prop where
  | idle (hfiber : state.fiber = .idle) (hresolver : state.resolver = .unused)
      (hconnect : state.connectReq = .unused) (hconnection : state.connection = none)
      (htimedOut : state.timedOut = false) (huntouched : Untouched state 0)
  /-- The loop was not alive, or `uv_getaddrinfo` refused. -/
  | refused (error : Error) (hfiber : state.fiber = .returned (.error error))
      (hresolver : state.resolver = .unused) (hconnect : state.connectReq = .unused)
      (hconnection : state.connection = none) (hfrees : state.frees ≤ 1)
      (hfinishes : state.finishes = 0) (hpromiseSets : state.promiseSets = 0)
      (haddrinfos : state.addrinfos = 0) (hfault : state.fault = false)
  | resolving (hresolver : state.resolver = .pending) (hconnect : state.connectReq = .unused)
      (hconnection : state.connection = none) (hawaited : Awaited state)
      (huntouched : Untouched state 0)
  | connecting (connection : Tcp.State) (hresolver : state.resolver = .done)
      (hconnect : state.connectReq = .pending) (hconnection : state.connection = some connection)
      (hinitialized : connection.initialized = true)
      (hreleased : state.timedOut = true → connection.Released) (hawaited : Awaited state)
      (huntouched : Untouched state 0)
  | connected (connection : Tcp.State) (hover : Over state (.ok ()))
      (hconnection : state.connection = some connection) (htimedOut : state.timedOut = false)
      (hfiber : (∃ again, state.fiber = .waiting again) ∨ state.fiber = .returned (.ok true))
  | failed (error : Error) (hover : Over state (.error error))
      (hreleased : ∀ connection, state.connection = some connection → connection.Released)
      (hfiber : Awaited state ∨ state.fiber = .returned (.error error))

theorem phase_initial : Phase initial :=
  .idle rfl rfl rfl rfl rfl ⟨rfl, rfl, rfl, rfl, rfl, rfl, rfl⟩

/-- Every exit with an error closes the connection, if there is one, and ends the attempt. -/
theorem phase_finishConnectError (huntouched : Untouched state 0)
    (hresolver : state.resolver = .done) (hconnect : state.connectReq ≠ .pending)
    (hinitialized : ∀ connection, state.connection = some connection →
      connection.initialized = true) (hawaited : Awaited state) (error : Error) :
    Phase (state.finishConnectError error) := by
  have heq : state.finishConnectError error = { state with
      finished := true
      finishes := 1
      frees := 1
      promise := some (.error error)
      promiseSets := 1
      connection := state.connection.map (·.startClose none) } := by
    simp [State.finishConnectError, State.beginConnectFinish, State.closeConnection,
      State.setPromise, State.delete, huntouched.finished, huntouched.promise,
      huntouched.finishes, huntouched.frees, huntouched.promiseSets]
  rw [heq]
  refine .failed error ⟨rfl, hresolver, hconnect, rfl, rfl, rfl, huntouched.addrinfos,
    huntouched.fault⟩ ?_ (.inl hawaited)
  intro connection hconnection
  obtain ⟨before, hbefore, rfl⟩ := Option.map_eq_some_iff.mp hconnection
  exact Tcp.State.released_of_startClose (hinitialized before hbefore) none

theorem phase_finishConnectSuccess (huntouched : Untouched state 0)
    (hresolver : state.resolver = .done) (hconnect : state.connectReq ≠ .pending)
    {connection : Tcp.State} (hconnection : state.connection = some connection)
    (htimedOut : state.timedOut = false) (hfiber : ∃ again, state.fiber = .waiting again) :
    Phase state.finishConnectSuccess := by
  have heq : state.finishConnectSuccess = { state with
      finished := true
      finishes := 1
      frees := 1
      promise := some (.ok ())
      promiseSets := 1 } := by
    simp [State.finishConnectSuccess, State.beginConnectFinish, State.setPromise, State.delete,
      huntouched.finished, huntouched.promise, huntouched.finishes, huntouched.frees,
      huntouched.promiseSets, htimedOut]
  rw [heq]
  exact .connected connection ⟨rfl, hresolver, hconnect, rfl, rfl, rfl, huntouched.addrinfos,
    huntouched.fault⟩ hconnection htimedOut (.inl hfiber)

/-! ## One step -/

theorem phase_start (hfiber : state.fiber = .idle) (hphase : Phase state) (timed : Bool)
    (rc : Int) : Phase (state.start timed rc) := by
  cases hphase with
  | idle _ hresolver hconnect hconnection htimedOut huntouched =>
      unfold State.start
      split
      · exact .refused loopNotAlive rfl hresolver hconnect hconnection (by simp [huntouched.frees])
          huntouched.finishes huntouched.promiseSets huntouched.addrinfos huntouched.fault
      split
      · exact .refused _ rfl hresolver hconnect hconnection
          (by simp [State.delete, huntouched.frees])
          huntouched.finishes huntouched.promiseSets huntouched.addrinfos huntouched.fault
      · exact .resolving rfl hconnect hconnection (.inl ⟨htimedOut, false, rfl⟩)
          { huntouched with }
  | refused error hreturned => simp [hfiber] at hreturned
  | resolving _ _ _ hawaited => simp [Awaited, hfiber] at hawaited
  | connecting _ _ _ _ _ _ hawaited => simp [Awaited, hfiber] at hawaited
  | connected _ _ _ _ hwaits => simp [hfiber] at hwaits
  | failed error _ _ hwaits => simp [Awaited, hfiber] at hwaits

/-- `connect_for` marks the attempt and closes the connection, if there is one. -/
theorem phase_giveUp (hphase : Phase state) (hunset : state.promise = none)
    {again : Bool} (hfiber : state.fiber = .waiting again) : Phase (state.deref State.giveUp) := by
  cases hphase with
  | idle hidle => simp [hfiber] at hidle
  | refused error hreturned => simp [hfiber] at hreturned
  | resolving hresolver hconnect hconnection hawaited huntouched =>
      rw [State.deref, if_pos huntouched.frees]
      exact .resolving hresolver hconnect
        (by simp [State.giveUp, State.closeConnection, hconnection])
        (.inr ⟨rfl, rfl⟩) { huntouched with }
  | connecting connection hresolver hconnect hconnection hinitialized hreleased hawaited
      huntouched =>
      rw [State.deref, if_pos huntouched.frees]
      have hclosed := Tcp.State.released_of_startClose hinitialized none
      exact .connecting (connection.startClose none) hresolver hconnect
        (by simp [State.giveUp, State.closeConnection, hconnection]) hclosed.initialized
        (fun _ => hclosed) (.inr ⟨rfl, rfl⟩) { huntouched with }
  | connected connection hover => simp [hover.promise] at hunset
  | failed error hover => simp [hover.promise] at hunset

theorem phase_resume {expired : Bool} (hphase : Phase state)
    (hresume : state.resume expired = some next) : Phase next := by
  unfold State.resume at hresume
  split at hresume
  next again hfiber =>
    split at hresume
    next hset =>
      cases hresume
      cases hphase with
      | idle hidle => simp [hfiber] at hidle
      | refused error hreturned => simp [hfiber] at hreturned
      | resolving _ _ _ _ huntouched => simp [huntouched.promise] at hset
      | connecting _ _ _ _ _ _ _ huntouched => simp [huntouched.promise] at hset
      | connected connection hover hconnection htimedOut _ =>
          exact .connected connection { hover with } hconnection htimedOut (.inr rfl)
      | failed error hover => simp [hover.promise] at hset
    next error hset =>
      cases hresume
      cases hphase with
      | idle hidle => simp [hfiber] at hidle
      | refused error hreturned => simp [hfiber] at hreturned
      | resolving _ _ _ _ huntouched => simp [huntouched.promise] at hset
      | connecting _ _ _ _ _ _ _ huntouched => simp [huntouched.promise] at hset
      | connected connection hover => simp [hover.promise] at hset
      | failed other hover hreleased _ =>
          have hsame : other = error := by simpa [hover.promise] using hset
          subst hsame
          exact .failed other { hover with } hreleased (.inr rfl)
    next hunset =>
      simp only [Option.ite_none_right_eq_some] at hresume
      obtain ⟨-, hexpired⟩ := hresume
      split at hexpired
      · cases hexpired
        exact phase_giveUp hphase hunset hfiber
      · cases hexpired
        cases hphase with
        | idle hidle => simp [hfiber] at hidle
        | refused error hreturned => simp [hfiber] at hreturned
        | resolving hresolver hconnect hconnection hawaited huntouched =>
            refine .resolving hresolver hconnect hconnection ?_ { huntouched with }
            rcases hawaited with ⟨htimedOut, -⟩ | ⟨-, hreturned⟩
            · exact .inl ⟨htimedOut, true, rfl⟩
            · simp [hfiber] at hreturned
        | connecting connection hresolver hconnect hconnection hinitialized hreleased hawaited
            huntouched =>
            refine .connecting connection hresolver hconnect hconnection hinitialized hreleased ?_
              { huntouched with }
            rcases hawaited with ⟨htimedOut, -⟩ | ⟨-, hreturned⟩
            · exact .inl ⟨htimedOut, true, rfl⟩
            · simp [hfiber] at hreturned
        | connected connection hover => simp [hover.promise] at hunset
        | failed error hover => simp [hover.promise] at hunset
  next => cases hresume

/-- The callback of the resolver, when it ends the attempt: the result is freed first. -/
theorem phase_exit {res : Bool} (huntouched : Untouched state (if res then 1 else 0))
    (hresolver : state.resolver = .done) (hconnect : state.connectReq = .unused)
    (hinitialized : ∀ connection, state.connection = some connection →
      connection.initialized = true) (hawaited : Awaited state) (error : Error) :
    Phase ((state.freeAddrinfo res).finishConnectError error) := by
  have haddrinfos := huntouched.addrinfos
  cases res with
  | false =>
      have hfreed : Untouched (state.freeAddrinfo false) 0 := { huntouched with }
      have hunused : (state.freeAddrinfo false).connectReq = .unused := hconnect
      exact phase_finishConnectError hfreed hresolver (by simp [hunused]) hinitialized hawaited
        error
  | true =>
      have hfreed : Untouched (state.freeAddrinfo true) 0 :=
        { huntouched with addrinfos := by simp [State.freeAddrinfo, haddrinfos] }
      exact phase_finishConnectError hfreed hresolver (by simp [State.freeAddrinfo, hconnect])
        hinitialized hawaited error

/-- `on_resolved` starts the connect request or ends the attempt. -/
theorem phase_onResolved {res : Bool} (huntouched : Untouched state (if res then 1 else 0))
    (hresolver : state.resolver = .done) (hconnect : state.connectReq = .unused)
    (hconnection : state.connection = none) (hawaited : Awaited state)
    (status createRc connectRc : Int) :
    Phase (state.onResolved status res createRc connectRc) := by
  have hexit := phase_exit huntouched hresolver hconnect (by simp [hconnection]) hawaited
  unfold State.onResolved
  split
  · exact hexit connectTimeout
  next htimedOut =>
  split
  · exact hexit (.uv "uv_getaddrinfo" status)
  next hgoes =>
  obtain rfl : res = true := by
    simp only [Bool.or_eq_true, Bool.not_eq_true', not_or, Bool.not_eq_false] at hgoes
    exact hgoes.2
  split
  · exact hexit (.uv "uv_tcp_init" createRc)
  unfold State.startConnect
  split
  next htimeout => exact absurd htimeout htimedOut
  split
  · have hmade : Untouched { state with connection := some { alive := state.alive } }
      (if true then 1 else 0) := { huntouched with }
    exact phase_exit hmade hresolver hconnect (by simp) hawaited _
  · have haddrinfos := huntouched.addrinfos
    refine .connecting { alive := state.alive } hresolver rfl rfl rfl ?_ hawaited
      { huntouched with addrinfos := by simp [State.freeAddrinfo, haddrinfos] }
    exact fun htimeout => absurd htimeout htimedOut

theorem phase_resolved (hphase : Phase state) (hpending : state.resolver = .pending)
    (status : Int) (res : Bool) (createRc connectRc : Int) :
    Phase ({ state with
      resolver := .done
      addrinfos := state.addrinfos + if res then 1 else 0 }.deref
        (·.onResolved status res createRc connectRc)) := by
  cases hphase with
  | resolving _ hconnect hconnection hawaited huntouched =>
      have hfrees : state.frees = 0 := huntouched.frees
      rw [State.deref, if_pos hfrees]
      have hheld : Untouched { state with
          resolver := .done
          addrinfos := state.addrinfos + if res then 1 else 0 } (if res then 1 else 0) :=
        { huntouched with addrinfos := by simp [huntouched.addrinfos] }
      exact phase_onResolved hheld rfl hconnect hconnection hawaited status createRc connectRc
  | idle _ hresolver => simp [hpending] at hresolver
  | refused _ _ hresolver => simp [hpending] at hresolver
  | connecting _ hresolver => simp [hpending] at hresolver
  | connected _ hover => simp [hover.resolver] at hpending
  | failed _ hover => simp [hover.resolver] at hpending

theorem phase_onConnected (hphase : Phase state) (hpending : state.connectReq = .pending)
    (status : Int) :
    Phase ({ state with connectReq := .done }.deref (·.onConnected status)) := by
  cases hphase with
  | connecting connection hresolver _ hconnection hinitialized _ hawaited huntouched =>
      have hfrees : state.frees = 0 := huntouched.frees
      rw [State.deref, if_pos hfrees]
      have hdone : Untouched { state with connectReq := .done } 0 := { huntouched with }
      have hfails : ∀ error,
          Phase (State.finishConnectError { state with connectReq := .done } error) :=
        phase_finishConnectError hdone hresolver (by simp)
          (by simpa [hconnection] using hinitialized) hawaited
      unfold State.onConnected
      split
      · exact hfails connectTimeout
      next htimedOut =>
      split
      · exact hfails (.uv "uv_tcp_connect" status)
      · have hrunning : state.timedOut = false := by simpa using htimedOut
        refine phase_finishConnectSuccess hdone hresolver (by simp) hconnection hrunning ?_
        rcases hawaited with ⟨-, hwaits⟩ | ⟨hout, -⟩
        · exact hwaits
        · simp [hrunning] at hout
  | idle _ _ hconnect => simp [hpending] at hconnect
  | refused _ _ _ hconnect => simp [hpending] at hconnect
  | resolving _ hconnect => simp [hpending] at hconnect
  | connected _ hover => exact absurd hpending hover.connectReq
  | failed _ hover => exact absurd hpending hover.connectReq

/-- What happens to the connection itself does not take back its release. -/
theorem Phase.changeConnection (hphase : Phase state) (change : Tcp.State → Tcp.State)
    (hchange : ∀ connection, state.connection = some connection →
      (change connection).initialized = connection.initialized ∧
        (connection.Released → (change connection).Released)) (alive : Bool) :
    Phase { state with alive := alive, connection := state.connection.map change } := by
  cases hphase with
  | idle hfiber hresolver hconnect hconnection htimedOut huntouched =>
      exact .idle hfiber hresolver hconnect (by simp [hconnection]) htimedOut { huntouched with }
  | refused error hfiber hresolver hconnect hconnection hfrees hfinishes hpromiseSets haddrinfos
      hfault =>
      exact .refused error hfiber hresolver hconnect (by simp [hconnection]) hfrees hfinishes
        hpromiseSets haddrinfos hfault
  | resolving hresolver hconnect hconnection hawaited huntouched =>
      exact .resolving hresolver hconnect (by simp [hconnection]) hawaited { huntouched with }
  | connecting connection hresolver hconnect hconnection hinitialized hreleased hawaited
      huntouched =>
      obtain ⟨hsame, hkept⟩ := hchange connection hconnection
      exact .connecting (change connection) hresolver hconnect (by simp [hconnection])
        (hsame.trans hinitialized) (fun htimedOut => hkept (hreleased htimedOut)) hawaited
        { huntouched with }
  | connected connection hover hconnection htimedOut hfiber =>
      exact .connected (change connection) { hover with } (by simp [hconnection]) htimedOut hfiber
  | failed error hover hreleased hfiber =>
      refine .failed error { hover with } ?_ hfiber
      intro after hafter
      obtain ⟨before, hbefore, rfl⟩ := Option.map_eq_some_iff.mp hafter
      exact (hchange before hbefore).2 (hreleased before hbefore)

theorem phase_connection {action : Tcp.Action} (hphase : Phase state)
    (hstep : state.connection.bind (state.connectionStep · action) = some next) : Phase next := by
  obtain ⟨connection, hconnection, hstep⟩ := Option.bind_eq_some_iff.mp hstep
  have hmoved : ∀ action after, connection.step action = some after →
      Phase { state with connection := some after } := by
    intro action after hafter
    have hchanged := hphase.changeConnection (fun _ => after) (by
      intro before hbefore
      rw [hconnection] at hbefore
      obtain rfl := Option.some.inj hbefore
      exact Tcp.State.step_released hafter) state.alive
    simpa [hconnection] using hchanged
  unfold State.connectionStep at hstep
  split at hstep
  · cases hstep
  · cases hstep
  · obtain ⟨after, hafter, rfl⟩ := Option.map_eq_some_iff.mp hstep
    exact hmoved _ after hafter
  · obtain ⟨after, hafter, rfl⟩ := Option.map_eq_some_iff.mp hstep
    exact hmoved _ after hafter
  · cases hstep

theorem step_phase {action : Action} (hphase : Phase state)
    (hstep : machine.step state action = some next) : Phase next := by
  replace hstep : state.step action = some next := hstep
  cases action with
  | start timed rc =>
      simp only [State.step] at hstep
      split at hstep
      next hfiber =>
        cases hstep
        exact phase_start hfiber hphase timed rc
      next => cases hstep
  | resume expired => exact phase_resume hphase hstep
  | onResolved status res createRc connectRc =>
      simp only [State.step, Option.ite_none_right_eq_some, Option.some.injEq] at hstep
      exact hstep.2 ▸ phase_resolved hphase hstep.1 status res createRc connectRc
  | onConnected status =>
      simp only [State.step, Option.ite_none_right_eq_some, Option.some.injEq] at hstep
      exact hstep.2 ▸ phase_onConnected hphase hstep.1 status
  | connection action => exact phase_connection hphase hstep
  | endLoop =>
      cases hstep
      exact hphase.changeConnection (fun connection => { connection with alive := false })
        (fun _ _ => ⟨rfl, fun hreleased => ⟨hreleased.initialized, hreleased.shut⟩⟩) false
  | walk =>
      simp only [State.step, Option.ite_none_left_eq_some, Option.some.injEq] at hstep
      rw [← hstep.2]
      refine hphase.changeConnection _ (fun connection _ => ?_) state.alive
      split
      · exact ⟨rfl, id⟩
      · exact ⟨rfl, fun hreleased => ⟨hreleased.initialized, hreleased.shut⟩⟩

/-! ## The end of the attempt -/

/-- `uv_getaddrinfo` has accepted the request. -/
def State.started (state : State) : Prop :=
  state.resolver ≠ .unused

/-- libuv has no callback of this attempt left to call. -/
def State.quiet (state : State) : Prop :=
  state.resolver ≠ .pending ∧ state.connectReq ≠ .pending

/-- The attempt ends at most once, exactly once when its callbacks have run, and the
connection is returned or closed. -/
structure EndsOnce (state : State) : Prop where
  noFault : state.fault = false
  atMostOnce : state.finishes ≤ 1 ∧ state.frees ≤ 1 ∧ state.promiseSets ≤ 1
  once : state.started → state.quiet →
    state.finishes = 1 ∧ state.frees = 1 ∧ state.promiseSets = 1
  addrinfos : state.addrinfos = 0
  /-- Without a timeout the connection is on its way to the caller, or it was returned. -/
  kept : ∀ connection, state.connection = some connection →
    connection.Released ∨ state.timedOut = false ∧
      ((∃ again, state.fiber = .waiting again) ∨ state.fiber = .returned (.ok true))
  /-- At the end it was returned, or it has been passed to `start_close`. -/
  settled : state.quiet → (∀ again, state.fiber ≠ .waiting again) →
    ∀ connection, state.connection = some connection →
      connection.Released ∨ state.fiber = .returned (.ok true)
  returned : state.fiber = .returned (.ok true) →
    state.timedOut = false ∧ state.promise = some (.ok ()) ∧ state.connection ≠ none
  nullopt : state.fiber = .returned (.ok false) →
    state.timedOut = true ∧
      ∀ connection, state.connection = some connection → connection.Released

theorem Awaited.kept (hawaited : Awaited state) (htimedOut : state.timedOut = false) :
    ∃ again, state.fiber = .waiting again := by
  rcases hawaited with ⟨-, hwaits⟩ | ⟨hout, -⟩
  · exact hwaits
  · simp [htimedOut] at hout

/-- No request has been made and there is no connection. -/
theorem endsOnce_of_unused (hresolver : state.resolver = .unused)
    (hconnection : state.connection = none)
    (hreturned : ∀ found, state.fiber ≠ .returned (.ok found))
    (hfinishes : state.finishes = 0) (hfrees : state.frees ≤ 1)
    (hpromiseSets : state.promiseSets = 0) (haddrinfos : state.addrinfos = 0)
    (hfault : state.fault = false) : EndsOnce state where
  noFault := hfault
  atMostOnce := by simp [hfinishes, hfrees, hpromiseSets]
  once hstarted := absurd hresolver hstarted
  addrinfos := haddrinfos
  kept := by simp [hconnection]
  settled := by simp [hconnection]
  returned htrue := absurd htrue (hreturned true)
  nullopt hnull := absurd hnull (hreturned false)

theorem Phase.endsOnce (hphase : Phase state) : EndsOnce state := by
  cases hphase with
  | idle hfiber hresolver hconnect hconnection htimedOut huntouched =>
      obtain ⟨-, -, hfinishes, hfrees, hpromiseSets, haddrinfos, hfault⟩ := huntouched
      exact endsOnce_of_unused hresolver hconnection (by simp [hfiber]) hfinishes
        (by simp [hfrees]) hpromiseSets haddrinfos hfault
  | refused error hfiber hresolver hconnect hconnection hfrees hfinishes hpromiseSets haddrinfos
      hfault =>
      exact endsOnce_of_unused hresolver hconnection (by simp [hfiber]) hfinishes hfrees
        hpromiseSets haddrinfos hfault
  | resolving hresolver hconnect hconnection hawaited huntouched =>
      obtain ⟨-, -, hfinishes, hfrees, hpromiseSets, haddrinfos, hfault⟩ := huntouched
      exact {
        noFault := hfault
        atMostOnce := by simp [hfinishes, hfrees, hpromiseSets]
        once := fun _ hquiet => absurd hresolver hquiet.1
        addrinfos := haddrinfos
        kept := by simp [hconnection]
        settled := by simp [hconnection]
        returned := fun hreturned => by simp [Awaited, hreturned] at hawaited
        nullopt := fun hnull => by simpa [Awaited, hnull, hconnection] using hawaited }
  | connecting connection hresolver hconnect hconnection hinitialized hreleased hawaited
      huntouched =>
      obtain ⟨-, -, hfinishes, hfrees, hpromiseSets, haddrinfos, hfault⟩ := huntouched
      exact {
        noFault := hfault
        atMostOnce := by simp [hfinishes, hfrees, hpromiseSets]
        once := fun _ hquiet => absurd hconnect hquiet.2
        addrinfos := haddrinfos
        kept := by
          intro other hother
          rw [hconnection] at hother
          obtain rfl := Option.some.inj hother
          cases htimedOut : state.timedOut with
          | true => exact .inl (hreleased htimedOut)
          | false => exact .inr ⟨rfl, .inl (hawaited.kept htimedOut)⟩
        settled := fun hquiet => absurd hconnect hquiet.2
        returned := fun hreturned => by simp [Awaited, hreturned] at hawaited
        nullopt := fun hnull => by
          have htimedOut : state.timedOut = true := by simpa [Awaited, hnull] using hawaited
          simpa [hconnection] using ⟨htimedOut, hreleased htimedOut⟩ }
  | connected connection hover hconnection htimedOut hfiber =>
      exact {
        noFault := hover.fault
        atMostOnce := by simp [hover.finishes, hover.frees, hover.promiseSets]
        once := fun _ _ => ⟨hover.finishes, hover.frees, hover.promiseSets⟩
        addrinfos := hover.addrinfos
        kept := fun _ _ => .inr ⟨htimedOut, hfiber⟩
        settled := by
          intro _ hwoken _ _
          rcases hfiber with ⟨again, hwaits⟩ | hreturned
          · exact absurd hwaits (hwoken again)
          · exact .inr hreturned
        returned := fun _ => ⟨htimedOut, hover.promise, by simp [hconnection]⟩
        nullopt := fun hnull => by simp [hnull] at hfiber }
  | failed error hover hreleased hfiber =>
      exact {
        noFault := hover.fault
        atMostOnce := by simp [hover.finishes, hover.frees, hover.promiseSets]
        once := fun _ _ => ⟨hover.finishes, hover.frees, hover.promiseSets⟩
        addrinfos := hover.addrinfos
        kept := fun connection hconnection => .inl (hreleased connection hconnection)
        settled := fun _ _ connection hconnection => .inl (hreleased connection hconnection)
        returned := fun hreturned => by simp [Awaited, hreturned] at hfiber
        nullopt := fun hnull => by
          have htimedOut : state.timedOut = true := by simpa [Awaited, hnull] using hfiber
          exact ⟨htimedOut, hreleased⟩ }

section Returned

@[simp] theorem setPromise_fiber (state : State) (outcome : Except Error Unit) :
    (state.setPromise outcome).fiber = state.fiber := by
  unfold State.setPromise
  split <;> rfl

@[simp] theorem freeAddrinfo_fiber (state : State) (res : Bool) :
    (state.freeAddrinfo res).fiber = state.fiber := by
  cases res <;> rfl

@[simp] theorem finishConnectError_fiber (state : State) (error : Error) :
    (state.finishConnectError error).fiber = state.fiber := by
  unfold State.finishConnectError State.beginConnectFinish
  cases state.finished <;> simp [State.delete, State.closeConnection]

@[simp] theorem finishConnectSuccess_fiber (state : State) :
    state.finishConnectSuccess.fiber = state.fiber := by
  unfold State.finishConnectSuccess State.beginConnectFinish
  cases state.finished with
  | true => simp
  | false =>
      cases state.timedOut <;> cases state.promise <;>
        simp [State.delete, State.closeConnection]

theorem onConnected_fiber (state : State) (status : Int) :
    (state.onConnected status).fiber = state.fiber := by
  unfold State.onConnected
  split
  · simp
  split <;> simp

theorem onResolved_fiber (state : State) (status : Int) (res : Bool) (createRc connectRc : Int) :
    (state.onResolved status res createRc connectRc).fiber = state.fiber := by
  unfold State.onResolved
  split
  · simp
  split
  · simp
  split
  · simp
  unfold State.startConnect
  split
  · simp
  split <;> simp

theorem deref_fiber (state : State) (code : State → State)
    (hcode : ∀ state, (code state).fiber = state.fiber) :
    (state.deref code).fiber = state.fiber := by
  unfold State.deref
  split
  · exact hcode state
  · rfl

/-- What the caller was given is not taken back. -/
theorem step_returned {action : Action} {result : Except Error Bool}
    (hreturned : state.fiber = .returned result) (hstep : machine.step state action = some next) :
    next.fiber = .returned result := by
  replace hstep : state.step action = some next := hstep
  cases action with
  | start timed rc => simp [State.step, hreturned] at hstep
  | resume expired => simp [State.step, State.resume, hreturned] at hstep
  | onResolved status res createRc connectRc =>
      simp only [State.step, Option.ite_none_right_eq_some, Option.some.injEq] at hstep
      rw [← hstep.2, deref_fiber _ _ fun state =>
        onResolved_fiber state status res createRc connectRc]
      exact hreturned
  | onConnected status =>
      simp only [State.step, Option.ite_none_right_eq_some, Option.some.injEq] at hstep
      rw [← hstep.2, deref_fiber _ _ fun state => onConnected_fiber state status]
      exact hreturned
  | connection action =>
      obtain ⟨connection, -, hstep⟩ := Option.bind_eq_some_iff.mp hstep
      unfold State.connectionStep at hstep
      split at hstep
      · cases hstep
      · cases hstep
      · obtain ⟨after, -, rfl⟩ := Option.map_eq_some_iff.mp hstep
        exact hreturned
      · obtain ⟨after, -, rfl⟩ := Option.map_eq_some_iff.mp hstep
        exact hreturned
      · cases hstep
  | endLoop =>
      cases hstep
      exact hreturned
  | walk =>
      simp only [State.step, Option.ite_none_left_eq_some, Option.some.injEq] at hstep
      rw [← hstep.2]
      exact hreturned

end Returned

theorem run_phase {actions : List Action} (hphase : Phase state)
    (hrun : machine.run actions state = some next) : Phase next :=
  Machine.run_invariant (fun _ _ _ hphase _ hstep => step_phase hphase hstep) actions state next
    hphase (Machine.meets_true actions state) hrun

/-- In every order of callbacks, refusals and timeouts, the attempt ends once and leaves no
connection open that the caller does not have; after `nullopt` it never will. -/
theorem endsOnce_of_run (actions : List Action) (state : State)
    (hrun : machine.run actions initial = some state) :
    EndsOnce state ∧ (state.fiber = .returned (.ok false) →
      ∀ more later, machine.run more state = some later →
        ∀ connection, later.connection = some connection → connection.Released) := by
  have hphase : Phase state := run_phase phase_initial hrun
  refine ⟨hphase.endsOnce, fun hnull more later hmore => ?_⟩
  have hlater : later.fiber = .returned (.ok false) :=
    Machine.run_invariant (fun _ _ _ hreturned _ hstep => step_returned hreturned hstep) more state
      later hnull (Machine.meets_true more state) hmore
  exact ((run_phase hphase hmore).endsOnce.nullopt hlater).2

/-- The timeout passes while the socket is being connected, and the connect succeeds after
that. -/
def connectedTooLate : List Action :=
  [.start true 0, .onResolved 0 true 0 0, .resume true, .resume true, .onConnected 0]

theorem endsOnce_connectedTooLate :
    ∃ state, machine.run connectedTooLate initial = some state ∧
      state.fiber = .returned (.ok false) ∧ state.frees = 1 ∧ EndsOnce state :=
  ⟨_, rfl, rfl, rfl, (endsOnce_of_run connectedTooLate _ rfl).1⟩

end Fiberuv.Tcp.Connect
