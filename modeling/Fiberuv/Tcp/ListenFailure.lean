import Fiberuv.Tcp.Listening

/-! # Listening again, and closing, after a failure

A handle that `listen` has registered and then given up is initialised a second time by
the next `listen`, and nobody holds the `Impl` for libuv when the last object goes. These
are the only ways to harm: along a run the server is usable exactly when callers keep
clear of them.
-/

namespace Fiberuv.Tcp.Listening

open Foundation
open EventLoop.Teardown (Registration)
open Server (HandleId ListenResults)

/-- `uv_tcp_init` is applied to a handle that is not registered. -/
def InitsOnce (state : State) : Action → Prop
  | .server (.listen _ object _) =>
      state.appliesInit object = true → state.handle.registered = false
  | _ => True

/-- What a caller has to respect: `listen` is not repeated while the handle is registered,
and the last object goes only when the handle is not registered, or when `keepalive` is
set and `begin_close` will not clear it. -/
def Respected (state : State) : Action → Prop
  | .server (.listen _ object _) =>
      state.appliesInit object = true → state.handle.registered = false
  | .server (.close object) => state.Last object →
      state.handle.registered = false ∨
        state.server.keepalive = true ∧
          (state.server.closing = true ∨ state.server.alive = true)
  | _ => True

/-- What holds at every point where fibers switch. -/
structure Sound (state : State) : Prop where
  server : Server.Sound state.server
  initialized : state.handle.registered = true → state.server.serverInitialized = true
  unclosed : state.server.uvClosing = true →
    state.server.closing = true ∨ state.server.alive = false
  present : state.server.serverInitialized = true → state.server.closing = false →
    state.server.alive = true → state.handle.registered = true
  walked : state.handle = .closing false → state.server.alive = false

theorem sound_initial : Sound initial where
  server := Server.sound_initial
  initialized := by simp [initial, Registration.registered]
  unclosed := by simp [initial]
  present := by simp [initial]
  walked := by simp [initial]

variable {state next : State}

theorem Quiet.sound {server : Server.State} (hquiet : Quiet state.server server)
    (hserver : Server.Sound server) (hsound : Sound state) :
    Sound { server, handle := state.handle } where
  server := hserver
  initialized hregistered := hquiet.initialized.trans (hsound.initialized hregistered)
  unclosed huv := by
    rw [hquiet.closing, hquiet.alive]
    exact hsound.unclosed (hquiet.uvClosing ▸ huv)
  present hinitialized hopen halive := by
    rw [hquiet.initialized] at hinitialized
    rw [hquiet.closing] at hopen
    rw [hquiet.alive] at halive
    exact hsound.present hinitialized hopen halive
  walked hclosing := hquiet.alive.trans (hsound.walked hclosing)

theorem Quiet.safe {server : Server.State} (hquiet : Quiet state.server server)
    (hsafe : state.Safe) : State.Safe { server, handle := state.handle } := by
  intro hregistered
  rcases hsafe hregistered with hkeepalive | ⟨object, hobject⟩
  · exact Or.inl (hquiet.keepalive.trans hkeepalive)
  · exact Or.inr ⟨object, by rw [hquiet.handle]; exact hobject⟩

section Close

variable {object : HandleId}

/-- The state after `TcpServer::close` through an object that holds the `Impl`. -/
def State.closed (state : State) (object : HandleId) : State where
  server := state.server.close object
  handle := state.handleAfter (state.server.close object) (.close object)

theorem close_eq {server : Server.State} (hobject : server.handle object = true) :
    server.close object = { server.beginClose with
      handle := Function.update server.beginClose.handle object false } := by
  simp [Server.State.close, hobject]

theorem closed_null (hobject : state.server.handle object = false) :
    state.closed object = state := by
  have hsame : state.server.close object = state.server := by simp [Server.State.close, hobject]
  simp [State.closed, hsame, State.handleAfter]

/-- A close that has begun before does nothing but drop the object. -/
theorem closed_closing (hobject : state.server.handle object = true)
    (hclosing : state.server.closing = true) :
    (state.closed object).handle = state.handle ∧
      (state.closed object).server.keepalive = state.server.keepalive := by
  have hsame : state.server.beginClose = state.server := by
    simp [Server.State.beginClose, hclosing]
  simp [State.closed, close_eq hobject, hsame, State.handleAfter]

/-- The first close of a registered handle on a live loop calls `uv_close` and leaves
`keepalive` as it is. -/
theorem Sound.closed_alive (hsound : Sound state) (hobject : state.server.handle object = true)
    (hopen : state.server.closing = false) (halive : state.server.alive = true)
    (hinitialized : state.server.serverInitialized = true) :
    (state.closed object).handle = .closing true ∧
      (state.closed object).server.keepalive = state.server.keepalive := by
  have huv : state.server.uvClosing = false := by
    by_contra hclosing
    simpa [hopen, halive] using hsound.unclosed (by simpa using hclosing)
  obtain ⟨-, -, -, -, -, hflags⟩ := beginClose_flags hsound.server
  have hcalled := hflags hopen
  simp only [hinitialized, halive, huv, Bool.not_false, Bool.and_self, if_true] at hcalled
  simp [State.closed, close_eq hobject, State.handleAfter, huv, hcalled]

/-- The first close on a dead loop, or of a handle that was never registered, gives
`keepalive` up. -/
theorem Sound.closed_dead (hsound : Sound state) (hobject : state.server.handle object = true)
    (hopen : state.server.closing = false)
    (hdead : state.server.alive = false ∨ state.server.serverInitialized = false) :
    (state.closed object).handle = state.handle ∧
      (state.closed object).server.keepalive = false := by
  obtain ⟨-, -, -, -, -, hflags⟩ := beginClose_flags hsound.server
  have hkept := hflags hopen
  rw [if_neg (by rcases hdead with hdead | hdead <;> simp [hdead])] at hkept
  simp [State.closed, close_eq hobject, State.handleAfter, hkept]

theorem Sound.closed (hsound : Sound state) (object : HandleId) : Sound (state.closed object) := by
  cases hobject : state.server.handle object with
  | false => rwa [closed_null hobject]
  | true =>
      obtain ⟨hinitialized, halive, -, hclosing, -, -⟩ := beginClose_flags hsound.server
      have hserver : (state.closed object).server.serverInitialized =
            state.server.serverInitialized ∧
          (state.closed object).server.alive = state.server.alive ∧
          (state.closed object).server.closing = true := by
        rw [State.closed, close_eq hobject]
        exact ⟨hinitialized, halive, hclosing⟩
      have hhandle : (state.closed object).handle = state.handle ∨
          (state.closed object).handle = .closing true ∧
            state.server.serverInitialized = true := by
        cases hopen : state.server.closing with
        | true => exact Or.inl (closed_closing hobject hopen).1
        | false =>
            by_cases hlive : state.server.alive = true ∧ state.server.serverInitialized = true
            · exact Or.inr ⟨(hsound.closed_alive hobject hopen hlive.1 hlive.2).1, hlive.2⟩
            · refine Or.inl (hsound.closed_dead hobject hopen ?_).1
              simpa [or_iff_not_imp_left] using hlive
      refine ⟨hsound.server.close object, fun hregistered => ?_, fun _ => Or.inl hserver.2.2,
        fun _ hopen => ?_, fun hwalked => ?_⟩
      · rw [hserver.1]
        rcases hhandle with hsame | ⟨-, hinit⟩
        · exact hsound.initialized (hsame ▸ hregistered)
        · exact hinit
      · simp [hserver.2.2] at hopen
      · rw [hserver.2.1]
        rcases hhandle with hsame | ⟨hcalled, -⟩
        · exact hsound.walked (hsame ▸ hwalked)
        · simp [hcalled] at hwalked

/-- When another object is left it holds the `Impl`. -/
theorem safe_of_notLast (hobject : state.server.handle object = true)
    (hlast : ¬ state.Last object) (hserver : Server.Sound state.server) :
    (state.closed object).Safe := by
  have hother : ∃ other, other ≠ object ∧ state.server.handle other = true := by
    by_contra hnone
    refine hlast ⟨hobject, fun other hne => ?_⟩
    by_contra hholds
    exact hnone ⟨other, hne, by simpa using hholds⟩
  obtain ⟨other, hne, hholds⟩ := hother
  obtain ⟨-, -, hhandle, -⟩ := beginClose_flags hserver
  refine fun _ => Or.inr ⟨other, ?_⟩
  rw [State.closed, close_eq hobject]
  simpa [hhandle, hne] using hholds

/-- After the last object only `keepalive` is left to hold the `Impl`. -/
theorem safe_of_last (hlast : state.Last object) (hserver : Server.Sound state.server) :
    (state.closed object).Safe ↔ ((state.closed object).handle.registered = true →
      (state.closed object).server.keepalive = true) := by
  obtain ⟨-, -, hhandle, -⟩ := beginClose_flags hserver
  have hnobody : ∀ other, (state.closed object).server.handle other = false := by
    intro other
    rw [State.closed, close_eq hlast.1]
    by_cases hself : other = object
    · simp [hself]
    · simpa [hhandle, hself] using hlast.2 other hself
  simp [State.Safe, State.Held, hnobody]

/-- The last close is safe exactly when the handle is not registered, or `keepalive` is
set and this close does not clear it. -/
theorem Sound.safe_closed_iff (hsound : Sound state) (hlast : state.Last object) :
    (state.closed object).Safe ↔ (state.handle.registered = false ∨
      state.server.keepalive = true ∧
        (state.server.closing = true ∨ state.server.alive = true)) := by
  rw [safe_of_last hlast hsound.server]
  have hobject := hlast.1
  cases hclosing : state.server.closing with
  | true =>
      obtain ⟨hhandle, hkeepalive⟩ := closed_closing hobject hclosing
      rw [hhandle, hkeepalive]
      cases state.handle.registered <;> simp
  | false =>
      by_cases hlive : state.server.alive = true ∧ state.server.serverInitialized = true
      · obtain ⟨hhandle, hkeepalive⟩ := hsound.closed_alive hobject hclosing hlive.1 hlive.2
        have hregistered := hsound.present hlive.2 hclosing hlive.1
        have hpending : (Registration.closing true).registered = true := rfl
        rw [hhandle, hkeepalive]
        simp [hregistered, hlive.1, hpending]
      · have hdead : state.server.alive = false ∨ state.server.serverInitialized = false := by
          simpa [or_iff_not_imp_left] using hlive
        obtain ⟨hhandle, hkeepalive⟩ := hsound.closed_dead hobject hclosing hdead
        rw [hhandle, hkeepalive]
        cases hregistered : state.handle.registered with
        | false => simp
        | true =>
            have hinit := hsound.initialized hregistered
            simp only [hinit, Bool.true_eq_false, or_false] at hdead
            simp [hdead]

end Close

section Steps

/-- The state after `listen`. -/
def State.listened (state : State) (call : CallId) (object : HandleId)
    (results : ListenResults) : State where
  server := state.server.listen call object results
  handle := state.handleAfter (state.server.listen call object results)
    (.listen call object results)

/-- Either the handle is newly opened, or `listen` has left it and the flag alone. -/
theorem listened_cases (state : State) (call : CallId) (object : HandleId)
    (results : ListenResults) :
    (state.listened call object results).handle = .opened ∧
        (state.listened call object results).server.serverInitialized = true ∨
      (state.listened call object results).handle = state.handle ∧
        (state.listened call object results).server.serverInitialized =
          state.server.serverInitialized := by
  obtain ⟨-, -, -, -, -, hinit⟩ := listen_flags state.server call object results
  by_cases hpast : state.appliesInit object = true ∧ 0 ≤ results.init
  · refine Or.inl ⟨by simp [State.listened, State.handleAfter, hpast], hinit.trans ?_⟩
    have hobject := hpast.1
    simp only [State.appliesInit] at hobject
    simp [hobject, hpast.2]
  · refine Or.inr ⟨by simp [State.listened, State.handleAfter, hpast], hinit.trans ?_⟩
    have hnot : (state.server.handle object && state.server.alive && !state.server.listening &&
        decide (0 ≤ results.init)) = false := by
      simpa [State.appliesInit, Bool.and_eq_false_imp] using hpast
    rw [hnot, Bool.or_false]

theorem Sound.listened (hsound : Sound state) {call : CallId}
    (hidle : state.server.call call = .idle) (object : HandleId) (results : ListenResults) :
    Sound (state.listened call object results) := by
  obtain ⟨hclosing, halive, huv, -⟩ := listen_flags state.server call object results
  have hunclosed : (state.listened call object results).server.uvClosing = true →
      (state.listened call object results).server.closing = true ∨
        (state.listened call object results).server.alive = false := by
    intro hclosed
    rw [State.listened, hclosing, halive]
    exact hsound.unclosed (huv ▸ hclosed)
  have hserver := hsound.server.listen hidle object results
  obtain ⟨hopened, hinit⟩ | ⟨hsame, hinit⟩ := listened_cases state call object results
  · refine ⟨hserver, fun _ => hinit, hunclosed, fun _ _ _ => ?_, fun hwalked => ?_⟩
    · rw [hopened]
      rfl
    · simp [hopened] at hwalked
  · refine ⟨hserver, fun hregistered => ?_, hunclosed, fun hinitialized hopen hlive => ?_,
      fun hwalked => ?_⟩
    · exact hinit.trans (hsound.initialized (hsame ▸ hregistered))
    · rw [hsame]
      exact hsound.present (hinit ▸ hinitialized) (hclosing ▸ hopen) (halive ▸ hlive)
    · exact halive.trans (hsound.walked (hsame ▸ hwalked))

/-- A handle that `listen` registers is held by the object it is called through. -/
theorem safe_listened (hsafe : state.Safe) (call : CallId) (object : HandleId)
    (results : ListenResults) : (state.listened call object results).Safe := by
  obtain ⟨-, -, -, hhandle, hkeepalive, -⟩ := listen_flags state.server call object results
  by_cases hpast : state.appliesInit object = true ∧ 0 ≤ results.init
  · have hobject : state.server.handle object = true := by
      have hpast := hpast.1
      simp only [State.appliesInit, Bool.and_eq_true] at hpast
      exact hpast.1.1
    exact fun _ => Or.inr ⟨object, by rw [State.listened, hhandle]; exact hobject⟩
  · have hsame : (state.listened call object results).handle = state.handle := by
      simp [State.listened, State.handleAfter, hpast]
    intro hregistered
    rcases hsafe (hsame ▸ hregistered) with hkept | ⟨other, hother⟩
    · exact Or.inl (hkeepalive hkept)
    · exact Or.inr ⟨other, by rw [State.listened, hhandle]; exact hother⟩

theorem sound_onServerClosed (hsound : Sound state)
    (hcallback : state.server.closeCallback = true) :
    Sound { server := state.server.onServerClosed, handle := .finished } := by
  have hclosing := hsound.server.callback hcallback
  have heq := onServerClosed_flags hsound.server hcallback
  refine ⟨hsound.server.onServerClosed hcallback, by simp [Registration.registered], ?_, ?_,
    by simp⟩
  · rw [heq]
    exact hsound.unclosed
  · rw [heq]
    simp [hclosing]

theorem sound_walk (hsound : Sound state) (hdead : state.server.alive = false) :
    Sound { server := state.server.walk, handle := state.handleAfter state.server.walk .walk } := by
  have hregistered : (state.handleAfter state.server.walk .walk).registered =
      state.handle.registered := by
    cases hhandle : state.handle <;> simp [State.handleAfter, hhandle, Registration.registered]
  refine ⟨hsound.server.walk, fun hafter => hsound.initialized (hregistered ▸ hafter),
    fun _ => Or.inr hdead, fun _ _ halive => ?_, fun _ => hdead⟩
  simp [Server.State.walk, hdead] at halive

/-- What one step can do to the handle and to those who hold the `Impl`. -/
inductive Moves (state : State) (action : Action) (next : State) : Prop where
  /-- A step of the server that leaves them alone and asks nothing of its caller. -/
  | passes {server : Server.State} (hquiet : Quiet state.server server)
      (hrespected : Respected state action) (hinits : InitsOnce state action)
      (hnext : next = { server, handle := state.handle })
  | listens {call : CallId} {object : HandleId} {results : ListenResults}
      (haction : action = .server (.listen call object results))
      (hidle : state.server.call call = .idle) (hnext : next = state.listened call object results)
  | closes {object : HandleId} (haction : action = .server (.close object))
      (hnext : next = state.closed object)
  | copies {source target : HandleId} (haction : action = .server (.copy source target))
      (htarget : ¬ state.server.handle target = true)
      (hnext : next = { state with server := state.server.copy source target })
  | callsBack (haction : action = .server .onServerClosed)
      (hcallback : state.server.closeCallback = true)
      (hnext : next = { server := state.server.onServerClosed, handle := .finished })
  | endsLoop (haction : action = .server .endLoop)
      (hnext : next = { state with server := state.server.endLoop })
  | walks (haction : action = .server .walk) (hdead : state.server.alive = false)
      (hnext : next = { server := state.server.walk,
                        handle := state.handleAfter state.server.walk .walk })
  | finishes (haction : action = .finish) (hhandle : state.handle = .closing false)
      (hnext : next = { state with handle := .finished })

theorem step_moves {action : Action} (hserver : Server.Sound state.server)
    (hstep : machine.step state action = some next) : Moves state action next := by
  cases action with
  | finish =>
      simp only [machine, State.step] at hstep
      split at hstep
      next hhandle => exact .finishes rfl hhandle (Option.some.inj hstep).symm
      next => cases hstep
  | server action =>
      simp only [machine, State.step, Option.map_eq_some_iff] at hstep
      obtain ⟨server, hstep, rfl⟩ := hstep
      simp only [Server.State.step, hserver.noFault, Bool.false_eq_true, if_false] at hstep
      cases action with
      | listen call object results =>
          dsimp only at hstep
          split at hstep
          next hidle =>
            cases hstep
            exact .listens rfl hidle rfl
          next => cases hstep
      | close object =>
          cases hstep
          exact .closes rfl rfl
      | accept call object =>
          dsimp only at hstep
          split at hstep
          next =>
            cases hstep
            exact .passes (acceptOrWait_quiet state.server call false object) trivial trivial rfl
          next => cases hstep
      | acceptFor call object =>
          dsimp only at hstep
          split at hstep
          next =>
            cases hstep
            exact .passes (acceptOrWait_quiet state.server call true object) trivial trivial rfl
          next => cases hstep
      | resume call expired => exact .passes (resume_quiet hstep) trivial trivial rfl
      | onConnection status createRc acceptRc =>
          simp only [Option.ite_none_right_eq_some, Option.some.injEq] at hstep
          obtain ⟨-, rfl⟩ := hstep
          have hquiet := onConnection_quiet state.server status createRc acceptRc
          exact .passes hquiet trivial trivial rfl
      | connection id action => exact .passes (connectionStep_quiet hstep) trivial trivial rfl
      | copy source target =>
          simp only [Option.ite_none_left_eq_some, Option.some.injEq] at hstep
          obtain ⟨htarget, rfl⟩ := hstep
          exact .copies rfl htarget rfl
      | onServerClosed =>
          simp only [Option.ite_none_right_eq_some, Option.some.injEq] at hstep
          obtain ⟨hcallback, rfl⟩ := hstep
          exact .callsBack rfl hcallback rfl
      | endLoop =>
          cases hstep
          exact .endsLoop rfl rfl
      | walk =>
          simp only [Option.ite_none_left_eq_some, Option.some.injEq] at hstep
          obtain ⟨hdead, rfl⟩ := hstep
          exact .walks rfl (by simpa using hdead) rfl

theorem step_serverSound {action : Action} (hserver : Server.Sound state.server)
    (hstep : machine.step state action = some next) : Server.Sound next.server := by
  cases action with
  | finish =>
      simp only [machine, State.step] at hstep
      split at hstep
      next =>
        cases hstep
        exact hserver
      next => cases hstep
  | server action =>
      simp only [machine, State.step, Option.map_eq_some_iff] at hstep
      obtain ⟨server, hstep, rfl⟩ := hstep
      exact Server.step_sound hserver hstep

theorem step_sound {action : Action} (hsound : Sound state)
    (hstep : machine.step state action = some next) : Sound next := by
  have hserver := step_serverSound hsound.server hstep
  cases step_moves hsound.server hstep with
  | passes hquiet _ _ hnext =>
      subst hnext
      exact hquiet.sound hserver hsound
  | listens _ hidle hnext =>
      subst hnext
      exact hsound.listened hidle _ _
  | closes _ hnext =>
      subst hnext
      exact hsound.closed _
  | copies _ _ hnext =>
      subst hnext
      exact ⟨hserver, hsound.initialized, hsound.unclosed, hsound.present, hsound.walked⟩
  | callsBack _ hcallback hnext =>
      subst hnext
      exact sound_onServerClosed hsound hcallback
  | endsLoop _ hnext =>
      subst hnext
      refine ⟨hserver, hsound.initialized, fun _ => Or.inr rfl, fun _ _ halive => ?_, fun _ => rfl⟩
      simp [Server.State.endLoop] at halive
  | walks _ hdead hnext =>
      subst hnext
      exact sound_walk hsound hdead
  | finishes _ hhandle hnext =>
      subst hnext
      refine ⟨hserver, by simp [Registration.registered], hsound.unclosed, ?_, by simp⟩
      simp [hsound.walked hhandle]

/-- Closing through an object is safe exactly when the caller respects the others. -/
theorem Sound.safe_closed_iff_respected (hsound : Sound state) (hsafe : state.Safe)
    (object : HandleId) :
    (state.closed object).Safe ↔ Respected state (.server (.close object)) := by
  by_cases hlast : state.Last object
  · rw [hsound.safe_closed_iff hlast]
    exact ⟨fun hcase _ => hcase, fun hcase => hcase hlast⟩
  · have hnext : (state.closed object).Safe := by
      cases hobject : state.server.handle object with
      | false => rwa [closed_null hobject]
      | true => exact safe_of_notLast hobject hlast hsound.server
    exact iff_of_true hnext fun habsurd => absurd habsurd hlast

theorem registered_of_walk
    (hregistered : (state.handleAfter state.server.walk .walk).registered = true) :
    state.handle.registered = true := by
  cases hhandle : state.handle <;>
    simp [State.handleAfter, hhandle, Registration.registered] at hregistered ⊢

/-- From a safe state a step is respected exactly when it initialises no registered handle and
leaves a safe state. -/
theorem respected_iff {action : Action} (hsound : Sound state)
    (hstep : machine.step state action = some next) (hsafe : state.Safe) :
    Respected state action ↔ InitsOnce state action ∧ next.Safe := by
  cases step_moves hsound.server hstep with
  | passes hquiet hrespected hinits hnext =>
      subst hnext
      exact iff_of_true hrespected ⟨hinits, hquiet.safe hsafe⟩
  | @listens call object results haction _ hnext =>
      subst haction hnext
      have hsafeNext := safe_listened hsafe call object results
      exact ⟨fun hrespected => ⟨hrespected, hsafeNext⟩, fun hboth => hboth.1⟩
  | @closes object haction hnext =>
      -- The only other step that a user can get wrong; it initialises nothing.
      subst haction hnext
      have hiff := hsound.safe_closed_iff_respected hsafe object
      exact ⟨fun hrespected => ⟨trivial, hiff.mpr hrespected⟩, fun hboth => hiff.mp hboth.2⟩
  | @copies source target haction htarget hnext =>
      subst haction hnext
      refine iff_of_true trivial ⟨trivial, fun hregistered => ?_⟩
      rcases hsafe hregistered with hkeepalive | ⟨object, hobject⟩
      · exact Or.inl hkeepalive
      · have hne : object ≠ target := fun heq => htarget (heq ▸ hobject)
        exact Or.inr ⟨object, by simpa [Server.State.copy, hne] using hobject⟩
  | callsBack haction _ hnext =>
      subst haction hnext
      refine iff_of_true trivial ⟨trivial, fun hregistered => ?_⟩
      simp [Registration.registered] at hregistered
  | endsLoop haction hnext =>
      subst haction hnext
      exact iff_of_true trivial ⟨trivial, hsafe⟩
  | walks haction _ hnext =>
      subst haction hnext
      exact iff_of_true trivial
        ⟨trivial, fun hregistered => hsafe (registered_of_walk hregistered)⟩
  | finishes haction _ hnext =>
      subst haction hnext
      refine iff_of_true trivial ⟨trivial, fun hregistered => ?_⟩
      simp [Registration.registered] at hregistered

/-- No call of `listen` fails once `uv_tcp_init` has registered the handle. -/
def Completes (_ : State) : Action → Prop
  | .server (.listen _ _ results) => 0 ≤ results.init →
      results.addr = 0 ∧ 0 ≤ results.bind ∧ 0 ≤ results.listen
  | _ => True

theorem Sound.registered_of_closed (hsound : Sound state) {object : HandleId}
    (hregistered : (state.closed object).handle.registered = true) :
    state.handle.registered = true := by
  cases hobject : state.server.handle object with
  | false => rwa [closed_null hobject] at hregistered
  | true =>
      cases hopen : state.server.closing with
      | true => rwa [(closed_closing hobject hopen).1] at hregistered
      | false =>
          by_cases hlive : state.server.alive = true ∧ state.server.serverInitialized = true
          · exact hsound.present hlive.2 hopen hlive.1
          · have hdead : state.server.alive = false ∨ state.server.serverInitialized = false := by
              simpa [or_iff_not_imp_left] using hlive
            rwa [(hsound.closed_dead hobject hopen hdead).1] at hregistered

/-- As long as no `listen` fails so, a handle that is registered listens. -/
theorem step_listening {action : Action} (hsound : Sound state)
    (hlistening : state.handle.registered = true → state.server.listening = true)
    (hcompletes : Completes state action) (hstep : machine.step state action = some next) :
    next.handle.registered = true → next.server.listening = true := by
  intro hregistered
  cases step_moves hsound.server hstep with
  | passes hquiet _ _ hnext =>
      subst hnext
      exact hquiet.listening.trans (hlistening hregistered)
  | @listens call object results haction _ hnext =>
      subst haction hnext
      obtain ⟨hkeeps, hsets⟩ := listen_listening state.server call object results
      by_cases hpast : state.appliesInit object = true ∧ 0 ≤ results.init
      · have happlies := hpast.1
        simp only [State.appliesInit, Bool.and_eq_true] at happlies
        obtain ⟨haddr, hbind, hlisten⟩ := hcompletes hpast.2
        exact hsets happlies.1.1 happlies.1.2 hpast.2 haddr hbind hlisten
      · simp only [State.listened, State.handleAfter, if_neg hpast] at hregistered
        exact hkeeps (hlistening hregistered)
  | @closes object _ hnext =>
      subst hnext
      have hopened := hlistening (hsound.registered_of_closed hregistered)
      simp only [State.closed, Server.State.close]
      split
      · exact hopened
      · exact (beginClose_listening hsound.server).trans hopened
  | copies _ _ hnext | endsLoop _ hnext =>
      subst hnext
      exact hlistening hregistered
  | walks _ _ hnext =>
      subst hnext
      exact hlistening (registered_of_walk hregistered)
  | callsBack _ _ hnext | finishes _ _ hnext =>
      simp [hnext, Registration.registered] at hregistered

end Steps

/-- Every `uv_tcp_init` of the run finds the handle unregistered, and in every state of it
somebody holds the `Impl` of a registered handle. -/
structure Usable (labels : List Action) : Prop where
  inits : ∀ before call object results rest middle,
    labels = before ++ .server (.listen call object results) :: rest →
    machine.run before initial = some middle → middle.appliesInit object = true →
      middle.handle.registered = false
  held : ∀ before rest middle, labels = before ++ rest →
    machine.run before initial = some middle → middle.handle.registered = true → middle.Held

theorem sound_of_run {labels : List Action} (hrun : machine.run labels initial = some state) :
    Sound state :=
  Machine.reachable_invariant (fun _ _ _ => step_sound) sound_initial ⟨labels, hrun⟩

/-- Where no `listen` fails after `uv_tcp_init`, the handle is never initialised twice: the
callers meet their part about `listen`. -/
theorem initsOnce_of_completes {labels : List Action}
    (hcompletes : machine.Meets Completes labels initial) :
    machine.Meets InitsOnce labels initial := by
  refine Machine.meets_iff_forall.mpr fun before label rest middle hsplit hbefore => ?_
  have hkeep : ∀ state action next,
      Sound state ∧ (state.handle.registered = true → state.server.listening = true) →
      Completes state action → machine.step state action = some next →
      Sound next ∧ (next.handle.registered = true → next.server.listening = true) := by
    rintro state action next ⟨hsound, hlistening⟩ hallowed hstep
    exact ⟨step_sound hsound hstep, step_listening hsound hlistening hallowed hstep⟩
  have hstart : initial.handle.registered = true → initial.server.listening = true := by
    simp [initial, Registration.registered]
  have hlistening := (Machine.run_invariant hkeep before initial middle ⟨sound_initial, hstart⟩
    (Machine.meets_before (hsplit ▸ hcompletes)) hbefore).2
  unfold InitsOnce
  split
  next call object results =>
    intro happlies
    by_contra hregistered
    simp [State.appliesInit, hlistening (by simpa using hregistered)] at happlies
  · trivial

theorem safe_of_meets {labels : List Action} (hmeets : machine.Meets Respected labels initial)
    (hrun : machine.run labels initial = some state) : state.Safe := by
  have hkeep : ∀ before action after, Sound before ∧ before.Safe → Respected before action →
      machine.step before action = some after → Sound after ∧ after.Safe := by
    intro before action after hbefore hrespected hstep
    have hiff := respected_iff hbefore.1 hstep hbefore.2
    exact ⟨step_sound hbefore.1 hstep, (hiff.mp hrespected).2⟩
  have hstart : Sound initial ∧ initial.Safe :=
    ⟨sound_initial, fun hregistered => by simp [initial, Registration.registered] at hregistered⟩
  exact (Machine.run_invariant hkeep labels initial state hstart hmeets hrun).2

/-- A server is usable along a run exactly when every step of it is respected: `listen`
gets to `uv_tcp_init` only while the handle is not registered, and the last object is
closed or destroyed only while the handle is not registered, or while `keepalive` is set
and the loop is alive or a close has begun before. -/
theorem usable_iff_respected (labels : List Action) (final : State)
    (hrun : machine.run labels initial = some final) :
    Usable labels ↔ machine.Meets Respected labels initial := by
  constructor
  · intro husable
    refine Machine.meets_iff_forall.mpr fun before label rest middle hsplit hbefore => ?_
    have hmiddle : (machine.step middle label).bind (machine.run rest) = some final := by
      rw [hsplit, Machine.run_append, hbefore] at hrun
      exact hrun
    obtain ⟨next, hstep, -⟩ := Option.bind_eq_some_iff.mp hmiddle
    have hsafe : middle.Safe := husable.held before (label :: rest) middle hsplit hbefore
    have hreached : machine.run (before ++ [label]) initial = some next := by
      simp [Machine.run_append, hbefore, hstep]
    have hnext : next.Safe := husable.held (before ++ [label]) rest next (by simp [hsplit]) hreached
    refine (respected_iff (sound_of_run hbefore) hstep hsafe).mpr ⟨?_, hnext⟩
    unfold InitsOnce
    split
    next call object results =>
      exact husable.inits before call object results rest middle hsplit hbefore
    · trivial
  · intro hmeets
    have hall := Machine.meets_iff_forall.mp hmeets
    refine ⟨fun before call object results rest middle hsplit hbefore => ?_,
      fun before rest middle hsplit hbefore => ?_⟩
    · exact hall before _ rest middle hsplit hbefore
    · rw [hsplit] at hmeets
      exact safe_of_meets (Machine.meets_before hmeets) hbefore

/-- A server that listens, is closed, and whose handle libuv closes. -/
def servedOnce : List Action :=
  [.server (.listen 0 0 ⟨0, 0, 0, 0⟩), .server (.close 0), .server .onServerClosed]

theorem usable_servedOnce :
    ∃ final, machine.run servedOnce initial = some final ∧ Usable servedOnce := by
  refine ⟨_, rfl, (usable_iff_respected servedOnce _ rfl).mpr ?_⟩
  refine Machine.meets_cons (fun _ => rfl) rfl ?_
  refine Machine.meets_cons (fun _ => Or.inr ⟨rfl, Or.inr rfl⟩) rfl ?_
  exact Machine.meets_cons trivial rfl trivial

/-- `uv_listen` fails because the address is in use, and `listen` is called again. -/
def retriedListen : List Action :=
  [.server (.listen 0 0 ⟨0, 0, 0, -98⟩), .server (.listen 1 0 ⟨0, 0, 0, 0⟩)]

/-- `uv_listen` fails and the only object is destroyed. -/
def abandonedListen : List Action :=
  [.server (.listen 0 0 ⟨0, 0, 0, -98⟩), .server (.close 0)]

/-- After a failed `listen` a second one initialises the registered handle again, and the
destructor frees the `Impl` while libuv still closes the handle in it. -/
theorem failed_listen_unusable :
    (∃ final, machine.run retriedListen initial = some final) ∧ ¬ Usable retriedListen ∧
      (∃ final, machine.run abandonedListen initial = some final) ∧
      ¬ Usable abandonedListen := by
  refine ⟨⟨_, rfl⟩, fun husable => ?_, ⟨_, rfl⟩, fun husable => ?_⟩
  · have hfree := husable.inits [.server (.listen 0 0 ⟨0, 0, 0, -98⟩)] 1 0 ⟨0, 0, 0, 0⟩ [] _ rfl
      rfl rfl
    cases hfree
  · rcases husable.held abandonedListen [] _ (List.append_nil _).symm rfl rfl with
      hkeepalive | ⟨object, hobject⟩
    · cases hkeepalive
    · have hnobody : Function.update (fun id : HandleId => decide (id = 0)) 0 false object = true :=
        hobject
      by_cases hself : object = 0
      · simp [hself] at hnobody
      · simp [hself] at hnobody

end Fiberuv.Tcp.Listening
