import Fiberuv.Foundation.Custody
import Fiberuv.MessageQueue.Ledger

/-! # Every fiber waiter has one owner

The promise that `recv` or `recv_for` registers goes from `fiber_waiters_` to the one sender
or the one `close` call that takes it out and sets it after the lock, unless its own
`recv_for` withdraws it first. At every point it is at one of these places, so it is set
once: `set_value` finds no satisfied promise, in `send` and in the `noexcept` `close`.

The events of a run are the registrations, the calls of `set_value` that take effect, and
the withdrawals, in order.
-/

namespace Fiberuv.MessageQueue

open Foundation

variable {α : Type}

/-- What happens to the promise of a receive call. -/
inductive Event where
  | registered (waiter : CallId)
  | set (waiter : CallId)
  | withdrawn (waiter : CallId)
  deriving DecidableEq

/-- What a step does to promises, read off the code it runs. -/
def State.emits (state : State α) : Action α → List Event
  | .recv call | .recvFor call =>
      if state.queue.isEmpty && !state.closed then [.registered call] else []
  | .sendSetValue call =>
      match state.calls call with
      | .handingOff _ waiter => if (state.promise waiter).isNone then [.set waiter] else []
      | _ => []
  | .closeSetValue call =>
      match state.calls call with
      | .closing true (waiter :: _) => if (state.promise waiter).isNone then [.set waiter] else []
      | _ => []
  | .recvForLookup call => if call ∈ state.fiberWaiters then [.withdrawn call] else []
  | _ => []

/-- The waiter a sender has taken and is about to set. -/
def Call.handing : Call α → Option CallId
  | .handingOff _ waiter => some waiter
  | _ => none

/-- The waiters a `close` call has in its local list. -/
def Call.listing : Call α → List CallId
  | .closing _ waiters => waiters
  | _ => []

/-- Where a registered promise can be. -/
inductive Place where
  | waiting
  | held (sender : CallId)
  | listed (closer : CallId)
  | set
  | withdrawn

/-- The promise of this waiter is at this place, after these events. -/
def State.IsAt (state : State α) (events : List Event) (waiter : CallId) : Place → Prop
  | .waiting => waiter ∈ state.fiberWaiters
  | .held sender => (state.calls sender).handing = some waiter
  | .listed closer => waiter ∈ (state.calls closer).listing
  | .set => state.promise waiter ≠ none ∧ events.count (.set waiter) = 1
  | .withdrawn => .withdrawn waiter ∈ events

/-- A step that leaves every promise where it is. -/
structure Quiet (state next : State α) : Prop where
  fiberWaiters : next.fiberWaiters = state.fiberWaiters
  promise : next.promise = state.promise
  terminated : next.terminated = state.terminated
  handing : ∀ call, (next.calls call).handing = (state.calls call).handing
  listing : ∀ call, (next.calls call).listing = (state.calls call).listing
  awaits : ∀ call, (next.calls call).awaits = true → (state.calls call).awaits = true
  outside : ∀ call, (next.calls call).outside = true → (state.calls call).outside = true
  threw : ∀ call message, next.calls call = .sendThrew message →
    state.calls call = .sendThrew message

/-- What a step does to the promises, with its events. -/
inductive Handling (state : State α) : State α → List Event → Prop where
  | quiet {next} (hquiet : Quiet state next) : Handling state next []
  | register {call} (waiting : Call α) (hidle : state.calls call = .idle)
      (hwaiting : waiting = .recvWaiting ∨ waiting = .recvForWaiting) :
      Handling state
        ({ state with fiberWaiters := state.fiberWaiters ++ [call] }.become call waiting)
        [.registered call]
  | withdraw {call} (hexpired : state.calls call = .recvForExpired)
      (hmem : call ∈ state.fiberWaiters) :
      Handling state
        ({ state with fiberWaiters := state.fiberWaiters.erase call }.become call (.received none))
        [.withdrawn call]
  | bind {call message waiter rest} (hidle : state.calls call = .idle)
      (hwaiters : state.fiberWaiters = waiter :: rest) :
      Handling state
        ((state.bindWaiter waiter rest message).become call (.handingOff message waiter)) []
  | fulfil {call message waiter} (hhand : state.calls call = .handingOff message waiter)
      (hunset : state.promise waiter = none) :
      Handling state ((state.fulfil waiter (some message)).become call (.sent message true))
        [.set waiter]
  | satisfied {call message waiter} (hhand : state.calls call = .handingOff message waiter)
      (hset : state.promise waiter ≠ none) :
      Handling state (state.become call (.sendThrew message)) []
  | beginClose {call} (hidle : state.calls call = .idle) (hopen : state.closed = false) :
      Handling state
        ({ state with closed := true, fiberWaiters := [] }.become call
          (.closing false state.fiberWaiters)) []
  | release {call waiter rest} (hclosing : state.calls call = .closing true (waiter :: rest))
      (hunset : state.promise waiter = none) :
      Handling state ((state.fulfil waiter none).become call (.closing true rest)) [.set waiter]
  | terminate {call waiter rest} (hclosing : state.calls call = .closing true (waiter :: rest))
      (hset : state.promise waiter ≠ none) : Handling state { state with terminated := true } []

section Steps

variable {state next : State α} {action : Action α}

/-- A call moves between positions that have no promise to set. -/
theorem quiet_become {base : State α} {call : CallId} {position : Call α}
    (hcalls : base.calls = state.calls) (hwaiters : base.fiberWaiters = state.fiberWaiters)
    (hpromise : base.promise = state.promise) (hterminated : base.terminated = state.terminated)
    (hhanding : position.handing = (state.calls call).handing)
    (hlisting : position.listing = (state.calls call).listing)
    (hawaits : position.awaits = true → (state.calls call).awaits = true)
    (houtside : position.outside = true → (state.calls call).outside = true)
    (hthrew : ∀ message, position ≠ .sendThrew message) :
    Quiet state (base.become call position) := by
  refine ⟨hwaiters, hpromise, hterminated, ?_, ?_, ?_, ?_, ?_⟩ <;> intro other <;>
    obtain rfl | hne := eq_or_ne other call
  · rw [State.become_calls_self, hhanding]
  · rw [State.become_calls_of_ne hne, hcalls]
  · rw [State.become_calls_self, hlisting]
  · rw [State.become_calls_of_ne hne, hcalls]
  · rw [State.become_calls_self]
    exact hawaits
  · rw [State.become_calls_of_ne hne, hcalls]
    exact id
  · rw [State.become_calls_self]
    exact houtside
  · rw [State.become_calls_of_ne hne, hcalls]
    exact id
  · rw [State.become_calls_self]
    exact fun message hmessage => absurd hmessage (hthrew message)
  · rw [State.become_calls_of_ne hne, hcalls]
    exact fun _ => id

/-- The position of a call that has no promise to set and did not fail. -/
def Call.plain : Call α → Bool
  | .handingOff _ _ | .sendThrew _ | .closing _ _ => false
  | _ => true

theorem Call.handing_of_plain {position : Call α} (hplain : position.plain = true) :
    position.handing = none := by
  cases position <;> first | rfl | cases hplain

theorem Call.listing_of_plain {position : Call α} (hplain : position.plain = true) :
    position.listing = [] := by
  cases position <;> first | rfl | cases hplain

theorem quiet_plain {base : State α} {call : CallId} {position : Call α}
    (hcalls : base.calls = state.calls) (hwaiters : base.fiberWaiters = state.fiberWaiters)
    (hpromise : base.promise = state.promise) (hterminated : base.terminated = state.terminated)
    (hbefore : (state.calls call).plain = true) (hplain : position.plain = true)
    (hawaits : position.awaits = true → (state.calls call).awaits = true)
    (houtside : position.outside = true → (state.calls call).outside = true) :
    Quiet state (base.become call position) := by
  refine quiet_become hcalls hwaiters hpromise hterminated ?_ ?_ hawaits houtside ?_
  · rw [Call.handing_of_plain hplain, Call.handing_of_plain hbefore]
  · rw [Call.listing_of_plain hplain, Call.listing_of_plain hbefore]
  · rintro message rfl
    cases hplain

theorem takeOrRegister_handling {call : CallId} (waiting : Call α)
    (hidle : state.calls call = .idle)
    (hwaiting : waiting = .recvWaiting ∨ waiting = .recvForWaiting) :
    Handling state (state.takeOrRegister call waiting)
      (if state.queue.isEmpty && !state.closed then [.registered call] else []) := by
  unfold State.takeOrRegister
  split
  next front rest hqueue =>
    have hnothing : ¬ (state.queue.isEmpty && !state.closed) = true := by simp [hqueue]
    rw [if_neg hnothing]
    exact .quiet (quiet_plain rfl rfl rfl rfl (by rw [hidle]; rfl) rfl nofun nofun)
  next hqueue =>
    split
    next hclosed =>
      have hnothing : ¬ (state.queue.isEmpty && !state.closed) = true := by simp [hclosed]
      rw [if_neg hnothing]
      exact .quiet (quiet_plain rfl rfl rfl rfl (by rw [hidle]; rfl) rfl nofun nofun)
    next hopen =>
      have hregisters : (state.queue.isEmpty && !state.closed) = true := by simp [hqueue, hopen]
      rw [if_pos hregisters]
      exact .register waiting hidle hwaiting

theorem Call.plain_of_outside {position : Call α} (houtside : position.outside = true) :
    position.plain = true := by
  cases position <;> first | rfl | cases houtside

/-- A receive call that enters its critical section ends there without a promise, or parks. -/
theorem Enters.quiet {base after : State α} {call : CallId} {position : Call α}
    (henter : Enters state call base) (hcalls : after.calls = base.calls)
    (hwaiters : after.fiberWaiters = base.fiberWaiters) (hpromise : after.promise = base.promise)
    (hterminated : after.terminated = base.terminated) (hplain : position.plain = true)
    (hawaits : position.awaits = false) : Quiet state (after.become call position) := by
  have houtside := henter.outside
  have hbefore := Call.plain_of_outside houtside
  have hnot : position.awaits = true → (state.calls call).awaits = true := by simp [hawaits]
  cases henter <;>
    exact quiet_plain hcalls hwaiters hpromise hterminated hbefore hplain hnot fun _ => houtside

theorem takeOrPark_quiet {base : State α} {call : CallId} (timed : Bool)
    (henter : Enters state call base) : Quiet state (base.takeOrPark call timed) := by
  unfold State.takeOrPark
  split
  next => exact henter.quiet rfl rfl rfl rfl rfl rfl
  next =>
    split
    next => exact henter.quiet rfl rfl rfl rfl rfl rfl
    next => exact henter.quiet rfl rfl rfl rfl rfl rfl

theorem takeOrNull_quiet {base : State α} {call : CallId} (henter : Enters state call base) :
    Quiet state (base.takeOrNull call) := by
  unfold State.takeOrNull
  split
  next => exact henter.quiet rfl rfl rfl rfl rfl rfl
  next => exact henter.quiet rfl rfl rfl rfl rfl rfl

theorem sendPayload_handling {call : CallId} {value : α} {woken : Option CallId}
    (hidle : state.calls call = .idle)
    (hsend : state.sendPayload call value woken = some next) : Handling state next [] := by
  have henter : Enters state call state := .start hidle
  unfold State.sendPayload at hsend
  split at hsend
  next =>
    cases hsend
    exact .quiet (henter.quiet rfl rfl rfl rfl rfl rfl)
  next =>
    split at hsend
    next waiter rest hwaiters =>
      cases hsend
      exact .bind hidle hwaiters
    next =>
      obtain ⟨notified, hnotify, rfl⟩ := Option.map_eq_some_iff.mp hsend
      obtain ⟨parked, rfl⟩ := State.notifyOne_parked hnotify
      exact .quiet (henter.quiet rfl rfl rfl rfl rfl rfl)

theorem sendSetValue_handling {call waiter : CallId} {message : Message α}
    (hhand : state.calls call = .handingOff message waiter) :
    Handling state (state.sendSetValue call message waiter)
      (state.emits (.sendSetValue call)) := by
  simp only [State.emits, hhand, State.sendSetValue]
  split
  next hunset =>
    rw [hunset]
    exact .fulfil hhand hunset
  next result hset =>
    rw [hset]
    exact .satisfied hhand (by simp [hset])

theorem closeSetValue_handling {call : CallId} {waiters : List CallId}
    (hclosing : state.calls call = .closing true waiters) :
    Handling state (state.closeSetValue call waiters) (state.emits (.closeSetValue call)) := by
  simp only [State.emits, hclosing]
  cases waiters with
  | nil =>
      refine .quiet (quiet_become rfl rfl rfl rfl ?_ ?_ nofun nofun nofun) <;> rw [hclosing] <;> rfl
  | cons waiter rest =>
      simp only [State.closeSetValue]
      split
      next hunset =>
        rw [hunset]
        exact .release hclosing hunset
      next result hset =>
        rw [hset]
        exact .terminate hclosing (by simp [hset])

theorem recvForLookup_handling {call : CallId} (hexpired : state.calls call = .recvForExpired) :
    Handling state (state.recvForLookup call)
      (if call ∈ state.fiberWaiters then [.withdrawn call] else []) := by
  unfold State.recvForLookup
  split
  next hmem => exact .withdraw hexpired hmem
  next =>
    refine .quiet (quiet_plain rfl rfl rfl rfl ?_ rfl (fun _ => ?_) nofun) <;> rw [hexpired] <;> rfl

theorem close_handling {call : CallId} (hidle : state.calls call = .idle) :
    Handling state (state.close call) [] := by
  unfold State.close
  split
  next => exact .quiet ((Enters.start hidle).quiet rfl rfl rfl rfl rfl rfl)
  next hopen => exact .beginClose hidle (by simpa using hopen)

theorem notifyAll_quiet {call : CallId} {waiters : List CallId}
    (hclosing : state.calls call = .closing false waiters) :
    Quiet state ({ state with parked := [] }.become call (.closing true waiters)) := by
  refine quiet_become rfl rfl rfl rfl ?_ ?_ nofun nofun nofun <;> rw [hclosing] <;> rfl

/-- A receive call that waits for its promise goes on waiting or returns. -/
theorem quiet_of_awaits {call : CallId} {position : Call α}
    (hawaits : (state.calls call).awaits = true) (hplain : position.plain = true)
    (houtside : position.outside = false) : Quiet state (state.become call position) := by
  refine quiet_plain rfl rfl rfl rfl ?_ hplain (fun _ => hawaits) (by simp [houtside])
  cases hcall : state.calls call <;> first | rfl | simp [hcall, Call.awaits] at hawaits

theorem step_handling (hstep : state.step action = some next) :
    Handling state next (state.emits action) := by
  unfold State.step at hstep
  split at hstep
  · cases hstep
  split at hstep
  all_goals rename_i hcall
  case h_1 => exact sendPayload_handling hcall hstep
  case h_2 => cases hstep; exact sendSetValue_handling hcall
  case h_3 => cases hstep; exact takeOrRegister_handling _ hcall (.inl rfl)
  case h_4 call =>
    obtain ⟨result, -, rfl⟩ := Option.map_eq_some_iff.mp hstep
    exact .quiet (quiet_of_awaits (hcall ▸ rfl) rfl rfl)
  case h_5 => cases hstep; exact takeOrRegister_handling _ hcall (.inr rfl)
  case h_6 =>
    cases hstep
    split
    next => exact .quiet (quiet_of_awaits (hcall ▸ rfl) rfl rfl)
    next => exact .quiet (quiet_of_awaits (hcall ▸ rfl) rfl rfl)
  case h_7 => cases hstep; exact recvForLookup_handling hcall
  case h_8 => cases hstep; exact .quiet (quiet_of_awaits (hcall ▸ rfl) rfl rfl)
  case h_9 => cases hstep; exact .quiet (takeOrPark_quiet _ (.start hcall))
  case h_10 => cases hstep; exact .quiet (takeOrPark_quiet _ (.start hcall))
  case h_11 timed => cases hstep; exact .quiet (takeOrPark_quiet _ (.again timed hcall))
  case h_12 => cases hstep; exact .quiet (takeOrNull_quiet (.again true hcall))
  case h_13 => cases hstep; exact .quiet (takeOrNull_quiet (.start hcall))
  case h_14 => cases hstep; exact close_handling hcall
  case h_15 => cases hstep; exact .quiet (notifyAll_quiet hcall)
  case h_16 => cases hstep; exact closeSetValue_handling hcall
  case h_17 => cases hstep

end Steps

/-- The invariant of the queue and the events so far. -/
structure Owned (state : State α) (events : List Event) : Prop where
  ledger : Ledger state
  custody : Custody (fun waiter => .registered waiter ∈ events) (state.IsAt events)
  listed : ∀ call, (state.calls call).listing.Nodup
  counted : ∀ waiter, events.count (.set waiter) = if state.promise waiter = none then 0 else 1
  inside : ∀ waiter, .registered waiter ∈ events → (state.calls waiter).outside = false
  awaiting : ∀ waiter, (state.calls waiter).awaits = true →
    .registered waiter ∈ events ∧ .withdrawn waiter ∉ events
  terminated : state.terminated = false
  threw : ∀ call message, state.calls call ≠ .sendThrew message

theorem owned_initial : Owned (initial α) [] where
  ledger := ledger_initial
  custody := by
    have hnowhere : ∀ waiter place, ¬ (initial α).IsAt [] waiter place := by
      intro waiter place
      cases place <;> simp [State.IsAt, initial, Call.handing, Call.listing]
    exact ⟨nofun, fun waiter first _ hfirst => absurd hfirst (hnowhere waiter first),
      fun waiter place hplace => absurd hplace (hnowhere waiter place)⟩
  listed _ := List.nodup_nil
  counted _ := rfl
  inside := nofun
  awaiting := nofun
  terminated := rfl
  threw := nofun

section Owned

variable {state next : State α} {events : List Event}

/-- The places of a waiter depend on nothing else. -/
theorem isAt_congr {after : List Event} {waiter : CallId}
    (hwaiters : waiter ∈ next.fiberWaiters ↔ waiter ∈ state.fiberWaiters)
    (hhanding : ∀ call, (next.calls call).handing = some waiter ↔
      (state.calls call).handing = some waiter)
    (hlisting : ∀ call, waiter ∈ (next.calls call).listing ↔
      waiter ∈ (state.calls call).listing)
    (hpromise : next.promise waiter = state.promise waiter)
    (hset : after.count (.set waiter) = events.count (.set waiter))
    (hwithdrawn : .withdrawn waiter ∈ after ↔ .withdrawn waiter ∈ events) (place : Place) :
    next.IsAt after waiter place ↔ state.IsAt events waiter place := by
  cases place with
  | waiting => exact hwaiters
  | held sender => exact hhanding sender
  | listed closer => exact hlisting closer
  | set => rw [State.IsAt, State.IsAt, hpromise, hset]
  | withdrawn => exact hwithdrawn

theorem Owned.quiet (howned : Owned state events) (hnext : Ledger next)
    (hquiet : Quiet state next) : Owned next events := by
  refine ⟨hnext, howned.custody.stay ?_, ?_, ?_, ?_, ?_, ?_, ?_⟩
  · intro waiter place
    refine isAt_congr ?_ ?_ ?_ ?_ rfl Iff.rfl place
    · rw [hquiet.fiberWaiters]
    · exact fun call => by rw [hquiet.handing]
    · exact fun call => by rw [hquiet.listing]
    · rw [hquiet.promise]
  · exact fun call => hquiet.listing call ▸ howned.listed call
  · rw [hquiet.promise]
    exact howned.counted
  · intro waiter hregistered
    by_contra houtside
    have hbefore := hquiet.outside waiter (by simpa using houtside)
    rw [howned.inside waiter hregistered] at hbefore
    cases hbefore
  · exact fun waiter hawaits => howned.awaiting waiter (hquiet.awaits waiter hawaits)
  · exact hquiet.terminated.trans howned.terminated
  · exact fun call message hthrew => howned.threw call message (hquiet.threw call message hthrew)

/-- A place that the step of a call does not touch has the same waiters. -/
theorem isAt_untouched {base : State α} {after : List Event} {call : CallId} {position : Call α}
    (hcalls : base.calls = state.calls) {place : Place}
    (hwaiting : place = .waiting → base.fiberWaiters = state.fiberWaiters)
    (hheld : place = .held call → position.handing = (state.calls call).handing)
    (hlisted : place = .listed call → position.listing = (state.calls call).listing)
    (hset : place = .set → base.promise = state.promise ∧
      ∀ waiter, after.count (.set waiter) = events.count (.set waiter))
    (hwithdrawn : place = .withdrawn → ∀ waiter,
      .withdrawn waiter ∈ after ↔ .withdrawn waiter ∈ events) (waiter : CallId) :
    (base.become call position).IsAt after waiter place ↔ state.IsAt events waiter place := by
  cases place with
  | waiting => rw [State.IsAt, State.IsAt, State.become_fiberWaiters, hwaiting rfl]
  | held sender =>
      rw [State.IsAt, State.IsAt, State.become_calls, hcalls]
      split
      next heq =>
        subst heq
        rw [hheld rfl]
      next => exact Iff.rfl
  | listed closer =>
      rw [State.IsAt, State.IsAt, State.become_calls, hcalls]
      split
      next heq =>
        subst heq
        rw [hlisted rfl]
      next => exact Iff.rfl
  | set => rw [State.IsAt, State.IsAt, State.become_promise, (hset rfl).1, (hset rfl).2]
  | withdrawn => exact hwithdrawn rfl waiter

/-- Taking the head off a list without repetitions. -/
theorem mem_tail_iff {head : CallId} {tail : List CallId} (hnodup : (head :: tail).Nodup)
    (item : CallId) : item ∈ tail ↔ item ∈ head :: tail ∧ item ≠ head := by
  have hhead := (List.nodup_cons.mp hnodup).1
  rw [List.mem_cons]
  constructor
  · exact fun hmem => ⟨.inr hmem, fun heq => hhead (heq ▸ hmem)⟩
  · exact fun ⟨hmem, hne⟩ => hmem.resolve_left hne

/-- A sender takes the first waiter. -/
theorem custody_bind (howned : Owned state events) {call waiter : CallId} {message : Message α}
    {rest : List CallId} (hidle : state.calls call = .idle)
    (hwaiters : state.fiberWaiters = waiter :: rest) :
    Custody (fun other => .registered other ∈ events)
      (((state.bindWaiter waiter rest message).become call
        (.handingOff message waiter)).IsAt events) := by
  refine howned.custody.transfer (· = waiter) .waiting (.held call) ?_ ?_ ?_ ?_
  · rintro _ rfl
    simp [State.IsAt, hwaiters]
  · intro other
    simp only [State.IsAt, State.become_fiberWaiters, State.bindWaiter, hwaiters]
    exact mem_tail_iff (hwaiters ▸ howned.ledger.waitersNodup) other
  · intro other
    simp [State.IsAt, Call.handing, hidle, eq_comm]
  · intro place hsource htarget
    apply isAt_untouched
    · rfl
    · exact fun heq => absurd heq hsource
    · exact fun heq => absurd heq htarget
    · intro _
      rw [hidle]
      rfl
    · exact fun _ => ⟨rfl, fun _ => rfl⟩
    · exact fun _ _ => Iff.rfl

/-- `close` takes all waiters into its local list. -/
theorem custody_beginClose (howned : Owned state events) {call : CallId}
    (hidle : state.calls call = .idle) :
    Custody (fun other => .registered other ∈ events)
      (({ state with closed := true, fiberWaiters := [] }.become call
        (.closing false state.fiberWaiters)).IsAt events) := by
  refine howned.custody.transfer (· ∈ state.fiberWaiters) .waiting (.listed call) ?_ ?_ ?_ ?_
  · exact fun _ hmem => hmem
  · simp [State.IsAt]
  · simp [State.IsAt, Call.listing, hidle]
  · intro place hsource htarget
    apply isAt_untouched
    · rfl
    · exact fun heq => absurd heq hsource
    · intro _
      rw [hidle]
      rfl
    · exact fun heq => absurd heq htarget
    · exact fun _ => ⟨rfl, fun _ => rfl⟩
    · exact fun _ _ => Iff.rfl

/-- A timed-out `recv_for` withdraws its promise. -/
theorem custody_withdraw (howned : Owned state events) {call : CallId}
    (hexpired : state.calls call = .recvForExpired) (hmem : call ∈ state.fiberWaiters) :
    Custody (fun other => .registered other ∈ events)
      (({ state with fiberWaiters := state.fiberWaiters.erase call }.become call
        (.received none)).IsAt (events ++ [Event.withdrawn call])) := by
  refine howned.custody.transfer (· = call) .waiting .withdrawn ?_ ?_ ?_ ?_
  · rintro _ rfl
    exact hmem
  · intro other
    rw [State.IsAt, State.become_fiberWaiters, howned.ledger.waitersNodup.mem_erase_iff]
    exact And.comm
  · simp [State.IsAt]
  · intro place hsource htarget
    apply isAt_untouched
    · rfl
    · exact fun heq => absurd heq hsource
    · intro _
      rw [hexpired]
      rfl
    · intro _
      rw [hexpired]
      rfl
    · exact fun _ => ⟨rfl, fun _ => by simp⟩
    · exact fun heq => absurd heq htarget

/-- `set_value`, by the sender or the `close` call that has the waiter. -/
theorem custody_set (howned : Owned state events) {call waiter : CallId} {position : Call α}
    {result : Option (Message α)} {source : Place} (hunset : state.promise waiter = none)
    (hsource : state.IsAt events waiter source)
    (hout : ∀ other, ((state.fulfil waiter result).become call position).IsAt
      (events ++ [.set waiter]) other source ↔ state.IsAt events other source ∧ other ≠ waiter)
    (hheld : source ≠ .held call → position.handing = (state.calls call).handing)
    (hlisted : source ≠ .listed call → position.listing = (state.calls call).listing) :
    Custody (fun other => .registered other ∈ events)
      (((state.fulfil waiter result).become call position).IsAt (events ++ [.set waiter])) := by
  refine howned.custody.transfer (· = waiter) source .set ?_ hout ?_ ?_
  · rintro _ rfl
    exact hsource
  · intro other
    simp only [State.IsAt, State.become_promise, State.fulfil_promise, List.count_append]
    by_cases hself : other = waiter
    · subst hself
      have hcount := howned.counted other
      rw [if_pos hunset] at hcount
      simp [hcount]
    · have hother : List.count (Event.set other) [.set waiter] = 0 := by simp [Ne.symm hself]
      simp [hself, hother]
  · intro place hother htarget
    apply isAt_untouched
    · rfl
    · exact fun _ => rfl
    · exact fun heq => hheld fun hself => hother (heq.trans hself.symm)
    · exact fun heq => hlisted fun hself => hother (heq.trans hself.symm)
    · exact fun heq => absurd heq htarget
    · exact fun _ _ => by simp

theorem custody_fulfil (howned : Owned state events) {call waiter : CallId} {message : Message α}
    (hhand : state.calls call = .handingOff message waiter)
    (hunset : state.promise waiter = none) :
    Custody (fun other => .registered other ∈ events)
      (((state.fulfil waiter (some message)).become call (.sent message true)).IsAt
        (events ++ [.set waiter])) := by
  have hplace : ∀ other, state.IsAt events other (.held call) ↔ waiter = other := by
    intro other
    rw [State.IsAt, hhand, Call.handing, Option.some.injEq]
  refine custody_set howned hunset ((hplace waiter).mpr rfl) ?_ (fun hne => absurd rfl hne) ?_
  · intro other
    rw [hplace, State.IsAt, State.become_calls_self]
    simp [Call.handing, eq_comm]
  · intro _
    rw [hhand]
    rfl

theorem Owned.listed_nodup (howned : Owned state events) {call : CallId} {notified : Bool}
    {waiters : List CallId} (hclosing : state.calls call = .closing notified waiters) :
    waiters.Nodup := by
  have hnodup := howned.listed call
  rwa [hclosing] at hnodup

theorem custody_release (howned : Owned state events) {call waiter : CallId} {rest : List CallId}
    (hclosing : state.calls call = .closing true (waiter :: rest))
    (hunset : state.promise waiter = none) :
    Custody (fun other => .registered other ∈ events)
      (((state.fulfil waiter none).become call (.closing true rest)).IsAt
        (events ++ [.set waiter])) := by
  have hplace : ∀ other, state.IsAt events other (.listed call) ↔ other ∈ waiter :: rest := by
    intro other
    rw [State.IsAt, hclosing, Call.listing]
  refine custody_set howned hunset ((hplace waiter).mpr List.mem_cons_self) ?_ ?_
    (fun hne => absurd rfl hne)
  · intro other
    rw [hplace, State.IsAt, State.become_calls_self, Call.listing]
    exact mem_tail_iff (howned.listed_nodup hclosing) other
  · intro _
    rw [hclosing]
    rfl

theorem Owned.unregistered (howned : Owned state events) {call : CallId}
    (hidle : state.calls call = .idle) : .registered call ∉ events := by
  intro hregistered
  have hinside := howned.inside call hregistered
  rw [hidle] at hinside
  cases hinside

/-- A receive call registers its promise. -/
theorem custody_register (howned : Owned state events) {call : CallId} {waiting : Call α}
    (hidle : state.calls call = .idle)
    (hwaiting : waiting = .recvWaiting ∨ waiting = .recvForWaiting) :
    Custody (fun other => .registered other ∈ events ++ [Event.registered call])
      (({ state with fiberWaiters := state.fiberWaiters ++ [call] }.become call waiting).IsAt
        (events ++ [Event.registered call])) := by
  refine howned.custody.enter call .waiting (howned.unregistered hidle) ?_ ?_
  · intro other place
    by_cases hplace : place = .waiting
    · subst hplace
      simp [State.IsAt]
    · simp only [hplace, and_false, or_false]
      apply isAt_untouched
      · rfl
      · exact fun heq => absurd heq hplace
      · intro _
        rw [hidle]
        obtain rfl | rfl := hwaiting <;> rfl
      · intro _
        rw [hidle]
        obtain rfl | rfl := hwaiting <;> rfl
      · exact fun _ => ⟨rfl, fun _ => by simp⟩
      · exact fun _ _ => by simp
  · simp

/-- The promise a sender or a `close` call is about to set is not set yet. -/
theorem Owned.unset (howned : Owned state events) {waiter : CallId} {place : Place}
    (hplace : state.IsAt events waiter place) (hne : place ≠ .set) :
    state.promise waiter = none := by
  by_contra hset
  have hcount := howned.counted waiter
  rw [if_neg hset] at hcount
  exact hne (howned.custody.alone waiter place .set hplace ⟨hset, hcount⟩)

/-- What is left to show of a step of one call besides the custody. -/
theorem Owned.become (howned : Owned state events) {base : State α} {call : CallId}
    {position : Call α} {emitted : List Event} (hledger : Ledger (base.become call position))
    (hcustody : Custody (fun waiter => .registered waiter ∈ events ++ emitted)
      ((base.become call position).IsAt (events ++ emitted)))
    (hcalls : base.calls = state.calls) (hterminated : base.terminated = state.terminated)
    (hcounted : ∀ waiter, (events ++ emitted).count (.set waiter) =
      if base.promise waiter = none then 0 else 1)
    (hlisted : position.listing.Nodup) (hinside : position.outside = false)
    (hthrew : ∀ message, position ≠ .sendThrew message)
    (hawaits : position.awaits = true →
      .registered call ∈ events ++ emitted ∧ .withdrawn call ∉ events ++ emitted)
    (hregistered : ∀ waiter, .registered waiter ∈ emitted → waiter = call)
    (hwithdrawn : ∀ waiter, .withdrawn waiter ∈ emitted → waiter = call) :
    Owned (base.become call position) (events ++ emitted) := by
  refine ⟨hledger, hcustody, ?_, hcounted, ?_, ?_, hterminated.trans howned.terminated, ?_⟩ <;>
    intro other <;> obtain rfl | hne := eq_or_ne other call
  · rw [State.become_calls_self]
    exact hlisted
  · rw [State.become_calls_of_ne hne, hcalls]
    exact howned.listed other
  · rw [State.become_calls_self]
    exact fun _ => hinside
  · rw [State.become_calls_of_ne hne, hcalls]
    intro hmem
    obtain hold | hnew := List.mem_append.mp hmem
    · exact howned.inside other hold
    · exact absurd (hregistered other hnew) hne
  · rw [State.become_calls_self]
    exact hawaits
  · rw [State.become_calls_of_ne hne, hcalls]
    intro hwaits
    obtain ⟨hold, hnot⟩ := howned.awaiting other hwaits
    refine ⟨List.mem_append_left _ hold, fun hmem => ?_⟩
    obtain hearlier | hnew := List.mem_append.mp hmem
    · exact hnot hearlier
    · exact hne (hwithdrawn other hnew)
  · rw [State.become_calls_self]
    exact hthrew
  · rw [State.become_calls_of_ne hne, hcalls]
    exact howned.threw other

/-- The count of settings after one more. -/
theorem Owned.counted_set (howned : Owned state events) {waiter : CallId}
    (hunset : state.promise waiter = none) (result : Option (Message α)) (other : CallId) :
    (events ++ [Event.set waiter]).count (.set other) =
      if (state.fulfil waiter result).promise other = none then 0 else 1 := by
  rw [List.count_append, howned.counted other, State.fulfil_promise]
  by_cases hself : other = waiter
  · subst hself
    simp [hunset]
  · simp [hself, Ne.symm hself]

theorem handling_owned (howned : Owned state events) (hnext : Ledger next) {emitted : List Event}
    (hhandling : Handling state next emitted) : Owned next (events ++ emitted) := by
  cases hhandling with
  | quiet hquiet =>
      rw [List.append_nil]
      exact howned.quiet hnext hquiet
  | @register call waiting hidle hwaiting =>
      have hnew := howned.unregistered hidle
      have hcustody := custody_register howned hidle hwaiting
      refine howned.become hnext hcustody rfl rfl ?_ ?_ ?_ ?_ ?_ ?_ ?_
      · simpa using howned.counted
      · obtain rfl | rfl := hwaiting <;> exact List.nodup_nil
      · obtain rfl | rfl := hwaiting <;> rfl
      · obtain rfl | rfl := hwaiting <;> exact nofun
      · intro _
        have hnot : .withdrawn call ∉ events := fun hmem =>
          hnew (howned.custody.known call .withdrawn hmem)
        simp [hnot]
      · simp
      · simp
  | @withdraw call hexpired hmem =>
      refine howned.become hnext ?_ rfl rfl ?_ List.nodup_nil rfl nofun nofun ?_ ?_
      · simpa using custody_withdraw howned hexpired hmem
      · simpa using howned.counted
      · simp
      · simp
  | @bind call message waiter rest hidle hwaiters =>
      refine howned.become hnext ?_ rfl rfl ?_ List.nodup_nil rfl nofun nofun nofun nofun
      · simpa using custody_bind howned hidle hwaiters
      · rw [List.append_nil]
        exact howned.counted
  | @fulfil call message waiter hhand hunset =>
      refine howned.become hnext ?_ rfl rfl (howned.counted_set hunset _) List.nodup_nil rfl nofun
        nofun ?_ ?_
      · simpa using custody_fulfil howned hhand hunset
      · simp
      · simp
  | @satisfied call message waiter hhand hset =>
      -- Only its owner sets a promise, and here the sender owns it: so it is not set yet.
      have hplace : state.IsAt events waiter (.held call) := by
        rw [State.IsAt, hhand]
        rfl
      exact absurd (howned.unset hplace nofun) hset
  | @beginClose call hidle hopen =>
      refine howned.become hnext ?_ rfl rfl ?_ howned.ledger.waitersNodup rfl nofun nofun nofun
        nofun
      · simpa using custody_beginClose howned hidle
      · simpa using howned.counted
  | @release call waiter rest hclosing hunset =>
      have hnodup := howned.listed_nodup hclosing
      refine howned.become hnext ?_ rfl rfl (howned.counted_set hunset _) hnodup.of_cons rfl nofun
        nofun ?_ ?_
      · simpa using custody_release howned hclosing hunset
      · simp
      · simp
  | @terminate call waiter rest hclosing hset =>
      have hplace : state.IsAt events waiter (.listed call) := by
        rw [State.IsAt, hclosing]
        exact List.mem_cons_self
      exact absurd (howned.unset hplace nofun) hset

end Owned

theorem step_owned {state next : State α} {events : List Event} {action : Action α}
    (howned : Owned state events) (hstep : (machine α).step state action = some next) :
    Owned next (events ++ state.emits action) :=
  handling_owned howned (step_ledger howned.ledger (step_effect hstep)) (step_handling hstep)

theorem run_owned {actions : List (Action α)} {state : State α}
    (hrun : (machine α).run actions (initial α) = some state) :
    Owned state ((machine α).trace State.emits actions (initial α)) := by
  have hkept := Machine.run_trace (fun _ _ _ _ => step_owned) actions (initial α) state []
    owned_initial hrun
  rwa [List.nil_append] at hkept

/-- The first `close` has returned: later ones return at once. -/
def State.CloseReturned (state : State α) : Prop :=
  state.closed = true ∧ ∀ call notified waiters, state.calls call ≠ .closing notified waiters

/-- No sender has a waiter in its hands. -/
def State.SendersIdle (state : State α) : Prop :=
  ∀ call message waiter, state.calls call ≠ .handingOff message waiter

/-- Every promise that was registered has one owner. -/
structure SingleOwner (state : State α) (events : List Event) : Prop where
  owner : ∀ waiter, .registered waiter ∈ events → ∃! place, state.IsAt events waiter place
  waiters : state.fiberWaiters.Nodup
  lists : ∀ call, (state.calls call).listing.Nodup
  setOnce : ∀ waiter, events.count (.set waiter) ≤ 1
  /-- `set_value` never found a satisfied promise, in `send` or in `close`. -/
  sends : ∀ call message, state.calls call ≠ .sendThrew message
  closes : state.terminated = false
  /-- Nobody is left waiting for a promise that is not set. -/
  released : state.CloseReturned → state.SendersIdle →
    ∀ call, (state.calls call).awaits = true → state.promise call ≠ none

/-- Once the queue is closed, nobody has a waiter that is not set. -/
theorem Owned.released {state : State α} {events : List Event} (howned : Owned state events)
    (hclose : state.CloseReturned) (hidle : state.SendersIdle) {call : CallId}
    (hawaits : (state.calls call).awaits = true) : state.promise call ≠ none := by
  obtain ⟨hregistered, hwithdrawn⟩ := howned.awaiting call hawaits
  obtain ⟨place, hplace⟩ := howned.custody.somewhere call hregistered
  cases place with
  | waiting =>
      rw [State.IsAt, howned.ledger.closedWaiters hclose.1] at hplace
      cases hplace
  | held sender =>
      cases hsender : state.calls sender with
      | handingOff message waiter => exact absurd hsender (hidle sender message waiter)
      | _ => simp [State.IsAt, hsender, Call.handing] at hplace
  | listed closer =>
      cases hcloser : state.calls closer with
      | closing notified waiters => exact absurd hcloser (hclose.2 closer notified waiters)
      | _ => simp [State.IsAt, hcloser, Call.listing] at hplace
  | set => exact hplace.1
  | withdrawn => exact absurd hplace hwithdrawn

/-- In every state of every run each registered promise has exactly one owner, none is set
twice, and a closed queue leaves no receive call waiting. -/
theorem waiters_have_single_owner (actions : List (Action α)) (state : State α)
    (hrun : (machine α).run actions (initial α) = some state) :
    SingleOwner state ((machine α).trace State.emits actions (initial α)) := by
  have howned := run_owned hrun
  refine ⟨fun waiter => howned.custody.existsUnique, howned.ledger.waitersNodup, howned.listed, ?_,
    howned.threw, howned.terminated, fun hclose hidle call => howned.released hclose hidle⟩
  intro waiter
  rw [howned.counted waiter]
  split <;> omega

/-- Four receive calls: one promise is withdrawn, one taken by a sender, and two by `close`,
which has set the first of them before the sender sets its own. -/
def takenThreeWays : List (Action Nat) :=
  [.recv 0, .recvFor 1, .recv 2, .recvFor 3, .send 4 7 none, .recvForWait 1, .recvForLookup 1,
    .close 5, .closeNotifyAll 5, .closeSetValue 5, .sendSetValue 4, .recvGet 0]

theorem single_owner_takenThreeWays :
    ∃ state, (machine Nat).run takenThreeWays (initial Nat) = some state ∧
      (machine Nat).trace State.emits takenThreeWays (initial Nat) =
        [.registered 0, .registered 1, .registered 2, .registered 3, .withdrawn 1, .set 2,
          .set 0] ∧
      SingleOwner state ((machine Nat).trace State.emits takenThreeWays (initial Nat)) :=
  ⟨_, rfl, rfl, waiters_have_single_owner takenThreeWays _ rfl⟩

end Fiberuv.MessageQueue
