import Fiberuv.Foundation.Records
import Fiberuv.Udp.Receives

/-! # UDP receives preserve datagrams

What libuv delivers and what the receives take is observed along a run: a datagram arrives
when `on_udp_recv` is called with a source, whatever its length, and it is taken by the
call whose promise it is put into or that finds it in the buffer. A datagram goes to the
pending receive if there is one, and the buffer is empty as long as there is.
-/

namespace Fiberuv.Udp

open Foundation

/-- The packet the call has returned, a fulfilled promise counting as returned. -/
def Call.value : Call → Option UdpPacket
  | .waiting _ _ (some (.ok packet)) => some packet
  | .returned (.ok (some packet)) => some packet
  | _ => none

inductive Event where
  | arrived (packet : UdpPacket)
  | taken (id : CallId) (packet : UdpPacket)

def Event.arrival : Event → Option UdpPacket
  | .arrived packet => some packet
  | .taken _ _ => none

def Event.receipt : Event → Option (CallId × UdpPacket)
  | .arrived _ => none
  | .taken id packet => some (id, packet)

/-- The datagrams libuv has delivered, in order. -/
def arrivals (events : List Event) : List UdpPacket := events.filterMap Event.arrival

/-- The datagrams that receives have got, in order, each with its call. -/
def receipts (events : List Event) : List (CallId × UdpPacket) := events.filterMap Event.receipt

section Observers

variable (first second rest : List Event) (packet : UdpPacket) (id : CallId)

@[simp] theorem arrivals_nil : arrivals [] = [] := rfl

@[simp] theorem receipts_nil : receipts [] = [] := rfl

@[simp] theorem arrivals_append : arrivals (first ++ second) = arrivals first ++ arrivals second :=
  List.filterMap_append

@[simp] theorem receipts_append : receipts (first ++ second) = receipts first ++ receipts second :=
  List.filterMap_append

@[simp] theorem arrivals_arrived : arrivals (.arrived packet :: rest) = packet :: arrivals rest :=
  rfl

@[simp] theorem receipts_arrived : receipts (.arrived packet :: rest) = receipts rest := rfl

@[simp] theorem arrivals_taken : arrivals (.taken id packet :: rest) = arrivals rest := rfl

@[simp] theorem receipts_taken :
    receipts (.taken id packet :: rest) = (id, packet) :: receipts rest := rfl

end Observers

/-- The datagram that a callback of libuv is about. Without a source and without bytes there
is none. -/
def datagram (nread : Int) (bytes : Bytes) (addr : Option SockAddr) : Option UdpPacket :=
  if nread < 0 then none
  else
    match addr with
    | some (.inet (some host) high low) => some ⟨bytes, host, fromNetworkU16 high low⟩
    | some (.inet6 (some host) high low) => some ⟨bytes, host, fromNetworkU16 high low⟩
    | some _ => none
    | none => if nread = 0 then none else some ⟨bytes, "", 0⟩

namespace State

/-- A datagram arrives, and is taken by the pending receive if there is one. -/
def emitsArrival (state : State) (packet : UdpPacket) : List Event :=
  .arrived packet :: state.pendingRecv.toList.map fun pending => .taken pending.call packet

/-- A receive takes a packet out of the buffer. -/
def emitsRecv (state : State) (id : CallId) : List Event :=
  if !state.initialized || state.closed || !state.alive then []
  else state.bufferedPackets.head?.toList.map (.taken id)

def emits (state : State) : Action → List Event
  | .recv id _ _ _ => state.emitsRecv id
  | .onUdpRecv nread bytes addr => (datagram nread bytes addr).toList.flatMap state.emitsArrival
  | _ => []

end State

/-- How the events so far relate to the calls and the buffer. -/
structure Kept (state : State) (events : List Event) : Prop where
  stream : arrivals events = (receipts events).map Prod.snd ++ state.bufferedPackets
  records : Records (fun id => (state.call id).value) (receipts events)
  receives : Receives state
  unbuffered : state.pendingRecv ≠ none → state.bufferedPackets = []

variable {state next : State} {events : List Event}

theorem kept_initial : Kept initial [] where
  stream := rfl
  records := records_nil
  receives := receives_initial
  unbuffered _ := rfl

/-- A step without events, that leaves the buffer and what the calls have returned. -/
theorem Kept.quiet (hkept : Kept state events) (hreceives : Receives next)
    (hbuffered : next.bufferedPackets = state.bufferedPackets)
    (hvalue : ∀ id, (next.call id).value = (state.call id).value)
    (hpending : next.pendingRecv ≠ none → state.pendingRecv ≠ none ∨ next.bufferedPackets = []) :
    Kept next (events ++ []) := by
  rw [List.append_nil]
  refine ⟨hbuffered ▸ hkept.stream, hkept.records.congr hvalue, hreceives, fun hsome => ?_⟩
  rcases hpending hsome with hbefore | hempty
  · exact hbuffered ▸ hkept.unbuffered hbefore
  · exact hempty

/-- The value of a call that stays without one. -/
theorem value_update {calls : CallId → Call} {id : CallId} {after : Call}
    (hvalue : after.value = (calls id).value) (other : CallId) :
    (Function.update calls id after other).value = (calls other).value := by
  by_cases hself : other = id
  · subst hself
    rwa [Function.update_self]
  · rw [Function.update_of_ne hself]

theorem Kept.setCall (hkept : Kept state events) {id : CallId} {after : Call}
    (hvalue : after.value = (state.call id).value) (hreceives : Receives (state.setCall id after)) :
    Kept (state.setCall id after) (events ++ []) :=
  hkept.quiet hreceives rfl (value_update hvalue) fun hsome => Or.inl hsome

/-- Whatever ends the pending receive without a packet. -/
theorem Kept.finishError (hkept : Kept state events) (error : Error)
    (receiving closed closing : Bool) :
    Kept ({ state with receiving := receiving, closed := closed, closing := closing }.finishRecv
      (.error error)) (events ++ []) := by
  have hsame : Receives { state with
      receiving := receiving, closed := closed, closing := closing } :=
    hkept.receives.congr rfl rfl rfl
  have hafter := (hsame.finishRecv (.error error)).1
  obtain ⟨hnone, heq⟩ | ⟨id, timed, address, hpending, hcall, heq⟩ :=
    hsame.finishRecv_eq (.error error)
  · rw [heq] at hafter ⊢
    exact hkept.quiet hafter rfl (fun _ => rfl) Or.inl
  · rw [heq] at hafter ⊢
    refine hkept.quiet hafter rfl (value_update ?_) fun hsome => absurd rfl hsome
    rw [show state.call id = .waiting timed address none from hcall]
    rfl

/-- A datagram goes to the pending receive, or behind those in the buffer. -/
theorem Kept.deliver (hkept : Kept state events) (packet : UdpPacket) :
    Kept ({ state with receiving := false }.deliver packet)
      (events ++ state.emitsArrival packet) := by
  have hstopped : Receives { state with receiving := false } := hkept.receives.congr rfl rfl rfl
  have hstream := hkept.stream
  obtain ⟨hnone, -⟩ | ⟨id, timed, address, hsome, hcall, heq⟩ := hstopped.finishRecv_eq (.ok packet)
  · have hpending : state.pendingRecv = none := hnone
    have hdeliver : { state with receiving := false }.deliver packet = { state with
        receiving := false, bufferedPackets := state.bufferedPackets ++ [packet] } := by
      simp [State.deliver, hpending]
    have hemits : state.emitsArrival packet = [.arrived packet] := by
      simp [State.emitsArrival, hpending]
    rw [hdeliver, hemits]
    refine ⟨?_, ?_, hstopped.congr rfl rfl rfl, fun hsome => absurd hpending hsome⟩
    · simp [hstream]
    · simpa using hkept.records
  · have hpending : state.pendingRecv = some ⟨address, id⟩ := hsome
    have hdeliver : { state with receiving := false }.deliver packet =
        { state with receiving := false }.finishRecv (.ok packet) := by
      simp [State.deliver, hpending]
    have hemits : state.emitsArrival packet = [.arrived packet, .taken id packet] := by
      simp [State.emitsArrival, hpending]
    have hempty : state.bufferedPackets = [] := hkept.unbuffered (by simp [hpending])
    have hafter := (hstopped.finishRecv (.ok packet)).1
    rw [heq] at hafter
    rw [hdeliver, hemits, heq]
    refine ⟨?_, ?_, hafter, fun hsome => absurd rfl hsome⟩
    · simp [hstream, hempty]
    · rw [receipts_append]
      refine hkept.records.snoc ?_ ?_ fun other hother => ?_
      · rw [show state.call id = .waiting timed address none from hcall]
        rfl
      · simp [Call.value]
      · simp [Function.update_of_ne hother]

/-- A callback that is not about nothing is about the packet its source gives. -/
theorem datagram_eq {nread : Int} {addr : Option SockAddr} (bytes : Bytes)
    (hsomething : ¬ (nread = 0 ∧ addr = none)) (hnread : ¬ nread < 0) :
    datagram nread bytes addr = (packetFromSockaddr addr bytes).toOption := by
  unfold datagram packetFromSockaddr
  rw [if_neg hnread]
  cases addr with
  | none =>
      have hpositive : nread ≠ 0 := fun hzero => hsomething ⟨hzero, rfl⟩
      simp only [hpositive, if_false]
      rfl
  | some source =>
      cases source with
      | inet name high low => cases name <;> rfl
      | inet6 name high low => cases name <;> rfl
      | other => rfl

theorem Kept.onUdpRecv (hkept : Kept state events) (nread : Int) (bytes : Bytes)
    (addr : Option SockAddr) :
    Kept (state.onUdpRecv nread bytes addr)
      (events ++ (datagram nread bytes addr).toList.flatMap state.emitsArrival) := by
  unfold State.onUdpRecv
  split
  next hnothing =>
    obtain ⟨rfl, rfl⟩ := hnothing
    simpa [datagram] using hkept
  next hsomething =>
    split
    next hnread =>
      have hnone : datagram nread bytes addr = none := if_pos hnread
      rw [hnone]
      exact hkept.finishError _ false state.closed state.closing
    next hnread =>
      rw [datagram_eq bytes hsomething hnread]
      split
      next error herror =>
        rw [herror]
        exact hkept.finishError _ false state.closed state.closing
      next packet hpacket =>
        rw [hpacket]
        simpa [Except.toOption] using hkept.deliver packet

theorem Kept.recv (hkept : Kept state events) {id : CallId} (hidle : state.call id = .idle)
    (timed : Bool) (address : Nat) (rc : Int) :
    Kept (state.recv id timed address rc) (events ++ state.emitsRecv id) := by
  have hreceives := (hkept.receives.recv hidle timed address rc).1
  have hvalue : (state.call id).value = none := by rw [hidle]; rfl
  unfold State.recv at hreceives ⊢
  unfold State.emitsRecv
  by_cases hinvalid : (!state.initialized || state.closed) = true
  · simp only [hinvalid, Bool.true_or, if_true] at hreceives ⊢
    exact hkept.setCall hvalue.symm hreceives
  by_cases hdead : (!state.alive) = true
  · simp only [hinvalid, hdead, Bool.or_true, if_true] at hreceives ⊢
    exact hkept.setCall hvalue.symm hreceives
  simp only [hinvalid, hdead, Bool.or_self, Bool.false_eq_true, if_false] at hreceives ⊢
  cases hbuffered : state.bufferedPackets with
  | cons out rest =>
      simp only [hbuffered] at hreceives ⊢
      refine ⟨?_, ?_, hreceives, fun hsome => ?_⟩
      · have hstream := hkept.stream
        rw [hbuffered] at hstream
        simp [hstream, State.setCall]
      · rw [receipts_append]
        refine hkept.records.snoc hvalue ?_ fun other hother => ?_
        · simp [State.setCall, Call.value]
        · simp [State.setCall, Function.update_of_ne hother]
      · have hnone := hkept.unbuffered hsome
        rw [hbuffered] at hnone
        cases hnone
  | nil =>
      simp only [hbuffered] at hreceives ⊢
      simp only [List.head?_nil, Option.toList_none, List.map_nil]
      cases hpending : state.pendingRecv with
      | some pending =>
          simp only [hpending] at hreceives ⊢
          exact hkept.setCall hvalue.symm hreceives
      | none =>
          simp only [hpending] at hreceives ⊢
          split at hreceives
          next hrc =>
            rw [if_pos hrc]
            exact hkept.setCall hvalue.symm hreceives
          next hrc =>
            rw [if_neg hrc]
            exact hkept.quiet hreceives rfl (value_update hvalue.symm) fun _ => Or.inr hbuffered

/-- A receive returns what its promise was set to, or gives up its record. -/
theorem Kept.resume (hkept : Kept state events) {id : CallId} {expired : Bool}
    (hresume : state.resume id expired = some next) : Kept next (events ++ []) := by
  have hreceives := (hkept.receives.resume hresume).1
  unfold State.resume at hresume
  split at hresume
  next timed address outcome hcall =>
    cases hresume
    cases outcome with
    | ok packet => exact hkept.setCall (by rw [hcall]; rfl) hreceives
    | error error => exact hkept.setCall (by rw [hcall]; rfl) hreceives
  next address hcall =>
    simp only [Option.ite_none_right_eq_some, Option.some.injEq] at hresume
    obtain ⟨-, rfl⟩ := hresume
    have hpending := (hkept.receives.pending id address).mpr ⟨true, hcall⟩
    rw [State.recvTimedOut, if_pos (by simp [hpending])] at hreceives ⊢
    refine hkept.quiet hreceives rfl (value_update ?_) fun hsome => absurd rfl hsome
    rw [hcall]
    rfl
  · cases hresume

theorem Kept.failPending (hkept : Kept state events) : Kept state.failPending (events ++ []) :=
  hkept.finishError socketClosed state.receiving true false

/-- A step that leaves the receives and the buffer alone. -/
theorem Kept.congr (hkept : Kept state events)
    (hpending : next.pendingRecv = state.pendingRecv) (hcall : next.call = state.call)
    (hsets : next.recvSets = state.recvSets)
    (hbuffered : next.bufferedPackets = state.bufferedPackets) : Kept next events := by
  refine ⟨hbuffered ▸ hkept.stream, ?_, hkept.receives.congr hpending hcall hsets, ?_⟩
  · rw [hcall]
    exact hkept.records
  · rw [hpending, hbuffered]
    exact hkept.unbuffered

theorem Kept.startUdpClose (hkept : Kept state events) (promise : Option CloseId) :
    Kept (state.startUdpClose promise) (events ++ []) := by
  have hqueued : Kept { state with closeWaiters := state.closeWaiters ++ promise.toList } events :=
    hkept.congr rfl rfl rfl rfl
  rw [List.append_nil]
  unfold State.startUdpClose
  split
  · exact hkept.congr rfl rfl rfl rfl
  split
  · have hfailed := hqueued.failPending
    rw [List.append_nil] at hfailed
    exact hfailed.congr rfl rfl rfl rfl
  split
  · exact hqueued
  split
  · exact hqueued.congr rfl rfl rfl rfl
  · exact hqueued.congr rfl rfl rfl rfl

theorem Kept.step {action : Action} (hkept : Kept state events)
    (hstep : state.step action = some next) : Kept next (events ++ state.emits action) := by
  cases action with
  | recv id timed address rc =>
      simp only [State.step] at hstep
      split at hstep
      next hidle =>
        cases hstep
        exact hkept.recv hidle timed address rc
      · cases hstep
  | resume id expired => exact hkept.resume hstep
  | onUdpRecv nread bytes addr =>
      simp only [State.step, Option.ite_none_right_eq_some, Option.some.injEq] at hstep
      obtain ⟨-, rfl⟩ := hstep
      exact hkept.onUdpRecv nread bytes addr
  | close id =>
      simp only [State.step, Option.ite_none_right_eq_some, Option.some.injEq] at hstep
      obtain ⟨-, rfl⟩ := hstep
      unfold State.close
      split
      · exact hkept.failPending.congr rfl rfl rfl rfl
      · have hcalled : Kept (state.setCloser id .waiting) events := hkept.congr rfl rfl rfl rfl
        exact hcalled.startUdpClose (some id)
  | closeResume id =>
      simp only [State.step, Option.ite_none_right_eq_some, Option.some.injEq] at hstep
      obtain ⟨-, rfl⟩ := hstep
      simp only [State.emits, List.append_nil]
      exact hkept.congr rfl rfl rfl rfl
  | onUdpClosed =>
      simp only [State.step, Option.ite_none_right_eq_some, Option.some.injEq] at hstep
      obtain ⟨-, rfl⟩ := hstep
      exact hkept.failPending.congr rfl rfl rfl rfl
  | endLoop =>
      cases hstep
      simp only [State.emits, List.append_nil]
      exact hkept.congr rfl rfl rfl rfl
  | walk =>
      simp only [State.step] at hstep
      simp only [State.emits, List.append_nil]
      split at hstep
      · cases hstep
      split at hstep
      · cases hstep
        exact hkept
      · cases hstep
        exact hkept.congr rfl rfl rfl rfl

theorem kept_of_run {run : List Action} (hrun : machine.run run initial = some state) :
    Kept state (machine.trace State.emits run initial) := by
  have hkept := Machine.run_trace (fun _ _ _ _ hkept hstep => hkept.step hstep)
    run initial state [] kept_initial hrun
  rwa [List.nil_append] at hkept

/-- What has become of the datagrams that have arrived. -/
structure Preserved (state : State) (events : List Event) : Prop where
  /-- They are those the receives have got, in order, and those in the buffer. -/
  order : arrivals events = (receipts events).map Prod.snd ++ state.bufferedPackets
  /-- A receive has got at most one, and returns the one it has got. -/
  returned : Records (fun id => (state.call id).value) (receipts events)
  /-- A receive that gave up has got none. -/
  gaveUp : ∀ id, state.call id = .returned (.ok none) → ∀ packet, (id, packet) ∉ receipts events
  /-- Nothing to read is no datagram. -/
  nothing : ∀ bytes next, state.step (.onUdpRecv 0 bytes none) = some next → next = state
  /-- A second receive throws and changes nothing else. -/
  second : ∀ pending id timed address rc next, state.pendingRecv = some pending →
    state.step (.recv id timed address rc) = some next →
      id ≠ pending.call ∧ ∃ error, next = state.throws id error

theorem Kept.second (hkept : Kept state events) {pending : PendingRecv} {id : CallId}
    {timed : Bool} {address : Nat} {rc : Int} (hpending : state.pendingRecv = some pending)
    (hstep : state.step (.recv id timed address rc) = some next) :
    id ≠ pending.call ∧ ∃ error, next = state.throws id error := by
  simp only [State.step] at hstep
  split at hstep
  next hidle =>
    cases hstep
    refine ⟨?_, ?_⟩
    · rintro rfl
      obtain ⟨_, hcall⟩ := (hkept.receives.pending pending.call pending.address).mp hpending
      rw [hidle] at hcall
      cases hcall
    · have hempty : state.bufferedPackets = [] := hkept.unbuffered (by simp [hpending])
      unfold State.recv
      split
      · exact ⟨_, rfl⟩
      split
      · exact ⟨_, rfl⟩
      · simp only [hempty, hpending]
        exact ⟨_, rfl⟩
  · cases hstep

/-- Datagrams are neither lost nor duplicated, merged, split or reordered, whatever fibers
receive and give up in whatever order, and whatever libuv calls back with. -/
theorem datagrams_preserved (run : List Action) (state : State)
    (hrun : machine.run run initial = some state) :
    Preserved state (machine.trace State.emits run initial) := by
  have hkept := kept_of_run hrun
  refine ⟨hkept.stream, hkept.records, ?_, ?_, ?_⟩
  · intro id hcall packet hmem
    have hvalue := (hkept.records.2 id packet).mp hmem
    simp [hcall, Call.value] at hvalue
  · intro bytes next hstep
    simp only [State.step, Option.ite_none_right_eq_some, Option.some.injEq] at hstep
    exact hstep.2.symm
  · intro pending id timed address rc next hpending hstep
    exact hkept.second hpending hstep

/-- A source with the port 7. -/
def source : SockAddr := .inet (some "127.0.0.1") 0 7

/-- A receive gives up, another one gets a datagram without bytes while a third one is
turned away, and the next one gets two bytes. -/
def emptyAndShort : List Action :=
  [.recv 0 true 64 0, .resume 0 true, .recv 1 true 64 0, .onUdpRecv 0 [] none,
    .recv 2 false 80 0, .onUdpRecv 0 [] (some source), .resume 1 true, .recv 3 false 64 0,
    .onUdpRecv 2 [104, 105] (some source), .resume 3 false]

theorem datagrams_preserved_emptyAndShort :
    ∃ state, Preserved state (machine.trace State.emits emptyAndShort initial) ∧
      receipts (machine.trace State.emits emptyAndShort initial) =
        [(1, ⟨[], "127.0.0.1", 7⟩), (3, ⟨[104, 105], "127.0.0.1", 7⟩)] :=
  ⟨_, datagrams_preserved emptyAndShort _ rfl, rfl⟩

end Fiberuv.Udp
