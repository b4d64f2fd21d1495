import Fiberuv.Ipc.Pair

/-! # Round trip through a pair of process channels

The bytes that are on their way (taken by the receive in progress, in the pipe, or
still to be written) are always the stream of the payloads that have not been
received. This holds for every split of the writes and of the reads, and neither end
needs to know how the other one splits. Each direction has its own bytes, so what
happens in the other one does not matter.
-/

namespace Fiberuv.Ipc

open Foundation

/-- The `i`-th receive returns the `i`-th payload, or `nullopt` past the last one. -/
def expected (payloads : List Payload) (count : Nat) : List (Except Error (Option Bytes)) :=
  (List.range count).map fun i => .ok (payloads[i]?.map Payload.bytes)

theorem expected_succ (payloads : List Payload) (count : Nat) :
    expected payloads (count + 1) =
      expected payloads count ++ [.ok (payloads[count]?.map Payload.bytes)] := by
  simp [expected, List.range_succ]

/-- Every receive is of the type of the payload it meets. -/
def Fit (calls : List RecvCall) (payloads : List Payload) : Prop :=
  ∀ (i : Nat) (call : RecvCall) (payload : Payload),
    calls[i]? = some call → payloads[i]? = some payload → call.Accepts payload

theorem next_of_drop {α : Type} {list rest : List α} {first : α} {count : Nat}
    (hdrop : list.drop count = first :: rest) :
    list[count]? = some first ∧ list.drop (count + 1) = rest := by
  refine ⟨?_, ?_⟩
  · have := congrArg (fun list => list[0]?) hdrop
    simpa using this
  · have := congrArg List.tail hdrop
    simpa [Nat.add_comm] using this

namespace RecvState

/-- A read request is outstanding only for a nonempty chunk. -/
def Waiting : RecvState → Prop
  | .length got => got.length < 8
  | .payload size got => got.length < size ∧ size < 2 ^ 64
  | .finished _ => False

/-- A receive that waits has a request for at least one byte under way. -/
theorem request_of_waiting {state : RecvState} (hwaiting : state.Waiting) :
    ∃ size offset, state.request = some (size, offset) ∧ 1 ≤ chunk size offset := by
  cases state with
  | length got =>
      have hgot : got.length < 8 := hwaiting
      refine ⟨8, got.length, rfl, ?_⟩
      simp only [chunk, kChunkBytes]
      omega
  | payload size got =>
      have hgot : got.length < size := hwaiting.1
      refine ⟨size, got.length, rfl, ?_⟩
      simp only [chunk, kChunkBytes]
      omega
  | finished result => exact hwaiting.elim

end RecvState

namespace Direction

def unsent (direction : Direction) : Bytes :=
  (direction.sending.map fun sending => sending.state.unsent sending.payload).getD []

def held (direction : Direction) : Bytes :=
  (direction.receiving.map fun receiving => receiving.2.held).getD []

/-- The calls of the receiver that have not returned, in order. -/
def pendingCalls (direction : Direction) : List RecvCall :=
  (direction.receiving.map Prod.fst).toList ++ direction.inbox

/-- What holds of a direction while its receiving endpoint is open. -/
structure Sound (payloads : List Payload) (calls : List RecvCall) (sender : Phase)
    (direction : Direction) : Prop where
  sent : ∀ result ∈ direction.sent, result = .ok true
  sends : direction.sent.length + direction.sending.toList.length + direction.outbox.length =
    payloads.length
  received : direction.received = expected payloads direction.received.length
  pending : calls.drop direction.received.length = direction.pendingCalls
  inTransit : stream (payloads.drop direction.received.length) =
    direction.held ++ direction.pipe ++ direction.unsent ++ stream direction.outbox
  writing : ∀ sending, direction.sending = some sending → sending.state.Healthy sending.payload
  reading : ∀ call state, direction.receiving = some (call, state) → state.Waiting
  senderOpen : sender ≠ .opened → direction.outbox = [] ∧ direction.sending = none
  count : direction.received.length ≤ calls.length
  ended : payloads.length < direction.received.length → sender = .closed

variable {host : Host} {payloads : List Payload} {calls : List RecvCall} {sender : Phase}
  {direction next : Direction}

theorem sound_initial (payloads : List Payload) (calls : List RecvCall) :
    Sound payloads calls .opened { outbox := payloads, inbox := calls } where
  sent := by simp
  sends := by simp
  received := rfl
  pending := rfl
  inTransit := by simp [held, unsent]
  writing := by simp
  reading := by simp
  senderOpen := by simp
  count := by simp
  ended := by simp

section Send

/-- A send that goes on or returns true keeps the bytes in transit. -/
theorem Sound.settleSend {payload : Payload} {state : SendState} {outbox : List Payload}
    {pipe : Bytes} (hsound : Sound payloads calls sender direction)
    (hsender : sender = .opened) (hhealthy : state.Healthy payload)
    (hsends : direction.sent.length + 1 + outbox.length = payloads.length)
    (htransit : pipe ++ state.unsent payload ++ stream outbox =
      direction.pipe ++ direction.unsent ++ stream direction.outbox) :
    Sound payloads calls sender
      ({ direction with outbox := outbox, pipe := pipe }.settleSend payload state) := by
  have hstream : stream (payloads.drop direction.received.length) =
      direction.held ++ pipe ++ state.unsent payload ++ stream outbox := by
    simpa [List.append_assoc] using hsound.inTransit.trans
      (by simpa [List.append_assoc] using congrArg (direction.held ++ ·) htransit.symm)
  cases state with
  | writing part offset =>
      refine { hsound with
        sends := by simpa [Direction.settleSend] using hsends
        inTransit := hstream
        writing := ?_
        senderOpen := fun hclosed => absurd hsender hclosed }
      rintro sending ⟨⟩
      exact hhealthy
  | finished result =>
      have hresult : result = .ok true := hhealthy
      refine { hsound with
        sent := ?_
        sends := by simpa [Direction.settleSend] using hsends
        inTransit := hstream
        writing := by simp [Direction.settleSend]
        senderOpen := fun hclosed => absurd hsender hclosed }
      intro other hother
      obtain hold | rfl : other ∈ direction.sent ∨ other = result := by
        simpa [Direction.settleSend] using hother
      · exact hsound.sent other hold
      · exact hresult

theorem Sound.opened_of_outbox (hsound : Sound payloads calls sender direction)
    {payload : Payload} {rest : List Payload} (houtbox : direction.outbox = payload :: rest) :
    sender = .opened := by
  by_contra hclosed
  simp [(hsound.senderOpen hclosed).1] at houtbox

theorem Sound.opened_of_sending (hsound : Sound payloads calls sender direction)
    {sending : Sending} (hsending : direction.sending = some sending) : sender = .opened := by
  by_contra hclosed
  simp [(hsound.senderOpen hclosed).2] at hsending

theorem Sound.send (hsound : Sound payloads calls sender direction)
    {payload : Payload} {rest : List Payload} (hidle : direction.sending = none)
    (houtbox : direction.outbox = payload :: rest) :
    Sound payloads calls sender ({ direction with outbox := rest }.settleSend payload
      (sendBlob sender.valid payload)) := by
  have hsender := hsound.opened_of_outbox houtbox
  have hstart : sendBlob sender.valid payload = .writing .length 0 := by
    rw [hsender]
    exact sendBlob_valid payload
  have hsends := hsound.sends
  rw [hstart]
  refine hsound.settleSend hsender ?_ ?_ ?_
  · simp [SendState.Healthy, Payload.part]
  · simp [hidle, houtbox] at hsends
    omega
  · simp [houtbox, unsent, hidle, SendState.unsent, frame]

theorem Sound.wrote (hsound : Sound payloads calls sender direction) {sending : Sending}
    {count : Nat} (hsending : direction.sending = some sending) (hpos : 0 < count)
    (hoffered : count ≤ sending.offered.length) :
    Sound payloads calls sender
      ({ direction with pipe := direction.pipe ++ sending.offered.take count }.settleSend
        sending.payload
        (sendBlobNext sending.payload sending.part sending.offset (.result count))) := by
  obtain ⟨hunsent, hhealthy⟩ := sending.wrote hpos hoffered
  have hsends := hsound.sends
  refine hsound.settleSend (hsound.opened_of_sending hsending) hhealthy ?_ ?_
  · simpa [hsending] using hsends
  · simp [unsent, hsending, ← hunsent]

end Send

section Receive

/-- A receive that goes on keeps the bytes in transit. -/
theorem Sound.keepReceiving {call : RecvCall} {inbox : List RecvCall} {state : RecvState}
    {pipe : Bytes} (hsound : Sound payloads calls sender direction) (hwaiting : state.Waiting)
    (hpending : direction.pendingCalls = call :: inbox)
    (htransit : state.held ++ pipe = direction.held ++ direction.pipe) :
    Sound payloads calls sender
      ({ direction with inbox := inbox, pipe := pipe }.settleRecv call state) := by
  have hsettle : { direction with inbox := inbox, pipe := pipe }.settleRecv call state =
      { direction with inbox := inbox, pipe := pipe, receiving := some (call, state) } := by
    cases state with
    | length got => rfl
    | payload size got => rfl
    | finished result => exact hwaiting.elim
  rw [hsettle]
  refine { hsound with
    pending := hsound.pending.trans hpending
    inTransit := ?_
    reading := ?_ }
  · rw [hsound.inTransit, ← htransit]
    rfl
  · rintro other state ⟨⟩
    exact hwaiting

/-- A receive that has consumed the frame of the next payload, or has met the end of
the stream, returns what is expected of it. -/
theorem Sound.finishReceiving {call : RecvCall} {inbox : List RecvCall} {pipe : Bytes}
    (hsound : Sound payloads calls sender direction)
    (hfit : Fit calls payloads)
    (hpending : direction.pendingCalls = call :: inbox)
    (hended : payloads[direction.received.length]? = none → sender = .closed)
    (hstream : stream (payloads.drop (direction.received.length + 1)) =
      pipe ++ direction.unsent ++ stream direction.outbox) :
    Sound payloads calls sender
      ({ direction with inbox := inbox, pipe := pipe }.settleRecv call
        (.finished (.ok (payloads[direction.received.length]?.map Payload.bytes)))) := by
  obtain ⟨hcall, htail⟩ := next_of_drop (hsound.pending.trans hpending)
  have hresult :
      call.unpack (.ok (payloads[direction.received.length]?.map Payload.bytes)) =
        .ok (payloads[direction.received.length]?.map Payload.bytes) := by
    cases hpayload : payloads[direction.received.length]? with
    | none => exact call.unpack_none
    | some payload => exact RecvCall.unpack_some (hfit _ _ _ hcall hpayload)
  simp only [Direction.settleRecv, hresult]
  refine { hsound with
    received := ?_
    pending := ?_
    inTransit := ?_
    reading := by simp
    count := ?_
    ended := ?_ }
  · have := hsound.received
    simp only [List.length_append, List.length_singleton, expected_succ]
    rw [← this]
  · simpa [pendingCalls] using htail
  · simpa [held, unsent] using hstream
  · have := (List.getElem?_eq_some_iff.mp hcall).1
    simp only [List.length_append, List.length_singleton]
    omega
  · intro hlength
    apply hended
    simp only [List.length_append, List.length_singleton] at hlength
    exact List.getElem?_eq_none (by omega)

theorem Sound.pending_of_receiving {call : RecvCall} {state : RecvState}
    (hreceiving : direction.receiving = some (call, state)) :
    direction.pendingCalls = call :: direction.inbox := by
  simp [pendingCalls, hreceiving]

theorem Sound.recv (hsound : Sound payloads calls sender direction) {call : RecvCall}
    {rest : List RecvCall} (hidle : direction.receiving = none)
    (hinbox : direction.inbox = call :: rest) :
    Sound payloads calls sender
      ({ direction with inbox := rest }.settleRecv call (recvBlob true)) := by
  have hstart : recvBlob true = .length [] := rfl
  rw [hstart]
  refine hsound.keepReceiving ?_ ?_ ?_
  · simp [RecvState.Waiting]
  · simp [pendingCalls, hidle, hinbox]
  · simp [RecvState.held, held, hidle]

/-- The frame whose length field has been read completely is the one of the next
payload, which then is read, or returned at once if it is empty. -/
theorem Sound.lengthRead (hsound : Sound payloads calls sender direction)
    (hfit : Fit calls payloads) (hmemory : ∀ payload ∈ payloads, host.memory payload.bytes.length)
    {call : RecvCall} {field pipe : Bytes}
    (hpending : direction.pendingCalls = call :: direction.inbox) (hfield : field.length = 8)
    (htransit : field ++ pipe = direction.held ++ direction.pipe) :
    Sound payloads calls sender ({ direction with pipe := pipe }.settleRecv call
      (recvPayload host.memory (leDecode field))) := by
  have hstream := hsound.inTransit
  rw [← htransit, List.append_assoc, List.append_assoc] at hstream
  obtain ⟨payload, rest, hdrop, hencode, hdecode, hsuffix⟩ := stream_length_field hstream hfield
  obtain ⟨hpayload, htail⟩ := next_of_drop hdrop
  have hfits := payload.fits
  have hallocated := hmemory payload (List.mem_of_getElem? hpayload)
  rw [hdecode, recvPayload, if_neg (by omega), if_neg (by simp [hallocated])]
  split
  next hempty =>
      have hnil : payload.bytes = [] := List.eq_nil_of_length_eq_zero hempty
      have hresult : some [] = payloads[direction.received.length]?.map Payload.bytes := by
        simp [hpayload, hnil]
      rw [hresult]
      refine hsound.finishReceiving hfit hpending (by simp [hpayload]) ?_
      rw [htail]
      simpa [hnil] using hsuffix.symm
  next hne =>
      refine hsound.keepReceiving ?_ hpending ?_
      · exact ⟨Nat.pos_of_ne_zero hne, hfits⟩
      · simpa [RecvState.held, ← hencode] using htransit

/-- The payload that has been read completely is the next one. -/
theorem Sound.payloadRead (hsound : Sound payloads calls sender direction)
    (hfit : Fit calls payloads) {call : RecvCall} {size : Nat} {got pipe : Bytes}
    (hpending : direction.pendingCalls = call :: direction.inbox) (hgot : got.length = size)
    (hsize : size < 2 ^ 64)
    (htransit : leEncode 8 size ++ got ++ pipe = direction.held ++ direction.pipe) :
    Sound payloads calls sender ({ direction with pipe := pipe }.settleRecv call
      (.finished (.ok (some got)))) := by
  have hstream := hsound.inTransit
  rw [← htransit] at hstream
  simp only [List.append_assoc] at hstream
  obtain ⟨payload, rest, hdrop, -, hdecode, hsuffix⟩ := stream_length_field hstream (by simp)
  rw [leDecode_leEncode 8 size (by simpa using hsize)] at hdecode
  obtain ⟨hbytes, hrest⟩ := List.append_inj hsuffix (by omega)
  obtain ⟨hpayload, htail⟩ := next_of_drop hdrop
  have hresult : some got = payloads[direction.received.length]?.map Payload.bytes := by
    simp [hpayload, hbytes]
  rw [hresult]
  refine hsound.finishReceiving hfit hpending (by simp [hpayload]) ?_
  rw [htail, ← hrest]
  simp

theorem Sound.read (hsound : Sound payloads calls sender direction) (hfit : Fit calls payloads)
    (hmemory : ∀ payload ∈ payloads, host.memory payload.bytes.length)
    {call : RecvCall} {state : RecvState} {count size offset : Nat}
    (hreceiving : direction.receiving = some (call, state))
    (hrequest : state.request = some (size, offset)) (hpos : 0 < count)
    (hchunk : count ≤ chunk size offset) (hpipe : count ≤ direction.pipe.length) :
    Sound payloads calls sender
      ({ direction with pipe := direction.pipe.drop count }.settleRecv call
        (recvBlobNext host.memory (direction.pipe.take count) (.result count) state)) := by
  have hpending := Sound.pending_of_receiving hreceiving
  have hwaiting := hsound.reading call state hreceiving
  have hheld : direction.held = state.held := by simp [held, hreceiving]
  have hcount : count ≤ size - offset := Nat.le_trans hchunk (Nat.min_le_right _ _)
  have hlength : (direction.pipe.take count).length = count := by
    simpa using hpipe
  cases state with
  | length got =>
      obtain ⟨rfl, rfl⟩ := Prod.mk.inj (Option.some.inj hrequest)
      have hgot : got.length < 8 := hwaiting
      have hnext := recvBlobNext_length host.memory got (direction.pipe.take count) (by omega)
      rw [hlength] at hnext
      have htransit : (got ++ direction.pipe.take count) ++ direction.pipe.drop count =
          direction.held ++ direction.pipe := by
        simp [hheld, RecvState.held]
      rw [hnext]
      split
      next hmore => exact hsound.keepReceiving hmore hpending htransit
      next hdone =>
          refine hsound.lengthRead hfit hmemory hpending ?_ htransit
          simp only [List.length_append, hlength] at hdone ⊢
          omega
  | payload total got =>
      obtain ⟨rfl, rfl⟩ := Prod.mk.inj (Option.some.inj hrequest)
      obtain ⟨hgot, hsize⟩ : got.length < total ∧ total < 2 ^ 64 := hwaiting
      have hnext := recvBlobNext_payload host.memory total got (direction.pipe.take count)
        (by omega)
      rw [hlength] at hnext
      have htransit : leEncode 8 total ++ (got ++ direction.pipe.take count) ++
          direction.pipe.drop count = direction.held ++ direction.pipe := by
        simp [hheld, RecvState.held]
      rw [hnext]
      split
      next hmore => exact hsound.keepReceiving ⟨hmore, hsize⟩ hpending htransit
      next hdone =>
          refine hsound.payloadRead hfit hpending ?_ hsize htransit
          simp only [List.length_append, hlength] at hdone ⊢
          omega
  | finished result => exact hwaiting.elim

/-- A receive that finds nothing left in transit waits for the frame after the last. -/
theorem Sound.drained (hsound : Sound payloads calls sender direction) {call : RecvCall}
    {state : RecvState} (hreceiving : direction.receiving = some (call, state))
    (hempty : direction.pipe = []) (houtbox : direction.outbox = [])
    (hidle : direction.sending = none) :
    state = .length [] ∧ payloads.length ≤ direction.received.length := by
  have hwaiting := hsound.reading call state hreceiving
  have hstream : stream (payloads.drop direction.received.length) = state.held := by
    simpa [held, unsent, hreceiving, hempty, hidle, houtbox] using hsound.inTransit
  have hbound : ∀ bytes ∈ (payloads.drop direction.received.length).map Payload.bytes,
      bytes.length < 256 ^ 8 := by
    intro bytes hbytes
    obtain ⟨payload, -, rfl⟩ := List.mem_map.mp hbytes
    simpa using payload.fits
  cases state with
  | length got =>
      have hnil : got = [] := by
        by_contra hne
        exact not_wire_of_short hne hwaiting hstream
      subst hnil
      exact ⟨rfl, List.drop_eq_nil_iff.mp (stream_eq_nil hstream)⟩
  | payload size got =>
      obtain ⟨hgot, hsize⟩ : got.length < size ∧ size < 2 ^ 64 := hwaiting
      exact absurd hstream
        (not_wire_of_incomplete rfl (by simpa using hsize) hbound (by decide) hgot)
  | finished result => exact hwaiting.elim

/-- The end of the stream is met only between two frames. -/
theorem Sound.readEnd (hsound : Sound payloads calls sender direction) (hfit : Fit calls payloads)
    {call : RecvCall} {state : RecvState} (hreceiving : direction.receiving = some (call, state))
    (hempty : direction.pipe = []) (hclosed : sender = .closed) :
    Sound payloads calls sender
      (direction.settleRecv call (recvBlobNext host.memory [] (.result 0) state)) := by
  have hpending := Sound.pending_of_receiving hreceiving
  obtain ⟨houtbox, hidle⟩ := hsound.senderOpen (by simp [hclosed])
  obtain ⟨rfl, hlength⟩ := hsound.drained hreceiving hempty houtbox hidle
  have hnone : payloads[direction.received.length]? = none := List.getElem?_eq_none hlength
  have hresult : recvBlobNext host.memory [] (.result 0) (.length []) =
      .finished (.ok (payloads[direction.received.length]?.map Payload.bytes)) := by
    rw [hnone]
    rfl
  rw [hresult]
  refine hsound.finishReceiving hfit hpending (fun _ => hclosed) ?_
  rw [List.drop_eq_nil_of_le (by omega), hempty, houtbox]
  simp [unsent, hidle]

end Receive

/-- Every step keeps a direction sound. -/
theorem step_sound (hsound : Sound payloads calls sender direction) (hfit : Fit calls payloads)
    (hmemory : ∀ payload ∈ payloads, host.memory payload.bytes.length) {move : Move}
    (hstep : direction.step host sender .opened move = some next) :
    Sound payloads calls sender next := by
  cases step_effect hstep with
  | send hidle houtbox => exact hsound.send hidle houtbox
  | wrote hsending _ hpos hoffered _ => exact hsound.wrote hsending hpos hoffered
  | writeRetry code => exact hsound
  | writeRefused _ hinvalid =>
      -- The receiving endpoint is open, so the kernel accepts bytes.
      simp [Phase.valid] at hinvalid
  | recv hidle hinbox => exact hsound.recv hidle hinbox
  | read hreceiving hrequest hpos hchunk hpipe =>
      exact hsound.read hfit hmemory hreceiving hrequest hpos hchunk hpipe
  | readRetry code hreceiving =>
      exact hsound.keepReceiving (hsound.reading _ _ hreceiving)
        (Sound.pending_of_receiving hreceiving) (by simp [held, hreceiving])
  | readEnd hreceiving hempty hclosed => exact hsound.readEnd hfit hreceiving hempty hclosed

end Direction

end Fiberuv.Ipc
