import Fiberuv.Ipc.Grammar

/-! # Frame alignment after a failure

A call that fails with part of a frame transferred leaves its descriptor inside that frame,
and the channel does not remember it: the next call in that direction starts with a length
field there. As long as no call fails in that position, unless nothing is left to be read,
every call ends on a frame boundary.
-/

namespace Fiberuv.Ipc

open Foundation

/-- The bytes are complete frames. -/
def Boundary (bytes : Bytes) : Prop :=
  ∃ payloads : List Bytes, (∀ payload ∈ payloads, payload.length < 256 ^ 8) ∧
    bytes = wire 8 payloads

theorem boundary_nil : Boundary [] :=
  ⟨[], by simp, rfl⟩

theorem Boundary.frame {bytes payload : Bytes} (hbytes : Boundary bytes)
    (hpayload : payload.length < 256 ^ 8) : Boundary (bytes ++ frame 8 payload) := by
  obtain ⟨payloads, hbound, rfl⟩ := hbytes
  refine ⟨payloads ++ [payload], ?_, by simp [wire]⟩
  simpa [or_imp, forall_and] using ⟨hbound, hpayload⟩

namespace Sender

/-- After a send that failed inside a frame every later one fails. -/
def Aligned (sender : Sender) : Prop :=
  ∀ (i j : Nat) (first second : Except Error Bool × Bytes), i < j →
    sender.sent[i]? = some first → sender.sent[j]? = some second →
      first.1 ≠ .ok true → Boundary first.2 ∨ second.1 ≠ .ok true

/-- A request fails only for the first byte of a frame. -/
def Intact (sender : Sender) : WriteMove → Prop
  | .fails outcome => outcome.retries = true ∨ ∀ sending, sender.sending = some sending →
      sending.part = .length ∧ sending.offset = 0
  | _ => True

/-- Every send has ended on a frame boundary, and the one in progress started on one. -/
structure Sound (sender : Sender) : Prop where
  sent : ∀ entry ∈ sender.sent, Boundary entry.2
  idle : sender.sending = none → Boundary sender.written
  sending : ∀ sending, sender.sending = some sending → ∃ base part, Boundary base ∧
    sender.written = base ++ part ∧
      part ++ sending.state.unsent sending.payload = frame 8 sending.payload.bytes ∧
      sending.state.Healthy sending.payload

variable {sender next : Sender}

theorem Sound.aligned (hsound : Sound sender) : sender.Aligned :=
  fun _ _ _ _ _ hfirst _ _ => .inl (hsound.sent _ (List.mem_of_getElem? hfirst))

/-- A send ends on a frame boundary. -/
theorem Sound.finish (hsound : Sound sender) {outbox : List Payload} {written : Bytes}
    (hboundary : Boundary written) (payload : Payload) (result : Except Error Bool) :
    Sound ({ sender with outbox := outbox, written := written }.settle payload
      (.finished result)) := by
  refine ⟨?_, fun _ => hboundary, by simp [Sender.settle]⟩
  intro entry hentry
  rcases List.mem_append.mp hentry with hold | hnew
  · exact hsound.sent entry hold
  · rw [List.mem_singleton.mp hnew]
    exact hboundary

/-- A send that goes on, or ends with its frame written. -/
theorem Sound.settle {payload : Payload} {state : SendState} {base part : Bytes}
    {outbox : List Payload} (hsound : Sound sender) (hbase : Boundary base)
    (hframe : part ++ state.unsent payload = frame 8 payload.bytes)
    (hhealthy : state.Healthy payload) :
    Sound ({ sender with outbox := outbox, written := base ++ part }.settle payload state) := by
  cases state with
  | writing which offset =>
      refine ⟨hsound.sent, by simp [Sender.settle], ?_⟩
      rintro sending ⟨⟩
      exact ⟨base, part, hbase, rfl, hframe, hhealthy⟩
  | finished result =>
      have hpart : part = frame 8 payload.bytes := by simpa [SendState.unsent] using hframe
      have hfits := payload.fits
      have hboundary : Boundary (base ++ part) := by
        rw [hpart]
        exact hbase.frame (by omega)
      exact hsound.finish hboundary _ _

/-- A request that fails for good ends the send. -/
theorem sendBlobNext_fails {outcome : Outcome} (hidle : outcome.idle = true)
    (hretries : outcome.retries = false) (payload : Payload) (part : Part) (offset : Nat) :
    ∃ result, sendBlobNext payload part offset outcome = .finished result := by
  have hprogress : (∃ error, writeExactNext (payload.part part).length offset outcome =
      .threw error) ∨ writeExactNext (payload.part part).length offset outcome =
        .returned false := by
    obtain ⟨rc, rfl⟩ | ⟨code, rfl, hcode, hretry⟩ := Outcome.failed_cases hidle hretries
    · exact .inl ⟨_, rfl⟩
    · simp only [writeExactNext, if_neg hcode, if_neg hretry]
      split
      · exact .inr rfl
      · exact .inl ⟨_, rfl⟩
  rcases hprogress with ⟨error, hthrew⟩ | hreturned
  · exact ⟨.error error, by cases part <;> simp [sendBlobNext, hthrew, sendAfter]⟩
  · exact ⟨.ok false, by cases part <;> simp [sendBlobNext, hreturned, sendAfter]⟩

theorem step_sound {move : WriteMove} (hsound : Sound sender) (hintact : Intact sender move)
    (hstep : sender.step move = some next) : Sound next := by
  cases move with
  | send =>
      simp only [step] at hstep
      split at hstep
      next payload rest hidle houtbox =>
          obtain rfl := Option.some.inj hstep
          have hsettled : Sound ({ sender with
              outbox := rest
              written := sender.written ++ [] }.settle payload (.writing .length 0)) :=
            hsound.settle (hsound.idle hidle) (by simp [SendState.unsent, frame])
              (by simp [SendState.Healthy, Payload.part])
          rw [sendBlob_valid]
          simpa using hsettled
      next => exact absurd hstep (by simp)
  | wrote count =>
      simp only [step] at hstep
      split at hstep
      next sending hsending =>
          simp only [Option.ite_none_right_eq_some, Option.some.injEq] at hstep
          obtain ⟨⟨hpos, hoffered⟩, rfl⟩ := hstep
          obtain ⟨base, part, hbase, hwritten, hframe, -⟩ := hsound.sending sending hsending
          obtain ⟨hunsent, hhealthy⟩ := sending.wrote hpos hoffered
          rw [hwritten, List.append_assoc]
          refine hsound.settle hbase ?_ hhealthy
          rw [List.append_assoc, hunsent]
          exact hframe
      next => exact absurd hstep (by simp)
  | fails outcome =>
      simp only [step] at hstep
      split at hstep
      next sending hsending =>
          simp only [Option.ite_none_right_eq_some, Option.some.injEq] at hstep
          obtain ⟨hidle, rfl⟩ := hstep
          cases hretries : outcome.retries with
          | true =>
              obtain ⟨code, rfl, hretry⟩ := Outcome.retry_of_retries hretries
              rw [sendBlobNext_retry _ hretry]
              have hsame : sender.settle sending.payload
                  (.writing sending.part sending.offset) = sender := by
                simp only [Sender.settle]
                rw [← hsending]
              rw [hsame]
              exact hsound
          | false =>
              obtain ⟨result, hfinished⟩ := sendBlobNext_fails hidle hretries sending.payload
                sending.part sending.offset
              obtain ⟨base, part, hbase, hwritten, hframe, -⟩ := hsound.sending sending hsending
              -- A failure that is not retried is allowed before the first byte only, and
              -- there the written bytes still end at a boundary.
              obtain ⟨hpart, hoffset⟩ : sending.part = .length ∧ sending.offset = 0 := by
                rcases hintact with hretry | hfirst
                · simp [hretries] at hretry
                · exact hfirst sending hsending
              have hnothing : part = [] := by
                rw [Sending.state, hpart, hoffset] at hframe
                simpa [SendState.unsent, frame] using hframe
              have hboundary : Boundary sender.written := by
                rw [hwritten, hnothing, List.append_nil]
                exact hbase
              rw [hfinished]
              exact hsound.finish hboundary _ _
      next => exact absurd hstep (by simp)

end Sender

/-- The receive returned no frame: it threw, or returned `nullopt`. -/
def NoFrame (result : Except Error (Option Bytes)) : Prop :=
  ∀ frame, result ≠ .ok (some frame)

theorem RecvCall.unpack_noFrame {result : Except Error (Option Bytes)} (hresult : NoFrame result)
    (call : RecvCall) : NoFrame (call.unpack result) := by
  cases call with
  | stream => exact hresult
  | typed size =>
      rcases result with error | frame | frame
      · simp [NoFrame, unpack]
      · simp [NoFrame, unpack]
      · exact absurd rfl (hresult frame)

namespace Receiver

/-- After a receive that threw inside a frame no later one returns a frame, and a length
field is read only from a frame boundary. -/
structure Aligned (receiver : Receiver) : Prop where
  failed : ∀ (i j : Nat) (first second : Except Error (Option Bytes) × Bytes), i < j →
    receiver.received[i]? = some first → receiver.received[j]? = some second →
      (∃ error, first.1 = .error error) → Boundary first.2 ∨ NoFrame second.1
  lengthField : ∀ call got, receiver.receiving = some (call, .length got) → got ≠ [] →
    ∃ base, Boundary base ∧ receiver.consumed = base ++ got

/-- While bytes are still to come, a request fails only for the first byte of a frame, and
every payload vector that is not empty can be allocated. -/
def Intact (receiver : Receiver) : ReadMove → Prop
  | .recv => True
  | .read count allocates => allocates = true ∨ receiver.unread.drop count = [] ∨
      ∀ call got, receiver.receiving = some (call, .length got) →
        (got ++ receiver.unread.take count).length = 8 →
        leDecode (got ++ receiver.unread.take count) = 0
  | .fails outcome => outcome.retries = true ∨ receiver.unread = [] ∨ receiver.held = []

/-- Every receive has ended on a frame boundary, and the one in progress started on one. -/
structure InStep (receiver : Receiver) : Prop where
  base : ∃ base, Boundary base ∧ receiver.consumed = base ++ receiver.held
  received : ∀ entry ∈ receiver.received, Boundary entry.2
  waiting : ∀ call state, receiver.receiving = some (call, state) → state.Waiting

/-- All bytes have been consumed, and no receive has returned a frame since one has ended
inside a frame. -/
structure Spent (receiver : Receiver) : Prop where
  unread : receiver.unread = []
  receiving : ∀ call state, receiver.receiving = some (call, state) → state = .length []
  received : ∃ before after, receiver.received = before ++ after ∧
    (∀ entry ∈ before, Boundary entry.2) ∧ ∀ entry ∈ after, NoFrame entry.1

variable {receiver next : Receiver} {call : RecvCall} {state : RecvState}

theorem InStep.aligned (hstep : InStep receiver) : receiver.Aligned where
  failed := fun _ _ _ _ _ hfirst _ _ => .inl (hstep.received _ (List.mem_of_getElem? hfirst))
  lengthField := by
    intro call got hreceiving _
    obtain ⟨base, hbase, hconsumed⟩ := hstep.base
    exact ⟨base, hbase, by simpa [held, hreceiving, RecvState.held] using hconsumed⟩

theorem Spent.aligned (hspent : Spent receiver) : receiver.Aligned where
  failed := by
    intro i j first second hlt hfirst hsecond _
    obtain ⟨before, after, hreceived, hbefore, hafter⟩ := hspent.received
    rw [hreceived] at hfirst hsecond
    by_cases hi : i < before.length
    · rw [List.getElem?_append_left hi] at hfirst
      exact .inl (hbefore first (List.mem_of_getElem? hfirst))
    · rw [List.getElem?_append_right (by omega)] at hsecond
      exact .inr (hafter second (List.mem_of_getElem? hsecond))
  lengthField := by
    intro call got hreceiving hne
    have hstate := hspent.receiving call _ hreceiving
    exact absurd (RecvState.length.inj hstate) hne

/-- A receive goes on. -/
theorem InStep.keep {unread consumed base : Bytes} (hstep : InStep receiver)
    (hbase : Boundary base) (hconsumed : consumed = base ++ state.held)
    (hwaiting : state.Waiting) :
    InStep ({ receiver with unread := unread, consumed := consumed }.settle call state) := by
  have hsettle : { receiver with unread := unread, consumed := consumed }.settle call state =
      { receiver with
        unread := unread
        consumed := consumed
        receiving := some (call, state) } := by
    cases state with
    | length got => rfl
    | payload size got => rfl
    | finished result => exact hwaiting.elim
  rw [hsettle]
  refine ⟨⟨base, hbase, hconsumed⟩, hstep.received, ?_⟩
  rintro other after ⟨⟩
  exact hwaiting

/-- A receive ends on a frame boundary. -/
theorem InStep.finish {unread consumed : Bytes} {result : Except Error (Option Bytes)}
    (hstep : InStep receiver) (hconsumed : Boundary consumed) :
    InStep ({ receiver with unread := unread, consumed := consumed }.settle call
      (.finished result)) := by
  refine ⟨⟨consumed, hconsumed, by simp [settle, held]⟩, ?_, by simp [settle]⟩
  intro entry hentry
  rcases List.mem_append.mp hentry with hold | hnew
  · exact hstep.received entry hold
  · rw [List.mem_singleton.mp hnew]
    exact hconsumed

/-- A receive ends without a frame when nothing is left to be read. -/
theorem InStep.spend {unread consumed : Bytes} {result : Except Error (Option Bytes)}
    (hstep : InStep receiver) (hunread : unread = []) (hresult : NoFrame result) :
    Spent ({ receiver with unread := unread, consumed := consumed }.settle call
      (.finished result)) := by
  refine ⟨hunread, by simp [settle], receiver.received, _, rfl, hstep.received, ?_⟩
  simpa using RecvCall.unpack_noFrame hresult call

theorem Spent.finish {result : Except Error (Option Bytes)} (hspent : Spent receiver)
    (hresult : NoFrame result) : Spent (receiver.settle call (.finished result)) := by
  obtain ⟨before, after, hreceived, hbefore, hafter⟩ := hspent.received
  refine ⟨hspent.unread, by simp [settle],
    before, after ++ [(call.unpack result, receiver.consumed)], ?_, hbefore, ?_⟩
  · simp [settle, hreceived]
  · intro entry hentry
    rcases List.mem_append.mp hentry with hold | hnew
    · exact hafter entry hold
    · rw [List.mem_singleton.mp hnew]
      exact RecvCall.unpack_noFrame hresult call

/-- The length field has been read, and the payload vector is allocated or not. -/
theorem InStep.lengthRead (hstep : InStep receiver) {base field unread : Bytes} {allocates : Bool}
    (hbase : Boundary base) (hfield : field.length = 8)
    (hintact : allocates = true ∨ unread = [] ∨ leDecode field = 0) :
    InStep ({ receiver with unread := unread, consumed := base ++ field }.settle call
        (recvPayload (fun _ => allocates) (leDecode field))) ∨
      Spent ({ receiver with unread := unread, consumed := base ++ field }.settle call
        (recvPayload (fun _ => allocates) (leDecode field))) := by
  have hsize : leDecode field < 2 ^ 64 := by
    have hdecode := leDecode_lt field
    rw [hfield] at hdecode
    omega
  have hencoded : leEncode 8 (leDecode field) = field := by
    have hfieldOf := leEncode_leDecode field
    rwa [hfield] at hfieldOf
  -- An empty payload leaves the descriptor on a boundary, whatever the call returns.
  have hempty : leDecode field = 0 → Boundary (base ++ field) := by
    intro hzero
    have hframe : field = frame 8 [] := by simpa [frame, hzero] using hencoded.symm
    rw [hframe]
    exact hbase.frame (by simp)
  rw [recvPayload, if_neg (by omega)]
  cases allocates with
  | false =>
      rw [if_pos (by simp)]
      rcases hintact with hallocated | rfl | hzero
      · simp at hallocated
      · exact .inr (hstep.spend rfl (by simp [NoFrame]))
      · exact .inl (hstep.finish (hempty hzero))
  | true =>
      rw [if_neg (by simp)]
      split
      next hzero => exact .inl (hstep.finish (hempty hzero))
      next hne =>
        refine .inl (hstep.keep hbase ?_ ⟨Nat.pos_of_ne_zero hne, hsize⟩)
        simp [RecvState.held, hencoded]

theorem InStep.read (hstep : InStep receiver) {count size offset : Nat} {allocates : Bool}
    (hintact : Intact receiver (.read count allocates))
    (hreceiving : receiver.receiving = some (call, state))
    (hrequest : state.request = some (size, offset)) (hpos : 0 < count)
    (hchunk : count ≤ size - offset) (hunread : count ≤ receiver.unread.length) :
    InStep ((receiver.advance count).settle call (recvBlobNext (fun _ => allocates)
        (receiver.unread.take count) (.result count) state)) ∨
      Spent ((receiver.advance count).settle call (recvBlobNext (fun _ => allocates)
        (receiver.unread.take count) (.result count) state)) := by
  obtain ⟨base, hbase, hconsumed⟩ := hstep.base
  have hwaiting := hstep.waiting call state hreceiving
  have hheld : receiver.held = state.held := by simp [held, hreceiving]
  have hlength : (receiver.unread.take count).length = count := by simpa using hunread
  rw [hheld] at hconsumed
  have hadvance : receiver.advance count = { receiver with
      unread := receiver.unread.drop count
      consumed := base ++ (state.held ++ receiver.unread.take count) } := by
    simp [advance, hconsumed]
  rw [hadvance]
  cases state with
  | length got =>
      obtain ⟨rfl, rfl⟩ := Prod.mk.inj (Option.some.inj hrequest)
      have hgot : got.length < 8 := hwaiting
      have hnext := recvBlobNext_length (fun _ => allocates) got (receiver.unread.take count)
        (by omega)
      rw [hlength] at hnext
      rw [hnext]
      split
      next hmore => exact .inl (hstep.keep hbase rfl hmore)
      next hdone =>
        have hfield : (got ++ receiver.unread.take count).length = 8 := by
          rw [List.length_append, hlength] at hdone ⊢
          omega
        refine hstep.lengthRead hbase hfield ?_
        rcases hintact with hallocated | hlast | hzero
        · exact .inl hallocated
        · exact .inr (.inl hlast)
        · exact .inr (.inr (hzero call got hreceiving hfield))
  | payload total got =>
      obtain ⟨rfl, rfl⟩ := Prod.mk.inj (Option.some.inj hrequest)
      obtain ⟨hgot, hsize⟩ : got.length < total ∧ total < 2 ^ 64 := hwaiting
      have hnext := recvBlobNext_payload (fun _ => allocates) total got
        (receiver.unread.take count) (by omega)
      rw [hlength] at hnext
      rw [hnext]
      split
      next hmore =>
        exact .inl (hstep.keep hbase (by simp [RecvState.held]) ⟨hmore, hsize⟩)
      next hdone =>
        have hfull : (got ++ receiver.unread.take count).length = total := by
          rw [List.length_append, hlength] at hdone ⊢
          omega
        refine .inl (hstep.finish ?_)
        have hframe : RecvState.held (.payload total got) ++ receiver.unread.take count =
            frame 8 (got ++ receiver.unread.take count) := by
          simp only [RecvState.held, frame, hfull, List.append_assoc]
        rw [hframe]
        exact hbase.frame (by omega)
  | finished result => exact hwaiting.elim

theorem step_intact {move : ReadMove} (hstate : InStep receiver ∨ Spent receiver)
    (hintact : Intact receiver move) (hmove : receiver.step move = some next) :
    InStep next ∨ Spent next := by
  cases step_effect hmove with
  | @recv call inbox hidle hinbox =>
      rcases hstate with hstep | hspent
      · refine .inl ⟨?_, hstep.received, ?_⟩
        · simpa [held, hidle, RecvState.held] using hstep.base
        · rintro other state ⟨⟩
          simp [RecvState.Waiting]
      · refine .inr ⟨hspent.unread, ?_, hspent.received⟩
        rintro other state ⟨⟩
        rfl
  | @read call state count size offset allocates hreceiving hrequest hpos hchunk hunread =>
      rcases hstate with hstep | hspent
      · exact hstep.read hintact hreceiving hrequest hpos hchunk hunread
      · rw [hspent.unread] at hunread
        simp only [List.length_nil] at hunread
        omega
  | @fails call state outcome hreceiving hidle =>
      have hwaiting : state.Waiting := by
        rcases hstate with hstep | hspent
        · exact hstep.waiting call state hreceiving
        · rw [hspent.receiving call state hreceiving]
          simp [RecvState.Waiting]
      cases hretries : outcome.retries with
      | true =>
          obtain ⟨code, rfl, hretry⟩ := Outcome.retry_of_retries hretries
          rw [recvBlobNext_retry _ hretry, settle_receiving hreceiving hwaiting]
          exact hstate
      | false =>
          obtain ⟨result, hfinished, hresult⟩ :=
            recvBlobNext_fails hidle hretries (fun _ => true) state
          have hnone : NoFrame result := by
            rcases hresult with hnone | rfl
            · exact hnone
            · exact hwaiting.elim
          rw [hfinished]
          rcases hstate with hstep | hspent
          · obtain ⟨base, hbase, hconsumed⟩ := hstep.base
            rcases hintact with hretry | hempty | hheld
            · simp [hretries] at hretry
            · exact .inr (hstep.spend hempty hnone)
            · have hboundary : Boundary receiver.consumed := by
                rw [hconsumed, hheld, List.append_nil]
                exact hbase
              exact .inl (hstep.finish hboundary)
          · exact .inr (hspent.finish hnone)

end Receiver

namespace Channel

/-- After a call that failed inside a frame, every later call in its direction fails. -/
def Aligned (channel : Channel) : Prop :=
  channel.sender.Aligned ∧ channel.receiver.Aligned

def Intact (channel : Channel) : ChannelMove → Prop
  | .write move => channel.sender.Intact move
  | .read move => channel.receiver.Intact move

/-- What the two directions keep while no call fails inside a frame. -/
def Sound (channel : Channel) : Prop :=
  channel.sender.Sound ∧ (channel.receiver.InStep ∨ channel.receiver.Spent)

theorem sound_start (payloads : List Payload) (bytes : Bytes) (calls : List RecvCall) :
    (Channel.start payloads bytes calls).Sound := by
  refine ⟨⟨by simp [Channel.start], fun _ => boundary_nil, by simp [Channel.start]⟩, .inl ?_⟩
  refine ⟨⟨[], boundary_nil, ?_⟩, ?_, ?_⟩
  · simp [Channel.start, Receiver.start, Receiver.held]
  · simp [Channel.start, Receiver.start]
  · simp [Channel.start, Receiver.start]

theorem step_sound {channel next : Channel} {move : ChannelMove} (hsound : channel.Sound)
    (hintact : channel.Intact move) (hstep : channel.step move = some next) : next.Sound := by
  cases move with
  | write move =>
      obtain ⟨sender, hsender, rfl⟩ := Option.map_eq_some_iff.mp hstep
      exact ⟨Sender.step_sound hsound.1 hintact hsender, hsound.2⟩
  | read move =>
      obtain ⟨receiver, hreceiver, rfl⟩ := Option.map_eq_some_iff.mp hstep
      exact ⟨hsound.1, Receiver.step_intact hsound.2 hintact hreceiver⟩

end Channel

/-- In every run in which no call fails inside a frame, the channel stays aligned. -/
theorem aligned_of_intact (payloads : List Payload) (bytes : Bytes) (calls : List RecvCall)
    (moves : List ChannelMove) (final : Channel)
    (hmeets : channel.Meets Channel.Intact moves (Channel.start payloads bytes calls))
    (hrun : channel.run moves (Channel.start payloads bytes calls) = some final) :
    final.Aligned := by
  have hkeep : ∀ (before : Channel) move next, before.Sound → before.Intact move →
      channel.step before move = some next → next.Sound :=
    fun _ _ _ hsound hintact hstep => Channel.step_sound hsound hintact hstep
  have hsound := Machine.run_invariant hkeep moves _ final
    (Channel.sound_start payloads bytes calls) hmeets hrun
  refine ⟨hsound.1.aligned, ?_⟩
  rcases hsound.2 with hstep | hspent
  · exact hstep.aligned
  · exact hspent.aligned

/-- A length field that declares 2^63 bytes, then a frame of one byte. -/
def hugeLength : Bytes :=
  [0, 0, 0, 0, 0, 0, 0, 128, 1, 0, 0, 0, 0, 0, 0, 0, 42]

/-- The first receive cannot allocate its payload, the second one reads what follows. -/
def pastHugeLength : List ChannelMove :=
  [.read .recv, .read (.read 8 false), .read .recv, .read (.read 8 true), .read (.read 1 true)]

/-- The bytes of the payload are parsed as a length field, and a frame is returned. -/
theorem misaligned_pastHugeLength :
    ¬ ∀ (payloads : List Payload) (bytes : Bytes) (calls : List RecvCall)
      (moves : List ChannelMove) (final : Channel),
      channel.run moves (Channel.start payloads bytes calls) = some final → final.Aligned := by
  intro halwaysAligned
  have haligned := halwaysAligned [] hugeLength [.stream, .stream] pastHugeLength _ rfl
  have hreceived := haligned.2.failed 0 1 (.error .lengthError, hugeLength.take 8)
    (.ok (some [42]), hugeLength) (by decide) rfl rfl ⟨.lengthError, rfl⟩
  rcases hreceived with ⟨payloads, hbound, hwire⟩ | hnone
  · cases payloads with
    | nil => simp [wire, hugeLength] at hwire
    | cons payload rest =>
        have hlength := congrArg List.length hwire
        simp only [wire_cons, frame, hugeLength, List.length_append, leEncode_length,
          List.length_take, List.length_cons, List.length_nil] at hlength
        have hempty : payload = [] := List.eq_nil_of_length_eq_zero (by omega)
        rw [wire_cons, hempty] at hwire
        have hhead := congrArg (List.take 8) hwire
        rw [List.take_append_of_le_length (by simp [frame])] at hhead
        exact absurd hhead (by decide)
  · exact hnone [42] rfl

/-- A send that fails before its first byte and one that succeeds; a receive that meets the
end of the bytes inside a frame and one after it. -/
def intactRun : List ChannelMove :=
  [.write .send, .write (.fails (.result uvEpipe)), .write .send, .write (.wrote 8),
    .write (.wrote 1), .read .recv, .read (.read 3 true), .read (.fails (.result 0)), .read .recv,
    .read (.fails (.result 0))]

def onePayload : Payload :=
  .ofByte 7

theorem aligned_intactRun :
    ∃ final, channel.run intactRun
        (Channel.start [onePayload, onePayload] [1, 0, 0] [.stream, .stream]) = some final ∧
      final.sender.sent.map Prod.fst = [.ok false, .ok true] ∧
      final.receiver.received.map Prod.fst = [.error truncatedPayload, .ok none] ∧
      final.Aligned := by
  have hmeets : channel.Meets Channel.Intact intactRun
      (Channel.start [onePayload, onePayload] [1, 0, 0] [.stream, .stream]) := by
    refine Machine.meets_cons trivial rfl (Machine.meets_cons ?_ rfl
      (Machine.meets_cons trivial rfl (Machine.meets_cons trivial rfl
        (Machine.meets_cons trivial rfl (Machine.meets_cons trivial rfl
          (Machine.meets_cons (.inl rfl) rfl (Machine.meets_cons (.inr (.inl rfl)) rfl
            (Machine.meets_cons trivial rfl
              (Machine.meets_cons (.inr (.inl rfl)) rfl trivial)))))))))
    refine .inr ?_
    rintro sending ⟨⟩
    exact ⟨rfl, rfl⟩
  exact ⟨_, rfl, rfl, rfl, aligned_of_intact _ _ _ intactRun _ hmeets rfl⟩

end Fiberuv.Ipc
