import Fiberuv.Ipc.Endpoint
import Fiberuv.Ipc.RoundTrip

/-! # The frame grammar

What the receives return depends only on the bytes on the descriptor, not on how they are
read: the complete frames in order, then the truncation error if the bytes end inside a
frame, and `nullopt` from there on. The reference is the parser of length-prefixed frames.

The bytes that the receive in progress holds, followed by those that are unread, are
always what is left of the byte string after the frames that were consumed.
-/

namespace Fiberuv.Ipc

open Foundation

/-- What the receive with this number has to return when the bytes are the frames of these
payloads and an incomplete rest. -/
def answer (payloads : List Bytes) (rest : Bytes) (index : Nat) (call : RecvCall) :
    Except Error (Option Bytes) :=
  match payloads[index]? with
  | some payload => call.unpack (.ok (some payload))
  | none => if index = payloads.length ∧ rest ≠ [] then .error truncatedPayload else .ok none

def answers (payloads : List Bytes) (rest : Bytes) (calls : List RecvCall) :
    List (Except Error (Option Bytes)) :=
  calls.mapIdx (answer payloads rest)

/-- What is left after so many receives. The one that meets the incomplete rest consumes
it. -/
def remaining (payloads : List Bytes) (rest : Bytes) (count : Nat) : Bytes :=
  if count ≤ payloads.length then wire 8 (payloads.drop count) ++ rest else []

/-- A read is interrupted, or it finds the end of file; other failures do not occur, and
every payload vector can be allocated. -/
def Ordinary (receiver : Receiver) : ReadMove → Prop
  | .recv => True
  | .read _ allocates => allocates = true
  | .fails outcome => outcome.retries = true ∨
      receiver.unread = [] ∧ (outcome = .result 0 ∨ outcome = .result uvEof)

def ReadMove.retries : ReadMove → Bool
  | .fails outcome => outcome.retries
  | _ => false

section Remaining

variable {payloads : List Bytes} {rest : Bytes} {count : Nat}

theorem remaining_some {payload : Bytes} (hpayload : payloads[count]? = some payload) :
    remaining payloads rest count = frame 8 payload ++ remaining payloads rest (count + 1) := by
  obtain ⟨hcount, hget⟩ := List.getElem?_eq_some_iff.mp hpayload
  have hdrop : payloads.drop count = payload :: payloads.drop (count + 1) := by
    rw [← hget]
    exact List.drop_eq_getElem_cons hcount
  rw [remaining, if_pos (by omega), remaining, if_pos (by omega), hdrop, wire_cons,
    List.append_assoc]

theorem remaining_none (hnone : payloads[count]? = none) :
    remaining payloads rest count = (if count = payloads.length then rest else []) ∧
      remaining payloads rest (count + 1) = [] := by
  have hcount : payloads.length ≤ count := List.getElem?_eq_none_iff.mp hnone
  refine ⟨?_, by rw [remaining, if_neg (by omega)]⟩
  rw [remaining]
  split
  next hle =>
    have heq : count = payloads.length := by omega
    simp [heq, wire]
  next hlt => rw [if_neg (by omega)]

theorem answer_some {payload : Bytes} (hpayload : payloads[count]? = some payload)
    (call : RecvCall) : answer payloads rest count call = call.unpack (.ok (some payload)) := by
  simp [answer, hpayload]

/-- A complete length field at the front belongs to the next payload, or to the incomplete
rest. -/
theorem remaining_field {field unread : Bytes} (hfield : field.length = 8)
    (hbytes : field ++ unread = remaining payloads rest count) :
    (∃ payload, payloads[count]? = some payload ∧ field = leEncode 8 payload.length ∧
        unread = payload ++ remaining payloads rest (count + 1)) ∨
      (payloads[count]? = none ∧ count = payloads.length ∧ rest = field ++ unread) := by
  cases hnext : payloads[count]? with
  | some payload =>
      rw [remaining_some hnext, frame, List.append_assoc] at hbytes
      obtain ⟨hhead, htail⟩ := List.append_inj hbytes (by simp [hfield])
      exact .inl ⟨payload, rfl, hhead, htail⟩
  | none =>
      rw [(remaining_none hnext).1] at hbytes
      split at hbytes
      next hend => exact .inr ⟨rfl, hend, hbytes.symm⟩
      next =>
        have hempty : field = [] := (List.append_eq_nil_iff.mp hbytes).1
        simp [hempty] at hfield

end Remaining

namespace Receiver

def held (receiver : Receiver) : Bytes :=
  (receiver.receiving.map fun receiving => receiving.2.held).getD []

def pendingCalls (receiver : Receiver) : List RecvCall :=
  (receiver.receiving.map Prod.fst).toList ++ receiver.inbox

/-- The receiver is where the grammar says it is. -/
structure Follows (payloads : List Bytes) (rest : Bytes) (calls : List RecvCall)
    (receiver : Receiver) : Prop where
  received : receiver.received.map Prod.fst =
    (answers payloads rest calls).take receiver.received.length
  pending : calls.drop receiver.received.length = receiver.pendingCalls
  bytes : receiver.held ++ receiver.unread =
    remaining payloads rest receiver.received.length
  waiting : ∀ call state, receiver.receiving = some (call, state) → state.Waiting

variable {payloads : List Bytes} {rest : Bytes} {calls : List RecvCall}
  {receiver next : Receiver} {call : RecvCall} {state : RecvState}

theorem follows_start (payloads : List Bytes) (rest : Bytes) (calls : List RecvCall) :
    Follows payloads rest calls (Receiver.start (wire 8 payloads ++ rest) calls) where
  received := by simp [Receiver.start]
  pending := by simp [Receiver.start, pendingCalls]
  bytes := by simp [Receiver.start, held, remaining]
  waiting := by simp [Receiver.start]

/-- A call that goes on holds what it has read. -/
theorem Follows.keep {inbox : List RecvCall} {unread consumed : Bytes}
    (hfollows : Follows payloads rest calls receiver) (hwaiting : state.Waiting)
    (hpending : receiver.pendingCalls = call :: inbox)
    (hbytes : state.held ++ unread = receiver.held ++ receiver.unread) :
    Follows payloads rest calls ({ receiver with
      inbox := inbox
      unread := unread
      consumed := consumed }.settle call state) := by
  have hsettle : { receiver with
      inbox := inbox
      unread := unread
      consumed := consumed }.settle call state = { receiver with
        inbox := inbox
        unread := unread
        consumed := consumed
        receiving := some (call, state) } := by
    cases state with
    | length got => rfl
    | payload size got => rfl
    | finished result => exact hwaiting.elim
  rw [hsettle]
  refine { hfollows with
    pending := hfollows.pending.trans hpending
    bytes := hbytes.trans hfollows.bytes
    waiting := ?_ }
  rintro other after ⟨⟩
  exact hwaiting

/-- A call that ends as the grammar says leaves the bytes that the grammar says. -/
theorem Follows.finish {inbox : List RecvCall} {unread consumed : Bytes}
    {result : Except Error (Option Bytes)} (hfollows : Follows payloads rest calls receiver)
    (hpending : receiver.pendingCalls = call :: inbox)
    (hresult : call.unpack result = answer payloads rest receiver.received.length call)
    (hunread : unread = remaining payloads rest (receiver.received.length + 1)) :
    Follows payloads rest calls ({ receiver with
      inbox := inbox
      unread := unread
      consumed := consumed }.settle call (.finished result)) := by
  obtain ⟨hcall, htail⟩ := next_of_drop (hfollows.pending.trans hpending)
  have hanswer : (answers payloads rest calls)[receiver.received.length]? =
      some (call.unpack result) := by
    simp [answers, List.getElem?_mapIdx, hcall, hresult]
  constructor
  · simp only [settle, List.map_append, List.map_cons, List.map_nil, List.length_append,
      List.length_singleton]
    rw [List.take_add_one, hanswer, hfollows.received]
    rfl
  · simpa [settle, pendingCalls] using htail
  · simpa [settle, held] using hunread
  · simp [settle]

theorem pending_of_receiving (hreceiving : receiver.receiving = some (call, state)) :
    receiver.pendingCalls = call :: receiver.inbox := by
  simp [pendingCalls, hreceiving]

/-- The length field has been read: the payload is next, or it is empty. -/
theorem Follows.lengthRead (hfollows : Follows payloads rest calls receiver)
    (hbound : ∀ payload ∈ payloads, payload.length < 256 ^ 8)
    (hmaximal : parseFrame 8 rest = none) {field unread consumed : Bytes}
    (hpending : receiver.pendingCalls = call :: receiver.inbox) (hfield : field.length = 8)
    (hbytes : field ++ unread = receiver.held ++ receiver.unread) :
    Follows payloads rest calls ({ receiver with
      unread := unread
      consumed := consumed }.settle call (recvPayload (fun _ => true) (leDecode field))) := by
  have hsize : leDecode field < 2 ^ 64 := by
    have hdecode := leDecode_lt field
    rw [hfield] at hdecode
    omega
  rw [recvPayload, if_neg (by omega), if_neg (by simp)]
  rcases remaining_field hfield (hbytes.trans hfollows.bytes) with
    ⟨payload, hnext, hencode, hunread⟩ | ⟨-, -, hrest⟩
  · have hdecode : leDecode field = payload.length := by
      rw [hencode]
      exact leDecode_leEncode 8 _ (hbound payload (List.mem_of_getElem? hnext))
    rw [hdecode] at hsize ⊢
    split
    next hempty =>
      have hnil : payload = [] := List.eq_nil_of_length_eq_zero hempty
      refine hfollows.finish hpending ?_ (by simpa [hnil] using hunread)
      rw [answer_some hnext, hnil]
    next hne =>
      refine hfollows.keep ⟨Nat.pos_of_ne_zero hne, hsize⟩ hpending ?_
      simpa [RecvState.held, ← hencode] using hbytes
  · -- The declared payload is longer than what is left, so it is not empty.
    have hlong : unread.length < leDecode field := by
      by_contra henough
      have hparse : parseFrame 8 rest = some (unread.take (leDecode field),
          unread.drop (leDecode field)) := by
        rw [parseFrame_eq_some, frame, List.length_take, Nat.min_eq_left (by omega),
          List.append_assoc, List.take_append_drop]
        refine ⟨?_, by omega⟩
        have hencoded := leEncode_leDecode field
        rw [hfield] at hencoded
        rw [hencoded]
        exact hrest
      simp [hmaximal] at hparse
    rw [if_neg (by omega)]
    refine hfollows.keep ⟨?_, hsize⟩ hpending ?_
    · simp only [List.length_nil]
      omega
    · have hencoded := leEncode_leDecode field
      rw [hfield] at hencoded
      simpa [RecvState.held, hencoded] using hbytes

/-- The payload has been read: it is the next one. -/
theorem Follows.payloadRead (hfollows : Follows payloads rest calls receiver)
    (hbound : ∀ payload ∈ payloads, payload.length < 256 ^ 8)
    (hmaximal : parseFrame 8 rest = none) {size : Nat} {got unread consumed : Bytes}
    (hpending : receiver.pendingCalls = call :: receiver.inbox) (hgot : got.length = size)
    (hsize : size < 2 ^ 64)
    (hbytes : leEncode 8 size ++ got ++ unread = receiver.held ++ receiver.unread) :
    Follows payloads rest calls ({ receiver with
      unread := unread
      consumed := consumed }.settle call (.finished (.ok (some got)))) := by
  rw [List.append_assoc] at hbytes
  rcases remaining_field (by simp) (hbytes.trans hfollows.bytes) with
    ⟨payload, hnext, hencode, hunread⟩ | ⟨-, -, hrest⟩
  · have hsame : size = payload.length := by
      rw [← leDecode_leEncode 8 size (by omega), hencode]
      exact leDecode_leEncode 8 _ (hbound payload (List.mem_of_getElem? hnext))
    obtain ⟨rfl, htail⟩ := List.append_inj hunread (by omega)
    exact hfollows.finish hpending (answer_some hnext call).symm htail
  · have hparse : parseFrame 8 rest = some (got, unread) := by
      rw [parseFrame_eq_some, frame, hgot, List.append_assoc]
      exact ⟨hrest, by omega⟩
    simp [hmaximal] at hparse

theorem Follows.read (hfollows : Follows payloads rest calls receiver)
    (hbound : ∀ payload ∈ payloads, payload.length < 256 ^ 8)
    (hmaximal : parseFrame 8 rest = none) {count size offset : Nat}
    (hreceiving : receiver.receiving = some (call, state))
    (hrequest : state.request = some (size, offset)) (hpos : 0 < count)
    (hchunk : count ≤ size - offset) (hunread : count ≤ receiver.unread.length) :
    Follows payloads rest calls ((receiver.advance count).settle call
      (recvBlobNext (fun _ => true) (receiver.unread.take count) (.result count) state)) := by
  have hpending := pending_of_receiving hreceiving
  have hwaiting := hfollows.waiting call state hreceiving
  have hheld : receiver.held = state.held := by simp [held, hreceiving]
  have hlength : (receiver.unread.take count).length = count := by simpa using hunread
  cases state with
  | length got =>
      obtain ⟨rfl, rfl⟩ := Prod.mk.inj (Option.some.inj hrequest)
      have hgot : got.length < 8 := hwaiting
      have hnext := recvBlobNext_length (fun _ => true) got (receiver.unread.take count)
        (by omega)
      rw [hlength] at hnext
      rw [hnext]
      have hbytes : got ++ receiver.unread.take count ++ receiver.unread.drop count =
          receiver.held ++ receiver.unread := by
        rw [List.append_assoc, List.take_append_drop, hheld]
        rfl
      split
      next hmore => exact hfollows.keep hmore hpending hbytes
      next hdone =>
        refine hfollows.lengthRead hbound hmaximal hpending ?_ hbytes
        rw [List.length_append, hlength] at hdone ⊢
        omega
  | payload total got =>
      obtain ⟨rfl, rfl⟩ := Prod.mk.inj (Option.some.inj hrequest)
      obtain ⟨hgot, hsize⟩ : got.length < total ∧ total < 2 ^ 64 := hwaiting
      have hnext := recvBlobNext_payload (fun _ => true) total got (receiver.unread.take count)
        (by omega)
      rw [hlength] at hnext
      rw [hnext]
      have hbytes : leEncode 8 total ++ (got ++ receiver.unread.take count) ++
          receiver.unread.drop count = receiver.held ++ receiver.unread := by
        rw [hheld, RecvState.held]
        simp
      split
      next hmore => exact hfollows.keep ⟨hmore, hsize⟩ hpending hbytes
      next hdone =>
        refine hfollows.payloadRead hbound hmaximal hpending ?_ hsize hbytes
        rw [List.length_append, hlength] at hdone ⊢
        omega
  | finished result => exact hwaiting.elim

/-- The end of file, where the grammar says that the bytes end. -/
theorem Follows.readEnd (hfollows : Follows payloads rest calls receiver)
    (hbound : ∀ payload ∈ payloads, payload.length < 256 ^ 8)
    (hreceiving : receiver.receiving = some (call, state)) (hempty : receiver.unread = [])
    {code : Int} (hcode : code = 0 ∨ code = uvEof) :
    Follows payloads rest calls
      (receiver.settle call (recvBlobNext (fun _ => true) [] (.result code) state)) := by
  have hpending := pending_of_receiving hreceiving
  have hbytes := hfollows.bytes
  have hheld : receiver.held = state.held := by simp [held, hreceiving]
  rw [hempty, List.append_nil, hheld] at hbytes
  have htruncated : call.unpack (.error truncatedPayload) = .error truncatedPayload := by
    cases call <;> rfl
  have hended : ∀ result, payloads[receiver.received.length]? = none →
      call.unpack result = answer payloads rest receiver.received.length call →
      Follows payloads rest calls (receiver.settle call (.finished result)) := by
    intro result hnone hresult
    exact hfollows.finish hpending hresult (by rw [hempty, (remaining_none hnone).2])
  cases state with
  | length got =>
      have hgot : got.length < 8 := hfollows.waiting call _ hreceiving
      -- Fewer than eight bytes are left, and a frame has more.
      have hnone : payloads[receiver.received.length]? = none := by
        cases hnext : payloads[receiver.received.length]? with
        | none => rfl
        | some payload =>
            rw [remaining_some hnext] at hbytes
            have hlength := congrArg List.length hbytes
            simp [RecvState.held, frame] at hlength
            omega
      rw [(remaining_none hnone).1] at hbytes
      simp only [RecvState.held] at hbytes
      -- Between two frames the end of file is no error; inside the field it is one.
      by_cases hstart : got = []
      · have hnext : recvBlobNext (fun _ => true) [] (.result code) (.length got) =
            .finished (.ok none) := by
          rcases hcode with rfl | rfl <;> simp [recvBlobNext, readExactNext, hstart, uvEof]
        rw [hnext]
        refine hended (.ok none) hnone ?_
        rw [call.unpack_none, answer, hnone]
        dsimp only
        rw [if_neg]
        rintro ⟨hend, hne⟩
        rw [if_pos hend, hstart] at hbytes
        exact hne hbytes.symm
      · have hnext : recvBlobNext (fun _ => true) [] (.result code) (.length got) =
            .finished (.error truncatedPayload) := by
          have hlength : got.length ≠ 0 := by simpa using hstart
          rcases hcode with rfl | rfl <;> simp [recvBlobNext, readExactNext, hstart, uvEof]
        rw [hnext]
        refine hended (.error truncatedPayload) hnone ?_
        rw [htruncated, answer, hnone]
        dsimp only
        split at hbytes
        next hend => rw [if_pos ⟨hend, hbytes ▸ hstart⟩]
        next => exact absurd hbytes hstart
  | payload size got =>
      obtain ⟨hgot, hsize⟩ : got.length < size ∧ size < 2 ^ 64 :=
        hfollows.waiting call _ hreceiving
      have hnext : recvBlobNext (fun _ => true) [] (.result code) (.payload size got) =
          .finished (.error truncatedPayload) := by
        rcases hcode with rfl | rfl <;> simp [recvBlobNext, readExactNext, uvEof]
      rw [hnext]
      rcases remaining_field (by simp) hbytes with
        ⟨payload, hpayload, hencode, hunread⟩ | ⟨hnone, hend, hrest⟩
      · have hsame : size = payload.length := by
          rw [← leDecode_leEncode 8 size (by omega), hencode]
          exact leDecode_leEncode 8 _ (hbound payload (List.mem_of_getElem? hpayload))
        have hlength := congrArg List.length hunread
        rw [List.length_append] at hlength
        omega
      · refine hended (.error truncatedPayload) hnone ?_
        have hne : rest ≠ [] := by
          intro hnil
          have hlength := congrArg List.length (hnil ▸ hrest)
          simp at hlength
          omega
        rw [htruncated, answer, hnone]
        dsimp only
        rw [if_pos ⟨hend, hne⟩]
  | finished result => exact (hfollows.waiting call _ hreceiving).elim

theorem settle_receiving (hreceiving : receiver.receiving = some (call, state))
    (hwaiting : state.Waiting) : receiver.settle call state = receiver := by
  cases state with
  | length got => simp [settle, ← hreceiving]
  | payload size got => simp [settle, ← hreceiving]
  | finished result => exact hwaiting.elim

theorem step_follows {move : ReadMove} (hfollows : Follows payloads rest calls receiver)
    (hbound : ∀ payload ∈ payloads, payload.length < 256 ^ 8)
    (hmaximal : parseFrame 8 rest = none) (hordinary : Ordinary receiver move)
    (hstep : receiver.step move = some next) : Follows payloads rest calls next := by
  cases step_effect hstep with
  | @recv call inbox hidle hinbox =>
      have hstart : (RecvState.length []).Waiting := by simp [RecvState.Waiting]
      have hkept : Follows payloads rest calls ({ receiver with
          inbox := inbox
          unread := receiver.unread
          consumed := receiver.consumed }.settle call (.length [])) := by
        refine hfollows.keep hstart ?_ ?_
        · simp [pendingCalls, hidle, hinbox]
        · simp [RecvState.held, held, hidle]
      exact hkept
  | @read call state count size offset allocates hreceiving hrequest hpos hchunk hunread =>
      obtain rfl : allocates = true := hordinary
      exact hfollows.read hbound hmaximal hreceiving hrequest hpos hchunk hunread
  | @fails call state outcome hreceiving hidle =>
      rcases hordinary with hretries | ⟨hempty, rfl | rfl⟩
      · obtain ⟨code, rfl, hretry⟩ := Outcome.retry_of_retries hretries
        rw [recvBlobNext_retry _ hretry,
          settle_receiving hreceiving (hfollows.waiting call state hreceiving)]
        exact hfollows
      · exact hfollows.readEnd hbound hreceiving hempty (.inl rfl)
      · exact hfollows.readEnd hbound hreceiving hempty (.inr rfl)

/-! ## The receives end -/

/-- What is left to do: each call starts and ends, and each byte is read. -/
def work (receiver : Receiver) : Nat :=
  2 * receiver.inbox.length + receiver.receiving.toList.length + receiver.unread.length

theorem settle_work (receiver : Receiver) (call : RecvCall) (state : RecvState) :
    (receiver.settle call state).work ≤
      2 * receiver.inbox.length + 1 + receiver.unread.length := by
  cases state with
  | length got => simp [settle, work]
  | payload size got => simp [settle, work]
  | finished result => simp [settle, work]

/-- A request that fails for good ends the call, and not with a frame. -/
theorem recvBlobNext_fails {outcome : Outcome} (hidle : outcome.idle = true)
    (hretries : outcome.retries = false) (memory : Nat → Bool) (state : RecvState) :
    ∃ result, recvBlobNext memory [] outcome state = .finished result ∧
      ((∀ frame, result ≠ .ok (some frame)) ∨ state = .finished result) := by
  have hprogress : ∀ allow size offset,
      (∃ error, readExactNext allow size offset outcome = .threw error) ∨
        readExactNext allow size offset outcome = .returned false ∧ allow = true := by
    intro allow size offset
    obtain ⟨rc, rfl⟩ | ⟨code, rfl, hcode, hretry⟩ := Outcome.failed_cases hidle hretries
    · exact .inl ⟨_, rfl⟩
    · simp only [readExactNext, if_neg hcode, if_neg hretry]
      split
      · split
        next hallow => exact .inr ⟨rfl, hallow.1⟩
        · exact .inl ⟨_, rfl⟩
      · exact .inl ⟨_, rfl⟩
  cases state with
  | length got =>
      rcases hprogress true 8 got.length with ⟨error, hthrew⟩ | ⟨hreturned, -⟩
      · exact ⟨.error error, by simp [recvBlobNext, hthrew], .inl (by simp)⟩
      · exact ⟨.ok none, by simp [recvBlobNext, hreturned], .inl (by simp)⟩
  | payload size got =>
      rcases hprogress false size got.length with ⟨error, hthrew⟩ | ⟨-, hallow⟩
      · exact ⟨.error error, by simp [recvBlobNext, hthrew], .inl (by simp)⟩
      · simp at hallow
  | finished result => exact ⟨result, rfl, .inr rfl⟩

theorem step_work {move : ReadMove} (hstep : receiver.step move = some next) :
    next.work + (if move.retries then 0 else 1) ≤ receiver.work := by
  cases step_effect hstep with
  | recv hidle hinbox =>
      simp [work, hidle, hinbox, ReadMove.retries]
      omega
  | @read call state count size offset allocates hreceiving hrequest hpos hchunk hunread =>
      have hsettled := settle_work (receiver.advance count) call
        (recvBlobNext (fun _ => allocates) (receiver.unread.take count) (.result count) state)
      simp only [advance, List.length_drop] at hsettled
      simp only [work, hreceiving, ReadMove.retries, Option.toList_some, List.length_singleton,
        Bool.false_eq_true, if_false]
      simp only [work] at hsettled
      simp only [advance]
      omega
  | @fails call state outcome hreceiving hidle =>
      have hbefore : receiver.work = 2 * receiver.inbox.length + 1 + receiver.unread.length := by
        simp [work, hreceiving]
      cases hretries : outcome.retries with
      | true =>
          have hsettled := settle_work receiver call
            (recvBlobNext (fun _ => true) [] outcome state)
          simp only [ReadMove.retries, hretries, if_true]
          omega
      | false =>
          obtain ⟨result, hfinished, -⟩ := recvBlobNext_fails hidle hretries (fun _ => true) state
          rw [hfinished, hbefore]
          simp only [settle, work, ReadMove.retries, hretries, Option.toList_none, List.length_nil,
            Bool.false_eq_true, if_false]
          omega

/-- Nothing but another try of an interrupted request can happen. -/
def Stuck (receiver : Receiver) : Prop :=
  ∀ move, Ordinary receiver move → move.retries = false → receiver.step move = none

/-- A receiver that is stuck has no call left. -/
theorem Stuck.pendingCalls (hstuck : receiver.Stuck)
    (hfollows : Follows payloads rest calls receiver) : receiver.pendingCalls = [] := by
  cases hreceiving : receiver.receiving with
  | none =>
      cases hinbox : receiver.inbox with
      | nil => simp [Receiver.pendingCalls, hreceiving, hinbox]
      | cons call inbox =>
          have hrecv := hstuck .recv trivial rfl
          simp [step, hreceiving, hinbox] at hrecv
  | some current =>
      obtain ⟨call, state⟩ := current
      obtain ⟨size, offset, hrequest, hchunk⟩ :=
        RecvState.request_of_waiting (hfollows.waiting call state hreceiving)
      by_cases hempty : receiver.unread = []
      · have hend := hstuck (.fails (.result 0)) (.inr ⟨hempty, .inl rfl⟩) rfl
        simp [step, hreceiving, Outcome.idle] at hend
      · have hread := hstuck (.read 1 true) rfl rfl
        have hpos : 0 < receiver.unread.length := List.length_pos_of_ne_nil hempty
        simp [step, hreceiving, hrequest, hchunk] at hread
        contradiction

end Receiver

/-- For every byte string followed by the end of file, every split into reads with any
number of interruptions, and every sequence of receives.

The receives that have ended returned what the frame grammar says, and between two of them
the descriptor is where it says. The receives do end: the number of uninterrupted steps is
bounded, and where no more of them is possible every receive has returned. -/
theorem receives_grammar (bytes : Bytes) (calls : List RecvCall) (moves : List ReadMove)
    (final : Receiver) (hmeets : receiving.Meets Ordinary moves (Receiver.start bytes calls))
    (hrun : receiving.run moves (Receiver.start bytes calls) = some final) :
    Splits 8 bytes (frames 8 bytes).1 (frames 8 bytes).2 ∧
      final.received.map Prod.fst = (answers (frames 8 bytes).1 (frames 8 bytes).2 calls).take
        final.received.length ∧
      (final.receiving = none → final.unread =
        remaining (frames 8 bytes).1 (frames 8 bytes).2 final.received.length) ∧
      moves.countP (fun move => !move.retries) ≤ 2 * calls.length + bytes.length ∧
      (final.Stuck →
        final.received.map Prod.fst = answers (frames 8 bytes).1 (frames 8 bytes).2 calls) := by
  have hsplits := frames_splits (by decide : 0 < 8) bytes
  have hstart : (Receiver.start bytes calls).Follows (frames 8 bytes).1 (frames 8 bytes).2
      calls := by
    have hfollows := Receiver.follows_start (frames 8 bytes).1 (frames 8 bytes).2 calls
    rwa [← hsplits.wire] at hfollows
  have hkeep : ∀ receiver move next,
      Receiver.Follows (frames 8 bytes).1 (frames 8 bytes).2 calls receiver →
      Ordinary receiver move → receiving.step receiver move = some next →
      Receiver.Follows (frames 8 bytes).1 (frames 8 bytes).2 calls next :=
    fun _ _ _ hfollows hordinary hstep =>
      Receiver.step_follows hfollows hsplits.bounded hsplits.maximal hordinary hstep
  have hfollows := Machine.run_invariant hkeep moves _ final hstart hmeets hrun
  refine ⟨hsplits, hfollows.received, fun hidle => ?_, ?_, fun hstuck => ?_⟩
  · simpa [Receiver.held, hidle] using hfollows.bytes
  · have hlower : ∀ receiver move next, receiving.step receiver move = some next →
        next.work + (if !move.retries then 1 else 0) ≤ receiver.work := by
      intro receiver move next hstep
      have hwork := Receiver.step_work hstep
      cases hretries : move.retries <;> simp [hretries] at hwork ⊢ <;> omega
    have hwork := Machine.run_measure hlower moves _ final hrun
    have hbefore : (Receiver.start bytes calls).work = 2 * calls.length + bytes.length := by
      simp [Receiver.start, Receiver.work]
    omega
  · have hpending := hfollows.pending
    rw [hstuck.pendingCalls hfollows, List.drop_eq_nil_iff] at hpending
    rw [hfollows.received, List.take_of_length_le]
    simpa [answers] using hpending

/-- A frame of one byte, an empty one, and two bytes of a third length field. -/
def truncatedBytes : Bytes :=
  [1, 0, 0, 0, 0, 0, 0, 0, 7, 0, 0, 0, 0, 0, 0, 0, 0, 5, 0]

/-- The first receive expects two bytes. -/
def truncatedCalls : List RecvCall :=
  [.typed 2, .stream, .stream, .stream]

def truncatedRun : List ReadMove :=
  [.recv, .read 3 true, .fails (.result uvEintr), .read 5 true, .read 1 true, .recv,
    .read 8 true, .recv, .read 2 true, .fails (.result 0), .recv, .fails (.result 0)]

theorem receives_grammar_truncated :
    ∃ final, receiving.run truncatedRun (Receiver.start truncatedBytes truncatedCalls) =
        some final ∧
      final.received.map Prod.fst =
        [.error sizeMismatch, .ok (some []), .error truncatedPayload, .ok none] ∧
      final.received.map Prod.fst = (answers (frames 8 truncatedBytes).1
        (frames 8 truncatedBytes).2 truncatedCalls).take 4 := by
  have hmeets : receiving.Meets Ordinary truncatedRun
      (Receiver.start truncatedBytes truncatedCalls) := by
    refine Machine.meets_cons trivial rfl (Machine.meets_cons rfl rfl
      (Machine.meets_cons (.inl rfl) rfl (Machine.meets_cons rfl rfl
        (Machine.meets_cons rfl rfl (Machine.meets_cons trivial rfl
          (Machine.meets_cons rfl rfl (Machine.meets_cons trivial rfl
            (Machine.meets_cons rfl rfl (Machine.meets_cons (.inr ⟨rfl, .inl rfl⟩) rfl
              (Machine.meets_cons trivial rfl
                (Machine.meets_cons (.inr ⟨rfl, .inl rfl⟩) rfl trivial)))))))))))
  exact ⟨_, rfl, rfl,
    (receives_grammar truncatedBytes truncatedCalls truncatedRun _ hmeets rfl).2.1⟩

end Fiberuv.Ipc
