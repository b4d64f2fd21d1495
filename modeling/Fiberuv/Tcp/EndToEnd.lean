import Fiberuv.Tcp.Link

/-! # What is written arrives

The reads at one end return the beginning of what the writes at the other end have handed to
libuv, in the order of the calls. The outbox gives the order in which bytes leave, the
network keeps it, and the stream of reads is the one that arrives.
-/

namespace Fiberuv.Tcp.Link

open Foundation

section Stream

variable {conn next : Tcp.State}

/-- The stream has not moved on, and a socket goes on being closed. -/
def SameStream (conn next : Tcp.State) : Prop :=
  next.delivered = conn.delivered ∧ next.eof = conn.eof ∧
    (conn.uvClosing = true → next.uvClosing = true)

theorem finishRead_sameStream (conn : Tcp.State) (outcome : Except Error Bytes) :
    SameStream conn (conn.finishRead outcome) := by
  obtain ⟨call, log, heq, -⟩ := finishRead_frame conn outcome
  rw [heq]
  exact ⟨rfl, rfl, fun hclosing => hclosing⟩

theorem finishClose_sameStream (conn : Tcp.State) : SameStream conn conn.finishClose :=
  finishRead_sameStream { conn with closed := true, closing := false } (.error closedWhileReading)

theorem startClose_sameStream (conn : Tcp.State) (promise : Option CloseId) :
    SameStream conn (conn.startClose promise) := by
  unfold Tcp.State.startClose
  split
  · exact ⟨rfl, rfl, fun hclosing => hclosing⟩
  split
  · exact finishClose_sameStream { conn with closeWaiters := conn.closeWaiters ++ promise.toList }
  split
  · exact ⟨rfl, rfl, fun hclosing => hclosing⟩
  split
  · exact ⟨rfl, rfl, fun hclosing => hclosing⟩
  · exact ⟨rfl, rfl, fun _ => rfl⟩

theorem read_sameStream (conn : Tcp.State) (id : CallId) (timed : Bool) (address : Nat) (rc : Int) :
    SameStream conn (conn.read id timed address rc) := by
  have heffect := read_effect conn id timed address rc
  generalize conn.read id timed address rc = next at heffect ⊢
  cases heffect <;> exact ⟨rfl, rfl, fun hclosing => hclosing⟩

/-- A chunk is put behind what has arrived, and only the end of the stream ends it. -/
theorem onConnectionRead_stream (conn : Tcp.State) (nread : Int) (bytes : Bytes) :
    (conn.onConnectionRead nread bytes).delivered =
        (if 0 < nread then conn.delivered ++ [bytes] else conn.delivered) ∧
      (conn.onConnectionRead nread bytes).eof = (conn.eof || decide (nread = uvEof)) ∧
      (conn.uvClosing = true → (conn.onConnectionRead nread bytes).uvClosing = true) := by
  unfold Tcp.State.onConnectionRead
  by_cases hdata : 0 < nread
  · have hnot : nread ≠ uvEof := by
      rintro rfl
      cases hdata
    simp only [hdata, if_true, hnot, decide_false, Bool.or_false]
    unfold Tcp.State.deliver
    split
    · exact finishRead_sameStream
        { conn with reading := false, delivered := conn.delivered ++ [bytes] } _
    · exact ⟨rfl, rfl, fun hclosing => hclosing⟩
  simp only [hdata, if_false]
  by_cases heof : nread = uvEof
  · simp only [heof, if_true, decide_true, Bool.or_true]
    exact finishRead_sameStream { conn with eof := true, reading := false } _
  simp only [heof, if_false, decide_false, Bool.or_false]
  split
  · exact finishRead_sameStream { conn with reading := false } _
  · exact ⟨rfl, rfl, fun hclosing => hclosing⟩

/-- The end of the stream. -/
def ends : Tcp.Action → Bool
  | .onConnectionRead nread _ => nread = uvEof
  | _ => false

theorem SameStream.step (hsame : SameStream conn next) {action : Tcp.Action}
    (hchunk : State.chunk action = []) (hends : ends action = false) :
    next.delivered.flatten = conn.delivered.flatten ++ State.chunk action ∧
      next.eof = (conn.eof || ends action) ∧ (conn.uvClosing = true → next.uvClosing = true) := by
  obtain ⟨hdelivered, heof, hclosing⟩ := hsame
  exact ⟨by rw [hdelivered, hchunk, List.append_nil], by rw [heof, hends, Bool.or_false], hclosing⟩

/-- What a step of a connection does to the stream that arrives there. -/
theorem step_stream {action : Tcp.Action} (hstep : conn.step action = some next) :
    next.delivered.flatten = conn.delivered.flatten ++ State.chunk action ∧
      next.eof = (conn.eof || ends action) ∧ (conn.uvClosing = true → next.uvClosing = true) := by
  cases action with
  | read id timed address rc =>
      simp only [Tcp.State.step] at hstep
      split at hstep
      · cases hstep
        exact (read_sameStream conn id timed address rc).step rfl rfl
      · cases hstep
  | resume id expired =>
      obtain ⟨result, pendingRead, reading, -, rfl⟩ := resume_returns hstep
      exact SameStream.step ⟨rfl, rfl, fun hclosing => hclosing⟩ rfl rfl
  | onConnectionRead nread bytes =>
      simp only [Tcp.State.step, Option.ite_none_right_eq_some, Option.some.injEq] at hstep
      obtain ⟨-, rfl⟩ := hstep
      obtain ⟨hdelivered, heof, hclosing⟩ := onConnectionRead_stream conn nread bytes
      refine ⟨?_, heof, hclosing⟩
      rw [hdelivered, State.chunk]
      split <;> simp
  | startClose promise =>
      cases promise with
      | none =>
          cases hstep
          exact (startClose_sameStream conn none).step rfl rfl
      | some id =>
          simp only [Tcp.State.step] at hstep
          split at hstep
          · cases hstep
            exact SameStream.step (startClose_sameStream
              { conn with closer := Function.update conn.closer id .waiting } (some id)) rfl rfl
          · cases hstep
  | onConnectionClosed =>
      simp only [Tcp.State.step, Option.ite_none_right_eq_some, Option.some.injEq] at hstep
      obtain ⟨-, rfl⟩ := hstep
      exact SameStream.step (finishClose_sameStream conn) rfl rfl
  | closeResume id =>
      simp only [Tcp.State.step] at hstep
      split at hstep
      · cases hstep
        exact SameStream.step ⟨rfl, rfl, fun hclosing => hclosing⟩ rfl rfl
      · cases hstep
  | endLoop =>
      cases hstep
      have hsame : SameStream conn { conn with alive := false } :=
        ⟨rfl, rfl, fun hclosing => hclosing⟩
      exact hsame.step rfl rfl
  | walk =>
      simp only [Tcp.State.step] at hstep
      have hsame : SameStream conn next := by
        split at hstep
        · cases hstep
        · split at hstep <;> cases hstep
          · exact ⟨rfl, rfl, fun hclosing => hclosing⟩
          · exact ⟨rfl, rfl, fun _ => rfl⟩
      exact hsame.step rfl rfl

end Stream

section Writes

/-- The payload of a call whose promise has not been set. -/
def WriteCall.pending : WriteCall → Option Bytes
  | .waiting payload none => some payload
  | _ => none

/-- The payload of a call that has been told of success. -/
def WriteCall.wrote : WriteCall → Option Bytes
  | .waiting payload (some (.ok ())) => some payload
  | .returned payload (.ok ()) => some payload
  | _ => none

theorem WriteCall.pending_eq_some {call : WriteCall} {payload : Bytes}
    (hpending : call.pending = some payload) : call = .waiting payload none := by
  unfold pending at hpending
  split at hpending
  · exact Option.some.inj hpending ▸ rfl
  · cases hpending

/-- Only a status that is no error reports success. -/
theorem WriteCall.wrote_onWriteDone {payload other : Bytes} {status : Int}
    (hwrote : (WriteCall.waiting payload (some (Tcp.onWriteDone status))).wrote = some other) :
    payload = other ∧ 0 ≤ status := by
  by_cases hstatus : status < 0
  · simp [WriteCall.wrote, Tcp.onWriteDone, hstatus] at hwrote
  · simp only [WriteCall.wrote, Tcp.onWriteDone, hstatus, if_false, Option.some.injEq] at hwrote
    exact ⟨hwrote, by omega⟩

/-- The requests libuv still has to call back for. -/
def Side.requests (side : Side) : List WriteId :=
  side.outbox.queue.map Prod.fst ++ side.finished.map Prod.fst

/-- What holds of one end between two steps. -/
structure Side.Sound (side : Side) : Prop where
  conn : Tcp.Sound side.conn
  outbox : side.outbox.Sound
  nodup : side.requests.Nodup
  /-- A write waits exactly while libuv has its request. -/
  held : ∀ id, id ∈ side.requests ↔ ((side.writes id).pending).isSome
  queued : ∀ id buffer, (id, buffer) ∈ side.outbox.queue →
    ∀ payload ∈ (side.writes id).pending, buffer = bufInit payload
  finished : ∀ id status, (id, status) ∈ side.finished → 0 ≤ status →
    ∀ payload ∈ (side.writes id).pending, (id, bufInit payload) ∈ side.outbox.done
  wrote : ∀ id payload, (side.writes id).wrote = some payload →
    payload = [] ∨ (id, bufInit payload) ∈ side.outbox.done

variable {side next : Side}

theorem sound_side : Side.Sound {} where
  conn := sound_initial
  outbox := Outbox.sound_empty
  nodup := List.nodup_nil
  held := by simp [Side.requests, WriteCall.pending]
  queued := by simp
  finished := by simp
  wrote := by simp [WriteCall.wrote]

/-- How `connection_write` ends before its wait, or what it waits for. -/
theorem connectionWrite_cases (conn : Tcp.State) (payload : Bytes) (rc : Int) :
    (∃ outcome, conn.connectionWrite payload rc = .returned outcome ∧
        (outcome = .ok () → payload = [])) ∨
      conn.connectionWrite payload rc = .waiting (bufInit payload) := by
  unfold Tcp.State.connectionWrite
  split
  · exact .inl ⟨_, rfl, by simp⟩
  split
  · exact .inl ⟨_, rfl, by simp⟩
  split
  next hempty => exact .inl ⟨_, rfl, fun _ => hempty⟩
  split
  · exact .inl ⟨_, rfl, by simp⟩
  · exact .inr rfl

/-- One write goes on, and the requests stay where they are. -/
theorem Side.Sound.setWrite (hsound : side.Sound) {id : WriteId} {after : WriteCall}
    (hbefore : (side.writes id).pending = none) (hafter : after.pending = none)
    (hwrote : ∀ payload, after.wrote = some payload →
      payload = [] ∨ (id, bufInit payload) ∈ side.outbox.done) :
    ({ side with writes := Function.update side.writes id after } : Side).Sound := by
  have hpending : ∀ other, (Function.update side.writes id after other).pending =
      (side.writes other).pending := by
    intro other
    by_cases hother : other = id
    · subst hother
      simp [hbefore, hafter]
    · simp [hother]
  refine { hsound with
    held := fun other => by
      rw [hpending]
      exact hsound.held other
    queued := fun other buffer hmem => by simpa [hpending] using hsound.queued other buffer hmem
    finished := fun other status hmem => by
      simpa [hpending] using hsound.finished other status hmem
    wrote := fun other payload hother => ?_ }
  by_cases hself : other = id
  · subst hself
    exact hwrote payload (by simpa using hother)
  · exact hsound.wrote other payload (by simpa [hself] using hother)

/-- What is known of requests stays known as long as their writes do not move. -/
theorem Side.Sound.kept (hsound : side.Sound) {writes : WriteId → WriteCall}
    {finished : List (WriteId × Int)} (hsub : ∀ ended ∈ finished, ended ∈ side.finished)
    (hsame : ∀ id ∈ side.outbox.queue.map Prod.fst ++ finished.map Prod.fst,
      writes id = side.writes id) :
    (∀ id buffer, (id, buffer) ∈ side.outbox.queue → ∀ payload ∈ (writes id).pending,
        buffer = bufInit payload) ∧
      ∀ id status, (id, status) ∈ finished → 0 ≤ status → ∀ payload ∈ (writes id).pending,
        (id, bufInit payload) ∈ side.outbox.done := by
  refine ⟨fun id buffer hmem => ?_, fun id status hmem => ?_⟩
  · rw [hsame id (List.mem_append_left _ (List.mem_map_of_mem hmem))]
    exact hsound.queued id buffer hmem
  · rw [hsame id (List.mem_append_right _ (List.mem_map_of_mem hmem))]
    exact hsound.finished id status (hsub _ hmem)

/-- A write hands its request to libuv. -/
theorem Side.Sound.accept (hsound : side.Sound) {id : WriteId} (payload : Bytes)
    (hidle : side.writes id = .idle) :
    ({ side with
      writes := Function.update side.writes id (.waiting payload none)
      outbox := side.outbox.accept id (bufInit payload) } : Side).Sound := by
  have hnot : id ∉ side.requests := by
    rw [hsound.held id, hidle]
    simp [WriteCall.pending]
  have hperm : ((side.outbox.accept id (bufInit payload)).queue.map Prod.fst ++
      side.finished.map Prod.fst).Perm (id :: side.requests) := by
    simp only [Outbox.accept, List.map_append, List.map_cons, List.map_nil, List.append_assoc,
      List.singleton_append]
    exact List.perm_middle
  obtain ⟨hbefore, hfinished⟩ := hsound.kept (fun _ hmem => hmem) fun other hmem =>
    Function.update_of_ne (ne_of_mem_of_not_mem hmem hnot) (.waiting payload none) side.writes
  have hqueued : ∀ other buffer,
      (other, buffer) ∈ (side.outbox.accept id (bufInit payload)).queue →
      ∀ waiting ∈ (Function.update side.writes id (.waiting payload none) other).pending,
        buffer = bufInit waiting := by
    intro other buffer hmem
    rcases List.mem_append.mp hmem with hold | hnew
    · exact hbefore other buffer hold
    · obtain ⟨rfl, rfl⟩ := Prod.mk.inj (List.mem_singleton.mp hnew)
      simp [WriteCall.pending]
  refine { hsound with
    outbox := hsound.outbox.accept id (bufInit payload)
    nodup := hperm.nodup_iff.mpr (List.nodup_cons.mpr ⟨hnot, hsound.nodup⟩)
    held := fun other => ?_
    queued := hqueued
    finished := hfinished
    wrote := fun other done hwrote => ?_ }
  · refine hperm.mem_iff.trans ?_
    by_cases hself : other = id
    · simp [hself, WriteCall.pending]
    · simpa [hself] using hsound.held other
  · by_cases hself : other = id
    · simp [hself, WriteCall.wrote] at hwrote
    · exact hsound.wrote other done (by simpa [hself] using hwrote)

/-- Requests move on inside libuv. -/
theorem Side.Sound.move (hsound : side.Sound) {outbox : Outbox WriteId UInt8}
    {finished : List (WriteId × Int)} (houtbox : outbox.Sound)
    (hperm : (outbox.queue.map Prod.fst ++ finished.map Prod.fst).Perm side.requests)
    (hqueue : ∀ request ∈ outbox.queue, request ∈ side.outbox.queue)
    (hdone : ∀ request ∈ side.outbox.done, request ∈ outbox.done)
    (hfinished : ∀ id status, (id, status) ∈ finished → (id, status) ∈ side.finished ∨
      status < 0 ∨ ∃ buffer, (id, buffer) ∈ side.outbox.queue ∧ (id, buffer) ∈ outbox.done) :
    ({ side with outbox, finished } : Side).Sound := by
  refine { hsound with
    outbox := houtbox
    nodup := hperm.nodup_iff.mpr hsound.nodup
    held := fun id => (hperm.mem_iff).trans (hsound.held id)
    queued := fun id buffer hmem => hsound.queued id buffer (hqueue _ hmem)
    finished := fun id status hmem hstatus payload hpending => ?_
    wrote := fun id payload hwrote => (hsound.wrote id payload hwrote).imp_right (hdone _) }
  obtain hbefore | hfailed | ⟨buffer, hqueued, hdone'⟩ := hfinished id status hmem
  · exact hdone _ (hsound.finished id status hbefore hstatus payload hpending)
  · omega
  · rw [← hsound.queued id buffer hqueued payload hpending]
    exact hdone'

/-- A step inside one end: nothing is sent and nothing is read. -/
structure Side.Keeps (side next : Side) : Prop where
  sound : next.Sound
  conn : next.conn = side.conn
  sent : next.outbox.sent = side.outbox.sent

theorem Side.Sound.write (hsound : side.Sound) {id : WriteId} {payload : Bytes} {rc : Int}
    (hwrite : side.write id payload rc = some next) : side.Keeps next := by
  unfold Side.write at hwrite
  split at hwrite
  next hidle =>
    obtain ⟨outcome, hreturned, hempty⟩ | hwaiting := connectionWrite_cases side.conn payload rc
    · rw [hreturned] at hwrite
      cases hwrite
      refine ⟨hsound.setWrite (by rw [hidle]; rfl) rfl fun other hwrote => .inl ?_, rfl, rfl⟩
      cases outcome with
      | ok value => exact Option.some.inj hwrote ▸ hempty rfl
      | error error => cases hwrote
    · rw [hwaiting] at hwrite
      simp only [Option.ite_none_left_eq_some, Option.some.injEq] at hwrite
      obtain ⟨-, rfl⟩ := hwrite
      exact ⟨hsound.accept payload hidle, rfl, rfl⟩
  · cases hwrite

/-- The first request has ended and waits for its callback. -/
theorem Side.requests_ended {outbox : Outbox WriteId UInt8} {id : WriteId} {buffer : Bytes}
    (hqueue : side.outbox.queue = (id, buffer) :: outbox.queue) (status : Int) :
    (outbox.queue.map Prod.fst ++ (side.finished ++ [(id, status)]).map Prod.fst).Perm
      side.requests := by
  rw [Side.requests, hqueue, List.map_append, ← List.append_assoc]
  exact List.perm_append_singleton _ _

theorem Side.Sound.complete (hsound : side.Sound) (hcomplete : side.complete = some next) :
    side.Keeps next := by
  simp only [Side.complete, Option.ite_none_left_eq_some, Option.map_eq_some_iff] at hcomplete
  obtain ⟨-, ⟨id, outbox⟩, hended, rfl⟩ := hcomplete
  obtain ⟨buffer, hqueue, hdone, hsent⟩ := Outbox.complete_frame hended
  refine ⟨hsound.move (hsound.outbox.complete hended) (requests_ended hqueue 0) ?_ ?_ ?_, rfl,
    hsent⟩
  · exact fun request hmem => hqueue ▸ List.mem_cons_of_mem _ hmem
  · exact fun request hmem => hdone ▸ List.mem_append_left _ hmem
  · intro other status hmem
    rcases List.mem_append.mp hmem with hbefore | hnew
    · exact .inl hbefore
    · obtain ⟨rfl, rfl⟩ := Prod.mk.inj (List.mem_singleton.mp hnew)
      exact .inr (.inr ⟨buffer, by simp [hqueue], by simp [hdone]⟩)

theorem Side.Sound.refuse (hsound : side.Sound) {code : Int}
    (hrefuse : side.refuse code = some next) : side.Keeps next := by
  simp only [Side.refuse, Option.ite_none_left_eq_some, Option.map_eq_some_iff, Bool.or_eq_true,
    decide_eq_true_eq, not_or, not_le] at hrefuse
  obtain ⟨⟨-, hcode⟩, ⟨id, outbox⟩, hended, rfl⟩ := hrefuse
  obtain ⟨buffer, hqueue, hdone, hsent⟩ := Outbox.refuse_frame hended
  refine ⟨hsound.move (hsound.outbox.refuse hended) (requests_ended hqueue code) ?_ ?_ ?_, rfl,
    hsent⟩
  · exact fun request hmem => hqueue ▸ List.mem_cons_of_mem _ hmem
  · exact fun request hmem => hdone ▸ hmem
  · intro other status hmem
    rcases List.mem_append.mp hmem with hbefore | hnew
    · exact .inl hbefore
    · obtain ⟨rfl, rfl⟩ := Prod.mk.inj (List.mem_singleton.mp hnew)
      exact .inr (.inl hcode)

theorem Side.Sound.cancel (hsound : side.Sound) (hcancel : side.cancel = some next) :
    side.Keeps next := by
  simp only [Side.cancel, Option.ite_none_right_eq_some, Option.some.injEq] at hcancel
  obtain ⟨-, rfl⟩ := hcancel
  refine ⟨hsound.move hsound.outbox.clear ?_ (by simp [Outbox.clear]) (fun _ hmem => hmem) ?_, rfl,
    rfl⟩
  · simp only [Outbox.clear, List.map_nil, List.nil_append, List.map_append, List.map_map,
      Side.requests]
    exact List.perm_append_comm
  · intro other status hmem
    rcases List.mem_append.mp hmem with hbefore | hnew
    · exact .inl hbefore
    · obtain ⟨request, -, heq⟩ := List.mem_map.mp hnew
      obtain ⟨-, rfl⟩ := Prod.mk.inj heq
      exact .inr (.inl (by decide))

theorem Side.Sound.transmit (hsound : side.Sound) {count : Nat} {outbox : Outbox WriteId UInt8}
    (htransmit : side.outbox.transmit count = some outbox) :
    ({ side with outbox } : Side).Sound := by
  obtain ⟨hqueue, hdone, -, -⟩ := Outbox.transmit_frame htransmit
  refine hsound.move (hsound.outbox.transmit htransmit) ?_ ?_ ?_ fun _ _ => .inl
  · rw [hqueue, Side.requests]
  · exact fun request hmem => hqueue ▸ hmem
  · exact fun request hmem => hdone ▸ hmem

/-- The callback of a request sets the promise of its write. -/
theorem Side.Sound.onWriteDone (hsound : side.Sound) (hdone : side.onWriteDone = some next) :
    side.Keeps next := by
  unfold Side.onWriteDone at hdone
  split at hdone
  · cases hdone
  next id status rest hfinished =>
    cases hdone
    have hperm : side.requests.Perm
        (id :: (side.outbox.queue.map Prod.fst ++ rest.map Prod.fst)) := by
      rw [Side.requests, hfinished]
      exact List.perm_middle
    obtain ⟨payload, hpending⟩ := Option.isSome_iff_exists.mp
      ((hsound.held id).mp (hperm.mem_iff.mpr List.mem_cons_self))
    have hwrite := WriteCall.pending_eq_some hpending
    obtain ⟨hnot, hnodup⟩ := List.nodup_cons.mp (hperm.nodup_iff.mp hsound.nodup)
    have hfulfil : ({ side with finished := rest } : Side).fulfil id (Tcp.onWriteDone status) =
        { side with
          finished := rest
          writes := Function.update side.writes id
            (.waiting payload (some (Tcp.onWriteDone status))) } := by
      simp only [Side.fulfil, hwrite]
    rw [hfulfil]
    obtain ⟨hqueued, hended⟩ := hsound.kept
      (fun ended hmem => hfinished ▸ List.mem_cons_of_mem _ hmem) fun other hmem =>
        Function.update_of_ne (ne_of_mem_of_not_mem hmem hnot)
          (.waiting payload (some (Tcp.onWriteDone status))) side.writes
    refine ⟨{ hsound with
      nodup := hnodup
      held := fun other => ?_
      queued := hqueued
      finished := hended
      wrote := fun other waiting hwrote => ?_ }, rfl, rfl⟩
    · by_cases hself : other = id
      · subst hself
        simpa [Side.requests, WriteCall.pending] using hnot
      · have hheld := hperm.mem_iff.symm.trans (hsound.held other)
        simpa [hself, Side.requests] using hheld
    · by_cases hself : other = id
      · subst hself
        simp only [Function.update_self] at hwrote
        obtain ⟨rfl, hstatus⟩ := WriteCall.wrote_onWriteDone hwrote
        exact .inr (hsound.finished other status (by simp [hfinished]) hstatus payload hpending)
      · exact hsound.wrote other waiting (by simpa [hself] using hwrote)

theorem Side.Sound.resumeWrite (hsound : side.Sound) {id : WriteId}
    (hresume : side.resumeWrite id = some next) : side.Keeps next := by
  unfold Side.resumeWrite at hresume
  split at hresume
  next payload outcome hwrite =>
    cases hresume
    refine ⟨hsound.setWrite (by rw [hwrite]; rfl) rfl fun other hwrote => ?_, rfl, rfl⟩
    refine hsound.wrote id other ?_
    rw [hwrite]
    cases outcome <;> exact hwrote
  · cases hresume

end Writes

/-- How far the stream from one end to the other has come. -/
structure Carried (sender receiver : Side) (wire : Bytes) (reset : Bool) : Prop where
  arrived : ∃ lost, receiver.conn.delivered.flatten ++ wire ++ lost = sender.outbox.sent ∧
    (reset = false → lost = [])
  ended : receiver.conn.eof = true →
    receiver.conn.delivered.flatten = sender.outbox.sent ∧ sender.conn.uvClosing = true

theorem Carried.frame {sender receiver senderAfter receiverAfter : Side} {wire : Bytes}
    {reset : Bool} (hcarried : Carried sender receiver wire reset)
    (hsent : senderAfter.outbox.sent = sender.outbox.sent)
    (hclosing : sender.conn.uvClosing = true → senderAfter.conn.uvClosing = true)
    (hdelivered : receiverAfter.conn.delivered.flatten = receiver.conn.delivered.flatten)
    (heof : receiverAfter.conn.eof = receiver.conn.eof) :
    Carried senderAfter receiverAfter wire reset := by
  refine ⟨by rw [hsent, hdelivered]; exact hcarried.arrived, fun hends => ?_⟩
  obtain ⟨hall, hshut⟩ := hcarried.ended (heof ▸ hends)
  exact ⟨by rw [hdelivered, hsent, hall], hclosing hshut⟩

@[simp] theorem End.other_other (place : End) : place.other.other = place := by
  cases place <;> rfl

theorem End.other_ne (place : End) : place.other ≠ place := by
  cases place <;> decide

theorem End.eq_or_other_eq (place direction : End) :
    place = direction ∨ place.other = direction := by
  cases place <;> cases direction <;> simp [End.other]

structure Sound (state : State) : Prop where
  side : ∀ place, (state.side place).Sound
  carried : ∀ place, Carried (state.side place) (state.side place.other) (state.wire place)
    state.reset

theorem sound_link : Sound initial :=
  ⟨fun _ => sound_side, fun _ => ⟨⟨[], rfl, fun _ => rfl⟩, by simp [initial]⟩⟩

variable {state next : State}

@[simp] theorem State.setSide_reset (state : State) (place : End) (side : Side) :
    (state.setSide place side).reset = state.reset := rfl

@[simp] theorem State.setSide_self (state : State) (place : End) (side : Side) :
    (state.setSide place side).side place = side := by
  simp [State.setSide]

@[simp] theorem State.setSide_other (state : State) (place : End) (side : Side) :
    (state.setSide place side).side place.other = state.side place.other := by
  simp [State.setSide, End.other_ne]

theorem Sound.side_setSide (hsound : Sound state) {place : End} {side : Side} (hside : side.Sound)
    (other : End) : ((state.setSide place side).side other).Sound := by
  obtain rfl | rfl := End.eq_or_other_eq place other
  · simpa using hside
  · simpa using hsound.side place.other

theorem Sound.setSide (hsound : Sound state) {place : End} {side : Side}
    (hkeeps : (state.side place).Keeps side) : Sound (state.setSide place side) := by
  refine ⟨hsound.side_setSide hkeeps.sound, fun direction => ?_⟩
  obtain rfl | rfl := End.eq_or_other_eq place direction
  · rw [State.setSide_self, State.setSide_other]
    exact (hsound.carried place).frame hkeeps.sent (fun hclosing => hkeeps.conn ▸ hclosing) rfl rfl
  · rw [State.setSide_other, End.other_other, State.setSide_self]
    have hcarried := hsound.carried place.other
    rw [End.other_other] at hcarried
    exact hcarried.frame rfl (fun hclosing => hclosing) (by rw [hkeeps.conn]) (by rw [hkeeps.conn])

/-- A chunk that is read is the beginning of what is on the wire. -/
theorem State.permits_chunk {place : End} {action : Tcp.Action}
    (hpermits : state.permits place action = true) :
    state.wire place.other =
      chunk action ++ (state.wire place.other).drop (chunk action).length := by
  cases action with
  | onConnectionRead nread bytes =>
      simp only [permits, chunk] at hpermits ⊢
      split at hpermits
      next hdata =>
        obtain ⟨rest, hrest⟩ := List.isPrefixOf_iff_prefix.mp hpermits
        simp [hdata, ← hrest]
      next hdata => simp [hdata]
  | _ => rfl

/-- The stream ends when the other end is closed and everything has arrived. -/
theorem State.permits_end {place : End} {action : Tcp.Action}
    (hpermits : state.permits place action = true) (hends : ends action = true) :
    state.wire place.other = [] ∧ (state.side place.other).conn.uvClosing = true ∧
      state.reset = false ∧ chunk action = [] := by
  cases action with
  | onConnectionRead nread bytes =>
      obtain rfl : nread = uvEof := by simpa [ends] using hends
      simpa [permits, chunk, uvEof, and_assoc] using hpermits
  | _ => cases hends

/-- The connection at one end goes on; what it reads comes from the wire. -/
theorem Sound.conn (hsound : Sound state) {place : End} {action : Tcp.Action}
    (hconn : state.conn place action = some next) : Sound next := by
  simp only [State.conn, Option.ite_none_right_eq_some, Option.map_eq_some_iff] at hconn
  obtain ⟨hpermits, conn, hstep, rfl⟩ := hconn
  obtain ⟨hdelivered, heof, hclosing⟩ := step_stream hstep
  have hside : ({ state.side place with conn } : Side).Sound :=
    { hsound.side place with conn := step_sound _ _ _ (hsound.side place).conn hstep }
  refine ⟨hsound.side_setSide hside, fun direction => ?_⟩
  obtain rfl | rfl := End.eq_or_other_eq place direction
  · have hwire := Function.update_of_ne (End.other_ne place).symm
      ((state.wire place.other).drop (State.chunk action).length) state.wire
    simp only [State.setSide_self, State.setSide_other, hwire]
    exact (hsound.carried place).frame rfl hclosing rfl rfl
  · have hcarried := hsound.carried place.other
    simp only [End.other_other] at hcarried
    simp only [State.setSide_other, State.setSide_self, End.other_other, Function.update_self]
    obtain ⟨lost, harrived, hlost⟩ := hcarried.arrived
    refine ⟨⟨lost, ?_, hlost⟩, fun hends => ?_⟩
    · rw [hdelivered, ← harrived, List.append_assoc _ (State.chunk action),
        ← State.permits_chunk hpermits]
    · rw [heof, Bool.or_eq_true] at hends
      rcases hends with hbefore | hnow
      · obtain ⟨hall, hshut⟩ := hcarried.ended hbefore
        -- Everything has arrived, so there is nothing to read.
        have hnothing : state.wire place.other = [] := by
          rw [← hall, List.append_assoc, List.append_right_eq_self] at harrived
          exact (List.append_eq_nil_iff.mp harrived).1
        have hchunk := State.permits_chunk hpermits
        rw [hnothing] at hchunk
        have hempty := (List.append_eq_nil_iff.mp hchunk.symm).1
        exact ⟨by rw [hdelivered, hempty, List.append_nil, hall], hshut⟩
      · obtain ⟨hwire, hshut, hreset, hempty⟩ := State.permits_end hpermits hnow
        rw [hlost hreset, hwire, List.append_nil, List.append_nil] at harrived
        exact ⟨by rw [hdelivered, hempty, List.append_nil, harrived], hshut⟩

/-- The kernel takes bytes of the first request and puts them on the wire. -/
theorem Sound.transmit (hsound : Sound state) {place : End} {count : Nat}
    (htransmit : state.transmit place count = some next) : Sound next := by
  simp only [State.transmit, Option.ite_none_left_eq_some, Option.map_eq_some_iff] at htransmit
  obtain ⟨hopen, outbox, htakes, rfl⟩ := htransmit
  obtain ⟨-, -, -, more, hmore⟩ := Outbox.transmit_frame htakes
  refine ⟨hsound.side_setSide ((hsound.side place).transmit htakes), fun direction => ?_⟩
  obtain rfl | rfl := End.eq_or_other_eq place direction
  · simp only [State.setSide_self, State.setSide_other, State.setSide_reset]
    obtain ⟨lost, harrived, hlost⟩ := (hsound.carried place).arrived
    refine ⟨?_, fun hends => absurd ((hsound.carried place).ended hends).2 hopen⟩
    rw [hmore, List.drop_left]
    cases hreset : state.reset with
    | true => exact ⟨lost ++ more, by simp [← harrived], by simp⟩
    | false =>
        refine ⟨[], ?_, fun _ => rfl⟩
        rw [hlost hreset, List.append_nil] at harrived
        simp [← harrived]
  · simp only [State.setSide_self, State.setSide_other, End.other_other]
    have hcarried := hsound.carried place.other
    simp only [End.other_other] at hcarried
    have hwire : (if state.reset then state.wire else Function.update state.wire place
        (state.wire place ++ outbox.sent.drop (state.side place).outbox.sent.length)) place.other =
        state.wire place.other := by
      split
      · rfl
      · exact Function.update_of_ne (End.other_ne place) _ _
    rw [hwire]
    exact hcarried.frame rfl (fun hclosing => hclosing) rfl rfl

/-- What is under way may be lost, but only from the end. -/
theorem Sound.reset (hsound : Sound state) (kept : End → Nat) :
    Sound { state with
      reset := true
      wire := fun place => (state.wire place).take (kept place) } := by
  refine ⟨hsound.side, fun place => ⟨?_, (hsound.carried place).ended⟩⟩
  obtain ⟨lost, harrived, -⟩ := (hsound.carried place).arrived
  refine ⟨(state.wire place).drop (kept place) ++ lost, ?_, by simp⟩
  rw [← harrived, ← List.append_assoc, List.append_assoc _ (List.take _ _), List.take_append_drop]

theorem link_step (state : State) (action : Action) (next : State) (hsound : Sound state)
    (hstep : machine.step state action = some next) : Sound next := by
  cases action with
  | conn place action => exact hsound.conn hstep
  | write place id payload rc =>
      obtain ⟨side, hwrite, rfl⟩ := Option.map_eq_some_iff.mp hstep
      exact hsound.setSide ((hsound.side place).write hwrite)
  | transmit place count => exact hsound.transmit hstep
  | complete place =>
      obtain ⟨side, hcomplete, rfl⟩ := Option.map_eq_some_iff.mp hstep
      exact hsound.setSide ((hsound.side place).complete hcomplete)
  | refuse place code =>
      obtain ⟨side, hrefuse, rfl⟩ := Option.map_eq_some_iff.mp hstep
      exact hsound.setSide ((hsound.side place).refuse hrefuse)
  | cancel place =>
      obtain ⟨side, hcancel, rfl⟩ := Option.map_eq_some_iff.mp hstep
      exact hsound.setSide ((hsound.side place).cancel hcancel)
  | onWriteDone place =>
      obtain ⟨side, hdone, rfl⟩ := Option.map_eq_some_iff.mp hstep
      exact hsound.setSide ((hsound.side place).onWriteDone hdone)
  | resumeWrite place id =>
      obtain ⟨side, hresume, rfl⟩ := Option.map_eq_some_iff.mp hstep
      exact hsound.setSide ((hsound.side place).resumeWrite hresume)
  | reset kept =>
      cases hstep
      exact hsound.reset kept

/-- What the reads at one end have returned and its buffer holds is the beginning of the
buffers that the writes at the other end have given libuv, in the order of the calls. A write
that was told of success lies in what was sent, behind those before it; once a read has seen
the end of the stream, all of what was sent has arrived. A write waits exactly while libuv has
its request, and libuv has it once. -/
theorem stream_arrives (actions : List Action) (state : State)
    (hrun : machine.run actions initial = some state) (place : End) :
    let sender := state.side place
    let receiver := (state.side place.other).conn
    let arrived := (receiver.log.map Prod.snd).flatten ++ receiver.bufferedReads.flatten
    arrived <+: Outbox.contents sender.outbox.accepted ∧
      (∀ id payload, (sender.writes id).wrote = some payload → payload = [] ∨
        ∃ before after, sender.outbox.accepted = before ++ (id, bufInit payload) :: after ∧
          Outbox.contents before ++ bufInit payload <+: sender.outbox.sent) ∧
      (receiver.eof = true → arrived = sender.outbox.sent) ∧
      sender.requests.Nodup ∧
      ∀ id, id ∈ sender.requests ↔ ((sender.writes id).pending).isSome := by
  have hsound : Sound state := Machine.reachable_invariant link_step sound_link ⟨actions, hrun⟩
  obtain ⟨lost, harrived, -⟩ := (hsound.carried place).arrived
  have hstream := (hsound.side place.other).conn.stream
  have hside := hsound.side place
  refine ⟨?_, fun id payload hwrote => ?_, fun hends => ?_, hside.nodup, hside.held⟩
  · rw [hstream]
    refine List.IsPrefix.trans ?_ hside.outbox.ordered
    rw [← harrived, List.append_assoc]
    exact List.prefix_append _ _
  · exact (hside.wrote id payload hwrote).imp_right hside.outbox.done_mem
  · rw [hstream]
    exact ((hsound.carried place).ended hends).1

/-- Two writes, the second cut in two by the network and read in one piece, and the close of
the writing end. -/
def twoWritesAndClose : List Action :=
  [.write .near 0 [1, 2] 0, .write .near 1 [3, 4, 5] 0, .conn .far (.read 0 false 64 0),
    .transmit .near 2, .complete .near, .onWriteDone .near, .transmit .near 1,
    .conn .far (.onConnectionRead 3 [1, 2, 3]), .conn .far (.resume 0 false), .transmit .near 2,
    .complete .near, .onWriteDone .near, .resumeWrite .near 0, .resumeWrite .near 1,
    .conn .near (.startClose none), .conn .far (.read 1 false 64 0),
    .conn .far (.onConnectionRead 2 [4, 5]), .conn .far (.resume 1 false),
    .conn .far (.read 2 false 64 0), .conn .far (.onConnectionRead uvEof [])]

theorem stream_arrives_twoWritesAndClose :
    ∃ state, machine.run twoWritesAndClose initial = some state ∧
      (state.side .far).conn.log = [(0, [1, 2, 3]), (1, [4, 5]), (2, [])] ∧
      [1, 2, 3, 4, 5] = (state.side .near).outbox.sent :=
  ⟨_, rfl, rfl, (stream_arrives twoWritesAndClose _ rfl .near).2.2.1 rfl⟩

end Fiberuv.Tcp.Link
