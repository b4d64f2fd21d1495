import Fiberuv.Ipc.Closing

/-! # Requests on a closed process channel

A call that `close` overtakes is safe only if its outstanding request fails. If the request
transfers bytes or is interrupted, the loop submits another one on the descriptor it has
kept; if it completes the length field, `*loop_` is a null dereference, or leads to the
descriptor that has been moved in.
-/

namespace Fiberuv.Ipc.Closing

open Foundation

/-- The request fails; or it transfers a part of what is left of the buffer, or is
interrupted, while its descriptor is not being closed. -/
def Harmless (closing : Prop) (size offset : Nat) : Outcome → Prop
  | .notStarted _ => True
  | .result value =>
      (0 < value → offset + value.toNat < size ∧ ¬ closing) ∧ (Retry value → ¬ closing)

/-- The same for the buffer that a receive is filling. -/
def HarmlessRead (closing : Prop) : RecvState → Outcome → Prop
  | .length got, outcome => Harmless closing 8 got.length outcome
  | .payload size got, outcome => Harmless closing size got.length outcome
  | .finished _, _ => True

/-- Every request of an overtaken call that completes is harmless. -/
def Timely (state : State) : Action → Prop
  | .wrote id outcome => ∀ payload part offset fd,
      state.call id = .sending payload part offset fd true →
        Harmless (.close fd ∈ state.submitted) (payload.part part).length offset outcome
  | .read id _ outcome _ => ∀ before fd, state.call id = .receiving before fd true →
      HarmlessRead (.close fd ∈ state.submitted) before outcome
  | _ => True

/-- No request follows the close of its descriptor, no null loop is used, and overtaken calls
fail. -/
structure Safe (state : State) : Prop where
  noFault : state.fault = false
  quiet : QuietAfterClose state.submitted
  sent : ∀ id result, state.call id = .sent result true → result ≠ .ok true
  received : ∀ id result, state.call id = .received result true →
    ∀ frame, result ≠ .ok (some frame)

/-- What holds of the channel while all requests are timely. -/
structure Sound (state : State) : Prop extends Safe state where
  opened : ∀ fd, fd = state.members.readFd ∨ fd = state.members.writeFd → 0 ≤ fd →
    .close fd ∉ state.submitted
  owned : ∀ fd, fd = state.members.readFd ∨ fd = state.members.writeFd → 0 ≤ fd →
    fd ∈ state.owned
  closed : ∀ fd, .close fd ∈ state.submitted → fd ∈ state.owned
  /-- A descriptor that is going to be closed is no member. -/
  closers : ∀ id assigns readFd writeFd,
    state.closer id = .closingRead assigns readFd writeFd → 0 ≤ writeFd →
      writeFd ∈ state.owned ∧ writeFd ≠ state.members.readFd ∧ writeFd ≠ state.members.writeFd
  /-- A call that nothing has overtaken uses the members. -/
  sending : ∀ id payload part offset fd, state.call id = .sending payload part offset fd false →
    state.members.loop = true ∧ fd = state.members.writeFd ∧ 0 ≤ fd
  receiving : ∀ id before fd, state.call id = .receiving before fd false →
    state.members.loop = true ∧ fd = state.members.readFd ∧ 0 ≤ fd
  waiting : ∀ id before fd overtaken, state.call id = .receiving before fd overtaken →
    ∀ result, before ≠ .finished result

theorem sound_initial (members : Members) : Sound (initial members) where
  noFault := rfl
  quiet := quietAfterClose_nil
  sent := by simp [initial]
  received := by simp [initial]
  opened := by simp [initial]
  owned := by
    rintro fd (rfl | rfl) - <;> simp [initial]
  closed := by simp [initial]
  closers := by simp [initial]
  sending := by simp [initial]
  receiving := by simp [initial]
  waiting := by simp [initial]

variable {state next : State}

@[simp] theorem State.setCall_call (state : State) (id other : CallId) (call : Call) :
    (state.setCall id call).call other = if other = id then call else state.call other := by
  simp [State.setCall, Function.update_apply]

section Harmless

variable {closing : Prop} {size offset : Nat} {outcome : Outcome}

/-- The loop ends with a failure, or it goes on while the descriptor is not being closed. -/
def Progress.Failing (closing : Prop) : Progress → Prop
  | .running _ => ¬ closing
  | .returned done => done = false
  | .threw _ => True

theorem failing_enterLoop (hpart : offset < size ∧ ¬ closing) :
    Progress.Failing closing (enterLoop size offset) := by
  rw [enterLoop, if_pos hpart.1]
  exact hpart.2

theorem Harmless.writeExactNext (hharmless : Harmless closing size offset outcome) :
    Progress.Failing closing (Ipc.writeExactNext size offset outcome) := by
  cases outcome with
  | notStarted rc => trivial
  | result wrote =>
      obtain ⟨hpart, hretry⟩ := hharmless
      simp only [Ipc.writeExactNext]
      split
      next hpos => exact failing_enterLoop (hpart hpos)
      split
      · rfl
      split
      next hagain => exact hretry hagain
      next => trivial

theorem Harmless.readExactNext (hharmless : Harmless closing size offset outcome)
    (allowEofAtStart : Bool) :
    Progress.Failing closing (Ipc.readExactNext allowEofAtStart size offset outcome) := by
  cases outcome with
  | notStarted rc => trivial
  | result nread =>
      obtain ⟨hpart, hretry⟩ := hharmless
      simp only [Ipc.readExactNext]
      split
      next hpos => exact failing_enterLoop (hpart hpos)
      split
      · split
        · rfl
        · trivial
      split
      next hagain => exact hretry hagain
      next => trivial

end Harmless

section Calls

/-- A call changes its position. -/
theorem Sound.setCall (hsound : Sound state) {id : CallId} {call : Call}
    (hsent : ∀ result, call = .sent result true → result ≠ .ok true)
    (hreceived : ∀ result, call = .received result true → ∀ frame, result ≠ .ok (some frame))
    (hsending : ∀ payload part offset fd, call = .sending payload part offset fd false →
      state.members.loop = true ∧ fd = state.members.writeFd ∧ 0 ≤ fd)
    (hreceiving : ∀ before fd, call = .receiving before fd false →
      state.members.loop = true ∧ fd = state.members.readFd ∧ 0 ≤ fd)
    (hwaiting : ∀ before fd overtaken, call = .receiving before fd overtaken →
      ∀ result, before ≠ .finished result) : Sound (state.setCall id call) :=
  { hsound with
    sent := by
      intro other result hother
      rw [State.setCall_call] at hother
      split at hother
      · exact hsent result hother
      · exact hsound.sent other result hother
    received := by
      intro other result hother
      rw [State.setCall_call] at hother
      split at hother
      · exact hreceived result hother
      · exact hsound.received other result hother
    sending := by
      intro other payload part offset fd hother
      rw [State.setCall_call] at hother
      split at hother
      · exact hsending payload part offset fd hother
      · exact hsound.sending other payload part offset fd hother
    receiving := by
      intro other before fd hother
      rw [State.setCall_call] at hother
      split at hother
      · exact hreceiving before fd hother
      · exact hsound.receiving other before fd hother
    waiting := by
      intro other before fd overtaken hother
      rw [State.setCall_call] at hother
      split at hother
      · exact hwaiting before fd overtaken hother
      · exact hsound.waiting other before fd overtaken hother }

theorem Sound.finishSend (hsound : Sound state) (id : CallId) {result : Except Error Bool}
    {overtaken : Bool} (hresult : overtaken = true → result ≠ .ok true) :
    Sound (state.setCall id (.sent result overtaken)) := by
  refine hsound.setCall ?_ (by simp) (by simp) (by simp) (by simp)
  rintro other ⟨⟩
  exact hresult rfl

theorem Sound.finishRecv (hsound : Sound state) (id : CallId)
    {result : Except Error (Option Bytes)} {overtaken : Bool}
    (hresult : overtaken = true → ∀ frame, result ≠ .ok (some frame)) :
    Sound (state.setCall id (.received result overtaken)) := by
  refine hsound.setCall (by simp) ?_ (by simp) (by simp) (by simp)
  rintro other ⟨⟩
  exact hresult rfl

/-- A transfer on a descriptor that is not closed. -/
theorem Sound.transfer (hsound : Sound state) {fd : Fd} (hopen : .close fd ∉ state.submitted) :
    Sound (state.submit (.transfer fd)) :=
  { hsound with
    quiet := hsound.quiet.transfer hopen
    opened := fun other hmember hother => by
      simpa [State.submit] using hsound.opened other hmember hother
    closed := fun other hother => hsound.closed other (by simpa [State.submit] using hother) }

theorem Sound.submitWrite (hsound : Sound state) (id : CallId) {payload : Payload} {part : Part}
    {offset : Nat} {fd : Fd} {overtaken : Bool} (hopen : .close fd ∉ state.submitted)
    (hmember : overtaken = false →
      state.members.loop = true ∧ fd = state.members.writeFd ∧ 0 ≤ fd) :
    Sound (state.submitWrite id payload part offset fd overtaken) := by
  refine (hsound.transfer hopen).setCall (by simp) (by simp) ?_ (by simp) (by simp)
  rintro otherPayload otherPart otherOffset otherFd ⟨⟩
  exact hmember rfl

theorem Sound.submitRead (hsound : Sound state) (id : CallId) {before : RecvState} {fd : Fd}
    {overtaken : Bool} (hopen : .close fd ∉ state.submitted)
    (hmember : overtaken = false → state.members.loop = true ∧ fd = state.members.readFd ∧ 0 ≤ fd)
    (hwaiting : ∀ result, before ≠ .finished result) :
    Sound (state.submitRead id before fd overtaken) := by
  refine (hsound.transfer hopen).setCall (by simp) (by simp) (by simp) ?_ ?_
  · rintro otherBefore otherFd ⟨⟩
    exact hmember rfl
  · rintro otherBefore otherFd otherOvertaken ⟨⟩
    exact hwaiting

theorem valid_members (hvalid : state.valid = true) :
    state.members.loop = true ∧ 0 ≤ state.members.readFd ∧ 0 ≤ state.members.writeFd := by
  have htests : ((state.alive = true ∧ state.members.loop = true) ∧ 0 ≤ state.members.readFd) ∧
      0 ≤ state.members.writeFd := by
    simpa [State.valid] using hvalid
  exact ⟨htests.1.1.2, htests.1.2, htests.2⟩

theorem Sound.send (hsound : Sound state) (id : CallId) (payload : Payload) :
    Sound (state.send id payload) := by
  unfold State.send
  cases hvalid : state.valid with
  | true =>
      obtain ⟨hloop, -, hwrite⟩ := valid_members hvalid
      rw [sendBlob_valid]
      exact hsound.submitWrite id (hsound.opened _ (.inr rfl) hwrite)
        fun _ => ⟨hloop, rfl, hwrite⟩
  | false => exact hsound.finishSend id (by simp)

theorem Sound.recv (hsound : Sound state) (id : CallId) : Sound (state.recv id) := by
  unfold State.recv
  cases hvalid : state.valid with
  | true =>
      obtain ⟨hloop, hread, -⟩ := valid_members hvalid
      exact hsound.submitRead id (hsound.opened _ (.inl rfl) hread)
        (fun _ => ⟨hloop, rfl, hread⟩) (by simp [recvBlob])
  | false => exact hsound.finishRecv id (by simp)

/-- The loop of a call goes on with a descriptor that is not closed. -/
theorem Sound.open_of_running (hsound : Sound state) {fd member : Fd} {overtaken : Bool}
    (hmember : member = state.members.readFd ∨ member = state.members.writeFd)
    (hkept : overtaken = false → state.members.loop = true ∧ fd = member ∧ 0 ≤ fd)
    (hharmless : overtaken = true → .close fd ∉ state.submitted) :
    .close fd ∉ state.submitted := by
  cases overtaken with
  | true => exact hharmless rfl
  | false =>
      obtain ⟨-, heq, hfd⟩ := hkept rfl
      rw [← heq] at hmember
      exact hsound.opened fd hmember hfd

theorem Sound.wrote (hsound : Sound state) {id : CallId} {payload : Payload} {part : Part}
    {offset : Nat} {fd : Fd} {overtaken : Bool} {outcome : Outcome}
    (hcall : state.call id = .sending payload part offset fd overtaken)
    (htimely : Timely state (.wrote id outcome)) :
    Sound (state.wrote id payload part offset fd overtaken outcome) := by
  have hkept : overtaken = false →
      state.members.loop = true ∧ fd = state.members.writeFd ∧ 0 ≤ fd := by
    rintro rfl
    exact hsound.sending id payload part offset fd hcall
  have hharmless : overtaken = true → Progress.Failing (.close fd ∈ state.submitted)
      (writeExactNext (payload.part part).length offset outcome) := by
    rintro rfl
    exact (htimely payload part offset fd hcall).writeExactNext
  unfold State.wrote
  rw [sendBlobNext]
  cases hprogress : writeExactNext (payload.part part).length offset outcome with
  | running more =>
      rw [hprogress] at hharmless
      simp only [sendAfter, if_true]
      exact hsound.submitWrite id (hsound.open_of_running (.inr rfl) hkept hharmless) hkept
  | threw error => exact hsound.finishSend id (by simp)
  | returned done =>
      rw [hprogress] at hharmless
      cases done with
      | false => exact hsound.finishSend id (by simp)
      | true =>
          -- Only a call that nothing has overtaken gets here.
          have hrunning : overtaken = false := by
            cases overtaken with
            | false => rfl
            | true => exact absurd (hharmless rfl) (by simp [Progress.Failing])
          obtain ⟨hloop, hfd, hpos⟩ := hkept hrunning
          have hwrite : 0 ≤ state.members.writeFd := hfd ▸ hpos
          cases part with
          | payload => exact hsound.finishSend id (by simp [hrunning])
          | length =>
              by_cases hempty : payload.bytes.length = 0
              · simp only [sendAfter, if_pos hempty]
                exact hsound.finishSend id (by simp [hrunning])
              · simp only [sendAfter, if_neg hempty, hloop, reduceCtorEq, if_false, Bool.not_true,
                  Bool.false_eq_true]
                exact hsound.submitWrite id (hsound.opened _ (.inr rfl) hwrite)
                  fun _ => ⟨hloop, rfl, hwrite⟩

theorem Sound.proceed (hsound : Sound state) (id : CallId) {before after : RecvState} {fd : Fd}
    {overtaken : Bool}
    (hkept : overtaken = false → state.members.loop = true ∧ fd = state.members.readFd ∧ 0 ≤ fd)
    (hfinished : overtaken = true → ∀ frame, after ≠ .finished (.ok (some frame)))
    (hsame : overtaken = true → (∀ result, after ≠ .finished result) →
      State.samePart before after = true ∧ .close fd ∉ state.submitted) :
    Sound (state.proceed id before fd overtaken after) := by
  have hgoes : (∀ result, after ≠ .finished result) →
      Sound (if State.samePart before after then state.submitRead id after fd overtaken
        else if !state.members.loop then { state with fault := true }
        else state.submitRead id after state.members.readFd overtaken) := by
    intro hwaiting
    split
    · refine hsound.submitRead id ?_ hkept hwaiting
      exact hsound.open_of_running (.inl rfl) hkept fun hover => (hsame hover hwaiting).2
    next hother =>
      have hrunning : overtaken = false := by
        cases overtaken with
        | false => rfl
        | true => exact absurd (hsame rfl hwaiting).1 hother
      obtain ⟨hloop, hfd, hpos⟩ := hkept hrunning
      have hread : 0 ≤ state.members.readFd := hfd ▸ hpos
      simp only [hloop, Bool.not_true, Bool.false_eq_true, if_false]
      exact hsound.submitRead id (hsound.opened _ (.inl rfl) hread) (fun _ => ⟨hloop, rfl, hread⟩)
        hwaiting
  cases after with
  | length got => exact hgoes (by simp)
  | payload size got => exact hgoes (by simp)
  | finished result =>
      refine hsound.finishRecv id fun hover frame heq => ?_
      exact hfinished hover frame (heq ▸ rfl)

/-- Without `allow_eof_at_start`, `read_exact` does not return false. -/
theorem readExactNext_ne_false (size offset : Nat) (outcome : Outcome) :
    readExactNext false size offset outcome ≠ .returned false := by
  cases outcome with
  | notStarted rc => simp [readExactNext]
  | result value =>
      simp only [readExactNext, enterLoop]
      split
      · split <;> simp
      · split
        · simp
        · split <;> simp

/-- What a harmless request makes of an overtaken receive. -/
theorem recvBlobNext_harmless {closing : Prop} {before : RecvState} {outcome : Outcome}
    (hwaiting : ∀ result, before ≠ .finished result)
    (hharmless : HarmlessRead closing before outcome) (memory : Nat → Bool)
    (bytes : Bytes) :
    (∃ error, recvBlobNext memory bytes outcome before = .finished (.error error)) ∨
      recvBlobNext memory bytes outcome before = .finished (.ok none) ∨
      (State.samePart before (recvBlobNext memory bytes outcome before) = true ∧ ¬ closing) := by
  cases before with
  | length got =>
      have hfailing := Harmless.readExactNext hharmless true
      cases hprogress : readExactNext true 8 got.length outcome with
      | running more =>
          rw [hprogress] at hfailing
          exact .inr (.inr ⟨by simp [recvBlobNext, hprogress, State.samePart], hfailing⟩)
      | threw error => exact .inl ⟨error, by simp [recvBlobNext, hprogress]⟩
      | returned done =>
          rw [hprogress] at hfailing
          obtain rfl : done = false := hfailing
          exact .inr (.inl (by simp [recvBlobNext, hprogress]))
  | payload size got =>
      have hfailing := Harmless.readExactNext hharmless false
      cases hprogress : readExactNext false size got.length outcome with
      | running more =>
          rw [hprogress] at hfailing
          exact .inr (.inr ⟨by simp [recvBlobNext, hprogress, State.samePart], hfailing⟩)
      | threw error => exact .inl ⟨error, by simp [recvBlobNext, hprogress]⟩
      | returned done =>
          rw [hprogress] at hfailing
          obtain rfl : done = false := hfailing
          exact absurd hprogress (readExactNext_ne_false size got.length outcome)
  | finished result => exact absurd rfl (hwaiting result)

theorem Sound.read (hsound : Sound state) {id : CallId} {before : RecvState} {fd : Fd}
    {overtaken : Bool} {bytes : Bytes} {outcome : Outcome} {allocates : Bool}
    (hcall : state.call id = .receiving before fd overtaken)
    (htimely : Timely state (.read id bytes outcome allocates)) :
    Sound (state.read id before fd overtaken bytes outcome allocates) := by
  have hwaiting := hsound.waiting id before fd overtaken hcall
  refine hsound.proceed id ?_ ?_ ?_
  · rintro rfl
    exact hsound.receiving id before fd hcall
  · rintro rfl frame hframe
    rcases recvBlobNext_harmless hwaiting (htimely before fd hcall) (fun _ => allocates) bytes with
      ⟨error, herror⟩ | hnone | ⟨hsame, -⟩
    · simp [herror] at hframe
    · simp [hnone] at hframe
    · rw [hframe] at hsame
      cases before <;> simp [State.samePart] at hsame
  · rintro rfl hgoes
    rcases recvBlobNext_harmless hwaiting (htimely before fd hcall) (fun _ => allocates) bytes with
      ⟨error, herror⟩ | hnone | hsame
    · exact absurd herror (hgoes _)
    · exact absurd hnone (hgoes _)
    · exact hsame

end Calls

section Closers

/-- A call that was not overtaken before is now. -/
theorem Call.overtake_cases (call : Call) :
    (∀ result overtaken, call.overtake = .sent result overtaken → call = .sent result overtaken) ∧
      (∀ result overtaken, call.overtake = .received result overtaken →
        call = .received result overtaken) ∧
      (∀ payload part offset fd, call.overtake ≠ .sending payload part offset fd false) ∧
      (∀ before fd, call.overtake ≠ .receiving before fd false) ∧
      (∀ before fd overtaken, call.overtake = .receiving before fd overtaken →
        ∃ earlier, call = .receiving before fd earlier) := by
  cases call <;> simp [Call.overtake]

/-- The members are cleared or replaced, and every call in progress is overtaken. -/
theorem Sound.replace (hsound : Sound state) {members : Members} {owned : List Fd}
    (hgrown : state.owned ⊆ owned)
    (howned : ∀ fd, fd = members.readFd ∨ fd = members.writeFd → 0 ≤ fd → fd ∈ owned)
    (hforeign : ∀ fd, fd = members.readFd ∨ fd = members.writeFd → 0 ≤ fd → fd ∉ state.owned) :
    Sound { state with
      members := members
      call := fun id => (state.call id).overtake
      owned := owned } :=
  { hsound with
    sent := fun id result hcall =>
      hsound.sent id result ((Call.overtake_cases _).1 result true hcall)
    received := fun id result hcall =>
      hsound.received id result ((Call.overtake_cases _).2.1 result true hcall)
    opened := fun fd hmember hfd hclosed => hforeign fd hmember hfd (hsound.closed fd hclosed)
    owned := howned
    closed := fun fd hclosed => hgrown (hsound.closed fd hclosed)
    closers := by
      intro id assigns readFd writeFd hcloser hpos
      obtain ⟨hmem, -⟩ := hsound.closers id assigns readFd writeFd hcloser hpos
      refine ⟨hgrown hmem, fun heq => ?_, fun heq => ?_⟩
      · exact hforeign writeFd (.inl heq) hpos hmem
      · exact hforeign writeFd (.inr heq) hpos hmem
    sending := fun id payload part offset fd hcall =>
      absurd hcall ((Call.overtake_cases _).2.2.1 payload part offset fd)
    receiving := fun id before fd hcall =>
      absurd hcall ((Call.overtake_cases _).2.2.2.1 before fd)
    waiting := by
      intro id before fd overtaken hcall
      obtain ⟨earlier, hearlier⟩ := (Call.overtake_cases _).2.2.2.2 before fd overtaken hcall
      exact hsound.waiting id before fd earlier hearlier }

/-- A descriptor that is no member any more is closed. -/
theorem Sound.submitClose (hsound : Sound state) {fd : Fd} (howned : fd ∈ state.owned)
    (hread : fd ≠ state.members.readFd) (hwrite : fd ≠ state.members.writeFd) :
    Sound (state.submit (.close fd)) :=
  { hsound with
    quiet := hsound.quiet.close fd
    opened := by
      intro other hmember hother
      have hne : other ≠ fd := by
        rintro rfl
        rcases hmember with heq | heq
        · exact hread heq
        · exact hwrite heq
      simpa [State.submit, hne] using hsound.opened other hmember hother
    closed := by
      intro other hother
      rcases List.mem_append.mp hother with hold | hnew
      · exact hsound.closed other hold
      · obtain rfl := Submission.close.inj (List.mem_singleton.mp hnew)
        exact howned }

theorem Sound.setCloser (hsound : Sound state) {id : CloserId} {closer : Closer}
    (hcloser : ∀ assigns readFd writeFd, closer = .closingRead assigns readFd writeFd →
      0 ≤ writeFd → writeFd ∈ state.owned ∧ writeFd ≠ state.members.readFd ∧
        writeFd ≠ state.members.writeFd) : Sound (state.setCloser id closer) :=
  { hsound with
    closers := by
      intro other assigns readFd writeFd hother
      simp only [State.setCloser, Function.update_apply] at hother
      split at hother
      · exact hcloser assigns readFd writeFd hother
      · exact hsound.closers other assigns readFd writeFd hother }

theorem foreign_iff {incoming : Members} (hforeign : state.foreign incoming = true) :
    ∀ fd, fd = incoming.readFd ∨ fd = incoming.writeFd → 0 ≤ fd → fd ∉ state.owned := by
  simp only [State.foreign, Bool.and_eq_true, Bool.or_eq_true, decide_eq_true_eq,
    Bool.not_eq_true', decide_eq_false_iff_not] at hforeign
  rintro fd (rfl | rfl) hfd
  · exact hforeign.1.resolve_left (Int.not_lt.mpr hfd)
  · exact hforeign.2.resolve_left (Int.not_lt.mpr hfd)

theorem Sound.finishClose (hsound : Sound state) (id : CloserId) {assigns : Bool}
    {incoming : Members} (hforeign : assigns = true → state.foreign incoming = true) :
    Sound (state.finishClose id assigns incoming) := by
  unfold State.finishClose
  split
  next hassigns =>
    refine Sound.setCloser ?_ (by simp)
    refine hsound.replace (List.subset_append_left _ _) ?_ (foreign_iff (hforeign hassigns))
    rintro fd (rfl | rfl) - <;> simp
  next => exact hsound.setCloser (by simp)

/-- The descriptors that `close` has taken out of the members. -/
structure TakenOut (state : State) (fd : Fd) : Prop where
  owned : 0 ≤ fd → fd ∈ state.owned
  read : 0 ≤ fd → fd ≠ state.members.readFd
  write : 0 ≤ fd → fd ≠ state.members.writeFd

theorem Sound.closeWrite (hsound : Sound state) (id : CloserId) {assigns : Bool}
    {readFd writeFd : Fd} {environment : Environment} (hwrite : TakenOut state writeFd)
    (hforeign : assigns = true → state.foreign environment.incoming = true) :
    Sound (state.closeWrite id assigns readFd writeFd environment) := by
  unfold State.closeWrite
  split
  next hcloses =>
    refine Sound.setCloser ?_ (by simp)
    exact hsound.submitClose (hwrite.owned hcloses.1) (hwrite.read hcloses.1)
      (hwrite.write hcloses.1)
  next => exact hsound.finishClose id hforeign

theorem Sound.closeRead (hsound : Sound state) (id : CloserId) {assigns : Bool}
    {readFd writeFd : Fd} {environment : Environment} (hread : TakenOut state readFd)
    (hwrite : TakenOut state writeFd)
    (hforeign : assigns = true → state.foreign environment.incoming = true) :
    Sound (state.closeRead id assigns readFd writeFd environment) := by
  unfold State.closeRead
  split
  next hcloses =>
    have hclosed := hsound.submitClose (hread.owned hcloses.1) (hread.read hcloses.1)
      (hread.write hcloses.1)
    refine hclosed.setCloser ?_
    rintro otherAssigns otherRead otherWrite ⟨⟩ hpos
    exact ⟨hwrite.owned hpos, hwrite.read hpos, hwrite.write hpos⟩
  next => exact hsound.closeWrite id hwrite hforeign

theorem Sound.closeNow (hsound : Sound state) {fd : Fd} (rc : Int) (hfd : TakenOut state fd) :
    Sound (state.closeNow fd rc) ∧ (state.closeNow fd rc).members = state.members ∧
      (state.closeNow fd rc).owned = state.owned := by
  unfold State.closeNow
  split
  next hcloses =>
    exact ⟨hsound.submitClose (hfd.owned hcloses.1) (hfd.read hcloses.1) (hfd.write hcloses.1),
      rfl, rfl⟩
  next => exact ⟨hsound, rfl, rfl⟩

theorem Sound.closeBothNow (hsound : Sound state) {readFd writeFd : Fd}
    (environment : Environment) (hread : TakenOut state readFd) (hwrite : TakenOut state writeFd) :
    Sound (state.closeBothNow readFd writeFd environment) ∧
      (state.closeBothNow readFd writeFd environment).owned = state.owned := by
  obtain ⟨hfirst, hmembers, howned⟩ := hsound.closeNow environment.readRc hread
  have hsecond : TakenOut (state.closeNow readFd environment.readRc) writeFd := by
    refine ⟨?_, ?_, ?_⟩
    · rw [howned]
      exact hwrite.owned
    · rw [hmembers]
      exact hwrite.read
    · rw [hmembers]
      exact hwrite.write
  unfold State.closeBothNow
  dsimp only
  split
  · obtain ⟨hboth, -, hsame⟩ := hfirst.closeNow environment.writeRc hsecond
    exact ⟨hboth, hsame.trans howned⟩
  · exact ⟨hfirst, howned⟩

theorem Sound.close (hsound : Sound state) (id : CloserId) {assigns : Bool}
    {environment : Environment}
    (hforeign : assigns = true → state.foreign environment.incoming = true) :
    Sound (state.close id assigns environment) := by
  have hcleared : Sound { state with
      members := {}
      call := fun id => (state.call id).overtake } := by
    refine hsound.replace (List.Subset.refl _) ?_ ?_
    · rintro fd (rfl | rfl) hfd <;> simp at hfd
    · rintro fd (rfl | rfl) hfd <;> simp at hfd
  have htaken : ∀ fd, fd = state.members.readFd ∨ fd = state.members.writeFd →
      TakenOut { state with
        members := {}
        call := fun id => (state.call id).overtake } fd := by
    intro fd hmember
    refine ⟨hsound.owned fd hmember, ?_, ?_⟩
    · rintro hfd rfl
      simp at hfd
    · rintro hfd rfl
      simp at hfd
  unfold State.close
  dsimp only
  split
  · exact hcleared.closeRead id (htaken _ (.inl rfl)) (htaken _ (.inr rfl)) hforeign
  · obtain ⟨hclosed, howned⟩ :=
      hcleared.closeBothNow environment (htaken _ (.inl rfl)) (htaken _ (.inr rfl))
    refine hclosed.finishClose id fun hassigns => ?_
    have hstill := hforeign hassigns
    simpa [State.foreign, howned] using hstill

end Closers

theorem step_sound {action : Action} (hsound : Sound state) (htimely : Timely state action)
    (hstep : machine.step state action = some next) : Sound next := by
  replace hstep : state.step action = some next := hstep
  unfold State.step at hstep
  split at hstep
  · cases hstep
  cases action with
  | send id payload =>
      dsimp only at hstep
      split at hstep <;> cases hstep
      exact hsound.send id payload
  | wrote id outcome =>
      dsimp only at hstep
      split at hstep
      next payload part offset fd overtaken hcall =>
        cases hstep
        exact hsound.wrote hcall htimely
      next => cases hstep
  | recv id =>
      dsimp only at hstep
      split at hstep <;> cases hstep
      exact hsound.recv id
  | read id bytes outcome allocates =>
      dsimp only at hstep
      split at hstep
      next before fd overtaken hcall =>
        simp only [Option.ite_none_right_eq_some, Option.some.injEq] at hstep
        exact hstep.2 ▸ hsound.read hcall htimely
      next => cases hstep
  | close id environment =>
      dsimp only at hstep
      split at hstep <;> cases hstep
      exact hsound.close id (by simp)
  | assign id environment =>
      dsimp only at hstep
      split at hstep
      · simp only [Option.ite_none_right_eq_some, Option.some.injEq] at hstep
        exact hstep.2 ▸ hsound.close id fun _ => hstep.1
      · cases hstep
  | closed id environment =>
      simp only [Option.ite_none_right_eq_some] at hstep
      obtain ⟨hforeign, hstep⟩ := hstep
      split at hstep
      next assigns readFd writeFd hcloser =>
        cases hstep
        have hwrite : TakenOut state writeFd :=
          ⟨fun hpos => (hsound.closers id assigns readFd writeFd hcloser hpos).1,
            fun hpos => (hsound.closers id assigns readFd writeFd hcloser hpos).2.1,
            fun hpos => (hsound.closers id assigns readFd writeFd hcloser hpos).2.2⟩
        exact hsound.closeWrite id hwrite fun _ => hforeign
      next assigns hcloser =>
        cases hstep
        exact hsound.finishClose id fun _ => hforeign
      next => cases hstep
  | endLoop =>
      cases hstep
      exact { hsound with }

/-- In every run in which the requests of overtaken calls are harmless, no request follows
the close of its descriptor, no null loop is used, and overtaken calls fail. -/
theorem safe_of_timely (members : Members) (actions : List Action) (state : State)
    (hmeets : machine.Meets Timely actions (initial members))
    (hrun : machine.run actions (initial members) = some state) : Safe state := by
  have hsound : Sound state :=
    Machine.run_invariant (fun _ _ _ hsound htimely hstep => step_sound hsound htimely hstep)
      actions (initial members) state (sound_initial members) hmeets hrun
  exact hsound.toSafe

/-- The two descriptors of an endpoint. -/
def endpoint : Members where
  loop := true
  readFd := 3
  writeFd := 4

def accepted : Environment where
  readRc := 0
  writeRc := 0
  incoming := {}

/-- `send` is waiting for the request of its length field when `close` is called. -/
def closedDuringSend (outcome : Outcome) : List Action :=
  [.send 0 (.ofByte 7), .close 0 accepted, .wrote 0 outcome]

/-- When the request fails, the send returns false. -/
theorem safe_closedDuringSend :
    ∃ state, machine.run (closedDuringSend (.result uvEpipe) ++ [.closed 0 accepted])
        (initial endpoint) = some state ∧
      state.call 0 = .sent (.ok false) true ∧
      state.submitted = [.transfer 4, .close 3, .close 4] ∧ Safe state := by
  have hmeets : machine.Meets Timely (closedDuringSend (.result uvEpipe) ++ [.closed 0 accepted])
      (initial endpoint) := by
    refine Machine.meets_cons trivial rfl (Machine.meets_cons trivial rfl
      (Machine.meets_cons ?_ rfl (Machine.meets_cons trivial rfl trivial)))
    rintro payload part offset fd ⟨⟩
    exact ⟨fun hpos => absurd hpos (by decide), fun hretry => absurd hretry (by decide)⟩
  exact ⟨_, rfl, rfl, rfl, safe_of_timely endpoint _ _ hmeets rfl⟩

/-- When the length field has been written, `send_blob` dereferences the null `loop_`. -/
theorem unsafe_closedDuringSend :
    ¬ ∀ (members : Members) (actions : List Action) (state : State),
      machine.run actions (initial members) = some state → Safe state := by
  intro halwaysSafe
  have hsafe := halwaysSafe endpoint (closedDuringSend (.result 8)) _ rfl
  exact absurd hsafe.noFault (by decide)

end Fiberuv.Ipc.Closing
