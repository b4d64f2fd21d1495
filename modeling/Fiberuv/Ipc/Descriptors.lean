import Fiberuv.Ipc.Channels

/-! # Every descriptor has one owner and is closed once

`Effect` inverts the step function. As long as requests can be posted, `close` submits the
close of exactly what its channel owns, on each of its three routes, and leaves a channel
that owns nothing. The operations therefore only acquire descriptors for a channel, move
all that a channel owns to an empty one, or release all of it.
-/

namespace Fiberuv.Ipc.Channels

open Foundation

/-- The temporary loop starts and the request is accepted. -/
structure Posting.Succeeds (posting : Posting) : Prop where
  initRc : posting.initRc = 0
  closeRc : 0 ≤ posting.closeRc

structure Postings.Succeed (postings : Postings) : Prop where
  read : postings.read.Succeeds
  write : postings.write.Succeeds

namespace ProcessChannel

variable {channel : ProcessChannel} {fd : Fd}

/-- What `close` closes, in its order. -/
def descriptors (channel : ProcessChannel) : List Fd :=
  (if channel.readFd < 0 then [] else [channel.readFd]) ++
    if 0 ≤ channel.writeFd ∧ channel.writeFd ≠ channel.readFd then [channel.writeFd] else []

theorem mem_owned : fd ∈ channel.owned ↔ (fd = channel.readFd ∨ fd = channel.writeFd) ∧ 0 ≤ fd := by
  simp [owned]

theorem mem_descriptors : fd ∈ channel.descriptors ↔ fd ∈ channel.owned := by
  rw [mem_owned, descriptors]
  split <;> split <;> grind

theorem descriptors_nodup : channel.descriptors.Nodup := by
  rw [descriptors]
  split <;> split <;> grind

/-- No loop and no descriptors. -/
structure Vacant (channel : ProcessChannel) : Prop where
  loop : channel.loop = none
  readFd : channel.readFd = -1
  writeFd : channel.writeFd = -1

theorem vacant_cleared (channel : ProcessChannel) : channel.cleared.Vacant := ⟨rfl, rfl, rfl⟩

theorem vacant_left (channel : ProcessChannel) : channel.move.2.Vacant := ⟨rfl, rfl, rfl⟩

theorem Vacant.owned (hvacant : channel.Vacant) : channel.owned = ∅ := by
  refine Finset.eq_empty_of_forall_notMem fun fd hfd => ?_
  obtain ⟨heither, hnonneg⟩ := mem_owned.mp hfd
  rw [hvacant.readFd, hvacant.writeFd] at heither
  grind

theorem Vacant.valid (hvacant : channel.Vacant) (alive : LoopId → Bool) :
    channel.valid alive = false := by
  simp [ProcessChannel.valid, hvacant.loop]

/-- The loop of the channel is the one whose lifetime it watches. -/
def Linked (channel : ProcessChannel) : Prop :=
  ∀ loop, channel.loop = some loop → channel.loopLifetime = some loop

theorem Vacant.linked (hvacant : channel.Vacant) : channel.Linked := by
  intro loop hloop
  rw [hvacant.loop] at hloop
  cases hloop

theorem linked_construct (loop : LoopId) (readFd writeFd : Fd) :
    (construct loop readFd writeFd).Linked :=
  fun _ => id

theorem Linked.strays (hlinked : channel.Linked) (alive : LoopId → Bool) :
    channel.strays alive = false := by
  rw [ProcessChannel.strays]
  split
  · rfl
  next loop hloop =>
    rw [hlinked loop hloop]
    exact Bool.and_not_self _

end ProcessChannel

theorem closeFdBestEffort_succeeds {posting : Posting} (hposting : posting.Succeeds) (fd : Fd) :
    closeFdBestEffort fd posting = (if fd < 0 then [] else [fd]).map .release := by
  have hclose : ¬ posting.closeRc < 0 := Int.not_lt.mpr hposting.closeRc
  rw [closeFdBestEffort, if_neg hclose]
  split <;> rfl

theorem closeFdWithTempLoop_succeeds {posting : Posting} (hposting : posting.Succeeds) (fd : Fd) :
    closeFdWithTempLoop fd posting = (if fd < 0 then [] else [fd]).map .release := by
  have hclose : ¬ posting.closeRc < 0 := Int.not_lt.mpr hposting.closeRc
  rw [closeFdWithTempLoop, if_neg (not_not.mpr hposting.initRc), if_neg hclose]
  split <;> rfl

theorem closeFds_eq {closeFd : Fd → Posting → Log} {postings : Postings}
    (hread : ∀ fd, closeFd fd postings.read = (if fd < 0 then [] else [fd]).map .release)
    (hwrite : ∀ fd, closeFd fd postings.write = (if fd < 0 then [] else [fd]).map .release)
    (channel : ProcessChannel) :
    channel.closeFds closeFd postings = channel.descriptors.map .release := by
  rw [ProcessChannel.closeFds, ProcessChannel.descriptors, List.map_append, hread]
  congr 1
  split
  next hboth => rw [hwrite, if_neg (Int.not_lt.mpr hboth.1)]
  next => rfl

/-- On every route `close` submits one close for each descriptor of the channel. -/
theorem requests_eq {postings : Postings} (hsucceed : postings.Succeed) (channel : ProcessChannel)
    (alive : LoopId → Bool) :
    channel.requests alive postings = channel.descriptors.map .release := by
  have hbest := closeFds_eq (closeFdBestEffort_succeeds hsucceed.read)
    (closeFdBestEffort_succeeds hsucceed.write) channel
  have htemp := closeFds_eq (closeFdWithTempLoop_succeeds hsucceed.read)
    (closeFdWithTempLoop_succeeds hsucceed.write) channel
  rw [ProcessChannel.requests]
  split
  · exact htemp
  · split
    · exact hbest
    · exact htemp

namespace State

variable {state : State} {id other : ObjectId}

@[simp] theorem put_object (state : State) (id other : ObjectId) (object : Option ProcessChannel) :
    (state.put id object).object other = if other = id then object else state.object other := by
  simp [put, Function.update_apply]

theorem put_put (state : State) (id : ObjectId) (first second : Option ProcessChannel) :
    (state.put id first).put id second = state.put id second := by
  simp [put]

theorem owns_of_absent (habsent : state.object id = none) : state.owns id = ∅ := by
  rw [owns, habsent]

theorem owns_of_some {channel : ProcessChannel} (hobject : state.object id = some channel) :
    state.owns id = channel.owned := by
  rw [owns, hobject]

theorem owns_congr {next : State} (hsame : next.object id = state.object id) :
    next.owns id = state.owns id := by
  rw [owns, owns, hsame]

theorem owns_put_self (state : State) (id : ObjectId) (channel : ProcessChannel) :
    (state.put id (some channel)).owns id = channel.owned :=
  owns_of_some (by rw [put_object, if_pos rfl])

theorem owns_put_of_ne (hne : other ≠ id) (state : State) (object : Option ProcessChannel) :
    (state.put id object).owns other = state.owns other :=
  owns_congr (by rw [put_object, if_neg hne])

theorem append_append (state : State) (first second : Log) :
    (state.append first).append second = state.append (first ++ second) := by
  simp [append]

/-- The destructor of a channel that was moved from makes no request. -/
theorem closing_vacant {channel : ProcessChannel} (hvacant : channel.Vacant) (state : State)
    (postings : Postings) : state.closing channel postings = state := by
  simp [closing, append, ProcessChannel.requests, ProcessChannel.strays, hvacant.loop,
    ProcessChannel.closeFds, hvacant.readFd, hvacant.writeFd, closeFdWithTempLoop]

end State

/-- The branches of the step function. -/
inductive Effect (state : State) : Action → State → Prop where
  | defaultConstruct {target} (habsent : state.object target = none) :
      Effect state (.defaultConstruct target) (state.put target (some {}))
  | noPipe {loop first second ab ba postings} :
      Effect state (.pair loop first second ab ba postings) state
  /-- There is no second pipe. -/
  | halfPair {loop first second ab ba postings} (hab : ab.opens state.opened = true)
      (hmade : 0 ≤ ab.rc) :
      Effect state (.pair loop first second ab ba postings)
        (state.append (ab.ends.map .acquire ++ (closeFdBestEffort ab.readEnd postings.read ++
          closeFdBestEffort ab.writeEnd postings.write)))
  | pair {loop first second ab ba postings} (hne : first ≠ second)
      (hfirst : state.object first = none) (hsecond : state.object second = none)
      (hab : ab.opens state.opened = true) (hmadeAb : 0 ≤ ab.rc)
      (hba : ba.opens (state.opened ∪ ab.ends.toFinset) = true) (hmadeBa : 0 ≤ ba.rc) :
      Effect state (.pair loop first second ab ba postings)
        (((state.append ((ab.ends ++ ba.ends).map .acquire)).put first
          (some (.construct loop ba.readEnd ab.writeEnd))).put second
            (some (.construct loop ab.readEnd ba.writeEnd)))
  | refuse {target loop readFd writeFd} : Effect state (.adopt target loop readFd writeFd) state
  | adopt {target loop readFd writeFd} (habsent : state.object target = none)
      (hread : 0 ≤ readFd) (hwrite : 0 ≤ writeFd) :
      Effect state (.adopt target loop readFd writeFd)
        ((state.append ([readFd, writeFd].dedup.map .acquire)).put target
          (some (.construct loop readFd writeFd)))
  | moveConstruct {target source other} (htarget : state.object target = none)
      (hsource : state.object source = some other) :
      Effect state (.moveConstruct target source)
        ((state.put target (some other.move.1)).put source (some other.move.2))
  | selfAssign {target postings} : Effect state (.moveAssign target target postings) state
  | moveAssign {target source postings channel other} (hne : target ≠ source)
      (htarget : state.object target = some channel) (hsource : state.object source = some other) :
      Effect state (.moveAssign target source postings)
        (((state.closing channel postings).put target (some other.move.1)).put source
          (some other.move.2))
  | close {target postings channel} (htarget : state.object target = some channel) :
      Effect state (.close target postings)
        ((state.closing channel postings).put target (some channel.cleared))
  | destroy {target postings channel} (htarget : state.object target = some channel) :
      Effect state (.destroy target postings) ((state.closing channel postings).put target none)
  | endLoop {loop} :
      Effect state (.endLoop loop)
        { state with alive := Function.update state.alive loop false }

theorem stepPair_effect {state : State} {loop : LoopId} {first second : ObjectId} {ab ba : Pipe}
    {postings : Postings} (hne : first ≠ second) (hfirst : state.object first = none)
    (hsecond : state.object second = none) (hab : ab.opens state.opened = true)
    (hba : ab.rc < 0 ∨ ba.opens (state.opened ∪ ab.ends.toFinset) = true) :
    Effect state (.pair loop first second ab ba postings)
      (state.stepPair loop first second ab ba postings) := by
  by_cases hmissingAb : ab.rc < 0
  · simp only [State.stepPair, State.pair, hmissingAb, if_true]
    exact .noPipe
  have hmadeAb := Int.not_lt.mp hmissingAb
  by_cases hmissingBa : ba.rc < 0
  · simp only [State.stepPair, State.pair, hmissingAb, hmissingBa, if_true, if_false,
      State.append_append]
    exact .halfPair hab hmadeAb
  · have hopens := hba.resolve_left hmissingAb
    simp only [State.stepPair, State.pair, hmissingAb, hmissingBa, if_false,
      State.append_append, ← List.map_append]
    rw [State.closing_vacant (ProcessChannel.vacant_left _),
      State.closing_vacant (ProcessChannel.vacant_left _)]
    exact .pair hne hfirst hsecond hab hmadeAb hopens (Int.not_lt.mp hmissingBa)

theorem stepAdopt_effect {state : State} {target : ObjectId} (loop : LoopId) (readFd writeFd : Fd)
    (habsent : state.object target = none) :
    Effect state (.adopt target loop readFd writeFd)
      (state.stepAdopt target loop readFd writeFd) := by
  rw [State.stepAdopt, ProcessChannel.adopt]
  split
  next => exact .refuse
  next channel hadopted =>
    split at hadopted
    next => cases hadopted
    next hvalid =>
      obtain rfl := Except.ok.inj hadopted
      rw [not_or, Int.not_lt, Int.not_lt] at hvalid
      exact .adopt habsent hvalid.1 hvalid.2

theorem step_effect {state next : State} {action : Action}
    (hstep : machine.step state action = some next) : Effect state action next := by
  simp only [machine, State.step] at hstep
  split at hstep
  · cases hstep
  cases action with
  | defaultConstruct target =>
      dsimp only at hstep
      split at hstep
      next habsent => exact Option.some.inj hstep ▸ .defaultConstruct habsent
      next => cases hstep
  | pair loop first second ab ba postings =>
      simp only [Option.ite_none_right_eq_some, Option.some.injEq, Option.isNone_iff_eq_none]
        at hstep
      obtain ⟨⟨-, hne, hfirst, hsecond, hab, hba⟩, rfl⟩ := hstep
      exact stepPair_effect hne hfirst hsecond hab hba
  | adopt target loop readFd writeFd =>
      simp only [Option.ite_none_right_eq_some, Option.some.injEq, Option.isNone_iff_eq_none]
        at hstep
      obtain ⟨⟨-, habsent⟩, rfl⟩ := hstep
      exact stepAdopt_effect loop readFd writeFd habsent
  | moveConstruct target source =>
      dsimp only at hstep
      split at hstep
      next other htarget hsource =>
        exact Option.some.inj hstep ▸ .moveConstruct htarget hsource
      next => cases hstep
  | moveAssign target source postings =>
      dsimp only at hstep
      split at hstep
      next channel other htarget hsource =>
        split at hstep
        next hself =>
          subst hself
          exact Option.some.inj hstep ▸ .selfAssign
        next hne => exact Option.some.inj hstep ▸ .moveAssign hne htarget hsource
      next => cases hstep
  | close target postings =>
      dsimp only at hstep
      split at hstep
      next => cases hstep
      next channel htarget => exact Option.some.inj hstep ▸ .close htarget
  | destroy target postings =>
      dsimp only at hstep
      split at hstep
      next => cases hstep
      next channel htarget => exact Option.some.inj hstep ▸ .destroy htarget
  | endLoop loop => exact Option.some.inj hstep ▸ .endLoop

/-- Requests are accepted, and no channel owns a descriptor that is adopted. -/
def Granted (state : State) : Action → Prop
  | .pair _ _ _ _ _ postings => postings.Succeed
  | .moveAssign _ _ postings => postings.Succeed
  | .close _ postings => postings.Succeed
  | .destroy _ postings => postings.Succeed
  | .adopt _ _ readFd writeFd => ∀ id, readFd ∉ state.owns id ∧ writeFd ∉ state.owns id
  | _ => True

/-- The channels own what is open, each descriptor one of them. -/
structure Sound (state : State) : Prop where
  shared : SharedOut state.owns state.log
  linked : ∀ id channel, state.object id = some channel → channel.Linked
  noFault : state.fault = false

theorem sound_initial : Sound initial := ⟨SharedOut.start, nofun, rfl⟩

section Steps

variable {state next : State} {action : Action} {postings : Postings}

theorem linked_put {id : ObjectId} {object : Option ProcessChannel}
    (hlinked : ∀ id channel, state.object id = some channel → channel.Linked)
    (hobject : ∀ channel, object = some channel → channel.Linked) (other : ObjectId)
    (channel : ProcessChannel) (hother : (state.put id object).object other = some channel) :
    channel.Linked := by
  rw [State.put_object] at hother
  split at hother
  · exact hobject channel hother
  · exact hlinked other channel hother

theorem Sound.not_owned (hsound : Sound state) {fd : Fd} (hclosed : fd ∉ state.opened)
    (id : ObjectId) : fd ∉ state.owns id :=
  fun howned => hclosed ((hsound.shared.held fd).mpr ⟨id, howned⟩)

theorem vacant_of_left (other : ProcessChannel) :
    ∀ left, some other.move.2 = some left → left.Vacant :=
  fun _ hleft => Option.some.inj hleft ▸ other.vacant_left

theorem vacant_of_cleared (channel : ProcessChannel) :
    ∀ left, some channel.cleared = some left → left.Vacant :=
  fun _ hleft => Option.some.inj hleft ▸ channel.vacant_cleared

theorem owns_put_empty {id : ObjectId} {object : Option ProcessChannel}
    (hempty : ∀ channel, object = some channel → channel.Vacant) :
    (state.put id object).owns id = ∅ := by
  cases object with
  | none => exact State.owns_of_absent (by simp)
  | some channel => rw [State.owns_put_self, (hempty channel rfl).owned]

/-- An empty channel is put where nothing is owned. -/
theorem Sound.putVacant (hsound : Sound state) {id : ObjectId} {channel : ProcessChannel}
    (hempty : state.owns id = ∅) (hvacant : channel.Vacant) :
    Sound (state.put id (some channel)) := by
  refine ⟨hsound.shared.congr fun other => ?_, ?_, hsound.noFault⟩
  · by_cases hself : other = id
    · rw [hself, hempty]
      exact owns_put_empty fun _ hchannel => Option.some.inj hchannel ▸ hvacant
    · exact State.owns_put_of_ne hself state _
  · exact linked_put hsound.linked fun _ hchannel => Option.some.inj hchannel ▸ hvacant.linked

/-- `close` and the destructor. -/
theorem Sound.closing (hsound : Sound state) (hsucceed : postings.Succeed) {id : ObjectId}
    {channel : ProcessChannel} (hobject : state.object id = some channel)
    {left : Option ProcessChannel} (hleft : ∀ channel, left = some channel → channel.Vacant) :
    Sound ((state.closing channel postings).put id left) := by
  refine ⟨?_, ?_, ?_⟩
  · have howned : ∀ fd, fd ∈ channel.descriptors ↔ fd ∈ state.owns id := fun fd => by
      rw [ProcessChannel.mem_descriptors, State.owns_of_some hobject]
    have hlog : ((state.closing channel postings).put id left).log =
        state.log ++ channel.descriptors.map .release := by
      rw [← requests_eq hsucceed channel state.alive]
      rfl
    rw [hlog]
    exact hsound.shared.release id ProcessChannel.descriptors_nodup howned
      (owns_put_empty hleft) fun other hne => State.owns_put_of_ne hne _ left
  · exact linked_put hsound.linked fun left hchannel => (hleft left hchannel).linked
  · have hstays := (hsound.linked id channel hobject).strays state.alive
    rw [State.put, State.closing, hsound.noFault, hstays]
    rfl

/-- The moves into a channel that owns nothing. -/
theorem Sound.move (hsound : Sound state) {target source : ObjectId} {other : ProcessChannel}
    (hne : target ≠ source) (hempty : state.owns target = ∅)
    (hsource : state.object source = some other) :
    Sound ((state.put target (some other.move.1)).put source (some other.move.2)) := by
  refine ⟨?_, ?_, hsound.noFault⟩
  · have htarget : ((state.put target (some other.move.1)).put source (some other.move.2)).owns
        target = state.owns source := by
      rw [State.owns_put_of_ne hne, State.owns_put_self, State.owns_of_some hsource]
      rfl
    refine hsound.shared.move hempty htarget (owns_put_empty (vacant_of_left _)) ?_
    intro id hfrom hto
    rw [State.owns_put_of_ne hfrom, State.owns_put_of_ne hto]
  · refine linked_put (linked_put hsound.linked fun moved hmoved => ?_) fun left hleft => ?_
    · exact Option.some.inj hmoved ▸ hsound.linked source other hsource
    · exact Option.some.inj hleft ▸ (ProcessChannel.vacant_left other).linked

theorem Sound.moveAssign (hsound : Sound state) (hsucceed : postings.Succeed)
    {target source : ObjectId} {channel other : ProcessChannel} (hne : target ≠ source)
    (htarget : state.object target = some channel) (hsource : state.object source = some other) :
    Sound (((state.closing channel postings).put target (some other.move.1)).put source
      (some other.move.2)) := by
  have hclosed := hsound.closing hsucceed htarget (vacant_of_cleared channel)
  rw [← State.put_put _ target (some channel.cleared)]
  refine hclosed.move hne (owns_put_empty (vacant_of_cleared _)) ?_
  rw [State.put_object, if_neg (Ne.symm hne)]
  exact hsource

theorem Sound.adopt (hsound : Sound state) {target : ObjectId} {loop : LoopId} {readFd writeFd : Fd}
    (habsent : state.object target = none) (hread : 0 ≤ readFd) (hwrite : 0 ≤ writeFd)
    (hnew : ∀ id, readFd ∉ state.owns id ∧ writeFd ∉ state.owns id) :
    Sound ((state.append ([readFd, writeFd].dedup.map .acquire)).put target
      (some (.construct loop readFd writeFd))) := by
  refine ⟨?_, ?_, hsound.noFault⟩
  · refine hsound.shared.acquire (fun _ => target) (List.nodup_dedup _) ?_ ?_
    · intro fd hfd id
      simp only [List.mem_dedup, List.mem_cons, List.not_mem_nil, or_false] at hfd
      obtain rfl | rfl := hfd
      · exact (hnew id).1
      · exact (hnew id).2
    · intro id fd
      by_cases hself : id = target
      · subst hself
        rw [State.owns_put_self, ProcessChannel.mem_owned, State.owns_of_absent habsent]
        simp only [ProcessChannel.construct, List.mem_dedup, List.mem_cons, List.not_mem_nil]
        grind
      · rw [State.owns_put_of_ne hself]
        simp only [Ne.symm hself, and_false, or_false]
        rfl
  · exact linked_put hsound.linked fun _ hchannel =>
      Option.some.inj hchannel ▸ ProcessChannel.linked_construct loop readFd writeFd

/-- What `uv_pipe` promises. -/
theorem Pipe.opens_spec {pipe : Pipe} {opened : Finset Fd} (hopens : pipe.opens opened = true)
    (hmade : 0 ≤ pipe.rc) :
    0 ≤ pipe.readEnd ∧ 0 ≤ pipe.writeEnd ∧ pipe.ends.Nodup ∧ ∀ fd ∈ pipe.ends, fd ∉ opened := by
  simp only [Pipe.opens, Int.not_lt.mpr hmade, decide_false, Bool.false_or, Bool.and_eq_true,
    decide_eq_true_eq] at hopens
  exact ⟨hopens.1.1.1, hopens.1.1.2, hopens.1.2, hopens.2⟩

/-- The descriptors of a half-built pair are closed before any channel has them. -/
theorem Sound.halfPair (hsound : Sound state) (hsucceed : postings.Succeed) {ab : Pipe}
    (hopens : ab.opens state.opened = true) (hmade : 0 ≤ ab.rc) :
    Sound (state.append (ab.ends.map .acquire ++ (closeFdBestEffort ab.readEnd postings.read ++
      closeFdBestEffort ab.writeEnd postings.write))) := by
  obtain ⟨hread, hwrite, hnodup, hnew⟩ := Pipe.opens_spec hopens hmade
  have hcloses : closeFdBestEffort ab.readEnd postings.read ++
      closeFdBestEffort ab.writeEnd postings.write = ab.ends.map .release := by
    rw [closeFdBestEffort_succeeds hsucceed.read, closeFdBestEffort_succeeds hsucceed.write,
      if_neg (Int.not_lt.mpr hread), if_neg (Int.not_lt.mpr hwrite)]
    rfl
  rw [hcloses]
  exact ⟨hsound.shared.pass hnodup fun fd hfd => hsound.not_owned (hnew fd hfd), hsound.linked,
    hsound.noFault⟩

/-- Each of the new channels gets one end of each pipe. -/
theorem Sound.pair (hsound : Sound state) {loop : LoopId} {first second : ObjectId} {ab ba : Pipe}
    (hne : first ≠ second) (hfirst : state.object first = none)
    (hsecond : state.object second = none) (hab : ab.opens state.opened = true)
    (hmadeAb : 0 ≤ ab.rc) (hba : ba.opens (state.opened ∪ ab.ends.toFinset) = true)
    (hmadeBa : 0 ≤ ba.rc) :
    Sound (((state.append ((ab.ends ++ ba.ends).map .acquire)).put first
      (some (.construct loop ba.readEnd ab.writeEnd))).put second
        (some (.construct loop ab.readEnd ba.writeEnd))) := by
  obtain ⟨hreadAb, hwriteAb, hnodupAb, hnewAb⟩ := Pipe.opens_spec hab hmadeAb
  obtain ⟨hreadBa, hwriteBa, hnodupBa, hnewBa⟩ := Pipe.opens_spec hba hmadeBa
  have hapart : ∀ fd ∈ ba.ends, fd ∉ ab.ends := fun fd hfd hmem =>
    hnewBa fd hfd (Finset.mem_union_right _ (List.mem_toFinset.mpr hmem))
  have hnodup : (ab.ends ++ ba.ends).Nodup :=
    List.nodup_append'.mpr ⟨hnodupAb, hnodupBa, fun fd hmem hfd => hapart fd hfd hmem⟩
  refine ⟨?_, ?_, hsound.noFault⟩
  · refine hsound.shared.acquire
      (fun fd => if fd = ba.readEnd ∨ fd = ab.writeEnd then first else second) hnodup ?_ ?_
    · intro fd hfd
      obtain hmem | hmem := List.mem_append.mp hfd
      · exact hsound.not_owned (hnewAb fd hmem)
      · exact hsound.not_owned fun hopened => hnewBa fd hmem (Finset.mem_union_left _ hopened)
    · intro id fd
      simp only [Pipe.ends, List.cons_append, List.nil_append, List.nodup_cons, List.mem_cons,
        List.not_mem_nil, or_false, not_or] at hnodup ⊢
      by_cases hat : id = second
      · subst hat
        rw [State.owns_put_self, ProcessChannel.mem_owned, State.owns_of_absent hsecond]
        simp only [ProcessChannel.construct]
        grind
      · rw [State.owns_put_of_ne hat]
        by_cases hat' : id = first
        · subst hat'
          rw [State.owns_put_self, ProcessChannel.mem_owned, State.owns_of_absent hfirst]
          simp only [ProcessChannel.construct]
          grind
        · rw [State.owns_put_of_ne hat']
          have hothers : (if fd = ba.readEnd ∨ fd = ab.writeEnd then first else second) ≠ id := by
            split
            · exact Ne.symm hat'
            · exact Ne.symm hat
          simp only [hothers, and_false, or_false]
          rfl
  · refine linked_put (linked_put hsound.linked fun _ hchannel => ?_) fun _ hchannel => ?_
    · exact Option.some.inj hchannel ▸ ProcessChannel.linked_construct loop ba.readEnd ab.writeEnd
    · exact Option.some.inj hchannel ▸ ProcessChannel.linked_construct loop ab.readEnd ba.writeEnd

theorem step_sound (hsound : Sound state) (hgranted : Granted state action)
    (hstep : machine.step state action = some next) : Sound next := by
  cases step_effect hstep with
  | defaultConstruct habsent =>
      exact hsound.putVacant (State.owns_of_absent habsent) ⟨rfl, rfl, rfl⟩
  | noPipe => exact hsound
  | halfPair hab hmade => exact hsound.halfPair hgranted hab hmade
  | pair hne hfirst hsecond hab hmadeAb hba hmadeBa =>
      exact hsound.pair hne hfirst hsecond hab hmadeAb hba hmadeBa
  | refuse => exact hsound
  | adopt habsent hread hwrite => exact hsound.adopt habsent hread hwrite hgranted
  | @moveConstruct target source other htarget hsource =>
      have hne : target ≠ source := by
        rintro rfl
        rw [hsource] at htarget
        cases htarget
      exact hsound.move hne (State.owns_of_absent htarget) hsource
  | selfAssign => exact hsound
  | moveAssign hne htarget hsource => exact hsound.moveAssign hgranted hne htarget hsource
  | close htarget => exact hsound.closing hgranted htarget (vacant_of_cleared _)
  | destroy htarget => exact hsound.closing hgranted htarget nofun
  | endLoop => exact ⟨hsound.shared, hsound.linked, hsound.noFault⟩

/-- The channel is closed by the action, or something else is moved out of it. -/
def Action.Vacates : Action → ObjectId → Prop
  | .moveConstruct _ source, id => id = source
  | .moveAssign target source _, id => target ≠ source ∧ id = source
  | .close target _, id => id = target
  | _, _ => False

/-- The action constructs or assigns a channel that may own something. -/
def Action.Fills : Action → ObjectId → Prop
  | .pair _ first second _ _ _, id => id = first ∨ id = second
  | .adopt target _ _ _, id => id = target
  | .moveConstruct target _, id => id = target
  | .moveAssign target source _, id => target ≠ source ∧ id = target
  | _, _ => False

/-- A closed or moved-from channel to which nothing has been moved since. -/
def Vacated (actions : List Action) (id : ObjectId) : Prop :=
  ∃ before action after, actions = before ++ action :: after ∧ action.Vacates id ∧
    ∀ later ∈ after, ¬ later.Fills id

/-- There is no channel, or one without a loop and descriptors. -/
def State.VacantAt (state : State) (id : ObjectId) : Prop :=
  ∀ channel, state.object id = some channel → channel.Vacant

theorem State.VacantAt.owns {id : ObjectId} (hvacant : state.VacantAt id) : state.owns id = ∅ := by
  cases hobject : state.object id with
  | none => exact owns_of_absent hobject
  | some channel => rw [owns_of_some hobject, (hvacant channel hobject).owned]

theorem State.VacantAt.valid {id : ObjectId} (hvacant : state.VacantAt id) :
    state.valid id = false := by
  rw [State.valid]
  split
  · rfl
  next channel hobject => exact (hvacant channel hobject).valid state.alive

theorem State.VacantAt.append {id : ObjectId} (hvacant : state.VacantAt id) (log : Log) :
    (state.append log).VacantAt id := hvacant

theorem State.VacantAt.closing {id : ObjectId} (hvacant : state.VacantAt id)
    (channel : ProcessChannel) (postings : Postings) :
    (state.closing channel postings).VacantAt id := hvacant

theorem vacantAt_put_self {id : ObjectId} {object : Option ProcessChannel}
    (hobject : ∀ channel, object = some channel → channel.Vacant) :
    (state.put id object).VacantAt id := by
  intro channel hchannel
  rw [State.put_object, if_pos rfl] at hchannel
  exact hobject channel hchannel

theorem State.VacantAt.put {id other : ObjectId} {object : Option ProcessChannel}
    (hvacant : state.VacantAt id) (hobject : id ≠ other ∨
      ∀ channel, object = some channel → channel.Vacant) :
    (state.put other object).VacantAt id := by
  intro channel hchannel
  rw [State.put_object] at hchannel
  split at hchannel
  next hself => exact hobject.resolve_left (not_not.mpr hself) channel hchannel
  next => exact hvacant channel hchannel

theorem vacantAt_of_vacates (heffect : Effect state action next) {id : ObjectId}
    (hvacates : action.Vacates id) : next.VacantAt id := by
  cases heffect with
  | moveConstruct => exact hvacates ▸ vacantAt_put_self (vacant_of_left _)
  | selfAssign => exact absurd rfl hvacates.1
  | moveAssign => exact hvacates.2 ▸ vacantAt_put_self (vacant_of_left _)
  | close => exact hvacates ▸ vacantAt_put_self (vacant_of_cleared _)
  | _ => exact hvacates.elim

theorem State.VacantAt.step (heffect : Effect state action next) {id : ObjectId}
    (hvacant : state.VacantAt id) (hleaves : ¬ action.Fills id) : next.VacantAt id := by
  cases heffect with
  | defaultConstruct =>
      exact hvacant.put (.inr fun _ hchannel => Option.some.inj hchannel ▸ ⟨rfl, rfl, rfl⟩)
  | noPipe => exact hvacant
  | halfPair => exact hvacant
  | pair =>
      obtain ⟨hfirst, hsecond⟩ := not_or.mp hleaves
      exact ((hvacant.append _).put (.inl hfirst)).put (.inl hsecond)
  | refuse => exact hvacant
  | adopt => exact (hvacant.append _).put (.inl hleaves)
  | moveConstruct => exact (hvacant.put (.inl hleaves)).put (.inr (vacant_of_left _))
  | selfAssign => exact hvacant
  | @moveAssign target source postings channel other hne =>
      have htarget : id ≠ target := fun hself => hleaves ⟨hne, hself⟩
      exact ((hvacant.closing channel postings).put (.inl htarget)).put (.inr (vacant_of_left _))
  | close => exact (hvacant.closing _ _).put (.inr (vacant_of_cleared _))
  | destroy => exact (hvacant.closing _ _).put (.inr nofun)
  | endLoop => exact hvacant

end Steps

theorem vacantAt_of_vacated {actions : List Action} {start state : State} {id : ObjectId}
    (hvacated : Vacated actions id) (hrun : machine.run actions start = some state) :
    state.VacantAt id := by
  obtain ⟨before, action, after, rfl, hvacates, hleaves⟩ := hvacated
  rw [Machine.run_append] at hrun
  obtain ⟨middle, -, hrun⟩ := Option.bind_eq_some_iff.mp hrun
  rw [Machine.run_cons] at hrun
  obtain ⟨next, hstep, hrun⟩ := Option.bind_eq_some_iff.mp hrun
  have hmeets : machine.Meets (fun _ later => ¬ later.Fills id) after next := by
    refine Machine.meets_iff_forall.mpr fun first later rest reached hsplit _ => ?_
    exact hleaves later (hsplit ▸ List.mem_append_right first List.mem_cons_self)
  have hkept : ∀ reached later following, State.VacantAt reached id → ¬ later.Fills id →
      machine.step reached later = some following → State.VacantAt following id :=
    fun _ _ _ hvacant hnot hstep => hvacant.step (step_effect hstep) hnot
  have hstart : next.VacantAt id := vacantAt_of_vacates (step_effect hstep) hvacates
  exact Machine.run_invariant hkept after next state hstart hmeets hrun

/-- What a history leaves: the open descriptors are shared out among the channels, and of
those that were opened each has been closed once or is still open. -/
structure OwnedOnce (actions : List Action) (state : State) : Prop where
  owner : ∀ fd, fd ∈ state.opened → ∃! id, fd ∈ state.owns id
  opened : ∀ id fd, fd ∈ state.owns id → fd ∈ state.opened
  vacated : ∀ id, Vacated actions id → state.owns id = ∅ ∧ state.valid id = false
  /-- The next access of a descriptor after it was opened or adopted is its close. -/
  closed : ∀ fd before after, state.log = before ++ .acquire fd :: after →
    (Untouched fd after ∧ ∃ id, fd ∈ state.owns id) ∨ Released fd after
  /-- Each close has an opening or an adoption of its own. -/
  closes : ∀ fd before after, state.log = before ++ .release fd :: after → Acquired fd before
  allClosed : (∀ id, state.object id = none) →
    ∀ fd before after, state.log = before ++ .acquire fd :: after → Released fd after
  noFault : state.fault = false

/-- Every history of the operations, with loops destroyed in between, leaves each open
descriptor with one channel and closes each descriptor once. -/
theorem descriptors_owned_once (actions : List Action) (state : State)
    (hgranted : machine.Meets Granted actions initial)
    (hrun : machine.run actions initial = some state) : OwnedOnce actions state := by
  have hsound : Sound state :=
    Machine.run_invariant (fun _ _ _ hsound => step_sound hsound) actions initial state
      sound_initial hgranted hrun
  have hends : ∀ fd before after, state.log = before ++ .acquire fd :: after →
      (Untouched fd after ∧ ∃ id, fd ∈ state.owns id) ∨ Released fd after := by
    intro fd before after hlog
    have hpaired := hsound.shared.paired
    rw [hlog] at hpaired
    refine hpaired.ends.imp_left fun hlasts => ⟨hlasts.1, (hsound.shared.held fd).mp ?_⟩
    rw [hlog]
    exact hlasts.2
  refine ⟨fun fd hopened => ?_, fun id fd howned => (hsound.shared.held fd).mpr ⟨id, howned⟩,
    fun id hvacated => ?_, hends, fun fd before after hlog => ?_,
    fun hgone fd before after hlog => ?_, hsound.noFault⟩
  · obtain ⟨id, hid⟩ := (hsound.shared.held fd).mp hopened
    exact ⟨id, hid, fun other hother => hsound.shared.alone fd other id hother hid⟩
  · have hvacant := vacantAt_of_vacated hvacated hrun
    exact ⟨hvacant.owns, hvacant.valid⟩
  · have hpaired := hsound.shared.paired
    rw [hlog] at hpaired
    exact hpaired.begins (Finset.notMem_empty fd)
  · refine (hends fd before after hlog).resolve_left fun hlasts => ?_
    obtain ⟨-, id, howned⟩ := hlasts
    rw [State.owns_of_absent (hgone id)] at howned
    exact Finset.notMem_empty fd howned

/-- Every request is accepted. -/
def accepted : Postings := ⟨⟨0, 0⟩, ⟨0, 0⟩⟩

theorem accepted_succeed : accepted.Succeed := ⟨⟨rfl, le_rfl⟩, rfl, le_rfl⟩

/-- One descriptor adopted for both directions, a pair, a half-built pair, both moves, a close
on a destroyed loop, and a pair with numbers that were in use before. -/
def movedAndReused : List Action :=
  [.adopt 0 0 9 9, .pair 0 1 2 ⟨0, 3, 4⟩ ⟨0, 5, 6⟩ accepted,
    .pair 0 3 4 ⟨0, 7, 8⟩ ⟨-24, -1, -1⟩ accepted, .moveConstruct 3 1, .moveAssign 2 3 accepted,
    .endLoop 0, .destroy 2 accepted, .pair 1 4 5 ⟨0, 3, 4⟩ ⟨0, 5, 6⟩ accepted,
    .close 0 accepted]

theorem granted_movedAndReused : machine.Meets Granted movedAndReused initial := by
  refine Machine.meets_cons (fun id => ⟨Finset.notMem_empty 9, Finset.notMem_empty 9⟩) rfl ?_
  refine Machine.meets_cons accepted_succeed rfl ?_
  refine Machine.meets_cons accepted_succeed rfl ?_
  refine Machine.meets_cons trivial rfl ?_
  refine Machine.meets_cons accepted_succeed rfl ?_
  refine Machine.meets_cons trivial rfl ?_
  refine Machine.meets_cons accepted_succeed rfl ?_
  refine Machine.meets_cons accepted_succeed rfl ?_
  exact Machine.meets_cons accepted_succeed rfl trivial

theorem descriptors_owned_once_movedAndReused :
    ∃ state, machine.run movedAndReused initial = some state ∧ state.opened = {3, 4, 5, 6} ∧
      OwnedOnce movedAndReused state :=
  ⟨_, rfl, by decide, descriptors_owned_once movedAndReused _ granted_movedAndReused rfl⟩

end Fiberuv.Ipc.Channels
