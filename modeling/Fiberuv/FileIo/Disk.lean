import Fiberuv.FileIo.CleanEnd
import Fiberuv.Io.FileCursor
import Mathlib.Data.List.TakeDrop

/-! # The chains over a disk

The results of requests are no longer arbitrary: an open obeys its flags, a write request
moves some beginning of its buffer to the place it asks for, and a read request some of
what is there. A request may fail at any point.

What a chain that returns has done follows from a rule in the manner of a loop rule: a
condition that the open request establishes and every transfer keeps, and that gives the
final one when the chain stops of its own accord.
-/

namespace Fiberuv.FileIo

open Foundation
open Io.FileCursor (bufLength overwrite)

/-- The bytes of a file or of a `std::string`, the length of which is below `2 ^ 63`. -/
structure Contents where
  bytes : Bytes
  bound : bytes.length < 2 ^ 63

def Contents.empty : Contents := ⟨[], Nat.two_pow_pos 63⟩

abbrev Disk := String → Option Contents

inductive OpenFlag where
  | rdonly
  | wronly
  | creat
  | append
  | trunc
  deriving DecidableEq

/-- A successful open. Without `UV_FS_O_CREAT` a file that does not exist is not opened. -/
def Disk.opened (disk : Disk) (path : String) (flags : List OpenFlag) : Option Disk :=
  match disk path with
  | none =>
      if .creat ∈ flags then some (Function.update disk path (some .empty)) else none
  | some _ =>
      if .trunc ∈ flags then some (Function.update disk path (some .empty)) else some disk

/-- The file after a write, unless it would become too long. -/
def Contents.write (contents : Contents) (place : Nat) (bytes : Bytes) : Option Contents :=
  if hbound : (overwrite contents.bytes place bytes).length < 2 ^ 63 then
    some ⟨overwrite contents.bytes place bytes, hbound⟩
  else none

/-- The disk with a chain that works on it. -/
structure World (Work Value : Type) where
  disk : Disk
  chain : State Work Value

variable {Work Value : Type}

/-- What the operating system does to the disk in the request that a callback reports, or
`none` for a report that it does not make. -/
abbrev Service (Work : Type) := Disk → Work → Action → Option Disk

def Chain.hosted (chain : Chain Work Value) (serve : Service Work) :
    Machine (World Work Value) Action where
  step world action :=
    (chain.machine.step world.chain action).bind fun next =>
      (serve world.disk world.chain.work action).map fun disk => { disk, chain := next }

/-- The conditions of the rule: before the file is open, while it is transferred, and when
the chain has stopped without an error. -/
structure Rule (chain : Chain Work Value) (serve : Service Work)
    (before during after : Disk → Work → Prop) : Prop where
  call : ∀ {disk next work rc}, before disk work → serve disk work (.call rc) = some next →
    before next work
  opens : ∀ {disk next work result starts}, before disk work → 0 ≤ asInt result →
    serve disk work (.onOpen result starts) = some next → during next work
  moves : ∀ {disk next work result buffer starts}, during disk work → 0 < result →
    serve disk work (.onTransfer result buffer starts) = some next →
      during next (chain.advance work result.toNat buffer)
  stops : ∀ {disk next work buffer starts}, during disk work → chain.zeroEnds = true →
    serve disk work (.onTransfer 0 buffer starts) = some next → after next work
  done : ∀ {disk work}, during disk work → chain.done work = true → after disk work
  closes : ∀ {disk next work result}, after disk work →
    serve disk work (.onClose result) = some next → after next work

/-- Which condition holds where the chain is. -/
structure Tracks (chain : Chain Work Value) (before during after : Disk → Work → Prop)
    (disk : Disk) (state : State Work Value) : Prop where
  fresh : state.called = false → before disk state.work
  opening : .opening ∈ state.pending → before disk state.work
  transfer : .transfer ∈ state.pending → during disk state.work
  closing : .closing ∈ state.pending → state.errors = [] → after disk state.work
  value : ∀ value, state.promise = some (.ok value) →
    after disk state.work ∧ value = chain.value state.work

section Rule

variable {chain : Chain Work Value} {serve : Service Work}
  {before during after : Disk → Work → Prop} {disk : Disk} {state next : State Work Value}

/-- Finalizing reports the value only if no error occurred. -/
theorem tracks_finalize {closeCalls : Nat} (hlive : Live state [] closeCalls)
    (hafter : state.errors = [] → after disk state.work) :
    Tracks chain before during after disk (state.finalize chain) := by
  unfold State.finalize
  rw [hlive.use]
  refine ⟨by simp [hlive.called], by simp [hlive.pending], by simp [hlive.pending],
    by simp [hlive.pending], fun value hvalue => ?_⟩
  have herror := hlive.error
  cases herrors : state.errors with
  | nil =>
      simp only [herror, herrors, List.head?_nil, Option.some.injEq, Except.ok.injEq] at hvalue
      exact ⟨hafter herrors, hvalue.symm⟩
  | cons error rest => simp [herror, herrors] at hvalue

theorem tracks_onClose {closeCalls : Nat} (hlive : Live state [] closeCalls)
    (hafter : state.errors = [] → after disk state.work) (result : Int) :
    Tracks chain before during after disk (state.onClose chain result) := by
  unfold State.onClose
  rw [hlive.use]
  dsimp only
  split
  · exact tracks_finalize (hlive.failFirst _) (by simp [State.failFirst])
  · exact tracks_finalize hlive hafter

theorem tracks_closeFile {closeCalls : Nat} (hlive : Live state [] closeCalls)
    (hafter : state.errors = [] → after disk state.work) (rc : Int) :
    Tracks chain before during after disk (state.closeFile chain rc) := by
  unfold State.closeFile
  rw [hlive.use]
  dsimp only
  split
  · exact tracks_finalize hlive hafter
  have hcalled : Live { state with closeCalls := state.closeCalls + 1 } [] (closeCalls + 1) :=
    { hlive with closeCalls := by simp [hlive.closeCalls] }
  split
  · exact tracks_finalize (hcalled.failFirst _) (by simp [State.failFirst])
  · refine ⟨by simp [State.submit, hlive.called], by simp [State.submit, hlive.pending],
      by simp [State.submit, hlive.pending], fun _ => hafter, ?_⟩
    simp [State.submit, hlive.promise]

/-- The error paths of all callbacks. -/
theorem tracks_fail (hlive : Live state [] 0) (herrors : state.errors = []) (error : Error)
    (rc : Int) :
    Tracks chain before during after disk ((state.fail error).closeFile chain rc) :=
  tracks_closeFile (hlive.fail herrors error) (by simp [State.fail]) rc

theorem tracks_nextChunk (hrule : Rule chain serve before during after)
    (hlive : Live state [] 0) (herrors : state.errors = []) (hduring : during disk state.work)
    (starts : Starts) :
    Tracks chain before during after disk (state.nextChunk chain starts) := by
  unfold State.nextChunk
  rw [hlive.use]
  dsimp only
  split
  next hdone => exact tracks_closeFile hlive (fun _ => hrule.done hduring hdone) starts.close
  split
  · exact tracks_fail hlive herrors _ starts.close
  · refine ⟨by simp [State.submit, hlive.called], by simp [State.submit, hlive.pending],
      fun _ => hduring, by simp [State.submit, hlive.pending], ?_⟩
    simp [State.submit, hlive.promise]

theorem tracks_onTransfer (hrule : Rule chain serve before during after) {old : Disk}
    (hlive : Live state [] 0) (herrors : state.errors = []) (hduring : during old state.work)
    {result : Int} {buffer : Bytes} {starts : Starts}
    (hserve : serve old state.work (.onTransfer result buffer starts) = some disk) :
    Tracks chain before during after disk (state.onTransfer chain result buffer starts) := by
  unfold State.onTransfer
  rw [hlive.use]
  dsimp only
  split
  next hmoved =>
    have hadvanced : Live { state with
        work := chain.advance state.work result.toNat buffer } [] 0 := { hlive with }
    exact tracks_nextChunk hrule hadvanced herrors (hrule.moves hduring hmoved hserve) starts
  split
  next hzero =>
    refine tracks_closeFile hlive (fun _ => ?_) starts.close
    exact hrule.stops hduring hzero.1 (hzero.2 ▸ hserve)
  · exact tracks_fail hlive herrors _ starts.close

theorem tracks_onOpen (hrule : Rule chain serve before during after) {old : Disk}
    (hlive : Live state [] 0) (herrors : state.errors = []) (hbefore : before old state.work)
    {result : Int} {starts : Starts}
    (hserve : serve old state.work (.onOpen result starts) = some disk) :
    Tracks chain before during after disk (state.onOpen chain result starts) := by
  unfold State.onOpen
  rw [hlive.use]
  dsimp only
  split
  · exact tracks_fail hlive herrors _ starts.close
  next hresult =>
    have hopened : Live { state with file := asInt result, opened := true } [] 0 :=
      { hlive with file := by simpa using hresult }
    exact tracks_nextChunk hrule hopened herrors (hrule.opens hbefore (by omega) hserve) starts

/-- Every callback keeps the stage of the chain and the condition that belongs to it. -/
theorem tracks_step (hrule : Rule chain serve before during after) {old : Disk}
    {action : Action} (hstage : Stage chain state)
    (htracks : Tracks chain before during after old state)
    (hstep : chain.machine.step state action = some next)
    (hserve : serve old state.work action = some disk) :
    Tracks chain before during after disk next := by
  cases action with
  | call rc =>
      simp only [Chain.machine, State.step] at hstep
      split at hstep
      · cases hstep
      next hfresh =>
        cases hstep
        have hkept := hrule.call (htracks.fresh (by simpa using hfresh)) hserve
        obtain ⟨work, rfl⟩ := hstage.of_uncalled hfresh
        unfold State.call
        split
        · exact ⟨by simp, by simp, by simp, by simp, by simp⟩
        · exact ⟨by simp, fun _ => hkept, by simp [State.submit], by simp [State.submit],
            by simp [State.submit]⟩
  | onOpen result starts =>
      simp only [Chain.machine, State.step, State.callback, Option.ite_none_right_eq_some,
        Option.some.injEq] at hstep
      obtain ⟨hmem, rfl⟩ := hstep
      obtain ⟨hlive, herrors⟩ := hstage.of_pending hmem
      exact tracks_onOpen hrule hlive.callback herrors (htracks.opening hmem) hserve
  | onTransfer result buffer starts =>
      simp only [Chain.machine, State.step, State.callback, Option.ite_none_right_eq_some,
        Option.some.injEq] at hstep
      obtain ⟨hmem, rfl⟩ := hstep
      obtain ⟨hlive, -, herrors⟩ := hstage.of_pending hmem
      exact tracks_onTransfer hrule hlive.callback herrors (htracks.transfer hmem) hserve
  | onClose result =>
      simp only [Chain.machine, State.step, State.callback, Option.ite_none_right_eq_some,
        Option.some.injEq] at hstep
      obtain ⟨hmem, rfl⟩ := hstep
      obtain ⟨hlive, -⟩ := hstage.of_pending hmem
      refine tracks_onClose hlive.callback (fun herrors => ?_) result
      exact hrule.closes (htracks.closing hmem herrors) hserve

/-- A chain that returns a value leaves the disk and its work in the final condition. -/
theorem Rule.returned (hrule : Rule chain serve before during after) {work : Work}
    (hbefore : before disk work) {labels : List Action} {final : World Work Value} {value : Value}
    (hrun : (chain.hosted serve).run labels { disk, chain := { work := work } } = some final)
    (hvalue : final.chain.promise = some (.ok value)) :
    after final.disk final.chain.work ∧ value = chain.value final.chain.work := by
  have hkeep : ∀ (world : World Work Value) action reached,
      Stage chain world.chain ∧ Tracks chain before during after world.disk world.chain →
      (chain.hosted serve).step world action = some reached →
        Stage chain reached.chain ∧
          Tracks chain before during after reached.disk reached.chain := by
    intro world action reached hworld hstep
    simp only [Chain.hosted, Option.bind_eq_some_iff, Option.map_eq_some_iff] at hstep
    obtain ⟨next, hchain, disk, hserve, rfl⟩ := hstep
    exact ⟨hworld.1.step hchain, tracks_step hrule hworld.1 hworld.2 hchain hserve⟩
  have hstart : Stage chain { work := work } ∧
      Tracks chain before during after disk { work := work } :=
    ⟨.created work rfl, fun _ => hbefore, by simp, by simp, by simp, by simp⟩
  have hfinal := Machine.reachable_invariant hkeep hstart ⟨labels, hrun⟩
  exact hfinal.2.value value hvalue

end Rule

end Fiberuv.FileIo
