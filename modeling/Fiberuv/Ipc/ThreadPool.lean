import Fiberuv.Ipc.Pair

/-! # Process channels and the thread pool

`uv_fs_read` and `uv_fs_write` are carried out by the thread pool of libuv, which has
`threads` threads and takes requests in the order of their submission. The descriptors
of a pair are blocking, so a read of an empty pipe occupies its thread until something
is written to that pipe.

A call of a channel is always suspended in exactly one request, so a request carries
the state of the call that waits for it. File and resolver work of the same process
goes through the same pool.
-/

namespace Fiberuv.Ipc.ThreadPool

open Foundation

abbrev PipeId := Nat

/-- What waits for a request, and so what the request does. -/
inductive Work where
  | receiving (pipe : PipeId) (state : RecvState)
  | sending (pipe : PipeId) (sending : Sending)
  | other

def Work.isRead : Work → Bool
  | .receiving _ _ => true
  | .sending _ _ => false
  | .other => false

structure State where
  /-- The requests that occupy a thread. -/
  running : List Work := []
  /-- The requests that wait for a thread, in the order of submission. -/
  queue : List Work := []
  pipe : PipeId → Bytes := fun _ => []
  /-- The number of receive calls that have not returned. -/
  receiving : Nat := 0

inductive Action where
  | recv (pipe : PipeId)
  | send (pipe : PipeId) (payload : Payload)
  | submitOther
  /-- A free thread takes the first request of the queue. -/
  | dispatch
  /-- The request of a thread transfers bytes. -/
  | transfer (thread : Nat) (count : Nat)
  /-- The request of a thread is interrupted. -/
  | interrupt (thread : Nat) (code : Int)
  | finishOther (thread : Nat)

structure Pool where
  threads : Nat
  host : Host

namespace State

variable (pool : Pool)

def submit (state : State) (work : Work) : State :=
  { state with queue := state.queue ++ [work] }

/-- The thread has completed its request. -/
def release (state : State) (thread : Nat) : State :=
  { state with running := state.running.eraseIdx thread }

/-- A receive submits its next request, or returns. -/
def settleRecv (state : State) (pipe : PipeId) : RecvState → State
  | .finished _ => { state with receiving := state.receiving - 1 }
  | next => state.submit (.receiving pipe next)

def settleSend (state : State) (pipe : PipeId) (payload : Payload) : SendState → State
  | .finished _ => state
  | .writing part offset => state.submit (.sending pipe ⟨payload, part, offset⟩)

def setPipe (state : State) (pipe : PipeId) (bytes : Bytes) : State :=
  { state with pipe := Function.update state.pipe pipe bytes }

def transferRead (state : State) (thread : Nat) (pipe : PipeId) (next : RecvState)
    (count : Nat) : Option State :=
  match next.request with
  | none => none
  | some (size, offset) =>
      if 0 < count ∧ count ≤ chunk size offset ∧ count ≤ (state.pipe pipe).length then
        some ((((state.release thread).setPipe pipe ((state.pipe pipe).drop count)).settleRecv pipe
          (recvBlobNext pool.host.memory ((state.pipe pipe).take count) (.result count) next)))
      else none

def transferWrite (state : State) (thread : Nat) (pipe : PipeId) (sending : Sending)
    (count : Nat) : Option State :=
  if 0 < count ∧ count ≤ sending.offered.length ∧
      (state.pipe pipe).length + count ≤ pool.host.capacity then
    some ((((state.release thread).setPipe pipe
      (state.pipe pipe ++ sending.offered.take count)).settleSend pipe sending.payload
        (sendBlobNext sending.payload sending.part sending.offset (.result count))))
  else none

def step (state : State) : Action → Option State
  | .recv pipe =>
      some ({ state with receiving := state.receiving + 1 }.settleRecv pipe (recvBlob true))
  | .send pipe payload => some (state.settleSend pipe payload (sendBlob true payload))
  | .submitOther => some (state.submit .other)
  | .dispatch =>
      match state.queue with
      | [] => none
      | work :: rest =>
          if state.running.length < pool.threads then
            some { state with running := state.running ++ [work], queue := rest }
          else none
  | .transfer thread count =>
      match state.running[thread]? with
      | some (.receiving pipe next) => state.transferRead pool thread pipe next count
      | some (.sending pipe sending) => state.transferWrite pool thread pipe sending count
      | _ => none
  | .interrupt thread code =>
      if Retry code then
        match state.running[thread]? with
        | some (.receiving pipe next) =>
            some ((state.release thread).settleRecv pipe
              (recvBlobNext pool.host.memory [] (.result code) next))
        | some (.sending pipe sending) =>
            some ((state.release thread).settleSend pipe sending.payload
              (sendBlobNext sending.payload sending.part sending.offset (.result code)))
        | _ => none
      else none
  | .finishOther thread =>
      match state.running[thread]? with
      | some .other => some (state.release thread)
      | _ => none

end State

def machine (pool : Pool) : Machine State Action where
  step := State.step pool

def initial : State := {}

/-- All threads are occupied by reads of empty pipes, and a write to one of these pipes
waits in the queue. -/
def Starved (pool : Pool) (state : State) : Prop :=
  state.running.length = pool.threads ∧
    (∀ work ∈ state.running, ∃ pipe next, work = .receiving pipe next ∧ state.pipe pipe = []) ∧
    ∃ pipe next sending, Work.receiving pipe next ∈ state.running ∧
      Work.sending pipe sending ∈ state.queue

/-- A pool of the default size. -/
def defaultPool : Pool where
  threads := 4
  host := { capacity := 65536, memory := fun _ => true }

/-- Four receives on four pairs, then a send on the first of them. -/
def receiversFirst : List Action :=
  [.recv 0, .recv 1, .recv 2, .recv 3, .dispatch, .dispatch, .dispatch, .dispatch,
    .send 0 ⟨[5], by decide⟩]

/-- The state it leads to. -/
def starving : State where
  running := [.receiving 0 (.length []), .receiving 1 (.length []), .receiving 2 (.length []),
    .receiving 3 (.length [])]
  queue := [.sending 0 ⟨⟨[5], by decide⟩, .length, 0⟩]
  receiving := 4

theorem starved_receiversFirst :
    ¬ ∀ (pool : Pool) (state : State), 0 < pool.threads →
      (machine pool).Reachable initial state → ¬ Starved pool state := by
  intro hall
  refine hall defaultPool starving (by decide) ⟨receiversFirst, rfl⟩ ⟨rfl, ?_, ?_⟩
  · intro work hwork
    simp only [starving, List.mem_cons, List.not_mem_nil, or_false] at hwork
    obtain rfl | rfl | rfl | rfl := hwork <;> exact ⟨_, _, rfl, rfl⟩
  · exact ⟨0, .length [], _, List.mem_cons_self, List.mem_cons_self⟩

/-- A receive is started only when it is not the one that makes as many receives as
threads. -/
def Fewer (pool : Pool) (state : State) : Action → Prop
  | .recv _ => state.receiving + 1 < pool.threads
  | _ => True

/-- The outstanding reads, running or queued. -/
def State.reads (state : State) : Nat :=
  state.running.countP Work.isRead + state.queue.countP Work.isRead

/-- Every receive in progress has one outstanding read, and there are fewer of them
than threads. -/
structure Bounded (pool : Pool) (state : State) : Prop where
  reads : state.reads = state.receiving
  fewer : state.receiving < pool.threads

variable {pool : Pool} {state next : State}

theorem reads_submit (state : State) (work : Work) :
    (state.submit work).reads = state.reads + (if work.isRead then 1 else 0) := by
  simp only [State.reads, State.submit, List.countP_append, List.countP_singleton]
  omega

theorem reads_release {thread : Nat} {work : Work} (hwork : state.running[thread]? = some work) :
    (state.release thread).reads + (if work.isRead then 1 else 0) = state.reads := by
  obtain ⟨hthread, rfl⟩ := List.getElem?_eq_some_iff.mp hwork
  have hsplit : state.running.countP Work.isRead =
      (state.running.take thread).countP Work.isRead +
        (state.running.drop thread).countP Work.isRead := by
    rw [← List.countP_append, List.take_append_drop]
  rw [List.drop_eq_getElem_cons hthread, List.countP_cons] at hsplit
  simp only [State.reads, State.release, List.eraseIdx_eq_take_drop_succ, List.countP_append]
  omega

theorem Bounded.submitRead {pipe : PipeId} {waiting : RecvState}
    (hfewer : state.receiving < pool.threads) (hreads : state.reads + 1 = state.receiving) :
    Bounded pool (state.submit (.receiving pipe waiting)) := by
  refine ⟨?_, hfewer⟩
  rw [reads_submit]
  simpa [Work.isRead, State.submit] using hreads

/-- A receive whose request has completed submits another one or is over. -/
theorem Bounded.settleRecv {pipe : PipeId} {after : RecvState}
    (hfewer : state.receiving < pool.threads) (hreads : state.reads + 1 = state.receiving) :
    Bounded pool (state.settleRecv pipe after) := by
  cases after with
  | length got => exact Bounded.submitRead hfewer hreads
  | payload size got => exact Bounded.submitRead hfewer hreads
  | finished result =>
      have hafter : state.reads = state.receiving - 1 := by omega
      exact ⟨hafter, Nat.lt_of_le_of_lt (Nat.sub_le _ _) hfewer⟩

theorem Bounded.settleSend {pipe : PipeId} {payload : Payload} {after : SendState}
    (hbounded : Bounded pool state) : Bounded pool (state.settleSend pipe payload after) := by
  cases after with
  | finished result => exact hbounded
  | writing part offset =>
      refine ⟨?_, hbounded.fewer⟩
      rw [State.settleSend, reads_submit]
      simpa [Work.isRead, State.submit] using hbounded.reads

theorem Bounded.release {thread : Nat} {work : Work} (hbounded : Bounded pool state)
    (hwork : state.running[thread]? = some work) (hread : work.isRead = false) :
    Bounded pool (state.release thread) := by
  have hreads := reads_release hwork
  have hbefore := hbounded.reads
  simp only [hread, Bool.false_eq_true, if_false, Nat.add_zero] at hreads
  exact ⟨hreads.trans hbefore, hbounded.fewer⟩

theorem Bounded.releaseRead {thread : Nat} {pipe : PipeId} {waiting : RecvState}
    (hbounded : Bounded pool state)
    (hwork : state.running[thread]? = some (.receiving pipe waiting)) :
    (state.release thread).reads + 1 = (state.release thread).receiving := by
  have hreads := reads_release hwork
  have hbefore := hbounded.reads
  simp only [Work.isRead, if_true] at hreads
  exact hreads.trans hbefore

theorem step_bounded (state : State) (action : Action) (next : State)
    (hbounded : Bounded pool state) (hfewer : Fewer pool state action)
    (hstep : (machine pool).step state action = some next) : Bounded pool next := by
  cases action with
  | recv pipe =>
      obtain rfl := Option.some.inj hstep
      exact Bounded.settleRecv hfewer (congrArg (· + 1) hbounded.reads)
  | send pipe payload =>
      obtain rfl := Option.some.inj hstep
      exact hbounded.settleSend
  | submitOther =>
      obtain rfl := Option.some.inj hstep
      refine ⟨?_, hbounded.fewer⟩
      rw [reads_submit]
      simpa [Work.isRead, State.submit] using hbounded.reads
  | dispatch =>
      simp only [machine, State.step] at hstep
      split at hstep
      next => exact absurd hstep (by simp)
      next work rest hqueue =>
          split at hstep
          next =>
              obtain rfl := Option.some.inj hstep
              refine ⟨?_, hbounded.fewer⟩
              -- The request moves from the queue to a thread; its count moves with it.
              have hreads := hbounded.reads
              simp only [State.reads, hqueue, List.countP_append, List.countP_cons,
                List.countP_nil] at hreads ⊢
              omega
          next => exact absurd hstep (by simp)
  | transfer thread count =>
      simp only [machine, State.step] at hstep
      split at hstep
      next pipe waiting hwork =>
          rw [State.transferRead] at hstep
          split at hstep
          next => exact absurd hstep (by simp)
          next =>
              split at hstep
              next =>
                  obtain rfl := Option.some.inj hstep
                  exact Bounded.settleRecv hbounded.fewer (hbounded.releaseRead hwork)
              next => exact absurd hstep (by simp)
      next pipe sending hwork =>
          rw [State.transferWrite] at hstep
          split at hstep
          next =>
              obtain rfl := Option.some.inj hstep
              have hreleased := hbounded.release hwork rfl
              exact Bounded.settleSend ⟨hreleased.reads, hreleased.fewer⟩
          next => exact absurd hstep (by simp)
      next => exact absurd hstep (by simp)
  | interrupt thread code =>
      simp only [machine, State.step] at hstep
      split at hstep
      next =>
          split at hstep
          next pipe waiting hwork =>
              obtain rfl := Option.some.inj hstep
              exact Bounded.settleRecv hbounded.fewer (hbounded.releaseRead hwork)
          next pipe sending hwork =>
              obtain rfl := Option.some.inj hstep
              exact (hbounded.release hwork rfl).settleSend
          next => exact absurd hstep (by simp)
      next => exact absurd hstep (by simp)
  | finishOther thread =>
      simp only [machine, State.step] at hstep
      split at hstep
      next hwork =>
          obtain rfl := Option.some.inj hstep
          exact hbounded.release hwork rfl
      next => exact absurd hstep (by simp)

/-- In every run with fewer receives in progress at a time than the pool has threads,
the receives never occupy the whole pool while a send they wait for is queued. -/
theorem not_starved_of_fewer (pool : Pool) (hthreads : 0 < pool.threads) (run : List Action)
    (state : State) (hmeets : (machine pool).Meets (Fewer pool) run initial)
    (hrun : (machine pool).run run initial = some state) : ¬ Starved pool state := by
  have hbounded := Machine.run_invariant step_bounded run initial state
    ⟨rfl, hthreads⟩ hmeets hrun
  rintro ⟨hfull, hreading, -⟩
  -- Every thread would hold a read, but there are fewer reads than threads.
  have hall : state.running.countP Work.isRead = state.running.length := by
    refine List.countP_eq_length.mpr fun work hwork => ?_
    obtain ⟨pipe, waiting, rfl, -⟩ := hreading work hwork
    rfl
  have hreads := hbounded.reads
  have hfewer := hbounded.fewer
  simp only [State.reads] at hreads
  omega

/-- Three receives on a pool of four threads, then a send. -/
def threeReceivers : List Action :=
  [.recv 0, .recv 1, .recv 2, .dispatch, .dispatch, .dispatch, .send 0 ⟨[5], by decide⟩, .dispatch]

theorem not_starved_threeReceivers :
    ∃ state, (machine defaultPool).run threeReceivers initial = some state ∧
      state.running.length = 4 ∧ ¬ Starved defaultPool state := by
  refine ⟨_, rfl, rfl, not_starved_of_fewer defaultPool (by decide) threeReceivers _ ?_ rfl⟩
  refine Machine.meets_cons ?_ rfl (Machine.meets_cons ?_ rfl (Machine.meets_cons ?_ rfl
    (Machine.meets_cons trivial rfl (Machine.meets_cons trivial rfl (Machine.meets_cons trivial rfl
      (Machine.meets_cons trivial rfl (Machine.meets_cons trivial rfl trivial)))))))
  all_goals
    simp only [Fewer, defaultPool]
    decide

end Fiberuv.Ipc.ThreadPool
