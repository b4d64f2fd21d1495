import Mathlib.Data.Option.Basic
import Mathlib.Data.Int.Notation

/-! # Operations that suspend

An operation of a cooperative thread runs to its end or to its next wait. On the way it
tests its environment, starts requests that may be refused, replaces its promise by a
fresh one, sets that promise, and signals other contexts. Nothing else of the thread runs
between two waits, so one environment answers all tests of such a segment.
-/

namespace Foundation

section

variable (Env Request Signal Promise Error : Type)

inductive Operation where
  | ret
  | throws (error : Error)
  | test (query : Env → Bool) (yes no : Operation)
  | start (request : Request) (next : Operation)
  /-- Make a promise that is not set. -/
  | renew (next : Operation)
  | setValue (next : Operation)
  | signal (sent : Signal) (next : Operation)
  | get (promise : Promise) (next : Int → Operation)
  | waitFor (promise : Promise) (next : Int → Operation) (expired : Operation)

/-- Where an operation is suspended and how it goes on; `expired` is the continuation at
the time limit, if there is one. -/
structure Wait where
  promise : Promise
  next : Int → Operation Env Request Signal Promise Error
  expired : Option (Operation Env Request Signal Promise Error) := none

inductive Stop where
  | returned
  | threw (error : Error)
  | suspended (wait : Wait Env Request Signal Promise Error)

/-- What an operation has done when it stops: the content of its promise, the signals it
sent, and the stop itself. -/
structure Segment where
  cell : Option (Except Error Int)
  signals : List Signal := []
  stop : Stop Env Request Signal Promise Error

end

variable {Env Request Signal Promise Error : Type}

namespace Operation

/-- Run an operation to its end or its next wait. -/
def exec (env : Env) (refusal : Request → Option Error) :
    Operation Env Request Signal Promise Error → Option (Except Error Int) →
      Segment Env Request Signal Promise Error
  | ret, cell => { cell, stop := .returned }
  | throws error, cell => { cell, stop := .threw error }
  | test query yes no, cell =>
      if query env then exec env refusal yes cell else exec env refusal no cell
  | start request next, cell =>
      match refusal request with
      | some error => { cell, stop := .threw error }
      | none => exec env refusal next cell
  | renew next, _ => exec env refusal next none
  | setValue next, _ => exec env refusal next (some (.ok 0))
  | signal sent next, cell =>
      let rest := exec env refusal next cell
      { rest with signals := sent :: rest.signals }
  | get promise next, cell =>
      match cell with
      | none => { cell := none, stop := .suspended { promise, next } }
      | some (.error error) => { cell, stop := .threw error }
      | some (.ok value) => exec env refusal (next value) cell
  | waitFor promise next expired, cell =>
      match cell with
      | none => { cell := none, stop := .suspended { promise, next, expired := some expired } }
      | some (.error error) => { cell, stop := .threw error }
      | some (.ok value) => exec env refusal (next value) cell

/-- No wait of the operation is for a bad promise. -/
def Avoids (bad : Promise → Prop) : Operation Env Request Signal Promise Error → Prop
  | ret => True
  | throws _ => True
  | test _ yes no => yes.Avoids bad ∧ no.Avoids bad
  | start _ next => next.Avoids bad
  | renew next => next.Avoids bad
  | setValue next => next.Avoids bad
  | signal _ next => next.Avoids bad
  | get promise next => ¬ bad promise ∧ ∀ value, (next value).Avoids bad
  | waitFor promise next expired =>
      ¬ bad promise ∧ (∀ value, (next value).Avoids bad) ∧ expired.Avoids bad

end Operation

namespace Wait

/-- Go on with the promise set. -/
def resume (wait : Wait Env Request Signal Promise Error) (env : Env)
    (refusal : Request → Option Error) (result : Except Error Int) :
    Segment Env Request Signal Promise Error :=
  match result with
  | .error error => { cell := some result, stop := .threw error }
  | .ok value => (wait.next value).exec env refusal (some result)

def Avoids (bad : Promise → Prop) (wait : Wait Env Request Signal Promise Error) : Prop :=
  ¬ bad wait.promise ∧ (∀ value, (wait.next value).Avoids bad) ∧
    ∀ expired ∈ wait.expired, expired.Avoids bad

end Wait

/-- The operation has not stopped in a wait for a bad promise, and its continuation
contains no such wait. -/
def Stop.Avoids (bad : Promise → Prop) : Stop Env Request Signal Promise Error → Prop
  | .returned => True
  | .threw _ => True
  | .suspended wait => wait.Avoids bad

/-- The operation has stopped in a wait for a bad promise. -/
def Stop.Awaits (bad : Promise → Prop) : Stop Env Request Signal Promise Error → Prop
  | .returned => False
  | .threw _ => False
  | .suspended wait => bad wait.promise

theorem Stop.awaits_iff {bad : Promise → Prop} {stop : Stop Env Request Signal Promise Error} :
    stop.Awaits bad ↔ ∃ wait, stop = .suspended wait ∧ bad wait.promise := by
  cases stop <;> simp [Stop.Awaits]

namespace Operation

/-! When a segment stops in a bad wait, statement by statement. -/

variable {bad : Promise → Prop} {env : Env} {refusal : Request → Option Error}
variable {cell : Option (Except Error Int)}
  {next : Int → Operation Env Request Signal Promise Error}

@[simp] theorem awaits_ret :
    ¬ ((ret : Operation Env Request Signal Promise Error).exec env refusal cell).stop.Awaits bad :=
  id

@[simp] theorem awaits_throws (error : Error) :
    ¬ ((throws error : Operation Env Request Signal Promise Error).exec env refusal
      cell).stop.Awaits bad :=
  id

@[simp] theorem awaits_test (query : Env → Bool)
    (yes no : Operation Env Request Signal Promise Error) :
    ((test query yes no).exec env refusal cell).stop.Awaits bad ↔
      (query env = true ∧ (yes.exec env refusal cell).stop.Awaits bad) ∨
        (query env = false ∧ (no.exec env refusal cell).stop.Awaits bad) := by
  cases hquery : query env <;> simp [exec, hquery]

theorem awaits_test_of_iff {query : Env → Bool}
    {yes no : Operation Env Request Signal Promise Error} {condition : Prop}
    (hyes : (yes.exec env refusal cell).stop.Awaits bad ↔ condition)
    (hno : (no.exec env refusal cell).stop.Awaits bad ↔ condition) :
    ((test query yes no).exec env refusal cell).stop.Awaits bad ↔ condition := by
  cases hquery : query env <;> simp [hquery, hyes, hno]

@[simp] theorem awaits_start (request : Request)
    (rest : Operation Env Request Signal Promise Error) :
    ((start request rest).exec env refusal cell).stop.Awaits bad ↔
      refusal request = none ∧ (rest.exec env refusal cell).stop.Awaits bad := by
  cases hrefusal : refusal request <;> simp [exec, hrefusal, Stop.Awaits]

@[simp] theorem awaits_renew (rest : Operation Env Request Signal Promise Error) :
    ((renew rest).exec env refusal cell).stop.Awaits bad ↔
      (rest.exec env refusal none).stop.Awaits bad := Iff.rfl

@[simp] theorem awaits_setValue (rest : Operation Env Request Signal Promise Error) :
    ((setValue rest).exec env refusal cell).stop.Awaits bad ↔
      (rest.exec env refusal (some (.ok 0))).stop.Awaits bad := Iff.rfl

@[simp] theorem awaits_signal (sent : Signal)
    (rest : Operation Env Request Signal Promise Error) :
    ((signal sent rest).exec env refusal cell).stop.Awaits bad ↔
      (rest.exec env refusal cell).stop.Awaits bad := Iff.rfl

@[simp] theorem awaits_get (promise : Promise) :
    ((get promise next).exec env refusal none).stop.Awaits bad ↔ bad promise := Iff.rfl

@[simp] theorem awaits_get_ok (promise : Promise) (value : Int) :
    ((get promise next).exec env refusal (some (.ok value))).stop.Awaits bad ↔
      ((next value).exec env refusal (some (.ok value))).stop.Awaits bad := Iff.rfl

@[simp] theorem awaits_waitFor (promise : Promise)
    (expired : Operation Env Request Signal Promise Error) :
    ((waitFor promise next expired).exec env refusal none).stop.Awaits bad ↔ bad promise :=
  Iff.rfl

end Operation

end Foundation
