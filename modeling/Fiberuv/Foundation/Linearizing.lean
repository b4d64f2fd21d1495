import Mathlib.Data.List.Nodup
import Mathlib.Logic.Function.Basic

/-! # Linearizable histories

A history is what the users of a shared object see: the invocations of its calls and
their returns, in the order in which they happen. It is linearizable when the calls can
be put one after another so that the object, used by one call at a time, gives the same
answers, and no call is put before one that had returned when it was invoked.

`Account` is kept beside a run: whoever says at which moment each call takes effect, and
says it between the invocation and the return of the call, has shown the history to be
linearizable.
-/

namespace Foundation.Linearizing

universe u v w x

variable {Call : Type u} {Request : Type v} {Answer : Type w} {Object : Type x}

inductive Event (Call : Type u) (Request : Type v) (Answer : Type w) where
  | invoked (call : Call) (request : Request)
  | returned (call : Call) (answer : Answer)
  deriving DecidableEq

/-- A call with what it asks for and what it gets. -/
structure Served (Call : Type u) (Request : Type v) (Answer : Type w) where
  call : Call
  request : Request
  answer : Answer

/-- The object gives these answers when the calls come one at a time. -/
def Legal (serves : Object → Request → Answer → Object → Prop) :
    Object → List (Served Call Request Answer) → Object → Prop
  | object, [], final => object = final
  | object, served :: rest, final =>
      ∃ next, serves object served.request served.answer next ∧ Legal serves next rest final

/-- The first call has returned before the second one is invoked. -/
def Precedes (history : List (Event Call Request Answer)) (first second : Call) : Prop :=
  ∃ before after answer request, history = before ++ after ∧
    .returned first answer ∈ before ∧ .invoked second request ∈ after

/-- The order in which an object that ends as `final` can have served the calls of a
history one at a time. A call that has not returned may have been served or not. -/
structure Explains (serves : Object → Request → Answer → Object → Prop) (start : Object)
    (history : List (Event Call Request Answer)) (final : Object)
    (order : List (Served Call Request Answer)) : Prop where
  legal : Legal serves start order final
  once : (order.map Served.call).Nodup
  invoked : ∀ served ∈ order, .invoked served.call served.request ∈ history
  returned : ∀ call answer, .returned call answer ∈ history →
    ∃ request, ⟨call, request, answer⟩ ∈ order
  inTime : order.Pairwise fun first second => ¬ Precedes history second.call first.call

def Linearizable (serves : Object → Request → Answer → Object → Prop) (start : Object)
    (history : List (Event Call Request Answer)) (final : Object) : Prop :=
  ∃ order, Explains serves start history final order

variable {serves : Object → Request → Answer → Object → Prop}

theorem Legal.snoc {order : List (Served Call Request Answer)} {start object next : Object}
    {served : Served Call Request Answer} (hlegal : Legal serves start order object)
    (hserves : serves object served.request served.answer next) :
    Legal serves start (order ++ [served]) next := by
  induction order generalizing start with
  | nil =>
      obtain rfl : start = object := hlegal
      exact ⟨next, hserves, rfl⟩
  | cons head rest ih =>
      obtain ⟨middle, hhead, hrest⟩ := hlegal
      exact ⟨middle, hhead, ih hrest⟩

/-- Answers can be exchanged for others that come with the same effects. -/
theorem Legal.map {order : List (Served Call Request Answer)} {start final : Object}
    {change : Served Call Request Answer → Served Call Request Answer}
    (hlegal : Legal serves start order final)
    (hchange : ∀ served ∈ order, ∀ object next, serves object served.request served.answer next →
      serves object (change served).request (change served).answer next) :
    Legal serves start (order.map change) final := by
  induction order generalizing start with
  | nil => exact hlegal
  | cons head rest ih =>
      obtain ⟨middle, hhead, hrest⟩ := hlegal
      exact ⟨middle, hchange head List.mem_cons_self _ _ hhead,
        ih hrest fun served hserved => hchange served (List.mem_cons_of_mem _ hserved)⟩

/-- An order can be cut anywhere. -/
theorem legal_append {first second : List (Served Call Request Answer)} {start final : Object}
    (hlegal : Legal serves start (first ++ second) final) :
    ∃ middle, Legal serves start first middle ∧ Legal serves middle second final := by
  induction first generalizing start with
  | nil => exact ⟨start, rfl, hlegal⟩
  | cons head rest ih =>
      obtain ⟨next, hhead, hrest⟩ := hlegal
      obtain ⟨middle, hfirst, hsecond⟩ := ih hrest
      exact ⟨middle, ⟨next, hhead, hfirst⟩, hsecond⟩

/-- A call that has been served with this answer has given the object the property. -/
def Gains (serves : Object → Request → Answer → Object → Prop) (property : Object → Prop)
    (served : Served Call Request Answer) : Prop :=
  ∀ object next, serves object served.request served.answer next →
    ¬ property object ∧ property next

/-- A call served with this answer can have taken the property from the object. -/
def Loses (serves : Object → Request → Answer → Object → Prop) (property : Object → Prop)
    (served : Served Call Request Answer) : Prop :=
  ∃ object next, serves object served.request served.answer next ∧
    property object ∧ ¬ property next

/-- What the object loses, one of the calls takes from it. -/
theorem Legal.exists_loses {property : Object → Prop}
    {order : List (Served Call Request Answer)} {start final : Object}
    (hlegal : Legal serves start order final) (hstart : property start)
    (hfinal : ¬ property final) : ∃ served ∈ order, Loses serves property served := by
  induction order generalizing start with
  | nil =>
      obtain rfl : start = final := hlegal
      exact absurd hstart hfinal
  | cons head rest ih =>
      obtain ⟨next, hhead, hrest⟩ := hlegal
      by_cases hnext : property next
      · obtain ⟨served, hserved, hloses⟩ := ih hrest hnext
        exact ⟨served, List.mem_cons_of_mem _ hserved, hloses⟩
      · exact ⟨head, List.mem_cons_self, start, next, hhead, hstart, hnext⟩

/-- The second call can have been served after the first one and before the third. -/
def Between (history : List (Event Call Request Answer)) (first second third : Call) : Prop :=
  ¬ Precedes history second first ∧ ¬ Precedes history third second

/-- What one call has given the object and a later one gives it again has been taken away in
between. -/
theorem Explains.exists_loses_of_split {property : Object → Prop}
    {history : List (Event Call Request Answer)} {start final : Object}
    {front middle back : List (Served Call Request Answer)}
    {earlier later : Served Call Request Answer}
    (hexplains : Explains serves start history final
      (front ++ earlier :: (middle ++ later :: back)))
    (hearlier : Gains serves property earlier) (hlater : Gains serves property later) :
    ∃ served ∈ middle, Loses serves property served ∧
      Between history earlier.call served.call later.call := by
  obtain ⟨before, -, held, htaken, hrest⟩ := legal_append hexplains.legal
  obtain ⟨free, hmiddle, next, hretaken, -⟩ := legal_append hrest
  have hheld := (hearlier before held htaken).2
  have hfree := (hlater free next hretaken).1
  obtain ⟨served, hserved, hloses⟩ := hmiddle.exists_loses hheld hfree
  have hinTime := hexplains.inTime
  rw [List.pairwise_append, List.pairwise_cons, List.pairwise_append] at hinTime
  obtain ⟨-, ⟨hafter, -, -, hbefore⟩, -⟩ := hinTime
  refine ⟨served, hserved, hloses, ?_, ?_⟩
  · exact hafter served (List.mem_append_left _ hserved)
  · exact hbefore served hserved later List.mem_cons_self

/-- Two calls cannot both give the object the same property, unless a third one takes it away
in between. -/
theorem Explains.exists_loses_between {property : Object → Prop}
    {history : List (Event Call Request Answer)} {order : List (Served Call Request Answer)}
    {start final : Object} (hexplains : Explains serves start history final order)
    {first second : Served Call Request Answer} (hfirst : first ∈ order) (hsecond : second ∈ order)
    (hne : first.call ≠ second.call) (hgains : Gains serves property first)
    (hagain : Gains serves property second) :
    ∃ served ∈ order, Loses serves property served ∧
      (Between history first.call served.call second.call ∨
        Between history second.call served.call first.call) := by
  obtain ⟨front, back, rfl⟩ := List.append_of_mem hfirst
  rw [List.mem_append, List.mem_cons] at hsecond
  rcases hsecond with hfront | rfl | hback
  · obtain ⟨left, middle, rfl⟩ := List.append_of_mem hfront
    rw [List.append_assoc, List.cons_append] at hexplains
    obtain ⟨served, hserved, hloses, hbetween⟩ := hexplains.exists_loses_of_split hagain hgains
    exact ⟨served, by simp [hserved], hloses, .inr hbetween⟩
  · exact absurd rfl hne
  · obtain ⟨middle, right, rfl⟩ := List.append_of_mem hback
    obtain ⟨served, hserved, hloses, hbetween⟩ := hexplains.exists_loses_of_split hgains hagain
    exact ⟨served, by simp [hserved], hloses, .inl hbetween⟩

/-- Only the invocation of a call puts others before it. -/
theorem Precedes.of_snoc {history : List (Event Call Request Answer)}
    {event : Event Call Request Answer} {first second : Call}
    (hprecedes : Precedes (history ++ [event]) first second)
    (hevent : ∀ request, event ≠ .invoked second request) : Precedes history first second := by
  obtain ⟨before, after, answer, request, hsplit, hfirst, hsecond⟩ := hprecedes
  obtain rfl | ⟨rest, last, rfl⟩ := List.eq_nil_or_concat after
  · cases hsecond
  · rw [List.concat_eq_append, ← List.append_assoc] at hsplit
    obtain ⟨rfl, hlast⟩ := List.append_inj' hsplit rfl
    rw [List.singleton_inj] at hlast
    rw [List.concat_eq_append, List.mem_append, List.mem_singleton] at hsecond
    rcases hsecond with hrest | rfl
    · exact ⟨before, rest, answer, request, rfl, hfirst, hrest⟩
    · exact absurd hlast (hevent request)

theorem Precedes.returned {history : List (Event Call Request Answer)} {first second : Call}
    (hprecedes : Precedes history first second) : ∃ answer, .returned first answer ∈ history := by
  obtain ⟨before, after, answer, request, rfl, hfirst, -⟩ := hprecedes
  exact ⟨answer, List.mem_append_left _ hfirst⟩

/-- How far a call is, seen from the object. -/
inductive Stage (Request : Type v) (Answer : Type w) where
  | absent
  | invoked (request : Request)
  | served (request : Request) (answer : Answer)
  | returned
  deriving DecidableEq

/-- What the history and the order say about a call of this stage. -/
def Stage.Records (history : List (Event Call Request Answer))
    (order : List (Served Call Request Answer)) (call : Call) : Stage Request Answer → Prop
  | .absent => (∀ request, .invoked call request ∉ history) ∧
      (∀ answer, .returned call answer ∉ history) ∧ ∀ served ∈ order, served.call ≠ call
  | .invoked request => .invoked call request ∈ history ∧
      (∀ answer, .returned call answer ∉ history) ∧ ∀ served ∈ order, served.call ≠ call
  | .served request answer => ⟨call, request, answer⟩ ∈ order ∧
      ∀ answer, .returned call answer ∉ history
  | .returned => ∀ answer, .returned call answer ∈ history →
      ∃ request, ⟨call, request, answer⟩ ∈ order

/-- The order of service that goes with a history, together with the stage of every call
and the object as it is now. -/
structure Account (serves : Object → Request → Answer → Object → Prop) (start : Object)
    (history : List (Event Call Request Answer)) (order : List (Served Call Request Answer))
    (stage : Call → Stage Request Answer) (object : Object) : Prop where
  legal : Legal serves start order object
  once : (order.map Served.call).Nodup
  invoked : ∀ served ∈ order, .invoked served.call served.request ∈ history
  single : ∀ call first second, .invoked call first ∈ history → .invoked call second ∈ history →
    first = second
  inTime : order.Pairwise fun first second => ¬ Precedes history second.call first.call
  records : ∀ call, (stage call).Records history order call

theorem account_start (start : Object) :
    Account serves start ([] : List (Event Call Request Answer)) [] (fun _ => .absent) start where
  legal := rfl
  once := List.nodup_nil
  invoked served hserved := by cases hserved
  single call first second hfirst := by cases hfirst
  inTime := .nil
  records call := by simp [Stage.Records]

namespace Account

variable {start object : Object} {history : List (Event Call Request Answer)}
  {order : List (Served Call Request Answer)} {stage : Call → Stage Request Answer}

theorem linearizable (haccount : Account serves start history order stage object) :
    Linearizable serves start history object := by
  refine ⟨order, haccount.legal, haccount.once, haccount.invoked, fun call answer hreturned => ?_,
    haccount.inTime⟩
  have hrecords := haccount.records call
  cases hstage : stage call with
  | absent =>
      rw [hstage] at hrecords
      exact absurd hreturned (hrecords.2.1 answer)
  | invoked request =>
      rw [hstage] at hrecords
      exact absurd hreturned (hrecords.2.1 answer)
  | served request given =>
      rw [hstage] at hrecords
      exact absurd hreturned (hrecords.2 answer)
  | returned =>
      rw [hstage] at hrecords
      exact hrecords answer hreturned

/-- Events of other calls and service to them leave the record of a call as it is. -/
theorem records_frame {newHistory : List (Event Call Request Answer)}
    {newOrder : List (Served Call Request Answer)} {call : Call} {stage : Stage Request Answer}
    (hrecords : stage.Records history order call)
    (hinvoked : ∀ request, .invoked call request ∈ newHistory ↔ .invoked call request ∈ history)
    (hreturned : ∀ answer, .returned call answer ∈ newHistory ↔ .returned call answer ∈ history)
    (horder : ∀ served, served.call = call → (served ∈ newOrder ↔ served ∈ order)) :
    stage.Records newHistory newOrder call := by
  have hnone : (∀ served ∈ order, served.call ≠ call) → ∀ served ∈ newOrder,
      served.call ≠ call :=
    fun hold served hserved hcall => hold served ((horder served hcall).mp hserved) hcall
  cases stage with
  | absent =>
      simp only [Stage.Records, hinvoked, hreturned] at hrecords ⊢
      exact ⟨hrecords.1, hrecords.2.1, hnone hrecords.2.2⟩
  | invoked request =>
      simp only [Stage.Records, hinvoked, hreturned] at hrecords ⊢
      exact ⟨hrecords.1, hrecords.2.1, hnone hrecords.2.2⟩
  | served request answer =>
      simp only [Stage.Records, hreturned] at hrecords ⊢
      exact ⟨(horder _ rfl).mpr hrecords.1, hrecords.2⟩
  | returned =>
      simp only [Stage.Records, hreturned] at hrecords ⊢
      intro answer hanswer
      obtain ⟨request, hserved⟩ := hrecords answer hanswer
      exact ⟨request, (horder _ rfl).mpr hserved⟩

variable [DecidableEq Call]

/-- A call begins. -/
theorem invoke (haccount : Account serves start history order stage object) {call : Call}
    (hstage : stage call = .absent) (request : Request) :
    Account serves start (history ++ [.invoked call request]) order
      (Function.update stage call (.invoked request)) object := by
  have hrecords := haccount.records call
  rw [hstage] at hrecords
  refine ⟨haccount.legal, haccount.once, fun served hserved =>
    List.mem_append_left _ (haccount.invoked served hserved), fun other first second => ?_, ?_,
    fun other => ?_⟩
  · obtain rfl | hne := eq_or_ne other call
    · simp +contextual [hrecords.1]
    · simpa [hne] using haccount.single other first second
  · refine haccount.inTime.imp_of_mem fun {first second} hfirst _ hnot hprecedes => ?_
    refine hnot (hprecedes.of_snoc fun request heq => ?_)
    exact hrecords.2.2 first hfirst (Event.invoked.inj heq).1.symm
  · obtain rfl | hne := eq_or_ne other call
    · rw [Function.update_self]
      exact ⟨by simp, by simpa using hrecords.2.1, hrecords.2.2⟩
    · rw [Function.update_of_ne hne]
      exact records_frame (haccount.records other) (by simp [hne]) (by simp) fun _ _ => Iff.rfl

/-- A call takes effect. -/
theorem serve (haccount : Account serves start history order stage object) {call : Call}
    {request : Request} {answer : Answer} {next : Object}
    (hstage : stage call = .invoked request) (hserves : serves object request answer next) :
    Account serves start history (order ++ [⟨call, request, answer⟩])
      (Function.update stage call (.served request answer)) next := by
  have hrecords := haccount.records call
  rw [hstage] at hrecords
  obtain ⟨hinvoked, hopen, hnew⟩ := hrecords
  refine ⟨haccount.legal.snoc hserves, ?_, fun served hserved => ?_, haccount.single, ?_,
    fun other => ?_⟩
  · rw [List.map_append, List.nodup_append']
    refine ⟨haccount.once, by simp, fun other hother hlast => ?_⟩
    obtain ⟨served, hserved, rfl⟩ := List.mem_map.mp hother
    exact hnew served hserved (by simpa using hlast)
  · rcases List.mem_append.mp hserved with hold | hlast
    · exact haccount.invoked served hold
    · obtain rfl := List.mem_singleton.mp hlast
      exact hinvoked
  · refine List.pairwise_append.mpr ⟨haccount.inTime, List.pairwise_singleton _ _, ?_⟩
    intro first _ second hsecond hprecedes
    obtain rfl := List.mem_singleton.mp hsecond
    obtain ⟨given, hreturned⟩ := hprecedes.returned
    exact hopen given hreturned
  · obtain rfl | hne := eq_or_ne other call
    · rw [Function.update_self]
      exact ⟨by simp, hopen⟩
    · rw [Function.update_of_ne hne]
      refine records_frame (haccount.records other) (fun _ => Iff.rfl) (fun _ => Iff.rfl) ?_
      rintro served rfl
      rw [List.mem_append, List.mem_singleton, or_iff_left]
      rintro rfl
      exact hne rfl

/-- A call that has taken effect returns. -/
theorem finish (haccount : Account serves start history order stage object) {call : Call}
    {request : Request} {answer : Answer} (hstage : stage call = .served request answer) :
    Account serves start (history ++ [.returned call answer]) order
      (Function.update stage call .returned) object := by
  have hrecords := haccount.records call
  rw [hstage] at hrecords
  obtain ⟨hserved, hopen⟩ := hrecords
  refine ⟨haccount.legal, haccount.once, fun served hmem =>
    List.mem_append_left _ (haccount.invoked served hmem), ?_, ?_, fun other => ?_⟩
  · intro other first second hfirst hsecond
    exact haccount.single other first second (by simpa using hfirst) (by simpa using hsecond)
  · exact haccount.inTime.imp fun hnot hprecedes => hnot (hprecedes.of_snoc (by simp))
  · obtain rfl | hne := eq_or_ne other call
    · rw [Function.update_self]
      intro given hgiven
      rw [List.mem_append, or_iff_right (hopen given), List.mem_singleton] at hgiven
      obtain ⟨-, rfl⟩ := Event.returned.inj hgiven
      exact ⟨request, hserved⟩
    · rw [Function.update_of_ne hne]
      exact records_frame (haccount.records other) (by simp) (by simp [hne]) fun _ _ => Iff.rfl

/-- A call that has taken effect and not returned turns out to get another answer, which the
object could have given with the same effect. -/
theorem amend (haccount : Account serves start history order stage object) {call : Call}
    {request : Request} {answer other : Answer} (hstage : stage call = .served request answer)
    (hserves : ∀ object next, serves object request answer next →
      serves object request other next) :
    ∃ order, Account serves start history order
      (Function.update stage call (.served request other)) object := by
  let change (served : Served Call Request Answer) : Served Call Request Answer :=
    if served.call = call then { served with answer := other } else served
  have hcall : ∀ served, (change served).call = served.call := by
    intro served
    dsimp only [change]
    split <;> rfl
  have hrequest : ∀ served, (change served).request = served.request := by
    intro served
    dsimp only [change]
    split <;> rfl
  have hrecords := haccount.records call
  rw [hstage] at hrecords
  obtain ⟨hserved, hopen⟩ := hrecords
  -- The call is in the order once, so only its own entry changes.
  have hown : ∀ served ∈ order, served.call = call → served = ⟨call, request, answer⟩ :=
    fun served hmem heq => List.inj_on_of_nodup_map haccount.once hmem hserved heq
  refine ⟨order.map change, haccount.legal.map ?_, ?_, ?_, haccount.single, ?_, fun reader => ?_⟩
  · intro served hmem before after hstep
    by_cases heq : served.call = call
    · obtain rfl := hown served hmem heq
      simpa [change] using hserves before after hstep
    · simpa [change, heq] using hstep
  · have hcalls : Served.call ∘ change = Served.call := funext hcall
    rw [List.map_map, hcalls]
    exact haccount.once
  · intro served hmem
    obtain ⟨old, hold, rfl⟩ := List.mem_map.mp hmem
    rw [hcall, hrequest]
    exact haccount.invoked old hold
  · rw [List.pairwise_map]
    exact haccount.inTime.imp fun hnot => by rwa [hcall, hcall]
  · obtain rfl | hne := eq_or_ne reader call
    · rw [Function.update_self]
      exact ⟨List.mem_map.mpr ⟨_, hserved, by simp [change]⟩, hopen⟩
    · rw [Function.update_of_ne hne]
      refine records_frame (haccount.records reader) (fun _ => Iff.rfl) (fun _ => Iff.rfl) ?_
      rintro served rfl
      constructor
      · intro hmem
        obtain ⟨old, hold, heq⟩ := List.mem_map.mp hmem
        have hsame : change old = old := if_neg fun h => hne (by rw [← heq, hcall, h])
        rwa [← heq, hsame]
      · intro hmem
        exact List.mem_map.mpr ⟨served, hmem, if_neg hne⟩

/-- A call takes effect and returns. -/
theorem answer (haccount : Account serves start history order stage object) {call : Call}
    {request : Request} {answer : Answer} {next : Object}
    (hstage : stage call = .invoked request) (hserves : serves object request answer next) :
    Account serves start (history ++ [.returned call answer])
      (order ++ [⟨call, request, answer⟩]) (Function.update stage call .returned) next := by
  have hserved := haccount.serve hstage hserves
  have hreturned := hserved.finish (Function.update_self call _ stage)
  rwa [Function.update_idem] at hreturned

/-- Several calls take effect one after another, all with the same answer and without
changing the object. -/
theorem serveEach {answer : Answer} (calls : List Call) (hnodup : calls.Nodup)
    (hserves : ∀ call ∈ calls, ∃ request, stage call = .invoked request ∧
      serves object request answer object)
    (haccount : Account serves start history order stage object) :
    ∃ order later, Account serves start history order later object ∧
      (∀ call ∈ calls, ∀ request, stage call = .invoked request →
        later call = .served request answer) ∧
      ∀ call, call ∉ calls → later call = stage call := by
  induction calls generalizing order stage with
  | nil => exact ⟨order, stage, haccount, by simp, fun _ _ => rfl⟩
  | cons head rest ih =>
      obtain ⟨hhead, hrest⟩ := List.nodup_cons.mp hnodup
      obtain ⟨request, hstage, hserve⟩ := hserves head List.mem_cons_self
      have hunchanged : ∀ call ≠ head,
          Function.update stage head (.served request answer) call = stage call :=
        fun call hne => Function.update_of_ne hne _ _
      have hnext : ∀ call ∈ rest, ∃ asked,
          Function.update stage head (.served request answer) call = .invoked asked ∧
            serves object asked answer object := by
        intro call hcall
        rw [hunchanged call (ne_of_mem_of_not_mem hcall hhead)]
        exact hserves call (List.mem_cons_of_mem _ hcall)
      obtain ⟨order, later, hlater, hall, hothers⟩ := ih hrest hnext (haccount.serve hstage hserve)
      refine ⟨order, later, hlater, fun call hcall asked hasked => ?_, fun call hcall => ?_⟩
      · rcases List.mem_cons.mp hcall with rfl | hin
        · rw [hothers call hhead, Function.update_self]
          rw [hstage] at hasked
          rw [Stage.invoked.inj hasked]
        · refine hall call hin asked ?_
          rwa [hunchanged call (ne_of_mem_of_not_mem hin hhead)]
      · rw [List.mem_cons, not_or] at hcall
        rw [hothers call hcall.2, hunchanged call hcall.1]

end Account

end Foundation.Linearizing
