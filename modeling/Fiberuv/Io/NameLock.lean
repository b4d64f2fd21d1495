import Fiberuv.Io.NameHistory

/-! # A directory as a lock

A directory can serve the fibers of a loop as a lock: whoever makes it has it, until somebody
removes it. All that this needs of the kernel is that it makes a directory only where there
is none, and that nothing but `rmdir` makes the directory disappear.
-/

namespace Fiberuv.Io.Names

open Foundation Foundation.Linearizing
open EventLoop (uvEexist uvEnoent)

variable {Disk : Type}

/-- The kernel keeps the directory of this path as long as nobody removes it, and makes it
only when it is not there. -/
structure Exclusive (kernel : Kernel Disk) (path : Path) (there : Disk → Prop) : Prop where
  made : ∀ disk mode result next, kernel.serves disk (.mkdir path mode) result next = true →
    0 ≤ result → ¬ there disk ∧ there next
  kept : ∀ disk request result next, kernel.serves disk request result next = true →
    there disk → ¬ there next → request = .rmdir path ∧ 0 ≤ result

/-- The call returns and says that it has made the directory. -/
def Makes (history : History) (path : Path) (id : CallId) : Prop :=
  (∃ mode, .invoked id (.createDirectory path mode) ∈ history) ∧ .returned id (.ok true) ∈ history

/-- The call is to remove the directory, and if it returns says that it has. -/
def Removes (history : History) (path : Path) (id : CallId) : Prop :=
  .invoked id (.removeDirectory path) ∈ history ∧
    ∀ answer, .returned id answer ∈ history → answer = .ok true

theorem tolerate_eq_true_iff {site : String} {tolerated result : Int} :
    tolerate site tolerated result = .ok true ↔ 0 ≤ result := by
  unfold tolerate
  split
  next hnonneg => simp [hnonneg]
  next hneg =>
    split
    next => simp [hneg]
    next => simp [hneg]

theorem Operation.request_eq_rmdir {op : Operation} {path : Path}
    (hrequest : op.request = .rmdir path) : op = .removeDirectory path := by
  cases op with
  | removeDirectory other => rw [NameRequest.rmdir.inj hrequest]
  | createDirectory other mode => cases hrequest
  | createFile other truncate => cases hrequest
  | removeFile other => cases hrequest

section OneDirectory

variable {disk next : Listing} {path : Path} {request : NameRequest} {result : Int}

theorem effect_error_neg {code : Int} (heffect : effect disk request = .error code) : code < 0 := by
  cases request <;> simp only [effect] at heffect <;> split at heffect <;> cases heffect <;> decide

/-- What is there stays there when another name is made. -/
theorem lookup_made_of_some {kind other : Kind} {name : Path}
    (hthere : disk.lookup path = some kind) (habsent : disk.lookup name = none) :
    (made disk name other).lookup path = some kind := by
  have hne : path ≠ name := by
    rintro rfl
    simp [hthere] at habsent
  rw [made, List.lookup_cons, beq_false_of_ne hne]
  exact hthere

theorem lookup_removed_of_ne {other : Path} (hne : other ≠ path) (disk : Listing) :
    (removed disk path).lookup other = disk.lookup other := by
  induction disk with
  | nil => rfl
  | cons entry rest ih =>
      obtain ⟨name, kind⟩ := entry
      unfold removed at ih ⊢
      by_cases hname : name = path
      · have hother : (other == name) = false := beq_false_of_ne (hname ▸ hne)
        rw [List.filter_cons_of_neg (by simpa using hname), ih, List.lookup_cons, hother]
      · rw [List.filter_cons_of_pos (by simpa using hname), List.lookup_cons, List.lookup_cons, ih]

/-- A request that changes the directory succeeds. -/
theorem effect_of_serves (hserves : oneDirectory.serves disk request result next = true) :
    0 ≤ result ∧ effect disk request = .ok next ∨ result < 0 ∧ next = disk := by
  simp only [oneDirectory] at hserves
  split at hserves
  next after heffect =>
    split at hserves
    next hnonneg => exact .inl ⟨hnonneg, (of_decide_eq_true hserves) ▸ heffect⟩
    next hneg => exact .inr ⟨Int.not_le.mp hneg, (of_decide_eq_true hserves).1⟩
  next code heffect =>
    obtain ⟨hsame, hcode⟩ := of_decide_eq_true hserves
    exact .inr ⟨hcode ▸ effect_error_neg heffect, hsame⟩

/-- The directories in one directory are fit for locks. -/
theorem oneDirectory_exclusive (path : Path) :
    Exclusive oneDirectory path fun disk => disk.lookup path = some .directory where
  made disk mode result next hserves hnonneg := by
    rcases effect_of_serves hserves with ⟨-, heffect⟩ | ⟨hneg, -⟩
    · simp only [effect] at heffect
      split at heffect
      next habsent =>
        obtain rfl := Except.ok.inj heffect
        simp [habsent, Names.made]
      next => cases heffect
    · omega
  kept disk request result next hserves hthere hgone := by
    rcases effect_of_serves hserves with ⟨hnonneg, heffect⟩ | ⟨-, rfl⟩
    · refine ⟨?_, hnonneg⟩
      cases request with
      | mkdir other mode =>
          simp only [effect] at heffect
          split at heffect
          next habsent =>
            obtain rfl := Except.ok.inj heffect
            exact absurd (lookup_made_of_some hthere habsent) hgone
          next => cases heffect
      | rmdir other =>
          simp only [effect] at heffect
          split at heffect
          next => cases heffect
          next =>
            obtain rfl := Except.ok.inj heffect
            by_contra hother
            have hne : path ≠ other := fun hsame => hother (hsame ▸ rfl)
            exact hgone ((lookup_removed_of_ne hne disk).trans hthere)
          next => cases heffect
      | unlink other =>
          simp only [effect] at heffect
          split at heffect
          next => cases heffect
          next => cases heffect
          next hfile =>
            obtain rfl := Except.ok.inj heffect
            have hne : path ≠ other := by
              rintro rfl
              simp [hthere] at hfile
            exact absurd ((lookup_removed_of_ne hne disk).trans hthere) hgone
      | openFile other flags mode =>
          simp only [effect] at heffect
          split at heffect
          next habsent =>
            obtain rfl := Except.ok.inj heffect
            exact absurd (lookup_made_of_some hthere habsent) hgone
          next => cases heffect
          next =>
            obtain rfl := Except.ok.inj heffect
            exact absurd hthere hgone
    · exact absurd hthere hgone

end OneDirectory

section

variable {kernel : Kernel Disk} {path : Path} {there : Disk → Prop}

/-- Whoever is told that it has made the directory has made it. -/
theorem Exclusive.gains (hexclusive : Exclusive kernel path there) (id : CallId) (mode : Nat) :
    Gains (Serves kernel) there ⟨id, .createDirectory path mode, .ok true⟩ := by
  intro disk next hserves
  obtain ⟨result, hkernel, hanswer⟩ := hserves.kernel_of_ok
  exact hexclusive.made disk mode result next hkernel (tolerate_eq_true_iff.mp hanswer)

/-- Nobody takes the directory away but who is told that it has removed it. -/
theorem Exclusive.loses (hexclusive : Exclusive kernel path there)
    {served : Served CallId Operation (Except Error Bool)}
    (hloses : Loses (Serves kernel) there served) :
    served.request = .removeDirectory path ∧ served.answer = .ok true := by
  obtain ⟨disk, next, hserves, hthere, hgone⟩ := hloses
  have hchanged : next ≠ disk := fun hsame => hgone (hsame ▸ hthere)
  obtain ⟨result, hkernel, hanswer⟩ := hserves.kernel_of_ne hchanged
  obtain ⟨hrequest, hnonneg⟩ := hexclusive.kept disk _ result next hkernel hthere hgone
  have hop := Operation.request_eq_rmdir hrequest
  refine ⟨hop, ?_⟩
  rw [hop] at hanswer
  rcases hanswer with hanswer | ⟨_, _, hfile⟩
  · rw [hanswer]
    exact tolerate_eq_true_iff.mpr hnonneg
  · cases hfile

/-- A call that says it has made the directory is in every order of service. -/
theorem Makes.mem {disk final : Disk} {history : History}
    {order : List (Served CallId Operation (Except Error Bool))} {id : CallId}
    (hmakes : Makes history path id) (hexplains : Explains (Serves kernel) disk history final order)
    (hsingle : ∀ id first second, .invoked id first ∈ history → .invoked id second ∈ history →
      first = second) : ∃ mode, ⟨id, .createDirectory path mode, .ok true⟩ ∈ order := by
  obtain ⟨⟨mode, hinvoked⟩, hreturned⟩ := hmakes
  obtain ⟨op, hserved⟩ := hexplains.returned id (.ok true) hreturned
  have hop := hsingle id op _ (hexplains.invoked _ hserved) hinvoked
  exact ⟨mode, hop ▸ hserved⟩

/-- Two calls can both say that they have made the directory, but then another one removes it
in between. -/
theorem directory_is_lock (hexclusive : Exclusive kernel path there)
    (actions : List (Action Disk)) (disk : Disk) (descriptors : List Fd) (state : State Disk)
    (hrun : (machine kernel).run actions (fresh disk descriptors) = some state)
    (first second : CallId) (hne : first ≠ second)
    (hfirst : Makes (history kernel actions (fresh disk descriptors)) path first)
    (hsecond : Makes (history kernel actions (fresh disk descriptors)) path second) :
    ∃ remover, Removes (history kernel actions (fresh disk descriptors)) path remover ∧
      (Between (history kernel actions (fresh disk descriptors)) first remover second ∨
        Between (history kernel actions (fresh disk descriptors)) second remover first) := by
  obtain ⟨_, _, hsound⟩ := accounted_of_run hrun
  obtain ⟨order, hexplains⟩ := hsound.account.linearizable
  obtain ⟨mode, hmade⟩ := hfirst.mem hexplains hsound.account.single
  obtain ⟨other, hmadeToo⟩ := hsecond.mem hexplains hsound.account.single
  obtain ⟨served, hserved, hloses, hbetween⟩ := hexplains.exists_loses_between hmade hmadeToo hne
    (hexclusive.gains first mode) (hexclusive.gains second other)
  obtain ⟨hrequest, hanswer⟩ := hexclusive.loses hloses
  refine ⟨served.call, ⟨hrequest ▸ hexplains.invoked served hserved, fun answer hreturned => ?_⟩,
    hbetween⟩
  obtain ⟨op, hother⟩ := hexplains.returned served.call answer hreturned
  have hsame := List.inj_on_of_nodup_map hexplains.once hother hserved rfl
  rw [← hanswer, ← hsame]

end

/-- Two fibers take the lock, one after the other has given it back; a third one finds it
taken. -/
def lockTakenTwice : List (Action Listing) :=
  [.call 0 (.createDirectory "lock" 0o755) 0, .call 1 (.createDirectory "lock" 0o755) 0,
    .serve 0 0 [("lock", .directory)], .serve 1 uvEexist [("lock", .directory)], .callback 1,
    .callback 0, .resume 1 0, .resume 0 0, .call 2 (.removeDirectory "lock") 0, .serve 2 0 [],
    .call 3 (.createDirectory "lock" 0o700) 0, .serve 3 0 [("lock", .directory)], .callback 3,
    .resume 3 0]

theorem directory_is_lock_lockTakenTwice :
    ∃ state, (machine oneDirectory).run lockTakenTwice (fresh [] []) = some state ∧
      ∃ remover, Removes (history oneDirectory lockTakenTwice (fresh [] [])) "lock" remover ∧
        (Between (history oneDirectory lockTakenTwice (fresh [] [])) 0 remover 3 ∨
          Between (history oneDirectory lockTakenTwice (fresh [] [])) 3 remover 0) := by
  have hfirst : Makes (history oneDirectory lockTakenTwice (fresh [] [])) "lock" 0 :=
    ⟨⟨0o755, by decide⟩, by decide⟩
  have hsecond : Makes (history oneDirectory lockTakenTwice (fresh [] [])) "lock" 3 :=
    ⟨⟨0o700, by decide⟩, by decide⟩
  exact ⟨_, rfl, directory_is_lock (oneDirectory_exclusive "lock") lockTakenTwice [] [] _ rfl 0 3
    (by decide) hfirst hsecond⟩

end Fiberuv.Io.Names
