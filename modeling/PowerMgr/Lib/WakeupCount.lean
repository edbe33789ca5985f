import Mathlib.Data.List.Basic

/-! # Counting wakeup events

A kernel that is about to sleep has to notice what happens after the decision was taken.  It counts the
wakeup events it has registered; a process reads the count, makes sure that nobody needs the system, and
writes the count back.  The write fails if the count has changed or an event is still being processed,
and after a write that was accepted the system does not go to sleep if there was an event since.

A wake lock is an event that is processed as long as the lock is held; locks are told apart by name only.

* `lock`, `unlock`, `begin`, `finish`, `read?`, `write`, `suspend` — what processes and drivers ask for.
* `Touched n` — there was an event since the count was `n`; nothing undoes it.
* `not_touched_of_suspend` — what a sleep after an accepted write says.
-/

namespace PowerMgr.Lib

universe u

/-- The wake locks held, the other events being processed, the events registered, and the count that
was accepted last. -/
structure WakeupCount (ν : Type u) where
  active : List ν := []
  processing : Nat := 0
  registered : Nat := 0
  saved : Option Nat := none
  deriving DecidableEq, Repr

namespace WakeupCount

variable {ν : Type u}

/-- No event is being processed. -/
def Quiet (k : WakeupCount ν) : Prop :=
  k.active = [] ∧ k.processing = 0

instance (k : WakeupCount ν) : Decidable k.Quiet :=
  inferInstanceAs (Decidable (_ ∧ _))

def lock [DecidableEq ν] (name : ν) (k : WakeupCount ν) : WakeupCount ν :=
  if name ∈ k.active then k else { k with active := name :: k.active }

def unlock [DecidableEq ν] (name : ν) (k : WakeupCount ν) : WakeupCount ν :=
  if name ∈ k.active then { k with active := k.active.erase name, registered := k.registered + 1 } else k

/-- An event of a driver, from its report to the end of its processing. -/
def begin (k : WakeupCount ν) : WakeupCount ν :=
  { k with processing := k.processing + 1 }

def finish (k : WakeupCount ν) : WakeupCount ν :=
  if k.processing = 0 then k else { k with processing := k.processing - 1, registered := k.registered + 1 }

/-- Reading blocks while an event is being processed. -/
def read? (k : WakeupCount ν) : Option Nat :=
  if k.Quiet then some k.registered else none

def write (count : Nat) (k : WakeupCount ν) : WakeupCount ν × Bool :=
  if k.Quiet ∧ k.registered = count then ({ k with saved := some count }, true) else ({ k with saved := none }, false)

/-- Going to sleep uses up the accepted count; without one nothing is looked at. -/
def suspend (k : WakeupCount ν) : WakeupCount ν × Bool :=
  match k.saved with
  | none => (k, true)
  | some count => ({ k with saved := none }, decide (k.Quiet ∧ k.registered = count))

/-! ## What has happened since a count -/

/-- There was an event since the count was `n`. -/
def Touched (n : Nat) (k : WakeupCount ν) : Prop :=
  ¬k.Quiet ∨ n < k.registered

variable {k : WakeupCount ν} {n : Nat} {name : ν}

theorem registered_lock [DecidableEq ν] : (k.lock name).registered = k.registered := by
  unfold lock
  split <;> rfl

theorem registered_le_unlock [DecidableEq ν] : k.registered ≤ (k.unlock name).registered := by
  unfold unlock
  split
  · exact Nat.le_succ _
  · exact Nat.le_refl _

theorem registered_le_finish : k.registered ≤ k.finish.registered := by
  unfold finish
  split
  · exact Nat.le_refl _
  · exact Nat.le_succ _

theorem mem_active_lock [DecidableEq ν] {other : ν} : other ∈ (k.lock name).active ↔ other = name ∨ other ∈ k.active := by
  unfold lock
  split
  next hmem =>
    constructor
    · exact .inr
    · rintro (rfl | hother)
      · exact hmem
      · exact hother
  next => exact List.mem_cons

/-- A lock leaves a mark also if it is given back. -/
theorem touched_lock [DecidableEq ν] (n : Nat) (name : ν) (k : WakeupCount ν) : (k.lock name).Touched n := by
  refine .inl fun hquiet => ?_
  have hmem : name ∈ (k.lock name).active := mem_active_lock.mpr (.inl rfl)
  rw [hquiet.1] at hmem
  cases hmem

theorem Touched.unlock [DecidableEq ν] (name : ν) (hn : n ≤ k.registered) (h : k.Touched n) : (k.unlock name).Touched n := by
  unfold WakeupCount.unlock
  split
  · refine .inr ?_
    show n < k.registered + 1
    omega
  · exact h

theorem touched_begin (n : Nat) (k : WakeupCount ν) : k.begin.Touched n := by
  refine .inl fun hquiet => ?_
  have hprocessing : k.processing + 1 = 0 := hquiet.2
  omega

theorem Touched.finish (hn : n ≤ k.registered) (h : k.Touched n) : k.finish.Touched n := by
  unfold WakeupCount.finish
  split
  · exact h
  · refine .inr ?_
    show n < k.registered + 1
    omega

theorem Touched.setSaved {saved : Option Nat} (h : k.Touched n) : { k with saved := saved }.Touched n := by
  refine h.imp (fun hnot hquiet => hnot ⟨hquiet.1, hquiet.2⟩) fun hlt => ?_
  exact hlt

/-- An accepted write notes the count as it is. -/
theorem write_accepted (h : (k.write n).2 = true) : (k.write n).1 = { k with saved := some n } := by
  unfold write at h ⊢
  split
  · rfl
  next hnot => simp [hnot] at h

/-- After an accepted write the system sleeps only if nothing has happened since the count. -/
theorem not_touched_of_suspend (hsaved : k.saved = some n) (h : k.suspend.2 = true) : ¬k.Touched n := by
  unfold suspend at h
  rw [hsaved] at h
  obtain ⟨hquiet, hregistered⟩ := of_decide_eq_true h
  rintro (hnot | hlt)
  · exact hnot hquiet
  · omega

theorem quiet_of_not_touched (h : ¬k.Touched n) : k.Quiet := by
  by_contra hnot
  exact h (.inl hnot)

end WakeupCount

end PowerMgr.Lib
