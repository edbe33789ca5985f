import PowerMgr.Types
import PowerMgr.Lib.System
import PowerMgr.Lib.TreeMap
import Mathlib.Logic.Function.Basic

/-! # The listeners to the power state

Embedding of `RegisterPowerStateCallback`, `UnRegisterPowerStateCallback` and
`NotifyPowerStateChanged` (`power_state_machine.cpp`).  A callback may be registered as a sync
listener, as an async one, or as both.  An unregistration removes it from the first set it is found
in; the death of a client submits unregistrations.

* `Listeners` — the two sets and `cachedRegister_`;
* `State` — the listeners beside the tasks that deaths have submitted and what was called;
* `Agrees` — what was unregistered is gone, and `cachedRegister_` knows the two sets;
* `unregistered_is_gone` — the runs in which this holds.

A callback is known by its remote object, as `classcomp` compares callbacks.
-/

namespace PowerMgr.Clients.StateListeners

open Std (TreeMap TreeSet)

abbrev Callback := Nat

/-- `attached` counts how often the death recipient is attached to a callback at the IPC layer. -/
structure Listeners where
  syncPowerStateListeners : TreeSet Callback := ∅
  asyncPowerStateListeners : TreeSet Callback := ∅
  -- the pid and the uid of who registered a callback first
  cachedRegister : TreeMap Callback (Int × Int) := ∅
  attached : Callback → Nat := fun _ => 0

/-- A call of `OnPowerStateChanged` or of `OnAsyncPowerStateChanged`, and who is logged for it. -/
structure Call where
  callback : Callback
  isSync : Bool
  state : PowerState
  pidUid : Int × Int
  deriving DecidableEq, Repr

namespace Listeners

def addDeathRecipient (l : Listeners) (callback : Callback) : Listeners :=
  { l with attached := Function.update l.attached callback (l.attached callback + 1) }

def removeDeathRecipient (l : Listeners) (callback : Callback) : Listeners :=
  { l with attached := Function.update l.attached callback (l.attached callback - 1) }

/-- `RegisterPowerStateCallback`; the callback is `none` when it is null or has no object. -/
def registerPowerStateCallback (l : Listeners) (callback : Option Callback) (isSync : Bool) (pid uid : Int) :
    Listeners :=
  match callback with
  | none => l
  | some callback =>
    let present : Bool :=
      if isSync then callback ∈ l.syncPowerStateListeners else callback ∈ l.asyncPowerStateListeners
    let l :=
      if isSync then { l with syncPowerStateListeners := l.syncPowerStateListeners.insert callback }
      else { l with asyncPowerStateListeners := l.asyncPowerStateListeners.insert callback }
    let l := if present then l else l.addDeathRecipient callback
    { l with cachedRegister := l.cachedRegister.insertIfNew callback (pid, uid) }

/-- `UnRegisterPowerStateCallback`. -/
def unRegisterPowerStateCallback (l : Listeners) (callback : Option Callback) : Listeners :=
  match callback with
  | none => l
  | some callback =>
    let l :=
      if callback ∈ l.syncPowerStateListeners then
        { l with syncPowerStateListeners := l.syncPowerStateListeners.erase callback }.removeDeathRecipient callback
      else if callback ∈ l.asyncPowerStateListeners then
        { l with asyncPowerStateListeners := l.asyncPowerStateListeners.erase callback }.removeDeathRecipient callback
      else l
    { l with cachedRegister := l.cachedRegister.erase callback }

def calls (l : Listeners) (isSync : Bool) (state : PowerState) (listeners : TreeSet Callback) : List Call :=
  listeners.toList.map fun callback =>
    { callback := callback, isSync := isSync, state := state, pidUid := l.cachedRegister.getD callback (0, 0) }

/-- `NotifyPowerStateChanged`, in the state `current` of the machine. -/
def notifyPowerStateChanged (l : Listeners) (current state : PowerState) (enabledScreenOffEvent : Bool)
    (reason : StateChangeReason) : List Call :=
  if current = .inactive ∧ !enabledScreenOffEvent ∧ reason = .timeoutNoScreenLock then []
  else l.calls false state l.asyncPowerStateListeners ++ l.calls true state l.syncPowerStateListeners

end Listeners

/-! ## Runs -/

/-- `gone` says that the last operation on a callback was an unregistration or its death; a death is
carried out by the tasks it submits. -/
structure State where
  listeners : Listeners := {}
  dead : Callback → Bool := fun _ => false
  tasks : Callback → Nat := fun _ => 0
  gone : Callback → Bool := fun _ => true
  log : List Call := []

inductive Event where
  | register (callback : Option Callback) (isSync : Bool) (pid uid : Int)
  | unRegister (callback : Option Callback)
  -- the recipient is notified once, or once for each time it was attached
  | die (callback : Callback) (notified : Nat)
  -- a task that `OnRemoteDied` has submitted
  | task (callback : Callback)
  | notify (current state : PowerState) (enabledScreenOffEvent : Bool) (reason : StateChangeReason)
  deriving DecidableEq, Repr

def State.setGone (s : State) (callback : Option Callback) (gone : Bool) : State :=
  match callback with
  | none => s
  | some callback => { s with gone := Function.update s.gone callback gone }

def next (s : State) : Event → Option State
  | .register callback isSync pid uid =>
    some { s.setGone callback false with
      listeners := s.listeners.registerPowerStateCallback callback isSync pid uid }
  | .unRegister callback =>
    some { s.setGone callback true with listeners := s.listeners.unRegisterPowerStateCallback callback }
  | .die callback notified =>
    if !s.dead callback ∧ notified ≤ s.listeners.attached callback ∧
        (0 < s.listeners.attached callback → 0 < notified) then
      some { s.setGone (some callback) true with
        dead := Function.update s.dead callback true
        tasks := Function.update s.tasks callback (s.tasks callback + notified) }
    else none
  | .task callback =>
    if 0 < s.tasks callback then
      some { s with
        listeners := s.listeners.unRegisterPowerStateCallback (some callback)
        tasks := Function.update s.tasks callback (s.tasks callback - 1) }
    else none
  | .notify current state enabledScreenOffEvent reason =>
    some { s with
      log := s.log ++ s.listeners.notifyPowerStateChanged current state enabledScreenOffEvent reason }

def system : Lib.System State Event where
  init s := s = {}
  next := next

def Listeners.Registered (l : Listeners) (callback : Callback) : Prop :=
  callback ∈ l.syncPowerStateListeners ∨ callback ∈ l.asyncPowerStateListeners

/-- The last operation on a callback was an unregistration, or a death that has been carried out. -/
def State.Unregistered (s : State) (callback : Callback) : Prop :=
  s.gone callback = true ∧ s.tasks callback = 0

/-- A callback that was unregistered is in neither set and not called any more, and
`cachedRegister_` has the callbacks of the two sets as its keys. -/
structure Agrees (s : State) : Prop where
  gone : ∀ callback, s.Unregistered callback → ¬s.listeners.Registered callback
  uncalled : ∀ current state enabledScreenOffEvent reason s',
    next s (.notify current state enabledScreenOffEvent reason) = some s' →
      ∃ calls, s'.log = s.log ++ calls ∧ ∀ call ∈ calls, ¬s.Unregistered call.callback
  keys : ∀ callback, callback ∈ s.listeners.cachedRegister ↔ s.listeners.Registered callback

/-- An unregistration is not run for a callback that is in both sets. -/
def Careful (s : State) : Event → Prop
  | .unRegister (some callback) | .task callback =>
    ¬(callback ∈ s.listeners.syncPowerStateListeners ∧ callback ∈ s.listeners.asyncPowerStateListeners)
  | _ => True

/-! ## The two sets -/

section Sets

variable (l : Listeners) (callback other : Callback)

theorem registerPowerStateCallback_eq (isSync : Bool) (pid uid : Int) :
    l.registerPowerStateCallback (some callback) isSync pid uid =
      { syncPowerStateListeners :=
          if isSync then l.syncPowerStateListeners.insert callback else l.syncPowerStateListeners
        asyncPowerStateListeners :=
          if isSync then l.asyncPowerStateListeners else l.asyncPowerStateListeners.insert callback
        cachedRegister := l.cachedRegister.insertIfNew callback (pid, uid)
        attached :=
          if callback ∈ (if isSync then l.syncPowerStateListeners else l.asyncPowerStateListeners) then l.attached
          else Function.update l.attached callback (l.attached callback + 1) } := by
  cases isSync
  · by_cases hmem : callback ∈ l.asyncPowerStateListeners <;>
      simp [Listeners.registerPowerStateCallback, Listeners.addDeathRecipient, hmem]
  · by_cases hmem : callback ∈ l.syncPowerStateListeners <;>
      simp [Listeners.registerPowerStateCallback, Listeners.addDeathRecipient, hmem]

theorem mem_sync_register (isSync : Bool) (pid uid : Int) :
    other ∈ (l.registerPowerStateCallback (some callback) isSync pid uid).syncPowerStateListeners ↔
      (isSync = true ∧ other = callback) ∨ other ∈ l.syncPowerStateListeners := by
  rw [registerPowerStateCallback_eq]
  cases isSync <;> simp [eq_comm (a := other)]

theorem mem_async_register (isSync : Bool) (pid uid : Int) :
    other ∈ (l.registerPowerStateCallback (some callback) isSync pid uid).asyncPowerStateListeners ↔
      (isSync = false ∧ other = callback) ∨ other ∈ l.asyncPowerStateListeners := by
  rw [registerPowerStateCallback_eq]
  cases isSync <;> simp [eq_comm (a := other)]

theorem registered_register (isSync : Bool) (pid uid : Int) :
    (l.registerPowerStateCallback (some callback) isSync pid uid).Registered other ↔
      other = callback ∨ l.Registered other := by
  rw [Listeners.Registered, mem_sync_register, mem_async_register, Listeners.Registered]
  cases isSync <;> grind

theorem mem_cachedRegister_register (isSync : Bool) (pid uid : Int) :
    other ∈ (l.registerPowerStateCallback (some callback) isSync pid uid).cachedRegister ↔
      other = callback ∨ other ∈ l.cachedRegister := by
  rw [registerPowerStateCallback_eq]
  simp [eq_comm (a := other)]

/-- An unregistration erases from the set it finds the callback in first. -/
theorem mem_sync_unRegister :
    other ∈ (l.unRegisterPowerStateCallback (some callback)).syncPowerStateListeners ↔
      other ≠ callback ∧ other ∈ l.syncPowerStateListeners := by
  by_cases hsync : callback ∈ l.syncPowerStateListeners
  · simp [Listeners.unRegisterPowerStateCallback, Listeners.removeDeathRecipient, hsync, eq_comm (a := other)]
  · have hne : other ∈ l.syncPowerStateListeners → other ≠ callback := fun hmem heq => hsync (heq ▸ hmem)
    by_cases hasync : callback ∈ l.asyncPowerStateListeners <;>
      simpa [Listeners.unRegisterPowerStateCallback, Listeners.removeDeathRecipient, hsync, hasync] using hne

theorem mem_async_unRegister :
    other ∈ (l.unRegisterPowerStateCallback (some callback)).asyncPowerStateListeners ↔
      (callback ∈ l.syncPowerStateListeners ∨ other ≠ callback) ∧ other ∈ l.asyncPowerStateListeners := by
  by_cases hsync : callback ∈ l.syncPowerStateListeners
  · simp [Listeners.unRegisterPowerStateCallback, Listeners.removeDeathRecipient, hsync]
  · by_cases hasync : callback ∈ l.asyncPowerStateListeners
    · simp [Listeners.unRegisterPowerStateCallback, Listeners.removeDeathRecipient, hsync, hasync, eq_comm (a := other)]
    · have hne : other ∈ l.asyncPowerStateListeners → other ≠ callback := fun hmem heq => hasync (heq ▸ hmem)
      simpa [Listeners.unRegisterPowerStateCallback, Listeners.removeDeathRecipient, hsync, hasync] using hne

theorem mem_cachedRegister_unRegister :
    other ∈ (l.unRegisterPowerStateCallback (some callback)).cachedRegister ↔
      other ≠ callback ∧ other ∈ l.cachedRegister := by
  have herase : (l.unRegisterPowerStateCallback (some callback)).cachedRegister = l.cachedRegister.erase callback := by
    simp only [Listeners.unRegisterPowerStateCallback, Listeners.removeDeathRecipient]
    split_ifs <;> rfl
  rw [herase, TreeMap.mem_erase, ne_eq, Std.LawfulEqCmp.compare_eq_iff_eq, eq_comm]

/-- A callback that is in one set at most is in none afterwards. -/
theorem registered_unRegister
    (honce : ¬(callback ∈ l.syncPowerStateListeners ∧ callback ∈ l.asyncPowerStateListeners)) :
    (l.unRegisterPowerStateCallback (some callback)).Registered other ↔ other ≠ callback ∧ l.Registered other := by
  rw [Listeners.Registered, mem_sync_unRegister, mem_async_unRegister, Listeners.Registered]
  grind

/-- A callback that is called is in one of the sets. -/
theorem registered_of_mem_notify {current state : PowerState} {enabledScreenOffEvent : Bool}
    {reason : StateChangeReason} {call : Call}
    (hmem : call ∈ l.notifyPowerStateChanged current state enabledScreenOffEvent reason) :
    l.Registered call.callback := by
  simp only [Listeners.notifyPowerStateChanged] at hmem
  split at hmem
  · cases hmem
  · obtain hmem | hmem := List.mem_append.mp hmem <;> obtain ⟨callback, hlistener, rfl⟩ := List.mem_map.mp hmem
    · exact .inr (TreeSet.mem_toList.mp hlistener)
    · exact .inl (TreeSet.mem_toList.mp hlistener)

end Sets

/-! ## Every run -/

/-- The death recipient is attached where the callback is registered, and a callback that is still
registered after its last unregistration has a task that will remove it. -/
structure Inv (s : State) : Prop where
  attached : ∀ callback, s.listeners.Registered callback → s.dead callback = false →
    0 < s.listeners.attached callback
  keys : ∀ callback, callback ∈ s.listeners.cachedRegister ↔ s.listeners.Registered callback
  pending : ∀ callback, s.gone callback = true → s.listeners.Registered callback → 0 < s.tasks callback

theorem inv_init : Inv {} where
  attached _ h := by simp [Listeners.Registered] at h
  keys _ := by simp [Listeners.Registered]
  pending _ _ h := by simp [Listeners.Registered] at h

theorem Inv.register {s : State} (h : Inv s) (callback : Callback) (isSync : Bool) (pid uid : Int) :
    Inv { s.setGone (some callback) false with
      listeners := s.listeners.registerPowerStateCallback (some callback) isSync pid uid } where
  attached := by
    intro other hregistered hlive
    have hattached : ∀ other, s.listeners.attached other ≤
        (s.listeners.registerPowerStateCallback (some callback) isSync pid uid).attached other := by
      intro other
      rw [registerPowerStateCallback_eq]
      by_cases heq : other = callback
      · subst heq
        simp only
        split_ifs <;> simp
      · simp only
        split_ifs <;> simp [heq]
    rw [registered_register] at hregistered
    by_cases hbefore : s.listeners.Registered other
    · exact Nat.lt_of_lt_of_le (h.attached other hbefore hlive) (hattached other)
    · -- it was in no set, so it is new in the one it is put in
      obtain rfl := hregistered.resolve_right hbefore
      have hnew : other ∉ if isSync then s.listeners.syncPowerStateListeners else s.listeners.asyncPowerStateListeners := by
        cases isSync <;> simp_all [Listeners.Registered]
      simp [registerPowerStateCallback_eq, hnew]
  keys := by
    intro other
    rw [mem_cachedRegister_register, registered_register, h.keys]
  pending := by
    intro other hgone hregistered
    rw [registered_register] at hregistered
    by_cases heq : other = callback
    · simp [State.setGone, heq] at hgone
    · simp only [State.setGone, Function.update_of_ne heq] at hgone
      exact h.pending other hgone (hregistered.resolve_left heq)

theorem attached_unRegister (l : Listeners) {callback other : Callback} (hne : other ≠ callback) :
    (l.unRegisterPowerStateCallback (some callback)).attached other = l.attached other := by
  simp only [Listeners.unRegisterPowerStateCallback, Listeners.removeDeathRecipient]
  split_ifs <;> simp [hne]

/-- An unregistration of a callback that is not in both sets, whoever runs it. -/
theorem Inv.unRegister {s s' : State} (h : Inv s) {callback : Callback}
    (honce : ¬(callback ∈ s.listeners.syncPowerStateListeners ∧ callback ∈ s.listeners.asyncPowerStateListeners))
    (hlisteners : s'.listeners = s.listeners.unRegisterPowerStateCallback (some callback))
    (hdead : s'.dead = s.dead) (hgone : ∀ other, other ≠ callback → s'.gone other = s.gone other)
    (htasks : ∀ other, other ≠ callback → s'.tasks other = s.tasks other) : Inv s' where
  attached := by
    intro other hregistered hlive
    rw [hlisteners, registered_unRegister _ _ _ honce] at hregistered
    rw [hdead] at hlive
    rw [hlisteners, attached_unRegister _ hregistered.1]
    exact h.attached other hregistered.2 hlive
  keys := by
    intro other
    rw [hlisteners, mem_cachedRegister_unRegister, registered_unRegister _ _ _ honce, h.keys]
  pending := by
    intro other hgone' hregistered
    rw [hlisteners, registered_unRegister _ _ _ honce] at hregistered
    rw [hgone other hregistered.1] at hgone'
    rw [htasks other hregistered.1]
    exact h.pending other hgone' hregistered.2

theorem Inv.die {s s' : State} (h : Inv s) {callback : Callback} {notified : Nat}
    (hnext : next s (.die callback notified) = some s') : Inv s' := by
  simp only [next] at hnext
  split at hnext
  next hguard =>
    cases hnext
    obtain ⟨hlive, -, hnotified⟩ := hguard
    refine ⟨?_, h.keys, ?_⟩
    · intro other hregistered hlive'
      by_cases heq : other = callback
      · simp [heq] at hlive'
      · simp only [Function.update_of_ne heq] at hlive'
        exact h.attached other hregistered hlive'
    · intro other hgone hregistered
      by_cases heq : other = callback
      · subst heq
        have hpos := hnotified (h.attached other hregistered (by simpa using hlive))
        simp only [Function.update_self]
        omega
      · simp only [State.setGone, Function.update_of_ne heq] at hgone ⊢
        exact h.pending other hgone hregistered
  next => cases hnext

theorem inv_step {s s' : State} {e : Event} (h : Inv s) (hcareful : Careful s e) (hnext : next s e = some s') :
    Inv s' := by
  cases e with
  | register callback isSync pid uid =>
    cases hnext
    cases callback with
    | none => exact ⟨h.attached, h.keys, h.pending⟩
    | some callback => exact h.register callback isSync pid uid
  | unRegister callback =>
    cases hnext
    cases callback with
    | none => exact ⟨h.attached, h.keys, h.pending⟩
    | some callback =>
      refine h.unRegister hcareful rfl rfl (fun other hne => ?_) fun _ _ => rfl
      simp [State.setGone, hne]
  | die callback notified => exact h.die hnext
  | task callback =>
    simp only [next] at hnext
    split at hnext
    · cases hnext
      refine h.unRegister hcareful rfl rfl (fun _ _ => rfl) fun other hne => ?_
      simp [hne]
    · cases hnext
  | notify current state enabledScreenOffEvent reason =>
    cases hnext
    exact ⟨h.attached, h.keys, h.pending⟩

theorem Inv.agrees {s : State} (h : Inv s) : Agrees s := by
  have hgone : ∀ callback, s.Unregistered callback → ¬s.listeners.Registered callback := by
    rintro callback ⟨hgone, htasks⟩ hregistered
    exact absurd (h.pending callback hgone hregistered) (by omega)
  refine ⟨hgone, ?_, h.keys⟩
  intro current state enabledScreenOffEvent reason s' hnext
  cases hnext
  refine ⟨_, rfl, fun call hmem hunregistered => ?_⟩
  exact hgone call.callback hunregistered (registered_of_mem_notify _ hmem)

/-- When no unregistration is run for a callback that is in both sets, what was unregistered is gone
and `cachedRegister_` agrees with the sets. -/
theorem unregistered_is_gone {s : State} (h : system.Reach Careful s) : Agrees s := by
  have hinv : Inv s := by
    refine h.invariant (I := Inv) ?_ ?_
    · intro s hs
      cases hs
      exact inv_init
    · intro s s' e hinv hcareful hnext
      exact inv_step hinv hcareful hnext
  exact hinv.agrees

/-- A sync listener is notified and unregistered; an async one is notified and dies. -/
theorem unregistered_is_gone_two : ∃ s, Agrees s ∧ s.Unregistered 1 ∧ s.Unregistered 2 ∧
    s.log = [{ callback := 2, isSync := false, state := .awake, pidUid := (0, 1) },
      { callback := 1, isSync := true, state := .awake, pidUid := (0, 0) }] := by
  have hnew : system.Reach Careful {} := .init rfl
  have hsync := hnew.step (Event.register (some 1) true 0 0) trivial rfl
  have hasync := hsync.step (Event.register (some 2) false 0 1) trivial rfl
  have hnotified := hasync.step (Event.notify .inactive .awake true .hardKey) trivial rfl
  have hgone := hnotified.step (Event.unRegister (some 1)) (by decide : ¬_) rfl
  have hdead := hgone.step (Event.die 2 1) trivial rfl
  have htask := hdead.step (Event.task 2) (by decide : ¬_) rfl
  exact ⟨_, unregistered_is_gone htask, ⟨rfl, rfl⟩, ⟨rfl, rfl⟩, rfl⟩

/-- A callback that was registered both ways stays an async listener when it is unregistered, and is
called again. -/
theorem unregistered_called : ∃ s, system.Reachable s ∧ s.Unregistered 1 ∧
    s.log = [{ callback := 1, isSync := false, state := .awake, pidUid := (0, 0) }] ∧ ¬Agrees s := by
  have hnew : system.Reachable {} := .init rfl
  have hsync := hnew.step (Event.register (some 1) true 0 0) trivial rfl
  have hboth := hsync.step (Event.register (some 1) false 0 0) trivial rfl
  have hgone := hboth.step (Event.unRegister (some 1)) trivial rfl
  have hnotified := hgone.step (Event.notify .inactive .awake true .hardKey) trivial rfl
  exact ⟨_, hnotified, ⟨rfl, rfl⟩, rfl, fun hagrees => hagrees.gone 1 ⟨rfl, rfl⟩ (.inr rfl)⟩

end PowerMgr.Clients.StateListeners
