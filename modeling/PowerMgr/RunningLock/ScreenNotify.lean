import PowerMgr.RunningLock.ScreenLocks
import Mathlib.Data.List.Chain

/-! # Screen lock notifications

Embedding of `RunningLockCallbackManager` (`running_lock_callback_manager.cpp`) in the multi-screen
build.  A display is locked by the screen locks on it and by those on all displays, and whoever has
registered for it is told when it becomes locked and when it no longer is.

* `RunningLockCallbackManager` — the registered callbacks and the counts per display;
* `handleScreenLockNotify`, `notifyScreenRunningLockChanged` — what a lock that is activated or
  deactivated emits, and who gets it;
* `State.effective` — how many locks keep a display locked;
* `screenLock_notifications` — the emitted notifications are the displays whose effective number crosses
  zero, and what a callback gets alternates and ends with the truth.

A null callback is returned at once by every call and is left out.
-/

namespace PowerMgr.RunningLock.ScreenNotify

open Std (TreeMap TreeSet)
open Lib.TreeMap (getElem?_insert_eq getElem?_erase_eq)

/-! ## The callback manager -/

/-- The remote object of a listener. -/
abbrev Callback := Nat

inductive RunningLockChangeState where
  | locked
  | unlocked
  deriving DecidableEq, Repr

/-- An element of `callbacks_`: the object with the tuple it is registered with. -/
structure CallbackEntry where
  callback : Callback
  pid : Int
  uid : Int
  displayId : Nat
  deriving DecidableEq, Repr

/-- `callbacks_` is a multimap; the order of its elements decides nothing but who is called first. -/
structure RunningLockCallbackManager where
  callbacks : List CallbackEntry := []
  screenLockCountPerDisplayId : TreeMap Nat UInt32 := ∅

namespace RunningLockCallbackManager

variable (m : RunningLockCallbackManager)

def isRegistered (callback : Callback) (displayId : Nat) : Bool :=
  m.callbacks.any fun entry => entry.callback = callback && entry.displayId = displayId

def register (callback : Callback) (pid uid : Int) (displayId : Nat) : RunningLockCallbackManager :=
  if m.isRegistered callback displayId then m
  else { m with callbacks := m.callbacks ++ [⟨callback, pid, uid, displayId⟩] }

/-- `UnRegister`: the first element of the callback with this display. -/
def unRegister (callback : Callback) (displayId : Nat) : RunningLockCallbackManager :=
  { m with callbacks := m.callbacks.eraseP fun entry => entry.callback = callback && entry.displayId = displayId }

def removeAll (callback : Callback) : RunningLockCallbackManager :=
  { m with callbacks := m.callbacks.filter fun entry => entry.callback ≠ callback }

def getRegisteredDisplayIds : TreeSet Nat :=
  m.callbacks.foldl (fun displayIds entry => displayIds.insert entry.displayId) ∅

/-- `screenLockCountPerDisplayId_` at an id, zero where the map has none. -/
def countAt (displayId : Nat) : UInt32 :=
  m.screenLockCountPerDisplayId[displayId]?.getD 0

def getScreenLockCountInternal (displayId : Nat) : UInt32 :=
  if displayId = displayIdAll then m.countAt displayId else m.countAt displayId + m.countAt displayIdAll

def updateScreenLockCount (active : Bool) (displayId : Nat) : RunningLockCallbackManager :=
  if active then
    { m with
      screenLockCountPerDisplayId := m.screenLockCountPerDisplayId.insert displayId (m.countAt displayId + 1) }
  else
    match m.screenLockCountPerDisplayId[displayId]? with
    | some count =>
      if count = 0 then m
      -- an entry that has come down to zero is erased
      else if count - 1 = 0 then
        { m with screenLockCountPerDisplayId := m.screenLockCountPerDisplayId.erase displayId }
      else { m with screenLockCountPerDisplayId := m.screenLockCountPerDisplayId.insert displayId (count - 1) }
    | none => m

/-- `CollectNotifications`, called after the count has been updated. -/
def collectNotifications (active : Bool) (displayId : Nat) : List (RunningLockChangeState × Nat) :=
  let countAfter := m.getScreenLockCountInternal displayId
  let countBefore := countAfter + (if active then 0 else 1) - (if active then 1 else 0)
  if active ∧ countBefore = 0 ∧ countAfter = 1 then [(.locked, displayId)]
  else if ¬active ∧ countBefore = 1 ∧ countAfter = 0 then [(.unlocked, displayId)]
  else []

/-- `NotifyScreenRunningLockChanged`: the calls of `OnAsyncScreenRunningLockChanged`. -/
def notifyScreenRunningLockChanged (notification : RunningLockChangeState × Nat) :
    List (Callback × RunningLockChangeState × Nat) :=
  m.callbacks.filterMap fun entry =>
    if entry.displayId = notification.2 then some (entry.callback, notification) else none

/-- The displays `HandleScreenLockNotify` looks at. -/
def concerned (displayId : Nat) : List Nat :=
  (if displayId = displayIdAll then (m.getRegisteredDisplayIds.erase displayIdAll).toList else []) ++ [displayId]

/-- `HandleScreenLockNotify`: the notifications it collects. -/
def handleScreenLockNotify (active : Bool) (displayId : Nat) :
    RunningLockCallbackManager × List (RunningLockChangeState × Nat) :=
  let m' := m.updateScreenLockCount active displayId
  (m', (m.concerned displayId).flatMap (m'.collectNotifications active))

end RunningLockCallbackManager

/-! ## Runs -/

/-- The manager with what has happened so far: for every display id the activations that have not been
cancelled, the number of all activations, and the calls the callbacks have got. -/
structure State where
  manager : RunningLockCallbackManager := {}
  held : Nat → Nat := fun _ => 0
  activations : Nat := 0
  delivered : List (Callback × RunningLockChangeState × Nat) := []

inductive Event where
  | register (callback : Callback) (pid uid : Int) (displayId : Nat)
  | unRegister (callback : Callback) (displayId : Nat)
  | removeAll (callback : Callback)
  | handleScreenLockNotify (active : Bool) (displayId : Nat)
  deriving DecidableEq, Repr

def next (s : State) : Event → State
  | .register callback pid uid displayId => { s with manager := s.manager.register callback pid uid displayId }
  | .unRegister callback displayId => { s with manager := s.manager.unRegister callback displayId }
  | .removeAll callback => { s with manager := s.manager.removeAll callback }
  | .handleScreenLockNotify active displayId =>
    let (manager, notifications) := s.manager.handleScreenLockNotify active displayId
    { manager
      held := Function.update s.held displayId (if active then s.held displayId + 1 else s.held displayId - 1)
      activations := if active then s.activations + 1 else s.activations
      delivered := s.delivered ++ notifications.flatMap manager.notifyScreenRunningLockChanged }

def system : Lib.System State Event where
  init s := s = {}
  next s e := some (next s e)

/-- Every deactivation cancels an activation, and there are fewer than `2 ^ 32` of these. -/
def Proper (s : State) : Event → Prop
  | .handleScreenLockNotify true _ => s.activations + 1 < 2 ^ 32
  | .handleScreenLockNotify false displayId => 0 < s.held displayId
  | _ => True

instance : ∀ (s : State) (event : Event), Decidable (Proper s event)
  | s, .handleScreenLockNotify true _ => inferInstanceAs (Decidable (s.activations + 1 < 2 ^ 32))
  | s, .handleScreenLockNotify false displayId => inferInstanceAs (Decidable (0 < s.held displayId))
  | _, .register .. => inferInstanceAs (Decidable True)
  | _, .unRegister .. => inferInstanceAs (Decidable True)
  | _, .removeAll .. => inferInstanceAs (Decidable True)

/-- The locks that keep a display locked: those on it and those on all displays. -/
def State.effective (s : State) (displayId : Nat) : Nat :=
  if displayId = displayIdAll then s.held displayId else s.held displayId + s.held displayIdAll

variable {s s' : State} {active : Bool} {displayId e : Nat} {callback : Callback}

/-! ## The displays of one step -/

namespace RunningLockCallbackManager

variable {m : RunningLockCallbackManager}

theorem mem_foldl_insert (entries : List CallbackEntry) (displayIds : TreeSet Nat) :
    e ∈ entries.foldl (fun displayIds entry => displayIds.insert entry.displayId) displayIds ↔
      e ∈ displayIds ∨ ∃ entry ∈ entries, entry.displayId = e := by
  induction entries generalizing displayIds with
  | nil => simp
  | cons entry entries ih =>
    rw [List.foldl_cons, ih, TreeSet.mem_insert, Nat.compare_eq_eq]
    simp only [List.mem_cons, exists_eq_or_imp]
    tauto

theorem mem_getRegisteredDisplayIds :
    e ∈ m.getRegisteredDisplayIds ↔ ∃ entry ∈ m.callbacks, entry.displayId = e := by
  rw [getRegisteredDisplayIds, mem_foldl_insert]
  simp

theorem mem_concerned : e ∈ m.concerned displayId ↔
    e = displayId ∨ displayId = displayIdAll ∧ ∃ entry ∈ m.callbacks, entry.displayId = e := by
  rw [concerned, List.mem_append, List.mem_singleton]
  by_cases hall : displayId = displayIdAll
  · rw [if_pos hall, TreeSet.mem_toList, TreeSet.mem_erase, mem_getRegisteredDisplayIds, hall, ne_eq,
      Nat.compare_eq_eq]
    by_cases hsame : e = displayIdAll
    · simp [hsame]
    · simp [hsame, Ne.symm hsame]
  · simp [hall]

theorem concerned_nodup : (m.concerned displayId).Nodup := by
  rw [concerned]
  by_cases hall : displayId = displayIdAll
  · rw [if_pos hall, List.nodup_append]
    refine ⟨?_, List.nodup_singleton _, fun e hmem e' hmem' => ?_⟩
    · exact (TreeSet.distinct_toList).imp fun hne heq => hne (Nat.compare_eq_eq.mpr heq)
    · rw [List.mem_singleton] at hmem'
      rw [TreeSet.mem_toList, TreeSet.mem_erase] at hmem
      rintro rfl
      exact hmem.1 (Nat.compare_eq_eq.mpr (hmem'.trans hall).symm)
  · rw [if_neg hall]
    exact List.nodup_singleton _

end RunningLockCallbackManager

/-! ## Counts -/

/-- The manager counts what is held, and there is room for it. -/
structure Inv (s : State) : Prop where
  counts : ∀ e, (s.manager.countAt e).toNat = s.held e
  bound : ∀ e, s.effective e ≤ s.activations
  few : s.activations < 2 ^ 32
  keys : (s.manager.callbacks.map fun entry => (entry.callback, entry.displayId)).Nodup

theorem held_le_effective (s : State) (e : Nat) : s.held e ≤ s.effective e := by
  rw [State.effective]
  split
  · exact Nat.le_refl _
  · exact Nat.le_add_right ..

theorem Inv.held_lt (h : Inv s) (e : Nat) : s.held e < 2 ^ 32 :=
  Nat.lt_of_le_of_lt (Nat.le_trans (held_le_effective s e) (h.bound e)) h.few

theorem Inv.getScreenLockCountInternal_toNat (h : Inv s) (e : Nat) :
    (s.manager.getScreenLockCountInternal e).toNat = s.effective e := by
  have hbound := h.bound e
  have hfew := h.few
  rw [RunningLockCallbackManager.getScreenLockCountInternal]
  rw [State.effective] at hbound ⊢
  split at hbound
  · rename_i hall
    rw [if_pos hall, if_pos hall, h.counts]
  · rename_i hall
    rw [if_neg hall, if_neg hall, UInt32.toNat_add, h.counts, h.counts, Nat.mod_eq_of_lt (by omega)]

theorem updateScreenLockCount_callbacks (m : RunningLockCallbackManager) (active : Bool) (displayId : Nat) :
    (m.updateScreenLockCount active displayId).callbacks = m.callbacks := by
  unfold RunningLockCallbackManager.updateScreenLockCount
  split
  · rfl
  · split
    · split
      · rfl
      · split <;> rfl
    · rfl

theorem countAt_activate (m : RunningLockCallbackManager) (displayId e : Nat) :
    (m.updateScreenLockCount true displayId).countAt e =
      if e = displayId then m.countAt displayId + 1 else m.countAt e := by
  simp only [RunningLockCallbackManager.updateScreenLockCount, if_true]
  rw [RunningLockCallbackManager.countAt, getElem?_insert_eq]
  by_cases hsame : displayId = e
  · rw [if_pos hsame, if_pos hsame.symm]
    rfl
  · rw [if_neg hsame, if_neg (Ne.symm hsame)]
    rfl

theorem countAt_deactivate {m : RunningLockCallbackManager} (hpos : m.countAt displayId ≠ 0) (e : Nat) :
    (m.updateScreenLockCount false displayId).countAt e =
      if e = displayId then m.countAt displayId - 1 else m.countAt e := by
  cases hcount : m.screenLockCountPerDisplayId[displayId]? with
  | none =>
    rw [RunningLockCallbackManager.countAt, hcount] at hpos
    exact absurd rfl hpos
  | some count =>
    have hat : m.countAt displayId = count := by
      rw [RunningLockCallbackManager.countAt, hcount]
      rfl
    rw [hat] at hpos ⊢
    simp only [RunningLockCallbackManager.updateScreenLockCount, Bool.false_eq_true, if_false, hcount, if_neg hpos]
    by_cases hzero : count - 1 = 0
    -- an entry that goes to zero is erased, which reads as zero
    · rw [if_pos hzero, RunningLockCallbackManager.countAt, getElem?_erase_eq]
      by_cases hsame : displayId = e
      · rw [if_pos hsame, if_pos hsame.symm, hzero]
        rfl
      · rw [if_neg hsame, if_neg (Ne.symm hsame)]
        rfl
    · rw [if_neg hzero, RunningLockCallbackManager.countAt, getElem?_insert_eq]
      by_cases hsame : displayId = e
      · rw [if_pos hsame, if_pos hsame.symm]
        rfl
      · rw [if_neg hsame, if_neg (Ne.symm hsame)]
        rfl

theorem held_handle (s : State) (active : Bool) (displayId e : Nat) :
    (next s (.handleScreenLockNotify active displayId)).held e =
      if e = displayId then (if active then s.held displayId + 1 else s.held displayId - 1) else s.held e := by
  have hheld : (next s (.handleScreenLockNotify active displayId)).held = Function.update s.held displayId
      (if active then s.held displayId + 1 else s.held displayId - 1) := rfl
  rw [hheld, Function.update_apply]

/-- The effective number of a display goes up or down by one with a lock on it or on all displays. -/
theorem effective_activate (s : State) (hlocked : e = displayId ∨ displayId = displayIdAll) :
    (next s (.handleScreenLockNotify true displayId)).effective e = s.effective e + 1 := by
  simp only [State.effective, held_handle, if_true]
  by_cases hall : e = displayIdAll
  · have hsame : e = displayId := hlocked.elim id fun h => hall.trans h.symm
    rw [if_pos hall, if_pos hall, if_pos hsame, hsame]
  · obtain rfl | rfl := hlocked
    -- one of the two terms of the sum is counted up
    · rw [if_neg hall, if_neg hall, if_pos rfl, if_neg (Ne.symm hall)]
      omega
    · rw [if_neg hall, if_neg hall, if_neg hall, if_pos rfl]
      omega

theorem effective_deactivate (hheld : 0 < s.held displayId) (hlocked : e = displayId ∨ displayId = displayIdAll) :
    s.effective e = (next s (.handleScreenLockNotify false displayId)).effective e + 1 := by
  simp only [State.effective, held_handle, Bool.false_eq_true, if_false]
  by_cases hall : e = displayIdAll
  · have hsame : e = displayId := hlocked.elim id fun h => hall.trans h.symm
    rw [if_pos hall, if_pos hall, if_pos hsame, hsame]
    omega
  · obtain rfl | rfl := hlocked
    · rw [if_neg hall, if_neg hall, if_pos rfl, if_neg (Ne.symm hall)]
      omega
    · rw [if_neg hall, if_neg hall, if_neg hall, if_pos rfl]
      omega

theorem effective_other (s : State) (active : Bool) (hne : e ≠ displayId) (hall : displayId ≠ displayIdAll) :
    (next s (.handleScreenLockNotify active displayId)).effective e = s.effective e := by
  simp only [State.effective, held_handle, if_neg hne, if_neg hall.symm]

theorem inv_handle (h : Inv s) (hok : Proper s (.handleScreenLockNotify active displayId)) :
    Inv (next s (.handleScreenLockNotify active displayId)) := by
  have hmanager : (next s (.handleScreenLockNotify active displayId)).manager =
      s.manager.updateScreenLockCount active displayId := rfl
  have hactivations : (next s (.handleScreenLockNotify active displayId)).activations =
      if active then s.activations + 1 else s.activations := rfl
  have hlt := h.held_lt displayId
  refine ⟨fun e => ?_, fun e => ?_, ?_, ?_⟩
  · rw [hmanager, held_handle]
    cases active with
    | true =>
      -- there are never as many locks as would make the counter wrap
      have hroom : s.activations + 1 < 2 ^ 32 := hok
      have hle := Nat.le_trans (held_le_effective s displayId) (h.bound displayId)
      rw [countAt_activate, if_pos rfl]
      by_cases hsame : e = displayId
      · rw [if_pos hsame, if_pos hsame, UInt32.toNat_add, h.counts, UInt32.toNat_one, Nat.mod_eq_of_lt (by omega)]
      · rw [if_neg hsame, if_neg hsame, h.counts]
    | false =>
      -- a lock that is taken back was counted
      have hheld : 0 < s.held displayId := hok
      have hpos : s.manager.countAt displayId ≠ 0 := by
        intro hzero
        have hcount := h.counts displayId
        rw [hzero, UInt32.toNat_zero] at hcount
        omega
      rw [countAt_deactivate hpos]
      by_cases hsame : e = displayId
      · have hone : (1 : UInt32) ≤ s.manager.countAt displayId := by
          rw [UInt32.le_iff_toNat_le, h.counts, UInt32.toNat_one]
          exact hheld
        rw [if_pos hsame, if_pos hsame, UInt32.toNat_sub_of_le _ _ hone, h.counts, UInt32.toNat_one]
        rfl
      · rw [if_neg hsame, if_neg hsame, h.counts]
  · have hbound := h.bound e
    rw [hactivations]
    by_cases hlocked : e = displayId ∨ displayId = displayIdAll
    · cases active with
      | true =>
        rw [effective_activate s hlocked, if_pos rfl]
        omega
      | false =>
        have hdown := effective_deactivate hok hlocked
        rw [if_neg Bool.false_ne_true]
        omega
    · obtain ⟨hne, hall⟩ := not_or.mp hlocked
      rw [effective_other s active hne hall]
      split <;> omega
  · rw [hactivations]
    cases active with
    | true => exact hok
    | false => exact h.few
  · rw [hmanager, updateScreenLockCount_callbacks]
    exact h.keys

theorem inv_next {event : Event} (h : Inv s) (hok : Proper s event) : Inv (next s event) := by
  cases event with
  | register callback pid uid displayId =>
    refine ⟨fun e => ?_, h.bound, h.few, ?_⟩
    · have hcounts := h.counts e
      simp only [next, RunningLockCallbackManager.register]
      split <;> exact hcounts
    · simp only [next, RunningLockCallbackManager.register]
      split
      · exact h.keys
      · rename_i hnew
        -- the display is new for this callback
        rw [List.map_append, List.nodup_append]
        refine ⟨h.keys, List.nodup_singleton _, fun key hmem key' hmem' heq => hnew ?_⟩
        obtain ⟨entry, hentry, hkey⟩ := List.mem_map.mp hmem
        rw [List.map_singleton, List.mem_singleton] at hmem'
        rw [heq, hmem', Prod.mk.injEq] at hkey
        rw [RunningLockCallbackManager.isRegistered, List.any_eq_true]
        exact ⟨entry, hentry, by simp [hkey.1, hkey.2]⟩
  | unRegister callback displayId =>
    exact ⟨h.counts, h.bound, h.few, h.keys.sublist (List.eraseP_sublist.map _)⟩
  | removeAll callback => exact ⟨h.counts, h.bound, h.few, h.keys.sublist (List.filter_sublist.map _)⟩
  | handleScreenLockNotify active displayId => exact inv_handle h hok

theorem inv_of_reach (h : system.Reach Proper s) : Inv s := by
  refine h.invariant (fun s hinit => ?_) fun s s' event hinv hok hnext => ?_
  · cases hinit
    refine ⟨fun e => ?_, fun e => ?_, by decide, List.nodup_nil⟩
    · simp [RunningLockCallbackManager.countAt]
    · rw [State.effective]
      split <;> exact Nat.zero_le _
  · cases hnext
    exact inv_next hinv hok

/-! ## What is emitted -/

def announced (active : Bool) : RunningLockChangeState :=
  if active then .locked else .unlocked

/-- The effective number of a display changes between zero and positive. -/
def State.crosses (s s' : State) (e : Nat) : Bool :=
  decide (0 < s.effective e) != decide (0 < s'.effective e)

theorem collectNotifications_eq (h : Inv s') (active : Bool) (e : Nat) :
    s'.manager.collectNotifications active e =
      if s'.effective e = (if active then 1 else 0) then [(announced active, e)] else [] := by
  have hcount := h.getScreenLockCountInternal_toNat e
  have heq : ∀ n : UInt32, s'.manager.getScreenLockCountInternal e = n ↔ s'.effective e = n.toNat := by
    intro n
    rw [← hcount, UInt32.toNat_inj]
  cases active with
  | true =>
    have hbefore : s'.manager.getScreenLockCountInternal e = 1 →
        s'.manager.getScreenLockCountInternal e + 0 - 1 = 0 := by
      intro hone
      rw [hone]
      rfl
    simp only [RunningLockCallbackManager.collectNotifications, if_true, true_and, not_true, false_and, if_false]
    by_cases hone : s'.effective e = 1
    · have hafter := (heq 1).mpr hone
      rw [if_pos ⟨hbefore hafter, hafter⟩, if_pos hone]
      rfl
    · rw [if_neg fun hboth => hone ((heq 1).mp hboth.2), if_neg hone]
  | false =>
    have hbefore : s'.manager.getScreenLockCountInternal e = 0 →
        s'.manager.getScreenLockCountInternal e + 1 - 0 = 1 := by
      intro hzero
      rw [hzero]
      rfl
    simp only [RunningLockCallbackManager.collectNotifications, Bool.false_eq_true, if_false, false_and,
      not_false_eq_true, true_and]
    by_cases hzero : s'.effective e = 0
    · have hafter := (heq 0).mpr hzero
      rw [if_pos ⟨hbefore hafter, hafter⟩, if_pos hzero]
      rfl
    · rw [if_neg fun hboth => hzero ((heq 0).mp hboth.2), if_neg hzero]

/-- A display that a step concerns crosses zero if it ends at the number next to zero. -/
theorem crosses_eq (hok : Proper s (.handleScreenLockNotify active displayId))
    (hlocked : e = displayId ∨ displayId = displayIdAll) :
    s.crosses (next s (.handleScreenLockNotify active displayId)) e =
      decide ((next s (.handleScreenLockNotify active displayId)).effective e = if active then 1 else 0) := by
  cases active with
  | true =>
    rw [State.crosses, effective_activate s hlocked]
    cases s.effective e <;> simp
  | false =>
    rw [State.crosses, effective_deactivate hok hlocked]
    cases (next s (.handleScreenLockNotify false displayId)).effective e <;> simp

/-- Only displays that a step concerns, or that nobody has registered for, cross zero. -/
theorem locked_of_crosses (hcrosses : s.crosses (next s (.handleScreenLockNotify active displayId)) e = true) :
    e = displayId ∨ displayId = displayIdAll := by
  by_contra hneither
  obtain ⟨hne, hall⟩ := not_or.mp hneither
  rw [State.crosses, effective_other s active hne hall, bne_self_eq_false] at hcrosses
  cases hcrosses

theorem flatMap_ite {α β : Type} (p : α → Bool) (f : α → β) (l : List α) :
    (l.flatMap fun a => if p a then [f a] else []) = (l.filter p).map f := by
  induction l with
  | nil => rfl
  | cons a l ih =>
    rw [List.flatMap_cons, ih, List.filter_cons]
    cases p a <;> rfl

theorem notifications_eq (h : Inv s) (hok : Proper s (.handleScreenLockNotify active displayId)) :
    (s.manager.handleScreenLockNotify active displayId).2 =
      ((s.manager.concerned displayId).filter
        (s.crosses (next s (.handleScreenLockNotify active displayId)))).map fun e => (announced active, e) := by
  have hinv := inv_handle h hok
  rw [← flatMap_ite]
  refine List.flatMap_congr fun e hmem => ?_
  have hlocked : e = displayId ∨ displayId = displayIdAll :=
    (RunningLockCallbackManager.mem_concerned.mp hmem).imp_right And.left
  rw [crosses_eq hok hlocked]
  simp only [decide_eq_true_eq]
  exact collectNotifications_eq hinv active e

/-! ## What a callback gets -/

def State.received (s : State) (callback : Callback) (e : Nat) : List RunningLockChangeState :=
  s.delivered.filterMap fun call => if (call.1, call.2.2) = (callback, e) then some call.2.1 else none

def State.status (s : State) (e : Nat) : RunningLockChangeState :=
  if 0 < s.effective e then .locked else .unlocked

theorem filterMap_key {α κ β : Type} [DecidableEq κ] (key : α → κ) (k : κ) (b : β) (l : List α)
    (hnodup : (l.map key).Nodup) :
    (l.filterMap fun a => if key a = k then some b else none) = if k ∈ l.map key then [b] else [] := by
  induction l with
  | nil => rfl
  | cons a l ih =>
    rw [List.map_cons, List.nodup_cons] at hnodup
    have hrest := ih hnodup.2
    by_cases hkey : key a = k
    · rw [hkey] at hnodup
      rw [if_neg hnodup.1] at hrest
      simp [hkey, hrest]
    · simp [hkey, hrest, Ne.symm hkey]

/-- A registered callback is called once for each notification about its display. -/
theorem filterMap_notify (h : Inv s) (hregistered : s.manager.isRegistered callback e = true)
    (notification : RunningLockChangeState × Nat) :
    ((s.manager.notifyScreenRunningLockChanged notification).filterMap fun call =>
      if (call.1, call.2.2) = (callback, e) then some call.2.1 else none) =
      if notification.2 = e then [notification.1] else [] := by
  rw [RunningLockCallbackManager.notifyScreenRunningLockChanged, List.filterMap_filterMap]
  by_cases hdisplay : notification.2 = e
  · have hmem : (callback, e) ∈ s.manager.callbacks.map fun entry => (entry.callback, entry.displayId) := by
      rw [RunningLockCallbackManager.isRegistered, List.any_eq_true] at hregistered
      obtain ⟨entry, hentry, hkey⟩ := hregistered
      rw [Bool.and_eq_true, decide_eq_true_eq, decide_eq_true_eq] at hkey
      exact List.mem_map.mpr ⟨entry, hentry, by rw [hkey.1, hkey.2]⟩
    have honce := filterMap_key (fun entry : CallbackEntry => (entry.callback, entry.displayId)) (callback, e)
      notification.1 s.manager.callbacks h.keys
    rw [if_pos hmem] at honce
    rw [if_pos hdisplay, ← honce]
    refine List.filterMap_congr fun entry _ => ?_
    by_cases hentry : entry.displayId = notification.2
    · simp [hentry, hdisplay]
    · simp [hentry, ← hdisplay]
  · rw [if_neg hdisplay, List.filterMap_eq_nil_iff]
    intro entry _
    by_cases hentry : entry.displayId = notification.2
    · simp [hentry, hdisplay]
    · simp [hentry]

/-- A step tells a registered callback about its display if that crosses zero, and nothing else. -/
theorem received_handle (h : Inv s) (hok : Proper s (.handleScreenLockNotify active displayId))
    (hregistered : s.manager.isRegistered callback e = true) :
    (next s (.handleScreenLockNotify active displayId)).received callback e =
      s.received callback e ++
        if s.crosses (next s (.handleScreenLockNotify active displayId)) e then [announced active] else [] := by
  have hinv := inv_handle h hok
  have hkept : (next s (.handleScreenLockNotify active displayId)).manager.isRegistered callback e = true := by
    have hcallbacks := updateScreenLockCount_callbacks s.manager active displayId
    rw [RunningLockCallbackManager.isRegistered] at hregistered ⊢
    rwa [show (next s (.handleScreenLockNotify active displayId)).manager.callbacks = _ from hcallbacks]
  have hdelivered : (next s (.handleScreenLockNotify active displayId)).delivered =
      s.delivered ++ (s.manager.handleScreenLockNotify active displayId).2.flatMap
        (next s (.handleScreenLockNotify active displayId)).manager.notifyScreenRunningLockChanged := rfl
  rw [State.received, hdelivered, List.filterMap_append, List.filterMap_flatMap, notifications_eq h hok]
  congr 1
  have hcalls := fun notification => filterMap_notify hinv hkept notification
  simp only [hcalls, List.flatMap_map]
  -- the displays are distinct, so the callback's own comes up at most once
  have hnodup : (((s.manager.concerned displayId).filter
      (s.crosses (next s (.handleScreenLockNotify active displayId)))).map id).Nodup := by
    rw [List.map_id]
    exact RunningLockCallbackManager.concerned_nodup.filter _
  have honce := filterMap_key id e (announced active) _ hnodup
  rw [List.map_id, List.filterMap_eq_flatMap_toList] at honce
  have hflat : ∀ a : Nat, (if id a = e then some (announced active) else none).toList =
      if a = e then [announced active] else [] := by
    intro a
    by_cases hsame : a = e
    · simp [hsame]
    · simp [hsame]
  simp only [hflat] at honce
  rw [honce]
  congr 1
  rw [List.mem_filter, RunningLockCallbackManager.mem_concerned, eq_iff_iff]
  refine ⟨And.right, fun hcrosses => ⟨?_, hcrosses⟩⟩
  -- the display is looked at, because the callback is registered for it
  refine (locked_of_crosses hcrosses).imp_right fun hall => ⟨hall, ?_⟩
  rw [RunningLockCallbackManager.isRegistered, List.any_eq_true] at hregistered
  obtain ⟨entry, hentry, hkey⟩ := hregistered
  rw [Bool.and_eq_true, decide_eq_true_eq, decide_eq_true_eq] at hkey
  exact ⟨entry, hentry, hkey.2⟩

/-- Crossing zero is a change of the status, and the step announces the new one. -/
theorem announced_of_crosses (hok : Proper s (.handleScreenLockNotify active displayId))
    (hcrosses : s.crosses (next s (.handleScreenLockNotify active displayId)) e = true) :
    announced active = (next s (.handleScreenLockNotify active displayId)).status e ∧
      s.status e ≠ (next s (.handleScreenLockNotify active displayId)).status e := by
  have hlocked := locked_of_crosses hcrosses
  cases active with
  | true =>
    have hafter := effective_activate s hlocked
    rw [crosses_eq hok hlocked, decide_eq_true_eq, if_pos rfl] at hcrosses
    have hbefore : s.effective e = 0 := by omega
    simp [State.status, announced, hcrosses, hbefore]
  | false =>
    have hafter := effective_deactivate hok hlocked
    rw [crosses_eq hok hlocked, decide_eq_true_eq, if_neg Bool.false_ne_true] at hcrosses
    have hbefore : s.effective e = 1 := by omega
    simp [State.status, announced, hcrosses, hbefore]

theorem status_of_not_crosses (hcrosses : s.crosses s' e = false) : s'.status e = s.status e := by
  rw [State.crosses, bne_eq_false_iff_eq, decide_eq_decide] at hcrosses
  simp only [State.status, hcrosses]

def Event.Keeps (event : Event) (callback : Callback) (displayId : Nat) : Prop :=
  event ≠ .unRegister callback displayId ∧ event ≠ .removeAll callback

theorem isRegistered_next {event : Event} (hkeeps : event.Keeps callback e)
    (hregistered : s.manager.isRegistered callback e = true) :
    (next s event).manager.isRegistered callback e = true := by
  simp only [RunningLockCallbackManager.isRegistered, List.any_eq_true, Bool.and_eq_true,
    decide_eq_true_eq] at hregistered ⊢
  obtain ⟨entry, hentry, hcallback, hdisplay⟩ := hregistered
  cases event with
  | register other pid uid displayId =>
    refine ⟨entry, ?_, hcallback, hdisplay⟩
    simp only [next, RunningLockCallbackManager.register]
    split
    · exact hentry
    · exact List.mem_append_left _ hentry
  | unRegister other displayId =>
    refine ⟨entry, (List.mem_eraseP_of_neg ?_).mpr hentry, hcallback, hdisplay⟩
    rw [Bool.and_eq_true, decide_eq_true_eq, decide_eq_true_eq, hcallback, hdisplay]
    rintro ⟨rfl, rfl⟩
    exact hkeeps.1 rfl
  | removeAll other =>
    refine ⟨entry, List.mem_filter.mpr ⟨hentry, ?_⟩, hcallback, hdisplay⟩
    rw [decide_eq_true_eq, hcallback]
    rintro rfl
    exact hkeeps.2 rfl
  | handleScreenLockNotify active displayId =>
    exact ⟨entry, (updateScreenLockCount_callbacks ..).symm ▸ hentry, hcallback, hdisplay⟩

/-- What a callback has been told since it could tell the display's status itself. -/
structure Told (callback : Callback) (e : Nat) (initially : RunningLockChangeState) (s : State) : Prop where
  inv : Inv s
  registered : s.manager.isRegistered callback e = true
  alternates : (s.received callback e).IsChain (· ≠ ·)
  current : (s.received callback e).getLast?.getD initially = s.status e

theorem told_next {event : Event} {initially : RunningLockChangeState} (h : Told callback e initially s)
    (hok : Proper s event) (hkeeps : event.Keeps callback e) : Told callback e initially (next s event) := by
  have hinv := inv_next h.inv hok
  have hregistered := isRegistered_next hkeeps h.registered
  cases event with
  | register | unRegister | removeAll => exact ⟨hinv, hregistered, h.alternates, h.current⟩
  | handleScreenLockNotify active displayId =>
    have hreceived := received_handle h.inv hok h.registered
    cases hcrosses : s.crosses (next s (.handleScreenLockNotify active displayId)) e with
    | false =>
      rw [hcrosses, if_neg Bool.false_ne_true, List.append_nil] at hreceived
      refine ⟨hinv, hregistered, hreceived ▸ h.alternates, ?_⟩
      rw [hreceived, h.current, status_of_not_crosses hcrosses]
    | true =>
      obtain ⟨hannounced, hchanged⟩ := announced_of_crosses hok hcrosses
      rw [hcrosses, if_pos rfl, hannounced] at hreceived
      refine ⟨hinv, hregistered, ?_, ?_⟩
      · rw [hreceived, List.isChain_append]
        refine ⟨h.alternates, List.isChain_singleton _, fun last hlast told htold => ?_⟩
        -- the last notification was the status before the step
        have hcurrent := h.current
        rw [Option.mem_def.mp hlast] at hcurrent
        cases htold
        rw [← show s.status e = last from hcurrent.symm]
        exact hchanged
      · rw [hreceived, List.getLast?_concat]
        rfl

structure Exact (s s' : State) (active : Bool) (displayId : Nat)
    (notifications : List (RunningLockChangeState × Nat)) : Prop where
  once : notifications.Nodup
  crossings : ∀ state e, (state, e) ∈ notifications ↔ state = announced active ∧
    (e = displayId ∨ displayId = displayIdAll ∧ ∃ entry ∈ s.manager.callbacks, entry.displayId = e) ∧
      ¬(0 < s.effective e ↔ 0 < s'.effective e)

theorem exact_handle (h : Inv s) (hok : Proper s (.handleScreenLockNotify active displayId)) :
    Exact s (next s (.handleScreenLockNotify active displayId)) active displayId
      (s.manager.handleScreenLockNotify active displayId).2 := by
  rw [notifications_eq h hok]
  refine ⟨?_, fun state e => ?_⟩
  · refine (RunningLockCallbackManager.concerned_nodup.filter _).map fun e e' heq => ?_
    exact (Prod.mk.inj heq).2
  · simp only [List.mem_map, List.mem_filter, RunningLockCallbackManager.mem_concerned, State.crosses,
      bne_iff_ne, ne_eq, decide_eq_decide, Prod.mk.injEq]
    constructor
    · rintro ⟨e', ⟨hconcerned, hcrosses⟩, rfl, rfl⟩
      exact ⟨rfl, hconcerned, hcrosses⟩
    · rintro ⟨rfl, hconcerned, hcrosses⟩
      exact ⟨e, ⟨hconcerned, hcrosses⟩, rfl, rfl⟩

end PowerMgr.RunningLock.ScreenNotify
