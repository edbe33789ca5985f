import PowerMgr.Lib.System
import PowerMgr.Lib.TreeMap

/-! # Clients told before the screen turns off

Embedding of `ScreenOffPreController` (`screen_off_pre_controller.cpp`) as the registrations of
clients and `ResetInactiveTimer` of the state machine drive it.  Before the screen would turn off,
by `remainTime_`, a task calls the registered clients; each refresh submits a new task.

* `Controller` — the clients, the flag `isRegistered_` and the queue of the task;
* `Booked` — the flag says whether there are clients, and after a schedule the one task that is
  pending, if any, is the one of that schedule;
* `booked_in_careful_runs` — the runs in which this holds.

The death recipient is attached to the clients of the set, so only their deaths are notified.  A
callback is known by its remote object, as the set holds objects.
-/

namespace PowerMgr.Clients.ScreenOffPre

open Std (TreeSet)

def screenOffPreState : Nat := 1

def offTimeoutFactor : Int := 5

def maxDimTimeMs : Int := 7500

def defaultActiveTimeMs : Int := 600000

abbrev Callback := Nat

/-- A pending task: its handle and the time it fires at. -/
structure Task where
  handle : Nat
  fireAt : Int
  deriving DecidableEq, Repr

/-- `PowerStateMachine::GetDimTime`; `maxActiveTime` is `none` without
`POWER_MANAGER_ENABLE_LONG_TIME_DIM`. -/
def getDimTime (maxActiveTime : Option Int) (displayOffTime : Int) : Int :=
  let dimTime := max 0 (min (displayOffTime.tdiv offTimeoutFactor) maxDimTimeMs)
  match maxActiveTime with
  | none => dimTime
  | some active =>
    if 0 < displayOffTime ∧ defaultActiveTimeMs ≤ active ∧ active < displayOffTime then
      max 0 (min (displayOffTime - active) displayOffTime)
    else dimTime

/-! ## The controller -/

structure Controller where
  remainTime : Int := 0
  isRegistered : Bool := false
  callbackSet : TreeSet Callback := ∅
  eyeDetectTimeOutHandle : Option Nat := none
  -- the tasks of `queue_`, and how many were submitted so far
  tasks : List Task := []
  submitted : Nat := 0

namespace Controller

/-- `CallbackMgr::AddCallback`; the callback is `none` when it is null or has no object. -/
def addCallback (c : Controller) (callback : Option Callback) : Controller :=
  match callback with
  | none => c
  | some callback => { c with callbackSet := c.callbackSet.insert callback }

/-- `CallbackMgr::RemoveCallback`. -/
def removeCallback (c : Controller) (callback : Option Callback) : Controller :=
  match callback with
  | none => c
  | some callback => { c with callbackSet := c.callbackSet.erase callback }

/-- A task that has not started is taken out of the queue. -/
def cancelEyeDetectTimeout (c : Controller) : Controller :=
  { c with tasks := c.tasks.filter fun task => c.eyeDetectTimeOutHandle ≠ some task.handle }

/-- `SubmitDelayTask` takes the delay as a `uint32_t`. -/
def handleEyeDetectTimeout (c : Controller) (delayTime tick : Int) : Controller :=
  { c with
    eyeDetectTimeOutHandle := some c.submitted
    tasks := c.tasks ++ [{ handle := c.submitted, fireAt := tick + delayTime % 2 ^ 32 }]
    submitted := c.submitted + 1 }

/-- The task is submitted at the time `tick`. -/
def schedulEyeDetectTimeout (c : Controller) (nextTimeOut now tick : Int) : Controller :=
  if c.remainTime ≤ 0 then c
  else
    let nextEyeDetectTime := nextTimeOut - c.remainTime - now
    -- `NeedEyeDetectLocked`
    if nextEyeDetectTime < 0 then c
    else c.cancelEyeDetectTimeout.handleEyeDetectTimeout nextEyeDetectTime tick

/-- `AddScreenStateCallback` up to its schedule. -/
def addScreenStateCallback (c : Controller) (remainTime : Int) (callback : Option Callback) : Controller :=
  { { c with remainTime := remainTime }.addCallback callback with isRegistered := true }

def delScreenStateCallback (c : Controller) (callback : Option Callback) : Controller :=
  { c.removeCallback callback with isRegistered := false }

/-- `CallbackMgr::OnRemoteDied`. -/
def onRemoteDied (c : Controller) (callback : Callback) : Controller :=
  c.removeCallback (some callback)

/-- `CallbackMgr::Notify`: the clients called, each with the state. -/
def notify (c : Controller) : List (Callback × Nat) :=
  c.callbackSet.toList.map fun callback => (callback, screenOffPreState)

end Controller

/-! ## Runs -/

/-- `scheduled` holds the arguments of the last step when it scheduled a timeout with a
`remainTime_` above 0. -/
structure State where
  controller : Controller := {}
  now : Int := 0
  scheduled : Option (Int × Int) := none
  log : List (Callback × Nat) := []

inductive Event where
  -- with what the state machine and the settings answer: `GetDisplayOffTime`,
  -- `GetSettingDisplayOffTime` and `GetLastOnTime`
  | add (remainTime : Int) (callback : Option Callback) (systemTime settingTime lastOnTime : Int)
  | del (callback : Option Callback)
  | die (callback : Callback)
  | resetInactiveTimer (displayOffTime : Int)
  | tick (ms : Nat)
  | fire (task : Task)
  deriving DecidableEq, Repr

def State.schedule (s : State) (c : Controller) (nextTimeOut : Int) : State :=
  { s with
    controller := c.schedulEyeDetectTimeout nextTimeOut s.now s.now
    scheduled := if 0 < c.remainTime then some (nextTimeOut, s.now) else none }

/-- `nextTimeOut` of `AddScreenStateCallback`. -/
def addTimeOut (active : Option Int) (systemTime settingTime lastOnTime : Int) : Int :=
  lastOnTime + settingTime - getDimTime active systemTime

/-- `nextTimeOut` of `ResetScreenOffPreTimeForSwing`. -/
def resetTimeOut (active : Option Int) (now displayOffTime : Int) : Int :=
  now + displayOffTime - getDimTime active displayOffTime

def next (active : Option Int) (s : State) : Event → Option State
  | .add remainTime callback systemTime settingTime lastOnTime =>
    some (s.schedule (s.controller.addScreenStateCallback remainTime callback)
      (addTimeOut active systemTime settingTime lastOnTime))
  | .del callback =>
    some { s with controller := s.controller.delScreenStateCallback callback, scheduled := none }
  | .die callback =>
    if callback ∈ s.controller.callbackSet then
      some { s with controller := s.controller.onRemoteDied callback, scheduled := none }
    else none
  | .resetInactiveTimer displayOffTime =>
    if 0 ≤ displayOffTime ∧ s.controller.isRegistered then
      some (s.schedule s.controller (resetTimeOut active s.now displayOffTime))
    else some { s with scheduled := none }
  | .tick ms => some { s with now := s.now + ms, scheduled := none }
  | .fire task =>
    if task ∈ s.controller.tasks ∧ task.fireAt ≤ s.now then
      some { s with
        controller := { s.controller with tasks := s.controller.tasks.erase task }
        scheduled := none
        log := s.log ++ s.controller.notify }
    else none

/-- `active` is the `maxActiveTime` of `getDimTime`. -/
def system (active : Option Int) : Lib.System State Event where
  init s := s = {}
  next := next active

/-- `isRegistered_` says whether the set has clients, and a schedule leaves one task, for the time
it asked for, or none when that time is over. -/
structure Booked (s : State) : Prop where
  flag : s.controller.isRegistered = true ↔ ∃ callback, callback ∈ s.controller.callbackSet
  tasks : ∀ nextTimeOut now, s.scheduled = some (nextTimeOut, now) →
    s.controller.tasks.map Task.fireAt =
      if now ≤ nextTimeOut - s.controller.remainTime then [nextTimeOut - s.controller.remainTime] else []

/-- A schedule with these arguments asks for a delay that a `uint32_t` holds, or, when the time is
over already, finds no task of an earlier one. -/
def InTime (s : State) (remainTime nextTimeOut : Int) : Prop :=
  0 < remainTime → nextTimeOut - remainTime - s.now < 2 ^ 32 ∧
    (nextTimeOut - remainTime < s.now → s.controller.tasks = [])

/-- A client that leaves by itself is the last one, and one that dies is not; a null callback is
added beside others only; and schedules are in time. -/
def Careful (active : Option Int) (s : State) : Event → Prop
  | .add remainTime callback systemTime settingTime lastOnTime =>
    (callback = none → ∃ other, other ∈ s.controller.callbackSet) ∧
      InTime s remainTime (addTimeOut active systemTime settingTime lastOnTime)
  | .del callback => ∀ other ∈ s.controller.callbackSet, callback = some other
  | .die callback => ∃ other ∈ s.controller.callbackSet, other ≠ callback
  | .resetInactiveTimer displayOffTime =>
    0 ≤ displayOffTime → s.controller.isRegistered = true →
      InTime s s.controller.remainTime (resetTimeOut active s.now displayOffTime)
  | .tick _ | .fire _ => True

/-! ## A schedule -/

/-- The queue holds at most the task whose handle is kept. -/
def Controller.OneTask (c : Controller) : Prop :=
  ∀ task ∈ c.tasks, c.tasks = [task] ∧ c.eyeDetectTimeOutHandle = some task.handle

theorem Controller.OneTask.cancel {c : Controller} (h : c.OneTask) : c.cancelEyeDetectTimeout.tasks = [] := by
  refine List.filter_eq_nil_iff.mpr fun task hmem => ?_
  simp [(h task hmem).2]

theorem schedulEyeDetectTimeout_eq (c : Controller) (nextTimeOut now tick : Int) :
    c.schedulEyeDetectTimeout nextTimeOut now tick =
      if c.remainTime ≤ 0 ∨ nextTimeOut - c.remainTime < now then c
      else c.cancelEyeDetectTimeout.handleEyeDetectTimeout (nextTimeOut - c.remainTime - now) tick := by
  simp only [Controller.schedulEyeDetectTimeout]
  by_cases hremain : c.remainTime ≤ 0 <;> simp [hremain]

theorem Controller.OneTask.schedul {c : Controller} (h : c.OneTask) (nextTimeOut now tick : Int) :
    (c.schedulEyeDetectTimeout nextTimeOut now tick).OneTask := by
  rw [schedulEyeDetectTimeout_eq]
  split_ifs
  · exact h
  · intro task hmem
    simp only [Controller.handleEyeDetectTimeout, h.cancel, List.nil_append, List.mem_singleton] at hmem ⊢
    simp [hmem]

/-- A schedule replaces the task there is, unless its time is over. -/
theorem schedul_tasks {c : Controller} (h : c.OneTask) (hremain : 0 < c.remainTime) (nextTimeOut now tick : Int) :
    (c.schedulEyeDetectTimeout nextTimeOut now tick).tasks.map Task.fireAt =
      if now ≤ nextTimeOut - c.remainTime then [tick + (nextTimeOut - c.remainTime - now) % 2 ^ 32]
      else c.tasks.map Task.fireAt := by
  rw [schedulEyeDetectTimeout_eq]
  by_cases hover : nextTimeOut - c.remainTime < now
  · rw [if_pos (.inr hover), if_neg (by omega)]
  · rw [if_neg (by omega), if_pos (by omega)]
    simp [Controller.handleEyeDetectTimeout, h.cancel]

@[simp] theorem schedul_callbackSet (c : Controller) (nextTimeOut now tick : Int) :
    (c.schedulEyeDetectTimeout nextTimeOut now tick).callbackSet = c.callbackSet := by
  rw [schedulEyeDetectTimeout_eq]
  split_ifs <;> rfl

@[simp] theorem schedul_isRegistered (c : Controller) (nextTimeOut now tick : Int) :
    (c.schedulEyeDetectTimeout nextTimeOut now tick).isRegistered = c.isRegistered := by
  rw [schedulEyeDetectTimeout_eq]
  split_ifs <;> rfl

@[simp] theorem schedul_remainTime (c : Controller) (nextTimeOut now tick : Int) :
    (c.schedulEyeDetectTimeout nextTimeOut now tick).remainTime = c.remainTime := by
  rw [schedulEyeDetectTimeout_eq]
  split_ifs <;> rfl

theorem tasks_addScreenStateCallback (c : Controller) (remainTime : Int) (callback : Option Callback) :
    (c.addScreenStateCallback remainTime callback).tasks = c.tasks := by
  cases callback <;> rfl

theorem remainTime_addScreenStateCallback (c : Controller) (remainTime : Int) (callback : Option Callback) :
    (c.addScreenStateCallback remainTime callback).remainTime = remainTime := by
  cases callback <;> rfl

theorem mem_addScreenStateCallback (c : Controller) (remainTime : Int) (callback : Option Callback)
    (other : Callback) :
    other ∈ (c.addScreenStateCallback remainTime callback).callbackSet ↔
      callback = some other ∨ other ∈ c.callbackSet := by
  cases callback <;> simp [Controller.addScreenStateCallback, Controller.addCallback]

theorem mem_removeCallback (c : Controller) (callback : Option Callback) (other : Callback) :
    other ∈ (c.removeCallback callback).callbackSet ↔ callback ≠ some other ∧ other ∈ c.callbackSet := by
  cases callback <;> simp [Controller.removeCallback]

/-! ## Every run -/

structure Inv (s : State) : Prop extends Booked s where
  oneTask : s.controller.OneTask

variable {active : Option Int} {s s' : State}

/-- The step that schedules: what it needs of the queue and of the flag before it. -/
theorem inv_schedule {c : Controller} (hone : c.OneTask)
    (hflag : c.isRegistered = true ↔ ∃ callback, callback ∈ c.callbackSet) (htasks : c.tasks = s.controller.tasks)
    {nextTimeOut : Int} (hintime : InTime s c.remainTime nextTimeOut) : Inv (s.schedule c nextTimeOut) where
  flag := by simpa [State.schedule] using hflag
  tasks := by
    intro nextTimeOut' now hscheduled
    simp only [State.schedule, schedul_remainTime] at hscheduled ⊢
    split at hscheduled
    next hremain =>
      cases hscheduled
      obtain ⟨hfits, hempty⟩ := hintime hremain
      rw [schedul_tasks hone hremain]
      split_ifs with hpast
      · rw [Int.emod_eq_of_lt (by omega) hfits]
        simp
      · rw [htasks, hempty (by omega), List.map_nil]
    next => cases hscheduled
  oneTask := hone.schedul nextTimeOut s.now s.now

theorem inv_init : Inv {} where
  flag := by simp
  tasks := by simp
  oneTask := by simp [Controller.OneTask]

/-- A step that schedules nothing and leaves the queue as it is. -/
theorem Inv.of_unscheduled (h : Inv s) (hscheduled : s'.scheduled = none)
    (hflag : s'.controller.isRegistered = true ↔ ∃ callback, callback ∈ s'.controller.callbackSet)
    (htasks : s'.controller.tasks = s.controller.tasks)
    (hhandle : s'.controller.eyeDetectTimeOutHandle = s.controller.eyeDetectTimeOutHandle) : Inv s' where
  flag := hflag
  tasks := by simp [hscheduled]
  oneTask := by
    rw [Controller.OneTask, htasks, hhandle]
    exact h.oneTask

theorem inv_step {e : Event} (h : Inv s) (hcareful : Careful active s e) (hnext : next active s e = some s') :
    Inv s' := by
  cases e with
  | add remainTime callback systemTime settingTime lastOnTime =>
    cases hnext
    obtain ⟨hnull, hintime⟩ := hcareful
    refine inv_schedule ?_ ?_ (tasks_addScreenStateCallback ..) ?_
    · intro task hmem
      rw [tasks_addScreenStateCallback] at hmem ⊢
      cases callback <;> exact h.oneTask task hmem
    · -- the flag is set, and there is the new client or another one
      simp only [mem_addScreenStateCallback]
      refine iff_of_true (by cases callback <;> rfl) ?_
      cases callback with
      | none =>
        obtain ⟨other, hother⟩ := hnull rfl
        exact ⟨other, .inr hother⟩
      | some callback => exact ⟨callback, .inl rfl⟩
    · rwa [remainTime_addScreenStateCallback]
  | del callback =>
    cases hnext
    refine h.of_unscheduled rfl ?_ (by cases callback <;> rfl) (by cases callback <;> rfl)
    refine iff_of_false (by simp [Controller.delScreenStateCallback]) ?_
    rintro ⟨other, hother⟩
    obtain ⟨hne, hmem⟩ := (mem_removeCallback ..).mp hother
    exact hne (hcareful other hmem)
  | die callback =>
    simp only [next] at hnext
    split at hnext
    next hmem =>
      cases hnext
      refine h.of_unscheduled rfl ?_ rfl rfl
      obtain ⟨other, hother, hne⟩ := hcareful
      -- the client that remains keeps the flag right
      refine iff_of_true (h.flag.mpr ⟨callback, hmem⟩) ⟨other, ?_⟩
      exact (mem_removeCallback ..).mpr ⟨fun heq => hne (Option.some.inj heq).symm, hother⟩
    next => cases hnext
  | resetInactiveTimer displayOffTime =>
    simp only [next] at hnext
    split at hnext
    next hguard =>
      cases hnext
      exact inv_schedule h.oneTask h.flag rfl (hcareful hguard.1 hguard.2)
    next =>
      cases hnext
      exact h.of_unscheduled rfl h.flag rfl rfl
  | tick ms =>
    cases hnext
    exact h.of_unscheduled rfl h.flag rfl rfl
  | fire task =>
    simp only [next] at hnext
    split at hnext
    next hguard =>
      cases hnext
      refine ⟨⟨h.flag, by simp⟩, ?_⟩
      simp [Controller.OneTask, (h.oneTask task hguard.1).1]
    next => cases hnext

/-- In every careful run the flag and the task are as they should be. -/
theorem booked_in_careful_runs (h : (system active).Reach (Careful active) s) : Booked s := by
  have hinv : Inv s := by
    refine h.invariant (I := Inv) ?_ ?_
    · intro s hs
      cases hs
      exact inv_init
    · intro s s' e hinv hcareful hnext
      exact inv_step hinv hcareful hnext
  exact hinv.toBooked

/-- Two clients, one of which dies; the refresh after it moves the task, which then fires. -/
theorem booked_in_careful_runs_two : ∃ s, Booked s ∧ s.scheduled = some (28000, 4000) ∧
    s.controller.tasks = [{ handle := 2, fireAt := 23000 }] := by
  have hnew : (system none).Reach (Careful none) {} := .init rfl
  have hfirst := hnew.step (Event.add 5000 (some 1) 30000 30000 0)
    ⟨fun hnull => absurd hnull (by decide), fun _ => by decide⟩ rfl
  have hsecond := hfirst.step (Event.add 5000 (some 2) 30000 30000 0)
    ⟨fun hnull => absurd hnull (by decide), fun _ => by decide⟩ rfl
  have hdead := hsecond.step (Event.die 1) ⟨2, by decide, by decide⟩ rfl
  have hlater := hdead.step (Event.tick 4000) trivial rfl
  have hreset := hlater.step (Event.resetInactiveTimer 30000) (fun _ _ _ => by decide) rfl
  exact ⟨_, booked_in_careful_runs hreset, rfl, rfl⟩

/-- One of two clients leaves: the flag is cleared although a client remains.  The only client dies:
the flag stays set.  A refresh leaves no time for the callback: the task of the schedule before it
stays, for a time at which the screen will not be about to turn off. -/
theorem not_booked :
    (∃ s, (system none).Reachable s ∧ s.controller.isRegistered = false ∧ 2 ∈ s.controller.callbackSet ∧
      ¬Booked s) ∧
    (∃ s, (system none).Reachable s ∧ s.controller.isRegistered = true ∧
      (∀ callback, callback ∉ s.controller.callbackSet) ∧ ¬Booked s) ∧
    ∃ s, (system none).Reachable s ∧ s.scheduled = some (12000, 4000) ∧ s.controller.remainTime = 9000 ∧
      s.controller.tasks = [{ handle := 0, fireAt := 15000 }] ∧ ¬Booked s := by
  have hnew : (system none).Reachable {} := .init rfl
  have hfirst := hnew.step (Event.add 9000 (some 1) 30000 30000 0) trivial rfl
  refine ⟨?_, ?_, ?_⟩
  · have hsecond := hfirst.step (Event.add 9000 (some 2) 30000 30000 0) trivial rfl
    have hgone := hsecond.step (Event.del (some 1)) trivial rfl
    refine ⟨_, hgone, rfl, by decide, fun hbooked => ?_⟩
    exact absurd (hbooked.flag.mpr ⟨2, by decide⟩) (by decide)
  · have hdead := hfirst.step (Event.die 1) trivial rfl
    obtain ⟨s, hreach, hflag, hnone⟩ : ∃ s, (system none).Reachable s ∧ s.controller.isRegistered = true ∧
        ∀ callback, callback ∉ s.controller.callbackSet := by
      refine ⟨_, hdead, rfl, fun callback hmem => ?_⟩
      obtain ⟨hne, hmem⟩ := (mem_removeCallback ..).mp hmem
      simp only [State.schedule, schedul_callbackSet, mem_addScreenStateCallback] at hmem
      exact hmem.elim hne (by simp)
    refine ⟨s, hreach, hflag, hnone, fun hbooked => ?_⟩
    obtain ⟨callback, hmem⟩ := hbooked.flag.mp hflag
    exact hnone callback hmem
  · have hlater := hfirst.step (Event.tick 4000) trivial rfl
    have hreset := hlater.step (Event.resetInactiveTimer 10000) trivial rfl
    refine ⟨_, hreset, rfl, rfl, rfl, fun hbooked => ?_⟩
    exact absurd (hbooked.tasks 12000 4000 rfl) (by decide)

end PowerMgr.Clients.ScreenOffPre
