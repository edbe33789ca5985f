import PowerMgr.StateMachine.DisplayAgree
import PowerMgr.Suspend.SleepTimer

/-! # Hibernating and taking it back

Embedding of `HibernateInner`, `PrepareHibernate`, `RollbackHibernate` and `RestoreHibernate`
(`power_state_machine.cpp`) over `HibernateController::PreHibernate` and `PostHibernate`
(`hibernate_controller.cpp`), with `SetSuspendTag` (`power_mgr_service.cpp`) and the sleep timer that a
rollback asks for.  Here an attempt runs from beginning to end with nothing in between, and its prepare
thread finishes in time.

* `Device` — what an attempt reads and writes; `Surroundings` — what it is told while it goes on.
* `hibernateInner` — one attempt.
* `Restored` — what is promised of an attempt that is rolled back.
* `rollback_restores_iff` — the attempts that keep the promise.
* `rollback_without_tag` — one that does not.

The HDI calls `Wakeup`, the events that are published, `persist` parameters and the memory hooks change
nothing that is read here.
-/

namespace PowerMgr.Hibernate

open StateMachine Suspend

/-- Build switches that an attempt depends on. -/
structure Config extends StateMachine.Config where
  -- `POWER_MANAGER_ENABLE_SUSPEND_WITH_TAG`
  suspendWithTag : Bool := false
  deriving DecidableEq, Repr

/-- A round of the callbacks of the `HibernateController`: `OnSyncHibernate`, or `OnSyncWakeup` with
the result. -/
inductive Round where
  | pre
  | post (hibernateResult : Bool)
  deriving DecidableEq, Repr

/-- `rounds` and `tags` are what the callbacks and the HDI have been given, the latest first. -/
structure Device where
  machine : Machine
  hibernating : Bool := false
  prepared : Bool := false
  rounds : List Round := []
  tags : List String := []
  sleepTimer : SleepTimer.State := {}

/-- What an attempt is told by the rest of the system: the answers to its requests, whether it is taken
over, whether the account is switched (`clearMemory` only), what the HDI says, and what the rollback
asks for. -/
structure Surroundings where
  takenOver : Bool := false
  accountSwitched : Bool := true
  inactive : Answers := {}
  hibernate : Answers := {}
  hdiHibernates : Bool := true
  awake : Answers := {}
  rollback : Answers := {}
  switchOpen : Bool := true
  -- the ULSR callbacks finish in time
  ulsrFinished : Bool := true
  -- `GetSleepTime`
  sleepTime : Int := 0

/-- What became of an attempt; `HibernateInner` returns false when it is busy. -/
inductive Outcome where
  | takenOver
  | busy
  | rolledBack
  | shutDown
  | hibernated
  deriving DecidableEq, Repr

/-! ## The callbacks and the requests -/

def preHibernate (d : Device) : Device :=
  { d with prepared := true, rounds := .pre :: d.rounds }

def postHibernate (hibernateResult : Bool) (d : Device) : Device :=
  if d.prepared then { d with prepared := false, rounds := .post hibernateResult :: d.rounds } else d

def request (cfg : Config) (answers : Answers) (state : PowerState) (reason : StateChangeReason) (d : Device) :
    Device × Bool :=
  let ret := setState cfg.toConfig answers state reason true d.machine
  ({ d with machine := ret.1 }, ret.2)

/-- `PowerMgrService::SetSuspendTag`, with the tags it hands to the HDI. -/
def setSuspendTag (cfg : Config) (ulsrFinished : Bool) (tag : String) (d : Device) : Device :=
  if cfg.suspendWithTag ∧ tag = "ulsr" then
    if d.machine.currentState ≠ .sleep then d
    else if !ulsrFinished then { d with tags := "" :: d.tags }
    else { d with tags := tag :: d.tags }
  else { d with tags := tag :: d.tags }

/-- `StartSleepTimer` for an automatic suspend without delay, with nobody in between: a step that is
not enabled is one that an earlier check has skipped. -/
def startSleepTimer (sleepTime : Int) (t : SleepTimer.State) : SleepTimer.State :=
  [.startSleepTimer 0 .autoSuspend 0 sleepTime, .check 0, .record 0, .setTimer 0].foldl
    (fun t (e : SleepTimer.Event) => (SleepTimer.next t e).getD t) t

/-- `SetAutoSleep` when the task that a rollback has armed runs. -/
def autoSleep (cfg : Config) (answers : Answers) (m : Machine) : Machine :=
  (setState cfg.toConfig answers .sleep .rollbackHibernate false m).1

/-! ## An attempt -/

def prepareHibernate (cfg : Config) (env : Surroundings) (clearMemory : Bool) (d : Device) : Device × Bool :=
  let d := (request cfg env.inactive .inactive .hibernate d).1
  if clearMemory && !env.accountSwitched then (d, false)
  else request cfg env.hibernate .hibernate .system (preHibernate d)

def rollbackHibernate (cfg : Config) (env : Surroundings) (originalState : PowerState) (needShutdown : Bool)
    (d : Device) : Device × Outcome :=
  let d := { d with hibernating := false }
  if needShutdown then (d, .shutDown)
  else
    let d := postHibernate false d
    let d := (request cfg env.rollback .inactive .rollbackHibernate d).1
    if originalState = .sleep then
      let d := if env.switchOpen then d else setSuspendTag cfg env.ulsrFinished "ulsr" d
      ({ d with sleepTimer := startSleepTimer env.sleepTime d.sleepTimer }, .rolledBack)
    else (d, .rolledBack)

def restoreHibernate (cfg : Config) (env : Surroundings) (d : Device) : Device :=
  let d := { d with hibernating := false }
  let d := (request cfg env.awake .awake .system d).1
  postHibernate true d

def hibernateInner (cfg : Config) (env : Surroundings) (clearMemory : Bool) (reason : String) (d : Device) :
    Device × Outcome :=
  if clearMemory && env.takenOver then (d, .takenOver)
  else if d.hibernating then (d, .busy)
  else
    let originalState := d.machine.currentState
    let needShutdown := clearMemory || reason = "LowCapacity"
    let (d, ret) := prepareHibernate cfg env clearMemory { d with hibernating := true }
    if !ret then rollbackHibernate cfg env originalState needShutdown d
    else if !env.hdiHibernates then rollbackHibernate cfg env originalState needShutdown d
    else (restoreHibernate cfg env d, .hibernated)

/-! ## What is promised -/

def rollbackTask (t : SleepTimer.State) : SleepTimer.Task where
  job := .handleAction .autoSuspend
  deadline := t.now

/-- `StartSleepTimer` goes on to set the timer: automatic sleep is enabled, and no sleep event comes
earlier. -/
def ArmsTimer (sleepTime : Int) (t : SleepTimer.State) : Prop :=
  t.requests 0 = .idle ∧ 0 ≤ sleepTime ∧ (t.now : Int) ≤ SleepTimer.int64Max ∧ SleepTimer.refuses t t.now = false

def Unblocked (answers : Answers) : Prop :=
  answers.taskAvailable = true ∧ answers.validRunningLockNum .coordination = 0

/-- The device `d'` is back to what `d` was before the attempt: it does not hibernate any more; if it
slept it does so again when the timer has fired, with its tag when the switch is closed; else it is
`INACTIVE`. -/
structure Restored (cfg : Config) (env : Surroundings) (d d' : Device) : Prop where
  hibernating : d'.hibernating = false
  slept : d.machine.currentState = .sleep → ArmsTimer env.sleepTime d.sleepTimer →
    d'.sleepTimer.queued = some (rollbackTask d.sleepTimer) ∧
      ∀ answers, Unblocked answers → (autoSleep cfg answers d'.machine).currentState = .sleep
  tagged : d.machine.currentState = .sleep → ArmsTimer env.sleepTime d.sleepTimer → env.switchOpen = false →
    env.ulsrFinished = true → d'.tags = "ulsr" :: d.tags
  inactive : d.machine.currentState ≠ .sleep → d'.machine.currentState = .inactive

/-- The action of `INACTIVE` is performed when it is asked for. -/
def Succeeds (cfg : Config) (answers : Answers) : Prop :=
  answers.taskAvailable = true ∧ answers.displayOk = true ∧ ¬(cfg.takeoverSuspend = true ∧ answers.takenOver = true)

/-! ## The requests of an attempt -/

section requests

variable {cfg : Config} {answers : Answers} {m : Machine}

theorem matchState_inactive_dark {current : PowerState} {display : DisplayState}
    (h : matchState .inactive current display = .inactive) : isOnState display = false := by
  cases current <;> cases display <;> simp_all [matchState, isOnState]

theorem actionInactive_success (hok : Succeeds cfg answers) {reason : StateChangeReason}
    (hreason : reason ≠ .preBrightAuthFailScreenOff) :
    (actionInactive cfg.toConfig answers reason m).2 = .success := by
  have hset : (setDisplayState answers.displayOk (inactiveDisplay answers reason) reason m).2 = true := by
    simp only [setDisplayState, hok.2.1, hreason, false_and, if_false, if_true]
    split <;> rfl
  simp only [actionInactive, if_neg hok.2.2, hset, if_true]

/-- A forced request for `INACTIVE` that is admitted ends in `INACTIVE`, with a dark screen. -/
theorem setState_inactive (hok : Succeeds cfg answers) {reason : StateChangeReason}
    (hreason : isPreBrightAuthReason reason = false ∧ reason ≠ .preBright)
    (hadmitted : matchState .inactive m.currentState m.display ≠ .inactive →
      canTransitTo cfg.toConfig answers (matchState .inactive m.currentState m.display) .inactive reason = true) :
    (setState cfg.toConfig answers .inactive reason true m).1.currentState = .inactive ∧
    isOnState (setState cfg.toConfig answers .inactive reason true m).1.display = false := by
  have hscreenOff : reason ≠ .preBrightAuthFailScreenOff := by
    rintro rfl
    exact Bool.noConfusion hreason.1
  simp only [setState, hok.1, Bool.not_true, Bool.false_eq_true, if_false, Bool.true_or, transitTo]
  by_cases hsame : matchState .inactive m.currentState m.display = .inactive
  -- already there: the correction tells that the screen is dark
  · simp [checkState, hsame, matchState_inactive_dark hsame]
  · have hcheck : checkState cfg.toConfig .inactive (matchState .inactive m.currentState m.display) = true := by
      simp [checkState, Ne.symm hsame]
    simp only [hcheck, Bool.not_true, Bool.false_eq_true, if_false, hadmitted hsame, Bool.true_eq_false, and_false,
      Bool.false_and, handlePreBrightState, hreason.1, hreason.2, action, if_true, ne_eq, reduceCtorEq,
      not_false_eq_true, actionInactive_success hok hscreenOff]
    exact ⟨trivial, (actionInactive_display _ _ _ _ hscreenOff).1 (actionInactive_success hok hscreenOff)⟩

/-- The first request of an attempt is admitted in every state. -/
theorem setState_inactive_hibernate (hok : Succeeds cfg answers) :
    (setState cfg.toConfig answers .inactive .hibernate true m).1.currentState = .inactive ∧
    isOnState (setState cfg.toConfig answers .inactive .hibernate true m).1.display = false := by
  refine setState_inactive hok ⟨rfl, StateChangeReason.noConfusion⟩ fun _ => ?_
  generalize matchState .inactive m.currentState m.display = current
  simp [canTransitTo, not_mem_forbidMap cfg.toConfig current (.inr rfl), wakeupSuppressed, allowMapByReason]

/-- The request of a rollback is admitted in `HIBERNATE`, and has nothing to do in `INACTIVE`. -/
theorem setState_inactive_rollback (hok : Succeeds cfg answers)
    (hcurrent : m.currentState = .hibernate ∨ m.currentState = .inactive ∧ isOnState m.display = false) :
    (setState cfg.toConfig answers .inactive .rollbackHibernate true m).1.currentState = .inactive := by
  refine (setState_inactive hok ⟨rfl, StateChangeReason.noConfusion⟩ fun hother => ?_).1
  obtain hhibernate | ⟨hinactive, hdark⟩ := hcurrent
  -- `MatchState` leaves `HIBERNATE` alone, and a dark screen does not contradict `INACTIVE`
  · rw [hhibernate]
    simp [matchState, canTransitTo, forbidMap, wakeupSuppressed, allowMapByReason]
  · refine absurd ?_ hother
    rw [hinactive]
    cases hdisplay : m.display <;> simp_all [matchState, isOnState]

theorem setState_hibernate (hcurrent : m.currentState = .inactive) (hdark : isOnState m.display = false) :
    (setState cfg.toConfig answers .hibernate .system true m).1.currentState = .hibernate ∨
    (setState cfg.toConfig answers .hibernate .system true m).1.currentState = .inactive ∧
      isOnState (setState cfg.toConfig answers .hibernate .system true m).1.display = false := by
  unfold setState
  split
  -- a request that is turned down at once is one more way for `PrepareHibernate` to fail
  · exact .inr ⟨hcurrent, hdark⟩
  · left
    simp [transitTo, matchState, checkState, hcurrent, canTransitTo, forbidMap, wakeupSuppressed, allowMapByReason,
      handlePreBrightState, isPreBrightAuthReason, action]

theorem autoSleep_inactive (hunblocked : Unblocked answers) (hcurrent : m.currentState = .inactive) :
    (autoSleep cfg answers m).currentState = .sleep := by
  have hlock : checkRunningLock answers .sleep = true := by
    simp [checkRunningLock, lockMap, hunblocked.2]
  simp [autoSleep, setState, hunblocked.1, transitTo, matchState_sleep, checkState, hcurrent, canTransitTo, forbidMap,
    wakeupSuppressed, allowMapByReason, hlock, handlePreBrightState, isPreBrightAuthReason, action]

end requests

/-! ## The sleep timer -/

theorem startSleepTimer_queued {sleepTime : Int} {t : SleepTimer.State} (harms : ArmsTimer sleepTime t) :
    (startSleepTimer sleepTime t).queued = some (rollbackTask t) := by
  obtain ⟨hidle, hsetting, hmax, haccepted⟩ := harms
  have hnotNegative : ¬sleepTime < 0 := by omega
  have hnotOver : ¬SleepTimer.int64Max < (t.now : Int) := by omega
  have hrefuses : ∀ requests, SleepTimer.refuses { t with requests := requests } t.now = false := fun _ => haccepted
  simp [startSleepTimer, SleepTimer.next, hidle, SleepTimer.startSleepTimer, hnotNegative, hnotOver,
    SleepTimer.State.setRequest, hrefuses, SleepTimer.State.setTimer, rollbackTask]

/-! ## Attempts that are rolled back -/

section attempts

variable {cfg : Config} {env : Surroundings} {d : Device}

@[simp] theorem postHibernate_eq (hibernateResult : Bool) (d : Device) :
    (postHibernate hibernateResult d).machine = d.machine ∧ (postHibernate hibernateResult d).tags = d.tags ∧
    (postHibernate hibernateResult d).hibernating = d.hibernating ∧
    (postHibernate hibernateResult d).sleepTimer = d.sleepTimer := by
  unfold postHibernate
  split <;> exact ⟨rfl, rfl, rfl, rfl⟩

/-- After `PrepareHibernate`, whether it fails or not, the device hibernates or is `INACTIVE`. -/
theorem prepareHibernate_spec (hinactive : Succeeds cfg env.inactive) :
    (prepareHibernate cfg env false d).1.tags = d.tags ∧
    (prepareHibernate cfg env false d).1.sleepTimer = d.sleepTimer ∧
    ((prepareHibernate cfg env false d).1.machine.currentState = .hibernate ∨
      (prepareHibernate cfg env false d).1.machine.currentState = .inactive ∧
        isOnState (prepareHibernate cfg env false d).1.machine.display = false) := by
  obtain ⟨hcurrent, hdark⟩ := setState_inactive_hibernate (m := d.machine) hinactive
  exact ⟨rfl, rfl, @setState_hibernate cfg env.hibernate _ hcurrent hdark⟩

theorem setSuspendTag_eq (ulsrFinished : Bool) (tag : String) (d : Device) :
    (setSuspendTag cfg ulsrFinished tag d).machine = d.machine ∧
    (setSuspendTag cfg ulsrFinished tag d).hibernating = d.hibernating ∧
    (setSuspendTag cfg ulsrFinished tag d).sleepTimer = d.sleepTimer := by
  unfold setSuspendTag
  split
  · split
    · exact ⟨rfl, rfl, rfl⟩
    · split <;> exact ⟨rfl, rfl, rfl⟩
  · exact ⟨rfl, rfl, rfl⟩

/-- A device that is not asleep gets the tag only where the tag is not checked. -/
theorem setSuspendTag_awake (ulsrFinished : Bool) (hcurrent : d.machine.currentState ≠ .sleep) :
    (setSuspendTag cfg ulsrFinished "ulsr" d).tags = if cfg.suspendWithTag then d.tags else "ulsr" :: d.tags := by
  simp only [setSuspendTag, and_true, hcurrent, ne_eq, not_false_eq_true, if_true]
  split <;> rfl

theorem rollbackHibernate_spec (hrollback : Succeeds cfg env.rollback) (originalState : PowerState)
    (hcurrent : d.machine.currentState = .hibernate ∨
      d.machine.currentState = .inactive ∧ isOnState d.machine.display = false) :
    let d' := (rollbackHibernate cfg env originalState false d).1
    d'.hibernating = false ∧ d'.machine.currentState = .inactive ∧
    (originalState = .sleep → d'.sleepTimer = startSleepTimer env.sleepTime d.sleepTimer ∧
      (env.switchOpen = false → d'.tags = if cfg.suspendWithTag then d.tags else "ulsr" :: d.tags)) := by
  obtain ⟨hmachine, htags, hhibernating, htimer⟩ := postHibernate_eq false { d with hibernating := false }
  have hinactive := setState_inactive_rollback hrollback hcurrent
  have hawake : (request cfg env.rollback .inactive .rollbackHibernate
      (postHibernate false { d with hibernating := false })).1.machine.currentState = .inactive := by
    simp only [request, hmachine]
    exact hinactive
  simp only [rollbackHibernate, Bool.false_eq_true, if_false]
  by_cases hslept : originalState = .sleep
  · simp only [hslept, if_true, true_implies]
    cases hswitch : env.switchOpen with
    | true => exact ⟨hhibernating, hawake, congrArg _ htimer, fun h => Bool.noConfusion h⟩
    | false =>
      simp only [Bool.false_eq_true, if_false]
      obtain ⟨hmachine', hhibernating', htimer'⟩ := @setSuspendTag_eq cfg env.ulsrFinished "ulsr"
        (request cfg env.rollback .inactive .rollbackHibernate
          (postHibernate false { d with hibernating := false })).1
      refine ⟨hhibernating'.trans hhibernating, ?_, congrArg _ (htimer'.trans htimer), fun _ => ?_⟩
      · rw [hmachine']
        exact hawake
      · rw [setSuspendTag_awake _ (by rw [hawake]; exact PowerState.noConfusion)]
        simp only [request, htags]
  · simp only [if_neg hslept]
    exact ⟨hhibernating, hawake, fun h => absurd h hslept⟩

/-- An attempt that fails, without `clearMemory` and for another reason than a low battery, is rolled back. -/
theorem hibernateInner_fails {reason : String} (hreason : reason ≠ "LowCapacity") (hidle : d.hibernating = false)
    (hfails : (hibernateInner cfg env false reason d).2 ≠ .hibernated) :
    hibernateInner cfg env false reason d =
      rollbackHibernate cfg env d.machine.currentState false
        (prepareHibernate cfg env false { d with hibernating := true }).1 := by
  revert hfails
  simp only [hibernateInner, Bool.false_and, Bool.false_eq_true, if_false, hidle, hreason, decide_false, Bool.or_self]
  split
  · exact fun _ => rfl
  · split
    · exact fun _ => rfl
    · exact fun hfails => absurd rfl hfails

/-- An attempt that fails is taken back exactly when the device did not sleep with the switch closed, or
the build hands over the tag unchecked: `RollbackHibernate` asks for the tag while the device is still
`INACTIVE`, before the timer that it sets puts it to sleep. -/
theorem rollback_restores_iff {reason : String} (hreason : reason ≠ "LowCapacity") (hidle : d.hibernating = false)
    (hinactive : Succeeds cfg env.inactive) (hrollback : Succeeds cfg env.rollback)
    (hfails : (hibernateInner cfg env false reason d).2 ≠ .hibernated) :
    Restored cfg env d (hibernateInner cfg env false reason d).1 ↔
      ¬(cfg.suspendWithTag = true ∧ d.machine.currentState = .sleep ∧ env.switchOpen = false ∧
        env.ulsrFinished = true ∧ ArmsTimer env.sleepTime d.sleepTimer) := by
  rw [hibernateInner_fails hreason hidle hfails]
  obtain ⟨htags, htimer, hcurrent⟩ := prepareHibernate_spec (d := { d with hibernating := true }) hinactive
  obtain ⟨hhibernating, hstate, hslept⟩ := rollbackHibernate_spec hrollback d.machine.currentState hcurrent
  rw [htags, htimer] at hslept
  constructor
  · rintro hrestored ⟨htagged, hsleep, hswitch, hulsr, harms⟩
    -- the tags are the ones before the attempt, not one more
    have hgiven := hrestored.tagged hsleep harms hswitch hulsr
    rw [(hslept hsleep).2 hswitch, if_pos htagged] at hgiven
    exact absurd (congrArg List.length hgiven) (by simp)
  · intro hcondition
    refine ⟨hhibernating, fun hsleep harms => ?_, fun hsleep harms hswitch hulsr => ?_, fun _ => hstate⟩
    · rw [(hslept hsleep).1]
      exact ⟨startSleepTimer_queued harms, fun answers hunblocked => autoSleep_inactive hunblocked hstate⟩
    · rw [(hslept hsleep).2 hswitch, if_neg fun htagged => hcondition ⟨htagged, hsleep, hswitch, hulsr, harms⟩]

end attempts

/-! ## A device that slept with the switch closed -/

def asleep : Device := { machine := { currentState := .sleep, display := .off } }

def refusing : Surroundings := { hdiHibernates := false, switchOpen := false }

theorem armsTimer_asleep : ArmsTimer refusing.sleepTime asleep.sleepTimer :=
  ⟨rfl, by decide, by decide, by decide⟩

theorem rollback_restores_iff_asleep :
    Restored {} refusing asleep (hibernateInner {} refusing false "S4" asleep).1 := by
  have hok : Succeeds {} ({} : Answers) := ⟨rfl, rfl, fun h => Bool.noConfusion h.1⟩
  exact (rollback_restores_iff (by decide) rfl hok hok (by decide)).mpr fun h => Bool.noConfusion h.1

/-- In a build that checks the tag, it is never handed over. -/
theorem rollback_without_tag :
    ¬∀ (cfg : Config) (env : Surroundings) (d : Device) (reason : String), reason ≠ "LowCapacity" →
      d.hibernating = false → Succeeds cfg env.inactive → Succeeds cfg env.rollback →
      (hibernateInner cfg env false reason d).2 ≠ .hibernated →
      Restored cfg env d (hibernateInner cfg env false reason d).1 := by
  intro hrestored
  have hok : Succeeds { suspendWithTag := true } ({} : Answers) := ⟨rfl, rfl, fun h => Bool.noConfusion h.1⟩
  have hgiven := (hrestored { suspendWithTag := true } refusing asleep "S4" (by decide) rfl hok hok
    (by decide)).tagged rfl armsTimer_asleep rfl rfl
  have hnone : (hibernateInner { suspendWithTag := true } refusing false "S4" asleep).1.tags = [] := by decide
  rw [hnone] at hgiven
  cases hgiven

end PowerMgr.Hibernate
