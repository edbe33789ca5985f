import PowerMgr.StateMachine.Transit
import PowerMgr.Suspend.SleepTimer

/-! # Asleep for the suspension in effect

A suspension asks for `INACTIVE` and then starts the sleep timer, whose task asks for `SLEEP`.  A wakeup stops
the timer and then asks for `AWAKE`.  No lock is held over the two halves of either, so a timer may be started
when its suspension is over, and a task that has begun is not stopped.  The machine refuses `SLEEP` while the
device is awake, but not once it is inactive for another reason.

* `State`, `next` — the sleep timer and the state machine in one system, with the suspension that a call, the
  queued task and each task that goes on belong to.
* `Careful` — when the device leaves `AWAKE` or `DIM`, nothing goes on for a suspension from before it was
  woken.
* `asleep_for_current` — in such runs a task puts the device to sleep for a suspension since which the device
  has not been woken, and not before its delay is over.
* `current_of_serialized` — it is enough that a wakeup finds nothing going on.

Hibernation and shutdown by the timer's task, and the settings of the charging types, are left out.
-/

namespace PowerMgr.Suspend.InEffect

open StateMachine (Config Machine Answers Call setState)
open SleepTimer (SuspendAction)

inductive SuspendDeviceType where
  | application
  | deviceAdmin
  | timeout
  | lid
  | powerKey
  | hdmi
  | sleepKey
  | accessibility
  | forceSuspend
  | str
  | switch
  | lowCapacity
  | tpCover
  | exScreenInit
  | switchSensorhub
  | rollbackHibernate
  | startDream
  | peopleLeaving
  deriving DecidableEq, Repr, Inhabited

/-- `PowerStateMachine::GetReasonBySuspendType`; `lockScreen` says whether a time-out locks the screen. -/
def getReasonBySuspendType (lockScreen : Bool) : SuspendDeviceType → StateChangeReason
  | .application => .application
  | .deviceAdmin => .remote
  | .timeout => if lockScreen then .timeout else .timeoutNoScreenLock
  | .lid => .lid
  | .switch => .switch
  | .powerKey | .sleepKey => .hardKey
  | .hdmi => .cable
  | .accessibility => .accessibility
  | .forceSuspend => .system
  | .tpCover => .tpCover
  | .exScreenInit => .exScreenInit
  | .switchSensorhub => .switchSensorhub
  | .rollbackHibernate => .rollbackHibernate
  | .startDream => .startDream
  | .peopleLeaving => .peopleLeaving
  | .str | .lowCapacity => .unknown

/-! ## The system -/

/-- What was asked for, when, and how often the device had been woken by then. -/
structure Suspension where
  type : SuspendDeviceType
  action : SuspendAction := .none
  delay : UInt32 := 0
  since : Nat := 0
  wakeups : Nat := 0
  deriving Inhabited

/-- `suspends` are the calls between their `SetState` and `StartSleepTimer`.  The suspension of a call of
`StartSleepTimer`, of the queued task and of a `HandleAction` is kept beside it. -/
structure State where
  timer : SleepTimer.State := {}
  machine : Machine
  suspends : Nat → Option Suspension := fun _ => none
  asked : Nat → Suspension := fun _ => default
  queuedFor : Suspension := default
  handled : Nat → Suspension := fun _ => default
  wakeups : Nat := 0

inductive Event where
  -- `ControlListenerInner` up to its `SetState`
  | suspend (caller : Nat) (type : SuspendDeviceType) (action : SuspendAction) (delay : UInt32) (lockScreen : Bool)
    (answers : Answers)
  -- its `StartSleepTimer`
  | startSleepTimer (caller : Nat) (sleepTime : Int)
  -- a `StartSleepTimer` of another function
  | startDirectly (caller : Nat) (type : SuspendDeviceType) (action : SuspendAction) (delay : UInt32) (sleepTime : Int)
  -- a step of a `StartSleepTimer`, a `StopSleep`, the timer or the clock
  | timer (event : SleepTimer.Event)
  -- the body of `HandleAction`
  | act (runner : Nat) (lockScreen : Bool) (answers : Answers)
  -- any other request, the one of a wakeup among them
  | call (call : Call)

/-- The states in which the device is in use. -/
def woken (m : Machine) : Bool :=
  m.currentState = .awake || m.currentState = .dim

def State.setMachine (m : Machine) (s : State) : State :=
  { s with machine := m, wakeups := if woken m && !woken s.machine then s.wakeups + 1 else s.wakeups }

/-- `SuspendController::ControlListenerInner` up to its `SetState`. -/
def controlListenerInner (cfg : Config) (caller : Nat) (type : SuspendDeviceType) (action : SuspendAction)
    (delay : UInt32) (lockScreen : Bool) (answers : Answers) (s : State) : State :=
  let force := type ≠ .timeout
  let (m, ret) := setState cfg answers .inactive (getReasonBySuspendType lockScreen type) force s.machine
  let s := s.setMachine m
  if ret then
    { s with suspends := Function.update s.suspends caller (some ⟨type, action, delay, s.timer.now, s.wakeups⟩) }
  else s

/-- A call of `StartSleepTimer`. -/
def startSleepTimer (caller : Nat) (suspension : Suspension) (sleepTime : Int) (s : State) : State :=
  { s with
    timer := SleepTimer.startSleepTimer caller suspension.action suspension.delay sleepTime s.timer
    asked := Function.update s.asked caller { suspension with since := s.timer.now } }

/-- The request that `HandleAction` makes. -/
def handleAction (cfg : Config) (answers : Answers) (reason : StateChangeReason) (action : SuspendAction)
    (m : Machine) : Machine × Bool :=
  match action with
  | .autoSuspend => setState cfg answers .sleep reason false m
  | .forceSuspend => setState cfg answers .sleep reason true m
  | .none | .hibernate | .shutdown | .invalid => (m, false)

/-- A step that asks for no power state. -/
def stepTimer (event : SleepTimer.Event) (s : State) : Option State :=
  match event with
  | .startSleepTimer _ _ _ _ | .act _ _ => none
  | .setTimer caller => (SleepTimer.next s.timer event).map fun timer =>
    { s with timer := timer, queuedFor := s.asked caller }
  | .fire runner => (SleepTimer.next s.timer event).map fun timer =>
    { s with timer := timer, handled := Function.update s.handled runner s.queuedFor }
  | _ => (SleepTimer.next s.timer event).map fun timer => { s with timer := timer }

def next (cfg : Config) (s : State) : Event → Option State
  | .suspend caller type action delay lockScreen answers =>
    match s.suspends caller with
    | none => some (controlListenerInner cfg caller type action delay lockScreen answers s)
    | some _ => none
  | .startSleepTimer caller sleepTime =>
    match s.suspends caller, s.timer.requests caller with
    | some suspension, .idle =>
      some (startSleepTimer caller suspension sleepTime
        { s with suspends := Function.update s.suspends caller none })
    | _, _ => none
  | .startDirectly caller type action delay sleepTime =>
    match s.timer.requests caller with
    | .idle => some (startSleepTimer caller ⟨type, action, delay, s.timer.now, s.wakeups⟩ sleepTime s)
    | _ => none
  | .timer event => stepTimer event s
  | .act runner lockScreen answers =>
    match s.timer.handlings runner with
    | .acting action =>
      let reason := getReasonBySuspendType lockScreen (s.handled runner).type
      let (m, ok) := handleAction cfg answers reason action s.machine
      (SleepTimer.next s.timer (.act runner ok)).map fun timer => { s.setMachine m with timer := timer }
    | _ => none
  | .call call => (StateMachine.next cfg s.machine call).map fun m => s.setMachine m

/-- A machine in any state, and no suspension. -/
def system (cfg : Config) : Lib.System State Event where
  init s := ∃ m, s = { machine := m }
  next := next cfg

/-- Something goes on for a suspension that may still put the device to sleep. -/
def State.UnderWay (s : State) (x : Suspension) : Prop :=
  (∃ caller, s.suspends caller = some x) ∨ (∃ caller, s.timer.requests caller ≠ .idle ∧ s.asked caller = x) ∨
    (∃ task, s.timer.queued = some task ∧ task.job ≠ .forceSuspend ∧ s.queuedFor = x) ∨
    ∃ runner action, s.timer.handlings runner = .acting action ∧ s.handled runner = x

/-- The device has not been woken since any of these was asked for. -/
def State.Current (s : State) : Prop :=
  ∀ x, s.UnderWay x → x.wakeups = s.wakeups

/-- When the device leaves the states in which it is in use, nothing goes on for a suspension from before it
was woken. -/
def Careful (cfg : Config) (s : State) (e : Event) : Prop :=
  ∀ s', next cfg s e = some s' → woken s.machine = true → woken s'.machine = false → s.Current

/-- A wakeup finds nothing going on. -/
def Serialized (cfg : Config) (s : State) (e : Event) : Prop :=
  ∀ s', next cfg s e = some s' → woken s.machine = false → woken s'.machine = true → ∀ x, ¬s.UnderWay x

/-! ## Requests for `SLEEP` -/

section Sleep

variable {cfg : Config} {m : Machine} {reason : StateChangeReason}

theorem getReasonBySuspendType_ne_init (lockScreen : Bool) (type : SuspendDeviceType) :
    getReasonBySuspendType lockScreen type ≠ .init := by
  cases type <;> cases lockScreen <;> decide

theorem sleep_mem_forbidMap (cfg : Config) (hwoken : woken m = true) :
    .sleep ∈ StateMachine.forbidMap cfg m.currentState := by
  simp only [woken, Bool.or_eq_true, decide_eq_true_eq] at hwoken
  obtain hawake | hdim := hwoken
  · rw [hawake, StateMachine.forbidMap]
    cases cfg.enableS4 <;> simp
  · rw [hdim]
    exact List.mem_cons_self

/-- A device that is in use is not put to sleep. -/
theorem setState_sleep_of_woken (answers : Answers) (force : Bool) (hwoken : woken m = true)
    (hreason : reason ≠ .init) : setState cfg answers .sleep reason force m = (m, false) := by
  have hmatch : StateMachine.matchState .sleep m.currentState m.display = m.currentState := by
    simp [StateMachine.matchState]
  have hcheck : StateMachine.checkState cfg .sleep m.currentState = true := by
    simp only [woken, Bool.or_eq_true, decide_eq_true_eq] at hwoken
    obtain hawake | hdim := hwoken
    · simp [StateMachine.checkState, hawake]
    · simp [StateMachine.checkState, hdim]
  have hcan : StateMachine.canTransitTo cfg answers m.currentState .sleep reason = false := by
    rw [StateMachine.canTransitTo, if_pos (sleep_mem_forbidMap cfg hwoken)]
  unfold setState StateMachine.transitTo
  rw [hmatch]
  simp [hcheck, hcan, hreason]

theorem handleAction_of_woken (answers : Answers) (action : SuspendAction) (hwoken : woken m = true)
    (hreason : reason ≠ .init) : handleAction cfg answers reason action m = (m, false) := by
  cases action with
  | autoSuspend => exact setState_sleep_of_woken answers false hwoken hreason
  | forceSuspend => exact setState_sleep_of_woken answers true hwoken hreason
  | none | hibernate | shutdown | invalid => rfl

end Sleep

/-! ## The timer alone -/

/-- The delay that a call of `StartSleepTimer` was given. -/
def delayOf : SleepTimer.Request → Option UInt32
  | .idle => none
  | .timed _ delay _ | .accepted _ delay _ | .recorded _ delay => some delay

/-- The timer goes on, and nothing new is asked of it. -/
structure GoesOn (t t' : SleepTimer.State) : Prop where
  now : t.now ≤ t'.now
  requests : ∀ caller delay, delayOf (t'.requests caller) = some delay → delayOf (t.requests caller) = some delay
  queued : ∀ task, t'.queued = some task → task.job ≠ .forceSuspend → t.queued = some task
  handlings : ∀ runner action, t'.handlings runner = .acting action → t.handlings runner = .acting action

section Timer

variable {t t' : SleepTimer.State}

theorem exists_delayOf {request : SleepTimer.Request} (hplace : request ≠ .idle) :
    ∃ delay, delayOf request = some delay := by
  cases request with
  | idle => exact absurd rfl hplace
  | timed _ delay _ | accepted _ delay _ | recorded _ delay => exact ⟨delay, rfl⟩

theorem GoesOn.requests_ne (h : GoesOn t t') {caller : Nat} (hplace : t'.requests caller ≠ .idle) :
    t.requests caller ≠ .idle := by
  intro hidle
  obtain ⟨delay, hdelay⟩ := exists_delayOf hplace
  have hbefore : delayOf (t.requests caller) = some delay := h.requests caller delay hdelay
  rw [hidle] at hbefore
  cases hbefore

/-- A call of `StartSleepTimer` goes on. -/
theorem goesOn_request {caller : Nat} {request : SleepTimer.Request} (sleepTime : Int)
    (hdelay : ∀ delay, delayOf request = some delay → delayOf (t.requests caller) = some delay) :
    GoesOn t { t with sleepTime := sleepTime, requests := Function.update t.requests caller request } where
  now := Nat.le_refl _
  requests other delay hother := by
    have hother : delayOf (Function.update t.requests caller request other) = some delay := hother
    by_cases hself : other = caller
    · rw [hself, Function.update_self] at hother
      rw [hself]
      exact hdelay delay hother
    · rwa [Function.update_of_ne hself] at hother
  queued _ htask _ := htask
  handlings _ _ hacting := hacting

/-- A `HandleAction` has gone through its body; it may queue the task that suspends by force. -/
theorem goesOn_act {runner : Nat} {ok : Bool} (hnext : SleepTimer.next t (.act runner ok) = some t') :
    GoesOn t t' := by
  simp only [SleepTimer.next] at hnext
  split at hnext
  case h_2 => cases hnext
  rename_i action hplace
  cases hnext
  have hhandlings : ∀ other action', Function.update t.handlings runner .acted other = .acting action' →
      t.handlings other = .acting action' := by
    intro other action' hacting
    obtain ⟨-, hacted⟩ | ⟨-, hacting⟩ := Lib.update_cases hacting
    · cases hacted
    · exact hacting
  obtain hsame | hforce := SleepTimer.handleAction_cases action ok t
  · rw [hsame]
    exact ⟨Nat.le_refl _, fun _ _ => id, fun _ htask _ => htask, hhandlings⟩
  · rw [hforce]
    refine ⟨Nat.le_refl _, fun _ _ => id, fun task htask hjob => ?_, hhandlings⟩
    cases htask
    exact absurd rfl hjob

theorem delayOf_timed (caller : Nat) (action : SuspendAction) (delay : UInt32) (sleepTime : Int)
    (t : SleepTimer.State) (other : Nat) :
    delayOf ((SleepTimer.startSleepTimer caller action delay sleepTime t).requests other) = some delay ∧
        other = caller ∨
      (SleepTimer.startSleepTimer caller action delay sleepTime t).requests other = t.requests other := by
  unfold SleepTimer.startSleepTimer
  dsimp only
  split
  · exact .inr rfl
  · split
    · exact .inr rfl
    · by_cases hself : other = caller
      · left
        rw [hself, SleepTimer.setRequest_requests, Function.update_self]
        exact ⟨rfl, rfl⟩
      · right
        rw [SleepTimer.setRequest_requests, Function.update_of_ne hself]

end Timer

/-! ## What a step adds -/

section Steps

variable {cfg : Config} {s s' : State}

@[simp] theorem setMachine_machine (m : Machine) (s : State) : (s.setMachine m).machine = m := rfl

theorem setMachine_wakeups (m : Machine) (s : State) :
    (s.setMachine m).wakeups = s.wakeups ∨ woken s.machine = false ∧ woken m = true := by
  unfold State.setMachine
  by_cases hwakes : (woken m && !woken s.machine) = true
  · simp only [Bool.and_eq_true, Bool.not_eq_true'] at hwakes
    exact .inr ⟨hwakes.2, hwakes.1⟩
  · exact .inl (if_neg hwakes)

/-- What goes on after a step was asked for with it, or is for a suspension for which something went on; the
wakeups are counted. -/
structure Follows (s s' : State) : Prop where
  underWay : ∀ x, s'.UnderWay x → (∃ y, s.UnderWay y ∧ x.wakeups = y.wakeups) ∨ x.wakeups = s'.wakeups
  wakeups : s'.wakeups = s.wakeups ∨ woken s.machine = false ∧ woken s'.machine = true

/-- Nothing is asked for. -/
theorem underWay_mono {x : Suspension} (h : s'.UnderWay x) (hsuspends : s'.suspends = s.suspends)
    (hasked : s'.asked = s.asked)
    (hrequests : ∀ caller, s'.timer.requests caller ≠ .idle → s.timer.requests caller ≠ .idle)
    (hqueued : ∀ task, s'.timer.queued = some task → task.job ≠ .forceSuspend → s.UnderWay s'.queuedFor)
    (hhandled : ∀ runner action, s'.timer.handlings runner = .acting action → s.UnderWay (s'.handled runner)) :
    s.UnderWay x := by
  obtain ⟨caller, hcaller⟩ | ⟨caller, hplace, rfl⟩ | ⟨task, htask, hjob, rfl⟩ |
    ⟨runner, action, hacting, rfl⟩ := h
  · exact .inl ⟨caller, hsuspends ▸ hcaller⟩
  · exact .inr (.inl ⟨caller, hrequests caller hplace, by rw [hasked]⟩)
  · exact hqueued task htask hjob
  · exact hhandled runner action hacting

theorem UnderWay.asked {caller : Nat} (hplace : s.timer.requests caller ≠ .idle) : s.UnderWay (s.asked caller) :=
  .inr (.inl ⟨caller, hplace, rfl⟩)

theorem UnderWay.queued {task : SleepTimer.Task} (htask : s.timer.queued = some task)
    (hjob : task.job ≠ .forceSuspend) : s.UnderWay s.queuedFor :=
  .inr (.inr (.inl ⟨task, htask, hjob, rfl⟩))

theorem UnderWay.handled {runner : Nat} {action : SuspendAction}
    (hacting : s.timer.handlings runner = .acting action) : s.UnderWay (s.handled runner) :=
  .inr (.inr (.inr ⟨runner, action, hacting, rfl⟩))

/-- What a step of the timer does: it goes on, it is set for a call, or its task starts. -/
theorem stepTimer_cases {event : SleepTimer.Event} (hnext : stepTimer event s = some s') :
    (∃ timer, GoesOn s.timer timer ∧ s' = { s with timer := timer }) ∨
      (∃ caller action delay, s.timer.requests caller = .recorded action delay ∧
        s' = { s with
          timer := (s.timer.setTimer (.handleAction action) delay.toNat).setRequest caller .idle
          queuedFor := s.asked caller }) ∨
      ∃ runner task, s.timer.queued = some task ∧ s.timer.handlings runner = .idle ∧ task.deadline ≤ s.timer.now ∧
        s' = { s with
          timer := SleepTimer.startTask runner task s.timer
          handled := Function.update s.handled runner s.queuedFor } := by
  cases event with
  | startSleepTimer _ _ _ _ | act _ _ => cases hnext
  | check caller =>
    obtain ⟨timer, htimer, rfl⟩ := Option.map_eq_some_iff.mp hnext
    simp only [SleepTimer.next] at htimer
    split at htimer
    case h_2 => cases htimer
    rename_i hplace
    cases htimer
    refine .inl ⟨_, goesOn_request s.timer.sleepTime fun delay hdelay => ?_, rfl⟩
    rw [hplace]
    -- a request that is refused is over
    split at hdelay
    · cases hdelay
    · exact hdelay
  | record caller =>
    obtain ⟨timer, htimer, rfl⟩ := Option.map_eq_some_iff.mp hnext
    simp only [SleepTimer.next] at htimer
    split at htimer
    case h_2 => cases htimer
    rename_i hplace
    cases htimer
    refine .inl ⟨_, goesOn_request _ fun delay hdelay => ?_, rfl⟩
    rw [hplace]
    exact hdelay
  | setTimer caller =>
    obtain ⟨timer, htimer, rfl⟩ := Option.map_eq_some_iff.mp hnext
    simp only [SleepTimer.next] at htimer
    split at htimer
    case h_2 => cases htimer
    rename_i action delay hplace
    cases htimer
    exact .inr (.inl ⟨caller, action, delay, hplace, rfl⟩)
  | stopSleep caller =>
    obtain ⟨timer, htimer, rfl⟩ := Option.map_eq_some_iff.mp hnext
    simp only [SleepTimer.next] at htimer
    split at htimer
    case isTrue => cases htimer
    cases htimer
    refine .inl ⟨_, ?_, rfl⟩
    exact ⟨Nat.le_refl _, fun _ _ => id, fun _ hnone => (by cases hnone), fun _ _ => id⟩
  | stopReset caller =>
    obtain ⟨timer, htimer, rfl⟩ := Option.map_eq_some_iff.mp hnext
    obtain ⟨-, htimer⟩ := Option.ite_none_right_eq_some.mp htimer
    cases htimer
    refine .inl ⟨_, ?_, rfl⟩
    exact ⟨Nat.le_refl _, fun _ _ => id, fun _ htask _ => htask, fun _ _ => id⟩
  | fire runner =>
    obtain ⟨timer, htimer, rfl⟩ := Option.map_eq_some_iff.mp hnext
    simp only [SleepTimer.next] at htimer
    split at htimer
    case h_2 => cases htimer
    rename_i task htask hidle
    obtain ⟨hdeadline, htimer⟩ := Option.ite_none_right_eq_some.mp htimer
    cases htimer
    exact .inr (.inr ⟨runner, task, htask, hidle, hdeadline, rfl⟩)
  | reset runner =>
    obtain ⟨timer, htimer, rfl⟩ := Option.map_eq_some_iff.mp hnext
    simp only [SleepTimer.next] at htimer
    split at htimer
    case h_2 => cases htimer
    cases htimer
    refine .inl ⟨_, ?_, rfl⟩
    refine ⟨Nat.le_refl _, fun _ _ => id, fun _ htask _ => htask, fun other action hacting => ?_⟩
    obtain ⟨-, hidle⟩ | ⟨-, hacting⟩ := Lib.update_cases hacting
    · cases hidle
    · exact hacting
  | tick ms =>
    simp only [stepTimer, SleepTimer.next, Option.map_some, Option.some.injEq] at hnext
    subst hnext
    refine .inl ⟨_, ?_, rfl⟩
    exact ⟨Nat.le_add_right .., fun _ _ => id, fun _ htask _ => htask, fun _ _ => id⟩

/-- A timer that goes on only hands on what it was asked for. -/
theorem underWay_of_goesOn {x : Suspension} (hx : s'.UnderWay x) (hgoes : GoesOn s.timer s'.timer)
    (hsuspends : s'.suspends = s.suspends) (hasked : s'.asked = s.asked) (hqueuedFor : s'.queuedFor = s.queuedFor)
    (hhandled : s'.handled = s.handled) : s.UnderWay x := by
  refine underWay_mono hx hsuspends hasked (fun caller => hgoes.requests_ne) ?_ ?_
  · intro task htask hjob
    rw [hqueuedFor]
    exact UnderWay.queued (hgoes.queued task htask hjob) hjob
  · intro runner action hacting
    rw [hhandled]
    exact UnderWay.handled (hgoes.handlings runner action hacting)

theorem underWay_setTimer {caller : Nat} {action : SuspendAction} {delay : UInt32}
    (hplace : s.timer.requests caller = .recorded action delay) {x : Suspension}
    (hx : ({ s with
      timer := (s.timer.setTimer (.handleAction action) delay.toNat).setRequest caller .idle
      queuedFor := s.asked caller } : State).UnderWay x) : s.UnderWay x := by
  have hcaller : s.timer.requests caller ≠ .idle := by
    intro hidle
    cases hplace.symm.trans hidle
  have hover : GoesOn s.timer (s.timer.setRequest caller .idle) :=
    goesOn_request s.timer.sleepTime fun _ hnone => by cases hnone
  refine underWay_mono hx rfl rfl (fun other hother => ?_) ?_ ?_
  · exact hover.requests_ne hother
  · exact fun _ _ _ => UnderWay.asked hcaller
  · exact fun _ _ hacting => UnderWay.handled hacting

theorem underWay_fire {runner : Nat} {task : SleepTimer.Task} (htask : s.timer.queued = some task)
    (hidle : s.timer.handlings runner = .idle) {x : Suspension}
    (hx : ({ s with
      timer := SleepTimer.startTask runner task s.timer
      handled := Function.update s.handled runner s.queuedFor } : State).UnderWay x) : s.UnderWay x := by
  obtain ⟨job, deadline⟩ := task
  cases job with
  | handleAction action =>
    refine underWay_mono hx rfl rfl (fun _ => id) (fun _ hnone => by cases hnone) fun other action' hacting => ?_
    show s.UnderWay (Function.update s.handled runner s.queuedFor other)
    obtain ⟨hself, -⟩ | ⟨hne, hacting⟩ := Lib.update_cases hacting
    · rw [hself, Function.update_self]
      exact UnderWay.queued htask fun hjob => by cases hjob
    · rw [Function.update_of_ne hne]
      exact UnderWay.handled hacting
  | forceSuspend =>
    refine underWay_mono hx rfl rfl (fun _ => id) (fun _ hnone => by cases hnone) fun other action' hacting => ?_
    have hbefore : s.timer.handlings other = .acting action' := hacting
    have hne : other ≠ runner := by
      rintro rfl
      cases hidle.symm.trans hbefore
    show s.UnderWay (Function.update s.handled runner s.queuedFor other)
    rw [Function.update_of_ne hne]
    exact UnderWay.handled hbefore

theorem underWay_stepTimer {event : SleepTimer.Event} (hnext : stepTimer event s = some s') :
    s'.machine = s.machine ∧ s'.wakeups = s.wakeups ∧ ∀ x, s'.UnderWay x → s.UnderWay x := by
  obtain ⟨timer, hgoes, rfl⟩ | ⟨caller, action, delay, hplace, rfl⟩ |
    ⟨runner, task, htask, hidle, -, rfl⟩ := stepTimer_cases hnext
  · exact ⟨rfl, rfl, fun x hx => underWay_of_goesOn hx hgoes rfl rfl rfl rfl⟩
  · exact ⟨rfl, rfl, fun _ => underWay_setTimer hplace⟩
  · exact ⟨rfl, rfl, fun _ => underWay_fire htask hidle⟩

theorem frame_startSleepTimer (caller : Nat) (suspension : Suspension) (sleepTime : Int) (s : State) :
    (startSleepTimer caller suspension sleepTime s).timer.now = s.timer.now ∧
      (startSleepTimer caller suspension sleepTime s).timer.queued = s.timer.queued ∧
      (startSleepTimer caller suspension sleepTime s).timer.handlings = s.timer.handlings := by
  simp only [startSleepTimer, SleepTimer.startSleepTimer]
  split
  · exact ⟨rfl, rfl, rfl⟩
  · split <;> exact ⟨rfl, rfl, rfl⟩

/-- A call of `StartSleepTimer` goes on for its own suspension only. -/
theorem underWay_startSleepTimer (caller : Nat) (suspension : Suspension) (sleepTime : Int) {x : Suspension}
    (h : (startSleepTimer caller suspension sleepTime s).UnderWay x) :
    s.UnderWay x ∨ x.wakeups = suspension.wakeups := by
  obtain ⟨-, hqueued, hhandlings⟩ := frame_startSleepTimer caller suspension sleepTime s
  obtain ⟨other, hother⟩ | ⟨other, hplace, rfl⟩ | ⟨task, htask, hjob, rfl⟩ |
    ⟨runner, action, hacting, rfl⟩ := h
  · exact .inl (.inl ⟨other, hother⟩)
  · by_cases hself : other = caller
    · right
      show (Function.update s.asked caller { suspension with since := s.timer.now } other).wakeups = _
      rw [hself, Function.update_self]
    · left
      show s.UnderWay (Function.update s.asked caller { suspension with since := s.timer.now } other)
      rw [Function.update_of_ne hself]
      obtain ⟨-, hother⟩ | hsame :=
        delayOf_timed caller suspension.action suspension.delay sleepTime s.timer other
      · exact absurd hother hself
      · exact UnderWay.asked (hsame ▸ hplace)
  · rw [hqueued] at htask
    exact .inl (UnderWay.queued htask hjob)
  · rw [hhandlings] at hacting
    exact .inl (UnderWay.handled hacting)

theorem follows_act {runner : Nat} {lockScreen : Bool} {answers : Answers}
    (hnext : next cfg s (.act runner lockScreen answers) = some s') : Follows s s' := by
  simp only [next] at hnext
  split at hnext
  case h_2 => cases hnext
  obtain ⟨timer, htimer, rfl⟩ := Option.map_eq_some_iff.mp hnext
  refine ⟨fun x hx => .inl ⟨x, ?_, rfl⟩, setMachine_wakeups _ s⟩
  exact underWay_of_goesOn hx (goesOn_act htimer) rfl rfl rfl rfl

theorem follows_next {e : Event} (hnext : next cfg s e = some s') : Follows s s' := by
  cases e with
  | suspend caller type action delay lockScreen answers =>
    simp only [next] at hnext
    split at hnext
    case h_2 => cases hnext
    cases hnext
    unfold controlListenerInner
    dsimp only
    split
    · refine ⟨fun x hx => ?_, setMachine_wakeups _ s⟩
      obtain ⟨other, hother⟩ | hrest := hx
      · obtain ⟨-, hself⟩ | ⟨-, hother⟩ := Lib.update_cases hother
        · cases hself
          exact .inr rfl
        · exact .inl ⟨x, .inl ⟨other, hother⟩, rfl⟩
      · exact .inl ⟨x, .inr hrest, rfl⟩
    · exact ⟨fun x hx => .inl ⟨x, hx, rfl⟩, setMachine_wakeups _ s⟩
  | startSleepTimer caller sleepTime =>
    simp only [next] at hnext
    split at hnext
    case h_2 => cases hnext
    rename_i suspension hsuspends hidle
    cases hnext
    refine ⟨fun x hx => .inl ?_, .inl rfl⟩
    obtain hx | hsame := underWay_startSleepTimer caller suspension sleepTime hx
    · obtain ⟨other, hother⟩ | hrest := hx
      · obtain ⟨-, hself⟩ | ⟨-, hother⟩ := Lib.update_cases hother
        · cases hself
        · exact ⟨x, .inl ⟨other, hother⟩, rfl⟩
      · exact ⟨x, .inr hrest, rfl⟩
    · exact ⟨suspension, .inl ⟨caller, hsuspends⟩, hsame⟩
  | startDirectly caller type action delay sleepTime =>
    simp only [next] at hnext
    split at hnext
    case h_2 => cases hnext
    cases hnext
    refine ⟨fun x hx => ?_, .inl rfl⟩
    obtain hx | hsame := underWay_startSleepTimer caller _ sleepTime hx
    · exact .inl ⟨x, hx, rfl⟩
    · exact .inr hsame
  | timer event =>
    obtain ⟨-, hwakeups, hunder⟩ := underWay_stepTimer hnext
    exact ⟨fun x hx => .inl ⟨x, hunder x hx, rfl⟩, .inl hwakeups⟩
  | act runner lockScreen answers => exact follows_act hnext
  | call call =>
    obtain ⟨m, -, rfl⟩ := Option.map_eq_some_iff.mp hnext
    exact ⟨fun x hx => .inl ⟨x, hx, rfl⟩, setMachine_wakeups m s⟩

end Steps

/-! ## Delays -/

/-- When the delay of a suspension is over. -/
def Suspension.due (x : Suspension) : Nat :=
  x.since + x.delay.toNat

/-- A call knows the delay it was given, a queued task is not due before its suspension, and a task that goes
on is due. -/
structure Timed (s : State) : Prop where
  asked : ∀ caller delay, delayOf (s.timer.requests caller) = some delay →
    (s.asked caller).delay = delay ∧ (s.asked caller).since ≤ s.timer.now
  queued : ∀ task, s.timer.queued = some task → task.job ≠ .forceSuspend → (s.queuedFor.due : Int) ≤ task.deadline
  handled : ∀ runner action, s.timer.handlings runner = .acting action → (s.handled runner).due ≤ s.timer.now

section Timed

variable {cfg : Config} {s s' : State}

theorem Timed.startSleepTimer {caller : Nat} {suspension : Suspension} (h : Timed s)
    (hidle : s.timer.requests caller = .idle) (sleepTime : Int) :
    Timed (startSleepTimer caller suspension sleepTime s) := by
  obtain ⟨hnow, hqueued, hhandlings⟩ := frame_startSleepTimer caller suspension sleepTime s
  constructor
  · intro other delay hdelay
    rw [hnow]
    show (Function.update s.asked caller { suspension with since := s.timer.now } other).delay = delay ∧
      (Function.update s.asked caller { suspension with since := s.timer.now } other).since ≤ s.timer.now
    obtain ⟨htimed, hself⟩ | hsame :=
      delayOf_timed caller suspension.action suspension.delay sleepTime s.timer other
    · rw [hself, Function.update_self]
      exact ⟨Option.some.inj (htimed.symm.trans hdelay), Nat.le_refl _⟩
    · have hbefore : delayOf (s.timer.requests other) = some delay := hsame ▸ hdelay
      have hne : other ≠ caller := by
        rintro rfl
        rw [hidle] at hbefore
        cases hbefore
      rw [Function.update_of_ne hne]
      exact h.asked other delay hbefore
  · intro task htask hjob
    rw [hqueued] at htask
    exact h.queued task htask hjob
  · intro runner action hacting
    rw [hhandlings] at hacting
    rw [hnow]
    exact h.handled runner action hacting

theorem Timed.goesOn (h : Timed s) (hgoes : GoesOn s.timer s'.timer) (hasked : s'.asked = s.asked)
    (hqueuedFor : s'.queuedFor = s.queuedFor) (hhandled : s'.handled = s.handled) : Timed s' := by
  constructor
  · intro caller delay hdelay
    obtain ⟨hsame, hsince⟩ := h.asked caller delay (hgoes.requests caller delay hdelay)
    rw [hasked]
    exact ⟨hsame, Nat.le_trans hsince hgoes.now⟩
  · intro task htask hjob
    rw [hqueuedFor]
    exact h.queued task (hgoes.queued task htask hjob) hjob
  · intro runner action hacting
    rw [hhandled]
    exact Nat.le_trans (h.handled runner action (hgoes.handlings runner action hacting)) hgoes.now

theorem Timed.setTimer {caller : Nat} {action : SuspendAction} {delay : UInt32} (h : Timed s)
    (hplace : s.timer.requests caller = .recorded action delay) :
    Timed { s with
      timer := (s.timer.setTimer (.handleAction action) delay.toNat).setRequest caller .idle
      queuedFor := s.asked caller } := by
  have hover : GoesOn s.timer (s.timer.setRequest caller .idle) :=
    goesOn_request s.timer.sleepTime fun _ hnone => by cases hnone
  obtain ⟨hdelay, hsince⟩ := h.asked caller delay (by rw [hplace]; rfl)
  refine ⟨fun other otherDelay hother => ?_, fun task htask hjob => ?_, h.handled⟩
  · exact h.asked other otherDelay (hover.requests other otherDelay hother)
  · cases htask
    show ((s.asked caller).due : Int) ≤ (s.timer.now : Int) + delay.toNat
    rw [Suspension.due, hdelay]
    omega

theorem Timed.fire {runner : Nat} {task : SleepTimer.Task} (h : Timed s) (htask : s.timer.queued = some task)
    (hidle : s.timer.handlings runner = .idle) (hdeadline : task.deadline ≤ s.timer.now) :
    Timed { s with
      timer := SleepTimer.startTask runner task s.timer
      handled := Function.update s.handled runner s.queuedFor } := by
  obtain ⟨job, deadline⟩ := task
  cases job with
  | handleAction action =>
    refine ⟨h.asked, fun _ hnone => (by cases hnone), fun other action' hacting => ?_⟩
    show (Function.update s.handled runner s.queuedFor other).due ≤ s.timer.now
    obtain ⟨hself, -⟩ | ⟨hne, hacting⟩ := Lib.update_cases hacting
    · have hdue := h.queued _ htask fun hjob => by cases hjob
      rw [hself, Function.update_self]
      exact Int.ofNat_le.mp (Int.le_trans hdue hdeadline)
    · rw [Function.update_of_ne hne]
      exact h.handled other action' hacting
  | forceSuspend =>
    refine ⟨h.asked, fun _ hnone => (by cases hnone), fun other action' hacting => ?_⟩
    have hbefore : s.timer.handlings other = .acting action' := hacting
    have hne : other ≠ runner := by
      rintro rfl
      cases hidle.symm.trans hbefore
    show (Function.update s.handled runner s.queuedFor other).due ≤ s.timer.now
    rw [Function.update_of_ne hne]
    exact h.handled other action' hbefore

theorem Timed.stepTimer {event : SleepTimer.Event} (h : Timed s) (hnext : stepTimer event s = some s') :
    Timed s' := by
  obtain ⟨timer, hgoes, rfl⟩ | ⟨caller, action, delay, hplace, rfl⟩ |
    ⟨runner, task, htask, hidle, hdeadline, rfl⟩ := stepTimer_cases hnext
  · exact h.goesOn hgoes rfl rfl rfl
  · exact h.setTimer hplace
  · exact h.fire htask hidle hdeadline

theorem Timed.next {e : Event} (h : Timed s) (hnext : next cfg s e = some s') : Timed s' := by
  cases e with
  | suspend caller type action delay lockScreen answers =>
    simp only [InEffect.next] at hnext
    split at hnext
    case h_2 => cases hnext
    cases hnext
    unfold controlListenerInner
    dsimp only
    split <;> exact ⟨h.asked, h.queued, h.handled⟩
  | startSleepTimer caller sleepTime =>
    simp only [InEffect.next] at hnext
    split at hnext
    case h_2 => cases hnext
    rename_i suspension hsuspends hidle
    cases hnext
    have hbefore : Timed { s with suspends := Function.update s.suspends caller none } :=
      ⟨h.asked, h.queued, h.handled⟩
    exact hbefore.startSleepTimer hidle sleepTime
  | startDirectly caller type action delay sleepTime =>
    simp only [InEffect.next] at hnext
    split at hnext
    case h_2 => cases hnext
    rename_i hidle
    cases hnext
    exact h.startSleepTimer hidle sleepTime
  | timer event => exact h.stepTimer hnext
  | act runner lockScreen answers =>
    simp only [InEffect.next] at hnext
    split at hnext
    case h_2 => cases hnext
    obtain ⟨timer, htimer, rfl⟩ := Option.map_eq_some_iff.mp hnext
    exact h.goesOn (goesOn_act htimer) rfl rfl rfl
  | call call =>
    obtain ⟨m, -, rfl⟩ := Option.map_eq_some_iff.mp hnext
    exact ⟨h.asked, h.queued, h.handled⟩

theorem timed_of_reach {ok : State → Event → Prop} (hreach : (system cfg).Reach ok s) : Timed s := by
  refine hreach.invariant (I := Timed) ?_ fun s s' e htimed _ hnext => htimed.next hnext
  rintro s ⟨m, rfl⟩
  constructor
  · intro caller delay hdelay
    cases hdelay
  · intro task htask
    cases htask
  · intro runner action hacting
    cases hacting

end Timed

/-! ## Whose task puts the device to sleep -/

section Results

variable {cfg : Config} {s s' : State}

theorem current_initial (m : Machine) : ({ machine := m } : State).Current := by
  intro x hx
  obtain ⟨_, hnone⟩ | ⟨_, hidle, -⟩ | ⟨_, hnone, -⟩ | ⟨_, _, hidle, -⟩ := hx
  · cases hnone
  · exact absurd rfl hidle
  · cases hnone
  · cases hidle

theorem current_of_reach (hreach : (system cfg).Reach (Careful cfg) s) (hoff : woken s.machine = false) :
    s.Current := by
  refine hreach.invariant (I := fun s => woken s.machine = false → s.Current) ?_ ?_ hoff
  · rintro s ⟨m, rfl⟩ -
    exact current_initial m
  · intro s s' e hcurrent hcareful hnext hoff x hx
    have hfollows := follows_next hnext
    have hsame : s'.wakeups = s.wakeups := by
      obtain hsame | ⟨-, hwoken⟩ := hfollows.wakeups
      · exact hsame
      · rw [hoff] at hwoken
        cases hwoken
    have hbefore : s.Current := by
      cases hwoken : woken s.machine with
      | false => exact hcurrent hwoken
      | true => exact hcareful s' hnext hwoken hoff
    obtain ⟨y, hy, hxy⟩ | hnew := hfollows.underWay x hx
    · rw [hxy, hsame]
      exact hbefore y hy
    · exact hnew

/-- A task that puts the device to sleep is due, and the device was not in use. -/
theorem asleep_after_delay {ok : State → Event → Prop} (hreach : (system cfg).Reach ok s) {runner : Nat}
    {lockScreen : Bool} {answers : Answers} (hnext : next cfg s (.act runner lockScreen answers) = some s')
    (hbefore : s.machine.currentState ≠ .sleep) (hasleep : s'.machine.currentState = .sleep) :
    woken s.machine = false ∧ s.UnderWay (s.handled runner) ∧ (s.handled runner).due ≤ s.timer.now := by
  simp only [next] at hnext
  split at hnext
  case h_2 => cases hnext
  rename_i action hplace
  obtain ⟨timer, -, rfl⟩ := Option.map_eq_some_iff.mp hnext
  refine ⟨?_, UnderWay.handled hplace, (timed_of_reach hreach).handled runner action hplace⟩
  by_contra hwoken
  have hsame : handleAction cfg answers (getReasonBySuspendType lockScreen (s.handled runner).type) action s.machine =
      (s.machine, false) :=
    handleAction_of_woken answers action (Bool.of_not_eq_false hwoken) (getReasonBySuspendType_ne_init _ _)
  simp only [hsame, setMachine_machine] at hasleep
  exact hbefore hasleep

/-- When the sleep timer puts the device to sleep, the suspension that its task belongs to is due, and the
device has not been woken since it was asked for. -/
theorem asleep_for_current (hreach : (system cfg).Reach (Careful cfg) s) {runner : Nat} {lockScreen : Bool}
    {answers : Answers} (hnext : next cfg s (.act runner lockScreen answers) = some s')
    (hbefore : s.machine.currentState ≠ .sleep) (hasleep : s'.machine.currentState = .sleep) :
    (s.handled runner).wakeups = s.wakeups ∧ (s.handled runner).due ≤ s.timer.now := by
  obtain ⟨hoff, hunder, hdue⟩ := asleep_after_delay hreach hnext hbefore hasleep
  exact ⟨current_of_reach hreach hoff _ hunder, hdue⟩

/-- The power key puts a device to sleep that is left alone. -/
theorem asleep_for_current_powerKey :
    ∃ s s', (system {}).Reach (Careful {}) s ∧ next {} s (.act 0 false {}) = some s' ∧
      s'.machine.currentState = .sleep ∧ (s.handled 0).type = .powerKey ∧ (s.handled 0).wakeups = s.wakeups ∧
      (s.handled 0).due ≤ s.timer.now := by
  have hinit : (system {}).Reach (Careful {}) { machine := { currentState := .awake, display := .on } } :=
    .init ⟨_, rfl⟩
  have hsuspend := hinit.step (Event.suspend 0 .powerKey .autoSuspend 5000 false {})
    (fun _ _ _ _ => current_initial _) rfl
  have hstart := hsuspend.step (Event.startSleepTimer 0 30000) (fun _ _ hwoken => by cases hwoken) rfl
  have hcheck := hstart.step (Event.timer (.check 0)) (fun _ _ hwoken => by cases hwoken) rfl
  have hrecord := hcheck.step (Event.timer (.record 0)) (fun _ _ hwoken => by cases hwoken) rfl
  have harmed := hrecord.step (Event.timer (.setTimer 0)) (fun _ _ hwoken => by cases hwoken) rfl
  have hlater := harmed.step (Event.timer (.tick 5000)) (fun _ _ hwoken => by cases hwoken) rfl
  have hfired := hlater.step (Event.timer (.fire 0)) (fun _ _ hwoken => by cases hwoken) rfl
  obtain ⟨hcurrent, hdue⟩ := asleep_for_current hfired
    (rfl : next {} _ (.act 0 false {}) = some _) nofun rfl
  exact ⟨_, _, hfired, rfl, rfl, rfl, hcurrent, hdue⟩

/-- A timer that is started after the wakeup puts the device to sleep when it has been suspended again, before
the new delay is over. -/
example : ((system {}).run { machine := { currentState := .awake, display := .on } }
    [.suspend 0 .powerKey .autoSuspend 5000 false {}, .call (.setState .awake .powerKey true {}),
      .startSleepTimer 0 30000, .timer (.check 0), .timer (.record 0), .timer (.setTimer 0), .timer (.tick 3000),
      .suspend 1 .powerKey .autoSuspend 10000 false {}, .startSleepTimer 1 30000, .timer (.check 1),
      .timer (.tick 2000), .timer (.fire 0), .act 0 false {}]).map
        (fun s => (s.machine.currentState, (s.handled 0).wakeups, s.wakeups, s.timer.now)) =
    some (.sleep, 0, 1, 5000) := by
  decide +kernel

/-- With wakeups that find nothing going on, all that goes on was asked for since the last one. -/
theorem current_of_serialized (hreach : (system cfg).Reach (Serialized cfg) s) : s.Current := by
  refine hreach.invariant (I := State.Current) ?_ ?_
  · rintro s ⟨m, rfl⟩
    exact current_initial m
  · intro s s' e hcurrent hserialized hnext x hx
    have hfollows := follows_next hnext
    obtain ⟨y, hy, hxy⟩ | hnew := hfollows.underWay x hx
    · obtain hsame | ⟨hoff, hwoken⟩ := hfollows.wakeups
      · rw [hxy, hsame]
        exact hcurrent y hy
      · exact absurd hy (hserialized s' hnext hoff hwoken y)
    · exact hnew

/-- Such runs are careful. -/
theorem careful_of_serialized (hreach : (system cfg).Reach (Serialized cfg) s) :
    (system cfg).Reach (Careful cfg) s := by
  induction hreach with
  | init hinit => exact .init hinit
  | @step s s' e hreach hserialized hnext ih =>
    exact ih.step e (fun _ _ _ _ => current_of_serialized hreach) hnext

end Results

end PowerMgr.Suspend.InEffect
