import PowerMgr.StateMachine.Transit
import Mathlib.Logic.Function.Basic

/-! # The timers that turn the screen off

Embedding of everything that sets or cancels `TIMER_ID_USER_ACTIVITY_TIMEOUT` and
`TIMER_ID_USER_ACTIVITY_OFF` (`power_state_machine.cpp`): `ResetInactiveTimer`, the actions of
`EmplaceAwake`, `EmplaceDim` and `EmplaceInactive` inside `SetState`, `RefreshActivityInner`,
`SetDisplayOffTime` with its callers, `SetForceTimingOut`, the action of the `SCREEN` lock counter
(`running_lock_mgr.cpp`), a `RebootDevice` or `ShutDownDevice` that is taken over
(`power_mgr_service.cpp`, `shutdown_controller.cpp`), and the tasks of the two timers.

* `Timer` — a timer with the number of its registered task;
* `Stage` — where a thread stands: every access to a timer, to a flag, to `displayOffTime_` or to
  the lock counter is a step of its own;
* `State`, `next` — any number of threads, whose steps interleave.

Display actions succeed, the timeout suspend source has an action, and the build is the default one.
-/

namespace PowerMgr.StateMachine.ScreenTimers

/-- A timer: nothing registered, or a registered task that waits in the queue or has started.  Live
tasks are told apart by their numbers. -/
inductive Timer where
  | idle
  | queued (task : Nat)
  | started (task : Nat)
  deriving DecidableEq, Repr

def Timer.isQueued : Timer → Bool
  | .queued _ => true
  | _ => false

/-- `settingStateFlag_`. -/
inductive SettingStateFlag where
  | none
  | setting (state : PowerState)
  | settingDimInterrupted
  deriving DecidableEq, Repr

/-- The requests made: by the task of `TIMEOUT` for `DIM`, by the task of `OFF` for `INACTIVE`, and
for `AWAKE` by `RefreshActivityInner` (forced) and `SetForceTimingOut`. -/
inductive Request where
  | dim (task : Nat)
  | inactive (task : Nat)
  | awake (force : Bool)
  deriving DecidableEq, Repr

def Request.state : Request → PowerState
  | .dim _ => .dim
  | .inactive _ => .inactive
  | .awake _ => .awake

def Request.reason : Request → StateChangeReason
  | .dim _ | .inactive _ => .timeout
  | .awake _ => .refresh

def Request.force : Request → Bool
  | .dim _ | .inactive _ => false
  | .awake force => force

/-- The next access of `ResetInactiveTimer`. -/
inductive Reset where
  | flag
  | cancelTimeout
  | cancelOff
  | displayOffTime
  | setTimeout
  deriving DecidableEq, Repr

/-- Who has called `ResetInactiveTimer`: a caller that does nothing afterwards, the action of
`AWAKE`, the action of `DIM` that was interrupted, or `SetForceTimingOut`, which holds `stateMutex_`. -/
inductive ResetCaller where
  | plain
  | awake
  | dimInterrupted
  | forceTimingOut
  deriving DecidableEq, Repr

/-- What a thread does next. -/
inductive Stage where
  -- `RefreshActivityInner`: `IsScreenOn()`, `IsSettingState(INACTIVE)`, `GetState()`,
  -- `IsSettingState(DIM)`
  | refreshScreenOn
  | refreshSettingInactive
  | refreshState
  | refreshSettingDim
  -- `SetDisplayOffTime`: the store, and the check of `currentState_`; `overNegative` says whether
  -- it has replaced a negative time by another one
  | storeDisplayOffTime (time : Int)
  | displayOffTimeStored (overNegative : Bool)
  -- `SetForceTimingOut`: `IsRunningLockEnabled(SCREEN)`, the exchange, `IsSettingState(DIM)`, the
  -- `try_lock` and the check of the state under it
  | forceLockActive (enabled : Bool)
  | forceExchange (enabled lockActive : Bool)
  | forceSettingDim (enabled : Bool)
  | forceTryLock
  | forceState
  -- the action of the last unlock: `GetState()`
  | unlockState
  -- a reboot or shutdown: two cancellations, `started_`, the takeover callbacks
  | rebootCancelTimeout
  | rebootCancelOff
  | rebootStart
  | rebootTakenOver
  -- `ControlListener` of the task of `OFF`: `CheckDialogAndShuttingDown`, `IsScreenOn()`
  | offShuttingDown (task : Nat)
  | offScreenOn (task : Nat)
  -- `SetState`: `stateMutex_`, `CheckFFRTTaskAvailability`, the constructor of `SettingStateFlag`,
  -- `forceTimingOut_`, and `TransitTo` up to the action
  | request (r : Request)
  | available (r : Request)
  | settingFlag (r : Request)
  | timingOut (r : Request)
  | transit (r : Request) (force : Bool)
  -- the action of `DIM` and its store to `currentState_`
  | dimCheck
  | dimDisplay
  | dimCancelTimeout
  | dimCancelOff
  | dimDisplayOffTime
  | dimSetOff
  | dimFlag
  | dimCommit
  -- the action of `INACTIVE` and its store
  | inactiveDisplay
  | inactiveCancelTimeout
  | inactiveCancelOff
  | inactiveCommit
  -- the action of `AWAKE` before and after `ResetInactiveTimer`
  | awakeDisplay
  | awakeCommit
  | reset (next : Reset) (caller : ResetCaller)
  -- the destructors of `SettingStateFlag` and of the lock
  | restoreFlag
  | release
  deriving DecidableEq, Repr

/-- `IsNeverSleepDimEnabled()`. -/
structure Config where
  neverSleepDim : Bool := false

/-- `screenLocks` is the counter of the `SCREEN` locks, and the number of those that are `ENABLE`;
`started` is the flag of the shutdown controller. -/
structure State where
  currentState : PowerState := .awake
  display : DisplayState := .on
  displayOffTime : Int := 30000
  isScreenOffTimeOverride : Bool := false
  beforeOverrideTime : Int := -1
  forceTimingOut : Bool := false
  settingStateFlag : SettingStateFlag := .none
  screenLocks : Nat := 0
  started : Bool := false
  timeout : Timer := .idle
  off : Timer := .idle
  count : Nat := 0
  stateMutex : Option Nat := none
  threads : Nat → Option Stage := fun _ => none

/-- The calls, each by a thread of its own, the tasks of the two timers as they start, and the next
step of a thread.  `throttled` is the answer of `CheckRefreshTime`. -/
inductive Event where
  | refreshActivity (thread : Nat) (throttled : Bool)
  | setDisplayOffTime (thread : Nat) (time : Int)
  | overrideScreenOffTime (thread : Nat) (timeout : Int)
  | restoreScreenOffTime (thread : Nat)
  | setForceTimingOut (thread : Nat) (enabled : Bool)
  | lock (thread : Nat) (throttled : Bool)
  | unLock (thread : Nat)
  | reboot (thread : Nat)
  | fireTimeout (thread : Nat)
  | fireOff (thread : Nat)
  | advance (thread : Nat)
  deriving DecidableEq, Repr

/-! ## Steps -/

def State.goto (s : State) (thread : Nat) (stage : Stage) : State :=
  { s with threads := Function.update s.threads thread (some stage) }

def State.done (s : State) (thread : Nat) : State :=
  { s with threads := Function.update s.threads thread none }

theorem State.goto_threads (s : State) (thread : Nat) (stage : Stage) :
    (s.goto thread stage).threads = Function.update s.threads thread (some stage) :=
  rfl

theorem State.done_threads (s : State) (thread : Nat) :
    (s.done thread).threads = Function.update s.threads thread none :=
  rfl

@[simp] theorem State.goto_self (s : State) (thread : Nat) (stage : Stage) :
    (s.goto thread stage).threads thread = some stage :=
  Function.update_self ..

theorem State.goto_ne (s : State) {thread other : Nat} (stage : Stage) (hne : other ≠ thread) :
    (s.goto thread stage).threads other = s.threads other :=
  Function.update_of_ne hne ..

def State.isSettingState (s : State) (state : PowerState) : Bool :=
  s.settingStateFlag = .setting state

def State.isScreenOn (s : State) : Bool :=
  isOnState s.display

/-- `CheckFFRTTaskAvailability`. -/
def State.taskAvailable (s : State) : Request → Bool
  | .dim task => s.timeout = .started task
  | .inactive task => s.off = .started task
  | .awake _ => true

/-- What `TransitTo` asks `RunningLockMgr`. -/
def State.answers (s : State) : Answers where
  validRunningLockNum type := if type = .screen then s.screenLocks else 0

def State.admits (s : State) (r : Request) (force : Bool) : Bool :=
  checkState {} r.state s.currentState && canTransitTo {} s.answers s.currentState r.state r.reason &&
    (force || checkRunningLock s.answers r.state)

def Request.action : Request → Stage
  | .dim _ => .dimCheck
  | .inactive _ => .inactiveDisplay
  | .awake _ => .awakeDisplay

/-- `MatchState`. -/
def State.matched (s : State) (r : Request) : State :=
  { s with currentState := matchState r.state s.currentState s.display }

def State.setTimeout (s : State) : State :=
  { s with timeout := .queued s.count, count := s.count + 1 }

def State.setOff (s : State) : State :=
  { s with off := .queued s.count, count := s.count + 1 }

def State.resetOver (s : State) (thread : Nat) : ResetCaller → State
  | .plain => s.done thread
  | .awake => s.goto thread .awakeCommit
  | .dimInterrupted => s.goto thread .restoreFlag
  | .forceTimingOut => s.goto thread .release

/-- `ResetInactiveTimer`: the flag of a `DIM` being set is replaced, both timers are cancelled, and
`TIMEOUT` is set again unless the display never goes off. -/
def advanceReset (cfg : Config) (s : State) (thread : Nat) (caller : ResetCaller) : Reset → State
  | .flag =>
    -- the compare-and-exchange
    { s with
      settingStateFlag := if s.isSettingState .dim then .settingDimInterrupted else s.settingStateFlag }.goto thread
      (.reset .cancelTimeout caller)
  | .cancelTimeout => { s with timeout := .idle }.goto thread (.reset .cancelOff caller)
  | .cancelOff => { s with off := .idle }.goto thread (.reset .displayOffTime caller)
  | .displayOffTime =>
    if s.displayOffTime < 0 ∧ cfg.neverSleepDim = false then s.resetOver thread caller
    else s.goto thread (.reset .setTimeout caller)
  | .setTimeout => s.setTimeout.resetOver thread caller

/-- The next step of a thread; `none` while it waits for `stateMutex_`. -/
def advance (cfg : Config) (s : State) (thread : Nat) : Stage → Option State
  | .refreshScreenOn => some (if s.isScreenOn then s.goto thread .refreshSettingInactive else s.done thread)
  | .refreshSettingInactive =>
    some (if s.isSettingState .inactive then s.done thread else s.goto thread .refreshState)
  | .refreshState =>
    some (s.goto thread (if s.currentState = .dim then .request (.awake true) else .refreshSettingDim))
  | .refreshSettingDim =>
    some (s.goto thread (if s.isSettingState .dim then .request (.awake true) else .reset .flag .plain))
  | .storeDisplayOffTime time =>
    some ({ s with displayOffTime := time }.goto thread
      (.displayOffTimeStored (decide (s.displayOffTime < 0 ∧ 0 ≤ time))))
  | .displayOffTimeStored _ =>
    some (if s.currentState = .awake then s.goto thread (.reset .flag .plain) else s.done thread)
  | .forceLockActive enabled => some (s.goto thread (.forceExchange enabled (decide (0 < s.screenLocks))))
  | .forceExchange enabled lockActive =>
    let t := { s with forceTimingOut := enabled }
    some (if s.forceTimingOut = enabled ∨ lockActive = false then t.done thread
      else t.goto thread (.forceSettingDim enabled))
  | .forceSettingDim enabled =>
    some (if s.isSettingState .dim then s.done thread
      else s.goto thread (if enabled then .forceTryLock else .request (.awake false)))
  | .forceTryLock =>
    some (if s.stateMutex = none then { s with stateMutex := some thread }.goto thread .forceState
      else s.done thread)
  | .forceState =>
    some (s.goto thread (if s.currentState = .awake then .reset .flag .forceTimingOut else .release))
  | .unlockState =>
    some (if s.currentState = .awake then s.goto thread (.reset .flag .plain) else s.done thread)
  | .rebootCancelTimeout => some ({ s with timeout := .idle }.goto thread .rebootCancelOff)
  | .rebootCancelOff => some ({ s with off := .idle }.goto thread .rebootStart)
  | .rebootStart =>
    some (if s.started then s.done thread else { s with started := true }.goto thread .rebootTakenOver)
  | .rebootTakenOver => some ({ s with started := false }.done thread)
  | .offShuttingDown task => some (if s.started then s.done thread else s.goto thread (.offScreenOn task))
  | .offScreenOn task => some (if s.isScreenOn then s.goto thread (.request (.inactive task)) else s.done thread)
  | .request r =>
    if s.stateMutex = none then some ({ s with stateMutex := some thread }.goto thread (.available r)) else none
  | .available r => some (s.goto thread (if s.taskAvailable r then .settingFlag r else .release))
  | .settingFlag r => some ({ s with settingStateFlag := .setting r.state }.goto thread (.timingOut r))
  | .timingOut r =>
    some (s.goto thread (.transit r (r.force || isTimeoutReason r.reason && s.forceTimingOut)))
  | .transit r force =>
    -- `HandlePreBrightState` has nothing to do: no pre-bright window is open
    some ((s.matched r).goto thread (if (s.matched r).admits r force then r.action else .restoreFlag))
  | .dimCheck =>
    some (s.goto thread (if cfg.neverSleepDim = false ∧ s.displayOffTime < 0 then .restoreFlag else .dimDisplay))
  | .dimDisplay => some ({ s with display := .dim }.goto thread .dimCancelTimeout)
  | .dimCancelTimeout => some ({ s with timeout := .idle }.goto thread .dimCancelOff)
  | .dimCancelOff => some ({ s with off := .idle }.goto thread .dimDisplayOffTime)
  | .dimDisplayOffTime => some (s.goto thread (if s.displayOffTime < 0 then .dimFlag else .dimSetOff))
  | .dimSetOff => some (s.setOff.goto thread .dimFlag)
  | .dimFlag =>
    -- a refresh that came in between turns the display on again
    some (if s.settingStateFlag = .settingDimInterrupted then
        { s with display := .on }.goto thread (.reset .flag .dimInterrupted)
      else s.goto thread .dimCommit)
  | .dimCommit => some ({ s with currentState := .dim }.goto thread .restoreFlag)
  | .inactiveDisplay => some ({ s with display := .off }.goto thread .inactiveCancelTimeout)
  | .inactiveCancelTimeout => some ({ s with timeout := .idle }.goto thread .inactiveCancelOff)
  | .inactiveCancelOff => some ({ s with off := .idle }.goto thread .inactiveCommit)
  | .inactiveCommit => some ({ s with currentState := .inactive }.goto thread .restoreFlag)
  | .awakeDisplay => some ({ s with display := .on }.goto thread (.reset .flag .awake))
  | .awakeCommit => some ({ s with currentState := .awake }.goto thread .restoreFlag)
  | .reset access caller => some (advanceReset cfg s thread caller access)
  | .restoreFlag => some ({ s with settingStateFlag := .none }.goto thread .release)
  | .release => some ({ s with stateMutex := none }.done thread)

/-- A call by a thread that is not busy. -/
def State.call (s : State) (thread : Nat) (stage : Stage) : Option State :=
  if s.threads thread = none then some (s.goto thread stage) else none

def next (cfg : Config) (s : State) : Event → Option State
  | .refreshActivity thread throttled => if throttled then some s else s.call thread .refreshScreenOn
  | .setDisplayOffTime thread time => s.call thread (.storeDisplayOffTime time)
  | .overrideScreenOffTime thread timeout =>
    let beforeOverrideTime := if s.isScreenOffTimeOverride then s.beforeOverrideTime else s.displayOffTime
    { s with isScreenOffTimeOverride := true, beforeOverrideTime := beforeOverrideTime }.call thread
      (.storeDisplayOffTime timeout)
  | .restoreScreenOffTime thread =>
    -- the flag is cleared at the end; until then `screenMutex_` keeps the next override out
    if s.isScreenOffTimeOverride then
      { s with isScreenOffTimeOverride := false }.call thread (.storeDisplayOffTime s.beforeOverrideTime)
    else some s
  | .setForceTimingOut thread enabled => s.call thread (.forceLockActive enabled)
  | .lock thread throttled =>
    -- the first lock refreshes
    if s.screenLocks = 0 ∧ throttled = false then { s with screenLocks := 1 }.call thread .refreshScreenOn
    else some { s with screenLocks := s.screenLocks + 1 }
  | .unLock thread =>
    match s.screenLocks with
    | 0 => none
    | 1 => { s with screenLocks := 0 }.call thread .unlockState
    | n + 2 => some { s with screenLocks := n + 1 }
  | .reboot thread => s.call thread .rebootCancelTimeout
  | .fireTimeout thread =>
    match s.timeout with
    | .queued task => { s with timeout := .started task }.call thread (.request (.dim task))
    | _ => none
  | .fireOff thread =>
    match s.off with
    | .queued task => { s with off := .started task }.call thread (.offShuttingDown task)
    | _ => none
  | .advance thread => (s.threads thread).bind (advance cfg s thread)

/-- The display is on after `InitState`, for which `TIMEOUT` was set unless the display never goes
off. -/
def booted (cfg : Config) (displayOffTime : Int) : State where
  displayOffTime := displayOffTime
  timeout := if displayOffTime < 0 ∧ cfg.neverSleepDim = false then .idle else .queued 0
  count := 1

def system (cfg : Config) : Lib.System State Event where
  init s := ∃ displayOffTime, s = booted cfg displayOffTime
  next := next cfg

end PowerMgr.StateMachine.ScreenTimers
