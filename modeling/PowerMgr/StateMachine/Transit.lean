import PowerMgr.Types
import PowerMgr.Lib.System

/-! # The power state machine: one request

Embedding of `PowerStateMachine::SetState` and `StateController::TransitTo`
(`power_state_machine.cpp`) with the actions of the target states, and of
`DeviceStateAction::SetDisplayState` (`device_state_action.cpp`).

* `Machine` — `currentState_`, the state of the display and `preBrightState_`;
* `Answers` — what the rest of the system says while a request is handled: running locks,
  sensors, settings and whether the display service carries out what it is asked;
* `transitTo` — the correction by `MatchState`, the checks in their order, the action, and the
  new state on success.

A request holds `stateMutex_` from beginning to end, so requests are atomic here.  Timers,
notifications, statistics and the settings flags are not part of this model.
-/

namespace PowerMgr.StateMachine

/-- Build switches that the transitions depend on. -/
structure Config where
  -- `POWER_MANAGER_POWER_ENABLE_S4`
  enableS4 : Bool := false
  -- `POWER_MANAGER_ENABLE_SCREEN_DECOUPLING`
  screenDecoupling : Bool := false
  -- `POWER_MANAGER_ENABLE_FORCE_SLEEP_BROADCAST`
  forceSleepBroadcast : Bool := false
  -- `HAS_SENSORS_SENSOR_PART`
  hasSensors : Bool := true
  -- `MSDP_MOVEMENT_ENABLE`
  movementEnable : Bool := false
  -- `POWER_MANAGER_TAKEOVER_SUSPEND`
  takeoverSuspend : Bool := false
  deriving DecidableEq, Repr

inductive TransitResult where
  | success
  | alreadyInState
  | locking
  | hdiErr
  | displayOnErr
  | displayOffErr
  | forbidTransit
  | preBrightErr
  | takenOver
  | otherErr
  deriving DecidableEq, Repr

inductive PreBrightState where
  | unstart
  | started
  | finished
  deriving DecidableEq, Repr

/-- The state machine as far as a request reads and writes it. -/
structure Machine where
  currentState : PowerState := .unknown
  display : DisplayState
  preBrightState : PreBrightState := .unstart
  deriving DecidableEq, Repr

/-- What a request is told by the rest of the system.  `validRunningLockNum` is
`RunningLockMgr::GetValidRunningLockNum`; `displayOk` and `restoreOk` say whether the display
service carries out the (second) display change of an action. -/
structure Answers where
  taskAvailable : Bool := true
  forceTimingOut : Bool := false
  validRunningLockNum : RunningLockType → Nat := fun _ => 0
  proximityClose : Bool := false
  inLidMode : Bool := false
  movementOn : Bool := false
  dozeEnabled : Bool := false
  takenOver : Bool := false
  timerUp : Bool := true
  neverSleepDim : Bool := false
  displayOffTime : Int := 30000
  dimInterrupted : Bool := false
  displayOk : Bool := true
  restoreOk : Bool := true

/-! ## The display -/

/-- `DeviceStateAction::IsOnState`. -/
def isOnState (state : DisplayState) : Bool :=
  state = .on || state = .dim

/-- `DeviceStateAction::SetDisplayState`; `ok` is what the display service (or, for a screen that
is going off, `IsInterruptingScreenOff`) answers.  A change that fails leaves the display alone. -/
def setDisplayState (ok : Bool) (state : DisplayState) (reason : StateChangeReason) (m : Machine) :
    Machine × Bool :=
  if state = m.display ∧ reason ≠ .preBrightAuthFailScreenOff then (m, true)
  else if reason = .preBrightAuthFailScreenOff ∧ isOnState m.display then (m, true)
  else if ok then ({ m with display := state }, true)
  else (m, false)

/-- `PowerStateMachine::IsScreenOn`. -/
def isScreenOn (cfg : Config) (m : Machine) : Bool :=
  if cfg.screenDecoupling then m.currentState = .awake else isOnState m.display

/-! ## Which transitions are admitted -/

/-- `forbidMap_`, as `InitTransitMap` fills it. -/
def forbidMap (cfg : Config) : PowerState → List PowerState
  | .awake => (if cfg.enableS4 then [.sleep] else [.sleep, .hibernate]) ++
      (if cfg.screenDecoupling then [.dim] else [])
  | .inactive => [.dim]
  | .dim => [.sleep]
  | .sleep => [.dim]
  | .hibernate => if cfg.enableS4 then [.sleep] else []
  | _ => []

/-- `allowMapByReason_`, as `InitAllowMapByReason` fills it: the reasons that admit only the
listed transitions. -/
def allowMapByReason : StateChangeReason → Option (PowerState → List PowerState)
  | .refresh => some fun
    | .dim => [.awake]
    | .awake => [.awake]
    | _ => []
  | .timeout => some fun
    | .awake => [.dim, .inactive]
    | .dim => [.inactive]
    | .inactive => [.sleep]
    | _ => []
  | .timeoutNoScreenLock => some fun
    | .dim => [.inactive]
    | .awake => [.inactive]
    | _ => []
  | .rollbackHibernate => some fun
    | .awake => [.inactive]
    | .inactive => [.sleep]
    | .hibernate => [.inactive]
    | _ => []
  | _ => none

/-- Double click, pick-up and plugging in do not light the screen during a call, with the lid
closed or while moving. -/
def wakeupSuppressed (cfg : Config) (answers : Answers) (target : PowerState) (reason : StateChangeReason) : Bool :=
  (reason = .doubleClick || reason = .pickup || reason = .plugChange) && target = .awake &&
    (cfg.hasSensors && (answers.proximityClose || answers.inLidMode && reason = .pickup) ||
      cfg.movementEnable && answers.movementOn && (reason = .doubleClick || reason = .pickup))

/-- `PowerStateMachine::CanTransitTo`. -/
def canTransitTo (cfg : Config) (answers : Answers) (current target : PowerState) (reason : StateChangeReason) : Bool :=
  if target ∈ forbidMap cfg current then false
  else if wakeupSuppressed cfg answers target reason then false
  else if reason = .proximity ∧ target = .inactive ∧ answers.validRunningLockNum .proximityScreenControl = 0 then false
  else match allowMapByReason reason with
    | none => true
    | some allowed => target ∈ allowed current

/-- `lockMap_`: the running locks that block a state. -/
def lockMap : PowerState → List RunningLockType
  | .inactive => [.screen]
  | .sleep => [.coordination]
  | _ => []

/-- `PowerStateMachine::CheckRunningLock`; `DIM` is blocked as `INACTIVE` is. -/
def checkRunningLock (answers : Answers) (state : PowerState) : Bool :=
  let state := if state = .dim then .inactive else state
  (lockMap state).all fun type => answers.validRunningLockNum type = 0

/-- `PowerStateMachine::IsPreBrightAuthReason`. -/
def isPreBrightAuthReason : StateChangeReason → Bool
  | .preBrightAuthSuccess | .preBrightAuthFailScreenOn | .preBrightAuthFailScreenOff => true
  | _ => false

/-- `PowerStateMachine::HandlePreBrightState`. -/
def handlePreBrightState (answers : Answers) (target : PowerState) (reason : StateChangeReason) (m : Machine) :
    Machine × Bool :=
  if reason = .preBright then
    if answers.timerUp then ({ m with preBrightState := .started }, true) else (m, false)
  else if isPreBrightAuthReason reason then
    if m.preBrightState = .started then ({ m with preBrightState := .finished }, true) else (m, false)
  else if target ≠ .sleep then ({ m with preBrightState := .unstart }, true)
  else (m, true)

/-! ## Actions -/

/-- The display state that the action of `EmplaceAwake` asks for. -/
def awakeDisplay (answers : Answers) (reason : StateChangeReason) : DisplayState :=
  if reason = .preBrightAuthFailScreenOff then (if answers.dozeEnabled then .doze else .off) else .on

/-- The action of `EmplaceAwake`. -/
def actionAwake (answers : Answers) (reason : StateChangeReason) (m : Machine) : Machine × TransitResult :=
  let (m, ok) := setDisplayState answers.displayOk (awakeDisplay answers reason) reason m
  if ok then (m, .success) else (m, .displayOnErr)

/-- The display state that the action of `EmplaceInactive` asks for. -/
def inactiveDisplay (answers : Answers) (reason : StateChangeReason) : DisplayState :=
  if reason ≠ .switchSensorhub ∧ answers.dozeEnabled then .doze else .off

/-- The action of `EmplaceInactive`. -/
def actionInactive (cfg : Config) (answers : Answers) (reason : StateChangeReason) (m : Machine) :
    Machine × TransitResult :=
  if cfg.takeoverSuspend ∧ answers.takenOver then (m, .takenOver)
  else
    let (m, ok) := setDisplayState answers.displayOk (inactiveDisplay answers reason) reason m
    if ok then (m, .success) else (m, .displayOffErr)

/-- The action of `EmplaceDim`: a refresh that comes in between turns the display on again. -/
def actionDim (answers : Answers) (reason : StateChangeReason) (m : Machine) : Machine × TransitResult :=
  if !answers.neverSleepDim && decide (answers.displayOffTime < 0) then (m, .otherErr)
  else
    let (m, ok) := setDisplayState answers.displayOk .dim reason m
    if answers.dimInterrupted then
      ((setDisplayState answers.restoreOk .on .refresh m).1, .otherErr)
    else if ok then (m, .success) else (m, .otherErr)

def action (cfg : Config) (answers : Answers) (state : PowerState) (reason : StateChangeReason) (m : Machine) :
    Machine × TransitResult :=
  match state with
  | .awake => actionAwake answers reason m
  | .inactive => actionInactive cfg answers reason m
  | .dim => actionDim answers reason m
  | _ => (m, .success)

/-! ## Transitions -/

/-- `StateController::MatchState`: what `currentState_` is corrected to, given the display. -/
def matchState (target current : PowerState) (display : DisplayState) : PowerState :=
  if target = .sleep ∨ current = .sleep ∨ target = .hibernate ∨ current = .hibernate ∨
      target = .shutdown ∨ current = .shutdown then current
  else match display with
    | .off => if current = .awake ∨ current = .freeze then .inactive else current
    | .dim => if current = .inactive ∨ current = .standBy ∨ current = .doze then .dim else current
    | .on => if current = .inactive ∨ current = .standBy ∨ current = .doze then .awake else current
    | _ => current

/-- `StateController::CheckState`. -/
def checkState (cfg : Config) (target current : PowerState) : Bool :=
  target = .dim || cfg.forceSleepBroadcast && target = .sleep || target = .awake || target ≠ current

/-- `StateController::TransitTo`. -/
def transitTo (cfg : Config) (answers : Answers) (state : PowerState) (reason : StateChangeReason)
    (ignoreLock : Bool) (m : Machine) : Machine × TransitResult :=
  let m := { m with currentState := matchState state m.currentState m.display }
  if !checkState cfg state m.currentState then (m, .alreadyInState)
  else if reason ≠ .init ∧ canTransitTo cfg answers m.currentState state reason = false then (m, .forbidTransit)
  else if !ignoreLock && !checkRunningLock answers state then (m, .locking)
  else
    let (m, bright) := handlePreBrightState answers state reason m
    if !bright then (m, .preBrightErr)
    else
      let (m, ret) := action cfg answers state reason m
      if ret = .success then ({ m with currentState := state }, ret) else (m, ret)

/-- `PowerStateMachine::IsTimeoutReason`. -/
def isTimeoutReason (reason : StateChangeReason) : Bool :=
  reason = .timeoutNoScreenLock || reason = .timeout

/-- `PowerStateMachine::SetState`. -/
def setState (cfg : Config) (answers : Answers) (state : PowerState) (reason : StateChangeReason)
    (force : Bool) (m : Machine) : Machine × Bool :=
  if !answers.taskAvailable then (m, false)
  else
    let force := force || isTimeoutReason reason && answers.forceTimingOut
    let (m, ret) := transitTo cfg answers state reason force m
    (m, ret = .success || ret = .alreadyInState)

/-- `PowerStateMachine::SetDozeMode`. -/
def setDozeMode (cfg : Config) (ok : Bool) (state : DisplayState) (m : Machine) : Machine × Bool :=
  if isScreenOn cfg m then (m, false) else setDisplayState ok state .switchingDozeMode m

/-- `PowerStateMachine::InitState`; `switchScreenOn` is the answer of the switch action of a
folding device. -/
def initState (cfg : Config) (answers : Answers) (switchScreenOn : Bool) (m : Machine) : Machine × Bool :=
  if cfg.screenDecoupling then setState cfg answers .awake .init true m
  else if isScreenOn cfg m || switchScreenOn then setState cfg answers .awake .init true m
  else setState cfg answers .inactive .init true m

/-! ## Runs -/

/-- The calls that change the power state or the display. -/
inductive Call where
  | setState (state : PowerState) (reason : StateChangeReason) (force : Bool) (answers : Answers)
  | setDozeMode (state : DisplayState) (ok : Bool)

def requested (cfg : Config) : PowerState → Bool
  | .awake | .inactive | .dim | .sleep => true
  | .hibernate => cfg.enableS4
  | _ => false

/-- The display states that `WakeupDevice` passes to `SetDozeMode`. -/
def isDozeMode : DisplayState → Bool
  | .doze | .dozeSuspend | .off => true
  | _ => false

/-- One call, for a target that the service asks for. -/
def next (cfg : Config) (m : Machine) : Call → Option Machine
  | .setState state reason force answers =>
    if requested cfg state then some (setState cfg answers state reason force m).1 else none
  | .setDozeMode state ok =>
    if isDozeMode state then some (setDozeMode cfg ok state m).1 else none

/-- The state machine from the states that `init` admits. -/
def system (cfg : Config) (init : Machine → Prop) : Lib.System Machine Call where
  init := init
  next := next cfg

/-- The machine after `InitState`, from any state of the display, with the result of its request. -/
def Initialised (cfg : Config) (result : Bool) (m : Machine) : Prop :=
  ∃ display answers switchScreenOn, initState cfg answers switchScreenOn { display := display } = (m, result)

end PowerMgr.StateMachine
