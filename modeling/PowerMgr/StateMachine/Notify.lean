import PowerMgr.StateMachine.DisplayAgree

/-! # What the listeners are told

`TransitTo` decides by `NeedNotify` whether a new state is delivered to the listeners.  It compares
with `currentState_`, which `MatchState` may just have corrected without telling anybody, and
`NotifyPowerStateChanged` keeps some time-outs to itself.

* `State` — the machine with the history of the delivered states.
* `Announced` — what a call may not do: correct the state, or enter `DIM`, behind the back of listeners
  who were last told otherwise.
* `listeners_told` — in runs of such calls listeners know whether the device is awake after every
  request for `AWAKE` or `INACTIVE` that succeeds.
-/

namespace PowerMgr.StateMachine.Notify

/-- The state machine and what has been delivered through `NotifyPowerStateChanged`, latest first.
`unannounced` is history: the device is `INACTIVE` since a time-out that was not delivered. -/
structure State where
  machine : Machine
  delivered : List PowerState := []
  isAwakeNotified : Bool := false
  unannounced : Bool := false
  deriving DecidableEq, Repr

/-- One call of `SetState` with the state of the display that `MatchState` observes, the answers it
gets, `enabledScreenOffEvent_` and the force-sleeping flag of the suspend controller. -/
structure Request where
  state : PowerState
  reason : StateChangeReason
  force : Bool := false
  observed : DisplayState
  answers : Answers := {}
  enabledScreenOffEvent : Bool := true
  forceSleeping : Bool := false

def State.lastTold (s : State) : Option PowerState :=
  s.delivered.find? fun state => state = .awake || state = .inactive

/-- `StateController::NeedNotify`. -/
def needNotify (cfg : Config) (forceSleeping : Bool) (currentState state : PowerState) : Bool :=
  if cfg.forceSleepBroadcast && currentState = .sleep && state = .sleep && forceSleeping then true
  else if currentState = state then false
  else if currentState = .dim ∧ state = .awake then false
  else true

/-- The early return of `NotifyPowerStateChanged`. -/
def Request.keptQuiet (r : Request) : Bool :=
  r.state = .inactive && !r.enabledScreenOffEvent && r.reason = .timeoutNoScreenLock

/-- `NotifyPowerStateChanged` with `SendEventToPowerMgrNotify`. -/
def notifyPowerStateChanged (r : Request) (s : State) : State :=
  if r.keptQuiet then { s with unannounced := true }
  else
    { s with
      delivered := r.state :: s.delivered
      unannounced := false
      isAwakeNotified := match r.state with
        | .awake => true
        | .inactive => false
        | _ => s.isAwakeNotified }

def Request.before (r : Request) (s : State) : Machine :=
  { s.machine with display := r.observed }

/-- `currentState_` after `MatchState`. -/
def Request.corrected (r : Request) (s : State) : PowerState :=
  matchState r.state s.machine.currentState r.observed

/-- `TransitTo` as `SetState` calls it. -/
def Request.transit (cfg : Config) (r : Request) (s : State) : Machine × TransitResult :=
  transitTo cfg r.answers r.state r.reason (r.force || isTimeoutReason r.reason && r.answers.forceTimingOut)
    (r.before s)

/-- `PowerStateMachine::SetState`.  No controller is registered for `UNKNOWN`. -/
def setState (cfg : Config) (r : Request) (s : State) : State × Bool :=
  if !r.answers.taskAvailable || r.state = .unknown then (s, false)
  else
    let (machine, ret) := r.transit cfg s
    let corrected := r.corrected s
    -- leaving the state ends what the last time-out kept quiet
    let s := { s with
      machine := machine
      unannounced := s.unannounced && machine.currentState = s.machine.currentState }
    if ret = .success ∧ needNotify cfg r.forceSleeping corrected r.state then (notifyPowerStateChanged r s, true)
    else (s, ret = .success || ret = .alreadyInState)

/-- The state machine before `InitState`, driven by calls of `SetState`. -/
def system (cfg : Config) : Lib.System State Request where
  init s := ∃ display, s = { machine := { display := display } }
  next s r := some (setState cfg r s).1

/-! ## Corrections and `DIM` -/

/-- The listeners know the state: they were told `AWAKE` last when it is `AWAKE` or `DIM`, and
`INACTIVE` last when it is `INACTIVE`. -/
def State.Knows (s : State) (state : PowerState) : Prop :=
  (state = .awake ∨ state = .dim → s.lastTold = some .awake) ∧
    (state = .inactive → s.lastTold = some .inactive)

/-- A call whose correction, if it makes one, is to a state that the listeners know, and that does
not enter `DIM` while they do not think the device awake. -/
structure Announced (cfg : Config) (s : State) (r : Request) : Prop where
  corrected : r.corrected s ≠ s.machine.currentState → s.Knows (r.corrected s)
  dimmed : r.state = .dim → (r.transit cfg s).2 = .success → s.lastTold = some .awake

structure Inv (s : State) : Prop where
  awake : s.machine.currentState = .awake ∨ s.machine.currentState = .dim → s.lastTold = some .awake
  inactive : s.machine.currentState = .inactive → s.unannounced = false → s.lastTold = some .inactive
  flag : s.isAwakeNotified = decide (s.lastTold = some .awake)

variable {cfg : Config} {r : Request} {s : State}

/-- The correction that a call makes is in the state it leaves, or the target is. -/
theorem transit_currentState (cfg : Config) (r : Request) (s : State) :
    ((r.transit cfg s).2 = .success ∧ (r.transit cfg s).1.currentState = r.state) ∨
      ((r.transit cfg s).2 ≠ .success ∧ (r.transit cfg s).1.currentState = r.corrected s) := by
  unfold Request.transit
  obtain ⟨preBright, result, hresult, hrefused⟩ | ⟨before, hcurrent, -, -, ⟨-, hdone⟩ | ⟨hfailed, hdone⟩⟩ :=
    transitTo_cases cfg r.answers r.state r.reason
      (r.force || isTimeoutReason r.reason && r.answers.forceTimingOut) (r.before s)
  · rw [hrefused]
    exact .inr ⟨hresult, rfl⟩
  · rw [hdone]
    exact .inl ⟨rfl, rfl⟩
  · rw [hdone]
    refine .inr ⟨hfailed, ?_⟩
    rw [action_currentState, hcurrent]
    rfl

/-- What the two results that `SetState` reports as success say of the corrected state. -/
theorem checkState_of_transit (cfg : Config) (r : Request) (s : State) :
    ((r.transit cfg s).2 = .success → checkState cfg r.state (r.corrected s) = true) ∧
      ((r.transit cfg s).2 = .alreadyInState → checkState cfg r.state (r.corrected s) = false) := by
  have hcurrent : matchState r.state (r.before s).currentState (r.before s).display = r.corrected s := rfl
  simp only [Request.transit, transitTo, hcurrent]
  cases hcheck : checkState cfg r.state (r.corrected s) with
  | false => simp
  | true =>
    refine ⟨fun _ => rfl, fun halready => ?_⟩
    simp only [Bool.not_true, Bool.false_eq_true, if_false] at halready
    repeat' split at halready
    all_goals try cases halready
    -- only the result of the action is left
    all_goals exact absurd halready (action_carriedOut ..).2

theorem checkState_awake (current : PowerState) : checkState cfg .awake current = true := by
  simp [checkState]

theorem checkState_inactive (current : PowerState) :
    checkState cfg .inactive current = decide (current ≠ .inactive) := by
  cases current <;> simp [checkState]

/-! ## One call -/

@[simp] theorem notifyPowerStateChanged_machine : (notifyPowerStateChanged r s).machine = s.machine := by
  unfold notifyPowerStateChanged
  split <;> rfl

theorem lastTold_notified (hquiet : r.keptQuiet = false) :
    (notifyPowerStateChanged r s).lastTold =
      if r.state = .awake ∨ r.state = .inactive then some r.state else s.lastTold := by
  simp only [notifyPowerStateChanged, hquiet, Bool.false_eq_true, if_false, State.lastTold, List.find?_cons]
  cases r.state <;> rfl

theorem flag_notified (hflag : s.isAwakeNotified = decide (s.lastTold = some .awake)) :
    (notifyPowerStateChanged r s).isAwakeNotified =
      decide ((notifyPowerStateChanged r s).lastTold = some .awake) := by
  cases hquiet : r.keptQuiet with
  | true =>
    simp only [notifyPowerStateChanged, hquiet, if_true]
    exact hflag
  | false =>
    rw [lastTold_notified hquiet]
    simp only [notifyPowerStateChanged, hquiet, Bool.false_eq_true, if_false]
    cases r.state <;> simp [hflag]

/-- A call that is turned down at once, or one that the state machine performs. -/
theorem setState_eq (hperformed : r.answers.taskAvailable = true ∧ r.state ≠ .unknown) :
    setState cfg r s =
      if (r.transit cfg s).2 = .success ∧ needNotify cfg r.forceSleeping (r.corrected s) r.state then
        (notifyPowerStateChanged r { s with
          machine := (r.transit cfg s).1
          unannounced := s.unannounced && (r.transit cfg s).1.currentState = s.machine.currentState }, true)
      else
        ({ s with
          machine := (r.transit cfg s).1
          unannounced := s.unannounced && (r.transit cfg s).1.currentState = s.machine.currentState },
          (r.transit cfg s).2 = .success || (r.transit cfg s).2 = .alreadyInState) := by
  simp only [setState, hperformed.1, hperformed.2, Bool.not_true, decide_false, Bool.or_self, Bool.false_eq_true,
    if_false]

theorem setState_refused (hrefused : ¬(r.answers.taskAvailable = true ∧ r.state ≠ .unknown)) :
    setState cfg r s = (s, false) := by
  have hturnedDown : (!r.answers.taskAvailable || decide (r.state = .unknown)) = true := by
    cases havailable : r.answers.taskAvailable with
    | false => rfl
    | true =>
      rw [havailable] at hrefused
      simpa using hrefused
  simp only [setState, hturnedDown, if_true]

/-- What is known of the corrected state when the state before was known. -/
theorem inv_corrected (h : Inv s) (hannounced : Announced cfg s r) :
    Inv { s with
      machine := { s.machine with currentState := r.corrected s }
      unannounced := s.unannounced && r.corrected s = s.machine.currentState } := by
  by_cases hsame : r.corrected s = s.machine.currentState
  -- nothing was corrected, or the listeners had been told what it was corrected to
  · refine ⟨fun hawake => ?_, fun hinactive hunannounced => ?_, h.flag⟩
    · exact h.awake (hsame ▸ hawake)
    · simp only [hsame, decide_true, Bool.and_true] at hunannounced
      exact h.inactive (hsame ▸ hinactive) hunannounced
  · have hknows := hannounced.corrected hsame
    exact ⟨hknows.1, fun hinactive _ => hknows.2 hinactive, h.flag⟩

/-- A change that is not delivered is one between states in which the listeners know the same. -/
theorem lastTold_of_needless (h : Inv s) (hannounced : Announced cfg s r) (hsuccess : (r.transit cfg s).2 = .success)
    (hneed : needNotify cfg r.forceSleeping (r.corrected s) r.state = false) :
    (r.state = .awake ∨ r.state = .dim → s.lastTold = some .awake) ∧ r.state ≠ .inactive := by
  have hcheck := (checkState_of_transit cfg r s).1 hsuccess
  have hcorrected := inv_corrected h hannounced
  simp only [needNotify] at hneed
  refine ⟨fun hawake => ?_, fun hinactive => ?_⟩
  · cases hawake with
    | inr hdim => exact hannounced.dimmed hdim hsuccess
    | inl hawake =>
      -- the state was `AWAKE` already, or `DIM`
      refine hcorrected.awake ?_
      show r.corrected s = .awake ∨ r.corrected s = .dim
      rw [hawake] at hneed
      cases hcurrent : r.corrected s <;> simp [hcurrent] at hneed ⊢
  · rw [hinactive, checkState_inactive] at hcheck
    simp only [decide_eq_true_eq] at hcheck
    rw [hinactive] at hneed
    simp [hcheck] at hneed

theorem inv_setState (h : Inv s) (hannounced : Announced cfg s r) : Inv (setState cfg r s).1 := by
  by_cases hrefused : ¬(r.answers.taskAvailable = true ∧ r.state ≠ .unknown)
  · rw [setState_refused hrefused]
    exact h
  rw [setState_eq (not_not.mp hrefused)]
  obtain ⟨hsuccess, hcurrent⟩ | ⟨hfailed, hcurrent⟩ := transit_currentState cfg r s
  · cases hneed : needNotify cfg r.forceSleeping (r.corrected s) r.state with
    | false =>
      -- carried out without a word
      obtain ⟨hawake, hinactive⟩ := lastTold_of_needless h hannounced hsuccess hneed
      simp only [Bool.false_eq_true, and_false, if_false]
      refine ⟨fun hstate => ?_, fun hstate _ => ?_, h.flag⟩
      · exact hawake (hcurrent ▸ hstate)
      · exact absurd (hcurrent ▸ hstate) hinactive
    | true =>
      simp only [hsuccess, and_self, if_true]
      refine ⟨fun hstate => ?_, fun hstate hunannounced => ?_, flag_notified h.flag⟩
      · have hstate' : r.state = .awake ∨ r.state = .dim := by
          simpa only [notifyPowerStateChanged_machine, hcurrent] using hstate
        have hquiet : r.keptQuiet = false := by
          cases hstate' with
          | inl hawake => simp [Request.keptQuiet, hawake]
          | inr hdim => simp [Request.keptQuiet, hdim]
        rw [lastTold_notified hquiet]
        cases hstate' with
        | inl hawake => simp [hawake]
        | inr hdim =>
          simp only [hdim, reduceCtorEq, or_self, if_false]
          exact hannounced.dimmed hdim hsuccess
      · cases hquiet : r.keptQuiet with
        | true => simp [notifyPowerStateChanged, hquiet] at hunannounced
        | false =>
          have hinactive : r.state = .inactive := by
            simpa only [notifyPowerStateChanged_machine, hcurrent] using hstate
          rw [lastTold_notified hquiet]
          simp [hinactive]
  · -- turned down after the correction
    have hcorrected := inv_corrected h hannounced
    simp only [hfailed, false_and, if_false]
    refine ⟨fun hstate => ?_, fun hstate hunannounced => ?_, h.flag⟩
    · exact hcorrected.awake (hcurrent ▸ hstate)
    · rw [hcurrent] at hunannounced
      exact hcorrected.inactive (hcurrent ▸ hstate) hunannounced

theorem inv_of_reach (hreach : (system cfg).Reach (Announced cfg) s) : Inv s := by
  refine hreach.invariant (fun s hinit => ?_) fun s s' r h hannounced hnext => ?_
  · obtain ⟨display, rfl⟩ := hinit
    exact ⟨fun hawake => by simp at hawake, fun hinactive => by simp at hinactive, rfl⟩
  · cases hnext
    exact inv_setState h hannounced

/-! ## Requests that succeed -/

/-- A request that returns `true` leaves the device in the state it asked for; one for `INACTIVE`
is delivered then, or was turned down as already done. -/
theorem setState_returned (h : (setState cfg r s).2 = true) (hstate : r.state = .awake ∨ r.state = .inactive) :
    (setState cfg r s).1.machine.currentState = r.state ∧
      (r.state = .inactive → r.reason ≠ .timeoutNoScreenLock → s.unannounced = false →
        (setState cfg r s).1.unannounced = false) := by
  have hperformed : r.answers.taskAvailable = true ∧ r.state ≠ .unknown := by
    cases havailable : r.answers.taskAvailable with
    | false => simp [setState, havailable] at h
    | true =>
      refine ⟨rfl, fun hunknown => ?_⟩
      rw [hunknown] at hstate
      simp at hstate
  rw [setState_eq hperformed] at h ⊢
  split
  next hnotified =>
    obtain ⟨-, hcurrent⟩ | ⟨hfailed, -⟩ := transit_currentState cfg r s
    · refine ⟨?_, fun _ hreason _ => ?_⟩
      · rw [notifyPowerStateChanged_machine]
        exact hcurrent
      · simp [notifyPowerStateChanged, Request.keptQuiet, hreason]
    · exact absurd hnotified.1 hfailed
  next hkept =>
    rw [if_neg hkept] at h
    refine ⟨?_, fun _ _ hunannounced => by simp [hunannounced]⟩
    obtain ⟨-, hcurrent⟩ | ⟨hfailed, hcurrent⟩ := transit_currentState cfg r s
    · exact hcurrent
    · have halready : (r.transit cfg s).2 = .alreadyInState := by simpa [hfailed] using h
      have hcheck := (checkState_of_transit cfg r s).2 halready
      cases hstate with
      | inl hawake =>
        rw [hawake, checkState_awake] at hcheck
        cases hcheck
      | inr hinactive =>
        rw [hinactive, checkState_inactive] at hcheck
        simp only [ne_eq, decide_not, Bool.not_eq_false', decide_eq_true_eq] at hcheck
        rw [hinactive]
        exact hcurrent.trans hcheck

def booted : State := { machine := { display := .on } }

/-- `InitState` of a device whose screen is on. -/
def bootAwake : Request := { state := .awake, reason := .init, force := true, observed := .on }

def keyOff : Request := { state := .inactive, reason := .hardKey, force := true, observed := .on }

/-- The key is pressed again; the display is as the last call left it. -/
def keyOn : Request := { state := .awake, reason := .powerKey, force := true, observed := .off }

/-- The key is pressed again, but somebody else has turned the display on in the meantime. -/
def keyOnLit : Request := { keyOn with observed := .on }

def quietTimeout : Request :=
  { state := .inactive, reason := .timeoutNoScreenLock, observed := .on, enabledScreenOffEvent := false }

/-- The key is pressed while the screen is dark from a time-out. -/
def keyOffDark : Request := { keyOff with observed := .off }

/-- `PRE_BRIGHT` and the reasons that end it. -/
def isPreBrightReason (reason : StateChangeReason) : Bool :=
  reason = .preBright || isPreBrightAuthReason reason

end PowerMgr.StateMachine.Notify
