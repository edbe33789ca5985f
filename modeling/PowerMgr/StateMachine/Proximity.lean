import PowerMgr.StateMachine.DisplayAgree

/-! # Turning the screen off at the ear

While a proximity lock is held, a close event arms a timer whose task asks for `INACTIVE`, and an away
event asks for `AWAKE`.  Every request looks at `proximityScreenOffTimerStarted_` first and cancels the
timer when it is set.  The flag is stored by the handler that arms the timer, by the task when it
starts and by whoever cancels, each in a step of its own, and a task that has started is not stopped
by a cancellation: it waits for `stateMutex_` like every other request.

* `State`, `next` — the handlers of sensor events, the timer with its tasks and the requests, step by
  step; any number of each may be under way.
* `Careful` — the steps after which the flag is right again, and no task is overtaken by the last away
  event.
* `screen_lit_when_away` — in runs of such steps the flag tells whether a task is queued, and nothing
  turns the screen off once an away event has been handled.
-/

namespace PowerMgr.StateMachine.Proximity

/-- The reasons of everybody but the sensor. -/
abbrev OtherReason :=
  { reason : StateChangeReason // reason ≠ .proximity }

/-- Who asks for a state: the handler of an away event, a task of the timer, or anybody else. -/
inductive Caller where
  | away
  | task
  | other (state : PowerState) (reason : OtherReason) (force : Bool)
  deriving DecidableEq, Repr

def Caller.state : Caller → PowerState
  | .away => .awake
  | .task => .inactive
  | .other state _ _ => state

def Caller.reason : Caller → StateChangeReason
  | .away | .task => .proximity
  | .other _ reason _ => reason.val

def Caller.force : Caller → Bool
  | .away | .task => true
  | .other _ _ force => force

/-- Where the holder of `stateMutex_` is in `SetState`: before `HandleProximityScreenOffTimer`, before
and after `CancelTimer` in `CancelDelayTimer`, and before `TransitTo`. -/
inductive Phase where
  | entered
  | cancelling
  | clearing
  | ready
  deriving DecidableEq, Repr

/-- `isClose` is the flag of the `ProximityController`.  The handlers of close events have set it and
are about to set the timer (`closing`) or about to store the flag (`arming`); those of away events are
about to call `SetState` (`awaying`).  Tasks of the timer have started and are about to clear the flag
(`fired`) or about to call `SetState` (`waiting`). -/
structure State where
  isClose : Bool := false
  proximityScreenOffTimerStarted : Bool := false
  queued : Bool := false
  closing : Nat := 0
  arming : Nat := 0
  awaying : Nat := 0
  fired : Nat := 0
  waiting : Nat := 0
  holder : Option (Caller × Phase) := none
  machine : Machine
  -- The target of the last transition with `PROXIMITY` that was carried out.
  lastProximity : Option PowerState := none
  deriving DecidableEq, Repr

inductive Event where
  | onClose
  | setTimer
  | storeStarted
  | onAway
  | acquireAway
  | fire
  | clearStarted
  | intercept
  | acquireTask
  | acquireOther (state : PowerState) (reason : OtherReason) (force : Bool)
  | check
  | cancelTimer
  | storeStopped
  | transit (observed : DisplayState) (answers : Answers)

/-- `HandleProximityScreenOffTimer`: whether the request cancels the timer. -/
def cancelsTimer (started isClose : Bool) (state : PowerState) (reason : StateChangeReason) : Bool :=
  if !started then false
  else if (reason = .doubleClick ∨ reason = .pickup) ∧ isClose = true ∧ state = .awake then false
  else if reason ≠ .proximity then true
  else state = .awake

def Caller.transit (cfg : Config) (caller : Caller) (observed : DisplayState) (answers : Answers) (m : Machine) :
    Machine × TransitResult :=
  transitTo cfg answers caller.state caller.reason
    (caller.force || isTimeoutReason caller.reason && answers.forceTimingOut) { m with display := observed }

def next (cfg : Config) (s : State) : Event → Option State
  -- the handlers of sensor events; one that changes nothing returns at once
  | .onClose => if s.isClose then some s else some { s with isClose := true, closing := s.closing + 1 }
  | .setTimer =>
    if 0 < s.closing then some { s with closing := s.closing - 1, arming := s.arming + 1, queued := true } else none
  | .storeStarted =>
    if 0 < s.arming then some { s with arming := s.arming - 1, proximityScreenOffTimerStarted := true } else none
  | .onAway => if s.isClose then some { s with isClose := false, awaying := s.awaying + 1 } else some s
  | .acquireAway =>
    if 0 < s.awaying ∧ s.holder = none then
      some { s with awaying := s.awaying - 1, holder := some (.away, .entered) }
    else none
  -- the timer and its tasks; `HandleProximityClose` may be told to ignore the event
  | .fire => if s.queued then some { s with queued := false, fired := s.fired + 1 } else none
  | .clearStarted =>
    if 0 < s.fired then
      some { s with fired := s.fired - 1, proximityScreenOffTimerStarted := false, waiting := s.waiting + 1 }
    else none
  | .intercept => if 0 < s.waiting then some { s with waiting := s.waiting - 1 } else none
  | .acquireTask =>
    if 0 < s.waiting ∧ s.holder = none then
      some { s with waiting := s.waiting - 1, holder := some (.task, .entered) }
    else none
  | .acquireOther state reason force =>
    if s.holder = none then some { s with holder := some (.other state reason force, .entered) } else none
  -- `SetState` under `stateMutex_`
  | .check =>
    match s.holder with
    | some (caller, .entered) =>
      let cancels := cancelsTimer s.proximityScreenOffTimerStarted s.isClose caller.state caller.reason
      some { s with holder := some (caller, if cancels then .cancelling else .ready) }
    | _ => none
  | .cancelTimer =>
    match s.holder with
    | some (caller, .cancelling) => some { s with queued := false, holder := some (caller, .clearing) }
    | _ => none
  | .storeStopped =>
    match s.holder with
    | some (caller, .clearing) =>
      some { s with proximityScreenOffTimerStarted := false, holder := some (caller, .ready) }
    | _ => none
  | .transit observed answers =>
    match s.holder with
    | some (caller, .ready) =>
      let ret := caller.transit cfg observed answers s.machine
      some { s with
        machine := ret.1
        holder := none
        lastProximity :=
          if ret.2 = .success ∧ caller.reason = .proximity then some caller.state else s.lastProximity }
    | _ => none

/-- The state machine with the proximity sensor enabled and nothing under way. -/
def system (cfg : Config) : Lib.System State Event where
  init s := ∃ machine, s = { machine := machine }
  next := next cfg

/-! ## Assumptions and conditions -/

/-- The lock is held and the display does what it is asked. -/
def Assumed (_s : State) : Event → Prop
  | .transit _ answers => answers.displayOk = true ∧ answers.validRunningLockNum .proximityScreenControl ≠ 0
  | _ => True

namespace State

variable (s : State)

/-- The object is away, and the last away event has at least got `stateMutex_`. -/
def Away : Prop :=
  s.isClose = false ∧ s.awaying = 0

def Clearing : Prop :=
  ∃ caller, s.holder = some (caller, .clearing)

def AwayInside : Prop :=
  ∃ phase, s.holder = some (.away, phase)

def TaskInside : Prop :=
  ∃ phase, s.holder = some (.task, phase)

def NoneClosing : Prop :=
  s.closing = 0 ∧ s.arming = 0

def NoneFired : Prop :=
  s.fired = 0 ∧ s.waiting = 0

end State

/-- The steps that may go wrong, when they do not: a store of the flag leaves a flag that tells
whether a task is queued (or one that another store is about to set right); and the request of the
last away event finds no handler still arming the timer when it decides whether to cancel, and no
task on the way to `SetState` when it is carried out. -/
def Careful (s : State) : Event → Prop
  | .storeStarted => s.queued = true ∨ 0 < s.fired ∨ s.Clearing
  | .clearStarted | .storeStopped => s.queued = true → 0 < s.arming
  | .check => s.AwayInside → s.Away → s.NoneClosing
  | .transit observed answers =>
    Assumed s (.transit observed answers) ∧ (s.AwayInside → s.Away → s.NoneFired)
  | _ => True

/-! ## The flag and the pending tasks -/

/-- Nothing that could turn the screen off is under way. -/
structure Quiet (s : State) : Prop where
  closing : s.NoneClosing
  queued : s.queued = false
  fired : s.NoneFired
  inside : ¬s.TaskInside
  last : s.lastProximity ≠ some .inactive

structure Inv (s : State) : Prop where
  -- A queued task is flagged, or about to be.
  armed : s.queued = true → s.proximityScreenOffTimerStarted = true ∨ 0 < s.arming
  -- The flag stands for a queued task, or is about to be cleared.
  flagged : s.proximityScreenOffTimerStarted = true → s.queued = true ∨ 0 < s.fired ∨ s.Clearing
  -- The last away event has been handled.
  quiet : s.Away → ¬s.AwayInside → Quiet s
  -- It is being handled, and has decided whether to cancel.
  decided : s.Away → ∀ phase, s.holder = some (.away, phase) → phase ≠ .entered →
    s.NoneClosing ∧ (phase ≠ .cancelling → s.queued = false)

section Steps

variable {cfg : Config} {s s' : State}

/-- The flag stands for a task, unless it is just being cleared. -/
theorem flagged_of_not_clearing (h : Inv s) (hnot : ¬s.Clearing) (hstarted : s.proximityScreenOffTimerStarted = true) :
    s.queued = true ∨ 0 < s.fired := by
  obtain hqueued | hfired | hclearing := h.flagged hstarted
  · exact .inl hqueued
  · exact .inr hfired
  · exact absurd hclearing hnot

theorem flagged_of_free (h : Inv s) (hfree : s.holder = none) (hstarted : s.proximityScreenOffTimerStarted = true) :
    s.queued = true ∨ 0 < s.fired := by
  refine flagged_of_not_clearing h ?_ hstarted
  simp [State.Clearing, hfree]

theorem outside_of_free (hfree : s.holder = none) : ¬s.AwayInside := by
  rintro ⟨phase, hholder⟩
  rw [hfree] at hholder
  cases hholder

theorem outside_of_holder {caller : Caller} {phase : Phase} (hholder : s.holder = some (caller, phase))
    (hcaller : caller ≠ .away) : ¬s.AwayInside := by
  rintro ⟨phase', hinside⟩
  rw [hholder] at hinside
  cases hinside
  exact hcaller rfl

/-- A step inside `SetState` that changes the phase of its caller and at most unqueues the task. -/
theorem quiet_of_phase (h : Inv s) {caller : Caller} {phase : Phase} (hholder : s.holder = some (caller, phase))
    (hclosing : s'.closing = s.closing ∧ s'.arming = s.arming) (hqueued : s.queued = false → s'.queued = false)
    (hfired : s'.fired = s.fired ∧ s'.waiting = s.waiting) (hlast : s'.lastProximity = s.lastProximity)
    {phase' : Phase} (hholder' : s'.holder = some (caller, phase')) (haway : s.Away) (houtside : ¬s'.AwayInside) :
    Quiet s' := by
  have hcaller : caller ≠ .away := by
    rintro rfl
    exact houtside ⟨phase', hholder'⟩
  have hquiet := h.quiet haway (outside_of_holder hholder hcaller)
  refine ⟨?_, hqueued hquiet.queued, ?_, ?_, by rw [hlast]; exact hquiet.last⟩
  · rw [State.NoneClosing, hclosing.1, hclosing.2]
    exact hquiet.closing
  · rw [State.NoneFired, hfired.1, hfired.2]
    exact hquiet.fired
  · rintro ⟨phase'', hinside⟩
    rw [hholder'] at hinside
    cases hinside
    exact hquiet.inside ⟨phase, hholder⟩

theorem inv_onClose (h : Inv s) (hnext : next cfg s .onClose = some s') : Inv s' := by
  simp only [next] at hnext
  split at hnext
  · cases hnext
    exact h
  · cases hnext
    -- an object that is close is not away
    refine ⟨h.armed, h.flagged, fun haway => ?_, fun haway => ?_⟩ <;> exact absurd haway.1 (by simp)

theorem inv_setTimer (h : Inv s) (hnext : next cfg s .setTimer = some s') : Inv s' := by
  simp only [next] at hnext
  split at hnext
  next hclosing =>
    cases hnext
    refine ⟨fun _ => .inr (by simp), fun _ => .inl rfl, fun haway hinside => ?_, fun haway phase hholder hphase => ?_⟩
    · have hnone := (h.quiet haway hinside).closing.1
      omega
    · have hnone := (h.decided haway phase hholder hphase).1.1
      omega
  · cases hnext

theorem inv_storeStarted (h : Inv s) (hcareful : Careful s .storeStarted)
    (hnext : next cfg s .storeStarted = some s') : Inv s' := by
  simp only [next] at hnext
  split at hnext
  next harming =>
    cases hnext
    refine ⟨fun _ => .inl rfl, fun _ => hcareful, fun haway hinside => ?_, fun haway phase hholder hphase => ?_⟩
    · have hnone := (h.quiet haway hinside).closing.2
      omega
    · have hnone := (h.decided haway phase hholder hphase).1.2
      omega
  · cases hnext

theorem inv_onAway (h : Inv s) (hnext : next cfg s .onAway = some s') : Inv s' := by
  simp only [next] at hnext
  split at hnext
  · cases hnext
    -- the event has still to be handled
    refine ⟨h.armed, h.flagged, fun haway => ?_, fun haway => ?_⟩ <;> exact absurd haway.2 (by simp)
  · cases hnext
    exact h

theorem inv_acquireAway (h : Inv s) (hnext : next cfg s .acquireAway = some s') : Inv s' := by
  simp only [next] at hnext
  split at hnext
  next hfree =>
    cases hnext
    refine ⟨h.armed, fun hstarted => ?_, fun _ houtside => ?_, fun _ phase hholder hphase => ?_⟩
    · exact (flagged_of_free h hfree.2 hstarted).imp_right .inl
    · exact absurd ⟨.entered, rfl⟩ houtside
    · simp only [Option.some.injEq, Prod.mk.injEq, true_and] at hholder
      exact absurd hholder.symm hphase
  · cases hnext

theorem inv_fire (h : Inv s) (hnext : next cfg s .fire = some s') : Inv s' := by
  simp only [next] at hnext
  split at hnext
  next hqueued =>
    cases hnext
    refine ⟨fun hnone => by simp at hnone, fun _ => .inr (.inl (by simp)), fun haway hinside => ?_,
      fun haway phase hholder hphase => ?_⟩
    · have hnone := (h.quiet haway hinside).queued
      rw [hqueued] at hnone
      cases hnone
    · exact ⟨(h.decided haway phase hholder hphase).1, fun _ => rfl⟩
  · cases hnext

theorem inv_clearStarted (h : Inv s) (hcareful : Careful s .clearStarted)
    (hnext : next cfg s .clearStarted = some s') : Inv s' := by
  simp only [next] at hnext
  split at hnext
  next hfired =>
    cases hnext
    refine ⟨fun hqueued => .inr (hcareful hqueued), fun hstarted => by simp at hstarted, fun haway hinside => ?_,
      h.decided⟩
    have hnone := (h.quiet haway hinside).fired.1
    omega
  · cases hnext

theorem inv_intercept (h : Inv s) (hnext : next cfg s .intercept = some s') : Inv s' := by
  simp only [next] at hnext
  split at hnext
  next hwaiting =>
    cases hnext
    refine ⟨h.armed, h.flagged, fun haway hinside => ?_, h.decided⟩
    have hnone := (h.quiet haway hinside).fired.2
    omega
  · cases hnext

theorem inv_acquireTask (h : Inv s) (hnext : next cfg s .acquireTask = some s') : Inv s' := by
  simp only [next] at hnext
  split at hnext
  next hfree =>
    cases hnext
    refine ⟨h.armed, fun hstarted => ?_, fun haway hinside => ?_, fun _ phase hholder => by simp at hholder⟩
    · exact (flagged_of_free h hfree.2 hstarted).imp_right .inl
    · -- no task is left when the last away event has been handled
      have hnone := (h.quiet haway (outside_of_free hfree.2)).fired.2
      omega
  · cases hnext

theorem inv_acquireOther {state : PowerState} {reason : OtherReason} {force : Bool} (h : Inv s)
    (hnext : next cfg s (.acquireOther state reason force) = some s') : Inv s' := by
  simp only [next] at hnext
  split at hnext
  next hfree =>
    cases hnext
    refine ⟨h.armed, fun hstarted => ?_, fun haway hinside => ?_, fun _ phase hholder => by simp at hholder⟩
    · exact (flagged_of_free h hfree hstarted).imp_right .inl
    · have hquiet := h.quiet haway (outside_of_free hfree)
      exact ⟨hquiet.closing, hquiet.queued, hquiet.fired, fun ⟨phase, hholder⟩ => by simp at hholder, hquiet.last⟩
  · cases hnext

/-! ### Inside `SetState` -/

theorem next_check (cfg : Config) {caller : Caller} (hholder : s.holder = some (caller, .entered)) :
    next cfg s .check = some { s with holder := some (caller,
      if cancelsTimer s.proximityScreenOffTimerStarted s.isClose caller.state caller.reason then .cancelling
      else .ready) } := by
  simp only [next, hholder]

theorem cancelsTimer_away (started isClose : Bool) : cancelsTimer started isClose .awake .proximity = started := by
  cases started <;> simp [cancelsTimer]

theorem inv_check (h : Inv s) (hcareful : Careful s .check) (hnext : next cfg s .check = some s') : Inv s' := by
  obtain ⟨caller, hholder⟩ : ∃ caller, s.holder = some (caller, .entered) := by
    simp only [next] at hnext
    split at hnext
    next caller hholder => exact ⟨caller, hholder⟩
    next => cases hnext
  rw [next_check cfg hholder] at hnext
  cases hnext
  refine ⟨h.armed, fun hstarted => ?_, fun haway houtside => ?_, fun haway phase hdecided hphase => ?_⟩
  · have hnot : ¬s.Clearing := by simp [State.Clearing, hholder]
    exact (flagged_of_not_clearing h hnot hstarted).imp_right .inl
  · exact quiet_of_phase h hholder ⟨rfl, rfl⟩ id ⟨rfl, rfl⟩ rfl rfl haway houtside
  · cases hdecided
    have hnone := hcareful ⟨_, hholder⟩ haway
    refine ⟨hnone, fun hready => ?_⟩
    simp only [Caller.state, Caller.reason, cancelsTimer_away] at hready
    have hstopped : s.proximityScreenOffTimerStarted = false := by
      cases hstarted : s.proximityScreenOffTimerStarted with
      | false => rfl
      | true => simp [hstarted] at hready
    cases hqueued : s.queued with
    | false => rfl
    | true =>
      -- a queued task would be flagged
      obtain hstarted | harming := h.armed hqueued
      · rw [hstopped] at hstarted
        cases hstarted
      · have hnotArming := hnone.2
        omega

theorem inv_cancelTimer (h : Inv s) (hnext : next cfg s .cancelTimer = some s') : Inv s' := by
  simp only [next] at hnext
  split at hnext
  next caller hholder =>
    cases hnext
    refine ⟨fun hqueued => by simp at hqueued, fun _ => .inr (.inr ⟨caller, rfl⟩), fun haway houtside => ?_,
      fun haway phase hdecided hphase => ?_⟩
    · exact quiet_of_phase h hholder ⟨rfl, rfl⟩ (fun _ => rfl) ⟨rfl, rfl⟩ rfl rfl haway houtside
    · cases hdecided
      exact ⟨(h.decided haway _ hholder (by simp)).1, fun _ => rfl⟩
  next => cases hnext

theorem inv_storeStopped (h : Inv s) (hcareful : Careful s .storeStopped)
    (hnext : next cfg s .storeStopped = some s') : Inv s' := by
  simp only [next] at hnext
  split at hnext
  next caller hholder =>
    cases hnext
    refine ⟨fun hqueued => .inr (hcareful hqueued), fun hstarted => by simp at hstarted, fun haway houtside => ?_,
      fun haway phase hdecided hphase => ?_⟩
    · exact quiet_of_phase h hholder ⟨rfl, rfl⟩ id ⟨rfl, rfl⟩ rfl rfl haway houtside
    · cases hdecided
      have hdecided' := h.decided haway _ hholder (by simp)
      exact ⟨hdecided'.1, fun _ => hdecided'.2 (by simp)⟩
  next => cases hnext

theorem transit_away (cfg : Config) (observed : DisplayState) (answers : Answers) (m : Machine)
    (hdisplay : answers.displayOk = true) : (Caller.away.transit cfg observed answers m).2 = .success := by
  have hforbid : ∀ current, PowerState.awake ∉ forbidMap cfg current := fun current =>
    not_mem_forbidMap cfg current (.inl rfl)
  have hset : ∀ m', (setDisplayState answers.displayOk .on .proximity m').2 = true := by
    intro m'
    simp only [setDisplayState, hdisplay, if_true]
    repeat' split
    all_goals rfl
  simp [Caller.transit, Caller.state, Caller.reason, Caller.force, transitTo, checkState, canTransitTo, hforbid,
    wakeupSuppressed, allowMapByReason, checkRunningLock, lockMap, handlePreBrightState, isPreBrightAuthReason, action,
    actionAwake, awakeDisplay, hset]

theorem inv_transit {observed : DisplayState} {answers : Answers} (h : Inv s)
    (hcareful : Careful s (.transit observed answers)) (hnext : next cfg s (.transit observed answers) = some s') :
    Inv s' := by
  simp only [next] at hnext
  split at hnext
  next caller hholder =>
    cases hnext
    refine ⟨h.armed, fun hstarted => ?_, fun haway _ => ?_, fun _ phase hnone => by simp at hnone⟩
    · have hnot : ¬s.Clearing := by simp [State.Clearing, hholder]
      exact (flagged_of_not_clearing h hnot hstarted).imp_right .inl
    · have hfree : ∀ holder : Option (Caller × Phase), holder = none → ¬∃ phase, holder = some (.task, phase) := by
        rintro _ rfl ⟨phase, hnone⟩
        cases hnone
      cases caller with
      | away =>
        -- the last away event is carried out, and nothing that could follow it is left
        obtain ⟨hclosing, hqueued⟩ := h.decided haway _ hholder (by simp)
        refine ⟨hclosing, hqueued (by simp), hcareful.2 ⟨_, hholder⟩ haway, hfree _ rfl, ?_⟩
        simp [transit_away cfg observed answers s.machine hcareful.1.1, Caller.reason, Caller.state]
      | task =>
        -- a task inside `SetState` contradicts that the last away event has been handled
        have hquiet := h.quiet haway (outside_of_holder hholder (by simp))
        exact absurd ⟨_, hholder⟩ hquiet.inside
      | other state reason force =>
        -- a transition for another reason is not one with `PROXIMITY`
        have hquiet := h.quiet haway (outside_of_holder hholder (by simp))
        refine ⟨hquiet.closing, hquiet.queued, hquiet.fired, hfree _ rfl, ?_⟩
        have hreason : (Caller.other state reason force).reason ≠ .proximity := reason.property
        rw [if_neg fun hdone => hreason hdone.2]
        exact hquiet.last
  next => cases hnext

theorem inv_next {e : Event} (h : Inv s) (hcareful : Careful s e) (hnext : next cfg s e = some s') : Inv s' := by
  cases e with
  | onClose => exact inv_onClose h hnext
  | setTimer => exact inv_setTimer h hnext
  | storeStarted => exact inv_storeStarted h hcareful hnext
  | onAway => exact inv_onAway h hnext
  | acquireAway => exact inv_acquireAway h hnext
  | fire => exact inv_fire h hnext
  | clearStarted => exact inv_clearStarted h hcareful hnext
  | intercept => exact inv_intercept h hnext
  | acquireTask => exact inv_acquireTask h hnext
  | acquireOther state reason force => exact inv_acquireOther h hnext
  | check => exact inv_check h hcareful hnext
  | cancelTimer => exact inv_cancelTimer h hnext
  | storeStopped => exact inv_storeStopped h hcareful hnext
  | transit observed answers => exact inv_transit h hcareful hnext

theorem inv_of_reach (hreach : (system cfg).Reach Careful s) : Inv s := by
  refine hreach.invariant (fun s hinit => ?_) fun s s' e h hcareful hnext => ?_
  · obtain ⟨machine, rfl⟩ := hinit
    refine ⟨fun hnone => by simp at hnone, fun hnone => by simp at hnone, fun _ _ => ?_,
      fun _ phase hnone => by simp at hnone⟩
    exact ⟨⟨rfl, rfl⟩, rfl, ⟨rfl, rfl⟩, fun ⟨phase, hnone⟩ => by simp at hnone, by simp⟩
  · have hstep : next cfg s e = some s' := hnext
    exact inv_next h hcareful hstep

/-- In every run of careful steps: the flag is set exactly while a task is queued, whenever no store
of it is due; and once the last away event has been handled nothing that could turn the screen off is
left, so that the last transition with `PROXIMITY` was not to `INACTIVE`. -/
theorem screen_lit_when_away (hreach : (system cfg).Reach Careful s) :
    (s.arming = 0 → s.fired = 0 → ¬s.Clearing → (s.proximityScreenOffTimerStarted = true ↔ s.queued = true)) ∧
    (s.Away → ¬s.AwayInside → Quiet s) := by
  have h := inv_of_reach hreach
  refine ⟨fun harming hfired hclearing => ⟨fun hstarted => ?_, fun hqueued => ?_⟩, h.quiet⟩
  · obtain hqueued | hpending | hholder := h.flagged hstarted
    · exact hqueued
    · omega
    · exact absurd hholder hclearing
  · obtain hstarted | hpending := h.armed hqueued
    · exact hstarted
    · omega

end Steps

/-! ## A phone taken from the ear -/

def calling : State := { machine := { currentState := .awake, display := .on } }

def lockHeld : Answers where
  validRunningLockNum := fun type => if type = .proximityScreenControl then 1 else 0

/-- The phone is taken away before the timer fires. -/
def takenAway : List Event :=
  [.onClose, .setTimer, .storeStarted, .onAway, .acquireAway, .check, .cancelTimer, .storeStopped,
    .transit .on lockHeld]

theorem screen_lit_when_away_takenAway :
    ∃ s, (system {}).run calling takenAway = some s ∧ s.proximityScreenOffTimerStarted = false ∧
      s.lastProximity ≠ some .inactive := by
  have hready : Assumed calling (.transit .on lockHeld) := ⟨rfl, by decide⟩
  have hreach : (system {}).Reach Careful calling := .init ⟨_, rfl⟩
  replace hreach := hreach.step Event.onClose trivial rfl
  replace hreach := hreach.step Event.setTimer trivial rfl
  replace hreach := hreach.step Event.storeStarted (Or.inl rfl) rfl
  replace hreach := hreach.step Event.onAway trivial rfl
  replace hreach := hreach.step Event.acquireAway trivial rfl
  replace hreach := hreach.step Event.check (fun _ _ => ⟨rfl, rfl⟩) rfl
  replace hreach := hreach.step Event.cancelTimer trivial rfl
  replace hreach := hreach.step Event.storeStopped (fun hqueued => Bool.noConfusion hqueued) rfl
  replace hreach := hreach.step (Event.transit .on lockHeld) ⟨hready, fun _ _ => ⟨rfl, rfl⟩⟩ rfl
  obtain ⟨s, hreach, hrun, haway, hholder, harming, hfired, hqueued⟩ : ∃ s, (system {}).Reach Careful s ∧
      (system {}).run calling takenAway = some s ∧ s.Away ∧ s.holder = none ∧ s.arming = 0 ∧ s.fired = 0 ∧
        s.queued = false :=
    ⟨_, hreach, rfl, ⟨rfl, rfl⟩, rfl, rfl, rfl, rfl⟩
  obtain ⟨hflag, hquiet⟩ := screen_lit_when_away hreach
  have hclearing : ¬s.Clearing := by
    rintro ⟨caller, hclearing⟩
    rw [hholder] at hclearing
    cases hclearing
  refine ⟨s, hrun, ?_, (hquiet haway (outside_of_free hholder)).last⟩
  rw [Bool.eq_false_iff, ne_eq, hflag harming hfired hclearing, hqueued]
  exact Bool.false_ne_true

/-- The task has cleared the flag when the phone is taken away, and gets `stateMutex_` last. -/
def overtaken : List Event :=
  [.onClose, .setTimer, .storeStarted, .fire, .clearStarted, .onAway, .acquireAway, .check,
    .transit .on lockHeld, .acquireTask, .check, .transit .on lockHeld]

/-- The task runs before the handler that armed the timer has stored the flag. -/
def armedLate : List Event :=
  [.onClose, .setTimer, .fire, .clearStarted, .storeStarted, .acquireTask, .check, .transit .on lockHeld]

def State.Resting (s : State) : Prop :=
  s.closing = 0 ∧ s.arming = 0 ∧ s.awaying = 0 ∧ s.fired = 0 ∧ s.waiting = 0 ∧ s.holder = none

/-- A task that the away event overtakes turns the screen off after it; and a flag that is stored
late stays set without a task. -/
theorem screen_dark_when_away :
    (¬∀ s, (system {}).Reach Assumed s → s.Resting → s.isClose = false → s.queued = false →
      s.lastProximity ≠ some .inactive) ∧
    ¬∀ s, (system {}).Reach Assumed s → s.Resting → (s.proximityScreenOffTimerStarted = true ↔ s.queued = true) := by
  -- in both runs the display succeeds and the lock is held
  have hassumed : ∀ es : List Event, (∀ observed answers, .transit observed answers ∈ es → answers = lockHeld) →
      ∀ s, ∀ e ∈ es, Assumed s e := by
    intro es hheld s e hmem
    cases e with
    | transit observed answers =>
      rw [hheld observed answers hmem]
      exact ⟨rfl, by decide⟩
    | _ => trivial
  refine ⟨fun hlit => ?_, fun hflag => ?_⟩
  · have hreach : (system {}).Reach Assumed _ :=
      Lib.System.Reach.of_run overtaken (.init ⟨_, rfl⟩)
        (hassumed _ (by simp [overtaken]))
        (rfl : (system {}).run calling overtaken = some _)
    exact hlit _ hreach ⟨rfl, rfl, rfl, rfl, rfl, rfl⟩ rfl rfl rfl
  · have hreach : (system {}).Reach Assumed _ :=
      Lib.System.Reach.of_run armedLate (.init ⟨_, rfl⟩)
        (hassumed _ (by simp [armedLate]))
        (rfl : (system {}).run calling armedLate = some _)
    exact Bool.noConfusion ((hflag _ hreach ⟨rfl, rfl, rfl, rfl, rfl, rfl⟩).mp rfl)

end PowerMgr.StateMachine.Proximity
