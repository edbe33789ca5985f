import Mathlib.Tactic.Common
import PowerMgr.StateMachine.ScreenOff

/-! # Pressing the power key

The key going down is handled by `PowerkeyWakeupMonitor`, the key coming up by `PowerKeySuspendMonitor`.
The first may cancel a screen-off that is under way, waits for its task and records how it found the
screen; the second looks at the record and submits the next task.  The task runs beside both.

* `State`, `next` — the two callbacks, cut where another thread may come in, and the task.
* `Careful` — the key goes down and comes up in turn.
* `submitted_for_lit_press` — a task is submitted exactly for a press that found the screen on and did not
  interrupt a screen-off, unless its release is refused.
* `attempts_one_at_a_time` — one task at a time, at most one canceller for each, and what the two do
  is a run of the attempts of `ScreenOff`.

The callbacks are handed over one at a time; the screen may be switched by others whenever it likes.
-/

namespace PowerMgr.StateMachine.PowerKey

/-- The build: the two macros, and the fold mode in which the key does not turn the screen off. -/
structure Config where
  allowInterrupting : Bool := true
  wakeupAction : Bool := false
  powerkeyBlockedFoldMode : Int := -1
  deriving DecidableEq, Repr

def powerkeyMinInterval : Int := 350

/-- What the callback of a press found: the wakeup reason is configured, or the screen was on or off and
`TryToCancelScreenOff` returned so. -/
inductive Press where
  | matched
  | recorded (isScreenOn interrupting : Bool)
  deriving DecidableEq, Repr

/-- Where the callback that runs stands. -/
inductive Callback where
  | none
  -- key down: before `powerkeyScreenOff_` is read, before and in `TryToCancelScreenOff`, and after it
  | loading
  | cancelling
  | waiting
  | settling (poweroffInterrupted : Bool)
  -- key up: before `BeginPowerkeyScreenOff`, before `powerkeyScreenOff_` is set, before `submit`
  | beginning
  | marking
  | submitting
  deriving DecidableEq, Repr

/-- A task that was submitted, with the press it belongs to and the time of the release. -/
structure Submission where
  press : Press
  time : Int
  deriving DecidableEq, Repr

structure State where
  powerkeyScreenOff : Bool := false
  powerkeyDownWhenScreenOff : Bool := false
  wakeupReasonConfigMatchedFlag : Bool := false
  lastPowerkeyUpTime : Int := 0
  attempt : ScreenOff.State := {}
  callback : Callback := .none
  -- The tasks submitted and not over; whether the first of them has cleared `powerkeyScreenOff_`.
  queued : Nat := 0
  cleared : Bool := false
  -- Kept for the statements: the key is down, the latest press, the tasks so far.
  pressed : Bool := false
  press : Press := .matched
  submissions : List Submission := []
  deriving DecidableEq, Repr

inductive Event where
  | down (matched : Bool)
  | load
  | tryToCancel (answer : Bool)
  | resume (timeout answer : Bool)
  | record (isScreenOn : Bool)
  | up (now : Int) (curMode : Nat) (matched : Bool)
  | begin
  | mark
  | submit
  -- The task: the two halves of `SetDisplayState`, then its last two lines.
  | check
  | setDisplay
  | clear
  | finish
  deriving DecidableEq, Repr

/-! ## The callbacks -/

/-- `SuspendController::IsPowerkeyScreenOffBlocked`. -/
def isPowerkeyScreenOffBlocked (cfg : Config) (curMode : Nat) : Bool :=
  if cfg.powerkeyBlockedFoldMode < 0 then false else decide ((curMode : Int) = cfg.powerkeyBlockedFoldMode)

/-- `PowerkeyWakeupMonitor::ReceivePowerkeyCallback` up to the load of `powerkeyScreenOff_`. -/
def receivePowerkeyDown (cfg : Config) (matched : Bool) (s : State) : State :=
  if cfg.wakeupAction && matched then
    { s with pressed := true, wakeupReasonConfigMatchedFlag := true, press := .matched }
  else { s with
    pressed := true
    wakeupReasonConfigMatchedFlag := if cfg.wakeupAction then false else s.wakeupReasonConfigMatchedFlag
    callback := .loading }

/-- `SuspendController::RecordPowerKeyDown`. -/
def recordPowerKeyDown (isScreenOn interrupting : Bool) (s : State) : State :=
  { s with
    powerkeyDownWhenScreenOff := if isScreenOn then interrupting else true
    press := .recorded isScreenOn interrupting
    callback := .none }

/-- `PowerKeySuspendMonitor::IsPowerkeyUpTooFrequent`, without the note of the time. -/
def isPowerkeyUpTooFrequent (now : Int) (s : State) : Bool :=
  s.lastPowerkeyUpTime ≠ 0 && now - s.lastPowerkeyUpTime < powerkeyMinInterval

/-- `PowerKeySuspendMonitor::ReceivePowerkeyCallback` up to `BeginPowerkeyScreenOff`. -/
def receivePowerkeyUp (cfg : Config) (now : Int) (curMode : Nat) (matched : Bool) (s : State) : State :=
  if isPowerkeyScreenOffBlocked cfg curMode then { s with pressed := false }
  else if cfg.wakeupAction && (s.wakeupReasonConfigMatchedFlag || matched) then
    { s with pressed := false, wakeupReasonConfigMatchedFlag := false }
  else if isPowerkeyUpTooFrequent now s then { s with pressed := false }
  else { s with
    pressed := false
    lastPowerkeyUpTime := now
    powerkeyDownWhenScreenOff := false
    callback := if s.powerkeyDownWhenScreenOff then .none else .beginning }

/-- The callback goes on when `TryToCancelScreenOff` has returned. -/
def State.setAttempt (s : State) (attempt : ScreenOff.State) : State :=
  { s with
    attempt := attempt
    callback := match attempt.call with
      | .returned result _ => .settling result
      | _ => .waiting }

/-- `BeginPowerkeyScreenOff` does not look at what went before. -/
def beginAttempt (attempt : ScreenOff.State) : ScreenOff.State where
  flags := ScreenOff.beginPowerkeyScreenOff
  stage := .begun
  call := if attempt.call = .waiting then .waiting else .notMade

def endAttempt (attempt : ScreenOff.State) : ScreenOff.State :=
  { attempt with flags := ScreenOff.endPowerkeyScreenOff, stage := .idle }

def next (cfg : Config) (s : State) : Event → Option State
  | .down matched =>
    -- the build that does not allow interrupting waits for the tasks first
    if s.callback = .none ∧ (cfg.allowInterrupting = true ∨ s.queued = 0) then
      some (receivePowerkeyDown cfg matched s) else none
  | .load =>
    if s.callback = .loading then
      some { s with callback := if s.powerkeyScreenOff then .cancelling else .settling false } else none
  | .tryToCancel answer =>
    if s.callback = .cancelling then (ScreenOff.next s.attempt (.tryToCancel answer)).map s.setAttempt else none
  | .resume timeout answer =>
    if s.callback = .waiting then (ScreenOff.next s.attempt (.resume timeout answer)).map s.setAttempt else none
  | .record isScreenOn =>
    match s.callback with
    | .settling poweroffInterrupted =>
      if s.queued = 0 then some (recordPowerKeyDown isScreenOn poweroffInterrupted s) else none
    | _ => none
  | .up now curMode matched =>
    if s.callback = .none then some (receivePowerkeyUp cfg now curMode matched s) else none
  | .begin =>
    if s.callback = .beginning then some { s with attempt := beginAttempt s.attempt, callback := .marking } else none
  | .mark =>
    if s.callback = .marking then some { s with powerkeyScreenOff := true, callback := .submitting } else none
  | .submit =>
    if s.callback = .submitting then some { s with
      queued := s.queued + 1
      callback := .none
      submissions := { press := s.press, time := s.lastPowerkeyUpTime } :: s.submissions }
    else none
  | .check =>
    if 0 < s.queued ∧ s.cleared = false then
      (ScreenOff.next s.attempt .check).map fun attempt => { s with attempt := attempt } else none
  | .setDisplay =>
    if 0 < s.queued ∧ s.cleared = false then
      (ScreenOff.next s.attempt .setDisplay).map fun attempt => { s with attempt := attempt } else none
  | .clear =>
    -- `Notify` may also have returned without asking for the display
    if 0 < s.queued ∧ s.cleared = false ∧ s.attempt.stage ≠ .suspendBegun then
      some { s with powerkeyScreenOff := false, cleared := true } else none
  | .finish =>
    if s.cleared = true then
      some { s with attempt := endAttempt s.attempt, queued := s.queued - 1, cleared := false } else none

def system (cfg : Config) : Lib.System State Event where
  init := (· = {})
  next := next cfg

/-- The key goes down and comes up in turn, and the clock has started. -/
def Careful (s : State) : Event → Prop
  | .down _ => s.pressed = false
  | .up now _ _ => s.pressed = true ∧ 0 < now
  | _ => True

instance (s : State) (event : Event) : Decidable (Careful s event) :=
  match event with
  | .down _ => inferInstanceAs (Decidable (_ = _))
  | .up _ _ _ => inferInstanceAs (Decidable (_ ∧ _))
  | .load | .tryToCancel _ | .resume _ _ | .record _ | .begin | .mark | .submit | .check | .setDisplay | .clear | .finish =>
    .isTrue trivial

/-! ## Where the task stands -/

/-- Every task that was submitted is over. -/
structure AtRest (s : State) : Prop where
  queued : s.queued = 0
  cleared : s.cleared = false
  powerkeyScreenOff : s.powerkeyScreenOff = false
  stage : s.attempt.stage = .idle

/-- One task is on its way. -/
structure Running (s : State) : Prop where
  queued : s.queued = 1
  powerkeyScreenOff : s.powerkeyScreenOff = !s.cleared
  stage : s.attempt.stage ≠ .idle
  notified : s.cleared = true → s.attempt.stage ≠ .suspendBegun

theorem AtRest.keep {s s' : State} (h : AtRest s) (hqueued : s'.queued = s.queued) (hcleared : s'.cleared = s.cleared)
    (hscreen : s'.powerkeyScreenOff = s.powerkeyScreenOff) (hattempt : s'.attempt.stage = s.attempt.stage) :
    AtRest s' :=
  ⟨hqueued.trans h.queued, hcleared.trans h.cleared, hscreen.trans h.powerkeyScreenOff, hattempt.trans h.stage⟩

theorem Running.keep {s s' : State} (h : Running s) (hqueued : s'.queued = s.queued) (hcleared : s'.cleared = s.cleared)
    (hscreen : s'.powerkeyScreenOff = s.powerkeyScreenOff) (hattempt : s'.attempt.stage = s.attempt.stage) :
    Running s' := by
  refine ⟨hqueued.trans h.queued, ?_, ?_, ?_⟩
  · rw [hscreen, hcleared]
    exact h.powerkeyScreenOff
  · rw [hattempt]
    exact h.stage
  · rw [hcleared, hattempt]
    exact h.notified

/-- `BeginPowerkeyScreenOff` has been called for a task still to be submitted. -/
structure Begun (s : State) : Prop where
  queued : s.queued = 0
  cleared : s.cleared = false
  stage : s.attempt.stage = .begun
  call : s.attempt.call = .notMade

/-- What each place in the two callbacks says of the task and of the canceller. -/
def Located (s : State) : Prop :=
  match s.callback with
  | .none => (AtRest s ∧ s.attempt.call ≠ .waiting) ∨ (Running s ∧ s.attempt.call = .notMade)
  | .loading => (AtRest s ∧ s.attempt.call ≠ .waiting) ∨ (Running s ∧ s.attempt.call = .notMade)
  | .cancelling => (AtRest s ∨ Running s) ∧ s.attempt.call = .notMade
  | .waiting => (AtRest s ∨ Running s) ∧ s.attempt.call = .waiting
  | .settling _ => (AtRest s ∨ Running s) ∧ s.attempt.call ≠ .waiting
  | .beginning => AtRest s ∧ s.attempt.call ≠ .waiting
  | .marking => Begun s ∧ s.powerkeyScreenOff = false
  | .submitting => Begun s ∧ s.powerkeyScreenOff = true

/-- What the two flags say of the latest press, and of the callback that handles it. -/
def Recorded (cfg : Config) (s : State) : Prop :=
  match s.callback with
  | .none => s.pressed = true →
      (s.press = .matched ∧ cfg.wakeupAction = true ∧ s.wakeupReasonConfigMatchedFlag = true) ∨
      (AtRest s ∧ (cfg.wakeupAction = true → s.wakeupReasonConfigMatchedFlag = false) ∧
        ∃ isScreenOn interrupting, s.press = .recorded isScreenOn interrupting ∧
          s.powerkeyDownWhenScreenOff = if isScreenOn then interrupting else true)
  | .beginning | .marking | .submitting => s.press = .recorded true false ∧ s.pressed = false
  | _ => s.pressed = true ∧ (cfg.wakeupAction = true → s.wakeupReasonConfigMatchedFlag = false)

/-- The accepted releases are apart, also the one whose task is still to be submitted. -/
structure Spaced (s : State) : Prop where
  lit : ∀ submission ∈ s.submissions, submission.press = .recorded true false
  spaced : s.submissions.Pairwise fun later earlier => earlier.time + powerkeyMinInterval ≤ later.time
  past : ∀ submission ∈ s.submissions, 0 < s.lastPowerkeyUpTime ∧ submission.time ≤ s.lastPowerkeyUpTime
  coming : s.callback = .beginning ∨ s.callback = .marking ∨ s.callback = .submitting →
    0 < s.lastPowerkeyUpTime ∧
      ∀ submission ∈ s.submissions, submission.time + powerkeyMinInterval ≤ s.lastPowerkeyUpTime

structure Inv (cfg : Config) (s : State) : Prop where
  located : Located s
  recorded : Recorded cfg s
  spaced : Spaced s

section Steps

variable {cfg : Config} {s s' : State}

/-- A step of the task leaves the callbacks and what they keep alone. -/
theorem Inv.of_task (h : Inv cfg s) (hlocated : Located s') (hrest : AtRest s → AtRest s')
    (hcallback : s'.callback = s.callback) (hdown : s'.powerkeyDownWhenScreenOff = s.powerkeyDownWhenScreenOff)
    (hflag : s'.wakeupReasonConfigMatchedFlag = s.wakeupReasonConfigMatchedFlag)
    (htime : s'.lastPowerkeyUpTime = s.lastPowerkeyUpTime) (hpressed : s'.pressed = s.pressed)
    (hpress : s'.press = s.press) (hsubmissions : s'.submissions = s.submissions) : Inv cfg s' := by
  refine ⟨hlocated, ?_, ?_⟩
  · have hrecorded := h.recorded
    unfold Recorded at hrecorded ⊢
    rw [hcallback, hdown, hflag, hpressed, hpress]
    cases hplace : s.callback <;> simp only [hplace] at hrecorded ⊢ <;> try exact hrecorded
    intro hheld
    obtain hmatched | ⟨hatRest, hkept⟩ := hrecorded hheld
    · exact .inl hmatched
    · exact .inr ⟨hrest hatRest, hkept⟩
  · obtain ⟨hlit, hspaced, hpast, hcoming⟩ := h.spaced
    constructor
    · rwa [hsubmissions]
    · rwa [hsubmissions]
    · rwa [hsubmissions, htime]
    · rwa [hsubmissions, htime, hcallback]

/-- A step of the task from one running state to another, or to the end of the task. -/
theorem Located.of_task (h : Located s) (hqueued : 0 < s.queued) (hcall : s'.attempt.call = s.attempt.call)
    (hcallback : s'.callback = s.callback) (hstep : Running s → AtRest s' ∨ Running s') : Located s' := by
  have hbusy : ¬AtRest s := by
    intro hrest
    have := hrest.queued
    omega
  have hunbegun : ¬Begun s := by
    intro hbegun
    have := hbegun.queued
    omega
  unfold Located at h ⊢
  rw [hcallback, hcall]
  cases hplace : s.callback <;> simp only [hplace, hbusy, hunbegun, false_and, false_or] at h ⊢
  case none | loading =>
    obtain ⟨hrunning, hnotMade⟩ := h
    obtain hrest | hrunning := hstep hrunning
    · exact .inl ⟨hrest, by rw [hnotMade]; exact ScreenOff.Call.noConfusion⟩
    · exact .inr ⟨hrunning, hnotMade⟩
  all_goals exact ⟨hstep h.1, h.2⟩

theorem check_stage {a a' : ScreenOff.State} (hnext : ScreenOff.next a .check = some a') :
    a'.call = a.call ∧ (a'.stage = .interrupted ∨ a'.stage = .suspendBegun) := by
  simp only [ScreenOff.next, Option.ite_none_right_eq_some] at hnext
  obtain ⟨-, hnext⟩ := hnext
  split at hnext <;> cases hnext
  · exact ⟨rfl, .inl rfl⟩
  · exact ⟨rfl, .inr rfl⟩

theorem setDisplay_stage {a a' : ScreenOff.State} (hnext : ScreenOff.next a .setDisplay = some a') :
    a'.call = a.call ∧ a'.stage = .displaySet := by
  simp only [ScreenOff.next, Option.ite_none_right_eq_some, Option.some.injEq] at hnext
  obtain ⟨-, rfl⟩ := hnext
  exact ⟨rfl, rfl⟩

/-- The two halves of `SetDisplayState`. -/
theorem inv_setDisplayState {attempt : ScreenOff.State} (h : Inv cfg s) (hqueued : 0 < s.queued)
    (hcleared : s.cleared = false) (hcall : attempt.call = s.attempt.call) (hstage : attempt.stage ≠ .idle) :
    Inv cfg { s with attempt := attempt } := by
  have hstep : Running s → Running { s with attempt := attempt } := by
    intro hrunning
    refine ⟨hrunning.queued, hrunning.powerkeyScreenOff, hstage, fun hset => ?_⟩
    rw [show s.cleared = true from hset] at hcleared
    cases hcleared
  have hbusy : ¬AtRest s := by
    intro hrest
    have := hrest.queued
    omega
  exact h.of_task (h.located.of_task hqueued hcall rfl fun hrunning => .inr (hstep hrunning))
    (fun hrest => absurd hrest hbusy) rfl rfl rfl rfl rfl rfl rfl

theorem inv_clear (h : Inv cfg s) (hnext : next cfg s .clear = some s') : Inv cfg s' := by
  simp only [next, Option.ite_none_right_eq_some, Option.some.injEq] at hnext
  obtain ⟨⟨hqueued, hcleared, hstage⟩, rfl⟩ := hnext
  refine h.of_task (h.located.of_task hqueued rfl rfl fun hrunning => .inr ?_) (fun hrest => ?_)
    rfl rfl rfl rfl rfl rfl rfl
  · exact ⟨hrunning.queued, rfl, hrunning.stage, fun _ => hstage⟩
  · have := hrest.queued
    omega

/-- Only a task that is on its way has cleared the flag. -/
theorem running_of_cleared (h : Located s) (hcleared : s.cleared = true) : Running s := by
  have hbusy : ¬AtRest s := by
    intro hrest
    have := hrest.cleared.symm.trans hcleared
    cases this
  have hunbegun : ¬Begun s := by
    intro hbegun
    have := hbegun.cleared.symm.trans hcleared
    cases this
  unfold Located at h
  split at h <;> simp only [hbusy, hunbegun, false_and, false_or] at h <;> exact h.1

theorem inv_finish (h : Inv cfg s) (hnext : next cfg s .finish = some s') : Inv cfg s' := by
  simp only [next, Option.ite_none_right_eq_some, Option.some.injEq] at hnext
  obtain ⟨hcleared, rfl⟩ := hnext
  have hrunning := running_of_cleared h.located hcleared
  have hqueued : 0 < s.queued := by
    have := hrunning.queued
    omega
  have hrest : AtRest { s with attempt := endAttempt s.attempt, queued := s.queued - 1, cleared := false } := by
    refine ⟨?_, rfl, ?_, rfl⟩
    · have := hrunning.queued
      dsimp only
      omega
    · have hscreen := hrunning.powerkeyScreenOff
      rw [hcleared] at hscreen
      exact hscreen
  exact h.of_task (h.located.of_task hqueued rfl rfl fun _ => .inl hrest) (fun _ => hrest)
    rfl rfl rfl rfl rfl rfl rfl

theorem Spaced.keep (h : Spaced s) (hsubmissions : s'.submissions = s.submissions)
    (htime : s'.lastPowerkeyUpTime = s.lastPowerkeyUpTime)
    (hcoming : s'.callback = .beginning ∨ s'.callback = .marking ∨ s'.callback = .submitting →
      s.callback = .beginning ∨ s.callback = .marking ∨ s.callback = .submitting) : Spaced s' := by
  constructor
  · rw [hsubmissions]
    exact h.lit
  · rw [hsubmissions]
    exact h.spaced
  · rw [hsubmissions, htime]
    exact h.past
  · intro hplace
    rw [hsubmissions, htime]
    exact h.coming (hcoming hplace)

theorem inv_down {matched : Bool} (h : Inv cfg s) (hnext : next cfg s (.down matched) = some s') : Inv cfg s' := by
  simp only [next, Option.ite_none_right_eq_some, Option.some.injEq] at hnext
  obtain ⟨⟨hplace, -⟩, rfl⟩ := hnext
  have hlocated := h.located
  unfold Located at hlocated
  simp only [hplace] at hlocated
  unfold receivePowerkeyDown
  split
  next hmatched =>
    rw [Bool.and_eq_true] at hmatched
    refine ⟨?_, ?_, h.spaced.keep rfl rfl fun hcoming => hcoming⟩
    · simp only [Located, hplace]
      exact hlocated.imp (fun hrest => ⟨hrest.1.keep rfl rfl rfl rfl, hrest.2⟩)
        fun hrunning => ⟨hrunning.1.keep rfl rfl rfl rfl, hrunning.2⟩
    · simp only [Recorded, hplace]
      exact fun _ => .inl ⟨trivial, hmatched.1, trivial⟩
  next =>
    refine ⟨?_, ?_, h.spaced.keep rfl rfl (by simp)⟩
    · exact hlocated.imp (fun hrest => ⟨hrest.1.keep rfl rfl rfl rfl, hrest.2⟩)
        fun hrunning => ⟨hrunning.1.keep rfl rfl rfl rfl, hrunning.2⟩
    · refine ⟨rfl, fun haction => ?_⟩
      dsimp only
      rw [if_pos haction]

theorem inv_load (h : Inv cfg s) (hnext : next cfg s .load = some s') : Inv cfg s' := by
  simp only [next, Option.ite_none_right_eq_some, Option.some.injEq] at hnext
  obtain ⟨hplace, rfl⟩ := hnext
  have hlocated := h.located
  have hrecorded := h.recorded
  simp only [Located, hplace] at hlocated
  simp only [Recorded, hplace] at hrecorded
  cases hscreen : s.powerkeyScreenOff with
  | true =>
    -- a task that has not cleared the flag is on its way, and nobody has tried to cancel it
    obtain ⟨hrest, -⟩ | ⟨hrunning, hcall⟩ := hlocated
    · rw [hrest.powerkeyScreenOff] at hscreen
      cases hscreen
    · exact ⟨⟨.inr (hrunning.keep rfl rfl hscreen.symm rfl), hcall⟩, hrecorded, h.spaced.keep rfl rfl (by simp)⟩
  | false =>
    refine ⟨?_, hrecorded, h.spaced.keep rfl rfl (by simp)⟩
    obtain ⟨hrest, hcall⟩ | ⟨hrunning, hcall⟩ := hlocated
    · exact ⟨.inl (hrest.keep rfl rfl hscreen.symm rfl), hcall⟩
    · refine ⟨.inr (hrunning.keep rfl rfl hscreen.symm rfl), ?_⟩
      rw [hcall]
      exact ScreenOff.Call.noConfusion

/-- A call that goes through waits or returns, and does not move the attempt. -/
theorem cancel_call {a a' : ScreenOff.State} {timely answer : Bool} (hnext : a.cancel timely answer = some a') :
    (∃ result, a'.call = .returned result timely) ∧ a'.stage = a.stage := by
  unfold ScreenOff.State.cancel at hnext
  split at hnext
  · cases hnext
    exact ⟨⟨true, rfl⟩, rfl⟩
  · split at hnext <;> cases hnext
    exact ⟨⟨answer, rfl⟩, rfl⟩

theorem tryToCancel_call {a a' : ScreenOff.State} {answer : Bool}
    (hnext : ScreenOff.next a (.tryToCancel answer) = some a') :
    (a'.call = .waiting ∨ ∃ result timely, a'.call = .returned result timely) ∧ a'.stage = a.stage := by
  simp only [ScreenOff.next, Option.ite_none_right_eq_some] at hnext
  obtain ⟨-, hnext⟩ := hnext
  unfold ScreenOff.State.tryToCancelScreenOff at hnext
  split at hnext
  · cases hnext
    exact ⟨.inr ⟨false, true, rfl⟩, rfl⟩
  · dsimp only at hnext
    split at hnext
    · obtain ⟨⟨result, hcall⟩, hstage⟩ := cancel_call hnext
      exact ⟨.inr ⟨result, true, hcall⟩, hstage⟩
    · cases hnext
      exact ⟨.inl rfl, rfl⟩

theorem resume_call {a a' : ScreenOff.State} {timeout answer : Bool}
    (hnext : ScreenOff.next a (.resume timeout answer) = some a') :
    (∃ result timely, a'.call = .returned result timely) ∧ a'.stage = a.stage := by
  simp only [ScreenOff.next, Option.ite_none_right_eq_some] at hnext
  obtain ⟨⟨result, hcall⟩, hstage⟩ := cancel_call hnext.2
  exact ⟨⟨result, _, hcall⟩, hstage⟩

/-- The canceller waits or has returned; the task is where it was. -/
theorem inv_setAttempt {attempt : ScreenOff.State} (h : Inv cfg s) (hplace : s.callback = .cancelling ∨ s.callback = .waiting)
    (hstage : attempt.stage = s.attempt.stage)
    (hcall : attempt.call = .waiting ∨ ∃ result timely, attempt.call = .returned result timely) :
    Inv cfg (s.setAttempt attempt) := by
  have hlocated := h.located
  have hrecorded := h.recorded
  have htask : AtRest s ∨ Running s := by
    obtain hplace | hplace := hplace <;> simp only [Located, hplace] at hlocated <;> exact hlocated.1
  have hheld : s.pressed = true ∧ (cfg.wakeupAction = true → s.wakeupReasonConfigMatchedFlag = false) := by
    obtain hplace | hplace := hplace <;> simp only [Recorded, hplace] at hrecorded <;> exact hrecorded
  have hkept : ∀ callback, AtRest { s with attempt := attempt, callback := callback } ∨
      Running { s with attempt := attempt, callback := callback } := by
    intro callback
    exact htask.imp (fun hrest => hrest.keep rfl rfl rfl hstage) fun hrunning => hrunning.keep rfl rfl rfl hstage
  obtain hwaiting | ⟨result, timely, hreturned⟩ := hcall
  · have heq : s.setAttempt attempt = { s with attempt := attempt, callback := .waiting } := by
      simp [State.setAttempt, hwaiting]
    rw [heq]
    exact ⟨⟨hkept .waiting, hwaiting⟩, hheld, h.spaced.keep rfl rfl (by simp)⟩
  · have heq : s.setAttempt attempt = { s with attempt := attempt, callback := .settling result } := by
      simp [State.setAttempt, hreturned]
    rw [heq]
    refine ⟨⟨hkept (.settling result), ?_⟩, hheld, h.spaced.keep rfl rfl (by simp)⟩
    dsimp only
    rw [hreturned]
    exact ScreenOff.Call.noConfusion

theorem inv_record {isScreenOn : Bool} (h : Inv cfg s) (hnext : next cfg s (.record isScreenOn) = some s') :
    Inv cfg s' := by
  simp only [next] at hnext
  split at hnext
  next poweroffInterrupted hplace =>
    simp only [Option.ite_none_right_eq_some, Option.some.injEq] at hnext
    obtain ⟨hqueued, rfl⟩ := hnext
    have hlocated := h.located
    have hrecorded := h.recorded
    simp only [Located, hplace] at hlocated
    simp only [Recorded, hplace] at hrecorded
    obtain ⟨htask, hcall⟩ := hlocated
    have hrest : AtRest s := by
      obtain hrest | hrunning := htask
      · exact hrest
      · have := hrunning.queued
        omega
    refine ⟨.inl ⟨hrest.keep rfl rfl rfl rfl, hcall⟩, fun _ => .inr ⟨hrest.keep rfl rfl rfl rfl, hrecorded.2, ?_⟩,
      h.spaced.keep rfl rfl (by simp [recordPowerKeyDown])⟩
    exact ⟨isScreenOn, poweroffInterrupted, rfl, rfl⟩
  next => cases hnext

/-- Letting go of the key, when nothing comes of it. -/
theorem inv_released (flag down : Bool) {time : Int} (h : Inv cfg s) (hplace : s.callback = .none)
    (htime : s.lastPowerkeyUpTime ≤ time) :
    Inv cfg { s with
      pressed := false
      wakeupReasonConfigMatchedFlag := flag
      powerkeyDownWhenScreenOff := down
      lastPowerkeyUpTime := time } := by
  have hlocated := h.located
  simp only [Located, hplace] at hlocated
  refine ⟨?_, ?_, h.spaced.lit, h.spaced.spaced, fun submission hmem => ?_, ?_⟩
  · simp only [Located, hplace]
    exact hlocated.imp (fun hrest => ⟨hrest.1.keep rfl rfl rfl rfl, hrest.2⟩)
      fun hrunning => ⟨hrunning.1.keep rfl rfl rfl rfl, hrunning.2⟩
  · simp [Recorded, hplace]
  · have hpast := h.spaced.past submission hmem
    dsimp only
    omega
  · simp [hplace]

/-- An accepted release comes late enough. -/
theorem accepted_time {now : Int} (htimely : isPowerkeyUpTooFrequent now s = false) (hnow : 0 < now) :
    s.lastPowerkeyUpTime ≤ now ∧ (0 < s.lastPowerkeyUpTime → s.lastPowerkeyUpTime + powerkeyMinInterval ≤ now) := by
  simp only [isPowerkeyUpTooFrequent, Bool.and_eq_false_iff, decide_eq_false_iff_not, ne_eq, not_not] at htimely
  simp only [powerkeyMinInterval] at htimely ⊢
  omega

theorem inv_up {now : Int} {curMode : Nat} {matched : Bool} (h : Inv cfg s) (hcareful : Careful s (.up now curMode matched))
    (hnext : next cfg s (.up now curMode matched) = some s') : Inv cfg s' := by
  simp only [next, Option.ite_none_right_eq_some, Option.some.injEq] at hnext
  obtain ⟨hplace, rfl⟩ := hnext
  obtain ⟨hpressed, hnow⟩ := hcareful
  unfold receivePowerkeyUp
  split
  · exact inv_released _ _ h hplace (Int.le_refl _)
  · split
    · exact inv_released _ _ h hplace (Int.le_refl _)
    next hunmatched =>
      cases htimely : isPowerkeyUpTooFrequent now s with
      | true => exact inv_released _ _ h hplace (Int.le_refl _)
      | false =>
        obtain ⟨hle, hapart⟩ := accepted_time htimely hnow
        cases hdown : s.powerkeyDownWhenScreenOff with
        | true =>
          have hkept := inv_released s.wakeupReasonConfigMatchedFlag false h hplace hle
          simpa [hplace] using hkept
        | false =>
          have hrecorded := h.recorded
          simp only [Recorded, hplace] at hrecorded
          obtain ⟨-, haction, hflag⟩ | ⟨hrest, -, isScreenOn, interrupting, hpress, hfound⟩ := hrecorded hpressed
          · -- a press whose reason is configured has its release skipped
            simp [haction, hflag] at hunmatched
          · have hlit : isScreenOn = true ∧ interrupting = false := by
              rw [hdown] at hfound
              cases isScreenOn <;> simp at hfound ⊢
              exact hfound
            have hlocated := h.located
            simp only [Located, hplace] at hlocated
            have hcall : s.attempt.call ≠ .waiting := by
              obtain ⟨-, hcall⟩ | ⟨hrunning, -⟩ := hlocated
              · exact hcall
              · have := hrunning.queued
                have := hrest.queued
                omega
            obtain ⟨rfl, rfl⟩ := hlit
            refine ⟨⟨hrest.keep rfl rfl rfl rfl, hcall⟩, ⟨hpress, rfl⟩, h.spaced.lit, h.spaced.spaced,
              fun submission hmem => ?_, fun _ => ⟨hnow, fun submission hmem => ?_⟩⟩
            · have hpast := h.spaced.past submission hmem
              show 0 < now ∧ submission.time ≤ now
              omega
            · have hpast := h.spaced.past submission hmem
              have hlate := hapart hpast.1
              show submission.time + powerkeyMinInterval ≤ now
              omega

theorem inv_begin (h : Inv cfg s) (hnext : next cfg s .begin = some s') : Inv cfg s' := by
  simp only [next, Option.ite_none_right_eq_some, Option.some.injEq] at hnext
  obtain ⟨hplace, rfl⟩ := hnext
  have hlocated := h.located
  have hrecorded := h.recorded
  simp only [Located, hplace] at hlocated
  simp only [Recorded, hplace] at hrecorded
  obtain ⟨hrest, hcall⟩ := hlocated
  refine ⟨⟨⟨hrest.queued, hrest.cleared, rfl, ?_⟩, hrest.powerkeyScreenOff⟩, hrecorded,
    h.spaced.keep rfl rfl fun _ => .inl hplace⟩
  exact if_neg hcall

theorem inv_mark (h : Inv cfg s) (hnext : next cfg s .mark = some s') : Inv cfg s' := by
  simp only [next, Option.ite_none_right_eq_some, Option.some.injEq] at hnext
  obtain ⟨hplace, rfl⟩ := hnext
  have hlocated := h.located
  have hrecorded := h.recorded
  simp only [Located, hplace] at hlocated
  simp only [Recorded, hplace] at hrecorded
  obtain ⟨hbegun, -⟩ := hlocated
  exact ⟨⟨⟨hbegun.queued, hbegun.cleared, hbegun.stage, hbegun.call⟩, rfl⟩, hrecorded,
    h.spaced.keep rfl rfl fun _ => .inr (.inl hplace)⟩

theorem inv_submit (h : Inv cfg s) (hnext : next cfg s .submit = some s') : Inv cfg s' := by
  simp only [next, Option.ite_none_right_eq_some, Option.some.injEq] at hnext
  obtain ⟨hplace, rfl⟩ := hnext
  have hlocated := h.located
  have hrecorded := h.recorded
  simp only [Located, hplace] at hlocated
  simp only [Recorded, hplace] at hrecorded
  obtain ⟨hbegun, hscreen⟩ := hlocated
  obtain ⟨hpositive, hapart⟩ := h.spaced.coming (.inr (.inr hplace))
  refine ⟨.inr ⟨⟨?_, ?_, ?_, fun _ => ?_⟩, hbegun.call⟩, fun hpressed => ?_, ⟨fun submission hmem => ?_, ?_,
    fun submission hmem => ?_, by simp⟩⟩
  · dsimp only
    rw [hbegun.queued]
  · dsimp only
    rw [hscreen, hbegun.cleared]
    rfl
  · dsimp only
    rw [hbegun.stage]
    exact ScreenOff.Stage.noConfusion
  · dsimp only
    rw [hbegun.stage]
    exact ScreenOff.Stage.noConfusion
  · rw [show s.pressed = true from hpressed] at hrecorded
    cases hrecorded.2
  · obtain rfl | hmem := List.mem_cons.mp hmem
    · exact hrecorded.1
    · exact h.spaced.lit submission hmem
  · exact List.pairwise_cons.mpr ⟨hapart, h.spaced.spaced⟩
  · obtain rfl | hmem := List.mem_cons.mp hmem
    · exact ⟨hpositive, Int.le_refl _⟩
    · exact h.spaced.past submission hmem

theorem inv_next {event : Event} (h : Inv cfg s) (hcareful : Careful s event) (hnext : next cfg s event = some s') :
    Inv cfg s' := by
  cases event with
  | down matched => exact inv_down h hnext
  | load => exact inv_load h hnext
  | tryToCancel answer =>
    simp only [next, Option.ite_none_right_eq_some, Option.map_eq_some_iff] at hnext
    obtain ⟨hplace, attempt, hcancel, rfl⟩ := hnext
    obtain ⟨hcall, hstage⟩ := tryToCancel_call hcancel
    exact inv_setAttempt h (.inl hplace) hstage hcall
  | resume timeout answer =>
    simp only [next, Option.ite_none_right_eq_some, Option.map_eq_some_iff] at hnext
    obtain ⟨hplace, attempt, hresume, rfl⟩ := hnext
    obtain ⟨hcall, hstage⟩ := resume_call hresume
    exact inv_setAttempt h (.inr hplace) hstage (.inr hcall)
  | record isScreenOn => exact inv_record h hnext
  | up now curMode matched => exact inv_up h hcareful hnext
  | begin => exact inv_begin h hnext
  | mark => exact inv_mark h hnext
  | submit => exact inv_submit h hnext
  | check =>
    simp only [next, Option.ite_none_right_eq_some, Option.map_eq_some_iff] at hnext
    obtain ⟨⟨hqueued, hcleared⟩, attempt, hcheck, rfl⟩ := hnext
    obtain ⟨hcall, hstage⟩ := check_stage hcheck
    apply inv_setDisplayState h hqueued hcleared hcall
    obtain hstage | hstage := hstage <;> rw [hstage] <;> exact ScreenOff.Stage.noConfusion
  | setDisplay =>
    simp only [next, Option.ite_none_right_eq_some, Option.map_eq_some_iff] at hnext
    obtain ⟨⟨hqueued, hcleared⟩, attempt, hset, rfl⟩ := hnext
    obtain ⟨hcall, hstage⟩ := setDisplay_stage hset
    apply inv_setDisplayState h hqueued hcleared hcall
    rw [hstage]
    exact ScreenOff.Stage.noConfusion
  | clear => exact inv_clear h hnext
  | finish => exact inv_finish h hnext

end Steps

/-! ## Runs -/

section Runs

variable {cfg : Config} {s s' : State}

theorem inv_of_reach (hreach : (system cfg).Reach Careful s) : Inv cfg s := by
  refine hreach.invariant (I := Inv cfg) (fun s hinit => ?_) (fun s s' e h hok hnext => inv_next h hok hnext)
  cases hinit
  refine ⟨.inl ⟨⟨rfl, rfl, rfl, rfl⟩, ScreenOff.Call.noConfusion⟩, fun hpressed => Bool.noConfusion hpressed,
    ⟨by simp, .nil, by simp, by simp⟩⟩

/-- An accepted release of a press submits a task unless the press found the screen off or interrupted a
screen-off. -/
theorem receivePowerkeyUp_begins (h : Inv cfg s) (hplace : s.callback = .none) (hpressed : s.pressed = true)
    (now : Int) (curMode : Nat) (matched : Bool) :
    (receivePowerkeyUp cfg now curMode matched s).callback = .beginning ↔
      isPowerkeyScreenOffBlocked cfg curMode = false ∧ (cfg.wakeupAction && matched) = false ∧
        isPowerkeyUpTooFrequent now s = false ∧ s.press = .recorded true false := by
  have hrecorded := h.recorded
  simp only [Recorded, hplace] at hrecorded
  unfold receivePowerkeyUp
  cases hblocked : isPowerkeyScreenOffBlocked cfg curMode with
  | true => simp [hplace]
  | false =>
    cases htimely : isPowerkeyUpTooFrequent now s with
    | true =>
      simp only [Bool.false_eq_true, if_false, if_true]
      split <;> simp [hplace]
    | false =>
      obtain ⟨hpress, haction, hflag⟩ | ⟨-, hflag, isScreenOn, interrupting, hpress, hfound⟩ := hrecorded hpressed
      · simp [hpress, haction, hflag, hplace]
      · have haction : (cfg.wakeupAction && (s.wakeupReasonConfigMatchedFlag || matched)) =
            (cfg.wakeupAction && matched) := by
          cases hbuild : cfg.wakeupAction with
          | false => rfl
          | true => rw [hflag hbuild, Bool.false_or]
        rw [haction, hfound, hpress]
        cases cfg.wakeupAction && matched <;> cases isScreenOn <;> cases interrupting <;> simp [hplace]

/-- Where interrupting is not allowed, nobody calls `TryToCancelScreenOff`. -/
def Patient (s : State) : Prop :=
  s.attempt.call = .notMade ∧ s.callback ≠ .cancelling ∧ s.callback ≠ .waiting ∧ (s.callback = .loading → s.queued = 0)

theorem patient_next {event : Event} (hbuild : cfg.allowInterrupting = false) (hinv : Inv cfg s) (h : Patient s)
    (hnext : next cfg s event = some s') : Patient s' := by
  obtain ⟨hcall, hcancelling, hwaiting, hloading⟩ := h
  cases event with
  | down matched =>
    simp only [next, hbuild, Bool.false_eq_true, false_or, Option.ite_none_right_eq_some, Option.some.injEq] at hnext
    obtain ⟨⟨hplace, hqueued⟩, rfl⟩ := hnext
    unfold receivePowerkeyDown
    split
    · exact ⟨hcall, hcancelling, hwaiting, hloading⟩
    · exact ⟨hcall, nofun, nofun, fun _ => hqueued⟩
  | load =>
    simp only [next, Option.ite_none_right_eq_some, Option.some.injEq] at hnext
    obtain ⟨hplace, rfl⟩ := hnext
    have hscreen : s.powerkeyScreenOff = false := by
      have hlocated := hinv.located
      simp only [Located, hplace] at hlocated
      obtain ⟨hrest, -⟩ | ⟨hrunning, -⟩ := hlocated
      · exact hrest.powerkeyScreenOff
      · have := hrunning.queued
        have := hloading hplace
        omega
    simp [Patient, hcall, hscreen]
  | tryToCancel answer =>
    simp only [next, Option.ite_none_right_eq_some] at hnext
    exact absurd hnext.1 hcancelling
  | resume timeout answer =>
    simp only [next, Option.ite_none_right_eq_some] at hnext
    exact absurd hnext.1 hwaiting
  | record isScreenOn =>
    simp only [next] at hnext
    split at hnext
    next =>
      simp only [Option.ite_none_right_eq_some, Option.some.injEq] at hnext
      obtain ⟨-, rfl⟩ := hnext
      exact ⟨hcall, nofun, nofun, nofun⟩
    next => cases hnext
  | up now curMode matched =>
    simp only [next, Option.ite_none_right_eq_some, Option.some.injEq] at hnext
    obtain ⟨hplace, rfl⟩ := hnext
    unfold receivePowerkeyUp
    split
    · exact ⟨hcall, hcancelling, hwaiting, hloading⟩
    · split
      · exact ⟨hcall, hcancelling, hwaiting, hloading⟩
      · split
        · exact ⟨hcall, hcancelling, hwaiting, hloading⟩
        · cases s.powerkeyDownWhenScreenOff <;> exact ⟨hcall, nofun, nofun, nofun⟩
  | begin =>
    simp only [next, Option.ite_none_right_eq_some, Option.some.injEq] at hnext
    obtain ⟨hplace, rfl⟩ := hnext
    refine ⟨?_, nofun, nofun, nofun⟩
    simp [beginAttempt, hcall]
  | mark =>
    simp only [next, Option.ite_none_right_eq_some, Option.some.injEq] at hnext
    obtain ⟨hplace, rfl⟩ := hnext
    exact ⟨hcall, nofun, nofun, nofun⟩
  | submit =>
    simp only [next, Option.ite_none_right_eq_some, Option.some.injEq] at hnext
    obtain ⟨hplace, rfl⟩ := hnext
    exact ⟨hcall, nofun, nofun, nofun⟩
  | check =>
    simp only [next, Option.ite_none_right_eq_some, Option.map_eq_some_iff] at hnext
    obtain ⟨⟨hqueued, -⟩, attempt, hcheck, rfl⟩ := hnext
    exact ⟨(check_stage hcheck).1.trans hcall, hcancelling, hwaiting, hloading⟩
  | setDisplay =>
    simp only [next, Option.ite_none_right_eq_some, Option.map_eq_some_iff] at hnext
    obtain ⟨⟨hqueued, -⟩, attempt, hset, rfl⟩ := hnext
    exact ⟨(setDisplay_stage hset).1.trans hcall, hcancelling, hwaiting, hloading⟩
  | clear =>
    simp only [next, Option.ite_none_right_eq_some, Option.some.injEq] at hnext
    obtain ⟨-, rfl⟩ := hnext
    exact ⟨hcall, hcancelling, hwaiting, hloading⟩
  | finish =>
    simp only [next, Option.ite_none_right_eq_some, Option.some.injEq] at hnext
    obtain ⟨-, rfl⟩ := hnext
    refine ⟨hcall, hcancelling, hwaiting, fun hplace => ?_⟩
    have := hloading hplace
    show s.queued - 1 = 0
    omega

/-! ## The attempts of `ScreenOff` -/

/-- The task asks for the display before it ends. -/
def Asks (s : State) : Event → Prop
  | .clear => s.attempt.stage ≠ .begun
  | _ => True

instance (s : State) (event : Event) : Decidable (Asks s event) :=
  match event with
  | .clear => inferInstanceAs (Decidable (_ ≠ _))
  | .down _ | .load | .tryToCancel _ | .resume _ _ | .record _ | .up _ _ _ | .begin | .mark | .submit | .check
  | .setDisplay | .finish => .isTrue trivial

/-- No attempt has been made yet, or the latest one is a state of `ScreenOff`. -/
structure Attempted (s : State) : Prop where
  known : (s.attempt = {} ∧ s.powerkeyScreenOff = false ∧ s.callback ≠ .cancelling ∧ s.callback ≠ .waiting) ∨
    ScreenOff.system.Reach ScreenOff.OneAtATime s.attempt
  asked : s.cleared = true → s.attempt.stage ≠ .begun

/-- Steps of the attempt go on from an attempt that has begun. -/
theorem Attempted.step {attempt : ScreenOff.State} {e : ScreenOff.Event} (h : Attempted s)
    (hbegun : s.attempt ≠ {} ∨ s.callback = .cancelling ∨ s.callback = .waiting) (hevent : e ≠ .begin)
    (hnext : ScreenOff.next s.attempt e = some attempt) :
    ScreenOff.system.Reach ScreenOff.OneAtATime attempt := by
  obtain ⟨hempty, -, hcancelling, hwaiting⟩ | hreach := h.known
  · obtain hne | hplace | hplace := hbegun
    · exact absurd hempty hne
    · exact absurd hplace hcancelling
    · exact absurd hplace hwaiting
  · exact hreach.step e (fun hbegin => absurd hbegin hevent) hnext

theorem ne_empty_of_stage {attempt : ScreenOff.State} (hstage : attempt.stage ≠ .idle) : attempt ≠ {} := by
  rintro rfl
  exact hstage rfl

/-- A step that leaves the attempt alone. -/
theorem Attempted.keep (h : Attempted s) (hattempt : s'.attempt = s.attempt) (hcleared : s'.cleared = s.cleared)
    (hknown : s.attempt = {} → s.powerkeyScreenOff = false →
      s'.powerkeyScreenOff = false ∧ s'.callback ≠ .cancelling ∧ s'.callback ≠ .waiting) : Attempted s' := by
  refine ⟨?_, ?_⟩
  · rw [hattempt]
    obtain ⟨hempty, hscreen, -⟩ | hreach := h.known
    · exact .inl ⟨hempty, hknown hempty hscreen⟩
    · exact .inr hreach
  · rw [hattempt, hcleared]
    exact h.asked

theorem attempted_setAttempt {attempt : ScreenOff.State} (h : Attempted s) (hstage : attempt.stage = s.attempt.stage)
    (hreach : ScreenOff.system.Reach ScreenOff.OneAtATime attempt) : Attempted (s.setAttempt attempt) := by
  refine ⟨.inr hreach, fun hcleared => ?_⟩
  show attempt.stage ≠ .begun
  rw [hstage]
  exact h.asked hcleared

theorem attempted_begin (hinv : Inv cfg s) (h : Attempted s) (hnext : next cfg s .begin = some s') : Attempted s' := by
  simp only [next, Option.ite_none_right_eq_some, Option.some.injEq] at hnext
  obtain ⟨hplace, rfl⟩ := hnext
  have hlocated := hinv.located
  simp only [Located, hplace] at hlocated
  obtain ⟨hrest, hcall⟩ := hlocated
  refine ⟨.inr ?_, fun hcleared => absurd (hrest.cleared.symm.trans hcleared) Bool.noConfusion⟩
  obtain ⟨hempty, -⟩ | hreach := h.known
  · rw [hempty]
    exact .init rfl
  · apply hreach.step .begin (fun _ => hcall)
    simp only [ScreenOff.system, ScreenOff.next, hrest.stage, if_true]
    rfl

theorem attempted_finish (hinv : Inv cfg s) (h : Attempted s) (hnext : next cfg s .finish = some s') : Attempted s' := by
  simp only [next, Option.ite_none_right_eq_some, Option.some.injEq] at hnext
  obtain ⟨hcleared, rfl⟩ := hnext
  have hrunning := running_of_cleared hinv.located hcleared
  have hbegun := h.asked hcleared
  have hsuspend := hrunning.notified hcleared
  have hover : s.attempt.stage = .interrupted ∨ s.attempt.stage = .displaySet := by
    cases hstage : s.attempt.stage with
    | idle => exact absurd hstage hrunning.stage
    | begun => exact absurd hstage hbegun
    | suspendBegun => exact absurd hstage hsuspend
    | interrupted => exact .inl rfl
    | displaySet => exact .inr rfl
  refine ⟨.inr ?_, nofun⟩
  apply h.step (e := .finish) (.inl (ne_empty_of_stage hrunning.stage)) ScreenOff.Event.noConfusion
  simp only [ScreenOff.next, if_pos hover]
  rfl

theorem attempted_next {event : Event} (hinv : Inv cfg s) (h : Attempted s) (hasks : Asks s event)
    (hnext : next cfg s event = some s') : Attempted s' := by
  have hlocated := hinv.located
  cases event with
  | down matched =>
    simp only [next, Option.ite_none_right_eq_some, Option.some.injEq] at hnext
    obtain ⟨⟨hplace, -⟩, rfl⟩ := hnext
    unfold receivePowerkeyDown
    split
    · refine h.keep rfl rfl ?_
      simp [hplace]
    · refine h.keep rfl rfl ?_
      simp
  | load =>
    simp only [next, Option.ite_none_right_eq_some, Option.some.injEq] at hnext
    obtain ⟨hplace, rfl⟩ := hnext
    refine h.keep rfl rfl ?_
    intro _ hscreen
    simp [hscreen]
  | tryToCancel answer =>
    simp only [next, Option.ite_none_right_eq_some, Option.map_eq_some_iff] at hnext
    obtain ⟨hplace, attempt, hcancel, rfl⟩ := hnext
    exact attempted_setAttempt h (tryToCancel_call hcancel).2
      (h.step (.inr (.inl hplace)) ScreenOff.Event.noConfusion hcancel)
  | resume timeout answer =>
    simp only [next, Option.ite_none_right_eq_some, Option.map_eq_some_iff] at hnext
    obtain ⟨hplace, attempt, hresume, rfl⟩ := hnext
    exact attempted_setAttempt h (resume_call hresume).2
      (h.step (.inr (.inr hplace)) ScreenOff.Event.noConfusion hresume)
  | record isScreenOn =>
    simp only [next] at hnext
    split at hnext
    next =>
      simp only [Option.ite_none_right_eq_some, Option.some.injEq] at hnext
      obtain ⟨-, rfl⟩ := hnext
      refine h.keep rfl rfl ?_
      intro _ hscreen
      exact ⟨hscreen, nofun, nofun⟩
    next => cases hnext
  | up now curMode matched =>
    simp only [next, Option.ite_none_right_eq_some, Option.some.injEq] at hnext
    obtain ⟨hplace, rfl⟩ := hnext
    unfold receivePowerkeyUp
    split
    · refine h.keep rfl rfl ?_
      simp [hplace]
    · split
      · refine h.keep rfl rfl ?_
        simp [hplace]
      · split
        · refine h.keep rfl rfl ?_
          simp [hplace]
        · refine h.keep rfl rfl ?_
          cases s.powerkeyDownWhenScreenOff <;> simp
  | begin => exact attempted_begin hinv h hnext
  | mark =>
    simp only [next, Option.ite_none_right_eq_some, Option.some.injEq] at hnext
    obtain ⟨hplace, rfl⟩ := hnext
    simp only [Located, hplace] at hlocated
    have hbegun : s.attempt ≠ {} := by
      apply ne_empty_of_stage
      rw [hlocated.1.stage]
      exact ScreenOff.Stage.noConfusion
    exact h.keep rfl rfl fun hempty => absurd hempty hbegun
  | submit =>
    simp only [next, Option.ite_none_right_eq_some, Option.some.injEq] at hnext
    obtain ⟨hplace, rfl⟩ := hnext
    refine h.keep rfl rfl ?_
    intro _ hscreen
    exact ⟨hscreen, nofun, nofun⟩
  | check =>
    simp only [next, Option.ite_none_right_eq_some, Option.map_eq_some_iff] at hnext
    obtain ⟨⟨hqueued, hcleared⟩, attempt, hcheck, rfl⟩ := hnext
    have hstage : s.attempt.stage ≠ .idle := by
      intro hidle
      simp [ScreenOff.next, hidle] at hcheck
    exact ⟨.inr (h.step (.inl (ne_empty_of_stage hstage)) ScreenOff.Event.noConfusion hcheck),
      fun hset => absurd (hcleared.symm.trans hset) Bool.noConfusion⟩
  | setDisplay =>
    simp only [next, Option.ite_none_right_eq_some, Option.map_eq_some_iff] at hnext
    obtain ⟨⟨hqueued, hcleared⟩, attempt, hset, rfl⟩ := hnext
    have hstage : s.attempt.stage ≠ .idle := by
      intro hidle
      simp [ScreenOff.next, hidle] at hset
    exact ⟨.inr (h.step (.inl (ne_empty_of_stage hstage)) ScreenOff.Event.noConfusion hset),
      fun hclear => absurd (hcleared.symm.trans hclear) Bool.noConfusion⟩
  | clear =>
    simp only [next, Option.ite_none_right_eq_some, Option.some.injEq] at hnext
    obtain ⟨-, rfl⟩ := hnext
    exact ⟨h.known.imp (fun hnone => ⟨hnone.1, rfl, hnone.2.2⟩) id, fun _ => hasks⟩
  | finish => exact attempted_finish hinv h hnext

/-! ## The results -/

/-- A task is submitted only for a press that found the screen on and interrupted nothing, never two within
the interval, and for every such press whose release is not refused. -/
theorem submitted_for_lit_press (hreach : (system cfg).Reach Careful s) :
    (∀ submission ∈ s.submissions, submission.press = .recorded true false) ∧
    (s.submissions.Pairwise fun later earlier => earlier.time + powerkeyMinInterval ≤ later.time) ∧
    ∀ now curMode matched s', s.pressed = true → next cfg s (.up now curMode matched) = some s' →
      (s'.callback = .beginning ↔
        isPowerkeyScreenOffBlocked cfg curMode = false ∧ (cfg.wakeupAction && matched) = false ∧
          isPowerkeyUpTooFrequent now s = false ∧ s.press = .recorded true false) := by
  have h := inv_of_reach hreach
  refine ⟨h.spaced.lit, h.spaced.spaced, fun now curMode matched s' hpressed hnext => ?_⟩
  simp only [next, Option.ite_none_right_eq_some, Option.some.injEq] at hnext
  obtain ⟨hplace, rfl⟩ := hnext
  exact receivePowerkeyUp_begins h hplace hpressed now curMode matched

end Runs

/-- The key turns the screen off, is pressed again and cancels that; letting go of it then does nothing.
With the next press the screen goes off. -/
def interruptedPress : List Event :=
  [.down false, .load, .record true, .up 1000 0 false, .begin, .mark, .submit, .check,
    .down false, .load, .tryToCancel true, .setDisplay, .clear, .finish, .record true, .up 2000 0 false,
    .down false, .load, .record true, .up 3000 0 false, .begin, .mark, .submit]

theorem submitted_for_lit_press_twice :
    ∃ s, (system {}).checkedRun Careful {} interruptedPress = some s ∧ s.submissions.map (·.time) = [3000, 1000] ∧
      ∀ submission ∈ s.submissions, submission.press = .recorded true false := by
  obtain ⟨s, hrun⟩ := Option.isSome_iff_exists.mp
    (by decide : ((system {}).checkedRun Careful {} interruptedPress).isSome = true)
  have htimes : ((system {}).checkedRun Careful {} interruptedPress).map (fun s => s.submissions.map (·.time)) =
      some [3000, 1000] := by decide
  rw [hrun, Option.map_some, Option.some.injEq] at htimes
  exact ⟨s, hrun, htimes, (submitted_for_lit_press (.of_checkedRun interruptedPress (.init rfl) hrun)).1⟩

/-- Two releases without a press between them: the second turns the screen off although the press had found
it off. -/
example : ((system {}).run {} [.down false, .load, .record false, .up 1000 0 false, .up 2000 0 false, .begin, .mark,
    .submit]).map (fun s => s.submissions.map (·.press)) = some [.recorded false false] := by
  decide

/-- An attempt begins when the one before is over and its canceller has returned; each has one canceller at
most, and none in the build without interrupting.  If every task asks for the display, the attempts are
those of `ScreenOff`. -/
theorem attempts_one_at_a_time {cfg : Config} {s : State} (hreach : (system cfg).Reach Careful s) :
    s.queued ≤ 1 ∧
    (s.callback = .cancelling → s.attempt.call = .notMade) ∧
    (∀ s', next cfg s .begin = some s' → s.queued = 0 ∧ s.attempt.stage = .idle ∧ s.attempt.call ≠ .waiting) ∧
    (cfg.allowInterrupting = false → s.attempt.call = .notMade) ∧
    ((system cfg).Reach (fun s e => Careful s e ∧ Asks s e) s →
      s.attempt = {} ∨ ScreenOff.system.Reach ScreenOff.OneAtATime s.attempt) := by
  have h := inv_of_reach hreach
  have hlocated := h.located
  refine ⟨?_, fun hplace => ?_, fun s' hnext => ?_, fun hbuild => ?_, fun hasking => ?_⟩
  · unfold Located at hlocated
    split at hlocated
    case h_1 | h_2 =>
      obtain ⟨hrest, -⟩ | ⟨hrunning, -⟩ := hlocated
      · exact hrest.queued ▸ Nat.zero_le 1
      · exact Nat.le_of_eq hrunning.queued
    case h_3 | h_4 | h_5 =>
      obtain ⟨hrest | hrunning, -⟩ := hlocated
      · exact hrest.queued ▸ Nat.zero_le 1
      · exact Nat.le_of_eq hrunning.queued
    all_goals exact hlocated.1.queued ▸ Nat.zero_le 1
  · simp only [Located, hplace] at hlocated
    exact hlocated.2
  · simp only [next, Option.ite_none_right_eq_some] at hnext
    simp only [Located, hnext.1] at hlocated
    exact ⟨hlocated.1.queued, hlocated.1.stage, hlocated.2⟩
  · have hboth : Inv cfg s ∧ Patient s := by
      refine hreach.invariant (I := fun s => Inv cfg s ∧ Patient s) (fun s hinit => ?_) fun s s' e hkept hok hnext =>
        ⟨inv_next hkept.1 hok hnext, patient_next hbuild hkept.1 hkept.2 hnext⟩
      refine ⟨inv_of_reach (.init hinit), ?_⟩
      cases hinit
      exact ⟨rfl, nofun, nofun, nofun⟩
    exact hboth.2.1
  · have hboth : Inv cfg s ∧ Attempted s := by
      refine hasking.invariant (I := fun s => Inv cfg s ∧ Attempted s) (fun s hinit => ?_) fun s s' e hkept hok hnext =>
        ⟨inv_next hkept.1 hok.1 hnext, attempted_next hkept.1 hkept.2 hok.2 hnext⟩
      refine ⟨inv_of_reach (.init hinit), ?_⟩
      cases hinit
      exact ⟨.inl ⟨rfl, rfl, nofun, nofun⟩, nofun⟩
    exact hboth.2.known.imp (fun hnone => hnone.1) id

/-- In the run above, up to the call that cancels the first attempt. -/
theorem attempts_one_at_a_time_interrupted :
    ∃ s, (system {}).checkedRun (fun s e => Careful s e ∧ Asks s e) {} (interruptedPress.take 11) = some s ∧
      s.queued ≤ 1 ∧ s.attempt.call = .returned true true ∧ ScreenOff.system.Reach ScreenOff.OneAtATime s.attempt := by
  obtain ⟨s, hrun⟩ := Option.isSome_iff_exists.mp (by decide :
    ((system {}).checkedRun (fun s e => Careful s e ∧ Asks s e) {} (interruptedPress.take 11)).isSome = true)
  have hcall : ((system {}).checkedRun (fun s e => Careful s e ∧ Asks s e) {} (interruptedPress.take 11)).map
      (fun s => s.attempt.call) = some (.returned true true) := by decide
  rw [hrun, Option.map_some, Option.some.injEq] at hcall
  have hasking : (system {}).Reach (fun s e => Careful s e ∧ Asks s e) s :=
    .of_checkedRun (interruptedPress.take 11) (.init rfl) hrun
  have hreach : (system {}).Reach Careful s := hasking.mono fun _ _ h => h.1
  obtain ⟨hqueued, -, -, -, hattempts⟩ := attempts_one_at_a_time hreach
  obtain hempty | hattempt := hattempts hasking
  · rw [hempty] at hcall
    cases hcall
  · exact ⟨s, hrun, hqueued, hcall, hattempt⟩

end PowerMgr.StateMachine.PowerKey
