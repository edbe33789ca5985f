import PowerMgr.StateMachine.Transit
import Mathlib.Logic.Function.Basic

/-! # Interrupting a forced suspend

Embedding of `SuspendController::HandleForceSuspendIgnoringWakelock` with the functions it is made
of, and of `InterruptForceSuspendCallback` (`suspend_controller.cpp`).  The service serialises the
attempts by `suspendMutex_`; the tasks that run their callbacks and the interrupts come from other
threads.  A step is a critical section of `forceSuspendCbMutex_`, a `SetState` or the call of the
HDI.

* `Attempt`, `Stage` — the attempt that has `suspendMutex_` and the place it has reached;
* `Controller` — the flags, the state machine and the tasks under way;
* `Record` — what has become of an attempt, kept for each of them by its number;
* `Closed`, `AtStage` — the invariant, for attempts that are over and for the one under way;
* `interrupt_final` — the result.

The tag of an attempt is `mem` or `ulsr`; the service refuses any other.
-/

namespace PowerMgr.StateMachine.ForceSuspend

inductive Tag where
  | mem
  | ulsr
  deriving DecidableEq, Repr

/-- The place an attempt has reached. -/
inductive Stage where
  -- before `SetState(INACTIVE)`
  | inactive
  -- before `SetState(SLEEP)`
  | sleep
  -- `SetState(SLEEP)` has failed, before `RollbackForceSuspendState`
  | rollbackState
  -- before the critical section of `StartForceSuspendCallbacks`
  | start
  -- before its `SubmitTask`
  | submit
  -- at the condition of `WaitForceSuspendCallbacks`
  | wait
  -- before `ForceSuspendEx`
  | hdi
  -- `ForceSuspendEx` has failed, before `RollbackForceSuspendState`
  | rollbackAfterCallbacks
  -- before `ScheduleWakeupAfterInterrupt`
  | scheduleWakeup
  deriving DecidableEq, Repr

structure Attempt where
  number : Nat
  reason : StateChangeReason
  tag : Tag
  stage : Stage
  deriving DecidableEq, Repr

/-- What an interrupt that has been accepted still has to do; it carries the number of the attempt
that it met. -/
inductive Interrupt where
  | rollbackState (number : Nat)
  | scheduleWakeup (number : Nat)
  deriving DecidableEq, Repr

/-- The members of the suspend controller, the attempt that has `suspendMutex_`, and the tasks it
has submitted: those that run callbacks, by attempt, and those that run wakeup callbacks, by tag. -/
structure Controller where
  machine : Machine
  forceSuspendSkipHdi : Bool := false
  forceSuspendCallbackPending : Bool := false
  forceSuspendCallbackFinished : Bool := false
  forceSuspendTag : Tag := .mem
  attempt : Option Attempt := none
  callbackTasks : List Nat := []
  wakeupTasks : List Tag := []

/-- What has become of an attempt. -/
structure Record where
  -- `StartForceSuspendCallbacks` has been run
  started : Bool := false
  -- an interrupt was accepted while it was in progress
  interrupted : Bool := false
  -- the answer to its call of `ForceSuspendEx`
  forceSuspendEx : Option Bool := none
  -- what `HandleForceSuspendIgnoringWakelock` has returned
  result : Option Bool := none
  deriving DecidableEq, Repr

/-- `count` numbers the attempts; `replies` holds what interrupts have returned: `none` for `false`,
and for `true` the number of the attempt that was in progress. -/
structure State where
  controller : Controller
  interrupts : Nat → Option Interrupt := fun _ => none
  count : Nat := 0
  records : Nat → Record := fun _ => {}
  replies : List (Option Nat) := []

inductive Event where
  -- an attempt gets `suspendMutex_`
  | attempt (reason : StateChangeReason) (tag : Tag)
  -- the attempt goes on; the answers are for a `SetState`, `hdiOk` is what the HDI says
  | advance (answers : Answers) (hdiOk : Bool)
  -- the callbacks of an attempt have been run
  | callbacksDone (number : Nat)
  -- a call of `InterruptForceSuspendCallback`, up to the end of its critical section
  | interrupt (caller : Nat)
  | rollback (caller : Nat) (answers : Answers)
  | schedule (caller : Nat)

/-! ## The functions of the controller -/

def rollbackForceSuspendState (cfg : Config) (answers : Answers) (c : Controller) : Controller :=
  { c with machine := (setState cfg answers .awake .application true c.machine).1 }

/-- `ScheduleWakeupAfterInterrupt`: the tag is the one of the latest attempt that has started. -/
def scheduleWakeupAfterInterrupt (c : Controller) : Controller :=
  { c with wakeupTasks := c.forceSuspendTag :: c.wakeupTasks }

/-- The critical section of `StartForceSuspendCallbacks`. -/
def startForceSuspendCallbacks (tag : Tag) (c : Controller) : Controller :=
  { c with
    forceSuspendSkipHdi := false
    forceSuspendCallbackPending := true
    forceSuspendCallbackFinished := false
    forceSuspendTag := tag }

/-- The condition that `WaitForceSuspendCallbacks` waits for. -/
def callbacksOver (c : Controller) : Bool :=
  c.forceSuspendSkipHdi || c.forceSuspendCallbackFinished

/-- The rest of the critical section of `WaitForceSuspendCallbacks`, which has read
`forceSuspendSkipHdi_` by the exchange. -/
def waitForceSuspendCallbacks (c : Controller) : Controller :=
  { c with forceSuspendCallbackPending := false, forceSuspendSkipHdi := false }

/-! ## Steps -/

def Controller.goto (c : Controller) (a : Attempt) (stage : Stage) : Controller :=
  { c with attempt := some { a with stage := stage } }

def State.note (s : State) (number : Nat) (f : Record → Record) : State :=
  { s with records := Function.update s.records number (f (s.records number)) }

/-- The attempt returns and gives `suspendMutex_` back. -/
def State.returned (s : State) (a : Attempt) (result : Bool) : State :=
  { s with controller := { s.controller with attempt := none } }.note a.number fun r => { r with result := some result }

/-- The next step of `HandleForceSuspendIgnoringWakelock`; `none` while it waits. -/
def advance (cfg : Config) (answers : Answers) (hdiOk : Bool) (s : State) (a : Attempt) : Option State :=
  let c := s.controller
  match a.stage with
  | .inactive =>
    let (m, ok) := setState cfg answers .inactive a.reason true c.machine
    if ok then some { s with controller := { c with machine := m }.goto a .sleep }
    else some ({ s with controller := { c with machine := m } }.returned a false)
  | .sleep =>
    let (m, ok) := setState cfg answers .sleep a.reason true c.machine
    some { s with controller := { c with machine := m }.goto a (if ok then .start else .rollbackState) }
  | .rollbackState => some ({ s with controller := rollbackForceSuspendState cfg answers c }.returned a false)
  | .start =>
    some ({ s with controller := (startForceSuspendCallbacks a.tag c).goto a .submit }.note a.number
      fun r => { r with started := true })
  | .submit => some { s with controller := { c with callbackTasks := a.number :: c.callbackTasks }.goto a .wait }
  | .wait =>
    if callbacksOver c then
      if c.forceSuspendSkipHdi then
        some ({ s with controller := waitForceSuspendCallbacks c }.returned a false)
      else some { s with controller := (waitForceSuspendCallbacks c).goto a .hdi }
    else none
  | .hdi =>
    let s := s.note a.number fun r => { r with forceSuspendEx := some hdiOk }
    if hdiOk then some (s.returned a true) else some { s with controller := c.goto a .rollbackAfterCallbacks }
  | .rollbackAfterCallbacks =>
    some { s with controller := (rollbackForceSuspendState cfg answers c).goto a .scheduleWakeup }
  | .scheduleWakeup => some ({ s with controller := scheduleWakeupAfterInterrupt c }.returned a false)

/-- The number of the attempt that has `suspendMutex_`; attempts are numbered from 1. -/
def State.inProgress (s : State) : Nat :=
  (s.controller.attempt.map Attempt.number).getD 0

/-- `InterruptForceSuspendCallback` up to the end of its critical section. -/
def interruptForceSuspendCallback (caller : Nat) (s : State) : State :=
  if !s.controller.forceSuspendCallbackPending then { s with replies := none :: s.replies }
  else
    { s with
      controller := { s.controller with forceSuspendSkipHdi := true }
      interrupts := Function.update s.interrupts caller (some (.rollbackState s.inProgress)) }.note s.inProgress
      fun r => { r with interrupted := true }

def next (cfg : Config) (s : State) : Event → Option State
  | .attempt reason tag =>
    match s.controller.attempt with
    | some _ => none
    | none => some { s with
        count := s.count + 1
        controller.attempt := some { number := s.count + 1, reason := reason, tag := tag, stage := .inactive } }
  | .advance answers hdiOk =>
    match s.controller.attempt with
    | some a => advance cfg answers hdiOk s a
    | none => none
  | .callbacksDone number =>
    if number ∈ s.controller.callbackTasks then
      some { s with controller := { s.controller with
        callbackTasks := s.controller.callbackTasks.erase number
        forceSuspendCallbackFinished := true } }
    else none
  | .interrupt caller =>
    match s.interrupts caller with
    | none => some (interruptForceSuspendCallback caller s)
    | some _ => none
  | .rollback caller answers =>
    match s.interrupts caller with
    | some (.rollbackState number) => some { s with
        controller := rollbackForceSuspendState cfg answers s.controller
        interrupts := Function.update s.interrupts caller (some (.scheduleWakeup number)) }
    | _ => none
  | .schedule caller =>
    match s.interrupts caller with
    | some (.scheduleWakeup number) => some { s with
        controller := scheduleWakeupAfterInterrupt s.controller
        interrupts := Function.update s.interrupts caller none
        replies := some number :: s.replies }
    | _ => none

/-- Runs begin with no attempt and no interrupt made, whatever the state machine is in. -/
def system (cfg : Config) : Lib.System State Event where
  init := fun s => ∃ m, s = { controller := { machine := m } }
  next := next cfg

/-! ## The invariant -/

/-- The record of an attempt that is over, or has not begun: if it was interrupted it has returned
`false` without calling the HDI, and once its callbacks were started it returns `false` for no
other reason than an interrupt or the HDI. -/
structure Closed (r : Record) : Prop where
  final : r.interrupted = true → r.forceSuspendEx = none ∧ r.result = some false
  cause : r.started = true → r.result = some false → r.interrupted = true ∨ r.forceSuspendEx = some false

def AtStage (c : Controller) (r : Record) : Stage → Prop
  | .inactive | .sleep | .rollbackState | .start => c.forceSuspendCallbackPending = false ∧ r = {}
  | .submit | .wait => c.forceSuspendCallbackPending = true ∧
      r = { started := true, interrupted := c.forceSuspendSkipHdi }
  | .hdi => c.forceSuspendCallbackPending = false ∧ r = { started := true }
  | .rollbackAfterCallbacks | .scheduleWakeup => c.forceSuspendCallbackPending = false ∧
      r = { started := true, forceSuspendEx := some false }

/-- The invariant.  Interrupts that have been accepted, and are on their way or have returned, met
an attempt whose record says so. -/
structure Inv (s : State) : Prop where
  closed : ∀ number, (∀ a, s.controller.attempt = some a → a.number ≠ number) → Closed (s.records number)
  fresh : ∀ number, s.count < number → s.records number = {}
  attempt : ∀ a, s.controller.attempt = some a →
    a.number = s.count ∧ AtStage s.controller (s.records a.number) a.stage
  idle : s.controller.attempt = none → s.controller.forceSuspendCallbackPending = false
  interrupts : ∀ caller number, s.interrupts caller = some (.rollbackState number) ∨
    s.interrupts caller = some (.scheduleWakeup number) → (s.records number).interrupted = true
  replies : ∀ number, some number ∈ s.replies → (s.records number).interrupted = true

theorem closed_fresh : Closed {} :=
  ⟨nofun, nofun⟩

/-! ## Steps of the attempt -/

variable {cfg : Config} {s s' : State} {a : Attempt}

/-- The attempt moves on within its function: the other records and the interrupts stay. -/
structure Proceeds (s s' : State) (a : Attempt) (r : Record) : Prop where
  records : s'.records = Function.update s.records a.number r
  count : s'.count = s.count
  interrupts : s'.interrupts = s.interrupts
  replies : s'.replies = s.replies
  interrupted : r.interrupted = (s.records a.number).interrupted

/-- The interrupts that met an attempt keep the record that says so. -/
theorem Proceeds.interrupted_of {r : Record} {number : Nat} (h : Proceeds s s' a r)
    (hnumber : (s.records number).interrupted = true) : (s'.records number).interrupted = true := by
  rw [h.records, Function.update_apply]
  split
  next hsame =>
    subst hsame
    rw [h.interrupted, hnumber]
  next => exact hnumber

/-- The invariant after a step of the attempt: its own record has to fit where it stands now. -/
theorem Inv.proceeds {r : Record} (h : Inv s) (ha : s.controller.attempt = some a) (hproceeds : Proceeds s s' a r)
    (hclosed : s'.controller.attempt = none → Closed r ∧ s'.controller.forceSuspendCallbackPending = false)
    (hattempt : ∀ a', s'.controller.attempt = some a' → a'.number = a.number ∧ AtStage s'.controller r a'.stage) :
    Inv s' := by
  have hcount := (h.attempt a ha).1
  refine ⟨fun number hother => ?_, fun number hlater => ?_, fun a' ha' => ?_, fun hnone => (hclosed hnone).2,
    fun caller number hcaller => ?_, fun number hreply => ?_⟩
  · rw [hproceeds.records, Function.update_apply]
    split
    next hsame =>
      cases ha' : s'.controller.attempt with
      | none => exact (hclosed ha').1
      | some a' => exact absurd ((hattempt a' ha').1.trans hsame.symm) (hother a' ha')
    next hne =>
      refine h.closed number fun a' ha' => ?_
      rw [ha] at ha'
      cases ha'
      exact fun hsame => hne hsame.symm
  · rw [hproceeds.count] at hlater
    have hne : number ≠ a.number := by omega
    rw [hproceeds.records, Function.update_of_ne hne]
    exact h.fresh number hlater
  · obtain ⟨hnumber, hstage⟩ := hattempt a' ha'
    refine ⟨by rw [hnumber, hproceeds.count, hcount], ?_⟩
    rw [hnumber, hproceeds.records, Function.update_self]
    exact hstage
  · rw [hproceeds.interrupts] at hcaller
    exact hproceeds.interrupted_of (h.interrupts caller number hcaller)
  · rw [hproceeds.replies] at hreply
    exact hproceeds.interrupted_of (h.replies number hreply)

theorem Inv.goto {c : Controller} {stage : Stage} (h : Inv s) (ha : s.controller.attempt = some a)
    (hstage : AtStage (c.goto a stage) (s.records a.number) stage) : Inv { s with controller := c.goto a stage } := by
  have hproceeds : Proceeds s { s with controller := c.goto a stage } a (s.records a.number) :=
    ⟨(Function.update_eq_self a.number s.records).symm, rfl, rfl, rfl, rfl⟩
  refine h.proceeds ha hproceeds (fun hnone => ?_) fun a' ha' => ?_
  · cases hnone
  · cases ha'
    exact ⟨rfl, hstage⟩

theorem Inv.returned {c : Controller} (result : Bool) (h : Inv s) (ha : s.controller.attempt = some a)
    (hidle : c.forceSuspendCallbackPending = false)
    (hclosed : Closed { s.records a.number with result := some result }) :
    Inv ({ s with controller := c }.returned a result) := by
  have hproceeds : Proceeds s ({ s with controller := c }.returned a result) a
      { s.records a.number with result := some result } := ⟨rfl, rfl, rfl, rfl, rfl⟩
  refine h.proceeds ha hproceeds (fun _ => ⟨hclosed, hidle⟩) fun a' ha' => ?_
  cases ha'

theorem Inv.noted {r : Record} {a' : Attempt} (h : Inv s) (ha : s.controller.attempt = some a)
    (hproceeds : Proceeds s s' a r) (ha' : s'.controller.attempt = some a') (hnumber : a'.number = a.number)
    (hstage : AtStage s'.controller r a'.stage) : Inv s' := by
  refine h.proceeds ha hproceeds (fun hnone => ?_) fun a'' ha'' => ?_
  · cases hnone.symm.trans ha'
  · cases ha'.symm.trans ha''
    exact ⟨hnumber, hstage⟩

theorem inv_advance (answers : Answers) (hdiOk : Bool) (h : Inv s) (ha : s.controller.attempt = some a)
    (hnext : advance cfg answers hdiOk s a = some s') : Inv s' := by
  have hstage := (h.attempt a ha).2
  obtain ⟨number, reason, tag, stage⟩ := a
  cases stage with
  | inactive =>
    simp only [advance] at hnext
    split at hnext
    · cases hnext
      exact h.goto ha hstage
    · cases hnext
      refine h.returned false ha hstage.1 ?_
      rw [hstage.2]
      exact ⟨nofun, nofun⟩
  | sleep =>
    cases hnext
    apply h.goto ha
    split <;> exact hstage
  | rollbackState =>
    cases hnext
    refine h.returned false ha hstage.1 ?_
    rw [hstage.2]
    exact ⟨nofun, nofun⟩
  | start =>
    -- `StartForceSuspendCallbacks` clears what an interrupt of an earlier attempt may have left
    cases hnext
    refine h.noted ha ⟨rfl, rfl, rfl, rfl, rfl⟩ rfl rfl ⟨rfl, ?_⟩
    rw [hstage.2]
    rfl
  | submit =>
    cases hnext
    exact h.goto ha hstage
  | wait =>
    -- `WaitForceSuspendCallbacks`: the flag says whether this attempt was interrupted
    simp only [advance] at hnext
    split at hnext
    case isFalse => cases hnext
    split at hnext
    next hskip =>
      cases hnext
      refine h.returned false ha rfl ?_
      rw [hstage.2, hskip]
      exact ⟨fun _ => ⟨rfl, rfl⟩, fun _ _ => .inl rfl⟩
    next hskip =>
      cases hnext
      refine h.goto ha ⟨rfl, ?_⟩
      rw [hstage.2, Bool.eq_false_iff.mpr hskip]
  | hdi =>
    simp only [advance] at hnext
    split at hnext
    next hok =>
      cases hnext
      refine h.proceeds ha (r := { started := true, forceSuspendEx := some hdiOk, result := some true })
        ⟨?_, rfl, rfl, rfl, ?_⟩ (fun _ => ⟨⟨nofun, nofun⟩, hstage.1⟩) fun a' ha' => ?_
      · simp only [State.returned, State.note, Function.update_self, Function.update_idem, hstage.2]
      · rw [hstage.2]
      · cases ha'
    next hok =>
      cases hnext
      refine h.noted ha ⟨rfl, rfl, rfl, rfl, rfl⟩ rfl rfl ⟨hstage.1, ?_⟩
      rw [hstage.2, Bool.eq_false_iff.mpr hok]
  | rollbackAfterCallbacks =>
    cases hnext
    exact h.goto ha hstage
  | scheduleWakeup =>
    cases hnext
    refine h.returned false ha hstage.1 ?_
    rw [hstage.2]
    exact ⟨nofun, fun _ _ => .inr rfl⟩

/-! ## Steps of the others -/

/-- A step that touches neither the attempt, nor the flags that an interrupt reads and writes, nor
the records. -/
theorem Inv.frame (h : Inv s) (hattempt : s'.controller.attempt = s.controller.attempt)
    (hpending : s'.controller.forceSuspendCallbackPending = s.controller.forceSuspendCallbackPending)
    (hskip : s'.controller.forceSuspendSkipHdi = s.controller.forceSuspendSkipHdi)
    (hcount : s'.count = s.count) (hrecords : s'.records = s.records)
    (hinterrupts : ∀ caller number, s'.interrupts caller = some (.rollbackState number) ∨
      s'.interrupts caller = some (.scheduleWakeup number) → (s.records number).interrupted = true)
    (hreplies : ∀ number, some number ∈ s'.replies → (s.records number).interrupted = true) : Inv s' := by
  have hstage : ∀ r stage, AtStage s.controller r stage → AtStage s'.controller r stage := by
    intro r stage hat
    cases stage <;> simp only [AtStage, hpending, hskip] at hat ⊢ <;> exact hat
  refine ⟨fun number hother => ?_, fun number hlater => ?_, fun a ha => ?_, fun hnone => ?_,
    fun caller number hcaller => ?_, fun number hreply => ?_⟩
  · rw [hrecords]
    exact h.closed number fun a ha => hother a (hattempt ▸ ha)
  · rw [hrecords]
    exact h.fresh number (hcount ▸ hlater)
  · rw [hattempt] at ha
    obtain ⟨hnumber, hat⟩ := h.attempt a ha
    rw [hcount, hrecords]
    exact ⟨hnumber, hstage _ _ hat⟩
  · rw [hattempt] at hnone
    rw [hpending]
    exact h.idle hnone
  · rw [hrecords]
    exact hinterrupts caller number hcaller
  · rw [hrecords]
    exact hreplies number hreply

theorem inv_attempt (reason : StateChangeReason) (tag : Tag) (h : Inv s) (hfree : s.controller.attempt = none) :
    Inv { s with
      count := s.count + 1
      controller.attempt := some { number := s.count + 1, reason := reason, tag := tag, stage := .inactive } } := by
  have hnew : s.records (s.count + 1) = {} := h.fresh _ (Nat.lt_succ_self _)
  refine ⟨fun number _ => ?_, fun number hlater => ?_, fun a ha => ?_, nofun, h.interrupts, h.replies⟩
  · exact h.closed number fun a ha => by rw [hfree] at ha; cases ha
  · exact h.fresh number (Nat.lt_of_succ_lt hlater)
  · cases ha
    exact ⟨rfl, h.idle hfree, hnew⟩

theorem Inv.pending (h : Inv s) (hpending : s.controller.forceSuspendCallbackPending = true) :
    ∃ a, s.controller.attempt = some a ∧ (a.stage = .submit ∨ a.stage = .wait) ∧ s.inProgress = a.number := by
  cases ha : s.controller.attempt with
  | none =>
    rw [h.idle ha] at hpending
    cases hpending
  | some a =>
    refine ⟨a, rfl, ?_, ?_⟩
    · have hstage := (h.attempt a ha).2
      cases hat : a.stage <;> rw [hat] at hstage <;> simp_all [AtStage]
    · rw [State.inProgress, ha]
      rfl

theorem interrupt_refused (caller : Nat) (hpending : s.controller.forceSuspendCallbackPending = false) :
    interruptForceSuspendCallback caller s = { s with replies := none :: s.replies } := by
  rw [interruptForceSuspendCallback, hpending]
  rfl

/-- An interrupt that is accepted sets the flag and leaves its mark on the record of the attempt in
progress. -/
structure Accepts (s s' : State) (caller : Nat) (a : Attempt) : Prop where
  controller : s'.controller = { s.controller with forceSuspendSkipHdi := true }
  interrupts : s'.interrupts = Function.update s.interrupts caller (some (.rollbackState a.number))
  records : s'.records = Function.update s.records a.number { started := true, interrupted := true }
  count : s'.count = s.count
  replies : s'.replies = s.replies

theorem Accepts.interrupted_of {caller number : Nat} (h : Accepts s s' caller a)
    (hnumber : (s.records number).interrupted = true) : (s'.records number).interrupted = true := by
  rw [h.records, Function.update_apply]
  split
  · rfl
  · exact hnumber

theorem interrupt_accepted (caller : Nat) (h : Inv s) (hpending : s.controller.forceSuspendCallbackPending = true) :
    ∃ a, s.controller.attempt = some a ∧ (a.stage = .submit ∨ a.stage = .wait) ∧
      Accepts s (interruptForceSuspendCallback caller s) caller a := by
  obtain ⟨a, ha, hwaits, hnumber⟩ := h.pending hpending
  have hstage := (h.attempt a ha).2
  have hr : s.records a.number = { started := true, interrupted := s.controller.forceSuspendSkipHdi } := by
    obtain hat | hat := hwaits <;> rw [hat] at hstage <;> exact hstage.2
  refine ⟨a, ha, hwaits, ?_⟩
  rw [interruptForceSuspendCallback, hpending, hnumber]
  refine ⟨rfl, rfl, ?_, rfl, rfl⟩
  simp only [Bool.not_true, Bool.false_eq_true, if_false, State.note, hr]

theorem Inv.accepts {caller : Nat} (h : Inv s) (ha : s.controller.attempt = some a)
    (hwaits : a.stage = .submit ∨ a.stage = .wait) (haccepts : Accepts s s' caller a) : Inv s' := by
  obtain ⟨hcount, hstage⟩ := h.attempt a ha
  have hpending : s.controller.forceSuspendCallbackPending = true := by
    obtain hat | hat := hwaits <;> rw [hat] at hstage <;> exact hstage.1
  have hattempt : s'.controller.attempt = some a := by
    rw [haccepts.controller]
    exact ha
  refine ⟨fun number hother => ?_, fun number hlater => ?_, fun a' ha' => ?_, fun hnone => ?_,
    fun caller' number hcaller => ?_, fun number hreply => ?_⟩
  · rw [haccepts.records, Function.update_of_ne (hother a hattempt).symm]
    refine h.closed number fun a' ha' => ?_
    cases ha.symm.trans ha'
    exact hother a hattempt
  · rw [haccepts.count] at hlater
    have hne : number ≠ a.number := by omega
    rw [haccepts.records, Function.update_of_ne hne]
    exact h.fresh number hlater
  · cases hattempt.symm.trans ha'
    refine ⟨haccepts.count ▸ hcount, ?_⟩
    rw [haccepts.records, Function.update_self, haccepts.controller]
    obtain hat | hat := hwaits <;> rw [hat] <;> exact ⟨hpending, rfl⟩
  · cases hattempt.symm.trans hnone
  · rw [haccepts.interrupts] at hcaller
    obtain hcaller | hcaller := hcaller
    · obtain ⟨-, hmoved⟩ | ⟨-, hold⟩ := Lib.update_cases hcaller
      · cases hmoved
        rw [haccepts.records, Function.update_self]
      · exact haccepts.interrupted_of (h.interrupts caller' number (.inl hold))
    · obtain ⟨-, hmoved⟩ | ⟨-, hold⟩ := Lib.update_cases hcaller
      · cases hmoved
      · exact haccepts.interrupted_of (h.interrupts caller' number (.inr hold))
  · rw [haccepts.replies] at hreply
    exact haccepts.interrupted_of (h.replies number hreply)

theorem inv_interrupt (caller : Nat) (h : Inv s) : Inv (interruptForceSuspendCallback caller s) := by
  cases hpending : s.controller.forceSuspendCallbackPending with
  | false =>
    rw [interrupt_refused caller hpending]
    refine h.frame rfl rfl rfl rfl rfl h.interrupts fun number hreply => ?_
    cases hreply with
    | tail _ hreply => exact h.replies number hreply
  | true =>
    obtain ⟨a, ha, hwaits, haccepts⟩ := interrupt_accepted caller h hpending
    exact h.accepts ha hwaits haccepts

theorem inv_interrupts_update {c : Controller} {replies : List (Option Nat)} {caller number : Nat}
    (entry : Option Interrupt) (h : Inv s)
    (hattempt : c.attempt = s.controller.attempt)
    (hpending : c.forceSuspendCallbackPending = s.controller.forceSuspendCallbackPending)
    (hskip : c.forceSuspendSkipHdi = s.controller.forceSuspendSkipHdi)
    (hinterrupted : (s.records number).interrupted = true)
    (hentry : entry = some (.scheduleWakeup number) ∨ entry = none)
    (hreplies : ∀ number', some number' ∈ replies → number' = number ∨ some number' ∈ s.replies) :
    Inv { s with controller := c, interrupts := Function.update s.interrupts caller entry, replies := replies } := by
  refine h.frame hattempt hpending hskip rfl rfl (fun caller' number' hcaller => ?_) fun number' hreply => ?_
  · by_cases hcaller' : caller' = caller
    · subst hcaller'
      simp only [Function.update_self] at hcaller
      obtain hentry | hentry := hentry <;> subst hentry <;> obtain hcaller | hcaller := hcaller <;> cases hcaller
      exact hinterrupted
    · simp only [Function.update_of_ne hcaller'] at hcaller
      exact h.interrupts caller' number' hcaller
  · obtain hsame | hold := hreplies number' hreply
    · subst hsame
      exact hinterrupted
    · exact h.replies number' hold

theorem inv_next {e : Event} (h : Inv s) (hnext : next cfg s e = some s') : Inv s' := by
  cases e with
  | attempt reason tag =>
    simp only [next] at hnext
    split at hnext
    next => cases hnext
    next hfree =>
      cases hnext
      exact inv_attempt reason tag h hfree
  | advance answers hdiOk =>
    simp only [next] at hnext
    split at hnext
    next a ha => exact inv_advance answers hdiOk h ha hnext
    next => cases hnext
  | callbacksDone number =>
    simp only [next, Option.ite_none_right_eq_some, Option.some.injEq] at hnext
    obtain ⟨-, rfl⟩ := hnext
    exact h.frame rfl rfl rfl rfl rfl h.interrupts h.replies
  | interrupt caller =>
    simp only [next] at hnext
    split at hnext
    next =>
      cases hnext
      exact inv_interrupt caller h
    next => cases hnext
  | rollback caller answers =>
    simp only [next] at hnext
    split at hnext
    next number hcaller =>
      cases hnext
      exact inv_interrupts_update _ h rfl rfl rfl (h.interrupts caller number (.inl hcaller)) (.inl rfl)
        fun _ hreply => .inr hreply
    next => cases hnext
  | schedule caller =>
    simp only [next] at hnext
    split at hnext
    next number hcaller =>
      cases hnext
      refine inv_interrupts_update _ h rfl rfl rfl (h.interrupts caller number (.inr hcaller)) (.inr rfl)
        fun number' hreply => ?_
      cases hreply with
      | head => exact .inl rfl
      | tail _ hold => exact .inr hold
    next => cases hnext

theorem inv_of_reachable (h : (system cfg).Reachable s) : Inv s := by
  refine Lib.System.Reach.invariant (I := Inv) (fun s hs => ?_) (fun s s' e hinv _ hnext => inv_next hinv hnext) h
  obtain ⟨m, rfl⟩ := hs
  constructor
  case closed =>
    intro number _
    exact closed_fresh
  case fresh =>
    intro number _
    rfl
  case attempt =>
    intro a ha
    cases ha
  case idle =>
    intro _
    rfl
  case interrupts =>
    intro caller number hinterrupt
    simp at hinterrupt
  case replies =>
    intro number hreply
    simp at hreply

/-! ## The result -/

theorem advance_submit (cfg : Config) (answers : Answers) (hdiOk : Bool)
    (ha : s.controller.attempt = some a) (hat : a.stage = .submit) :
    ∃ s', next cfg s (.advance answers hdiOk) = some s' ∧
      s'.controller.attempt = some { a with stage := .wait } ∧
      s'.controller.forceSuspendSkipHdi = s.controller.forceSuspendSkipHdi := by
  simp only [next, ha, advance, hat]
  exact ⟨_, rfl, rfl, rfl⟩

theorem advance_wait_interrupted (cfg : Config) (answers : Answers) (hdiOk : Bool)
    (ha : s.controller.attempt = some a) (hat : a.stage = .wait) (hskip : s.controller.forceSuspendSkipHdi = true) :
    ∃ s', next cfg s (.advance answers hdiOk) = some s' ∧ (s'.records a.number).result = some false := by
  refine ⟨{ s with controller := waitForceSuspendCallbacks s.controller }.returned a false, ?_, ?_⟩
  · simp only [next, ha, advance, hat, callbacksOver, hskip, Bool.true_or, if_true]
  · simp only [State.returned, State.note, Function.update_self]

/-- A record is that of the attempt under way, or closed. -/
theorem Inv.record_cases (h : Inv s) (number : Nat) :
    (∃ a, s.controller.attempt = some a ∧ a.number = number ∧ AtStage s.controller (s.records number) a.stage) ∨
      Closed (s.records number) := by
  by_cases hunderway : ∃ a, s.controller.attempt = some a ∧ a.number = number
  · obtain ⟨a, ha, rfl⟩ := hunderway
    exact .inl ⟨a, ha, rfl, (h.attempt a ha).2⟩
  · exact .inr (h.closed number fun a ha hnumber => hunderway ⟨a, ha, hnumber⟩)

/-- Only an attempt that submits its task or waits for it has been interrupted, and it will skip the HDI. -/
theorem AtStage.interrupted {c : Controller} {r : Record} {stage : Stage} (h : AtStage c r stage)
    (hinterrupted : r.interrupted = true) :
    (stage = .submit ∨ stage = .wait) ∧ c.forceSuspendSkipHdi = true ∧ r.forceSuspendEx = none ∧ r.result = none := by
  cases stage with
  | submit | wait =>
    simp only [AtStage] at h
    obtain ⟨-, rfl⟩ := h
    exact ⟨by simp, hinterrupted, rfl, rfl⟩
  | _ =>
    simp only [AtStage] at h
    rw [h.2] at hinterrupted
    cases hinterrupted

theorem AtStage.result_eq_none {c : Controller} {r : Record} {stage : Stage} (h : AtStage c r stage) :
    r.result = none := by
  cases stage <;> rw [h.2]

/-- An interrupted attempt is at most two steps of its own away from returning `false`, and it need
not wait for anything. -/
theorem interrupted_returns {number : Nat} (answers : Answers) (hdiOk : Bool) (h : Inv s)
    (hinterrupted : (s.records number).interrupted = true) :
    ∃ n ≤ 2, ∃ s', (system cfg).run s (List.replicate n (.advance answers hdiOk)) = some s' ∧
      (s'.records number).result = some false := by
  obtain ⟨a, ha, rfl, hstage⟩ | hclosed := h.record_cases number
  · obtain ⟨hat | hat, hskip, -, -⟩ := hstage.interrupted hinterrupted
    · obtain ⟨s₁, hsubmit, hattempt, hskip₁⟩ := advance_submit cfg answers hdiOk ha hat
      obtain ⟨s₂, hwait, hresult⟩ := advance_wait_interrupted cfg answers hdiOk hattempt rfl (hskip₁.trans hskip)
      refine ⟨2, Nat.le_refl 2, s₂, ?_, hresult⟩
      simp only [List.replicate, Lib.System.run_cons, system, hsubmit, Option.bind_some, hwait, Lib.System.run_nil]
    · obtain ⟨s', hnext, hresult⟩ := advance_wait_interrupted cfg answers hdiOk ha hat hskip
      refine ⟨1, Nat.le_succ 1, s', ?_, hresult⟩
      simp only [List.replicate, Lib.System.run_cons, system, hnext, Option.bind_some, Lib.System.run_nil]
  · exact ⟨0, Nat.zero_le 2, s, rfl, (hclosed.final hinterrupted).2⟩

/-- The record of an attempt that was interrupted shows no call of the HDI and no success, also
while the attempt is under way. -/
theorem Inv.final (h : Inv s) {number : Nat} (hinterrupted : (s.records number).interrupted = true) :
    (s.records number).forceSuspendEx = none ∧ (s.records number).result ≠ some true := by
  obtain ⟨a, -, -, hstage⟩ | hclosed := h.record_cases number
  · obtain ⟨-, -, hhdi, hresult⟩ := hstage.interrupted hinterrupted
    rw [hresult]
    exact ⟨hhdi, by simp⟩
  · obtain ⟨hhdi, hresult⟩ := hclosed.final hinterrupted
    rw [hresult]
    exact ⟨hhdi, by simp⟩

/-- Whatever the stage of the attempt under way, it has not returned. -/
theorem Inv.cause (h : Inv s) {number : Nat} (hstarted : (s.records number).started = true)
    (hresult : (s.records number).result = some false) :
    (s.records number).interrupted = true ∨ (s.records number).forceSuspendEx = some false := by
  obtain ⟨a, -, -, hstage⟩ | hclosed := h.record_cases number
  · rw [hstage.result_eq_none] at hresult
    cases hresult
  · exact hclosed.cause hstarted hresult

/-- An accepted interrupt is final for the attempt that it met: the attempt never calls the HDI and
returns `false`, which no other thread can keep it from.  An interrupt that returns `false` changes
nothing.  And an attempt whose callbacks were started returns `false` only if it was interrupted
itself, which it was not when they started, or if the HDI failed. -/
theorem interrupt_final (h : (system cfg).Reachable s) :
    (∀ number, some number ∈ s.replies →
      (s.records number).forceSuspendEx = none ∧ (s.records number).result ≠ some true ∧
      ∀ answers hdiOk, ∃ n ≤ 2, ∃ s', (system cfg).run s (List.replicate n (.advance answers hdiOk)) = some s' ∧
        (s'.records number).result = some false) ∧
    (∀ caller s', next cfg s (.interrupt caller) = some s' → s'.replies = none :: s.replies →
      s'.controller = s.controller ∧ s'.interrupts = s.interrupts ∧ s'.records = s.records) ∧
    (∀ a, s.controller.attempt = some a → a.stage = .start → (s.records a.number).interrupted = false) ∧
    (∀ number, (s.records number).started = true → (s.records number).result = some false →
      (s.records number).interrupted = true ∨ (s.records number).forceSuspendEx = some false) := by
  have hinv := inv_of_reachable h
  refine ⟨fun number hreply => ?_, fun caller s' hnext hreply => ?_, fun a ha hat => ?_, fun number => hinv.cause⟩
  · have hinterrupted := hinv.replies number hreply
    obtain ⟨hhdi, hresult⟩ := hinv.final hinterrupted
    exact ⟨hhdi, hresult, fun answers hdiOk => interrupted_returns answers hdiOk hinv hinterrupted⟩
  · simp only [next] at hnext
    split at hnext
    next =>
      cases hnext
      cases hpending : s.controller.forceSuspendCallbackPending with
      | false =>
        rw [interrupt_refused caller hpending]
        exact ⟨rfl, rfl, rfl⟩
      | true =>
        -- an accepted interrupt has not returned yet
        obtain ⟨a, -, -, haccepts⟩ := interrupt_accepted caller hinv hpending
        rw [haccepts.replies] at hreply
        exact absurd hreply (List.cons_ne_self none s.replies).symm
    next => cases hnext
  · have hstage := (hinv.attempt a ha).2
    rw [hat] at hstage
    rw [hstage.2]

/-- An attempt is interrupted before it has submitted its callbacks; the interrupt returns first. -/
def interruptedAtOnce : List Event :=
  [.attempt .application .mem, .advance {} true, .advance {} true, .advance {} true, .interrupt 7, .rollback 7 {},
    .schedule 7]

def inUse : State where
  controller := { machine := { currentState := .awake, display := .on } }

theorem interrupt_final_interruptedAtOnce :
    ∃ s, (system {}).run inUse interruptedAtOnce = some s ∧ some 1 ∈ s.replies ∧
      (s.records 1).forceSuspendEx = none ∧
      ∃ n ≤ 2, ∃ s', (system {}).run s (List.replicate n (.advance {} true)) = some s' ∧
        (s'.records 1).result = some false := by
  obtain ⟨s, hrun⟩ : ∃ s, (system {}).run inUse interruptedAtOnce = some s := Option.isSome_iff_exists.mp (by decide +kernel)
  have hreplies : ((system {}).run inUse interruptedAtOnce).map State.replies = some [some 1] := by decide +kernel
  rw [hrun] at hreplies
  have hreply : some 1 ∈ s.replies := by
    rw [Option.some.inj hreplies]
    exact List.mem_singleton.mpr rfl
  have hreach : (system {}).Reachable s := Lib.System.reachable_of_run _ (.init ⟨_, rfl⟩) hrun
  obtain ⟨hhdi, -, hreturns⟩ := (interrupt_final hreach).1 1 hreply
  exact ⟨s, hrun, hreply, hhdi, hreturns {} true⟩

end PowerMgr.StateMachine.ForceSuspend
