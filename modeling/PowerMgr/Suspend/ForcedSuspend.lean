import PowerMgr.Suspend.Requests

/-! # A forced suspend only while the device is asleep

The HDI is told to suspend by force in two ways: by the delayed task that `HandleForceSleep` arms on
`TIMER_ID_SLEEP` (`ForceSuspend`), and by an attempt that ignores wakelocks (`ForceSuspendEx`), whose
model is taken over from `StateMachine.ForceSuspend`.  Requests for `AWAKE` from other threads come in
between.  A `SetState` is one step; the task's `GetState` and its `Suspend` are two.

* `State`, `next` — the attempts and interrupts, the callers of `HandleForceSleep`, the timer and its tasks;
* `IssuesForcedSuspend` — the step tells the HDI;
* `forcedSuspend_asleep` — the runs in which it does so only before the device is woken again;
* `forcedSuspend_awake` — runs in which it does not.
-/

namespace PowerMgr.Suspend.ForcedSuspend

open StateMachine

/-- The place a started task of `HandleForceSleep` has reached. -/
inductive Task where
  | idle
  -- before `GetState`
  | begun
  -- the state was `SLEEP`, before `Suspend`
  | checked
  deriving DecidableEq, Repr

/-- `forceSleeps` are the callers of `HandleForceSleep` between their `SetState` and their `SetTimer`.
`awakened` notes whether `AWAKE` was committed after `SLEEP` was for the last time. -/
structure State where
  base : ForceSuspend.State
  forceSleeps : Nat → Bool := fun _ => false
  queued : Bool := false
  tasks : Nat → Task := fun _ => .idle
  awakened : Bool := false

inductive Event where
  -- an attempt that ignores wakelocks, its callbacks, and the interrupts
  | base (event : ForceSuspend.Event)
  -- a `SetState(AWAKE)` of another thread
  | awake (reason : StateChangeReason) (force : Bool) (answers : Answers)
  -- `HandleForceSleep` up to its `SetState`
  | forceSleep (caller : Nat) (reason : StateChangeReason) (answers : Answers)
  -- its `SetTimer`
  | setTimer (caller : Nat)
  -- `CancelTimer` of `StopSleep`
  | stopSleep
  | fire (task : Nat)
  -- `GetState` of the task
  | check (task : Nat)
  -- `Suspend` of the task
  | suspend (task : Nat)

def State.machine (s : State) : Machine :=
  s.base.controller.machine

def State.setMachine (s : State) (m : Machine) : State :=
  { s with base := { s.base with controller := { s.base.controller with machine := m } } }

/-! ## Steps -/

def State.request (s : State) : Event → Option Request
  | .base event => baseRequest s.base event
  | .awake reason force answers => some ⟨.awake, reason, force, answers⟩
  | .forceSleep _ reason answers => some ⟨.sleep, reason, true, answers⟩
  | _ => none

def State.committed (cfg : Config) (s : State) (e : Event) : Option PowerState :=
  committedBy cfg (s.request e) s.machine

def step (cfg : Config) (s : State) : Event → Option State
  | .base event => (ForceSuspend.next cfg s.base event).map fun base => { s with base := base }
  | .awake reason force answers => some (s.setMachine (setState cfg answers .awake reason force s.machine).1)
  | .forceSleep caller reason answers =>
    if s.forceSleeps caller then none
    else
      let (m, ok) := setState cfg answers .sleep reason true s.machine
      some { s.setMachine m with forceSleeps := Function.update s.forceSleeps caller ok }
  | .setTimer caller =>
    if s.forceSleeps caller then
      some { s with queued := true, forceSleeps := Function.update s.forceSleeps caller false }
    else none
  | .stopSleep => some { s with queued := false }
  | .fire task =>
    if s.queued ∧ s.tasks task = .idle then
      some { s with queued := false, tasks := Function.update s.tasks task .begun }
    else none
  | .check task =>
    if s.tasks task = .begun then
      some { s with
        tasks := Function.update s.tasks task (if s.machine.currentState = .sleep then .checked else .idle) }
    else none
  | .suspend task =>
    if s.tasks task = .checked then some { s with tasks := Function.update s.tasks task .idle } else none

def next (cfg : Config) (s : State) (e : Event) : Option State :=
  (step cfg s e).map fun s' => { s' with
    awakened := match s.committed cfg e with
      | some .awake => true
      | some .sleep => false
      | _ => s.awakened }

/-- Runs begin with no call under way, whatever the state machine is in. -/
def system (cfg : Config) : Lib.System State Event where
  init s := ∃ m, s = { base := { controller := { machine := m } }, awakened := m.currentState = .awake }
  next := next cfg

/-! ## What is promised, and when it holds -/

def IssuesForcedSuspend (s : State) : Event → Prop
  | .suspend task => s.tasks task = .checked
  | .base (.advance _ _) => ∃ a, s.base.controller.attempt = some a ∧ a.stage = .hdi
  | _ => False

/-- An attempt that has put the device to sleep and will go on to `ForceSuspendEx` if nothing else
happens: it was not interrupted while it could be. -/
def Exposed (c : ForceSuspend.Controller) : ForceSuspend.Stage → Prop
  | .start | .hdi => True
  | .submit | .wait => c.forceSuspendSkipHdi = false
  | _ => False

/-- `AWAKE` is not committed between the task's `GetState` and its `Suspend`, nor while an attempt is
on its way from `SLEEP` to `ForceSuspendEx`. -/
def Careful (cfg : Config) (s : State) (e : Event) : Prop :=
  s.committed cfg e = some .awake → (∀ task, s.tasks task ≠ .checked) ∧
    ∀ a, s.base.controller.attempt = some a → ¬Exposed s.base.controller a.stage

/-! ## The invariant -/

structure Kept (s : State) : Prop where
  awake : s.awakened = true → s.machine.currentState ≠ .sleep
  tasks : ∀ task, s.tasks task = .checked → s.awakened = false
  attempt : ∀ a, s.base.controller.attempt = some a → Exposed s.base.controller a.stage → s.awakened = false

/-! ## One step -/

variable {cfg : Config} {s s' : State} {e : Event}

theorem step_machine (hstep : step cfg s e = some s') :
    s'.machine = performed cfg (s.request e) s.machine := by
  cases e with
  | base event =>
    obtain ⟨base, hbase, rfl⟩ := Option.map_eq_some_iff.mp hstep
    exact base_machine hbase
  | awake reason force answers =>
    cases hstep
    rfl
  | forceSleep caller reason answers =>
    obtain ⟨-, hsome⟩ := Option.ite_none_left_eq_some.mp hstep
    cases hsome
    rfl
  | stopSleep =>
    cases hstep
    rfl
  | setTimer caller | fire task | check task | suspend task =>
    obtain ⟨-, hsome⟩ := Option.ite_none_right_eq_some.mp hstep
    cases hsome
    rfl

theorem step_checked {task : Nat} (hstep : step cfg s e = some s') (hchecked : s'.tasks task = .checked) :
    s.tasks task = .checked ∨ e = .check task ∧ s.machine.currentState = .sleep := by
  have hupdated : ∀ other place, Function.update s.tasks other place task = .checked →
      s.tasks task = .checked ∨ task = other ∧ place = .checked := by
    intro other place hplace
    by_cases hsame : task = other
    · subst hsame
      rw [Function.update_self] at hplace
      exact .inr ⟨rfl, hplace⟩
    · rw [Function.update_of_ne hsame] at hplace
      exact .inl hplace
  cases e with
  | fire other | suspend other =>
    obtain ⟨-, hsome⟩ := Option.ite_none_right_eq_some.mp hstep
    cases hsome
    exact (hupdated other _ hchecked).imp_right fun hnew => by cases hnew.2
  | check other =>
    obtain ⟨-, hsome⟩ := Option.ite_none_right_eq_some.mp hstep
    cases hsome
    obtain hbefore | ⟨rfl, hplace⟩ := hupdated other _ hchecked
    · exact .inl hbefore
    · split at hplace
      · exact .inr ⟨rfl, ‹_›⟩
      · cases hplace
  | base event =>
    obtain ⟨base, -, rfl⟩ := Option.map_eq_some_iff.mp hstep
    exact .inl hchecked
  | forceSleep caller reason answers =>
    obtain ⟨-, hsome⟩ := Option.ite_none_left_eq_some.mp hstep
    cases hsome
    exact .inl hchecked
  | setTimer caller =>
    obtain ⟨-, hsome⟩ := Option.ite_none_right_eq_some.mp hstep
    cases hsome
    exact .inl hchecked
  | awake | stopSleep =>
    cases hstep
    exact .inl hchecked

theorem exposed_start {c : ForceSuspend.Controller} {ok : Bool}
    (h : Exposed c (if ok then .start else .rollbackState)) : ok = true := by
  cases ok with
  | true => rfl
  | false => exact h.elim

/-- An attempt gets to a stage on its way to `ForceSuspendEx` from such a stage, or by committing
`SLEEP`. -/
theorem advance_exposed {answers : Answers} {hdiOk : Bool} {b b' : ForceSuspend.State} {a a' : ForceSuspend.Attempt}
    (hadvance : ForceSuspend.advance cfg answers hdiOk b a = some b') (ha' : b'.controller.attempt = some a')
    (hexposed : Exposed b'.controller a'.stage) :
    (a.stage = .sleep ∧ (setState cfg answers .sleep a.reason true b.controller.machine).2 = true) ∨
      Exposed b.controller a.stage := by
  obtain ⟨number, reason, tag, stage⟩ := a
  cases stage with
  | inactive =>
    simp only [ForceSuspend.advance] at hadvance
    split at hadvance
    · cases hadvance
      cases ha'
      exact hexposed.elim
    · cases hadvance
      cases ha'
  | sleep =>
    cases hadvance
    cases ha'
    exact .inl ⟨rfl, exposed_start hexposed⟩
  | start => exact .inr trivial
  | submit =>
    cases hadvance
    cases ha'
    exact .inr hexposed
  | wait =>
    simp only [ForceSuspend.advance] at hadvance
    split at hadvance
    case isFalse => cases hadvance
    split at hadvance
    · cases hadvance
      cases ha'
    · rename_i hskip
      exact .inr (Bool.eq_false_iff.mpr hskip)
  | hdi => exact .inr trivial
  | rollbackAfterCallbacks =>
    cases hadvance
    cases ha'
    exact hexposed.elim
  | rollbackState | scheduleWakeup =>
    cases hadvance
    cases ha'

/-- An attempt is on its way to `ForceSuspendEx` if it was before, or has just committed `SLEEP`. -/
theorem step_exposed {a : ForceSuspend.Attempt} (hstep : step cfg s e = some s')
    (ha : s'.base.controller.attempt = some a) (hexposed : Exposed s'.base.controller a.stage) :
    s.committed cfg e = some .sleep ∨
      ∃ before, s.base.controller.attempt = some before ∧ Exposed s.base.controller before.stage := by
  cases e with
  | base event =>
    obtain ⟨base, hbase, rfl⟩ := Option.map_eq_some_iff.mp hstep
    cases event with
    | attempt reason tag =>
      simp only [ForceSuspend.next] at hbase
      split at hbase
      · cases hbase
      · cases hbase
        cases ha
        exact hexposed.elim
    | advance answers hdiOk =>
      simp only [ForceSuspend.next] at hbase
      split at hbase
      case h_2 => cases hbase
      rename_i before hbefore
      obtain ⟨hat, hok⟩ | hwas := advance_exposed hbase ha hexposed
      · refine .inl ?_
        simp only [State.committed, State.request, baseRequest, hbefore, Option.bind_some, attemptRequest, hat]
        exact if_pos hok
      · exact .inr ⟨before, hbefore, hwas⟩
    | callbacksDone number =>
      obtain ⟨-, hsome⟩ := Option.ite_none_right_eq_some.mp hbase
      cases hsome
      exact .inr ⟨a, ha, hexposed⟩
    | interrupt caller =>
      simp only [ForceSuspend.next] at hbase
      split at hbase
      case h_2 => cases hbase
      cases hbase
      refine .inr ?_
      simp only [ForceSuspend.interruptForceSuspendCallback] at ha hexposed
      split at ha
      next hrefused =>
        rw [if_pos hrefused] at hexposed
        exact ⟨a, ha, hexposed⟩
      next haccepted =>
        rw [if_neg haccepted] at hexposed
        refine ⟨a, ha, ?_⟩
        -- the flag is set now, so the attempt is not one that waits
        cases hat : a.stage with
        | submit | wait =>
          rw [hat] at hexposed
          cases hexposed
        | start | hdi => trivial
        | inactive | sleep | rollbackState | rollbackAfterCallbacks | scheduleWakeup =>
          rw [hat] at hexposed
          exact hexposed.elim
    | rollback caller answers | schedule caller =>
      simp only [ForceSuspend.next] at hbase
      split at hbase
      case h_2 => cases hbase
      cases hbase
      exact .inr ⟨a, ha, hexposed⟩
  | awake | stopSleep =>
    cases hstep
    exact .inr ⟨a, ha, hexposed⟩
  | forceSleep caller reason answers =>
    obtain ⟨-, hsome⟩ := Option.ite_none_left_eq_some.mp hstep
    cases hsome
    exact .inr ⟨a, ha, hexposed⟩
  | setTimer | fire | check | suspend =>
    obtain ⟨-, hsome⟩ := Option.ite_none_right_eq_some.mp hstep
    cases hsome
    exact .inr ⟨a, ha, hexposed⟩

theorem kept_next (h : Kept s) (hcareful : Careful cfg s e) (hnext : next cfg s e = some s') : Kept s' := by
  obtain ⟨s'', hstep, rfl⟩ := Option.map_eq_some_iff.mp hnext
  have hstill : s.awakened = false → s.committed cfg e ≠ some .awake →
      (match s.committed cfg e with
        | some .awake => true
        | some .sleep => false
        | _ => s.awakened) = false := by
    intro hnot hawake
    split
    · exact absurd ‹_› hawake
    · rfl
    · exact hnot
  constructor
  · intro hawakened hsleep
    have hafter : (performed cfg (s.request e) s.machine).currentState = .sleep := step_machine hstep ▸ hsleep
    simp only at hawakened
    split at hawakened
    next hawake =>
      rw [performed_committed hawake] at hafter
      cases hafter
    next => cases hawakened
    next hnotAwake hnotSleep =>
      cases hcommitted : s.committed cfg e with
      | none => exact h.awake hawakened (performed_sleep hcommitted hafter)
      | some state =>
        rw [performed_committed hcommitted] at hafter
        exact hnotSleep (hcommitted.trans (congrArg some hafter))
  · intro task hchecked
    obtain hbefore | ⟨rfl, hsleep⟩ := step_checked hstep hchecked
    · exact hstill (h.tasks task hbefore) fun hawake => (hcareful hawake).1 task hbefore
    · refine Bool.eq_false_iff.mpr fun hawakened => ?_
      exact h.awake hawakened hsleep
  · intro a ha hexposed
    obtain hsleep | ⟨before, hbefore, hwas⟩ := step_exposed hstep ha hexposed
    · simp only [hsleep]
    · exact hstill (h.attempt before hbefore hwas) fun hawake => (hcareful hawake).2 before hbefore hwas

theorem kept_reach (h : (system cfg).Reach (Careful cfg) s) : Kept s := by
  refine h.invariant (I := Kept) ?_ ?_
  · intro s hs
    obtain ⟨m, rfl⟩ := hs
    constructor
    case awake =>
      intro hawake hsleep
      have hcurrent : m.currentState = .awake := of_decide_eq_true hawake
      have hasleep : m.currentState = .sleep := hsleep
      rw [hasleep] at hcurrent
      cases hcurrent
    case tasks =>
      intro task htask
      cases htask
    case attempt =>
      intro a ha
      cases ha
  · intro s s' e hkept hcareful hnext
    exact kept_next hkept hcareful hnext

/-- In every careful run the HDI is told to suspend by force only if `AWAKE` was not committed since
the device was put to sleep. -/
theorem forcedSuspend_asleep (h : (system cfg).Reach (Careful cfg) s) (hissues : IssuesForcedSuspend s e) :
    s.awakened = false := by
  have hkept := kept_reach h
  cases e with
  | suspend task => exact hkept.tasks task hissues
  | base event =>
    cases event with
    | advance answers hdiOk =>
      obtain ⟨a, ha, hat⟩ := hissues
      refine hkept.attempt a ha ?_
      rw [hat]
      trivial
    | attempt | callbacksDone | interrupt | rollback | schedule => exact hissues.elim
  | awake | forceSleep | setTimer | stopSleep | fire | check => exact hissues.elim

def dark : State where
  base := { controller := { machine := { currentState := .inactive, display := .off } } }

/-- The device is put to sleep by force and sleeps on; the task suspends it. -/
theorem forcedSuspend_asleep_undisturbed : ∃ s, (system {}).Reach (Careful {}) s ∧
    IssuesForcedSuspend s (.suspend 1) ∧ s.awakened = false := by
  have hinit : (system {}).Reach (Careful {}) dark := .init ⟨_, rfl⟩
  have hsleep := hinit.step (Event.forceSleep 1 .application {}) nofun rfl
  have harmed := hsleep.step (Event.setTimer 1) nofun rfl
  have hfired := harmed.step (Event.fire 1) nofun rfl
  have hchecked := hfired.step (Event.check 1) nofun rfl
  exact ⟨_, hchecked, rfl, forcedSuspend_asleep hchecked (e := Event.suspend 1) rfl⟩

/-- The device is woken between the two steps of the task; and after the callbacks of an attempt. -/
theorem forcedSuspend_awake :
    (∃ s s', (system {}).Reachable s ∧ IssuesForcedSuspend s (.suspend 1) ∧ next {} s (.suspend 1) = some s' ∧
      s.awakened = true ∧ s.machine.currentState = .awake) ∧
    ∃ s s', (system {}).Reachable s ∧ IssuesForcedSuspend s (.base (.advance {} true)) ∧
      next {} s (.base (.advance {} true)) = some s' ∧ s.awakened = true ∧ s.machine.currentState = .awake := by
  have hinit : (system {}).Reachable dark := .init ⟨_, rfl⟩
  constructor
  · have hsleep := hinit.step (Event.forceSleep 1 .application {}) trivial rfl
    have harmed := hsleep.step (Event.setTimer 1) trivial rfl
    have hfired := harmed.step (Event.fire 1) trivial rfl
    have hchecked := hfired.step (Event.check 1) trivial rfl
    have hwoken := hchecked.step (Event.awake .powerKey true {}) trivial rfl
    exact ⟨_, _, hwoken, rfl, rfl, rfl, rfl⟩
  · have hattempt := hinit.step (Event.base (.attempt .application .mem)) trivial rfl
    have hinactive := hattempt.step (Event.base (.advance {} true)) trivial rfl
    have hsleep := hinactive.step (Event.base (.advance {} true)) trivial rfl
    have hstarted := hsleep.step (Event.base (.advance {} true)) trivial rfl
    have hsubmitted := hstarted.step (Event.base (.advance {} true)) trivial rfl
    have hdone := hsubmitted.step (Event.base (.callbacksDone 1)) trivial rfl
    have hwaited := hdone.step (Event.base (.advance {} true)) trivial rfl
    have hwoken := hwaited.step (Event.awake .powerKey true {}) trivial rfl
    exact ⟨_, _, hwoken, ⟨_, rfl, rfl⟩, rfl, rfl, rfl⟩

end PowerMgr.Suspend.ForcedSuspend
