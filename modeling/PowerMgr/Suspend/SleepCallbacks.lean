import PowerMgr.Suspend.Requests

/-! # Which side the sleep callbacks end on

The rounds of `TriggerSyncSleepCallback` next to the states that are committed: `SetAutoSleep` and
`HandleForceSleep` commit `SLEEP` and run a sleep round afterwards, an attempt that ignores wakelocks
leaves it to a task and its detached thread, `WakeupDeviceInner` commits `AWAKE` and runs a wakeup
round afterwards, and an interrupt or a failed `ForceSuspendEx` leaves that to a task.  The attempts
and the interrupts are those of `StateMachine.ForceSuspend`.

* `State`, `next` — the calls, tasks and threads under way, the state committed last and the last round;
* `callbacks_end_awake` — the runs in which a device that settles awake has sent no sleep round last;
* `callbacks_end_asleep` — a run in which it has.
-/

namespace PowerMgr.Suspend.SleepCallbacks

open StateMachine

/-- A round of `TriggerSyncSleepCallback`. -/
inductive Round where
  | sleep
  | wakeup
  deriving DecidableEq, Repr

/-- The place a `SetAutoSleep` has reached. -/
inductive AutoSleep where
  | idle
  -- `SetState` has returned true, before `GetState`
  | slept
  -- `GetState` has returned `SLEEP`, before the sleep round
  | confirmed
  deriving DecidableEq, Repr

/-- `WakeupDeviceType`, as far as `WakeupDeviceInner` makes a difference. -/
inductive WakeupDeviceType where
  | preBright
  | preBrightAuthSuccess
  | preBrightAuthFailScreenOn
  | preBrightAuthFailScreenOff
  -- any other, with its reason
  | other (reason : StateChangeReason)
  deriving DecidableEq, Repr

/-- `GetReasonByWakeType`. -/
def WakeupDeviceType.reason : WakeupDeviceType → StateChangeReason
  | .preBright => .preBright
  | .preBrightAuthSuccess => .preBrightAuthSuccess
  | .preBrightAuthFailScreenOn => .preBrightAuthFailScreenOn
  | .preBrightAuthFailScreenOff => .preBrightAuthFailScreenOff
  | .other reason => reason

/-- Whether `WakeupDeviceInner`, or `HandlePreBrightWakeUp` for it, runs a wakeup round after a
`SetState` with this result. -/
def WakeupDeviceType.wakesUp (type : WakeupDeviceType) (ret : Bool) : Bool :=
  match type with
  | .other _ => true
  | .preBrightAuthSuccess | .preBrightAuthFailScreenOn => ret
  | .preBright | .preBrightAuthFailScreenOff => false

/-- `forceSleeps` and `wakeups` are the calls of `HandleForceSleep` and of `WakeupDeviceInner` before
their round; `sleepThreads` are the attempts whose task is to run a sleep round.  The wakeup rounds
that were handed to tasks are the `wakeupTasks` of `base`. -/
structure State where
  base : ForceSuspend.State
  autoSleeps : Nat → AutoSleep := fun _ => .idle
  forceSleeps : Nat → Bool := fun _ => false
  wakeups : Nat → Bool := fun _ => false
  sleepThreads : List Nat := []
  lastCommitted : PowerState
  lastRound : Option Round := none

inductive Event where
  -- an attempt that ignores wakelocks, the end of its task, and the interrupts
  | base (event : ForceSuspend.Event)
  -- the detached thread of an attempt's task runs the sleep round
  | sleepThread (number : Nat)
  -- the detached thread of a wakeup task runs the wakeup round
  | wakeupThread (tag : ForceSuspend.Tag)
  -- `SetAutoSleep` up to its `SetState`
  | autoSleep (caller : Nat) (reason : StateChangeReason) (answers : Answers)
  -- its `GetState`
  | autoCheck (caller : Nat)
  -- its sleep round
  | autoRound (caller : Nat)
  -- `HandleForceSleep` up to its `SetState`
  | forceSleep (caller : Nat) (reason : StateChangeReason) (answers : Answers)
  -- its sleep round
  | forceRound (caller : Nat)
  -- `WakeupDeviceInner` up to its `SetState`
  | wakeup (caller : Nat) (type : WakeupDeviceType) (answers : Answers)
  -- its wakeup round
  | wakeupRound (caller : Nat)

def State.machine (s : State) : Machine :=
  s.base.controller.machine

def State.setMachine (s : State) (m : Machine) : State :=
  { s with base := { s.base with controller := { s.base.controller with machine := m } } }

/-! ## Steps -/

def State.request (s : State) : Event → Option Request
  | .base event => baseRequest s.base event
  | .autoSleep _ reason answers => some ⟨.sleep, reason, false, answers⟩
  | .forceSleep _ reason answers => some ⟨.sleep, reason, true, answers⟩
  | .wakeup _ type answers => some ⟨.awake, type.reason, true, answers⟩
  | _ => none

def State.committed (cfg : Config) (s : State) (e : Event) : Option PowerState :=
  committedBy cfg (s.request e) s.machine

/-- The attempt whose `StartForceSuspendCallbacks` submits its task in this step. -/
def submits (b : ForceSuspend.State) : ForceSuspend.Event → List Nat
  | .advance _ _ =>
    match b.controller.attempt with
    | some a => if a.stage = .submit then [a.number] else []
    | none => []
  | _ => []

def step (cfg : Config) (s : State) : Event → Option State
  | .base event =>
    (ForceSuspend.next cfg s.base event).map fun base =>
      { s with base := base, sleepThreads := submits s.base event ++ s.sleepThreads }
  | .sleepThread number =>
    if number ∈ s.sleepThreads then
      some { s with sleepThreads := s.sleepThreads.erase number, lastRound := some .sleep }
    else none
  | .wakeupThread tag =>
    if tag ∈ s.base.controller.wakeupTasks then
      some { s with
        base := { s.base with controller := { s.base.controller with
          wakeupTasks := s.base.controller.wakeupTasks.erase tag } }
        lastRound := some .wakeup }
    else none
  | .autoSleep caller reason answers =>
    if s.autoSleeps caller = .idle then
      let (m, ret) := setState cfg answers .sleep reason false s.machine
      some { s.setMachine m with
        autoSleeps := Function.update s.autoSleeps caller (if ret then .slept else .idle) }
    else none
  | .autoCheck caller =>
    if s.autoSleeps caller = .slept then
      some { s with autoSleeps :=
        Function.update s.autoSleeps caller (if s.machine.currentState = .sleep then .confirmed else .idle) }
    else none
  | .autoRound caller =>
    if s.autoSleeps caller = .confirmed then
      some { s with autoSleeps := Function.update s.autoSleeps caller .idle, lastRound := some .sleep }
    else none
  | .forceSleep caller reason answers =>
    if s.forceSleeps caller then none
    else
      let (m, ret) := setState cfg answers .sleep reason true s.machine
      some { s.setMachine m with forceSleeps := Function.update s.forceSleeps caller ret }
  | .forceRound caller =>
    if s.forceSleeps caller then
      some { s with forceSleeps := Function.update s.forceSleeps caller false, lastRound := some .sleep }
    else none
  | .wakeup caller type answers =>
    if s.wakeups caller then none
    else
      let (m, ret) := setState cfg answers .awake type.reason true s.machine
      some { s.setMachine m with wakeups := Function.update s.wakeups caller (type.wakesUp ret) }
  | .wakeupRound caller =>
    if s.wakeups caller then
      some { s with wakeups := Function.update s.wakeups caller false, lastRound := some .wakeup }
    else none

def next (cfg : Config) (s : State) (e : Event) : Option State :=
  (step cfg s e).map fun s' => { s' with lastCommitted := (s.committed cfg e).getD s.lastCommitted }

/-- Runs begin with no call under way and no round run, whatever the state machine is in. -/
def system (cfg : Config) : Lib.System State Event where
  init s := ∃ m, s = { base := { controller := { machine := m } }, lastCommitted := m.currentState }
  next := next cfg

/-! ## What is promised, and when it holds -/

structure Quiescent (s : State) : Prop where
  attempt : s.base.controller.attempt = none
  callbackTasks : s.base.controller.callbackTasks = []
  wakeupTasks : s.base.controller.wakeupTasks = []
  interrupts : ∀ caller, s.base.interrupts caller = none
  sleepThreads : s.sleepThreads = []
  autoSleeps : ∀ caller, s.autoSleeps caller = .idle
  forceSleeps : ∀ caller, s.forceSleeps caller = false
  wakeups : ∀ caller, s.wakeups caller = false

def StartsCallbacks (b : ForceSuspend.State) : Prop :=
  ∃ a, b.controller.attempt = some a ∧ (a.stage = .start ∨ a.stage = .submit)

/-- A sleep round is still to come for a `SLEEP` that was committed. -/
def State.SleepRoundDue (s : State) : Prop :=
  (∃ caller, s.autoSleeps caller = .confirmed) ∨ (∃ caller, s.forceSleeps caller = true) ∨
    StartsCallbacks s.base ∨ ∃ number, number ∈ s.sleepThreads

/-- A wakeup round is left to a task, or about to be. -/
def WakeupLeft (b : ForceSuspend.State) : Prop :=
  (∃ caller number, b.interrupts caller = some (.scheduleWakeup number)) ∨
    (∃ a, b.controller.attempt = some a ∧ a.stage = .scheduleWakeup) ∨ ∃ tag, tag ∈ b.controller.wakeupTasks

def State.WakeupRoundDue (s : State) : Prop :=
  (∃ caller, s.wakeups caller = true) ∨ WakeupLeft s.base

/-- A request for `AWAKE` that no wakeup round follows: the one after a failed `SetState(SLEEP)` of an
attempt, and those of pre-bright. -/
def Silent (s : State) : Event → Prop
  | .base (.advance _ _) => ∃ a, s.base.controller.attempt = some a ∧ a.stage = .rollbackState
  | .wakeup _ type _ => type = .preBright ∨ type = .preBrightAuthFailScreenOff
  | _ => False

/-- No `AWAKE` is committed while a sleep round is due, and none without a wakeup round of its own
after a sleep round, unless another wakeup round is due. -/
def Careful (cfg : Config) (s : State) (e : Event) : Prop :=
  s.committed cfg e = some .awake →
    ¬s.SleepRoundDue ∧ (Silent s e → s.lastRound = some .sleep → s.WakeupRoundDue)

/-! ## The invariant -/

/-- What holds while `AWAKE` is the state committed last. -/
structure Settled (s : State) : Prop where
  notDue : ¬s.SleepRoundDue
  rounds : s.lastRound = some .sleep → s.WakeupRoundDue
  current : s.machine.currentState ≠ .sleep

/-! ## Steps of the attempts and of the interrupts -/

variable {cfg : Config}

section Base

variable {b b' : ForceSuspend.State} {event : ForceSuspend.Event} {a : ForceSuspend.Attempt}

theorem advance_startsCallbacks {answers : Answers} {hdiOk : Bool}
    (hadvance : ForceSuspend.advance cfg answers hdiOk b a = some b') (ha : b.controller.attempt = some a)
    (hstarts : StartsCallbacks b') :
    StartsCallbacks b ∨ committedBy cfg (attemptRequest answers a) b.controller.machine = some .sleep := by
  obtain ⟨number, reason, tag, stage⟩ := a
  obtain ⟨after, hafter, hstage⟩ := hstarts
  cases stage with
  | inactive =>
    simp only [ForceSuspend.advance] at hadvance
    split at hadvance
    · cases hadvance
      cases hafter
      obtain hstage | hstage := hstage
      · cases hstage
      · cases hstage
    · cases hadvance
      cases hafter
  | sleep =>
    simp only [ForceSuspend.advance, Option.some.injEq] at hadvance
    subst hadvance
    cases hafter
    refine .inr (if_pos ?_)
    by_contra hfailed
    simp only [Request.perform] at hfailed
    obtain hstage | hstage := hstage
    · rw [if_neg hfailed] at hstage
      cases hstage
    · rw [if_neg hfailed] at hstage
      cases hstage
  | start => exact .inl ⟨_, ha, .inl rfl⟩
  | submit => exact .inl ⟨_, ha, .inr rfl⟩
  | wait =>
    simp only [ForceSuspend.advance] at hadvance
    split at hadvance
    case isFalse => cases hadvance
    split at hadvance
    · cases hadvance
      cases hafter
    · cases hadvance
      cases hafter
      obtain hstage | hstage := hstage
      · cases hstage
      · cases hstage
  | hdi =>
    simp only [ForceSuspend.advance] at hadvance
    split at hadvance
    · cases hadvance
      cases hafter
    · cases hadvance
      cases hafter
      obtain hstage | hstage := hstage
      · cases hstage
      · cases hstage
  | rollbackAfterCallbacks =>
    cases hadvance
    cases hafter
    obtain hstage | hstage := hstage
    · cases hstage
    · cases hstage
  | rollbackState | scheduleWakeup =>
    cases hadvance
    cases hafter

/-- An attempt comes to its callbacks by committing `SLEEP`. -/
theorem base_startsCallbacks (hnext : ForceSuspend.next cfg b event = some b') (hstarts : StartsCallbacks b') :
    StartsCallbacks b ∨ committedBy cfg (baseRequest b event) b.controller.machine = some .sleep := by
  cases event with
  | attempt reason tag =>
    simp only [ForceSuspend.next] at hnext
    split at hnext
    · cases hnext
    · cases hnext
      obtain ⟨after, hafter, hstage⟩ := hstarts
      cases hafter
      obtain hstage | hstage := hstage
      · cases hstage
      · cases hstage
  | advance answers hdiOk =>
    simp only [ForceSuspend.next] at hnext
    split at hnext
    case h_2 => cases hnext
    rename_i a ha
    simp only [baseRequest, ha, Option.bind_some]
    exact advance_startsCallbacks hnext ha hstarts
  | callbacksDone number =>
    obtain ⟨-, hsome⟩ := Option.ite_none_right_eq_some.mp hnext
    cases hsome
    exact .inl hstarts
  | interrupt caller =>
    simp only [ForceSuspend.next] at hnext
    split at hnext
    case h_2 => cases hnext
    cases hnext
    refine .inl ?_
    simp only [ForceSuspend.interruptForceSuspendCallback] at hstarts
    split at hstarts
    · exact hstarts
    · exact hstarts
  | rollback caller answers | schedule caller =>
    simp only [ForceSuspend.next] at hnext
    split at hnext
    case h_2 => cases hnext
    cases hnext
    exact .inl hstarts

theorem submits_startsCallbacks {number : Nat} (hmem : number ∈ submits b event) : StartsCallbacks b := by
  cases event with
  | advance answers hdiOk =>
    simp only [submits] at hmem
    split at hmem
    next a ha =>
      split at hmem
      next hat => exact ⟨a, ha, .inr hat⟩
      next => cases hmem
    next => cases hmem
  | attempt | callbacksDone | interrupt | rollback | schedule => cases hmem

/-- An attempt takes no wakeup round back, and hands its own over. -/
theorem advance_wakeupTasks {answers : Answers} {hdiOk : Bool}
    (hadvance : ForceSuspend.advance cfg answers hdiOk b a = some b') :
    b'.interrupts = b.interrupts ∧ (∀ tag ∈ b.controller.wakeupTasks, tag ∈ b'.controller.wakeupTasks) ∧
      (a.stage = .scheduleWakeup → ∃ tag, tag ∈ b'.controller.wakeupTasks) := by
  obtain ⟨number, reason, tag, stage⟩ := a
  cases stage with
  | inactive | hdi =>
    simp only [ForceSuspend.advance] at hadvance
    split at hadvance
    all_goals
      cases hadvance
      exact ⟨rfl, fun _ hmem => hmem, fun hstage => by cases hstage⟩
  | wait =>
    simp only [ForceSuspend.advance] at hadvance
    split at hadvance
    case isFalse => cases hadvance
    split at hadvance
    all_goals
      cases hadvance
      exact ⟨rfl, fun _ hmem => hmem, fun hstage => by cases hstage⟩
  | scheduleWakeup =>
    cases hadvance
    exact ⟨rfl, fun _ hmem => List.mem_cons_of_mem _ hmem, fun _ => ⟨_, List.mem_cons_self⟩⟩
  | sleep | rollbackState | start | submit | rollbackAfterCallbacks =>
    cases hadvance
    exact ⟨rfl, fun _ hmem => hmem, fun hstage => by cases hstage⟩

theorem base_wakeupLeft (hnext : ForceSuspend.next cfg b event = some b') (hleft : WakeupLeft b) : WakeupLeft b' := by
  cases event with
  | attempt reason tag =>
    simp only [ForceSuspend.next] at hnext
    split at hnext
    next => cases hnext
    next hfree =>
      cases hnext
      obtain hinterrupt | ⟨a, ha, -⟩ | htask := hleft
      · exact .inl hinterrupt
      · rw [hfree] at ha
        cases ha
      · exact .inr (.inr htask)
  | advance answers hdiOk =>
    simp only [ForceSuspend.next] at hnext
    split at hnext
    case h_2 => cases hnext
    rename_i a ha
    obtain ⟨hinterrupts, htasks, hschedules⟩ := advance_wakeupTasks hnext
    obtain ⟨caller, number, hinterrupt⟩ | ⟨other, hother, hat⟩ | ⟨tag, hmem⟩ := hleft
    · exact .inl ⟨caller, number, by rw [hinterrupts, hinterrupt]⟩
    · rw [ha] at hother
      cases hother
      exact .inr (.inr (hschedules hat))
    · exact .inr (.inr ⟨tag, htasks tag hmem⟩)
  | callbacksDone number =>
    obtain ⟨-, hsome⟩ := Option.ite_none_right_eq_some.mp hnext
    cases hsome
    exact hleft
  | interrupt caller =>
    simp only [ForceSuspend.next] at hnext
    split at hnext
    case h_2 => cases hnext
    rename_i hnone
    cases hnext
    simp only [ForceSuspend.interruptForceSuspendCallback]
    split
    · exact hleft
    · obtain ⟨other, number, hinterrupt⟩ | hothers := hleft
      · refine .inl ⟨other, number, ?_⟩
        have hne : other ≠ caller := by
          rintro rfl
          rw [hnone] at hinterrupt
          cases hinterrupt
        exact (Function.update_of_ne hne ..).trans hinterrupt
      · exact .inr hothers
  | rollback caller answers =>
    simp only [ForceSuspend.next] at hnext
    split at hnext
    case h_2 => cases hnext
    cases hnext
    exact .inl ⟨caller, _, Function.update_self ..⟩
  | schedule caller =>
    simp only [ForceSuspend.next] at hnext
    split at hnext
    case h_2 => cases hnext
    cases hnext
    exact .inr (.inr ⟨_, List.mem_cons_self⟩)

/-- Who commits `AWAKE` leaves a wakeup round to somebody, unless it is for a failed `SetState(SLEEP)`. -/
theorem base_awake (hnext : ForceSuspend.next cfg b event = some b')
    (hawake : committedBy cfg (baseRequest b event) b.controller.machine = some .awake) :
    WakeupLeft b' ∨ ∃ answers hdiOk a, event = .advance answers hdiOk ∧ b.controller.attempt = some a ∧
      a.stage = .rollbackState := by
  cases event with
  | advance answers hdiOk =>
    simp only [ForceSuspend.next] at hnext
    split at hnext
    case h_2 => cases hnext
    rename_i a ha
    simp only [baseRequest, ha, Option.bind_some] at hawake
    obtain ⟨number, reason, tag, stage⟩ := a
    cases stage with
    | rollbackState => exact .inr ⟨answers, hdiOk, _, rfl, ha, rfl⟩
    | rollbackAfterCallbacks =>
      cases hnext
      exact .inl (.inr (.inl ⟨_, rfl, rfl⟩))
    | inactive | sleep =>
      obtain ⟨-, hsome⟩ := Option.ite_none_right_eq_some.mp hawake
      cases hsome
    | start | submit | wait | hdi | scheduleWakeup => cases hawake
  | rollback caller answers =>
    simp only [ForceSuspend.next] at hnext
    split at hnext
    case h_2 => cases hnext
    cases hnext
    exact .inl (.inl ⟨caller, _, Function.update_self ..⟩)
  | attempt | callbacksDone | interrupt | schedule => cases hawake

end Base

/-! ## One step -/

variable {s s' : State} {e : Event}

theorem step_machine (hstep : step cfg s e = some s') : s'.machine = performed cfg (s.request e) s.machine := by
  cases e with
  | base event =>
    obtain ⟨base, hbase, rfl⟩ := Option.map_eq_some_iff.mp hstep
    exact base_machine hbase
  | forceSleep | wakeup =>
    obtain ⟨-, hsome⟩ := Option.ite_none_left_eq_some.mp hstep
    cases hsome
    rfl
  | sleepThread | wakeupThread | autoSleep | autoCheck | autoRound | forceRound | wakeupRound =>
    obtain ⟨-, hsome⟩ := Option.ite_none_right_eq_some.mp hstep
    cases hsome
    rfl

theorem of_update {α : Type} {f : Nat → α} {caller : Nat} {value x : α}
    (h : ∃ other, Function.update f caller value other = x) : value = x ∨ ∃ other, f other = x := by
  rw [Function.exists_update_iff f fun _ y => y = x] at h
  exact h.imp_right fun ⟨other, _, hother⟩ => ⟨other, hother⟩

/-- A sleep round becomes due when `SLEEP` is committed or, for `SetAutoSleep`, found. -/
theorem step_sleepRoundDue (hstep : step cfg s e = some s') (hdue : s'.SleepRoundDue) :
    s.SleepRoundDue ∨ s.committed cfg e = some .sleep ∨ s.committed cfg e = none ∧ s.machine.currentState = .sleep := by
  cases e with
  | base event =>
    obtain ⟨base, hbase, rfl⟩ := Option.map_eq_some_iff.mp hstep
    obtain hauto | hforce | hstarts | ⟨number, hmem⟩ := hdue
    · exact .inl (.inl hauto)
    · exact .inl (.inr (.inl hforce))
    · obtain hbefore | hsleep := base_startsCallbacks hbase hstarts
      · exact .inl (.inr (.inr (.inl hbefore)))
      · exact .inr (.inl hsleep)
    · obtain hsubmitted | hbefore := List.mem_append.mp hmem
      · exact .inl (.inr (.inr (.inl (submits_startsCallbacks hsubmitted))))
      · exact .inl (.inr (.inr (.inr ⟨number, hbefore⟩)))
  | sleepThread number =>
    obtain ⟨-, hsome⟩ := Option.ite_none_right_eq_some.mp hstep
    cases hsome
    obtain hauto | hforce | hstarts | ⟨other, hmem⟩ := hdue
    · exact .inl (.inl hauto)
    · exact .inl (.inr (.inl hforce))
    · exact .inl (.inr (.inr (.inl hstarts)))
    · exact .inl (.inr (.inr (.inr ⟨other, List.mem_of_mem_erase hmem⟩)))
  | autoSleep caller reason answers =>
    obtain ⟨-, hsome⟩ := Option.ite_none_right_eq_some.mp hstep
    cases hsome
    refine .inl (hdue.imp_left fun hauto => ?_)
    obtain hnew | hbefore := of_update hauto
    · split at hnew
      · cases hnew
      · cases hnew
    · exact hbefore
  | autoCheck caller =>
    obtain ⟨-, hsome⟩ := Option.ite_none_right_eq_some.mp hstep
    cases hsome
    obtain hauto | hothers := hdue
    · obtain hnew | hbefore := of_update hauto
      · split at hnew
        next hsleep => exact .inr (.inr ⟨rfl, hsleep⟩)
        next => cases hnew
      · exact .inl (.inl hbefore)
    · exact .inl (.inr hothers)
  | autoRound caller =>
    obtain ⟨-, hsome⟩ := Option.ite_none_right_eq_some.mp hstep
    cases hsome
    refine .inl (hdue.imp_left fun hauto => ?_)
    obtain hnew | hbefore := of_update hauto
    · cases hnew
    · exact hbefore
  | forceSleep caller reason answers =>
    obtain ⟨-, hsome⟩ := Option.ite_none_left_eq_some.mp hstep
    cases hsome
    obtain hauto | hforce | hothers := hdue
    · exact .inl (.inl hauto)
    · obtain hnew | hbefore := of_update hforce
      · exact .inr (.inl (if_pos hnew))
      · exact .inl (.inr (.inl hbefore))
    · exact .inl (.inr (.inr hothers))
  | forceRound caller =>
    obtain ⟨-, hsome⟩ := Option.ite_none_right_eq_some.mp hstep
    cases hsome
    refine .inl (hdue.imp_right (Or.imp_left fun hforce => ?_))
    obtain hnew | hbefore := of_update hforce
    · cases hnew
    · exact hbefore
  | wakeup caller type answers =>
    obtain ⟨-, hsome⟩ := Option.ite_none_left_eq_some.mp hstep
    cases hsome
    exact .inl hdue
  | wakeupThread tag | wakeupRound caller =>
    obtain ⟨-, hsome⟩ := Option.ite_none_right_eq_some.mp hstep
    cases hsome
    exact .inl hdue

theorem step_lastRound (hstep : step cfg s e = some s') (hlast : s'.lastRound = some .sleep) :
    s.lastRound = some .sleep ∨ s.SleepRoundDue := by
  cases e with
  | base event =>
    obtain ⟨base, -, rfl⟩ := Option.map_eq_some_iff.mp hstep
    exact .inl hlast
  | sleepThread number =>
    obtain ⟨hmem, -⟩ := Option.ite_none_right_eq_some.mp hstep
    exact .inr (.inr (.inr (.inr ⟨number, hmem⟩)))
  | autoRound caller =>
    obtain ⟨hconfirmed, -⟩ := Option.ite_none_right_eq_some.mp hstep
    exact .inr (.inl ⟨caller, hconfirmed⟩)
  | forceRound caller =>
    obtain ⟨hforce, -⟩ := Option.ite_none_right_eq_some.mp hstep
    exact .inr (.inr (.inl ⟨caller, hforce⟩))
  | wakeupThread tag | wakeupRound caller =>
    obtain ⟨-, hsome⟩ := Option.ite_none_right_eq_some.mp hstep
    cases hsome
    cases hlast
  | autoSleep | autoCheck =>
    obtain ⟨-, hsome⟩ := Option.ite_none_right_eq_some.mp hstep
    cases hsome
    exact .inl hlast
  | forceSleep | wakeup =>
    obtain ⟨-, hsome⟩ := Option.ite_none_left_eq_some.mp hstep
    cases hsome
    exact .inl hlast

/-- A wakeup round that is due stays due until it is run. -/
theorem step_wakeupRoundDue (hstep : step cfg s e = some s') (hdue : s.WakeupRoundDue) :
    s'.WakeupRoundDue ∨ s'.lastRound = some .wakeup := by
  cases e with
  | base event =>
    obtain ⟨base, hbase, rfl⟩ := Option.map_eq_some_iff.mp hstep
    exact .inl (hdue.imp_right (base_wakeupLeft hbase))
  | wakeupThread tag | wakeupRound caller =>
    obtain ⟨-, hsome⟩ := Option.ite_none_right_eq_some.mp hstep
    cases hsome
    exact .inr rfl
  | wakeup caller type answers =>
    obtain ⟨hidle, hsome⟩ := Option.ite_none_left_eq_some.mp hstep
    cases hsome
    refine .inl (hdue.imp_left fun ⟨other, hother⟩ => ⟨other, ?_⟩)
    have hne : other ≠ caller := by
      rintro rfl
      exact hidle hother
    exact (Function.update_of_ne hne ..).trans hother
  | sleepThread | autoSleep | autoCheck | autoRound | forceRound =>
    obtain ⟨-, hsome⟩ := Option.ite_none_right_eq_some.mp hstep
    cases hsome
    exact .inl hdue
  | forceSleep =>
    obtain ⟨-, hsome⟩ := Option.ite_none_left_eq_some.mp hstep
    cases hsome
    exact .inl hdue

/-- Who commits `AWAKE` owes a wakeup round, or is silent. -/
theorem step_awake (hstep : step cfg s e = some s') (hawake : s.committed cfg e = some .awake) :
    s'.WakeupRoundDue ∨ Silent s e := by
  cases e with
  | base event =>
    obtain ⟨base, hbase, rfl⟩ := Option.map_eq_some_iff.mp hstep
    obtain hleft | ⟨answers, hdiOk, a, rfl, ha, hat⟩ := base_awake hbase hawake
    · exact .inl (.inr hleft)
    · exact .inr ⟨a, ha, hat⟩
  | wakeup caller type answers =>
    obtain ⟨-, hsome⟩ := Option.ite_none_left_eq_some.mp hstep
    cases hsome
    obtain ⟨hret, -⟩ := Option.ite_none_right_eq_some.mp hawake
    have hround : ∀ ret : Bool, type.wakesUp ret = true →
        ∃ other, Function.update s.wakeups caller (type.wakesUp ret) other = true := by
      intro ret hwakes
      exact ⟨caller, by rw [Function.update_self, hwakes]⟩
    cases type with
    | preBright => exact .inr (.inl rfl)
    | preBrightAuthFailScreenOff => exact .inr (.inr rfl)
    | other reason => exact .inl (.inl (hround _ rfl))
    | preBrightAuthSuccess | preBrightAuthFailScreenOn => exact .inl (.inl (hround _ hret))
  | autoSleep | forceSleep =>
    obtain ⟨-, hsome⟩ := Option.ite_none_right_eq_some.mp hawake
    cases hsome
  | sleepThread | wakeupThread | autoCheck | autoRound | forceRound | wakeupRound => cases hawake

theorem settled_next (h : s.lastCommitted = .awake → Settled s) (hcareful : Careful cfg s e)
    (hnext : next cfg s e = some s') : s'.lastCommitted = .awake → Settled s' := by
  obtain ⟨s'', hstep, rfl⟩ := Option.map_eq_some_iff.mp hnext
  intro hlast
  have hmachine := step_machine hstep
  cases hcommitted : s.committed cfg e with
  | none =>
    rw [hcommitted] at hlast
    have hsettled := h hlast
    refine ⟨fun hdue => ?_, fun hsleep => ?_, fun hsleep => ?_⟩
    · obtain hbefore | hsleep | ⟨-, hcurrent⟩ := step_sleepRoundDue hstep hdue
      · exact hsettled.notDue hbefore
      · rw [hcommitted] at hsleep
        cases hsleep
      · exact hsettled.current hcurrent
    · obtain hbefore | hdue := step_lastRound hstep hsleep
      · obtain hstill | hrun := step_wakeupRoundDue hstep (hsettled.rounds hbefore)
        · exact hstill
        · rw [show s''.lastRound = some .sleep from hsleep] at hrun
          cases hrun
      · exact absurd hdue hsettled.notDue
    · refine hsettled.current (performed_sleep hcommitted ?_)
      rw [← hmachine]
      exact hsleep
  | some state =>
    rw [hcommitted] at hlast
    have hawake : s.committed cfg e = some .awake := by
      rw [hcommitted]
      exact congrArg some hlast
    obtain ⟨hnotDue, hsilent⟩ := hcareful hawake
    refine ⟨fun hdue => ?_, fun hsleep => ?_, fun hsleep => ?_⟩
    · obtain hbefore | hsleep | ⟨hnone, -⟩ := step_sleepRoundDue hstep hdue
      · exact hnotDue hbefore
      · rw [hawake] at hsleep
        cases hsleep
      · rw [hawake] at hnone
        cases hnone
    · obtain howed | hquiet := step_awake hstep hawake
      · exact howed
      · obtain hbefore | hdue := step_lastRound hstep hsleep
        · obtain hstill | hrun := step_wakeupRoundDue hstep (hsilent hquiet hbefore)
          · exact hstill
          · rw [show s''.lastRound = some .sleep from hsleep] at hrun
            cases hrun
        · exact absurd hdue hnotDue
    · have hcurrent : (performed cfg (s.request e) s.machine).currentState = .sleep := hmachine ▸ hsleep
      rw [performed_committed hawake] at hcurrent
      cases hcurrent

theorem settled_reach (h : (system cfg).Reach (Careful cfg) s) : s.lastCommitted = .awake → Settled s := by
  refine h.invariant (I := fun s => s.lastCommitted = .awake → Settled s) ?_ ?_
  · intro s hs hawake
    obtain ⟨m, rfl⟩ := hs
    refine ⟨?_, nofun, fun hsleep => ?_⟩
    · rintro (⟨_, hnone⟩ | ⟨_, hnone⟩ | ⟨_, hnone, -⟩ | ⟨_, hnone⟩)
      all_goals cases hnone
    · have hboth : PowerState.awake = .sleep := (show m.currentState = .awake from hawake).symm.trans hsleep
      cases hboth
  · intro s s' e hsettled hcareful hnext
    exact settled_next hsettled hcareful hnext

/-- When everybody has finished and the state committed last is `AWAKE`, the last round was not a
sleep round. -/
theorem callbacks_end_awake (h : (system cfg).Reach (Careful cfg) s) (hquiescent : Quiescent s)
    (hawake : s.lastCommitted = .awake) : s.lastRound ≠ some .sleep := by
  intro hsleep
  obtain ⟨caller, hwakeup⟩ | hleft := (settled_reach h hawake).rounds hsleep
  · rw [hquiescent.wakeups caller] at hwakeup
    cases hwakeup
  · obtain ⟨caller, number, hinterrupt⟩ | ⟨a, ha, -⟩ | ⟨tag, hmem⟩ := hleft
    · rw [hquiescent.interrupts caller] at hinterrupt
      cases hinterrupt
    · rw [hquiescent.attempt] at ha
      cases ha
    · rw [hquiescent.wakeupTasks] at hmem
      cases hmem

def dark : State where
  base := { controller := { machine := { currentState := .inactive, display := .off } } }
  lastCommitted := .inactive

/-- The device falls asleep, tells so, and is woken. -/
theorem callbacks_end_awake_powerKey : ∃ s, (system {}).Reach (Careful {}) s ∧ s.lastCommitted = .awake ∧
    s.lastRound ≠ some .sleep ∧ s.lastRound = some .wakeup := by
  have hinit : (system {}).Reach (Careful {}) dark := .init ⟨_, rfl⟩
  have hslept := hinit.step (Event.autoSleep 1 .timeout {}) nofun rfl
  have hchecked := hslept.step (Event.autoCheck 1) nofun rfl
  have hround := hchecked.step (Event.autoRound 1) nofun rfl
  have hwoken := hround.step (Event.wakeup 1 (.other .powerKey) {}) (fun _ => by
    constructor
    · rintro (⟨caller, hauto⟩ | ⟨_, hforce⟩ | ⟨_, ha, -⟩ | ⟨_, hmem⟩)
      · match caller with
        | 0 | 1 | _ + 2 => cases hauto
      · cases hforce
      · cases ha
      · cases hmem
    · rintro (hsilent | hsilent)
      · cases hsilent
      · cases hsilent) rfl
  have hdone := hwoken.step (Event.wakeupRound 1) nofun rfl
  refine ⟨_, hdone, rfl, callbacks_end_awake hdone ?_ rfl, rfl⟩
  refine ⟨rfl, rfl, rfl, fun _ => rfl, rfl, fun caller => ?_, fun _ => rfl, fun caller => ?_⟩
  · match caller with
    | 0 | 1 | _ + 2 => rfl
  · match caller with
    | 0 | 1 | _ + 2 => rfl

/-- The device is woken by a key between `GetState` and the sleep round of `SetAutoSleep`; and by an
interrupt before the callbacks of an attempt. -/
theorem callbacks_end_asleep :
    (∃ s, (system {}).Reachable s ∧ Quiescent s ∧ s.lastCommitted = .awake ∧ s.lastRound = some .sleep ∧
      s.base.count = 0) ∧
    ∃ s, (system {}).Reachable s ∧ Quiescent s ∧ s.lastCommitted = .awake ∧ s.lastRound = some .sleep ∧
      s.base.count = 1 := by
  have hinit : (system {}).Reachable dark := .init ⟨_, rfl⟩
  constructor
  · have hslept := hinit.step (Event.autoSleep 1 .timeout {}) trivial rfl
    have hchecked := hslept.step (Event.autoCheck 1) trivial rfl
    have hwoken := hchecked.step (Event.wakeup 1 (.other .powerKey) {}) trivial rfl
    have hwakeup := hwoken.step (Event.wakeupRound 1) trivial rfl
    have hsleep := hwakeup.step (Event.autoRound 1) trivial rfl
    refine ⟨_, hsleep, ?_, rfl, rfl, rfl⟩
    refine ⟨rfl, rfl, rfl, fun _ => rfl, rfl, fun caller => ?_, fun _ => rfl, fun caller => ?_⟩
    · match caller with
      | 0 | 1 | _ + 2 => rfl
    · match caller with
      | 0 | 1 | _ + 2 => rfl
  · have hattempt := hinit.step (Event.base (.attempt .application .ulsr)) trivial rfl
    have hinactive := hattempt.step (Event.base (.advance {} true)) trivial rfl
    have hslept := hinactive.step (Event.base (.advance {} true)) trivial rfl
    have hstarted := hslept.step (Event.base (.advance {} true)) trivial rfl
    have hsubmitted := hstarted.step (Event.base (.advance {} true)) trivial rfl
    have hinterrupt := hsubmitted.step (Event.base (.interrupt 1)) trivial rfl
    have hreturned := hinterrupt.step (Event.base (.advance {} true)) trivial rfl
    have hawake := hreturned.step (Event.base (.rollback 1 {})) trivial rfl
    have hscheduled := hawake.step (Event.base (.schedule 1)) trivial rfl
    have hwakeup := hscheduled.step (Event.wakeupThread .ulsr) trivial rfl
    have hsleep := hwakeup.step (Event.sleepThread 1) trivial rfl
    have hdone := hsleep.step (Event.base (.callbacksDone 1)) trivial rfl
    refine ⟨_, hdone, ?_, rfl, rfl, rfl⟩
    refine ⟨rfl, rfl, rfl, fun caller => ?_, rfl, fun _ => rfl, fun _ => rfl, fun _ => rfl⟩
    match caller with
    | 0 | 1 | _ + 2 => rfl

end PowerMgr.Suspend.SleepCallbacks
