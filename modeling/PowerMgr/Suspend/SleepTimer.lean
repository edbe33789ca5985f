import PowerMgr.Lib.System
import Mathlib.Logic.Function.Basic

/-! # The sleep timer and its shadow

Embedding of `StartSleepTimer`, `StopSleep`, `HandleAction` and the timer part of `HandleForceSleep`
(`suspend_controller.cpp`) over `FFRTTimer` (`ffrt_utils.cpp`), one access of `sleepTime_` or of the
timer a step.  `sleepTime_` is meant to be the deadline of the task queued on `TIMER_ID_SLEEP`: a
request that comes later than that is refused.

* `State`, `next` — the shadow, the queued task, and the calls and tasks under way;
* `Honoured`, `ShadowExact`, `ForcedKept` — what is promised of requests, of the shadow and of the
  task that suspends by force;
* `sleepRequests_kept` — the runs in which the promises hold;
* `sleepRequests_lost` — runs in which they do not.

`sleepReason_`, `sleepAction_`, `sleepDuration_` and `sleepType_`, written together with
`sleepTime_`, are read by none of these functions.  The two reads of `sleepTime_` in one condition
count as one.
-/

namespace PowerMgr.Suspend.SleepTimer

def forceSleepDelayMs : Nat := 8000

def int64Max : Int := 0x7fffffffffffffff

/-- `SuspendAction`; `invalid` stands for every other value of the `uint32_t`. -/
inductive SuspendAction where
  | none
  | autoSuspend
  | forceSuspend
  | hibernate
  | shutdown
  | invalid
  deriving DecidableEq, Repr

inductive Job where
  | handleAction (action : SuspendAction)
  -- the forced HDI suspend that `HandleForceSleep` arms
  | forceSuspend
  deriving DecidableEq, Repr

structure Task where
  job : Job
  deadline : Int
  deriving DecidableEq, Repr

/-- The place a `StartSleepTimer` has reached. -/
inductive Request where
  | idle
  -- the checks are passed, before `sleepTime_` is read
  | timed (action : SuspendAction) (delay : UInt32) (timeout : Int)
  -- not refused, before `sleepTime_` is written
  | accepted (action : SuspendAction) (delay : UInt32) (timeout : Int)
  -- before `SetTimer`
  | recorded (action : SuspendAction) (delay : UInt32)
  deriving DecidableEq, Repr

/-- The place a `HandleAction` has reached. -/
inductive Handling where
  | idle
  -- before or in its body
  | acting (action : SuspendAction)
  -- before `sleepTime_` is reset
  | acted
  deriving DecidableEq, Repr

/-- `queued` is the task queued on `TIMER_ID_SLEEP`: `SetTimer` takes the one before out of the queue.
Requests, stops (from `CancelTimer` to the reset) and tasks that were started go on side by side. -/
structure State where
  now : Nat := 0
  sleepTime : Int := -1
  queued : Option Task := none
  requests : Nat → Request := fun _ => .idle
  stops : Nat → Bool := fun _ => false
  handlings : Nat → Handling := fun _ => .idle

inductive Event where
  -- a call of `StartSleepTimer` up to the overflow check; `sleepTime` is what `GetSleepTime`
  -- returns
  | startSleepTimer (caller : Nat) (action : SuspendAction) (delay : UInt32) (sleepTime : Int)
  -- it reads `sleepTime_`
  | check (caller : Nat)
  -- it writes `sleepTime_`
  | record (caller : Nat)
  -- it sets the timer
  | setTimer (caller : Nat)
  -- a call of `StopSleep` cancels the timer
  | stopSleep (caller : Nat)
  -- it resets `sleepTime_`
  | stopReset (caller : Nat)
  -- the queued task starts
  | fire (runner : Nat)
  -- the body of `HandleAction`; `ok` is the result of `SetState`
  | act (runner : Nat) (ok : Bool)
  -- `HandleAction` resets `sleepTime_`
  | reset (runner : Nat)
  | tick (ms : Nat)
  deriving DecidableEq, Repr

/-! ## The functions of the controller -/

def State.setRequest (s : State) (caller : Nat) (request : Request) : State :=
  { s with requests := Function.update s.requests caller request }

/-- `FFRTTimer::SetTimer` of `TIMER_ID_SLEEP`. -/
def State.setTimer (s : State) (job : Job) (delay : Nat) : State :=
  { s with queued := some { job := job, deadline := s.now + delay } }

/-- `StartSleepTimer` up to the overflow check. -/
def startSleepTimer (caller : Nat) (action : SuspendAction) (delay : UInt32) (sleepTime : Int) (s : State) : State :=
  if action = .autoSuspend ∧ sleepTime < 0 then s
  else
    -- the sum is one of `int64_t`: it is less than a summand when it overflows
    let timeout := (s.now : Int) + delay.toNat
    if int64Max < timeout then s else s.setRequest caller (.timed action delay timeout)

/-- "already have a sleep event". -/
def refuses (s : State) (timeout : Int) : Bool :=
  timeout > s.sleepTime && s.sleepTime ≠ -1

/-- The body of `HandleAction`: only a forced sleep comes back to the timer. -/
def handleAction (action : SuspendAction) (ok : Bool) (s : State) : State :=
  match action with
  | .forceSuspend => if ok then s.setTimer .forceSuspend forceSleepDelayMs else s
  | .autoSuspend | .hibernate | .shutdown | .none | .invalid => s

/-- A task starts; the one that suspends by force has nothing to do with the timer any more. -/
def startTask (runner : Nat) (task : Task) (s : State) : State :=
  match task.job with
  | .handleAction action =>
    { s with queued := none, handlings := Function.update s.handlings runner (.acting action) }
  | .forceSuspend => { s with queued := none }

def next (s : State) : Event → Option State
  | .startSleepTimer caller action delay sleepTime =>
    if s.requests caller = .idle then some (startSleepTimer caller action delay sleepTime s) else none
  | .check caller =>
    match s.requests caller with
    | .timed action delay timeout =>
      some (s.setRequest caller (if refuses s timeout then .idle else .accepted action delay timeout))
    | _ => none
  | .record caller =>
    match s.requests caller with
    | .accepted action delay timeout =>
      some ({ s with sleepTime := timeout }.setRequest caller (.recorded action delay))
    | _ => none
  | .setTimer caller =>
    match s.requests caller with
    | .recorded action delay => some ((s.setTimer (.handleAction action) delay.toNat).setRequest caller .idle)
    | _ => none
  | .stopSleep caller =>
    if s.stops caller then none
    else some { s with queued := none, stops := Function.update s.stops caller true }
  | .stopReset caller =>
    if s.stops caller then some { s with sleepTime := -1, stops := Function.update s.stops caller false } else none
  | .fire runner =>
    match s.queued, s.handlings runner with
    | some task, .idle => if task.deadline ≤ s.now then some (startTask runner task s) else none
    | _, _ => none
  | .act runner ok =>
    match s.handlings runner with
    | .acting action =>
      some { handleAction action ok s with handlings := Function.update s.handlings runner .acted }
    | _ => none
  | .reset runner =>
    match s.handlings runner with
    | .acted => some { s with sleepTime := -1, handlings := Function.update s.handlings runner .idle }
    | _ => none
  | .tick ms => some { s with now := s.now + ms }

def system : Lib.System State Event where
  init s := s = {}
  next := next

/-! ## What is promised -/

/-- A request that is refused finds a task that comes no later than it asks for. -/
def Honoured (s : State) (e : Event) : Prop :=
  ∀ caller action delay timeout, e = .check caller → s.requests caller = .timed action delay timeout →
    refuses s timeout = true → ∃ task, s.queued = some task ∧ task.deadline ≤ timeout

def State.Quiescent (s : State) : Prop :=
  (∀ caller, s.requests caller = .idle) ∧ (∀ caller, s.stops caller = false) ∧ ∀ runner, s.handlings runner = .idle

/-- With nobody under way, `sleepTime_` says whether a task is queued. -/
def ShadowExact (s : State) : Prop :=
  s.Quiescent → (s.sleepTime = -1 ↔ s.queued = none)

/-- The task that suspends by force stays in the queue until it starts, unless `StopSleep` cancels it. -/
def ForcedKept (s : State) (e : Event) (s' : State) : Prop :=
  ∀ task, s.queued = some task → task.job = .forceSuspend →
    s'.queued = some task ∨ (∃ runner, e = .fire runner) ∨ ∃ caller, e = .stopSleep caller

/-! ## The runs in which it holds -/

/-- Somebody has changed the timer and not yet the shadow, or the shadow and not yet the timer. -/
def State.Between (s : State) : Prop :=
  (∃ caller action delay, s.requests caller = .recorded action delay) ∨ (∃ caller, s.stops caller = true) ∨
    ∃ runner, s.handlings runner ≠ .idle

def State.ForcedQueued (s : State) : Prop :=
  ∃ task, s.queued = some task ∧ task.job = .forceSuspend

/-- No request is refused between the two changes of timer and shadow, none sets the timer with
another deadline than the shadow has, the task that suspends by force is not replaced, and the shadow
is not reset while a task is queued. -/
def Careful (s : State) : Event → Prop
  | .check caller => ∀ action delay timeout, s.requests caller = .timed action delay timeout →
      refuses s timeout = true → ¬s.Between
  | .setTimer caller => ¬s.ForcedQueued ∧ ∀ action delay, s.requests caller = .recorded action delay →
      s.sleepTime = s.now + delay.toNat
  | .act runner ok => s.handlings runner = .acting .forceSuspend → ok = true → ¬s.ForcedQueued
  | .stopReset _ | .reset _ => s.queued = none
  | _ => True

/-! ## The invariant -/

/-- The timeouts of the requests that are to be written are not the value that stands for none. -/
def Timed (requests : Nat → Request) : Prop :=
  ∀ caller action delay timeout, requests caller = .timed action delay timeout ∨
    requests caller = .accepted action delay timeout → timeout ≠ -1

/-- A shadow that is set is the deadline of the queued task, unless somebody is between; a queued
`HandleAction` is shadowed; and the task that suspends by force is queued only while the `HandleAction`
that armed it goes on. -/
structure Kept (s : State) : Prop where
  shadow : s.sleepTime ≠ -1 → s.Between ∨ ∃ task, s.queued = some task ∧ task.deadline = s.sleepTime
  shadowed : ∀ task, s.queued = some task → task.job ≠ .forceSuspend → s.sleepTime ≠ -1
  forced : s.ForcedQueued → ∃ runner, s.handlings runner ≠ .idle
  timed : Timed s.requests

theorem setRequest_requests (s : State) (caller : Nat) (request : Request) :
    (s.setRequest caller request).requests = Function.update s.requests caller request := rfl

theorem Between.setRequest {s : State} {caller : Nat} {request : Request} (h : s.Between)
    (hbefore : ∀ action delay, s.requests caller ≠ .recorded action delay) :
    (s.setRequest caller request).Between := by
  obtain ⟨other, action, delay, hrecorded⟩ | hstop | hhandling := h
  · have hne : other ≠ caller := fun heq => hbefore action delay (heq ▸ hrecorded)
    exact .inl ⟨other, action, delay, by rw [setRequest_requests, Function.update_of_ne hne, hrecorded]⟩
  · exact .inr (.inl hstop)
  · exact .inr (.inr hhandling)

theorem Timed.update {requests : Nat → Request} {caller : Nat} {request : Request} (h : Timed requests)
    (hrequest : ∀ action delay timeout, request = .timed action delay timeout ∨
      request = .accepted action delay timeout → timeout ≠ -1) :
    Timed (Function.update requests caller request) := by
  apply (Function.forall_update_iff requests fun _ r => ∀ action delay timeout,
    r = .timed action delay timeout ∨ r = .accepted action delay timeout → timeout ≠ -1).mpr
  exact ⟨hrequest, fun other _ => h other⟩

/-- A request goes on, before it writes the shadow. -/
theorem Kept.setRequest {s : State} {caller : Nat} {request : Request} (h : Kept s)
    (hbefore : ∀ action delay, s.requests caller ≠ .recorded action delay)
    (hrequest : ∀ action delay timeout, request = .timed action delay timeout ∨
      request = .accepted action delay timeout → timeout ≠ -1) : Kept (s.setRequest caller request) where
  shadow hset := (h.shadow hset).imp_left fun hbetween => Between.setRequest hbetween hbefore
  shadowed := h.shadowed
  forced := h.forced
  timed := h.timed.update hrequest

theorem Kept.startSleepTimer {s : State} (h : Kept s) {caller : Nat} (action : SuspendAction) (delay : UInt32)
    (sleepTime : Int) (hidle : s.requests caller = .idle) : Kept (startSleepTimer caller action delay sleepTime s) := by
  simp only [SleepTimer.startSleepTimer]
  split
  · exact h
  · split
    · exact h
    · refine h.setRequest (fun _ _ => by rw [hidle]; exact nofun) fun action' delay' timeout hplace => ?_
      obtain hplace | hplace := hplace
      · cases hplace
        omega
      · cases hplace

theorem Kept.check {s : State} (h : Kept s) {caller : Nat} {action : SuspendAction} {delay : UInt32} {timeout : Int}
    (hplace : s.requests caller = .timed action delay timeout) :
    Kept (s.setRequest caller (if refuses s timeout then .idle else .accepted action delay timeout)) := by
  refine h.setRequest (fun _ _ => by rw [hplace]; exact nofun) fun action' delay' timeout' hafter => ?_
  split at hafter
  · obtain hafter | hafter := hafter
    · cases hafter
    · cases hafter
  · obtain hafter | hafter := hafter
    · cases hafter
    · cases hafter
      exact h.timed caller action delay timeout (.inl hplace)

theorem Kept.record {s : State} (h : Kept s) {caller : Nat} {action : SuspendAction} {delay : UInt32} {timeout : Int}
    (hplace : s.requests caller = .accepted action delay timeout) :
    Kept ({ s with sleepTime := timeout }.setRequest caller (.recorded action delay)) where
  shadow _ := .inl (.inl ⟨caller, action, delay, Function.update_self ..⟩)
  shadowed _ _ _ := h.timed caller action delay timeout (.inr hplace)
  forced := h.forced
  timed := h.timed.update nofun

theorem Kept.setTimer {s : State} (h : Kept s) {caller : Nat} {action : SuspendAction} {delay : UInt32}
    (hplace : s.requests caller = .recorded action delay) (hcareful : Careful s (.setTimer caller)) :
    Kept ((s.setTimer (.handleAction action) delay.toNat).setRequest caller .idle) := by
  have hshadow := hcareful.2 action delay hplace
  constructor
  · intro _
    exact .inr ⟨_, rfl, hshadow.symm⟩
  · intro _ _ _ hunset
    have hnone : s.sleepTime = -1 := hunset
    omega
  · rintro ⟨task, hqueued, hjob⟩
    cases hqueued
    cases hjob
  · exact h.timed.update nofun

/-- A stop begins: the queue is empty, and the shadow will follow. -/
theorem Kept.stopSleep {s : State} (h : Kept s) (caller : Nat) :
    Kept { s with queued := none, stops := Function.update s.stops caller true } where
  shadow _ := .inl (.inr (.inl ⟨caller, Function.update_self ..⟩))
  shadowed := nofun
  forced := nofun
  timed := h.timed

theorem kept_reset {s : State} (hqueued : s.queued = none) (hsleep : s.sleepTime = -1) (htimed : Timed s.requests) :
    Kept s where
  shadow hset := absurd hsleep hset
  shadowed task htask := by
    rw [hqueued] at htask
    cases htask
  forced hforced := by
    obtain ⟨task, htask, -⟩ := hforced
    rw [hqueued] at htask
    cases htask
  timed := htimed

theorem Kept.fire {s : State} (h : Kept s) (runner : Nat) {task : Task} (hqueued : s.queued = some task) :
    Kept (startTask runner task s) := by
  obtain ⟨job, deadline⟩ := task
  cases job with
  | handleAction action =>
    have hnow : Function.update s.handlings runner (.acting action) runner ≠ .idle := by
      rw [Function.update_self]
      exact nofun
    exact
      { shadow := fun _ => .inl (.inr (.inr ⟨runner, hnow⟩))
        shadowed := nofun
        forced := nofun
        timed := h.timed }
  | forceSuspend =>
    -- the `HandleAction` that armed it has not reset the shadow
    exact
      { shadow := fun _ => .inl (.inr (.inr (h.forced ⟨_, hqueued, rfl⟩)))
        shadowed := nofun
        forced := nofun
        timed := h.timed }

theorem handleAction_cases (action : SuspendAction) (ok : Bool) (s : State) :
    handleAction action ok s = s ∨ handleAction action ok s = s.setTimer .forceSuspend forceSleepDelayMs := by
  cases action <;> cases ok <;> simp [handleAction]

theorem Kept.act {s : State} (h : Kept s) (runner : Nat) (action : SuspendAction) (ok : Bool) :
    Kept { handleAction action ok s with handlings := Function.update s.handlings runner .acted } := by
  have hnow : Function.update s.handlings runner .acted runner ≠ .idle := by
    rw [Function.update_self]
    exact nofun
  obtain hsame | hforce := handleAction_cases action ok s
  · rw [hsame]
    exact
      { shadow := fun _ => .inl (.inr (.inr ⟨runner, hnow⟩))
        shadowed := h.shadowed
        forced := fun _ => ⟨runner, hnow⟩
        timed := h.timed }
  · rw [hforce]
    refine
      { shadow := fun _ => .inl (.inr (.inr ⟨runner, hnow⟩))
        shadowed := ?_
        forced := fun _ => ⟨runner, hnow⟩
        timed := h.timed }
    intro task hqueued hjob
    cases hqueued
    exact absurd rfl hjob

theorem kept_step {s s' : State} {e : Event} (h : Kept s) (hcareful : Careful s e) (hnext : next s e = some s') :
    Kept s' := by
  cases e with
  | startSleepTimer caller action delay sleepTime =>
    obtain ⟨hidle, hsome⟩ := Option.ite_none_right_eq_some.mp hnext
    cases hsome
    exact h.startSleepTimer action delay sleepTime hidle
  | check caller =>
    simp only [next] at hnext
    split at hnext
    case h_2 => cases hnext
    rename_i hplace
    cases hnext
    exact h.check hplace
  | record caller =>
    simp only [next] at hnext
    split at hnext
    case h_2 => cases hnext
    rename_i hplace
    cases hnext
    exact h.record hplace
  | setTimer caller =>
    simp only [next] at hnext
    split at hnext
    case h_2 => cases hnext
    rename_i hplace
    cases hnext
    exact h.setTimer hplace hcareful
  | stopSleep caller =>
    simp only [next] at hnext
    split at hnext
    case isTrue => cases hnext
    cases hnext
    exact h.stopSleep caller
  | stopReset caller =>
    obtain ⟨-, hsome⟩ := Option.ite_none_right_eq_some.mp hnext
    cases hsome
    exact kept_reset hcareful rfl h.timed
  | fire runner =>
    simp only [next] at hnext
    split at hnext
    case h_2 => cases hnext
    rename_i task hqueued hidle
    obtain ⟨-, hsome⟩ := Option.ite_none_right_eq_some.mp hnext
    cases hsome
    exact h.fire runner hqueued
  | act runner ok =>
    simp only [next] at hnext
    split at hnext
    case h_2 => cases hnext
    cases hnext
    exact h.act runner _ ok
  | reset runner =>
    simp only [next] at hnext
    split at hnext
    case h_2 => cases hnext
    cases hnext
    exact kept_reset hcareful rfl h.timed
  | tick ms =>
    cases hnext
    exact ⟨h.shadow, h.shadowed, h.forced, h.timed⟩

theorem kept_reach {s : State} (h : system.Reach Careful s) : Kept s := by
  refine h.invariant (I := Kept) ?_ ?_
  · intro s hs
    cases hs
    refine kept_reset rfl rfl fun caller action delay timeout hplace => ?_
    obtain hplace | hplace := hplace
    · cases hplace
    · cases hplace
  · intro s s' e hkept hcareful hnext
    exact kept_step hkept hcareful hnext

/-! ## The promises -/

theorem Kept.honoured {s : State} {e : Event} (h : Kept s) (hcareful : Careful s e) : Honoured s e := by
  intro caller action delay timeout he hplace hrefused
  subst he
  have hnobody := hcareful action delay timeout hplace hrefused
  simp only [refuses, Bool.and_eq_true, decide_eq_true_eq] at hrefused
  obtain hbetween | ⟨task, hqueued, hdeadline⟩ := h.shadow hrefused.2
  · exact absurd hbetween hnobody
  · refine ⟨task, hqueued, ?_⟩
    omega

theorem Kept.shadowExact {s : State} (h : Kept s) : ShadowExact s := by
  rintro ⟨hrequests, hstops, hhandlings⟩
  constructor
  · intro hunset
    cases hqueued : s.queued with
    | none => rfl
    | some task =>
      by_cases hjob : task.job = .forceSuspend
      · obtain ⟨runner, hrunning⟩ := h.forced ⟨task, hqueued, hjob⟩
        exact absurd (hhandlings runner) hrunning
      · exact absurd hunset (h.shadowed task hqueued hjob)
  · intro hnone
    by_contra hset
    obtain (⟨caller, action, delay, hplace⟩ | ⟨caller, hstop⟩ | ⟨runner, hrunning⟩) | ⟨task, hqueued, -⟩ :=
      h.shadow hset
    · rw [hrequests caller] at hplace
      cases hplace
    · rw [hstops caller] at hstop
      cases hstop
    · exact hrunning (hhandlings runner)
    · rw [hnone] at hqueued
      cases hqueued

/-- A careful step leaves the task that suspends by force in the queue. -/
theorem forcedKept_step {s s' : State} {e : Event} (hcareful : Careful s e) (hnext : next s e = some s') :
    ForcedKept s e s' := by
  intro task hqueued hjob
  cases e with
  | startSleepTimer caller action delay sleepTime =>
    obtain ⟨-, hsome⟩ := Option.ite_none_right_eq_some.mp hnext
    cases hsome
    simp only [startSleepTimer]
    split
    · exact .inl hqueued
    · split
      · exact .inl hqueued
      · exact .inl hqueued
  | setTimer caller => exact absurd ⟨task, hqueued, hjob⟩ hcareful.1
  | stopSleep caller => exact .inr (.inr ⟨caller, rfl⟩)
  | fire runner => exact .inr (.inl ⟨runner, rfl⟩)
  | act runner ok =>
    simp only [next] at hnext
    split at hnext
    case h_2 => cases hnext
    rename_i action hplace
    cases hnext
    refine .inl ?_
    cases ok with
    | false => cases action <;> exact hqueued
    | true =>
      cases action with
      | forceSuspend => exact absurd ⟨task, hqueued, hjob⟩ (hcareful hplace rfl)
      | none | autoSuspend | hibernate | shutdown | invalid => exact hqueued
  | stopReset caller | reset runner =>
    rw [show s.queued = none from hcareful] at hqueued
    cases hqueued
  | check caller | record caller =>
    simp only [next] at hnext
    split at hnext
    case h_2 => cases hnext
    cases hnext
    exact .inl hqueued
  | tick ms =>
    cases hnext
    exact .inl hqueued

/-- In every careful run requests are honoured, the shadow is exact when nobody is under way, and
only `StopSleep` takes the task that suspends by force out of the queue. -/
theorem sleepRequests_kept {s : State} (h : system.Reach Careful s) :
    ShadowExact s ∧ ∀ e s', Careful s e → next s e = some s' → Honoured s e ∧ ForcedKept s e s' := by
  have hkept := kept_reach h
  exact ⟨hkept.shadowExact, fun e s' hcareful hnext => ⟨hkept.honoured hcareful, forcedKept_step hcareful hnext⟩⟩

/-- A request is recorded and armed; a later one finds it, and is refused. -/
theorem sleepRequests_kept_later : ∃ s s', s.queued = some ⟨.handleAction .autoSuspend, 10⟩ ∧
    refuses s 50 = true ∧ next s (.check 2) = some s' ∧
    ShadowExact s ∧ Honoured s (.check 2) ∧ ForcedKept s (.check 2) s' := by
  have hinit : system.Reach Careful {} := .init rfl
  have hstart := hinit.step (Event.startSleepTimer 1 .autoSuspend 10 500) trivial rfl
  have hcheck := hstart.step (Event.check 1) (fun _ _ _ hplace hrefused => by cases hplace; cases hrefused) rfl
  have hrecord := hcheck.step (Event.record 1) trivial rfl
  have harmed := hrecord.step (Event.setTimer 1) ⟨nofun, fun _ _ hplace => by cases hplace; rfl⟩ rfl
  have hlater := harmed.step (Event.startSleepTimer 2 .autoSuspend 50 500) trivial rfl
  obtain ⟨hexact, hstep⟩ := sleepRequests_kept hlater
  have hcareful := hstep (.check 2) _ (fun _ _ _ _ _ hbetween => ?_) rfl
  · exact ⟨_, _, rfl, rfl, rfl, hexact, hcareful.1, hcareful.2⟩
  · obtain ⟨caller, action, delay, hplace⟩ | ⟨caller, hstop⟩ | ⟨runner, hrunning⟩ := hbetween
    · match caller with
      | 0 | 1 | 2 | _ + 3 => cases hplace
    · cases hstop
    · exact hrunning rfl

/-- A request that comes while a task that has fired is being handled is refused, and no task is
queued; a forced sleep leaves a queued task behind with the shadow unset; the next request takes that
task out of the queue. -/
theorem sleepRequests_lost :
    (∃ s e s', system.Reachable s ∧ next s e = some s' ∧ ¬Honoured s e) ∧
    (∃ s, system.Reachable s ∧ ¬ShadowExact s) ∧
    ∃ s e s', system.Reachable s ∧ next s e = some s' ∧ ¬ForcedKept s e s' := by
  have hinit : system.Reachable {} := .init rfl
  refine ⟨?_, ?_, ?_⟩
  · have hstart := hinit.step (Event.startSleepTimer 1 .autoSuspend 10 500) trivial rfl
    have hcheck := hstart.step (Event.check 1) trivial rfl
    have hrecord := hcheck.step (Event.record 1) trivial rfl
    have harmed := hrecord.step (Event.setTimer 1) trivial rfl
    have hlater := harmed.step (Event.tick 10) trivial rfl
    have hfired := hlater.step (Event.fire 1) trivial rfl
    have hsecond := hfired.step (Event.startSleepTimer 1 .autoSuspend 50 500) trivial rfl
    refine ⟨_, .check 1, _, hsecond, rfl, fun hhonoured => ?_⟩
    obtain ⟨task, hqueued, -⟩ := hhonoured 1 .autoSuspend 50 60 rfl rfl rfl
    cases hqueued
  all_goals
    have hstart := hinit.step (Event.startSleepTimer 1 .forceSuspend 0 500) trivial rfl
    have hcheck := hstart.step (Event.check 1) trivial rfl
    have hrecord := hcheck.step (Event.record 1) trivial rfl
    have harmed := hrecord.step (Event.setTimer 1) trivial rfl
    have hfired := harmed.step (Event.fire 1) trivial rfl
    have hacted := hfired.step (Event.act 1 true) trivial rfl
    have hreset := hacted.step (Event.reset 1) trivial rfl
  · refine ⟨_, hreset, fun hexact => ?_⟩
    have hunset := (hexact ⟨fun caller => ?_, fun _ => rfl, fun runner => ?_⟩).mp rfl
    · cases hunset
    · match caller with
      | 0 | 1 | _ + 2 => rfl
    · match runner with
      | 0 | 1 | _ + 2 => rfl
  · have hsecond := hreset.step (Event.startSleepTimer 1 .autoSuspend 50 500) trivial rfl
    have hchecked := hsecond.step (Event.check 1) trivial rfl
    have hrecorded := hchecked.step (Event.record 1) trivial rfl
    refine ⟨_, .setTimer 1, _, hrecorded, rfl, fun hkept => ?_⟩
    obtain hstill | ⟨runner, hfire⟩ | ⟨caller, hstop⟩ := hkept _ rfl rfl
    · cases hstill
    · cases hfire
    · cases hstop

end PowerMgr.Suspend.SleepTimer
