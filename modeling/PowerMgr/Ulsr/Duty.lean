import PowerMgr.Ulsr.Stage
import PowerMgr.Lib.System
import Mathlib.Logic.Function.Basic

/-! # Who closes an ULSR round

Embedding of `PowerMgrService::SetSuspendTag("ulsr")`, `TriggerUlsrWakeupCallbackWithResult`,
`WaitAndTriggerUlsrWakeup` and `OnUlsrTimerExpired` (`power_mgr_service.cpp`).  An open round is
closed by the timer, or by a task that waits for the result; a caller that wants to start the task
cancels the timer first and claims the duty by a global flag afterwards.

* `State`, `next` — the stage, the timer, the flag and the parties under way, one atomic access a step;
* `Served` — an open round has somebody who will close it;
* `HarmlessRefusal` — a request that finds an open round leaves its stage and its timer alone;
* `ulsr_served` — the runs in which both hold.
-/

namespace PowerMgr.Ulsr.Duty

/-- What the service was set up with: whether a client has registered a callback, so that there
is a holder, and whether there is an ffrt timer. -/
structure Config where
  ulsrCallbackHolder : Bool := true
  ffrtTimer : Bool := true
  deriving DecidableEq, Repr

/-- The place `SetSuspendTag("ulsr")` has reached; calls are serialised by `suspendMutex_`.
`spoiled` records whether the call itself has changed the stage or the timer of a round. -/
inductive SetTag where
  | idle
  -- the power state is `SLEEP`, before `CancelDelayTimer`
  | begun
  -- before `TriggerUlsrSyncCallback`
  | cancelled (spoiled : Bool)
  -- `SyncUlsrNotify` has opened a round and waits for the callbacks, with `ulsrMutex_`
  | syncing
  -- the callbacks have ended in time, before `SetDelayTimer`
  | synced
  -- the timer is set, before the return
  | armed
  -- before the roll-back; `refused` if `SyncUlsrNotify` found an open round
  | failed (refused spoiled : Bool)
  -- after the roll-back, before the return
  | rolledBack (refused spoiled : Bool)
  deriving DecidableEq, Repr

/-- The place a call of `TriggerUlsrWakeupCallbackWithResult` has reached. -/
inductive Caller where
  | idle
  -- the timer is cancelled, before the exchange of the flag
  | cancelled
  -- the flag is claimed, before the stage is read
  | claimed
  -- the stage was `STAGE_ENTER`, before `SubmitTask`
  | entered
  -- there was no open round, before the flag is cleared
  | givingUp
  deriving DecidableEq, Repr

/-- The place a submitted `WaitAndTriggerUlsrWakeup` has reached. -/
inductive WaitTask where
  | idle
  | submitted
  -- the flag is set, the result is waited for, before `TriggerUlsrWakeupCallback`
  | waiting
  -- before the flag is cleared
  | notified
  deriving DecidableEq, Repr

/-- `timer` tells whether a task is queued on `TIMER_ID_ULSR`, `expired` counts the tasks that have
started, up to their `TriggerUlsrWakeupCallback`. -/
structure State where
  stage : UlsrCallbackStage := .done
  timer : Bool := false
  expired : Nat := 0
  resultWaitTaskStart : Bool := false
  setTag : SetTag := .idle
  callers : Nat → Caller := fun _ => .idle
  tasks : Nat → WaitTask := fun _ => .idle

inductive Event where
  -- `SetSuspendTag("ulsr")` gets `suspendMutex_` and finds the device in `SLEEP`
  | setTag
  -- its next step; `inTime` tells whether the callbacks ended in time
  | advance (inTime : Bool)
  -- a call of `TriggerUlsrWakeupCallbackWithResult` cancels the timer
  | call (caller : Nat)
  -- its next step; `task` is the task it submits, if it submits one
  | callAdvance (caller task : Nat)
  -- the next step of a submitted task
  | taskAdvance (task : Nat)
  -- the timer expires
  | expire
  -- `OnUlsrTimerExpired` calls `TriggerUlsrWakeupCallback`
  | expiredNotify
  deriving DecidableEq, Repr

/-- `ulsrMutex_` is free: only a call that waits for callbacks keeps it over several steps. -/
def State.ulsrMutexFree (s : State) : Bool :=
  s.setTag ≠ .syncing

def triggerUlsrWakeupCallback (cfg : Config) (s : State) : State :=
  if cfg.ulsrCallbackHolder then { s with stage := (closeRound s.stage).1 } else s

/-- `TriggerUlsrSyncCallback` up to the wait: whether a round was opened, and whether the call was
refused because one was open. -/
def triggerUlsrSyncCallback (cfg : Config) (spoiled : Bool) (s : State) : State :=
  if cfg.ulsrCallbackHolder then
    let (stage, opened) := openRound s.stage
    { s with stage := stage, setTag := if opened then .syncing else .failed true spoiled }
  else { s with setTag := .failed false spoiled }

/-- The next step of `SetSuspendTag("ulsr")`. -/
def advance (cfg : Config) (inTime : Bool) (s : State) : Option State :=
  match s.setTag with
  | .idle => none
  | .begun => some { s with timer := false, setTag := .cancelled s.timer }
  | .cancelled spoiled =>
    some (triggerUlsrSyncCallback cfg spoiled s)
  | .syncing => some { s with setTag := if inTime then .synced else .failed false true }
  | .synced =>
    if cfg.ffrtTimer then some { s with timer := true, setTag := .armed }
    else some { s with setTag := .failed false true }
  | .armed => some { s with setTag := .idle }
  | .failed refused spoiled =>
    let after := triggerUlsrWakeupCallback cfg s
    some { after with setTag := .rolledBack refused (spoiled || after.stage ≠ s.stage) }
  | .rolledBack _ _ => some { s with setTag := .idle }

/-- The next step of `TriggerUlsrWakeupCallbackWithResult`. -/
def callAdvance (cfg : Config) (caller task : Nat) (s : State) : Option State :=
  match s.callers caller with
  | .idle => none
  | .cancelled =>
    let (flag, won) := compareExchange false true s.resultWaitTaskStart
    some { s with
      resultWaitTaskStart := flag
      callers := Function.update s.callers caller (if won then .claimed else .idle) }
  | .claimed =>
    let entered := cfg.ulsrCallbackHolder && decide (s.stage = .enter)
    some { s with callers := Function.update s.callers caller (if entered then .entered else .givingUp) }
  | .entered =>
    if s.tasks task = .idle then
      some { s with
        callers := Function.update s.callers caller .idle
        tasks := Function.update s.tasks task .submitted }
    else none
  | .givingUp => some { s with
      resultWaitTaskStart := false
      callers := Function.update s.callers caller .idle }

/-- The next step of `WaitAndTriggerUlsrWakeup`. -/
def taskAdvance (cfg : Config) (task : Nat) (s : State) : Option State :=
  match s.tasks task with
  | .idle => none
  | .submitted => some { s with
      resultWaitTaskStart := true
      tasks := Function.update s.tasks task .waiting }
  | .waiting =>
    if s.ulsrMutexFree then
      some { triggerUlsrWakeupCallback cfg s with tasks := Function.update s.tasks task .notified }
    else none
  | .notified => some { s with
      resultWaitTaskStart := false
      tasks := Function.update s.tasks task .idle }

def next (cfg : Config) (s : State) : Event → Option State
  | .setTag => if s.setTag = .idle then some { s with setTag := .begun } else none
  | .advance inTime => advance cfg inTime s
  | .call caller =>
    if s.callers caller = .idle then
      some { s with timer := false, callers := Function.update s.callers caller .cancelled }
    else none
  | .callAdvance caller task => callAdvance cfg caller task s
  | .taskAdvance task => taskAdvance cfg task s
  | .expire => if s.timer then some { s with timer := false, expired := s.expired + 1 } else none
  | .expiredNotify =>
    if s.ulsrMutexFree ∧ 0 < s.expired then
      some { triggerUlsrWakeupCallback cfg s with expired := s.expired - 1 }
    else none

def system (cfg : Config) : Lib.System State Event where
  init s := s = {}
  next := next cfg

/-! ## What is promised of a round -/

/-- A call that has cancelled the timer and has not found the round closed. -/
def Caller.GoesOn (caller : Caller) : Prop :=
  caller = .cancelled ∨ caller = .claimed ∨ caller = .entered

def WaitTask.Unnotified (task : WaitTask) : Prop :=
  task = .submitted ∨ task = .waiting

/-- The timer, its handler or a task will close the round. -/
def State.Provided (s : State) : Prop :=
  s.timer = true ∨ 0 < s.expired ∨ ∃ i, (s.tasks i).Unnotified

/-- An open round that no request is working on will be closed: by the timer, its handler or a
task, or by a call of `TriggerUlsrWakeupCallbackWithResult` that is on its way to submit the task. -/
def State.Served (s : State) : Prop :=
  s.stage = .enter → s.setTag = .idle → s.Provided ∨ ∃ i, (s.callers i).GoesOn

/-- A request that was refused because a round was open has not touched that round. -/
def State.HarmlessRefusal (s : State) : Prop :=
  s.setTag ≠ .rolledBack true true

/-- A call that loses the exchange of the flag loses it to a call or a task that has not seen the
round closed, or the timer has been set since. -/
def LosesToServer (s : State) : Event → Prop
  | .callAdvance caller _ =>
    s.callers caller = .cancelled → s.resultWaitTaskStart = true → s.stage = .enter →
      s.timer = true ∨ (∃ i, (s.tasks i).Unnotified) ∨ ∃ i, s.callers i = .claimed ∨ s.callers i = .entered
  | _ => True

/-- No request reaches `SyncUlsrNotify` while a round is open. -/
def OpensAlone (s : State) : Event → Prop
  | .advance _ => ∀ spoiled, s.setTag = .cancelled spoiled → s.stage = .done
  | _ => True

/-! ## An open round is served -/

/-- A request that has set the timer has handed its round over. -/
structure Inv (cfg : Config) (s : State) : Prop where
  served : s.stage = .enter → s.setTag = .idle ∨ s.setTag = .armed → s.Provided ∨ ∃ i, (s.callers i).GoesOn
  rolledBack : ∀ refused spoiled, s.setTag = .rolledBack refused spoiled → s.stage = .done
  holder : s.stage = .enter → cfg.ulsrCallbackHolder = true

section Inv

variable {cfg : Config} {s s' : State}

theorem stage_triggerUlsrWakeupCallback (h : Inv cfg s) : (triggerUlsrWakeupCallback cfg s).stage = .done := by
  unfold triggerUlsrWakeupCallback
  split
  · exact closeRound_stage s.stage
  next hholder =>
    cases hstage : s.stage with
    | done => rfl
    | enter => exact absurd (h.holder hstage) hholder

theorem inv_of_done (hstage : s.stage = .done) : Inv cfg s where
  served hopen := nomatch hstage.symm.trans hopen
  rolledBack _ _ _ := hstage
  holder hopen := nomatch hstage.symm.trans hopen

/-- A request that has not handed its round over. -/
def SetTag.working : SetTag → Bool
  | .idle | .armed | .rolledBack _ _ => false
  | _ => true

theorem inv_of_working (hworking : s.setTag.working = true)
    (hholder : s.stage = .enter → cfg.ulsrCallbackHolder = true) : Inv cfg s where
  served _ hidle := by
    obtain hidle | hidle := hidle <;> rw [hidle] at hworking <;> cases hworking
  rolledBack refused spoiled hrolled := by
    rw [hrolled] at hworking
    cases hworking
  holder := hholder

theorem inv_of_same (h : Inv cfg s) (hstage : s'.stage = s.stage) (hsetTag : s'.setTag = s.setTag)
    (hserved : s.stage = .enter → s.Provided ∨ (∃ i, (s.callers i).GoesOn) →
      s'.Provided ∨ ∃ i, (s'.callers i).GoesOn) : Inv cfg s' where
  served hopen hidle := by
    rw [hstage] at hopen
    rw [hsetTag] at hidle
    exact hserved hopen (h.served hopen hidle)
  rolledBack refused spoiled hrolled := by
    rw [hstage]
    exact h.rolledBack refused spoiled (hsetTag ▸ hrolled)
  holder hopen := h.holder (hstage ▸ hopen)

theorem served_update {caller : Nat} {phase : Caller} (flag : Bool)
    (hphase : (s.callers caller).GoesOn → phase.GoesOn ∨ s.Provided ∨ ∃ i, i ≠ caller ∧ (s.callers i).GoesOn)
    (h : s.Provided ∨ ∃ i, (s.callers i).GoesOn) :
    ({ s with resultWaitTaskStart := flag, callers := Function.update s.callers caller phase } : State).Provided ∨
      ∃ i, (Function.update s.callers caller phase i).GoesOn := by
  obtain hprovided | ⟨i, hgoes⟩ := h
  · exact .inl hprovided
  · by_cases hsame : i = caller
    · subst hsame
      obtain hgoes | hprovided | ⟨j, hne, hgoes⟩ := hphase hgoes
      · exact .inr ⟨i, by rwa [Function.update_self]⟩
      · exact .inl hprovided
      · exact .inr ⟨j, by rwa [Function.update_of_ne hne]⟩
    · exact .inr ⟨i, by rwa [Function.update_of_ne hsame]⟩

theorem inv_callAdvance {caller task : Nat} (h : Inv cfg s) (hok : LosesToServer s (.callAdvance caller task))
    (hnext : callAdvance cfg caller task s = some s') : Inv cfg s' := by
  unfold callAdvance at hnext
  cases hcaller : s.callers caller with
  | idle =>
    rw [hcaller] at hnext
    cases hnext
  | cancelled =>
    simp only [hcaller, Option.some.injEq] at hnext
    subst hnext
    refine inv_of_same h rfl rfl fun hopen hserved => served_update _ (fun _ => ?_) hserved
    cases hflag : s.resultWaitTaskStart with
    | false => exact .inl (.inr (.inl rfl))
    | true =>
      -- The flag is lost to somebody who will close the round.
      right
      obtain htimer | htask | ⟨i, hgoes⟩ := hok hcaller hflag hopen
      · exact .inl (.inl htimer)
      · exact .inl (.inr (.inr htask))
      · refine .inr ⟨i, ?_, .inr hgoes⟩
        rintro rfl
        rw [hcaller] at hgoes
        obtain hgoes | hgoes := hgoes <;> cases hgoes
  | claimed =>
    simp only [hcaller, Option.some.injEq] at hnext
    subst hnext
    refine inv_of_same h rfl rfl fun hopen hserved => served_update _ (fun _ => ?_) hserved
    rw [h.holder hopen, hopen]
    exact .inl (.inr (.inr rfl))
  | entered =>
    simp only [hcaller] at hnext
    split at hnext
    next hidle =>
      cases hnext
      exact inv_of_same h rfl rfl fun _ _ => .inl (.inr (.inr ⟨task, .inl (Function.update_self ..)⟩))
    next => cases hnext
  | givingUp =>
    simp only [hcaller, Option.some.injEq] at hnext
    subst hnext
    refine inv_of_same h rfl rfl fun _ hserved => served_update _ (fun hgoes => ?_) hserved
    rw [hcaller] at hgoes
    obtain hgoes | hgoes | hgoes := hgoes <;> cases hgoes

theorem inv_taskAdvance {task : Nat} (h : Inv cfg s) (hnext : taskAdvance cfg task s = some s') : Inv cfg s' := by
  unfold taskAdvance at hnext
  cases htask : s.tasks task with
  | idle =>
    rw [htask] at hnext
    cases hnext
  | submitted =>
    simp only [htask, Option.some.injEq] at hnext
    subst hnext
    exact inv_of_same h rfl rfl fun _ _ => .inl (.inr (.inr ⟨task, .inr (Function.update_self ..)⟩))
  | waiting =>
    simp only [htask] at hnext
    split at hnext
    · cases hnext
      exact inv_of_done (stage_triggerUlsrWakeupCallback h)
    · cases hnext
  | notified =>
    simp only [htask, Option.some.injEq] at hnext
    subst hnext
    refine inv_of_same h rfl rfl fun _ hserved => ?_
    obtain (htimer | hexpired | ⟨i, hunnotified⟩) | hcaller := hserved
    · exact .inl (.inl htimer)
    · exact .inl (.inr (.inl hexpired))
    · have hne : i ≠ task := by
        rintro rfl
        rw [htask] at hunnotified
        obtain hunnotified | hunnotified := hunnotified <;> cases hunnotified
      refine .inl (.inr (.inr ⟨i, ?_⟩))
      dsimp only
      rwa [Function.update_of_ne hne]
    · exact .inr hcaller

theorem inv_advance {inTime : Bool} (h : Inv cfg s) (hnext : advance cfg inTime s = some s') : Inv cfg s' := by
  unfold advance at hnext
  cases htag : s.setTag with
  | idle =>
    rw [htag] at hnext
    cases hnext
  | begun =>
    simp only [htag, Option.some.injEq] at hnext
    subst hnext
    exact inv_of_working rfl h.holder
  | cancelled spoiled =>
    simp only [htag, Option.some.injEq] at hnext
    subst hnext
    unfold triggerUlsrSyncCallback
    split
    next hholder => cases s.stage <;> exact inv_of_working rfl fun _ => hholder
    next => exact inv_of_working rfl h.holder
  | syncing =>
    simp only [htag, Option.some.injEq] at hnext
    subst hnext
    cases inTime <;> exact inv_of_working rfl h.holder
  | synced =>
    simp only [htag] at hnext
    split at hnext <;> cases hnext
    · exact { served := fun _ _ => .inl (.inl rfl), rolledBack := nofun, holder := h.holder }
    · exact inv_of_working rfl h.holder
  | armed =>
    simp only [htag, Option.some.injEq] at hnext
    subst hnext
    exact { served := fun hopen _ => h.served hopen (.inr htag), rolledBack := nofun, holder := h.holder }
  | failed refused spoiled =>
    simp only [htag, Option.some.injEq] at hnext
    subst hnext
    exact inv_of_done (stage_triggerUlsrWakeupCallback h)
  | rolledBack refused spoiled =>
    simp only [htag, Option.some.injEq] at hnext
    subst hnext
    exact inv_of_done (h.rolledBack refused spoiled htag)

theorem inv_step (e : Event) (h : Inv cfg s) (hok : LosesToServer s e) (hnext : next cfg s e = some s') :
    Inv cfg s' := by
  cases e with
  | setTag =>
    simp only [next] at hnext
    split at hnext <;> cases hnext
    exact inv_of_working rfl h.holder
  | advance inTime => exact inv_advance h hnext
  | call caller =>
    simp only [next] at hnext
    split at hnext <;> cases hnext
    exact inv_of_same h rfl rfl fun _ _ => .inr ⟨caller, .inl (Function.update_self ..)⟩
  | callAdvance caller task => exact inv_callAdvance h hok hnext
  | taskAdvance task => exact inv_taskAdvance h hnext
  | expire =>
    simp only [next] at hnext
    split at hnext <;> cases hnext
    exact inv_of_same h rfl rfl fun _ _ => .inl (.inr (.inl (Nat.succ_pos _)))
  | expiredNotify =>
    simp only [next] at hnext
    split at hnext <;> cases hnext
    exact inv_of_done (stage_triggerUlsrWakeupCallback h)

end Inv

/-! ## Runs -/

def SetTag.Accepted (tag : SetTag) : Prop :=
  (∀ spoiled, tag ≠ .failed true spoiled) ∧ ∀ spoiled, tag ≠ .rolledBack true spoiled

theorem setTag_triggerUlsrWakeupCallback (cfg : Config) (s : State) :
    (triggerUlsrWakeupCallback cfg s).setTag = s.setTag := by
  unfold triggerUlsrWakeupCallback
  split <;> rfl

theorem setTag_callAdvance {cfg : Config} {s s' : State} {caller task : Nat}
    (hnext : callAdvance cfg caller task s = some s') : s'.setTag = s.setTag := by
  unfold callAdvance at hnext
  cases hcaller : s.callers caller with
  | idle =>
    rw [hcaller] at hnext
    cases hnext
  | entered =>
    simp only [hcaller] at hnext
    split at hnext <;> cases hnext
    rfl
  | _ =>
    simp only [hcaller, Option.some.injEq] at hnext
    subst hnext
    rfl

theorem setTag_taskAdvance {cfg : Config} {s s' : State} {task : Nat}
    (hnext : taskAdvance cfg task s = some s') : s'.setTag = s.setTag := by
  unfold taskAdvance at hnext
  cases htask : s.tasks task with
  | idle =>
    rw [htask] at hnext
    cases hnext
  | waiting =>
    simp only [htask] at hnext
    split at hnext <;> cases hnext
    exact setTag_triggerUlsrWakeupCallback cfg s
  | _ =>
    simp only [htask, Option.some.injEq] at hnext
    subst hnext
    rfl

theorem accepted_advance {cfg : Config} {s s' : State} {inTime : Bool} (h : s.setTag.Accepted)
    (hok : OpensAlone s (.advance inTime)) (hnext : advance cfg inTime s = some s') : s'.setTag.Accepted := by
  unfold advance at hnext
  cases htag : s.setTag with
  | idle =>
    rw [htag] at hnext
    cases hnext
  | cancelled spoiled =>
    simp only [htag, Option.some.injEq] at hnext
    subst hnext
    simp only [triggerUlsrSyncCallback, hok spoiled htag]
    split <;> exact ⟨nofun, nofun⟩
  | syncing =>
    simp only [htag, Option.some.injEq] at hnext
    subst hnext
    cases inTime <;> exact ⟨nofun, nofun⟩
  | synced =>
    simp only [htag] at hnext
    split at hnext <;> cases hnext <;> exact ⟨nofun, nofun⟩
  | failed refused spoiled =>
    simp only [htag, Option.some.injEq] at hnext
    subst hnext
    refine ⟨nofun, fun spoiled' hrolled => ?_⟩
    cases hrolled
    exact h.1 spoiled htag
  | _ =>
    simp only [htag, Option.some.injEq] at hnext
    subst hnext
    exact ⟨nofun, nofun⟩

theorem accepted_step {cfg : Config} {s s' : State} (e : Event) (h : s.setTag.Accepted) (hok : OpensAlone s e)
    (hnext : next cfg s e = some s') : s'.setTag.Accepted := by
  cases e with
  | setTag =>
    simp only [next] at hnext
    split at hnext <;> cases hnext
    exact ⟨nofun, nofun⟩
  | advance inTime => exact accepted_advance h hok hnext
  | callAdvance caller task => rwa [setTag_callAdvance hnext]
  | taskAdvance task => rwa [setTag_taskAdvance hnext]
  | expiredNotify =>
    simp only [next] at hnext
    split at hnext <;> cases hnext
    exact setTag_triggerUlsrWakeupCallback cfg s ▸ h
  | _ =>
    simp only [next] at hnext
    split at hnext <;> cases hnext
    exact h

/-- An open round that no request works on is closed by somebody, unless a call has lost the flag to
one that is done with its round; and a request leaves other rounds alone, unless it finds one open. -/
theorem ulsr_served {cfg : Config} {s : State} :
    ((system cfg).Reach LosesToServer s → s.Served) ∧ ((system cfg).Reach OpensAlone s → s.HarmlessRefusal) := by
  constructor
  · intro hreach
    have hinv : Inv cfg s := by
      refine hreach.invariant (fun s hinit => ?_) fun s s' e hs hok hnext => inv_step e hs hok hnext
      cases hinit
      exact inv_of_done rfl
    exact fun hopen hidle => hinv.served hopen (.inl hidle)
  · intro hreach
    have haccepted : s.setTag.Accepted := by
      refine hreach.invariant (I := fun s => s.setTag.Accepted) (fun s hinit => ?_)
        fun s s' e hs hok hnext => accepted_step e hs hok hnext
      cases hinit
      exact ⟨nofun, nofun⟩
    exact haccepted.2 true

/-- A request that finds an open round closes it, if nobody else does first. -/
theorem refusal_spoils {cfg : Config} {s : State} {spoiled inTime : Bool} (hholder : cfg.ulsrCallbackHolder = true)
    (htag : s.setTag = .cancelled spoiled) (hopen : s.stage = .enter) :
    ∃ s', (system cfg).run s [.advance inTime, .advance inTime] = some s' ∧ ¬s'.HarmlessRefusal := by
  have hrefused : advance cfg inTime s = some { s with setTag := .failed true spoiled } := by
    simp [advance, htag, triggerUlsrSyncCallback, hholder, hopen]
  have hclosed : advance cfg inTime { s with setTag := .failed true spoiled } =
      some { s with stage := .done, setTag := .rolledBack true true } := by
    simp [advance, triggerUlsrWakeupCallback, hholder, hopen]
  refine ⟨{ s with stage := .done, setTag := .rolledBack true true }, ?_, fun hharmless => hharmless rfl⟩
  simp [system, next, hrefused, hclosed]

/-! ## Two rounds -/

def request : List Event :=
  .setTag :: List.replicate 5 (.advance true)

/-- After a request the timer serves its round. -/
theorem ulsr_served_request :
    ∃ s, (system {}).run {} request = some s ∧ s.stage = .enter ∧ s.Served ∧ s.HarmlessRefusal := by
  obtain ⟨s, hrun⟩ := Option.isSome_iff_exists.mp (rfl : ((system {}).run {} request).isSome = true)
  have hstage : ((system {}).run {} request).map State.stage = some .enter := rfl
  rw [hrun, Option.map_some, Option.some.injEq] at hstage
  have hserved : (system {}).Reach LosesToServer s := by
    refine .of_run request (.init rfl) (fun s e hmem => ?_) hrun
    simp only [request, List.replicate, List.mem_cons, List.not_mem_nil, or_false] at hmem
    obtain rfl | rfl | rfl | rfl | rfl | rfl := hmem <;> trivial
  have hbegun : (system {}).Reach OpensAlone { ({} : State) with setTag := .begun } :=
    .step .setTag (.init rfl) trivial rfl
  have hcancelled := hbegun.step (Event.advance true) (fun _ htag => nomatch htag) rfl
  have hsyncing := hcancelled.step (Event.advance true) (fun _ _ => rfl) rfl
  have hsynced := hsyncing.step (Event.advance true) (fun _ htag => nomatch htag) rfl
  have harmed := hsynced.step (Event.advance true) (fun _ htag => nomatch htag) rfl
  have hreturned := harmed.step (Event.advance true) (fun _ htag => nomatch htag) hrun
  exact ⟨s, hrun, hstage, ulsr_served.1 hserved, ulsr_served.2 hreturned⟩

/-- The first round is closed by the task of call `0`.  Before that task clears the flag, a second
round is opened, and call `1` cancels its timer and loses the flag to the task. -/
def flagLost : List Event :=
  request ++ [.call 0, .callAdvance 0 0, .callAdvance 0 0, .callAdvance 0 0, .taskAdvance 0, .taskAdvance 0] ++
    request ++ [.call 1, .callAdvance 1 0, .taskAdvance 0]

/-- The second round stays open for good; and a request that finds a round open closes it. -/
theorem ulsr_not_served :
    (¬∀ s, (system {}).Reachable s → s.Served) ∧ ¬∀ s, (system {}).Reachable s → s.HarmlessRefusal := by
  constructor
  · intro hserved
    have hrun : ∃ s, (system {}).run {} flagLost = some s ∧ s.stage = .enter ∧ s.setTag = .idle ∧
        s.timer = false ∧ s.expired = 0 ∧ (∀ i, s.tasks i = .idle) ∧ ∀ i, s.callers i = .idle := by
      refine ⟨_, rfl, rfl, rfl, rfl, rfl, fun i => ?_, fun i => ?_⟩
      · match i with
        | 0 => rfl
        | _ + 1 => rfl
      · match i with
        | 0 => rfl
        | 1 => rfl
        | _ + 2 => rfl
    obtain ⟨s, hrun, hopen, hidle, htimer, hexpired, htasks, hcallers⟩ := hrun
    rcases hserved s (Lib.System.reachable_of_run _ (.init rfl) hrun) hopen hidle with
      (hpending | hrunning | ⟨i, hunnotified⟩) | ⟨i, hgoes⟩
    · exact nomatch htimer.symm.trans hpending
    · omega
    · rw [htasks] at hunnotified
      obtain hunnotified | hunnotified := hunnotified <;> cases hunnotified
    · rw [hcallers] at hgoes
      obtain hgoes | hgoes | hgoes := hgoes <;> cases hgoes
  · intro hharmless
    have hrun : ∃ s, (system {}).run {} (request ++ [.setTag, .advance true, .advance true, .advance true]) = some s ∧
        s.setTag = .rolledBack true true := ⟨_, rfl, rfl⟩
    obtain ⟨s, hrun, htag⟩ := hrun
    exact hharmless s (Lib.System.reachable_of_run _ (.init rfl) hrun) htag

end PowerMgr.Ulsr.Duty
