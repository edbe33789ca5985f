import PowerMgr.StateMachine.Transit
import Mathlib.Logic.Function.Basic

/-! # Auto suspend and wakeup

Embedding of `SuspendController::SetAutoSleep` (`suspend_controller.cpp`), of the actions of
`EmplaceSleep` and `EmplaceAwake` (`power_state_machine.cpp`) and of `AllowAutoSleep`,
`DisallowAutoSleep`, `Suspend` and `Wakeup` (`system_suspend_controller.cpp`), for any number of
threads whose steps interleave.

* `Stage` — where a thread stands; each HDI call, each access to `allowSleepTask_`, each lock and
  the store to `currentState_` is a step of its own;
* `State` — the state machine, the flag, the HDI calls made so far and the two mutexes;
* `Placed` — what is known in each stage, the invariant of all runs;
* `autoSuspend_not_restarted` — once `AWAKE` is stored, and up to the next action of `SLEEP`, the
  only call made to the HDI is `StopSuspend`, and the last one is.

A thread that is between its check of the state and its call of `Suspend` may stay there for as
long as its callbacks take, so it is the flag, read under the mutex that also covers the call,
that holds it back.  The HDI is taken to be there, as `GetPowerInterface` usually finds it.
-/

namespace PowerMgr.StateMachine.AutoSuspend

/-- The two calls that turn the suspend loop of the HDI on and off. -/
inductive HdiCall where
  | startSuspend
  | stopSuspend
  deriving DecidableEq, Repr

/-- What a thread was started for: `SetAutoSleep`, or a plain `SetState`. -/
inductive Task where
  | setAutoSleep (reason : StateChangeReason)
  | setState (state : PowerState) (reason : StateChangeReason) (force : Bool)
  deriving DecidableEq, Repr

def Task.state : Task → PowerState
  | .setAutoSleep _ => .sleep
  | .setState state _ _ => state

def Task.reason : Task → StateChangeReason
  | .setAutoSleep reason => reason
  | .setState _ reason _ => reason

def Task.force : Task → Bool
  | .setAutoSleep _ => false
  | .setState _ _ force => force

/-- The place a thread has reached.  The machine it carries is what `TransitTo` is going to leave
behind once the action has succeeded. -/
inductive Stage where
  -- before `SetState` takes `stateMutex_`
  | request
  -- in the action of `SLEEP`, before `AllowAutoSleep`
  | allowAutoSleep (m : Machine)
  -- in the action of `AWAKE`, the display is on, before `DisallowAutoSleep`
  | disallowAutoSleep (m : Machine)
  -- before `Wakeup` takes `mutex_`
  | wakeup (m : Machine)
  -- in `Wakeup`, before `StopSuspend`
  | stopSuspend (m : Machine)
  -- the action has succeeded, before `currentState_` is stored
  | commit (m : Machine)
  -- in `SetAutoSleep`, with the result of `SetState`, before `GetState`
  | getState (ret : Bool)
  -- in `TriggerSyncSleepCallback`
  | callbacks
  -- before `Suspend` takes `mutex_`
  | suspend
  -- in `Suspend`, before `allowSleepTask_` is read
  | load
  -- in `Suspend`, before `StartSuspend`
  | startSuspend
  deriving DecidableEq, Repr

/-- The shared state; `hdi` has the latest call first. -/
structure State where
  machine : Machine
  allowSleepTask : Bool
  hdi : List HdiCall
  -- holder of `PowerStateMachine::stateMutex_`
  stateMutex : Option Nat
  -- holder of `SystemSuspendController::mutex_`
  mutex : Option Nat
  threads : Nat → Option (Task × Stage)

inductive Event where
  | spawn (thread : Nat) (task : Task)
  -- the thread gets `stateMutex_`, and its request is decided under these answers
  | enter (thread : Nat) (answers : Answers)
  | step (thread : Nat)

/-! ## Steps -/

def State.goto (s : State) (thread : Nat) (task : Task) (stage : Stage) : State :=
  { s with threads := Function.update s.threads thread (some (task, stage)) }

def State.done (s : State) (thread : Nat) : State :=
  { s with threads := Function.update s.threads thread none }

/-- `SetState` returns `ret` to the task that called it. -/
def State.returned (s : State) (thread : Nat) (task : Task) (ret : Bool) : State :=
  match task with
  | .setAutoSleep _ => s.goto thread task (.getState ret)
  | .setState .. => s.done thread

/-- Where the action of a state begins once the display is as it asks for.  The other actions
neither touch the flag nor call the HDI. -/
def actionStage (state : PowerState) (m : Machine) : Stage :=
  match state with
  | .sleep => .allowAutoSleep m
  | .awake => .disallowAutoSleep m
  | _ => .commit m

/-- `SetState` up to the action, with `stateMutex_` just taken. -/
def enter (cfg : Config) (answers : Answers) (thread : Nat) (task : Task) (s : State) : State :=
  if !answers.taskAvailable then s.returned thread task false
  else
    let force := task.force || isTimeoutReason task.reason && answers.forceTimingOut
    let (m, ret) := transitTo cfg answers task.state task.reason force s.machine
    if ret = .success then
      let matched := matchState task.state s.machine.currentState s.machine.display
      { s with machine := { s.machine with currentState := matched }, stateMutex := some thread }.goto thread task
        (actionStage task.state m)
    else { s with machine := m }.returned thread task (ret = TransitResult.alreadyInState)

/-- The next step of a thread; `none` while it waits for a mutex. -/
def advance (s : State) (thread : Nat) (task : Task) : Stage → Option State
  | .request => none
  | .allowAutoSleep m => some ({ s with allowSleepTask := true }.goto thread task (.commit m))
  | .disallowAutoSleep m => some ({ s with allowSleepTask := false }.goto thread task (.wakeup m))
  | .wakeup m => if s.mutex = none then some ({ s with mutex := some thread }.goto thread task (.stopSuspend m)) else none
  | .stopSuspend m => some ({ s with hdi := .stopSuspend :: s.hdi, mutex := none }.goto thread task (.commit m))
  | .commit m => some ({ s with machine := m, stateMutex := none }.returned thread task true)
  | .getState ret =>
    if ret && s.machine.currentState = .sleep then some (s.goto thread task .callbacks) else some (s.done thread)
  | .callbacks => some (s.goto thread task .suspend)
  | .suspend => if s.mutex = none then some ({ s with mutex := some thread }.goto thread task .load) else none
  | .load =>
    if s.allowSleepTask then some (s.goto thread task .startSuspend) else some ({ s with mutex := none }.done thread)
  | .startSuspend => some ({ s with hdi := .startSuspend :: s.hdi, mutex := none }.done thread)

def next (cfg : Config) (s : State) : Event → Option State
  | .spawn thread task => if s.threads thread = none then some (s.goto thread task .request) else none
  | .enter thread answers =>
    match s.threads thread with
    | some (task, .request) => if s.stateMutex = none then some (enter cfg answers thread task s) else none
    | _ => none
  | .step thread =>
    match s.threads thread with
    | some (task, stage) => advance s thread task stage
    | none => none

/-- Runs begin with no thread under way; the state machine, the flag and the past of the HDI are
arbitrary. -/
def system (cfg : Config) : Lib.System State Event where
  init := fun s => s.stateMutex = none ∧ s.mutex = none ∧ ∀ thread, s.threads thread = none
  next := next cfg

def CommitsAwake (s : State) (e : Event) : Prop :=
  ∃ thread task m, e = .step thread ∧ s.threads thread = some (task, .commit m) ∧ m.currentState = .awake

def BeginsSleep (s : State) (e : Event) : Prop :=
  ∃ thread task m, e = .step thread ∧ s.threads thread = some (task, .allowAutoSleep m)

/-! ## What is known in each stage -/

/-- The stages inside `SetState`, under `stateMutex_`. -/
def Stage.holdsStateMutex : Stage → Bool
  | .allowAutoSleep _ | .disallowAutoSleep _ | .wakeup _ | .stopSuspend _ | .commit _ => true
  | _ => false

/-- The stages inside `Suspend` and `Wakeup`, under `mutex_`. -/
def Stage.holdsMutex : Stage → Bool
  | .stopSuspend _ | .load | .startSuspend => true
  | _ => false

/-- Auto suspend is off, and no thread is about to turn it on. -/
structure Settled (s : State) : Prop where
  disallowed : s.allowSleepTask = false
  stopped : s.hdi.head? = some .stopSuspend
  nobodyStarts : ∀ thread task, s.threads thread ≠ some (task, .startSuspend)

/-- What a thread in a stage relies on. -/
def Placed (s : State) : Stage → Prop
  | .allowAutoSleep m => m.currentState = .sleep
  | .disallowAutoSleep m => m.currentState = .awake
  | .wakeup m | .stopSuspend m => m.currentState = .awake ∧ s.allowSleepTask = false
  | .commit m => m.currentState = .awake → Settled s
  | _ => True

/-- The invariant: the mutexes are held by the threads that are inside, and every thread can rely
on what its stage says. -/
structure Inv (s : State) : Prop where
  stateOwner : ∀ thread task stage, s.threads thread = some (task, stage) → stage.holdsStateMutex = true →
    s.stateMutex = some thread
  owner : ∀ thread task stage, s.threads thread = some (task, stage) → stage.holdsMutex = true →
    s.mutex = some thread
  placed : ∀ thread task stage, s.threads thread = some (task, stage) → Placed s stage

/-! ## Frames -/

variable {cfg : Config} {s s' : State} {thread : Nat} {task : Task} {stage : Stage} {m : Machine}

/-- One thread moves to `entry`; the mutexes may change hands only if it is this thread that had
them or takes them. -/
structure Moves (s s' : State) (thread : Nat) (entry : Option (Task × Stage)) : Prop where
  threads : s'.threads = Function.update s.threads thread entry
  stateMutex : s'.stateMutex = s.stateMutex ∨ s.stateMutex = none ∨ s.stateMutex = some thread
  mutex : s'.mutex = s.mutex ∨ s.mutex = none ∨ s.mutex = some thread

theorem held_of_other {held held' : Option Nat} {other : Nat} (hother : other ≠ thread)
    (hchange : held' = held ∨ held = none ∨ held = some thread) (hheld : held = some other) : held' = some other := by
  obtain hsame | hfree | hmine := hchange
  · rw [hsame, hheld]
  · rw [hheld] at hfree
    cases hfree
  · rw [hheld] at hmine
    cases hmine
    exact absurd rfl hother

/-- The invariant after one thread has moved: what it relies on has to be shown for the new stage,
and for the other threads that they may go on relying on theirs. -/
theorem Inv.moves {entry : Option (Task × Stage)} (h : Inv s) (hmoves : Moves s s' thread entry)
    (hown : ∀ task stage, entry = some (task, stage) →
      (stage.holdsStateMutex = true → s'.stateMutex = some thread) ∧
      (stage.holdsMutex = true → s'.mutex = some thread) ∧ Placed s' stage)
    (hframe : ∀ other task stage, other ≠ thread → s.threads other = some (task, stage) →
      Placed s stage → Placed s' stage) : Inv s' := by
  have hcases : ∀ other task stage, s'.threads other = some (task, stage) →
      other = thread ∧ entry = some (task, stage) ∨ other ≠ thread ∧ s.threads other = some (task, stage) := by
    intro other task stage hthread
    rw [hmoves.threads, Function.update_apply] at hthread
    split at hthread
    · exact .inl ⟨‹_›, hthread⟩
    · exact .inr ⟨‹_›, hthread⟩
  refine ⟨fun other task stage hthread hholds => ?_, fun other task stage hthread hholds => ?_,
    fun other task stage hthread => ?_⟩
  · obtain ⟨rfl, hentry⟩ | ⟨hother, hthread⟩ := hcases other task stage hthread
    · exact (hown task stage hentry).1 hholds
    · exact held_of_other hother hmoves.stateMutex (h.stateOwner other task stage hthread hholds)
  · obtain ⟨rfl, hentry⟩ | ⟨hother, hthread⟩ := hcases other task stage hthread
    · exact (hown task stage hentry).2.1 hholds
    · exact held_of_other hother hmoves.mutex (h.owner other task stage hthread hholds)
  · obtain ⟨rfl, hentry⟩ | ⟨hother, hthread⟩ := hcases other task stage hthread
    · exact (hown task stage hentry).2.2
    · exact hframe other task stage hother hthread (h.placed other task stage hthread)

theorem Inv.stateMutex_unique {other : Nat} {task' : Task} {stage' : Stage} (h : Inv s)
    (hthread : s.threads thread = some (task, stage)) (hholds : stage.holdsStateMutex = true)
    (hthread' : s.threads other = some (task', stage')) (hholds' : stage'.holdsStateMutex = true) : other = thread := by
  have hmine := h.stateOwner thread task stage hthread hholds
  have htheirs := h.stateOwner other task' stage' hthread' hholds'
  rw [hmine] at htheirs
  cases htheirs
  rfl

theorem Inv.mutex_unique {other : Nat} {task' : Task} {stage' : Stage} (h : Inv s)
    (hthread : s.threads thread = some (task, stage)) (hholds : stage.holdsMutex = true)
    (hthread' : s.threads other = some (task', stage')) (hholds' : stage'.holdsMutex = true) : other = thread := by
  have hmine := h.owner thread task stage hthread hholds
  have htheirs := h.owner other task' stage' hthread' hholds'
  rw [hmine] at htheirs
  cases htheirs
  rfl

/-! ## What a step can do -/

/-- A move that does not turn auto suspend on: the flag is not set, the HDI hears nothing but
`StopSuspend`, and only a flag that is set leads to `StartSuspend`. -/
structure Quiet (s s' : State) (thread : Nat) (entry : Option (Task × Stage)) : Prop
    extends Moves s s' thread entry where
  flag : s'.allowSleepTask = s.allowSleepTask ∨ s'.allowSleepTask = false
  hdi : s'.hdi = s.hdi ∨ s'.hdi = .stopSuspend :: s.hdi
  starts : ∀ task, entry = some (task, .startSuspend) → s.allowSleepTask = true
  arrives : ∀ task stage, entry = some (task, stage) →
    (stage.holdsStateMutex = true → s'.stateMutex = some thread) ∧
    (stage.holdsMutex = true → s'.mutex = some thread) ∧ Placed s' stage

theorem Quiet.settled {entry : Option (Task × Stage)} (h : Settled s) (hquiet : Quiet s s' thread entry) :
    Settled s' := by
  refine ⟨?_, ?_, fun other task hthread => ?_⟩
  · obtain hsame | hclear := hquiet.flag
    · rw [hsame, h.disallowed]
    · exact hclear
  · obtain hsame | hstop := hquiet.hdi
    · rw [hsame, h.stopped]
    · rw [hstop]
      rfl
  · rw [hquiet.threads, Function.update_apply] at hthread
    split at hthread
    · have hset := hquiet.starts task hthread
      rw [h.disallowed] at hset
      cases hset
    · exact h.nobodyStarts other task hthread

/-- The other threads may go on relying on what their stages say. -/
theorem Quiet.placed {entry : Option (Task × Stage)} (h : Placed s stage) (hquiet : Quiet s s' thread entry) :
    Placed s' stage := by
  have hclear : s.allowSleepTask = false → s'.allowSleepTask = false := by
    intro hclear
    obtain hsame | hoff := hquiet.flag
    · rw [hsame, hclear]
    · exact hoff
  cases stage with
  | wakeup m => exact ⟨h.1, hclear h.2⟩
  | stopSuspend m => exact ⟨h.1, hclear h.2⟩
  | commit m =>
    intro hawake
    exact hquiet.settled (h hawake)
  | _ => exact h

theorem Inv.quiet {entry : Option (Task × Stage)} (h : Inv s) (hquiet : Quiet s s' thread entry) : Inv s' :=
  h.moves hquiet.toMoves hquiet.arrives fun _ _ _ _ _ hplaced => hquiet.placed hplaced

/-- A move that leaves the flag and the HDI alone and brings the thread to a stage that relies on
nothing. -/
theorem Quiet.of_moves {entry : Option (Task × Stage)} (hmoves : Moves s s' thread entry)
    (hflag : s'.allowSleepTask = s.allowSleepTask) (hhdi : s'.hdi = s.hdi)
    (hentry : ∀ task stage, entry = some (task, stage) → stage ≠ .startSuspend ∧ stage.holdsStateMutex = false ∧
      stage.holdsMutex = false) : Quiet s s' thread entry := by
  refine ⟨hmoves, .inl hflag, .inl hhdi, fun task h => absurd rfl (hentry task _ h).1, fun task stage h => ?_⟩
  obtain ⟨-, hstate, hmutex⟩ := hentry task stage h
  refine ⟨fun hholds => ?_, fun hholds => ?_, ?_⟩
  · rw [hstate] at hholds
    cases hholds
  · rw [hmutex] at hholds
    cases hholds
  · cases stage <;> trivial

theorem quiet_goto (hheld : stage.holdsStateMutex = false) (hmutex : stage.holdsMutex = false) :
    Quiet s (s.goto thread task stage) thread (some (task, stage)) := by
  have hmoves : Moves s (s.goto thread task stage) thread (some (task, stage)) := ⟨rfl, .inl rfl, .inl rfl⟩
  apply Quiet.of_moves hmoves rfl rfl
  intro task' stage' h
  cases h
  refine ⟨?_, hheld, hmutex⟩
  rintro rfl
  cases hmutex

theorem quiet_done : Quiet s (s.done thread) thread none := by
  have hmoves : Moves s (s.done thread) thread none := ⟨rfl, .inl rfl, .inl rfl⟩
  apply Quiet.of_moves hmoves rfl rfl
  intro task stage h
  cases h

theorem quiet_returned (machine : Machine) {stateMutex : Option Nat} (ret : Bool)
    (hstate : stateMutex = s.stateMutex ∨ s.stateMutex = none ∨ s.stateMutex = some thread) :
    ∃ entry, Quiet s ({ s with machine := machine, stateMutex := stateMutex }.returned thread task ret) thread entry := by
  cases task with
  | setAutoSleep reason =>
    have hmoves : Moves s ({ s with machine := machine, stateMutex := stateMutex }.goto thread (.setAutoSleep reason)
        (.getState ret)) thread (some (.setAutoSleep reason, .getState ret)) := ⟨rfl, hstate, .inl rfl⟩
    refine ⟨_, Quiet.of_moves hmoves rfl rfl ?_⟩
    intro task stage h
    cases h
    exact ⟨nofun, rfl, rfl⟩
  | setState state reason force =>
    have hmoves : Moves s ({ s with machine := machine, stateMutex := stateMutex }.done thread) thread none :=
      ⟨rfl, hstate, .inl rfl⟩
    refine ⟨_, Quiet.of_moves hmoves rfl rfl ?_⟩
    intro task stage h
    cases h

theorem transitTo_success {answers : Answers} {state : PowerState} {reason : StateChangeReason} {ignoreLock : Bool}
    (h : (transitTo cfg answers state reason ignoreLock m).2 = .success) :
    (transitTo cfg answers state reason ignoreLock m).1.currentState = state := by
  revert h
  unfold transitTo
  dsimp only
  split
  · exact nofun
  · split
    · exact nofun
    · split
      · exact nofun
      · split
        · exact nofun
        · split
          · exact fun _ => rfl
          · exact fun h => absurd h ‹_›

/-- The action that a successful request goes on with relies on the state it leaves. -/
theorem placed_actionStage {state : PowerState} (h : m.currentState = state) : Placed s (actionStage state m) := by
  cases state with
  | sleep => exact h
  | awake => exact h
  | _ =>
    intro hawake
    rw [h] at hawake
    cases hawake

theorem actionStage_ne_startSuspend (state : PowerState) (m : Machine) : actionStage state m ≠ .startSuspend := by
  cases state <;> exact nofun

theorem holdsMutex_actionStage (state : PowerState) (m : Machine) : (actionStage state m).holdsMutex = false := by
  cases state <;> rfl

theorem quiet_enter (answers : Answers) (hfree : s.stateMutex = none) :
    ∃ entry, Quiet s (enter cfg answers thread task s) thread entry := by
  unfold enter
  split
  · exact quiet_returned s.machine false (.inl rfl)
  · dsimp only
    split
    next hsuccess =>
      refine ⟨_, ⟨rfl, .inr (.inl hfree), .inl rfl⟩, .inl rfl, .inl rfl, fun task' h => ?_, fun task' stage h => ?_⟩
      · exact absurd (congrArg Prod.snd (Option.some.inj h)) (actionStage_ne_startSuspend _ _)
      · obtain ⟨rfl, rfl⟩ := Prod.mk.inj (Option.some.inj h)
        refine ⟨fun _ => rfl, fun hholds => ?_, placed_actionStage (transitTo_success hsuccess)⟩
        rw [holdsMutex_actionStage] at hholds
        cases hholds
    next => exact quiet_returned _ _ (.inl rfl)

theorem quiet_suspend (hfree : s.mutex = none) :
    Quiet s ({ s with mutex := some thread }.goto thread task .load) thread (some (task, .load)) := by
  refine ⟨⟨rfl, .inl rfl, .inr (.inl hfree)⟩, .inl rfl, .inl rfl, fun task' hentry => ?_, fun task' stage hentry => ?_⟩
  · cases hentry
  · cases hentry
    exact ⟨nofun, fun _ => rfl, trivial⟩

section action

variable (h : Inv s)
include h

theorem quiet_disallowAutoSleep (hthread : s.threads thread = some (task, .disallowAutoSleep m)) :
    Quiet s ({ s with allowSleepTask := false }.goto thread task (.wakeup m)) thread (some (task, .wakeup m)) := by
  have hawake : m.currentState = .awake := h.placed thread task _ hthread
  have hheld := h.stateOwner thread task _ hthread rfl
  refine ⟨⟨rfl, .inl rfl, .inl rfl⟩, .inr rfl, .inl rfl, fun task' hentry => ?_, fun task' stage hentry => ?_⟩
  · cases hentry
  · cases hentry
    exact ⟨fun _ => hheld, nofun, hawake, rfl⟩

theorem quiet_wakeup (hthread : s.threads thread = some (task, .wakeup m)) (hfree : s.mutex = none) :
    Quiet s ({ s with mutex := some thread }.goto thread task (.stopSuspend m)) thread (some (task, .stopSuspend m)) := by
  have hplaced : m.currentState = .awake ∧ s.allowSleepTask = false := h.placed thread task _ hthread
  have hheld := h.stateOwner thread task _ hthread rfl
  refine ⟨⟨rfl, .inl rfl, .inr (.inl hfree)⟩, .inl rfl, .inl rfl, fun task' hentry => ?_, fun task' stage hentry => ?_⟩
  · cases hentry
  · cases hentry
    exact ⟨fun _ => hheld, fun _ => rfl, hplaced⟩

/-- The step everything rests on: `StopSuspend` is called under `mutex_`, so no thread stands
between its look at the flag and `StartSuspend`, and the flag is clear. -/
theorem quiet_stopSuspend (hthread : s.threads thread = some (task, .stopSuspend m)) :
    Quiet s ({ s with hdi := .stopSuspend :: s.hdi, mutex := none }.goto thread task (.commit m)) thread
      (some (task, .commit m)) := by
  have hplaced : m.currentState = .awake ∧ s.allowSleepTask = false := h.placed thread task _ hthread
  have hheld := h.stateOwner thread task _ hthread rfl
  have hmutex := h.owner thread task _ hthread rfl
  refine ⟨⟨rfl, .inl rfl, .inr (.inr hmutex)⟩, .inl rfl, .inr rfl, fun task' hentry => ?_, fun task' stage hentry => ?_⟩
  · cases hentry
  · cases hentry
    refine ⟨fun _ => hheld, nofun, fun _ => ⟨hplaced.2, rfl, fun other task' hother => ?_⟩⟩
    simp only [State.goto, Function.update_apply] at hother
    split at hother
    · cases hother
    · have hsame := h.mutex_unique hthread rfl hother rfl
      contradiction

theorem quiet_load_set (hthread : s.threads thread = some (task, .load)) (hset : s.allowSleepTask = true) :
    Quiet s (s.goto thread task .startSuspend) thread (some (task, .startSuspend)) := by
  have hmutex := h.owner thread task _ hthread rfl
  refine ⟨⟨rfl, .inl rfl, .inl rfl⟩, .inl rfl, .inl rfl, fun task' _ => hset, fun task' stage hentry => ?_⟩
  cases hentry
  exact ⟨nofun, fun _ => hmutex, trivial⟩

theorem quiet_load_clear (hthread : s.threads thread = some (task, .load)) :
    Quiet s ({ s with mutex := none }.done thread) thread none := by
  have hmutex := h.owner thread task _ hthread rfl
  have hmoves : Moves s ({ s with mutex := none }.done thread) thread none := ⟨rfl, .inl rfl, .inr (.inr hmutex)⟩
  apply Quiet.of_moves hmoves rfl rfl
  intro task stage hentry
  cases hentry

end action

/-- Every step is quiet, or is the action of `SLEEP`, or calls `StartSuspend`. -/
theorem next_cases {e : Event} (h : Inv s) (hnext : next cfg s e = some s') :
    (∃ thread entry, Quiet s s' thread entry) ∨
    (∃ thread task m, e = .step thread ∧ s.threads thread = some (task, .allowAutoSleep m) ∧
      s' = { s with allowSleepTask := true }.goto thread task (.commit m)) ∨
    (∃ thread task, e = .step thread ∧ s.threads thread = some (task, .startSuspend) ∧
      s' = { s with hdi := .startSuspend :: s.hdi, mutex := none }.done thread) := by
  cases e with
  | spawn thread task =>
    simp only [next, Option.ite_none_right_eq_some, Option.some.injEq] at hnext
    obtain ⟨-, rfl⟩ := hnext
    exact .inl ⟨thread, _, quiet_goto rfl rfl⟩
  | enter thread answers =>
    simp only [next] at hnext
    split at hnext
    · simp only [Option.ite_none_right_eq_some, Option.some.injEq] at hnext
      obtain ⟨hfree, rfl⟩ := hnext
      exact .inl ⟨thread, quiet_enter answers hfree⟩
    · cases hnext
  | step thread =>
    simp only [next] at hnext
    split at hnext
    next task stage hthread =>
      cases stage with
      | request => cases hnext
      | allowAutoSleep m =>
        cases hnext
        exact .inr (.inl ⟨thread, task, m, rfl, hthread, rfl⟩)
      | disallowAutoSleep m =>
        cases hnext
        exact .inl ⟨thread, _, quiet_disallowAutoSleep h hthread⟩
      | wakeup m =>
        simp only [advance, Option.ite_none_right_eq_some, Option.some.injEq] at hnext
        obtain ⟨hfree, rfl⟩ := hnext
        exact .inl ⟨thread, _, quiet_wakeup h hthread hfree⟩
      | stopSuspend m =>
        cases hnext
        exact .inl ⟨thread, _, quiet_stopSuspend h hthread⟩
      | commit m =>
        cases hnext
        have hheld := h.stateOwner thread task _ hthread rfl
        exact .inl ⟨thread, quiet_returned m true (.inr (.inr hheld))⟩
      | getState ret =>
        simp only [advance] at hnext
        split at hnext
        · cases hnext
          exact .inl ⟨thread, _, quiet_goto rfl rfl⟩
        · cases hnext
          exact .inl ⟨thread, _, quiet_done⟩
      | callbacks =>
        cases hnext
        exact .inl ⟨thread, _, quiet_goto rfl rfl⟩
      | suspend =>
        simp only [advance, Option.ite_none_right_eq_some, Option.some.injEq] at hnext
        obtain ⟨hfree, rfl⟩ := hnext
        exact .inl ⟨thread, _, quiet_suspend hfree⟩
      | load =>
        simp only [advance] at hnext
        split at hnext
        next hset =>
          cases hnext
          exact .inl ⟨thread, _, quiet_load_set h hthread hset⟩
        next =>
          cases hnext
          exact .inl ⟨thread, _, quiet_load_clear h hthread⟩
      | startSuspend =>
        cases hnext
        exact .inr (.inr ⟨thread, task, rfl, hthread, rfl⟩)
    next => cases hnext

/-! ## Runs -/

/-- The action of `SLEEP` is inside `stateMutex_`, so no thread is on its way to `AWAKE`. -/
theorem Inv.allowAutoSleep (h : Inv s) (hthread : s.threads thread = some (task, .allowAutoSleep m)) :
    Inv ({ s with allowSleepTask := true }.goto thread task (.commit m)) := by
  have hsleep : m.currentState = .sleep := h.placed thread task _ hthread
  have hheld := h.stateOwner thread task _ hthread rfl
  have hmoves : Moves s ({ s with allowSleepTask := true }.goto thread task (.commit m)) thread
      (some (task, .commit m)) := ⟨rfl, .inl rfl, .inl rfl⟩
  refine h.moves hmoves (fun task' stage hentry => ?_) fun other task' stage hother hthread' hplaced => ?_
  · cases hentry
    refine ⟨fun _ => hheld, nofun, fun hawake => ?_⟩
    rw [hsleep] at hawake
    cases hawake
  · -- a stage that relies on the flag or on the HDI is inside `stateMutex_` too
    have houtside : stage.holdsStateMutex = false := by
      by_contra hholds
      rw [Bool.not_eq_false] at hholds
      exact hother (h.stateMutex_unique hthread rfl hthread' hholds)
    cases stage <;> first | exact hplaced | cases houtside

/-- `StartSuspend` is called only while no thread relies on its not being called. -/
theorem Inv.startSuspend (h : Inv s) (hthread : s.threads thread = some (task, .startSuspend)) :
    Inv ({ s with hdi := .startSuspend :: s.hdi, mutex := none }.done thread) := by
  have hmutex := h.owner thread task _ hthread rfl
  have hmoves : Moves s ({ s with hdi := .startSuspend :: s.hdi, mutex := none }.done thread) thread none :=
    ⟨rfl, .inl rfl, .inr (.inr hmutex)⟩
  refine h.moves hmoves (fun task' stage hentry => ?_) fun other task' stage hother hthread' hplaced => ?_
  · cases hentry
  · cases stage with
    | commit m =>
      intro hawake
      have hsettled : Settled s := hplaced hawake
      exact absurd hthread (hsettled.nobodyStarts thread task)
    | _ => exact hplaced

theorem inv_next {e : Event} (h : Inv s) (hnext : next cfg s e = some s') : Inv s' := by
  obtain ⟨thread, entry, hquiet⟩ | ⟨thread, task, m, -, hthread, rfl⟩ | ⟨thread, task, -, hthread, rfl⟩ :=
    next_cases h hnext
  · exact h.quiet hquiet
  · exact h.allowAutoSleep hthread
  · exact h.startSuspend hthread

theorem inv_of_reachable (h : (system cfg).Reachable s) : Inv s := by
  refine Lib.System.Reach.invariant (I := Inv) (fun s hs => ?_) (fun s s' e hinv _ hnext => inv_next hinv hnext) h
  have hnobody := hs.2.2
  refine ⟨fun thread task stage hthread => ?_, fun thread task stage hthread => ?_, fun thread task stage hthread => ?_⟩
  all_goals
    rw [hnobody thread] at hthread
    cases hthread

/-- Once auto suspend is off, every step but the action of `SLEEP` keeps it off. -/
theorem settled_next {e : Event} (hinv : Inv s) (h : Settled s) (hsleep : ¬ BeginsSleep s e)
    (hnext : next cfg s e = some s') :
    Settled s' ∧ (s'.hdi = s.hdi ∨ s'.hdi = .stopSuspend :: s.hdi) := by
  obtain ⟨thread, entry, hquiet⟩ | ⟨thread, task, m, he, hthread, -⟩ | ⟨thread, task, -, hthread, -⟩ :=
    next_cases hinv hnext
  · exact ⟨hquiet.settled h, hquiet.hdi⟩
  · exact absurd ⟨thread, task, m, he, hthread⟩ hsleep
  · exact absurd hthread (h.nobodyStarts thread task)

/-- The store of `AWAKE` finds auto suspend off. -/
theorem settled_of_commitsAwake {e : Event} (h : Inv s) (hcommit : CommitsAwake s e)
    (hnext : next cfg s e = some s') : Settled s' := by
  obtain ⟨thread, task, m, rfl, hthread, hawake⟩ := hcommit
  have hsettled : Settled s := h.placed thread task _ hthread hawake
  refine (settled_next h hsettled ?_ hnext).1
  rintro ⟨thread', task', m', he, hthread'⟩
  cases he
  rw [hthread] at hthread'
  cases hthread'

/-- After `AWAKE` has been stored, and until the next action of `SLEEP`, the HDI is called with
nothing but `StopSuspend`, and that is the last it has heard. -/
theorem autoSuspend_not_restarted {e : Event} {s₀ s₁ s₂ : State} (hreach : (system cfg).Reachable s₀)
    (hcommit : CommitsAwake s₀ e) (hnext : next cfg s₀ e = some s₁)
    (hrun : ((system cfg).startingAt s₁).Reach (fun s e => ¬ BeginsSleep s e) s₂) :
    (∃ n, s₂.hdi = List.replicate n .stopSuspend ++ s₁.hdi) ∧ s₂.hdi.head? = some .stopSuspend := by
  have hinv := inv_of_reachable hreach
  have hsettled := settled_of_commitsAwake hinv hcommit hnext
  have hlast : Inv s₂ ∧ Settled s₂ ∧ ∃ n, s₂.hdi = List.replicate n .stopSuspend ++ s₁.hdi := by
    refine Lib.System.Reach.invariant
      (I := fun s => Inv s ∧ Settled s ∧ ∃ n, s.hdi = List.replicate n .stopSuspend ++ s₁.hdi)
      (fun s hs => ?_) (fun s s' e ih hsleep hstep => ?_) hrun
    · cases hs
      exact ⟨inv_next hinv hnext, hsettled, 0, rfl⟩
    · obtain ⟨hinv, hsettled, n, hn⟩ := ih
      obtain ⟨hsettled', hhdi⟩ := settled_next hinv hsettled hsleep hstep
      refine ⟨inv_next hinv hstep, hsettled', ?_⟩
      obtain hsame | hstop := hhdi
      · exact ⟨n, hsame.trans hn⟩
      · exact ⟨n + 1, by rw [hstop, hn, List.replicate_succ, List.cons_append]⟩
  exact ⟨hlast.2.2, hlast.2.1.stopped⟩

/-- A device that is dark, with nothing under way. -/
def dark : State where
  machine := { currentState := .inactive, display := .off }
  allowSleepTask := false
  hdi := []
  stateMutex := none
  mutex := none
  threads := fun _ => none

/-- Thread 1 has fallen asleep and runs its callbacks while thread 2 wakes the device, up to the
point where `AWAKE` is about to be stored. -/
def wokenDuringCallbacks : List Event :=
  [.spawn 1 (.setAutoSleep .timeout), .enter 1 {}, .step 1, .step 1, .step 1,
    .spawn 2 (.setState .awake .hardKey false), .enter 2 {}, .step 2, .step 2, .step 2]

/-- The callbacks end after the wakeup: `Suspend` is called and finds the flag clear. -/
theorem autoSuspend_not_restarted_wokenDuringCallbacks :
    ∃ s₀ s₁ s₂, (system {}).run dark wokenDuringCallbacks = some s₀ ∧ next {} s₀ (.step 2) = some s₁ ∧
      (system {}).run s₁ [.step 1, .step 1, .step 1] = some s₂ ∧ s₂.hdi.head? = some .stopSuspend := by
  have hreach : ∀ s, (system {}).run dark wokenDuringCallbacks = some s → (system {}).Reachable s :=
    fun _ hrun => Lib.System.reachable_of_run _ (.init ⟨rfl, rfl, fun _ => rfl⟩) hrun
  refine ⟨_, _, _, rfl, rfl, rfl, ?_⟩
  refine (@autoSuspend_not_restarted {} (.step 2) _ _ _ (hreach _ rfl) ⟨2, _, _, rfl, rfl, rfl⟩ rfl ?_).2
  refine .step (.step 1) (.step (.step 1) (.step (.step 1) (.init rfl) ?_ rfl) ?_ rfl) ?_ rfl
  all_goals
    rintro ⟨thread, task, m, he, hthread⟩
    cases he
    cases hthread

end PowerMgr.StateMachine.AutoSuspend
