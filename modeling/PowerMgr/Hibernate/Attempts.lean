import PowerMgr.Hibernate.Rollback

/-! # Attempts to hibernate and their threads

The attempts of `Rollback` step by step.  `PrepareHibernateWithTimeout` runs `PrepareHibernate` on a
thread of its own and gives up waiting for it after a while; the thread is detached and goes on.  The
attempts are serialised by `hibernateMutex_`, but every thread that was given up may still be at any
place of `PrepareHibernate`, and all of them store their results in `g_prepareResult`.

* `State`, `next` — the attempt under way, the threads of all attempts, and the requests of others.
* `run_uninterrupted` — an attempt with nothing in between is `hibernateInner`.

A round of the callbacks holds the mutex of the controller and reads nothing else, so it is one step.
-/

namespace PowerMgr.Hibernate.Attempts

open StateMachine Suspend

/-- Where the thread of an attempt is. -/
inductive Thread where
  | none
  -- before `SetState(INACTIVE)`
  | spawned (clearMemory : Bool)
  -- before the account is switched
  | switching
  -- before `PreHibernate`
  | preparing
  -- before `SetState(HIBERNATE)`
  | prepared
  -- before `g_prepareResult` is stored
  | returned (ret : Bool)
  -- before the future is ready
  | stored (ret : Bool)
  | finished (ret : Bool)
  deriving DecidableEq, Repr

/-- Where `HibernateInner` is. -/
inductive Inner where
  | idle
  -- before `GetState`
  | entered
  -- in `wait_for`
  | waiting
  -- before `g_prepareResult = false`
  | timedOut
  -- before `g_prepareResult.load()`
  | loading (timedOut : Bool)
  -- before the HDI is asked to hibernate
  | hibernating
  -- in `RestoreHibernate`: before `hibernating_ = false`, `SetState(AWAKE)` and `PostHibernate`
  | restoring
  | waking
  | resuming
  -- in `RollbackHibernate`: before `hibernating_ = false`, `ShutDownDevice`, `PostHibernate`,
  -- `SetState(INACTIVE)`, `SetSuspendTag` and `StartSleepTimer`
  | failed
  | shuttingDown
  | rollingBack
  | inactivating
  | tagging
  | arming
  deriving DecidableEq, Repr

/-- The locals of the attempt under way. -/
structure Attempt where
  clearMemory : Bool := false
  needShutdown : Bool := false
  originalState : PowerState := .unknown
  deriving DecidableEq, Repr

/-- The result that an attempt has gone on with, and what its own thread had stored by then. -/
structure Used where
  result : Bool
  own : Option Bool
  timedOut : Bool
  deriving DecidableEq, Repr

/-- `prepareResult` is `g_prepareResult`; `attempts` counts the threads, and is the one of the attempt
under way; `outcome` is how the last `HibernateInner` returned, if none is under way; and `goingDown`
says that a rollback has shut the device down. -/
structure State where
  device : Device
  prepareResult : Bool := true
  inner : Inner := .idle
  attempt : Attempt := {}
  attempts : Nat := 0
  threads : Nat → Thread := fun _ => .none
  used : Nat → Option Used := fun _ => none
  outcome : Option Outcome := none
  goingDown : Bool := false

/-- The states that everybody else asks for: only `PrepareHibernate` asks for `HIBERNATE`. -/
abbrev OtherState :=
  { state : PowerState // state ≠ .hibernate }

inductive Event where
  | begin (clearMemory : Bool) (reason : String) (takenOver : Bool)
  | spawn
  | inactive (thread : Nat) (answers : Answers)
  | account (thread : Nat) (ok : Bool)
  | preHibernate (thread : Nat)
  | setHibernate (thread : Nat) (answers : Answers)
  | store (thread : Nat)
  | finish (thread : Nat)
  | ready
  | timeout
  | storeTimeout
  | load
  | hdiHibernate (ok : Bool)
  | restore
  | setAwake (answers : Answers)
  | postRestore
  | rollback
  | shutDown (accepted : Bool)
  | postRollback
  | setInactive (answers : Answers)
  | tag (switchOpen ulsrFinished : Bool)
  | arm (sleepTime : Int)
  -- a `SetState` of somebody else
  | other (state : OtherState) (reason : StateChangeReason) (force : Bool) (answers : Answers)
  -- the display is changed behind the state machine
  | display (state : DisplayState)

def Thread.result : Thread → Option Bool
  | .stored ret | .finished ret => some ret
  | _ => Option.none

def State.own (s : State) : Thread :=
  s.threads s.attempts

def State.setThread (s : State) (thread : Nat) (place : Thread) : State :=
  { s with threads := Function.update s.threads thread place }

def State.return (s : State) (outcome : Outcome) : State :=
  { s with inner := .idle, outcome := some outcome }

/-! ## Steps -/

/-- `HibernateInner` up to the check of `hibernating_`. -/
def begin (clearMemory : Bool) (reason : String) (takenOver : Bool) (s : State) : State :=
  if clearMemory && takenOver then s.return .takenOver
  else if s.device.hibernating then s.return .busy
  else { s with
    device := { s.device with hibernating := true }
    inner := .entered
    attempt := { clearMemory := clearMemory, needShutdown := clearMemory || reason = "LowCapacity" }
    outcome := none }

/-- It reads the state and starts the thread. -/
def spawn (s : State) : State :=
  { s with
    inner := .waiting
    attempt := { s.attempt with originalState := s.device.machine.currentState }
    attempts := s.attempts + 1
    threads := Function.update s.threads (s.attempts + 1) (.spawned s.attempt.clearMemory) }

/-- It reads `g_prepareResult`. -/
def load (s : State) (timedOut : Bool) : State :=
  { s with
    inner := if s.prepareResult then .hibernating else .failed
    used := Function.update s.used s.attempts
      (some { result := s.prepareResult, own := s.own.result, timedOut := timedOut }) }

def next (cfg : Config) (s : State) : Event → Option State
  | .begin clearMemory reason takenOver =>
    match s.inner with
    | .idle => some (begin clearMemory reason takenOver s)
    | _ => none
  | .spawn =>
    match s.inner with
    | .entered => some (spawn s)
    | _ => none
  -- the threads
  | .inactive thread answers =>
    match s.threads thread with
    | .spawned clearMemory =>
      some ({ s with device := (request cfg answers .inactive .hibernate s.device).1 }.setThread thread
        (if clearMemory then .switching else .preparing))
    | _ => none
  | .account thread ok =>
    match s.threads thread with
    | .switching => some (s.setThread thread (if ok then .preparing else .returned false))
    | _ => none
  | .preHibernate thread =>
    match s.threads thread with
    | .preparing => some ({ s with device := preHibernate s.device }.setThread thread .prepared)
    | _ => none
  | .setHibernate thread answers =>
    match s.threads thread with
    | .prepared =>
      let ret := request cfg answers .hibernate .system s.device
      some ({ s with device := ret.1 }.setThread thread (.returned ret.2))
    | _ => none
  | .store thread =>
    match s.threads thread with
    | .returned ret => some ({ s with prepareResult := ret }.setThread thread (.stored ret))
    | _ => none
  | .finish thread =>
    match s.threads thread with
    | .stored ret => some (s.setThread thread (.finished ret))
    | _ => none
  -- the wait ends with the future, or without it
  | .ready =>
    match s.inner, s.own with
    | .waiting, .finished _ => some { s with inner := .loading false }
    | _, _ => none
  | .timeout =>
    match s.inner, s.own with
    | .waiting, .finished _ => none
    | .waiting, _ => some { s with inner := .timedOut }
    | _, _ => none
  | .storeTimeout =>
    match s.inner with
    | .timedOut => some { s with inner := .loading true, prepareResult := false }
    | _ => none
  | .load =>
    match s.inner with
    | .loading timedOut => some (load s timedOut)
    | _ => none
  | .hdiHibernate ok =>
    match s.inner with
    | .hibernating => some { s with inner := if ok then .restoring else .failed }
    | _ => none
  -- `RestoreHibernate`
  | .restore =>
    match s.inner with
    | .restoring => some { s with inner := .waking, device := { s.device with hibernating := false } }
    | _ => none
  | .setAwake answers =>
    match s.inner with
    | .waking => some { s with inner := .resuming, device := (request cfg answers .awake .system s.device).1 }
    | _ => none
  | .postRestore =>
    match s.inner with
    | .resuming => some ({ s with device := postHibernate true s.device }.return .hibernated)
    | _ => none
  -- `RollbackHibernate`
  | .rollback =>
    match s.inner with
    | .failed =>
      some { s with
        inner := if s.attempt.needShutdown then .shuttingDown else .rollingBack
        device := { s.device with hibernating := false } }
    | _ => none
  | .shutDown accepted =>
    match s.inner with
    | .shuttingDown => some ({ s with goingDown := s.goingDown || accepted }.return .shutDown)
    | _ => none
  | .postRollback =>
    match s.inner with
    | .rollingBack => some { s with inner := .inactivating, device := postHibernate false s.device }
    | _ => none
  | .setInactive answers =>
    match s.inner with
    | .inactivating =>
      let s := { s with device := (request cfg answers .inactive .rollbackHibernate s.device).1 }
      some (if s.attempt.originalState = .sleep then { s with inner := .tagging } else s.return .rolledBack)
    | _ => none
  | .tag switchOpen ulsrFinished =>
    match s.inner with
    | .tagging =>
      some { s with
        inner := .arming
        device := if switchOpen then s.device else setSuspendTag cfg ulsrFinished "ulsr" s.device }
    | _ => none
  | .arm sleepTime =>
    match s.inner with
    | .arming =>
      some ({ s with device := { s.device with
        sleepTimer := startSleepTimer sleepTime s.device.sleepTimer } }.return .rolledBack)
    | _ => none
  | .other state reason force answers =>
    let ret := setState cfg.toConfig answers state.val reason force s.device.machine
    some { s with device := { s.device with machine := ret.1 } }
  | .display state => some { s with device := { s.device with machine := { s.device.machine with display := state } } }

/-- No attempt has been made, and the callbacks have not been called. -/
def system (cfg : Config) : Lib.System State Event where
  init s := ∃ machine, s = { device := { machine := machine } }
  next := next cfg

/-! ## An attempt with nothing in between -/

def rollbackScript (env : Surroundings) (originalState : PowerState) (needShutdown : Bool) : List Event :=
  if needShutdown then [.rollback, .shutDown true]
  else [.rollback, .postRollback, .setInactive env.rollback] ++
    if originalState = .sleep then [.tag env.switchOpen env.ulsrFinished, .arm env.sleepTime] else []

def prepareScript (env : Surroundings) (clearMemory : Bool) (thread : Nat) : List Event :=
  .inactive thread env.inactive ::
    if clearMemory && !env.accountSwitched then [.account thread false]
    else (if clearMemory then [.account thread true] else []) ++
      [.preHibernate thread, .setHibernate thread env.hibernate]

/-- The steps of an attempt whose `PrepareHibernate` returns `ret`. -/
def script (env : Surroundings) (clearMemory : Bool) (reason : String) (s : State) (ret : Bool) : List Event :=
  .begin clearMemory reason env.takenOver ::
    if clearMemory && env.takenOver || s.device.hibernating then []
    else
      let rollback := rollbackScript env s.device.machine.currentState (clearMemory || reason = "LowCapacity")
      [.spawn] ++ prepareScript env clearMemory (s.attempts + 1) ++
        [.store (s.attempts + 1), .finish (s.attempts + 1), .ready, .load] ++
        if !ret then rollback
        else .hdiHibernate env.hdiHibernates ::
          if env.hdiHibernates then [.restore, .setAwake env.awake, .postRestore] else rollback

section script

variable {cfg : Config} {env : Surroundings} {s : State}

@[simp] theorem setThread_self (s : State) (thread : Nat) (place : Thread) :
    (s.setThread thread place).threads thread = place :=
  Function.update_self ..

/-- `HibernateInner` has returned with what `hibernateInner` says. -/
def Returned (s : State) (ret : Device × Outcome) : Prop :=
  s.inner = .idle ∧ s.device = ret.1 ∧ s.outcome = some ret.2

theorem run_rollbackScript (hinner : s.inner = .failed) :
    ∃ s', (system cfg).run s (rollbackScript env s.attempt.originalState s.attempt.needShutdown) = some s' ∧
      Returned s' (rollbackHibernate cfg env s.attempt.originalState s.attempt.needShutdown s.device) := by
  obtain ⟨device, prepareResult, inner, ⟨clearMemory, needShutdown, originalState⟩, attempts, threads⟩ := s
  cases hinner
  cases needShutdown with
  | true => exact ⟨_, rfl, rfl, rfl, rfl⟩
  | false => cases originalState <;> exact ⟨_, rfl, rfl, rfl, rfl⟩

theorem run_prepareScript {clearMemory : Bool} {thread : Nat} (hspawned : s.threads thread = .spawned clearMemory) :
    (system cfg).run s (prepareScript env clearMemory thread) =
      some ({ s with device := (prepareHibernate cfg env clearMemory s.device).1 }.setThread thread
        (.returned (prepareHibernate cfg env clearMemory s.device).2)) := by
  cases clearMemory with
  | false => simp [prepareScript, prepareHibernate, system, next, hspawned, State.setThread]
  | true =>
    cases haccount : env.accountSwitched <;>
      simp [prepareScript, prepareHibernate, system, next, hspawned, State.setThread, haccount]

theorem run_delivery (hinner : s.inner = .waiting) {ret : Bool} (hreturned : s.own = .returned ret) :
    ∃ s', (system cfg).run s [.store s.attempts, .finish s.attempts, .ready, .load] = some s' ∧
      s'.inner = (if ret then .hibernating else .failed) ∧ s'.device = s.device ∧ s'.attempt = s.attempt := by
  have hthread : s.threads s.attempts = .returned ret := hreturned
  refine ⟨load { { s with prepareResult := ret }.setThread s.attempts (.finished ret) with inner := .loading false }
    false, ?_, rfl, rfl, rfl⟩
  simp [system, next, hinner, hthread, State.setThread, State.own]

theorem run_outcome {ret : Bool} (hinner : s.inner = if ret then .hibernating else .failed) :
    ∃ s', (system cfg).run s
        (if !ret then rollbackScript env s.attempt.originalState s.attempt.needShutdown
        else .hdiHibernate env.hdiHibernates ::
          if env.hdiHibernates then [.restore, .setAwake env.awake, .postRestore]
          else rollbackScript env s.attempt.originalState s.attempt.needShutdown) = some s' ∧
      Returned s'
        (if !ret then rollbackHibernate cfg env s.attempt.originalState s.attempt.needShutdown s.device
        else if !env.hdiHibernates then
          rollbackHibernate cfg env s.attempt.originalState s.attempt.needShutdown s.device
        else (restoreHibernate cfg env s.device, .hibernated)) := by
  cases ret with
  | false => exact run_rollbackScript hinner
  | true =>
    have hhibernating : s.inner = .hibernating := hinner
    cases hhdi : env.hdiHibernates with
    | true =>
      obtain ⟨device, prepareResult, inner⟩ := s
      cases hhibernating
      exact ⟨_, rfl, rfl, rfl, rfl⟩
    | false =>
      have hfailed : { s with inner := .failed }.inner = .failed := rfl
      obtain ⟨s', hrun, hreturned⟩ := @run_rollbackScript cfg env _ hfailed
      refine ⟨s', ?_, hreturned⟩
      rw [← hrun]
      simp [system, next, hhibernating]

/-- An attempt with nothing in between does what `hibernateInner` does. -/
theorem run_uninterrupted (hinner : s.inner = .idle) (clearMemory : Bool) (reason : String) :
    let ret := (prepareHibernate cfg env clearMemory { s.device with hibernating := true }).2
    ∃ s', (system cfg).run s (script env clearMemory reason s ret) = some s' ∧
      Returned s' (hibernateInner cfg env clearMemory reason s.device) := by
  intro ret
  unfold script hibernateInner
  cases htaken : clearMemory && env.takenOver with
  | true =>
    refine ⟨s.return .takenOver, ?_, rfl, rfl, rfl⟩
    simp [system, next, hinner, begin, htaken]
  | false =>
    cases hbusy : s.device.hibernating with
    | true =>
      refine ⟨s.return .busy, ?_, rfl, rfl, rfl⟩
      simp [system, next, hinner, begin, htaken, hbusy]
    | false =>
      simp only [Bool.false_or, Bool.false_eq_true, if_false]
      let entered : State := { s with
        device := { s.device with hibernating := true }
        inner := .entered
        attempt := { clearMemory := clearMemory, needShutdown := clearMemory || reason = "LowCapacity" }
        outcome := none }
      have hbegin : next cfg s (.begin clearMemory reason env.takenOver) = some entered := by
        simp [next, hinner, begin, htaken, hbusy, entered]
      have hspawned : (spawn entered).threads (s.attempts + 1) = .spawned clearMemory := Function.update_self ..
      let prepared : State := { spawn entered with
        device := (prepareHibernate cfg env clearMemory entered.device).1 }.setThread (s.attempts + 1) (.returned ret)
      have hprepare : (system cfg).run (spawn entered) (prepareScript env clearMemory (s.attempts + 1)) =
        some prepared := run_prepareScript hspawned
      have hown : prepared.own = .returned ret := Function.update_self ..
      have hwaiting : prepared.inner = .waiting := rfl
      obtain ⟨loaded, hload, hloaded, hdevice, hattempt⟩ := @run_delivery cfg _ hwaiting _ hown
      obtain ⟨s', hrun, hreturned⟩ := @run_outcome cfg env _ _ hloaded
      rw [hattempt] at hrun
      rw [hattempt, hdevice] at hreturned
      refine ⟨s', ?_, hreturned⟩
      have hspawn : (system cfg).run entered [.spawn] = some (spawn entered) := rfl
      have hsteps : ∀ rest, (system cfg).run s (.begin clearMemory reason env.takenOver ::
          ([.spawn] ++ prepareScript env clearMemory (s.attempts + 1) ++
            [.store (s.attempts + 1), .finish (s.attempts + 1), .ready, .load] ++ rest)) =
          (system cfg).run loaded rest := by
        intro rest
        rw [List.append_assoc, List.append_assoc, Lib.System.run_cons, show (system cfg).next = next cfg from rfl,
          hbegin, Option.bind_some, Lib.System.run_append, hspawn, Option.bind_some, Lib.System.run_append, hprepare,
          Option.bind_some, Lib.System.run_append]
        exact congrArg (Option.bind · _) hload
      exact (hsteps _).trans hrun

end script

end PowerMgr.Hibernate.Attempts
