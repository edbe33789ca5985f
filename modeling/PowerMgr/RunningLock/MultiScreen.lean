import PowerMgr.RunningLock.ScreenLocks
import PowerMgr.StateMachine.DisplayAgree

/-! # Screen locks and the timeout when displays are told apart

With `POWER_MANAGER_LOCK_SUPPORT_MULTI_SCREEN` the service binds a screen lock that is created for
all displays to the display of the calling user, and `GetValidRunningLockNum` counts the locks of
one display.  `CheckRunningLock` asks with the default argument, which stands for all displays, and
is told only the locks that are themselves bound to all displays.

* `fillRunningLockParam`, `fillDisplayIdForMultiScreen` — the parameters of a new lock.
* `system` — the running-lock service whose locks are created through `CreateRunningLock`.
* `refused_for_screenLocks_iff` — an unforced `DIM` or `INACTIVE` is refused exactly for the enabled
  screen locks if and only if none is enabled or the check counts one bound to all displays.
-/

namespace PowerMgr.RunningLock.MultiScreen

open Std (TreeMap)
open StateMachine (Answers Machine TransitResult checkRunningLock transitTo isTimeoutReason checkState canTransitTo
  matchState handlePreBrightState action lockMap)

/-! ## Creating a lock -/

/-- `AccountSA::Constants::START_USER_ID`: the first user who is not a system account. -/
def startUserId : Int := 100

/-- What the account service answers: the user of a uid (0 when it knows none) and the display a
user is in the foreground of. -/
structure Accounts where
  localIdFromUid : Int → Int := fun _ => 0
  foregroundDisplayId : Int → Option Nat := fun _ => none

/-- `PowerMgrService::FillDisplayIdForMultiScreen`. -/
def fillDisplayIdForMultiScreen (accounts : Accounts) (filledParam : RunningLockParam) : RunningLockParam :=
  if filledParam.type ≠ .screen then filledParam
  else if filledParam.displayId ≠ displayIdAll then filledParam
  else
    let userId := accounts.localIdFromUid filledParam.uid
    -- system accounts other than user 0 keep their locks on all displays
    if userId ≠ 0 ∧ userId < startUserId then filledParam
    else
      let queryUserId := if userId = 0 then startUserId else userId
      match accounts.foregroundDisplayId queryUserId with
      | none => filledParam
      | some displayId => { filledParam with displayId := displayId }

structure Caller where
  pid : Int
  uid : Int
  bundleName : String
  deriving DecidableEq, Repr

/-- `PowerMgrService::FillRunningLockParam`, for a lock without a time-out. -/
def fillRunningLockParam (multiScreen : Bool) (accounts : Accounts) (caller : Caller) (info : RunningLockInfo)
    (lockid : Nat) : RunningLockParam :=
  let type := if info.type = .background then .backgroundTask else info.type
  let filledParam : RunningLockParam :=
    { lockid := lockid, name := info.name, bundleName := caller.bundleName, type := type, timeoutMs := -1,
      pid := caller.pid, uid := caller.uid, displayId := info.displayId, typeHdi := type }
  if multiScreen then fillDisplayIdForMultiScreen accounts filledParam else filledParam

/-- What happens to the running locks: a lock is created through the service, or a call or a death
that creates none. -/
inductive Request where
  | createRunningLock (token : Token) (accounts : Accounts) (caller : Caller) (info : RunningLockInfo)
  | call (call : ServiceCall) (env : Env)

/-- The lock id is `std::hash` of the address of the remote object, which is the address. -/
def next (cfg : Config) (multiScreen : Bool) (m : RunningLockMgr) : Request → Option RunningLockMgr
  | .createRunningLock token accounts caller info =>
    some (createRunningLock token (fillRunningLockParam multiScreen accounts caller info token) m)
  | .call (.op (.createRunningLock _ _)) _ => none
  | .call call env => some (serviceStep cfg m (call, env))

/-- The running-lock service from the state after `Init`. -/
def system (cfg : Config) (multiScreen : Bool) : Lib.System RunningLockMgr Request where
  init m := m = {}
  next := next cfg multiScreen

/-! ## The check of the state machine -/

/-- The answers of a request with the counts that the manager gives for the default display id. -/
def answersOf (cfg : Config) (multiScreen : Bool) (m : RunningLockMgr) (answers : Answers) : Answers :=
  { answers with
    validRunningLockNum := fun type => (getValidRunningLockNum cfg multiScreen type displayIdAll m).toNat }

/-- What `TransitTo` reports to a `SetState` that is not forced by its caller. -/
def unforcedTransit (mcfg : StateMachine.Config) (answers : Answers) (state : PowerState)
    (reason : StateChangeReason) (machine : Machine) : TransitResult :=
  (transitTo mcfg answers state reason (isTimeoutReason reason && answers.forceTimingOut) machine).2

/-- `SetState` reports success for the results of `TransitTo` that leave the device in the state. -/
theorem setState_unforced (mcfg : StateMachine.Config) {answers : Answers} (havailable : answers.taskAvailable = true)
    (state : PowerState) (reason : StateChangeReason) (machine : Machine) :
    (StateMachine.setState mcfg answers state reason false machine).2 =
      (unforcedTransit mcfg answers state reason machine = .success ||
        unforcedTransit mcfg answers state reason machine = .alreadyInState) := by
  simp only [StateMachine.setState, unforcedTransit, havailable, Bool.not_true, Bool.false_eq_true, if_false]
  rfl

/-- The request is a transition and the checks before that of the running locks let it pass. -/
def Admitted (mcfg : StateMachine.Config) (answers : Answers) (state : PowerState)
    (reason : StateChangeReason) (machine : Machine) : Prop :=
  let current := matchState state machine.currentState machine.display
  checkState mcfg state current = true ∧ (reason = .init ∨ canTransitTo mcfg answers current state reason = true)

def ScreenLockEnabled (m : RunningLockMgr) : Prop :=
  ∃ (token : Token) (lockInner : RunningLockInner), m.runningLocks[token]? = some lockInner ∧
    lockInner.param.type = .screen ∧ lockInner.state = .enable

/-- An enabled screen lock that was created for all displays and stayed so. -/
def boundToAll (lockInner : RunningLockInner) : Bool :=
  lockInner.param.type = .screen && lockInner.state = .enable && lockInner.param.displayId = displayIdAll

/-- No screen lock is enabled, or some are that are bound to all displays (and not so many that
their number wraps around to 0). -/
def Counted (m : RunningLockMgr) : Prop :=
  ScreenLockEnabled m → Lib.TreeMap.count boundToAll m.runningLocks % 2 ^ 32 ≠ 0

section Runs

variable {cfg : Config} {multiScreen : Bool} {m m' : RunningLockMgr}

theorem fillRunningLockParam_lockid (accounts : Accounts) (caller : Caller) (info : RunningLockInfo) (lockid : Nat) :
    (fillRunningLockParam multiScreen accounts caller info lockid).lockid = lockid := by
  cases multiScreen with
  | false => rfl
  | true =>
    simp only [fillRunningLockParam, fillDisplayIdForMultiScreen]
    repeat' split
    all_goals rfl

/-- Runs of the service are runs of the manager whose locks are numbered by their tokens. -/
theorem numbered_of_reachable (hreach : (system cfg multiScreen).Reachable m) :
    (serviceSystem cfg).Reach (NumberedBy id) m := by
  induction hreach with
  | init hinit => exact .init hinit
  | @step m m' request _ _ hnext ih =>
    cases request with
    | createRunningLock token accounts caller info =>
      cases hnext
      exact ih.step (.op (.createRunningLock token _), {})
        (fillRunningLockParam_lockid accounts caller info token) rfl
    | call call env =>
      have hcall : NumberedBy id m (call, env) ∧ (serviceSystem cfg).next m (call, env) = some m' := by
        cases call with
        | forceUnLock token => exact ⟨trivial, hnext⟩
        | op op =>
          cases op with
          | createRunningLock token param => cases hnext
          | _ => exact ⟨trivial, hnext⟩
      exact ih.step (call, env) hcall.1 hcall.2

/-- What the check is told about screen locks: the number of those bound to all displays. -/
theorem getValidRunningLockNum_screen (hreach : (system cfg true).Reachable m) :
    (getValidRunningLockNum cfg true .screen displayIdAll m).toNat =
      Lib.TreeMap.count boundToAll m.runningLocks % 2 ^ 32 := by
  have hlisted := screenLocksListed_of_reach Function.injective_id (numbered_of_reachable hreach)
  have hreported : RunningLockInner.reported true displayIdAll = boundToAll := by
    funext lockInner
    simp only [RunningLockInner.reported, boundToAll, RunningLockInfo.boundTo, fillAppRunningLockInfo, Bool.or_self,
      Bool.not_true, Bool.false_or]
    rfl
  have hcount := count_boundTo displayIdAll Function.injective_id hlisted
  rw [hreported] at hcount
  simp only [getValidRunningLockNum, and_self, if_true, UInt32.toNat_ofNat']
  exact congrArg (· % 2 ^ 32) hcount

/-- The check treats `DIM` as `INACTIVE`: both wait for the screen locks it is told of. -/
theorem checkRunningLock_eq_false_iff (answers : Answers) {state : PowerState}
    (hstate : state = .dim ∨ state = .inactive) :
    checkRunningLock answers state = false ↔ answers.validRunningLockNum .screen ≠ 0 := by
  obtain rfl | rfl := hstate <;> simp [checkRunningLock, lockMap]

/-- An admitted transition is refused with `LOCKING` exactly when the check of the locks fails. -/
theorem unforcedTransit_eq_locking_iff {mcfg : StateMachine.Config} {answers : Answers} {state : PowerState}
    {reason : StateChangeReason} {machine : Machine} (hforce : answers.forceTimingOut = false)
    (hadmitted : Admitted mcfg answers state reason machine) :
    unforcedTransit mcfg answers state reason machine = .locking ↔ checkRunningLock answers state = false := by
  obtain ⟨hstate, hcan⟩ := hadmitted
  have hpassed : ¬(reason ≠ .init ∧
      canTransitTo mcfg answers (matchState state machine.currentState machine.display) state reason = false) := by
    rintro ⟨hinit, hforbidden⟩
    obtain hreason | hallowed := hcan
    · exact hinit hreason
    · rw [hallowed] at hforbidden
      cases hforbidden
  simp only [unforcedTransit, transitTo, hforce, Bool.and_false, hstate, Bool.not_true, Bool.false_eq_true,
    if_false, if_neg hpassed, Bool.not_false, Bool.true_and]
  constructor
  · intro hlocking
    by_contra hfree
    simp only [Bool.not_eq_false] at hfree
    simp only [hfree, Bool.not_true, Bool.false_eq_true, if_false] at hlocking
    split at hlocking
    · cases hlocking
    · split at hlocking
      · next hsuccess => rw [hsuccess] at hlocking; cases hlocking
      · exact (StateMachine.action_carriedOut _ _ _ _ _).1 hlocking
  · intro hheld
    simp [hheld]

/-- In every reachable state an unforced `DIM` or `INACTIVE` that is otherwise admitted is refused
for the enabled screen locks, and for nothing else, if and only if the locks are counted. -/
theorem refused_for_screenLocks_iff (hreach : (system cfg true).Reachable m) (mcfg : StateMachine.Config)
    (answers : Answers) (hforce : answers.forceTimingOut = false) {state : PowerState}
    (hstate : state = .dim ∨ state = .inactive) (reason : StateChangeReason) (machine : Machine)
    (hadmitted : Admitted mcfg (answersOf cfg true m answers) state reason machine) :
    (unforcedTransit mcfg (answersOf cfg true m answers) state reason machine = .locking ↔ ScreenLockEnabled m) ↔
      Counted m := by
  have hunforced : (answersOf cfg true m answers).forceTimingOut = false := hforce
  rw [unforcedTransit_eq_locking_iff hunforced hadmitted, checkRunningLock_eq_false_iff _ hstate]
  simp only [answersOf]
  rw [getValidRunningLockNum_screen hreach]
  constructor
  · intro hrefused henabled
    exact hrefused.mpr henabled
  · intro hcounted
    refine ⟨fun hnonzero => ?_, hcounted⟩
    -- a lock that is counted is an enabled screen lock
    have hpos : Lib.TreeMap.count boundToAll m.runningLocks ≠ 0 := by
      intro hzero
      rw [hzero] at hnonzero
      exact hnonzero rfl
    rw [Ne, Lib.TreeMap.count_eq_zero_iff] at hpos
    simp only [not_forall] at hpos
    obtain ⟨token, lockInner, hfound, hbound⟩ := hpos
    simp only [boundToAll, Bool.not_eq_false, Bool.and_eq_true, decide_eq_true_eq] at hbound
    exact ⟨token, lockInner, hfound, hbound.1.1, hbound.1.2⟩

end Runs

/-! ## A player on the display of its user -/

def playerInfo : RunningLockInfo :=
  { name := "player", bundleName := "", type := .screen, pid := 0, uid := 0, displayId := displayIdAll }

def player : Caller := { pid := 10, uid := 20000020, bundleName := "player" }

/-- User 100 is in the foreground of display 0. -/
def firstUser : Accounts where
  localIdFromUid uid := uid / 200000
  foregroundDisplayId userId := if userId = 100 then some 0 else none

/-- The player asks to keep the screen on, with the accounts that the service is told of. -/
def playing (accounts : Accounts) : List Request :=
  [.createRunningLock 1 accounts player playerInfo, .call (.op (.lock 1)) {}]

def awakeMachine : Machine := { currentState := .awake, display := .on }

/-- A device that only knows system accounts keeps the player's lock on all displays, and its
time-out is refused. -/
theorem refused_for_screenLocks_iff_playing :
    ∃ m, (system {} true).run {} (playing {}) = some m ∧
      (unforcedTransit {} (answersOf {} true m {}) .inactive .timeout awakeMachine = .locking ↔
        ScreenLockEnabled m) := by
  obtain ⟨m, hrun⟩ := Option.isSome_iff_exists.mp
    (rfl : ((system {} true).run {} (playing {})).isSome = true)
  have hlocks : ((system {} true).run {} (playing {})).map (fun m => m.runningLocks.toList) =
      some [(1, { param := fillRunningLockParam true {} player playerInfo 1, state := .enable })] := by decide
  rw [hrun, Option.map_some, Option.some.injEq] at hlocks
  have hreach := Lib.System.reachable_of_run (playing {}) (.init rfl) hrun
  refine ⟨m, hrun, (refused_for_screenLocks_iff hreach {} {} rfl (.inr rfl) .timeout awakeMachine ?_).mpr ?_⟩
  · exact ⟨rfl, .inr rfl⟩
  · intro _
    rw [Lib.TreeMap.count, hlocks]
    decide

/-- The player of user 100 holds the screen lock; it was bound to display 0, and the time-out of the
screen is not refused for it. -/
theorem screenLock_of_display_ignored :
    ¬∀ m, (system {} true).Reachable m → ∀ answers state reason machine, answers.forceTimingOut = false →
      (state = PowerState.dim ∨ state = .inactive) →
        Admitted {} (answersOf {} true m answers) state reason machine →
          (unforcedTransit {} (answersOf {} true m answers) state reason machine = .locking ↔ ScreenLockEnabled m) := by
  intro hblocks
  obtain ⟨m, hrun⟩ := Option.isSome_iff_exists.mp
    (rfl : ((system {} true).run {} (playing firstUser)).isSome = true)
  have hlocks : ((system {} true).run {} (playing firstUser)).map (fun m => m.runningLocks.toList) =
      some [(1, { param := fillRunningLockParam true firstUser player playerInfo 1, state := .enable })] := by decide
  have hpassed : ((system {} true).run {} (playing firstUser)).map (fun m =>
      unforcedTransit {} (answersOf {} true m {}) .inactive .timeout awakeMachine) = some .success := by decide
  rw [hrun, Option.map_some, Option.some.injEq] at hlocks hpassed
  have hreach := Lib.System.reachable_of_run (playing firstUser) (.init rfl) hrun
  have hrefused := (hblocks m hreach {} .inactive .timeout awakeMachine rfl (.inr rfl) ⟨rfl, .inr rfl⟩).mpr
    ⟨1, _, by rw [← TreeMap.mem_toList_iff_getElem?_eq_some, hlocks]; exact List.mem_singleton_self _, rfl, rfl⟩
  rw [hpassed] at hrefused
  cases hrefused

end PowerMgr.RunningLock.MultiScreen
