import PowerMgr.RunningLock.Basic
import PowerMgr.RunningLock.Loops

/-! # The coordinated flag

The action of the `COORDINATION` counter (`InitLocksTypeCoordination`) passes on to the
`BACKGROUND_TASK` counter, whose own action may fail in the HDI, and tells the state action
`SetCoordinated` on the way, before or whatever the result.

* `Primitive`, `primitives` — the calls of `Lock`, `UnLock` and the rest of which every operation of the
  service is made up;
* `Steps.serviceStep` — that they are;
* `Careful` — a call in which the counter neither wraps nor is rolled back;
* `coordinated_step_iff` — the flag keeps to the counter in exactly these calls;
* `coordinated_agrees` — and hence in every run of them;
* `coordinated_disagrees` — three runs in which it does not.
-/

namespace PowerMgr.RunningLock.Coordination

open Std (TreeMap)

/-! ## The calls an operation is made up of -/

/-- `Lock` and `UnLock` of the manager with the answers of their moment, and the assignments around
them. -/
inductive Primitive where
  | lock (token : Token) (env : Env)
  | unLock (token : Token) (name : String) (env : Env)
  | setState (token : Token) (state : RunningLockState)
  | setBundleName (token : Token) (bundleName : String)
  | setRunningLocks (runningLocks : TreeMap Token RunningLockInner)
  | setProxyMap (proxyMap : RunningLockProxyMap)

def Primitive.apply (cfg : Config) (m : RunningLockMgr) : Primitive → RunningLockMgr
  | .lock token env => (RunningLock.lock cfg env token m).1
  | .unLock token name env => (RunningLock.unLock cfg env token name m).1
  | .setState token state => m.setState token state
  | .setBundleName token bundleName => m.setBundleName token bundleName
  | .setRunningLocks runningLocks => { m with runningLocks := runningLocks }
  | .setProxyMap proxyMap => { m with proxyMap := proxyMap }

def primitives (cfg : Config) : Lib.System RunningLockMgr Primitive where
  init m := m = {}
  next m p := some (p.apply cfg m)

/-- One state comes from the other by some of these calls. -/
def Steps (cfg : Config) (m m' : RunningLockMgr) : Prop :=
  ∃ ps, (primitives cfg).run m ps = some m'

variable {cfg : Config} {env : Env} {m m' : RunningLockMgr}

theorem Steps.refl (m : RunningLockMgr) : Steps cfg m m :=
  ⟨[], rfl⟩

theorem Steps.one (p : Primitive) (m : RunningLockMgr) : Steps cfg m (p.apply cfg m) :=
  ⟨[p], rfl⟩

theorem Steps.trans {m'' : RunningLockMgr} (h : Steps cfg m m') (h' : Steps cfg m' m'') : Steps cfg m m'' := by
  obtain ⟨ps, hrun⟩ := h
  obtain ⟨ps', hrun'⟩ := h'
  refine ⟨ps ++ ps', ?_⟩
  rw [Lib.System.run_append, hrun]
  exact hrun'

theorem Steps.loop {α : Type} {f : RunningLockMgr → α → RunningLockMgr} (hbody : ∀ m a, Steps cfg m (f m a))
    (l : List α) (m : RunningLockMgr) : Steps cfg m (l.foldl f m) :=
  Lib.foldl_keeps (I := Steps cfg m) (fun m' a h => h.trans (hbody m' a)) l m (.refl m)

theorem Steps.modifyEntry (key : String) (token : Token) (f : WksEntry → WksEntry) (m : RunningLockMgr) :
    Steps cfg m (m.modifyEntry key token f) :=
  .one (.setProxyMap (m.modifyEntry key token f).proxyMap) m

/-- Proxying is an unlock with the state set afterwards, un-proxying a lock with the state set before. -/
theorem Steps.proxyInner (env : Env) (token : Token) (bundleNames : String) (event : RunningLockEvent)
    (m : RunningLockMgr) : Steps cfg m (proxyInner cfg env token bundleNames event m) := by
  unfold RunningLock.proxyInner
  split
  · exact .refl m
  · refine (Steps.one (.setBundleName token bundleNames) m).trans ?_
    cases event with
    | update => exact .refl _
    | proxy =>
      simp only [unlockInnerByProxy]
      split
      · exact .refl _
      · exact (Steps.one (.unLock token "" env) _).trans (.one (.setState token .proxied) _)
    | unproxy =>
      simp only [lockInnerByProxy]
      split
      · exact .refl _
      · split
        · exact (Steps.one (.setState token .disable) _).trans (.one (.lock token env) _)
        · exact .refl _

theorem Steps.increaseProxyCnt (env : Env) (pid uid : Int) (m : RunningLockMgr) :
    Steps cfg m (increaseProxyCnt cfg env pid uid m) := by
  refine (Steps.loop (fun m token => ?_) _ m).trans (Steps.loop (fun m position => ?_) _ _)
  · exact (Steps.modifyEntry _ token _ m).trans (Steps.proxyInner env token _ _ _)
  · obtain ⟨key, token⟩ := position
    rcases increaseWorkSource_cases cfg env uid key token m with
      heq | ⟨entry, bundleName, -, -, -, ⟨-, heq⟩ | ⟨-, heq⟩⟩
    · rw [heq]
      exact .refl m
    · rw [heq]
      exact (Steps.modifyEntry key token _ m).trans (Steps.proxyInner env token _ _ _)
    · rw [heq]
      exact (Steps.modifyEntry key token _ m).trans (Steps.proxyInner env token _ _ _)

theorem Steps.decreaseProxyCnt (env : Env) (pid uid : Int) (m : RunningLockMgr) :
    Steps cfg m (decreaseProxyCnt cfg env pid uid m) := by
  refine (Steps.loop (fun m token => ?_) _ m).trans (Steps.loop (fun m position => ?_) _ _)
  · simp only [decreaseOwned]
    exact (Steps.modifyEntry _ token _ m).trans (Steps.proxyInner env token _ _ _)
  · obtain ⟨key, token⟩ := position
    obtain heq | ⟨entry, bundleName, -, -, -, heq⟩ := decreaseWorkSourceWith_cases cfg env uid key token m _
    · rw [heq]
      exact .refl m
    · rw [heq]
      exact (Steps.modifyEntry key token _ m).trans (Steps.proxyInner env token _ _ _)

theorem Steps.resetRunningLocks (env : Env) (m : RunningLockMgr) : Steps cfg m (resetRunningLocks cfg env m) := by
  refine Steps.loop (fun m position => ?_) _ m
  exact ((Steps.modifyEntry _ _ _ m).trans (Steps.proxyInner env _ _ _ _)).trans (Steps.modifyEntry _ _ _ _)

theorem Steps.updateWorkSource (env : Env) (token : Token) (workSources : TreeMap Int String) (m : RunningLockMgr) :
    Steps cfg m (updateWorkSource cfg env token workSources m) := by
  unfold RunningLock.updateWorkSource
  split
  · exact .refl m
  · simp only [updateWorkSourceProxy]
    split
    · exact .refl m
    · exact (Steps.proxyInner env token _ _ m).trans (Steps.modifyEntry _ _ _ _)

theorem Steps.releaseLock (env : Env) (token : Token) (name : String) (m : RunningLockMgr) :
    Steps cfg m (releaseLock cfg env token name m) := by
  by_cases hfound : m.findLock token name = none
  · rw [releaseLock_of_not_found cfg env hfound]
    exact .refl m
  · obtain ⟨proxyMap, heq⟩ := releaseLock_eq cfg env hfound
    rw [heq]
    refine (Steps.one (.unLock token "" env) m).trans ?_
    exact (Steps.one
      (.setRunningLocks ((RunningLock.unLock cfg env token "" m).1.runningLocks.erase token)) _).trans
      (.one (.setProxyMap proxyMap) _)

theorem Steps.createRunningLock (token : Token) (param : RunningLockParam) (m : RunningLockMgr) :
    Steps cfg m (createRunningLock token param m) := by
  obtain ⟨proxyMap, heq⟩ := createRunningLock_eq token param m
  rw [heq]
  exact (Steps.one (.setRunningLocks (m.runningLocks.insertIfNew token { param := param })) m).trans
    (.one (.setProxyMap proxyMap) _)

/-- Every operation of the service is made up of these calls. -/
theorem Steps.serviceStep (m : RunningLockMgr) (call : ServiceCall × Env) :
    Steps cfg m (serviceStep cfg m call) := by
  obtain ⟨call, env⟩ := call
  cases call with
  | forceUnLock token => exact (Steps.one (.unLock token "" env) m).trans (Steps.releaseLock env token "" _)
  | op op =>
    cases op with
    | createRunningLock token param => exact Steps.createRunningLock token param m
    | lock token => exact .one (.lock token env) m
    | unLock token name => exact .one (.unLock token name env) m
    | releaseLock token name => exact Steps.releaseLock env token name m
    | updateWorkSource token workSources => exact Steps.updateWorkSource env token workSources m
    | proxyRunningLock isProxied pid uid =>
      simp only [RunningLock.serviceStep, step, proxyRunningLock]
      split
      · exact .refl m
      · split
        · exact Steps.increaseProxyCnt env pid uid m
        · exact Steps.decreaseProxyCnt env pid uid m
    | resetRunningLocks => exact Steps.resetRunningLocks env m
    | timerUnLock token => exact (Steps.updateWorkSource env token ∅ m).trans (.one (.unLock token "" env) _)

/-- What the service reaches, these calls reach. -/
theorem reachable_primitives (h : (serviceSystem cfg).Reachable m) : (primitives cfg).Reachable m := by
  induction h with
  | init hinit => exact .init hinit
  | step call _ _ hnext ih =>
    cases hnext
    obtain ⟨ps, hrun⟩ := Steps.serviceStep _ call
    exact Lib.System.reachable_of_run ps ih hrun

/-! ## The flag and the counter -/

/-- The flag says whether a coordination lock is counted. -/
def CoordinatedAgrees (m : RunningLockMgr) : Prop :=
  m.coordinated = true ↔ m.lockCounters .coordination ≠ 0

/-- What `InitLocksTypeCoordination` hands to the `BACKGROUND_TASK` counter. -/
def backgroundLockParam (param : RunningLockParam) : RunningLockParam :=
  { param with name := "RUNNINGLOCK_COORDINATION", typeHdi := .backgroundTask }

/-- Counting up does not wrap, and the first lock is not rolled back. -/
def CountsUp (env : Env) (param : RunningLockParam) (m : RunningLockMgr) : Prop :=
  m.lockCounters .coordination + 1 ≠ 0 ∧
    (m.lockCounters .coordination = 0 → m.lockCounters .backgroundTask = 0 →
      env.hdi ((m.setCounter .coordination 1).setCounter .backgroundTask 1) true (backgroundLockParam param) = true)

/-- Counting down does not wrap, and the last lock is not rolled back. -/
def CountsDown (env : Env) (param : RunningLockParam) (m : RunningLockMgr) : Prop :=
  m.lockCounters .coordination ≠ 0 ∧
    (m.lockCounters .coordination = 1 → m.lockCounters .backgroundTask = 1 →
      env.hdi (({ m with coordinated := false } |>.setCounter .coordination 0).setCounter .backgroundTask 0) false
        (backgroundLockParam param) = true)

/-- A call that counts a coordination lock neither wraps the counter nor rolls it back. -/
def Careful (cfg : Config) (m : RunningLockMgr) : Primitive → Prop
  | .lock token env => ∀ lockInner, validateLockForEnable cfg env token m = some lockInner →
    lockInner.param.type = .coordination → CountsUp env lockInner.param m
  | .unLock token name env => ∀ registered lockInner, m.findLock token name = some (registered, lockInner) →
    lockInner.param.type = .coordination → lockInner.state ≠ .disable →
      CountsDown env lockInner.param (clearIfProxied token lockInner m)
  | _ => True

/-! ## What a counter does -/

section Counter

variable (action : Activate) (type : RunningLockType) (param : RunningLockParam) (m : RunningLockMgr)

/-- `Increase` beyond the first lock, and for the first one with its action done or rolled back. -/
theorem increaseWith_cases :
    (m.lockCounters type ≠ 0 ∧
      increaseWith action type param m = (m.setCounter type (m.lockCounters type + 1), true)) ∨
    (m.lockCounters type = 0 ∧ (action true param (m.setCounter type 1)).2 = true ∧
      increaseWith action type param m =
        ((action true param (m.setCounter type 1)).1.setActivated type true, true)) ∨
    (m.lockCounters type = 0 ∧ (action true param (m.setCounter type 1)).2 = false ∧
      increaseWith action type param m =
        ((action true param (m.setCounter type 1)).1.setCounter type
          ((action true param (m.setCounter type 1)).1.lockCounters type - 1), false)) := by
  simp only [increaseWith, RunningLockMgr.setCounter_lockCounters, Function.update_self]
  by_cases hzero : m.lockCounters type = 0
  · rw [hzero, UInt32.zero_add, if_pos rfl]
    cases (action true param (m.setCounter type 1)).2 with
    | true => exact .inr (.inl ⟨rfl, rfl, by simp⟩)
    | false => exact .inr (.inr ⟨rfl, rfl, by simp⟩)
  · have hnot : ¬m.lockCounters type + 1 = 1 := by grind
    exact .inl ⟨hzero, by rw [if_neg hnot]⟩

theorem decreaseWith_cases :
    (m.lockCounters type ≠ 1 ∧
      decreaseWith action type param m = (m.setCounter type (m.lockCounters type - 1), true)) ∨
    (m.lockCounters type = 1 ∧ (action false param (m.setCounter type 0)).2 = true ∧
      decreaseWith action type param m =
        ((action false param (m.setCounter type 0)).1.setActivated type false, true)) ∨
    (m.lockCounters type = 1 ∧ (action false param (m.setCounter type 0)).2 = false ∧
      decreaseWith action type param m =
        ((action false param (m.setCounter type 0)).1.setCounter type
          ((action false param (m.setCounter type 0)).1.lockCounters type + 1), false)) := by
  simp only [decreaseWith, RunningLockMgr.setCounter_lockCounters, Function.update_self]
  by_cases hone : m.lockCounters type = 1
  · rw [hone, UInt32.sub_self, if_pos rfl]
    cases (action false param (m.setCounter type 0)).2 with
    | true => exact .inr (.inl ⟨rfl, rfl, by simp⟩)
    | false => exact .inr (.inr ⟨rfl, rfl, by simp⟩)
  · have hnot : ¬m.lockCounters type - 1 = 0 := by grind
    exact .inl ⟨hone, by rw [if_neg hnot]⟩

end Counter

def KeepsCoordination (action : Activate) : Prop :=
  ∀ active param m, (action active param m).1.coordinated = m.coordinated ∧
    (action active param m).1.lockCounters .coordination = m.lockCounters .coordination

section KeepsCoordination

variable {action : Activate} {type : RunningLockType}

theorem keepsCoordination_increaseWith (hkeeps : KeepsCoordination action) (htype : type ≠ .coordination)
    (param : RunningLockParam) (m : RunningLockMgr) :
    (increaseWith action type param m).1.coordinated = m.coordinated ∧
      (increaseWith action type param m).1.lockCounters .coordination = m.lockCounters .coordination := by
  obtain ⟨hflag, hcounter⟩ := hkeeps true param (m.setCounter type 1)
  rw [RunningLockMgr.setCounter_lockCounters, Function.update_of_ne htype.symm] at hcounter
  obtain ⟨-, heq⟩ | ⟨-, -, heq⟩ | ⟨-, -, heq⟩ := increaseWith_cases action type param m <;> rw [heq]
  · refine ⟨rfl, ?_⟩
    rw [RunningLockMgr.setCounter_lockCounters, Function.update_of_ne htype.symm]
  · exact ⟨hflag, hcounter⟩
  · refine ⟨hflag, ?_⟩
    rw [RunningLockMgr.setCounter_lockCounters, Function.update_of_ne htype.symm, hcounter]

theorem keepsCoordination_decreaseWith (hkeeps : KeepsCoordination action) (htype : type ≠ .coordination)
    (param : RunningLockParam) (m : RunningLockMgr) :
    (decreaseWith action type param m).1.coordinated = m.coordinated ∧
      (decreaseWith action type param m).1.lockCounters .coordination = m.lockCounters .coordination := by
  obtain ⟨hflag, hcounter⟩ := hkeeps false param (m.setCounter type 0)
  rw [RunningLockMgr.setCounter_lockCounters, Function.update_of_ne htype.symm] at hcounter
  obtain ⟨-, heq⟩ | ⟨-, -, heq⟩ | ⟨-, -, heq⟩ := decreaseWith_cases action type param m <;> rw [heq]
  · refine ⟨rfl, ?_⟩
    rw [RunningLockMgr.setCounter_lockCounters, Function.update_of_ne htype.symm]
  · exact ⟨hflag, hcounter⟩
  · refine ⟨hflag, ?_⟩
    rw [RunningLockMgr.setCounter_lockCounters, Function.update_of_ne htype.symm, hcounter]

theorem keepsCoordination_background (env : Env) : KeepsCoordination (activateBackground env) :=
  fun _ _ _ => ⟨rfl, rfl⟩

/-- The action of every other type, which is the nested counter at most. -/
theorem keepsCoordination_activate (env : Env) (htype : type ≠ .coordination) :
    KeepsCoordination (activate env type) := by
  have htask : RunningLockType.backgroundTask ≠ .coordination := nofun
  cases type with
  | coordination => exact absurd rfl htype
  | backgroundUserIdle =>
    intro active param m
    cases active with
    | true => exact keepsCoordination_increaseWith (keepsCoordination_background env) htask _ m
    | false => exact keepsCoordination_decreaseWith (keepsCoordination_background env) htask _ m
  | screen => exact fun _ _ _ => ⟨rfl, rfl⟩
  | proximityScreenControl => exact fun _ _ _ => ⟨rfl, rfl⟩
  | _ => exact keepsCoordination_background env

end KeepsCoordination

/-- The nested counter can be counted up unless the HDI refuses its first lock. -/
theorem increaseWith_background_success (env : Env) (param : RunningLockParam) (m : RunningLockMgr) :
    (increaseWith (activateBackground env) .backgroundTask param m).2 = true ↔
      (m.lockCounters .backgroundTask = 0 → env.hdi (m.setCounter .backgroundTask 1) true param = true) := by
  rcases increaseWith_cases (activateBackground env) .backgroundTask param m with
    ⟨hzero, heq⟩ | ⟨hzero, hsuccess, heq⟩ | ⟨hzero, hfail, heq⟩ <;> rw [heq]
  · exact ⟨fun _ h => absurd h hzero, fun _ => rfl⟩
  · exact ⟨fun _ _ => hsuccess, fun _ => rfl⟩
  · refine ⟨nofun, fun h => ?_⟩
    cases (h hzero).symm.trans hfail

theorem decreaseWith_background_success (env : Env) (param : RunningLockParam) (m : RunningLockMgr) :
    (decreaseWith (activateBackground env) .backgroundTask param m).2 = true ↔
      (m.lockCounters .backgroundTask = 1 → env.hdi (m.setCounter .backgroundTask 0) false param = true) := by
  rcases decreaseWith_cases (activateBackground env) .backgroundTask param m with
    ⟨hone, heq⟩ | ⟨hone, hsuccess, heq⟩ | ⟨hone, hfail, heq⟩ <;> rw [heq]
  · exact ⟨fun _ h => absurd h hone, fun _ => rfl⟩
  · exact ⟨fun _ _ => hsuccess, fun _ => rfl⟩
  · refine ⟨nofun, fun h => ?_⟩
    cases (h hone).symm.trans hfail

/-! ## One step -/

theorem keepsCoordination_increase (env : Env) {type : RunningLockType} (htype : type ≠ .coordination)
    (param : RunningLockParam) (m : RunningLockMgr) :
    (increase env type param m).1.coordinated = m.coordinated ∧
      (increase env type param m).1.lockCounters .coordination = m.lockCounters .coordination :=
  keepsCoordination_increaseWith (keepsCoordination_activate env htype) htype param m

theorem keepsCoordination_decrease (env : Env) {type : RunningLockType} (htype : type ≠ .coordination)
    (param : RunningLockParam) (m : RunningLockMgr) :
    (decrease env type param m).1.coordinated = m.coordinated ∧
      (decrease env type param m).1.lockCounters .coordination = m.lockCounters .coordination :=
  keepsCoordination_decreaseWith (keepsCoordination_activate env htype) htype param m

theorem coordinatedAgrees_congr (hflag : m'.coordinated = m.coordinated)
    (hcounter : m'.lockCounters .coordination = m.lockCounters .coordination) :
    CoordinatedAgrees m' ↔ CoordinatedAgrees m := by
  rw [CoordinatedAgrees, CoordinatedAgrees, hflag, hcounter]

/-- Counting a coordination lock up keeps the flag to the counter unless it wraps or is rolled back. -/
theorem coordinatedAgrees_increase_iff (h : CoordinatedAgrees m) (param : RunningLockParam) :
    CoordinatedAgrees (increase env .coordination param m).1 ↔ CountsUp env param m := by
  have htask : RunningLockType.backgroundTask ≠ .coordination := nofun
  have hnested := increaseWith_background_success env (backgroundLockParam param) (m.setCounter .coordination 1)
  rw [RunningLockMgr.setCounter_lockCounters, Function.update_of_ne htask] at hnested
  obtain ⟨-, hcounter⟩ := keepsCoordination_increaseWith (keepsCoordination_background env) htask
    (backgroundLockParam param) (m.setCounter .coordination 1)
  rw [RunningLockMgr.setCounter_lockCounters, Function.update_self] at hcounter
  rcases increaseWith_cases (activateCoordination env) .coordination param m with
    ⟨hzero, heq⟩ | ⟨hzero, hsuccess, heq⟩ | ⟨hzero, hfail, heq⟩
  · -- beyond the first lock the flag is on already
    rw [increase, show activate env .coordination = activateCoordination env from rfl, heq, CoordinatedAgrees,
      RunningLockMgr.setCounter_lockCounters, Function.update_self]
    rw [show (m.setCounter .coordination (m.lockCounters .coordination + 1)).coordinated = m.coordinated from rfl,
      h.mpr hzero]
    exact ⟨fun hagrees => ⟨hagrees.mp rfl, fun hnone => absurd hnone hzero⟩,
      fun hup => ⟨fun _ => hup.1, fun _ => rfl⟩⟩
  · refine iff_of_true ?_ ⟨by rw [hzero]; decide, fun _ => hnested.mp hsuccess⟩
    rw [increase, show activate env .coordination = activateCoordination env from rfl, heq, CoordinatedAgrees,
      RunningLockMgr.setActivated_lockCounters]
    refine ⟨fun _ => ?_, fun _ => rfl⟩
    rw [show (activateCoordination env true param (m.setCounter .coordination 1)).1.lockCounters .coordination = 1
      from hcounter]
    decide
  · -- the flag has been set, and the counter goes back to zero
    refine iff_of_false (fun hagrees => ?_) fun hup => ?_
    · rw [increase, show activate env .coordination = activateCoordination env from rfl, heq, CoordinatedAgrees,
        RunningLockMgr.setCounter_lockCounters, Function.update_self] at hagrees
      refine hagrees.mp rfl ?_
      rw [show (activateCoordination env true param (m.setCounter .coordination 1)).1.lockCounters .coordination = 1
        from hcounter]
      decide
    · cases (hnested.mpr (hup.2 hzero)).symm.trans hfail

theorem coordinatedAgrees_decrease_iff (h : CoordinatedAgrees m) (param : RunningLockParam) :
    CoordinatedAgrees (decrease env .coordination param m).1 ↔ CountsDown env param m := by
  have htask : RunningLockType.backgroundTask ≠ .coordination := nofun
  let unset : RunningLockMgr := RunningLockMgr.setCounter .coordination 0 { m with coordinated := false }
  have hnested := decreaseWith_background_success env (backgroundLockParam param) unset
  rw [RunningLockMgr.setCounter_lockCounters, Function.update_of_ne htask] at hnested
  obtain ⟨hflag, hcounter⟩ := keepsCoordination_decreaseWith (keepsCoordination_background env) htask
    (backgroundLockParam param) unset
  rw [RunningLockMgr.setCounter_lockCounters, Function.update_self] at hcounter
  rcases decreaseWith_cases (activateCoordination env) .coordination param m with
    ⟨hone, heq⟩ | ⟨hone, hsuccess, heq⟩ | ⟨hone, hfail, heq⟩
  · -- what is left is zero only if there was one to give up
    have hleft : m.lockCounters .coordination - 1 ≠ 0 := by grind
    rw [decrease, show activate env .coordination = activateCoordination env from rfl, heq, CoordinatedAgrees,
      RunningLockMgr.setCounter_lockCounters, Function.update_self]
    rw [show (m.setCounter .coordination (m.lockCounters .coordination - 1)).coordinated = m.coordinated from rfl]
    exact ⟨fun hagrees => ⟨h.mp (hagrees.mpr hleft), fun hnone => absurd hnone hone⟩,
      fun hdown => ⟨fun _ => hleft, fun _ => h.mpr hdown.1⟩⟩
  · refine iff_of_true ?_ ⟨by rw [hone]; decide, fun _ => hnested.mp hsuccess⟩
    rw [decrease, show activate env .coordination = activateCoordination env from rfl, heq, CoordinatedAgrees,
      RunningLockMgr.setActivated_lockCounters]
    refine ⟨fun hset => ?_, fun hpositive => absurd hcounter hpositive⟩
    cases hset.symm.trans hflag
  · -- the flag has been cleared, and the counter goes back to one
    refine iff_of_false (fun hagrees => ?_) fun hdown => ?_
    · rw [decrease, show activate env .coordination = activateCoordination env from rfl, heq, CoordinatedAgrees,
        RunningLockMgr.setCounter_lockCounters, Function.update_self] at hagrees
      have hpositive : (activateCoordination env false param (m.setCounter .coordination 0)).1.lockCounters
          .coordination + 1 ≠ 0 := by
        rw [show (activateCoordination env false param (m.setCounter .coordination 0)).1.lockCounters
          .coordination = 0 from hcounter]
        decide
      cases (hagrees.mpr hpositive).symm.trans hflag
    · cases (hnested.mpr (hdown.2 hone)).symm.trans hfail

theorem listScreenLock_coordinated (param : RunningLockParam) (fill : Bool) (m : RunningLockMgr) :
    (listScreenLock param fill m).coordinated = m.coordinated := by
  unfold listScreenLock updateUnSceneLockLists
  split
  · split <;> rfl
  · rfl

theorem clearIfProxied_coordinated (token : Token) (lockInner : RunningLockInner) (m : RunningLockMgr) :
    (clearIfProxied token lockInner m).coordinated = m.coordinated := by
  unfold clearIfProxied
  split <;> rfl

/-- Listing and enabling or disabling the lock come after the counter, and leave it alone. -/
theorem coordinatedAgrees_listed (param : RunningLockParam) (fill : Bool) (token : Token) (state : RunningLockState)
    (m : RunningLockMgr) :
    CoordinatedAgrees ((listScreenLock param fill m).setState token state) ↔ CoordinatedAgrees m :=
  coordinatedAgrees_congr (listScreenLock_coordinated param fill m)
    (congrFun (listScreenLock_lockCounters param fill m) _)

theorem coordinatedAgrees_lock_iff (h : CoordinatedAgrees m) (token : Token) :
    CoordinatedAgrees (lock cfg env token m).1 ↔ Careful cfg m (.lock token env) := by
  obtain ⟨hrefused, heq⟩ | ⟨lockInner, hvalid, hcounted⟩ := lock_cases cfg env token m
  · rw [heq]
    refine iff_of_true h fun lockInner hvalid => ?_
    cases hrefused.symm.trans hvalid
  · have hincrease : CoordinatedAgrees (lock cfg env token m).1 ↔
        CoordinatedAgrees (increase env lockInner.param.type lockInner.param m).1 := by
      obtain ⟨-, heq⟩ | ⟨-, heq⟩ := hcounted
      · rw [heq]
      · rw [heq]
        exact coordinatedAgrees_listed ..
    rw [hincrease]
    by_cases htype : lockInner.param.type = .coordination
    · rw [htype, coordinatedAgrees_increase_iff h]
      refine ⟨fun hup found hfound _ => ?_, fun hcareful => hcareful lockInner hvalid htype⟩
      cases hvalid.symm.trans hfound
      exact hup
    · obtain ⟨hflag, hcounter⟩ := keepsCoordination_increase env htype lockInner.param m
      rw [coordinatedAgrees_congr hflag hcounter]
      refine iff_of_true h fun found hfound hcoordination => ?_
      cases hvalid.symm.trans hfound
      exact absurd hcoordination htype

theorem coordinatedAgrees_unLock_iff (h : CoordinatedAgrees m) (token : Token) (name : String) :
    CoordinatedAgrees (unLock cfg env token name m).1 ↔ Careful cfg m (.unLock token name env) := by
  obtain ⟨hnone, heq⟩ | ⟨registered, lockInner, hfound, hcounted⟩ := unLock_cases cfg env token name m
  · rw [heq]
    refine iff_of_true h fun registered lockInner hfound => ?_
    cases hnone.symm.trans hfound
  · have hcleared : CoordinatedAgrees (clearIfProxied token lockInner m) :=
      (coordinatedAgrees_congr (clearIfProxied_coordinated ..)
        (congrFun (clearIfProxied_lockCounters ..) _)).mpr h
    -- the lock that is found is this one
    have hcareful : Careful cfg m (.unLock token name env) ↔ (lockInner.param.type = .coordination →
        lockInner.state ≠ .disable → CountsDown env lockInner.param (clearIfProxied token lockInner m)) := by
      refine ⟨fun hcareful => hcareful registered lockInner hfound, fun hdown registered' found hfound' => ?_⟩
      cases hfound.symm.trans hfound'
      exact hdown
    rw [hcareful]
    obtain ⟨hrefused, heq⟩ | hcounted := hcounted
    · rw [heq]
      refine iff_of_true hcleared fun htype hstate => ?_
      obtain hdisabled | hcounter := hrefused
      · exact absurd hdisabled hstate
      · rw [htype] at hcounter
        cases hcounter
    · have hstate : lockInner.state ≠ .disable := hcounted.elim And.left And.left
      have hdecrease : CoordinatedAgrees (unLock cfg env token name m).1 ↔ CoordinatedAgrees
          (decrease env lockInner.param.type lockInner.param (clearIfProxied token lockInner m)).1 := by
        obtain ⟨-, -, -, heq⟩ | ⟨-, -, -, heq⟩ := hcounted
        · rw [heq]
        · rw [heq]
          exact coordinatedAgrees_listed ..
      rw [hdecrease]
      by_cases htype : lockInner.param.type = .coordination
      · rw [htype, coordinatedAgrees_decrease_iff hcleared]
        exact ⟨fun hdown _ _ => hdown, fun hdown => hdown rfl hstate⟩
      · obtain ⟨hflag, hcounter⟩ := keepsCoordination_decrease env htype lockInner.param
          (clearIfProxied token lockInner m)
        rw [coordinatedAgrees_congr hflag hcounter]
        exact iff_of_true hcleared fun hcoordination => absurd hcoordination htype

/-- The careful calls are exactly those that keep the flag to the counter. -/
theorem coordinated_step_iff (h : CoordinatedAgrees m) (p : Primitive) :
    CoordinatedAgrees (p.apply cfg m) ↔ Careful cfg m p := by
  cases p with
  | lock token env => exact coordinatedAgrees_lock_iff h token
  | unLock token name env => exact coordinatedAgrees_unLock_iff h token name
  | setState | setBundleName | setRunningLocks | setProxyMap => exact iff_of_true h trivial

/-! ## Runs -/

/-- In every run of careful calls the flag says whether a coordination lock is counted. -/
theorem coordinated_agrees (h : (primitives cfg).Reach (Careful cfg) m) :
    m.coordinated = true ↔ 0 < (m.lockCounters .coordination).toNat := by
  have hagrees : CoordinatedAgrees m := by
    refine h.invariant (fun m hinit => ?_) fun m m' p hm hcareful hnext => ?_
    · cases hinit
      exact ⟨nofun, fun hpositive => absurd rfl hpositive⟩
    · cases hnext
      exact (coordinated_step_iff hm p).mpr hcareful
  rw [show m.coordinated = true ↔ _ from hagrees, Nat.pos_iff_ne_zero, ne_eq, ne_eq, ← UInt32.toNat_inj]
  rfl

def coordinationLock : RunningLockParam where
  lockid := 1
  name := "collaboration"
  type := .coordination
  pid := 10
  uid := 20
  typeHdi := .coordination

/-- The lock is registered, taken and given up with a working HDI. -/
theorem coordinated_agrees_unlocked : ∃ m : RunningLockMgr, m.activated .coordination = false ∧
    (m.coordinated = true ↔ 0 < (m.lockCounters .coordination).toNat) := by
  have hregistered := (Lib.System.Reach.init rfl : (primitives {}).Reach (Careful {}) {}).step
    (Primitive.setRunningLocks ((∅ : TreeMap Token RunningLockInner).insert 1 { param := coordinationLock }))
    trivial rfl
  have hlocked := hregistered.step (Primitive.lock 1 {}) (fun lockInner hvalid _ => by
    cases hvalid
    exact ⟨by decide, fun _ _ => rfl⟩) rfl
  have hunlocked := hlocked.step (Primitive.unLock 1 "" {}) (fun registered lockInner hfound _ _ => by
    cases hfound
    exact ⟨by decide, fun _ _ => rfl⟩) rfl
  exact ⟨_, by decide, coordinated_agrees hunlocked⟩

def failingHdi : Env where
  hdi _ _ _ := false

/-- The flag is on without a lock after a lock that failed, off with a lock after an unlock that failed, and
off with a wrapped counter after a client has unlocked while it was proxied. -/
theorem coordinated_disagrees :
    (∃ m, (serviceSystem {}).run {} [(.op (.createRunningLock 1 coordinationLock), {}),
        (.op (.lock 1), failingHdi)] = some m ∧ m.coordinated = true ∧ m.lockCounters .coordination = 0) ∧
    (∃ m, (serviceSystem {}).run {} [(.op (.createRunningLock 1 coordinationLock), {}), (.op (.lock 1), {}),
        (.op (.unLock 1 ""), failingHdi)] = some m ∧ m.coordinated = false ∧ m.lockCounters .coordination = 1) ∧
    ∃ m, (serviceSystem {}).run {} [(.op (.createRunningLock 1 coordinationLock), {}), (.op (.lock 1), {}),
        (.op (.proxyRunningLock true 10 20), {}), (.op (.unLock 1 ""), {})] = some m ∧
      m.coordinated = false ∧ (m.lockCounters .coordination).toNat = 2 ^ 32 - 1 :=
  ⟨⟨_, rfl, by decide, by decide⟩, ⟨_, rfl, by decide, by decide⟩, ⟨_, rfl, by decide, by decide⟩⟩

end PowerMgr.RunningLock.Coordination
