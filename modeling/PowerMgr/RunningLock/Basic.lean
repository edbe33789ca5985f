import PowerMgr.Lib.Loop
import PowerMgr.RunningLock.Mgr
import Mathlib.Logic.Function.Basic

/-! # What the running-lock operations read and write

The results about running locks look at the state through a few windows:

* `view?` — the part of a registered lock that no operation but `Lock`, `UnLock` and the
  proxy calls touches: its state, type, owner and name, but not its bundle name;
* `entryAt?` — the proxy entry of a token under a key;
* `lockCounters` and `activated`.

This module says once what each operation does to each window.  Later modules cite these
lemmas and do not unfold the operations.
-/

namespace PowerMgr.RunningLock

open Std (TreeMap)
open Lib.TreeMap (getElem?_modify_eq getElem?_insert_eq getElem?_erase_eq getElem?_insertIfNew_eq)

/-! ## Windows -/

/-- What of a registered lock decides its behaviour. -/
structure LockView where
  state : RunningLockState
  type : RunningLockType
  ownerKey : String
  name : String
  deriving DecidableEq, Repr

def RunningLockInner.view (lockInner : RunningLockInner) : LockView where
  state := lockInner.state
  type := lockInner.param.type
  ownerKey := lockInner.ownerKey
  name := lockInner.param.name

def LockView.isProxied (view : LockView) : Bool :=
  view.state = .proxied || view.state = .unproxiedRestore

@[simp] theorem RunningLockInner.view_isProxied (lockInner : RunningLockInner) :
    lockInner.view.isProxied = lockInner.isProxied := rfl

namespace RunningLockMgr

def view? (m : RunningLockMgr) (token : Token) : Option LockView :=
  m.runningLocks[token]?.map RunningLockInner.view

variable (m : RunningLockMgr)

theorem view?_of_getElem? {token : Token} {lockInner : RunningLockInner}
    (h : m.runningLocks[token]? = some lockInner) : m.view? token = some lockInner.view := by
  simp [view?, h]

theorem view?_congr {m m' : RunningLockMgr} (h : m'.runningLocks = m.runningLocks) : m'.view? = m.view? := by
  funext token
  simp [view?, h]

theorem entryAt?_congr {m m' : RunningLockMgr} (h : m'.proxyMap = m.proxyMap) : m'.entryAt? = m.entryAt? := by
  funext key token
  simp [entryAt?, h]

/-! ## Elementary updates -/

@[simp] theorem setCounter_runningLocks (type : RunningLockType) (value : UInt32) :
    (m.setCounter type value).runningLocks = m.runningLocks := rfl

@[simp] theorem setCounter_proxyMap (type : RunningLockType) (value : UInt32) :
    (m.setCounter type value).proxyMap = m.proxyMap := rfl

@[simp] theorem setCounter_activated (type : RunningLockType) (value : UInt32) :
    (m.setCounter type value).activated = m.activated := rfl

@[simp] theorem setCounter_lockCounters (type : RunningLockType) (value : UInt32) :
    (m.setCounter type value).lockCounters = Function.update m.lockCounters type value := by
  funext type'
  by_cases h : type' = type
  · subst h
    simp [setCounter]
  · simp [setCounter, h]

@[simp] theorem setActivated_runningLocks (type : RunningLockType) (active : Bool) :
    (m.setActivated type active).runningLocks = m.runningLocks := rfl

@[simp] theorem setActivated_proxyMap (type : RunningLockType) (active : Bool) :
    (m.setActivated type active).proxyMap = m.proxyMap := rfl

@[simp] theorem setActivated_lockCounters (type : RunningLockType) (active : Bool) :
    (m.setActivated type active).lockCounters = m.lockCounters := rfl

@[simp] theorem setActivated_activated (type : RunningLockType) (active : Bool) :
    (m.setActivated type active).activated = Function.update m.activated type active := by
  funext type'
  by_cases h : type' = type
  · subst h
    simp [setActivated]
  · simp [setActivated, h]

@[simp] theorem setState_proxyMap (token : Token) (state : RunningLockState) :
    (m.setState token state).proxyMap = m.proxyMap := rfl

@[simp] theorem setState_lockCounters (token : Token) (state : RunningLockState) :
    (m.setState token state).lockCounters = m.lockCounters := rfl

@[simp] theorem setState_activated (token : Token) (state : RunningLockState) :
    (m.setState token state).activated = m.activated := rfl

@[simp] theorem setBundleName_proxyMap (token : Token) (bundleName : String) :
    (m.setBundleName token bundleName).proxyMap = m.proxyMap := rfl

@[simp] theorem setBundleName_lockCounters (token : Token) (bundleName : String) :
    (m.setBundleName token bundleName).lockCounters = m.lockCounters := rfl

@[simp] theorem setBundleName_activated (token : Token) (bundleName : String) :
    (m.setBundleName token bundleName).activated = m.activated := rfl

@[simp] theorem modifyEntry_runningLocks (key : String) (token : Token) (f : WksEntry → WksEntry) :
    (m.modifyEntry key token f).runningLocks = m.runningLocks := rfl

@[simp] theorem modifyEntry_lockCounters (key : String) (token : Token) (f : WksEntry → WksEntry) :
    (m.modifyEntry key token f).lockCounters = m.lockCounters := rfl

@[simp] theorem modifyEntry_activated (key : String) (token : Token) (f : WksEntry → WksEntry) :
    (m.modifyEntry key token f).activated = m.activated := rfl

@[simp] theorem view?_modifyEntry (key : String) (token : Token) (f : WksEntry → WksEntry) :
    (m.modifyEntry key token f).view? = m.view? := rfl

@[simp] theorem entryAt?_setState (token : Token) (state : RunningLockState) :
    (m.setState token state).entryAt? = m.entryAt? := rfl

@[simp] theorem entryAt?_setBundleName (token : Token) (bundleName : String) :
    (m.setBundleName token bundleName).entryAt? = m.entryAt? := rfl

theorem view?_setState {token : Token} {view : LockView} (h : m.view? token = some view)
    (state : RunningLockState) :
    (m.setState token state).view? = Function.update m.view? token (some { view with state := state }) := by
  funext token'
  by_cases htoken : token' = token
  · subst htoken
    obtain ⟨lockInner, hfound, rfl⟩ := Option.map_eq_some_iff.mp h
    simp [view?, setState, hfound, RunningLockInner.view, RunningLockInner.ownerKey]
  · rw [Function.update_of_ne htoken]
    simp [view?, setState, getElem?_modify_eq, Ne.symm htoken]

@[simp] theorem view?_setBundleName (token : Token) (bundleName : String) :
    (m.setBundleName token bundleName).view? = m.view? := by
  funext token'
  by_cases htoken : token = token'
  · subst htoken
    cases hfound : m.runningLocks[token]? with
    | none => simp [view?, setBundleName, hfound]
    | some lockInner =>
      simp [view?, setBundleName, hfound, RunningLockInner.view, RunningLockInner.ownerKey]
  · simp [view?, setBundleName, getElem?_modify_eq, htoken]

theorem entryAt?_modifyEntry (key key' : String) (token token' : Token) (f : WksEntry → WksEntry) :
    (m.modifyEntry key token f).entryAt? key' token' =
      if key = key' ∧ token = token' then (m.entryAt? key token).map f else m.entryAt? key' token' := by
  by_cases hkey : key = key'
  · subst hkey
    cases hfound : m.proxyMap[key]? with
    | none => simp [entryAt?, modifyEntry, hfound]
    | some tokenWksMap =>
      simp [entryAt?, modifyEntry, hfound, getElem?_modify_eq]
  · simp [entryAt?, modifyEntry, getElem?_modify_eq, hkey]

end RunningLockMgr

/-! ## Counters leave the lock and proxy tables alone -/

def Activate.KeepsTables (activate : Activate) : Prop :=
  ∀ active param m, (activate active param m).1.runningLocks = m.runningLocks ∧
    (activate active param m).1.proxyMap = m.proxyMap

section KeepsTables

variable {action : Activate} (hkeeps : action.KeepsTables) (type : RunningLockType)
  (param : RunningLockParam) (m : RunningLockMgr)

include hkeeps

theorem increaseWith_keepsTables :
    (increaseWith action type param m).1.runningLocks = m.runningLocks ∧
      (increaseWith action type param m).1.proxyMap = m.proxyMap := by
  have hcall := hkeeps true param (m.setCounter type (m.lockCounters type + 1))
  simp only [increaseWith]
  split
  · split <;> exact hcall
  · exact ⟨rfl, rfl⟩

theorem decreaseWith_keepsTables :
    (decreaseWith action type param m).1.runningLocks = m.runningLocks ∧
      (decreaseWith action type param m).1.proxyMap = m.proxyMap := by
  have hcall := hkeeps false param (m.setCounter type (m.lockCounters type - 1))
  simp only [decreaseWith]
  split
  · split <;> exact hcall
  · exact ⟨rfl, rfl⟩

end KeepsTables

theorem activateBackground_keepsTables (env : Env) : (activateBackground env).KeepsTables :=
  fun _ _ _ => ⟨rfl, rfl⟩

theorem activateUserIdle_keepsTables (env : Env) : (activateUserIdle env).KeepsTables := by
  intro active param m
  have hbackground := activateBackground_keepsTables env
  cases active with
  | true => exact increaseWith_keepsTables hbackground .backgroundTask _ m
  | false => exact decreaseWith_keepsTables hbackground .backgroundTask _ m

theorem activateCoordination_keepsTables (env : Env) : (activateCoordination env).KeepsTables := by
  intro active param m
  have hbackground := activateBackground_keepsTables env
  cases active with
  | true => exact increaseWith_keepsTables hbackground .backgroundTask _ m
  | false => exact decreaseWith_keepsTables hbackground .backgroundTask _ { m with coordinated := false }

theorem activate_keepsTables (env : Env) (type : RunningLockType) : (activate env type).KeepsTables := by
  cases type with
  | backgroundUserIdle => exact activateUserIdle_keepsTables env
  | coordination => exact activateCoordination_keepsTables env
  | screen => exact fun _ _ _ => ⟨rfl, rfl⟩
  | proximityScreenControl => exact fun _ _ _ => ⟨rfl, rfl⟩
  | _ => exact activateBackground_keepsTables env

@[simp] theorem increase_runningLocks (env : Env) (type : RunningLockType) (param : RunningLockParam)
    (m : RunningLockMgr) : (increase env type param m).1.runningLocks = m.runningLocks :=
  (increaseWith_keepsTables (activate_keepsTables env type) type param m).1

@[simp] theorem increase_proxyMap (env : Env) (type : RunningLockType) (param : RunningLockParam)
    (m : RunningLockMgr) : (increase env type param m).1.proxyMap = m.proxyMap :=
  (increaseWith_keepsTables (activate_keepsTables env type) type param m).2

@[simp] theorem decrease_runningLocks (env : Env) (type : RunningLockType) (param : RunningLockParam)
    (m : RunningLockMgr) : (decrease env type param m).1.runningLocks = m.runningLocks :=
  (decreaseWith_keepsTables (activate_keepsTables env type) type param m).1

@[simp] theorem decrease_proxyMap (env : Env) (type : RunningLockType) (param : RunningLockParam)
    (m : RunningLockMgr) : (decrease env type param m).1.proxyMap = m.proxyMap :=
  (decreaseWith_keepsTables (activate_keepsTables env type) type param m).2

/-! ## Lock -/

section listScreenLock

variable (param : RunningLockParam) (fill : Bool) (m : RunningLockMgr)

@[simp] theorem listScreenLock_runningLocks : (listScreenLock param fill m).runningLocks = m.runningLocks := by
  unfold listScreenLock updateUnSceneLockLists
  split <;> [split <;> rfl; rfl]

@[simp] theorem listScreenLock_proxyMap : (listScreenLock param fill m).proxyMap = m.proxyMap := by
  unfold listScreenLock updateUnSceneLockLists
  split <;> [split <;> rfl; rfl]

@[simp] theorem listScreenLock_lockCounters : (listScreenLock param fill m).lockCounters = m.lockCounters := by
  unfold listScreenLock updateUnSceneLockLists
  split <;> [split <;> rfl; rfl]

@[simp] theorem listScreenLock_activated : (listScreenLock param fill m).activated = m.activated := by
  unfold listScreenLock updateUnSceneLockLists
  split <;> [split <;> rfl; rfl]

end listScreenLock

/-- A lock may be enabled when it is registered, disabled, of a type the power state admits,
and counted. -/
theorem validateLockForEnable_eq_some {cfg : Config} {env : Env} {token : Token} {m : RunningLockMgr}
    {lockInner : RunningLockInner} :
    validateLockForEnable cfg env token m = some lockInner ↔
      m.runningLocks[token]? = some lockInner ∧ lockInner.state = .disable ∧
        isValidType (env.powerState m) lockInner.param.type = true ∧
        hasCounter cfg lockInner.param.type = true := by
  unfold validateLockForEnable
  cases hfound : m.runningLocks[token]? with
  | none => simp
  | some found =>
    simp only [Option.some.injEq]
    constructor
    · intro h
      split at h
      · cases h
      next hproxied =>
        split at h
        · cases h
        next hvalid =>
          split at h
          · cases h
          next henable =>
            split at h
            · cases h
            next hcounter =>
              cases h
              refine ⟨rfl, ?_, by simpa using hvalid, by simpa using hcounter⟩
              cases hstate : lockInner.state with
              | disable => rfl
              | enable => exact absurd hstate henable
              | proxied => simp [RunningLockInner.isProxied, hstate] at hproxied
              | unproxiedRestore => simp [RunningLockInner.isProxied, hstate] at hproxied
    · rintro ⟨rfl, hstate, hvalid, hcounter⟩
      simp [RunningLockInner.isProxied, hstate, hvalid, hcounter]

/-- `Lock` either refuses, or fails in the counter, or counts and enables the lock. -/
theorem lock_cases (cfg : Config) (env : Env) (token : Token) (m : RunningLockMgr) :
    (validateLockForEnable cfg env token m = none ∧ lock cfg env token m = (m, false)) ∨
    ∃ lockInner, validateLockForEnable cfg env token m = some lockInner ∧
      (((increase env lockInner.param.type lockInner.param m).2 = false ∧
          lock cfg env token m = ((increase env lockInner.param.type lockInner.param m).1, false)) ∨
        ((increase env lockInner.param.type lockInner.param m).2 = true ∧
          lock cfg env token m = ((listScreenLock lockInner.param true
            (increase env lockInner.param.type lockInner.param m).1).setState token .enable, true))) := by
  unfold lock
  cases hvalid : validateLockForEnable cfg env token m with
  | none => exact .inl ⟨rfl, rfl⟩
  | some lockInner =>
    refine .inr ⟨lockInner, rfl, ?_⟩
    cases hsuccess : (increase env lockInner.param.type lockInner.param m).2 with
    | false => exact .inl ⟨rfl, by simp [hsuccess]⟩
    | true => exact .inr ⟨rfl, by simp [hsuccess]⟩

@[simp] theorem lock_proxyMap (cfg : Config) (env : Env) (token : Token) (m : RunningLockMgr) :
    (lock cfg env token m).1.proxyMap = m.proxyMap := by
  obtain ⟨-, h⟩ | ⟨lockInner, -, ⟨-, h⟩ | ⟨-, h⟩⟩ := lock_cases cfg env token m <;> rw [h]
  · simp
  · simp

theorem lock_view? (cfg : Config) (env : Env) (token : Token) (m : RunningLockMgr) :
    (lock cfg env token m).1.view? = m.view? ∨
    ∃ view, m.view? token = some view ∧ view.state = .disable ∧ hasCounter cfg view.type = true ∧
      (lock cfg env token m).1.view? = Function.update m.view? token (some { view with state := .enable }) := by
  obtain ⟨-, h⟩ | ⟨lockInner, hvalid, ⟨-, h⟩ | ⟨-, h⟩⟩ := lock_cases cfg env token m
  · left
    rw [h]
  · left
    rw [h]
    exact RunningLockMgr.view?_congr (increase_runningLocks ..)
  · right
    obtain ⟨hfound, hstate, -, hcounter⟩ := validateLockForEnable_eq_some.mp hvalid
    have hsame : (listScreenLock lockInner.param true
        (increase env lockInner.param.type lockInner.param m).1).view? = m.view? :=
      RunningLockMgr.view?_congr (by simp)
    have hview := m.view?_of_getElem? hfound
    refine ⟨lockInner.view, hview, hstate, hcounter, ?_⟩
    rw [h, RunningLockMgr.view?_setState _ (by rw [hsame]; exact hview), hsame]

/-! ## UnLock -/

theorem foldl_findByName_mem (name : String) (items : List (Token × RunningLockInner))
    (found : Option (Token × RunningLockInner)) (item : Token × RunningLockInner)
    (h : items.foldl (fun found item => if item.2.param.name = name then some item else found) found =
      some item) : item ∈ items ∨ found = some item := by
  induction items generalizing found with
  | nil => exact .inr h
  | cons first rest ih =>
    obtain hmem | hfound := ih _ h
    · exact .inl (List.mem_cons_of_mem _ hmem)
    · dsimp only at hfound
      split at hfound
      · cases hfound
        exact .inl List.mem_cons_self
      · exact .inr hfound

theorem RunningLockMgr.findLock_of_registered {m : RunningLockMgr} {token : Token}
    {lockInner : RunningLockInner} (h : m.runningLocks[token]? = some lockInner) (name : String) :
    m.findLock token name = some (token, lockInner) := by
  simp [findLock, h]

/-- Whatever way a lock is found, it is the one registered under the returned token. -/
theorem RunningLockMgr.getElem?_of_findLock {m : RunningLockMgr} {token registered : Token} {name : String}
    {lockInner : RunningLockInner} (h : m.findLock token name = some (registered, lockInner)) :
    m.runningLocks[registered]? = some lockInner := by
  unfold findLock at h
  split at h
  next found hfound =>
    cases h
    exact hfound
  next =>
    obtain hmem | hnone := foldl_findByName_mem name _ none _ h
    · exact TreeMap.mem_toList_iff_getElem?_eq_some.mp hmem
    · cases hnone

/-- The proxy table after the first part of `UnLock`: a proxied lock has its entry cleared. -/
def clearIfProxied (token : Token) (lockInner : RunningLockInner) (m : RunningLockMgr) : RunningLockMgr :=
  if lockInner.isProxied then updateProxyState lockInner.param.pid lockInner.param.uid token false m else m

section clearIfProxied

variable (token : Token) (lockInner : RunningLockInner) (m : RunningLockMgr)

@[simp] theorem clearIfProxied_runningLocks :
    (clearIfProxied token lockInner m).runningLocks = m.runningLocks := by
  unfold clearIfProxied
  split <;> rfl

@[simp] theorem clearIfProxied_lockCounters :
    (clearIfProxied token lockInner m).lockCounters = m.lockCounters := by
  unfold clearIfProxied
  split <;> rfl

@[simp] theorem clearIfProxied_activated : (clearIfProxied token lockInner m).activated = m.activated := by
  unfold clearIfProxied
  split <;> rfl

theorem clearIfProxied_of_not_proxied (h : lockInner.isProxied = false) :
    clearIfProxied token lockInner m = m := by
  simp [clearIfProxied, h]

theorem clearIfProxied_of_proxied (h : lockInner.isProxied = true) :
    clearIfProxied token lockInner m = m.modifyEntry lockInner.ownerKey token WksEntry.clear := by
  simp [clearIfProxied, h, updateProxyState, RunningLockInner.ownerKey]

end clearIfProxied

/-- `UnLock` finds no lock, or clears the entry of a proxied one and then refuses, fails in the
counter, or counts down and disables the lock. -/
theorem unLock_cases (cfg : Config) (env : Env) (token : Token) (name : String) (m : RunningLockMgr) :
    (m.findLock token name = none ∧ unLock cfg env token name m = (m, false)) ∨
    ∃ registered lockInner, m.findLock token name = some (registered, lockInner) ∧
      (((lockInner.state = .disable ∨ hasCounter cfg lockInner.param.type = false) ∧
          unLock cfg env token name m = (clearIfProxied token lockInner m, false)) ∨
        (lockInner.state ≠ .disable ∧ hasCounter cfg lockInner.param.type = true ∧
          (decrease env lockInner.param.type lockInner.param (clearIfProxied token lockInner m)).2 = false ∧
          unLock cfg env token name m =
            ((decrease env lockInner.param.type lockInner.param (clearIfProxied token lockInner m)).1, false)) ∨
        (lockInner.state ≠ .disable ∧ hasCounter cfg lockInner.param.type = true ∧
          (decrease env lockInner.param.type lockInner.param (clearIfProxied token lockInner m)).2 = true ∧
          unLock cfg env token name m =
            ((listScreenLock lockInner.param false (decrease env lockInner.param.type lockInner.param
              (clearIfProxied token lockInner m)).1).setState registered .disable, true))) := by
  unfold unLock
  cases hfound : m.findLock token name with
  | none => exact .inl ⟨rfl, rfl⟩
  | some item =>
    obtain ⟨registered, lockInner⟩ := item
    refine .inr ⟨registered, lockInner, rfl, ?_⟩
    by_cases hstate : lockInner.state = .disable
    · exact .inl ⟨.inl hstate, by simp [hstate, clearIfProxied]⟩
    · cases hcounter : hasCounter cfg lockInner.param.type with
      | false => exact .inl ⟨.inr rfl, by simp [hstate, hcounter, clearIfProxied]⟩
      | true =>
        cases hsuccess : (decrease env lockInner.param.type lockInner.param
            (clearIfProxied token lockInner m)).2 with
        | false =>
          refine .inr (.inl ⟨hstate, rfl, rfl, ?_⟩)
          simp only [clearIfProxied] at hsuccess ⊢
          simp [hstate, hcounter, hsuccess]
        | true =>
          refine .inr (.inr ⟨hstate, rfl, rfl, ?_⟩)
          simp only [clearIfProxied] at hsuccess ⊢
          simp [hstate, hcounter, hsuccess]

theorem unLock_proxyMap (cfg : Config) (env : Env) (token : Token) (name : String) (m : RunningLockMgr) :
    (unLock cfg env token name m).1.proxyMap = m.proxyMap ∨
    ∃ registered lockInner, m.findLock token name = some (registered, lockInner) ∧
      lockInner.isProxied = true ∧
      (unLock cfg env token name m).1.proxyMap =
        (m.modifyEntry lockInner.ownerKey token WksEntry.clear).proxyMap := by
  have hclear : ∀ lockInner : RunningLockInner,
      (unLock cfg env token name m).1.proxyMap = (clearIfProxied token lockInner m).proxyMap →
      (unLock cfg env token name m).1.proxyMap = m.proxyMap ∨ lockInner.isProxied = true ∧
        (unLock cfg env token name m).1.proxyMap =
          (m.modifyEntry lockInner.ownerKey token WksEntry.clear).proxyMap := by
    intro lockInner h
    cases hproxied : lockInner.isProxied with
    | false => exact .inl (by rw [h, clearIfProxied_of_not_proxied _ _ _ hproxied])
    | true => exact .inr ⟨rfl, by rw [h, clearIfProxied_of_proxied _ _ _ hproxied]⟩
  rcases unLock_cases cfg env token name m with
    ⟨-, h⟩ | ⟨registered, lockInner, hfound, ⟨-, h⟩ | ⟨-, -, -, h⟩ | ⟨-, -, -, h⟩⟩
  · exact .inl (by rw [h])
  all_goals
    obtain hsame | hcleared := hclear lockInner (by simp [h])
    · exact .inl hsame
    · exact .inr ⟨registered, lockInner, hfound, hcleared⟩

theorem unLock_view? (cfg : Config) (env : Env) (token : Token) (name : String) (m : RunningLockMgr) :
    (unLock cfg env token name m).1.view? = m.view? ∨
    ∃ registered lockInner, m.findLock token name = some (registered, lockInner) ∧
      lockInner.state ≠ .disable ∧
      (unLock cfg env token name m).1.view? =
        Function.update m.view? registered (some { lockInner.view with state := .disable }) := by
  rcases unLock_cases cfg env token name m with
    ⟨-, h⟩ | ⟨registered, lockInner, hfound, ⟨-, h⟩ | ⟨-, -, -, h⟩ | ⟨hstate, -, -, h⟩⟩
  · exact .inl (by rw [h])
  · exact .inl (RunningLockMgr.view?_congr (by simp [h]))
  · exact .inl (RunningLockMgr.view?_congr (by simp [h]))
  · refine .inr ⟨registered, lockInner, hfound, hstate, ?_⟩
    have hsame : (listScreenLock lockInner.param false (decrease env lockInner.param.type lockInner.param
        (clearIfProxied token lockInner m)).1).view? = m.view? :=
      RunningLockMgr.view?_congr (by simp)
    have hview := m.view?_of_getElem? (RunningLockMgr.getElem?_of_findLock hfound)
    rw [h, RunningLockMgr.view?_setState _ (by rw [hsame]; exact hview), hsame]

/-! ## Proxying and un-proxying one lock -/

section proxyInner

variable (cfg : Config) (env : Env) (token : Token) (bundleNames : String) (m : RunningLockMgr)

theorem proxyInner_of_unregistered {event : RunningLockEvent} (h : m.view? token = none) :
    proxyInner cfg env token bundleNames event m = m := by
  have hnone : m.runningLocks[token]? = none := Option.map_eq_none_iff.mp h
  simp [proxyInner, hnone]

theorem proxyInner_update :
    proxyInner cfg env token bundleNames .update m = m ∨
      proxyInner cfg env token bundleNames .update m = m.setBundleName token bundleNames := by
  unfold proxyInner
  split
  · exact .inl rfl
  · exact .inr rfl

@[simp] theorem proxyInner_update_view? :
    (proxyInner cfg env token bundleNames .update m).view? = m.view? := by
  obtain h | h := proxyInner_update cfg env token bundleNames m <;> rw [h]
  exact m.view?_setBundleName token bundleNames

@[simp] theorem proxyInner_update_proxyMap :
    (proxyInner cfg env token bundleNames .update m).proxyMap = m.proxyMap := by
  obtain h | h := proxyInner_update cfg env token bundleNames m <;> rw [h]
  rfl

theorem getElem?_setBundleName_self {lockInner : RunningLockInner}
    (h : m.runningLocks[token]? = some lockInner) :
    (m.setBundleName token bundleNames).runningLocks[token]? =
      some { lockInner with param := { lockInner.param with bundleName := bundleNames } } := by
  simp [RunningLockMgr.setBundleName, h]

theorem proxyInner_proxy_of_disable {view : LockView} (hview : m.view? token = some view)
    (hstate : view.state = .disable) :
    proxyInner cfg env token bundleNames .proxy m = m.setBundleName token bundleNames := by
  obtain ⟨lockInner, hfound, rfl⟩ := Option.map_eq_some_iff.mp hview
  have hdisable : lockInner.state = .disable := hstate
  simp [proxyInner, hfound, unlockInnerByProxy, hdisable]

/-- Proxying a lock that is not disabled unlocks it and marks it. -/
theorem proxyInner_proxy_eq {view : LockView} (hview : m.view? token = some view)
    (hstate : view.state ≠ .disable) :
    proxyInner cfg env token bundleNames .proxy m =
      (unLock cfg env token "" (m.setBundleName token bundleNames)).1.setState token .proxied := by
  obtain ⟨lockInner, hfound, rfl⟩ := Option.map_eq_some_iff.mp hview
  have henabled : lockInner.state ≠ .disable := hstate
  simp [proxyInner, hfound, unlockInnerByProxy, henabled]

theorem proxyInner_proxy_view? {view : LockView} (hview : m.view? token = some view)
    (hstate : view.state ≠ .disable) :
    (proxyInner cfg env token bundleNames .proxy m).view? =
      Function.update m.view? token (some { view with state := .proxied }) := by
  obtain ⟨lockInner, hfound, rfl⟩ := Option.map_eq_some_iff.mp hview
  rw [proxyInner_proxy_eq cfg env token bundleNames m hview hstate]
  have hnamed := getElem?_setBundleName_self token bundleNames m hfound
  rcases unLock_view? cfg env token "" (m.setBundleName token bundleNames) with
    hsame | ⟨registered, found, hlock, -, hdisabled⟩
  · rw [RunningLockMgr.view?_setState _ (by rw [hsame, RunningLockMgr.view?_setBundleName]; exact hview), hsame,
      RunningLockMgr.view?_setBundleName]
  · rw [RunningLockMgr.findLock_of_registered hnamed] at hlock
    cases hlock
    rw [RunningLockMgr.view?_setState _ (by rw [hdisabled]; exact Function.update_self ..), hdisabled,
      RunningLockMgr.view?_setBundleName, Function.update_idem]
    rfl

theorem proxyInner_proxy_proxyMap :
    (proxyInner cfg env token bundleNames .proxy m).proxyMap = m.proxyMap ∨
    ∃ view, m.view? token = some view ∧ view.isProxied = true ∧
      (proxyInner cfg env token bundleNames .proxy m).proxyMap =
        (m.modifyEntry view.ownerKey token WksEntry.clear).proxyMap := by
  cases hview : m.view? token with
  | none => exact .inl (by rw [proxyInner_of_unregistered cfg env token bundleNames m hview])
  | some view =>
    by_cases hstate : view.state = .disable
    · exact .inl (by rw [proxyInner_proxy_of_disable cfg env token bundleNames m hview hstate]; rfl)
    · rw [proxyInner_proxy_eq cfg env token bundleNames m hview hstate]
      obtain ⟨lockInner, hfound, rfl⟩ := Option.map_eq_some_iff.mp hview
      have hnamed := getElem?_setBundleName_self token bundleNames m hfound
      rcases unLock_proxyMap cfg env token "" (m.setBundleName token bundleNames) with
        hsame | ⟨registered, found, hlock, hproxied, hcleared⟩
      · exact .inl hsame
      · rw [RunningLockMgr.findLock_of_registered hnamed] at hlock
        cases hlock
        exact .inr ⟨_, rfl, hproxied, hcleared⟩

@[simp] theorem proxyInner_unproxy_proxyMap :
    (proxyInner cfg env token bundleNames .unproxy m).proxyMap = m.proxyMap := by
  unfold proxyInner
  split
  · rfl
  · simp only [lockInnerByProxy]
    split
    · rfl
    · split
      · rw [lock_proxyMap]
        rfl
      · rfl

theorem proxyInner_unproxy_of_not_proxied (h : ∀ view, m.view? token = some view → view.state ≠ .proxied) :
    proxyInner cfg env token bundleNames .unproxy m = m ∨
      proxyInner cfg env token bundleNames .unproxy m = m.setBundleName token bundleNames := by
  cases hfound : m.runningLocks[token]? with
  | none => exact .inl (by simp [proxyInner, hfound])
  | some lockInner =>
    have hstate : lockInner.state ≠ .proxied := h lockInner.view (m.view?_of_getElem? hfound)
    exact .inr (by simp [proxyInner, hfound, lockInnerByProxy, hstate])

theorem proxyInner_unproxy_eq {view : LockView} (hview : m.view? token = some view)
    (hstate : view.state = .proxied) :
    proxyInner cfg env token bundleNames .unproxy m =
      (lock cfg env token ((m.setBundleName token bundleNames).setState token .disable)).1 := by
  obtain ⟨lockInner, hfound, rfl⟩ := Option.map_eq_some_iff.mp hview
  have hproxied : lockInner.state = .proxied := hstate
  simp [proxyInner, hfound, lockInnerByProxy, RunningLockInner.isProxied, hproxied]

/-- An un-proxied lock is enabled again, or disabled when it may not be enabled. -/
theorem proxyInner_unproxy_view? {view : LockView} (hview : m.view? token = some view)
    (hstate : view.state = .proxied) :
    ∃ state, (state = .disable ∨ state = .enable ∧ hasCounter cfg view.type = true) ∧
      (proxyInner cfg env token bundleNames .unproxy m).view? =
        Function.update m.view? token (some { view with state := state }) := by
  rw [proxyInner_unproxy_eq cfg env token bundleNames m hview hstate]
  have hdisabled : ((m.setBundleName token bundleNames).setState token .disable).view? =
      Function.update m.view? token (some { view with state := .disable }) := by
    rw [RunningLockMgr.view?_setState _ (by rw [RunningLockMgr.view?_setBundleName]; exact hview),
      RunningLockMgr.view?_setBundleName]
  rcases lock_view? cfg env token ((m.setBundleName token bundleNames).setState token .disable) with
    hsame | ⟨found, hfound, -, hcounter, henabled⟩
  · exact ⟨.disable, .inl rfl, by rw [hsame, hdisabled]⟩
  · rw [hdisabled, Function.update_self] at hfound
    cases hfound
    exact ⟨.enable, .inr ⟨rfl, hcounter⟩, by rw [henabled, hdisabled, Function.update_idem]⟩

end proxyInner

/-! ## Adding and removing proxy entries -/

theorem addRunningLock_eq (pid uid : Int) (token : Token) (m : RunningLockMgr) :
    ∃ proxyMap, addRunningLock pid uid token m = { m with proxyMap := proxyMap } := by
  simp only [addRunningLock]
  split <;> exact ⟨_, rfl⟩

theorem removeRunningLock_eq (pid uid : Int) (token : Token) (m : RunningLockMgr) :
    ∃ proxyMap, removeRunningLock pid uid token m = { m with proxyMap := proxyMap } := by
  simp only [removeRunningLock]
  split
  · exact ⟨m.proxyMap, rfl⟩
  · split
    · split <;> exact ⟨_, rfl⟩
    · exact ⟨m.proxyMap, rfl⟩

/-- A lock that is created is registered, and a proxy entry may come with it. -/
theorem createRunningLock_eq (token : Token) (param : RunningLockParam) (m : RunningLockMgr) :
    ∃ proxyMap, createRunningLock token param m =
      { m with runningLocks := m.runningLocks.insertIfNew token { param := param }, proxyMap := proxyMap } := by
  simp only [createRunningLock]
  split
  · obtain ⟨proxyMap, heq⟩ := addRunningLock_eq param.pid param.uid token
      { m with runningLocks := m.runningLocks.insertIfNew token { param := param } }
    exact ⟨proxyMap, heq⟩
  · exact ⟨m.proxyMap, rfl⟩

section ReleaseLock

variable (cfg : Config) (env : Env) {token : Token} {name : String} {m : RunningLockMgr}

theorem releaseLock_of_not_found (hnone : m.findLock token name = none) : releaseLock cfg env token name m = m := by
  simp only [releaseLock, hnone]

variable (hfound : m.findLock token name ≠ none)

include hfound

/-- A lock that is released is unlocked and erased, and its proxy entry may go with it. -/
theorem releaseLock_eq :
    ∃ proxyMap, releaseLock cfg env token name m =
      { (unLock cfg env token "" m).1 with
        runningLocks := (unLock cfg env token "" m).1.runningLocks.erase token
        proxyMap := proxyMap } := by
  unfold releaseLock
  split
  next hnone => exact absurd hnone hfound
  next registered lockInner _ =>
    dsimp only
    split
    · obtain ⟨proxyMap, heq⟩ := removeRunningLock_eq lockInner.param.pid lockInner.param.uid token
        { (unLock cfg env token "" m).1 with
          runningLocks := (unLock cfg env token "" m).1.runningLocks.erase token }
      exact ⟨proxyMap, heq⟩
    · exact ⟨(unLock cfg env token "" m).1.proxyMap, rfl⟩

theorem releaseLock_view? :
    (releaseLock cfg env token name m).view? = Function.update (unLock cfg env token "" m).1.view? token none := by
  obtain ⟨proxyMap, heq⟩ := releaseLock_eq cfg env hfound
  rw [heq]
  funext other
  by_cases hsame : other = token
  · rw [hsame, Function.update_self]
    simp [RunningLockMgr.view?]
  · rw [Function.update_of_ne hsame]
    simp [RunningLockMgr.view?, getElem?_erase_eq, Ne.symm hsame]

end ReleaseLock

theorem entryAt?_addRunningLock (pid uid : Int) (token : Token) (m : RunningLockMgr) (key' : String)
    (token' : Token) :
    (addRunningLock pid uid token m).entryAt? key' token' =
      if assembleProxyKey pid uid = key' ∧ token = token' then some ((m.entryAt? key' token').getD ⟨∅, 0⟩)
      else m.entryAt? key' token' := by
  cases hkey : m.proxyMap[assembleProxyKey pid uid]? with
  | none =>
    simp only [addRunningLock, hkey, RunningLockMgr.entryAt?, getElem?_insert_eq]
    by_cases hsame : assembleProxyKey pid uid = key'
    · subst hsame
      by_cases htoken : token = token' <;> simp [hkey, htoken]
    · simp [hsame]
  | some tokenWksMap =>
    simp only [addRunningLock, hkey, RunningLockMgr.entryAt?, getElem?_insert_eq]
    by_cases hsame : assembleProxyKey pid uid = key'
    · subst hsame
      simp only [if_true, Option.bind_some, getElem?_insertIfNew_eq, hkey, true_and]
      by_cases htoken : token = token'
      · subst htoken
        simp
      · simp [htoken]
    · simp [hsame]

theorem entryAt?_removeRunningLock (pid uid : Int) (token : Token) (m : RunningLockMgr) (key' : String)
    (token' : Token) :
    (removeRunningLock pid uid token m).entryAt? key' token' =
      if assembleProxyKey pid uid = key' ∧ token = token' then none else m.entryAt? key' token' := by
  cases hkey : m.proxyMap[assembleProxyKey pid uid]? with
  | none =>
    simp only [removeRunningLock, hkey]
    by_cases hsame : assembleProxyKey pid uid = key'
    · subst hsame
      simp [RunningLockMgr.entryAt?, hkey]
    · simp [hsame]
  | some tokenWksMap =>
    simp only [removeRunningLock, hkey]
    by_cases hsame : assembleProxyKey pid uid = key'
    · subst hsame
      simp only [true_and]
      split
      next hmem =>
        split
        next hempty =>
          -- The last token of the key goes, and the key with it.
          have hnone : (tokenWksMap.erase token)[token']? = none := TreeMap.getElem?_of_isEmpty hempty
          rw [getElem?_erase_eq] at hnone
          by_cases htoken : token = token'
          · simp [RunningLockMgr.entryAt?, htoken]
          · rw [if_neg htoken] at hnone
            simp [RunningLockMgr.entryAt?, hkey, hnone]
        next => simp [RunningLockMgr.entryAt?, hkey, getElem?_erase_eq]
      next hmem =>
        by_cases htoken : token = token'
        · subst htoken
          simp [RunningLockMgr.entryAt?, hkey, TreeMap.getElem?_eq_none hmem]
        · simp [htoken]
    · simp only [hsame, false_and, if_false]
      split
      · split
        · simp [RunningLockMgr.entryAt?, getElem?_erase_eq, hsame]
        · simp [RunningLockMgr.entryAt?, getElem?_insert_eq, hsame]
      · rfl

/-- The entries of other tokens are those that unlocking leaves. -/
theorem entryAt?_releaseLock_of_ne {cfg : Config} {env : Env} {token other : Token} {name : String}
    {m : RunningLockMgr} (hfound : m.findLock token name ≠ none) (hne : other ≠ token) (key : String) :
    (releaseLock cfg env token name m).entryAt? key other = (unLock cfg env token "" m).1.entryAt? key other := by
  unfold releaseLock
  split
  next hnone => exact absurd hnone hfound
  next =>
    dsimp only
    split
    · rw [entryAt?_removeRunningLock, if_neg fun hsame => hne hsame.2.symm]
      rfl
    · rfl

/-! ## Loop bodies -/

section Loops

variable (cfg : Config) (env : Env) (uid : Int) (key : String) (token : Token) (m : RunningLockMgr)

/-- The second loop of `IncreaseProxyCnt` passes over a position, or raises the flag of `uid`
there and proxies the lock once all its work sources are flagged. -/
theorem increaseWorkSource_cases :
    increaseWorkSource cfg env uid m (key, token) = m ∨
    ∃ entry bundleName, skipsIncrease cfg m token = false ∧ m.entryAt? key token = some entry ∧
      entry.wks[uid]? = some (bundleName, false) ∧
      ((((entry.raise uid bundleName).proxyCount = (entry.raise uid bundleName).wks.size ∧
          increaseWorkSource cfg env uid m (key, token) =
            proxyInner cfg env token "" .proxy (m.modifyEntry key token fun _ => entry.raise uid bundleName)) ∨
        ((entry.raise uid bundleName).proxyCount ≠ (entry.raise uid bundleName).wks.size ∧
          increaseWorkSource cfg env uid m (key, token) =
            proxyInner cfg env token (mergeBundleName (entry.raise uid bundleName).wks) .update
              (m.modifyEntry key token fun _ => entry.raise uid bundleName)))) := by
  cases hskip : skipsIncrease cfg m token with
  | true => exact .inl (by simp [increaseWorkSource, hskip])
  | false =>
    cases hentry : m.entryAt? key token with
    | none => exact .inl (by simp [increaseWorkSource, hskip, hentry])
    | some entry =>
      rcases hwks : entry.wks[uid]? with - | ⟨bundleName, - | -⟩
      · exact .inl (by simp [increaseWorkSource, hskip, hentry, hwks])
      · refine .inr ⟨entry, bundleName, rfl, rfl, hwks, ?_⟩
        by_cases hfull : (entry.raise uid bundleName).proxyCount = (entry.raise uid bundleName).wks.size
        · exact .inl ⟨hfull, by simp [increaseWorkSource, hskip, hentry, hwks, hfull]⟩
        · exact .inr ⟨hfull, by simp [increaseWorkSource, hskip, hentry, hwks, hfull]⟩
      · exact .inl (by simp [increaseWorkSource, hskip, hentry, hwks])

/-- The second loop of `DecreaseProxyCnt` passes over a position, or clears the flag of `uid`
there and un-proxies the lock if all its work sources were flagged. -/
theorem decreaseWorkSourceWith_cases (lower : Int → Int) :
    decreaseWorkSourceWith lower cfg env uid m (key, token) = m ∨
    ∃ entry bundleName, nameContains (m.getRunningLockName token) offloadRunningName = false ∧
      m.entryAt? key token = some entry ∧ entry.wks[uid]? = some (bundleName, true) ∧
      decreaseWorkSourceWith lower cfg env uid m (key, token) =
        proxyInner cfg env token (mergeBundleName (entry.lowerWith lower uid bundleName).wks)
          (if (entry.lowerWith lower uid bundleName).proxyCount =
              ((entry.lowerWith lower uid bundleName).wks.size : Int) - 1 then .unproxy else .update)
          (m.modifyEntry key token fun _ => entry.lowerWith lower uid bundleName) := by
  cases hskip : nameContains (m.getRunningLockName token) offloadRunningName with
  | true => exact .inl (by simp [decreaseWorkSourceWith, hskip])
  | false =>
    cases hentry : m.entryAt? key token with
    | none => exact .inl (by simp [decreaseWorkSourceWith, hskip, hentry])
    | some entry =>
      rcases hwks : entry.wks[uid]? with - | ⟨bundleName, - | -⟩
      · exact .inl (by simp [decreaseWorkSourceWith, hskip, hentry, hwks])
      · exact .inl (by simp [decreaseWorkSourceWith, hskip, hentry, hwks])
      · exact .inr ⟨entry, bundleName, rfl, rfl, hwks, by simp [decreaseWorkSourceWith, hskip, hentry, hwks]⟩

@[simp] theorem decreaseOwned_proxyMap :
    (decreaseOwned cfg env key m token).proxyMap = (m.modifyEntry key token WksEntry.clear).proxyMap :=
  proxyInner_unproxy_proxyMap ..

theorem entryAt?_resetRunningLock :
    (resetRunningLock cfg env m (key, token)).entryAt? = (m.modifyEntry key token WksEntry.clear).entryAt? := by
  funext key' token'
  have hkeeps : ∀ bundleNames, (proxyInner cfg env token bundleNames .unproxy
      (m.modifyEntry key token fun entry => { entry.clear with proxyCount := entry.proxyCount })).entryAt? =
      (m.modifyEntry key token fun entry => { entry.clear with proxyCount := entry.proxyCount }).entryAt? :=
    fun bundleNames => RunningLockMgr.entryAt?_congr (proxyInner_unproxy_proxyMap ..)
  simp only [resetRunningLock, RunningLockMgr.entryAt?_modifyEntry, hkeeps]
  by_cases hsame : key = key' ∧ token = token'
  · obtain ⟨rfl, rfl⟩ := hsame
    cases m.entryAt? key token with
    | none => simp
    | some entry => simp [WksEntry.clear]
  · simp [hsame]

end Loops

/-! ## Creating a lock, and dropping its work sources -/

/-- A token that is registered keeps its lock; another one gets a disabled lock. -/
theorem createRunningLock_view? (token : Token) (param : RunningLockParam) (m : RunningLockMgr) :
    (createRunningLock token param m).view? = Function.update m.view? token
      (some ((m.view? token).getD (RunningLockInner.view { param := param }))) := by
  have hlocks : (createRunningLock token param m).runningLocks =
      m.runningLocks.insertIfNew token { param := param } := by
    obtain ⟨proxyMap, heq⟩ := createRunningLock_eq token param m
    rw [heq]
  funext other
  by_cases hsame : other = token
  · subst hsame
    rw [Function.update_self]
    simp only [RunningLockMgr.view?, hlocks, getElem?_insertIfNew_eq, if_true]
    cases m.runningLocks[other]? <;> rfl
  · rw [Function.update_of_ne hsame]
    simp [RunningLockMgr.view?, hlocks, getElem?_insertIfNew_eq, Ne.symm hsame]

theorem createRunningLock_lockCounters (token : Token) (param : RunningLockParam) (m : RunningLockMgr) :
    (createRunningLock token param m).lockCounters = m.lockCounters ∧
      (createRunningLock token param m).activated = m.activated := by
  obtain ⟨proxyMap, heq⟩ := createRunningLock_eq token param m
  rw [heq]
  exact ⟨rfl, rfl⟩

/-- Without work sources there is nothing to tell the lock but its name. -/
theorem workSourceEvent_empty (entry : WksEntry) : workSourceEvent entry (scanWorkSources entry.wks ∅) = .update := by
  have hscan : scanWorkSources entry.wks ∅ = {} := rfl
  simp [workSourceEvent, hscan]

theorem updateWorkSource_empty_view? (cfg : Config) (env : Env) (token : Token) (m : RunningLockMgr) :
    (updateWorkSource cfg env token ∅ m).view? = m.view? := by
  unfold updateWorkSource
  split
  · rfl
  · simp only [updateWorkSourceProxy]
    split
    · rfl
    next entry hentry =>
      rw [workSourceEvent_empty, RunningLockMgr.view?_modifyEntry, proxyInner_update_view?]

end PowerMgr.RunningLock
