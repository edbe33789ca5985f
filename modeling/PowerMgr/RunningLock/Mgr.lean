import PowerMgr.Types
import PowerMgr.Lib.System
import PowerMgr.Lib.TreeMap

/-! # Running locks: the manager and its proxy table

Embedding of `RunningLockMgr` (`running_lock_mgr.cpp`) and `RunningLockProxy`
(`running_lock_proxy.cpp`).  The two classes call each other — proxying a lock
unlocks it through the manager, and unlocking a proxied lock resets its proxy
entry — so they are one state here.

* `RunningLockMgr` — `runningLocks_`, `lockCounters_`, `unSceneLockLists_` and
  `proxyMap_`, plus what the counters' actions have switched on.
* `lock`, `unLock` — the two client calls.
* `proxyInner`, `increaseProxyCnt`, `decreaseProxyCnt`, `resetRunningLocks`,
  `updateWorkSource` — the proxy table's operations with their re-entrant calls.
* `system`, `serviceSystem` — runs of calls, without and with clients that die.

Every operation runs under `lockMutex_` of the service, so operations are atomic.
Log lines, statistics events and change notifications are left out.
-/

namespace PowerMgr.RunningLock

open Std (TreeMap)

/-- The remote object of a client; `runningLocks_` orders its keys by address. -/
abbrev Token := Nat

structure RunningLockParam where
  lockid : Nat := 0
  name : String := ""
  bundleName : String := ""
  type : RunningLockType := .butt
  timeoutMs : Int := -1
  pid : Int := 0
  uid : Int := 0
  displayId : Nat := 2 ^ 64 - 1
  typeHdi : RunningLockType := .butt
  deriving DecidableEq, Repr

inductive RunningLockState where
  | disable
  | enable
  | proxied
  | unproxiedRestore
  deriving DecidableEq, Repr

/-- `RunningLockEvent`: what the proxy table asks the manager to do with a lock. -/
inductive RunningLockEvent where
  | update
  | proxy
  | unproxy
  deriving DecidableEq, Repr

/-- `RunningLockInner`: one registered lock. -/
structure RunningLockInner where
  param : RunningLockParam
  state : RunningLockState := .disable
  deriving DecidableEq, Repr

def RunningLockInner.isProxied (lockInner : RunningLockInner) : Bool :=
  lockInner.state = .proxied || lockInner.state = .unproxiedRestore

/-- `RunningLockInfo`, as `FillAppRunningLockInfo` stores it. -/
structure RunningLockInfo where
  name : String
  bundleName : String
  type : RunningLockType
  pid : Int
  uid : Int
  displayId : Nat
  deriving DecidableEq, Repr

/-- `WksMap`: work-source uid to its bundle name and its proxied flag. -/
abbrev WksMap := TreeMap Int (String × Bool)

/-- The value of a token in `TokenWorkSourceMap`: the work sources of the lock and how many
of them are proxied.  The count is an `int32_t` that never exceeds the size of a map built
from one IPC vector, which the stub caps far below `2 ^ 31`. -/
structure WksEntry where
  wks : WksMap
  proxyCount : Int

abbrev TokenWorkSourceMap := TreeMap Token WksEntry

abbrev RunningLockProxyMap := TreeMap String TokenWorkSourceMap

/-- The manager's and the proxy table's state.  `lockCounters` gives the `uint32_t` value of
the counter of a type; `activated` is what the last successful `activate_` of that counter
switched; `coordinated` is the flag the state action keeps for coordination locks. -/
structure RunningLockMgr where
  runningLocks : TreeMap Token RunningLockInner := ∅
  lockCounters : RunningLockType → UInt32 := fun _ => 0
  activated : RunningLockType → Bool := fun _ => false
  coordinated : Bool := false
  unSceneLockLists : TreeMap String RunningLockInfo := ∅
  proxyMap : RunningLockProxyMap := ∅

/-- Build switches: `HAS_SENSORS_SENSOR_PART` and `POWER_MANAGER_AUDIO_LOCK_UNPROXY`. -/
structure Config where
  hasSensors : Bool := true
  audioLockUnproxy : Bool := false
  deriving DecidableEq, Repr

/-- What the rest of the system answers during one operation: the power state that
`IsValidType` reads and whether an HDI lock (`true`) or unlock (`false`) succeeds.  Both may
depend on the moment they are asked, hence on the whole state. -/
structure Env where
  powerState : RunningLockMgr → PowerState := fun _ => .awake
  hdi : RunningLockMgr → Bool → RunningLockParam → Bool := fun _ _ _ => true

/-- Every HDI lock and unlock of the operation succeeds. -/
def Env.HdiSucceeds (env : Env) : Prop :=
  ∀ m active param, env.hdi m active param = true

namespace RunningLockMgr

/-! ## Elementary updates -/

def setCounter (type : RunningLockType) (value : UInt32) (m : RunningLockMgr) : RunningLockMgr :=
  { m with lockCounters := fun type' => if type' = type then value else m.lockCounters type' }

def setActivated (type : RunningLockType) (active : Bool) (m : RunningLockMgr) : RunningLockMgr :=
  { m with activated := fun type' => if type' = type then active else m.activated type' }

def setState (token : Token) (state : RunningLockState) (m : RunningLockMgr) : RunningLockMgr :=
  { m with runningLocks := m.runningLocks.modify token fun lockInner => { lockInner with state := state } }

def setBundleName (token : Token) (bundleName : String) (m : RunningLockMgr) : RunningLockMgr :=
  { m with runningLocks := m.runningLocks.modify token fun lockInner =>
      { lockInner with param := { lockInner.param with bundleName := bundleName } } }

/-- The proxy entry of a token under a proxy key. -/
def entryAt? (m : RunningLockMgr) (key : String) (token : Token) : Option WksEntry :=
  m.proxyMap[key]?.bind fun tokenWksMap => tokenWksMap[token]?

def modifyEntry (key : String) (token : Token) (f : WksEntry → WksEntry) (m : RunningLockMgr) :
    RunningLockMgr :=
  { m with proxyMap := m.proxyMap.modify key fun tokenWksMap => tokenWksMap.modify token f }

/-- The tokens entered under a key, in map order. -/
def tokensOf (m : RunningLockMgr) (key : String) : List Token :=
  (m.proxyMap[key]?.map TreeMap.keys).getD []

/-- All positions of the proxy table in the order the nested loops visit them. -/
def positions (m : RunningLockMgr) : List (String × Token) :=
  m.proxyMap.toList.flatMap fun proxyItem => proxyItem.2.keys.map fun token => (proxyItem.1, token)

end RunningLockMgr

/-- `RunningLockProxy::AssembleProxyKey`. -/
def assembleProxyKey (pid uid : Int) : String :=
  toString pid ++ "_" ++ toString uid

def RunningLockInner.ownerKey (lockInner : RunningLockInner) : String :=
  assembleProxyKey lockInner.param.pid lockInner.param.uid

/-! ## Lock counters

`LockCounter::Increase` and `Decrease` over the counter's own `activate_`.  The counters of
idle and coordination locks pass their activation on to the background-task counter. -/

/-- The action of a counter: the new state and whether it returned `RUNNINGLOCK_SUCCESS`. -/
abbrev Activate := Bool → RunningLockParam → RunningLockMgr → RunningLockMgr × Bool

def increaseWith (activate : Activate) (type : RunningLockType) (param : RunningLockParam)
    (m : RunningLockMgr) : RunningLockMgr × Bool :=
  let m := m.setCounter type (m.lockCounters type + 1)
  if m.lockCounters type = 1 then
    let (m, success) := activate true param m
    if success then (m.setActivated type true, true)
    else (m.setCounter type (m.lockCounters type - 1), false)
  else (m, true)

def decreaseWith (activate : Activate) (type : RunningLockType) (param : RunningLockParam)
    (m : RunningLockMgr) : RunningLockMgr × Bool :=
  let m := m.setCounter type (m.lockCounters type - 1)
  if m.lockCounters type = 0 then
    let (m, success) := activate false param m
    if success then (m.setActivated type false, true)
    else (m.setCounter type (m.lockCounters type + 1), false)
  else (m, true)

/-- The action of `InitLocksTypeBackground`: hold or release the lock in the HDI. -/
def activateBackground (env : Env) : Activate := fun active param m =>
  (m, env.hdi m active param)

/-- `InitLocksTypeBackgroundUserIdle`. -/
def activateUserIdle (env : Env) : Activate := fun active param m =>
  let backgroundLockParam := { param with name := "BACKGROUND_USER_IDLE", typeHdi := .backgroundTask }
  if active then increaseWith (activateBackground env) .backgroundTask backgroundLockParam m
  else decreaseWith (activateBackground env) .backgroundTask backgroundLockParam m

/-- `InitLocksTypeCoordination`. -/
def activateCoordination (env : Env) : Activate := fun active param m =>
  let backgroundLockParam := { param with name := "RUNNINGLOCK_COORDINATION", typeHdi := .backgroundTask }
  if active then
    let (m, success) := increaseWith (activateBackground env) .backgroundTask backgroundLockParam m
    ({ m with coordinated := true }, success)
  else
    decreaseWith (activateBackground env) .backgroundTask backgroundLockParam { m with coordinated := false }

/-- The `activate_` of each counter.  The screen and proximity actions change the state
machine and the sensor, never the locks, and succeed while the service is up. -/
def activate (env : Env) : RunningLockType → Activate
  | .backgroundUserIdle => activateUserIdle env
  | .coordination => activateCoordination env
  | .screen | .proximityScreenControl => fun _ _ m => (m, true)
  | _ => activateBackground env

/-- Whether `lockCounters_` holds a counter of this type (`InitLocks`). -/
def hasCounter (cfg : Config) : RunningLockType → Bool
  | .background | .butt => false
  | .proximityScreenControl => cfg.hasSensors
  | _ => true

/-- `LockCounter::Increase` of the counter of `type`. -/
def increase (env : Env) (type : RunningLockType) : RunningLockParam → RunningLockMgr → RunningLockMgr × Bool :=
  increaseWith (activate env type) type

/-- `LockCounter::Decrease` of the counter of `type`. -/
def decrease (env : Env) (type : RunningLockType) : RunningLockParam → RunningLockMgr → RunningLockMgr × Bool :=
  decreaseWith (activate env type) type

/-! ## Client calls -/

/-- `RunningLockMgr::GetRunningLockInnerByName`: the last registered lock of that name. -/
def RunningLockMgr.getRunningLockInnerByName (m : RunningLockMgr) (name : String) :
    Option (Token × RunningLockInner) :=
  m.runningLocks.toList.foldl
    (fun found item => if item.2.param.name = name then some item else found) none

/-- The lock a call acts on: the one registered for the token, else one found by name.  The
token it is registered under stands for the shared object. -/
def RunningLockMgr.findLock (m : RunningLockMgr) (token : Token) (name : String) :
    Option (Token × RunningLockInner) :=
  match m.runningLocks[token]? with
  | some lockInner => some (token, lockInner)
  | none => m.getRunningLockInnerByName name

/-- Clear every proxied flag of an entry and its count. -/
def WksEntry.clear (entry : WksEntry) : WksEntry :=
  { wks := entry.wks.map fun _ wks => (wks.1, false), proxyCount := 0 }

/-- `RunningLockProxy::UpdateProxyState`; the source ignores the requested state. -/
def updateProxyState (pid uid : Int) (token : Token) (_state : Bool) (m : RunningLockMgr) :
    RunningLockMgr :=
  m.modifyEntry (assembleProxyKey pid uid) token WksEntry.clear

def fillAppRunningLockInfo (param : RunningLockParam) : RunningLockInfo where
  name := param.name
  bundleName := param.bundleName
  type := param.type
  pid := param.pid
  uid := param.uid
  displayId := param.displayId

/-- `RunningLockMgr::UpdateUnSceneLockLists`. -/
def updateUnSceneLockLists (param : RunningLockParam) (fill : Bool) (m : RunningLockMgr) : RunningLockMgr :=
  let key := toString param.lockid
  if fill then { m with unSceneLockLists := m.unSceneLockLists.insertIfNew key (fillAppRunningLockInfo param) }
  else { m with unSceneLockLists := m.unSceneLockLists.erase key }

/-- Screen locks, and only these, are kept in `unSceneLockLists_` while they are enabled. -/
def listScreenLock (param : RunningLockParam) (fill : Bool) (m : RunningLockMgr) : RunningLockMgr :=
  if param.type = .screen then updateUnSceneLockLists param fill m else m

/-- `RunningLockMgr::IsValidType`. -/
def isValidType (state : PowerState) (type : RunningLockType) : Bool :=
  match state with
  | .sleep | .hibernate => type ≠ .coordination
  | _ => true

/-- `RunningLockMgr::ValidateLockForEnable`: the lock to enable, if it may be enabled. -/
def validateLockForEnable (cfg : Config) (env : Env) (token : Token) (m : RunningLockMgr) :
    Option RunningLockInner :=
  match m.runningLocks[token]? with
  | none => none
  | some lockInner =>
    if lockInner.isProxied then none
    else if !isValidType (env.powerState m) lockInner.param.type then none
    else if lockInner.state = .enable then none
    else if !hasCounter cfg lockInner.param.type then none
    else some lockInner

/-- `RunningLockMgr::Lock`. -/
def lock (cfg : Config) (env : Env) (token : Token) (m : RunningLockMgr) : RunningLockMgr × Bool :=
  match validateLockForEnable cfg env token m with
  | none => (m, false)
  | some lockInner =>
    let param := lockInner.param
    let (m, success) := increase env param.type param m
    if !success then (m, false)
    else ((listScreenLock param true m).setState token .enable, true)

/-- `RunningLockMgr::UnLock`. -/
def unLock (cfg : Config) (env : Env) (token : Token) (name : String) (m : RunningLockMgr) :
    RunningLockMgr × Bool :=
  match m.findLock token name with
  | none => (m, false)
  | some (registered, lockInner) =>
    let param := lockInner.param
    let m := if lockInner.isProxied then updateProxyState param.pid param.uid token false m else m
    if lockInner.state = .disable then (m, false)
    else if !hasCounter cfg param.type then (m, false)
    else
      let (m, success) := decrease env param.type param m
      if !success then (m, false)
      else ((listScreenLock param false m).setState registered .disable, true)

/-! ## Proxying one lock -/

/-- `RunningLockMgr::LockInnerByProxy`. -/
def lockInnerByProxy (cfg : Config) (env : Env) (token : Token) (lockInner : RunningLockInner)
    (m : RunningLockMgr) : RunningLockMgr :=
  if !lockInner.isProxied then m
  else if lockInner.state = .proxied then (lock cfg env token (m.setState token .disable)).1
  else m

/-- `RunningLockMgr::UnlockInnerByProxy`: whatever `UnLock` returns, the lock ends up proxied. -/
def unlockInnerByProxy (cfg : Config) (env : Env) (token : Token) (lockInner : RunningLockInner)
    (m : RunningLockMgr) : RunningLockMgr :=
  if lockInner.state = .disable then m
  else (unLock cfg env token "" m).1.setState token .proxied

/-- `RunningLockProxy::ProxyInner`. -/
def proxyInner (cfg : Config) (env : Env) (token : Token) (bundleNames : String) (event : RunningLockEvent)
    (m : RunningLockMgr) : RunningLockMgr :=
  match m.runningLocks[token]? with
  | none => m
  | some lockInner =>
    let m := m.setBundleName token bundleNames
    match event with
    | .update => m
    | .proxy => unlockInnerByProxy cfg env token lockInner m
    | .unproxy => lockInnerByProxy cfg env token lockInner m

/-! ## The proxy table -/

/-- `RunningLockProxy::AddRunningLock`: an entry without work sources, unless there is one. -/
def addRunningLock (pid uid : Int) (token : Token) (m : RunningLockMgr) : RunningLockMgr :=
  let proxyKey := assembleProxyKey pid uid
  match m.proxyMap[proxyKey]? with
  | none => { m with proxyMap := m.proxyMap.insert proxyKey ((∅ : TokenWorkSourceMap).insert token ⟨∅, 0⟩) }
  | some tokenWksMap =>
    { m with proxyMap := m.proxyMap.insert proxyKey (tokenWksMap.insertIfNew token ⟨∅, 0⟩) }

/-- `RunningLockProxy::RemoveRunningLock`: a key without tokens is dropped. -/
def removeRunningLock (pid uid : Int) (token : Token) (m : RunningLockMgr) : RunningLockMgr :=
  let proxyKey := assembleProxyKey pid uid
  match m.proxyMap[proxyKey]? with
  | none => m
  | some tokenWksMap =>
    if token ∈ tokenWksMap then
      let tokenWksMap := tokenWksMap.erase token
      if tokenWksMap.isEmpty then { m with proxyMap := m.proxyMap.erase proxyKey }
      else { m with proxyMap := m.proxyMap.insert proxyKey tokenWksMap }
    else m

/-- `std::string::pop_back` of a list of names, each followed by a blank. -/
def popBack (names : String) : String :=
  String.ofList names.toList.dropLast

/-- `RunningLockProxy::MergeBundleName`: the names of the work sources that are not proxied. -/
def mergeBundleName (wksMap : WksMap) : String :=
  popBack (wksMap.toList.foldl
    (fun names wks => if wks.2.2 = false then names ++ wks.2.1 ++ " " else names) "")

/-- The locals of the loop of `RunningLockProxy::UpdateWorkSource`. -/
structure WorkSourceScan where
  workSourcesState : WksMap := ∅
  bundleName : String := ""
  proxyCount : Int := 0

/-- One iteration: a work source the lock already had keeps its flag, a new one has none. -/
def WorkSourceScan.visit (workSourceMap : WksMap) (scan : WorkSourceScan) (wks : Int × String) :
    WorkSourceScan :=
  match workSourceMap[wks.1]? with
  | some known =>
    { workSourcesState := scan.workSourcesState.insertIfNew wks.1 known
      bundleName := if known.2 then scan.bundleName else scan.bundleName ++ known.1 ++ " "
      proxyCount := if known.2 then scan.proxyCount + 1 else scan.proxyCount }
  | none =>
    { workSourcesState := scan.workSourcesState.insertIfNew wks.1 (wks.2, false)
      bundleName := scan.bundleName ++ wks.2 ++ " "
      proxyCount := scan.proxyCount }

def scanWorkSources (workSourceMap : WksMap) (workSources : TreeMap Int String) : WorkSourceScan :=
  workSources.toList.foldl (WorkSourceScan.visit workSourceMap) {}

/-- The event `RunningLockProxy::UpdateWorkSource` raises for the lock. -/
def workSourceEvent (entry : WksEntry) (scan : WorkSourceScan) : RunningLockEvent :=
  let isProxyed := entry.proxyCount ≠ 0 ∧ entry.proxyCount = entry.wks.size
  let wksCount : Int := scan.workSourcesState.size
  if isProxyed ∧ wksCount > scan.proxyCount then .unproxy
  else if ¬isProxyed ∧ wksCount > 0 ∧ wksCount = scan.proxyCount then .proxy
  else .update

/-- `RunningLockProxy::UpdateWorkSource`; the entry is overwritten after the lock was told. -/
def updateWorkSourceProxy (cfg : Config) (env : Env) (pid uid : Int) (token : Token)
    (workSources : TreeMap Int String) (m : RunningLockMgr) : RunningLockMgr :=
  let proxyKey := assembleProxyKey pid uid
  match m.entryAt? proxyKey token with
  | none => m
  | some entry =>
    let scan := scanWorkSources entry.wks workSources
    let m := proxyInner cfg env token (popBack scan.bundleName) (workSourceEvent entry scan) m
    m.modifyEntry proxyKey token fun _ =>
      { wks := scan.workSourcesState, proxyCount := scan.proxyCount }

/-- `RunningLockProxy::GetRunningLockName`. -/
def RunningLockMgr.getRunningLockName (m : RunningLockMgr) (token : Token) : String :=
  (m.runningLocks[token]?.map fun lockInner => lockInner.param.name).getD ""

/-- `name.find(part) != npos`. -/
def nameContains (name part : String) : Bool :=
  decide (part.toList <:+: name.toList)

def offloadRunningName : String := "AudioOffloadBackgroundPlay"

def fastRunningName : String := "AudioFastBackgroundPlay"

/-- Flag every work source of an entry as proxied, as the first loop of `IncreaseProxyCnt` does. -/
def WksEntry.flagAll (entry : WksEntry) : WksEntry :=
  { wks := entry.wks.map fun _ wks => (wks.1, true), proxyCount := entry.wks.size }

/-- First loop of `IncreaseProxyCnt`: one lock of the proxied process. -/
def increaseOwned (cfg : Config) (env : Env) (proxyKey : String) (m : RunningLockMgr) (token : Token) :
    RunningLockMgr :=
  proxyInner cfg env token "" .proxy (m.modifyEntry proxyKey token WksEntry.flagAll)

/-- Flag one work source as proxied. -/
def WksEntry.raise (entry : WksEntry) (uid : Int) (bundleName : String) : WksEntry :=
  { wks := entry.wks.insert uid (bundleName, true), proxyCount := entry.proxyCount + 1 }

/-- Clear the flag of one work source; `lower` is how the count follows. -/
def WksEntry.lowerWith (lower : Int → Int) (entry : WksEntry) (uid : Int) (bundleName : String) : WksEntry :=
  { wks := entry.wks.insert uid (bundleName, false), proxyCount := lower entry.proxyCount }

/-- The locks that the second loop of `IncreaseProxyCnt` passes over. -/
def skipsIncrease (cfg : Config) (m : RunningLockMgr) (token : Token) : Bool :=
  nameContains (m.getRunningLockName token) offloadRunningName ||
    (cfg.audioLockUnproxy && nameContains (m.getRunningLockName token) fastRunningName)

/-- Second loop of `IncreaseProxyCnt`: one lock that may hold `uid` as a work source. -/
def increaseWorkSource (cfg : Config) (env : Env) (uid : Int) (m : RunningLockMgr)
    (position : String × Token) : RunningLockMgr :=
  let (proxyKey, token) := position
  if skipsIncrease cfg m token then m
  else
    match m.entryAt? proxyKey token with
    | none => m
    | some entry =>
      match entry.wks[uid]? with
      | some (bundleName, false) =>
        let entry := entry.raise uid bundleName
        let m := m.modifyEntry proxyKey token fun _ => entry
        if entry.proxyCount = entry.wks.size then proxyInner cfg env token "" .proxy m
        else proxyInner cfg env token (mergeBundleName entry.wks) .update m
      | _ => m

/-- `RunningLockProxy::IncreaseProxyCnt`. -/
def increaseProxyCnt (cfg : Config) (env : Env) (pid uid : Int) (m : RunningLockMgr) : RunningLockMgr :=
  let proxyKey := assembleProxyKey pid uid
  let m := (m.tokensOf proxyKey).foldl (increaseOwned cfg env proxyKey) m
  m.positions.foldl (increaseWorkSource cfg env uid) m

/-- First loop of `DecreaseProxyCnt`: one lock of the process. -/
def decreaseOwned (cfg : Config) (env : Env) (proxyKey : String) (m : RunningLockMgr) (token : Token) :
    RunningLockMgr :=
  let m := m.modifyEntry proxyKey token WksEntry.clear
  let bundleNames := ((m.entryAt? proxyKey token).map fun entry => mergeBundleName entry.wks).getD ""
  proxyInner cfg env token bundleNames .unproxy m

/-- Second loop of `DecreaseProxyCnt`, over the way it lowers the count. -/
def decreaseWorkSourceWith (lower : Int → Int) (cfg : Config) (env : Env) (uid : Int) (m : RunningLockMgr)
    (position : String × Token) : RunningLockMgr :=
  let (proxyKey, token) := position
  if nameContains (m.getRunningLockName token) offloadRunningName then m
  else
    match m.entryAt? proxyKey token with
    | none => m
    | some entry =>
      match entry.wks[uid]? with
      | some (bundleName, true) =>
        let entry := entry.lowerWith lower uid bundleName
        let m := m.modifyEntry proxyKey token fun _ => entry
        let event := if entry.proxyCount = (entry.wks.size : Int) - 1 then RunningLockEvent.unproxy else .update
        proxyInner cfg env token (mergeBundleName entry.wks) event m
      | _ => m

def decreaseProxyCntWith (lower : Int → Int) (cfg : Config) (env : Env) (pid uid : Int)
    (m : RunningLockMgr) : RunningLockMgr :=
  let proxyKey := assembleProxyKey pid uid
  let m := (m.tokensOf proxyKey).foldl (decreaseOwned cfg env proxyKey) m
  m.positions.foldl (decreaseWorkSourceWith lower cfg env uid) m

/-- `RunningLockProxy::DecreaseProxyCnt`: the count is lowered with `std::max(0, count - 1)`. -/
def decreaseProxyCnt : Config → Env → Int → Int → RunningLockMgr → RunningLockMgr :=
  decreaseProxyCntWith fun count => max 0 (count - 1)

/-- One iteration of `RunningLockProxy::ResetRunningLocks`: the flags are cleared before the
lock is told, the count after. -/
def resetRunningLock (cfg : Config) (env : Env) (m : RunningLockMgr) (position : String × Token) :
    RunningLockMgr :=
  let (proxyKey, token) := position
  let m := m.modifyEntry proxyKey token fun entry => { entry.clear with proxyCount := entry.proxyCount }
  let bundleNames := ((m.entryAt? proxyKey token).map fun entry => mergeBundleName entry.wks).getD ""
  let m := proxyInner cfg env token bundleNames .unproxy m
  m.modifyEntry proxyKey token fun entry => { entry with proxyCount := 0 }

/-- `RunningLockProxy::ResetRunningLocks`, as `RunningLockMgr::ResetRunningLocks` calls it. -/
def resetRunningLocks (cfg : Config) (env : Env) (m : RunningLockMgr) : RunningLockMgr :=
  m.positions.foldl (resetRunningLock cfg env) m

/-! ## The manager's remaining calls -/

/-- `RunningLockMgr::CreateRunningLock`: a token that is registered keeps its lock, but the
proxy entry is added for the caller in either case. -/
def createRunningLock (token : Token) (param : RunningLockParam) (m : RunningLockMgr) : RunningLockMgr :=
  let m := { m with runningLocks := m.runningLocks.insertIfNew token { param := param } }
  if param.type ≠ .proximityScreenControl then addRunningLock param.pid param.uid token m else m

/-- `RunningLockMgr::ReleaseLock`. -/
def releaseLock (cfg : Config) (env : Env) (token : Token) (name : String) (m : RunningLockMgr) :
    RunningLockMgr :=
  match m.findLock token name with
  | none => m
  | some (_, lockInner) =>
    let m := (unLock cfg env token "" m).1
    let m := { m with runningLocks := m.runningLocks.erase token }
    if lockInner.param.type ≠ .proximityScreenControl then
      removeRunningLock lockInner.param.pid lockInner.param.uid token m
    else m

/-- `RunningLockMgr::UpdateWorkSource`. -/
def updateWorkSource (cfg : Config) (env : Env) (token : Token) (workSources : TreeMap Int String)
    (m : RunningLockMgr) : RunningLockMgr :=
  match m.runningLocks[token]? with
  | none => m
  | some lockInner =>
    updateWorkSourceProxy cfg env lockInner.param.pid lockInner.param.uid token workSources m

/-- `RunningLockMgr::ProxyRunningLock`; `VALID_PID_LIMIT` is `1`. -/
def proxyRunningLock (cfg : Config) (env : Env) (isProxied : Bool) (pid uid : Int) (m : RunningLockMgr) :
    RunningLockMgr :=
  if pid < 1 then m
  else if isProxied then increaseProxyCnt cfg env pid uid m
  else decreaseProxyCnt cfg env pid uid m

/-- The task `PowerMgrService::Lock` registers for a lock with a time-out. -/
def timerUnLock (cfg : Config) (env : Env) (token : Token) (m : RunningLockMgr) : RunningLockMgr :=
  (unLock cfg env token "" (updateWorkSource cfg env token ∅ m)).1

/-- `PowerMgrService::ForceUnLock`: the remote object of a client died. -/
def forceUnLock (cfg : Config) (env : Env) (token : Token) (m : RunningLockMgr) : RunningLockMgr :=
  releaseLock cfg env token "" (unLock cfg env token "" m).1

/-! ## Runs -/

/-- The calls of the running-lock service. -/
inductive Op where
  | createRunningLock (token : Token) (param : RunningLockParam)
  | lock (token : Token)
  | unLock (token : Token) (name : String)
  | releaseLock (token : Token) (name : String)
  | updateWorkSource (token : Token) (workSources : TreeMap Int String)
  | proxyRunningLock (isProxied : Bool) (pid uid : Int)
  | resetRunningLocks
  | timerUnLock (token : Token)

/-- One call, with the answers it gets from the rest of the system. -/
def step (cfg : Config) (m : RunningLockMgr) (call : Op × Env) : RunningLockMgr :=
  match call.1 with
  | .createRunningLock token param => createRunningLock token param m
  | .lock token => (lock cfg call.2 token m).1
  | .unLock token name => (unLock cfg call.2 token name m).1
  | .releaseLock token name => releaseLock cfg call.2 token name m
  | .updateWorkSource token workSources => updateWorkSource cfg call.2 token workSources m
  | .proxyRunningLock isProxied pid uid => proxyRunningLock cfg call.2 isProxied pid uid m
  | .resetRunningLocks => resetRunningLocks cfg call.2 m
  | .timerUnLock token => timerUnLock cfg call.2 token m

/-- The running-lock service as a transition system, from the state after `Init`. -/
def system (cfg : Config) : Lib.System RunningLockMgr (Op × Env) where
  init m := m = {}
  next m call := some (step cfg m call)

/-- The calls of the service together with the death of a client. -/
inductive ServiceCall where
  | op (op : Op)
  | forceUnLock (token : Token)

def serviceStep (cfg : Config) (m : RunningLockMgr) (call : ServiceCall × Env) : RunningLockMgr :=
  match call.1 with
  | .op op => step cfg m (op, call.2)
  | .forceUnLock token => forceUnLock cfg call.2 token m

/-- The running-lock service whose clients may also die. -/
def serviceSystem (cfg : Config) : Lib.System RunningLockMgr (ServiceCall × Env) where
  init m := m = {}
  next m call := some (serviceStep cfg m call)

end PowerMgr.RunningLock
