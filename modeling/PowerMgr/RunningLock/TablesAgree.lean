import PowerMgr.RunningLock.Loops

/-! # The proxy table and the lock table

`CreateRunningLock` enters a lock into `runningLocks_` and into `proxyMap_`, `ReleaseLock` takes it
out of both.  The first table keeps the lock a token already has, the second one is given the
process of the caller, so a token that is created again may end up in two places.

* `TablesAgree` — a token occurs in the proxy table exactly if its lock is not a proximity lock,
  then under the key of the lock's owner and nowhere else, and no key is left without tokens.
* `tablesAgree_createRunningLock_iff` — when creating a lock keeps the tables in agreement.
* `proxyMap_agrees` — runs in which registered tokens are only created again for the process that
  owns their lock keep the tables in agreement.
-/

namespace PowerMgr.RunningLock

open Std (TreeMap)
open Lib.TreeMap (getElem?_modify_eq getElem?_insert_eq getElem?_erase_eq)

namespace RunningLockMgr

structure TablesAgree (m : RunningLockMgr) : Prop where
  occurs_iff : ∀ key token, (m.entryAt? key token).isSome = true ↔
    ∃ lockInner, m.runningLocks[token]? = some lockInner ∧
      lockInner.param.type ≠ .proximityScreenControl ∧ lockInner.ownerKey = key
  not_empty : ∀ (key : String) (tokenWksMap : TokenWorkSourceMap),
    m.proxyMap[key]? = some tokenWksMap → tokenWksMap.isEmpty = false

/-! ## Where a token belongs -/

/-- The key under which the lock of a token belongs into the proxy table. -/
def home? (m : RunningLockMgr) (token : Token) : Option String :=
  (m.view? token).bind fun view => if view.type = .proximityScreenControl then none else some view.ownerKey

def NoEmptyKey (m : RunningLockMgr) : Prop :=
  ∀ (key : String) (tokenWksMap : TokenWorkSourceMap), m.proxyMap[key]? = some tokenWksMap → tokenWksMap.isEmpty = false

variable {m m' : RunningLockMgr}

theorem home?_eq_some {token : Token} {key : String} :
    m.home? token = some key ↔ ∃ lockInner, m.runningLocks[token]? = some lockInner ∧
      lockInner.param.type ≠ .proximityScreenControl ∧ lockInner.ownerKey = key := by
  simp only [home?, view?]
  cases m.runningLocks[token]? with
  | none => simp
  | some lockInner => simp [RunningLockInner.view]

theorem tablesAgree_iff : m.TablesAgree ↔
    (∀ key token, (m.entryAt? key token).isSome = true ↔ m.home? token = some key) ∧ m.NoEmptyKey := by
  constructor
  · intro h
    refine ⟨fun key token => ?_, h.not_empty⟩
    rw [h.occurs_iff, home?_eq_some]
  · intro h
    refine ⟨fun key token => ?_, h.2⟩
    rw [h.1, home?_eq_some]

theorem home?_congr (hview : m'.view? = m.view?) : m'.home? = m.home? := by
  funext token
  simp only [home?, hview]

theorem home?_of_update {token : Token} {view : LockView} (hfound : m.view? token = some view)
    (state : RunningLockState)
    (hview : m'.view? = Function.update m.view? token (some { view with state := state })) :
    m'.home? = m.home? := by
  funext other
  by_cases hsame : other = token
  · subst hsame
    simp [home?, hview, hfound]
  · simp [home?, hview, Function.update_of_ne hsame]

theorem noEmptyKey_modifyEntry (key : String) (token : Token) (f : WksEntry → WksEntry) (h : m.NoEmptyKey) :
    (m.modifyEntry key token f).NoEmptyKey := by
  intro key' tokenWksMap hfound
  simp only [modifyEntry, getElem?_modify_eq] at hfound
  split at hfound
  · obtain ⟨before, hbefore, rfl⟩ := Option.map_eq_some_iff.mp hfound
    rw [TreeMap.isEmpty_modify]
    exact h _ before hbefore
  · exact h key' tokenWksMap hfound

theorem noEmptyKey_congr (hmap : m'.proxyMap = m.proxyMap) (h : m.NoEmptyKey) : m'.NoEmptyKey := by
  intro key tokenWksMap hfound
  rw [hmap] at hfound
  exact h key tokenWksMap hfound

theorem tablesAgree_of_same (hhome : m'.home? = m.home?) (hmap : m'.proxyMap = m.proxyMap)
    (h : m.TablesAgree) : m'.TablesAgree := by
  rw [tablesAgree_iff] at h ⊢
  refine ⟨fun key token => ?_, noEmptyKey_congr hmap h.2⟩
  rw [entryAt?_congr hmap, hhome]
  exact h.1 key token

theorem tablesAgree_of_modified {key : String} {token : Token} {f : WksEntry → WksEntry}
    (hhome : m'.home? = m.home?) (hmap : m'.proxyMap = (m.modifyEntry key token f).proxyMap)
    (h : m.TablesAgree) : m'.TablesAgree := by
  rw [tablesAgree_iff] at h ⊢
  refine ⟨fun key' token' => ?_, noEmptyKey_congr hmap (noEmptyKey_modifyEntry key token f h.2)⟩
  rw [entryAt?_congr hmap, hhome, entryAt?_modifyEntry, ← h.1]
  split
  next hsame =>
    obtain ⟨rfl, rfl⟩ := hsame
    rw [Option.isSome_map]
  next => exact Iff.rfl

end RunningLockMgr

open RunningLockMgr

/-! ## Calls that move no lock -/

section Moves

variable {cfg : Config} {m : RunningLockMgr}

theorem tablesAgree_lock (env : Env) (token : Token) (h : m.TablesAgree) :
    (lock cfg env token m).1.TablesAgree := by
  refine tablesAgree_of_same ?_ (lock_proxyMap cfg env token m) h
  obtain hsame | ⟨view, hfound, -, -, hview⟩ := lock_view? cfg env token m
  · exact home?_congr hsame
  · exact home?_of_update hfound _ hview

theorem home?_unLock (cfg : Config) (env : Env) (token : Token) (name : String) (m : RunningLockMgr) :
    (unLock cfg env token name m).1.home? = m.home? := by
  obtain hsame | ⟨registered, lockInner, hfound, -, hview⟩ := unLock_view? cfg env token name m
  · exact home?_congr hsame
  · exact home?_of_update (m.view?_of_getElem? (getElem?_of_findLock hfound)) _ hview

theorem tablesAgree_unLock (env : Env) (token : Token) (name : String) (h : m.TablesAgree) :
    (unLock cfg env token name m).1.TablesAgree := by
  have hhome := home?_unLock cfg env token name m
  obtain hsame | ⟨registered, lockInner, -, -, hcleared⟩ := unLock_proxyMap cfg env token name m
  · exact tablesAgree_of_same hhome hsame h
  · exact tablesAgree_of_modified hhome hcleared h

theorem tablesAgree_proxyInner (env : Env) (token : Token) (bundleNames : String) (event : RunningLockEvent)
    (h : m.TablesAgree) : (proxyInner cfg env token bundleNames event m).TablesAgree := by
  cases event with
  | update =>
    exact tablesAgree_of_same (home?_congr (proxyInner_update_view? ..)) (proxyInner_update_proxyMap ..) h
  | proxy =>
    cases hfound : m.view? token with
    | none => rwa [proxyInner_of_unregistered _ _ _ _ _ hfound]
    | some view =>
      by_cases hstate : view.state = .disable
      · rw [proxyInner_proxy_of_disable _ _ _ _ _ hfound hstate]
        exact tablesAgree_of_same (home?_congr (m.view?_setBundleName token bundleNames)) rfl h
      · have hhome := home?_of_update hfound _ (proxyInner_proxy_view? cfg env token bundleNames m hfound hstate)
        obtain hsame | ⟨_, -, -, hcleared⟩ := proxyInner_proxy_proxyMap cfg env token bundleNames m
        · exact tablesAgree_of_same hhome hsame h
        · exact tablesAgree_of_modified hhome hcleared h
  | unproxy =>
    refine tablesAgree_of_same ?_ (proxyInner_unproxy_proxyMap ..) h
    obtain ⟨-, hsame⟩ | ⟨view, state, hfound, -, -, hview⟩ := proxyInner_unproxy_cases cfg env token bundleNames m
    · exact home?_congr hsame
    · exact home?_of_update hfound state hview

theorem tablesAgree_keptByProxying (cfg : Config) (env : Env) : KeptByProxying cfg env TablesAgree where
  modifyEntry m key token f h := tablesAgree_of_modified (home?_congr (m.view?_modifyEntry key token f)) rfl h
  proxyInner _ token bundleNames event h := tablesAgree_proxyInner env token bundleNames event h

end Moves

/-! ## Creating and releasing a lock -/

section Owners

variable {cfg : Config} {m : RunningLockMgr}

theorem noEmptyKey_addRunningLock (pid uid : Int) (token : Token) (h : m.NoEmptyKey) :
    (addRunningLock pid uid token m).NoEmptyKey := by
  have hinsert : ∀ filled : TokenWorkSourceMap, filled.isEmpty = false →
      ({ m with proxyMap := m.proxyMap.insert (assembleProxyKey pid uid) filled } : RunningLockMgr).NoEmptyKey := by
    intro filled hfilled key tokenWksMap hfound
    simp only [getElem?_insert_eq] at hfound
    split at hfound
    · cases hfound
      exact hfilled
    · exact h key tokenWksMap hfound
  simp only [addRunningLock]
  split
  · exact hinsert _ TreeMap.isEmpty_insert
  · exact hinsert _ TreeMap.isEmpty_insertIfNew

theorem noEmptyKey_removeRunningLock (pid uid : Int) (token : Token) (h : m.NoEmptyKey) :
    (removeRunningLock pid uid token m).NoEmptyKey := by
  simp only [removeRunningLock]
  split
  · exact h
  next tokenWksMap _ =>
    split
    · split
      · intro key tokenWksMap' hfound
        simp only [getElem?_erase_eq] at hfound
        split at hfound
        · cases hfound
        · exact h key tokenWksMap' hfound
      next hempty =>
        intro key tokenWksMap' hfound
        simp only [getElem?_insert_eq] at hfound
        split at hfound
        · cases hfound
          exact Bool.eq_false_iff.mpr hempty
        · exact h key tokenWksMap' hfound
    · exact h

/-- The key a lock created with these parameters belongs under. -/
def RunningLockParam.home? (param : RunningLockParam) : Option String :=
  if param.type = .proximityScreenControl then none else some (assembleProxyKey param.pid param.uid)

theorem home?_createRunningLock (token : Token) (param : RunningLockParam) (other : Token) :
    (createRunningLock token param m).home? other =
      if other = token ∧ m.view? token = none then param.home? else m.home? other := by
  simp only [home?, createRunningLock_view?]
  by_cases hsame : other = token
  · subst hsame
    rw [Function.update_self]
    cases m.view? other with
    | none => simp [RunningLockParam.home?, RunningLockInner.view, RunningLockInner.ownerKey]
    | some view => simp
  · simp [hsame]

/-- Whether a lock exists already or not, the proxy table gets an entry for the caller. -/
theorem entryAt?_createRunningLock (token : Token) (param : RunningLockParam) (key : String) (other : Token) :
    ((createRunningLock token param m).entryAt? key other).isSome = true ↔
      (param.home? = some key ∧ other = token) ∨ (m.entryAt? key other).isSome = true := by
  simp only [createRunningLock, RunningLockParam.home?]
  by_cases htype : param.type = .proximityScreenControl
  · simp [htype, RunningLockMgr.entryAt?]
  · rw [if_pos htype, if_neg htype, entryAt?_addRunningLock]
    by_cases hsame : assembleProxyKey param.pid param.uid = key ∧ token = other
    · simp [hsame]
    · rw [if_neg hsame, Option.some.injEq, eq_comm (a := other)]
      exact (or_iff_right hsame).symm

theorem noEmptyKey_createRunningLock (token : Token) (param : RunningLockParam) (h : m.NoEmptyKey) :
    (createRunningLock token param m).NoEmptyKey := by
  simp only [createRunningLock]
  split
  · exact noEmptyKey_addRunningLock _ _ _ h
  · exact h

/-- Creating a registered token again asks for no entry, or for the one its lock already has. -/
def KeepsOwner (m : RunningLockMgr) (token : Token) (param : RunningLockParam) : Prop :=
  ∀ lockInner, m.runningLocks[token]? = some lockInner →
    param.type = .proximityScreenControl ∨
      lockInner.param.type ≠ .proximityScreenControl ∧
        assembleProxyKey param.pid param.uid = lockInner.ownerKey

theorem keepsOwner_iff (token : Token) (param : RunningLockParam) :
    KeepsOwner m token param ↔
      ∀ key, m.view? token ≠ none → param.home? = some key → m.home? token = some key := by
  simp only [KeepsOwner, RunningLockParam.home?, home?, view?]
  cases m.runningLocks[token]? with
  | none => simp
  | some lockInner =>
    by_cases htype : param.type = .proximityScreenControl
    · simp [htype]
    · simp [htype, RunningLockInner.view, eq_comm]

/-- Creating a lock keeps the tables in agreement exactly if it keeps the owner of a lock that
is already registered. -/
theorem tablesAgree_createRunningLock_iff (token : Token) (param : RunningLockParam) (h : m.TablesAgree) :
    (createRunningLock token param m).TablesAgree ↔ KeepsOwner m token param := by
  rw [tablesAgree_iff] at h
  rw [tablesAgree_iff, keepsOwner_iff]
  constructor
  · intro hafter key hregistered hhome
    have hentered := (hafter.1 key token).mp (by simp [entryAt?_createRunningLock, hhome])
    rwa [home?_createRunningLock, if_neg fun hnew => hregistered hnew.2] at hentered
  · intro hkeeps
    refine ⟨fun key other => ?_, noEmptyKey_createRunningLock token param h.2⟩
    rw [entryAt?_createRunningLock, home?_createRunningLock, h.1]
    by_cases hsame : other = token
    · subst hsame
      cases hview : m.view? other with
      | none =>
        have hnowhere : m.home? other = none := by simp [home?, hview]
        simp [hnowhere]
      | some view =>
        simp only [reduceCtorEq, and_false, if_false, and_true]
        constructor
        · rintro (hhome | hhome)
          · exact hkeeps key (by simp [hview]) hhome
          · exact hhome
        · exact .inr
    · simp [hsame]

theorem home?_of_findLock {token registered : Token} {name key : String} {lockInner : RunningLockInner}
    (hfound : m.findLock token name = some (registered, lockInner)) (hhome : m.home? token = some key) :
    lockInner.param.type ≠ .proximityScreenControl ∧ lockInner.ownerKey = key := by
  obtain ⟨owned, howned, htype, hkey⟩ := home?_eq_some.mp hhome
  rw [findLock_of_registered howned] at hfound
  cases hfound
  exact ⟨htype, hkey⟩

theorem home?_erase (token other : Token) :
    ({ m with runningLocks := m.runningLocks.erase token } : RunningLockMgr).home? other =
      if other = token then none else m.home? other := by
  simp only [home?, view?, getElem?_erase_eq]
  by_cases hsame : other = token
  · simp [hsame]
  · simp [hsame, eq_comm (a := token)]

theorem home?_removeRunningLock (pid uid : Int) (token : Token) :
    (removeRunningLock pid uid token m).home? = m.home? := by
  obtain ⟨proxyMap, heq⟩ := removeRunningLock_eq pid uid token m
  rw [heq]
  rfl

theorem tablesAgree_releaseLock (env : Env) (token : Token) (name : String) (h : m.TablesAgree) :
    (releaseLock cfg env token name m).TablesAgree := by
  unfold releaseLock
  split
  · exact h
  next registered lockInner hfound =>
    have hagree : (unLock cfg env token "" m).1.TablesAgree := tablesAgree_unLock env token "" h
    have hunlocked := tablesAgree_iff.mp hagree
    have hhome := home?_unLock cfg env token "" m
    rw [hhome] at hunlocked
    rw [tablesAgree_iff]
    dsimp only
    split
    next htype =>
      refine ⟨fun key other => ?_, noEmptyKey_removeRunningLock _ _ _ hunlocked.2⟩
      rw [home?_removeRunningLock, home?_erase, hhome, entryAt?_removeRunningLock]
      by_cases hremoved : lockInner.ownerKey = key ∧ token = other
      · obtain ⟨rfl, rfl⟩ := hremoved
        simp [RunningLockInner.ownerKey]
      · rw [if_neg (by simpa [RunningLockInner.ownerKey] using hremoved)]
        refine (hunlocked.1 key other).trans ?_
        by_cases hother : other = token
        · -- The only entry the token can have is the one that was just removed.
          subst hother
          rw [if_pos rfl]
          refine iff_of_false (fun howned => ?_) fun hnone => by cases hnone
          exact hremoved ⟨(home?_of_findLock hfound howned).2, rfl⟩
        · rw [if_neg hother]
    next htype =>
      refine ⟨fun key other => ?_, hunlocked.2⟩
      rw [home?_erase, hhome]
      refine (hunlocked.1 key other).trans ?_
      by_cases hother : other = token
      · subst hother
        rw [if_pos rfl]
        refine iff_of_false (fun howned => ?_) fun hnone => by cases hnone
        exact htype (home?_of_findLock hfound howned).1
      · rw [if_neg hother]

end Owners

/-! ## Runs -/

/-- A registered token is only created again for the process that owns its lock. -/
def CreatesForOwner (m : RunningLockMgr) (call : ServiceCall × Env) : Prop :=
  match call.1 with
  | .op (.createRunningLock token param) => KeepsOwner m token param
  | _ => True

theorem tablesAgree_step {cfg : Config} {m : RunningLockMgr} (op : Op) (env : Env)
    (hok : CreatesForOwner m (.op op, env)) (h : m.TablesAgree) : (step cfg m (op, env)).TablesAgree := by
  have hkept := tablesAgree_keptByProxying cfg env
  cases op with
  | createRunningLock token param => exact (tablesAgree_createRunningLock_iff token param h).mpr hok
  | lock token => exact tablesAgree_lock env token h
  | unLock token name => exact tablesAgree_unLock env token name h
  | releaseLock token name => exact tablesAgree_releaseLock env token name h
  | updateWorkSource token workSources => exact hkept.updateWorkSource token workSources h
  | proxyRunningLock isProxied pid uid => exact hkept.proxyRunningLock isProxied pid uid h
  | resetRunningLocks => exact hkept.resetRunningLocks h
  | timerUnLock token => exact tablesAgree_unLock env token "" (hkept.updateWorkSource token ∅ h)

/-- The proxy table and the lock table agree in every state reached by calls of any kind, if
registered tokens are only created again for the process that owns their lock. -/
theorem proxyMap_agrees {cfg : Config} {m : RunningLockMgr}
    (hreach : (serviceSystem cfg).Reach CreatesForOwner m) : m.TablesAgree := by
  refine hreach.invariant (fun m hinit => ?_) fun m m' call hm hok hnext => ?_
  · cases hinit
    exact { occurs_iff := fun key token => by simp [RunningLockMgr.entryAt?]
            not_empty := fun key tokenWksMap hfound => by simp at hfound }
  · cases hnext
    obtain ⟨op | token, env⟩ := call
    · exact tablesAgree_step op env hok hm
    · exact tablesAgree_releaseLock env token "" (tablesAgree_unLock env token "" hm)

/-- The lock of a client in process `pid`. -/
def clientLock (pid : Int) : RunningLockParam := { name := "client", type := .backgroundTask, pid := pid, uid := 20 }

/-- A client that creates its lock again, as it does when it recovers. -/
def clientRecovers : List (ServiceCall × Env) :=
  [(.op (.createRunningLock 1 (clientLock 10)), {}), (.op (.createRunningLock 1 (clientLock 10)), {})]

theorem proxyMap_agrees_clientRecovers :
    ∃ m, (serviceSystem {}).run {} clientRecovers = some m ∧ (m.entryAt? "10_20" 1).isSome = true ∧
      m.TablesAgree := by
  have hcreated : (serviceSystem {}).Reach CreatesForOwner (serviceStep {} {} (clientRecovers.get ⟨0, by decide⟩)) :=
    .step (clientRecovers.get ⟨0, by decide⟩) (.init rfl) (fun lockInner hfound => by simp at hfound) rfl
  have hrecovered := hcreated.step (clientRecovers.get ⟨1, by decide⟩) (fun lockInner hfound => by
    have honly : (serviceStep {} {} (clientRecovers.get ⟨0, by decide⟩)).runningLocks[(1 : Token)]? =
        some { param := clientLock 10 } := by decide
    rw [honly] at hfound
    cases hfound
    exact .inr ⟨by decide, rfl⟩) rfl
  exact ⟨_, rfl, by decide, proxyMap_agrees hrecovered⟩

/-- A token created again by another process is entered twice. -/
theorem proxyMap_disagrees : ¬∀ m, (serviceSystem {}).Reachable m → m.TablesAgree := by
  intro hagree
  have hrun : ∃ m, (serviceSystem {}).run {}
      [(.op (.createRunningLock 1 (clientLock 10)), {}), (.op (.createRunningLock 1 (clientLock 11)), {})] = some m ∧
      (m.entryAt? "11_20" 1).isSome = true ∧
      m.runningLocks[(1 : Token)]?.map RunningLockInner.ownerKey = some "10_20" :=
    ⟨_, rfl, by decide, by decide⟩
  obtain ⟨m, hrun, hentry, howner⟩ := hrun
  have hm := hagree m (Lib.System.reachable_of_run _ (.init rfl) hrun)
  obtain ⟨lockInner, hfound, -, hkey⟩ := (hm.occurs_iff "11_20" 1).mp hentry
  rw [hfound, Option.map_some, hkey] at howner
  exact absurd howner (by decide)

end PowerMgr.RunningLock
