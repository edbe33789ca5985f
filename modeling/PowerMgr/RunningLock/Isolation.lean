import PowerMgr.RunningLock.ScreenLocks
import Mathlib.Data.List.Induction

/-! # What one client can do to the lock of another

Clients are told apart by their tokens, but `UnLock` and `ReleaseLock` look for a lock by name when
the token is not registered, and names are neither unique nor secret.

* `findLock_other` — a call reaches the lock of another client only through the name it searches
  by: its token is not registered, and the lock is the last one registered under that name.
* `clients_isolated` — a call that does not reach a lock leaves it, its work sources and its places
  in the tables as they were; one that does changes no more than its state and its listing.
-/

namespace PowerMgr.RunningLock

open Std (TreeMap)
open Lib.TreeMap (getElem?_modify_eq getElem?_insert_eq getElem?_erase_eq getElem?_insertIfNew_eq)

/-! ## The lock found by name -/

section ByName

theorem foldl_findByName_eq_some (name : String) (items : List (Token × RunningLockInner))
    (hsorted : items.Pairwise fun item item' => item.1 < item'.1) (item : Token × RunningLockInner) :
    items.foldl (fun found item => if item.2.param.name = name then some item else found) none = some item ↔
      item ∈ items ∧ item.2.param.name = name ∧
        ∀ other ∈ items, other.2.param.name = name → other.1 ≤ item.1 := by
  induction items using List.reverseRecOn with
  | nil => simp
  | append_singleton items last ih =>
    obtain ⟨hinit, -, hlast⟩ := List.pairwise_append.mp hsorted
    have hbefore : ∀ other ∈ items, other.1 < last.1 := fun other hmem =>
      hlast other hmem last (List.mem_singleton_self last)
    rw [List.foldl_append, List.foldl_cons, List.foldl_nil]
    by_cases hname : last.2.param.name = name
    · rw [if_pos hname, Option.some.injEq]
      constructor
      · rintro rfl
        refine ⟨by simp, hname, fun other hmem _ => ?_⟩
        obtain hmem | hmem := List.mem_append.mp hmem
        · exact Nat.le_of_lt (hbefore other hmem)
        · rw [List.mem_singleton.mp hmem]
      · rintro ⟨hmem, -, hmax⟩
        obtain hmem | hmem := List.mem_append.mp hmem
        · have hle := hmax last (by simp) hname
          exact absurd (hbefore item hmem) (Nat.not_lt.mpr hle)
        · exact (List.mem_singleton.mp hmem).symm
    · rw [if_neg hname, ih hinit]
      constructor
      · rintro ⟨hmem, hitem, hmax⟩
        refine ⟨List.mem_append_left _ hmem, hitem, fun other hother hsame => ?_⟩
        obtain hother | hother := List.mem_append.mp hother
        · exact hmax other hother hsame
        · rw [List.mem_singleton.mp hother] at hsame
          exact absurd hsame hname
      · rintro ⟨hmem, hitem, hmax⟩
        obtain hmem | hmem := List.mem_append.mp hmem
        · exact ⟨hmem, hitem, fun other hother => hmax other (List.mem_append_left _ hother)⟩
        · rw [List.mem_singleton.mp hmem] at hitem
          exact absurd hitem hname

variable {m m' : RunningLockMgr}

/-- The lock registered last under a name, in the order of the tokens. -/
def RunningLockMgr.LastNamed (m : RunningLockMgr) (name : String) (token : Token) : Prop :=
  m.runningLocks[token]?.map (fun lockInner => lockInner.param.name) = some name ∧
    ∀ (other : Token), m.runningLocks[other]?.map (fun lockInner => lockInner.param.name) = some name →
      other ≤ token

theorem getRunningLockInnerByName_fst (name : String) (token : Token) :
    (m.getRunningLockInnerByName name).map Prod.fst = some token ↔ m.LastNamed name token := by
  have hsorted : m.runningLocks.toList.Pairwise fun item item' => item.1 < item'.1 :=
    TreeMap.ordered_keys_toList.imp fun {item item'} hlt => Nat.compare_eq_lt.mp hlt
  rw [Option.map_eq_some_iff]
  simp only [RunningLockMgr.getRunningLockInnerByName, foldl_findByName_eq_some name _ hsorted, Prod.exists,
    exists_and_right, exists_eq_right, TreeMap.mem_toList_iff_getElem?_eq_some, RunningLockMgr.LastNamed,
    Prod.forall, Option.map_eq_some_iff]
  constructor
  · rintro ⟨lockInner, hfound, hname, hmax⟩
    exact ⟨⟨lockInner, hfound, hname⟩, fun other ⟨found, hother, hsame⟩ => hmax other found hother hsame⟩
  · rintro ⟨⟨lockInner, hfound, hname⟩, hmax⟩
    exact ⟨lockInner, hfound, hname, fun other found hother hsame => hmax other ⟨found, hother, hsame⟩⟩

/-- The token under which the lock a call acts on is registered. -/
def RunningLockMgr.reached? (m : RunningLockMgr) (token : Token) (name : String) : Option Token :=
  (m.findLock token name).map Prod.fst

theorem reached?_of_registered {token : Token} (h : m.runningLocks[token]?.isSome = true) (name : String) :
    m.reached? token name = some token := by
  obtain ⟨lockInner, hfound⟩ := Option.isSome_iff_exists.mp h
  rw [RunningLockMgr.reached?, RunningLockMgr.findLock_of_registered hfound]
  rfl

theorem reached?_of_unregistered {token : Token} (h : m.runningLocks[token]? = none) (name : String) :
    m.reached? token name = (m.getRunningLockInnerByName name).map Prod.fst := by
  rw [RunningLockMgr.reached?, RunningLockMgr.findLock, h]

/-- The lock of another client is only reached through its name. -/
theorem findLock_other {token other : Token} (hne : token ≠ other) (name : String) :
    m.reached? token name = some other ↔ m.runningLocks[token]? = none ∧ m.LastNamed name other := by
  cases hfound : m.runningLocks[token]? with
  | none =>
    rw [reached?_of_unregistered hfound, getRunningLockInnerByName_fst]
    simp
  | some lockInner =>
    rw [reached?_of_registered (by rw [hfound]; rfl)]
    simp [hne]

theorem reached?_congr {token other : Token} (hne : token ≠ other) (name : String)
    (hnames : ∀ any : Token, m'.runningLocks[any]?.map (fun lockInner => lockInner.param.name) =
      m.runningLocks[any]?.map (fun lockInner => lockInner.param.name)) :
    m'.reached? token name = some other ↔ m.reached? token name = some other := by
  have hnone : m'.runningLocks[token]? = none ↔ m.runningLocks[token]? = none := by
    rw [← Option.map_eq_none_iff (f := fun lockInner : RunningLockInner => lockInner.param.name), hnames,
      Option.map_eq_none_iff]
  rw [findLock_other hne, findLock_other hne, hnone]
  simp only [RunningLockMgr.LastNamed, hnames]

end ByName

/-! ## What happens to the lock of another client -/

/-- A call that was made for another token; `hit` tells whether it reached the lock of `token`. -/
structure KeepsLock (hit : Prop) (lockid : Token → Nat) (token : Token) (m m' : RunningLockMgr) : Prop where
  param : m'.runningLocks[token]?.map RunningLockInner.param = m.runningLocks[token]?.map RunningLockInner.param
  entries : ∀ key, m'.entryAt? key token = m.entryAt? key token
  lock : ¬hit → m'.runningLocks[token]? = m.runningLocks[token]?
  listed : ¬hit → m'.unSceneLockLists[toString (lockid token)]? = m.unSceneLockLists[toString (lockid token)]?

section KeepsLock

variable {hit : Prop} {lockid : Token → Nat} {t : Token} {m m' m'' : RunningLockMgr}

theorem KeepsLock.trans (h : KeepsLock hit lockid t m m') (h' : KeepsLock hit lockid t m' m'') :
    KeepsLock hit lockid t m m'' where
  param := h'.param.trans h.param
  entries key := (h'.entries key).trans (h.entries key)
  lock hmiss := (h'.lock hmiss).trans (h.lock hmiss)
  listed hmiss := (h'.listed hmiss).trans (h.listed hmiss)

theorem KeepsLock.refl : KeepsLock hit lockid t m m where
  param := rfl
  entries _ := rfl
  lock _ := rfl
  listed _ := rfl

theorem keepsLock_of_eq (hlock : m'.runningLocks[t]? = m.runningLocks[t]?)
    (hentries : ∀ key, m'.entryAt? key t = m.entryAt? key t)
    (hlisted : m'.unSceneLockLists[toString (lockid t)]? = m.unSceneLockLists[toString (lockid t)]?) :
    KeepsLock hit lockid t m m' where
  param := by rw [hlock]
  entries := hentries
  lock _ := hlock
  listed _ := hlisted

variable {u : Token} (hne : u ≠ t)

include hne

theorem keepsLock_modify (f : RunningLockInner → RunningLockInner) (m : RunningLockMgr) :
    KeepsLock hit lockid t m { m with runningLocks := m.runningLocks.modify u f } := by
  refine keepsLock_of_eq ?_ (fun _ => rfl) rfl
  simp [getElem?_modify_eq, hne]

theorem keepsLock_modifyEntry (key : String) (f : WksEntry → WksEntry) (m : RunningLockMgr) :
    KeepsLock hit lockid t m (m.modifyEntry key u f) := by
  refine keepsLock_of_eq rfl (fun key' => ?_) rfl
  rw [RunningLockMgr.entryAt?_modifyEntry, if_neg fun hsame => hne hsame.2]

/-- The list entry of another lock has another key. -/
theorem getElem?_listScreenLock (hinj : Function.Injective lockid) {param : RunningLockParam}
    (hid : param.lockid = lockid u) (fill : Bool) (m : RunningLockMgr) :
    (listScreenLock param fill m).unSceneLockLists[toString (lockid t)]? =
      m.unSceneLockLists[toString (lockid t)]? := by
  have hkey : ¬toString param.lockid = toString (lockid t) := by
    rw [hid]
    exact fun hsame => hne ((RunningLockMgr.toString_lockid_inj hinj).mp hsame)
  unfold listScreenLock updateUnSceneLockLists
  split
  · split
    · rw [getElem?_insertIfNew_eq, if_neg hkey]
    · rw [getElem?_erase_eq, if_neg hkey]
  · rfl

theorem keepsLock_lock (cfg : Config) (env : Env) (hinj : Function.Injective lockid)
    (h : m.ScreenLocksListed lockid) : KeepsLock hit lockid t m (lock cfg env u m).1 := by
  obtain ⟨-, heq⟩ | ⟨lockInner, hvalid, ⟨-, heq⟩ | ⟨-, heq⟩⟩ := lock_cases cfg env u m <;> rw [heq]
  · exact .refl
  · refine keepsLock_of_eq (by simp) (fun key => ?_) (by simp)
    exact congrFun (congrFun (RunningLockMgr.entryAt?_congr (by simp)) key) t
  · have hid := h.numbered u lockInner (validateLockForEnable_eq_some.mp hvalid).1
    refine KeepsLock.trans (keepsLock_of_eq ?_ (fun key => ?_) ?_) (keepsLock_modify hne _ _)
    · simp
    · exact congrFun (congrFun (RunningLockMgr.entryAt?_congr (by simp)) key) t
    · rw [getElem?_listScreenLock hne hinj hid]
      simp

theorem entryAt?_clearIfProxied (lockInner : RunningLockInner) (m : RunningLockMgr) (key : String) :
    (clearIfProxied u lockInner m).entryAt? key t = m.entryAt? key t := by
  cases hproxied : lockInner.isProxied with
  | false => rw [clearIfProxied_of_not_proxied _ _ _ hproxied]
  | true =>
    rw [clearIfProxied_of_proxied _ _ _ hproxied, RunningLockMgr.entryAt?_modifyEntry,
      if_neg fun hsame => hne hsame.2]

theorem keepsLock_unLock (cfg : Config) (env : Env) (name : String) (hinj : Function.Injective lockid)
    (h : m.ScreenLocksListed lockid) (hhit : m.reached? u name = some t → hit) :
    KeepsLock hit lockid t m (unLock cfg env u name m).1 := by
  rcases unLock_cases cfg env u name m with
    ⟨-, heq⟩ | ⟨registered, lockInner, hfound, ⟨-, heq⟩ | ⟨-, -, -, heq⟩ | ⟨-, -, -, heq⟩⟩ <;> rw [heq]
  · exact .refl
  · exact keepsLock_of_eq (by simp) (entryAt?_clearIfProxied hne lockInner m) (by simp)
  · refine keepsLock_of_eq (by simp) (fun key => ?_) (by simp)
    rw [RunningLockMgr.entryAt?_congr (decrease_proxyMap ..), entryAt?_clearIfProxied hne]
  · have hentries : ∀ key, (listScreenLock lockInner.param false (decrease env lockInner.param.type lockInner.param
        (clearIfProxied u lockInner m)).1).entryAt? key t = m.entryAt? key t := by
      intro key
      rw [RunningLockMgr.entryAt?_congr (listScreenLock_proxyMap ..),
        RunningLockMgr.entryAt?_congr (decrease_proxyMap ..), entryAt?_clearIfProxied hne]
    have hregistered := RunningLockMgr.getElem?_of_findLock hfound
    by_cases hsame : registered = t
    · subst hsame
      have hreached : hit := hhit (by rw [RunningLockMgr.reached?, hfound]; rfl)
      refine { param := ?_, entries := hentries, lock := fun hmiss => absurd hreached hmiss,
               listed := fun hmiss => absurd hreached hmiss }
      simp [RunningLockMgr.setState, hregistered]
    · have hid := h.numbered registered lockInner hregistered
      refine KeepsLock.trans (keepsLock_of_eq ?_ hentries ?_) (keepsLock_modify hsame _ _)
      · simp
      · rw [getElem?_listScreenLock hsame hinj hid]
        simp

theorem keepsLock_proxyInner (cfg : Config) (env : Env) (bundleNames : String) (event : RunningLockEvent)
    (hinj : Function.Injective lockid) (h : m.ScreenLocksListed lockid) :
    KeepsLock hit lockid t m (proxyInner cfg env u bundleNames event m) := by
  have hnamed := RunningLockMgr.screenLocksListed_setBundleName u bundleNames h
  have hrenamed : KeepsLock hit lockid t m (m.setBundleName u bundleNames) := keepsLock_modify hne _ m
  cases event with
  | update =>
    obtain heq | heq := proxyInner_update cfg env u bundleNames m <;> rw [heq]
    · exact .refl
    · exact hrenamed
  | proxy =>
    cases hview : m.view? u with
    | none =>
      rw [proxyInner_of_unregistered _ _ _ _ _ hview]
      exact .refl
    | some view =>
      by_cases hstate : view.state = .disable
      · rwa [proxyInner_proxy_of_disable _ _ _ _ _ hview hstate]
      · rw [proxyInner_proxy_eq _ _ _ _ _ hview hstate]
        refine hrenamed.trans (.trans (keepsLock_unLock hne cfg env "" hinj hnamed fun hreached => ?_)
          (keepsLock_modify hne _ _))
        -- The token is registered, so the call reaches its own lock.
        obtain ⟨lockInner, hfound, -⟩ := Option.map_eq_some_iff.mp hview
        rw [reached?_of_registered (by rw [getElem?_setBundleName_self _ _ _ hfound]; rfl)] at hreached
        exact absurd (Option.some.inj hreached) hne
  | unproxy =>
    by_cases hproxied : ∃ view, m.view? u = some view ∧ view.state = .proxied
    · obtain ⟨view, hview, hstate⟩ := hproxied
      rw [proxyInner_unproxy_eq _ _ _ _ _ hview hstate]
      refine hrenamed.trans (.trans (keepsLock_modify hne _ _) (keepsLock_lock hne cfg env hinj ?_))
      exact screenLocksListed_disableProxied hview hstate hnamed
    · rcases proxyInner_unproxy_of_not_proxied cfg env u bundleNames m
        (fun view hview hstate => hproxied ⟨view, hview, hstate⟩) with heq | heq <;> rw [heq]
      · exact .refl
      · exact hrenamed

theorem keepsLock_updateWorkSource (cfg : Config) (env : Env) (workSources : TreeMap Int String)
    (hinj : Function.Injective lockid) (h : m.ScreenLocksListed lockid) :
    KeepsLock hit lockid t m (updateWorkSource cfg env u workSources m) := by
  unfold updateWorkSource
  split
  · exact .refl
  · simp only [updateWorkSourceProxy]
    split
    · exact .refl
    · exact (keepsLock_proxyInner hne cfg env _ _ hinj h).trans (keepsLock_modifyEntry hne _ _ _)

/-- Releasing takes the token of the call out of the tables, whatever lock it found. -/
theorem keepsLock_releaseLock (cfg : Config) (env : Env) (name : String) (hinj : Function.Injective lockid)
    (h : m.ScreenLocksListed lockid)
    (hhit : (m.findLock u name).isSome = true → m.reached? u "" = some t → hit) :
    KeepsLock hit lockid t m (releaseLock cfg env u name m) := by
  by_cases hfound : m.findLock u name = none
  · rw [releaseLock_of_not_found cfg env hfound]
    exact .refl
  · obtain ⟨proxyMap, heq⟩ := releaseLock_eq cfg env hfound
    have hunlocked := keepsLock_unLock hne cfg env "" hinj h (hhit (Option.isSome_iff_ne_none.mpr hfound))
    refine hunlocked.trans (keepsLock_of_eq ?_ (entryAt?_releaseLock_of_ne hfound hne.symm) ?_)
    · rw [heq]
      simp [getElem?_erase_eq, hne]
    · rw [heq]

end KeepsLock

/-! ## Calls made with another token -/

/-- The token a call is made with; creating a lock and proxying processes are not among these. -/
def ServiceCall.caller? : ServiceCall → Option Token
  | .op (.lock token) | .op (.unLock token _) | .op (.releaseLock token _)
  | .op (.updateWorkSource token _) | .op (.timerUnLock token) | .forceUnLock token => some token
  | .op _ => none

/-- The name by which a call looks for a lock to unlock when its token is not registered. -/
def ServiceCall.searches? : ServiceCall → Option String
  | .op (.unLock _ name) => some name
  | .op (.releaseLock _ _) | .op (.timerUnLock _) | .forceUnLock _ => some ""
  | .op _ => none

/-- A release gives up unless some lock has the name it was given. -/
def ServiceCall.GoesOn (m : RunningLockMgr) : ServiceCall → Prop
  | .op (.releaseLock _ name) => (m.getRunningLockInnerByName name).isSome = true
  | _ => True

/-- The call reaches the lock of a token through the name it searches by. -/
def ServiceCall.Reaches (call : ServiceCall) (m : RunningLockMgr) (caller token : Token) : Prop :=
  m.runningLocks[caller]? = none ∧ call.GoesOn m ∧ ∃ name, call.searches? = some name ∧ m.LastNamed name token

/-- The lock of a token, its work sources and its places in the tables are what they were. -/
structure KeepsClient (token : Token) (lockInner : RunningLockInner) (m m' : RunningLockMgr) : Prop where
  lock : m'.runningLocks[token]? = some lockInner
  entries : ∀ key, m'.entryAt? key token = m.entryAt? key token
  listed : m'.unSceneLockLists[toString lockInner.param.lockid]? = m.unSceneLockLists[toString lockInner.param.lockid]?

section Clients

variable {cfg : Config} {lockid : Token → Nat} {m : RunningLockMgr} {t u : Token}

theorem view?_name (m : RunningLockMgr) (token : Token) :
    (m.view? token).map LockView.name = m.runningLocks[token]?.map (fun lockInner => lockInner.param.name) := by
  cases hfound : m.runningLocks[token]? <;> simp [RunningLockMgr.view?, hfound, RunningLockInner.view]

theorem unLock_names (cfg : Config) (env : Env) (token : Token) (name : String) (m : RunningLockMgr) (any : Token) :
    (unLock cfg env token name m).1.runningLocks[any]?.map (fun lockInner => lockInner.param.name) =
      m.runningLocks[any]?.map (fun lockInner => lockInner.param.name) := by
  rw [← view?_name, ← view?_name]
  obtain hsame | ⟨registered, lockInner, hfound, -, hupdate⟩ := unLock_view? cfg env token name m
  · rw [hsame]
  · have hregistered := m.view?_of_getElem? (RunningLockMgr.getElem?_of_findLock hfound)
    rw [hupdate]
    by_cases hsame : any = registered
    · rw [hsame, Function.update_self, hregistered]
      rfl
    · rw [Function.update_of_ne hsame]

theorem keepsLock_serviceStep (call : ServiceCall) (hcaller : call.caller? = some u) (hne : u ≠ t) (env : Env)
    (hinj : Function.Injective lockid) (h : m.ScreenLocksListed lockid) :
    KeepsLock (call.Reaches m u t) lockid t m (serviceStep cfg m (call, env)) := by
  have hreach : ∀ name, call.searches? = some name → (m.runningLocks[u]? = none → call.GoesOn m) →
      m.reached? u name = some t → call.Reaches m u t := by
    intro name hname hgoes hreached
    obtain ⟨hnone, hlast⟩ := (findLock_other hne name).mp hreached
    exact ⟨hnone, hgoes hnone, name, hname, hlast⟩
  cases call with
  | op op =>
    cases op with
    | createRunningLock token param => cases hcaller
    | proxyRunningLock isProxied pid uid => cases hcaller
    | resetRunningLocks => cases hcaller
    | lock token =>
      cases hcaller
      exact keepsLock_lock hne cfg env hinj h
    | unLock token name =>
      cases hcaller
      exact keepsLock_unLock hne cfg env name hinj h (hreach name rfl fun _ => trivial)
    | releaseLock token name =>
      cases hcaller
      refine keepsLock_releaseLock hne cfg env name hinj h fun hfound => hreach "" rfl fun hnone => ?_
      rwa [RunningLockMgr.findLock, hnone] at hfound
    | updateWorkSource token workSources =>
      cases hcaller
      exact keepsLock_updateWorkSource hne cfg env workSources hinj h
    | timerUnLock token =>
      cases hcaller
      have hupdated := (screenLocksListed_keptByProxying hinj cfg env).updateWorkSource u ∅ h
      refine (keepsLock_updateWorkSource hne cfg env ∅ hinj h).trans
        (keepsLock_unLock hne cfg env "" hinj hupdated fun hreached => hreach "" rfl (fun _ => trivial) ?_)
      refine (reached?_congr hne "" fun any => ?_).mp hreached
      rw [← view?_name, ← view?_name, updateWorkSource_empty_view?]
  | forceUnLock token =>
    cases hcaller
    refine (keepsLock_unLock hne cfg env "" hinj h (hreach "" rfl fun _ => trivial)).trans
      (keepsLock_releaseLock hne cfg env "" hinj (screenLocksListed_unLock hinj env u "" h) ?_)
    intro _ hreached
    exact hreach "" rfl (fun _ => trivial) ((reached?_congr hne "" (unLock_names cfg env u "" m)).mp hreached)

/-- No call made with one token changes the lock of another, its work sources or its places in the
tables, unless it reaches that lock by name; then it may change the lock's state and listing. -/
theorem clients_isolated (hinj : Function.Injective lockid)
    (hreach : (serviceSystem cfg).Reach (NumberedBy lockid) m) {lockInner : RunningLockInner}
    (hfound : m.runningLocks[t]? = some lockInner) (call : ServiceCall) (hcaller : call.caller? = some u)
    (hne : u ≠ t) (env : Env) :
    (¬call.Reaches m u t → KeepsClient t lockInner m (serviceStep cfg m (call, env))) ∧
    (∃ after, (serviceStep cfg m (call, env)).runningLocks[t]? = some after ∧ after.param = lockInner.param) ∧
    ∀ key, (serviceStep cfg m (call, env)).entryAt? key t = m.entryAt? key t := by
  have hlisted := screenLocksListed_of_reach hinj hreach
  have hkeeps : KeepsLock _ lockid t m (serviceStep cfg m (call, env)) :=
    keepsLock_serviceStep call hcaller hne env hinj hlisted
  refine ⟨fun hmiss => ⟨?_, hkeeps.entries, ?_⟩, ?_, hkeeps.entries⟩
  · rw [hkeeps.lock hmiss, hfound]
  · rw [hlisted.numbered t lockInner hfound]
    exact hkeeps.listed hmiss
  · have hparam := hkeeps.param
    rw [hfound, Option.map_some, Option.map_eq_some_iff] at hparam
    exact hparam

end Clients

/-! ## Two clients -/

/-- A player keeps the screen on; a second client has not created a lock of its own. -/
def playerLocked : List (ServiceCall × Env) :=
  [(.op (.createRunningLock 1 playerLock), {}), (.op (.lock 1), {})]

theorem playerLocked_reach {m : RunningLockMgr} (hrun : (serviceSystem {}).run {} playerLocked = some m) :
    (serviceSystem {}).Reach (NumberedBy id) m := by
  refine Lib.System.Reach.of_run playerLocked (.init rfl) (fun s call hmem => ?_) hrun
  simp only [playerLocked, List.mem_cons, List.not_mem_nil, or_false] at hmem
  obtain rfl | rfl := hmem <;> trivial

/-- The death of the second client does not reach the player's lock. -/
theorem clients_isolated_death :
    ∃ m, (serviceSystem {}).run {} playerLocked = some m ∧
      KeepsClient 1 { param := playerLock, state := .enable } m (serviceStep {} m (.forceUnLock 2, {})) := by
  obtain ⟨m, hrun⟩ := Option.isSome_iff_exists.mp (rfl : ((serviceSystem {}).run {} playerLocked).isSome = true)
  have hfound : ((serviceSystem {}).run {} playerLocked).map (fun m => m.runningLocks[(1 : Token)]?) =
      some (some { param := playerLock, state := .enable }) := by decide
  rw [hrun, Option.map_some, Option.some.injEq] at hfound
  refine ⟨m, hrun, (clients_isolated Function.injective_id (playerLocked_reach hrun) hfound (.forceUnLock 2) rfl
    (by decide) {}).1 ?_⟩
  -- The player's lock has a name, so the empty name does not find it.
  rintro ⟨-, -, name, hname, hlast, -⟩
  cases hname
  rw [hfound] at hlast
  exact absurd (Option.some.inj hlast) (by decide)

/-- A client that unlocks by the player's name switches its lock off. -/
theorem clients_not_isolated :
    ¬∀ m, (serviceSystem {}).Reach (NumberedBy id) m → ∀ (t u : Token) lockInner call env,
      m.runningLocks[t]? = some lockInner → ServiceCall.caller? call = some u → u ≠ t →
        KeepsClient t lockInner m (serviceStep {} m (call, env)) := by
  intro hisolated
  obtain ⟨m, hrun⟩ := Option.isSome_iff_exists.mp (rfl : ((serviceSystem {}).run {} playerLocked).isSome = true)
  have hfound : ((serviceSystem {}).run {} playerLocked).map (fun m => m.runningLocks[(1 : Token)]?) =
      some (some { param := playerLock, state := .enable }) := by decide
  have hunlocked : ((serviceSystem {}).run {} playerLocked).map (fun m =>
      (serviceStep {} m (.op (.unLock 2 "player"), {})).runningLocks[(1 : Token)]?) =
      some (some { param := playerLock, state := .disable }) := by decide
  rw [hrun, Option.map_some, Option.some.injEq] at hfound hunlocked
  have hkept := (hisolated m (playerLocked_reach hrun) 1 2 _ (.op (.unLock 2 "player")) {} hfound rfl
    (by decide)).lock
  rw [hunlocked] at hkept
  cases hkept

end PowerMgr.RunningLock
