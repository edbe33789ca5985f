import PowerMgr.RunningLock.States

/-! # The list of enabled screen locks

`unSceneLockLists_` is kept by `Lock` and `UnLock` beside the state of the lock, and both are also
reached from the proxy calls, from timers and from releases, which set the state on their own.

* `ScreenLocksListed` — the list holds exactly the enabled screen locks, under their ids.
* `screenLocks_listed` — this holds in every reachable state, so `queryRunningLockLists` and
  `getValidRunningLockNum` report exactly the enabled screen locks bound to a display.
-/

namespace PowerMgr.RunningLock

open Std (TreeMap)
open Lib.TreeMap (getElem?_modify_eq getElem?_erase_eq getElem?_insertIfNew_eq)

/-! ## What is asked about screen locks -/

def displayIdAll : Nat := 2 ^ 64 - 1

/-- A lock bound to `displayId`, or to all displays. -/
def RunningLockInfo.boundTo (displayId : Nat) (info : RunningLockInfo) : Bool :=
  info.displayId = displayId || info.displayId = displayIdAll

/-- `RunningLockMgr::QueryRunningLockLists`; only with `POWER_MANAGER_LOCK_SUPPORT_MULTI_SCREEN`
are the locks of other displays left out. -/
def queryRunningLockLists (multiScreen : Bool) (runningLockLists : TreeMap String RunningLockInfo)
    (displayId : Nat) (m : RunningLockMgr) : TreeMap String RunningLockInfo :=
  m.unSceneLockLists.toList.foldl
    (fun lists item =>
      if !multiScreen || item.2.boundTo displayId then lists.insertIfNew item.1 item.2 else lists)
    runningLockLists

/-- `RunningLockMgr::GetValidRunningLockNum`. -/
def getValidRunningLockNum (cfg : Config) (multiScreen : Bool) (type : RunningLockType) (displayId : Nat)
    (m : RunningLockMgr) : UInt32 :=
  if multiScreen ∧ type = .screen then
    UInt32.ofNat (m.unSceneLockLists.toList.countP fun item => item.2.boundTo displayId)
  else if hasCounter cfg type then m.lockCounters type
  else 0

/-! ## The list and the locks -/

/-- What the list says of a lock; the bundle name is the one of the moment the lock was taken. -/
def RunningLockInfo.unnamed (info : RunningLockInfo) : RunningLockInfo :=
  { info with bundleName := "" }

/-- What the list should say of a lock: screen locks are in it while they are enabled. -/
def RunningLockInner.listing? (lockInner : RunningLockInner) : Option RunningLockInfo :=
  if lockInner.param.type = .screen ∧ lockInner.state = .enable then
    some (fillAppRunningLockInfo lockInner.param).unnamed
  else none

namespace RunningLockMgr

def listed? (m : RunningLockMgr) (key : String) : Option RunningLockInfo :=
  m.unSceneLockLists[key]?.map RunningLockInfo.unnamed

def listing? (m : RunningLockMgr) (token : Token) : Option RunningLockInfo :=
  m.runningLocks[token]?.bind RunningLockInner.listing?

/-- The list holds exactly the enabled screen locks, each under the id of its token. -/
structure ScreenLocksListed (lockid : Token → Nat) (m : RunningLockMgr) : Prop where
  numbered : ∀ token lockInner, m.runningLocks[token]? = some lockInner →
    lockInner.param.lockid = lockid token
  listed : ∀ token, m.listed? (toString (lockid token)) = m.listing? token
  keys : ∀ key, (m.listed? key).isSome = true → ∃ token, toString (lockid token) = key

variable {lockid : Token → Nat} {m m' : RunningLockMgr}

theorem toString_nat_injective : Function.Injective (toString : Nat → String) := by
  intro n n' hsame
  have hdigits := congrArg (fun s : String => Nat.ofDigitChars 10 s.toList 0) hsame
  simpa [Nat.ofDigitChars_toDigits] using hdigits

theorem toString_lockid_inj (hinj : Function.Injective lockid) {token token' : Token} :
    toString (lockid token) = toString (lockid token') ↔ token = token' :=
  (toString_nat_injective.comp hinj).eq_iff

/-! ## Changes that the list is not about -/

theorem screenLocksListed_of_same (h : m.ScreenLocksListed lockid)
    (hlist : m'.unSceneLockLists = m.unSceneLockLists)
    (hnumbered : ∀ token lockInner, m'.runningLocks[token]? = some lockInner →
      lockInner.param.lockid = lockid token)
    (hlisting : m'.listing? = m.listing?) : m'.ScreenLocksListed lockid where
  numbered := hnumbered
  listed token := by
    rw [hlisting, ← h.listed token]
    simp only [listed?, hlist]
  keys key hsome := by
    refine h.keys key ?_
    simpa only [listed?, hlist] using hsome

theorem screenLocksListed_congr (h : m.ScreenLocksListed lockid)
    (hlist : m'.unSceneLockLists = m.unSceneLockLists) (hlocks : m'.runningLocks = m.runningLocks) :
    m'.ScreenLocksListed lockid := by
  refine screenLocksListed_of_same h hlist (fun token lockInner hfound => ?_) ?_
  · rw [hlocks] at hfound
    exact h.numbered token lockInner hfound
  · funext token
    simp only [listing?, hlocks]

theorem numbered_modify (h : m.ScreenLocksListed lockid) {token : Token}
    {f : RunningLockInner → RunningLockInner} (hf : ∀ lockInner, (f lockInner).param.lockid = lockInner.param.lockid)
    (other : Token) (lockInner : RunningLockInner) (hfound : (m.runningLocks.modify token f)[other]? = some lockInner) :
    lockInner.param.lockid = lockid other := by
  rw [getElem?_modify_eq] at hfound
  split at hfound
  next hsame =>
    subst hsame
    obtain ⟨before, hbefore, rfl⟩ := Option.map_eq_some_iff.mp hfound
    rw [hf, h.numbered token before hbefore]
  next => exact h.numbered other lockInner hfound

theorem screenLocksListed_setBundleName (token : Token) (bundleName : String) (h : m.ScreenLocksListed lockid) :
    (m.setBundleName token bundleName).ScreenLocksListed lockid := by
  refine screenLocksListed_of_same h rfl (numbered_modify h fun _ => rfl) (funext fun other => ?_)
  simp only [listing?, setBundleName, getElem?_modify_eq]
  split
  next hsame =>
    subst hsame
    cases m.runningLocks[token]? <;> rfl
  next => rfl

theorem listing?_eq_none {token : Token}
    (h : ∀ view, m.view? token = some view → view.type = .screen → view.state ≠ .enable) :
    m.listing? token = none := by
  cases hfound : m.runningLocks[token]? with
  | none => simp [listing?, hfound]
  | some lockInner =>
    simp only [listing?, hfound, Option.bind_some]
    exact if_neg fun henabled => h _ (m.view?_of_getElem? hfound) henabled.1 henabled.2

theorem screenLocksListed_setState {token : Token} {state : RunningLockState} (hstate : state ≠ .enable)
    (hnone : m.listing? token = none) (h : m.ScreenLocksListed lockid) :
    (m.setState token state).ScreenLocksListed lockid := by
  refine screenLocksListed_of_same h rfl (numbered_modify h fun _ => rfl) (funext fun other => ?_)
  by_cases hsame : token = other
  · subst hsame
    rw [hnone]
    simp only [listing?, setState, getElem?_modify_eq, if_true]
    cases m.runningLocks[token]? with
    | none => rfl
    | some lockInner => simp [RunningLockInner.listing?, hstate]
  · simp [listing?, setState, getElem?_modify_eq, hsame]

theorem screenLocksListed_erase {token : Token} (hnone : m.listing? token = none)
    (h : m.ScreenLocksListed lockid) :
    ({ m with runningLocks := m.runningLocks.erase token } : RunningLockMgr).ScreenLocksListed lockid := by
  refine screenLocksListed_of_same h rfl (fun other lockInner hfound => ?_) (funext fun other => ?_)
  · simp only [getElem?_erase_eq] at hfound
    split at hfound
    · cases hfound
    · exact h.numbered other lockInner hfound
  · by_cases hsame : token = other
    · subst hsame
      rw [hnone]
      simp [listing?]
    · simp [listing?, getElem?_erase_eq, hsame]

/-- One lock and its place in the list change together. -/
theorem screenLocksListed_relist (hinj : Function.Injective lockid) (h : m.ScreenLocksListed lockid)
    (token : Token) (hnumbered : ∀ other lockInner, m'.runningLocks[other]? = some lockInner →
      lockInner.param.lockid = lockid other)
    (hother : ∀ other, token ≠ other → m'.listing? other = m.listing? other)
    (hlist : ∀ key, m'.listed? key =
      if toString (lockid token) = key then m'.listing? token else m.listed? key) :
    m'.ScreenLocksListed lockid where
  numbered := hnumbered
  listed other := by
    rw [hlist]
    by_cases hsame : token = other
    · rw [if_pos (by rw [hsame]), hsame]
    · rw [if_neg fun hkey => hsame ((toString_lockid_inj hinj).mp hkey), h.listed, hother other hsame]
  keys key hsome := by
    by_cases hsame : toString (lockid token) = key
    · exact ⟨token, hsame⟩
    · rw [hlist, if_neg hsame] at hsome
      exact h.keys key hsome

/-- The two ends of a screen lock's listing: it is listed and enabled, or taken off and disabled. -/
theorem screenLocksListed_switch (hinj : Function.Injective lockid) (h : m.ScreenLocksListed lockid)
    {token : Token} {lockInner : RunningLockInner} (hfound : m.runningLocks[token]? = some lockInner)
    (fill : Bool) (hstate : fill = true → lockInner.state = .disable) {state : RunningLockState}
    (hafter : state = if fill then .enable else .disable) :
    ((listScreenLock lockInner.param fill m).setState token state).ScreenLocksListed lockid := by
  have hkey : toString lockInner.param.lockid = toString (lockid token) := by
    rw [h.numbered token lockInner hfound]
  have hlisting : ∀ other, ((listScreenLock lockInner.param fill m).setState token state).listing? other =
      if token = other then { lockInner with state := state }.listing? else m.listing? other := by
    intro other
    by_cases hsame : token = other
    · subst hsame
      simp [listing?, setState, hfound]
    · simp [listing?, setState, getElem?_modify_eq, hsame]
  have hbefore := h.listed token
  simp only [listing?, hfound, Option.bind_some] at hbefore
  refine screenLocksListed_relist hinj h token ?_ (fun other hne => ?_) fun key => ?_
  · simp only [setState, listScreenLock_runningLocks]
    exact numbered_modify h fun _ => rfl
  · rw [hlisting, if_neg hne]
  · rw [hlisting, if_pos rfl, hafter]
    by_cases htype : lockInner.param.type = .screen
    · cases fill with
      | true =>
        -- A disabled lock is not in the list, so the insertion is one.
        have hnone : m.unSceneLockLists[toString (lockid token)]? = none := by
          rw [RunningLockInner.listing?, if_neg (by simp [hstate rfl])] at hbefore
          exact Option.map_eq_none_iff.mp hbefore
        simp only [listed?, setState, listScreenLock, if_pos htype, updateUnSceneLockLists, if_true, hkey,
          getElem?_insertIfNew_eq]
        split
        · rw [hnone]
          simp [RunningLockInner.listing?, htype]
        · rfl
      | false =>
        simp only [listed?, setState, listScreenLock, if_pos htype, updateUnSceneLockLists, Bool.false_eq_true,
          if_false, hkey, getElem?_erase_eq]
        split
        · simp [RunningLockInner.listing?]
        · rfl
    · have hlists : listScreenLock lockInner.param fill m = m := if_neg htype
      have hnone : ∀ state, ({ lockInner with state := state } : RunningLockInner).listing? = none :=
        fun state => if_neg fun hscreen => htype hscreen.1
      rw [hnone] at hbefore ⊢
      rw [hlists]
      by_cases hsame : toString (lockid token) = key
      · rw [if_pos hsame, ← hsame]
        exact hbefore
      · rw [if_neg hsame]
        rfl

end RunningLockMgr

open RunningLockMgr

/-! ## Counters leave the list alone -/

def Activate.KeepsList (activate : Activate) : Prop :=
  ∀ active param m, (activate active param m).1.unSceneLockLists = m.unSceneLockLists

section KeepsList

variable {action : Activate} (hkeeps : action.KeepsList) (type : RunningLockType)
  (param : RunningLockParam) (m : RunningLockMgr)

include hkeeps

theorem increaseWith_keepsList :
    (increaseWith action type param m).1.unSceneLockLists = m.unSceneLockLists := by
  have hcall := hkeeps true param (m.setCounter type (m.lockCounters type + 1))
  simp only [increaseWith]
  split
  · split <;> exact hcall
  · rfl

theorem decreaseWith_keepsList :
    (decreaseWith action type param m).1.unSceneLockLists = m.unSceneLockLists := by
  have hcall := hkeeps false param (m.setCounter type (m.lockCounters type - 1))
  simp only [decreaseWith]
  split
  · split <;> exact hcall
  · rfl

end KeepsList

theorem activate_keepsList (env : Env) (type : RunningLockType) : (activate env type).KeepsList := by
  have hbackground : (activateBackground env).KeepsList := fun _ _ _ => rfl
  cases type with
  | backgroundUserIdle =>
    intro active param m
    cases active with
    | true => exact increaseWith_keepsList hbackground .backgroundTask _ m
    | false => exact decreaseWith_keepsList hbackground .backgroundTask _ m
  | coordination =>
    intro active param m
    cases active with
    | true => exact increaseWith_keepsList hbackground .backgroundTask _ m
    | false => exact decreaseWith_keepsList hbackground .backgroundTask _ { m with coordinated := false }
  | screen => exact fun _ _ _ => rfl
  | proximityScreenControl => exact fun _ _ _ => rfl
  | _ => exact hbackground

@[simp] theorem increase_unSceneLockLists (env : Env) (type : RunningLockType) (param : RunningLockParam)
    (m : RunningLockMgr) : (increase env type param m).1.unSceneLockLists = m.unSceneLockLists :=
  increaseWith_keepsList (activate_keepsList env type) type param m

@[simp] theorem decrease_unSceneLockLists (env : Env) (type : RunningLockType) (param : RunningLockParam)
    (m : RunningLockMgr) : (decrease env type param m).1.unSceneLockLists = m.unSceneLockLists :=
  decreaseWith_keepsList (activate_keepsList env type) type param m

@[simp] theorem clearIfProxied_unSceneLockLists (token : Token) (lockInner : RunningLockInner)
    (m : RunningLockMgr) : (clearIfProxied token lockInner m).unSceneLockLists = m.unSceneLockLists := by
  unfold clearIfProxied
  split <;> rfl

theorem decrease_screen_succeeds (env : Env) (param : RunningLockParam) (m : RunningLockMgr) :
    (decrease env .screen param m).2 = true := by
  simp only [decrease, decreaseWith, activate]
  split <;> rfl

/-! ## Lock and UnLock -/

section Steps

variable {cfg : Config} {lockid : Token → Nat} {m : RunningLockMgr}

theorem screenLocksListed_lock (hinj : Function.Injective lockid) (env : Env) (token : Token)
    (h : m.ScreenLocksListed lockid) : (lock cfg env token m).1.ScreenLocksListed lockid := by
  obtain ⟨-, heq⟩ | ⟨lockInner, hvalid, ⟨-, heq⟩ | ⟨-, heq⟩⟩ := lock_cases cfg env token m <;> rw [heq]
  · exact h
  · exact screenLocksListed_congr h (by simp) (by simp)
  · obtain ⟨hfound, hstate, -, -⟩ := validateLockForEnable_eq_some.mp hvalid
    refine screenLocksListed_switch hinj (screenLocksListed_congr h ?_ ?_) ?_ true (fun _ => hstate) rfl
    · simp
    · simp
    · simpa using hfound

theorem screenLocksListed_unLock (hinj : Function.Injective lockid) (env : Env) (token : Token) (name : String)
    (h : m.ScreenLocksListed lockid) : (unLock cfg env token name m).1.ScreenLocksListed lockid := by
  rcases unLock_cases cfg env token name m with
    ⟨-, heq⟩ | ⟨registered, lockInner, hfound, ⟨-, heq⟩ | ⟨-, -, -, heq⟩ | ⟨-, -, -, heq⟩⟩ <;> rw [heq]
  · exact h
  · exact screenLocksListed_congr h (by simp) (by simp)
  · exact screenLocksListed_congr h (by simp) (by simp)
  · refine screenLocksListed_switch hinj (screenLocksListed_congr h ?_ ?_) ?_ false nofun rfl
    · simp
    · simp
    · simpa using getElem?_of_findLock hfound

/-- After `UnLock` the lock of the token is not listed: the screen counter does not fail. -/
theorem listing?_unLock (cfg : Config) (env : Env) (token : Token) (name : String) (m : RunningLockMgr) :
    (unLock cfg env token name m).1.listing? token = none := by
  apply listing?_eq_none
  intro view hview hscreen henable
  cases hfound : m.runningLocks[token]? with
  | none =>
    have hnone : m.view? token = none := Option.map_eq_none_iff.mpr hfound
    obtain hsame | ⟨registered, lockInner, hlock, -, hupdate⟩ := unLock_view? cfg env token name m
    · rw [hsame, hnone] at hview
      cases hview
    · have hne : token ≠ registered := by
        rintro rfl
        rw [getElem?_of_findLock hlock] at hfound
        cases hfound
      rw [hupdate, Function.update_of_ne hne, hnone] at hview
      cases hview
  | some lockInner =>
    have hbefore := m.view?_of_getElem? hfound
    rcases unLock_cases cfg env token name m with
      ⟨hlock, -⟩ | ⟨registered, found, hlock, ⟨hrefused, heq⟩ | ⟨-, -, hfails, heq⟩ | ⟨-, -, -, heq⟩⟩ <;>
      rw [findLock_of_registered hfound] at hlock <;> cases hlock <;> rw [heq] at hview
    · rw [view?_congr (m := m) (by simp), hbefore] at hview
      cases hview
      obtain hdisable | hcounter := hrefused
      · exact nomatch hdisable.symm.trans henable
      · rw [show lockInner.param.type = .screen from hscreen] at hcounter
        cases hcounter
    · rw [view?_congr (m := m) (by simp), hbefore] at hview
      cases hview
      rw [show lockInner.param.type = .screen from hscreen, decrease_screen_succeeds] at hfails
      cases hfails
    · rw [view?_setState _ (by rw [view?_congr (m := m) (by simp)]; exact hbefore), Function.update_self] at hview
      cases hview
      cases henable

theorem screenLocksListed_disableProxied {token : Token} {bundleNames : String} {view : LockView}
    (hview : m.view? token = some view) (hstate : view.state = .proxied)
    (h : (m.setBundleName token bundleNames).ScreenLocksListed lockid) :
    ((m.setBundleName token bundleNames).setState token .disable).ScreenLocksListed lockid := by
  refine screenLocksListed_setState nofun (listing?_eq_none ?_) h
  intro found hfound _ henable
  rw [view?_setBundleName, hview] at hfound
  cases hfound
  exact nomatch hstate.symm.trans henable

/-- A lock that is proxied was unlocked before, one that is un-proxied is disabled first. -/
theorem screenLocksListed_proxyInner (hinj : Function.Injective lockid) (env : Env) (token : Token)
    (bundleNames : String) (event : RunningLockEvent) (h : m.ScreenLocksListed lockid) :
    (proxyInner cfg env token bundleNames event m).ScreenLocksListed lockid := by
  have hnamed := screenLocksListed_setBundleName token bundleNames h
  cases event with
  | update =>
    obtain heq | heq := proxyInner_update cfg env token bundleNames m <;> rw [heq]
    · exact h
    · exact hnamed
  | proxy =>
    cases hview : m.view? token with
    | none => rwa [proxyInner_of_unregistered _ _ _ _ _ hview]
    | some view =>
      by_cases hstate : view.state = .disable
      · rwa [proxyInner_proxy_of_disable _ _ _ _ _ hview hstate]
      · rw [proxyInner_proxy_eq _ _ _ _ _ hview hstate]
        exact screenLocksListed_setState nofun (listing?_unLock cfg env token "" _)
          (screenLocksListed_unLock hinj env token "" hnamed)
  | unproxy =>
    by_cases hproxied : ∃ view, m.view? token = some view ∧ view.state = .proxied
    · obtain ⟨view, hview, hstate⟩ := hproxied
      rw [proxyInner_unproxy_eq _ _ _ _ _ hview hstate]
      exact screenLocksListed_lock hinj env token (screenLocksListed_disableProxied hview hstate hnamed)
    · rcases proxyInner_unproxy_of_not_proxied cfg env token bundleNames m
        (fun view hview hstate => hproxied ⟨view, hview, hstate⟩) with heq | heq <;> rw [heq]
      · exact h
      · exact hnamed

theorem screenLocksListed_keptByProxying (hinj : Function.Injective lockid) (cfg : Config) (env : Env) :
    KeptByProxying cfg env (ScreenLocksListed lockid) where
  modifyEntry _ _ _ _ h := screenLocksListed_congr h rfl rfl
  proxyInner _ token bundleNames event h := screenLocksListed_proxyInner hinj env token bundleNames event h

theorem screenLocksListed_createRunningLock (token : Token) (param : RunningLockParam)
    (hid : param.lockid = lockid token) (h : m.ScreenLocksListed lockid) :
    (createRunningLock token param m).ScreenLocksListed lockid := by
  have hinserted : ({ m with runningLocks := m.runningLocks.insertIfNew token { param := param } } :
      RunningLockMgr).ScreenLocksListed lockid := by
    refine screenLocksListed_of_same h rfl (fun other lockInner hfound => ?_) (funext fun other => ?_)
    · simp only [getElem?_insertIfNew_eq] at hfound
      split at hfound
      next hsame =>
        subst hsame
        cases hregistered : m.runningLocks[token]? with
        | none =>
          rw [hregistered] at hfound
          cases hfound
          exact hid
        | some found =>
          rw [hregistered] at hfound
          cases hfound
          exact h.numbered token found hregistered
      next => exact h.numbered other lockInner hfound
    · simp only [RunningLockMgr.listing?, getElem?_insertIfNew_eq]
      split
      next hsame =>
        subst hsame
        cases m.runningLocks[token]? with
        | none => simp [RunningLockInner.listing?]
        | some found => simp
      next => rfl
  obtain ⟨proxyMap, heq⟩ := createRunningLock_eq token param m
  rw [heq]
  exact screenLocksListed_congr hinserted rfl rfl

theorem screenLocksListed_releaseLock (hinj : Function.Injective lockid) (env : Env) (token : Token)
    (name : String) (h : m.ScreenLocksListed lockid) :
    (releaseLock cfg env token name m).ScreenLocksListed lockid := by
  by_cases hfound : m.findLock token name = none
  · rw [releaseLock_of_not_found cfg env hfound]
    exact h
  · obtain ⟨proxyMap, heq⟩ := releaseLock_eq cfg env hfound
    have herased := screenLocksListed_erase (listing?_unLock cfg env token "" m)
      (screenLocksListed_unLock hinj env token "" h)
    rw [heq]
    exact screenLocksListed_congr herased rfl rfl

end Steps

/-! ## What the reports say -/

/-- An enabled screen lock that a query for `displayId` should report. -/
def RunningLockInner.reported (multiScreen : Bool) (displayId : Nat) (lockInner : RunningLockInner) : Bool :=
  lockInner.param.type = .screen && lockInner.state = .enable &&
    (!multiScreen || (fillAppRunningLockInfo lockInner.param).boundTo displayId)

section Reports

variable {lockid : Token → Nat} {m : RunningLockMgr} (multiScreen : Bool) (displayId : Nat)

theorem listing?_eq_some {lockInner : RunningLockInner} {info : RunningLockInfo} :
    lockInner.listing? = some info ↔ (lockInner.param.type = .screen ∧ lockInner.state = .enable) ∧
      (fillAppRunningLockInfo lockInner.param).unnamed = info := by
  unfold RunningLockInner.listing?
  split <;> simp_all

/-- The list read by key: each entry is the listing of one registered lock. -/
theorem listed?_eq_some (h : m.ScreenLocksListed lockid) {key : String} {info : RunningLockInfo} :
    m.listed? key = some info ↔ ∃ (token : Token) (lockInner : RunningLockInner), m.runningLocks[token]? = some lockInner ∧
      lockInner.listing? = some info ∧ toString lockInner.param.lockid = key := by
  constructor
  · intro hlisted
    obtain ⟨token, rfl⟩ := h.keys key (by rw [hlisted]; rfl)
    rw [h.listed, RunningLockMgr.listing?, Option.bind_eq_some_iff] at hlisted
    obtain ⟨lockInner, hfound, hlisting⟩ := hlisted
    exact ⟨token, lockInner, hfound, hlisting, by rw [h.numbered token lockInner hfound]⟩
  · rintro ⟨token, lockInner, hfound, hlisting, rfl⟩
    rw [h.numbered token lockInner hfound, h.listed]
    simpa [RunningLockMgr.listing?, hfound] using hlisting

theorem boundTo_unnamed (info : RunningLockInfo) : info.unnamed.boundTo displayId = info.boundTo displayId := rfl

theorem reported_of_listing? {lockInner : RunningLockInner} {info : RunningLockInfo}
    (hlisting : lockInner.listing? = some info) :
    lockInner.reported multiScreen displayId = (!multiScreen || info.boundTo displayId) := by
  obtain ⟨⟨htype, hstate⟩, rfl⟩ := listing?_eq_some.mp hlisting
  simp [RunningLockInner.reported, htype, hstate, boundTo_unnamed]

theorem getElem?_queryRunningLockLists (key : String) (info : RunningLockInfo) :
    (queryRunningLockLists multiScreen ∅ displayId m)[key]? = some info ↔
      m.unSceneLockLists[key]? = some info ∧ (!multiScreen || info.boundTo displayId) = true := by
  have hnodup : (m.unSceneLockLists.toList.map Prod.fst).Nodup := by
    rw [TreeMap.map_fst_toList_eq_keys]
    exact TreeMap.nodup_keys
  have hquery := Lib.TreeMap.getElem?_foldl_insertIfNew
    (fun info : RunningLockInfo => !multiScreen || info.boundTo displayId) _ hnodup ∅ key info
  unfold queryRunningLockLists
  rw [hquery, TreeMap.mem_toList_iff_getElem?_eq_some]
  simp

/-- A query reports the enabled screen locks of the display, under their ids. -/
theorem queryRunningLockLists_reports (h : m.ScreenLocksListed lockid) (key : String) (info : RunningLockInfo) :
    (queryRunningLockLists multiScreen ∅ displayId m)[key]?.map RunningLockInfo.unnamed = some info ↔
      ∃ (token : Token) (lockInner : RunningLockInner), m.runningLocks[token]? = some lockInner ∧
        lockInner.reported multiScreen displayId = true ∧ toString lockInner.param.lockid = key ∧
        (fillAppRunningLockInfo lockInner.param).unnamed = info := by
  have hquery : (queryRunningLockLists multiScreen ∅ displayId m)[key]?.map RunningLockInfo.unnamed = some info ↔
      m.listed? key = some info ∧ (!multiScreen || info.boundTo displayId) = true := by
    simp only [listed?, Option.map_eq_some_iff, getElem?_queryRunningLockLists]
    constructor
    · rintro ⟨found, ⟨hfound, hbound⟩, rfl⟩
      exact ⟨⟨found, hfound, rfl⟩, hbound⟩
    · rintro ⟨⟨found, hfound, rfl⟩, hbound⟩
      exact ⟨found, ⟨hfound, hbound⟩, rfl⟩
  rw [hquery, listed?_eq_some h]
  constructor
  · rintro ⟨⟨token, lockInner, hfound, hlisting, hkey⟩, hbound⟩
    refine ⟨token, lockInner, hfound, ?_, hkey, (listing?_eq_some.mp hlisting).2⟩
    rw [reported_of_listing? multiScreen displayId hlisting, hbound]
  · rintro ⟨token, lockInner, hfound, hreported, hkey, hinfo⟩
    have hlisting : lockInner.listing? = some info := by
      simp only [RunningLockInner.reported, Bool.and_eq_true, decide_eq_true_eq] at hreported
      exact listing?_eq_some.mpr ⟨hreported.1, hinfo⟩
    rw [reported_of_listing? multiScreen displayId hlisting] at hreported
    exact ⟨⟨token, lockInner, hfound, hlisting, hkey⟩, hreported⟩

/-- As many entries of the list are bound to a display as screen locks are enabled for it. -/
theorem count_boundTo (hinj : Function.Injective lockid) (h : m.ScreenLocksListed lockid) :
    Lib.TreeMap.count (RunningLockInfo.boundTo displayId) m.unSceneLockLists =
      Lib.TreeMap.count (RunningLockInner.reported true displayId) m.runningLocks := by
  rw [Lib.TreeMap.count_eq_card, Lib.TreeMap.count_eq_card,
    ← Finset.card_image_of_injective _ (toString_nat_injective.comp hinj)]
  congr 1
  ext key
  have hlisted : m.unSceneLockLists[key]?.any (RunningLockInfo.boundTo displayId) =
      (m.listed? key).any (RunningLockInfo.boundTo displayId) := by
    rw [listed?, Option.any_map]
    rfl
  simp only [Lib.TreeMap.mem_satisfying, Finset.mem_image, Function.comp_apply, hlisted, Option.any_eq_true]
  constructor
  · rintro ⟨info, hinfo, hbound⟩
    obtain ⟨token, lockInner, hfound, hlisting, rfl⟩ := (listed?_eq_some h).mp hinfo
    refine ⟨token, ⟨lockInner, hfound, ?_⟩, by rw [h.numbered token lockInner hfound]⟩
    rw [reported_of_listing? true displayId hlisting, hbound]
    rfl
  · rintro ⟨token, ⟨lockInner, hfound, hreported⟩, rfl⟩
    have hreported' := hreported
    simp only [RunningLockInner.reported, Bool.and_eq_true, decide_eq_true_eq] at hreported
    have hlisting := listing?_eq_some.mpr ⟨hreported.1, rfl⟩
    refine ⟨_, (listed?_eq_some h).mpr ⟨token, lockInner, hfound, hlisting, ?_⟩, ?_⟩
    · rw [h.numbered token lockInner hfound]
    · rw [reported_of_listing? true displayId hlisting] at hreported'
      simpa using hreported'

end Reports

/-! ## Runs -/

/-- Locks are created with the id of their token, as `PowerMgrService::CreateRunningLock` does. -/
def NumberedBy (lockid : Token → Nat) (_m : RunningLockMgr) (call : ServiceCall × Env) : Prop :=
  match call.1 with
  | .op (.createRunningLock token param) => param.lockid = lockid token
  | _ => True

section Runs

variable {cfg : Config} {lockid : Token → Nat} {m : RunningLockMgr}

theorem screenLocksListed_step (hinj : Function.Injective lockid) (op : Op) (env : Env)
    (hok : NumberedBy lockid m (.op op, env)) (h : m.ScreenLocksListed lockid) :
    (step cfg m (op, env)).ScreenLocksListed lockid := by
  have hkept := screenLocksListed_keptByProxying hinj cfg env
  cases op with
  | createRunningLock token param => exact screenLocksListed_createRunningLock token param hok h
  | lock token => exact screenLocksListed_lock hinj env token h
  | unLock token name => exact screenLocksListed_unLock hinj env token name h
  | releaseLock token name => exact screenLocksListed_releaseLock hinj env token name h
  | updateWorkSource token workSources => exact hkept.updateWorkSource token workSources h
  | proxyRunningLock isProxied pid uid => exact hkept.proxyRunningLock isProxied pid uid h
  | resetRunningLocks => exact hkept.resetRunningLocks h
  | timerUnLock token => exact screenLocksListed_unLock hinj env token "" (hkept.updateWorkSource token ∅ h)

theorem screenLocksListed_of_reach (hinj : Function.Injective lockid)
    (hreach : (serviceSystem cfg).Reach (NumberedBy lockid) m) : m.ScreenLocksListed lockid := by
  refine hreach.invariant (fun m hinit => ?_) fun m m' call hm hok hnext => ?_
  · cases hinit
    exact { numbered := fun token lockInner hfound => by simp at hfound
            listed := fun token => by simp [listed?, RunningLockMgr.listing?]
            keys := fun key hsome => by simp [listed?] at hsome }
  · cases hnext
    obtain ⟨op | token, env⟩ := call
    · exact screenLocksListed_step hinj op env hok hm
    · exact screenLocksListed_releaseLock hinj env token "" (screenLocksListed_unLock hinj env token "" hm)

/-- In every reachable state the list holds exactly the enabled screen locks, and so do the
reports: those of a display, where the build tells displays apart. -/
theorem screenLocks_listed (hinj : Function.Injective lockid)
    (hreach : (serviceSystem cfg).Reach (NumberedBy lockid) m) :
    (∀ key, key ∈ m.unSceneLockLists ↔ ∃ (token : Token) (lockInner : RunningLockInner), m.runningLocks[token]? = some lockInner ∧
      lockInner.param.type = .screen ∧ lockInner.state = .enable ∧ toString lockInner.param.lockid = key) ∧
    (∀ multiScreen displayId key info,
      (queryRunningLockLists multiScreen ∅ displayId m)[key]?.map RunningLockInfo.unnamed = some info ↔
        ∃ (token : Token) (lockInner : RunningLockInner), m.runningLocks[token]? = some lockInner ∧
          lockInner.reported multiScreen displayId = true ∧ toString lockInner.param.lockid = key ∧
          (fillAppRunningLockInfo lockInner.param).unnamed = info) ∧
    ∀ displayId, getValidRunningLockNum cfg true .screen displayId m =
      UInt32.ofNat (Lib.TreeMap.count (RunningLockInner.reported true displayId) m.runningLocks) := by
  have h := screenLocksListed_of_reach hinj hreach
  refine ⟨fun key => ?_, fun multiScreen displayId key info => ?_, fun displayId => ?_⟩
  · have hlisted : key ∈ m.unSceneLockLists ↔ ∃ info, m.listed? key = some info := by
      rw [TreeMap.mem_iff_isSome_getElem?, ← Option.isSome_iff_exists, listed?, Option.isSome_map]
    simp only [hlisted, listed?_eq_some h, listing?_eq_some]
    grind
  · exact queryRunningLockLists_reports multiScreen displayId h key info
  · simp only [getValidRunningLockNum, and_self, if_true]
    exact congrArg UInt32.ofNat (count_boundTo displayId hinj h)

end Runs

def playerLock : RunningLockParam := { lockid := 1, name := "player", type := .screen, pid := 10, uid := 20 }

/-- A player that keeps the screen on is proxied and un-proxied again. -/
def playerUnproxied : List (ServiceCall × Env) :=
  [(.op (.createRunningLock 1 playerLock), {}), (.op (.lock 1), {}),
    (.op (.proxyRunningLock true 10 20), {}), (.op (.proxyRunningLock false 10 20), {})]

theorem screenLocks_listed_playerUnproxied :
    ∃ m, (serviceSystem {}).run {} playerUnproxied = some m ∧ "1" ∈ m.unSceneLockLists ∧
      getValidRunningLockNum {} true .screen 0 m = 1 := by
  obtain ⟨m, hrun⟩ := Option.isSome_iff_exists.mp
    (rfl : ((serviceSystem {}).run {} playerUnproxied).isSome = true)
  have hlocks : ((serviceSystem {}).run {} playerUnproxied).map (fun m => m.runningLocks.toList) =
      some [(1, { param := playerLock, state := .enable })] := by decide
  rw [hrun, Option.map_some, Option.some.injEq] at hlocks
  have hreach : (serviceSystem {}).Reach (NumberedBy id) m := by
    refine Lib.System.Reach.of_run playerUnproxied (.init rfl) (fun s call hmem => ?_) hrun
    simp only [playerUnproxied, List.mem_cons, List.not_mem_nil, or_false] at hmem
    obtain rfl | rfl | rfl | rfl := hmem <;> trivial
  obtain ⟨hkeys, -, hnum⟩ := screenLocks_listed Function.injective_id hreach
  refine ⟨m, hrun, (hkeys "1").mpr ⟨1, { param := playerLock, state := .enable }, ?_, rfl, rfl, rfl⟩, ?_⟩
  · rw [← TreeMap.mem_toList_iff_getElem?_eq_some, hlocks]
    exact List.mem_singleton_self _
  · rw [hnum, Lib.TreeMap.count, hlocks]
    decide

end PowerMgr.RunningLock
