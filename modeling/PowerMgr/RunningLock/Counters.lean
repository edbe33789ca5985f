import PowerMgr.RunningLock.Loops
import PowerMgr.RunningLock.ProxyCount
import PowerMgr.RunningLock.Tally

/-! # Lock counters and enabled locks

The counter of a lock type is meant to be the number of its enabled locks, so that the HDI
holds a lock of the type exactly while somebody does.  `UnLock` breaks this: it counts down
for every lock that is not disabled, also for a proxied one, whose share of the counter was
given back when it was proxied.

* `CountersAgree` — the counters are the numbers of enabled locks;
* `Quiet` — a call that does not make `UnLock` act on a proxied lock;
* `counters_eq_enabledNum` — the counters agree in every run of quiet calls;
* `counters_wrap_after_proxied_unLock` — a client that unlocks while it is proxied wraps the
  counter around.
-/

namespace PowerMgr.RunningLock

open Std (TreeMap)
open Lib.TreeMap (count count_agree count_congr count_eq_size_iff count_eq_zero_iff count_le_size count_pos
  getElem?_insertIfNew_eq getElem?_erase_eq)

/-! ## Counting enabled locks -/

def LockView.counted (type : RunningLockType) (view : LockView) : Bool :=
  view.state = .enable && view.type = type

/-- The number of registered locks of a type that are enabled. -/
def RunningLockMgr.enabledNum (m : RunningLockMgr) (type : RunningLockType) : Nat :=
  count (fun lockInner : RunningLockInner => lockInner.state = .enable && lockInner.param.type = type)
    m.runningLocks

theorem any_counted (m : RunningLockMgr) (type : RunningLockType) (token : Token) :
    m.runningLocks[token]?.any (fun lockInner => lockInner.state = .enable && lockInner.param.type = type) =
      (m.view? token).any (LockView.counted type) := by
  cases hfound : m.runningLocks[token]? with
  | none => simp [RunningLockMgr.view?, hfound]
  | some lockInner => simp [RunningLockMgr.view?, hfound, LockView.counted, RunningLockInner.view]

theorem enabledNum_congr {m m' : RunningLockMgr} (h : m'.view? = m.view?) : m'.enabledNum = m.enabledNum := by
  funext type
  refine count_congr fun token => ?_
  rw [any_counted, any_counted, h]

theorem enabledNum_update {m m' : RunningLockMgr} {token : Token} {view : Option LockView}
    (hview : m'.view? = Function.update m.view? token view) (type : RunningLockType) :
    m'.enabledNum type + ((m.view? token).any (LockView.counted type)).toNat =
      m.enabledNum type + (view.any (LockView.counted type)).toNat := by
  have hagree := count_agree
    (fun lockInner : RunningLockInner => decide (lockInner.state = .enable) && decide (lockInner.param.type = type))
    m.runningLocks m'.runningLocks token fun token' hne => by
      rw [any_counted, any_counted, hview, Function.update_of_ne hne]
  rw [any_counted, any_counted, hview, Function.update_self] at hagree
  exact hagree

theorem enabledNum_of_not_enabled {m m' : RunningLockMgr} (token : Token) (view : Option LockView)
    (hview : m'.view? = Function.update m.view? token view)
    (hbefore : ∀ old, m.view? token = some old → old.state ≠ .enable)
    (hafter : ∀ new, view = some new → new.state ≠ .enable) : m'.enabledNum = m.enabledNum := by
  funext type
  have hupdate := enabledNum_update hview type
  have hold : (m.view? token).any (LockView.counted type) = false := by
    cases hfound : m.view? token with
    | none => rfl
    | some old => simp [LockView.counted, hbefore old hfound]
  have hnew : view.any (LockView.counted type) = false := by
    cases hfound : view with
    | none => rfl
    | some new => simp [LockView.counted, hafter new hfound]
  rw [hold, hnew] at hupdate
  exact hupdate

theorem enabledNum_enable {m m' : RunningLockMgr} {token : Token} {view : LockView}
    (hfound : m.view? token = some view) (hstate : view.state ≠ .enable)
    (hview : m'.view? = Function.update m.view? token (some { view with state := .enable })) :
    m'.enabledNum = Function.update m.enabledNum view.type (m.enabledNum view.type + 1) := by
  funext type
  have hupdate := enabledNum_update hview type
  rw [hfound] at hupdate
  by_cases hsame : type = view.type
  · subst hsame
    simpa [LockView.counted, hstate] using hupdate
  · simpa [LockView.counted, hstate, hsame, Ne.symm hsame] using hupdate

theorem enabledNum_disable {m m' : RunningLockMgr} {token : Token} {view : LockView} {state : RunningLockState}
    (hfound : m.view? token = some view) (hstate : view.state = .enable) (hnew : state ≠ .enable)
    (hview : m'.view? = Function.update m.view? token (some { view with state := state })) :
    0 < m.enabledNum view.type ∧
      m'.enabledNum = Function.update m.enabledNum view.type (m.enabledNum view.type - 1) := by
  have hself : m'.enabledNum view.type + 1 = m.enabledNum view.type := by
    have hupdate := enabledNum_update hview view.type
    rw [hfound] at hupdate
    simpa [LockView.counted, hstate, hnew] using hupdate
  refine ⟨by omega, ?_⟩
  funext type
  by_cases hsame : type = view.type
  · subst hsame
    rw [Function.update_self]
    omega
  · have hupdate := enabledNum_update hview type
    rw [hfound] at hupdate
    rw [Function.update_of_ne hsame]
    simpa [LockView.counted, hstate, hnew, Ne.symm hsame] using hupdate

theorem size_congr {m m' : RunningLockMgr} (h : ∀ token, (m'.view? token).isSome = (m.view? token).isSome) :
    m'.runningLocks.size = m.runningLocks.size := by
  have hsize : ∀ m : RunningLockMgr, count (fun _ => true) m.runningLocks = m.runningLocks.size :=
    fun m => (count_eq_size_iff _ _).mpr fun _ _ _ => rfl
  rw [← hsize, ← hsize]
  refine count_congr fun token => ?_
  have htoken := h token
  simp only [RunningLockMgr.view?, Option.isSome_map] at htoken
  cases hfound : m.runningLocks[token]? <;> cases hfound' : m'.runningLocks[token]? <;> simp_all

/-- A lock that is not enabled leaves room in the count of its type. -/
theorem enabledNum_lt_size {m : RunningLockMgr} {token : Token} {view : LockView}
    (hfound : m.view? token = some view) (type : RunningLockType) (hnot : view.counted type = false) :
    m.enabledNum type < m.runningLocks.size := by
  refine Nat.lt_of_le_of_ne (count_le_size _ _) fun hall => ?_
  obtain ⟨lockInner, hlock, rfl⟩ := Option.map_eq_some_iff.mp hfound
  have hcounted := (count_eq_size_iff _ _).mp hall token lockInner hlock
  rw [LockView.counted] at hnot
  simp_all [RunningLockInner.view]

/-! ## The counters agree with the locks -/

/-- Every counter is the number of enabled locks of its type, and types without a counter have
no enabled lock. -/
structure RunningLockMgr.CountersAgree (cfg : Config) (m : RunningLockMgr) : Prop where
  counts : m.tally.Counts m.enabledNum
  uncounted : ∀ type, hasCounter cfg type = false → m.enabledNum type = 0

/-- The locks fit the counters.  The background-task counter needs room for two more. -/
def RunningLockMgr.Fits (m : RunningLockMgr) : Prop :=
  m.runningLocks.size + 2 < 2 ^ 32

theorem fits_congr {m m' : RunningLockMgr} (h : ∀ token, (m'.view? token).isSome = (m.view? token).isSome)
    (hfits : m.Fits) : m'.Fits := by
  unfold RunningLockMgr.Fits
  rw [size_congr h]
  exact hfits

theorem fits_update {m m' : RunningLockMgr} {token : Token} {view view' : LockView}
    (hfound : m.view? token = some view)
    (hview : m'.view? = Function.update m.view? token (some view')) (hfits : m.Fits) : m'.Fits := by
  refine fits_congr (fun other => ?_) hfits
  rw [hview]
  by_cases hsame : other = token
  · subst hsame
    rw [Function.update_self, hfound]
    rfl
  · rw [Function.update_of_ne hsame]

section CountersAgree

variable {cfg : Config} {env : Env} {m : RunningLockMgr}

theorem countersAgree_congr {m' : RunningLockMgr} (htally : m'.tally = m.tally)
    (henabled : m'.enabledNum = m.enabledNum) (h : m.CountersAgree cfg) : m'.CountersAgree cfg := by
  refine ⟨?_, ?_⟩
  · rw [htally, henabled]
    exact h.counts
  · rw [henabled]
    exact h.uncounted

theorem countersAgree_proxyMap (proxyMap : RunningLockProxyMap) (h : m.CountersAgree cfg) :
    ({ m with proxyMap := proxyMap } : RunningLockMgr).CountersAgree cfg :=
  countersAgree_congr (m := m) rfl rfl h

theorem countersAgree_modifyEntry {key : String} {token : Token} {f : WksEntry → WksEntry}
    (h : m.CountersAgree cfg) : (m.modifyEntry key token f).CountersAgree cfg :=
  countersAgree_proxyMap _ h

theorem countersAgree_setBundleName (token : Token) (bundleName : String) (h : m.CountersAgree cfg) :
    (m.setBundleName token bundleName).CountersAgree cfg :=
  countersAgree_congr (m := m) rfl (enabledNum_congr (m.view?_setBundleName token bundleName)) h

/-- Counting up and enabling a lock belong together. -/
theorem countersAgree_enable {m' : RunningLockMgr} {token : Token} {view : LockView} (h : m.CountersAgree cfg)
    (hfits : m.Fits) (hfound : m.view? token = some view) (hstate : view.state ≠ .enable)
    (hcounter : hasCounter cfg view.type = true) (htally : m'.tally = m.tally.up view.type)
    (hview : m'.view? = Function.update m.view? token (some { view with state := .enable })) :
    m'.CountersAgree cfg := by
  have hnum := enabledNum_enable hfound hstate hview
  have hroom : ∀ type, m.enabledNum type < m.runningLocks.size := fun type =>
    enabledNum_lt_size hfound type (by simp [LockView.counted, hstate])
  have hown := hroom view.type
  have htask := hroom .backgroundTask
  unfold RunningLockMgr.Fits at hfits
  refine ⟨?_, fun type huncounted => ?_⟩
  · rw [htally, hnum]
    exact Tally.counts_up h.counts (by omega) (by omega)
  · have hne : type ≠ view.type := by
      rintro rfl
      rw [hcounter] at huncounted
      cases huncounted
    rw [hnum, Function.update_of_ne hne]
    exact h.uncounted type huncounted

/-- Counting down and taking an enabled lock out of its state belong together. -/
theorem countersAgree_disable {m' : RunningLockMgr} {token : Token} {view : LockView}
    (h : m.CountersAgree cfg) (hfound : m.view? token = some view) (hstate : view.state = .enable)
    (state : RunningLockState) (hnew : state ≠ .enable) (htally : m'.tally = m.tally.down view.type)
    (hview : m'.view? = Function.update m.view? token (some { view with state := state })) :
    m'.CountersAgree cfg := by
  obtain ⟨hpos, hnum⟩ := enabledNum_disable hfound hstate hnew hview
  refine ⟨?_, fun type huncounted => ?_⟩
  · rw [htally, hnum]
    exact Tally.counts_down h.counts hpos
  · have hne : type ≠ view.type := by
      rintro rfl
      rw [h.uncounted _ huncounted] at hpos
      exact Nat.lt_irrefl 0 hpos
    rw [hnum, Function.update_of_ne hne]
    exact h.uncounted type huncounted

theorem hasCounter_of_enabled {token : Token} {view : LockView} (h : m.CountersAgree cfg)
    (hfound : m.view? token = some view) (hstate : view.state = .enable) : hasCounter cfg view.type = true := by
  cases hcounter : hasCounter cfg view.type with
  | true => rfl
  | false =>
    obtain ⟨lockInner, hlock, rfl⟩ := Option.map_eq_some_iff.mp hfound
    have hpos : 0 < m.enabledNum lockInner.view.type := by
      refine count_pos hlock ?_
      have henabled : lockInner.state = .enable := hstate
      simp [henabled, RunningLockInner.view]
    rw [h.uncounted _ hcounter] at hpos
    exact absurd hpos (Nat.lt_irrefl 0)

variable (hdi : env.HdiSucceeds)

include hdi

theorem countersAgree_lock (token : Token) (h : m.CountersAgree cfg) (hfits : m.Fits) :
    (lock cfg env token m).1.CountersAgree cfg := by
  obtain ⟨-, heq⟩ | ⟨lockInner, hvalid, ⟨hfail, -⟩ | ⟨-, heq⟩⟩ := lock_cases cfg env token m
  · rwa [heq]
  · rw [(increase_tally hdi _ _ _).1] at hfail
    cases hfail
  · obtain ⟨hfound, hstate, -, hcounter⟩ := validateLockForEnable_eq_some.mp hvalid
    have hview := m.view?_of_getElem? hfound
    have hdisabled : lockInner.view.state ≠ .enable := by
      rw [show lockInner.view.state = .disable from hstate]
      exact RunningLockState.noConfusion
    have hsame : (listScreenLock lockInner.param true
        (increase env lockInner.param.type lockInner.param m).1).view? = m.view? :=
      RunningLockMgr.view?_congr (by simp)
    refine countersAgree_enable h hfits hview hdisabled hcounter ?_ ?_
    · rw [heq]
      change Tally.mk _ _ = _
      simp only [RunningLockMgr.setState_lockCounters, RunningLockMgr.setState_activated,
        listScreenLock_lockCounters, listScreenLock_activated]
      exact (increase_tally hdi lockInner.param.type lockInner.param m).2
    · rw [heq, RunningLockMgr.view?_setState _ (by rw [hsame]; exact hview), hsame]

/-- `UnLock` counts down for a lock that is not proxied only if that was enabled. -/
theorem unLock_of_not_proxied (token : Token) (name : String) (h : m.CountersAgree cfg)
    (hnot : ∀ registered lockInner, m.findLock token name = some (registered, lockInner) →
      lockInner.isProxied = false) :
    ((unLock cfg env token name m).1 = m ∧ ∀ registered lockInner,
      m.findLock token name = some (registered, lockInner) → lockInner.state = .disable) ∨
    ∃ registered lockInner, m.findLock token name = some (registered, lockInner) ∧
      lockInner.state = .enable ∧ (unLock cfg env token name m).1.tally = m.tally.down lockInner.param.type ∧
      (unLock cfg env token name m).1.view? =
        Function.update m.view? registered (some { lockInner.view with state := .disable }) := by
  rcases unLock_cases cfg env token name m with
    ⟨hnone, heq⟩ | ⟨registered, lockInner, hfound, ⟨hrefuse, heq⟩ | ⟨-, -, hfail, -⟩ | ⟨hstate, -, -, heq⟩⟩
  · refine .inl ⟨by rw [heq], fun registered lockInner hfound => ?_⟩
    rw [hnone] at hfound
    cases hfound
  · have hproxied := hnot registered lockInner hfound
    have hview := m.view?_of_getElem? (RunningLockMgr.getElem?_of_findLock hfound)
    refine .inl ⟨by rw [heq, clearIfProxied_of_not_proxied _ _ _ hproxied], fun _ found hfound' => ?_⟩
    rw [hfound] at hfound'
    cases hfound'
    obtain hdisabled | hcounter := hrefuse
    · exact hdisabled
    · -- A lock without a counter was never enabled.
      cases hstate : lockInner.state with
      | disable => rfl
      | enable =>
        have htrue := hasCounter_of_enabled h hview hstate
        rw [show lockInner.view.type = lockInner.param.type from rfl, hcounter] at htrue
        cases htrue
      | proxied => simp [RunningLockInner.isProxied, hstate] at hproxied
      | unproxiedRestore => simp [RunningLockInner.isProxied, hstate] at hproxied
  · rw [(decrease_tally hdi _ _ _).1] at hfail
    cases hfail
  · have hproxied := hnot registered lockInner hfound
    have hview := m.view?_of_getElem? (RunningLockMgr.getElem?_of_findLock hfound)
    have henabled : lockInner.state = .enable := by
      cases hstate' : lockInner.state with
      | disable => exact absurd hstate' hstate
      | enable => rfl
      | proxied => simp [RunningLockInner.isProxied, hstate'] at hproxied
      | unproxiedRestore => simp [RunningLockInner.isProxied, hstate'] at hproxied
    rw [clearIfProxied_of_not_proxied _ _ _ hproxied] at heq
    have hsame : (listScreenLock lockInner.param false
        (decrease env lockInner.param.type lockInner.param m).1).view? = m.view? :=
      RunningLockMgr.view?_congr (by simp)
    refine .inr ⟨registered, lockInner, hfound, henabled, ?_, ?_⟩
    · rw [heq]
      change Tally.mk _ _ = _
      simp only [RunningLockMgr.setState_lockCounters, RunningLockMgr.setState_activated,
        listScreenLock_lockCounters, listScreenLock_activated]
      exact (decrease_tally hdi lockInner.param.type lockInner.param m).2
    · rw [heq, RunningLockMgr.view?_setState _ (by rw [hsame]; exact hview), hsame]

theorem countersAgree_unLock (token : Token) (name : String) (h : m.CountersAgree cfg)
    (hnot : ∀ registered lockInner, m.findLock token name = some (registered, lockInner) →
      lockInner.isProxied = false) :
    (unLock cfg env token name m).1.CountersAgree cfg := by
  obtain ⟨heq, -⟩ | ⟨registered, lockInner, hfound, hstate, htally, hview⟩ := unLock_of_not_proxied hdi token name h hnot
  · rwa [heq]
  · exact countersAgree_disable h (m.view?_of_getElem? (RunningLockMgr.getElem?_of_findLock hfound)) hstate
      _ RunningLockState.noConfusion htally hview

theorem countersAgree_proxy {token : Token} {bundleNames : String} (h : m.CountersAgree cfg)
    (hnot : ∀ view, m.view? token = some view → view.isProxied = false) :
    (proxyInner cfg env token bundleNames .proxy m).CountersAgree cfg := by
  cases hfound : m.view? token with
  | none => rwa [proxyInner_of_unregistered _ _ _ _ _ hfound]
  | some view =>
    by_cases hstate : view.state = .disable
    · rw [proxyInner_proxy_of_disable _ _ _ _ _ hfound hstate]
      exact countersAgree_setBundleName token bundleNames h
    · have hproxied := hnot view hfound
      have hview := proxyInner_proxy_view? cfg env token bundleNames m hfound hstate
      obtain ⟨lockInner, hlock, rfl⟩ := Option.map_eq_some_iff.mp hfound
      have hnamed := getElem?_setBundleName_self token bundleNames m hlock
      have hnamedAgree := countersAgree_setBundleName token bundleNames h
      rcases unLock_of_not_proxied hdi token "" hnamedAgree (by
          intro registered found hfound'
          rw [RunningLockMgr.findLock_of_registered hnamed] at hfound'
          cases hfound'
          exact hproxied) with ⟨-, hdisabled⟩ | ⟨registered, found, hfound', henabled, htally, -⟩
      · exact absurd (hdisabled _ _ (RunningLockMgr.findLock_of_registered hnamed "")) hstate
      · rw [RunningLockMgr.findLock_of_registered hnamed] at hfound'
        cases hfound'
        refine countersAgree_disable h hfound henabled .proxied RunningLockState.noConfusion ?_ hview
        rw [proxyInner_proxy_eq _ _ _ _ _ hfound hstate]
        exact htally

theorem countersAgree_unproxy {token : Token} {bundleNames : String} (h : m.CountersAgree cfg) (hfits : m.Fits) :
    (proxyInner cfg env token bundleNames .unproxy m).CountersAgree cfg := by
  by_cases hproxied : ∃ view, m.view? token = some view ∧ view.state = .proxied
  · obtain ⟨view, hfound, hstate⟩ := hproxied
    have hdisabled : ((m.setBundleName token bundleNames).setState token .disable).view? =
        Function.update m.view? token (some { view with state := .disable }) := by
      rw [RunningLockMgr.view?_setState _ (by rw [RunningLockMgr.view?_setBundleName]; exact hfound),
        RunningLockMgr.view?_setBundleName]
    rw [proxyInner_unproxy_eq _ _ _ _ _ hfound hstate]
    refine countersAgree_lock hdi token (countersAgree_congr (m := m) rfl ?_ h) (fits_update hfound hdisabled hfits)
    refine enabledNum_of_not_enabled _ _ hdisabled (fun old hold => ?_) fun new hnew => ?_
    · rw [hfound] at hold
      cases hold
      rw [hstate]
      exact RunningLockState.noConfusion
    · cases hnew
      exact RunningLockState.noConfusion
  · have hnot : ∀ view, m.view? token = some view → view.state ≠ .proxied :=
      fun view hfound hstate => hproxied ⟨view, hfound, hstate⟩
    obtain heq | heq := proxyInner_unproxy_of_not_proxied cfg env token bundleNames m hnot
    · rwa [heq]
    · rw [heq]
      exact countersAgree_setBundleName token bundleNames h

omit hdi in
theorem countersAgree_update {token : Token} {bundleNames : String} (h : m.CountersAgree cfg) :
    (proxyInner cfg env token bundleNames .update m).CountersAgree cfg := by
  obtain heq | heq := proxyInner_update cfg env token bundleNames m
  · rwa [heq]
  · rw [heq]
    exact countersAgree_setBundleName token bundleNames h

omit hdi in
theorem fits_proxyInner {token : Token} {bundleNames : String} {event : RunningLockEvent} (hfits : m.Fits) :
    (proxyInner cfg env token bundleNames event m).Fits := by
  cases event with
  | update => exact fits_congr (fun _ => by rw [proxyInner_update_view?]) hfits
  | proxy =>
    refine fits_congr (fun other => ?_) hfits
    rw [proxyInner_proxify_view?]
    by_cases hsame : other = token
    · subst hsame
      rw [Function.update_self, Option.isSome_map]
    · rw [Function.update_of_ne hsame]
  | unproxy =>
    obtain ⟨-, hview⟩ | ⟨view, state, hfound, -, -, hview⟩ := proxyInner_unproxy_cases cfg env token bundleNames m
    · exact fits_congr (fun _ => by rw [hview]) hfits
    · exact fits_update hfound hview hfits

end CountersAgree

/-! ## Calls that keep the agreement

`UnLock` counts down for a proxied lock as well.  The calls below are the ones whose `UnLock`s,
their own and those they make through the proxy table, meet no proxied lock. -/

def RunningLockMgr.UnlocksProxied (m : RunningLockMgr) (token : Token) (name : String) : Prop :=
  ∃ registered lockInner, m.findLock token name = some (registered, lockInner) ∧ lockInner.isProxied = true

/-- Proxying the process reaches no proxied lock, and no enabled lock twice. -/
structure QuietIncrease (cfg : Config) (m : RunningLockMgr) (pid uid : Int) : Prop where
  owned : ∀ token view, (m.entryAt? (assembleProxyKey pid uid) token).isSome = true →
    m.view? token = some view → view.isProxied = false
  sources : ∀ position view, position.1 ≠ assembleProxyKey pid uid → m.Completing cfg uid position →
    m.view? position.2 = some view → view.isProxied = false
  ownedOnce : ∀ position view, position.1 ≠ assembleProxyKey pid uid → m.Completing cfg uid position →
    m.view? position.2 = some view → view.state = .enable →
    m.entryAt? (assembleProxyKey pid uid) position.2 = none
  sourcesOnce : ∀ position other view, position.1 ≠ assembleProxyKey pid uid →
    other.1 ≠ assembleProxyKey pid uid → m.Completing cfg uid position → m.Completing cfg uid other →
    position.2 = other.2 → m.view? position.2 = some view → view.state = .enable → position = other

/-- The call makes `UnLock` act on no proxied lock. -/
def Quiet (cfg : Config) (m : RunningLockMgr) : Op → Prop
  | .unLock token name => ¬m.UnlocksProxied token name
  | .releaseLock token name => m.findLock token name ≠ none → ¬m.UnlocksProxied token ""
  | .timerUnLock token => ¬m.UnlocksProxied token ""
  | .updateWorkSource token workSources =>
    ∀ view entry, m.view? token = some view → m.entryAt? view.ownerKey token = some entry →
      view.isProxied = true → ¬entry.CompletedBy workSources
  | .proxyRunningLock true pid uid => 1 ≤ pid → QuietIncrease cfg m pid uid
  | _ => True

/-! ## Proxying a process -/

section QuietLoops

variable {cfg : Config} {env : Env} {m : RunningLockMgr}

theorem LockView.state_of_not_proxied {view : LockView} (hnot : view.isProxied = false) :
    view.state = .disable ∨ view.state = .enable := by
  cases hstate : view.state with
  | disable => exact .inl rfl
  | enable => exact .inr rfl
  | proxied => simp [LockView.isProxied, hstate] at hnot
  | unproxiedRestore => simp [LockView.isProxied, hstate] at hnot

theorem proxyInner_proxy_proxyMap_of_not_proxied {token : Token} {bundleNames : String}
    (hnot : ∀ view, m.view? token = some view → view.isProxied = false) :
    (proxyInner cfg env token bundleNames .proxy m).proxyMap = m.proxyMap := by
  obtain hsame | ⟨view, hfound, hproxied, -⟩ := proxyInner_proxy_proxyMap cfg env token bundleNames m
  · exact hsame
  · rw [hnot view hfound] at hproxied
    cases hproxied

/-- The first loop of `IncreaseProxyCnt` while `rest` is still to be visited. -/
structure OwnedLoop (cfg : Config) (key : String) (start m : RunningLockMgr) (rest : List Token) : Prop where
  agree : m.CountersAgree cfg
  counts : m.CountsAgree
  fits : m.Fits
  nodup : rest.Nodup
  quiet : ∀ token ∈ rest, ∀ view, m.view? token = some view → view.isProxied = false
  others : ∀ key' token, key' ≠ key → m.entryAt? key' token = start.entryAt? key' token
  flagged : ∀ token entry, token ∉ rest → m.entryAt? key token = some entry →
    ∀ (uid : Int) (wks : String × Bool), entry.wks[uid]? = some wks → wks.2 = true

theorem ownedLoop_step (hdi : env.HdiSucceeds) {key : String} {start : RunningLockMgr} (m : RunningLockMgr)
    (token : Token) (rest : List Token) (h : OwnedLoop cfg key start m (token :: rest)) :
    OwnedLoop cfg key start (increaseOwned cfg env key m token) rest := by
  obtain ⟨hfresh, hnodup⟩ := List.nodup_cons.mp h.nodup
  have hnot : ∀ view, (m.modifyEntry key token WksEntry.flagAll).view? token = some view →
      view.isProxied = false := h.quiet token List.mem_cons_self
  have hentry : (increaseOwned cfg env key m token).entryAt? = (m.modifyEntry key token WksEntry.flagAll).entryAt? :=
    RunningLockMgr.entryAt?_congr (proxyInner_proxy_proxyMap_of_not_proxied hnot)
  refine ⟨?_, countsAgree_increaseOwned cfg env key token h.counts, fits_proxyInner h.fits, hnodup, ?_, ?_, ?_⟩
  · exact countersAgree_proxy hdi (countersAgree_modifyEntry h.agree) hnot
  · intro other hother view hview
    have hne : other ≠ token := fun heq => hfresh (heq ▸ hother)
    rw [increaseOwned_view?, Function.update_of_ne hne] at hview
    exact h.quiet other (List.mem_cons_of_mem _ hother) view hview
  · intro key' other hne
    rw [hentry, RunningLockMgr.entryAt?_modifyEntry, if_neg (fun hsame => hne hsame.1.symm)]
    exact h.others key' other hne
  · intro other entry hnotmem hfound
    rw [hentry, RunningLockMgr.entryAt?_modifyEntry] at hfound
    split at hfound
    · obtain ⟨old, -, rfl⟩ := Option.map_eq_some_iff.mp hfound
      intro uid wks hwks
      rw [WksEntry.flagAll, TreeMap.getElem?_map] at hwks
      obtain ⟨_, -, rfl⟩ := Option.map_eq_some_iff.mp hwks
      rfl
    next hother =>
      refine h.flagged other entry (fun hmem => ?_) hfound
      obtain rfl | hrest := List.mem_cons.mp hmem
      · exact hother ⟨rfl, rfl⟩
      · exact hnotmem hrest

/-- The second loop of `IncreaseProxyCnt` while `rest` is still to be visited. -/
structure SourceLoop (cfg : Config) (uid : Int) (m : RunningLockMgr) (rest : List (String × Token)) : Prop where
  agree : m.CountersAgree cfg
  counts : m.CountsAgree
  fits : m.Fits
  nodup : rest.Nodup
  quiet : ∀ position ∈ rest, m.Completing cfg uid position → ∀ view, m.view? position.2 = some view →
    view.isProxied = false
  once : rest.Pairwise fun position other => position.2 = other.2 → m.Completing cfg uid position →
    m.Completing cfg uid other → ∀ view, m.view? position.2 = some view → view.state ≠ .enable

/-- What the loop needs is kept by a body that leaves the other positions alone and takes an enabled
lock out of its state only where the position completes it. -/
theorem sourceLoop_next {uid : Int} {m' : RunningLockMgr} {position : String × Token}
    {rest : List (String × Token)} (h : SourceLoop cfg uid m (position :: rest))
    (hagree : m'.CountersAgree cfg) (hcounts : m'.CountsAgree) (hfits : m'.Fits)
    (hentry : ∀ other ∈ rest, m'.entryAt? other.1 other.2 = m.entryAt? other.1 other.2)
    (hview : m'.view? = m.view? ∨ m.Completing cfg uid position ∧ ∃ view, m.view? position.2 = some view ∧
      view.state = .enable ∧
      m'.view? = Function.update m.view? position.2 (some { view with state := .proxied })) :
    SourceLoop cfg uid m' rest := by
  obtain ⟨-, hnodup⟩ := List.nodup_cons.mp h.nodup
  obtain ⟨hfirst, hrest⟩ := List.pairwise_cons.mp h.once
  have hnames : ∀ token, (m'.view? token).map LockView.name = (m.view? token).map LockView.name := by
    intro token
    obtain hsame | ⟨-, view, hfound, -, hupdate⟩ := hview
    · rw [hsame]
    · rw [hupdate]
      by_cases htoken : token = position.2
      · rw [htoken, Function.update_self, hfound]
        rfl
      · rw [Function.update_of_ne htoken]
  have hcompleting : ∀ other ∈ rest, m'.Completing cfg uid other ↔ m.Completing cfg uid other :=
    fun other hmem => completing_congr (hnames other.2) (hentry other hmem)
  refine ⟨hagree, hcounts, hfits, hnodup, fun other hmem hcomplete view hfound => ?_, ?_⟩
  · rw [hcompleting other hmem] at hcomplete
    obtain hsame | ⟨hposition, old, hold, henabled, hupdate⟩ := hview
    · rw [hsame] at hfound
      exact h.quiet other (List.mem_cons_of_mem _ hmem) hcomplete view hfound
    · by_cases htoken : other.2 = position.2
      · exact absurd henabled (hfirst other hmem htoken.symm hposition hcomplete old hold)
      · rw [hupdate, Function.update_of_ne htoken] at hfound
        exact h.quiet other (List.mem_cons_of_mem _ hmem) hcomplete view hfound
  · refine hrest.imp_of_mem fun {first second} hfirstMem hsecondMem hpair htoken hone htwo view hfound => ?_
    rw [hcompleting first hfirstMem] at hone
    rw [hcompleting second hsecondMem] at htwo
    obtain hsame | ⟨-, old, -, -, hupdate⟩ := hview
    · rw [hsame] at hfound
      exact hpair htoken hone htwo view hfound
    · rw [hupdate] at hfound
      by_cases hposition : first.2 = position.2
      · rw [hposition, Function.update_self] at hfound
        cases hfound
        exact RunningLockState.noConfusion
      · rw [Function.update_of_ne hposition] at hfound
        exact hpair htoken hone htwo view hfound

theorem sourceLoop_step (hdi : env.HdiSucceeds) {uid : Int} (m : RunningLockMgr) (position : String × Token)
    (rest : List (String × Token)) (h : SourceLoop cfg uid m (position :: rest)) :
    SourceLoop cfg uid (increaseWorkSource cfg env uid m position) rest := by
  obtain ⟨key, token⟩ := position
  have hfresh := (List.nodup_cons.mp h.nodup).1
  have hcounts := countsAgree_increaseWorkSource cfg env uid (key, token) h.counts
  rcases increaseWorkSource_cases cfg env uid key token m with
    heq | ⟨entry, bundleName, hskip, hentry, hwks, ⟨hfull, heq⟩ | ⟨-, heq⟩⟩
  · rw [heq]
    exact sourceLoop_next h h.agree h.counts h.fits (fun _ _ => rfl) (.inl rfl)
  all_goals
    have hraised : ∀ other ∈ rest, (m.modifyEntry key token fun _ => entry.raise uid bundleName).entryAt?
        other.1 other.2 = m.entryAt? other.1 other.2 := by
      intro other hmem
      rw [RunningLockMgr.entryAt?_modifyEntry, if_neg]
      rintro ⟨rfl, rfl⟩
      exact hfresh hmem
    have hagree : (m.modifyEntry key token fun _ => entry.raise uid bundleName).CountersAgree cfg :=
      countersAgree_modifyEntry h.agree
    rw [heq] at hcounts ⊢
  · have hcomplete : m.Completing cfg uid (key, token) :=
      ⟨hskip, entry, bundleName, hentry, hwks, (raise_full_iff (h.counts key token entry hentry) hwks).mp hfull⟩
    have hnot : ∀ view, (m.modifyEntry key token fun _ => entry.raise uid bundleName).view? token = some view →
        view.isProxied = false := h.quiet (key, token) List.mem_cons_self hcomplete
    refine sourceLoop_next h (countersAgree_proxy hdi hagree hnot) hcounts (fits_proxyInner h.fits) ?_ ?_
    · intro other hmem
      rw [RunningLockMgr.entryAt?_congr (proxyInner_proxy_proxyMap_of_not_proxied hnot)]
      exact hraised other hmem
    · rw [proxyInner_proxify_view?, RunningLockMgr.view?_modifyEntry]
      cases hview : m.view? token with
      | none =>
        rw [Option.map_none, ← hview, Function.update_eq_self]
        exact .inl rfl
      | some view =>
        rw [Option.map_some, LockView.proxify]
        obtain hstate | hstate := LockView.state_of_not_proxied (hnot view hview)
        · rw [if_pos hstate, ← hview, Function.update_eq_self]
          exact .inl rfl
        · rw [hstate]
          exact .inr ⟨hcomplete, view, rfl, hstate, rfl⟩
  · refine sourceLoop_next h (countersAgree_update hagree) hcounts (fits_proxyInner h.fits) ?_ ?_
    · intro other hmem
      rw [RunningLockMgr.entryAt?_congr (proxyInner_update_proxyMap ..)]
      exact hraised other hmem
    · exact .inl (proxyInner_update_view? ..)

section AfterOwned

variable {pid uid : Int} {proxied : RunningLockMgr} {position : String × Token}
  (howned : OwnedLoop cfg (assembleProxyKey pid uid) m proxied [])
  (hview : ∀ token, proxied.view? token =
    if (m.entryAt? (assembleProxyKey pid uid) token).isSome = true then (m.view? token).map LockView.proxify
    else m.view? token)

include howned hview

/-- Under the key itself every flag is up by now, so only other keys can complete an entry. -/
theorem OwnedLoop.completing (hcomplete : proxied.Completing cfg uid position) :
    position.1 ≠ assembleProxyKey pid uid ∧ m.Completing cfg uid position := by
  have hne : position.1 ≠ assembleProxyKey pid uid := by
    intro hkey
    obtain ⟨-, entry, bundleName, hentry, hwks, -⟩ := hcomplete
    rw [hkey] at hentry
    cases howned.flagged position.2 entry (List.not_mem_nil) hentry uid _ hwks
  refine ⟨hne, (completing_congr ?_ (howned.others position.1 position.2 hne)).mp hcomplete⟩
  rw [hview]
  split
  · cases m.view? position.2 with
    | none => rfl
    | some view => simp [proxify_name]
  · rfl

/-- A lock whose entry can still be completed has been left as it was. -/
theorem OwnedLoop.view_completing (hquiet : QuietIncrease cfg m pid uid)
    (hcomplete : proxied.Completing cfg uid position) {view : LockView}
    (hfound : proxied.view? position.2 = some view) : m.view? position.2 = some view := by
  obtain ⟨hne, hold⟩ := howned.completing hview hcomplete
  rw [hview] at hfound
  split at hfound
  next howner =>
    obtain ⟨old, hold', rfl⟩ := Option.map_eq_some_iff.mp hfound
    obtain hstate | hstate := LockView.state_of_not_proxied (hquiet.sources position old hne hold hold')
    · rw [LockView.proxify, if_pos hstate]
      exact hold'
    · rw [hquiet.ownedOnce position old hne hold hold' hstate] at howner
      cases howner
  next => exact hfound

end AfterOwned

theorem countersAgree_increaseProxyCnt (hdi : env.HdiSucceeds) {pid uid : Int} (h : m.CountersAgree cfg)
    (hcounts : m.CountsAgree) (hfits : m.Fits) (hquiet : QuietIncrease cfg m pid uid) :
    (increaseProxyCnt cfg env pid uid m).CountersAgree cfg := by
  let key := assembleProxyKey pid uid
  let proxied := (m.tokensOf key).foldl (increaseOwned cfg env key) m
  have howned : OwnedLoop cfg key m proxied [] := by
    refine Lib.foldl_rest (OwnedLoop cfg key m) (ownedLoop_step hdi) _ _
      ⟨h, hcounts, hfits, m.nodup_tokensOf key, ?_, fun _ _ _ => rfl, ?_⟩
    · exact fun token hmem view hview => hquiet.owned token view ((m.mem_tokensOf key token).mp hmem) hview
    · intro token entry hnot hfound
      rw [m.mem_tokensOf, hfound] at hnot
      exact absurd rfl hnot
  have hview : ∀ token, proxied.view? token =
      if (m.entryAt? key token).isSome = true then (m.view? token).map LockView.proxify else m.view? token :=
    increaseOwnedLoop_view? cfg env key m
  have hsources : SourceLoop cfg uid proxied proxied.positions := by
    refine ⟨howned.agree, howned.counts, howned.fits, proxied.nodup_positions, ?_, ?_⟩
    · intro position _ hcomplete view hfound
      obtain ⟨hne, hold⟩ := howned.completing hview hcomplete
      exact hquiet.sources position view hne hold (howned.view_completing hview hquiet hcomplete hfound)
    · refine proxied.nodup_positions.imp fun {position other} hdiff htoken hone htwo view hfound henabled => ?_
      obtain ⟨hne, hold⟩ := howned.completing hview hone
      obtain ⟨hne', hold'⟩ := howned.completing hview htwo
      have hsame := howned.view_completing hview hquiet hone hfound
      exact hdiff (hquiet.sourcesOnce position other view hne hne' hold hold' htoken hsame henabled)
  exact (Lib.foldl_rest (SourceLoop cfg uid) (sourceLoop_step hdi) _ _ hsources).agree

end QuietLoops

/-! ## Every other call -/

section OtherCalls

variable {cfg : Config} {env : Env} {m : RunningLockMgr} (hdi : env.HdiSucceeds)

include hdi

/-- Any event but proxying keeps the agreement unconditionally. -/
theorem countersAgree_release {token : Token} {bundleNames : String} {event : RunningLockEvent}
    (hevent : event ≠ .proxy) (h : m.CountersAgree cfg) (hfits : m.Fits) :
    (proxyInner cfg env token bundleNames event m).CountersAgree cfg := by
  cases event with
  | proxy => exact absurd rfl hevent
  | unproxy => exact countersAgree_unproxy hdi h hfits
  | update => exact countersAgree_update h

theorem countersAgree_decreaseProxyCnt {pid uid : Int} (h : m.CountersAgree cfg) (hfits : m.Fits) :
    (decreaseProxyCnt cfg env pid uid m).CountersAgree cfg := by
  have hboth := Lib.foldl_keeps (I := fun m : RunningLockMgr => m.CountersAgree cfg ∧ m.Fits)
    (f := decreaseOwned cfg env (assembleProxyKey pid uid)) (fun m token hm =>
      ⟨countersAgree_unproxy hdi (countersAgree_modifyEntry hm.1) hm.2, fits_proxyInner hm.2⟩)
    (m.tokensOf (assembleProxyKey pid uid)) m ⟨h, hfits⟩
  refine (Lib.foldl_keeps (I := fun m : RunningLockMgr => m.CountersAgree cfg ∧ m.Fits)
    (fun m position hm => ?_) _ _ hboth).1
  obtain ⟨key, token⟩ := position
  obtain heq | ⟨entry, bundleName, -, -, -, heq⟩ := decreaseWorkSourceWith_cases cfg env uid key token m _
  · rwa [heq]
  · rw [heq]
    refine ⟨countersAgree_release hdi ?_ (countersAgree_modifyEntry hm.1) hm.2, fits_proxyInner hm.2⟩
    split <;> exact RunningLockEvent.noConfusion

theorem countersAgree_resetRunningLocks (h : m.CountersAgree cfg) (hfits : m.Fits) :
    (resetRunningLocks cfg env m).CountersAgree cfg := by
  refine (Lib.foldl_keeps (I := fun m : RunningLockMgr => m.CountersAgree cfg ∧ m.Fits) (fun m position hm => ?_) _ _
    ⟨h, hfits⟩).1
  exact ⟨countersAgree_modifyEntry (countersAgree_unproxy hdi (countersAgree_modifyEntry hm.1) hm.2),
    fits_proxyInner hm.2⟩

theorem countersAgree_updateWorkSource {token : Token} {workSources : TreeMap Int String}
    (h : m.CountersAgree cfg) (hcounts : m.CountsAgree) (hfits : m.Fits)
    (hquiet : ∀ view entry, m.view? token = some view → m.entryAt? view.ownerKey token = some entry →
      view.isProxied = true → ¬entry.CompletedBy workSources) :
    (updateWorkSource cfg env token workSources m).CountersAgree cfg := by
  unfold updateWorkSource
  split
  · exact h
  next lockInner hlock =>
    have hview := m.view?_of_getElem? hlock
    simp only [updateWorkSourceProxy]
    split
    · exact h
    next entry hentry =>
      refine countersAgree_modifyEntry ?_
      by_cases hevent : workSourceEvent entry (scanWorkSources entry.wks workSources) = .proxy
      · have hcompleted := completedBy_of_proxy_event (hcounts _ _ _ hentry) hevent
        rw [hevent]
        refine countersAgree_proxy hdi h fun view hfound => ?_
        rw [hview] at hfound
        cases hfound
        cases hproxied : lockInner.view.isProxied with
        | false => rfl
        | true => exact absurd hcompleted (hquiet _ entry hview hentry hproxied)
      · exact countersAgree_release hdi hevent h hfits

/-- A token that was not proxied is not enabled once it has been unlocked. -/
theorem not_enabled_after_unLock {token : Token} (h : m.CountersAgree cfg)
    (hnot : ∀ registered lockInner, m.findLock token "" = some (registered, lockInner) → lockInner.isProxied = false) :
    ∀ view, (unLock cfg env token "" m).1.view? token = some view → view.state ≠ .enable := by
  intro view hview
  rcases unLock_of_not_proxied hdi token "" h hnot with
    ⟨heq, hdisable⟩ | ⟨registered, found, hfound, -, -, hupdate⟩
  · rw [heq] at hview
    obtain ⟨inner, hinner, rfl⟩ := Option.map_eq_some_iff.mp hview
    have hdisabled : inner.view.state = .disable := hdisable _ _ (RunningLockMgr.findLock_of_registered hinner "")
    rw [hdisabled]
    exact RunningLockState.noConfusion
  · rw [hupdate] at hview
    obtain ⟨-, hnew⟩ | ⟨hne, hold⟩ := Lib.update_cases hview
    · cases hnew
      exact RunningLockState.noConfusion
    · -- The token itself is not registered, the lock was found by its name.
      obtain ⟨inner, hinner, rfl⟩ := Option.map_eq_some_iff.mp hold
      rw [RunningLockMgr.findLock_of_registered hinner] at hfound
      cases hfound
      exact absurd rfl hne

/-- Releasing a token after `UnLock` takes no enabled lock away. -/
theorem countersAgree_releaseLock {token : Token} {name : String} (h : m.CountersAgree cfg)
    (hquiet : m.findLock token name ≠ none → ¬m.UnlocksProxied token "") :
    (releaseLock cfg env token name m).CountersAgree cfg := by
  by_cases hfound : m.findLock token name = none
  · rw [releaseLock_of_not_found cfg env hfound]
    exact h
  · have hnot : ∀ registered lockInner, m.findLock token "" = some (registered, lockInner) →
        lockInner.isProxied = false := by
      intro registered lockInner hfound'
      cases hproxied : lockInner.isProxied with
      | false => rfl
      | true => exact absurd ⟨registered, lockInner, hfound', hproxied⟩ (hquiet hfound)
    have hunlocked := countersAgree_unLock hdi token "" h hnot
    have hdisabled := not_enabled_after_unLock hdi h hnot
    obtain ⟨proxyMap, heq⟩ := releaseLock_eq cfg env hfound
    refine countersAgree_congr (by rw [heq]; rfl) ?_ hunlocked
    exact enabledNum_of_not_enabled token none (releaseLock_view? cfg env hfound) hdisabled fun new hnew => by cases hnew

end OtherCalls

theorem countersAgree_createRunningLock {cfg : Config} {m : RunningLockMgr} (token : Token)
    (param : RunningLockParam) (h : m.CountersAgree cfg) : (createRunningLock token param m).CountersAgree cfg := by
  obtain ⟨hcounters, hactivated⟩ := createRunningLock_lockCounters token param m
  refine countersAgree_congr (by rw [RunningLockMgr.tally, hcounters, hactivated]; rfl) ?_ h
  have hview := createRunningLock_view? token param m
  cases hfound : m.view? token with
  | none =>
    refine enabledNum_of_not_enabled _ _ hview (fun old hold => ?_) fun new hnew => ?_
    · rw [hfound] at hold
      cases hold
    · rw [hfound] at hnew
      cases hnew
      exact RunningLockState.noConfusion
  | some view =>
    refine enabledNum_congr ?_
    rw [hview, hfound, Option.getD_some, ← hfound, Function.update_eq_self]

theorem unlocksProxied_of_updateWorkSource_empty {cfg : Config} {env : Env} {m : RunningLockMgr} {token : Token}
    (h : (updateWorkSource cfg env token ∅ m).UnlocksProxied token "") : m.UnlocksProxied token "" := by
  cases hfound : m.runningLocks[token]? with
  | none =>
    have hsame : updateWorkSource cfg env token ∅ m = m := by simp [updateWorkSource, hfound]
    rwa [hsame] at h
  | some lockInner =>
    have hview := m.view?_of_getElem? hfound
    rw [← updateWorkSource_empty_view? cfg env token m] at hview
    obtain ⟨named, hnamed, hsame⟩ := Option.map_eq_some_iff.mp hview
    obtain ⟨registered, found, hlock, hproxied⟩ := h
    rw [RunningLockMgr.findLock_of_registered hnamed] at hlock
    cases hlock
    refine ⟨token, lockInner, RunningLockMgr.findLock_of_registered hfound "", ?_⟩
    rw [← RunningLockInner.view_isProxied, ← hsame]
    exact hproxied

/-! ## Runs -/

/-- What a call must meet: the HDI does as it is told, the locks fit the counters, and `UnLock`
acts on no proxied lock. -/
structure Keeps (cfg : Config) (m : RunningLockMgr) (call : Op × Env) : Prop where
  hdi : call.2.HdiSucceeds
  fits : m.Fits
  quiet : Quiet cfg m call.1

theorem countersAgree_step {cfg : Config} {m : RunningLockMgr} {call : Op × Env} (h : m.CountersAgree cfg)
    (hcounts : m.CountsAgree) (hkeeps : Keeps cfg m call) : (step cfg m call).CountersAgree cfg := by
  obtain ⟨op, env⟩ := call
  obtain ⟨hdi, hfits, hquiet⟩ := hkeeps
  have hnot : ∀ m : RunningLockMgr, ∀ token name, ¬m.UnlocksProxied token name →
      ∀ registered lockInner, m.findLock token name = some (registered, lockInner) →
      lockInner.isProxied = false := by
    intro m token name hunlocks registered lockInner hfound
    cases hproxied : lockInner.isProxied with
    | false => rfl
    | true => exact absurd ⟨registered, lockInner, hfound, hproxied⟩ hunlocks
  cases op with
  | createRunningLock token param => exact countersAgree_createRunningLock token param h
  | lock token => exact countersAgree_lock hdi token h hfits
  | unLock token name => exact countersAgree_unLock hdi _ _ h (hnot m token name hquiet)
  | releaseLock token name => exact countersAgree_releaseLock hdi h hquiet
  | updateWorkSource token workSources => exact countersAgree_updateWorkSource hdi h hcounts hfits hquiet
  | proxyRunningLock isProxied pid uid =>
    simp only [step, proxyRunningLock]
    split
    · exact h
    next hpid =>
      cases isProxied with
      | true => exact countersAgree_increaseProxyCnt hdi h hcounts hfits (hquiet (by omega))
      | false => exact countersAgree_decreaseProxyCnt hdi h hfits
  | resetRunningLocks => exact countersAgree_resetRunningLocks hdi h hfits
  | timerUnLock token =>
    have hdropped : (updateWorkSource cfg env token ∅ m).CountersAgree cfg :=
      countersAgree_updateWorkSource hdi h hcounts hfits fun _ _ _ _ _ hcompleted => hcompleted.1 rfl
    exact countersAgree_unLock hdi _ _ hdropped
      (hnot _ token "" fun hproxied => hquiet (unlocksProxied_of_updateWorkSource_empty hproxied))

theorem countersAgree_init (cfg : Config) : ({} : RunningLockMgr).CountersAgree cfg := by
  have hnone : ∀ type, ({} : RunningLockMgr).enabledNum type = 0 := fun type =>
    (count_eq_zero_iff _ _).mpr fun token lockInner hfound => by simp at hfound
  exact ⟨⟨fun type _ => (hnone type).symm, (hnone .backgroundTask).symm, fun type _ => by simp [RunningLockMgr.tally]⟩,
    fun type _ => hnone type⟩

theorem countersAgree_of_reach {cfg : Config} {m : RunningLockMgr} (hreach : (system cfg).Reach (Keeps cfg) m) :
    m.CountersAgree cfg ∧ m.CountsAgree := by
  refine hreach.invariant (I := fun m => m.CountersAgree cfg ∧ m.CountsAgree) (fun m hinit => ?_)
    fun m m' call hm hkeeps hnext => ?_
  · cases hinit
    exact ⟨countersAgree_init cfg, countsAgree_init⟩
  · cases hnext
    exact ⟨countersAgree_step hm.1 hm.2 hkeeps, countsAgree_step cfg call hm.2⟩

/-- In every run whose calls make `UnLock` act on no proxied lock, each counter is the number of
enabled locks of its type, the background-task counter also counts the idle and the coordination
counter while these are positive, and the action of a type is on exactly while its counter is
positive. -/
theorem counters_eq_enabledNum {cfg : Config} {m : RunningLockMgr}
    (hreach : (system cfg).Reach (Keeps cfg) m) :
    (∀ type, type ≠ .backgroundTask → (m.lockCounters type).toNat = m.enabledNum type) ∧
    (m.lockCounters .backgroundTask).toNat = m.enabledNum .backgroundTask +
      (if 0 < (m.lockCounters .backgroundUserIdle).toNat then 1 else 0) +
      (if 0 < (m.lockCounters .coordination).toNat then 1 else 0) ∧
    (∀ type, m.activated type = true ↔ 0 < (m.lockCounters type).toNat) ∧
    ∀ type, type ≠ .backgroundTask → (m.activated type = true ↔
      ∃ (token : Token) (lockInner : RunningLockInner), m.runningLocks[token]? = some lockInner ∧
        lockInner.state = .enable ∧ lockInner.param.type = type) := by
  obtain ⟨⟨hcounts, -⟩, -⟩ := countersAgree_of_reach hreach
  have hactive : ∀ type, m.activated type = true ↔ 0 < (m.lockCounters type).toNat :=
    fun type => hcounts.active type trivial
  refine ⟨hcounts.own, hcounts.task, hactive, fun type htype => ?_⟩
  rw [hactive, show (m.lockCounters type).toNat = m.enabledNum type from hcounts.own type htype]
  constructor
  · intro hpos
    by_contra hnone
    have hzero : m.enabledNum type = 0 := (count_eq_zero_iff _ _).mpr fun token lockInner hfound => by
      by_contra henabled
      exact hnone ⟨token, lockInner, hfound, by simpa using henabled⟩
    omega
  · rintro ⟨token, lockInner, hfound, hstate, rfl⟩
    exact count_pos hfound (by simp [hstate])

/-- An audio lock of process `10`, user `20`. -/
def audioLock : RunningLockParam :=
  { lockid := 1, name := "player", type := .backgroundAudio, pid := 10, uid := 20, typeHdi := .backgroundAudio }

def audioLocked : RunningLockMgr :=
  step {} (step {} {} (.createRunningLock 1 audioLock, {})) (.lock 1, {})

theorem position_of_audioLocked (position : String × Token)
    (hsome : (audioLocked.entryAt? position.1 position.2).isSome = true) : position = ("10_20", 1) := by
  have honly : audioLocked.positions = [("10_20", 1)] := by decide
  rw [← RunningLockMgr.mem_positions, honly] at hsome
  exact List.mem_singleton.mp hsome

theorem quietIncrease_audioLocked : QuietIncrease {} audioLocked 10 20 := by
  have hforeign : ∀ position, position.1 ≠ assembleProxyKey 10 20 → ¬audioLocked.Completing {} 20 position := by
    rintro position hne ⟨-, entry, -, hentry, -⟩
    have honly := position_of_audioLocked position (by rw [hentry]; rfl)
    rw [honly] at hne
    exact hne (by decide)
  refine ⟨fun token view hentry hview => ?_, fun position _ hne hcomplete => ?_,
    fun position _ hne hcomplete => ?_, fun position _ _ hne _ hcomplete => ?_⟩
  · have honly := position_of_audioLocked (assembleProxyKey 10 20, token) hentry
    cases (Prod.mk.inj honly).2
    cases hview
    rfl
  all_goals exact absurd hcomplete (hforeign position hne)

/-- A lock is created, enabled, proxied with its process and un-proxied again. -/
theorem counters_eq_enabledNum_audioLock :
    ∃ m, (system {}).run {} [(.createRunningLock 1 audioLock, {}), (.lock 1, {}),
        (.proxyRunningLock true 10 20, {}), (.proxyRunningLock false 10 20, {})] = some m ∧
      m.enabledNum .backgroundAudio = 1 ∧
      (m.lockCounters .backgroundAudio).toNat = m.enabledNum .backgroundAudio := by
  have hdi : ({} : Env).HdiSucceeds := fun _ _ _ => rfl
  have hcreated : (system {}).Reach (Keeps {}) (step {} {} (.createRunningLock 1 audioLock, {})) :=
    .step (Op.createRunningLock 1 audioLock, ({} : Env)) (.init rfl)
      ⟨hdi, by unfold RunningLockMgr.Fits; decide, trivial⟩ rfl
  have hlocked : (system {}).Reach (Keeps {}) audioLocked :=
    hcreated.step (Op.lock 1, ({} : Env)) ⟨hdi, by unfold RunningLockMgr.Fits; decide, trivial⟩ rfl
  have hproxied := hlocked.step (Op.proxyRunningLock true 10 20, ({} : Env))
    ⟨hdi, by unfold RunningLockMgr.Fits; decide, fun _ => quietIncrease_audioLocked⟩ rfl
  have hdone := hproxied.step (Op.proxyRunningLock false 10 20, ({} : Env))
    ⟨hdi, by unfold RunningLockMgr.Fits; decide, trivial⟩ rfl
  exact ⟨_, rfl, by decide, (counters_eq_enabledNum hdone).1 .backgroundAudio (by decide)⟩

/-- A client that unlocks while it is proxied takes the counter below zero: the claim that the
counters agree in every run with a working HDI is false. -/
theorem counters_wrap_after_proxied_unLock :
    ¬∀ m, (system {}).Reach (fun _ call => call.2.HdiSucceeds) m →
      ∀ type, type ≠ .backgroundTask → (m.lockCounters type).toNat = m.enabledNum type := by
  intro hagree
  have hreach : (system {}).Reach (fun _ call => call.2.HdiSucceeds) _ :=
    Lib.System.Reach.of_run [(.createRunningLock 1 audioLock, {}), (.lock 1, {}),
      (.proxyRunningLock true 10 20, {}), (.unLock 1 "", {})] (.init rfl) (fun _ call hmem => by
        simp only [List.mem_cons, List.not_mem_nil, or_false] at hmem
        obtain rfl | rfl | rfl | rfl := hmem <;> exact fun _ _ _ => rfl) rfl
  have hwrapped := hagree _ hreach .backgroundAudio (by decide)
  revert hwrapped
  decide

end PowerMgr.RunningLock
