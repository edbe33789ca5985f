import PowerMgr.RunningLock.Loops

/-! # States a lock can be in

`RunningLockState` has four values, but no operation stores `UNPROXIED_RESTORE`, and a lock whose
type has no counter never leaves `DISABLE`.

* `LocksSound` — in every reachable state a lock that is not disabled is enabled or proxied and
  its type has a counter.
-/

namespace PowerMgr.RunningLock

open Std (TreeMap)

/-- A lock that is not disabled is enabled or proxied, and its type has a counter. -/
def LockView.Sound (cfg : Config) (view : LockView) : Prop :=
  view.state = .disable ∨ (view.state = .enable ∨ view.state = .proxied) ∧ hasCounter cfg view.type = true

def RunningLockMgr.LocksSound (cfg : Config) (m : RunningLockMgr) : Prop :=
  ∀ token view, m.view? token = some view → view.Sound cfg

section LocksSound

variable {cfg : Config} {m m' : RunningLockMgr}

theorem locksSound_of_view?_eq (hview : m'.view? = m.view?) (h : m.LocksSound cfg) : m'.LocksSound cfg := by
  intro token view hfound
  rw [hview] at hfound
  exact h token view hfound

theorem locksSound_update {token : Token} {view : LockView}
    (hview : m'.view? = Function.update m.view? token (some view)) (hsound : view.Sound cfg)
    (h : m.LocksSound cfg) : m'.LocksSound cfg := by
  intro other found hfound
  rw [hview] at hfound
  by_cases hsame : other = token
  · rw [hsame, Function.update_self] at hfound
    cases hfound
    exact hsound
  · rw [Function.update_of_ne hsame] at hfound
    exact h other found hfound

theorem locksSound_lock (env : Env) (token : Token) (h : m.LocksSound cfg) :
    (lock cfg env token m).1.LocksSound cfg := by
  obtain hsame | ⟨view, -, -, hcounter, hview⟩ := lock_view? cfg env token m
  · exact locksSound_of_view?_eq hsame h
  · exact locksSound_update hview (.inr ⟨.inl rfl, hcounter⟩) h

theorem locksSound_unLock (env : Env) (token : Token) (name : String) (h : m.LocksSound cfg) :
    (unLock cfg env token name m).1.LocksSound cfg := by
  obtain hsame | ⟨registered, lockInner, -, -, hview⟩ := unLock_view? cfg env token name m
  · exact locksSound_of_view?_eq hsame h
  · exact locksSound_update hview (.inl rfl) h

theorem locksSound_proxyInner (env : Env) (token : Token) (bundleNames : String) (event : RunningLockEvent)
    (h : m.LocksSound cfg) : (proxyInner cfg env token bundleNames event m).LocksSound cfg := by
  cases event with
  | update => exact locksSound_of_view?_eq (proxyInner_update_view? ..) h
  | proxy =>
    cases hfound : m.view? token with
    | none => rwa [proxyInner_of_unregistered _ _ _ _ _ hfound]
    | some view =>
      by_cases hstate : view.state = .disable
      · rw [proxyInner_proxy_of_disable _ _ _ _ _ hfound hstate]
        exact locksSound_of_view?_eq (m.view?_setBundleName token bundleNames) h
      · have hcounter := (h token view hfound).resolve_left hstate
        exact locksSound_update (proxyInner_proxy_view? _ _ _ _ _ hfound hstate)
          (.inr ⟨.inr rfl, hcounter.2⟩) h
  | unproxy =>
    rcases proxyInner_unproxy_cases cfg env token bundleNames m with
      ⟨-, hsame⟩ | ⟨view, state, -, -, rfl | ⟨rfl, hcounter⟩, hview⟩
    · exact locksSound_of_view?_eq hsame h
    · exact locksSound_update hview (.inl rfl) h
    · exact locksSound_update hview (.inr ⟨.inl rfl, hcounter⟩) h

theorem locksSound_increaseOwned {env : Env} (key : String) (token : Token) (h : m.LocksSound cfg) :
    (increaseOwned cfg env key m token).LocksSound cfg :=
  locksSound_proxyInner env token "" .proxy (locksSound_of_view?_eq (m.view?_modifyEntry key token _) h)

theorem locksSound_increaseWorkSource (env : Env) (uid : Int) (position : String × Token)
    (h : m.LocksSound cfg) : (increaseWorkSource cfg env uid m position).LocksSound cfg := by
  rcases increaseWorkSource_cases cfg env uid position.1 position.2 m with
    heq | ⟨entry, bundleName, -, -, -, ⟨-, heq⟩ | ⟨-, heq⟩⟩
  · rwa [heq]
  all_goals
    rw [heq]
    exact locksSound_proxyInner env _ _ _ h

theorem locksSound_increaseProxyCnt (env : Env) (pid uid : Int) (h : m.LocksSound cfg) :
    (increaseProxyCnt cfg env pid uid m).LocksSound cfg := by
  refine Lib.foldl_keeps (I := RunningLockMgr.LocksSound cfg)
    (fun m position hm => locksSound_increaseWorkSource env uid position hm) _ _ ?_
  exact Lib.foldl_keeps (I := RunningLockMgr.LocksSound cfg)
    (fun m token hm => locksSound_increaseOwned _ token hm) _ _ h

theorem locksSound_decreaseWorkSource (env : Env) (lower : Int → Int) (uid : Int) (position : String × Token)
    (h : m.LocksSound cfg) : (decreaseWorkSourceWith lower cfg env uid m position).LocksSound cfg := by
  rcases decreaseWorkSourceWith_cases cfg env uid position.1 position.2 m lower with
    heq | ⟨entry, bundleName, -, -, -, heq⟩
  · rwa [heq]
  · rw [heq]
    exact locksSound_proxyInner env _ _ _ h

theorem locksSound_decreaseProxyCnt (env : Env) (pid uid : Int) (h : m.LocksSound cfg) :
    (decreaseProxyCnt cfg env pid uid m).LocksSound cfg := by
  refine Lib.foldl_keeps (I := RunningLockMgr.LocksSound cfg)
    (fun m position hm => locksSound_decreaseWorkSource env _ uid position hm) _ _ ?_
  refine Lib.foldl_keeps (I := RunningLockMgr.LocksSound cfg) (fun m token hm => ?_) _ _ h
  exact locksSound_proxyInner env token _ _ hm

theorem locksSound_updateWorkSource (env : Env) (token : Token) (workSources : TreeMap Int String)
    (h : m.LocksSound cfg) : (updateWorkSource cfg env token workSources m).LocksSound cfg := by
  unfold updateWorkSource
  split
  · exact h
  · simp only [updateWorkSourceProxy]
    split
    · exact h
    · exact locksSound_of_view?_eq (RunningLockMgr.view?_modifyEntry ..)
        (locksSound_proxyInner env token _ _ h)

theorem locksSound_releaseLock (env : Env) (token : Token) (name : String) (h : m.LocksSound cfg) :
    (releaseLock cfg env token name m).LocksSound cfg := by
  by_cases hfound : m.findLock token name = none
  · rw [releaseLock_of_not_found cfg env hfound]
    exact h
  · intro other view hview
    rw [releaseLock_view? cfg env hfound] at hview
    obtain ⟨-, hnone⟩ | ⟨-, hold⟩ := Lib.update_cases hview
    · cases hnone
    · exact locksSound_unLock env token "" h other view hold

theorem locksSound_step (call : Op × Env) (h : m.LocksSound cfg) : (step cfg m call).LocksSound cfg := by
  obtain ⟨op, env⟩ := call
  cases op with
  | createRunningLock token param =>
    refine locksSound_update (createRunningLock_view? token param m) ?_ h
    cases hfound : m.view? token with
    | none => exact .inl rfl
    | some view => exact h token view hfound
  | lock token => exact locksSound_lock env token h
  | unLock token name => exact locksSound_unLock env token name h
  | releaseLock token name => exact locksSound_releaseLock env token name h
  | updateWorkSource token workSources => exact locksSound_updateWorkSource env token workSources h
  | proxyRunningLock isProxied pid uid =>
    simp only [step, proxyRunningLock]
    split
    · exact h
    · split
      · exact locksSound_increaseProxyCnt env pid uid h
      · exact locksSound_decreaseProxyCnt env pid uid h
  | resetRunningLocks =>
    refine Lib.foldl_keeps (I := RunningLockMgr.LocksSound cfg) (fun m position hm => ?_) _ _ h
    exact locksSound_of_view?_eq (RunningLockMgr.view?_modifyEntry ..) (locksSound_proxyInner env _ _ _ hm)
  | timerUnLock token =>
    exact locksSound_unLock env token "" (locksSound_updateWorkSource env token ∅ h)

theorem locksSound_of_reachable (hreach : (system cfg).Reachable m) : m.LocksSound cfg := by
  refine hreach.invariant (fun m hinit => ?_) fun m m' call hm _ hnext => ?_
  · cases hinit
    intro token view hfound
    simp [RunningLockMgr.view?] at hfound
  · cases hnext
    exact locksSound_step call hm

end LocksSound

end PowerMgr.RunningLock
