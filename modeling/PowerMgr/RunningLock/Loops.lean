import PowerMgr.RunningLock.Basic

/-! # The loops over the proxy table

The first loop of `IncreaseProxyCnt` and `DecreaseProxyCnt` visits the tokens of one key, the
second one all positions of the table.  Their bodies touch only the lock and the entries of
the token they visit, so a whole loop acts on every lock independently of the order:

* `mem_tokensOf`, `mem_positions` — what the loops visit;
* `increaseOwnedLoop_view?` — every lock of the key that is not disabled ends up proxied;
* `KeptByProxying` — an assertion kept by a change of one entry and by telling one lock is kept
  by every call of the proxy table.
-/

namespace PowerMgr.RunningLock

open Std (TreeMap)

namespace RunningLockMgr

variable (m : RunningLockMgr)

/-! ## What the loops visit -/

theorem mem_tokensOf (key : String) (token : Token) :
    token ∈ m.tokensOf key ↔ (m.entryAt? key token).isSome = true := by
  cases hkey : m.proxyMap[key]? with
  | none => simp [tokensOf, entryAt?, hkey]
  | some tokenWksMap =>
    simp [tokensOf, entryAt?, hkey, TreeMap.mem_keys]

theorem nodup_tokensOf (key : String) : (m.tokensOf key).Nodup := by
  cases hkey : m.proxyMap[key]? with
  | none => simp [tokensOf, hkey]
  | some tokenWksMap =>
    simp only [tokensOf, hkey, Option.map_some, Option.getD_some]
    exact TreeMap.nodup_keys

theorem mem_positions (key : String) (token : Token) :
    (key, token) ∈ m.positions ↔ (m.entryAt? key token).isSome = true := by
  simp only [positions, List.mem_flatMap, List.mem_map, Prod.mk.injEq, Prod.exists,
    TreeMap.mem_toList_iff_getElem?_eq_some]
  constructor
  · rintro ⟨key', tokenWksMap, hkey, token', htoken, rfl, rfl⟩
    rw [TreeMap.mem_keys, TreeMap.mem_iff_isSome_getElem?] at htoken
    simpa [entryAt?, hkey] using htoken
  · intro h
    cases hkey : m.proxyMap[key]? with
    | none => simp [entryAt?, hkey] at h
    | some tokenWksMap =>
      refine ⟨key, tokenWksMap, hkey, token, ?_, rfl, rfl⟩
      rw [TreeMap.mem_keys, TreeMap.mem_iff_isSome_getElem?]
      simpa [entryAt?, hkey] using h

theorem nodup_positions : m.positions.Nodup := by
  have hkeys : (m.proxyMap.toList.map Prod.fst).Nodup := by
    rw [TreeMap.map_fst_toList_eq_keys]
    exact TreeMap.nodup_keys
  refine List.nodup_flatMap.mpr ⟨fun proxyItem _ => ?_, ?_⟩
  · exact TreeMap.nodup_keys.map fun token token' h => (Prod.mk.inj h).2
  · refine (List.pairwise_map.mp hkeys).imp fun {proxyItem proxyItem'} hne => ?_
    intro position hmem hmem'
    obtain ⟨token, -, rfl⟩ := List.mem_map.mp hmem
    obtain ⟨token', -, heq⟩ := List.mem_map.mp hmem'
    exact hne (Prod.mk.inj heq).1.symm

end RunningLockMgr

/-! ## Locks visited by the first loops -/

/-- Proxying leaves a disabled lock alone and marks any other. -/
def LockView.proxify (view : LockView) : LockView :=
  if view.state = .disable then view else { view with state := .proxied }

theorem proxify_name (view : LockView) : view.proxify.name = view.name := by
  unfold LockView.proxify
  split <;> rfl

theorem proxyInner_proxify_view? (cfg : Config) (env : Env) (token : Token) (bundleNames : String)
    (m : RunningLockMgr) :
    (proxyInner cfg env token bundleNames .proxy m).view? =
      Function.update m.view? token ((m.view? token).map LockView.proxify) := by
  cases hview : m.view? token with
  | none =>
    rw [proxyInner_of_unregistered _ _ _ _ _ hview, Option.map_none, ← hview, Function.update_eq_self]
  | some view =>
    by_cases hstate : view.state = .disable
    · rw [proxyInner_proxy_of_disable _ _ _ _ _ hview hstate, RunningLockMgr.view?_setBundleName,
        Option.map_some, LockView.proxify, if_pos hstate, ← hview, Function.update_eq_self]
    · rw [proxyInner_proxy_view? _ _ _ _ _ hview hstate, Option.map_some, LockView.proxify, if_neg hstate]

theorem proxyInner_unproxy_cases (cfg : Config) (env : Env) (token : Token) (bundleNames : String)
    (m : RunningLockMgr) :
    ((∀ view, m.view? token = some view → view.state ≠ .proxied) ∧
      (proxyInner cfg env token bundleNames .unproxy m).view? = m.view?) ∨
    ∃ view state, m.view? token = some view ∧ view.state = .proxied ∧
      (state = .disable ∨ state = .enable ∧ hasCounter cfg view.type = true) ∧
      (proxyInner cfg env token bundleNames .unproxy m).view? =
        Function.update m.view? token (some { view with state := state }) := by
  by_cases hproxied : ∃ view, m.view? token = some view ∧ view.state = .proxied
  · obtain ⟨view, hview, hstate⟩ := hproxied
    obtain ⟨state, hstate', heq⟩ := proxyInner_unproxy_view? cfg env token bundleNames m hview hstate
    exact .inr ⟨view, state, hview, hstate, hstate', heq⟩
  · have hnot : ∀ view, m.view? token = some view → view.state ≠ .proxied :=
      fun view hview hstate => hproxied ⟨view, hview, hstate⟩
    refine .inl ⟨hnot, ?_⟩
    obtain h | h := proxyInner_unproxy_of_not_proxied cfg env token bundleNames m hnot
    · rw [h]
    · rw [h, RunningLockMgr.view?_setBundleName]

section OwnedLoops

variable (cfg : Config) (env : Env) (key : String) (m : RunningLockMgr)

theorem increaseOwned_view? (token : Token) :
    (increaseOwned cfg env key m token).view? =
      Function.update m.view? token ((m.view? token).map LockView.proxify) :=
  proxyInner_proxify_view? cfg env token "" (m.modifyEntry key token WksEntry.flagAll)

/-- A loop whose body changes the view of the visited token only, and always in the same way. -/
theorem foldl_view? {body : RunningLockMgr → Token → RunningLockMgr} {change : LockView → LockView}
    (hbody : ∀ m token, (body m token).view? = Function.update m.view? token ((m.view? token).map change))
    (tokens : List Token) (hnodup : tokens.Nodup) (m : RunningLockMgr) (token : Token) :
    (tokens.foldl body m).view? token =
      if token ∈ tokens then (m.view? token).map change else m.view? token := by
  induction tokens generalizing m with
  | nil => simp
  | cons first rest ih =>
    obtain ⟨hfirst, hrest⟩ := List.nodup_cons.mp hnodup
    rw [List.foldl_cons, ih hrest, hbody]
    by_cases hsame : token = first
    · subst hsame
      simp [hfirst]
    · simp [hsame]

/-- After the first loop of `IncreaseProxyCnt` every lock of the key that is not disabled is
proxied, and no other lock has changed. -/
theorem increaseOwnedLoop_view? (token : Token) :
    ((m.tokensOf key).foldl (increaseOwned cfg env key) m).view? token =
      if (m.entryAt? key token).isSome = true then (m.view? token).map LockView.proxify else m.view? token := by
  rw [foldl_view? (increaseOwned_view? cfg env key) _ (m.nodup_tokensOf key)]
  simp only [m.mem_tokensOf]

end OwnedLoops

/-! ## Assertions the loops keep -/

/-- An assertion that survives the change of one proxy entry and the telling of one lock. -/
structure KeptByProxying (cfg : Config) (env : Env) (I : RunningLockMgr → Prop) : Prop where
  modifyEntry : ∀ m key token f, I m → I (m.modifyEntry key token f)
  proxyInner : ∀ m token bundleNames event, I m → I (proxyInner cfg env token bundleNames event m)

section KeptByProxying

variable {cfg : Config} {env : Env} {I : RunningLockMgr → Prop} {m : RunningLockMgr}

theorem KeptByProxying.increaseProxyCnt (h : KeptByProxying cfg env I) (pid uid : Int) (hm : I m) :
    I (increaseProxyCnt cfg env pid uid m) := by
  refine Lib.foldl_keeps (I := I) (fun m position hm => ?_) _ _ ?_
  · rcases increaseWorkSource_cases cfg env uid position.1 position.2 m with
      heq | ⟨entry, bundleName, -, -, -, ⟨-, heq⟩ | ⟨-, heq⟩⟩
    · rwa [heq]
    all_goals
      rw [heq]
      exact h.proxyInner _ _ _ _ (h.modifyEntry _ _ _ _ hm)
  · refine Lib.foldl_keeps (I := I) (fun m token hm => ?_) _ _ hm
    exact h.proxyInner _ _ _ _ (h.modifyEntry _ _ _ _ hm)

theorem KeptByProxying.decreaseProxyCnt (h : KeptByProxying cfg env I) (pid uid : Int) (hm : I m) :
    I (decreaseProxyCnt cfg env pid uid m) := by
  refine Lib.foldl_keeps (I := I) (fun m position hm => ?_) _ _ ?_
  · rcases decreaseWorkSourceWith_cases cfg env uid position.1 position.2 m (fun count => max 0 (count - 1)) with
      heq | ⟨entry, bundleName, -, -, -, heq⟩
    · rwa [heq]
    · rw [heq]
      exact h.proxyInner _ _ _ _ (h.modifyEntry _ _ _ _ hm)
  · refine Lib.foldl_keeps (I := I) (fun m token hm => ?_) _ _ hm
    have hcleared : I (m.modifyEntry (assembleProxyKey pid uid) token WksEntry.clear) :=
      h.modifyEntry _ _ _ _ hm
    exact h.proxyInner _ token _ .unproxy hcleared

theorem KeptByProxying.proxyRunningLock (h : KeptByProxying cfg env I) (isProxied : Bool) (pid uid : Int)
    (hm : I m) : I (proxyRunningLock cfg env isProxied pid uid m) := by
  unfold RunningLock.proxyRunningLock
  split
  · exact hm
  · split
    · exact h.increaseProxyCnt pid uid hm
    · exact h.decreaseProxyCnt pid uid hm

theorem KeptByProxying.resetRunningLocks (h : KeptByProxying cfg env I) (hm : I m) :
    I (resetRunningLocks cfg env m) := by
  refine Lib.foldl_keeps (I := I) (fun m position hm => ?_) _ _ hm
  exact h.modifyEntry _ _ _ _ (h.proxyInner _ _ _ _ (h.modifyEntry _ _ _ _ hm))

theorem KeptByProxying.updateWorkSource (h : KeptByProxying cfg env I) (token : Token)
    (workSources : TreeMap Int String) (hm : I m) : I (updateWorkSource cfg env token workSources m) := by
  unfold RunningLock.updateWorkSource
  split
  · exact hm
  · simp only [updateWorkSourceProxy]
    split
    · exact hm
    · exact h.modifyEntry _ _ _ _ (h.proxyInner _ _ _ _ hm)

end KeptByProxying

end PowerMgr.RunningLock
