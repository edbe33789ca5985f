import PowerMgr.RunningLock.Basic

/-! # Lock timers

A `Lock` with a time-out registers a one-shot timer (`RunningLockTimerHandler`,
`running_lock_timer_handler.cpp`), whose callback unlocks the token.  The handler knows one timer for
each token, and the callback asks nothing: when it comes late, it ends whatever hold it finds.

* `State`, `next` — the calls of the service that concern holds, timers that fire, and callbacks that
  get `lockMutex_` some time after;
* `Careful` — no hold begins while a timer of an earlier one is still about;
* `timer_ends_own_hold` — in runs of such calls a callback ends the hold it was registered in;
* `timer_ends_later_hold` — two runs in which it ends another one.

`OHOS::Utils::Timer` gives every timer an id of its own, fires it once, and not after `Unregister`.
-/

namespace PowerMgr.RunningLock.LockTimers

/-- A one-shot timer of a token.  `hold` is the number of the hold in which it was registered, none if
the token was not locked then. -/
structure LockTimer where
  token : Token
  hold : Option Nat
  deriving DecidableEq, Repr

/-- `registered` are the timers of `handlerTimer_` by their ids, and `fired` those that have fired and
whose callback waits for `lockMutex_`.  `holds` counts the holds a token has had. -/
structure State where
  mgr : RunningLockMgr := {}
  runninglockTimerMap : Token → Option Nat := fun _ => none
  registered : Nat → Option LockTimer := fun _ => none
  fired : Nat → Option LockTimer := fun _ => none
  count : Nat := 0
  holds : Token → Nat := fun _ => 0

/-- The calls under `lockMutex_`, a timer that fires, and its callback under `lockMutex_`.  `registers`
says whether `Register` of the timer succeeds. -/
inductive Event where
  | createRunningLock (token : Token) (param : RunningLockParam)
  | lock (token : Token) (timeOutMs : Int) (registers : Bool) (env : Env)
  | unLock (token : Token) (name : String) (env : Env)
  | releaseRunningLock (token : Token) (name : String) (env : Env)
  | forceUnLock (token : Token) (env : Env)
  | fire (id : Nat)
  | callback (id : Nat) (env : Env)

def isEnabled (m : RunningLockMgr) (token : Token) : Bool :=
  (m.view? token).any fun view => view.state = .enable

/-! ## `RunningLockTimerHandler` -/

def State.unregisterTimer (s : State) (id : Nat) : State :=
  { s with registered := Function.update s.registered id none }

/-- `RegisterRunningLockTimer`: the timer that the map has for the token is replaced. -/
def State.registerRunningLockTimer (s : State) (token : Token) (hold : Option Nat) (registers : Bool) : State :=
  let t := match s.runninglockTimerMap token with
    | some lastTimerId => s.unregisterTimer lastTimerId
    | none => s
  if registers then
    { t with
      registered := Function.update t.registered t.count (some ⟨token, hold⟩)
      runninglockTimerMap := Function.update t.runninglockTimerMap token (some t.count)
      count := t.count + 1 }
  else { t with runninglockTimerMap := Function.update t.runninglockTimerMap token none }

def State.unregisterRunningLockTimer (s : State) (token : Token) : State :=
  match s.runninglockTimerMap token with
  | some timerId =>
    { s.unregisterTimer timerId with runninglockTimerMap := Function.update s.runninglockTimerMap token none }
  | none => s

/-! ## The service -/

/-- `RunningLockMgr::Lock`; where it succeeds, a hold begins. -/
def State.lock (cfg : Config) (env : Env) (s : State) (token : Token) : State :=
  let (m, success) := RunningLock.lock cfg env token s.mgr
  { s with
    mgr := m
    holds := if success then Function.update s.holds token (s.holds token + 1) else s.holds }

def State.hold (s : State) (token : Token) : Option Nat :=
  if isEnabled s.mgr token then some (s.holds token) else none

/-- `PowerMgrService::Lock`, `UnLock`, `ReleaseRunningLock` and `ForceUnLock`, and the callback that
`Lock` hands to the timer. -/
def next (cfg : Config) (s : State) : Event → Option State
  | .createRunningLock token param => some { s with mgr := createRunningLock token param s.mgr }
  | .lock token timeOutMs registers env =>
    let t := s.lock cfg env token
    -- the timer is registered whatever `RunningLockMgr::Lock` has returned
    some (if 0 < timeOutMs then t.registerRunningLockTimer token (t.hold token) registers else t)
  | .unLock token name env =>
    some { s.unregisterRunningLockTimer token with mgr := (RunningLock.unLock cfg env token name s.mgr).1 }
  | .releaseRunningLock token name env =>
    -- neither this nor `ForceUnLock` unregisters the timer
    some { s with mgr := releaseLock cfg env token name s.mgr }
  | .forceUnLock token env => some { s with mgr := forceUnLock cfg env token s.mgr }
  | .fire id =>
    (s.registered id).map fun timer =>
      { s.unregisterTimer id with fired := Function.update s.fired id (some timer) }
  | .callback id env =>
    (s.fired id).map fun timer =>
      { s.unregisterRunningLockTimer timer.token with
        mgr := timerUnLock cfg env timer.token s.mgr
        fired := Function.update s.fired id none }

def system (cfg : Config) : Lib.System State Event where
  init s := s = {}
  next := next cfg

/-! ## Which calls leave timers behind -/

/-- A `Lock` that begins a hold finds no callback of the token waiting and, unless it sets a timer
itself, no timer of the token registered.  A callback does not find the lock of another token by its
empty name. -/
def Careful (cfg : Config) (s : State) : Event → Prop
  | .lock token timeOutMs _ env =>
    (RunningLock.lock cfg env token s.mgr).2 = true →
      (∀ id timer, s.fired id = some timer → timer.token ≠ token) ∧
        (timeOutMs ≤ 0 → ∀ id timer, s.registered id = some timer → timer.token ≠ token)
  | .callback id _ =>
    ∀ timer, s.fired id = some timer → ∀ found, s.mgr.findLock timer.token "" = some found →
      found.2.state = .enable → found.1 = timer.token
  | _ => True

/-- The timer may only end the hold in which it was registered. -/
def State.Owns (s : State) (timer : LockTimer) : Prop :=
  isEnabled s.mgr timer.token = true → timer.hold = some (s.holds timer.token)

structure Inv (s : State) : Prop where
  mapped : ∀ id timer, s.registered id = some timer → s.runninglockTimerMap timer.token = some id
  registered : ∀ id timer, s.registered id = some timer → s.Owns timer
  fired : ∀ id timer, s.fired id = some timer → s.Owns timer

variable {cfg : Config} {env : Env} {m m' : RunningLockMgr} {s s' : State} {token : Token} {name : String}

/-! ## What the calls do to the locks -/

theorem isEnabled_congr (h : m'.view? = m.view?) : isEnabled m' = isEnabled m := by
  funext token
  rw [isEnabled, isEnabled, h]

theorem isEnabled_lock_failure (h : (RunningLock.lock cfg env token m).2 = false) :
    isEnabled (RunningLock.lock cfg env token m).1 = isEnabled m := by
  refine isEnabled_congr ?_
  obtain ⟨-, hlock⟩ | ⟨lockInner, -, ⟨-, hlock⟩ | ⟨-, hlock⟩⟩ := lock_cases cfg env token m
  · rw [hlock]
  · rw [hlock]
    exact RunningLockMgr.view?_congr (increase_runningLocks ..)
  · rw [hlock] at h
    cases h

theorem isEnabled_lock_ne {other : Token} (hne : other ≠ token) :
    isEnabled (RunningLock.lock cfg env token m).1 other = isEnabled m other := by
  obtain hsame | ⟨view, -, -, -, hview⟩ := lock_view? cfg env token m
  · rw [isEnabled_congr hsame]
  · rw [isEnabled, isEnabled, hview, Function.update_of_ne hne]

theorem isEnabled_unLock {other : Token} (h : isEnabled (RunningLock.unLock cfg env token name m).1 other = true) :
    isEnabled m other = true := by
  obtain hsame | ⟨registered, lockInner, -, -, hview⟩ := unLock_view? cfg env token name m
  · rwa [isEnabled_congr hsame] at h
  · rw [isEnabled, hview] at h
    by_cases hfound : other = registered
    · -- this one has just been disabled
      rw [hfound, Function.update_self] at h
      simp at h
    · rwa [Function.update_of_ne hfound] at h

theorem isEnabled_createRunningLock {param : RunningLockParam} {other : Token}
    (h : isEnabled (createRunningLock token param m) other = true) : isEnabled m other = true := by
  rw [isEnabled, createRunningLock_view?] at h
  by_cases hsame : other = token
  · rw [hsame, Function.update_self] at h
    rw [hsame, isEnabled]
    cases hview : m.view? token with
    | none =>
      rw [hview] at h
      simp [RunningLockInner.view] at h
    | some view => rwa [hview] at h
  · rwa [Function.update_of_ne hsame] at h

theorem isEnabled_releaseLock {other : Token} (h : isEnabled (releaseLock cfg env token name m) other = true) :
    isEnabled m other = true := by
  by_cases hfound : m.findLock token name = none
  · rwa [releaseLock_of_not_found cfg env hfound] at h
  · -- the token is erased, and no other is touched beyond the unlock
    rw [isEnabled, releaseLock_view? cfg env hfound] at h
    by_cases hother : other = token
    · rw [hother, Function.update_self] at h
      cases h
    · rw [Function.update_of_ne hother] at h
      exact isEnabled_unLock h

theorem isEnabled_forceUnLock {other : Token} (h : isEnabled (forceUnLock cfg env token m) other = true) :
    isEnabled m other = true :=
  isEnabled_unLock (isEnabled_releaseLock h)

theorem isEnabled_timerUnLock {other : Token} (h : isEnabled (timerUnLock cfg env token m) other = true) :
    isEnabled m other = true := by
  have hunlocked := isEnabled_unLock h
  rwa [isEnabled_congr (updateWorkSource_empty_view? cfg env token m)] at hunlocked

/-- The lock whose hold a callback ends is the one `UnLock` finds for its token. -/
theorem timerUnLock_ends {other : Token} (hbefore : isEnabled m other = true)
    (hafter : isEnabled (timerUnLock cfg env token m) other = false) :
    ∃ lockInner, m.findLock token "" = some (other, lockInner) ∧ lockInner.state = .enable := by
  have hviews := updateWorkSource_empty_view? cfg env token m
  have henabled : isEnabled (updateWorkSource cfg env token ∅ m) other = true := by
    rwa [isEnabled_congr hviews]
  rcases unLock_view? cfg env token "" (updateWorkSource cfg env token ∅ m) with
    hsame | ⟨registered, lockInner, hfound, -, hview⟩
  · rw [timerUnLock, isEnabled_congr hsame, henabled] at hafter
    cases hafter
  · have hother : other = registered := by
      by_contra hne
      rw [timerUnLock, isEnabled, hview, Function.update_of_ne hne] at hafter
      cases henabled.symm.trans hafter
    subst hother
    cases htoken : m.runningLocks[token]? with
    | none =>
      -- the token is no longer registered, and the lock has been found by its empty name
      have hunchanged : updateWorkSource cfg env token ∅ m = m := by
        simp only [updateWorkSource, htoken]
      rw [hunchanged] at hfound
      have hregistered := m.view?_of_getElem? (RunningLockMgr.getElem?_of_findLock hfound)
      rw [isEnabled, hregistered] at hbefore
      exact ⟨lockInner, hfound, by simpa [RunningLockInner.view] using hbefore⟩
    | some own =>
      have hview' := congrFun hviews token
      rw [m.view?_of_getElem? htoken] at hview'
      obtain ⟨own', hown', -⟩ := Option.map_eq_some_iff.mp hview'
      rw [RunningLockMgr.findLock_of_registered hown'] at hfound
      cases hfound
      rw [isEnabled, m.view?_of_getElem? htoken] at hbefore
      refine ⟨own, RunningLockMgr.findLock_of_registered htoken "", ?_⟩
      simpa [RunningLockInner.view] using hbefore

/-! ## Timers and holds -/

theorem Inv.fewer (h : Inv s) (hfewer : ∀ token, isEnabled m token = true → isEnabled s.mgr token = true) :
    Inv { s with mgr := m } :=
  ⟨h.mapped, fun id timer htimer henabled => h.registered id timer htimer (hfewer _ henabled),
    fun id timer htimer henabled => h.fired id timer htimer (hfewer _ henabled)⟩

theorem registered_of_unregister {id id' : Nat} {timer : LockTimer}
    (h : (s.unregisterTimer id).registered id' = some timer) : id' ≠ id ∧ s.registered id' = some timer := by
  simp only [State.unregisterTimer] at h
  obtain ⟨-, hnone⟩ | hold := Lib.update_cases h
  · cases hnone
  · exact hold

theorem Inv.unregisterTimer (h : Inv s) (id : Nat) : Inv (s.unregisterTimer id) :=
  ⟨fun id' timer htimer => h.mapped id' timer (registered_of_unregister htimer).2,
    fun id' timer htimer => h.registered id' timer (registered_of_unregister htimer).2, h.fired⟩

@[simp] theorem unregisterRunningLockTimer_mgr (s : State) (token : Token) :
    (s.unregisterRunningLockTimer token).mgr = s.mgr := by
  unfold State.unregisterRunningLockTimer
  split <;> rfl

@[simp] theorem unregisterRunningLockTimer_holds (s : State) (token : Token) :
    (s.unregisterRunningLockTimer token).holds = s.holds := by
  unfold State.unregisterRunningLockTimer
  split <;> rfl

@[simp] theorem unregisterRunningLockTimer_fired (s : State) (token : Token) :
    (s.unregisterRunningLockTimer token).fired = s.fired := by
  unfold State.unregisterRunningLockTimer
  split <;> rfl

theorem Inv.registered_of_unregisterRunningLockTimer (h : Inv s) {id : Nat} {timer : LockTimer}
    (htimer : (s.unregisterRunningLockTimer token).registered id = some timer) :
    timer.token ≠ token ∧ s.registered id = some timer ∧
      (s.unregisterRunningLockTimer token).runninglockTimerMap timer.token = s.runninglockTimerMap timer.token := by
  cases hmap : s.runninglockTimerMap token with
  | none =>
    simp only [State.unregisterRunningLockTimer, hmap] at htimer ⊢
    refine ⟨fun hsame => ?_, htimer, trivial⟩
    cases hmap.symm.trans (hsame ▸ h.mapped id timer htimer)
  | some timerId =>
    simp only [State.unregisterRunningLockTimer, hmap] at htimer ⊢
    obtain ⟨hne, hold⟩ := registered_of_unregister htimer
    have hother : timer.token ≠ token := by
      intro hsame
      have hmapped := h.mapped id timer hold
      rw [hsame, hmap, Option.some.injEq] at hmapped
      exact hne hmapped.symm
    exact ⟨hother, hold, Function.update_of_ne hother ..⟩

theorem Inv.unregister (h : Inv s) (token : Token) : Inv (s.unregisterRunningLockTimer token) := by
  refine ⟨fun id timer htimer => ?_, fun id timer htimer henabled => ?_, fun id timer htimer henabled => ?_⟩
  · obtain ⟨-, hold, hmap⟩ := h.registered_of_unregisterRunningLockTimer htimer
    rw [hmap]
    exact h.mapped id timer hold
  · rw [unregisterRunningLockTimer_mgr] at henabled
    rw [unregisterRunningLockTimer_holds]
    exact h.registered id timer (h.registered_of_unregisterRunningLockTimer htimer).2.1 henabled
  · rw [unregisterRunningLockTimer_mgr] at henabled
    rw [unregisterRunningLockTimer_holds]
    rw [unregisterRunningLockTimer_fired] at htimer
    exact h.fired id timer htimer henabled

/-- A `Lock` without a time-out, of a token that no earlier timer is about if a hold begins. -/
theorem Inv.lock (h : Inv s) (hnone : (RunningLock.lock cfg env token s.mgr).2 = true →
      ∀ id timer, s.registered id = some timer ∨ s.fired id = some timer → timer.token ≠ token) :
    Inv (s.lock cfg env token) := by
  have howns : ∀ id timer, s.registered id = some timer ∨ s.fired id = some timer → s.Owns timer →
      (s.lock cfg env token).Owns timer := by
    intro id timer htimer hold henabled
    simp only [State.lock] at henabled ⊢
    cases hsuccess : (RunningLock.lock cfg env token s.mgr).2 with
    | false =>
      rw [isEnabled_lock_failure hsuccess] at henabled
      exact hold henabled
    | true =>
      have hne := hnone hsuccess id timer htimer
      rw [isEnabled_lock_ne hne] at henabled
      rw [if_pos rfl, Function.update_of_ne hne]
      exact hold henabled
  exact ⟨h.mapped, fun id timer htimer => howns id timer (.inl htimer) (h.registered id timer htimer),
    fun id timer htimer => howns id timer (.inr htimer) (h.fired id timer htimer)⟩

theorem Inv.register (h : Inv s) (token : Token) (registers : Bool)
    (hfree : ∀ id timer, s.registered id = some timer → timer.token ≠ token) :
    Inv { s with
      registered :=
        if registers then Function.update s.registered s.count (some ⟨token, s.hold token⟩) else s.registered
      runninglockTimerMap := Function.update s.runninglockTimerMap token (if registers then some s.count else none)
      count := if registers then s.count + 1 else s.count } := by
  cases registers with
  | false =>
    refine ⟨fun id timer htimer => ?_, h.registered, h.fired⟩
    exact (Function.update_of_ne (hfree id timer htimer) ..).trans (h.mapped id timer htimer)
  | true =>
    have hnew : ∀ id timer, Function.update s.registered s.count (some ⟨token, s.hold token⟩) id = some timer →
        (id = s.count ∧ timer = ⟨token, s.hold token⟩) ∨
          (timer.token ≠ token ∧ s.registered id = some timer) := by
      intro id timer htimer
      obtain ⟨hsame, hmoved⟩ | ⟨-, hold⟩ := Lib.update_cases htimer
      · exact .inl ⟨hsame, (Option.some.inj hmoved).symm⟩
      · exact .inr ⟨hfree id timer hold, hold⟩
    refine ⟨fun id timer htimer => ?_, fun id timer htimer henabled => ?_, h.fired⟩
    · obtain ⟨rfl, rfl⟩ | ⟨hne, hold⟩ := hnew id timer htimer
      · exact Function.update_self ..
      · exact (Function.update_of_ne hne ..).trans (h.mapped id timer hold)
    · obtain ⟨rfl, rfl⟩ | ⟨-, hold⟩ := hnew id timer htimer
      · exact if_pos henabled
      · exact h.registered id timer hold henabled

/-- Registering a timer replaces the token's timer, as unregistering it before would. -/
theorem registerRunningLockTimer_eq (s : State) (token : Token) (hold : Option Nat) (registers : Bool) :
    s.registerRunningLockTimer token hold registers =
      { s.unregisterRunningLockTimer token with
        registered :=
          if registers then
            Function.update (s.unregisterRunningLockTimer token).registered s.count (some ⟨token, hold⟩)
          else (s.unregisterRunningLockTimer token).registered
        runninglockTimerMap := Function.update (s.unregisterRunningLockTimer token).runninglockTimerMap token
          (if registers then some s.count else none)
        count := if registers then s.count + 1 else s.count } := by
  unfold State.registerRunningLockTimer State.unregisterRunningLockTimer
  cases s.runninglockTimerMap token <;> cases registers <;> simp [State.unregisterTimer]

theorem lock_unregisterRunningLockTimer (cfg : Config) (env : Env) (s : State) (token other : Token) :
    (s.unregisterRunningLockTimer other).lock cfg env token =
      (s.lock cfg env token).unregisterRunningLockTimer other := by
  unfold State.unregisterRunningLockTimer State.lock
  cases s.runninglockTimerMap other <;> rfl

theorem hold_unregisterRunningLockTimer (s : State) (token other : Token) :
    (s.unregisterRunningLockTimer other).hold token = s.hold token := by
  rw [State.hold, State.hold, unregisterRunningLockTimer_mgr, unregisterRunningLockTimer_holds]

theorem count_unregisterRunningLockTimer (s : State) (token : Token) :
    (s.unregisterRunningLockTimer token).count = s.count := by
  unfold State.unregisterRunningLockTimer
  split <;> rfl

/-! ## Events -/

/-- A `Lock` with a time-out: the timer the token has is unregistered before it could own anything. -/
theorem inv_lock_timed {registers : Bool} (h : Inv s)
    (hnone : (RunningLock.lock cfg env token s.mgr).2 = true →
      ∀ id timer, s.fired id = some timer → timer.token ≠ token) :
    Inv ((s.lock cfg env token).registerRunningLockTimer token ((s.lock cfg env token).hold token) registers) := by
  have hfree : ∀ id timer, (s.unregisterRunningLockTimer token).registered id = some timer →
      timer.token ≠ token := fun id timer htimer => (h.registered_of_unregisterRunningLockTimer htimer).1
  have hlocked : Inv ((s.unregisterRunningLockTimer token).lock cfg env token) := by
    refine (h.unregister token).lock fun hsuccess id timer htimer => ?_
    rw [unregisterRunningLockTimer_mgr] at hsuccess
    obtain hregistered | hfired := htimer
    · exact hfree id timer hregistered
    · rw [unregisterRunningLockTimer_fired] at hfired
      exact hnone hsuccess id timer hfired
  have hset := hlocked.register token registers hfree
  rw [lock_unregisterRunningLockTimer, hold_unregisterRunningLockTimer, count_unregisterRunningLockTimer] at hset
  rw [registerRunningLockTimer_eq]
  exact hset

theorem inv_next {e : Event} (h : Inv s) (hok : Careful cfg s e) (hnext : next cfg s e = some s') : Inv s' := by
  cases e with
  | createRunningLock token param =>
    cases hnext
    exact h.fewer fun _ => isEnabled_createRunningLock
  | lock token timeOutMs registers env =>
    simp only [next, Option.some.injEq] at hnext
    subst hnext
    split
    · exact inv_lock_timed h fun hsuccess => (hok hsuccess).1
    · rename_i htime
      refine h.lock fun hsuccess id timer htimer => ?_
      obtain hregistered | hfired := htimer
      · exact (hok hsuccess).2 (Int.not_lt.mp htime) id timer hregistered
      · exact (hok hsuccess).1 id timer hfired
  | unLock token name env =>
    cases hnext
    refine (h.unregister token).fewer fun other henabled => ?_
    rw [unregisterRunningLockTimer_mgr]
    exact isEnabled_unLock henabled
  | releaseRunningLock token name env =>
    cases hnext
    exact h.fewer fun _ => isEnabled_releaseLock
  | forceUnLock token env =>
    cases hnext
    exact h.fewer fun _ => isEnabled_forceUnLock
  | fire id =>
    obtain ⟨timer, hregistered, rfl⟩ := Option.map_eq_some_iff.mp hnext
    refine ⟨(h.unregisterTimer id).mapped, (h.unregisterTimer id).registered, fun id' timer' hfired => ?_⟩
    replace hfired : Function.update s.fired id (some timer) id' = some timer' := hfired
    obtain ⟨-, hmoved⟩ | ⟨-, hold⟩ := Lib.update_cases hfired
    · cases hmoved
      exact h.registered id timer hregistered
    · exact h.fired id' timer' hold
  | callback id env =>
    obtain ⟨timer, -, rfl⟩ := Option.map_eq_some_iff.mp hnext
    have hunlocked : Inv { s.unregisterRunningLockTimer timer.token with
        mgr := timerUnLock cfg env timer.token s.mgr } := by
      refine (h.unregister timer.token).fewer fun other henabled => ?_
      rw [unregisterRunningLockTimer_mgr]
      exact isEnabled_timerUnLock henabled
    refine ⟨hunlocked.mapped, hunlocked.registered, fun id' timer' hfired => hunlocked.fired id' timer' ?_⟩
    replace hfired : Function.update s.fired id none id' = some timer' := hfired
    rw [unregisterRunningLockTimer_fired]
    obtain ⟨-, hnone⟩ | ⟨-, hold⟩ := Lib.update_cases hfired
    · cases hnone
    · exact hold

theorem inv_of_reach (h : (system cfg).Reach (Careful cfg) s) : Inv s := by
  refine h.invariant (fun s hinit => ?_) fun s s' e hinv hok hnext => inv_next hinv hok hnext
  cases hinit
  exact ⟨nofun, nofun, nofun⟩

/-! ## Whose hold a callback ends -/

/-- Where a callback ends a hold, it is the hold of its own token in which its timer was registered. -/
theorem timer_ends_own_hold {id : Nat} {timer : LockTimer} (h : (system cfg).Reach (Careful cfg) s)
    (hfired : s.fired id = some timer) (hok : Careful cfg s (.callback id env))
    (hnext : next cfg s (.callback id env) = some s') {other : Token} (hbefore : isEnabled s.mgr other = true)
    (hafter : isEnabled s'.mgr other = false) :
    other = timer.token ∧ timer.hold = some (s.holds timer.token) := by
  obtain ⟨timer', hfired', rfl⟩ := Option.map_eq_some_iff.mp hnext
  cases hfired.symm.trans hfired'
  obtain ⟨lockInner, hfound, hstate⟩ := timerUnLock_ends hbefore hafter
  have hown : other = timer.token := hok timer hfired (other, lockInner) hfound hstate
  subst hown
  exact ⟨rfl, (inv_of_reach h).fired id timer hfired hbefore⟩

def screenLock : RunningLockParam where
  name := "player"
  type := .screen

/-- The lock is still held when its timer fires. -/
theorem timer_ends_own_hold_once : ∃ s s' : State, next {} s (.callback 0 {}) = some s' ∧
    isEnabled s'.mgr 1 = false ∧ s.fired 0 = some ⟨1, some 1⟩ ∧ some 1 = some (s.holds 1) := by
  have hcreated := (Lib.System.Reach.init rfl : (system {}).Reach (Careful {}) {}).step
    (Event.createRunningLock 1 screenLock) trivial rfl
  have hlocked := hcreated.step (Event.lock 1 5000 true {}) (fun _ => ⟨nofun, nofun⟩) rfl
  have hfired := hlocked.step (Event.fire 0) trivial rfl
  have hends := @timer_ends_own_hold {} {} _ _ 0 ⟨1, some 1⟩ hfired rfl (fun timer htimer found hfound _ => by
    cases htimer
    cases hfound
    rfl) rfl 1 (by decide) (by decide)
  exact ⟨_, _, rfl, by decide, rfl, hends.2⟩

/-- A lock with a time-out, released and created again, and locked without a time-out before the timer of
the first hold fires. -/
def releasedBeforeFire : List Event :=
  [.createRunningLock 1 screenLock, .lock 1 5000 true {}, .releaseRunningLock 1 "player" {},
    .createRunningLock 1 screenLock, .lock 1 (-1) true {}, .fire 0]

/-- The timer fires first, and its callback waits while the lock is unlocked and locked again. -/
def firedBeforeUnLock : List Event :=
  [.createRunningLock 1 screenLock, .lock 1 5000 true {}, .fire 0, .unLock 1 "player" {}, .lock 1 (-1) true {}]

/-- After these calls the callback of the timer of the first hold ends the second one, which has no
time-out. -/
def EndsLaterHold (es : List Event) : Prop :=
  ∃ s s', (system {}).run {} es = some s ∧ s.fired 0 = some ⟨1, some 1⟩ ∧ s.holds 1 = 2 ∧
    isEnabled s.mgr 1 = true ∧ next {} s (.callback 0 {}) = some s' ∧ isEnabled s'.mgr 1 = false

theorem timer_ends_later_hold : EndsLaterHold releasedBeforeFire ∧ EndsLaterHold firedBeforeUnLock :=
  ⟨⟨_, _, rfl, rfl, rfl, by decide, rfl, by decide⟩, ⟨_, _, rfl, rfl, rfl, by decide, rfl, by decide⟩⟩

end PowerMgr.RunningLock.LockTimers
