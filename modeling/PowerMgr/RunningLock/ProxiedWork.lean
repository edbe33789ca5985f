import PowerMgr.RunningLock.ProxyCount
import PowerMgr.RunningLock.States

/-! # Locks held on behalf of proxied work

A lock whose work sources are all proxied must not be held, and a lock that was taken away from
its client must be given back some time.  Neither is guaranteed: the state of a lock and the flags
of its work sources live in two tables, and `Lock`, `UpdateWorkSource` with an empty map and
requests that reach a lock through another process's entry look at one of them only.

* `Tracked` — the service together with which owners are proxied;
* `LockView.Settled` — what ties the state of one lock to its own proxy entry;
* `Careful` — the calls that keep every lock settled;
* `proxied_work_not_held` — in every run of such calls no lock is held for proxied work only, and
  every proxied lock has something left that will un-proxy it.
-/

namespace PowerMgr.RunningLock

open Std (TreeMap)

/-! ## Which owners are proxied -/

/-- The service, and for each owner key whether it was proxied more recently than un-proxied. -/
structure Tracked where
  mgr : RunningLockMgr := {}
  proxied : String → Bool := fun _ => false

/-- The owners that are proxied after a call; `ResetRunningLocks` un-proxies all of them. -/
def trackOwners (proxied : String → Bool) : Op → String → Bool
  | .proxyRunningLock isProxied pid uid =>
    if pid < 1 then proxied else Function.update proxied (assembleProxyKey pid uid) isProxied
  | .resetRunningLocks => fun _ => false
  | _ => proxied

def trackedSystem (cfg : Config) : Lib.System Tracked (Op × Env) where
  init s := s = {}
  next s call := some { mgr := step cfg s.mgr call, proxied := trackOwners s.proxied call.1 }

/-! ## One lock and its own entry -/

/-- A lock and its own proxy entry fit together: the entry is there, an enabled lock has a work
source that is not proxied (or none at all), and a proxied lock is excused or has proxied work
sources only. -/
structure LockView.Settled (excused : Prop) (view : LockView) (own : Option WksEntry) : Prop where
  entered : view.type ≠ .proximityScreenControl ∨ view.state = .proxied → own.isSome = true
  enabled : view.state = .enable → view.type ≠ .proximityScreenControl →
    ∀ entry, own = some entry → ¬entry.AllFlagged
  proxied : view.state = .proxied → excused ∨ ∃ entry, own = some entry ∧ entry.AllFlagged

namespace LockView.Settled

variable {excused excused' : Prop} {view : LockView} {own own' : Option WksEntry}

theorem of_disable (hstate : view.state = .disable)
    (hentered : view.type ≠ .proximityScreenControl → own.isSome = true) : view.Settled excused own where
  entered := by
    rintro (htype | hproxied)
    · exact hentered htype
    · rw [hstate] at hproxied
      cases hproxied
  enabled := by
    intro henable
    rw [hstate] at henable
    cases henable
  proxied := by
    intro hproxied
    rw [hstate] at hproxied
    cases hproxied

theorem proxify (h : view.Settled excused own) (hsome : own.isSome = true → own'.isSome = true)
    (hreach : view.state ≠ .disable → own.isSome = true ∧
      (excused' ∨ ∃ entry, own' = some entry ∧ entry.AllFlagged)) :
    view.proxify.Settled excused' own' := by
  unfold LockView.proxify
  by_cases hstate : view.state = .disable
  · rw [if_pos hstate]
    exact of_disable hstate fun htype => hsome (h.entered (.inl htype))
  · rw [if_neg hstate]
    obtain ⟨hown, hexcused⟩ := hreach hstate
    refine ⟨fun _ => hsome hown, fun henable => ?_, fun _ => hexcused⟩
    cases henable

theorem release (h : view.Settled excused own) (hproxied : view.state = .proxied)
    {state : RunningLockState} (hstate : state = .disable ∨ state = .enable)
    (hsome : own.isSome = true → own'.isSome = true)
    (hnot : ∀ entry, own' = some entry → ¬entry.AllFlagged) :
    ({ view with state := state } : LockView).Settled excused' own' := by
  have hown : own'.isSome = true := hsome (h.entered (.inr hproxied))
  refine ⟨fun _ => hown, fun _ _ => hnot, fun hstill => ?_⟩
  obtain rfl | rfl := hstate <;> cases hstill

theorem keep (h : view.Settled excused own) (hsome : own.isSome = true → own'.isSome = true)
    (henabled : view.state = .enable → view.type ≠ .proximityScreenControl →
      ∀ entry, own' = some entry → ¬entry.AllFlagged)
    (hproxied : view.state = .proxied → excused' ∨ ∃ entry, own' = some entry ∧ entry.AllFlagged) :
    view.Settled excused' own' :=
  ⟨fun hwhen => hsome (h.entered hwhen), henabled, hproxied⟩

theorem weaken (h : view.Settled excused own) (himp : excused → excused') : view.Settled excused' own :=
  ⟨h.entered, h.enabled, fun hstate => (h.proxied hstate).imp himp id⟩

theorem excused_of_not_allFlagged (h : view.Settled excused own) (hstate : view.state = .proxied)
    (hnot : ∀ entry, own = some entry → ¬entry.AllFlagged) : excused := by
  obtain hexcused | ⟨entry, hentry, hall⟩ := h.proxied hstate
  · exact hexcused
  · exact absurd hall (hnot entry hentry)

end LockView.Settled

/-! ## All locks -/

/-- Every registered lock fits to its own entry, up to the excused ones. -/
def RunningLockMgr.Settled (excused : Token → LockView → Prop) (m : RunningLockMgr) : Prop :=
  ∀ token view, m.view? token = some view → view.Settled (excused token view) (m.entryAt? view.ownerKey token)

/-- Nothing that concerns another token has changed. -/
def SameOff (token : Token) (m m' : RunningLockMgr) : Prop :=
  ∀ other, other ≠ token → m'.view? other = m.view? other ∧
    ∀ key, m'.entryAt? key other = m.entryAt? key other

section SameOff

variable {token : Token} {m m' m'' : RunningLockMgr}

theorem SameOff.trans (h : SameOff token m m') (h' : SameOff token m' m'') : SameOff token m m'' := by
  intro other hne
  obtain ⟨hview, hentry⟩ := h other hne
  obtain ⟨hview', hentry'⟩ := h' other hne
  exact ⟨hview'.trans hview, fun key => (hentry' key).trans (hentry key)⟩

theorem sameOff_modifyEntry (key : String) (token : Token) (f : WksEntry → WksEntry) (m : RunningLockMgr) :
    SameOff token m (m.modifyEntry key token f) := by
  intro other hne
  refine ⟨rfl, fun key' => ?_⟩
  rw [RunningLockMgr.entryAt?_modifyEntry, if_neg]
  exact fun hsame => hne hsame.2.symm

theorem sameOff_of_update {view : Option LockView} (hview : m'.view? = Function.update m.view? token view)
    (hentry : ∀ other, other ≠ token → ∀ key, m'.entryAt? key other = m.entryAt? key other) :
    SameOff token m m' := by
  intro other hne
  exact ⟨by rw [hview, Function.update_of_ne hne], hentry other hne⟩

theorem sameOff_of_proxyMap_eq (view : Option LockView) (hview : m'.view? = Function.update m.view? token view)
    (hmap : m'.proxyMap = m.proxyMap) : SameOff token m m' :=
  sameOff_of_update hview fun _ _ _ => by rw [RunningLockMgr.entryAt?_congr hmap]

theorem sameOff_proxyInner (cfg : Config) (env : Env) (token : Token) (bundleNames : String)
    (event : RunningLockEvent) (m : RunningLockMgr) :
    SameOff token m (proxyInner cfg env token bundleNames event m) := by
  cases event with
  | update =>
    refine sameOff_of_proxyMap_eq (m.view? token) ?_ (proxyInner_update_proxyMap ..)
    rw [proxyInner_update_view?, Function.update_eq_self]
  | unproxy =>
    have hmap := proxyInner_unproxy_proxyMap cfg env token bundleNames m
    obtain ⟨-, hview⟩ | ⟨view, state, -, -, -, hview⟩ := proxyInner_unproxy_cases cfg env token bundleNames m
    · refine sameOff_of_proxyMap_eq (m.view? token) ?_ hmap
      rw [hview, Function.update_eq_self]
    · exact sameOff_of_proxyMap_eq _ hview hmap
  | proxy =>
    refine sameOff_of_update (proxyInner_proxify_view? ..) fun other hne key => ?_
    obtain hmap | ⟨view, -, -, hmap⟩ := proxyInner_proxy_proxyMap cfg env token bundleNames m
    · rw [RunningLockMgr.entryAt?_congr hmap]
    · rw [RunningLockMgr.entryAt?_congr hmap]
      exact (sameOff_modifyEntry view.ownerKey token WksEntry.clear m other hne).2 key

/-- One iteration of a loop over the proxy table: an entry is written and its lock is told. -/
theorem sameOff_visit (cfg : Config) (env : Env) (key : String) (token : Token) (f : WksEntry → WksEntry)
    (bundleNames : String) (event : RunningLockEvent) (m : RunningLockMgr) :
    SameOff token m (proxyInner cfg env token bundleNames event (m.modifyEntry key token f)) :=
  (sameOff_modifyEntry key token f m).trans (sameOff_proxyInner cfg env token bundleNames event _)

/-- A step that touches one token has to be looked at there only. -/
theorem settled_of_sameOff {excused excused' : Token → LockView → Prop} (hoff : SameOff token m m')
    (hexcused : ∀ other view, other ≠ token → excused other view → excused' other view)
    (hself : ∀ view, m'.view? token = some view →
      view.Settled (excused' token view) (m'.entryAt? view.ownerKey token))
    (h : m.Settled excused) : m'.Settled excused' := by
  intro other view hview
  by_cases hne : other = token
  · subst hne
    exact hself view hview
  · obtain ⟨hsame, hentry⟩ := hoff other hne
    rw [hsame] at hview
    rw [hentry]
    exact (h other view hview).weaken (hexcused other view hne)

end SameOff

/-! ## Entries while a lock is told -/

section Entries

variable (cfg : Config) (env : Env) (token : Token) (bundleNames : String) {m : RunningLockMgr}

theorem isSome_modifyEntry (key key' : String) (token token' : Token) (f : WksEntry → WksEntry)
    (m : RunningLockMgr) :
    ((m.modifyEntry key token f).entryAt? key' token').isSome = (m.entryAt? key' token').isSome := by
  rw [RunningLockMgr.entryAt?_modifyEntry]
  split
  next hsame => rw [Option.isSome_map, hsame.1, hsame.2]
  next => rfl

theorem isSome_proxyInner (event : RunningLockEvent) (m : RunningLockMgr) (key : String) (other : Token) :
    ((proxyInner cfg env token bundleNames event m).entryAt? key other).isSome =
      (m.entryAt? key other).isSome := by
  cases event with
  | update => rw [RunningLockMgr.entryAt?_congr (proxyInner_update_proxyMap ..)]
  | unproxy => rw [RunningLockMgr.entryAt?_congr (proxyInner_unproxy_proxyMap ..)]
  | proxy =>
    obtain hmap | ⟨view, -, -, hmap⟩ := proxyInner_proxy_proxyMap cfg env token bundleNames m
    · rw [RunningLockMgr.entryAt?_congr hmap]
    · rw [RunningLockMgr.entryAt?_congr hmap]
      exact isSome_modifyEntry ..

/-- Telling a lock anything leaves every entry of it but its own alone. -/
theorem entryAt?_tell_of_foreign (event : RunningLockEvent) {view : LockView} {key : String}
    (hview : m.view? token = some view) (hne : key ≠ view.ownerKey) (other : Token) :
    (proxyInner cfg env token bundleNames event m).entryAt? key other = m.entryAt? key other := by
  cases event with
  | update => rw [RunningLockMgr.entryAt?_congr (proxyInner_update_proxyMap ..)]
  | unproxy => rw [RunningLockMgr.entryAt?_congr (proxyInner_unproxy_proxyMap ..)]
  | proxy =>
    obtain hmap | ⟨found, hfound, -, hmap⟩ := proxyInner_proxy_proxyMap cfg env token bundleNames m
    · rw [RunningLockMgr.entryAt?_congr hmap]
    · rw [hview] at hfound
      cases hfound
      rw [RunningLockMgr.entryAt?_congr hmap, RunningLockMgr.entryAt?_modifyEntry, if_neg]
      exact fun hsame => hne hsame.1.symm

theorem entryAt?_proxy_of_not_proxied {view : LockView} (hview : m.view? token = some view)
    (hnot : view.isProxied = false) :
    (proxyInner cfg env token bundleNames .proxy m).entryAt? = m.entryAt? := by
  obtain hmap | ⟨found, hfound, hproxied, -⟩ := proxyInner_proxy_proxyMap cfg env token bundleNames m
  · exact RunningLockMgr.entryAt?_congr hmap
  · rw [hview] at hfound
    cases hfound
    rw [hnot] at hproxied
    cases hproxied

/-- A lock that is not told to return to its client keeps its view or is marked proxied. -/
theorem view?_tell_cases {event : RunningLockEvent} (hevent : event ≠ .unproxy) {other : Token}
    {view' : LockView} (h : (proxyInner cfg env token bundleNames event m).view? other = some view') :
    ∃ view, m.view? other = some view ∧ (view' = view ∨ view' = view.proxify) := by
  cases event with
  | unproxy => exact absurd rfl hevent
  | update =>
    rw [proxyInner_update_view?] at h
    exact ⟨view', h, .inl rfl⟩
  | proxy =>
    rw [proxyInner_proxify_view?] at h
    by_cases hsame : other = token
    · subst hsame
      rw [Function.update_self] at h
      obtain ⟨view, hview, rfl⟩ := Option.map_eq_some_iff.mp h
      exact ⟨view, hview, .inr rfl⟩
    · rw [Function.update_of_ne hsame] at h
      exact ⟨view', h, .inl rfl⟩

end Entries

/-! ## Proxying a process

Both loops of `IncreaseProxyCnt` may reach a lock through the entry of a process that does not own
it: tokens are shared objects, and `CreateRunningLock` adds an entry for every caller. -/

/-- A lock that the request reaches through an entry that is not its own is disabled, or its owner
is proxied as well. -/
def ProxySafe (cfg : Config) (proxied : String → Bool) (uid : Int) (key : String) (m : RunningLockMgr) : Prop :=
  ∀ position view, m.view? position.2 = some view → position.1 ≠ view.ownerKey →
    position.1 = key ∧ (m.entryAt? position.1 position.2).isSome = true ∨ m.Completing cfg uid position →
    view.state = .disable ∨
      proxied view.ownerKey = true ∧ (m.entryAt? view.ownerKey position.2).isSome = true

/-- What both loops of `IncreaseProxyCnt` keep. -/
structure IncreaseLoop (cfg : Config) (proxied : String → Bool) (uid : Int) (key : String)
    (m : RunningLockMgr) : Prop where
  settled : m.Settled fun _ view => proxied view.ownerKey = true
  safe : ProxySafe cfg proxied uid key m
  counts : m.CountsAgree
  sound : m.LocksSound cfg

section Increase

variable {cfg : Config} {env : Env} {proxied : String → Bool} {uid : Int} {key : String} {m m' : RunningLockMgr}

theorem proxify_ownerKey (view : LockView) : view.proxify.ownerKey = view.ownerKey := by
  unfold LockView.proxify
  split <;> rfl

theorem proxify_of_disable {view : LockView} (h : view.state = .disable) : view.proxify = view := by
  rw [LockView.proxify, if_pos h]

/-- Visiting one position, where the request finds no further flag to raise afterwards. -/
theorem proxySafe_visit {key' : String} {token : Token} {f : WksEntry → WksEntry} {bundleNames : String}
    {event : RunningLockEvent} (hevent : event ≠ .unproxy)
    (hvisited : key' ≠ key → ∀ entry, m.entryAt? key' token = some entry →
      ∃ bundleName, (f entry).wks[uid]? = some (bundleName, true))
    (h : ProxySafe cfg proxied uid key m) :
    ProxySafe cfg proxied uid key (proxyInner cfg env token bundleNames event (m.modifyEntry key' token f)) := by
  intro position view' hview' hne hreached
  obtain ⟨view, hfound, hcase⟩ := view?_tell_cases cfg env token bundleNames hevent hview'
  have hsame : view'.ownerKey = view.ownerKey ∧ view'.name = view.name := by
    obtain rfl | rfl := hcase
    · exact ⟨rfl, rfl⟩
    · exact ⟨proxify_ownerKey view, proxify_name view⟩
  rw [hsame.1] at hne ⊢
  have hbefore : position.1 = key ∧ (m.entryAt? position.1 position.2).isSome = true ∨
      m.Completing cfg uid position := by
    by_cases hkey : position.1 = key
    · refine .inl ⟨hkey, ?_⟩
      rw [← isSome_modifyEntry key' _ token _ f, ← isSome_proxyInner cfg env token bundleNames event]
      obtain ⟨-, hentered⟩ | ⟨-, entry, -, hentry, -⟩ := hreached
      · exact hentered
      · rw [hentry]
        rfl
    · have hnew := hreached.resolve_left fun hleft => hkey hleft.1
      refine .inr ?_
      -- The entry at a foreign position is changed by the visit only where the flag goes up.
      have hentry : (proxyInner cfg env token bundleNames event (m.modifyEntry key' token f)).entryAt?
          position.1 position.2 = (m.modifyEntry key' token f).entryAt? position.1 position.2 := by
        by_cases htoken : position.2 = token
        · rw [htoken] at hfound
          exact entryAt?_tell_of_foreign cfg env token bundleNames event hfound hne position.2
        · exact (sameOff_proxyInner cfg env token bundleNames event _ _ htoken).2 _
      rw [RunningLockMgr.entryAt?_modifyEntry] at hentry
      by_cases hvisit : key' = position.1 ∧ token = position.2
      · rw [if_pos hvisit] at hentry
        obtain ⟨-, entry, bundleName, hfinal, hunflagged, -⟩ := hnew
        rw [hentry] at hfinal
        obtain ⟨old, hold, rfl⟩ := Option.map_eq_some_iff.mp hfinal
        obtain ⟨raised, hflag⟩ := hvisited (hvisit.1 ▸ hkey) old hold
        rw [hflag] at hunflagged
        cases hunflagged
      · rw [if_neg hvisit] at hentry
        refine (completing_congr ?_ hentry).mp hnew
        rw [hview', show m.view? position.2 = some view from hfound, Option.map_some, Option.map_some, hsame.2]
  rw [isSome_proxyInner, isSome_modifyEntry]
  refine (h position view hfound hne hbefore).imp_left fun hdisable => ?_
  obtain rfl | rfl := hcase
  · exact hdisable
  · rwa [proxify_of_disable hdisable]

/-- First loop: a lock entered under the key of the proxied process. -/
theorem increaseLoop_owned (hkey : proxied key = true) {token : Token}
    (hentered : (m.entryAt? key token).isSome = true) (h : IncreaseLoop cfg proxied uid key m) :
    IncreaseLoop cfg proxied uid key (increaseOwned cfg env key m token) := by
  refine ⟨settled_of_sameOff (sameOff_visit cfg env key token _ _ _ m) (fun _ _ _ hexcused => hexcused)
      (fun view' hview' => ?_) h.settled,
    proxySafe_visit RunningLockEvent.noConfusion (fun hne => absurd rfl hne) h.safe,
    countsAgree_increaseOwned cfg env key token h.counts, locksSound_increaseOwned key token h.sound⟩
  rw [increaseOwned_view?, Function.update_self] at hview'
  obtain ⟨view, hview, rfl⟩ := Option.map_eq_some_iff.mp hview'
  rw [proxify_ownerKey]
  refine (h.settled token view hview).proxify (fun hown => ?_) fun hstate => ?_
  · rwa [increaseOwned, isSome_proxyInner, isSome_modifyEntry]
  · by_cases howner : key = view.ownerKey
    · rw [← howner]
      exact ⟨hentered, .inl hkey⟩
    · rcases h.safe (key, token) view hview howner (.inl ⟨rfl, hentered⟩) with hdisable | ⟨hproxied, hown⟩
      · exact absurd hdisable hstate
      · exact ⟨hown, .inl hproxied⟩

theorem not_allFlagged_of_unflagged {entry : WksEntry} {bundleName : String}
    (h : entry.wks[uid]? = some (bundleName, false)) : ¬entry.AllFlagged := by
  intro hall
  cases hall.2 uid _ h

theorem raise_allFlagged {entry : WksEntry} {bundleName : String} (h : entry.CountAgrees)
    (hwks : entry.wks[uid]? = some (bundleName, false)) :
    (entry.raise uid bundleName).AllFlagged ↔
      (entry.raise uid bundleName).proxyCount = (entry.raise uid bundleName).wks.size := by
  have hagrees : (entry.raise uid bundleName).proxyCount = flagged (entry.raise uid bundleName).wks :=
    raise_countAgrees h hwks
  have hpos : 0 < flagged (entry.raise uid bundleName).wks := by
    rw [WksEntry.raise, flagged_raise hwks]
    omega
  rw [allFlagged_iff (raise_countAgrees h hwks)]
  omega

/-- Second loop: the flag of `uid` goes up, and the lock is proxied with the last one. -/
theorem settled_increaseWorkSource {key' : String} {token : Token} (h : IncreaseLoop cfg proxied uid key m) :
    (increaseWorkSource cfg env uid m (key', token)).Settled fun _ view => proxied view.ownerKey = true := by
  rcases increaseWorkSource_cases cfg env uid key' token m with
    heq | ⟨entry, bundleName, hskip, hentry, hwks, ⟨hfull, heq⟩ | ⟨hpart, heq⟩⟩
  · rw [heq]
    exact h.settled
  all_goals
    rw [heq]
    refine settled_of_sameOff (sameOff_visit cfg env key' token _ _ _ m) (fun _ _ _ hexcused => hexcused)
      (fun view' hview' => ?_) h.settled
    have hbefore : ¬entry.AllFlagged := not_allFlagged_of_unflagged hwks
    have hraise := raise_allFlagged (h.counts key' token entry hentry) hwks
  · rw [proxyInner_proxify_view?, Function.update_self] at hview'
    obtain ⟨view, hview, rfl⟩ := Option.map_eq_some_iff.mp hview'
    have hfound : m.view? token = some view := hview
    rw [proxify_ownerKey]
    refine (h.settled token view hfound).proxify (fun hown => ?_) fun hstate => ?_
    · rwa [isSome_proxyInner, isSome_modifyEntry]
    by_cases howner : key' = view.ownerKey
    · subst howner
      refine ⟨by rw [hentry]; rfl, ?_⟩
      obtain ⟨henable | hproxied, -⟩ := (h.sound token view hfound).resolve_left hstate
      · right
        have hnot : view.isProxied = false := by simp [LockView.isProxied, henable]
        refine ⟨_, ?_, hraise.mpr hfull⟩
        rw [entryAt?_proxy_of_not_proxied cfg env token _ hview hnot, RunningLockMgr.entryAt?_modifyEntry,
          if_pos ⟨rfl, rfl⟩, hentry]
        rfl
      · refine .inl ((h.settled token view hfound).excused_of_not_allFlagged hproxied fun other hother => ?_)
        rw [hentry] at hother
        cases hother
        exact hbefore
    · have hcompleting : m.Completing cfg uid (key', token) :=
        ⟨hskip, entry, bundleName, hentry, hwks, (raise_full_iff (h.counts key' token entry hentry) hwks).mp hfull⟩
      obtain hdisable | ⟨hproxied, hown⟩ := h.safe (key', token) view hfound howner (.inr hcompleting)
      · exact absurd hdisable hstate
      · exact ⟨hown, .inl hproxied⟩
  · rw [proxyInner_update_view?] at hview'
    rw [RunningLockMgr.entryAt?_congr (proxyInner_update_proxyMap ..), RunningLockMgr.entryAt?_modifyEntry]
    by_cases howner : key' = view'.ownerKey
    · subst howner
      rw [if_pos ⟨rfl, rfl⟩, hentry]
      have hsettled := h.settled token view' hview'
      rw [hentry] at hsettled
      refine hsettled.keep (fun _ => rfl) (fun _ _ raised hraised => ?_) fun hproxied => ?_
      · cases hraised
        exact fun hall => hpart (hraise.mp hall)
      · refine .inl (hsettled.excused_of_not_allFlagged hproxied fun other hother => ?_)
        cases hother
        exact hbefore
    · rw [if_neg fun hsame => howner hsame.1]
      exact h.settled token view' hview'

theorem increaseLoop_source (position : String × Token) (h : IncreaseLoop cfg proxied uid key m) :
    IncreaseLoop cfg proxied uid key (increaseWorkSource cfg env uid m position) := by
  obtain ⟨key', token⟩ := position
  refine ⟨settled_increaseWorkSource h, ?_, countsAgree_increaseWorkSource cfg env uid _ h.counts,
    locksSound_increaseWorkSource env uid _ h.sound⟩
  rcases increaseWorkSource_cases cfg env uid key' token m with
    heq | ⟨entry, bundleName, -, -, -, ⟨-, heq⟩ | ⟨-, heq⟩⟩
  · rw [heq]
    exact h.safe
  all_goals
    rw [heq]
    refine proxySafe_visit RunningLockEvent.noConfusion (fun _ _ _ => ⟨bundleName, ?_⟩) h.safe
    rw [WksEntry.raise, Lib.TreeMap.getElem?_insert_eq, if_pos rfl]

theorem settled_increaseProxyCnt {pid : Int} (hkey : proxied (assembleProxyKey pid uid) = true)
    (h : IncreaseLoop cfg proxied uid (assembleProxyKey pid uid) m) :
    (increaseProxyCnt cfg env pid uid m).Settled fun _ view => proxied view.ownerKey = true := by
  have hfirst := Lib.foldl_rest (f := increaseOwned cfg env (assembleProxyKey pid uid))
    (fun m rest => IncreaseLoop cfg proxied uid (assembleProxyKey pid uid) m ∧
      ∀ token ∈ rest, (m.entryAt? (assembleProxyKey pid uid) token).isSome = true)
    (fun m token rest hm => by
      refine ⟨increaseLoop_owned hkey (hm.2 token List.mem_cons_self) hm.1, fun other hmem => ?_⟩
      rw [increaseOwned, isSome_proxyInner, isSome_modifyEntry]
      exact hm.2 other (List.mem_cons_of_mem _ hmem))
    (m.tokensOf (assembleProxyKey pid uid)) m ⟨h, fun token hmem => (m.mem_tokensOf _ token).mp hmem⟩
  exact (Lib.foldl_keeps (I := IncreaseLoop cfg proxied uid (assembleProxyKey pid uid))
    (fun _ position hm => increaseLoop_source position hm) _ _ hfirst.1).settled

end Increase

/-! ## Un-proxying a process -/

/-- `uid` is a work source at this position where all are flagged, so that un-proxying it un-proxies
the lock. -/
def RunningLockMgr.Withdrawing (m : RunningLockMgr) (uid : Int) (position : String × Token) : Prop :=
  nameContains (m.getRunningLockName position.2) offloadRunningName = false ∧
    ∃ entry bundleName, m.entryAt? position.1 position.2 = some entry ∧
      entry.wks[uid]? = some (bundleName, true) ∧ entry.AllFlagged

/-- A proxied lock that the request reaches through an entry that is not its own has work sources of
its own that are not proxied. -/
def UnproxySafe (uid : Int) (key : String) (m : RunningLockMgr) : Prop :=
  ∀ position view, m.view? position.2 = some view → view.state = .proxied → position.1 ≠ view.ownerKey →
    position.1 = key ∧ (m.entryAt? position.1 position.2).isSome = true ∨ m.Withdrawing uid position →
    ∀ entry, m.entryAt? view.ownerKey position.2 = some entry → ¬entry.AllFlagged

/-- What both loops of `DecreaseProxyCnt` keep. -/
structure DecreaseLoop (excused : Token → LockView → Prop) (uid : Int) (key : String)
    (m : RunningLockMgr) : Prop where
  settled : m.Settled excused
  safe : UnproxySafe uid key m
  counts : m.CountsAgree

section Decrease

variable {cfg : Config} {env : Env} {excused excused' : Token → LockView → Prop} {uid : Int} {key : String}
  {m : RunningLockMgr} {key' : String} {token : Token} {f : WksEntry → WksEntry} {bundleNames : String}

theorem entryAt?_visit {event : RunningLockEvent} (hevent : event ≠ .proxy) :
    (proxyInner cfg env token bundleNames event (m.modifyEntry key' token f)).entryAt? =
      (m.modifyEntry key' token f).entryAt? := by
  cases event with
  | proxy => exact absurd rfl hevent
  | update => exact RunningLockMgr.entryAt?_congr (proxyInner_update_proxyMap ..)
  | unproxy => exact RunningLockMgr.entryAt?_congr (proxyInner_unproxy_proxyMap ..)

theorem view?_visit_of_proxied {event : RunningLockEvent} (hevent : event ≠ .proxy) {other : Token}
    {view : LockView} (hstate : view.state = .proxied)
    (hview : (proxyInner cfg env token bundleNames event (m.modifyEntry key' token f)).view? other = some view) :
    m.view? other = some view := by
  cases event with
  | proxy => exact absurd rfl hevent
  | update =>
    rw [proxyInner_update_view?] at hview
    exact hview
  | unproxy =>
    rcases proxyInner_unproxy_cases cfg env token bundleNames (m.modifyEntry key' token f) with
      ⟨-, hsame⟩ | ⟨found, state, -, -, hnew, hupdate⟩
    · rw [hsame] at hview
      exact hview
    · rw [hupdate] at hview
      by_cases hother : other = token
      · rw [hother, Function.update_self] at hview
        cases hview
        obtain rfl | ⟨rfl, -⟩ := hnew <;> cases hstate
      · rw [Function.update_of_ne hother] at hview
        exact hview

/-- An entry that is all flagged after a visit which clears a flag was so before. -/
theorem entryAt?_of_allFlagged (hnot : ∀ entry, m.entryAt? key' token = some entry → ¬(f entry).AllFlagged)
    {key'' : String} {other : Token} {entry : WksEntry} (hall : entry.AllFlagged)
    (hentry : (m.modifyEntry key' token f).entryAt? key'' other = some entry) :
    m.entryAt? key'' other = some entry := by
  rw [RunningLockMgr.entryAt?_modifyEntry] at hentry
  split at hentry
  · obtain ⟨old, hold, rfl⟩ := Option.map_eq_some_iff.mp hentry
    exact absurd hall (hnot old hold)
  · exact hentry

theorem unproxySafe_visit {event : RunningLockEvent} (hevent : event ≠ .proxy)
    (hnot : ∀ entry, m.entryAt? key' token = some entry → ¬(f entry).AllFlagged) (h : UnproxySafe uid key m) :
    UnproxySafe uid key (proxyInner cfg env token bundleNames event (m.modifyEntry key' token f)) := by
  intro position view hview hstate hne hreached entry hentry hall
  have hbefore := view?_visit_of_proxied hevent hstate hview
  rw [entryAt?_visit hevent] at hentry hreached
  have hown := entryAt?_of_allFlagged hnot hall hentry
  refine h position view hbefore hstate hne ?_ entry hown hall
  obtain ⟨hkey, hentered⟩ | ⟨hname, held, bundleName, hheld, hwks, hheldAll⟩ := hreached
  · exact .inl ⟨hkey, by rwa [isSome_modifyEntry] at hentered⟩
  · refine .inr ⟨?_, held, bundleName, entryAt?_of_allFlagged hnot hheldAll ?_, hwks, hheldAll⟩
    · rw [getRunningLockName_eq, hview] at hname
      rwa [getRunningLockName_eq, hbefore]
    · rwa [entryAt?_visit hevent] at hheld

theorem settled_unproxy (hnot : ∀ entry, m.entryAt? key' token = some entry → ¬(f entry).AllFlagged)
    (hforeign : ∀ view, m.view? token = some view → view.state = .proxied → key' ≠ view.ownerKey →
      ∀ entry, m.entryAt? view.ownerKey token = some entry → ¬entry.AllFlagged)
    (hexcused : ∀ other view, other ≠ token → excused other view → excused' other view) (h : m.Settled excused) :
    (proxyInner cfg env token bundleNames .unproxy (m.modifyEntry key' token f)).Settled excused' := by
  refine settled_of_sameOff (sameOff_visit cfg env key' token f bundleNames .unproxy m) hexcused
    (fun view' hview' => ?_) h
  rw [entryAt?_visit RunningLockEvent.noConfusion]
  have hsome : ∀ view : LockView, (m.entryAt? view.ownerKey token).isSome = true →
      ((m.modifyEntry key' token f).entryAt? view.ownerKey token).isSome = true := by
    intro view hown
    rwa [isSome_modifyEntry]
  -- Whichever entry was written, the own one is not all flagged if it was not before.
  have hown : ∀ view : LockView, (key' ≠ view.ownerKey →
        ∀ entry, m.entryAt? view.ownerKey token = some entry → ¬entry.AllFlagged) →
      ∀ entry, (m.modifyEntry key' token f).entryAt? view.ownerKey token = some entry → ¬entry.AllFlagged := by
    intro view hbefore entry hentry hall
    have hold := entryAt?_of_allFlagged hnot hall hentry
    by_cases howner : key' = view.ownerKey
    · rw [RunningLockMgr.entryAt?_modifyEntry, if_pos ⟨howner, rfl⟩, howner, hold] at hentry
      have hwritten : f entry = entry := Option.some.inj hentry
      exact hnot entry (howner ▸ hold) (by rwa [hwritten])
    · exact hbefore howner entry hold hall
  rcases proxyInner_unproxy_cases cfg env token bundleNames (m.modifyEntry key' token f) with
    ⟨hidle, hsame⟩ | ⟨view, state, hview, hstate, hnew, hupdate⟩
  · rw [hsame] at hview'
    have hfound : m.view? token = some view' := hview'
    have hsettled := h token view' hfound
    refine hsettled.keep (hsome view') (fun henable htype => ?_) fun hproxied => ?_
    · exact hown view' fun _ => hsettled.enabled henable htype
    · exact absurd hproxied (hidle view' hview')
  · rw [hupdate, Function.update_self] at hview'
    cases hview'
    have hfound : m.view? token = some view := hview
    exact (h token view hfound).release hstate (hnew.imp_right And.left) (hsome view)
      (hown view (hforeign view hfound hstate))

theorem not_allFlagged_clear (entry : WksEntry) : ¬entry.clear.AllFlagged := by
  intro hall
  have hcount := (allFlagged_iff (clear_countAgrees entry)).mp hall
  exact hcount.1 rfl

/-- First loop: a lock entered under the key of the process. -/
theorem decreaseLoop_owned (hexcused : ∀ other view, other ≠ token → excused other view → excused' other view)
    (hentered : (m.entryAt? key token).isSome = true) (h : DecreaseLoop excused uid key m) :
    DecreaseLoop excused' uid key (decreaseOwned cfg env key m token) := by
  have hnot : ∀ entry, m.entryAt? key token = some entry → ¬entry.clear.AllFlagged :=
    fun entry _ => not_allFlagged_clear entry
  refine ⟨settled_unproxy hnot (fun view hview hstate hne => ?_) hexcused h.settled,
    unproxySafe_visit RunningLockEvent.noConfusion hnot h.safe, countsAgree_decreaseOwned cfg env key token h.counts⟩
  exact h.safe (key, token) view hview hstate hne (.inl ⟨rfl, hentered⟩)

section Lower

variable {entry : WksEntry} {bundleName : String} (hcount : entry.CountAgrees)
  (hwks : entry.wks[uid]? = some (bundleName, true))

include hcount hwks

theorem lower_last_iff :
    (entry.lowerWith (fun count => max 0 (count - 1)) uid bundleName).proxyCount =
        ((entry.lowerWith (fun count => max 0 (count - 1)) uid bundleName).wks.size : Int) - 1 ↔
      entry.AllFlagged := by
  have hpos := lower_eq_of_flagged hcount hwks
  rw [allFlagged_iff hcount]
  simp only [WksEntry.lowerWith, hpos, size_insert_of_getElem? hwks]
  omega

omit hcount hwks in
theorem not_allFlagged_lower (lower : Int → Int) : ¬(entry.lowerWith lower uid bundleName).AllFlagged := by
  have hlowered : (entry.lowerWith lower uid bundleName).wks[uid]? = some (bundleName, false) := by
    rw [WksEntry.lowerWith, Lib.TreeMap.getElem?_insert_eq, if_pos rfl]
  exact not_allFlagged_of_unflagged hlowered

end Lower

/-- Second loop: the flag of `uid` goes down, and the lock is un-proxied if all were up. -/
theorem decreaseLoop_source (position : String × Token) (h : DecreaseLoop excused uid key m) :
    DecreaseLoop excused uid key
      (decreaseWorkSourceWith (fun count => max 0 (count - 1)) cfg env uid m position) := by
  obtain ⟨key', token⟩ := position
  refine ⟨?_, ?_, countsAgree_decreaseWorkSource cfg env uid _ h.counts⟩
  all_goals
    rcases decreaseWorkSourceWith_cases cfg env uid key' token m _ with
      heq | ⟨entry, bundleName, hname, hentry, hwks, heq⟩
  · rw [heq]
    exact h.settled
  · rw [heq]
    have hnot : ∀ old, m.entryAt? key' token = some old →
        ¬((fun _ : WksEntry => entry.lowerWith (fun count => max 0 (count - 1)) uid bundleName) old).AllFlagged :=
      fun _ _ => not_allFlagged_lower _
    have hlast := lower_last_iff (h.counts key' token entry hentry) hwks
    by_cases hall : entry.AllFlagged
    · rw [if_pos (hlast.mpr hall)]
      refine settled_unproxy hnot (fun view hview hstate hne => ?_) (fun _ _ _ hexcused => hexcused) h.settled
      exact h.safe (key', token) view hview hstate hne (.inr ⟨hname, entry, bundleName, hentry, hwks, hall⟩)
    · rw [if_neg fun hcount => hall (hlast.mp hcount)]
      refine settled_of_sameOff (sameOff_visit cfg env key' token _ _ _ m) (fun _ _ _ hexcused => hexcused)
        (fun view hview => ?_) h.settled
      rw [proxyInner_update_view?] at hview
      have hsettled := h.settled token view hview
      rw [entryAt?_visit RunningLockEvent.noConfusion, RunningLockMgr.entryAt?_modifyEntry]
      by_cases howner : key' = view.ownerKey
      · rw [if_pos ⟨howner, rfl⟩, hentry]
        rw [← howner, hentry] at hsettled
        refine hsettled.keep (fun _ => rfl) (fun _ _ lowered hlowered => ?_) fun hproxied => ?_
        · cases hlowered
          exact not_allFlagged_lower _
        · refine .inl (hsettled.excused_of_not_allFlagged hproxied fun old hold => ?_)
          cases hold
          exact hall
      · rw [if_neg fun hsame => howner hsame.1]
        exact hsettled
  · rw [heq]
    exact h.safe
  · rw [heq]
    refine unproxySafe_visit ?_ (fun _ _ => not_allFlagged_lower _) h.safe
    split <;> exact RunningLockEvent.noConfusion

theorem settled_decreaseProxyCnt {pid : Int} {proxied : String → Bool}
    (hsettled : m.Settled fun _ view => proxied view.ownerKey = true)
    (hsafe : UnproxySafe uid (assembleProxyKey pid uid) m) (hcounts : m.CountsAgree) :
    (decreaseProxyCnt cfg env pid uid m).Settled fun _ view =>
      Function.update proxied (assembleProxyKey pid uid) false view.ownerKey = true := by
  let owned := assembleProxyKey pid uid
  -- While the first loop runs, the locks of the process that are still to be visited are excused.
  let waiting (rest : List Token) (token : Token) (view : LockView) : Prop :=
    Function.update proxied owned false view.ownerKey = true ∨ view.ownerKey = owned ∧ token ∈ rest
  have hstart : DecreaseLoop (waiting (m.tokensOf owned)) uid owned m := by
    refine ⟨fun token view hview => ?_, hsafe, hcounts⟩
    have hlock := hsettled token view hview
    refine ⟨hlock.entered, hlock.enabled, fun hstate => (hlock.proxied hstate).imp_left fun hproxied => ?_⟩
    by_cases howner : view.ownerKey = owned
    · have hown := hlock.entered (.inr hstate)
      rw [howner] at hown
      exact .inr ⟨howner, (m.mem_tokensOf owned token).mpr hown⟩
    · refine .inl ?_
      rwa [Function.update_of_ne howner]
  have hfirst := Lib.foldl_rest (f := decreaseOwned cfg env owned)
    (fun m rest => DecreaseLoop (waiting rest) uid owned m ∧
      ∀ token ∈ rest, (m.entryAt? owned token).isSome = true)
    (fun m token rest hm => by
      refine ⟨decreaseLoop_owned (fun other view hne => ?_) (hm.2 token List.mem_cons_self) hm.1,
        fun other hmem => ?_⟩
      · exact Or.imp_right fun hwait => ⟨hwait.1, (List.mem_cons.mp hwait.2).resolve_left hne⟩
      · rw [decreaseOwned, isSome_proxyInner, isSome_modifyEntry]
        exact hm.2 other (List.mem_cons_of_mem _ hmem))
    (m.tokensOf owned) m ⟨hstart, fun token hmem => (m.mem_tokensOf _ token).mp hmem⟩
  have hsecond := Lib.foldl_keeps (I := DecreaseLoop (waiting []) uid owned)
    (f := decreaseWorkSourceWith (fun count => max 0 (count - 1)) cfg env uid)
    (fun _ position hm => decreaseLoop_source position hm)
    ((m.tokensOf owned).foldl (decreaseOwned cfg env owned) m).positions _ hfirst.1
  intro token view hview
  refine (hsecond.settled token view hview).weaken fun hexcused => ?_
  obtain hproxied | ⟨-, hmem⟩ := hexcused
  · exact hproxied
  · cases hmem

end Decrease

/-! ## Reset -/

/-- `ResetRunningLocks` while `rest` is still to be visited: what was visited is cleared, and only
locks whose own entry is still to come may be proxied. -/
structure ResetLoop (m : RunningLockMgr) (rest : List (String × Token)) : Prop where
  entered : ∀ token view, m.view? token = some view →
    view.type ≠ .proximityScreenControl ∨ view.state = .proxied → (m.entryAt? view.ownerKey token).isSome = true
  cleared : ∀ key token entry, (key, token) ∉ rest → m.entryAt? key token = some entry → ¬entry.AllFlagged
  waiting : ∀ token view, m.view? token = some view → view.state = .proxied → (view.ownerKey, token) ∈ rest

section Reset

variable {cfg : Config} {env : Env} {m : RunningLockMgr}

theorem resetLoop_visit (m : RunningLockMgr) (position : String × Token) (rest : List (String × Token))
    (h : ResetLoop m (position :: rest)) : ResetLoop (resetRunningLock cfg env m position) rest := by
  obtain ⟨key, token⟩ := position
  have hentries := entryAt?_resetRunningLock cfg env key token m
  have hcases : ∀ other view, (resetRunningLock cfg env m (key, token)).view? other = some view →
      ∃ old, m.view? other = some old ∧ old.ownerKey = view.ownerKey ∧ old.type = view.type ∧
        (view.state = .proxied → old = view ∧ other ≠ token) := by
    intro other view hview
    have htold : ∃ bundleNames, (resetRunningLock cfg env m (key, token)).view? =
        (proxyInner cfg env token bundleNames .unproxy (m.modifyEntry key token fun entry =>
          { entry.clear with proxyCount := entry.proxyCount })).view? := ⟨_, rfl⟩
    obtain ⟨bundleNames, heq⟩ := htold
    rw [heq] at hview
    rcases proxyInner_unproxy_cases cfg env token bundleNames (m.modifyEntry key token fun entry =>
        { entry.clear with proxyCount := entry.proxyCount }) with
      ⟨hidle, hsame⟩ | ⟨found, state, hfound, -, hnew, hupdate⟩
    · rw [hsame] at hview
      refine ⟨view, hview, rfl, rfl, fun hstate => ⟨rfl, fun htoken => ?_⟩⟩
      exact hidle view (htoken ▸ hview) hstate
    · rw [hupdate] at hview
      by_cases htoken : other = token
      · rw [htoken, Function.update_self] at hview
        cases hview
        refine ⟨found, htoken ▸ hfound, rfl, rfl, fun hstate => ?_⟩
        obtain rfl | ⟨rfl, -⟩ := hnew <;> cases hstate
      · rw [Function.update_of_ne htoken] at hview
        exact ⟨view, hview, rfl, rfl, fun _ => ⟨rfl, htoken⟩⟩
  refine ⟨fun other view hview hwhen => ?_, fun key' other entry hmem hentry => ?_,
    fun other view hview hstate => ?_⟩
  · obtain ⟨old, hold, howner, htype, hproxied⟩ := hcases other view hview
    rw [hentries, isSome_modifyEntry, ← howner]
    refine h.entered other old hold ?_
    obtain hne | hstate := hwhen
    · exact .inl (htype ▸ hne)
    · exact .inr ((hproxied hstate).1 ▸ hstate)
  · rw [hentries, RunningLockMgr.entryAt?_modifyEntry] at hentry
    split at hentry
    · obtain ⟨old, -, rfl⟩ := Option.map_eq_some_iff.mp hentry
      exact not_allFlagged_clear old
    next hne =>
      refine h.cleared key' other entry (fun hin => ?_) hentry
      obtain hsame | hrest := List.mem_cons.mp hin
      · exact hne ⟨(Prod.mk.inj hsame).1.symm, (Prod.mk.inj hsame).2.symm⟩
      · exact hmem hrest
  · obtain ⟨old, hold, -, -, hproxied⟩ := hcases other view hview
    obtain ⟨rfl, hother⟩ := hproxied hstate
    obtain hsame | hrest := List.mem_cons.mp (h.waiting other old hold hstate)
    · exact absurd (Prod.mk.inj hsame).2 hother
    · exact hrest

theorem settled_resetRunningLocks {excused excused' : Token → LockView → Prop} (h : m.Settled excused) :
    (resetRunningLocks cfg env m).Settled excused' := by
  have hend := Lib.foldl_rest (f := resetRunningLock cfg env) ResetLoop resetLoop_visit m.positions m
    ⟨fun token view hview => (h token view hview).entered,
      fun key token entry hmem hentry => absurd ((m.mem_positions key token).mpr (by rw [hentry]; rfl)) hmem,
      fun token view hview hstate => (m.mem_positions _ token).mpr ((h token view hview).entered (.inr hstate))⟩
  intro token view hview
  refine ⟨hend.entered token view hview, fun _ _ entry hentry => ?_, fun hstate => ?_⟩
  · exact hend.cleared _ _ entry (List.not_mem_nil) hentry
  · cases hend.waiting token view hview hstate

end Reset

/-! ## Client calls -/

section Client

variable {cfg : Config} {env : Env} {m : RunningLockMgr} {excused excused' : Token → LockView → Prop}
  {token : Token}

theorem settled_lock
    (hok : ∀ lockInner entry, validateLockForEnable cfg env token m = some lockInner →
      lockInner.param.type ≠ .proximityScreenControl → m.entryAt? lockInner.ownerKey token = some entry →
      ¬entry.AllFlagged)
    (h : m.Settled excused) : (lock cfg env token m).1.Settled excused := by
  have hmap := lock_proxyMap cfg env token m
  cases hvalid : validateLockForEnable cfg env token m with
  | none =>
    obtain ⟨-, heq⟩ | ⟨lockInner, hsome, -⟩ := lock_cases cfg env token m
    · rwa [heq]
    · rw [hvalid] at hsome
      cases hsome
  | some lockInner =>
    have hfound := m.view?_of_getElem? (validateLockForEnable_eq_some.mp hvalid).1
    obtain hsame | ⟨view, hview, hstate, -, hupdate⟩ := lock_view? cfg env token m
    · intro other view hview
      rw [hsame] at hview
      rw [RunningLockMgr.entryAt?_congr hmap]
      exact h other view hview
    · refine settled_of_sameOff (sameOff_of_proxyMap_eq _ hupdate hmap) (fun _ _ _ hexcused => hexcused)
        (fun view' hview' => ?_) h
      rw [hview] at hfound
      cases hfound
      rw [hupdate, Function.update_self] at hview'
      cases hview'
      rw [RunningLockMgr.entryAt?_congr hmap]
      refine ⟨fun hwhen => ?_, fun _ htype entry hentry => hok lockInner entry hvalid htype hentry, fun hproxied => ?_⟩
      · obtain htype | hproxied := hwhen
        · exact (h token _ hview).entered (.inl htype)
        · cases hproxied
      · cases hproxied

theorem decreaseWith_succeeds {action : Activate} (haction : ∀ param m, (action false param m).2 = true)
    (type : RunningLockType) (param : RunningLockParam) (m : RunningLockMgr) :
    (decreaseWith action type param m).2 = true := by
  simp only [decreaseWith]
  split
  · rw [haction]
    rfl
  · rfl

theorem decrease_succeeds (hdi : ∀ m param, env.hdi m false param = true) (type : RunningLockType)
    (param : RunningLockParam) (m : RunningLockMgr) : (decrease env type param m).2 = true := by
  have hbackground : ∀ param m, (activateBackground env false param m).2 = true := fun param m => hdi m param
  refine decreaseWith_succeeds (fun param m => ?_) type param m
  cases type with
  | backgroundUserIdle => exact decreaseWith_succeeds hbackground _ _ _
  | coordination => exact decreaseWith_succeeds hbackground _ _ _
  | screen => rfl
  | proximityScreenControl => rfl
  | _ => exact hdi m param

theorem sameOff_unLock {lockInner : RunningLockInner} (hfound : m.runningLocks[token]? = some lockInner)
    (name : String) : SameOff token m (unLock cfg env token name m).1 := by
  have hfind := RunningLockMgr.findLock_of_registered hfound name
  intro other hne
  constructor
  · obtain hsame | ⟨registered, found, hlock, -, hupdate⟩ := unLock_view? cfg env token name m
    · rw [hsame]
    · rw [hfind] at hlock
      cases hlock
      rw [hupdate, Function.update_of_ne hne]
  · intro key
    obtain hmap | ⟨_, found, -, -, hmap⟩ := unLock_proxyMap cfg env token name m
    · rw [RunningLockMgr.entryAt?_congr hmap]
    · rw [RunningLockMgr.entryAt?_congr hmap]
      exact (sameOff_modifyEntry found.ownerKey token WksEntry.clear m other hne).2 key

theorem settled_unLock_registered {lockInner : RunningLockInner} (hsound : m.LocksSound cfg)
    (hfound : m.runningLocks[token]? = some lockInner) (name : String)
    (hexcused : ∀ other view, other ≠ token → excused other view → excused' other view)
    (hok : lockInner.state = .proxied →
      excused' token lockInner.view ∨ ∀ m param, env.hdi m false param = true)
    (h : m.Settled excused) : (unLock cfg env token name m).1.Settled excused' := by
  have hview := m.view?_of_getElem? hfound
  have hsettled := h token _ hview
  refine settled_of_sameOff (sameOff_unLock hfound name) hexcused (fun view' hview' => ?_) h
  rcases unLock_cases cfg env token name m with
    ⟨hnone, -⟩ | ⟨registered, found, hfind, ⟨hrefused, heq⟩ | ⟨hstate, -, hfailed, heq⟩ | ⟨-, -, -, heq⟩⟩
  · rw [RunningLockMgr.findLock_of_registered hfound] at hnone
    cases hnone
  all_goals
    rw [RunningLockMgr.findLock_of_registered hfound] at hfind
    cases hfind
  · -- Every type of a lock that is not disabled has a counter, so the lock is disabled.
    have hdisable : lockInner.state = .disable := by
      obtain hdisable | hnone := hrefused
      · exact hdisable
      · obtain hdisable | ⟨-, hcounter⟩ := hsound token _ hview
        · exact hdisable
        · rw [show hasCounter cfg lockInner.view.type = false from hnone] at hcounter
          cases hcounter
    have hnot : lockInner.isProxied = false := by simp [RunningLockInner.isProxied, hdisable]
    rw [heq, clearIfProxied_of_not_proxied _ _ _ hnot] at hview' ⊢
    rw [hview] at hview'
    cases hview'
    exact .of_disable hdisable fun htype => hsettled.entered (.inl htype)
  · have hmap : (unLock cfg env token name m).1.proxyMap = (clearIfProxied token lockInner m).proxyMap := by
      rw [heq]
      exact decrease_proxyMap ..
    have hlocks : (unLock cfg env token name m).1.runningLocks = m.runningLocks := by
      rw [heq]
      simp
    rw [RunningLockMgr.view?_congr hlocks, hview] at hview'
    cases hview'
    rw [RunningLockMgr.entryAt?_congr hmap]
    cases hproxied : lockInner.isProxied with
    | false =>
      rw [clearIfProxied_of_not_proxied _ _ _ hproxied]
      refine ⟨hsettled.entered, hsettled.enabled, fun hstill => ?_⟩
      have hstill' : lockInner.state = .proxied := hstill
      simp [RunningLockInner.isProxied, hstill'] at hproxied
    | true =>
      rw [clearIfProxied_of_proxied _ _ _ hproxied]
      refine hsettled.keep (fun hown => ?_) (fun henable => ?_) fun hstill => ?_
      · rwa [isSome_modifyEntry]
      · have henable' : lockInner.state = .enable := henable
        simp [RunningLockInner.isProxied, henable'] at hproxied
      · obtain hexcuse | hdi := hok hstill
        · exact .inl hexcuse
        · rw [decrease_succeeds hdi] at hfailed
          cases hfailed
  · have hlisted : ((listScreenLock lockInner.param false (decrease env lockInner.param.type lockInner.param
        (clearIfProxied token lockInner m)).1)).view? = m.view? := RunningLockMgr.view?_congr (by simp)
    have hsome : ((unLock cfg env token name m).1.entryAt? lockInner.ownerKey token).isSome =
        (m.entryAt? lockInner.ownerKey token).isSome := by
      obtain hmap | ⟨_, found, -, -, hmap⟩ := unLock_proxyMap cfg env token name m
      · rw [RunningLockMgr.entryAt?_congr hmap]
      · rw [RunningLockMgr.entryAt?_congr hmap, isSome_modifyEntry]
    rw [heq, RunningLockMgr.view?_setState _ (by rw [hlisted]; exact hview), Function.update_self] at hview'
    cases hview'
    refine .of_disable rfl fun htype => hsome.trans (hsettled.entered (.inl htype))

/-- A lock that is found by its name under an unregistered token keeps its entry. -/
theorem settled_unLock_unregistered (hnone : m.runningLocks[token]? = none) (name : String)
    (h : m.Settled excused) : (unLock cfg env token name m).1.Settled excused := by
  have hentries : ∀ other key, other ≠ token →
      (unLock cfg env token name m).1.entryAt? key other = m.entryAt? key other := by
    intro other key hne
    obtain hmap | ⟨_, found, -, -, hmap⟩ := unLock_proxyMap cfg env token name m
    · rw [RunningLockMgr.entryAt?_congr hmap]
    · rw [RunningLockMgr.entryAt?_congr hmap]
      exact (sameOff_modifyEntry found.ownerKey token WksEntry.clear m other hne).2 key
  have hregistered : ∀ other view, m.view? other = some view → other ≠ token := by
    intro other view hview hsame
    rw [hsame, RunningLockMgr.view?, hnone] at hview
    cases hview
  intro other view hview
  obtain hsame | ⟨registered, found, hfind, -, hupdate⟩ := unLock_view? cfg env token name m
  · rw [hsame] at hview
    rw [hentries other _ (hregistered other view hview)]
    exact h other view hview
  · have hfound := m.view?_of_getElem? (RunningLockMgr.getElem?_of_findLock hfind)
    rw [hupdate] at hview
    by_cases hother : other = registered
    · rw [hother, Function.update_self] at hview
      cases hview
      refine .of_disable rfl fun htype => ?_
      rw [hother, hentries registered _ (hregistered registered _ hfound)]
      exact (h registered _ hfound).entered (.inl htype)
    · rw [Function.update_of_ne hother] at hview
      rw [hentries other _ (hregistered other view hview)]
      exact h other view hview

theorem settled_unLock (hsound : m.LocksSound cfg) (name : String)
    (hexcused : ∀ other view, other ≠ token → excused other view → excused' other view)
    (hok : ∀ view, m.view? token = some view → view.state = .proxied →
      excused' token view ∨ ∀ m param, env.hdi m false param = true)
    (h : m.Settled excused) : (unLock cfg env token name m).1.Settled excused' := by
  cases hfound : m.runningLocks[token]? with
  | some lockInner =>
    exact settled_unLock_registered hsound hfound name hexcused (hok _ (m.view?_of_getElem? hfound)) h
  | none =>
    have hsettled : m.Settled excused' := by
      intro other view hview
      refine (h other view hview).weaken (hexcused other view fun hsame => ?_)
      rw [hsame, RunningLockMgr.view?, hfound] at hview
      cases hview
    exact settled_unLock_unregistered hfound name hsettled

theorem isEmpty_of_scanWorkSources {workSourceMap : WksMap} {workSources : TreeMap Int String}
    (h : (scanWorkSources workSourceMap workSources).workSourcesState.size = 0) :
    workSources.isEmpty = true := by
  have hempty : (scanWorkSources workSourceMap workSources).workSourcesState.isEmpty = true := by
    rw [TreeMap.isEmpty_eq_size_eq_zero, h]
    rfl
  rw [TreeMap.isEmpty_iff_forall_not_mem]
  intro uid hmem
  have hnone : (scanWorkSources workSourceMap workSources).workSourcesState[uid]? = none :=
    TreeMap.getElem?_of_isEmpty hempty
  rw [scanWorkSources_getElem?, Option.map_eq_none_iff] at hnone
  rw [TreeMap.mem_iff_isSome_getElem?, hnone] at hmem
  cases hmem

/-- The event `UpdateWorkSource` raises: what it says about the new entry and the old one. -/
theorem workSourceEvent_spec {entry : WksEntry} (hagrees : entry.CountAgrees)
    (workSources : TreeMap Int String) {new : WksEntry}
    (hnew : new = ⟨(scanWorkSources entry.wks workSources).workSourcesState,
      (scanWorkSources entry.wks workSources).proxyCount⟩) :
    match workSourceEvent entry (scanWorkSources entry.wks workSources) with
    | .unproxy => ¬new.AllFlagged
    | .proxy => new.AllFlagged
    | .update => entry.AllFlagged ∧ workSources.isEmpty = true ∨ (entry.AllFlagged ↔ new.AllFlagged) := by
  have hcount : new.CountAgrees := by
    rw [hnew]
    exact scanWorkSources_proxyCount entry.wks workSources
  have hbound := flagged_le_size new.wks
  have hempty : new.wks.size = 0 → workSources.isEmpty = true := by
    rw [hnew]
    exact isEmpty_of_scanWorkSources
  rw [allFlagged_iff hcount, allFlagged_iff hagrees]
  unfold WksEntry.CountAgrees at hcount
  simp only [workSourceEvent]
  rw [show (scanWorkSources entry.wks workSources).workSourcesState = new.wks by rw [hnew],
    show (scanWorkSources entry.wks workSources).proxyCount = new.proxyCount by rw [hnew]]
  by_cases hall : entry.proxyCount ≠ 0 ∧ entry.proxyCount = entry.wks.size
  · by_cases hless : (new.wks.size : Int) > new.proxyCount
    · rw [if_pos ⟨hall, hless⟩]
      dsimp only
      omega
    · rw [if_neg fun hboth => hless hboth.2, if_neg fun hboth => hboth.1 hall]
      by_cases hzero : new.wks.size = 0
      · exact .inl ⟨hall, hempty hzero⟩
      · right
        omega
  · rw [if_neg fun hboth => hall hboth.1]
    by_cases hnewAll : (new.wks.size : Int) > 0 ∧ (new.wks.size : Int) = new.proxyCount
    · rw [if_pos ⟨hall, hnewAll⟩]
      omega
    · rw [if_neg fun hboth => hnewAll hboth.2]
      right
      omega

/-- Whatever the lock is told, its entry is overwritten after that. -/
theorem entryAt?_overwritten {key : String} {entry : WksEntry} (hentry : m.entryAt? key token = some entry)
    (bundleNames : String) (event : RunningLockEvent) (new : WksEntry) :
    ((proxyInner cfg env token bundleNames event m).modifyEntry key token fun _ => new).entryAt? key token =
      some new := by
  rw [RunningLockMgr.entryAt?_modifyEntry, if_pos ⟨rfl, rfl⟩]
  obtain ⟨old, hold⟩ := Option.isSome_iff_exists.mp
    ((isSome_proxyInner cfg env token bundleNames event m key token).trans (by rw [hentry]; rfl))
  rw [hold]
  rfl

/-- The lock is told before its entry is overwritten; it fits to the new one unless that is empty. -/
theorem settled_updateWorkSource (hcounts : m.CountsAgree) (workSources : TreeMap Int String)
    (hexcused : ∀ other view, excused other view → excused' other view)
    (hok : workSources.isEmpty = true → ∀ view, m.view? token = some view → view.state = .proxied →
      excused' token view)
    (h : m.Settled excused) : (updateWorkSource cfg env token workSources m).Settled excused' := by
  have hweak : m.Settled excused' := fun other view hview => (h other view hview).weaken (hexcused other view)
  unfold updateWorkSource
  split
  · exact hweak
  next lockInner hfound =>
    have hview := m.view?_of_getElem? hfound
    have hsettled := hweak token _ hview
    simp only [updateWorkSourceProxy]
    split
    · exact hweak
    next entry hentry =>
      have hown : m.entryAt? lockInner.view.ownerKey token = some entry := hentry
      rw [hown] at hsettled
      have hspec := workSourceEvent_spec (hcounts _ token entry hentry) workSources rfl
      refine settled_of_sameOff ((sameOff_proxyInner cfg env token _ _ m).trans
        (sameOff_modifyEntry _ token _ _)) (fun _ _ _ hexcuse => hexcuse) (fun view' hview' => ?_) hweak
      have hwritten : ∀ names event, ((proxyInner cfg env token names event m).modifyEntry
          (assembleProxyKey lockInner.param.pid lockInner.param.uid) token fun _ =>
            ⟨(scanWorkSources entry.wks workSources).workSourcesState,
            (scanWorkSources entry.wks workSources).proxyCount⟩).entryAt? lockInner.view.ownerKey token =
          some ⟨(scanWorkSources entry.wks workSources).workSourcesState,
            (scanWorkSources entry.wks workSources).proxyCount⟩ := by
        intro names event
        exact entryAt?_overwritten hentry names event _
      rw [RunningLockMgr.view?_modifyEntry] at hview'
      cases hevent : workSourceEvent entry (scanWorkSources entry.wks workSources) with
      | unproxy =>
        rw [hevent] at hspec hview'
        rcases proxyInner_unproxy_cases cfg env token _ m with
          ⟨hidle, hsame⟩ | ⟨view, state, hlock, hstate, hnew, hupdate⟩
        · rw [hsame, hview] at hview'
          cases hview'
          rw [hwritten]
          refine hsettled.keep (fun _ => rfl) (fun _ _ new hnewEq => ?_) fun hproxied => ?_
          · cases hnewEq
            exact hspec
          · exact absurd hproxied (hidle _ hview)
        · rw [hview] at hlock
          cases hlock
          rw [hupdate, Function.update_self] at hview'
          cases hview'
          rw [hwritten]
          refine hsettled.release hstate (hnew.imp_right And.left) (fun _ => rfl) fun new hnewEq => ?_
          cases hnewEq
          exact hspec
      | proxy =>
        rw [hevent] at hspec hview'
        rw [proxyInner_proxify_view?, Function.update_self, hview] at hview'
        cases hview'
        rw [proxify_ownerKey]
        rw [hwritten]
        exact hsettled.proxify (fun _ => rfl) fun _ => ⟨rfl, .inr ⟨_, rfl, hspec⟩⟩
      | update =>
        rw [hevent] at hspec hview'
        rw [proxyInner_update_view?, hview] at hview'
        cases hview'
        rw [hwritten]
        refine hsettled.keep (fun _ => rfl) (fun henable htype new hnewEq hall => ?_) fun hproxied => ?_
        · cases hnewEq
          have hnot := hsettled.enabled henable htype entry rfl
          obtain ⟨hentryAll, -⟩ | hiff := hspec
          · exact hnot hentryAll
          · exact hnot (hiff.mpr hall)
        · obtain ⟨-, hempty⟩ | hiff := hspec
          · exact .inl (hok hempty _ hview hproxied)
          · refine (hsettled.proxied hproxied).imp_right fun hsome => ?_
            obtain ⟨old, hold, hall⟩ := hsome
            cases hold
            exact ⟨_, rfl, hiff.mp hall⟩

/-- A released lock is gone, whatever `UnLock` made of it. -/
theorem settled_releaseLock (hsound : m.LocksSound cfg) (name : String) (h : m.Settled excused) :
    (releaseLock cfg env token name m).Settled excused := by
  by_cases hfound : m.findLock token name = none
  · rw [releaseLock_of_not_found cfg env hfound]
    exact h
  · have hview := releaseLock_view? cfg env hfound
    have hunlocked : (unLock cfg env token "" m).1.Settled fun other view => excused other view ∨ other = token :=
      settled_unLock hsound "" (fun _ _ _ hexcuse => .inl hexcuse) (fun _ _ _ => .inl (.inr rfl)) h
    refine settled_of_sameOff (sameOff_of_update hview fun other hne => entryAt?_releaseLock_of_ne hfound hne)
      (fun other view hne hexcuse => hexcuse.resolve_right hne) (fun view hgone => ?_) hunlocked
    rw [hview, Function.update_self] at hgone
    cases hgone

theorem settled_createRunningLock (param : RunningLockParam) (h : m.Settled excused) :
    (createRunningLock token param m).Settled excused := by
  have hentries : ∀ key other, (createRunningLock token param m).entryAt? key other = m.entryAt? key other ∨
      param.type ≠ .proximityScreenControl ∧ assembleProxyKey param.pid param.uid = key ∧ token = other ∧
      (createRunningLock token param m).entryAt? key other = some ((m.entryAt? key other).getD ⟨∅, 0⟩) := by
    intro key other
    simp only [createRunningLock]
    split
    next htype =>
      rw [entryAt?_addRunningLock]
      by_cases hsame : assembleProxyKey param.pid param.uid = key ∧ token = other
      · rw [if_pos hsame]
        exact .inr ⟨htype, hsame.1, hsame.2, rfl⟩
      · rw [if_neg hsame]
        exact .inl rfl
    next => exact .inl rfl
  refine settled_of_sameOff (sameOff_of_update (createRunningLock_view? token param m) fun other hne key => ?_)
    (fun _ _ _ hexcuse => hexcuse) (fun view hview => ?_) h
  · obtain hsame | ⟨-, -, hother, -⟩ := hentries key other
    · exact hsame
    · exact absurd hother.symm hne
  rw [createRunningLock_view?, Function.update_self] at hview
  cases hfound : m.view? token with
  | none =>
    rw [hfound, Option.getD_none] at hview
    cases hview
    refine .of_disable rfl fun htype => ?_
    have hcounted : param.type ≠ .proximityScreenControl := htype
    simp only [createRunningLock]
    rw [if_pos hcounted, entryAt?_addRunningLock, if_pos ⟨rfl, rfl⟩]
    rfl
  | some old =>
    rw [hfound, Option.getD_some] at hview
    cases hview
    have hsettled := h token view hfound
    obtain hsame | ⟨-, -, -, hadded⟩ := hentries view.ownerKey token
    · rw [hsame]
      exact hsettled
    · rw [hadded]
      cases hown : m.entryAt? view.ownerKey token with
      | some entry =>
        rw [hown] at hsettled
        exact hsettled
      | none =>
        -- A lock without an entry is a proximity lock, and not proxied.
        rw [hown] at hsettled
        refine hsettled.keep (fun _ => rfl) (fun _ htype => ?_) fun hproxied => ?_
        · cases hsettled.entered (.inl htype)
        · cases hsettled.entered (.inr hproxied)

end Client

/-! ## Runs -/

def Careful (cfg : Config) (s : Tracked) (call : Op × Env) : Prop :=
  match call.1 with
  | .lock token => ∀ lockInner entry, validateLockForEnable cfg call.2 token s.mgr = some lockInner →
      lockInner.param.type ≠ .proximityScreenControl → s.mgr.entryAt? lockInner.ownerKey token = some entry →
      ¬entry.AllFlagged
  | .unLock token _ | .timerUnLock token => ∀ view, s.mgr.view? token = some view → view.state = .proxied →
      s.proxied view.ownerKey = true ∨ ∀ m param, call.2.hdi m false param = true
  | .updateWorkSource token workSources => workSources.isEmpty = true →
      ∀ view, s.mgr.view? token = some view → view.state = .proxied → s.proxied view.ownerKey = true
  | .proxyRunningLock true pid uid => 1 ≤ pid →
      ProxySafe cfg (trackOwners s.proxied (.proxyRunningLock true pid uid)) uid (assembleProxyKey pid uid) s.mgr
  | .proxyRunningLock false pid uid => 1 ≤ pid → UnproxySafe uid (assembleProxyKey pid uid) s.mgr
  | .createRunningLock .. | .releaseLock .. | .resetRunningLocks => True

/-- Every lock is settled, up to those whose owner is proxied. -/
structure Tracked.Settled (cfg : Config) (s : Tracked) : Prop where
  locks : s.mgr.Settled fun _ view => s.proxied view.ownerKey = true
  counts : s.mgr.CountsAgree
  sound : s.mgr.LocksSound cfg

theorem settled_step {cfg : Config} {s : Tracked} {call : Op × Env} (h : s.Settled cfg)
    (hok : Careful cfg s call) :
    (step cfg s.mgr call).Settled fun _ view => trackOwners s.proxied call.1 view.ownerKey = true := by
  obtain ⟨op, env⟩ := call
  cases op with
  | createRunningLock token param => exact settled_createRunningLock param h.locks
  | lock token => exact settled_lock hok h.locks
  | unLock token name => exact settled_unLock h.sound name (fun _ _ _ hexcuse => hexcuse) hok h.locks
  | releaseLock token name => exact settled_releaseLock h.sound name h.locks
  | updateWorkSource token workSources =>
    exact settled_updateWorkSource h.counts workSources (fun _ _ hexcuse => hexcuse) hok h.locks
  | resetRunningLocks => exact settled_resetRunningLocks h.locks
  | timerUnLock token =>
    have hdropped : (updateWorkSource cfg env token ∅ s.mgr).Settled fun other view =>
        s.proxied view.ownerKey = true ∨ other = token :=
      settled_updateWorkSource h.counts ∅ (fun _ _ => .inl) (fun _ _ _ _ => .inr rfl) h.locks
    refine settled_unLock (locksSound_updateWorkSource env token ∅ h.sound) ""
      (fun other view hne hexcuse => hexcuse.resolve_right hne) (fun view hview => ?_) hdropped
    rw [updateWorkSource_empty_view?] at hview
    exact hok view hview
  | proxyRunningLock isProxied pid uid =>
    simp only [step, proxyRunningLock]
    by_cases hpid : pid < 1
    · simp only [trackOwners, hpid, if_true]
      exact h.locks
    · cases isProxied with
      | true =>
        have hproxied : trackOwners s.proxied (.proxyRunningLock true pid uid) (assembleProxyKey pid uid) = true := by
          simp [trackOwners, hpid]
        rw [if_neg hpid, if_pos rfl]
        refine settled_increaseProxyCnt hproxied ⟨fun token view hview => ?_, hok (by omega), h.counts, h.sound⟩
        refine (h.locks token view hview).weaken fun hexcuse => ?_
        dsimp only at hexcuse ⊢
        by_cases howner : view.ownerKey = assembleProxyKey pid uid
        · rw [howner]
          exact hproxied
        · simpa [trackOwners, hpid, Function.update_of_ne howner] using hexcuse
      | false =>
        simp only [trackOwners, hpid, if_false, Bool.false_eq_true]
        exact settled_decreaseProxyCnt h.locks (hok (by omega)) h.counts

theorem settled_of_reach {cfg : Config} {s : Tracked} (hreach : (trackedSystem cfg).Reach (Careful cfg) s) :
    s.Settled cfg := by
  refine hreach.invariant (fun s hinit => ?_) fun s s' call hs hok hnext => ?_
  · cases hinit
    refine ⟨fun token view hview => ?_, countsAgree_init, fun token view hview => ?_⟩
    all_goals simp [RunningLockMgr.view?] at hview
  · cases hnext
    exact ⟨settled_step hs hok, countsAgree_step cfg call hs.counts, locksSound_step call hs.sound⟩

/-- No lock is held on behalf of proxied work only: a lock that is registered for other use than the
proximity sensor and has work sources that are all proxied is not enabled.  And no lock stays
proxied with nothing left to un-proxy it: its owner is proxied or one of its work sources is. -/
def Tracked.ProxiedWorkReleased (s : Tracked) : Prop :=
  ∀ token view, s.mgr.view? token = some view →
    (∀ entry, view.type ≠ .proximityScreenControl → s.mgr.entryAt? view.ownerKey token = some entry →
      entry.wks.size ≠ 0 →
      (∀ (uid : Int) (wks : String × Bool), entry.wks[uid]? = some wks → wks.2 = true) → view.state ≠ .enable) ∧
    (view.state = .proxied → s.proxied view.ownerKey = true ∨
      ∃ (entry : WksEntry) (uid : Int) (bundleName : String),
        s.mgr.entryAt? view.ownerKey token = some entry ∧ entry.wks[uid]? = some (bundleName, true))

theorem exists_flagged_of_allFlagged {entry : WksEntry} (h : entry.AllFlagged) :
    ∃ (uid : Int) (bundleName : String), entry.wks[uid]? = some (bundleName, true) := by
  obtain ⟨hsize, hall⟩ := h
  have hnonempty : entry.wks.isEmpty = false := by
    rw [TreeMap.isEmpty_eq_size_eq_zero]
    simp [hsize]
  rw [TreeMap.isEmpty_eq_false_iff_exists_mem] at hnonempty
  obtain ⟨uid, hmem⟩ := hnonempty
  obtain ⟨wks, hwks⟩ := Option.isSome_iff_exists.mp (TreeMap.mem_iff_isSome_getElem?.mp hmem)
  have hflag := hall uid wks hwks
  exact ⟨uid, wks.1, by rw [hwks, ← hflag]⟩

/-- In every run of careful calls the locks held are held for work that is not proxied, and the locks
taken away will be given back. -/
theorem proxied_work_not_held {cfg : Config} {s : Tracked}
    (hreach : (trackedSystem cfg).Reach (Careful cfg) s) : s.ProxiedWorkReleased := by
  intro token view hview
  have hsettled := (settled_of_reach hreach).locks token view hview
  refine ⟨fun entry htype hentry hsize hall henable => ?_, fun hproxied => ?_⟩
  · exact hsettled.enabled henable htype entry hentry ⟨hsize, hall⟩
  · refine (hsettled.proxied hproxied).imp_right fun hsome => ?_
    obtain ⟨entry, hentry, hall⟩ := hsome
    obtain ⟨uid, bundleName, hwks⟩ := exists_flagged_of_allFlagged hall
    exact ⟨entry, uid, bundleName, hentry, hwks⟩

/-! ## Runs that keep and break it -/

/-- A download lock, and the one user it works for. -/
def downloadLock : RunningLockParam := { name := "download", type := .backgroundTask, pid := 10, uid := 20 }

def oneWorkSource : TreeMap Int String := (∅ : TreeMap Int String).insert 7 "mail"

/-- The download is started for user `7`, who is proxied afterwards. -/
def downloadProxied : List (Op × Env) :=
  [(.createRunningLock 1 downloadLock, {}), (.lock 1, {}), (.updateWorkSource 1 oneWorkSource, {}),
    (.proxyRunningLock true 99 7, {})]

/-- Proxying the user of the download takes its lock away, and it is flagged to be given back. -/
theorem proxied_work_not_held_download :
    ∃ s, (trackedSystem {}).run {} downloadProxied = some s ∧
      (s.mgr.view? 1).map LockView.state = some .proxied ∧ s.ProxiedWorkReleased := by
  let created : Tracked := ⟨step {} {} (.createRunningLock 1 downloadLock, {}), fun _ => false⟩
  let locked : Tracked := ⟨step {} created.mgr (.lock 1, {}), fun _ => false⟩
  let started : Tracked := ⟨step {} locked.mgr (.updateWorkSource 1 oneWorkSource, {}), fun _ => false⟩
  have hcreated : (trackedSystem {}).Reach (Careful {}) created :=
    .step (Op.createRunningLock 1 downloadLock, ({} : Env)) (.init rfl) trivial rfl
  have hlocked : (trackedSystem {}).Reach (Careful {}) locked := by
    refine hcreated.step (Op.lock 1, ({} : Env)) (fun lockInner entry hvalid _ hentry hall => ?_) rfl
    have hfound := (validateLockForEnable_eq_some.mp hvalid).1
    have hlock : created.mgr.runningLocks[(1 : Token)]? = some { param := downloadLock } := by decide
    rw [hlock] at hfound
    cases hfound
    have hempty : (created.mgr.entryAt? "10_20" 1).map (fun entry => entry.wks.size) = some 0 := by decide
    rw [show created.mgr.entryAt? "10_20" 1 = some entry from hentry] at hempty
    exact hall.1 (Option.some.inj hempty)
  have hstarted : (trackedSystem {}).Reach (Careful {}) started := by
    refine hlocked.step (Op.updateWorkSource 1 oneWorkSource, ({} : Env)) (fun hempty => ?_) rfl
    cases (show oneWorkSource.isEmpty = false by decide).symm.trans hempty
  have hproxied := hstarted.step (Op.proxyRunningLock true 99 7, ({} : Env)) (fun _ => by
    intro ⟨key, token⟩ view hview hne hreached
    have hentered : (started.mgr.entryAt? key token).isSome = true := by
      obtain ⟨-, hentered⟩ | ⟨-, entry, -, hentry, -⟩ := hreached
      · exact hentered
      · rw [hentry]
        rfl
    have honly : started.mgr.positions = [("10_20", 1)] := by decide
    rw [← RunningLockMgr.mem_positions, honly] at hentered
    cases List.mem_singleton.mp hentered
    have howner : (started.mgr.view? 1).map LockView.ownerKey = some "10_20" := by decide
    rw [show started.mgr.view? 1 = some view from hview] at howner
    exact absurd (Option.some.inj howner).symm hne) rfl
  refine ⟨_, ?_, ?_, proxied_work_not_held hproxied⟩
  · rfl
  · decide

/-- Dropping the work sources of a proxied lock leaves it proxied for good. -/
theorem proxied_forever_after_empty_updateWorkSource :
    ¬∀ s, (trackedSystem {}).Reachable s → s.ProxiedWorkReleased := by
  intro hreleased
  have hrun : ∃ s, (trackedSystem {}).run {} (downloadProxied ++ [(Op.updateWorkSource 1 ∅, ({} : Env))]) = some s ∧
      s.mgr.view? 1 = some ⟨.proxied, .backgroundTask, "10_20", "download"⟩ ∧ s.proxied "10_20" = false ∧
      (s.mgr.entryAt? "10_20" 1).map (fun entry => entry.wks.isEmpty) = some true :=
    ⟨_, rfl, by decide, by decide, by decide⟩
  obtain ⟨s, hrun, hview, hnot, hempty⟩ := hrun
  obtain ⟨-, hkept⟩ := hreleased s (Lib.System.reachable_of_run _ (.init rfl) hrun) 1 _ hview
  obtain howner | ⟨entry, uid, bundleName, hentry, hwks⟩ := hkept rfl
  · rw [hnot] at howner
    cases howner
  · rw [show s.mgr.entryAt? "10_20" 1 = some entry from hentry] at hempty
    rw [TreeMap.getElem?_of_isEmpty (Option.some.inj hempty)] at hwks
    cases hwks

end PowerMgr.RunningLock
