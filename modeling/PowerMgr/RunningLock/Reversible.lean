import PowerMgr.RunningLock.Counters
import PowerMgr.RunningLock.States
import Mathlib.Data.UInt
import Mathlib.Data.List.Perm.Subperm

/-! # Proxying a process twice, and back

`ProxyRunningLock(true, pid, uid)` is meant to be idempotent, and un-proxying is meant to undo
it.  Both hold for a process whose locks are all disabled, and for no other: a second request
meets locks that are proxied already and counts them down once more.

* `increaseProxyCnt_counter` — one request lowers the counter of a type by the number of locks
  of the process that are not disabled;
* `proxy_reversible_iff` — when repeating and undoing work.
-/

namespace PowerMgr.RunningLock

open Std (TreeMap)

/-! ## A user that is nobody's work source

Where no lock has `uid` as a work source, the second loops find nothing to do. -/

def RunningLockMgr.NoSource (uid : Int) (m : RunningLockMgr) : Prop :=
  m.AllEntries fun entry => entry.wks[uid]? = none

section NoSource

variable {cfg : Config} {env : Env} {m : RunningLockMgr} {uid : Int}

theorem noSource_clear {entry : WksEntry} (h : entry.wks[uid]? = none) : entry.clear.wks[uid]? = none := by
  rw [WksEntry.clear, TreeMap.getElem?_map, h]
  rfl

theorem noSource_increaseOwned (key : String) (token : Token) (h : m.NoSource uid) :
    (increaseOwned cfg env key m token).NoSource uid := by
  refine allEntries_proxyInner (P := fun entry => entry.wks[uid]? = none) (fun _ => noSource_clear) cfg env
    token _ _ (allEntries_modifyEntry ?_ h)
  intro entry hentry
  rw [WksEntry.flagAll, TreeMap.getElem?_map, h key token entry hentry]
  rfl

theorem noSource_decreaseOwned (key : String) (token : Token) (h : m.NoSource uid) :
    (decreaseOwned cfg env key m token).NoSource uid :=
  allEntries_of_modifyEntry_eq (decreaseOwned_proxyMap ..)
    (fun entry hentry => noSource_clear (h key token entry hentry)) h

theorem increaseWorkSource_of_noSource (position : String × Token) (h : m.NoSource uid) :
    increaseWorkSource cfg env uid m position = m := by
  rcases increaseWorkSource_cases cfg env uid position.1 position.2 m with
    heq | ⟨entry, bundleName, -, hentry, hwks, -⟩
  · exact heq
  · rw [h _ _ entry hentry] at hwks
    cases hwks

theorem decreaseWorkSource_of_noSource {lower : Int → Int} (position : String × Token) (h : m.NoSource uid) :
    decreaseWorkSourceWith lower cfg env uid m position = m := by
  rcases decreaseWorkSourceWith_cases cfg env uid position.1 position.2 m lower with
    heq | ⟨entry, bundleName, -, hentry, hwks, -⟩
  · exact heq
  · rw [h _ _ entry hentry] at hwks
    cases hwks

theorem foldl_eq_self {body : RunningLockMgr → String × Token → RunningLockMgr}
    (hbody : ∀ position, body m position = m) (positions : List (String × Token)) :
    positions.foldl body m = m := by
  induction positions with
  | nil => rfl
  | cons position rest ih => rw [List.foldl_cons, hbody, ih]

theorem noSource_increaseProxyCnt (cfg : Config) (env : Env) (pid : Int) (h : m.NoSource uid) :
    increaseProxyCnt cfg env pid uid m =
        (m.tokensOf (assembleProxyKey pid uid)).foldl (increaseOwned cfg env (assembleProxyKey pid uid)) m ∧
      (increaseProxyCnt cfg env pid uid m).NoSource uid := by
  have howned := Lib.foldl_keeps (I := RunningLockMgr.NoSource uid) (f := increaseOwned cfg env (assembleProxyKey pid uid))
    (fun _ token hm => noSource_increaseOwned _ token hm)
    (m.tokensOf (assembleProxyKey pid uid)) m h
  have heq : increaseProxyCnt cfg env pid uid m =
      (m.tokensOf (assembleProxyKey pid uid)).foldl (increaseOwned cfg env (assembleProxyKey pid uid)) m :=
    foldl_eq_self (fun position => increaseWorkSource_of_noSource position howned) _
  exact ⟨heq, by rw [heq]; exact howned⟩

theorem noSource_decreaseProxyCnt {pid : Int} (h : m.NoSource uid) :
    decreaseProxyCnt cfg env pid uid m =
      (m.tokensOf (assembleProxyKey pid uid)).foldl (decreaseOwned cfg env (assembleProxyKey pid uid)) m := by
  have howned := Lib.foldl_keeps (I := RunningLockMgr.NoSource uid) (f := decreaseOwned cfg env (assembleProxyKey pid uid))
    (fun _ token hm => noSource_decreaseOwned _ token hm)
    (m.tokensOf (assembleProxyKey pid uid)) m h
  exact foldl_eq_self (fun position => decreaseWorkSource_of_noSource position howned) _

end NoSource

/-! ## Entries and counters of one request -/

section Request

variable {cfg : Config} {env : Env} {m : RunningLockMgr}

theorem increaseOwned_entry_isSome (key : String) (token : Token) (key' : String) (token' : Token) :
    ((increaseOwned cfg env key m token).entryAt? key' token').isSome = (m.entryAt? key' token').isSome := by
  have hmodify : ∀ m : RunningLockMgr, ∀ key token f,
      ((m.modifyEntry key token f).entryAt? key' token').isSome = (m.entryAt? key' token').isSome := by
    intro m key token f
    rw [RunningLockMgr.entryAt?_modifyEntry]
    split
    next hsame =>
      obtain ⟨rfl, rfl⟩ := hsame
      rw [Option.isSome_map]
    next => rfl
  unfold increaseOwned
  rcases proxyInner_proxy_proxyMap cfg env token "" (m.modifyEntry key token WksEntry.flagAll) with
    hsame | ⟨view, -, -, hcleared⟩
  · rw [RunningLockMgr.entryAt?_congr hsame, hmodify]
  · rw [RunningLockMgr.entryAt?_congr hcleared, hmodify, hmodify]

theorem increaseProxyCnt_entry_isSome {pid uid : Int} (h : m.NoSource uid) (key' : String) (token' : Token) :
    ((increaseProxyCnt cfg env pid uid m).entryAt? key' token').isSome = (m.entryAt? key' token').isSome := by
  rw [(noSource_increaseProxyCnt cfg env pid h).1]
  exact Lib.foldl_keeps (I := fun m' : RunningLockMgr => (m'.entryAt? key' token').isSome = (m.entryAt? key' token').isSome)
    (fun m' token hm' => (increaseOwned_entry_isSome _ token key' token').trans hm') _ m rfl

/-- The lock of the token is not disabled and of the given type. -/
def RunningLockMgr.holds (m : RunningLockMgr) (type : RunningLockType) (token : Token) : Bool :=
  (m.view? token).any fun view => view.state ≠ .disable && view.type = type

variable (hdi : env.HdiSucceeds)

include hdi

theorem proxyInner_proxy_tally {token : Token} (bundleNames : String) {view : LockView}
    (hfound : m.view? token = some view) (hstate : view.state ≠ .disable)
    (hcounter : hasCounter cfg view.type = true) :
    (proxyInner cfg env token bundleNames .proxy m).tally = m.tally.down view.type := by
  rw [proxyInner_proxy_eq cfg env token bundleNames m hfound hstate]
  obtain ⟨lockInner, hlock, rfl⟩ := Option.map_eq_some_iff.mp hfound
  have hnamed := getElem?_setBundleName_self token bundleNames m hlock
  rcases unLock_cases cfg env token "" (m.setBundleName token bundleNames) with
    ⟨hnone, -⟩ | ⟨registered, found, hlock', ⟨hrefuse, -⟩ | ⟨-, -, hfail, -⟩ | ⟨-, -, -, heq⟩⟩
  · rw [RunningLockMgr.findLock_of_registered hnamed] at hnone
    cases hnone
  · rw [RunningLockMgr.findLock_of_registered hnamed] at hlock'
    cases hlock'
    obtain hdisabled | huncounted := hrefuse
    · exact absurd hdisabled hstate
    · rw [show lockInner.view.type = lockInner.param.type from rfl] at hcounter
      rw [hcounter] at huncounted
      cases huncounted
  · rw [(decrease_tally hdi _ _ _).1] at hfail
    cases hfail
  · rw [RunningLockMgr.findLock_of_registered hnamed] at hlock'
    cases hlock'
    rw [heq]
    change Tally.mk _ _ = _
    simp only [RunningLockMgr.setState_lockCounters, RunningLockMgr.setState_activated,
      listScreenLock_lockCounters, listScreenLock_activated]
    refine ((decrease_tally hdi _ _ _).2).trans ?_
    simp [RunningLockMgr.tally, RunningLockInner.view]

omit hdi in
theorem down_counter {tally : Tally} {lowered type : RunningLockType}
    (h : type ≠ .backgroundTask ∨ lowered = .backgroundTask) :
    (tally.down lowered).counters type =
      if lowered = type then tally.counters type - 1 else tally.counters type := by
  have hown : Function.update tally.counters lowered (tally.counters lowered - 1) type =
      if lowered = type then tally.counters type - 1 else tally.counters type := by
    by_cases hsame : lowered = type
    · subst hsame
      simp
    · rw [Function.update_of_ne (Ne.symm hsame), if_neg hsame]
  rw [← hown]
  obtain hne | rfl := h
  · exact Tally.down_counter_own hne
  · rw [Tally.down_counters]
    rfl

/-- One visit lowers the counter of a type by one if the lock holds it. -/
theorem increaseOwned_counter (key : String) (token : Token) (type : RunningLockType) (hsound : m.LocksSound cfg)
    (htype : type ≠ .backgroundTask ∨ ∀ view, m.view? token = some view → view.state ≠ .disable →
      view.type = .backgroundTask) :
    (increaseOwned cfg env key m token).lockCounters type =
      m.lockCounters type - UInt32.ofNat (m.holds type token).toNat := by
  unfold increaseOwned RunningLockMgr.holds
  cases hfound : m.view? token with
  | none =>
    rw [proxyInner_of_unregistered _ _ _ _ (m.modifyEntry key token WksEntry.flagAll) hfound]
    simp
  | some view =>
    by_cases hstate : view.state = .disable
    · rw [proxyInner_proxy_of_disable _ _ _ _ (m.modifyEntry key token WksEntry.flagAll) hfound hstate]
      simp [hstate]
    · have hcounter := ((hsound token view hfound).resolve_left hstate).2
      have htally := proxyInner_proxy_tally (m := m.modifyEntry key token WksEntry.flagAll)
        hdi "" hfound hstate hcounter
      have hdown : (m.tally.down view.type).counters type =
          if view.type = type then m.lockCounters type - 1 else m.lockCounters type :=
        down_counter (htype.imp id fun hall => hall view hfound hstate)
      change (proxyInner cfg env token "" .proxy (m.modifyEntry key token WksEntry.flagAll)).tally.counters type = _
      rw [htally, show (m.modifyEntry key token WksEntry.flagAll).tally = m.tally from rfl, hdown]
      by_cases hsame : view.type = type
      · simp [hstate, hsame]
      · simp [hsame]

/-- A loop over the tokens of the process lowers the counter of a type once for every lock that
holds it. -/
theorem increaseOwnedLoop_counter (key : String) {type : RunningLockType} (tokens : List Token)
    (hnodup : tokens.Nodup) (hsound : m.LocksSound cfg)
    (htype : type ≠ .backgroundTask ∨ ∀ token ∈ tokens, ∀ view, m.view? token = some view →
      view.state ≠ .disable → view.type = .backgroundTask) :
    (tokens.foldl (increaseOwned cfg env key) m).lockCounters type =
      m.lockCounters type - UInt32.ofNat (tokens.countP (m.holds type)) := by
  induction tokens generalizing m with
  | nil => simp
  | cons token rest ih =>
    obtain ⟨hfresh, hrest⟩ := List.nodup_cons.mp hnodup
    -- The locks still to be visited are as they were.
    have hview : ∀ other ∈ rest, (increaseOwned cfg env key m token).view? other = m.view? other := by
      intro other hmem
      have hne : other ≠ token := fun heq => hfresh (heq ▸ hmem)
      rw [increaseOwned_view?, Function.update_of_ne hne]
    have hholds : rest.countP ((increaseOwned cfg env key m token).holds type) = rest.countP (m.holds type) :=
      List.countP_congr fun other hmem => by rw [RunningLockMgr.holds, RunningLockMgr.holds, hview other hmem]
    have hone := increaseOwned_counter hdi key token type hsound
      (htype.imp id fun hall => hall token List.mem_cons_self)
    have hmany := ih (m := increaseOwned cfg env key m token) hrest (locksSound_increaseOwned key token hsound)
      (htype.imp id fun hall other hmem view hfound => by
        rw [hview other hmem] at hfound
        exact hall other (List.mem_cons_of_mem _ hmem) view hfound)
    rw [List.foldl_cons, hmany, hone, hholds, List.countP_cons]
    have hsum : UInt32.ofNat (rest.countP (m.holds type) + if m.holds type token = true then 1 else 0) =
        UInt32.ofNat (m.holds type token).toNat + UInt32.ofNat (rest.countP (m.holds type)) := by
      rw [← UInt32.ofNat_add, Nat.add_comm]
      cases m.holds type token <;> rfl
    rw [hsum, sub_sub]

omit hdi in
theorem countP_holds_le_size (type : RunningLockType) (tokens : List Token) (hnodup : tokens.Nodup) :
    tokens.countP (m.holds type) ≤ m.runningLocks.size := by
  rw [List.countP_eq_length_filter, ← TreeMap.length_keys]
  refine (List.Nodup.subperm (hnodup.filter _) fun token hmem => ?_).length_le
  obtain ⟨-, hholds⟩ := List.mem_filter.mp hmem
  rw [TreeMap.mem_keys, TreeMap.mem_iff_isSome_getElem?]
  unfold RunningLockMgr.holds RunningLockMgr.view? at hholds
  cases hfound : m.runningLocks[token]? with
  | none => simp [hfound] at hholds
  | some lockInner => rfl

end Request

/-! ## Repeating and undoing -/

def SameLocks (m m' : RunningLockMgr) : Prop :=
  (∀ token : Token, m.runningLocks[token]?.map RunningLockInner.state =
    m'.runningLocks[token]?.map RunningLockInner.state) ∧ m.lockCounters = m'.lockCounters

def proxyTimes (cfg : Config) (env : Env) (pid uid : Int) (n : Nat) : RunningLockMgr → RunningLockMgr :=
  (proxyRunningLock cfg env true pid uid)^[n]

/-- Repeating the request changes nothing, and one request to un-proxy undoes all of them. -/
def ProxyReversible (cfg : Config) (env : Env) (pid uid : Int) (m : RunningLockMgr) : Prop :=
  ∀ n, 1 ≤ n →
    SameLocks (proxyTimes cfg env pid uid n m) (proxyTimes cfg env pid uid 1 m) ∧
    SameLocks (proxyRunningLock cfg env false pid uid (proxyTimes cfg env pid uid n m)) m

def RunningLockMgr.Idle (m : RunningLockMgr) (pid uid : Int) : Prop :=
  ∀ token view, (m.entryAt? (assembleProxyKey pid uid) token).isSome = true → m.view? token = some view →
    view.state = .disable

theorem sameLocks_of_view?_eq {m m' : RunningLockMgr} (hview : m.view? = m'.view?)
    (hcounters : m.lockCounters = m'.lockCounters) : SameLocks m m' := by
  refine ⟨fun token => ?_, hcounters⟩
  have hstate : ∀ m : RunningLockMgr, m.runningLocks[token]?.map RunningLockInner.state =
      (m.view? token).map LockView.state := by
    intro m
    rw [RunningLockMgr.view?, Option.map_map]
    rfl
  rw [hstate, hstate, hview]

section Reversible

variable {cfg : Config} {env : Env} {m : RunningLockMgr} {pid uid : Int}

/-- What proxying an idle process leaves as it was in `start`. -/
structure Unmoved (cfg : Config) (uid : Int) (start m : RunningLockMgr) : Prop where
  view : m.view? = start.view?
  counters : m.lockCounters = start.lockCounters
  entries : ∀ key token, (m.entryAt? key token).isSome = (start.entryAt? key token).isSome
  noSource : m.NoSource uid
  sound : m.LocksSound cfg

theorem unmoved_increaseProxyCnt (hdi : env.HdiSucceeds) {start : RunningLockMgr} (hidle : start.Idle pid uid)
    (h : Unmoved cfg uid start m) : Unmoved cfg uid start (increaseProxyCnt cfg env pid uid m) := by
  obtain ⟨hloop, hnoSource⟩ := noSource_increaseProxyCnt cfg env pid h.noSource
  have hdisabled : ∀ token view, (m.entryAt? (assembleProxyKey pid uid) token).isSome = true →
      m.view? token = some view → view.state = .disable := by
    intro token view hentry hfound
    rw [h.entries] at hentry
    rw [h.view] at hfound
    exact hidle token view hentry hfound
  have hnone : ∀ type, (m.tokensOf (assembleProxyKey pid uid)).countP (m.holds type) = 0 := by
    intro type
    rw [List.countP_eq_zero]
    intro token hmem
    unfold RunningLockMgr.holds
    cases hfound : m.view? token with
    | none => simp
    | some view => simp [hdisabled token view ((m.mem_tokensOf _ token).mp hmem) hfound]
  refine ⟨?_, ?_, fun key token => ?_, hnoSource, locksSound_increaseProxyCnt env pid uid h.sound⟩
  · rw [hloop, ← h.view]
    funext token
    rw [increaseOwnedLoop_view?]
    split
    next hentry =>
      cases hfound : m.view? token with
      | none => rfl
      | some view => rw [Option.map_some, LockView.proxify, if_pos (hdisabled token view hentry hfound)]
    next => rfl
  · rw [hloop, ← h.counters]
    funext type
    rw [increaseOwnedLoop_counter hdi _ _ (m.nodup_tokensOf _) h.sound, hnone]
    · simp
    · refine .inr fun token hmem view hfound hstate => ?_
      exact absurd (hdisabled token view ((m.mem_tokensOf _ token).mp hmem) hfound) hstate
  · rw [increaseProxyCnt_entry_isSome h.noSource]
    exact h.entries key token

theorem unmoved_proxyTimes (hdi : env.HdiSucceeds) (hpid : ¬pid < 1) (hidle : m.Idle pid uid)
    (hnoSource : m.NoSource uid) (hsound : m.LocksSound cfg) (n : Nat) :
    Unmoved cfg uid m (proxyTimes cfg env pid uid n m) := by
  induction n with
  | zero => exact ⟨rfl, rfl, fun _ _ => rfl, hnoSource, hsound⟩
  | succ n ih =>
    have hstep := unmoved_increaseProxyCnt hdi hidle ih
    unfold proxyTimes at hstep ⊢
    rw [Function.iterate_succ_apply', proxyRunningLock, if_neg hpid, if_pos rfl]
    exact hstep

/-- Un-proxying an idle process changes no lock and no counter. -/
theorem decreaseProxyCnt_of_unmoved (env : Env) {start : RunningLockMgr} (hidle : start.Idle pid uid)
    (h : Unmoved cfg uid start m) :
    (decreaseProxyCnt cfg env pid uid m).view? = start.view? ∧
      (decreaseProxyCnt cfg env pid uid m).lockCounters = start.lockCounters := by
  rw [noSource_decreaseProxyCnt h.noSource]
  have hkeeps := Lib.foldl_rest
    (f := decreaseOwned cfg env (assembleProxyKey pid uid))
    (fun m' rest => (m'.view? = start.view? ∧ m'.lockCounters = start.lockCounters) ∧
      ∀ token ∈ rest, (start.entryAt? (assembleProxyKey pid uid) token).isSome = true)
    (fun m' token rest hm' => ?_) (m.tokensOf (assembleProxyKey pid uid)) m
    ⟨⟨h.view, h.counters⟩, fun token hmem => by rw [← h.entries]; exact (m.mem_tokensOf _ token).mp hmem⟩
  · exact hkeeps.1
  · refine ⟨?_, fun other hmem => hm'.2 other (List.mem_cons_of_mem _ hmem)⟩
    have hnot : ∀ view, (m'.modifyEntry (assembleProxyKey pid uid) token WksEntry.clear).view? token = some view →
        view.state ≠ .proxied := by
      intro view hfound
      rw [RunningLockMgr.view?_modifyEntry, hm'.1.1] at hfound
      rw [hidle token view (hm'.2 token List.mem_cons_self) hfound]
      exact RunningLockState.noConfusion
    unfold decreaseOwned
    obtain heq | heq := proxyInner_unproxy_of_not_proxied cfg env token _ _ hnot
    · rw [heq]
      exact hm'.1
    · rw [heq, RunningLockMgr.view?_setBundleName]
      exact hm'.1

/-- A process with a lock that is not disabled is counted down again by every further request. -/
theorem not_idempotent_of_held (hdi : env.HdiSucceeds) (hpid : ¬pid < 1) (hnoSource : m.NoSource uid)
    (hsound : m.LocksSound cfg) (hsize : m.runningLocks.size < 2 ^ 32) (hheld : ¬m.Idle pid uid) :
    (proxyTimes cfg env pid uid 2 m).lockCounters ≠ (proxyTimes cfg env pid uid 1 m).lockCounters := by
  intro hsame
  let key := assembleProxyKey pid uid
  let once := increaseProxyCnt cfg env pid uid m
  have honce : proxyTimes cfg env pid uid 1 m = once := by
    simp [proxyTimes, proxyRunningLock, hpid, once]
  have htwice : proxyTimes cfg env pid uid 2 m = increaseProxyCnt cfg env pid uid once := by
    simp [proxyTimes, proxyRunningLock, hpid, once]
  have honceSound : once.LocksSound cfg := locksSound_increaseProxyCnt env pid uid hsound
  have honceNoSource : once.NoSource uid := (noSource_increaseProxyCnt cfg env pid hnoSource).2
  have hentries : ∀ token, (once.entryAt? key token).isSome = (m.entryAt? key token).isSome :=
    fun token => increaseProxyCnt_entry_isSome hnoSource key token
  have hview : ∀ token, once.view? token =
      if (m.entryAt? key token).isSome = true then (m.view? token).map LockView.proxify else m.view? token := by
    intro token
    rw [show once = (m.tokensOf key).foldl (increaseOwned cfg env key) m from
      (noSource_increaseProxyCnt cfg env pid hnoSource).1]
    exact increaseOwnedLoop_view? cfg env key m token
  have honceSize : once.runningLocks.size = m.runningLocks.size := by
    refine size_congr fun token => ?_
    rw [hview]
    split
    · rw [Option.isSome_map]
    · rfl
  -- A type whose counter moves with the locks of the process alone.
  have hchoice : ∃ type, (∃ token ∈ once.tokensOf key, once.holds type token = true) ∧
      (type ≠ .backgroundTask ∨ ∀ token ∈ once.tokensOf key, ∀ view, once.view? token = some view →
        view.state ≠ .disable → view.type = .backgroundTask) := by
    by_cases hother : ∃ token ∈ once.tokensOf key, ∃ view, once.view? token = some view ∧
        view.state ≠ .disable ∧ view.type ≠ .backgroundTask
    · obtain ⟨token, hmem, view, hfound, hstate, hne⟩ := hother
      exact ⟨view.type, ⟨token, hmem, by simp [RunningLockMgr.holds, hfound, hstate]⟩, .inl hne⟩
    · have hall : ∀ token ∈ once.tokensOf key, ∀ view, once.view? token = some view →
          view.state ≠ .disable → view.type = .backgroundTask := by
        intro token hmem view hfound hstate
        by_contra hne
        exact hother ⟨token, hmem, view, hfound, hstate, hne⟩
      unfold RunningLockMgr.Idle at hheld
      push Not at hheld
      obtain ⟨token, view, hentry, hfound, hstate⟩ := hheld
      have honceView : once.view? token = some { view with state := .proxied } := by
        rw [hview, if_pos hentry, hfound, Option.map_some, LockView.proxify, if_neg hstate]
      have hmem : token ∈ once.tokensOf key := by
        rw [once.mem_tokensOf, hentries]
        exact hentry
      have htype := hall token hmem _ honceView RunningLockState.noConfusion
      exact ⟨.backgroundTask, ⟨token, hmem, by simpa [RunningLockMgr.holds, honceView] using htype⟩, .inr hall⟩
  obtain ⟨type, ⟨token, hmem, hholds⟩, htype⟩ := hchoice
  have hcount : 0 < (once.tokensOf key).countP (once.holds type) := List.countP_pos_iff.mpr ⟨token, hmem, hholds⟩
  have hbound := countP_holds_le_size (m := once) type _ (once.nodup_tokensOf key)
  have hlowered := increaseOwnedLoop_counter hdi key _ (once.nodup_tokensOf key) honceSound htype
  rw [htwice, (noSource_increaseProxyCnt cfg env pid honceNoSource).1, honce] at hsame
  have hzero : UInt32.ofNat ((once.tokensOf key).countP (once.holds type)) = 0 := by
    have heq := congrFun hsame type
    rw [hlowered, sub_eq_self] at heq
    exact heq
  have hmod := congrArg UInt32.toNat hzero
  rw [UInt32.toNat_ofNat', Nat.mod_eq_of_lt (by omega)] at hmod
  change _ = 0 at hmod
  omega

theorem reversible_of_refused (hpid : pid < 1) : ProxyReversible cfg env pid uid m := by
  have hrefused : ∀ isProxied, proxyRunningLock cfg env isProxied pid uid = id := by
    intro isProxied
    funext m
    simp [proxyRunningLock, hpid]
  intro n _
  unfold proxyTimes
  rw [hrefused, hrefused, Function.iterate_id, Function.iterate_id]
  exact ⟨sameLocks_of_view?_eq rfl rfl, sameLocks_of_view?_eq rfl rfl⟩

/-- In every reachable state in which `uid` is nobody's work source and with a working HDI: repeating
the request to proxy a process changes nothing and one request to un-proxy undoes it, exactly if the
request is refused or every lock of the process is disabled.  Neither that the process is not proxied
yet nor that `IsValidType` admits every type is needed. -/
theorem proxy_reversible_iff (hreach : (system cfg).Reachable m) (hdi : env.HdiSucceeds)
    (hsize : m.runningLocks.size < 2 ^ 32)
    (hnoSource : ∀ key token entry, m.entryAt? key token = some entry → entry.wks[uid]? = none) :
    ProxyReversible cfg env pid uid m ↔ pid < 1 ∨ m.Idle pid uid := by
  have hsound := locksSound_of_reachable hreach
  constructor
  · intro hreversible
    by_contra hcondition
    push Not at hcondition
    exact not_idempotent_of_held hdi (by omega) hnoSource hsound hsize hcondition.2
      (hreversible 2 (by omega)).1.2
  · intro hcondition
    by_cases hpid : pid < 1
    · exact reversible_of_refused hpid
    · have hidle := hcondition.resolve_left hpid
      intro n _
      have hmany := unmoved_proxyTimes hdi hpid hidle hnoSource hsound n
      have hone := unmoved_proxyTimes hdi hpid hidle hnoSource hsound 1
      have hback := decreaseProxyCnt_of_unmoved env hidle hmany
      refine ⟨sameLocks_of_view?_eq (hmany.view.trans hone.view.symm)
        (hmany.counters.trans hone.counters.symm), ?_⟩
      rw [proxyRunningLock, if_neg hpid, if_neg (by decide)]
      exact sameLocks_of_view?_eq hback.1 hback.2

end Reversible

theorem noSource_audioLocked (uid : Int) (key : String) (token : Token) (entry : WksEntry)
    (hentry : audioLocked.entryAt? key token = some entry) : entry.wks[uid]? = none := by
  have honly := position_of_audioLocked (key, token) (by rw [hentry]; rfl)
  cases honly
  have hempty : (audioLocked.entryAt? "10_20" 1).map (fun entry => entry.wks.isEmpty) = some true := by decide
  rw [hentry] at hempty
  exact TreeMap.getElem?_of_isEmpty (Option.some.inj hempty)

/-- The audio lock is enabled, so proxying its process is not reversible there; for a process without
locks it is. -/
theorem proxy_reversible_iff_audioLocked :
    ¬ProxyReversible {} {} 10 20 audioLocked ∧ ProxyReversible {} {} 30 40 audioLocked := by
  have hreach : (system {}).Reachable audioLocked :=
    Lib.System.reachable_of_run [(.createRunningLock 1 audioLock, {}), (.lock 1, {})] (.init rfl) rfl
  have hsize : audioLocked.runningLocks.size < 2 ^ 32 := by decide
  constructor
  · rw [proxy_reversible_iff hreach (fun _ _ _ => rfl) hsize (noSource_audioLocked 20)]
    rintro (hpid | hidle)
    · exact absurd hpid (by decide)
    · exact absurd (hidle 1 _ (by decide) rfl) (by decide)
  · rw [proxy_reversible_iff hreach (fun _ _ _ => rfl) hsize (noSource_audioLocked 40)]
    refine .inr fun token view hentry _ => ?_
    have honly := position_of_audioLocked (assembleProxyKey 30 40, token) hentry
    exact absurd (Prod.mk.inj honly).1 (by decide)

/-- Two requests to proxy the process of an enabled lock count it down twice: the claim is false in a
state in which no lock is proxied and no lock has a work source. -/
theorem proxy_twice_counts_down_twice :
    ∃ m, (system {}).Reachable m ∧ (∀ token view, m.view? token = some view → view.isProxied = false) ∧
      (∀ uid key token entry, m.entryAt? key token = some entry → entry.wks[(uid : Int)]? = none) ∧
      ¬SameLocks (proxyTimes {} {} 10 20 2 m) (proxyTimes {} {} 10 20 1 m) := by
  refine ⟨audioLocked, ?_, fun token view hfound => ?_, fun uid => noSource_audioLocked uid, fun hsame => ?_⟩
  · exact Lib.System.reachable_of_run [(.createRunningLock 1 audioLock, {}), (.lock 1, {})] (.init rfl) rfl
  · obtain ⟨lockInner, hlock, rfl⟩ := Option.map_eq_some_iff.mp hfound
    have honly : audioLocked.runningLocks.toList = [(1, { param := audioLock, state := .enable })] := by decide
    have hmem := TreeMap.mem_toList_iff_getElem?_eq_some.mpr hlock
    rw [honly, List.mem_singleton] at hmem
    cases hmem
    rfl
  · have hcounter := congrFun hsame.2 .backgroundAudio
    revert hcounter
    decide

end PowerMgr.RunningLock
