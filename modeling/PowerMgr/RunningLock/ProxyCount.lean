import PowerMgr.RunningLock.Basic

/-! # The proxy count of a lock

Every entry of `proxyMap_` stores how many of its work sources are proxied next to the flags
themselves, and the operations update the two separately.  The result of this module is
that they always agree (`CountsAgree`), through every operation and every re-entrant
`UpdateProxyState`:

* `AllEntries` — an assertion about every proxy entry, with one preservation lemma for each
  operation on the table;
* `scanWorkSources_getElem?` — what `UpdateWorkSource` stores;
* `proxyCount_eq_flagged` — the invariant over every run, and what follows from it.
-/

namespace PowerMgr.RunningLock

open Std (TreeMap)
open Lib.TreeMap (count count_agree count_congr count_eq_size_iff count_eq_zero_iff count_le_size count_pos
  getElem?_modify_eq getElem?_insert_eq getElem?_erase_eq getElem?_insertIfNew_eq)

/-! ## Flags of an entry -/

def flagged (wksMap : WksMap) : Nat :=
  count (fun wks => wks.2) wksMap

def WksEntry.CountAgrees (entry : WksEntry) : Prop :=
  entry.proxyCount = flagged entry.wks

theorem flagged_le_size (wksMap : WksMap) : flagged wksMap ≤ wksMap.size :=
  count_le_size _ wksMap

theorem flagged_eq_size_iff (wksMap : WksMap) :
    flagged wksMap = wksMap.size ↔ ∀ (uid : Int) (wks : String × Bool), wksMap[uid]? = some wks → wks.2 = true :=
  count_eq_size_iff _ wksMap

theorem clear_countAgrees (entry : WksEntry) : entry.clear.CountAgrees := by
  have hzero : flagged entry.clear.wks = 0 := by
    refine (count_eq_zero_iff _ _).mpr fun uid wks hwks => ?_
    rw [WksEntry.clear, TreeMap.getElem?_map] at hwks
    obtain ⟨old, -, rfl⟩ := Option.map_eq_some_iff.mp hwks
    rfl
  rw [WksEntry.CountAgrees, hzero]
  rfl

theorem flagAll_countAgrees (entry : WksEntry) : entry.flagAll.CountAgrees := by
  have hall : flagged entry.flagAll.wks = entry.flagAll.wks.size := by
    refine (flagged_eq_size_iff _).mpr fun uid wks hwks => ?_
    rw [WksEntry.flagAll, TreeMap.getElem?_map] at hwks
    obtain ⟨old, -, rfl⟩ := Option.map_eq_some_iff.mp hwks
    rfl
  rw [WksEntry.CountAgrees, hall]
  simp [WksEntry.flagAll, TreeMap.size_map]

theorem flagged_raise {wksMap : WksMap} {uid : Int} {bundleName : String}
    (h : wksMap[uid]? = some (bundleName, false)) :
    flagged (wksMap.insert uid (bundleName, true)) = flagged wksMap + 1 := by
  have hagree := count_agree (fun wks : String × Bool => wks.2) wksMap
    (wksMap.insert uid (bundleName, true)) uid fun uid' hne => by
      rw [getElem?_insert_eq, if_neg (Ne.symm hne)]
  simpa [h, flagged, getElem?_insert_eq] using hagree

theorem flagged_lower {wksMap : WksMap} {uid : Int} {bundleName : String}
    (h : wksMap[uid]? = some (bundleName, true)) :
    flagged (wksMap.insert uid (bundleName, false)) + 1 = flagged wksMap := by
  have hagree := count_agree (fun wks : String × Bool => wks.2) wksMap
    (wksMap.insert uid (bundleName, false)) uid fun uid' hne => by
      rw [getElem?_insert_eq, if_neg (Ne.symm hne)]
  simpa [h, flagged, getElem?_insert_eq] using hagree

theorem size_insert_of_getElem? {wksMap : WksMap} {uid : Int} {wks wks' : String × Bool}
    (h : wksMap[uid]? = some wks) : (wksMap.insert uid wks').size = wksMap.size := by
  have hmem : uid ∈ wksMap := by
    rw [TreeMap.mem_iff_isSome_getElem?, h]
    rfl
  simp [TreeMap.size_insert, hmem]

/-! ## Scanning the new work sources -/

/-- What `UpdateWorkSource` stores for a work source: the old bundle name and flag if there are any. -/
def retained (workSourceMap : WksMap) (wks : Int × String) : String × Bool :=
  workSourceMap[wks.1]?.getD (wks.2, false)

theorem visit_workSourcesState (workSourceMap : WksMap) (scan : WorkSourceScan) (wks : Int × String) :
    (scan.visit workSourceMap wks).workSourcesState =
      scan.workSourcesState.insertIfNew wks.1 (retained workSourceMap wks) := by
  unfold WorkSourceScan.visit retained
  split
  next known hknown => simp [hknown]
  next hnone => simp [hnone]

theorem visit_proxyCount (workSourceMap : WksMap) (scan : WorkSourceScan) (wks : Int × String) :
    (scan.visit workSourceMap wks).proxyCount = scan.proxyCount + ((retained workSourceMap wks).2.toNat : Nat) := by
  unfold WorkSourceScan.visit retained
  split
  next known hknown => cases hflag : known.2 <;> simp [hknown, hflag]
  next hnone => simp [hnone]

/-- The state of the loop of `UpdateWorkSource` when `rest` is still to be visited: nothing of
`rest` is stored yet, everything else is, and the count follows the flags. -/
structure ScanInvariant (workSourceMap : WksMap) (workSources : TreeMap Int String) (scan : WorkSourceScan)
    (rest : List (Int × String)) : Prop where
  nodup : (rest.map Prod.fst).Nodup
  pending : ∀ wks ∈ rest, scan.workSourcesState[wks.1]? = none ∧ workSources[wks.1]? = some wks.2
  done : ∀ (uid : Int), uid ∉ rest.map Prod.fst →
    scan.workSourcesState[uid]? = workSources[uid]?.map fun name => retained workSourceMap (uid, name)
  count : scan.proxyCount = flagged scan.workSourcesState

theorem scanInvariant_visit {workSourceMap : WksMap} {workSources : TreeMap Int String} (scan : WorkSourceScan)
    (wks : Int × String) (rest : List (Int × String))
    (h : ScanInvariant workSourceMap workSources scan (wks :: rest)) :
    ScanInvariant workSourceMap workSources (scan.visit workSourceMap wks) rest := by
  obtain ⟨hfresh, hsource⟩ := h.pending wks List.mem_cons_self
  have hnodup := h.nodup
  rw [List.map_cons, List.nodup_cons] at hnodup
  have hstored : ∀ uid : Int, (scan.visit workSourceMap wks).workSourcesState[uid]? =
      if wks.1 = uid then some (retained workSourceMap wks) else scan.workSourcesState[uid]? := by
    intro uid
    rw [visit_workSourcesState, getElem?_insertIfNew_eq, hfresh, Option.getD_none]
  refine ⟨hnodup.2, ?_, ?_, ?_⟩
  · intro other hother
    have hne : wks.1 ≠ other.1 := fun heq => hnodup.1 (heq ▸ List.mem_map_of_mem hother)
    rw [hstored, if_neg hne]
    exact h.pending other (List.mem_cons_of_mem _ hother)
  · intro uid hnot
    rw [hstored]
    by_cases heq : wks.1 = uid
    · subst heq
      simp [hsource]
    · rw [if_neg heq]
      exact h.done uid (by simpa [Ne.symm heq] using hnot)
  · have hagree := count_agree (fun wks : String × Bool => wks.2) scan.workSourcesState
      ((scan.visit workSourceMap wks).workSourcesState) wks.1 fun uid hne => by
        rw [hstored, if_neg (Ne.symm hne)]
    rw [hstored, if_pos rfl, hfresh] at hagree
    rw [visit_proxyCount, h.count, flagged, flagged]
    simp only [Option.any_none, Bool.toNat_false, Nat.add_zero, Option.any_some] at hagree
    omega

theorem scanWorkSources_invariant (workSourceMap : WksMap) (workSources : TreeMap Int String) :
    ScanInvariant workSourceMap workSources (scanWorkSources workSourceMap workSources) [] := by
  refine Lib.foldl_rest (ScanInvariant workSourceMap workSources) scanInvariant_visit _ _ ⟨?_, ?_, ?_, ?_⟩
  · rw [TreeMap.map_fst_toList_eq_keys]
    exact TreeMap.nodup_keys
  · rintro ⟨uid, name⟩ hmem
    exact ⟨TreeMap.getElem?_emptyc, TreeMap.mem_toList_iff_getElem?_eq_some.mp hmem⟩
  · intro uid hnot
    rw [TreeMap.map_fst_toList_eq_keys, TreeMap.mem_keys, TreeMap.mem_iff_isSome_getElem?] at hnot
    have hnone : workSources[uid]? = none := by simpa using hnot
    rw [hnone]
    exact TreeMap.getElem?_emptyc
  · have hempty : flagged ∅ = 0 :=
      (count_eq_zero_iff _ _).mpr fun uid wks hwks => by simp at hwks
    exact congrArg Nat.cast hempty.symm

/-- The work sources stored by `UpdateWorkSource`: exactly the new ones, each with its old flag. -/
theorem scanWorkSources_getElem? (workSourceMap : WksMap) (workSources : TreeMap Int String) (uid : Int) :
    (scanWorkSources workSourceMap workSources).workSourcesState[uid]? =
      workSources[uid]?.map fun name => retained workSourceMap (uid, name) :=
  (scanWorkSources_invariant workSourceMap workSources).done uid (by simp)

theorem scanWorkSources_proxyCount (workSourceMap : WksMap) (workSources : TreeMap Int String) :
    (scanWorkSources workSourceMap workSources).proxyCount =
      flagged (scanWorkSources workSourceMap workSources).workSourcesState :=
  (scanWorkSources_invariant workSourceMap workSources).count

/-! ## Assertions about every entry -/

def RunningLockMgr.AllEntries (P : WksEntry → Prop) (m : RunningLockMgr) : Prop :=
  ∀ key token entry, m.entryAt? key token = some entry → P entry

section AllEntries

variable {P : WksEntry → Prop}

theorem allEntries_of_entryAt?_eq {m m' : RunningLockMgr} (hsame : m'.entryAt? = m.entryAt?)
    (h : m.AllEntries P) : m'.AllEntries P := by
  intro key token entry hentry
  rw [hsame] at hentry
  exact h key token entry hentry

theorem allEntries_of_proxyMap_eq {m m' : RunningLockMgr} (hmap : m'.proxyMap = m.proxyMap)
    (h : m.AllEntries P) : m'.AllEntries P :=
  allEntries_of_entryAt?_eq (RunningLockMgr.entryAt?_congr hmap) h

theorem allEntries_modifyEntry {m : RunningLockMgr} {key : String} {token : Token} {f : WksEntry → WksEntry}
    (hnew : ∀ entry, m.entryAt? key token = some entry → P (f entry)) (h : m.AllEntries P) :
    (m.modifyEntry key token f).AllEntries P := by
  intro key' token' entry hentry
  rw [RunningLockMgr.entryAt?_modifyEntry] at hentry
  split at hentry
  · obtain ⟨old, hold, rfl⟩ := Option.map_eq_some_iff.mp hentry
    exact hnew old hold
  · exact h key' token' entry hentry

theorem allEntries_of_modifyEntry_eq {m m' : RunningLockMgr} {key : String} {token : Token}
    {f : WksEntry → WksEntry} (hmap : m'.proxyMap = (m.modifyEntry key token f).proxyMap)
    (hnew : ∀ entry, m.entryAt? key token = some entry → P (f entry)) (h : m.AllEntries P) : m'.AllEntries P :=
  allEntries_of_proxyMap_eq hmap (allEntries_modifyEntry hnew h)

theorem allEntries_addRunningLock {m : RunningLockMgr} (hempty : P ⟨∅, 0⟩) (pid uid : Int) (token : Token)
    (h : m.AllEntries P) : (addRunningLock pid uid token m).AllEntries P := by
  intro key' token' entry hentry
  rw [entryAt?_addRunningLock] at hentry
  split at hentry
  · cases hold : m.entryAt? key' token' with
    | none =>
      rw [hold] at hentry
      cases hentry
      exact hempty
    | some old =>
      rw [hold] at hentry
      cases hentry
      exact h key' token' old hold
  · exact h key' token' entry hentry

theorem allEntries_removeRunningLock {m : RunningLockMgr} (pid uid : Int) (token : Token)
    (h : m.AllEntries P) : (removeRunningLock pid uid token m).AllEntries P := by
  intro key' token' entry hentry
  rw [entryAt?_removeRunningLock] at hentry
  split at hentry
  · cases hentry
  · exact h key' token' entry hentry

variable (hclear : ∀ entry, P entry → P entry.clear) (cfg : Config) (env : Env)

include hclear

theorem allEntries_unLock {m : RunningLockMgr} (token : Token) (name : String) (h : m.AllEntries P) :
    (unLock cfg env token name m).1.AllEntries P := by
  obtain hsame | ⟨_, lockInner, -, -, hcleared⟩ := unLock_proxyMap cfg env token name m
  · exact allEntries_of_proxyMap_eq hsame h
  · exact allEntries_of_modifyEntry_eq hcleared (fun entry hentry => hclear entry (h _ _ _ hentry)) h

theorem allEntries_proxyInner {m : RunningLockMgr} (token : Token) (bundleNames : String)
    (event : RunningLockEvent) (h : m.AllEntries P) :
    (proxyInner cfg env token bundleNames event m).AllEntries P := by
  cases event with
  | update => exact allEntries_of_proxyMap_eq (proxyInner_update_proxyMap ..) h
  | unproxy => exact allEntries_of_proxyMap_eq (proxyInner_unproxy_proxyMap ..) h
  | proxy =>
    obtain hsame | ⟨view, -, -, hcleared⟩ := proxyInner_proxy_proxyMap cfg env token bundleNames m
    · exact allEntries_of_proxyMap_eq hsame h
    · exact allEntries_of_modifyEntry_eq hcleared (fun entry hentry => hclear entry (h _ _ _ hentry)) h

end AllEntries

/-! ## The count follows the flags -/

/-- Every stored count is the number of flagged work sources of its entry. -/
abbrev RunningLockMgr.CountsAgree (m : RunningLockMgr) : Prop :=
  m.AllEntries WksEntry.CountAgrees

theorem raise_countAgrees {entry : WksEntry} {uid : Int} {bundleName : String} (h : entry.CountAgrees)
    (hwks : entry.wks[uid]? = some (bundleName, false)) : (entry.raise uid bundleName).CountAgrees := by
  unfold WksEntry.CountAgrees at h ⊢
  simp only [WksEntry.raise, flagged_raise hwks, h]
  omega

/-- Where a flag is up the count is positive, so lowering it never meets the clamp. -/
theorem lower_eq_of_flagged {entry : WksEntry} {uid : Int} {bundleName : String} (h : entry.CountAgrees)
    (hwks : entry.wks[uid]? = some (bundleName, true)) :
    max 0 (entry.proxyCount - 1) = entry.proxyCount - 1 := by
  have hpos : 0 < flagged entry.wks := count_pos hwks rfl
  unfold WksEntry.CountAgrees at h
  omega

theorem lower_countAgrees {entry : WksEntry} {uid : Int} {bundleName : String} (h : entry.CountAgrees)
    (hwks : entry.wks[uid]? = some (bundleName, true)) :
    (entry.lowerWith (fun count => max 0 (count - 1)) uid bundleName).CountAgrees := by
  have hlower := flagged_lower hwks
  have hclamp := lower_eq_of_flagged h hwks
  unfold WksEntry.CountAgrees at h ⊢
  simp only [WksEntry.lowerWith, hclamp]
  omega

/-! ## Flags that complete an entry -/

/-- All work sources of the entry are flagged, and there is one. -/
def WksEntry.AllFlagged (entry : WksEntry) : Prop :=
  entry.wks.size ≠ 0 ∧ ∀ (uid : Int) (wks : String × Bool), entry.wks[uid]? = some wks → wks.2 = true

/-- The new work sources are some of the flagged ones of an entry that has others besides. -/
def WksEntry.CompletedBy (entry : WksEntry) (workSources : TreeMap Int String) : Prop :=
  workSources.size ≠ 0 ∧ ¬entry.AllFlagged ∧
    ∀ (uid : Int) (name : String), workSources[uid]? = some name →
      ∃ bundleName, entry.wks[uid]? = some (bundleName, true)

/-- `uid` is the last work source at this position that is not flagged, so that proxying it
proxies the lock. -/
def RunningLockMgr.Completing (m : RunningLockMgr) (cfg : Config) (uid : Int) (position : String × Token) : Prop :=
  skipsIncrease cfg m position.2 = false ∧
    ∃ entry bundleName, m.entryAt? position.1 position.2 = some entry ∧
      entry.wks[uid]? = some (bundleName, false) ∧
      ∀ (uid' : Int) (wks : String × Bool), uid' ≠ uid → entry.wks[uid']? = some wks → wks.2 = true

theorem raise_full_iff {entry : WksEntry} {uid : Int} {bundleName : String} (h : entry.CountAgrees)
    (hwks : entry.wks[uid]? = some (bundleName, false)) :
    (entry.raise uid bundleName).proxyCount = (entry.raise uid bundleName).wks.size ↔
      ∀ (uid' : Int) (wks : String × Bool), uid' ≠ uid → entry.wks[uid']? = some wks → wks.2 = true := by
  have hcount : (entry.raise uid bundleName).proxyCount = flagged (entry.raise uid bundleName).wks :=
    raise_countAgrees h hwks
  rw [hcount, Nat.cast_inj, flagged_eq_size_iff]
  constructor
  · intro hall uid' wks hne hfound
    exact hall uid' wks (by rw [WksEntry.raise, Lib.TreeMap.getElem?_insert_eq, if_neg (Ne.symm hne)]; exact hfound)
  · intro hall uid' wks hfound
    rw [WksEntry.raise, Lib.TreeMap.getElem?_insert_eq] at hfound
    split at hfound
    · cases hfound
      rfl
    next hne => exact hall uid' wks (Ne.symm hne) hfound

theorem allFlagged_iff {entry : WksEntry} (h : entry.CountAgrees) :
    entry.AllFlagged ↔ entry.proxyCount ≠ 0 ∧ entry.proxyCount = entry.wks.size := by
  have hle := flagged_le_size entry.wks
  rw [WksEntry.AllFlagged, ← flagged_eq_size_iff, show entry.proxyCount = flagged entry.wks from h]
  omega

/-- `UpdateWorkSource` proxies the lock only if all new work sources were flagged before. -/
theorem completedBy_of_proxy_event {entry : WksEntry} {workSources : TreeMap Int String} (h : entry.CountAgrees)
    (hevent : workSourceEvent entry (scanWorkSources entry.wks workSources) = .proxy) :
    entry.CompletedBy workSources := by
  simp only [workSourceEvent] at hevent
  split at hevent
  · cases hevent
  · split at hevent
    next hproxy =>
      obtain ⟨hnot, hpos, hfull⟩ := hproxy
      rw [← allFlagged_iff h] at hnot
      rw [scanWorkSources_proxyCount, Nat.cast_inj, eq_comm, flagged_eq_size_iff] at hfull
      have hstored := scanWorkSources_getElem? entry.wks workSources
      refine ⟨fun hzero => ?_, hnot, fun uid name hname => ?_⟩
      · have hempty : workSources.isEmpty = true := by
          rw [TreeMap.isEmpty_eq_size_eq_zero, hzero]
          rfl
        have hnone : ∀ uid : Int, (scanWorkSources entry.wks workSources).workSourcesState[uid]? = none := by
          intro uid
          rw [hstored, TreeMap.getElem?_of_isEmpty hempty]
          rfl
        have hsize : (scanWorkSources entry.wks workSources).workSourcesState.size = 0 := by
          rw [← (count_eq_size_iff (fun _ => true) _).mpr fun _ _ _ => rfl]
          exact (count_eq_zero_iff _ _).mpr fun uid wks hwks => by rw [hnone] at hwks; cases hwks
        omega
      · have hflag := hfull uid (retained entry.wks (uid, name)) (by rw [hstored, hname]; rfl)
        unfold retained at hflag
        cases hold : entry.wks[uid]? with
        | none =>
          rw [hold] at hflag
          cases hflag
        | some wks =>
          rw [hold] at hflag
          exact ⟨wks.1, by rw [← hflag]; rfl⟩
    next => cases hevent

theorem getRunningLockName_eq (m : RunningLockMgr) (token : Token) :
    m.getRunningLockName token = ((m.view? token).map LockView.name).getD "" := by
  cases hfound : m.runningLocks[token]? <;>
    simp [RunningLockMgr.getRunningLockName, RunningLockMgr.view?, hfound, RunningLockInner.view]

theorem completing_congr {m m' : RunningLockMgr} {cfg : Config} {uid : Int} {position : String × Token}
    (hname : (m'.view? position.2).map LockView.name = (m.view? position.2).map LockView.name)
    (hentry : m'.entryAt? position.1 position.2 = m.entryAt? position.1 position.2) :
    m'.Completing cfg uid position ↔ m.Completing cfg uid position := by
  simp only [RunningLockMgr.Completing, skipsIncrease, getRunningLockName_eq, hname, hentry]

/-! ## The operations keep the count -/

section CountsAgree

variable (cfg : Config) (env : Env) {m : RunningLockMgr}

theorem countsAgree_unLock (token : Token) (name : String) (h : m.CountsAgree) :
    (unLock cfg env token name m).1.CountsAgree :=
  allEntries_unLock (fun entry _ => clear_countAgrees entry) cfg env token name h

theorem countsAgree_proxyInner (token : Token) (bundleNames : String) (event : RunningLockEvent)
    (h : m.CountsAgree) : (proxyInner cfg env token bundleNames event m).CountsAgree :=
  allEntries_proxyInner (fun entry _ => clear_countAgrees entry) cfg env token bundleNames event h

theorem countsAgree_increaseOwned (key : String) (token : Token) (h : m.CountsAgree) :
    (increaseOwned cfg env key m token).CountsAgree :=
  countsAgree_proxyInner cfg env token "" .proxy
    (allEntries_modifyEntry (fun entry _ => flagAll_countAgrees entry) h)

theorem countsAgree_increaseWorkSource (uid : Int) (position : String × Token) (h : m.CountsAgree) :
    (increaseWorkSource cfg env uid m position).CountsAgree := by
  obtain ⟨key, token⟩ := position
  rcases increaseWorkSource_cases cfg env uid key token m with
    heq | ⟨entry, bundleName, -, hentry, hwks, ⟨-, heq⟩ | ⟨-, heq⟩⟩
  · rwa [heq]
  all_goals
    rw [heq]
    refine countsAgree_proxyInner cfg env token _ _ (allEntries_modifyEntry (fun _ _ => ?_) h)
    exact raise_countAgrees (h key token entry hentry) hwks

theorem countsAgree_increaseProxyCnt (pid uid : Int) (h : m.CountsAgree) :
    (increaseProxyCnt cfg env pid uid m).CountsAgree := by
  refine Lib.foldl_keeps (I := RunningLockMgr.CountsAgree)
    (fun _ position => countsAgree_increaseWorkSource cfg env uid position) _ _ ?_
  exact Lib.foldl_keeps (I := RunningLockMgr.CountsAgree)
    (fun _ token => countsAgree_increaseOwned cfg env _ token) _ _ h

theorem countsAgree_decreaseOwned (key : String) (token : Token) (h : m.CountsAgree) :
    (decreaseOwned cfg env key m token).CountsAgree :=
  allEntries_of_modifyEntry_eq (decreaseOwned_proxyMap ..) (fun entry _ => clear_countAgrees entry) h

theorem countsAgree_decreaseWorkSource (uid : Int) (position : String × Token) (h : m.CountsAgree) :
    (decreaseWorkSourceWith (fun count => max 0 (count - 1)) cfg env uid m position).CountsAgree := by
  obtain ⟨key, token⟩ := position
  obtain heq | ⟨entry, bundleName, -, hentry, hwks, heq⟩ := decreaseWorkSourceWith_cases cfg env uid key token m _
  · rwa [heq]
  · rw [heq]
    refine countsAgree_proxyInner cfg env token _ _ (allEntries_modifyEntry (fun _ _ => ?_) h)
    exact lower_countAgrees (h key token entry hentry) hwks

theorem countsAgree_decreaseOwnedLoop (key : String) (h : m.CountsAgree) :
    ((m.tokensOf key).foldl (decreaseOwned cfg env key) m).CountsAgree :=
  Lib.foldl_keeps (I := RunningLockMgr.CountsAgree)
    (fun _ token => countsAgree_decreaseOwned cfg env key token) _ _ h

theorem countsAgree_decreaseProxyCnt (pid uid : Int) (h : m.CountsAgree) :
    (decreaseProxyCnt cfg env pid uid m).CountsAgree :=
  Lib.foldl_keeps (I := RunningLockMgr.CountsAgree)
    (fun _ position => countsAgree_decreaseWorkSource cfg env uid position) _ _
    (countsAgree_decreaseOwnedLoop cfg env _ h)

theorem decreaseWorkSource_clamp (uid : Int) (position : String × Token) (h : m.CountsAgree) :
    decreaseWorkSourceWith (fun count => max 0 (count - 1)) cfg env uid m position =
      decreaseWorkSourceWith (fun count => count - 1) cfg env uid m position := by
  obtain ⟨key, token⟩ := position
  simp only [decreaseWorkSourceWith]
  split
  · rfl
  · split
    · rfl
    next entry hentry =>
      split
      next bundleName hwks =>
        have hsame : entry.lowerWith (fun count => max 0 (count - 1)) uid bundleName =
            entry.lowerWith (fun count => count - 1) uid bundleName := by
          simp only [WksEntry.lowerWith, lower_eq_of_flagged (h key token entry hentry) hwks]
        rw [hsame]
      next => rfl

/-- The clamp of `DecreaseProxyCnt` never acts. -/
theorem decreaseProxyCnt_clamp (pid uid : Int) (h : m.CountsAgree) :
    decreaseProxyCnt cfg env pid uid m = decreaseProxyCntWith (fun count => count - 1) cfg env pid uid m := by
  unfold decreaseProxyCnt decreaseProxyCntWith
  exact Lib.foldl_congr_of_invariant (I := RunningLockMgr.CountsAgree)
    (fun _ position => countsAgree_decreaseWorkSource cfg env uid position)
    (fun _ position => decreaseWorkSource_clamp cfg env uid position) _ _
    (countsAgree_decreaseOwnedLoop cfg env _ h)

theorem countsAgree_resetRunningLocks (h : m.CountsAgree) : (resetRunningLocks cfg env m).CountsAgree := by
  refine Lib.foldl_keeps (I := RunningLockMgr.CountsAgree) (fun _ position hm => ?_) _ _ h
  exact allEntries_of_entryAt?_eq (entryAt?_resetRunningLock ..)
    (allEntries_modifyEntry (fun entry _ => clear_countAgrees entry) hm)

theorem countsAgree_updateWorkSourceProxy (pid uid : Int) (token : Token) (workSources : TreeMap Int String)
    (h : m.CountsAgree) : (updateWorkSourceProxy cfg env pid uid token workSources m).CountsAgree := by
  simp only [updateWorkSourceProxy]
  split
  · exact h
  next entry hentry =>
    refine allEntries_modifyEntry (fun _ _ => ?_) (countsAgree_proxyInner cfg env token _ _ h)
    exact scanWorkSources_proxyCount entry.wks workSources

theorem countsAgree_addRunningLock (pid uid : Int) (token : Token) (h : m.CountsAgree) :
    (addRunningLock pid uid token m).CountsAgree := by
  refine allEntries_addRunningLock ?_ pid uid token h
  have hempty : flagged ∅ = 0 := (count_eq_zero_iff _ _).mpr fun uid wks hwks => by simp at hwks
  exact congrArg Nat.cast hempty.symm

theorem countsAgree_updateWorkSource (token : Token) (workSources : TreeMap Int String) (h : m.CountsAgree) :
    (updateWorkSource cfg env token workSources m).CountsAgree := by
  unfold updateWorkSource
  split
  · exact h
  · exact countsAgree_updateWorkSourceProxy cfg env _ _ token workSources h

theorem countsAgree_releaseLock (token : Token) (name : String) (h : m.CountsAgree) :
    (releaseLock cfg env token name m).CountsAgree := by
  unfold releaseLock
  split
  · exact h
  · have hunlocked := countsAgree_unLock cfg env token "" h
    dsimp only
    split
    · exact allEntries_removeRunningLock _ _ token hunlocked
    · exact hunlocked

end CountsAgree

theorem countsAgree_step (cfg : Config) {m : RunningLockMgr} (call : Op × Env) (h : m.CountsAgree) :
    (step cfg m call).CountsAgree := by
  obtain ⟨op, env⟩ := call
  cases op with
  | createRunningLock token param =>
    simp only [step, createRunningLock]
    split
    · exact countsAgree_addRunningLock _ _ token h
    · exact h
  | lock token => exact allEntries_of_proxyMap_eq (lock_proxyMap ..) h
  | unLock token name => exact countsAgree_unLock cfg env token name h
  | releaseLock token name => exact countsAgree_releaseLock cfg env token name h
  | updateWorkSource token workSources => exact countsAgree_updateWorkSource cfg env token workSources h
  | proxyRunningLock isProxied pid uid =>
    simp only [step, proxyRunningLock]
    split
    · exact h
    · split
      · exact countsAgree_increaseProxyCnt cfg env pid uid h
      · exact countsAgree_decreaseProxyCnt cfg env pid uid h
  | resetRunningLocks => exact countsAgree_resetRunningLocks cfg env h
  | timerUnLock token =>
    exact countsAgree_unLock cfg env token "" (countsAgree_updateWorkSource cfg env token ∅ h)

/-! ## Runs of the proxy table

The table is a class of its own, so its runs may call its operations with any arguments, not
only with those the manager passes, and the manager's calls may come in between. -/

/-- The public operations of `RunningLockProxy`, and the calls of the manager. -/
inductive ProxyCall where
  | addRunningLock (pid uid : Int) (token : Token)
  | removeRunningLock (pid uid : Int) (token : Token)
  | updateWorkSource (pid uid : Int) (token : Token) (workSources : TreeMap Int String)
  | increaseProxyCnt (pid uid : Int)
  | decreaseProxyCnt (pid uid : Int)
  | resetRunningLocks
  | updateProxyState (pid uid : Int) (token : Token) (state : Bool)
  | mgr (op : Op)

def proxyStep (cfg : Config) (m : RunningLockMgr) (call : ProxyCall × Env) : RunningLockMgr :=
  match call.1 with
  | .addRunningLock pid uid token => addRunningLock pid uid token m
  | .removeRunningLock pid uid token => removeRunningLock pid uid token m
  | .updateWorkSource pid uid token workSources =>
    updateWorkSourceProxy cfg call.2 pid uid token workSources m
  | .increaseProxyCnt pid uid => increaseProxyCnt cfg call.2 pid uid m
  | .decreaseProxyCnt pid uid => decreaseProxyCnt cfg call.2 pid uid m
  | .resetRunningLocks => resetRunningLocks cfg call.2 m
  | .updateProxyState pid uid token state => updateProxyState pid uid token state m
  | .mgr op => step cfg m (op, call.2)

def proxySystem (cfg : Config) : Lib.System RunningLockMgr (ProxyCall × Env) where
  init m := m = {}
  next m call := some (proxyStep cfg m call)

theorem countsAgree_proxyStep (cfg : Config) {m : RunningLockMgr} (call : ProxyCall × Env)
    (h : m.CountsAgree) : (proxyStep cfg m call).CountsAgree := by
  obtain ⟨op, env⟩ := call
  cases op with
  | addRunningLock pid uid token => exact countsAgree_addRunningLock pid uid token h
  | removeRunningLock pid uid token => exact allEntries_removeRunningLock pid uid token h
  | updateWorkSource pid uid token workSources =>
    exact countsAgree_updateWorkSourceProxy cfg env pid uid token workSources h
  | increaseProxyCnt pid uid => exact countsAgree_increaseProxyCnt cfg env pid uid h
  | decreaseProxyCnt pid uid => exact countsAgree_decreaseProxyCnt cfg env pid uid h
  | resetRunningLocks => exact countsAgree_resetRunningLocks cfg env h
  | updateProxyState pid uid token state =>
    exact allEntries_modifyEntry (fun entry _ => clear_countAgrees entry) h
  | mgr op => exact countsAgree_step cfg (op, env) h

theorem countsAgree_init : ({} : RunningLockMgr).CountsAgree := by
  intro key token entry hentry
  simp [RunningLockMgr.entryAt?] at hentry

theorem countsAgree_of_reachable {cfg : Config} {m : RunningLockMgr} (hreach : (proxySystem cfg).Reachable m) :
    m.CountsAgree := by
  refine hreach.invariant (fun m hinit => ?_) fun m m' call hm _ hnext => ?_
  · cases hinit
    exact countsAgree_init
  · cases hnext
    exact countsAgree_proxyStep cfg call hm

/-- In every reachable state the stored count of every entry is the number of its proxied work
sources; hence it stays within bounds, it equals the number of work sources exactly when all are
proxied, and the clamp of `DecreaseProxyCnt` never acts. -/
theorem proxyCount_eq_flagged {cfg : Config} {m : RunningLockMgr} (hreach : (proxySystem cfg).Reachable m) :
    (∀ key token entry, m.entryAt? key token = some entry →
      entry.proxyCount = flagged entry.wks ∧ 0 ≤ entry.proxyCount ∧ entry.proxyCount ≤ entry.wks.size ∧
      (entry.proxyCount = entry.wks.size ↔
        ∀ (uid : Int) (wks : String × Bool), entry.wks[uid]? = some wks → wks.2 = true)) ∧
    ∀ env pid uid, decreaseProxyCnt cfg env pid uid m =
      decreaseProxyCntWith (fun count => count - 1) cfg env pid uid m := by
  have hagree := countsAgree_of_reachable hreach
  refine ⟨fun key token entry hentry => ?_, fun env pid uid => decreaseProxyCnt_clamp cfg env pid uid hagree⟩
  have hcount : entry.proxyCount = flagged entry.wks := hagree key token entry hentry
  have hle := flagged_le_size entry.wks
  refine ⟨hcount, by omega, by omega, ?_⟩
  rw [← flagged_eq_size_iff]
  omega

/-- A lock with two work sources, one of which is proxied. -/
def twoWorkSources : List (ProxyCall × Env) :=
  [(.mgr (.createRunningLock 1 { name := "download", type := .backgroundTask, pid := 10, uid := 20 }), {}),
    (.mgr (.updateWorkSource 1 (((∅ : TreeMap Int String).insert 7 "mail").insert 8 "music")), {}),
    (.increaseProxyCnt 99 7, {})]

theorem proxyCount_eq_flagged_twoWorkSources :
    ∃ m, (proxySystem {}).run {} twoWorkSources = some m ∧
      (m.entryAt? "10_20" 1).map WksEntry.proxyCount = some 1 ∧
      ∀ entry, m.entryAt? "10_20" 1 = some entry → entry.proxyCount = flagged entry.wks := by
  refine ⟨_, rfl, by decide, fun entry hentry => ?_⟩
  have hreach := Lib.System.reachable_of_run (S := proxySystem {}) twoWorkSources (.init rfl) rfl
  exact ((proxyCount_eq_flagged hreach).1 "10_20" 1 entry hentry).1

end PowerMgr.RunningLock
