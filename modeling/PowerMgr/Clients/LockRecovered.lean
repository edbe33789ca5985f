import PowerMgr.Clients.LockRecovery

/-! # Which locks are there after a restart

`RecoverRunningLocks` visits the locks on the client's list once.  A lock that its constructor left with
the dead service and that is put on the list afterwards is not created again, and its proxy stays dead.

* `Careful` — no lock is put on the list after the recovery that should have created it again.
* `Covered`, `Registered` — a lock of a dead incarnation is still to be visited; one of the live incarnation
  is registered there, and no other token of the client is.
* `locks_recovered` — in careful runs, once the recipients have finished, the service has exactly
  the locks the client holds, and none is enabled that was not locked since the restart.
-/

namespace PowerMgr.Clients.LockRecovery

open RunningLock (Token RunningLockMgr RunningLockInfo RunningLockInner LockView ServiceCall Env)
open RunningLock.MultiScreen (Accounts Caller fillRunningLockParam)

/-! ## Every lock of a dead incarnation is still to be visited -/

/-- `Careful` of one step: a lock is put on the list before the recovery from the death of its incarnation
has gone through the list, and the other clients do not use this client's tokens. -/
def Careful (c : Client) (s : State) : Event → Prop
  | .push i => ∀ lock, s.locks i = some lock → s.phase lock.proxy ≠ .done
  | .service call _ => ∀ i, Foreign (c.token i) call
  | _ => True

def ClientLock.isMade (lock : ClientLock) : Prop :=
  lock.life = .created ∨ lock.life = .listed

structure Covered (c : Client) (s : State) : Prop where
  recipient : ∀ i lock, s.locks i = some lock → s.recipient lock.proxy = true
  granted : ∀ i lock, s.locks i = some lock → lock.isMade → c.granted lock.info.type = true
  fresh : ∀ i, s.made ≤ i → s.locks i = none
  onList : ∀ i lock, s.locks i = some lock → lock.life = .listed → i ∈ s.runningLocks
  ofList : ∀ i, i ∈ s.runningLocks → ∃ lock, s.locks i = some lock ∧ (lock.life = .listed ∨ lock.life = .gone)
  rest : ∀ e rest, s.phase e = .recovering rest → ∀ i ∈ rest, i ∈ s.runningLocks
  covered : ∀ i lock, s.locks i = some lock → lock.life = .listed → s.reaches lock.proxy = false →
    ∃ e, (s.phase e).isComing i = true

section Covered

variable {c : Client} {s s' : State}

/-- A step that leaves the locks and the list alone. -/
theorem covered_frame (h : Covered c s) (hlocks : s'.locks = s.locks) (hlist : s'.runningLocks = s.runningLocks)
    (hmade : s'.made = s.made) (hrecipient : ∀ e, s.recipient e = true → s'.recipient e = true)
    (hrest : ∀ e rest, s'.phase e = .recovering rest → ∀ i ∈ rest, i ∈ s.runningLocks)
    (hcovered : ∀ i lock, s.locks i = some lock → lock.life = .listed → s'.reaches lock.proxy = false →
      ∃ e, (s'.phase e).isComing i = true) : Covered c s' where
  recipient i lock hlock := hrecipient _ (h.recipient i lock (hlocks ▸ hlock))
  granted i lock hlock := h.granted i lock (hlocks ▸ hlock)
  fresh i hle := by
    rw [hlocks]
    exact h.fresh i (hmade ▸ hle)
  onList i lock hlock hlisted := by
    rw [hlist]
    exact h.onList i lock (hlocks ▸ hlock) hlisted
  ofList i hmem := by
    rw [hlocks]
    exact h.ofList i (hlist ▸ hmem)
  rest e rest hphase i hmem := by
    rw [hlist]
    exact hrest e rest hphase i hmem
  covered i lock hlock := hcovered i lock (hlocks ▸ hlock)

theorem covered_getPowerMgrProxy (found : Bool) (h : Covered c s) : Covered c (getPowerMgrProxy found s).1 := by
  obtain heq | ⟨-, -, heq⟩ := getPowerMgrProxy_cases found s <;> rw [heq]
  · exact h
  · refine covered_frame h rfl rfl rfl (fun e hrecipient => ?_) h.rest h.covered
    by_cases hsame : e = s.epoch
    · rw [hsame]
      exact Function.update_self ..
    · exact (Function.update_of_ne hsame ..).trans hrecipient

theorem covered_die (hl : Linked s) (h : Covered c s) (hnext : next c s .die = some s') : Covered c s' := by
  simp only [next, Option.ite_none_right_eq_some, Option.some.injEq] at hnext
  obtain ⟨hup, rfl⟩ := hnext
  refine covered_frame h rfl rfl rfl (fun _ hrecipient => hrecipient) (fun e rest hphase => ?_)
    fun i lock hlock hlisted _ => ?_
  · obtain ⟨hsame, -⟩ | ⟨-, -, hnoticed⟩ := phase_die s e
    · exact h.rest e rest (hsame.symm.trans hphase)
    · have hphase' := hnoticed.symm.trans hphase
      cases hphase'
  · have hrecipient := h.recipient i lock hlock
    by_cases hproxy : lock.proxy = s.epoch
    · -- The lock's own incarnation died, and the client is told.
      obtain ⟨-, hnot⟩ | ⟨-, -, hnoticed⟩ := phase_die s lock.proxy
      · rw [hnot hproxy] at hrecipient
        cases hrecipient
      · exact ⟨lock.proxy, congrArg (Phase.isComing i) hnoticed⟩
    · obtain ⟨e, hcoming⟩ := h.covered i lock hlock hlisted (by simp [State.reaches, hproxy])
      obtain ⟨hsame, -⟩ | ⟨heq, -⟩ := phase_die s e
      · exact ⟨e, (congrArg (Phase.isComing i) hsame).trans hcoming⟩
      · rw [heq, hl.alive s.epoch (reaches_eq_true.mpr ⟨hup, rfl⟩)] at hcoming
        cases hcoming

theorem covered_start (h : Covered c s) (hnext : next c s .start = some s') : Covered c s' := by
  simp only [next, Option.ite_none_left_eq_some, Option.some.injEq] at hnext
  obtain ⟨hdown, rfl⟩ := hnext
  refine covered_frame h rfl rfl rfl (fun _ hrecipient => hrecipient) h.rest fun i lock hlock hlisted _ => ?_
  exact h.covered i lock hlock hlisted (by simp [State.reaches, hdown])

/-- A handler moves on; the locks it was to visit are still to be visited. -/
theorem covered_setPhase {e : Nat} {phase : Phase} {mutex : Option Nat} (h : Covered c s)
    (hrest : ∀ rest, phase = .recovering rest → ∀ i ∈ rest, i ∈ s.runningLocks)
    (hcoming : ∀ i lock, s.locks i = some lock → lock.life = .listed → s.reaches lock.proxy = false →
      (s.phase e).isComing i = true → phase.isComing i = true ∨ ∃ e', e' ≠ e ∧ (s.phase e').isComing i = true) :
    Covered c { s with phase := Function.update s.phase e phase, runningLocksMutex := mutex } := by
  refine covered_frame h rfl rfl rfl (fun _ hrecipient => hrecipient) (fun e' rest hphase => ?_)
    fun i lock hlock hlisted hdead => ?_
  · obtain ⟨-, hnew⟩ | ⟨-, hold⟩ := Lib.update_cases hphase
    · exact hrest rest hnew
    · exact h.rest e' rest hold
  · have hkept : ∀ e', e' ≠ e → (s.phase e').isComing i = true →
        ∃ e', (Function.update s.phase e phase e').isComing i = true := fun e' hne hcoming' =>
      ⟨e', by rwa [Function.update_of_ne hne]⟩
    obtain ⟨e', hcoming'⟩ := h.covered i lock hlock hlisted hdead
    by_cases hsame : e' = e
    · subst hsame
      obtain hnew | ⟨e1, hne, hcoming1⟩ := hcoming i lock hlock hlisted hdead hcoming'
      · exact ⟨e', by change (Function.update s.phase e' phase e').isComing i = true; rwa [Function.update_self]⟩
      · exact hkept e1 hne hcoming1
    · exact hkept e' hsame hcoming'

theorem covered_resetProxy {e : Nat} (h : Covered c s) (hnext : next c s (.resetProxy e) = some s') :
    Covered c s' := by
  simp only [next, Option.ite_none_right_eq_some, Option.some.injEq] at hnext
  obtain ⟨-, rfl⟩ := hnext
  have hphase : Covered c { s with phase := Function.update s.phase e (.waiting 0) } :=
    covered_setPhase h (fun _ hrest => Phase.noConfusion hrest) fun _ _ _ _ _ _ => .inl rfl
  exact covered_frame hphase rfl rfl rfl (fun _ hrecipient => hrecipient) hphase.rest hphase.covered

theorem covered_retry {e : Nat} {found : Bool} (h : Covered c s) (hnext : next c s (.retry e found) = some s') :
    Covered c s' := by
  simp only [next] at hnext
  split at hnext
  · have h1 := covered_getPowerMgrProxy found h
    split at hnext
    · split at hnext
      next s1 p hget =>
        rw [hget] at h1
        cases hnext
        exact covered_setPhase h1 (fun _ hrest => Phase.noConfusion hrest) fun _ _ _ _ _ _ => .inl rfl
      next s1 hget =>
        rw [hget] at h1
        cases hnext
        exact covered_setPhase h1 (fun _ hrest => Phase.noConfusion hrest) fun _ _ _ _ _ _ => .inl rfl
    · cases hnext
      exact covered_setPhase h (fun _ hrest => Phase.noConfusion hrest) fun _ _ _ _ _ _ => .inl rfl
  · cases hnext

theorem covered_startRecovery {e : Nat} (h : Covered c s) (hnext : next c s (.startRecovery e) = some s') :
    Covered c s' := by
  simp only [next, Option.ite_none_right_eq_some, Option.some.injEq] at hnext
  obtain ⟨-, rfl⟩ := hnext
  refine covered_setPhase h (fun rest hrest i hmem => ?_) fun i lock hlock hlisted _ _ => ?_
  · cases hrest
    exact hmem
  · exact .inl (decide_eq_true (h.onList i lock hlock hlisted))

/-- One lock changes. -/
theorem covered_setLock {i : Nat} {lock : ClientLock} {mgr : RunningLockMgr} (h : Covered c s)
    (hrecipient : s.recipient lock.proxy = true) (hgranted : lock.isMade → c.granted lock.info.type = true)
    (hmade : i < s.made) (hlisted : lock.life = .listed → i ∈ s.runningLocks)
    (hlist : i ∈ s.runningLocks → lock.life = .listed ∨ lock.life = .gone)
    (hcovered : lock.life = .listed → s.reaches lock.proxy = false → ∃ e, (s.phase e).isComing i = true) :
    Covered c { s with mgr := mgr, locks := Function.update s.locks i (some lock) } where
  recipient j other hother := by
    obtain ⟨-, hnew⟩ | ⟨-, hold⟩ := Lib.update_cases hother
    · exact Option.some.inj hnew ▸ hrecipient
    · exact h.recipient j other hold
  granted j other hother := by
    obtain ⟨-, hnew⟩ | ⟨-, hold⟩ := Lib.update_cases hother
    · exact Option.some.inj hnew ▸ hgranted
    · exact h.granted j other hold
  fresh j hle := by
    have hne : j ≠ i := Nat.ne_of_gt (Nat.lt_of_lt_of_le hmade hle)
    exact (Function.update_of_ne hne ..).trans (h.fresh j hle)
  onList j other hother := by
    obtain ⟨rfl, hnew⟩ | ⟨-, hold⟩ := Lib.update_cases hother
    · exact Option.some.inj hnew ▸ hlisted
    · exact h.onList j other hold
  ofList j hmem := by
    by_cases hsame : j = i
    · subst hsame
      exact ⟨lock, Function.update_self .., hlist hmem⟩
    · obtain ⟨other, hother, hlife⟩ := h.ofList j hmem
      exact ⟨other, (Function.update_of_ne hsame ..).trans hother, hlife⟩
  rest := h.rest
  covered j other hother := by
    obtain ⟨rfl, hnew⟩ | ⟨-, hold⟩ := Lib.update_cases hother
    · exact Option.some.inj hnew ▸ hcovered
    · exact h.covered j other hold

theorem Covered.lt_made (h : Covered c s) {i : Nat} {lock : ClientLock} (hlock : s.locks i = some lock) : i < s.made := by
  by_contra hle
  rw [h.fresh i (Nat.le_of_not_lt hle)] at hlock
  cases hlock

theorem Covered.life_of_mem (h : Covered c s) {i : Nat} {lock : ClientLock} (hlock : s.locks i = some lock)
    (hmem : i ∈ s.runningLocks) : lock.life = .listed ∨ lock.life = .gone := by
  obtain ⟨other, hother, hlife⟩ := h.ofList i hmem
  rw [hlock] at hother
  cases hother
  exact hlife

theorem covered_destroy {env : Env} {i : Nat} {lock : ClientLock} (h : Covered c s) (hlock : s.locks i = some lock) :
    Covered c (destroy c env i lock s) := by
  obtain ⟨mgr, heq⟩ := destroy_eq c env i lock s
  rw [heq]
  exact covered_setLock h (h.recipient i lock hlock) (fun hmade => hmade.elim Life.noConfusion Life.noConfusion)
    (h.lt_made hlock) Life.noConfusion (fun _ => .inr rfl) Life.noConfusion

theorem covered_construct {name : String} {tick : Nat} {type : RunningLockType} {displayId : Nat} {found : Bool}
    (hl : Linked s) (h : Covered c s) (hnext : next c s (.construct name tick type displayId found) = some s') :
    Covered c s' := by
  have h1 := covered_getPowerMgrProxy found h
  obtain ⟨hl1, hproxy⟩ := linked_getPowerMgrProxy found hl
  simp only [next] at hnext
  split at hnext
  next s1 hget =>
    rw [hget] at h1
    cases hnext
    exact h1
  next s1 p hget =>
    rw [hget] at h1 hl1 hproxy
    cases hnext
    have hgrown : Covered c { s1 with made := s1.made + 1 } :=
      ⟨h1.recipient, h1.granted, fun i hle => h1.fresh i (Nat.le_of_succ_le hle), h1.onList, h1.ofList, h1.rest,
        h1.covered⟩
    refine covered_setLock (s := { s1 with made := s1.made + 1 }) hgrown (hl1.proxy p hproxy)
      (fun hmade => hmade.elim Life.noConfusion Life.noConfusion) (Nat.lt_succ_self _) Life.noConfusion
      (fun hmem => ?_) Life.noConfusion
    obtain ⟨other, hother, -⟩ := h1.ofList s1.made hmem
    rw [h1.fresh s1.made (Nat.le_refl _)] at hother
    cases hother

/-- A lock is only created when the service grants its type. -/
theorem createThrough_success {accounts : Accounts} {i : Nat} {lock : ClientLock}
    (hsuccess : (createThrough c accounts i lock s).2 = true) :
    s.reaches lock.proxy = true ∧ c.granted lock.info.type = true := by
  unfold createThrough at hsuccess
  by_cases hreach : s.reaches lock.proxy = true
  · refine ⟨hreach, ?_⟩
    by_contra hrefused
    simp [hreach, create, hrefused] at hsuccess
  · simp [hreach] at hsuccess

theorem covered_init {i : Nat} {accounts : Accounts} {env : Env} (h : Covered c s)
    (hnext : next c s (.init i accounts env) = some s') : Covered c s' := by
  simp only [next] at hnext
  split at hnext
  next lock hlock =>
    split at hnext
    next hlife =>
      obtain ⟨mgr, heq⟩ := createThrough_eq c accounts i lock s
      have hmem : i ∉ s.runningLocks := by
        intro hmem
        obtain hlisted | hgone := h.life_of_mem hlock hmem
        · rw [hlife] at hlisted
          cases hlisted
        · rw [hlife] at hgone
          cases hgone
      split at hnext
      next s1 hcreate =>
        obtain ⟨-, hgranted⟩ := createThrough_success (by rw [hcreate] : (createThrough c accounts i lock s).2 = true)
        rw [hcreate] at heq
        dsimp only at heq
        subst heq
        cases hnext
        exact covered_setLock (s := s) h (h.recipient i lock hlock) (fun _ => hgranted) (h.lt_made hlock) Life.noConfusion
          (fun hmem' => absurd hmem' hmem) Life.noConfusion
      next s1 hcreate =>
        rw [hcreate] at heq
        dsimp only at heq
        subst heq
        cases hnext
        exact covered_destroy (s := { s with mgr := mgr })
          ⟨h.recipient, h.granted, h.fresh, h.onList, h.ofList, h.rest, h.covered⟩ hlock
    next => cases hnext
  next => cases hnext

theorem covered_push {i : Nat} (hl : Linked s) (h : Covered c s) (hcareful : Careful c s (.push i))
    (hnext : next c s (.push i) = some s') : Covered c s' := by
  simp only [next] at hnext
  split at hnext
  next lock hlock =>
    simp only [Option.ite_none_right_eq_some, Option.some.injEq] at hnext
    obtain ⟨⟨hlife, hmutex⟩, rfl⟩ := hnext
    have hgrown : Covered c { s with
        runningLocks := s.runningLocks ++ [i], locks := Function.update s.locks i (some { lock with life := .listed }) } := by
      refine ⟨fun j other hother => ?_, fun j other hother => ?_, fun j hle => ?_, fun j other hother hlisted => ?_,
        fun j hmem => ?_, fun e rest hphase j hmem => ?_, fun j other hother hlisted hdead => ?_⟩
      · obtain ⟨-, hnew⟩ | ⟨-, hold⟩ := Lib.update_cases hother
        · exact Option.some.inj hnew ▸ h.recipient i lock hlock
        · exact h.recipient j other hold
      · obtain ⟨-, hnew⟩ | ⟨-, hold⟩ := Lib.update_cases hother
        · cases hnew
          exact fun _ => h.granted i lock hlock (.inl hlife)
        · exact h.granted j other hold
      · have hne : j ≠ i := Nat.ne_of_gt (Nat.lt_of_lt_of_le (h.lt_made hlock) hle)
        exact (Function.update_of_ne hne ..).trans (h.fresh j hle)
      · obtain ⟨rfl, -⟩ | ⟨-, hold⟩ := Lib.update_cases hother
        · exact List.mem_append_right _ (List.mem_singleton_self j)
        · exact List.mem_append_left _ (h.onList j other hold hlisted)
      · by_cases hsame : j = i
        · subst hsame
          exact ⟨_, Function.update_self .., .inl rfl⟩
        · obtain hmem | hmem := List.mem_append.mp hmem
          · obtain ⟨other, hother, hcase⟩ := h.ofList j hmem
            exact ⟨other, (Function.update_of_ne hsame ..).trans hother, hcase⟩
          · exact absurd (List.mem_singleton.mp hmem) hsame
      · exact List.mem_append_left _ (h.rest e rest hphase j hmem)
      · obtain ⟨rfl, hnew⟩ | ⟨-, hold⟩ := Lib.update_cases hother
        · -- The handler of the lock's incarnation has been told and is not through yet.
          cases hnew
          have hidle := hl.handled lock.proxy (h.recipient j lock hlock) hdead
          have hdone := hcareful lock hlock
          refine ⟨lock.proxy, ?_⟩
          change (s.phase lock.proxy).isComing j = true
          cases hphase : s.phase lock.proxy with
          | idle => exact absurd hphase hidle
          | done => exact absurd hphase hdone
          | recovering rest =>
            have hheld := hl.mutex _ rest hphase
            rw [hmutex] at hheld
            cases hheld
          | noticed => rfl
          | waiting retryCount => rfl
          | connected => rfl
          | gaveUp => rfl
        · exact h.covered j other hold hlisted hdead
    exact hgrown
  next => cases hnext

theorem covered_recoverLock {e i : Nat} {rest : List Nat} {found : Bool} {accounts : Accounts} (hl : Linked s)
    (h : Covered c s) (hphase : s.phase e = .recovering (i :: rest)) :
    Covered c (recoverLock c e i rest found accounts s) := by
  have hmem : i ∈ s.runningLocks := h.rest e _ hphase i List.mem_cons_self
  have hrest : ∀ j ∈ rest, j ∈ s.runningLocks := fun j hj => h.rest e _ hphase j (List.mem_cons_of_mem _ hj)
  -- Going on is fine when the lock itself needs no visit.
  have hadvance : (∀ lock, s.locks i = some lock → lock.life ≠ .listed) →
      Covered c { s with phase := Function.update s.phase e (.recovering rest) } := by
    intro hnot
    refine covered_setPhase h (fun rest' hrest' j hj => ?_) fun j lock hlock hlisted _ hcoming => ?_
    · cases hrest'
      exact hrest j hj
    · rw [hphase] at hcoming
      obtain rfl | hj := List.mem_cons.mp (of_decide_eq_true hcoming)
      · exact absurd hlisted (hnot lock hlock)
      · exact .inl (decide_eq_true hj)
  have h1 := covered_getPowerMgrProxy found h
  obtain ⟨hl1, hproxy⟩ := linked_getPowerMgrProxy found hl
  have hsame : (getPowerMgrProxy found s).1.phase = s.phase ∧
      (getPowerMgrProxy found s).1.runningLocks = s.runningLocks ∧ (getPowerMgrProxy found s).1.locks = s.locks := by
    obtain heq | ⟨-, -, heq⟩ := getPowerMgrProxy_cases found s <;> rw [heq] <;> exact ⟨rfl, rfl, rfl⟩
  unfold recoverLock
  split
  next lock hlock =>
    split
    next hgone =>
      refine hadvance fun other hother hlisted => ?_
      rw [hlock] at hother
      cases hother
      rw [hgone] at hlisted
      cases hlisted
    next hgone =>
      have hlisted : lock.life = .listed := (h.life_of_mem hlock hmem).resolve_right hgone
      split
      next s1 hget =>
        -- There is no proxy because another handler reset it and is not through.
        rw [hget] at h1 hl1 hproxy hsame
        refine covered_setPhase h1 (fun _ hdone => Phase.noConfusion hdone) fun j other _ _ _ _ => .inr ?_
        obtain ⟨e', hstuck⟩ := hl1.noProxy hproxy e (by rw [hsame.1, hphase]; rfl)
        refine ⟨e', ?_, Phase.isComing_of_isStuck hstuck j⟩
        rintro rfl
        rw [hsame.1, hphase] at hstuck
        cases hstuck
      next s1 p hget =>
        rw [hget] at h1 hl1 hproxy hsame
        obtain ⟨hphase1, hlist1, hlocks1⟩ := hsame
        dsimp only at hphase1 hlist1 hlocks1 h1 hl1 hproxy
        dsimp only
        obtain ⟨mgr, heq⟩ := createThrough_eq c accounts i { lock with proxy := p } (s1.setLock i { lock with proxy := p })
        rw [heq]
        have hlock1 : s1.locks i = some lock := by rw [hlocks1, hlock]
        have hrecipient := hl1.proxy p hproxy
        -- When the proxy is dead already, the handler of that death is still to come.
        have hcoming : s1.reaches p = false → ∃ e', e' ≠ e ∧ (s1.phase e').isComing i = true := by
          intro hdead
          have hnoticed := hl1.noticed p hproxy hdead
          refine ⟨p, ?_, by rw [hnoticed]; rfl⟩
          rintro rfl
          rw [hphase1, hphase] at hnoticed
          cases hnoticed
        have h2 : Covered c { s1 with
            mgr := mgr, locks := Function.update s1.locks i (some { lock with proxy := p }) } := by
          refine covered_setLock (s := s1) h1 hrecipient (h1.granted i lock hlock1) (h1.lt_made hlock1)
            (fun _ => by rw [hlist1]; exact hmem) (fun _ => .inl hlisted) fun _ hdead => ?_
          obtain ⟨e', -, hcoming'⟩ := hcoming hdead
          exact ⟨e', hcoming'⟩
        refine covered_setPhase h2 (fun rest' hrest' j hj => ?_) fun j other hother _ hdead hcoming' => ?_
        · cases hrest'
          change j ∈ s1.runningLocks
          rw [hlist1]
          exact hrest j hj
        · change (s1.phase e).isComing j = true at hcoming'
          rw [hphase1, hphase] at hcoming'
          obtain rfl | hj := List.mem_cons.mp (of_decide_eq_true hcoming')
          · obtain ⟨-, hnew⟩ | ⟨hne, -⟩ := Lib.update_cases hother
            · cases hnew
              exact .inr (hcoming hdead)
            · exact absurd rfl hne
          · exact .inl (decide_eq_true hj)
  next hnone =>
    refine hadvance fun lock hlock => ?_
    rw [hnone] at hlock
    cases hlock

theorem covered_recoverNext {e : Nat} {found : Bool} {accounts : Accounts} (hl : Linked s) (h : Covered c s)
    (hnext : next c s (.recoverNext e found accounts) = some s') : Covered c s' := by
  simp only [next] at hnext
  split at hnext
  next i rest hphase =>
    cases hnext
    exact covered_recoverLock hl h hphase
  next hphase =>
    cases hnext
    refine covered_setPhase h (fun _ hdone => Phase.noConfusion hdone) fun i lock _ _ _ hcoming => ?_
    rw [hphase] at hcoming
    cases hcoming
  next => cases hnext

theorem covered_next {event : Event} (hl : Linked s) (h : Covered c s) (hcareful : Careful c s event)
    (hnext : next c s event = some s') : Covered c s' := by
  cases event with
  | die => exact covered_die hl h hnext
  | start => exact covered_start h hnext
  | connect found =>
    cases hnext
    exact covered_getPowerMgrProxy found h
  | construct name tick type displayId found => exact covered_construct hl h hnext
  | init i accounts env => exact covered_init h hnext
  | push i => exact covered_push hl h hcareful hnext
  | call i lockCall env =>
    simp only [next] at hnext
    split at hnext
    · split at hnext
      · split at hnext
        · cases hnext
          exact covered_frame h rfl rfl rfl (fun _ hrecipient => hrecipient) h.rest h.covered
        · cases hnext
          exact h
      · cases hnext
    · cases hnext
  | drop i env =>
    simp only [next] at hnext
    split at hnext
    next lock hlock =>
      simp only [Option.ite_none_right_eq_some, Option.some.injEq] at hnext
      obtain ⟨-, rfl⟩ := hnext
      exact covered_destroy h hlock
    next => cases hnext
  | resetProxy e => exact covered_resetProxy h hnext
  | retry e found => exact covered_retry h hnext
  | startRecovery e => exact covered_startRecovery h hnext
  | recoverNext e found accounts => exact covered_recoverNext hl h hnext
  | service call env =>
    simp only [next, Option.some.injEq] at hnext
    subst hnext
    split
    · exact covered_frame h rfl rfl rfl (fun _ hrecipient => hrecipient) h.rest h.covered
    · exact h

end Covered

/-! ## The service has the locks that reach it -/

/-- The label under which a lock of the client is registered. -/
def lockLabel (c : Client) (info : RunningLockInfo) : RunningLockType × String × String :=
  (if info.type = .background then .backgroundTask else info.type,
    RunningLock.assembleProxyKey c.caller.pid c.caller.uid, info.name)

/-- Binding a lock to a display does not change its label. -/
theorem label_fillDisplayIdForMultiScreen (accounts : Accounts) (param : RunningLock.RunningLockParam) :
    label (RunningLockInner.view { param := RunningLock.MultiScreen.fillDisplayIdForMultiScreen accounts param }) =
      label (RunningLockInner.view { param := param }) := by
  simp only [RunningLock.MultiScreen.fillDisplayIdForMultiScreen]
  repeat' split
  all_goals rfl

theorem label_fillRunningLockParam (c : Client) (accounts : Accounts) (info : RunningLockInfo) (lockid : Nat) :
    label (RunningLockInner.view { param := fillRunningLockParam c.multiScreen accounts c.caller info lockid }) =
      lockLabel c info := by
  cases hmulti : c.multiScreen with
  | true =>
    rw [fillRunningLockParam, if_pos rfl, label_fillDisplayIdForMultiScreen]
    rfl
  | false => rfl

structure Registered (c : Client) (s : State) : Prop where
  present : ∀ i lock, s.locks i = some lock → lock.isMade → s.reaches lock.proxy = true →
    (s.mgr.view? (c.token i)).map label = some (lockLabel c lock.info)
  owned : ∀ i, (s.mgr.view? (c.token i)).isSome = true →
    ∃ lock, s.locks i = some lock ∧ lock.isMade ∧ s.reaches lock.proxy = true
  disabled : ∀ i, s.lockedSince i = false → ∀ view, s.mgr.view? (c.token i) = some view → view.state = .disable

section Registered

variable {c : Client} {s s' : State}

theorem view?_empty (token : Token) : ({} : RunningLockMgr).view? token = none := by
  simp [RunningLockMgr.view?]

theorem isSome_of_label {token : Token} {m m' : RunningLockMgr}
    (h : (m'.view? token).map label = (m.view? token).map label) :
    (m'.view? token).isSome = (m.view? token).isSome := by
  have hsome := congrArg Option.isSome h
  rwa [Option.isSome_map, Option.isSome_map] at hsome

/-- A step of the client that leaves the locks, the tables and the service alone. -/
theorem registered_congr (hup : s'.up = s.up) (hepoch : s'.epoch = s.epoch) (hmgr : s'.mgr = s.mgr)
    (hlocks : s'.locks = s.locks) (hsince : s'.lockedSince = s.lockedSince) (h : Registered c s) : Registered c s' := by
  cases s
  cases s'
  dsimp only at hup hepoch hmgr hlocks hsince
  subst hup hepoch hmgr hlocks hsince
  exact ⟨h.present, h.owned, h.disabled⟩

/-- The locks stay as they are, and every token of the client keeps its registration. -/
theorem registered_keeps {mgr : RunningLockMgr} (h : Registered c s) (hkeeps : ∀ i, Keeps (c.token i) s.mgr mgr) :
    Registered c { s with mgr := mgr } where
  present i lock hlock hmade hreach := (hkeeps i).registration.trans (h.present i lock hlock hmade hreach)
  owned i hsome := h.owned i (isSome_of_label (hkeeps i).registration ▸ hsome)
  disabled i hsince := (hkeeps i).disabled (h.disabled i hsince)

/-- One lock and its registration change together. -/
theorem registered_setLock {i : Nat} {lock : ClientLock} {mgr : RunningLockMgr} {since : Nat → Bool}
    (h : Registered c s) (hothers : ∀ j, j ≠ i → Keeps (c.token j) s.mgr mgr)
    (hsince : ∀ j, j ≠ i → since j = s.lockedSince j)
    (hpresent : lock.isMade → s.reaches lock.proxy = true →
      (mgr.view? (c.token i)).map label = some (lockLabel c lock.info))
    (howned : (mgr.view? (c.token i)).isSome = true → lock.isMade ∧ s.reaches lock.proxy = true)
    (hdisabled : since i = false → ∀ view, mgr.view? (c.token i) = some view → view.state = .disable) :
    Registered c { s with mgr := mgr, locks := Function.update s.locks i (some lock), lockedSince := since } where
  present j other hother hmade hreach := by
    obtain ⟨rfl, hnew⟩ | ⟨hne, hold⟩ := Lib.update_cases hother
    · cases hnew
      exact hpresent hmade hreach
    · exact (hothers j hne).registration.trans (h.present j other hold hmade hreach)
  owned j hsome := by
    by_cases hsame : j = i
    · subst hsame
      exact ⟨lock, Function.update_self .., howned hsome⟩
    · obtain ⟨other, hother, hmade⟩ := h.owned j (isSome_of_label (hothers j hsame).registration ▸ hsome)
      exact ⟨other, (Function.update_of_ne hsame ..).trans hother, hmade⟩
  disabled j hnot := by
    by_cases hsame : j = i
    · subst hsame
      exact hdisabled hnot
    · exact (hothers j hsame).disabled (h.disabled j ((hsince j hsame).symm.trans hnot))

variable (hinj : Function.Injective c.token)

include hinj

/-- Creating a lock that reaches the service registers it, whether or not it was registered. -/
theorem registered_createThrough (accounts : Accounts) {i : Nat} {lock : ClientLock} (lock' : ClientLock)
    (hlock : s.locks i = some lock) (hinfo : lock'.info = lock.info)
    (hreach : s.reaches lock'.proxy = true) (hgranted : c.granted lock'.info.type = true) (hmade : lock'.isMade)
    (h : Registered c s) :
    Registered c { s with
      mgr := (create c accounts i lock'.info s.mgr).1, locks := Function.update s.locks i (some lock') } := by
  have hcreate : (create c accounts i lock'.info s.mgr).1 = RunningLock.createRunningLock (c.token i)
      (fillRunningLockParam c.multiScreen accounts c.caller lock'.info (c.token i)) s.mgr := by
    simp [create, hgranted]
  have hview : ((create c accounts i lock'.info s.mgr).1.view? (c.token i)) = some ((s.mgr.view? (c.token i)).getD
      (RunningLockInner.view
        { param := fillRunningLockParam c.multiScreen accounts c.caller lock'.info (c.token i) })) := by
    rw [hcreate, RunningLock.createRunningLock_view?, Function.update_self]
  refine registered_setLock h (fun j hne => ?_) (fun _ _ => rfl) (fun _ _ => ?_) (fun _ => ⟨hmade, hreach⟩)
    fun hsince view hfound => ?_
  · rw [hcreate]
    exact keeps_createRunningLock _ fun heq => hne (hinj heq).symm
  · rw [hview]
    cases hregistered : s.mgr.view? (c.token i) with
    | none => exact congrArg some (label_fillRunningLockParam c accounts lock'.info (c.token i))
    | some view =>
      -- It was registered in this incarnation already, as this very lock.
      obtain ⟨other, hother, hmade', hreach'⟩ := h.owned i (by rw [hregistered]; rfl)
      rw [hlock] at hother
      cases hother
      have hpresent := h.present i lock hlock hmade' hreach'
      rw [hregistered] at hpresent
      rw [hinfo]
      exact hpresent
  · rw [hview] at hfound
    cases hfound
    cases hregistered : s.mgr.view? (c.token i) with
    | none => rfl
    | some view => exact h.disabled i hsince view hregistered

/-- The destructor takes the lock out of the service it reaches; elsewhere it is not registered. -/
theorem registered_destroy {env : Env} {i : Nat} {lock : ClientLock} (hlock : s.locks i = some lock)
    (h : Registered c s) : Registered c (destroy c env i lock s) := by
  have hnot : ∀ {mgr : RunningLockMgr}, (mgr.view? (c.token i)).isSome = true → mgr.view? (c.token i) = none →
      ClientLock.isMade { lock with life := .gone } ∧ s.reaches lock.proxy = true := by
    intro mgr hsome hnone
    rw [hnone] at hsome
    cases hsome
  simp only [destroy]
  split
  next hreach =>
    have hgone : (RunningLock.releaseLock c.cfg env (c.token i) lock.info.name s.mgr).view? (c.token i) = none := by
      by_cases hfound : s.mgr.findLock (c.token i) lock.info.name = none
      · rw [RunningLock.releaseLock_of_not_found c.cfg env hfound]
        cases hview : s.mgr.runningLocks[c.token i]? with
        | none => simp [RunningLockMgr.view?, hview]
        | some lockInner =>
          rw [RunningLockMgr.findLock_of_registered hview] at hfound
          cases hfound
      · rw [RunningLock.releaseLock_view? c.cfg env hfound, Function.update_self]
    refine registered_setLock (s := s) h (fun j hne => keeps_releaseLock _ fun heq => hne (hinj heq).symm)
      (fun _ _ => rfl) (fun hmade => ?_) (fun hsome => hnot hsome hgone) fun _ view hview => ?_
    · exact hmade.elim Life.noConfusion Life.noConfusion
    · have hfound := hgone.symm.trans hview
      cases hfound
  next hdead =>
    have hgone : s.mgr.view? (c.token i) = none := by
      cases hview : s.mgr.view? (c.token i) with
      | none => rfl
      | some view =>
        obtain ⟨other, hother, -, hreach⟩ := h.owned i (by rw [hview]; rfl)
        rw [hlock] at hother
        cases hother
        exact absurd hreach hdead
    refine registered_setLock (s := s) h (fun j _ => keeps_refl _ _) (fun _ _ => rfl) (fun hmade => ?_)
      (fun hsome => hnot hsome hgone) fun _ view hview => ?_
    · exact hmade.elim Life.noConfusion Life.noConfusion
    · have hfound := hgone.symm.trans hview
      cases hfound

omit hinj in
theorem registered_getPowerMgrProxy (found : Bool) (h : Registered c s) :
    Registered c (getPowerMgrProxy found s).1 := by
  obtain heq | ⟨-, -, heq⟩ := getPowerMgrProxy_cases found s <;> rw [heq]
  · exact h
  · exact registered_congr (s := s) rfl rfl rfl rfl rfl h

omit hinj in
/-- Dying and starting leave empty tables, and no lock reaches a service that has just started. -/
theorem registered_restart {up : Bool} {epoch : Nat} {phase : Nat → Phase} {since : Nat → Bool}
    (hdead : ∀ i lock, s.locks i = some lock → (up && lock.proxy = epoch) = false) :
    Registered c { s with up := up, epoch := epoch, mgr := {}, phase := phase, lockedSince := since } where
  present i lock hlock _ hreach := by
    have hnot := hdead i lock hlock
    have hlive : (up && lock.proxy = epoch) = true := hreach
    rw [hnot] at hlive
    cases hlive
  owned i hsome := by
    change (({} : RunningLockMgr).view? (c.token i)).isSome = true at hsome
    rw [view?_empty] at hsome
    cases hsome
  disabled i _ view hview := by
    change ({} : RunningLockMgr).view? (c.token i) = some view at hview
    rw [view?_empty] at hview
    cases hview

omit hinj in
/-- A lock that is being made is not registered anywhere. -/
theorem registered_construct (info : RunningLockInfo) (p : Nat) (h : Registered c s) (hc : Covered c s) :
    Registered c { s.setLock s.made { info := info, proxy := p } with made := s.made + 1 } := by
  have hset : Registered c { s with
      locks := Function.update s.locks s.made (some { info := info, proxy := p }) } := by
    refine registered_setLock (s := s) h (fun j _ => keeps_refl _ _) (fun _ _ => rfl) (fun hmade => ?_)
      (fun hsome => ?_) (h.disabled s.made)
    · exact hmade.elim Life.noConfusion Life.noConfusion
    · obtain ⟨other, hother, -⟩ := h.owned s.made hsome
      rw [hc.fresh s.made (Nat.le_refl _)] at hother
      cases hother
  exact registered_congr (s := { s with
    locks := Function.update s.locks s.made (some { info := info, proxy := p }) }) rfl rfl rfl rfl rfl hset

theorem registered_call {i : Nat} {lockCall : LockCall} {env : Env} (h : Registered c s)
    (hnext : next c s (.call i lockCall env) = some s') : Registered c s' := by
  simp only [next] at hnext
  split at hnext
  next lock hlock =>
    split at hnext
    next hlife =>
      split at hnext
      next hreach =>
        cases hnext
        have hne : ∀ j, j ≠ i → c.token i ≠ c.token j := fun j hne heq => hne (hinj heq).symm
        have hself : s.locks = Function.update s.locks i (some lock) := by
          rw [← hlock, Function.update_eq_self]
        have howned : ∀ mgr : RunningLockMgr, (mgr.view? (c.token i)).map label = (s.mgr.view? (c.token i)).map label →
            (lock.isMade → s.reaches lock.proxy = true →
              (mgr.view? (c.token i)).map label = some (lockLabel c lock.info)) ∧
            ((mgr.view? (c.token i)).isSome = true → lock.isMade ∧ s.reaches lock.proxy = true) := fun mgr hlabel =>
          ⟨fun hmade hreach => hlabel.trans (h.present i lock hlock hmade hreach), fun _ => ⟨.inr hlife, hreach⟩⟩
        cases lockCall with
        | lock =>
          have hlabel : ((RunningLock.lock c.cfg env (c.token i) s.mgr).1.view? (c.token i)).map label =
              (s.mgr.view? (c.token i)).map label := by
            obtain hsame | ⟨view, hfound, -, -, hview⟩ := RunningLock.lock_view? c.cfg env (c.token i) s.mgr
            · rw [hsame]
            · rw [hview, Function.update_self, hfound]
              rfl
          have hset := registered_setLock h (fun j hj => keeps_lock (hne j hj))
            (fun j hj => Function.update_of_ne hj true s.lockedSince) (howned _ hlabel).1 (howned _ hlabel).2
            fun hsince => by
              rw [Function.update_self] at hsince
              cases hsince
          exact registered_congr (s := { s with
            mgr := (RunningLock.lock c.cfg env (c.token i) s.mgr).1
            locks := Function.update s.locks i (some lock)
            lockedSince := Function.update s.lockedSince i true }) rfl rfl rfl hself rfl hset
        | unLock => exact registered_keeps h fun j => keeps_unLock lock.info.name
        | updateWorkSource workSources => exact registered_keeps h fun j => keeps_updateWorkSource workSources
      next =>
        cases hnext
        exact h
    next => cases hnext
  next => cases hnext

theorem registered_init {i : Nat} {accounts : Accounts} {env : Env} (h : Registered c s)
    (hnext : next c s (.init i accounts env) = some s') : Registered c s' := by
  simp only [next] at hnext
  split at hnext
  next lock hlock =>
    split at hnext
    next hlife =>
      split at hnext
      next s1 hcreate =>
        obtain ⟨hreach, hgranted⟩ :=
          createThrough_success (by rw [hcreate] : (createThrough c accounts i lock s).2 = true)
        have heq : s1 = { s with mgr := (create c accounts i lock.info s.mgr).1 } := by
          simp only [createThrough, hreach, if_true, Prod.mk.injEq] at hcreate
          exact hcreate.1.symm
        subst heq
        cases hnext
        exact registered_createThrough hinj accounts { lock with life := .created } hlock rfl hreach hgranted
          (.inl rfl) h
      next s1 hcreate =>
        -- Nothing was created, so the destructor starts from the tables as they were.
        have heq : s1 = s := by
          unfold createThrough create at hcreate
          by_cases hreach : s.reaches lock.proxy = true
          · by_cases hgranted : c.granted lock.info.type = true
            · simp [hreach, hgranted] at hcreate
            · simp only [hreach, hgranted, if_true, if_false, Bool.false_eq_true, Prod.mk.injEq] at hcreate
              exact hcreate.1.symm
          · simp only [hreach, if_false, Bool.false_eq_true, Prod.mk.injEq] at hcreate
            exact hcreate.1.symm
        subst heq
        cases hnext
        exact registered_destroy hinj hlock h
    next => cases hnext
  next => cases hnext

theorem registered_recoverLock {e i : Nat} {rest : List Nat} {found : Bool} {accounts : Accounts} (hl : Linked s)
    (hc : Covered c s) (h : Registered c s) (hphase : s.phase e = .recovering (i :: rest)) :
    Registered c (recoverLock c e i rest found accounts s) := by
  have hmem : i ∈ s.runningLocks := hc.rest e _ hphase i List.mem_cons_self
  have h1 := registered_getPowerMgrProxy found h
  have hc1 := covered_getPowerMgrProxy found hc
  obtain ⟨hl1, hproxy⟩ := linked_getPowerMgrProxy found hl
  have hlocks : (getPowerMgrProxy found s).1.locks = s.locks := by
    obtain heq | ⟨-, -, heq⟩ := getPowerMgrProxy_cases found s <;> rw [heq]
  unfold recoverLock
  split
  next lock hlock =>
    split
    next => exact registered_congr (s := s) rfl rfl rfl rfl rfl h
    next hgone =>
      have hlisted : lock.life = .listed := (hc.life_of_mem hlock hmem).resolve_right hgone
      split
      next s1 hget =>
        rw [hget] at h1
        exact registered_congr (s := s1) rfl rfl rfl rfl rfl h1
      next s1 p hget =>
        rw [hget] at h1 hc1 hl1 hproxy hlocks
        dsimp only at hlocks h1 hc1 hl1 hproxy
        dsimp only
        have hlock1 : s1.locks i = some lock := by rw [hlocks, hlock]
        have hgranted := hc1.granted i lock hlock1 (.inr hlisted)
        by_cases hreach : s1.reaches p = true
        · have hset := registered_createThrough hinj accounts { lock with proxy := p } hlock1 rfl hreach hgranted
            (.inr hlisted) h1
          have heq : (createThrough c accounts i { lock with proxy := p } (s1.setLock i { lock with proxy := p })).1 =
              { s1 with
                mgr := (create c accounts i lock.info s1.mgr).1
                locks := Function.update s1.locks i (some { lock with proxy := p }) } := by
            have hreach' : (s1.setLock i { lock with proxy := p }).reaches p = true := hreach
            simp only [createThrough, hreach', if_true]
            rfl
          rw [heq]
          exact registered_congr (s := { s1 with
            mgr := (create c accounts i lock.info s1.mgr).1
            locks := Function.update s1.locks i (some { lock with proxy := p }) }) rfl rfl rfl rfl rfl hset
        · -- The proxy is dead, so no service is up that the client has a proxy of.
          have heq : (createThrough c accounts i { lock with proxy := p } (s1.setLock i { lock with proxy := p })).1 =
              s1.setLock i { lock with proxy := p } := by
            have hreach' : ¬(s1.setLock i { lock with proxy := p }).reaches p = true := hreach
            simp only [createThrough, hreach', if_false, Bool.false_eq_true]
          have hnone : s1.mgr.view? (c.token i) = none := by
            cases hview : s1.mgr.view? (c.token i) with
            | none => rfl
            | some view =>
              obtain ⟨other, hother, -, hlive⟩ := h1.owned i (by rw [hview]; rfl)
              rw [hlock1] at hother
              cases hother
              have hcurrent := hl1.current lock.proxy (hc1.recipient i lock hlock1) hlive
              rw [hproxy] at hcurrent
              cases hcurrent
              exact absurd hlive hreach
          have hset : Registered c { s1 with locks := Function.update s1.locks i (some { lock with proxy := p }) } := by
            refine registered_setLock (s := s1) h1 (fun j _ => keeps_refl _ _) (fun _ _ => rfl)
              (fun _ hlive => absurd hlive hreach) (fun hsome => ?_) (h1.disabled i)
            change (s1.mgr.view? (c.token i)).isSome = true at hsome
            rw [hnone] at hsome
            cases hsome
          rw [heq]
          exact registered_congr (s := { s1 with
            locks := Function.update s1.locks i (some { lock with proxy := p }) }) rfl rfl rfl rfl rfl hset
  next => exact registered_congr (s := s) rfl rfl rfl rfl rfl h

theorem registered_next {event : Event} (hl : Linked s) (hc : Covered c s) (h : Registered c s)
    (hcareful : Careful c s event) (hnext : next c s event = some s') : Registered c s' := by
  cases event with
  | die =>
    simp only [next, Option.ite_none_right_eq_some, Option.some.injEq] at hnext
    obtain ⟨-, rfl⟩ := hnext
    exact registered_restart fun _ _ _ => rfl
  | start =>
    simp only [next, Option.ite_none_left_eq_some, Option.some.injEq] at hnext
    obtain ⟨-, rfl⟩ := hnext
    refine registered_restart fun i lock hlock => ?_
    have hle := hl.recipient_le lock.proxy (hc.recipient i lock hlock)
    have hne : ¬lock.proxy = s.epoch + 1 := by omega
    simp [hne]
  | connect found =>
    cases hnext
    exact registered_getPowerMgrProxy found h
  | construct name tick type displayId found =>
    have h1 := registered_getPowerMgrProxy found h
    have hc1 := covered_getPowerMgrProxy found hc
    simp only [next] at hnext
    split at hnext
    next s1 hget =>
      rw [hget] at h1
      cases hnext
      exact h1
    next s1 p hget =>
      rw [hget] at h1 hc1
      cases hnext
      exact registered_construct _ p h1 hc1
  | init i accounts env => exact registered_init hinj h hnext
  | push i =>
    simp only [next] at hnext
    split at hnext
    next lock hlock =>
      simp only [Option.ite_none_right_eq_some, Option.some.injEq] at hnext
      obtain ⟨⟨hlife, -⟩, rfl⟩ := hnext
      have hset : Registered c { s with locks := Function.update s.locks i (some { lock with life := .listed }) } := by
        refine registered_setLock (s := s) h (fun j _ => keeps_refl _ _) (fun _ _ => rfl)
          (fun _ hreach => h.present i lock hlock (.inl hlife) hreach) (fun hsome => ?_) (h.disabled i)
        obtain ⟨other, hother, -, hreach⟩ := h.owned i hsome
        rw [hlock] at hother
        cases hother
        exact ⟨.inr rfl, hreach⟩
      exact registered_congr (s := { s with locks := Function.update s.locks i (some { lock with life := .listed }) })
        rfl rfl rfl rfl rfl hset
    next => cases hnext
  | call i lockCall env => exact registered_call hinj h hnext
  | drop i env =>
    simp only [next] at hnext
    split at hnext
    next lock hlock =>
      simp only [Option.ite_none_right_eq_some, Option.some.injEq] at hnext
      obtain ⟨-, rfl⟩ := hnext
      exact registered_destroy hinj hlock h
    next => cases hnext
  | resetProxy e =>
    simp only [next, Option.ite_none_right_eq_some, Option.some.injEq] at hnext
    obtain ⟨-, rfl⟩ := hnext
    exact registered_congr (s := s) rfl rfl rfl rfl rfl h
  | retry e found =>
    have h1 := registered_getPowerMgrProxy found h
    simp only [next] at hnext
    split at hnext
    · split at hnext
      · split at hnext
        next s1 p hget =>
          rw [hget] at h1
          cases hnext
          exact registered_congr (s := s1) rfl rfl rfl rfl rfl h1
        next s1 hget =>
          rw [hget] at h1
          cases hnext
          exact registered_congr (s := s1) rfl rfl rfl rfl rfl h1
      · cases hnext
        exact registered_congr (s := s) rfl rfl rfl rfl rfl h
    · cases hnext
  | startRecovery e =>
    simp only [next, Option.ite_none_right_eq_some, Option.some.injEq] at hnext
    obtain ⟨-, rfl⟩ := hnext
    exact registered_congr (s := s) rfl rfl rfl rfl rfl h
  | recoverNext e found accounts =>
    simp only [next] at hnext
    split at hnext
    next i rest hphase =>
      cases hnext
      exact registered_recoverLock hinj hl hc h hphase
    next =>
      cases hnext
      exact registered_congr (s := s) rfl rfl rfl rfl rfl h
    next => cases hnext
  | service call env =>
    simp only [next, Option.some.injEq] at hnext
    subst hnext
    split
    · exact registered_keeps h fun i => keeps_serviceStep call (hcareful i)
    · exact h

theorem inv_of_reach (hreach : (system c).Reach (Careful c) s) : Linked s ∧ Covered c s ∧ Registered c s := by
  refine hreach.invariant (I := fun s => Linked s ∧ Covered c s ∧ Registered c s) (fun s hinit => ?_)
    fun s s' event h hok hnext => ?_
  · cases hinit
    refine ⟨?_, ?_, ?_⟩
    · constructor <;> simp [State.reaches, Phase.hasProxy]
    · constructor <;> simp
    · refine ⟨by simp, fun i hsome => ?_, fun i _ view hview => ?_⟩
      · rw [view?_empty] at hsome
        cases hsome
      · rw [view?_empty] at hview
        cases hview
  · exact ⟨linked_next h.1 hnext, covered_next h.1 h.2.1 hok hnext, registered_next hinj h.1 h.2.1 h.2.2 hok hnext⟩

/-- When no death recipient is still at work or has given up, the locks the client holds are registered
under their tokens and reach the service; its other tokens are not registered; and a lock the client has
not locked since the service started is disabled. -/
theorem locks_recovered (hreach : (system c).Reach (Careful c) s)
    (hsettled : ∀ e, s.phase e = .idle ∨ s.phase e = .done) (i : Nat) :
    (∀ lock, s.locks i = some lock → lock.life = .listed → lock.proxy = s.epoch ∧
      (s.mgr.view? (c.token i)).map label = some (lockLabel c lock.info)) ∧
    ((s.mgr.view? (c.token i)).isSome = true → ∃ lock, s.locks i = some lock ∧ lock.isMade) ∧
    (s.lockedSince i = false → ∀ view, s.mgr.view? (c.token i) = some view → view.state = .disable) := by
  obtain ⟨hl, hc, hr⟩ := inv_of_reach hinj hreach
  refine ⟨fun lock hlock hlisted => ?_, fun hsome => ?_, hr.disabled i⟩
  · cases hlive : s.reaches lock.proxy with
    | true => exact ⟨(reaches_eq_true.mp hlive).2, hr.present i lock hlock (.inr hlisted) hlive⟩
    | false =>
      obtain ⟨e, hcoming⟩ := hc.covered i lock hlock hlisted hlive
      obtain hidle | hdone := hsettled e
      · rw [hidle] at hcoming
        cases hcoming
      · rw [hdone] at hcoming
        cases hcoming
  · obtain ⟨lock, hlock, hmade, -⟩ := hr.owned i hsome
    exact ⟨lock, hlock, hmade⟩

end Registered

/-- A process `10` of user `20` whose tokens are numbered like its locks. -/
def player : Client where
  caller := { pid := 10, uid := 20, bundleName := "com.example.player" }
  token := id

def playerInfo : RunningLockInfo where
  name := nameExt "player" 7
  bundleName := ""
  type := .screen
  pid := 0
  uid := 0
  displayId := RunningLock.displayIdAll

def playerMade : List Event :=
  [.start, .construct "player" 7 .screen RunningLock.displayIdAll true, .init 0 {} {}]

/-- The lock is enabled, the service dies and starts again, and the recipient does its work. -/
def playerRecovered : List Event :=
  [.call 0 .lock {}, .die, .start, .resetProxy 1, .retry 1 true, .startRecovery 1, .recoverNext 1 true {},
    .recoverNext 1 true {}]

theorem playerRecovered_reach {s : State}
    (hrun : (system player).run {} (playerMade ++ .push 0 :: playerRecovered) = some s) :
    (system player).Reach (Careful player) s := by
  rw [Lib.System.run_append, Option.bind_eq_some_iff] at hrun
  obtain ⟨s1, hmade, hrun⟩ := hrun
  rw [Lib.System.run_cons, Option.bind_eq_some_iff] at hrun
  obtain ⟨s2, hpush, hrecovered⟩ := hrun
  have hreach1 : (system player).Reach (Careful player) s1 := by
    refine Lib.System.Reach.of_run playerMade (.init rfl) (fun s event hmem => ?_) hmade
    simp only [playerMade, List.mem_cons, List.not_mem_nil, or_false] at hmem
    obtain rfl | rfl | rfl := hmem <;> trivial
  have hphase : ((system player).run {} playerMade).map (fun s => (s.locks 0).map fun lock => s.phase lock.proxy) =
      some (some .idle) := by decide
  rw [hmade, Option.map_some, Option.some.injEq] at hphase
  have hcareful : Careful player s1 (.push 0) := by
    intro lock hlock
    rw [hlock, Option.map_some, Option.some.injEq] at hphase
    rw [hphase]
    exact Phase.noConfusion
  refine Lib.System.Reach.of_run playerRecovered (hreach1.step (Event.push 0) hcareful hpush)
    (fun s event hmem => ?_) hrecovered
  simp only [playerRecovered, List.mem_cons, List.not_mem_nil, or_false] at hmem
  obtain rfl | rfl | rfl | rfl | rfl | rfl | rfl | rfl := hmem <;> trivial

/-- The player's lock is there after the restart, and it is disabled. -/
theorem locks_recovered_player :
    ∃ s, (system player).run {} (playerMade ++ .push 0 :: playerRecovered) = some s ∧
      (s.mgr.view? 0).map label = some (.screen, "10_20", "player_7") ∧
      ∀ view, s.mgr.view? 0 = some view → view.state = .disable := by
  obtain ⟨s, hrun⟩ := Option.isSome_iff_exists.mp
    (rfl : ((system player).run {} (playerMade ++ .push 0 :: playerRecovered)).isSome = true)
  have hreach := playerRecovered_reach hrun
  have hends : ((system player).run {} (playerMade ++ .push 0 :: playerRecovered)).map (fun s =>
      (s.epoch, s.phase 0, s.phase 1, s.phase 2, s.lockedSince 0)) = some (2, .idle, .done, .idle, false) := by decide
  have hlock : ((system player).run {} (playerMade ++ .push 0 :: playerRecovered)).map (fun s => s.locks 0) =
      some (some { info := playerInfo, proxy := 2, life := .listed }) := by decide
  rw [hrun, Option.map_some, Option.some.injEq] at hends hlock
  simp only [Prod.mk.injEq] at hends
  obtain ⟨hepoch, hphase0, hphase1, hphase2, hsince⟩ := hends
  have hsettled : ∀ e, s.phase e = .idle ∨ s.phase e = .done := by
    intro e
    by_cases hlt : 2 < e
    · exact .inl ((inv_of_reach Function.injective_id hreach).1.future e (hepoch.symm ▸ hlt))
    · obtain rfl | rfl | rfl : e = 0 ∨ e = 1 ∨ e = 2 := by omega
      · exact .inl hphase0
      · exact .inr hphase1
      · exact .inl hphase2
  obtain ⟨hthere, -, hdisabled⟩ := locks_recovered Function.injective_id hreach hsettled 0
  exact ⟨s, hrun, (hthere _ hlock rfl).2, hdisabled hsince⟩

-- The service dies while a lock is being made, and the recipient is through before the lock is listed: the
-- client holds a lock that no service has.
example : ((system player).run {} [.start, .construct "player" 7 .screen RunningLock.displayIdAll true, .init 0 {} {},
    .die, .start, .resetProxy 1, .retry 1 true, .startRecovery 1, .recoverNext 1 true {}, .push 0]).map (fun s =>
      (s.up, s.phase 1, (s.locks 0).map (fun lock => lock.life), s.mgr.view? 0)) =
    some (true, .done, some .listed, none) := by decide

end PowerMgr.Clients.LockRecovery
