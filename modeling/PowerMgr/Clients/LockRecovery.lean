import PowerMgr.RunningLock.MultiScreen

/-! # Running locks across a restart of the service

A client keeps its `RunningLock` objects when the service dies.  The death recipient it left with the
service resets the proxy, waits for a new service and creates every lock that still exists there again.
The steps of this take turns with the client's own threads, which create, use and drop locks, and with
further deaths.

* `State`, `next` — one client and the incarnations of the service, step by step: `GetPowerMgrProxy`, the
  death recipients, `CreateRunningLock` and the destructor of a lock.
* `keeps_serviceStep` — what the calls of others leave of the registration of a token.
* `linked_next` — proxies, recipients and handlers agree in every state.
-/

namespace PowerMgr.Clients.LockRecovery

open RunningLock (Token RunningLockMgr RunningLockInfo RunningLockInner LockView ServiceCall Env)
open RunningLock.MultiScreen (Accounts Caller fillRunningLockParam)

/-! ## The client's locks -/

/-- What stays the same: the build, the process with its permissions, and the token objects it makes. -/
structure Client where
  cfg : RunningLock.Config := {}
  multiScreen : Bool := false
  caller : Caller
  token : Nat → Token
  -- `IsPermissionGranted` and `IsRunningLockTypeSupported` for this process.
  granted : RunningLockType → Bool := fun _ => true

/-- A lock of the client is being made, is made, is on the list, or its object is destroyed. -/
inductive Life where
  | constructed
  | created
  | listed
  | gone
  deriving DecidableEq, Repr

/-- `RunningLock`: `proxy` is the incarnation of the service that `proxy_` refers to. -/
structure ClientLock where
  info : RunningLockInfo
  proxy : Nat
  life : Life := .constructed
  deriving DecidableEq, Repr

def maxNameLen : Nat := 256

/-- The name `CreateRunningLock` gives a lock at a tick count. -/
def nameExt (name : String) (tick : Nat) : String :=
  String.ofList (name.toList.take maxNameLen) ++ "_" ++ toString tick

def connectRetryCount : Nat := 5

/-- Where `OnRemoteDied` is for the death of one incarnation.  `recovering` holds `runningLocksMutex_` and
has still to visit the locks of its list. -/
inductive Phase where
  | idle
  | noticed
  | waiting (retryCount : Nat)
  | connected
  | recovering (rest : List Nat)
  | done
  | gaveUp
  deriving DecidableEq, Repr

/-- The incarnations of the service are numbered; `mgr` belongs to the one that is `up`.  `recipient` and
`phase` are given for each of them. -/
structure State where
  epoch : Nat := 0
  up : Bool := false
  mgr : RunningLockMgr := {}
  proxy : Option Nat := none
  recipient : Nat → Bool := fun _ => false
  phase : Nat → Phase := fun _ => .idle
  runningLocksMutex : Option Nat := none
  made : Nat := 0
  locks : Nat → Option ClientLock := fun _ => none
  runningLocks : List Nat := []
  -- The client called `Lock` on it since the service started.
  lockedSince : Nat → Bool := fun _ => false

/-- Calls that go through the lock's own proxy. -/
inductive LockCall where
  | lock
  | unLock
  | updateWorkSource (workSources : Std.TreeMap Int String)

inductive Event where
  | die
  | start
  -- any call that asks for the proxy; the service may not have published itself yet
  | connect (found : Bool)
  | construct (name : String) (tick : Nat) (type : RunningLockType) (displayId : Nat) (found : Bool)
  | init (i : Nat) (accounts : Accounts) (env : Env)
  | push (i : Nat)
  | call (i : Nat) (lockCall : LockCall) (env : Env)
  | drop (i : Nat) (env : Env)
  | resetProxy (e : Nat)
  | retry (e : Nat) (found : Bool)
  | startRecovery (e : Nat)
  | recoverNext (e : Nat) (found : Bool) (accounts : Accounts)
  -- calls of other clients, and timers of the service
  | service (call : ServiceCall) (env : Env)

/-! ## Steps -/

section Steps

variable (c : Client)

/-- `PowerMgrClient::GetPowerMgrProxy`, under `mutex_`. -/
def getPowerMgrProxy (found : Bool) (s : State) : State × Option Nat :=
  match s.proxy with
  | some p => (s, some p)
  | none =>
    if s.up ∧ found then
      ({ s with proxy := some s.epoch, recipient := Function.update s.recipient s.epoch true }, some s.epoch)
    else (s, none)

/-- A call through a proxy arrives when its incarnation is the one that is up. -/
def State.reaches (s : State) (p : Nat) : Bool :=
  s.up && p = s.epoch

/-- `PowerMgrService::CreateRunningLock` for this client. -/
def create (accounts : Accounts) (i : Nat) (info : RunningLockInfo) (m : RunningLockMgr) : RunningLockMgr × Bool :=
  if c.granted info.type then
    (RunningLock.createRunningLock (c.token i)
      (fillRunningLockParam c.multiScreen accounts c.caller info (c.token i)) m, true)
  else (m, false)

def State.setLock (s : State) (i : Nat) (lock : ClientLock) : State :=
  { s with locks := Function.update s.locks i (some lock) }

/-- `RunningLock::~RunningLock`. -/
def destroy (env : Env) (i : Nat) (lock : ClientLock) (s : State) : State :=
  let s := s.setLock i { lock with life := .gone }
  if s.reaches lock.proxy then
    { s with mgr := RunningLock.releaseLock c.cfg env (c.token i) lock.info.name s.mgr }
  else s

/-- `RunningLock::Create` through the lock's proxy. -/
def createThrough (accounts : Accounts) (i : Nat) (lock : ClientLock) (s : State) : State × Bool :=
  if s.reaches lock.proxy then
    let (mgr, success) := create c accounts i lock.info s.mgr
    ({ s with mgr := mgr }, success)
  else (s, false)

def lockStep (i : Nat) (env : Env) (name : String) (m : RunningLockMgr) : LockCall → RunningLockMgr
  | .lock => (RunningLock.lock c.cfg env (c.token i) m).1
  | .unLock => (RunningLock.unLock c.cfg env (c.token i) name m).1
  | .updateWorkSource workSources => RunningLock.updateWorkSource c.cfg env (c.token i) workSources m

/-- One iteration of `RecoverRunningLocks`; it returns when there is no proxy. -/
def recoverLock (e i : Nat) (rest : List Nat) (found : Bool) (accounts : Accounts) (s : State) : State :=
  match s.locks i with
  | some lock =>
    if lock.life = .gone then { s with phase := Function.update s.phase e (.recovering rest) }
    else
      match getPowerMgrProxy found s with
      | (s, none) => { s with phase := Function.update s.phase e .done, runningLocksMutex := none }
      | (s, some p) =>
        let lock := { lock with proxy := p }
        let s := (createThrough c accounts i lock (s.setLock i lock)).1
        { s with phase := Function.update s.phase e (.recovering rest) }
  | none => { s with phase := Function.update s.phase e (.recovering rest) }

def next (s : State) : Event → Option State
  -- the service; a recipient is told the death of its incarnation
  | .die =>
    if s.up then
      some { s with
        up := false
        mgr := {}
        phase := if s.recipient s.epoch then Function.update s.phase s.epoch .noticed else s.phase }
    else none
  | .start =>
    if s.up then none
    else some { s with up := true, epoch := s.epoch + 1, mgr := {}, lockedSince := fun _ => false }
  | .connect found => some (getPowerMgrProxy found s).1
  -- `CreateRunningLock` of the client
  | .construct name tick type displayId found =>
    match getPowerMgrProxy found s with
    | (s, none) => some s
    | (s, some p) =>
      let info : RunningLockInfo :=
        { name := nameExt name tick, bundleName := "", type := type, pid := 0, uid := 0, displayId := displayId }
      some { s.setLock s.made { info := info, proxy := p } with made := s.made + 1 }
  | .init i accounts env =>
    match s.locks i with
    | some lock =>
      if lock.life = .constructed then
        match createThrough c accounts i lock s with
        | (s, true) => some (s.setLock i { lock with life := .created })
        | (s, false) => some (destroy c env i lock s)
      else none
    | none => none
  | .push i =>
    match s.locks i with
    | some lock =>
      if lock.life = .created ∧ s.runningLocksMutex = none then
        some { s.setLock i { lock with life := .listed } with runningLocks := s.runningLocks ++ [i] }
      else none
    | none => none
  -- the owner of a lock uses it and drops it
  | .call i lockCall env =>
    match s.locks i with
    | some lock =>
      if lock.life = .listed then
        if s.reaches lock.proxy then
          some { s with
            mgr := lockStep c i env lock.info.name s.mgr lockCall
            lockedSince := match lockCall with
              | .lock => Function.update s.lockedSince i true
              | _ => s.lockedSince }
        else some s
      else none
    | none => none
  | .drop i env =>
    match s.locks i with
    | some lock => if lock.life = .listed then some (destroy c env i lock s) else none
    | none => none
  -- `OnRemoteDied` for incarnation `e`
  | .resetProxy e =>
    if s.phase e = .noticed then
      some { s with
        proxy := if s.proxy = some e then none else s.proxy
        phase := Function.update s.phase e (.waiting 0) }
    else none
  | .retry e found =>
    match s.phase e with
    | .waiting retryCount =>
      if retryCount < connectRetryCount then
        match getPowerMgrProxy found s with
        | (s, some _) => some { s with phase := Function.update s.phase e .connected }
        | (s, none) => some { s with phase := Function.update s.phase e (.waiting (retryCount + 1)) }
      else some { s with phase := Function.update s.phase e .gaveUp }
    | _ => none
  | .startRecovery e =>
    if s.phase e = .connected ∧ s.runningLocksMutex = none then
      some { s with
        runningLocksMutex := some e
        phase := Function.update s.phase e (.recovering s.runningLocks) }
    else none
  | .recoverNext e found accounts =>
    match s.phase e with
    | .recovering (i :: rest) => some (recoverLock c e i rest found accounts s)
    | .recovering [] => some { s with phase := Function.update s.phase e .done, runningLocksMutex := none }
    | _ => none
  | .service call env => some (if s.up then { s with mgr := RunningLock.serviceStep c.cfg s.mgr (call, env) } else s)

end Steps

def system (c : Client) : Lib.System State Event where
  init s := s = {}
  next := next c

/-! ## What a call does to the registration of a token -/

/-- What a registered lock keeps for as long as it is registered. -/
def label (view : LockView) : RunningLockType × String × String :=
  (view.type, view.ownerKey, view.name)

/-- A token keeps its registration, and its lock is not taken out of `DISABLE`. -/
structure Keeps (token : Token) (m m' : RunningLockMgr) : Prop where
  registration : (m'.view? token).map label = (m.view? token).map label
  disabled : (∀ view, m.view? token = some view → view.state = .disable) →
    ∀ view, m'.view? token = some view → view.state = .disable

section Keeps

variable {cfg : RunningLock.Config} {env : Env} {t u : Token} {m m' m'' : RunningLockMgr}

theorem Keeps.trans (h : Keeps t m m') (h' : Keeps t m' m'') : Keeps t m m'' where
  registration := h'.registration.trans h.registration
  disabled hdisabled := h'.disabled (h.disabled hdisabled)

theorem keeps_of_view?_eq (h : m'.view? t = m.view? t) : Keeps t m m' := by
  refine ⟨by rw [h], fun hdisabled view hview => ?_⟩
  rw [h] at hview
  exact hdisabled view hview

/-- One lock gets another state; it was not disabled, or it is now, or it is another lock. -/
theorem keeps_update {view : LockView} {state : RunningLock.RunningLockState} (hfound : m.view? u = some view)
    (hview : m'.view? = Function.update m.view? u (some { view with state := state }))
    (hstate : view.state ≠ .disable ∨ state = .disable ∨ u ≠ t) : Keeps t m m' := by
  by_cases hsame : t = u
  · subst hsame
    refine ⟨by rw [hview, Function.update_self, hfound]; rfl, fun hdisabled view' hview' => ?_⟩
    rw [hview, Function.update_self] at hview'
    cases hview'
    obtain hbefore | hafter | hne := hstate
    · exact absurd (hdisabled view hfound) hbefore
    · exact hafter
    · exact absurd rfl hne
  · exact keeps_of_view?_eq (by rw [hview, Function.update_of_ne hsame])

theorem keeps_lock (hne : u ≠ t) : Keeps t m (RunningLock.lock cfg env u m).1 := by
  obtain hsame | ⟨view, hfound, -, -, hview⟩ := RunningLock.lock_view? cfg env u m
  · exact keeps_of_view?_eq (congrFun hsame t)
  · exact keeps_update hfound hview (.inr (.inr hne))

theorem keeps_unLock (name : String) : Keeps t m (RunningLock.unLock cfg env u name m).1 := by
  obtain hsame | ⟨registered, lockInner, hfound, -, hview⟩ := RunningLock.unLock_view? cfg env u name m
  · exact keeps_of_view?_eq (congrFun hsame t)
  · exact keeps_update (m.view?_of_getElem? (RunningLockMgr.getElem?_of_findLock hfound)) hview (.inr (.inl rfl))

theorem keeps_proxyInner (bundleNames : String) (event : RunningLock.RunningLockEvent) :
    Keeps t m (RunningLock.proxyInner cfg env u bundleNames event m) := by
  cases hfound : m.view? u with
  | none =>
    rw [RunningLock.proxyInner_of_unregistered _ _ _ _ _ hfound]
    exact keeps_of_view?_eq rfl
  | some view =>
    cases event with
    | update => exact keeps_of_view?_eq (by rw [RunningLock.proxyInner_update_view?])
    | proxy =>
      by_cases hstate : view.state = .disable
      · rw [RunningLock.proxyInner_proxy_of_disable _ _ _ _ _ hfound hstate]
        exact keeps_of_view?_eq (by rw [RunningLockMgr.view?_setBundleName])
      · exact keeps_update hfound (RunningLock.proxyInner_proxy_view? _ _ _ _ _ hfound hstate) (.inl hstate)
    | unproxy =>
      by_cases hstate : view.state = .proxied
      · obtain ⟨state, -, hview⟩ := RunningLock.proxyInner_unproxy_view? cfg env u bundleNames m hfound hstate
        refine keeps_update hfound hview (.inl ?_)
        rw [hstate]
        exact RunningLock.RunningLockState.noConfusion
      · have hnot : ∀ other, m.view? u = some other → other.state ≠ .proxied := by
          intro other hother
          rw [hfound] at hother
          cases hother
          exact hstate
        obtain heq | heq := RunningLock.proxyInner_unproxy_of_not_proxied cfg env u bundleNames m hnot <;> rw [heq]
        · exact keeps_of_view?_eq rfl
        · exact keeps_of_view?_eq (by rw [RunningLockMgr.view?_setBundleName])

theorem keeps_keptByProxying (cfg : RunningLock.Config) (env : Env) (t : Token) (m : RunningLockMgr) :
    RunningLock.KeptByProxying cfg env (Keeps t m) where
  modifyEntry m' key token f h := h.trans (keeps_of_view?_eq (by rw [RunningLockMgr.view?_modifyEntry]))
  proxyInner m' token bundleNames event h := h.trans (keeps_proxyInner bundleNames event)

theorem keeps_refl (t : Token) (m : RunningLockMgr) : Keeps t m m :=
  keeps_of_view?_eq rfl

theorem keeps_createRunningLock (param : RunningLock.RunningLockParam) (hne : u ≠ t) :
    Keeps t m (RunningLock.createRunningLock u param m) :=
  keeps_of_view?_eq (by rw [RunningLock.createRunningLock_view?, Function.update_of_ne hne.symm])

theorem keeps_releaseLock (name : String) (hne : u ≠ t) :
    Keeps t m (RunningLock.releaseLock cfg env u name m) := by
  by_cases hfound : m.findLock u name = none
  · rw [RunningLock.releaseLock_of_not_found cfg env hfound]
    exact keeps_refl t m
  · have hunlocked : Keeps t m (RunningLock.unLock cfg env u "" m).1 := keeps_unLock ""
    apply hunlocked.trans
    apply keeps_of_view?_eq
    rw [RunningLock.releaseLock_view? cfg env hfound, Function.update_of_ne hne.symm]

theorem keeps_updateWorkSource (workSources : Std.TreeMap Int String) :
    Keeps t m (RunningLock.updateWorkSource cfg env u workSources m) :=
  (keeps_keptByProxying cfg env t m).updateWorkSource u workSources (keeps_refl t m)

end Keeps

/-- A call that neither creates, enables nor releases the lock of a token. -/
def Foreign (t : Token) : ServiceCall → Prop
  | .op (.createRunningLock u _) | .op (.lock u) | .op (.releaseLock u _) | .forceUnLock u => u ≠ t
  | .op _ => True

theorem keeps_serviceStep {cfg : RunningLock.Config} {env : Env} {t : Token} {m : RunningLockMgr}
    (call : ServiceCall) (hforeign : Foreign t call) : Keeps t m (RunningLock.serviceStep cfg m (call, env)) := by
  cases call with
  | forceUnLock u => exact (keeps_unLock "").trans (keeps_releaseLock "" hforeign)
  | op op =>
    cases op with
    | createRunningLock u param => exact keeps_createRunningLock param hforeign
    | lock u => exact keeps_lock hforeign
    | unLock u name => exact keeps_unLock name
    | releaseLock u name => exact keeps_releaseLock name hforeign
    | updateWorkSource u workSources => exact keeps_updateWorkSource workSources
    | proxyRunningLock isProxied pid uid =>
      exact (keeps_keptByProxying cfg env t m).proxyRunningLock isProxied pid uid (keeps_refl t m)
    | resetRunningLocks => exact (keeps_keptByProxying cfg env t m).resetRunningLocks (keeps_refl t m)
    | timerUnLock u => exact (keeps_updateWorkSource ∅).trans (keeps_unLock "")

/-! ## Proxies and death recipients -/

def Phase.isStuck : Phase → Bool
  | .waiting _ | .gaveUp => true
  | _ => false

def Phase.hasProxy : Phase → Bool
  | .connected | .recovering _ => true
  | _ => false

/-- The handler will still visit the lock, or has given up. -/
def Phase.isComing (i : Nat) : Phase → Bool
  | .noticed | .waiting _ | .connected | .gaveUp => true
  | .recovering rest => i ∈ rest
  | .idle | .done => false

theorem Phase.isComing_of_isStuck {phase : Phase} (h : phase.isStuck = true) (i : Nat) : phase.isComing i = true := by
  cases phase <;> first | rfl | cases h

/-- The proxy, the recipients left with the incarnations and the handlers of their deaths. -/
structure Linked (s : State) : Prop where
  recipient_le : ∀ e, s.recipient e = true → e ≤ s.epoch
  proxy : ∀ p, s.proxy = some p → s.recipient p = true
  current : ∀ e, s.recipient e = true → s.reaches e = true → s.proxy = some e
  -- A dead incarnation that had a recipient is being handled, a live one is not.
  handled : ∀ e, s.recipient e = true → s.reaches e = false → s.phase e ≠ .idle
  alive : ∀ e, s.reaches e = true → s.phase e = .idle
  future : ∀ e, s.epoch < e → s.phase e = .idle
  noticed : ∀ p, s.proxy = some p → s.reaches p = false → s.phase p = .noticed
  -- The proxy a handler found was reset by another one, which is not through.
  noProxy : s.proxy = none → ∀ e, (s.phase e).hasProxy = true → ∃ e', (s.phase e').isStuck = true
  mutex : ∀ e rest, s.phase e = .recovering rest → s.runningLocksMutex = some e

theorem reaches_eq_true {s : State} {p : Nat} : s.reaches p = true ↔ s.up = true ∧ p = s.epoch := by
  simp [State.reaches]

theorem getPowerMgrProxy_cases (found : Bool) (s : State) :
    getPowerMgrProxy found s = (s, s.proxy) ∨ s.proxy = none ∧ s.up = true ∧ getPowerMgrProxy found s =
      ({ s with proxy := some s.epoch, recipient := Function.update s.recipient s.epoch true }, some s.epoch) := by
  unfold getPowerMgrProxy
  split
  next p hproxy => exact .inl (by rw [hproxy])
  next hnone =>
    split
    next hfound => exact .inr ⟨hnone, hfound.1, rfl⟩
    next => exact .inl (by rw [hnone])

section Linked

variable {s : State}

theorem linked_getPowerMgrProxy (found : Bool) (h : Linked s) :
    Linked (getPowerMgrProxy found s).1 ∧ (getPowerMgrProxy found s).1.proxy = (getPowerMgrProxy found s).2 := by
  obtain heq | ⟨hnone, hup, heq⟩ := getPowerMgrProxy_cases found s <;> rw [heq]
  · exact ⟨h, rfl⟩
  · have hlive : s.reaches s.epoch = true := reaches_eq_true.mpr ⟨hup, rfl⟩
    have hbefore : ∀ e, Function.update s.recipient s.epoch true e = true → e = s.epoch ∨ s.recipient e = true :=
      fun e hrecipient => by
        obtain ⟨rfl, -⟩ | ⟨-, hold⟩ := Lib.update_cases hrecipient
        · exact .inl rfl
        · exact .inr hold
    refine ⟨⟨fun e hrecipient => ?_, fun p hproxy => ?_, fun e _ hreach => ?_, fun e hrecipient hdead => ?_, h.alive,
      h.future, fun p hproxy hdead => ?_, fun hproxy => ?_, h.mutex⟩, rfl⟩
    · obtain rfl | hold := hbefore e hrecipient
      · exact Nat.le_refl _
      · exact h.recipient_le e hold
    · cases hproxy
      exact Function.update_self ..
    · rw [(reaches_eq_true.mp hreach).2]
    · obtain rfl | hold := hbefore e hrecipient
      · have hreach : s.reaches s.epoch = false := hdead
        rw [hlive] at hreach
        cases hreach
      · exact h.handled e hold hdead
    · cases hproxy
      have hreach : s.reaches s.epoch = false := hdead
      rw [hlive] at hreach
      cases hreach
    · cases hproxy

/-- A step that leaves proxies, recipients and handlers alone. -/
theorem linked_congr {s' : State} (hepoch : s'.epoch = s.epoch) (hup : s'.up = s.up) (hproxy : s'.proxy = s.proxy)
    (hrecipient : s'.recipient = s.recipient) (hphase : s'.phase = s.phase)
    (hmutex : s'.runningLocksMutex = s.runningLocksMutex) (h : Linked s) : Linked s' := by
  cases s
  cases s'
  dsimp only at hepoch hup hproxy hrecipient hphase hmutex
  subst hepoch hup hproxy hrecipient hphase hmutex
  exact ⟨h.recipient_le, h.proxy, h.current, h.handled, h.alive, h.future, h.noticed, h.noProxy, h.mutex⟩

/-- A handler that has been told moves on. -/
theorem linked_setPhase {e : Nat} {phase : Phase} {mutex : Option Nat} (h : Linked s)
    (hold : s.phase e ≠ .idle ∧ s.phase e ≠ .noticed) (hnew : phase ≠ .idle)
    (hstuck : s.proxy = none → (s.phase e).isStuck = true → phase.isStuck = true)
    (hproxy : s.proxy = none → phase.hasProxy = true → (s.phase e).hasProxy = true)
    (hmutex : ∀ e' rest, Function.update s.phase e phase e' = .recovering rest → mutex = some e') :
    Linked { s with phase := Function.update s.phase e phase, runningLocksMutex := mutex } := by
  have hother : ∀ e', s.phase e' = .idle ∨ s.phase e' = .noticed →
      Function.update s.phase e phase e' = s.phase e' := by
    intro e' hcase
    apply Function.update_of_ne
    rintro rfl
    exact hcase.elim hold.1 hold.2
  refine ⟨h.recipient_le, h.proxy, h.current, fun e' hrecipient hdead hidle => ?_, fun e' hreach => ?_, fun e' hlt => ?_,
    fun p hp hdead => ?_, fun hnone e' hafter => ?_, hmutex⟩
  · obtain ⟨-, hphase⟩ | ⟨-, hphase⟩ := Lib.update_cases hidle
    · exact hnew hphase
    · exact h.handled e' hrecipient hdead hphase
  · have hidle := h.alive e' hreach
    exact (hother e' (.inl hidle)).trans hidle
  · have hidle := h.future e' hlt
    exact (hother e' (.inl hidle)).trans hidle
  · have hnoticed := h.noticed p hp hdead
    exact (hother p (.inr hnoticed)).trans hnoticed
  · change (Function.update s.phase e phase e').hasProxy = true at hafter
    have hbefore : ∃ e', (s.phase e').hasProxy = true := by
      by_cases hsame : e' = e
      · subst hsame
        rw [Function.update_self] at hafter
        exact ⟨e', hproxy hnone hafter⟩
      · rw [Function.update_of_ne hsame] at hafter
        exact ⟨e', hafter⟩
    obtain ⟨e1, hproxy1⟩ := hbefore
    obtain ⟨e2, hstuck2⟩ := h.noProxy hnone e1 hproxy1
    refine ⟨e2, ?_⟩
    change (Function.update s.phase e phase e2).isStuck = true
    by_cases hsame : e2 = e
    · subst hsame
      rw [Function.update_self]
      exact hstuck hnone hstuck2
    · rwa [Function.update_of_ne hsame]

/-- What the death of the service does to the handlers. -/
theorem phase_die (s : State) (e : Nat) :
    (if s.recipient s.epoch then Function.update s.phase s.epoch .noticed else s.phase) e = s.phase e ∧
      (e = s.epoch → s.recipient e = false) ∨
    e = s.epoch ∧ s.recipient e = true ∧
      (if s.recipient s.epoch then Function.update s.phase s.epoch .noticed else s.phase) e = .noticed := by
  by_cases hsame : e = s.epoch
  · subst hsame
    cases hrecipient : s.recipient s.epoch with
    | false => exact .inl ⟨by simp, fun _ => rfl⟩
    | true => exact .inr ⟨rfl, rfl, by simp⟩
  · refine .inl ⟨?_, fun heq => absurd heq hsame⟩
    split
    · exact Function.update_of_ne hsame ..
    · rfl

theorem linked_die {s' : State} {c : Client} (h : Linked s) (hnext : next c s .die = some s') : Linked s' := by
  simp only [next, Option.ite_none_right_eq_some, Option.some.injEq] at hnext
  obtain ⟨hup, rfl⟩ := hnext
  have hlive : s.phase s.epoch = .idle := h.alive s.epoch (reaches_eq_true.mpr ⟨hup, rfl⟩)
  have hdead : ∀ e, e ≠ s.epoch → s.reaches e = false := fun e hne => by
    simp [State.reaches, hne]
  have hbefore : ∀ p : Phase, p ≠ .noticed → ∀ e,
      (if s.recipient s.epoch then Function.update s.phase s.epoch .noticed else s.phase) e = p →
        s.phase e = p := by
    intro p hp e hphase
    obtain ⟨hsame, -⟩ | ⟨-, -, hnoticed⟩ := phase_die s e
    · rwa [hsame] at hphase
    · rw [hnoticed] at hphase
      exact absurd hphase.symm hp
  refine ⟨h.recipient_le, h.proxy, fun e _ hreach => ?_, fun e hrecipient _ => ?_, fun e hreach => ?_, fun e hlt => ?_,
    fun p hproxy _ => ?_, fun hnone e hafter => ?_, fun e rest hphase => ?_⟩
  · cases hreach
  · change (if s.recipient s.epoch then Function.update s.phase s.epoch .noticed else s.phase) e ≠ .idle
    intro hidle
    obtain ⟨hsame, hnot⟩ | ⟨-, -, hnoticed⟩ := phase_die s e
    · rw [hsame] at hidle
      by_cases he : e = s.epoch
      · rw [hnot he] at hrecipient
        cases hrecipient
      · exact h.handled e hrecipient (hdead e he) hidle
    · rw [hnoticed] at hidle
      cases hidle
  · cases hreach
  · obtain ⟨hsame, -⟩ | ⟨heq, -⟩ := phase_die s e
    · exact hsame.trans (h.future e hlt)
    · exact absurd heq (Nat.ne_of_gt hlt)
  · obtain ⟨hsame, hnot⟩ | ⟨-, -, hnoticed⟩ := phase_die s p
    · have hne : p ≠ s.epoch := fun heq => by
        have hrecipient := h.proxy p hproxy
        rw [hnot heq] at hrecipient
        cases hrecipient
      exact hsame.trans (h.noticed p hproxy (hdead p hne))
    · exact hnoticed
  · change ((if s.recipient s.epoch then Function.update s.phase s.epoch .noticed else s.phase) e).hasProxy = true
      at hafter
    obtain ⟨hsame, -⟩ | ⟨-, -, hnoticed⟩ := phase_die s e
    · rw [hsame] at hafter
      obtain ⟨e', hstuck⟩ := h.noProxy hnone e hafter
      have hne : e' ≠ s.epoch := by
        rintro rfl
        rw [hlive] at hstuck
        cases hstuck
      obtain ⟨hsame', -⟩ | ⟨heq, -⟩ := phase_die s e'
      · exact ⟨e', (congrArg Phase.isStuck hsame').trans hstuck⟩
      · exact absurd heq hne
    · rw [hnoticed] at hafter
      cases hafter
  · exact h.mutex e rest (hbefore _ Phase.noConfusion e hphase)

theorem linked_start {s' : State} {c : Client} (h : Linked s) (hnext : next c s .start = some s') : Linked s' := by
  simp only [next, Option.ite_none_left_eq_some, Option.some.injEq] at hnext
  obtain ⟨hdown, rfl⟩ := hnext
  have hdead : ∀ e, s.reaches e = false := fun e => by simp [State.reaches, hdown]
  refine ⟨fun e hrecipient => ?_, h.proxy, fun e hrecipient hreach => ?_, fun e hrecipient _ => ?_, fun e hreach => ?_,
    fun e hlt => ?_, fun p hproxy _ => h.noticed p hproxy (hdead p), h.noProxy, h.mutex⟩
  · exact Nat.le_succ_of_le (h.recipient_le e hrecipient)
  · have hle := h.recipient_le e hrecipient
    have heq : e = s.epoch + 1 := (reaches_eq_true.mp hreach).2
    omega
  · exact h.handled e hrecipient (hdead e)
  · have heq : e = s.epoch + 1 := (reaches_eq_true.mp hreach).2
    exact h.future e (by omega)
  · exact h.future e (Nat.lt_of_succ_lt hlt)

theorem linked_resetProxy {s' : State} {c : Client} {e : Nat} (h : Linked s)
    (hnext : next c s (.resetProxy e) = some s') : Linked s' := by
  simp only [next, Option.ite_none_right_eq_some, Option.some.injEq] at hnext
  obtain ⟨hphase, rfl⟩ := hnext
  have hother : ∀ e', e' ≠ e → Function.update s.phase e (.waiting 0) e' = s.phase e' := fun e' hne =>
    Function.update_of_ne hne ..
  have hidle : ∀ e', s.phase e' = .idle → e' ≠ e := by
    rintro e' hidle rfl
    rw [hphase] at hidle
    cases hidle
  have hproxy : ∀ p, (if s.proxy = some e then none else s.proxy) = some p → s.proxy = some p ∧ p ≠ e := by
    intro p hp
    obtain ⟨hne, hp⟩ := Option.ite_none_left_eq_some.mp hp
    exact ⟨hp, fun heq => hne (by rw [hp, heq])⟩
  refine ⟨h.recipient_le, fun p hp => h.proxy p (hproxy p hp).1, fun e' hrecipient hreach => ?_,
    fun e' hrecipient hdead => ?_, fun e' hreach => ?_, fun e' hlt => ?_, fun p hp hdead => ?_,
    fun _ _ _ => ⟨e, ?_⟩, fun e' rest hrest => ?_⟩
  · have hcurrent := h.current e' hrecipient hreach
    have hne := hidle e' (h.alive e' hreach)
    have hkept : ¬s.proxy = some e := by
      rw [hcurrent]
      exact fun heq => hne (Option.some.inj heq)
    exact (if_neg hkept).trans hcurrent
  · change Function.update s.phase e (.waiting 0) e' ≠ .idle
    by_cases hsame : e' = e
    · rw [hsame, Function.update_self]
      exact Phase.noConfusion
    · rw [hother e' hsame]
      exact h.handled e' hrecipient hdead
  · exact (hother e' (hidle e' (h.alive e' hreach))).trans (h.alive e' hreach)
  · exact (hother e' (hidle e' (h.future e' hlt))).trans (h.future e' hlt)
  · obtain ⟨hp, hne⟩ := hproxy p hp
    exact (hother p hne).trans (h.noticed p hp hdead)
  · change (Function.update s.phase e (.waiting 0) e).isStuck = true
    rw [Function.update_self]
    rfl
  · obtain ⟨-, hnew⟩ | ⟨-, hold⟩ := Lib.update_cases hrest
    · cases hnew
    · exact h.mutex e' rest hold

theorem linked_retry {s' : State} {c : Client} {e : Nat} {found : Bool} (h : Linked s)
    (hnext : next c s (.retry e found) = some s') : Linked s' := by
  simp only [next] at hnext
  split at hnext
  next retryCount hphase =>
    have hmutex : ∀ {s1 : State} {phase : Phase}, Linked s1 → s1.phase = s.phase → (∀ rest, phase ≠ .recovering rest) →
        ∀ e' rest, Function.update s1.phase e phase e' = .recovering rest → s1.runningLocksMutex = some e' := by
      intro s1 phase h1 _ hnot e' rest hrest
      obtain ⟨-, hnew⟩ | ⟨-, hold⟩ := Lib.update_cases hrest
      · exact absurd hnew (hnot rest)
      · exact h1.mutex e' rest hold
    obtain ⟨h1, hproxy1⟩ := linked_getPowerMgrProxy found h
    have hphase1 : (getPowerMgrProxy found s).1.phase = s.phase := by
      obtain heq | ⟨-, -, heq⟩ := getPowerMgrProxy_cases found s <;> rw [heq]
    have hwaiting : (getPowerMgrProxy found s).1.phase e = .waiting retryCount := by rw [hphase1, hphase]
    split at hnext
    · split at hnext
      next s1 p hget =>
        rw [hget] at h1 hproxy1 hphase1 hwaiting
        cases hnext
        refine linked_setPhase h1 ?_ Phase.noConfusion (fun hnone => ?_) (fun hnone => ?_)
          (hmutex h1 hphase1 fun _ => Phase.noConfusion)
        · rw [hwaiting]
          exact ⟨Phase.noConfusion, Phase.noConfusion⟩
        all_goals
          rw [hproxy1] at hnone
          cases hnone
      next s1 hget =>
        rw [hget] at h1 hproxy1 hphase1 hwaiting
        cases hnext
        refine linked_setPhase h1 ?_ Phase.noConfusion (fun _ _ => rfl) (fun _ hafter => Bool.noConfusion hafter)
          (hmutex h1 hphase1 fun _ => Phase.noConfusion)
        rw [hwaiting]
        exact ⟨Phase.noConfusion, Phase.noConfusion⟩
    · cases hnext
      refine linked_setPhase h ?_ Phase.noConfusion (fun _ _ => rfl) (fun _ hafter => Bool.noConfusion hafter)
        (hmutex h rfl fun _ => Phase.noConfusion)
      rw [hphase]
      exact ⟨Phase.noConfusion, Phase.noConfusion⟩
  next => cases hnext

theorem linked_startRecovery {s' : State} {c : Client} {e : Nat} (h : Linked s)
    (hnext : next c s (.startRecovery e) = some s') : Linked s' := by
  simp only [next, Option.ite_none_right_eq_some, Option.some.injEq] at hnext
  obtain ⟨⟨hphase, hmutex⟩, rfl⟩ := hnext
  refine linked_setPhase h ?_ Phase.noConfusion (fun _ hstuck => ?_) (fun _ _ => ?_) fun e' rest hrest => ?_
  · rw [hphase]
    exact ⟨Phase.noConfusion, Phase.noConfusion⟩
  · rw [hphase] at hstuck
    cases hstuck
  · rw [hphase]
    rfl
  · obtain ⟨rfl, -⟩ | ⟨-, hold⟩ := Lib.update_cases hrest
    · rfl
    · have hheld := h.mutex e' rest hold
      rw [hmutex] at hheld
      cases hheld

/-- The end of a recovery: nobody else holds `runningLocksMutex_`. -/
theorem linked_finish {e : Nat} {rest : List Nat} (h : Linked s) (hphase : s.phase e = .recovering rest) :
    Linked { s with phase := Function.update s.phase e .done, runningLocksMutex := none } := by
  refine linked_setPhase h ?_ Phase.noConfusion (fun _ hstuck => ?_) (fun _ hafter => Bool.noConfusion hafter)
    fun e' rest' hrest => ?_
  · rw [hphase]
    exact ⟨Phase.noConfusion, Phase.noConfusion⟩
  · rw [hphase] at hstuck
    cases hstuck
  · obtain ⟨-, hnew⟩ | ⟨hne, hold⟩ := Lib.update_cases hrest
    · cases hnew
    · have hheld := h.mutex e' rest' hold
      rw [h.mutex e rest hphase] at hheld
      exact absurd (Option.some.inj hheld).symm hne

/-- A recovery goes on to the next lock. -/
theorem linked_advance {e : Nat} {rest rest' : List Nat} (h : Linked s) (hphase : s.phase e = .recovering rest) :
    Linked { s with phase := Function.update s.phase e (.recovering rest') } := by
  refine linked_setPhase h ?_ Phase.noConfusion (fun _ hstuck => ?_) (fun _ _ => ?_) fun e' rest'' hrest => ?_
  · rw [hphase]
    exact ⟨Phase.noConfusion, Phase.noConfusion⟩
  · rw [hphase] at hstuck
    cases hstuck
  · rw [hphase]
    rfl
  · obtain ⟨rfl, -⟩ | ⟨-, hold⟩ := Lib.update_cases hrest
    · exact h.mutex e' rest hphase
    · exact h.mutex e' rest'' hold

/-- `Create` changes the tables of the service and nothing else. -/
theorem createThrough_eq (c : Client) (accounts : Accounts) (i : Nat) (lock : ClientLock) (s : State) :
    ∃ mgr, (createThrough c accounts i lock s).1 = { s with mgr := mgr } := by
  unfold createThrough
  split
  · exact ⟨_, rfl⟩
  · exact ⟨s.mgr, rfl⟩

theorem destroy_eq (c : Client) (env : Env) (i : Nat) (lock : ClientLock) (s : State) :
    ∃ mgr, destroy c env i lock s =
      { s with mgr := mgr, locks := Function.update s.locks i (some { lock with life := .gone }) } := by
  simp only [destroy]
  split
  · exact ⟨_, rfl⟩
  · exact ⟨s.mgr, rfl⟩

theorem linked_recoverNext {s' : State} {c : Client} {e : Nat} {found : Bool} {accounts : Accounts} (h : Linked s)
    (hnext : next c s (.recoverNext e found accounts) = some s') : Linked s' := by
  simp only [next] at hnext
  split at hnext
  next i rest hphase =>
    cases hnext
    obtain ⟨h1, -⟩ := linked_getPowerMgrProxy found h
    have hphase1 : (getPowerMgrProxy found s).1.phase e = .recovering (i :: rest) := by
      obtain heq | ⟨-, -, heq⟩ := getPowerMgrProxy_cases found s <;> rw [heq] <;> exact hphase
    unfold recoverLock
    split
    · split
      · exact linked_advance h hphase
      · split
        next s1 hget =>
          rw [hget] at h1 hphase1
          exact linked_finish h1 hphase1
        next s1 p hget =>
          rw [hget] at h1 hphase1
          dsimp only
          obtain ⟨mgr, heq⟩ := createThrough_eq c accounts i _ (s1.setLock i _)
          rw [heq]
          refine linked_advance (s := { s1.setLock i _ with mgr := mgr }) ?_ hphase1
          exact linked_congr (s := s1) rfl rfl rfl rfl rfl rfl h1
    · exact linked_advance h hphase
  next hphase =>
    cases hnext
    exact linked_finish h hphase
  next => cases hnext

theorem linked_next {s' : State} {c : Client} {event : Event} (h : Linked s) (hnext : next c s event = some s') :
    Linked s' := by
  cases event with
  | die => exact linked_die h hnext
  | start => exact linked_start h hnext
  | connect found =>
    cases hnext
    exact (linked_getPowerMgrProxy found h).1
  | construct name tick type displayId found =>
    obtain ⟨h1, -⟩ := linked_getPowerMgrProxy found h
    simp only [next] at hnext
    split at hnext
    next s1 hget =>
      rw [hget] at h1
      cases hnext
      exact h1
    next s1 p hget =>
      rw [hget] at h1
      cases hnext
      exact linked_congr (s := s1) rfl rfl rfl rfl rfl rfl h1
  | init i accounts env =>
    simp only [next] at hnext
    split at hnext
    next lock hlock =>
      split at hnext
      · obtain ⟨mgr, heq⟩ := createThrough_eq c accounts i lock s
        split at hnext
        next s1 hcreate =>
          rw [hcreate] at heq
          dsimp only at heq
          subst heq
          cases hnext
          exact linked_congr (s := s) rfl rfl rfl rfl rfl rfl h
        next s1 hcreate =>
          rw [hcreate] at heq
          dsimp only at heq
          subst heq
          cases hnext
          obtain ⟨mgr', heq'⟩ := destroy_eq c env i lock { s with mgr := mgr }
          rw [heq']
          exact linked_congr (s := s) rfl rfl rfl rfl rfl rfl h
      · cases hnext
    next => cases hnext
  | push i =>
    simp only [next] at hnext
    split at hnext
    · simp only [Option.ite_none_right_eq_some, Option.some.injEq] at hnext
      obtain ⟨-, rfl⟩ := hnext
      exact linked_congr (s := s) rfl rfl rfl rfl rfl rfl h
    · cases hnext
  | call i lockCall env =>
    simp only [next] at hnext
    split at hnext
    · split at hnext
      · split at hnext
        · cases hnext
          exact linked_congr (s := s) rfl rfl rfl rfl rfl rfl h
        · cases hnext
          exact h
      · cases hnext
    · cases hnext
  | drop i env =>
    simp only [next] at hnext
    split at hnext
    next lock hlock =>
      simp only [Option.ite_none_right_eq_some, Option.some.injEq] at hnext
      obtain ⟨-, rfl⟩ := hnext
      obtain ⟨mgr, heq⟩ := destroy_eq c env i lock s
      rw [heq]
      exact linked_congr (s := s) rfl rfl rfl rfl rfl rfl h
    · cases hnext
  | resetProxy e => exact linked_resetProxy h hnext
  | retry e found => exact linked_retry h hnext
  | startRecovery e => exact linked_startRecovery h hnext
  | recoverNext e found accounts => exact linked_recoverNext h hnext
  | service call env =>
    simp only [next, Option.some.injEq] at hnext
    subst hnext
    split
    · exact linked_congr (s := s) rfl rfl rfl rfl rfl rfl h
    · exact h

end Linked

end PowerMgr.Clients.LockRecovery
