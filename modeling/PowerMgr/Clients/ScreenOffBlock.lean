import PowerMgr.Types
import PowerMgr.Clients.DeathRecipients

/-! # Screen-off blocks

Embedding of the filtering strategies (`power_mgr_service.cpp`) and of the blocks that they register
(`power_state_machine.cpp`).  A client that filters a kind of screen-off request registers its
token for that kind; each kind has one slot.  Each call, filtering or not, also adds a function to
the death recipients of the client, which empties the slot of the kind.

* `Service` — the slots, and the manager of the death recipients;
* `RemovesOwn` — a death empties no slot of another client;
* `blocks_live_with_owners` — no slot is held by a dead client, and exactly when a death empties no
  slot of another one.

A client calls while it lives; tokens of the process of the service are no proxies and do not die.
-/

namespace PowerMgr.Clients.ScreenOffBlock

open Clients.DeathRecipients (RemoteObject CBInfo Manager Invocation)
open Std (TreeMap)

/-- `ScreenOffBlockType`, less `NONE`, for which nothing is registered. -/
inductive ScreenOffBlockType where
  | powerKey
  | lid
  | suspendDeviceInterface
  deriving DecidableEq, Repr

inductive PowerKeyFilteringStrategy where
  | disableLongPressFiltering
  | longPressFilteringOnce
  | powerKeyUpShortPressFiltering
  | powerKeyUpShortPressNotFiltering
  -- a value from `STRATEGY_MAX` on
  | outOfRange
  deriving DecidableEq, Repr

/-- `LidFilteringStrategy` and `InterfaceCallFilteringStrategy`. -/
inductive BlockStrategy where
  | notFiltering
  | filtering
  | outOfRange
  deriving DecidableEq, Repr

/-- Who calls: its permissions, its process and its token. -/
structure Caller where
  isSystem : Bool := true
  hasPermission : Bool := true
  pid : Int := 0
  uid : Int := 0
  token : RemoteObject

/-- `__func__` of the setter of a kind. -/
def ScreenOffBlockType.funcName : ScreenOffBlockType → String
  | .powerKey => "SetPowerKeyFilteringStrategy"
  | .lid => "SetLidFilteringStrategy"
  | .suspendDeviceInterface => "SetInterfaceCallFilteringStrategy"

/-! ## The service -/

/-- A function that was added for a death is known by the kind whose slot it empties. -/
structure Service where
  manager : Manager ScreenOffBlockType := {}
  screenOffBlockMap : ScreenOffBlockType → Option RemoteObject := fun _ => none
  shutdownDialogForbid : Bool := false

namespace Service

/-- `UpdateScreenOffBlock`. -/
def updateScreenOffBlock (s : Service) (kind : ScreenOffBlockType) (token : RemoteObject) : Service :=
  { s with screenOffBlockMap := Function.update s.screenOffBlockMap kind (some token) }

/-- `RemoveScreenOffBlock`. -/
def removeScreenOffBlock (s : Service) (kind : ScreenOffBlockType) : Service :=
  { s with screenOffBlockMap := Function.update s.screenOffBlockMap kind none }

/-- `IsScreenOffBlocked`. -/
def isScreenOffBlocked (s : Service) (kind : ScreenOffBlockType) : Bool :=
  (s.screenOffBlockMap kind).isSome

def addDeathRecipient (s : Service) (kind : ScreenOffBlockType) (caller : Caller) : Service :=
  { s with
    manager := s.manager.addInfo (some caller.token)
      { func := some kind, funcName := kind.funcName, pid := caller.pid, uid := caller.uid } }

/-- The permissions that each of the setters asks for. -/
def denied (caller : Caller) : Option PowerErrors :=
  if !caller.isSystem then some .systemApiDenied
  else if !caller.hasPermission then some .permissionDenied
  else none

def setPowerKeyFilteringStrategy (s : Service) (strategy : PowerKeyFilteringStrategy) (caller : Caller) :
    Service × PowerErrors :=
  match denied caller with
  | some error => (s, error)
  | none =>
    match strategy with
    | .disableLongPressFiltering => ({ s with shutdownDialogForbid := false }, .ok)
    | .longPressFilteringOnce => ({ s with shutdownDialogForbid := true }, .ok)
    | .powerKeyUpShortPressFiltering =>
      ((s.updateScreenOffBlock .powerKey caller.token).addDeathRecipient .powerKey caller, .ok)
    | .powerKeyUpShortPressNotFiltering =>
      ((s.removeScreenOffBlock .powerKey).addDeathRecipient .powerKey caller, .ok)
    | .outOfRange => (s, .ok)

/-- The body that the other two setters share. -/
def setBlockStrategy (kind : ScreenOffBlockType) (s : Service) (strategy : BlockStrategy) (caller : Caller) :
    Service × PowerErrors :=
  match denied caller with
  | some error => (s, error)
  | none =>
    match strategy with
    | .outOfRange => (s, .paramInvalid)
    | .filtering => ((s.updateScreenOffBlock kind caller.token).addDeathRecipient kind caller, .ok)
    | .notFiltering => ((s.removeScreenOffBlock kind).addDeathRecipient kind caller, .ok)

def setLidFilteringStrategy : Service → BlockStrategy → Caller → Service × PowerErrors :=
  setBlockStrategy .lid

def setInterfaceCallFilteringStrategy : Service → BlockStrategy → Caller → Service × PowerErrors :=
  setBlockStrategy .suspendDeviceInterface

def removedBy : Invocation ScreenOffBlockType → Option ScreenOffBlockType
  | .func _ _ kind => some kind
  | .recipient _ _ => none

/-- The client of a token dies: the functions that the manager calls empty the slots of their
kinds, whoever registered there. -/
def onRemoteDied (s : Service) (token : RemoteObject) : Service :=
  ((s.manager.notifyDeath token).2.filterMap removedBy).foldl removeScreenOffBlock
    { s with manager := (s.manager.notifyDeath token).1 }

end Service

/-! ## Runs -/

/-- `called` holds the kinds a client has registered or removed a block of. -/
structure State where
  service : Service := {}
  dead : RemoteObject → Bool := fun _ => false
  called : RemoteObject → List ScreenOffBlockType := fun _ => []

inductive Event where
  | setPowerKey (strategy : PowerKeyFilteringStrategy) (caller : Caller)
  | setLid (strategy : BlockStrategy) (caller : Caller)
  | setInterfaceCall (strategy : BlockStrategy) (caller : Caller)
  | die (token : RemoteObject)

def State.note (s : State) (caller : Caller) (kind : ScreenOffBlockType) : State :=
  { s with called := Function.update s.called caller.token (kind :: s.called caller.token) }

def PowerKeyFilteringStrategy.blocks : PowerKeyFilteringStrategy → Bool
  | .powerKeyUpShortPressFiltering | .powerKeyUpShortPressNotFiltering => true
  | _ => false

/-- The call gets as far as the slot of its kind. -/
def Event.touches? : Event → Option (Caller × ScreenOffBlockType)
  | .setPowerKey strategy caller =>
    if (Service.denied caller).isNone ∧ strategy.blocks then some (caller, .powerKey) else none
  | .setLid strategy caller =>
    if (Service.denied caller).isNone ∧ strategy ≠ .outOfRange then some (caller, .lid) else none
  | .setInterfaceCall strategy caller =>
    if (Service.denied caller).isNone ∧ strategy ≠ .outOfRange then some (caller, .suspendDeviceInterface)
    else none
  | .die _ => none

def State.noteCall (s : State) (e : Event) : State :=
  match e.touches? with
  | some (caller, kind) => s.note caller kind
  | none => s

def next (s : State) (e : Event) : Option State :=
  match e with
  | .setPowerKey strategy caller =>
    if s.dead caller.token then none
    else some { s.noteCall e with service := (s.service.setPowerKeyFilteringStrategy strategy caller).1 }
  | .setLid strategy caller =>
    if s.dead caller.token then none
    else some { s.noteCall e with service := (s.service.setLidFilteringStrategy strategy caller).1 }
  | .setInterfaceCall strategy caller =>
    if s.dead caller.token then none
    else some { s.noteCall e with service := (s.service.setInterfaceCallFilteringStrategy strategy caller).1 }
  | .die token =>
    if s.dead token ∨ !token.isProxyObject then none
    else some { s with service := s.service.onRemoteDied token, dead := Function.update s.dead token true }

def system : Lib.System State Event where
  init s := s = {}
  next := next

/-- The slots that a death empties held the token of the client that died. -/
def RemovesOwn (s s' : State) (token : RemoteObject) : Prop :=
  ∀ kind owner, s.service.screenOffBlockMap kind = some owner → s'.service.screenOffBlockMap kind = none →
    owner = token

/-- No other client holds a slot of a kind that this one has called for. -/
def OwnsWhatItCalled (s : State) (token : RemoteObject) : Prop :=
  ∀ kind ∈ s.called token, ∀ owner, s.service.screenOffBlockMap kind = some owner → owner = token

/-- The functions that are stored for a live client are those of the kinds it has called for, and
the owner of a slot is alive and has called for it. -/
structure Inv (s : State) : Prop where
  kept : ∀ token : RemoteObject, token.isProxyObject = true → s.dead token = false →
    DeathRecipients.Kept s.service.manager ((s.called token).map ScreenOffBlockType.funcName) [] token
  stored : ∀ token : RemoteObject, token.isProxyObject = true → s.dead token = false →
    ∀ infos, s.service.manager.clientDeathRecipientMap token = some infos →
      ∀ (name : String) (info : CBInfo ScreenOffBlockType), infos[name]? = some info →
        ∃ kind ∈ s.called token, name = kind.funcName ∧ info.func = some kind
  owned : ∀ kind token, s.service.screenOffBlockMap kind = some token →
    s.dead token = false ∧ kind ∈ s.called token

/-! ## What a step does -/

theorem funcName_injective : Function.Injective ScreenOffBlockType.funcName := by
  intro kind kind' h
  cases kind <;> cases kind' <;> first | rfl | exact absurd h (by decide)

/-- A call that reaches a slot: the slot is given to the caller or emptied, and the removal of the
kind is added to the death recipients of the caller. -/
structure Touched (s s' : State) (caller : Caller) (kind : ScreenOffBlockType) (owner : Option RemoteObject) :
    Prop where
  live : s.dead caller.token = false
  taken : owner = none ∨ owner = some caller.token
  manager : s'.service.manager = s.service.manager.addInfo (some caller.token)
    { func := some kind, funcName := kind.funcName, pid := caller.pid, uid := caller.uid }
  slots : s'.service.screenOffBlockMap = Function.update s.service.screenOffBlockMap kind owner
  dead : s'.dead = s.dead
  called : s'.called = Function.update s.called caller.token (kind :: s.called caller.token)

/-- A call that does not. -/
structure Untouched (s s' : State) : Prop where
  manager : s'.service.manager = s.service.manager
  slots : s'.service.screenOffBlockMap = s.service.screenOffBlockMap
  dead : s'.dead = s.dead
  called : s'.called = s.called

theorem next_die {s s' : State} {token : RemoteObject} (h : next s (.die token) = some s') :
    s.dead token = false ∧ token.isProxyObject = true ∧
      s' = { s with service := s.service.onRemoteDied token, dead := Function.update s.dead token true } := by
  simp only [next] at h
  split at h
  · cases h
  · cases h
    simp_all

theorem setBlockStrategy_cases (s s' : State) (strategy : BlockStrategy) (caller : Caller)
    (kind : ScreenOffBlockType) (hlive : s.dead caller.token = false)
    (hservice : s'.service = (Service.setBlockStrategy kind s.service strategy caller).1)
    (hcalled : s'.called = if (Service.denied caller).isNone ∧ strategy ≠ .outOfRange then
      Function.update s.called caller.token (kind :: s.called caller.token) else s.called)
    (hdead : s'.dead = s.dead) :
    (∃ owner, Touched s s' caller kind owner) ∨ Untouched s s' := by
  cases hdenied : Service.denied caller with
  | some error =>
    right
    constructor <;> simp [hservice, hcalled, hdead, hdenied, Service.setBlockStrategy]
  | none =>
    cases strategy with
    | outOfRange =>
      right
      constructor <;> simp [hservice, hcalled, hdead, hdenied, Service.setBlockStrategy]
    | filtering =>
      left
      refine ⟨some caller.token, hlive, .inr rfl, ?_, ?_, hdead, ?_⟩ <;>
        simp [hservice, hcalled, hdenied, Service.setBlockStrategy, Service.addDeathRecipient,
          Service.updateScreenOffBlock]
    | notFiltering =>
      left
      refine ⟨none, hlive, .inl rfl, ?_, ?_, hdead, ?_⟩ <;>
        simp [hservice, hcalled, hdenied, Service.setBlockStrategy, Service.addDeathRecipient,
          Service.removeScreenOffBlock]

theorem setPowerKeyFilteringStrategy_cases (s s' : State) (strategy : PowerKeyFilteringStrategy) (caller : Caller)
    (hlive : s.dead caller.token = false)
    (hservice : s'.service = (s.service.setPowerKeyFilteringStrategy strategy caller).1)
    (hcalled : s'.called = if (Service.denied caller).isNone ∧ strategy.blocks then
      Function.update s.called caller.token (.powerKey :: s.called caller.token) else s.called)
    (hdead : s'.dead = s.dead) :
    (∃ owner, Touched s s' caller .powerKey owner) ∨ Untouched s s' := by
  cases hdenied : Service.denied caller with
  | some error =>
    right
    constructor <;> simp [hservice, hcalled, hdead, hdenied, Service.setPowerKeyFilteringStrategy]
  | none =>
    cases strategy with
    | disableLongPressFiltering | longPressFilteringOnce | outOfRange =>
      right
      constructor <;> simp [hservice, hcalled, hdead, hdenied, Service.setPowerKeyFilteringStrategy,
        PowerKeyFilteringStrategy.blocks]
    | powerKeyUpShortPressFiltering =>
      left
      refine ⟨some caller.token, hlive, .inr rfl, ?_, ?_, hdead, ?_⟩ <;>
        simp [hservice, hcalled, hdenied, Service.setPowerKeyFilteringStrategy, Service.addDeathRecipient,
          Service.updateScreenOffBlock, PowerKeyFilteringStrategy.blocks]
    | powerKeyUpShortPressNotFiltering =>
      left
      refine ⟨none, hlive, .inl rfl, ?_, ?_, hdead, ?_⟩ <;>
        simp [hservice, hcalled, hdenied, Service.setPowerKeyFilteringStrategy, Service.addDeathRecipient,
          Service.removeScreenOffBlock, PowerKeyFilteringStrategy.blocks]

/-- What a step does: a call reaches a slot or nothing, or a client dies. -/
theorem next_cases {s s' : State} {e : Event} (h : next s e = some s') :
    (∃ caller kind owner, Touched s s' caller kind owner) ∨ Untouched s s' ∨ ∃ token, e = .die token := by
  have hcall : ∀ caller kind, (∃ owner, Touched s s' caller kind owner) ∨ Untouched s s' →
      (∃ caller kind owner, Touched s s' caller kind owner) ∨ Untouched s s' ∨ ∃ token, e = .die token := by
    rintro caller kind (⟨owner, htouched⟩ | huntouched)
    · exact .inl ⟨caller, kind, owner, htouched⟩
    · exact .inr (.inl huntouched)
  cases e with
  | setPowerKey strategy caller =>
    simp only [next] at h
    split at h
    · cases h
    · cases h
      refine hcall caller .powerKey (setPowerKeyFilteringStrategy_cases s _ strategy caller
        (by simp_all) rfl ?_ ?_) <;>
      · simp only [State.noteCall, Event.touches?, State.note]
        split_ifs <;> rfl
  | setLid strategy caller =>
    simp only [next] at h
    split at h
    · cases h
    · cases h
      refine hcall caller .lid (setBlockStrategy_cases s _ strategy caller .lid (by simp_all) rfl ?_ ?_) <;>
      · simp only [State.noteCall, Event.touches?, State.note]
        split_ifs <;> rfl
  | setInterfaceCall strategy caller =>
    simp only [next] at h
    split at h
    · cases h
    · cases h
      refine hcall caller .suspendDeviceInterface
        (setBlockStrategy_cases s _ strategy caller .suspendDeviceInterface (by simp_all) rfl ?_ ?_) <;>
      · simp only [State.noteCall, Event.touches?, State.note]
        split_ifs <;> rfl
  | die token => exact .inr (.inr ⟨token, rfl⟩)

/-! ## A call -/

theorem mem_update_cons {called : RemoteObject → List ScreenOffBlockType} {token owner : RemoteObject}
    {kind kind' : ScreenOffBlockType} (hmem : kind ∈ called token) :
    kind ∈ Function.update called owner (kind' :: called owner) token := by
  by_cases heq : token = owner
  · subst heq
    simp [hmem]
  · simpa [heq] using hmem

theorem Inv.touched {s s' : State} (h : Inv s) {caller : Caller} {kind : ScreenOffBlockType}
    {owner : Option RemoteObject} (htouched : Touched s s' caller kind owner) : Inv s' where
  kept := by
    intro token hproxy hlive
    rw [htouched.dead] at hlive
    have hkept := h.kept token hproxy hlive
    rw [htouched.manager, htouched.called]
    by_cases heq : token = caller.token
    · subst heq
      simpa using hkept.addInfo _ hproxy (.inl rfl)
    · simpa [heq] using hkept.of_sameBut (DeathRecipients.sameBut_addInfo _ caller.token _) heq
  stored := by
    intro token hproxy hlive infos hentry name info hinfo
    rw [htouched.dead] at hlive
    rw [htouched.manager] at hentry
    rw [htouched.called]
    by_cases heq : token = caller.token
    · subst heq
      rw [DeathRecipients.clientDeathRecipientMap_addInfo _ _ _ hproxy, Option.some.injEq] at hentry
      rw [← hentry] at hinfo
      simp only [Function.update_self, List.mem_cons]
      obtain ⟨infos', hmap, hfound⟩ | ⟨hname, rfl, -⟩ := DeathRecipients.stored_of_insertInfo hinfo
      · obtain ⟨kind', hcalled, hname, hfunc⟩ := h.stored _ hproxy hlive infos' hmap name info hfound
        exact ⟨kind', .inr hcalled, hname, hfunc⟩
      · exact ⟨kind, .inl rfl, hname, rfl⟩
    · rw [(DeathRecipients.sameBut_addInfo _ caller.token _ token heq).1] at hentry
      simpa [heq] using h.stored token hproxy hlive infos hentry name info hinfo
  owned := by
    intro kind' token hslot
    rw [htouched.slots] at hslot
    rw [htouched.dead, htouched.called]
    by_cases heq : kind' = kind
    · subst heq
      rw [Function.update_self] at hslot
      obtain hnone | hsome := htouched.taken
      · rw [hnone] at hslot
        cases hslot
      · obtain rfl := Option.some.inj (hsome.symm.trans hslot)
        exact ⟨htouched.live, by simp⟩
    · rw [Function.update_of_ne heq] at hslot
      exact ⟨(h.owned kind' token hslot).1, mem_update_cons (h.owned kind' token hslot).2⟩

theorem Inv.untouched {s s' : State} (h : Inv s) (hsame : Untouched s s') : Inv s' where
  kept := by rw [hsame.manager, hsame.called, hsame.dead]; exact h.kept
  stored := by rw [hsame.manager, hsame.called, hsame.dead]; exact h.stored
  owned := by rw [hsame.slots, hsame.called, hsame.dead]; exact h.owned

/-! ## A death -/

@[simp] theorem screenOffBlockMap_foldl (kinds : List ScreenOffBlockType) (s : Service) (kind : ScreenOffBlockType) :
    (kinds.foldl Service.removeScreenOffBlock s).screenOffBlockMap kind =
      if kind ∈ kinds then none else s.screenOffBlockMap kind := by
  induction kinds generalizing s with
  | nil => simp
  | cons first rest ih =>
    rw [List.foldl_cons, ih]
    by_cases hrest : kind ∈ rest
    · simp [hrest]
    · by_cases hfirst : kind = first
      · simp [hfirst, Service.removeScreenOffBlock]
      · simp [hrest, hfirst, Service.removeScreenOffBlock]

@[simp] theorem manager_foldl (kinds : List ScreenOffBlockType) (s : Service) :
    (kinds.foldl Service.removeScreenOffBlock s).manager = s.manager := by
  induction kinds generalizing s with
  | nil => rfl
  | cons first rest ih => rw [List.foldl_cons, ih]; rfl

/-- The slots emptied by the death of a live client are those of the kinds it has called for. -/
theorem Inv.mem_removed {s : State} (h : Inv s) {token : RemoteObject} (hproxy : token.isProxyObject = true)
    (hlive : s.dead token = false) (kind : ScreenOffBlockType) :
    kind ∈ (s.service.manager.notifyDeath token).2.filterMap Service.removedBy ↔ kind ∈ s.called token := by
  have hkept := h.kept token hproxy hlive
  have hothers : ((s.service.manager.recipients token).map
      (Invocation.recipient token)).filterMap Service.removedBy = ([] : List ScreenOffBlockType) := by
    simp [List.filterMap_eq_nil_iff, Service.removedBy]
  cases hentry : s.service.manager.clientDeathRecipientMap token with
  | none =>
    have hwatched := hkept.watched
    rw [hentry, Option.isSome_none] at hwatched
    simp only [Manager.notifyDeath, hwatched, Bool.false_eq_true, if_false, hothers, List.not_mem_nil, false_iff]
    intro hcalled
    obtain ⟨infos, hsome, -⟩ := hkept.named _ (List.mem_map_of_mem hcalled)
    rw [hentry] at hsome
    cases hsome
  | some infos =>
    have hwatched := hkept.watched
    rw [hentry, Option.isSome_some] at hwatched
    simp only [Manager.notifyDeath, Manager.removeDeathRecipient, hwatched, if_true, hentry,
      List.filterMap_append, hothers, List.nil_append, Manager.calls, List.filterMap_filterMap]
    simp only [List.mem_filterMap, Option.bind_eq_some_iff, Option.map_eq_some_iff]
    constructor
    · rintro ⟨⟨name, info⟩, hmem, _, ⟨func, hfunc, rfl⟩, hkind⟩
      obtain ⟨kind', hcalled, -, hfunc'⟩ :=
        h.stored token hproxy hlive infos hentry name info (TreeMap.mem_toList_iff_getElem?_eq_some.mp hmem)
      obtain rfl := Option.some.inj (hfunc.symm.trans hfunc')
      cases hkind
      exact hcalled
    · intro hcalled
      obtain ⟨infos', hsome, hmem⟩ := hkept.named _ (List.mem_map_of_mem hcalled)
      obtain rfl := Option.some.inj (hentry.symm.trans hsome)
      obtain ⟨info, hinfo⟩ := Option.isSome_iff_exists.mp (TreeMap.mem_iff_isSome_getElem?.mp hmem)
      obtain ⟨kind', -, hname, hfunc⟩ := h.stored token hproxy hlive _ hentry _ _ hinfo
      -- the function under the name of a kind is that of the kind, since the names differ
      rw [← funcName_injective hname] at hfunc
      exact ⟨(kind.funcName, info), TreeMap.mem_toList_iff_getElem?_eq_some.mpr hinfo, _, ⟨kind, hfunc, rfl⟩, rfl⟩

theorem Inv.slot_after_death {s s' : State} (h : Inv s) {token : RemoteObject}
    (hdie : next s (.die token) = some s') (kind : ScreenOffBlockType) :
    s'.service.screenOffBlockMap kind =
      if kind ∈ s.called token then none else s.service.screenOffBlockMap kind := by
  obtain ⟨hlive, hproxy, rfl⟩ := next_die hdie
  simp only [Service.onRemoteDied, screenOffBlockMap_foldl, h.mem_removed hproxy hlive]

theorem Inv.die {s s' : State} (h : Inv s) {token : RemoteObject} (hdie : next s (.die token) = some s') :
    Inv s' := by
  have hslot := h.slot_after_death hdie
  obtain ⟨hlive, hproxy, rfl⟩ := next_die hdie
  have hmanager : (s.service.onRemoteDied token).manager = (s.service.manager.notifyDeath token).1 := by
    rw [Service.onRemoteDied, manager_foldl]
  have hother : ∀ token', Function.update s.dead token true token' = false → token' ≠ token ∧ s.dead token' = false := by
    intro token' hlive'
    by_cases heq : token' = token
    · simp [heq] at hlive'
    · exact ⟨heq, by simpa [heq] using hlive'⟩
  constructor
  · intro token' hproxy' hlive'
    obtain ⟨hne, hlive'⟩ := hother token' hlive'
    simp only [hmanager]
    exact (h.kept token' hproxy' hlive').of_sameBut (DeathRecipients.sameBut_notifyDeath _ token) hne
  · intro token' hproxy' hlive' infos hentry
    obtain ⟨hne, hlive'⟩ := hother token' hlive'
    simp only [hmanager, (DeathRecipients.sameBut_notifyDeath _ token token' hne).1] at hentry
    exact h.stored token' hproxy' hlive' infos hentry
  · intro kind owner hsome
    rw [hslot kind] at hsome
    split at hsome
    next => cases hsome
    next hcalled =>
      obtain ⟨howner, hmem⟩ := h.owned kind owner hsome
      -- the owner has called for the kind, so it is not the client that died
      have hne : owner ≠ token := fun heq => hcalled (heq ▸ hmem)
      exact ⟨by simpa [hne] using howner, hmem⟩

/-! ## Every run -/

theorem inv_init : Inv {} where
  kept token _ _ := by constructor <;> simp
  stored := by simp
  owned := by simp

theorem inv_step {s s' : State} {e : Event} (h : Inv s) (hnext : next s e = some s') : Inv s' := by
  obtain ⟨caller, kind, owner, htouched⟩ | huntouched | ⟨token, rfl⟩ := next_cases hnext
  · exact h.touched htouched
  · exact h.untouched huntouched
  · exact h.die hnext

theorem inv_of_reachable {s : State} (h : system.Reachable s) : Inv s := by
  refine h.invariant (I := Inv) ?_ ?_
  · intro s hs
    cases hs
    exact inv_init
  · intro s s' e hinv _ hnext
    exact inv_step hinv hnext

/-- No slot is held by a dead client, and a death empties only slots of the client that died exactly
when no other client holds a slot of a kind that this one has called for. -/
theorem blocks_live_with_owners {s : State} (hreach : system.Reachable s) :
    (∀ kind token, s.service.screenOffBlockMap kind = some token → s.dead token = false) ∧
      ∀ token s', next s (.die token) = some s' → (RemovesOwn s s' token ↔ OwnsWhatItCalled s token) := by
  have hinv := inv_of_reachable hreach
  refine ⟨fun kind token hslot => (hinv.owned kind token hslot).1, fun token s' hdie => ?_⟩
  constructor
  · intro hown kind hcalled owner hslot
    refine hown kind owner hslot ?_
    rw [hinv.slot_after_death hdie, if_pos hcalled]
  · intro hown kind owner hslot hemptied
    rw [hinv.slot_after_death hdie] at hemptied
    split at hemptied
    next hcalled => exact hown kind hcalled owner hslot
    next =>
      rw [hemptied] at hslot
      cases hslot

/-- A client filters the lid and dies, while another one filters the power key. -/
theorem blocks_live_with_owners_two : ∃ s s' : State, next s (.die { id := 1 }) = some s' ∧
    s.service.screenOffBlockMap .lid = some { id := 1 } ∧
    s.service.screenOffBlockMap .powerKey = some { id := 2 } ∧ RemovesOwn s s' { id := 1 } := by
  have hnew : system.Reachable {} := .init rfl
  have hlid := hnew.step (Event.setLid .filtering { token := { id := 1 } }) trivial rfl
  have hkey := hlid.step (Event.setPowerKey .powerKeyUpShortPressFiltering { token := { id := 2 } }) trivial rfl
  refine ⟨_, _, rfl, rfl, rfl, ((blocks_live_with_owners hkey).2 _ _ rfl).mpr ?_⟩
  intro kind hcalled owner hslot
  obtain rfl : kind = .lid := List.mem_singleton.mp hcalled
  exact (Option.some.inj hslot).symm

/-- A client that asks not to filter the lid, and dies while another one filters it, takes the block
of the other one with it. -/
theorem block_of_another_removed : ∃ s s' : State, system.Reachable s ∧ next s (.die { id := 1 }) = some s' ∧
    s.service.isScreenOffBlocked .lid = true ∧ ¬RemovesOwn s s' { id := 1 } := by
  have hnew : system.Reachable {} := .init rfl
  have hnot := hnew.step (Event.setLid .notFiltering { token := { id := 1 } }) trivial rfl
  have hlid := hnot.step (Event.setLid .filtering { token := { id := 2 } }) trivial rfl
  refine ⟨_, _, hlid, rfl, rfl, fun hown => ?_⟩
  have heq : ({ id := 2 } : RemoteObject) = { id := 1 } := hown .lid _ rfl rfl
  exact absurd heq (by decide)

end PowerMgr.Clients.ScreenOffBlock
