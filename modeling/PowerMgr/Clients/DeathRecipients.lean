import PowerMgr.Lib.System
import PowerMgr.Lib.TreeMap
import Mathlib.Logic.Function.Basic

/-! # Death recipients

Embedding of `DeathRecipientManager` (`death_recipient_manager.cpp`).  The manager watches remote
objects; when one dies, it calls the functions that were added for that object.  A recipient may
also be added as such, and is then attached to the object beside the manager.

* `Manager` — the map of the manager, and what it has attached at the IPC layer;
* `State` — the manager beside what was added for each object, and what was invoked;
* `FiresOnce` — a death invokes what was added for the object, once, and nothing else;
* `death_fires_once` — the runs in which every death does so.

The IPC layer notifies each recipient attached to an object once, when it dies.  An object dies
once, so what is attached to a dead one is never notified.
-/

namespace PowerMgr.Clients.DeathRecipients

open Std (TreeMap)

/-- A remote object; only a proxy can be watched. -/
structure RemoteObject where
  id : Nat
  isProxyObject : Bool := true
  deriving DecidableEq, Repr

/-- A recipient other than the manager. -/
abbrev Recipient := Nat

/-- `CBInfo`; an empty `std::function` is `none`. -/
structure CBInfo (Func : Type) where
  func : Option Func
  funcName : String
  pid : Int := -1
  uid : Int := -1
  deriving Repr

/-- `std::set<CBInfo>`, whose order compares `funcName` alone. -/
abbrev CBInfos (Func : Type) := TreeMap String (CBInfo Func)

inductive Invocation (Func : Type) where
  | func (token : RemoteObject) (funcName : String) (func : Func)
  | recipient (object : RemoteObject) (recipient : Recipient)
  deriving DecidableEq, Repr

def Invocation.object {Func : Type} : Invocation Func → RemoteObject
  | .func token _ _ => token
  | .recipient object _ => object

def Invocation.isFunc {Func : Type} (name : String) : Invocation Func → Bool
  | .func _ funcName _ => funcName = name
  | .recipient _ _ => false

def Invocation.isRecipient {Func : Type} (recipient : Recipient) : Invocation Func → Bool
  | .func _ _ _ => false
  | .recipient _ recipient' => recipient' = recipient

/-! ## The manager -/

variable {Func : Type}

structure Manager (Func : Type) where
  clientDeathRecipientMap : RemoteObject → Option (CBInfos Func) := fun _ => none
  -- at the IPC layer: where the manager is attached, and the other recipients
  watched : RemoteObject → Bool := fun _ => false
  recipients : RemoteObject → List Recipient := fun _ => []

/-- The entry `{info}` of a new client, or `info` inserted into the entry there is. -/
def insertInfo (info : CBInfo Func) (entry : Option (CBInfos Func)) : CBInfos Func :=
  (entry.getD ∅).insertIfNew info.funcName info

namespace Manager

def setEntry (m : Manager Func) (object : RemoteObject) (entry : Option (CBInfos Func)) : Manager Func :=
  { m with clientDeathRecipientMap := Function.update m.clientDeathRecipientMap object entry }

/-- `AddDeathRecipient(this)` and `RemoveDeathRecipient(this)` of the object. -/
def watch (m : Manager Func) (object : RemoteObject) (attached : Bool) : Manager Func :=
  { m with watched := Function.update m.watched object attached }

/-- `AddDeathRecipient(recipient)` of the object. -/
def attach (m : Manager Func) (object : RemoteObject) (recipient : Recipient) : Manager Func :=
  { m with recipients := Function.update m.recipients object ((m.recipients object).insert recipient) }

/-- `AddDeathRecipient(invoker, info)`. -/
def addInfo (m : Manager Func) (invoker : Option RemoteObject) (info : CBInfo Func) : Manager Func :=
  match invoker with
  | none => m
  | some invoker =>
    if !invoker.isProxyObject then m
    else
      let entry := m.clientDeathRecipientMap invoker
      let m := if entry.isNone then m.watch invoker true else m
      m.setEntry invoker (some (insertInfo info entry))

/-- `AddDeathRecipient(invoker, recipient)`. -/
def addRecipient (m : Manager Func) (invoker : Option RemoteObject) (recipient : Recipient) : Manager Func :=
  match invoker with
  | none => m
  | some invoker =>
    if !invoker.isProxyObject then m
    else if (m.clientDeathRecipientMap invoker).isNone then
      ((m.attach invoker recipient).watch invoker true).setEntry invoker (some ∅)
    else m

/-- The functions of an entry, called with the object that died. -/
def calls (token : RemoteObject) (infos : CBInfos Func) : List (Invocation Func) :=
  infos.toList.filterMap fun info => info.2.func.map (.func token info.1)

/-- `RemoveDeathRecipient`, and what it calls. -/
def removeDeathRecipient (m : Manager Func) (token : RemoteObject) : Manager Func × List (Invocation Func) :=
  match m.clientDeathRecipientMap token with
  | none => (m, [])
  | some infos => (m.setEntry token none, calls token infos)

/-- `RemoveDeathRecipientObj`. -/
def removeDeathRecipientObj (m : Manager Func) (object : RemoteObject) : Manager Func :=
  if (m.clientDeathRecipientMap object).isSome then (m.watch object false).setEntry object none
  else m

/-- The IPC layer notifies what is attached to an object; `OnRemoteDied` of the manager is
`RemoveDeathRecipient`. -/
def notifyDeath (m : Manager Func) (object : RemoteObject) : Manager Func × List (Invocation Func) :=
  let others := (m.recipients object).map (.recipient object)
  if m.watched object then ((m.removeDeathRecipient object).1, others ++ (m.removeDeathRecipient object).2)
  else (m, others)

end Manager

/-! ## Runs -/

structure State (Func : Type) where
  manager : Manager Func := {}
  dead : RemoteObject → Bool := fun _ => false
  -- what was added for an object since its last removal
  addedNames : RemoteObject → List String := fun _ => []
  addedRecipients : RemoteObject → List Recipient := fun _ => []
  log : List (Invocation Func) := []

inductive Event (Func : Type) where
  | addInfo (invoker : Option RemoteObject) (info : CBInfo Func)
  | addRecipient (invoker : Option RemoteObject) (recipient : Recipient)
  | removeObj (object : RemoteObject)
  | die (object : RemoteObject)

def addTo {α : Type} (added : RemoteObject → List α) (invoker : Option RemoteObject) (a : α) :
    RemoteObject → List α :=
  match invoker with
  | none => added
  | some object => Function.update added object (a :: added object)

def next (s : State Func) : Event Func → Option (State Func)
  | .addInfo invoker info =>
    some { s with
      manager := s.manager.addInfo invoker info
      addedNames := addTo s.addedNames invoker info.funcName }
  | .addRecipient invoker recipient =>
    some { s with
      manager := s.manager.addRecipient invoker recipient
      addedRecipients := addTo s.addedRecipients invoker recipient }
  | .removeObj object =>
    some { s with
      manager := s.manager.removeDeathRecipientObj object
      addedNames := Function.update s.addedNames object []
      addedRecipients := Function.update s.addedRecipients object [] }
  | .die object =>
    if s.dead object then none
    else
      some { s with
        manager := (s.manager.notifyDeath object).1
        dead := Function.update s.dead object true
        log := s.log ++ (s.manager.notifyDeath object).2 }

def system (Func : Type) : Lib.System (State Func) (Event Func) where
  init s := s = {}
  next := next

/-- What the death of an object should invoke: each function name and each recipient added for it
once, and nothing for another object. -/
structure FiresOnce (s : State Func) (object : RemoteObject) (invoked : List (Invocation Func)) : Prop where
  names : ∀ name ∈ s.addedNames object, invoked.countP (Invocation.isFunc name) = 1
  recipients : ∀ recipient ∈ s.addedRecipients object, invoked.countP (Invocation.isRecipient recipient) = 1
  others : ∀ invocation ∈ invoked, invocation.object = object

/-- A function is given with a name that is new, and a recipient is added to a client that has no
entry, unless it is attached already.  Objects that are dead, or no proxies, do not matter. -/
def Careful (s : State Func) : Event Func → Prop
  | .addInfo (some object) info =>
    object.isProxyObject = true → s.dead object = false →
      info.func.isSome ∨ ∃ infos, s.manager.clientDeathRecipientMap object = some infos ∧ info.funcName ∈ infos
  | .addRecipient (some object) recipient =>
    object.isProxyObject = true → s.dead object = false →
      s.manager.clientDeathRecipientMap object = none ∨ recipient ∈ s.manager.recipients object
  | _ => True

/-- What holds of a live proxy: the manager is attached where it has an entry, and what was added
is there to be invoked. -/
structure Kept (m : Manager Func) (names : List String) (recipients : List Recipient)
    (object : RemoteObject) : Prop where
  watched : m.watched object = (m.clientDeathRecipientMap object).isSome
  nodup : (m.recipients object).Nodup
  named : ∀ name ∈ names, ∃ infos, m.clientDeathRecipientMap object = some infos ∧ name ∈ infos
  callable : ∀ infos, m.clientDeathRecipientMap object = some infos →
    ∀ (name : String) (info : CBInfo Func), infos[name]? = some info → info.func.isSome
  attached : ∀ recipient ∈ recipients, recipient ∈ m.recipients object

def Inv (s : State Func) : Prop :=
  ∀ object : RemoteObject, object.isProxyObject = true → s.dead object = false →
    Kept s.manager (s.addedNames object) (s.addedRecipients object) object

/-! ## One object at a time -/

@[simp] theorem clientDeathRecipientMap_addInfo (m : Manager Func) (object : RemoteObject) (info : CBInfo Func)
    (hproxy : object.isProxyObject = true) :
    (m.addInfo (some object) info).clientDeathRecipientMap object =
      some (insertInfo info (m.clientDeathRecipientMap object)) := by
  simp [Manager.addInfo, Manager.setEntry, hproxy]

theorem watched_addInfo (m : Manager Func) (object : RemoteObject) (info : CBInfo Func)
    (hproxy : object.isProxyObject = true)
    (hwatched : m.watched object = (m.clientDeathRecipientMap object).isSome) :
    (m.addInfo (some object) info).watched object = true := by
  cases hentry : m.clientDeathRecipientMap object with
  | none => simp [Manager.addInfo, Manager.setEntry, Manager.watch, hproxy, hentry]
  | some infos => simp [Manager.addInfo, Manager.setEntry, hproxy, hentry, hwatched]

@[simp] theorem recipients_addInfo (m : Manager Func) (invoker : Option RemoteObject) (info : CBInfo Func) :
    (m.addInfo invoker info).recipients = m.recipients := by
  cases invoker with
  | none => rfl
  | some object =>
    simp only [Manager.addInfo, Manager.setEntry, Manager.watch]
    split_ifs <;> rfl

/-- What an object has does not change when something is added for another one. -/
theorem Kept.of_eq {m m' : Manager Func} {names : List String} {recipients : List Recipient}
    {object : RemoteObject} (h : Kept m names recipients object)
    (hentry : m'.clientDeathRecipientMap object = m.clientDeathRecipientMap object)
    (hwatched : m'.watched object = m.watched object)
    (hrecipients : m'.recipients object = m.recipients object) : Kept m' names recipients object where
  watched := by rw [hwatched, hentry]; exact h.watched
  nodup := by rw [hrecipients]; exact h.nodup
  named := by rw [hentry]; exact h.named
  callable := by rw [hentry]; exact h.callable
  attached := by rw [hrecipients]; exact h.attached

theorem getElem?_insertInfo (info : CBInfo Func) (entry : Option (CBInfos Func)) (name : String) :
    (insertInfo info entry)[name]? =
      if info.funcName = name then some ((entry.getD ∅)[info.funcName]?.getD info)
      else (entry.getD ∅)[name]? :=
  Lib.TreeMap.getElem?_insertIfNew_eq _ _ _ _

theorem mem_insertInfo (info : CBInfo Func) (entry : Option (CBInfos Func)) (name : String) :
    name ∈ insertInfo info entry ↔ info.funcName = name ∨ name ∈ entry.getD ∅ := by
  simp [insertInfo, TreeMap.mem_insertIfNew]

/-- What is stored under a name was there before, unless it is `info` under a new name. -/
theorem stored_of_insertInfo {info stored : CBInfo Func} {entry : Option (CBInfos Func)} {name : String}
    (h : (insertInfo info entry)[name]? = some stored) :
    (∃ infos, entry = some infos ∧ infos[name]? = some stored) ∨
      name = info.funcName ∧ stored = info ∧ ∀ infos, entry = some infos → info.funcName ∉ infos := by
  rw [getElem?_insertInfo] at h
  cases entry with
  | none =>
    obtain ⟨hname, hinfo⟩ : info.funcName = name ∧ info = stored := by
      simpa using h
    exact .inr ⟨hname.symm, hinfo.symm, fun infos hentry => by cases hentry⟩
  | some infos =>
    simp only [Option.getD_some] at h
    split at h
    next hname =>
      subst hname
      cases hfound : infos[info.funcName]? with
      | none =>
        right
        rw [hfound, Option.getD_none, Option.some.injEq] at h
        refine ⟨rfl, h.symm, fun infos' hentry => ?_⟩
        obtain rfl := Option.some.inj hentry
        rw [TreeMap.mem_iff_isSome_getElem?, hfound]
        exact Bool.false_ne_true
      | some found =>
        rw [hfound, Option.getD_some] at h
        exact .inl ⟨infos, rfl, hfound.trans h⟩
    next => exact .inl ⟨infos, rfl, h⟩

/-- A name that was there keeps its function; a new one has the function it is given. -/
theorem Kept.addInfo {m : Manager Func} {names : List String} {recipients : List Recipient}
    {object : RemoteObject} (h : Kept m names recipients object) (info : CBInfo Func)
    (hproxy : object.isProxyObject = true)
    (hcareful : info.func.isSome ∨
      ∃ infos, m.clientDeathRecipientMap object = some infos ∧ info.funcName ∈ infos) :
    Kept (m.addInfo (some object) info) (info.funcName :: names) recipients object where
  watched := by
    rw [watched_addInfo m object info hproxy h.watched, clientDeathRecipientMap_addInfo m object info hproxy]
    rfl
  nodup := by rw [recipients_addInfo]; exact h.nodup
  attached := by rw [recipients_addInfo]; exact h.attached
  named := by
    intro name hname
    refine ⟨_, clientDeathRecipientMap_addInfo m object info hproxy, ?_⟩
    rw [mem_insertInfo]
    obtain rfl | hname := List.mem_cons.mp hname
    · exact .inl rfl
    · obtain ⟨infos, hentry, hmem⟩ := h.named name hname
      exact .inr (by rwa [hentry])
  callable := by
    intro infos hentry name stored hstored
    rw [clientDeathRecipientMap_addInfo m object info hproxy, Option.some.injEq] at hentry
    rw [← hentry] at hstored
    obtain ⟨infos', hmap, hfound⟩ | ⟨-, rfl, hnew⟩ := stored_of_insertInfo hstored
    · exact h.callable infos' hmap name stored hfound
    · obtain hfunc | ⟨infos', hmap, hmem⟩ := hcareful
      · exact hfunc
      · exact absurd hmem (hnew infos' hmap)

theorem Kept.addRecipient {m : Manager Func} {names : List String} {recipients : List Recipient}
    {object : RemoteObject} (h : Kept m names recipients object) (recipient : Recipient)
    (hproxy : object.isProxyObject = true)
    (hcareful : m.clientDeathRecipientMap object = none ∨ recipient ∈ m.recipients object) :
    Kept (m.addRecipient (some object) recipient) names (recipient :: recipients) object := by
  cases hentry : m.clientDeathRecipientMap object with
  | none =>
    have hnames : names = [] := by
      refine List.eq_nil_iff_forall_not_mem.mpr fun name hname => ?_
      obtain ⟨infos, hsome, -⟩ := h.named name hname
      rw [hentry] at hsome
      cases hsome
    subst hnames
    constructor
    · simp [Manager.addRecipient, Manager.setEntry, Manager.watch, hproxy, hentry]
    · simp [Manager.addRecipient, Manager.setEntry, Manager.watch, Manager.attach, hproxy, hentry, h.nodup.insert]
    · simp
    · simp [Manager.addRecipient, Manager.setEntry, Manager.watch, hproxy, hentry]
    · intro r hr
      simp only [Manager.addRecipient, Manager.setEntry, Manager.watch, Manager.attach, hproxy, hentry]
      obtain rfl | hr := List.mem_cons.mp hr
      · simp
      · simp [h.attached r hr]
  | some infos =>
    have hsame : m.addRecipient (some object) recipient = m := by
      simp [Manager.addRecipient, hproxy, hentry]
    rw [hsame]
    refine { h with attached := fun r hr => ?_ }
    obtain rfl | hr := List.mem_cons.mp hr
    · simpa [hentry] using hcareful
    · exact h.attached r hr

theorem Kept.removeDeathRecipientObj {m : Manager Func} {names : List String} {recipients : List Recipient}
    {object : RemoteObject} (h : Kept m names recipients object) :
    Kept (m.removeDeathRecipientObj object) [] [] object := by
  have hwatched := h.watched
  constructor
  · simp only [Manager.removeDeathRecipientObj]
    split_ifs with hentry
    · simp [Manager.setEntry, Manager.watch]
    · exact hwatched
  · simp only [Manager.removeDeathRecipientObj]
    split_ifs <;> exact h.nodup
  · simp
  · intro infos hentry
    simp only [Manager.removeDeathRecipientObj] at hentry
    split_ifs at hentry
    · simp [Manager.setEntry] at hentry
    · exact h.callable infos hentry
  · simp

/-! ## Two objects -/

/-- `m'` differs from `m` at `changed` only. -/
def Manager.SameBut (m m' : Manager Func) (changed : RemoteObject) : Prop :=
  ∀ object, object ≠ changed →
    m'.clientDeathRecipientMap object = m.clientDeathRecipientMap object ∧
    m'.watched object = m.watched object ∧ m'.recipients object = m.recipients object

theorem sameBut_addInfo (m : Manager Func) (object : RemoteObject) (info : CBInfo Func) :
    m.SameBut (m.addInfo (some object) info) object := by
  intro other hne
  simp only [Manager.addInfo, Manager.setEntry, Manager.watch]
  split_ifs <;> simp [hne]

theorem sameBut_addRecipient (m : Manager Func) (object : RemoteObject) (recipient : Recipient) :
    m.SameBut (m.addRecipient (some object) recipient) object := by
  intro other hne
  simp only [Manager.addRecipient, Manager.setEntry, Manager.watch, Manager.attach]
  split_ifs <;> simp [hne]

theorem sameBut_removeDeathRecipientObj (m : Manager Func) (object : RemoteObject) :
    m.SameBut (m.removeDeathRecipientObj object) object := by
  intro other hne
  simp only [Manager.removeDeathRecipientObj, Manager.setEntry, Manager.watch]
  split_ifs <;> simp [hne]

theorem sameBut_notifyDeath (m : Manager Func) (object : RemoteObject) :
    m.SameBut (m.notifyDeath object).1 object := by
  intro other hne
  simp only [Manager.notifyDeath, Manager.removeDeathRecipient, Manager.setEntry]
  split_ifs
  · cases m.clientDeathRecipientMap object <;> simp [hne]
  · simp

/-! ## A death -/

/-- Each name of an entry is called once. -/
theorem countP_calls {infos : CBInfos Func}
    (hcallable : ∀ (name : String) (info : CBInfo Func), infos[name]? = some info → info.func.isSome)
    {name : String} (hmem : name ∈ infos) (token : RemoteObject) :
    (Manager.calls token infos).countP (Invocation.isFunc name) = 1 := by
  have hnodup : (infos.toList.map Prod.fst).Nodup := by
    rw [TreeMap.map_fst_toList_eq_keys]
    exact TreeMap.nodup_keys
  have hkey : name ∈ infos.toList.map Prod.fst := by
    rwa [TreeMap.map_fst_toList_eq_keys, TreeMap.mem_keys]
  calc (Manager.calls token infos).countP (Invocation.isFunc name)
      = infos.toList.countP fun info => info.1 == name := by
        rw [Manager.calls, List.countP_filterMap]
        refine List.countP_congr fun info hinfo => ?_
        have hfunc := hcallable info.1 info.2 (TreeMap.mem_toList_iff_getElem?_eq_some.mp hinfo)
        obtain ⟨func, hfunc⟩ := Option.isSome_iff_exists.mp hfunc
        simp [hfunc, Invocation.isFunc]
    _ = (infos.toList.map Prod.fst).count name := by
        rw [List.count, List.countP_map]
        rfl
    _ = 1 := List.count_eq_one_of_mem hnodup hkey

/-- Each recipient that is attached is notified once. -/
theorem countP_recipients {recipients : List Recipient} (hnodup : recipients.Nodup) {recipient : Recipient}
    (hmem : recipient ∈ recipients) (object : RemoteObject) :
    (recipients.map (.recipient object) : List (Invocation Func)).countP (Invocation.isRecipient recipient) = 1 := by
  rw [List.countP_map]
  exact List.count_eq_one_of_mem hnodup hmem

theorem countP_isFunc_recipients (recipients : List Recipient) (object : RemoteObject) (name : String) :
    (recipients.map (.recipient object) : List (Invocation Func)).countP (Invocation.isFunc name) = 0 := by
  simp [List.countP_map, Function.comp_def, Invocation.isFunc]

theorem countP_isRecipient_calls (infos : CBInfos Func) (token : RemoteObject) (recipient : Recipient) :
    (Manager.calls token infos).countP (Invocation.isRecipient recipient) = 0 := by
  rw [List.countP_eq_zero]
  intro invocation hmem
  obtain ⟨info, -, hfunc⟩ := List.mem_filterMap.mp hmem
  obtain ⟨func, -, rfl⟩ := Option.map_eq_some_iff.mp hfunc
  simp [Invocation.isRecipient]

theorem object_of_mem_calls {infos : CBInfos Func} {token : RemoteObject} {invocation : Invocation Func}
    (hmem : invocation ∈ Manager.calls token infos) : invocation.object = token := by
  obtain ⟨info, -, hfunc⟩ := List.mem_filterMap.mp hmem
  obtain ⟨func, -, rfl⟩ := Option.map_eq_some_iff.mp hfunc
  rfl

theorem Kept.firesOnce {s : State Func} {object : RemoteObject}
    (h : Kept s.manager (s.addedNames object) (s.addedRecipients object) object) :
    FiresOnce s object (s.manager.notifyDeath object).2 := by
  have hothers : ∀ invocation ∈ ((s.manager.recipients object).map (.recipient object) : List (Invocation Func)),
      invocation.object = object := by
    intro invocation hmem
    obtain ⟨recipient, -, rfl⟩ := List.mem_map.mp hmem
    rfl
  cases hentry : s.manager.clientDeathRecipientMap object with
  | none =>
    have hcalls : (s.manager.notifyDeath object).2 =
        (s.manager.recipients object).map (.recipient object) := by
      simp [Manager.notifyDeath, h.watched, hentry]
    rw [hcalls]
    refine ⟨fun name hname => ?_, fun r hr => countP_recipients h.nodup (h.attached r hr) object, hothers⟩
    obtain ⟨infos, hsome, -⟩ := h.named name hname
    rw [hentry] at hsome
    cases hsome
  | some infos =>
    have hcalls : (s.manager.notifyDeath object).2 =
        (s.manager.recipients object).map (.recipient object) ++ Manager.calls object infos := by
      simp [Manager.notifyDeath, Manager.removeDeathRecipient, h.watched, hentry]
    rw [hcalls]
    constructor
    · intro name hname
      obtain ⟨infos', hsome, hmem⟩ := h.named name hname
      obtain rfl := Option.some.inj (hentry.symm.trans hsome)
      rw [List.countP_append, countP_isFunc_recipients, countP_calls (h.callable _ hentry) hmem, Nat.zero_add]
    · intro recipient hr
      rw [List.countP_append, countP_recipients h.nodup (h.attached recipient hr), countP_isRecipient_calls]
    · intro invocation hmem
      obtain hmem | hmem := List.mem_append.mp hmem
      · exact hothers invocation hmem
      · exact object_of_mem_calls hmem

/-! ## Every run -/

theorem Kept.of_sameBut {m m' : Manager Func} {names : List String} {recipients : List Recipient}
    {object changed : RemoteObject} (h : Kept m names recipients object) (hsame : m.SameBut m' changed)
    (hne : object ≠ changed) : Kept m' names recipients object :=
  h.of_eq (hsame object hne).1 (hsame object hne).2.1 (hsame object hne).2.2

theorem inv_init : Inv ({} : State Func) := fun object _ _ => by
  constructor <;> simp

theorem inv_step {s s' : State Func} {e : Event Func} (h : Inv s) (hcareful : Careful s e)
    (hnext : next s e = some s') : Inv s' := by
  intro object hproxy hlive
  cases e with
  | addInfo invoker info =>
    cases hnext
    cases invoker with
    | none => exact h object hproxy hlive
    | some changed =>
      by_cases heq : object = changed
      · subst heq
        simpa [addTo] using (h object hproxy hlive).addInfo info hproxy (hcareful hproxy hlive)
      · simpa [addTo, heq] using (h object hproxy hlive).of_sameBut (sameBut_addInfo s.manager changed info) heq
  | addRecipient invoker recipient =>
    cases hnext
    cases invoker with
    | none => exact h object hproxy hlive
    | some changed =>
      by_cases heq : object = changed
      · subst heq
        simpa [addTo] using (h object hproxy hlive).addRecipient recipient hproxy (hcareful hproxy hlive)
      · simpa [addTo, heq] using
          (h object hproxy hlive).of_sameBut (sameBut_addRecipient s.manager changed recipient) heq
  | removeObj changed =>
    cases hnext
    by_cases heq : object = changed
    · subst heq
      simpa using (h object hproxy hlive).removeDeathRecipientObj
    · simpa [heq] using (h object hproxy hlive).of_sameBut (sameBut_removeDeathRecipientObj s.manager changed) heq
  | die changed =>
    simp only [next] at hnext
    split at hnext
    · cases hnext
    · cases hnext
      by_cases heq : object = changed
      · subst heq
        simp at hlive
      · simp only [Function.update_of_ne heq] at hlive
        exact (h object hproxy hlive).of_sameBut (sameBut_notifyDeath s.manager changed) heq

/-- When a recipient is only ever added to a client that has no entry, and names come with
functions, the death of a proxy invokes all that was added for it once. -/
theorem death_fires_once {s s' : State Func} (hreach : (system Func).Reach Careful s) {object : RemoteObject}
    (hproxy : object.isProxyObject = true) (hdeath : next s (.die object) = some s') :
    ∃ invoked, s'.log = s.log ++ invoked ∧ FiresOnce s object invoked := by
  have hinv : Inv s := hreach.invariant (fun _ hs => hs ▸ inv_init) (fun _ _ _ => inv_step)
  simp only [next] at hdeath
  split at hdeath
  next => cases hdeath
  next hlive =>
    cases hdeath
    exact ⟨_, rfl, (hinv object hproxy (by simpa using hlive)).firesOnce⟩

/-- A client is removed and comes back; two functions and a recipient are added for it. -/
theorem death_fires_once_three : ∃ s s' : State Unit, next s (.die { id := 1 }) = some s' ∧
    s.addedNames { id := 1 } = ["SetLidFilteringStrategy", "SetProxFilteringStrategy"] ∧
    s.addedRecipients { id := 1 } = [7] ∧
    ∃ invoked, s'.log = s.log ++ invoked ∧ FiresOnce s { id := 1 } invoked := by
  have hnew : (system Unit).Reach Careful {} := .init rfl
  have hfirst := hnew.step (Event.addInfo (some { id := 1 }) { func := some (), funcName := "SetPowerKeyFilteringStrategy" })
    (fun _ _ => .inl rfl) rfl
  have hgone := hfirst.step (Event.removeObj { id := 1 }) trivial rfl
  have hrecipient := hgone.step (Event.addRecipient (some { id := 1 }) 7) (fun _ _ => .inl rfl) rfl
  have hprox := hrecipient.step
    (Event.addInfo (some { id := 1 }) { func := some (), funcName := "SetProxFilteringStrategy" })
    (fun _ _ => .inl rfl) rfl
  have hlid := hprox.step (Event.addInfo (some { id := 1 }) { func := some (), funcName := "SetLidFilteringStrategy" })
    (fun _ _ => .inl rfl) rfl
  exact ⟨_, _, rfl, rfl, rfl, death_fires_once hlid rfl rfl⟩

/-- A recipient added after a function is dropped: the client has an entry already, so the
recipient is attached nowhere. -/
theorem recipient_dropped : ∃ s s' : State Unit, (system Unit).Reachable s ∧
    next s (.die { id := 1 }) = some s' ∧ s.addedRecipients { id := 1 } = [7] ∧
    ¬∃ invoked, s'.log = s.log ++ invoked ∧ FiresOnce s { id := 1 } invoked := by
  have hnew : (system Unit).Reachable {} := .init rfl
  have hfunc := hnew.step (Event.addInfo (some { id := 1 }) { func := some (), funcName := "SetLidFilteringStrategy" })
    trivial rfl
  have hrecipient := hfunc.step (Event.addRecipient (some { id := 1 }) 7) trivial rfl
  refine ⟨_, _, hrecipient, rfl, rfl, ?_⟩
  rintro ⟨invoked, hlog, hfires⟩
  have honce := hfires.recipients 7 List.mem_cons_self
  rw [← List.append_cancel_left hlog] at honce
  revert honce
  decide

end PowerMgr.Clients.DeathRecipients
