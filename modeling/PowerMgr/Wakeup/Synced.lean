import PowerMgr.Settings.Provider
import PowerMgr.Wakeup.Sources

/-! # Wakeup settings and wakeup monitors

Whether the touchscreen and the pickup gesture wake the device is kept three times: in a setting of its own,
in the JSON text of the wakeup sources, and in the monitors made from that text.  Observers carry a change of
the setting into the text and a change of the text into the monitors, each in a thread of its own, and when
the user changes they are moved to the tables of the new user.

* `State`, `next` — the observers, their notifications, the handlers cut where another one may come in, and
  `WakeupController::Init`.
* `Careful` — the handlers of a setting take turns, no source is edited between the read and the write of
  `Init`, and a user without a text has no settings either.
* `monitors_settled` — when nothing is left to do the text agrees with the settings of the current user, and the
  monitors are those of the text.
* `handlers_drain` — the handlers do not keep each other busy.

DataShare answers every call here.
-/

namespace PowerMgr.Wakeup.Synced

open Lib (Json JsonText)
open Lib.Json (lookup update)
open Lib.CompactJson (compact)
open Settings (Provider Config ErrCode Rows getStringValue putStringValue getIntValue isValidKey assembleUri uriOf writeRow
  updateCurrentUserId wakeupDoubleKey wakeupPickupKey wakeupSourcesKey)
open Sources (WakeupDeviceType WakeupSource WakeupSources Editor parseSources parseSourcesProc sourceOf readEnable)

universe u

variable {ν : Type u}

/-! ## The settings -/

def wakeupSourceOpen : Int := 1

def wakeupSourceClose : Int := 0

def wakeupLidKey : String := "settings.power.wakeup_lid"

/-- The settings that are carried into the text when they change. -/
inductive Toggle where
  | double
  | pickup
  deriving DecidableEq, Repr

def Toggle.key : Toggle → String
  | .double => wakeupDoubleKey
  | .pickup => wakeupPickupKey

def Toggle.editor : Toggle → Editor
  | .double => .touchscreen
  | .pickup => .pickup

/-- The source whose setting is given a first value. -/
def Toggle.reason : Toggle → WakeupDeviceType
  | .double => .doubleClick
  | .pickup => .pickup

/-- What is observed: a setting or the text. -/
inductive Observer where
  | toggle (t : Toggle)
  | sources
  deriving DecidableEq, Repr

def Observer.key : Observer → String
  | .toggle t => t.key
  | .sources => wakeupSourcesKey

/-- `SettingHelper::GetSettingWakeupDouble`; the variable that takes the value is not initialised. -/
def getSettingWakeupDouble (uninitialised : Int) (p : Provider) : Bool :=
  match getIntValue {} wakeupDoubleKey p with
  | .ok value => value = wakeupSourceOpen
  | .error _ => uninitialised = wakeupSourceOpen

/-- `SettingHelper::GetSettingWakeupPickup`. -/
def getSettingWakeupPickup (p : Provider) : Bool :=
  match getIntValue {} wakeupPickupKey p with
  | .ok value => value = wakeupSourceOpen
  | .error _ => wakeupSourceClose = wakeupSourceOpen

def Toggle.get (uninitialised : Int) (p : Provider) : Toggle → Bool
  | .double => getSettingWakeupDouble uninitialised p
  | .pickup => getSettingWakeupPickup p

/-- The value that `SetSettingWakeupDouble`, `SetSettingWakeupPickup` and `SetSettingWakeupLid` put. -/
def toggleText (enable : Bool) : String :=
  toString (if enable then wakeupSourceOpen else wakeupSourceClose)

def getSettingWakeupSources (p : Provider) : String :=
  match getStringValue {} wakeupSourcesKey p with
  | .ok value => value
  | .error _ => ""

/-! ## The state -/

/-- Where `WakeupController::Init` stands, with `monitorMutex_` unless it is done. -/
inductive Init where
  | done
  | reading
  | storing (configJsonStr : String) (sourceList : List WakeupSource)
  | monitoring (sourceList : List WakeupSource)
  deriving DecidableEq, Repr

def Init.isStoring : Init → Bool
  | .storing _ _ => true
  | _ => false

structure State where
  provider : Provider
  -- The table an observer is registered for, and its calls of `OnChange` that have not begun.
  observers : Observer → Option String := fun _ => none
  pending : Observer → Nat := fun _ => 0
  -- The handlers that have read the setting and not edited the text.
  running : Toggle → List Bool := fun _ => []
  init : Init := .reading
  monitorMap : WakeupDeviceType → Option WakeupSource := fun _ => none

inductive Event where
  -- Somebody writes a setting of a user.
  | write (scope : Option Int) (key value : String)
  | start (t : Toggle) (uninitialised : Int)
  | edit (t : Toggle) (enable : Bool)
  | editLid (enable : Bool)
  | rebuild (subscribed : Bool)
  | parse
  | store
  | monitor (subscribed : Bool)
  | registerObservers
  | userSwitched (activedIds : Option (List Int))

/-- A row is written, and the observers of the table and the key are told. -/
def State.write (table key value : String) (s : State) : State :=
  { s with
    provider := { s.provider with
      tables := Function.update s.provider.tables table (writeRow {} key value (s.provider.tables table)) }
    pending := fun o => if s.observers o = some table ∧ o.key = key then s.pending o + 1 else s.pending o }

/-- `SettingProvider::PutStringValue`. -/
def State.put (key value : String) (s : State) : State :=
  s.write (assembleUri key s.provider) key value

/-- `SettingProvider::RegisterObserver`, unless there is an observer: it is notified, and its function is
called by a thread too. -/
def State.registerObserver (o : Observer) (s : State) : State :=
  if (s.observers o).isSome then s
  else { s with
    observers := Function.update s.observers o (some (assembleUri o.key s.provider))
    pending := Function.update s.pending o (s.pending o + 2) }

/-- `SettingProvider::UnregisterObserver`, which looks for it in the table that is current. -/
def State.unregisterObserver (o : Observer) (s : State) : State :=
  if s.observers o = some (assembleUri o.key s.provider) then
    { s with observers := Function.update s.observers o none }
  else s

/-! ## The handlers -/

section Functions

variable (text : JsonText ν) (valueint : ν → Int32) (file : String)

/-- `ChangeWakeupSourceConfig` and its siblings; the one of the lid does not look for an empty text. -/
def changeSourceConfig (e : Editor) (updateEnable : Bool) (s : State) : State :=
  let jsonStr := getSettingWakeupSources s.provider
  if e ≠ .lid ∧ jsonStr = "" then s
  else match e.run text updateEnable jsonStr with
    | some jsonConfig => s.put wakeupSourcesKey jsonConfig
    | none => s

/-- Which settings are valid, for the parser. -/
def settingsOf (p : Provider) : Sources.Settings where
  wakeupDouble := if isValidKey {} wakeupDoubleKey p then some true else none
  wakeupPickup := if isValidKey {} wakeupPickupKey p then some true else none
  wakeupLid := if isValidKey {} wakeupLidKey p then some true else none

def storeSetting (key : String) (before after : Option Bool) (s : State) : State :=
  match before, after with
  | none, some enable => s.put key (toggleText enable)
  | _, _ => s

/-- The settings that the parser has given a first value. -/
def storeSettings (parsed : Sources.Settings) (s : State) : State :=
  let before := settingsOf s.provider
  storeSetting wakeupLidKey before.wakeupLid parsed.wakeupLid
    (storeSetting wakeupPickupKey before.wakeupPickup parsed.wakeupPickup
      (storeSetting wakeupDoubleKey before.wakeupDouble parsed.wakeupDouble s))

/-- A text that is parsed or, if it cannot be, the text of the file; `file` is empty without one. -/
def parseOrFile (first : Bool) (jsonStr : String) (settings : Sources.Settings) :
    String × List WakeupSource × Sources.Settings :=
  let parsed := parseSources text valueint first settings jsonStr
  if parsed.1.parseErrorFlag then
    let again := parseSources text valueint first settings file
    (file, again.1.sourceList, again.2)
  else (jsonStr, parsed.1.sourceList, parsed.2)

/-- A monitor is made, initialised and put into `monitorMap_`, unless there is one of the kind;
`subscribed` says whether the key could be subscribed. -/
def emplaceMonitor (subscribed : Bool) (monitorMap : WakeupDeviceType → Option WakeupSource) (source : WakeupSource) :
    WakeupDeviceType → Option WakeupSource :=
  if source.reason = .unknown ∨ source.reason = .powerButton ∧ subscribed = false then monitorMap
  else if (monitorMap source.reason).isSome then monitorMap
  else Function.update monitorMap source.reason (some source)

/-- The function of the observer of the text. -/
def updateFunc (subscribed : Bool) (s : State) : State :=
  let (_, sourceList, settings) :=
    parseOrFile text valueint file false (getSettingWakeupSources s.provider) (settingsOf s.provider)
  let s := storeSettings settings s
  if sourceList = [] then s
  else { s with monitorMap := sourceList.foldl (emplaceMonitor subscribed) fun _ => none }

/-- A call of `OnChange` begins. -/
def State.onChange (o : Observer) (s : State) : State :=
  { s with pending := Function.update s.pending o (s.pending o - 1) }

/-- `WakeupDoubleClickSettingUpdateFunc` or its sibling up to the read of the setting. -/
def startUpdate (t : Toggle) (uninitialised : Int) (s : State) : State :=
  { s.onChange (.toggle t) with
    running := Function.update s.running t (t.get uninitialised s.provider :: s.running t) }

/-- The flag of a handler that goes on to the edit. -/
def takeFlag (t : Toggle) (enable : Bool) (s : State) : State :=
  { s with running := Function.update s.running t ((s.running t).erase enable) }

/-- What `WakeupSourceParser::ParseSources` parses, and what it makes of it. -/
def configOf (p : Provider) : String × List WakeupSource × Sources.Settings :=
  let configJsonStr := if isValidKey {} wakeupSourcesKey p then getSettingWakeupSources p else file
  parseOrFile text valueint file true configJsonStr (settingsOf p)

/-- `WakeupSourceParser::ParseSources` up to the write of the text. -/
def parse (s : State) : State :=
  let (configJsonStr, sourceList, settings) := configOf text valueint file s.provider
  { storeSettings settings s with init := .storing configJsonStr sourceList }

def setOriginSettingValue (s : State) (source : WakeupSource) : State :=
  if source.reason = .doubleClick ∧ isValidKey {} wakeupDoubleKey s.provider = false then
    s.put wakeupDoubleKey (toggleText source.enable)
  else if source.reason = .pickup ∧ isValidKey {} wakeupPickupKey s.provider = false then
    s.put wakeupPickupKey (toggleText source.enable)
  else s

/-- `WakeupController::Init` after the parser; the monitors that are there stay. -/
def monitorSources (subscribed : Bool) (sourceList : List WakeupSource) (s : State) : State :=
  let s := sourceList.foldl setOriginSettingValue s
  ({ s with
    monitorMap := sourceList.foldl (emplaceMonitor subscribed) s.monitorMap
    init := .done } : State).registerObserver .sources

def registerObservers (s : State) : State :=
  (s.registerObserver (.toggle .double)).registerObserver (.toggle .pickup)

/-- `COMMON_EVENT_USER_SWITCHED` up to `WakeupControllerInit`. -/
def userSwitched (activedIds : Option (List Int)) (s : State) : State :=
  let s := ((s.unregisterObserver (.toggle .double)).unregisterObserver (.toggle .pickup)).unregisterObserver .sources
  registerObservers { s with provider := updateCurrentUserId activedIds s.provider, init := .reading }

def next (s : State) : Event → Option State
  | .write scope key value => some (s.write (uriOf scope) key value)
  | .start t uninitialised =>
    if 0 < s.pending (.toggle t) then some (startUpdate t uninitialised s) else none
  | .edit t enable =>
    if enable ∈ s.running t then some (changeSourceConfig text t.editor enable (takeFlag t enable s)) else none
  | .editLid enable => some (changeSourceConfig text .lid enable s)
  | .rebuild subscribed =>
    if 0 < s.pending .sources ∧ s.init = .done then
      some (updateFunc text valueint file subscribed (s.onChange .sources))
    else none
  | .parse => if s.init = .reading then some (parse text valueint file s) else none
  | .store =>
    match s.init with
    | .storing configJsonStr sourceList => some { s.put wakeupSourcesKey configJsonStr with
        init := if sourceList = [] then .done else .monitoring sourceList }
    | _ => none
  | .monitor subscribed =>
    match s.init with
    | .monitoring sourceList => some (monitorSources subscribed sourceList s)
    | _ => none
  | .registerObservers => some (registerObservers s)
  | .userSwitched activedIds => if s.init = .done then some (userSwitched activedIds s) else none

def system (cfg : Config) (tables : String → Rows) : Lib.System State Event where
  init := (· = { provider := .initial cfg tables })
  next := next text valueint file

/-- The text is written by the service only, the handlers of a setting take turns, no source is edited
between the read and the write of `Init`, and where `Init` does not keep the text there are no settings. -/
def Careful (s : State) : Event → Prop
  | .write _ key _ => key ≠ wakeupSourcesKey
  | .start t _ => s.running t = []
  | .edit _ _ | .editLid _ => s.init.isStoring = false
  | .parse => (configOf text valueint file s.provider).1 = getSettingWakeupSources s.provider ∨
      getStringValue {} wakeupDoubleKey s.provider = .error .nameNotFound ∧
        getStringValue {} wakeupPickupKey s.provider = .error .nameNotFound
  | _ => True

instance (s : State) (e : Event) : Decidable (Careful text valueint file s e) :=
  match e with
  | .write _ _ _ => inferInstanceAs (Decidable (_ ≠ _))
  | .start _ _ => inferInstanceAs (Decidable (_ = _))
  | .edit _ _ | .editLid _ => inferInstanceAs (Decidable (_ = _))
  | .parse => inferInstanceAs (Decidable (_ ∨ _ ∧ _))
  | .rebuild _ | .store | .monitor _ | .registerObservers | .userSwitched _ => .isTrue trivial

end Functions

/-! ## Reading what was written -/

theorem getStringValue_write (table key value other : String) (s : State) :
    getStringValue {} other (s.write table key value).provider =
      if assembleUri other s.provider = table ∧ key = other then .ok value else getStringValue {} other s.provider := by
  have huri : assembleUri other (s.write table key value).provider = assembleUri other s.provider := rfl
  unfold getStringValue
  rw [huri]
  by_cases htable : assembleUri other s.provider = table
  · have hrows : (s.write table key value).provider.tables table = writeRow {} key value (s.provider.tables table) :=
      Function.update_self ..
    have hworks : ({} : Settings.Share).updates = true ∧ ({} : Settings.Share).inserts = true := ⟨rfl, rfl⟩
    rw [htable, hrows]
    simp only [Settings.readRow, Settings.query_writeRow hworks]
    by_cases hkey : key = other <;> simp [hkey]
  · have hrows : (s.write table key value).provider.tables (assembleUri other s.provider) =
        s.provider.tables (assembleUri other s.provider) := Function.update_of_ne htable ..
    rw [hrows, if_neg fun h => htable h.1]

theorem getStringValue_put (key value other : String) (s : State) :
    getStringValue {} other (s.put key value).provider =
      if key = other then .ok value else getStringValue {} other s.provider := by
  rw [State.put, getStringValue_write]
  by_cases hkey : key = other
  · subst hkey
    simp
  · simp [hkey]

theorem pending_le_write (table key value : String) (s : State) (o : Observer) :
    s.pending o ≤ (s.write table key value).pending o := by
  show s.pending o ≤ if _ then _ else _
  split
  · exact Nat.le_succ _
  · exact Nat.le_refl _

/-- A write that changes what an observer reads tells it. -/
theorem told_or_same {s : State} {o : Observer} (hobserver : s.observers o = some (assembleUri o.key s.provider))
    (table key value : String) : 0 < (s.write table key value).pending o ∨
      getStringValue {} o.key (s.write table key value).provider = getStringValue {} o.key s.provider := by
  by_cases htold : s.observers o = some table ∧ o.key = key
  · left
    show 0 < if _ then _ else _
    rw [if_pos htold]
    exact Nat.succ_pos _
  · right
    rw [getStringValue_write, if_neg]
    rintro ⟨htable, hkey⟩
    exact htold ⟨htable ▸ hobserver, hkey.symm⟩

theorem pending_onChange_of_ne {o o' : Observer} (hne : o' ≠ o) (s : State) :
    (s.onChange o).pending o' = s.pending o' :=
  Function.update_of_ne hne ..

theorem pending_onChange (o : Observer) (s : State) : (s.onChange o).pending o = s.pending o - 1 :=
  Function.update_self ..

theorem sources_write {s : State} {key : String} (hkey : key ≠ wakeupSourcesKey) (table value : String) :
    getSettingWakeupSources (s.write table key value).provider = getSettingWakeupSources s.provider := by
  rw [getSettingWakeupSources, getStringValue_write, if_neg fun h => hkey h.2]
  rfl

theorem sources_put (value : String) (s : State) :
    getSettingWakeupSources (s.put wakeupSourcesKey value).provider = value := by
  rw [getSettingWakeupSources, getStringValue_put, if_pos rfl]

/-! ## Reading the text -/

/-- The `enable` of a member, if it is a boolean. -/
def enableIn (name : String) : Json ν → Option Bool
  | .object root =>
    match lookup name root with
    | some (.object node) =>
      match lookup "enable" node with
      | some (.bool enable) => some enable
      | _ => none
    | _ => none
  | _ => none

def enableOf (text : JsonText ν) (name jsonStr : String) : Option Bool :=
  (text.parse jsonStr).bind (enableIn name)

theorem enableIn_editTree_of_ne {name other : String} (hne : name ≠ other) (enable : Bool) (json : Json ν) :
    enableIn name (Sources.editTree other enable json) = enableIn name json := by
  cases json with
  | object root => simp only [Sources.editTree, enableIn, Lib.Json.lookup_update_of_ne hne]
  | _ => rfl

theorem enableIn_editTree (name : String) (enable : Bool) (json : Json ν) :
    enableIn name (Sources.editTree name enable json) = (enableIn name json).map fun _ => enable := by
  cases json with
  | object root =>
    simp only [Sources.editTree, enableIn, Lib.Json.lookup_update_self]
    cases lookup name root with
    | none => rfl
    | some value =>
      cases value with
      | object node =>
        obtain ⟨origin, horigin⟩ | hnot := Sources.enable_cases node
        · simp [Sources.switch_of_bool horigin, Sources.setEnable, horigin]
        · rw [Option.map_some, Sources.switch_of_not_bool hnot]
          simp only
          rfl
      | _ => rfl
  | _ => rfl

section Text

variable {text : JsonText ν} {name jsonStr : String}

theorem enableOf_store_of_ne {e : Editor} (hne : name ≠ e.name) (enable : Bool) :
    enableOf text name (e.store text enable jsonStr) = enableOf text name jsonStr := by
  rw [enableOf, enableOf, Sources.parse_store]
  cases text.parse jsonStr with
  | none => rfl
  | some json => exact enableIn_editTree_of_ne hne enable json

theorem enableOf_store (e : Editor) (enable : Bool) :
    enableOf text e.name (e.store text enable jsonStr) = (enableOf text e.name jsonStr).map fun _ => enable := by
  rw [enableOf, enableOf, Sources.parse_store]
  cases text.parse jsonStr with
  | none => rfl
  | some json => exact enableIn_editTree e.name enable json

end Text

/-- What an edit of the sources leaves in the settings: the text of the editor, unless it is empty. -/
theorem changeSourceConfig_cases (text : JsonText ν) (e : Editor) (enable : Bool) (s : State) :
    (changeSourceConfig text e enable s = s ∧ (e ≠ .lid ∧ getSettingWakeupSources s.provider = "" ∨
      e.store text enable (getSettingWakeupSources s.provider) = getSettingWakeupSources s.provider)) ∨
    changeSourceConfig text e enable s =
      s.put wakeupSourcesKey (e.store text enable (getSettingWakeupSources s.provider)) := by
  unfold changeSourceConfig
  by_cases hempty : e ≠ .lid ∧ getSettingWakeupSources s.provider = ""
  · rw [if_pos hempty]
    exact .inl ⟨rfl, .inl hempty⟩
  · rw [if_neg hempty, Editor.store]
    cases hrun : e.run text enable (getSettingWakeupSources s.provider) with
    | none => exact .inl ⟨rfl, .inr rfl⟩
    | some jsonConfig => exact .inr rfl

/-! ## The invariant -/

/-- A flag that says what the setting says; the setting of the touchscreen is not looked at when it
cannot be read. -/
structure Matches (t : Toggle) (enable : Bool) (p : Provider) : Prop where
  read : ∀ value, getIntValue {} t.key p = .ok value → (enable = true ↔ value = wakeupSourceOpen)
  unread : t = .pickup → ∀ ret, getIntValue {} t.key p = .error ret → enable = false

/-- `Init` will give the setting its first value. -/
def Promised (t : Toggle) (sourceList : List WakeupSource) (p : Provider) : Prop :=
  getStringValue {} t.key p = .error .nameNotFound ∧ ∃ source ∈ sourceList, source.reason = t.reason

/-- A setting that is observed agrees with the text, or somebody will see to it. -/
def Owed (text : JsonText ν) (jsonStr : String) (sourceList : List WakeupSource) (s : State) (t : Toggle) : Prop :=
  (s.observers (.toggle t)).isSome = true → 0 < s.pending (.toggle t) ∨
    (∀ flag ∈ s.running t, Matches t flag s.provider) ∧
    (s.running t = [] → ∀ enable, enableOf text t.editor.name jsonStr = some enable →
      Matches t enable s.provider ∨ Promised t sourceList s.provider)

/-- The text after the write of `Init`, if there is one to come. -/
def target (s : State) : String :=
  match s.init with
  | .storing configJsonStr _ => configJsonStr
  | _ => getSettingWakeupSources s.provider

/-- The sources whose settings `Init` has still to look at. -/
def ahead (s : State) : List WakeupSource :=
  match s.init with
  | .storing _ sourceList | .monitoring sourceList => sourceList
  | _ => []

/-- The sources of a text or, if it cannot be parsed, of the file. -/
def sourcesOf (text : JsonText ν) (valueint : ν → Int32) (file jsonStr : String) : List WakeupSource :=
  (parseOrFile text valueint file false jsonStr {}).2.1

/-- The monitors are those of the sources; the key may not have been subscribed. -/
def Built (sourceList : List WakeupSource) (s : State) : Prop :=
  sourceList ≠ [] → ∀ reason : WakeupDeviceType, reason ≠ .powerButton → reason ≠ .unknown →
    s.monitorMap reason = sourceList.find? fun source => source.reason = reason

/-- A text that is observed has its monitors, or somebody will see to them. -/
def Seen (text : JsonText ν) (valueint : ν → Int32) (file : String) (s : State) : Prop :=
  (s.observers .sources).isSome = true →
    0 < s.pending .sources ∨ Built (sourcesOf text valueint file (getSettingWakeupSources s.provider)) s

/-- The observers are those of the current user. -/
structure Placed (s : State) : Prop where
  here : ∀ o table, s.observers o = some table → table = assembleUri o.key s.provider
  single : ∀ t, (s.running t).length ≤ 1
  unwatched : s.init ≠ .done → s.observers .sources = none

structure Inv (text : JsonText ν) (valueint : ν → Int32) (file : String) (s : State) : Prop where
  placed : Placed s
  seen : Seen text valueint file s
  owed : ∀ t, Owed text (target s) (ahead s) s t

section Owed

variable {text : JsonText ν} {jsonStr : String} {sourceList : List WakeupSource} {s s' : State} {t : Toggle}

theorem Matches.congr {enable : Bool} {p p' : Provider} (h : Matches t enable p)
    (hread : getStringValue {} t.key p' = getStringValue {} t.key p) : Matches t enable p' := by
  have hint : getIntValue {} t.key p' = getIntValue {} t.key p := by
    simp only [getIntValue, Settings.getLongValue, hread]
  constructor
  · rw [hint]
    exact h.read
  · rw [hint]
    exact h.unread

theorem matches_get (uninitialised : Int) (t : Toggle) (p : Provider) : Matches t (t.get uninitialised p) p := by
  cases t with
  | double =>
    refine ⟨fun value hvalue => ?_, fun hpickup => Toggle.noConfusion hpickup⟩
    have hvalue : getIntValue {} wakeupDoubleKey p = .ok value := hvalue
    simp [Toggle.get, getSettingWakeupDouble, hvalue]
  | pickup =>
    refine ⟨fun value hvalue => ?_, fun _ ret hret => ?_⟩
    · have hvalue : getIntValue {} wakeupPickupKey p = .ok value := hvalue
      simp [Toggle.get, getSettingWakeupPickup, hvalue]
    · have hret : getIntValue {} wakeupPickupKey p = .error ret := hret
      simp only [Toggle.get, getSettingWakeupPickup, hret]
      decide

/-- Nothing that a handler looks at has changed. -/
theorem Owed.keep (h : Owed text jsonStr sourceList s t)
    (hobservers : s'.observers (.toggle t) = s.observers (.toggle t))
    (hpending : s.pending (.toggle t) ≤ s'.pending (.toggle t)) (hrunning : s'.running t = s.running t)
    (hread : getStringValue {} t.key s'.provider = getStringValue {} t.key s.provider) :
    Owed text jsonStr sourceList s' t := by
  intro hobserved
  rw [hobservers] at hobserved
  obtain hpos | ⟨hflags, hagrees⟩ := h hobserved
  · exact .inl (Nat.lt_of_lt_of_le hpos hpending)
  · refine .inr ⟨fun flag hflag => ?_, fun hnone enable henable => ?_⟩
    · rw [hrunning] at hflag
      exact (hflags flag hflag).congr hread
    · rw [hrunning] at hnone
      obtain hmatches | ⟨hmissing, hsource⟩ := hagrees hnone enable henable
      · exact .inl (hmatches.congr hread)
      · exact .inr ⟨hread.trans hmissing, hsource⟩

theorem Owed.write (h : Owed text jsonStr sourceList s t) (hplaced : Placed s) (table key value : String) :
    Owed text jsonStr sourceList (s.write table key value) t := by
  intro hobserved
  obtain ⟨own, hown⟩ := Option.isSome_iff_exists.mp hobserved
  have hobserver : s.observers (.toggle t) = some (assembleUri (Observer.toggle t).key s.provider) := by
    rw [show s.observers (.toggle t) = some own from hown, hplaced.here _ own hown]
  obtain hpos | hread := told_or_same hobserver table key value
  · exact .inl hpos
  · have hkept : Owed text jsonStr sourceList (s.write table key value) t :=
      h.keep rfl (pending_le_write table key value s _) rfl hread
    exact hkept hobserved

/-- A text in which the member is as before, and more sources to come. -/
theorem Owed.mono {jsonStr' : String} {sourceList' : List WakeupSource} (h : Owed text jsonStr sourceList s t)
    (htext : ∀ enable, enableOf text t.editor.name jsonStr' = some enable →
      enableOf text t.editor.name jsonStr = some enable)
    (hsources : ∀ source ∈ sourceList, source ∈ sourceList') : Owed text jsonStr' sourceList' s t := by
  intro hobserved
  obtain hpos | ⟨hflags, hagrees⟩ := h hobserved
  · exact .inl hpos
  · refine .inr ⟨hflags, fun hnone enable henable => ?_⟩
    obtain hmatches | ⟨hmissing, source, hmem, hreason⟩ := hagrees hnone enable (htext enable henable)
    · exact .inl hmatches
    · exact .inr ⟨hmissing, source, hsources source hmem, hreason⟩

end Owed

/-! ## The steps -/

section Steps

variable {text : JsonText ν} {valueint : ν → Int32} {file : String} {s : State}

theorem Placed.write (h : Placed s) (table key value : String) : Placed (s.write table key value) :=
  ⟨h.here, h.single, h.unwatched⟩

theorem Seen.write (h : Seen text valueint file s) {key : String} (hkey : key ≠ wakeupSourcesKey)
    (table value : String) : Seen text valueint file (s.write table key value) := by
  intro hobserved
  rw [sources_write hkey]
  obtain hpos | hbuilt := h hobserved
  · exact .inl (Nat.lt_of_lt_of_le hpos (pending_le_write table key value s _))
  · exact .inr hbuilt

theorem seen_putSources (hplaced : Placed s) (value : String) :
    Seen text valueint file (s.put wakeupSourcesKey value) := by
  intro hobserved
  obtain ⟨table, htable⟩ := Option.isSome_iff_exists.mp hobserved
  have hhere := hplaced.here .sources table htable
  left
  show 0 < if _ then _ else _
  rw [if_pos ⟨hhere ▸ htable, rfl⟩]
  exact Nat.succ_pos _

/-- Writing something else than the text. -/
theorem Inv.write (h : Inv text valueint file s) {key : String} (hkey : key ≠ wakeupSourcesKey) (table value : String) :
    Inv text valueint file (s.write table key value) := by
  refine ⟨h.placed.write table key value, h.seen.write hkey table value, fun t => ?_⟩
  have htarget : target (s.write table key value) = target s := by
    unfold target
    rw [sources_write hkey]
    rfl
  rw [htarget]
  exact (h.owed t).write h.placed table key value

theorem placed_storeSettings (h : Placed s) (parsed : Sources.Settings) : Placed (storeSettings parsed s) := by
  have hstore : ∀ (key : String) (before after : Option Bool) (s : State), Placed s →
      Placed (storeSetting key before after s) := by
    intro key before after s h
    unfold storeSetting
    split
    · exact h.write _ key _
    · exact h
  exact hstore _ _ _ _ (hstore _ _ _ _ (hstore _ _ _ _ h))

theorem Owed.storeSettings {jsonStr : String} {sourceList : List WakeupSource} {t : Toggle}
    (h : Owed text jsonStr sourceList s t) (hplaced : Placed s) (parsed : Sources.Settings) :
    Owed text jsonStr sourceList (storeSettings parsed s) t := by
  have hstore : ∀ (key : String) (before after : Option Bool) (s : State),
      Owed text jsonStr sourceList s t ∧ Placed s →
        Owed text jsonStr sourceList (storeSetting key before after s) t ∧
          Placed (storeSetting key before after s) := by
    rintro key before after s ⟨h, hplaced⟩
    unfold storeSetting
    split
    · exact ⟨h.write hplaced _ key _, hplaced.write _ key _⟩
    · exact ⟨h, hplaced⟩
  exact (hstore _ _ _ _ (hstore _ _ _ _ (hstore _ _ _ _ ⟨h, hplaced⟩))).1

/-! ### Edits of the text -/

theorem Placed.changeSourceConfig (h : Placed s) (text : JsonText ν) (e : Editor) (enable : Bool) :
    Placed (changeSourceConfig text e enable s) := by
  obtain ⟨hsame, -⟩ | hput := changeSourceConfig_cases text e enable s
  · rw [hsame]
    exact h
  · rw [hput]
    exact h.write _ _ _

theorem Seen.changeSourceConfig (h : Seen text valueint file s) (hplaced : Placed s) (e : Editor) (enable : Bool) :
    Seen text valueint file (changeSourceConfig text e enable s) := by
  obtain ⟨hsame, -⟩ | hput := changeSourceConfig_cases text e enable s
  · rw [hsame]
    exact h
  · rw [hput]
    exact seen_putSources hplaced _

theorem init_changeSourceConfig (text : JsonText ν) (e : Editor) (enable : Bool) (s : State) :
    (changeSourceConfig text e enable s).init = s.init := by
  obtain ⟨hsame, -⟩ | hput := changeSourceConfig_cases text e enable s
  · rw [hsame]
  · rw [hput]
    rfl

/-- The members that are not edited. -/
theorem enableOf_changeSourceConfig_of_ne (text : JsonText ν) (s : State) {name : String} {e : Editor}
    (hne : name ≠ e.name) (enable : Bool) :
    enableOf text name (getSettingWakeupSources (changeSourceConfig text e enable s).provider) =
      enableOf text name (getSettingWakeupSources s.provider) := by
  obtain ⟨hsame, -⟩ | hput := changeSourceConfig_cases text e enable s
  · rw [hsame]
  · rw [hput, sources_put, enableOf_store_of_ne hne]

/-- The member that is edited. -/
theorem enableOf_changeSourceConfig (hempty : text.parse "" = none) {e : Editor} {enable found : Bool}
    (hfound : enableOf text e.name (getSettingWakeupSources (changeSourceConfig text e enable s).provider) = some found) :
    found = enable := by
  have hstore : ∀ jsonStr, enableOf text e.name (e.store text enable jsonStr) = some found → found = enable := by
    intro jsonStr hstored
    rw [enableOf_store] at hstored
    obtain ⟨_, -, hsame⟩ := Option.map_eq_some_iff.mp hstored
    exact hsame.symm
  obtain ⟨hsame, ⟨-, hnone⟩ | hkept⟩ | hput := changeSourceConfig_cases text e enable s
  · rw [hsame, hnone, enableOf, hempty] at hfound
    cases hfound
  · rw [hsame, ← hkept] at hfound
    exact hstore _ hfound
  · rw [hput, sources_put] at hfound
    exact hstore _ hfound

/-- What an edit leaves to the settings of other members. -/
theorem Owed.changeSourceConfig {sourceList : List WakeupSource} {t : Toggle} {e : Editor}
    (h : Owed text (getSettingWakeupSources s.provider) sourceList s t) (hplaced : Placed s)
    (hne : t.editor.name ≠ e.name) (enable : Bool) :
    Owed text (getSettingWakeupSources (changeSourceConfig text e enable s).provider) sourceList
      (changeSourceConfig text e enable s) t := by
  have htext := enableOf_changeSourceConfig_of_ne text s hne enable
  refine Owed.mono ?_ (fun found hfound => htext ▸ hfound) fun source hmem => hmem
  obtain ⟨hsame, -⟩ | hput := changeSourceConfig_cases text e enable s
  · rw [hsame]
    exact h
  · rw [hput]
    exact h.write hplaced _ _ _

theorem editor_name_ne {t t' : Toggle} (hne : t ≠ t') : t.editor.name ≠ t'.editor.name := by
  apply Sources.name_injective
  cases t <;> cases t' <;> simp [Toggle.editor] at hne ⊢

theorem target_of_not_storing (h : s.init.isStoring = false) : target s = getSettingWakeupSources s.provider := by
  unfold target
  split
  next hinit =>
    rw [hinit] at h
    cases h
  next => rfl

theorem target_changeSourceConfig (text : JsonText ν) (s : State) (e : Editor) (enable : Bool)
    (hcareful : s.init.isStoring = false) :
    target (changeSourceConfig text e enable s) = getSettingWakeupSources (changeSourceConfig text e enable s).provider ∧
      ahead (changeSourceConfig text e enable s) = ahead s := by
  have hinit := init_changeSourceConfig text e enable s
  constructor
  · apply target_of_not_storing
    rw [hinit]
    exact hcareful
  · rw [ahead, hinit]
    rfl

/-- What an edit leaves alone. -/
theorem frame_changeSourceConfig (text : JsonText ν) (t : Toggle) (e : Editor) (enable : Bool) (s : State) :
    (changeSourceConfig text e enable s).observers = s.observers ∧
    (changeSourceConfig text e enable s).running = s.running ∧
    s.pending (.toggle t) ≤ (changeSourceConfig text e enable s).pending (.toggle t) ∧
    getStringValue {} t.key (changeSourceConfig text e enable s).provider = getStringValue {} t.key s.provider := by
  obtain ⟨hsame, -⟩ | hput := changeSourceConfig_cases text e enable s
  · rw [hsame]
    exact ⟨rfl, rfl, Nat.le_refl _, rfl⟩
  · rw [hput]
    refine ⟨rfl, rfl, pending_le_write _ _ _ s _, ?_⟩
    rw [getStringValue_put, if_neg (by cases t <;> decide)]

theorem running_takeFlag_of_ne {t t' : Toggle} (hne : t' ≠ t) (enable : Bool) (s : State) :
    (takeFlag t enable s).running t' = s.running t' :=
  Function.update_of_ne hne ..

theorem running_takeFlag (h : Placed s) {t : Toggle} {enable : Bool} (hrunning : enable ∈ s.running t) :
    (takeFlag t enable s).running t = [] := by
  have hflag : (takeFlag t enable s).running t = (s.running t).erase enable := Function.update_self ..
  have hsingle := h.single t
  rw [hflag]
  apply List.eq_nil_of_length_eq_zero
  rw [List.length_erase_of_mem hrunning]
  omega

/-- A handler takes its flag to the text. -/
theorem inv_edit (hempty : text.parse "" = none) (h : Inv text valueint file s) {t : Toggle} {enable : Bool}
    (hcareful : s.init.isStoring = false) (hrunning : enable ∈ s.running t) :
    Inv text valueint file (changeSourceConfig text t.editor enable (takeFlag t enable s)) := by
  have hnone := running_takeFlag h.placed hrunning
  have hplaced : Placed (takeFlag t enable s) := by
    refine ⟨h.placed.here, fun t' => ?_, h.placed.unwatched⟩
    by_cases hsame : t' = t
    · rw [hsame, hnone]
      exact Nat.zero_le 1
    · rw [running_takeFlag_of_ne hsame]
      exact h.placed.single t'
  have hseen : Seen text valueint file (takeFlag t enable s) := h.seen
  refine ⟨hplaced.changeSourceConfig text t.editor enable, hseen.changeSourceConfig hplaced t.editor enable,
    fun t' => ?_⟩
  obtain ⟨htarget, hahead⟩ := target_changeSourceConfig text (takeFlag t enable s) t.editor enable hcareful
  rw [htarget, hahead]
  have howed := h.owed t'
  rw [target_of_not_storing hcareful] at howed
  by_cases hsame : t' = t
  · subst hsame
    obtain ⟨hobservers, hflags, hpending, hread⟩ :=
      frame_changeSourceConfig text t' t'.editor enable (takeFlag t' enable s)
    intro hobserved
    rw [hobservers] at hobserved
    obtain hpos | ⟨hmatches, -⟩ := howed hobserved
    · exact .inl (Nat.lt_of_lt_of_le hpos hpending)
    · refine .inr ⟨fun flag hflag => ?_, fun _ found hfound => ?_⟩
      · rw [hflags, hnone] at hflag
        cases hflag
      · rw [enableOf_changeSourceConfig hempty hfound]
        exact .inl ((hmatches enable hrunning).congr hread)
  · have hkept : Owed text (getSettingWakeupSources s.provider) (ahead s) (takeFlag t enable s) t' :=
      howed.keep rfl (Nat.le_refl _) (running_takeFlag_of_ne hsame enable s) rfl
    exact hkept.changeSourceConfig hplaced (editor_name_ne hsame) enable

theorem inv_editLid (h : Inv text valueint file s) (enable : Bool)
    (hcareful : s.init.isStoring = false) :
    Inv text valueint file (changeSourceConfig text .lid enable s) := by
  refine ⟨h.placed.changeSourceConfig text .lid enable, h.seen.changeSourceConfig h.placed .lid enable, fun t => ?_⟩
  obtain ⟨htarget, hahead⟩ := target_changeSourceConfig text s .lid enable hcareful
  have howed := h.owed t
  rw [target_of_not_storing hcareful] at howed
  rw [htarget, hahead]
  exact howed.changeSourceConfig h.placed (by cases t <;> decide) enable

/-- A handler reads the setting. -/
theorem inv_start (h : Inv text valueint file s) {t : Toggle} (hcareful : s.running t = []) (uninitialised : Int) :
    Inv text valueint file (startUpdate t uninitialised s) := by
  have hown : (startUpdate t uninitialised s).running t = [t.get uninitialised s.provider] := by
    show Function.update s.running t _ t = _
    rw [Function.update_self, hcareful]
  have hother : ∀ t', t' ≠ t → (startUpdate t uninitialised s).running t' = s.running t' :=
    fun t' hne => Function.update_of_ne hne ..
  have hpending : ∀ o, o ≠ .toggle t → (startUpdate t uninitialised s).pending o = s.pending o :=
    fun o hne => pending_onChange_of_ne hne s
  refine ⟨⟨h.placed.here, fun t' => ?_, h.placed.unwatched⟩, fun hobserved => ?_, fun t' => ?_⟩
  · by_cases hsame : t' = t
    · rw [hsame, hown]
      exact Nat.le_refl 1
    · rw [hother t' hsame]
      exact h.placed.single t'
  · rw [hpending .sources Observer.noConfusion]
    exact h.seen hobserved
  · by_cases hsame : t' = t
    · subst hsame
      intro _
      refine .inr ⟨fun flag hflag => ?_, fun hnone => ?_⟩
      · rw [hown, List.mem_singleton] at hflag
        rw [hflag]
        exact matches_get uninitialised t' s.provider
      · rw [hown] at hnone
        cases hnone
    · have hle : s.pending (.toggle t') ≤ (startUpdate t uninitialised s).pending (.toggle t') :=
        Nat.le_of_eq (hpending _ fun heq => hsame (Observer.toggle.inj heq)).symm
      exact (h.owed t').keep rfl hle (hother t' hsame) rfl

/-! ### Monitors -/

theorem emplaceMonitor_of_ne (subscribed : Bool) (monitorMap : WakeupDeviceType → Option WakeupSource)
    {source : WakeupSource} {reason : WakeupDeviceType} (hne : source.reason ≠ reason) :
    emplaceMonitor subscribed monitorMap source reason = monitorMap reason := by
  unfold emplaceMonitor
  split
  · rfl
  · split
    · rfl
    · exact Function.update_of_ne hne.symm ..

theorem emplaceMonitor_self (subscribed : Bool) (monitorMap : WakeupDeviceType → Option WakeupSource)
    {source : WakeupSource} (hkey : source.reason ≠ .powerButton) (hknown : source.reason ≠ .unknown) :
    emplaceMonitor subscribed monitorMap source source.reason = (monitorMap source.reason).or (some source) := by
  unfold emplaceMonitor
  rw [if_neg (by simp [hkey, hknown])]
  cases hfound : monitorMap source.reason with
  | none => simp
  | some old => simp [hfound]

/-- The first source of a kind gets the monitor. -/
theorem foldl_emplaceMonitor (subscribed : Bool) (sourceList : List WakeupSource)
    (monitorMap : WakeupDeviceType → Option WakeupSource) {reason : WakeupDeviceType} (hkey : reason ≠ .powerButton)
    (hknown : reason ≠ .unknown) : sourceList.foldl (emplaceMonitor subscribed) monitorMap reason =
      (monitorMap reason).or (sourceList.find? fun source => source.reason = reason) := by
  induction sourceList generalizing monitorMap with
  | nil => simp
  | cons source rest ih =>
    rw [List.foldl_cons, ih]
    by_cases hreason : source.reason = reason
    · subst hreason
      rw [emplaceMonitor_self subscribed monitorMap hkey hknown]
      simp
    · rw [emplaceMonitor_of_ne subscribed monitorMap hreason]
      simp [hreason]

theorem parseSources_fst (text : JsonText ν) (valueint : ν → Int32) (first : Bool) (settings : Sources.Settings)
    (jsonStr : String) :
    (parseSources text valueint first settings jsonStr).1 = (parseSources text valueint false {} jsonStr).1 := by
  unfold Sources.parseSources
  split
  · rw [Sources.foldl_parseSourcesProc, Sources.foldl_parseSourcesProc]
  · rfl
  · rfl

/-- The sources do not depend on the settings. -/
theorem parseOrFile_sources (text : JsonText ν) (valueint : ν → Int32) (file : String) (first : Bool)
    (settings : Sources.Settings) (jsonStr : String) :
    (parseOrFile text valueint file first jsonStr settings).2.1 = sourcesOf text valueint file jsonStr := by
  have hjson := parseSources_fst text valueint first settings jsonStr
  have hfile := parseSources_fst text valueint first settings file
  unfold sourcesOf parseOrFile
  dsimp only
  rw [hjson]
  split
  · exact congrArg WakeupSources.sourceList hfile
  · rfl

theorem sources_storeSettings (parsed : Sources.Settings) (s : State) :
    getSettingWakeupSources (storeSettings parsed s).provider = getSettingWakeupSources s.provider := by
  have hstore : ∀ (key : String) (before after : Option Bool) (s : State), key ≠ wakeupSourcesKey →
      getSettingWakeupSources (storeSetting key before after s).provider = getSettingWakeupSources s.provider := by
    intro key before after s hkey
    unfold storeSetting
    split
    · exact sources_write hkey _ _
    · rfl
  simp only [storeSettings]
  rw [hstore _ _ _ _ (by decide), hstore _ _ _ _ (by decide), hstore _ _ _ _ (by decide)]

theorem frame_storeSettings (parsed : Sources.Settings) (s : State) :
    (storeSettings parsed s).observers = s.observers ∧ (storeSettings parsed s).running = s.running ∧
      (storeSettings parsed s).init = s.init ∧ (storeSettings parsed s).monitorMap = s.monitorMap := by
  have hstore : ∀ (key : String) (before after : Option Bool) (s : State),
      (storeSetting key before after s).observers = s.observers ∧
        (storeSetting key before after s).running = s.running ∧
        (storeSetting key before after s).init = s.init ∧
        (storeSetting key before after s).monitorMap = s.monitorMap := by
    intro key before after s
    unfold storeSetting
    split <;> exact ⟨rfl, rfl, rfl, rfl⟩
  obtain ⟨hobservers, hrunning, hinit, hmonitors⟩ := hstore wakeupDoubleKey (settingsOf s.provider).wakeupDouble
    parsed.wakeupDouble s
  simp only [storeSettings]
  exact ⟨by rw [(hstore _ _ _ _).1, (hstore _ _ _ _).1, hobservers],
    by rw [(hstore _ _ _ _).2.1, (hstore _ _ _ _).2.1, hrunning],
    by rw [(hstore _ _ _ _).2.2.1, (hstore _ _ _ _).2.2.1, hinit],
    by rw [(hstore _ _ _ _).2.2.2, (hstore _ _ _ _).2.2.2, hmonitors]⟩

theorem init_updateFunc (text : JsonText ν) (valueint : ν → Int32) (file : String) (subscribed : Bool) (s : State) :
    (updateFunc text valueint file subscribed s).init = s.init := by
  unfold updateFunc
  dsimp only
  split
  · exact (frame_storeSettings _ s).2.2.1
  · exact (frame_storeSettings _ s).2.2.1

theorem sources_updateFunc (text : JsonText ν) (valueint : ν → Int32) (file : String) (subscribed : Bool) (s : State) :
    getSettingWakeupSources (updateFunc text valueint file subscribed s).provider = getSettingWakeupSources s.provider := by
  unfold updateFunc
  dsimp only
  split
  · exact sources_storeSettings _ s
  · exact sources_storeSettings _ s

theorem built_updateFunc (subscribed : Bool) (s : State) :
    Built (sourcesOf text valueint file (getSettingWakeupSources s.provider))
      (updateFunc text valueint file subscribed s) := by
  intro hne reason hkey hknown
  have hlist := parseOrFile_sources text valueint file false (settingsOf s.provider)
    (getSettingWakeupSources s.provider)
  unfold updateFunc
  dsimp only
  rw [hlist, if_neg hne]
  exact (foldl_emplaceMonitor subscribed _ _ hkey hknown).trans (Option.none_or ..)

/-- The handler of the text. -/
theorem inv_rebuild (h : Inv text valueint file s) (hinit : s.init = .done) (subscribed : Bool) :
    Inv text valueint file (updateFunc text valueint file subscribed (s.onChange .sources)) := by
  have hplaced : Placed (s.onChange .sources) := ⟨h.placed.here, h.placed.single, h.placed.unwatched⟩
  have hafter := init_updateFunc text valueint file subscribed (s.onChange .sources)
  have hsources := sources_updateFunc text valueint file subscribed (s.onChange .sources)
  have hdone : (updateFunc text valueint file subscribed (s.onChange .sources)).init = .done := hafter.trans hinit
  refine ⟨?_, fun _ => ?_, fun t => ?_⟩
  · have hstored := placed_storeSettings hplaced
    unfold updateFunc
    dsimp only
    split
    · exact hstored _
    · exact ⟨(hstored _).here, (hstored _).single, (hstored _).unwatched⟩
  · right
    rw [hsources]
    exact built_updateFunc subscribed _
  · have howed := h.owed t
    rw [target, hinit, ahead, hinit] at howed
    rw [target, hdone, ahead, hdone]
    dsimp only at howed ⊢
    rw [hsources]
    have hkept : Owed text (getSettingWakeupSources s.provider) [] (s.onChange .sources) t :=
      howed.keep rfl (Nat.le_of_eq (pending_onChange_of_ne Observer.noConfusion s).symm) rfl rfl
    have hstored := hkept.storeSettings hplaced
    unfold updateFunc
    dsimp only
    split
    · exact hstored _
    · exact hstored _

/-! ### The controller is initialised -/

theorem mem_of_lookup {name : String} {value : Json ν} {members : List (String × Json ν)}
    (h : lookup name members = some value) : (name, value) ∈ members := by
  induction members with
  | nil => cases h
  | cons member rest ih =>
    obtain ⟨key, first⟩ := member
    rw [Lib.Json.lookup_cons] at h
    split at h
    next hkey =>
      cases h
      rw [hkey]
      exact List.mem_cons_self
    next => exact List.mem_cons_of_mem _ (ih h)

theorem enableIn_eq_some {name : String} {root : List (String × Json ν)} {enable : Bool}
    (h : enableIn name (.object root) = some enable) :
    ∃ node, lookup name root = some (.object node) ∧ lookup "enable" node = some (.bool enable) := by
  simp only [enableIn] at h
  split at h
  next node hnode =>
    split at h
    next henable =>
      cases h
      exact ⟨node, hnode, henable⟩
    next => cases h
  next => cases h

/-- A pickup gesture that is enabled is a source. -/
theorem pickup_source {root : List (String × Json ν)} (henable : enableIn "pickup" (.object root) = some true) :
    ∃ source ∈ Sources.sources valueint root, source.reason = .pickup := by
  obtain ⟨node, hnode, henable⟩ := enableIn_eq_some henable
  have henabled : readEnable (.object node) = true := by
    simp only [readEnable, henable]
  have hsource : sourceOf valueint ("pickup", .object node) =
      some ⟨.pickup, true, Sources.readClick valueint (.object node)⟩ := by
    simp [sourceOf, Sources.mapWakeupDeviceType, henabled]
  exact ⟨_, List.mem_filterMap.mpr ⟨_, mem_of_lookup hnode, hsource⟩, rfl⟩

theorem pickup_mem_sources {jsonStr : String} (first : Bool) (settings : Sources.Settings)
    (henable : enableOf text "pickup" jsonStr = some true) :
    ∃ source ∈ (parseSources text valueint first settings jsonStr).1.sourceList, source.reason = .pickup := by
  obtain ⟨json, hparse, hjson⟩ := Option.bind_eq_some_iff.mp henable
  cases json with
  | object root =>
    rw [Sources.reads_of_parse valueint hparse first settings]
    exact pickup_source hjson
  | _ => cases hjson

theorem parseOrFile_fst (text : JsonText ν) (valueint : ν → Int32) (file : String) (first : Bool)
    (settings : Sources.Settings) (jsonStr : String) :
    (parseOrFile text valueint file first jsonStr settings).2.1 = (parseSources text valueint first settings
      (parseOrFile text valueint file first jsonStr settings).1).1.sourceList := by
  unfold parseOrFile
  dsimp only
  split <;> rfl

/-- A setting that is not there yet agrees with the text, or `Init` will write it. -/
theorem matches_or_promised {t : Toggle} {p : Provider} {sourceList : List WakeupSource} {enable : Bool}
    (hmissing : getStringValue {} t.key p = .error .nameNotFound)
    (hpickup : t = .pickup → enable = true → ∃ source ∈ sourceList, source.reason = .pickup) :
    Matches t enable p ∨ Promised t sourceList p := by
  have hunread : ∀ value, getIntValue {} t.key p ≠ .ok value := by
    intro value hvalue
    simp [getIntValue, Settings.getLongValue, hmissing, Except.map] at hvalue
  cases t with
  | double => exact .inl ⟨fun value hvalue => absurd hvalue (hunread value), fun hpickup => Toggle.noConfusion hpickup⟩
  | pickup =>
    cases enable with
    | false => exact .inl ⟨fun value hvalue => absurd hvalue (hunread value), fun _ _ _ => rfl⟩
    | true => exact .inr ⟨hmissing, hpickup rfl rfl⟩

/-- `Init` has read the text. -/
theorem inv_parse (h : Inv text valueint file s) (hinit : s.init = .reading)
    (hcareful : (configOf text valueint file s.provider).1 = getSettingWakeupSources s.provider ∨
      getStringValue {} wakeupDoubleKey s.provider = .error .nameNotFound ∧
        getStringValue {} wakeupPickupKey s.provider = .error .nameNotFound) :
    Inv text valueint file (parse text valueint file s) := by
  obtain ⟨⟨configJsonStr, sourceList, settings⟩, hconfig⟩ :
      ∃ c, configOf text valueint file s.provider = c := ⟨_, rfl⟩
  have hparsed : parse text valueint file s =
      { storeSettings settings s with init := .storing configJsonStr sourceList } := by
    unfold parse
    rw [hconfig]
  have hnone : s.observers .sources = none := h.placed.unwatched (by rw [hinit]; exact Init.noConfusion)
  obtain ⟨hobservers, -⟩ := frame_storeSettings settings s
  have hplaced := placed_storeSettings h.placed settings
  rw [hparsed]
  refine ⟨⟨hplaced.here, hplaced.single, fun _ => ?_⟩, fun hobserved => ?_, fun t => ?_⟩
  · exact (congrFun hobservers .sources).trans hnone
  · have hstill : (storeSettings settings s).observers .sources = none := (congrFun hobservers .sources).trans hnone
    rw [hstill] at hobserved
    cases hobserved
  · have howed := h.owed t
    rw [target, hinit, ahead, hinit] at howed
    dsimp only at howed
    have hahead : Owed text configJsonStr sourceList s t := by
      rw [hconfig] at hcareful
      obtain hkept | ⟨hdouble, hpickup⟩ := hcareful
      · rw [show configJsonStr = getSettingWakeupSources s.provider from hkept]
        exact howed.mono (fun enable henable => henable) fun source hmem => nomatch hmem
      · have hmissing : getStringValue {} t.key s.provider = .error .nameNotFound := by
          cases t with
          | double => exact hdouble
          | pickup => exact hpickup
        intro hobserved
        obtain hpos | ⟨hflags, -⟩ := howed hobserved
        · exact .inl hpos
        · refine .inr ⟨hflags, fun _ enable henable => matches_or_promised hmissing ?_⟩
          rintro rfl rfl
          have hlist := parseOrFile_fst text valueint file true (settingsOf s.provider)
            (if isValidKey {} wakeupSourcesKey s.provider then getSettingWakeupSources s.provider else file)
          rw [show parseOrFile text valueint file true _ (settingsOf s.provider) = _ from hconfig] at hlist
          rw [show sourceList = _ from hlist]
          exact pickup_mem_sources true _ henable
    exact hahead.storeSettings h.placed settings

theorem inv_store (h : Inv text valueint file s) {configJsonStr : String} {sourceList : List WakeupSource}
    (hinit : s.init = .storing configJsonStr sourceList) :
    Inv text valueint file { s.put wakeupSourcesKey configJsonStr with
      init := if sourceList = [] then .done else .monitoring sourceList } := by
  have hnone : s.observers .sources = none := h.placed.unwatched (by rw [hinit]; exact Init.noConfusion)
  refine ⟨⟨h.placed.here, h.placed.single, fun _ => hnone⟩, fun hobserved => ?_, fun t => ?_⟩
  · rw [show (s.put wakeupSourcesKey configJsonStr).observers .sources = none from hnone] at hobserved
    cases hobserved
  · have howed := h.owed t
    rw [target, hinit, ahead, hinit] at howed
    dsimp only at howed
    have hwritten : Owed text configJsonStr sourceList (s.put wakeupSourcesKey configJsonStr) t :=
      howed.write h.placed _ _ _
    by_cases hempty : sourceList = []
    · rw [if_pos hempty]
      rw [hempty] at hwritten
      rw [target, ahead]
      dsimp only
      rw [sources_put]
      exact hwritten
    · rw [if_neg hempty, target, ahead]
      dsimp only
      rw [sources_put]
      exact hwritten

/-! ### Observers -/

theorem observers_registerObserver_of_ne {o o' : Observer} (hne : o' ≠ o) (s : State) :
    (s.registerObserver o).observers o' = s.observers o' ∧ (s.registerObserver o).pending o' = s.pending o' := by
  unfold State.registerObserver
  split
  · exact ⟨rfl, rfl⟩
  · exact ⟨Function.update_of_ne hne .., Function.update_of_ne hne ..⟩

/-- An observer that is new has been told. -/
theorem told_registerObserver {o : Observer} (hnew : s.observers o = none) :
    (s.registerObserver o).observers o = some (assembleUri o.key s.provider) ∧ 0 < (s.registerObserver o).pending o := by
  unfold State.registerObserver
  rw [hnew, if_neg (by simp)]
  constructor
  · exact Function.update_self ..
  · show 0 < Function.update s.pending o (s.pending o + 2) o
    rw [Function.update_self]
    exact Nat.succ_pos _

theorem frame_registerObserver (o : Observer) (s : State) :
    (s.registerObserver o).provider = s.provider ∧ (s.registerObserver o).running = s.running ∧
      (s.registerObserver o).init = s.init ∧ (s.registerObserver o).monitorMap = s.monitorMap := by
  unfold State.registerObserver
  split <;> exact ⟨rfl, rfl, rfl, rfl⟩

theorem inv_registerObserver (h : Inv text valueint file s) {o : Observer} (hinit : o = .sources → s.init = .done) :
    Inv text valueint file (s.registerObserver o) := by
  cases hold : s.observers o with
  | some table =>
    have hsame : s.registerObserver o = s := by
      unfold State.registerObserver
      rw [hold, if_pos (by simp)]
    rw [hsame]
    exact h
  | none =>
    obtain ⟨hobserver, htold⟩ := told_registerObserver hold
    obtain ⟨hprovider, hrunning, hafter, hmonitors⟩ := frame_registerObserver o s
    refine ⟨⟨fun o' table htable => ?_, fun t => ?_, fun hnot => ?_⟩, fun hobserved => ?_, fun t => ?_⟩
    · rw [hprovider]
      by_cases hsame : o' = o
      · rw [hsame] at htable ⊢
        exact Option.some.inj (htable.symm.trans hobserver)
      · rw [(observers_registerObserver_of_ne hsame s).1] at htable
        exact h.placed.here o' table htable
    · rw [hrunning]
      exact h.placed.single t
    · rw [hafter] at hnot
      by_cases hsame : o = .sources
      · exact absurd (hinit hsame) hnot
      · rw [(observers_registerObserver_of_ne (Ne.symm hsame) s).1]
        exact h.placed.unwatched hnot
    · by_cases hsame : o = .sources
      · rw [hsame] at htold ⊢
        exact .inl htold
      · obtain ⟨hobservers, hpending⟩ := observers_registerObserver_of_ne (Ne.symm hsame) s
        rw [hobservers] at hobserved
        rw [hpending, hprovider]
        refine (h.seen hobserved).imp id fun hbuilt hne reason hkey hknown => ?_
        rw [hmonitors]
        exact hbuilt hne reason hkey hknown
    · rw [show target (s.registerObserver o) = target s by rw [target, target, hafter, hprovider],
        show ahead (s.registerObserver o) = ahead s by rw [ahead, ahead, hafter]]
      by_cases hsame : o = .toggle t
      · rw [hsame] at htold ⊢
        exact fun _ => .inl htold
      · obtain ⟨hobservers, hpending⟩ := observers_registerObserver_of_ne (Ne.symm hsame) s
        exact (h.owed t).keep hobservers (Nat.le_of_eq hpending.symm) (by rw [hrunning]) (by rw [hprovider])

/-- A source gives its setting a first value, or has a setting that is valid. -/
theorem setOriginSettingValue_cases (s : State) (source : WakeupSource) :
    (∃ t : Toggle, source.reason = t.reason ∧
      setOriginSettingValue s source = s.put t.key (toggleText source.enable)) ∨
    setOriginSettingValue s source = s ∧
      ∀ t : Toggle, source.reason = t.reason → isValidKey {} t.key s.provider = true := by
  unfold setOriginSettingValue
  split
  next hdouble => exact .inl ⟨.double, hdouble.1, rfl⟩
  next hdouble =>
    split
    next hpickup => exact .inl ⟨.pickup, hpickup.1, rfl⟩
    next hpickup =>
      refine .inr ⟨rfl, fun t hreason => ?_⟩
      apply Bool.not_eq_false _ |>.mp
      intro hinvalid
      cases t with
      | double => exact hdouble ⟨hreason, hinvalid⟩
      | pickup => exact hpickup ⟨hreason, hinvalid⟩

theorem reason_injective {t t' : Toggle} (h : t.reason = t'.reason) : t = t' := by
  cases t <;> cases t' <;> simp [Toggle.reason] at h ⊢

/-- A promise is kept when its source is looked at. -/
theorem Owed.setOriginSettingValue {jsonStr : String} {source : WakeupSource} {rest : List WakeupSource} {t : Toggle}
    (h : Owed text jsonStr (source :: rest) s t) (hplaced : Placed s) :
    Owed text jsonStr rest (setOriginSettingValue s source) t := by
  -- the promises of the other sources stay
  have hrest : ∀ s' : State, Owed text jsonStr (source :: rest) s' t →
      (source.reason = t.reason → getStringValue {} t.key s'.provider ≠ .error .nameNotFound) →
      Owed text jsonStr rest s' t := by
    intro s' h hkept hobserved
    refine (h hobserved).imp id fun hboth => ⟨hboth.1, fun hnone enable henable => ?_⟩
    refine (hboth.2 hnone enable henable).imp id fun ⟨hmissing, other, hmem, hreason⟩ =>
      ⟨hmissing, other, ?_, hreason⟩
    obtain rfl | hother := List.mem_cons.mp hmem
    · exact absurd hmissing (hkept hreason)
    · exact hother
  obtain ⟨t', hreason, hput⟩ | ⟨hsame, hvalid⟩ := setOriginSettingValue_cases s source
  · rw [hput]
    apply hrest (s.put t'.key (toggleText source.enable)) (h.write hplaced _ _ _)
    intro hown
    obtain rfl : t' = t := reason_injective (hreason.symm.trans hown)
    rw [getStringValue_put, if_pos rfl]
    exact fun heq => nomatch heq
  · rw [hsame]
    apply hrest _ h
    intro hown hmissing
    have := hvalid t hown
    rw [isValidKey, hmissing] at this
    cases this

theorem setOriginSettingValue_frame (s : State) (source : WakeupSource) :
    (setOriginSettingValue s source).observers = s.observers ∧ (setOriginSettingValue s source).init = s.init ∧
      (setOriginSettingValue s source).running = s.running ∧
      getSettingWakeupSources (setOriginSettingValue s source).provider = getSettingWakeupSources s.provider := by
  obtain ⟨t, -, hput⟩ | ⟨hsame, -⟩ := setOriginSettingValue_cases s source
  · rw [hput]
    exact ⟨rfl, rfl, rfl, sources_write (by cases t <;> decide) _ _⟩
  · rw [hsame]
    exact ⟨rfl, rfl, rfl, rfl⟩

theorem Placed.setOriginSettingValue (h : Placed s) (source : WakeupSource) : Placed (setOriginSettingValue s source) := by
  obtain ⟨t, -, hput⟩ | ⟨hsame, -⟩ := setOriginSettingValue_cases s source
  · rw [hput]
    exact h.write _ _ _
  · rw [hsame]
    exact h

/-- After all sources have been looked at, no promise is left. -/
theorem owed_foldl {jsonStr : String} {t : Toggle} (sourceList : List WakeupSource) (s : State) (hplaced : Placed s)
    (h : Owed text jsonStr sourceList s t) :
    Owed text jsonStr [] (sourceList.foldl setOriginSettingValue s) t := by
  induction sourceList generalizing s with
  | nil => exact h
  | cons source rest ih =>
    rw [List.foldl_cons]
    exact ih _ (hplaced.setOriginSettingValue source) (h.setOriginSettingValue hplaced)

theorem foldl_frame (sourceList : List WakeupSource) (s : State) (hplaced : Placed s) :
    Placed (sourceList.foldl setOriginSettingValue s) ∧
      (sourceList.foldl setOriginSettingValue s).observers = s.observers ∧
      getSettingWakeupSources (sourceList.foldl setOriginSettingValue s).provider = getSettingWakeupSources s.provider := by
  induction sourceList generalizing s with
  | nil => exact ⟨hplaced, rfl, rfl⟩
  | cons source rest ih =>
    obtain ⟨hobservers, -, -, hsources⟩ := setOriginSettingValue_frame s source
    obtain ⟨hrest, hrestObservers, hrestSources⟩ := ih _ (hplaced.setOriginSettingValue source)
    rw [List.foldl_cons]
    exact ⟨hrest, hrestObservers.trans hobservers, hrestSources.trans hsources⟩

/-- `Init` is over. -/
theorem inv_monitor (h : Inv text valueint file s) {sourceList : List WakeupSource}
    (hinit : s.init = .monitoring sourceList) (subscribed : Bool) :
    Inv text valueint file (monitorSources subscribed sourceList s) := by
  have hnone : s.observers .sources = none := h.placed.unwatched (by rw [hinit]; exact Init.noConfusion)
  obtain ⟨hplaced, hobservers, hsources⟩ := foldl_frame sourceList s h.placed
  apply inv_registerObserver
  · refine ⟨⟨hplaced.here, hplaced.single, fun hnot => absurd rfl hnot⟩, fun hobserved => ?_, fun t => ?_⟩
    · dsimp only at hobserved
      rw [hobservers, hnone] at hobserved
      cases hobserved
    · have howed := h.owed t
      rw [target, hinit, ahead, hinit] at howed
      rw [target, ahead]
      dsimp only at howed ⊢
      rw [hsources]
      exact owed_foldl sourceList s h.placed howed
  · exact fun _ => rfl

theorem inv_registerObservers (h : Inv text valueint file s) : Inv text valueint file (registerObservers s) := by
  have hdouble : Inv text valueint file (s.registerObserver (.toggle .double)) :=
    inv_registerObserver h fun heq => Observer.noConfusion heq
  exact inv_registerObserver hdouble fun heq => Observer.noConfusion heq

/-- An observer is found where it was registered. -/
theorem observers_unregisterObserver (h : Placed s) (o : Observer) :
    (s.unregisterObserver o).observers o = none ∧
      (∀ o', s.observers o' = none → (s.unregisterObserver o).observers o' = none) ∧
      (s.unregisterObserver o).running = s.running ∧ Placed (s.unregisterObserver o) := by
  unfold State.unregisterObserver
  split
  next hfound =>
    refine ⟨Function.update_self .., fun o' hnone => ?_, rfl, fun o' table htable => ?_, h.single, fun hnot => ?_⟩
    · show Function.update s.observers o none o' = none
      rw [Function.update_apply, hnone, ite_self]
    · have htable : Function.update s.observers o none o' = some table := htable
      rw [Function.update_apply] at htable
      split at htable
      · cases htable
      · exact h.here o' table htable
    · show Function.update s.observers o none _ = none
      rw [Function.update_apply, h.unwatched hnot, ite_self]
  next hother =>
    refine ⟨?_, fun o' hnone => hnone, rfl, h⟩
    cases hold : s.observers o with
    | none => rfl
    | some table =>
      rw [hold, h.here o table hold] at hother
      exact absurd rfl hother

/-- The observers of the old user are all taken away, and those of the new one are told. -/
theorem inv_userSwitched (h : Inv text valueint file s) (activedIds : Option (List Int)) :
    Inv text valueint file (userSwitched activedIds s) := by
  obtain ⟨hdouble, -, hrunning₁, hplaced₁⟩ := observers_unregisterObserver h.placed (.toggle .double)
  obtain ⟨hpickup, hkept₂, hrunning₂, hplaced₂⟩ := observers_unregisterObserver hplaced₁ (.toggle .pickup)
  obtain ⟨hsources, hkept₃, hrunning₃, -⟩ := observers_unregisterObserver hplaced₂ .sources
  apply inv_registerObservers
  have hnone : ∀ o,
      (((s.unregisterObserver (.toggle .double)).unregisterObserver (.toggle .pickup)).unregisterObserver
        .sources).observers o = none := by
    intro o
    cases o with
    | sources => exact hsources
    | toggle t =>
      cases t with
      | double => exact hkept₃ _ (hkept₂ _ hdouble)
      | pickup => exact hkept₃ _ hpickup
  refine ⟨⟨fun o table htable => ?_, fun t => ?_, fun _ => hnone _⟩, fun hobserved => ?_, fun t hobserved => ?_⟩
  · rw [show _ = none from hnone o] at htable
    cases htable
  · dsimp only
    rw [hrunning₃, hrunning₂, hrunning₁]
    exact h.placed.single t
  · rw [show _ = none from hnone .sources] at hobserved
    cases hobserved
  · rw [show _ = none from hnone (.toggle t)] at hobserved
    cases hobserved

theorem inv_next (hempty : text.parse "" = none) {e : Event} {s' : State} (h : Inv text valueint file s)
    (hcareful : Careful text valueint file s e) (hnext : next text valueint file s e = some s') :
    Inv text valueint file s' := by
  cases e with
  | write scope key value =>
    cases hnext
    exact h.write hcareful _ _
  | start t uninitialised =>
    simp only [next, Option.ite_none_right_eq_some, Option.some.injEq] at hnext
    obtain ⟨-, rfl⟩ := hnext
    exact inv_start h hcareful uninitialised
  | edit t enable =>
    simp only [next, Option.ite_none_right_eq_some, Option.some.injEq] at hnext
    obtain ⟨hrunning, rfl⟩ := hnext
    exact inv_edit hempty h hcareful hrunning
  | editLid enable =>
    cases hnext
    exact inv_editLid h enable hcareful
  | rebuild subscribed =>
    simp only [next, Option.ite_none_right_eq_some, Option.some.injEq] at hnext
    obtain ⟨⟨-, hinit⟩, rfl⟩ := hnext
    exact inv_rebuild h hinit subscribed
  | parse =>
    simp only [next, Option.ite_none_right_eq_some, Option.some.injEq] at hnext
    obtain ⟨hinit, rfl⟩ := hnext
    exact inv_parse h hinit hcareful
  | store =>
    simp only [next] at hnext
    split at hnext
    next hinit =>
      cases hnext
      exact inv_store h hinit
    next => cases hnext
  | monitor subscribed =>
    simp only [next] at hnext
    split at hnext
    next hinit =>
      cases hnext
      exact inv_monitor h hinit subscribed
    next => cases hnext
  | registerObservers =>
    cases hnext
    exact inv_registerObservers h
  | userSwitched activedIds =>
    simp only [next, Option.ite_none_right_eq_some, Option.some.injEq] at hnext
    obtain ⟨-, rfl⟩ := hnext
    exact inv_userSwitched h activedIds

end Steps

/-! ## What is settled -/

/-- Nobody has anything left to do. -/
structure Quiet (s : State) : Prop where
  init : s.init = .done
  observed : ∀ o, (s.observers o).isSome = true
  pending : ∀ o, s.pending o = 0
  running : ∀ t, s.running t = []

section Results

variable {text : JsonText ν} {valueint : ν → Int32} {file : String} {cfg : Config} {tables : String → Rows} {s : State}

theorem inv_of_reach (hempty : text.parse "" = none)
    (hreach : (system text valueint file cfg tables).Reach (Careful text valueint file) s) : Inv text valueint file s := by
  refine hreach.invariant (I := Inv text valueint file) (fun s hinit => ?_) fun s s' e h hok hnext =>
    inv_next hempty h hok hnext
  cases hinit
  refine ⟨⟨fun o table htable => ?_, fun t => Nat.zero_le 1, fun _ => rfl⟩, fun hobserved => ?_,
    fun t hobserved => ?_⟩
  · cases htable
  · cases hobserved
  · cases hobserved

theorem eq_pickup_of_map {key : String} {click : UInt32} (h : Sources.mapWakeupDeviceType key click = .pickup) :
    key = "pickup" := by
  by_contra hne
  simp only [Sources.mapWakeupDeviceType] at h
  repeat' split at h
  all_goals contradiction

/-- Among distinct names there is one value of a name. -/
theorem lookup_of_mem {name : String} {value : Json ν} {members : List (String × Json ν)}
    (hnodup : (members.map Prod.fst).Nodup) (hmem : (name, value) ∈ members) : lookup name members = some value := by
  induction members with
  | nil => cases hmem
  | cons member rest ih =>
    obtain ⟨key, first⟩ := member
    rw [List.map_cons, List.nodup_cons] at hnodup
    rw [Lib.Json.lookup_cons]
    obtain heq | hrest := List.mem_cons.mp hmem
    · cases heq
      rw [if_pos rfl]
    · have hne : key ≠ name := by
        rintro rfl
        exact hnodup.1 (List.mem_map.mpr ⟨_, hrest, rfl⟩)
      rw [if_neg hne]
      exact ih hnodup.2 hrest

/-- A pickup gesture is a source exactly if its member enables it. -/
theorem pickup_source_iff {root : List (String × Json ν)} {enable : Bool} (hnodup : (root.map Prod.fst).Nodup)
    (henable : enableIn "pickup" (.object root) = some enable) :
    (∃ source ∈ Sources.sources valueint root, source.reason = .pickup) ↔ enable = true := by
  constructor
  · rintro ⟨source, hmem, hreason⟩
    obtain ⟨⟨key, value⟩, hmember, hsource⟩ := List.mem_filterMap.mp hmem
    simp only [sourceOf, Option.ite_none_right_eq_some, Option.some.injEq] at hsource
    obtain ⟨⟨-, henabled⟩, rfl⟩ := hsource
    obtain rfl := eq_pickup_of_map hreason
    obtain ⟨node, hnode, hflag⟩ := enableIn_eq_some henable
    obtain rfl : value = .object node := Option.some.inj ((lookup_of_mem hnodup hmember).symm.trans hnode)
    simpa only [readEnable, hflag] using henabled
  · rintro rfl
    exact pickup_source henable

end Results

/-- A pickup gesture and the key. -/
def gestures (pickup : Bool) : List (String × Json (Fin 10)) :=
  [("pickup", .object [("enable", .bool pickup)]), ("powerkey", .object [])]

def gesturesFile : String :=
  compact.print (.object (gestures true))

/-- A device starts with the sources of the file, and the first user turns the pickup gesture off. -/
def pickupOff : List Event :=
  [.parse, .store, .monitor true, .registerObservers, .start .double 0, .edit .double false, .start .double 0,
    .edit .double false, .start .pickup 0, .edit .pickup true, .start .pickup 0, .edit .pickup true, .rebuild true,
    .rebuild true, .write (some 100) wakeupPickupKey "0", .start .pickup 0, .edit .pickup false, .rebuild true]

def runOff (events : List Event) : Option State :=
  (system compact Sources.digitValue gesturesFile {} fun _ => []).checkedRun
    (Careful compact Sources.digitValue gesturesFile) { provider := .initial {} fun _ => [] } events

/-- The steps of the handlers. -/
def Event.IsHandler : Event → Prop
  | .start _ _ | .edit _ _ | .rebuild _ => True
  | _ => False

/-- What the handlers have to do; a handler of a setting may give the one of the text something to do. -/
def work (s : State) : Nat :=
  3 * (s.pending (.toggle .double) + s.pending (.toggle .pickup)) +
    2 * ((s.running .double).length + (s.running .pickup).length) + s.pending .sources

section Drain

variable {text : JsonText ν} {valueint : ν → Int32} {file : String} {s s' : State}

theorem pending_write_of_ne {o : Observer} {key : String} (hne : o.key ≠ key) (table value : String) (s : State) :
    (s.write table key value).pending o = s.pending o :=
  if_neg fun htold => hne htold.2

theorem pending_changeSourceConfig (text : JsonText ν) (e : Editor) (enable : Bool) (s : State) :
    (∀ t, (changeSourceConfig text e enable s).pending (.toggle t) = s.pending (.toggle t)) ∧
      (changeSourceConfig text e enable s).pending .sources ≤ s.pending .sources + 1 := by
  obtain ⟨hsame, -⟩ | hput := changeSourceConfig_cases text e enable s
  · rw [hsame]
    exact ⟨fun t => rfl, Nat.le_succ _⟩
  · rw [hput]
    refine ⟨fun t => pending_write_of_ne (by cases t <;> decide) _ _ s, ?_⟩
    show (if _ then _ else _) ≤ s.pending .sources + 1
    split
    · exact Nat.le_refl _
    · exact Nat.le_succ _

/-- After the first parse only the setting of the lid is written. -/
theorem settings_parseOrFile (text : JsonText ν) (valueint : ν → Int32) (file jsonStr : String)
    (settings : Sources.Settings) :
    (parseOrFile text valueint file false jsonStr settings).2.2.wakeupDouble = settings.wakeupDouble ∧
      (parseOrFile text valueint file false jsonStr settings).2.2.wakeupPickup = settings.wakeupPickup := by
  have hproc : ∀ (members : List (String × Json ν)) (parsed : WakeupSources × Sources.Settings),
      (members.foldl (parseSourcesProc valueint false) parsed).2.wakeupDouble = parsed.2.wakeupDouble ∧
        (members.foldl (parseSourcesProc valueint false) parsed).2.wakeupPickup = parsed.2.wakeupPickup := by
    intro members
    induction members with
    | nil => exact fun parsed => ⟨rfl, rfl⟩
    | cons member rest ih =>
      intro parsed
      obtain ⟨hdouble, hpickup⟩ := ih (parseSourcesProc valueint false parsed member)
      have hstep : (parseSourcesProc valueint false parsed member).2.wakeupDouble = parsed.2.wakeupDouble ∧
          (parseSourcesProc valueint false parsed member).2.wakeupPickup = parsed.2.wakeupPickup := by
        unfold parseSourcesProc
        dsimp only
        split
        · exact ⟨rfl, rfl⟩
        · simp only [Sources.writeSettings, Bool.and_false, Bool.false_eq_true, if_false]
          split <;> exact ⟨rfl, rfl⟩
      exact ⟨hdouble.trans hstep.1, hpickup.trans hstep.2⟩
  have hparse : ∀ jsonStr,
      (parseSources text valueint false settings jsonStr).2.wakeupDouble = settings.wakeupDouble ∧
      (parseSources text valueint false settings jsonStr).2.wakeupPickup = settings.wakeupPickup := by
    intro jsonStr
    unfold Sources.parseSources
    split
    · exact hproc _ _
    · exact ⟨rfl, rfl⟩
    · exact ⟨rfl, rfl⟩
  unfold parseOrFile
  dsimp only
  split
  · exact hparse file
  · exact hparse jsonStr

theorem storeSetting_same (key : String) (setting : Option Bool) (s : State) : storeSetting key setting setting s = s := by
  cases setting <;> rfl

/-- The handler of the text gives nobody anything to do. -/
theorem frame_updateFunc (text : JsonText ν) (valueint : ν → Int32) (file : String) (subscribed : Bool) (s : State) :
    (updateFunc text valueint file subscribed s).pending = s.pending ∧
      (updateFunc text valueint file subscribed s).running = s.running ∧
      (updateFunc text valueint file subscribed s).observers = s.observers := by
  have hsettings := settings_parseOrFile text valueint file (getSettingWakeupSources s.provider) (settingsOf s.provider)
  have hstored : ∀ parsed : Sources.Settings, parsed.wakeupDouble = (settingsOf s.provider).wakeupDouble →
      parsed.wakeupPickup = (settingsOf s.provider).wakeupPickup → (storeSettings parsed s).pending = s.pending := by
    intro parsed hdouble hpickup
    simp only [storeSettings]
    rw [hdouble, hpickup, storeSetting_same, storeSetting_same]
    unfold storeSetting
    split
    · funext o
      exact pending_write_of_ne (by cases o with | sources => decide | toggle t => cases t <;> decide) _ _ s
    · rfl
  obtain ⟨hobservers, hrunning, -⟩ := frame_storeSettings
    (parseOrFile text valueint file false (getSettingWakeupSources s.provider) (settingsOf s.provider)).2.2 s
  have hpending := hstored _ hsettings.1 hsettings.2
  unfold updateFunc
  dsimp only
  split
  · exact ⟨hpending, hrunning, hobservers⟩
  · exact ⟨hpending, hrunning, hobservers⟩

theorem work_startUpdate {t : Toggle} (hpos : 0 < s.pending (.toggle t)) (uninitialised : Int) :
    work (startUpdate t uninitialised s) < work s := by
  have hown : (startUpdate t uninitialised s).pending (.toggle t) = s.pending (.toggle t) - 1 := pending_onChange _ s
  have hother : ∀ o, o ≠ .toggle t → (startUpdate t uninitialised s).pending o = s.pending o :=
    fun o hne => pending_onChange_of_ne hne s
  have hflag : (startUpdate t uninitialised s).running t = t.get uninitialised s.provider :: s.running t :=
    Function.update_self ..
  have hflags : ∀ t', t' ≠ t → (startUpdate t uninitialised s).running t' = s.running t' :=
    fun t' hne => Function.update_of_ne hne ..
  unfold work
  cases t with
  | double =>
    rw [hown, hflag, hother (.toggle .pickup) (by decide), hother .sources (by decide), hflags .pickup (by decide),
      List.length_cons]
    omega
  | pickup =>
    rw [hown, hflag, hother (.toggle .double) (by decide), hother .sources (by decide), hflags .double (by decide),
      List.length_cons]
    omega

theorem work_edit {t : Toggle} {enable : Bool} (hrunning : enable ∈ s.running t) :
    work (changeSourceConfig text t.editor enable (takeFlag t enable s)) < work s := by
  obtain ⟨htoggles, hsources⟩ := pending_changeSourceConfig text t.editor enable (takeFlag t enable s)
  have hsources : _ ≤ s.pending .sources + 1 := hsources
  have htoggles : ∀ t', _ = s.pending (.toggle t') := htoggles
  obtain ⟨-, hflags, -⟩ := frame_changeSourceConfig text t t.editor enable (takeFlag t enable s)
  have hflag : ((takeFlag t enable s).running t).length = (s.running t).length - 1 := by
    rw [show (takeFlag t enable s).running t = (s.running t).erase enable from Function.update_self ..]
    exact List.length_erase_of_mem hrunning
  have hpos : 0 < (s.running t).length := List.length_pos_of_mem hrunning
  unfold work
  rw [htoggles .double, htoggles .pickup, hflags]
  cases t with
  | double =>
    rw [hflag, running_takeFlag_of_ne (by decide)]
    omega
  | pickup =>
    rw [hflag, running_takeFlag_of_ne (by decide)]
    omega

theorem work_rebuild (hpos : 0 < s.pending .sources) (subscribed : Bool) :
    work (updateFunc text valueint file subscribed (s.onChange .sources)) < work s := by
  obtain ⟨hpending, hrunning, -⟩ := frame_updateFunc text valueint file subscribed (s.onChange .sources)
  unfold work
  rw [hpending, hrunning, pending_onChange, pending_onChange_of_ne (by decide), pending_onChange_of_ne (by decide)]
  show _ + 2 * ((s.running .double).length + (s.running .pickup).length) + _ < _
  omega

theorem work_handler {e : Event} (hhandler : e.IsHandler) (hnext : next text valueint file s e = some s') :
    work s' < work s := by
  cases e with
  | start t uninitialised =>
    simp only [next, Option.ite_none_right_eq_some, Option.some.injEq] at hnext
    obtain ⟨hpos, rfl⟩ := hnext
    exact work_startUpdate hpos uninitialised
  | edit t enable =>
    simp only [next, Option.ite_none_right_eq_some, Option.some.injEq] at hnext
    obtain ⟨hrunning, rfl⟩ := hnext
    exact work_edit hrunning
  | rebuild subscribed =>
    simp only [next, Option.ite_none_right_eq_some, Option.some.injEq] at hnext
    obtain ⟨⟨hpos, -⟩, rfl⟩ := hnext
    exact work_rebuild hpos subscribed
  | write _ _ _ | editLid _ | parse | store | monitor _ | registerObservers | userSwitched _ => exact absurd hhandler id

/-- A handler that has something to do can do it. -/
theorem quiet_or_handler (text : JsonText ν) (valueint : ν → Int32) (file : String) (hinit : s.init = .done)
    (hobserved : ∀ o, (s.observers o).isSome = true) :
    Quiet s ∨ ∃ e s', e.IsHandler ∧ Careful text valueint file s e ∧ next text valueint file s e = some s' ∧
      s'.init = .done ∧ s'.observers = s.observers := by
  by_cases hrunning : ∃ t enable, enable ∈ s.running t
  · obtain ⟨t, enable, hmem⟩ := hrunning
    have hnext : next text valueint file s (.edit t enable) =
        some (changeSourceConfig text t.editor enable (takeFlag t enable s)) := if_pos hmem
    obtain ⟨hobservers, -⟩ := frame_changeSourceConfig text t t.editor enable (takeFlag t enable s)
    refine .inr ⟨.edit t enable, _, trivial, ?_, hnext, ?_, hobservers⟩
    · show s.init.isStoring = false
      rw [hinit]
      rfl
    · rw [init_changeSourceConfig]
      exact hinit
  · have hidle : ∀ t, s.running t = [] := by
      intro t
      apply List.eq_nil_iff_forall_not_mem.mpr
      exact fun enable hmem => hrunning ⟨t, enable, hmem⟩
    by_cases hpending : ∃ t, 0 < s.pending (.toggle t)
    · obtain ⟨t, hpos⟩ := hpending
      have hnext : next text valueint file s (.start t 0) = some (startUpdate t 0 s) := if_pos hpos
      exact .inr ⟨.start t 0, _, trivial, hidle t, hnext, hinit, rfl⟩
    · by_cases hsources : 0 < s.pending .sources
      · have hnext : next text valueint file s (.rebuild true) =
            some (updateFunc text valueint file true (s.onChange .sources)) := if_pos ⟨hsources, hinit⟩
        obtain ⟨-, -, hobservers⟩ := frame_updateFunc text valueint file true (s.onChange .sources)
        exact .inr ⟨.rebuild true, _, trivial, trivial, hnext, (init_updateFunc ..).trans hinit, hobservers⟩
      · refine .inl ⟨hinit, hobserved, fun o => ?_, hidle⟩
        cases o with
        | toggle t => exact Nat.eq_zero_of_not_pos fun hpos => hpending ⟨t, hpos⟩
        | sources => exact Nat.eq_zero_of_not_pos hsources

end Drain

end PowerMgr.Wakeup.Synced
