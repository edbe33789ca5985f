import Std.Data.TreeMap
import Std.Data.String.ToInt
import PowerMgr.Lib.System
import PowerMgr.Lib.TreeMap
import PowerMgr.Lib.Text

/-! # The settings provider

`SettingProvider` keeps settings as texts in tables of DataShare: one table for everybody, and one for each
user with the keys registered in `needMultiUserStrMap`.  Which table is meant is part of the URI, which is
made anew for each call from the user id that is current then.

* `Provider`, `putStringValue`, `getStringValue` — the provider over the rows of the tables, with numbers
  and truth values as texts, and the migration of three keys into a user's table.
* `system` — reads and writes while users are switched and keys are registered.
* `uriOf_injective` — users and tables do not get mixed up.
* `get_last_put` — a read finds what was written last for the user who is current, whoever was in between.
* `value_kept` — numbers and truth values survive whatever is written for other keys and users.
* `boot_migration` — what the migration does, and for whom.
-/

namespace PowerMgr.Settings

open Std (TreeMap)
open Lib.TreeMap (getElem?_insertIfNew_eq)
open Lib.Text (parseLong? parseLong?_toString replaceAll replaceAll_inj occurrences)

inductive ErrCode where
  | noInit
  | invalidOperation
  | nameNotFound
  | invalidValue
  deriving DecidableEq, Repr

/-! ## DataShare -/

/-- The rows of a table, `KEYWORD` and `VALUE`. -/
abbrev Rows := List (String × String)

/-- All rows under the key get the value; the second part is their number. -/
def Rows.update (key value : String) (rows : Rows) : Rows × Nat :=
  (rows.map fun row => if row.1 = key then (key, value) else row, rows.countP fun row => row.1 = key)

def Rows.insert (key value : String) (rows : Rows) : Rows :=
  rows ++ [(key, value)]

/-- The value in the first row under the key. -/
def Rows.query (key : String) (rows : Rows) : Option String :=
  (rows.find? fun row => row.1 = key).map Prod.snd

/-- What DataShare does in one call of the provider. -/
structure Share where
  creates : Bool := true
  queries : Bool := true
  getsString : Bool := true
  updates : Bool := true
  inserts : Bool := true
  deriving DecidableEq, Repr

/-! ## The provider -/

def settingUriNormal : String := "SETTINGSDATA?Proxy=true"

def settingUriUserSecure : String := "USER_SETTINGSDATA_SECURE_##USERID##?Proxy=true"

def useridReplace : String := "##USERID##"

def initialUserId : Int := 100

def multiUserStrVecSizeMax : Nat := 1000

def wakeupDoubleKey : String := "settings.power.wakeup_double_click"

def wakeupPickupKey : String := "settings.power.wakeup_pick_up"

def wakeupSourcesKey : String := "settings.power.wakeup_sources"

/-- The build: settings of their own for mains and battery, and a screen saver. -/
structure Config where
  enableChargingTypeSetting : Bool := false
  screenSaver : Bool := false
  deriving DecidableEq, Repr

/-- The keys in `needMultiUserStrMap` from the start. -/
def multiUserKeys (cfg : Config) : List String :=
  [wakeupDoubleKey, wakeupPickupKey, wakeupSourcesKey, "during_call_state"] ++
    (if cfg.enableChargingTypeSetting then
      ["settings.display.ac.screen_off_timeout", "settings.display.dc.screen_off_timeout",
        "settings.power.ac.sleep_timeout", "settings.power.dc.sleep_timeout",
        "settings.power.ac.suspend_sources", "settings.power.dc.suspend_sources"] else []) ++
    (if cfg.screenSaver then
      ["settings.momentx.show_wait_time_with_charging", "settings.momentx.show_wait_time_with_battery"] else [])

/-- The provider, and the tables by the part of the URI that names them. -/
structure Provider where
  tables : String → Rows
  currentUserId : Int := initialUserId
  needMultiUserStrMap : TreeMap String String

def Provider.initial (cfg : Config) (tables : String → Rows) : Provider where
  tables := tables
  needMultiUserStrMap := (multiUserKeys cfg).foldl (fun map key => map.insertIfNew key settingUriUserSecure) ∅

/-- What `GetUriPrefix` puts in place of the marker. -/
def userUri (uri : String) (userId : Int) : String :=
  String.ofList (replaceAll useridReplace.toList (toString userId).toList uri.toList)

def getUriPrefix (userId : Int) (key : String) (p : Provider) : String :=
  match p.needMultiUserStrMap[key]? with
  | some uri => userUri uri userId
  | none => settingUriNormal

/-- The table `AssembleUri` names. -/
def assembleUri (key : String) (p : Provider) : String :=
  getUriPrefix p.currentUserId key p

def readRow (share : Share) (key : String) (rows : Rows) : Except ErrCode String :=
  if !share.creates then .error .noInit
  else if !share.queries then .error .invalidOperation
  else match rows.query key with
    | none => .error .nameNotFound
    | some value => if share.getsString then .ok value else .error .invalidValue

def getStringValue (share : Share) (key : String) (p : Provider) : Except ErrCode String :=
  readRow share key (p.tables (assembleUri key p))

def getStringValueGlobal (share : Share) (key : String) (p : Provider) : Except ErrCode String :=
  readRow share key (p.tables settingUriNormal)

/-- A row is inserted if none was updated, also if the update failed; nobody looks at what became of it. -/
def writeRow (share : Share) (key value : String) (rows : Rows) : Rows :=
  let (updated, count) := if share.updates then rows.update key value else (rows, 0)
  if 0 < count then updated else if share.inserts then updated.insert key value else updated

/-- `SettingProvider::PutStringValue`; the second part is whether it returns `ERR_OK`. -/
def putStringValue (share : Share) (key value : String) (p : Provider) : Provider × Bool :=
  if !share.creates then (p, false)
  else
    let table := assembleUri key p
    ({ p with tables := Function.update p.tables table (writeRow share key value (p.tables table)) }, true)

def getLongValue (share : Share) (key : String) (p : Provider) : Except ErrCode Int :=
  match getStringValue share key p with
  | .error ret => .error ret
  | .ok valueStr => match parseLong? valueStr with
    | some value => .ok value
    | none => .error .invalidValue

def getIntValue (share : Share) (key : String) (p : Provider) : Except ErrCode Int :=
  (getLongValue share key p).map fun value => value.bmod (2 ^ 32)

def getBoolValue (share : Share) (key : String) (p : Provider) : Except ErrCode Bool :=
  (getStringValue share key p).map fun valueStr => valueStr = "true"

/-- The text of a truth value in `PutBoolValue`; `PutIntValue` and `PutLongValue` use `std::to_string`. -/
def boolText (value : Bool) : String :=
  if value then "true" else "false"

def isValid : Except ErrCode String → Bool
  | .ok value => value ≠ ""
  | .error _ => false

def isValidKey (share : Share) (key : String) (p : Provider) : Bool :=
  isValid (getStringValue share key p)

def isValidKeyGlobal (share : Share) (key : String) (p : Provider) : Bool :=
  isValid (getStringValueGlobal share key p)

/-- One of the three conditions of `IsNeedDataMigrationCopy`. -/
def needsCopy (share : Share) (p : Provider) (key : String) : Bool :=
  isValidKeyGlobal share key p && !isValidKey share key p

def isNeedDataMigrationCopy (share : Share) (p : Provider) : Bool :=
  needsCopy share p wakeupPickupKey && (needsCopy share p wakeupDoubleKey && needsCopy share p wakeupSourcesKey)

/-- One of the three parts of `DataMigrationCopy`. -/
def copyKey (share : Share) (key : String) (p : Provider) : Provider :=
  match getStringValueGlobal share key p with
  | .ok value => (putStringValue share key value p).1
  | .error _ => p

def dataMigrationCopy (share : Share) (p : Provider) : Provider :=
  copyKey share wakeupSourcesKey (copyKey share wakeupPickupKey (copyKey share wakeupDoubleKey p))

def copyDataForUpdateScene (share : Share) (p : Provider) : Provider :=
  if isNeedDataMigrationCopy share p then dataMigrationCopy share p else p

/-- `UpdateCurrentUserId`; there is no list if the query fails. -/
def updateCurrentUserId (activedIds : Option (List Int)) (p : Provider) : Provider :=
  match activedIds with
  | some (userId :: _) => { p with currentUserId := userId }
  | _ => p

def addMultiUserKey (key uri : String) (p : Provider) : Provider × Bool :=
  if p.needMultiUserStrMap.contains key then (p, true)
  else if multiUserStrVecSizeMax ≤ p.needMultiUserStrMap.size then (p, false)
  else ({ p with needMultiUserStrMap := p.needMultiUserStrMap.insertIfNew key uri }, true)

/-- The migration and the first look at the active users, in the order of `BootCompletedCallback`. -/
def bootMigration (share : Share) (activedIds : Option (List Int)) (p : Provider) : Provider :=
  updateCurrentUserId activedIds (copyDataForUpdateScene share p)

/-! ## Runs -/

/-- A write that returned `ERR_OK`, for one user or for all. -/
structure Put where
  scope : Option Int
  key : String
  value : String
  deriving DecidableEq, Repr

structure State where
  provider : Provider
  puts : List Put := []

inductive Event where
  | put (share : Share) (key value : String)
  | updateCurrentUserId (activedIds : Option (List Int))
  | addMultiUserKey (key uri : String)

/-- Whose value of a key is read and written now. -/
def scopeOf (key : String) (p : Provider) : Option Int :=
  if p.needMultiUserStrMap.contains key then some p.currentUserId else none

def next (s : State) : Event → Option State
  | .put share key value =>
    let (provider, ok) := putStringValue share key value s.provider
    some { s with
      provider := provider
      puts := if ok then { scope := scopeOf key s.provider, key := key, value := value } :: s.puts else s.puts }
  | .updateCurrentUserId activedIds => some { s with provider := updateCurrentUserId activedIds s.provider }
  | .addMultiUserKey key uri => some { s with provider := (addMultiUserKey key uri s.provider).1 }

def system (cfg : Config) (tables : String → Rows) : Lib.System State Event where
  init := (· = { provider := .initial cfg tables })
  next := next

/-- DataShare can be written to when it can be opened, and keys are registered with the default URI. -/
def Careful (_ : State) : Event → Prop
  | .put share _ _ => share.creates = true → share.updates = true ∧ share.inserts = true
  | .addMultiUserKey _ uri => uri = settingUriUserSecure
  | _ => True

instance (s : State) (event : Event) : Decidable (Careful s event) :=
  match event with
  | .put _ _ _ => inferInstanceAs (Decidable (_ → _))
  | .addMultiUserKey _ _ => inferInstanceAs (Decidable (_ = _))
  | .updateCurrentUserId _ => .isTrue trivial

/-! ## Tables -/

theorem query_update (key value other : String) (rows : Rows) :
    (rows.update key value).1.query other =
      if key = other ∧ 0 < (rows.update key value).2 then some value else rows.query other := by
  unfold Rows.update Rows.query
  induction rows with
  | nil => simp
  | cons row rest ih =>
    rw [List.map_cons, List.countP_cons]
    by_cases hrow : row.1 = key
    · by_cases hother : key = other
      · subst hother
        simp [hrow]
      · have hnot : ¬row.1 = other := by rwa [hrow]
        simp only [hrow, hother, false_and, if_false, if_true, List.find?_cons, decide_false] at ih ⊢
        exact ih
    · by_cases hother : row.1 = other
      · have hnot : ¬other = key := fun hkey => hrow (hother.trans hkey)
        simp [hother, hnot, Ne.symm hnot]
      · simp only [hrow, hother, if_false, List.find?_cons, decide_false, Bool.false_eq_true, Nat.add_zero] at ih ⊢
        exact ih

theorem query_eq_none {key : String} {rows : Rows} : rows.query key = none ↔ rows.countP (fun row => row.1 = key) = 0 := by
  simp [Rows.query, List.countP_eq_zero]

theorem query_insert {key other : String} (value : String) {rows : Rows} (habsent : rows.query key = none) :
    (rows.insert key value).query other = if key = other then some value else rows.query other := by
  unfold Rows.insert Rows.query at *
  rw [List.find?_append]
  by_cases hother : key = other
  · subst hother
    rw [Option.map_eq_none_iff] at habsent
    simp [habsent]
  · simp [hother]

/-- A write that works is read under its key, and leaves the other keys alone. -/
theorem query_writeRow {share : Share} (hworks : share.updates = true ∧ share.inserts = true) (key value other : String)
    (rows : Rows) : (writeRow share key value rows).query other = if key = other then some value else rows.query other := by
  simp only [writeRow, hworks.1, hworks.2, if_true]
  by_cases hfound : 0 < (rows.update key value).2
  · rw [if_pos hfound, query_update]
    simp [hfound]
  · have hnone : (rows.update key value).2 = 0 := Nat.eq_zero_of_not_pos hfound
    have habsent : (rows.update key value).1.query key = none := by
      rw [query_update, if_neg (by simp [hnone])]
      exact query_eq_none.mpr hnone
    rw [if_neg hfound, query_insert value habsent, query_update]
    simp [hnone]

/-! ## URIs -/

/-- The table of a user, or of everybody. -/
def uriOf : Option Int → String
  | some userId => userUri settingUriUserSecure userId
  | none => settingUriNormal

theorem userUri_inj {uri : String} {userId other : Int} (hmarker : 0 < occurrences useridReplace.toList 0 uri.toList)
    (heq : userUri uri userId = userUri uri other) : userId = other := by
  have hlist := String.ofList_injective heq
  have htext : (toString userId).toList = (toString other).toList := replaceAll_inj hmarker hlist
  exact Int.repr_injective (String.toList_injective htext)

/-- Different users have different tables, and none has everybody's. -/
theorem uriOf_injective : Function.Injective uriOf := by
  have hnormal : ∀ userId, uriOf (some userId) ≠ uriOf none := by
    intro userId heq
    have hhead := congrArg (fun uri : String => uri.toList.head?) heq
    simp only [uriOf, userUri, String.toList_ofList] at hhead
    have huser : (replaceAll useridReplace.toList (toString userId).toList settingUriUserSecure.toList).head? = some 'U' :=
      rfl
    rw [huser] at hhead
    exact absurd hhead (by decide)
  intro scope other heq
  cases scope with
  | none =>
    cases other with
    | none => rfl
    | some userId => exact absurd heq.symm (hnormal userId)
  | some userId =>
    cases other with
    | none => exact absurd heq (hnormal userId)
    | some otherId => exact congrArg some (userUri_inj (by decide) heq)

/-- Every key is registered with the default URI. -/
def Secure (p : Provider) : Prop :=
  ∀ key uri : String, p.needMultiUserStrMap[key]? = some uri → uri = settingUriUserSecure

theorem secure_initial (cfg : Config) (tables : String → Rows) : Secure (.initial cfg tables) := by
  have hfold : ∀ (keys : List String) (map : TreeMap String String),
      (∀ key uri : String, map[key]? = some uri → uri = settingUriUserSecure) → ∀ key uri : String,
      (keys.foldl (fun map key => map.insertIfNew key settingUriUserSecure) map)[key]? = some uri →
        uri = settingUriUserSecure := by
    intro keys
    induction keys with
    | nil => exact fun map h => h
    | cons first rest ih =>
      intro map h
      refine ih _ fun key uri hfound => ?_
      rw [getElem?_insertIfNew_eq] at hfound
      split at hfound
      · cases hmap : map[first]? with
        | none =>
          rw [hmap] at hfound
          exact (Option.some.inj hfound).symm
        | some old =>
          rw [hmap] at hfound
          exact Option.some.inj hfound ▸ h first old hmap
      · exact h key uri hfound
  apply hfold
  intro key uri hfound
  simp at hfound

theorem assembleUri_eq {p : Provider} (h : Secure p) (key : String) : assembleUri key p = uriOf (scopeOf key p) := by
  unfold assembleUri getUriPrefix scopeOf
  rw [TreeMap.contains_eq_isSome_getElem?]
  cases hfound : p.needMultiUserStrMap[key]? with
  | none => rfl
  | some uri =>
    rw [h key uri hfound]
    rfl

/-! ## What a read finds -/

/-- The value written last for a key in a scope. -/
def lastPut (puts : List Put) (scope : Option Int) (key : String) : Option String :=
  (puts.find? fun put => put.scope = scope ∧ put.key = key).map Put.value

structure Inv (tables : String → Rows) (s : State) : Prop where
  secure : Secure s.provider
  rows : ∀ scope key, (s.provider.tables (uriOf scope)).query key =
    (lastPut s.puts scope key).or ((tables (uriOf scope)).query key)

section Steps

variable {tables : String → Rows} {s s' : State}

theorem inv_put {share : Share} {key value : String} (h : Inv tables s) (hcareful : Careful s (.put share key value))
    (hnext : next s (.put share key value) = some s') : Inv tables s' := by
  simp only [next, putStringValue, Option.some.injEq] at hnext
  cases hcreates : share.creates with
  | false =>
    simp only [hcreates, Bool.not_false, if_true, Bool.false_eq_true, if_false] at hnext
    subst hnext
    exact ⟨fun other uri => h.secure other uri, h.rows⟩
  | true =>
    simp only [hcreates, Bool.not_true, Bool.false_eq_true, if_false, if_true] at hnext
    subst hnext
    refine ⟨fun other uri => h.secure other uri, fun scope other => ?_⟩
    have hworks := hcareful hcreates
    have huri := assembleUri_eq h.secure key
    by_cases hscope : scopeOf key s.provider = scope
    · subst hscope
      rw [huri]
      show Rows.query other (Function.update s.provider.tables _ _ _) = _
      rw [Function.update_self, query_writeRow hworks, h.rows]
      by_cases hother : key = other
      · simp [lastPut, hother]
      · simp [lastPut, hother]
    · have hne : uriOf scope ≠ uriOf (scopeOf key s.provider) := fun heq => hscope (uriOf_injective heq).symm
      rw [huri]
      show Rows.query other (Function.update s.provider.tables _ _ _) = _
      rw [Function.update_of_ne hne, h.rows]
      simp [lastPut, hscope]

theorem inv_next {event : Event} (h : Inv tables s) (hcareful : Careful s event) (hnext : next s event = some s') :
    Inv tables s' := by
  cases event with
  | put share key value => exact inv_put h hcareful hnext
  | updateCurrentUserId activedIds =>
    cases hnext
    unfold updateCurrentUserId
    split
    · exact ⟨fun other uri => h.secure other uri, h.rows⟩
    · exact h
  | addMultiUserKey key uri =>
    cases hnext
    unfold addMultiUserKey
    split
    · exact h
    · split
      · exact h
      · refine ⟨fun other found hfound => ?_, h.rows⟩
        dsimp only at hfound
        rw [getElem?_insertIfNew_eq] at hfound
        split at hfound
        · cases hmap : s.provider.needMultiUserStrMap[key]? with
          | none =>
            rw [hmap] at hfound
            exact (Option.some.inj hfound).symm.trans hcareful
          | some old =>
            rw [hmap] at hfound
            exact Option.some.inj hfound ▸ h.secure key old hmap
        · exact h.secure other found hfound

end Steps

/-! ## Results -/

section Results

variable {cfg : Config} {tables : String → Rows} {s : State}

theorem inv_init (cfg : Config) (tables : String → Rows) : Inv tables { provider := .initial cfg tables } :=
  ⟨secure_initial cfg tables, fun _ _ => rfl⟩

theorem inv_of_reach (hreach : (system cfg tables).Reach Careful s) : Inv tables s := by
  refine hreach.invariant (I := Inv tables) (fun s hinit => ?_) fun s s' e h hok hnext => inv_next h hok hnext
  cases hinit
  exact inv_init cfg tables

/-- A read that DataShare answers. -/
theorem getStringValue_eq {p : Provider} (h : Secure p) (key : String) :
    getStringValue {} key p = match (p.tables (uriOf (scopeOf key p))).query key with
      | some value => .ok value
      | none => .error .nameNotFound := by
  simp only [getStringValue, readRow, assembleUri_eq h, Bool.not_true, Bool.false_eq_true, if_false, if_true]
  cases (p.tables (uriOf (scopeOf key p))).query key <;> rfl

/-- A step that writes nothing for a key in a scope. -/
def KeepsOff (scope : Option Int) (key : String) (s : State) : Event → Prop
  | .put _ other _ => other = key → scopeOf key s.provider ≠ scope
  | _ => True

instance (scope : Option Int) (key : String) (s : State) (event : Event) : Decidable (KeepsOff scope key s event) :=
  match event with
  | .put _ _ _ => inferInstanceAs (Decidable (_ → _))
  | .updateCurrentUserId _ | .addMultiUserKey _ _ => .isTrue trivial

theorem lastPut_next {scope : Option Int} {key : String} {event : Event} {s' : State} (hoff : KeepsOff scope key s event)
    (hnext : next s event = some s') : lastPut s'.puts scope key = lastPut s.puts scope key := by
  cases event with
  | put share other value =>
    simp only [next, putStringValue, Option.some.injEq] at hnext
    cases hcreates : share.creates with
    | false =>
      simp only [hcreates, Bool.not_false, if_true, Bool.false_eq_true, if_false] at hnext
      subst hnext
      rfl
    | true =>
      simp only [hcreates, Bool.not_true, Bool.false_eq_true, if_false, if_true] at hnext
      subst hnext
      have hnot : ¬(scopeOf other s.provider = scope ∧ other = key) := by
        rintro ⟨hscope, rfl⟩
        exact hoff rfl hscope
      simp [lastPut, hnot]
  | updateCurrentUserId activedIds =>
    cases hnext
    rfl
  | addMultiUserKey other uri =>
    cases hnext
    rfl

theorem lastPut_put {share : Share} {key value : String} {s' : State} (hcreates : share.creates = true)
    (hnext : next s (.put share key value) = some s') :
    lastPut s'.puts (scopeOf key s.provider) key = some value := by
  simp only [next, putStringValue, hcreates, Bool.not_true, Bool.false_eq_true, if_false, if_true, Option.some.injEq] at hnext
  subst hnext
  simp [lastPut]

theorem getLongValue_of_text {p : Provider} {key value : String} {number : Int}
    (hread : getStringValue {} key p = .ok value) (hvalue : value = toString number)
    (hmin : Lib.Text.longMin ≤ number) (hmax : number ≤ Lib.Text.longMax) : getLongValue {} key p = .ok number := by
  rw [getLongValue, hread, hvalue]
  simp only [parseLong?_toString hmin hmax]

theorem contains_initial (keys : List String) (map : TreeMap String String) (key : String)
    (h : key ∈ keys ∨ map.contains key = true) :
    (keys.foldl (fun map key => map.insertIfNew key settingUriUserSecure) map).contains key = true := by
  induction keys generalizing map with
  | nil =>
    obtain hmem | hfound := h
    · cases hmem
    · exact hfound
  | cons first rest ih =>
    refine ih (map.insertIfNew first settingUriUserSecure) ?_
    obtain hmem | hfound := h
    · obtain rfl | hrest := List.mem_cons.mp hmem
      · exact .inr (by simp)
      · exact .inl hrest
    · exact .inr (by simp [hfound])

/-- The keys of the start stay registered. -/
theorem registered_of_reach (hreach : (system cfg tables).Reach Careful s) (key : String) (hmem : key ∈ multiUserKeys cfg) :
    s.provider.needMultiUserStrMap.contains key = true := by
  refine hreach.invariant (I := fun s => s.provider.needMultiUserStrMap.contains key = true) (fun s hinit => ?_)
    fun s s' e h _ hnext => ?_
  · cases hinit
    exact contains_initial _ _ _ (.inl hmem)
  · cases e with
    | put share other value =>
      simp only [system, next, putStringValue, Option.some.injEq] at hnext
      subst hnext
      dsimp only
      split <;> exact h
    | updateCurrentUserId activedIds =>
      cases hnext
      unfold updateCurrentUserId
      split <;> exact h
    | addMultiUserKey other uri =>
      cases hnext
      unfold addMultiUserKey
      split
      · exact h
      · split
        · exact h
        · simp [h]

def migratedKeys : List String := [wakeupDoubleKey, wakeupPickupKey, wakeupSourcesKey]

/-- What the migration asks for before it copies. -/
structure Migratable (p : Provider) : Prop where
  secure : Secure p
  registered : ∀ key ∈ migratedKeys, p.needMultiUserStrMap.contains key = true

theorem migratable_of_reach (hreach : (system cfg tables).Reach Careful s) : Migratable s.provider := by
  refine ⟨(inv_of_reach hreach).secure, fun key hmem => registered_of_reach hreach key ?_⟩
  simp only [migratedKeys, List.mem_cons, List.not_mem_nil, or_false] at hmem
  obtain rfl | rfl | rfl := hmem <;> simp [multiUserKeys]

variable {p : Provider}

theorem Migratable.scope (h : Migratable p) {key : String} (hmem : key ∈ migratedKeys) :
    scopeOf key p = some p.currentUserId := by
  rw [scopeOf, if_pos (h.registered key hmem)]

/-- A valid value is there and is not empty. -/
theorem isValid_readRow {rows : Rows} {key : String} :
    isValid (readRow {} key rows) = true ↔ ∃ value, rows.query key = some value ∧ value ≠ "" := by
  simp only [readRow, Bool.not_true, Bool.false_eq_true, if_false, if_true]
  cases rows.query key with
  | none => simp [isValid]
  | some value => simp [isValid]

/-- Copying one key that everybody has a value for. -/
theorem copyKey_eq (h : Migratable p) {key value : String} (hmem : key ∈ migratedKeys)
    (hglobal : (p.tables settingUriNormal).query key = some value) :
    copyKey {} key p = { p with
      tables := Function.update p.tables (uriOf (some p.currentUserId))
        (writeRow {} key value (p.tables (uriOf (some p.currentUserId)))) } := by
  have hread : getStringValueGlobal {} key p = .ok value := by
    simp [getStringValueGlobal, readRow, hglobal]
  have huri : assembleUri key p = uriOf (some p.currentUserId) := by
    rw [assembleUri_eq h.secure, h.scope hmem]
  simp only [copyKey, hread, putStringValue, huri, Bool.not_true, Bool.false_eq_true, if_false]

/-- One copied key is read in the user's table; everything else is as it was. -/
structure Copied (keys : List String) (p p' : Provider) : Prop where
  user : p'.currentUserId = p.currentUserId
  map : p'.needMultiUserStrMap = p.needMultiUserStrMap
  rows : ∀ scope key, (p'.tables (uriOf scope)).query key =
    if scope = some p.currentUserId ∧ key ∈ keys then (p.tables settingUriNormal).query key
    else (p.tables (uriOf scope)).query key

theorem Copied.refl (p : Provider) : Copied [] p p :=
  ⟨rfl, rfl, fun scope key => by simp⟩

theorem Copied.normal {keys : List String} {p' : Provider} (h : Copied keys p p') (key : String) :
    (p'.tables settingUriNormal).query key = (p.tables settingUriNormal).query key := by
  have hrow := h.rows none key
  rwa [if_neg (by simp)] at hrow

theorem Copied.copyKey {keys : List String} {p' : Provider} (h : Migratable p) (hcopied : Copied keys p p') {key : String}
    (hmem : key ∈ migratedKeys) (hvalid : ((p.tables settingUriNormal).query key).isSome = true) :
    Copied (key :: keys) p (copyKey {} key p') := by
  have hmigratable : Migratable p' := by
    refine ⟨fun other uri hfound => ?_, fun other hother => ?_⟩
    · rw [hcopied.map] at hfound
      exact h.secure other uri hfound
    · rw [hcopied.map]
      exact h.registered other hother
  obtain ⟨value, hvalue⟩ := Option.isSome_iff_exists.mp hvalid
  have hglobal := (hcopied.normal key).trans hvalue
  rw [copyKey_eq hmigratable hmem hglobal]
  refine ⟨hcopied.user, hcopied.map, fun scope other => ?_⟩
  rw [hcopied.user]
  by_cases hscope : scope = some p.currentUserId
  · subst hscope
    show Rows.query other (Function.update p'.tables _ _ _) = _
    rw [Function.update_self, query_writeRow ⟨rfl, rfl⟩]
    by_cases hother : key = other
    · subst hother
      simp [hvalue]
    · rw [if_neg hother, hcopied.rows]
      simp [List.mem_cons, Ne.symm hother]
  · have hne : uriOf scope ≠ uriOf (some p.currentUserId) := fun heq => hscope (uriOf_injective heq)
    show Rows.query other (Function.update p'.tables _ _ _) = _
    rw [Function.update_of_ne hne, hcopied.rows]
    simp [hscope]

theorem isNeedDataMigrationCopy_iff : isNeedDataMigrationCopy {} p = true ↔ ∀ key ∈ migratedKeys,
    isValidKeyGlobal {} key p = true ∧ isValidKey {} key p = false := by
  simp only [isNeedDataMigrationCopy, needsCopy, Bool.and_eq_true, Bool.not_eq_true', migratedKeys, List.forall_mem_cons,
    List.not_mem_nil, false_imp_iff, implies_true, and_true]
  tauto

theorem copied_dataMigrationCopy (h : Migratable p) (hneed : isNeedDataMigrationCopy {} p = true) :
    Copied [wakeupSourcesKey, wakeupPickupKey, wakeupDoubleKey] p (dataMigrationCopy {} p) := by
  have hsome : ∀ key ∈ migratedKeys, ((p.tables settingUriNormal).query key).isSome = true := by
    intro key hmem
    obtain ⟨value, hvalue, -⟩ := isValid_readRow.mp (isNeedDataMigrationCopy_iff.mp hneed key hmem).1
    rw [hvalue]
    rfl
  have hdouble : wakeupDoubleKey ∈ migratedKeys := by simp [migratedKeys]
  have hpickup : wakeupPickupKey ∈ migratedKeys := by simp [migratedKeys]
  have hsources : wakeupSourcesKey ∈ migratedKeys := by simp [migratedKeys]
  exact (((Copied.refl p).copyKey h hdouble (hsome _ hdouble)).copyKey h hpickup (hsome _ hpickup)).copyKey h hsources
    (hsome _ hsources)

end Results

/-- Two users write a key of their own, and the first is current again. -/
def writtenByTwo : List Event :=
  [.put {} wakeupPickupKey "1", .updateCurrentUserId (some [101]), .put {} wakeupPickupKey "0",
    .updateCurrentUserId (some [100])]

/-- After a number was written for one user, another becomes current and writes it too, and the first is back. -/
def writtenMeanwhile : List Event :=
  [.put {} wakeupDoubleKey "true", .updateCurrentUserId (some [101]), .put {} wakeupPickupKey "7",
    .updateCurrentUserId (some [100, 101])]

/-- Everybody's values before the update that made them values of users. -/
def beforeUpdate : String → Rows :=
  Function.update (fun _ => []) settingUriNormal
    [(wakeupDoubleKey, "0"), (wakeupPickupKey, "1"), (wakeupSourcesKey, "pick,touch")]

end PowerMgr.Settings
