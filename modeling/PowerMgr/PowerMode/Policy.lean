import PowerMgr.Lib.Loop
import PowerMgr.Lib.TreeMap
import PowerMgr.PowerMode.Announced
import PowerMgr.StateMachine.ScreenOffTime

/-! # What a power mode does to the settings

Embedding of `PowerModePolicy` (`power_mode_policy.cpp`) and of the actions that
`PowerModeModule` registers with it.  A mode gives values to some settings and backs up others
before; a mode that does not mention a setting gives it back what was backed up.

* `PowerModePolicy` — the maps of the values to apply and of those to give back;
* `Machine` — the service with the settings and what it saves for its next start;
* `enableMode`, `restart` — a switch of the mode, and a new process that reads what was saved.

This is the build without charging-type settings.  A setting is the number stored under its key;
writes are taken to succeed, and the saved map to be read back as it was written.
-/

namespace PowerMgr.PowerMode.Policy

open Std (TreeMap)
open Announced (Mode normalMode performanceMode lastModeFlag)

def initValueFalse : Int := -2

/-- `PowerModePolicy::ServiceType`, a `uint32_t`; a policy may name any number. -/
abbrev ServiceType := Nat

namespace ServiceType

def displayOffTime : ServiceType := 101

def sleepTime : ServiceType := 102

def autoAdjustBrightness : ServiceType := 103

def intellVoice : ServiceType := 105

def autoWindowRotation : ServiceType := 107

def lcdBrightness : ServiceType := 115

def vibratorsState : ServiceType := 120

def socPerf : ServiceType := 121

end ServiceType

/-- The recover flag of a policy that has the setting backed up. -/
def ValueProp.recover : Int := 1

structure ModePolicy where
  id : ServiceType
  value : Int
  recoverFlag : Int
  deriving DecidableEq, Repr

/-- The policies of the modes, and what the build and the product decide. -/
structure Config where
  policyCache : TreeMap Int (List ModePolicy)
  -- `const.settings.screen_never_sleep`, in builds that can disable the auto display-off
  neverSleep : Bool
  -- `HAS_RESOURCE_SCHEDULE_SERVICE_PART`
  resourceSchedule : Bool

/-- The numbers stored for the service types; `none` where no number is stored. -/
abbrev Settings := ServiceType → Option Int

def toInt32 (value : Int) : Int := value.bmod (2 ^ 32)

/-- The map of the policies is keyed by `int32_t`. -/
def Config.policies (config : Config) (mode : Mode) : List ModePolicy := config.policyCache.getD (toInt32 mode) []

/-! ## The maps -/

structure PowerModePolicy where
  switchMap : TreeMap ServiceType Int := ∅
  recoverMap : TreeMap ServiceType Int := ∅
  backupMap : TreeMap ServiceType Int := ∅

def getSettingIntValue (stored : Option Int) (defaultVal : Int) : Int := (stored.map toInt32).getD defaultVal

/-- What `GetSettingSwitchState` reads for a service type. -/
def readSetting (neverSleep : Bool) (switchId : ServiceType) (stored : Option Int) : Int :=
  if switchId = ServiceType.autoAdjustBrightness ∨ switchId = ServiceType.autoWindowRotation ∨
      switchId = ServiceType.vibratorsState ∨ switchId = ServiceType.intellVoice then
    getSettingIntValue stored initValueFalse
  else if switchId = ServiceType.displayOffTime then
    toInt32 (StateMachine.ScreenOffTime.getSettingDisplayOffTime neverSleep stored initValueFalse)
  else initValueFalse

/-- `GetSettingSwitchState`: `value` is what the reference held before. -/
def getSettingSwitchState (neverSleep : Bool) (switchId : ServiceType) (stored : Option Int) (value : Int) : Int :=
  let defaultVal := readSetting neverSleep switchId stored
  if defaultVal = initValueFalse then value else defaultVal

namespace PowerModePolicy

def getPolicyFromMap (p : PowerModePolicy) (type : ServiceType) : Int := p.switchMap.getD type initValueFalse

/-- One policy of the mode; `reads` tells which reads of the settings succeed. -/
def readSwitch (config : Config) (settings : Settings) (reads : Nat → Bool) (p : PowerModePolicy)
    (entry : ModePolicy × Nat) : PowerModePolicy :=
  let id := entry.1.id
  let p := { p with switchMap := p.switchMap.insert id entry.1.value }
  if entry.1.recoverFlag = ValueProp.recover then
    let stored := if reads entry.2 then settings id else none
    -- the look-up of the backup makes the entry, with zero, before the setting is read
    let value := getSettingSwitchState config.neverSleep id stored (p.backupMap.getD id 0)
    { p with backupMap := p.backupMap.insert id value }
  else p

def readPowerModePolicy (config : Config) (settings : Settings) (reads : Nat → Bool) (mode : Mode)
    (p : PowerModePolicy) : PowerModePolicy :=
  if config.policyCache.isEmpty then p
  else (config.policies mode).zipIdx.foldl (readSwitch config settings reads) { p with switchMap := ∅, backupMap := ∅ }

def compareSwitch (p : PowerModePolicy) (item : ServiceType × Int) : PowerModePolicy :=
  let p := if item.1 ∈ p.switchMap then { p with backupMap := p.backupMap.insert item.1 item.2 } else p
  { p with switchMap := p.switchMap.insertIfNew item.1 item.2 }

def comparePowerModePolicy (p : PowerModePolicy) : PowerModePolicy :=
  let p := p.recoverMap.toList.foldl compareSwitch p
  { p with recoverMap := p.backupMap }

/-- `UpdatePowerModePolicy` without saving the map. -/
def updatePowerModePolicy (config : Config) (settings : Settings) (reads : Nat → Bool) (mode : Mode)
    (p : PowerModePolicy) : PowerModePolicy :=
  (p.readPowerModePolicy config settings reads mode).comparePowerModePolicy

end PowerModePolicy

/-! ## The service -/

structure Machine where
  policy : PowerModePolicy := {}
  mode : Mode := normalMode
  lastMode : Nat := lastModeFlag
  displayOffTime : Int := 30000
  sleepTime : Int := 5000
  -- what was reported to the resource scheduler
  schedMode : Option Int := none
  -- what outlives the process
  settings : Settings
  currentMode : Int := lastModeFlag
  savedRecoverMap : Option (TreeMap ServiceType Int) := none
  -- what the actions have applied when they were run last
  applied : List (ServiceType × Int) := []

namespace Machine

/-- What the actions have in common: the value is looked up, and applied unless there is none. -/
def act (type : ServiceType) (skip : Bool) (apply : Int → Machine → Machine) (m : Machine) : Machine :=
  if skip then m
  else
    let value := m.policy.getPolicyFromMap type
    if value = initValueFalse then m else { apply value m with applied := m.applied ++ [(type, value)] }

def putSetting (type : ServiceType) (value : Int) (m : Machine) : Machine :=
  { m with settings := Function.update m.settings type (some value) }

section Actions

-- `valid` tells which settings `SettingHelper` finds set
variable (isBoot : Bool) (valid : ServiceType → Bool)

def setDisplayOffTime : Machine → Machine :=
  act ServiceType.displayOffTime (isBoot && valid ServiceType.displayOffTime) fun time m =>
    let needUpdateSetting := time > 0
    let m := { m with displayOffTime := time }
    if needUpdateSetting then m.putSetting ServiceType.displayOffTime time else m

def setSleepTime : Machine → Machine :=
  act ServiceType.sleepTime false fun time m => { m with sleepTime := time }

def setAutoAdjustBrightness : Machine → Machine :=
  act ServiceType.autoAdjustBrightness (isBoot && valid ServiceType.autoAdjustBrightness)
    (putSetting ServiceType.autoAdjustBrightness)

def setIntellVoiceState : Machine → Machine :=
  act ServiceType.intellVoice (isBoot && valid ServiceType.intellVoice) (putSetting ServiceType.intellVoice)

def setWindowRotation : Machine → Machine :=
  act ServiceType.autoWindowRotation (isBoot && valid ServiceType.autoWindowRotation)
    (putSetting ServiceType.autoWindowRotation)

def setLcdBrightness : Machine → Machine :=
  act ServiceType.lcdBrightness (isBoot && valid ServiceType.lcdBrightness) (putSetting ServiceType.lcdBrightness)

def setVibration : Machine → Machine :=
  act ServiceType.vibratorsState (isBoot && valid ServiceType.vibratorsState) (putSetting ServiceType.vibratorsState)

/-- The standard and the high performance state are reported, others are not. -/
def setSocPerfState (config : Config) : Machine → Machine :=
  act ServiceType.socPerf false fun state m =>
    if config.resourceSchedule ∧ (state = 0 ∨ state = 1) then { m with schedMode := some state } else m

/-- `actionMap_`, in the order of its keys. -/
def actionMap (config : Config) : List (ServiceType × (Machine → Machine)) :=
  [(ServiceType.displayOffTime, setDisplayOffTime isBoot valid),
    (ServiceType.sleepTime, setSleepTime),
    (ServiceType.autoAdjustBrightness, setAutoAdjustBrightness isBoot valid),
    (ServiceType.intellVoice, setIntellVoiceState isBoot valid),
    (ServiceType.autoWindowRotation, setWindowRotation isBoot valid),
    (ServiceType.lcdBrightness, setLcdBrightness isBoot valid),
    (ServiceType.vibratorsState, setVibration isBoot valid),
    (ServiceType.socPerf, setSocPerfState config)]

/-- `RunAction`, which triggers all actions. -/
def runAction (config : Config) (m : Machine) : Machine :=
  (actionMap isBoot valid config).foldl (fun m action => action.2 m) { m with applied := [] }

end Actions

def updateModepolicy (config : Config) (reads : Nat → Bool) (m : Machine) : Machine :=
  let policy := m.policy.updatePowerModePolicy config m.settings reads m.mode
  { m with policy := policy, savedRecoverMap := some policy.recoverMap }

def enableMode (config : Config) (reads : Nat → Bool) (mode : Mode) (m : Machine) : Machine :=
  let m := ({ m with mode := mode }.updateModepolicy config reads).runAction false (fun _ => false) config
  { m with currentMode := toInt32 mode, lastMode := mode }

/-- The mode that was saved; an `int32_t` read as a `uint32_t`. -/
def modeOf (saveMode : Int) : Mode := if saveMode = lastModeFlag then normalMode else (saveMode % 2 ^ 32).toNat

def isBootNeedActions (m : Machine) : Bool := m.lastMode = lastModeFlag && m.mode = performanceMode

/-- `InitRecoverMap` in a new process, where the map is empty; `reload` tells whether what was saved
can be read. -/
def initRecoverMap (reload : Bool) (m : Machine) : Option Machine :=
  if reload then m.savedRecoverMap.map fun saved => { m with policy := { m.policy with recoverMap := saved } }
  else none

def initPowerMode (config : Config) (reload : Bool) (reads : Nat → Bool) (valid : ServiceType → Bool)
    (m : Machine) : Machine :=
  let m := { m with mode := modeOf m.currentMode }
  match m.initRecoverMap reload with
  | none => (m.updateModepolicy config reads).runAction false valid config
  | some m =>
    if config.resourceSchedule && m.isBootNeedActions then (m.updateModepolicy config reads).runAction true valid config
    else m

/-- A new process, up to the end of `InitPowerMode`. -/
def restart (config : Config) (displayOffTime : Int) (reload : Bool) (reads : Nat → Bool) (valid : ServiceType → Bool)
    (m : Machine) : Machine :=
  let started : Machine := {
    displayOffTime := displayOffTime
    settings := m.settings
    currentMode := m.currentMode
    savedRecoverMap := m.savedRecoverMap }
  started.initPowerMode config reload reads valid

/-- `RemoveBackupMapSettingSwitch`, run when an observer finds that the user has changed a setting. -/
def removeBackupMapSettingSwitch (switchId : ServiceType) (m : Machine) : Machine :=
  if switchId ∈ m.policy.recoverMap then
    let recoverMap := m.policy.recoverMap.erase switchId
    { m with policy := { m.policy with recoverMap := recoverMap }, savedRecoverMap := some recoverMap }
  else m

end Machine

/-! ## What a mode mentions, flags and reads -/

/-- The policy of the mode has a value for the service type. -/
def Mentions (config : Config) (mode : Mode) (id : ServiceType) : Prop :=
  ∃ policy ∈ config.policies mode, policy.id = id

/-- The mode has the setting of the service type backed up. -/
def Flags (config : Config) (mode : Mode) (id : ServiceType) : Prop :=
  ∃ policy ∈ config.policies mode, policy.id = id ∧ policy.recoverFlag = ValueProp.recover

/-- One of the reads for the backup of the setting goes through. -/
def ReadsBack (config : Config) (mode : Mode) (reads : Nat → Bool) (id : ServiceType) : Prop :=
  ∃ entry ∈ (config.policies mode).zipIdx, entry.1.id = id ∧ entry.1.recoverFlag = ValueProp.recover ∧ reads entry.2

/-- What is read of the setting is the number stored; the number that stands for a failure is none. -/
def ReadsAs (config : Config) (id : ServiceType) (stored : Option Int) (value : Int) : Prop :=
  stored = some value ∧ readSetting config.neverSleep id stored = value ∧ value ≠ initValueFalse

instance (config : Config) (mode : Mode) (id : ServiceType) : Decidable (Mentions config mode id) :=
  inferInstanceAs (Decidable (∃ _ ∈ _, _))

instance (config : Config) (mode : Mode) (id : ServiceType) : Decidable (Flags config mode id) :=
  inferInstanceAs (Decidable (∃ _ ∈ _, _))

instance (config : Config) (mode : Mode) (reads : Nat → Bool) (id : ServiceType) :
    Decidable (ReadsBack config mode reads id) :=
  inferInstanceAs (Decidable (∃ _ ∈ _, _))

instance (config : Config) (id : ServiceType) (stored : Option Int) (value : Int) :
    Decidable (ReadsAs config id stored value) :=
  inferInstanceAs (Decidable (_ ∧ _))

section Lookups

variable {config : Config} {settings : Settings} {reads : Nat → Bool} {id : ServiceType}

theorem Flags.mentions {mode : Mode} (h : Flags config mode id) : Mentions config mode id := by
  obtain ⟨policy, hmem, hid, -⟩ := h
  exact ⟨policy, hmem, hid⟩

theorem ReadsBack.flags {mode : Mode} (h : ReadsBack config mode reads id) : Flags config mode id := by
  obtain ⟨entry, hmem, hid, hflag, -⟩ := h
  exact ⟨entry.1, List.fst_mem_of_mem_zipIdx hmem, hid, hflag⟩

theorem getSettingSwitchState_of_readsAs {stored : Option Int} {value : Int} (h : ReadsAs config id stored value)
    (before : Int) : getSettingSwitchState config.neverSleep id stored before = value := by
  obtain ⟨-, hread, hvalid⟩ := h
  simp only [getSettingSwitchState, hread, hvalid, if_false]

/-- A setting that is not read leaves the backup as it is. -/
theorem getSettingSwitchState_none (neverSleep : Bool) (before : Int) :
    getSettingSwitchState neverSleep id none before = before := by
  have hfail : readSetting neverSleep id none = initValueFalse := by
    unfold readSetting
    split_ifs
    · rfl
    · cases neverSleep <;> decide
    · rfl
  simp only [getSettingSwitchState, hfail, if_true]

/-! ### Reading the policy -/

theorem readSwitch_recoverMap (p : PowerModePolicy) (entry : ModePolicy × Nat) :
    (p.readSwitch config settings reads entry).recoverMap = p.recoverMap := by
  unfold PowerModePolicy.readSwitch
  dsimp only
  split <;> rfl

theorem readSwitch_switchMap (p : PowerModePolicy) (entry : ModePolicy × Nat) :
    (p.readSwitch config settings reads entry).switchMap = p.switchMap.insert entry.1.id entry.1.value := by
  unfold PowerModePolicy.readSwitch
  dsimp only
  split <;> rfl

theorem readSwitch_backupMap (p : PowerModePolicy) (entry : ModePolicy × Nat) :
    (p.readSwitch config settings reads entry).backupMap[id]? =
      if entry.1.id = id ∧ entry.1.recoverFlag = ValueProp.recover then
        some (getSettingSwitchState config.neverSleep id (if reads entry.2 then settings id else none)
          (p.backupMap.getD id 0))
      else p.backupMap[id]? := by
  unfold PowerModePolicy.readSwitch
  dsimp only
  by_cases hflag : entry.1.recoverFlag = ValueProp.recover
  · rw [if_pos hflag]
    by_cases hid : entry.1.id = id
    · subst hid
      simp [hflag]
    · simp [Lib.TreeMap.getElem?_insert_eq, hid]
  · simp [hflag]

theorem foldl_readSwitch_recoverMap (entries : List (ModePolicy × Nat)) (p : PowerModePolicy) :
    (entries.foldl (PowerModePolicy.readSwitch config settings reads) p).recoverMap = p.recoverMap := by
  induction entries generalizing p with
  | nil => rfl
  | cons entry rest ih => rw [List.foldl_cons, ih, readSwitch_recoverMap]

theorem foldl_readSwitch_switchMap (entries : List (ModePolicy × Nat)) (p : PowerModePolicy) :
    (entries.foldl (PowerModePolicy.readSwitch config settings reads) p).switchMap[id]?.isSome = true ↔
      p.switchMap[id]?.isSome = true ∨ ∃ entry ∈ entries, entry.1.id = id := by
  induction entries generalizing p with
  | nil => simp
  | cons entry rest ih =>
    rw [List.foldl_cons, ih, readSwitch_switchMap, Lib.TreeMap.getElem?_insert_eq]
    by_cases hid : entry.1.id = id
    · simp [hid]
    · simp [hid]

theorem foldl_readSwitch_backupMap (entries : List (ModePolicy × Nat)) (p : PowerModePolicy) :
    (entries.foldl (PowerModePolicy.readSwitch config settings reads) p).backupMap[id]?.isSome = true ↔
      p.backupMap[id]?.isSome = true ∨
        ∃ entry ∈ entries, entry.1.id = id ∧ entry.1.recoverFlag = ValueProp.recover := by
  induction entries generalizing p with
  | nil => simp
  | cons entry rest ih =>
    rw [List.foldl_cons, ih, readSwitch_backupMap]
    by_cases hhere : entry.1.id = id ∧ entry.1.recoverFlag = ValueProp.recover
    · simp [hhere]
    · simp only [hhere, if_false, List.exists_mem_cons_iff, false_or]

/-- A value that was read stays: the reads after it fail or read it again. -/
theorem backup_kept {value : Int} (hreads : ReadsAs config id (settings id) value)
    (entries : List (ModePolicy × Nat)) (p : PowerModePolicy) (h : p.backupMap[id]? = some value) :
    (entries.foldl (PowerModePolicy.readSwitch config settings reads) p).backupMap[id]? = some value := by
  refine Lib.foldl_keeps (I := fun p => p.backupMap[id]? = some value) ?_ entries p h
  intro p entry hvalue
  rw [readSwitch_backupMap]
  split_ifs with hhere hread
  · rw [getSettingSwitchState_of_readsAs hreads]
  · rw [getSettingSwitchState_none, TreeMap.getD_eq_getD_getElem?, hvalue, Option.getD_some]
  · exact hvalue

theorem backup_read {value : Int} (hreads : ReadsAs config id (settings id) value)
    (entries : List (ModePolicy × Nat)) (p : PowerModePolicy)
    (h : ∃ entry ∈ entries, entry.1.id = id ∧ entry.1.recoverFlag = ValueProp.recover ∧ reads entry.2) :
    (entries.foldl (PowerModePolicy.readSwitch config settings reads) p).backupMap[id]? = some value := by
  induction entries generalizing p with
  | nil => simp at h
  | cons entry rest ih =>
    rw [List.foldl_cons]
    obtain ⟨hid, hflag, hread⟩ | hrest := List.exists_mem_cons_iff .. |>.mp h
    · refine backup_kept hreads rest _ ?_
      rw [readSwitch_backupMap, if_pos ⟨hid, hflag⟩, if_pos hread, getSettingSwitchState_of_readsAs hreads]
    · exact ih _ hrest

theorem exists_mem_zipIdx {policies : List ModePolicy} (p : ModePolicy → Prop) :
    (∃ entry ∈ policies.zipIdx, p entry.1) ↔ ∃ policy ∈ policies, p policy := by
  constructor
  · rintro ⟨entry, hmem, hp⟩
    exact ⟨entry.1, List.fst_mem_of_mem_zipIdx hmem, hp⟩
  · rintro ⟨policy, hmem, hp⟩
    rw [← List.zipIdx_map_fst 0 policies] at hmem
    obtain ⟨entry, hentry, rfl⟩ := List.mem_map.mp hmem
    exact ⟨entry, hentry, hp⟩

/-! ### Comparing with what is to be given back -/

theorem foldl_compareSwitch_switchMap (items : List (ServiceType × Int)) (p : PowerModePolicy) :
    (items.foldl PowerModePolicy.compareSwitch p).switchMap[id]? = p.switchMap[id]?.or (items.lookup id) := by
  induction items generalizing p with
  | nil => simp
  | cons item rest ih =>
    have hstep : (p.compareSwitch item).switchMap = p.switchMap.insertIfNew item.1 item.2 := by
      unfold PowerModePolicy.compareSwitch
      dsimp only
      split <;> rfl
    rw [List.foldl_cons, ih, hstep, Lib.TreeMap.getElem?_insertIfNew_eq, List.lookup_cons]
    by_cases hid : item.1 = id
    · subst hid
      cases p.switchMap[item.1]? <;> simp
    · simp [hid, beq_false_of_ne (Ne.symm hid)]

theorem foldl_compareSwitch_backupMap (items : List (ServiceType × Int)) (hnodup : (items.map Prod.fst).Nodup)
    (p : PowerModePolicy) :
    (items.foldl PowerModePolicy.compareSwitch p).backupMap[id]? =
      if p.switchMap[id]?.isSome then (items.lookup id).or p.backupMap[id]? else p.backupMap[id]? := by
  induction items generalizing p with
  | nil => simp
  | cons item rest ih =>
    obtain ⟨hitem, hrest⟩ := List.nodup_cons.mp hnodup
    rw [List.foldl_cons, ih hrest, List.lookup_cons]
    by_cases hid : item.1 = id
    · -- the other items are of other ids, so the value of this one stays
      subst hid
      have habsent : rest.lookup item.1 = none := by
        rw [List.lookup_eq_none_iff]
        rintro other hmem
        simpa using fun heq => hitem (List.mem_map.mpr ⟨other, hmem, heq.symm⟩)
      by_cases hswitch : item.1 ∈ p.switchMap
      · simp [PowerModePolicy.compareSwitch, hswitch, habsent]
      · simp [PowerModePolicy.compareSwitch, hswitch, habsent]
    · have hswitch : (p.compareSwitch item).switchMap[id]? = p.switchMap[id]? := by
        unfold PowerModePolicy.compareSwitch
        dsimp only
        split <;> simp [Lib.TreeMap.getElem?_insertIfNew_eq, hid]
      have hbackup : (p.compareSwitch item).backupMap[id]? = p.backupMap[id]? := by
        unfold PowerModePolicy.compareSwitch
        dsimp only
        split <;> simp [Lib.TreeMap.getElem?_insert_eq, hid]
      rw [hswitch, hbackup, beq_false_of_ne (Ne.symm hid)]

theorem compare_switchMap (p : PowerModePolicy) :
    p.comparePowerModePolicy.switchMap[id]? = p.switchMap[id]?.or p.recoverMap[id]? := by
  rw [← Lib.TreeMap.lookup_toList p.recoverMap]
  exact foldl_compareSwitch_switchMap _ p

theorem compare_backupMap (p : PowerModePolicy) :
    p.comparePowerModePolicy.backupMap[id]? =
      if p.switchMap[id]?.isSome then p.recoverMap[id]?.or p.backupMap[id]? else p.backupMap[id]? := by
  rw [← Lib.TreeMap.lookup_toList p.recoverMap]
  exact foldl_compareSwitch_backupMap _ (Lib.TreeMap.nodup_map_fst_toList _) p

theorem compare_recoverMap (p : PowerModePolicy) :
    p.comparePowerModePolicy.recoverMap = p.comparePowerModePolicy.backupMap := rfl

/-! ### Updating the policy -/

/-- Without policies the maps stay empty; `ReadPowerModePolicy` does not clear them then. -/
def Idle (config : Config) (p : PowerModePolicy) : Prop :=
  config.policyCache.isEmpty = true →
    ∀ id : ServiceType, p.switchMap[id]? = none ∧ p.backupMap[id]? = none ∧ p.recoverMap[id]? = none

theorem read_recoverMap (mode : Mode) (p : PowerModePolicy) :
    (p.readPowerModePolicy config settings reads mode).recoverMap = p.recoverMap := by
  unfold PowerModePolicy.readPowerModePolicy
  split
  · rfl
  · rw [foldl_readSwitch_recoverMap]

theorem not_mentions_of_isEmpty (h : config.policyCache.isEmpty = true) (mode : Mode) (id : ServiceType) :
    ¬Mentions config mode id := by
  rintro ⟨policy, hmem, -⟩
  rw [Config.policies, TreeMap.getD_of_isEmpty h] at hmem
  simp at hmem

theorem read_switchMap {p : PowerModePolicy} (hidle : Idle config p) (mode : Mode) :
    (p.readPowerModePolicy config settings reads mode).switchMap[id]?.isSome = true ↔ Mentions config mode id := by
  unfold PowerModePolicy.readPowerModePolicy
  split
  next hempty => simp [(hidle hempty id).1, not_mentions_of_isEmpty hempty]
  next =>
    rw [foldl_readSwitch_switchMap, exists_mem_zipIdx fun policy => policy.id = id]
    simp [Mentions]

theorem read_backupMap {p : PowerModePolicy} (hidle : Idle config p) (mode : Mode) :
    (p.readPowerModePolicy config settings reads mode).backupMap[id]?.isSome = true ↔ Flags config mode id := by
  unfold PowerModePolicy.readPowerModePolicy
  split
  next hempty => simp [(hidle hempty id).2.1, mt Flags.mentions (not_mentions_of_isEmpty hempty mode id)]
  next =>
    rw [foldl_readSwitch_backupMap,
      exists_mem_zipIdx fun policy => policy.id = id ∧ policy.recoverFlag = ValueProp.recover]
    simp [Flags]

theorem read_backup {p : PowerModePolicy} {mode : Mode} {value : Int} (h : ReadsBack config mode reads id)
    (hreads : ReadsAs config id (settings id) value) :
    (p.readPowerModePolicy config settings reads mode).backupMap[id]? = some value := by
  unfold PowerModePolicy.readPowerModePolicy
  split
  next hempty => exact absurd h.flags.mentions (not_mentions_of_isEmpty hempty mode id)
  next => exact backup_read hreads _ _ h

/-- What a mode does not mention is applied from what is to be given back. -/
theorem update_switchMap {p : PowerModePolicy} (hidle : Idle config p) {mode : Mode}
    (h : ¬Mentions config mode id) :
    (p.updatePowerModePolicy config settings reads mode).switchMap[id]? = p.recoverMap[id]? := by
  rw [PowerModePolicy.updatePowerModePolicy, compare_switchMap, read_recoverMap]
  rw [← read_switchMap hidle, Bool.not_eq_true, Option.isSome_eq_false_iff, Option.isNone_iff_eq_none] at h
  rw [h, Option.none_or]

theorem update_recoverMap_of_not_mentions {p : PowerModePolicy} (hidle : Idle config p) {mode : Mode}
    (h : ¬Mentions config mode id) :
    (p.updatePowerModePolicy config settings reads mode).recoverMap[id]? = none := by
  rw [PowerModePolicy.updatePowerModePolicy, compare_recoverMap, compare_backupMap]
  rw [if_neg (mt (read_switchMap hidle mode).mp h), ← Option.isNone_iff_eq_none, ← Option.isSome_eq_false_iff,
    Bool.eq_false_iff]
  exact mt (read_backupMap hidle mode).mp (mt Flags.mentions h)

/-- What is to be given back already is carried over. -/
theorem update_recoverMap_of_some {p : PowerModePolicy} (hidle : Idle config p) {mode : Mode}
    (h : Mentions config mode id) {value : Int} (hvalue : p.recoverMap[id]? = some value) :
    (p.updatePowerModePolicy config settings reads mode).recoverMap[id]? = some value := by
  rw [PowerModePolicy.updatePowerModePolicy, compare_recoverMap, compare_backupMap,
    if_pos ((read_switchMap hidle mode).mpr h), read_recoverMap, hvalue, Option.some_or]

theorem update_recoverMap_of_none {p : PowerModePolicy} (hidle : Idle config p) {mode : Mode}
    (h : Mentions config mode id) (hnone : p.recoverMap[id]? = none) :
    (p.updatePowerModePolicy config settings reads mode).recoverMap[id]? =
      (p.readPowerModePolicy config settings reads mode).backupMap[id]? := by
  rw [PowerModePolicy.updatePowerModePolicy, compare_recoverMap, compare_backupMap,
    if_pos ((read_switchMap hidle mode).mpr h), read_recoverMap, hnone, Option.none_or]

theorem Idle.update {p : PowerModePolicy} (h : Idle config p) (mode : Mode) :
    Idle config (p.updatePowerModePolicy config settings reads mode) := by
  intro hempty id
  have hmentions := not_mentions_of_isEmpty hempty mode id
  have hrecover : (p.updatePowerModePolicy config settings reads mode).recoverMap[id]? = none :=
    update_recoverMap_of_not_mentions h hmentions
  refine ⟨?_, hrecover, hrecover⟩
  rw [update_switchMap h hmentions]
  exact (h hempty id).2.2

end Lookups

/-! ## Running the actions -/

/-- The part of the service that no action changes. -/
structure Kept (m m' : Machine) : Prop where
  policy : m'.policy = m.policy
  mode : m'.mode = m.mode
  lastMode : m'.lastMode = m.lastMode
  currentMode : m'.currentMode = m.currentMode
  savedRecoverMap : m'.savedRecoverMap = m.savedRecoverMap

theorem Kept.trans {m m' m'' : Machine} (h : Kept m m') (h' : Kept m' m'') : Kept m m'' where
  policy := h'.policy.trans h.policy
  mode := h'.mode.trans h.mode
  lastMode := h'.lastMode.trans h.lastMode
  currentMode := h'.currentMode.trans h.currentMode
  savedRecoverMap := h'.savedRecoverMap.trans h.savedRecoverMap

theorem Kept.refl (m : Machine) : Kept m m := ⟨rfl, rfl, rfl, rfl, rfl⟩

/-- What the action of a service type does: it applies at most the value that the policy has for the type. -/
structure ActsOn (type : ServiceType) (m m' : Machine) : Prop where
  kept : Kept m m'
  applied : ∀ item ∈ m'.applied, item ∈ m.applied ∨ item.1 = type ∧ m.policy.switchMap[item.1]? = some item.2
  settings : ∀ id, id ≠ type → m'.settings id = m.settings id
  displayOffTime : type ≠ ServiceType.displayOffTime → m'.displayOffTime = m.displayOffTime

theorem getElem?_of_getPolicyFromMap {p : PowerModePolicy} {type : ServiceType} {value : Int}
    (h : p.getPolicyFromMap type = value) (hvalid : value ≠ initValueFalse) : p.switchMap[type]? = some value := by
  rw [PowerModePolicy.getPolicyFromMap, TreeMap.getD_eq_getD_getElem?] at h
  cases hfound : p.switchMap[type]? with
  | none => exact absurd (by simpa [hfound] using h.symm) hvalid
  | some found => simpa [hfound] using h

theorem getPolicyFromMap_of_getElem? {p : PowerModePolicy} {type : ServiceType} {value : Int}
    (h : p.switchMap[type]? = some value) : p.getPolicyFromMap type = value := by
  rw [PowerModePolicy.getPolicyFromMap, TreeMap.getD_eq_getD_getElem?, h, Option.getD_some]

namespace Machine

theorem act_actsOn {type : ServiceType} {skip : Bool} {apply : Int → Machine → Machine}
    (hkept : ∀ value m, Kept m (apply value m))
    (hsettings : ∀ value m id, id ≠ type → (apply value m).settings id = m.settings id)
    (htime : type ≠ ServiceType.displayOffTime → ∀ value m, (apply value m).displayOffTime = m.displayOffTime)
    (m : Machine) : ActsOn type m (act type skip apply m) := by
  have hsame : ActsOn type m m := ⟨.refl m, fun _ hmem => .inl hmem, fun _ _ => rfl, fun _ => rfl⟩
  unfold act
  split_ifs with hskip
  · exact hsame
  · dsimp only
    split_ifs with hvalid
    · exact hsame
    · have happlied := hkept (m.policy.getPolicyFromMap type) m
      refine ⟨⟨happlied.policy, happlied.mode, happlied.lastMode, happlied.currentMode, happlied.savedRecoverMap⟩,
        fun item hmem => ?_, hsettings _ m, fun hne => htime hne _ m⟩
      obtain hmem | hmem := List.mem_append.mp hmem
      · exact .inl hmem
      · obtain rfl := List.mem_singleton.mp hmem
        exact .inr ⟨rfl, getElem?_of_getPolicyFromMap rfl hvalid⟩

/-- An action that is not skipped writes the value of the policy to its setting. -/
theorem act_putSetting {type : ServiceType} {m : Machine} {value : Int} (h : m.policy.switchMap[type]? = some value)
    (hvalid : value ≠ initValueFalse) : (act type false (putSetting type) m).settings type = some value := by
  simp only [act, Bool.false_eq_true, if_false, getPolicyFromMap_of_getElem? h, hvalid, putSetting,
    Function.update_self]

theorem putSetting_actsOn (type : ServiceType) (skip : Bool) (m : Machine) :
    ActsOn type m (act type skip (putSetting type) m) := by
  refine act_actsOn ?_ ?_ ?_ m
  · exact fun _ _ => ⟨rfl, rfl, rfl, rfl, rfl⟩
  · exact fun _ _ _ hne => Function.update_of_ne hne _ _
  · exact fun _ _ _ => rfl

variable (isBoot : Bool) (valid : ServiceType → Bool) (config : Config)

theorem setDisplayOffTime_actsOn (m : Machine) :
    ActsOn ServiceType.displayOffTime m (m.setDisplayOffTime isBoot valid) := by
  refine act_actsOn ?_ ?_ (fun hne => absurd rfl hne) m
  · intro value m
    dsimp only
    split_ifs <;> exact ⟨rfl, rfl, rfl, rfl, rfl⟩
  · intro value m id hne
    dsimp only
    split_ifs
    · exact Function.update_of_ne hne _ _
    · rfl

theorem setSocPerfState_actsOn (m : Machine) : ActsOn ServiceType.socPerf m (m.setSocPerfState config) := by
  refine act_actsOn ?_ ?_ ?_ m
  · intro value m
    split_ifs <;> exact ⟨rfl, rfl, rfl, rfl, rfl⟩
  · intro value m id hne
    split_ifs <;> rfl
  · intro _ value m
    split_ifs <;> rfl

theorem actionMap_actsOn : ∀ action ∈ actionMap isBoot valid config, ∀ m, ActsOn action.1 m (action.2 m) := by
  simp only [actionMap, List.forall_mem_cons]
  refine ⟨setDisplayOffTime_actsOn isBoot valid, ?_, putSetting_actsOn _ _, putSetting_actsOn _ _,
    putSetting_actsOn _ _, putSetting_actsOn _ _, putSetting_actsOn _ _, setSocPerfState_actsOn config, by simp⟩
  exact act_actsOn (fun _ _ => ⟨rfl, rfl, rfl, rfl, rfl⟩) (fun _ _ _ _ => rfl) (fun _ _ _ => rfl)

theorem nodup_actionMap : ((actionMap isBoot valid config).map Prod.fst).Nodup := by
  change [101, 102, 103, 105, 107, 115, 120, 121].Nodup
  decide

variable {isBoot valid config}

theorem foldl_kept {actions : List (ServiceType × (Machine → Machine))}
    (hacts : ∀ action ∈ actions, ∀ m, ActsOn action.1 m (action.2 m)) (m : Machine) :
    Kept m (actions.foldl (fun m action => action.2 m) m) := by
  induction actions generalizing m with
  | nil => exact .refl m
  | cons action rest ih =>
    obtain ⟨hfirst, hrest⟩ := List.forall_mem_cons.mp hacts
    exact (hfirst m).kept.trans (ih hrest (action.2 m))

theorem foldl_applied {actions : List (ServiceType × (Machine → Machine))}
    (hacts : ∀ action ∈ actions, ∀ m, ActsOn action.1 m (action.2 m)) (m : Machine) :
    ∀ item ∈ (actions.foldl (fun m action => action.2 m) m).applied,
      item ∈ m.applied ∨ item.1 ∈ actions.map Prod.fst ∧ m.policy.switchMap[item.1]? = some item.2 := by
  induction actions generalizing m with
  | nil => exact fun item hmem => .inl hmem
  | cons action rest ih =>
    obtain ⟨hfirst, hrest⟩ := List.forall_mem_cons.mp hacts
    intro item hmem
    obtain hbefore | ⟨htype, hpolicy⟩ := ih hrest (action.2 m) item hmem
    · obtain hbefore | ⟨htype, hpolicy⟩ := (hfirst m).applied item hbefore
      · exact .inl hbefore
      · exact .inr ⟨List.mem_cons.mpr (.inl htype), hpolicy⟩
    · rw [(hfirst m).kept.policy] at hpolicy
      exact .inr ⟨List.mem_cons.mpr (.inr htype), hpolicy⟩

/-- The setting of a type that is in none of the actions stays. -/
theorem foldl_other {actions : List (ServiceType × (Machine → Machine))}
    (hacts : ∀ action ∈ actions, ∀ m, ActsOn action.1 m (action.2 m)) {type : ServiceType}
    (habsent : type ∉ actions.map Prod.fst) (m : Machine) :
    (actions.foldl (fun m action => action.2 m) m).settings type = m.settings type ∧
      (type = ServiceType.displayOffTime →
        (actions.foldl (fun m action => action.2 m) m).displayOffTime = m.displayOffTime) := by
  induction actions generalizing m with
  | nil => exact ⟨rfl, fun _ => rfl⟩
  | cons action rest ih =>
    obtain ⟨hfirst, hrest⟩ := List.forall_mem_cons.mp hacts
    obtain ⟨hne, hother⟩ := not_or.mp (List.mem_cons.not.mp habsent)
    obtain ⟨hsettings, htime⟩ := ih hrest hother (action.2 m)
    refine ⟨hsettings.trans ((hfirst m).settings type hne), fun htype => ?_⟩
    exact (htime htype).trans ((hfirst m).displayOffTime fun heq => hne (htype.trans heq.symm))

/-- What a type's action does to the setting of the type is what is left of it in the end. -/
theorem foldl_hit {actions : List (ServiceType × (Machine → Machine))}
    (hacts : ∀ action ∈ actions, ∀ m, ActsOn action.1 m (action.2 m)) (hnodup : (actions.map Prod.fst).Nodup)
    {type : ServiceType} {action : Machine → Machine} (hmem : (type, action) ∈ actions) (m : Machine) :
    ∃ m', Kept m m' ∧ (actions.foldl (fun m action => action.2 m) m).settings type = (action m').settings type ∧
      (type = ServiceType.displayOffTime →
        (actions.foldl (fun m action => action.2 m) m).displayOffTime = (action m').displayOffTime) := by
  induction actions generalizing m with
  | nil => simp at hmem
  | cons first rest ih =>
    obtain ⟨hfirst, hrest⟩ := List.forall_mem_cons.mp hacts
    obtain ⟨habsent, hnodup⟩ := List.nodup_cons.mp hnodup
    obtain rfl | hmem := List.mem_cons.mp hmem
    · obtain ⟨hsettings, htime⟩ := foldl_other hrest habsent (action m)
      exact ⟨m, .refl m, hsettings, htime⟩
    · obtain ⟨m', hkept, hsettings, htime⟩ := ih hrest hnodup hmem (first.2 m)
      exact ⟨m', (hfirst m).kept.trans hkept, hsettings, htime⟩

theorem runAction_kept (m : Machine) : Kept m (m.runAction isBoot valid config) := by
  have hcleared : Kept m { m with applied := [] } := ⟨rfl, rfl, rfl, rfl, rfl⟩
  exact hcleared.trans (foldl_kept (actionMap_actsOn isBoot valid config) _)

/-- The service types that an action is registered for. -/
def registered : List ServiceType := [101, 102, 103, 105, 107, 115, 120, 121]

/-- What is applied is what the policy has then. -/
theorem runAction_applied (m : Machine) :
    ∀ item ∈ (m.runAction isBoot valid config).applied,
      item.1 ∈ registered ∧ m.policy.switchMap[item.1]? = some item.2 := by
  intro item hmem
  obtain hcleared | happlied := foldl_applied (actionMap_actsOn isBoot valid config) _ item hmem
  · simp at hcleared
  · exact happlied

theorem type_of_readsAs {id : ServiceType} {stored : Option Int} {value : Int} (h : ReadsAs config id stored value) :
    id = ServiceType.displayOffTime ∨ id = ServiceType.autoAdjustBrightness ∨ id = ServiceType.autoWindowRotation ∨
      id = ServiceType.vibratorsState ∨ id = ServiceType.intellVoice := by
  obtain ⟨-, hread, hvalid⟩ := h
  by_contra hother
  obtain ⟨htime, hswitch⟩ := not_or.mp hother
  rw [readSetting, if_neg hswitch, if_neg htime] at hread
  exact hvalid hread.symm

/-- A value that can be read is written to its setting, except a screen-off time that is not positive. -/
theorem runAction_writes {id : ServiceType} {stored : Option Int} {value : Int} {m : Machine}
    (hreads : ReadsAs config id stored value) (hpolicy : m.policy.switchMap[id]? = some value) :
    ((id = ServiceType.displayOffTime → 0 < value) → (m.runAction false valid config).settings id = some value) ∧
      (id = ServiceType.displayOffTime → (m.runAction false valid config).displayOffTime = value) := by
  have hhit : ∀ action, (id, action) ∈ actionMap false valid config → ∃ m' : Machine,
      m'.policy.switchMap[id]? = some value ∧
      (m.runAction false valid config).settings id = (action m').settings id ∧
      (id = ServiceType.displayOffTime → (m.runAction false valid config).displayOffTime = (action m').displayOffTime) := by
    intro action hmem
    obtain ⟨m', hkept, hsettings, htime⟩ := foldl_hit (actionMap_actsOn false valid config)
      (nodup_actionMap false valid config) hmem { m with applied := [] }
    rw [← hkept.policy] at hpolicy
    rw [runAction]
    exact ⟨m', hpolicy, hsettings, htime⟩
  have hput : (id, act id false (putSetting id)) ∈ actionMap false valid config →
      (m.runAction false valid config).settings id = some value := by
    intro hmem
    obtain ⟨m', hpolicy, hsettings, -⟩ := hhit _ hmem
    rw [hsettings, act_putSetting hpolicy hreads.2.2]
  obtain rfl | rfl | rfl | rfl | rfl := type_of_readsAs hreads
  · obtain ⟨m', hpolicy, hsettings, htime⟩ := hhit (setDisplayOffTime false valid) (.head _)
    have hget := getPolicyFromMap_of_getElem? hpolicy
    refine ⟨fun hpositive => ?_, fun _ => ?_⟩
    · rw [hsettings]
      simp [setDisplayOffTime, act, hget, hreads.2.2, hpositive rfl, putSetting]
    · rw [htime rfl]
      simp only [setDisplayOffTime, act, Bool.false_and, Bool.false_eq_true, if_false, hget, hreads.2.2]
      split_ifs <;> rfl
  · exact ⟨fun _ => hput (.tail _ (.tail _ (.head _))), fun heq => absurd heq (by decide)⟩
  · exact ⟨fun _ => hput (.tail _ (.tail _ (.tail _ (.tail _ (.head _))))), fun heq => absurd heq (by decide)⟩
  · exact ⟨fun _ => hput (.tail _ (.tail _ (.tail _ (.tail _ (.tail _ (.tail _ (.head _))))))),
      fun heq => absurd heq (by decide)⟩
  · exact ⟨fun _ => hput (.tail _ (.tail _ (.tail _ (.head _)))), fun heq => absurd heq (by decide)⟩

/-! ## Starting -/

/-- The service before a new process has looked at the policy of the mode. -/
def started (displayOffTime : Int) (reload : Bool) (m : Machine) : Machine where
  policy := { recoverMap := if reload then m.savedRecoverMap.getD ∅ else ∅ }
  mode := modeOf m.currentMode
  displayOffTime := displayOffTime
  settings := m.settings
  currentMode := m.currentMode
  savedRecoverMap := m.savedRecoverMap

/-- A new process goes through the policy of the mode when nothing was saved for it, and in the
performance mode when the build has the resource scheduler. -/
def EntersAtStart (config : Config) (reload : Bool) (m : Machine) : Prop :=
  reload = false ∨ m.savedRecoverMap = none ∨ config.resourceSchedule = true ∧ modeOf m.currentMode = performanceMode

instance (config : Config) (reload : Bool) (m : Machine) : Decidable (EntersAtStart config reload m) :=
  inferInstanceAs (Decidable (_ ∨ _))

theorem restart_of_enters {displayOffTime : Int} {reload : Bool} {reads : Nat → Bool} {m : Machine}
    (h : EntersAtStart config reload m) :
    ∃ isBoot, m.restart config displayOffTime reload reads valid =
      ((m.started displayOffTime reload).updateModepolicy config reads).runAction isBoot valid config := by
  unfold restart initPowerMode initRecoverMap
  dsimp only
  cases hreload : reload with
  | false => exact ⟨false, by simp [started]⟩
  | true =>
    cases hsaved : m.savedRecoverMap with
    | none => exact ⟨false, by simp [started, hsaved]⟩
    | some saved =>
      obtain hfalse | hnone | hboot := h
      · simp [hreload] at hfalse
      · simp [hsaved] at hnone
      · exact ⟨true, by simp [started, hsaved, hboot, isBootNeedActions]⟩

theorem restart_of_not_enters {displayOffTime : Int} {reload : Bool} {reads : Nat → Bool} {m : Machine}
    (h : ¬EntersAtStart config reload m) :
    m.restart config displayOffTime reload reads valid = m.started displayOffTime reload := by
  obtain ⟨hreload, hsaved, hboot⟩ : ¬reload = false ∧ ¬m.savedRecoverMap = none ∧
      ¬(config.resourceSchedule = true ∧ modeOf m.currentMode = performanceMode) := by
    simpa only [EntersAtStart, not_or] using h
  obtain ⟨saved, hsaved⟩ := Option.ne_none_iff_exists'.mp hsaved
  rw [Bool.not_eq_false] at hreload
  unfold restart initPowerMode initRecoverMap
  simp only [hreload, hsaved, if_true, Option.map_some, started, Option.getD_some]
  rw [if_neg (by simpa [isBootNeedActions] using hboot)]

/-- A mode that was saved is the mode after a restart. -/
theorem modeOf_toInt32 {mode : Nat} (hpos : 0 < mode) (hlt : mode < 2 ^ 32) : modeOf (toInt32 mode) = mode := by
  have hne : toInt32 mode ≠ lastModeFlag := by
    simp only [toInt32, lastModeFlag, Int.bmod]
    omega
  rw [modeOf, if_neg hne]
  change @Eq Nat _ _
  simp only [toInt32, Int.bmod]
  omega

end Machine

/-! ## Steps -/

inductive Event where
  | enableMode (mode : Mode) (reads : Nat → Bool)
  | restart (displayOffTime : Int) (reload : Bool) (reads : Nat → Bool) (valid : ServiceType → Bool)
  -- the user, and the observer that notices
  | changeSetting (id : ServiceType) (stored : Option Int)
  | removeBackup (id : ServiceType)

/-- The service after a step; a mode that is entered is a `uint32_t` other than `LAST_MODE_FLAG`. -/
def perform (config : Config) (m : Machine) : Event → Option Machine
  | .enableMode mode reads => if 0 < mode ∧ mode < 2 ^ 32 then some (m.enableMode config reads mode) else none
  | .restart displayOffTime reload reads valid => some (m.restart config displayOffTime reload reads valid)
  | .changeSetting id stored => some { m with settings := Function.update m.settings id stored }
  | .removeBackup id => some (m.removeBackupMapSettingSwitch id)

/-- What is to be given back is what is saved, and only of what the mode mentions. -/
structure Stored (config : Config) (m : Machine) : Prop where
  idle : Idle config m.policy
  saved : ∀ recoverMap, m.savedRecoverMap = some recoverMap →
    recoverMap = m.policy.recoverMap ∧ m.mode = Machine.modeOf m.currentMode
  unsaved : m.savedRecoverMap = none → ∀ id : ServiceType, m.policy.recoverMap[id]? = none
  mentions : ∀ (id : ServiceType) (value : Int), m.policy.recoverMap[id]? = some value → Mentions config m.mode id

variable {config : Config} {m m' : Machine}

theorem stored_init (settings : Settings) (currentMode : Int) :
    Stored config { settings := settings, currentMode := currentMode } where
  idle _ id := ⟨TreeMap.getElem?_emptyc, TreeMap.getElem?_emptyc, TreeMap.getElem?_emptyc⟩
  saved _ hsaved := by simp at hsaved
  unsaved _ id := TreeMap.getElem?_emptyc
  mentions id value hvalue := by simp at hvalue

/-- What the service is after it has gone through the policy of its mode and the actions. -/
structure Entered (config : Config) (reads : Nat → Bool) (m m' : Machine) : Prop where
  policy : m'.policy = m.policy.updatePowerModePolicy config m.settings reads m.mode
  mode : m'.mode = m.mode
  savedRecoverMap : m'.savedRecoverMap = some m'.policy.recoverMap
  applied : ∀ item ∈ m'.applied, item.1 ∈ Machine.registered ∧ m'.policy.switchMap[item.1]? = some item.2

theorem entered_runAction (config : Config) (reads : Nat → Bool) (isBoot : Bool) (valid : ServiceType → Bool)
    (m : Machine) : Entered config reads m ((m.updateModepolicy config reads).runAction isBoot valid config) := by
  have hkept : Kept (m.updateModepolicy config reads)
      ((m.updateModepolicy config reads).runAction isBoot valid config) := Machine.runAction_kept _
  refine ⟨hkept.policy, hkept.mode, ?_, ?_⟩
  · rw [hkept.savedRecoverMap, hkept.policy]
    rfl
  · rw [hkept.policy]
    exact Machine.runAction_applied _

theorem entered_enableMode (config : Config) (reads : Nat → Bool) (mode : Mode) (m : Machine) :
    Entered config reads { m with mode := mode } (m.enableMode config reads mode) := by
  obtain ⟨hpolicy, hmode, hsaved, happlied⟩ := entered_runAction config reads false (fun _ => false) { m with mode := mode }
  unfold Machine.enableMode
  dsimp only
  generalize ({ m with mode := mode }.updateModepolicy config reads).runAction false (fun _ => false) config = m' at *
  exact ⟨hpolicy, hmode, hsaved, happlied⟩

theorem enableMode_currentMode (config : Config) (reads : Nat → Bool) (mode : Mode) (m : Machine) :
    (m.enableMode config reads mode).currentMode = toInt32 mode := by
  simp only [Machine.enableMode]

theorem enableMode_writes {reads : Nat → Bool} {mode : Mode} {id : ServiceType} {stored : Option Int} {value : Int}
    (hreads : ReadsAs config id stored value)
    (hpolicy : (m.policy.updatePowerModePolicy config m.settings reads mode).switchMap[id]? = some value) :
    ((id = ServiceType.displayOffTime → 0 < value) → (m.enableMode config reads mode).settings id = some value) ∧
      (id = ServiceType.displayOffTime → (m.enableMode config reads mode).displayOffTime = value) := by
  simp only [Machine.enableMode]
  exact Machine.runAction_writes hreads hpolicy

theorem entered_restart {displayOffTime : Int} {reload : Bool} {reads : Nat → Bool} {valid : ServiceType → Bool}
    (h : Machine.EntersAtStart config reload m) :
    Entered config reads (m.started displayOffTime reload) (m.restart config displayOffTime reload reads valid) ∧
      (m.restart config displayOffTime reload reads valid).currentMode = m.currentMode := by
  obtain ⟨isBoot, heq⟩ := Machine.restart_of_enters h
  rw [heq]
  refine ⟨entered_runAction config reads isBoot valid _, ?_⟩
  rw [(Machine.runAction_kept _).currentMode]
  rfl

/-- The update of the policy leaves the maps in order whatever mode the service was in. -/
theorem Entered.stored {reads : Nat → Bool} (h : Entered config reads m m') (hidle : Idle config m.policy)
    (hcurrent : m'.mode = Machine.modeOf m'.currentMode) : Stored config m' where
  idle := by
    rw [h.policy]
    exact hidle.update m.mode
  saved recoverMap hsaved := ⟨(Option.some.inj (h.savedRecoverMap.symm.trans hsaved)).symm, hcurrent⟩
  unsaved hnone := by simp [h.savedRecoverMap] at hnone
  mentions id value hvalue := by
    rw [h.mode]
    by_contra hmentions
    rw [h.policy, update_recoverMap_of_not_mentions hidle hmentions] at hvalue
    cases hvalue

/-- A new process has what the one before had to give back, unless it cannot be read. -/
theorem Stored.started_recoverMap (h : Stored config m) (displayOffTime : Int) (reload : Bool) (id : ServiceType) :
    (m.started displayOffTime reload).policy.recoverMap[id]? =
      if reload then m.policy.recoverMap[id]? else none := by
  unfold Machine.started
  cases reload with
  | false => exact TreeMap.getElem?_emptyc
  | true =>
    cases hsaved : m.savedRecoverMap with
    | none => simp [h.unsaved hsaved id]
    | some recoverMap => simp [(h.saved recoverMap hsaved).1]

theorem Stored.started_idle (h : Stored config m) (displayOffTime : Int) (reload : Bool) :
    Idle config (m.started displayOffTime reload).policy := by
  intro hempty id
  refine ⟨TreeMap.getElem?_emptyc, TreeMap.getElem?_emptyc, ?_⟩
  rw [h.started_recoverMap, (h.idle hempty id).2.2, ite_self]

theorem Stored.started (h : Stored config m) {reload : Bool} (henters : ¬Machine.EntersAtStart config reload m)
    (displayOffTime : Int) : Stored config (m.started displayOffTime reload) := by
  obtain ⟨hreload, hrest⟩ := not_or.mp henters
  obtain ⟨recoverMap, hrecoverMap⟩ := Option.ne_none_iff_exists'.mp (not_or.mp hrest).1
  have hsame := h.saved recoverMap hrecoverMap
  refine ⟨h.started_idle displayOffTime reload, fun other hother => ⟨?_, rfl⟩, fun hnone => ?_, fun id value hvalue => ?_⟩
  · obtain rfl := Option.some.inj (hrecoverMap.symm.trans hother)
    simp [Machine.started, hreload, hrecoverMap]
  · exact absurd (hrecoverMap.symm.trans hnone) (by simp)
  · rw [h.started_recoverMap, if_pos (by simpa using hreload)] at hvalue
    have hmentions := h.mentions id value hvalue
    rw [hsame.2] at hmentions
    exact hmentions

theorem erase_recoverMap {id id' : ServiceType} {value : Int}
    (hvalue : (m.policy.recoverMap.erase id)[id']? = some value) : m.policy.recoverMap[id']? = some value := by
  rw [Lib.TreeMap.getElem?_erase_eq] at hvalue
  split_ifs at hvalue
  exact hvalue

theorem Stored.removeBackup (h : Stored config m) (id : ServiceType) :
    Stored config (m.removeBackupMapSettingSwitch id) := by
  unfold Machine.removeBackupMapSettingSwitch
  split
  next hmem =>
    have hsaved : m.savedRecoverMap ≠ none := by
      intro hnone
      simp [TreeMap.mem_iff_isSome_getElem?, h.unsaved hnone id] at hmem
    obtain ⟨recoverMap, hrecoverMap⟩ := Option.ne_none_iff_exists'.mp hsaved
    refine ⟨fun hempty id' => ?_, fun _ hsome => ?_, fun hnone => ?_, fun id' value hvalue => ?_⟩
    · obtain ⟨hswitch, hbackup, hrecover⟩ := h.idle hempty id'
      exact ⟨hswitch, hbackup, by simp [Lib.TreeMap.getElem?_erase_eq, hrecover]⟩
    · exact ⟨(Option.some.inj hsome).symm, (h.saved recoverMap hrecoverMap).2⟩
    · simp at hnone
    · exact h.mentions id' value (erase_recoverMap hvalue)
  next => exact h

theorem Stored.perform (h : Stored config m) {e : Event} (hstep : perform config m e = some m') : Stored config m' := by
  cases e with
  | enableMode mode reads =>
    obtain ⟨⟨hpos, hlt⟩, heq⟩ := Option.ite_none_right_eq_some.mp hstep
    obtain rfl := Option.some.inj heq
    have hentered := entered_enableMode config reads mode m
    refine hentered.stored h.idle (hentered.mode.trans ?_)
    rw [enableMode_currentMode, Machine.modeOf_toInt32 hpos hlt]
  | restart displayOffTime reload reads valid =>
    obtain rfl := Option.some.inj hstep
    by_cases henters : Machine.EntersAtStart config reload m
    · obtain ⟨hentered, hcurrent⟩ := entered_restart henters
      refine hentered.stored (h.started_idle displayOffTime reload) ?_
      rw [hentered.mode, hcurrent]
      rfl
    · rw [Machine.restart_of_not_enters henters]
      exact h.started henters displayOffTime
  | changeSetting id stored =>
    obtain rfl := Option.some.inj hstep
    exact ⟨h.idle, h.saved, h.unsaved, h.mentions⟩
  | removeBackup id =>
    obtain rfl := Option.some.inj hstep
    exact h.removeBackup id

end PowerMgr.PowerMode.Policy
