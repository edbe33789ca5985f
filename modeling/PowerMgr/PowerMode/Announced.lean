import PowerMgr.Types
import PowerMgr.Lib.System
import PowerMgr.Lib.TreeMap
import Mathlib.Logic.Function.Basic

/-! # Power mode, sub-mode and what is announced of them

Embedding of the mode part of `PowerModeModule` (`power_mode_module.cpp`): which mode and sub-mode
are set, the event that is published and the callbacks that are told.  What a mode does to the
settings is in `PowerMode.Policy`.

* `State` — the module, what it has saved, published and passed to the callbacks;
* `Agrees` — the mode, the sub-mode and the announcements fit each other;
* `announcements_agree` — the runs in which this holds.

The service holds `modeMutex_` during a call, so calls do not overlap; publishing is taken to
succeed.
-/

namespace PowerMgr.PowerMode.Announced

open Std (TreeSet)

/-- `PowerMode`, a `uint32_t`; a client may pass, and a setting may hold, a value that is none of
the modes. -/
abbrev Mode := Nat

def powerModeMin : Nat := 600

def normalMode : Nat := powerModeMin

def powerSaveMode : Nat := 601

def performanceMode : Nat := 602

def extremePowerSaveMode : Nat := 603

def customPowerSaveMode : Nat := 650

def powerModeMax : Nat := customPowerSaveMode

/-- `PowerSubMode`, an `int32_t`. -/
abbrev SubMode := Int

def subModeInvalid : Int := -1

def subModeSuperPowerSave : Int := 603001

def subModeEmergency : Int := 603002

def lastModeFlag : Nat := 0

abbrev Callback := Nat

/-- An event of `COMMON_EVENT_POWER_SAVE_MODE_CHANGED`. -/
structure ModeEvent where
  code : Mode
  data : String
  subMode : Option String
  deriving DecidableEq, Repr

/-! ## The module -/

structure Module where
  mode : Mode := normalMode
  subMode : SubMode := subModeInvalid
  lastMode : Nat := lastModeFlag
  started : Bool := false
  observerRegisted : Bool := false
  callbacks : TreeSet Callback := ∅
  -- the settings that keep the modes
  currentMode : Int := lastModeFlag
  currentSubMode : Int := subModeEmergency
  -- what was announced: the events, and the mode last passed to each callback
  published : List ModeEvent := []
  passed : Callback → Option Mode := fun _ => none

def isMode (mode : Mode) : Bool :=
  mode = performanceMode || mode = normalMode || mode = powerSaveMode || mode = extremePowerSaveMode ||
    mode = customPowerSaveMode

def isSubMode (subMode : SubMode) : Bool :=
  subMode = subModeInvalid || subMode = subModeSuperPowerSave || subMode = subModeEmergency

/-- The modes that `forbidMap_` keeps a mode from. -/
def forbidMap (source : Mode) : List Mode :=
  if source = powerSaveMode ∨ source = extremePowerSaveMode ∨ source = customPowerSaveMode then [performanceMode]
  else []

def canTransitTo (source target : Mode) : Bool := target ∉ forbidMap source

namespace Module

/-- The event that the module publishes of its modes, or none of an unknown mode. -/
def modeEvent (m : Module) : Option ModeEvent :=
  if isMode m.mode then
    some {
      code := m.mode
      data := toString m.mode
      subMode := if m.mode = extremePowerSaveMode then some (toString m.subMode) else none }
  else none

def publishPowerModeEvent (m : Module) : Module :=
  { m with published := m.published ++ m.modeEvent.toList }

/-- `CallbackManager::WaitingCallback`: the mode passed is always `NORMAL_MODE`. -/
def waitingCallback (m : Module) : Module :=
  { m with passed := fun callback => if callback ∈ m.callbacks then some normalMode else m.passed callback }

def prepare (m : Module) : Module := m.publishPowerModeEvent.waitingCallback

def enableMode (m : Module) (mode : Mode) : Module :=
  if m.started then m
  else
    let m := { m with started := true, mode := mode }.prepare
    { m with currentMode := mode, lastMode := mode, started := false }

def unregisterSaveModeObserver (m : Module) : Module := { m with observerRegisted := false }

def registerSaveModeObserver (m : Module) : Module :=
  if m.mode = powerSaveMode ∨ m.mode = extremePowerSaveMode then { m with observerRegisted := true } else m

/-- The checks of `SetModeItem`. -/
def checkMode (m : Module) (mode : Mode) : PowerErrors :=
  if extremePowerSaveMode < mode ∧ mode < powerModeMax then .paramInvalid
  else if mode < powerModeMin ∨ powerModeMax < mode then .paramInvalid
  else if !canTransitTo m.mode mode then .powerModeTransitFailed
  else .ok

def resetSubMode (m : Module) (mode : Mode) : Module :=
  if mode ≠ extremePowerSaveMode ∧ m.subMode ≠ subModeInvalid then
    { m with subMode := subModeInvalid, currentSubMode := subModeInvalid }
  else m

def setModeItem (m : Module) (mode : Mode) : Module × PowerErrors :=
  if m.mode = mode then (m, .ok)
  else
    match m.checkMode mode with
    | .ok =>
      (((m.unregisterSaveModeObserver.resetSubMode mode).enableMode mode).registerSaveModeObserver, .ok)
    | error => (m, error)

def setModeAndSubModeItem (m : Module) (mode : Mode) (subMode : SubMode) : Module × PowerErrors :=
  if !isSubMode subMode then (m, .paramInvalid)
  else
    match m.setModeItem mode with
    | (m', .ok) =>
      let m'' := { m' with subMode := subMode, currentSubMode := subMode }
      if m.mode = mode ∧ m.subMode ≠ subMode then (m''.publishPowerModeEvent, .ok) else (m'', .ok)
    | (m', error) => (m', error)

/-- The modes of `InitPowerMode`, from what the settings hold. -/
def initPowerMode (saveMode saveSubMode : Int) (m : Module) : Module :=
  let mode : Mode := if saveMode = lastModeFlag then normalMode else (saveMode % 2 ^ 32).toNat
  let saveSubMode := if isSubMode saveSubMode then saveSubMode else subModeEmergency
  let subMode := if mode ≠ extremePowerSaveMode then subModeInvalid else saveSubMode
  { m with mode := mode, subMode := subMode }.prepare

def addCallback (m : Module) (callback : Option Callback) : Module :=
  match callback with
  | none => m
  | some callback => { m with callbacks := m.callbacks.insert callback }

/-- `RemoveCallback`, which the death of a client runs too. -/
def removeCallback (m : Module) (callback : Option Callback) : Module :=
  match callback with
  | none => m
  | some callback => { m with callbacks := m.callbacks.erase callback }

end Module

/-! ## Runs -/

/-- The module, and what the last step did: whether it changed the mode or the sub-mode, and what
it returned. -/
structure State where
  module : Module
  modeChanged : Bool := false
  subModeChanged : Bool := false

inductive Event where
  | setModeItem (mode : Mode)
  | setModeAndSubModeItem (mode : Mode) (subMode : SubMode)
  | addCallback (callback : Option Callback)
  | removeCallback (callback : Option Callback)
  deriving DecidableEq, Repr

/-- The module after a step, and what a call returns. -/
def perform (m : Module) : Event → Module × PowerErrors
  | .setModeItem mode => m.setModeItem mode
  | .setModeAndSubModeItem mode subMode => m.setModeAndSubModeItem mode subMode
  | .addCallback callback => (m.addCallback callback, .ok)
  | .removeCallback callback => (m.removeCallback callback, .ok)

def next (s : State) (e : Event) : Option State :=
  let m := (perform s.module e).1
  some {
    module := m
    modeChanged := m.mode ≠ s.module.mode
    subModeChanged := m.subMode ≠ s.module.subMode }

def system : Lib.System State Event where
  init s := ∃ saveMode saveSubMode callbacks,
    s = { module := ({ callbacks := callbacks } : Module).initPowerMode saveMode saveSubMode }
  next := next

/-- The modes fit each other, an error changes neither, and after a step that changed one of them the
event published last is that of the modes, and a mode that changed was passed to every callback. -/
structure Agrees (s : State) : Prop where
  subMode : s.module.mode ≠ extremePowerSaveMode → s.module.subMode = subModeInvalid
  errors : ∀ e, (perform s.module e).2 ≠ .ok →
    (perform s.module e).1.mode = s.module.mode ∧ (perform s.module e).1.subMode = s.module.subMode
  event : s.modeChanged = true ∨ s.subModeChanged = true →
    ∃ event, s.module.published.getLast? = some event ∧ event.code = s.module.mode ∧
      (s.module.mode = extremePowerSaveMode → event.subMode = some (toString s.module.subMode))
  passed : s.modeChanged = true → ∀ callback ∈ s.module.callbacks, s.module.passed callback = some s.module.mode

/-- A mode is entered that the callbacks are told rightly of. -/
def ToldOf (m : Module) (mode : Mode) : Prop :=
  mode = normalMode ∨ ∀ callback, callback ∉ m.callbacks

/-- Another mode is entered only when it is the normal one or there are no callbacks; a sub-mode is
only given in the extreme mode, and not on entering it. -/
def Careful (s : State) : Event → Prop
  | .setModeItem mode =>
    s.module.mode ≠ mode → s.module.checkMode mode = .ok → ToldOf s.module mode
  | .setModeAndSubModeItem mode subMode =>
    isSubMode subMode = true →
      (s.module.mode = mode → mode ≠ extremePowerSaveMode → subMode = subModeInvalid) ∧
        (s.module.mode ≠ mode → s.module.checkMode mode = .ok → ToldOf s.module mode ∧ subMode = subModeInvalid)
  | .addCallback _ | .removeCallback _ => True

/-! ## Setting the mode -/

theorem mode_of_bounds {mode : Nat} (hbetween : ¬(603 < mode ∧ mode < 650)) (houtside : ¬(mode < 600 ∨ 650 < mode)) :
    mode = 600 ∨ mode = 601 ∨ mode = 602 ∨ mode = 603 ∨ mode = 650 := by
  omega

theorem isMode_of_checkMode {m : Module} {mode : Mode} (h : m.checkMode mode = .ok) : isMode mode = true := by
  unfold Module.checkMode at h
  split at h
  · cases h
  next hbetween =>
    split at h
    · cases h
    next houtside =>
      obtain hmode | hmode | hmode | hmode | hmode := mode_of_bounds hbetween houtside <;> subst hmode <;> rfl

/-- What the module is after it has entered a mode. -/
structure Entered (m m' : Module) (mode : Mode) : Prop where
  entered : m'.mode = mode
  subMode : m'.subMode = if mode ≠ extremePowerSaveMode then subModeInvalid else m.subMode
  started : m'.started = false
  callbacks : m'.callbacks = m.callbacks
  event : m'.published.getLast? = m'.modeEvent
  passed : ∀ callback ∈ m.callbacks, m'.passed callback = some normalMode

theorem resetSubMode_subMode (m : Module) (mode : Mode) :
    (m.resetSubMode mode).subMode = if mode ≠ extremePowerSaveMode then subModeInvalid else m.subMode := by
  unfold Module.resetSubMode
  split_ifs <;> simp_all

@[simp] theorem resetSubMode_started (m : Module) (mode : Mode) : (m.resetSubMode mode).started = m.started := by
  unfold Module.resetSubMode
  split <;> rfl

@[simp] theorem resetSubMode_callbacks (m : Module) (mode : Mode) : (m.resetSubMode mode).callbacks = m.callbacks := by
  unfold Module.resetSubMode
  split <;> rfl

@[simp] theorem registerSaveModeObserver_eq (m : Module) :
    m.registerSaveModeObserver =
      { m with observerRegisted := m.mode = powerSaveMode ∨ m.mode = extremePowerSaveMode ∨ m.observerRegisted } := by
  unfold Module.registerSaveModeObserver
  by_cases hsave : m.mode = powerSaveMode ∨ m.mode = extremePowerSaveMode
  · simp [hsave, ← or_assoc]
  · simp [hsave, ← or_assoc]

/-- A mode that is entered is published with the sub-mode there is then, and told as the normal mode. -/
theorem entered_enableMode {m : Module} (hstarted : m.started = false) (mode : Mode) (hmode : isMode mode = true) :
    Entered m ((m.unregisterSaveModeObserver.resetSubMode mode).enableMode mode).registerSaveModeObserver mode where
  entered := by simp [Module.enableMode, hstarted, Module.unregisterSaveModeObserver, Module.prepare,
    Module.publishPowerModeEvent, Module.waitingCallback]
  subMode := by
    simp [Module.enableMode, hstarted, Module.unregisterSaveModeObserver, Module.prepare,
      Module.publishPowerModeEvent, Module.waitingCallback, resetSubMode_subMode]
  started := by simp [Module.enableMode, hstarted, Module.unregisterSaveModeObserver]
  callbacks := by
    simp [Module.enableMode, hstarted, Module.unregisterSaveModeObserver, Module.prepare,
      Module.publishPowerModeEvent, Module.waitingCallback]
  event := by
    simp [Module.enableMode, hstarted, Module.unregisterSaveModeObserver, Module.prepare,
      Module.publishPowerModeEvent, Module.waitingCallback, Module.modeEvent, hmode]
  passed := by
    intro callback hmem
    simp [Module.enableMode, hstarted, Module.unregisterSaveModeObserver, Module.prepare,
      Module.publishPowerModeEvent, Module.waitingCallback, hmem]

/-- What `SetModeItem` does: nothing, an error, or a mode is entered. -/
theorem setModeItem_cases {m : Module} (hstarted : m.started = false) (mode : Mode) :
    (m.mode = mode ∧ m.setModeItem mode = (m, .ok)) ∨
      (m.mode ≠ mode ∧ m.checkMode mode = .ok ∧ ∃ m', m.setModeItem mode = (m', .ok) ∧ Entered m m' mode) ∨
      ∃ error, error ≠ .ok ∧ m.setModeItem mode = (m, error) := by
  unfold Module.setModeItem
  by_cases hsame : m.mode = mode
  · exact .inl ⟨hsame, by simp [hsame]⟩
  · simp only [hsame, if_false]
    cases hcheck : m.checkMode mode with
    | ok =>
      exact .inr (.inl ⟨hsame, rfl, _, rfl, entered_enableMode hstarted mode (isMode_of_checkMode hcheck)⟩)
    | _ => exact .inr (.inr ⟨_, by decide, rfl⟩)

/-- `SetModeAndSubModeItem` gives the sub-mode to what `SetModeItem` leaves, unless that failed. -/
theorem setModeAndSubModeItem_cases {m : Module} (hstarted : m.started = false) (mode : Mode) (subMode : SubMode) :
    (∃ error, error ≠ .ok ∧ m.setModeAndSubModeItem mode subMode = (m, error)) ∨
      (isSubMode subMode = true ∧ m.mode = mode ∧
        m.setModeAndSubModeItem mode subMode =
          (if m.subMode ≠ subMode then
            { m with subMode := subMode, currentSubMode := subMode }.publishPowerModeEvent
          else { m with subMode := subMode, currentSubMode := subMode }, .ok)) ∨
      (isSubMode subMode = true ∧ m.mode ≠ mode ∧ m.checkMode mode = .ok ∧
        ∃ m', Entered m m' mode ∧
          m.setModeAndSubModeItem mode subMode = ({ m' with subMode := subMode, currentSubMode := subMode }, .ok)) := by
  unfold Module.setModeAndSubModeItem
  by_cases hsub : isSubMode subMode = true
  · simp only [hsub, Bool.not_true, Bool.false_eq_true, if_false]
    obtain ⟨hsame, heq⟩ | ⟨hne, hcheck, m', heq, hentered⟩ | ⟨error, hbad, heq⟩ := setModeItem_cases hstarted mode
    · rw [heq]
      refine .inr (.inl ⟨trivial, hsame, ?_⟩)
      simp only [hsame, true_and]
      split_ifs <;> rfl
    · rw [heq]
      exact .inr (.inr ⟨trivial, hne, hcheck, m', hentered, by simp [hne]⟩)
    · rw [heq]
      refine .inl ⟨error, hbad, ?_⟩
      cases error <;> first | exact absurd rfl hbad | rfl
  · exact .inl ⟨.paramInvalid, by decide, by simp [hsub]⟩

/-! ## The announcements -/

/-- The modes between calls. -/
structure Inv (s : State) : Prop where
  started : s.module.started = false
  subMode : s.module.mode ≠ extremePowerSaveMode → s.module.subMode = subModeInvalid
  event : s.modeChanged = true ∨ s.subModeChanged = true →
    ∃ event, s.module.published.getLast? = some event ∧ event.code = s.module.mode ∧
      (s.module.mode = extremePowerSaveMode → event.subMode = some (toString s.module.subMode))
  passed : s.modeChanged = true → ∀ callback ∈ s.module.callbacks, s.module.passed callback = some s.module.mode

/-- An error changes nothing. -/
theorem perform_of_error {m : Module} (hstarted : m.started = false) (e : Event) (herror : (perform m e).2 ≠ .ok) :
    (perform m e).1 = m := by
  cases e with
  | setModeItem mode =>
    obtain ⟨-, heq⟩ | ⟨-, -, m', heq, -⟩ | ⟨error, -, heq⟩ := setModeItem_cases hstarted mode
    · simp only [perform, heq]
    · simp only [perform, heq, ne_eq, not_true_eq_false] at herror
    · simp only [perform, heq]
  | setModeAndSubModeItem mode subMode =>
    obtain ⟨error, -, heq⟩ | ⟨-, -, heq⟩ | ⟨-, -, -, m', -, heq⟩ := setModeAndSubModeItem_cases hstarted mode subMode
    · simp only [perform, heq]
    · simp only [perform, heq, ne_eq, not_true_eq_false] at herror
    · simp only [perform, heq, ne_eq, not_true_eq_false] at herror
  | addCallback callback => exact absurd rfl herror
  | removeCallback callback => exact absurd rfl herror

theorem Inv.agrees {s : State} (h : Inv s) : Agrees s where
  subMode := h.subMode
  errors e herror := by
    rw [perform_of_error h.started e herror]
    exact ⟨rfl, rfl⟩
  event := h.event
  passed := h.passed

theorem event_of_getLast {m : Module} {event : ModeEvent} (h : m.modeEvent = some event) :
    event.code = m.mode ∧ (m.mode = extremePowerSaveMode → event.subMode = some (toString m.subMode)) := by
  unfold Module.modeEvent at h
  split at h
  · obtain rfl := Option.some.inj h
    exact ⟨rfl, fun hextreme => if_pos hextreme⟩
  · cases h

/-- After a step that changes neither mode nor sub-mode there is nothing to announce. -/
theorem Inv.unchanged {s s' : State} (h : Inv s) (hstarted : s'.module.started = false)
    (hmode : s'.module.mode = s.module.mode) (hsub : s'.module.subMode = s.module.subMode)
    (hflags : s'.modeChanged = false ∧ s'.subModeChanged = false) : Inv s' where
  started := hstarted
  subMode := by
    rw [hmode, hsub]
    exact h.subMode
  event hchanged := by simp [hflags.1, hflags.2] at hchanged
  passed hchanged := by simp [hflags.1] at hchanged

theorem inv_entered {m m' : Module} {mode : Mode} (hentered : Entered m m' mode)
    (hmode : isMode mode = true) (htold : ToldOf m mode) (modeChanged subModeChanged : Bool) :
    Inv { module := m', modeChanged := modeChanged, subModeChanged := subModeChanged } where
  started := hentered.started
  subMode hne := by
    have hne' : mode ≠ extremePowerSaveMode := hentered.entered ▸ hne
    exact hentered.subMode.trans (if_pos hne')
  event _ := by
    obtain ⟨event, hevent⟩ : ∃ event, m'.modeEvent = some event := by
      refine ⟨_, if_pos ?_⟩
      rw [hentered.entered]
      exact hmode
    exact ⟨event, hentered.event.trans hevent, event_of_getLast hevent⟩
  passed _ callback hmem := by
    change callback ∈ m'.callbacks at hmem
    rw [hentered.callbacks] at hmem
    obtain hnormal | hnone := htold
    · rw [hentered.passed callback hmem, hentered.entered, hnormal]
    · exact absurd hmem (hnone callback)

theorem not_mode_changed (m m' : Module) (hmode : m'.mode = m.mode) (hsub : m'.subMode = m.subMode) :
    decide (m'.mode ≠ m.mode) = false ∧ decide (m'.subMode ≠ m.subMode) = false := by
  simp [hmode, hsub]

/-- Giving the sub-mode that a mode was entered with changes nothing. -/
theorem Entered.subMode_given {m m' : Module} {mode : Mode} (h : Entered m m' mode) {subMode : SubMode}
    (hsub : m'.subMode = subMode) :
    Entered m { m' with subMode := subMode, currentSubMode := subMode } mode where
  entered := h.entered
  subMode := hsub ▸ h.subMode
  started := h.started
  callbacks := h.callbacks
  event := by
    subst hsub
    exact h.event
  passed := h.passed

theorem inv_init {s : State} (h : system.init s) : Inv s := by
  obtain ⟨saveMode, saveSubMode, callbacks, rfl⟩ := h
  refine { started := rfl, subMode := ?_, event := by simp, passed := by simp }
  intro hne
  exact if_pos hne

/-- A sub-mode given in the extreme mode is published with it. -/
theorem Inv.subMode_given {s s' : State} (h : Inv s) (hextreme : s.module.mode = extremePowerSaveMode)
    {subMode : SubMode}
    (hmodule : s'.module = { s.module with subMode := subMode, currentSubMode := subMode }.publishPowerModeEvent)
    (hflag : s'.modeChanged = false) : Inv s' where
  started := by
    rw [hmodule]
    exact h.started
  subMode hne := by
    rw [hmodule] at hne
    exact absurd hextreme hne
  event _ := by
    have hmode : isMode s.module.mode = true := hextreme ▸ rfl
    rw [hmodule]
    refine ⟨_, ?_, event_of_getLast (if_pos hmode)⟩
    simp only [Module.publishPowerModeEvent, Module.modeEvent, hmode, if_true, Option.toList_some, List.getLast?_append,
      List.getLast?_singleton, Option.some_or]
  passed hchanged := by simp [hflag] at hchanged

theorem Inv.next {s s' : State} (h : Inv s) {e : Event} (hcareful : Careful s e) (hnext : system.next s e = some s') :
    Inv s' := by
  obtain rfl := Option.some.inj hnext
  cases e with
  | setModeItem mode =>
    obtain ⟨-, heq⟩ | ⟨hne, hcheck, m', heq, hentered⟩ | ⟨error, -, heq⟩ := setModeItem_cases h.started mode
    · simp only [perform, heq]
      exact h.unchanged h.started rfl rfl (not_mode_changed _ _ rfl rfl)
    · simp only [perform, heq]
      exact inv_entered hentered (isMode_of_checkMode hcheck) (hcareful hne hcheck) _ _
    · simp only [perform, heq]
      exact h.unchanged h.started rfl rfl (not_mode_changed _ _ rfl rfl)
  | setModeAndSubModeItem mode subMode =>
    obtain ⟨error, -, heq⟩ | ⟨hvalid, hsame, heq⟩ | ⟨hvalid, hne, hcheck, m', hentered, heq⟩ :=
      setModeAndSubModeItem_cases h.started mode subMode
    · simp only [perform, heq]
      exact h.unchanged h.started rfl rfl (not_mode_changed _ _ rfl rfl)
    · have hgiven := (hcareful hvalid).1 hsame
      simp only [perform, heq]
      by_cases hchanged : s.module.subMode = subMode
      · simp only [hchanged, ne_eq, not_true_eq_false, if_false]
        exact h.unchanged h.started rfl hchanged.symm ⟨rfl, by simp⟩
      · -- by the rule the mode is the extreme one, where the event carries the sub-mode
        have hextreme : s.module.mode = extremePowerSaveMode := by
          by_contra hne
          exact hchanged ((h.subMode hne).trans (hgiven (hsame ▸ hne)).symm)
        simp only [ne_eq, hchanged, not_false_eq_true, if_true]
        exact h.subMode_given hextreme rfl (by simp [Module.publishPowerModeEvent])
    · obtain ⟨htold, rfl⟩ := (hcareful hvalid).2 hne hcheck
      have hsub : m'.subMode = subModeInvalid := by
        rw [hentered.subMode]
        split_ifs with hextreme
        · rfl
        · exact h.subMode fun heq => hne (heq.trans (not_not.mp hextreme).symm)
      simp only [perform, heq]
      exact inv_entered (hentered.subMode_given hsub) (isMode_of_checkMode hcheck) htold _ _
  | addCallback callback =>
    cases callback with
    | none => exact h.unchanged h.started rfl rfl (not_mode_changed _ _ rfl rfl)
    | some callback => exact h.unchanged h.started rfl rfl (not_mode_changed _ _ rfl rfl)
  | removeCallback callback =>
    cases callback with
    | none => exact h.unchanged h.started rfl rfl (not_mode_changed _ _ rfl rfl)
    | some callback => exact h.unchanged h.started rfl rfl (not_mode_changed _ _ rfl rfl)

/-- In a run of such steps mode, sub-mode and announcements agree between all calls. -/
theorem announcements_agree {s : State} (h : system.Reach Careful s) : Agrees s := by
  have hinv : Inv s := by
    refine h.invariant (I := Inv) ?_ ?_
    · intro s hs
      exact inv_init hs
    · intro s s' e hinv hcareful hnext
      exact hinv.next hcareful hnext
  exact hinv.agrees

/-- The module after a start with nothing saved. -/
def started : State := { module := ({} : Module).initPowerMode lastModeFlag subModeEmergency }

theorem init_started : system.init started := ⟨_, _, ∅, rfl⟩

/-- The extreme mode is entered without a sub-mode and given one, and a transition is refused. -/
theorem announcements_agree_two : ∃ s, Agrees s ∧ s.module.mode = extremePowerSaveMode ∧
    s.module.subMode = subModeEmergency := by
  have hstarted : system.Reach Careful started := .init init_started
  have hextreme := hstarted.step (Event.setModeItem extremePowerSaveMode)
    (fun _ _ => .inr fun callback => by simp [started, Module.initPowerMode, Module.prepare,
      Module.publishPowerModeEvent, Module.waitingCallback]) rfl
  have hrefused := hextreme.step (Event.setModeItem performanceMode) (fun _ hcheck => absurd hcheck (by decide)) rfl
  have hemergency := hrefused.step (Event.setModeAndSubModeItem extremePowerSaveMode subModeEmergency)
    (fun _ => ⟨fun _ hne => absurd rfl hne, fun hne => absurd rfl hne⟩) rfl
  exact ⟨_, announcements_agree hemergency, rfl, rfl⟩

/-- Entering the extreme mode with a sub-mode publishes the sub-mode there was before; a callback is
told of the normal mode whichever mode is entered. -/
theorem announcements_disagree :
    (∃ s, system.Reachable s ∧ s.module.mode = extremePowerSaveMode ∧ s.module.subMode = subModeEmergency ∧
      s.module.published.getLast? = some { code := 603, data := "603", subMode := some "-1" } ∧ ¬Agrees s) ∧
    ∃ s, system.Reachable s ∧ s.module.mode = powerSaveMode ∧ s.module.passed 1 = some normalMode ∧ ¬Agrees s := by
  have hstarted : system.Reachable started := .init init_started
  refine ⟨?_, ?_⟩
  · have hemergency := hstarted.step (Event.setModeAndSubModeItem extremePowerSaveMode subModeEmergency) trivial rfl
    refine ⟨_, hemergency, rfl, rfl, by decide, fun hagrees => ?_⟩
    obtain ⟨event, hlast, -, hsub⟩ := hagrees.event (.inl rfl)
    obtain rfl := Option.some.inj (hlast.symm.trans (by decide :
      _ = some { code := 603, data := "603", subMode := some "-1" }))
    exact absurd (hsub rfl) (by decide)
  · have hadded := hstarted.step (Event.addCallback (some 1)) trivial rfl
    have hsave := hadded.step (Event.setModeItem powerSaveMode) trivial rfl
    refine ⟨_, hsave, rfl, rfl, fun hagrees => ?_⟩
    exact absurd (hagrees.passed rfl 1 (by decide)) (by decide)

end PowerMgr.PowerMode.Announced
