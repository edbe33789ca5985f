import Mathlib.Logic.Basic
import PowerMgr.Lib.System

/-! # Overriding the screen-off time

`OverrideScreenOffTimeInner` keeps the time it replaces in a global, `RestoreScreenOffTimeInner` puts
it back, and the observer of the setting writes to the same global when the user changes the setting
in between.  The observer returns early when the new setting is the time in effect, which during an
override is the overriding time.

* `overrideScreenOffTimeInner`, `restoreScreenOffTimeInner`, `displayOffTimeUpdateFunc` — the
  functions of `power_state_machine.cpp` in the build without charging-type settings.
* `History` — which setting was accepted last, and whether the observer passed it over.
* `screenOffTime_restored` — restoring brings back the setting that was accepted last.
-/

namespace PowerMgr.StateMachine.ScreenOffTime

/-- `displayOffTime_`, `isScreenOffTimeOverride_` and `g_beforeOverrideTime`. -/
structure Machine where
  displayOffTime : Int
  isScreenOffTimeOverride : Bool := false
  beforeOverrideTime : Int := -1
  deriving DecidableEq, Repr

def minDisplayOffTimeMs : Int := 1000

/-- `SettingHelper::GetSettingDisplayOffTime`; a stored text that is no number reads as the default.
`neverSleep` is `const.settings.screen_never_sleep` in builds that can disable the auto display-off. -/
def getSettingDisplayOffTime (neverSleep : Bool) (stored : Option Int) (defaultVal : Int) : Int :=
  let value := stored.getD defaultVal
  if neverSleep && value < 0 then value
  else if value ≤ minDisplayOffTimeMs then defaultVal
  else value

namespace Machine

/-- `PowerStateMachine::SetDisplayOffTime` without the update of the setting. -/
def setDisplayOffTime (time : Int) (m : Machine) : Machine :=
  { m with displayOffTime := time }

/-- `PowerStateMachine::OverrideScreenOffTimeInner`. -/
def overrideScreenOffTimeInner (timeout : Int) (m : Machine) : Machine × Bool :=
  let m :=
    if !m.isScreenOffTimeOverride then
      { m with isScreenOffTimeOverride := true, beforeOverrideTime := m.displayOffTime }
    else m
  (m.setDisplayOffTime timeout, true)

/-- `PowerStateMachine::RestoreScreenOffTimeInner`. -/
def restoreScreenOffTimeInner (m : Machine) : Machine × Bool :=
  if !m.isScreenOffTimeOverride then (m, false)
  else ({ m.setDisplayOffTime m.beforeOverrideTime with isScreenOffTimeOverride := false }, true)

/-- `PowerStateMachine::DisplayOffTimeUpdateFunc`. -/
def displayOffTimeUpdateFunc (neverSleep : Bool) (stored : Option Int) (m : Machine) : Machine :=
  let settingTime := getSettingDisplayOffTime neverSleep stored m.displayOffTime
  -- "already worked": the override that may be in effect is not told apart from the setting
  if settingTime = m.displayOffTime then m
  else { m with beforeOverrideTime := settingTime }.setDisplayOffTime settingTime

end Machine

/-! ## Runs -/

/-- The values that `getSettingDisplayOffTime` does not replace by the default. -/
def Accepts (neverSleep : Bool) (value : Int) : Prop :=
  minDisplayOffTimeMs < value ∨ neverSleep = true ∧ value < 0

instance (neverSleep : Bool) (value : Int) : Decidable (Accepts neverSleep value) :=
  inferInstanceAs (Decidable (_ ∨ _))

/-- What has happened: the setting that was accepted last, whether it was set during an override to
the overriding time while another time was to be restored, and the last overriding time as long as
the setting has not been changed since. -/
structure History where
  setting : Int
  passedOver : Bool := false
  overriding : Option Int := none
  deriving DecidableEq, Repr

structure State where
  machine : Machine
  history : History
  deriving DecidableEq, Repr

inductive Event where
  | overrideScreenOffTime (timeout : Int)
  | restoreScreenOffTime
  | changeSetting (stored : Option Int)
  deriving DecidableEq, Repr

def History.changeSetting (neverSleep : Bool) (stored : Option Int) (m : Machine) (history : History) : History :=
  match stored with
  | none => { history with overriding := none }
  | some value =>
    if Accepts neverSleep value then
      { setting := value
        passedOver := m.isScreenOffTimeOverride && value = m.displayOffTime && value ≠ m.beforeOverrideTime
        overriding := none }
    else { history with overriding := none }

/-- One call of the service, or a change of the setting with the call of its observer. -/
def next (neverSleep : Bool) (s : State) : Event → Option State
  | .overrideScreenOffTime timeout => some {
      machine := (s.machine.overrideScreenOffTimeInner timeout).1
      history := { s.history with overriding := some timeout } }
  | .restoreScreenOffTime => some {
      machine := s.machine.restoreScreenOffTimeInner.1
      history := { s.history with overriding := none } }
  | .changeSetting stored => some {
      machine := s.machine.displayOffTimeUpdateFunc neverSleep stored
      history := s.history.changeSetting neverSleep stored s.machine }

/-- The service from a state in which the stored setting is in effect. -/
def system (neverSleep : Bool) : Lib.System State Event where
  init s := ∃ setting, s = { machine := { displayOffTime := setting }, history := { setting := setting } }
  next := next neverSleep

/-! ## What is restored -/

/-- The time that ending the override, if there is one, leaves in effect. -/
def Machine.underlyingTime (m : Machine) : Int :=
  if m.isScreenOffTimeOverride then m.beforeOverrideTime else m.displayOffTime

/-- The time under the override is the setting exactly when the setting was not passed over. -/
structure Inv (s : State) : Prop where
  underlying : s.machine.underlyingTime = s.history.setting ↔ s.history.passedOver = false
  overriding : ∀ timeout, s.history.overriding = some timeout → s.machine.displayOffTime = timeout

variable {neverSleep : Bool} {s s' : State}

theorem getSettingDisplayOffTime_of_accepts {value : Int} (h : Accepts neverSleep value) (defaultVal : Int) :
    getSettingDisplayOffTime neverSleep (some value) defaultVal = value := by
  simp only [getSettingDisplayOffTime, Option.getD_some]
  cases h with
  | inl hlong =>
    have hpositive : ¬value < 0 := by
      simp only [minDisplayOffTimeMs] at hlong
      omega
    simp [hpositive, Int.not_le.mpr hlong]
  | inr hnever => simp [hnever.1, hnever.2]

theorem getSettingDisplayOffTime_of_rejects {value : Int} (h : ¬Accepts neverSleep value) (defaultVal : Int) :
    getSettingDisplayOffTime neverSleep (some value) defaultVal = defaultVal := by
  simp only [Accepts, not_or, not_and] at h
  simp only [getSettingDisplayOffTime, Option.getD_some]
  have hawake : ¬((neverSleep && decide (value < 0)) = true) := by
    intro hnever
    simp only [Bool.and_eq_true, decide_eq_true_eq] at hnever
    exact h.2 hnever.1 hnever.2
  rw [if_neg hawake, if_pos (Int.not_lt.mp h.1)]

theorem getSettingDisplayOffTime_none (defaultVal : Int) :
    getSettingDisplayOffTime neverSleep none defaultVal = defaultVal := by
  simp only [getSettingDisplayOffTime, Option.getD_none]
  repeat' split
  all_goals rfl

theorem displayOffTimeUpdateFunc_of_default {stored : Option Int} {m : Machine}
    (h : getSettingDisplayOffTime neverSleep stored m.displayOffTime = m.displayOffTime) :
    m.displayOffTimeUpdateFunc neverSleep stored = m := by
  simp only [Machine.displayOffTimeUpdateFunc, h, if_true]

theorem underlyingTime_override (timeout : Int) (m : Machine) :
    (m.overrideScreenOffTimeInner timeout).1.underlyingTime = m.underlyingTime := by
  cases hoverride : m.isScreenOffTimeOverride <;>
    simp [Machine.overrideScreenOffTimeInner, Machine.setDisplayOffTime, Machine.underlyingTime, hoverride]

theorem underlyingTime_restore (m : Machine) : m.restoreScreenOffTimeInner.1.underlyingTime = m.underlyingTime := by
  cases hoverride : m.isScreenOffTimeOverride <;>
    simp [Machine.restoreScreenOffTimeInner, Machine.setDisplayOffTime, Machine.underlyingTime, hoverride]

/-- An accepted setting becomes the underlying time, except when it is the overriding time. -/
theorem underlyingTime_update {value : Int} (h : Accepts neverSleep value) (m : Machine) :
    (m.displayOffTimeUpdateFunc neverSleep (some value)).underlyingTime = value ↔
      (m.isScreenOffTimeOverride && value = m.displayOffTime && value ≠ m.beforeOverrideTime) = false := by
  simp only [Machine.displayOffTimeUpdateFunc, getSettingDisplayOffTime_of_accepts h]
  by_cases hsame : value = m.displayOffTime
  -- the function returns at once, which is harmless only if the time is not an overriding one
  · rw [if_pos hsame]
    cases hoverride : m.isScreenOffTimeOverride with
    | false => simp [Machine.underlyingTime, hoverride, hsame]
    | true =>
      simp only [Machine.underlyingTime, hoverride, if_true, hsame, decide_true, Bool.and_self, Bool.true_and,
        decide_eq_false_iff_not, ne_eq, not_not]
      exact eq_comm
  -- it goes to the time that is put back or to the time in effect
  · rw [if_neg hsame]
    simp only [Machine.setDisplayOffTime, Machine.underlyingTime, hsame, decide_false, Bool.and_false, Bool.false_and,
      iff_true]
    exact ite_self value

theorem inv_changeSetting (stored : Option Int) (h : Inv s) :
    Inv { machine := s.machine.displayOffTimeUpdateFunc neverSleep stored
          history := s.history.changeSetting neverSleep stored s.machine } := by
  cases stored with
  | none =>
    rw [displayOffTimeUpdateFunc_of_default (getSettingDisplayOffTime_none _)]
    exact ⟨h.underlying, fun timeout hnone => by cases hnone⟩
  | some value =>
    by_cases haccepts : Accepts neverSleep value
    · refine ⟨?_, fun timeout hnone => ?_⟩
      · simp only [History.changeSetting, if_pos haccepts]
        exact underlyingTime_update haccepts s.machine
      · simp only [History.changeSetting, if_pos haccepts] at hnone
        cases hnone
    · rw [displayOffTimeUpdateFunc_of_default (getSettingDisplayOffTime_of_rejects haccepts _)]
      simp only [History.changeSetting, if_neg haccepts]
      exact ⟨h.underlying, fun timeout hnone => by cases hnone⟩

theorem inv_next {e : Event} (h : Inv s) (hnext : next neverSleep s e = some s') : Inv s' := by
  cases e with
  | overrideScreenOffTime timeout =>
    cases hnext
    refine ⟨?_, fun timeout' hlast => ?_⟩
    · rw [underlyingTime_override]
      exact h.underlying
    · cases hlast
      rfl
  | restoreScreenOffTime =>
    cases hnext
    refine ⟨?_, fun timeout hnone => by cases hnone⟩
    rw [underlyingTime_restore]
    exact h.underlying
  | changeSetting stored =>
    cases hnext
    exact inv_changeSetting stored h

theorem inv_of_reach (hreach : (system neverSleep).Reachable s) : Inv s := by
  refine hreach.invariant (fun s hinit => ?_) fun s s' e h _ hnext => ?_
  · obtain ⟨setting, rfl⟩ := hinit
    exact ⟨by simp [Machine.underlyingTime], fun timeout hnone => by cases hnone⟩
  · have hstep : next neverSleep s e = some s' := hnext
    exact inv_next h hstep

/-- Restoring the time puts the setting into effect exactly when the setting was not passed over. -/
theorem restored_iff (hreach : (system neverSleep).Reachable s)
    (hreturned : s.machine.restoreScreenOffTimeInner.2 = true) :
    s.machine.restoreScreenOffTimeInner.1.displayOffTime = s.history.setting ↔ s.history.passedOver = false := by
  rw [← (inv_of_reach hreach).underlying]
  cases hoverride : s.machine.isScreenOffTimeOverride with
  | false => simp [Machine.restoreScreenOffTimeInner, hoverride] at hreturned
  | true => simp [Machine.restoreScreenOffTimeInner, Machine.setDisplayOffTime, Machine.underlyingTime, hoverride]

/-- In every run a restore that returns `true` puts the setting that was accepted last into effect,
unless it was passed over; and a time that overrides is in effect until the setting is changed. -/
theorem screenOffTime_restored (hreach : (system neverSleep).Reachable s) :
    (s.machine.restoreScreenOffTimeInner.2 = true → s.history.passedOver = false →
      s.machine.restoreScreenOffTimeInner.1.displayOffTime = s.history.setting) ∧
    ∀ timeout, s.history.overriding = some timeout → s.machine.displayOffTime = timeout :=
  ⟨fun hreturned hheeded => (restored_iff hreach hreturned).mpr hheeded, (inv_of_reach hreach).overriding⟩

/-! ## A window that overrides the time -/

def halfMinute : State := { machine := { displayOffTime := 30000 }, history := { setting := 30000 } }

/-- A window overrides the time twice, and the user sets another one in between. -/
def windowShown : List Event :=
  [.overrideScreenOffTime 10000, .changeSetting (some 60000), .overrideScreenOffTime 15000]

theorem screenOffTime_restored_windowShown :
    ∃ s, (system false).run halfMinute windowShown = some s ∧ s.machine.displayOffTime = 15000 ∧
      s.machine.restoreScreenOffTimeInner.1.displayOffTime = 60000 := by
  have hreach : (system false).Reachable _ :=
    Lib.System.reachable_of_run windowShown (.init ⟨30000, rfl⟩)
      (rfl : (system false).run halfMinute windowShown = some _)
  obtain ⟨hrestored, hoverriding⟩ := screenOffTime_restored hreach
  exact ⟨_, rfl, hoverriding 15000 rfl, hrestored rfl rfl⟩

/-- While 10 seconds override half a minute the user changes the setting to 10 seconds: restoring
brings half a minute back.  And a setting of half a second is not taken over at all. -/
theorem setting_not_restored :
    (¬∀ s, (system false).Reachable s → ∀ value, ∀ after, next false s (.changeSetting (some value)) = some after →
      minDisplayOffTimeMs < value → after.machine.restoreScreenOffTimeInner.2 = true →
        after.machine.restoreScreenOffTimeInner.1.displayOffTime = value) ∧
    ¬∀ s, (system false).Reachable s → ∀ value, ∀ after, next false s (.changeSetting (some value)) = some after →
      value ≤ minDisplayOffTimeMs → after.machine.restoreScreenOffTimeInner.2 = true →
        after.machine.restoreScreenOffTimeInner.1.displayOffTime = value := by
  have hoverridden : (system false).Reachable _ :=
    Lib.System.reachable_of_run [.overrideScreenOffTime 10000] (.init ⟨30000, rfl⟩)
      (rfl : (system false).run halfMinute [.overrideScreenOffTime 10000] = some _)
  refine ⟨fun hrestored => ?_, fun hrestored => ?_⟩
  · have htime := hrestored _ hoverridden 10000 _ rfl (by decide) rfl
    exact absurd htime (by decide)
  · have htime := hrestored _ hoverridden 500 _ rfl (by decide) rfl
    exact absurd htime (by decide)

end PowerMgr.StateMachine.ScreenOffTime
