import PowerMgr.Lib.Checked
import PowerMgr.Clients.ScreenOffPre
import PowerMgr.StateMachine.ScreenOffTime
import PowerMgr.StateMachine.Transit

/-!
# The delays of the two screen-off timers

An activity resets the timer that dims the screen, and dimming starts the timer that turns it off.
Both delays are computed with 64 bits from the time that was asked for, which has no upper bound,
and are handed to the task queue with 32 bits.

* `resetInactiveTimer`, `enterDim` — what sets the timers, with every 64-bit operation checked;
* `GoesOffAfter` — no operation overflows, and the two delays add up to the time asked for;
* `goesOffAfter_iff` — exactly when this is so.

The timers and the controllers exist, and the build has no screen decoupling.  Flags that other
threads read and the event that is published are not part of this model.
-/

namespace PowerMgr.StateMachine.ScreenOffDelay

open Lib
open Clients

def offTimeoutFactor : Int64 := 5

def maxDimTimeMs : Int64 := 7500

def coordinatedStateScreenOffTimeMs : Int64 := 10000

/-- `DEFAULT_ACTIVE_TIME_MS` and `defaultActiveTimeMs`. -/
def defaultActiveTimeMs : Int64 := 600000

def undefinedActiveTime : Int64 := -1

/-- The build and the parameters that `ParamCacher` reads. -/
structure Config where
  -- `POWER_MANAGER_ENABLE_LONG_TIME_DIM`
  longTimeDim : Bool
  neverSleepDimEnabled : Bool
  -- `const.power.active_time_before_long_time_dim`, a 32-bit parameter
  activeTimeParameter : Int32

def Config.activeTimeBeforeLongTimeDim (cfg : Config) : Int64 :=
  cfg.activeTimeParameter.toInt64

/-- The time for which screen-off was asked, the override of it, and the delays in microseconds
that the queue was given for the two timers that are set. -/
structure Machine where
  displayOffTime : Int64
  isScreenOffTimeOverride : Bool := false
  beforeOverrideTime : Int64 := -1
  awake : Bool := true
  userActivityTimeout : Option Nat := none
  userActivityOff : Option Nat := none
  deriving DecidableEq

/-- `FFRTUtils::SubmitDelayTask`: the delay in microseconds. -/
def submitDelayTask (delayMs : UInt32) : Nat :=
  1000 * delayMs.toNat

/-- `FFRTTimer::SetTimer` takes 32 bits without sign. -/
def setTimer (delayTime : Int64) : Nat :=
  submitDelayTask (Checked.narrow delayTime)

/-- `PowerStateMachine::GetDimTime`. -/
def getDimTime (cfg : Config) (displayOffTime : Int64) : Option Int64 := do
  let dimTime ← Checked.div displayOffTime offTimeoutFactor
  let maxActiveTime := cfg.activeTimeBeforeLongTimeDim
  if cfg.longTimeDim ∧ 0 < displayOffTime ∧ defaultActiveTimeMs ≤ maxActiveTime ∧ maxActiveTime < displayOffTime then
    let dimTime ← Checked.sub displayOffTime maxActiveTime
    some (Checked.clamp dimTime 0 displayOffTime)
  else
    some (Checked.clamp dimTime 0 maxDimTimeMs)

/-- `nextTimeOut` of `PowerStateMachine::ResetScreenOffPreTimeForSwing`. -/
def resetScreenOffPreTimeForSwing (cfg : Config) (now displayOffTime : Int64) : Option Int64 := do
  let nextOff ← Checked.add now displayOffTime
  let dimTime ← getDimTime cfg displayOffTime
  Checked.sub nextOff dimTime

namespace Machine

/-- `CancelDelayTimer` for both timers. -/
def cancelDelayTimers (m : Machine) : Machine :=
  { m with userActivityTimeout := none, userActivityOff := none }

/-- `PowerStateMachine::ResetInactiveTimer` at the tick count `now`. -/
def resetInactiveTimer (cfg : Config) (now : Int64) (m : Machine) : Option Machine :=
  let m := m.cancelDelayTimers
  if m.displayOffTime < 0 then
    let activeTime := cfg.activeTimeBeforeLongTimeDim
    let activeTime := if activeTime = undefinedActiveTime then defaultActiveTimeMs else activeTime
    if cfg.neverSleepDimEnabled then some { m with userActivityTimeout := some (setTimer activeTime) }
    else some m
  else do
    let _nextTimeOut ← resetScreenOffPreTimeForSwing cfg now m.displayOffTime
    let dimTime ← getDimTime cfg m.displayOffTime
    let delayTime ← Checked.sub m.displayOffTime dimTime
    some { m with userActivityTimeout := some (setTimer delayTime) }

/-- The action of the state DIM (`EmplaceDim`).  `displayed` says whether the display was dimmed,
`interrupted` whether the timer was reset meanwhile. -/
def enterDim (cfg : Config) (now : Int64) (displayed interrupted : Bool) (reason : StateChangeReason)
    (m : Machine) : Option (Machine × TransitResult) :=
  if ¬ cfg.neverSleepDimEnabled ∧ m.displayOffTime < 0 then some (m, .otherErr)
  else do
    let dimTime ← getDimTime cfg m.displayOffTime
    let dimTime := if reason = .coordination then coordinatedStateScreenOffTimeMs else dimTime
    let m := m.cancelDelayTimers
    let m := if m.displayOffTime < 0 then m else { m with userActivityOff := some (setTimer dimTime) }
    if interrupted then
      let m ← m.resetInactiveTimer cfg now
      some (m, .otherErr)
    else some (m, if displayed then .success else .otherErr)

/-- `PowerStateMachine::HandleActivityTimeout`, when nothing keeps the machine from entering DIM. -/
def handleActivityTimeout (cfg : Config) (now : Int64) (displayed interrupted : Bool) (m : Machine) :
    Option (Machine × TransitResult) :=
  m.enterDim cfg now displayed interrupted .timeout

/-- What is stored when screen-off is asked for after `timeout`: any number is taken. -/
def overridden (timeout : Int64) (m : Machine) : Machine :=
  if m.isScreenOffTimeOverride then { m with displayOffTime := timeout }
  else { m with isScreenOffTimeOverride := true, beforeOverrideTime := m.displayOffTime, displayOffTime := timeout }

/-- `PowerStateMachine::OverrideScreenOffTimeInner` with `SetDisplayOffTime`, which resets the timer
of a machine that is awake. -/
def overrideScreenOffTimeInner (cfg : Config) (now timeout : Int64) (m : Machine) : Option Machine :=
  let m := m.overridden timeout
  if m.awake then m.resetInactiveTimer cfg now else some m

/-- The same machine with unbounded integers. -/
def screenOffTime (m : Machine) : ScreenOffTime.Machine where
  displayOffTime := m.displayOffTime.toInt
  isScreenOffTimeOverride := m.isScreenOffTimeOverride
  beforeOverrideTime := m.beforeOverrideTime.toInt

end Machine

/-! ## The time of dimming -/

/-- The parameter of the model with unbounded integers. -/
def Config.maxActiveTime (cfg : Config) : Option Int :=
  if cfg.longTimeDim then some cfg.activeTimeParameter.toInt else none

/-- When the dimming starts after the active time of the parameter. -/
def LongTimeDim (cfg : Config) (timeout : Int64) : Prop :=
  cfg.longTimeDim ∧ 0 < timeout ∧ defaultActiveTimeMs ≤ cfg.activeTimeBeforeLongTimeDim ∧
    cfg.activeTimeBeforeLongTimeDim < timeout

instance (cfg : Config) (timeout : Int64) : Decidable (LongTimeDim cfg timeout) :=
  inferInstanceAs (Decidable (_ ∧ _))

section Dim

variable {cfg : Config} {timeout : Int64}

theorem longTimeDim_iff : LongTimeDim cfg timeout ↔
    cfg.longTimeDim ∧ 0 < timeout.toInt ∧ 600000 ≤ cfg.activeTimeParameter.toInt ∧
      cfg.activeTimeParameter.toInt < timeout.toInt := by
  have hdefault : defaultActiveTimeMs.toInt = 600000 := by decide
  simp [LongTimeDim, Config.activeTimeBeforeLongTimeDim, Int64.lt_iff_toInt_lt, Int64.le_iff_toInt_le, hdefault]

theorem dim_of_long (hlong : LongTimeDim cfg timeout) :
    ScreenOffPre.getDimTime cfg.maxActiveTime timeout.toInt = timeout.toInt - cfg.activeTimeParameter.toInt := by
  rw [longTimeDim_iff] at hlong
  obtain ⟨hbuild, hpos, hactive, hlong⟩ := hlong
  simp only [ScreenOffPre.getDimTime, Config.maxActiveTime, hbuild, if_true, ScreenOffPre.defaultActiveTimeMs,
    hpos, hactive, hlong, and_self]
  omega

theorem dim_of_not_long (hlong : ¬ LongTimeDim cfg timeout) :
    ScreenOffPre.getDimTime cfg.maxActiveTime timeout.toInt = max 0 (min (timeout.toInt.tdiv 5) 7500) := by
  rw [longTimeDim_iff] at hlong
  unfold ScreenOffPre.getDimTime Config.maxActiveTime
  cases hbuild : cfg.longTimeDim with
  | false => rfl
  | true =>
    simp only [hbuild, true_and] at hlong
    exact if_neg hlong

/-- No operation of `GetDimTime` overflows, whatever the time is. -/
theorem getDimTime_eq (cfg : Config) (timeout : Int64) :
    ∃ dimTime, getDimTime cfg timeout = some dimTime ∧
      dimTime.toInt = ScreenOffPre.getDimTime cfg.maxActiveTime timeout.toInt := by
  have hdiv : Checked.div timeout offTimeoutFactor = some (timeout / offTimeoutFactor) :=
    Checked.div_of_ne (by decide) (by decide)
  by_cases hlong : LongTimeDim cfg timeout
  · obtain ⟨-, hpos, hactive, hless⟩ := longTimeDim_iff.mp hlong
    have hmax := timeout.toInt_lt
    have hparameter : cfg.activeTimeBeforeLongTimeDim.toInt = cfg.activeTimeParameter.toInt := by
      simp [Config.activeTimeBeforeLongTimeDim]
    obtain ⟨rest, hrest, hvalue⟩ :
        ∃ c : Int64, Checked.sub timeout cfg.activeTimeBeforeLongTimeDim = some c ∧ c.toInt = _ :=
      Checked.ofExact_of_mem (by omega) (by omega)
    refine ⟨Checked.clamp rest 0 timeout, ?_, ?_⟩
    · unfold LongTimeDim at hlong
      simp only [getDimTime, hdiv, hrest, Option.bind_eq_bind, Option.bind_some, if_pos hlong]
    · have hnonneg : (0 : Int64) ≤ timeout := by
        rw [Int64.le_iff_toInt_le, Int64.toInt_zero]
        omega
      rw [dim_of_long hlong, Checked.toInt_clamp rest hnonneg, hvalue, hparameter, Int64.toInt_zero]
      omega
  · refine ⟨Checked.clamp (timeout / offTimeoutFactor) 0 maxDimTimeMs, ?_, ?_⟩
    · unfold LongTimeDim at hlong
      simp only [getDimTime, hdiv, Option.bind_eq_bind, Option.bind_some, if_neg hlong]
    · rw [dim_of_not_long hlong, Checked.toInt_clamp _ (by decide),
        Int64.toInt_div_of_ne_right _ _ (by decide)]
      rfl

/-- Dimming takes no longer than the whole time. -/
theorem dim_bounds (htimeout : 0 ≤ timeout.toInt) :
    0 ≤ ScreenOffPre.getDimTime cfg.maxActiveTime timeout.toInt ∧
      ScreenOffPre.getDimTime cfg.maxActiveTime timeout.toInt ≤ timeout.toInt := by
  by_cases hlong : LongTimeDim cfg timeout
  · obtain ⟨-, -, hactive, hless⟩ := longTimeDim_iff.mp hlong
    rw [dim_of_long hlong]
    omega
  · rw [dim_of_not_long hlong, Int.tdiv_eq_ediv_of_nonneg htimeout]
    omega

end Dim

/-! ## The two delays -/

/-- When the delays fit the timers: the tick at which the screen goes off is a 64-bit number, and
neither part of the time exceeds 32 bits. -/
def Fits (cfg : Config) (now timeout : Int64) : Prop :=
  now.toInt + timeout.toInt < 2 ^ 63 ∧
    if LongTimeDim cfg timeout then timeout.toInt - cfg.activeTimeParameter.toInt < 2 ^ 32
    else timeout.toInt < 2 ^ 32 + 7500

instance (cfg : Config) (now timeout : Int64) : Decidable (Fits cfg now timeout) :=
  inferInstanceAs (Decidable (_ ∧ _))

/-- No operation overflows, dimming is a part of the time, and the microseconds that the queue is
given for the two timers, one after the other, are those of the time. -/
structure GoesOffAfter (cfg : Config) (now : Int64) (m : Machine) : Prop where
  dim : ∃ dimTime, getDimTime cfg m.displayOffTime = some dimTime ∧ 0 ≤ dimTime ∧ dimTime ≤ m.displayOffTime
  swing : (resetScreenOffPreTimeForSwing cfg now m.displayOffTime).isSome
  delays : ∃ reset timeoutDelay, m.resetInactiveTimer cfg now = some reset ∧
    reset.userActivityTimeout = some timeoutDelay ∧
    ∀ later displayed, ∃ dimmed result offDelay,
      reset.handleActivityTimeout cfg later displayed false = some (dimmed, result) ∧
      dimmed.userActivityOff = some offDelay ∧ (timeoutDelay + offDelay : Int) = 1000 * m.displayOffTime.toInt

section Delays

variable {cfg : Config} {now timeout : Int64} {m : Machine}

theorem setTimer_eq (delayTime : Int64) : (setTimer delayTime : Int) = 1000 * (delayTime.toInt % 2 ^ 32) := by
  rw [← Checked.narrow_toNat]
  simp [setTimer, submitDelayTask]

/-- The residues of the two parts add up to the time exactly when both parts fit. -/
theorem residues_add (htimeout : 0 ≤ timeout.toInt) (hsum : now.toInt + timeout.toInt < 2 ^ 63) :
    let dimTime := ScreenOffPre.getDimTime cfg.maxActiveTime timeout.toInt
    (timeout.toInt - dimTime) % 2 ^ 32 + dimTime % 2 ^ 32 = timeout.toInt ↔ Fits cfg now timeout := by
  intro dimTime
  unfold Fits
  by_cases hlong : LongTimeDim cfg timeout
  · obtain ⟨-, -, hactive, hless⟩ := longTimeDim_iff.mp hlong
    have hbound := cfg.activeTimeParameter.toInt_lt
    have hdim : dimTime = _ := dim_of_long hlong
    rw [if_pos hlong]
    omega
  · have hdim : dimTime = _ := dim_of_not_long hlong
    rw [Int.tdiv_eq_ediv_of_nonneg htimeout] at hdim
    rw [if_neg hlong]
    omega

/-- The only operation that can overflow is the sum of the tick count and the time. -/
theorem swing_isSome (htimeout : 0 ≤ timeout.toInt) :
    (resetScreenOffPreTimeForSwing cfg now timeout).isSome ↔ now.toInt + timeout.toInt < 2 ^ 63 := by
  obtain ⟨dimTime, hdim, hvalue⟩ := getDimTime_eq cfg timeout
  have hbounds : 0 ≤ ScreenOffPre.getDimTime cfg.maxActiveTime timeout.toInt ∧ _ := dim_bounds htimeout
  have hnow := now.le_toInt
  constructor
  · intro hswing
    obtain ⟨nextTimeOut, hswing⟩ := Option.isSome_iff_exists.mp hswing
    simp only [resetScreenOffPreTimeForSwing, Option.bind_eq_bind, Option.bind_eq_some_iff] at hswing
    obtain ⟨nextOff, hsum, -⟩ := hswing
    rw [← Checked.add_eq_some.mp hsum]
    exact nextOff.toInt_lt
  · intro hsum
    obtain ⟨nextOff, hnextOff, hnextOffValue⟩ : ∃ c : Int64, Checked.add now timeout = some c ∧ c.toInt = _ :=
      Checked.ofExact_of_mem (by omega) hsum
    obtain ⟨nextTimeOut, hnextTimeOut, -⟩ : ∃ c : Int64, Checked.sub nextOff dimTime = some c ∧ c.toInt = _ :=
      Checked.ofExact_of_mem (by omega) (by omega)
    simp [resetScreenOffPreTimeForSwing, hnextOff, hdim, hnextTimeOut]

variable (cfg) in
/-- What is set, if nothing overflows: the timer to dim after the time less the dimming, and in DIM
the timer to turn off after the dimming. -/
theorem delays_eq (htimeout : 0 ≤ m.displayOffTime) (hsum : now.toInt + m.displayOffTime.toInt < 2 ^ 63) :
    ∃ delayTime dimTime reset,
      delayTime.toInt = m.displayOffTime.toInt - ScreenOffPre.getDimTime cfg.maxActiveTime m.displayOffTime.toInt ∧
      dimTime.toInt = ScreenOffPre.getDimTime cfg.maxActiveTime m.displayOffTime.toInt ∧
      m.resetInactiveTimer cfg now = some reset ∧ reset.userActivityTimeout = some (setTimer delayTime) ∧
      ∀ later displayed, ∃ dimmed result,
        reset.handleActivityTimeout cfg later displayed false = some (dimmed, result) ∧
        dimmed.userActivityOff = some (setTimer dimTime) := by
  have hnonneg : 0 ≤ m.displayOffTime.toInt := by simpa [Int64.le_iff_toInt_le] using htimeout
  have hsign : ¬ m.displayOffTime < 0 := by simpa [Int64.lt_iff_toInt_lt] using hnonneg
  have hsome : (resetScreenOffPreTimeForSwing cfg now m.displayOffTime).isSome := (swing_isSome hnonneg).mpr hsum
  obtain ⟨nextTimeOut, hswing⟩ := Option.isSome_iff_exists.mp hsome
  obtain ⟨dimTime, hdim, hvalue⟩ := getDimTime_eq cfg m.displayOffTime
  have hbounds : 0 ≤ ScreenOffPre.getDimTime cfg.maxActiveTime m.displayOffTime.toInt ∧ _ := dim_bounds hnonneg
  have hmax := m.displayOffTime.toInt_lt
  obtain ⟨delayTime, hdelay, hdelayValue⟩ :
      ∃ c : Int64, Checked.sub m.displayOffTime dimTime = some c ∧ c.toInt = _ :=
    Checked.ofExact_of_mem (by omega) (by omega)
  refine ⟨delayTime, dimTime, { m.cancelDelayTimers with userActivityTimeout := some (setTimer delayTime) },
    by rw [hdelayValue, hvalue], hvalue, ?_, rfl, fun later displayed => ?_⟩
  · simp [Machine.resetInactiveTimer, Machine.cancelDelayTimers, hsign, hswing, hdim, hdelay]
  · refine ⟨{ m.cancelDelayTimers with userActivityOff := some (setTimer dimTime) },
      if displayed then .success else .otherErr, ?_, rfl⟩
    simp [Machine.handleActivityTimeout, Machine.enterDim, Machine.cancelDelayTimers, hsign, hdim]

theorem goesOffAfter_machine_iff (htimeout : 0 ≤ m.displayOffTime) :
    GoesOffAfter cfg now m ↔ Fits cfg now m.displayOffTime := by
  have hnonneg : 0 ≤ m.displayOffTime.toInt := by simpa [Int64.le_iff_toInt_le] using htimeout
  constructor
  · intro h
    have hsum := (swing_isSome hnonneg).mp h.swing
    apply (residues_add hnonneg hsum).mp
    obtain ⟨delayTime, dimTime, reset, hdelayTime, hdimTime, hreset, htimer, hdimmed⟩ :=
      delays_eq cfg htimeout hsum
    obtain ⟨reset', timeoutDelay, hreset', htimer', hdelays⟩ := h.delays
    rw [hreset, Option.some.injEq] at hreset'
    subst hreset'
    obtain ⟨dimmed, result, hdim, hoff⟩ := hdimmed 0 true
    obtain ⟨dimmed', result', offDelay, hdim', hoff', htotal⟩ := hdelays 0 true
    rw [hdim, Option.some.injEq, Prod.mk.injEq] at hdim'
    rw [← hdim'.1, hoff, Option.some.injEq] at hoff'
    rw [htimer, Option.some.injEq] at htimer'
    rw [← htimer', ← hoff', setTimer_eq, setTimer_eq, hdelayTime, hdimTime] at htotal
    omega
  · intro h
    have hresidues := (residues_add hnonneg h.1).mpr h
    obtain ⟨dimTime, hdim, hvalue⟩ := getDimTime_eq cfg m.displayOffTime
    have hbounds : 0 ≤ ScreenOffPre.getDimTime cfg.maxActiveTime m.displayOffTime.toInt ∧ _ := dim_bounds hnonneg
    rw [← hvalue] at hbounds
    refine ⟨⟨dimTime, hdim, ?_, ?_⟩, (swing_isSome hnonneg).mpr h.1, ?_⟩
    · simpa [Int64.le_iff_toInt_le] using hbounds.1
    · rw [Int64.le_iff_toInt_le]
      exact hbounds.2
    · obtain ⟨delayTime, dimTime, reset, hdelayTime, hdimTime, hreset, htimer, hdimmed⟩ := delays_eq cfg htimeout h.1
      refine ⟨reset, setTimer delayTime, hreset, htimer, fun later displayed => ?_⟩
      obtain ⟨dimmed, result, hdim, hoff⟩ := hdimmed later displayed
      refine ⟨dimmed, result, setTimer dimTime, hdim, hoff, ?_⟩
      rw [setTimer_eq, setTimer_eq, hdelayTime, hdimTime]
      omega

end Delays

/-! ## Overriding the time -/

section Override

variable {cfg : Config} {now : Int64} {m m' : Machine}

theorem resetInactiveTimer_screenOffTime (h : m.resetInactiveTimer cfg now = some m') :
    m'.screenOffTime = m.screenOffTime := by
  by_cases hsign : m.displayOffTime < 0
  · cases henabled : cfg.neverSleepDimEnabled with
    | false =>
      simp only [Machine.resetInactiveTimer, hsign, henabled, Machine.cancelDelayTimers, if_true,
        Bool.false_eq_true, if_false, Option.some.injEq] at h
      subst h
      rfl
    | true =>
      simp only [Machine.resetInactiveTimer, hsign, henabled, Machine.cancelDelayTimers, if_true,
        Option.some.injEq] at h
      subst h
      rfl
  · simp only [Machine.resetInactiveTimer, Machine.cancelDelayTimers, hsign, if_false, Option.bind_eq_bind,
      Option.bind_eq_some_iff, Option.some.injEq] at h
    obtain ⟨_, -, _, -, _, -, rfl⟩ := h
    rfl

/-- What the override stores is what the model with unbounded integers stores. -/
theorem overridden_screenOffTime (timeout : Int64) (m : Machine) :
    (m.overridden timeout).screenOffTime = (m.screenOffTime.overrideScreenOffTimeInner timeout.toInt).1 := by
  cases m with
  | mk displayOffTime isOverride before awake timeoutTimer offTimer => cases isOverride <;> rfl

theorem overrideScreenOffTimeInner_screenOffTime {timeout : Int64}
    (h : m.overrideScreenOffTimeInner cfg now timeout = some m') :
    m'.screenOffTime = (m.screenOffTime.overrideScreenOffTimeInner timeout.toInt).1 := by
  rw [← overridden_screenOffTime]
  simp only [Machine.overrideScreenOffTimeInner] at h
  split at h
  · exact resetInactiveTimer_screenOffTime h
  · simp only [Option.some.injEq] at h
    rw [← h]

@[simp] theorem overridden_displayOffTime (timeout : Int64) (m : Machine) :
    (m.overridden timeout).displayOffTime = timeout := by
  unfold Machine.overridden
  split <;> rfl

end Override

/-- After an override the screen goes off after exactly the time asked for when the delays fit, and
not otherwise. -/
theorem goesOffAfter_iff (cfg : Config) (now timeout : Int64) (m : Machine) (htimeout : 0 ≤ timeout) :
    GoesOffAfter cfg now (m.overridden timeout) ↔ Fits cfg now timeout := by
  have hstored : 0 ≤ (m.overridden timeout).displayOffTime := by
    rw [overridden_displayOffTime]
    exact htimeout
  rw [goesOffAfter_machine_iff hstored, overridden_displayOffTime]

/-- The default build, and a build whose dimming starts after ten minutes. -/
def plain : Config where
  longTimeDim := false
  neverSleepDimEnabled := false
  activeTimeParameter := -1

theorem goesOffAfter_halfMinute :
    (0 : Int64) ≤ 30000 ∧ (GoesOffAfter plain 5000 (({ displayOffTime := 600000 } : Machine).overridden 30000) ↔
      Fits plain 5000 30000) ∧ Fits plain 5000 30000 :=
  ⟨by decide, goesOffAfter_iff plain 5000 30000 _ (by decide), by decide⟩

/-- One millisecond too many for 32 bits, and the screen dims at once; the greatest number is not
even added to the tick count. -/
theorem goesOffAfter_fails :
    ((({ displayOffTime := 30000 } : Machine).overridden 4294974796).resetInactiveTimer plain 5000).bind
        Machine.userActivityTimeout = some 0 ∧
      ¬ GoesOffAfter plain 5000 (({ displayOffTime := 30000 } : Machine).overridden 4294974796) ∧
    (({ displayOffTime := 30000 } : Machine).overridden Int64.maxValue).resetInactiveTimer plain 5000 = none ∧
      ¬ GoesOffAfter plain 5000 (({ displayOffTime := 30000 } : Machine).overridden Int64.maxValue) := by
  refine ⟨by decide, ?_, by decide, ?_⟩
  · rw [goesOffAfter_machine_iff (by decide)]
    decide
  · rw [goesOffAfter_machine_iff (by decide)]
    decide

end PowerMgr.StateMachine.ScreenOffDelay
