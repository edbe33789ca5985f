import PowerMgr.RunningLock.Basic

/-! # The counters when every HDI action succeeds

`Increase` and `Decrease` fall back to the old count when the action of the counter fails.
When all actions succeed they are functions of the counters and activations alone, which
this module calls a `Tally`:

* `increase_tally`, `decrease_tally` — the counters of the model follow the tally;
* `Tally.Counts` — the tally agrees with given numbers of enabled locks;
* `counts_up`, `counts_down` — one lock more, or one less, keeps the agreement.
-/

namespace PowerMgr.RunningLock

/-- The counters and what their actions have switched on. -/
structure Tally where
  counters : RunningLockType → UInt32
  activated : RunningLockType → Bool

def RunningLockMgr.tally (m : RunningLockMgr) : Tally where
  counters := m.lockCounters
  activated := m.activated

namespace Tally

def setCounter (type : RunningLockType) (value : UInt32) (tally : Tally) : Tally :=
  { tally with counters := Function.update tally.counters type value }

def setActivated (type : RunningLockType) (active : Bool) (tally : Tally) : Tally :=
  { tally with activated := Function.update tally.activated type active }

/-- `Increase` with a successful action; `onFirst` is what that action does to the tally. -/
def increaseWith (onFirst : Tally → Tally) (type : RunningLockType) (tally : Tally) : Tally :=
  let tally := tally.setCounter type (tally.counters type + 1)
  if tally.counters type = 1 then (onFirst tally).setActivated type true else tally

/-- `Decrease` with a successful action. -/
def decreaseWith (onLast : Tally → Tally) (type : RunningLockType) (tally : Tally) : Tally :=
  let tally := tally.setCounter type (tally.counters type - 1)
  if tally.counters type = 0 then (onLast tally).setActivated type false else tally

/-- The types whose activation is passed on to the background-task counter. -/
def passesOn : RunningLockType → Bool
  | .backgroundUserIdle | .coordination => true
  | _ => false

def up (type : RunningLockType) : Tally → Tally :=
  increaseWith (if passesOn type then increaseWith id .backgroundTask else id) type

def down (type : RunningLockType) : Tally → Tally :=
  decreaseWith (if passesOn type then decreaseWith id .backgroundTask else id) type

end Tally

/-! ## The model follows the tally -/

section Follows

variable {action : Activate} {effect : Tally → Tally} (type : RunningLockType) (param : RunningLockParam)
  (m : RunningLockMgr)

theorem increaseWith_tally
    (haction : ∀ param m, (action true param m).2 = true ∧ (action true param m).1.tally = effect m.tally) :
    (increaseWith action type param m).2 = true ∧
      (increaseWith action type param m).1.tally = m.tally.increaseWith effect type := by
  have hbumped : (m.setCounter type (m.lockCounters type + 1)).tally =
      m.tally.setCounter type (m.tally.counters type + 1) := by
    simp [RunningLockMgr.tally, Tally.setCounter]
  obtain ⟨hsuccess, htally⟩ := haction param (m.setCounter type (m.lockCounters type + 1))
  simp only [increaseWith, Tally.increaseWith, ← hbumped]
  change _ ∧ _ = if (m.setCounter type (m.lockCounters type + 1)).lockCounters type = 1 then _ else _
  split
  · rw [← htally]
    exact ⟨rfl, by simp [RunningLockMgr.tally, Tally.setActivated]⟩
  · exact ⟨rfl, rfl⟩

theorem decreaseWith_tally
    (haction : ∀ param m, (action false param m).2 = true ∧ (action false param m).1.tally = effect m.tally) :
    (decreaseWith action type param m).2 = true ∧
      (decreaseWith action type param m).1.tally = m.tally.decreaseWith effect type := by
  have hbumped : (m.setCounter type (m.lockCounters type - 1)).tally =
      m.tally.setCounter type (m.tally.counters type - 1) := by
    simp [RunningLockMgr.tally, Tally.setCounter]
  obtain ⟨hsuccess, htally⟩ := haction param (m.setCounter type (m.lockCounters type - 1))
  simp only [decreaseWith, Tally.decreaseWith, ← hbumped]
  change _ ∧ _ = if (m.setCounter type (m.lockCounters type - 1)).lockCounters type = 0 then _ else _
  split
  · rw [← htally]
    exact ⟨rfl, by simp [RunningLockMgr.tally, Tally.setActivated]⟩
  · exact ⟨rfl, rfl⟩

end Follows

section Success

variable {env : Env} (hdi : env.HdiSucceeds)

include hdi

theorem activateBackground_tally (active : Bool) (param : RunningLockParam) (m : RunningLockMgr) :
    (activateBackground env active param m).2 = true ∧ (activateBackground env active param m).1.tally = id m.tally :=
  ⟨hdi m active param, rfl⟩

theorem activate_true_tally (type : RunningLockType) (param : RunningLockParam) (m : RunningLockMgr) :
    (activate env type true param m).2 = true ∧ (activate env type true param m).1.tally =
      (if Tally.passesOn type then Tally.increaseWith id .backgroundTask else id) m.tally := by
  have hbackground := fun param m => activateBackground_tally hdi true param m
  cases type with
  | backgroundUserIdle => exact increaseWith_tally .backgroundTask _ m hbackground
  | coordination => exact increaseWith_tally .backgroundTask _ m hbackground
  | screen => exact ⟨rfl, rfl⟩
  | proximityScreenControl => exact ⟨rfl, rfl⟩
  | _ => exact hbackground param m

theorem activate_false_tally (type : RunningLockType) (param : RunningLockParam) (m : RunningLockMgr) :
    (activate env type false param m).2 = true ∧ (activate env type false param m).1.tally =
      (if Tally.passesOn type then Tally.decreaseWith id .backgroundTask else id) m.tally := by
  have hbackground := fun param m => activateBackground_tally hdi false param m
  cases type with
  | backgroundUserIdle => exact decreaseWith_tally .backgroundTask _ m hbackground
  | coordination => exact decreaseWith_tally .backgroundTask _ { m with coordinated := false } hbackground
  | screen => exact ⟨rfl, rfl⟩
  | proximityScreenControl => exact ⟨rfl, rfl⟩
  | _ => exact hbackground param m

theorem increase_tally (type : RunningLockType) (param : RunningLockParam) (m : RunningLockMgr) :
    (increase env type param m).2 = true ∧ (increase env type param m).1.tally = m.tally.up type :=
  increaseWith_tally type param m fun param m => activate_true_tally hdi type param m

theorem decrease_tally (type : RunningLockType) (param : RunningLockParam) (m : RunningLockMgr) :
    (decrease env type param m).2 = true ∧ (decrease env type param m).1.tally = m.tally.down type :=
  decreaseWith_tally type param m fun param m => activate_false_tally hdi type param m

end Success

/-! ## Agreement with the number of enabled locks -/

theorem toNat_succ {value : UInt32} (h : value.toNat + 1 < 2 ^ 32) : (value + 1).toNat = value.toNat + 1 := by
  rw [UInt32.toNat_add]
  exact Nat.mod_eq_of_lt h

theorem toNat_pred {value : UInt32} (h : 0 < value.toNat) : (value - 1).toNat = value.toNat - 1 :=
  UInt32.toNat_sub_of_le value 1 (UInt32.le_iff_toNat_le.mpr h)

theorem succ_eq_one_iff {value : UInt32} (h : value.toNat + 1 < 2 ^ 32) : value + 1 = 1 ↔ value.toNat = 0 := by
  rw [← UInt32.toNat_inj, toNat_succ h]
  change value.toNat + 1 = 1 ↔ _
  omega

theorem pred_eq_zero_iff {value : UInt32} (h : 0 < value.toNat) : value - 1 = 0 ↔ value.toNat = 1 := by
  rw [← UInt32.toNat_inj, toNat_pred h]
  change value.toNat - 1 = 0 ↔ _
  omega

namespace Tally

/-- `1` while the counter of a type is positive. -/
def holding (tally : Tally) (type : RunningLockType) : Nat :=
  if 0 < (tally.counters type).toNat then 1 else 0

/-- For the types in `S` the action of the counter is on exactly while the counter is positive. -/
def ActiveOn (S : RunningLockType → Prop) (tally : Tally) : Prop :=
  ∀ type, S type → (tally.activated type = true ↔ 0 < (tally.counters type).toNat)

/-- The counters are the given numbers of enabled locks; the background-task counter also
counts the idle and the coordination counter while these are positive. -/
structure Counts (tally : Tally) (enabled : RunningLockType → Nat) : Prop where
  own : ∀ type, type ≠ .backgroundTask → (tally.counters type).toNat = enabled type
  task : (tally.counters .backgroundTask).toNat =
    enabled .backgroundTask + tally.holding .backgroundUserIdle + tally.holding .coordination
  active : tally.ActiveOn fun _ => True

theorem passesOn_ne_task {type : RunningLockType} (h : passesOn type = true) : type ≠ .backgroundTask := by
  rintro rfl
  cases h

theorem increaseWith_id_counters (type : RunningLockType) (tally : Tally) :
    (tally.increaseWith id type).counters = Function.update tally.counters type (tally.counters type + 1) := by
  simp only [increaseWith]
  split <;> rfl

theorem decreaseWith_id_counters (type : RunningLockType) (tally : Tally) :
    (tally.decreaseWith id type).counters = Function.update tally.counters type (tally.counters type - 1) := by
  simp only [decreaseWith]
  split <;> rfl

/-- Counting one lock more also counts the background task when the counter leaves zero. -/
theorem up_counters (type : RunningLockType) (tally : Tally) :
    (tally.up type).counters =
      if passesOn type = true ∧ tally.counters type + 1 = 1 then
        Function.update (Function.update tally.counters type (tally.counters type + 1)) .backgroundTask
          (tally.counters .backgroundTask + 1)
      else Function.update tally.counters type (tally.counters type + 1) := by
  by_cases hpasses : passesOn type = true
  · by_cases hfirst : tally.counters type + 1 = 1
    · have hne := passesOn_ne_task hpasses
      simp [up, increaseWith, hpasses, hfirst, setCounter, setActivated, Function.update_of_ne hne.symm]
      split <;> rfl
    · simp [up, increaseWith, hpasses, hfirst, setCounter]
  · rw [if_neg fun h => hpasses h.1, up, if_neg hpasses]
    exact increaseWith_id_counters type tally

theorem down_counters (type : RunningLockType) (tally : Tally) :
    (tally.down type).counters =
      if passesOn type = true ∧ tally.counters type - 1 = 0 then
        Function.update (Function.update tally.counters type (tally.counters type - 1)) .backgroundTask
          (tally.counters .backgroundTask - 1)
      else Function.update tally.counters type (tally.counters type - 1) := by
  by_cases hpasses : passesOn type = true
  · by_cases hlast : tally.counters type - 1 = 0
    · have hne := passesOn_ne_task hpasses
      simp [down, decreaseWith, hpasses, hlast, setCounter, setActivated, Function.update_of_ne hne.symm]
      split <;> rfl
    · simp [down, decreaseWith, hpasses, hlast, setCounter]
  · rw [if_neg fun h => hpasses h.1, down, if_neg hpasses]
    exact decreaseWith_id_counters type tally

/-! ### Activations -/

theorem activeOn_setCounter {S : RunningLockType → Prop} {tally : Tally} (h : tally.ActiveOn S)
    (type : RunningLockType) (value : UInt32) :
    (tally.setCounter type value).ActiveOn fun type' => S type' ∧ type' ≠ type := by
  rintro type' ⟨hS, hne⟩
  simpa [setCounter, Function.update_of_ne hne] using h type' hS

theorem activeOn_increaseWith {S : RunningLockType → Prop} {onFirst : Tally → Tally} {type : RunningLockType}
    {tally : Tally} (h : tally.ActiveOn S) (hbound : (tally.counters type).toNat + 1 < 2 ^ 32)
    (hrest : (onFirst (tally.setCounter type (tally.counters type + 1))).ActiveOn
      fun type' => S type' ∧ type' ≠ type)
    (hkeeps : (onFirst (tally.setCounter type (tally.counters type + 1))).counters type =
      tally.counters type + 1) :
    (tally.increaseWith onFirst type).ActiveOn S := by
  intro type' hS
  have hsucc := toNat_succ hbound
  have hfirst := succ_eq_one_iff hbound
  simp only [increaseWith, setCounter, Function.update_self]
  by_cases hone : tally.counters type + 1 = 1
  · -- The counter leaves zero: its action has just been switched on.
    rw [if_pos hone]
    by_cases hsame : type' = type
    · subst hsame
      simp only [setActivated, Function.update_self, true_iff]
      change 0 < ((onFirst (tally.setCounter type' (tally.counters type' + 1))).counters type').toNat
      rw [hkeeps]
      omega
    · simp only [setActivated, Function.update_of_ne hsame]
      exact hrest type' ⟨hS, hsame⟩
  · rw [if_neg hone]
    dsimp only
    by_cases hsame : type' = type
    · subst hsame
      have hold := h type' hS
      rw [Function.update_self, hsucc]
      rw [hfirst] at hone
      exact ⟨fun _ => by omega, fun _ => hold.mpr (by omega)⟩
    · rw [Function.update_of_ne hsame]
      exact h type' hS

theorem activeOn_decreaseWith {S : RunningLockType → Prop} {onLast : Tally → Tally} {type : RunningLockType}
    {tally : Tally} (h : tally.ActiveOn S) (hpos : 0 < (tally.counters type).toNat)
    (hrest : (onLast (tally.setCounter type (tally.counters type - 1))).ActiveOn
      fun type' => S type' ∧ type' ≠ type)
    (hkeeps : (onLast (tally.setCounter type (tally.counters type - 1))).counters type =
      tally.counters type - 1) :
    (tally.decreaseWith onLast type).ActiveOn S := by
  intro type' hS
  have hpred := toNat_pred hpos
  have hlast := pred_eq_zero_iff hpos
  simp only [decreaseWith, setCounter, Function.update_self]
  by_cases hzero : tally.counters type - 1 = 0
  · rw [if_pos hzero]
    by_cases hsame : type' = type
    · subst hsame
      simp only [setActivated, Function.update_self, Bool.false_eq_true, false_iff]
      change ¬0 < ((onLast (tally.setCounter type' (tally.counters type' - 1))).counters type').toNat
      rw [hkeeps, hzero]
      exact Nat.lt_irrefl 0
    · simp only [setActivated, Function.update_of_ne hsame]
      exact hrest type' ⟨hS, hsame⟩
  · rw [if_neg hzero]
    dsimp only
    by_cases hsame : type' = type
    · subst hsame
      have hold := h type' hS
      rw [Function.update_self, hpred]
      rw [hlast] at hzero
      exact ⟨fun _ => by omega, fun _ => hold.mpr hpos⟩
    · rw [Function.update_of_ne hsame]
      exact h type' hS

theorem activeOn_up {tally : Tally} {type : RunningLockType} (h : tally.ActiveOn fun _ => True)
    (hbound : (tally.counters type).toNat + 1 < 2 ^ 32)
    (htask : (tally.counters .backgroundTask).toNat + 1 < 2 ^ 32) :
    (tally.up type).ActiveOn fun _ => True := by
  have hrest := activeOn_setCounter h type (tally.counters type + 1)
  by_cases hpasses : passesOn type = true
  · have hne := passesOn_ne_task hpasses
    have hsame : (tally.setCounter type (tally.counters type + 1)).counters .backgroundTask =
        tally.counters .backgroundTask := Function.update_of_ne hne.symm ..
    simp only [up, hpasses, if_true]
    refine activeOn_increaseWith h hbound ?_ ?_
    · refine activeOn_increaseWith hrest (by rwa [hsame]) ?_ ?_
      · exact activeOn_setCounter hrest .backgroundTask _
      · simp [setCounter]
    · rw [increaseWith_id_counters, Function.update_of_ne hne]
      exact Function.update_self ..
  · simp only [up, hpasses]
    exact activeOn_increaseWith h hbound hrest (Function.update_self ..)

theorem activeOn_down {tally : Tally} {type : RunningLockType} (h : tally.ActiveOn fun _ => True)
    (hpos : 0 < (tally.counters type).toNat)
    (htask : passesOn type = true → 0 < (tally.counters .backgroundTask).toNat) :
    (tally.down type).ActiveOn fun _ => True := by
  have hrest := activeOn_setCounter h type (tally.counters type - 1)
  by_cases hpasses : passesOn type = true
  · have hne := passesOn_ne_task hpasses
    have hsame : (tally.setCounter type (tally.counters type - 1)).counters .backgroundTask =
        tally.counters .backgroundTask := Function.update_of_ne hne.symm ..
    simp only [down, hpasses, if_true]
    refine activeOn_decreaseWith h hpos ?_ ?_
    · refine activeOn_decreaseWith hrest (by rw [hsame]; exact htask hpasses) ?_ ?_
      · exact activeOn_setCounter hrest .backgroundTask _
      · simp [setCounter]
    · rw [decreaseWith_id_counters, Function.update_of_ne hne]
      exact Function.update_self ..
  · simp only [down, hpasses]
    exact activeOn_decreaseWith h hpos hrest (Function.update_self ..)

/-! ### One lock more, one lock less -/

/-- The counter of every type but the background task moves by its own locks only. -/
theorem up_counter_own {tally : Tally} {type other : RunningLockType} (hother : other ≠ .backgroundTask) :
    (tally.up type).counters other =
      Function.update tally.counters type (tally.counters type + 1) other := by
  rw [up_counters]
  split
  · rw [Function.update_of_ne hother]
  · rfl

theorem down_counter_own {tally : Tally} {type other : RunningLockType} (hother : other ≠ .backgroundTask) :
    (tally.down type).counters other =
      Function.update tally.counters type (tally.counters type - 1) other := by
  rw [down_counters]
  split
  · rw [Function.update_of_ne hother]
  · rfl

theorem holding_up {tally : Tally} {type other : RunningLockType} (hother : other ≠ .backgroundTask)
    (hbound : (tally.counters type).toNat + 1 < 2 ^ 32) :
    (tally.up type).holding other = if other = type then 1 else tally.holding other := by
  have hsucc := toNat_succ hbound
  unfold holding
  rw [up_counter_own hother]
  by_cases hsame : other = type
  · subst hsame
    simp [hsucc]
  · simp [hsame]

theorem holding_down {tally : Tally} {type other : RunningLockType} (hother : other ≠ .backgroundTask)
    (hpos : 0 < (tally.counters type).toNat) :
    (tally.down type).holding other =
      if other = type then (if (tally.counters type).toNat = 1 then 0 else 1) else tally.holding other := by
  have hpred := toNat_pred hpos
  unfold holding
  rw [down_counter_own hother]
  by_cases hsame : other = type
  · subst hsame
    rw [Function.update_self, hpred, if_pos rfl]
    split <;> split <;> omega
  · simp [hsame]

/-- The background-task counter moves with its own locks and when a passing counter leaves zero. -/
theorem up_task {tally : Tally} {type : RunningLockType} (hbound : (tally.counters type).toNat + 1 < 2 ^ 32)
    (htask : (tally.counters .backgroundTask).toNat + 1 < 2 ^ 32) :
    ((tally.up type).counters .backgroundTask).toNat = (tally.counters .backgroundTask).toNat +
      if type = .backgroundTask then 1
      else if passesOn type = true ∧ (tally.counters type).toNat = 0 then 1 else 0 := by
  have hfirst := succ_eq_one_iff hbound
  rw [up_counters]
  by_cases hsame : type = .backgroundTask
  · subst hsame
    simp [passesOn, toNat_succ htask]
  · by_cases hpasses : passesOn type = true ∧ tally.counters type + 1 = 1
    · rw [if_pos hpasses, Function.update_self, toNat_succ htask, if_neg hsame,
        if_pos ⟨hpasses.1, hfirst.mp hpasses.2⟩]
    · rw [if_neg hpasses, Function.update_of_ne (Ne.symm hsame), if_neg hsame, if_neg (by rwa [hfirst] at hpasses)]
      rfl

theorem down_task {tally : Tally} {type : RunningLockType} (hpos : 0 < (tally.counters type).toNat)
    (htask : type = .backgroundTask ∨ passesOn type = true → 0 < (tally.counters .backgroundTask).toNat) :
    ((tally.down type).counters .backgroundTask).toNat +
      (if type = .backgroundTask then 1
        else if passesOn type = true ∧ (tally.counters type).toNat = 1 then 1 else 0) =
      (tally.counters .backgroundTask).toNat := by
  have hlast := pred_eq_zero_iff hpos
  rw [down_counters]
  by_cases hsame : type = .backgroundTask
  · subst hsame
    have hpred := toNat_pred hpos
    simp only [passesOn, Bool.false_eq_true, false_and, if_false, Function.update_self, if_true, hpred]
    omega
  · by_cases hpasses : passesOn type = true ∧ tally.counters type - 1 = 0
    · have htaskPos := htask (.inr hpasses.1)
      rw [if_pos hpasses, Function.update_self, toNat_pred htaskPos, if_neg hsame,
        if_pos ⟨hpasses.1, hlast.mp hpasses.2⟩]
      omega
    · rw [if_neg hpasses, Function.update_of_ne (Ne.symm hsame), if_neg hsame, if_neg (by rwa [hlast] at hpasses)]
      rfl

theorem holding_le_one (tally : Tally) (type : RunningLockType) : tally.holding type ≤ 1 := by
  unfold holding
  split <;> omega

/-- A counter carries the background task already, or starts to with the next lock. -/
theorem carry_add_holding (tally : Tally) (type : RunningLockType) :
    (if (tally.counters type).toNat = 0 then 1 else 0) + tally.holding type = 1 := by
  unfold holding
  split <;> split <;> omega

theorem passesOn_iff {type : RunningLockType} :
    passesOn type = true ↔ type = .backgroundUserIdle ∨ type = .coordination := by
  cases type <;> simp [passesOn]

theorem counts_up {tally : Tally} {enabled : RunningLockType → Nat} {type : RunningLockType}
    (h : tally.Counts enabled) (hbound : enabled type + 1 < 2 ^ 32)
    (htask : enabled .backgroundTask + 3 < 2 ^ 32) :
    (tally.up type).Counts (Function.update enabled type (enabled type + 1)) := by
  have hidle := tally.holding_le_one .backgroundUserIdle
  have hcoordination := tally.holding_le_one .coordination
  have htaskBound : (tally.counters .backgroundTask).toNat + 1 < 2 ^ 32 := by
    rw [h.task]
    omega
  have hownBound : (tally.counters type).toNat + 1 < 2 ^ 32 := by
    by_cases hsame : type = .backgroundTask
    · rw [hsame]
      exact htaskBound
    · rw [h.own type hsame]
      exact hbound
  refine ⟨fun other hother => ?_, ?_, activeOn_up h.active hownBound htaskBound⟩
  · rw [up_counter_own hother]
    by_cases hsame : other = type
    · subst hsame
      rw [Function.update_self, Function.update_self, toNat_succ hownBound, h.own other hother]
    · rw [Function.update_of_ne hsame, Function.update_of_ne hsame, h.own other hother]
  · have hcount := h.task
    rw [up_task hownBound htaskBound, holding_up (by decide) hownBound, holding_up (by decide) hownBound]
    by_cases hsame : type = .backgroundTask
    · subst hsame
      simp only [if_true, Function.update_self, reduceCtorEq, if_false]
      omega
    · rw [if_neg hsame, Function.update_of_ne (Ne.symm hsame), hcount]
      by_cases hidleType : type = .backgroundUserIdle
      · subst hidleType
        have hcarry := tally.carry_add_holding .backgroundUserIdle
        simp only [passesOn, reduceCtorEq, true_and, if_true, if_false]
        omega
      · by_cases hcoordinationType : type = .coordination
        · subst hcoordinationType
          have hcarry := tally.carry_add_holding .coordination
          simp only [passesOn, reduceCtorEq, true_and, if_true, if_false]
          omega
        · simp [passesOn_iff, hidleType, hcoordinationType, Ne.symm hidleType, Ne.symm hcoordinationType]

theorem counts_down {tally : Tally} {enabled : RunningLockType → Nat} {type : RunningLockType}
    (h : tally.Counts enabled) (hpos : 0 < enabled type) :
    (tally.down type).Counts (Function.update enabled type (enabled type - 1)) := by
  have hownPos : 0 < (tally.counters type).toNat := by
    by_cases hsame : type = .backgroundTask
    · subst hsame
      rw [h.task]
      omega
    · rw [h.own type hsame]
      exact hpos
  have hheld : tally.holding type = 1 := if_pos hownPos
  have htaskPos : type = .backgroundTask ∨ passesOn type = true → 0 < (tally.counters .backgroundTask).toNat := by
    rw [passesOn_iff, h.task]
    rintro (rfl | rfl | rfl) <;> omega
  refine ⟨fun other hother => ?_, ?_, activeOn_down h.active hownPos fun hpasses => htaskPos (.inr hpasses)⟩
  · rw [down_counter_own hother]
    by_cases hsame : other = type
    · subst hsame
      rw [Function.update_self, Function.update_self, toNat_pred hownPos, h.own other hother]
    · rw [Function.update_of_ne hsame, Function.update_of_ne hsame, h.own other hother]
  · have hcount := h.task
    have hmoved := down_task hownPos htaskPos
    rw [holding_down (by decide) hownPos, holding_down (by decide) hownPos]
    by_cases hsame : type = .backgroundTask
    · subst hsame
      simp only [if_true, Function.update_self, reduceCtorEq, if_false] at hmoved ⊢
      omega
    · rw [if_neg hsame] at hmoved
      rw [Function.update_of_ne (Ne.symm hsame)]
      by_cases hidleType : type = .backgroundUserIdle
      · subst hidleType
        simp only [passesOn, reduceCtorEq, true_and, if_true, if_false] at hmoved ⊢
        by_cases hone : (tally.counters .backgroundUserIdle).toNat = 1
        · rw [if_pos hone] at hmoved ⊢
          omega
        · rw [if_neg hone] at hmoved ⊢
          omega
      · by_cases hcoordinationType : type = .coordination
        · subst hcoordinationType
          simp only [passesOn, reduceCtorEq, true_and, if_true, if_false] at hmoved ⊢
          by_cases hone : (tally.counters .coordination).toNat = 1
          · rw [if_pos hone] at hmoved ⊢
            omega
          · rw [if_neg hone] at hmoved ⊢
            omega
        · simp only [passesOn_iff, hidleType, hcoordinationType, or_self, false_and, if_false] at hmoved
          rw [if_neg (Ne.symm hidleType), if_neg (Ne.symm hcoordinationType)]
          omega

end Tally

end PowerMgr.RunningLock
