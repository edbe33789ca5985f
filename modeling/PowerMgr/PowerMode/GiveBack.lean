import PowerMgr.Lib.System
import PowerMgr.PowerMode.Policy

/-! # Settings are given back

While modes follow each other that mention a setting, the number it had when it was first backed up
is carried from one map to the next and through the restarts of the service; the first mode that
does not mention it gives it back.

* `History` — what each setting was when it was first backed up in the current run of modes;
* `GivenBack` — what the mode entered last had to give back is in the settings, or in effect;
* `settings_given_back` — this holds in every run in which the user changes no setting.
-/

namespace PowerMgr.PowerMode.GiveBack

open Std (TreeMap)
open Policy
open Announced (Mode)

/-- Which settings were backed up in the current run of modes that mention them, the numbers they had
then where they were read, and the numbers that the mode entered last had to give back. -/
structure History where
  saved : ServiceType → Bool := fun _ => false
  original : ServiceType → Option Int := fun _ => none
  due : ServiceType → Option Int := fun _ => none

def History.enter (config : Config) (mode : Mode) (settings : Settings) (outcome : Nat → Bool) (h : History) :
    History where
  saved id := decide (Mentions config mode id) && (h.saved id || decide (Flags config mode id))
  original id :=
    if Mentions config mode id then
      if h.saved id then h.original id
      else if ReadsBack config mode outcome id then
        (settings id).filter fun value => ReadsAs config id (settings id) value
      else none
    else none
  due id := if Mentions config mode id then none else h.original id

structure State where
  machine : Machine
  history : History := {}

def History.next (config : Config) (m : Machine) (h : History) : Event → History
  | .enableMode mode outcome => h.enter config mode m.settings outcome
  | .restart _ reload outcome _ =>
    if Machine.EntersAtStart config reload m then h.enter config (Machine.modeOf m.currentMode) m.settings outcome
    else { h with due := fun _ => none }
  | .changeSetting _ _ | .removeBackup _ => h

def next (config : Config) (s : State) (e : Event) : Option State :=
  (perform config s.machine e).map fun machine => { machine := machine, history := s.history.next config s.machine e }

/-- The service with any settings, before anything was saved for its next start. -/
def system (config : Config) : Lib.System State Event where
  init s := ∃ settings currentMode, s = { machine := { settings := settings, currentMode := currentMode } }
  next := next config

/-- The user changes no setting, and a new process can read what was saved. -/
def Undisturbed (_ : State) : Event → Prop
  | .enableMode _ _ => True
  | .restart _ reload _ _ => reload = true
  | .changeSetting _ _ | .removeBackup _ => False

/-- A setting that the mode entered last had to give back has the number it had when it was first
backed up.  A screen-off time that is not positive is not written to the setting; it is in effect. -/
def GivenBack (s : State) : Prop :=
  ∀ id value, s.history.due id = some value →
    ((id = ServiceType.displayOffTime → 0 < value) → s.machine.settings id = some value) ∧
      (id = ServiceType.displayOffTime → s.machine.displayOffTime = value)

/-! ## The maps follow the history -/

structure Tracks (config : Config) (p : PowerModePolicy) (h : History) : Prop where
  saved : ∀ id, h.saved id = true ↔ p.recoverMap[id]?.isSome = true
  original : ∀ id value, h.original id = some value →
    p.recoverMap[id]? = some value ∧ ReadsAs config id (some value) value

variable {config : Config} {p : PowerModePolicy} {h : History} {settings : Settings} {outcome : Nat → Bool} {mode : Mode}

theorem Tracks.enter_saved (htracks : Tracks config p h) (hidle : Idle config p) (id : ServiceType) :
    (h.enter config mode settings outcome).saved id = true ↔
      (p.updatePowerModePolicy config settings outcome mode).recoverMap[id]?.isSome = true := by
  simp only [History.enter, Bool.and_eq_true, Bool.or_eq_true, decide_eq_true_eq]
  by_cases hmentions : Mentions config mode id
  · cases hcarried : p.recoverMap[id]? with
    | some carried =>
      have hsaved : h.saved id = true := by
        rw [htracks.saved, hcarried]
        rfl
      simp [update_recoverMap_of_some hidle hmentions hcarried, hmentions, hsaved]
    | none =>
      have hsaved : ¬h.saved id = true := by
        rw [htracks.saved, hcarried]
        simp
      rw [update_recoverMap_of_none hidle hmentions hcarried, read_backupMap hidle mode]
      simp [hmentions, hsaved]
  · simp [update_recoverMap_of_not_mentions hidle hmentions, hmentions]

theorem Tracks.enter_original (htracks : Tracks config p h) (hidle : Idle config p) {id : ServiceType} {value : Int}
    (horiginal : (h.enter config mode settings outcome).original id = some value) :
    (p.updatePowerModePolicy config settings outcome mode).recoverMap[id]? = some value ∧
      ReadsAs config id (some value) value := by
  simp only [History.enter] at horiginal
  split_ifs at horiginal with hmentions hsaved hback
  · obtain ⟨hcarried, hreads⟩ := htracks.original id value horiginal
    exact ⟨update_recoverMap_of_some hidle hmentions hcarried, hreads⟩
  · -- the setting is backed up for the first time, and the read gives its number
    obtain ⟨hstored, hreads⟩ := Option.filter_eq_some_iff.mp horiginal
    have hreads := of_decide_eq_true hreads
    have hnone : p.recoverMap[id]? = none := by
      simpa [htracks.saved] using hsaved
    rw [update_recoverMap_of_none hidle hmentions hnone, read_backup hback hreads]
    exact ⟨rfl, hstored ▸ hreads⟩

theorem Tracks.enter (htracks : Tracks config p h) (hidle : Idle config p) :
    Tracks config (p.updatePowerModePolicy config settings outcome mode) (h.enter config mode settings outcome) where
  saved := htracks.enter_saved hidle
  original _ _ := htracks.enter_original hidle

/-! ## Runs -/

structure Inv (config : Config) (s : State) : Prop where
  stored : Stored config s.machine
  tracks : Tracks config s.machine.policy s.history
  givenBack : GivenBack s

/-- The first mode that does not mention a setting applies what was carried to it. -/
theorem givenBack_enableMode {m : Machine} (hidle : Idle config m.policy) (htracks : Tracks config m.policy h)
    (mode : Mode) (outcome : Nat → Bool) :
    GivenBack { machine := m.enableMode config outcome mode, history := h.enter config mode m.settings outcome } := by
  intro id value hdue
  simp only [History.enter] at hdue
  split_ifs at hdue with hmentions
  obtain ⟨hcarried, hreads⟩ := htracks.original id value hdue
  exact enableMode_writes hreads ((update_switchMap hidle hmentions).trans hcarried)

/-- A restart finds the mode there was before it, which mentions what was backed up; so nothing is due. -/
theorem givenBack_restart {s : State} (hinv : Inv config s) {machine : Machine} (outcome : Nat → Bool) :
    GivenBack {
      machine := machine
      history := s.history.enter config (Machine.modeOf s.machine.currentMode) s.machine.settings outcome } := by
  intro id value hdue
  simp only [History.enter] at hdue
  split_ifs at hdue with hmentions
  have hcarried := (hinv.tracks.original id value hdue).1
  refine absurd ?_ hmentions
  cases hsaved : s.machine.savedRecoverMap with
  | none => simp [hinv.stored.unsaved hsaved id] at hcarried
  | some recoverMap =>
    rw [← (hinv.stored.saved recoverMap hsaved).2]
    exact hinv.stored.mentions id value hcarried

theorem Inv.next {s s' : State} (hinv : Inv config s) {e : Event} (hquiet : Undisturbed s e)
    (hnext : (system config).next s e = some s') : Inv config s' := by
  obtain ⟨machine, hperform, rfl⟩ := Option.map_eq_some_iff.mp hnext
  have hstored := hinv.stored.perform hperform
  cases e with
  | enableMode mode outcome =>
    obtain ⟨-, heq⟩ := Option.ite_none_right_eq_some.mp hperform
    have hpolicy := (entered_enableMode config outcome mode s.machine).policy
    have hgiven := givenBack_enableMode hinv.stored.idle hinv.tracks mode outcome
    rw [Option.some.inj heq] at hpolicy hgiven
    refine ⟨hstored, ?_, hgiven⟩
    rw [hpolicy]
    exact hinv.tracks.enter hinv.stored.idle
  | restart displayOffTime reload outcome valid =>
    obtain rfl : reload = true := hquiet
    have hmachine := Option.some.inj hperform
    have htracks : Tracks config (s.machine.started displayOffTime true).policy s.history := by
      refine ⟨fun id => ?_, fun id value horiginal => ?_⟩
      · rw [hinv.stored.started_recoverMap, if_pos rfl]
        exact hinv.tracks.saved id
      · rw [hinv.stored.started_recoverMap, if_pos rfl]
        exact hinv.tracks.original id value horiginal
    by_cases henters : Machine.EntersAtStart config true s.machine
    · obtain ⟨hentered, -⟩ := entered_restart henters
      rw [hmachine] at hentered
      simp only [History.next, henters, if_true]
      refine ⟨hstored, ?_, givenBack_restart hinv outcome⟩
      rw [hentered.policy]
      exact htracks.enter (hinv.stored.started_idle displayOffTime true)
    · rw [Machine.restart_of_not_enters henters] at hmachine
      subst hmachine
      simp only [History.next, henters, if_false]
      exact ⟨hstored, ⟨htracks.saved, htracks.original⟩, fun _ _ hdue => by simp at hdue⟩
  | changeSetting id stored => exact hquiet.elim
  | removeBackup id => exact hquiet.elim

/-- While the user changes no setting, each mode gives back what the modes before it had backed up. -/
theorem settings_given_back {s : State} (h : (system config).Reach Undisturbed s) : GivenBack s := by
  have hinv : Inv config s := by
    refine h.invariant (I := Inv config) ?_ ?_
    · rintro s ⟨settings, currentMode, rfl⟩
      exact ⟨stored_init settings currentMode, ⟨fun id => by simp, fun _ _ horiginal => by simp at horiginal⟩,
        fun _ _ hdue => by simp at hdue⟩
    · intro s s' e hinv hquiet hnext
      exact hinv.next hquiet hnext
  exact hinv.givenBack

/-- A mode that has two settings backed up, one that only changes them, and one that mentions neither. -/
def threeModes (neverSleep : Bool) : Config where
  policyCache := ((TreeMap.insert ∅ 600 []).insert 601 [
    { id := 101, value := 10000, recoverFlag := ValueProp.recover },
    { id := 103, value := 0, recoverFlag := ValueProp.recover }]).insert 603 [
    { id := 101, value := 20000, recoverFlag := 0 },
    { id := 103, value := 2, recoverFlag := 0 }]
  neverSleep := neverSleep
  resourceSchedule := false

def stored (settings : Settings) : State := { machine := { settings := settings } }

/-- Two settings through two modes and a restart. -/
theorem settings_given_back_two : ∃ s, GivenBack s ∧ s.history.due 103 = some 1 ∧ s.history.due 101 = some 60000 ∧
    s.machine.settings 103 = some 1 ∧ s.machine.settings 101 = some 60000 := by
  have hstored : (system (threeModes false)).Reach Undisturbed
      (stored fun id => if id = 101 then some 60000 else some 1) := .init ⟨_, _, rfl⟩
  have hsave := hstored.step (Event.enableMode 601 fun _ => true) trivial rfl
  have hextreme := hsave.step (Event.enableMode 603 fun _ => true) trivial rfl
  have hrestarted := hextreme.step (Event.restart 30000 true (fun _ => true) fun _ => true) rfl rfl
  have hnormal := hrestarted.step (Event.enableMode 600 fun _ => true) trivial rfl
  exact ⟨_, settings_given_back hnormal, by decide +kernel, by decide +kernel, by decide +kernel, by decide +kernel⟩

/-- Where the screen may never turn off, that setting is not given back: the mode that is left keeps
its time in it. -/
theorem never_sleep_not_given_back : ∃ s, (system (threeModes true)).Reach Undisturbed s ∧
    s.history.due 101 = some (-1) ∧ s.machine.settings 101 = some 10000 ∧ s.machine.displayOffTime = -1 := by
  have hstored : (system (threeModes true)).Reach Undisturbed (stored fun id => if id = 101 then some (-1) else some 1) :=
    .init ⟨_, _, rfl⟩
  have hsave := hstored.step (Event.enableMode 601 fun _ => true) trivial rfl
  have hnormal := hsave.step (Event.enableMode 600 fun _ => true) trivial rfl
  exact ⟨_, hnormal, by decide, by decide, by decide⟩

end PowerMgr.PowerMode.GiveBack
