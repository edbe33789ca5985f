import PowerMgr.Lib.System
import PowerMgr.PowerMode.Policy

/-! # What is given back was read

A mode that does not mention a setting has applied to it what an earlier mode backed up.  The
backup is made of what the reads of the settings give, which may fail and which narrow the number
stored to an `int32_t`.

* `History` — the numbers that were read of each setting since a mode that mentions it was entered;
* `NothingMadeUp` — what is applied to a setting that the mode does not mention is one of them;
* `nothing_made_up` — the runs in which this holds.
-/

namespace PowerMgr.PowerMode.Recovery

open Std (TreeMap)
open Policy
open Announced (Mode)

/-- The numbers read of each setting in the current run of modes that mention it, and in the run up
to the mode entered last. -/
structure History where
  reads : ServiceType → List Int := fun _ => []
  earlier : ServiceType → List Int := fun _ => []

/-- The number stored, if the read gives anything. -/
def numberRead (config : Config) (id : ServiceType) (stored : Option Int) : List Int :=
  if readSetting config.neverSleep id stored = initValueFalse then [] else stored.toList

def History.enter (config : Config) (mode : Mode) (settings : Settings) (outcome : Nat → Bool) (h : History) :
    History where
  reads id :=
    if Mentions config mode id then
      h.reads id ++ if ReadsBack config mode outcome id then numberRead config id (settings id) else []
    else []
  earlier := h.reads

structure State where
  machine : Machine
  history : History := {}

def History.next (config : Config) (m : Machine) (h : History) : Event → History
  | .enableMode mode outcome => h.enter config mode m.settings outcome
  | .restart _ reload outcome _ =>
    if Machine.EntersAtStart config reload m then h.enter config (Machine.modeOf m.currentMode) m.settings outcome
    else h
  | .changeSetting _ _ | .removeBackup _ => h

def next (config : Config) (s : State) (e : Event) : Option State :=
  (perform config s.machine e).map fun machine => { machine := machine, history := s.history.next config s.machine e }

/-- The service with any settings, before anything was saved for its next start. -/
def system (config : Config) : Lib.System State Event where
  init s := ∃ settings currentMode, s = { machine := { settings := settings, currentMode := currentMode } }
  next := next config

/-- What was applied to a setting that the mode does not mention had been read of it; a setting of
which nothing was read has nothing applied. -/
def NothingMadeUp (config : Config) (s : State) : Prop :=
  ∀ item ∈ s.machine.applied, ¬Mentions config s.machine.mode item.1 → item.2 ∈ s.history.earlier item.1

/-- What the mode has backed up and is not to be given back already is read, as it is stored. -/
def ReadsWhatItFlags (config : Config) (mode : Mode) (outcome : Nat → Bool) (m : Machine) : Prop :=
  ∀ id ∈ Machine.registered, Flags config mode id → m.policy.recoverMap[id]? = none →
    ReadsBack config mode outcome id ∧ ∃ value, ReadsAs config id (m.settings id) value

def Careful (config : Config) (s : State) : Event → Prop
  | .enableMode mode outcome => ReadsWhatItFlags config mode outcome s.machine
  | .restart displayOffTime reload outcome _ =>
    Machine.EntersAtStart config reload s.machine →
      ReadsWhatItFlags config (Machine.modeOf s.machine.currentMode) outcome (s.machine.started displayOffTime reload)
  | .changeSetting _ _ | .removeBackup _ => True

/-! ## Entering a mode -/

/-- What is to be given back was read in the current run of modes. -/
def BacksWhatWasRead (m : Machine) (h : History) : Prop :=
  ∀ id ∈ Machine.registered, ∀ value, m.policy.recoverMap[id]? = some value → value ∈ h.reads id

variable {config : Config} {m m' : Machine} {h : History} {outcome : Nat → Bool}

theorem mem_numberRead {id : ServiceType} {stored : Option Int} {value : Int} (hreads : ReadsAs config id stored value) :
    value ∈ numberRead config id stored := by
  obtain ⟨rfl, hread, hvalid⟩ := hreads
  rw [numberRead, hread, if_neg hvalid]
  exact List.mem_singleton_self value

theorem backs_enter (hidle : Idle config m.policy) (hentered : Entered config outcome m m')
    (hbacks : BacksWhatWasRead m h) (hreads : ReadsWhatItFlags config m.mode outcome m) :
    BacksWhatWasRead m' (h.enter config m.mode m.settings outcome) := by
  intro id hid value hvalue
  rw [hentered.policy] at hvalue
  by_cases hmentions : Mentions config m.mode id
  · simp only [History.enter, hmentions, if_true]
    cases hcarried : m.policy.recoverMap[id]? with
    | some carried =>
      rw [update_recoverMap_of_some hidle hmentions hcarried] at hvalue
      obtain rfl := Option.some.inj hvalue
      exact List.mem_append_left _ (hbacks id hid carried hcarried)
    | none =>
      -- the entry is that of a backup, so the mode flags the setting and it is read now
      rw [update_recoverMap_of_none hidle hmentions hcarried] at hvalue
      have hflags : Flags config m.mode id := by
        rw [← read_backupMap hidle m.mode, hvalue]
        rfl
      obtain ⟨hback, number, hnumber⟩ := hreads id hid hflags hcarried
      rw [read_backup hback hnumber] at hvalue
      obtain rfl := Option.some.inj hvalue
      rw [if_pos hback]
      exact List.mem_append_right _ (mem_numberRead hnumber)
  · rw [update_recoverMap_of_not_mentions hidle hmentions] at hvalue
    cases hvalue

theorem nothingMadeUp_enter (hidle : Idle config m.policy) (hentered : Entered config outcome m m')
    (hbacks : BacksWhatWasRead m h) :
    NothingMadeUp config { machine := m', history := h.enter config m.mode m.settings outcome } := by
  intro item hmem hmentions
  obtain ⟨hregistered, hswitch⟩ := hentered.applied item hmem
  change ¬Mentions config m'.mode item.1 at hmentions
  rw [hentered.mode] at hmentions
  rw [hentered.policy, update_switchMap hidle hmentions] at hswitch
  exact hbacks item.1 hregistered item.2 hswitch

/-! ## Runs -/

structure Inv (config : Config) (s : State) : Prop where
  stored : Stored config s.machine
  backs : BacksWhatWasRead s.machine s.history
  applied : NothingMadeUp config s

theorem Inv.started_backs {s : State} (hinv : Inv config s) (displayOffTime : Int) (reload : Bool) :
    BacksWhatWasRead (s.machine.started displayOffTime reload) s.history := by
  intro id hid value hvalue
  rw [hinv.stored.started_recoverMap] at hvalue
  split at hvalue
  · exact hinv.backs id hid value hvalue
  · cases hvalue

theorem Inv.removeBackup {s : State} (hinv : Inv config s) (id : ServiceType) :
    BacksWhatWasRead (s.machine.removeBackupMapSettingSwitch id) s.history ∧
      (s.machine.removeBackupMapSettingSwitch id).applied = s.machine.applied ∧
      (s.machine.removeBackupMapSettingSwitch id).mode = s.machine.mode := by
  unfold Machine.removeBackupMapSettingSwitch
  split
  · refine ⟨fun other hother value hvalue => ?_, rfl, rfl⟩
    exact hinv.backs other hother value (erase_recoverMap hvalue)
  · exact ⟨hinv.backs, rfl, rfl⟩

theorem Inv.next {s s' : State} (hinv : Inv config s) {e : Event} (hcareful : Careful config s e)
    (hnext : (system config).next s e = some s') : Inv config s' := by
  obtain ⟨machine, hperform, rfl⟩ := Option.map_eq_some_iff.mp hnext
  have hstored := hinv.stored.perform hperform
  cases e with
  | enableMode mode outcome =>
    obtain ⟨-, heq⟩ := Option.ite_none_right_eq_some.mp hperform
    have hentered := entered_enableMode config outcome mode s.machine
    rw [Option.some.inj heq] at hentered
    have hidle : Idle config { s.machine with mode := mode }.policy := hinv.stored.idle
    have hbacks : BacksWhatWasRead { s.machine with mode := mode } s.history := hinv.backs
    have hreads : ReadsWhatItFlags config mode outcome { s.machine with mode := mode } := hcareful
    have hbacks' := backs_enter hidle hentered hbacks hreads
    have hmade := nothingMadeUp_enter hidle hentered hbacks
    exact ⟨hstored, hbacks', hmade⟩
  | restart displayOffTime reload outcome valid =>
    have hidle := hinv.stored.started_idle displayOffTime reload
    have hbacks := hinv.started_backs displayOffTime reload
    have hmachine := Option.some.inj hperform
    by_cases henters : Machine.EntersAtStart config reload s.machine
    · obtain ⟨hentered, -⟩ := entered_restart henters
      rw [hmachine] at hentered
      simp only [History.next, henters, if_true]
      have hbacks' := backs_enter hidle hentered hbacks (hcareful henters)
      have hmade := nothingMadeUp_enter hidle hentered hbacks
      exact ⟨hstored, hbacks', hmade⟩
    · rw [Machine.restart_of_not_enters henters] at hmachine
      subst hmachine
      simp only [History.next, henters, if_false]
      exact ⟨hstored, hbacks, fun item hmem => absurd hmem (by simp [Machine.started])⟩
  | changeSetting id stored =>
    obtain rfl := Option.some.inj hperform
    exact ⟨hstored, hinv.backs, hinv.applied⟩
  | removeBackup id =>
    obtain rfl := Option.some.inj hperform
    obtain ⟨hbacks, happlied, hmode⟩ := hinv.removeBackup id
    refine ⟨hstored, hbacks, fun item hmem hmentions => ?_⟩
    change ¬Mentions config (s.machine.removeBackupMapSettingSwitch id).mode item.1 at hmentions
    change item ∈ (s.machine.removeBackupMapSettingSwitch id).applied at hmem
    rw [happlied] at hmem
    rw [hmode] at hmentions
    exact hinv.applied item hmem hmentions

/-- In runs in which what is backed up is read, nothing that is given back is made up. -/
theorem nothing_made_up {s : State} (h : (system config).Reach (Careful config) s) : NothingMadeUp config s := by
  have hinv : Inv config s := by
    refine h.invariant (I := Inv config) ?_ ?_
    · rintro s ⟨settings, currentMode, rfl⟩
      exact ⟨stored_init settings currentMode, fun _ _ _ hvalue => by simp at hvalue, fun _ hmem => by simp at hmem⟩
    · intro s s' e hinv hcareful hnext
      exact hinv.next hcareful hnext
  exact hinv.applied

/-- Two modes, of which the first has a setting backed up. -/
def twoModes (id : ServiceType) (value : Int) : Config where
  policyCache := (TreeMap.insert ∅ 600 []).insert 601 [{ id := id, value := value, recoverFlag := ValueProp.recover }]
  neverSleep := false
  resourceSchedule := false

def stored (settings : Settings) : State := { machine := { settings := settings } }

/-- A mode that has the brightness adjustment backed up, a restart in it, and a mode that gives it
back. -/
theorem nothing_made_up_two : ∃ s, NothingMadeUp (twoModes 103 0) s ∧ s.machine.applied = [(103, 1)] ∧
    s.history.earlier 103 = [1] := by
  have hstored : (system (twoModes 103 0)).Reach (Careful (twoModes 103 0)) (stored fun _ => some 1) := .init ⟨_, _, rfl⟩
  have hflags : ∀ id, Flags (twoModes 103 0) 601 id → id = 103 := by
    rintro id ⟨policy, hmem, rfl, -⟩
    have hpolicies : (twoModes 103 0).policies 601 = [{ id := 103, value := 0, recoverFlag := ValueProp.recover }] := by
      decide
    rw [hpolicies, List.mem_singleton] at hmem
    rw [hmem]
  have hnone : ∀ id, ¬Flags (twoModes 103 0) 600 id := by
    rintro id ⟨policy, hmem, -⟩
    have hpolicies : (twoModes 103 0).policies 600 = [] := by decide
    simp [hpolicies] at hmem
  have hsave := hstored.step (Event.enableMode 601 fun _ => true)
    (fun id _ hflag _ => ⟨by rw [hflags id hflag]; decide, 1, by rw [hflags id hflag]; decide⟩) rfl
  have hrestarted := hsave.step (Event.restart 30000 true (fun _ => true) fun _ => true)
    (fun henters => absurd henters (by decide)) rfl
  have hnormal := hrestarted.step (Event.enableMode 600 fun _ => true) (fun id _ hflag => absurd hflag (hnone id)) rfl
  exact ⟨_, nothing_made_up hnormal, by decide, by decide⟩

/-- The brightness cannot be read, the read of the brightness adjustment fails, and a screen-off
time is longer than an `int32_t` can say: zero, zero and the rest of the time are applied. -/
theorem made_up_values :
    (∃ s, (system (twoModes 115 50)).Reachable s ∧ s.machine.applied = [(115, 0)] ∧
      ¬NothingMadeUp (twoModes 115 50) s) ∧
    (∃ s, (system (twoModes 103 0)).Reachable s ∧ s.machine.applied = [(103, 0)] ∧
      ¬NothingMadeUp (twoModes 103 0) s) ∧
    ∃ s, (system (twoModes 101 30000)).Reachable s ∧ s.machine.applied = [(101, 5000)] ∧
      s.history.earlier 101 = [2 ^ 32 + 5000] ∧ ¬NothingMadeUp (twoModes 101 30000) s := by
  refine ⟨?_, ?_, ?_⟩
  · have hstored : (system (twoModes 115 50)).Reachable (stored fun _ => some 80) := .init ⟨_, _, rfl⟩
    have hsave := hstored.step (Event.enableMode 601 fun _ => true) trivial rfl
    have hnormal := hsave.step (Event.enableMode 600 fun _ => true) trivial rfl
    refine ⟨_, hnormal, by decide, fun hmade => ?_⟩
    exact absurd (hmade (115, 0) (by decide) (by decide)) (by decide)
  · have hstored : (system (twoModes 103 0)).Reachable (stored fun _ => some 1) := .init ⟨_, _, rfl⟩
    have hsave := hstored.step (Event.enableMode 601 fun _ => false) trivial rfl
    have hnormal := hsave.step (Event.enableMode 600 fun _ => true) trivial rfl
    refine ⟨_, hnormal, by decide, fun hmade => ?_⟩
    exact absurd (hmade (103, 0) (by decide) (by decide)) (by decide)
  · have hstored : (system (twoModes 101 30000)).Reachable (stored fun _ => some (2 ^ 32 + 5000)) := .init ⟨_, _, rfl⟩
    have hsave := hstored.step (Event.enableMode 601 fun _ => true) trivial rfl
    have hnormal := hsave.step (Event.enableMode 600 fun _ => true) trivial rfl
    refine ⟨_, hnormal, by decide, by decide, fun hmade => ?_⟩
    exact absurd (hmade (101, 5000) (by decide) (by decide)) (by decide)

end PowerMgr.PowerMode.Recovery
