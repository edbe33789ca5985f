import PowerMgr.StateMachine.ScreenTimers

/-! # A lit screen goes off some time

While the screen is lit, one of the two timers is meant to have a task pending, unless a `SCREEN`
lock is held or the display is never to go off.  A timer that is cancelled, or whose task has been
refused, is lost when nobody sets it again, and the screen stays on.

* `Attends` — the thread will set a timer or turn the screen off;
* `State.Covered`, `State.Excused` — why a lit screen may be without a pending task for the moment;
* `Careful` — the steps that give a timer up do so only while somebody else attends;
* `Inv`, `inv_advance` — the invariant, and that every careful step of a thread keeps it.
-/

namespace PowerMgr.StateMachine.ScreenTimers

def Request.timed : Request → Bool
  | .dim _ | .inactive _ => true
  | .awake _ => false

/-- The thread will set a timer or turn the screen off, whatever the others do; up to the check of the
registered task only if its own is still that. -/
def Attends (s : State) : Stage → Prop
  | .offShuttingDown task | .offScreenOn task => s.off = .started task
  | .request r | .available r => r.timed = true ∧ s.taskAvailable r = true
  | .settingFlag r | .timingOut r | .transit r _ => r.timed = true
  | .dimCheck | .dimDisplay | .dimCancelTimeout | .dimCancelOff | .dimDisplayOffTime | .dimSetOff => True
  | .inactiveDisplay | .inactiveCancelTimeout | .inactiveCancelOff | .inactiveCommit => True
  | .reset _ _ => True
  | .displayOffTimeStored overNegative => overNegative = true
  | _ => False

/-- `DIM` is about to be stored, and its timer has been seen to. -/
def Stage.dims : Stage → Bool
  | .dimFlag | .dimCommit => true
  | _ => false

/-- The display has been turned off, and `INACTIVE` is going to be stored. -/
def Stage.darkens : Stage → Bool
  | .inactiveCancelTimeout | .inactiveCancelOff | .inactiveCommit => true
  | _ => false

def Stage.holds : Stage → Bool
  | .forceState | .available _ | .settingFlag _ | .timingOut _ | .transit _ _ => true
  | .dimCheck | .dimDisplay | .dimCancelTimeout | .dimCancelOff | .dimDisplayOffTime | .dimSetOff | .dimFlag
  | .dimCommit => true
  | .inactiveDisplay | .inactiveCancelTimeout | .inactiveCancelOff | .inactiveCommit => true
  | .awakeDisplay | .awakeCommit | .restoreFlag | .release => true
  | .reset _ caller => caller ≠ .plain
  | _ => false

/-- The state from which an action has started stays until the action has ended. -/
def Placed (current : PowerState) : Stage → Prop
  | .dimCheck | .dimDisplay | .dimCancelTimeout | .dimCancelOff | .dimDisplayOffTime | .dimSetOff | .dimFlag
  | .dimCommit | .reset _ .dimInterrupted => current = .awake
  | .inactiveDisplay | .inactiveCancelTimeout | .inactiveCancelOff | .inactiveCommit
  | .awakeDisplay | .reset _ .awake | .awakeCommit => current = .awake ∨ current = .dim
  | _ => True

def State.Lit (s : State) : Prop :=
  s.currentState = .awake ∨ s.currentState = .dim

/-- The device is in `DIM`, or will be without a further timer being set. -/
def State.Dimming (s : State) : Prop :=
  s.currentState = .dim ∨ ∃ thread stage, s.threads thread = some stage ∧ stage.dims = true

/-- A lock keeps the screen on, or the last one has just been given up; neither is any good in `DIM`,
where unlocking does not set a timer. -/
def State.Excused (s : State) : Prop :=
  ¬s.Dimming ∧ (0 < s.screenLocks ∨ ∃ thread, s.threads thread = some .unlockState)

/-- The display never goes off, or a task is pending, or a thread with the property attends. -/
def State.CoveredBy (s : State) (among : Nat → Prop) : Prop :=
  s.displayOffTime < 0 ∨ s.timeout.isQueued = true ∨ s.off.isQueued = true ∨
    ∃ thread stage, among thread ∧ s.threads thread = some stage ∧ Attends s stage

def State.Covered (s : State) : Prop :=
  s.CoveredBy fun _ => True

/-- The screen is off, or somebody else than the thread sees to it. -/
def State.Spares (s : State) (thread : Nat) : Prop :=
  s.Lit → s.CoveredBy (· ≠ thread) ∨ s.Excused

/-- The steps that give a timer up: a reboot or shutdown cancels it, the task of `OFF` is turned away
because of a shutdown, a request is refused in `DIM`, or a time that replaces a negative one is
stored in `DIM`. -/
def Careful (s : State) : Event → Prop
  | .advance thread =>
    match s.threads thread with
    | some .rebootCancelTimeout => s.timeout = .idle ∨ { s with timeout := .idle }.Spares thread
    | some .rebootCancelOff => s.off = .idle ∨ { s with off := .idle }.Spares thread
    | some (.offShuttingDown task) => s.started = true → s.off = .started task → s.Spares thread
    | some (.transit r force) => s.currentState = .dim → s.admits r force = false → s.Spares thread
    | some (.displayOffTimeStored true) => s.currentState = .dim → s.Spares thread
    | _ => True
  | _ => True

structure Inv (s : State) : Prop where
  known : s.Lit ∨ s.currentState = .inactive
  dark : s.currentState = .inactive → s.display = .off
  unlit : s.isScreenOn = false → s.currentState = .inactive ∨
    ∃ thread stage, s.threads thread = some stage ∧ stage.darkens = true
  darkened : ∀ thread stage, s.threads thread = some stage → stage.darkens = true → s.display = .off
  mutex : ∀ thread stage, s.threads thread = some stage → stage.holds = true → s.stateMutex = some thread
  placed : ∀ thread stage, s.threads thread = some stage → Placed s.currentState stage
  covered : s.Lit → s.Covered ∨ s.Excused

variable {cfg : Config} {s s' : State} {thread : Nat} {stage : Stage} {after : Option Stage}

/-! ## Small facts about stages -/

theorem placed_of_not_holds (current : PowerState) (h : stage.holds = false) : Placed current stage := by
  cases stage with
  | reset next caller =>
    cases caller with
    | plain => trivial
    | awake | dimInterrupted | forceTimingOut => cases h
  | _ => trivial

theorem holds_of_darkens (h : stage.darkens = true) : stage.holds = true := by
  cases stage <;> first | rfl | cases h

theorem holds_of_dims (h : stage.dims = true) : stage.holds = true := by
  cases stage <;> first | rfl | cases h

theorem attends_of_darkens (h : stage.darkens = true) : Attends s stage := by
  cases stage <;> trivial

theorem attends_congr (htimeout : s'.timeout = s.timeout) (hoff : s'.off = s.off) :
    Attends s' stage ↔ Attends s stage := by
  have htask : ∀ r, s'.taskAvailable r = s.taskAvailable r := by
    intro r
    cases r <;> simp only [State.taskAvailable, htimeout, hoff]
  cases stage <;> simp only [Attends, htask, hoff]

/-! ## Who attends after a step -/

/-- After a step of one thread, a thread is the one that moved or is where it was. -/
theorem threads_cases {other : Nat} (hthreads : s'.threads = Function.update s.threads thread after)
    (hother : s'.threads other = some stage) :
    other = thread ∧ after = some stage ∨ other ≠ thread ∧ s.threads other = some stage := by
  rw [hthreads] at hother
  exact Lib.update_cases hother

theorem covered_of_attends (hthread : s.threads thread = some stage) (hattends : Attends s stage) : s.Covered :=
  .inr (.inr (.inr ⟨thread, stage, trivial, hthread, hattends⟩))

/-- The others attend as before while the timers and the time stay. -/
theorem State.CoveredBy.step (h : s.CoveredBy (· ≠ thread)) (htime : s'.displayOffTime = s.displayOffTime)
    (htimeout : s'.timeout = s.timeout) (hoff : s'.off = s.off)
    (hthreads : s'.threads = Function.update s.threads thread after) : s'.Covered := by
  obtain hnegative | hqueued | hqueued | ⟨other, stage, hne, hother, hattends⟩ := h
  · exact .inl (by rwa [htime])
  · exact .inr (.inl (by rwa [htimeout]))
  · exact .inr (.inr (.inl (by rwa [hoff])))
  · have hstays : s'.threads other = some stage := by
      rw [hthreads, Function.update_of_ne hne, hother]
    exact covered_of_attends hstays ((attends_congr htimeout hoff).mpr hattends)

/-- Somebody else attends, or the thread itself does. -/
theorem State.Covered.split (h : s.Covered) (thread : Nat) :
    s.CoveredBy (· ≠ thread) ∨ ∃ stage, s.threads thread = some stage ∧ Attends s stage := by
  obtain htime | htimeout | hoff | ⟨other, stage, -, hother, hattends⟩ := h
  · exact .inl (.inl htime)
  · exact .inl (.inr (.inl htimeout))
  · exact .inl (.inr (.inr (.inl hoff)))
  · by_cases hsame : other = thread
    · subst hsame
      exact .inr ⟨stage, hother, hattends⟩
    · exact .inl (.inr (.inr (.inr ⟨other, stage, hsame, hother, hattends⟩)))

/-- A step that leaves the locks alone does not make the screen less excused, unless `DIM` is near. -/
theorem State.Excused.step (h : s.Excused) (hthreads : s'.threads = Function.update s.threads thread after)
    (hlocks : s'.screenLocks = s.screenLocks) (hstate : s'.currentState = .dim → s.Dimming)
    (hdims : ∀ stage', after = some stage' → stage'.dims = true → s.Dimming)
    (hunlock : s.threads thread ≠ some .unlockState) : s'.Excused := by
  obtain ⟨hdimming, hheld⟩ := h
  refine ⟨fun hdimming' => ?_, ?_⟩
  · obtain hdim | ⟨other, stage, hother, hstage⟩ := hdimming'
    · exact hdimming (hstate hdim)
    · obtain ⟨-, hafter⟩ | ⟨-, hother⟩ := threads_cases hthreads hother
      · exact hdimming (hdims stage hafter hstage)
      · exact hdimming (.inr ⟨other, stage, hother, hstage⟩)
  · obtain hlocked | ⟨other, hother⟩ := hheld
    · exact .inl (by rwa [hlocks])
    · refine .inr ⟨other, ?_⟩
      have hne : other ≠ thread := by
        intro hsame
        subst hsame
        exact hunlock hother
      rw [hthreads, Function.update_of_ne hne, hother]

/-- Nothing that the invariant reads has changed, apart from the threads. -/
structure Unchanged (s s' : State) : Prop where
  currentState : s'.currentState = s.currentState
  display : s'.display = s.display
  stateMutex : s'.stateMutex = s.stateMutex
  displayOffTime : s'.displayOffTime = s.displayOffTime
  timeout : s'.timeout = s.timeout
  off : s'.off = s.off
  screenLocks : s'.screenLocks = s.screenLocks

theorem Unchanged.dimming (h : Unchanged s s') (hdim : s'.currentState = .dim) : s.Dimming :=
  .inl (h.currentState.symm.trans hdim)

/-- A thread moves on and leaves the rest alone: if it attended, it has to go on attending. -/
theorem covered_move (h : s.Covered ∨ s.Excused) (hsame : Unchanged s s') (hstage : s.threads thread = some stage)
    (hthreads : s'.threads = Function.update s.threads thread after) (hattends : Attends s stage → s'.Covered)
    (hdims : ∀ stage', after = some stage' → stage'.dims = true → s.Dimming)
    (hunlock : stage ≠ .unlockState) : s'.Covered ∨ s'.Excused := by
  obtain hcovered | hexcused := h
  · obtain hothers | ⟨stage', hstage', hits⟩ := hcovered.split thread
    · exact .inl (hothers.step hsame.displayOffTime hsame.timeout hsame.off hthreads)
    · cases hstage.symm.trans hstage'
      exact .inl (hattends hits)
  · refine .inr (hexcused.step hthreads hsame.screenLocks hsame.dimming hdims fun heq => ?_)
    cases hstage.symm.trans heq
    exact hunlock rfl

/-! ## The invariant after a step of one thread -/

/-- A step of a thread without the mutex, which leaves the state machine alone. -/
theorem Inv.outside (h : Inv s) (hout : ∀ stage, s.threads thread = some stage → stage.holds = false)
    (hthreads : s'.threads = Function.update s.threads thread after)
    (hafter : ∀ stage', after = some stage' → stage'.holds = false)
    (hstate : s'.currentState = s.currentState) (hdisplay : s'.display = s.display)
    (hmutex : s'.stateMutex = s.stateMutex) (hcovered : s.Lit → s'.Covered ∨ s'.Excused) : Inv s' := by
  have hother : ∀ other stage, s'.threads other = some stage → stage.holds = true →
      s.threads other = some stage := by
    intro other stage hstage hholds
    obtain ⟨-, hmoved⟩ | ⟨-, hstage⟩ := threads_cases hthreads hstage
    · rw [hafter stage hmoved] at hholds
      cases hholds
    · exact hstage
  refine ⟨?_, fun hinactive => ?_, fun hunlit => ?_, fun other stage hstage hdarkens => ?_,
    fun other stage hstage hholds => ?_, fun other stage hstage => ?_, fun hlit => hcovered ?_⟩
  · rw [State.Lit, hstate]
    exact h.known
  · rw [hdisplay]
    exact h.dark (hstate ▸ hinactive)
  · rw [State.isScreenOn, hdisplay] at hunlit
    obtain hinactive | ⟨other, stage, hstage, hdarkens⟩ := h.unlit hunlit
    · exact .inl (hstate.trans hinactive)
    · refine .inr ⟨other, stage, ?_, hdarkens⟩
      have hne : other ≠ thread := by
        intro hsame
        subst hsame
        cases (hout stage hstage).symm.trans (holds_of_darkens hdarkens)
      rw [hthreads, Function.update_of_ne hne, hstage]
  · rw [hdisplay]
    exact h.darkened other stage (hother other stage hstage (holds_of_darkens hdarkens)) hdarkens
  · rw [hmutex]
    exact h.mutex other stage (hother other stage hstage hholds) hholds
  · rw [hstate]
    cases hholds : stage.holds with
    | false => exact placed_of_not_holds _ hholds
    | true => exact h.placed other stage (hother other stage hstage hholds)
  · rwa [State.Lit, ← hstate]

/-- A step of the thread that has the mutex, and keeps it. -/
theorem Inv.inside {stage' : Stage} (h : Inv s) (hstage : s.threads thread = some stage) (hin : stage.holds = true)
    (hthreads : s'.threads = Function.update s.threads thread (some stage')) (hmutex : s'.stateMutex = s.stateMutex)
    (hknown : s'.Lit ∨ s'.currentState = .inactive) (hdark : s'.currentState = .inactive → s'.display = .off)
    (hunlit : s'.isScreenOn = false → s'.currentState = .inactive ∨ stage'.darkens = true)
    (hdarkened : stage'.darkens = true → s'.display = .off)
    (hplaced : Placed s'.currentState stage') (hcovered : s'.Lit → s'.Covered ∨ s'.Excused) : Inv s' := by
  have hheld := h.mutex thread stage hstage hin
  have hnobody : ∀ other other', other ≠ thread → s.threads other = some other' → other'.holds = false := by
    intro other other' hne hother
    refine Bool.eq_false_iff.mpr fun hholds => hne ?_
    exact Option.some.inj ((h.mutex other other' hother hholds).symm.trans hheld)
  refine ⟨hknown, hdark, fun hoff => ?_, fun other other' hother hdarkens => ?_,
    fun other other' hother hholds => ?_, fun other other' hother => ?_, hcovered⟩
  · refine (hunlit hoff).imp_right fun hdarkens => ⟨thread, stage', ?_, hdarkens⟩
    rw [hthreads, Function.update_self]
  · obtain ⟨-, hmoved⟩ | ⟨hne, hother⟩ := threads_cases hthreads hother
    · cases hmoved
      exact hdarkened hdarkens
    · cases (hnobody other other' hne hother).symm.trans (holds_of_darkens hdarkens)
  · rw [hmutex]
    obtain ⟨rfl, -⟩ | ⟨-, hother⟩ := threads_cases hthreads hother
    · exact hheld
    · exact h.mutex other other' hother hholds
  · obtain ⟨-, hmoved⟩ | ⟨hne, hother⟩ := threads_cases hthreads hother
    · cases hmoved
      exact hplaced
    · exact placed_of_not_holds _ (hnobody other other' hne hother)

/-- While a thread has the mutex and has not turned the display off itself, a dark display means
`INACTIVE`. -/
theorem Inv.unlit_of_holds (h : Inv s) (hstage : s.threads thread = some stage) (hin : stage.holds = true)
    (hdarkens : stage.darkens = false) (hoff : s.isScreenOn = false) : s.currentState = .inactive := by
  obtain hinactive | ⟨other, other', hother, hother'⟩ := h.unlit hoff
  · exact hinactive
  · have hsame : other = thread := by
      have hheld := h.mutex thread stage hstage hin
      exact Option.some.inj ((h.mutex other other' hother (holds_of_darkens hother')).symm.trans hheld)
    subst hsame
    cases hstage.symm.trans hother
    cases hdarkens.symm.trans hother'

theorem Inv.unchanged (h : Inv s) (hsame : Unchanged s s') (hthreads : s'.threads = s.threads) : Inv s' := by
  refine ⟨?_, ?_, ?_, ?_, ?_, ?_, fun hlit => ?_⟩
  · rw [State.Lit, hsame.currentState]
    exact h.known
  · rw [hsame.currentState, hsame.display]
    exact h.dark
  · rw [hsame.currentState, State.isScreenOn, hsame.display, hthreads]
    exact h.unlit
  · rw [hsame.display, hthreads]
    exact h.darkened
  · rw [hsame.stateMutex, hthreads]
    exact h.mutex
  · rw [hsame.currentState, hthreads]
    exact h.placed
  · rw [State.Lit, hsame.currentState] at hlit
    rcases h.covered hlit with
      (htime | htimeout | hoff | ⟨other, stage, -, hother, hattends⟩) | ⟨hdimming, hheld⟩
    · exact .inl (.inl (hsame.displayOffTime ▸ htime))
    · exact .inl (.inr (.inl (hsame.timeout ▸ htimeout)))
    · exact .inl (.inr (.inr (.inl (hsame.off ▸ hoff))))
    · exact .inl (covered_of_attends (hthreads ▸ hother) ((attends_congr hsame.timeout hsame.off).mpr hattends))
    · refine .inr ⟨?_, ?_⟩
      · rw [State.Dimming, hsame.currentState, hthreads]
        exact hdimming
      · rw [hsame.screenLocks, hthreads]
        exact hheld

theorem Inv.goto_outside {stage' : Stage} (h : Inv s) (hstage : s.threads thread = some stage)
    (hout : stage.holds = false) (hafter : stage'.holds = false) (hattends : Attends s stage → Attends s stage')
    (hunlock : stage ≠ .unlockState) : Inv (s.goto thread stage') := by
  have hold : ∀ other, s.threads thread = some other → other.holds = false := by
    intro other hother
    cases hstage.symm.trans hother
    exact hout
  have hnew : ∀ other, some stage' = some other → other.holds = false := by
    intro other hother
    cases hother
    exact hafter
  have hsame : Unchanged s (s.goto thread stage') := ⟨rfl, rfl, rfl, rfl, rfl, rfl, rfl⟩
  refine h.outside hold rfl hnew rfl rfl rfl fun hlit =>
    covered_move (h.covered hlit) hsame hstage rfl (fun hits => ?_) (fun other hother hdims => ?_) hunlock
  · refine covered_of_attends (State.goto_self ..) ?_
    exact (attends_congr rfl rfl).mpr (hattends hits)
  · cases (hnew other hother).symm.trans (holds_of_dims hdims)

/-- What the thread gives up, somebody else sees to. -/
theorem State.Spares.step (h : s.Spares thread) (hsame : Unchanged s s') (hlit : s.Lit)
    (hthreads : s'.threads = Function.update s.threads thread after)
    (hdims : ∀ stage', after = some stage' → stage'.dims = true → s.Dimming)
    (hunlock : s.threads thread ≠ some .unlockState) : s'.Covered ∨ s'.Excused := by
  obtain hothers | hexcused := h hlit
  · exact .inl (hothers.step hsame.displayOffTime hsame.timeout hsame.off hthreads)
  · exact .inr (hexcused.step hthreads hsame.screenLocks hsame.dimming hdims hunlock)

theorem Inv.done_outside (h : Inv s) (hstage : s.threads thread = some stage) (hout : stage.holds = false)
    (hspares : Attends s stage → s.Spares thread) (hunlock : stage ≠ .unlockState) : Inv (s.done thread) := by
  have hold : ∀ other, s.threads thread = some other → other.holds = false := by
    intro other hother
    cases hstage.symm.trans hother
    exact hout
  have hsame : Unchanged s (s.done thread) := ⟨rfl, rfl, rfl, rfl, rfl, rfl, rfl⟩
  have hno : s.threads thread ≠ some .unlockState := by
    rw [hstage]
    exact fun heq => hunlock (Option.some.inj heq)
  refine h.outside hold rfl nofun rfl rfl rfl fun hlit => ?_
  by_cases hits : Attends s stage
  · exact (hspares hits).step hsame hlit rfl nofun hno
  · exact covered_move (h.covered hlit) hsame hstage rfl (fun hattends => absurd hattends hits) nofun hunlock

theorem Inv.goto_inside {stage' : Stage} (h : Inv s) (hstage : s.threads thread = some stage)
    (hin : stage.holds = true) (hdarkens : stage'.darkens = stage.darkens)
    (hplaced : Placed s.currentState stage')
    (hattends : Attends s stage → Attends s stage' ∨ s.Spares thread)
    (hdims : stage'.dims = true → s.Dimming) : Inv (s.goto thread stage') := by
  have hsame : Unchanged s (s.goto thread stage') := ⟨rfl, rfl, rfl, rfl, rfl, rfl, rfl⟩
  have hnew : ∀ other, some stage' = some other → other.dims = true → s.Dimming := by
    intro other hother hother'
    cases hother
    exact hdims hother'
  have hno : stage ≠ .unlockState := by
    intro heq
    rw [heq] at hin
    cases hin
  refine h.inside hstage hin rfl rfl h.known h.dark (fun hoff => ?_) (fun hnew' => ?_) hplaced fun hlit => ?_
  · cases hold : stage.darkens with
    | false => exact .inl (h.unlit_of_holds hstage hin hold hoff)
    | true => exact .inr (hdarkens.trans hold)
  · exact h.darkened thread stage hstage (hdarkens.symm.trans hnew')
  · by_cases hits : Attends s stage
    · obtain hgoes | hspares := hattends hits
      · refine .inl (covered_of_attends (State.goto_self ..) ?_)
        exact (attends_congr rfl rfl).mpr hgoes
      · refine hspares.step hsame hlit rfl hnew ?_
        rw [hstage]
        exact fun heq => hno (Option.some.inj heq)
    · exact covered_move (h.covered hlit) hsame hstage rfl (fun hattends => absurd hattends hits) hnew hno

/-- A step of a thread without the mutex after which it attends, whatever it has done to the timers. -/
theorem Inv.attends_outside {stage' : Stage} (h : Inv s)
    (hout : ∀ stage, s.threads thread = some stage → stage.holds = false)
    (hthreads : s'.threads = Function.update s.threads thread (some stage'))
    (hafter : stage'.holds = false) (hstate : s'.currentState = s.currentState) (hdisplay : s'.display = s.display)
    (hmutex : s'.stateMutex = s.stateMutex) (hattends : Attends s' stage') : Inv s' := by
  refine h.outside hout hthreads (fun other hother => ?_) hstate hdisplay hmutex fun _ => .inl ?_
  · cases hother
    exact hafter
  · have hgoes : s'.threads thread = some stage' := by
      rw [hthreads, Function.update_self]
    exact covered_of_attends hgoes hattends

/-! ## Steps outside `stateMutex_` -/

theorem inv_refresh (h : Inv s) (hthread : s.threads thread = some stage)
    (hstage : stage = .refreshScreenOn ∨ stage = .refreshSettingInactive ∨ stage = .refreshState ∨
      stage = .refreshSettingDim)
    (hnext : advance cfg s thread stage = some s') : Inv s' := by
  obtain rfl | rfl | rfl | rfl := hstage <;> simp only [advance, Option.some.injEq] at hnext <;>
    subst hnext <;> split
  all_goals first
    | exact h.done_outside hthread rfl False.elim nofun
    | exact h.goto_outside hthread rfl rfl False.elim nofun

/-- The store to `displayOffTime_`: a thread that replaces a negative time takes care of the timer. -/
theorem inv_storeDisplayOffTime {time : Int} (h : Inv s)
    (hthread : s.threads thread = some (.storeDisplayOffTime time)) :
    Inv ({ s with displayOffTime := time }.goto thread
      (.displayOffTimeStored (decide (s.displayOffTime < 0 ∧ 0 ≤ time)))) := by
  have hout : ∀ stage, s.threads thread = some stage → stage.holds = false := by
    intro stage hstage
    cases hthread.symm.trans hstage
    rfl
  refine h.outside hout rfl (fun other hother => by cases hother; rfl) rfl rfl rfl fun hlit => ?_
  by_cases hnegative : time < 0
  · exact .inl (.inl hnegative)
  · by_cases hbefore : s.displayOffTime < 0
    · refine .inl (covered_of_attends (State.goto_self ..) ?_)
      exact decide_eq_true ⟨hbefore, Int.not_lt.mp hnegative⟩
    · -- the time plays no part before or after
      obtain hcovered | hexcused := h.covered hlit
      · obtain htime | htimeout | hoff | ⟨other, stage, -, hother, hattends⟩ := hcovered
        · exact absurd htime hbefore
        · exact .inl (.inr (.inl htimeout))
        · exact .inl (.inr (.inr (.inl hoff)))
        · have hne : other ≠ thread := by
            intro hsame
            subst hsame
            cases hthread.symm.trans hother
            exact hattends
          have hstays := (State.goto_ne { s with displayOffTime := time }
            (.displayOffTimeStored (decide (s.displayOffTime < 0 ∧ 0 ≤ time))) hne).trans hother
          exact .inl (covered_of_attends hstays ((attends_congr rfl rfl).mpr hattends))
      · refine .inr (hexcused.step (State.goto_threads ..) rfl (fun hdim => .inl hdim)
          (fun other hother hdims => ?_) ?_)
        · cases hother
          cases hdims
        · rw [hthread]
          exact nofun

/-- The check of `currentState_` by a thread that has stored a time. -/
theorem inv_displayOffTimeStored {overNegative : Bool} (h : Inv s)
    (hthread : s.threads thread = some (.displayOffTimeStored overNegative)) (hok : Careful s (.advance thread))
    (hnext : advance cfg s thread (.displayOffTimeStored overNegative) = some s') : Inv s' := by
  simp only [advance, Option.some.injEq] at hnext
  subst hnext
  split
  · exact h.goto_outside hthread rfl rfl (fun _ => trivial) nofun
  · rename_i hstate
    refine h.done_outside hthread rfl (fun hover hlit => ?_) nofun
    have hover : overNegative = true := hover
    subst hover
    simp only [Careful, hthread] at hok
    exact hok (hlit.resolve_left hstate) hlit

theorem inv_force (h : Inv s) (hthread : s.threads thread = some stage)
    (hstage : (∃ enabled, stage = .forceLockActive enabled) ∨
      (∃ enabled active, stage = .forceExchange enabled active) ∨ ∃ enabled, stage = .forceSettingDim enabled)
    (hnext : advance cfg s thread stage = some s') : Inv s' := by
  obtain ⟨enabled, rfl⟩ | ⟨enabled, active, rfl⟩ | ⟨enabled, rfl⟩ := hstage
  · simp only [advance, Option.some.injEq] at hnext
    subst hnext
    exact h.goto_outside hthread rfl rfl False.elim nofun
  · simp only [advance, Option.some.injEq] at hnext
    subst hnext
    have hsame : Unchanged s { s with forceTimingOut := enabled } := ⟨rfl, rfl, rfl, rfl, rfl, rfl, rfl⟩
    have hset := h.unchanged hsame rfl
    split
    · exact hset.done_outside hthread rfl False.elim nofun
    · exact hset.goto_outside hthread rfl rfl False.elim nofun
  · simp only [advance, Option.some.injEq] at hnext
    subst hnext
    split
    · exact h.done_outside hthread rfl False.elim nofun
    · cases enabled <;> exact h.goto_outside hthread rfl rfl False.elim nofun

/-- The last unlock: in `AWAKE` it sets the timer, and in `DIM` it was no excuse. -/
theorem inv_unlockState (h : Inv s) (hthread : s.threads thread = some .unlockState)
    (hnext : advance cfg s thread .unlockState = some s') : Inv s' := by
  have hout : ∀ stage, s.threads thread = some stage → stage.holds = false := by
    intro stage hstage
    cases hthread.symm.trans hstage
    rfl
  simp only [advance, Option.some.injEq] at hnext
  subst hnext
  split
  · exact h.attends_outside hout rfl rfl rfl rfl rfl trivial
  · rename_i hstate
    refine h.outside hout rfl nofun rfl rfl rfl fun hlit => ?_
    obtain hcovered | ⟨hdimming, -⟩ := h.covered hlit
    · obtain hothers | ⟨stage, hstage, hits⟩ := hcovered.split thread
      · exact .inl (hothers.step rfl rfl rfl (State.done_threads ..))
      · cases hthread.symm.trans hstage
        exact hits.elim
    · exact absurd (.inl (hlit.resolve_left hstate)) hdimming

theorem inv_reboot (h : Inv s) (hthread : s.threads thread = some stage)
    (hstage : stage = .rebootCancelTimeout ∨ stage = .rebootCancelOff ∨ stage = .rebootStart ∨
      stage = .rebootTakenOver)
    (hok : Careful s (.advance thread)) (hnext : advance cfg s thread stage = some s') : Inv s' := by
  have hout : ∀ other, s.threads thread = some other → other.holds = false := by
    intro other hother
    cases hthread.symm.trans hother
    obtain rfl | rfl | rfl | rfl := hstage <;> rfl
  have hunlock : s.threads thread ≠ some .unlockState := by
    rw [hthread]
    obtain rfl | rfl | rfl | rfl := hstage <;> exact nofun
  obtain rfl | rfl | rfl | rfl := hstage <;> simp only [advance, Option.some.injEq] at hnext <;> subst hnext
  · simp only [Careful, hthread] at hok
    obtain hidle | hspares := hok
    · have hsame : Unchanged s { s with timeout := .idle } := ⟨rfl, rfl, rfl, rfl, hidle.symm, rfl, rfl⟩
      exact (h.unchanged hsame rfl).goto_outside hthread rfl rfl False.elim nofun
    · refine h.outside hout rfl (fun other hother => by cases hother; rfl) rfl rfl rfl fun hlit => ?_
      exact hspares.step ⟨rfl, rfl, rfl, rfl, rfl, rfl, rfl⟩ hlit (State.goto_threads ..)
        (fun other hother hdims => by cases hother; cases hdims) hunlock
  · simp only [Careful, hthread] at hok
    obtain hidle | hspares := hok
    · have hsame : Unchanged s { s with off := .idle } := ⟨rfl, rfl, rfl, rfl, rfl, hidle.symm, rfl⟩
      exact (h.unchanged hsame rfl).goto_outside hthread rfl rfl False.elim nofun
    · refine h.outside hout rfl (fun other hother => by cases hother; rfl) rfl rfl rfl fun hlit => ?_
      exact hspares.step ⟨rfl, rfl, rfl, rfl, rfl, rfl, rfl⟩ hlit (State.goto_threads ..)
        (fun other hother hdims => by cases hother; cases hdims) hunlock
  · split
    · exact h.done_outside hthread rfl False.elim nofun
    · have hsame : Unchanged s { s with started := true } := ⟨rfl, rfl, rfl, rfl, rfl, rfl, rfl⟩
      exact (h.unchanged hsame rfl).goto_outside hthread rfl rfl False.elim nofun
  · have hsame : Unchanged s { s with started := false } := ⟨rfl, rfl, rfl, rfl, rfl, rfl, rfl⟩
    exact (h.unchanged hsame rfl).done_outside hthread rfl False.elim nofun

/-- The task of `OFF` before its request; if it finds the display off already, whoever has turned it
off goes on to `INACTIVE`. -/
theorem inv_offTask {task : Nat} (h : Inv s) (hthread : s.threads thread = some stage)
    (hstage : stage = .offShuttingDown task ∨ stage = .offScreenOn task) (hok : Careful s (.advance thread))
    (hnext : advance cfg s thread stage = some s') : Inv s' := by
  obtain rfl | rfl := hstage <;> simp only [advance, Option.some.injEq] at hnext <;> subst hnext
  · split
    · rename_i hstarted
      simp only [Careful, hthread] at hok
      exact h.done_outside hthread rfl (hok hstarted) nofun
    · exact h.goto_outside hthread rfl rfl id nofun
  · split
    · exact h.goto_outside hthread rfl rfl (fun hown => ⟨rfl, decide_eq_true hown⟩) nofun
    · rename_i hscreen
      refine h.done_outside hthread rfl (fun _ hlit => .inl ?_) nofun
      obtain hinactive | ⟨other, other', hother, hdarkens⟩ := h.unlit (Bool.eq_false_iff.mpr hscreen)
      · obtain hlit | hlit := hlit <;> cases hinactive.symm.trans hlit
      · refine .inr (.inr (.inr ⟨other, other', fun hsame => ?_, hother, attends_of_darkens hdarkens⟩))
        subst hsame
        cases hthread.symm.trans hother
        cases hdarkens

/-! ## `stateMutex_` -/

theorem Inv.acquire {stage' : Stage} (h : Inv s) (hfree : s.stateMutex = none)
    (hthread : s.threads thread = some stage) (hplaced : Placed s.currentState stage')
    (hdims : stage'.dims = false) (hnew : stage'.darkens = false)
    (hattends : Attends s stage → Attends s stage') (hunlock : stage ≠ .unlockState) :
    Inv ({ s with stateMutex := some thread }.goto thread stage') := by
  have hnobody : ∀ other other', s.threads other = some other' → other'.holds = false := by
    intro other other' hother
    refine Bool.eq_false_iff.mpr fun hholds => ?_
    cases hfree.symm.trans (h.mutex other other' hother hholds)
  have hno : s.threads thread ≠ some .unlockState := by
    rw [hthread]
    exact fun heq => hunlock (Option.some.inj heq)
  have hmove : ∀ other other', ({ s with stateMutex := some thread }.goto thread stage').threads other = some other' →
      other = thread ∧ some stage' = some other' ∨ other ≠ thread ∧ s.threads other = some other' :=
    fun other other' hother => threads_cases (State.goto_threads ..) hother
  refine ⟨h.known, h.dark, fun hunlit => ?_, fun other other' hother hdarkens => ?_,
    fun other other' hother hholds => ?_, fun other other' hother => ?_, fun hlit => ?_⟩
  · obtain hinactive | ⟨other, other', hother, hdarkens⟩ := h.unlit hunlit
    · exact .inl hinactive
    · cases (hnobody other other' hother).symm.trans (holds_of_darkens hdarkens)
  · obtain ⟨-, hmoved⟩ | ⟨-, hother⟩ := hmove other other' hother
    · cases hmoved
      cases hnew.symm.trans hdarkens
    · cases (hnobody other other' hother).symm.trans (holds_of_darkens hdarkens)
  · obtain ⟨rfl, -⟩ | ⟨-, hother⟩ := hmove other other' hother
    · rfl
    · cases (hnobody other other' hother).symm.trans hholds
  · obtain ⟨-, hmoved⟩ | ⟨-, hother⟩ := hmove other other' hother
    · cases hmoved
      exact hplaced
    · exact h.placed other other' hother
  · obtain hcovered | hexcused := h.covered hlit
    · obtain hothers | ⟨other, hother, hits⟩ := hcovered.split thread
      · exact .inl (hothers.step rfl rfl rfl (State.goto_threads ..))
      · cases hthread.symm.trans hother
        refine .inl (covered_of_attends (State.goto_self ..) ?_)
        exact (attends_congr rfl rfl).mpr (hattends hits)
    · refine .inr (hexcused.step (State.goto_threads ..) rfl (fun hdim => .inl hdim)
        (fun other hother hdims' => ?_) hno)
      cases hother
      cases hdims.symm.trans hdims'

/-- The thread that has the mutex gives it back and has finished. -/
theorem inv_release (h : Inv s) (hthread : s.threads thread = some .release) :
    Inv ({ s with stateMutex := none }.done thread) := by
  have hheld := h.mutex thread .release hthread rfl
  have hold : ∀ other other', ({ s with stateMutex := none }.done thread).threads other = some other' →
      other ≠ thread ∧ s.threads other = some other' := by
    intro other other' hother
    obtain ⟨-, hnone⟩ | hold := threads_cases (State.done_threads ..) hother
    · cases hnone
    · exact hold
  refine ⟨h.known, h.dark, fun hunlit => .inl (h.unlit_of_holds hthread rfl rfl hunlit),
    fun other other' hother => h.darkened other other' (hold other other' hother).2,
    fun other other' hother hholds => ?_, fun other other' hother => ?_, fun hlit => ?_⟩
  · obtain ⟨hne, hother'⟩ := hold other other' hother
    cases hheld.symm.trans (h.mutex other other' hother' hholds)
    exact absurd rfl hne
  · exact h.placed other other' (hold other other' hother).2
  · obtain hcovered | hexcused := h.covered hlit
    · obtain hothers | ⟨other, hother, hits⟩ := hcovered.split thread
      · exact .inl (hothers.step rfl rfl rfl (State.done_threads ..))
      · cases hthread.symm.trans hother
        exact hits.elim
    · refine .inr (hexcused.step (State.done_threads ..) rfl (fun hdim => .inl hdim) nofun ?_)
      rw [hthread]
      exact nofun

/-! ## `TransitTo` up to the action -/

/-- Nothing is admitted in `INACTIVE`, and no request for `DIM` in `DIM`. -/
theorem not_admits_inactive (r : Request) (force : Bool) (hstate : s.currentState = .inactive) :
    s.admits r force = false := by
  cases r <;> simp [State.admits, Request.state, Request.reason, hstate, checkState, canTransitTo, forbidMap,
    allowMapByReason]

theorem not_admits_dim (task : Nat) (force : Bool) (hstate : s.currentState = .dim) :
    s.admits (.dim task) force = false := by
  simp [State.admits, Request.state, Request.reason, hstate, canTransitTo, forbidMap, allowMapByReason]

/-- In `AWAKE` only a lock stands in the way of a timer. -/
theorem locked_of_not_admits {r : Request} {force : Bool} (hstate : s.currentState = .awake)
    (htimed : r.timed = true) (hrefused : s.admits r force = false) : 0 < s.screenLocks := by
  cases r with
  | dim task =>
    simp [State.admits, Request.state, Request.reason, hstate, checkState, canTransitTo, forbidMap,
      allowMapByReason, wakeupSuppressed, checkRunningLock, lockMap, State.answers] at hrefused
    omega
  | inactive task =>
    simp [State.admits, Request.state, Request.reason, hstate, checkState, canTransitTo, forbidMap,
      allowMapByReason, wakeupSuppressed, checkRunningLock, lockMap, State.answers] at hrefused
    omega
  | awake force => cases htimed

theorem Inv.matched_eq {r : Request} {force : Bool} (h : Inv s)
    (hthread : s.threads thread = some (.transit r force)) : s.matched r = s := by
  have hstate : matchState r.state s.currentState s.display = s.currentState := by
    obtain (hawake | hdim) | hinactive := h.known
    · have hdisplay : s.display ≠ .off := by
        intro hoff
        have hunlit : s.isScreenOn = false := by
          rw [State.isScreenOn, hoff]
          rfl
        cases hawake.symm.trans (h.unlit_of_holds hthread rfl rfl hunlit)
      rw [hawake]
      cases r <;> cases hd : s.display <;> first | rfl | exact absurd hd hdisplay
    · rw [hdim]
      cases r <;> cases s.display <;> rfl
    · rw [hinactive, h.dark hinactive]
      cases r <;> rfl
  rw [State.matched, hstate]

/-- Nobody else is about to store `DIM` while a thread has the mutex. -/
theorem Inv.not_dimming (h : Inv s) (hthread : s.threads thread = some stage) (hin : stage.holds = true)
    (hdims : stage.dims = false) (hstate : s.currentState ≠ .dim) : ¬s.Dimming := by
  rintro (hdim | ⟨other, other', hother, hother'⟩)
  · exact hstate hdim
  · have hsame : other = thread := by
      have hheld := h.mutex thread stage hthread hin
      exact Option.some.inj ((h.mutex other other' hother (holds_of_dims hother')).symm.trans hheld)
    subst hsame
    cases hthread.symm.trans hother
    cases hdims.symm.trans hother'

theorem inv_transit {r : Request} {force : Bool} (h : Inv s) (hthread : s.threads thread = some (.transit r force))
    (hok : Careful s (.advance thread)) (hnext : advance cfg s thread (.transit r force) = some s') : Inv s' := by
  simp only [advance, h.matched_eq hthread, Option.some.injEq] at hnext
  subst hnext
  split
  · rename_i hadmits
    have hlit : s.currentState ≠ .inactive := by
      intro hinactive
      cases (not_admits_inactive r force hinactive).symm.trans hadmits
    have hplaced := h.known.resolve_right hlit
    cases r with
    | dim task =>
      have hawake : s.currentState = .awake := by
        refine hplaced.resolve_right fun hdim => ?_
        cases (not_admits_dim task force hdim).symm.trans hadmits
      exact h.goto_inside hthread rfl rfl hawake (fun _ => .inl trivial) nofun
    | inactive task => exact h.goto_inside hthread rfl rfl hplaced (fun _ => .inl trivial) nofun
    | awake forced => exact h.goto_inside hthread rfl rfl hplaced nofun nofun
  · rename_i hrefused
    have hrefused := Bool.eq_false_iff.mpr hrefused
    refine h.goto_inside hthread rfl rfl trivial (fun htimed => .inr fun hlit => ?_) nofun
    by_cases hdim : s.currentState = .dim
    · simp only [Careful, hthread] at hok
      exact hok hdim hrefused hlit
    · -- the lock that refused the request excuses the screen
      have hlocked := locked_of_not_admits (hlit.resolve_right hdim) htimed hrefused
      exact .inr ⟨h.not_dimming hthread rfl rfl hdim, .inl hlocked⟩

/-! ## The actions -/

/-- A step of an action that leaves the state and the display alone, whatever it does to the timers. -/
theorem Inv.action_step {stage' : Stage} (h : Inv s) (hthread : s.threads thread = some stage)
    (hin : stage.holds = true) (hthreads : s'.threads = Function.update s.threads thread (some stage'))
    (hdarkens : stage'.darkens = stage.darkens) (hmutex : s'.stateMutex = s.stateMutex)
    (hstate : s'.currentState = s.currentState) (hdisplay : s'.display = s.display)
    (hplaced : Placed s.currentState stage') (hcovered : s'.Covered) : Inv s' := by
  refine h.inside hthread hin hthreads hmutex ?_ ?_ (fun hunlit => ?_) (fun hnew => ?_) (hstate ▸ hplaced)
    fun _ => .inl hcovered
  · rw [State.Lit, hstate]
    exact h.known
  · rw [hstate, hdisplay]
    exact h.dark
  · rw [State.isScreenOn, hdisplay] at hunlit
    rw [hstate]
    cases hold : stage.darkens with
    | false => exact .inl (h.unlit_of_holds hthread hin hold hunlit)
    | true => exact .inr (hdarkens.trans hold)
  · rw [hdisplay]
    exact h.darkened thread stage hthread (hdarkens.symm.trans hnew)

theorem inv_dim (h : Inv s) (hthread : s.threads thread = some stage)
    (hstage : stage = .dimCheck ∨ stage = .dimDisplay ∨ stage = .dimCancelTimeout ∨ stage = .dimCancelOff ∨
      stage = .dimDisplayOffTime ∨ stage = .dimSetOff)
    (hnext : advance cfg s thread stage = some s') : Inv s' := by
  have hplaced := h.placed thread stage hthread
  obtain rfl | rfl | rfl | rfl | rfl | rfl := hstage <;> simp only [advance, Option.some.injEq] at hnext <;>
    subst hnext
  · split
    · rename_i hnegative
      exact h.goto_inside hthread rfl rfl trivial (fun _ => .inr fun _ => .inl (.inl hnegative.2)) nofun
    · exact h.goto_inside hthread rfl rfl hplaced (fun _ => .inl trivial) nofun
  · have hawake : s.currentState = .awake := hplaced
    refine h.inside hthread rfl rfl rfl h.known (fun hinactive => ?_) nofun nofun hplaced fun _ => .inl ?_
    · cases hawake.symm.trans hinactive
    · exact covered_of_attends (State.goto_self ..) trivial
  · exact h.action_step hthread rfl rfl rfl rfl rfl rfl hplaced (covered_of_attends (State.goto_self ..) trivial)
  · exact h.action_step hthread rfl rfl rfl rfl rfl rfl hplaced (covered_of_attends (State.goto_self ..) trivial)
  · split
    · rename_i hnegative
      exact h.action_step hthread rfl rfl rfl rfl rfl rfl hplaced (.inl hnegative)
    · exact h.goto_inside hthread rfl rfl hplaced (fun _ => .inl trivial) nofun
  · exact h.action_step hthread rfl rfl rfl rfl rfl rfl hplaced (.inr (.inr (.inl rfl)))

/-- `DIM` is stored, or the display is turned on again. -/
theorem inv_dimCommit (h : Inv s) (hthread : s.threads thread = some stage)
    (hstage : stage = .dimFlag ∨ stage = .dimCommit) (hnext : advance cfg s thread stage = some s') : Inv s' := by
  have hplaced := h.placed thread stage hthread
  obtain rfl | rfl := hstage <;> simp only [advance, Option.some.injEq] at hnext <;> subst hnext
  all_goals have hawake : s.currentState = .awake := hplaced
  · split
    · refine h.inside hthread rfl rfl rfl h.known (fun hinactive => ?_) nofun nofun hplaced fun _ => .inl ?_
      · cases hawake.symm.trans hinactive
      · exact covered_of_attends (State.goto_self ..) trivial
    · exact h.goto_inside hthread rfl rfl hplaced False.elim fun _ => .inr ⟨thread, .dimFlag, hthread, rfl⟩
  · refine h.inside hthread rfl rfl rfl (.inl (.inr rfl)) nofun (fun hunlit => ?_) nofun trivial fun _ => .inl ?_
    · cases hawake.symm.trans (h.unlit_of_holds hthread rfl rfl hunlit)
    · -- no lock was an excuse any more
      obtain hcovered | ⟨hdimming, -⟩ := h.covered (.inl hawake)
      · obtain hothers | ⟨other, hother, hits⟩ := hcovered.split thread
        · exact hothers.step rfl rfl rfl (State.goto_threads ..)
        · cases hthread.symm.trans hother
          exact hits.elim
      · exact absurd (.inr ⟨thread, .dimCommit, hthread, rfl⟩) hdimming

theorem inv_inactive (h : Inv s) (hthread : s.threads thread = some stage)
    (hstage : stage = .inactiveDisplay ∨ stage = .inactiveCancelTimeout ∨ stage = .inactiveCancelOff ∨
      stage = .inactiveCommit)
    (hnext : advance cfg s thread stage = some s') : Inv s' := by
  have hplaced := h.placed thread stage hthread
  obtain rfl | rfl | rfl | rfl := hstage <;> simp only [advance, Option.some.injEq] at hnext <;> subst hnext
  · refine h.inside hthread rfl rfl rfl h.known (fun _ => rfl) (fun _ => .inr rfl) (fun _ => rfl) hplaced
      fun _ => .inl ?_
    exact covered_of_attends (State.goto_self ..) trivial
  · exact h.action_step hthread rfl rfl rfl rfl rfl rfl hplaced (covered_of_attends (State.goto_self ..) trivial)
  · exact h.action_step hthread rfl rfl rfl rfl rfl rfl hplaced (covered_of_attends (State.goto_self ..) trivial)
  · have hoff := h.darkened thread _ hthread rfl
    refine h.inside hthread rfl rfl rfl (.inr rfl) (fun _ => hoff) (fun _ => .inl rfl) nofun trivial fun hlit => ?_
    obtain hlit | hlit := hlit <;> cases hlit

theorem inv_awake (h : Inv s) (hthread : s.threads thread = some stage)
    (hstage : stage = .awakeDisplay ∨ stage = .awakeCommit) (hnext : advance cfg s thread stage = some s') :
    Inv s' := by
  have hplaced := h.placed thread stage hthread
  obtain rfl | rfl := hstage <;> simp only [advance, Option.some.injEq] at hnext <;> subst hnext
  all_goals have hlit : s.Lit := hplaced
  · refine h.inside hthread rfl rfl rfl h.known (fun hinactive => ?_) nofun nofun hplaced fun _ => .inl ?_
    · obtain hlit | hlit := hlit <;> cases hlit.symm.trans hinactive
    · exact covered_of_attends (State.goto_self ..) trivial
  · refine h.inside hthread rfl rfl rfl (.inl (.inl rfl)) nofun (fun hunlit => ?_) nofun trivial fun _ => ?_
    · have hinactive := h.unlit_of_holds hthread rfl rfl hunlit
      obtain hlit | hlit := hlit <;> cases hlit.symm.trans hinactive
    · obtain hcovered | hexcused := h.covered hlit
      · obtain hothers | ⟨other, hother, hits⟩ := hcovered.split thread
        · exact .inl (hothers.step rfl rfl rfl (State.goto_threads ..))
        · cases hthread.symm.trans hother
          exact hits.elim
      · refine .inr (hexcused.step (State.goto_threads ..) rfl nofun (fun other hother hdims => ?_) ?_)
        · cases hother
          cases hdims
        · rw [hthread]
          exact nofun

/-! ## `ResetInactiveTimer` -/

/-- `ResetInactiveTimer` goes on, and its caller attends. -/
theorem inv_reset_next {access access' : Reset} {caller : ResetCaller} (h : Inv s)
    (hthread : s.threads thread = some (.reset access caller))
    (hthreads : s'.threads = Function.update s.threads thread (some (.reset access' caller)))
    (hstate : s'.currentState = s.currentState) (hdisplay : s'.display = s.display)
    (hmutex : s'.stateMutex = s.stateMutex) : Inv s' := by
  have hplaced := h.placed thread _ hthread
  have hgoes : s'.threads thread = some (.reset access' caller) := by
    rw [hthreads, Function.update_self]
  have hattends : s'.Covered := covered_of_attends hgoes trivial
  cases caller with
  | plain =>
    refine h.attends_outside (fun other hother => ?_) hthreads rfl hstate hdisplay hmutex trivial
    cases hthread.symm.trans hother
    rfl
  | awake => exact h.action_step hthread rfl hthreads rfl hmutex hstate hdisplay hplaced hattends
  | dimInterrupted => exact h.action_step hthread rfl hthreads rfl hmutex hstate hdisplay hplaced hattends
  | forceTimingOut => exact h.action_step hthread rfl hthreads rfl hmutex hstate hdisplay hplaced hattends

/-- `ResetInactiveTimer` has ended: the timer is set, or the display never goes off. -/
theorem inv_resetOver {access : Reset} {caller : ResetCaller} {t : State} (h : Inv s)
    (hthread : s.threads thread = some (.reset access caller)) (hthreads : t.threads = s.threads)
    (hstate : t.currentState = s.currentState) (hdisplay : t.display = s.display)
    (hmutex : t.stateMutex = s.stateMutex) (hset : t.displayOffTime < 0 ∨ t.timeout.isQueued = true) :
    Inv (t.resetOver thread caller) := by
  have hplaced := h.placed thread _ hthread
  have hcovered : ∀ u : State, u.displayOffTime = t.displayOffTime → u.timeout = t.timeout → u.Covered := by
    intro u htime htimeout
    obtain hnegative | hqueued := hset
    · exact .inl (htime ▸ hnegative)
    · exact .inr (.inl (htimeout ▸ hqueued))
  have hgoto : ∀ stage', (t.goto thread stage').threads = Function.update s.threads thread (some stage') := by
    intro stage'
    rw [← hthreads]
    rfl
  cases caller with
  | plain =>
    have hdone : (t.done thread).threads = Function.update s.threads thread none := by
      rw [← hthreads]
      rfl
    refine h.outside (fun other hother => ?_) hdone nofun hstate hdisplay hmutex fun _ => .inl (hcovered _ rfl rfl)
    cases hthread.symm.trans hother
    rfl
  | awake =>
    exact h.action_step hthread rfl (hgoto .awakeCommit) rfl hmutex hstate hdisplay hplaced (hcovered _ rfl rfl)
  | dimInterrupted =>
    exact h.action_step hthread rfl (hgoto .restoreFlag) rfl hmutex hstate hdisplay trivial (hcovered _ rfl rfl)
  | forceTimingOut =>
    exact h.action_step hthread rfl (hgoto .release) rfl hmutex hstate hdisplay trivial (hcovered _ rfl rfl)

theorem inv_reset {access : Reset} {caller : ResetCaller} (h : Inv s)
    (hthread : s.threads thread = some (.reset access caller)) : Inv (advanceReset cfg s thread caller access) := by
  cases access with
  | flag => exact inv_reset_next h hthread rfl rfl rfl rfl
  | cancelTimeout => exact inv_reset_next h hthread rfl rfl rfl rfl
  | cancelOff => exact inv_reset_next h hthread rfl rfl rfl rfl
  | displayOffTime =>
    simp only [advanceReset]
    split
    · rename_i hnegative
      exact inv_resetOver h hthread rfl rfl rfl rfl (.inl hnegative.1)
    · exact inv_reset_next h hthread rfl rfl rfl rfl
  | setTimeout => exact inv_resetOver h hthread rfl rfl rfl rfl (.inr rfl)

/-! ## All steps -/

theorem inv_setState (h : Inv s) (hthread : s.threads thread = some stage)
    (hstage : stage = .forceTryLock ∨ stage = .forceState ∨ (∃ r, stage = .request r) ∨
      (∃ r, stage = .available r) ∨ (∃ r, stage = .settingFlag r) ∨ (∃ r, stage = .timingOut r) ∨ stage = .restoreFlag)
    (hnext : advance cfg s thread stage = some s') : Inv s' := by
  obtain rfl | rfl | ⟨r, rfl⟩ | ⟨r, rfl⟩ | ⟨r, rfl⟩ | ⟨r, rfl⟩ | rfl := hstage
  · simp only [advance, Option.some.injEq] at hnext
    subst hnext
    split
    · rename_i hfree
      exact h.acquire hfree hthread trivial rfl rfl False.elim nofun
    · exact h.done_outside hthread rfl False.elim nofun
  · simp only [advance, Option.some.injEq] at hnext
    subst hnext
    split
    · exact h.goto_inside hthread rfl rfl trivial False.elim nofun
    · exact h.goto_inside hthread rfl rfl trivial False.elim nofun
  · simp only [advance, Option.ite_none_right_eq_some, Option.some.injEq] at hnext
    obtain ⟨hfree, rfl⟩ := hnext
    exact h.acquire hfree hthread trivial rfl rfl id nofun
  · simp only [advance, Option.some.injEq] at hnext
    subst hnext
    split
    · exact h.goto_inside hthread rfl rfl trivial (fun hits => .inl hits.1) nofun
    · rename_i hstale
      exact h.goto_inside hthread rfl rfl trivial (fun hits => absurd hits.2 hstale) nofun
  · simp only [advance, Option.some.injEq] at hnext
    subst hnext
    have hsame : Unchanged s { s with settingStateFlag := .setting r.state } := ⟨rfl, rfl, rfl, rfl, rfl, rfl, rfl⟩
    exact (h.unchanged hsame rfl).goto_inside hthread rfl rfl trivial .inl nofun
  · simp only [advance, Option.some.injEq] at hnext
    subst hnext
    exact h.goto_inside hthread rfl rfl trivial .inl nofun
  · simp only [advance, Option.some.injEq] at hnext
    subst hnext
    have hsame : Unchanged s { s with settingStateFlag := .none } := ⟨rfl, rfl, rfl, rfl, rfl, rfl, rfl⟩
    exact (h.unchanged hsame rfl).goto_inside hthread rfl rfl trivial False.elim nofun

theorem inv_advance (h : Inv s) (hthread : s.threads thread = some stage) (hok : Careful s (.advance thread))
    (hnext : advance cfg s thread stage = some s') : Inv s' := by
  cases stage with
  | refreshScreenOn => exact inv_refresh h hthread (.inl rfl) hnext
  | refreshSettingInactive => exact inv_refresh h hthread (.inr (.inl rfl)) hnext
  | refreshState => exact inv_refresh h hthread (.inr (.inr (.inl rfl))) hnext
  | refreshSettingDim => exact inv_refresh h hthread (.inr (.inr (.inr rfl))) hnext
  | storeDisplayOffTime time =>
    cases hnext
    exact inv_storeDisplayOffTime h hthread
  | displayOffTimeStored overNegative => exact inv_displayOffTimeStored h hthread hok hnext
  | forceLockActive enabled => exact inv_force h hthread (.inl ⟨_, rfl⟩) hnext
  | forceExchange enabled lockActive => exact inv_force h hthread (.inr (.inl ⟨_, _, rfl⟩)) hnext
  | forceSettingDim enabled => exact inv_force h hthread (.inr (.inr ⟨_, rfl⟩)) hnext
  | forceTryLock => exact inv_setState h hthread (.inl rfl) hnext
  | forceState => exact inv_setState h hthread (.inr (.inl rfl)) hnext
  | unlockState => exact inv_unlockState h hthread hnext
  | rebootCancelTimeout => exact inv_reboot h hthread (.inl rfl) hok hnext
  | rebootCancelOff => exact inv_reboot h hthread (.inr (.inl rfl)) hok hnext
  | rebootStart => exact inv_reboot h hthread (.inr (.inr (.inl rfl))) hok hnext
  | rebootTakenOver => exact inv_reboot h hthread (.inr (.inr (.inr rfl))) hok hnext
  | offShuttingDown task => exact inv_offTask h hthread (.inl rfl) hok hnext
  | offScreenOn task => exact inv_offTask h hthread (.inr rfl) hok hnext
  | request r => exact inv_setState h hthread (.inr (.inr (.inl ⟨r, rfl⟩))) hnext
  | available r => exact inv_setState h hthread (.inr (.inr (.inr (.inl ⟨r, rfl⟩)))) hnext
  | settingFlag r => exact inv_setState h hthread (.inr (.inr (.inr (.inr (.inl ⟨r, rfl⟩))))) hnext
  | timingOut r => exact inv_setState h hthread (.inr (.inr (.inr (.inr (.inr (.inl ⟨r, rfl⟩)))))) hnext
  | transit r force => exact inv_transit h hthread hok hnext
  | dimCheck => exact inv_dim h hthread (.inl rfl) hnext
  | dimDisplay => exact inv_dim h hthread (.inr (.inl rfl)) hnext
  | dimCancelTimeout => exact inv_dim h hthread (.inr (.inr (.inl rfl))) hnext
  | dimCancelOff => exact inv_dim h hthread (.inr (.inr (.inr (.inl rfl)))) hnext
  | dimDisplayOffTime => exact inv_dim h hthread (.inr (.inr (.inr (.inr (.inl rfl))))) hnext
  | dimSetOff => exact inv_dim h hthread (.inr (.inr (.inr (.inr (.inr rfl))))) hnext
  | dimFlag => exact inv_dimCommit h hthread (.inl rfl) hnext
  | dimCommit => exact inv_dimCommit h hthread (.inr rfl) hnext
  | inactiveDisplay => exact inv_inactive h hthread (.inl rfl) hnext
  | inactiveCancelTimeout => exact inv_inactive h hthread (.inr (.inl rfl)) hnext
  | inactiveCancelOff => exact inv_inactive h hthread (.inr (.inr (.inl rfl))) hnext
  | inactiveCommit => exact inv_inactive h hthread (.inr (.inr (.inr rfl))) hnext
  | awakeDisplay => exact inv_awake h hthread (.inl rfl) hnext
  | awakeCommit => exact inv_awake h hthread (.inr rfl) hnext
  | reset access caller =>
    cases hnext
    exact inv_reset h hthread
  | restoreFlag => exact inv_setState h hthread (.inr (.inr (.inr (.inr (.inr (.inr rfl)))))) hnext
  | release =>
    cases hnext
    exact inv_release h hthread

end PowerMgr.StateMachine.ScreenTimers
