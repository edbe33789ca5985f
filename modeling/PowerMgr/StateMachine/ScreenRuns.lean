import PowerMgr.StateMachine.ScreenCovered

/-! # Runs of the timers that turn the screen off

The calls and the tasks that start keep the invariant of `ScreenCovered` as the steps of the threads
do, so it holds after every run that is careful.

* `inv_next` — one event;
* `inv_of_reach` — a whole run;
* `screen_covered` — where such a run comes to rest with the screen lit, a task is pending;
* `screen_stuck` — three runs that are not careful, and come to rest without one.
-/

namespace PowerMgr.StateMachine.ScreenTimers

variable {cfg : Config} {s s' : State} {thread : Nat} {stage : Stage}

/-! ## Calls -/

theorem State.call_eq_some (h : s.call thread stage = some s') :
    s.threads thread = none ∧ s' = s.goto thread stage := by
  simp only [State.call, Option.ite_none_right_eq_some, Option.some.injEq] at h
  exact ⟨h.1, h.2.symm⟩

theorem not_holds_of_free (hfree : s.threads thread = none) :
    ∀ stage, s.threads thread = some stage → stage.holds = false := by
  intro stage hstage
  cases hfree.symm.trans hstage

theorem Inv.call (h : Inv s) (hcall : s.call thread stage = some s') (hout : stage.holds = false) : Inv s' := by
  obtain ⟨hfree, rfl⟩ := State.call_eq_some hcall
  have hafter : ∀ other, some stage = some other → other.holds = false := by
    intro other hother
    cases hother
    exact hout
  refine h.outside (not_holds_of_free hfree) rfl hafter rfl rfl rfl fun hlit => ?_
  obtain hcovered | hexcused := h.covered hlit
  · obtain hothers | ⟨other, hother, -⟩ := hcovered.split thread
    · exact .inl (hothers.step rfl rfl rfl (State.goto_threads ..))
    · cases hfree.symm.trans hother
  · have hdims : ∀ other, some stage = some other → other.dims = true → s.Dimming := by
      intro other hother hdims
      cases (hafter other hother).symm.trans (holds_of_dims hdims)
    refine .inr (hexcused.step (State.goto_threads ..) rfl (fun hdim => .inl hdim) hdims ?_)
    rw [hfree]
    exact nofun

/-- A task starts: its timer is no longer queued, and the thread attends. -/
theorem Inv.fire {t : State} (h : Inv s) (hcall : t.call thread stage = some s') (hthreads : t.threads = s.threads)
    (hstate : t.currentState = s.currentState) (hdisplay : t.display = s.display)
    (hmutex : t.stateMutex = s.stateMutex) (hout : stage.holds = false) (hattends : Attends t stage) : Inv s' := by
  obtain ⟨hfree, rfl⟩ := State.call_eq_some hcall
  have hgoes : (t.goto thread stage).threads = Function.update s.threads thread (some stage) := by
    rw [State.goto_threads, hthreads]
  have hattends' : Attends (t.goto thread stage) stage := (attends_congr rfl rfl).mpr hattends
  exact h.attends_outside (not_holds_of_free (hthreads ▸ hfree)) hgoes hout hstate hdisplay hmutex hattends'

/-! ## The `SCREEN` locks -/

/-- As long as a lock is left, it is the same excuse as before. -/
theorem Inv.locked (h : Inv s) (n : Nat) : Inv { s with screenLocks := n + 1 } := by
  refine ⟨h.known, h.dark, h.unlit, h.darkened, h.mutex, h.placed, fun hlit => ?_⟩
  obtain (htime | htimeout | hoff | ⟨other, other', -, hother, hattends⟩) | ⟨hdimming, -⟩ := h.covered hlit
  · exact .inl (.inl htime)
  · exact .inl (.inr (.inl htimeout))
  · exact .inl (.inr (.inr (.inl hoff)))
  · exact .inl (covered_of_attends hother ((attends_congr rfl rfl).mpr hattends))
  · exact .inr ⟨hdimming, .inl (Nat.succ_pos n)⟩

/-- The last lock goes, and the thread that gives it up looks after the timer. -/
theorem Inv.unLockLast (h : Inv s) (hcall : { s with screenLocks := 0 }.call thread .unlockState = some s') :
    Inv s' := by
  obtain ⟨hfree, rfl⟩ := State.call_eq_some hcall
  have hfree : s.threads thread = none := hfree
  have hafter : ∀ other, some Stage.unlockState = some other → other.holds = false := by
    intro other hother
    cases hother
    rfl
  refine h.outside (not_holds_of_free hfree) rfl hafter rfl rfl rfl fun hlit => ?_
  obtain hcovered | ⟨hdimming, -⟩ := h.covered hlit
  · obtain hothers | ⟨other, hother, -⟩ := hcovered.split thread
    · exact .inl (hothers.step rfl rfl rfl (State.goto_threads ..))
    · cases hfree.symm.trans hother
  · refine .inr ⟨?_, .inr ⟨thread, State.goto_self ..⟩⟩
    rintro (hdim | ⟨other, other', hother, hdims⟩)
    · exact hdimming (.inl hdim)
    · obtain ⟨-, hmoved⟩ | ⟨-, hother⟩ := threads_cases (State.goto_threads ..) hother
      · cases hmoved
        cases hdims
      · exact hdimming (.inr ⟨other, other', hother, hdims⟩)

/-! ## Events -/

theorem inv_next {e : Event} (h : Inv s) (hok : Careful s e) (hnext : next cfg s e = some s') : Inv s' := by
  cases e with
  | refreshActivity thread throttled =>
    simp only [next] at hnext
    split at hnext
    · cases hnext
      exact h
    · exact h.call hnext rfl
  | setDisplayOffTime thread time => exact h.call hnext rfl
  | overrideScreenOffTime thread timeout =>
    simp only [next] at hnext
    have hsame : Unchanged s { s with
        isScreenOffTimeOverride := true
        beforeOverrideTime := if s.isScreenOffTimeOverride then s.beforeOverrideTime else s.displayOffTime } :=
      ⟨rfl, rfl, rfl, rfl, rfl, rfl, rfl⟩
    exact (h.unchanged hsame rfl).call hnext rfl
  | restoreScreenOffTime thread =>
    simp only [next] at hnext
    split at hnext
    · have hsame : Unchanged s { s with isScreenOffTimeOverride := false } := ⟨rfl, rfl, rfl, rfl, rfl, rfl, rfl⟩
      exact (h.unchanged hsame rfl).call hnext rfl
    · cases hnext
      exact h
  | setForceTimingOut thread enabled => exact h.call hnext rfl
  | lock thread throttled =>
    simp only [next] at hnext
    split at hnext
    · exact (h.locked 0).call hnext rfl
    · cases hnext
      exact h.locked s.screenLocks
  | unLock thread =>
    simp only [next] at hnext
    split at hnext
    · cases hnext
    · exact h.unLockLast hnext
    · rename_i n _
      cases hnext
      exact h.locked n
  | reboot thread => exact h.call hnext rfl
  | fireTimeout thread =>
    simp only [next] at hnext
    split at hnext
    · exact h.fire hnext rfl rfl rfl rfl rfl ⟨rfl, decide_eq_true rfl⟩
    · cases hnext
  | fireOff thread =>
    simp only [next] at hnext
    split at hnext
    · exact h.fire hnext rfl rfl rfl rfl rfl rfl
    · cases hnext
  | advance thread =>
    simp only [next, Option.bind_eq_some_iff] at hnext
    obtain ⟨stage, hthread, hadvance⟩ := hnext
    exact inv_advance h hthread hok hadvance

theorem inv_booted (displayOffTime : Int) : Inv (booted cfg displayOffTime) := by
  refine ⟨.inl (.inl rfl), nofun, nofun, nofun, nofun, nofun, fun _ => .inl ?_⟩
  by_cases hnever : displayOffTime < 0 ∧ cfg.neverSleepDim = false
  · exact .inl hnever.1
  · refine .inr (.inl ?_)
    simp only [booted, if_neg hnever]
    rfl

theorem inv_of_reach (h : (system cfg).Reach Careful s) : Inv s := by
  refine h.invariant (fun s hinit => ?_) fun s s' e hinv hok hnext => inv_next hinv hok hnext
  obtain ⟨displayOffTime, rfl⟩ := hinit
  exact inv_booted displayOffTime

/-! ## At rest -/

/-- The thread is neither in `SetState` nor a task of a timer, and has not begun what ends in
`ResetInactiveTimer` or goes without it. -/
def Stage.atRest : Stage → Bool
  | .refreshScreenOn | .refreshSettingInactive | .refreshState | .refreshSettingDim => true
  | .storeDisplayOffTime _ => true
  | .forceLockActive _ | .forceExchange _ _ | .forceSettingDim _ | .forceTryLock => true
  | .rebootCancelTimeout | .rebootCancelOff | .rebootStart | .rebootTakenOver => true
  | _ => false

/-- No `SetState` is running, no task of a timer that has started is unfinished, and no call is between
what it has changed and the timers. -/
def State.Quiescent (s : State) : Prop :=
  ∀ thread stage, s.threads thread = some stage → stage.atRest = true

theorem not_attends_of_atRest (h : stage.atRest = true) : ¬Attends s stage := by
  cases stage <;> first | exact id | cases h

/-- A lit screen that no lock keeps on will go off, unless the time says never. -/
theorem screen_covered (h : (system cfg).Reach Careful s) (hquiet : s.Quiescent) (hlit : s.Lit)
    (htime : 0 ≤ s.displayOffTime) (hlocks : s.screenLocks = 0) :
    s.timeout.isQueued = true ∨ s.off.isQueued = true := by
  rcases (inv_of_reach h).covered hlit with
    (hnegative | htimeout | hoff | ⟨other, other', -, hother, hattends⟩) | ⟨-, hlocked | ⟨other, hother⟩⟩
  · omega
  · exact .inl htimeout
  · exact .inr hoff
  · exact absurd hattends (not_attends_of_atRest (hquiet other other' hother))
  · omega
  · cases hquiet other .unlockState hother

/-- A new time has been set in `AWAKE`: the timer that was set at the start is replaced. -/
theorem screen_covered_time_set : ∃ s : State, s.displayOffTime = 15000 ∧ s.timeout = .queued 1 ∧
    (s.timeout.isQueued = true ∨ s.off.isQueued = true) := by
  have hbooted : (system {}).Reach Careful (booted {} 30000) := .init ⟨30000, rfl⟩
  have hcalled := hbooted.step (Event.setDisplayOffTime 0 15000) trivial rfl
  have hstored := (hcalled.step (Event.advance 0) trivial rfl).step (Event.advance 0) trivial rfl
  have hcancelled := ((hstored.step (Event.advance 0) trivial rfl).step (Event.advance 0) trivial rfl).step
    (Event.advance 0) trivial rfl
  have hset := (hcancelled.step (Event.advance 0) trivial rfl).step (Event.advance 0) trivial rfl
  refine ⟨_, rfl, rfl, screen_covered hset (fun thread stage hthread => ?_) (.inl rfl) (by decide) rfl⟩
  cases thread with
  | zero => cases hthread
  | succ thread => cases hthread

/-- A screen that stays on: nothing is under way, and nothing will turn it off. -/
structure State.Stuck (s : State) : Prop where
  quiet : ∀ thread, s.threads thread = none
  lit : s.Lit
  time : 0 ≤ s.displayOffTime
  locks : s.screenLocks = 0
  timeout : s.timeout.isQueued = false
  off : s.off.isQueued = false

/-- The task of `TIMEOUT`, which ends in `DIM`. -/
def timesOut : List Event :=
  .fireTimeout 0 :: List.replicate 15 (.advance 0)

/-- The task of `OFF` is refused because of a lock that was taken in `DIM`, too soon after a refresh to
be one, and the lock is given up in `DIM`. -/
def lockedInDim : List Event :=
  timesOut ++ [.lock 2 true, .fireOff 1] ++ List.replicate 9 (.advance 1) ++ [.unLock 2, .advance 2]

/-- The time is made negative while `DIM` is being set, so `OFF` is not, and positive again in `DIM`. -/
def negativeInDim : List Event :=
  .fireTimeout 0 :: List.replicate 6 (.advance 0) ++ [.setDisplayOffTime 1 (-1), .advance 1] ++
    List.replicate 8 (.advance 0) ++ [.advance 1, .setDisplayOffTime 1 30000, .advance 1, .advance 1]

/-- A reboot that is taken over loses the timer, and so do the two runs above. -/
theorem screen_stuck :
    (∃ s, (system {}).run (booted {} 30000) (.reboot 0 :: List.replicate 4 (.advance 0)) = some s ∧
      s.currentState = .awake ∧ s.Stuck) ∧
    (∃ s, (system {}).run (booted {} 30000) lockedInDim = some s ∧ s.currentState = .dim ∧ s.Stuck) ∧
    ∃ s, (system {}).run (booted {} 30000) negativeInDim = some s ∧ s.currentState = .dim ∧ s.Stuck := by
  refine ⟨⟨_, rfl, rfl, ?_⟩, ⟨_, rfl, rfl, ?_⟩, ⟨_, rfl, rfl, ?_⟩⟩
  · exact ⟨fun thread => match thread with | 0 | _ + 1 => rfl, .inl rfl, by decide, rfl, rfl, rfl⟩
  · exact ⟨fun thread => match thread with | 0 | 1 | 2 | _ + 3 => rfl, .inr rfl, by decide, rfl, rfl, rfl⟩
  · exact ⟨fun thread => match thread with | 0 | 1 | _ + 2 => rfl, .inr rfl, by decide, rfl, rfl, rfl⟩

end PowerMgr.StateMachine.ScreenTimers
