import PowerMgr.Lib.Timers
import PowerMgr.StateMachine.Transit

/-! # Time-outs that have been overtaken

A timer task asks for `DIM`, `INACTIVE` or `SLEEP` with a time-out as the reason, but by the time it
holds `stateMutex_` another thread may have cancelled the timer and set it again.
`CheckFFRTTaskAvailability` compares the running task with the registered one, under the mutex.

* `State` — the `FFRTTimer`, the request that holds `stateMutex_`, and the runs of
  `ResetInactiveTimer` and `StopSleep` in progress, whose steps may interleave with everything;
* `timeout_not_stale` — at most one task of a timer is queued, a time-out reaches `TransitTo` only
  while its task is registered, and never after its timer was cancelled by one of the two.

Live tasks have distinct handles; a handle may be given out again once its task has ended.
-/

namespace PowerMgr.StateMachine

/-- The timers of `ffrt_utils.h`. -/
inductive TimerId where
  | sleep
  | userActivityOff
  | userActivityTimeout
  | screenTimeoutCheck
  | preBrightAuth
  | proximityScreenOff
  | proximityScreenSwitchToSub
  | autoSleep
  | forceReleaseLock
  | ulsr
  deriving DecidableEq, Repr

abbrev Handle := Nat

namespace Timeout

/-- A call of `SetState`; `curTask` is what `ffrt_get_cur_task` returns, `none` for a thread that is
no ffrt task. -/
structure Request where
  curTask : Option Handle
  state : PowerState
  reason : StateChangeReason
  deriving DecidableEq, Repr

def timerOf : PowerState → TimerId
  | .dim => .userActivityTimeout
  | .inactive => .userActivityOff
  | _ => .sleep

/-- `PowerStateMachine::CheckFFRTTaskAvailability`, without the charging-type setting. -/
def checkFFRTTaskAvailability (ffrtTimer : Lib.Timers TimerId Handle) (request : Request) : Bool :=
  if !isTimeoutReason request.reason then true
  else match request.curTask with
    | none => true
    | some curTask => ffrtTimer.handle (timerOf request.state) = some curTask

/-! ## Procedures that invalidate tasks -/

inductive TimerStep where
  | cancelTimer (id : TimerId)
  | setTimer (id : TimerId)
  deriving DecidableEq, Repr

inductive Procedure where
  | resetInactiveTimer
  | stopSleep
  deriving DecidableEq, Repr

/-- The accesses to the timer that a procedure makes; `ResetInactiveTimer` sets the timer again
unless the display never goes off (`arms`). -/
def Procedure.steps (arms : Bool) : Procedure → List TimerStep
  | .resetInactiveTimer => [.cancelTimer .userActivityTimeout, .cancelTimer .userActivityOff] ++
      (if arms then [.setTimer .userActivityTimeout] else [])
  | .stopSleep => [.cancelTimer .sleep]

def Procedure.cancels : Procedure → List TimerId
  | .resetInactiveTimer => [.userActivityTimeout, .userActivityOff]
  | .stopSleep => [.sleep]

def cancelsOf (steps : List TimerStep) : List TimerId :=
  steps.filterMap fun
    | .cancelTimer id => some id
    | .setTimer _ => none

/-- A procedure in progress: which timers it has cancelled, each with the number of tasks that had
been submitted by then, and the accesses it still has to make. -/
structure Running where
  procedure : Procedure
  cancelled : List (TimerId × Nat)
  rest : List TimerStep
  deriving DecidableEq, Repr

/-! ## Interleavings -/

/-- The timer, the request that holds `stateMutex_` with whether it has reached `TransitTo`, the
procedures in progress by thread, and the completed ones. -/
structure State where
  ffrtTimer : Lib.Timers TimerId Handle := {}
  holder : Option (Request × Bool) := none
  procedures : Nat → Option Running := fun _ => none
  completed : List (Procedure × List (TimerId × Nat)) := []

inductive Event where
  | setTimer (id : TimerId) (handle : Handle)
  | cancelTimer (id : TimerId)
  | fire (handle : Handle)
  | startTask (handle : Handle)
  | finish (handle : Handle)
  | acquire (request : Request)
  | check
  | release
  | call (thread : Nat) (procedure : Procedure) (arms : Bool)
  | advance (thread : Nat) (handle : Handle)
  | complete (thread : Nat)
  deriving DecidableEq, Repr

def State.isRunning (s : State) (handle : Handle) : Bool :=
  match s.ffrtTimer.status handle with
  | .running _ => true
  | _ => false

def State.isHolder (s : State) (handle : Handle) : Bool :=
  s.holder.any fun holder => holder.1.curTask = some handle

def next (s : State) : Event → Option State
  | .setTimer id handle =>
    if s.ffrtTimer.status handle = .idle then some { s with ffrtTimer := s.ffrtTimer.set id handle } else none
  | .cancelTimer id => some { s with ffrtTimer := s.ffrtTimer.cancel id }
  | .fire handle =>
    match s.ffrtTimer.status handle with
    | .queued _ _ => some { s with ffrtTimer := s.ffrtTimer.fire handle }
    | _ => none
  | .startTask handle =>
    if s.ffrtTimer.status handle = .idle then some { s with ffrtTimer := s.ffrtTimer.start handle } else none
  | .finish handle =>
    if s.isRunning handle && !s.isHolder handle then some { s with ffrtTimer := s.ffrtTimer.finish handle } else none
  | .acquire request =>
    if s.holder = none ∧ request.curTask.all s.isRunning then some { s with holder := some (request, false) } else none
  | .check =>
    match s.holder with
    | some (request, false) =>
      if checkFFRTTaskAvailability s.ffrtTimer request then some { s with holder := some (request, true) }
      else some { s with holder := none }
    | _ => none
  | .release =>
    match s.holder with
    | some (_, true) => some { s with holder := none }
    | _ => none
  | .call thread procedure arms =>
    match s.procedures thread with
    | none => some { s with procedures := Function.update s.procedures thread (some ⟨procedure, [], procedure.steps arms⟩) }
    | some _ => none
  | .advance thread handle =>
    match s.procedures thread with
    | some ⟨procedure, cancelled, .cancelTimer id :: rest⟩ => some { s with
        ffrtTimer := s.ffrtTimer.cancel id
        procedures := Function.update s.procedures thread
          (some ⟨procedure, cancelled ++ [(id, s.ffrtTimer.count)], rest⟩) }
    | some ⟨procedure, cancelled, .setTimer id :: rest⟩ =>
      if s.ffrtTimer.status handle = .idle then some { s with
        ffrtTimer := s.ffrtTimer.set id handle
        procedures := Function.update s.procedures thread (some ⟨procedure, cancelled, rest⟩) }
      else none
    | _ => none
  | .complete thread =>
    match s.procedures thread with
    | some ⟨procedure, cancelled, []⟩ => some { s with
        procedures := Function.update s.procedures thread none
        completed := (procedure, cancelled) :: s.completed }
    | _ => none

def system : Lib.System State Event where
  init s := s = {}
  next := next

/-! ## The invariant -/

/-- Every timer in the list was cancelled no earlier than noted. -/
def Noted (ffrtTimer : Lib.Timers TimerId Handle) (cancelled : List (TimerId × Nat)) : Prop :=
  ∀ id number, (id, number) ∈ cancelled → number ≤ ffrtTimer.cutoff id

structure Invariant (s : State) : Prop where
  wellFormed : s.ffrtTimer.WellFormed
  holder : ∀ request inside handle, s.holder = some (request, inside) → request.curTask = some handle →
    ∃ serial, s.ffrtTimer.status handle = .running serial
  procedures : ∀ thread running, s.procedures thread = some running →
    running.cancelled.map Prod.fst ++ cancelsOf running.rest = running.procedure.cancels ∧
      Noted s.ffrtTimer running.cancelled
  completed : ∀ procedure cancelled, (procedure, cancelled) ∈ s.completed →
    cancelled.map Prod.fst = procedure.cancels ∧ Noted s.ffrtTimer cancelled

theorem cancelsOf_steps (arms : Bool) (procedure : Procedure) :
    cancelsOf (procedure.steps arms) = procedure.cancels := by
  cases procedure <;> cases arms <;> rfl

section Steps

variable {s : State}

/-- An access to the timer that moves no cancellation back and stops no running task. -/
theorem Invariant.access (h : Invariant s) {ffrtTimer : Lib.Timers TimerId Handle}
    (hwellFormed : ffrtTimer.WellFormed) (hcutoff : ∀ id, s.ffrtTimer.cutoff id ≤ ffrtTimer.cutoff id)
    (hrunning : ∀ handle serial, s.isHolder handle = true → s.ffrtTimer.status handle = .running serial →
      ffrtTimer.status handle = .running serial) :
    Invariant { s with ffrtTimer := ffrtTimer } := by
  have hnoted : ∀ cancelled, Noted s.ffrtTimer cancelled → Noted ffrtTimer cancelled :=
    fun cancelled hcancelled id number hmem => Nat.le_trans (hcancelled id number hmem) (hcutoff id)
  refine ⟨hwellFormed, fun request inside handle hholder htask => ?_, fun thread running hthread => ?_,
    fun procedure cancelled hmem => ?_⟩
  · obtain ⟨serial, hstatus⟩ := h.holder request inside handle hholder htask
    refine ⟨serial, hrunning handle serial ?_ hstatus⟩
    have hsome : s.holder = some (request, inside) := hholder
    simp [State.isHolder, hsome, htask]
  · exact (h.procedures thread running hthread).imp_right (hnoted _)
  · exact (h.completed procedure cancelled hmem).imp_right (hnoted _)

theorem cutoff_le_cancel (hwellFormed : s.ffrtTimer.WellFormed) (id id' : TimerId) :
    s.ffrtTimer.cutoff id' ≤ (s.ffrtTimer.cancel id).cutoff id' := by
  rw [Lib.Timers.cancel_cutoff]
  by_cases hsame : id' = id
  · rw [hsame, Function.update_self]
    exact hwellFormed.bound id
  · exact Nat.le_of_eq (Function.update_of_ne hsame ..).symm

/-- A handle whose task does not run is not that of a running task. -/
theorem ne_of_running {handle other : Handle} {serial : Nat} (hrunning : s.ffrtTimer.status other = .running serial)
    (hnot : ∀ serial, s.ffrtTimer.status handle ≠ .running serial) : other ≠ handle := by
  intro hsame
  rw [hsame] at hrunning
  exact hnot serial hrunning

theorem Invariant.cancel (h : Invariant s) (id : TimerId) :
    Invariant { s with ffrtTimer := s.ffrtTimer.cancel id } :=
  h.access (h.wellFormed.cancel id) (cutoff_le_cancel h.wellFormed id)
    fun _ _ _ hstatus => (s.ffrtTimer.cancel_status_running id).mpr hstatus

theorem Invariant.set (h : Invariant s) (id : TimerId) {handle : Handle}
    (hidle : s.ffrtTimer.status handle = .idle) : Invariant { s with ffrtTimer := s.ffrtTimer.set id handle } := by
  apply h.access (h.wellFormed.set id hidle) (cutoff_le_cancel h.wellFormed id)
  intro other serial _ hstatus
  have hne : other ≠ handle := ne_of_running hstatus (by simp [hidle])
  simp only [Lib.Timers.set, Function.update_of_ne hne]
  exact (s.ffrtTimer.cancel_status_running id).mpr hstatus

theorem Invariant.fire (h : Invariant s) {handle : Handle} {id : TimerId} {serial : Nat}
    (hqueued : s.ffrtTimer.status handle = .queued id serial) :
    Invariant { s with ffrtTimer := s.ffrtTimer.fire handle } := by
  apply h.access (h.wellFormed.fire handle)
  · intro id'
    simp [Lib.Timers.fire, hqueued]
  · intro other serial' _ hrunning
    have hne : other ≠ handle := ne_of_running hrunning (by simp [hqueued])
    simpa [Lib.Timers.fire, hqueued, Function.update_of_ne hne] using hrunning

theorem Invariant.start (h : Invariant s) {handle : Handle} (hidle : s.ffrtTimer.status handle = .idle) :
    Invariant { s with ffrtTimer := s.ffrtTimer.start handle } := by
  apply h.access h.wellFormed.start (fun id => Nat.le_refl _)
  intro other serial _ hrunning
  have hne : other ≠ handle := ne_of_running hrunning (by simp [hidle])
  simpa [Lib.Timers.start, Function.update_of_ne hne] using hrunning

/-- A task ends only after its request has let go of the mutex. -/
theorem Invariant.finish (h : Invariant s) {handle : Handle} (hholder : s.isHolder handle = false) :
    Invariant { s with ffrtTimer := s.ffrtTimer.finish handle } := by
  apply h.access (h.wellFormed.finish handle) (fun id => Nat.le_refl _)
  intro other serial hholds hrunning
  have hne : other ≠ handle := by
    intro hsame
    rw [hsame, hholder] at hholds
    cases hholds
  simpa [Lib.Timers.finish, Function.update_of_ne hne] using hrunning

theorem Invariant.move (h : Invariant s) {thread : Nat} {running : Option Running}
    (hrunning : ∀ r, running = some r →
      r.cancelled.map Prod.fst ++ cancelsOf r.rest = r.procedure.cancels ∧ Noted s.ffrtTimer r.cancelled) :
    Invariant { s with procedures := Function.update s.procedures thread running } := by
  refine ⟨h.wellFormed, h.holder, fun other r hother => ?_, h.completed⟩
  obtain ⟨-, hmoved⟩ | ⟨-, hother⟩ := Lib.update_cases hother
  · exact hrunning r hmoved
  · exact h.procedures other r hother

theorem Invariant.hold (h : Invariant s) {holder : Option (Request × Bool)}
    (hholder : ∀ request inside handle, holder = some (request, inside) → request.curTask = some handle →
      ∃ serial, s.ffrtTimer.status handle = .running serial) : Invariant { s with holder := holder } :=
  ⟨h.wellFormed, hholder, h.procedures, h.completed⟩

/-- A procedure cancels a timer: the number noted is that of the tasks submitted by now. -/
theorem Invariant.advanceCancel (h : Invariant s) {thread : Nat} {procedure : Procedure}
    {cancelled : List (TimerId × Nat)} {id : TimerId} {rest : List TimerStep}
    (hthread : s.procedures thread = some ⟨procedure, cancelled, .cancelTimer id :: rest⟩) :
    Invariant { s with
      ffrtTimer := s.ffrtTimer.cancel id
      procedures := Function.update s.procedures thread
        (some ⟨procedure, cancelled ++ [(id, s.ffrtTimer.count)], rest⟩) } := by
  obtain ⟨hcancels, hnoted⟩ := h.procedures thread _ hthread
  apply (h.cancel id).move
  intro r hr
  cases hr
  refine ⟨by simpa [cancelsOf] using hcancels, fun id' number hmem => ?_⟩
  obtain hbefore | hnow := List.mem_append.mp hmem
  · exact Nat.le_trans (hnoted id' number hbefore) (cutoff_le_cancel h.wellFormed id id')
  · cases List.mem_singleton.mp hnow
    rw [Lib.Timers.cancel_cutoff]
    exact Nat.le_of_eq (Function.update_self id s.ffrtTimer.count s.ffrtTimer.cutoff).symm

theorem Invariant.advanceSet (h : Invariant s) {thread : Nat} {procedure : Procedure}
    {cancelled : List (TimerId × Nat)} {id : TimerId} {rest : List TimerStep} {handle : Handle}
    (hthread : s.procedures thread = some ⟨procedure, cancelled, .setTimer id :: rest⟩)
    (hidle : s.ffrtTimer.status handle = .idle) :
    Invariant { s with
      ffrtTimer := s.ffrtTimer.set id handle
      procedures := Function.update s.procedures thread (some ⟨procedure, cancelled, rest⟩) } := by
  obtain ⟨hcancels, hnoted⟩ := h.procedures thread _ hthread
  apply (h.set id hidle).move
  intro r hr
  cases hr
  refine ⟨by simpa [cancelsOf] using hcancels, fun id' number hmem => ?_⟩
  exact Nat.le_trans (hnoted id' number hmem) (cutoff_le_cancel h.wellFormed id id')

theorem Invariant.complete (h : Invariant s) {thread : Nat} {procedure : Procedure}
    {cancelled : List (TimerId × Nat)} (hthread : s.procedures thread = some ⟨procedure, cancelled, []⟩) :
    Invariant { s with
      procedures := Function.update s.procedures thread none
      completed := (procedure, cancelled) :: s.completed } := by
  obtain ⟨hcancels, hnoted⟩ := h.procedures thread _ hthread
  have hmoved : Invariant { s with procedures := Function.update s.procedures thread none } :=
    h.move fun r hr => by cases hr
  refine ⟨h.wellFormed, h.holder, hmoved.procedures, fun procedure' cancelled' hmem => ?_⟩
  obtain hnew | hold := List.mem_cons.mp hmem
  · cases hnew
    exact ⟨by simpa [cancelsOf] using hcancels, hnoted⟩
  · exact h.completed procedure' cancelled' hold

theorem running_of_isRunning {handle : Handle} (h : s.isRunning handle = true) :
    ∃ serial, s.ffrtTimer.status handle = .running serial := by
  unfold State.isRunning at h
  split at h
  next serial hstatus => exact ⟨serial, hstatus⟩
  next => cases h

theorem invariant_next {s' : State} {event : Event} (h : Invariant s) (hnext : next s event = some s') :
    Invariant s' := by
  cases event with
  | setTimer id handle =>
    simp only [next] at hnext
    split at hnext
    next hidle =>
      cases hnext
      exact h.set id hidle
    next => cases hnext
  | cancelTimer id =>
    cases hnext
    exact h.cancel id
  | fire handle =>
    simp only [next] at hnext
    split at hnext
    next id serial hstatus =>
      cases hnext
      exact h.fire hstatus
    next => cases hnext
  | startTask handle =>
    simp only [next] at hnext
    split at hnext
    next hidle =>
      cases hnext
      exact h.start hidle
    next => cases hnext
  | finish handle =>
    simp only [next] at hnext
    split at hnext
    next hends =>
      cases hnext
      simp only [Bool.and_eq_true, Bool.not_eq_true'] at hends
      exact h.finish hends.2
    next => cases hnext
  | acquire request =>
    simp only [next] at hnext
    split at hnext
    next hfree =>
      cases hnext
      refine h.hold fun request' inside handle hholder htask => ?_
      cases hholder
      have hrunning := hfree.2
      rw [htask] at hrunning
      exact running_of_isRunning hrunning
    next => cases hnext
  | check =>
    simp only [next] at hnext
    split at hnext
    next request hholder =>
      split at hnext
      · cases hnext
        refine h.hold fun request' inside handle hsame htask => ?_
        cases hsame
        exact h.holder request false handle hholder htask
      · cases hnext
        exact h.hold fun _ _ _ hnone => by cases hnone
    next => cases hnext
  | release =>
    simp only [next] at hnext
    split at hnext
    · cases hnext
      exact h.hold fun _ _ _ hnone => by cases hnone
    · cases hnext
  | call thread procedure arms =>
    simp only [next] at hnext
    split at hnext
    · cases hnext
      refine h.move fun r hr => ?_
      cases hr
      exact ⟨cancelsOf_steps arms procedure, fun _ _ hmem => by cases hmem⟩
    · cases hnext
  | advance thread handle =>
    simp only [next] at hnext
    split at hnext
    next procedure cancelled id rest hthread =>
      cases hnext
      exact h.advanceCancel hthread
    next procedure cancelled id rest hthread =>
      split at hnext
      next hidle =>
        cases hnext
        exact h.advanceSet hthread hidle
      next => cases hnext
    next => cases hnext
  | complete thread =>
    simp only [next] at hnext
    split at hnext
    next procedure cancelled hthread =>
      cases hnext
      exact h.complete hthread
    next => cases hnext

end Steps

theorem invariant_of_reachable {s : State} (hreach : system.Reachable s) : Invariant s := by
  refine hreach.invariant (fun s hinit => ?_) fun s s' event hs _ hnext => invariant_next (s := s) hs hnext
  cases hinit
  constructor
  case wellFormed => exact Lib.Timers.wellFormed_init
  case holder =>
    intro request inside handle hholder _
    cases hholder
  case procedures =>
    intro thread running hthread
    cases hthread
  case completed =>
    intro procedure cancelled hmem
    cases hmem

/-- Only `check` lets a request into `TransitTo`. -/
theorem enters_of_next {s s' : State} {event : Event} {request : Request} (hnext : next s event = some s')
    (hentered : s'.holder = some (request, true)) (hbefore : s.holder ≠ s'.holder) :
    s.holder = some (request, false) ∧ checkFFRTTaskAvailability s.ffrtTimer request = true := by
  cases event with
  | check =>
    simp only [next] at hnext
    split at hnext
    next request' hholder =>
      split at hnext
      next havailable =>
        cases hnext
        cases hentered
        exact ⟨hholder, havailable⟩
      next =>
        cases hnext
        cases hentered
    next => cases hnext
  | acquire request' =>
    simp only [next] at hnext
    split at hnext
    · cases hnext
      cases hentered
    · cases hnext
  | release =>
    simp only [next] at hnext
    split at hnext
    · cases hnext
      cases hentered
    · cases hnext
  | _ =>
    -- No other step touches the mutex.
    exfalso
    refine hbefore ?_
    simp only [next] at hnext
    repeat' split at hnext
    all_goals first | (cases hnext; rfl) | cases hnext

/-- At most one task of a timer is queued, and it is the registered one.  A time-out that an ffrt
task asks for reaches `TransitTo` only if, while it holds `stateMutex_`, the task is still
registered; and then it was submitted after every `ResetInactiveTimer` or `StopSleep` that has
completed cancelled the timer: a task that is older than that has no effect. -/
theorem timeout_not_stale {s : State} (hreach : system.Reachable s) :
    (∀ handle id serial, s.ffrtTimer.status handle = .queued id serial → s.ffrtTimer.handle id = some handle ∧
      ∀ handle' serial', s.ffrtTimer.status handle' = .queued id serial' → handle' = handle) ∧
    ∀ event s' request handle, next s event = some s' → s'.holder = some (request, true) → s.holder ≠ s'.holder →
      isTimeoutReason request.reason = true → request.curTask = some handle →
      s.holder = some (request, false) ∧ s.ffrtTimer.handle (timerOf request.state) = some handle ∧
      ∃ serial, s.ffrtTimer.status handle = .running serial ∧
        ∀ procedure cancelled, (procedure, cancelled) ∈ s.completed → timerOf request.state ∈ procedure.cancels →
          ∃ number, (timerOf request.state, number) ∈ cancelled ∧ number ≤ serial := by
  have hinv := invariant_of_reachable hreach
  refine ⟨fun handle id serial hqueued => ⟨hinv.wellFormed.registered handle id serial hqueued,
    fun handle' serial' hqueued' => hinv.wellFormed.queued_unique hqueued' hqueued⟩, ?_⟩
  intro event s' request handle hnext hentered hbefore hreason htask
  obtain ⟨hholder, havailable⟩ := enters_of_next hnext hentered hbefore
  have hregistered : s.ffrtTimer.handle (timerOf request.state) = some handle := by
    simpa [checkFFRTTaskAvailability, hreason, htask] using havailable
  obtain ⟨serial, hrunning⟩ := hinv.holder request false handle hholder htask
  refine ⟨hholder, hregistered, serial, hrunning, fun procedure cancelled hmem hcancels => ?_⟩
  obtain ⟨hall, hnoted⟩ := hinv.completed procedure cancelled hmem
  rw [← hall] at hcancels
  obtain ⟨⟨id, number⟩, hin, hid⟩ := List.mem_map.mp hcancels
  have hid' : id = timerOf request.state := hid
  subst hid'
  refine ⟨number, hin, Nat.le_trans (hnoted _ number hin) ?_⟩
  exact hinv.wellFormed.recent handle _ serial hregistered (by rw [hrunning]; rfl)

/-- The activity timer fires and its task asks for `DIM`. -/
def activityTimeout : List Event :=
  [.setTimer .userActivityTimeout 7, .fire 7, .acquire ⟨some 7, .dim, .timeout⟩]

theorem timeout_not_stale_activityTimeout :
    ∃ s s', system.run {} activityTimeout = some s ∧ next s .check = some s' ∧
      s'.holder = some (⟨some 7, .dim, .timeout⟩, true) ∧ s.ffrtTimer.handle .userActivityTimeout = some 7 := by
  let asked : State :=
    { ffrtTimer := (({} : Lib.Timers TimerId Handle).set .userActivityTimeout 7).fire 7
      holder := some (⟨some 7, .dim, .timeout⟩, false) }
  have hrun : system.run {} activityTimeout = some asked := rfl
  have hnext : next asked .check = some { asked with holder := some (⟨some 7, .dim, .timeout⟩, true) } := rfl
  have hnew : asked.holder ≠ some (⟨some 7, .dim, .timeout⟩, true) := by
    simp [asked]
  have hfresh := (timeout_not_stale (Lib.System.reachable_of_run _ (.init rfl) hrun)).2 .check _ _ 7 hnext rfl hnew
    rfl rfl
  exact ⟨asked, _, hrun, hnext, rfl, hfresh.2.1⟩

-- The same task, overtaken by `ResetInactiveTimer` between its start and the mutex.
example : (system.run {} [.setTimer .userActivityTimeout 7, .fire 7, .call 0 .resetInactiveTimer true, .advance 0 0,
    .advance 0 0, .advance 0 9, .complete 0, .acquire ⟨some 7, .dim, .timeout⟩, .check]).map State.holder =
    some none := by
  decide

end Timeout

end PowerMgr.StateMachine
