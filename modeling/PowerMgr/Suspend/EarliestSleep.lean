import PowerMgr.Lib.Timers
import PowerMgr.StateMachine.Timeout
import PowerMgr.Suspend.SleepTimer

/-!
# The earliest sleep request wins

`StartSleepTimer` (`suspend_controller.cpp`) called again and again, one call after the other.  A
request that would sleep later than the pending one is refused; any other one replaces it, in the
fields that shadow the timer first and then in the timer.

* `Controller`, `startSleepTimer` — the shadow with the timers of `FFRTTimer`, and one call;
* `Earliest` — the last of the calls with the least deadline;
* `Describes` — timer and shadow are about one call;
* `startSleepTimer_steps` — a call is a run of the model in which calls may interleave;
* `earliest_wins` — after any number of calls they are about the earliest.
-/

namespace PowerMgr.Suspend.EarliestSleep

open Lib (Timers)
open StateMachine (TimerId Handle)
open SleepTimer (int64Max)

universe u

/-- `SuspendAction::ACTION_AUTO_SUSPEND` -/
def actionAutoSuspend : UInt32 := 1

/-- A call of `StartSleepTimer`.  The last three are what it meets: the tick count, the result of
`GetSleepTime`, and the handle that the queue gives the task. -/
structure Call (ρ : Type u) where
  reason : ρ
  action : UInt32
  delay : UInt32
  tick : Nat
  settingTime : Int
  handle : Handle

def Call.timeout {ρ : Type u} (call : Call ρ) : Int :=
  call.tick + call.delay.toNat

/-- A task of the sleep timer: when it is due, and the arguments of its `HandleAction`. -/
structure Task (ρ : Type u) where
  deadline : Int
  reason : ρ
  action : UInt32

def Call.task {ρ : Type u} (call : Call ρ) : Task ρ where
  deadline := call.timeout
  reason := call.reason
  action := call.action

/-- The shadow and the timers; `tasks` is what was submitted, by the number of the submission. -/
structure Controller (ρ : Type u) where
  sleepTime : Int
  sleepReason : ρ
  sleepAction : UInt32
  sleepDuration : UInt32
  sleepType : UInt32
  ffrtTimer : Timers TimerId Handle
  tasks : Nat → Option (Task ρ)
  wellFormed : ffrtTimer.WellFormed

section Calls

variable {ρ : Type u}

/-- The shadow as a call writes it. -/
def Controller.record (call : Call ρ) (timeout : Int) (c : Controller ρ) : Controller ρ :=
  { c with
    sleepTime := timeout
    sleepReason := call.reason
    sleepAction := call.action
    sleepDuration := call.delay
    sleepType := call.action }

/-- `FFRTTimer::SetTimer` of `TIMER_ID_SLEEP`; the queue gives no handle that is in use. -/
def Controller.setTimer (call : Call ρ) (c : Controller ρ) : Option (Controller ρ) :=
  if hidle : c.ffrtTimer.status call.handle = .idle then
    some { c with
      ffrtTimer := c.ffrtTimer.set .sleep call.handle
      tasks := Function.update c.tasks c.ffrtTimer.count (some call.task)
      wellFormed := c.wellFormed.set .sleep hidle }
  else none

/-- `SuspendController::StartSleepTimer`. -/
def startSleepTimer (call : Call ρ) (c : Controller ρ) : Option (Controller ρ) :=
  if call.action = actionAutoSuspend ∧ call.settingTime < 0 then some c
  else
    -- the sum is one of `int64_t`: it is less than a summand when it overflows
    let timeout := (call.tick : Int) + call.delay.toNat
    if int64Max < timeout then some c
    else if timeout > c.sleepTime ∧ c.sleepTime ≠ -1 then some c
    else (c.record call timeout).setTimer call

/-- Not turned away because the device is set never to sleep. -/
def Call.Admitted (call : Call ρ) : Prop :=
  ¬ (call.action = actionAutoSuspend ∧ call.settingTime < 0)

/-- One call after the other. -/
def Controller.run (c : Controller ρ) : List (Call ρ) → Option (Controller ρ)
  | [] => some c
  | call :: calls => (startSleepTimer call c).bind fun c => c.run calls

theorem startSleepTimer_of_admitted {call : Call ρ} (hadmitted : call.Admitted) (c : Controller ρ) :
    startSleepTimer call c =
      if int64Max < call.timeout then some c
      else if call.timeout > c.sleepTime ∧ c.sleepTime ≠ -1 then some c
      else (c.record call call.timeout).setTimer call := by
  unfold Call.Admitted at hadmitted
  simp only [startSleepTimer, if_neg hadmitted]
  rfl

/-! ## A call as steps -/

/-- `SuspendAction` of a number. -/
def suspendAction (action : UInt32) : SleepTimer.SuspendAction :=
  if action = 0 then .none
  else if action = 1 then .autoSuspend
  else if action = 2 then .forceSuspend
  else if action = 3 then .hibernate
  else if action = 4 then .shutdown
  else .invalid

theorem suspendAction_eq_autoSuspend {action : UInt32} :
    suspendAction action = .autoSuspend ↔ action = actionAutoSuspend := by
  unfold suspendAction actionAutoSuspend
  constructor
  · intro h
    split_ifs at h
    assumption
  · intro h
    simp [h]

/-- The task queued on `TIMER_ID_SLEEP`, as the model of the steps has it. -/
def Controller.queuedTask (c : Controller ρ) : Option SleepTimer.Task :=
  match c.ffrtTimer.handle .sleep with
  | none => none
  | some h =>
    match c.ffrtTimer.status h with
    | .queued _ serial =>
      (c.tasks serial).map fun task => ⟨.handleAction (suspendAction task.action), task.deadline⟩
    | _ => none

/-- A state of the model of the steps with the same shadow and the same task, in which the caller
is free. -/
structure Matches (c : Controller ρ) (caller : Nat) (s : SleepTimer.State) : Prop where
  sleepTime : s.sleepTime = c.sleepTime
  queued : s.queued = c.queuedTask
  idle : s.requests caller = .idle

/-- A call that nothing comes between does what its steps do one by one. -/
theorem startSleepTimer_steps {c c' : Controller ρ} {call : Call ρ} {caller : Nat} {s : SleepTimer.State}
    (h : Matches c caller s) (hnow : s.now = call.tick) (hstep : startSleepTimer call c = some c') :
    ∃ events s', SleepTimer.system.run s events = some s' ∧ Matches c' caller s' := by
  let start : SleepTimer.Event :=
    .startSleepTimer caller (suspendAction call.action) call.delay call.settingTime
  by_cases hadmitted : call.Admitted
  · have hturned : ¬ (suspendAction call.action = .autoSuspend ∧ call.settingTime < 0) := by
      rw [suspendAction_eq_autoSuspend]
      exact hadmitted
    have htimeout : (call.tick : Int) + call.delay.toNat = call.timeout := rfl
    rw [startSleepTimer_of_admitted hadmitted] at hstep
    split_ifs at hstep with hoverflow hlater
    · simp only [Option.some.injEq] at hstep
      subst hstep
      refine ⟨[start], s, ?_, h⟩
      simp [start, SleepTimer.system, SleepTimer.next, SleepTimer.startSleepTimer, h.idle, hturned, hnow, htimeout,
        hoverflow]
    · simp only [Option.some.injEq] at hstep
      subst hstep
      refine ⟨[start, .check caller], s.setRequest caller .idle, ?_, h.sleepTime, h.queued, Function.update_self ..⟩
      simp [start, SleepTimer.system, SleepTimer.next, SleepTimer.startSleepTimer, h.idle, hturned, hnow, htimeout,
        hoverflow, SleepTimer.refuses, h.sleepTime, hlater, SleepTimer.State.setRequest]
    · unfold Controller.setTimer at hstep
      split at hstep
      next hidle =>
        simp only [Option.some.injEq] at hstep
        subst hstep
        let armed : SleepTimer.State :=
          { s with sleepTime := call.timeout, queued := some ⟨.handleAction (suspendAction call.action), call.timeout⟩ }
        refine ⟨[start, .check caller, .record caller, .setTimer caller], armed.setRequest caller .idle, ?_, rfl, ?_,
          Function.update_self ..⟩
        · simp [start, armed, SleepTimer.system, SleepTimer.next, SleepTimer.startSleepTimer, h.idle, hturned, hnow,
            htimeout, hoverflow, SleepTimer.refuses, h.sleepTime, hlater, SleepTimer.State.setRequest,
            SleepTimer.State.setTimer]
        · simp [armed, Controller.queuedTask, Timers.set, Call.task, Controller.record, SleepTimer.State.setRequest]
      next => simp at hstep
  · have hturned : suspendAction call.action = .autoSuspend ∧ call.settingTime < 0 := by
      rw [suspendAction_eq_autoSuspend]
      exact not_not.mp hadmitted
    simp only [startSleepTimer, if_pos (not_not.mp hadmitted), Option.some.injEq] at hstep
    subst hstep
    refine ⟨[start], s, ?_, h⟩
    simp [start, SleepTimer.system, SleepTimer.next, SleepTimer.startSleepTimer, h.idle, hturned]

/-! ## The earliest call -/

/-- The last of the calls that attain the least deadline. -/
def Earliest (calls : List (Call ρ)) (call : Call ρ) : Prop :=
  ∃ before after, calls = before ++ call :: after ∧ (∀ other ∈ before, call.timeout ≤ other.timeout) ∧
    ∀ other ∈ after, call.timeout < other.timeout

/-- The one task queued for sleeping is that of the call, and the shadow is about the same call. -/
structure Describes (c : Controller ρ) (call : Call ρ) : Prop where
  queued : ∃ h serial, c.ffrtTimer.status h = .queued .sleep serial ∧ c.tasks serial = some call.task ∧
    ∀ h' serial', c.ffrtTimer.status h' = .queued .sleep serial' → h' = h
  sleepTime : c.sleepTime = call.timeout
  sleepReason : c.sleepReason = call.reason
  sleepAction : c.sleepAction = call.action
  sleepDuration : c.sleepDuration = call.delay
  sleepType : c.sleepType = call.action

/-- The deadline is a 64-bit number. -/
def Call.Fits (call : Call ρ) : Prop :=
  call.timeout ≤ int64Max

theorem Earliest.le {calls : List (Call ρ)} {call other : Call ρ} (h : Earliest calls call) (hother : other ∈ calls) :
    call.timeout ≤ other.timeout := by
  obtain ⟨before, after, rfl, hbefore, hafter⟩ := h
  rw [List.mem_append, List.mem_cons] at hother
  obtain hother | rfl | hother := hother
  · exact hbefore other hother
  · exact Int.le_refl _
  · exact Int.le_of_lt (hafter other hother)

/-- A later call with a later deadline changes nothing. -/
theorem Earliest.append_later {calls : List (Call ρ)} {call other : Call ρ} (h : Earliest calls call)
    (hlater : call.timeout < other.timeout) : Earliest (calls ++ [other]) call := by
  obtain ⟨before, after, rfl, hbefore, hafter⟩ := h
  refine ⟨before, after ++ [other], by simp, hbefore, fun next hnext => ?_⟩
  rw [List.mem_append, List.mem_singleton] at hnext
  obtain hnext | rfl := hnext
  · exact hafter next hnext
  · exact hlater

theorem earliest_last {calls : List (Call ρ)} {call : Call ρ} (h : ∀ other ∈ calls, call.timeout ≤ other.timeout) :
    Earliest (calls ++ [call]) call :=
  ⟨calls, [], rfl, h, by simp⟩

/-! ## One call -/

/-- What timer and shadow are after some calls: about the earliest, or still unset when no deadline
fitted. -/
inductive Tracks (c : Controller ρ) (calls : List (Call ρ)) : Prop where
  | unset (hsleep : c.sleepTime = -1) (hnone : ∀ other ∈ calls, ¬ other.Fits)
  | set (call : Call ρ) (hearliest : Earliest calls call) (hfits : call.Fits) (hdescribes : Describes c call)

/-- A call that is not refused leaves timer and shadow about itself. -/
theorem describes_of_setTimer {c c' : Controller ρ} {call : Call ρ}
    (h : (c.record call call.timeout).setTimer call = some c') : Describes c' call := by
  unfold Controller.setTimer at h
  split at h
  next hidle =>
    simp only [Option.some.injEq] at h
    subst h
    have hstatus : ((c.record call call.timeout).ffrtTimer.set .sleep call.handle).status call.handle =
        .queued .sleep c.ffrtTimer.count := Timers.set_status_self ..
    refine ⟨⟨call.handle, c.ffrtTimer.count, hstatus, Function.update_self .., fun h' serial' hqueued => ?_⟩,
      rfl, rfl, rfl, rfl, rfl⟩
    exact (c.wellFormed.set .sleep hidle).queued_unique hqueued hstatus
  next => simp at h

theorem Tracks.startSleepTimer {c c' : Controller ρ} {calls : List (Call ρ)} {call : Call ρ} (h : Tracks c calls)
    (hadmitted : call.Admitted) (hstep : startSleepTimer call c = some c') : Tracks c' (calls ++ [call]) := by
  rw [startSleepTimer_of_admitted hadmitted] at hstep
  split_ifs at hstep with hoverflow hlater
  · -- The deadline does not fit: nothing changes, and it is later than any that does.
    simp only [Option.some.injEq] at hstep
    subst hstep
    have hnot : ¬ call.Fits := by
      unfold Call.Fits
      omega
    cases h with
    | unset hsleep hnone =>
      apply Tracks.unset hsleep
      intro other hother
      rw [List.mem_append, List.mem_singleton] at hother
      obtain hother | rfl := hother
      · exact hnone other hother
      · exact hnot
    | set best hearliest hfits hdescribes =>
      have hless : best.timeout < call.timeout := by
        unfold Call.Fits at hfits
        omega
      exact .set best (hearliest.append_later hless) hfits hdescribes
  · -- Refused: the pending request is earlier.
    simp only [Option.some.injEq] at hstep
    subst hstep
    cases h with
    | unset hsleep hnone => exact absurd hsleep hlater.2
    | set best hearliest hfits hdescribes =>
      have hless : best.timeout < call.timeout := by
        rw [← hdescribes.sleepTime]
        exact hlater.1
      exact .set best (hearliest.append_later hless) hfits hdescribes
  · have hfits : call.Fits := by
      unfold Call.Fits
      omega
    refine .set call ?_ hfits (describes_of_setTimer hstep)
    apply earliest_last
    intro other hother
    cases h with
    | unset hsleep hnone =>
      have hnot := hnone other hother
      unfold Call.Fits at hfits hnot
      omega
    | set best hearliest hbest hdescribes =>
      have hle := hearliest.le hother
      have hset : c.sleepTime ≠ -1 := by
        rw [hdescribes.sleepTime]
        unfold Call.timeout
        omega
      have hnotLater : ¬ call.timeout > c.sleepTime := fun hgt => hlater ⟨hgt, hset⟩
      rw [hdescribes.sleepTime] at hnotLater
      omega

/-! ## All calls -/

theorem Tracks.run {c c' : Controller ρ} {seen calls : List (Call ρ)} (h : Tracks c seen)
    (hadmitted : ∀ call ∈ calls, call.Admitted) (hrun : c.run calls = some c') : Tracks c' (seen ++ calls) := by
  induction calls generalizing c seen with
  | nil =>
    simp only [Controller.run, Option.some.injEq] at hrun
    subst hrun
    simpa using h
  | cons call calls ih =>
    simp only [Controller.run, Option.bind_eq_some_iff] at hrun
    obtain ⟨next, hstep, hrest⟩ := hrun
    have hnext := h.startSleepTimer (hadmitted call (by simp)) hstep
    have hall := ih hnext (fun other hother => hadmitted other (by simp [hother])) hrest
    simpa using hall

/-- After calls one after the other, none of which was turned away by the setting and at least one of
which has a deadline that fits, the sleep timer and its shadow are about the earliest of the calls. -/
theorem earliest_wins {c c' : Controller ρ} {calls : List (Call ρ)} (hsleep : c.sleepTime = -1)
    (hadmitted : ∀ call ∈ calls, call.Admitted) (hfits : ∃ call ∈ calls, call.Fits)
    (hrun : c.run calls = some c') : ∃ call, Earliest calls call ∧ Describes c' call := by
  have hstart : Tracks c [] := .unset hsleep (by simp)
  have hend := hstart.run hadmitted hrun
  rw [List.nil_append] at hend
  cases hend with
  | unset hunset hnone =>
    obtain ⟨call, hcall, hfit⟩ := hfits
    exact absurd hfit (hnone call hcall)
  | set call hearliest hfit hdescribes => exact ⟨call, hearliest, hdescribes⟩

end Calls

/-- A controller without requests, and three calls: the second and the third sleep at the same time. -/
def fresh : Controller Nat where
  sleepTime := -1
  sleepReason := 0
  sleepAction := 0
  sleepDuration := 0
  sleepType := 0
  ffrtTimer := {}
  tasks := fun _ => none
  wellFormed := Timers.wellFormed_init

def threeCalls : List (Call Nat) :=
  [⟨2, 1, 5000, 100, 1000, 0⟩, ⟨4, 2, 3000, 200, 1000, 1⟩, ⟨3, 1, 2500, 700, 1000, 2⟩]

theorem earliest_wins_threeCalls :
    ∃ c' call, fresh.run threeCalls = some c' ∧ Earliest threeCalls call ∧ Describes c' call ∧ c'.sleepReason = 3 := by
  have hadmitted : ∀ call ∈ threeCalls, call.Admitted := by
    simp [threeCalls, Call.Admitted]
  have hfits : ∃ call ∈ threeCalls, call.Fits :=
    ⟨_, List.mem_cons_self .., by simp [Call.Fits, Call.timeout, int64Max]⟩
  have hrun : fresh.run threeCalls = some _ := rfl
  obtain ⟨call, hearliest, hdescribes⟩ := earliest_wins rfl hadmitted hfits hrun
  exact ⟨_, call, hrun, hearliest, hdescribes, rfl⟩

end PowerMgr.Suspend.EarliestSleep
