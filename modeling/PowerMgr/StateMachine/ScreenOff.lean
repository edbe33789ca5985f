import PowerMgr.Types
import PowerMgr.Lib.System

/-! # Cancelling a screen-off by the power key

Embedding of `BeginPowerkeyScreenOff`, `IsInterruptingScreenOff`, `EndPowerkeyScreenOff` and
`TryToCancelScreenOff` of `DeviceStateAction` (`device_state_action.cpp`), with the part of
`SetDisplayState` that an attempt by the power key goes through from a lit display.  A step is a
critical section of `cancelScreenOffMutex_`; `TryToCancelScreenOff` is cut in two by its wait.

* `Flags` — the four members that the attempt and the canceller share;
* `Stage`, `Call` — where the attempt and the call stand;
* `Timely` — the moment at which a canceller that waited has to go on;
* `cancel_agrees` — the call and the screen agree exactly if it goes on then, and in runs where it
  always does, no attempt finds anything of an earlier one;
* `cancel_disagrees` — the two ways in which they do not.

The display manager (DMS) cancels what it has been told by `SuspendBegin` or does not, as it
answers; what it has not been told it cannot cancel.
-/

namespace PowerMgr.StateMachine.ScreenOff

/-- The members under `cancelScreenOffMutex_`. -/
structure Flags where
  screenOffStarted : Bool := false
  cancelScreenOffCvUnblocked : Bool := false
  interruptingScreenOff : Bool := false
  screenOffInterrupted : Bool := false
  deriving DecidableEq, Repr

/-- Where the attempt stands. -/
inductive Stage where
  -- no attempt, or after `EndPowerkeyScreenOff`
  | idle
  -- after `BeginPowerkeyScreenOff`
  | begun
  -- `IsInterruptingScreenOff` has said yes, and `SetDisplayState` has failed
  | interrupted
  -- `SuspendBegin` has been called, before the display service is asked to turn the screen off
  | suspendBegun
  -- the display service has been asked
  | displaySet
  deriving DecidableEq, Repr

/-- Where the call of `TryToCancelScreenOff` stands.  When it has returned, `timely` says whether it
went on at the right moment, if it waited at all. -/
inductive Call where
  | notMade
  | waiting
  | returned (result timely : Bool)
  deriving DecidableEq, Repr

/-- The state of one attempt after the other; the last two fields are about the latest. -/
structure State where
  flags : Flags := {}
  stage : Stage := .idle
  call : Call := .notMade
  -- DMS has been told `SuspendBegin` for the attempt and has not cancelled it
  suspending : Bool := false
  -- the attempt has turned the screen off
  screenOff : Bool := false
  deriving DecidableEq, Repr

/-- The steps; `answer` is what DMS answers if it is asked. -/
inductive Event where
  | begin
  -- `SetDisplayState` up to the result of `IsInterruptingScreenOff`
  | check
  -- the rest of it: the display service is asked to turn the screen off
  | setDisplay
  | finish
  -- `TryToCancelScreenOff` up to its wait, or to its end if it need not wait
  | tryToCancel (answer : Bool)
  -- the rest of it, `timeout` if the 300 ms are over
  | resume (timeout answer : Bool)
  deriving DecidableEq, Repr

/-! ## The functions of `DeviceStateAction` -/

/-- `BeginPowerkeyScreenOff`: all four members are set. -/
def beginPowerkeyScreenOff : Flags where
  screenOffStarted := true
  cancelScreenOffCvUnblocked := false
  interruptingScreenOff := false
  screenOffInterrupted := false

/-- `EndPowerkeyScreenOff`: so they are here. -/
def endPowerkeyScreenOff : Flags where
  screenOffStarted := false
  cancelScreenOffCvUnblocked := true
  interruptingScreenOff := false
  screenOffInterrupted := false

/-- `IsInterruptingScreenOff`.  If it says no it has called `SuspendBegin`. -/
def isInterruptingScreenOff (reason : StateChangeReason) (f : Flags) : Flags × Bool :=
  if reason = .hardKey then
    if f.screenOffStarted && f.interruptingScreenOff then
      ({ f with screenOffInterrupted := true, cancelScreenOffCvUnblocked := true }, true)
    else ({ f with cancelScreenOffCvUnblocked := true }, false)
  else (f, false)

/-- `TryToCancelScreenOff` after its wait, with the value of `timely` to note.  DMS is asked unless
the attempt has been interrupted; it cannot cancel what it has not been told, and what it cancels does
not turn the screen off. -/
def State.cancel (s : State) (timely answer : Bool) : Option State :=
  if s.flags.screenOffInterrupted then some { s with call := .returned true timely }
  else if answer && !s.suspending then none
  else some { s with
    flags := { s.flags with screenOffInterrupted := answer }
    call := .returned answer timely
    suspending := s.suspending && !answer
    screenOff := s.screenOff && !answer }

def State.tryToCancelScreenOff (s : State) (answer : Bool) : Option State :=
  if !s.flags.screenOffStarted then some { s with call := .returned false true }
  else
    let s := { s with flags := { s.flags with interruptingScreenOff := true } }
    if s.flags.cancelScreenOffCvUnblocked then s.cancel true answer else some { s with call := .waiting }

/-! ## Steps -/

/-- The attempt is past the check and has not ended: a canceller that waited goes on in time. -/
def Timely (s : State) : Bool :=
  s.stage = .interrupted || s.stage = .suspendBegun || s.stage = .displaySet

def next (s : State) : Event → Option State
  | .begin =>
    if s.stage = .idle then some {
      flags := beginPowerkeyScreenOff
      stage := .begun
      call := if s.call = .waiting then .waiting else .notMade
      suspending := false
      screenOff := false }
    else none
  | .check =>
    if s.stage = .begun then
      let (flags, interrupting) := isInterruptingScreenOff .hardKey s.flags
      if interrupting then some { s with flags := flags, stage := .interrupted }
      else some { s with flags := flags, stage := .suspendBegun, suspending := true }
    else none
  | .setDisplay =>
    if s.stage = .suspendBegun then some { s with stage := .displaySet, screenOff := s.suspending } else none
  | .finish =>
    if s.stage = .interrupted ∨ s.stage = .displaySet then
      some { s with flags := endPowerkeyScreenOff, stage := .idle }
    else none
  | .tryToCancel answer => if s.call = .notMade then s.tryToCancelScreenOff answer else none
  | .resume timeout answer =>
    if s.call = .waiting ∧ (s.flags.cancelScreenOffCvUnblocked || timeout) then s.cancel (Timely s) answer else none

/-- Runs begin with the first attempt, right after its `BeginPowerkeyScreenOff`; the call is made
after that. -/
def system : Lib.System State Event where
  init := (· = { flags := beginPowerkeyScreenOff, stage := .begun })
  next := next

/-- No attempt begins while the call made in an earlier one still waits. -/
def OneAtATime (s : State) (e : Event) : Prop :=
  e = .begin → s.call ≠ .waiting

/-- A canceller that waits goes on before the attempt ends, and not before the check. -/
def InTime (s : State) : Event → Prop
  | .resume _ _ => Timely s = true
  | .finish => s.call ≠ .waiting
  | _ => True

/-! ## The invariant -/

/-- After `SuspendBegin`: the call that comes now is answered by DMS, and its answer is in the flag. -/
structure Suspended (s : State) : Prop where
  started : s.flags.screenOffStarted = true
  unblocked : s.flags.cancelScreenOffCvUnblocked = true
  interrupted : s.flags.screenOffInterrupted = !s.suspending
  call : s.call = .notMade ∧ s.suspending = true ∨ s.call = .returned (!s.suspending) true

/-- What the flags and the call say in each stage of the attempt. -/
def Placed (s : State) : Prop :=
  match s.stage with
  | .begun => s.flags.screenOffStarted = true ∧ s.flags.cancelScreenOffCvUnblocked = false ∧
      s.flags.screenOffInterrupted = false ∧ s.suspending = false ∧ s.screenOff = false ∧
      (s.flags.interruptingScreenOff = false ∧ s.call = .notMade ∨
        s.flags.interruptingScreenOff = true ∧ (s.call = .waiting ∨ s.call = .returned false false))
  | .interrupted => s.flags.screenOffInterrupted = true ∧ s.suspending = false ∧ s.screenOff = false ∧
      (s.call = .waiting ∨ ∃ timely, s.call = .returned timely timely)
  | .suspendBegun => Suspended s
  | .displaySet => Suspended s ∧ s.screenOff = s.suspending
  | .idle => s.flags.screenOffStarted = false ∧ s.suspending = s.screenOff ∧
      (s.call = .notMade ∧ s.screenOff = true ∨
        s.call = .waiting ∧ s.screenOff = false ∧ s.flags.screenOffInterrupted = false ∨
        ∃ result timely, s.call = .returned result timely ∧
          ((result = true ↔ s.screenOff = false) ↔ timely = true))

variable {s s' : State}

theorem placed_begin (hcall : s.call ≠ .waiting) (hnext : next s .begin = some s') : Placed s' := by
  simp only [next, Option.ite_none_right_eq_some, Option.some.injEq, if_neg hcall] at hnext
  obtain ⟨-, rfl⟩ := hnext
  exact ⟨rfl, rfl, rfl, rfl, rfl, .inl ⟨rfl, rfl⟩⟩

theorem placed_check (h : Placed s) (hnext : next s .check = some s') : Placed s' := by
  simp only [next, Option.ite_none_right_eq_some] at hnext
  obtain ⟨hstage, hnext⟩ := hnext
  rw [Placed, hstage] at h
  obtain ⟨hstarted, hblocked, hinterrupted, hsuspending, hscreen, hcall⟩ := h
  obtain ⟨hflag, hcall⟩ | ⟨hflag, hcall⟩ := hcall
  · simp [isInterruptingScreenOff, hstarted, hflag] at hnext
    subst hnext
    exact ⟨rfl, rfl, hinterrupted, .inl ⟨hcall, rfl⟩⟩
  · simp [isInterruptingScreenOff, hstarted, hflag] at hnext
    subst hnext
    refine ⟨rfl, hsuspending, hscreen, ?_⟩
    obtain hcall | hcall := hcall
    · exact .inl hcall
    · exact .inr ⟨false, hcall⟩

theorem placed_setDisplay (h : Placed s) (hnext : next s .setDisplay = some s') : Placed s' := by
  simp only [next, Option.ite_none_right_eq_some, Option.some.injEq] at hnext
  obtain ⟨hstage, rfl⟩ := hnext
  rw [Placed, hstage] at h
  exact ⟨⟨h.started, h.unblocked, h.interrupted, h.call⟩, rfl⟩

theorem placed_finish (h : Placed s) (hnext : next s .finish = some s') : Placed s' := by
  simp only [next, Option.ite_none_right_eq_some, Option.some.injEq] at hnext
  obtain ⟨hstage, rfl⟩ := hnext
  obtain hstage | hstage := hstage
  · rw [Placed, hstage] at h
    obtain ⟨-, hsuspending, hscreen, hcall⟩ := h
    refine ⟨rfl, hsuspending.trans hscreen.symm, ?_⟩
    obtain hcall | ⟨timely, hcall⟩ := hcall
    · -- `screenOffInterrupted_` is cleared before the canceller has read it
      exact .inr (.inl ⟨hcall, hscreen, rfl⟩)
    · refine .inr (.inr ⟨timely, timely, hcall, ?_⟩)
      rw [hscreen]
      simp
  · rw [Placed, hstage] at h
    obtain ⟨hsuspended, hscreen⟩ := h
    refine ⟨rfl, hscreen.symm, ?_⟩
    obtain ⟨hcall, hsuspending⟩ | hcall := hsuspended.call
    · exact .inl ⟨hcall, hscreen.trans hsuspending⟩
    · refine .inr (.inr ⟨_, _, hcall, ?_⟩)
      rw [hscreen]
      simp

/-- A call made past the check asks DMS, which answers for the attempt. -/
theorem Suspended.tryToCancel {answer : Bool} (h : Suspended s) (hcall : s.call = .notMade)
    (hnext : s.tryToCancelScreenOff answer = some s') :
    Suspended s' ∧ s'.stage = s.stage ∧ (s.screenOff = s.suspending → s'.screenOff = s'.suspending) := by
  have hsuspending : s.suspending = true := by
    obtain ⟨-, hsuspending⟩ | hreturned := h.call
    · exact hsuspending
    · rw [hcall] at hreturned
      cases hreturned
  have hclear : s.flags.screenOffInterrupted = false := by
    rw [h.interrupted, hsuspending]
    rfl
  simp only [State.tryToCancelScreenOff, h.started, h.unblocked, State.cancel, hclear, hsuspending, Bool.not_true,
    Bool.false_eq_true, if_false, if_true, Bool.and_false, Bool.true_and, Option.some.injEq] at hnext
  subst hnext
  refine ⟨⟨rfl, rfl, (Bool.not_not answer).symm, .inr ?_⟩, rfl, fun hscreen => ?_⟩
  · rw [Bool.not_not]
  · rw [hscreen, hsuspending, Bool.true_and]

theorem placed_tryToCancel {answer : Bool} (h : Placed s) (hnext : next s (.tryToCancel answer) = some s') :
    Placed s' := by
  simp only [next, Option.ite_none_right_eq_some] at hnext
  obtain ⟨hcall, hnext⟩ := hnext
  cases hstage : s.stage with
  | begun =>
    rw [Placed, hstage] at h
    obtain ⟨hstarted, hblocked, hinterrupted, hsuspending, hscreen, -⟩ := h
    simp [State.tryToCancelScreenOff, hstarted, hblocked] at hnext
    subst hnext
    simp [Placed, hstage, hinterrupted, hsuspending, hscreen]
  | interrupted =>
    rw [Placed, hstage] at h
    simp [hcall] at h
  | idle =>
    rw [Placed, hstage] at h
    obtain ⟨hstarted, hsuspending, hrest⟩ := h
    simp [hcall] at hrest
    simp [State.tryToCancelScreenOff, hstarted] at hnext
    subst hnext
    simp [Placed, hstage, hstarted, hsuspending, hrest]
  | suspendBegun =>
    rw [Placed, hstage] at h
    obtain ⟨hsuspended, hstage', -⟩ := h.tryToCancel hcall hnext
    rw [Placed, hstage', hstage]
    exact hsuspended
  | displaySet =>
    rw [Placed, hstage] at h
    obtain ⟨hsuspended, hstage', hscreen⟩ := h.1.tryToCancel hcall hnext
    rw [Placed, hstage', hstage]
    exact ⟨hsuspended, hscreen h.2⟩

/-- A canceller that finds the attempt not interrupted, and DMS with nothing to cancel, returns `false`
and leaves everything as it is. -/
theorem cancel_nothing {timely answer : Bool} (hinterrupted : s.flags.screenOffInterrupted = false)
    (hsuspending : s.suspending = false) (hnext : s.cancel timely answer = some s') :
    s' = { s with call := .returned false timely } := by
  cases answer with
  | true => simp [State.cancel, hinterrupted, hsuspending] at hnext
  | false =>
    have hflags : { s.flags with screenOffInterrupted := false } = s.flags := by
      rw [← hinterrupted]
    simp [State.cancel, hinterrupted, hflags] at hnext
    exact hnext.symm

/-- A canceller that has waited finds the attempt interrupted if it goes on in time, and is told by DMS
that there is nothing to cancel if it does not. -/
theorem placed_resume {timeout answer : Bool} (h : Placed s) (hnext : next s (.resume timeout answer) = some s') :
    Placed s' := by
  simp only [next, Option.ite_none_right_eq_some] at hnext
  obtain ⟨⟨hcall, -⟩, hnext⟩ := hnext
  cases hstage : s.stage with
  | begun =>
    -- the wait has timed out; the request stays behind for the check
    have huntimely : Timely s = false := by
      simp [Timely, hstage]
    rw [Placed, hstage] at h
    obtain ⟨hstarted, hblocked, hinterrupted, hsuspending, hscreen, hrest⟩ := h
    rw [huntimely] at hnext
    rw [cancel_nothing hinterrupted hsuspending hnext, Placed]
    simp [hstage, hstarted, hblocked, hinterrupted, hsuspending, hscreen]
    simpa [hcall] using hrest
  | interrupted =>
    have htimely : Timely s = true := by
      simp [Timely, hstage]
    rw [Placed, hstage] at h
    obtain ⟨hinterrupted, hsuspending, hscreen, -⟩ := h
    simp only [State.cancel, hinterrupted, if_true, htimely, Option.some.injEq] at hnext
    subst hnext
    simp [Placed, hstage, hinterrupted, hsuspending, hscreen]
  | idle =>
    -- the attempt has ended; it was interrupted, but the flag says so no more
    have huntimely : Timely s = false := by
      simp [Timely, hstage]
    rw [Placed, hstage] at h
    obtain ⟨hstarted, hsuspending, hrest⟩ := h
    simp [hcall] at hrest
    obtain ⟨hscreen, hinterrupted⟩ := hrest
    rw [huntimely] at hnext
    rw [cancel_nothing hinterrupted (hsuspending.trans hscreen) hnext, Placed]
    simp [hstage, hstarted, hsuspending, hscreen]
  | suspendBegun =>
    rw [Placed, hstage] at h
    have hreturned := h.call
    simp [hcall] at hreturned
  | displaySet =>
    rw [Placed, hstage] at h
    have hreturned := h.1.call
    simp [hcall] at hreturned

theorem placed_next {e : Event} (h : Placed s) (hone : OneAtATime s e) (hnext : next s e = some s') : Placed s' := by
  cases e with
  | begin => exact placed_begin (hone rfl) hnext
  | check => exact placed_check h hnext
  | setDisplay => exact placed_setDisplay h hnext
  | finish => exact placed_finish h hnext
  | tryToCancel answer => exact placed_tryToCancel h hnext
  | resume timeout answer => exact placed_resume h hnext

theorem placed_of_reach (h : system.Reach OneAtATime s) : Placed s := by
  refine Lib.System.Reach.invariant (I := Placed) (fun s hs => ?_)
    (fun s s' e hplaced hone hnext => placed_next hplaced hone hnext) h
  cases hs
  exact ⟨rfl, rfl, rfl, rfl, rfl, .inl ⟨rfl, rfl⟩⟩

/-! ## Cancellers that go on in time -/

/-- The canceller waits only in the stages where the attempt is still to be told, or has just been
told, and every call that has returned went on in time. -/
structure Punctual (s : State) : Prop where
  waiting : s.call = .waiting → s.stage = .begun ∨ s.stage = .interrupted
  returned : ∀ result timely, s.call = .returned result timely → timely = true

theorem Suspended.punctual (h : Suspended s) : Punctual s := by
  obtain ⟨hcall, -⟩ | hcall := h.call
  · exact ⟨fun hwaiting => absurd (hcall.symm.trans hwaiting) nofun,
      fun _ _ hreturned => absurd (hcall.symm.trans hreturned) nofun⟩
  · refine ⟨fun hwaiting => absurd (hcall.symm.trans hwaiting) nofun, fun result timely hreturned => ?_⟩
    cases hcall.symm.trans hreturned
    rfl

/-- The call waits only if it is made before the check. -/
theorem punctual_tryToCancel {answer : Bool} (hplaced : Placed s)
    (hnext : next s (.tryToCancel answer) = some s') : Punctual s' := by
  simp only [next, Option.ite_none_right_eq_some] at hnext
  obtain ⟨hcall, hnext⟩ := hnext
  cases hstage : s.stage with
  | begun =>
    rw [Placed, hstage] at hplaced
    obtain ⟨hstarted, hblocked, -⟩ := hplaced
    simp [State.tryToCancelScreenOff, hstarted, hblocked] at hnext
    subst hnext
    exact ⟨fun _ => .inl hstage, nofun⟩
  | interrupted =>
    rw [Placed, hstage] at hplaced
    simp [hcall] at hplaced
  | idle =>
    rw [Placed, hstage] at hplaced
    simp [State.tryToCancelScreenOff, hplaced.1] at hnext
    subst hnext
    refine ⟨nofun, fun result timely hreturned => ?_⟩
    cases hreturned
    rfl
  | suspendBegun =>
    rw [Placed, hstage] at hplaced
    exact (hplaced.tryToCancel hcall hnext).1.punctual
  | displaySet =>
    rw [Placed, hstage] at hplaced
    exact (hplaced.1.tryToCancel hcall hnext).1.punctual

theorem punctual_cancel {answer : Bool} (hnext : s.cancel true answer = some s') : Punctual s' := by
  unfold State.cancel at hnext
  split at hnext
  · cases hnext
    refine ⟨nofun, fun result timely hreturned => ?_⟩
    cases hreturned
    rfl
  · split at hnext
    · cases hnext
    · cases hnext
      refine ⟨nofun, fun result timely hreturned => ?_⟩
      cases hreturned
      rfl

theorem punctual_next {e : Event} (hplaced : Placed s) (h : Punctual s) (hintime : InTime s e)
    (hnext : next s e = some s') : Punctual s' := by
  cases e with
  | begin =>
    simp only [next, Option.ite_none_right_eq_some, Option.some.injEq] at hnext
    obtain ⟨-, rfl⟩ := hnext
    refine ⟨fun _ => .inl rfl, fun result timely hreturned => ?_⟩
    dsimp only at hreturned
    split at hreturned <;> cases hreturned
  | check =>
    simp only [next, Option.ite_none_right_eq_some] at hnext
    obtain ⟨hstage, hnext⟩ := hnext
    rw [Placed, hstage] at hplaced
    obtain ⟨hstarted, -, -, -, -, hcall⟩ := hplaced
    obtain ⟨hflag, hcall⟩ | ⟨hflag, hcall⟩ := hcall
    · simp [isInterruptingScreenOff, hstarted, hflag] at hnext
      subst hnext
      exact ⟨fun hwaiting => absurd (hcall.symm.trans hwaiting) nofun, h.returned⟩
    · simp [isInterruptingScreenOff, hstarted, hflag] at hnext
      subst hnext
      exact ⟨fun _ => .inr rfl, h.returned⟩
  | setDisplay =>
    simp only [next, Option.ite_none_right_eq_some, Option.some.injEq] at hnext
    obtain ⟨hstage, rfl⟩ := hnext
    refine ⟨fun hwaiting => ?_, h.returned⟩
    have hbefore := h.waiting hwaiting
    simp [hstage] at hbefore
  | finish =>
    simp only [next, Option.ite_none_right_eq_some, Option.some.injEq] at hnext
    obtain ⟨-, rfl⟩ := hnext
    exact ⟨fun hwaiting => absurd hwaiting hintime, h.returned⟩
  | tryToCancel answer => exact punctual_tryToCancel hplaced hnext
  | resume timeout answer =>
    simp only [next, Option.ite_none_right_eq_some] at hnext
    have htimely : Timely s = true := hintime
    rw [htimely] at hnext
    exact punctual_cancel hnext.2

theorem punctual_of_reach (h : system.Reach InTime s) : system.Reach OneAtATime s ∧ Punctual s := by
  induction h with
  | init hs =>
    refine ⟨.init hs, ?_⟩
    cases hs
    exact ⟨nofun, nofun⟩
  | @step s s' e _ hintime hnext ih =>
    have hone : OneAtATime s e := by
      rintro rfl hwaiting
      have hstage : s.stage = .idle := by
        by_contra hstage
        simp [system, next, hstage] at hnext
      have hbefore := ih.2.waiting hwaiting
      simp [hstage] at hbefore
    exact ⟨.step e ih.1 hone hnext, punctual_next (placed_of_reach ih.1) ih.2 hintime hnext⟩

/-! ## The result -/

/-- When an attempt has ended and its call has returned, the two agree exactly if the call went on
in time.  In runs where calls always do, no call is left waiting when an attempt has ended, they
agree, and the next attempt begins with flags of its own. -/
theorem cancel_agrees (s : State) (hstage : s.stage = .idle) :
    (system.Reach OneAtATime s → ∀ result timely, s.call = .returned result timely →
      ((result = true ↔ s.screenOff = false) ↔ timely = true)) ∧
    (system.Reach InTime s →
      (∀ result timely, s.call = .returned result timely → (result = true ↔ s.screenOff = false)) ∧
      s.call ≠ .waiting ∧
      ∀ s', next s .begin = some s' → s' = { flags := beginPowerkeyScreenOff, stage := .begun }) := by
  have hexact : system.Reach OneAtATime s → ∀ result timely, s.call = .returned result timely →
      ((result = true ↔ s.screenOff = false) ↔ timely = true) := by
    intro hreach result timely hcall
    have hplaced := placed_of_reach hreach
    rw [Placed, hstage] at hplaced
    obtain ⟨hnotMade, -⟩ | ⟨hwaiting, -⟩ | ⟨result', timely', hreturned, hagrees⟩ := hplaced.2.2
    · cases hcall.symm.trans hnotMade
    · cases hcall.symm.trans hwaiting
    · cases hcall.symm.trans hreturned
      exact hagrees
  refine ⟨hexact, fun hreach => ?_⟩
  obtain ⟨hone, hpunctual⟩ := punctual_of_reach hreach
  have hcall : s.call ≠ .waiting := by
    intro hwaiting
    have hbefore := hpunctual.waiting hwaiting
    simp [hstage] at hbefore
  refine ⟨fun result timely hreturned => ?_, hcall, fun s' hnext => ?_⟩
  · exact (hexact hone result timely hreturned).mpr (hpunctual.returned result timely hreturned)
  · simp only [next, hstage, if_true, if_neg hcall, Option.some.injEq] at hnext
    exact hnext.symm

/-- The canceller waits, the check sees its request, and it goes on before the attempt ends. -/
theorem cancel_agrees_interruptedBeforeSuspendBegin :
    ∃ s, system.run { flags := beginPowerkeyScreenOff, stage := .begun }
        [.tryToCancel false, .check, .resume false false, .finish] = some s ∧
      s.call = .returned true true ∧ s.screenOff = false := by
  have hreach : system.Reach InTime { flags := endPowerkeyScreenOff, call := .returned true true } := by
    refine .step .finish (.step (.resume false false) (.step .check (.step (.tryToCancel false) (.init rfl) ?_ rfl)
      ?_ rfl) ?_ rfl) ?_ rfl
    · exact trivial
    · exact trivial
    · rfl
    · exact nofun
  exact ⟨_, rfl, rfl, (((cancel_agrees _ rfl).2 hreach).1 true true rfl).mp rfl⟩

/-- The call and the screen disagree when the attempt ends before the canceller has read the flag, and
when the 300 ms are over before the check: the call returns `false`, and the screen stays on.  In the
first case the canceller may even sleep into the next attempt and cancel that. -/
theorem cancel_disagrees :
    (∃ s, system.run { flags := beginPowerkeyScreenOff, stage := .begun }
        [.tryToCancel false, .check, .finish, .resume false false] = some s ∧
      s.stage = .idle ∧ s.call = .returned false false ∧ s.screenOff = false) ∧
    (∃ s, system.run { flags := beginPowerkeyScreenOff, stage := .begun }
        [.tryToCancel false, .resume true false, .check, .finish] = some s ∧
      s.stage = .idle ∧ s.call = .returned false false ∧ s.screenOff = false) ∧
    (∃ s, system.run { flags := beginPowerkeyScreenOff, stage := .begun }
        [.tryToCancel false, .check, .finish, .begin, .check, .resume false true, .setDisplay, .finish] = some s ∧
      s.stage = .idle ∧ s.screenOff = false) :=
  ⟨⟨_, rfl, rfl, rfl, rfl⟩, ⟨_, rfl, rfl, rfl, rfl⟩, ⟨_, rfl, rfl, rfl⟩⟩

end PowerMgr.StateMachine.ScreenOff
