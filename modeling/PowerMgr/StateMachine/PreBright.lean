import PowerMgr.StateMachine.DisplayAgree

/-! # The pre-bright window

A request with `PRE_BRIGHT` opens a window for the result of an authentication: `HandlePreBrightState`
lets a result through only while `preBrightState_` is `PRE_BRIGHT_STARTED`.  A timer delivers the
result "failed" after three seconds; its task may have started when the timer is cancelled, and then
waits for `stateMutex_` like any other request.

* `setState` — a request, with what `HandlePreBrightState` does to the timer and with a log of the
  requests it let through.
* `WindowOpen` — the last of these that is not about going to sleep was a `PRE_BRIGHT`.
* `preBright_protocol` — results are accepted in an open window only, each closes its window, and
  every other result is turned down and changes nothing.
-/

namespace PowerMgr.StateMachine.PreBright

/-- `PRE_BRIGHT` and the results that answer it. -/
def isPreBrightReason (reason : StateChangeReason) : Bool :=
  reason = .preBright || isPreBrightAuthReason reason

/-- A request that `HandlePreBrightState` let through, so that the action of its state was run. -/
structure Passed where
  state : PowerState
  reason : StateChangeReason
  deriving DecidableEq, Repr

/-- The state machine, the task queued on `TIMER_ID_PRE_BRIGHT_AUTH`, the tasks of that timer that
have started and wait for `stateMutex_`, and the log, latest first.  Tasks are numbered by the
`PRE_BRIGHT` that submitted them; `windows` is the number of those. -/
structure State where
  machine : Machine
  queued : Option Nat := none
  fired : List Nat := []
  windows : Nat := 0
  passed : List Passed := []

/-- A call of `SetState` with the display it finds and the answers it gets. -/
structure Request where
  state : PowerState
  reason : StateChangeReason
  force : Bool := true
  observed : DisplayState
  answers : Answers := {}

namespace Request

variable (cfg : Config) (r : Request) (s : State)

/-- `SetState` gets to `TransitTo`: no time-out that has been overtaken, and a state that has a
controller. -/
def reaches : Bool :=
  (!isTimeoutReason r.reason || r.answers.taskAvailable) && r.state ≠ .unknown

def ignoreLock : Bool :=
  r.force || isTimeoutReason r.reason && r.answers.forceTimingOut

def before : Machine :=
  { s.machine with display := r.observed }

/-- `currentState_` after `MatchState`. -/
def corrected : PowerState :=
  matchState r.state s.machine.currentState r.observed

/-- The checks that `TransitTo` makes before `HandlePreBrightState`. -/
def admitted : Bool :=
  checkState cfg r.state (r.corrected s) &&
    (r.reason = .init || canTransitTo cfg r.answers (r.corrected s) r.state r.reason) &&
    (r.ignoreLock || checkRunningLock r.answers r.state)

def handled : Machine × Bool :=
  handlePreBrightState r.answers r.state r.reason { r.before s with currentState := r.corrected s }

def passes : Bool :=
  r.reaches && r.admitted cfg s && (r.handled s).2

def transit : Machine × TransitResult :=
  transitTo cfg r.answers r.state r.reason r.ignoreLock (r.before s)

end Request

/-- The log and the timer after a request that passed; `was` is `preBrightState_` before it. -/
def State.letThrough (r : Request) (was : PreBrightState) (s : State) : State :=
  { s with
    passed := { state := r.state, reason := r.reason } :: s.passed
    windows := if r.reason = .preBright then s.windows + 1 else s.windows
    queued :=
      if r.reason = .preBright then some s.windows
      else if isPreBrightAuthReason r.reason then s.queued
      else if r.state ≠ .sleep ∧ was = .started then none
      else s.queued }

/-- `PowerStateMachine::SetState`; `none` when it returns before `TransitTo`. -/
def setState (cfg : Config) (r : Request) (s : State) : State × Option TransitResult :=
  if r.reaches then
    let s' := { s with machine := (r.transit cfg s).1 }
    (if r.passes cfg s then s'.letThrough r s.machine.preBrightState else s', some (r.transit cfg s).2)
  else (s, none)

/-- The request that the task of the timer makes. -/
def authTimeout (observed : DisplayState) (answers : Answers) : Request where
  state := .awake
  reason := .preBrightAuthFailScreenOff
  observed := observed
  answers := answers

/-- A request; the cancellation that `HandlePreBrightWakeUp` makes before the request of a client's
result; the timer fires; a task that has fired makes its request. -/
inductive Event where
  | request (r : Request)
  | cancelTimer
  | fire
  | timerRequest (task : Nat) (observed : DisplayState) (answers : Answers)

def next (cfg : Config) (s : State) : Event → Option State
  | .request r => some (setState cfg r s).1
  | .cancelTimer => some { s with queued := none }
  | .fire =>
    match s.queued with
    | none => none
    | some task => some { s with queued := none, fired := task :: s.fired }
  | .timerRequest task observed answers =>
    if task ∈ s.fired then
      some (setState cfg (authTimeout observed answers) { s with fired := s.fired.erase task }).1
    else none

/-- The state machine before `InitState`. -/
def system (cfg : Config) : Lib.System State Event where
  init s := ∃ display, s = { machine := { display := display } }
  next := next cfg

/-! ## The log -/

/-- Requests for `SLEEP` leave the window alone, unless they belong to the protocol themselves. -/
def Passed.counts (p : Passed) : Bool :=
  p.state ≠ .sleep || isPreBrightReason p.reason

/-- The last request that counts was a `PRE_BRIGHT`. -/
def WindowOpen (log : List Passed) : Prop :=
  (log.find? Passed.counts).map Passed.reason = some .preBright

instance (log : List Passed) : Decidable (WindowOpen log) :=
  inferInstanceAs (Decidable (_ = _))

/-- Every result in the log was accepted in an open window. -/
def Answered : List Passed → Prop
  | [] => True
  | p :: log => (isPreBrightAuthReason p.reason = true → WindowOpen log) ∧ Answered log

def results (log : List Passed) : Nat :=
  log.countP fun p => isPreBrightAuthReason p.reason

def openings (log : List Passed) : Nat :=
  log.countP fun p => p.reason = .preBright

theorem windowOpen_cons_of_counts {p : Passed} {log : List Passed} (h : p.counts = true) :
    WindowOpen (p :: log) ↔ p.reason = .preBright := by
  simp only [WindowOpen, List.find?_cons, h, Option.map_some, Option.some.injEq]

theorem windowOpen_cons_of_not_counts {p : Passed} {log : List Passed} (h : p.counts = false) :
    WindowOpen (p :: log) ↔ WindowOpen log := by
  simp only [WindowOpen, List.find?_cons, h]

theorem counts_of_isPreBrightReason {p : Passed} (h : isPreBrightReason p.reason = true) : p.counts = true := by
  simp only [Passed.counts, h, Bool.or_true]

/-- There are at most as many results as openings, and one less while a window is open. -/
theorem results_le_openings {log : List Passed} (h : Answered log) :
    results log + (if WindowOpen log then 1 else 0) ≤ openings log := by
  induction log with
  | nil =>
    simp [results, openings, WindowOpen]
  | cons p log ih =>
    have hbefore := ih h.2
    by_cases hopening : p.reason = .preBright
    -- one opening more, and a window is open
    · have hcounts : p.counts = true := counts_of_isPreBrightReason (by simp [isPreBrightReason, hopening])
      rw [if_pos ((windowOpen_cons_of_counts hcounts).mpr hopening)]
      simp only [results, openings, List.countP_cons, hopening, isPreBrightAuthReason] at hbefore ⊢
      simp only [Bool.false_eq_true, if_false, decide_true, if_true]
      omega
    · cases hresult : isPreBrightAuthReason p.reason with
      | true =>
        -- the window that the result was accepted in is closed now
        have hcounts : p.counts = true := counts_of_isPreBrightReason (by simp [isPreBrightReason, hresult])
        rw [if_pos (h.1 hresult)] at hbefore
        rw [if_neg fun hopen => hopening ((windowOpen_cons_of_counts hcounts).mp hopen)]
        simp only [results, openings, List.countP_cons, hresult, hopening] at hbefore ⊢
        simpa using hbefore
      | false =>
        -- neither an opening nor a result: a window that is open was open before
        have hopen : WindowOpen (p :: log) → WindowOpen log := by
          intro hopen
          cases hcounts : p.counts with
          | true => exact absurd ((windowOpen_cons_of_counts hcounts).mp hopen) hopening
          | false => exact (windowOpen_cons_of_not_counts hcounts).mp hopen
        have hless : (if WindowOpen (p :: log) then 1 else 0) ≤ if WindowOpen log then 1 else 0 := by
          by_cases hafter : WindowOpen (p :: log)
          · simp [hafter, hopen hafter]
          · rw [if_neg hafter]
            exact Nat.zero_le _
        simp only [results, openings, List.countP_cons, hresult, hopening] at hbefore ⊢
        simp only [Bool.false_eq_true, decide_false, if_false, Nat.add_zero]
        omega

/-! ## One request -/

section Request

variable {cfg : Config} {r : Request} {s : State}

@[simp] theorem action_preBrightState (answers : Answers) (state : PowerState) (reason : StateChangeReason)
    (m : Machine) :
    (action cfg answers state reason m).1.preBrightState = m.preBrightState := by
  have hdisplay : ∀ ok state' reason' (m' : Machine),
      (setDisplayState ok state' reason' m').1.preBrightState = m'.preBrightState := by
    intro ok state' reason' m'
    unfold setDisplayState
    repeat' split
    all_goals rfl
  unfold action
  split
  · simp only [actionAwake]
    split <;> exact hdisplay ..
  · simp only [actionInactive]
    split
    · rfl
    · split <;> exact hdisplay ..
  · simp only [actionDim]
    split
    · rfl
    · split
      · rw [hdisplay, hdisplay]
      · split <;> exact hdisplay ..
  · rfl

/-- A request that passes runs the action of its state, on the machine that the bookkeeping left. -/
theorem transit_of_passes (h : r.passes cfg s = true) :
    r.transit cfg s =
      (let ret := action cfg r.answers r.state r.reason (r.handled s).1
       if ret.2 = .success then ({ ret.1 with currentState := r.state }, ret.2) else ret) := by
  simp only [Request.passes, Request.admitted, Bool.and_eq_true, Bool.or_eq_true, decide_eq_true_eq] at h
  obtain ⟨⟨-, ⟨hcheck, hcan⟩, hlock⟩, hhandled⟩ := h
  have hpassed : ¬(r.reason ≠ .init ∧ canTransitTo cfg r.answers (r.corrected s) r.state r.reason = false) := by
    rintro ⟨hinit, hforbidden⟩
    cases hcan with
    | inl hreason => exact hinit hreason
    | inr hallowed =>
      rw [hallowed] at hforbidden
      cases hforbidden
  have hfree : (!r.ignoreLock && !checkRunningLock r.answers r.state) = false := by
    cases hlock with
    | inl hignored => simp [hignored]
    | inr hchecked => simp [hchecked]
  have hcorrected : matchState r.state (r.before s).currentState (r.before s).display = r.corrected s := rfl
  have hmachine : handlePreBrightState r.answers r.state r.reason { r.before s with currentState := r.corrected s } =
      r.handled s := rfl
  simp only [Request.transit, transitTo, hcorrected, hcheck, Bool.not_true, Bool.false_eq_true, if_false, if_neg hpassed,
    hfree, hmachine, hhandled]

theorem handled_of_refused (h : (r.handled s).2 = false) :
    (r.handled s).1 = { r.before s with currentState := r.corrected s } := by
  revert h
  simp only [Request.handled, handlePreBrightState]
  repeat' split
  all_goals simp

/-- A request that does not pass leaves the machine as `MatchState` corrected it. -/
theorem transit_of_not_passes (hreaches : r.reaches = true) (h : r.passes cfg s = false) :
    (r.transit cfg s).1 = { r.before s with currentState := r.corrected s } ∧
      (r.admitted cfg s = true → (r.transit cfg s).2 = .preBrightErr) := by
  have hcorrected : matchState r.state (r.before s).currentState (r.before s).display = r.corrected s := rfl
  simp only [Request.passes, hreaches, Bool.true_and, Bool.and_eq_false_iff] at h
  simp only [Request.transit, transitTo, hcorrected]
  split
  next hcheck =>
    simp only [Bool.not_eq_true'] at hcheck
    exact ⟨rfl, fun hadmitted => by simp [Request.admitted, hcheck] at hadmitted⟩
  next hcheck =>
    split
    next hforbidden => exact ⟨rfl, fun hadmitted => by simp [Request.admitted, hforbidden] at hadmitted⟩
    next hpassed =>
      split
      next hlocked =>
        simp only [Bool.and_eq_true, Bool.not_eq_true'] at hlocked
        exact ⟨rfl, fun hadmitted => by simp [Request.admitted, hlocked] at hadmitted⟩
      next hfree =>
        -- all checks are passed, so the bookkeeping is what turns the request down
        have hadmitted : r.admitted cfg s = true := by
          simp only [Bool.not_eq_true, Bool.not_eq_false'] at hcheck
          simp only [not_and, Bool.not_eq_false] at hpassed
          simp only [Bool.and_eq_true, Bool.not_eq_true', not_and, Bool.not_eq_false] at hfree
          simp only [Request.admitted, hcheck, Bool.true_and, Bool.and_eq_true, Bool.or_eq_true, decide_eq_true_eq]
          refine ⟨?_, ?_⟩
          · by_cases hinit : r.reason = .init
            · exact .inl hinit
            · exact .inr (hpassed hinit)
          · cases hignore : r.ignoreLock with
            | true => exact .inl rfl
            | false => exact .inr (hfree hignore)
        have hrefused : (r.handled s).2 = false := by
          cases h with
          | inl hnot =>
            rw [hadmitted] at hnot
            cases hnot
          | inr hrefused => exact hrefused
        have hmachine : handlePreBrightState r.answers r.state r.reason
            { r.before s with currentState := r.corrected s } = r.handled s := rfl
        simp only [hmachine, hrefused, Bool.not_false, if_true]
        exact ⟨handled_of_refused hrefused, fun _ => trivial⟩

theorem admitted_of_result (hresult : isPreBrightAuthReason r.reason = true) (hawake : r.state = .awake) :
    r.reaches = true ∧ r.admitted cfg s = true := by
  have hcan : canTransitTo cfg r.answers (r.corrected s) .awake r.reason = true := by
    have hforbid := not_mem_forbidMap cfg (r.corrected s) (.inl rfl)
    cases hreason : r.reason <;> simp [hreason, isPreBrightAuthReason] at hresult <;>
      simp [canTransitTo, hforbid, wakeupSuppressed, allowMapByReason]
  constructor
  · simp only [Request.reaches, hawake]
    cases hreason : r.reason <;> simp [hreason, isPreBrightAuthReason] at hresult <;> simp [isTimeoutReason]
  · simp [Request.admitted, hawake, checkState, checkRunningLock, lockMap, hcan]

theorem handled_spec (r : Request) (s : State) :
    (isPreBrightAuthReason r.reason = true → (r.handled s).2 = true → s.machine.preBrightState = .started) ∧
    (isPreBrightAuthReason r.reason = true → s.machine.preBrightState ≠ .started → (r.handled s).2 = false) ∧
    ((r.handled s).2 = true → ((r.handled s).1.preBrightState = .started ↔
      if (⟨r.state, r.reason⟩ : Passed).counts then r.reason = .preBright else s.machine.preBrightState = .started)) := by
  simp only [Request.handled, handlePreBrightState, Request.before, Passed.counts, isPreBrightReason]
  by_cases hopening : r.reason = .preBright
  · simp only [hopening, if_true, isPreBrightAuthReason]
    cases r.answers.timerUp <;> simp
  · simp only [hopening, if_false, decide_false, Bool.false_or]
    cases hresult : isPreBrightAuthReason r.reason with
    | true => by_cases hstarted : s.machine.preBrightState = .started <;> simp [hstarted]
    | false => by_cases hsleep : r.state = .sleep <;> simp [hsleep]

end Request

/-! ## Runs -/

/-- The state of the window is what the log says, and no result was accepted outside a window. -/
structure Inv (s : State) : Prop where
  phase : s.machine.preBrightState = .started ↔ WindowOpen s.passed
  answered : Answered s.passed

section Runs

variable {cfg : Config} {r : Request} {s : State}

theorem setState_of_passes (h : r.passes cfg s = true) :
    setState cfg r s =
      (({ s with machine := (r.transit cfg s).1 } : State).letThrough r s.machine.preBrightState,
        some (r.transit cfg s).2) := by
  have hreaches : r.reaches = true := by
    simp only [Request.passes, Bool.and_eq_true] at h
    exact h.1.1
  simp only [setState, hreaches, h, if_true]

theorem setState_of_not_passes (hreaches : r.reaches = true) (h : r.passes cfg s = false) :
    setState cfg r s =
      ({ s with machine := { r.before s with currentState := r.corrected s } }, some (r.transit cfg s).2) := by
  simp only [setState, hreaches, h, if_true, Bool.false_eq_true, if_false, (transit_of_not_passes hreaches h).1]

theorem windowOpen_of_passes (h : Inv s) (hresult : isPreBrightAuthReason r.reason = true)
    (hpasses : r.passes cfg s = true) : WindowOpen s.passed := by
  simp only [Request.passes, Bool.and_eq_true] at hpasses
  exact h.phase.mp ((handled_spec r s).1 hresult hpasses.2)

theorem inv_letThrough (h : Inv s) (hpasses : r.passes cfg s = true) :
    Inv (({ s with machine := (r.transit cfg s).1 } : State).letThrough r s.machine.preBrightState) := by
  have hopen : isPreBrightAuthReason r.reason = true → WindowOpen s.passed := fun hresult =>
    windowOpen_of_passes h hresult hpasses
  refine ⟨?_, hopen, h.answered⟩
  have hkept : (r.transit cfg s).1.preBrightState = (r.handled s).1.preBrightState := by
    rw [transit_of_passes hpasses]
    by_cases hsuccess : (action cfg r.answers r.state r.reason (r.handled s).1).2 = .success
    · simp only [hsuccess, if_true]
      exact action_preBrightState ..
    · simp only [hsuccess, if_false]
      exact action_preBrightState ..
  have hhandled : (r.handled s).2 = true := by
    simp only [Request.passes, Bool.and_eq_true] at hpasses
    exact hpasses.2
  simp only [State.letThrough, hkept, (handled_spec r s).2.2 hhandled]
  cases hcounts : (⟨r.state, r.reason⟩ : Passed).counts with
  | true => rw [windowOpen_cons_of_counts hcounts, if_pos rfl]
  | false =>
    rw [windowOpen_cons_of_not_counts hcounts]
    simpa using h.phase

theorem inv_setState (r : Request) (h : Inv s) : Inv (setState cfg r s).1 := by
  cases hreaches : r.reaches with
  | false => simpa only [setState, hreaches, Bool.false_eq_true, if_false] using h
  | true =>
    cases hpasses : r.passes cfg s with
    | true =>
      rw [setState_of_passes hpasses]
      exact inv_letThrough h hpasses
    | false =>
      rw [setState_of_not_passes hreaches hpasses]
      exact ⟨h.phase, h.answered⟩

theorem inv_next {s' : State} {e : Event} (h : Inv s) (hnext : next cfg s e = some s') : Inv s' := by
  cases e with
  | request r =>
    cases hnext
    exact inv_setState r h
  | cancelTimer =>
    cases hnext
    exact ⟨h.phase, h.answered⟩
  | fire =>
    simp only [next] at hnext
    split at hnext
    · cases hnext
    · cases hnext
      exact ⟨h.phase, h.answered⟩
  | timerRequest task observed answers =>
    simp only [next] at hnext
    split at hnext
    · cases hnext
      exact inv_setState _ ⟨h.phase, h.answered⟩
    · cases hnext

theorem inv_of_reach (hreach : (system cfg).Reachable s) : Inv s := by
  refine hreach.invariant (fun s hinit => ?_) fun s s' e h _ hnext => ?_
  · obtain ⟨display, rfl⟩ := hinit
    exact ⟨by simp [WindowOpen], trivial⟩
  · have hstep : next cfg s e = some s' := hnext
    exact inv_next h hstep

/-- In every run: a result is let through to the action of its state only in an open window; at most
one result was accepted for every accepted `PRE_BRIGHT`; whatever else passes and is not about going
to sleep closes the window; and outside a window every result, also that of a task of the timer that
had started before, is turned down with `PRE_BRIGHT_ERR`, and the display and `currentState_` stay as
they are after `MatchState`. -/
theorem preBright_protocol (hreach : (system cfg).Reachable s) (r : Request) :
    (isPreBrightAuthReason r.reason = true → r.passes cfg s = true → WindowOpen s.passed) ∧
    (Answered s.passed ∧ results s.passed ≤ openings s.passed) ∧
    (r.passes cfg s = true → r.state ≠ .sleep → r.reason ≠ .preBright → ¬WindowOpen (setState cfg r s).1.passed) ∧
    (isPreBrightAuthReason r.reason = true → r.state = .awake → ¬WindowOpen s.passed →
      (setState cfg r s).2 = some .preBrightErr ∧ (setState cfg r s).1.passed = s.passed ∧
        (setState cfg r s).1.machine = { r.before s with currentState := r.corrected s }) := by
  have h := inv_of_reach hreach
  refine ⟨windowOpen_of_passes h, ⟨h.answered, ?_⟩, fun hpasses hsleep hopening hopen => ?_,
    fun hresult hawake hclosed => ?_⟩
  · have hbound := results_le_openings h.answered
    omega
  · rw [setState_of_passes hpasses] at hopen
    have hcounts : (⟨r.state, r.reason⟩ : Passed).counts = true := by simp [Passed.counts, hsleep]
    exact hopening ((windowOpen_cons_of_counts hcounts).mp hopen)
  · obtain ⟨hreaches, hadmitted⟩ := @admitted_of_result cfg r s hresult hawake
    have hpasses : r.passes cfg s = false := by
      cases hpasses : r.passes cfg s with
      | false => rfl
      | true => exact absurd (windowOpen_of_passes h hresult hpasses) hclosed
    rw [setState_of_not_passes hreaches hpasses]
    exact ⟨by rw [(transit_of_not_passes hreaches hpasses).2 hadmitted], rfl, rfl⟩

end Runs

/-! ## A finger on the sensor -/

def dark : State := { machine := { display := .off } }

def bootDark : Request := { state := .inactive, reason := .init, observed := .off }

def preBright : Request := { state := .awake, reason := .preBright, observed := .off }

def authSuccess : Request := { state := .awake, reason := .preBrightAuthSuccess, observed := .on }

/-- The timer fires just before the result of the client. -/
def answeredLate : List Event :=
  [.request bootDark, .request preBright, .fire, .cancelTimer, .request authSuccess]

/-- The task that had fired is turned down, and the screen stays on. -/
theorem preBright_protocol_answeredLate :
    ∃ s, (system {}).run dark answeredLate = some s ∧
      (setState {} (authTimeout .on {}) s).2 = some .preBrightErr ∧
      (setState {} (authTimeout .on {}) s).1.machine.display = .on := by
  have hreach : (system {}).Reachable _ :=
    Lib.System.reachable_of_run answeredLate (.init ⟨.off, rfl⟩)
      (rfl : (system {}).run dark answeredLate = some _)
  obtain ⟨hrefused, -, hmachine⟩ := (preBright_protocol hreach (authTimeout .on {})).2.2.2 rfl rfl (by decide)
  exact ⟨_, rfl, hrefused, by rw [hmachine]; rfl⟩

def goToSleep : Request := { state := .sleep, reason := .preBright, observed := .off }

/-- The task of the first `PRE_BRIGHT` has fired when a second one is accepted. -/
def openedTwice : List Event :=
  [.request bootDark, .request preBright, .fire, .request { preBright with observed := .on }]

/-- A `PRE_BRIGHT` for `SLEEP` opens a window as well; a result that is turned down still has the
state corrected; and the task of an earlier `PRE_BRIGHT` is accepted in the window of a later one. -/
theorem preBright_protocol_fails :
    (¬∀ s, (system {}).Reachable s → ∀ r : Request, isPreBrightAuthReason r.reason = true → r.state = .awake →
      r.passes {} s = true →
        (s.passed.find? fun p => p.state ≠ .sleep).map Passed.reason = some .preBright) ∧
    (¬∀ s, (system {}).Reachable s → ∀ r : Request, isPreBrightAuthReason r.reason = true → r.state = .awake →
      (setState {} r s).2 = some .preBrightErr →
        (setState {} r s).1.machine.currentState = s.machine.currentState) ∧
    ¬∀ s, (system {}).Reachable s → ∀ task ∈ s.fired, task + 1 < s.windows → ∀ observed answers,
      (setState {} (authTimeout observed answers) s).2 = some .preBrightErr := by
  have hdark : (system {}).Reachable dark := .init ⟨.off, rfl⟩
  refine ⟨fun honly => ?_, fun hkept => ?_, fun hrefused => ?_⟩
  · have hreach : (system {}).Reachable _ :=
      Lib.System.reachable_of_run [.request bootDark, .request goToSleep] hdark
        (rfl : (system {}).run dark [.request bootDark, .request goToSleep] = some _)
    exact absurd (honly _ hreach authSuccess rfl rfl (by decide)) (by decide)
  · have hreach : (system {}).Reachable _ :=
      Lib.System.reachable_of_run [.request bootDark] hdark
        (rfl : (system {}).run dark [.request bootDark] = some _)
    exact absurd (hkept _ hreach authSuccess rfl rfl (by decide)) (by decide)
  · have hreach : (system {}).Reachable _ :=
      Lib.System.reachable_of_run openedTwice hdark (rfl : (system {}).run dark openedTwice = some _)
    exact absurd (hrefused _ hreach 0 (by decide) (by decide) .on {}) (by decide)

end PowerMgr.StateMachine.PreBright
