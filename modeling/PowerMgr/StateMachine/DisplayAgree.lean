import PowerMgr.StateMachine.Transit

/-! # Power state and display agree

The device must not be `INACTIVE` or `SLEEP` with the panel lit.  What keeps it from that are the
forbid map, the correction by `MatchState` and the display action of `INACTIVE`; three ways around
them exist, and no caller uses them once the service is up:

* `InitState` may fail and leave the state `UNKNOWN`, from which every state may be entered;
* the reason `INIT` skips the maps;
* a request for `INACTIVE` whose reason is a failed pre-bright authentication finds
  `SetDisplayState` content with a lit display.

`display_agrees` is the result for all other runs; `display_disagrees` shows that each of the three
has to be left out.
-/

namespace PowerMgr.StateMachine

/-- `INACTIVE` and `SLEEP` go with a display that is neither on nor dimmed. -/
def Machine.DisplayAgrees (m : Machine) : Prop :=
  m.currentState = .inactive ∨ m.currentState = .sleep → isOnState m.display = false

/-- A call as the service makes it once it is up: the reason `INIT` belongs to `InitState`, and a
failed pre-bright authentication asks for `AWAKE`. -/
def Regular : Call → Prop
  | .setState state reason _ _ => reason ≠ .init ∧ (reason = .preBrightAuthFailScreenOff → state = .awake)
  | .setDozeMode .. => True

/-- The invariant: the two agree, and the state is one that the service asks for. -/
structure Consistent (cfg : Config) (m : Machine) : Prop where
  agrees : m.DisplayAgrees
  known : requested cfg m.currentState = true

/-! ## What a request can do -/

section setDisplayState

variable (ok : Bool) (state : DisplayState) (reason : StateChangeReason) (m : Machine)

@[simp] theorem setDisplayState_currentState :
    (setDisplayState ok state reason m).1.currentState = m.currentState := by
  unfold setDisplayState
  split
  · rfl
  · split
    · rfl
    · split <;> rfl

theorem setDisplayState_failed (h : (setDisplayState ok state reason m).2 = false) :
    (setDisplayState ok state reason m).1 = m := by
  revert h
  unfold setDisplayState
  split
  · exact fun _ => rfl
  · split
    · exact fun _ => rfl
    · split
      · intro h
        cases h
      · exact fun _ => rfl

/-- Apart from a failed pre-bright authentication, success means that the display was changed. -/
theorem setDisplayState_applied (hreason : reason ≠ .preBrightAuthFailScreenOff)
    (h : (setDisplayState ok state reason m).2 = true) : (setDisplayState ok state reason m).1.display = state := by
  revert h
  unfold setDisplayState
  split
  next hsame => exact fun _ => hsame.1.symm
  next =>
    rw [if_neg fun hfail => hreason hfail.1]
    split
    · exact fun _ => rfl
    · intro h
      cases h

end setDisplayState

section action

variable (cfg : Config) (answers : Answers) (reason : StateChangeReason) (m : Machine)

@[simp] theorem action_currentState (state : PowerState) :
    (action cfg answers state reason m).1.currentState = m.currentState := by
  unfold action
  split
  · simp only [actionAwake]
    split <;> exact setDisplayState_currentState ..
  · simp only [actionInactive]
    split
    · rfl
    · split <;> exact setDisplayState_currentState ..
  · simp only [actionDim]
    split
    · rfl
    · split
      · simp
      · split <;> simp
  · rfl

/-- The results of the checks before the action are never results of an action. -/
theorem action_carriedOut (state : PowerState) :
    (action cfg answers state reason m).2 ≠ .locking ∧ (action cfg answers state reason m).2 ≠ .alreadyInState := by
  unfold action
  split
  · simp only [actionAwake]
    split <;> simp
  · simp only [actionInactive]
    split
    · simp
    · split <;> simp
  · simp only [actionDim]
    split
    · simp
    · split
      · simp
      · split <;> simp
  · simp

theorem actionAwake_failed (h : (actionAwake answers reason m).2 ≠ .success) :
    (actionAwake answers reason m).1.display = m.display := by
  revert h
  simp only [actionAwake]
  split
  · exact fun h => absurd rfl h
  next hok =>
    intro _
    rw [setDisplayState_failed _ _ _ _ (by simpa using hok)]

/-- A screen that could not be turned off is as it was; else it is off. -/
theorem actionInactive_display (hreason : reason ≠ .preBrightAuthFailScreenOff) :
    ((actionInactive cfg answers reason m).2 = .success →
      isOnState (actionInactive cfg answers reason m).1.display = false) ∧
    ((actionInactive cfg answers reason m).2 ≠ .success →
      (actionInactive cfg answers reason m).1.display = m.display) := by
  simp only [actionInactive]
  split
  · exact ⟨fun h => TransitResult.noConfusion h, fun _ => rfl⟩
  · split
    next hok =>
      refine ⟨fun _ => ?_, fun h => absurd rfl h⟩
      rw [setDisplayState_applied _ _ _ _ hreason hok]
      unfold inactiveDisplay
      split <;> rfl
    next hok =>
      refine ⟨fun h => TransitResult.noConfusion h, fun _ => ?_⟩
      rw [setDisplayState_failed _ _ _ _ (by simpa using hok)]

end action

section matchState

variable {target current : PowerState} {display : DisplayState}

/-- The correction never claims a dark screen while it is lit. -/
theorem matchState_dark (h : matchState target current display = .inactive ∨ matchState target current display = .sleep)
    (hdark : current = .inactive ∨ current = .sleep → isOnState display = false) : isOnState display = false := by
  unfold matchState at h
  split at h
  · exact hdark h
  · cases display with
    | off => rfl
    | dim =>
      dsimp only at h
      split at h
      · obtain h | h := h <;> cases h
      · exact hdark h
    | on =>
      dsimp only at h
      split at h
      · obtain h | h := h <;> cases h
      · exact hdark h
    | suspend => rfl
    | doze => rfl
    | dozeSuspend => rfl
    | unknown => rfl

theorem matchState_requested {cfg : Config} (h : requested cfg current = true) :
    requested cfg (matchState target current display) = true := by
  unfold matchState
  split
  · exact h
  · split <;> first | exact h | (split <;> [rfl; exact h])

theorem matchState_eq_sleep (h : matchState target current display = .sleep) : current = .sleep := by
  unfold matchState at h
  split at h
  · exact h
  · split at h <;> first | exact h | (split at h <;> [cases h; exact h])

theorem matchState_sleep (current : PowerState) (display : DisplayState) :
    matchState .sleep current display = current := by
  simp [matchState]

end matchState

/-- The pre-bright window is the only thing `HandlePreBrightState` changes. -/
theorem handlePreBrightState_eq (answers : Answers) (target : PowerState) (reason : StateChangeReason) (m : Machine) :
    ∃ preBright, (handlePreBrightState answers target reason m).1 = { m with preBrightState := preBright } := by
  unfold handlePreBrightState
  split
  · split <;> exact ⟨_, rfl⟩
  · split
    · split <;> exact ⟨_, rfl⟩
    · split <;> exact ⟨_, rfl⟩

/-- A request is turned down after the correction, or its action is performed and decides whether
the target is entered. -/
theorem transitTo_cases (cfg : Config) (answers : Answers) (state : PowerState) (reason : StateChangeReason)
    (ignoreLock : Bool) (m : Machine) :
    (∃ preBright result, result ≠ .success ∧ transitTo cfg answers state reason ignoreLock m =
      ({ m with currentState := matchState state m.currentState m.display, preBrightState := preBright }, result)) ∨
    ∃ before : Machine, before.currentState = matchState state m.currentState m.display ∧
      before.display = m.display ∧
      (reason = .init ∨ canTransitTo cfg answers before.currentState state reason = true) ∧
      (((action cfg answers state reason before).2 = .success ∧ transitTo cfg answers state reason ignoreLock m =
          ({ (action cfg answers state reason before).1 with currentState := state }, .success)) ∨
        ((action cfg answers state reason before).2 ≠ .success ∧
          transitTo cfg answers state reason ignoreLock m = action cfg answers state reason before)) := by
  simp only [transitTo]
  split
  · exact .inl ⟨m.preBrightState, .alreadyInState, TransitResult.noConfusion, rfl⟩
  · split
    · exact .inl ⟨m.preBrightState, .forbidTransit, TransitResult.noConfusion, rfl⟩
    next hadmitted =>
      split
      · exact .inl ⟨m.preBrightState, .locking, TransitResult.noConfusion, rfl⟩
      · obtain ⟨preBright, hbright⟩ := handlePreBrightState_eq answers state reason
          { m with currentState := matchState state m.currentState m.display }
        rw [hbright]
        split
        · exact .inl ⟨preBright, .preBrightErr, TransitResult.noConfusion, rfl⟩
        · refine .inr ⟨{ m with
              currentState := matchState state m.currentState m.display
              preBrightState := preBright }, rfl, rfl, ?_, ?_⟩
          · by_cases hreason : reason = .init
            · exact .inl hreason
            · right
              cases hcan : canTransitTo cfg answers (matchState state m.currentState m.display) state reason with
              | true => rfl
              | false => exact absurd ⟨hreason, hcan⟩ hadmitted
          · split
            next hsuccess => exact .inl ⟨hsuccess, by rw [hsuccess]⟩
            next hfailed => exact .inr ⟨hfailed, rfl⟩

theorem not_mem_forbidMap (cfg : Config) (current : PowerState) {state : PowerState}
    (hstate : state = .awake ∨ state = .inactive) : state ∉ forbidMap cfg current := by
  obtain rfl | rfl := hstate <;> cases current <;> simp only [forbidMap]
  all_goals repeat' split
  all_goals simp

/-! ## One request keeps the agreement -/

section setState

variable {cfg : Config} (answers : Answers) {state : PowerState} {reason : StateChangeReason}

theorem current_of_canTransitTo_sleep {current : PowerState} (hknown : requested cfg current = true)
    (h : canTransitTo cfg answers current .sleep reason = true) : current = .inactive ∨ current = .sleep := by
  have hforbidden : PowerState.sleep ∉ forbidMap cfg current := by
    intro hmem
    simp [canTransitTo, hmem] at h
  cases current with
  | inactive => exact .inl rfl
  | sleep => exact .inr rfl
  | awake =>
    refine absurd ?_ hforbidden
    unfold forbidMap
    cases cfg.enableS4 <;> simp
  | dim => exact absurd (by simp [forbidMap]) hforbidden
  | hibernate =>
    have hs4 : cfg.enableS4 = true := hknown
    exact absurd (by simp [forbidMap, hs4]) hforbidden
  | _ => cases hknown

theorem current_of_canTransitTo_dim {current : PowerState}
    (h : canTransitTo cfg answers current .dim reason = true) : ¬(current = .inactive ∨ current = .sleep) := by
  rintro (rfl | rfl) <;> simp [canTransitTo, forbidMap] at h

/-- What a regular request does: the agreement is kept, `SLEEP` is entered from `INACTIVE` or
`SLEEP` only, and a request that fails leaves the state as corrected. -/
theorem transitTo_spec (ignoreLock : Bool) {m : Machine} (hstate : requested cfg state = true)
    (hinit : reason ≠ .init) (hauth : reason = .preBrightAuthFailScreenOff → state = .awake)
    (h : Consistent cfg m) :
    Consistent cfg (transitTo cfg answers state reason ignoreLock m).1 ∧
    ((transitTo cfg answers state reason ignoreLock m).1.currentState = .sleep →
      m.currentState = .inactive ∨ m.currentState = .sleep) ∧
    ((transitTo cfg answers state reason ignoreLock m).2 ≠ .success →
      (transitTo cfg answers state reason ignoreLock m).1.currentState =
        matchState state m.currentState m.display) := by
  have hknown : requested cfg (matchState state m.currentState m.display) = true := matchState_requested h.known
  rcases transitTo_cases cfg answers state reason ignoreLock m with
    ⟨preBright, result, -, heq⟩ | ⟨before, hcurrent, hdisplay, hadmitted, ⟨hresult, heq⟩ | ⟨hresult, heq⟩⟩
  · rw [heq]
    exact ⟨⟨fun hdark => matchState_dark hdark h.agrees, hknown⟩, fun hsleep => .inr (matchState_eq_sleep hsleep),
      fun _ => rfl⟩
  · -- The action succeeded and the target is entered.
    have hcan := hadmitted.resolve_left hinit
    rw [heq]
    refine ⟨⟨fun hdark => ?_, hstate⟩, fun hsleep => ?_, fun hfailed => absurd rfl hfailed⟩
    · obtain hdark | hdark := hdark
      · have hinactive : state = .inactive := hdark
        subst hinactive
        have hreason : reason ≠ .preBrightAuthFailScreenOff := by
          intro hfail
          cases hauth hfail
        exact (actionInactive_display cfg answers reason before hreason).1 hresult
      · have hsleep : state = .sleep := hdark
        subst hsleep
        rw [hcurrent, matchState_sleep] at hcan
        have hdark' := h.agrees (current_of_canTransitTo_sleep answers h.known hcan)
        rw [← hdisplay] at hdark'
        exact hdark'
    · have hstate' : state = .sleep := hsleep
      subst hstate'
      rw [hcurrent, matchState_sleep] at hcan
      exact current_of_canTransitTo_sleep answers h.known hcan
  · have hcan := hadmitted.resolve_left hinit
    rw [heq]
    have hkept : (action cfg answers state reason before).1.currentState =
        matchState state m.currentState m.display := by
      rw [action_currentState, hcurrent]
    refine ⟨⟨fun hdark => ?_, by rw [hkept]; exact hknown⟩, fun hsleep => ?_, fun _ => hkept⟩
    · have hbefore : isOnState m.display = false := by
        rw [hkept] at hdark
        exact matchState_dark hdark h.agrees
      have hsame : (action cfg answers state reason before).1.display = m.display := by
        rw [← hdisplay]
        cases state with
        | awake => exact actionAwake_failed answers reason before hresult
        | inactive =>
          have hreason : reason ≠ .preBrightAuthFailScreenOff := by
            intro hfail
            cases hauth hfail
          exact (actionInactive_display cfg answers reason before hreason).2 hresult
        | dim =>
          rw [action_currentState] at hdark
          exact absurd hdark (current_of_canTransitTo_dim answers hcan)
        | _ => rfl
      rw [hsame]
      exact hbefore
    · rw [hkept] at hsleep
      exact .inr (matchState_eq_sleep hsleep)

theorem setState_spec (force : Bool) {m : Machine} (hstate : requested cfg state = true)
    (hinit : reason ≠ .init) (hauth : reason = .preBrightAuthFailScreenOff → state = .awake)
    (h : Consistent cfg m) :
    Consistent cfg (setState cfg answers state reason force m).1 ∧
    ((setState cfg answers state reason force m).1.currentState = .sleep →
      m.currentState = .inactive ∨ m.currentState = .sleep) ∧
    ((setState cfg answers state reason force m).2 = false →
      (setState cfg answers state reason force m).1.currentState = m.currentState ∨
      (setState cfg answers state reason force m).1.currentState = matchState state m.currentState m.display) := by
  simp only [setState]
  split
  · exact ⟨h, .inr, fun _ => .inl rfl⟩
  · obtain ⟨hkeeps, hsleep, hfailed⟩ := transitTo_spec answers
      (force || isTimeoutReason reason && answers.forceTimingOut) hstate hinit hauth h
    refine ⟨hkeeps, hsleep, fun hresult => .inr (hfailed fun hsuccess => ?_)⟩
    simp [hsuccess] at hresult

end setState

/-! ## Runs -/

/-- `SetDozeMode` does nothing while the screen is on, and never lights it. -/
theorem consistent_setDozeMode {cfg : Config} {m : Machine} (ok : Bool) {state : DisplayState}
    (hstate : isDozeMode state = true) (h : Consistent cfg m) : Consistent cfg (setDozeMode cfg ok state m).1 := by
  unfold setDozeMode
  split
  · exact h
  · refine ⟨fun hdark => ?_, by rw [setDisplayState_currentState]; exact h.known⟩
    rw [setDisplayState_currentState] at hdark
    cases hresult : (setDisplayState ok state .switchingDozeMode m).2 with
    | false =>
      rw [setDisplayState_failed _ _ _ _ hresult]
      exact h.agrees hdark
    | true =>
      rw [setDisplayState_applied _ _ _ _ StateChangeReason.noConfusion hresult]
      cases state <;> first | rfl | cases hstate

theorem next_spec {cfg : Config} {m m' : Machine} {call : Call} (hregular : Regular call)
    (hnext : next cfg m call = some m') (h : Consistent cfg m) :
    Consistent cfg m' ∧ (m'.currentState = .sleep → m.currentState = .inactive ∨ m.currentState = .sleep) := by
  cases call with
  | setState state reason force answers =>
    simp only [next] at hnext
    split at hnext
    next hstate =>
      cases hnext
      obtain ⟨hkeeps, hsleep, -⟩ := setState_spec answers force hstate hregular.1 hregular.2 h
      exact ⟨hkeeps, hsleep⟩
    next => cases hnext
  | setDozeMode state ok =>
    simp only [next] at hnext
    split at hnext
    next hstate =>
      cases hnext
      refine ⟨consistent_setDozeMode ok hstate h, fun hsleep => .inr ?_⟩
      unfold setDozeMode at hsleep
      split at hsleep
      · exact hsleep
      · rwa [setDisplayState_currentState] at hsleep
    next => cases hnext

theorem transitTo_init (cfg : Config) (answers : Answers) {state : PowerState} (display : DisplayState)
    (hstate : state = .awake ∨ state = .inactive) :
    transitTo cfg answers state .init true { display := display } =
      let (m, ret) := action cfg answers state .init { display := display }
      if ret = .success then ({ m with currentState := state }, ret) else (m, ret) := by
  have hmatch : matchState state .unknown display = .unknown := by
    unfold matchState
    split
    · rfl
    · split <;> rfl
  have hcheck : checkState cfg state .unknown = true := by
    obtain rfl | rfl := hstate <;> simp [checkState]
  have hbright : handlePreBrightState answers state .init { display := display } = ({ display := display }, true) := by
    obtain rfl | rfl := hstate <;> rfl
  simp [transitTo, hmatch, hcheck, hbright]

theorem consistent_init {cfg : Config} {answers : Answers} {state : PowerState} {display : DisplayState}
    {m : Machine} (hstate : state = .awake ∨ state = .inactive)
    (h : setState cfg answers state .init true { display := display } = (m, true)) : Consistent cfg m := by
  simp only [setState] at h
  split at h
  · cases h
  · rw [Bool.true_or, transitTo_init cfg answers display hstate] at h
    dsimp only at h
    split at h
    next hsuccess =>
      obtain ⟨rfl, -⟩ := Prod.mk.inj h
      refine ⟨fun hdark => ?_, ?_⟩
      · obtain rfl | rfl := hstate
        · obtain hdark | hdark := hdark <;> cases hdark
        · exact (actionInactive_display cfg answers .init _ StateChangeReason.noConfusion).1 hsuccess
      · obtain rfl | rfl := hstate <;> rfl
    next hfailed =>
      -- The first action either succeeds or reports an error of its own.
      exfalso
      have hnot : (action cfg answers state .init { display := display }).2 ≠ .alreadyInState := by
        obtain rfl | rfl := hstate
        · simp only [action, actionAwake]
          split <;> exact TransitResult.noConfusion
        · simp only [action, actionInactive]
          split
          · exact TransitResult.noConfusion
          · split <;> exact TransitResult.noConfusion
      simpa [hfailed, hnot] using congrArg Prod.snd h

/-- A successful `InitState` leaves the device awake, or dark. -/
theorem consistent_initialised {cfg : Config} {m : Machine} (h : Initialised cfg true m) : Consistent cfg m := by
  obtain ⟨display, answers, switchScreenOn, hinit⟩ := h
  unfold initState at hinit
  split at hinit
  · exact consistent_init (.inl rfl) hinit
  · split at hinit
    · exact consistent_init (.inl rfl) hinit
    · exact consistent_init (.inr rfl) hinit

theorem consistent_of_reach {cfg : Config} {m : Machine}
    (hreach : (system cfg (Initialised cfg true)).Reach (fun _ => Regular) m) : Consistent cfg m := by
  refine hreach.invariant (fun m hinit => consistent_initialised (m := m) hinit) fun m m' call hm hregular hnext => ?_
  exact (next_spec hregular hnext hm).1

/-- After a successful `InitState` and with regular calls only: whenever the device is `INACTIVE` or
`SLEEP` its display is neither on nor dimmed; `SLEEP` is entered from `INACTIVE` or `SLEEP` only;
and a request that returns false leaves the state as it was or as `MatchState` corrected it. -/
theorem display_agrees {cfg : Config} {m : Machine}
    (hreach : (system cfg (Initialised cfg true)).Reach (fun _ => Regular) m) :
    m.DisplayAgrees ∧
    (∀ call m', Regular call → next cfg m call = some m' → m'.currentState = .sleep →
      m.currentState = .inactive ∨ m.currentState = .sleep) ∧
    ∀ state reason force answers, requested cfg state = true → Regular (.setState state reason force answers) →
      (setState cfg answers state reason force m).2 = false →
      (setState cfg answers state reason force m).1.currentState = m.currentState ∨
      (setState cfg answers state reason force m).1.currentState = matchState state m.currentState m.display := by
  have hconsistent := consistent_of_reach hreach
  refine ⟨hconsistent.agrees, fun call m' hregular hnext => (next_spec hregular hnext hconsistent).2, ?_⟩
  intro state reason force answers hstate hregular
  exact (setState_spec answers force hstate hregular.1 hregular.2 hconsistent).2.2

def timesOut : List Call :=
  [.setState .dim .timeout false {}, .setState .inactive .timeout false {}, .setState .sleep .timeout false {}]

theorem display_agrees_timesOut :
    ∃ m, (system {} (Initialised {} true)).run ⟨.awake, .on, .unstart⟩ timesOut = some m ∧
      m.currentState = .sleep ∧ m.DisplayAgrees := by
  have hrun : ∃ m, (system {} (Initialised {} true)).run ⟨.awake, .on, .unstart⟩ timesOut = some m ∧
      m.currentState = .sleep := ⟨_, rfl, rfl⟩
  obtain ⟨m, hrun, hsleep⟩ := hrun
  have hreach : (system {} (Initialised {} true)).Reach (fun _ => Regular) m := by
    refine Lib.System.Reach.of_run timesOut (.init ⟨.on, {}, false, rfl⟩) (fun _ call hmem => ?_) hrun
    simp only [timesOut, List.mem_cons, List.not_mem_nil, or_false] at hmem
    obtain rfl | rfl | rfl := hmem <;> exact ⟨StateChangeReason.noConfusion, fun hfail => by cases hfail⟩
  exact ⟨m, hrun, hsleep, (display_agrees hreach).1⟩

def ReasonNot (reason : StateChangeReason) : Call → Prop
  | .setState _ reason' _ _ => reason' ≠ reason
  | .setDozeMode .. => True

/-- Each of the three conditions is needed: with a failed `InitState`, with the reason `INIT` in a
later request, or with a failed pre-bright authentication that asks for `INACTIVE`, the device
reaches `SLEEP` or `INACTIVE` with the panel lit. -/
theorem display_disagrees :
    (¬∀ m, (system {} fun m => ∃ result, Initialised {} result m).Reach (fun _ => Regular) m → m.DisplayAgrees) ∧
    (¬∀ m, (system {} (Initialised {} true)).Reach (fun _ => ReasonNot .preBrightAuthFailScreenOff) m →
      m.DisplayAgrees) ∧
    ¬∀ m, (system {} (Initialised {} true)).Reach (fun _ => ReasonNot .init) m → m.DisplayAgrees := by
  refine ⟨fun hall => ?_, fun hall => ?_, fun hall => ?_⟩
  · have hstart : (system {} fun m => ∃ result, Initialised {} result m).Reach (fun _ => Regular)
        ⟨.unknown, .dim, .unstart⟩ := .init ⟨false, .dim, { displayOk := false }, false, rfl⟩
    have hsleep := hstart.step (Call.setState .sleep .system true {})
      (And.intro StateChangeReason.noConfusion fun hfail => by cases hfail) rfl
    cases hall _ hsleep (.inr rfl)
  · have hstart : (system {} (Initialised {} true)).Reach (fun _ => ReasonNot .preBrightAuthFailScreenOff)
        ⟨.awake, .on, .unstart⟩ := .init ⟨.on, {}, false, rfl⟩
    have hsleep := hstart.step (Call.setState .sleep .init true {}) StateChangeReason.noConfusion rfl
    cases hall _ hsleep (.inr rfl)
  · have hstart : (system {} (Initialised {} true)).Reach (fun _ => ReasonNot .init)
        ⟨.awake, .on, .unstart⟩ := .init ⟨.on, {}, false, rfl⟩
    have hbright := hstart.step (Call.setState .awake .preBright true {}) StateChangeReason.noConfusion rfl
    have hinactive := hbright.step (Call.setState .inactive .preBrightAuthFailScreenOff true {})
      StateChangeReason.noConfusion rfl
    cases hall _ hinactive (.inl rfl)

end PowerMgr.StateMachine
