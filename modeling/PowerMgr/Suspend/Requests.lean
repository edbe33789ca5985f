import PowerMgr.StateMachine.ForceSuspend
import PowerMgr.StateMachine.DisplayAgree
import PowerMgr.StateMachine.AutoSuspend

/-! # Requests made by the suspend controller

What is committed to `currentState_` by the requests of the attempts that ignore wakelocks and of the
interrupts, and by those of other callers of `SetState`.

* `baseRequest` — the request that a step of the attempts or the interrupts makes;
* `committedBy` — the state a request commits;
* `base_machine` — the state machine changes by that request only.
-/

namespace PowerMgr.Suspend

open StateMachine

structure Request where
  state : PowerState
  reason : StateChangeReason
  force : Bool
  answers : Answers

def Request.perform (cfg : Config) (r : Request) (m : Machine) : Machine × Bool :=
  setState cfg r.answers r.state r.reason r.force m

/-- The `SetState` that the next step of an attempt makes. -/
def attemptRequest (answers : Answers) (a : ForceSuspend.Attempt) : Option Request :=
  match a.stage with
  | .inactive => some ⟨.inactive, a.reason, true, answers⟩
  | .sleep => some ⟨.sleep, a.reason, true, answers⟩
  | .rollbackState | .rollbackAfterCallbacks => some ⟨.awake, .application, true, answers⟩
  | _ => none

/-- The `SetState` that a step of the attempts or of the interrupts makes. -/
def baseRequest (b : ForceSuspend.State) : ForceSuspend.Event → Option Request
  | .advance answers _ => b.controller.attempt.bind (attemptRequest answers)
  | .rollback caller answers =>
    match b.interrupts caller with
    | some (.rollbackState _) => some ⟨.awake, .application, true, answers⟩
    | _ => none
  | _ => none

/-- The state machine after a step that makes at most one request. -/
def performed (cfg : Config) (request : Option Request) (m : Machine) : Machine :=
  match request with
  | some r => (r.perform cfg m).1
  | none => m

def committedBy (cfg : Config) (request : Option Request) (m : Machine) : Option PowerState :=
  match request with
  | some r => if (r.perform cfg m).2 then some r.state else none
  | none => none

/-! ## What a request leaves behind -/

section setState

variable {cfg : Config} {answers : Answers} {state : PowerState} {reason : StateChangeReason} {m : Machine}

theorem action_ne_alreadyInState : (action cfg answers state reason m).2 ≠ .alreadyInState := by
  intro halready
  cases state with
  | awake =>
    simp only [action, actionAwake] at halready
    split at halready <;> cases halready
  | inactive =>
    simp only [action, actionInactive] at halready
    split at halready
    · cases halready
    · split at halready <;> cases halready
  | dim =>
    simp only [action, actionDim] at halready
    split at halready
    · cases halready
    · split at halready
      · cases halready
      · split at halready <;> cases halready
  | freeze | standBy | doze | sleep | hibernate | shutdown | unknown => cases halready

/-- A request that succeeds, or finds the device in the state it asks for, leaves that state. -/
theorem transitTo_committed {ignoreLock : Bool}
    (h : (transitTo cfg answers state reason ignoreLock m).2 = .success ∨
      (transitTo cfg answers state reason ignoreLock m).2 = .alreadyInState) :
    (transitTo cfg answers state reason ignoreLock m).1.currentState = state := by
  obtain hsuccess | halready := h
  · exact AutoSuspend.transitTo_success hsuccess
  · revert halready
    simp only [transitTo]
    split
    next hsame =>
      intro _
      simp only [checkState, Bool.not_eq_true', Bool.or_eq_false_iff, decide_eq_false_iff_not, not_not] at hsame
      exact hsame.2.symm
    next =>
      -- no later check answers so, and neither does an action
      intro halready
      split at halready
      · cases halready
      · split at halready
        · cases halready
        · split at halready
          · cases halready
          · split at halready
            · rename_i hsuccess
              rw [hsuccess] at halready
              cases halready
            · exact absurd halready action_ne_alreadyInState

theorem setState_committed {force : Bool} (h : (setState cfg answers state reason force m).2 = true) :
    (setState cfg answers state reason force m).1.currentState = state := by
  simp only [setState] at h ⊢
  split at h
  · cases h
  · rename_i havailable
    rw [if_neg havailable]
    simp only [Bool.or_eq_true, decide_eq_true_eq] at h
    exact transitTo_committed h

theorem setState_failed {force : Bool} (h : (setState cfg answers state reason force m).2 = false)
    (hsleep : (setState cfg answers state reason force m).1.currentState = .sleep) : m.currentState = .sleep := by
  simp only [setState] at h hsleep
  split at h
  · rename_i havailable
    rwa [if_pos havailable] at hsleep
  · rename_i havailable
    rw [if_neg havailable] at hsleep
    simp only [Bool.or_eq_false_iff, decide_eq_false_iff_not] at h
    rcases transitTo_cases cfg answers state reason (force || isTimeoutReason reason && answers.forceTimingOut) m with
      ⟨preBright, result, -, heq⟩ | ⟨before, hbefore, -, -, ⟨-, heq⟩ | ⟨-, heq⟩⟩
    · rw [heq] at hsleep
      exact matchState_eq_sleep hsleep
    · rw [heq] at h
      exact absurd rfl h.1
    · rw [heq, action_currentState, hbefore] at hsleep
      exact matchState_eq_sleep hsleep

end setState

theorem performed_committed {cfg : Config} {request : Option Request} {m : Machine} {state : PowerState}
    (h : committedBy cfg request m = some state) : (performed cfg request m).currentState = state := by
  cases request with
  | none => cases h
  | some r =>
    obtain ⟨hok, hsome⟩ := Option.ite_none_right_eq_some.mp h
    cases hsome
    exact setState_committed hok

theorem performed_sleep {cfg : Config} {request : Option Request} {m : Machine}
    (h : committedBy cfg request m = none) (hsleep : (performed cfg request m).currentState = .sleep) :
    m.currentState = .sleep := by
  cases request with
  | none => exact hsleep
  | some r =>
    refine setState_failed ?_ hsleep
    rw [committedBy] at h
    split at h
    · cases h
    · exact Bool.eq_false_iff.mpr ‹_›

/-! ## The requests of the attempts and of the interrupts -/

variable {cfg : Config}

theorem advance_machine {answers : Answers} {hdiOk : Bool} {b b' : ForceSuspend.State} {a : ForceSuspend.Attempt}
    (hadvance : ForceSuspend.advance cfg answers hdiOk b a = some b') :
    b'.controller.machine = performed cfg (attemptRequest answers a) b.controller.machine := by
  obtain ⟨number, reason, tag, stage⟩ := a
  cases stage with
  | inactive =>
    simp only [ForceSuspend.advance] at hadvance
    split at hadvance
    · cases hadvance
      rfl
    · cases hadvance
      rfl
  | wait =>
    simp only [ForceSuspend.advance] at hadvance
    split at hadvance
    case isFalse => cases hadvance
    split at hadvance
    · cases hadvance
      rfl
    · cases hadvance
      rfl
  | hdi =>
    simp only [ForceSuspend.advance] at hadvance
    split at hadvance
    · cases hadvance
      rfl
    · cases hadvance
      rfl
  | sleep | rollbackState | start | submit | rollbackAfterCallbacks | scheduleWakeup =>
    cases hadvance
    rfl

theorem base_machine {event : ForceSuspend.Event} {b b' : ForceSuspend.State}
    (hbase : ForceSuspend.next cfg b event = some b') :
    b'.controller.machine = performed cfg (baseRequest b event) b.controller.machine := by
  cases event with
  | attempt reason tag =>
    simp only [ForceSuspend.next] at hbase
    split at hbase
    · cases hbase
    · cases hbase
      rfl
  | advance answers hdiOk =>
    simp only [ForceSuspend.next] at hbase
    split at hbase
    case h_2 => cases hbase
    rename_i a ha
    simp only [baseRequest, ha, Option.bind_some]
    exact advance_machine hbase
  | callbacksDone number =>
    obtain ⟨-, hsome⟩ := Option.ite_none_right_eq_some.mp hbase
    cases hsome
    rfl
  | interrupt caller =>
    simp only [ForceSuspend.next] at hbase
    split at hbase
    case h_2 => cases hbase
    cases hbase
    simp only [ForceSuspend.interruptForceSuspendCallback]
    split <;> rfl
  | rollback caller answers =>
    simp only [ForceSuspend.next] at hbase
    split at hbase
    case h_2 => cases hbase
    rename_i number hcaller
    cases hbase
    simp only [baseRequest, hcaller]
    rfl
  | schedule caller =>
    simp only [ForceSuspend.next] at hbase
    split at hbase
    · cases hbase
      rfl
    · cases hbase

end PowerMgr.Suspend
