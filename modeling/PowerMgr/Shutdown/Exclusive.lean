import PowerMgr.Types
import PowerMgr.Lib.System
import Mathlib.Logic.Function.Basic

/-! # One shutdown at a time

Embedding of `ShutdownController::RebootOrShutdown` (`shutdown_controller.cpp`) as the steps of the
threads that run it: the caller's, the detached one that ends in the device action, and those of the
callback tasks.  `started_` is read in one step and written in a later one.

The calls of `PowerMgrService` hold `shutdownMutex_` until they return; those of
`SuspendController::HandleShutdown` and `WakeupActionController::HandleShutdown` do not take it.

* `Stage`, `rebootOrShutdown` — where a call is, and its next step;
* `OneAtATime` — what the calls keep each other from;
* `one_at_a_time` — the runs in which they do.
-/

namespace PowerMgr.Shutdown.Exclusive

abbrev CallId := Nat

abbrev Callback := Nat

structure Request where
  reason : String := ""
  isReboot : Bool := false
  force : Bool := false
  -- whether the caller holds `shutdownMutex_` during the call
  viaService : Bool := false
  deriving DecidableEq, Repr

/-- Callbacks called priority by priority: the priorities to come, and those of the current one that
are not called yet. -/
structure Rounds where
  priorities : Nat := 5
  callbacks : List Callback := []
  deriving DecidableEq, Repr

/-- The next callback, or the callbacks of the next priority as the holder has them then. -/
def Rounds.next (rounds : Rounds) (registered : List Callback) : Option (Option Callback × Rounds) :=
  match rounds.callbacks, rounds.priorities with
  | callback :: rest, _ => some (some callback, { rounds with callbacks := rest })
  | [], priorities + 1 => some (none, { priorities := priorities, callbacks := registered })
  | [], 0 => none

inductive Effect where
  | takeOver (callback : Callback)
  | publishShutdownEvent
  | syncCallback (callback : Callback)
  | turnOffScreen
  | asyncCallback (callback : Callback)
  | deviceAction (isReboot : Bool)
  deriving DecidableEq, Repr

/-- The work of a task that a call has launched. -/
inductive Work where
  | sync (rounds : Rounds)
  | turnOff
  | async (rounds : Rounds)
  deriving DecidableEq, Repr

structure Task where
  call : CallId
  work : Work
  deriving DecidableEq, Repr

/-- The next step of a task, and what is left of it. -/
def Work.run (registered : List Callback) : Work → Option Effect × Option Work
  | .turnOff => (some .turnOffScreen, none)
  | .sync rounds =>
    match rounds.next registered with
    | some (callback, rounds) => (callback.map .syncCallback, some (.sync rounds))
    | none => (none, none)
  | .async rounds =>
    match rounds.next registered with
    | some (callback, rounds) => (callback.map .asyncCallback, some (.async rounds))
    | none => (none, none)

def Work.isSync : Work → Bool
  | .sync _ => true
  | .turnOff | .async _ => false

def Work.isTurnOff : Work → Bool
  | .turnOff => true
  | .sync _ | .async _ => false

def Work.isAsync : Work → Bool
  | .async _ => true
  | .sync _ | .turnOff => false

/-- Where a call is. -/
inductive Stage where
  | idle
  | called
  -- past the check of `started_`
  | checked
  | takingOver (rounds : Rounds) (isTakeover : Bool)
  | takenOver
  | proceeding
  | publishing
  | syncing (rounds : Rounds)
  | launchingSync
  | awaitingSync
  | turningOff
  | awaitingOff
  | detaching
  -- the detached thread
  | preparing
  | awaitingAsync
  | acting
  | clearing
  | finished
  deriving DecidableEq, Repr

/-- The call has passed the check, and has neither returned as taken over nor has its detached thread
finished. -/
def Stage.inWindow : Stage → Bool
  | .idle | .called | .finished => false
  | _ => true

inductive Report where
  | effect (call : CallId) (effect : Effect)
  | returned (call : CallId) (error : PowerErrors)
  | isShuttingDown (answer : Bool)
  deriving DecidableEq

/-- The controller and the calls, with what the last step did and which calls were in their window
when it was taken. -/
structure State where
  started : Bool := false
  shutdownMutex : Option CallId := none
  request : CallId → Request := fun _ => {}
  stage : CallId → Stage := fun _ => .idle
  tasks : List Task := []
  report : Option Report := none
  openThen : CallId → Bool := fun _ => false

/-! ## Steps -/

def reasonsDisableTakeOver : List String := ["LowCapacity", "HibernateFail"]

/-- `judging` is `POWER_MANAGER_ENABLE_JUDGING_TAKEOVER_SHUTDOWN`. -/
def allowedToBeTakenOver (judging : Bool) (reason : String) : Bool := !judging || reason ∉ reasonsDisableTakeOver

/-- What a step meets: the callbacks of the next priority, the answer of a take-over callback, and
whether a wait times out. -/
structure Input where
  callbacks : List Callback := []
  answer : Bool := false
  timeout : Bool := false

/-- What a step of a call changes. -/
structure Move where
  stage : Stage
  started : Option Bool := none
  launch : Option Work := none
  effect : Option Effect := none
  returned : Option PowerErrors := none

/-- A wait for the task that the call has launched. -/
def State.waits (s : State) (c : CallId) (kind : Work → Bool) (timeout : Bool) : Bool :=
  !timeout && s.tasks.any fun task => task.call = c && kind task.work

/-- The assignment of a future to the global first waits for the task of the one it replaces. -/
def State.blocks (s : State) (c : CallId) (kind : Work → Bool) : Bool :=
  s.tasks.any fun task => task.call ≠ c && kind task.work

/-- The next step of a call. -/
def rebootOrShutdown (judging : Bool) (s : State) (c : CallId) (input : Input) : Option Move :=
  let request := s.request c
  match s.stage c with
  | .idle | .finished => none
  | .called =>
    if s.started then some { stage := .finished, returned := some .skipFunctionCall } else some { stage := .checked }
  | .checked =>
    if request.force then some { stage := .publishing, started := some true }
    else if allowedToBeTakenOver judging request.reason then
      some { stage := .takingOver {} false, started := some true }
    else some { stage := .proceeding, started := some true }
  | .takingOver rounds isTakeover =>
    -- a callback that takes over does not keep the others of its priority from being called
    if rounds.callbacks = [] ∧ isTakeover then some { stage := .takenOver }
    else
      match rounds.next input.callbacks with
      | some (callback, rounds) => some {
          stage := .takingOver rounds (isTakeover || callback.isSome && input.answer)
          effect := callback.map .takeOver }
      | none => some { stage := .proceeding }
  | .takenOver => some { stage := .finished, started := some false, returned := some .ok }
  | .proceeding => some { stage := .publishing, started := some true }
  | .publishing => some {
      stage := if request.force then .launchingSync else .syncing {}
      effect := some .publishShutdownEvent }
  | .syncing rounds =>
    match rounds.next input.callbacks with
    | some (callback, rounds) => some { stage := .syncing rounds, effect := callback.map .syncCallback }
    | none => some { stage := .turningOff }
  | .launchingSync => some { stage := .awaitingSync, launch := some (.sync {}) }
  | .awaitingSync =>
    if s.blocks c Work.isSync || s.waits c Work.isSync input.timeout then none else some { stage := .turningOff }
  | .turningOff =>
    if request.force then some { stage := .awaitingOff, launch := some .turnOff }
    else some { stage := .detaching, effect := some .turnOffScreen }
  | .awaitingOff =>
    if s.blocks c Work.isTurnOff || s.waits c Work.isTurnOff input.timeout then none else some { stage := .detaching }
  | .detaching => some { stage := .preparing, returned := some .ok }
  | .preparing => some { stage := .awaitingAsync, launch := some (.async {}) }
  | .awaitingAsync => if s.waits c Work.isAsync input.timeout then none else some { stage := .acting }
  | .acting => some { stage := .clearing, effect := some (.deviceAction request.isReboot) }
  | .clearing => some { stage := .finished, started := some false }

/-- The state a step starts from, as the reports refer to it. -/
def State.begin (s : State) : State := { s with report := none, openThen := fun c => (s.stage c).inWindow }

def State.apply (s : State) (c : CallId) (move : Move) : State :=
  { s.begin with
    started := move.started.getD s.started
    shutdownMutex := if move.returned.isSome ∧ s.shutdownMutex = some c then none else s.shutdownMutex
    stage := Function.update s.stage c move.stage
    tasks := s.tasks ++ (move.launch.map fun work => { call := c, work := work }).toList
    report := (move.effect.map (Report.effect c)).or (move.returned.map (Report.returned c)) }

def State.runTask (s : State) (index : Nat) (task : Task) (registered : List Callback) : State :=
  { s.begin with
    tasks :=
      match (task.work.run registered).2 with
      | some work => s.tasks.set index { task with work := work }
      | none => s.tasks.eraseIdx index
    report := (task.work.run registered).1.map (Report.effect task.call) }

inductive Event where
  | call (c : CallId) (request : Request)
  | advance (c : CallId) (input : Input)
  | task (index : Nat) (registered : List Callback)
  | isShuttingDown

/-- One step of a thread; a call of the service starts when it has the mutex. -/
def next (judging : Bool) (s : State) : Event → Option State
  | .call c request =>
    if s.stage c = .idle ∧ (request.viaService = true → s.shutdownMutex = none) then
      some { s.begin with
        request := Function.update s.request c request
        stage := Function.update s.stage c .called
        shutdownMutex := if request.viaService then some c else s.shutdownMutex }
    else none
  | .advance c input => (rebootOrShutdown judging s c input).map (s.apply c)
  | .task index registered => s.tasks[index]?.map fun task => s.runTask index task registered
  | .isShuttingDown => some { s.begin with report := some (.isShuttingDown s.started) }

def system (judging : Bool) : Lib.System State Event where
  init s := s = {}
  next := next judging

/-- While a call is in its window it is the only one, what is done is done by it, other calls that
return have been skipped, and the controller says that it is shutting down. -/
structure OneAtATime (s : State) : Prop where
  alone : ∀ c c', (s.stage c).inWindow = true → (s.stage c').inWindow = true → c = c'
  effects : ∀ c effect, s.report = some (.effect c effect) → ∀ c', s.openThen c' = true → c' = c
  returns : ∀ c error, s.report = some (.returned c error) → ∀ c', s.openThen c' = true → c' ≠ c →
    error = .skipFunctionCall
  isShuttingDown : ∀ answer, s.report = some (.isShuttingDown answer) → ∀ c, s.openThen c = true → answer = true

/-- `started_` is not read while a call that has found it false has not set it, and a call that finds
it false finds no task left of an earlier call. -/
def Careful (s : State) : Event → Prop
  | .advance c _ => s.stage c = .called → (∀ c', s.stage c' ≠ .checked) ∧ (s.started = false → s.tasks = [])
  | .isShuttingDown => ∀ c, s.stage c ≠ .checked
  | .call _ _ | .task _ _ => True

/-! ## What a step of a call can do -/

/-- Only a call in its window writes, launches or has an effect, and it gets there through the check. -/
structure Allowed (s : State) (c : CallId) (move : Move) : Prop where
  enters : move.stage.inWindow = true → (s.stage c).inWindow = true ∨ s.stage c = .called ∧ s.started = false
  stays : move.stage.inWindow = true → move.stage = .checked ∨ move.started = some true ∨
    move.started = none ∧ (s.stage c).inWindow = true ∧ s.stage c ≠ .checked
  started : move.started.isSome = true → (s.stage c).inWindow = true
  launch : move.launch.isSome = true → (s.stage c).inWindow = true
  effect : move.effect.isSome = true → (s.stage c).inWindow = true
  returned : ∀ error, move.returned = some error → (s.stage c).inWindow = true ∨ error = .skipFunctionCall

variable {judging : Bool} {s s' : State}

theorem allowed_of_inWindow {c : CallId} {move : Move} (hwindow : (s.stage c).inWindow = true)
    (hstays : move.stage.inWindow = true →
      move.started = some true ∨ move.started = none ∧ s.stage c ≠ .checked) : Allowed s c move where
  enters _ := .inl hwindow
  stays hmove := .inr ((hstays hmove).imp_right fun h => ⟨h.1, hwindow, h.2⟩)
  started _ := hwindow
  launch _ := hwindow
  effect _ := hwindow
  returned _ _ := .inl hwindow

theorem allowed_rebootOrShutdown {c : CallId} {input : Input} {move : Move}
    (h : rebootOrShutdown judging s c input = some move) : Allowed s c move := by
  unfold rebootOrShutdown at h
  cases hstage : s.stage c with
  | idle | finished => simp [hstage] at h
  | called =>
    simp only [hstage] at h
    cases hstarted : s.started <;> simp only [hstarted, Bool.false_eq_true, if_true, if_false] at h <;>
      obtain rfl := Option.some.inj h <;> constructor <;> simp [hstage, hstarted, Stage.inWindow]
  | checked =>
    simp only [hstage] at h
    refine allowed_of_inWindow (by rw [hstage]; rfl) fun _ => .inl ?_
    split_ifs at h <;> obtain rfl := Option.some.inj h <;> rfl
  | takingOver rounds isTakeover =>
    simp only [hstage] at h
    refine allowed_of_inWindow (by rw [hstage]; rfl) fun _ => .inr ⟨?_, by simp [hstage]⟩
    split at h
    · obtain rfl := Option.some.inj h
      rfl
    · split at h <;> obtain rfl := Option.some.inj h <;> rfl
  | takenOver | clearing =>
    -- the call leaves its window
    simp only [hstage, Option.some.injEq] at h
    subst h
    exact allowed_of_inWindow (by rw [hstage]; rfl) fun hmove => by cases hmove
  | proceeding =>
    simp only [hstage, Option.some.injEq] at h
    subst h
    exact allowed_of_inWindow (by rw [hstage]; rfl) fun _ => .inl rfl
  | publishing | launchingSync | detaching | preparing | acting =>
    simp only [hstage, Option.some.injEq] at h
    subst h
    exact allowed_of_inWindow (by rw [hstage]; rfl) fun _ => .inr ⟨rfl, by simp [hstage]⟩
  | syncing rounds =>
    simp only [hstage] at h
    refine allowed_of_inWindow (by rw [hstage]; rfl) fun _ => .inr ⟨?_, by simp [hstage]⟩
    split at h <;> obtain rfl := Option.some.inj h <;> rfl
  | turningOff | awaitingSync | awaitingOff | awaitingAsync =>
    simp only [hstage] at h
    refine allowed_of_inWindow (by rw [hstage]; rfl) fun _ => .inr ⟨?_, by simp [hstage]⟩
    split_ifs at h <;> obtain rfl := Option.some.inj h <;> rfl

/-! ## Runs -/

structure Inv (s : State) : Prop extends OneAtATime s where
  started : ∀ c, (s.stage c).inWindow = true → s.stage c = .checked ∨ s.started = true
  tasks : ∀ task ∈ s.tasks, ∀ c, (s.stage c).inWindow = true → task.call = c

theorem inv_init : Inv {} where
  alone c c' hc := by cases hc
  effects c effect hreport := by cases hreport
  returns c error hreport := by cases hreport
  isShuttingDown answer hreport := by cases hreport
  started c hc := by cases hc
  tasks task hmem := by simp at hmem

section Advance

variable {c : CallId} {move : Move}

/-- A call that is in its window after a step has no other beside it. -/
theorem Inv.others (hinv : Inv s) (hallowed : Allowed s c move)
    (hcareful : s.stage c = .called → (∀ c', s.stage c' ≠ .checked) ∧ (s.started = false → s.tasks = []))
    (hmove : move.stage.inWindow = true) {c' : CallId} (hc' : (s.stage c').inWindow = true) : c' = c := by
  obtain hwindow | ⟨hcalled, hstarted⟩ := hallowed.enters hmove
  · exact hinv.alone c' c hc' hwindow
  · obtain hchecked | htrue := hinv.started c' hc'
    · exact absurd hchecked ((hcareful hcalled).1 c')
    · exact absurd (hstarted.symm.trans htrue) (by decide)

theorem apply_stage_self (s : State) (c : CallId) (move : Move) : (s.apply c move).stage c = move.stage :=
  Function.update_self ..

theorem apply_stage_of_ne {c' : CallId} (hne : c' ≠ c) : (s.apply c move).stage c' = s.stage c' :=
  Function.update_of_ne hne _ _

theorem Inv.apply (hinv : Inv s) (hallowed : Allowed s c move)
    (hcareful : s.stage c = .called → (∀ c', s.stage c' ≠ .checked) ∧ (s.started = false → s.tasks = [])) :
    Inv (s.apply c move) where
  alone c₁ c₂ h₁ h₂ := by
    by_cases hc₁ : c₁ = c <;> by_cases hc₂ : c₂ = c
    · rw [hc₁, hc₂]
    · subst hc₁
      rw [apply_stage_self] at h₁
      rw [apply_stage_of_ne hc₂] at h₂
      exact (hinv.others hallowed hcareful h₁ h₂).symm
    · subst hc₂
      rw [apply_stage_self] at h₂
      rw [apply_stage_of_ne hc₁] at h₁
      exact hinv.others hallowed hcareful h₂ h₁
    · rw [apply_stage_of_ne hc₁] at h₁
      rw [apply_stage_of_ne hc₂] at h₂
      exact hinv.alone c₁ c₂ h₁ h₂
  effects c₁ effect hreport c' hopen := by
    obtain ⟨heffect, rfl⟩ : move.effect.isSome = true ∧ c₁ = c := by
      change (move.effect.map (Report.effect c)).or (move.returned.map (Report.returned c)) = _ at hreport
      cases heffect : move.effect <;> cases hreturned : move.returned <;> simp_all
    exact hinv.alone c' c₁ hopen (hallowed.effect heffect)
  returns c₁ error hreport c' hopen hne := by
    obtain ⟨hreturned, rfl⟩ : move.returned = some error ∧ c₁ = c := by
      change (move.effect.map (Report.effect c)).or (move.returned.map (Report.returned c)) = _ at hreport
      cases heffect : move.effect <;> cases hreturned : move.returned <;> simp_all
    obtain hwindow | hskip := hallowed.returned error hreturned
    · exact absurd (hinv.alone c' c₁ hopen hwindow) hne
    · exact hskip
  isShuttingDown answer hreport := by
    change (move.effect.map (Report.effect c)).or (move.returned.map (Report.returned c)) = _ at hreport
    cases heffect : move.effect <;> cases hreturned : move.returned <;> simp_all
  started c₁ h₁ := by
    change _ ∨ move.started.getD s.started = true
    by_cases hc₁ : c₁ = c
    · subst hc₁
      rw [apply_stage_self] at h₁ ⊢
      obtain hchecked | htrue | ⟨hnone, hwindow, hne⟩ := hallowed.stays h₁
      · exact .inl hchecked
      · exact .inr (by rw [htrue]; rfl)
      · exact .inr (by rw [hnone]; exact (hinv.started c₁ hwindow).resolve_left hne)
    · rw [apply_stage_of_ne hc₁] at h₁ ⊢
      obtain hchecked | htrue := hinv.started c₁ h₁
      · exact .inl hchecked
      · right
        cases hmove : move.started with
        | none => exact htrue
        | some value =>
          -- only a call in its window writes the flag, and that is not this one
          have hwindow := hallowed.started (by rw [hmove]; rfl)
          exact absurd (hinv.alone c₁ c h₁ hwindow) hc₁
  tasks task hmem c₁ h₁ := by
    obtain hbefore | hlaunched := List.mem_append.mp hmem
    · by_cases hc₁ : c₁ = c
      · subst hc₁
        rw [apply_stage_self] at h₁
        obtain hwindow | ⟨hcalled, hstarted⟩ := hallowed.enters h₁
        · exact hinv.tasks task hbefore c₁ hwindow
        · simp [(hcareful hcalled).2 hstarted] at hbefore
      · rw [apply_stage_of_ne hc₁] at h₁
        exact hinv.tasks task hbefore c₁ h₁
    · obtain ⟨work, hlaunch, rfl⟩ : ∃ work, move.launch = some work ∧ task = { call := c, work := work } := by
        cases hlaunch : move.launch <;> simp_all
      by_cases hc₁ : c₁ = c
      · exact hc₁.symm
      · rw [apply_stage_of_ne hc₁] at h₁
        exact (hinv.alone c₁ c h₁ (hallowed.launch (by rw [hlaunch]; rfl))).symm

end Advance

theorem Inv.runTask (hinv : Inv s) {index : Nat} {task : Task} (htask : s.tasks[index]? = some task)
    (registered : List Callback) : Inv (s.runTask index task registered) where
  alone := hinv.alone
  effects c effect hreport c' hopen := by
    obtain ⟨_, -, heffect⟩ := Option.map_eq_some_iff.mp hreport
    obtain ⟨rfl, -⟩ := Report.effect.inj heffect
    exact (hinv.tasks task (List.mem_of_getElem? htask) c' hopen).symm
  returns c error hreport := by
    obtain ⟨_, -, hreturned⟩ := Option.map_eq_some_iff.mp hreport
    cases hreturned
  isShuttingDown answer hreport := by
    obtain ⟨_, -, hanswer⟩ := Option.map_eq_some_iff.mp hreport
    cases hanswer
  started := hinv.started
  tasks other hmem c hc := by
    change other ∈ (match (task.work.run registered).2 with
      | some work => s.tasks.set index { task with work := work }
      | none => s.tasks.eraseIdx index) at hmem
    split at hmem
    · obtain hbefore | rfl := List.mem_or_eq_of_mem_set hmem
      · exact hinv.tasks other hbefore c hc
      · exact hinv.tasks task (List.mem_of_getElem? htask) c hc
    · exact hinv.tasks other (List.mem_of_mem_eraseIdx hmem) c hc

theorem Inv.call (hinv : Inv s) {c : CallId} {request : Request}
    (hnext : next judging s (.call c request) = some s') : Inv s' := by
  obtain ⟨⟨hidle, -⟩, heq⟩ := Option.ite_none_right_eq_some.mp hnext
  obtain rfl := Option.some.inj heq
  have hwindow : ∀ c', (Function.update s.stage c .called c').inWindow = true →
      (s.stage c').inWindow = true ∧ Function.update s.stage c .called c' = s.stage c' := by
    intro c' hc'
    by_cases heq : c' = c
    · subst heq
      rw [Function.update_self] at hc'
      cases hc'
    · rw [Function.update_of_ne heq] at hc' ⊢
      exact ⟨hc', rfl⟩
  refine ⟨⟨fun c₁ c₂ h₁ h₂ => ?_, fun _ _ hreport => ?_, fun _ _ hreport => ?_, fun _ hreport => ?_⟩, fun c₁ h₁ => ?_,
    fun task hmem c₁ h₁ => ?_⟩
  · exact hinv.alone c₁ c₂ (hwindow c₁ h₁).1 (hwindow c₂ h₂).1
  · cases hreport
  · cases hreport
  · cases hreport
  · change Function.update s.stage c .called c₁ = .checked ∨ s.started = true
    rw [(hwindow c₁ h₁).2]
    exact hinv.started c₁ (hwindow c₁ h₁).1
  · exact hinv.tasks task hmem c₁ (hwindow c₁ h₁).1

theorem Inv.answer (hinv : Inv s) (hcareful : ∀ c, s.stage c ≠ .checked) :
    Inv { s.begin with report := some (.isShuttingDown s.started) } where
  alone := hinv.alone
  effects c effect hreport := by cases hreport
  returns c error hreport := by cases hreport
  isShuttingDown answer hreport c hopen := by
    obtain rfl := Report.isShuttingDown.inj (Option.some.inj hreport)
    exact (hinv.started c hopen).resolve_left (hcareful c)
  started := hinv.started
  tasks := hinv.tasks

/-- While the check of one call and its write are not separated by another read, calls exclude each
other. -/
theorem one_at_a_time (h : (system judging).Reach Careful s) : OneAtATime s := by
  have hinv : Inv s := by
    refine h.invariant (I := Inv) ?_ ?_
    · intro s hs
      cases hs
      exact inv_init
    · intro s s' e hinv hcareful hnext
      cases e with
      | call c request =>
        have hcalled : next judging s (.call c request) = some s' := hnext
        exact hinv.call hcalled
      | advance c input =>
        obtain ⟨move, hmove, rfl⟩ := Option.map_eq_some_iff.mp hnext
        exact hinv.apply (allowed_rebootOrShutdown hmove) hcareful
      | task index registered =>
        obtain ⟨task, htask, rfl⟩ := Option.map_eq_some_iff.mp hnext
        exact hinv.runTask htask registered
      | isShuttingDown =>
        obtain rfl := Option.some.inj hnext
        exact hinv.answer hcareful
  exact hinv.toOneAtATime

/-- A shutdown of the service, which a callback takes over, and one of the suspend controller, which
is skipped. -/
theorem one_at_a_time_two : ∃ s, OneAtATime s ∧ s.report = some (.returned 1 .skipFunctionCall) ∧ s.openThen 0 = true ∧
    s.stage 0 = .takingOver { priorities := 4, callbacks := [7] } false := by
  have hinit : (system false).Reach Careful {} := .init rfl
  have hfirst := hinit.step (Event.call 0 { viaService := true }) trivial rfl
  have hsecond := hfirst.step (Event.call 1 {}) trivial rfl
  have hchecked := hsecond.step (Event.advance 0 {}) (fun _ => ⟨fun c => by
    simp only [Function.update_apply]
    split_ifs <;> decide, fun _ => rfl⟩) rfl
  have hstarted := hchecked.step (Event.advance 0 {}) (fun hcalled => absurd hcalled (by decide)) rfl
  have hround := hstarted.step (Event.advance 0 { callbacks := [7] }) (fun hcalled => absurd hcalled (by decide)) rfl
  have hskipped := hround.step (Event.advance 1 {}) (fun _ => ⟨fun c => by
    simp only [State.begin, State.apply, Function.update_apply]
    split_ifs <;> decide, fun hstarted => absurd hstarted (by decide)⟩) rfl
  exact ⟨_, one_at_a_time hskipped, by decide, by decide, by decide⟩

/-- Two calls that both find `started_` false. -/
def bothPass : List Event :=
  [.call 0 { viaService := true }, .call 1 {}, .advance 0 {}, .advance 1 {}, .advance 0 {}, .advance 1 {},
    .advance 0 { callbacks := [7] }, .advance 1 { callbacks := [7] }, .advance 0 { answer := true }, .advance 1 {}]

/-- The call that is taken over returns while the other is still running. -/
def onePassesOn : List Event := bothPass ++ [.advance 0 {}, .advance 0 {}, .isShuttingDown]

/-- A forced reboot whose tasks outlast their waits and whose device action returns, then a shutdown. -/
def tasksLeft : List Event :=
  [.call 0 { force := true, viaService := true }, .advance 0 {}, .advance 0 {}, .advance 0 {}, .advance 0 {},
    .advance 0 { timeout := true }, .advance 0 {}, .advance 0 { timeout := true }, .advance 0 {}, .advance 0 {},
    .advance 0 { timeout := true }, .advance 0 {}, .advance 0 {}, .call 1 {}, .advance 1 {}, .task 1 []]

theorem reached_of_run {events : List Event} {report : Report} {c : CallId}
    (h : ((system false).run {} events).map (fun s => (s.report, s.openThen c)) = some (some report, true)) :
    ∃ s, (system false).Reachable s ∧ s.report = some report ∧ s.openThen c = true := by
  obtain ⟨s, hrun, hs⟩ := Option.map_eq_some_iff.mp h
  obtain ⟨hreport, hopen⟩ := Prod.mk.inj hs
  exact ⟨s, Lib.System.reachable_of_run _ (.init rfl) hrun, hreport, hopen⟩

/-- Both calls ask the same callback to take over; when the first is taken over, the controller says
that it is not shutting down although the second is; the screen is turned off for a reboot that is
over while a shutdown is on. -/
theorem two_at_a_time :
    (∃ s, (system false).Reachable s ∧ s.report = some (.effect 1 (.takeOver 7)) ∧ s.openThen 0 = true ∧
      ¬OneAtATime s) ∧
    (∃ s, (system false).Reachable s ∧ s.report = some (.isShuttingDown false) ∧ s.openThen 1 = true ∧
      ¬OneAtATime s) ∧
    ∃ s, (system false).Reachable s ∧ s.report = some (.effect 0 .turnOffScreen) ∧ s.openThen 1 = true ∧
      ¬OneAtATime s := by
  refine ⟨?_, ?_, ?_⟩
  · obtain ⟨s, hreach, hreport, hopen⟩ := reached_of_run (by decide :
      ((system false).run {} bothPass).map (fun s => (s.report, s.openThen 0)) =
        some (some (.effect 1 (.takeOver 7)), true))
    exact ⟨s, hreach, hreport, hopen, fun hone => absurd (hone.effects 1 _ hreport 0 hopen) (by decide)⟩
  · obtain ⟨s, hreach, hreport, hopen⟩ := reached_of_run (by decide :
      ((system false).run {} onePassesOn).map (fun s => (s.report, s.openThen 1)) =
        some (some (.isShuttingDown false), true))
    exact ⟨s, hreach, hreport, hopen, fun hone => absurd (hone.isShuttingDown false hreport 1 hopen) (by decide)⟩
  · obtain ⟨s, hreach, hreport, hopen⟩ := reached_of_run (by decide :
      ((system false).run {} tasksLeft).map (fun s => (s.report, s.openThen 1)) =
        some (some (.effect 0 .turnOffScreen), true))
    exact ⟨s, hreach, hreport, hopen, fun hone => absurd (hone.effects 0 _ hreport 1 hopen) (by decide)⟩

end PowerMgr.Shutdown.Exclusive
