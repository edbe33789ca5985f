import PowerMgr.StateMachine.ForceSuspend

/-! # A forced suspend and its own callbacks

An attempt waits for `forceSuspendCallbackFinished_` before it calls `ForceSuspendEx`.  The flag is
one for all attempts, and the task of an attempt that was interrupted goes on and sets it in the
end, which may be during a later attempt.

* `OwnTask` — the steps that leave the flag to the attempt in progress;
* `Owes` — what an attempt still owes to its callbacks, stage by stage;
* `forceSuspendEx_after_callbacks` — in runs of such steps `ForceSuspendEx` is called only after the
  task of the same attempt has ended;
* `forceSuspendEx_before_callbacks` — a run in which it is not.
-/

namespace PowerMgr.StateMachine.ForceSuspend

/-- No task of an earlier attempt ends while an attempt is between its start and the end of its
wait. -/
def OwnTask (s : State) (e : Event) : Prop :=
  ∀ number, e = .callbacksDone number → s.controller.forceSuspendCallbackPending = true → number = s.inProgress

def CallsForceSuspendEx (s : State) (e : Event) (a : Attempt) : Prop :=
  s.controller.attempt = some a ∧ a.stage = .hdi ∧ ∃ answers hdiOk, e = .advance answers hdiOk

/-- The task of an attempt is not among those under way before it is submitted, nor once the attempt
has seen the flag. -/
def Owes (c : Controller) (a : Attempt) : Prop :=
  match a.stage with
  | .inactive | .sleep | .rollbackState | .start | .hdi => a.number ∉ c.callbackTasks
  | .submit => a.number ∉ c.callbackTasks ∧ c.forceSuspendCallbackFinished = false
  | .wait => c.forceSuspendCallbackFinished = true → a.number ∉ c.callbackTasks
  | .rollbackAfterCallbacks | .scheduleWakeup => True

structure Tasks (s : State) : Prop where
  nodup : s.controller.callbackTasks.Nodup
  begun : ∀ number ∈ s.controller.callbackTasks, number ≤ s.count
  owes : ∀ a, s.controller.attempt = some a → Owes s.controller a

variable {cfg : Config} {s s' : State} {a : Attempt}

/-- A step that leaves the tasks alone: only what the attempt owes has to be shown. -/
theorem Tasks.frame (h : Tasks s) (htasks : s'.controller.callbackTasks = s.controller.callbackTasks)
    (hcount : s.count ≤ s'.count) (howes : ∀ a, s'.controller.attempt = some a → Owes s'.controller a) :
    Tasks s' := by
  refine ⟨htasks ▸ h.nodup, fun number hmem => ?_, howes⟩
  rw [htasks] at hmem
  exact Nat.le_trans (h.begun number hmem) hcount

theorem Tasks.goes (h : Tasks s) (htasks : s'.controller.callbackTasks = s.controller.callbackTasks)
    (hcount : s'.count = s.count) (ha : s'.controller.attempt = some a) (howes : Owes s'.controller a) : Tasks s' := by
  refine h.frame htasks (Nat.le_of_eq hcount.symm) fun a' ha' => ?_
  cases ha.symm.trans ha'
  exact howes

theorem Tasks.returns (h : Tasks s) (htasks : s'.controller.callbackTasks = s.controller.callbackTasks)
    (hcount : s'.count = s.count) (hnone : s'.controller.attempt = none) : Tasks s' := by
  refine h.frame htasks (Nat.le_of_eq hcount.symm) fun a' ha' => ?_
  cases hnone.symm.trans ha'

theorem tasks_advance (answers : Answers) (hdiOk : Bool) (hinv : Inv s) (h : Tasks s)
    (ha : s.controller.attempt = some a) (hnext : advance cfg answers hdiOk s a = some s') : Tasks s' := by
  have howes := h.owes a ha
  have hcount := (hinv.attempt a ha).1
  obtain ⟨number, reason, tag, stage⟩ := a
  cases stage with
  | inactive =>
    simp only [advance] at hnext
    split at hnext
    · cases hnext
      exact h.goes rfl rfl rfl howes
    · cases hnext
      exact h.returns rfl rfl rfl
  | sleep =>
    -- the callbacks are not started by either of the two stages that may follow
    have hfollows : ∀ (c : Controller) (ok : Bool), c.callbackTasks = s.controller.callbackTasks →
        Owes c { number, reason, tag, stage := if ok then .start else .rollbackState } := by
      intro c ok htasks
      cases ok <;> rw [Owes, htasks] <;> exact howes
    cases hnext
    exact h.goes rfl rfl rfl (hfollows _ _ rfl)
  | rollbackState =>
    cases hnext
    exact h.returns rfl rfl rfl
  | start =>
    -- the flag is cleared, and the task is not submitted yet
    cases hnext
    exact h.goes rfl rfl rfl ⟨howes, rfl⟩
  | submit =>
    -- the task is submitted while the flag is clear
    cases hnext
    refine ⟨List.nodup_cons.mpr ⟨howes.1, h.nodup⟩, fun number' hmem => ?_, fun a' ha' => ?_⟩
    · cases hmem with
      | head => exact Nat.le_of_eq hcount
      | tail _ hold => exact h.begun number' hold
    · cases Option.some.inj ha'
      intro hfinished
      cases hfinished.symm.trans howes.2
  | wait =>
    -- the wait is over by an interrupt or by the flag
    simp only [advance] at hnext
    split at hnext
    case isFalse => cases hnext
    rename_i hover
    split at hnext
    · cases hnext
      exact h.returns rfl rfl rfl
    · rename_i hskip
      cases hnext
      have hfinished : s.controller.forceSuspendCallbackFinished = true := by
        simpa [callbacksOver, hskip] using hover
      exact h.goes rfl rfl rfl (howes hfinished)
  | hdi =>
    simp only [advance] at hnext
    split at hnext
    · cases hnext
      exact h.returns rfl rfl rfl
    · cases hnext
      exact h.goes rfl rfl rfl trivial
  | rollbackAfterCallbacks =>
    cases hnext
    exact h.goes rfl rfl rfl trivial
  | scheduleWakeup =>
    cases hnext
    exact h.returns rfl rfl rfl

/-- The flag that an interrupt sets is not the one of the callbacks. -/
theorem tasks_interrupt (caller : Nat) (hinv : Inv s) (h : Tasks s) :
    Tasks (interruptForceSuspendCallback caller s) := by
  cases hpending : s.controller.forceSuspendCallbackPending with
  | false =>
    rw [interrupt_refused caller hpending]
    exact h.frame rfl (Nat.le_refl _) h.owes
  | true =>
    obtain ⟨a, -, -, haccepts⟩ := interrupt_accepted caller hinv hpending
    refine h.frame ?_ (Nat.le_of_eq haccepts.count.symm) fun a ha => ?_
    · rw [haccepts.controller]
    · rw [haccepts.controller] at ha ⊢
      exact h.owes a ha

/-- Only the task of the attempt in progress may set the flag while it matters. -/
theorem tasks_callbacksDone {number : Nat} (hinv : Inv s) (h : Tasks s) (hown : OwnTask s (.callbacksDone number))
    (hnext : next cfg s (.callbacksDone number) = some s') : Tasks s' := by
  simp only [next, Option.ite_none_right_eq_some, Option.some.injEq] at hnext
  obtain ⟨hmem, rfl⟩ := hnext
  have herase : ∀ number', number' ∉ s.controller.callbackTasks → number' ∉ s.controller.callbackTasks.erase number :=
    fun number' hnot hmem' => hnot (List.mem_of_mem_erase hmem')
  refine ⟨h.nodup.erase number, fun number' hmem' => h.begun number' (List.mem_of_mem_erase hmem'), fun a ha => ?_⟩
  have howes := h.owes a ha
  have hstage := (hinv.attempt a ha).2
  have hsame : s.controller.forceSuspendCallbackPending = true → number = a.number := by
    intro hpending
    rw [hown number rfl hpending, State.inProgress, show s.controller.attempt = some a from ha]
    rfl
  unfold Owes at howes ⊢
  cases hat : a.stage <;> rw [hat] at howes hstage <;> dsimp only at howes ⊢
  case submit => exact absurd (hsame hstage.1 ▸ hmem) howes.1
  case wait =>
    intro _
    rw [hsame hstage.1]
    exact h.nodup.not_mem_erase
  all_goals exact herase _ howes

theorem tasks_next {e : Event} (hinv : Inv s) (h : Tasks s) (hown : OwnTask s e) (hnext : next cfg s e = some s') :
    Tasks s' := by
  cases e with
  | attempt reason tag =>
    simp only [next] at hnext
    split at hnext
    next => cases hnext
    next hfree =>
      cases hnext
      refine h.frame rfl (Nat.le_succ _) fun a ha => ?_
      cases ha
      intro hmem
      exact absurd (h.begun _ hmem) (Nat.not_succ_le_self _)
  | advance answers hdiOk =>
    simp only [next] at hnext
    split at hnext
    next a ha => exact tasks_advance answers hdiOk hinv h ha hnext
    next => cases hnext
  | callbacksDone number => exact tasks_callbacksDone hinv h hown hnext
  | interrupt caller =>
    simp only [next] at hnext
    split at hnext
    next =>
      cases hnext
      exact tasks_interrupt caller hinv h
    next => cases hnext
  | rollback caller answers =>
    simp only [next] at hnext
    split at hnext
    next =>
      cases hnext
      exact h.frame rfl (Nat.le_refl _) h.owes
    next => cases hnext
  | schedule caller =>
    simp only [next] at hnext
    split at hnext
    next =>
      cases hnext
      exact h.frame rfl (Nat.le_refl _) h.owes
    next => cases hnext

theorem tasks_of_reach (h : (system cfg).Reach OwnTask s) : Tasks s := by
  have hboth : Inv s ∧ Tasks s := by
    refine Lib.System.Reach.invariant (I := fun s => Inv s ∧ Tasks s) (fun s hs => ?_)
      (fun s s' e ih hown hnext => ⟨inv_next ih.1 hnext, tasks_next ih.1 ih.2 hown hnext⟩) h
    refine ⟨inv_of_reachable (.init hs), ?_⟩
    obtain ⟨m, rfl⟩ := hs
    constructor
    case nodup => exact List.nodup_nil
    case begun =>
      intro number hmem
      cases hmem
    case owes =>
      intro a ha
      cases ha
  exact hboth.2

/-- In runs in which no task of an earlier attempt meddles, an attempt that calls `ForceSuspendEx` has
no task of its own under way. -/
theorem forceSuspendEx_after_callbacks {e : Event} (h : (system cfg).Reach OwnTask s)
    (hcalls : CallsForceSuspendEx s e a) : a.number ∉ s.controller.callbackTasks := by
  obtain ⟨ha, hat, -⟩ := hcalls
  have howes := (tasks_of_reach h).owes a ha
  rw [Owes, hat] at howes
  exact howes

/-- The first attempt is interrupted and returns while its task still runs; the task ends while the
second attempt waits. -/
def staleTask : List Event :=
  interruptedAtOnce ++ [.advance {} true, .advance {} true,
    .attempt .application .mem, .advance {} true, .advance {} true, .advance {} true, .advance {} true,
    .callbacksDone 1, .advance {} true]

/-- The second attempt is about to call `ForceSuspendEx`, and its own task has not ended. -/
theorem forceSuspendEx_before_callbacks :
    ∃ s a, (system {}).run inUse staleTask = some s ∧ CallsForceSuspendEx s (.advance {} true) a ∧ a.number = 2 ∧
      2 ∈ s.controller.callbackTasks := by
  obtain ⟨s, hrun⟩ : ∃ s, (system {}).run inUse staleTask = some s := Option.isSome_iff_exists.mp (by decide +kernel)
  have hattempt : ((system {}).run inUse staleTask).map (fun s => (s.controller.attempt, s.controller.callbackTasks)) =
      some (some { number := 2, reason := .application, tag := .mem, stage := .hdi }, [2]) := by decide +kernel
  rw [hrun, Option.map_some, Option.some.injEq, Prod.mk.injEq] at hattempt
  refine ⟨s, _, hrun, ⟨hattempt.1, rfl, {}, true, rfl⟩, rfl, ?_⟩
  rw [hattempt.2]
  exact List.mem_singleton.mpr rfl

/-- An attempt on its own, up to the point where it waits. -/
def undisturbed : List Event :=
  [.attempt .application .mem, .advance {} true, .advance {} true, .advance {} true, .advance {} true]

theorem forceSuspendEx_after_callbacks_undisturbed :
    ∃ s a, (system {}).run inUse (undisturbed ++ [.callbacksDone 1, .advance {} true]) = some s ∧
      CallsForceSuspendEx s (.advance {} true) a ∧ a.number ∉ s.controller.callbackTasks := by
  have hown : ∀ s, ∀ e ∈ undisturbed, OwnTask s e := by
    intro s e hmem number he
    subst he
    simp [undisturbed] at hmem
  obtain ⟨s₁, hrun⟩ : ∃ s, (system {}).run inUse undisturbed = some s := Option.isSome_iff_exists.mp (by decide +kernel)
  have hnumber : ((system {}).run inUse undisturbed).map State.inProgress = some 1 := by decide +kernel
  rw [hrun] at hnumber
  have hwaits : (system {}).Reach OwnTask s₁ := Lib.System.Reach.of_run _ (.init ⟨_, rfl⟩) hown hrun
  have hall : ((system {}).run inUse undisturbed).bind
      (fun s₁ => ((system {}).next s₁ (.callbacksDone 1)).bind fun s₂ =>
        ((system {}).next s₂ (.advance {} true)).map fun s => s.controller.attempt) =
      some (some { number := 1, reason := .application, tag := .mem, stage := .hdi }) := by decide +kernel
  rw [hrun] at hall
  simp only [Option.bind_some, Option.bind_eq_some_iff, Option.map_eq_some_iff] at hall
  obtain ⟨s₂, hdone, s, hnext, hattempt⟩ := hall
  have hcalls : CallsForceSuspendEx s (.advance {} true) _ := ⟨hattempt, rfl, {}, true, rfl⟩
  have hreach : (system {}).Reach OwnTask s := by
    refine .step _ (.step _ hwaits ?_ hdone) ?_ hnext
    · intro number he _
      cases he
      exact (Option.some.inj hnumber).symm
    · intro number he
      cases he
  refine ⟨s, _, ?_, hcalls, forceSuspendEx_after_callbacks hreach hcalls⟩
  rw [Lib.System.run_append, hrun, Option.bind_some, Lib.System.run_cons, hdone, Option.bind_some,
    Lib.System.run_cons, hnext, Option.bind_some, Lib.System.run_nil]

end PowerMgr.StateMachine.ForceSuspend
