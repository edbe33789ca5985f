import PowerMgr.Hibernate.Attempts
import Mathlib.Data.List.Chain

/-! # Threads that outlive their attempt

A prepare thread that is given up goes on with `PrepareHibernate` whatever its attempt does.

* `Holds` — what is promised: a rollback is final, every round of the callbacks is answered before the
  next one, and every attempt goes on with the result of its own thread.
* `Careful` — a rollback finds its thread past what it takes back, and no other result replaces the one
  that is about to be read.
* `rollback_stays` — runs of such steps keep the promise.
* `rollback_undone` — runs in which a late thread goes on hibernating, leaves its round unanswered, or
  answers for another attempt.
-/

namespace PowerMgr.Hibernate.Attempts

open StateMachine Suspend

/-! ## What is promised -/

/-- The thread has still to make its request for `HIBERNATE`. -/
def Thread.Pending : Thread → Prop
  | .spawned _ | .switching | .preparing | .prepared => True
  | _ => False

/-- The thread has still to run its round. -/
def Thread.BeforeRound : Thread → Prop
  | .spawned _ | .switching | .preparing => True
  | _ => False

/-- The last `HibernateInner` returned through `RollbackHibernate`. -/
def State.RolledBack (s : State) : Prop :=
  s.outcome = some .rolledBack ∨ s.outcome = some .shutDown

/-- No `HibernateInner` is under way, and every thread has ended. -/
def State.Finished (s : State) : Prop :=
  s.inner = .idle ∧ ∀ k, s.threads k = .none ∨ ∃ ret, s.threads k = .finished ret

/-- Every `PreHibernate` round is followed by one `PostHibernate` round before the next one. -/
def Alternate (rounds : List Round) : Prop :=
  rounds.IsChain fun later earlier => later = .pre ↔ earlier ≠ .pre

/-- The result is the one that the attempt's own thread had stored; or there was none yet when the wait
ended without it, and the attempt has failed. -/
def Used.IsOwn (u : Used) : Prop :=
  u.own = some u.result ∨ u.timedOut = true ∧ u.own = none ∧ u.result = false

structure Holds (cfg : Config) (s : State) : Prop where
  -- After a rollback nobody asks for `HIBERNATE`.
  stays : s.RolledBack → ∀ thread answers, next cfg s (.setHibernate thread answers) = none
  alternate : s.goingDown = false → Alternate s.device.rounds
  answered : s.goingDown = false → s.Finished → s.device.rounds.head? ≠ some .pre
  own : ∀ k u, s.used k = some u → u.IsOwn

/-! ## The runs in which it holds -/

/-- The result that the attempt under way is going to read is there. -/
def State.Settled (s : State) : Prop :=
  s.inner = .waiting ∧ s.own.result ≠ none ∨ ∃ timedOut, s.inner = .loading timedOut

/-- When a rollback runs its round its own thread has run the other one; when it returns the thread has
made its request for `HIBERNATE`; a shutdown that does not take place leaves no round without an answer;
a wait does not end without a success that the thread has stored; and no other thread changes a result
that is about to be read. -/
def Careful (s : State) : Event → Prop
  | .postRollback => ¬s.own.BeforeRound
  | .setInactive _ => s.attempt.originalState ≠ .sleep → ¬s.own.Pending
  | .arm _ => ¬s.own.Pending
  | .shutDown accepted => ¬s.own.Pending ∧ (accepted = false → s.device.prepared = false)
  | .storeTimeout => s.own.result ≠ some true
  | .store thread => thread ≠ s.attempts → s.Settled → s.threads thread ≠ .returned (!s.prepareResult)
  | _ => True

/-! ## The invariant -/

def Inner.running : Inner → Bool
  | .idle | .entered => false
  | _ => true

/-- No round of the attempt is open: it has none yet, or has answered it. -/
def Inner.answered : Inner → Bool
  | .idle | .entered | .inactivating | .tagging | .arming => true
  | _ => false

def Inner.succeeded : Inner → Bool
  | .hibernating | .restoring | .waking | .resuming => true
  | _ => false

/-- `hibernating_` has been reset. -/
def Inner.released : Inner → Bool
  | .idle | .waking | .resuming | .shuttingDown | .rollingBack | .inactivating | .tagging | .arming => true
  | _ => false

structure Inv (s : State) : Prop where
  -- Only the thread of the attempt under way may still ask for `HIBERNATE`.
  pending : ∀ k, (s.threads k).Pending → k = s.attempts ∧ s.inner.running = true
  -- An attempt that has answered its round will have no other.
  past : s.inner.answered = true → ¬s.own.BeforeRound
  returned : s.outcome ≠ none → s.inner = .idle
  released : s.inner.released = true → s.device.hibernating = false
  alternate : s.goingDown = false → Alternate s.device.rounds ∧
    (s.device.prepared = true ↔ s.device.rounds.head? = some .pre)
  unanswered : s.goingDown = false → s.device.prepared = true → s.inner.answered = false ∧ ¬s.own.BeforeRound
  waited : s.inner = .waiting → ∀ ret, s.own.result = some ret → s.prepareResult = ret
  loading : ∀ timedOut, s.inner = .loading timedOut → s.own.result = some s.prepareResult ∨
    timedOut = true ∧ s.own.result = none ∧ s.prepareResult = false
  succeeded : s.inner.succeeded = true → s.own.result = some true
  used : ∀ k u, s.used k = some u → u.IsOwn

section Steps

variable {cfg : Config} {s s' : State}

theorem Thread.pending_of_beforeRound {t : Thread} (h : t.BeforeRound) : t.Pending := by
  cases t <;> trivial

theorem Thread.not_pending_of_result {t : Thread} {ret : Bool} (h : t.result = some ret) : ¬t.Pending := by
  cases t <;> first | exact id | cases h

theorem Inv.not_pending (h : Inv s) (hrest : s.inner.running = false) (k : Nat) : ¬(s.threads k).Pending := by
  intro hpending
  have hrunning := (h.pending k hpending).2
  rw [hrest] at hrunning
  cases hrunning

theorem Inv.outcome_eq_none (h : Inv s) (hbusy : s.inner ≠ .idle) : s.outcome = none := by
  cases houtcome : s.outcome with
  | none => rfl
  | some outcome => exact absurd (h.returned (by rw [houtcome]; exact Option.some_ne_none _)) hbusy

theorem inv_goto (h : Inv s) {inner : Inner} {outcome : Option Outcome} {device : Device} {attempt : Attempt}
    (hprepared : device.prepared = s.device.prepared) (hrounds : device.rounds = s.device.rounds)
    (hrunning : s.own.Pending → inner.running = s.inner.running) (hreturned : outcome ≠ none → inner = .idle)
    (hreleased : inner.released = true → device.hibernating = false)
    (hanswered : inner.answered = true → s.inner.answered = true)
    (hwaiting : inner ≠ .waiting) (hloading : ∀ timedOut, inner ≠ .loading timedOut)
    (hsucceeded : inner.succeeded = true → s.own.result = some true) :
    Inv { s with inner := inner, outcome := outcome, device := device, attempt := attempt } := by
  refine ⟨fun k hpending => ?_, fun hdone => h.past (hanswered hdone), hreturned, hreleased, ?_, ?_,
    fun hwait => absurd hwait hwaiting, fun timedOut hload => absurd hload (hloading timedOut), hsucceeded, h.used⟩
  · obtain ⟨rfl, hrun⟩ := h.pending k hpending
    exact ⟨rfl, (hrunning hpending).trans hrun⟩
  · rw [hprepared, hrounds]
    exact h.alternate
  · rw [hprepared]
    intro hup hopen
    obtain ⟨hnot, hround⟩ := h.unanswered hup hopen
    refine ⟨?_, hround⟩
    -- a round that is open was open before, where the attempt had not answered it
    cases hdone : inner.answered with
    | false => rfl
    | true =>
      rw [hanswered hdone] at hnot
      cases hnot

theorem own_setThread (s : State) (thread : Nat) (place : Thread) :
    (s.setThread thread place).own = if s.attempts = thread then place else s.own :=
  Function.update_apply ..

/-- Threads still before their round, after one of them has moved. -/
theorem pending_update {p : Nat → Prop} {thread : Nat} {place : Thread} (hmoved : place.Pending → p thread)
    (hothers : ∀ k, k ≠ thread → (s.threads k).Pending → p k) :
    ∀ k, (Function.update s.threads thread place k).Pending → p k :=
  (Function.forall_update_iff s.threads fun k place => place.Pending → p k).mpr ⟨hmoved, hothers⟩

theorem inv_thread (h : Inv s) {thread : Nat} {before place : Thread} (hthread : s.threads thread = before)
    {device : Device} (hprepared : device.prepared = s.device.prepared) (hrounds : device.rounds = s.device.rounds)
    (hhibernating : device.hibernating = s.device.hibernating) (hpending : place.Pending → before.Pending)
    (hround : place.BeforeRound → before.BeforeRound) (hresult : place.result = before.result) :
    Inv ({ s with device := device }.setThread thread place) := by
  subst hthread
  -- the thread that steps may be the one of the attempt under way
  have hown : (({ s with device := device }.setThread thread place).own.BeforeRound → s.own.BeforeRound) ∧
      ({ s with device := device }.setThread thread place).own.result = s.own.result := by
    rw [own_setThread]
    split
    next heq =>
      subst heq
      exact ⟨hround, hresult⟩
    next => exact ⟨id, rfl⟩
  refine ⟨?_, fun hdone hbefore => h.past hdone (hown.1 hbefore), h.returned, ?_, ?_, ?_, ?_, ?_, ?_, h.used⟩
  · exact pending_update (fun hplace => h.pending thread (hpending hplace)) fun k _ => h.pending k
  · intro hinner
    exact hhibernating.trans (h.released hinner)
  · simp only [State.setThread, hprepared, hrounds]
    exact h.alternate
  · intro hup hopen
    obtain ⟨hnot, hbefore⟩ := h.unanswered hup (hprepared.symm.trans hopen)
    exact ⟨hnot, fun hlater => hbefore (hown.1 hlater)⟩
  · rw [hown.2]
    exact h.waited
  · rw [hown.2]
    exact h.loading
  · rw [hown.2]
    exact h.succeeded

/-! ### The rounds -/

theorem alternate_cons {round : Round} {rounds : List Round} (h : Alternate rounds)
    (hhead : ∀ earlier, rounds.head? = some earlier → (round = .pre ↔ earlier ≠ .pre)) :
    Alternate (round :: rounds) := by
  cases rounds with
  | nil => exact List.isChain_singleton _
  | cons earlier rounds => exact List.isChain_cons_cons.mpr ⟨hhead earlier rfl, h⟩

/-- The thread of the attempt runs its round: no round was open. -/
theorem inv_preHibernate (h : Inv s) {thread : Nat} (hthread : s.threads thread = .preparing) :
    Inv ({ s with device := preHibernate s.device }.setThread thread .prepared) := by
  -- only the thread of the attempt under way is still before its round
  obtain ⟨rfl, hrunning⟩ := h.pending thread (by rw [hthread]; trivial)
  have hown : s.own = .preparing := hthread
  have hnotAnswered : s.inner.answered = false := by
    cases hdone : s.inner.answered with
    | false => rfl
    | true => exact absurd (by rw [hown]; trivial) (h.past hdone)
  have hnone : s.goingDown = false → s.device.prepared = false := by
    intro hup
    cases hopen : s.device.prepared with
    | false => rfl
    | true => exact absurd (by rw [hown]; trivial) (h.unanswered hup hopen).2
  have hresult : s.own.result = none := by rw [hown]; rfl
  refine ⟨?_, fun _ => ?_, h.returned, h.released, fun hup => ?_, fun _ _ => ⟨hnotAnswered, ?_⟩,
    fun _ ret hret => ?_, fun timedOut hload => ?_, fun hsucceeded => ?_, h.used⟩
  · exact pending_update (fun _ => ⟨rfl, hrunning⟩) fun k _ => h.pending k
  · rw [own_setThread, if_pos rfl]
    exact id
  · obtain ⟨halternate, hhead⟩ := h.alternate hup
    refine ⟨alternate_cons halternate fun earlier hearlier => ?_, by simp [State.setThread, preHibernate]⟩
    -- the round before this one was an answer
    have hanswered := mt hhead.mpr (by rw [hnone hup]; exact Bool.false_ne_true)
    rw [hearlier] at hanswered
    simpa using hanswered
  · rw [own_setThread, if_pos rfl]
    exact id
  · rw [own_setThread, if_pos rfl] at hret
    cases hret
  · rw [own_setThread, if_pos rfl]
    obtain hread | hnothing := h.loading timedOut hload
    · rw [hresult] at hread
      cases hread
    · exact .inr ⟨hnothing.1, rfl, hnothing.2.2⟩
  · have hread := h.succeeded hsucceeded
    rw [hresult] at hread
    cases hread

theorem alternate_postHibernate {d : Device} (hibernateResult : Bool)
    (h : Alternate d.rounds ∧ (d.prepared = true ↔ d.rounds.head? = some .pre)) :
    Alternate (postHibernate hibernateResult d).rounds ∧
    ((postHibernate hibernateResult d).prepared = true ↔
      (postHibernate hibernateResult d).rounds.head? = some .pre) := by
  unfold postHibernate
  split
  next hopen =>
    refine ⟨alternate_cons h.1 fun earlier hearlier => ?_, by simp⟩
    have hpre := h.2.mp hopen
    rw [hearlier] at hpre
    cases hpre
    simp
  next => exact h

theorem postHibernate_prepared (hibernateResult : Bool) (d : Device) :
    (postHibernate hibernateResult d).prepared = false := by
  unfold postHibernate
  split
  · rfl
  next hopen => simpa using hopen

theorem inv_postHibernate (h : Inv s) {inner : Inner} {outcome : Option Outcome} (hibernateResult : Bool)
    (hround : ¬s.own.BeforeRound) (hrunning : s.own.Pending → inner.running = s.inner.running)
    (hreturned : outcome ≠ none → inner = .idle) (hreleased : s.inner.released = true)
    (hanswered : inner.answered = true) :
    Inv { s with inner := inner, outcome := outcome, device := postHibernate hibernateResult s.device } := by
  refine ⟨fun k hpending => ?_, fun _ => hround, hreturned, fun _ => ?_, fun hup => ?_, fun _ hopen => ?_,
    fun hwait => ?_, fun timedOut hload => ?_, fun hsucceeded => ?_, h.used⟩
  · obtain ⟨rfl, hrun⟩ := h.pending k hpending
    exact ⟨rfl, (hrunning hpending).trans hrun⟩
  · exact (postHibernate_eq hibernateResult s.device).2.2.1.trans (h.released hreleased)
  · exact alternate_postHibernate hibernateResult (h.alternate hup)
  · have hclosed := postHibernate_prepared hibernateResult s.device
    rw [hopen] at hclosed
    cases hclosed
  all_goals cases inner <;> simp [Inner.answered, Inner.succeeded] at *

/-! ### One step -/

theorem inv_begin (h : Inv s) (hinner : s.inner = .idle) (clearMemory : Bool) (reason : String) (takenOver : Bool) :
    Inv (begin clearMemory reason takenOver s) := by
  have hnotPending : ¬s.own.Pending := h.not_pending (by rw [hinner]; rfl) _
  have hidle : s.device.hibernating = false := h.released (by rw [hinner]; rfl)
  unfold begin
  split
  · exact inv_goto h rfl rfl (fun hpending => absurd hpending hnotPending) (fun _ => rfl) (fun _ => hidle)
      (fun _ => by rw [hinner]; rfl) Inner.noConfusion (fun _ => Inner.noConfusion) Bool.noConfusion
  · rw [hidle, if_neg Bool.false_ne_true]
    exact inv_goto h rfl rfl (fun hpending => absurd hpending hnotPending) (fun hnone => absurd rfl hnone)
      Bool.noConfusion (fun _ => by rw [hinner]; rfl) Inner.noConfusion (fun _ => Inner.noConfusion) Bool.noConfusion

theorem inv_spawn (h : Inv s) (hinner : s.inner = .entered) : Inv (spawn s) := by
  have hnone := h.not_pending (by rw [hinner]; rfl)
  have hown : (spawn s).own = .spawned s.attempt.clearMemory := Function.update_self ..
  have houtcome := h.outcome_eq_none (by simp [hinner])
  refine ⟨?_, Bool.noConfusion, fun hreturned => absurd houtcome hreturned, Bool.noConfusion,
    h.alternate, fun hup hopen => ?_, fun _ ret hret => ?_, fun timedOut => Inner.noConfusion, Bool.noConfusion, h.used⟩
  · exact pending_update (fun _ => ⟨rfl, rfl⟩) fun k _ hpending => absurd hpending (hnone k)
  · have hanswered := (h.unanswered hup hopen).1
    rw [hinner] at hanswered
    cases hanswered
  · rw [hown] at hret
    cases hret

theorem inv_loading (h : Inv s) {timedOut : Bool} {prepareResult : Bool}
    (hinner : s.inner = .waiting ∨ s.inner = .timedOut)
    (hresult : s.own.result = some prepareResult ∨ timedOut = true ∧ s.own.result = none ∧ prepareResult = false) :
    Inv { s with inner := .loading timedOut, prepareResult := prepareResult } := by
  have hrunning : s.inner.running = true ∧ s.inner.answered = false ∧ s.inner ≠ .idle := by
    obtain hinner | hinner := hinner <;> rw [hinner] <;> exact ⟨rfl, rfl, Inner.noConfusion⟩
  refine ⟨fun k hpending => ⟨(h.pending k hpending).1, rfl⟩, Bool.noConfusion,
    fun hreturned => absurd (h.returned hreturned) hrunning.2.2, Bool.noConfusion, h.alternate,
    fun hup hopen => ⟨rfl, (h.unanswered hup hopen).2⟩, Inner.noConfusion, fun timedOut' hload => ?_,
    Bool.noConfusion, h.used⟩
  cases hload
  exact hresult

theorem inv_load (h : Inv s) {timedOut : Bool} (hinner : s.inner = .loading timedOut) : Inv (load s timedOut) := by
  have hread := h.loading timedOut hinner
  -- where it goes depends on the result alone
  have hgo : ∀ inner : Inner, inner.running = true → inner.answered = false → inner.released = false →
      (inner.succeeded = true → s.own.result = some true) → inner ≠ .waiting → (∀ timedOut, inner ≠ .loading timedOut) →
      Inv { s with inner := inner } := by
    intro inner hrunning hanswered hreleased hsucceeded hwaiting hloading
    exact inv_goto h rfl rfl (fun _ => by rw [hrunning, hinner]; rfl)
      (fun hreturned => absurd (h.outcome_eq_none (by simp [hinner])) hreturned)
      (fun hdone => by rw [hreleased] at hdone; cases hdone) (fun hdone => by rw [hanswered] at hdone; cases hdone)
      hwaiting hloading hsucceeded
  have hmoved : Inv { s with inner := if s.prepareResult then .hibernating else .failed } := by
    split
    next hsuccess =>
      refine hgo _ rfl rfl rfl (fun _ => ?_) Inner.noConfusion fun _ => Inner.noConfusion
      -- a success is never the one that a wait without result has left
      obtain hown | hnone := hread
      · rw [hown, hsuccess]
      · rw [hsuccess] at hnone
        exact Bool.noConfusion hnone.2.2
    next => exact hgo _ rfl rfl rfl Bool.noConfusion Inner.noConfusion fun _ => Inner.noConfusion
  refine ⟨hmoved.pending, hmoved.past, hmoved.returned, hmoved.released, hmoved.alternate, hmoved.unanswered,
    hmoved.waited, hmoved.loading, hmoved.succeeded, fun k u hused => ?_⟩
  obtain ⟨rfl, hnew⟩ | ⟨-, hold⟩ := Lib.update_cases hused
  · cases hnew
    exact hread.imp_right id
  · exact h.used k u hold

/-- A thread stores its result: its own attempt has none yet, and no other is about to read one. -/
theorem inv_store (h : Inv s) {thread : Nat} (hcareful : Careful s (.store thread)) {ret : Bool}
    (hthread : s.threads thread = .returned ret) :
    Inv ({ s with prepareResult := ret }.setThread thread (.stored ret)) := by
  have hpending : ∀ k, (({ s with prepareResult := ret }.setThread thread (.stored ret)).threads k).Pending →
      k = s.attempts ∧ s.inner.running = true :=
    pending_update False.elim fun k _ => h.pending k
  by_cases hown : s.attempts = thread
  -- its own thread stores: nothing has been read from it yet
  · have hstored : ({ s with prepareResult := ret }.setThread thread (.stored ret)).own = .stored ret := by
      rw [own_setThread]
      exact if_pos hown
    have hresult : s.own.result = none := by
      rw [State.own, hown, hthread]
      rfl
    refine ⟨hpending, fun _ => by rw [hstored]; exact id, h.returned, h.released, h.alternate,
      fun hup hopen => ⟨(h.unanswered hup hopen).1, by rw [hstored]; exact id⟩, fun _ ret' hret => ?_,
      fun _ _ => .inl (by rw [hstored]; rfl), fun hsucceeded => ?_, h.used⟩
    · rw [hstored] at hret
      cases hret
      rfl
    · have hread := h.succeeded hsucceeded
      rw [hresult] at hread
      cases hread
  -- another thread stores: if the result is about to be read, it stays the same
  · have hsame : ({ s with prepareResult := ret }.setThread thread (.stored ret)).own = s.own := by
      rw [own_setThread]
      exact if_neg hown
    have hkept : s.Settled → ret = s.prepareResult := by
      intro hsettled
      have hnot := hcareful (Ne.symm hown) hsettled
      rw [hthread] at hnot
      cases ret <;> cases hresult : s.prepareResult <;> simp_all
    refine ⟨hpending, fun hdone => by rw [hsame]; exact h.past hdone, h.returned, h.released, h.alternate,
      fun hup hopen => by rw [hsame]; exact h.unanswered hup hopen, fun hwait ret' hret => ?_, fun timedOut hload => ?_,
      fun hsucceeded => by rw [hsame]; exact h.succeeded hsucceeded, h.used⟩
    · rw [hsame] at hret
      have hsettled : s.Settled := .inl ⟨hwait, by rw [hret]; exact Option.some_ne_none _⟩
      exact (hkept hsettled).trans (h.waited hwait ret' hret)
    · rw [hsame]
      have hgiven := h.loading timedOut hload
      rw [← hkept (.inr ⟨timedOut, hload⟩)] at hgiven
      exact hgiven

theorem inv_shutDown (h : Inv s) (hinner : s.inner = .shuttingDown) {accepted : Bool}
    (hcareful : Careful s (.shutDown accepted)) :
    Inv ({ s with goingDown := s.goingDown || accepted }.return .shutDown) := by
  refine ⟨fun k hpending => ?_, fun _ hround => ?_, fun _ => rfl, fun _ => h.released (by rw [hinner]; rfl),
    fun hup => ?_, fun hup hopen => ?_, Inner.noConfusion, fun _ => Inner.noConfusion, Bool.noConfusion, h.used⟩
  · obtain ⟨rfl, -⟩ := h.pending k hpending
    exact absurd hpending hcareful.1
  · exact hcareful.1 (Thread.pending_of_beforeRound hround)
  · simp only [State.return, Bool.or_eq_false_iff] at hup
    exact h.alternate hup.1
  · simp only [State.return, Bool.or_eq_false_iff] at hup
    have hclosed : s.device.prepared = false := hcareful.2 hup.2
    exact absurd (hopen.symm.trans hclosed) Bool.noConfusion

theorem inv_inactive (h : Inv s) {thread : Nat} {answers : Answers}
    (hnext : next cfg s (.inactive thread answers) = some s') : Inv s' := by
  simp only [next] at hnext
  split at hnext
  next clearMemory hthread =>
    cases hnext
    refine inv_thread h hthread rfl rfl rfl ?_ ?_ ?_ <;> cases clearMemory <;> first | exact fun _ => trivial | rfl
  next => cases hnext

theorem inv_account (h : Inv s) {thread : Nat} {ok : Bool} (hnext : next cfg s (.account thread ok) = some s') :
    Inv s' := by
  simp only [next] at hnext
  split at hnext
  next hthread =>
    cases hnext
    refine inv_thread h hthread rfl rfl rfl ?_ ?_ ?_ <;> cases ok <;> first | exact fun _ => trivial | rfl
  next => cases hnext

theorem inv_setHibernate (h : Inv s) {thread : Nat} {answers : Answers}
    (hnext : next cfg s (.setHibernate thread answers) = some s') : Inv s' := by
  simp only [next] at hnext
  split at hnext
  next hthread =>
    cases hnext
    exact inv_thread h hthread rfl rfl rfl False.elim False.elim rfl
  next => cases hnext

theorem inv_finish (h : Inv s) {thread : Nat} (hnext : next cfg s (.finish thread) = some s') : Inv s' := by
  simp only [next] at hnext
  split at hnext
  next ret hthread =>
    cases hnext
    exact inv_thread h hthread rfl rfl rfl False.elim False.elim rfl
  next => cases hnext

theorem inv_ready (h : Inv s) (hnext : next cfg s .ready = some s') : Inv s' := by
  simp only [next] at hnext
  split at hnext
  next ret hwaiting hfinished =>
    cases hnext
    have hread : s.own.result = some ret := by
      rw [hfinished]
      rfl
    exact inv_loading h (.inl hwaiting) (.inl (by rw [h.waited hwaiting ret hread, hread]))
  next => cases hnext

theorem inv_timeout (h : Inv s) (hnext : next cfg s .timeout = some s') : Inv s' := by
  simp only [next] at hnext
  split at hnext
  next => cases hnext
  next hwaiting _ =>
    cases hnext
    exact inv_goto h rfl rfl (fun _ => by rw [hwaiting]; rfl)
      (fun hreturned => absurd (h.outcome_eq_none (by simp [hwaiting])) hreturned) Bool.noConfusion Bool.noConfusion
      Inner.noConfusion (fun _ => Inner.noConfusion) Bool.noConfusion
  next => cases hnext

theorem inv_storeTimeout (h : Inv s) (hcareful : Careful s .storeTimeout)
    (hnext : next cfg s .storeTimeout = some s') : Inv s' := by
  simp only [next] at hnext
  split at hnext
  next htimedOut =>
    cases hnext
    refine inv_loading h (.inr htimedOut) ?_
    cases hresult : s.own.result with
    | none => exact .inr ⟨rfl, rfl, rfl⟩
    | some ret =>
      left
      cases ret with
      | false => rfl
      | true => exact absurd hresult hcareful
  next => cases hnext

theorem inv_goOn (h : Inv s) {inner : Inner} {device : Device} (hprepared : device.prepared = s.device.prepared)
    (hrounds : device.rounds = s.device.rounds) (hbusy : s.inner ≠ .idle)
    (hrunning : inner.running = s.inner.running) (hreleased : inner.released = true → device.hibernating = false)
    (hanswered : inner.answered = true → s.inner.answered = true)
    (hplace : inner ≠ .waiting ∧ ∀ timedOut, inner ≠ .loading timedOut)
    (hsucceeded : inner.succeeded = true → s.inner.succeeded = true) :
    Inv { s with inner := inner, device := device } :=
  inv_goto h hprepared hrounds (fun _ => hrunning) (fun hreturned => absurd (h.returned hreturned) hbusy) hreleased
    hanswered hplace.1 hplace.2 fun hdone => h.succeeded (hsucceeded hdone)

theorem inv_hdiHibernate (h : Inv s) {ok : Bool} (hnext : next cfg s (.hdiHibernate ok) = some s') : Inv s' := by
  simp only [next] at hnext
  split at hnext
  next hinner =>
    cases hnext
    cases ok with
    | true =>
      exact inv_goOn h rfl rfl (by simp [hinner]) (by rw [hinner]; rfl) Bool.noConfusion Bool.noConfusion (by simp)
        (fun _ => by rw [hinner]; rfl)
    | false =>
      exact inv_goOn h rfl rfl (by simp [hinner]) (by rw [hinner]; rfl) Bool.noConfusion Bool.noConfusion (by simp)
        Bool.noConfusion
  next => cases hnext

theorem inv_restore (h : Inv s) (hnext : next cfg s .restore = some s') : Inv s' := by
  simp only [next] at hnext
  split at hnext
  next hinner =>
    cases hnext
    exact inv_goOn h rfl rfl (by simp [hinner]) (by rw [hinner]; rfl) (fun _ => rfl) Bool.noConfusion (by simp)
      (fun _ => by rw [hinner]; rfl)
  next => cases hnext

theorem inv_setAwake (h : Inv s) {answers : Answers} (hnext : next cfg s (.setAwake answers) = some s') : Inv s' := by
  simp only [next] at hnext
  split at hnext
  next hinner =>
    cases hnext
    refine inv_goOn h ?_ ?_ (by simp [hinner]) (by rw [hinner]; rfl)
      (fun _ => ?_) Bool.noConfusion (by simp) (fun _ => by rw [hinner]; rfl)
    · rfl
    · rfl
    · exact h.released (by rw [hinner]; rfl)
  next => cases hnext

theorem inv_postRestore (h : Inv s) (hnext : next cfg s .postRestore = some s') : Inv s' := by
  simp only [next] at hnext
  split at hnext
  next hinner =>
    cases hnext
    -- the result was a success of its own thread, which has nothing more to ask for
    have hdone := Thread.not_pending_of_result (h.succeeded (by rw [hinner]; rfl))
    exact inv_postHibernate h true (fun hround => hdone (Thread.pending_of_beforeRound hround))
      (fun hpending => absurd hpending hdone) (fun _ => rfl) (by rw [hinner]; rfl) rfl
  next => cases hnext

theorem inv_rollback (h : Inv s) (hnext : next cfg s .rollback = some s') : Inv s' := by
  simp only [next] at hnext
  split at hnext
  next hinner =>
    cases hnext
    cases s.attempt.needShutdown <;>
      exact inv_goOn h rfl rfl (by simp [hinner]) (by rw [hinner]; rfl) (fun _ => rfl) Bool.noConfusion (by simp)
        Bool.noConfusion
  next => cases hnext

theorem inv_postRollback (h : Inv s) (hcareful : Careful s .postRollback)
    (hnext : next cfg s .postRollback = some s') : Inv s' := by
  simp only [next] at hnext
  split at hnext
  next hinner =>
    cases hnext
    exact inv_postHibernate h false hcareful (fun _ => by rw [hinner]; rfl)
      (fun hreturned => absurd (h.outcome_eq_none (by simp [hinner])) hreturned) (by rw [hinner]; rfl) rfl
  next => cases hnext

/-- The rollback returns, and its thread has nothing more to ask for. -/
theorem inv_return (h : Inv s) {device : Device} (hprepared : device.prepared = s.device.prepared)
    (hrounds : device.rounds = s.device.rounds) (hreleased : device.hibernating = false)
    (hanswered : s.inner.answered = true) (hdone : ¬s.own.Pending) :
    Inv ({ s with device := device }.return .rolledBack) :=
  inv_goto h hprepared hrounds (fun hpending => absurd hpending hdone) (fun _ => rfl) (fun _ => hreleased)
    (fun _ => hanswered) Inner.noConfusion (fun _ => Inner.noConfusion) Bool.noConfusion

theorem inv_setInactive (h : Inv s) {answers : Answers} (hcareful : Careful s (.setInactive answers))
    (hnext : next cfg s (.setInactive answers) = some s') : Inv s' := by
  simp only [next] at hnext
  split at hnext
  next hinner =>
    cases hnext
    have hreleased : s.device.hibernating = false := h.released (by rw [hinner]; rfl)
    split
    next =>
      exact inv_goOn h rfl rfl (by simp [hinner]) (by rw [hinner]; rfl) (fun _ => hreleased)
        (fun _ => by rw [hinner]; rfl) (by simp) Bool.noConfusion
    next hawake => exact inv_return h rfl rfl hreleased (by rw [hinner]; rfl) (hcareful hawake)
  next => cases hnext

theorem setSuspendTag_rounds (ulsrFinished : Bool) (tag : String) (d : Device) :
    (setSuspendTag cfg ulsrFinished tag d).prepared = d.prepared ∧
    (setSuspendTag cfg ulsrFinished tag d).rounds = d.rounds := by
  unfold setSuspendTag
  split
  · split
    · exact ⟨rfl, rfl⟩
    · split <;> exact ⟨rfl, rfl⟩
  · exact ⟨rfl, rfl⟩

theorem inv_tag (h : Inv s) {switchOpen ulsrFinished : Bool}
    (hnext : next cfg s (.tag switchOpen ulsrFinished) = some s') : Inv s' := by
  simp only [next] at hnext
  split at hnext
  next hinner =>
    cases hnext
    have hreleased : s.device.hibernating = false := h.released (by rw [hinner]; rfl)
    obtain ⟨hprepared, hrounds⟩ := @setSuspendTag_rounds cfg ulsrFinished "ulsr" s.device
    have hhibernating := (@setSuspendTag_eq cfg ulsrFinished "ulsr" s.device).2.1
    refine inv_goOn h ?_ ?_ (by simp [hinner]) (by rw [hinner]; rfl) (fun _ => ?_) (fun _ => by rw [hinner]; rfl)
      (by simp) Bool.noConfusion
    · split
      · rfl
      · exact hprepared
    · split
      · rfl
      · exact hrounds
    · split
      · exact hreleased
      · exact hhibernating.trans hreleased
  next => cases hnext

theorem inv_arm (h : Inv s) {sleepTime : Int} (hcareful : Careful s (.arm sleepTime))
    (hnext : next cfg s (.arm sleepTime) = some s') : Inv s' := by
  simp only [next] at hnext
  split at hnext
  next hinner =>
    cases hnext
    exact inv_return h rfl rfl (h.released (by rw [hinner]; rfl)) (by rw [hinner]; rfl) hcareful
  next => cases hnext

/-- What others do to the state and to the display does not matter here. -/
theorem inv_machine (h : Inv s) (machine : Machine) : Inv { s with device := { s.device with machine := machine } } :=
  ⟨h.pending, h.past, h.returned, h.released, h.alternate, h.unanswered, h.waited, h.loading, h.succeeded, h.used⟩

theorem inv_next {e : Event} (h : Inv s) (hcareful : Careful s e) (hnext : next cfg s e = some s') : Inv s' := by
  cases e with
  | begin clearMemory reason takenOver =>
    simp only [next] at hnext
    split at hnext <;> cases hnext
    next hinner => exact inv_begin h hinner clearMemory reason takenOver
  | spawn =>
    simp only [next] at hnext
    split at hnext <;> cases hnext
    next hinner => exact inv_spawn h hinner
  | inactive thread answers => exact inv_inactive h hnext
  | account thread ok => exact inv_account h hnext
  | preHibernate thread =>
    simp only [next] at hnext
    split at hnext <;> cases hnext
    next hthread => exact inv_preHibernate h hthread
  | setHibernate thread answers => exact inv_setHibernate h hnext
  | store thread =>
    simp only [next] at hnext
    split at hnext <;> cases hnext
    next ret hthread => exact inv_store h hcareful hthread
  | finish thread => exact inv_finish h hnext
  | ready => exact inv_ready h hnext
  | timeout => exact inv_timeout h hnext
  | storeTimeout => exact inv_storeTimeout h hcareful hnext
  | load =>
    simp only [next] at hnext
    split at hnext <;> cases hnext
    next timedOut hinner => exact inv_load h hinner
  | hdiHibernate ok => exact inv_hdiHibernate h hnext
  | restore => exact inv_restore h hnext
  | setAwake answers => exact inv_setAwake h hnext
  | postRestore => exact inv_postRestore h hnext
  | rollback => exact inv_rollback h hnext
  | shutDown accepted =>
    simp only [next] at hnext
    split at hnext <;> cases hnext
    next hinner => exact inv_shutDown h hinner hcareful
  | postRollback => exact inv_postRollback h hcareful hnext
  | setInactive answers => exact inv_setInactive h hcareful hnext
  | tag switchOpen ulsrFinished => exact inv_tag h hnext
  | arm sleepTime => exact inv_arm h hcareful hnext
  | other state reason force answers =>
    cases hnext
    exact inv_machine h _
  | display state =>
    cases hnext
    exact inv_machine h _

theorem inv_of_reach (hreach : (system cfg).Reach Careful s) : Inv s := by
  refine hreach.invariant (fun s hinit => ?_) fun s s' e h hcareful hnext => ?_
  · obtain ⟨machine, rfl⟩ := hinit
    refine ⟨fun _ => False.elim, fun _ => id, fun hnone => absurd rfl hnone, fun _ => rfl,
      fun _ => ⟨List.isChain_nil, by simp⟩, fun _ hopen => Bool.noConfusion hopen, Inner.noConfusion,
      fun _ => Inner.noConfusion, Bool.noConfusion,
      fun _ _ hnone => by cases hnone⟩
  · have hstep : next cfg s e = some s' := hnext
    exact inv_next h hcareful hstep

/-- In every run of careful steps a rollback is final, every round is answered before the next one, and
every attempt goes on with the result of its own thread. -/
theorem rollback_stays (hreach : (system cfg).Reach Careful s) : Holds cfg s := by
  have h := inv_of_reach hreach
  refine ⟨fun hrolled thread answers => ?_, fun hup => (h.alternate hup).1, fun hup hfinished hopen => ?_, h.used⟩
  · -- a rollback that has returned leaves no attempt under way, hence no thread that still asks
    have hidle : s.inner = .idle := by
      apply h.returned
      obtain houtcome | houtcome := hrolled <;> rw [houtcome] <;> exact Option.some_ne_none _
    simp only [next]
    split
    next hprepared => exact absurd (by rw [hprepared]; trivial) (h.not_pending (by rw [hidle]; rfl) thread)
    next => rfl
  · -- an open round belongs to an attempt under way
    have hprepared := (h.alternate hup).2.mpr hopen
    have hanswered := (h.unanswered hup hprepared).1
    rw [hfinished.1] at hanswered
    cases hanswered

/-- Between attempts `hibernating_` is reset, as an attempt with nothing in between assumes. -/
theorem not_hibernating (hreach : (system cfg).Reach Careful s) (hidle : s.inner = .idle) :
    s.device.hibernating = false :=
  (inv_of_reach hreach).released (by rw [hidle]; rfl)

end Steps

/-! ## Threads that were given up -/

def lit : State := { device := { machine := { currentState := .awake, display := .on } } }

/-- The wait ends before the thread has asked for anything, and the attempt is rolled back. -/
def givenUp : List Event :=
  [.begin false "S4" false, .spawn, .timeout, .storeTimeout, .load, .rollback, .postRollback, .setInactive {}]

/-- The wait ends when the thread has only its result to store. -/
def storedLate : List Event :=
  [.begin false "S4" false, .spawn, .inactive 1 {}, .preHibernate 1, .setHibernate 1 {}, .timeout, .storeTimeout, .load,
    .rollback, .postRollback, .setInactive {}]

theorem rollback_stays_storedLate : ∃ s, (system {}).run lit storedLate = some s ∧ s.RolledBack ∧ Holds {} s := by
  have hreach : (system {}).Reach Careful lit := .init ⟨_, rfl⟩
  replace hreach := hreach.step (Event.begin false "S4" false) trivial rfl
  replace hreach := hreach.step Event.spawn trivial rfl
  replace hreach := hreach.step (Event.inactive 1 {}) trivial rfl
  replace hreach := hreach.step (Event.preHibernate 1) trivial rfl
  replace hreach := hreach.step (Event.setHibernate 1 {}) trivial rfl
  replace hreach := hreach.step Event.timeout trivial rfl
  replace hreach := hreach.step Event.storeTimeout (Option.some_ne_none true).symm rfl
  replace hreach := hreach.step Event.load trivial rfl
  replace hreach := hreach.step Event.rollback trivial rfl
  replace hreach := hreach.step Event.postRollback (fun hround => hround) rfl
  replace hreach := hreach.step (Event.setInactive {}) (fun _ hpending => hpending) rfl
  exact ⟨_, rfl, .inl rfl, rollback_stays hreach⟩

/-- The given-up thread asks for `HIBERNATE` after the rollback; its round is left without an answer; the
next attempt runs another one; and an attempt whose thread fails goes on to hibernate with the result
that the thread of the one before it stores late. -/
theorem rollback_undone :
    (¬∀ s, (system {}).Reachable s → s.RolledBack → ∀ thread answers, next {} s (.setHibernate thread answers) = none) ∧
    (¬∀ s, (system {}).Reachable s → s.goingDown = false → s.Finished → s.device.rounds.head? ≠ some .pre) ∧
    (¬∀ s, (system {}).Reachable s → s.goingDown = false → Alternate s.device.rounds) ∧
    ¬∀ s, (system {}).Reachable s → ∀ k u, s.used k = some u → u.IsOwn := by
  have hinit : (system {}).Reachable lit := .init ⟨_, rfl⟩
  refine ⟨fun hstays => ?_, fun hanswered => ?_, fun halternate => ?_, fun hown => ?_⟩
  · obtain ⟨s, hrun, hrolled, hnext⟩ : ∃ s,
        (system {}).run lit (givenUp ++ [.inactive 1 {}, .preHibernate 1]) = some s ∧ s.RolledBack ∧
          (next {} s (.setHibernate 1 {})).isSome = true :=
      ⟨_, rfl, .inl rfl, rfl⟩
    rw [hstays s (Lib.System.reachable_of_run _ hinit hrun) hrolled 1 {}] at hnext
    cases hnext
  · obtain ⟨s, hrun, hup, hfinished, hopen⟩ : ∃ s, (system {}).run lit (givenUp ++
          [.inactive 1 {}, .preHibernate 1, .setHibernate 1 {}, .store 1, .finish 1]) = some s ∧
        s.goingDown = false ∧ s.Finished ∧ s.device.rounds.head? = some .pre := by
      refine ⟨_, rfl, rfl, ⟨rfl, fun k => ?_⟩, rfl⟩
      match k with
      | 0 => exact .inl rfl
      | 1 => exact .inr ⟨true, rfl⟩
      | k + 2 => exact .inl rfl
    exact hanswered s (Lib.System.reachable_of_run _ hinit hrun) hup hfinished hopen
  · obtain ⟨s, hrun, hup, hrounds⟩ : ∃ s, (system {}).run lit (givenUp ++ [.inactive 1 {}, .preHibernate 1,
          .begin false "S4" false, .spawn, .inactive 2 {}, .preHibernate 2]) = some s ∧
        s.goingDown = false ∧ s.device.rounds = [.pre, .pre] :=
      ⟨_, rfl, rfl, rfl⟩
    have hchain := halternate s (Lib.System.reachable_of_run _ hinit hrun) hup
    rw [hrounds] at hchain
    simp [Alternate] at hchain
  · obtain ⟨s, hrun, hused⟩ : ∃ s, (system {}).run lit (storedLate ++ [.begin true "S4" false, .spawn, .inactive 2 {},
          .account 2 false, .store 2, .finish 2, .ready, .store 1, .load]) = some s ∧
        s.used 2 = some { result := true, own := some false, timedOut := false } :=
      ⟨_, rfl, rfl⟩
    have hother := hown s (Lib.System.reachable_of_run _ hinit hrun) 2 _ hused
    simp [Used.IsOwn] at hother

end PowerMgr.Hibernate.Attempts
