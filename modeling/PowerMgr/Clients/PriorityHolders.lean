import PowerMgr.Lib.System
import PowerMgr.Lib.TreeMap
import Mathlib.Logic.Function.Basic

/-! # Callbacks by priority

Embedding of `SleepCallbackHolder` (`sleep_callback_holder.cpp`), of the callbacks of
`HibernateController` (`hibernate_controller.cpp`) and of `ShutdownCallbackHolder`
(`shutdown_callback_holer.cpp`).  All three keep one set of callbacks for each priority and call
the sets in the order of their priorities; they differ in the priorities there are and in how they
watch the clients.

* `HolderKind` — which of the three, and its priorities in the order of a round;
* `Holder` — the sets and what each kind does with them;
* `CallsEachOnce` — a round calls the registered callbacks, each once and by priority;
* `round_calls_each_once` — exactly when it does.

A callback is known by its remote object, as the sets compare callbacks.
-/

namespace PowerMgr.Clients.PriorityHolders

open Std (TreeMap TreeSet)

abbrev Callback := Nat

/-- `SleepPriority`, `HibernateCallbackPriority` and `ShutdownPriority`. -/
inductive Priority where
  | low
  | default
  | high
  | highest
  | lowest
  deriving DecidableEq, Repr

def Priority.rank : Priority → Nat
  | .highest => 0
  | .high => 1
  | .default => 2
  | .low => 3
  | .lowest => 4

inductive HolderKind where
  | sleep
  | hibernate
  | shutdown
  deriving DecidableEq, Repr

/-- The sets of a holder, in the order of a round. -/
def HolderKind.order : HolderKind → List Priority
  | .sleep | .hibernate => [.high, .default, .low]
  | .shutdown => [.highest, .high, .default, .low, .lowest]

/-- A death recipient is attached to a callback that is inserted into a set. -/
def HolderKind.watches : HolderKind → Bool
  | .sleep => false
  | .hibernate | .shutdown => true

/-- It is detached from a callback that is unregistered. -/
def HolderKind.unwatches : HolderKind → Bool
  | .hibernate => true
  | .sleep | .shutdown => false

/-! ## The holders -/

structure Holder where
  callbacks : Priority → TreeSet Callback := fun _ => ∅
  -- the pid and the uid of who registered a callback first
  cachedRegister : TreeMap Callback (Int × Int) := ∅
  -- how often the death recipient is attached at the IPC layer
  attached : Callback → Nat := fun _ => 0

/-- A call of a callback: of `OnSyncSleep` or `OnSyncWakeup`, of `OnSyncHibernate`, or of
`OnAsyncShutdown` and `OnAsyncShutdownOrReboot`. -/
structure Call where
  priority : Priority
  callback : Callback
  pidUid : Int × Int
  deriving DecidableEq, Repr

namespace Holder

/-- The `insert` into one set, and `AddDeathRecipient` if the callback is new in it. -/
def insertCallback (kind : HolderKind) (h : Holder) (callback : Callback) (priority : Priority) : Holder :=
  { h with
    callbacks := Function.update h.callbacks priority ((h.callbacks priority).insert callback)
    attached :=
      if kind.watches ∧ callback ∉ h.callbacks priority then
        Function.update h.attached callback (h.attached callback + 1)
      else h.attached }

/-- `SleepCallbackHolder::AddCallback`, `RegisterSyncHibernateCallback` and
`ShutdownCallbackHolder::AddCallback`; a priority that the kind does not know is no case of their
`switch`. -/
def addCallback (kind : HolderKind) (h : Holder) (callback : Callback) (priority : Option Priority)
    (pid uid : Int) : Holder :=
  let h :=
    match priority with
    | some priority => if priority ∈ kind.order then h.insertCallback kind callback priority else h
    | none => h
  { h with cachedRegister := h.cachedRegister.insertIfNew callback (pid, uid) }

/-- `SleepCallbackHolder::RemoveCallback`, `UnregisterSyncHibernateCallback` and
`ShutdownCallbackHolder::RemoveCallback`: the callback is erased from each set. -/
def removeCallback (kind : HolderKind) (h : Holder) (callback : Callback) : Holder where
  callbacks priority :=
    if priority ∈ kind.order then (h.callbacks priority).erase callback else h.callbacks priority
  cachedRegister := h.cachedRegister.erase callback
  attached :=
    if kind.unwatches then Function.update h.attached callback (h.attached callback - 1) else h.attached

/-- The loop over one set. -/
def calls (h : Holder) (priority : Priority) : List Call :=
  (h.callbacks priority).toList.map fun callback =>
    { priority := priority, callback := callback, pidUid := h.cachedRegister.getD callback (0, 0) }

/-- `TriggerSyncSleepCallback`, `PreHibernate` and `TriggerAsyncShutdownCallback`. -/
def round (kind : HolderKind) (h : Holder) : List Call :=
  kind.order.flatMap h.calls

end Holder

/-! ## Runs -/

/-- `since` holds the priorities at which a callback was registered since its last removal. -/
structure State where
  holder : Holder := {}
  dead : Callback → Bool := fun _ => false
  since : Callback → List Priority := fun _ => []
  log : List Call := []

inductive Event where
  | register (callback : Callback) (priority : Option Priority) (pid uid : Int)
  | unregister (callback : Callback)
  | die (callback : Callback)
  | round
  deriving DecidableEq, Repr

/-- A registration at a valid priority. -/
def State.note (kind : HolderKind) (s : State) (callback : Callback) (priority : Option Priority) : State :=
  match priority with
  | some priority =>
    if priority ∈ kind.order then { s with since := Function.update s.since callback (priority :: s.since callback) }
    else s
  | none => s

/-- A client dies once.  The recipient that is attached removes its callback; were it notified a
second time, there would be nothing left to remove. -/
def next (kind : HolderKind) (s : State) : Event → Option State
  | .register callback priority pid uid =>
    some { s.note kind callback priority with holder := s.holder.addCallback kind callback priority pid uid }
  | .unregister callback =>
    some { s with
      holder := s.holder.removeCallback kind callback
      since := Function.update s.since callback [] }
  | .die callback =>
    if kind.watches ∧ !s.dead callback then
      some { s with
        holder := if 0 < s.holder.attached callback then s.holder.removeCallback kind callback else s.holder
        dead := Function.update s.dead callback true
        since := Function.update s.since callback [] }
    else none
  | .round => some { s with log := s.log ++ s.holder.round kind }

def system (kind : HolderKind) : Lib.System State Event where
  init s := s = {}
  next := next kind

/-- The last operation on a callback is a registration. -/
def State.Registered (s : State) (callback : Callback) : Prop :=
  s.since callback ≠ []

/-- A round calls the callbacks that are registered, each once, and in the order of priorities. -/
structure CallsEachOnce (s : State) (calls : List Call) : Prop where
  once : ∀ callback, s.Registered callback → calls.countP (·.callback == callback) = 1
  only : ∀ call ∈ calls, s.Registered call.callback
  ordered : calls.Pairwise fun a b => a.priority.rank ≤ b.priority.rank

/-- Since its last removal, no callback was registered at two priorities. -/
def OnePriorityEach (s : State) : Prop :=
  ∀ callback, ∀ p ∈ s.since callback, ∀ q ∈ s.since callback, p = q

/-! ## The sets -/

theorem order_nodup (kind : HolderKind) : kind.order.Nodup := by
  cases kind <;> decide

theorem order_sorted (kind : HolderKind) : kind.order.Pairwise fun p q => p.rank ≤ q.rank := by
  cases kind <;> decide

theorem mem_addCallback (kind : HolderKind) (h : Holder) (callback other : Callback) (priority : Option Priority)
    (pid uid : Int) (p : Priority) :
    other ∈ (h.addCallback kind callback priority pid uid).callbacks p ↔
      (other = callback ∧ priority = some p ∧ p ∈ kind.order) ∨ other ∈ h.callbacks p := by
  cases priority with
  | none => simp [Holder.addCallback]
  | some q =>
    by_cases hq : q ∈ kind.order
    · by_cases heq : p = q
      · subst heq
        simp [Holder.addCallback, Holder.insertCallback, hq, eq_comm (a := other)]
      · simp [Holder.addCallback, Holder.insertCallback, hq, heq, eq_comm (a := q)]
    · have hne : q = p → p ∉ kind.order := fun heq => heq ▸ hq
      simp only [Holder.addCallback, hq, if_false, Option.some.injEq, iff_or_self]
      exact fun hnew => absurd hnew.2.2 (hne hnew.2.1)

theorem mem_removeCallback (kind : HolderKind) (h : Holder) (callback other : Callback) (p : Priority) :
    other ∈ (h.removeCallback kind callback).callbacks p ↔
      ¬(other = callback ∧ p ∈ kind.order) ∧ other ∈ h.callbacks p := by
  simp only [Holder.removeCallback]
  split_ifs with hp
  · simp [hp, eq_comm (a := other)]
  · simp [hp]

theorem countP_calls (h : Holder) (priority : Priority) (callback : Callback) :
    (h.calls priority).countP (·.callback == callback) = if callback ∈ h.callbacks priority then 1 else 0 := by
  rw [← Lib.TreeMap.count_toList, Holder.calls, List.countP_map]
  rfl

/-- The loops over some sets call a callback once for each of the sets it is in. -/
theorem countP_flatMap_calls (h : Holder) (priorities : List Priority) (callback : Callback) :
    (priorities.flatMap h.calls).countP (·.callback == callback) =
      priorities.countP fun p => callback ∈ h.callbacks p := by
  induction priorities with
  | nil => rfl
  | cons first rest ih =>
    rw [List.flatMap_cons, List.countP_append, ih, countP_calls, List.countP_cons, Nat.add_comm]
    simp only [decide_eq_true_eq]

theorem mem_round {kind : HolderKind} {h : Holder} {call : Call} (hmem : call ∈ h.round kind) :
    call.priority ∈ kind.order ∧ call.callback ∈ h.callbacks call.priority := by
  obtain ⟨p, hp, hcall⟩ := List.mem_flatMap.mp hmem
  obtain ⟨callback, hcallback, rfl⟩ := List.mem_map.mp hcall
  exact ⟨hp, TreeSet.mem_toList.mp hcallback⟩

/-- A round goes through the sets in the order of their priorities. -/
theorem round_ordered (kind : HolderKind) (h : Holder) :
    (h.round kind).Pairwise fun a b => a.priority.rank ≤ b.priority.rank := by
  have hpriority : ∀ p, ∀ call ∈ h.calls p, call.priority = p := by
    intro p call hcall
    obtain ⟨callback, -, rfl⟩ := List.mem_map.mp hcall
    rfl
  rw [Holder.round, List.pairwise_flatMap]
  constructor
  · intro p _
    refine List.pairwise_of_forall_mem_list fun a ha b hb => ?_
    rw [hpriority p a ha, hpriority p b hb]
  · refine (order_sorted kind).imp fun hle a ha b hb => ?_
    rw [hpriority _ a ha, hpriority _ b hb]
    exact hle

/-! ## Every run -/

/-- A callback is in the sets of the priorities it was registered at since its last removal, and
watched where the kind watches. -/
structure Inv (kind : HolderKind) (s : State) : Prop where
  sets : ∀ callback p, callback ∈ s.holder.callbacks p ↔ p ∈ s.since callback
  valid : ∀ callback, ∀ p ∈ s.since callback, p ∈ kind.order
  watched : kind.watches = true → ∀ callback, s.Registered callback → s.dead callback = false →
    0 < s.holder.attached callback

variable {kind : HolderKind} {s s' : State}

theorem mem_since_note (s : State) (callback other : Callback) (priority : Option Priority) (p : Priority) :
    p ∈ (s.note kind callback priority).since other ↔
      (other = callback ∧ priority = some p ∧ p ∈ kind.order) ∨ p ∈ s.since other := by
  cases priority with
  | none => simp [State.note]
  | some q =>
    simp only [State.note]
    split_ifs with hq
    · by_cases heq : other = callback
      · subst heq
        simp only [Function.update_self, List.mem_cons, Option.some.injEq, true_and]
        grind
      · simp [heq]
    · simp only [Option.some.injEq]
      grind

theorem registered_iff (s : State) (callback : Callback) : s.Registered callback ↔ ∃ p, p ∈ s.since callback :=
  ⟨List.exists_mem_of_ne_nil _, fun ⟨_, hmem⟩ => List.ne_nil_of_mem hmem⟩

theorem attached_le (kind : HolderKind) (h : Holder) (callback other : Callback)
    (priority : Option Priority) (pid uid : Int) :
    h.attached other ≤ (h.addCallback kind callback priority pid uid).attached other := by
  cases priority with
  | none => exact Nat.le_refl _
  | some q =>
    simp only [Holder.addCallback, Holder.insertCallback]
    by_cases heq : other = callback
    · subst heq
      split_ifs <;> simp
    · split_ifs <;> simp [heq]

/-- The recipient is attached to a callback that is new in a set. -/
theorem attached_new {kind : HolderKind} (hwatches : kind.watches = true) {h : Holder} {callback : Callback}
    {p : Priority} (hvalid : p ∈ kind.order) (hnew : callback ∉ h.callbacks p) (pid uid : Int) :
    0 < (h.addCallback kind callback (some p) pid uid).attached callback := by
  simp [Holder.addCallback, Holder.insertCallback, hvalid, hwatches, hnew]

theorem Inv.register (h : Inv kind s) (callback : Callback) (priority : Option Priority) (pid uid : Int) :
    Inv kind { s.note kind callback priority with
      holder := s.holder.addCallback kind callback priority pid uid } where
  sets := by
    intro other p
    rw [mem_addCallback, mem_since_note, h.sets]
  valid := by
    intro other p hp
    rw [mem_since_note] at hp
    obtain ⟨-, -, hvalid⟩ | hp := hp
    · exact hvalid
    · exact h.valid other p hp
  watched := by
    intro hwatches other hregistered hlive
    have hdead : (s.note kind callback priority).dead = s.dead := by
      simp only [State.note]
      split <;> [split_ifs; skip] <;> rfl
    simp only [hdead] at hlive
    by_cases hbefore : s.Registered other
    · exact Nat.lt_of_lt_of_le (h.watched hwatches other hbefore hlive) (attached_le ..)
    · obtain ⟨p, hp⟩ := (registered_iff _ _).mp hregistered
      obtain ⟨rfl, rfl, hvalid⟩ | hp := (mem_since_note s callback other priority p).mp hp
      · refine attached_new hwatches hvalid (fun hmem => hbefore ?_) pid uid
        exact (registered_iff _ _).mpr ⟨p, (h.sets _ p).mp hmem⟩
      · exact absurd ((registered_iff _ _).mpr ⟨p, hp⟩) hbefore

theorem Inv.remove (h : Inv kind s) (callback : Callback) {dead : Callback → Bool}
    (hdead : ∀ other, dead other = false → s.dead other = false) :
    Inv kind { s with
      holder := s.holder.removeCallback kind callback
      dead := dead
      since := Function.update s.since callback [] } where
  sets := by
    intro other p
    rw [mem_removeCallback, h.sets]
    by_cases heq : other = callback
    · subst heq
      simpa using fun hmem hp => hmem (h.valid _ p hp)
    · simp [heq]
  valid := by
    intro other p hp
    by_cases heq : other = callback
    · simp [heq] at hp
    · simp only [Function.update_of_ne heq] at hp
      exact h.valid other p hp
  watched := by
    intro hwatches other hregistered hlive
    by_cases heq : other = callback
    · simp [State.Registered, heq] at hregistered
    · have hattached : (s.holder.removeCallback kind callback).attached other = s.holder.attached other := by
        simp only [Holder.removeCallback]
        split_ifs <;> simp [heq]
      simp only [State.Registered, Function.update_of_ne heq] at hregistered
      rw [hattached]
      exact h.watched hwatches other hregistered (hdead other hlive)

theorem Inv.die (h : Inv kind s) {callback : Callback} (hnext : next kind s (.die callback) = some s') :
    Inv kind s' := by
  have hdead : ∀ other, Function.update s.dead callback true other = false → s.dead other = false := by
    intro other hlive
    by_cases heq : other = callback
    · simp [heq] at hlive
    · simpa [heq] using hlive
  simp only [next] at hnext
  split at hnext
  next hguard =>
    cases hnext
    by_cases hattached : 0 < s.holder.attached callback
    · rw [if_pos hattached]
      exact h.remove callback hdead
    · -- nothing is attached, so the callback was in no set
      have hnone : s.since callback = [] := by
        by_contra hregistered
        exact hattached (h.watched hguard.1 callback hregistered (by simpa using hguard.2))
      have hsince : Function.update s.since callback [] = s.since := by
        rw [← hnone, Function.update_eq_self]
      rw [if_neg hattached, hsince]
      exact ⟨h.sets, h.valid, fun hwatches other hregistered hlive =>
        h.watched hwatches other hregistered (hdead other hlive)⟩
  next => cases hnext

theorem inv_init (kind : HolderKind) : Inv kind {} where
  sets _ _ := by simp
  valid _ _ h := by simp at h
  watched _ _ h := by simp [State.Registered] at h

theorem inv_step {e : Event} (h : Inv kind s) (hnext : next kind s e = some s') : Inv kind s' := by
  cases e with
  | register callback priority pid uid =>
    cases hnext
    exact h.register callback priority pid uid
  | unregister callback =>
    cases hnext
    exact h.remove callback fun _ hlive => hlive
  | die callback => exact h.die hnext
  | round =>
    cases hnext
    exact ⟨h.sets, h.valid, h.watched⟩

theorem Inv.callsEachOnce_iff (h : Inv kind s) :
    CallsEachOnce s (s.holder.round kind) ↔ OnePriorityEach s := by
  have hcount : ∀ callback, (s.holder.round kind).countP (·.callback == callback) =
      (kind.order.filter fun p => callback ∈ s.holder.callbacks p).length := by
    intro callback
    rw [Holder.round, countP_flatMap_calls, List.countP_eq_length_filter]
  have hmem : ∀ callback p,
      p ∈ kind.order.filter (fun p => callback ∈ s.holder.callbacks p) ↔ p ∈ s.since callback := by
    intro callback p
    rw [List.mem_filter, decide_eq_true_eq, h.sets]
    exact ⟨fun hp => hp.2, fun hp => ⟨h.valid callback p hp, hp⟩⟩
  constructor
  · intro hcalls callback p hp q hq
    have hone := hcalls.once callback (List.ne_nil_of_mem hp)
    rw [hcount] at hone
    obtain ⟨r, hr⟩ := List.length_eq_one_iff.mp hone
    rw [← hmem, hr, List.mem_singleton] at hp hq
    rw [hp, hq]
  · intro hsame
    refine ⟨fun callback hregistered => ?_, fun call hcall => ?_, round_ordered kind s.holder⟩
    · obtain ⟨p, hp⟩ := (registered_iff s callback).mp hregistered
      -- all sets that the callback is in are the set of `p`
      have hall : ∀ q ∈ kind.order.filter (fun p => callback ∈ s.holder.callbacks p), p = q :=
        fun q hq => hsame callback p hp q ((hmem callback q).mp hq)
      rw [hcount, ← List.count_eq_length.mpr hall]
      exact List.count_eq_one_of_mem ((order_nodup kind).filter _) ((hmem callback p).mpr hp)
    · exact (registered_iff s _).mpr ⟨call.priority, (h.sets _ _).mp (mem_round hcall).2⟩

/-- After every run a round calls exactly the registered callbacks, each once and by priority, if
and only if no callback was registered at two priorities since its last removal. -/
theorem round_calls_each_once (hreach : (system kind).Reachable s) (hround : next kind s .round = some s') :
    ∃ calls, s'.log = s.log ++ calls ∧ (CallsEachOnce s calls ↔ OnePriorityEach s) := by
  have hinv : Inv kind s := by
    refine hreach.invariant (I := Inv kind) ?_ ?_
    · intro s hs
      cases hs
      exact inv_init kind
    · intro s s' e hinv _ hnext
      exact inv_step hinv hnext
  cases hround
  exact ⟨_, rfl, hinv.callsEachOnce_iff⟩

/-- Two clients of the shutdown holder; one of them goes and comes back, another one dies. -/
theorem round_calls_each_once_two : ∃ s s', next .shutdown s .round = some s' ∧
    s.since 1 = [.lowest] ∧ s.since 2 = [.high] ∧ s.since 3 = [] ∧
    ∃ calls, s'.log = s.log ++ calls ∧ CallsEachOnce s calls := by
  have hnew : (system .shutdown).Reachable {} := .init rfl
  have hfirst := hnew.step (Event.register 1 (some .high) 0 0) trivial rfl
  have hgone := hfirst.step (Event.unregister 1) trivial rfl
  have hback := hgone.step (Event.register 1 (some .lowest) 0 0) trivial rfl
  have hsecond := hback.step (Event.register 2 (some .high) 0 0) trivial rfl
  have hthird := hsecond.step (Event.register 3 (some .low) 0 0) trivial rfl
  have hdead := hthird.step (Event.die 3) trivial rfl
  obtain ⟨s, hreach, hone, htwo, hrest⟩ : ∃ s, (system .shutdown).Reachable s ∧ s.since 1 = [.lowest] ∧
      s.since 2 = [.high] ∧ ∀ callback, callback ≠ 1 → callback ≠ 2 → s.since callback = [] := by
    refine ⟨_, hdead, rfl, rfl, fun callback hne hne' => ?_⟩
    by_cases heq : callback = 3
    · subst heq
      rfl
    · simp [State.note, HolderKind.order, hne, hne', heq]
  obtain ⟨calls, hlog, hiff⟩ := round_calls_each_once hreach rfl
  refine ⟨s, _, rfl, hone, htwo, hrest 3 (by decide) (by decide), calls, hlog, hiff.mpr ?_⟩
  intro callback p hp q hq
  by_cases h1 : callback = 1
  · simp_all
  · by_cases h2 : callback = 2
    · simp_all
    · simp [hrest callback h1 h2] at hp

/-- Some run leads to a round that calls one registered callback twice. -/
def CallsTwice (kind : HolderKind) : Prop :=
  ∃ s s', (system kind).Reachable s ∧ next kind s .round = some s' ∧
    s.Registered 1 ∧ s'.log.map Call.callback = [1, 1] ∧
    ¬∃ calls, s'.log = s.log ++ calls ∧ CallsEachOnce s calls

theorem twice_after_two_priorities (kind : HolderKind) : CallsTwice kind := by
  have hnew : (system kind).Reachable {} := .init rfl
  have hlow := hnew.step (Event.register 1 (some .low) 0 0) trivial rfl
  have hhigh := hlow.step (Event.register 1 (some .high) 0 0) trivial rfl
  refine ⟨_, _, hhigh, rfl, ?_, ?_, ?_⟩
  · cases kind <;> exact List.cons_ne_nil _ _
  · cases kind <;> rfl
  · rintro ⟨calls, hlog, hcalls⟩
    have honce := hcalls.once 1 (by cases kind <;> exact List.cons_ne_nil _ _)
    rw [← List.append_cancel_left hlog] at honce
    revert honce
    cases kind <;> decide

/-- A callback that is registered at two priorities is called twice in a round of each holder. -/
theorem round_calls_twice : CallsTwice .sleep ∧ CallsTwice .hibernate ∧ CallsTwice .shutdown :=
  ⟨twice_after_two_priorities .sleep, twice_after_two_priorities .hibernate,
    twice_after_two_priorities .shutdown⟩

end PowerMgr.Clients.PriorityHolders
