import PowerMgr.Ulsr.Stage
import PowerMgr.Lib.System
import Mathlib.Logic.Function.Basic
import Mathlib.Data.List.Basic

/-! # The rounds of the ULSR callbacks

Embedding of `UlsrCallbackHolder` (`ulsr_callback_holder.cpp`) as `TriggerUlsrSyncCallback` and
`TriggerUlsrWakeupCallback` of the service call it.  `SyncUlsrNotify` opens a round, has a detached
thread call `OnSyncUlsr` of every callback and waits for it at most 30 s; `WakeupNotify` closes the
round and calls `OnAsyncWakeup` itself.  The thread outlives a wait that times out: it has a budget
of 30 s of its own, which only the time spent in callbacks uses up.

* `State`, `next` — the containers, the stage, the wait, the threads, and what was called so far;
* `WellOrdered` — rounds alternate, callbacks are called in order of priority and at most once, and
  no `OnSyncUlsr` of a round is called after its wakeup round;
* `rounds_wellOrdered` — the runs in which this holds.

The service holds `ulsrMutex_` during a call and the holder `callbacksMutex_`, so nothing but the
notify threads runs while a call waits.  The order of the callbacks of one container, an unordered
map, is left open.
-/

namespace PowerMgr.Ulsr.Rounds

def ulsrSyncCallbackTimeoutMs : Nat := 30000

abbrev Callback := Nat

/-- `UlsrPriority`; each value has a container of its own. -/
inductive UlsrPriority where
  | high
  | default
  | low
  deriving DecidableEq, Repr

/-- The place of a container in `ForEachContainer`. -/
def UlsrPriority.rank : UlsrPriority → Nat
  | .high => 0
  | .default => 1
  | .low => 2

/-- The container after this one in `ForEachContainer`. -/
def UlsrPriority.next? : UlsrPriority → Option UlsrPriority
  | .high => some .default
  | .default => some .low
  | .low => none

/-- What the holder has done: opened and closed rounds, and called callbacks in them. -/
inductive Entry where
  | syncRound (round : Nat)
  | onSyncUlsr (round : Nat) (priority : UlsrPriority) (callback : Callback)
  | wakeupRound (round : Nat)
  | onAsyncWakeup (round : Nat) (priority : UlsrPriority) (callback : Callback)
  deriving DecidableEq, Repr

/-- The place a notify thread has reached in `SyncUlsrNotifyInner`. -/
inductive Place where
  | idle
  -- detached, but not scheduled yet
  | notStarted
  -- at the head of the loop over a container, some callbacks of which were visited
  | visiting (priority : UlsrPriority) (visited : List Callback)
  -- in `OnSyncUlsr` of the callback visited last, since `begin`
  | calling (priority : UlsrPriority) (visited : List Callback) (begin : Nat)
  | ended
  deriving DecidableEq, Repr

def Place.container? : Place → Option UlsrPriority
  | .visiting priority _ | .calling priority _ _ => some priority
  | _ => none

/-- A notify thread.  It iterates without `callbacksMutex_`: once the container under its iterator
was changed, it may visit a callback again or miss one. -/
structure Thread where
  place : Place := .idle
  timeoutMs : Int := ulsrSyncCallbackTimeoutMs
  disturbed : Bool := false
  deriving DecidableEq, Repr

/-- `closed` counts the rounds that were closed; rounds, and their threads, are numbered from 0.
`waiting` is the time at which the `SyncUlsrNotify` under way began to wait. -/
structure State where
  stage : UlsrCallbackStage := .done
  containers : UlsrPriority → List Callback := fun _ => []
  now : Nat := 0
  waiting : Option Nat := none
  closed : Nat := 0
  threads : Nat → Thread := fun _ => {}
  log : List Entry := []

inductive Event where
  -- `none` is a value that is not one of the enumeration
  | addCallback (callback : Callback) (priority : Option UlsrPriority)
  -- `RemoveCallback`, or the death of the client
  | removeCallback (callback : Callback)
  -- `TriggerUlsrSyncCallback`, up to its wait
  | sync
  -- the wait ends
  | syncReturn
  -- `TriggerUlsrWakeupCallback`
  | wakeup
  | tick (ms : Nat)
  -- the notify thread of a round is scheduled
  | start (round : Nat)
  -- it calls `OnSyncUlsr` of a callback
  | call (round : Nat) (callback : Callback)
  -- that call returns
  | callReturn (round : Nat)
  -- it leaves a container
  | leave (round : Nat)
  deriving DecidableEq, Repr

/-! ## The functions of the holder -/

def State.setThread (s : State) (round : Nat) (thread : Thread) : State :=
  { s with threads := Function.update s.threads round thread }

def State.note (s : State) (entry : Entry) : State :=
  { s with log := s.log ++ [entry] }

/-- A container is changed, under the iterators of the threads that iterate over it. -/
def State.setContainer (s : State) (priority : UlsrPriority) (callbacks : List Callback) : State :=
  { s with
    containers := Function.update s.containers priority callbacks
    threads := fun round =>
      if (s.threads round).place.container? = some priority then { s.threads round with disturbed := true }
      else s.threads round }

/-- `UlsrCallbackHolder::AddCallback`. -/
def addCallback (callback : Callback) (priority : Option UlsrPriority) (s : State) : State :=
  if callback ∈ s.containers .high ∨ callback ∈ s.containers .default ∨ callback ∈ s.containers .low then s
  else
    match priority with
    | none => s
    | some priority => s.setContainer priority (callback :: s.containers priority)

def erase (callback : Callback) (s : State) (priority : UlsrPriority) : State :=
  if callback ∈ s.containers priority then
    s.setContainer priority ((s.containers priority).erase callback)
  else s

/-- `UlsrCallbackHolder::RemoveCallback`. -/
def removeCallback (callback : Callback) (s : State) : State :=
  [.high, .default, .low].foldl (erase callback) s

/-- `UlsrCallbackHolder::SyncUlsrNotify` up to its wait. -/
def syncUlsrNotify (s : State) : State :=
  let (stage, opened) := openRound s.stage
  if opened then
    ({ s with stage := stage, waiting := some s.now }.setThread s.closed { place := .notStarted }).note
      (.syncRound s.closed)
  else s

def wakeupCalls (s : State) : List Entry :=
  [UlsrPriority.high, .default, .low].flatMap fun priority =>
    (s.containers priority).map (.onAsyncWakeup s.closed priority)

/-- `UlsrCallbackHolder::WakeupNotify`. -/
def wakeupNotify (s : State) : State :=
  let (stage, closed) := closeRound s.stage
  if closed then
    { s with stage := stage, closed := s.closed + 1, log := s.log ++ .wakeupRound s.closed :: wakeupCalls s }
  else s

/-- The wait is over: the thread has ended, or 30 s have passed. -/
def waitOver (s : State) (begin : Nat) : Bool :=
  (s.threads s.closed).place = .ended || begin + ulsrSyncCallbackTimeoutMs ≤ s.now

/-- One step of `SyncUlsrNotifyInner`: call a callback of the container. -/
def call (round : Nat) (callback : Callback) (s : State) : Option State :=
  let thread := s.threads round
  match thread.place with
  | .visiting priority visited =>
    if 0 < thread.timeoutMs ∧ callback ∈ s.containers priority ∧ (callback ∉ visited ∨ thread.disturbed) then
      some ((s.setThread round { thread with place := .calling priority (callback :: visited) s.now }).note
        (.onSyncUlsr round priority callback))
    else none
  | _ => none

/-- The time a callback took is taken off the budget. -/
def callReturn (round : Nat) (s : State) : Option State :=
  let thread := s.threads round
  match thread.place with
  | .calling priority visited begin =>
    some (s.setThread round
      { thread with place := .visiting priority visited, timeoutMs := thread.timeoutMs - (s.now - begin) })
  | _ => none

/-- The loop over a container ends: its callbacks were visited or the budget is used up. -/
def leave (round : Nat) (s : State) : Option State :=
  let thread := s.threads round
  match thread.place with
  | .visiting priority visited =>
    if thread.timeoutMs ≤ 0 ∨ thread.disturbed ∨ ∀ callback ∈ s.containers priority, callback ∈ visited then
      match priority.next? with
      | some next => some (s.setThread round { thread with place := .visiting next [], disturbed := false })
      | none => some (s.setThread round { thread with place := .ended })
    else none
  | _ => none

/-- Calls of the service and of the holder are blocked while one waits. -/
def next (s : State) : Event → Option State
  | .addCallback callback priority => if s.waiting = none then some (addCallback callback priority s) else none
  | .removeCallback callback => if s.waiting = none then some (removeCallback callback s) else none
  | .sync => if s.waiting = none then some (syncUlsrNotify s) else none
  | .syncReturn =>
    match s.waiting with
    | some begin => if waitOver s begin then some { s with waiting := none } else none
    | none => none
  | .wakeup => if s.waiting = none then some (wakeupNotify s) else none
  | .tick ms => some { s with now := s.now + ms }
  | .start round =>
    if (s.threads round).place = .notStarted then
      some (s.setThread round { s.threads round with place := .visiting .high [], disturbed := false })
    else none
  | .call round callback => call round callback s
  | .callReturn round => callReturn round s
  | .leave round => leave round s

def system : Lib.System State Event where
  init s := s = {}
  next := next

/-! ## What is promised of the rounds -/

def Entry.isRound : Entry → Bool
  | .syncRound _ | .wakeupRound _ => true
  | _ => false

/-- The call of `OnSyncUlsr` in a round, if the entry is one. -/
def Entry.sync? (round : Nat) : Entry → Option (UlsrPriority × Callback)
  | .onSyncUlsr n priority callback => if n = round then some (priority, callback) else none
  | _ => none

/-- The call of `OnAsyncWakeup` in a round, if the entry is one. -/
def Entry.wakeup? (round : Nat) : Entry → Option (UlsrPriority × Callback)
  | .onAsyncWakeup n priority callback => if n = round then some (priority, callback) else none
  | _ => none

def State.syncCalls (s : State) (round : Nat) : List (UlsrPriority × Callback) :=
  s.log.filterMap (Entry.sync? round)

def State.asyncWakeups (s : State) (round : Nat) : List (UlsrPriority × Callback) :=
  s.log.filterMap (Entry.wakeup? round)

/-- High, default, low, and each callback at most once. -/
def InOrder (calls : List (UlsrPriority × Callback)) : Prop :=
  calls.Pairwise fun earlier later => earlier.1.rank ≤ later.1.rank ∧ earlier.2 ≠ later.2

/-- Each round that was closed, and the one that is open. -/
def alternating (closed : Nat) (stage : UlsrCallbackStage) : List Entry :=
  (List.range closed).flatMap (fun round => [.syncRound round, .wakeupRound round]) ++
    if stage = .enter then [.syncRound closed] else []

/-- No callback of a round is called once the wakeup round that closes it has begun. -/
def NoneLate (log : List Entry) : Prop :=
  log.Pairwise fun earlier later =>
    ∀ round priority callback, earlier = .wakeupRound round → later ≠ .onSyncUlsr round priority callback

def Exclusive (containers : UlsrPriority → List Callback) : Prop :=
  ∀ callback priority priority', callback ∈ containers priority → callback ∈ containers priority' →
    priority = priority'

structure WellOrdered (s : State) : Prop where
  alternate : s.log.filter Entry.isRound = alternating s.closed s.stage
  exclusive : Exclusive s.containers
  syncInOrder : ∀ round, InOrder (s.syncCalls round)
  wakeupInOrder : ∀ round, InOrder (s.asyncWakeups round)
  noneLate : NoneLate s.log

/-! ## The runs in which it holds -/

/-- The container a thread iterates over, and the callbacks it visited there. -/
def Place.position? : Place → Option (UlsrPriority × List Callback)
  | .visiting priority visited | .calling priority visited _ => some (priority, visited)
  | _ => none

/-- The thread has not ended and, counted up to now, its budget is not used up. -/
def Thread.HasTime (now : Nat) (thread : Thread) : Prop :=
  match thread.place with
  | .notStarted => True
  | .visiting _ _ => 0 < thread.timeoutMs
  | .calling _ _ begin => 0 < thread.timeoutMs - (now - begin)
  | .idle | .ended => False

/-- There are callbacks the thread has not come to. -/
def Thread.HasWork (containers : UlsrPriority → List Callback) (thread : Thread) : Prop :=
  ∃ priority, ∃ callback ∈ containers priority,
    ∀ position ∈ thread.place.position?,
      position.1.rank < priority.rank ∨ position.1 = priority ∧ callback ∉ position.2

def State.MayCall (s : State) (round : Nat) : Prop :=
  (s.threads round).HasTime s.now ∧ (s.threads round).HasWork s.containers

/-- The only thread with time left is one that has not started, of the round that is open. -/
def State.Quiet (s : State) : Prop :=
  ∀ round, (s.threads round).HasTime s.now → (s.threads round).place = .notStarted ∧ s.closed ≤ round

def State.Registered (s : State) (callback : Callback) : Prop :=
  ∃ priority, callback ∈ s.containers priority

/-- No round is closed while its thread may go on calling, and no container is changed under a
thread that iterates without the mutex. -/
def Careful (s : State) : Event → Prop
  | .addCallback callback priority => priority = none ∨ s.Registered callback ∨ s.Quiet
  | .removeCallback callback => ¬s.Registered callback ∨ s.Quiet
  | .wakeup => s.stage = .enter → ¬s.MayCall s.closed
  | _ => True

/-! ## The invariant -/

def State.Opened (s : State) (round : Nat) : Prop :=
  round < s.closed ∨ round = s.closed ∧ s.stage = .enter

/-- What a thread with time left knows: its container was not touched, and what it called so far is
where it was, in a container before its own or among the callbacks it visited. -/
def State.Follows (s : State) (round : Nat) (thread : Thread) : Prop :=
  thread.HasTime s.now → ∀ priority visited, thread.place.position? = some (priority, visited) →
    thread.disturbed = false ∧ ∀ call ∈ s.syncCalls round, call.1.rank ≤ priority.rank ∧
      (call.1 = priority → call.2 ∈ visited) ∧ ∀ priority', call.2 ∈ s.containers priority' → call.1 = priority'

structure Kept (s : State) : Prop extends WellOrdered s where
  nodup : ∀ priority, (s.containers priority).Nodup
  unopened : ∀ round, ¬s.Opened round → (s.threads round).place = .idle
  uncalled : ∀ round, (s.threads round).place = .idle ∨ (s.threads round).place = .notStarted →
    s.syncCalls round = []
  follows : ∀ round, s.Follows round (s.threads round)
  closedDone : ∀ round < s.closed, ¬s.MayCall round
  unclosed : ∀ round, s.closed ≤ round → s.asyncWakeups round = []

/-! ## Small facts -/

@[simp] theorem setThread_threads (s : State) (round : Nat) (thread : Thread) :
    (s.setThread round thread).threads = Function.update s.threads round thread := rfl

@[simp] theorem setContainer_place (s : State) (priority : UlsrPriority) (callbacks : List Callback) (round : Nat) :
    ((s.setContainer priority callbacks).threads round).place = (s.threads round).place := by
  simp only [State.setContainer]
  split <;> rfl

@[simp] theorem setContainer_hasTime (s : State) (priority : UlsrPriority) (callbacks : List Callback)
    (round now : Nat) :
    ((s.setContainer priority callbacks).threads round).HasTime now ↔ (s.threads round).HasTime now := by
  simp only [State.setContainer]
  split <;> rfl

theorem next?_rank {priority next : UlsrPriority} (h : priority.next? = some next) : priority.rank < next.rank := by
  cases priority <;> cases h <;> decide

/-- A budget that is not used up now was not used up before. -/
theorem Thread.HasTime.of_le {thread : Thread} {now now' : Nat} (h : thread.HasTime now') (hle : now ≤ now') :
    thread.HasTime now := by
  obtain ⟨place, timeoutMs, disturbed⟩ := thread
  cases place with
  | calling priority visited begin =>
    simp only [HasTime] at h ⊢
    omega
  | idle | notStarted | visiting | ended => exact h

theorem Place.position?_eq_none {place : Place} (h : place = .idle ∨ place = .notStarted) :
    place.position? = none := by
  obtain rfl | rfl := h
  · rfl
  · rfl

theorem inOrder_concat {calls : List (UlsrPriority × Callback)} {call : UlsrPriority × Callback} (h : InOrder calls)
    (hlater : ∀ earlier ∈ calls, earlier.1.rank ≤ call.1.rank ∧ earlier.2 ≠ call.2) :
    InOrder (calls ++ [call]) := by
  refine List.pairwise_append.mpr ⟨h, List.pairwise_singleton _ _, fun earlier hmem later hlast => ?_⟩
  cases List.mem_singleton.mp hlast
  exact hlater earlier hmem

/-- The calls of a wakeup round are in order, whatever the order inside the containers. -/
theorem inOrder_containers {containers : UlsrPriority → List Callback} (hexclusive : Exclusive containers)
    (hnodup : ∀ priority, (containers priority).Nodup) :
    InOrder ([UlsrPriority.high, .default, .low].flatMap fun priority =>
      (containers priority).map (Prod.mk priority)) := by
  refine List.pairwise_flatMap.mpr ⟨fun priority _ => ?_, ?_⟩
  · refine List.pairwise_map.mpr ((hnodup priority).imp fun hne => ⟨Nat.le_refl _, hne⟩)
  · have hacross : ∀ priority priority' : UlsrPriority, priority.rank < priority'.rank →
        ∀ call ∈ (containers priority).map (Prod.mk priority), ∀ call' ∈ (containers priority').map (Prod.mk priority'),
          call.1.rank ≤ call'.1.rank ∧ call.2 ≠ call'.2 := by
      intro priority priority' hlt call hcall call' hcall'
      obtain ⟨callback, hmem, rfl⟩ := List.mem_map.mp hcall
      obtain ⟨callback', hmem', rfl⟩ := List.mem_map.mp hcall'
      refine ⟨Nat.le_of_lt hlt, fun heq => ?_⟩
      cases show callback = callback' from heq
      cases hexclusive callback priority priority' hmem hmem'
      exact Nat.lt_irrefl _ hlt
    have hsorted : List.Pairwise (fun p p' : UlsrPriority => p.rank < p'.rank) [.high, .default, .low] := by
      decide
    exact hsorted.imp (hacross _ _)

/-- What is appended to the log does not spoil it if it holds no late call. -/
theorem noneLate_append {log entries : List Entry} (h : NoneLate log)
    (hentries : ∀ entry ∈ entries, ∀ round priority callback, entry ≠ .onSyncUlsr round priority callback) :
    NoneLate (log ++ entries) := by
  refine List.pairwise_append.mpr ⟨h, ?_, fun earlier _ later hlater round priority callback _ =>
    hentries later hlater round priority callback⟩
  exact List.pairwise_of_forall_mem_list fun earlier _ later hlater round priority callback _ =>
    hentries later hlater round priority callback

theorem noneLate_concat {log : List Entry} {round : Nat} {priority : UlsrPriority} {callback : Callback}
    (h : NoneLate log) (hopen : .wakeupRound round ∉ log) :
    NoneLate (log ++ [.onSyncUlsr round priority callback]) := by
  refine List.pairwise_append.mpr ⟨h, List.pairwise_singleton _ _, ?_⟩
  intro earlier hmem later hlater round' priority' callback' hearlier hcall
  cases List.mem_singleton.mp hlater
  cases hcall
  exact hopen (hearlier ▸ hmem)

theorem mem_alternating {closed round : Nat} {stage : UlsrCallbackStage}
    (h : .wakeupRound round ∈ alternating closed stage) : round < closed := by
  obtain hclosed | hopen := List.mem_append.mp h
  · obtain ⟨n, hn, hmem⟩ := List.mem_flatMap.mp hclosed
    obtain hsync | hmem := List.mem_cons.mp hmem
    · cases hsync
    · cases List.mem_singleton.mp hmem
      exact List.mem_range.mp hn
  · split at hopen
    · cases List.mem_singleton.mp hopen
    · exact absurd hopen List.not_mem_nil

theorem WellOrdered.wakeupRound_lt {s : State} (h : WellOrdered s) {round : Nat} (hmem : .wakeupRound round ∈ s.log) :
    round < s.closed := by
  have hround : .wakeupRound round ∈ alternating s.closed s.stage := by
    rw [← h.alternate]
    exact List.mem_filter.mpr ⟨hmem, rfl⟩
  exact mem_alternating hround

/-! ## One event keeps the invariant

The containers change only in `addCallback` and `removeCallback`, the threads only in their own
steps and in `syncUlsrNotify`, and every other entry is logged by `call`. -/

/-- A container is changed by something that keeps the containers apart, while all is quiet. -/
theorem Kept.setContainer {s : State} (h : Kept s) (hquiet : s.Quiet) {priority : UlsrPriority}
    {callbacks : List Callback} (hnodup : callbacks.Nodup)
    (hexclusive : Exclusive (s.setContainer priority callbacks).containers) :
    Kept (s.setContainer priority callbacks) where
  alternate := h.alternate
  exclusive := hexclusive
  syncInOrder := h.syncInOrder
  wakeupInOrder := h.wakeupInOrder
  noneLate := h.noneLate
  unclosed := h.unclosed
  nodup priority' := by
    by_cases heq : priority' = priority
    · subst heq
      simpa only [State.setContainer, Function.update_self] using hnodup
    · simpa only [State.setContainer, Function.update_of_ne heq] using h.nodup priority'
  unopened round hopened := by
    rw [setContainer_place]
    exact h.unopened round hopened
  uncalled round hplace := by
    rw [setContainer_place] at hplace
    exact h.uncalled round hplace
  follows round htime priority' visited hposition := by
    have hstill := (setContainer_hasTime s priority callbacks round s.now).mp htime
    rw [setContainer_place, (hquiet round hstill).1] at hposition
    cases hposition
  closedDone round hclosed hcalls := by
    have hstill := (setContainer_hasTime s priority callbacks round s.now).mp hcalls.1
    exact absurd hclosed (Nat.not_lt.mpr (hquiet round hstill).2)

theorem Kept.addCallback {s : State} (h : Kept s) {callback : Callback} {priority : Option UlsrPriority}
    (hcareful : Careful s (.addCallback callback priority)) : Kept (addCallback callback priority s) := by
  simp only [Rounds.addCallback]
  split
  · exact h
  · rename_i habsent
    have hnew : ∀ priority, callback ∉ s.containers priority := by
      intro priority hmem
      cases priority <;> simp only [hmem, true_or, or_true, not_true_eq_false] at habsent
    cases priority with
    | none => exact h
    | some priority =>
      obtain hnone | ⟨other, hmem⟩ | hquiet := hcareful
      · cases hnone
      · exact absurd hmem (hnew other)
      · refine h.setContainer hquiet (List.nodup_cons.mpr ⟨hnew priority, h.nodup priority⟩) ?_
        -- the new callback is in no other container, and the others stay where they are
        have hmem : ∀ callback' priority',
            callback' ∈ (s.setContainer priority (callback :: s.containers priority)).containers priority' →
            callback' = callback ∧ priority' = priority ∨ callback' ∈ s.containers priority' := by
          intro callback' priority' hmem
          by_cases heq : priority' = priority
          · subst heq
            simp only [State.setContainer, Function.update_self, List.mem_cons] at hmem
            exact hmem.imp (⟨·, rfl⟩) id
          · simp only [State.setContainer, Function.update_of_ne heq] at hmem
            exact .inr hmem
        intro callback' p p' hp hp'
        obtain ⟨rfl, rfl⟩ | hp := hmem callback' p hp
        · obtain ⟨-, rfl⟩ | hp' := hmem callback' p' hp'
          · rfl
          · exact absurd hp' (hnew p')
        · obtain ⟨heq, -⟩ | hp' := hmem callback' p' hp'
          · exact absurd (heq ▸ hp) (hnew p)
          · exact h.exclusive callback' p p' hp hp'

theorem Quiet.erase {s : State} (hquiet : s.Quiet) (callback : Callback) (priority : UlsrPriority) :
    (erase callback s priority).Quiet := by
  simp only [Rounds.erase]
  split
  · intro round htime
    rw [setContainer_place]
    exact hquiet round ((setContainer_hasTime s _ _ round s.now).mp htime)
  · exact hquiet

theorem Kept.erase {s : State} (h : Kept s) (hquiet : s.Quiet) (callback : Callback) (priority : UlsrPriority) :
    Kept (erase callback s priority) := by
  simp only [Rounds.erase]
  split
  · refine h.setContainer hquiet ((h.nodup priority).erase callback) ?_
    have hmem : ∀ callback' priority',
        callback' ∈ (s.setContainer priority ((s.containers priority).erase callback)).containers priority' →
        callback' ∈ s.containers priority' := by
      intro callback' priority' hmem
      by_cases heq : priority' = priority
      · subst heq
        simp only [State.setContainer, Function.update_self] at hmem
        exact List.mem_of_mem_erase hmem
      · simpa only [State.setContainer, Function.update_of_ne heq] using hmem
    intro callback' p p' hp hp'
    exact h.exclusive callback' p p' (hmem callback' p hp) (hmem callback' p' hp')
  · exact h

theorem erase_absent {s : State} {callback : Callback} (h : ¬s.Registered callback) (priority : UlsrPriority) :
    erase callback s priority = s :=
  if_neg fun hmem => h ⟨priority, hmem⟩

theorem Kept.removeCallback {s : State} (h : Kept s) {callback : Callback}
    (hcareful : Careful s (.removeCallback callback)) : Kept (removeCallback callback s) := by
  simp only [Rounds.removeCallback, List.foldl_cons, List.foldl_nil]
  obtain habsent | hquiet := hcareful
  · rw [erase_absent habsent, erase_absent habsent, erase_absent habsent]
    exact h
  · have hhigh := h.erase hquiet callback .high
    have hdefault := hhigh.erase (Quiet.erase hquiet callback .high) callback .default
    exact hdefault.erase (Quiet.erase (Quiet.erase hquiet callback .high) callback .default) callback .low

/-- What a thread knows depends on the clock, the containers and its own calls only. -/
theorem State.Follows.congr {s s' : State} {round : Nat} {thread : Thread} (h : s.Follows round thread)
    (hnow : s.now ≤ s'.now) (hcontainers : s'.containers = s.containers)
    (hcalls : s'.syncCalls round = s.syncCalls round) : s'.Follows round thread := by
  intro htime priority visited hposition
  rw [hcalls, hcontainers]
  exact h (htime.of_le hnow) priority visited hposition

theorem syncUlsrNotify_eq {s : State} (hstage : s.stage = .done) :
    syncUlsrNotify s =
      { s with
        stage := .enter
        waiting := some s.now
        threads := Function.update s.threads s.closed { place := .notStarted }
        log := s.log ++ [.syncRound s.closed] } := by
  rw [syncUlsrNotify, hstage]
  rfl

/-- The round that is opened is a new one: its thread has done nothing. -/
theorem Kept.syncUlsrNotify {s : State} (h : Kept s) : Kept (syncUlsrNotify s) := by
  cases hstage : s.stage with
  | enter =>
    simp only [Rounds.syncUlsrNotify, hstage, openRound_enter, Bool.false_eq_true, if_false]
    exact h
  | done =>
    rw [syncUlsrNotify_eq hstage]
    have hfresh : ¬s.Opened s.closed := by
      rintro (hlt | ⟨-, henter⟩)
      · exact Nat.lt_irrefl _ hlt
      · rw [hstage] at henter
        cases henter
    have hsync : ∀ round, (s.log ++ [Entry.syncRound s.closed]).filterMap (Entry.sync? round) = s.syncCalls round := by
      intro round
      rw [List.filterMap_append]
      exact List.append_nil _
    have hwakeup : ∀ round,
        (s.log ++ [Entry.syncRound s.closed]).filterMap (Entry.wakeup? round) = s.asyncWakeups round := by
      intro round
      rw [List.filterMap_append]
      exact List.append_nil _
    constructor
    · constructor
      · simp only [List.filter_append, h.alternate, hstage, alternating, reduceCtorEq, if_false, if_true,
          List.append_nil]
        rfl
      · exact h.exclusive
      · intro round
        rw [State.syncCalls, hsync round]
        exact h.syncInOrder round
      · intro round
        rw [State.asyncWakeups, hwakeup round]
        exact h.wakeupInOrder round
      · refine noneLate_append h.noneLate fun entry hmem round priority callback hcall => ?_
        cases List.mem_singleton.mp hmem
        cases hcall
    · exact h.nodup
    · intro round hopened
      have hne : round ≠ s.closed := fun heq => hopened (.inr ⟨heq, rfl⟩)
      simp only [Function.update_of_ne hne]
      exact h.unopened round fun hold => hopened (hold.imp_right fun hopen => absurd hopen.1 hne)
    · intro round hplace
      refine (hsync round).trans ?_
      by_cases heq : round = s.closed
      · rw [heq]
        exact h.uncalled s.closed (.inl (h.unopened s.closed hfresh))
      · simp only [Function.update_of_ne heq] at hplace
        exact h.uncalled round hplace
    · intro round
      by_cases heq : round = s.closed
      · intro _ priority visited hposition
        subst heq
        simp only [Function.update_self] at hposition
        cases hposition
      · simp only [Function.update_of_ne heq]
        exact (h.follows round).congr (Nat.le_refl _) rfl (hsync round)
    · intro round hlt
      have hne : round ≠ s.closed := Nat.ne_of_lt hlt
      simp only [State.MayCall, Function.update_of_ne hne]
      exact h.closedDone round hlt
    · intro round hle
      exact (hwakeup round).trans (h.unclosed round hle)

theorem wakeupNotify_eq {s : State} (hstage : s.stage = .enter) :
    wakeupNotify s =
      { s with
        stage := .done
        closed := s.closed + 1
        log := s.log ++ .wakeupRound s.closed :: wakeupCalls s } := by
  rw [wakeupNotify, hstage]
  rfl

theorem mem_wakeupCalls {s : State} {entry : Entry} (h : entry ∈ wakeupCalls s) :
    ∃ priority callback, entry = .onAsyncWakeup s.closed priority callback := by
  obtain ⟨priority, -, hmem⟩ := List.mem_flatMap.mp h
  obtain ⟨callback, -, rfl⟩ := List.mem_map.mp hmem
  exact ⟨priority, callback, rfl⟩

theorem filterMap_wakeupCalls (s : State) (round : Nat) :
    (wakeupCalls s).filterMap (Entry.wakeup? round) =
      if s.closed = round then
        [UlsrPriority.high, .default, .low].flatMap fun priority => (s.containers priority).map (Prod.mk priority)
      else [] := by
  rw [wakeupCalls, List.filterMap_flatMap]
  split
  · rename_i heq
    refine List.flatMap_congr fun priority _ => ?_
    rw [List.filterMap_map, ← List.filterMap_eq_map]
    refine List.filterMap_congr fun callback _ => ?_
    exact if_pos heq
  · rename_i hne
    refine List.flatMap_eq_nil_iff.mpr fun priority _ => ?_
    refine List.filterMap_eq_nil_iff.mpr fun entry hmem => ?_
    obtain ⟨callback, -, rfl⟩ := List.mem_map.mp hmem
    exact if_neg hne

theorem Kept.wakeupNotify {s : State} (h : Kept s) (hcareful : Careful s .wakeup) : Kept (wakeupNotify s) := by
  cases hstage : s.stage with
  | done =>
    simp only [Rounds.wakeupNotify, hstage, closeRound_done, Bool.false_eq_true, if_false]
    exact h
  | enter =>
    rw [wakeupNotify_eq hstage]
    have hsync : ∀ round, (s.log ++ .wakeupRound s.closed :: wakeupCalls s).filterMap (Entry.sync? round) =
        s.syncCalls round := by
      intro round
      rw [List.filterMap_append]
      refine (congrArg _ (List.filterMap_eq_nil_iff.mpr fun entry hmem => ?_)).trans (List.append_nil _)
      obtain rfl | hcall := List.mem_cons.mp hmem
      · rfl
      · obtain ⟨priority, callback, rfl⟩ := mem_wakeupCalls hcall
        rfl
    have hwakeup : ∀ round, (s.log ++ .wakeupRound s.closed :: wakeupCalls s).filterMap (Entry.wakeup? round) =
        s.asyncWakeups round ++ (wakeupCalls s).filterMap (Entry.wakeup? round) := by
      intro round
      rw [List.filterMap_append]
      rfl
    constructor
    · constructor
      · have hcalls : (wakeupCalls s).filter Entry.isRound = [] := by
          refine List.filter_eq_nil_iff.mpr fun entry hmem => ?_
          obtain ⟨priority, callback, rfl⟩ := mem_wakeupCalls hmem
          exact Bool.false_ne_true
        have hround : (Entry.wakeupRound s.closed).isRound = true := rfl
        simp only [List.filter_append, List.filter_cons_of_pos hround, hcalls, h.alternate, hstage, alternating,
          reduceCtorEq, if_false, if_true, List.append_nil, List.range_succ, List.flatMap_append, List.append_assoc]
        rfl
      · exact h.exclusive
      · intro round
        rw [State.syncCalls, hsync round]
        exact h.syncInOrder round
      · intro round
        rw [State.asyncWakeups, hwakeup round, filterMap_wakeupCalls]
        split
        · rename_i heq
          rw [h.unclosed round (Nat.le_of_eq heq), List.nil_append]
          exact inOrder_containers h.exclusive h.nodup
        · rw [List.append_nil]
          exact h.wakeupInOrder round
      · refine noneLate_append h.noneLate fun entry hmem round priority callback hlate => ?_
        obtain rfl | hcall := List.mem_cons.mp hmem
        · cases hlate
        · obtain ⟨priority', callback', rfl⟩ := mem_wakeupCalls hcall
          cases hlate
    · exact h.nodup
    · intro round hopened
      refine h.unopened round fun hold => hopened (.inl ?_)
      obtain hlt | ⟨heq, -⟩ := hold
      · exact Nat.lt_succ_of_lt hlt
      · exact heq ▸ Nat.lt_succ_self _
    · intro round hplace
      exact (hsync round).trans (h.uncalled round hplace)
    · intro round
      exact (h.follows round).congr (Nat.le_refl _) rfl (hsync round)
    · intro round hlt
      obtain hbefore | rfl := Nat.lt_succ_iff_lt_or_eq.mp hlt
      · exact h.closedDone round hbefore
      · exact hcareful hstage
    · intro round hle
      refine (hwakeup round).trans ?_
      rw [h.unclosed round (Nat.le_of_succ_le hle), filterMap_wakeupCalls, if_neg (Nat.ne_of_lt hle)]
      rfl

theorem Kept.tick {s : State} (h : Kept s) (ms : Nat) : Kept { s with now := s.now + ms } where
  toWellOrdered := ⟨h.alternate, h.exclusive, h.syncInOrder, h.wakeupInOrder, h.noneLate⟩
  nodup := h.nodup
  unopened := h.unopened
  uncalled := h.uncalled
  follows round := (h.follows round).congr (Nat.le_add_right s.now ms) rfl rfl
  closedDone round hlt hcalls := h.closedDone round hlt ⟨hcalls.1.of_le (Nat.le_add_right s.now ms), hcalls.2⟩
  unclosed := h.unclosed

/-- A thread that was started takes a step without a call: what it may call afterwards, it might
have called before. -/
theorem Kept.setThread {s : State} (h : Kept s) {round : Nat} {thread : Thread}
    (hopened : (s.threads round).place ≠ .idle)
    (hstarted : thread.place ≠ .idle ∧ thread.place ≠ .notStarted)
    (hfollows : s.Follows round thread)
    (hless : thread.HasTime s.now → thread.HasWork s.containers → s.MayCall round) :
    Kept (s.setThread round thread) where
  toWellOrdered := ⟨h.alternate, h.exclusive, h.syncInOrder, h.wakeupInOrder, h.noneLate⟩
  nodup := h.nodup
  unopened round' hopened' := by
    have hne : round' ≠ round := fun heq => hopened (heq ▸ h.unopened round' hopened')
    rw [setThread_threads, Function.update_of_ne hne]
    exact h.unopened round' hopened'
  uncalled round' hplace := by
    by_cases heq : round' = round
    · subst heq
      rw [setThread_threads, Function.update_self] at hplace
      exact absurd hplace (not_or.mpr hstarted)
    · rw [setThread_threads, Function.update_of_ne heq] at hplace
      exact h.uncalled round' hplace
  follows round' := by
    by_cases heq : round' = round
    · subst heq
      rw [setThread_threads, Function.update_self]
      exact hfollows
    · rw [setThread_threads, Function.update_of_ne heq]
      exact h.follows round'
  closedDone round' hlt hcalls := by
    by_cases heq : round' = round
    · subst heq
      simp only [State.MayCall, setThread_threads, Function.update_self] at hcalls
      exact h.closedDone round' hlt (hless hcalls.1 hcalls.2)
    · simp only [State.MayCall, setThread_threads, Function.update_of_ne heq] at hcalls
      exact h.closedDone round' hlt hcalls
  unclosed := h.unclosed

theorem Kept.start {s : State} (h : Kept s) {round : Nat} (hplace : (s.threads round).place = .notStarted) :
    Kept (s.setThread round { s.threads round with place := .visiting .high [], disturbed := false }) := by
  have hnone := h.uncalled round (.inr hplace)
  refine h.setThread (by rw [hplace]; exact nofun) ⟨nofun, nofun⟩ ?_ ?_
  · intro _ priority visited hposition
    cases hposition
    refine ⟨rfl, fun call hcall => ?_⟩
    rw [hnone] at hcall
    exact absurd hcall List.not_mem_nil
  · rintro - ⟨priority, callback, hmem, -⟩
    refine ⟨?_, priority, callback, hmem, fun position hposition => ?_⟩
    · rw [Thread.HasTime, hplace]
      trivial
    · rw [hplace] at hposition
      cases hposition

/-- The callback took its time, which counted before it returned. -/
theorem Kept.callReturn {s s' : State} (h : Kept s) {round : Nat} (hstep : callReturn round s = some s') :
    Kept s' := by
  simp only [Rounds.callReturn] at hstep
  split at hstep
  · rename_i priority visited begin hplace
    cases hstep
    have htime : (0 < (s.threads round).timeoutMs - (s.now - begin)) → (s.threads round).HasTime s.now := by
      intro hleft
      rw [Thread.HasTime, hplace]
      exact hleft
    refine h.setThread (by rw [hplace]; exact nofun) ⟨nofun, nofun⟩ ?_ ?_
    · intro hleft priority' visited' hposition
      exact h.follows round (htime hleft) priority' visited' (by rw [hplace]; exact hposition)
    · intro hleft hwork
      refine ⟨htime hleft, ?_⟩
      rw [Thread.HasWork, hplace]
      exact hwork
  · cases hstep

/-- A container is left with every callback in it visited, or no time for the next one. -/
theorem Kept.leave {s s' : State} (h : Kept s) {round : Nat} (hstep : leave round s = some s') : Kept s' := by
  simp only [Rounds.leave] at hstep
  split at hstep
  case h_2 => cases hstep
  rename_i priority visited hplace
  have hopened : (s.threads round).place ≠ .idle := by
    rw [hplace]
    exact nofun
  split at hstep
  case isFalse => cases hstep
  split at hstep
  · rename_i after hafter
    cases hstep
    have hrank := next?_rank hafter
    have htime : 0 < (s.threads round).timeoutMs → (s.threads round).HasTime s.now := by
      intro hleft
      rw [Thread.HasTime, hplace]
      exact hleft
    refine h.setThread hopened ⟨nofun, nofun⟩ ?_ ?_
    · intro hleft priority' visited' hposition
      cases hposition
      refine ⟨rfl, fun call hcall => ?_⟩
      obtain ⟨hle, -, hwhere⟩ := (h.follows round (htime hleft) priority visited (by rw [hplace]; rfl)).2 call hcall
      refine ⟨by omega, fun heq => ?_, hwhere⟩
      rw [heq] at hle
      omega
    · rintro hleft ⟨priority', callback, hmem, hahead⟩
      refine ⟨htime hleft, priority', callback, hmem, fun position hposition => .inl ?_⟩
      rw [hplace] at hposition
      cases hposition
      obtain hlater | ⟨rfl, -⟩ := hahead (after, []) rfl
      · exact Nat.lt_trans hrank hlater
      · exact hrank
  · cases hstep
    refine h.setThread hopened ⟨nofun, nofun⟩ (fun hleft => hleft.elim) (fun hleft => hleft.elim)

/-- What the log gains by a call in an open round: a callback that was not called before, from the
container the thread has reached. -/
theorem Kept.noteCall {s : State} (h : Kept s) {round : Nat} {priority : UlsrPriority} {callback : Callback}
    {visited : List Callback} (hopen : s.closed ≤ round)
    (hposition : (s.threads round).place.position? = some (priority, visited)) (hvisited : callback ∈ visited)
    (hmem : callback ∈ s.containers priority)
    (hlater : ∀ call ∈ s.syncCalls round, call.1.rank ≤ priority.rank ∧ call.2 ≠ callback) :
    Kept (s.note (.onSyncUlsr round priority callback)) := by
  have hsync : ∀ round', (s.note (.onSyncUlsr round priority callback)).syncCalls round' =
      s.syncCalls round' ++ if round = round' then [(priority, callback)] else [] := by
    intro round'
    rw [State.syncCalls, State.note, List.filterMap_append]
    refine congrArg _ ?_
    by_cases heq : round = round'
    · rw [if_pos heq]
      exact List.filterMap_cons_some (if_pos heq)
    · rw [if_neg heq]
      exact List.filterMap_cons_none (if_neg heq)
  have hwakeup : ∀ round', (s.note (.onSyncUlsr round priority callback)).asyncWakeups round' =
      s.asyncWakeups round' := by
    intro round'
    rw [State.asyncWakeups, State.note, List.filterMap_append]
    exact List.append_nil _
  constructor
  · constructor
    · have hcall : (Entry.onSyncUlsr round priority callback).isRound = false := rfl
      rw [State.note, List.filter_append, List.filter_cons, hcall, h.alternate]
      exact List.append_nil _
    · exact h.exclusive
    · intro round'
      rw [hsync round']
      split
      · rename_i heq
        subst heq
        exact inOrder_concat (h.syncInOrder round) hlater
      · rw [List.append_nil]
        exact h.syncInOrder round'
    · intro round'
      rw [hwakeup round']
      exact h.wakeupInOrder round'
    · refine noneLate_concat h.noneLate fun hclosed => ?_
      exact absurd (h.wakeupRound_lt hclosed) (Nat.not_lt.mpr hopen)
  · exact h.nodup
  · exact h.unopened
  · intro round' hplace
    rw [hsync round', h.uncalled round' hplace, List.nil_append]
    refine if_neg fun heq => ?_
    subst heq
    cases (Place.position?_eq_none hplace).symm.trans hposition
  · intro round' htime priority' visited' hposition'
    obtain ⟨hundisturbed, hcalls⟩ := h.follows round' htime priority' visited' hposition'
    refine ⟨hundisturbed, fun call hcall => ?_⟩
    rw [hsync round'] at hcall
    obtain hbefore | hlast := List.mem_append.mp hcall
    · exact hcalls call hbefore
    · obtain ⟨heq, hhere⟩ := List.mem_ite_nil_right.mp hlast
      subst heq
      cases List.mem_singleton.mp hhere
      cases hposition.symm.trans hposition'
      exact ⟨Nat.le_refl _, fun _ => hvisited, fun other hother => h.exclusive callback priority other hmem hother⟩
  · exact h.closedDone
  · intro round' hle
    exact (hwakeup round').trans (h.unclosed round' hle)

/-- The step that matters: the callback was not called in the round, and the round is open. -/
theorem Kept.call {s s' : State} (h : Kept s) {round : Nat} {callback : Callback}
    (hstep : call round callback s = some s') : Kept s' := by
  simp only [Rounds.call] at hstep
  split at hstep
  case h_2 => cases hstep
  rename_i priority visited hplace
  split at hstep
  case isFalse => cases hstep
  rename_i hcan
  obtain ⟨hleft, hmem, hunvisited⟩ := hcan
  have htime : (s.threads round).HasTime s.now := by
    rw [Thread.HasTime, hplace]
    exact hleft
  obtain ⟨hundisturbed, hcalls⟩ := h.follows round htime priority visited (by rw [hplace]; rfl)
  have hnew : callback ∉ visited := by
    rw [hundisturbed] at hunvisited
    exact hunvisited.resolve_right Bool.false_ne_true
  have hmay : s.MayCall round := by
    refine ⟨htime, priority, callback, hmem, fun position hposition => .inr ?_⟩
    rw [hplace] at hposition
    cases hposition
    exact ⟨rfl, hnew⟩
  have hopen : s.closed ≤ round := Nat.not_lt.mp fun hlt => h.closedDone round hlt hmay
  have hlater : ∀ earlier ∈ s.syncCalls round, earlier.1.rank ≤ priority.rank ∧ earlier.2 ≠ callback := by
    intro earlier hearlier
    obtain ⟨hle, hhere, hwhere⟩ := hcalls earlier hearlier
    refine ⟨hle, fun heq => hnew ?_⟩
    rw [← heq] at hmem ⊢
    exact hhere (hwhere priority hmem)
  cases hstep
  have hthread : Kept (s.setThread round
      { s.threads round with place := .calling priority (callback :: visited) s.now }) := by
    refine h.setThread (by rw [hplace]; exact nofun) ⟨nofun, nofun⟩ ?_ (fun _ _ => hmay)
    intro _ priority' visited' hposition
    cases hposition
    refine ⟨hundisturbed, fun earlier hearlier => ?_⟩
    obtain ⟨hle, hhere, hwhere⟩ := hcalls earlier hearlier
    exact ⟨hle, fun heq => List.mem_cons_of_mem _ (hhere heq), hwhere⟩
  have hvisited : callback ∈ callback :: visited := List.mem_cons_self
  refine hthread.noteCall hopen ?_ hvisited hmem hlater
  rw [setThread_threads, Function.update_self]
  rfl

theorem kept_step {s s' : State} {e : Event} (h : Kept s) (hcareful : Careful s e) (hnext : next s e = some s') :
    Kept s' := by
  cases e with
  | addCallback callback priority =>
    obtain ⟨-, hsome⟩ := Option.ite_none_right_eq_some.mp hnext
    cases hsome
    exact h.addCallback hcareful
  | removeCallback callback =>
    obtain ⟨-, hsome⟩ := Option.ite_none_right_eq_some.mp hnext
    cases hsome
    exact h.removeCallback hcareful
  | sync =>
    obtain ⟨-, hsome⟩ := Option.ite_none_right_eq_some.mp hnext
    cases hsome
    exact h.syncUlsrNotify
  | syncReturn =>
    simp only [next] at hnext
    split at hnext
    · obtain ⟨-, hsome⟩ := Option.ite_none_right_eq_some.mp hnext
      cases hsome
      exact ⟨⟨h.alternate, h.exclusive, h.syncInOrder, h.wakeupInOrder, h.noneLate⟩, h.nodup, h.unopened,
        h.uncalled, h.follows, h.closedDone, h.unclosed⟩
    · cases hnext
  | wakeup =>
    obtain ⟨-, hsome⟩ := Option.ite_none_right_eq_some.mp hnext
    cases hsome
    exact h.wakeupNotify hcareful
  | tick ms =>
    cases hnext
    exact h.tick ms
  | start round =>
    obtain ⟨hplace, hsome⟩ := Option.ite_none_right_eq_some.mp hnext
    cases hsome
    exact h.start hplace
  | call round callback => exact h.call hnext
  | callReturn round => exact h.callReturn hnext
  | leave round => exact h.leave hnext

theorem kept_init : Kept {} where
  toWellOrdered :=
    { alternate := rfl
      exclusive := fun _ _ _ hmem => absurd hmem List.not_mem_nil
      syncInOrder := fun _ => List.Pairwise.nil
      wakeupInOrder := fun _ => List.Pairwise.nil
      noneLate := List.Pairwise.nil }
  nodup _ := List.nodup_nil
  unopened _ _ := rfl
  uncalled _ _ := rfl
  follows _ htime := htime.elim
  closedDone _ hlt := absurd hlt (Nat.not_lt_zero _)
  unclosed _ _ := rfl

/-! ## The rounds -/

/-- In every careful run the rounds are well ordered. -/
theorem rounds_wellOrdered {s : State} (h : system.Reach Careful s) : WellOrdered s := by
  have hkept : Kept s := by
    refine h.invariant (I := Kept) ?_ ?_
    · intro s hs
      cases hs
      exact kept_init
    · intro s s' e hkept hcareful hnext
      exact kept_step hkept hcareful hnext
  exact hkept.toWellOrdered

/-- Two callbacks are called in time, and the round is closed. -/
theorem rounds_wellOrdered_two : ∃ s, WellOrdered s ∧
    s.log = [.syncRound 0, .onSyncUlsr 0 .high 1, .onSyncUlsr 0 .low 2,
      .wakeupRound 0, .onAsyncWakeup 0 .high 1, .onAsyncWakeup 0 .low 2] := by
  have hlow : system.Reach Careful {} := .init rfl
  have hhigh := hlow.step (Event.addCallback 2 (some .low)) (.inr (.inr fun _ htime => htime.elim)) rfl
  have hadded := hhigh.step (Event.addCallback 1 (some .high)) (.inr (.inr fun _ htime => htime.elim)) rfl
  have hsync := hadded.step Event.sync trivial rfl
  have hstart := hsync.step (Event.start 0) trivial rfl
  have hcall := hstart.step (Event.call 0 1) trivial rfl
  have htick := hcall.step (Event.tick 10) trivial rfl
  have hreturn := htick.step (Event.callReturn 0) trivial rfl
  have hleave := hreturn.step (Event.leave 0) trivial rfl
  have hleave' := hleave.step (Event.leave 0) trivial rfl
  have hcall' := hleave'.step (Event.call 0 2) trivial rfl
  have hreturn' := hcall'.step (Event.callReturn 0) trivial rfl
  have hended := hreturn'.step (Event.leave 0) trivial rfl
  have hwaited := hended.step Event.syncReturn trivial rfl
  have hclosed := hwaited.step Event.wakeup (fun _ hmay => hmay.1.elim) rfl
  exact ⟨_, rounds_wellOrdered hclosed, rfl⟩

/-- The thread starts 200 ms late and the first callback takes 29.9 s: when the wait has timed out
and the round is closed, the thread has 100 ms left and calls the second callback. -/
theorem rounds_disordered : ∃ s, system.Reachable s ∧ ¬WellOrdered s := by
  let run : List Event := [.addCallback 1 (some .high), .addCallback 2 (some .low), .sync, .tick 200, .start 0,
    .call 0 1, .tick 29900, .callReturn 0, .syncReturn, .wakeup, .leave 0, .leave 0, .call 0 2]
  obtain ⟨s, hrun⟩ := Option.isSome_iff_exists.mp (rfl : (system.run {} run).isSome = true)
  refine ⟨s, Lib.System.reachable_of_run run (.init rfl) hrun, fun hordered => ?_⟩
  have hlog : (system.run {} run).map State.log = some [.syncRound 0, .onSyncUlsr 0 .high 1, .wakeupRound 0,
      .onAsyncWakeup 0 .high 1, .onAsyncWakeup 0 .low 2, .onSyncUlsr 0 .low 2] := rfl
  rw [hrun, Option.map_some, Option.some.injEq] at hlog
  have hnone := hordered.noneLate
  rw [hlog] at hnone
  have hlater := (List.pairwise_cons.mp (List.pairwise_cons.mp (List.pairwise_cons.mp hnone).2).2).1
  exact hlater (.onSyncUlsr 0 .low 2) (by decide) 0 .low 2 rfl rfl

end PowerMgr.Ulsr.Rounds
